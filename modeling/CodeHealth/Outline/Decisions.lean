import CodeHealth.Pattern

/-!
# Decisions that several languages write alike

Each pattern occurs in a line where control may go two ways.
-/

namespace CodeHealth.Outline.Decision

open Pattern

/-- A `keyword`, white space that may be missing, and a parenthesis. -/
def condition (keyword : String) : Pattern := boundary ++ text keyword ++ spaces ++ text "("

/-- An `else` that is followed by another condition, in languages that write two words. -/
def elseIf : Pattern := boundary ++ text "else" ++ gap ++ text "if" ++ boundary

/-- A loop that tests its condition last: `do` and a brace. -/
def doBlock : Pattern := boundary ++ text "do" ++ spaces ++ text "\x7b"

/-- One `case` of a selection, up to its colon. -/
def case : Pattern := boundary ++ text "case" ++ gap ++ plus (noneOf ":") ++ text ":"

/-- A conjunction, `&&`. -/
def and : Pattern := text "&&"

/-- A disjunction, `||`. -/
def or : Pattern := text "||"

/-- A default for a missing value, `??`. -/
def coalesce : Pattern := text "??"

/-- A conditional expression: a question mark with a colon after it on the same line, and something
between them that is no colon (`noneOf`). -/
def ternary : Pattern := text "?" ++ spaces ++ plus (noneOf ":") ++ spaces ++ text ":"

/-- The decisions of languages with braces that start with a keyword, each a `condition` but for
three. -/
def conditionsAndLoops : List Pattern :=
  [condition "if", elseIf, condition "for", condition "while", doBlock, case, condition "catch"]

end CodeHealth.Outline.Decision
