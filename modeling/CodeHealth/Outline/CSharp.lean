import CodeHealth.Outline.Decisions
import CodeHealth.Outline.Profile

/-!
# C#

A method is declared by a type, a name and a parenthesis, after any number of modifiers. Methods
without a body are left out.
-/

namespace CodeHealth.Outline

open Pattern

/-- The profile of C#. A method is declared by a type and a name, so `reservedNames` keeps
statements out. -/
def cSharp : Profile where
  signature :=
    plus (texts ["public", "private", "protected", "internal", "static", "async", "virtual",
        "override", "abstract"] ||| space) ++
      plus (wordChar ||| oneOf "<>[]?") ++ gap ++ group 1 word ++ spaces ++ text "("
  functionName := fun found => found.text? 1
  hides := fun _ => false
  style := .braces
  keepsBodiless := false
  decisions :=
    Decision.conditionsAndLoops ++
      [Decision.condition "foreach", Decision.condition "switch", Decision.and, Decision.or,
        Decision.coalesce, Decision.ternary]
  comment := none
  importPatterns :=
    [start ++ text "using" ++ gap ++ group 1 (plus nonSpace) ++ text ";",
      start ++ text "using" ++ gap ++ text "static" ++ gap ++ group 1 (plus nonSpace) ++ text ";"]
  exported :=
    text "public" ++ gap ++ opt (text "static" ++ gap) ++ opt (text "async" ++ gap) ++
      opt (text "virtual" ++ gap) ++ opt (text "override" ++ gap) ++
      opt (plus (wordChar ||| oneOf "<>[]?") ++ gap) ++ group 1 word ++ spaces ++ text "("
  calls := [boundary ++ word ++ text "(", text "." ++ word ++ text "("]
  entryPoints := ["Main"]

end CodeHealth.Outline
