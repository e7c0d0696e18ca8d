import CodeHealth.Outline.Decisions
import CodeHealth.Outline.Profile

/-!
# TypeScript and JavaScript

A function is declared by `function`, as the value of a name that starts with a parenthesis, or as a
method with a body.
-/

namespace CodeHealth.Outline

open Pattern

/-- The quotes around the path of an import, of either kind: `quotedPath` does not ask for the same
one at both ends. -/
def quote : Pattern := oneOf "'\""

/-- A path between `quote`s, which is the first group. -/
def quotedPath : Pattern := quote ++ group 1 (plus (noneOf "'\"")) ++ quote

/-- A type after a colon, which may be missing: a single `word`. -/
def typeAnnotation : Pattern := opt (text ":" ++ spaces ++ word)

/-- The profile of TypeScript and JavaScript. Of the three forms of a declaration, the groups `1`,
`2` and `3` give the name. -/
def typeScript : Profile where
  signature :=
    (start ||| space) ++ opt (text "export" ++ gap) ++ opt (text "async" ++ gap) ++
      -- a declaration, a function that a name is given to, or a method
      (text "function" ++ gap ++ group 1 word |||
        (group 2 word ++ spaces ++ typeAnnotation ++ spaces ++ text "=" ++ spaces ++
          opt (text "async" ++ spaces) ++ text "(" |||
        group 3 word ++ spaces ++ text "(" ++ star (noneOf ")") ++ text ")" ++ spaces ++
          typeAnnotation ++ spaces ++ text "\x7b"))
  functionName := fun found => ([1, 2, 3].filterMap found.text?).find? fun name => !name.isEmpty
  hides := fun _ => false
  style := .braces
  keepsBodiless := true
  decisions :=
    Decision.conditionsAndLoops ++
      [Decision.and, Decision.or, Decision.coalesce, text "?." ++ wordChar]
  comment := none
  importPatterns :=
    [text "import" ++ gap ++ star any ++ gap ++ text "from" ++ gap ++ quotedPath,
      text "import" ++ gap ++ quotedPath,
      text "require" ++ spaces ++ text "(" ++ spaces ++ quotedPath ++ spaces ++ text ")"]
  exported :=
    text "export" ++ gap ++ opt (text "async" ++ gap) ++
      texts ["function", "const", "let", "var", "class"] ++ gap ++ group 1 word
  calls := [boundary ++ word ++ text "("]
  entryPoints := ["main", "constructor", "default", "handler"]

end CodeHealth.Outline
