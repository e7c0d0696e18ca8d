import CodeHealth.Outline.Decisions
import CodeHealth.Outline.TypeScript

/-!
# PHP

Functions and methods start with `function`, after any number of modifiers.
-/

namespace CodeHealth.Outline

open Pattern

/-- The profile of PHP. A function or method is one that has `function` before its name. -/
def php : Profile where
  signature :=
    star (texts ["public", "private", "protected", "static"] ||| space) ++ text "function" ++ gap ++
      group 1 word ++ spaces ++ text "("
  functionName := fun found => found.text? 1
  hides := fun _ => false
  style := .braces
  keepsBodiless := false
  decisions :=
    [Decision.condition "if", boundary ++ text "else" ++ spaces ++ text "if" ++ boundary,
      Decision.condition "elseif", Decision.condition "for", Decision.condition "foreach",
      Decision.condition "while", Decision.doBlock, Decision.case, Decision.condition "catch",
      Decision.and, Decision.or, Decision.ternary]
  comment := none
  importPatterns :=
    [start ++ text "use" ++ gap ++ group 1 (plus nonSpace) ++ text ";",
      text "require_once" ++ gap ++ quotedPath,
      text "include" ++ gap ++ quotedPath]
  exported := text "public" ++ gap ++ opt (text "static" ++ gap) ++ text "function" ++ gap ++
    group 1 word
  calls :=
    [boundary ++ word ++ text "(", text "->" ++ word ++ text "(", text "::" ++ word ++ text "("]
  entryPoints := ["__construct", "__invoke", "__toString", "handle"]

end CodeHealth.Outline
