import CodeHealth.Outline.Decisions
import CodeHealth.Outline.Profile

/-!
# Java

A method is declared by a type, a name and a parenthesis. Methods of interfaces and abstract methods
have no body and are left out.
-/

namespace CodeHealth.Outline

open Pattern

/-- The profile of Java. A method is declared by a type and a name, so `reservedNames` keeps
statements out. -/
def java : Profile where
  signature :=
    plus (texts ["public", "private", "protected", "static"] ||| space) ++
      plus (wordChar ||| oneOf "<>[]") ++ gap ++ group 1 word ++ spaces ++ text "("
  functionName := fun found => found.text? 1
  hides := fun _ => false
  style := .braces
  keepsBodiless := false
  decisions := Decision.conditionsAndLoops ++ [Decision.and, Decision.or, Decision.ternary]
  comment := none
  importPatterns :=
    [start ++ text "import" ++ gap ++ opt (text "static" ++ gap) ++ group 1 (plus nonSpace) ++
      text ";"]
  exported :=
    text "public" ++ gap ++ opt (text "static" ++ gap) ++ opt (text "final" ++ gap) ++
      opt (plus (wordChar ||| oneOf "<>[]") ++ gap) ++ group 1 word ++ spaces ++ text "("
  calls := [boundary ++ word ++ text "("]
  entryPoints := ["main", "toString", "equals", "hashCode"]

end CodeHealth.Outline
