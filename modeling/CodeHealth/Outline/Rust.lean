import CodeHealth.Outline.Decisions
import CodeHealth.Outline.Profile

/-!
# Rust

Functions start with `fn`. Functions of traits that have no body are left out.
-/

namespace CodeHealth.Outline

open Pattern

/-- The profile of Rust. A function is one that starts with `fn`, public or not. -/
def rust : Profile where
  signature :=
    opt (text "pub" ++ opt (text "(" ++ star (noneOf ")") ++ text ")") ++ gap) ++
      opt (text "async" ++ gap) ++ text "fn" ++ gap ++ group 1 word
  functionName := fun found => found.text? 1
  hides := fun _ => false
  style := .braces
  keepsBodiless := false
  decisions :=
    [whole "if", Decision.elseIf, whole "for", whole "while", whole "loop", whole "match",
      text "=>" ++ spaces ++ text "\x7b", Decision.and, Decision.or, text "?;"]
  comment := none
  importPatterns :=
    [start ++ text "use" ++ gap ++ group 1 (plus nonSpace) ++ text ";",
      start ++ text "pub" ++ gap ++ text "use" ++ gap ++ group 1 (plus nonSpace) ++ text ";",
      start ++ text "extern" ++ gap ++ text "crate" ++ gap ++ group 1 word ++ text ";"]
  exported := start ++ text "pub" ++ gap ++ opt (text "async" ++ gap) ++ text "fn" ++ gap ++
    group 1 word
  calls := [boundary ++ word ++ text "("]
  entryPoints := ["main", "new", "default"]

end CodeHealth.Outline
