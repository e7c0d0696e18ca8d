import CodeHealth.Outline.Profile

/-!
# Python

Functions start with `def` and their bodies are indented. A name with one leading underscore is
private.
-/

namespace CodeHealth.Outline

open Pattern

/-- Whether a name starts with one underscore only. `python` hides such names. -/
def isSingleUnderscored : List Char → Bool
  | '_' :: '_' :: _ => false
  | '_' :: _ => true
  | _ => false

/-- A `keyword` at the start of a line, white space aside. -/
def leading (keyword : String) : Pattern := start ++ spaces ++ text keyword ++ boundary

/-- The profile of Python. A function is one that starts with `def`, and its body is told by
indentation. -/
def python : Profile where
  signature :=
    start ++ group 1 spaces ++ opt (text "async" ++ gap) ++ text "def" ++ gap ++ group 2 word ++
      spaces ++ text "("
  functionName := fun found => found.text? 2
  hides := isSingleUnderscored
  style := .indentation
  keepsBodiless := true
  decisions :=
    [leading "if", leading "elif", leading "for", leading "while", leading "except",
      leading "with", whole "and", whole "or", whole "if" ++ plus any ++ whole "else"]
  comment := none
  importPatterns :=
    [start ++ text "import" ++ gap ++ group 1 (plus nonSpace),
      start ++ text "from" ++ gap ++ group 1 (plus nonSpace) ++ gap ++ text "import"]
  exported := start ++ text "def" ++ gap ++ group 1 word ++ spaces ++ text "("
  calls := [boundary ++ word ++ text "("]
  entryPoints := ["main", "__init__", "__main__", "setup", "teardown"]

end CodeHealth.Outline
