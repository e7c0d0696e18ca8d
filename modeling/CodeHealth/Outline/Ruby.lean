import CodeHealth.Outline.Decisions
import CodeHealth.Outline.TypeScript

/-!
# Ruby

Methods start with `def` and end with `end`. A method of the class itself keeps `self.` in its name,
and a name with a leading underscore is private.
-/

namespace CodeHealth.Outline

open Pattern

/-- The blocks of Ruby, which `keywordLines` follows. -/
def rubyBlocks : KeywordBlocks where
  openers := ["def", "class", "module", "do", "begin"].map String.toList
  leadingOpeners := ["if", "unless", "while", "for", "until", "case"].map String.toList
  terminator := "end".toList
  comment := "#".toList

/-- The name of a method, with the mark it may end in: one of `?`, `!` and `=`. -/
def rubyName : Pattern := word ++ opt (oneOf "?!=")

/-- The profile of Ruby. A method is one that starts with `def`, and its body is told by
`rubyBlocks`. -/
def ruby : Profile where
  signature :=
    start ++ group 1 spaces ++ text "def" ++ gap ++ opt (group 2 (text "self.")) ++ group 3 rubyName
  functionName := fun found =>
    (found.text? 3).map fun name => ((found.text? 2).getD []) ++ name
  hides := fun name => name.head? == some '_'
  style := .keywords rubyBlocks
  keepsBodiless := true
  decisions :=
    ["if", "elsif", "unless", "for", "while", "until", "when", "rescue"].map whole ++
      [Decision.and, Decision.or]
  comment := some "#".toList
  importPatterns :=
    [text "require" ++ gap ++ quotedPath, text "require_relative" ++ gap ++ quotedPath]
  exported := start ++ spaces ++ text "def" ++ gap ++ opt (text "self.") ++ group 1 rubyName
  calls :=
    [boundary ++ word ++ opt (oneOf "?!") ++ text "(", text "." ++ word ++ opt (oneOf "?!")]
  entryPoints := ["initialize", "call", "to_s", "method_missing", "respond_to_missing?"]

end CodeHealth.Outline
