import CodeHealth.Text.Lines
import CodeHealth.Text.Words

/-!
# The lines a function covers

Without a grammar, the body of a function is found by following lines from its declaration. There
are three styles of blocks.

* Braces: the body starts with the declaration and ends where as many braces are closed as opened.
  A declaration that ends in a semicolon before any brace has no body.
* Indentation: the body is what follows and is indented deeper than the declaration.
* Keywords: the body ends before the word that closes the block of the declaration.

A body that never ends runs to the end of the file. Every style looks only at the lines from the
declaration on, so `Style.extent` is a function of those.
-/

namespace CodeHealth.Outline

open CodeHealth.Text

/-- The words that delimit blocks in the keyword style, which `keywordLines` counts. -/
structure KeywordBlocks where
  /-- Words that open a block anywhere in a line. -/
  openers : List (List Char)
  /-- Words that open a block at the start of a line. -/
  leadingOpeners : List (List Char)
  /-- The word that closes the innermost block. -/
  terminator : List Char
  /-- What a comment line starts with. -/
  comment : List Char

/-- How a language delimits the bodies of functions: three ways to find an `Extent`. -/
inductive Style where
  | braces
  | indentation
  | keywords (blocks : KeywordBlocks)

/-- The lines of a body, counted from zero, `stop` excluded. -/
structure Span where
  /-- The first line of the body. -/
  start : Nat
  /-- The line after the last one of the body. -/
  stop : Nat
  /-- Whether the declaration has a body at all. -/
  hasBody : Bool
  deriving DecidableEq, Repr

/-- The lines of a body relative to its declaration: how many lines after it the body starts, and
how many after it the body has ended. A `Span` has the same with line numbers. -/
structure Extent where
  /-- How many lines after the declaration the body starts, none or one. -/
  start : Nat
  /-- How many lines after the declaration the body has ended. -/
  stop : Nat
  /-- Whether the declaration has a body at all. -/
  hasBody : Bool
  deriving DecidableEq, Repr

/-! ### Braces -/

/-- How many more braces a `line` opens than it closes. Braces in strings and comments count too. -/
def braceBalance (line : List Char) : Int :=
  (line.count '\x7b' : Int) - (line.count '\x7d' : Int)

/-- Whether a `line` ends in a semicolon, blanks aside. -/
def endsInSemicolon (line : List Char) : Bool := (trimEnd line).getLast? == some ';'

/-- Follows braces line by line, with the `depth` so far, whether a brace was `opened`, and the
number of lines `passed`. Gives the number of lines up to the end and whether there is a body. -/
def bracesFrom (depth : Int) (opened : Bool) (passed : Nat) : List (List Char) → Nat × Bool
  | [] => (passed, true)
  | line :: rest =>
    let depth := depth + braceBalance line
    let opened := opened || line.contains '\x7b'
    if opened && depth ≤ 0 then (passed + 1, true)
    else if !opened && endsInSemicolon line then (passed + 1, false)
    else bracesFrom depth opened (passed + 1) rest

/-! ### Indentation -/

/-- How many lines from here on belong to a body whose declaration is indented by `depth`. -/
def indentedLines (depth : Nat) (lines : List (List Char)) : Nat :=
  (lines.takeWhile fun line => isBlank line || depth < indentation line).length

/-! ### Keywords -/

namespace KeywordBlocks

/-- Whether a `line` without blanks around it closes a block. -/
def isTerminator (blocks : KeywordBlocks) (line : List Char) : Bool :=
  match stripStart blocks.terminator line with
  | some [] => true
  | some (c :: _) => c == ' ' || c == '#'
  | none => false

/-- Whether a `line` without blanks around it opens a block that it does not close itself. -/
def opensBlock (blocks : KeywordBlocks) (line : List Char) : Bool :=
  if blocks.openers.any (containsWord line) then !occursIn (' ' :: blocks.terminator) line
  else
    blocks.leadingOpeners.contains ((words line).headD []) &&
      !blocks.terminator.isSuffixOf line && !occursIn " then ".toList line

/-- Whether a `line` without blanks around it does not count for blocks: it is empty, or a
comment. -/
def isIgnored (blocks : KeywordBlocks) (line : List Char) : Bool :=
  line.isEmpty || blocks.comment.isPrefixOf line

end KeywordBlocks

/-- How many lines from here on belong to a body whose declaration is indented by `indent`, where
`depth` blocks are open. The terminator of the declaration stands no deeper than the declaration. -/
def keywordLines (blocks : KeywordBlocks) (indent : Nat) (depth : Int) : List (List Char) → Nat
  | [] => 0
  | line :: rest =>
    let trimmed := trim line
    if blocks.isIgnored trimmed then keywordLines blocks indent depth rest + 1
    else if blocks.isTerminator trimmed then
      if indentation line ≤ indent && depth - 1 ≤ 0 then 0
      else keywordLines blocks indent (depth - 1) rest + 1
    else if indent < indentation line && blocks.opensBlock trimmed then
      keywordLines blocks indent (depth + 1) rest + 1
    else keywordLines blocks indent depth rest + 1

/-! ### All styles -/

/-- The extent of the body of the function declared on the first of these lines, in a `style`. -/
def Style.extent (style : Style) : List (List Char) → Extent
  | [] => ⟨0, 0, true⟩
  | declaration :: rest =>
    match style with
    | .braces =>
      let (stop, hasBody) := bracesFrom 0 false 0 (declaration :: rest)
      ⟨0, stop, hasBody⟩
    | .indentation => ⟨1, 1 + indentedLines (Text.indentation declaration) rest, true⟩
    | .keywords blocks => ⟨1, 1 + keywordLines blocks (Text.indentation declaration) 1 rest, true⟩

/-- The span of the function declared on the line `start`, by its `Style.extent`. -/
def findSpan (style : Style) (lines : List (List Char)) (start : Nat) : Span :=
  let extent := style.extent (lines.drop start)
  ⟨start + extent.start, start + extent.stop, extent.hasBody⟩

/-- The lines of a `span`. -/
def Span.body (span : Span) (lines : List (List Char)) : List (List Char) :=
  (lines.drop span.start).take (span.stop - span.start)

end CodeHealth.Outline
