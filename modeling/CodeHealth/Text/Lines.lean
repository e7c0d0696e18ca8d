import CodeHealth.Text.Class

/-!
# Lines and the blanks around them

Text is handled as a list of characters. A line ends at a line feed, together with one carriage
return directly before it; nothing else ends a line.

* `lines` cuts a text into its lines;
* `trimStart`, `trimEnd` and `trim` drop white space;
* `indentation` counts the blanks and tabs a line starts with.
-/

namespace CodeHealth.Text

/-- Drops one carriage return from the front, which is the end of a line that `linesFrom` keeps in
reverse. -/
def dropReturn : List Char → List Char
  | '\r' :: rest => rest
  | rest => rest

/-- The lines of a text, given the characters of the current line in reverse. A line feed ends a
line, and a carriage return before it is dropped (`dropReturn`). -/
def linesFrom : List Char → List Char → List (List Char)
  | [], [] => []
  | [], current => [current.reverse]
  | c :: rest, current =>
    if c = '\n' then (dropReturn current).reverse :: linesFrom rest []
    else linesFrom rest (c :: current)

/-- The lines of a `text` without their ends. A text that ends in a line feed has no empty line
after it. -/
def lines (text : List Char) : List (List Char) := linesFrom text []

/-- The `text` without the white space (`isSpace`) at the front. -/
def trimStart (text : List Char) : List Char := text.dropWhile isSpace

/-- The `text` without the white space (`isSpace`) at the end. -/
def trimEnd (text : List Char) : List Char := (text.reverse.dropWhile isSpace).reverse

/-- The `text` without the white space at either end. -/
def trim (text : List Char) : List Char := trimEnd (trimStart text)

/-- The `text` without the characters of the class `p` at the front. -/
def dropClass (p : Char → Bool) (text : List Char) : List Char := text.dropWhile p

/-- The `text` without the characters of the class `p` at either end. -/
def trimClass (p : Char → Bool) (text : List Char) : List Char :=
  ((text.dropWhile p).reverse.dropWhile p).reverse

/-- Whether a `line` has white space only. The empty line is one of these. -/
def isBlank (line : List Char) : Bool := line.all isSpace

/-- The number of blanks and tabs that a `line` starts with; a tab counts as one. -/
def indentation (line : List Char) : Nat :=
  (line.takeWhile fun c => c == ' ' || c == '\t').length

end CodeHealth.Text
