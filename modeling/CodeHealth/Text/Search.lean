import CodeHealth.Text.Class

/-!
# Searching in text

Plain search for one text in another, from the left.

* `breakOn` gives the text before and after the first occurrence;
* `occursIn`, `count`, `splitOn` and `replace` are what follows from it;
* `fields` cuts at white space.

Occurrences are counted and cut without overlap. The text searched for is not empty wherever
these functions are used.
-/

namespace CodeHealth.Text

/-- Whether `needle` starts at some position of `text`. -/
def occursIn (needle : List Char) : List Char → Bool
  | [] => needle.isEmpty
  | c :: rest => needle.isPrefixOf (c :: rest) || occursIn needle rest

/-- The text before the first occurrence of `needle` and the text after it, where `before` holds
what was passed so far, in reverse. -/
def breakFrom (needle : List Char) (before : List Char) :
    List Char → Option (List Char × List Char)
  | [] => if needle.isEmpty then some (before.reverse, []) else none
  | c :: rest =>
    if needle.isPrefixOf (c :: rest) then
      some (before.reverse, (c :: rest).drop needle.length)
    else breakFrom needle (c :: before) rest

/-- The text before the first occurrence of `needle` and the text after it. -/
def breakOn (needle text : List Char) : Option (List Char × List Char) :=
  breakFrom needle [] text

/-- Occurrences of `needle` without overlap, where the next `skip` characters belong to the last
one found. -/
def countFrom (needle : List Char) : Nat → List Char → Nat
  | _, [] => 0
  | skip + 1, _ :: rest => countFrom needle skip rest
  | 0, c :: rest =>
    if needle.isPrefixOf (c :: rest) then countFrom needle (needle.length - 1) rest + 1
    else countFrom needle 0 rest

/-- How often `needle` occurs in `text`, counted from the left without overlap. -/
def count (needle text : List Char) : Nat := countFrom needle 0 text

/-- The pieces between occurrences of `needle`, where the next `skip` characters belong to the last
one found and `piece` holds the current piece in reverse. -/
def splitFrom (needle : List Char) : Nat → List Char → List Char → List (List Char)
  | _, piece, [] => [piece.reverse]
  | skip + 1, piece, _ :: rest => splitFrom needle skip piece rest
  | 0, piece, c :: rest =>
    if needle.isPrefixOf (c :: rest) then
      piece.reverse :: splitFrom needle (needle.length - 1) [] rest
    else splitFrom needle 0 (c :: piece) rest

/-- The pieces of `text` between occurrences of `needle`; there is always one. -/
def splitOn (needle text : List Char) : List (List Char) := splitFrom needle 0 [] text

/-- The `text` with every occurrence of the character `old` replaced by `new`. -/
def replaceChar (old new : Char) (text : List Char) : List Char :=
  text.map fun c => if c = old then new else c

/-- The pieces between characters of the class `p`, empty pieces included, where `piece` holds the
current piece in reverse. -/
def splitClassFrom (p : Char → Bool) (piece : List Char) : List Char → List (List Char)
  | [] => [piece.reverse]
  | c :: rest =>
    if p c then piece.reverse :: splitClassFrom p [] rest else splitClassFrom p (c :: piece) rest

/-- The pieces of `text` between characters of the class `p`; there is always one. -/
def splitClass (p : Char → Bool) (text : List Char) : List (List Char) := splitClassFrom p [] text

/-- The pieces of `text` between stretches of white space (`isSpace`), none of them empty. -/
def fields (text : List Char) : List (List Char) :=
  (splitClass isSpace text).filter fun piece => !piece.isEmpty

/-- The part of `text` after the last occurrence of the character `c`, or all of it when there is
none. -/
def afterLast (c : Char) (text : List Char) : List Char :=
  (text.reverse.takeWhile (· ≠ c)).reverse

/-- The `text` without `start` at the front, when it starts so. -/
def stripStart (start text : List Char) : Option (List Char) :=
  if start.isPrefixOf text then some (text.drop start.length) else none

end CodeHealth.Text
