import CodeHealth.Text.Property.Alphabetic
import CodeHealth.Text.Property.Decimal
import CodeHealth.Text.Property.Mark
import CodeHealth.Text.Property.Numeric
import CodeHealth.Text.Property.Recent
import CodeHealth.Text.Property.Uppercase

/-!
# Classes of characters

The classes the analyses decide by, over the whole of Unicode.

* `isSpace` is the property White_Space;
* `isAlphanumeric` is Alphabetic or a number of any category, and `isIdentifier` adds `_`;
* `isWord` is the word class of patterns: letters, marks, decimal digits, connectors and joiners.

`isIdentifier` and `isWord` differ: a superscript two is only in the first, a combining accent
only in the second. Patterns know the characters of version 16 of Unicode, so that those of
`isRecent` are no word characters.
-/

namespace CodeHealth.Text

/-- The Unicode property White_Space, which `isSpace` looks up. -/
def spaceRanges : List (Nat × Nat) := [
  (0x9, 0xD), (0x20, 0x20), (0x85, 0x85), (0xA0, 0xA0), (0x1680, 0x1680), (0x2000, 0x200A),
  (0x2028, 0x2029), (0x202F, 0x202F), (0x205F, 0x205F), (0x3000, 0x3000)]

/-- The Unicode category of connector punctuation, the underscore among it. It is a part of
`isWord`. -/
def connectorRanges : List (Nat × Nat) := [
  (0x5F, 0x5F), (0x203F, 0x2040), (0x2054, 0x2054), (0xFE33, 0xFE34), (0xFE4D, 0xFE4F),
  (0xFF3F, 0xFF3F)]

/-- The two characters that control joining. They are a part of `isWord`. -/
def joinerRanges : List (Nat × Nat) := [(0x200C, 0x200D)]

/-- Whether `c` is white space, of any kind that Unicode has. -/
def isSpace (c : Char) : Bool := inRanges spaceRanges c.toNat

/-- Whether `c` is a letter, or anything else with the property Alphabetic (`alphabeticRanges`). -/
def isAlphabetic (c : Char) : Bool := inRanges alphabeticRanges c.toNat

/-- Whether `c` is a letter or a number of any kind (`numericRanges`). -/
def isAlphanumeric (c : Char) : Bool :=
  isAlphabetic c || inRanges numericRanges c.toNat

/-- Whether `c` is a character of an identifier: `isAlphanumeric` or an underscore. -/
def isIdentifier (c : Char) : Bool := isAlphanumeric c || c == '_'

/-- Whether `c` is a letter, mark or digit that is not yet in version 16 of Unicode. -/
def isRecent (c : Char) : Bool := inRanges recentRanges c.toNat

/-- Whether `c` is a word character of patterns. This differs from `isIdentifier`. -/
def isWord (c : Char) : Bool :=
  (isAlphabetic c || inRanges markRanges c.toNat || inRanges decimalRanges c.toNat ||
    inRanges connectorRanges c.toNat || inRanges joinerRanges c.toNat) && !isRecent c

/-- Whether `c` is an upper-case letter (`uppercaseRanges`). -/
def isUppercase (c : Char) : Bool := inRanges uppercaseRanges c.toNat

/-- Whether `c` is an ASCII decimal digit, from `0` to `9`. -/
def isDigit (c : Char) : Bool := '0' ≤ c && c ≤ '9'

/-- Whether `c` is an ASCII hexadecimal digit, in either case. -/
def isHexDigit (c : Char) : Bool :=
  isDigit c || ('a' ≤ c && c ≤ 'f') || ('A' ≤ c && c ≤ 'F')

/-- The small letter for an ASCII capital letter `c`; every other character as it is. -/
def asciiLower (c : Char) : Char :=
  if 'A' ≤ c && c ≤ 'Z' then Char.ofNat (c.toNat + 32) else c

/-- The value of a hexadecimal digit `c`, and zero for anything else. -/
def hexValue (c : Char) : Nat :=
  if isDigit c then c.toNat - 0x30
  else if 'a' ≤ c && c ≤ 'f' then c.toNat - 0x61 + 10
  else if 'A' ≤ c && c ≤ 'F' then c.toNat - 0x41 + 10
  else 0

/-- The number that `digits` write in a `base`, the most significant digit first. -/
def numeral (base : Nat) (digits : List Char) : Nat :=
  digits.foldl (fun n c => n * base + hexValue c) 0

/-- Reads one character that is among `marks`, and gives what comes after it. -/
def mark? (marks : List Char) : List Char → Option (List Char)
  | c :: rest => if marks.contains c then some rest else none
  | [] => none

end CodeHealth.Text
