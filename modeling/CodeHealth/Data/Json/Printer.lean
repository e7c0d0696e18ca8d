import CodeHealth.Data.Document
import CodeHealth.Decimal.Shortest

/-!
# JSON on several lines

`Json.pretty` writes a document with every item and entry on a line of its own, two blanks deeper
than what it belongs to. Numbers that are infinite or undefined are written as null.
-/

namespace CodeHealth.Json

/-- The two lower hexadecimal digits of a number `n` below 256. -/
def hexPair (n : Nat) : List Char := (Nat.toDigits 16 (n + 256)).drop 1

/-- The character `c` inside a string. Quotes, backslashes and control characters are escaped. -/
def escaped (c : Char) : List Char :=
  if c == '"' then ['\\', '"']
  else if c == '\\' then ['\\', '\\']
  else if c == '\n' then ['\\', 'n']
  else if c == '\r' then ['\\', 'r']
  else if c == '\t' then ['\\', 't']
  else if c.toNat == 8 then ['\\', 'b']
  else if c.toNat == 12 then ['\\', 'f']
  else if c.toNat < 32 then ['\\', 'u', '0', '0'] ++ hexPair c.toNat
  else [c]

/-- The string `s` with its quotes, its characters `escaped`. -/
def quoted (s : String) : List Char := ['"'] ++ s.toList.flatMap escaped ++ ['"']

/-- The floating-point number `x` in its fewest digits (`Decimal.shortest`), or null. -/
def floatText (x : Float) : List Char :=
  if x.isNaN || x.isInf then "null".toList else Decimal.shortest x

/-- The integer `n` in decimal digits. -/
def integerText (n : Int) : List Char :=
  (if n < 0 then ['-'] else []) ++ Nat.toDigits 10 n.natAbs

/-- The start of a line at a `depth`. -/
def newLine (depth : Nat) : List Char := '\n' :: List.replicate (2 * depth) ' '

/-- Texts of items between brackets, on lines one deeper than `depth`. -/
def bracketed (depth : Nat) (opening closing : Char) : List (List Char) → List Char
  | [] => [opening, closing]
  | texts =>
    let lines := texts.map fun t => newLine (depth + 1) ++ t
    [opening] ++ [','].intercalate lines ++ newLine depth ++ [closing]

mutual

/-- A document that stands at a `depth`. -/
def prettyAt (depth : Nat) : Document → List Char
  | .null => "null".toList
  | .bool value => (if value then "true" else "false").toList
  | .integer value => integerText value
  | .float value => floatText value
  | .string value => quoted value
  | .moment => "null".toList
  | .unrepresentable => "null".toList
  | .array items => bracketed depth '[' ']' (prettyItems (depth + 1) items)
  | .table entries => bracketed depth '\x7b' '\x7d' (prettyEntries (depth + 1) entries)

/-- The items of an array that stand at a `depth`. -/
def prettyItems (depth : Nat) : List Document → List (List Char)
  | [] => []
  | first :: rest => prettyAt depth first :: prettyItems depth rest

/-- The entries of a table that stand at a `depth`. -/
def prettyEntries (depth : Nat) : List (String × Document) → List (List Char)
  | [] => []
  | (key, value) :: rest =>
    (quoted key ++ [':', ' '] ++ prettyAt depth value) :: prettyEntries depth rest

end

/-- The document `d` on several lines. -/
def pretty (d : Document) : List Char := prettyAt 0 d

end CodeHealth.Json
