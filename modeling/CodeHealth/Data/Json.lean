import CodeHealth.Data.Document
import CodeHealth.Decimal.Power
import CodeHealth.Decimal.Reading
import CodeHealth.Text.Class

/-!
# JSON

`Json.parse?` reads a text that holds one JSON value and nothing else but white space. The grammar
is followed strictly.

A number with a fraction or an exponent, or with too many digits for 64 bits, is a floating-point
number. It is rounded twice: its leading digits that fit 64 bits are rounded, and the result is
scaled by a power of ten.
-/

namespace CodeHealth.Json

open CodeHealth.Text

/-- Whether `c` is white space between tokens, which is less than `Text.isSpace`. -/
def isBlankChar (c : Char) : Bool := c == ' ' || c == '\t' || c == '\n' || c == '\r'

/-- The `text` after white space. -/
def skipBlanks (text : List Char) : List Char := text.dropWhile isBlankChar

/-! ### Numbers -/

/-- The largest natural number of 64 bits, up to which digits count for a number (`significant`). -/
def maxNatural : Nat := twoTo 64 - 1

/-- The value of a digit `c`. -/
def digitValue (c : Char) : Nat := c.toNat - '0'.toNat

/-- Reads digits into a number of at most 64 bits (`maxNatural`): the number of the digits that fit,
how many they are, and how many are left. -/
def significant (value taken : Nat) : List Char → Nat × Nat × Nat
  | [] => (value, taken, 0)
  | c :: rest =>
    let next := value * 10 + digitValue c
    if next ≤ maxNatural then significant next (taken + 1) rest
    else (value, taken, rest.length + 1)

/-- Ten to the power `n`, rounded. -/
def powerOfTen (n : Nat) : Float := Float.ofScientific 1 false n

/-- Scales a number by a power of ten, in steps of at most 308 places (`powerOfTen`). There is no
result when it is too large. -/
def scale : Nat → Float → Int → Option Float
  | 0, f, _ => some f
  | steps + 1, f, exponent =>
    if exponent.natAbs ≤ 308 then
      if 0 ≤ exponent then
        let g := f * powerOfTen exponent.natAbs
        if g.isInf then none else some g
      else some (f / powerOfTen exponent.natAbs)
    else if f == 0 then some f
    else if 0 ≤ exponent then none
    else scale steps (f / powerOfTen 308) (exponent + 308)

/-- A number as written, in its parts, before `document` decides what it is. -/
structure Numeral where
  /-- Whether there is a minus sign. -/
  negative : Bool
  /-- The digits before the point. -/
  whole : List Char
  /-- The digits after the point, if there is one. -/
  fraction : Option (List Char)
  /-- The sign and the digits of the exponent. -/
  exponent : Option (Bool × List Char)

namespace Numeral

/-- The number `n` as a floating-point number, when it is not too large. -/
def float? (n : Numeral) : Option Float := do
  let (value, _, dropped) := significant 0 0 n.whole
  let (value, shift) :=
    match n.fraction with
    | none => (value, (dropped : Int))
    | some digits =>
      let (value, taken, _) := significant value 0 digits
      -- Each digit of the fraction that counts moves the point by one place.
      (value, (dropped : Int) - taken)
  let magnitude ←
    match n.exponent with
    | none => scale 8 value.toUInt64.toFloat shift
    | some (down, digits) =>
      let power := numeral 10 digits
      -- An exponent that does not fit into a word decides alone.
      if twoTo 31 ≤ power then if value == 0 || down then some 0 else none
      else scale 8 value.toUInt64.toFloat (if down then shift - power else shift + power)
  return if n.negative then -magnitude else magnitude

/-- The value of a number `n`: an `integer` when it is written as one and fits 64 bits. Minus zero
is a floating-point number. -/
def document (n : Numeral) : Document :=
  let asFloat := (n.float?.map Document.float).getD .unrepresentable
  match n.fraction, n.exponent with
  | none, none =>
    let value := numeral 10 n.whole
    if !n.negative then if value ≤ maxNatural then .integer value else asFloat
    else if 0 < value ∧ value ≤ twoTo 63 then .integer (-value) else asFloat
  | _, _ => asFloat

end Numeral

/-- Reads digits from a `text`, at least one. -/
def digits? (text : List Char) : Option (List Char × List Char) :=
  match text.takeWhile isDigit with
  | [] => none
  | found => some (found, text.dropWhile isDigit)

/-- Reads the fraction of a number, if there is a point, as the digits behind it. `numeral?` asks
for it. -/
def fraction? : List Char → Option (Option (List Char) × List Char)
  | '.' :: rest => (digits? rest).map fun (found, rest) => (some found, rest)
  | text => some (none, text)

/-- Reads the exponent of a number, if there is an `e` or `E`. -/
def exponent? : List Char → Option (Option (Bool × List Char) × List Char)
  | c :: rest =>
    if c == 'e' || c == 'E' then
      let (down, rest) := match rest with
        | '-' :: rest => (true, rest)
        | '+' :: rest => (false, rest)
        | rest => (false, rest)
      (digits? rest).map fun (found, rest) => (some (down, found), rest)
    else some (none, c :: rest)
  | [] => some (none, [])

/-- Reads a number in its parts (`Numeral`). A zero is not followed by further digits. -/
def numeral? (text : List Char) : Option (Numeral × List Char) := do
  let (negative, text) := match text with
    | '-' :: rest => (true, rest)
    | text => (false, text)
  let (whole, text) ← digits? text
  if whole.head? == some '0' && 1 < whole.length then none
  else
    let (fraction, text) ← fraction? text
    let (exponent, text) ← exponent? text
    return (⟨negative, whole, fraction, exponent⟩, text)

/-! ### Strings -/

/-- The number of four hexadecimal digits at the start of a text, which stand behind `\u` in a
string. -/
def hexUnit? : List Char → Option (Nat × List Char)
  | a :: b :: c :: d :: rest =>
    if [a, b, c, d].all isHexDigit then
      some (numeral 16 [a, b, c, d], rest)
    else none
  | _ => none

/-- The character that an escape of one letter stands for, such as `n` for a line feed. -/
def escaped? : Char → Option Char
  | '"' => some '"'
  | '\\' => some '\\'
  | '/' => some '/'
  | 'b' => some '\x08'
  | 'f' => some '\x0c'
  | 'n' => some '\n'
  | 'r' => some '\r'
  | 't' => some '\t'
  | _ => none

/-- Whether a `unit` is the first half of a character outside the basic plane. -/
def isHighHalf (unit : Nat) : Bool := 0xD800 ≤ unit && unit ≤ 0xDBFF

/-- Whether a `unit` is the second half of a character outside the basic plane. -/
def isLowHalf (unit : Nat) : Bool := 0xDC00 ≤ unit && unit ≤ 0xDFFF

/-- Reads what follows the escape of a `unit`: the character, if the unit and what follows make one.
A second half right after a first one belongs to it. -/
def unitCharacter (unit : Nat) (rest : List Char) : Option Char × List Char :=
  if isHighHalf unit then
    match rest with
    | '\\' :: 'u' :: more =>
      match hexUnit? more with
      | some (low, more) =>
        if isLowHalf low then
          (some (Char.ofNat (0x10000 + (unit - 0xD800) * 0x400 + (low - 0xDC00))), more)
        -- A half without its other half stands for no character.
        else (none, rest)
      | none => (none, rest)
    | _ => (none, rest)
  else if isLowHalf unit then (none, rest)
  else (some (Char.ofNat unit), rest)

/-- Reads a string up to its closing quote. The characters seen so far are in reverse, or `none`
when one of them cannot be represented. -/
def stringFrom : Nat → Option (List Char) → List Char → Option (Option (List Char) × List Char)
  | 0, _, _ => none
  | _ + 1, _, [] => none
  | _ + 1, seen, '"' :: rest => some (seen.map List.reverse, rest)
  -- A lone half leaves the text well-formed, but not what it stands for.
  | fuel + 1, seen, '\\' :: 'u' :: rest => do
    let (unit, rest) ← hexUnit? rest
    let (c, rest) := unitCharacter unit rest
    stringFrom fuel (seen.bind fun seen => c.map (· :: seen)) rest
  | fuel + 1, seen, '\\' :: c :: rest => do
    let c ← escaped? c
    stringFrom fuel (seen.map (c :: ·)) rest
  | fuel + 1, seen, c :: rest =>
    if c.toNat < 0x20 || c == '\\' then none else stringFrom fuel (seen.map (c :: ·)) rest

/-- Reads a string from a `text` after its opening quote. -/
def string? (text : List Char) : Option (Option String × List Char) :=
  (stringFrom (text.length + 1) (some []) text).map fun (seen, rest) =>
    (seen.map String.ofList, rest)

/-! ### Values -/

/-- The `text` after a `word` that it has to start with. -/
def expect? (word : List Char) (text : List Char) : Option (List Char) :=
  if word.isPrefixOf text then some (text.drop word.length) else none

/-- The value of an object with these `entries`: a key that cannot be represented spoils all of
it. -/
def object (entries : List (Option String × Document)) : Document :=
  match entries.mapM fun e => e.1.map fun key => (key, e.2) with
  | some entries => .table entries
  | none => .unrepresentable

mutual

/-- Reads a value, where the fuel bounds the length of the text. `items?` and `members?` use it up
too. -/
def value? : Nat → List Char → Option (Document × List Char)
  | 0, _ => none
  | fuel + 1, text =>
    match skipBlanks text with
    | [] => none
    | '\x7b' :: rest =>
      match skipBlanks rest with
      | '\x7d' :: rest => some (.table [], rest)
      | rest => (members? fuel rest).map fun (entries, rest) => (object entries, rest)
    | '[' :: rest =>
      match skipBlanks rest with
      | ']' :: rest => some (.array [], rest)
      | rest => (items? fuel rest).map fun (items, rest) => (.array items, rest)
    | '"' :: rest =>
      (string? rest).map fun (s, rest) =>
        ((s.map Document.string).getD .unrepresentable, rest)
    | 'n' :: rest => (expect? "ull".toList rest).map (Document.null, ·)
    | 't' :: rest => (expect? "rue".toList rest).map (Document.bool true, ·)
    | 'f' :: rest => (expect? "alse".toList rest).map (Document.bool false, ·)
    -- What starts no other value has to be a number.
    | c :: rest => (numeral? (c :: rest)).map fun (n, rest) => (n.document, rest)

/-- Reads the items of an array by `value?`, and its closing bracket. -/
def items? : Nat → List Char → Option (List Document × List Char)
  | 0, _ => none
  | fuel + 1, text => do
    let (item, rest) ← value? fuel text
    match skipBlanks rest with
    | ',' :: rest => (items? fuel rest).map fun (items, rest) => (item :: items, rest)
    | ']' :: rest => some ([item], rest)
    | _ => none

/-- Reads the members of an object by `value?`, and its closing brace. -/
def members? : Nat → List Char → Option (List (Option String × Document) × List Char)
  | 0, _ => none
  | fuel + 1, text =>
    match skipBlanks text with
    | '"' :: rest => do
      let (key, rest) ← string? rest
      match skipBlanks rest with
      | ':' :: rest =>
        let (d, rest) ← value? fuel rest
        match skipBlanks rest with
        | ',' :: rest => (members? fuel rest).map fun (more, rest) => ((key, d) :: more, rest)
        | '\x7d' :: rest => some ([(key, d)], rest)
        | _ => none
      | _ => none
    | _ => none

end

/-- Reads a `text` that holds one value, and white space around it. -/
def parse? (text : List Char) : Option Document := do
  let (d, rest) ← value? (2 * text.length + 2) text
  if (skipBlanks rest).isEmpty then some d else none

end CodeHealth.Json
