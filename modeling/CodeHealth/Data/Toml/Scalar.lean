import CodeHealth.Data.Document
import CodeHealth.Decimal.Power
import CodeHealth.Decimal.Reading
import CodeHealth.Text.Class
import CodeHealth.Time.Instant

/-!
# Simple values of TOML

Readers take the text from a position on and give what they read with the text after it. A reader
for strings takes the text after the opening quotes.

* `Toml.basic?`, `Toml.literal?` and their forms for several lines read strings;
* `Toml.number?` reads integers and floating-point numbers;
* `Toml.moment?` reads dates and times.
-/

namespace CodeHealth.Toml

open CodeHealth.Text

/-- Whether `c` may stand in a comment or a string as it is. Control characters may not, but for the
tab. -/
def isPlain (c : Char) : Bool := c == '\t' || (0x20 ≤ c.toNat && c.toNat ≠ 0x7F)

/-- The text after a line end at its start, with a carriage return or without; `none` where no line
ends. -/
def newline? : List Char → Option (List Char)
  | '\n' :: rest => some rest
  | '\r' :: '\n' :: rest => some rest
  | _ => none

/-- The `text` after a line end, if it starts with one. -/
def skipNewline (text : List Char) : List Char := (newline? text).getD text

/-- Whether `c` is a space or a tab. -/
def isGap (c : Char) : Bool := c == ' ' || c == '\t'

/-- The `text` after spaces and tabs. -/
def skipGap (text : List Char) : List Char := text.dropWhile isGap

/-! ### Strings -/

/-- The character whose number is written in hexadecimal `digits`, if there is one. -/
def scalar? (digits : List Char) : Option Char :=
  let n := numeral 16 digits
  if digits.all isHexDigit && n.isValidChar then some (Char.ofNat n) else none

/-- A character of `count` hexadecimal digits at the start of a `text`. -/
def unicode? (count : Nat) (text : List Char) : Option (Char × List Char) :=
  let digits := text.take count
  if digits.length == count then (scalar? digits).map (·, text.drop count) else none

/-- The character that an escape stands for, after its backslash, and `none` for an escape that is
not known. -/
def escape? : List Char → Option (Char × List Char)
  | 'b' :: rest => some ('\x08', rest)
  | 't' :: rest => some ('\t', rest)
  | 'n' :: rest => some ('\n', rest)
  | 'f' :: rest => some ('\x0c', rest)
  | 'r' :: rest => some ('\r', rest)
  | '"' :: rest => some ('"', rest)
  | '\\' :: rest => some ('\\', rest)
  | 'u' :: rest => unicode? 4 rest
  | 'U' :: rest => unicode? 8 rest
  | _ => none

/-- Reads a string of one line, whose characters so far are in reverse, up to the closing quote.
Escapes are replaced (`escape?`). -/
def basicFrom : Nat → List Char → List Char → Option (List Char × List Char)
  | 0, _, _ => none
  | _ + 1, _, [] => none
  | _ + 1, seen, '"' :: rest => some (seen.reverse, rest)
  | fuel + 1, seen, '\\' :: rest => do
    let (c, rest) ← escape? rest
    basicFrom fuel (c :: seen) rest
  | fuel + 1, seen, c :: rest => if isPlain c then basicFrom fuel (c :: seen) rest else none

/-- A string of one line with escapes (`escape?`), after its opening quote. -/
def basic? (text : List Char) : Option (List Char × List Char) :=
  basicFrom (text.length + 1) [] text

/-- A string of one line without escapes, after its opening quote. Every character of it is
`isPlain`. -/
def literal? (text : List Char) : Option (List Char × List Char) :=
  let content := text.takeWhile fun c => isPlain c && c != '\''
  match text.drop content.length with
  | '\'' :: rest => some (content, rest)
  | _ => none

/-- The text after blanks and line ends, which `continuation?` passes over. -/
def skipLineEnds : List Char → List Char
  | '\r' :: '\n' :: rest => skipLineEnds rest
  | c :: rest => if isGap c || c == '\n' then skipLineEnds rest else c :: rest
  | [] => []

/-- The `text` after a backslash at the end of a line: blanks and line ends are passed over. -/
def continuation? (text : List Char) : Option (List Char) :=
  (newline? (skipGap text)).map skipLineEnds

/-- Reads a string of several lines between three times `quote`, whose characters so far are in
reverse. Up to two quotes before the closing ones belong to the string. -/
def multilineFrom (quote : Char) (escapes : Bool) :
    Nat → List Char → List Char → Option (List Char × List Char)
  | 0, _, _ => none
  | fuel + 1, seen, text =>
    let quotes := (text.takeWhile (· == quote)).length
    if 3 ≤ quotes then
      -- Up to two quotes may stand directly before the closing ones.
      let inner := min (quotes - 3) 2
      some ((List.replicate inner quote ++ seen).reverse, text.drop (inner + 3))
    else
      match newline? text, text with
      | some rest, _ => multilineFrom quote escapes fuel ('\n' :: seen) rest
      | none, [] => none
      | none, c :: rest =>
        if escapes && c == '\\' then
          match continuation? rest with
          | some rest => multilineFrom quote escapes fuel seen rest
          | none =>
            match escape? rest with
            | some (c, rest) => multilineFrom quote escapes fuel (c :: seen) rest
            | none => none
        else if isPlain c then multilineFrom quote escapes fuel (c :: seen) rest
        else none

/-- A string of several lines. A line end right after the opening quotes is passed over by
`skipNewline`. -/
def multiline? (quote : Char) (escapes : Bool) (text : List Char) :
    Option (List Char × List Char) :=
  multilineFrom quote escapes (text.length + 1) [] (skipNewline text)

/-- A string in any of its four forms: one line or several (`multilineFrom`), with escapes or
without. -/
def string? : List Char → Option (List Char × List Char)
  | '"' :: '"' :: '"' :: rest => multiline? '"' true rest
  | '"' :: rest => basic? rest
  | '\'' :: '\'' :: '\'' :: rest => multiline? '\'' false rest
  | '\'' :: rest => literal? rest
  | _ => none

/-! ### Numbers -/

/-- Reads digits of the class `p` after the first one. An underscore may stand between two
digits. -/
def digitsMore (p : Char → Bool) : List Char → List Char × List Char
  | '_' :: c :: rest =>
    if p c then
      let (more, rest) := digitsMore p rest
      (c :: more, rest)
    else ([], '_' :: c :: rest)
  | c :: rest =>
    if p c then
      let (more, rest) := digitsMore p rest
      (c :: more, rest)
    else ([], c :: rest)
  | [] => ([], [])

/-- Reads digits of the class `p`, at least one. -/
def digits? (p : Char → Bool) : List Char → Option (List Char × List Char)
  | c :: rest =>
    if p c then
      let (more, rest) := digitsMore p rest
      some (c :: more, rest)
    else none
  | [] => none

/-- Reads a sign that may be missing, and whether it is a minus (`true`). -/
def sign : List Char → Bool × List Char
  | '+' :: rest => (false, rest)
  | '-' :: rest => (true, rest)
  | text => (false, text)

/-- Reads the digits of a decimal integer: a zero stands alone. `float?` starts with them too. -/
def decimalDigits? : List Char → Option (List Char × List Char)
  | '0' :: rest => some (['0'], rest)
  | text => digits? isDigit text

/-- Reads an integer in a `base` with digits of the class `p`, after the mark of the base. -/
def based? (base : Nat) (p : Char → Bool) (text : List Char) : Option (Document × List Char) := do
  let (digits, rest) ← digits? p text
  let value := numeral base digits
  if value < twoTo 63 then some (.integer value, rest) else none

/-- Reads an integer of 64 bits, in any of the four bases, as a `Document`. Only a decimal one has a
sign. -/
def integer? : List Char → Option (Document × List Char)
  | '0' :: 'x' :: rest => based? 16 isHexDigit rest
  | '0' :: 'o' :: rest => based? 8 (fun c => '0' ≤ c && c ≤ '7') rest
  | '0' :: 'b' :: rest => based? 2 (fun c => c == '0' || c == '1') rest
  | text => do
    let (negative, text) := sign text
    let (digits, rest) ← decimalDigits? text
    let value : Int := numeral 10 digits
    let value := if negative then -value else value
    if -Int.ofNat (twoTo 63) ≤ value ∧ value < Int.ofNat (twoTo 63) then
      some (.integer value, rest)
    else none

/-- Reads an exponent, if there is an `e` or `E`. -/
def exponent? : List Char → Option (Option Int × List Char)
  | c :: rest =>
    if c == 'e' || c == 'E' then do
      let (negative, rest) := sign rest
      let (digits, rest) ← digits? isDigit rest
      let value : Int := numeral 10 digits
      some (some (if negative then -value else value), rest)
    else some (none, c :: rest)
  | [] => some (none, [])

/-- A word for a floating-point number that no digits write: `inf` or `nan`. -/
def special? : List Char → Option (Float × List Char)
  | 'i' :: 'n' :: 'f' :: rest => some (1 / 0, rest)
  | 'n' :: 'a' :: 'n' :: rest => some (0 / 0, rest)
  | _ => none

/-- Reads a floating-point number: an integer part with a fraction, an `exponent?` or both. One that
is too large is refused unless it is negative. -/
def float? (text : List Char) : Option (Document × List Char) := do
  let (negative, text) := sign text
  let signed (x : Float) : Float := if negative then -x else x
  match special? text with
  | some (x, rest) => some (.float (signed x), rest)
  | none =>
    let (whole, text) ← decimalDigits? text
    let (fraction, text) ← match text with
      | '.' :: rest => (digits? isDigit rest).map fun (digits, rest) => (some digits, rest)
      | text => some (none, text)
    let (exponent, rest) ← exponent? text
    -- Without both it is an integer.
    if fraction.isNone && exponent.isNone then none
    else
      let digits := fraction.getD []
      let x := signed (Decimal.toFloat (numeral 10 (whole ++ digits))
        (exponent.getD 0 - digits.length))
      if x == 1 / 0 then none else some (.float x, rest)

/-! ### Dates and times -/

/-- The `text` after a date, whose day is one of its month (`Instant.daysOfMonth`). -/
def date? (text : List Char) : Option (List Char) := do
  let (year, text) ← Instant.number? 4 0 9999 text
  let text ← mark? ['-'] text
  let (month, text) ← Instant.number? 2 1 12 text
  let text ← mark? ['-'] text
  let (_, text) ← Instant.number? 2 1 (Instant.daysOfMonth year month) text
  return text

/-- The `text` after a time of day, whose seconds may have a fraction. -/
def time? (text : List Char) : Option (List Char) := do
  let (_, text) ← Instant.number? 2 0 23 text
  let text ← mark? [':'] text
  let (_, text) ← Instant.number? 2 0 59 text
  let text ← mark? [':'] text
  let (_, text) ← Instant.number? 2 0 60 text
  match text with
  | '.' :: rest =>
    match rest.takeWhile isDigit with
    | [] => none
    | digits => some (rest.drop digits.length)
  | text => some text

/-- The `text` after hours and minutes, such as a distance to universal time. -/
def distance? (text : List Char) : Option (List Char) := do
  let (_, text) ← Instant.number? 2 0 23 text
  let text ← mark? [':'] text
  let (_, text) ← Instant.number? 2 0 59 text
  return text

/-- The text after the distance to universal time, if it is given: the letter `Z`, or hours and
minutes. -/
def offset? : List Char → Option (List Char)
  | 'Z' :: rest => some rest
  | 'z' :: rest => some rest
  | '+' :: rest => distance? rest
  | '-' :: rest => distance? rest
  | text => some text

/-- The `text` after a date, a time of day, or a date with a time after it. -/
def moment? (text : List Char) : Option (List Char) :=
  match date? text with
  | none => time? text
  | some rest =>
    match rest with
    | c :: more =>
      if c == 'T' || c == 't' || c == ' ' then
        match time? more with
        | some rest => offset? rest
        | none => some rest
      else some rest
    | [] => some []

/-- Reads a number or a moment (`moment?`), which starts with digits too and is tried first. -/
def number? (text : List Char) : Option (Document × List Char) :=
  match moment? text with
  | some rest => some (.moment, rest)
  | none => (float? text).or (integer? text)

end CodeHealth.Toml
