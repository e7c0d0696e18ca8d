import CodeHealth.Text.Class

/-!
# Decimals as floating-point numbers

* `Decimal.toFloat` gives the floating-point number that is nearest to a decimal;
* `Decimal.parse?` reads a number as a user may write it.
-/

namespace CodeHealth.Decimal

open CodeHealth.Text

/-- How many decimal digits `n` has. -/
def digitCount (n : Nat) : Nat := (Nat.toDigits 10 n).length

/-- The floating-point number nearest to `digits * 10 ^ exponent`. A decimal far outside the range
of such numbers is not scaled first. -/
def toFloat (digits : Nat) (exponent : Int) : Float :=
  let size := (digitCount digits : Int) + exponent
  if digits == 0 || size < -400 then 0
  else if 400 < size then 1 / 0
  else Float.ofScientific digits (exponent < 0) exponent.natAbs

/-- Reads an exponent that takes all of the text, after `e` or `E`; no text is no exponent. -/
def exponent? : List Char → Option Int
  | [] => some 0
  | c :: rest =>
    if c == 'e' || c == 'E' then
      let (negative, digits) := match rest with
        | '-' :: digits => (true, digits)
        | '+' :: digits => (false, digits)
        | digits => (false, digits)
      if digits.isEmpty || !digits.all isDigit then none
      else some (if negative then -(numeral 10 digits : Int) else numeral 10 digits)
    else none

/-- Reads a number without a sign: a word for a special one, or digits with a point and an exponent
(`exponent?`), either of which may be missing. -/
def unsigned? (text : List Char) : Option Float :=
  match String.ofList (text.map asciiLower) with
  | "inf" => some (1 / 0)
  | "infinity" => some (1 / 0)
  | "nan" => some (0 / 0)
  | _ =>
    let whole := text.takeWhile isDigit
    let rest := text.drop whole.length
    let fraction := match rest with
      | '.' :: more => more.takeWhile isDigit
      | _ => []
    let rest := match rest with
      | '.' :: more => more.drop fraction.length
      | rest => rest
    -- A point alone is no number.
    if whole.isEmpty && fraction.isEmpty then none
    else
      (exponent? rest).map fun e => toFloat (numeral 10 (whole ++ fraction)) (e - fraction.length)

/-- Reads a number with a sign that may be missing, and else as `unsigned?` does. -/
def parse? : List Char → Option Float
  | '-' :: rest => (unsigned? rest).map fun x => -x
  | '+' :: rest => unsigned? rest
  | text => unsigned? text

end CodeHealth.Decimal
