import CodeHealth.Decimal.Binary
import CodeHealth.Decimal.Reading

/-!
# The fewest digits that read back

A floating-point number stands for all reals that round to it. Of the decimals among them the one
with the fewest digits is written, and of several the nearest.

`Decimal.shortest` writes a finite number so.
-/

namespace CodeHealth.Decimal

/-- A decimal `digits * 10 ^ exponent`. -/
structure Scaled where
  /-- The digits as a whole number. -/
  digits : Nat
  /-- The power of ten that it is scaled by. -/
  exponent : Int
  deriving DecidableEq, Repr

namespace Binary

/-- Compares the decimal `d` with `n * 2 ^ power`, in whole numbers. -/
def compareScaled (d : Scaled) (n : Nat) (power : Int) : Ordering :=
  compare (d.digits * tenTo d.exponent.toNat * twoTo (-power).toNat)
    (n * twoTo power.toNat * tenTo (-d.exponent).toNat)

/-- Whether the decimal `d` rounds to the number `b`. The ends of the interval belong to even
mantissas. -/
def readsBack (b : Binary) (d : Scaled) : Bool :=
  let low := compareScaled d (4 * b.mantissa - if b.narrowBelow then 1 else 2) (b.exponent - 2)
  let high := compareScaled d (4 * b.mantissa + 2) (b.exponent - 2)
  let even := b.mantissa % 2 == 0
  (low == .gt || (even && low == .eq)) && (high == .lt || (even && high == .eq))

/-- How many digits the size `b` has before the point, or minus the zeros after the point in front
of its first digit. -/
def magnitude (b : Binary) : Int :=
  if b.denominator ≤ b.numerator then digitCount (b.numerator / b.denominator)
  else
    let zeros := (List.range 400).find? fun n => b.denominator ≤ b.numerator * tenTo (n + 1)
    0 - Int.ofNat (zeros.getD 0)

/-- The decimals next to the size `b` with a given `exponent`, the nearer first. -/
def neighbours (b : Binary) (exponent : Int) : List Scaled :=
  let top := b.numerator * tenTo (-exponent).toNat
  let bottom := b.denominator * tenTo exponent.toNat
  let below := top / bottom
  let rest := top % bottom
  let nearBelow := 2 * rest < bottom || (2 * rest == bottom && below % 2 == 0)
  if nearBelow then [⟨below, exponent⟩, ⟨below + 1, exponent⟩]
  else [⟨below + 1, exponent⟩, ⟨below, exponent⟩]

/-- The decimal with the fewest digits that rounds to the number `b` (`readsBack`), or its exact
value. -/
def shortest (b : Binary) : Scaled :=
  let found := (List.range 17).findSome? fun n =>
    (b.neighbours (b.magnitude - Int.ofNat (n + 1))).find? b.readsBack
  found.getD ⟨b.numerator * Nat.pow 5 (-b.exponent).toNat, min b.exponent 0⟩

end Binary

/-- A decimal without zeros at the end of its `digits`, as far as the fuel reaches. -/
def Scaled.stripped : Nat → Scaled → Scaled
  | 0, d => d
  | fuel + 1, d =>
    if d.digits != 0 && d.digits % 10 == 0 then
      Scaled.stripped fuel ⟨d.digits / 10, d.exponent + 1⟩
    else d

/-- The exponent `e` with its sign and at least two digits. -/
def exponentText (e : Int) : List Char :=
  let digits := Nat.toDigits 10 e.natAbs
  (if e < 0 then '-' else '+') :: (if digits.length < 2 then '0' :: digits else digits)

/-- Lays out `digits` whose first one stands at the power `e` of ten: with a point up to sixteen
digits before it and down to four zeros after it, and with an exponent otherwise. -/
def layout (digits : List Char) (e : Int) : List Char :=
  -- Numbers of a middling size are written without an exponent.
  if -5 ≤ e ∧ e < 16 then
    if e < 0 then '0' :: '.' :: List.replicate (-e - 1).toNat '0' ++ digits
    else
      let before := e.toNat + 1
      let whole := digits.take before ++ List.replicate (before - digits.length) '0'
      let fraction := digits.drop before
      whole ++ '.' :: (if fraction.isEmpty then ['0'] else fraction)
  else
    match digits with
    | [] => []
    | first :: rest =>
      first :: (if rest.isEmpty then [] else '.' :: rest) ++ 'e' :: exponentText e

/-- A finite number `x` in the fewest digits that read back. -/
def shortest (x : Float) : List Char :=
  let sign := if isNegative x then ['-'] else []
  let b := Binary.ofFloat x
  if b.mantissa == 0 then sign ++ ['0', '.', '0']
  else
    let d := b.shortest.stripped 400
    let digits := Nat.toDigits 10 d.digits
    sign ++ layout digits (d.exponent + digits.length - 1)

end CodeHealth.Decimal
