import CodeHealth.Decimal.Power

/-!
# Floating-point numbers as fractions

A finite floating-point number is a natural number times a power of two, with a sign. As a fraction
it takes part in exact arithmetic.
-/

namespace CodeHealth.Decimal

/-- The size of a finite floating-point number, `mantissa * 2 ^ exponent`. -/
structure Binary where
  /-- The whole number that is scaled. -/
  mantissa : Nat
  /-- The power of two that it is scaled by. -/
  exponent : Int
  /-- Whether the number below is only half as far away as the number above, as it is below a power
  of two. -/
  narrowBelow : Bool
  deriving DecidableEq, Repr

namespace Binary

/-- The size of a number `x` that is neither infinite nor undefined, from the bits of its format. -/
def ofFloat (x : Float) : Binary :=
  let bits : Nat := x.toBits.toNat
  let exponent : Nat := bits / twoTo 52 % twoTo 11
  let fraction : Nat := bits % twoTo 52
  if exponent == 0 then ⟨fraction, -1074, false⟩
  else ⟨twoTo 52 + fraction, Int.ofNat exponent - 1075, fraction == 0 && 1 < exponent⟩

/-- The numerator of the size `b` as a fraction. -/
def numerator (b : Binary) : Nat := b.mantissa * twoTo b.exponent.toNat

/-- The denominator of the size `b` as a fraction, a power of two. -/
def denominator (b : Binary) : Nat := twoTo (-b.exponent).toNat

end Binary

/-- Whether `x` is written with a minus sign, as its first bit tells. This includes the negative
zero. -/
def isNegative (x : Float) : Bool := x.toBits.toNat / twoTo 63 == 1

end CodeHealth.Decimal
