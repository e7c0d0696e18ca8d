import CodeHealth.Decimal.Binary

/-!
# A fixed number of places

`Decimal.fixed` writes a number with a fixed number of places after the point. The exact value is
rounded to the nearest, and a tie goes to the even neighbour.
-/

namespace CodeHealth.Decimal

/-- The integer nearest to `top / bottom`, and the even one of two that are equally near. -/
def roundEven (top bottom : Nat) : Nat :=
  let below := top / bottom
  let twice := 2 * (top % bottom)
  if twice < bottom || (twice == bottom && below % 2 == 0) then below else below + 1

/-- The decimal digits of `n` with a point before the last `places` of them, and zeros in front as
far as these are needed. -/
def pointed (places n : Nat) : List Char :=
  let digits := Nat.toDigits 10 n
  let padded := List.replicate (places + 1 - digits.length) '0' ++ digits
  let before := padded.length - places
  padded.take before ++ (if places == 0 then [] else '.' :: padded.drop before)

/-- The number `x` with a fixed number of `places`, one at least. The exact value is rounded by
`roundEven`. -/
def fixed (places : Nat) (x : Float) : List Char :=
  if x.isNaN then "NaN".toList
  else
    let sign := if isNegative x then ['-'] else []
    if x.isInf then sign ++ "inf".toList
    else
      let b := Binary.ofFloat x
      sign ++ pointed places (roundEven (b.numerator * tenTo places) b.denominator)

end CodeHealth.Decimal
