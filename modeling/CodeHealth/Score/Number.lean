/-!
# Numbers of scores

Scores are computed in floating-point arithmetic, but their rules make sense for any numbers with
the four operations, an order and rounding.
-/

namespace CodeHealth

/-- Numbers in which scores can be computed: those of `Float`, and exact ones in proofs. -/
class Number (α : Type) extends Add α, Sub α, Mul α, Div α where
  /-- A whole number. -/
  ofInt : Int → α
  /-- Whether one number is below another. -/
  less : α → α → Bool
  /-- The nearest whole number; a half goes away from zero. -/
  round : α → α

instance : Number Float where
  ofInt := Float.ofInt
  less a b := decide (a < b)
  round := Float.round

namespace Number

variable {α : Type} [Number α]

/-- The number `x`, or the `cap` if it is not below it. -/
def capped (cap x : α) : α := if less x cap then x else cap

/-- The number `x`, or the nearer end of the range from `low` to `high` if it lies outside. -/
def clamp (low high x : α) : α :=
  if less x low then low else if less high x then high else x

/-- The sum of the numbers `xs`, added up in order from zero: with `Float` the order makes a
difference. -/
def sum (xs : List α) : α := xs.foldl (· + ·) (ofInt 0)

/-- The number nearest to `x` with one decimal; a half goes away from zero. -/
def roundTenths (x : α) : α := round (x * ofInt 10) / ofInt 10

end Number

end CodeHealth
