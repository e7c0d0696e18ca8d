/-!
# Powers

Powers of the two bases that numbers are written in.
-/

namespace CodeHealth

/-- Two to the power `n`. It stands for `2 ^ n` where the exponent is a number of bits. -/
def twoTo (n : Nat) : Nat := Nat.pow 2 n

/-- Ten to the power `n`. It stands for `10 ^ n` where the exponent is a number of digits. -/
def tenTo (n : Nat) : Nat := Nat.pow 10 n

end CodeHealth
