/-
  TypeSplit.Number.Rounding — quotients rounded to a whole number, and the digits in front of a point.
-/

namespace TypeSplit.Number

/-- The whole number nearest to a quotient; a half goes to the even neighbour. -/
def roundDiv (num den : Nat) : Nat :=
  let quotient := num / den
  let twice := 2 * (num % den)
  if twice < den then quotient
  else if den < twice then quotient + 1
  else quotient + quotient % 2

def digitCount (n : Nat) : Nat := (Nat.toDigits 10 n).length

/-- The greatest power of ten that does not exceed a positive quotient. -/
def leadingPower (num den : Nat) : Int :=
  if den ≤ num then (digitCount (num / den) : Int) - 1
  else
    let places := digitCount (den / num)
    if den ≤ num * Nat.pow 10 (places - 1) then -((places : Int) - 1) else -(places : Int)

def timesPower (base : Nat) (num den : Nat) (power : Int) : Nat × Nat :=
  (num * base.pow power.toNat, den * base.pow (-power).toNat)

end TypeSplit.Number
