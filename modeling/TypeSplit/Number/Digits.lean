/-
  TypeSplit.Number.Digits — the decimal digits of a binary number.

  A positive number is written as a whole number of digits times a power of ten. `shortest` takes the
  fewest digits that read back as the same number, and of those the nearest; `significant` takes a given
  number of digits and `fixed` a given number of places, both correctly rounded.
-/

import TypeSplit.Number.Binary64

namespace TypeSplit.Number

/-- Digits without a sign, and the power of ten of the last of them. -/
structure Digits where
  value : Nat
  power : Int
  deriving DecidableEq, Repr

namespace Digits

def leading (d : Digits) : Int := d.power + digitCount d.value - 1

/-- A positive quotient to `count` digits. -/
def significant (count num den : Nat) : Digits :=
  let power := leadingPower num den - (count : Int) + 1
  let (n, d) := timesPower 10 num den (-power)
  let value := roundDiv n d
  if value = Nat.pow 10 count then ⟨value / 10, power + 1⟩ else ⟨value, power⟩

/-- The decimals of `count` digits next to a positive quotient, the nearer one first. -/
def neighbours (count num den : Nat) : List Digits :=
  let power := leadingPower num den - (count : Int) + 1
  let (n, d) := timesPower 10 num den (-power)
  let near := roundDiv n d
  let below := n / d
  let far := if near = below then below + 1 else below
  [⟨near, power⟩, ⟨far, power⟩]

/-- The fewest digits, from `count` on, that read back as the number. -/
def shortestFrom (mantissa : Nat) (exponent : Int) (count : Nat) : Nat → Digits
  | 0 => let (n, d) := Binary64.ratio mantissa exponent; significant 17 n d
  | tries + 1 =>
    let (n, d) := Binary64.ratio mantissa exponent
    match (neighbours count n d).find? fun c =>
        Binary64.ofDecimal false c.value c.power == .finite false mantissa exponent with
    | some c => c
    | none => shortestFrom mantissa exponent (count + 1) tries

def trim (d : Digits) : Digits :=
  go d.power (Nat.toDigits 10 d.value).reverse
where
  go (power : Int) : List Char → Digits
    | '0' :: rest => go (power + 1) rest
    | digits => ⟨digits.foldr (fun c n => n * 10 + (c.toNat - 48)) 0, power⟩

def shortest (mantissa : Nat) (exponent : Int) : Digits := trim (shortestFrom mantissa exponent 1 17)

/-- A quotient in units of `places` places behind the point. -/
def fixed (places num den : Nat) : Nat := roundDiv (num * Nat.pow 10 places) den

end Digits

end TypeSplit.Number
