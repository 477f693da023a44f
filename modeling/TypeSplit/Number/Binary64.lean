/-
  TypeSplit.Number.Binary64 — numbers of 64-bit binary floating point, held exactly.

  A finite number is a sign, a mantissa below 2^53 and an exponent from -1074 to 971. Arithmetic is
  exact on quotients of whole numbers and then rounded once, to the nearest number of the format with
  ties to the even mantissa; what is too large becomes infinite.
-/

import TypeSplit.Number.Rounding

namespace TypeSplit.Number

inductive Binary64 where
  | nan
  | infinite (negative : Bool)
  | finite (negative : Bool) (mantissa : Nat) (exponent : Int)
  deriving DecidableEq, Repr

namespace Binary64

def leastExponent : Int := -1074

def greatestExponent : Int := 971

def zero : Binary64 := .finite false 0 leastExponent

/-- The exponent that leaves 53 digits in front of the binary point of a positive quotient, or the least
exponent of the format. -/
def exponentOf (num den : Nat) : Int :=
  let guess := (num.log2 : Int) - den.log2 - 52
  let (n, d) := timesPower 2 num den (-(guess + 52))
  max (if n < d then guess - 1 else guess) leastExponent

/-- The number nearest to a quotient. -/
def ofRatio (negative : Bool) (num den : Nat) : Binary64 :=
  if num = 0 then .finite negative 0 leastExponent
  else
    let exponent := exponentOf num den
    let (n, d) := timesPower 2 num den (-exponent)
    let rounded := roundDiv n d
    let (mantissa, exponent) := if rounded = Nat.pow 2 53 then (Nat.pow 2 52, exponent + 1) else (rounded, exponent)
    if greatestExponent < exponent then .infinite negative else .finite negative mantissa exponent

/-- The number nearest to a whole number; it may be infinite. -/
def ofInt (n : Int) : Binary64 := ofRatio (n < 0) n.natAbs 1

/-- The number nearest to `digits` times a power of ten. -/
def ofDecimal (negative : Bool) (digits : Nat) (power : Int) : Binary64 :=
  let size := (digitCount digits : Int) + power
  if digits = 0 || size < -330 then .finite negative 0 leastExponent
  else if 310 < size then .infinite negative
  else
    let (n, d) := timesPower 10 digits 1 power
    ofRatio negative n d

def ratio (mantissa : Nat) (exponent : Int) : Nat × Nat := timesPower 2 mantissa 1 exponent

def isInfinite : Binary64 → Bool
  | .infinite _ => true
  | _ => false

def neg : Binary64 → Binary64
  | .nan => .nan
  | .infinite s => .infinite (!s)
  | .finite s m e => .finite (!s) m e

/-- The signed quotient of two whole numbers for a finite number. -/
def signed (negative : Bool) (mantissa : Nat) (exponent : Int) : Int × Nat :=
  let (n, d) := ratio mantissa exponent
  (if negative then -(n : Int) else n, d)

/-- The sum; zeros of both signs give the positive zero. -/
def add : Binary64 → Binary64 → Binary64
  | .nan, _ => .nan
  | _, .nan => .nan
  | .infinite a, .infinite b => if a = b then .infinite a else .nan
  | .infinite a, _ => .infinite a
  | _, .infinite b => .infinite b
  | .finite a m e, .finite b k f =>
    let (n, d) := signed a m e
    let (p, q) := signed b k f
    let sum := n * q + p * d
    if sum = 0 then .finite (a && b) 0 leastExponent else ofRatio (sum < 0) sum.natAbs (d * q)

def mul : Binary64 → Binary64 → Binary64
  | .nan, _ => .nan
  | _, .nan => .nan
  | .infinite a, .infinite b => .infinite (a != b)
  | .infinite a, .finite b m _ => if m = 0 then .nan else .infinite (a != b)
  | .finite b m _, .infinite a => if m = 0 then .nan else .infinite (a != b)
  | .finite a m e, .finite b k f =>
    let (n, d) := ratio m e
    let (p, q) := ratio k f
    ofRatio (a != b) (n * p) (d * q)

/-- Whether the first number is less than the second; a NaN is neither less nor greater. -/
def lt : Binary64 → Binary64 → Bool
  | .nan, _ => false
  | _, .nan => false
  | .infinite a, .infinite b => a && !b
  | .infinite a, .finite .. => a
  | .finite .., .infinite b => !b
  | .finite a m e, .finite b k f =>
    let (n, d) := signed a m e
    let (p, q) := signed b k f
    n * q < p * d

def isNonPositive : Binary64 → Bool
  | .nan => false
  | .infinite negative => negative
  | .finite negative mantissa _ => negative || mantissa == 0

/-- The 64 bits of the interchange format, sign first. -/
def toBits : Binary64 → Nat
  | .nan => 0x7FF8000000000000
  | .infinite negative => (if negative then Nat.pow 2 63 else 0) + 0x7FF0000000000000
  | .finite negative mantissa exponent =>
    (if negative then Nat.pow 2 63 else 0) +
      if mantissa < Nat.pow 2 52 then mantissa
      else (exponent + 1075).toNat * Nat.pow 2 52 + (mantissa - Nat.pow 2 52)

end Binary64

end TypeSplit.Number
