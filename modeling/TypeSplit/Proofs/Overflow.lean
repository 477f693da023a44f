/-
  TypeSplit.Proofs.Overflow — the whole numbers that are too long for text and too large for a binary number.

  A whole number is written in decimal up to a number of digits, and it is rounded to the nearest binary number unless that
  is infinite. Both limits are bounds on the absolute value: `lt_digitCount_iff` and `isInfinite_ofInt_iff`. The
  second one lies half a step below the power of two that comes after the greatest finite number, because that number has
  an odd mantissa and a tie goes to the even neighbour (`roundDiv_eq_succ_iff`).
-/

import TypeSplit.Number.Text
import Mathlib.Tactic.Ring

namespace TypeSplit.Number

theorem lt_digitCount_iff {n k : Nat} (hk : 0 < k) : k < digitCount n ↔ 10 ^ k ≤ n := by
  have := Nat.length_toDigits_le_iff (b := 10) (n := n) (by decide) hk
  rw [digitCount, ← Nat.not_le, this, Nat.not_lt]

/-- Up to the next multiple of the divisor, what is at most half of it below the multiple is rounded up to it, if
the quotient below is odd. -/
theorem roundDiv_eq_succ_iff {a h m : Nat} (hh : 0 < h) (hm : m % 2 = 1) (ha : a < (m + 1) * (2 * h)) :
    roundDiv a (2 * h) = m + 1 ↔ (m + 1) * (2 * h) ≤ a + h := by
  have hparts : 2 * h * (a / (2 * h)) + a % (2 * h) = a := Nat.div_add_mod a (2 * h)
  have hrest : a % (2 * h) < 2 * h := Nat.mod_lt _ (by omega)
  have hq : a / (2 * h) < m + 1 := by
    rwa [Nat.div_lt_iff_lt_mul (by omega)]
  unfold roundDiv
  generalize a / (2 * h) = q at *
  generalize a % (2 * h) = r at *
  rcases Nat.lt_or_ge q m with hlt | hge
  · -- The quotient is at least two steps below, and rounding makes up for one.
    have hstep : 2 * h * q + 2 * h ≤ 2 * h * m := by
      rw [← Nat.mul_succ]
      exact Nat.mul_le_mul_left _ hlt
    have hnext : (m + 1) * (2 * h) = 2 * h * m + 2 * h := by ring
    constructor
    · intro heq
      simp only at heq
      split at heq
      · omega
      · split at heq <;> omega
    · intro hle
      omega
  · obtain rfl : q = m := by omega
    have hnext : (q + 1) * (2 * h) = 2 * h * q + 2 * h := by ring
    simp only
    split
    · omega
    · split <;> omega

namespace Binary64

theorem exponentOf_whole {a : Nat} (ha : a ≠ 0) : exponentOf a 1 = (a.log2 : Int) - 52 := by
  have hlog : Nat.log2 1 = 0 := by decide
  have hle : ¬ a < Nat.pow 2 a.log2 := Nat.not_lt.mpr (Nat.log2_self_le ha)
  unfold exponentOf
  simp only [hlog, timesPower]
  rw [show (-((a.log2 : Int) - (0 : Nat) - 52 + 52)).toNat = 0 by omega,
    show (-(-((a.log2 : Int) - (0 : Nat) - 52 + 52))).toNat = a.log2 by omega]
  rw [if_neg (by simpa using hle)]
  simp only [leastExponent]
  omega

/-- Whether the exponent of the rounded number goes beyond the greatest one. -/
theorem isInfinite_ofRatio {negative : Bool} {a k : Nat} (hk : (k : Int) + 1 = greatestExponent) (ha : a ≠ 0) :
    (ofRatio negative a 1).isInfinite = true ↔ k + 54 ≤ a.log2 ∨
      a.log2 = k + 53 ∧ roundDiv a (Nat.pow 2 (k + 1)) = Nat.pow 2 53 := by
  have hdivided : a.log2 = k + 53 → timesPower 2 a 1 (-((a.log2 : Int) - 52)) = (a, Nat.pow 2 (k + 1)) := by
    intro hl
    unfold timesPower
    rw [show (-((a.log2 : Int) - 52)).toNat = 0 by omega, show (- -((a.log2 : Int) - 52)).toNat = k + 1 by omega]
    rw [Nat.one_mul, show Nat.pow 2 0 = 1 from rfl, Nat.mul_one]
  have hranges : a.log2 ≤ k + 52 ∨ a.log2 = k + 53 ∨ k + 54 ≤ a.log2 := by omega
  unfold ofRatio
  rw [if_neg ha, exponentOf_whole ha]
  rcases hranges with hlow | hlast | hhigh
  · -- One more step of the exponent still gives a number of the format.
    have : ¬ (k + 54 ≤ a.log2 ∨ a.log2 = k + 53 ∧ roundDiv a (Nat.pow 2 (k + 1)) = Nat.pow 2 53) := by omega
    simp only [this, iff_false]
    split
    · rw [if_neg (by omega)]
      exact Bool.false_ne_true
    · rw [if_neg (by omega)]
      exact Bool.false_ne_true
  · simp only [hdivided hlast]
    by_cases hup : roundDiv a (Nat.pow 2 (k + 1)) = Nat.pow 2 53
    · rw [if_pos hup]
      rw [if_pos (by simp only; omega)]
      exact iff_of_true rfl (.inr ⟨hlast, hup⟩)
    · rw [if_neg hup]
      rw [if_neg (by simp only; omega)]
      refine iff_of_false Bool.false_ne_true ?_
      rintro (hhigh | ⟨-, hup'⟩)
      · omega
      · exact hup hup'
  · simp only [hhigh, true_or, iff_true]
    split
    · rw [if_pos (by omega)]
      rfl
    · rw [if_pos (by omega)]
      rfl

theorem log2_or_roundDiv_iff {a k : Nat} (ha : a ≠ 0) :
    (k + 54 ≤ a.log2 ∨ a.log2 = k + 53 ∧ roundDiv a (Nat.pow 2 (k + 1)) = Nat.pow 2 53) ↔
      2 ^ (k + 54) ≤ a + 2 ^ k := by
  have hstep : 2 ^ (k + 1) = 2 * 2 ^ k := Nat.pow_succ'
  have hgreat : 2 ^ (k + 54) = (2 ^ 53 - 1 + 1) * (2 * 2 ^ k) := by
    rw [← hstep, show k + 54 = 53 + (k + 1) by omega, Nat.pow_add, Nat.sub_add_cancel (by decide)]
  have hhalf : 2 ^ (k + 54) = 2 * 2 ^ (k + 53) := Nat.pow_succ'
  have hsmall : 2 ^ k < 2 ^ (k + 53) := Nat.pow_lt_pow_right (by decide) (by omega)
  rw [Nat.le_log2 ha, Nat.log2_eq_iff ha]
  by_cases hlt : a < 2 ^ (k + 54)
  · have hround : roundDiv a (Nat.pow 2 (k + 1)) = Nat.pow 2 53 ↔ 2 ^ (k + 54) ≤ a + 2 ^ k := by
      rw [show Nat.pow 2 (k + 1) = 2 * 2 ^ k from hstep]
      rw [hgreat] at hlt ⊢
      exact roundDiv_eq_succ_iff (Nat.pow_pos (by decide)) (by decide) hlt
    rw [hround]
    omega
  · omega

theorem isInfinite_ofRatio_iff (negative : Bool) {k : Nat} (hk : (k : Int) + 1 = greatestExponent) (a : Nat) :
    (ofRatio negative a 1).isInfinite = true ↔ 2 ^ (k + 54) ≤ a + 2 ^ k := by
  by_cases ha : a = 0
  · have hlt : 2 ^ k < 2 ^ (k + 54) := Nat.pow_lt_pow_right (by decide) (by omega)
    simp only [ofRatio, ha, if_true, isInfinite, Bool.false_eq_true, false_iff]
    omega
  · exact (isInfinite_ofRatio hk ha).trans (log2_or_roundDiv_iff ha)

/-- The nearest binary number is infinite from half a step above the greatest finite number on. -/
theorem isInfinite_ofInt_iff (n : Int) : (ofInt n).isInfinite = true ↔ 2 ^ 1024 ≤ n.natAbs + 2 ^ 970 := by
  have hbound := isInfinite_ofRatio_iff (n < 0) (k := 970) rfl n.natAbs
  rwa [show 970 + 54 = 1024 from rfl] at hbound

end Binary64

end TypeSplit.Number
