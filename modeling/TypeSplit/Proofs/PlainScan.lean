/-
  TypeSplit.Proofs.PlainScan — passing over comments loses no site.

  A scan searches for the next match and looks at comments afterwards: a match behind `//` is dropped and the search goes on
  at the next line, or ends if the window has no next line. `plainSites` does without the jump. It looks at the offsets of the
  window one after the other, ignores one that is commented or inside the match taken last, and takes the match where the
  recogniser accepts. Both are walks from the same offset (`sites_scan_in`, `plainFrom_scan`), and there is one such walk.
  - `comments_are_passed_without_loss`: so they give the same sites, for every window and every recogniser that advances.
-/

import TypeSplit.Proofs.Carving

namespace TypeSplit.Source

open Cursor (Commented)

variable {α : Type} {accepts : Recogniser α}

instance (w : Text) (i : Nat) : Decidable (Commented w i) := decidable_of_iff _ Cursor.inLineComment_iff

/-- The matches at offsets in ascending order; those before `resume` lie in the match taken last. -/
def plainFrom (accepts : Recogniser α) (w : Text) (resume : Nat) : List Nat → List (Site α)
  | [] => []
  | p :: offsets =>
    if p < resume ∨ Commented w p then plainFrom accepts w resume offsets
    else
      match accepts (.at_ w p) with
      | none => plainFrom accepts w resume offsets
      | some (a, n) => ⟨p, p + n, a⟩ :: plainFrom accepts w (p + n) offsets

/-- The matches in the window from `start` up to `stop`, one offset after the other. -/
def plainSites (accepts : Recogniser α) (t : Text) (start stop : Nat) : List (Site α) :=
  let w := t.take stop
  plainFrom accepts w start (List.range' start (w.length - start))

/-- Nothing is accepted at the end of the text, since nothing is left to take. -/
theorem Recogniser.AdvancesIn.at_end {w : Text} {i : Nat} (h : accepts.AdvancesIn w i) (hi : i ≤ w.length) :
    accepts (.at_ w w.length) = none := by
  cases haccepts : accepts (.at_ w w.length) with
  | none => rfl
  | some x =>
    have := h w.length x.1 x.2 hi haccepts
    omega

/-- The offsets from `i` to the end of the text are walked over. The induction is on their number. -/
theorem plainFrom_scan {w : Text} {start : Nat} (ha : accepts.AdvancesIn w start) {n i : Nat} (resume : Nat)
    (hstart : start ≤ i) (hn : i + n = w.length) :
    Scan accepts w (max i resume) (plainFrom accepts w resume (List.range' i n)) := by
  induction n generalizing i resume with
  | zero =>
    refine .done _ fun k h1 h2 => .inl ?_
    obtain rfl : k = w.length := by omega
    exact ha.at_end (by omega)
  | succ n ih =>
    rw [List.range'_succ, plainFrom]
    have hnext : ∀ resume, Scan accepts w (max (i + 1) resume) (plainFrom accepts w resume (List.range' (i + 1) n)) :=
      fun resume => ih resume (by omega) (by omega)
    by_cases hresume : i < resume
    · rw [if_pos (.inl hresume)]
      have := hnext resume
      rwa [show max (i + 1) resume = max i resume by omega] at this
    rw [show max i resume = i by omega]
    have hpass : Passed accepts w i → Scan accepts w i (plainFrom accepts w resume (List.range' (i + 1) n)) := by
      intro hpassed
      refine .pass i (i + 1) _ (by omega) (fun k h1 h2 => ?_) ?_
      · obtain rfl : k = i := by omega
        exact hpassed
      · have := hnext resume
        rwa [show max (i + 1) resume = i + 1 by omega] at this
    by_cases hcomment : Commented w i
    · rw [if_pos (.inr hcomment)]
      exact hpass (.inr (Cursor.inLineComment_iff.mpr hcomment))
    rw [if_neg (by simp [hresume, hcomment])]
    cases haccepts : accepts (.at_ w i) with
    | none => exact hpass (.inl haccepts)
    | some x =>
      obtain ⟨hpos, hle⟩ := ha i x.1 x.2 hstart haccepts
      have hfree : (Cursor.at_ w i).inLineComment = false := by
        rwa [← Cursor.inLineComment_iff, Bool.not_eq_true] at hcomment
      have hrest := hnext (i + x.2)
      rw [show max (i + 1) (i + x.2) = i + x.2 by omega] at hrest
      exact .take i x.2 x.1 _ haccepts hfree hle (by omega) hrest

/-- The scan of a window finds what a look at every offset finds: no match is lost behind a comment, and none in a comment
is taken. -/
theorem comments_are_passed_without_loss (accepts : Recogniser α) (t : Text) (start stop : Nat)
    (ha : accepts.AdvancesIn (t.take stop) start) : sites accepts t start stop = plainSites accepts t start stop := by
  by_cases hstart : start ≤ (t.take stop).length
  · have hplain := plainFrom_scan ha (n := (t.take stop).length - start) start (Nat.le_refl _) (by omega)
    rw [Nat.max_self] at hplain
    exact (sites_scan_in ha hstart).unique hplain
  · -- A window that starts behind its end has no offsets.
    have hnone : (t.take stop).length - start = 0 := by omega
    have hend : (Cursor.at_ (t.take stop) start).ahead = [] := List.drop_of_length_le (by omega)
    rw [sites, sitesFrom, if_pos hend, plainSites, hnone]
    rfl

/-- A comment with a keyword, from which a match goes on into the next line, and one behind a declaration. -/
def commentedTypes : Text := "// the class of\nclass C \x7b // class D \x7b\n\x7d".toList

/-- Only the declaration between the comments is a site. -/
theorem commented_types_are_passed :
    (Declaration.typeHeader Extraction.defaultKeywords).AdvancesIn (commentedTypes.take 38) 0 ∧
      (Declaration.typeHeader Extraction.defaultKeywords (.at_ commentedTypes 7)).isSome = true ∧
      sites (Declaration.typeHeader Extraction.defaultKeywords) commentedTypes 0 38 =
        [⟨16, 25, ("class".toList, ['C'])⟩] := by
  have hadvances := (Declaration.typeHeader_advances Extraction.defaultKeywords).advancesIn (commentedTypes.take 38) 0
  refine ⟨hadvances, by decide +kernel, ?_⟩
  rw [comments_are_passed_without_loss _ _ _ _ hadvances]
  decide +kernel

end TypeSplit.Source
