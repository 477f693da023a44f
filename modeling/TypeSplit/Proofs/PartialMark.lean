/-
  TypeSplit.Proofs.PartialMark — where the mark of a part is put into a header.

  A word stands as a token at an offset (`TokenAt`) where no word character stands directly before it or behind it. The
  mark is put in front of the first token equal to the keyword, by a replacement template in which a keyword without a
  backslash stands for itself.
  - `splitToken?_isLeast`: the cut around a token is made at the first one.
  - `template_plain`: a template without a backslash writes its own text.
  - `partialHeader_of_token` / `partialHeader_of_absent`: what becomes of a header that is not partial.
  - `partial_mark_is_put_once`: the header is changed in one place or not at all, and is then left alone.
-/

import Mathlib.Order.Bounds.Basic
import TypeSplit.Proofs.Token
import TypeSplit.Splitting.Header

namespace TypeSplit.Text

open TypeSplit.Declaration (Word)

variable {k : Text}

/-! ## The first token -/

def TokenAt (k t : Text) (i : Nat) : Prop :=
  ∃ a b, t = a ++ (k ++ b) ∧ a.length = i ∧ StopsAt isWord a.reverse ∧ StopsAt isWord b

theorem hasToken_iff_tokenAt (hk : Word k) {t : Text} : hasToken k t = true ↔ ∃ i, TokenAt k t i := by
  rw [hasToken_iff hk]
  constructor
  · intro h
    obtain ⟨a, b, ht, ha, hb⟩ := h
    exact ⟨a.length, a, b, ht, rfl, ha, hb⟩
  · intro h
    obtain ⟨_, a, b, ht, -, ha, hb⟩ := h
    exact ⟨a, b, ht, ha, hb⟩

/-- No token stands before the cut. -/
theorem length_le_of_splitToken? (hk : Word k) {before : Option Char} {t a b a' b' : Text}
    (h : splitToken? k before t = some (a, b)) (ht : t = a' ++ (k ++ b'))
    (ha' : StopsAt isWord (a'.reverse ++ before.toList)) (hb' : StopsAt isWord b') : a.length ≤ a'.length := by
  induction a' generalizing before t a with
  | nil =>
    rw [ht, List.nil_append, splitToken?_here hk ha' hb'] at h
    cases h
    exact Nat.le_refl 0
  | cons c a' ih =>
    have hlater : StopsAt isWord (a'.reverse ++ (some c).toList) := by
      rw [List.reverse_cons, List.append_assoc] at ha'
      cases hr : a'.reverse with
      | nil => simpa [hr] using ha'
      | cons y r => simpa [hr] using ha'
    have skipped : (splitToken? k (some c) (a' ++ (k ++ b'))).map (fun cut => (c :: cut.1, cut.2)) = some (a, b) →
        a.length ≤ (c :: a').length := by
      intro h
      simp only [Option.map_eq_some_iff, Prod.exists, Prod.mk.injEq] at h
      obtain ⟨p, r, hp, rfl, rfl⟩ := h
      exact Nat.succ_le_succ (ih hp rfl hlater)
    rw [ht, List.cons_append] at h
    simp only [splitToken?] at h
    split at h
    · split at h
      · cases h
        exact Nat.zero_le _
      · exact skipped h
    · exact skipped h

theorem splitToken?_isLeast (hk : Word k) {t a b : Text} (h : splitToken? k none t = some (a, b)) :
    IsLeast {i | TokenAt k t i} a.length := by
  obtain ⟨ht, ha, hb⟩ := splitToken?_sound hk h
  refine ⟨⟨a, b, ht, rfl, by simpa using ha, hb⟩, ?_⟩
  intro i hi
  obtain ⟨a', b', ht', rfl, ha', hb'⟩ := hi
  exact length_le_of_splitToken? hk h ht' (by simpa using ha') hb'

end TypeSplit.Text

namespace TypeSplit.Splitting

open TypeSplit.Declaration (Word)
open TypeSplit.Text (StopsAt TokenAt hasToken isWord splitToken?)

/-! ## Templates without escapes -/

theorem Reader.skip_ok {r : Reader} (h : '\\' ∉ r.rest) (n : Nat) :
    r.skip n = .ok ⟨r.template, r.offset + n, r.rest.drop n⟩ := by
  have hrest : r.rest.drop n ≠ ['\\'] := by
    intro heq
    exact h (List.mem_of_mem_drop (heq ▸ List.mem_singleton_self '\\'))
  rw [skip, if_neg hrest]

theorem Reader.next?_plain {template rest : Text} {offset : Nat} {c : Char} (h : '\\' ∉ c :: rest) :
    Reader.next? ⟨template, offset, c :: rest⟩ = .ok (some ([c], ⟨template, offset + 1, rest⟩)) := by
  have hc : c ≠ '\\' := fun hc => h (hc ▸ List.mem_cons_self)
  have hskip := Reader.skip_ok (r := ⟨template, offset, c :: rest⟩) h 1
  unfold Reader.next?
  split
  · rename_i heq
    cases heq
  · rename_i heq
    exact absurd (List.cons.inj heq).1 hc
  · rename_i heq
    cases heq
    rw [hskip]
    rfl

/-- Every character of the rest is a piece of its own. -/
theorem pieces_plain {r : Reader} (h : '\\' ∉ r.rest) {fuel : Nat} (hf : r.rest.length < fuel) :
    ∃ ps, pieces r fuel = .ok ps ∧ ∀ found, expand found ps = r.rest := by
  induction fuel generalizing r with
  | zero => omega
  | succ fuel ih =>
    obtain ⟨template, offset, rest⟩ := r
    cases rest with
    | nil => exact ⟨[], rfl, fun _ => rfl⟩
    | cons c rest =>
      obtain ⟨ps, hps, hexpand⟩ := ih (r := ⟨template, offset + 1, rest⟩) (fun hm => h (List.mem_cons_of_mem _ hm))
        (by simpa using hf)
      refine ⟨.literal [c] :: ps, ?_, fun found => ?_⟩
      · rw [pieces, Reader.next?_plain h]
        simp [bind, Except.bind, hps, Except.map]
      · rw [expand, List.flatMap_cons]
        exact congrArg (c :: ·) (hexpand found)

theorem template_plain {t : Text} (h : '\\' ∉ t) : ∃ ps, template t = .ok ps ∧ ∀ found, expand found ps = t :=
  pieces_plain (r := .ofText t) h (Nat.lt_succ_self _)

/-! ## The header of a part -/

variable {header keyword : Text}

theorem template_mark (h : '\\' ∉ keyword) :
    ∃ ps, template (partialWord ++ ' ' :: keyword) = .ok ps ∧ ∀ found, expand found ps = partialWord ++ ' ' :: keyword := by
  refine template_plain ?_
  simp only [List.mem_append, List.mem_cons, not_or]
  exact ⟨by decide, by decide, h⟩

theorem partialHeader_of_absent (hk : '\\' ∉ keyword) (h : splitToken? keyword none header = none) :
    partialHeader header keyword = .ok header := by
  obtain ⟨ps, hps, -⟩ := template_mark hk
  unfold partialHeader
  split
  · rfl
  · rw [hps, h]
    rfl

theorem partialHeader_of_token (hk : '\\' ∉ keyword) (hp : hasToken partialWord header = false) {a b : Text}
    (h : splitToken? keyword none header = some (a, b)) :
    partialHeader header keyword = .ok (a ++ (partialWord ++ ' ' :: keyword) ++ b) := by
  obtain ⟨ps, hps, hexpand⟩ := template_mark hk
  rw [partialHeader, hp, hps, h]
  simp [Except.map, hexpand]

theorem partialHeader_of_partial (h : hasToken partialWord header = true) (keyword : Text) :
    partialHeader header keyword = .ok header := by
  rw [partialHeader, if_pos h]

/-- A header can be marked for every keyword without a backslash. -/
theorem partialHeader_ok (header : Text) {keyword : Text} (h : '\\' ∉ keyword) :
    ∃ line, partialHeader header keyword = .ok line := by
  by_cases hp : hasToken partialWord header = true
  · exact ⟨header, partialHeader_of_partial hp keyword⟩
  · cases hcut : splitToken? keyword none header with
    | none => exact ⟨header, partialHeader_of_absent h hcut⟩
    | some cut => exact ⟨_, partialHeader_of_token h (Bool.eq_false_iff.mpr hp) hcut⟩

theorem word_partial : Word partialWord := by decide

/-- The mark is a token wherever it is put in front of one. -/
theorem hasToken_marked {a : Text} (ha : StopsAt isWord a.reverse) (s : Text) :
    hasToken partialWord (a ++ (partialWord ++ ' ' :: s)) = true :=
  (Text.hasToken_iff word_partial).mpr ⟨a, ' ' :: s, rfl, ha, Text.stopsAt_cons.mpr (by decide)⟩

/-- A header that is partial, or has no token equal to the keyword, stays as it is. Any other header gets the mark in
front of its first such token and is not changed elsewhere. Marking a header again changes nothing. -/
theorem partial_mark_is_put_once (header : Text) {keyword : Text} (hk : Word keyword) :
    ∃ line, partialHeader header keyword = .ok line ∧
      (((∃ i, TokenAt partialWord header i) ∨ ¬ ∃ i, TokenAt keyword header i) → line = header) ∧
      ((¬ ∃ i, TokenAt partialWord header i) → (∃ i, TokenAt keyword header i) →
        ∃ i, IsLeast {i | TokenAt keyword header i} i ∧ line = header.take i ++ (partialWord ++ ' ' :: header.drop i)) ∧
      partialHeader line keyword = .ok line := by
  have hplain := hk.no_escape
  rw [← Text.hasToken_iff_tokenAt word_partial, ← Text.hasToken_iff_tokenAt hk]
  by_cases hp : hasToken partialWord header = true
  · have hkept := partialHeader_of_partial hp keyword
    exact ⟨header, hkept, fun _ => rfl, fun hnot => absurd hp hnot, hkept⟩
  · cases hcut : splitToken? keyword none header with
    | none =>
      have hkept := partialHeader_of_absent hplain hcut
      refine ⟨header, hkept, fun _ => rfl, fun _ htoken => ?_, hkept⟩
      rw [hasToken, hcut] at htoken
      cases htoken
    | some cut =>
      obtain ⟨a, b⟩ := cut
      obtain ⟨hheader, ha, -⟩ := Text.splitToken?_sound hk hcut
      have hmarked := partialHeader_of_token hplain (Bool.eq_false_iff.mpr hp) hcut
      refine ⟨_, hmarked, fun hkept => ?_, fun _ _ => ?_, ?_⟩
      · rcases hkept with h | h
        · exact absurd h hp
        · exact absurd (by rw [hasToken, hcut]; rfl) h
      · refine ⟨a.length, Text.splitToken?_isLeast hk hcut, ?_⟩
        rw [hheader, List.take_left, List.drop_left]
        simp
      · refine partialHeader_of_partial ?_ keyword
        have htoken := hasToken_marked (by simpa using ha) (keyword ++ b)
        simpa using htoken

/-- A header with the keyword in a longer word, behind a letter outside ASCII, and twice as a token. -/
def nestedHeader : Text := "éclass.sub_class class C : class".toList

theorem a_nested_header_is_marked_once :
    Word "class".toList ∧
    ∃ line, partialHeader nestedHeader "class".toList = .ok line ∧ partialHeader line "class".toList = .ok line ∧
      line = "éclass.sub_class ".toList ++ (partialWord ++ ' ' :: "class".toList) ++ " C : class".toList := by
  have hk : Word "class".toList := by decide
  obtain ⟨line, hline, -, -, hagain⟩ := partial_mark_is_put_once nestedHeader hk
  refine ⟨hk, line, hline, hagain, ?_⟩
  have hcut : splitToken? "class".toList none nestedHeader = some ("éclass.sub_class ".toList, " C : class".toList) := by
    decide
  have hmarked := partialHeader_of_token (by decide) (by decide) hcut
  exact Except.ok.inj (hline.symm.trans hmarked)

end TypeSplit.Splitting
