/-
  TypeSplit.Proofs.Alike — texts that differ only in how they are laid out.

  Two texts are alike if they have the same characters in the same order, with blanks in the same places: how many
  blanks stand in a place may differ, but not whether there are any, nor whether a newline is among them. A text
  laid out in another way is cut at a character exactly where the first one can be cut (`Alike.split`), so the
  parts of one are the parts of the other. What braces do, which tokens there are and what stands in
  a comment are the same in both.
-/

import TypeSplit.Proofs.Block
import TypeSplit.Proofs.Grammar

namespace TypeSplit.Text

open TypeSplit.Declaration (Blanks Word)

/-- A front without `c` of a text that is cut at `c` ends before the cut. -/
theorem front_before {x y z w : Text} {c : Char} (hc : c ∉ x) (h : z ++ c :: w = x ++ y) :
    ∃ y', z = x ++ y' ∧ y = y' ++ c :: w := by
  rcases List.append_eq_append_iff.mp h with ⟨v, hx, hy⟩ | ⟨v, hz, hy⟩
  · cases v with
    | nil => exact ⟨[], by simpa using hx.symm, by simpa using hy.symm⟩
    | cons d v =>
      have hd : c = d := (List.cons.inj hy).1
      exact absurd (by simp [hx, hd]) hc
  · exact ⟨v, hz, hy⟩

inductive Alike : Text → Text → Prop
  | nil : Alike [] []
  | char {c : Char} {a b : Text} : isBlank c = false → Alike a b → Alike (c :: a) (c :: b)
  | gap {g g' a b : Text} : Blanks g → Blanks g' → ('\n' ∈ g ↔ '\n' ∈ g') → Alike a b → Alike (g ++ a) (g' ++ b)

namespace Alike

variable {a b a' b' : Text}

theorem refl (a : Text) : Alike a a := by
  induction a with
  | nil => exact .nil
  | cons c a ih =>
    cases hc : isBlank c with
    | false => exact .char hc ih
    | true =>
      have hb : Blanks [c] := ⟨by simp, by simpa using hc⟩
      exact .gap hb hb Iff.rfl ih

theorem symm (h : Alike a b) : Alike b a := by
  induction h with
  | nil => exact .nil
  | char hc _ ih => exact .char hc ih
  | gap hg hg' hn _ ih => exact .gap hg' hg hn.symm ih

theorem append (h : Alike a b) (h' : Alike a' b') : Alike (a ++ a') (b ++ b') := by
  induction h with
  | nil => exact h'
  | char hc _ ih => exact .char hc ih
  | gap hg hg' hn _ ih =>
    rw [List.append_assoc, List.append_assoc]
    exact .gap hg hg' hn ih

theorem of_blanks {g g' : Text} (hg : Blanks g) (hg' : Blanks g') (hn : '\n' ∈ g ↔ '\n' ∈ g') : Alike g g' := by
  have := Alike.gap hg hg' hn .nil
  rwa [List.append_nil, List.append_nil] at this

/-- A newline may have a carriage return before it. -/
theorem newline (h : Alike a b) : Alike ('\r' :: '\n' :: a) ('\n' :: b) := by
  have hwide : Blanks ['\r', '\n'] := by decide
  have hnarrow : Blanks ['\n'] := by decide
  exact .gap hwide hnarrow (by simp) h

theorem reverse (h : Alike a b) : Alike a.reverse b.reverse := by
  induction h with
  | nil => exact .nil
  | char hc _ ih =>
    rw [List.reverse_cons, List.reverse_cons]
    exact ih.append (.char hc .nil)
  | @gap g g' a b hg hg' hn _ ih =>
    rw [List.reverse_append, List.reverse_append]
    refine ih.append (of_blanks ⟨?_, ?_⟩ ⟨?_, ?_⟩ ?_)
    · simpa using hg.ne
    · simpa using hg.all
    · simpa using hg'.ne
    · simpa using hg'.all
    · simpa using hn

theorem eq_nil (h : Alike [] b) : b = [] := by
  generalize ha : ([] : Text) = a at h
  cases h with
  | nil => rfl
  | char => cases ha
  | gap hg => exact absurd (List.append_eq_nil_iff.mp ha.symm).1 hg.ne

theorem mem_iff (h : Alike a b) {c : Char} (hc : isBlank c = false ∨ c = '\n') : c ∈ a ↔ c ∈ b := by
  induction h with
  | nil => exact Iff.rfl
  | char _ _ ih => simp only [List.mem_cons, ih]
  | gap hg hg' hn _ ih =>
    simp only [List.mem_append, ih]
    rcases hc with hc | rfl
    · have h1 : c ∉ _ := fun hm => absurd (hg.all c hm) (by simp [hc])
      have h2 : c ∉ _ := fun hm => absurd (hg'.all c hm) (by simp [hc])
      simp only [h1, h2, false_or]
    · rw [hn]

theorem blank (h : Alike a b) (ha : ∀ c ∈ a, isBlank c = true) : ∀ c ∈ b, isBlank c = true := by
  intro c hc
  cases hb : isBlank c with
  | true => rfl
  | false => rw [ha c ((h.mem_iff (.inl hb)).mpr hc)] at hb; cases hb

theorem blanks (h : Alike a b) (ha : Blanks a) : Blanks b := by
  refine ⟨?_, h.blank ha.all⟩
  intro hb
  subst hb
  exact ha.ne h.symm.eq_nil

/-- A text goes on with a character of a kind that has no blanks exactly if the other one does. -/
theorem stopsAt {p : Char → Bool} (hp : ∀ c, isBlank c = true → p c = false) (h : Alike a b) (ha : StopsAt p a) :
    StopsAt p b := by
  cases h with
  | nil => exact ha
  | char => exact ha
  | gap _ hg' =>
    obtain ⟨x, r, rfl, hx⟩ := hg'.cons
    exact stopsAt_cons.mpr (hp x hx)

/-- Blanks in front of a text that is cut at another character stand before the cut. -/
theorem blanks_before {g x y a : Text} {c : Char} (hg : ∀ z ∈ g, isBlank z = true) (hc : isBlank c = false)
    (h : x ++ c :: y = g ++ a) : ∃ x', x = g ++ x' ∧ a = x' ++ c :: y :=
  front_before (fun hm => absurd (hg c hm) (by simp [hc])) h

/-- Where one text is cut at a character, the other one is cut at the same character. -/
theorem split {x y z : Text} {c : Char} (hc : isBlank c = false) (h : Alike (x ++ c :: y) z) :
    ∃ x' y', z = x' ++ c :: y' ∧ Alike x x' ∧ Alike y y' := by
  generalize hw : x ++ c :: y = w at h
  induction h generalizing x with
  | nil => simp at hw
  | @char d a b hd hab ih =>
    cases x with
    | nil =>
      obtain ⟨rfl, rfl⟩ := List.cons.inj hw
      exact ⟨[], b, rfl, .nil, hab⟩
    | cons e x =>
      obtain ⟨rfl, ha⟩ := List.cons.inj hw
      obtain ⟨x', y', rfl, hx, hy⟩ := ih ha
      exact ⟨e :: x', y', rfl, .char hd hx, hy⟩
  | @gap g g' a b hg hg' hn _ ih =>
    obtain ⟨x2, rfl, ha⟩ := blanks_before hg.all hc hw
    obtain ⟨x', y', rfl, hx, hy⟩ := ih ha.symm
    exact ⟨g' ++ x', y', by simp, .gap hg hg' hn hx, hy⟩

/-- The same for a text of several characters, none of them blank. -/
theorem split_text {x w y z : Text} (hne : w ≠ []) (hw : ∀ c ∈ w, isBlank c = false) (h : Alike (x ++ (w ++ y)) z) :
    ∃ x' y', z = x' ++ (w ++ y') ∧ Alike x x' ∧ Alike y y' := by
  induction w generalizing x z with
  | nil => exact absurd rfl hne
  | cons c w ih =>
    obtain ⟨x', z', rfl, hx, hz⟩ := split (hw c List.mem_cons_self) h
    by_cases hwn : w = []
    · subst hwn
      exact ⟨x', z', rfl, hx, hz⟩
    · obtain ⟨n, y', rfl, hn, hy⟩ := ih (x := []) hwn (fun d hd => hw d (List.mem_cons_of_mem _ hd)) hz
      cases hn.eq_nil
      exact ⟨x', y', rfl, hx, hy⟩

theorem split_word {x w y z : Text} (hw : Word w) (h : Alike (x ++ (w ++ y)) z) :
    ∃ x' y', z = x' ++ (w ++ y') ∧ Alike x x' ∧ Alike y y' :=
  split_text hw.ne (fun c hc => isBlank_eq_false_of_isWord (hw.all c hc)) h

/-- A text is also cut where it does not go on with a blank. -/
theorem split_stop {a s z : Text} (hs : StopsAt isBlank s) (h : Alike (a ++ s) z) :
    ∃ a' s', z = a' ++ s' ∧ Alike a a' ∧ Alike s s' := by
  cases s with
  | nil => exact ⟨z, [], by simp, by simpa using h, .nil⟩
  | cons c s =>
    have hc : isBlank c = false := stopsAt_cons.mp hs
    obtain ⟨a', s', rfl, haa, hss⟩ := h.split hc
    exact ⟨a', c :: s', rfl, haa, .char hc hss⟩

end Alike

end TypeSplit.Text

namespace TypeSplit.Source

/-! ## Braces -/

/-- How many blocks are open after a text, if `n` are open before it and none is closed that is not open. -/
def depthAfter : (n : Nat) → Text → Option Nat
  | n, [] => some n
  | n, c :: rest =>
    match Delimiters.braces.effect c, n with
    | .opens, n => depthAfter (n + 1) rest
    | .closes, 0 => none
    | .closes, n + 1 => depthAfter n rest
    | .nothing, n => depthAfter n rest

theorem depthAfter_append (n : Nat) (a b : Text) : depthAfter n (a ++ b) = (depthAfter n a).bind (depthAfter · b) := by
  induction a generalizing n with
  | nil => rfl
  | cons c a ih =>
    rw [List.cons_append]
    simp only [depthAfter]
    cases Delimiters.braces.effect c with
    | opens => exact ih (n + 1)
    | nothing => exact ih n
    | closes =>
      cases n with
      | zero => rfl
      | succ n => exact ih n

theorem depthAfter_braceless {a : Text} (h : Declaration.Braceless a) (n : Nat) : depthAfter n a = some n := by
  induction a with
  | nil => rfl
  | cons c a ih =>
    have h1 := h.no_open
    have h2 := h.no_close
    simp only [List.mem_cons, not_or] at h1 h2
    simp only [depthAfter, effect_braces, if_neg (Ne.symm h1.1), if_neg (Ne.symm h2.1)]
    exact ih ⟨h1.2, h2.2⟩

/-- Blocks that are open around a text do not matter to what is open in it. -/
theorem depthAfter_add {n k : Nat} {a : Text} (h : depthAfter n a = some k) (j : Nat) :
    depthAfter (n + j) a = some (k + j) := by
  induction a generalizing n with
  | nil =>
    cases h
    rfl
  | cons c a ih =>
    simp only [depthAfter] at h ⊢
    cases he : Delimiters.braces.effect c with
    | opens =>
      rw [he] at h
      have := ih h
      rwa [show n + 1 + j = n + j + 1 by omega] at this
    | nothing =>
      rw [he] at h
      exact ih h
    | closes =>
      rw [he] at h
      cases n with
      | zero => cases h
      | succ n =>
        have := ih h
        rw [show n + 1 + j = n + j + 1 by omega]
        exact this

/-- A block closes behind the first text that leaves nothing open in it. -/
theorem closeFrom?_braces_iff {at_ n c : Nat} {t : Text} :
    closeFrom? .braces at_ n t = some c ↔
      ∃ s rest, t = s ++ '}' :: rest ∧ depthAfter n s = some 0 ∧ c = at_ + s.length + 1 := by
  induction t generalizing at_ n with
  | nil => simp [closeFrom?]
  | cons x t ih =>
    -- Behind `x` the search goes on with `k` blocks open, as does `depthAfter`, unless `x` closes the block.
    have step : ∀ k, depthAfter n [x] = some k → closeFrom? .braces at_ n (x :: t) = closeFrom? .braces (at_ + 1) k t →
        (closeFrom? .braces at_ n (x :: t) = some c ↔
          ∃ s rest, x :: t = s ++ '}' :: rest ∧ depthAfter n s = some 0 ∧ c = at_ + s.length + 1) := by
      intro k hk hclose
      have hcons : ∀ s, depthAfter n (x :: s) = depthAfter k s := fun s => by
        rw [← List.singleton_append, depthAfter_append, hk]
        rfl
      rw [hclose, ih]
      constructor
      · intro hsplit
        obtain ⟨s, rest, hs, hd, hc⟩ := hsplit
        exact ⟨x :: s, rest, by rw [hs]; rfl, by rw [hcons, hd], by simp only [List.length_cons]; omega⟩
      · intro hsplit
        obtain ⟨s, rest, hs, hd, hc⟩ := hsplit
        cases s with
        | nil =>
          obtain ⟨rfl, -⟩ := List.cons.inj hs
          cases hd
          simp [depthAfter] at hk
        | cons y s =>
          obtain ⟨rfl, ht⟩ := List.cons.inj hs
          rw [hcons] at hd
          exact ⟨s, rest, ht, hd, by simp only [List.length_cons] at hc; omega⟩
    by_cases h1 : x = '{'
    · subst h1
      exact step (n + 1) (by simp [depthAfter]) (by simp [closeFrom?])
    · by_cases h2 : x = '}'
      · subst h2
        cases n with
        | succ n => exact step n (by simp [depthAfter]) (by simp [closeFrom?])
        | zero =>
          simp only [closeFrom?, effect_braces, if_neg h1, if_true, Option.some.injEq]
          constructor
          · intro hc
            exact ⟨[], t, rfl, rfl, hc.symm⟩
          · intro hsplit
            obtain ⟨s, rest, hs, hd, hc⟩ := hsplit
            cases s with
            | nil => exact hc.symm
            | cons y s =>
              obtain ⟨rfl, -⟩ := List.cons.inj hs
              simp [depthAfter] at hd
      · exact step n (by simp [depthAfter, h1, h2]) (by simp [closeFrom?, h1, h2])

end TypeSplit.Source

namespace TypeSplit.Text.Alike

open TypeSplit.Source (Delimiters depthAfter depthAfter_append depthAfter_braceless)

theorem depthAfter_eq {a b : Text} (h : Alike a b) (n : Nat) : depthAfter n a = depthAfter n b := by
  induction h generalizing n with
  | nil => rfl
  | @char c _ _ _ _ ih =>
    simp only [depthAfter]
    cases Delimiters.braces.effect c with
    | opens => exact ih (n + 1)
    | nothing => exact ih n
    | closes =>
      cases n with
      | zero => rfl
      | succ n => exact ih n
  | gap hg hg' _ _ ih =>
    rw [depthAfter_append, depthAfter_append, depthAfter_braceless hg.braceless, depthAfter_braceless hg'.braceless]
    exact ih n

end TypeSplit.Text.Alike
