/-
  TypeSplit.Proofs.Closing — the end of a block, told by counting.

  Between two different characters a block closes at the first offset before which the closer stands once more than the
  opener, counted from where the search starts (`Surplus`). The counts are levels seen from the start (`level_eq_counts`),
  and the level falls one step at a time; so before that offset the closers are never ahead, and the character in front of
  it is a closer.
  - `block_closes_at_first_surplus`: the block search finds that offset, for every opening and every limit, and finds
    nothing if there is none.
  - `blocks_are_laminar`: a brace that opens inside a block is closed inside it, and a search that goes up to the last brace
    of the block finds where.
-/

import Mathlib.Order.Bounds.Basic
import TypeSplit.Proofs.Block
import TypeSplit.Proofs.Scan

namespace TypeSplit.Source

def searchStart (opening : Int) : Int := max (opening + 1) 0

/-- Where the search ends: at the limit, or at the end of the text if that comes first. -/
def searchEnd (t : Text) (limit : Option Int) : Int := limit.elim t.length (min · t.length)

/-- The offset is one that the search may find, and up to it the closer stands once more than the opener. -/
structure Surplus (opener closer : Char) (t : Text) (opening : Int) (limit : Option Int) (c : Nat) : Prop where
  behind : searchStart opening < c
  within : c ≤ searchEnd t limit
  one_more : (Text.slice t (searchStart opening) c).count closer = (Text.slice t (searchStart opening) c).count opener + 1

section

variable {opener closer : Char} {t : Text} {opening : Int} {limit : Option Int} {c : Nat}

theorem searchStart_eq (opening : Int) : searchStart opening = (opening + 1).toNat := (Int.ofNat_toNat _).symm

theorem le_searchEnd_iff (hc : 0 < c) : (c : Int) ≤ searchEnd t limit ↔ c ≤ (before limit t).length := by
  cases limit with
  | none => simp [searchEnd, before]
  | some l =>
    simp only [searchEnd, before, Option.elim_some, List.length_take]
    omega

/-- The level against that at the start of the search, by counting. -/
theorem level_eq_counts (hne : opener ≠ closer) (opening : Int) {i : Nat} (hstart : (opening + 1).toNat ≤ i)
    (hi : i ≤ t.length) :
    (Delimiters.pair opener closer).level t i - (Delimiters.pair opener closer).level t (opening + 1).toNat =
      (Text.slice t (searchStart opening) i).count opener - (Text.slice t (searchStart opening) i).count closer := by
  rw [Delimiters.level_sub _ t hstart, net_pair hne, searchStart_eq, Text.slice, Text.place_natCast, Text.place_natCast,
    Nat.min_eq_left hi, Nat.min_eq_left (hstart.trans hi)]

theorem length_before_le (limit : Option Int) (t : Text) : (before limit t).length ≤ t.length := by
  rw [before_eq_take, List.length_take]
  exact Nat.min_le_right ..

theorem surplus_iff (hne : opener ≠ closer) :
    Surplus opener closer t opening limit c ↔ (opening + 1).toNat < c ∧ c ≤ (before limit t).length ∧
      (Delimiters.pair opener closer).level t c = (Delimiters.pair opener closer).level t (opening + 1).toNat - 1 := by
  have hshort := length_before_le limit t
  constructor
  · intro h
    have hbehind := h.behind
    have hmore := h.one_more
    rw [searchStart_eq] at hbehind
    have hle := (le_searchEnd_iff (by omega)).mp h.within
    have hcounts := level_eq_counts hne opening (show (opening + 1).toNat ≤ c by omega) (show c ≤ t.length by omega)
    exact ⟨by omega, hle, by omega⟩
  · rintro ⟨hbehind, hwithin, hlevel⟩
    have hcounts := level_eq_counts hne opening (show (opening + 1).toNat ≤ c by omega) (show c ≤ t.length by omega)
    refine ⟨?_, (le_searchEnd_iff (by omega)).mpr hwithin, by omega⟩
    rw [searchStart_eq]
    omega

theorem exists_of_surplus (hne : opener ≠ closer) (h : Surplus opener closer t opening limit c) :
    ∃ i ≤ c, matchBlock? (.pair opener closer) t opening limit = some i := by
  obtain ⟨hstart, hend, hlevel⟩ := (surplus_iff hne).mp h
  exact exists_matchBlock? (by omega) hend (by omega)

/-- The character in front of the end of a block is the closer. -/
theorem closer_before_end (hne : opener ≠ closer)
    (h : matchBlock? (.pair opener closer) t opening limit = some c) : t[c - 1]? = some closer := by
  obtain ⟨hstart, hend, hlevel, hinside⟩ := matchBlock?_eq_some_iff.mp h
  have hlt : c - 1 < t.length := by
    have := length_before_le limit t
    omega
  have hx : t[c - 1]? = some t[c - 1] := List.getElem?_eq_getElem hlt
  have hstep := (Delimiters.pair opener closer).level_succ hx
  have hlast := hinside (c - 1) (by omega) (by omega)
  rw [Nat.sub_add_cancel (by omega), effect_pair hne] at hstep
  -- The last step leads down, and only the closer leads down.
  by_cases hopen : t[c - 1] = opener
  · rw [if_pos hopen, Effect.weight] at hstep
    omega
  · by_cases hclose : t[c - 1] = closer
    · rw [hx, hclose]
    · rw [if_neg hopen, if_neg hclose, Effect.weight] at hstep
      omega

theorem matchBlock?_iff_isLeast (hne : opener ≠ closer) :
    matchBlock? (.pair opener closer) t opening limit = some c ↔
      IsLeast {c | Surplus opener closer t opening limit c} c := by
  have hfound : ∀ {c}, matchBlock? (.pair opener closer) t opening limit = some c →
      Surplus opener closer t opening limit c := by
    intro c h
    obtain ⟨hstart, hend, hlevel, -⟩ := matchBlock?_eq_some_iff.mp h
    exact (surplus_iff hne).mpr ⟨hstart, hend, hlevel⟩
  constructor
  · intro h
    refine ⟨hfound h, fun i hi => ?_⟩
    -- A surplus lies below the level of the start, and the level does not get there before the block closes.
    obtain ⟨hstart, -, hlevel⟩ := (surplus_iff hne).mp hi
    by_contra hlt
    have := (matchBlock?_eq_some_iff.mp h).2.2.2 i (by omega) (by omega)
    omega
  · rintro ⟨hmem, hleast⟩
    obtain ⟨i, hle, hi⟩ := exists_of_surplus hne hmem
    rwa [Nat.le_antisymm (hleast (hfound hi)) hle]

/-- The block search finds the first offset with a surplus of one closer, for any opening and any limit. Up to it the
closers are never ahead. -/
theorem block_closes_at_first_surplus (hne : opener ≠ closer) (t : Text) (opening : Int) (limit : Option Int) :
    ∃ d, Delimiters.ofTexts [opener] [closer] = .ok d ∧
      (∀ c, matchBlock? d t opening limit = some c ↔ IsLeast {c | Surplus opener closer t opening limit c} c) ∧
      (∀ c, matchBlock? d t opening limit = some c → t[c - 1]? = some closer ∧
        ∀ i : Nat, searchStart opening ≤ i → i < c →
          (Text.slice t (searchStart opening) i).count closer ≤ (Text.slice t (searchStart opening) i).count opener) ∧
      (matchBlock? d t opening limit = none ↔ ∀ c, ¬ Surplus opener closer t opening limit c) := by
  refine ⟨.pair opener closer, rfl, fun c => matchBlock?_iff_isLeast hne, fun c h => ⟨closer_before_end hne h, ?_⟩, ?_⟩
  · intro i hstart hi
    obtain ⟨-, hend, -, hinside⟩ := matchBlock?_eq_some_iff.mp h
    rw [searchStart_eq] at hstart
    have hshort := length_before_le limit t
    have hcounts := level_eq_counts hne opening (show (opening + 1).toNat ≤ i by omega) (show i ≤ t.length by omega)
    have := hinside i (by omega) hi
    omega
  · constructor
    · intro hnone c hc
      obtain ⟨i, -, hi⟩ := exists_of_surplus hne hc
      rw [hnone] at hi
      cases hi
    · intro h
      rw [Option.eq_none_iff_forall_ne_some]
      intro c hc
      exact h c ((matchBlock?_iff_isLeast hne).mp hc).1

end

/-- A block inside the block, a closer too many behind it, and a limit past the end of the text. -/
theorem nested_block_closes_at_first_surplus :
    matchBlock? (.pair '(' ')') "(a(b)c)d)".toList 0 (some 100) = some 7 ∧
      IsLeast {c | Surplus '(' ')' "(a(b)c)d)".toList 0 (some 100) c} 7 := by
  have hfound : matchBlock? (.pair '(' ')') "(a(b)c)d)".toList 0 (some 100) = some 7 := by decide
  obtain ⟨d, hd, hleast, -⟩ := block_closes_at_first_surplus (by decide : '(' ≠ ')') "(a(b)c)d)".toList 0 (some 100)
  obtain rfl : Delimiters.pair '(' ')' = d := Except.ok.inj hd
  exact ⟨hfound, (hleast 7).mp hfound⟩

/-! ## Blocks inside blocks -/

/-- A limit changes nothing for a block that closes before it. -/
theorem matchBlock?_of_le {d : Delimiters} {t : Text} {opening limit : Int} {c : Nat}
    (h : matchBlock? d t opening none = some c) (hle : c ≤ limit) : matchBlock? d t opening (some limit) = some c := by
  obtain ⟨e, rfl⟩ := Int.eq_ofNat_of_zero_le (show 0 ≤ limit by omega)
  apply matchBlock?_limit.mpr
  exact ⟨h, by omega⟩

/-- Blocks are nested or apart. The inner block closes at the last brace of the outer one at the latest, so that the window
that leaves this brace out is wide enough, and so is every wider one. -/
theorem blocks_are_laminar {t : Text} {outer inner c : Nat} (hopen : t[inner]? = some '{') (hlt : outer < inner)
    (hmatch : matchBlock? .braces t outer none = some c) (hinside : inner < c) :
    ∃ c', c' ≤ c - 1 ∧ matchBlock? .braces t inner none = some c' ∧
      ∀ limit : Int, (c : Int) - 1 ≤ limit → matchBlock? .braces t inner (some limit) = some c' := by
  obtain ⟨c', hbefore, hmatch'⟩ := matchBlock?_inside hmatch hopen (effect_braces '{') hlt hinside
  refine ⟨c', by omega, hmatch', ?_⟩
  intro limit hlimit
  exact matchBlock?_of_le hmatch' (by omega)

def blockInBlock : Text := "\x7ba\x7bb\x7d\x7d\x7b".toList

/-- The inner block is closed by the brace in front of the one that closes the outer block, and the search may end between
the two. -/
theorem an_inner_block_closes_at_the_limit :
    matchBlock? .braces blockInBlock 0 none = some 6 ∧ matchBlock? .braces blockInBlock 2 (some 5) = some 5 := by
  have hopen : blockInBlock[2]? = some '{' := by decide
  have houter : matchBlock? .braces blockInBlock (0 : Nat) none = some 6 := by decide
  obtain ⟨c', -, hinner, hlimit⟩ := blocks_are_laminar hopen (by decide) houter (by decide)
  have hfound : matchBlock? .braces blockInBlock (2 : Nat) none = some 5 := by decide
  obtain rfl : c' = 5 := Option.some.inj (hinner.symm.trans hfound)
  exact ⟨houter, hlimit 5 (by decide)⟩

end TypeSplit.Source
