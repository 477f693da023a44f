/-
  TypeSplit.Proofs.Scan — which sites a scan finds.

  `Scan accepts w i s` says that the sites `s` are what a walk over the text `w` from offset `i` sees: it may
  pass over offsets where the recogniser fails or that lie behind `//`, and where the recogniser accepts
  outside a comment it takes the site and goes on behind it. `sites_scan` says that the scan of a window is
  such a walk, for every recogniser that advances; the rest follows from the walk alone.
  - `Scan.accepted`: every site is accepted, outside comments.
  - `Scan.ordered`: every site ends before the next one starts.
  - `Scan.covers`: an accepted offset outside comments is a site or lies inside one.
  - `Scan.found`: so it is a site if no accepted match runs over it.
  - `Scan.unique`: there is one walk from an offset, so any walk tells what the scan finds.
-/

import TypeSplit.Source.Site

namespace TypeSplit.Text

/-! ## The first place of a character -/

theorem indexFrom?_eq_some_iff {c : Char} {at_ o : Nat} {t : Text} :
    indexFrom? c at_ t = some o ↔ at_ ≤ o ∧ t[o - at_]? = some c ∧ ∀ i < o - at_, t[i]? ≠ some c := by
  induction t generalizing at_ with
  | nil => simp [indexFrom?]
  | cons x rest ih =>
    by_cases hx : x = c
    · simp only [indexFrom?, hx, if_true, Option.some.injEq]
      constructor
      · rintro rfl; simp
      · rintro ⟨h1, -, h2⟩
        by_cases h0 : o = at_
        · exact h0.symm
        · exact absurd (by simp) (h2 0 (by omega))
    · simp only [indexFrom?, hx, if_false, ih]
      constructor
      · rintro ⟨h1, h2, h3⟩
        have hs : o - at_ = (o - (at_ + 1)) + 1 := by omega
        refine ⟨by omega, by rw [hs]; simpa using h2, ?_⟩
        intro i hi
        cases i with
        | zero => simpa using hx
        | succ i => simpa using h3 i (by omega)
      · rintro ⟨h1, h2, h3⟩
        have h0 : o ≠ at_ := by
          rintro rfl
          simp [hx] at h2
        have hs : o - at_ = (o - (at_ + 1)) + 1 := by omega
        rw [hs] at h2
        refine ⟨by omega, by simpa using h2, ?_⟩
        intro i hi
        simpa using h3 (i + 1) (by omega)

theorem place_natCast (size n : Nat) : place size (n : Int) = min n size := by
  simp only [place, show ¬ (n : Int) < 0 by omega, if_false, Int.toNat_natCast]

theorem slice_natCast (t : Text) (i j : Nat) : slice t i j = (t.take j).drop i := by
  rw [slice, place_natCast, place_natCast, ← List.take_eq_take_min]
  by_cases hi : i ≤ t.length
  · rw [Nat.min_eq_left hi]
  · have hlen : (t.take j).length ≤ t.length := (List.take_sublist j t).length_le
    rw [List.drop_of_length_le (by omega), List.drop_of_length_le (by omega)]

theorem find?_eq_some_iff {t : Text} {c : Char} {p e o : Nat} :
    find? t c p e = some o ↔ p ≤ o ∧ o < e ∧ t[o]? = some c ∧ ∀ i, p ≤ i → i < o → t[i]? ≠ some c := by
  simp only [find?, slice, place_natCast, indexFrom?_eq_some_iff, List.getElem?_drop, List.getElem?_take]
  constructor
  · rintro ⟨h1, h2, h3⟩
    split at h2
    · rename_i hlt
      have hp : p ≤ o := by omega
      have ho : min p t.length + (o - min p t.length) = o := by omega
      rw [ho] at h2
      refine ⟨hp, by omega, h2, ?_⟩
      intro i hpi hio
      have := h3 (i - min p t.length) (by omega)
      rwa [if_pos (by omega), show min p t.length + (i - min p t.length) = i by omega] at this
    · cases h2
  · rintro ⟨h1, h2, h3, h4⟩
    obtain ⟨hlt, -⟩ := List.getElem?_eq_some_iff.mp h3
    refine ⟨by omega, ?_, ?_⟩
    · rw [if_pos (by omega), show min p t.length + (o - min p t.length) = o by omega]; exact h3
    · intro i hi
      rw [if_pos (by omega)]
      exact h4 _ (by omega) (by omega)

theorem find?_eq_none_iff {t : Text} {c : Char} {p e : Nat} :
    find? t c p e = none ↔ ∀ i, p ≤ i → i < e → t[i]? ≠ some c := by
  constructor
  · intro h i hpi hie hc
    -- The least such offset would have been found.
    induction i using Nat.strongRecOn with
    | ind i ih =>
      by_cases hex : ∃ j, p ≤ j ∧ j < i ∧ t[j]? = some c
      · obtain ⟨j, h1, h2, h3⟩ := hex
        exact ih j h2 h1 (by omega) h3
      · have hfirst : ∀ j, p ≤ j → j < i → t[j]? ≠ some c := fun j h1 h2 h3 => hex ⟨j, h1, h2, h3⟩
        rw [find?_eq_some_iff.mpr ⟨hpi, hie, hc, hfirst⟩] at h
        cases h
  · intro h
    cases hf : find? t c p e with
    | none => rfl
    | some o =>
      obtain ⟨h1, h2, h3, -⟩ := find?_eq_some_iff.mp hf
      exact absurd h3 (h o h1 h2)

/-- What is found stands at its place, and not before the start of the search, from wherever that is counted. -/
theorem of_find? {t : Text} {c : Char} {start stop : Int} {o : Nat} (h : find? t c start stop = some o) :
    t[o]? = some c ∧ start ≤ o := by
  obtain ⟨hle, hget, -⟩ := indexFrom?_eq_some_iff.mp h
  rw [slice, List.getElem?_drop, List.getElem?_take, Nat.add_sub_cancel' hle] at hget
  split at hget
  · refine ⟨hget, ?_⟩
    have hlt : o < t.length := (List.getElem?_eq_some_iff.mp hget).1
    unfold place at hle
    split at hle <;> omega
  · cases hget

/-- The front of a text, cut in two. -/
theorem take_cut (t : Text) {i j : Nat} (h : i ≤ j) : t.take j = t.take i ++ (t.take j).drop i := by
  conv => lhs; rw [← List.take_append_drop i (t.take j), List.take_take, Nat.min_eq_left h]

/-- What stands between two offsets. -/
theorem mem_part_iff {t : Text} {i j : Nat} {c : Char} :
    c ∈ (t.take j).drop i ↔ ∃ k, i ≤ k ∧ k < j ∧ t[k]? = some c := by
  simp only [List.mem_iff_getElem?, List.getElem?_drop, List.getElem?_take]
  constructor
  · intro ⟨n, hn⟩
    split at hn
    · exact ⟨i + n, by omega, ‹_›, hn⟩
    · cases hn
  · intro ⟨k, hik, hkj, hk⟩
    refine ⟨k - i, ?_⟩
    rw [Nat.add_sub_cancel' hik, if_pos hkj]
    exact hk

theorem hasPart_iff {part t : Text} : hasPart part t = true ↔ part <:+: t := by
  induction t with
  | nil => simp [hasPart]
  | cons c rest ih =>
    rw [hasPart, Bool.or_eq_true, ih, List.isPrefixOf_iff_prefix, List.infix_cons_iff]

end TypeSplit.Text

namespace TypeSplit.Source

namespace Cursor

/-! ## Places of one text -/

def text (c : Cursor) : Text := c.behind.reverse ++ c.ahead

@[simp] theorem text_at (w : Text) (i : Nat) : (at_ w i).text = w := by simp [text, at_]

theorem offset_at {w : Text} {i : Nat} (h : i ≤ w.length) : (at_ w i).offset = i := by
  simp [offset, at_, Nat.min_eq_left h]

theorem at_offset (c : Cursor) : at_ c.text c.offset = c := by
  obtain ⟨behind, ahead⟩ := c
  simp [text, at_, offset]

@[simp] theorem ahead_at (w : Text) (i : Nat) : (at_ w i).ahead = w.drop i := rfl
@[simp] theorem behind_at (w : Text) (i : Nat) : (at_ w i).behind = (w.take i).reverse := rfl

theorem eq_at {c : Cursor} {w : Text} (h : c.text = w) : c = at_ w c.offset := by rw [← h, at_offset]

theorem advance_eq (n : Nat) (c : Cursor) : c.advance n = at_ c.text (c.offset + n) := by
  induction n generalizing c with
  | zero => exact (at_offset c).symm
  | succ n ih =>
    obtain ⟨behind, ahead⟩ := c
    cases ahead with
    | nil =>
      have : behind.length + (n + 1) ≥ behind.reverse.length := by simp
      simp [advance, text, at_, offset, List.take_of_length_le this]
    | cons x rest =>
      show advance ⟨x :: behind, rest⟩ n = _
      rw [ih ⟨x :: behind, rest⟩]
      simp only [text, offset, List.length_cons, List.reverse_cons, List.append_assoc, List.singleton_append]
      rw [show behind.length + 1 + n = behind.length + (n + 1) by omega]

/-! ## The next line -/

theorem nextLine?_go_some {behind ahead : Text} {d : Cursor} (h : nextLine?.go behind ahead = some d) :
    ∃ a, ahead = a ++ '\n' :: d.ahead ∧ '\n' ∉ a ∧ d.behind = '\n' :: (a.reverse ++ behind) := by
  induction ahead generalizing behind with
  | nil => cases h
  | cons x rest ih =>
    simp only [nextLine?.go] at h
    split at h
    · rename_i hx; cases h; exact ⟨[], by simp [hx], by simp, by simp [hx]⟩
    · rename_i hx
      obtain ⟨a, ha, hn, hb⟩ := ih h
      exact ⟨x :: a, by simp [ha], by simp [hn, Ne.symm hx], by simp [hb]⟩

theorem nextLine?_go_none {behind ahead : Text} (h : nextLine?.go behind ahead = none) : '\n' ∉ ahead := by
  induction ahead generalizing behind with
  | nil => simp
  | cons x rest ih =>
    simp only [nextLine?.go] at h
    split at h
    · cases h
    · rename_i hx; simp only [List.mem_cons, not_or]; exact ⟨Ne.symm hx, ih h⟩

theorem nextLine?_some {c d : Cursor} (h : c.nextLine? = some d) :
    d.text = c.text ∧ c.offset < d.offset ∧ ∀ i, c.offset ≤ i → i + 1 < d.offset → c.text[i]? ≠ some '\n' := by
  obtain ⟨a, ha, hn, hb⟩ := nextLine?_go_some h
  obtain ⟨behind, ahead⟩ := c
  obtain ⟨behind', ahead'⟩ := d
  simp only at ha hb
  subst ha hb
  refine ⟨by simp [text], by simp only [offset, List.length_cons, List.length_append, List.length_reverse]; omega, ?_⟩
  intro i h1 h2 hi
  simp only [offset, List.length_cons, List.length_append, List.length_reverse] at h1 h2
  simp only [text] at hi
  rw [List.getElem?_append_right (by simpa using h1), List.length_reverse,
    List.getElem?_append_left (by omega)] at hi
  exact hn (List.mem_of_getElem? hi)

theorem nextLine?_none {c : Cursor} (h : c.nextLine? = none) (i : Nat) (hi : c.offset ≤ i) :
    c.text[i]? ≠ some '\n' := by
  have hn := nextLine?_go_none h
  obtain ⟨behind, ahead⟩ := c
  intro hc
  simp only [text, offset] at hc hi
  rw [List.getElem?_append_right (by simpa using hi)] at hc
  exact hn (List.mem_of_getElem? hc)

/-! ## Comments -/

/-- What stands before the offset ends with `//` and something without a newline. -/
def Commented (w : Text) (i : Nat) : Prop := ∃ front rest, w.take i = front ++ ('/' :: '/' :: rest) ∧ '\n' ∉ rest

theorem inLineComment_iff {w : Text} {i : Nat} : (at_ w i).inLineComment = true ↔ Commented w i := by
  rw [inLineComment, Text.hasPart_iff, behind_at]
  constructor
  · intro ⟨a, b, hline⟩
    -- The line is read backwards from the offset, so `a` stands between the slashes and the offset.
    have hback := List.takeWhile_append_dropWhile (p := (· ≠ '\n')) (l := (w.take i).reverse)
    have hfree : '\n' ∉ a := by
      intro hmem
      have hmem' : '\n' ∈ (w.take i).reverse.takeWhile (· ≠ '\n') := by
        rw [← hline]
        exact List.mem_append_left _ (List.mem_append_left _ hmem)
      simpa using List.all_eq_true.mp List.all_takeWhile _ hmem'
    refine ⟨((w.take i).reverse.dropWhile (· ≠ '\n')).reverse ++ b.reverse, a.reverse, ?_, by simpa using hfree⟩
    rw [← hline] at hback
    have htext := congrArg List.reverse hback
    rw [List.reverse_reverse] at htext
    exact htext.symm.trans (by simp)
  · intro ⟨front, rest, htake, hfree⟩
    have hall : ∀ x ∈ rest.reverse ++ ['/', '/'], decide (x ≠ '\n') = true := by
      intro x hx
      rcases List.mem_append.mp hx with hx | hx
      · simpa using fun h : x = '\n' => hfree (h ▸ List.mem_reverse.mp hx)
      · have hslash : x = '/' := by simpa using hx
        rw [hslash]
        decide
    have hback : (w.take i).reverse = (rest.reverse ++ ['/', '/']) ++ front.reverse := by
      rw [htake]
      simp
    rw [hback, List.takeWhile_append_of_pos hall]
    exact ⟨rest.reverse, _, rfl⟩

/-- A comment goes on to the end of its line. -/
theorem inLineComment_mono {w : Text} {i j : Nat} (hij : i ≤ j) (h : (at_ w i).inLineComment = true)
    (hn : ∀ k, i ≤ k → k < j → w[k]? ≠ some '\n') : (at_ w j).inLineComment = true := by
  rw [inLineComment_iff] at h ⊢
  obtain ⟨front, rest, htake, hfree⟩ := h
  have hpart : '\n' ∉ (w.take j).drop i := by
    intro hmem
    obtain ⟨k, hik, hkj, hk⟩ := Text.mem_part_iff.mp hmem
    exact hn k hik hkj hk
  refine ⟨front, rest ++ (w.take j).drop i, ?_, ?_⟩
  · exact (Text.take_cut w hij).trans (by rw [htake]; simp)
  · intro hmem
    rcases List.mem_append.mp hmem with hmem | hmem
    · exact hfree hmem
    · exact hpart hmem

end Cursor

/-! ## The search for the next place -/

variable {α : Type} {accepts : Recogniser α}

theorem search?_some {behind ahead : Text} {place : Cursor} {a : α} {n : Nat}
    (h : search? accepts behind ahead = some (place, a, n)) :
    place.text = behind.reverse ++ ahead ∧ behind.length ≤ place.offset ∧ accepts place = some (a, n) ∧
      ∀ i, behind.length ≤ i → i < place.offset → accepts (.at_ (behind.reverse ++ ahead) i) = none := by
  induction ahead generalizing behind with
  | nil =>
    simp only [search?, Option.map_eq_some_iff, Prod.mk.injEq] at h
    obtain ⟨⟨a', n'⟩, hx, rfl, rfl, rfl⟩ := h
    exact ⟨rfl, Nat.le_refl _, hx, fun i h1 h2 => absurd h1 (Nat.not_le.mpr h2)⟩
  | cons x rest ih =>
    simp only [search?] at h
    split at h
    · rename_i hx; cases h
      exact ⟨rfl, Nat.le_refl _, hx, fun i h1 h2 => absurd h1 (Nat.not_le.mpr h2)⟩
    · rename_i hx
      obtain ⟨ht, ho, ha, hnone⟩ := ih h
      simp only [List.reverse_cons, List.append_assoc, List.singleton_append, List.length_cons] at ht ho hnone
      refine ⟨ht, by omega, ha, ?_⟩
      intro i h1 h2
      by_cases he : i = behind.length
      · have := Cursor.at_offset ⟨behind, x :: rest⟩
        simp only [Cursor.text, Cursor.offset] at this
        rw [he, this]; exact hx
      · exact hnone i (by omega) h2

theorem search?_none {behind ahead : Text} (h : search? accepts behind ahead = none) (i : Nat)
    (h1 : behind.length ≤ i) (h2 : i ≤ (behind.reverse ++ ahead).length) :
    accepts (.at_ (behind.reverse ++ ahead) i) = none := by
  induction ahead generalizing behind with
  | nil =>
    simp only [search?, Option.map_eq_none_iff] at h
    have he : i = behind.length := by simp at h2; omega
    have := Cursor.at_offset ⟨behind, []⟩
    simp only [Cursor.text, Cursor.offset] at this
    rw [he, this]; exact h
  | cons x rest ih =>
    simp only [search?] at h
    split at h
    · cases h
    · rename_i hx
      by_cases he : i = behind.length
      · have := Cursor.at_offset ⟨behind, x :: rest⟩
        simp only [Cursor.text, Cursor.offset] at this
        rw [he, this]; exact hx
      · have hle : (x :: behind).length ≤ i := by simp only [List.length_cons]; omega
        have := ih h hle (by simpa using h2)
        simpa using this

/-! ## The walk -/

/-- A recogniser that takes at least one character, and none behind the end of the text. -/
def Recogniser.Advances (accepts : Recogniser α) : Prop :=
  ∀ c a n, accepts c = some (a, n) → 0 < n ∧ n ≤ c.ahead.length

/-- A recogniser that advances at the offsets of one text from `i` on: it fails, or it ends behind the offset and not behind
the end of the text. -/
def Recogniser.AdvancesIn (accepts : Recogniser α) (w : Text) (i : Nat) : Prop :=
  ∀ p a n, i ≤ p → accepts (.at_ w p) = some (a, n) → p < p + n ∧ p + n ≤ w.length

theorem Recogniser.AdvancesIn.mono {w : Text} {i j : Nat} (h : accepts.AdvancesIn w i) (hij : i ≤ j) :
    accepts.AdvancesIn w j :=
  fun p a n hp => h p a n (Nat.le_trans hij hp)

theorem Recogniser.Advances.advancesIn (h : accepts.Advances) (w : Text) (i : Nat) : accepts.AdvancesIn w i := by
  intro p a n _ haccepts
  obtain ⟨hpos, hle⟩ := h _ a n haccepts
  rw [Cursor.ahead_at, List.length_drop] at hle
  omega

/-- The offset is no site: the recogniser fails there, or it lies behind `//`. -/
def Passed (accepts : Recogniser α) (w : Text) (i : Nat) : Prop :=
  accepts (.at_ w i) = none ∨ (Cursor.at_ w i).inLineComment = true

inductive Scan (accepts : Recogniser α) (w : Text) : Nat → List (Site α) → Prop
  | done (i : Nat) : (∀ k, i ≤ k → k ≤ w.length → Passed accepts w k) → Scan accepts w i []
  | pass (i j : Nat) (s : List (Site α)) : i ≤ j → (∀ k, i ≤ k → k < j → Passed accepts w k) →
      Scan accepts w j s → Scan accepts w i s
  | take (i n : Nat) (a : α) (s : List (Site α)) : accepts (.at_ w i) = some (a, n) →
      (Cursor.at_ w i).inLineComment = false → i + n ≤ w.length → 0 < n → Scan accepts w (i + n) s →
      Scan accepts w i (⟨i, i + n, a⟩ :: s)

/-- What the search skips, and the rest of the line if the place is in a comment, is passed over. -/
theorem passed_of_search? {c place : Cursor} {a : α} {n : Nat}
    (h : search? accepts c.behind c.ahead = some (place, a, n)) {k : Nat} (h1 : c.offset ≤ k)
    (h2 : place.offset ≤ k → place.inLineComment = true ∧ ∀ i, place.offset ≤ i → i < k → c.text[i]? ≠ some '\n') :
    Passed accepts c.text k := by
  obtain ⟨ht, -, -, hnone⟩ := search?_some h
  by_cases hk : k < place.offset
  · exact Or.inl (hnone k h1 hk)
  · obtain ⟨hc, hn⟩ := h2 (by omega)
    rw [Cursor.eq_at ht] at hc
    exact Or.inr (Cursor.inLineComment_mono (by omega) hc hn)

theorem sitesFrom_scan_in (c : Cursor) (ha : accepts.AdvancesIn c.text c.offset) :
    Scan accepts c.text c.offset (sitesFrom accepts c) := by
  fun_induction sitesFrom accepts c with
  | case1 c hend =>
    refine .done _ fun k h1 h2 => Or.inl ?_
    cases hk : accepts (.at_ c.text k) with
    | none => rfl
    | some r =>
      have := ha k r.1 r.2 h1 hk
      simp only [Cursor.text, hend, Cursor.offset, List.append_nil, List.length_reverse] at this h1 h2
      omega
  | case2 c hend hnone => exact .done _ fun k h1 h2 => Or.inl (search?_none hnone k h1 h2)
  | case3 c hend place a n hfound hc hnext =>
    obtain ⟨ht, -⟩ := search?_some hfound
    refine .done _ fun k h1 h2 => passed_of_search? hfound h1 fun h3 => ⟨hc, fun i h4 _ => ?_⟩
    have := Cursor.nextLine?_none hnext i h4
    rwa [ht] at this
  | case4 c hend place a n hfound hc d hnext ih =>
    obtain ⟨ht, ho, -⟩ := search?_some hfound
    obtain ⟨hd, hlt, hn⟩ := Cursor.nextLine?_some hnext
    have htext : d.text = c.text := hd.trans ht
    have hle : c.offset ≤ d.offset := Nat.le_of_lt (Nat.lt_of_le_of_lt ho hlt)
    rw [htext] at ih
    refine .pass _ d.offset _ hle (fun k h1 h2 => ?_) (ih (ha.mono hle))
    refine passed_of_search? hfound h1 fun _ => ⟨hc, fun i h4 h5 => ?_⟩
    have := hn i h4 (by omega)
    rwa [ht] at this
  | case5 c hend place a n hfound hc hlast =>
    obtain ⟨ht, ho, hacc, -⟩ := search?_some hfound
    have hat : place = .at_ c.text place.offset := Cursor.eq_at ht
    rw [hat] at hacc
    have := ha _ _ _ ho hacc
    have hlength : c.text.length = place.offset := by
      rw [show c.text = place.text from ht.symm]
      simp [Cursor.text, Cursor.offset, hlast]
    omega
  | case6 c hend place a n hfound hc hlast ih =>
    obtain ⟨ht, ho, hacc, hnone⟩ := search?_some hfound
    have hat : place = .at_ c.text place.offset := Cursor.eq_at ht
    rw [hat] at hacc hc
    obtain ⟨hpos, hbound⟩ := ha _ _ _ ho hacc
    have hle : c.offset ≤ place.offset + n := Nat.le_trans ho (Nat.le_add_right _ _)
    rw [show max n 1 = n by omega, Cursor.advance_eq, show place.text = c.text from ht, Cursor.text_at,
      Cursor.offset_at hbound] at ih
    refine .pass _ place.offset _ ho (fun k h1 h2 => Or.inl (hnone k h1 h2)) ?_
    rw [show max n 1 = n by omega, Cursor.advance_eq, show place.text = c.text from ht]
    exact .take _ n a _ hacc (by simpa using hc) hbound (by omega) (ih (ha.mono hle))

theorem sitesFrom_scan (ha : accepts.Advances) (c : Cursor) : Scan accepts c.text c.offset (sitesFrom accepts c) :=
  sitesFrom_scan_in c (ha.advancesIn _ _)

theorem sites_scan_in {t : Text} {start stop : Nat} (ha : accepts.AdvancesIn (t.take stop) start)
    (h : start ≤ (t.take stop).length) : Scan accepts (t.take stop) start (sites accepts t start stop) := by
  have hoffset : (Cursor.at_ (t.take stop) start).offset = start := Cursor.offset_at h
  have hadvances : accepts.AdvancesIn (Cursor.at_ (t.take stop) start).text (Cursor.at_ (t.take stop) start).offset := by
    rwa [Cursor.text_at, hoffset]
  have hscan := sitesFrom_scan_in _ hadvances
  rwa [Cursor.text_at, hoffset] at hscan

/-- The scan of a window is a walk over the text before its end. -/
theorem sites_scan (ha : accepts.Advances) {t : Text} {start stop : Nat} (h1 : start ≤ stop) (h2 : start ≤ t.length) :
    Scan accepts (t.take stop) start (sites accepts t start stop) :=
  sites_scan_in (ha.advancesIn _ _) (by rw [List.length_take]; omega)

/-! ## What a walk sees -/

namespace Scan

variable {w : Text} {i : Nat} {s : List (Site α)}

theorem accepted (h : Scan accepts w i s) {x : Site α} (hx : x ∈ s) :
    i ≤ x.start ∧ x.start < x.stop ∧ x.stop ≤ w.length ∧
      accepts (.at_ w x.start) = some (x.value, x.stop - x.start) ∧
      (Cursor.at_ w x.start).inLineComment = false := by
  induction h with
  | done => cases hx
  | pass i j s hij _ _ ih => obtain ⟨h1, h2⟩ := ih hx; exact ⟨by omega, h2⟩
  | take i n a s ha hc hle hpos _ ih =>
    rcases List.mem_cons.mp hx with rfl | hx
    · refine ⟨Nat.le_refl _, by simpa using hpos, hle, ?_, hc⟩
      rw [Nat.add_sub_cancel_left]; exact ha
    · obtain ⟨h1, h2⟩ := ih hx
      exact ⟨by omega, h2⟩

theorem ordered (h : Scan accepts w i s) : s.Pairwise fun a b => a.stop ≤ b.start := by
  induction h with
  | done => exact .nil
  | pass _ _ _ _ _ _ ih => exact ih
  | take i n a s _ _ _ _ h ih => exact .cons (fun x hx => (h.accepted hx).1) ih

theorem stop_le (h : Scan accepts w i s) {x y : Site α} (hx : x ∈ s) (hy : y ∈ s) (hlt : x.start < y.start) :
    x.stop ≤ y.start := by
  induction h with
  | done => cases hx
  | pass _ _ _ _ _ _ ih => exact ih hx hy
  | take i n a s _ _ _ _ h ih =>
    rcases List.mem_cons.mp hx with rfl | hx <;> rcases List.mem_cons.mp hy with rfl | hy
    · exact absurd hlt (Nat.lt_irrefl _)
    · exact (h.accepted hy).1
    · have := (h.accepted hx).1
      simp only at hlt
      omega
    · exact ih hx hy

theorem covers (h : Scan accepts w i s) {p : Nat} (h1 : i ≤ p) (h2 : p ≤ w.length) (hp : ¬ Passed accepts w p) :
    ∃ x ∈ s, x.start ≤ p ∧ p < x.stop := by
  induction h with
  | done i hall => exact absurd (hall p h1 h2) hp
  | pass i j s _ hall _ ih =>
    by_cases hj : p < j
    · exact absurd (hall p h1 hj) hp
    · exact ih (by omega)
  | take i n a s _ _ _ _ _ ih =>
    by_cases hn : p < i + n
    · exact ⟨_, List.mem_cons_self, h1, hn⟩
    · obtain ⟨x, hx, h3⟩ := ih (by omega)
      exact ⟨x, List.mem_cons_of_mem _ hx, h3⟩

theorem found (h : Scan accepts w i s) {p n : Nat} {a : α} (h1 : i ≤ p) (h2 : p ≤ w.length)
    (ha : accepts (.at_ w p) = some (a, n)) (hc : (Cursor.at_ w p).inLineComment = false)
    (hover : ∀ x ∈ s, x.start < p → x.stop ≤ p) : ⟨p, p + n, a⟩ ∈ s := by
  have hp : ¬ Passed accepts w p := by rintro (h | h) <;> simp_all
  obtain ⟨x, hx, h3, h4⟩ := h.covers h1 h2 hp
  have he : x.start = p := by
    rcases Nat.lt_or_eq_of_le h3 with hlt | he
    · exact absurd (hover x hx hlt) (by omega)
    · exact he
  obtain ⟨-, -, -, hacc, -⟩ := h.accepted hx
  rw [he, ha] at hacc
  simp only [Option.some.injEq, Prod.mk.injEq] at hacc
  obtain ⟨start, stop, value⟩ := x
  simp only at he h4 hacc
  have : stop = p + n := by omega
  rw [this, he, ← hacc.1] at hx
  exact hx

/-- A walk can be joined later, if everything up to there is passed over. -/
theorem skip (h : Scan accepts w i s) {j : Nat} (hij : i ≤ j) (hall : ∀ k, i ≤ k → k < j → Passed accepts w k) :
    Scan accepts w j s := by
  induction h with
  | done i hdone => exact .done j fun k h1 h2 => hdone k (by omega) h2
  | pass i l s hil hpass hrest ih =>
    by_cases hlj : l ≤ j
    · exact ih hlj fun k h1 h2 => hall k (by omega) h2
    · exact .pass j l s (by omega) (fun k h1 h2 => hpass k (by omega) h2) hrest
  | take i n a s ha hc hle hpos hrest ih =>
    by_cases hlt : i < j
    · rcases hall i (Nat.le_refl _) hlt with h | h <;> simp_all
    · obtain rfl : i = j := by omega
      exact .take i n a s ha hc hle hpos hrest

/-- Where the recogniser accepts outside comments, the walk takes the site. -/
theorem first (h : Scan accepts w i s) {a : α} {n : Nat} (hi : i ≤ w.length) (ha : accepts (.at_ w i) = some (a, n))
    (hc : (Cursor.at_ w i).inLineComment = false) : ∃ s', s = ⟨i, i + n, a⟩ :: s' ∧ Scan accepts w (i + n) s' := by
  have hp : ¬ Passed accepts w i := by rintro (h | h) <;> simp_all
  induction h with
  | done i hdone => exact absurd (hdone i (Nat.le_refl _) hi) hp
  | pass i j s hij hpass _ ih =>
    rcases Nat.lt_or_eq_of_le hij with hlt | rfl
    · exact absurd (hpass i (Nat.le_refl _) hlt) hp
    · exact ih hi ha hc hp
  | take i n' a' s ha' _ _ _ hrest _ =>
    rw [ha, Option.some.injEq, Prod.mk.injEq] at ha'
    obtain ⟨rfl, rfl⟩ := ha'
    exact ⟨s, rfl, hrest⟩

/-- There is one walk from an offset. -/
theorem unique {s' : List (Site α)} (h : Scan accepts w i s) (h' : Scan accepts w i s') : s = s' := by
  induction h generalizing s' with
  | done i hdone =>
    cases s' with
    | nil => rfl
    | cons x s' =>
      obtain ⟨h1, h2, h3, hacc, hcomment⟩ := h'.accepted List.mem_cons_self
      rcases hdone x.start h1 (by omega) with h | h <;> simp_all
  | pass i j s hij hpass _ ih => exact ih (h'.skip hij hpass)
  | take i n a s ha hc hle _ _ ih =>
    obtain ⟨rest, rfl, hrest⟩ := h'.first (by omega) ha hc
    rw [ih hrest]

/-- A walk that passes over everything before and behind one match sees that match alone. -/
theorem single (h : Scan accepts w i s) {q n : Nat} {a : α} (h1 : i ≤ q) (h2 : q ≤ w.length)
    (ha : accepts (.at_ w q) = some (a, n)) (hc : (Cursor.at_ w q).inLineComment = false)
    (hbefore : ∀ p, i ≤ p → p < q → Passed accepts w p)
    (hbehind : ∀ p, q + n ≤ p → p ≤ w.length → Passed accepts w p) : s = [⟨q, q + n, a⟩] := by
  obtain ⟨rest, rfl, hrest⟩ := (h.skip h1 hbefore).first h2 ha hc
  rw [hrest.unique (.done _ hbehind)]

end Scan

end TypeSplit.Source
