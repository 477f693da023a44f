/-
  TypeSplit.Proofs.Token — where a word stands as a token.

  A word stands as a token where no word character stands before it or behind it (`hasToken_iff`). The cut at the
  first token passes over other words and over blanks (`splitToken?_word`, `splitToken?_blanks`) and is made where
  the word itself stands (`splitToken?_here`). Texts that are alike have the same tokens.
-/

import TypeSplit.Proofs.Alike

namespace TypeSplit.Text

open TypeSplit.Declaration (Blanks Word)

variable {k : Text} {before : Option Char}

theorem boundary_eq_not_left {c : Char} (hc : isWord c = true) : boundary before (some c) = !before.any isWord := by
  cases h : before.any isWord <;> simp [boundary, h, hc]

theorem boundary_eq_not_right {after : Option Char} {c : Char} (hc : isWord c = true) :
    boundary (some c) after = !after.any isWord := by
  cases h : after.any isWord <;> simp [boundary, h, hc]

theorem getLast?_word (hk : Word k) : ∃ y, k.getLast? = some y ∧ isWord y = true :=
  ⟨k.getLast hk.ne, List.getLast?_eq_getLast_of_ne_nil hk.ne, hk.all _ (List.getLast_mem hk.ne)⟩

/-- The two boundaries of a token, said of the texts around it. -/
theorem token_boundaries (hk : Word k) {c : Char} {rest after : Text} (h : k ++ after = c :: rest) :
    (boundary before (some c) && boundary (k.getLast?.or before) after.head?) = true ↔
      StopsAt isWord before.toList ∧ StopsAt isWord after := by
  obtain ⟨x, k', rfl, hx⟩ := hk.cons
  obtain ⟨rfl, -⟩ := List.cons.inj h
  obtain ⟨y, hy, hyw⟩ := getLast?_word hk
  rw [hy, Option.some_or, boundary_eq_not_left hx, boundary_eq_not_right hyw, Bool.and_eq_true, Bool.not_eq_true',
    Bool.not_eq_true', any_head?_eq_false]
  refine and_congr_left fun _ => ?_
  cases before <;> simp

theorem splitToken?_sound (hk : Word k) {t a b : Text} (h : splitToken? k before t = some (a, b)) :
    t = a ++ (k ++ b) ∧ StopsAt isWord (a.reverse ++ before.toList) ∧ StopsAt isWord b := by
  induction t generalizing before a with
  | nil =>
    have := hk.ne
    simp [splitToken?, this] at h
  | cons c rest ih =>
    have skipped : (splitToken? k (some c) rest).map (fun cut => (c :: cut.1, cut.2)) = some (a, b) →
        c :: rest = a ++ (k ++ b) ∧ StopsAt isWord (a.reverse ++ before.toList) ∧ StopsAt isWord b := by
      intro h
      simp only [Option.map_eq_some_iff, Prod.exists, Prod.mk.injEq] at h
      obtain ⟨p, r, hp, rfl, rfl⟩ := h
      obtain ⟨rfl, h1, h2⟩ := ih hp
      refine ⟨rfl, ?_, h2⟩
      rw [List.reverse_cons, List.append_assoc]
      cases hr : p.reverse with
      | nil => simpa [hr] using h1
      | cons y p' => simpa [hr] using h1
    simp only [splitToken?] at h
    split at h
    · rename_i after hafter
      have hafter := List.isPrefixOf?_eq_some_iff_append_eq.mp hafter
      split at h
      · rename_i hb
        cases h
        obtain ⟨h1, h2⟩ := (token_boundaries hk hafter).mp hb
        exact ⟨hafter.symm, h1, h2⟩
      · exact skipped h
    · exact skipped h

theorem splitToken?_here (hk : Word k) (hb : StopsAt isWord before.toList) {b : Text} (h : StopsAt isWord b) :
    splitToken? k before (k ++ b) = some ([], b) := by
  obtain ⟨x, k', hxk, -⟩ := hk.cons
  have hcons : k ++ b = x :: (k' ++ b) := by rw [hxk]; rfl
  have hpre : k.isPrefixOf? (x :: (k' ++ b)) = some b := List.isPrefixOf?_eq_some_iff_append_eq.mpr hcons
  rw [hcons]
  simp only [splitToken?, hpre]
  rw [if_pos ((token_boundaries hk hcons).mpr ⟨hb, h⟩)]

theorem splitToken?_isSome (hk : Word k) {a b : Text} (ha : StopsAt isWord (a.reverse ++ before.toList))
    (hb : StopsAt isWord b) : (splitToken? k before (a ++ (k ++ b))).isSome = true := by
  induction a generalizing before with
  | nil =>
    rw [List.nil_append, splitToken?_here hk ha hb]
    rfl
  | cons c a ih =>
    have hrest : (splitToken? k (some c) (a ++ (k ++ b))).isSome = true := by
      refine ih ?_
      rw [List.reverse_cons, List.append_assoc] at ha
      cases hr : a.reverse with
      | nil => simpa [hr] using ha
      | cons y a' => simpa [hr] using ha
    rw [List.cons_append]
    simp only [splitToken?]
    split
    · split
      · rfl
      · simpa using hrest
    · simpa using hrest

theorem hasToken_iff (hk : Word k) {t : Text} :
    hasToken k t = true ↔ ∃ a b, t = a ++ (k ++ b) ∧ StopsAt isWord a.reverse ∧ StopsAt isWord b := by
  constructor
  · intro h
    obtain ⟨⟨a, b⟩, hab⟩ := Option.isSome_iff_exists.mp h
    obtain ⟨h1, h2, h3⟩ := splitToken?_sound hk hab
    exact ⟨a, b, h1, by simpa using h2, h3⟩
  · intro hsplit
    obtain ⟨a, b, h1, h2, h3⟩ := hsplit
    rw [h1]
    exact splitToken?_isSome hk (by simpa using h2) h3

/-! ## The first token -/

theorem splitToken?_cons {c : Char} {t : Text}
    (h : ∀ after, k ++ after = c :: t → (boundary before (some c) && boundary (k.getLast?.or before) after.head?) = false) :
    splitToken? k before (c :: t) = (splitToken? k (some c) t).map fun x => (c :: x.1, x.2) := by
  simp only [splitToken?]
  split
  · rename_i after hafter
    rw [if_neg (by simp only [h after (List.isPrefixOf?_eq_some_iff_append_eq.mp hafter), Bool.false_eq_true,
      not_false_eq_true])]
  · rfl

/-- No token begins inside a word. -/
theorem splitToken?_inside {w s : Text} (hw : ∀ c ∈ w, isWord c = true) (before : Option Char)
    (hb : before.any isWord = true) :
    ∃ before', splitToken? k before (w ++ s) = (splitToken? k before' s).map fun x => (w ++ x.1, x.2) := by
  induction w generalizing before with
  | nil => exact ⟨before, by simp⟩
  | cons c w ih =>
    have hc := hw c List.mem_cons_self
    obtain ⟨before', h⟩ := ih (fun d hd => hw d (List.mem_cons_of_mem _ hd)) (some c) (by simpa using hc)
    refine ⟨before', ?_⟩
    rw [List.cons_append, splitToken?_cons fun _ _ => by simp [boundary_eq_not_left hc, hb], h, Option.map_map]
    rfl

/-- Another word is passed over. -/
theorem splitToken?_word (hk : Word k) {m s : Text} (hm : Word m) (hne : m ≠ k) (hs : StopsAt isWord s)
    (before : Option Char) :
    ∃ before', splitToken? k before (m ++ s) = (splitToken? k before' s).map fun x => (m ++ x.1, x.2) := by
  obtain ⟨c, w, rfl, hc⟩ := hm.cons
  have hw : ∀ d ∈ w, isWord d = true := fun d hd => hm.all d (List.mem_cons_of_mem _ hd)
  obtain ⟨before', h⟩ := splitToken?_inside (k := k) (s := s) hw (some c) (by simpa using hc)
  refine ⟨before', ?_⟩
  rw [List.cons_append, splitToken?_cons, h, Option.map_map]
  · rfl
  · intro after hafter
    by_contra hb
    obtain ⟨-, hstop⟩ := (token_boundaries hk hafter).mp (by simpa using hb)
    exact hne (hk.append_inj hm hstop hs hafter).1.symm

theorem splitToken?_blanks (hk : Word k) {g s : Text} (hg : Blanks g) (before : Option Char) :
    ∃ before', StopsAt isWord before'.toList ∧
      splitToken? k before (g ++ s) = (splitToken? k before' s).map fun x => (g ++ x.1, x.2) := by
  obtain ⟨hne, hall⟩ := hg
  induction g generalizing before with
  | nil => exact absurd rfl hne
  | cons c g ih =>
    have hc := isWord_eq_false_of_isBlank (hall c List.mem_cons_self)
    have hstep : splitToken? k before (c :: (g ++ s)) = (splitToken? k (some c) (g ++ s)).map fun x => (c :: x.1, x.2) := by
      refine splitToken?_cons fun after hafter => ?_
      obtain ⟨x, k', rfl, hx⟩ := hk.cons
      obtain ⟨rfl, -⟩ := List.cons.inj hafter
      rw [hx] at hc
      cases hc
    rw [List.cons_append, hstep]
    by_cases hg : g = []
    · subst hg
      exact ⟨some c, by simpa using hc, rfl⟩
    · obtain ⟨before', hb, h⟩ := ih (some c) hg fun d hd => hall d (List.mem_cons_of_mem _ hd)
      refine ⟨before', hb, ?_⟩
      rw [h, Option.map_map]
      rfl

/-- The first token behind a run of other words. -/
theorem splitToken?_run {modifiers : List Text} (hm : ∀ m ∈ modifiers, Word m) (hk : Word k) (hn : k ∉ modifiers)
    {run rest : Text} (hrun : Declaration.ModifierRun modifiers run) (hb : StopsAt isWord before.toList)
    (hr : StopsAt isWord rest) : splitToken? k before (run ++ (k ++ rest)) = some (run, rest) := by
  induction hrun generalizing before with
  | nil => exact splitToken?_here hk hb hr
  | @cons m g run hmem hg _ ih =>
    have hne : m ≠ k := fun h => hn (h ▸ hmem)
    rw [List.append_assoc, List.append_assoc]
    obtain ⟨b1, h1⟩ := splitToken?_word hk (hm m hmem) hne (hg.stopsAt_word (run ++ (k ++ rest))) before
    obtain ⟨b2, hb2, h2⟩ := splitToken?_blanks (s := run ++ (k ++ rest)) hk hg b1
    rw [h1, h2, ih hb2]
    rfl

/-! ## Tokens and blanks -/

theorem hasToken_of_alike (hk : Word k) {a b : Text} (h : Alike a b) (ha : hasToken k a = true) : hasToken k b = true := by
  obtain ⟨x, y, rfl, hx, hy⟩ := (hasToken_iff hk).mp ha
  obtain ⟨x', y', rfl, hxx, hyy⟩ := h.split_word hk
  have hp : ∀ c, isBlank c = true → isWord c = false := fun c => isWord_eq_false_of_isBlank
  exact (hasToken_iff hk).mpr ⟨x', y', rfl, hxx.reverse.stopsAt hp hx, hyy.stopsAt hp hy⟩

theorem hasToken_alike (hk : Word k) {a b : Text} (h : Alike a b) : hasToken k a = hasToken k b :=
  Bool.eq_iff_iff.mpr ⟨hasToken_of_alike hk h, hasToken_of_alike hk h.symm⟩

theorem stopsAt_reverse_blank {g : Text} (hg : ∀ c ∈ g, isBlank c = true) : StopsAt isWord g.reverse := by
  intro x hx
  have : x ∈ g.reverse := List.mem_of_mem_head? hx
  exact isWord_eq_false_of_isBlank (hg x (List.mem_reverse.mp this))

theorem stopsAt_blank {g : Text} (hg : ∀ c ∈ g, isBlank c = true) : StopsAt isWord g := by
  intro x hx
  exact isWord_eq_false_of_isBlank (hg x (List.mem_of_mem_head? hx))

theorem stopsAt_append {p : Char → Bool} {a b : Text} (ha : StopsAt p a) (hb : StopsAt p b) : StopsAt p (a ++ b) := by
  cases a with
  | nil => exact hb
  | cons x a => simpa using ha

theorem StopsAt.of_append {p : Char → Bool} {a b : Text} (h : StopsAt p (a ++ b)) : StopsAt p a := by
  cases a with
  | nil => simp
  | cons x a => simpa using h

theorem hasToken_blanks_left (hk : Word k) {g s : Text} (hg : ∀ c ∈ g, isBlank c = true) :
    hasToken k (g ++ s) = hasToken k s := by
  refine Bool.eq_iff_iff.mpr ⟨fun h => ?_, fun h => ?_⟩
  · obtain ⟨a, b, hab, ha, hb⟩ := (hasToken_iff hk).mp h
    -- The word has no blank in it, so it stands behind the blanks.
    obtain ⟨x, k', rfl, hx⟩ := hk.cons
    obtain ⟨a', rfl, rfl⟩ := Alike.blanks_before hg (isBlank_eq_false_of_isWord hx) hab.symm
    rw [List.reverse_append] at ha
    exact (hasToken_iff hk).mpr ⟨a', b, rfl, ha.of_append, hb⟩
  · obtain ⟨a, b, rfl, ha, hb⟩ := (hasToken_iff hk).mp h
    refine (hasToken_iff hk).mpr ⟨g ++ a, b, by simp, ?_, hb⟩
    rw [List.reverse_append]
    exact stopsAt_append ha (stopsAt_reverse_blank hg)

theorem hasToken_blanks_right (hk : Word k) {s g : Text} (hg : ∀ c ∈ g, isBlank c = true) :
    hasToken k (s ++ g) = hasToken k s := by
  refine Bool.eq_iff_iff.mpr ⟨fun h => ?_, fun h => ?_⟩
  · obtain ⟨a, b, hab, ha, hb⟩ := (hasToken_iff hk).mp h
    -- Read backwards, the last character of the word stands behind the blanks.
    have hlast : k.dropLast ++ [k.getLast hk.ne] = k := List.dropLast_append_getLast hk.ne
    have hrev : b.reverse ++ k.getLast hk.ne :: (k.dropLast.reverse ++ a.reverse) = g.reverse ++ s.reverse := by
      have := congrArg List.reverse hab.symm
      rw [← hlast] at this
      simpa using this
    obtain ⟨b', hb', hs⟩ := Alike.blanks_before (by simpa using hg)
      (isBlank_eq_false_of_isWord (hk.all _ (List.getLast_mem hk.ne))) hrev
    have hs : s = a ++ (k ++ b'.reverse) := by
      have := congrArg List.reverse hs
      rw [← hlast]
      simpa using this
    have hb' : b = b'.reverse ++ g := by simpa using congrArg List.reverse hb'
    rw [hb'] at hb
    exact (hasToken_iff hk).mpr ⟨a, b'.reverse, hs, ha, hb.of_append⟩
  · obtain ⟨a, b, rfl, ha, hb⟩ := (hasToken_iff hk).mp h
    exact (hasToken_iff hk).mpr ⟨a, b ++ g, by simp, ha, stopsAt_append hb (stopsAt_blank hg)⟩

theorem hasToken_nil (hk : Word k) : hasToken k [] = false := by
  obtain ⟨x, k', rfl, -⟩ := hk.cons
  rfl

/-- A token does not reach over a character that is not one of words. -/
theorem hasToken_append_cons (hk : Word k) {x : Char} (hx : isWord x = false) (s r : Text) :
    hasToken k (s ++ x :: r) = (hasToken k s || hasToken k r) := by
  have hxk : x ∉ k := fun hm => absurd (hk.all x hm) (by simp [hx])
  refine Bool.eq_iff_iff.mpr ⟨fun h => ?_, fun h => ?_⟩
  · obtain ⟨a, b, hab, ha, hb⟩ := (hasToken_iff hk).mp h
    rw [Bool.or_eq_true]
    rcases List.append_eq_append_iff.mp hab with ⟨w, rfl, hr⟩ | ⟨w, rfl, hs⟩
    · cases w with
      | nil =>
        obtain ⟨y, k', rfl, -⟩ := hk.cons
        exact absurd (by rw [(List.cons.inj hr).1]; exact List.mem_cons_self) hxk
      | cons y w =>
        obtain ⟨rfl, rfl⟩ := List.cons.inj hr
        rw [List.reverse_append, List.reverse_cons, List.append_assoc] at ha
        exact Or.inr ((hasToken_iff hk).mpr ⟨w, b, rfl, ha.of_append, hb⟩)
    · obtain ⟨b', rfl, rfl⟩ := front_before hxk hs.symm
      exact Or.inl ((hasToken_iff hk).mpr ⟨a, b', rfl, ha, hb.of_append⟩)
  · rcases (Bool.or_eq_true _ _).mp h with h | h
    · obtain ⟨a, b, rfl, ha, hb⟩ := (hasToken_iff hk).mp h
      exact (hasToken_iff hk).mpr ⟨a, b ++ x :: r, by simp, ha, stopsAt_append hb (stopsAt_cons.mpr hx)⟩
    · obtain ⟨a, b, rfl, ha, hb⟩ := (hasToken_iff hk).mp h
      refine (hasToken_iff hk).mpr ⟨s ++ x :: a, b, by simp, ?_, hb⟩
      rw [List.reverse_append, List.reverse_cons, List.append_assoc]
      exact stopsAt_append ha (stopsAt_cons.mpr hx)

theorem strip_parts (s : Text) :
    ∃ g g', s = g ++ (strip s ++ g') ∧ (∀ c ∈ g, isBlank c = true) ∧ ∀ c ∈ g', isBlank c = true := by
  refine ⟨s.takeWhile isBlank, ((s.dropWhile isBlank).reverse.takeWhile isBlank).reverse, ?_, ?_, ?_⟩
  · rw [strip, stripWhile, ← List.reverse_append, List.takeWhile_append_dropWhile, List.reverse_reverse,
      List.takeWhile_append_dropWhile]
  · intro c hc
    exact List.mem_takeWhile_imp hc
  · intro c hc
    exact List.mem_takeWhile_imp (List.mem_reverse.mp hc)

theorem hasToken_strip (hk : Word k) (s : Text) : hasToken k (strip s) = hasToken k s := by
  obtain ⟨g, g', hs, hg, hg'⟩ := strip_parts s
  have := hasToken_blanks_left (s := strip s ++ g') hk hg
  rw [← hs, hasToken_blanks_right hk hg'] at this
  exact this.symm

end TypeSplit.Text
