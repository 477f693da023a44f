/-
  TypeSplit.Proofs.Grammar — what the declaration patterns read.

  The patterns are told as texts put together from parts: runs of modifiers, words, blanks, lists between
  brackets. `Header` is a type header up to its brace with all its parts.
  - `mem_modifierRun_iff`: the ends of modifier runs are exactly the ways to take a run off the front.
  - `startsHere_at`: a declaration may begin where no word and no dot stands directly before it (`Detached`).
  - `typeHeader_reads` / `typeHeader_of_header`: a type header is recognised where it stands, and nothing else is.
  - `member_reads`: a member starts with a word and takes in an opening brace; without type arguments no
    other brace stands in what it takes.
-/

import Mathlib.Data.List.TakeWhile
import Mathlib.Data.List.Infix
import TypeSplit.Declaration.MemberSite
import TypeSplit.Declaration.TypeSite
import TypeSplit.Proofs.Scan

namespace TypeSplit.Text

/-! ## Words and blanks -/

theorem mem_of_inRanges {n : Nat} {rs : List (Nat × Nat)} (h : inRanges n rs = true) :
    ∃ r ∈ rs, r.1 ≤ n ∧ n ≤ r.2 := by
  induction rs with
  | nil => cases h
  | cons r rs ih =>
    simp only [inRanges] at h
    split at h
    · cases h
    · rcases Bool.or_eq_true_iff.mp h with h | h
      · exact ⟨r, List.mem_cons_self, by omega, of_decide_eq_true h⟩
      · obtain ⟨r', hr, hn⟩ := ih h
        exact ⟨r', List.mem_cons_of_mem _ hr, hn⟩

def blankCodes : List Nat := blankRanges.flatMap fun r => List.range' r.1 (r.2 + 1 - r.1)

theorem mem_blankCodes {c : Char} (h : isBlank c = true) : c.toNat ∈ blankCodes := by
  obtain ⟨r, hr, h1, h2⟩ := mem_of_inRanges h
  exact List.mem_flatMap.mpr ⟨r, hr, List.mem_range'_1.mpr ⟨h1, by omega⟩⟩

theorem isWord_eq_false_of_isBlank {c : Char} (h : isBlank c = true) : isWord c = false := by
  have hall : ∀ n ∈ blankCodes, isWord (Char.ofNat n) = false := by decide +kernel
  have := hall _ (mem_blankCodes h)
  rwa [Char.ofNat_toNat] at this

theorem isBlank_eq_false_of_isWord {c : Char} (h : isWord c = true) : isBlank c = false := by
  cases hb : isBlank c with
  | false => rfl
  | true => rw [isWord_eq_false_of_isBlank hb] at h; cases h

/-! ## Fronts of texts -/

variable {p : Char → Bool}

/-- The text does not go on with a character that satisfies `p`. -/
def StopsAt (p : Char → Bool) (t : Text) : Prop := ∀ x ∈ t.head?, p x = false

@[simp] theorem stopsAt_nil : StopsAt p [] := by simp [StopsAt]
@[simp] theorem stopsAt_cons {x : Char} {t : Text} : StopsAt p (x :: t) ↔ p x = false := by simp [StopsAt]

theorem any_head?_eq_false {t : Text} : t.head?.any p = false ↔ StopsAt p t := by
  cases t <;> simp

theorem stopsAt_dropWhile (t : Text) : StopsAt p (t.dropWhile p) := by
  intro x hx
  have := List.head?_dropWhile_not p t
  rw [Option.mem_def.mp hx] at this
  exact this

theorem takeWhile_append {a b : Text} (ha : ∀ c ∈ a, p c = true) (hb : StopsAt p b) : (a ++ b).takeWhile p = a := by
  rw [List.takeWhile_append_of_pos ha]
  cases b with
  | nil => simp
  | cons x b => simp [stopsAt_cons.mp hb]

theorem dropWhile_append {a b : Text} (ha : ∀ c ∈ a, p c = true) (hb : StopsAt p b) : (a ++ b).dropWhile p = b := by
  rw [List.dropWhile_append_of_pos ha]
  cases b with
  | nil => simp
  | cons x b => simp [stopsAt_cons.mp hb]

theorem cut?_eq_some_iff {sep : Char} {t a b : Text} : cut? sep t = some (a, b) ↔ t = a ++ sep :: b ∧ sep ∉ a := by
  induction t generalizing a with
  | nil => simp [cut?]
  | cons c rest ih =>
    simp only [cut?]
    by_cases hc : c = sep
    · subst hc
      simp only [if_true, Option.some.injEq, Prod.mk.injEq]
      constructor
      · rintro ⟨rfl, rfl⟩; simp
      · rintro ⟨h, hn⟩
        cases a with
        | nil => simpa using h
        | cons x a => simp only [List.cons_append, List.cons.injEq] at h; simp [← h.1] at hn
    · simp only [hc, if_false, Option.map_eq_some_iff, Prod.mk.injEq, Prod.exists]
      constructor
      · rintro ⟨a', b', h, rfl, rfl⟩
        obtain ⟨rfl, hn⟩ := ih.mp h
        exact ⟨rfl, by simp [hn, Ne.symm hc]⟩
      · rintro ⟨h, hn⟩
        cases a with
        | nil => simp only [List.nil_append, List.cons.injEq] at h; exact absurd h.1 hc
        | cons x a =>
          simp only [List.cons_append, List.cons.injEq] at h
          obtain ⟨rfl, rfl⟩ := h
          exact ⟨a, b, ih.mpr ⟨rfl, fun hm => hn (List.mem_cons_of_mem _ hm)⟩, rfl, rfl⟩

theorem lt_length_of_drop {t : Text} {i : Nat} (h : t.drop i ≠ []) : i < t.length := by
  by_contra hi
  exact h (List.drop_eq_nil_iff.mpr (by omega))

end TypeSplit.Text

namespace TypeSplit.Declaration

open TypeSplit.Source (Cursor)
open TypeSplit.Text (isBlank isWord StopsAt)

structure Blanks (t : Text) : Prop where
  ne : t ≠ []
  all : ∀ c ∈ t, isBlank c = true

structure Word (t : Text) : Prop where
  ne : t ≠ []
  all : ∀ c ∈ t, isWord c = true

instance (t : Text) : Decidable (Blanks t) :=
  decidable_of_iff (t ≠ [] ∧ t.all isBlank = true)
    ⟨fun h => ⟨h.1, List.all_eq_true.mp h.2⟩, fun h => ⟨h.ne, List.all_eq_true.mpr h.all⟩⟩

instance (t : Text) : Decidable (Word t) :=
  decidable_of_iff (t ≠ [] ∧ t.all isWord = true)
    ⟨fun h => ⟨h.1, List.all_eq_true.mp h.2⟩, fun h => ⟨h.ne, List.all_eq_true.mpr h.all⟩⟩

theorem Word.cons {t : Text} (h : Word t) : ∃ x r, t = x :: r ∧ isWord x = true := by
  cases t with
  | nil => exact absurd rfl h.ne
  | cons x r => exact ⟨x, r, rfl, h.all x List.mem_cons_self⟩

theorem Blanks.cons {t : Text} (h : Blanks t) : ∃ x r, t = x :: r ∧ isBlank x = true := by
  cases t with
  | nil => exact absurd rfl h.ne
  | cons x r => exact ⟨x, r, rfl, h.all x List.mem_cons_self⟩

theorem word?_eq_some_iff {t w r : Text} : word? t = some (w, r) ↔ t = w ++ r ∧ Word w ∧ StopsAt isWord r := by
  simp only [word?]
  constructor
  · intro h
    split at h
    · cases h
    · rename_i hne
      cases h
      exact ⟨by simp, ⟨by simpa using hne, fun c hc => List.mem_takeWhile_imp hc⟩, Text.stopsAt_dropWhile t⟩
  · rintro ⟨rfl, hw, hs⟩
    rw [Text.takeWhile_append hw.all hs, Text.dropWhile_append hw.all hs, if_neg (by simpa using hw.ne)]

theorem blanks?_eq_some_iff {t r : Text} : blanks? t = some r ↔ ∃ b, t = b ++ r ∧ Blanks b ∧ StopsAt isBlank r := by
  cases t with
  | nil =>
    simp only [blanks?, reduceCtorEq, false_iff]
    rintro ⟨b, h, hb, -⟩
    obtain ⟨rfl, -⟩ := List.append_eq_nil_iff.mp h.symm
    exact hb.ne rfl
  | cons c rest =>
    simp only [blanks?]
    constructor
    · intro h
      split at h
      · rename_i hc
        cases h
        refine ⟨c :: rest.takeWhile isBlank, by simp, ⟨by simp, ?_⟩, Text.stopsAt_dropWhile rest⟩
        intro x hx
        rcases List.mem_cons.mp hx with rfl | hx
        · exact hc
        · exact List.mem_takeWhile_imp hx
      · cases h
    · rintro ⟨b, h, hb, hs⟩
      obtain ⟨x, b, rfl, hx⟩ := hb.cons
      simp only [List.cons_append, List.cons.injEq] at h
      obtain ⟨rfl, rfl⟩ := h
      rw [if_pos hx, Text.dropWhile_append (fun y hy => hb.all y (List.mem_cons_of_mem _ hy)) hs]

/-! ## Runs of modifiers -/

inductive ModifierRun (modifiers : List Text) : Text → Prop
  | nil : ModifierRun modifiers []
  | cons {m b run : Text} : m ∈ modifiers → Blanks b → ModifierRun modifiers run →
      ModifierRun modifiers (m ++ (b ++ run))

theorem mem_afterBlanks_iff {r t : Text} : r ∈ afterBlanks t ↔ ∃ b, t = b ++ r ∧ Blanks b := by
  induction t with
  | nil =>
    simp only [afterBlanks, List.not_mem_nil, false_iff]
    rintro ⟨b, h, hb⟩
    exact hb.ne (List.append_eq_nil_iff.mp h.symm).1
  | cons c rest ih =>
    simp only [afterBlanks]
    constructor
    · intro h
      split at h
      · rename_i hc
        rcases List.mem_append.mp h with h | h
        · obtain ⟨b, rfl, hb⟩ := ih.mp h
          refine ⟨c :: b, rfl, by simp, ?_⟩
          intro x hx
          rcases List.mem_cons.mp hx with rfl | hx
          · exact hc
          · exact hb.all x hx
        · rw [List.mem_singleton.mp h]
          exact ⟨[c], rfl, by simp, by simpa using hc⟩
      · cases h
    · rintro ⟨b, h, hb⟩
      obtain ⟨x, b, rfl, hx⟩ := hb.cons
      simp only [List.cons_append, List.cons.injEq] at h
      obtain ⟨rfl, rfl⟩ := h
      rw [if_pos hx, List.mem_append, ih, List.mem_singleton]
      cases b with
      | nil => exact Or.inr rfl
      | cons y b => exact Or.inl ⟨y :: b, rfl, by simp, fun z hz => hb.all z (List.mem_cons_of_mem _ hz)⟩

theorem mem_afterModifier_iff {modifiers : List Text} {r t : Text} :
    r ∈ afterModifier modifiers t ↔ ∃ m ∈ modifiers, ∃ b, t = m ++ (b ++ r) ∧ Blanks b := by
  simp only [afterModifier, List.mem_flatMap]
  refine exists_congr fun m => and_congr_right fun _ => ?_
  cases h : m.isPrefixOf? t with
  | none =>
    simp only [Option.map_none, Option.getD_none, List.not_mem_nil, false_iff]
    rintro ⟨b, rfl, -⟩
    rw [List.isPrefixOf?_eq_some_iff_append_eq.mpr rfl] at h
    cases h
  | some s =>
    have hs := List.isPrefixOf?_eq_some_iff_append_eq.mp h
    simp only [Option.map_some, Option.getD_some, mem_afterBlanks_iff]
    refine exists_congr fun b => and_congr_left fun _ => ?_
    rw [← hs, List.append_cancel_left_eq]

theorem mem_modifierRun_iff {modifiers : List Text} {r t : Text} :
    r ∈ modifierRun modifiers t ↔ ∃ run, ModifierRun modifiers run ∧ t = run ++ r := by
  constructor
  · intro h
    fun_induction modifierRun modifiers t with
    | case1 t ih =>
      rcases List.mem_append.mp h with h | h
      · obtain ⟨⟨s, hs⟩, -, h⟩ := List.mem_flatMap.mp h
        obtain ⟨m, hm, b, rfl, hb⟩ := mem_afterModifier_iff.mp hs
        obtain ⟨run, hrun, rfl⟩ := ih s hs h
        exact ⟨m ++ (b ++ run), .cons hm hb hrun, by simp⟩
      · rw [List.mem_singleton.mp h]
        exact ⟨[], .nil, rfl⟩
  · rintro ⟨run, hrun, rfl⟩
    induction hrun with
    | nil => rw [modifierRun]; simp
    | @cons m b run hm hb _ ih =>
      rw [modifierRun, List.mem_append]
      refine Or.inl (List.mem_flatMap.mpr ⟨⟨run ++ r, ?_⟩, List.mem_attach _ _, ih⟩)
      exact mem_afterModifier_iff.mpr ⟨m, hm, b, by simp, hb⟩

/-! ## Texts that begin with a word -/

def BeginsWord (t : Text) : Prop := ∃ x r, t = x :: r ∧ isWord x = true

theorem Word.beginsWord {w : Text} (h : Word w) (t : Text) : BeginsWord (w ++ t) := by
  obtain ⟨x, r, rfl, hx⟩ := h.cons
  exact ⟨x, r ++ t, rfl, hx⟩

theorem BeginsWord.append {a : Text} (h : BeginsWord a) (b : Text) : BeginsWord (a ++ b) := by
  obtain ⟨x, r, rfl, hx⟩ := h
  exact ⟨x, r ++ b, rfl, hx⟩

theorem BeginsWord.stopsAt_blank {t : Text} (h : BeginsWord t) : StopsAt isBlank t := by
  obtain ⟨x, r, rfl, hx⟩ := h
  simpa using Text.isBlank_eq_false_of_isWord hx

theorem Blanks.stopsAt_word {b : Text} (h : Blanks b) (t : Text) : StopsAt isWord (b ++ t) := by
  obtain ⟨x, r, rfl, hx⟩ := h.cons
  simpa using Text.isWord_eq_false_of_isBlank hx

theorem Word.append_inj {w w' r r' : Text} (hw : Word w) (hw' : Word w') (hr : StopsAt isWord r)
    (hr' : StopsAt isWord r') (h : w ++ r = w' ++ r') : w = w' ∧ r = r' := by
  have h1 := word?_eq_some_iff.mpr ⟨rfl, hw, hr⟩
  rw [h, word?_eq_some_iff.mpr ⟨rfl, hw', hr'⟩] at h1
  cases h1
  exact ⟨rfl, rfl⟩

theorem Blanks.append_inj {b b' r r' : Text} (hb : Blanks b) (hb' : Blanks b') (hr : StopsAt isBlank r)
    (hr' : StopsAt isBlank r') (h : b ++ r = b' ++ r') : b = b' ∧ r = r' := by
  have h1 := blanks?_eq_some_iff.mpr ⟨b, rfl, hb, hr⟩
  rw [h, blanks?_eq_some_iff.mpr ⟨b', rfl, hb', hr'⟩] at h1
  cases h1
  exact ⟨List.append_cancel_right h, rfl⟩

theorem typeModifiers_word : ∀ m ∈ typeModifiers, Word m := by decide

theorem memberModifiers_word : ∀ m ∈ memberModifiers, Word m := by decide

theorem ModifierRun.beginsWord {modifiers : List Text} (hm : ∀ m ∈ modifiers, Word m) {run t : Text}
    (hrun : ModifierRun modifiers run) (ht : BeginsWord t) : BeginsWord (run ++ t) := by
  cases hrun with
  | nil => exact ht
  | cons h _ _ => rw [List.append_assoc]; exact (hm _ h).beginsWord _

theorem ModifierRun.mem {modifiers : List Text} (hm : ∀ m ∈ modifiers, Word m) {run : Text}
    (hrun : ModifierRun modifiers run) {c : Char} (hc : c ∈ run) : isWord c = true ∨ isBlank c = true := by
  induction hrun with
  | nil => cases hc
  | cons h hb _ ih =>
    rcases List.mem_append.mp hc with hc | hc
    · exact Or.inl ((hm _ h).all c hc)
    · rcases List.mem_append.mp hc with hc | hc
      · exact Or.inr (hb.all c hc)
      · exact ih hc

/-- A run in front of a word that is no modifier ends where that word begins. -/
theorem ModifierRun.append_inj {modifiers : List Text} (hm : ∀ m ∈ modifiers, Word m) {run run' k k' r r' : Text}
    (hrun : ModifierRun modifiers run) (hrun' : ModifierRun modifiers run')
    (hk : Word k) (hk' : Word k') (hn : k ∉ modifiers) (hn' : k' ∉ modifiers)
    (hr : StopsAt isWord r) (hr' : StopsAt isWord r')
    (h : run ++ (k ++ r) = run' ++ (k' ++ r')) : run = run' ∧ k = k' ∧ r = r' := by
  induction hrun generalizing run' with
  | nil =>
    cases hrun' with
    | nil => exact ⟨rfl, hk.append_inj hk' hr hr' h⟩
    | cons hm' hb' _ =>
      simp only [List.nil_append, List.append_assoc] at h
      exact absurd ((hk.append_inj (hm _ hm') hr (hb'.stopsAt_word _) h).1 ▸ hm') hn
  | cons hm1 hb hrun ih =>
    cases hrun' with
    | nil =>
      simp only [List.nil_append, List.append_assoc] at h
      exact absurd (((hm _ hm1).append_inj hk' (hb.stopsAt_word _) hr' h).1 ▸ hm1) hn'
    | cons hm2 hb' hrun' =>
      simp only [List.append_assoc] at h
      obtain ⟨rfl, h1⟩ := (hm _ hm1).append_inj (hm _ hm2) (hb.stopsAt_word _) (hb'.stopsAt_word _) h
      obtain ⟨rfl, h2⟩ := hb.append_inj hb' (hrun.beginsWord hm (hk.beginsWord _)).stopsAt_blank
        (hrun'.beginsWord hm (hk'.beginsWord _)).stopsAt_blank h1
      obtain ⟨rfl, h3⟩ := ih hrun' h2
      exact ⟨rfl, h3⟩

/-! ## Where a declaration may begin -/

/-- No word character and no dot stands directly before the offset. -/
def Detached (t : Text) (p : Nat) : Prop := ∀ q c, q + 1 = p → t[q]? = some c → isWord c = false ∧ c ≠ '.'

theorem startsHere_iff {a y : Text} : startsHere ⟨a.reverse, y⟩ = true ↔ StopsAt (fun x => isWord x || x == '.') a.reverse := by
  rw [startsHere, Bool.not_eq_true', Text.any_head?_eq_false]

theorem startsHere_at {t : Text} {p : Nat} (h : t.drop p ≠ []) : startsHere (.at_ t p) = true ↔ Detached t p := by
  have hp := Text.lt_length_of_drop h
  rw [Cursor.at_, startsHere_iff]
  cases p with
  | zero => simp [Detached]
  | succ q =>
    have hlt : q < t.length := by omega
    have htake : t.take (q + 1) = t.take q ++ [t[q]] := List.take_succ_eq_append_getElem hlt
    rw [htake, List.reverse_append, List.reverse_singleton, List.singleton_append, Text.stopsAt_cons, Bool.or_eq_false_iff]
    constructor
    · intro h q' c hq hc
      obtain rfl : q' = q := by omega
      rw [List.getElem?_eq_getElem hlt, Option.some.injEq] at hc
      subst hc
      exact ⟨h.1, by simpa using h.2⟩
    · intro h
      obtain ⟨hword, hdot⟩ := h q t[q] rfl (List.getElem?_eq_getElem hlt)
      exact ⟨hword, by simpa using hdot⟩

/-! ## Type headers -/

structure Header (keywords : List Text) where
  run : Text
  keyword : Text
  blanks : Text
  name : Text
  tail : Text
  isRun : ModifierRun typeModifiers run
  keyword_mem : keyword ∈ keywords
  isBlanks : Blanks blanks
  isWord_name : Word name
  name_ends : StopsAt isWord tail
  tail_open : '{' ∉ tail

def Header.text {keywords : List Text} (h : Header keywords) : Text :=
  h.run ++ (h.keyword ++ (h.blanks ++ (h.name ++ h.tail)))

theorem nameAndBrace?_eq_some_iff {t name rest : Text} :
    nameAndBrace? t = some (name, rest) ↔
      ∃ b tail, t = b ++ (name ++ (tail ++ '{' :: rest)) ∧ Blanks b ∧ Word name ∧ StopsAt isWord tail ∧ '{' ∉ tail := by
  simp only [nameAndBrace?, Option.bind_eq_bind, Option.bind_eq_some_iff, Prod.exists, blanks?_eq_some_iff,
    word?_eq_some_iff, Text.cut?_eq_some_iff, Option.some.injEq, Prod.mk.injEq]
  constructor
  · rintro ⟨_, ⟨b, rfl, hb, hs⟩, name, _, ⟨rfl, hn, hst⟩, tail, _, ⟨rfl, ho⟩, rfl, rfl⟩
    refine ⟨b, tail, by simp, hb, hn, ?_, ho⟩
    cases tail with
    | nil => simp
    | cons x tail => simpa using hst
  · rintro ⟨b, tail, rfl, hb, hn, hst, ho⟩
    refine ⟨_, ⟨b, rfl, hb, (hn.beginsWord _).stopsAt_blank⟩, name, _, ⟨rfl, hn, ?_⟩, tail, rest, ⟨rfl, ho⟩, rfl, rfl⟩
    cases tail with
    | nil => simpa using (by decide : isWord '{' = false)
    | cons x tail => simpa using hst

theorem typeHeader_reads {keywords : List Text} {c : Cursor} {k name : Text} {n : Nat}
    (h : typeHeader keywords c = some ((k, name), n)) :
    startsHere c = true ∧ ∃ (hd : Header keywords) (rest : Text), hd.keyword = k ∧ hd.name = name ∧
      c.ahead = hd.text ++ '{' :: rest ∧ n = hd.text.length + 1 := by
  simp only [typeHeader] at h
  split at h
  · rename_i hs
    refine ⟨hs, ?_⟩
    obtain ⟨t, ht, h⟩ := List.exists_of_findSome?_eq_some h
    obtain ⟨run, hrun, hc⟩ := mem_modifierRun_iff.mp ht
    obtain ⟨keyword, hk, h⟩ := List.exists_of_findSome?_eq_some h
    simp only [Option.bind_eq_bind, Option.bind_eq_some_iff, List.isPrefixOf?_eq_some_iff_append_eq, Prod.exists,
      nameAndBrace?_eq_some_iff, Option.some.injEq, Prod.mk.injEq] at h
    obtain ⟨_, rfl, name, rest, ⟨b, tail, rfl, hb, hn, hst, ho⟩, ⟨rfl, rfl⟩, rfl⟩ := h
    refine ⟨⟨run, keyword, b, name, tail, hrun, hk, hb, hn, hst, ho⟩, rest, rfl, rfl, ?_, ?_⟩
    · simp [hc, Header.text]
    · simp only [hc, Header.text, List.length_append, List.length_cons]; omega
  · cases h

/-- Keywords that the scan cannot take for anything else. -/
def Distinct (keywords : List Text) : Prop := ∀ k ∈ keywords, Word k ∧ k ∉ typeModifiers

theorem Header.open_not_mem {keywords : List Text} (hd : Header keywords) (hk : '{' ∉ hd.keyword) : '{' ∉ hd.text := by
  simp only [Header.text, List.mem_append, not_or]
  refine ⟨fun h => ?_, hk, fun h => ?_, fun h => ?_, hd.tail_open⟩
  · rcases hd.isRun.mem typeModifiers_word h with h | h <;> revert h <;> decide
  · exact absurd (hd.isBlanks.all _ h) (by decide)
  · exact absurd (hd.isWord_name.all _ h) (by decide)

theorem Word.open_not_mem {w : Text} (h : Word w) : '{' ∉ w := fun hm => absurd (h.all _ hm) (by decide)

theorem Word.no_escape {w : Text} (h : Word w) : '\\' ∉ w := fun hm => absurd (h.all _ hm) (by decide)

theorem Distinct.open_not_mem {keywords : List Text} (h : Distinct keywords) : ∀ k ∈ keywords, '{' ∉ k :=
  fun k hk => (h k hk).1.open_not_mem

theorem append_brace_inj {a a' r r' : Text} (ha : '{' ∉ a) (ha' : '{' ∉ a') (h : a ++ '{' :: r = a' ++ '{' :: r') :
    a = a' ∧ r = r' := by
  have h1 : Text.cut? '{' (a ++ '{' :: r) = some (a, r) := Text.cut?_eq_some_iff.mpr ⟨rfl, ha⟩
  rw [h, Text.cut?_eq_some_iff.mpr ⟨rfl, ha'⟩] at h1
  cases h1
  exact ⟨rfl, rfl⟩

/-- One text has one reading as a header. -/
theorem Header.text_inj {keywords : List Text} (hk : Distinct keywords) {hd hd' : Header keywords}
    (h : hd.text = hd'.text) : hd.keyword = hd'.keyword ∧ hd.name = hd'.name := by
  obtain ⟨hw, hn⟩ := hk _ hd.keyword_mem
  obtain ⟨hw', hn'⟩ := hk _ hd'.keyword_mem
  obtain ⟨-, hkey, h⟩ := hd.isRun.append_inj typeModifiers_word hd'.isRun hw hw' hn hn'
    (hd.isBlanks.stopsAt_word _) (hd'.isBlanks.stopsAt_word _) h
  obtain ⟨-, h⟩ := hd.isBlanks.append_inj hd'.isBlanks (hd.isWord_name.beginsWord _).stopsAt_blank
    (hd'.isWord_name.beginsWord _).stopsAt_blank h
  exact ⟨hkey, (hd.isWord_name.append_inj hd'.isWord_name hd.name_ends hd'.name_ends h).1⟩

theorem typeHeader_of_header {keywords : List Text} (hk : Distinct keywords) (hd : Header keywords) {c : Cursor}
    {rest : Text} (hs : startsHere c = true) (hc : c.ahead = hd.text ++ '{' :: rest) :
    typeHeader keywords c = some ((hd.keyword, hd.name), hd.text.length + 1) := by
  have hsome : (typeHeader keywords c).isSome = true := by
    simp only [typeHeader, hs, if_true, List.findSome?_isSome_iff]
    refine ⟨hd.keyword ++ (hd.blanks ++ (hd.name ++ (hd.tail ++ '{' :: rest))), ?_, hd.keyword, hd.keyword_mem, ?_⟩
    · exact mem_modifierRun_iff.mpr ⟨hd.run, hd.isRun, by simp [hc, Header.text]⟩
    · have hname : nameAndBrace? (hd.blanks ++ (hd.name ++ (hd.tail ++ '{' :: rest))) = some (hd.name, rest) :=
        nameAndBrace?_eq_some_iff.mpr
          ⟨hd.blanks, hd.tail, rfl, hd.isBlanks, hd.isWord_name, hd.name_ends, hd.tail_open⟩
      have hpre := List.isPrefixOf?_eq_some_iff_append_eq.mpr
        (rfl : hd.keyword ++ (hd.blanks ++ (hd.name ++ (hd.tail ++ '{' :: rest))) = _)
      simp [hpre, hname]
  obtain ⟨⟨⟨k, name⟩, n⟩, hr⟩ := Option.isSome_iff_exists.mp hsome
  obtain ⟨-, hd', rest', rfl, rfl, hc', rfl⟩ := typeHeader_reads hr
  have hopen : ∀ h : Header keywords, '{' ∉ h.text := fun h => h.open_not_mem (hk _ h.keyword_mem).1.open_not_mem
  obtain ⟨htext, -⟩ := append_brace_inj (hopen hd) (hopen hd') (hc.symm.trans hc')
  obtain ⟨h1, h2⟩ := hd.text_inj hk htext
  rw [hr, h1, h2, htext]

theorem typeHeader_advances (keywords : List Text) : (typeHeader keywords).Advances := by
  rintro c ⟨k, name⟩ n h
  obtain ⟨-, hd, rest, -, -, hc, rfl⟩ := typeHeader_reads h
  simp only [hc, List.length_append, List.length_cons]
  omega

/-! ## Members -/

structure Braceless (t : Text) : Prop where
  no_open : '{' ∉ t
  no_close : '}' ∉ t

/-- No brace stands in the text unless type arguments do. -/
def Plain (t : Text) : Prop := '<' ∉ t → Braceless t

theorem Braceless.append {a b : Text} (ha : Braceless a) (hb : Braceless b) : Braceless (a ++ b) :=
  ⟨by simp [ha.no_open, hb.no_open], by simp [ha.no_close, hb.no_close]⟩

theorem Braceless.of_all {p : Char → Bool} (h1 : p '{' = false) (h2 : p '}' = false) {t : Text}
    (h : ∀ c ∈ t, p c = true) : Braceless t :=
  ⟨fun hm => absurd (h _ hm) (by simp [h1]), fun hm => absurd (h _ hm) (by simp [h2])⟩

theorem Word.braceless {w : Text} (h : Word w) : Braceless w := .of_all (by decide) (by decide) h.all
theorem Blanks.braceless {b : Text} (h : Blanks b) : Braceless b := .of_all (by decide) (by decide) h.all

theorem Braceless.plain {t : Text} (h : Braceless t) : Plain t := fun _ => h

theorem Plain.append {a b : Text} (ha : Plain a) (hb : Plain b) : Plain (a ++ b) := by
  intro h
  simp only [List.mem_append, not_or] at h
  exact (ha h.1).append (hb h.2)

theorem ModifierRun.plain {modifiers : List Text} (hm : ∀ m ∈ modifiers, Word m) {run : Text}
    (h : ModifierRun modifiers run) : Plain run := by
  induction h with
  | nil => exact fun _ => ⟨by simp, by simp⟩
  | cons hm1 hb _ ih => exact (hm _ hm1).braceless.plain.append (hb.braceless.plain.append ih)

theorem typeArguments?_reads {t r : Text} (h : typeArguments? t = some r) : ∃ a, t = a ++ r ∧ Plain a := by
  unfold typeArguments? at h
  split at h
  · rename_i t'
    simp only [Option.map_eq_some_iff, Prod.exists] at h
    obtain ⟨a, b, hcut, rfl⟩ := h
    obtain ⟨rfl, -⟩ := Text.cut?_eq_some_iff.mp hcut
    exact ⟨'<' :: a ++ ['>'], by simp, fun hn => absurd (by simp) hn⟩
  · cases h
    exact ⟨[], rfl, fun _ => ⟨by simp, by simp⟩⟩

theorem returnType?_reads {t r : Text} (h : returnType? t = some r) : ∃ u, t = u ++ r ∧ BeginsWord u ∧ Plain u := by
  simp only [returnType?, Option.bind_eq_bind, Option.bind_eq_some_iff, Prod.exists, word?_eq_some_iff] at h
  obtain ⟨w, s, ⟨rfl, hw, -⟩, h⟩ := h
  have hbegins := hw.beginsWord
  split at h
  · cases h
    exact ⟨w ++ ['[', ']'], by simp, hbegins _, hw.braceless.plain.append fun _ => ⟨by decide, by decide⟩⟩
  · cases h
    exact ⟨w ++ ['?'], by simp, hbegins _, hw.braceless.plain.append fun _ => ⟨by decide, by decide⟩⟩
  · obtain ⟨a, rfl, ha⟩ := typeArguments?_reads h
    exact ⟨w ++ a, by simp, hbegins _, hw.braceless.plain.append ha⟩

theorem typeAndName?_reads {t name r : Text} (h : typeAndName? t = some (name, r)) :
    ∃ u, t = u ++ r ∧ BeginsWord u ∧ Plain u := by
  simp only [typeAndName?, Option.bind_eq_bind, Option.bind_eq_some_iff, blanks?_eq_some_iff, word?_eq_some_iff] at h
  obtain ⟨_, hret, _, ⟨b, rfl, hb, -⟩, rfl, hn, -⟩ := h
  obtain ⟨u, rfl, hu, hp⟩ := returnType?_reads hret
  exact ⟨u ++ (b ++ name), by simp, hu.append _, hp.append (hb.braceless.plain.append hn.braceless.plain)⟩

theorem braceless_takeWhile_blank (t : Text) : Braceless (t.takeWhile isBlank) :=
  .of_all (by decide) (by decide) fun _ hc => List.mem_takeWhile_imp hc

theorem parametersAndBrace?_reads {t r : Text} (h : parametersAndBrace? t = some r) :
    ∃ u, t = u ++ '{' :: r ∧ Braceless u := by
  simp only [parametersAndBrace?] at h
  split at h
  · rename_i s hs
    split at h
    · rename_i rest hrest
      split at h
      · cases h
        refine ⟨t.takeWhile isBlank ++ '(' :: s.takeWhile (!endsParameters ·), ?_, (braceless_takeWhile_blank t).append ?_⟩
        · have h1 : t.takeWhile isBlank ++ '(' :: s = t := by rw [← hs, List.takeWhile_append_dropWhile]
          have h2 : s.takeWhile (!endsParameters ·) ++ '{' :: r = s := by
            rw [← hrest, List.takeWhile_append_dropWhile]
          simp [h1, h2]
        · have hpar : Braceless (s.takeWhile (!endsParameters ·)) :=
            .of_all (by decide) (by decide) fun _ hc => List.mem_takeWhile_imp hc
          exact ⟨by simpa using hpar.no_open, by simpa using hpar.no_close⟩
      · cases h
    · cases h
  · cases h

theorem accessor?_reads {t r : Text} (h : accessor? t = some r) : ∃ u, t = u ++ r ∧ Braceless u := by
  simp only [accessor?, Option.bind_eq_bind, Option.bind_eq_some_iff] at h
  obtain ⟨s, hs, h⟩ := h
  split at h
  · cases h
  · cases h
    rcases Option.or_eq_some_iff.mp hs with hs | ⟨-, hs⟩
    · exact ⟨"get".toList, (List.isPrefixOf?_eq_some_iff_append_eq.mp hs).symm, by decide, by decide⟩
    · exact ⟨"set".toList, (List.isPrefixOf?_eq_some_iff_append_eq.mp hs).symm, by decide, by decide⟩

/-- What a tail reads begins with a word and takes in an opening brace, and without type arguments no
other brace. -/
def OpensBlock (tail? : Text → Option (Text × Text)) : Prop :=
  ∀ t name rest, tail? t = some (name, rest) →
    ∃ front inner, t = front ++ '{' :: (inner ++ rest) ∧ BeginsWord front ∧ Plain front ∧ Braceless inner

theorem methodTail?_opens : OpensBlock methodTail? := by
  intro t name rest h
  simp only [methodTail?, Option.bind_eq_bind, Option.bind_eq_some_iff, Prod.exists, Option.some.injEq,
    Prod.mk.injEq] at h
  obtain ⟨_, _, hname, _, hargs, _, hpar, rfl, rfl⟩ := h
  obtain ⟨u, rfl, hu, hp⟩ := typeAndName?_reads hname
  obtain ⟨a, rfl, ha⟩ := typeArguments?_reads hargs
  obtain ⟨v, rfl, hv⟩ := parametersAndBrace?_reads hpar
  exact ⟨u ++ (a ++ v), [], by simp, hu.append _, hp.append (ha.append hv.plain), ⟨by simp, by simp⟩⟩

theorem propertyTail?_opens : OpensBlock propertyTail? := by
  intro t name rest h
  simp only [propertyTail?, Option.bind_eq_bind, Option.bind_eq_some_iff, Prod.exists] at h
  obtain ⟨n, s, hname, h⟩ := h
  obtain ⟨u, rfl, hu, hp⟩ := typeAndName?_reads hname
  split at h
  · rename_i s' hs
    simp only [Option.bind_eq_some_iff, Option.some.injEq, Prod.mk.injEq] at h
    obtain ⟨r, hacc, rfl, rfl⟩ := h
    obtain ⟨v, hv, hb⟩ := accessor?_reads hacc
    refine ⟨u ++ s.takeWhile isBlank, s'.takeWhile isBlank ++ v, ?_, hu.append _,
      hp.append (braceless_takeWhile_blank s).plain, (braceless_takeWhile_blank s').append hb⟩
    have h1 : s.takeWhile isBlank ++ '{' :: s' = s := by rw [← hs, List.takeWhile_append_dropWhile]
    have h2 : s'.takeWhile isBlank ++ (v ++ r) = s' := by rw [← hv, List.takeWhile_append_dropWhile]
    simp only [List.append_assoc, h2, h1]
  · cases h

theorem member_reads {tail? : Text → Option (Text × Text)} (ht : OpensBlock tail?) {c : Cursor} {name : Text} {n : Nat}
    (h : memberWith tail? c = some (name, n)) :
    startsHere c = true ∧ ∃ front inner rest, c.ahead = front ++ '{' :: (inner ++ rest) ∧
      n = front.length + 1 + inner.length ∧ BeginsWord front ∧ Plain front ∧ Braceless inner := by
  simp only [memberWith] at h
  split at h
  · rename_i hs
    obtain ⟨t, hm, htail⟩ := List.exists_of_findSome?_eq_some h
    obtain ⟨run, hrun, hc⟩ := mem_modifierRun_iff.mp hm
    simp only [Option.map_eq_some_iff, Prod.exists, Prod.mk.injEq] at htail
    obtain ⟨name, rest, htail, rfl, rfl⟩ := htail
    obtain ⟨front, inner, rfl, hw, hp, hb⟩ := ht t name rest htail
    refine ⟨hs, run ++ front, inner, rest, by simp [hc], ?_, hrun.beginsWord memberModifiers_word hw,
      (hrun.plain memberModifiers_word).append hp, hb⟩
    simp only [hc, List.length_append, List.length_cons]
    omega
  · cases h

theorem memberWith_advances {tail? : Text → Option (Text × Text)} (ht : OpensBlock tail?) :
    (memberWith tail?).Advances := by
  intro c name n h
  obtain ⟨-, front, inner, rest, hc, rfl, -⟩ := member_reads ht h
  simp only [hc, List.length_append, List.length_cons]
  omega

end TypeSplit.Declaration
