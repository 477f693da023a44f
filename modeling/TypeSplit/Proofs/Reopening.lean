/-
  TypeSplit.Proofs.Reopening — when the header of a part re-opens its type.

  A part has to declare its type as partial, so its header has to have `partial` among its modifiers. The header of the
  type is read in parts: modifiers, each with blanks behind it, then the keyword, blanks, the name and a tail that goes
  on to the brace (`Opening`). Whether `partial` is there is decided on the whole of it, tail and name included, and only if it
  is not there it is put in, in front of the keyword.
  - `hasToken_opening`: `partial` stands in a header as one of its modifiers, or from its name on.
  - `Opening.mem_words_iff`: a header has one reading, so it does not become partial by reading it in another way.
  - `header_reopens_iff`: the header of a part is partial exactly if the type is so already, or if no `partial` stands from
    the name on.
  - `a_comment_is_taken_for_a_modifier`: a header with the word in a comment stays as it is.
-/

import TypeSplit.Proofs.Preface

namespace TypeSplit.Text

open TypeSplit.Declaration (Blanks Word)

variable {k : Text}

theorem hasToken_word (hk : Word k) {m : Text} (hm : Word m) : hasToken k m = true ↔ m = k := by
  rw [hasToken_iff hk]
  constructor
  · rintro ⟨a, b, rfl, ha, hb⟩
    have hfront : a = [] := by
      rcases List.eq_nil_or_concat a with rfl | ⟨a', c, rfl⟩
      · rfl
      · have hc := hm.all c (by simp)
        simp [hc] at ha
    have hback : b = [] := by
      cases b with
      | nil => rfl
      | cons c b =>
        have hc := hm.all c (by simp)
        rw [stopsAt_cons, hc] at hb
        cases hb
    rw [hfront, hback, List.nil_append, List.append_nil]
  · rintro rfl
    exact ⟨[], [], by simp, by simp, by simp⟩

/-- A word with blanks behind it is a token, and no token reaches over the blanks. -/
theorem hasToken_word_blanks (hk : Word k) {m b : Text} (hm : Word m) (hb : Blanks b) (r : Text) :
    hasToken k (m ++ (b ++ r)) = true ↔ m = k ∨ hasToken k r = true := by
  obtain ⟨x, b, rfl, hx⟩ := hb.cons
  have hrest : ∀ c ∈ b, isBlank c = true := fun c hc => hb.all c (List.mem_cons_of_mem _ hc)
  rw [List.cons_append, hasToken_append_cons hk (isWord_eq_false_of_isBlank hx), hasToken_blanks_left hk hrest,
    Bool.or_eq_true, hasToken_word hk hm]

end TypeSplit.Text

namespace TypeSplit.Splitting

open TypeSplit.Declaration (Blanks Header ModifierRun Word typeModifiers typeModifiers_word)
open TypeSplit.Extraction (defaultKeywords defaultScanner distinct_defaultKeywords)
open TypeSplit.Text (StopsAt hasToken isBlank isWord)

/-! ## Headers in parts -/

def runText (modifiers : List (Text × Text)) : Text := modifiers.flatMap fun m => m.1 ++ m.2

/-- The parts of a header that declares a type with a keyword and a name. -/
structure Opening (keyword name : Text) where
  modifiers : List (Text × Text)
  gap : Text
  tail : Text
  are_modifiers : ∀ m ∈ modifiers, m.1 ∈ typeModifiers ∧ Blanks m.2
  isBlanks : Blanks gap
  name_ends : StopsAt isWord tail

namespace Opening

variable {keyword name : Text}

def words (o : Opening keyword name) : List Text := o.modifiers.map (·.1)

def text (o : Opening keyword name) : Text := runText o.modifiers ++ (keyword ++ (o.gap ++ (name ++ o.tail)))

end Opening

theorem modifierRun_runText {modifiers : List (Text × Text)} (h : ∀ m ∈ modifiers, m.1 ∈ typeModifiers ∧ Blanks m.2) :
    ModifierRun typeModifiers (runText modifiers) := by
  induction modifiers with
  | nil => exact .nil
  | cons m modifiers ih =>
    obtain ⟨⟨hm, hb⟩, hrest⟩ := List.forall_mem_cons.mp h
    unfold runText
    rw [List.flatMap_cons, List.append_assoc]
    exact .cons hm hb (ih hrest)

theorem exists_runText {run : Text} (h : ModifierRun typeModifiers run) :
    ∃ modifiers, run = runText modifiers ∧ ∀ m ∈ modifiers, m.1 ∈ typeModifiers ∧ Blanks m.2 := by
  induction h with
  | nil => exact ⟨[], rfl, by simp⟩
  | @cons m b run hm hb _ ih =>
    obtain ⟨modifiers, rfl, hall⟩ := ih
    refine ⟨(m, b) :: modifiers, by simp [runText], ?_⟩
    intro x hx
    rcases List.mem_cons.mp hx with rfl | hx
    · exact ⟨hm, hb⟩
    · exact hall x hx

/-! ## Tokens of a header -/

/-- The tokens of a run are its modifiers. -/
theorem hasToken_runText {k : Text} (hk : Word k) {modifiers : List (Text × Text)}
    (h : ∀ m ∈ modifiers, m.1 ∈ typeModifiers ∧ Blanks m.2) (r : Text) :
    hasToken k (runText modifiers ++ r) = true ↔ k ∈ modifiers.map (·.1) ∨ hasToken k r = true := by
  induction modifiers with
  | nil => simp [runText]
  | cons m modifiers ih =>
    obtain ⟨⟨hm, hb⟩, hrest⟩ := List.forall_mem_cons.mp h
    have hcons : runText (m :: modifiers) ++ r = m.1 ++ (m.2 ++ (runText modifiers ++ r)) := by simp [runText]
    rw [hcons, Text.hasToken_word_blanks hk (typeModifiers_word _ hm) hb, ih hrest, List.map_cons, List.mem_cons, or_assoc,
      eq_comm]

section

variable {keyword name : Text}

theorem hasToken_opening (hk : Word keyword) (hne : keyword ≠ partialWord) (o : Opening keyword name) :
    hasToken partialWord o.text = true ↔ partialWord ∈ o.words ∨ hasToken partialWord (name ++ o.tail) = true := by
  unfold Opening.text
  rw [hasToken_runText word_partial o.are_modifiers, Text.hasToken_word_blanks word_partial hk o.isBlanks]
  constructor
  · rintro (h | h | h)
    · exact .inl h
    · exact absurd h hne
    · exact .inr h
  · rintro (h | h)
    · exact .inl h
    · exact .inr (.inr h)

/-- One text has one reading: its modifiers end where the keyword begins, because the keyword is none. -/
theorem Opening.mem_words_iff (hk : Word keyword) (hn : keyword ∉ typeModifiers) {o o' : Opening keyword name}
    (h : o.text = o'.text) : partialWord ∈ o.words ↔ partialWord ∈ o'.words := by
  have hruns := (modifierRun_runText o.are_modifiers).append_inj typeModifiers_word (modifierRun_runText o'.are_modifiers)
    hk hk hn hn (o.isBlanks.stopsAt_word _) (o'.isBlanks.stopsAt_word _) h
  have hread : ∀ o : Opening keyword name, partialWord ∈ o.words ↔ hasToken partialWord (runText o.modifiers) = true := by
    intro o
    have := hasToken_runText word_partial o.are_modifiers []
    rw [List.append_nil, Text.hasToken_nil word_partial] at this
    rw [this]
    simp [words]
  rw [hread, hread, hruns.1]

end

/-! ## The header of a part -/

/-- The header with `partial` as its last modifier. -/
def Opening.reopened {keyword name : Text} (o : Opening keyword name) : Opening keyword name where
  modifiers := o.modifiers ++ [(partialWord, [' '])]
  gap := o.gap
  tail := o.tail
  are_modifiers := by
    intro m hm
    rcases List.mem_append.mp hm with hm | hm
    · exact o.are_modifiers m hm
    · rw [List.mem_singleton.mp hm]
      decide
  isBlanks := o.isBlanks
  name_ends := o.name_ends

theorem partialHeader_opening {keyword name : Text} (hk : keyword ∈ defaultKeywords) (o : Opening keyword name) :
    partialHeader o.text keyword = .ok (if hasToken partialWord o.text then o.text else o.reopened.text) := by
  cases htoken : hasToken partialWord o.text with
  | true => rw [partialHeader, if_pos htoken, if_pos rfl]
  | false =>
    unfold Opening.text at htoken ⊢
    rw [partialHeader_run (modifierRun_runText o.are_modifiers) hk (o.isBlanks.stopsAt_word _) htoken]
    simp [Opening.reopened, runText]

/-- Stripping a header leaves a header, with the same modifiers. -/
theorem strip_opening (hd : Header defaultKeywords) {keyword name : Text} (hk : keyword = hd.keyword) (hn : name = hd.name) :
    ∃ o : Opening keyword name, Text.strip hd.text = o.text := by
  subst hk hn
  obtain ⟨tail, hstrip, rest, hrest⟩ := strip_header hd
  obtain ⟨modifiers, hrun, hall⟩ := exists_runText hd.isRun
  have hends : StopsAt isWord tail := (hrest ▸ hd.name_ends).of_append
  refine ⟨⟨modifiers, hd.blanks, tail, hall, hd.isBlanks, hends⟩, ?_⟩
  rw [hstrip, hrun]
  rfl

open TypeSplit.Extraction in
/-- The header of a type, whatever sites are proposed for its members. -/
theorem header_of_typeSite {scanner : Scanner} (hscanner : scanner.typeSites = Declaration.typeSites defaultKeywords)
    {t : Text} {withConstructors : Bool} {d : TypeDeclaration} (h : d ∈ (run scanner withConstructors (.ofText t)).types) :
    d.keyword ∈ defaultKeywords ∧ ∃ o : Opening d.keyword d.name, d.header = o.text := by
  obtain ⟨outcome, hmem, hdecl⟩ := List.mem_filterMap.mp h
  obtain ⟨site, hsite, hresolve⟩ := List.mem_map.mp hmem
  rw [hscanner] at hsite
  cases outcome with
  | skipped w => cases hdecl
  | resolved body vs =>
    obtain rfl := Option.some.inj hdecl
    obtain ⟨howner, hfind, -⟩ := resolve_eq_resolved hresolve
    obtain ⟨s, hs, hoffset, hname, hkeyword⟩ := Declaration.mem_typeSites hsite
    obtain ⟨hd, hslice, hvalue⟩ := Declaration.typeSite_header hs
    have hopening : s.stop - 1 = body.opening := by
      obtain ⟨-, hbrace⟩ := Declaration.typeSite_opening (by decide) hs
      rw [hoffset] at hfind
      exact Option.some.inj (hbrace.symm.trans hfind)
    have hk : body.owner.keyword = hd.keyword := by rw [howner, hkeyword, hvalue]
    have hn : body.owner.name = hd.name := by rw [howner, hname, hvalue]
    obtain ⟨o, ho⟩ := strip_opening hd hk hn
    rw [← hslice, hopening, ← hoffset, ← howner] at ho
    have hmem : body.owner.keyword ∈ defaultKeywords := hk ▸ hd.keyword_mem
    exact ⟨hmem, o, ho⟩

open TypeSplit.Extraction in
theorem header_of_type {t : Text} {withConstructors : Bool} {d : TypeDeclaration}
    (h : d ∈ (run defaultScanner withConstructors (.ofText t)).types) :
    d.keyword ∈ defaultKeywords ∧ ∃ o : Opening d.keyword d.name, d.header = o.text := header_of_typeSite rfl h

open TypeSplit.Extraction in
/-- The parts of a type re-open it: their header declares the keyword and the name of the type and has `partial` among
its modifiers. This fails exactly if the type is not partial and the word stands somewhere from its name on, in a
comment, a base list or as the name itself. -/
theorem header_reopens_iff {t : Text} {withConstructors : Bool} {d : TypeDeclaration}
    (h : d ∈ (run defaultScanner withConstructors (.ofText t)).types) :
    ∃ (o : Opening d.keyword d.name) (line : Text), d.header = o.text ∧ partialHeader d.header d.keyword = .ok line ∧
      (∀ style usings group, render style usings d group = .ok (partLines style.indentUnit usings d line group)) ∧
      ((∃ o' : Opening d.keyword d.name, line = o'.text ∧ partialWord ∈ o'.words) ↔
        partialWord ∈ o.words ∨ hasToken partialWord (d.name ++ o.tail) = false) := by
  obtain ⟨hk, o, ho⟩ := header_of_type h
  obtain ⟨hkey, hmod⟩ := distinct_defaultKeywords _ hk
  have hne : d.keyword ≠ partialWord := fun he => hmod (he ▸ by decide)
  have hline := partialHeader_opening hk o
  rw [← ho] at hline
  refine ⟨o, _, ho, hline, fun style usings group => by rw [render, hline]; rfl, ?_⟩
  have htoken := hasToken_opening hkey hne o
  rw [← ho] at htoken
  by_cases hpartial : hasToken partialWord d.header = true
  · rw [if_pos hpartial]
    constructor
    · rintro ⟨o', ho', hmem⟩
      exact .inl ((Opening.mem_words_iff hkey hmod (ho.symm.trans ho')).mpr hmem)
    · rintro (hmem | hfree)
      · exact ⟨o, ho, hmem⟩
      · refine ⟨o, ho, (htoken.mp hpartial).resolve_right ?_⟩
        rw [hfree]
        exact Bool.false_ne_true
  · rw [if_neg hpartial]
    constructor
    · rintro -
      refine .inr (Bool.eq_false_iff.mpr fun hlater => ?_)
      exact hpartial (htoken.mpr (.inr hlater))
    · rintro -
      refine ⟨o.reopened, rfl, ?_⟩
      simp [Opening.words, Opening.reopened]

/-- A type that is not partial, with a constraint behind its name, and one with `partial` in a comment. -/
def constrainedText : Text := "public abstract\n  class C<T> : B where T : new()\n\x7b\n    void M() { }\n\x7d\n".toList

def commentedText : Text := "class C // partial\n\x7b\n    void M() { }\n\x7d\n".toList

open TypeSplit.Extraction in
def reopenedFound : { e : Extraction × Extraction //
    e = (run defaultScanner true (.ofText constrainedText), run defaultScanner true (.ofText commentedText)) ∧
      e.1.types.map (fun d => (d.keyword, d.name, d.header)) =
        [("class".toList, ['C'], "public abstract\n  class C<T> : B where T : new()".toList)] ∧
      e.2.types.map (fun d => (d.keyword, d.name, d.header)) =
        [("class".toList, ['C'], "class C // partial".toList)] } :=
  ⟨(run defaultScanner true (.ofText constrainedText), run defaultScanner true (.ofText commentedText)), rfl, by
    rw [defaultScanner_eq]
    decide +kernel⟩

open TypeSplit.Extraction in
theorem a_constrained_type_is_reopened :
    ∃ d ∈ (run defaultScanner true (.ofText constrainedText)).types, d.name = ['C'] ∧
      ∃ line, partialHeader d.header d.keyword = .ok line ∧
        ∃ o : Opening d.keyword d.name, line = o.text ∧ partialWord ∈ o.words := by
  obtain ⟨_, rfl, hfound, -⟩ := reopenedFound
  obtain ⟨d, htypes, hd⟩ := List.map_eq_singleton_iff.mp hfound
  simp only [Prod.mk.injEq] at hd
  obtain ⟨hkeyword, hname, hheader⟩ := hd
  have hmem : d ∈ (run defaultScanner true (.ofText constrainedText)).types := by
    rw [htypes]
    exact List.mem_singleton_self d
  obtain ⟨o, line, ho, hline, -, hiff⟩ := header_reopens_iff hmem
  refine ⟨d, hmem, hname, line, hline, hiff.mpr (.inr (Bool.eq_false_iff.mpr fun hlater => ?_))⟩
  have hword : Word d.keyword ∧ d.keyword ≠ partialWord := by rw [hkeyword]; decide
  have htoken := (hasToken_opening hword.1 hword.2 o).mpr (.inr hlater)
  rw [← ho, hheader] at htoken
  revert htoken
  decide

/-- The header of the second text, which has no modifier. -/
def commentedOpening : Opening "class".toList ['C'] :=
  ⟨[], [' '], ' ' :: "// partial".toList, by simp, by decide, Text.stopsAt_cons.mpr (by decide)⟩

open TypeSplit.Extraction in
/-- The type is taken for a partial one because of the comment, so its parts do not re-open it. -/
theorem a_comment_is_taken_for_a_modifier :
    ∃ d ∈ (run defaultScanner true (.ofText commentedText)).types, partialHeader d.header d.keyword = .ok d.header ∧
      ¬ ∃ o : Opening d.keyword d.name, d.header = o.text ∧ partialWord ∈ o.words := by
  obtain ⟨_, rfl, -, hfound⟩ := reopenedFound
  obtain ⟨d, htypes, hd⟩ := List.map_eq_singleton_iff.mp hfound
  simp only [Prod.mk.injEq] at hd
  obtain ⟨hkeyword, hname, hheader⟩ := hd
  refine ⟨d, by rw [htypes]; exact List.mem_singleton_self d, ?_, ?_⟩
  · rw [partialHeader, if_pos (by rw [hheader]; decide)]
  · rw [hkeyword, hname, hheader]
    rintro ⟨o, ho, hmem⟩
    have hread : commentedOpening.text = o.text := ho
    cases (Opening.mem_words_iff (by decide) (by decide) hread).mpr hmem

end TypeSplit.Splitting
