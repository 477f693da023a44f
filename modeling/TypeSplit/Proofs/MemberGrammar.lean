/-
  TypeSplit.Proofs.MemberGrammar — member sites and the grammars of methods and properties.

  The grammars are said without the scan: `TypeText` and `MemberStart` are what both kinds begin with, and
  `MemberKind.Ends` is what a kind asks for behind the name. They leave open where a run of modifiers ends, although
  a modifier may also be read as a return type, and which closing bracket ends a parameter list.
  - `typeAndName?_eq_some_iff` / `MemberKind.tail?_eq_some_iff`: the readers take a text apart in the way of the grammar.
  - `start_unique`: two runs of modifiers in front of members end at the same place. A modifier that is read as a
    return type has the next word for its name, so no bracket follows that word in the other reading.
  - `MemberKind.accepts_eq_some_iff`: so the run that is tried first does not matter.
  - `member_sites_follow_grammar`: the scans for methods and for properties accept exactly their grammars.
-/

import TypeSplit.Proofs.Carving
import TypeSplit.Proofs.Token

namespace TypeSplit.Declaration

open TypeSplit.Source (Cursor)
open TypeSplit.Text (StopsAt isBlank isWord)

/-! ## The grammars -/

inductive ReturnType : Text → Prop
  | plain {w : Text} : Word w → ReturnType w
  | array {w : Text} : Word w → ReturnType (w ++ ['[', ']'])
  | nullable {w : Text} : Word w → ReturnType (w ++ ['?'])

/-- A return type: one without type arguments, or a word with a list between angle brackets. -/
inductive TypeText : Text → Prop
  | simple {u : Text} : ReturnType u → TypeText u
  | generic {w a : Text} : Word w → '>' ∉ a → TypeText (w ++ '<' :: (a ++ ['>']))

inductive ParametersText : Text → Prop
  | none : ParametersText []
  | list {a : Text} : '>' ∉ a → ParametersText ('<' :: (a ++ ['>']))

/-- Modifiers, each with blanks behind it, a return type, blanks and a name. -/
structure MemberStart (name u : Text) : Prop where
  parts : ∃ run type gap, u = run ++ (type ++ (gap ++ name)) ∧ ModifierRun memberModifiers run ∧ TypeText type ∧ Blanks gap
  word : Word name

/-- What stands behind the name up to the brace of a method, or up to the accessor of a property, which ends where a
word ends. -/
def MemberKind.Ends : MemberKind → (v rest : Text) → Prop
  | .method, v, _ => ∃ params b ps b', v = params ++ (b ++ '(' :: (ps ++ ')' :: (b' ++ ['{']))) ∧ ParametersText params ∧
      (∀ c ∈ b, isBlank c = true) ∧ (∀ c ∈ ps, c ≠ '{' ∧ c ≠ '}' ∧ c ≠ ';') ∧ ∀ c ∈ b', isBlank c = true
  | .property, v, rest => ∃ b b' word, v = b ++ '{' :: (b' ++ word) ∧ (∀ c ∈ b, isBlank c = true) ∧
      (∀ c ∈ b', isBlank c = true) ∧ (word = "get".toList ∨ word = "set".toList) ∧
      Text.boundary v.getLast? rest.head? = true

/-! ## What stands behind the name -/

/-- A list between angle brackets is taken whole, and nothing is taken where none begins. -/
theorem typeArguments?_parameters {params z : Text} (hparams : ParametersText params) (hz : z.head? ≠ some '<') :
    typeArguments? (params ++ z) = some z := by
  cases hparams with
  | none =>
    rw [List.nil_append]
    unfold typeArguments?
    split
    · exact absurd rfl hz
    · rfl
  | @list a ha =>
    have hcut : Text.cut? '>' (a ++ '>' :: z) = some (a, z) := Text.cut?_eq_some_iff.mpr ⟨rfl, ha⟩
    simp [typeArguments?, hcut]

/-- Behind blanks and a character that opens something no list between angle brackets begins. -/
theorem head?_ne_angle {b r : Text} {x : Char} (hb : ∀ c ∈ b, isBlank c = true) (hx : x ≠ '<') :
    (b ++ x :: r).head? ≠ some '<' := by
  intro h
  cases b with
  | nil => exact hx (Option.some.inj h)
  | cons c b =>
    have hc := hb c List.mem_cons_self
    rw [Option.some.inj h] at hc
    exact absurd hc (by decide)

theorem parameters_of_typeArguments? {y z : Text} (h : typeArguments? y = some z) :
    ∃ params, y = params ++ z ∧ ParametersText params := by
  unfold typeArguments? at h
  split at h
  · simp only [Option.map_eq_some_iff, Prod.exists, Text.cut?_eq_some_iff] at h
    obtain ⟨a, _, ⟨rfl, ha⟩, rfl⟩ := h
    exact ⟨'<' :: (a ++ ['>']), by simp, .list ha⟩
  · cases h
    exact ⟨[], rfl, .none⟩

theorem dropWhile_blank_eq {s r : Text} {x : Char} :
    s.dropWhile isBlank = x :: r ↔ isBlank x = false ∧ ∃ b, s = b ++ x :: r ∧ ∀ c ∈ b, isBlank c = true := by
  constructor
  · intro h
    refine ⟨by simpa [h] using Text.stopsAt_dropWhile (p := isBlank) s, s.takeWhile isBlank, ?_, ?_⟩
    · rw [← h, List.takeWhile_append_dropWhile]
    · exact fun c hc => List.mem_takeWhile_imp hc
  · intro h
    obtain ⟨hx, b, rfl, hb⟩ := h
    exact Text.dropWhile_append hb (by simpa using hx)

/-- Behind type parameters and blanks something is opened. -/
def OpensNext (y : Text) : Prop :=
  ∃ z x r, typeArguments? y = some z ∧ z.dropWhile isBlank = x :: r ∧ (x = '(' ∨ x = '{')

theorem MemberKind.Ends.opensNext {kind : MemberKind} {v rest : Text} (h : kind.Ends v rest) : OpensNext (v ++ rest) := by
  cases kind with
  | method =>
    obtain ⟨params, b, ps, b', rfl, hparams, hb, -⟩ := h
    refine ⟨b ++ '(' :: (ps ++ ')' :: (b' ++ '{' :: rest)), '(', ps ++ ')' :: (b' ++ '{' :: rest), ?_, ?_, .inl rfl⟩
    · have := typeArguments?_parameters (z := b ++ '(' :: (ps ++ ')' :: (b' ++ '{' :: rest))) hparams
        (head?_ne_angle hb (by decide))
      simpa using this
    · exact dropWhile_blank_eq.mpr ⟨by decide, b, rfl, hb⟩
  | property =>
    obtain ⟨b, b', word, rfl, hb, -⟩ := h
    refine ⟨b ++ '{' :: (b' ++ (word ++ rest)), '{', b' ++ (word ++ rest), ?_, ?_, .inr rfl⟩
    · have := typeArguments?_parameters (z := b ++ '{' :: (b' ++ (word ++ rest))) .none (head?_ne_angle hb (by decide))
      simpa using this
    · exact dropWhile_blank_eq.mpr ⟨by decide, b, rfl, hb⟩

/-- What is opened is the first character behind blanks, unless that begins a list between angle brackets. -/
theorem OpensNext.opens {b s : Text} {c : Char} (h : OpensNext (b ++ c :: s)) (hb : ∀ x ∈ b, isBlank x = true)
    (hc : isBlank c = false) (hne : c ≠ '<') : c = '(' ∨ c = '{' := by
  obtain ⟨z, x, r, hargs, hdrop, hx⟩ := h
  have hself : typeArguments? (b ++ c :: s) = some (b ++ c :: s) :=
    typeArguments?_parameters .none (head?_ne_angle hb hne)
  rw [hself, Option.some.injEq] at hargs
  rw [← hargs, dropWhile_blank_eq.mpr ⟨hc, b, rfl, hb⟩] at hdrop
  rw [(List.cons.inj hdrop).1]
  exact hx

theorem OpensNext.not_word {b s : Text} {c : Char} (h : OpensNext (b ++ c :: s)) (hb : ∀ x ∈ b, isBlank x = true) :
    isWord c = false := by
  rw [Bool.eq_false_iff]
  intro hc
  rcases h.opens hb (Text.isBlank_eq_false_of_isWord hc) (fun hlt => absurd (hlt ▸ hc) (by decide)) with rfl | rfl
  · exact absurd hc (by decide)
  · exact absurd hc (by decide)

theorem OpensNext.stopsAt {y : Text} (h : OpensNext y) : StopsAt isWord y := by
  cases y with
  | nil => simp
  | cons c s => exact Text.stopsAt_cons.mpr (OpensNext.not_word (b := []) h (by simp))

/-! ## What the readers take -/

theorem returnType?_eq {type gap t : Text} (htype : ReturnType type) (hgap : Blanks gap) :
    returnType? (type ++ (gap ++ t)) = some (gap ++ t) := by
  cases htype with
  | plain hw =>
    have hword := word?_eq_some_iff.mpr ⟨rfl, hw, hgap.stopsAt_word t⟩
    have hhead : ∀ c r, gap ++ t = c :: r → isBlank c = true := by
      intro c r h
      obtain ⟨x, g, rfl, hx⟩ := hgap.cons
      rw [← (List.cons.inj h).1]
      exact hx
    rw [returnType?, hword]
    simp only [Option.bind_eq_bind, Option.bind_some]
    split
    · rename_i heq
      exact absurd (hhead _ _ heq) (by decide)
    · rename_i heq
      exact absurd (hhead _ _ heq) (by decide)
    · unfold typeArguments?
      split
      · rename_i heq
        exact absurd (hhead _ _ heq) (by decide)
      · rfl
  | @array w hw =>
    have hword : word? (w ++ ['[', ']'] ++ (gap ++ t)) = some (w, '[' :: ']' :: (gap ++ t)) :=
      word?_eq_some_iff.mpr ⟨by simp, hw, by simp; decide⟩
    rw [returnType?, hword]
    rfl
  | @nullable w hw =>
    have hword : word? (w ++ ['?'] ++ (gap ++ t)) = some (w, '?' :: (gap ++ t)) :=
      word?_eq_some_iff.mpr ⟨by simp, hw, by simp; decide⟩
    rw [returnType?, hword]
    rfl

theorem returnType?_gap {t gap s : Text} (hgap : Blanks gap) :
    returnType? t = some (gap ++ s) ↔ ∃ type, t = type ++ (gap ++ s) ∧ TypeText type := by
  constructor
  · intro h
    simp only [returnType?, Option.bind_eq_bind, Option.bind_eq_some_iff, Prod.exists, word?_eq_some_iff] at h
    obtain ⟨w, y, ⟨rfl, hw, -⟩, h⟩ := h
    split at h
    · cases h
      exact ⟨w ++ ['[', ']'], by simp, .simple (.array hw)⟩
    · cases h
      exact ⟨w ++ ['?'], by simp, .simple (.nullable hw)⟩
    · unfold typeArguments? at h
      split at h
      · simp only [Option.map_eq_some_iff, Prod.exists, Text.cut?_eq_some_iff] at h
        obtain ⟨a, _, ⟨rfl, ha⟩, rfl⟩ := h
        exact ⟨w ++ '<' :: (a ++ ['>']), by simp, .generic hw ha⟩
      · cases h
        exact ⟨w, rfl, .simple (.plain hw)⟩
  · intro h
    obtain ⟨type, rfl, htype⟩ := h
    cases htype with
    | simple htype => exact returnType?_eq htype hgap
    | @generic w a hw ha =>
      have hword : word? (w ++ '<' :: (a ++ ['>']) ++ (gap ++ s)) = some (w, '<' :: (a ++ '>' :: (gap ++ s))) :=
        word?_eq_some_iff.mpr ⟨by simp, hw, by simp; decide⟩
      have hcut : Text.cut? '>' (a ++ '>' :: (gap ++ s)) = some (a, gap ++ s) := Text.cut?_eq_some_iff.mpr ⟨rfl, ha⟩
      rw [returnType?, hword]
      simp [typeArguments?, hcut]

theorem typeAndName?_eq_some_iff {t name y : Text} :
    typeAndName? t = some (name, y) ↔ ∃ type gap, t = type ++ (gap ++ (name ++ y)) ∧ TypeText type ∧ Blanks gap ∧
      Word name ∧ StopsAt isWord y := by
  simp only [typeAndName?, Option.bind_eq_bind, Option.bind_eq_some_iff, blanks?_eq_some_iff, word?_eq_some_iff]
  constructor
  · intro h
    obtain ⟨_, hreturn, _, ⟨gap, rfl, hgap, -⟩, rfl, hname, hy⟩ := h
    obtain ⟨type, rfl, htype⟩ := (returnType?_gap hgap).mp hreturn
    exact ⟨type, gap, rfl, htype, hgap, hname, hy⟩
  · intro h
    obtain ⟨type, gap, rfl, htype, hgap, hname, hy⟩ := h
    exact ⟨_, (returnType?_gap hgap).mpr ⟨type, rfl, htype⟩, _, ⟨gap, rfl, hgap, (hname.beginsWord y).stopsAt_blank⟩, rfl, hname, hy⟩

theorem endsParameters_eq_false_iff {c : Char} : endsParameters c = false ↔ c ≠ '{' ∧ c ≠ '}' ∧ c ≠ ';' := by
  simp [endsParameters, and_assoc]

theorem endsParameters_eq_false_of_isBlank {c : Char} (h : isBlank c = true) : endsParameters c = false := by
  cases he : endsParameters c with
  | false => rfl
  | true =>
    simp only [endsParameters, Bool.or_eq_true, beq_iff_eq] at he
    rcases he with (rfl | rfl) | rfl <;> revert h <;> decide

/-- The last character of a text but for those behind it that pass a test. -/
theorem exists_last_of_head? {q : Char → Bool} {u : Text} {c : Char} (h : (u.reverse.dropWhile q).head? = some c) :
    ∃ v b, u = v ++ c :: b ∧ ∀ x ∈ b, q x = true := by
  obtain ⟨v, hv⟩ := List.head?_eq_some_iff.mp h
  refine ⟨v.reverse, (u.reverse.takeWhile q).reverse, ?_, fun x hx => List.mem_takeWhile_imp (List.mem_reverse.mp hx)⟩
  have hparts := congrArg List.reverse (List.takeWhile_append_dropWhile (p := q) (l := u.reverse))
  rw [hv] at hparts
  simpa using hparts.symm

theorem parametersAndBrace?_reads_parts {t r : Text} (h : parametersAndBrace? t = some r) :
    ∃ b ps b', t = b ++ '(' :: (ps ++ ')' :: (b' ++ '{' :: r)) ∧
      (∀ c ∈ b, isBlank c = true) ∧ (∀ c ∈ ps, endsParameters c = false) ∧ ∀ c ∈ b', isBlank c = true := by
  simp only [parametersAndBrace?] at h
  split at h
  · rename_i s hs
    split at h
    · rename_i rest hrest
      split at h
      · rename_i hlast
        cases h
        -- Read backwards, the parameters are blanks, a closing bracket and the rest.
        obtain ⟨ps, b', hu, hb'⟩ := exists_last_of_head? hlast
        refine ⟨t.takeWhile isBlank, ps, b', ?_, fun c hc => List.mem_takeWhile_imp hc, fun c hc => ?_, hb'⟩
        · have ht : t.takeWhile isBlank ++ '(' :: s = t := by rw [← hs, List.takeWhile_append_dropWhile]
          have hparts : ps ++ ')' :: b' ++ '{' :: r = s := by rw [← hu, ← hrest, List.takeWhile_append_dropWhile]
          rw [show ps ++ ')' :: (b' ++ '{' :: r) = s by rw [← hparts]; simp, ht]
        · have hm : c ∈ s.takeWhile (!endsParameters ·) := hu ▸ List.mem_append_left _ hc
          simpa using List.mem_takeWhile_imp hm
      · cases h
    · cases h
  · cases h

theorem parametersAndBrace?_eq_some_iff {t r : Text} :
    parametersAndBrace? t = some r ↔ ∃ b ps b', t = b ++ '(' :: (ps ++ ')' :: (b' ++ '{' :: r)) ∧
      (∀ c ∈ b, isBlank c = true) ∧ (∀ c ∈ ps, endsParameters c = false) ∧ ∀ c ∈ b', isBlank c = true := by
  refine ⟨parametersAndBrace?_reads_parts, fun hsplit => ?_⟩
  obtain ⟨b, ps, b', ht, hb, hps, hb'⟩ := hsplit
  have hu : ∀ c ∈ ps ++ ')' :: b', (!endsParameters c) = true := by
    intro c hc
    rcases List.mem_append.mp hc with hc | hc
    · rw [hps c hc]
      rfl
    · rcases List.mem_cons.mp hc with rfl | hc
      · decide
      · rw [endsParameters_eq_false_of_isBlank (hb' c hc)]
        rfl
  have hs : ps ++ ')' :: (b' ++ '{' :: r) = ps ++ ')' :: b' ++ '{' :: r := by simp
  have hrev : (ps ++ ')' :: b').reverse = b'.reverse ++ ')' :: ps.reverse := by simp
  have hb' : ∀ c ∈ b'.reverse, isBlank c = true := fun c hc => hb' c (List.mem_reverse.mp hc)
  simp only [parametersAndBrace?, ht, Text.dropWhile_append hb (b := '(' :: _) (by simp; decide), hs]
  simp only [Text.dropWhile_append hu (b := '{' :: r) (by simp; decide),
    Text.takeWhile_append hu (b := '{' :: r) (by simp; decide), hrev,
    Text.dropWhile_append hb' (b := ')' :: ps.reverse) (by simp; decide), List.head?_cons, if_true]

theorem accessor?_eq_some_iff {t r : Text} :
    accessor? t = some r ↔ ∃ word, t = word ++ r ∧ (word = "get".toList ∨ word = "set".toList) ∧ StopsAt isWord r := by
  have hor : ∀ s, (("get".toList.isPrefixOf? t).or ("set".toList.isPrefixOf? t)) = some s ↔
      "get".toList ++ s = t ∨ "set".toList ++ s = t := by
    intro s
    rw [Option.or_eq_some_iff, List.isPrefixOf?_eq_some_iff_append_eq, List.isPrefixOf?_eq_some_iff_append_eq]
    constructor
    · intro h
      rcases h with h | ⟨-, h⟩
      · exact .inl h
      · exact .inr h
    · intro h
      rcases h with h | h
      · exact .inl h
      · refine .inr ⟨?_, h⟩
        rw [← h]
        rfl
  simp only [accessor?, Option.bind_eq_bind, Option.bind_eq_some_iff, hor]
  constructor
  · intro hsplit
    obtain ⟨s, hs, h⟩ := hsplit
    split at h
    · cases h
    · rename_i hstop
      cases h
      have hstop : StopsAt isWord r := Text.any_head?_eq_false.mp (by simpa using hstop)
      rcases hs with rfl | rfl
      · exact ⟨_, rfl, .inl rfl, hstop⟩
      · exact ⟨_, rfl, .inr rfl, hstop⟩
  · intro hsplit
    obtain ⟨word, ht, hword, hstop⟩ := hsplit
    refine ⟨r, ?_, by rw [if_neg (by simp [Text.any_head?_eq_false.mpr hstop])]⟩
    rcases hword with rfl | rfl
    · exact .inl ht.symm
    · exact .inr ht.symm

/-- An accessor ends at a boundary exactly if no word goes on behind it. -/
theorem boundary_accessor {b b' word rest : Text} (hword : word = "get".toList ∨ word = "set".toList) :
    Text.boundary (b ++ '{' :: (b' ++ word)).getLast? rest.head? = true ↔ StopsAt isWord rest := by
  have hlast : (b ++ '{' :: (b' ++ word)).getLast? = some 't' := by
    rw [show b ++ '{' :: (b' ++ word) = b ++ '{' :: b' ++ word by simp, List.getLast?_append]
    rcases hword with rfl | rfl <;> rfl
  rw [hlast, Text.boundary_eq_not_right (by decide), Bool.not_eq_true', Text.any_head?_eq_false]

theorem methodTail?_eq_some_iff {t name rest : Text} :
    methodTail? t = some (name, rest) ↔ ∃ type gap v, t = type ++ (gap ++ (name ++ (v ++ rest))) ∧ TypeText type ∧
      Blanks gap ∧ Word name ∧ MemberKind.method.Ends v rest := by
  simp only [methodTail?, Option.bind_eq_bind, Option.bind_eq_some_iff, Prod.exists, Option.some.injEq, Prod.mk.injEq,
    typeAndName?_eq_some_iff, parametersAndBrace?_eq_some_iff, endsParameters_eq_false_iff]
  constructor
  · intro h
    obtain ⟨_, y, ⟨type, gap, rfl, htype, hgap, hname, -⟩, z, hargs, _, ⟨b, ps, b', rfl, hb, hps, hb'⟩, rfl, rfl⟩ := h
    obtain ⟨params, rfl, hparams⟩ := parameters_of_typeArguments? hargs
    exact ⟨type, gap, params ++ (b ++ '(' :: (ps ++ ')' :: (b' ++ ['{']))), by simp, htype, hgap, hname,
      params, b, ps, b', rfl, hparams, hb, hps, hb'⟩
  · intro h
    obtain ⟨type, gap, v, rfl, htype, hgap, hname, hends⟩ := h
    refine ⟨name, v ++ rest, ⟨type, gap, rfl, htype, hgap, hname, hends.opensNext.stopsAt⟩, ?_⟩
    obtain ⟨params, b, ps, b', rfl, hparams, hb, hps, hb'⟩ := hends
    have hargs := typeArguments?_parameters (z := b ++ '(' :: (ps ++ ')' :: (b' ++ '{' :: rest))) hparams
      (head?_ne_angle hb (by decide))
    exact ⟨_, by simpa using hargs, rest, ⟨b, ps, b', rfl, hb, hps, hb'⟩, rfl, rfl⟩

theorem propertyTail?_eq_some_iff {t name rest : Text} :
    propertyTail? t = some (name, rest) ↔ ∃ type gap v, t = type ++ (gap ++ (name ++ (v ++ rest))) ∧ TypeText type ∧
      Blanks gap ∧ Word name ∧ MemberKind.property.Ends v rest := by
  simp only [propertyTail?, Option.bind_eq_bind, Option.bind_eq_some_iff, Prod.exists, typeAndName?_eq_some_iff]
  constructor
  · intro h
    obtain ⟨_, y, ⟨type, gap, rfl, htype, hgap, hname, -⟩, h⟩ := h
    split at h
    · rename_i s hs
      simp only [Option.bind_eq_some_iff, Option.some.injEq, Prod.mk.injEq] at h
      obtain ⟨rest, hacc, rfl, rfl⟩ := h
      obtain ⟨-, b, rfl, hb⟩ := dropWhile_blank_eq.mp hs
      obtain ⟨word, hword, hget, hstop⟩ := accessor?_eq_some_iff.mp hacc
      have hs : s = s.takeWhile isBlank ++ (word ++ rest) := by rw [← hword, List.takeWhile_append_dropWhile]
      refine ⟨type, gap, b ++ '{' :: (s.takeWhile isBlank ++ word), ?_, htype, hgap, hname, b, s.takeWhile isBlank, word, rfl,
        hb, fun c hc => List.mem_takeWhile_imp hc, hget, (boundary_accessor hget).mpr hstop⟩
      conv => lhs; rw [hs]
      simp
    · cases h
  · intro h
    obtain ⟨type, gap, v, rfl, htype, hgap, hname, hends⟩ := h
    refine ⟨name, v ++ rest, ⟨type, gap, rfl, htype, hgap, hname, hends.opensNext.stopsAt⟩, ?_⟩
    obtain ⟨b, b', word, rfl, hb, hb', hget, hboundary⟩ := hends
    have hstop : StopsAt isWord rest := (boundary_accessor hget).mp hboundary
    have hdrop : (b ++ '{' :: (b' ++ (word ++ rest))).dropWhile isBlank = '{' :: (b' ++ (word ++ rest)) :=
      dropWhile_blank_eq.mpr ⟨by decide, b, rfl, hb⟩
    have hdrop' : (b' ++ (word ++ rest)).dropWhile isBlank = word ++ rest := by
      refine Text.dropWhile_append hb' ?_
      rcases hget with rfl | rfl <;> simp <;> decide
    have hacc : accessor? (word ++ rest) = some rest := accessor?_eq_some_iff.mpr ⟨word, rfl, hget, hstop⟩
    simp [hdrop, hdrop', hacc]

def MemberKind.tail? : MemberKind → Text → Option (Text × Text)
  | .method => methodTail?
  | .property => propertyTail?

theorem MemberKind.accepts_eq (kind : MemberKind) : kind.accepts = memberWith kind.tail? := by
  cases kind <;> rfl

theorem MemberKind.tail?_eq_some_iff {kind : MemberKind} {t name rest : Text} :
    kind.tail? t = some (name, rest) ↔ ∃ type gap v, t = type ++ (gap ++ (name ++ (v ++ rest))) ∧ TypeText type ∧
      Blanks gap ∧ Word name ∧ kind.Ends v rest := by
  cases kind with
  | method => exact methodTail?_eq_some_iff
  | property => exact propertyTail?_eq_some_iff

/-! ## One reading -/

/-- A word is no return type where something is opened behind it: no name follows. -/
theorem typeAndName?_opensNext {w y : Text} (hw : Word w) (hy : OpensNext y) : typeAndName? (w ++ y) = none := by
  have hword := word?_eq_some_iff.mpr ⟨rfl, hw, hy.stopsAt⟩
  have hopen := hy
  obtain ⟨z, x, r, hargs, hdrop, hx⟩ := hopen
  have hreturn : returnType? (w ++ y) = some z := by
    rw [returnType?, hword]
    simp only [Option.bind_eq_bind, Option.bind_some]
    split
    · exact absurd (OpensNext.opens (b := []) hy (by simp) (by decide) (by decide)) (by decide)
    · exact absurd (OpensNext.opens (b := []) hy (by simp) (by decide) (by decide)) (by decide)
    · exact hargs
  have hnone : word? (x :: r) = none := by
    rcases hx with rfl | rfl <;> rfl
  rw [typeAndName?, hreturn]
  cases z with
  | nil => rfl
  | cons c z =>
    by_cases hc : isBlank c = true
    · rw [List.dropWhile_cons_of_pos hc] at hdrop
      simp [blanks?, hc, hdrop, hnone]
    · simp [blanks?, hc]

theorem beginsWord_of_typeAndName? {x : Text} {r : Text × Text} (h : typeAndName? x = some r) : BeginsWord x := by
  obtain ⟨u, rfl, hu, -⟩ := typeAndName?_reads h
  exact hu.append _

/-- A modifier in front of a member is not the return type of a member with the next word as its name. -/
theorem modifier_not_type {m b run x name y : Text} {r : Text × Text} (hm : Word m) (hb : Blanks b)
    (hrun : ModifierRun memberModifiers run) (hx : typeAndName? x = some r)
    (h : typeAndName? (m ++ (b ++ (run ++ x))) = some (name, y)) : ¬ OpensNext y := by
  intro hy
  have hbegins : BeginsWord (run ++ x) := hrun.beginsWord memberModifiers_word (beginsWord_of_typeAndName? hx)
  have hword : word? (run ++ x) = some (name, y) := by
    have hblanks := blanks?_eq_some_iff.mpr ⟨b, rfl, hb, hbegins.stopsAt_blank⟩
    rw [typeAndName?, returnType?_eq (.plain hm) hb] at h
    simpa [hblanks] using h
  cases hrun with
  | nil =>
    rw [List.nil_append] at hword
    obtain ⟨rfl, hname, -⟩ := word?_eq_some_iff.mp hword
    rw [typeAndName?_opensNext hname hy] at hx
    cases hx
  | @cons m' b' run hm' hb' hrun =>
    have hread := word?_eq_some_iff.mpr ⟨rfl, memberModifiers_word _ hm', hb'.stopsAt_word (run ++ x)⟩
    rw [List.append_assoc, List.append_assoc, hread, Option.some.injEq, Prod.mk.injEq] at hword
    obtain ⟨c, s, hs, hc⟩ := hrun.beginsWord memberModifiers_word (beginsWord_of_typeAndName? hx)
    rw [← hword.2, hs] at hy
    rw [hy.not_word hb'.all] at hc
    cases hc

theorem start_unique {run run' x x' name name' y y' : Text} (hrun : ModifierRun memberModifiers run)
    (hrun' : ModifierRun memberModifiers run') (hx : typeAndName? x = some (name, y)) (hy : OpensNext y)
    (hx' : typeAndName? x' = some (name', y')) (hy' : OpensNext y') (h : run ++ x = run' ++ x') : x = x' := by
  induction hrun generalizing run' with
  | nil =>
    cases hrun' with
    | nil => exact h
    | cons hm hb hrun' =>
      rw [List.nil_append, List.append_assoc, List.append_assoc] at h
      exact absurd hy (modifier_not_type (memberModifiers_word _ hm) hb hrun' hx' (h ▸ hx))
  | cons hm hb hrun ih =>
    rw [List.append_assoc, List.append_assoc] at h
    cases hrun' with
    | nil =>
      rw [List.nil_append] at h
      exact absurd hy' (modifier_not_type (memberModifiers_word _ hm) hb hrun hx (h ▸ hx'))
    | cons hm' hb' hrun' =>
      rw [List.append_assoc, List.append_assoc] at h
      have hbehind := ((memberModifiers_word _ hm).append_inj (memberModifiers_word _ hm') (hb.stopsAt_word _)
        (hb'.stopsAt_word _) h).2
      have hword := hrun.beginsWord memberModifiers_word (beginsWord_of_typeAndName? hx)
      have hword' := hrun'.beginsWord memberModifiers_word (beginsWord_of_typeAndName? hx')
      exact ih hrun' (hb.append_inj hb' hword.stopsAt_blank hword'.stopsAt_blank hbehind).2

/-! ## What the scans accept -/

theorem MemberKind.accepts_eq_some_iff {kind : MemberKind} {c : Cursor} {name : Text} {n : Nat} :
    kind.accepts c = some (name, n) ↔ startsHere c = true ∧ ∃ run x rest, ModifierRun memberModifiers run ∧
      c.ahead = run ++ x ∧ kind.tail? x = some (name, rest) ∧ n = c.ahead.length - rest.length := by
  rw [kind.accepts_eq]
  have reads : ∀ {name n}, memberWith kind.tail? c = some (name, n) → startsHere c = true ∧ ∃ run x rest,
      ModifierRun memberModifiers run ∧ c.ahead = run ++ x ∧ kind.tail? x = some (name, rest) ∧
        n = c.ahead.length - rest.length := by
    intro name n h
    simp only [memberWith] at h
    split at h
    · rename_i hs
      obtain ⟨x, hm, htail⟩ := List.exists_of_findSome?_eq_some h
      obtain ⟨run, hrun, hc⟩ := mem_modifierRun_iff.mp hm
      simp only [Option.map_eq_some_iff, Prod.exists, Prod.mk.injEq] at htail
      obtain ⟨_, rest, htail, rfl, rfl⟩ := htail
      exact ⟨hs, run, x, rest, hrun, hc, htail, rfl⟩
    · cases h
  refine ⟨reads, fun h => ?_⟩
  obtain ⟨hs, run, x, rest, hrun, hc, htail, rfl⟩ := h
  have hsome : (memberWith kind.tail? c).isSome = true := by
    simp only [memberWith, hs, if_true, List.findSome?_isSome_iff]
    exact ⟨x, mem_modifierRun_iff.mpr ⟨run, hrun, hc⟩, by simp [htail]⟩
  obtain ⟨⟨name', n⟩, hacc⟩ := Option.isSome_iff_exists.mp hsome
  -- The run that was tried first is the same one.
  obtain ⟨-, run', x', rest', hrun', hc', htail', rfl⟩ := reads hacc
  have typed : ∀ {x name rest}, kind.tail? x = some (name, rest) →
      ∃ y, typeAndName? x = some (name, y) ∧ OpensNext y := by
    intro x name rest h
    obtain ⟨type, gap, v, rfl, htype, hgap, hname, hends⟩ := MemberKind.tail?_eq_some_iff.mp h
    exact ⟨_, typeAndName?_eq_some_iff.mpr ⟨type, gap, rfl, htype, hgap, hname, hends.opensNext.stopsAt⟩, hends.opensNext⟩
  obtain ⟨y, hx, hy⟩ := typed htail
  obtain ⟨y', hx', hy'⟩ := typed htail'
  obtain rfl := start_unique hrun hrun' hx hy hx' hy' (hc.symm.trans hc')
  rw [htail, Option.some.injEq, Prod.mk.injEq] at htail'
  rw [hacc, htail'.1, htail'.2]

theorem detached_take {t : Text} {e p : Nat} (hp : p ≤ e) : Detached (t.take e) p ↔ Detached t p := by
  have hget : ∀ q, q + 1 = p → (t.take e)[q]? = t[q]? := fun q hq => by rw [List.getElem?_take, if_pos (by omega)]
  constructor
  · intro h q c hq hc
    exact h q c hq ((hget q hq).trans hc)
  · intro h q c hq hc
    exact h q c hq ((hget q hq).symm.trans hc)

/-- What stands behind a window does not matter to where something in it may begin. -/
theorem startsHere_window {t : Text} {e p : Nat} (h : (t.take e).drop p ≠ []) :
    startsHere (.at_ (t.take e) p) = true ↔ Detached t p := by
  have hlt := Text.lt_length_of_drop h
  rw [List.length_take] at hlt
  rw [startsHere_at h, detached_take (by omega)]

theorem MemberStart.append_ne_nil {name u : Text} (h : MemberStart name u) (r : Text) : u ++ r ≠ [] := by
  obtain ⟨run, type, gap, rfl, -⟩ := h.parts
  simp [h.word.ne]

/-- The scan for a kind of members accepts at an offset of a window, with a name and a length, exactly if the grammar of
the kind has a text of that name and that length there. What stands behind the window is not seen: its end ends a word. -/
theorem member_sites_follow_grammar (kind : MemberKind) (t : Text) (e p : Nat) (name : Text) (n : Nat) :
    kind.accepts (.at_ (t.take e) p) = some (name, n) ↔
      Detached t p ∧ ∃ start v rest, (t.take e).drop p = start ++ (v ++ rest) ∧ MemberStart name start ∧
        kind.Ends v rest ∧ n = (start ++ v).length := by
  rw [MemberKind.accepts_eq_some_iff]
  constructor
  · intro h
    obtain ⟨hs, run, x, rest, hrun, hahead, htail, rfl⟩ := h
    obtain ⟨type, gap, v, rfl, htype, hgap, hname, hends⟩ := MemberKind.tail?_eq_some_iff.mp htail
    have hstart : MemberStart name (run ++ (type ++ (gap ++ name))) := ⟨⟨run, type, gap, rfl, hrun, htype, hgap⟩, hname⟩
    have hparts : (t.take e).drop p = run ++ (type ++ (gap ++ name)) ++ (v ++ rest) := by
      rw [← Cursor.ahead_at, hahead]
      simp
    have hinside : (t.take e).drop p ≠ [] := hparts ▸ hstart.append_ne_nil _
    refine ⟨(startsHere_window hinside).mp hs, _, v, rest, hparts, hstart, hends, ?_⟩
    rw [Cursor.ahead_at, hparts]
    simp only [List.length_append]
    omega
  · intro h
    obtain ⟨hp, start, v, rest, hparts, hstart, hends, rfl⟩ := h
    have hinside : (t.take e).drop p ≠ [] := hparts ▸ hstart.append_ne_nil _
    refine ⟨(startsHere_window hinside).mpr hp, ?_⟩
    obtain ⟨run, type, gap, rfl, hrun, htype, hgap⟩ := hstart.parts
    refine ⟨run, type ++ (gap ++ (name ++ (v ++ rest))), rest, hrun, by rw [Cursor.ahead_at, hparts]; simp,
      MemberKind.tail?_eq_some_iff.mpr ⟨type, gap, v, rfl, htype, hgap, hstart.word, hends⟩, ?_⟩
    rw [Cursor.ahead_at, hparts]
    simp only [List.length_append]
    omega

end TypeSplit.Declaration
