/-
  TypeSplit.Proofs.MemberHead — members without type arguments, told by their parts.

  Where no `<` stands ahead, the grammar of members comes down to parts that stand one after another: modifiers, a
  return type, blanks, a name, and then what the kind asks for around the brace (`Head`). The recognisers accept there
  and nowhere else (`accepts_of_head`, `head_of_accepts`), and the kind and the name can be read off what stands before
  the brace (`Head.unique`). Texts that are alike have the same heads (`Head.alike`).
-/

import TypeSplit.Proofs.MemberGrammar

namespace TypeSplit.Declaration

open TypeSplit.Source (Cursor)
open TypeSplit.Text (Alike StopsAt isBlank isWord)

/-! ## The parts -/

/-- What a kind asks for between the name and the brace, and behind the brace. -/
def MemberKind.Asks : MemberKind → (rest inner : Text) → Prop
  | .method, rest, _ => ∃ b ps b', rest = b ++ '(' :: (ps ++ ')' :: b') ∧ (∀ c ∈ b, isBlank c = true) ∧
      (∀ c ∈ ps, endsParameters c = false) ∧ ∀ c ∈ b', isBlank c = true
  | .property, rest, inner => (∀ c ∈ rest, isBlank c = true) ∧
      ∃ b word y, inner = b ++ (word ++ y) ∧ (∀ c ∈ b, isBlank c = true) ∧
        (word = "get".toList ∨ word = "set".toList) ∧ StopsAt isWord y

/-- A member of a kind and a name: `front` stands before its brace and `inner` behind it. -/
structure Head (kind : MemberKind) (name front inner : Text) : Prop where
  parts : ∃ run type gap rest, front = run ++ (type ++ (gap ++ (name ++ rest))) ∧
    ModifierRun memberModifiers run ∧ ReturnType type ∧ Blanks gap ∧ kind.Asks rest inner
  word : Word name

theorem ReturnType.mem {type : Text} (h : ReturnType type) {c : Char} (hc : c ∈ type) :
    isWord c = true ∨ c = '[' ∨ c = ']' ∨ c = '?' := by
  cases h with
  | plain hw => exact .inl (hw.all c hc)
  | array hw =>
    rcases List.mem_append.mp hc with hc | hc
    · exact .inl (hw.all c hc)
    · simp only [List.mem_cons, List.not_mem_nil, or_false] at hc
      rcases hc with rfl | rfl
      · exact .inr (.inl rfl)
      · exact .inr (.inr (.inl rfl))
  | nullable hw =>
    rcases List.mem_append.mp hc with hc | hc
    · exact .inl (hw.all c hc)
    · exact .inr (.inr (.inr (List.mem_singleton.mp hc)))

theorem ReturnType.ne_nil {type : Text} (h : ReturnType type) : type ≠ [] := by
  cases h with
  | plain hw => exact hw.ne
  | array hw => simp
  | nullable hw => simp

theorem ReturnType.not_blank {type : Text} (h : ReturnType type) : ∀ c ∈ type, isBlank c = false := by
  intro c hc
  rcases h.mem hc with hw | rfl | rfl | rfl
  · exact Text.isBlank_eq_false_of_isWord hw
  all_goals decide

/-- What stands in front of the name and the name itself: no bracket of any kind but those of the type. -/
theorem not_mem_upToName {run type gap name : Text} {c : Char} (hrun : ModifierRun memberModifiers run)
    (htype : ReturnType type) (hgap : Blanks gap) (hname : Word name) (hw : isWord c = false) (hb : isBlank c = false)
    (hc : c ≠ '[' ∧ c ≠ ']' ∧ c ≠ '?') : c ∉ run ++ (type ++ (gap ++ name)) := by
  intro h
  simp only [List.mem_append] at h
  rcases h with h | h | h | h
  · rcases hrun.mem memberModifiers_word h with h | h
    · rw [hw] at h; cases h
    · rw [hb] at h; cases h
  · rcases htype.mem h with h | h | h | h
    · rw [hw] at h; cases h
    · exact hc.1 h
    · exact hc.2.1 h
    · exact hc.2.2 h
  · rw [hgap.all c h] at hb; cases hb
  · rw [hname.all c h] at hw; cases hw

/-- No brace stands before the brace. -/
theorem Head.braceless {kind : MemberKind} {name front inner : Text} (h : Head kind name front inner) :
    Braceless front := by
  obtain ⟨run, type, gap, rest, rfl, hrun, htype, hgap, hasks⟩ := h.parts
  have hrest : Braceless rest := by
    cases kind with
    | method =>
      obtain ⟨b, ps, b', rfl, hb, hps, hb'⟩ := hasks
      have h1 : Braceless b := .of_all (by decide) (by decide) hb
      have h2 : Braceless ps := .of_all (p := (!endsParameters ·)) (by decide) (by decide) fun c hc => by simp [hps c hc]
      have h3 : Braceless b' := .of_all (by decide) (by decide) hb'
      exact ⟨by simp [h1.no_open, h2.no_open, h3.no_open], by simp [h1.no_close, h2.no_close, h3.no_close]⟩
    | property => exact .of_all (by decide) (by decide) hasks.1
  have hopen := not_mem_upToName (c := '{') hrun htype hgap h.word (by decide) (by decide) (by decide)
  have hclose := not_mem_upToName (c := '}') hrun htype hgap h.word (by decide) (by decide) (by decide)
  have : run ++ (type ++ (gap ++ (name ++ rest))) = run ++ (type ++ (gap ++ name)) ++ rest := by simp
  rw [this]
  exact Braceless.append ⟨hopen, hclose⟩ hrest

/-! ## One reading -/

/-- The last word of a text that may end with blanks. -/
def lastWord (t : Text) : Text := ((t.reverse.dropWhile isBlank).takeWhile isWord).reverse

theorem lastWord_eq {front gap name b : Text} (hgap : Blanks gap) (hname : Word name) (hb : ∀ c ∈ b, isBlank c = true) :
    lastWord (front ++ (gap ++ (name ++ b))) = name := by
  have hrev : (front ++ (gap ++ (name ++ b))).reverse = b.reverse ++ (name.reverse ++ (gap.reverse ++ front.reverse)) := by
    simp
  have hb : ∀ c ∈ b.reverse, isBlank c = true := fun c hc => hb c (List.mem_reverse.mp hc)
  have hword : Word name.reverse := ⟨by simpa using hname.ne, fun c hc => hname.all c (List.mem_reverse.mp hc)⟩
  have hgap : Blanks gap.reverse := ⟨by simpa using hgap.ne, fun c hc => hgap.all c (List.mem_reverse.mp hc)⟩
  rw [lastWord, hrev, Text.dropWhile_append hb (hword.beginsWord _).stopsAt_blank,
    Text.takeWhile_append hword.all (hgap.stopsAt_word _), List.reverse_reverse]

/-- The kind and the name of a member, read off what stands before its brace. -/
theorem Head.eq {kind : MemberKind} {name front inner : Text} (h : Head kind name front inner) :
    lastWord (front.takeWhile (· ≠ '(')) = name ∧ ('(' ∈ front ↔ kind = .method) := by
  obtain ⟨run, type, gap, rest, rfl, hrun, htype, hgap, hasks⟩ := h.parts
  have hparen := not_mem_upToName (c := '(') hrun htype hgap h.word (by decide) (by decide) (by decide)
  cases kind with
  | method =>
    obtain ⟨b, ps, b', rfl, hb, -, -⟩ := hasks
    have hb' : '(' ∉ b := fun hm => absurd (hb _ hm) (by decide)
    have hfront : run ++ (type ++ (gap ++ (name ++ (b ++ '(' :: (ps ++ ')' :: b'))))) =
        run ++ type ++ (gap ++ (name ++ b)) ++ '(' :: (ps ++ ')' :: b') := by simp
    refine ⟨?_, by simp⟩
    rw [hfront, Text.takeWhile_append ?_ (by simp), lastWord_eq hgap h.word hb]
    intro c hc
    have : '(' ∉ run ++ type ++ (gap ++ (name ++ b)) := by
      simp only [List.mem_append, not_or] at hparen ⊢
      exact ⟨⟨hparen.1, hparen.2.1⟩, hparen.2.2.1, hparen.2.2.2, hb'⟩
    simpa using fun hcp : c = '(' => this (hcp ▸ hc)
  | property =>
    have hr : '(' ∉ rest := fun hm => absurd (hasks.1 _ hm) (by decide)
    have hfront : '(' ∉ run ++ (type ++ (gap ++ (name ++ rest))) := by
      simp only [List.mem_append, not_or] at hparen ⊢
      exact ⟨hparen.1, hparen.2.1, hparen.2.2.1, hparen.2.2.2, hr⟩
    refine ⟨?_, by simp only [hfront, reduceCtorEq]⟩
    have htake : (run ++ (type ++ (gap ++ (name ++ rest)))).takeWhile (· ≠ '(') = run ++ (type ++ (gap ++ (name ++ rest))) := by
      refine List.takeWhile_eq_self_iff.mpr fun c hc => ?_
      simpa using fun hcp : c = '(' => hfront (hcp ▸ hc)
    rw [htake, ← List.append_assoc]
    exact lastWord_eq hgap h.word hasks.1

theorem Head.unique {kind kind' : MemberKind} {name name' front inner inner' : Text} (h : Head kind name front inner)
    (h' : Head kind' name' front inner') : kind = kind' ∧ name = name' := by
  refine ⟨?_, h.eq.1.symm.trans h'.eq.1⟩
  have hiff : kind = .method ↔ kind' = .method := h.eq.2.symm.trans h'.eq.2
  cases kind <;> cases kind' <;> simp_all

/-! ## What the recognisers see -/

theorem TypeText.returnType {type : Text} (h : TypeText type) (hlt : '<' ∉ type) : ReturnType type := by
  cases h with
  | simple h => exact h
  | generic _ _ => exact absurd (by simp) hlt

/-- What stands behind a name, cut at the brace. -/
theorem MemberKind.Ends.asks {kind : MemberKind} {v r : Text} (h : kind.Ends v r) (hlt : '<' ∉ v) :
    ∃ rest inner, v ++ r = rest ++ '{' :: inner ∧ kind.Asks rest inner := by
  cases kind with
  | method =>
    obtain ⟨params, b, ps, b', rfl, hparams, hb, hps, hb'⟩ := h
    cases hparams with
    | none =>
      exact ⟨b ++ '(' :: (ps ++ ')' :: b'), r, by simp, b, ps, b', rfl, hb,
        fun c hc => endsParameters_eq_false_iff.mpr (hps c hc), hb'⟩
    | list _ => exact absurd (by simp) hlt
  | property =>
    obtain ⟨b, b', word, rfl, hb, hb', hword, hboundary⟩ := h
    exact ⟨b, b' ++ (word ++ r), by simp, hb, b', word, r, rfl, hb', hword, (boundary_accessor hword).mp hboundary⟩

theorem MemberKind.Asks.ends {kind : MemberKind} {rest inner : Text} (h : kind.Asks rest inner) :
    ∃ v r, rest ++ '{' :: inner = v ++ r ∧ kind.Ends v r := by
  cases kind with
  | method =>
    obtain ⟨b, ps, b', rfl, hb, hps, hb'⟩ := h
    exact ⟨b ++ '(' :: (ps ++ ')' :: (b' ++ ['{'])), inner, by simp, [], b, ps, b', rfl, .none, hb,
      fun c hc => endsParameters_eq_false_iff.mp (hps c hc), hb'⟩
  | property =>
    obtain ⟨hrest, b, word, y, rfl, hb, hword, hstop⟩ := h
    exact ⟨rest ++ '{' :: (b ++ word), y, by simp, rest, b, word, rfl, hrest, hb, hword, (boundary_accessor hword).mpr hstop⟩

/-- Where a recogniser accepts and no `<` stands ahead, a head stands. -/
theorem head_of_accepts {kind : MemberKind} {c : Cursor} {name : Text} {n : Nat} (hlt : '<' ∉ c.ahead)
    (h : kind.accepts c = some (name, n)) :
    startsHere c = true ∧ ∃ front inner, c.ahead = front ++ '{' :: inner ∧ Head kind name front inner := by
  obtain ⟨hs, run, _, r, hrun, hc, htail, -⟩ := MemberKind.accepts_eq_some_iff.mp h
  obtain ⟨type, gap, v, rfl, htype, hgap, hname, hends⟩ := MemberKind.tail?_eq_some_iff.mp htail
  simp only [hc, List.mem_append, not_or] at hlt
  obtain ⟨rest, inner, hv, hasks⟩ := hends.asks hlt.2.2.2.2.1
  refine ⟨hs, run ++ (type ++ (gap ++ (name ++ rest))), inner, ?_, ?_⟩
  · rw [hc, hv]
    simp
  · exact ⟨⟨run, type, gap, rest, rfl, hrun, htype.returnType hlt.2.1, hgap, hasks⟩, hname⟩

/-- Where a head stands, the recogniser of its kind sees its name. -/
theorem accepts_of_head {kind : MemberKind} {c : Cursor} {name front inner : Text} (hs : startsHere c = true)
    (hc : c.ahead = front ++ '{' :: inner) (h : Head kind name front inner) : ∃ n, kind.accepts c = some (name, n) := by
  obtain ⟨run, type, gap, rest, rfl, hrun, htype, hgap, hasks⟩ := h.parts
  obtain ⟨v, r, hv, hends⟩ := hasks.ends
  have htail : kind.tail? (type ++ (gap ++ (name ++ (v ++ r)))) = some (name, r) :=
    MemberKind.tail?_eq_some_iff.mpr ⟨type, gap, v, rfl, .simple htype, hgap, h.word, hends⟩
  have hahead : c.ahead = run ++ (type ++ (gap ++ (name ++ (v ++ r)))) := by
    rw [hc, ← hv]
    simp
  exact ⟨_, MemberKind.accepts_eq_some_iff.mpr ⟨hs, run, _, r, hrun, hahead, htail, rfl⟩⟩

theorem eq_of_accepts {kind kind' : MemberKind} {c : Cursor} {name name' front inner : Text} {n : Nat}
    (hlt : '<' ∉ c.ahead) (hc : c.ahead = front ++ '{' :: inner) (h : Head kind name front inner)
    (hacc : kind'.accepts c = some (name', n)) : kind' = kind ∧ name' = name := by
  obtain ⟨-, front', inner', hc', h'⟩ := head_of_accepts hlt hacc
  obtain ⟨rfl, rfl⟩ := append_brace_inj h.braceless.no_open h'.braceless.no_open (hc.symm.trans hc')
  exact h'.unique h

/-! ## Other layouts -/

theorem ModifierRun.alike {modifiers : List Text} (hm : ∀ m ∈ modifiers, Word m) {run run' : Text}
    (h : ModifierRun modifiers run) (ha : Alike run run') : ModifierRun modifiers run' := by
  induction h generalizing run' with
  | nil =>
    cases ha.eq_nil
    exact .nil
  | @cons m g run hmem hg hrun ih =>
    obtain ⟨x, s, rfl, hx, hs⟩ := Alike.split_word (x := []) (hm m hmem) ha
    cases hx.eq_nil
    have hstop : StopsAt isBlank run := by
      cases hrun with
      | nil => simp
      | cons h _ _ => exact ((hm _ h).beginsWord _).stopsAt_blank
    obtain ⟨g', run', rfl, hgg, hrr⟩ := hs.split_stop hstop
    rw [List.nil_append]
    exact .cons hmem (hgg.blanks hg) (ih hrr)

theorem MemberKind.Asks.alike {kind : MemberKind} {rest rest' inner inner' z z' : Text}
    (h : kind.Asks rest (inner ++ '}' :: z)) (hrest : Alike rest rest') (hinner : Alike inner inner') :
    kind.Asks rest' (inner' ++ '}' :: z') := by
  cases kind with
  | method =>
    obtain ⟨b, ps, b', rfl, hb, hps, hb'⟩ := h
    obtain ⟨c, s, rfl, hc, hs⟩ := hrest.split (by decide)
    obtain ⟨qs, c', rfl, hq, hc'⟩ := hs.split (by decide)
    refine ⟨c, qs, c', rfl, hc.blank hb, ?_, hc'.blank hb'⟩
    intro x hx
    by_cases hblank : isBlank x = true
    · exact endsParameters_eq_false_of_isBlank hblank
    · exact hps x ((hq.mem_iff (.inl (by simpa using hblank))).mpr hx)
  | property =>
    obtain ⟨hblank, b, word, y, heq, hb, hword, hstop⟩ := h
    have hw : Word word := by rcases hword with rfl | rfl <;> decide
    -- The accessor stands before the brace, which is part of neither the blanks nor the word.
    have hclose : '}' ∉ b ++ word := by
      simp only [List.mem_append, not_or]
      exact ⟨fun hm => absurd (hb _ hm) (by decide), hw.braceless.no_close⟩
    rw [← List.append_assoc] at heq
    obtain ⟨y', rfl, rfl⟩ := Text.front_before hclose heq
    rw [List.append_assoc] at hinner
    obtain ⟨c, v, rfl, hc, hv⟩ := hinner.split_word hw
    have hnext : StopsAt isWord (v ++ '}' :: z') :=
      Text.stopsAt_append (hv.stopsAt (fun c => Text.isWord_eq_false_of_isBlank) hstop.of_append) (by simp; decide)
    exact ⟨hrest.blank hblank, c, word, v ++ '}' :: z', by simp, hc.blank hb, hword, hnext⟩

theorem Head.alike {kind : MemberKind} {name front front' inner inner' z z' : Text}
    (h : Head kind name front (inner ++ '}' :: z)) (hfront : Alike front front') (hinner : Alike inner inner') :
    Head kind name front' (inner' ++ '}' :: z') := by
  obtain ⟨run, type, gap, rest, rfl, hrun, htype, hgap, hasks⟩ := h.parts
  obtain ⟨run', s, rfl, hrr, hs⟩ := hfront.split_text htype.ne_nil htype.not_blank
  obtain ⟨gap', rest', rfl, hgg, hre⟩ := hs.split_word h.word
  exact ⟨⟨run', type, gap', rest', rfl, hrun.alike memberModifiers_word hrr, htype, hgg.blanks hgap, hasks.alike hre hinner⟩,
    h.word⟩

end TypeSplit.Declaration
