/-
  TypeSplit.Proofs.Exposure — what exposes a member.

  A member is exposed if its signature says `public`. The signature does not begin where the declaration does, but where
  the line does: it is everything from there to the brace of the member (`memberAt_signature_eq`). So a member is exposed
  by its own modifiers, or by a `public` of something else that stands before it on its line.
  - `memberAt_exposed_eq`: exposure, told of the source.
  - `exposed_by_itself_iff`: a member is exposed by nothing but its own declaration exactly if no `public` stands before
    that on its line, or one stands in it as well.
  - `a_neighbour_exposes`: a member without modifiers behind a public one on its line.
-/

import TypeSplit.Proofs.LineExtent

namespace TypeSplit.Source

open TypeSplit.Text (Alike isBlank splitOn)

/-! ## Carriage returns at the ends of lines -/

def foldReturns : Text → Text
  | [] => []
  | c :: rest => if c = '\r' ∧ rest.head? = some '\n' then foldReturns rest else c :: foldReturns rest

theorem foldReturns_append {a b : Text} (h : b.head? ≠ some '\n') :
    foldReturns (a ++ b) = foldReturns a ++ foldReturns b := by
  induction a with
  | nil => rfl
  | cons c a ih =>
    have hnext : (a ++ b).head? = some '\n' ↔ a.head? = some '\n' := by
      cases a with
      | nil => simpa using h
      | cons d a => simp
    simp only [List.cons_append, foldReturns, hnext, ih]
    split <;> rfl

theorem foldReturns_of_not_mem {a : Text} (h : '\n' ∉ a) : foldReturns a = a := by
  induction a with
  | nil => rfl
  | cons c a ih =>
    simp only [List.mem_cons, not_or] at h
    have hnext : a.head? ≠ some '\n' := fun hhead => h.2 (List.mem_of_mem_head? hhead)
    rw [foldReturns, if_neg (fun hc => hnext hc.2), ih h.2]

theorem mem_of_mem_foldReturns {a : Text} {x : Char} (h : x ∈ foldReturns a) : x ∈ a := by
  induction a with
  | nil => exact h
  | cons c a ih =>
    rw [foldReturns] at h
    split at h
    · exact List.mem_cons_of_mem _ (ih h)
    · rcases List.mem_cons.mp h with rfl | h
      · exact List.mem_cons_self
      · exact List.mem_cons_of_mem _ (ih h)

theorem dropReturn_cons {c : Char} {a : Text} (h : c ≠ '\r' ∨ a ≠ []) : dropReturn (c :: a) = c :: dropReturn a := by
  cases a with
  | nil =>
    have hc : c ≠ '\r' := by simpa using h
    simp [dropReturn, hc]
  | cons d a =>
    simp only [dropReturn, List.getLast?_cons_cons]
    split <;> rfl

theorem foldReturns_ne_nil {a : Text} (h : a ≠ []) : foldReturns a ≠ [] := by
  induction a with
  | nil => exact absurd rfl h
  | cons c a ih =>
    rw [foldReturns]
    split
    · rename_i hc
      refine ih fun hnil => ?_
      rw [hnil] at hc
      cases hc.2
    · simp

theorem unreturned_newline (x : Text) : unreturned ('\n' :: x) = '\n' :: unreturned x := by
  obtain ⟨piece, others, hpieces⟩ := Text.splitOn_ne_nil '\n' x
  rw [unreturned, unreturned, Text.splitOn, if_pos rfl, List.map_cons, hpieces, List.map_cons, Text.join, Text.join,
    List.intercalate_cons_cons]
  rfl

/-- A character stays unless it is a carriage return with nothing behind it on its line. -/
theorem unreturned_cons {c : Char} {x piece : Text} {others : List Text} (hc : c ≠ '\n')
    (hpieces : splitOn '\n' x = piece :: others) (h : c ≠ '\r' ∨ piece ≠ []) :
    unreturned (c :: x) = c :: unreturned x := by
  rw [unreturned, unreturned, Text.splitOn, if_neg hc, hpieces]
  simp only [List.map_cons, dropReturn_cons h, Text.join, Text.intercalate_cons, List.cons_append]

theorem dropReturn_append {a b : Text} (hb : b ≠ []) : dropReturn (a ++ b) = a ++ dropReturn b := by
  induction a with
  | nil => rfl
  | cons c a ih => rw [List.cons_append, dropReturn_cons (Or.inr (by simp [hb])), ih, List.cons_append]

/-- Lines lose their carriage returns where newlines end them, and the last line at the end of the text. -/
theorem unreturned_eq (x : Text) : unreturned x = dropReturn (foldReturns x) := by
  induction x with
  | nil => rfl
  | cons c x ih =>
    obtain ⟨piece, others, hpieces⟩ := Text.splitOn_ne_nil '\n' x
    by_cases hn : c = '\n'
    · subst hn
      rw [unreturned_newline, ih, foldReturns, if_neg (by simp), dropReturn_cons (Or.inl (by decide))]
    by_cases hr : c = '\r'
    · subst hr
      cases x with
      | nil => rfl
      | cons d x =>
        by_cases hd : d = '\n'
        · subst hd
          rw [foldReturns, if_pos ⟨rfl, rfl⟩, ← ih]
          simp [unreturned, Text.splitOn, dropReturn]
        · have hpiece : piece ≠ [] := by
            rintro rfl
            obtain ⟨first, rest, hrest⟩ := Text.splitOn_ne_nil '\n' x
            simp [Text.splitOn, hd, hrest] at hpieces
          have hfold : foldReturns ('\r' :: d :: x) = '\r' :: foldReturns (d :: x) := by
            rw [foldReturns, if_neg (by simpa using hd)]
          rw [unreturned_cons hn hpieces (Or.inr hpiece), ih, hfold, dropReturn_cons (Or.inr (foldReturns_ne_nil (by simp)))]
    · rw [unreturned_cons hn hpieces (Or.inl hr), ih, foldReturns, if_neg (fun h => hr h.1), dropReturn_cons (Or.inl hr)]

theorem alike_foldReturns (a : Text) : Alike a (foldReturns a) := by
  induction h : a.length using Nat.strongRecOn generalizing a with
  | ind n ih =>
    cases a with
    | nil => exact .nil
    | cons c a =>
      have hrest := ih a.length (by simp [← h]) a rfl
      rw [foldReturns]
      split
      · -- a carriage return and a newline are blanks as a newline is
        rename_i hc
        obtain ⟨rfl, hhead⟩ := hc
        obtain ⟨a', rfl⟩ : ∃ a', a = '\n' :: a' := by
          cases a with
          | nil => cases hhead
          | cons d a' => exact ⟨a', by rw [Option.some.inj hhead]⟩
        have hfold : foldReturns ('\n' :: a') = '\n' :: foldReturns a' := by simp [foldReturns]
        rw [hfold]
        exact (ih a'.length (by rw [← h, List.length_cons, List.length_cons]; omega) a' rfl).newline
      · exact (Alike.refl [c]).append hrest

end TypeSplit.Source

namespace TypeSplit.Text

open TypeSplit.Declaration (Word)

/-! ## Tokens in parts of a text -/

/-- Where a stop is not a character of words, no token reaches over the last stop before an offset. -/
theorem hasToken_behindLast {k t : Text} (hk : Word k) {stop : Char → Bool} (hstop : ∀ c, stop c = true → isWord c = false)
    {s p b : Nat} (hp : p ≤ t.length) (hs : s ≤ behindLast stop t p) (hb : p ≤ b) :
    hasToken k ((t.take b).drop s) =
      (hasToken k ((t.take (behindLast stop t p)).drop s) || hasToken k ((t.take b).drop (behindLast stop t p))) := by
  obtain ⟨a, f, htake, hlen, -, hlast⟩ := behindLast_cut stop hp
  rw [hlen] at hs ⊢
  have ha : t.take a.length = a := by
    have hle : a.length ≤ p := by rw [← hlen]; exact behindLast_le ..
    have := congrArg (List.take a.length) htake
    rwa [List.take_take, Nat.min_eq_left hle, List.take_left] at this
  have hsplit : t.take b = a ++ (t.take b).drop a.length := by
    have hle : a.length ≤ b := by have := behindLast_le stop t p; omega
    conv => lhs; rw [take_cut t hle, ha]
  rw [ha]
  conv => lhs; rw [hsplit, List.drop_append_of_le_length hs]
  rcases hlast with rfl | ⟨a', c, rfl, hc⟩
  · simp [hasToken_nil hk]
  · by_cases hall : s = (a' ++ [c]).length
    · rw [hall, List.drop_length, List.nil_append, hasToken_nil hk, Bool.false_or]
    · have hle : s ≤ a'.length := by
        rw [List.length_append, List.length_singleton] at hs hall
        omega
      rw [List.drop_append_of_le_length hle, List.append_assoc, List.singleton_append,
        hasToken_append_cons hk (hstop c hc), hasToken_append_cons hk (hstop c hc), hasToken_nil hk, Bool.or_false]

end TypeSplit.Text

namespace TypeSplit.Extraction

open TypeSplit.Declaration (MemberKind Visibility)
open TypeSplit.Source (Block exists_around foldReturns lineBegin lineOf lineStart? unreturned wholeLines)
open TypeSplit.Text (hasToken isWord)

/-! ## Signatures -/

section

variable {t : Text} (name : Text) (kind : MemberKind) {x : Char} {p b e : Nat}

/-- The text of a member, with the brace that opens its body. -/
theorem memberAt_fullText_cut (hp : t[p]? = some x) (hx : x ≠ '\n') (hpb : p < b) (hb : t[b]? = some '{') (hbe : b < e)
    (he : t[e]? = some '}') :
    ∃ a f rest, lineStart? t (lineOf t (p : Int)) = some a ∧ a + List.length f = p ∧
      (t.take b).drop (lineBegin t p) = f ++ (t.take b).drop p ∧
      foldReturns (f ++ (t.take b).drop p) = f ++ foldReturns ((t.take b).drop p) ∧
      (memberAt (.ofText t) ⟨p, name, kind⟩ b (e + 1)).fullText = f ++ (foldReturns ((t.take b).drop p) ++ '{' :: rest) := by
  obtain ⟨hlt, -⟩ := List.getElem?_eq_some_iff.mp he
  obtain ⟨hblt, hbget⟩ := List.getElem?_eq_some_iff.mp hb
  obtain ⟨a, f, g, z, haround, -⟩ := exists_around (t := t) (p := p) (e := e) (by omega) (Nat.le_of_lt hlt)
  generalize hfront : (t.take b).drop p = front
  have hmiddle : (t.take e).drop p = front ++ '{' :: (t.take e).drop (b + 1) := by
    have hble : b < (t.take e).length := by rw [List.length_take]; omega
    have hsplit : t.take e = t.take b ++ '{' :: (t.take e).drop (b + 1) := by
      conv => lhs; rw [← List.take_append_drop b (t.take e), List.drop_eq_getElem_cons hble]
      rw [List.take_take, Nat.min_eq_left (Nat.le_of_lt hbe), List.getElem_take, hbget]
    conv => lhs; rw [hsplit]
    rw [List.drop_append_of_le_length (by rw [List.length_take]; omega), hfront]
  have hhead : front.head? ≠ some '\n' := by
    rw [← hfront, List.head?_drop, List.getElem?_take, if_pos hpb, hp]
    simpa using hx
  have hline : foldReturns (f ++ front) = f ++ foldReturns front := by
    rw [Source.foldReturns_append hhead, Source.foldReturns_of_not_mem haround.line_before]
  have hbegin : (t.take b).drop (lineBegin t p) = f ++ front := by
    have htake : t.take p = a ++ f := by
      conv => lhs; rw [haround.text_eq]
      rw [← haround.start, ← List.length_append, List.append_assoc, ← List.append_assoc, List.take_left]
    have hsplit : t.take b = a ++ (f ++ front) := by
      rw [Text.take_cut t (Nat.le_of_lt hpb), htake, hfront, List.append_assoc]
    rw [hsplit, haround.lineBegin_eq, List.drop_left]
  refine ⟨a.length, f, Source.dropReturn (foldReturns ((t.take e).drop (b + 1) ++ g)), haround.lineStart?_start,
    haround.start, hbegin, hline, ?_⟩
  rw [memberAt_fullText_eq (by omega) he, Source.unreturned_eq, haround.wholeLines_eq, hmiddle]
  have hcut : f ++ (front ++ '{' :: (t.take e).drop (b + 1) ++ g) =
      (f ++ front) ++ '{' :: ((t.take e).drop (b + 1) ++ g) := by simp
  have hbrace : foldReturns ('{' :: ((t.take e).drop (b + 1) ++ g)) = '{' :: foldReturns ((t.take e).drop (b + 1) ++ g) := by
    simp [foldReturns]
  rw [hcut, Source.foldReturns_append (by simp), hline, hbrace, Source.dropReturn_append (by simp),
    Source.dropReturn_cons (Or.inl (by decide)), List.append_assoc]

/-- The signature of a member goes from the beginning of its line to its brace. -/
theorem memberAt_signature_eq (hp : t[p]? = some x) (hx : x ≠ '\n') (hpb : p < b) (hb : t[b]? = some '{')
    (hfirst : '{' ∉ (t.take b).drop p) (hbe : b < e) (he : t[e]? = some '}') :
    (memberAt (.ofText t) ⟨p, name, kind⟩ b (e + 1)).signature =
      Text.strip (foldReturns ((t.take b).drop (lineBegin t p))) := by
  obtain ⟨a, f, rest, hstart, hcolumn, hbegin, hline, hfull⟩ :=
    memberAt_fullText_cut name kind hp hx hpb hb hbe he
  have hcolumn : (p : Int) - ((lineStart? t (lineOf t (p : Int))).getD 0 : Nat) = (f.length : Int) := by
    rw [hstart, Option.getD_some]
    omega
  have hnone : '{' ∉ foldReturns ((t.take b).drop p) := fun hmem => hfirst (Source.mem_of_mem_foldReturns hmem)
  rw [memberAt_signature hfull hcolumn, find?_brace hnone, Option.getD_some, ← List.append_assoc, ← List.length_append,
    List.take_left, hbegin, hline]

/-- A member is exposed if `public` stands before its brace, from the beginning of its line on. -/
theorem memberAt_exposed_eq (hp : t[p]? = some x) (hx : x ≠ '\n') (hpb : p < b) (hb : t[b]? = some '{')
    (hfirst : '{' ∉ (t.take b).drop p) (hbe : b < e) (he : t[e]? = some '}') :
    (memberAt (.ofText t) ⟨p, name, kind⟩ b (e + 1)).exposed =
      hasToken Visibility.pub.keyword ((t.take b).drop (lineBegin t p)) := by
  rw [memberAt_exposed, memberAt_signature_eq name kind hp hx hpb hb hfirst hbe he, Text.hasToken_strip word_public,
    ← Text.hasToken_alike word_public (Source.alike_foldReturns _)]

end

/-! ## Members -/

/-- The keyword `public` stands between two offsets. -/
def SaysPublic (t : Text) (start stop : Nat) : Prop := hasToken Visibility.pub.keyword ((t.take stop).drop start) = true

instance (t : Text) (start stop : Nat) : Decidable (SaysPublic t start stop) :=
  inferInstanceAs (Decidable (_ = true))

def endsDeclaration (c : Char) : Bool := c == '{' || c == '}' || c == ';'

/-- The offset just behind the last brace or semicolon before an offset. -/
def declarationBegin (t : Text) (p : Nat) : Nat := Text.behindLast endsDeclaration t p

theorem not_word_endsDeclaration (c : Char) (hc : endsDeclaration c = true) : isWord c = false := by
  simp only [endsDeclaration, Bool.or_eq_true, beq_iff_eq] at hc
  rcases hc with (rfl | rfl) | rfl <;> decide

theorem not_word_newline (c : Char) (hc : (c == '\n') = true) : isWord c = false := by
  rw [eq_of_beq hc]
  decide

theorem saysPublic_behindLast {stop : Char → Bool} (hstop : ∀ c, stop c = true → isWord c = false) {t : Text} {s p b : Nat}
    (hp : p ≤ t.length) (hs : s ≤ Text.behindLast stop t p) (hb : p ≤ b) :
    SaysPublic t s b ↔ SaysPublic t s (Text.behindLast stop t p) ∨ SaysPublic t (Text.behindLast stop t p) b := by
  unfold SaysPublic
  rw [Text.hasToken_behindLast word_public hstop hp hs hb, Bool.or_eq_true]

/-- A carved member, and what stands before its brace. -/
theorem carved_exposed {t : Text} {body : Body} {withConstructors : Bool} {resume : Nat}
    (hbody : Block t body.opening body.stop) {r : Carved}
    (hr : r ∈ carved (verdicts withConstructors (.ofText t) body resume
      (Declaration.memberSites true t body.opening body.stop))) :
    ∃ p : Nat, r.site.offset = p ∧ p < r.opening ∧ p ≤ t.length ∧
      (r.member.exposed = true ↔ SaysPublic t (lineBegin t p) r.opening) := by
  obtain ⟨p, e, hp, -, hlt, hclose, -, hblock⟩ := carved_block (show Block (Content.ofText t).text _ _ from hbody) hr
  obtain ⟨hmem, _, hjudge⟩ := mem_carved hr
  obtain ⟨-, -, -, -, hfind, -, hmember⟩ := judge_eq_carved hjudge
  have hlength : body.stop + 1 ≤ t.length := hbody.le_length
  obtain ⟨q, n, hq, -, -, haccepts, -⟩ := Declaration.memberSite_accepted (Nat.le_of_lt hbody.lt)
    (Nat.le_of_succ_le hlength) hmem
  obtain rfl : p = q := by omega
  obtain ⟨x, hx, hword⟩ := MemberKind.begins haccepts
  have hnewline : x ≠ '\n' := by
    rintro rfl
    exact absurd hword (by decide)
  have hfirst : '{' ∉ (t.take r.opening).drop p := by
    rw [hp] at hfind
    obtain ⟨-, -, -, hnone⟩ := Text.find?_eq_some_iff.mp hfind
    intro hmem
    obtain ⟨k, hpk, hk, hbrace⟩ := Text.mem_part_iff.mp hmem
    exact hnone k hpk hk hbrace
  have hexposed := memberAt_exposed_eq r.site.name r.site.kind hx hnewline hlt hblock.opens hfirst
    hblock.lt hblock.closing
  refine ⟨p, hp, hlt, Nat.le_of_lt (List.getElem?_eq_some_iff.mp hx).1, ?_⟩
  rw [SaysPublic, ← hexposed, hmember, hclose, ← hp]

/-- A member is exposed by nothing but its own declaration exactly if no `public` stands before that on its line, or one
stands in it as well. -/
theorem exposed_by_itself_iff {t : Text} {withConstructors : Bool} {i : Nat} {body : Body} {vs : List Verdict}
    (h : (run defaultScanner withConstructors (.ofText t)).outcomes[i]? = some (.resolved body vs)) {r : Carved}
    (hr : r ∈ carved vs) :
    ∃ p : Nat, r.site.offset = p ∧ p < r.opening ∧
      (r.member.exposed = true ↔ SaysPublic t (lineBegin t p) r.opening) ∧
      ((r.member.exposed = true → SaysPublic t (declarationBegin t p) r.opening) ↔
        (SaysPublic t (lineBegin t p) (declarationBegin t p) → SaysPublic t (declarationBegin t p) r.opening)) := by
  obtain ⟨hbody, rfl⟩ := resolved_defaultScanner h
  obtain ⟨p, hp, hlt, hlength, hexposed⟩ := carved_exposed (t := t) hbody hr
  refine ⟨p, hp, hlt, hexposed, ?_⟩
  rw [hexposed]
  rcases Nat.le_total (lineBegin t p) (declarationBegin t p) with hle | hle
  · -- The declaration begins on its line: the line up to its brace is what stands before the declaration, and it.
    have hcut : SaysPublic t (lineBegin t p) r.opening ↔
        SaysPublic t (lineBegin t p) (declarationBegin t p) ∨ SaysPublic t (declarationBegin t p) r.opening :=
      saysPublic_behindLast not_word_endsDeclaration hlength hle (Nat.le_of_lt hlt)
    rw [hcut]
    exact ⟨fun h hbefore => h (Or.inl hbefore), fun h hor => hor.elim h id⟩
  · -- The declaration begins before its line: nothing else stands on the line.
    have hcut : SaysPublic t (declarationBegin t p) r.opening ↔
        SaysPublic t (declarationBegin t p) (lineBegin t p) ∨ SaysPublic t (lineBegin t p) r.opening :=
      saysPublic_behindLast not_word_newline hlength hle (Nat.le_of_lt hlt)
    have hnone : ¬ SaysPublic t (lineBegin t p) (declarationBegin t p) := by
      unfold SaysPublic
      rw [List.drop_of_length_le (by rw [List.length_take]; omega), Text.hasToken_nil word_public]
      simp
    exact ⟨fun _ hbefore => absurd hbefore hnone, fun _ hline => hcut.mpr (Or.inr hline)⟩

def publicLine : Text := "class C\n\x7b\n    public void A() { } public void B() { }\n\x7d\n".toList

def publicLineResolved : { x : Body × List Verdict //
    (run defaultScanner true (.ofText publicLine)).outcomes[0]? = some (.resolved x.1 x.2) ∧
      (∃ r ∈ carved x.2, r.site.offset = 34 ∧ r.opening = 50 ∧ r.member.exposed = true) ∧
      SaysPublic publicLine (declarationBegin publicLine 34) 50 } :=
  let body : Body := ⟨⟨0, ['C'], "class".toList, "class C".toList⟩, 8, 54, []⟩
  ⟨(body, verdictsIn publicLine body), by
    rw [defaultScanner_eq]
    decide +kernel⟩

/-- The second member is exposed, and it says so itself. -/
theorem second_public_member_is_exposed_by_itself :
    ∃ body vs r, (run defaultScanner true (.ofText publicLine)).outcomes[0]? = some (.resolved body vs) ∧
      r ∈ carved vs ∧ r.site.offset = 34 ∧ r.opening = 50 ∧ r.member.exposed = true ∧
      SaysPublic publicLine (declarationBegin publicLine 34) 50 := by
  obtain ⟨⟨body, vs⟩, hresolved, ⟨r, hr, hsite, hopening, hexposed⟩, hitself⟩ := publicLineResolved
  obtain ⟨p, hp, -, -, hiff⟩ := exposed_by_itself_iff hresolved hr
  obtain rfl : p = 34 := by omega
  rw [hopening] at hiff
  exact ⟨body, vs, r, hresolved, hr, hsite, hopening, hexposed, hiff.mpr (fun _ => hitself) hexposed⟩

def besidePublic : Text := "class C\n\x7b\n    public void A() { } void B() { }\n\x7d\n".toList

def besidePublicBody : Body := ⟨⟨0, ['C'], "class".toList, "class C".toList⟩, 8, 47, []⟩

/-- The member at 34 is exposed by the `public` at 14, which belongs to the other member. -/
theorem a_neighbour_exposes :
    (run defaultScanner true (.ofText besidePublic)).outcomes[0]? =
        some (.resolved besidePublicBody (verdictsIn besidePublic besidePublicBody)) ∧
      (∃ r ∈ carved (verdictsIn besidePublic besidePublicBody), r.site.offset = 34 ∧ r.opening = 43 ∧
        r.member.exposed = true) ∧
      declarationBegin besidePublic 34 = 33 ∧ ¬ SaysPublic besidePublic (declarationBegin besidePublic 34) 43 := by
  rw [defaultScanner_eq]
  decide +kernel

end TypeSplit.Extraction
