/-
  TypeSplit.Proofs.LineExtent — the lines that members take up.

  A member is found by offsets, but its text is made of whole lines: it goes from behind the last newline before its
  site (`lineBegin`) to the first newline behind its last brace (`lineEnd`), whatever else stands there. So what two
  members share, and what a member shares with the braces of its type, is decided by the newlines between them.
  - `memberAt_fullText_eq`: the text of a member, cut out of the source by offsets.
  - `shared_lines_iff`: neighbours share no line exactly if a newline stands between them, and the text of a member
    takes in a brace of the type exactly if no newline stands between the two.
  - `neighbours_on_one_line_are_copied`: two members on the line of their type.
-/

import TypeSplit.Proofs.Carving
import TypeSplit.Proofs.Lines

namespace TypeSplit.Text

/-! ## The last stop before an offset -/

variable {stop : Char → Bool} {t : Text} {o p : Nat}

/-- The offset just behind the last stop before `p`; zero if there is none. -/
def behindLast (stop : Char → Bool) (t : Text) (p : Nat) : Nat := p - ((t.take p).reverse.takeWhile (!stop ·)).length

/-- What stands before an offset, cut behind the last stop. -/
theorem behindLast_cut (stop : Char → Bool) (hp : p ≤ t.length) :
    ∃ a f, t.take p = a ++ f ∧ behindLast stop t p = a.length ∧ (∀ c ∈ f, stop c = false) ∧
      (a = [] ∨ ∃ a' c, a = a' ++ [c] ∧ stop c = true) := by
  let r := (t.take p).reverse
  have hr : (r.dropWhile (!stop ·)).reverse ++ (r.takeWhile (!stop ·)).reverse = t.take p := by
    rw [← List.reverse_append, List.takeWhile_append_dropWhile, List.reverse_reverse]
  refine ⟨_, _, hr.symm, ?_, ?_, ?_⟩
  · have hlen := congrArg List.length hr
    rw [List.length_append, List.length_take, Nat.min_eq_left hp, List.length_reverse, List.length_reverse] at hlen
    show p - (r.takeWhile (!stop ·)).length = _
    rw [List.length_reverse]
    omega
  · intro c hc
    simpa using List.mem_takeWhile_imp (List.mem_reverse.mp hc)
  · cases h : r.dropWhile (!stop ·) with
    | nil => exact Or.inl rfl
    | cons x rest =>
      have hx := stopsAt_dropWhile (p := (!stop ·)) r
      rw [h, stopsAt_cons] at hx
      exact Or.inr ⟨rest.reverse, x, by simp, by simpa using hx⟩

theorem behindLast_le (stop : Char → Bool) (t : Text) (p : Nat) : behindLast stop t p ≤ p := Nat.sub_le _ _

theorem behindLast_le_iff (hp : p ≤ t.length) :
    behindLast stop t p ≤ o ↔ ∀ c ∈ (t.take p).drop o, stop c = false := by
  obtain ⟨a, f, htake, hlen, hfree, hstop⟩ := behindLast_cut stop hp
  rw [hlen, htake]
  constructor
  · intro hle c hc
    rw [List.drop_append, List.drop_of_length_le hle, List.nil_append] at hc
    exact hfree c (List.mem_of_mem_drop hc)
  · intro hnone
    by_contra hlt
    rcases hstop with rfl | ⟨a', c, rfl, hc⟩
    · simp at hlt
    · simp only [List.length_append, List.length_singleton, not_le] at hlt
      have hmem : c ∈ (a' ++ [c] ++ f).drop o := by
        rw [List.append_assoc, List.drop_append_of_le_length (by omega)]
        simp
      rw [hnone c hmem] at hc
      cases hc

end TypeSplit.Text

namespace TypeSplit.Source

open TypeSplit.Text (behindLast splitOn)

/-! ## The ends of a line -/

variable {t : Text} {o p q e : Nat}

def lineBegin (t : Text) (p : Nat) : Nat := behindLast (· == '\n') t p

/-- The offset of the newline that ends the line of an offset, or the end of the text. -/
def lineEnd (t : Text) (p : Nat) : Nat := p + ((t.drop p).takeWhile (· ≠ '\n')).length

theorem lineBegin_le_iff (hp : p ≤ t.length) : lineBegin t p ≤ o ↔ '\n' ∉ (t.take p).drop o := by
  rw [lineBegin, Text.behindLast_le_iff hp]
  constructor
  · intro hnone hmem
    cases hnone _ hmem
  · intro hnot c hc
    cases h : (c == '\n') with
    | false => rfl
    | true => exact absurd (eq_of_beq h ▸ hc) hnot

/-- An offset that holds no newline is on the line of an earlier one if no newline stands between them. -/
theorem lt_lineEnd_iff {x : Char} (ho : t[o]? = some x) (hx : x ≠ '\n') (he : e ≤ o) :
    o < lineEnd t e ↔ '\n' ∉ (t.take o).drop e := by
  obtain ⟨hlt, hget⟩ := List.getElem?_eq_some_iff.mp ho
  obtain ⟨rest, hsplit⟩ : ∃ rest, t.drop e = (t.take o).drop e ++ x :: rest := by
    refine ⟨t.drop (o + 1), ?_⟩
    conv => lhs; rw [← List.take_append_drop o t]
    rw [List.drop_append_of_le_length (by rw [List.length_take]; omega), List.drop_eq_getElem_cons hlt, hget]
  have hlen : ((t.take o).drop e).length = o - e := by rw [List.length_drop, List.length_take]; omega
  rw [lineEnd, hsplit]
  constructor
  · intro hlong hmem
    obtain ⟨w, w', hw⟩ := List.append_of_mem hmem
    rw [hw, List.append_assoc, List.cons_append] at hlong
    have hshort : ((w ++ '\n' :: (w' ++ x :: rest)).takeWhile (· ≠ '\n')).length ≤ w.length := by
      rw [List.takeWhile_append]
      split
      · simp
      · exact (List.takeWhile_prefix _).length_le
    rw [hw, List.length_append, List.length_cons] at hlen
    omega
  · intro hnot
    have hall : ∀ c ∈ (t.take o).drop e, decide (c ≠ '\n') = true := by
      intro c hc
      simpa using fun h : c = '\n' => hnot (h ▸ hc)
    rw [List.takeWhile_append_of_pos hall, List.takeWhile_cons_of_pos (by simpa using hx), List.length_append,
      List.length_cons]
    omega

/-- The lines of two offsets are different ones exactly if a newline stands between them. -/
theorem lineEnd_lt_lineBegin_iff (hq : q ≤ t.length) (he : e ≤ q) :
    lineEnd t e < lineBegin t q ↔ '\n' ∈ (t.take q).drop e := by
  constructor
  · intro hlt
    by_contra hnot
    have := (lineBegin_le_iff hq).mpr hnot
    unfold lineEnd at hlt
    omega
  · intro hmem
    -- the first newline behind `e` ends its line; the line of `q` begins behind that newline
    obtain ⟨w, w', hw, hfirst⟩ : ∃ w w', (t.take q).drop e = w ++ '\n' :: w' ∧ '\n' ∉ w := by
      have h := List.takeWhile_append_dropWhile (p := (· ≠ '\n')) (l := (t.take q).drop e)
      rcases beginsWithNewline_dropWhile ((t.take q).drop e) with hnil | ⟨w', hw'⟩
      · rw [hnil, List.append_nil] at h
        exact absurd (h ▸ hmem) (newline_not_mem_takeWhile _)
      · exact ⟨_, w', by rw [← hw', h], newline_not_mem_takeWhile _⟩
    have hlen := congrArg List.length hw
    rw [List.length_drop, List.length_take, Nat.min_eq_left hq, List.length_append, List.length_cons] at hlen
    have hdrop : t.drop e = w ++ '\n' :: (w' ++ t.drop q) := by
      conv => lhs; rw [← List.take_append_drop q t]
      rw [List.drop_append_of_le_length (by rw [List.length_take]; omega), hw]
      simp
    have hend : lineEnd t e = e + w.length := by
      have hall : ∀ c ∈ w, decide (c ≠ '\n') = true := by
        intro c hc
        simpa using fun h : c = '\n' => hfirst (h ▸ hc)
      rw [lineEnd, hdrop, List.takeWhile_append_of_pos hall]
      simp
    have hnewline : '\n' ∈ (t.take q).drop (e + w.length) := by
      rw [← List.drop_drop, hw, List.drop_left]
      exact List.mem_cons_self
    by_contra hge
    rw [hend] at hge
    exact (lineBegin_le_iff hq).mp (by omega) hnewline

theorem lineOf_add (h : p ≤ q) : lineOf t (q : Int) = lineOf t (p : Int) + ((t.take q).drop p).count '\n' := by
  have hcount := congrArg (List.count '\n') (Text.take_cut t h)
  rw [List.count_append] at hcount
  rw [lineOf, lineOf, Int.toNat_natCast, Int.toNat_natCast, hcount]
  omega

/-! ## Whole lines -/

def unreturned (t : Text) : Text := Text.join ['\n'] ((splitOn '\n' t).map dropReturn)

/-- The source from the beginning of the line of `p` to the end of the line of `e`. -/
def wholeLines (t : Text) (p e : Nat) : Text := (t.take (lineEnd t e)).drop (lineBegin t p)

/-- A text around the part from `p` to `e`: `f` and `g` are what else stands on the lines of that part. -/
structure Around (t a f g b : Text) (p e : Nat) : Prop where
  text_eq : t = a ++ ((f ++ ((t.take e).drop p ++ g)) ++ b)
  start : a.length + f.length = p
  lineBegin_eq : lineBegin t p = a.length
  before : EndsWithNewline a
  line_before : '\n' ∉ f
  line_behind : '\n' ∉ g
  behind : BeginsWithNewline b
  wholeLines_eq : wholeLines t p e = f ++ ((t.take e).drop p ++ g)

theorem exists_around (h : p ≤ e) (he : e ≤ t.length) : ∃ a f g b, Around t a f g b p e ∧ t.drop e = g ++ b := by
  obtain ⟨a, f, htake, hlen, hfree, hstop⟩ := Text.behindLast_cut (· == '\n') (Nat.le_trans h he)
  have hdrop : t.drop e = (t.drop e).takeWhile (· ≠ '\n') ++ (t.drop e).dropWhile (· ≠ '\n') :=
    List.takeWhile_append_dropWhile.symm
  generalize hg : (t.drop e).takeWhile (· ≠ '\n') = g at hdrop
  generalize hb : (t.drop e).dropWhile (· ≠ '\n') = b at hdrop
  have hstart : a.length + f.length = p := by
    have := congrArg List.length htake
    rw [List.length_take, List.length_append] at this
    omega
  have htext : t = a ++ ((f ++ ((t.take e).drop p ++ g)) ++ b) := by
    have hfront : t.take e = t.take p ++ (t.take e).drop p := Text.take_cut t h
    conv => lhs; rw [← List.take_append_drop e t, hdrop, hfront, htake]
    simp
  refine ⟨a, f, g, b, ⟨htext, hstart, hlen, ?_, ?_, ?_, hb ▸ beginsWithNewline_dropWhile _, ?_⟩, hdrop⟩
  · rcases hstop with rfl | ⟨a', c, rfl, hc⟩
    · exact Or.inl rfl
    · exact Or.inr ⟨a', by rw [eq_of_beq hc]⟩
  · intro hmem
    cases hfree _ hmem
  · exact hg ▸ newline_not_mem_takeWhile _
  · have hend : lineEnd t e = (a ++ (f ++ ((t.take e).drop p ++ g))).length := by
      have hmid : ((t.take e).drop p).length = e - p := by rw [List.length_drop, List.length_take]; omega
      rw [lineEnd, hg]
      simp only [List.length_append]
      omega
    have hfront : t.take (lineEnd t e) = a ++ (f ++ ((t.take e).drop p ++ g)) := by
      rw [hend]
      rw [← List.append_assoc] at htext
      exact (congrArg (List.take _) htext).trans List.take_left
    rw [wholeLines, hfront, lineBegin, hlen, List.drop_left]

namespace Around

variable {a f g b : Text}

theorem lineOf_start (h : Around t a f g b p e) : lineOf t (p : Int) = a.count '\n' + 1 := by
  have htake : t.take p = a ++ f := by
    conv => lhs; rw [h.text_eq]
    rw [← h.start, ← List.length_append, List.append_assoc, ← List.append_assoc, List.take_left]
  rw [lineOf, Int.toNat_natCast, htake, List.count_append, List.count_eq_zero.mpr h.line_before, Nat.add_zero]

theorem lineOf_end (h : Around t a f g b p e) (hpe : p ≤ e) :
    lineOf t (e : Int) = a.count '\n' + (wholeLines t p e).count '\n' + 1 := by
  rw [lineOf_add hpe, h.lineOf_start, h.wholeLines_eq, List.count_append, List.count_append,
    List.count_eq_zero.mpr h.line_before, List.count_eq_zero.mpr h.line_behind]
  omega

theorem lineStart?_start (h : Around t a f g b p e) : lineStart? t (lineOf t (p : Int)) = some a.length := by
  have hstart := lineStart?_behind h.before ((f ++ ((t.take e).drop p ++ g)) ++ b) h.lineOf_start
  rwa [← h.text_eq] at hstart

end Around

/-- The lines from that of `p` to that of `e` are what stands on them in the source. -/
theorem join_lines_eq {x : Char} (h : p ≤ e) (he : t[e]? = some x) (hx : x ≠ '\n') :
    Text.join ['\n'] (((lines t).take (lineOf t (e : Int))).drop (lineOf t (p : Int) - 1)) =
      unreturned (wholeLines t p e) := by
  obtain ⟨hlt, -⟩ := List.getElem?_eq_some_iff.mp he
  obtain ⟨a, f, g, b, haround, hdrop⟩ := exists_around h (Nat.le_of_lt hlt)
  have hg : g ≠ [] := by
    rintro rfl
    have hhead : t.drop e = b := hdrop
    rcases haround.behind with hb | ⟨b', hb⟩
    · rw [hb, List.drop_eq_nil_iff] at hhead
      omega
    · rw [hb, List.drop_eq_getElem_cons hlt] at hhead
      rw [List.getElem?_eq_getElem hlt, (List.cons.inj hhead).1, Option.some.injEq] at he
      exact hx he.symm
  have hlast : (splitOn '\n' (wholeLines t p e)).getLast? ≠ some [] := by
    obtain ⟨w, hw⟩ := Text.getLast?_splitOn_append haround.line_behind (f ++ (t.take e).drop p)
    rw [haround.wholeLines_eq, ← List.append_assoc, hw]
    simp [hg]
  have hlines := lines_between haround.before haround.behind (haround.wholeLines_eq ▸ hlast)
  rw [← haround.text_eq, ← haround.wholeLines_eq] at hlines
  rw [haround.lineOf_end h, haround.lineOf_start, Nat.add_sub_cancel, hlines, unreturned]

end TypeSplit.Source

namespace TypeSplit.Extraction

open TypeSplit.Declaration (MemberKind)
open TypeSplit.Source (Block lineBegin lineEnd lineOf unreturned wholeLines)

/-! ## The lines of members -/

/-- The text of a member is what stands on its lines. -/
theorem memberAt_fullText_eq {t name : Text} {kind : MemberKind} {p o e : Nat} (hpe : p ≤ e) (he : t[e]? = some '}') :
    (memberAt (.ofText t) ⟨p, name, kind⟩ o (e + 1)).fullText = unreturned (wholeLines t p e) := by
  rw [← Source.join_lines_eq hpe he (by decide)]
  have hend : ((e + 1 : Nat) : Int) - 1 = (e : Int) := by omega
  simp only [memberAt, Content.ofText, hend]

/-- A carved member from its site at `p` to its last brace at `e`: its text is what stands on its lines, and takes in a
brace of the type exactly if that brace stands on one of them. -/
structure OnLines (t : Text) (body : Body) (r : Carved) (p e : Nat) : Prop where
  site : r.site.offset = p
  close : r.close = e + 1
  startLine : r.member.startLine = lineOf t p
  endLine : r.member.endLine = lineOf t e
  fullText : r.member.fullText = unreturned (wholeLines t p e)
  opening : body.opening < p ∧ (lineBegin t p ≤ body.opening ↔ '\n' ∉ (t.take p).drop body.opening)
  closing : e < body.stop ∧ (body.stop < lineEnd t e ↔ '\n' ∉ (t.take body.stop).drop e)

section

variable {t : Text} {body : Body} {withConstructors : Bool} {resume : Nat}

theorem carved_onLines (hbody : Block t body.opening body.stop) {r : Carved}
    (hr : r ∈ carved (verdicts withConstructors (.ofText t) body resume
      (Declaration.memberSites true t body.opening body.stop))) : ∃ p e, OnLines t body r p e := by
  obtain ⟨p, e, hp, hopen, hlt, hclose, hstop, hblock⟩ := carved_block (show Block (Content.ofText t).text _ _ from hbody) hr
  obtain ⟨-, _, hjudge⟩ := mem_carved hr
  obtain ⟨-, -, -, -, -, -, hmember⟩ := judge_eq_carved hjudge
  have hpe : p ≤ e := by have := hblock.lt; omega
  have hlength : e + 1 ≤ t.length := hblock.le_length
  obtain ⟨⟨offset, name, kind⟩, opening, close, member⟩ := r
  simp only at hp hclose hmember
  subst hp hclose
  have hend : ((e + 1 : Nat) : Int) - 1 = (e : Int) := by omega
  refine ⟨p, e, rfl, rfl, by rw [hmember]; rfl, ?_, ?_, ⟨hopen, Source.lineBegin_le_iff (by omega)⟩, hstop, ?_⟩
  · rw [hmember]
    simp only [memberAt, hend, Content.ofText]
  · rw [hmember]
    exact memberAt_fullText_eq hpe hblock.closing
  · exact Source.lt_lineEnd_iff hbody.closing (by decide) (Nat.le_of_lt hstop)

/-- Of two members in order, the first ends on the line where the second starts or on one before it, and on one before it
exactly if a newline stands between them. -/
theorem OnLines.apart {a b : Carved} {p e q e' : Nat} (ha : OnLines t body a p e) (hb : OnLines t body b q e')
    (hx : t[e]? = some '}') (hq : q ≤ t.length) (h : (a.close : Int) ≤ b.site.offset) :
    a.member.endLine ≤ b.member.startLine ∧
      (a.member.endLine < b.member.startLine ↔ '\n' ∈ (t.take q).drop a.close) ∧
      (lineEnd t e < lineBegin t q ↔ '\n' ∈ (t.take q).drop a.close) := by
  have heq : e < q := by
    have hsite := hb.site
    have hclose := ha.close
    omega
  have hdrop : (t.take q).drop e = '}' :: (t.take q).drop (e + 1) := by
    have hlt : e < (t.take q).length := by rw [List.length_take]; omega
    rw [List.drop_eq_getElem_cons hlt]
    congr 1
    obtain ⟨_, hget⟩ := List.getElem?_eq_some_iff.mp hx
    rw [List.getElem_take, hget]
  have hmem : '\n' ∈ (t.take q).drop e ↔ '\n' ∈ (t.take q).drop a.close := by
    rw [hdrop, ha.close]
    simp
  have hlines := Source.lineOf_add (t := t) (Nat.le_of_lt heq)
  refine ⟨?_, ?_, ?_⟩
  · rw [ha.endLine, hb.startLine]
    omega
  · rw [ha.endLine, hb.startLine, ← hmem, ← List.count_pos_iff]
    omega
  · rw [← hmem]
    exact Source.lineEnd_lt_lineBegin_iff hq (Nat.le_of_lt heq)

end

/-- Two members of a type share no line exactly if a newline stands between them. The text of a member is what stands on
its lines, and a brace of the type is in it exactly if no newline stands between that brace and the member. -/
theorem shared_lines_iff {t : Text} {withConstructors : Bool} {i : Nat} {body : Body} {vs : List Verdict}
    (h : (run defaultScanner withConstructors (.ofText t)).outcomes[i]? = some (.resolved body vs)) :
    (∀ r ∈ carved vs, ∃ p e, OnLines t body r p e) ∧
      (carved vs).Pairwise fun a b => a.member.endLine ≤ b.member.startLine ∧
        (a.member.endLine < b.member.startLine ↔ '\n' ∈ (t.take b.site.offset.toNat).drop a.close) ∧
        (lineEnd t (a.close - 1) < lineBegin t b.site.offset.toNat ↔
          '\n' ∈ (t.take b.site.offset.toNat).drop a.close) := by
  obtain ⟨hbody, rfl⟩ := resolved_defaultScanner h
  have hsites : ∀ x ∈ Declaration.memberSites true t body.opening body.stop, ∃ p : Nat, x.offset = p := by
    intro x hx
    obtain ⟨p, _, _, hp, -⟩ := Declaration.memberSite_block hbody hx
    exact ⟨p, hp⟩
  refine ⟨fun r hr => carved_onLines hbody hr, (carved_ordered hsites).imp_of_mem ?_⟩
  intro a b ha hb hab
  obtain ⟨p, e, hlines⟩ := carved_onLines hbody ha
  obtain ⟨q, e', hlines'⟩ := carved_onLines hbody hb
  obtain ⟨_, f, -, -, -, hclose, -, hblock⟩ := carved_block (show Block (Content.ofText t).text _ _ from hbody) ha
  obtain ⟨_, _, hq, -, hlt, -, -, hblock'⟩ := carved_block (show Block (Content.ofText t).text _ _ from hbody) hb
  obtain rfl : e = f := by
    have := hlines.close
    omega
  have hlength : q ≤ t.length := by
    have hsite := hlines'.site
    have := hblock'.lt
    have : _ ≤ t.length := hblock'.le_length
    omega
  have hback : a.close - 1 = e := by rw [hlines.close, Nat.add_sub_cancel]
  rw [hback, hlines'.site, Int.toNat_natCast]
  exact hlines.apart hlines' hblock.closing hlength hab

def ownLines : Text := "class C\n\x7b\n    void A() { }\n    void B() { }\n\x7d\n".toList

def ownLinesResolved : { x : Body × List Verdict //
    (run defaultScanner true (.ofText ownLines)).outcomes[0]? = some (.resolved x.1 x.2) ∧
      (carved x.2).map (fun r => (r.member.startLine, r.member.endLine)) = [(3, 3), (4, 4)] } :=
  let body : Body := ⟨⟨0, ['C'], "class".toList, "class C".toList⟩, 8, 44, []⟩
  ⟨(body, verdictsIn ownLines body), by
    rw [defaultScanner_eq]
    decide +kernel⟩

theorem own_lines_are_not_shared :
    ∃ body vs, (run defaultScanner true (.ofText ownLines)).outcomes[0]? = some (.resolved body vs) ∧
      (carved vs).map (fun r => (r.member.startLine, r.member.endLine)) = [(3, 3), (4, 4)] ∧
      (∀ r ∈ carved vs, ∃ p e, OnLines ownLines body r p e) ∧
      (carved vs).Pairwise fun a b => a.member.endLine ≤ b.member.startLine ∧
        (a.member.endLine < b.member.startLine ↔ '\n' ∈ (ownLines.take b.site.offset.toNat).drop a.close) ∧
        (lineEnd ownLines (a.close - 1) < lineBegin ownLines b.site.offset.toNat ↔
          '\n' ∈ (ownLines.take b.site.offset.toNat).drop a.close) := by
  obtain ⟨⟨body, vs⟩, hresolved, hlines⟩ := ownLinesResolved
  exact ⟨body, vs, hresolved, hlines, shared_lines_iff hresolved⟩

def sharedLine : Text := "class C\n\x7b\n    void A() { } void B() { } \x7d\n".toList

/-- The second member starts on the line where the first ends, and either text is the whole line: it holds the other
member, and one closing brace more than it opens. -/
theorem neighbours_on_one_line_are_copied :
    (run defaultScanner true (.ofText sharedLine)).types.map (·.members.map fun m => (m.name, m.startLine, m.endLine)) =
        [[(['A'], 3, 3), (['B'], 3, 3)]] ∧
      (run defaultScanner true (.ofText sharedLine)).types.map (·.members.map (·.fullText)) =
        [["    void A() { } void B() { } \x7d".toList, "    void A() { } void B() { } \x7d".toList]] ∧
      ¬ (∀ d ∈ (run defaultScanner true (.ofText sharedLine)).types, d.members.Pairwise fun a b => a.endLine < b.startLine) ∧
      ¬ ∀ d ∈ (run defaultScanner true (.ofText sharedLine)).types, ∀ m ∈ d.members,
        m.fullText.count '{' = m.fullText.count '}' := by
  rw [defaultScanner_eq]
  decide +kernel

end TypeSplit.Extraction
