/-
  TypeSplit.Proofs.Excerpt — the text of a member, as an excerpt of the source.

  A member is carved between offsets, but its text is put together from lines, and its signature is found by a column on
  the first of them. In a source without carriage returns the two agree: the lines of the member are the source from the
  beginning of its first line to the end of its last, so an offset less that beginning is a place in the text.
  - `carved_spanning`: a carved member begins at an offset of the text, and its block is the first that opens there.
  - `wholeLines_cut`: what stands on the lines of a member, cut at its site, at its brace and behind its block.
  - `Spans.excerpt`: the text, the signature and the body of a member, told of the source.
  - `member_is_excerpt`: the same of every member, whatever sites are proposed.
-/

import TypeSplit.Proofs.Succession

namespace TypeSplit.Text

/-- A piece of a text, cut in two. -/
theorem cut_piece (t : Text) {i j k : Nat} (hij : i ≤ j) (hjk : j ≤ k) :
    (t.take k).drop i = (t.take j).drop i ++ (t.take k).drop j := by
  by_cases hlen : i ≤ (t.take j).length
  · conv => lhs; rw [take_cut t hjk, List.drop_append_of_le_length hlen]
  · -- the text ends before the first of the three offsets
    rw [List.length_take] at hlen
    simp only [List.drop_of_length_le, List.length_take, show min k t.length ≤ i by omega, show min j t.length ≤ i by omega,
      show min k t.length ≤ j by omega, List.append_nil]

end TypeSplit.Text

namespace TypeSplit.Source

variable {t : Text} {p o e : Nat}

theorem lt_lineEnd {x : Char} (he : t[e]? = some x) (hx : x ≠ '\n') : e < lineEnd t e := by
  rw [lt_lineEnd_iff he hx (Nat.le_refl e), List.drop_of_length_le (by rw [List.length_take]; omega)]
  exact List.not_mem_nil

theorem lineBegin_le (t : Text) (p : Nat) : lineBegin t p ≤ p := Text.behindLast_le ..

/-- The lines from that of `p` to that of `e`: what stands before `p`, from there to `o`, from there to `e`, and behind. -/
theorem wholeLines_cut {x : Char} (hpo : p ≤ o) (hoe : o ≤ e) (he : t[e]? = some x) (hx : x ≠ '\n') :
    wholeLines t p e = (t.take p).drop (lineBegin t p) ++
      ((t.take o).drop p ++ ((t.take (e + 1)).drop o ++ (t.take (lineEnd t e)).drop (e + 1))) := by
  have hend := lt_lineEnd he hx
  rw [wholeLines, Text.cut_piece t (lineBegin_le t p) (show p ≤ lineEnd t e by omega),
    Text.cut_piece t hpo (show o ≤ lineEnd t e by omega),
    Text.cut_piece t (show o ≤ e + 1 by omega) (show e + 1 ≤ lineEnd t e by omega)]

theorem unreturned_of_not_mem {x : Text} (h : '\r' ∉ x) : unreturned x = x := by
  have hlines : (Text.splitOn '\n' x).map dropReturn = Text.splitOn '\n' x := by
    refine (List.map_congr_left ?_).trans (List.map_id _)
    intro l hl
    exact dropReturn_of_not_mem fun hmem => h (Text.mem_of_mem_splitOn hl hmem)
  rw [unreturned, hlines, Text.join_splitOn]

end TypeSplit.Source

namespace TypeSplit.Extraction

open TypeSplit.Declaration (MemberSite)
open TypeSplit.Source (Block IsBlock lineBegin lineEnd lineOf lineStart? wholeLines)

/-- A carved member: its site is at the offset `p`, the first brace from there on opens its body, and the brace at `e`
closes it. -/
structure Spans (content : Content) (r : Carved) (p e : Nat) : Prop where
  site : r.site.offset = p
  le_opening : p ≤ r.opening
  first : '{' ∉ (content.text.take r.opening).drop p
  close : r.close = e + 1
  block : Block content.text r.opening e
  member : r.member = memberAt content r.site r.opening r.close

section

variable {scanner : Scanner} {withConstructors : Bool} {content : Content} {body : Body} {vs : List Verdict} {r : Carved}

theorem judge_spans {resume : Nat} {x : MemberSite} (h : judge withConstructors content body resume x = .carved r) :
    ∃ p e, Spans content r p e := by
  obtain ⟨rfl, hresume, -, -, hfind, hmatch, hmember⟩ := judge_eq_carved h
  obtain ⟨p, hp⟩ := Int.eq_ofNat_of_zero_le (show 0 ≤ r.site.offset by omega)
  rw [hp] at hfind
  obtain ⟨hle, -, hbrace, hnone⟩ := Text.find?_eq_some_iff.mp hfind
  obtain ⟨hclose, -⟩ := Source.matchBlock?_limit.mp hmatch
  have hlt := Source.matchBlock?_bounds hclose
  refine ⟨p, r.close - 1, hp, hle, ?_, by omega, ⟨hbrace, ?_⟩, hmember⟩
  · intro hmem
    obtain ⟨k, hpk, hk, hfound⟩ := Text.mem_part_iff.mp hmem
    exact hnone k hpk hk hfound
  · rw [hclose, Option.some.injEq]
    omega

theorem carved_spanning (h : .resolved body vs ∈ (run scanner withConstructors content).outcomes) (hr : r ∈ carved vs) :
    ∃ p e, Spans content r p e := by
  obtain ⟨site, -, hsite⟩ := List.mem_map.mp h
  obtain ⟨-, -, -, -, rfl⟩ := resolve_eq_resolved hsite
  obtain ⟨-, _, hjudge⟩ := mem_carved hr
  exact judge_spans hjudge

end

variable {t : Text} {r : Carved} {p e : Nat}

theorem Spans.fullText_eq (h : Spans (.ofText t) r p e) : r.member.fullText = Source.unreturned (wholeLines t p e) := by
  have hlt := h.block.lt
  have hle := h.le_opening
  have hclosing : t[e]? = some '}' := h.block.closing
  have hsite : r.site = ⟨p, r.site.name, r.site.kind⟩ := by rw [← h.site]
  rw [h.member, hsite, h.close, memberAt_fullText_eq (by omega) hclosing]

/-- The lines of a carved member, cut at its site, at its brace and behind its block. -/
theorem Spans.cut (h : Spans (.ofText t) r p e) :
    wholeLines t p e = (t.take p).drop (lineBegin t p) ++
      ((t.take r.opening).drop p ++ ((t.take r.close).drop r.opening ++ (t.take (lineEnd t e)).drop r.close)) := by
  rw [h.close]
  exact Source.wholeLines_cut h.le_opening (Nat.le_of_lt h.block.lt) h.block.closing (by decide)

theorem Spans.isBlock (h : Spans (.ofText t) r p e) : IsBlock ((t.take r.close).drop r.opening) := by
  rw [h.close]
  exact Source.isBlock_of_matchBlock? h.block.opens h.block.closes

/-- A member as an excerpt of the source: `p` is the offset of its site, and `s` that of the beginning of its line. -/
structure Excerpt (t : Text) (r : Carved) (p s : Nat) : Prop where
  site : r.site.offset = p
  lineStart : lineStart? t (lineOf t p) = some s
  start_le : s ≤ p
  fullText : r.member.fullText = (t.take (lineEnd t (r.close - 1))).drop s
  /-- The member stands in its text at its column. -/
  carved : (t.take r.close).drop p <+: r.member.fullText.drop (p - s)
  signature : r.member.signature = Text.strip ((t.take r.opening).drop s)
  /-- The brace that ends the signature is the brace of the body. -/
  brace : Text.find? r.member.fullText '{' (p - s : Nat) r.member.fullText.length = some (r.opening - s)
  body : r.member.body = (t.take r.close).drop r.opening
  body_place : r.member.body <+: r.member.fullText.drop (r.opening - s)

theorem Spans.excerpt (hreturn : '\r' ∉ t) (h : Spans (.ofText t) r p e) : Excerpt t r p (lineBegin t p) := by
  have hbegin := Source.lineBegin_le t p
  have hle := h.le_opening
  have hlt := h.block.lt
  have hlength : e + 1 ≤ t.length := h.block.le_length
  have hclose := h.close
  have hstart : lineStart? t (lineOf t (p : Int)) = some (lineBegin t p) := by
    rw [Source.lineStart?_lineOf, Int.toNat_natCast, Nat.min_eq_left (by omega)]
  have hlines : r.member.fullText = wholeLines t p e := by
    rw [h.fullText_eq, Source.unreturned_of_not_mem]
    exact fun hmem => hreturn (List.mem_of_mem_take (List.mem_of_mem_drop hmem))
  -- The text of the member in four pieces: before its site, before its brace, its block, and behind it.
  have hcut := hlines.trans h.cut
  have hsignature := Text.cut_piece t hbegin hle
  have hmember := Text.cut_piece t hle (show r.opening ≤ r.close by omega)
  have hcolumn : ((t.take p).drop (lineBegin t p)).length = p - lineBegin t p := by
    rw [List.length_drop, List.length_take]
    omega
  have hfront : ((t.take r.opening).drop p).length = r.opening - p := by
    rw [List.length_drop, List.length_take]
    omega
  have hplace : r.opening - lineBegin t p = (p - lineBegin t p) + (r.opening - p) := by omega
  obtain ⟨inner, hblock, -⟩ := h.isBlock
  have hbody : r.member.body = (t.take r.close).drop r.opening := by rw [h.member]; rfl
  have hfind : Text.find? r.member.fullText '{' (p - lineBegin t p : Nat) r.member.fullText.length =
      some (r.opening - lineBegin t p) := by
    rw [hcut, hblock, List.cons_append, ← hcolumn, hplace, ← hfront, ← hcolumn]
    exact find?_brace h.first
  refine ⟨h.site, hstart, hbegin, ?_, ?_, ?_, hfind, hbody, ?_⟩
  · rw [hlines, hclose, Nat.add_sub_cancel]
    rfl
  · rw [hcut, ← hcolumn, List.drop_left, hmember, ← List.append_assoc]
    exact List.prefix_append ..
  · have hoffset : r.site.offset - ((lineStart? t (lineOf t r.site.offset)).getD 0 : Nat) =
        ((p - lineBegin t p : Nat) : Int) := by
      rw [h.site, hstart, Option.getD_some]
      omega
    rw [h.member, memberAt_signature (by rw [← h.member]) hoffset, hfind, Option.getD_some, hcut, hsignature, hplace,
      ← hcolumn, ← hfront, ← List.length_append, ← List.append_assoc, List.take_left]
  · rw [hbody, hcut, hplace, ← hcolumn, ← hfront, ← List.length_append, ← List.append_assoc, List.drop_left]
    exact List.prefix_append ..

/-- Every member that is carved out of a text without carriage returns is an excerpt of it, whatever sites are proposed. -/
theorem member_is_excerpt {scanner : Scanner} {withConstructors : Bool} {body : Body} {vs : List Verdict}
    (hreturn : '\r' ∉ t) (h : .resolved body vs ∈ (run scanner withConstructors (.ofText t)).outcomes) :
    ∀ r ∈ carved vs, ∃ p s, Excerpt t r p s := by
  intro r hr
  obtain ⟨p, e, hspans⟩ := carved_spanning h hr
  exact ⟨p, lineBegin t p, hspans.excerpt hreturn⟩

/-- A method that begins behind the braces of a property and ends before the brace of its type, on a line without end. -/
def crowdedLines : Text := "class C\n\x7b\n    int A { get; } void B()\n    { x(); } \x7d".toList

def crowdedLinesResolved : { x : Body × List Verdict //
    (run defaultScanner true (.ofText crowdedLines)).outcomes[0]? = some (.resolved x.1 x.2) ∧
      (carved x.2).map (fun r => (r.opening, r.close, r.member.fullText)) =
        [(20, 28, "    int A { get; } void B()".toList),
          (42, 50, "    int A { get; } void B()\n    { x(); } \x7d".toList)] } :=
  let body : Body := ⟨⟨0, ['C'], "class".toList, "class C".toList⟩, 8, 51, []⟩
  ⟨(body, verdictsIn crowdedLines body), by
    rw [defaultScanner_eq]
    decide +kernel⟩

theorem crowded_members_are_excerpts :
    '\r' ∉ crowdedLines ∧ ∃ body vs, .resolved body vs ∈ (run defaultScanner true (.ofText crowdedLines)).outcomes ∧
      (carved vs).map (fun r => (r.opening, r.close, r.member.fullText)) =
        [(20, 28, "    int A { get; } void B()".toList),
          (42, 50, "    int A { get; } void B()\n    { x(); } \x7d".toList)] ∧
      ∀ r ∈ carved vs, ∃ p s, Excerpt crowdedLines r p s := by
  obtain ⟨⟨body, vs⟩, hresolved, hcarved⟩ := crowdedLinesResolved
  have hreturn : '\r' ∉ crowdedLines := by decide
  have hmem := List.mem_of_getElem? hresolved
  exact ⟨hreturn, body, vs, hmem, hcarved, member_is_excerpt hreturn hmem⟩

end TypeSplit.Extraction
