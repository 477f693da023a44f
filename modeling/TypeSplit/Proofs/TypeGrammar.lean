/-
  TypeSplit.Proofs.TypeGrammar — type sites and the grammar of type headers.

  `HeaderText` is the grammar of type headers up to their brace, said without the scan: the word behind the keyword
  need not be the whole name, and nothing says which modifiers or which keyword are tried first.
  - `HeaderText.header` / `Header.headerText`: the grammar has the same texts as the headers in parts.
  - `typeHeader_of_headerText`: every reading of a header in the grammar is the one that the scan keeps.
  - `typeSite_span`: a type site covers what stands from it to the first brace, and its header is that text, stripped.
  - `type_sites_follow_grammar`: the scan accepts exactly the grammar, and so the type sites are in order, each with its
    brace before the next one, and the header of a declaration is that of its site.
-/

import TypeSplit.Proofs.Reopening

namespace TypeSplit.Declaration

open TypeSplit.Source (Cursor)
open TypeSplit.Text (StopsAt isBlank isWord)

/-! ## The grammar -/

variable {keywords : List Text}

/-- A header up to its brace: modifiers, each with blanks behind it, a keyword, blanks, and `after`, which is a word
and any text without an opening brace. -/
structure HeaderText (keywords : List Text) (keyword after u : Text) : Prop where
  keyword_mem : keyword ∈ keywords
  parts : ∃ run gap, u = run ++ (keyword ++ (gap ++ after)) ∧ ModifierRun typeModifiers run ∧ Blanks gap
  begins : ∃ word tail, after = word ++ tail ∧ Word word ∧ '{' ∉ tail

theorem Header.headerText (hd : Header keywords) : HeaderText keywords hd.keyword (hd.name ++ hd.tail) hd.text :=
  ⟨hd.keyword_mem, ⟨hd.run, hd.blanks, rfl, hd.isRun, hd.isBlanks⟩, ⟨hd.name, hd.tail, rfl, hd.isWord_name, hd.tail_open⟩⟩

/-- A text of the grammar is a header in parts, and its name is the longest word behind the keyword. -/
theorem HeaderText.header {keyword after u : Text} (h : HeaderText keywords keyword after u) :
    ∃ hd : Header keywords, hd.text = u ∧ hd.keyword = keyword ∧ hd.name = after.takeWhile isWord := by
  obtain ⟨run, gap, rfl, hrun, hgap⟩ := h.parts
  obtain ⟨word, tail, rfl, hword, hopen⟩ := h.begins
  have hname : Word ((word ++ tail).takeWhile isWord) := by
    refine ⟨?_, fun c hc => List.mem_takeWhile_imp hc⟩
    rw [List.takeWhile_append_of_pos hword.all]
    simp [hword.ne]
  have htail : '{' ∉ (word ++ tail).dropWhile isWord := by
    rw [List.dropWhile_append_of_pos hword.all]
    exact fun hm => hopen ((List.dropWhile_suffix _).subset hm)
  refine ⟨⟨run, keyword, gap, _, _, hrun, h.keyword_mem, hgap, hname, Text.stopsAt_dropWhile _, htail⟩, ?_, rfl, rfl⟩
  simp only [Header.text, List.takeWhile_append_dropWhile]

theorem typeHeader_of_headerText (hk : Distinct keywords) {c : Cursor} {keyword after u rest : Text}
    (hs : startsHere c = true) (hc : c.ahead = u ++ '{' :: rest) (h : HeaderText keywords keyword after u) :
    typeHeader keywords c = some ((keyword, after.takeWhile isWord), u.length + 1) := by
  obtain ⟨hd, rfl, rfl, hname⟩ := h.header
  rw [← hname]
  exact typeHeader_of_header hk hd hs hc

/-- The scan accepts at an offset exactly if the grammar has a header there. -/
theorem typeHeader_at_iff (hk : Distinct keywords) {t : Text} {p : Nat} :
    (typeHeader keywords (.at_ t p)).isSome = true ↔
      Detached t p ∧ ∃ keyword after u rest, t.drop p = u ++ '{' :: rest ∧ HeaderText keywords keyword after u := by
  constructor
  · intro h
    obtain ⟨⟨⟨keyword, name⟩, n⟩, hr⟩ := Option.isSome_iff_exists.mp h
    obtain ⟨hs, hd, rest, -, -, hahead, -⟩ := typeHeader_reads hr
    rw [Cursor.ahead_at] at hahead
    exact ⟨(startsHere_at (by simp [hahead])).mp hs, hd.keyword, _, hd.text, rest, hahead, hd.headerText⟩
  · intro h
    obtain ⟨hp, keyword, after, u, rest, hahead, hu⟩ := h
    rw [typeHeader_of_headerText hk ((startsHere_at (by simp [hahead])).mpr hp) hahead hu]
    rfl

/-! ## Type sites -/

/-- A type site goes on to the first brace behind it, and its header is what stands before that brace. -/
theorem typeSite_span (hk : Distinct keywords) {t : Text} {x : TypeSite} (hx : x ∈ typeSites keywords t) :
    ∃ brace, Text.find? t '{' x.offset t.length = some brace ∧ x.header = Text.strip (Text.slice t x.offset brace) := by
  obtain ⟨s, hs, rfl⟩ := List.mem_map.mp hx
  obtain ⟨-, hfind⟩ := typeSite_opening hk.open_not_mem hs
  refine ⟨s.stop - 1, hfind, ?_⟩
  rw [Text.slice_natCast]

theorem typeSites_strict (hk : Distinct keywords) (t : Text) :
    (typeSites keywords t).Pairwise fun a b => a.offset < b.offset ∧
      ∃ brace : Nat, Text.find? t '{' a.offset t.length = some brace ∧ (brace : Int) < b.offset := by
  refine (typeSites_ordered hk.open_not_mem t).imp ?_
  intro a b hab
  obtain ⟨q, brace, q', ha, hb, hfind, hlt⟩ := hab
  have hle := (Text.find?_eq_some_iff.mp hfind).1
  rw [ha, hb]
  exact ⟨by omega, brace, hfind, by omega⟩

open TypeSplit.Extraction in
/-- The header of a declaration is that of its site, whatever sites are proposed for its members. -/
theorem header_of_site (hk : Distinct keywords) {content : Content} {site : TypeSite}
    (hsite : site ∈ typeSites keywords content.text) {scanner : Scanner} {withConstructors : Bool} {sites : List TypeSite}
    {body : Body} {vs : List Verdict} (h : resolve scanner withConstructors content sites site = .resolved body vs)
    (namespaceName : Text) : (declare content.text namespaceName body vs).header = site.header := by
  obtain ⟨howner, hopening, -⟩ := resolve_eq_resolved h
  obtain ⟨brace, hbrace, hheader⟩ := typeSite_span hk hsite
  have hsame : body.opening = brace := Option.some.inj (hopening.symm.trans hbrace)
  rw [declare, howner, hsame, hheader]

open TypeSplit.Extraction in
/-- The scan for types accepts at an offset exactly if a header of the grammar stands there, and in every reading of it
it goes on to the first brace and keeps the keyword and the longest word behind it. So the type sites stand in order,
the first brace behind each of them before the next one, and the header of a declaration is that of its site. -/
theorem type_sites_follow_grammar (hk : Distinct keywords) (t : Text) :
    (∀ p, (typeHeader keywords (.at_ t p)).isSome = true ↔
      Detached t p ∧ ∃ keyword after u rest, t.drop p = u ++ '{' :: rest ∧ HeaderText keywords keyword after u) ∧
    (∀ p keyword after u rest, Detached t p → t.drop p = u ++ '{' :: rest → HeaderText keywords keyword after u →
      ∃ brace n, Text.find? t '{' p t.length = some brace ∧ p + n = brace + 1 ∧
        typeHeader keywords (.at_ t p) = some ((keyword, after.takeWhile isWord), n)) ∧
    ((typeSites keywords t).Pairwise fun a b => a.offset < b.offset ∧
      ∃ brace : Nat, Text.find? t '{' a.offset t.length = some brace ∧ (brace : Int) < b.offset) ∧
    ∀ site ∈ typeSites keywords t,
      (∃ brace, Text.find? t '{' site.offset t.length = some brace ∧
        site.header = Text.strip (Text.slice t site.offset brace)) ∧
      ∀ (scanner : Scanner) (withConstructors : Bool) (content : Content) (sites : List TypeSite) (body : Body)
        (vs : List Verdict) (namespaceName : Text), content.text = t →
        resolve scanner withConstructors content sites site = .resolved body vs →
          (declare t namespaceName body vs).header = site.header := by
  refine ⟨fun p => typeHeader_at_iff hk, ?_, typeSites_strict hk t, ?_⟩
  · intro p keyword after u rest hp hahead h
    have hread := typeHeader_of_headerText hk ((startsHere_at (by simp [hahead])).mpr hp) hahead h
    obtain ⟨hpos, hfind⟩ := find?_typeHeader hk.open_not_mem hread
    exact ⟨_, _, hfind, by omega, hread⟩
  · intro site hsite
    refine ⟨typeSite_span hk hsite, ?_⟩
    intro scanner withConstructors content sites body vs namespaceName htext h
    subst htext
    exact header_of_site hk hsite h namespaceName

def constrainedRun : Text := "public".toList ++ ([' '] ++ ("abstract".toList ++ ("\n  ".toList ++ [])))

def constrainedTail : Text := "C<T> : B where T : new()\n".toList

theorem constrained_headerText :
    HeaderText Extraction.defaultKeywords "class".toList constrainedTail
      (constrainedRun ++ ("class".toList ++ ([' '] ++ constrainedTail))) where
  keyword_mem := by decide
  parts := ⟨constrainedRun, [' '], rfl, .cons (by decide) (by decide) (.cons (by decide) (by decide) .nil), by decide⟩
  begins := ⟨['C'], constrainedTail.drop 1, by decide, by decide, by decide⟩

open TypeSplit.Extraction TypeSplit.Splitting in
theorem a_constrained_header_is_read :
    (∃ brace n, Text.find? constrainedText '{' 0 constrainedText.length = some brace ∧ 0 + n = brace + 1 ∧
      typeHeader defaultKeywords (.at_ constrainedText 0) = some (("class".toList, ['C']), n)) ∧
    ∃ site ∈ typeSites defaultKeywords constrainedText,
      site.header = "public abstract\n  class C<T> : B where T : new()".toList := by
  obtain ⟨-, hreads, -, hsites⟩ := type_sites_follow_grammar distinct_defaultKeywords constrainedText
  refine ⟨?_, ?_⟩
  · have hahead : constrainedText.drop 0 =
        constrainedRun ++ ("class".toList ++ ([' '] ++ constrainedTail)) ++ '{' :: "\n    void M() { }\n\x7d\n".toList := by
      decide
    exact hreads 0 _ _ _ _ (fun q c hq => absurd hq (by omega)) hahead constrained_headerText
  · obtain ⟨_, rfl, hfound, -⟩ := reopenedFound
    obtain ⟨d, htypes, hd⟩ := List.map_eq_singleton_iff.mp hfound
    simp only [Prod.mk.injEq] at hd
    have hmem : d ∈ (run defaultScanner true (.ofText constrainedText)).types := by
      rw [htypes]
      exact List.mem_singleton_self d
    obtain ⟨outcome, hout, hdecl⟩ := List.mem_filterMap.mp hmem
    obtain ⟨site, hsite, hresolve⟩ := List.mem_map.mp hout
    cases outcome with
    | skipped w => cases hdecl
    | resolved body vs =>
      obtain rfl := Option.some.inj hdecl
      exact ⟨site, hsite, ((hsites site hsite).2 _ _ _ _ _ _ _ rfl hresolve).symm.trans hd.2.2⟩

end TypeSplit.Declaration
