/-
  TypeSplit.Proofs.RoundTrip — splitting is undone by extracting again.

  A text is separable if it declares one type and every carved member of the type has lines of its own. The members
  then stand in the text as parts of it (`Separable.standing`), and no type is declared between them. So the rendered
  part of a group is a text as `PartText` describes it (`Separable.exists_part`): a type header inside one of its
  members would stand in the source too (`Separable.typeless`). `split_is_undone` puts this together: every group of
  every grouping is found again in its part, under the same type and in the same order.
-/

import TypeSplit.Proofs.Grouping
import TypeSplit.Proofs.PartText
import TypeSplit.Proofs.Preface

namespace TypeSplit.Extraction

open TypeSplit.Declaration (Header MemberText QuietLine braced namespaceOf typeHeader)
open TypeSplit.Source (Block Cursor EndsLine Passed Site Stands StartsLine)
open TypeSplit.Splitting (MemberLines PartText Placed Style groups partLines partialHeader preamble render)
open TypeSplit.Text (Alike StopsAt hasToken isBlank)

abbrev extract (withConstructors : Bool) (t : Text) : Extraction := run defaultScanner withConstructors (.ofText t)

/-- A text with one type that can be split and found again in its parts. -/
structure Separable (withConstructors : Bool) (t : Text) (body : Body) (vs : List Verdict) : Prop where
  no_return : '\r' ∉ t
  /-- There is one type site, and it is resolved. -/
  one_type : (extract withConstructors t).outcomes = [.resolved body vs]
  /-- No type arguments and no comparison stand between the braces of the type. -/
  no_argument : '<' ∉ (t.take body.stop).drop (body.opening + 1)
  /-- No using directive has a type keyword among its tokens. -/
  usings : ∀ u ∈ (extract withConstructors t).usings, ∀ k ∈ defaultKeywords, hasToken k u = false
  own_lines : ∀ r ∈ carved vs, StartsLine t r.site.offset.toNat ∧ EndsLine t r.close

def Carved.text (t : Text) (r : Carved) : Text := (t.take r.close).drop r.site.offset.toNat

structure Standing (t : Text) (opening : Nat) (r : Carved) (a front inner z : Text) : Prop where
  stands : Stands t a (braced front inner) z
  start : r.site.offset = a.length
  close : r.close = a.length + (braced front inner).length
  behind : opening < a.length
  member : MemberText r.site.kind r.site.name front inner
  no_argument : '<' ∉ braced front inner
  name : r.member.name = r.site.name
  exposed : r.member.exposed = hasToken Declaration.Visibility.pub.keyword front
  lines : MemberLines (braced front inner) r.member.fullText

theorem Standing.text_eq {t a front inner z : Text} {o : Nat} {r : Carved} (h : Standing t o r a front inner z) :
    r.text t = braced front inner := by
  have htake : t.take r.close = a ++ braced front inner := by
    rw [h.stands.text_eq, ← List.append_assoc, h.close, ← List.length_append, List.take_left]
  rw [Carved.text, htake, h.start, Int.toNat_natCast, List.drop_left]

/-- The brace of a member that comes later stands behind an earlier one. -/
theorem Standing.brace_behind {t a a' front front' inner inner' z z' : Text} {o : Nat} {r r' : Carved}
    (h : Standing t o r a front inner z) (h' : Standing t o r' a' front' inner' z')
    (hle : (r.close : Int) ≤ r'.site.offset) : '{' ∈ z := by
  have hz : t.drop r.close = z := by
    rw [h.stands.text_eq, ← List.append_assoc, h.close, ← List.length_append, List.drop_left]
  have hlater : t.drop a'.length = braced front' inner' ++ z' := by
    rw [h'.stands.text_eq, List.drop_left]
  have hle : r.close ≤ a'.length := by
    have := h'.start
    omega
  rw [← Nat.add_sub_of_le hle, ← List.drop_drop, hz] at hlater
  have hmem : '{' ∈ z.drop (a'.length - r.close) := by
    rw [hlater]
    simp [braced]
  exact List.mem_of_mem_drop hmem

namespace Separable

variable {withConstructors : Bool} {t : Text} {body : Body} {vs : List Verdict}

/-- The type site and what it was resolved to. -/
theorem resolved (h : Separable withConstructors t body vs) :
    ∃ s : Site (Text × Text), Source.sites (typeHeader defaultKeywords) t 0 t.length = [s] ∧ body.owner.offset = s.start ∧
      body.owner.name = s.value.2 ∧ body.owner.keyword = s.value.1 ∧ body.opening + 1 = s.stop ∧
      Block t body.opening body.stop ∧ vs = verdicts withConstructors (.ofText t) body body.opening
        (Declaration.memberSites true t body.opening body.stop) := by
  have hone := h.one_type
  have hscan : defaultScanner.typeSites t = Declaration.typeSites defaultKeywords t := rfl
  simp only [run, Content.ofText, hscan, Declaration.typeSites, List.map_map] at hone
  obtain ⟨s, hs, hresolve⟩ := List.map_eq_singleton_iff.mp hone
  obtain ⟨howner, hfind, hblock, -, hvs⟩ := resolve_eq_resolved hresolve
  have hopen : ∀ k ∈ defaultKeywords, '{' ∉ k := by decide
  obtain ⟨hlt, hbrace⟩ := Declaration.typeSite_opening hopen (by rw [hs]; exact List.mem_singleton_self s)
  have hopening : s.stop - 1 = body.opening := Option.some.inj (hbrace.symm.trans hfind)
  exact ⟨s, hs, by rw [howner], by rw [howner], by rw [howner], by omega, hblock, hvs⟩

/-- No type is declared behind the brace of the type. -/
theorem passed (h : Separable withConstructors t body vs) {q : Nat} (h1 : body.opening < q) (h2 : q ≤ t.length) :
    Passed (typeHeader defaultKeywords) t q := by
  obtain ⟨s, hs, -, -, -, hstop, -⟩ := h.resolved
  by_contra hq
  obtain ⟨x, hx, -, hlt⟩ := (Declaration.typeSites_scan defaultKeywords t).covers (Nat.zero_le q) h2 hq
  rw [hs, List.mem_singleton] at hx
  subst hx
  omega

theorem header (h : Separable withConstructors t body vs) :
    ∃ hd : Header defaultKeywords, Text.slice t body.owner.offset body.opening = hd.text ∧
      body.owner.keyword = hd.keyword ∧ body.owner.name = hd.name := by
  obtain ⟨s, hs, hoffset, hname, hkeyword, hstop, -⟩ := h.resolved
  obtain ⟨hd, hslice, hvalue⟩ := Declaration.typeSite_header (by rw [hs]; exact List.mem_singleton_self s)
  rw [show s.stop - 1 = body.opening by omega] at hslice
  exact ⟨hd, by rw [hoffset, hslice], by rw [hkeyword, hvalue], by rw [hname, hvalue]⟩

/-- Every carved member stands in the text on lines of its own. -/
theorem standing (h : Separable withConstructors t body vs) {r : Carved} (hr : r ∈ carved vs) :
    ∃ a front inner z, Standing t body.opening r a front inner z := by
  obtain ⟨-, -, -, -, -, -, hblock, hvs⟩ := h.resolved
  obtain ⟨hfresh, hspent⟩ := h.own_lines r hr
  rw [hvs] at hr
  obtain ⟨a, front, inner, z, htake, hstart, hbehind, hopening, hclose, hmember⟩ := carved_parts hblock h.no_argument hr
  rw [hstart, Int.toNat_natCast] at hfresh
  have hstands : Stands t a (braced front inner) (z ++ t.drop body.stop) := Source.stands_of_take htake hfresh (hclose ▸ hspent)
  have hfront := (hmember.head []).braceless.no_open
  obtain ⟨hexposed, ws, ws', hfull, hws, hline, hws', hreturn⟩ :=
    memberAt_stands r.site.name r.site.kind h.no_return hfront hstands rfl hclose
  have hplain : '<' ∉ braced front inner := by
    have hinside := h.no_argument
    rw [show t.take body.stop = _ from htake, List.drop_append_of_le_length (by omega)] at hinside
    simp only [List.mem_append, not_or] at hinside
    exact hinside.2.1
  obtain ⟨-, _, hj⟩ := mem_carved hr
  obtain ⟨-, -, -, -, -, -, hm⟩ := judge_eq_carved hj
  have hsite : (⟨a.length, r.site.name, r.site.kind⟩ : Declaration.MemberSite) = r.site := by rw [← hstart]
  rw [hsite, ← hopening, ← hm] at hexposed hfull
  refine ⟨a, front, inner, _, hstands, hstart, hclose, hbehind, hmember, hplain, by rw [hm]; rfl, hexposed, ?_⟩
  exact ⟨⟨ws, ws', hfull, hws, hline, hws'⟩, hmember.beginsWord, ⟨front ++ '{' :: inner, by simp [braced]⟩, hfull ▸ hreturn⟩

theorem ordered (h : Separable withConstructors t body vs) :
    (carved vs).Pairwise fun a b => (a.close : Int) ≤ b.site.offset := by
  obtain ⟨-, -, -, -, -, -, hblock, rfl⟩ := h.resolved
  refine carved_ordered fun x hx => ?_
  obtain ⟨p, -, -, hp, -⟩ := Declaration.memberSite_block hblock hx
  exact ⟨p, hp⟩

theorem constructors (h : Separable withConstructors t body vs) {r : Carved} (hr : r ∈ carved vs) :
    withConstructors = true ∨ r.site.name ≠ body.owner.name := by
  obtain ⟨-, -, -, -, -, -, -, rfl⟩ := h.resolved
  obtain ⟨-, _, hj⟩ := mem_carved hr
  exact (judge_eq_carved hj).2.2.2.1

theorem types_eq (h : Separable withConstructors t body vs) :
    (extract withConstructors t).types = [declare t (namespaceOf t) body vs] := by
  rw [types, h.one_type]
  rfl

/-- A member laid out in another way is still that member. -/
theorem holds (h : Separable withConstructors t body vs) {b : Placed Carved} (hr : b.origin ∈ carved vs)
    (ha : Alike (b.origin.text t) b.text) : b.Holds ∧ '<' ∉ b.text := by
  obtain ⟨a, front, inner, z, hs⟩ := h.standing hr
  rw [hs.text_eq] at ha
  refine ⟨?_, (ha.mem_iff (.inl (by decide))).not.mp hs.no_argument⟩
  obtain ⟨front', inner', htext, hfront, hmember⟩ := hs.member.alike ha
  exact ⟨front', inner', htext, hmember, by rw [hs.exposed, Text.hasToken_alike word_public hfront]⟩

theorem quietLine (h : Separable withConstructors t body vs) {l : Text}
    (hl : l ∈ preamble (extract withConstructors t).usings
      (declare t (namespaceOf t) body vs)) : QuietLine defaultKeywords l ∧ '\r' ∉ l := by
  rcases Splitting.mem_preamble rfl hl with hu | rfl | rfl
  · obtain ⟨hline, husing⟩ := Declaration.mem_usings hu
    refine ⟨Declaration.quietLine_using (fun k hk => (distinct_defaultKeywords k hk).1) husing (h.usings l hu), fun hm => ?_⟩
    rw [Content.ofText, Source.lines_eq_rawLines h.no_return] at hline
    exact h.no_return (Source.mem_of_mem_rawLines hline hm)
  · exact ⟨.inl rfl, by simp⟩
  · refine ⟨Declaration.quietLine_namespace (by decide) fun c hc => (Declaration.mem_namespaceOf hc).1, fun hm => ?_⟩
    simp only [List.mem_append] at hm
    rcases hm with (hm | hm) | hm
    · exact absurd hm (by decide)
    · exact h.no_return (Declaration.mem_namespaceOf hm).2
    · exact absurd hm (by decide)

/-- No type header begins in the preamble of a part, whatever follows. -/
theorem preamble_quiet (h : Separable withConstructors t body vs) {pre : List Text}
    (hpre : pre = preamble (extract withConstructors t).usings (declare t (namespaceOf t) body vs)) (rest : Text) (q : Nat)
    (hq : q < (Encoding.ofLines pre).length) :
    typeHeader defaultKeywords (.at_ (Encoding.ofLines pre ++ rest) q) = none := by
  refine Declaration.quiet_lines distinct_defaultKeywords ?_ [] rest (Nat.zero_le q) (by simpa using hq)
  intro l hl
  exact (h.quietLine (hpre ▸ hl)).1

theorem memberLines (h : Separable withConstructors t body vs) {r : Carved} (hr : r ∈ carved vs) :
    MemberLines (r.text t) r.member.fullText := by
  obtain ⟨a, front, inner, z, hs⟩ := h.standing hr
  rw [hs.text_eq]
  exact hs.lines

/-- The lines of some members in a part are those members, laid out in another way. -/
theorem exists_spread (h : Separable withConstructors t body vs) {unit : Text} (hunit : ∀ c ∈ unit, c = ' ' ∨ c = '\t')
    {xs : List Carved} (hxs : ∀ r ∈ xs, r ∈ carved vs) :
    ∃ (bs : List (Placed Carved)) (last : Text),
      ['\n'] ++ Encoding.ofLines (Splitting.memberLines unit (xs.map (·.member.fullText))) = Splitting.spread bs ++ last ∧
      bs.map (·.origin) = xs ∧ (∀ b ∈ bs, Alike (b.origin.text t) b.text) ∧ (∀ b ∈ bs, b.Holds) ∧
      '<' ∉ Splitting.spread bs ∧ (∀ c ∈ last, isBlank c = true) ∧ '\n' ∈ last := by
  have hblank : ∀ c ∈ unit, isBlank c = true := by
    intro c hc
    rcases hunit c hc with rfl | rfl <;> decide
  obtain ⟨bs, last, hspread, horigin, halike, hlast, hnewline⟩ :=
    Splitting.memberLines_spread hblank (fun r hr => h.memberLines (hxs r hr)) ['\n']
      (List.forall_mem_singleton.mpr (by decide)) (by decide)
  have hholds : ∀ b ∈ bs, b.Holds ∧ '<' ∉ b.text := fun b hb =>
    h.holds (hxs _ (horigin ▸ List.mem_map_of_mem hb)) (halike b hb)
  refine ⟨bs, last, hspread, horigin, halike, fun b hb => (hholds b hb).1, fun hm => ?_, hlast, hnewline⟩
  obtain ⟨b, hb, hm⟩ := List.mem_flatMap.mp hm
  rcases List.mem_append.mp hm with hm | hm
  · exact absurd (b.gap_blank _ hm) (by decide)
  · exact (hholds b hb).2 hm

/-- No carriage return gets into a part. -/
theorem no_return_part (h : Separable withConstructors t body vs) {unit line : Text}
    (hunit : ∀ c ∈ unit, c = ' ' ∨ c = '\t') (hline : '\r' ∉ line) {xs : List Carved} (hxs : ∀ r ∈ xs, r ∈ carved vs) :
    '\r' ∉ Encoding.ofLines (partLines unit (extract withConstructors t).usings (declare t (namespaceOf t) body vs) line
      (xs.map (·.member))) := by
  refine Splitting.not_mem_partLines (by decide) (fun hm => ?_) hline (fun l hl => (h.quietLine hl).2) ?_
  · rcases hunit _ hm with hc | hc <;> revert hc <;> decide
  · intro m hm
    obtain ⟨r, hr, rfl⟩ := List.mem_map.mp hm
    exact (h.memberLines (hxs r hr)).no_return

/-- The rendered part of some members is a text with a preamble, a header and those members. -/
theorem exists_part (h : Separable withConstructors t body vs) {style : Style}
    (hunit : ∀ c ∈ style.indentUnit, c = ' ' ∨ c = '\t') {xs : List Carved} (hxs : ∀ r ∈ xs, r ∈ carved vs) :
    ∃ (p : PartText) (lines : List Text),
      render style (extract withConstructors t).usings (declare t (namespaceOf t) body vs) (xs.map (·.member)) = .ok lines ∧
      Encoding.ofLines lines = p.text ∧ '\r' ∉ p.text ∧ p.members.map (·.origin) = xs ∧
      (∀ b ∈ p.members, Alike (b.origin.text t) b.text) ∧
      p.header.name = body.owner.name ∧ p.header.keyword = body.owner.keyword := by
  obtain ⟨hd, hslice, hkeyword, hname⟩ := h.header
  obtain ⟨hd', line, hpartial, hline, hk, hn, hreturn⟩ := Splitting.partialHeader_eq hd
  obtain ⟨bs, last, hspread, horigin, halike, hholds, hplain, hlast, hnewline⟩ := h.exists_spread hunit hxs
  obtain ⟨pre, hpre⟩ : ∃ pre, pre = preamble (extract withConstructors t).usings (declare t (namespaceOf t) body vs) := ⟨_, rfl⟩
  obtain ⟨p, hp1, hp2, hp3, hp4⟩ : ∃ p : PartText, p.preamble = Encoding.ofLines pre ∧ p.header = hd' ∧ p.members = bs ∧
      p.last = last :=
    ⟨⟨_, hd', bs, last, Splitting.fresh_ofLines pre, h.preamble_quiet hpre, hholds, hplain, hlast, hnewline⟩,
      rfl, rfl, rfl, rfl⟩
  have htext : Encoding.ofLines (partLines style.indentUnit (extract withConstructors t).usings
      (declare t (namespaceOf t) body vs) line (xs.map (·.member))) = p.text := by
    rw [Splitting.ofLines_partLines, ← hpre, List.map_map, PartText.text, PartText.lead, PartText.inner, hp1, hp2, hp3, hp4,
      ← hspread, hline]
    rfl
  have hheader : partialHeader (declare t (namespaceOf t) body vs).header (declare t (namespaceOf t) body vs).keyword =
      .ok line := by
    rw [← hpartial, ← hslice, ← hkeyword]
    rfl
  have hclean : '\r' ∉ hd.text := by
    rw [← hslice]
    exact fun hm => h.no_return (List.mem_of_mem_take (List.mem_of_mem_drop hm))
  refine ⟨p, _, ?_, htext, ?_, hp3 ▸ horigin, hp3 ▸ halike, by rw [hp2, hn, hname], by rw [hp2, hk, hkeyword]⟩
  · rw [render, hheader]
    rfl
  · rw [← htext]
    exact h.no_return_part hunit (hreturn hclean) hxs

/-- A brace behind a place of a member of a part stands in the member, or behind it in the source too. -/
theorem brace_follows (h : Separable withConstructors t body vs) {p : PartText} (hcarved : ∀ b ∈ p.members, b.origin ∈ carved vs)
    (hordered : p.members.Pairwise fun b b' => (b.origin.close : Int) ≤ b'.origin.site.offset)
    {bs₁ bs₂ : List (Placed Carved)} {b : Placed Carved} (hbs : p.members = bs₁ ++ b :: bs₂) {a front inner z y : Text}
    (hs : Standing t body.opening b.origin a front inner z)
    (hm : '{' ∈ y ++ (Splitting.spread bs₂ ++ (p.last ++ ['}', '\n']))) : '{' ∈ y ∨ '{' ∈ z := by
  simp only [List.mem_append] at hm
  rcases hm with hm | hm | hm | hm
  · exact .inl hm
  · obtain ⟨b', hb', hm⟩ := List.mem_flatMap.mp hm
    obtain ⟨a', front', inner', z', hs'⟩ := h.standing (hcarved b' (by rw [hbs]; simp [hb']))
    rw [hbs] at hordered
    have hle := (List.pairwise_cons.mp (List.pairwise_append.mp hordered).2.1).1 b' hb'
    exact .inr (hs.brace_behind hs' hle)
  · exact absurd (p.last_blank _ hm) (by decide)
  · exact absurd hm (by decide)

/-- No type is declared inside a carved member. -/
theorem passed_inside (h : Separable withConstructors t body vs) {r : Carved} {a front inner z x y : Text}
    (hs : Standing t body.opening r a front inner z) (hcut : braced front inner = x ++ y) :
    typeHeader defaultKeywords ⟨(a ++ x).reverse, y ++ z⟩ = none ∨
      (Cursor.mk (a ++ x).reverse (y ++ z)).inLineComment = true := by
  have htext : t = a ++ x ++ (y ++ z) := by
    rw [hs.stands.text_eq, hcut]
    simp
  have hplace : Cursor.at_ t (a ++ x).length = ⟨(a ++ x).reverse, y ++ z⟩ := by rw [htext, Cursor.at_append]
  have hbehind := hs.behind
  have hle : (a ++ x).length ≤ t.length := by
    rw [htext]
    exact (List.prefix_append _ _).length_le
  rw [← hplace]
  exact h.passed (by rw [List.length_append]; omega) hle

/-- A type header inside a member of a part would stand in the source too, behind the brace of the type. -/
theorem typeless (h : Separable withConstructors t body vs) {p : PartText} (hcarved : ∀ b ∈ p.members, b.origin ∈ carved vs)
    (hordered : p.members.Pairwise fun b b' => (b.origin.close : Int) ≤ b'.origin.site.offset)
    (halike : ∀ b ∈ p.members, Alike (b.origin.text t) b.text) : p.Typeless := by
  refine PartText.typeless fun bs₁ b bs₂ x y hbs htext hne => ?_
  have hmem : ∀ b' ∈ b :: bs₂, b' ∈ p.members := fun b' hb' => by rw [hbs]; exact List.mem_append_right _ hb'
  obtain ⟨front', inner', hbraced, -⟩ := p.holds b (hmem b List.mem_cons_self)
  obtain ⟨y, rfl⟩ := Declaration.braced_ends (hbraced.symm.trans htext) hne
  have hat : Cursor.at_ p.text (p.upTo bs₁ b ++ x).length =
      ⟨(p.upTo bs₁ b ++ x).reverse, y ++ '}' :: (Splitting.spread bs₂ ++ (p.last ++ ['}', '\n']))⟩ := by
    rw [(PartText.stands hbs).text_eq, htext, ← Cursor.at_append]
    simp
  by_contra hpassed
  rw [Passed, hat, not_or] at hpassed
  obtain ⟨hacc, hcomment⟩ := hpassed
  have hsome := Option.isSome_iff_ne_none.mpr hacc
  obtain ⟨-, u, s, hahead, hu, -, hopen⟩ := (Declaration.typeHeader_iff distinct_defaultKeywords).mp hsome
  -- The member in the source is cut where the part is.
  obtain ⟨a, front, inner, z, hs⟩ := h.standing (hcarved b (hmem b List.mem_cons_self))
  have hrest : y ++ ['}'] ++ (Splitting.spread bs₂ ++ (p.last ++ ['}', '\n'])) = u ++ s := by simpa using hahead
  have hblank : StopsAt isBlank (y ++ ['}']) := by
    have := ((hu.beginsWord distinct_defaultKeywords).append s).stopsAt_blank
    rw [← hrest] at this
    exact this.of_append
  have ha := halike b (hmem b List.mem_cons_self)
  rw [hs.text_eq, htext] at ha
  obtain ⟨x', y', hcut, hx, hy⟩ := ha.symm.split_stop hblank
  have hbrace : '{' ∈ y' ++ z := by
    have hm : '{' ∈ y ++ ['}'] ++ (Splitting.spread bs₂ ++ (p.last ++ ['}', '\n'])) := by
      rw [hrest]
      exact List.mem_append_right _ hopen
    rcases h.brace_follows hcarved hordered hbs hs hm with hm | hm
    · exact List.mem_append_left _ ((hy.mem_iff (.inl (by decide))).mp hm)
    · exact List.mem_append_right _ hm
  have hmoved := Declaration.typeHeader_moves distinct_defaultKeywords hs.stands.fresh hx hy hbrace hsome
  rcases h.passed_inside hs hcut with hnone | hin
  · rw [hnone] at hmoved
    cases hmoved
  · rw [← Source.inLineComment_stands (PartText.stands hbs).fresh hs.stands.fresh hx] at hin
    exact hcomment hin

end Separable

/-- Splitting is undone by extracting again: the part of every group holds one type with the name and the keyword of
the type that was split, and its members are those of the group. -/
theorem split_is_undone {withConstructors : Bool} {t : Text} {body : Body} {vs : List Verdict}
    (h : Separable withConstructors t body vs) {count : Option Int} (hcount : ∀ k, count = some k → 1 ≤ k) {style : Style}
    (hunit : ∀ c ∈ style.indentUnit, c = ' ' ∨ c = '\t') :
    ∃ d gs, (extract withConstructors t).types = [d] ∧ groups d.members count = .ok gs ∧ ∀ g ∈ gs,
      ∃ lines d', render style (extract withConstructors t).usings d g = .ok lines ∧
        (extract withConstructors (Encoding.ofLines lines)).warnings = [] ∧
        (extract withConstructors (Encoding.ofLines lines)).types = [d'] ∧
        d'.name = d.name ∧ d'.keyword = d.keyword ∧
        d'.members.map (·.name) = g.map (·.name) ∧ d'.members.map (·.exposed) = g.map (·.exposed) := by
  obtain ⟨gs, hgs⟩ : ∃ gs, groups (declare t (namespaceOf t) body vs).members count = .ok gs := Splitting.groups_ok hcount
  refine ⟨declare t (namespaceOf t) body vs, gs, h.types_eq, hgs, fun g hg => ?_⟩
  have hsub := Splitting.sublist_of_mem_groups hgs hg
  rw [declare_members] at hsub
  obtain ⟨xs, hxs, rfl⟩ := List.sublist_map_iff.mp hsub
  obtain ⟨p, lines, hrender, htext, hreturn, horigin, halike, hname, hkeyword⟩ :=
    h.exists_part hunit fun r hr => hxs.subset hr
  have hcarved : ∀ b ∈ p.members, b.origin ∈ carved vs := fun b hb => hxs.subset (horigin ▸ List.mem_map_of_mem hb)
  have hordered : p.members.Pairwise fun b b' => (b.origin.close : Int) ≤ b'.origin.site.offset := by
    have := h.ordered.sublist hxs
    rwa [← horigin, List.pairwise_map] at this
  have hconstructors : ∀ b ∈ p.members, withConstructors = true ∨ b.origin.site.name ≠ p.header.name :=
    fun b hb => hname ▸ h.constructors (hcarved b hb)
  obtain ⟨hwarnings, d', htypes, hn, hk, hmembers⟩ :=
    PartText.extracted hreturn (h.typeless hcarved hordered halike) hconstructors
  rw [← htext] at hwarnings htypes
  refine ⟨lines, d', hrender, hwarnings, htypes, hn.trans hname, hk.trans hkeyword, ?_, ?_⟩
  · have hnames : p.members.map (·.origin.site.name) = p.members.map (·.origin.member.name) := by
      refine List.map_congr_left fun b hb => ?_
      obtain ⟨a, front, inner, z, hs⟩ := h.standing (hcarved b hb)
      exact hs.name.symm
    have := congrArg (List.map Prod.fst) hmembers
    rw [List.map_map, List.map_map] at this
    rw [List.map_map, ← horigin, List.map_map]
    exact this.trans hnames
  · have := congrArg (List.map Prod.snd) hmembers
    rw [List.map_map, List.map_map] at this
    rw [List.map_map, ← horigin, List.map_map]
    exact this

def sampleText : Text :=
  "using System;\nnamespace N;\npublic class A\n\x7b\n  public int F()\n  \x7b\n    // class B \x7b\x7d\n".toList ++
    "    return 1;\n  \x7d\n\n  int x;\n\n  int G \x7b get; \x7d\n\x7d\n".toList

def sampleBody : Body := ⟨⟨27, ['A'], "class".toList, "public class A".toList⟩, 42, 129, []⟩

theorem sampleText_separable : Separable true sampleText sampleBody (verdictsIn sampleText sampleBody) where
  no_return := by decide +kernel
  one_type := by
    rw [extract, defaultScanner_eq]
    decide +kernel
  no_argument := by decide +kernel
  usings := by decide +kernel
  own_lines := by decide +kernel

/-- A method and a property, split into two parts and found again. -/
theorem sample_split_is_undone :
    (carved (verdictsIn sampleText sampleBody)).length = 2 ∧
      ∃ d gs, (extract true sampleText).types = [d] ∧ groups d.members (some 2) = .ok gs ∧ ∀ g ∈ gs,
        ∃ lines d', render {} (extract true sampleText).usings d g = .ok lines ∧
          (extract true (Encoding.ofLines lines)).warnings = [] ∧ (extract true (Encoding.ofLines lines)).types = [d'] ∧
          d'.name = d.name ∧ d'.keyword = d.keyword ∧
          d'.members.map (·.name) = g.map (·.name) ∧ d'.members.map (·.exposed) = g.map (·.exposed) :=
  ⟨by decide +kernel, split_is_undone sampleText_separable (fun k hk => by cases hk; decide)
    fun c hc => .inl (List.eq_of_mem_replicate (n := 4) hc)⟩

end TypeSplit.Extraction
