/-
  TypeSplit.Proofs.Succession — what is carved, whatever sites are proposed.

  A scanner only proposes places. It may propose one twice, or out of order, or before the beginning or behind the end of
  the text; whether anything is declared there is decided by the braces. So nothing here is assumed of the sites, and the
  lines of the content need not be those of its text.
  - `lineStart?_lineOf`: the line of an offset has a start, so a column can be counted on it.
  - `judge_follows`: a site that is carved lies behind everything carved before it, and its body is a block in the window.
  - `verdicts_follow`: so the members carved from a list of sites follow one another in the window.
  - `outcome_answers`: a type site is answered by one type or by one warning, and a warning says which brace is missing.
  - `every_site_is_answered`: these together, for any scanner, any text and any lines.
-/

import TypeSplit.Proofs.LineExtent

namespace TypeSplit.Source

/-! ## Lines of any offset -/

theorem lineOf_le (t : Text) {a b : Int} (h : a ≤ b) : lineOf t a ≤ lineOf t b := by
  have hprefix : t.take a.toNat <+: t.take b.toNat := List.take_prefix_take_left (by omega)
  have hcount := hprefix.sublist.count_le '\n'
  unfold lineOf
  omega

/-- The line of an offset begins behind the last newline before it. Offsets before the text are on its first line, and
offsets behind its end on its last. -/
theorem lineStart?_lineOf (t : Text) (offset : Int) :
    lineStart? t (lineOf t offset) = some (lineBegin t (min offset.toNat t.length)) := by
  have hline : lineOf t offset = lineOf t ((min offset.toNat t.length : Nat) : Int) := by
    have htake : t.take (min offset.toNat t.length) = t.take offset.toNat := List.take_eq_take_iff.mpr (by omega)
    rw [lineOf, lineOf, Int.toNat_natCast, htake]
  obtain ⟨a, f, g, b, haround, -⟩ := exists_around (Nat.le_refl _) (Nat.min_le_right offset.toNat t.length)
  rw [hline, haround.lineStart?_start, haround.lineBegin_eq]

/-! ## Blocks as texts -/

/-- A text from a brace to the brace that closes it: between the two, every brace has its partner. -/
def IsBlock (x : Text) : Prop := ∃ inner, x = '{' :: (inner ++ ['}']) ∧ depthAfter 0 inner = some 0

theorem isBlock_of_matchBlock? {t : Text} {o c : Nat} (ho : t[o]? = some '{')
    (h : matchBlock? .braces t o none = some c) : IsBlock ((t.take c).drop o) := by
  obtain ⟨hlt, hget⟩ := List.getElem?_eq_some_iff.mp ho
  have hstart : ((o : Int) + 1).toNat = o + 1 := by omega
  have hbefore : before none t = t := rfl
  rw [matchBlock?, hstart, hbefore] at h
  obtain ⟨inner, rest, hdrop, hinner, hc⟩ := closeFrom?_braces_iff.mp h
  refine ⟨inner, ?_, hinner⟩
  have hbrace : t.drop o = '{' :: (inner ++ ['}']) ++ rest := by
    rw [List.drop_eq_getElem_cons hlt, hget, hdrop]
    simp
  have hlen : c - o = ('{' :: (inner ++ ['}'])).length := by
    simp only [List.length_cons, List.length_append, List.length_nil]
    omega
  rw [List.drop_take, hbrace, hlen, List.take_left]

end TypeSplit.Source

namespace TypeSplit

def Warning.Cause.ofType : Warning.Cause → Bool
  | .missingDelimiter | .unmatchedType => true
  | .memberOutsideType _ | .unmatchedMember _ => false

end TypeSplit

namespace TypeSplit.Extraction

open TypeSplit.Declaration (MemberSite TypeSite)
open TypeSplit.Source (Block IsBlock lineOf lineStart? matchBlock?)

/-! ## Members -/

/-- Members between `start` and `stop` that follow one another: each begins where the one before it has ended or later,
its brace stands there or later, and its body is a block. -/
inductive Following (t : Text) (stop : Nat) : (start : Nat) → List Carved → Prop
  | nil {start : Nat} (ends : start ≤ stop) : Following t stop start []
  | cons {start : Nat} {r : Carved} {rs : List Carved} (begins : start ≤ r.site.offset) (opens : r.site.offset ≤ r.opening)
      (closes : r.opening < r.close) (block : IsBlock ((t.take r.close).drop r.opening))
      (rest : Following t stop r.close rs) : Following t stop start (r :: rs)

namespace Following

variable {t : Text} {start stop : Nat} {rs : List Carved}

theorem le (h : Following t stop start rs) : start ≤ stop := by
  induction h with
  | nil ends => exact ends
  | cons begins opens closes block rest ih => omega

theorem bounds (h : Following t stop start rs) {r : Carved} (hr : r ∈ rs) :
    start ≤ r.site.offset ∧ r.site.offset ≤ r.opening ∧ r.opening < r.close ∧ r.close ≤ stop := by
  induction h with
  | nil ends => cases hr
  | cons begins opens closes block rest ih =>
    have hle := rest.le
    rcases List.mem_cons.mp hr with rfl | hr
    · exact ⟨begins, opens, closes, hle⟩
    · obtain ⟨h1, h2, h3, h4⟩ := ih hr
      exact ⟨by omega, h2, h3, h4⟩

/-- The bodies share no character, and stand in the order of the members. -/
theorem disjoint (h : Following t stop start rs) : rs.Pairwise fun a b => a.close ≤ b.opening := by
  induction h with
  | nil ends => exact .nil
  | cons begins opens closes block rest ih =>
    refine .cons ?_ ih
    intro r hr
    have := rest.bounds hr
    omega

end Following

section

variable {scanner : Scanner} {withConstructors : Bool} {content : Content} {body : Body} {resume : Nat}

/-- A site that is carved lies behind everything carved before it, and its body is a block in the window. -/
theorem judge_follows {x : MemberSite} {r : Carved} (h : judge withConstructors content body resume x = .carved r) :
    resume ≤ r.site.offset ∧ r.site.offset ≤ r.opening ∧ r.opening < r.close ∧ r.close ≤ body.stop ∧
      IsBlock ((content.text.take r.close).drop r.opening) := by
  obtain ⟨rfl, hresume, -, -, hfind, hmatch, -⟩ := judge_eq_carved h
  obtain ⟨hbrace, hle⟩ := Text.of_find? hfind
  obtain ⟨hclose, hstop⟩ := Source.matchBlock?_limit.mp hmatch
  have hlt := Source.matchBlock?_bounds hclose
  exact ⟨hresume, hle, by omega, hstop, Source.isBlock_of_matchBlock? hbrace hclose⟩

theorem verdicts_follow (h : resume ≤ body.stop) (xs : List MemberSite) :
    Following content.text body.stop resume (carved (verdicts withConstructors content body resume xs)) := by
  induction xs generalizing resume with
  | nil => exact .nil h
  | cons x xs ih =>
    rw [carved_cons]
    cases hcarved : (judge withConstructors content body resume x).carved? with
    | none => exact ih h
    | some r =>
      obtain ⟨hbegins, hopens, hcloses, hstop, hblock⟩ := judge_follows (Verdict.carved?_eq_some hcarved)
      exact .cons hbegins hopens hcloses hblock (ih hstop)

/-- What a member site is warned of is a member, never a type. -/
theorem judge_warns {x : MemberSite} {w : Warning} (h : (judge withConstructors content body resume x).warning? = some w) :
    w.cause.ofType = false := by
  unfold judge at h
  split at h
  · cases h
  · split at h
    · cases h
    · split at h
      · cases h
      · simp only at h
        split at h
        · cases h
          rfl
        · split at h
          · cases h
            rfl
          · cases h

theorem verdicts_warn {xs : List MemberSite} {w : Warning}
    (h : w ∈ (verdicts withConstructors content body resume xs).filterMap Verdict.warning?) : w.cause.ofType = false := by
  induction xs generalizing resume with
  | nil => cases h
  | cons x xs ih =>
    obtain ⟨v, hv, hw⟩ := List.mem_filterMap.mp h
    rcases List.mem_cons.mp hv with rfl | hv
    · exact judge_warns hw
    · exact ih (List.mem_filterMap.mpr ⟨v, hv, hw⟩)

end

/-! ## Types -/

/-- The type `d` of a site: its body goes from the brace at `o` to the brace at `e`, and `rs` are its members. -/
structure Carves (scanner : Scanner) (content : Content) (site : TypeSite) (d : TypeDeclaration) (o e : Nat)
    (rs : List Carved) : Prop where
  opens : Text.find? content.text '{' site.offset content.text.length = some o
  block : Block content.text o e
  name : d.name = site.name
  keyword : d.keyword = site.keyword
  startLine : d.startLine = lineOf content.text site.offset
  endLine : d.endLine = lineOf content.text e
  members : d.members = rs.map (·.member)
  proposed : ∀ r ∈ rs, r.site ∈ scanner.memberSites content.text o e ∧ r.member = memberAt content r.site r.opening r.close
  following : Following content.text e o rs
  disjoint : rs.Pairwise fun a b => a.close ≤ b.opening
  lines : ∀ m ∈ d.members, d.startLine ≤ m.startLine ∧ m.startLine ≤ m.endLine ∧ m.endLine ≤ d.endLine

/-- The answer to a type site: its type if its block opens and closes, and else a warning about the brace that is missing. -/
inductive Answers (scanner : Scanner) (content : Content) (site : TypeSite) : TypeDeclaration ⊕ Warning → Prop
  | type {d : TypeDeclaration} {o e : Nat} {rs : List Carved} (h : Carves scanner content site d o e rs) :
      Answers scanner content site (.inl d)
  | unopened (h : Text.find? content.text '{' site.offset content.text.length = none) :
      Answers scanner content site (.inr ⟨.missingDelimiter, site.offset, lineOf content.text site.offset, site.name⟩)
  | unclosed {o : Nat} (h : Text.find? content.text '{' site.offset content.text.length = some o)
      (hclose : matchBlock? .braces content.text o none = none) :
      Answers scanner content site (.inr ⟨.unmatchedType, site.offset, lineOf content.text site.offset, site.name⟩)

def Outcome.answer (t namespaceName : Text) : Outcome → TypeDeclaration ⊕ Warning
  | .skipped w => .inr w
  | .resolved body vs => .inl (declare t namespaceName body vs)

section

variable {scanner : Scanner} {withConstructors : Bool} {content : Content} {sites : List TypeSite} {site : TypeSite}

theorem resolve_carves {body : Body} {vs : List Verdict} (namespaceName : Text)
    (h : resolve scanner withConstructors content sites site = .resolved body vs) :
    Carves scanner content site (declare content.text namespaceName body vs) body.opening body.stop (carved vs) := by
  obtain ⟨rfl, hfind, hblock, -, rfl⟩ := resolve_eq_resolved h
  have hfollowing : Following content.text body.stop body.opening (carved (verdicts withConstructors content body body.opening
      (scanner.memberSites content.text body.opening body.stop))) := verdicts_follow (Nat.le_of_lt hblock.lt) _
  have hproposed : ∀ r ∈ carved (verdicts withConstructors content body body.opening
      (scanner.memberSites content.text body.opening body.stop)),
      r.site ∈ scanner.memberSites content.text body.opening body.stop ∧
        r.member = memberAt content r.site r.opening r.close := by
    intro r hr
    obtain ⟨hmem, _, hjudge⟩ := mem_carved hr
    obtain ⟨-, -, -, -, -, -, hmember⟩ := judge_eq_carved hjudge
    exact ⟨hmem, hmember⟩
  refine ⟨hfind, hblock, rfl, rfl, rfl, rfl, declare_members .., hproposed, hfollowing, hfollowing.disjoint, ?_⟩
  intro m hm
  rw [declare_members] at hm
  obtain ⟨r, hr, rfl⟩ := List.mem_map.mp hm
  obtain ⟨h1, h2, h3, h4⟩ := hfollowing.bounds hr
  rw [(hproposed r hr).2]
  -- The lines are those of the site of the type, the site of the member, its last brace and the last brace of the type.
  have hstart := (Text.of_find? hfind).2
  exact ⟨Source.lineOf_le _ (by omega), Source.lineOf_le _ (by omega), Source.lineOf_le _ (by omega)⟩

theorem outcome_answers (namespaceName : Text) :
    Answers scanner content site
      ((resolve scanner withConstructors content sites site).answer content.text namespaceName) := by
  cases houtcome : resolve scanner withConstructors content sites site with
  | resolved body vs => exact .type (resolve_carves namespaceName houtcome)
  | skipped w =>
    simp only [resolve] at houtcome
    split at houtcome
    · rename_i hfind
      cases houtcome
      exact .unopened hfind
    · rename_i o hfind
      split at houtcome
      · rename_i hclose
        cases houtcome
        exact .unclosed hfind hclose
      · cases houtcome

/-- The warnings of an outcome that are about a type. -/
theorem outcome_warns (namespaceName : Text) :
    (resolve scanner withConstructors content sites site).warnings.filter (·.cause.ofType) =
      ((resolve scanner withConstructors content sites site).answer content.text namespaceName).getRight?.toList := by
  have hanswer : Answers scanner content site
      ((resolve scanner withConstructors content sites site).answer content.text namespaceName) := outcome_answers _
  cases houtcome : resolve scanner withConstructors content sites site with
  | resolved body vs =>
    obtain ⟨-, -, -, -, rfl⟩ := resolve_eq_resolved houtcome
    refine List.filter_eq_nil_iff.mpr ?_
    intro w hw
    rw [verdicts_warn hw]
    exact Bool.false_ne_true
  | skipped w =>
    rw [houtcome] at hanswer
    cases hanswer with
    | unopened h => rfl
    | unclosed h hclose => rfl

end

/-- Whatever sites are proposed: the line of every offset has a start, every type site is answered in its turn by one type
or one warning, and the members of a type follow one another inside it. -/
theorem every_site_is_answered (scanner : Scanner) (withConstructors : Bool) (content : Content) :
    (∀ offset : Int, ∃ start, lineStart? content.text (lineOf content.text offset) = some start) ∧
      ∃ answers : List (TypeDeclaration ⊕ Warning),
        List.Forall₂ (Answers scanner content) (scanner.typeSites content.text) answers ∧
        (run scanner withConstructors content).types = answers.filterMap Sum.getLeft? ∧
        (run scanner withConstructors content).warnings.filter (·.cause.ofType) = answers.filterMap Sum.getRight? := by
  refine ⟨fun offset => ⟨_, Source.lineStart?_lineOf content.text offset⟩,
    (run scanner withConstructors content).outcomes.map
      (Outcome.answer content.text (run scanner withConstructors content).namespaceName), ?_, ?_, ?_⟩
  · rw [run, List.map_map, List.forall₂_map_right_iff, List.forall₂_same]
    intro site _
    exact outcome_answers _
  · rw [types, List.filterMap_map]
    apply List.filterMap_congr
    intro outcome _
    cases outcome <;> rfl
  · rw [warnings, List.filter_flatMap, List.filterMap_eq_flatMap_toList, run, List.flatMap_map, List.map_map,
      List.flatMap_map]
    apply List.flatMap_congr
    intro site _
    exact outcome_warns _

-- Of the type sites one lies behind the text and one before it; of the member sites two are repeated or out of order.
example :
    let scanner : Scanner :=
      ⟨fun _ => [⟨99, ['P'], [], []⟩, ⟨-100, ['Q'], [], []⟩, ⟨10, ['R'], [], []⟩],
        fun _ _ _ => [⟨2, ['x'], .method⟩, ⟨2, ['x'], .method⟩, ⟨-1, ['z'], .method⟩, ⟨5, ['y'], .method⟩]⟩
    let extraction := run scanner false ⟨['Q', '{', 'x', '{', '}', '\n', 'y', '{', '}', '}', '{'], []⟩
    extraction.types.map (fun d => (d.name, d.members.map (·.name))) = [(['Q'], [['x'], ['y']])] ∧
      extraction.warnings.map (fun w => (w.name, w.cause)) = [(['P'], .missingDelimiter), (['R'], .unmatchedType)] := by
  decide

end TypeSplit.Extraction
