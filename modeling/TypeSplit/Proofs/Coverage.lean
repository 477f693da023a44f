/-
  TypeSplit.Proofs.Coverage — which declarations in the body of a type are kept.

  A declaration stands directly in a body if as many braces close as open between the brace of the type and
  the declaration, it is not behind `//`, and a member pattern matches there. `kept_iff` says exactly when such
  a declaration lies in a carved member: it is not inside a span that is taken for a nested type, and the
  scan comes by it, because no match that starts earlier runs over it; or else the header of a carved member
  reaches over it.

  `declaration_behind_comparison_is_lost` is a body where neither is so: the `<` of a comparison in one
  method and the `>` in the return type of the next are read as one list of type arguments.
-/

import TypeSplit.Proofs.Carving

namespace TypeSplit.Extraction

open TypeSplit.Declaration (MemberKind MemberSite)
open TypeSplit.Source (Block Cursor Delimiters)

/-- A member pattern matches at an offset, and ends in the window of the body. -/
def Matches (kind : MemberKind) (t : Text) (body : Body) (p : Nat) : Prop :=
  (kind.accepts (.at_ (t.take body.stop) p)).isSome = true

structure Direct (t : Text) (body : Body) (p : Nat) : Prop where
  behind_brace : body.opening < p
  in_window : p < body.stop
  balanced : ((t.take p).drop (body.opening + 1)).count '{' = ((t.take p).drop (body.opening + 1)).count '}'
  uncommented : (Cursor.at_ t p).inLineComment = false
  declared : ∃ kind, Matches kind t body p

/-- A match that the scan takes starts before the offset and ends behind it. -/
def RunOver (kind : MemberKind) (t : Text) (body : Body) (p : Nat) : Prop :=
  ∃ s ∈ Source.sites kind.accepts t body.opening body.stop, s.start < p ∧ p < s.stop

/-- The offset lies between the start of a carved member and the end of its body. -/
def Kept (vs : List Verdict) (p : Nat) : Prop := ∃ r ∈ carved vs, r.site.offset ≤ p ∧ p < r.close

variable {t : Text} {body : Body} {p : Nat}

theorem Direct.level (h : Direct t body p) :
    Delimiters.braces.level t p = Delimiters.braces.level t (body.opening + 1) := by
  have h1 := Delimiters.braces.level_sub t (Nat.succ_le_of_lt h.behind_brace)
  rw [Source.net_braces, h.balanced] at h1
  simp only [Nat.succ_eq_add_one] at h1
  omega

/-- No block inside the body is open at a direct declaration. -/
theorem Direct.not_inside (h : Direct t body p) (hbody : Block t body.opening body.stop) {b c : Nat}
    (hb : Block t b c) (h1 : body.opening < b) (h2 : b < p) : c < p := by
  by_contra hc
  have hlevel := h.level
  have hin := Source.level_le_of_inside hb.closes h2 (by omega)
  have hout := Source.level_le_of_inside hbody.closes h1 (by have := h.in_window; omega)
  have hstep := Delimiters.braces.level_succ hb.opens
  simp only [Source.effect_braces, if_true, Source.Effect.weight] at hstep
  omega

theorem inLineComment_take {e : Nat} (h : p ≤ e) :
    (Cursor.at_ (t.take e) p).inLineComment = (Cursor.at_ t p).inLineComment := by
  simp only [Cursor.inLineComment, Cursor.behind_at, List.take_take, Nat.min_eq_left h]

/-! ## What is carved around a direct declaration -/

variable {content : Content} {vs : List Verdict}

/-- The scan comes by a direct declaration that no earlier match runs over. -/
theorem Direct.exists_site (h : Direct t body p) (hbody : Block t body.opening body.stop) {kind : MemberKind}
    (hm : Matches kind t body p) (hover : ¬ RunOver kind t body p) :
    ∃ x ∈ Declaration.memberSites true t body.opening body.stop, x.offset = p := by
  have hlt := hbody.lt
  have hlen := hbody.le_length
  have hscan := Declaration.memberSites_scan kind (Nat.le_of_lt hlt) (by omega : body.stop ≤ t.length)
  obtain ⟨⟨name, n⟩, hacc⟩ := Option.isSome_iff_exists.mp hm
  have hcomment : (Cursor.at_ (t.take body.stop) p).inLineComment = false := by
    rw [inLineComment_take (Nat.le_of_lt h.in_window)]
    exact h.uncommented
  have hle : p ≤ (t.take body.stop).length := by
    have := h.in_window
    rw [List.length_take]
    omega
  have hsite := hscan.found (Nat.le_of_lt h.behind_brace) hle hacc hcomment fun s hs h1 => by
    by_contra h2
    exact hover ⟨s, hs, h1, by omega⟩
  exact Declaration.exists_memberSite hsite

/-- A site of the scan is not run over. -/
theorem not_runOver_of_site (hbody : Block t body.opening body.stop) {x : MemberSite}
    (hx : x ∈ Declaration.memberSites true t body.opening body.stop) (hp : x.offset = p) :
    Matches x.kind t body p ∧ ¬ RunOver x.kind t body p := by
  have hlt := hbody.lt
  have hlen := hbody.le_length
  have hscan := Declaration.memberSites_scan x.kind (Nat.le_of_lt hlt) (by omega : body.stop ≤ t.length)
  obtain ⟨s, hs, hxs⟩ := Declaration.mem_memberSites hx
  have hstart : s.start = p := by rw [hxs] at hp; exact Int.natCast_inj.mp hp
  obtain ⟨-, -, -, hacc, -⟩ := hscan.accepted hs
  rw [hstart] at hacc
  refine ⟨by rw [Matches, hacc]; rfl, ?_⟩
  rintro ⟨s', hs', h1, h2⟩
  have := hscan.stop_le hs' hs (by omega)
  omega

/-- A direct declaration is kept exactly if it is outside the spans of nested types and the scan comes by it,
or if the header of a carved member reaches over it. -/
theorem kept_iff (content : Content) {i : Nat} (h : (run defaultScanner true content).outcomes[i]? = some (.resolved body vs))
    (hp : Direct content.text body p) :
    Kept vs p ↔
      (¬ body.Encloses p ∧ ∃ kind, Matches kind content.text body p ∧ ¬ RunOver kind content.text body p) ∨
        ∃ r ∈ carved vs, r.site.offset < p ∧ p ≤ r.opening := by
  simp only [run, List.getElem?_map, Option.map_eq_some_iff] at h
  obtain ⟨site, -, hres⟩ := h
  obtain ⟨-, -, hbody, -, hvs⟩ := resolve_eq_resolved hres
  simp only [defaultScanner] at hvs
  subst hvs
  constructor
  · rintro ⟨r, hr, h1, h2⟩
    obtain ⟨q, e, hq, h3, h4, he, h5, hblock⟩ := carved_block hbody hr
    rw [hq] at h1
    -- The body of a member is a level deeper, so only its header can reach the declaration.
    have hopen : p ≤ r.opening := by
      by_contra hlt
      have := hp.not_inside hbody hblock (by omega) (by omega)
      omega
    by_cases hqp : q = p
    · subst hqp
      have hn := not_encloses_of_carved hr
      rw [hq] at hn
      exact Or.inl ⟨hn, r.site.kind, not_runOver_of_site hbody (mem_carved hr).1 hq⟩
    · exact Or.inr ⟨r, hr, by omega, hopen⟩
  · rintro (⟨hn, kind, hm, hover⟩ | ⟨r, hr, h1, h2⟩)
    · obtain ⟨x, hx, hxp⟩ := hp.exists_site hbody hm hover
      obtain ⟨q, b, c, hq, h1, h2, h3, hblock, hfind, hmatch⟩ := Declaration.memberSite_block hbody hx
      have hlt := hblock.lt
      obtain rfl : q = p := by rw [hxp] at hq; omega
      rw [← hq] at hfind
      obtain ⟨r, hr, h4, h5⟩ := carved_covers (Declaration.memberSites_sorted true _ _ _) hx
        (by omega : (body.opening : Int) ≤ x.offset) (by rw [hq]; exact hn) (Or.inl rfl) (by omega) hfind hmatch
      exact ⟨r, hr, by omega, by omega⟩
    · obtain ⟨q, e, hq, h3, h4, he, h5, hblock⟩ := carved_block hbody hr
      have hlt := hblock.lt
      exact ⟨r, hr, by omega, by omega⟩

/-! ## A declaration that is lost -/

def comparisonText : Text := "class C { void A() { if (x<y) { } } List<int> B() { } }".toList

def comparisonBody : Body := ⟨⟨0, ['C'], "class".toList, "class C".toList⟩, 8, 54, []⟩

theorem comparisonText_outcomes :
    (run defaultScanner true (.ofText comparisonText)).outcomes =
      [.resolved comparisonBody (verdictsIn comparisonText comparisonBody)] := by
  rw [defaultScanner_eq]
  decide +kernel

theorem comparisonText_direct : Direct comparisonText comparisonBody 10 ∧ Direct comparisonText comparisonBody 36 :=
  ⟨⟨by decide, by decide, by decide, by decide +kernel, .method, by unfold Matches; decide +kernel⟩,
    ⟨by decide, by decide, by decide, by decide +kernel, .method, by unfold Matches; decide +kernel⟩⟩

theorem first_method_is_kept : Kept (verdictsIn comparisonText comparisonBody) 10 :=
  (kept_iff (.ofText comparisonText) (i := 0) (by rw [comparisonText_outcomes]; rfl) comparisonText_direct.1).mpr
    (Or.inl ⟨by simp [Body.Encloses, comparisonBody], .method, by unfold Matches; decide +kernel,
      by unfold RunOver; decide +kernel⟩)

/-- No type site reaches the second method without a brace or a semicolon, and yet it is lost. -/
theorem declaration_behind_comparison_is_lost :
    (run defaultScanner true (.ofText comparisonText)).outcomes =
        [.resolved comparisonBody (verdictsIn comparisonText comparisonBody)] ∧
      Direct comparisonText comparisonBody 36 ∧
      (∀ q ∈ Declaration.typeSites defaultKeywords comparisonText, q.offset < 36 →
        (Text.slice comparisonText q.offset 36).any Declaration.endsParameters = true) ∧
      ¬ Kept (verdictsIn comparisonText comparisonBody) 36 :=
  ⟨comparisonText_outcomes, comparisonText_direct.2, by decide +kernel, by unfold Kept; decide +kernel⟩

end TypeSplit.Extraction
