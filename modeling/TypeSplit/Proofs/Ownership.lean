/-
  TypeSplit.Proofs.Ownership — a member belongs to one type.

  Types are carved one by one out of windows that overlap. Two resolved types have different braces; their
  bodies are apart or one lies strictly inside the other, and in that case the outer type knows the inner one
  as an enclosed span, because the header of the inner type starts behind the outer brace and its block
  closes within the outer window. So no member site is carved twice.
-/

import TypeSplit.Proofs.Carving

namespace TypeSplit.Extraction

open TypeSplit.Declaration (TypeSite)
open TypeSplit.Source (Block matchBlock?)

def Body.Apart (a b : Body) : Prop := a.stop < b.opening ∨ b.stop < a.opening

def Body.Within (a b : Body) : Prop := b.opening < a.opening ∧ a.stop < b.stop

theorem mem_nestedSpans {t : Text} {sites : List TypeSite} {site : TypeSite} {start stop opening close : Nat}
    (hs : site ∈ sites) (h1 : (start : Int) < site.offset) (h2 : site.offset < (stop : Int))
    (hb : blockOf? t site.offset stop = some (opening, close)) : (site.offset, close) ∈ nestedSpans t sites start stop :=
  List.mem_filterMap.mpr ⟨site, hs, by simp [h1, h2, hb]⟩

theorem blockOf?_eq_some {t : Text} {offset : Int} {stop opening close : Nat}
    (hfind : Text.find? t '{' offset stop = some opening)
    (hmatch : matchBlock? .braces t opening (some stop) = some close) :
    blockOf? t offset stop = some (opening, close) := by
  simp [blockOf?, hfind, hmatch]

variable {keywords : List Text} {withProperties withConstructors : Bool} {scanner : Scanner} {content : Content}
  {a b : Body} {va vb : List Verdict}

/-- The later of two resolved types starts behind the brace of the earlier one. It lies behind its body, or
inside it and is known there. -/
theorem later_type (hkeywords : ∀ k ∈ keywords, '{' ∉ k) {sites : List TypeSite}
    (hsites : sites = Declaration.typeSites keywords content.text) {i j : Nat} (hij : i < j) {x y : TypeSite}
    (hi : sites[i]? = some x) (hj : sites[j]? = some y)
    (ha : resolve scanner withConstructors content sites x = .resolved a va)
    (hb : resolve scanner withConstructors content sites y = .resolved b vb) :
    ∃ q : Nat, a.opening < q ∧ q ≤ b.opening ∧
      (a.stop < b.opening ∨ b.stop < a.stop ∧ ((q : Int), b.stop + 1) ∈ a.nested) := by
  obtain ⟨-, hfa, hba, hna, -⟩ := resolve_eq_resolved ha
  obtain ⟨-, hfb, hbb, -, -⟩ := resolve_eq_resolved hb
  obtain ⟨hilt, rfl⟩ := List.getElem?_eq_some_iff.mp hi
  obtain ⟨hjlt, rfl⟩ := List.getElem?_eq_some_iff.mp hj
  have hord := Declaration.typeSites_ordered hkeywords content.text
  rw [← hsites] at hord
  obtain ⟨p, o, q, hp, hq, hfind, hlt⟩ := List.pairwise_iff_getElem.mp hord i j hilt hjlt hij
  rw [hp, hfind] at hfa
  cases hfa
  rw [hq] at hfb
  obtain ⟨hle, -, hbrace, hfirst⟩ := Text.find?_eq_some_iff.mp hfb
  refine ⟨q, hlt, hle, ?_⟩
  by_cases hout : a.stop < b.opening
  · exact Or.inl hout
  · -- The inner block closes within the outer window, so the bounded search finds it too.
    obtain ⟨e', he', hblock, hmatch⟩ := hba.inside hbrace (by omega) (by omega)
    obtain rfl := hblock.unique hbb
    have hlt' := hblock.lt
    refine Or.inr ⟨he', ?_⟩
    rw [hna, ← hq]
    refine mem_nestedSpans (List.getElem_mem hjlt) (by omega) (by omega) (blockOf?_eq_some ?_ hmatch)
    rw [hq]
    exact Text.find?_eq_some_iff.mpr ⟨hle, by omega, hbrace, hfirst⟩

/-- A carved member starts behind the brace of its type and before the end of its window. -/
theorem carved_bounds (hblock : Block content.text a.opening a.stop) {resume : Nat} {r : Carved}
    (hr : r ∈ carved (verdicts withConstructors content a resume
      (Declaration.memberSites withProperties content.text a.opening a.stop))) :
    (a.opening : Int) < r.site.offset ∧ r.site.offset < a.stop := by
  obtain ⟨q, e, hq, h1, h2, -, h3, hx⟩ := carved_block hblock hr
  have := hx.lt
  rw [hq]
  omega

theorem later_type_owns (hkeywords : ∀ k ∈ keywords, '{' ∉ k)
    (hscanner : Scanner.ofKeywords keywords withProperties = .ok scanner) {i j : Nat} (hij : i < j)
    (hi : (run scanner withConstructors content).outcomes[i]? = some (.resolved a va))
    (hj : (run scanner withConstructors content).outcomes[j]? = some (.resolved b vb)) :
    a.opening < b.opening ∧ (a.stop < b.opening ∨ b.Within a) ∧
      ∀ m ∈ carved va, ∀ m' ∈ carved vb, m.site.offset ≠ m'.site.offset := by
  obtain rfl := Scanner.ofKeywords_eq hscanner
  simp only [run, List.getElem?_map, Option.map_eq_some_iff] at hi hj
  obtain ⟨x, hx, ha⟩ := hi
  obtain ⟨y, hy, hb⟩ := hj
  obtain ⟨q, h1, h2, h3⟩ := later_type hkeywords rfl hij hx hy ha hb
  obtain ⟨-, -, hba, -, rfl⟩ := resolve_eq_resolved ha
  obtain ⟨-, -, hbb, -, rfl⟩ := resolve_eq_resolved hb
  refine ⟨by omega, h3.imp_right fun h => ⟨by omega, h.1⟩, ?_⟩
  intro m hm m' hm' he
  have hbound := carved_bounds hba hm
  have hbound' := carved_bounds hbb hm'
  rcases h3 with hout | ⟨-, hspan⟩
  · omega
  · refine not_encloses_of_carved hm ⟨_, hspan, ?_, ?_⟩
    · simp only; omega
    · simp only; omega

/-- Two resolved types have different braces, bodies that are apart or nested, and no member in common. -/
theorem member_has_one_owner (hscanner : Scanner.ofKeywords keywords withProperties = .ok scanner)
    (hkeywords : ∀ k ∈ keywords, '{' ∉ k) {i j : Nat} (hij : i ≠ j)
    (hi : (run scanner withConstructors content).outcomes[i]? = some (.resolved a va))
    (hj : (run scanner withConstructors content).outcomes[j]? = some (.resolved b vb)) :
    a.opening ≠ b.opening ∧ (a.Apart b ∨ a.Within b ∨ b.Within a) ∧
      ∀ m ∈ carved va, ∀ m' ∈ carved vb, m.site.offset ≠ m'.site.offset := by
  rcases Nat.lt_or_gt_of_ne hij with hlt | hlt
  · obtain ⟨h1, h2, h3⟩ := later_type_owns hkeywords hscanner hlt hi hj
    refine ⟨by omega, ?_, h3⟩
    rcases h2 with h2 | h2
    · exact Or.inl (Or.inl h2)
    · exact Or.inr (Or.inr h2)
  · obtain ⟨h1, h2, h3⟩ := later_type_owns hkeywords hscanner hlt hj hi
    refine ⟨by omega, ?_, fun m hm m' hm' he => h3 m' hm' m hm he.symm⟩
    rcases h2 with h2 | h2
    · exact Or.inl (Or.inr h2)
    · exact Or.inr (Or.inl h2)

def nestedText : Text := "class A{class B{int M(){}}int N(){}}".toList

def nestedOuter : Body := ⟨⟨0, ['A'], "class".toList, "class A".toList⟩, 7, 35, [(8, 26)]⟩

def nestedInner : Body := ⟨⟨8, ['B'], "class".toList, "class B".toList⟩, 15, 25, []⟩

theorem nested_method_has_one_owner :
    (run defaultScanner true (.ofText nestedText)).outcomes =
        [.resolved nestedOuter (verdictsIn nestedText nestedOuter), .resolved nestedInner (verdictsIn nestedText nestedInner)] ∧
      ((carved (verdictsIn nestedText nestedOuter)).map (·.site.offset) = [26] ∧
        (carved (verdictsIn nestedText nestedInner)).map (·.site.offset) = [16]) ∧
      nestedOuter.opening ≠ nestedInner.opening ∧
      (nestedOuter.Apart nestedInner ∨ nestedOuter.Within nestedInner ∨ nestedInner.Within nestedOuter) ∧
      ∀ m ∈ carved (verdictsIn nestedText nestedOuter), ∀ m' ∈ carved (verdictsIn nestedText nestedInner),
        m.site.offset ≠ m'.site.offset := by
  have h : (run defaultScanner true (.ofText nestedText)).outcomes =
      [.resolved nestedOuter (verdictsIn nestedText nestedOuter), .resolved nestedInner (verdictsIn nestedText nestedInner)] := by
    rw [defaultScanner_eq]
    decide +kernel
  refine ⟨h, by decide +kernel, ?_⟩
  exact member_has_one_owner ofKeywords_defaultKeywords (by decide) (by decide : 0 ≠ 1) (by rw [h]; rfl) (by rw [h]; rfl)

end TypeSplit.Extraction
