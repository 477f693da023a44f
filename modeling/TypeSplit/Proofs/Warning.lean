/-
  TypeSplit.Proofs.Warning — what an extraction can warn of.

  There are four causes of a warning, and with a scanner that looks for keywords only one of them comes up. The
  match of a type site ends with a brace, so a type site always has one to open its body with (`typeSite_brace`).
  The match of a member site takes in a brace too, it does not begin with the brace of the type, and a block that
  opens inside a block closes inside it, so a member site of a resolved type always has a body in the window of
  the type (`memberSite_block`). What is left is a type whose own block does not close.
  - `resolve_warnings`: a type site is warned of exactly if its block does not close, and then once.
  - `only_unclosed_types_warn`: so the warnings of an extraction are its unclosed types, in their order.
-/

import TypeSplit.Proofs.Carving

namespace TypeSplit.Declaration

/-- A type site has a brace to open its body with, whatever its keyword is made of. -/
theorem typeSite_brace {keywords : List Text} {t : Text} {x : TypeSite} (hx : x ∈ typeSites keywords t) :
    ∃ o, Text.find? t '{' x.offset t.length = some o := by
  obtain ⟨s, hs, hoffset, -, -⟩ := mem_typeSites hx
  obtain ⟨-, -, -, hacc, -⟩ := (typeSites_scan keywords t).accepted hs
  obtain ⟨-, header, rest, -, -, hahead, -⟩ := typeHeader_reads hacc
  have hbrace : t[s.start + header.text.length]? = some '{' := by
    rw [← List.getElem?_drop, ← Source.Cursor.ahead_at, hahead]
    simp
  have hlt : s.start + header.text.length < t.length := (List.getElem?_eq_some_iff.mp hbrace).1
  rw [hoffset]
  cases hfind : Text.find? t '{' s.start t.length with
  | some o => exact ⟨o, rfl⟩
  | none => exact absurd hbrace (Text.find?_eq_none_iff.mp hfind _ (by omega) hlt)

end TypeSplit.Declaration

namespace TypeSplit.Extraction

open TypeSplit.Declaration (TypeSite)
open TypeSplit.Source (Block lineOf matchBlock?)

def closes (t : Text) (site : TypeSite) : Bool :=
  ((Text.find? t '{' site.offset t.length).bind fun o => matchBlock? .braces t o none).isSome

def unclosed (t : Text) (site : TypeSite) : Warning := ⟨.unmatchedType, site.offset, lineOf t site.offset, site.name⟩

variable {keywords : List Text} {withProperties withConstructors : Bool} {content : Content} {sites : List TypeSite}
  {site : TypeSite}

/-- A resolved type warns of none of its member sites. -/
theorem resolved_warnings {body : Body} {vs : List Verdict}
    (h : resolve ⟨Declaration.typeSites keywords, Declaration.memberSites withProperties⟩ withConstructors content sites
      site = .resolved body vs) : (Outcome.resolved body vs).warnings = [] := by
  obtain ⟨-, -, hblock, -, rfl⟩ := resolve_eq_resolved h
  apply warnings_eq_nil
  intro x hx
  obtain ⟨p, b, c, hp, -, -, -, -, hfind, hmatch⟩ := Declaration.memberSite_block hblock hx
  exact ⟨b, c + 1, hp ▸ hfind, hmatch⟩

/-- A type site is warned of exactly if its block does not close. -/
theorem resolve_warnings (hsite : site ∈ Declaration.typeSites keywords content.text) :
    (resolve ⟨Declaration.typeSites keywords, Declaration.memberSites withProperties⟩ withConstructors content sites
      site).warnings = if closes content.text site then [] else [unclosed content.text site] := by
  obtain ⟨o, hfind⟩ := Declaration.typeSite_brace hsite
  cases hmatch : matchBlock? .braces content.text o none with
  | none =>
    have hopen : closes content.text site = false := by simp [closes, hfind, hmatch]
    simp [resolve, hfind, hmatch, hopen, Outcome.warnings, unclosed]
  | some c =>
    have hclosed : closes content.text site = true := by simp [closes, hfind, hmatch]
    rw [if_pos hclosed]
    cases hres : resolve ⟨Declaration.typeSites keywords, Declaration.memberSites withProperties⟩ withConstructors
        content sites site with
    | resolved body vs => exact resolved_warnings hres
    | skipped w => simp [resolve, hfind, hmatch] at hres

theorem flatMap_ite {α β : Type} (p : α → Bool) (f : α → β) (xs : List α) :
    (xs.flatMap fun x => if p x then [] else [f x]) = (xs.filter (!p ·)).map f := by
  induction xs with
  | nil => rfl
  | cons x xs ih => cases hx : p x <;> simp [hx, ih]

/-- Every warning of an extraction is of a type that is not closed. Every type site has a brace, and every member site of
a resolved type has its own brace and the brace that closes it inside the window of the type. -/
theorem only_unclosed_types_warn (hkeywords : keywords ≠ []) (withProperties withConstructors : Bool)
    (content : Content) :
    ∃ scanner, Scanner.ofKeywords keywords withProperties = .ok scanner ∧
      (run scanner withConstructors content).warnings =
        ((scanner.typeSites content.text).filter (!closes content.text ·)).map (unclosed content.text) ∧
      (∀ w ∈ (run scanner withConstructors content).warnings, w.cause = .unmatchedType) ∧
      (∀ site ∈ scanner.typeSites content.text,
        ∃ o, Text.find? content.text '{' site.offset content.text.length = some o) ∧
      ∀ body vs, .resolved body vs ∈ (run scanner withConstructors content).outcomes →
        ∀ x ∈ scanner.memberSites content.text body.opening body.stop, ∃ p b c : Nat,
          x.offset = p ∧ body.opening < p ∧ Text.find? content.text '{' p body.stop = some b ∧
            Block content.text b c ∧ c < body.stop := by
  have hscanner : Scanner.ofKeywords keywords withProperties =
      .ok ⟨Declaration.typeSites keywords, Declaration.memberSites withProperties⟩ := by
    simp [Scanner.ofKeywords, hkeywords]
  have hwarnings : (run ⟨Declaration.typeSites keywords, Declaration.memberSites withProperties⟩ withConstructors
      content).warnings = ((Declaration.typeSites keywords content.text).filter (!closes content.text ·)).map
        (unclosed content.text) := by
    rw [← flatMap_ite, warnings, run, List.flatMap_map]
    exact List.flatMap_congr fun site hsite => resolve_warnings hsite
  refine ⟨_, hscanner, hwarnings, ?_, fun site hsite => Declaration.typeSite_brace hsite, ?_⟩
  · intro w hw
    rw [hwarnings] at hw
    obtain ⟨site, -, rfl⟩ := List.mem_map.mp hw
    rfl
  · intro body vs hbody x hx
    obtain ⟨site, -, hres⟩ := List.mem_map.mp hbody
    obtain ⟨-, -, hblock, -, -⟩ := resolve_eq_resolved hres
    obtain ⟨p, b, c, hp, hlo, -, hhi, hx, hfind, -⟩ := Declaration.memberSite_block hblock hx
    exact ⟨p, b, c, hp, hlo, hfind, hx, hhi⟩

def openText : Text := "class B{int M(){}}class A\x7bvoid N(){}".toList

theorem open_type_warns :
    defaultKeywords ≠ [] ∧ ∃ scanner, Scanner.ofKeywords defaultKeywords true = .ok scanner ∧
      (run scanner true (.ofText openText)).warnings = [⟨.unmatchedType, 18, 1, ['A']⟩] ∧
      (∀ w ∈ (run scanner true (.ofText openText)).warnings, w.cause = .unmatchedType) ∧
      (∀ site ∈ scanner.typeSites openText, ∃ o, Text.find? openText '{' site.offset openText.length = some o) ∧
      ∀ body vs, .resolved body vs ∈ (run scanner true (.ofText openText)).outcomes →
        ∀ x ∈ scanner.memberSites openText body.opening body.stop, ∃ p b c : Nat,
          x.offset = p ∧ body.opening < p ∧ Text.find? openText '{' p body.stop = some b ∧
            Block openText b c ∧ c < body.stop := by
  obtain ⟨scanner, hscanner, hwarnings, hrest⟩ :=
    only_unclosed_types_warn (by decide : defaultKeywords ≠ []) true true (.ofText openText)
  refine ⟨by decide, scanner, hscanner, ?_, hrest⟩
  rw [hwarnings, Scanner.ofKeywords_eq hscanner]
  decide +kernel

end TypeSplit.Extraction
