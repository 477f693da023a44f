/-
  TypeSplit.Proofs.Carving — what a resolved type and its carved members are.

  Everything that later results need of an extraction with the built-in scanner, told with offsets: where type
  sites lie and which brace they open, where member sites lie, and which sites become members.
  - `typeSites_ordered`: the brace of a type site lies before the next type site.
  - `memberSite_accepted` / `exists_memberSite`: a member site is an accepted offset of its window, and every site of
    either kind is the place of a member site.
  - `memberSite_block`: every member site of a type opens a block that closes inside the type.
  - `mem_carved` / `carved_covers`: a carved member was judged on its own, and a site that was not excluded lies
    inside a carved member.
-/

import Mathlib.Data.List.Sort
import TypeSplit.Extraction.Basic
import TypeSplit.Proofs.Block
import TypeSplit.Proofs.Grammar

namespace TypeSplit.Source

/-! ## Blocks of braces -/

/-- The brace at `o` is closed by the brace at `e`. -/
structure Block (t : Text) (o e : Nat) : Prop where
  opens : t[o]? = some '{'
  closes : matchBlock? .braces t o none = some (e + 1)

namespace Block

variable {t : Text} {o e : Nat}

theorem lt (h : Block t o e) : o < e := by have := matchBlock?_bounds h.closes; omega

theorem le_length (h : Block t o e) : e + 1 ≤ t.length := (matchBlock?_bounds h.closes).2

/-- The level falls below that of the block at its last character, and only a closing brace lowers it. -/
theorem closing (h : Block t o e) : t[e]? = some '}' := by
  have hlt : e < t.length := h.le_length
  have hget := List.getElem?_eq_getElem hlt
  have hstep := Delimiters.braces.level_succ hget
  have hinside := level_le_of_inside h.closes h.lt (Nat.lt_succ_self e)
  have hclose := level_close h.closes
  have hfall : (Delimiters.braces.effect t[e]).weight < 0 := by omega
  rw [hget, Option.some.injEq]
  by_contra hne
  rw [effect_braces, if_neg hne] at hfall
  split at hfall <;> cases hfall

/-- A brace that opens inside a block is closed inside it, with the end of the block as limit or without one. -/
theorem inside (h : Block t o e) {o' : Nat} (hx : t[o']? = some '{') (h1 : o < o') (h2 : o' ≤ e) :
    ∃ e' < e, Block t o' e' ∧ matchBlock? .braces t o' (some e) = some (e' + 1) := by
  obtain ⟨c, hlt, hc⟩ := matchBlock?_inside h.closes hx (by simp) h1 (by omega)
  have := matchBlock?_bounds hc
  have he : c - 1 + 1 = c := by omega
  exact ⟨c - 1, by omega, ⟨hx, by rw [he]; exact hc⟩, by rw [he]; exact matchBlock?_limit.mpr ⟨hc, by omega⟩⟩

theorem unique {e' : Nat} (h : Block t o e) (h' : Block t o e') : e = e' := by
  have := h.closes.symm.trans h'.closes
  simpa using this

end Block

end TypeSplit.Source

namespace TypeSplit.Declaration

open TypeSplit.Source (Block Cursor Scan Site)

/-! ## Type sites -/

theorem mem_typeSites {keywords : List Text} {t : Text} {x : TypeSite} (h : x ∈ typeSites keywords t) :
    ∃ s ∈ Source.sites (typeHeader keywords) t 0 t.length,
      x.offset = s.start ∧ x.name = s.value.2 ∧ x.keyword = s.value.1 := by
  obtain ⟨s, hs, rfl⟩ := List.mem_map.mp h
  exact ⟨s, hs, rfl, rfl, rfl⟩

theorem typeSites_scan (keywords : List Text) (t : Text) :
    Scan (typeHeader keywords) t 0 (Source.sites (typeHeader keywords) t 0 t.length) := by
  have := Source.sites_scan (typeHeader_advances keywords) (t := t) (Nat.zero_le t.length) (Nat.zero_le _)
  rwa [List.take_length] at this

/-- The first brace behind an accepted header is the one that the header ends with. -/
theorem find?_typeHeader {keywords : List Text} (hk : ∀ k ∈ keywords, '{' ∉ k) {t k name : Text} {q n : Nat}
    (h : typeHeader keywords (.at_ t q) = some ((k, name), n)) :
    0 < n ∧ Text.find? t '{' q t.length = some (q + n - 1) := by
  obtain ⟨-, hd, rest, -, -, hc, rfl⟩ := typeHeader_reads h
  have hopen := hd.open_not_mem (hk _ hd.keyword_mem)
  simp only [Cursor.ahead_at] at hc
  have hget : ∀ i, t[q + i]? = (hd.text ++ '{' :: rest)[i]? := fun i => by rw [← hc, List.getElem?_drop]
  refine ⟨by omega, Text.find?_eq_some_iff.mpr ⟨by omega, ?_, ?_, ?_⟩⟩
  · have : (t.drop q).length = hd.text.length + 1 + rest.length := by rw [hc]; simp; omega
    simp only [List.length_drop] at this
    omega
  · rw [show q + (hd.text.length + 1) - 1 = q + hd.text.length by omega, hget]
    simp
  · intro i h1 h2 hi
    have : q + (i - q) = i := by omega
    rw [← this, hget, List.getElem?_append_left (by omega)] at hi
    exact hopen (List.mem_of_getElem? hi)

/-- A type site with the brace that its header ends with. -/
theorem typeSite_opening {keywords : List Text} (hk : ∀ k ∈ keywords, '{' ∉ k) {t : Text}
    {s : Site (Text × Text)} (hs : s ∈ Source.sites (typeHeader keywords) t 0 t.length) :
    s.start < s.stop ∧ Text.find? t '{' s.start t.length = some (s.stop - 1) := by
  obtain ⟨-, hlt, -, hacc, -⟩ := (typeSites_scan keywords t).accepted hs
  refine ⟨hlt, ?_⟩
  rw [(find?_typeHeader hk hacc).2]
  congr 1
  omega

theorem typeSites_ordered {keywords : List Text} (hk : ∀ k ∈ keywords, '{' ∉ k) (t : Text) :
    (typeSites keywords t).Pairwise fun a b =>
      ∃ q o q' : Nat, a.offset = (q : Int) ∧ b.offset = (q' : Int) ∧ Text.find? t '{' q t.length = some o ∧ o < q' := by
  rw [typeSites, List.pairwise_map]
  refine (typeSites_scan keywords t).ordered.imp_of_mem ?_
  intro a b ha _ hab
  obtain ⟨hlt, hfind⟩ := typeSite_opening hk ha
  exact ⟨a.start, a.stop - 1, b.start, rfl, rfl, hfind, by omega⟩

/-! ## Member sites -/

def MemberKind.accepts : MemberKind → Source.Recogniser Text
  | .method => Declaration.method
  | .property => Declaration.property

theorem MemberKind.reads {kind : MemberKind} {c : Cursor} {name : Text} {n : Nat}
    (h : kind.accepts c = some (name, n)) :
    startsHere c = true ∧ ∃ front inner rest, c.ahead = front ++ '{' :: (inner ++ rest) ∧
      n = front.length + 1 + inner.length ∧ BeginsWord front ∧ Plain front ∧ Braceless inner := by
  cases kind with
  | method => exact member_reads methodTail?_opens h
  | property => exact member_reads propertyTail?_opens h

theorem MemberKind.advances (kind : MemberKind) : kind.accepts.Advances := by
  cases kind with
  | method => exact memberWith_advances methodTail?_opens
  | property => exact memberWith_advances propertyTail?_opens

variable {t : Text} {o e : Nat}

theorem memberSites_scan (kind : MemberKind) (h : o ≤ e) (he : e ≤ t.length) :
    Scan kind.accepts (t.take e) o (Source.sites kind.accepts t o e) :=
  Source.sites_scan kind.advances h (by omega)

theorem mem_memberSitesOf {kind : MemberKind} {accepts : Source.Recogniser Text} {x : MemberSite} :
    x ∈ memberSitesOf kind accepts t o e ↔
      ∃ s ∈ Source.sites accepts t o e, x = ⟨s.start, s.value, kind⟩ := by
  simp only [memberSitesOf, List.mem_map, eq_comm]

theorem mem_memberSites {withProperties : Bool} {x : MemberSite} (h : x ∈ memberSites withProperties t o e) :
    ∃ s ∈ Source.sites x.kind.accepts t o e, x = ⟨s.start, s.value, x.kind⟩ := by
  simp only [memberSites, List.mem_mergeSort, List.mem_append, List.mem_filter] at h
  rcases h with h | ⟨h, -⟩
  · obtain ⟨s, hs, rfl⟩ := mem_memberSitesOf.mp h
    exact ⟨s, hs, rfl⟩
  · split at h
    · obtain ⟨s, hs, rfl⟩ := mem_memberSitesOf.mp h
      exact ⟨s, hs, rfl⟩
    · cases h

/-- A site of either kind is the place of a member site; of two at one place the method stands. -/
theorem exists_memberSite {kind : MemberKind} {s : Site Text} (h : s ∈ Source.sites kind.accepts t o e) :
    ∃ x ∈ memberSites true t o e, x.offset = s.start := by
  simp only [memberSites, List.mem_mergeSort, List.mem_append, List.mem_filter, if_true]
  cases kind with
  | method => exact ⟨_, Or.inl (mem_memberSitesOf.mpr ⟨s, h, rfl⟩), rfl⟩
  | property =>
    by_cases hm : (memberSitesOf .method method t o e).all (fun m => m.offset ≠ s.start) = true
    · exact ⟨_, Or.inr ⟨mem_memberSitesOf.mpr ⟨s, h, rfl⟩, hm⟩, rfl⟩
    · simp only [List.all_eq_true, decide_eq_true_eq, not_forall, not_not] at hm
      obtain ⟨x, hx, he⟩ := hm
      exact ⟨x, Or.inl hx, he⟩

theorem memberSites_sorted (withProperties : Bool) (t : Text) (o e : Nat) :
    (memberSites withProperties t o e).Pairwise fun a b => a.offset ≤ b.offset := by
  apply List.Pairwise.imp (fun {_ _} h => of_decide_eq_true h)
  apply List.pairwise_mergeSort
  · intro a b c h1 h2
    simp only [decide_eq_true_eq] at *
    omega
  · intro a b
    simp only [Bool.or_eq_true, decide_eq_true_eq]
    omega

/-- The sites of one kind follow one another. -/
theorem memberSitesOf_strict (kind : MemberKind) (t : Text) (o e : Nat) :
    (memberSitesOf kind kind.accepts t o e).Pairwise fun a b => a.offset < b.offset := by
  have hscan := Source.sitesFrom_scan kind.advances (.at_ (t.take e) o)
  rw [memberSitesOf, List.pairwise_map]
  refine hscan.ordered.imp_of_mem ?_
  intro a b ha _ hab
  have hlt := (hscan.accepted ha).2.1
  simp only [Int.ofNat_lt]
  omega

/-- What a recogniser sees at a place is one thing. -/
theorem memberSitesOf_inj (kind : MemberKind) {x y : MemberSite} (hx : x ∈ memberSitesOf kind kind.accepts t o e)
    (hy : y ∈ memberSitesOf kind kind.accepts t o e) (h : x.offset = y.offset) : x = y := by
  obtain ⟨s, hs, rfl⟩ := mem_memberSitesOf.mp hx
  obtain ⟨s', hs', rfl⟩ := mem_memberSitesOf.mp hy
  have hscan := Source.sitesFrom_scan kind.advances (.at_ (t.take e) o)
  obtain ⟨-, -, -, hacc, -⟩ := hscan.accepted hs
  obtain ⟨-, -, -, hacc', -⟩ := hscan.accepted hs'
  simp only [Int.natCast_inj] at h
  rw [h, hacc'] at hacc
  simp only [Option.some.injEq, Prod.mk.injEq] at hacc
  rw [h, hacc.1]

/-- No two member sites share a place. -/
theorem memberSites_inj {withProperties : Bool} {x y : MemberSite} (hx : x ∈ memberSites withProperties t o e)
    (hy : y ∈ memberSites withProperties t o e) (h : x.offset = y.offset) : x = y := by
  simp only [memberSites, List.mem_mergeSort, List.mem_append, List.mem_filter, List.all_eq_true,
    decide_eq_true_eq] at hx hy
  have hproperty : ∀ z, z ∈ (if withProperties = true then memberSitesOf .property property t o e else []) →
      z ∈ memberSitesOf .property property t o e := by
    intro z hz
    split at hz
    · exact hz
    · cases hz
  rcases hx with hx | ⟨hx, hxm⟩ <;> rcases hy with hy | ⟨hy, hym⟩
  · exact memberSitesOf_inj .method hx hy h
  · exact absurd h (hym x hx)
  · exact absurd h.symm (hxm y hy)
  · exact memberSitesOf_inj .property (hproperty x hx) (hproperty y hy) h

/-- The member sites follow one another. -/
theorem memberSites_strict (withProperties : Bool) (t : Text) (o e : Nat) :
    (memberSites withProperties t o e).Pairwise fun a b => a.offset < b.offset := by
  have hne (kind : MemberKind) : (memberSitesOf kind kind.accepts t o e).Pairwise fun a b => a.offset ≠ b.offset :=
    (memberSitesOf_strict kind t o e).imp fun h => Int.ne_of_lt h
  have hmerged : (memberSites withProperties t o e).Pairwise fun a b => a.offset ≠ b.offset := by
    refine (List.mergeSort_perm _ _).symm.pairwise ?_ fun h => h.symm
    refine List.pairwise_append.mpr ⟨hne .method, ?_, ?_⟩
    · apply List.Pairwise.filter
      split
      · exact hne .property
      · exact .nil
    · intro m hm p hp
      have := (List.mem_filter.mp hp).2
      simp only [List.all_eq_true, decide_eq_true_eq] at this
      exact this m hm
  exact ((memberSites_sorted withProperties t o e).and hmerged).imp fun h => Int.lt_iff_le_and_ne.mpr h

/-- The member sites put in order one by one, a form that evaluates. -/
def memberSitesInOrder (withProperties : Bool) (t : Text) (start stop : Nat) : List MemberSite :=
  let methods := memberSitesOf .method method t start stop
  let properties := if withProperties then memberSitesOf .property property t start stop else []
  let others := properties.filter fun p => methods.all fun m => m.offset ≠ p.offset
  (methods ++ others).insertionSort fun a b => a.offset ≤ b.offset

theorem memberSites_eq_inOrder (withProperties : Bool) :
    memberSites withProperties = memberSitesInOrder withProperties := by
  funext t o e
  have : Std.Total fun a b : MemberSite => a.offset ≤ b.offset := ⟨fun a b => Int.le_total _ _⟩
  have : IsTrans MemberSite fun a b => a.offset ≤ b.offset := ⟨fun a b c => Int.le_trans⟩
  have hperm : (memberSites withProperties t o e).Perm (memberSitesInOrder withProperties t o e) :=
    (List.mergeSort_perm _ _).trans (List.perm_insertionSort _ _).symm
  refine hperm.eq_of_pairwise ?_ (memberSites_sorted withProperties t o e) (List.pairwise_insertionSort _ _)
  intro a b ha hb h1 h2
  exact memberSites_inj ha (hperm.mem_iff.mpr hb) (Int.le_antisymm h1 h2)

/-- A member site of a window is accepted there, outside comments. -/
theorem memberSite_accepted {withProperties : Bool} {x : MemberSite} (h : o ≤ e) (he : e ≤ t.length)
    (hx : x ∈ memberSites withProperties t o e) :
    ∃ p n : Nat, x.offset = p ∧ o ≤ p ∧ p + n ≤ e ∧ x.kind.accepts (.at_ (t.take e) p) = some (x.name, n) ∧
      (Cursor.at_ (t.take e) p).inLineComment = false := by
  obtain ⟨s, hs, hxs⟩ := mem_memberSites hx
  obtain ⟨h1, h2, h3, h4, h5⟩ := (memberSites_scan x.kind h he).accepted hs
  rw [List.length_take] at h3
  rw [hxs]
  exact ⟨s.start, s.stop - s.start, rfl, h1, by omega, h4, h5⟩

/-- An accepted match begins with a character of a word. -/
theorem MemberKind.begins {kind : MemberKind} {p n : Nat} {name : Text}
    (h : kind.accepts (.at_ (t.take e) p) = some (name, n)) : ∃ x, t[p]? = some x ∧ Text.isWord x = true := by
  obtain ⟨-, front, inner, rest, hc, -, ⟨x, r, rfl, hx⟩, -, -⟩ := MemberKind.reads h
  have hp : (t.take e)[p]? = some x := by
    have hdrop : ((t.take e).drop p)[0]? = (x :: r ++ '{' :: (inner ++ rest))[0]? := congrArg (·[0]?) hc
    simpa using hdrop
  rw [List.getElem?_take] at hp
  split at hp
  · exact ⟨x, hp, hx⟩
  · cases hp

/-- An accepted match takes in an opening brace. -/
theorem MemberKind.brace {kind : MemberKind} {p n : Nat} {name : Text}
    (h : kind.accepts (.at_ (t.take e) p) = some (name, n)) :
    t[p]? ≠ some '{' ∧ ∃ b, p < b ∧ b < p + n ∧ b < e ∧ t[b]? = some '{' := by
  obtain ⟨y, hy, hyw⟩ := MemberKind.begins h
  obtain ⟨-, front, inner, rest, hc, rfl, ⟨x, r, rfl, -⟩, -, -⟩ := MemberKind.reads h
  simp only [Cursor.ahead_at] at hc
  have hget : ∀ i, (t.take e)[p + i]? = (x :: r ++ '{' :: (inner ++ rest))[i]? := fun i => by
    rw [← hc, List.getElem?_drop]
  have hb := hget (x :: r).length
  rw [List.getElem?_append_right (Nat.le_refl _), Nat.sub_self, List.getElem?_cons_zero, List.getElem?_take] at hb
  split at hb
  · refine ⟨?_, p + (x :: r).length, by simp, by omega, ‹_›, hb⟩
    rw [hy]
    rintro ⟨⟩
    exact absurd hyw (by decide)
  · cases hb

/-- Every member site of a type opens a block that closes inside the type. -/
theorem memberSite_block {withProperties : Bool} {x : MemberSite} (h : Block t o e)
    (hx : x ∈ memberSites withProperties t o e) :
    ∃ p b c : Nat, x.offset = p ∧ o < p ∧ p < b ∧ c < e ∧ Block t b c ∧ Text.find? t '{' p e = some b ∧
      Source.matchBlock? .braces t b (some e) = some (c + 1) := by
  have hlt := h.lt
  have hlen := h.le_length
  obtain ⟨p, n, hp, h1, -, hacc, -⟩ := memberSite_accepted (Nat.le_of_lt hlt) (by omega) hx
  obtain ⟨hne, b, hb1, -, hb2, hb⟩ := MemberKind.brace hacc
  have hop : o < p := by
    rcases Nat.lt_or_eq_of_le h1 with h1 | rfl
    · exact h1
    · exact absurd h.opens hne
  cases hf : Text.find? t '{' p e with
  | none => exact absurd hb (Text.find?_eq_none_iff.mp hf b (by omega) hb2)
  | some b' =>
    obtain ⟨h3, h4, h5, -⟩ := Text.find?_eq_some_iff.mp hf
    obtain ⟨c, hc, hblock, hmatch⟩ := h.inside h5 (by omega) (by omega)
    refine ⟨p, b', c, hp, hop, ?_, hc, hblock, hf, hmatch⟩
    rcases Nat.lt_or_eq_of_le h3 with h3 | rfl
    · exact h3
    · exact absurd h5 hne

end TypeSplit.Declaration

namespace TypeSplit.Extraction

open TypeSplit.Declaration (TypeSite MemberSite)
open TypeSplit.Source (Block matchBlock?)

deriving instance DecidableEq for Body
deriving instance DecidableEq for Outcome

/-! ## Resolved types -/

def carved (verdicts : List Verdict) : List Carved := verdicts.filterMap Verdict.carved?

variable {scanner : Scanner} {withConstructors : Bool} {content : Content} {sites : List TypeSite} {site : TypeSite}
  {body : Body} {vs : List Verdict}

theorem resolve_eq_resolved (h : resolve scanner withConstructors content sites site = .resolved body vs) :
    body.owner = site ∧ Text.find? content.text '{' site.offset content.text.length = some body.opening ∧
      Block content.text body.opening body.stop ∧
      body.nested = nestedSpans content.text sites body.opening body.stop ∧
      vs = verdicts withConstructors content body body.opening
        (scanner.memberSites content.text body.opening body.stop) := by
  simp only [resolve] at h
  split at h
  · cases h
  · rename_i o hfind
    split at h
    · cases h
    · rename_i c hmatch
      cases h
      have := Source.matchBlock?_bounds hmatch
      refine ⟨rfl, hfind, ⟨?_, ?_⟩, rfl, rfl⟩
      · exact (Text.of_find? hfind).1
      · rw [show c - 1 + 1 = c by omega]
        exact hmatch

theorem Scanner.ofKeywords_eq {keywords : List Text} {withProperties : Bool}
    (h : Scanner.ofKeywords keywords withProperties = .ok scanner) :
    scanner = ⟨Declaration.typeSites keywords, Declaration.memberSites withProperties⟩ := by
  simp only [Scanner.ofKeywords] at h
  split at h
  · cases h
  · cases h; rfl

theorem distinct_defaultKeywords : Declaration.Distinct defaultKeywords := by
  unfold Declaration.Distinct
  decide

def defaultScanner : Scanner := ⟨Declaration.typeSites defaultKeywords, Declaration.memberSites true⟩

theorem ofKeywords_defaultKeywords : Scanner.ofKeywords defaultKeywords true = .ok defaultScanner := rfl

/-- What a resolved type is, for the usual scanner. -/
theorem resolved_defaultScanner {i : Nat}
    (h : (run defaultScanner withConstructors content).outcomes[i]? = some (.resolved body vs)) :
    Block content.text body.opening body.stop ∧
      vs = verdicts withConstructors content body body.opening
        (Declaration.memberSites true content.text body.opening body.stop) := by
  simp only [run, List.getElem?_map, Option.map_eq_some_iff] at h
  obtain ⟨site, -, hres⟩ := h
  obtain ⟨-, -, hbody, -, hvs⟩ := resolve_eq_resolved hres
  exact ⟨hbody, hvs⟩

def verdictsIn (t : Text) (body : Body) : List Verdict :=
  verdicts true (.ofText t) body body.opening (Declaration.memberSitesInOrder true t body.opening body.stop)

/-- The same scanner in a form that evaluates. -/
theorem defaultScanner_eq :
    defaultScanner = ⟨Declaration.typeSites defaultKeywords, Declaration.memberSitesInOrder true⟩ := by
  rw [defaultScanner, Declaration.memberSites_eq_inOrder]

/-! ## Verdicts -/

/-- The offset lies in a type that is declared inside the body. -/
def Body.Encloses (body : Body) (offset : Int) : Prop := ∃ r ∈ body.nested, r.1 ≤ offset ∧ offset < r.2

theorem encloses_iff {offset : Int} :
    (body.nested.any fun (start, stop) => start ≤ offset && offset < stop) = true ↔ body.Encloses offset := by
  simp [Body.Encloses, List.any_eq_true]

theorem judge_eq_carved {resume : Nat} {x : MemberSite} {r : Carved}
    (h : judge withConstructors content body resume x = .carved r) :
    r.site = x ∧ resume ≤ x.offset ∧ ¬ body.Encloses x.offset ∧
      (withConstructors = true ∨ x.name ≠ body.owner.name) ∧
      Text.find? content.text '{' x.offset body.stop = some r.opening ∧
      matchBlock? .braces content.text r.opening (some body.stop) = some r.close ∧
      r.member = memberAt content x r.opening r.close := by
  simp only [judge] at h
  split at h
  · cases h
  · rename_i hres
    split at h
    · cases h
    · rename_i hnest
      split at h
      · cases h
      · rename_i hctor
        split at h
        · cases h
        · rename_i o hfind
          split at h
          · cases h
          · rename_i c hmatch
            cases h
            refine ⟨rfl, by omega, fun hn => hnest (encloses_iff.mpr hn), ?_, hfind, hmatch, rfl⟩
            cases withConstructors with
            | true => exact Or.inl rfl
            | false => right; simpa using hctor

/-- A site is carved if nothing excludes it. -/
theorem judge_carves {resume o c : Nat} {x : MemberSite} (hres : resume ≤ x.offset) (hn : ¬ body.Encloses x.offset)
    (hctor : withConstructors = true ∨ x.name ≠ body.owner.name)
    (hfind : Text.find? content.text '{' x.offset body.stop = some o)
    (hmatch : matchBlock? .braces content.text o (some body.stop) = some c) :
    judge withConstructors content body resume x = .carved ⟨x, o, c, memberAt content x o c⟩ := by
  have h1 : ¬ x.offset < resume := by omega
  have h2 : ¬ (body.nested.any fun (start, stop) => start ≤ x.offset && x.offset < stop) = true :=
    fun h => hn (encloses_iff.mp h)
  have h3 : ¬ (!withConstructors && x.name == body.owner.name) = true := by
    rcases hctor with h | h <;> simp [h]
  simp only [judge, if_neg h1, if_neg h2, if_neg h3, hfind, hmatch]

variable {resume : Nat} {xs : List MemberSite}

theorem carved_cons {x : MemberSite} :
    carved (verdicts withConstructors content body resume (x :: xs)) =
      (judge withConstructors content body resume x).carved?.toList ++
        carved (verdicts withConstructors content body
          (((judge withConstructors content body resume x).carved?.map (·.close)).getD resume) xs) := by
  simp only [verdicts, carved, List.filterMap_cons]
  cases (judge withConstructors content body resume x).carved? with
  | none => rfl
  | some r => rfl

theorem Verdict.carved?_eq_some {v : Verdict} {r : Carved} (h : v.carved? = some r) : v = .carved r := by
  cases v <;> simp_all [Verdict.carved?]

/-- A carved member comes from a site that was judged when everything before some `resume` was carved. -/
theorem mem_carved {r : Carved} (h : r ∈ carved (verdicts withConstructors content body resume xs)) :
    r.site ∈ xs ∧ ∃ resume', judge withConstructors content body resume' r.site = .carved r := by
  induction xs generalizing resume with
  | nil => cases h
  | cons x xs ih =>
    rw [carved_cons, List.mem_append, Option.mem_toList] at h
    rcases h with h | h
    · have hj := Verdict.carved?_eq_some h
      have hx := (judge_eq_carved hj).1
      exact ⟨by rw [hx]; exact List.mem_cons_self, resume, by rw [hx]; exact hj⟩
    · obtain ⟨hx, hj⟩ := ih h
      exact ⟨List.mem_cons_of_mem _ hx, hj⟩

theorem not_encloses_of_carved {r : Carved} (h : r ∈ carved (verdicts withConstructors content body resume xs)) :
    ¬ body.Encloses r.site.offset := by
  obtain ⟨-, _, hj⟩ := mem_carved h
  exact (judge_eq_carved hj).2.2.1

/-- A site that nothing excludes lies inside a carved member, its own or an earlier one. -/
theorem carved_covers (hsorted : xs.Pairwise fun a b => a.offset ≤ b.offset) {x : MemberSite} (hx : x ∈ xs)
    (hres : resume ≤ x.offset) (hn : ¬ body.Encloses x.offset)
    (hctor : withConstructors = true ∨ x.name ≠ body.owner.name) {o c : Nat} (hoc : x.offset < c)
    (hfind : Text.find? content.text '{' x.offset body.stop = some o)
    (hmatch : matchBlock? .braces content.text o (some body.stop) = some c) :
    ∃ r ∈ carved (verdicts withConstructors content body resume xs), r.site.offset ≤ x.offset ∧ x.offset < r.close := by
  induction xs generalizing resume with
  | nil => cases hx
  | cons y xs ih =>
    rw [carved_cons]
    rcases List.mem_cons.mp hx with rfl | hmem
    · rw [judge_carves hres hn hctor hfind hmatch]
      exact ⟨⟨x, o, c, memberAt content x o c⟩, List.mem_append_left _ (by simp [Verdict.carved?]), Int.le_refl _, hoc⟩
    · obtain ⟨hle, hsorted⟩ := List.pairwise_cons.mp hsorted
      -- Either the member carved at `y` takes `x` in, or `x` is judged later from the new `resume`.
      cases hj : (judge withConstructors content body resume y).carved? with
      | none =>
        obtain ⟨r, hr, h⟩ := ih hsorted hmem hres
        exact ⟨r, List.mem_append_right _ hr, h⟩
      | some r =>
        by_cases hlt : x.offset < r.close
        · have hy := (judge_eq_carved (Verdict.carved?_eq_some hj)).1
          exact ⟨r, List.mem_append_left _ (by simp), by rw [hy]; exact hle x hmem, hlt⟩
        · obtain ⟨r', hr, h⟩ := ih hsorted hmem (by simpa using hlt : (r.close : Int) ≤ x.offset)
          exact ⟨r', List.mem_append_right _ hr, h⟩

/-- A carved member opens a block inside the body. -/
theorem carved_block {withProperties withConstructors : Bool} {resume : Nat}
    (hbody : Block content.text body.opening body.stop) {r : Carved}
    (hr : r ∈ carved (verdicts withConstructors content body resume
      (Declaration.memberSites withProperties content.text body.opening body.stop))) :
    ∃ q e : Nat, r.site.offset = q ∧ body.opening < q ∧ q < r.opening ∧ r.close = e + 1 ∧ e < body.stop ∧
      Block content.text r.opening e := by
  obtain ⟨hmem, _, hj⟩ := mem_carved hr
  obtain ⟨-, -, -, -, hfind, hmatch, -⟩ := judge_eq_carved hj
  obtain ⟨q, b, e, hq, h1, h2, h3, hblock, hf, hm⟩ := Declaration.memberSite_block hbody hmem
  rw [hq, hf, Option.some.injEq] at hfind
  subst hfind
  rw [hm, Option.some.injEq] at hmatch
  exact ⟨q, e, hq, h1, h2, hmatch.symm, h3, hblock⟩

theorem carved_from {r : Carved} (hx : ∀ x ∈ xs, ∃ p : Nat, x.offset = p)
    (h : r ∈ carved (verdicts withConstructors content body resume xs)) : resume ≤ r.site.offset ∧ r.site.offset < r.close := by
  induction xs generalizing resume with
  | nil => cases h
  | cons x xs ih =>
    rw [carved_cons, List.mem_append, Option.mem_toList] at h
    have hjudged : ∀ r, (judge withConstructors content body resume x).carved? = some r →
        resume ≤ r.site.offset ∧ r.site.offset < r.close := by
      intro r hr
      obtain ⟨hsite, hres, -, -, hfind, hmatch, -⟩ := judge_eq_carved (Verdict.carved?_eq_some hr)
      obtain ⟨p, hp⟩ := hx x List.mem_cons_self
      rw [hp] at hfind
      obtain ⟨hle, -⟩ := Text.find?_eq_some_iff.mp hfind
      have := Source.matchBlock?_bounds (Source.matchBlock?_limit.mp hmatch).1
      rw [hsite]
      omega
    rcases h with h | h
    · exact hjudged r h
    · obtain ⟨h1, h2⟩ := ih (fun y hy => hx y (List.mem_cons_of_mem _ hy)) h
      refine ⟨?_, h2⟩
      cases hj : (judge withConstructors content body resume x).carved? with
      | none => simpa [hj] using h1
      | some r' =>
        obtain ⟨h3, h4⟩ := hjudged r' hj
        simp only [hj, Option.map_some, Option.getD_some] at h1
        omega

/-- Every carved member ends before the next one starts. -/
theorem carved_ordered (hx : ∀ x ∈ xs, ∃ p : Nat, x.offset = p) :
    (carved (verdicts withConstructors content body resume xs)).Pairwise fun a b => (a.close : Int) ≤ b.site.offset := by
  induction xs generalizing resume with
  | nil => exact .nil
  | cons x xs ih =>
    have hrest : ∀ y ∈ xs, ∃ p : Nat, y.offset = p := fun y hy => hx y (List.mem_cons_of_mem _ hy)
    rw [carved_cons]
    cases hj : (judge withConstructors content body resume x).carved? with
    | none => exact ih hrest
    | some r => exact .cons (fun r' hr' => (carved_from hrest hr').1) (ih hrest)

/-! ## Declarations and warnings -/

theorem declare_members (t namespaceName : Text) (body : Body) (vs : List Verdict) :
    (declare t namespaceName body vs).members = (carved vs).map (·.member) := by
  rw [declare, carved, List.map_filterMap]

theorem judge_warning? {x : MemberSite} {o c : Nat}
    (hfind : Text.find? content.text '{' x.offset body.stop = some o)
    (hmatch : matchBlock? .braces content.text o (some body.stop) = some c) :
    (judge withConstructors content body resume x).warning? = none := by
  simp only [judge, hfind, hmatch]
  split
  · rfl
  · split
    · rfl
    · split <;> rfl

/-- There is no warning if every site opens a block that closes inside the body. -/
theorem warnings_eq_nil (h : ∀ x ∈ xs, ∃ o c, Text.find? content.text '{' x.offset body.stop = some o ∧
      matchBlock? .braces content.text o (some body.stop) = some c) :
    (verdicts withConstructors content body resume xs).filterMap Verdict.warning? = [] := by
  induction xs generalizing resume with
  | nil => rfl
  | cons x xs ih =>
    obtain ⟨o, c, hfind, hmatch⟩ := h x List.mem_cons_self
    rw [verdicts, List.filterMap_cons, judge_warning? hfind hmatch]
    exact ih fun y hy => h y (List.mem_cons_of_mem _ hy)

end TypeSplit.Extraction
