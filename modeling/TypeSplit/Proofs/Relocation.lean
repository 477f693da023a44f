/-
  TypeSplit.Proofs.Relocation — the same declarations at other offsets.

  A text may hold the declarations of another one at other offsets and on other lines. A `Relocation` says where offsets
  and lines come to lie, and what becomes of the pieces that are cut out between offsets. What the two texts must have in
  common is little (`Relocation.Carries`): the order of offsets, the braces and what they close, and the lines. The
  extraction asks for nothing else, so everything it decides is decided alike and told at the new places.
  - `Scan.moved`: a walk over the sites of a text is a walk over the other text.
  - `judge_moved` / `verdicts_moved`: the verdict on one site, and from it the verdicts on all.
  - `outcomes_moved`, `types_moved`, `warnings_moved`: the extraction as a whole.
-/

import TypeSplit.Proofs.Carving

namespace TypeSplit.Source

/-! ## Sites -/

section

variable {α : Type} {accepts : Recogniser α} {place : Nat → Nat} {t t' w w' : Text} {i : Nat}

def Site.moved (place : Nat → Nat) (s : Site α) : Site α := ⟨place s.start, place s.stop, s.value⟩

/-- The recogniser accepts where the places of a text come to lie in another one as it does in the text, and nowhere
between. -/
structure Recogniser.Moves (accepts : Recogniser α) (place : Nat → Nat) (w w' : Text) : Prop where
  lt_iff : ∀ {i j}, place i < place j ↔ i < j
  length : place w.length = w'.length
  same : ∀ i, accepts (.at_ w' (place i)) = (accepts (.at_ w i)).map fun x => (x.1, place (i + x.2) - place i)
  comment : ∀ i, (Cursor.at_ w' (place i)).inLineComment = (Cursor.at_ w i).inLineComment
  between : ∀ {k}, place 0 ≤ k → (∃ i, k = place i) ∨ Passed accepts w' k

namespace Recogniser.Moves

theorem le_iff (h : accepts.Moves place w w') {i j : Nat} : place i ≤ place j ↔ i ≤ j := by
  rw [← Nat.not_lt, h.lt_iff, Nat.not_lt]

theorem passed (h : accepts.Moves place w w') (hp : Passed accepts w i) : Passed accepts w' (place i) := by
  rw [Passed, h.same, h.comment]
  rcases hp with hnone | hcomment
  · exact .inl (by rw [hnone, Option.map_none])
  · exact .inr hcomment

theorem passed_from (h : accepts.Moves place w w') {k : Nat} (hik : place i ≤ k)
    (hall : ∀ l, i ≤ l → place l = k → Passed accepts w l) : Passed accepts w' k := by
  rcases h.between (Nat.le_trans (h.le_iff.mpr (Nat.zero_le i)) hik) with ⟨l, rfl⟩ | hpassed
  · exact h.passed (hall l (h.le_iff.mp hik) rfl)
  · exact hpassed

end Recogniser.Moves

/-- A walk over a text is a walk over the other text. -/
theorem Scan.moved {s : List (Site α)} (h : accepts.Moves place w w') (hscan : Scan accepts w i s) :
    Scan accepts w' (place i) (s.map (Site.moved place)) := by
  induction hscan with
  | done i hdone =>
    refine .done _ fun k h1 h2 => h.passed_from h1 fun l hl hk => hdone l hl ?_
    rwa [← hk, ← h.length, h.le_iff] at h2
  | pass i j s hij hpass _ ih =>
    refine .pass _ (place j) _ (h.le_iff.mpr hij) (fun k h1 h2 => ?_) ih
    refine h.passed_from h1 fun l hl hk => hpass l hl ?_
    rwa [← hk, h.lt_iff] at h2
  | take i n a s ha hc hle hpos _ ih =>
    have hlt : place i < place (i + n) := h.lt_iff.mpr (by omega)
    have hlen : place i + (place (i + n) - place i) = place (i + n) := by omega
    have haccepts : accepts (.at_ w' (place i)) = some (a, place (i + n) - place i) := by rw [h.same, ha]; rfl
    have hend : place (i + n) ≤ w'.length := by
      rw [← h.length, h.le_iff]
      exact hle
    rw [← hlen] at ih hend
    have := Scan.take _ _ a _ haccepts (by rw [h.comment, hc]) hend (by omega) ih
    rwa [hlen] at this

/-- A scan of a window finds the same sites in the window of the other text. -/
theorem sites_moved {start stop stop' : Nat} (ha : accepts.Advances) (h : accepts.Moves place (t.take stop) (t'.take stop'))
    (h1 : start ≤ stop) (h2 : start ≤ t.length) :
    sites accepts t' (place start) stop' = (sites accepts t start stop).map (Site.moved place) := by
  have hstart : place start ≤ (t'.take stop').length := by
    rw [← h.length, h.le_iff, List.length_take]
    omega
  exact (sites_scan_in (ha.advancesIn _ _) hstart).unique ((sites_scan ha h1 h2).moved h)

end

/-! ## Texts with the same declarations -/

/-- Where offsets and lines of a text come to lie in another one, and what becomes of a piece of the text. -/
structure Relocation where
  offset : Nat → Nat
  line : Nat → Nat
  piece : Text → Text

/-- What a text with the same declarations has in common with a text, apart from what the recognisers see. -/
structure Relocation.Carries (m : Relocation) (t t' : Text) : Prop where
  lt_iff : ∀ {p q}, m.offset p < m.offset q ↔ p < q
  length : m.offset t.length = t'.length
  next : ∀ {p c}, t[p]? = some c → c ≠ '\n' → m.offset (p + 1) = m.offset p + 1
  opens : ∀ {i}, t'[i]? = some '{' ↔ ∃ p, i = m.offset p ∧ t[p]? = some '{'
  closes : ∀ {o}, t[o]? = some '{' →
    matchBlock? .braces t' (m.offset o) none = (matchBlock? .braces t o none).map m.offset
  piece : ∀ {p q}, p ≤ q → (t'.take (m.offset q)).drop (m.offset p) = m.piece ((t.take q).drop p)
  strip : ∀ u, Text.strip (m.piece u) = m.piece (Text.strip u)
  visibility : ∀ u, Declaration.visibilityOf (m.piece u) = Declaration.visibilityOf u
  line : ∀ p : Nat, lineOf t' (m.offset p) = m.line (lineOf t p)
  column : ∀ {p}, p ≤ t.length →
    (m.offset p : Int) - ((lineStart? t' (m.line (lineOf t p))).getD 0 : Nat) =
      (p : Int) - ((lineStart? t (lineOf t p)).getD 0 : Nat)
  lines : ∀ {s}, 0 < s → ∀ e, ((lines t').take (m.line e)).drop (m.line s - 1) = ((lines t).take e).drop (s - 1)

namespace Relocation.Carries

variable {m : Relocation} {t t' : Text} {o c : Nat}

theorem le_iff (h : m.Carries t t') {p q : Nat} : m.offset p ≤ m.offset q ↔ p ≤ q := by
  rw [← Nat.not_lt, h.lt_iff, Nat.not_lt]

theorem find? (h : m.Carries t t') (p e : Nat) :
    Text.find? t' '{' (m.offset p) (m.offset e) = (Text.find? t '{' p e).map m.offset := by
  cases hf : Text.find? t '{' p e with
  | none =>
    rw [Text.find?_eq_none_iff] at hf
    refine Text.find?_eq_none_iff.mpr fun i h1 h2 hi => ?_
    obtain ⟨j, rfl, hj⟩ := h.opens.mp hi
    exact hf j (h.le_iff.mp h1) (h.lt_iff.mp h2) hj
  | some o =>
    obtain ⟨h1, h2, h3, h4⟩ := Text.find?_eq_some_iff.mp hf
    refine Text.find?_eq_some_iff.mpr ⟨h.le_iff.mpr h1, h.lt_iff.mpr h2, h.opens.mpr ⟨o, rfl, h3⟩, ?_⟩
    intro i hpi hio hi
    obtain ⟨j, rfl, hj⟩ := h.opens.mp hi
    exact h4 j (h.le_iff.mp hpi) (h.lt_iff.mp hio) hj

theorem closes_before (h : m.Carries t t') (ho : t[o]? = some '{') (e : Nat) :
    matchBlock? .braces t' (m.offset o) (some (m.offset e)) = (matchBlock? .braces t o (some e)).map m.offset := by
  refine Option.ext fun c => ?_
  rw [matchBlock?_limit, h.closes ho, Option.map_eq_some_iff, Option.map_eq_some_iff]
  constructor
  · rintro ⟨⟨b, hb, rfl⟩, hle⟩
    exact ⟨b, matchBlock?_limit.mpr ⟨hb, h.le_iff.mp hle⟩, rfl⟩
  · rintro ⟨b, hb, rfl⟩
    obtain ⟨hb, hle⟩ := matchBlock?_limit.mp hb
    exact ⟨⟨b, hb, rfl⟩, h.le_iff.mpr hle⟩

/-- The brace that closes a block is no newline, so the place behind it moves as far as its own place. -/
theorem offset_close (h : m.Carries t t') (ho : t[o]? = some '{') (hc : matchBlock? .braces t o none = some c) :
    m.offset c = m.offset (c - 1) + 1 := by
  have hpos : c - 1 + 1 = c := by have := matchBlock?_bounds hc; omega
  have hblock : Block t o (c - 1) := ⟨ho, by rw [hpos, hc]⟩
  have := h.next hblock.closing (by decide)
  rwa [hpos] at this

theorem slice (h : m.Carries t t') {p q : Nat} (hpq : p ≤ q) :
    Text.slice t' (m.offset p) (m.offset q) = m.piece (Text.slice t p q) := by
  rw [Text.slice_natCast, Text.slice_natCast, h.piece hpq]

end Relocation.Carries

end TypeSplit.Source

namespace TypeSplit.Declaration

open TypeSplit.Source (Relocation Site)

/-! ## Declarations -/

def TypeSite.moved (m : Relocation) (s : TypeSite) : TypeSite :=
  { s with offset := m.offset s.offset.toNat, header := m.piece s.header }

def MemberSite.moved (m : Relocation) (s : MemberSite) : MemberSite := { s with offset := m.offset s.offset.toNat }

variable {m : Relocation} {t t' : Text} {start stop : Nat}

theorem typeSites_moved {keywords : List Text} (hk : ∀ k ∈ keywords, '{' ∉ k) (h : m.Carries t t')
    (hsites : Source.sites (typeHeader keywords) t' 0 t'.length =
      (Source.sites (typeHeader keywords) t 0 t.length).map (Site.moved m.offset)) :
    typeSites keywords t' = (typeSites keywords t).map (TypeSite.moved m) := by
  rw [typeSites, typeSites, hsites, List.map_map, List.map_map]
  refine List.map_congr_left fun s hs => ?_
  obtain ⟨hlt, hopen⟩ := typeSite_opening hk hs
  obtain ⟨hle, -, hbrace, -⟩ := Text.find?_eq_some_iff.mp hopen
  have hstop : m.offset s.stop - 1 = m.offset (s.stop - 1) := by
    have := h.next hbrace (by decide)
    rw [Nat.sub_add_cancel (by omega)] at this
    rw [this]
    exact Nat.add_sub_cancel ..
  simp only [Function.comp_apply, Site.moved, TypeSite.moved, hstop, h.piece hle, h.strip, Int.toNat_natCast]

theorem MemberSite.offset_moved_le_iff (h : m.Carries t t') {x y : MemberSite} (hx : 0 ≤ x.offset) (hy : 0 ≤ y.offset) :
    (x.moved m).offset ≤ (y.moved m).offset ↔ x.offset ≤ y.offset := by
  show (m.offset x.offset.toNat : Int) ≤ m.offset y.offset.toNat ↔ _
  rw [Int.ofNat_le, h.le_iff]
  omega

theorem MemberSite.offset_moved_eq_iff (h : m.Carries t t') {x y : MemberSite} (hx : 0 ≤ x.offset) (hy : 0 ≤ y.offset) :
    (x.moved m).offset = (y.moved m).offset ↔ x.offset = y.offset := by
  rw [Int.le_antisymm_iff, offset_moved_le_iff h hx hy, offset_moved_le_iff h hy hx, ← Int.le_antisymm_iff]

theorem offset_memberSitesOf {kind : MemberKind} {accepts : Source.Recogniser Text} {x : MemberSite}
    (h : x ∈ memberSitesOf kind accepts t start stop) : 0 ≤ x.offset := by
  obtain ⟨s, -, rfl⟩ := List.mem_map.mp h
  exact Int.natCast_nonneg _

/-- Sites are merged by comparing their offsets, and the moved offsets compare in the same way. -/
theorem merge_moved (h : m.Carries t t') {methods properties : List MemberSite} (hm : ∀ x ∈ methods, 0 ≤ x.offset)
    (hp : ∀ x ∈ properties, 0 ≤ x.offset) :
    (methods.map (MemberSite.moved m) ++ (properties.map (MemberSite.moved m)).filter fun p =>
        (methods.map (MemberSite.moved m)).all fun x => x.offset ≠ p.offset).mergeSort (fun a b => a.offset ≤ b.offset) =
      ((methods ++ properties.filter fun p => methods.all fun x => x.offset ≠ p.offset).mergeSort fun a b =>
        a.offset ≤ b.offset).map (MemberSite.moved m) := by
  have hothers : (properties.map (MemberSite.moved m)).filter (fun p =>
      (methods.map (MemberSite.moved m)).all fun x => x.offset ≠ p.offset) =
        (properties.filter fun p => methods.all fun x => x.offset ≠ p.offset).map (MemberSite.moved m) := by
    rw [List.filter_map]
    congr 1
    refine List.filter_congr fun p hmem => ?_
    rw [Function.comp_apply, List.all_map, Bool.eq_iff_iff, List.all_eq_true, List.all_eq_true]
    refine forall_congr' fun x => forall_congr' fun hmem' => ?_
    rw [Function.comp_apply, decide_eq_true_iff, decide_eq_true_iff, ne_eq, ne_eq,
      MemberSite.offset_moved_eq_iff h (hm x hmem') (hp p hmem)]
  have hall : ∀ x ∈ methods ++ properties.filter fun p => methods.all fun x => x.offset ≠ p.offset, 0 ≤ x.offset := by
    intro x hx
    rcases List.mem_append.mp hx with hx | hx
    · exact hm x hx
    · exact hp x (List.mem_filter.mp hx).1
  rw [hothers, ← List.map_append]
  refine (List.map_mergeSort fun x hx y hy => ?_).symm
  rw [Bool.eq_iff_iff, decide_eq_true_iff, decide_eq_true_iff, MemberSite.offset_moved_le_iff h (hall x hx) (hall y hy)]

theorem memberSites_moved (withProperties : Bool) (h : m.Carries t t')
    (hsites : ∀ kind : MemberKind, Source.sites kind.accepts t' (m.offset start) (m.offset stop) =
      (Source.sites kind.accepts t start stop).map (Site.moved m.offset)) :
    memberSites withProperties t' (m.offset start) (m.offset stop) =
      (memberSites withProperties t start stop).map (MemberSite.moved m) := by
  have hkind : ∀ kind : MemberKind, memberSitesOf kind kind.accepts t' (m.offset start) (m.offset stop) =
      (memberSitesOf kind kind.accepts t start stop).map (MemberSite.moved m) := by
    intro kind
    rw [memberSitesOf, memberSitesOf, hsites, List.map_map, List.map_map]
    rfl
  have hmethods : memberSitesOf .method method t' (m.offset start) (m.offset stop) = _ := hkind .method
  have hproperties : memberSitesOf .property property t' (m.offset start) (m.offset stop) = _ := hkind .property
  simp only [memberSites, hmethods, hproperties]
  cases withProperties with
  | true => exact merge_moved h (fun _ => offset_memberSitesOf) fun _ => offset_memberSitesOf
  | false =>
    have hnone : ∀ x ∈ ([] : List MemberSite), 0 ≤ x.offset := by simp
    exact merge_moved h (fun _ => offset_memberSitesOf) hnone

end TypeSplit.Declaration

namespace TypeSplit

open TypeSplit.Declaration (MemberSite TypeSite)
open TypeSplit.Source (Relocation matchBlock?)

/-! ## Outcomes -/

def Member.moved (m : Relocation) (x : Member) : Member :=
  { x with body := m.piece x.body, startLine := m.line x.startLine, endLine := m.line x.endLine }

def TypeDeclaration.moved (m : Relocation) (d : TypeDeclaration) : TypeDeclaration :=
  { d with
    header := m.piece d.header
    members := d.members.map (Member.moved m)
    startLine := m.line d.startLine
    endLine := m.line d.endLine }

def Warning.moved (m : Relocation) (w : Warning) : Warning :=
  { w with offset := m.offset w.offset.toNat, line := m.line w.line }

namespace Extraction

def Carved.moved (m : Relocation) (r : Carved) : Carved :=
  ⟨r.site.moved m, m.offset r.opening, m.offset r.close, r.member.moved m⟩

def Verdict.moved (m : Relocation) : Verdict → Verdict
  | .covered => .covered
  | .nested site => .nested (site.moved m)
  | .constructor site => .constructor (site.moved m)
  | .skipped w => .skipped (w.moved m)
  | .carved r => .carved (r.moved m)

def Body.moved (m : Relocation) (body : Body) : Body :=
  ⟨body.owner.moved m, m.offset body.opening, m.offset body.stop,
    body.nested.map fun r => (m.offset r.1.toNat, m.offset r.2)⟩

def Outcome.moved (m : Relocation) : Outcome → Outcome
  | .skipped w => .skipped (w.moved m)
  | .resolved body vs => .resolved (body.moved m) (vs.map (Verdict.moved m))

section

variable {m : Relocation} {t t' : Text} {withConstructors : Bool} {body : Body}

/-- The lines of a member are the same in both texts, and so is everything read off them. -/
theorem memberAt_moved (h : m.Carries t t') (site : MemberSite) {p o c : Nat} (hp : site.offset = p) (hpo : p ≤ o)
    (ho : t[o]? = some '{') (hc : matchBlock? .braces t o none = some c) :
    memberAt (.ofText t') (site.moved m) (m.offset o) (m.offset c) = (memberAt (.ofText t) site o c).moved m := by
  have hbounds := Source.matchBlock?_bounds hc
  obtain ⟨offset, name, kind⟩ := site
  simp only at hp
  subst hp
  have hlast : ((m.offset c : Nat) : Int) - 1 = (m.offset (c - 1) : Nat) := by
    rw [h.offset_close ho hc]
    omega
  have hlast' : (c : Int) - 1 = (c - 1 : Nat) := by omega
  have hfirst : 0 < Source.lineOf t (p : Int) := Nat.succ_pos _
  simp only [memberAt, Content.ofText, MemberSite.moved, Int.toNat_natCast, hlast, hlast', h.line,
    h.column (p := p) (by omega), h.lines hfirst, h.piece (p := o) (q := c) (by omega), Member.moved]

theorem enclosed_moved (h : m.Carries t t') (hnested : ∀ r ∈ body.nested, 0 ≤ r.1) {site : MemberSite}
    (hsite : 0 ≤ site.offset) :
    ((body.moved m).nested.any fun r => r.1 ≤ (site.moved m).offset && (site.moved m).offset < r.2) =
      body.nested.any fun r => r.1 ≤ site.offset && site.offset < r.2 := by
  have hoffset : (site.moved m).offset = m.offset site.offset.toNat := rfl
  simp only [Body.moved, List.any_map]
  rw [Bool.eq_iff_iff, List.any_eq_true, List.any_eq_true]
  refine exists_congr fun r => and_congr_right fun hr => ?_
  have hstart := hnested r hr
  have hbegin : (m.offset r.1.toNat : Int) ≤ (site.moved m).offset ↔ r.1 ≤ site.offset := by
    rw [hoffset, Int.ofNat_le, h.le_iff]
    omega
  have hend : (site.moved m).offset < m.offset r.2 ↔ site.offset < r.2 := by
    rw [hoffset, Int.ofNat_lt, h.lt_iff]
    omega
  simp only [Function.comp_apply, Bool.and_eq_true, decide_eq_true_iff, hbegin, hend]

/-- The verdict on a site is the same in the other text. -/
theorem judge_moved (h : m.Carries t t') (hnested : ∀ r ∈ body.nested, 0 ≤ r.1) {site : MemberSite} {p : Nat}
    (hp : site.offset = p) (resume : Nat) :
    judge withConstructors (.ofText t') (body.moved m) (m.offset resume) (site.moved m) =
      (judge withConstructors (.ofText t) body resume site).moved m := by
  have hsite : 0 ≤ site.offset := by omega
  have henclosed := enclosed_moved h hnested hsite
  simp only [judge, henclosed]
  obtain ⟨offset, name, kind⟩ := site
  simp only at hp
  subst hp
  have hcovered : (m.offset p : Int) < (m.offset resume : Nat) ↔ (p : Int) < (resume : Nat) := by
    rw [Int.ofNat_lt, h.lt_iff, Int.ofNat_lt]
  have hname : (body.moved m).owner.name = body.owner.name := rfl
  have hstop : (body.moved m).stop = m.offset body.stop := rfl
  simp only [MemberSite.moved, Int.toNat_natCast, hcovered, hname, hstop, Content.ofText, h.find? p body.stop, h.line]
  split
  · rfl
  split
  · rfl
  split
  · rfl
  cases ho : Text.find? t '{' p body.stop with
  | none => rfl
  | some o =>
    obtain ⟨hpo, -, hbrace, -⟩ := Text.find?_eq_some_iff.mp ho
    simp only [Option.map_some, h.closes_before hbrace]
    cases hc : matchBlock? .braces t o (some body.stop) with
    | none => rfl
    | some c =>
      have hclose := (Source.matchBlock?_limit.mp hc).1
      have hmember := memberAt_moved h ⟨p, name, kind⟩ rfl hpo hbrace hclose
      simp only [Content.ofText, MemberSite.moved, Int.toNat_natCast] at hmember
      simp only [Option.map_some, hmember]
      rfl

theorem Verdict.carved?_moved (v : Verdict) : (v.moved m).carved? = v.carved?.map (Carved.moved m) := by
  cases v <;> rfl

theorem Verdict.warning?_moved (v : Verdict) : (v.moved m).warning? = v.warning?.map (Warning.moved m) := by
  cases v <;> rfl

theorem verdicts_moved (body : Body) (h : m.Carries t t') (hnested : ∀ r ∈ body.nested, 0 ≤ r.1) {xs : List MemberSite}
    (hxs : ∀ x ∈ xs, ∃ p : Nat, x.offset = p) (resume : Nat) :
    verdicts withConstructors (.ofText t') (body.moved m) (m.offset resume) (xs.map (MemberSite.moved m)) =
      (verdicts withConstructors (.ofText t) body resume xs).map (Verdict.moved m) := by
  induction xs generalizing resume with
  | nil => rfl
  | cons x xs ih =>
    obtain ⟨⟨p, hp⟩, hrest⟩ := List.forall_mem_cons.mp hxs
    simp only [List.map_cons, verdicts, judge_moved h hnested hp, Verdict.carved?_moved]
    congr 1
    rw [← ih hrest]
    congr 1
    cases (judge withConstructors (.ofText t) body resume x).carved? <;> rfl

theorem nestedSpans_moved (h : m.Carries t t') {sites : List TypeSite} (hsites : ∀ x ∈ sites, ∃ p : Nat, x.offset = p)
    (start stop : Nat) :
    nestedSpans t' (sites.map (TypeSite.moved m)) (m.offset start) (m.offset stop) =
      (nestedSpans t sites start stop).map fun r => ((m.offset r.1.toNat : Int), m.offset r.2) := by
  rw [nestedSpans, nestedSpans, List.filterMap_map, List.map_filterMap]
  refine List.filterMap_congr fun x hx => ?_
  obtain ⟨p, hp⟩ := hsites x hx
  have hinside : ((m.offset start : Int) < m.offset p ∧ (m.offset p : Int) < m.offset stop) ↔
      ((start : Int) < p ∧ (p : Int) < stop) := by
    simp only [Int.ofNat_lt, h.lt_iff]
  simp only [Function.comp_apply, TypeSite.moved, hp, Int.toNat_natCast, hinside, blockOf?, h.find? p stop]
  split
  · cases ho : Text.find? t '{' p stop with
    | none => rfl
    | some o =>
      obtain ⟨-, -, hbrace, -⟩ := Text.find?_eq_some_iff.mp ho
      simp only [Option.map_some, Option.bind_eq_bind, Option.bind_some, h.closes_before hbrace]
      cases matchBlock? .braces t o (some stop) <;> rfl
  · rfl

theorem nestedSpans_nonneg {sites : List TypeSite} (hsites : ∀ x ∈ sites, ∃ p : Nat, x.offset = p) {start stop : Nat} :
    ∀ r ∈ nestedSpans t sites start stop, 0 ≤ r.1 := by
  intro r hr
  obtain ⟨x, hx, hspan⟩ := List.mem_filterMap.mp hr
  obtain ⟨p, hp⟩ := hsites x hx
  split at hspan
  · obtain ⟨_, -, rfl⟩ := Option.map_eq_some_iff.mp hspan
    simp only [hp]
    exact Int.natCast_nonneg p
  · cases hspan

end

structure Scanner.Follows (scanner : Scanner) (m : Relocation) (t t' : Text) : Prop where
  types : scanner.typeSites t' = (scanner.typeSites t).map (TypeSite.moved m)
  members : ∀ {start stop}, start ≤ stop → start ≤ t.length →
    scanner.memberSites t' (m.offset start) (m.offset stop) = (scanner.memberSites t start stop).map (MemberSite.moved m)
  type_offset : ∀ x ∈ scanner.typeSites t, ∃ p : Nat, x.offset = p
  member_offset : ∀ {start stop}, ∀ x ∈ scanner.memberSites t start stop, ∃ p : Nat, x.offset = p

section

variable {m : Relocation} {t t' : Text} {scanner : Scanner} {withConstructors : Bool}

/-- What the usual recognisers find, the usual scanner finds. -/
theorem defaultScanner_follows (h : m.Carries t t')
    (htypes : Source.sites (Declaration.typeHeader defaultKeywords) t' 0 t'.length =
      (Source.sites (Declaration.typeHeader defaultKeywords) t 0 t.length).map (Source.Site.moved m.offset))
    (hmembers : ∀ (kind : Declaration.MemberKind) {start stop}, start ≤ stop → start ≤ t.length →
      Source.sites kind.accepts t' (m.offset start) (m.offset stop) =
        (Source.sites kind.accepts t start stop).map (Source.Site.moved m.offset)) :
    defaultScanner.Follows m t t' where
  types := Declaration.typeSites_moved (fun k hk => (distinct_defaultKeywords k hk).1.open_not_mem) h htypes
  members h1 h2 := Declaration.memberSites_moved true h fun kind => hmembers kind h1 h2
  type_offset x hx := by
    obtain ⟨s, -, hoffset, -⟩ := Declaration.mem_typeSites hx
    exact ⟨s.start, hoffset⟩
  member_offset x hx := by
    obtain ⟨s, -, hsite⟩ := Declaration.mem_memberSites hx
    exact ⟨s.start, congrArg MemberSite.offset hsite⟩

/-- The outcome of a type site is the same in the other text. -/
theorem resolve_moved (h : m.Carries t t') (hs : scanner.Follows m t t') {sites : List TypeSite}
    (hsites : ∀ x ∈ sites, ∃ p : Nat, x.offset = p) {site : TypeSite} {p : Nat} (hp : site.offset = p) :
    resolve scanner withConstructors (.ofText t') (sites.map (TypeSite.moved m)) (site.moved m) =
      (resolve scanner withConstructors (.ofText t) sites site).moved m := by
  have hoffset : (site.moved m).offset = m.offset p := by simp only [TypeSite.moved, hp, Int.toNat_natCast]
  simp only [resolve, Content.ofText, hoffset, hp, ← h.length, h.find? p t.length, h.line]
  cases ho : Text.find? t '{' p t.length with
  | none => simp only [Option.map_none, Outcome.moved, Warning.moved, Int.toNat_natCast, TypeSite.moved]
  | some o =>
    obtain ⟨-, -, hbrace, -⟩ := Text.find?_eq_some_iff.mp ho
    simp only [Option.map_some, h.closes hbrace]
    cases hc : matchBlock? .braces t o none with
    | none => simp only [Option.map_none, Outcome.moved, Warning.moved, Int.toNat_natCast, TypeSite.moved]
    | some c =>
      have hbounds := Source.matchBlock?_bounds hc
      have hstop : m.offset c - 1 = m.offset (c - 1) := by
        rw [h.offset_close hbrace hc, Nat.add_sub_cancel]
      simp only [Option.map_some, hstop, nestedSpans_moved h hsites, Outcome.moved]
      rw [hs.members (by omega) (by omega)]
      exact congrArg (Outcome.resolved _) (verdicts_moved ⟨site, o, c - 1, nestedSpans t sites o (c - 1)⟩ h
        (nestedSpans_nonneg hsites) hs.member_offset o)

/-- The extraction of the other text has the same outcomes, moved. -/
theorem outcomes_moved (h : m.Carries t t') (hs : scanner.Follows m t t') :
    (run scanner withConstructors (.ofText t')).outcomes =
      (run scanner withConstructors (.ofText t)).outcomes.map (Outcome.moved m) := by
  show (scanner.typeSites t').map (resolve scanner withConstructors (.ofText t') (scanner.typeSites t')) =
    ((scanner.typeSites t).map (resolve scanner withConstructors (.ofText t) (scanner.typeSites t))).map (Outcome.moved m)
  rw [hs.types, List.map_map, List.map_map]
  refine List.map_congr_left fun x hx => ?_
  obtain ⟨p, hp⟩ := hs.type_offset x hx
  exact resolve_moved h hs hs.type_offset hp

/-! ## Types and warnings -/

theorem declare_moved (h : m.Carries t t') {body : Body} {p : Nat} (hp : body.owner.offset = p) (hpo : p ≤ body.opening)
    (namespaceName : Text) (vs : List Verdict) :
    declare t' namespaceName (body.moved m) (vs.map (Verdict.moved m)) = (declare t namespaceName body vs).moved m := by
  have hheader : Text.strip (Text.slice t' (body.moved m).owner.offset (body.moved m).opening) =
      m.piece (Text.strip (Text.slice t body.owner.offset body.opening)) := by
    simp only [Body.moved, TypeSite.moved, hp, Int.toNat_natCast]
    rw [h.slice hpo, h.strip]
  have hmembers : (vs.map (Verdict.moved m)).filterMap (fun v => v.carved?.map (·.member)) =
      (vs.filterMap fun v => v.carved?.map (·.member)).map (Member.moved m) := by
    rw [List.filterMap_map, List.map_filterMap]
    refine List.filterMap_congr fun v _ => ?_
    rw [Function.comp_apply, Verdict.carved?_moved, Option.map_map, Option.map_map]
    rfl
  simp only [declare, hheader, hmembers, h.visibility, TypeDeclaration.moved]
  simp only [Body.moved, TypeSite.moved, hp, Int.toNat_natCast, h.line]

theorem declaration?_moved (h : m.Carries t t') {sites : List TypeSite} {site : TypeSite} {p : Nat} (hp : site.offset = p)
    (namespaceName : Text) :
    ((resolve scanner withConstructors (.ofText t) sites site).moved m).declaration? t' namespaceName =
      ((resolve scanner withConstructors (.ofText t) sites site).declaration? t namespaceName).map
        (TypeDeclaration.moved m) := by
  cases hout : resolve scanner withConstructors (.ofText t) sites site with
  | skipped w => rfl
  | resolved body vs =>
    obtain ⟨rfl, hfind, -⟩ := resolve_eq_resolved hout
    rw [hp] at hfind
    obtain ⟨hpo, -⟩ := Text.find?_eq_some_iff.mp hfind
    exact congrArg some (declare_moved h hp hpo namespaceName vs)

theorem types_moved (h : m.Carries t t') (hs : scanner.Follows m t t')
    (hname : Declaration.namespaceOf t' = Declaration.namespaceOf t) :
    (run scanner withConstructors (.ofText t')).types =
      (run scanner withConstructors (.ofText t)).types.map (TypeDeclaration.moved m) := by
  have hname' : (run scanner withConstructors (.ofText t')).namespaceName =
      (run scanner withConstructors (.ofText t)).namespaceName := hname
  rw [types, types, outcomes_moved h hs, hname', List.filterMap_map, List.map_filterMap]
  refine List.filterMap_congr fun outcome hmem => ?_
  obtain ⟨site, hsite, rfl⟩ := List.mem_map.mp hmem
  obtain ⟨p, hp⟩ := hs.type_offset site hsite
  exact declaration?_moved h hp _

theorem warnings_moved (h : m.Carries t t') (hs : scanner.Follows m t t') :
    (run scanner withConstructors (.ofText t')).warnings =
      (run scanner withConstructors (.ofText t)).warnings.map (Warning.moved m) := by
  rw [warnings, warnings, outcomes_moved h hs, List.flatMap_map, List.map_flatMap]
  refine List.flatMap_congr fun outcome _ => ?_
  cases outcome with
  | skipped w => rfl
  | resolved body vs =>
    simp only [Outcome.moved, Outcome.warnings, List.filterMap_map, List.map_filterMap]
    refine List.filterMap_congr fun v _ => ?_
    exact Verdict.warning?_moved v

end

end Extraction

end TypeSplit
