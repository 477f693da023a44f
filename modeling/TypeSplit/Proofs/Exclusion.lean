/-
  TypeSplit.Proofs.Exclusion — members that are left out.

  Constructors can be left out, and so can properties. A site that is left out gives nothing, and the walk over the
  sites does not step over the body that lies behind it, as it does for a member that is carved. So it meets the
  sites inside that body, and one that is not excluded itself is carved in place of the member around it. `Loose`
  says which sites these are.
  - `walk_except_iff`: leaving sites out of a walk is a filter exactly if every member that is left out is sealed.
    The two walks go on at different places; between them nothing is given, and that carries the induction.
  - `constructors_are_filtered_iff`, `properties_are_filtered_iff`: the types are the same in any case, and the members
    are those of the whole extraction less the constructors, or less the properties, exactly if no site is loose.
  - `a_branch_of_a_constructor_is_carved`, `a_branch_of_a_property_is_carved`: a branch `else if (b) { }` looks like a
    method of the name `if`, and is loose.
-/

import TypeSplit.Proofs.Carving

namespace TypeSplit.Extraction

open TypeSplit.Declaration (MemberSite TypeSite mem_memberSitesOf memberSitesOf)
open TypeSplit.Source (Block matchBlock?)

/-! ## Walks over sites -/

/-- Takes what a site gives, and goes on behind it; sites before `resume` are passed over. -/
def walk (take? : MemberSite → Option Carved) : (resume : Nat) → List MemberSite → List Carved
  | _, [] => []
  | resume, x :: xs =>
    if x.offset < resume then walk take? resume xs
    else
      match take? x with
      | none => walk take? resume xs
      | some r => r :: walk take? r.close xs

def except (out : MemberSite → Bool) (take? : MemberSite → Option Carved) (x : MemberSite) : Option Carved :=
  if out x then none else take? x

def Starts (take? : MemberSite → Option Carved) : Prop :=
  ∀ x r, take? x = some r → r.site = x ∧ x.offset < r.close

section

variable {take? : MemberSite → Option Carved} {out : MemberSite → Bool} {resume : Nat} {x : MemberSite}
  {xs : List MemberSite}

theorem walk_passed (h : x.offset < resume ∨ take? x = none) : walk take? resume (x :: xs) = walk take? resume xs := by
  by_cases hlt : x.offset < resume
  · rw [walk, if_pos hlt]
  · rw [walk, if_neg hlt, h.resolve_left hlt]

theorem walk_taken {r : Carved} (hle : ¬ x.offset < resume) (h : take? x = some r) :
    walk take? resume (x :: xs) = r :: walk take? r.close xs := by
  rw [walk, if_neg hle, h]

theorem except_eq_none (h : take? x = none) : except out take? x = none := by
  unfold except
  split
  · rfl
  · exact h

theorem except_out (h : out x = true) : except out take? x = none := if_pos h

theorem except_kept (h : out x = false) : except out take? x = take? x := by simp [except, h]

theorem Starts.except (h : Starts take?) : Starts (except out take?) := by
  intro x r hr
  unfold Extraction.except at hr
  split at hr
  · cases hr
  · exact h x r hr

/-- A walk over fewer sites takes what the walk over all of them takes when the others give nothing. -/
theorem walk_filter : walk take? resume (xs.filter (!out ·)) = walk (except out take?) resume xs := by
  induction xs generalizing resume with
  | nil => rfl
  | cons x xs ih =>
    cases hx : out x with
    | true =>
      rw [List.filter_cons_of_neg (by simp [hx]), ih, walk_passed (Or.inr (except_out hx))]
    | false =>
      rw [List.filter_cons_of_pos (by simp [hx])]
      by_cases hlt : x.offset < resume
      · rw [walk_passed (Or.inl hlt), walk_passed (Or.inl hlt), ih]
      cases ht : take? x with
      | none => rw [walk_passed (Or.inr ht), walk_passed (Or.inr (except_eq_none ht)), ih]
      | some r => rw [walk_taken hlt ht, walk_taken hlt ((except_kept hx).trans ht), ih]

theorem resume_le_of_mem_walk (hstarts : Starts take?) {r : Carved} (h : r ∈ walk take? resume xs) :
    resume ≤ r.site.offset := by
  induction xs generalizing resume with
  | nil => cases h
  | cons x xs ih =>
    by_cases hlt : x.offset < resume
    · rw [walk_passed (Or.inl hlt)] at h
      exact ih h
    cases ht : take? x with
    | none =>
      rw [walk_passed (Or.inr ht)] at h
      exact ih h
    | some r' =>
      obtain ⟨hsite, hclose⟩ := hstarts _ _ ht
      rw [walk_taken hlt ht] at h
      rcases List.mem_cons.mp h with rfl | h
      · rw [hsite]; omega
      · have := ih h
        omega

/-- A site that gives something is taken, or lies in what was taken before it. -/
theorem walk_reaches (hstarts : Starts take?) (hsorted : xs.Pairwise fun a b => a.offset < b.offset) (hx : x ∈ xs)
    (hle : resume ≤ x.offset) (h : take? x ≠ none) : ∃ r ∈ walk take? resume xs, r.site.offset ≤ x.offset := by
  induction xs generalizing resume with
  | nil => cases hx
  | cons y ys ih =>
    obtain ⟨hfirst, hsorted⟩ := List.pairwise_cons.mp hsorted
    have hyx : y.offset ≤ x.offset := by
      rcases List.mem_cons.mp hx with rfl | hx
      · exact Int.le_refl _
      · exact Int.le_of_lt (hfirst x hx)
    by_cases hlt : y.offset < resume
    · rw [walk_passed (Or.inl hlt)]
      refine ih hsorted ((List.mem_cons.mp hx).resolve_left ?_) hle
      rintro rfl
      omega
    cases ht : take? y with
    | none =>
      rw [walk_passed (Or.inr ht)]
      refine ih hsorted ((List.mem_cons.mp hx).resolve_left ?_) hle
      rintro rfl
      exact h ht
    | some r =>
      rw [walk_taken hlt ht]
      refine ⟨r, List.mem_cons_self, ?_⟩
      rw [(hstarts _ _ ht).1]
      exact hyx

/-- No site inside a member gives anything. -/
def Sealed (take? : MemberSite → Option Carved) (xs : List MemberSite) (r : Carved) : Prop :=
  ∀ x ∈ xs, r.site.offset < x.offset → x.offset < r.close → take? x = none

theorem sealed_cons {r : Carved} (h : x.offset ≤ r.site.offset ∨ take? x = none) :
    Sealed take? (x :: xs) r ↔ Sealed take? xs r := by
  refine ⟨fun hs y hy => hs y (List.mem_cons_of_mem _ hy), fun hs y hy hlo hhi => ?_⟩
  rcases List.mem_cons.mp hy with rfl | hy
  · exact h.resolve_left (by omega)
  · exact hs y hy hlo hhi

theorem forall_sealed_cons {rs : List Carved} (h : ∀ r ∈ rs, x.offset ≤ r.site.offset ∨ take? x = none) :
    (∀ r ∈ rs, out r.site = true → Sealed take? (x :: xs) r) ↔ ∀ r ∈ rs, out r.site = true → Sealed take? xs r :=
  forall₂_congr fun r hr => imp_congr_right fun _ => sealed_cons (h r hr)

/-- Leaving sites out leaves out what they give, and nothing else, exactly if every member that is left out is sealed.
The walk without them may go on earlier, at `lo`, if nothing is given between there and `hi`. -/
theorem walk_except_iff (hstarts : Starts take?) (hsorted : xs.Pairwise fun a b => a.offset < b.offset) {lo hi : Nat}
    (hle : lo ≤ hi) (hgap : ∀ x ∈ xs, lo ≤ x.offset → x.offset < hi → except out take? x = none) :
    walk (except out take?) lo xs = (walk take? hi xs).filter (!out ·.site) ↔
      ∀ r ∈ walk take? hi xs, out r.site = true → Sealed (except out take?) xs r := by
  induction xs generalizing lo hi with
  | nil => simp [walk]
  | cons x xs ih =>
    obtain ⟨hfirst, hsorted⟩ := List.pairwise_cons.mp hsorted
    have hgap' : ∀ y ∈ xs, lo ≤ y.offset → y.offset < hi → except out take? y = none :=
      fun y hy => hgap y (List.mem_cons_of_mem _ hy)
    by_cases hlt : x.offset < hi
    · -- The walk over all sites passes `x` by, and so does the other one.
      have hpassed : x.offset < lo ∨ except out take? x = none := by
        by_cases hlo : x.offset < lo
        · exact Or.inl hlo
        · exact Or.inr (hgap x List.mem_cons_self (by omega) hlt)
      rw [walk_passed hpassed, walk_passed (Or.inl hlt), ih hsorted hle hgap', forall_sealed_cons]
      intro r hr
      have := resume_le_of_mem_walk hstarts hr
      exact Or.inl (by omega)
    cases ht : take? x with
    | none =>
      have hnone : except out take? x = none := except_eq_none ht
      rw [walk_passed (Or.inr hnone), walk_passed (Or.inr ht), ih hsorted hle hgap', forall_sealed_cons]
      exact fun _ _ => Or.inr hnone
    | some r =>
      obtain ⟨hsite, hclose⟩ := hstarts _ _ ht
      have hoffset : r.site.offset = x.offset := congrArg MemberSite.offset hsite
      have hbehind : ∀ r' ∈ walk take? r.close xs, x.offset ≤ r'.site.offset ∨ except out take? x = none := by
        intro r' hr'
        have := resume_le_of_mem_walk hstarts hr'
        exact Or.inl (by omega)
      rw [walk_taken hlt ht, List.forall_mem_cons, forall_sealed_cons hbehind]
      cases hx : out x with
      | false =>
        rw [walk_taken (by omega) ((except_kept hx).trans ht), List.filter_cons_of_pos (by simp [hsite, hx]),
          List.cons.injEq, ih hsorted (Nat.le_refl _) (fun y _ h1 h2 => by omega)]
        simp [hsite, hx]
      | true =>
        rw [walk_passed (Or.inr (except_out hx)), List.filter_cons_of_neg (by simp [hsite, hx])]
        -- The walk over all sites goes on behind `r`; the other one goes on at `x` and meets the sites inside `r`.
        have hstep : Sealed (except out take?) xs r →
            (walk (except out take?) lo xs = (walk take? r.close xs).filter (!out ·.site) ↔
              ∀ r' ∈ walk take? r.close xs, out r'.site = true → Sealed (except out take?) xs r') := by
          intro hsealed
          refine ih hsorted (by omega) fun y hy _ hhi => hsealed y hy ?_ hhi
          rw [hsite]
          exact hfirst y hy
        constructor
        · intro heq
          have hsealed : Sealed (except out take?) xs r := by
            intro y hy hlo hhi
            by_contra hne
            rw [hsite] at hlo
            obtain ⟨r', hr', hle'⟩ := walk_reaches hstarts.except hsorted hy (by omega : (lo : Int) ≤ y.offset) hne
            rw [heq] at hr'
            have := resume_le_of_mem_walk hstarts (List.mem_of_mem_filter hr')
            omega
          refine ⟨fun _ => ?_, (hstep hsealed).mp heq⟩
          exact (sealed_cons (Or.inl (by omega))).mpr hsealed
        · rintro ⟨hsealed, hrest⟩
          have hsealed := (sealed_cons (Or.inl (by omega))).mp (hsealed (by rw [hsite]; exact hx))
          exact (hstep hsealed).mpr hrest

end

/-! ## Members of a body as a walk -/

/-- What a site gives when it is judged on its own. -/
def alone? (withConstructors : Bool) (content : Content) (body : Body) (x : MemberSite) : Option Carved :=
  (judge withConstructors content body 0 x).carved?

def Body.sites (withProperties : Bool) (t : Text) (body : Body) : List MemberSite :=
  Declaration.memberSites withProperties t body.opening body.stop

def Body.members (withProperties withConstructors : Bool) (content : Content) (body : Body) : List Carved :=
  carved (verdicts withConstructors content body body.opening (body.sites withProperties content.text))

def Body.constructs (body : Body) (x : MemberSite) : Bool := x.name == body.owner.name

section

variable {withProperties withConstructors : Bool} {content : Content} {body : Body} {resume : Nat} {x : MemberSite}
  {xs : List MemberSite}

theorem judge_carved? (h0 : 0 ≤ x.offset) :
    (judge withConstructors content body resume x).carved? =
      if x.offset < resume then none else alone? withConstructors content body x := by
  by_cases hlt : x.offset < resume
  · rw [if_pos hlt, judge, if_pos hlt]
    rfl
  · have hzero : ¬ x.offset < (0 : Nat) := by omega
    simp only [alone?, judge, if_neg hlt, if_neg hzero]

theorem carved_eq_walk (hxs : ∀ x ∈ xs, 0 ≤ x.offset) :
    carved (verdicts withConstructors content body resume xs) = walk (alone? withConstructors content body) resume xs := by
  induction xs generalizing resume with
  | nil => rfl
  | cons x xs ih =>
    have hrest := fun y hy => hxs y (List.mem_cons_of_mem x hy)
    rw [carved_cons, judge_carved? (hxs x List.mem_cons_self)]
    by_cases hlt : x.offset < resume
    · rw [if_pos hlt, walk_passed (Or.inl hlt)]
      exact ih hrest
    rw [if_neg hlt]
    cases ht : alone? withConstructors content body x with
    | none =>
      rw [walk_passed (Or.inr ht)]
      exact ih hrest
    | some r =>
      rw [walk_taken hlt ht, ← ih hrest]
      rfl

theorem starts_alone? : Starts (alone? withConstructors content body) := by
  intro x r hr
  obtain ⟨hsite, hres, -, -, hfind, hmatch, -⟩ := judge_eq_carved (Verdict.carved?_eq_some hr)
  refine ⟨hsite, ?_⟩
  obtain ⟨p, hp⟩ := Int.eq_ofNat_of_zero_le hres
  rw [hp] at hfind ⊢
  have hopen := (Text.find?_eq_some_iff.mp hfind).1
  have hclose := (Source.matchBlock?_bounds (Source.matchBlock?_limit.mp hmatch).1).1
  omega

/-- Without constructors, the sites with the name of the type give nothing and the others give the same. -/
theorem alone?_false : alone? false content body = except body.constructs (alone? true content body) := by
  funext x
  unfold except Body.constructs alone?
  by_cases hname : (x.name == body.owner.name) = true
  · rw [if_pos hname]
    simp only [judge, hname, Bool.not_false, Bool.true_and, if_true]
    split
    · rfl
    · split <;> rfl
  · rw [if_neg hname]
    simp only [judge, hname, Bool.and_false, Bool.false_eq_true, if_false]

/-- A member site of a body gives nothing exactly if it is an excluded constructor or lies in a nested type. -/
theorem alone?_eq_none_iff (hblock : Block content.text body.opening body.stop)
    (hx : x ∈ body.sites withProperties content.text) :
    alone? withConstructors content body x = none ↔
      withConstructors = false ∧ body.constructs x = true ∨ body.Encloses x.offset := by
  obtain ⟨p, b, c, hp, -, -, -, -, hfind, hmatch⟩ := Declaration.memberSite_block hblock hx
  rw [← hp] at hfind
  constructor
  · intro hnone
    by_contra hcon
    rw [not_or, not_and_or] at hcon
    have hctor : withConstructors = true ∨ x.name ≠ body.owner.name := by
      simpa [Body.constructs] using hcon.1
    rw [alone?, judge_carves (by omega) hcon.2 hctor hfind hmatch] at hnone
    cases hnone
  · intro h
    cases hsome : alone? withConstructors content body x with
    | none => rfl
    | some r =>
      obtain ⟨-, -, hencl, hctor, -⟩ := judge_eq_carved (Verdict.carved?_eq_some hsome)
      rcases h with ⟨hw, hname⟩ | h
      · rcases hctor with hctor | hctor
        · rw [hw] at hctor; cases hctor
        · exact absurd (beq_iff_eq.mp hname) hctor
      · exact absurd h hencl

/-- The members of a body are what a walk over its sites takes. -/
theorem members_eq_walk (hblock : Block content.text body.opening body.stop) :
    body.members withProperties withConstructors content =
      walk (alone? withConstructors content body) body.opening (body.sites withProperties content.text) := by
  apply carved_eq_walk
  intro x hx
  obtain ⟨p, -, -, hp, -⟩ := Declaration.memberSite_block hblock hx
  omega

/-! ## Members that are left out of a body -/

/-- A site that starts inside a member and is not passed over: it is neither excluded nor in a nested type. -/
def Body.Loose (body : Body) (excluded : MemberSite → Bool) (r : Carved) (x : MemberSite) : Prop :=
  r.site.offset < x.offset ∧ x.offset < r.close ∧ excluded x = false ∧ ¬ body.Encloses x.offset

/-- The sites that an extraction passes over: those that are left out, and constructors if they are not wanted. -/
def Body.excludes (body : Body) (withConstructors : Bool) (out : MemberSite → Bool) (x : MemberSite) : Bool :=
  out x || (!withConstructors && body.constructs x)

theorem sealed_iff_not_loose {out : MemberSite → Bool} {r : Carved}
    (hblock : Block content.text body.opening body.stop) :
    Sealed (except out (alone? withConstructors content body)) (body.sites withProperties content.text) r ↔
      ∀ x ∈ body.sites withProperties content.text, ¬ body.Loose (body.excludes withConstructors out) r x := by
  refine forall₂_congr fun x hx => ?_
  have hnone : except out (alone? withConstructors content body) x = none ↔
      body.excludes withConstructors out x = true ∨ body.Encloses x.offset := by
    unfold except Body.excludes
    cases hout : out x with
    | true => simp
    | false => simpa using alone?_eq_none_iff hblock hx
  rw [hnone]
  unfold Body.Loose
  constructor
  · rintro h ⟨hlo, hhi, hex, hencl⟩
    rcases h hlo hhi with h | h
    · rw [hex] at h; cases h
    · exact hencl h
  · intro h hlo hhi
    by_contra hcon
    rw [not_or, Bool.not_eq_true] at hcon
    exact h ⟨hlo, hhi, hcon.1, hcon.2⟩

/-- The walk without some sites takes the members of the body less those of the sites, exactly if no site inside one
of these members is loose. -/
theorem walk_except_members_iff {out : MemberSite → Bool} (hblock : Block content.text body.opening body.stop) :
    walk (except out (alone? withConstructors content body)) body.opening (body.sites withProperties content.text) =
        (body.members withProperties withConstructors content).filter (!out ·.site) ↔
      ∀ r ∈ body.members withProperties withConstructors content, out r.site = true →
        ∀ x ∈ body.sites withProperties content.text, ¬ body.Loose (body.excludes withConstructors out) r x := by
  have hstrict : (body.sites withProperties content.text).Pairwise fun a b => a.offset < b.offset :=
    Declaration.memberSites_strict ..
  rw [members_eq_walk hblock, walk_except_iff starts_alone? hstrict (Nat.le_refl _) fun x _ h1 h2 => by omega]
  exact forall₂_congr fun r _ => imp_congr_right fun _ => sealed_iff_not_loose hblock

theorem members_without_constructors (hblock : Block content.text body.opening body.stop) :
    body.members withProperties false content =
      walk (except body.constructs (alone? true content body)) body.opening (body.sites withProperties content.text) := by
  rw [members_eq_walk hblock, alone?_false]

def property (x : MemberSite) : Bool := x.kind == .property

theorem sites_without_properties (t : Text) (body : Body) : body.sites false t = (body.sites true t).filter (!property ·) := by
  have hperm : (body.sites false t).Perm ((body.sites true t).filter (!property ·)) := by
    refine (List.mergeSort_perm _ _).trans (List.Perm.trans ?_ ((List.mergeSort_perm _ _).filter _).symm)
    have hmethods : (memberSitesOf .method Declaration.method t body.opening body.stop).filter (!property ·) =
        memberSitesOf .method Declaration.method t body.opening body.stop := by
      rw [List.filter_eq_self]
      intro x hx
      obtain ⟨s, -, rfl⟩ := mem_memberSitesOf.mp hx
      rfl
    have hothers (p : MemberSite → Bool) :
        ((memberSitesOf .property Declaration.property t body.opening body.stop).filter p).filter (!property ·) = [] := by
      rw [List.filter_eq_nil_iff]
      intro x hx
      obtain ⟨s, -, rfl⟩ := mem_memberSitesOf.mp (List.mem_of_mem_filter hx)
      simp [property]
    rw [List.filter_append, hmethods, if_pos rfl, hothers]
    exact List.Perm.refl _
  refine hperm.eq_of_pairwise ?_ (Declaration.memberSites_strict ..) ((Declaration.memberSites_strict ..).filter _)
  intro a b _ _ h1 h2
  omega

theorem members_without_properties (hblock : Block content.text body.opening body.stop) :
    body.members false withConstructors content =
      walk (except property (alone? withConstructors content body)) body.opening (body.sites true content.text) := by
  rw [members_eq_walk hblock, sites_without_properties, walk_filter]

end

/-! ## Extractions -/

def body? (t : Text) (sites : List TypeSite) (site : TypeSite) : Option Body := do
  let opening ← Text.find? t '{' site.offset t.length
  let close ← matchBlock? .braces t opening none
  some ⟨site, opening, close - 1, nestedSpans t sites opening (close - 1)⟩

def Outcome.carving? : Outcome → Option (Body × List Carved)
  | .skipped _ => none
  | .resolved body vs => some (body, carved vs)

def carvings (e : Extraction) : List (Body × List Carved) := e.outcomes.filterMap Outcome.carving?

/-- The carvings less the members whose sites are left out. -/
def leftOut (out : Body → MemberSite → Bool) (cs : List (Body × List Carved)) : List (Body × List Carved) :=
  cs.map fun c => (c.1, c.2.filter fun r => !out c.1 r.site)

/-- No site inside a member that is left out is loose. -/
def Tight (withProperties withConstructors : Bool) (out : Body → MemberSite → Bool) (e : Extraction) : Prop :=
  ∀ c ∈ e.carvings, ∀ r ∈ c.2, out c.1 r.site = true → ∀ x ∈ c.1.sites withProperties e.content.text,
    ¬ c.1.Loose (c.1.excludes withConstructors (out c.1)) r x

section

variable {keywords : List Text} {withProperties withConstructors : Bool} {scanner : Scanner} {content : Content}
  {sites : List TypeSite} {site : TypeSite} {body : Body}

theorem resolve_of_body? (scanner : Scanner) (withConstructors : Bool)
    (h : body? content.text sites site = some body) :
    resolve scanner withConstructors content sites site = .resolved body (verdicts withConstructors content body
      body.opening (scanner.memberSites content.text body.opening body.stop)) := by
  simp only [body?, Option.bind_eq_bind, Option.bind_eq_some_iff, Option.some.injEq] at h
  obtain ⟨opening, hfind, close, hmatch, rfl⟩ := h
  simp only [resolve, hfind, hmatch]

theorem block_of_body? (h : body? content.text sites site = some body) :
    Block content.text body.opening body.stop :=
  (resolve_eq_resolved (resolve_of_body? defaultScanner true h)).2.2.1

theorem resolve_carving? :
    (resolve scanner withConstructors content sites site).carving? = (body? content.text sites site).map fun body =>
      (body, carved (verdicts withConstructors content body body.opening
        (scanner.memberSites content.text body.opening body.stop))) := by
  cases h : body? content.text sites site with
  | some body => rw [resolve_of_body? _ _ h]; rfl
  | none =>
    cases hfind : Text.find? content.text '{' site.offset content.text.length with
    | none => simp [resolve, hfind, Outcome.carving?]
    | some o =>
      cases hmatch : matchBlock? .braces content.text o none with
      | none => simp [resolve, hfind, hmatch, Outcome.carving?]
      | some c => simp [body?, hfind, hmatch] at h

def bodies (keywords : List Text) (t : Text) : List Body :=
  (Declaration.typeSites keywords t).filterMap (body? t (Declaration.typeSites keywords t))

theorem block_of_mem_bodies (h : body ∈ bodies keywords content.text) : Block content.text body.opening body.stop := by
  obtain ⟨site, -, hbody⟩ := List.mem_filterMap.mp h
  exact block_of_body? hbody

theorem carvings_run :
    (run ⟨Declaration.typeSites keywords, Declaration.memberSites withProperties⟩ withConstructors content).carvings =
      (bodies keywords content.text).map fun body => (body, body.members withProperties withConstructors content) := by
  unfold carvings run bodies
  rw [List.filterMap_map, List.map_filterMap]
  exact List.filterMap_congr fun site _ => resolve_carving?

/-- The members of every body are those of the whole extraction less what is left out, exactly if that is tight. -/
theorem carvings_leftOut_iff {out : Body → MemberSite → Bool} {cs : List (Body × List Carved)}
    (hcs : cs = (bodies keywords content.text).map fun body => (body, walk (except (out body)
      (alone? withConstructors content body)) body.opening (body.sites withProperties content.text))) :
    cs = leftOut out (run ⟨Declaration.typeSites keywords, Declaration.memberSites withProperties⟩ withConstructors
        content).carvings ↔
      Tight withProperties withConstructors out
        (run ⟨Declaration.typeSites keywords, Declaration.memberSites withProperties⟩ withConstructors content) := by
  unfold Tight leftOut
  rw [hcs, carvings_run, List.map_map, List.map_inj_left, List.forall_mem_map]
  refine forall₂_congr fun body hbody => ?_
  rw [Function.comp_apply, Prod.mk.injEq, and_iff_right rfl]
  exact walk_except_members_iff (block_of_mem_bodies hbody)

/-! ## Declarations -/

def declared (e : Extraction) (c : Body × List Carved) : TypeDeclaration :=
  { declare e.content.text e.namespaceName c.1 [] with members := c.2.map (·.member) }

theorem types_eq_declared (e : Extraction) : e.types = e.carvings.map e.declared := by
  unfold types carvings
  rw [List.map_filterMap]
  refine List.filterMap_congr fun outcome _ => ?_
  cases outcome with
  | skipped w => rfl
  | resolved body vs =>
    show some (declare e.content.text e.namespaceName body vs) =
      some { declare e.content.text e.namespaceName body [] with members := (carved vs).map (·.member) }
    rw [← declare_members e.content.text e.namespaceName body vs]
    rfl

theorem member_name {resume : Nat} {xs : List MemberSite} {r : Carved}
    (h : r ∈ carved (verdicts withConstructors content body resume xs)) : r.member.name = r.site.name := by
  obtain ⟨-, resume', hjudge⟩ := mem_carved h
  obtain ⟨-, -, -, -, -, -, hmember⟩ := judge_eq_carved hjudge
  rw [hmember]
  rfl

/-- The types of an extraction without their members depend on the text and the keywords only. -/
theorem types_bare :
    (run ⟨Declaration.typeSites keywords, Declaration.memberSites withProperties⟩ withConstructors content).types.map
        (fun d => { d with members := [] }) =
      (bodies keywords content.text).map fun body =>
        declare content.text (Declaration.namespaceOf content.text) body [] := by
  rw [types_eq_declared, carvings_run, List.map_map, List.map_map]
  rfl

/-! ## Without constructors -/

theorem declared_without_constructors {e : Extraction} {body : Body} {rs : List Carved}
    (h : ∀ r ∈ rs, r.member.name = r.site.name) :
    e.declared (body, rs.filter fun r => !body.constructs r.site) =
      { e.declared (body, rs) with members := (e.declared (body, rs)).members.filter (·.name ≠ body.owner.name) } := by
  unfold declared
  simp only [TypeDeclaration.mk.injEq, true_and, and_true]
  rw [List.filter_map]
  congr 1
  refine List.filter_congr fun r hr => ?_
  rw [Function.comp_apply, h r hr, Body.constructs, beq_eq_decide]
  simp

/-- Leaving constructors out is a filter exactly if no other site lies loose in a constructor. The types are the same in
any case. -/
theorem constructors_are_filtered_iff (hscanner : Scanner.ofKeywords keywords withProperties = .ok scanner)
    (content : Content) :
    (run scanner false content).types.map (fun d => { d with members := [] }) =
        (run scanner true content).types.map (fun d => { d with members := [] }) ∧
      ((run scanner false content).carvings = leftOut Body.constructs (run scanner true content).carvings ↔
        Tight withProperties true Body.constructs (run scanner true content)) ∧
      (Tight withProperties true Body.constructs (run scanner true content) →
        (run scanner false content).types = (run scanner true content).types.map fun d =>
          { d with members := d.members.filter (·.name ≠ d.name) }) := by
  obtain rfl := Scanner.ofKeywords_eq hscanner
  have hcarvings : (run ⟨Declaration.typeSites keywords, Declaration.memberSites withProperties⟩ false content).carvings =
      (bodies keywords content.text).map fun body => (body, walk (except body.constructs (alone? true content body))
        body.opening (body.sites withProperties content.text)) := by
    rw [carvings_run]
    refine List.map_congr_left fun body hbody => ?_
    rw [members_without_constructors (block_of_mem_bodies hbody)]
  have hiff := carvings_leftOut_iff hcarvings
  refine ⟨types_bare.trans types_bare.symm, hiff, fun htight => ?_⟩
  rw [types_eq_declared, hiff.mpr htight, types_eq_declared, leftOut, List.map_map, List.map_map]
  refine List.map_congr_left fun c hc => ?_
  rw [carvings_run] at hc
  obtain ⟨body, -, rfl⟩ := List.mem_map.mp hc
  exact declared_without_constructors fun r hr => member_name hr

def plainConstructor : Text := "class C { public C() { next = new C() { }; } int M() { } }".toList

/-- Its extraction, with the members that are carved; no site lies loose in the constructor. -/
def plainConstructorRun : { e : Extraction // e.types.map (·.memberNames) = [[['C'], ['M']]] ∧
    Tight true true Body.constructs e } :=
  ⟨run defaultScanner true (.ofText plainConstructor), by
    unfold Tight Body.Loose Body.Encloses Body.sites
    rw [Declaration.memberSites_eq_inOrder, defaultScanner_eq]
    decide +kernel⟩

theorem plain_constructor_is_filtered :
    Scanner.ofKeywords defaultKeywords true = .ok defaultScanner ∧
      (run defaultScanner true (.ofText plainConstructor)).types.map (·.memberNames) = [[['C'], ['M']]] ∧
      Tight true true Body.constructs (run defaultScanner true (.ofText plainConstructor)) ∧
      (run defaultScanner false (.ofText plainConstructor)).types =
        (run defaultScanner true (.ofText plainConstructor)).types.map fun d =>
          { d with members := d.members.filter (·.name ≠ d.name) } := by
  obtain ⟨hnames, htight⟩ := plainConstructorRun.property
  exact ⟨ofKeywords_defaultKeywords, hnames, htight,
    (constructors_are_filtered_iff ofKeywords_defaultKeywords (.ofText plainConstructor)).2.2 htight⟩

/-- A constructor with a statement that looks like a method. -/
def branchingConstructor : Text := "class C { public C() { if (a) { } else if (b) { } } }".toList

/-- The constructor covers the statement; without the constructor the statement is carved as a member. -/
theorem a_branch_of_a_constructor_is_carved :
    (run defaultScanner true (.ofText branchingConstructor)).types.map (·.memberNames) = [[['C']]] ∧
      (run defaultScanner false (.ofText branchingConstructor)).types.map (·.memberNames) = [[['i', 'f']]] ∧
      (run defaultScanner false (.ofText branchingConstructor)).types ≠
        (run defaultScanner true (.ofText branchingConstructor)).types.map fun d =>
          { d with members := d.members.filter (·.name ≠ d.name) } := by
  rw [defaultScanner_eq]
  decide +kernel

/-! ## Without properties -/

/-- Leaving properties out is a filter exactly if no method site lies loose in a property. The types are the same in any
case. -/
theorem properties_are_filtered_iff {methods : Scanner} (hscanner : Scanner.ofKeywords keywords true = .ok scanner)
    (hmethods : Scanner.ofKeywords keywords false = .ok methods) (withConstructors : Bool) (content : Content) :
    (run methods withConstructors content).types.map (fun d => { d with members := [] }) =
        (run scanner withConstructors content).types.map (fun d => { d with members := [] }) ∧
      ((run methods withConstructors content).carvings =
          leftOut (fun _ => property) (run scanner withConstructors content).carvings ↔
        Tight true withConstructors (fun _ => property) (run scanner withConstructors content)) ∧
      (Tight true withConstructors (fun _ => property) (run scanner withConstructors content) →
        (run methods withConstructors content).types.map (·.members) =
          (run scanner withConstructors content).carvings.map fun c =>
            (c.2.filter (·.site.kind = .method)).map (·.member)) := by
  obtain rfl := Scanner.ofKeywords_eq hscanner
  obtain rfl := Scanner.ofKeywords_eq hmethods
  have hcarvings : (run ⟨Declaration.typeSites keywords, Declaration.memberSites false⟩ withConstructors
      content).carvings = (bodies keywords content.text).map fun body => (body, walk (except property
        (alone? withConstructors content body)) body.opening (body.sites true content.text)) := by
    rw [carvings_run]
    refine List.map_congr_left fun body hbody => ?_
    rw [members_without_properties (block_of_mem_bodies hbody)]
  have hiff := carvings_leftOut_iff hcarvings
  refine ⟨types_bare.trans types_bare.symm, hiff, fun htight => ?_⟩
  rw [types_eq_declared, hiff.mpr htight, leftOut, List.map_map, List.map_map]
  refine List.map_congr_left fun c _ => congrArg (List.map Carved.member) (List.filter_congr fun r _ => ?_)
  cases hkind : r.site.kind <;> simp [property, hkind]

def methodScanner : Scanner := ⟨Declaration.typeSites defaultKeywords, Declaration.memberSites false⟩

theorem methodScanner_eq :
    methodScanner = ⟨Declaration.typeSites defaultKeywords, Declaration.memberSitesInOrder false⟩ := by
  rw [methodScanner, Declaration.memberSites_eq_inOrder]

def plainProperties : Text := "class C { int P { get { return F(x); } } int M() { } int Q { set; } }".toList

def plainPropertiesRun : { e : Extraction // e.types.map (·.memberNames) = [[['P'], ['M'], ['Q']]] ∧
    Tight true true (fun _ => property) e } :=
  ⟨run defaultScanner true (.ofText plainProperties), by
    unfold Tight Body.Loose Body.Encloses Body.sites
    rw [Declaration.memberSites_eq_inOrder, defaultScanner_eq]
    decide +kernel⟩

theorem plain_properties_are_filtered :
    Scanner.ofKeywords defaultKeywords true = .ok defaultScanner ∧
      Scanner.ofKeywords defaultKeywords false = .ok methodScanner ∧
      (run defaultScanner true (.ofText plainProperties)).types.map (·.memberNames) = [[['P'], ['M'], ['Q']]] ∧
      Tight true true (fun _ => property) (run defaultScanner true (.ofText plainProperties)) ∧
      (run methodScanner true (.ofText plainProperties)).types.map (·.members) =
        (run defaultScanner true (.ofText plainProperties)).carvings.map fun c =>
          (c.2.filter (·.site.kind = .method)).map (·.member) := by
  obtain ⟨hnames, htight⟩ := plainPropertiesRun.property
  exact ⟨ofKeywords_defaultKeywords, rfl, hnames, htight,
    (properties_are_filtered_iff ofKeywords_defaultKeywords rfl true (.ofText plainProperties)).2.2 htight⟩

/-- A property with a statement that looks like a method. -/
def branchingProperty : Text := "class C { int P { get { if (a) { } else if (b) { } } } }".toList

/-- The property covers the statement; if properties are not looked for, the statement is carved as a member. -/
theorem a_branch_of_a_property_is_carved :
    Scanner.ofKeywords defaultKeywords false = .ok methodScanner ∧
      (run defaultScanner true (.ofText branchingProperty)).types.map (·.memberNames) = [[['P']]] ∧
      (run methodScanner true (.ofText branchingProperty)).types.map (·.memberNames) = [[['i', 'f']]] ∧
      (run methodScanner true (.ofText branchingProperty)).types.map (·.members) ≠
        (run defaultScanner true (.ofText branchingProperty)).carvings.map fun c =>
          (c.2.filter (·.site.kind = .method)).map (·.member) := by
  refine ⟨rfl, ?_⟩
  rw [defaultScanner_eq, methodScanner_eq]
  decide +kernel

end

end TypeSplit.Extraction
