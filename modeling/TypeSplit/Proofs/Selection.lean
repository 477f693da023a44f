/-
  TypeSplit.Proofs.Selection — a type by itself, and the same type among others.

  What a run answers is settled by the types that it found (`plan`): the host has its say while they are looked for, and
  from then on it only listens (`answer_prepare`, `answer_dry`). So each type has its own share of the outcome, which
  depends on nothing that is done for the others (`Shares`).
  - `a_type_keeps_its_share`: a dry run for one type alone has that share for its outcome, and the run that is asked for a
    type that was not found says so.
-/

import TypeSplit.Proofs.DryRun

namespace TypeSplit.Run

open TypeSplit.Splitting (Style)

/-! ## What the types settle -/

section

variable [NamePattern.Objects]

def plan (splitter : Splitter) (s : Settings) (request : Request) (e : Extraction) : Except Error Outcome := do
  let count := effectiveCount s request
  let selected ← selectTypes e.types request.typeName
  let parts ← selected.mapM (splitType (splitter.styleOf s request.source) e.usings count)
  return ⟨summarise request count e parts, e, parts.flatMap (·.documents)⟩

end

section

variable {σ α β : Type} {host : Host (StateM σ)} {splitter : Splitter} {s : Settings} {request : Request}

theorem answer_pure (a : α) (j : σ) : (perform (pure a : ExceptT Error (StateM σ) α) j).1 = pure a := rfl

/-- What is answered behind an action depends on its answer, if it does not depend on the state. -/
theorem answer_bind {x : ExceptT Error (StateM σ) α} {f : α → ExceptT Error (StateM σ) β} {g : α → Except Error β}
    (hf : ∀ a k, (perform (f a) k).1 = g a) (j : σ) : (perform (x >>= f) j).1 = (perform x j).1 >>= g := by
  rcases hx : perform x j with ⟨e | a, k⟩
  · rw [perform_bind_error hx]
    rfl
  · rw [perform_bind_ok hx]
    exact hf a k

theorem answer_splitAndTell [NamePattern.Objects] (style : Style) (usings : List Text) (count : Option Int)
    (d : TypeDeclaration) (j : σ) :
    (perform (splitAndTell host style usings count d) j).1 = splitType style usings count d := by
  unfold splitAndTell
  rw [answer_bind (g := pure) fun parts k => rfl]
  exact bind_pure (splitType style usings count d)

theorem answer_mapM {f : α → ExceptT Error (StateM σ) β} {g : α → Except Error β} (hf : ∀ a j, (perform (f a) j).1 = g a)
    (xs : List α) (j : σ) : (perform (xs.mapM f) j).1 = xs.mapM g := by
  induction xs generalizing j with
  | nil =>
    rw [List.mapM_nil, List.mapM_nil]
    rfl
  | cons x xs ih =>
    rw [List.mapM_cons, List.mapM_cons, ← hf x j]
    refine answer_bind (fun y k => ?_) j
    rw [← ih k]
    exact answer_bind (fun ys k' => answer_pure _ k') k

/-- The host has no say in what becomes of the types that were found. -/
theorem answer_prepare [NamePattern.Objects] (j : σ) :
    (perform (prepare host splitter s request) j).1 =
      (perform (parse host splitter s request.source) j).1 >>= plan splitter s request := by
  refine answer_bind (fun e k => answer_bind (fun selected k' => ?_) k) j
  rw [← answer_mapM (answer_splitAndTell _ _ _) selected k']
  exact answer_bind (fun parts k'' => answer_pure _ k'') k'

/-- A dry run answers what was prepared, with the paths of its documents. -/
theorem answer_dry [NamePattern.Objects] (hdry : request.dryRun = true) (j : σ) :
    (perform (run host splitter s request) j).1 =
      (perform (prepare host splitter s request) j).1.map (Outcome.foretold request.output) := by
  unfold run
  rw [answer_bind (g := fun prepared => pure (prepared.foretold request.output)) fun prepared k => ?_]
  · exact bind_pure_comp _ _
  · rw [if_pos hdry]
    rfl

end

/-! ## Shares -/

/-- Each type that was found is split by itself, and the outcome is their parts in order. -/
structure Shares [NamePattern.Objects] (splitter : Splitter) (s : Settings) (request : Request) (outcome : Outcome)
    (parts : List Parts) : Prop where
  split : List.Forall₂ (fun d p => splitType (splitter.styleOf s request.source) outcome.extraction.usings
    (effectiveCount s request) d = .ok p) outcome.extraction.types parts
  types : outcome.summary.types = parts.map (·.summary)
  documents : outcome.documents = parts.flatMap (·.documents)

def Outcome.only (outcome : Outcome) (output : Path) (name : Text) (share : Parts) : Outcome where
  summary := { outcome.summary with
    typeFilter := some name
    types := [share.summary]
    written := share.documents.map fun d => (target output d).text }
  extraction := outcome.extraction
  documents := share.documents

def Request.only (request : Request) (name : Text) : Request := { request with typeName := some name }

def Request.WantsAll (request : Request) : Prop := request.typeName = none ∨ request.typeName = some []

/-- The name of the type is the wanted one, in any case of letters and with blanks around it. -/
def Wanted (name : Text) (d : TypeDeclaration) : Prop := Text.fold d.name = Text.fold (Text.strip name)

instance (name : Text) (d : TypeDeclaration) : Decidable (Wanted name d) :=
  inferInstanceAs (Decidable (_ = _))

/-- The type is the first with a wanted name, and `i` is its number. -/
structure First (name : Text) (types : List TypeDeclaration) (i : Nat) (d : TypeDeclaration) : Prop where
  there : types[i]? = some d
  wanted : Wanted name d
  before : ∀ k < i, ∀ x, types[k]? = some x → ¬ Wanted name x

section

variable {types : List TypeDeclaration} {name : Text}

theorem selectTypes_all {request : Request} (h : request.WantsAll) : selectTypes types request.typeName = .ok types := by
  rcases h with h | h
  · rw [h]
    rfl
  · rw [h]
    rfl

theorem selectTypes_some (hname : name ≠ []) :
    selectTypes types (some name) = match types.find? fun d => Wanted name d with
      | some d => .ok [d]
      | none => .error (.typeMissing name) := by
  cases name with
  | nil => exact absurd rfl hname
  | cons c cs => rfl

theorem selectTypes_missing (hname : name ≠ []) (h : ∀ d ∈ types, ¬ Wanted name d) :
    selectTypes types (some name) = .error (.typeMissing name) := by
  have hfind : types.find? (fun d => Wanted name d) = none := List.find?_eq_none.mpr fun d hd => by simpa using h d hd
  rw [selectTypes_some hname, hfind]

theorem selectTypes_first (hname : name ≠ []) {i : Nat} {d : TypeDeclaration} (h : First name types i d) :
    selectTypes types (some name) = .ok [d] := by
  have hfind : types.find? (fun d => Wanted name d) = some d := by
    obtain ⟨hi, hd⟩ := List.getElem?_eq_some_iff.mp h.there
    refine List.find?_eq_some_iff_getElem.mpr ⟨by simpa using h.wanted, i, hi, hd, fun k hk => ?_⟩
    have hk' : k < types.length := Nat.lt_trans hk hi
    simpa using h.before k hk _ (List.getElem?_eq_getElem hk')
  rw [selectTypes_some hname, hfind]

end

section

variable [NamePattern.Objects] {splitter : Splitter} {s : Settings} {request : Request} {e : Extraction}
  {outcome : Outcome} {name : Text}

/-- A plan for all types gives each its share. -/
theorem plan_all (hall : request.WantsAll) (h : plan splitter s request e = .ok outcome) :
    ∃ parts, outcome = ⟨summarise request (effectiveCount s request) e parts, e, parts.flatMap (·.documents)⟩ ∧
      Shares splitter s request outcome parts := by
  simp only [plan, selectTypes_all hall, bind_eq_ok, pure_eq_ok, Except.ok.injEq] at h
  obtain ⟨_, rfl, parts, hparts, rfl⟩ := h
  exact ⟨parts, rfl, forall₂_of_mapM_ok hparts, rfl, rfl⟩

theorem plan_only_missing (hname : name ≠ []) (h : ∀ d ∈ e.types, ¬ Wanted name d) :
    plan splitter s (request.only name) e = .error (.typeMissing name) := by
  unfold plan
  rw [show (request.only name).typeName = some name from rfl, selectTypes_missing hname h]
  rfl

/-- A plan for one type alone splits it as a plan for all does. -/
theorem plan_only {i : Nat} {d : TypeDeclaration} {share : Parts} (hname : name ≠ []) (h : First name e.types i d)
    (hsplit : splitType (splitter.styleOf s request.source) e.usings (effectiveCount s request) d = .ok share) :
    plan splitter s (request.only name) e =
      .ok ⟨summarise (request.only name) (effectiveCount s request) e [share], e, share.documents⟩ := by
  have hselect : selectTypes e.types (request.only name).typeName = .ok [d] := selectTypes_first hname h
  have hcount : effectiveCount s (request.only name) = effectiveCount s request := rfl
  have hsource : (request.only name).source = request.source := rfl
  simp only [plan, bind_eq_ok, pure_eq_ok, hselect, hcount, hsource, Except.ok.injEq]
  refine ⟨[d], rfl, [share], ?_, ?_⟩
  · rw [List.mapM_cons, hsplit]
    rfl
  · simp

end

section

variable [NamePattern.Objects] {σ : Type} {host : Host (StateM σ)} {splitter : Splitter} {s : Settings}
  {request : Request} {outcome : Outcome} {name : Text}

/-- If a dry run for all types succeeds, each type has its share of the outcome. A run for one type alone, from the same
state, says that the type is missing if none was found that has its name. Otherwise it succeeds, and its outcome is
the share of the first that has it; what was found and what was skipped is the same. -/
theorem a_type_keeps_its_share (hall : request.WantsAll) (hdry : request.dryRun = true) (hname : name ≠ []) {j : σ}
    (h : (perform (run host splitter s request) j).1 = .ok outcome) :
    ∃ parts, Shares splitter s request outcome parts ∧
      ((∀ d ∈ outcome.extraction.types, ¬ Wanted name d) →
        (perform (run host splitter s (request.only name)) j).1 = .error (.typeMissing name)) ∧
      ∀ i d, First name outcome.extraction.types i d → ∃ share, parts[i]? = some share ∧
        (perform (run host splitter s (request.only name)) j).1 = .ok (outcome.only request.output name share) := by
  rw [answer_dry hdry, answer_prepare] at h
  obtain ⟨prepared, hprepared, rfl⟩ := map_eq_ok.mp h
  obtain ⟨e, hparse, hplan⟩ := bind_eq_ok.mp hprepared
  obtain ⟨parts, rfl, hshares⟩ := plan_all hall hplan
  -- both runs look for types in the same way, so the second goes by the extraction of the first
  have hrun : (perform (run host splitter s (request.only name)) j).1 =
      (plan splitter s (request.only name) e).map (Outcome.foretold request.output) := by
    have hdry' : (request.only name).dryRun = true := hdry
    have hsource : (request.only name).source = request.source := rfl
    rw [answer_dry hdry', answer_prepare, hsource, hparse]
    rfl
  refine ⟨parts, ⟨hshares.split, hshares.types, hshares.documents⟩, fun (hmissing : ∀ d ∈ e.types, ¬ Wanted name d) => ?_,
    fun i d (hfirst : First name e.types i d) => ?_⟩
  · rw [hrun, plan_only_missing hname hmissing]
    rfl
  · obtain ⟨hi, hd⟩ := List.getElem?_eq_some_iff.mp hfirst.there
    have hi' : i < parts.length := hshares.split.length_eq ▸ hi
    have hsplit := hshares.split.get hi hi'
    refine ⟨parts[i], List.getElem?_eq_getElem hi', ?_⟩
    simp only [List.get_eq_getElem, hd] at hsplit
    rw [hrun, plan_only hname hfirst hsplit]
    rfl

end

/-- Three types, of which the second and the third have the same name but for the case of letters. -/
def nameTwins : Text :=
  ("class B\n\x7b\n    void L() { }\n\x7d\nclass Ab\n\x7b\n    public void M() { }\n    void N() { }\n\x7d\n" ++
    "class AB\n\x7b\n    void K() { }\n\x7d\n").toList

/-- A dry run for all of them finds them in order, and the first of the twins is split into two files. -/
theorem nameTwins_found :
    ∃ outcome, (perform (run Journal.host plainSplitter .default plainRequest.dry) (oneSource nameTwins)).1 = .ok outcome ∧
      outcome.extraction.types.map (fun d => d.name) = ["B".toList, "Ab".toList, "AB".toList] ∧
      outcome.summary.types.map (fun d => d.groups.length) = [1, 2, 1] := by
  have hfound :
      ((perform (run Journal.host plainSplitter .default plainRequest.dry) (oneSource nameTwins)).1.toOption.elim [] fun
        outcome => outcome.extraction.types.map fun d => d.name) = ["B".toList, "Ab".toList, "AB".toList] ∧
      ((perform (run Journal.host plainSplitter .default plainRequest.dry) (oneSource nameTwins)).1.toOption.elim [] fun
        outcome => outcome.summary.types.map fun d => d.groups.length) = [1, 2, 1] := by
    rw [plainSplitter, Extraction.defaultScanner_eq]
    decide +kernel
  cases hrun : (perform (run Journal.host plainSplitter .default plainRequest.dry) (oneSource nameTwins)).1 with
  | error e =>
    rw [hrun] at hfound
    cases hfound.1
  | ok outcome =>
    rw [hrun] at hfound
    exact ⟨outcome, rfl, hfound⟩

/-- The run for the name of the twins gives the share of the first of them, and there is no type by another name. -/
theorem the_first_twin_keeps_its_share :
    ∃ outcome alone summary,
      (perform (run Journal.host plainSplitter .default plainRequest.dry) (oneSource nameTwins)).1 = .ok outcome ∧
      (perform (run Journal.host plainSplitter .default (plainRequest.dry.only " aB ".toList)) (oneSource nameTwins)).1 =
        .ok alone ∧
      outcome.summary.types[1]? = some summary ∧ summary.groups.length = 2 ∧ alone.summary.types = [summary] ∧
      alone.extraction = outcome.extraction ∧
      (perform (run Journal.host plainSplitter .default (plainRequest.dry.only ['C'])) (oneSource nameTwins)).1 =
        .error (.typeMissing ['C']) := by
  obtain ⟨outcome, hrun, hnames, hcounts⟩ := nameTwins_found
  have hall : plainRequest.dry.WantsAll := .inl rfl
  have htwins : " aB ".toList ≠ [] := List.cons_ne_nil _ _
  obtain ⟨parts, hshares, -, hfirst⟩ := a_type_keeps_its_share hall rfl htwins hrun
  obtain ⟨-, -, hmissing, -⟩ := a_type_keeps_its_share hall rfl (List.cons_ne_nil 'C' []) hrun
  simp only [List.map_eq_cons_iff, List.map_eq_nil_iff] at hnames
  obtain ⟨b, _, htypes, hb, first, _, rfl, hab, second, _, rfl, hAB, rfl⟩ := hnames
  have htwin : First " aB ".toList outcome.extraction.types 1 first := by
    rw [htypes]
    refine ⟨rfl, ?_, ?_⟩
    · rw [Wanted, hab]
      decide
    · intro k hk x hx
      obtain rfl : k = 0 := by omega
      cases hx
      rw [Wanted, hb]
      decide
  obtain ⟨share, hshare, halone⟩ := hfirst 1 first htwin
  have hsummary : outcome.summary.types[1]? = some share.summary := by
    rw [hshares.types, List.getElem?_map, hshare]
    rfl
  have hcount : share.summary.groups.length = 2 := by
    have := congrArg (·[1]?) hcounts
    simpa [List.getElem?_map, hsummary] using this
  refine ⟨outcome, _, share.summary, hrun, halone, hsummary, hcount, rfl, rfl, hmissing ?_⟩
  intro d hd
  rw [htypes] at hd
  simp only [List.mem_cons, List.not_mem_nil, or_false] at hd
  rcases hd with rfl | rfl | rfl
  · rw [Wanted, hb]
    decide
  · rw [Wanted, hab]
    decide
  · rw [Wanted, hAB]
    decide

end TypeSplit.Run
