/-
  TypeSplit.Proofs.Accounting — what a run tells of what it made.

  A run makes three lists in three places: the documents, the summaries of the types, and the paths of the files. A type
  without members has a summary and no document, so the lists do not run side by side. They tell of the same things all
  the same. The members of a type are dealt into groups, each member once; each group has one document, and the
  documents are numbered from one (`TypeAccounted`). What the summary tells of a group is true of the group and of its
  document (`Told`). The documents and the paths of a run are those of its types, in order (`Accounted`).
  - `splitType_accounted`: one type that was split is accounted for.
  - `successful_run_is_accounted`: every run that succeeds is, dry or not, whatever the host.
-/

import Mathlib.Algebra.Ring.Nat
import TypeSplit.Proofs.DryRun

namespace TypeSplit.Run

open TypeSplit.Report (GroupSummary)
open TypeSplit.Splitting (Document Style)

section

variable [NamePattern.Objects]

/-! ## One type -/

/-- The document declares the members of a group as a part of a type. -/
structure Declares (style : Style) (usings : List Text) (d : TypeDeclaration) (group : List Member) (document : Document) :
    Prop where
  typeName : document.typeName = d.name
  fileName : style.fileName d.name document.part = .ok document.fileName
  lines : Splitting.render style usings d group = .ok document.lines

/-- What is told of a part is true of its group and of its document. -/
structure Told (count : Option Int) (group : List Member) (document : Document) (told : GroupSummary) : Prop where
  fileName : told.fileName = document.fileName
  memberNames : told.memberNames = group.map (·.name)
  /-- Without a count a group is told by its exposed and its hidden members, and has only ones of one kind. -/
  byVisibility : count = none → ∃ exposed hidden : Nat, told.exposed = some ↑exposed ∧ told.hidden = some ↑hidden ∧
    exposed = group.countP (·.exposed) ∧ exposed + hidden = group.length ∧ (exposed = 0 ↔ hidden ≠ 0)
  inTurn : count ≠ none → told.exposed = none ∧ told.hidden = none

structure TypeAccounted (style : Style) (usings : List Text) (count : Option Int) (d : TypeDeclaration)
    (groups : List (List Member)) (p : Parts) : Prop where
  dealt : Splitting.groups d.members count = .ok groups
  once : groups.flatten.Perm d.members
  declared : List.Forall₂ (Declares style usings d) groups p.documents
  numbered : p.documents.map (·.part) = (List.range' 1 groups.length).map Int.ofNat
  name : p.summary.name = d.name
  memberCount : p.summary.memberCount = d.members.length
  told : List.Forall₂ (fun x told => Told count x.1 x.2 told) (groups.zip p.documents) p.summary.groups
  total : (p.summary.groups.map (·.memberNames.length)).sum = d.members.length

section

variable {style : Style} {usings : List Text} {count : Option Int} {d : TypeDeclaration} {p : Parts}
  {groups : List (List Member)}

omit [NamePattern.Objects] in
theorem told_groupSummary (hg : Splitting.groups d.members count = .ok groups) {group : List Member}
    (hmem : group ∈ groups) (document : Document) : Told count group document (groupSummary count group document) where
  fileName := rfl
  memberNames := rfl
  byVisibility := by
    rintro rfl
    obtain rfl : Splitting.byVisibility d.members = groups := Except.ok.inj hg
    obtain ⟨hpos, hkind⟩ := Splitting.of_mem_byVisibility hmem
    have hcount : Splitting.exposedCount group = group.countP (·.exposed) := List.countP_eq_length_filter.symm
    refine ⟨Splitting.exposedCount group, Splitting.hiddenCount group, rfl, rfl, hcount, ?_⟩
    unfold Splitting.hiddenCount
    omega
  inTurn := by
    intro hsome
    cases count with
    | none => exact absurd rfl hsome
    | some n => exact ⟨rfl, rfl⟩

/-- The documents of a type are told apart by their numbers, from one on. -/
theorem documents_numbered {documents : List Document}
    (h : List.Forall₂ (fun x doc => Splitting.document style usings d x.1 (x.2 : Nat) = .ok doc) (groups.zipIdx 1)
      documents) : documents.map (·.part) = (List.range' 1 groups.length).map Int.ofNat := by
  have hparts : List.Forall₂ (fun x doc => Int.ofNat x.2 = doc.part) (groups.zipIdx 1) documents :=
    h.imp fun _ _ hx => (Splitting.document_ok hx).2.1.symm
  rw [← List.zipIdx_map_snd 1 groups, List.map_map, eq_comm, ← List.forall₂_eq_eq_eq, List.forall₂_map_left_iff,
    List.forall₂_map_right_iff]
  exact hparts

theorem documents_declare {documents : List Document}
    (h : List.Forall₂ (fun x doc => Splitting.document style usings d x.1 (x.2 : Nat) = .ok doc) (groups.zipIdx 1)
      documents) : List.Forall₂ (Declares style usings d) groups documents := by
  rw [← List.zipIdx_map_fst 1 groups, List.forall₂_map_left_iff]
  refine h.imp fun x doc hx => ?_
  obtain ⟨hname, hpart, hfile, hlines⟩ := Splitting.document_ok hx
  exact ⟨hname, hpart ▸ hfile, hlines⟩

omit [NamePattern.Objects] in
/-- The names that are told of the groups are as many as the members of the type. -/
theorem told_total (hg : Splitting.groups d.members count = .ok groups) {documents : List Document}
    (hlength : groups.length = documents.length) :
    ((groups.zipWith (groupSummary count) documents).map (·.memberNames.length)).sum = d.members.length := by
  have hsizes : (groups.zipWith (groupSummary count) documents).map (·.memberNames.length) = groups.map List.length := by
    calc (groups.zipWith (groupSummary count) documents).map (·.memberNames.length)
        = (groups.zip documents).map (List.length ∘ Prod.fst) := by
          rw [← List.map_uncurry_zip_eq_zipWith, List.map_map]
          exact List.map_congr_left fun x _ => List.length_map ..
      _ = groups.map List.length := by
          rw [← List.map_map, List.map_fst_zip (Nat.le_of_eq hlength)]
  rw [hsizes, ← List.length_flatten]
  exact (Splitting.groups_flatten_perm hg).length_eq

theorem splitType_accounted (h : splitType style usings count d = .ok p) :
    ∃ groups, TypeAccounted style usings count d groups p := by
  simp only [splitType, bind_eq_ok, mapError_eq_ok, pure_eq_ok] at h
  obtain ⟨groups, hg, documents, hdocs, rfl⟩ := h
  have hdocs := (forall₂_of_mapM_ok hdocs).imp fun _ _ hx => mapError_eq_ok.mp hx
  have hdeclared := documents_declare hdocs
  refine ⟨groups, hg, Splitting.groups_flatten_perm hg, hdeclared, documents_numbered hdocs, rfl, rfl, ?_,
    told_total hg hdeclared.length_eq⟩
  rw [← List.map_uncurry_zip_eq_zipWith, List.forall₂_map_right_iff]
  refine List.forall₂_same.mpr fun x hx => ?_
  exact told_groupSummary hg (List.of_mem_zip hx).1 x.2

end

/-! ## A whole run -/

/-- The outcome of a run accounts for the types that it selected in a text, in order. -/
structure Accounted (splitter : Splitter) (s : Settings) (request : Request) (t : Text) (selected : List TypeDeclaration)
    (parts : List Parts) (outcome : Outcome) : Prop where
  extraction : outcome.extraction = splitter.extract t
  select : selectTypes outcome.extraction.types request.typeName = .ok selected
  types : List.Forall₂ (fun d p => ∃ groups, TypeAccounted (splitter.styleOf s request.source) outcome.extraction.usings
    (effectiveCount s request) d groups p) selected parts
  documents : outcome.documents = parts.flatMap (·.documents)
  summaries : outcome.summary.types = parts.map (·.summary)
  splitCount : outcome.summary.splitCount = effectiveCount s request
  policy : outcome.summary.policy = policyName (effectiveCount s request)
  written : outcome.summary.written = outcome.documents.map fun d => (request.output.join (.ofText d.fileName)).text

/-- Every run that succeeds is accounted for by the text that the host gave for the source. -/
theorem successful_run_is_accounted {σ : Type} {host : Host (StateM σ)} {splitter : Splitter} {s : Settings}
    {request : Request} {j : σ} {outcome : Outcome} (h : (perform (run host splitter s request) j).1 = .ok outcome) :
    ∃ t k selected parts, ((host.files.readText request.source).run k).1 = .ok t ∧
      Accounted splitter s request t selected parts outcome := by
  have hrun : perform (run host splitter s request) j = (.ok outcome, (perform (run host splitter s request) j).2) :=
    Prod.ext h rfl
  obtain ⟨prepared, _, hprepare, rfl⟩ := run_ok hrun
  obtain ⟨t, k, selected, parts, hread, hselect, hsplit, rfl⟩ := prepare_ok hprepare
  refine ⟨t, k, selected, parts, hread, rfl, hselect, ?_, rfl, rfl, rfl, rfl, rfl⟩
  exact hsplit.imp fun _ _ hp => splitType_accounted hp

end

/-- Two types, of which the first has an exposed and a hidden member: three documents, all accounted for. -/
theorem two_types_are_accounted :
    ∃ outcome t selected parts,
      (perform (run Journal.host plainSplitter .default plainRequest) (oneSource twoTypes)).1 = .ok outcome ∧
      outcome.documents.length = 3 ∧ Accounted plainSplitter .default plainRequest t selected parts outcome := by
  obtain ⟨outcome, hrun, hlength⟩ : ∃ outcome,
      (perform (run Journal.host plainSplitter .default plainRequest) (oneSource twoTypes)).1 = .ok outcome ∧
        outcome.documents.length = 3 := exists_documents (by decide +kernel)
  obtain ⟨t, -, selected, parts, -, haccounted⟩ := successful_run_is_accounted hrun
  exact ⟨outcome, t, selected, parts, hrun, hlength, haccounted⟩

end TypeSplit.Run
