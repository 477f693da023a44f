/-
  TypeSplit.Proofs.Writing — what a successful run leaves in a store.

  `Succeeds x j a j'` says that an action turns the journal `j` into `j'` and answers `a`; it comes apart along the
  binds of the action. From it follows what a successful run did (`run_succeeds`): the types of some text were
  found, each selected type was split, and the documents were written over the store one after another, so the
  last document with a target is the one that stays there (`get?_writeAll`).
-/

import Mathlib.Data.List.Forall2
import TypeSplit.Proofs.Delivery
import TypeSplit.Run.Journal

namespace TypeSplit

/-! ## Results that may fail -/

section

variable {α β ε δ : Type}

theorem bind_eq_ok {x : Except ε α} {f : α → Except ε β} {b : β} :
    (x >>= f) = .ok b ↔ ∃ a, x = .ok a ∧ f a = .ok b := by
  cases x <;> simp [bind, Except.bind]

theorem pure_eq_ok {a b : α} : (pure a : Except ε α) = .ok b ↔ a = b := by
  simp [pure, Except.pure]

theorem map_eq_ok {f : α → β} {x : Except ε α} {b : β} : x.map f = .ok b ↔ ∃ a, x = .ok a ∧ f a = b := by
  cases x <;> simp [Except.map]

theorem mapError_eq_ok {f : ε → δ} {x : Except ε α} {a : α} : x.mapError f = .ok a ↔ x = .ok a := by
  cases x <;> simp [Except.mapError]

theorem forall₂_of_mapM_ok {f : α → Except ε β} {xs : List α} {ys : List β} (h : xs.mapM f = .ok ys) :
    List.Forall₂ (fun x y => f x = .ok y) xs ys := by
  induction xs generalizing ys with
  | nil =>
    rw [List.mapM_nil, pure_eq_ok] at h
    rw [← h]
    exact .nil
  | cons x xs ih =>
    simp only [List.mapM_cons, bind_eq_ok, pure_eq_ok] at h
    obtain ⟨y, hx, rest, hxs, rfl⟩ := h
    exact .cons hx (ih hxs)

theorem exists_of_forall₂ {R : α → β → Prop} {xs : List α} {ys : List β} (h : List.Forall₂ R xs ys) {x : α}
    (hx : x ∈ xs) : ∃ y ∈ ys, R x y := by
  induction h with
  | nil => simp at hx
  | cons hab _ ih =>
    rcases List.mem_cons.mp hx with rfl | hx
    · exact ⟨_, List.mem_cons_self, hab⟩
    · obtain ⟨y, hy, hxy⟩ := ih hx
      exact ⟨y, List.mem_cons_of_mem _ hy, hxy⟩

end

end TypeSplit

namespace TypeSplit.Files

/-- What stands under other paths does not depend on the entries of one path. -/
theorem lookup_filter_of_ne {β : Type} {p q : Path} {entries : List (Path × β)} (h : q ≠ p) :
    (entries.filter (·.1 ≠ p)).lookup q = entries.lookup q := by
  induction entries with
  | nil => rfl
  | cons x xs ih =>
    obtain ⟨k, value⟩ := x
    by_cases hk : k = p
    · subst hk
      have hbeq : (q == k) = false := by simpa using h
      simpa [List.lookup_cons, hbeq] using ih
    · simp only [hk, List.lookup_cons, List.filter_cons_of_pos, ne_eq, not_false_eq_true, decide_true, ih]

end TypeSplit.Files

namespace TypeSplit.Files.Store

variable {s : Store} {p q : Path} {t : Text}

theorem get?_insert_self : (s.insert p t).get? p = some t := by
  simp [get?, insert]

theorem get?_insert_of_ne (h : q ≠ p) : (s.insert p t).get? q = s.get? q := by
  have hbeq : (q == p) = false := by simpa using h
  simp only [get?, insert, List.lookup_cons, hbeq]
  exact lookup_filter_of_ne h

end TypeSplit.Files.Store

namespace TypeSplit.Run

open TypeSplit.Files (Store)
open TypeSplit.Splitting (Document)

/-! ## Successful actions -/

/-- The action answers `a` and turns the journal `j` into `j'`. -/
def Succeeds {α : Type} (x : ExceptT Error (StateM Journal) α) (j : Journal) (a : α) (j' : Journal) : Prop :=
  Id.run (x.run.run j) = (.ok a, j')

section

variable {α β : Type} {j j' : Journal}

theorem succeeds_bind {x : ExceptT Error (StateM Journal) α} {f : α → ExceptT Error (StateM Journal) β} {b : β} :
    Succeeds (x >>= f) j b j' ↔ ∃ a k, Succeeds x j a k ∧ Succeeds (f a) k b j' := perform_bind_eq_ok

theorem succeeds_pure {a b : α} : Succeeds (pure a) j b j' ↔ a = b ∧ j = j' := perform_pure_eq_ok

/-- An action that succeeds under its own errors succeeds under those of a run. -/
theorem succeeds_mapError {ε : Type} {action : StateM Journal (Except ε α)} {f : ε → Error} {a : α} :
    Succeeds (ExceptT.mk do return (← action).mapError f) j a j' ↔ Id.run (action.run j) = (.ok a, j') :=
  perform_mapError_eq_ok

theorem enter_ok {f : Store → Except Files.Error Store} {note : Journal → Journal} {u : Unit}
    (h : Id.run ((Journal.enter f note).run j) = (.ok u, j')) :
    ∃ s, f j.store = .ok s ∧ j' = note { j with store := s } := by
  simp only [Journal.enter, StateT.run] at h
  split at h
  · rename_i s hs
    cases h
    exact ⟨s, hs, rfl⟩
  · cases h

theorem store_tell {r : Record} {u : Unit} (h : Succeeds (Journal.host.tell r) j u j') : j'.store = j.store := by
  simp only [Succeeds, Host.tell, ExceptT.run_lift, StateT.run_map, Journal.host] at h
  simp only [StateT.run_modify, Id.run_map] at h
  cases h
  rfl

end

/-! ## Writing -/

def writeAll (s : Store) (output : Path) (documents : List Document) : Store :=
  documents.foldl (fun s d => s.insert (target output d) (Encoding.ofLines d.lines)) s

section

variable {store : Store} {output : Path} {documents : List Document} {j j' : Journal} {u : Unit}

theorem get?_writeAll_of_not_mem {p : Path} (h : p ∉ documents.map (target output)) :
    (writeAll store output documents).get? p = store.get? p := by
  induction documents generalizing store with
  | nil => rfl
  | cons d ds ih =>
    simp only [List.map_cons, List.mem_cons, not_or] at h
    exact (ih h.2).trans (Store.get?_insert_of_ne h.1)

/-- Documents with targets of their own are all there in the end. -/
theorem get?_writeAll (hn : (documents.map (target output)).Nodup) {d : Document} (hd : d ∈ documents) :
    (writeAll store output documents).get? (target output d) = some (Encoding.ofLines d.lines) := by
  induction documents generalizing store with
  | nil => simp at hd
  | cons x xs ih =>
    rw [List.map_cons, List.nodup_cons] at hn
    rcases List.mem_cons.mp hd with rfl | hd
    · exact (get?_writeAll_of_not_mem hn.1).trans Store.get?_insert_self
    · exact ih hn.2 hd

theorem store_writeLines {p : Path} {lines : List Text}
    (h : Id.run ((Journal.files.writeLines p lines).run j) = (.ok u, j')) :
    j'.store = j.store.insert p (Encoding.ofLines lines) := by
  simp only [Journal.files] at h
  obtain ⟨s, hs, rfl⟩ := enter_ok h
  simp only [Store.writeLines] at hs
  split at hs
  · cases hs
  · exact (Except.ok.inj hs).symm

theorem store_writeDocument {d : Document} {t : Text} (h : Succeeds (writeDocument Journal.host output d) j t j') :
    j'.store = j.store.insert (target output d) (Encoding.ofLines d.lines) := by
  simp only [writeDocument, succeeds_bind, succeeds_pure] at h
  obtain ⟨_, k, hwrite, _, _, htell, -, rfl⟩ := h
  rw [store_tell htell]
  exact store_writeLines (succeeds_mapError.mp hwrite)

theorem store_writeDocuments {written : List Text}
    (h : Succeeds (documents.mapM (writeDocument Journal.host output)) j written j') :
    j'.store = writeAll j.store output documents := by
  induction documents generalizing j written with
  | nil =>
    simp only [List.mapM_nil, succeeds_pure] at h
    rw [← h.2]
    rfl
  | cons d ds ih =>
    simp only [List.mapM_cons, succeeds_bind, succeeds_pure] at h
    obtain ⟨_, k, hd, _, _, hds, -, rfl⟩ := h
    rw [ih hds, store_writeDocument hd]
    rfl

/-- The documents are written over a store that was there before. -/
theorem store_write {s : Settings} {written : List Text} (h : Succeeds (write Journal.host s output documents) j written j') :
    ∃ before, j'.store = writeAll before output documents := by
  simp only [write] at h
  -- The directory is made or not; the documents follow in either case.
  split at h <;> simp only [succeeds_bind, succeeds_pure] at h
  · obtain ⟨_, _, hdocs, _, _, htell, -, rfl⟩ := h
    exact ⟨j.store, (store_tell htell).trans (store_writeDocuments hdocs)⟩
  · obtain ⟨_, k, -, _, _, hdocs, _, _, htell, -, rfl⟩ := h
    exact ⟨k.store, (store_tell htell).trans (store_writeDocuments hdocs)⟩

end

/-! ## Runs -/

section

variable {σ : Type} {host : Host (StateM σ)}

/-- A list of actions that succeeds is a list of actions that succeed, each with its own answer. -/
theorem perform_mapM_ok {α β : Type} {f : α → ExceptT Error (StateM σ) β} {R : α → β → Prop}
    (hf : ∀ {a b j j'}, perform (f a) j = (.ok b, j') → R a b) {xs : List α} {ys : List β} {j j' : σ}
    (h : perform (xs.mapM f) j = (.ok ys, j')) : List.Forall₂ R xs ys := by
  induction xs generalizing ys j j' with
  | nil =>
    simp only [List.mapM_nil, perform_pure_eq_ok] at h
    rw [← h.1]
    exact .nil
  | cons x xs ih =>
    simp only [List.mapM_cons, perform_bind_eq_ok, perform_pure_eq_ok] at h
    obtain ⟨y, _, hx, ys', _, hxs, rfl, -⟩ := h
    exact .cons (hf hx) (ih hxs)

theorem writeDocument_ok {output : Path} {d : Document} {t : Text} {j j' : σ}
    (h : perform (writeDocument host output d) j = (.ok t, j')) : (target output d).text = t := by
  simp only [writeDocument, perform_bind_eq_ok, perform_pure_eq_ok] at h
  obtain ⟨_, _, -, _, _, -, rfl, -⟩ := h
  rfl

theorem writeDocuments_ok {output : Path} {documents : List Document} {written : List Text} {j j' : σ}
    (h : perform (documents.mapM (writeDocument host output)) j = (.ok written, j')) :
    written = documents.map fun d => (target output d).text := by
  have hpaths := perform_mapM_ok writeDocument_ok h
  rw [eq_comm, ← List.forall₂_eq_eq_eq, List.forall₂_map_left_iff]
  exact hpaths

/-- The paths that a run gathers while it writes are those of its documents, in order. -/
theorem write_ok {s : Settings} {output : Path} {documents : List Document} {written : List Text} {j j' : σ}
    (h : perform (write host s output documents) j = (.ok written, j')) :
    written = documents.map fun d => (target output d).text := by
  simp only [write] at h
  split at h <;> simp only [perform_bind_eq_ok, perform_pure_eq_ok] at h
  · obtain ⟨_, _, hdocs, _, _, -, rfl, -⟩ := h
    exact writeDocuments_ok hdocs
  · obtain ⟨_, _, -, _, _, hdocs, _, _, -, rfl, -⟩ := h
    exact writeDocuments_ok hdocs

theorem foretell_ok {output : Path} {documents : List Document} {written : List Text} {j j' : σ}
    (h : perform (foretell host output documents) j = (.ok written, j')) :
    written = documents.map fun d => (target output d).text := by
  simp only [foretell, perform_bind_eq_ok, perform_pure_eq_ok] at h
  obtain ⟨_, _, -, rfl, -⟩ := h
  rfl

variable {splitter : Splitter} {s : Settings} {request : Request}

/-- The types that a run finds are those of the text that the host gives for the source. -/
theorem parse_ok {source : Path} {e : Extraction} {j j' : σ} (h : perform (parse host splitter s source) j = (.ok e, j')) :
    ∃ t k, ((host.files.readText source).run k).1 = .ok t ∧ e = splitter.extract t := by
  simp only [parse, perform_bind_eq_ok, perform_pure_eq_ok] at h
  obtain ⟨_, _, -, _, k, -, t, _, hread, _, _, -, _, _, -, _, _, -, rfl, -⟩ := h
  exact ⟨t, k, congrArg Prod.fst (perform_mapError_eq_ok.mp hread), rfl⟩

variable [NamePattern.Objects]

/-- What a run has prepared, whatever the host: the types of the source were found, and each selected one was split. -/
theorem prepare_ok {outcome : Outcome} {j j' : σ} (h : perform (prepare host splitter s request) j = (.ok outcome, j')) :
    ∃ t k selected parts, ((host.files.readText request.source).run k).1 = .ok t ∧
      selectTypes (splitter.extract t).types request.typeName = .ok selected ∧
      List.Forall₂ (fun d p => splitType (splitter.styleOf s request.source) (splitter.extract t).usings
        (effectiveCount s request) d = .ok p) selected parts ∧
      outcome = ⟨summarise request (effectiveCount s request) (splitter.extract t) parts, splitter.extract t,
        parts.flatMap (·.documents)⟩ := by
  simp only [prepare, perform_bind_eq_ok, perform_answer_eq_ok, perform_pure_eq_ok] at h
  obtain ⟨e, _, hparse, selected, _, ⟨hselect, -⟩, parts, _, hparts, rfl, -⟩ := h
  obtain ⟨t, k, hread, rfl⟩ := parse_ok hparse
  refine ⟨t, k, selected, parts, hread, hselect, perform_mapM_ok ?_ hparts, rfl⟩
  intro d p _ _ hsplit
  simp only [splitAndTell, perform_bind_eq_ok, perform_answer_eq_ok, perform_pure_eq_ok] at hsplit
  obtain ⟨_, _, ⟨hd, -⟩, _, _, -, rfl, -⟩ := hsplit
  exact hd

/-- The outcome of a run is what it prepared, with the paths of its documents, whether it wrote them or not. -/
theorem run_ok {outcome : Outcome} {j j' : σ} (h : perform (run host splitter s request) j = (.ok outcome, j')) :
    ∃ prepared k, perform (prepare host splitter s request) j = (.ok prepared, k) ∧
      outcome = prepared.wrote (prepared.documents.map fun d => (target request.output d).text) := by
  simp only [run, perform_bind_eq_ok] at h
  obtain ⟨prepared, k, hprepare, hrest⟩ := h
  split at hrest <;> simp only [perform_bind_eq_ok, perform_pure_eq_ok] at hrest
  · obtain ⟨_, _, hforetold, rfl, -⟩ := hrest
    exact ⟨prepared, k, hprepare, congrArg _ (foretell_ok hforetold)⟩
  · obtain ⟨_, _, hwrite, rfl, -⟩ := hrest
    exact ⟨prepared, k, hprepare, congrArg _ (write_ok hwrite)⟩

/-- What a run has settled before it writes, and the paths that it tells: the types it found, those it splits, and their
parts. -/
structure Prepared (splitter : Splitter) (s : Settings) (request : Request) (outcome : Outcome) where
  text : Text
  selected : List TypeDeclaration
  parts : List Parts
  extraction_eq : outcome.extraction = splitter.extract text
  select : selectTypes outcome.extraction.types request.typeName = .ok selected
  split : List.Forall₂ (fun d p => splitType (splitter.styleOf s request.source) outcome.extraction.usings
    (effectiveCount s request) d = .ok p) selected parts
  documents_eq : outcome.documents = parts.flatMap (·.documents)
  written_eq : outcome.summary.written = outcome.documents.map fun d => (target request.output d).text

/-- The outcome of a run was prepared, whatever the host. -/
theorem prepared_of_run {outcome : Outcome} {j : σ} (h : (perform (run host splitter s request) j).1 = .ok outcome) :
    Nonempty (Prepared splitter s request outcome) := by
  have hrun : perform (run host splitter s request) j = (.ok outcome, (perform (run host splitter s request) j).2) :=
    Prod.ext h rfl
  obtain ⟨prepared, k, hprepare, rfl⟩ := run_ok hrun
  obtain ⟨t, -, selected, parts, -, hselect, hsplit, rfl⟩ := prepare_ok hprepare
  exact ⟨⟨t, selected, parts, rfl, hselect, hsplit, rfl, rfl⟩⟩

variable {j j' : Journal}

theorem run_succeeds (hd : request.dryRun = false) {outcome : Outcome}
    (h : Succeeds (run Journal.host splitter s request) j outcome j') :
    Nonempty (Prepared splitter s request outcome) ∧
      ∃ before, j'.store = writeAll before request.output outcome.documents := by
  refine ⟨prepared_of_run (congrArg Prod.fst h), ?_⟩
  simp only [run, hd, Bool.false_eq_true, if_false, succeeds_bind, succeeds_pure] at h
  obtain ⟨prepared, _, -, _, _, hwrite, rfl, rfl⟩ := h
  exact store_write hwrite

end

end TypeSplit.Run
