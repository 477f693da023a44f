/-
  TypeSplit.Proofs.Delivery — how the writing of documents ends.

  A host keeps its files somewhere in its state, beside the log and whatever else it has. `Effects` tells a file system
  by the files alone: what it answers, and the files afterwards. `Shows` says that a host does to its files what the
  effects tell, and that looking and logging leave the files as they are.

  Documents are written after the output directory is there (`Ready`), one after another (`Written`). `Stops` lists
  every way in which that can end early, with the error and the files that are left: the directory cannot be looked
  at, it is missing and may not or cannot be made, or a document cannot be written after those before it.
  - `delivery_total`: the documents are all written, or the writing stops.
  - `ends_write`, `ends_write_stopped`: the writing of a run ends as these tell.
-/

import TypeSplit.Run.Basic

namespace TypeSplit.Run

open TypeSplit.Files (FileSystem)
open TypeSplit.Splitting (Document)

/-! ## How actions end -/

section

variable {σ φ α β : Type} {files : σ → φ} {j : σ} {s s' : φ}

/-- What becomes of an action: its answer or its error, and the state afterwards. -/
def perform (x : ExceptT Error (StateM σ) α) (j : σ) : Except Error α × σ := Id.run (x.run.run j)

/-- The action ends with a result and leaves the files `s`. -/
def Ends (files : σ → φ) (x : ExceptT Error (StateM σ) α) (j : σ) (r : Except Error α) (s : φ) : Prop :=
  (perform x j).1 = r ∧ files (perform x j).2 = s

theorem perform_bind_ok {x : ExceptT Error (StateM σ) α} {f : α → ExceptT Error (StateM σ) β} {a : α} {k : σ}
    (h : perform x j = (.ok a, k)) : perform (x >>= f) j = perform (f a) k := by
  unfold perform at *
  rw [ExceptT.run_bind, StateT.run_bind, Id.run_bind, h]

theorem perform_bind_error {x : ExceptT Error (StateM σ) α} {f : α → ExceptT Error (StateM σ) β} {e : Error} {k : σ}
    (h : perform x j = (.error e, k)) : perform (x >>= f) j = (.error e, k) := by
  unfold perform at *
  rw [ExceptT.run_bind, StateT.run_bind, Id.run_bind, h]
  rfl

/-- Actions in a row succeed exactly if each succeeds where the one before it ended. -/
theorem perform_bind_eq_ok {x : ExceptT Error (StateM σ) α} {f : α → ExceptT Error (StateM σ) β} {b : β} {j' : σ} :
    perform (x >>= f) j = (.ok b, j') ↔ ∃ a k, perform x j = (.ok a, k) ∧ perform (f a) k = (.ok b, j') := by
  constructor
  · intro h
    rcases hx : perform x j with ⟨e | a, k⟩
    · rw [perform_bind_error hx] at h
      cases h
    · rw [perform_bind_ok hx] at h
      exact ⟨a, k, rfl, h⟩
  · rintro ⟨a, k, hx, hf⟩
    rw [perform_bind_ok hx]
    exact hf

theorem perform_pure_eq_ok {a b : α} {j' : σ} :
    perform (pure a : ExceptT Error (StateM σ) α) j = (.ok b, j') ↔ a = b ∧ j = j' := by
  simp [perform]

/-- An answer that is there without a look at the state. -/
theorem perform_answer_eq_ok {r : Except Error α} {a : α} {j' : σ} :
    perform (ExceptT.mk (pure r) : ExceptT Error (StateM σ) α) j = (.ok a, j') ↔ r = .ok a ∧ j = j' := by
  simp [perform]

/-- An action that succeeds under its own errors succeeds under those of a run. -/
theorem perform_mapError_eq_ok {ε : Type} {action : StateM σ (Except ε α)} {f : ε → Error} {a : α} {j' : σ} :
    perform (ExceptT.mk do return (← action).mapError f) j = (.ok a, j') ↔ Id.run (action.run j) = (.ok a, j') := by
  simp only [perform, ExceptT.run_mk, bind_pure_comp, StateT.run_map, Id.run_map]
  cases Id.run (action.run j) with
  | mk r k =>
    cases r with
    | ok b =>
      show ((Except.ok b : Except Error α), k) = (.ok a, j') ↔ _
      simp only [Prod.mk.injEq, Except.ok.injEq]
    | error e =>
      show ((Except.error (f e) : Except Error α), k) = (.ok a, j') ↔ _
      simp only [Prod.mk.injEq, reduceCtorEq, false_and]

theorem Ends.unique {x : ExceptT Error (StateM σ) α} {r r' : Except Error α} (h : Ends files x j r s)
    (h' : Ends files x j r' s') : r = r' ∧ s = s' :=
  ⟨h.1.symm.trans h'.1, h.2.symm.trans h'.2⟩

theorem Ends.bind {x : ExceptT Error (StateM σ) α} {f : α → ExceptT Error (StateM σ) β} {a : α} {r : Except Error β}
    (hx : Ends files x j (.ok a) s) (hf : ∀ k, files k = s → Ends files (f a) k r s') :
    Ends files (x >>= f) j r s' := by
  have hperform : perform x j = (.ok a, (perform x j).2) := Prod.ext hx.1 rfl
  unfold Ends
  rw [perform_bind_ok hperform]
  exact hf _ hx.2

theorem Ends.bind_error {x : ExceptT Error (StateM σ) α} {f : α → ExceptT Error (StateM σ) β} {e : Error}
    (hx : Ends files x j (.error e) s) : Ends files (x >>= f) j (.error e) s := by
  have hperform : perform x j = (.error e, (perform x j).2) := Prod.ext hx.1 rfl
  unfold Ends
  rw [perform_bind_error hperform]
  exact ⟨rfl, hx.2⟩

theorem ends_pure (a : α) : Ends files (pure a) j (.ok a) (files j) := ⟨rfl, rfl⟩

theorem ends_throw (e : Error) : Ends files (throw e : ExceptT Error (StateM σ) α) j (.error e) (files j) := ⟨rfl, rfl⟩

/-- An action of the file system ends in a run as it ends by itself, with its error turned into one of a run. -/
theorem ends_mapError {action : StateM σ (Except Files.Error α)} (f : Files.Error → Error)
    {answer : Except Files.Error α} (h : (action.run j).1 = answer ∧ files (action.run j).2 = s) :
    Ends files (ExceptT.mk do return (← action).mapError f) j (answer.mapError f) s := by
  obtain ⟨rfl, rfl⟩ := h
  exact ⟨rfl, rfl⟩

end

/-! ## File systems told by their files -/

/-- What a file system answers to a run that writes, and the files afterwards, whether it succeeds or fails. -/
structure Effects (φ : Type) where
  isDirectory : φ → Path → Except Files.Error Bool
  createDirectory : φ → Path → Except Files.Error Unit × φ
  writeLines : φ → Path → List Text → Except Files.Error Unit × φ

/-- The host keeps its files in its state, and does to them what the effects tell. -/
structure Shows {σ φ : Type} (host : Host (StateM σ)) (files : σ → φ) (fx : Effects φ) : Prop where
  log : ∀ r j, files ((host.log r).run j).2 = files j
  isFile : ∀ p j, files ((host.files.isFile p).run j).2 = files j
  fileSize : ∀ p j, files ((host.files.fileSize p).run j).2 = files j
  readText : ∀ p j, files ((host.files.readText p).run j).2 = files j
  isDirectory : ∀ p j, ((host.files.isDirectory p).run j).1 = fx.isDirectory (files j) p ∧
    files ((host.files.isDirectory p).run j).2 = files j
  createDirectory : ∀ p j, ((host.files.createDirectory p).run j).1 = (fx.createDirectory (files j) p).1 ∧
    files ((host.files.createDirectory p).run j).2 = (fx.createDirectory (files j) p).2
  writeLines : ∀ p lines j, ((host.files.writeLines p lines).run j).1 = (fx.writeLines (files j) p lines).1 ∧
    files ((host.files.writeLines p lines).run j).2 = (fx.writeLines (files j) p lines).2

/-! ## Ways to end -/

def directoryError (directory : Path) (e : Files.Error) : Error :=
  if e.isSystem then .directoryFailed directory e else .file e

def writeError (target : Path) (e : Files.Error) : Error := if e.isSystem then .writeFailed target e else .file e

section

variable {φ : Type} (fx : Effects φ) (mayCreate : Bool) (output : Path)

inductive Ready (documents : List Document) : φ → φ → Prop
  | idle {s : φ} : documents = [] → Ready documents s s
  | there {s : φ} : documents ≠ [] → fx.isDirectory s output = .ok true → Ready documents s s
  | made {s s' : φ} : documents ≠ [] → fx.isDirectory s output = .ok false → mayCreate = true →
      fx.createDirectory s output = (.ok (), s') → Ready documents s s'

inductive Written : φ → List Document → φ → Prop
  | nil {s : φ} : Written s [] s
  | cons {s s' s'' : φ} {d : Document} {ds : List Document} : fx.writeLines s (target output d) d.lines = (.ok (), s') →
      Written s' ds s'' → Written s (d :: ds) s''

/-- The writing of documents ends early, with an error and the files that are left. -/
inductive Stops (documents : List Document) : φ → Error → φ → Prop
  /-- It cannot be told whether the directory is there. -/
  | unknown {s : φ} {e : Files.Error} : documents ≠ [] → fx.isDirectory s output = .error e →
      Stops documents s (.file e) s
  | missing {s : φ} : documents ≠ [] → fx.isDirectory s output = .ok false → mayCreate = false →
      Stops documents s (.directoryMissing output) s
  | unmade {s s' : φ} {e : Files.Error} : documents ≠ [] → fx.isDirectory s output = .ok false → mayCreate = true →
      fx.createDirectory s output = (.error e, s') → Stops documents s (directoryError output e) s'
  /-- The documents before `d` are written, and `d` is not. -/
  | unwritten {s mid s' s'' : φ} {done rest : List Document} {d : Document} {e : Files.Error} :
      documents = done ++ d :: rest → Ready fx mayCreate output documents s mid → Written fx output mid done s' →
      fx.writeLines s' (target output d) d.lines = (.error e, s'') →
      Stops documents s (writeError (target output d) e) s''

/-- All documents are written, or there is a first one that is not. -/
theorem written_total (documents : List Document) (s : φ) :
    (∃ s', Written fx output s documents s') ∨
      ∃ done d rest s' e s'', documents = done ++ d :: rest ∧ Written fx output s done s' ∧
        fx.writeLines s' (target output d) d.lines = (.error e, s'') := by
  induction documents generalizing s with
  | nil => exact Or.inl ⟨s, .nil⟩
  | cons d ds ih =>
    rcases hwrite : fx.writeLines s (target output d) d.lines with ⟨e | ⟨⟨⟩⟩, s₁⟩
    · exact Or.inr ⟨[], d, ds, s, e, s₁, rfl, .nil, hwrite⟩
    · rcases ih s₁ with ⟨s', hrest⟩ | ⟨done, d', rest, s', e, s'', rfl, hdone, hfail⟩
      · exact Or.inl ⟨s', .cons hwrite hrest⟩
      · exact Or.inr ⟨d :: done, d', rest, s', e, s'', rfl, .cons hwrite hdone, hfail⟩

theorem ready_total (documents : List Document) (s : φ) :
    (∃ mid, Ready fx mayCreate output documents s mid) ∨
      ∃ e after, Stops fx mayCreate output documents s e after := by
  by_cases hnil : documents = []
  · exact Or.inl ⟨s, .idle hnil⟩
  cases hlook : fx.isDirectory s output with
  | error e => exact Or.inr ⟨_, s, .unknown hnil hlook⟩
  | ok present =>
    cases present with
    | true => exact Or.inl ⟨s, .there hnil hlook⟩
    | false =>
      cases hmay : mayCreate with
      | false => exact Or.inr ⟨_, s, .missing hnil hlook rfl⟩
      | true =>
        rcases hmake : fx.createDirectory s output with ⟨⟨e⟩ | ⟨⟨⟩⟩, s'⟩
        · exact Or.inr ⟨_, s', .unmade hnil hlook rfl hmake⟩
        · exact Or.inl ⟨s', .made hnil hlook rfl hmake⟩

/-- All documents are written, or the writing stops. -/
theorem delivery_total (documents : List Document) (s : φ) :
    (∃ mid after, Ready fx mayCreate output documents s mid ∧ Written fx output mid documents after) ∨
      ∃ e after, Stops fx mayCreate output documents s e after := by
  rcases ready_total fx mayCreate output documents s with ⟨mid, hready⟩ | hstops
  · rcases written_total fx output documents mid with ⟨after, hwritten⟩ | ⟨done, d, rest, s', e, after, hsplit, hdone, hfail⟩
    · exact Or.inl ⟨mid, after, hready, hwritten⟩
    · exact Or.inr ⟨_, after, .unwritten hsplit hready hdone hfail⟩
  · exact Or.inr hstops

end

/-! ## The writing of a run -/

namespace Shows

variable {σ φ : Type} {host : Host (StateM σ)} {files : σ → φ} {fx : Effects φ} {s : Settings} {output : Path}
  {documents : List Document} {j : σ} {before after mid : φ}

theorem ends_tell (h : Shows host files fx) (r : Record) (hj : files j = before) :
    Ends files (host.tell r) j (.ok ()) before :=
  ⟨rfl, (h.log r j).trans hj⟩

theorem ends_look (h : Shows host files fx) {p : Path} {answer : Except Files.Error Bool} (hj : files j = before)
    (hlook : fx.isDirectory before p = answer) :
    Ends files (Host.ask (host.files.isDirectory p)) j (answer.mapError .file) before := by
  subst hj hlook
  exact ends_mapError _ (h.isDirectory p j)

theorem ends_create (h : Shows host files fx) (r : Record) {answer : Except Files.Error Unit} (hj : files j = before)
    (hmake : fx.createDirectory before output = (answer, after)) :
    Ends files (do
      host.tell r
      ExceptT.mk do return (← host.files.createDirectory output).mapError (directoryError output))
      j (answer.mapError (directoryError output)) after := by
  refine (h.ends_tell r hj).bind fun k hk => ends_mapError _ ?_
  subst hk
  have hmade := h.createDirectory output k
  rwa [hmake] at hmade

theorem ends_ensureDirectory (h : Shows host files fx) (hj : files j = before) (hne : documents ≠ [])
    (hready : Ready fx s.output.createDirectories output documents before mid) :
    Ends files (ensureDirectory host s output) j (.ok ()) mid := by
  cases hready with
  | idle hnil => exact absurd hnil hne
  | there _ hlook =>
    refine (h.ends_look hj hlook).bind fun k hk => ?_
    subst hk
    exact ends_pure ()
  | made _ hlook hmay hmake =>
    refine (h.ends_look hj hlook).bind fun k hk => ?_
    simp only [Bool.false_eq_true, if_false, hmay, if_true]
    exact h.ends_create _ hk hmake

/-- The directory is not ready: the ways to stop before the first document. -/
theorem ends_ensureDirectory_missing (h : Shows host files fx) (hj : files j = before)
    (hlook : fx.isDirectory before output = .ok false) (hmay : s.output.createDirectories = false) :
    Ends files (ensureDirectory host s output) j (.error (.directoryMissing output)) before := by
  refine (h.ends_look hj hlook).bind fun k hk => ?_
  simp only [Bool.false_eq_true, if_false, hmay]
  subst hk
  exact (ends_throw _).bind_error

theorem ends_ensureDirectory_unmade (h : Shows host files fx) (hj : files j = before) {e : Files.Error}
    (hlook : fx.isDirectory before output = .ok false) (hmay : s.output.createDirectories = true)
    (hmake : fx.createDirectory before output = (.error e, after)) :
    Ends files (ensureDirectory host s output) j (.error (directoryError output e)) after := by
  refine (h.ends_look hj hlook).bind fun k hk => ?_
  simp only [Bool.false_eq_true, if_false, hmay, if_true]
  exact h.ends_create _ hk hmake

theorem ends_ensureDirectory_unknown (h : Shows host files fx) (hj : files j = before) {e : Files.Error}
    (hlook : fx.isDirectory before output = .error e) :
    Ends files (ensureDirectory host s output) j (.error (.file e)) before :=
  (h.ends_look hj hlook).bind_error

theorem ends_writeLines (h : Shows host files fx) {p : Path} {lines : List Text} {answer : Except Files.Error Unit}
    (f : Files.Error → Error) (hj : files j = before) (hwrite : fx.writeLines before p lines = (answer, after)) :
    Ends files (ExceptT.mk do return (← host.files.writeLines p lines).mapError f) j (answer.mapError f) after := by
  subst hj
  have hlines := h.writeLines p lines j
  rw [hwrite] at hlines
  exact ends_mapError f hlines

theorem ends_writeDocument (h : Shows host files fx) {d : Document} (hj : files j = before)
    (hwrite : fx.writeLines before (target output d) d.lines = (.ok (), after)) :
    Ends files (writeDocument host output d) j (.ok (target output d).text) after := by
  refine (h.ends_writeLines _ hj hwrite).bind fun k hk => ?_
  refine (h.ends_tell _ hk).bind fun k' hk' => ?_
  subst hk'
  exact ends_pure _

theorem ends_writeDocument_unwritten (h : Shows host files fx) {d : Document} {e : Files.Error} (hj : files j = before)
    (hwrite : fx.writeLines before (target output d) d.lines = (.error e, after)) :
    Ends files (writeDocument host output d) j (.error (writeError (target output d) e)) after :=
  (h.ends_writeLines _ hj hwrite).bind_error

/-- Documents that can be written are written, each to its own path. -/
theorem ends_writeDocuments (h : Shows host files fx) (hwritten : Written fx output before documents after)
    (hj : files j = before) :
    Ends files (documents.mapM (writeDocument host output)) j (.ok (documents.map fun d => (target output d).text))
      after := by
  induction hwritten generalizing j with
  | nil =>
    subst hj
    rw [List.mapM_nil]
    exact ends_pure _
  | cons hwrite _ ih =>
    rw [List.mapM_cons]
    refine (h.ends_writeDocument hj hwrite).bind fun k hk => (ih hk).bind fun k' hk' => ?_
    subst hk'
    exact ends_pure _

theorem ends_writeDocuments_unwritten (h : Shows host files fx) {done rest : List Document} {d : Document}
    {e : Files.Error} (hwritten : Written fx output before done mid)
    (hfail : fx.writeLines mid (target output d) d.lines = (.error e, after)) (hj : files j = before) :
    Ends files ((done ++ d :: rest).mapM (writeDocument host output)) j (.error (writeError (target output d) e))
      after := by
  rw [List.mapM_append]
  refine (h.ends_writeDocuments hwritten hj).bind fun k hk => ?_
  rw [List.mapM_cons]
  exact (h.ends_writeDocument_unwritten hk hfail).bind_error.bind_error

/-- The writing of a run goes on to the documents once the directory is ready. -/
theorem ends_write_ready (h : Shows host files fx) {r : Except Error (List Text)} (hj : files j = before)
    (hready : Ready fx s.output.createDirectories output documents before mid)
    (hdocuments : ∀ k, files k = mid → Ends files (documents.mapM (writeDocument host output)) k r after) :
    Ends files (write host s output documents) j r after := by
  have hrest : ∀ k, files k = mid → ∀ message : List Text → Record, Ends files (do
      let written ← documents.mapM (writeDocument host output)
      host.tell (message written)
      return written) k r after := by
    intro k hk message
    cases r with
    | error e => exact (hdocuments k hk).bind_error
    | ok written =>
      refine (hdocuments k hk).bind fun k₁ hk₁ => (h.ends_tell (message written) hk₁).bind fun k₂ hk₂ => ?_
      subst hk₂
      exact ends_pure written
  unfold write
  by_cases hnil : documents = []
  · cases hready with
    | idle _ =>
      rw [if_pos (List.isEmpty_iff.mpr hnil)]
      exact hrest j hj _
    | there hne _ => exact absurd hnil hne
    | made hne _ _ _ => exact absurd hnil hne
  · rw [if_neg (by simpa using hnil)]
    exact (h.ends_ensureDirectory hj hnil hready).bind fun k hk => hrest k hk _

/-- Once the directory is ready and the documents can be written, the writing of a run succeeds. -/
theorem ends_write (h : Shows host files fx) (hj : files j = before)
    (hready : Ready fx s.output.createDirectories output documents before mid)
    (hwritten : Written fx output mid documents after) :
    Ends files (write host s output documents) j (.ok (documents.map fun d => (target output d).text)) after :=
  h.ends_write_ready hj hready fun _ hk => h.ends_writeDocuments hwritten hk

/-- The writing of a run stops as it must. -/
theorem ends_write_stopped (h : Shows host files fx) (hj : files j = before) {e : Error}
    (hstops : Stops fx s.output.createDirectories output documents before e after) :
    Ends files (write host s output documents) j (.error e) after := by
  have hdirectory : documents ≠ [] → Ends files (ensureDirectory host s output) j (.error e) after →
      Ends files (write host s output documents) j (.error e) after := by
    intro hne hends
    unfold write
    rw [if_neg (by simpa using hne)]
    exact hends.bind_error
  cases hstops with
  | unknown hne hlook => exact hdirectory hne (h.ends_ensureDirectory_unknown hj hlook)
  | missing hne hlook hmay => exact hdirectory hne (h.ends_ensureDirectory_missing hj hlook hmay)
  | unmade hne hlook hmay hmake => exact hdirectory hne (h.ends_ensureDirectory_unmade hj hlook hmay hmake)
  | unwritten hsplit hready hwritten hfail =>
    refine h.ends_write_ready hj hready fun k hk => ?_
    rw [hsplit]
    exact h.ends_writeDocuments_unwritten hwritten hfail hk

theorem ends_foretell (h : Shows host files fx) (hj : files j = before) :
    Ends files (foretell host output documents) j (.ok (documents.map fun d => (target output d).text)) before := by
  refine (h.ends_tell _ hj).bind fun k hk => ?_
  subst hk
  exact ends_pure _

end Shows

end TypeSplit.Run
