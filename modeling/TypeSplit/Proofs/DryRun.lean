/-
  TypeSplit.Proofs.DryRun — what a dry run tells of the run that writes.

  Everything before the first write leaves the files as they are (`Keeps`), and it is the same in both runs but for
  the flag in the summary (`prepare_real`). So both runs fail alike before the first write, and what the dry run shows
  is what the other goes on to write, all of it or up to the document that cannot be written (`Agree`). The one thing
  that a dry run does not foretell is an error that is not one of the output.
  - `runs_agree_iff`: the runs agree exactly if the system answers for everything that goes wrong (`Answerable`).
  - `store_agree`: a store always does.
  - `terminal_agree`: a disk does if it can look at the output directory and no path has a zero character.
  - `a_long_name_is_not_foretold`: a directory with too long a name cannot be looked at.
-/

import TypeSplit.Proofs.Hosts
import TypeSplit.Proofs.Overwriting

namespace TypeSplit.Run

open TypeSplit.CommandLine (Terminal)
open TypeSplit.Files (Disk Store)
open TypeSplit.Splitting (Document)

/-! ## Everything before the first write -/

section

variable {σ φ α β : Type} {files : σ → φ}

/-- The action leaves the files as they are, whether it succeeds or fails. -/
def Keeps (files : σ → φ) (x : ExceptT Error (StateM σ) α) : Prop := ∀ j, files (perform x j).2 = files j

theorem Keeps.bind {x : ExceptT Error (StateM σ) α} {f : α → ExceptT Error (StateM σ) β} (hx : Keeps files x)
    (hf : ∀ a, Keeps files (f a)) : Keeps files (x >>= f) := by
  intro j
  have hfiles := hx j
  rcases hperform : perform x j with ⟨e | a, k⟩ <;> rw [hperform] at hfiles
  · rw [perform_bind_error hperform]
    exact hfiles
  · rw [perform_bind_ok hperform]
    exact (hf a k).trans hfiles

theorem keeps_answer (r : Except Error α) : Keeps files (ExceptT.mk (pure r) : ExceptT Error (StateM σ) α) :=
  fun _ => rfl

theorem keeps_mapError {action : StateM σ (Except Files.Error α)} (f : Files.Error → Error)
    (h : ∀ j, files (action.run j).2 = files j) : Keeps files (ExceptT.mk do return (← action).mapError f) := h

theorem keeps_forM {f : α → ExceptT Error (StateM σ) Unit} (hf : ∀ a, Keeps files (f a)) (xs : List α) :
    Keeps files (xs.forM f) := by
  induction xs with
  | nil => exact keeps_answer (.ok ())
  | cons x xs ih => exact (hf x).bind fun _ => ih

theorem keeps_mapM {f : α → ExceptT Error (StateM σ) β} (hf : ∀ a, Keeps files (f a)) (xs : List α) :
    Keeps files (xs.mapM f) := by
  induction xs with
  | nil =>
    rw [List.mapM_nil]
    exact keeps_answer (.ok [])
  | cons x xs ih =>
    rw [List.mapM_cons]
    exact (hf x).bind fun y => ih.bind fun ys => keeps_answer (.ok (y :: ys))

end

section

variable {σ φ : Type} {host : Host (StateM σ)} {files : σ → φ} {fx : Effects φ} {splitter : Splitter} {s : Settings}
  {request : Request}

theorem Shows.keeps_tell (h : Shows host files fx) (r : Record) : Keeps files (host.tell r) := h.log r

theorem Shows.keeps_checkSource (h : Shows host files fx) (source : Path) : Keeps files (checkSource host s source) := by
  have hsize : Keeps files (do
      let size ← Host.ask (host.files.fileSize source)
      ExceptT.mk (pure (checkSize s size)) : ExceptT Error (StateM σ) Unit) :=
    (keeps_mapError _ (h.fileSize source)).bind fun size => keeps_answer _
  refine (keeps_mapError _ (h.isFile source)).bind fun present => ?_
  cases present with
  | false =>
    -- nothing is done behind the error
    exact fun _ => rfl
  | true =>
    cases hwarning : extensionWarning? s source with
    | none => exact hsize
    | some warning => exact (h.keeps_tell warning).bind fun _ => hsize

theorem Shows.keeps_parse (h : Shows host files fx) (source : Path) : Keeps files (parse host splitter s source) := by
  unfold parse
  refine (h.keeps_checkSource source).bind fun _ => (h.keeps_tell _).bind fun _ => ?_
  refine (keeps_mapError _ (h.readText source)).bind fun t => (h.keeps_tell _).bind fun _ => ?_
  refine (keeps_forM h.keeps_tell _).bind fun _ => (h.keeps_tell _).bind fun _ => ?_
  exact keeps_answer (.ok _)

theorem Shows.keeps_splitAndTell [NamePattern.Objects] (h : Shows host files fx) (style : Splitting.Style)
    (usings : List Text) (count : Option Int) (d : TypeDeclaration) : Keeps files (splitAndTell host style usings count d) := by
  unfold splitAndTell
  exact (keeps_answer _).bind fun parts => (h.keeps_tell _).bind fun _ => keeps_answer (.ok parts)

theorem Shows.keeps_prepare [NamePattern.Objects] (h : Shows host files fx) :
    Keeps files (prepare host splitter s request) := by
  unfold prepare
  refine (h.keeps_parse _).bind fun e => (keeps_answer _).bind fun selected => ?_
  exact (keeps_mapM (h.keeps_splitAndTell _ _ _) selected).bind fun parts => keeps_answer (.ok _)

end

/-! ## The two runs of a request -/

def Request.dry (request : Request) : Request := { request with dryRun := true }

def Request.real (request : Request) : Request := { request with dryRun := false }

def Outcome.real (outcome : Outcome) : Outcome := { outcome with summary := { outcome.summary with dryRun := false } }

/-- What has been prepared, with the paths of all its documents. -/
def Outcome.foretold (output : Path) (prepared : Outcome) : Outcome :=
  prepared.wrote (prepared.documents.map fun d => (target output d).text)

section

variable [NamePattern.Objects] {σ φ : Type} {host : Host (StateM σ)} {files : σ → φ} {fx : Effects φ}
  {splitter : Splitter} {s : Settings} {request : Request} {j : σ} {before after : φ}

/-- A run that writes prepares what its dry run prepares. -/
theorem prepare_real (host : Host (StateM σ)) (splitter : Splitter) (s : Settings) (request : Request) :
    prepare host splitter s request.real = (do
      let outcome ← prepare host splitter s request.dry
      return outcome.real) := by
  simp only [prepare, bind_assoc, pure_bind]
  rfl

theorem ends_prepare_real {r : Except Error Outcome}
    (h : Ends files (prepare host splitter s request.dry) j r before) :
    Ends files (prepare host splitter s request.real) j (r.map Outcome.real) before := by
  rw [prepare_real]
  cases r with
  | error e => exact h.bind_error
  | ok outcome =>
    refine h.bind fun k hk => ?_
    subst hk
    exact ends_pure outcome.real

/-- A dry run ends as its preparation does, and shows the path of every document. -/
theorem Shows.ends_dry (h : Shows host files fx) {r : Except Error Outcome}
    (hprepare : Ends files (prepare host splitter s request.dry) j r before) :
    Ends files (run host splitter s request.dry) j (r.map (Outcome.foretold request.output)) before := by
  unfold run
  cases r with
  | error e => exact hprepare.bind_error
  | ok prepared =>
    refine hprepare.bind fun k hk => ?_
    refine (h.ends_foretell hk).bind fun k' hk' => ?_
    subst hk'
    exact ends_pure _

/-- What a run has prepared is what it goes on to write. -/
theorem ends_real {prepared : Outcome} {r : Except Error (List Text)}
    (hprepare : Ends files (prepare host splitter s request.dry) j (.ok prepared) before)
    (hwrite : ∀ k, files k = before → Ends files (write host s request.output prepared.documents) k r after) :
    Ends files (run host splitter s request.real) j (r.map prepared.real.wrote) after := by
  unfold run
  refine (ends_prepare_real hprepare).bind fun k hk => ?_
  cases r with
  | error e => exact (hwrite k hk).bind_error
  | ok _ =>
    refine (hwrite k hk).bind fun k' hk' => ?_
    subst hk'
    exact ends_pure _

theorem ends_real_error {e : Error} (hprepare : Ends files (prepare host splitter s request.dry) j (.error e) before) :
    Ends files (run host splitter s request.real) j (.error e) before :=
  (ends_prepare_real hprepare).bind_error

/-- The preparation of a dry run leaves the files as they are, and the dry run ends as it does. -/
theorem Shows.ends_prepare (h : Shows host files fx) (splitter : Splitter) (s : Settings) (request : Request) (j : σ) :
    ∃ r, Ends files (prepare host splitter s request.dry) j r (files j) ∧
      Ends files (run host splitter s request.dry) j (r.map (Outcome.foretold request.output)) (files j) := by
  have hprepare : Ends files (prepare host splitter s request.dry) j _ (files j) := ⟨rfl, h.keeps_prepare j⟩
  exact ⟨_, hprepare, h.ends_dry hprepare⟩

theorem Shows.prepare_of_dry_error (h : Shows host files fx) {e : Error}
    (hdry : (perform (run host splitter s request.dry) j).1 = .error e) :
    Ends files (prepare host splitter s request.dry) j (.error e) (files j) := by
  obtain ⟨r, hprepare, hends⟩ := h.ends_prepare splitter s request j
  rw [hends.1] at hdry
  cases r with
  | error e' =>
    cases hdry
    exact hprepare
  | ok _ => cases hdry

theorem Shows.prepare_of_dry_ok (h : Shows host files fx) {outcome : Outcome}
    (hdry : (perform (run host splitter s request.dry) j).1 = .ok outcome) :
    ∃ prepared : Outcome, outcome = prepared.foretold request.output ∧
      Ends files (prepare host splitter s request.dry) j (.ok prepared) (files j) := by
  obtain ⟨r, hprepare, hends⟩ := h.ends_prepare splitter s request j
  rw [hends.1] at hdry
  cases r with
  | error _ => cases hdry
  | ok prepared =>
    cases hdry
    exact ⟨prepared, rfl, hprepare⟩

end

/-! ## Agreement -/

/-- Whether an error says that the output directory or a document could not be had. -/
def Error.isOutput : Error → Bool
  | .directoryMissing _ => true
  | .directoryFailed .. => true
  | .writeFailed .. => true
  | _ => false

/-- The dry run of a request foretells the run that writes. -/
structure Agree [NamePattern.Objects] {σ φ : Type} (host : Host (StateM σ)) (files : σ → φ) (fx : Effects φ)
    (splitter : Splitter) (s : Settings) (request : Request) (j : σ) : Prop where
  /-- A dry run leaves the files as they are. -/
  untouched : files (perform (run host splitter s request.dry) j).2 = files j
  /-- If the dry run fails, so does the other, with the same error and before it does anything to the files. -/
  failed : ∀ e, (perform (run host splitter s request.dry) j).1 = .error e →
    Ends files (run host splitter s request.real) j (.error e) (files j)
  /-- If the dry run succeeds, the other has the same outcome and leaves the documents written, or it stops on the way
  with an error of the output. -/
  succeeded : ∀ outcome, (perform (run host splitter s request.dry) j).1 = .ok outcome →
    (∃ mid after, Ready fx s.output.createDirectories request.output outcome.documents (files j) mid ∧
      Written fx request.output mid outcome.documents after ∧
      Ends files (run host splitter s request.real) j (.ok outcome.real) after) ∨
    ∃ e after, e.isOutput = true ∧
      Stops fx s.output.createDirectories request.output outcome.documents (files j) e after ∧
      Ends files (run host splitter s request.real) j (.error e) after

/-- The system answers for everything that goes wrong: it can tell whether the output directory is there, and a
directory or a document that it refuses is refused with an error of its own. -/
structure Answerable {φ : Type} (fx : Effects φ) (mayCreate : Bool) (output : Path) (documents : List Document) (s : φ) :
    Prop where
  known : documents ≠ [] → ∀ e, fx.isDirectory s output ≠ .error e
  unmade : ∀ e s', documents ≠ [] → fx.isDirectory s output = .ok false → mayCreate = true →
    fx.createDirectory s output = (.error e, s') → e.isSystem = true
  unwritten : ∀ done d rest mid s' e, documents = done ++ d :: rest → Ready fx mayCreate output documents s mid →
    Written fx output mid done s' → ∀ s'', fx.writeLines s' (target output d) d.lines = (.error e, s'') →
    e.isSystem = true

theorem isOutput_directoryError (directory : Path) (e : Files.Error) :
    (directoryError directory e).isOutput = e.isSystem := by
  unfold directoryError
  cases he : e.isSystem <;> rfl

theorem isOutput_writeError (target : Path) (e : Files.Error) : (writeError target e).isOutput = e.isSystem := by
  unfold writeError
  cases he : e.isSystem <;> rfl

/-- A system answers for everything exactly if a run stops with nothing but errors of the output. -/
theorem answerable_iff {φ : Type} {fx : Effects φ} {mayCreate : Bool} {output : Path} {documents : List Document}
    {s : φ} : Answerable fx mayCreate output documents s ↔
      ∀ e after, Stops fx mayCreate output documents s e after → e.isOutput = true := by
  constructor
  · intro h e after hstops
    cases hstops with
    | unknown hne hlook => exact absurd hlook (h.known hne _)
    | missing => rfl
    | unmade hne hlook hmay hmake =>
      rw [isOutput_directoryError]
      exact h.unmade _ _ hne hlook hmay hmake
    | unwritten hsplit hready hwritten hfail =>
      rw [isOutput_writeError]
      exact h.unwritten _ _ _ _ _ _ hsplit hready hwritten _ hfail
  · intro h
    refine ⟨?_, ?_, ?_⟩
    · intro hne e hlook
      cases h _ _ (.unknown hne hlook)
    · intro e s' hne hlook hmay hmake
      rw [← isOutput_directoryError output]
      exact h _ _ (.unmade hne hlook hmay hmake)
    · intro done d rest mid s' e hsplit hready hwritten s'' hfail
      rw [← isOutput_writeError (target output d)]
      exact h _ _ (.unwritten hsplit hready hwritten hfail)

theorem Shows.agree [NamePattern.Objects] {σ φ : Type} {host : Host (StateM σ)} {files : σ → φ} {fx : Effects φ}
    (h : Shows host files fx) {splitter : Splitter} {s : Settings} {request : Request} {j : σ}
    (hanswers : ∀ outcome, (perform (run host splitter s request.dry) j).1 = .ok outcome →
      Answerable fx s.output.createDirectories request.output outcome.documents (files j)) :
    Agree host files fx splitter s request j := by
  obtain ⟨r, -, hends⟩ := h.ends_prepare splitter s request j
  refine ⟨hends.2, ?_, ?_⟩
  · intro e hdry
    exact ends_real_error (h.prepare_of_dry_error hdry)
  · intro outcome hdry
    have hanswerable := hanswers outcome hdry
    obtain ⟨prepared, rfl, hprepared⟩ := h.prepare_of_dry_ok hdry
    rcases delivery_total fx s.output.createDirectories request.output prepared.documents (files j) with
      ⟨mid, after, hready, hwritten⟩ | ⟨e, after, hstops⟩
    · exact Or.inl ⟨mid, after, hready, hwritten, ends_real hprepared fun k hk => h.ends_write hk hready hwritten⟩
    · have houtput := answerable_iff.mp hanswerable e after hstops
      exact Or.inr ⟨e, after, houtput, hstops, ends_real hprepared fun k hk => h.ends_write_stopped hk hstops⟩

/-! ## Stores and disks -/

theorem store_answerable (mayCreate : Bool) (output : Path) (documents : List Document) (s : Store) :
    Answerable storeEffects mayCreate output documents s where
  known _ _ h := by cases h
  unmade _ _ _ _ _ h := isSystem_of_createDirectory (error_of_settle h)
  unwritten _ _ _ _ _ _ _ _ _ _ h := isSystem_of_writeLines (error_of_settle h)

/-- On a store the two runs of a request agree, whatever the store refuses. -/
theorem store_agree [NamePattern.Objects] (splitter : Splitter) (s : Settings) (request : Request) (j : Journal) :
    Agree Journal.host Journal.store storeEffects splitter s request j :=
  journal_shows.agree fun outcome _ => store_answerable _ _ outcome.documents j.store

/-- A disk answers for everything if it can look at the output directory and is given paths without zeros. -/
theorem disk_answerable (mayCreate : Bool) {output : Path} {documents : List Document} {d : Disk}
    (hlook : ∀ e, d.status output ≠ .error e) (hzero : '\x00' ∉ output.text)
    (htargets : ∀ x ∈ documents, '\x00' ∉ (target output x).text) :
    Answerable diskEffects mayCreate output documents d where
  known _ e h := by
    cases hstatus : d.status output with
    | ok status => simp [diskEffects, hstatus, Except.map] at h
    | error e' => exact hlook e' hstatus
  unmade e d' _ _ _ h := Files.systemOnly_makeDirectories _ hzero d e (congrArg Prod.fst h)
  unwritten done x rest mid d' e hsplit _ _ d'' h := by
    have hx : x ∈ documents := by simp [hsplit]
    have hwrite : (Disk.alter (·.modify (target output x) fun _ => Utf8.encode (Encoding.ofLines x.lines)) d').1 =
        .error e := congrArg Prod.fst h
    exact Files.isSystem_of_modify (htargets x hx) (Disk.error_of_alter hwrite)

theorem terminal_agree [NamePattern.Objects] {cwd : Path} {o : CommandLine.Options}
    (hlog : CommandLine.logFile? (Terminal.system cwd) o = none) {splitter : Splitter} {s : Settings} {request : Request}
    {t : Terminal} (hlook : ∀ e, t.disk.status request.output ≠ .error e) (hzero : '\x00' ∉ request.output.text)
    (htargets : ∀ outcome, (perform (run (CommandLine.host (Terminal.system cwd) o) splitter s request.dry) t).1 =
      .ok outcome → ∀ x ∈ outcome.documents, '\x00' ∉ (target request.output x).text) :
    Agree (CommandLine.host (Terminal.system cwd) o) Terminal.disk diskEffects splitter s request t :=
  (terminal_shows cwd hlog).agree fun outcome hdry => disk_answerable _ hlook hzero (htargets outcome hdry)

/-! ## When the two runs agree -/

/-- The two runs of a request agree exactly if, when the dry run succeeds, the system answers for everything that can go
wrong with its documents. -/
theorem runs_agree_iff [NamePattern.Objects] {σ φ : Type} {host : Host (StateM σ)} {files : σ → φ} {fx : Effects φ}
    (h : Shows host files fx) (splitter : Splitter) (s : Settings) (request : Request) (j : σ) :
    Agree host files fx splitter s request j ↔
      ∀ outcome, (perform (run host splitter s request.dry) j).1 = .ok outcome →
        Answerable fx s.output.createDirectories request.output outcome.documents (files j) := by
  refine ⟨fun hagree outcome hdry => ?_, h.agree⟩
  obtain ⟨prepared, rfl, hprepared⟩ := h.prepare_of_dry_ok hdry
  refine answerable_iff.mpr fun e after hstops => ?_
  have hreal := ends_real hprepared fun k hk => h.ends_write_stopped hk hstops
  rcases hagree.succeeded _ hdry with ⟨mid, after', -, -, hends⟩ | ⟨e', after', houtput, -, hends⟩
  · cases (hends.unique hreal).1
  · cases (hends.unique hreal).1
    exact houtput

/-- A run that can be evaluated: it succeeds with so many documents. -/
theorem exists_documents {σ : Type} {host : Host (StateM σ)} {request : Request} {j : σ} {n : Nat}
    (h : (perform (run host ⟨⟨Declaration.typeSites Extraction.defaultKeywords, Declaration.memberSitesInOrder true⟩, true,
      none⟩ .default request) j).1.toOption.any (fun outcome => decide (outcome.documents.length = n)) = true) :
    ∃ outcome, (perform (run host plainSplitter .default request) j).1 = .ok outcome ∧ outcome.documents.length = n := by
  rw [← Extraction.defaultScanner_eq] at h
  change (perform (run host plainSplitter .default request) j).1.toOption.any _ = true at h
  cases hrun : (perform (run host plainSplitter .default request) j).1 with
  | error e =>
    rw [hrun] at h
    cases h
  | ok outcome =>
    rw [hrun] at h
    exact ⟨outcome, rfl, of_decide_eq_true h⟩

/-- A store with two types to split that refuses the second of their three documents. -/
def refusing : Journal :=
  let j := oneSource twoTypes
  { j with store := { j.store with refusedWrites := [.ofText "out/A_Part2.cs".toList] } }

/-- The dry run is content with three documents. The other run writes the first, and says that the second cannot be
written. -/
theorem a_refused_document_is_foretold :
    Shows Journal.host Journal.store storeEffects ∧
      (∃ outcome, (perform (run Journal.host plainSplitter .default plainRequest.dry) refusing).1 = .ok outcome ∧
        outcome.documents.length = 3) ∧
      ((perform (run Journal.host plainSplitter .default plainRequest.real) refusing).2.written.map (·.1.text) =
        ["out/A_Part1.cs".toList]) ∧
      Agree Journal.host Journal.store storeEffects plainSplitter .default plainRequest refusing := by
  refine ⟨journal_shows, ?_, ?_, (runs_agree_iff journal_shows _ _ _ _).mpr fun outcome _ => ?_⟩
  · exact exists_documents (by decide +kernel)
  · rw [plainSplitter, Extraction.defaultScanner_eq]
    decide +kernel
  · exact store_answerable _ _ outcome.documents refusing.store

def oneFile (t : Text) : Terminal :=
  ⟨(Disk.empty (.ofText "/w".toList)).set (.ofText "/w/a.cs".toList) (.file (Utf8.encode t)), [], [], []⟩

def plainHost : Host (StateM Terminal) := CommandLine.host (Terminal.system (.ofText "/w".toList)) {}

/-- A request for an output directory whose name is one byte longer than a name may be. -/
def longRequest : Request := { plainRequest with output := .ofText (List.replicate 256 'd') }

theorem eq_error_of_test {α : Type} {r : Except Error α} {e : Files.Error}
    (h : (match r with
      | .error (.file e') => decide (e' = e)
      | _ => false) = true) : r = .error (.file e) := by
  split at h
  · rw [of_decide_eq_true h]
  · cases h

/-- The dry run is content with three documents. The other run ends when it looks at the output directory, with an
error that is not one of the output. -/
theorem a_long_name_is_not_foretold :
    Shows plainHost Terminal.disk diskEffects ∧
      (∃ outcome, (perform (run plainHost plainSplitter .default longRequest.dry) (oneFile twoTypes)).1 = .ok outcome ∧
        outcome.documents.length = 3) ∧
      (perform (run plainHost plainSplitter .default longRequest.real) (oneFile twoTypes)).1 =
        .error (.file (.system .nameTooLong longRequest.output)) ∧
      ¬ Agree plainHost Terminal.disk diskEffects plainSplitter .default longRequest (oneFile twoTypes) := by
  have hdry : ∃ outcome, (perform (run plainHost plainSplitter .default longRequest.dry) (oneFile twoTypes)).1 =
      .ok outcome ∧ outcome.documents.length = 3 := exists_documents (by decide +kernel)
  have hreal : (perform (run plainHost plainSplitter .default longRequest.real) (oneFile twoTypes)).1 =
      .error (.file (.system .nameTooLong longRequest.output)) := by
    apply eq_error_of_test
    rw [plainSplitter, Extraction.defaultScanner_eq]
    decide +kernel
  refine ⟨terminal_shows _ rfl, hdry, hreal, ?_⟩
  intro hagree
  obtain ⟨outcome, hok, -⟩ := hdry
  rcases hagree.succeeded outcome hok with ⟨mid, after, -, -, hends⟩ | ⟨e, after, houtput, -, hends⟩
  · cases hends.1.symm.trans hreal
  · cases hends.1.symm.trans hreal
    cases houtput

end TypeSplit.Run
