/-
  TypeSplit.Proofs.Inspection — how a call ends if its source cannot be read.

  Both commands look for the types of a source in the same way, and it can fail in five ways: there is no such file, it is
  too large, its size cannot be told in megabytes, a name on the way to it is too long for the disk, or its bytes are no
  text. The first two are errors that a run expects. The others (`Unforeseen`) are all that is left (`unforeseen_iff`).
  - `failures_are_reported_unless_unforeseen`: `split` ends with a message whatever it is, and `inspect` does so exactly if
    it is none of the unforeseen failures.
  - `an_undecodable_source_is_not_reported`: one byte that is no text ends `inspect` without a message.
-/

import TypeSplit.Proofs.Decoding
import TypeSplit.Proofs.Hosts
import TypeSplit.Proofs.Usable

namespace TypeSplit.Encoding

/-- A file has a text exactly if its bytes are those of a text, with or without the mark in front. -/
theorem readText_ok_iff (bytes : List UInt8) :
    (∃ t, standard.readText bytes = .ok t) ↔ ∃ t, withoutMark bytes = Utf8.encode t := by
  have hdecode : (∃ t, standard.readText bytes = .ok t) ↔ ∃ t, Utf8.decode (withoutMark bytes) = .ok t := by
    show (∃ t, ((decodeUtf8 standard (withoutMark bytes)).map unifyLineEnds) = .ok t) ↔ _
    unfold decodeUtf8
    cases Utf8.decode (withoutMark bytes) with
    | ok t => exact iff_of_true ⟨_, rfl⟩ ⟨t, rfl⟩
    | error e => exact iff_of_false (fun ⟨_, h⟩ => nomatch h) fun ⟨_, h⟩ => nomatch h
  simp only [hdecode, Utf8.decode_eq_ok_iff]

end TypeSplit.Encoding

namespace TypeSplit.Files.Disk

variable {d : Disk} {p : Path} {e : Error}

/-! ## Looking at a disk -/

theorem foldlM_error {α β ε : Type} {f : β → α → Except ε β} {xs : List α} {b : β} {e : ε}
    (h : xs.foldlM f b = .error e) : ∃ b x, f b x = .error e := by
  induction xs generalizing b with
  | nil => cases h
  | cons x xs ih =>
    rw [List.foldlM_cons] at h
    cases hx : f b x with
    | error e' =>
      rw [hx] at h
      cases h
      exact ⟨b, x, hx⟩
    | ok b' =>
      rw [hx] at h
      exact ih h

/-- What can be in the way of a path. -/
theorem cause_of_step {place : Path} {name : Text} {cause : Cause} (h : d.step place name = .error cause) :
    cause = .missing ∨ cause = .notDirectory ∨ cause = .nameTooLong := by
  unfold step at h
  split at h
  · exact .inl (Except.error.inj h).symm
  · exact .inr (.inl (Except.error.inj h).symm)
  · split at h
    · cases h
    · split at h
      · exact .inr (.inr (Except.error.inj h).symm)
      · cases h

theorem locate_error (h : d.locate p = .error e) :
    e = .zeroInPath ∨ e = .system .missing p ∨ e = .system .notDirectory p ∨ e = .system .nameTooLong p := by
  unfold locate at h
  split at h
  · exact .inl (Except.error.inj h).symm
  · split at h
    · exact .inr (.inr (.inr (Except.error.inj h).symm))
    · dsimp only at h
      cases hwalk : (d.workingDirectory.join p).names.foldlM d.step ⟨(d.workingDirectory.join p).root, []⟩ with
      | ok place =>
        rw [hwalk] at h
        cases h
      | error cause =>
        rw [hwalk] at h
        cases h
        obtain ⟨place, name, hstep⟩ := foldlM_error hwalk
        rcases cause_of_step hstep with rfl | rfl | rfl
        · exact .inr (.inl rfl)
        · exact .inr (.inr (.inl rfl))
        · exact .inr (.inr (.inr rfl))

/-- The one thing that keeps a disk from telling what a path names. -/
theorem status_eq_error_iff :
    d.status p = .error e ↔ d.locate p = .error (.system .nameTooLong p) ∧ e = .system .nameTooLong p := by
  unfold status
  cases hlocate : d.locate p with
  | ok place =>
    refine iff_of_false ?_ fun h => nomatch h.1
    dsimp only
    cases d.entry? place with
    | none => exact fun h => nomatch h
    | some entry => cases entry <;> exact fun h => nomatch h
  | error e' =>
    rcases locate_error hlocate with rfl | rfl | rfl | rfl
    · exact iff_of_false (fun h => nomatch h) fun h => nomatch h.1
    · exact iff_of_false (fun h => nomatch h) fun h => nomatch h.1
    · exact iff_of_false (fun h => nomatch h) fun h => nomatch h.1
    · simp [eq_comm]

theorem read_ok_iff {bytes : List UInt8} :
    d.read p = .ok bytes ↔ ∃ place, d.locate p = .ok place ∧ d.entry? place = some (.file bytes) := by
  unfold read
  rw [bind_eq_ok]
  refine exists_congr fun place => and_congr_right fun _ => ?_
  cases d.entry? place with
  | none => exact iff_of_false (fun h => nomatch h) fun h => nomatch h
  | some entry =>
    cases entry with
    | directory => exact iff_of_false (fun h => nomatch h) fun h => nomatch h
    | file bytes' =>
      rw [pure_eq_ok]
      simp

/-- A path names a file exactly if it can be read. -/
theorem status_eq_file_iff {n : Nat} : d.status p = .ok (.file n) ↔ ∃ bytes, d.read p = .ok bytes ∧ bytes.length = n := by
  simp only [read_ok_iff]
  unfold status
  cases hlocate : d.locate p with
  | ok place =>
    simp only [Except.ok.injEq, exists_eq_left']
    cases d.entry? place with
    | none => simp
    | some entry => cases entry <;> simp
  | error e' =>
    refine iff_of_false ?_ fun ⟨_, ⟨_, h, _⟩, _⟩ => nomatch h
    rcases locate_error hlocate with rfl | rfl | rfl | rfl
    all_goals exact fun h => nomatch h

end TypeSplit.Files.Disk

namespace TypeSplit.Run

open TypeSplit.CommandLine (Terminal)
open TypeSplit.Files (Disk)
open TypeSplit.Number (Binary64)

/-! ## Failures -/

/-- The ways in which a run fails to find the types of a source that it does not expect. -/
inductive Unforeseen (s : Settings) (d : Disk) (source : Path) : Prop
  /-- A name on the way to the source is too long for the disk. -/
  | long : d.locate source = .error (.system .nameTooLong source) → Unforeseen s d source
  /-- There is no binary number for the size of the source in megabytes. -/
  | huge {bytes : List UInt8} : d.read source = .ok bytes →
      (Binary64.ofRatio false bytes.length bytesPerMb).isInfinite = true → Unforeseen s d source
  /-- The source is not too large, and its bytes are no text. -/
  | undecodable {bytes : List UInt8} : d.read source = .ok bytes → checkSize s bytes.length = .ok () →
      (∀ t, Encoding.withoutMark bytes ≠ Utf8.encode t) → Unforeseen s d source

section

variable {source : Path} {splitter : Splitter} {s : Settings} {t : Terminal} {answer : Except Files.Error Files.Status}
  (cwd : Path) {o : CommandLine.Options}

theorem ends_isFile (o : CommandLine.Options) (h : t.disk.status source = answer) :
    Ends Terminal.disk (Host.ask ((CommandLine.host (Terminal.system cwd) o).files.isFile source)) t
      ((answer.map Files.Status.isFile).mapError .file) t.disk := by
  subst h
  exact ends_mapError _ ⟨rfl, rfl⟩

theorem ends_fileSize (o : CommandLine.Options) (h : t.disk.status source = answer) :
    Ends Terminal.disk (Host.ask ((CommandLine.host (Terminal.system cwd) o).files.fileSize source)) t
      ((answer.map Files.Status.size).mapError .file) t.disk := by
  subst h
  exact ends_mapError _ ⟨rfl, rfl⟩

theorem ends_checkSource_unknown (o : CommandLine.Options) {e : Files.Error} (h : t.disk.status source = .error e) :
    Ends Terminal.disk (checkSource (CommandLine.host (Terminal.system cwd) o) s source) t (.error (.file e)) t.disk :=
  (ends_isFile cwd o h).bind_error

/-- A source that is not a file is missing. -/
theorem ends_checkSource_missing (o : CommandLine.Options) {status : Files.Status} (h : t.disk.status source = .ok status)
    (hfile : status.isFile = false) :
    Ends Terminal.disk (checkSource (CommandLine.host (Terminal.system cwd) o) s source) t
      (.error (.sourceMissing source)) t.disk := by
  refine (ends_isFile cwd o h).bind fun k hk => ?_
  rw [hfile, ← hk]
  exact (ends_throw _).bind_error

/-- Whether a source that is a file passes depends on its size; the warning about its extension changes nothing. -/
theorem ends_checkSource_file (hlog : CommandLine.logFile? (Terminal.system cwd) o = none) {n : Nat}
    (h : t.disk.status source = .ok (.file n)) :
    Ends Terminal.disk (checkSource (CommandLine.host (Terminal.system cwd) o) s source) t (checkSize s n) t.disk := by
  have hsize : ∀ k : Terminal, k.disk = t.disk → Ends Terminal.disk (do
      let size ← Host.ask ((CommandLine.host (Terminal.system cwd) o).files.fileSize source)
      ExceptT.mk (pure (checkSize s size)) : ExceptT Error (StateM Terminal) Unit) k (checkSize s n) t.disk := by
    intro k hk
    rw [← hk] at h ⊢
    exact (ends_fileSize cwd o h).bind fun k' hk' => ⟨rfl, hk'⟩
  refine (ends_isFile cwd o h).bind fun k hk => ?_
  cases hwarning : extensionWarning? s source with
  | none => exact hsize k hk
  | some warning => exact ((terminal_shows cwd hlog).ends_tell warning hk).bind fun k' hk' => hsize k' hk'

theorem ends_readSource (o : CommandLine.Options) {bytes : List UInt8} (h : t.disk.read source = .ok bytes) :
    Ends Terminal.disk (readSource (CommandLine.host (Terminal.system cwd) o) source) t
      ((Encoding.standard.readText bytes).mapError fun e => .file (.undecodable e)) t.disk := by
  have hanswer : ((CommandLine.host (Terminal.system cwd) o).files.readText source).run t =
      ((Encoding.standard.readText bytes).mapError Files.Error.undecodable, t) := by
    simp only [CommandLine.host, Terminal.system, Files.Volume.files, Terminal.volume, Terminal.look, StateT.run_bind,
      StateT.run_get, StateT.run_pure, pure_bind, h]
    rfl
  have hends : Ends Terminal.disk (readSource (CommandLine.host (Terminal.system cwd) o) source) t _ t.disk :=
    ends_mapError _ ⟨congrArg Prod.fst hanswer, congrArg (fun x => Terminal.disk x.2) hanswer⟩
  cases htext : Encoding.standard.readText bytes with
  | error e =>
    rw [htext] at hends
    exact hends
  | ok text =>
    rw [htext] at hends
    exact hends

theorem Shows.ends_tells {σ φ : Type} {host : Host (StateM σ)} {files : σ → φ} {fx : Effects φ} (h : Shows host files fx)
    (records : List Record) {j : σ} {before : φ} (hj : files j = before) :
    Ends files (records.forM host.tell) j (.ok ()) before := by
  induction records generalizing j with
  | nil =>
    subst hj
    exact ends_pure ()
  | cons r records ih => exact (h.ends_tell r hj).bind fun k hk => ih hk

theorem ends_parse_unknown (splitter : Splitter) (s : Settings) (o : CommandLine.Options) {e : Files.Error}
    (h : t.disk.status source = .error e) :
    Ends Terminal.disk (parse (CommandLine.host (Terminal.system cwd) o) splitter s source) t (.error (.file e)) t.disk :=
  (ends_checkSource_unknown cwd o h).bind_error

theorem ends_parse_missing (splitter : Splitter) (s : Settings) (o : CommandLine.Options) {status : Files.Status}
    (h : t.disk.status source = .ok status) (hfile : status.isFile = false) :
    Ends Terminal.disk (parse (CommandLine.host (Terminal.system cwd) o) splitter s source) t
      (.error (.sourceMissing source)) t.disk :=
  (ends_checkSource_missing cwd o h hfile).bind_error

def textOf (s : Settings) (bytes : List UInt8) : Except Error Text := do
  checkSize s bytes.length
  (Encoding.standard.readText bytes).mapError fun e => .file (.undecodable e)

/-- The types of a file are those of its text. -/
theorem ends_parse_file (splitter : Splitter) (s : Settings) (hlog : CommandLine.logFile? (Terminal.system cwd) o = none)
    {bytes : List UInt8} (h : t.disk.read source = .ok bytes) :
    Ends Terminal.disk (parse (CommandLine.host (Terminal.system cwd) o) splitter s source) t
      ((textOf s bytes).map splitter.extract) t.disk := by
  have hshows := terminal_shows cwd hlog
  have hcheck := ends_checkSource_file (s := s) cwd hlog (Disk.status_eq_file_iff.mpr ⟨bytes, h, rfl⟩)
  unfold parse textOf
  cases hsize : checkSize s bytes.length with
  | error e =>
    rw [hsize] at hcheck
    exact hcheck.bind_error
  | ok _ =>
    rw [hsize] at hcheck
    refine hcheck.bind fun k hk => (hshows.ends_tell _ hk).bind fun k' hk' => ?_
    rw [← hk'] at h ⊢
    have hsource := ends_readSource cwd o h
    cases htext : Encoding.standard.readText bytes with
    | error e =>
      rw [htext] at hsource
      exact hsource.bind_error
    | ok text =>
      rw [htext] at hsource
      refine hsource.bind fun k hk => (hshows.ends_tell _ hk).bind fun k hk => ?_
      refine (hshows.ends_tells _ hk).bind fun k hk => (hshows.ends_tell _ hk).bind fun k hk => ?_
      rw [← hk]
      exact ends_pure _

end

/-! ## What is unforeseen -/

section

variable {s : Settings} {bytes : List UInt8}

/-- A file is not what a run expects exactly if its size is infinite, or else it is not too large and no text. -/
theorem textOf_unexpected_iff :
    (∃ e : Error, e.isExpected = false ∧ textOf s bytes = .error e) ↔
      (Binary64.ofRatio false bytes.length bytesPerMb).isInfinite = true ∨
        checkSize s bytes.length = .ok () ∧ ∀ t, Encoding.withoutMark bytes ≠ Utf8.encode t := by
  unfold textOf
  by_cases hinfinite : (Binary64.ofRatio false bytes.length bytesPerMb).isInfinite = true
  · have hsize : checkSize s bytes.length = .error .sizeOverflow := if_pos hinfinite
    rw [hsize]
    exact iff_of_true ⟨_, rfl, rfl⟩ (.inl hinfinite)
  rw [or_iff_right hinfinite]
  by_cases hlarge : s.input.maxFileSizeMb.lt (Binary64.ofRatio false bytes.length bytesPerMb) = true
  · have hsize : checkSize s bytes.length = .error (.sourceTooLarge _ _) := (if_neg hinfinite).trans (if_pos hlarge)
    rw [hsize]
    refine iff_of_false ?_ fun h => nomatch h.1
    rintro ⟨e, hexpected, he⟩
    cases he
    cases hexpected
  · have hsize : checkSize s bytes.length = .ok () := (if_neg hinfinite).trans (if_neg hlarge)
    rw [hsize, and_iff_right rfl, ← not_exists, ← Encoding.readText_ok_iff]
    cases Encoding.standard.readText bytes with
    | ok t => exact iff_of_false (fun ⟨_, _, h⟩ => nomatch h) (not_not.mpr ⟨t, rfl⟩)
    | error e => exact iff_of_true ⟨_, rfl, rfl⟩ fun ⟨_, h⟩ => nomatch h

variable {d : Disk} {source : Path}

theorem unforeseen_of_unknown {e : Files.Error} (h : d.status source = .error e) : Unforeseen s d source :=
  .long (Disk.status_eq_error_iff.mp h).1

theorem status_ne_error {status : Files.Status} (h : d.status source = .ok status) :
    d.locate source ≠ .error (.system .nameTooLong source) := by
  intro hlocate
  rw [Disk.status_eq_error_iff.mpr ⟨hlocate, rfl⟩] at h
  cases h

theorem not_unforeseen_of_missing {status : Files.Status} (h : d.status source = .ok status)
    (hfile : status.isFile = false) : ¬ Unforeseen s d source := by
  have hread : ∀ bytes, d.read source ≠ .ok bytes := by
    intro bytes hread
    rw [Disk.status_eq_file_iff.mpr ⟨bytes, hread, rfl⟩] at h
    cases h
    cases hfile
  intro hunforeseen
  cases hunforeseen with
  | long hlocate => exact status_ne_error h hlocate
  | huge hbytes _ => exact hread _ hbytes
  | undecodable hbytes _ _ => exact hread _ hbytes

theorem unforeseen_file_iff (h : d.read source = .ok bytes) :
    Unforeseen s d source ↔ ∃ e : Error, e.isExpected = false ∧ textOf s bytes = .error e := by
  rw [textOf_unexpected_iff]
  constructor
  · intro hunforeseen
    cases hunforeseen with
    | long hlocate => exact absurd hlocate (status_ne_error (Disk.status_eq_file_iff.mpr ⟨bytes, h, rfl⟩))
    | huge hread hinfinite =>
      rw [h] at hread
      cases hread
      exact .inl hinfinite
    | undecodable hread hsize hbytes =>
      rw [h] at hread
      cases hread
      exact .inr ⟨hsize, hbytes⟩
  · rintro (hinfinite | ⟨hsize, hbytes⟩)
    · exact .huge h hinfinite
    · exact .undecodable h hsize hbytes

/-- The unforeseen failures are those that a run does not expect. -/
theorem unforeseen_iff (cwd : Path) {o : CommandLine.Options} (hlog : CommandLine.logFile? (Terminal.system cwd) o = none)
    (splitter : Splitter) (s : Settings) (t : Terminal) (source : Path) :
    Unforeseen s t.disk source ↔ ∃ e : Error, e.isExpected = false ∧
      (perform (parse (CommandLine.host (Terminal.system cwd) o) splitter s source) t).1 = .error e := by
  cases hstatus : t.disk.status source with
  | error e => exact iff_of_true (unforeseen_of_unknown hstatus) ⟨_, rfl, (ends_parse_unknown cwd splitter s o hstatus).1⟩
  | ok status =>
    cases hfile : status.isFile with
    | false =>
      refine iff_of_false (not_unforeseen_of_missing hstatus hfile) ?_
      rintro ⟨e, hexpected, he⟩
      rw [(ends_parse_missing cwd splitter s o hstatus hfile).1] at he
      cases he
      cases hexpected
    | true =>
      obtain ⟨n, rfl⟩ : ∃ n, status = .file n := by
        cases status with
        | file n => exact ⟨n, rfl⟩
        | nothing => cases hfile
        | directory => cases hfile
      obtain ⟨bytes, hread, -⟩ := Disk.status_eq_file_iff.mp hstatus
      rw [unforeseen_file_iff hread, (ends_parse_file cwd splitter s hlog hread).1]
      refine exists_congr fun e => and_congr_right fun _ => ?_
      cases textOf s bytes with
      | ok text => exact iff_of_false (fun h => nomatch h) fun h => nomatch h
      | error e' =>
        show _ ↔ (Except.error e' : Except Error Extraction) = .error e
        rw [Except.error.injEq, Except.error.injEq]

end

end TypeSplit.Run

namespace TypeSplit.Settings

theorem usable_of_text [NamePattern.Objects] {file t : Text} {s : Settings} (h : ofText file t = .ok s) : s.Usable := by
  unfold ofText at h
  split at h
  · cases h
    exact default_usable
  · split at h
    · exact usable_of_accepted h
    · cases h
    · cases h

theorem usable_of_bytes [NamePattern.Objects] {file : Text} {bytes : List UInt8} {s : Settings}
    (h : ofBytes file bytes = .ok s) : s.Usable := by
  unfold ofBytes at h
  split at h
  · exact usable_of_text h
  · cases h

end TypeSplit.Settings

namespace TypeSplit.CommandLine

open TypeSplit.Run (Splitter Unforeseen perform)

/-! ## Calls on a terminal -/

section

variable {α β : Type} {t t' : Terminal}

/-- What becomes of a call or a part of it: its answer or its ending, and the terminal afterwards. -/
def carry (x : CallT (StateM Terminal) α) (t : Terminal) : Except Ending α × Terminal := Id.run (x.run.run t)

theorem carry_bind_ok {x : CallT (StateM Terminal) α} {f : α → CallT (StateM Terminal) β} {a : α}
    (h : carry x t = (.ok a, t')) : carry (x >>= f) t = carry (f a) t' := by
  unfold carry at *
  rw [ExceptT.run_bind, StateT.run_bind, Id.run_bind, h]

theorem carry_bind_error {x : CallT (StateM Terminal) α} {f : α → CallT (StateM Terminal) β} {e : Ending}
    (h : (carry x t).1 = .error e) : (carry (x >>= f) t).1 = .error e := by
  unfold carry at *
  rw [ExceptT.run_bind, StateT.run_bind, Id.run_bind, h]
  rfl

theorem exists_of_carry_bind {x : CallT (StateM Terminal) α} {f : α → CallT (StateM Terminal) β} {b : β}
    (h : (carry (x >>= f) t).1 = .ok b) : ∃ a t', (carry (f a) t').1 = .ok b := by
  rcases hx : carry x t with ⟨e | a, t'⟩
  · rw [carry_bind_error (congrArg Prod.fst hx)] at h
    cases h
  · rw [carry_bind_ok hx] at h
    exact ⟨a, t', h⟩

def Looks (x : CallT (StateM Terminal) α) : Prop := ∀ t, (carry x t).2 = t

theorem Looks.bind {x : CallT (StateM Terminal) α} {f : α → CallT (StateM Terminal) β} (hx : Looks x)
    (hf : ∀ a, Looks (f a)) : Looks (x >>= f) := by
  intro t
  have hstate := hx t
  rcases hcarry : carry x t with ⟨e | a, t'⟩ <;> rw [hcarry] at hstate
  · unfold carry at *
    rw [ExceptT.run_bind, StateT.run_bind, Id.run_bind, hcarry]
    exact hstate
  · rw [carry_bind_ok hcarry]
    exact (hf a t').trans hstate

theorem looks_pure (a : α) : Looks (pure a : CallT (StateM Terminal) α) := fun _ => rfl

theorem looks_answer (r : Except Ending α) : Looks (ExceptT.mk (pure r) : CallT (StateM Terminal) α) := fun _ => rfl

theorem looks_status (cwd p : Path) : Looks (onFiles ((Terminal.system cwd).volume.status p)) := fun _ => rfl

theorem looks_read (cwd p : Path) : Looks (onFiles ((Terminal.system cwd).volume.read p)) := fun _ => rfl

end

section

variable {cwd : Path} {o : Options} {t : Terminal} {s : Settings} {source : Text}

theorem looks_settings [NamePattern.Objects] (cwd : Path) (o : Options) : Looks (settings (Terminal.system cwd) o) := by
  unfold settings settingsFile
  refine ((looks_status cwd _).bind fun status => looks_pure _).bind fun file => ?_
  refine (looks_status cwd file).bind fun status => ?_
  split
  · exact looks_pure _
  · exact (looks_read cwd file).bind fun bytes => looks_answer _

theorem usable_of_settings [NamePattern.Objects] (h : (carry (settings (Terminal.system cwd) o) t).1 = .ok s) :
    s.Usable := by
  unfold settings at h
  obtain ⟨file, _, h⟩ := exists_of_carry_bind h
  obtain ⟨status, _, h⟩ := exists_of_carry_bind h
  split at h
  · cases h
    exact Settings.default_usable
  · obtain ⟨bytes, _, h⟩ := exists_of_carry_bind h
    have hbytes : (Settings.ofBytes file.name bytes).mapError settingsEnding = .ok s := h
    exact Settings.usable_of_bytes (mapError_eq_ok.mp hbytes)

/-- A call whose settings are valid comes to its command. -/
theorem carry_call [NamePattern.Objects] {splitter : Splitter} (hlog : logFile? (Terminal.system cwd) o = none)
    (hsettings : (carry (settings (Terminal.system cwd) o) t).1 = .ok s)
    (hsplitter : Splitter.ofSettings s none = .ok splitter) (command : Settings → Splitter → CallT (StateM Terminal) Unit) :
    carry (do
      openLog (Terminal.system cwd) o
      let s ← settings (Terminal.system cwd) o
      let splitter ← ExceptT.mk (return (Splitter.ofSettings s none).mapError fun e => .failed (.keywords e))
      command s splitter) t = carry (command s splitter) t := by
  have hopen : carry (openLog (Terminal.system cwd) o) t = (.ok (), t) := by
    unfold openLog
    rw [hlog]
    rfl
  have hread : carry (settings (Terminal.system cwd) o) t = (.ok s, t) := Prod.ext hsettings (looks_settings cwd o t)
  have hmade : carry (ExceptT.mk (pure ((Splitter.ofSettings s none).mapError fun e => .failed (.keywords e))) :
      CallT (StateM Terminal) Splitter) t = (.ok splitter, t) := by
    rw [hsplitter]
    rfl
  rw [carry_bind_ok hopen, carry_bind_ok hread, carry_bind_ok hmade]

theorem carry_split [NamePattern.Objects] {splitter : Splitter} (hlog : logFile? (Terminal.system cwd) o = none)
    (hsettings : (carry (settings (Terminal.system cwd) o) t).1 = .ok s)
    (hsplitter : Splitter.ofSettings s none = .ok splitter) (source : Text) :
    carry ((⟨.split, source, o⟩ : Call).run (Terminal.system cwd)) t =
      carry (split (Terminal.system cwd) s splitter source o) t :=
  carry_call hlog hsettings hsplitter fun s splitter => split (Terminal.system cwd) s splitter source o

theorem carry_inspect [NamePattern.Objects] {splitter : Splitter} (hlog : logFile? (Terminal.system cwd) o = none)
    (hsettings : (carry (settings (Terminal.system cwd) o) t).1 = .ok s)
    (hsplitter : Splitter.ofSettings s none = .ok splitter) (source : Text) :
    carry ((⟨.inspect, source, o⟩ : Call).run (Terminal.system cwd)) t =
      carry (inspect (Terminal.system cwd) s splitter source o) t :=
  carry_call hlog hsettings hsplitter fun s splitter => inspect (Terminal.system cwd) s splitter source o

/-- Something that a run does, with its errors turned into endings. -/
theorem carry_mapError {α : Type} (x : ExceptT Run.Error (StateM Terminal) α) (f : Run.Error → Ending) (t : Terminal) :
    carry (ExceptT.mk do return (← x.run).mapError f) t = ((perform x t).1.mapError f, (perform x t).2) := rfl

theorem carry_inspect_error {splitter : Splitter} {e : Run.Error}
    (h : (perform (Run.parse (host (Terminal.system cwd) o) splitter s (sourcePath source)) t).1 = .error e) :
    (carry (inspect (Terminal.system cwd) s splitter source o) t).1 = .error (inspectEnding e) := by
  unfold inspect
  refine carry_bind_error ?_
  rw [carry_mapError, h]
  rfl

theorem splitEnding_eq_message (e : Run.Error) : ∃ message, splitEnding e = .message message := by
  unfold splitEnding
  split
  · exact ⟨_, rfl⟩
  · exact ⟨_, rfl⟩

theorem source_of_make {source output : Path} {count : Option Int} {typeName : Option Text} {dryRun : Bool}
    {request : Run.Request} (h : Run.Request.make source output count typeName dryRun = .ok request) :
    request.source = source := by
  unfold Run.Request.make at h
  split at h
  · cases h
    rfl
  · split at h
    · cases h
      rfl
    · cases h

/-- A run for a source without types fails as the search for them does. -/
theorem run_error [NamePattern.Objects] {splitter : Splitter} {request : Run.Request} {e : Run.Error}
    (h : (perform (Run.parse (host (Terminal.system cwd) o) splitter s request.source) t).1 = .error e) :
    (perform (Run.run (host (Terminal.system cwd) o) splitter s request) t).1 = .error e := by
  have hparse : perform (Run.parse (host (Terminal.system cwd) o) splitter s request.source) t =
      (.error e, (perform (Run.parse (host (Terminal.system cwd) o) splitter s request.source) t).2) := Prod.ext h rfl
  unfold Run.run Run.prepare
  rw [Run.perform_bind_error (Run.perform_bind_error hparse)]

theorem carry_split_error [NamePattern.Objects] {splitter : Splitter} {e : Run.Error}
    (h : (perform (Run.parse (host (Terminal.system cwd) o) splitter s (sourcePath source)) t).1 = .error e) :
    ∃ message, (carry (split (Terminal.system cwd) s splitter source o) t).1 = .error (.message message) := by
  unfold split
  dsimp only
  cases hmake : Run.Request.make (sourcePath source) (((nonempty? o.output).map Path.ofText).getD s.output.directory) o.splits
      ((nonempty? o.typeName).map Text.strip) o.dryRun with
  | error fault =>
    obtain ⟨message, hmessage⟩ := splitEnding_eq_message (.count fault)
    refine ⟨message, carry_bind_error ?_⟩
    rw [← hmessage]
    rfl
  | ok request =>
    obtain ⟨message, hmessage⟩ := splitEnding_eq_message e
    refine ⟨message, ?_⟩
    rw [← source_of_make hmake] at h
    have hrun := run_error h
    refine (congrArg Prod.fst (carry_bind_ok rfl)).trans (carry_bind_error ?_)
    rw [carry_mapError, hrun, ← hmessage]
    rfl

/-- With valid settings, if the types of a source cannot be found, `split` ends with a message. So does `inspect`, and with
the one that tells the error, unless the failure is unforeseen; then it ends without one. -/
theorem failures_are_reported_unless_unforeseen [NamePattern.Objects] (hlog : logFile? (Terminal.system cwd) o = none)
    (hsettings : (carry (settings (Terminal.system cwd) o) t).1 = .ok s) (source : Text) :
    ∃ splitter, Splitter.ofSettings s none = .ok splitter ∧
      (∀ e, (perform (Run.parse (host (Terminal.system cwd) o) splitter s (sourcePath source)) t).1 = .error e →
        (∃ message, (carry ((⟨.split, source, o⟩ : Call).run (Terminal.system cwd)) t).1 = .error (.message message)) ∧
        (¬ Unforeseen s t.disk (sourcePath source) →
          (carry ((⟨.inspect, source, o⟩ : Call).run (Terminal.system cwd)) t).1 =
            .error (.message ("Error: ".toList ++ e.message ++ ['\n']))) ∧
        (Unforeseen s t.disk (sourcePath source) →
          (carry ((⟨.inspect, source, o⟩ : Call).run (Terminal.system cwd)) t).1 = .error (.failed (.run e)))) ∧
      (Unforeseen s t.disk (sourcePath source) →
        ∃ e, (perform (Run.parse (host (Terminal.system cwd) o) splitter s (sourcePath source)) t).1 = .error e) := by
  obtain ⟨splitter, hsplitter⟩ := Run.splitter_ofSettings (usable_of_settings hsettings).parsing none
  have hiff := Run.unforeseen_iff cwd hlog splitter s t (sourcePath source)
  refine ⟨splitter, hsplitter, fun e he => ?_, fun hunforeseen => ?_⟩
  · rw [carry_split hlog hsettings hsplitter, carry_inspect hlog hsettings hsplitter]
    refine ⟨carry_split_error he, fun hforeseen => ?_, fun hunforeseen => ?_⟩
    · have hexpected : e.isExpected = true := by
        by_contra hno
        exact hforeseen (hiff.mpr ⟨e, by simpa using hno, he⟩)
      refine (carry_inspect_error he).trans ?_
      rw [inspectEnding, if_pos hexpected]
    · obtain ⟨e', hexpected, he'⟩ := hiff.mp hunforeseen
      obtain rfl : e = e' := Except.error.inj (he.symm.trans he')
      refine (carry_inspect_error he).trans ?_
      rw [inspectEnding, if_neg (by simp [hexpected])]
  · obtain ⟨e, -, he⟩ := hiff.mp hunforeseen
    exact ⟨e, he⟩

end

def oneFileOf (bytes : List UInt8) : Terminal :=
  ⟨(Files.Disk.empty (.ofText "/w".toList)).set (.ofText "/w/a.cs".toList) (.file bytes), [], [], []⟩

def plainSystem : System (StateM Terminal) := Terminal.system (.ofText "/w".toList)

/-- Another file than the one that is there, with blanks and quotation marks around its name. -/
theorem a_missing_source_is_reported :
    logFile? plainSystem {} = none ∧ (carry (settings plainSystem {}) (oneFileOf [0xFF])).1 = .ok .default ∧
      (carry ((⟨.inspect, " \"b.cs\" ".toList, {}⟩ : Call).run plainSystem) (oneFileOf [0xFF])).1 =
        .error (.message "Error: File not found: b.cs\n".toList) := by
  have hsettings : (carry (settings plainSystem {}) (oneFileOf [0xFF])).1 = .ok .default := rfl
  have hstatus : (oneFileOf [0xFF]).disk.status (sourcePath " \"b.cs\" ".toList) = .ok .nothing := rfl
  obtain ⟨splitter, -, hends, -⟩ := failures_are_reported_unless_unforeseen rfl hsettings " \"b.cs\" ".toList
  have hmissing := Run.ends_parse_missing (.ofText "/w".toList) splitter .default {} hstatus rfl
  exact ⟨rfl, hsettings, (hends _ hmissing.1).2.1 (Run.not_unforeseen_of_missing hstatus rfl)⟩

def startByteError : Encoding.DecodeError := ⟨.standard, 0, [0xFF], Utf8.Reason.message .startByte⟩

theorem readText_startByte : Encoding.standard.readText [0xFF] = .error startByteError := by
  have hdecode : Utf8.decode [0xFF] = .error ⟨0, 1, .startByte⟩ := by
    rw [Utf8.decode, Utf8.decodeFrom]
    rfl
  show ((Utf8.decode [0xFF]).mapError fun fault => Encoding.DecodeError.mk _ _ _ _).map _ = _
  rw [hdecode]
  rfl

/-- A byte that starts no character: `split` ends with a message, and `inspect` with an error that it does not speak of. -/
theorem an_undecodable_source_is_not_reported :
    (carry (settings plainSystem {}) (oneFileOf [0xFF])).1 = .ok .default ∧
      (∃ message, (carry ((⟨.split, "a.cs".toList, {}⟩ : Call).run plainSystem) (oneFileOf [0xFF])).1 =
        .error (.message message)) ∧
      (carry ((⟨.inspect, "a.cs".toList, {}⟩ : Call).run plainSystem) (oneFileOf [0xFF])).1 =
        .error (.failed (.run (.file (.undecodable startByteError)))) := by
  have hsettings : (carry (settings plainSystem {}) (oneFileOf [0xFF])).1 = .ok .default := rfl
  obtain ⟨splitter, hsplitter⟩ := Run.splitter_ofSettings Settings.default_usable.parsing none
  have hread : (oneFileOf [0xFF]).disk.read (sourcePath "a.cs".toList) = .ok [0xFF] := rfl
  have htext : Run.textOf .default [0xFF] = .error (.file (.undecodable startByteError)) := by
    unfold Run.textOf
    rw [readText_startByte]
    rfl
  have hparse := (Run.ends_parse_file (o := {}) (.ofText "/w".toList) splitter .default rfl hread).1
  rw [htext] at hparse
  rw [plainSystem, carry_split rfl hsettings hsplitter, carry_inspect rfl hsettings hsplitter]
  exact ⟨hsettings, carry_split_error hparse, carry_inspect_error hparse⟩

end TypeSplit.CommandLine
