/-
  TypeSplit.Proofs.Hosts — the files of a store and of a terminal, told by themselves.

  A journal keeps a store and a terminal keeps a disk, each beside a log and other things. What a run does to the
  store or to the disk does not depend on the rest: `journal_shows`, and `terminal_shows` for a terminal whose log goes
  to no file. A disk makes the directories that a path leads through one by one, so the terminal is followed through
  that recursion (`OnDisk`).

  A store refuses only with errors of its own. A disk does so too for paths without a zero character (`SystemOnly`),
  which it does not take for paths.
-/

import TypeSplit.CommandLine.Terminal
import TypeSplit.Proofs.Delivery
import TypeSplit.Run.Journal

namespace TypeSplit.Path

theorem mem_join {c sep : Char} (h : c ≠ sep) (names : List Text) : c ∈ Text.join [sep] names ↔ ∃ name ∈ names, c ∈ name := by
  unfold Text.join
  induction names with
  | nil => simp
  | cons name names ih =>
    cases names with
    | nil => simp
    | cons next names =>
      rw [List.intercalate_cons_cons, List.mem_append, List.mem_append, ih]
      simp [h]

/-- The characters of a path, other than slashes and dots, are those of its names. -/
theorem mem_text {c : Char} (hslash : c ≠ '/') (hdot : c ≠ '.') {p : Path} : c ∈ p.text ↔ ∃ name ∈ p.names, c ∈ name := by
  unfold text
  split
  · rename_i hempty
    simp only [Bool.and_eq_true, List.isEmpty_iff] at hempty
    simp [hempty.2, hdot]
  · rw [List.mem_append, mem_join hslash]
    simp [hslash]

theorem not_mem_text_parent {c : Char} (hslash : c ≠ '/') (hdot : c ≠ '.') {p : Path} (h : c ∉ p.text) :
    c ∉ p.parent.text := by
  rw [mem_text hslash hdot] at h ⊢
  rintro ⟨name, hname, hc⟩
  exact h ⟨name, List.dropLast_subset _ hname, hc⟩

end TypeSplit.Path

namespace TypeSplit.Files

/-! ## A disk by itself -/

def Disk.alter (f : Disk → Except Error Disk) : StateM Disk (Except Error Unit) := fun d =>
  match f d with
  | .ok d' => (.ok (), d')
  | .error e => (.error e, d)

theorem Disk.error_of_alter {f : Disk → Except Error Disk} {d : Disk} {e : Error} (h : (Disk.alter f d).1 = .error e) :
    f d = .error e := by
  unfold Disk.alter at h
  cases hf : f d with
  | ok d' =>
    rw [hf] at h
    cases h
  | error e' =>
    rw [hf] at h
    cases h
    rfl

def Disk.volume : Volume (StateM Disk) where
  status p := do return (← get).status p
  read p := do return (← get).read p
  write p bytes := Disk.alter (·.modify p fun _ => bytes)
  append p bytes := Disk.alter (·.modify p (· ++ bytes))
  makeDirectory p := Disk.alter (·.makeDirectory p)

/-! ## Errors of the system -/

section

variable {α β : Type} {d : Disk} {p : Path} {e : Error}

def SystemOnly (x : StateM Disk (Except Error α)) : Prop :=
  ∀ d e, (Id.run (x.run d)).1 = .error e → e.isSystem = true

theorem systemOnly_ok (a : α) : SystemOnly (pure (.ok a)) := by
  intro d e h
  cases h

theorem systemOnly_error (h : e.isSystem = true) : SystemOnly (pure (.error e) : StateM Disk (Except Error α)) := by
  intro d e' he
  cases he
  exact h

theorem SystemOnly.bind {x : StateM Disk (Except Error α)} {f : Except Error α → StateM Disk (Except Error β)}
    (hx : SystemOnly x) (hok : ∀ a, SystemOnly (f (.ok a))) (herror : ∀ e, e.isSystem = true → SystemOnly (f (.error e))) :
    SystemOnly (x >>= f) := by
  intro d e h
  simp only [StateT.run_bind, Id.run_bind] at h
  cases hanswer : (Id.run (x.run d)).1 with
  | ok a =>
    rw [hanswer] at h
    exact hok a _ e h
  | error e' =>
    rw [hanswer] at h
    exact herror e' (hx d e' hanswer) _ e h

theorem isSystem_of_locate (hzero : '\x00' ∉ p.text) (h : d.locate p = .error e) : e.isSystem = true := by
  unfold Disk.locate at h
  rw [if_neg (by simpa using hzero)] at h
  split at h
  · cases h
    rfl
  · dsimp only at h
    cases hwalk : (d.workingDirectory.join p).names.foldlM d.step ⟨(d.workingDirectory.join p).root, []⟩ with
    | ok place =>
      rw [hwalk] at h
      cases h
    | error cause =>
      rw [hwalk] at h
      cases h
      rfl

theorem isSystem_of_status (h : d.status p = .error e) : e.isSystem = true := by
  unfold Disk.status at h
  split at h
  · split at h <;> cases h
  · cases h
  · cases h
  · cases h
  · rename_i e' hmissing hdirectory hzero hlocate
    cases h
    by_cases hchar : '\x00' ∈ p.text
    · unfold Disk.locate at hlocate
      rw [if_pos (by simpa using hchar)] at hlocate
      cases hlocate
      exact absurd rfl hzero
    · exact isSystem_of_locate hchar hlocate

/-- What is done at the place of a path fails with an error of the system, if it does so once the place is found. -/
theorem isSystem_of_located {f : Path → Except Error α} (hzero : '\x00' ∉ p.text)
    (hf : ∀ place e, f place = .error e → e.isSystem = true) (h : (d.locate p >>= f) = .error e) : e.isSystem = true := by
  cases hlocate : d.locate p with
  | error e' =>
    rw [hlocate] at h
    cases h
    exact isSystem_of_locate hzero hlocate
  | ok place =>
    rw [hlocate] at h
    exact hf place e h

theorem isSystem_of_modify {f : List UInt8 → List UInt8} (hzero : '\x00' ∉ p.text) (h : d.modify p f = .error e) :
    e.isSystem = true := by
  refine isSystem_of_located hzero (fun place e he => ?_) h
  split at he <;> cases he
  rfl

theorem isSystem_of_makeDirectory (hzero : '\x00' ∉ p.text) (h : d.makeDirectory p = .error e) :
    e.isSystem = true := by
  refine isSystem_of_located hzero (fun place e he => ?_) h
  split at he <;> cases he
  rfl

theorem systemOnly_status (p : Path) : SystemOnly (Disk.volume.status p) := fun _ _ h => isSystem_of_status h

theorem systemOnly_makeDirectory (hzero : '\x00' ∉ p.text) : SystemOnly (Disk.volume.makeDirectory p) := by
  intro d e h
  have hmake : (Disk.alter (·.makeDirectory p) d).1 = .error e := h
  exact isSystem_of_makeDirectory hzero (Disk.error_of_alter hmake)

theorem systemOnly_unlessPresent (p : Path) (h : e.isSystem = true) : SystemOnly (Disk.volume.unlessPresent p e) := by
  unfold Volume.unlessPresent
  rw [if_pos h]
  refine (systemOnly_status p).bind (fun status => ?_) fun e' he' => systemOnly_error he'
  dsimp only
  cases status.isDirectory with
  | true => exact systemOnly_ok ()
  | false => exact systemOnly_error h

theorem systemOnly_ensureDirectory (hzero : '\x00' ∉ p.text) : SystemOnly (Disk.volume.ensureDirectory p) := by
  refine (systemOnly_makeDirectory hzero).bind (fun _ => systemOnly_ok ()) fun e' he' => ?_
  dsimp only
  cases e'.isMissing with
  | true => exact systemOnly_error he'
  | false => exact systemOnly_unlessPresent p he'

theorem systemOnly_makeDirectories (fuel : Nat) (hzero : '\x00' ∉ p.text) :
    SystemOnly (Disk.volume.makeDirectories fuel p) := by
  induction fuel generalizing p with
  | zero => exact systemOnly_ensureDirectory hzero
  | succ fuel ih =>
    refine (systemOnly_makeDirectory hzero).bind (fun _ => systemOnly_ok ()) fun e' he' => ?_
    dsimp only
    cases e'.isMissing with
    | false => exact systemOnly_unlessPresent p he'
    | true =>
      have hparent := ih (Path.not_mem_text_parent (by decide) (by decide) hzero)
      exact hparent.bind (fun _ => systemOnly_ensureDirectory hzero) fun e'' he'' => systemOnly_error he''

end

end TypeSplit.Files

namespace TypeSplit.Run

open TypeSplit.CommandLine (Terminal)
open TypeSplit.Files (Disk Store Volume)

/-! ## Stores -/

/-- A store after a change that may fail; then it stays as it is. -/
def settle (s : Store) : Except Files.Error Store → Except Files.Error Unit × Store
  | .ok s' => (.ok (), s')
  | .error e => (.error e, s)

def storeEffects : Effects Store where
  isDirectory s p := .ok (s.isDirectory p)
  createDirectory s p := settle s (s.createDirectory p)
  writeLines s p lines := settle s (s.writeLines p lines)

theorem store_enter {f : Store → Except Files.Error Store} {g : Journal → Journal}
    (hg : ∀ j, (g j).store = j.store) (j : Journal) :
    ((Journal.enter f g).run j).1 = (settle j.store (f j.store)).1 ∧
      ((Journal.enter f g).run j).2.store = (settle j.store (f j.store)).2 := by
  show (Journal.enter f g j).1 = _ ∧ (Journal.enter f g j).2.store = _
  unfold Journal.enter
  cases f j.store with
  | ok s => exact ⟨rfl, hg _⟩
  | error e => exact ⟨rfl, rfl⟩

theorem journal_shows : Shows Journal.host Journal.store storeEffects where
  log _ _ := rfl
  isFile _ _ := rfl
  fileSize _ _ := rfl
  readText _ _ := rfl
  isDirectory _ _ := ⟨rfl, rfl⟩
  createDirectory p j := store_enter (f := (·.createDirectory p))
    (g := fun j => { j with created := j.created ++ [p] }) (fun _ => rfl) j
  writeLines p lines j := store_enter (f := (·.writeLines p lines))
    (g := fun j => { j with written := j.written ++ [(p, lines.length)] }) (fun _ => rfl) j

theorem error_of_settle {s s' : Store} {r : Except Files.Error Store} {e : Files.Error} (h : settle s r = (.error e, s')) :
    r = .error e := by
  cases r with
  | ok _ => cases h
  | error _ =>
    cases h
    rfl

theorem isSystem_of_writeLines {s : Store} {p : Path} {lines : List Text} {e : Files.Error}
    (h : s.writeLines p lines = .error e) : e.isSystem = true := by
  unfold Store.writeLines at h
  split at h <;> cases h
  rfl

theorem isSystem_of_createDirectory {s : Store} {p : Path} {e : Files.Error} (h : s.createDirectory p = .error e) :
    e.isSystem = true := by
  unfold Store.createDirectory at h
  split at h <;> cases h
  rfl

/-! ## Disks -/

def diskEffects : Effects Disk where
  isDirectory d p := (d.status p).map Files.Status.isDirectory
  createDirectory d p := Id.run ((Disk.volume.createDirectory p).run d)
  writeLines d p lines := Id.run (((Disk.volume.files .standard).writeLines p lines).run d)

section

variable {α β : Type}

/-- An action of a terminal does to its disk what an action of a disk does. -/
def OnDisk (x : StateM Terminal α) (y : StateM Disk α) : Prop :=
  ∀ t, (Id.run (x.run t)).1 = (Id.run (y.run t.disk)).1 ∧ (Id.run (x.run t)).2.disk = (Id.run (y.run t.disk)).2

theorem onDisk_pure (a : α) : OnDisk (pure a) (pure a) := fun _ => ⟨rfl, rfl⟩

theorem OnDisk.bind {x : StateM Terminal α} {y : StateM Disk α} {f : α → StateM Terminal β}
    {g : α → StateM Disk β} (hx : OnDisk x y) (hf : ∀ a, OnDisk (f a) (g a)) : OnDisk (x >>= f) (y >>= g) := by
  intro t
  obtain ⟨hanswer, hdisk⟩ := hx t
  have hnext := hf (Id.run (x.run t)).1 (Id.run (x.run t)).2
  rw [hdisk] at hnext
  simp only [StateT.run_bind, Id.run_bind]
  rw [← hanswer]
  exact hnext

theorem onDisk_status (p : Path) : OnDisk (Terminal.volume.status p) (Disk.volume.status p) :=
  fun _ => ⟨rfl, rfl⟩

theorem onDisk_alter (f : Disk → Except Files.Error Disk) : OnDisk (Terminal.change f) (Disk.alter f) := by
  intro t
  show (Terminal.change f t).1 = (Disk.alter f t.disk).1 ∧
    (Terminal.change f t).2.disk = (Disk.alter f t.disk).2
  unfold Terminal.change Disk.alter
  cases f t.disk <;> exact ⟨rfl, rfl⟩

theorem onDisk_unlessPresent (p : Path) (e : Files.Error) :
    OnDisk (Terminal.volume.unlessPresent p e) (Disk.volume.unlessPresent p e) := by
  unfold Volume.unlessPresent
  cases e.isSystem with
  | false => exact onDisk_pure _
  | true =>
    refine (onDisk_status p).bind fun answer => ?_
    cases answer <;> exact onDisk_pure _

theorem onDisk_ensureDirectory (p : Path) :
    OnDisk (Terminal.volume.ensureDirectory p) (Disk.volume.ensureDirectory p) := by
  refine (onDisk_alter (·.makeDirectory p)).bind fun answer => ?_
  cases answer with
  | ok _ => exact onDisk_pure _
  | error e =>
    dsimp only
    cases e.isMissing with
    | true => exact onDisk_pure _
    | false => exact onDisk_unlessPresent p e

theorem onDisk_makeDirectories (fuel : Nat) (p : Path) :
    OnDisk (Terminal.volume.makeDirectories fuel p) (Disk.volume.makeDirectories fuel p) := by
  induction fuel generalizing p with
  | zero => exact onDisk_ensureDirectory p
  | succ fuel ih =>
    refine (onDisk_alter (·.makeDirectory p)).bind fun answer => ?_
    cases answer with
    | ok _ => exact onDisk_pure _
    | error e =>
      dsimp only
      cases e.isMissing with
      | false => exact onDisk_unlessPresent p e
      | true =>
        refine (ih p.parent).bind fun answer => ?_
        cases answer with
        | ok _ => exact onDisk_ensureDirectory p
        | error e => exact onDisk_pure _

theorem onDisk_writeLines (encoding : Encoding) (p : Path) (lines : List Text) :
    OnDisk ((Terminal.volume.files encoding).writeLines p lines) ((Disk.volume.files encoding).writeLines p lines) := by
  simp only [Volume.files]
  cases encoding.writeLines lines with
  | ok bytes => exact onDisk_alter (·.modify p fun _ => bytes)
  | error e =>
    refine (onDisk_alter (·.modify p fun _ => [])).bind fun answer => ?_
    cases answer <;> exact onDisk_pure _

/-- A terminal whose log goes to no file shows its disk. -/
theorem terminal_shows (cwd : Path) {o : CommandLine.Options}
    (h : CommandLine.logFile? (Terminal.system cwd) o = none) :
    Shows (CommandLine.host (Terminal.system cwd) o) Terminal.disk diskEffects where
  log r t := by
    simp only [CommandLine.host, CommandLine.log, h]
    split <;> rfl
  isFile _ _ := rfl
  fileSize _ _ := rfl
  readText p t := by
    show (Id.run (((Terminal.volume.files .standard).readText p).run t)).2.disk = t.disk
    simp only [Volume.files, Terminal.volume, Terminal.look, StateT.run_bind]
    cases hread : t.disk.read p <;> simp [hread]
  isDirectory _ _ := ⟨rfl, rfl⟩
  createDirectory p t := onDisk_makeDirectories p.names.length p t
  writeLines p lines t := onDisk_writeLines .standard p lines t

end

end TypeSplit.Run
