/-
  TypeSplit.Files.Disk — a tree of files and directories in memory.

  A path is walked from the root, name by name: each name on the way must be a directory that is there, two dots
  lead to the directory around, and a name of more than 255 bytes is refused. Every entry is kept under its
  full path, so the parent of an entry is an entry.
-/

import TypeSplit.Files.Basic

namespace TypeSplit.Files

inductive Entry where
  | file (bytes : List UInt8)
  | directory
  deriving DecidableEq, Repr

structure Disk where
  /-- Where paths without a root begin. -/
  workingDirectory : Path
  entries : List (Path × Entry)
  deriving DecidableEq, Repr

namespace Disk

def nameLimit : Nat := 255

def pathLimit : Nat := 4095

/-- What stands under a full path; a root is a directory. -/
def entry? (d : Disk) (p : Path) : Option Entry := if p.names.isEmpty then some .directory else d.entries.lookup p

def set (d : Disk) (p : Path) (e : Entry) : Disk := { d with entries := (p, e) :: d.entries.filter (·.1 ≠ p) }

def empty (workingDirectory : Path) : Disk :=
  let names := workingDirectory.names
  ⟨workingDirectory, (List.range names.length).map fun i => (⟨workingDirectory.root, names.take (i + 1)⟩, .directory)⟩

def step (d : Disk) (place : Path) (name : Text) : Except Cause Path :=
  match d.entry? place with
  | none => .error .missing
  | some (.file _) => .error .notDirectory
  | some .directory =>
    if name = ['.', '.'] then .ok place.parent
    else if nameLimit < (Utf8.encode name).length then .error .nameTooLong
    else .ok ⟨place.root, place.names ++ [name]⟩

/-- The full path that a path leads to. Only its last name may be missing. -/
def locate (d : Disk) (p : Path) : Except Error Path :=
  if p.text.contains '\x00' then .error .zeroInPath
  else if pathLimit < (Utf8.encode p.text).length then .error (.system .nameTooLong p)
  else
    let full := d.workingDirectory.join p
    (full.names.foldlM d.step ⟨full.root, []⟩).mapError (.system · p)

def status (d : Disk) (p : Path) : Except Error Status :=
  match d.locate p with
  | .ok place =>
    match d.entry? place with
    | none => .ok .nothing
    | some (.file bytes) => .ok (.file bytes.length)
    | some .directory => .ok .directory
  | .error (.system .missing _) => .ok .nothing
  | .error (.system .notDirectory _) => .ok .nothing
  | .error .zeroInPath => .ok .nothing
  | .error e => .error e

def read (d : Disk) (p : Path) : Except Error (List UInt8) := do
  match d.entry? (← d.locate p) with
  | none => throw (.system .missing p)
  | some .directory => throw (.system .directory p)
  | some (.file bytes) => return bytes

/-- The disk with the bytes of a file made new of its old ones. -/
def modify (d : Disk) (p : Path) (f : List UInt8 → List UInt8) : Except Error Disk := do
  let place ← d.locate p
  match d.entry? place with
  | none => return d.set place (.file (f []))
  | some .directory => throw (.system .directory p)
  | some (.file bytes) => return d.set place (.file (f bytes))

def makeDirectory (d : Disk) (p : Path) : Except Error Disk := do
  let place ← d.locate p
  match d.entry? place with
  | none => return d.set place .directory
  | some _ => throw (.system .present p)

end Disk

end TypeSplit.Files
