/-
  TypeSplit.Files.Store — files and directories in memory, each by its own path.

  A store takes a path as it is: a directory exists if it was made under that path, and says nothing of the
  directories around it. It can be told to refuse writes and directories, to give a file another size, and to
  lose a file between the look at it and the reading of it.
-/

import TypeSplit.Files.Basic

namespace TypeSplit.Files

structure Store where
  /-- The text of each file; the first entry of a path counts. -/
  texts : List (Path × Text)
  directories : List Path
  /-- Sizes that are not those of the texts. -/
  sizes : List (Path × Nat)
  /-- Files that exist and cannot be read. -/
  vanished : List Path
  /-- Paths that cannot be written. -/
  refusedWrites : List Path
  refusesDirectories : Bool
  deriving DecidableEq, Repr

namespace Store

def empty : Store := ⟨[], [], [], [], [], false⟩

def get? (s : Store) (p : Path) : Option Text := s.texts.lookup p

def insert (s : Store) (p : Path) (t : Text) : Store :=
  { s with texts := (p, t) :: s.texts.filter (·.1 ≠ p) }

def erase (s : Store) (p : Path) : Store := { s with texts := s.texts.filter (·.1 ≠ p) }

/-- A file as it is given, with its size and whether it will vanish. -/
def put (s : Store) (p : Path) (t : Text) (size : Option Nat) (vanishes : Bool) : Store :=
  let s := s.insert p t
  { s with
    sizes := (size.map fun n => (p, n)).toList ++ s.sizes.filter (·.1 ≠ p)
    vanished := (if vanishes then [p] else []) ++ s.vanished.filter (· ≠ p) }

def isFile (s : Store) (p : Path) : Bool := (s.get? p).isSome

def fileSize (s : Store) (p : Path) : Nat :=
  (s.sizes.lookup p).getD (Utf8.encode ((s.get? p).getD [])).length

def readText (s : Store) (p : Path) : Except Error Text :=
  if s.vanished.contains p then .error (.system .missing p)
  else
    match s.get? p with
    | some t => .ok t
    | none => .error (.system .missing p)

def writeLines (s : Store) (p : Path) (lines : List Text) : Except Error Store :=
  if s.refusedWrites.contains p then .error (.refused p) else .ok (s.insert p (Encoding.ofLines lines))

def isDirectory (s : Store) (p : Path) : Bool := s.directories.contains p

def createDirectory (s : Store) (p : Path) : Except Error Store :=
  if s.refusesDirectories then .error (.refused p)
  else .ok { s with directories := s.directories.filter (· ≠ p) ++ [p] }

end Store

end TypeSplit.Files
