/-
  TypeSplit.Files.Basic — what a run asks of the place where files are.

  `FileSystem` is the narrow view of a run: text in, lines out. A `Volume` is nearer to a disk, bytes at paths;
  every volume gives a file system in an encoding. A path that leads through a file names nothing.
-/

import TypeSplit.Files.Error

namespace TypeSplit.Files

structure FileSystem (m : Type → Type) where
  isFile : Path → m (Except Error Bool)
  /-- The size in bytes. -/
  fileSize : Path → m (Except Error Nat)
  readText : Path → m (Except Error Text)
  writeLines : Path → List Text → m (Except Error Unit)
  isDirectory : Path → m (Except Error Bool)
  /-- Makes a directory and those that it lies in, where they are missing. -/
  createDirectory : Path → m (Except Error Unit)

inductive Status where
  | nothing
  | file (size : Nat)
  | directory
  deriving DecidableEq, Repr

def Status.isFile : Status → Bool
  | .file _ => true
  | _ => false

def Status.isDirectory : Status → Bool
  | .directory => true
  | _ => false

def Status.size : Status → Nat
  | .file size => size
  | _ => 0

/-- Bytes at paths. -/
structure Volume (m : Type → Type) where
  status : Path → m (Except Error Status)
  read : Path → m (Except Error (List UInt8))
  write : Path → List UInt8 → m (Except Error Unit)
  /-- Writes at the end of a file, which is made if it is missing. -/
  append : Path → List UInt8 → m (Except Error Unit)
  /-- Makes a directory inside one that exists. -/
  makeDirectory : Path → m (Except Error Unit)

namespace Volume

variable {m : Type → Type} [Monad m]

/-- After a failure to make a directory: no matter if it is there. -/
def unlessPresent (v : Volume m) (p : Path) (e : Error) : m (Except Error Unit) := do
  if e.isSystem then
    match ← v.status p with
    | .ok status => return if status.isDirectory then .ok () else .error e
    | .error e => return .error e
  else return .error e

/-- Makes a directory in one that exists, or leaves the one that is there. -/
def ensureDirectory (v : Volume m) (p : Path) : m (Except Error Unit) := do
  match ← v.makeDirectory p with
  | .ok _ => return .ok ()
  | .error e => if e.isMissing then return .error e else v.unlessPresent p e

/-- Makes a directory after those that it lies in. `fuel` bounds their number. -/
def makeDirectories (v : Volume m) : (fuel : Nat) → Path → m (Except Error Unit)
  | 0, p => v.ensureDirectory p
  | fuel + 1, p => do
    match ← v.makeDirectory p with
    | .ok _ => return .ok ()
    | .error e =>
      if e.isMissing then
        match ← makeDirectories v fuel p.parent with
        | .ok _ => v.ensureDirectory p
        | .error e => return .error e
      else v.unlessPresent p e

def createDirectory (v : Volume m) (p : Path) : m (Except Error Unit) := v.makeDirectories p.names.length p

def files (v : Volume m) (encoding : Encoding) : FileSystem m where
  isFile p := do return (← v.status p).map Status.isFile
  fileSize p := do return (← v.status p).map Status.size
  readText p := do
    match ← v.read p with
    | .ok bytes => return (encoding.readText bytes).mapError .undecodable
    | .error e => return .error e
  writeLines p lines := do
    match encoding.writeLines lines with
    | .ok bytes => v.write p bytes
    | .error e =>
      -- the file is opened, and so emptied, before its text is encoded
      match ← v.write p [] with
      | .ok _ => return .error (.unencodable e)
      | .error e => return .error e
  isDirectory p := do return (← v.status p).map Status.isDirectory
  createDirectory p := v.createDirectory p

end Volume

end TypeSplit.Files
