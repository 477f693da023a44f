/-
  TypeSplit.CommandLine.Terminal — a system in memory.

  Calls made one after the other see the files of those before, and what they print is kept.
-/

import TypeSplit.CommandLine.Basic
import TypeSplit.Files.Disk

namespace TypeSplit.CommandLine

open TypeSplit.Files (Disk Volume)

structure Terminal where
  disk : Disk
  out : Text
  err : Text
  /-- The time that the clock shows. -/
  clock : Text

namespace Terminal

def look {α : Type} (f : Disk → Except Files.Error α) : StateM Terminal (Except Files.Error α) := do
  return f (← get).disk

/-- A change of the disk; an error leaves it as it was. -/
def change (f : Disk → Except Files.Error Disk) : StateM Terminal (Except Files.Error Unit) := fun t =>
  match f t.disk with
  | .ok disk => (.ok (), { t with disk })
  | .error e => (.error e, t)

def volume : Volume (StateM Terminal) where
  status p := look (·.status p)
  read p := look (·.read p)
  write p bytes := change (·.modify p fun _ => bytes)
  append p bytes := change (·.modify p (· ++ bytes))
  makeDirectory p := change (·.makeDirectory p)

def system (workingDirectory : Path) : System (StateM Terminal) where
  volume := volume
  workingDirectory := workingDirectory
  out t := modify fun s => { s with out := s.out ++ t }
  err t := modify fun s => { s with err := s.err ++ t }
  now := do return (← get).clock

def call [NamePattern.Objects] (t : Terminal) (arguments : List Text) : Except Ending Unit × Terminal :=
  (run (system t.disk.workingDirectory) arguments).run.run t

end Terminal

end TypeSplit.CommandLine
