/-
  TypeSplit.Run.Journal — a store that keeps account of what a run did to it.
-/

import TypeSplit.Files.Store
import TypeSplit.Run.Basic

namespace TypeSplit.Run

open TypeSplit.Files (FileSystem Store)

structure Journal where
  store : Store
  log : List Record
  created : List Path
  /-- Each file that was written, with the number of its lines. -/
  written : List (Path × Nat)

namespace Journal

def start (s : Store) : Journal := ⟨s, [], [], []⟩

def look {α : Type} (f : Store → Except Files.Error α) : StateM Journal (Except Files.Error α) := do
  return f (← get).store

/-- An action of the store, entered in the journal if it succeeds. -/
def enter (f : Store → Except Files.Error Store) (note : Journal → Journal) :
    StateM Journal (Except Files.Error Unit) := fun j =>
  match f j.store with
  | .ok s => (.ok (), note { j with store := s })
  | .error e => (.error e, j)

def files : FileSystem (StateM Journal) where
  isFile p := look fun s => .ok (s.isFile p)
  fileSize p := look fun s => .ok (s.fileSize p)
  readText p := look (·.readText p)
  writeLines p lines :=
    enter (·.writeLines p lines) fun j => { j with written := j.written ++ [(p, lines.length)] }
  isDirectory p := look fun s => .ok (s.isDirectory p)
  createDirectory p := enter (·.createDirectory p) fun j => { j with created := j.created ++ [p] }

def host : Host (StateM Journal) where
  files := files
  log r := modify fun j => { j with log := j.log ++ [r] }

end Journal

end TypeSplit.Run
