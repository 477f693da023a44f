/-
  TypeSplit.Path — paths of files and directories.

  A path is a list of names, relative or from a root. Writing one down drops empty names and single dots;
  two dots stay. A root of exactly two slashes is a root of its own.
-/

import TypeSplit.Text.Basic

namespace TypeSplit

structure Path where
  /-- How many slashes the path begins with: none, one or two. -/
  root : Nat
  names : List Text
  deriving DecidableEq, Repr

namespace Path

/-- The number of slashes that a run of slashes counts as. -/
def rootOf (slashes : Nat) : Nat := if slashes = 0 then 0 else if slashes = 2 then 2 else 1

def ofText (t : Text) : Path :=
  { root := rootOf (t.takeWhile (· == '/')).length
    names := (Text.splitOn '/' t).filter fun name => !(name.isEmpty || name == ['.']) }

/-- The path as text; a path without names is a dot. -/
def text (p : Path) : Text :=
  if p.root = 0 && p.names.isEmpty then ['.']
  else List.replicate p.root '/' ++ Text.join ['/'] p.names

def string (p : Path) : String := String.ofList p.text

/-- A path seen from a directory; one with a root stands for itself. -/
def join (directory p : Path) : Path :=
  if p.root = 0 then ⟨directory.root, directory.names ++ p.names⟩ else p

def name (p : Path) : Text := p.names.getLast?.getD []

def parent (p : Path) : Path := ⟨p.root, p.names.dropLast⟩

/-- The end of a name from its last dot on, if something stands on both sides of the dot. -/
def suffixOf (name : Text) : Text :=
  let after := name.reverse.takeWhile (· ≠ '.')
  let before := (name.reverse.dropWhile (· ≠ '.')).drop 1
  if after.isEmpty || before.isEmpty then [] else '.' :: after.reverse

def suffix (p : Path) : Text := suffixOf p.name

/-- The names with every pair of dots taken together with the name in front of it. -/
def collapse (names : List Text) : List Text :=
  names.foldl (fun done name => if name = ['.', '.'] then done.dropLast else done ++ [name]) []

/-- The path from the root, seen from the working directory. -/
def resolve (cwd p : Path) : Path :=
  let p := cwd.join p
  ⟨p.root, collapse p.names⟩

end Path

end TypeSplit
