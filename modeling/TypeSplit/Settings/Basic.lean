/-
  TypeSplit.Settings.Basic — what a user can set.

  Settings come in four sections: how and where files are written, which source files are taken, how members
  are dealt into groups when a request does not say, and what counts as a type and as a member.
-/

import TypeSplit.Extraction.Basic
import TypeSplit.Number.Binary64
import TypeSplit.Path
import TypeSplit.Splitting.Document

namespace TypeSplit

open TypeSplit.Number (Binary64)

namespace Settings

structure Output where
  directory : Path
  indentSize : Int
  useSpaces : Bool
  filePattern : Text
  createDirectories : Bool
  deriving DecidableEq, Repr

def Output.indentUnit (o : Output) : Text :=
  if o.useSpaces then List.replicate o.indentSize.toNat ' ' else ['\t']

structure Input where
  supportedExtensions : List Text
  maxFileSizeMb : Binary64
  deriving Repr

inductive Mode where
  | visibility
  | roundRobin
  deriving DecidableEq, Repr

def Mode.name : Mode → Text
  | .visibility => "visibility".toList
  | .roundRobin => "round_robin".toList

structure Split where
  mode : Mode
  count : Option Int
  deriving DecidableEq, Repr

def Split.defaultCount (s : Split) : Option Int :=
  match s.mode with
  | .visibility => none
  | .roundRobin => s.count

structure Parsing where
  typeKeywords : List Text
  includeProperties : Bool
  includeConstructors : Bool
  deriving DecidableEq, Repr

end Settings

structure Settings where
  output : Settings.Output
  input : Settings.Input
  split : Settings.Split
  parsing : Settings.Parsing
  deriving Repr

namespace Settings

def default : Settings where
  output := ⟨.ofText "Output".toList, 4, true, ({} : Splitting.Style).filePattern, true⟩
  input := ⟨[".cs".toList], .ofInt 50⟩
  split := ⟨.visibility, none⟩
  parsing := ⟨Extraction.defaultKeywords, true, true⟩

end Settings

end TypeSplit
