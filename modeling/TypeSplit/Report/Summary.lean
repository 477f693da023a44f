/-
  TypeSplit.Report.Summary — what a run did, as text and as JSON.
-/

import TypeSplit.Extraction.Member
import TypeSplit.Path
import TypeSplit.Report.Json

namespace TypeSplit.Report

open TypeSplit.Text (decimal decimalInt)

/-- One file of a type. The counts of exposed and hidden members are kept when they made the groups. -/
structure GroupSummary where
  fileName : Text
  memberNames : List Text
  exposed : Option Int
  hidden : Option Int
  deriving DecidableEq, Repr

structure TypeSummary where
  name : Text
  memberCount : Int
  groups : List GroupSummary
  deriving DecidableEq, Repr

structure Skipped where
  kind : Text
  message : Text
  offset : Int
  line : Int
  name : Text
  deriving DecidableEq, Repr

def Skipped.ofWarning (w : Warning) : Skipped := ⟨w.cause.kind, w.message, w.offset, w.line, w.name⟩

structure Summary where
  sourcePath : Text
  outputDir : Text
  policy : Text
  splitCount : Option Int
  typeFilter : Option Text
  dryRun : Bool
  types : List TypeSummary
  written : List Text
  skipped : List Skipped
  deriving DecidableEq, Repr

/-! ## Text -/

def line (t : Text) : Text := t ++ ['\n']

def countText : Option Int → Text
  | some n => decimalInt n
  | none => "None".toList

def skippedText (skipped : List Skipped) : Text :=
  if skipped.isEmpty then []
  else line [] ++ line "Skipped sites:".toList ++
    skipped.flatMap fun s => line ("  line ".toList ++ decimalInt s.line ++ ':' :: ' ' :: s.message)

def GroupSummary.toText (g : GroupSummary) : Text :=
  line ("    File: ".toList ++ g.fileName) ++
  line ("      Members: ".toList ++ decimal g.memberNames.length) ++
  (match g.exposed with
    | some n => line ("      Public: ".toList ++ decimalInt n ++ ", Non-public: ".toList ++ countText g.hidden)
    | none => []) ++
  line ("      Member names: ".toList ++ Text.join [',', ' '] g.memberNames)

def TypeSummary.toText (t : TypeSummary) : Text :=
  line [] ++
  line ("Type: ".toList ++ t.name) ++
  line ("  Total members: ".toList ++ decimalInt t.memberCount) ++
  line ("  Split into: ".toList ++ decimal t.groups.length ++ " files".toList) ++
  t.groups.flatMap (·.toText)

def roundRobinPolicy : Text := "round_robin".toList

def visibilityPolicy : Text := "visibility".toList

def Summary.toText (s : Summary) (cwd : Path) : Text :=
  line "=== SPLIT SUMMARY ===".toList ++
  line ("Source file: ".toList ++ (Path.ofText s.sourcePath).name) ++
  line ("Total types processed: ".toList ++ decimal s.types.length) ++
  line (match s.typeFilter with
    | some (c :: rest) => "Specific type split: ".toList ++ c :: rest
    | _ => "All types split".toList) ++
  line (if s.policy = roundRobinPolicy
    then "Policy: round-robin across ".toList ++ countText s.splitCount ++ " files".toList
    else "Policy: public / non-public split".toList) ++
  line ("Output directory: ".toList ++ (Path.resolve cwd (Path.ofText s.outputDir)).text ++
    if s.dryRun then " (dry run, nothing written)".toList else []) ++
  s.types.flatMap (·.toText) ++
  skippedText s.skipped

/-! ## JSON -/

def GroupSummary.toJson (g : GroupSummary) : Json := .object [
  ("file_name".toList, .text g.fileName),
  ("member_names".toList, .list (g.memberNames.map .text)),
  ("exposed".toList, .ofOption .int g.exposed),
  ("hidden".toList, .ofOption .int g.hidden),
  ("member_count".toList, .int g.memberNames.length)]

def TypeSummary.toJson (t : TypeSummary) : Json := .object [
  ("name".toList, .text t.name),
  ("member_count".toList, .int t.memberCount),
  ("groups".toList, .list (t.groups.map (·.toJson))),
  ("group_count".toList, .int t.groups.length)]

def Skipped.toJson (s : Skipped) : Json := .object [
  ("kind".toList, .text s.kind),
  ("message".toList, .text s.message),
  ("line".toList, .int s.line),
  ("offset".toList, .int s.offset),
  ("name".toList, .text s.name)]

def Summary.toJson (s : Summary) : Json := .object [
  ("source_path".toList, .text s.sourcePath),
  ("output_dir".toList, .text s.outputDir),
  ("policy".toList, .text s.policy),
  ("split_count".toList, .ofOption .int s.splitCount),
  ("type_filter".toList, .ofOption .text s.typeFilter),
  ("dry_run".toList, .bool s.dryRun),
  ("types".toList, .list (s.types.map (·.toJson))),
  ("written".toList, .list (s.written.map .text)),
  ("warnings".toList, .list (s.skipped.map (·.toJson)))]

end TypeSplit.Report
