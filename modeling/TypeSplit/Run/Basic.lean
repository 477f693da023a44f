/-
  TypeSplit.Run.Basic — a source file read, split and written.

  What becomes of a type is settled before anything is written: the types of the source are found, those that
  were asked for are dealt into groups and rendered, and only then is the output directory made and are the
  files written, in order. A dry run ends before that. The run speaks to a `Host`, which holds the files and
  hears the log.
-/

import TypeSplit.Extraction.Trace
import TypeSplit.Files.Basic
import TypeSplit.Report.Summary
import TypeSplit.Run.Error
import TypeSplit.Run.Log
import TypeSplit.Settings.Basic
import TypeSplit.Text.Case

namespace TypeSplit.Run

open TypeSplit.Files (FileSystem)
open TypeSplit.Number (Binary64)
open TypeSplit.Report (GroupSummary TypeSummary Summary)
open TypeSplit.Splitting (Document Style)
open TypeSplit.Text (decimal)

variable [NamePattern.Objects]

/-! ## What stays the same from run to run -/

/-- How sources are read, and how parts are rendered if not as the settings say. -/
structure Splitter where
  scanner : Extraction.Scanner
  withConstructors : Bool
  style : Option Style

def Splitter.ofSettings (s : Settings) (style : Option Style) : Except Extraction.Scanner.Error Splitter := do
  let scanner ← Extraction.Scanner.ofKeywords s.parsing.typeKeywords s.parsing.includeProperties
  return ⟨scanner, s.parsing.includeConstructors, style⟩

def Splitter.extract (splitter : Splitter) (t : Text) : Extraction :=
  Extraction.run splitter.scanner splitter.withConstructors ⟨t, Source.lines t⟩

def Splitter.styleFor (splitter : Splitter) (s : Settings) (extension : Text) : Style :=
  splitter.style.getD ⟨s.output.indentUnit, s.output.filePattern, extension⟩

def defaultExtension : Text := ({} : Style).extension

def Splitter.styleOf (splitter : Splitter) (s : Settings) (source : Path) : Style :=
  splitter.styleFor s (if source.suffix.isEmpty then defaultExtension else source.suffix)

/-! ## What becomes of the types -/

/-- All types, or the first whose name is the wanted one in any case of letters. An empty name wants all. -/
def selectTypes (types : List TypeDeclaration) : Option Text → Except Error (List TypeDeclaration)
  | none => .ok types
  | some [] => .ok types
  | some name =>
    match types.find? fun d => Text.fold d.name = Text.fold (Text.strip name) with
    | some d => .ok [d]
    | none => .error (.typeMissing name)

structure Parts where
  documents : List Document
  summary : TypeSummary
  deriving DecidableEq, Repr

def groupSummary (count : Option Int) (group : List Member) (document : Document) : GroupSummary where
  fileName := document.fileName
  memberNames := group.map (·.name)
  exposed := if count.isNone then some (Splitting.exposedCount group : Int) else none
  hidden := if count.isNone then some (Splitting.hiddenCount group : Int) else none

/-- The parts of a type; they are numbered from one. -/
def splitType (style : Style) (usings : List Text) (count : Option Int) (d : TypeDeclaration) :
    Except Error Parts := do
  let groups ← (Splitting.groups d.members count).mapError .grouping
  let documents ← (groups.zipIdx 1).mapM fun (group, part) =>
    (Splitting.document style usings d group part).mapError .rendering
  return ⟨documents, d.name, d.members.length, groups.zipWith (groupSummary count) documents⟩

def Parts.line (parts : Parts) : Text :=
  let name := parts.summary.name
  if parts.documents.isEmpty then name ++ ": no members, nothing to split".toList
  else name ++ ':' :: ' ' :: Text.decimalInt parts.summary.memberCount ++ " members into ".toList ++
    decimal parts.documents.length ++ " files".toList

/-- The number of files that counts: that of the request, or else that of the settings. -/
def effectiveCount (s : Settings) (request : Request) : Option Int := request.count <|> s.split.defaultCount

/-! ## A run -/

structure Host (m : Type → Type) where
  files : FileSystem m
  log : Record → m Unit

structure Outcome where
  summary : Summary
  extraction : Extraction
  documents : List Document

def Outcome.wrote (outcome : Outcome) (written : List Text) : Outcome :=
  { outcome with summary := { outcome.summary with written } }

section

variable {m : Type → Type} [Monad m]

def Host.ask {α : Type} (action : m (Except Files.Error α)) : ExceptT Error m α :=
  ExceptT.mk do return (← action).mapError .file

def Host.tell (host : Host m) (r : Record) : ExceptT Error m Unit := ExceptT.lift (host.log r)

def bytesPerMb : Nat := 1024 * 1024

def supportedExtensions (s : Settings) : List Text := s.input.supportedExtensions.map Text.lower

def extensionWarning? (s : Settings) (source : Path) : Option Record :=
  let suffix := Text.lower source.suffix
  let supported := supportedExtensions s
  if supported.isEmpty || supported.contains suffix then none
  else some (.warning ("File extension '".toList ++ Extraction.orNone suffix ++
    "' is not in the supported extensions list (".toList ++ Text.join [',', ' '] supported ++ [')']))

def checkSize (s : Settings) (bytes : Nat) : Except Error Unit :=
  let size := Binary64.ofRatio false bytes bytesPerMb
  if size.isInfinite then .error .sizeOverflow
  else if s.input.maxFileSizeMb.lt size then .error (.sourceTooLarge size s.input.maxFileSizeMb)
  else .ok ()

def checkSource (host : Host m) (s : Settings) (source : Path) : ExceptT Error m Unit := do
  unless ← Host.ask (host.files.isFile source) do throw (.sourceMissing source)
  if let some warning := extensionWarning? s source then host.tell warning
  let size ← Host.ask (host.files.fileSize source)
  ExceptT.mk (return checkSize s size)

/-- The text of a source. A source that is gone by now is missing. -/
def readSource (host : Host m) (source : Path) : ExceptT Error m Text :=
  ExceptT.mk do
    return (← host.files.readText source).mapError fun e => if e.isMissing then .sourceMissing source else .file e

def extractionRecords (e : Extraction) : List Record :=
  e.trace.map .trace ++
    e.warnings.map fun w => .warning ("Line ".toList ++ decimal w.line ++ ':' :: ' ' :: w.message)

def foundLine (e : Extraction) : Text :=
  "Found ".toList ++ decimal e.types.length ++ " types".toList ++
    if e.warnings.isEmpty then []
    else " (".toList ++ decimal e.warnings.length ++ " sites skipped)".toList

def parse (host : Host m) (splitter : Splitter) (s : Settings) (source : Path) : ExceptT Error m Extraction := do
  checkSource host s source
  host.tell (.progress ("Reading ".toList ++ source.text))
  let t ← readSource host source
  host.tell (.debug ("Read ".toList ++ decimal (Source.lines t).length ++ " lines from ".toList ++ source.text))
  let e := splitter.extract t
  (extractionRecords e).forM host.tell
  host.tell (.progress (foundLine e))
  return e

def splitAndTell (host : Host m) (style : Style) (usings : List Text) (count : Option Int) (d : TypeDeclaration) :
    ExceptT Error m Parts := do
  let parts ← ExceptT.mk (return splitType style usings count d)
  host.tell (.progress parts.line)
  return parts

def ensureDirectory (host : Host m) (s : Settings) (directory : Path) : ExceptT Error m Unit := do
  unless ← Host.ask (host.files.isDirectory directory) do
    unless s.output.createDirectories do throw (.directoryMissing directory)
    host.tell (.progress ("Creating output directory ".toList ++ directory.text))
    ExceptT.mk do
      return (← host.files.createDirectory directory).mapError fun e =>
        if e.isSystem then .directoryFailed directory e else .file e

def target (output : Path) (d : Document) : Path := output.join (.ofText d.fileName)

def writeDocument (host : Host m) (output : Path) (d : Document) : ExceptT Error m Text := do
  let target := target output d
  ExceptT.mk do
    return (← host.files.writeLines target d.lines).mapError fun e =>
      if e.isSystem then .writeFailed target e else .file e
  host.tell (.debug ("Wrote ".toList ++ target.text ++ " (".toList ++ decimal d.lines.length ++ " lines)".toList))
  return target.text

/-- What is told of a run that has not written anything yet. -/
def summarise (request : Request) (count : Option Int) (e : Extraction) (parts : List Parts) : Summary where
  sourcePath := request.source.text
  outputDir := request.output.text
  policy := policyName count
  splitCount := count
  typeFilter := request.typeName
  dryRun := request.dryRun
  types := parts.map (·.summary)
  written := []
  skipped := e.warnings.map .ofWarning

/-- Everything up to the first write. -/
def prepare (host : Host m) (splitter : Splitter) (s : Settings) (request : Request) : ExceptT Error m Outcome := do
  let e ← parse host splitter s request.source
  let selected ← ExceptT.mk (return selectTypes e.types request.typeName)
  let count := effectiveCount s request
  let style := splitter.styleOf s request.source
  let parts ← selected.mapM (splitAndTell host style e.usings count)
  return ⟨summarise request count e parts, e, parts.flatMap (·.documents)⟩

def write (host : Host m) (s : Settings) (output : Path) (documents : List Document) : ExceptT Error m (List Text) := do
  unless documents.isEmpty do ensureDirectory host s output
  let written ← documents.mapM (writeDocument host output)
  host.tell (.progress ("Wrote ".toList ++ decimal written.length ++ " files to ".toList ++ output.text))
  return written

def foretell (host : Host m) (output : Path) (documents : List Document) : ExceptT Error m (List Text) := do
  host.tell (.progress ("Dry run: ".toList ++ decimal documents.length ++ " files would be written".toList))
  return documents.map fun d => (target output d).text

def run (host : Host m) (splitter : Splitter) (s : Settings) (request : Request) : ExceptT Error m Outcome := do
  let outcome ← prepare host splitter s request
  let written ←
    if request.dryRun then foretell host request.output outcome.documents
    else write host s request.output outcome.documents
  return outcome.wrote written

end

end TypeSplit.Run
