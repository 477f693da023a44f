/-
  TypeSplit.CommandLine.Basic — the two commands, on any system.

  `split` splits a source and reports on it, `inspect` lists what a source holds. Settings are read from the
  file or directory that is named, or from the working directory. A refused setting and an error that a run can
  run into end the call with a message; `split` also ends so on any other error.
-/

import TypeSplit.CommandLine.Arguments
import TypeSplit.Report.Listing
import TypeSplit.Run.Basic
import TypeSplit.Settings.Load

namespace TypeSplit.CommandLine

open TypeSplit.Files (Volume)
open TypeSplit.Run (Record Level Host Splitter)

structure System (m : Type → Type) where
  volume : Volume m
  workingDirectory : Path
  out : Text → m Unit
  err : Text → m Unit
  /-- The date and time, as text. -/
  now : m Text

/-- An error that a call does not speak of itself. -/
inductive Failure where
  | settings (e : Settings.Error)
  | keywords (e : Extraction.Scanner.Error)
  | file (e : Files.Error)
  | run (e : Run.Error)

def Failure.message : Failure → Text
  | .settings e => e.message
  | .keywords e => e.message.toList
  | .file e => e.message
  | .run e => e.message

inductive Ending where
  | stopped (s : Stop)
  | message (t : Text)
  | failed (e : Failure)

section

variable {m : Type → Type} [Monad m] [NamePattern.Objects]

abbrev CallT (m : Type → Type) := ExceptT Ending m

def onFiles {α : Type} (action : m (Except Files.Error α)) : CallT m α :=
  ExceptT.mk do return (← action).mapError fun e => .failed (.file e)

def nonempty? (t : Option Text) : Option Text := t.filter (!·.isEmpty)

/-! ## Log -/

def consoleLevel (o : Options) : Level :=
  if o.quiet then .warning else if o.verbose then .debug else .info

def logFile? (sys : System m) (o : Options) : Option Path :=
  (nonempty? o.logFile).map fun t => Path.resolve sys.workingDirectory (.ofText t)

def openLog (sys : System m) (o : Options) : CallT m Unit :=
  match logFile? sys o with
  | some file => onFiles (sys.volume.append file [])
  | none => return

def log (sys : System m) (o : Options) (r : Record) : m Unit := do
  if r.reaches (consoleLevel o) then sys.err ("[classsplit] ".toList ++ r.text ++ ['\n'])
  if let some file := logFile? sys o then
    let line := (← sys.now) ++ ' ' :: r.level.name ++ ' ' :: r.origin.name ++ ':' :: ' ' :: r.message ++ ['\n']
    discard (sys.volume.append file (Utf8.encode line))

def host (sys : System m) (o : Options) : Host m := ⟨sys.volume.files .standard, log sys o⟩

/-! ## Settings -/

def settingsFile (sys : System m) (o : Options) : CallT m Path := do
  let given := ((nonempty? o.config).map Path.ofText).getD sys.workingDirectory
  let status ← onFiles (sys.volume.status given)
  let file := if status.isDirectory then given.join (.ofText Settings.fileName) else given
  return Path.resolve sys.workingDirectory file

/-- An error of the settings: a refusal is told, anything else is a failure. -/
def settingsEnding : Settings.Error → Ending
  | .refused r => .message ("Error: ".toList ++ r.message ++ ['\n'])
  | e => .failed (.settings e)

/-- The settings of a call; without a file they are the default ones. -/
def settings (sys : System m) (o : Options) : CallT m Settings := do
  let file ← settingsFile sys o
  if (← onFiles (sys.volume.status file)) = .nothing then return .default
  else
    let bytes ← onFiles (sys.volume.read file)
    ExceptT.mk (return (Settings.ofBytes file.name bytes).mapError settingsEnding)

/-! ## Commands -/

/-- The path of a source, without blanks and quotation marks around it. -/
def sourcePath (t : Text) : Path := .ofText (Text.stripWhile (· == '"') (Text.strip t))

/-- A path as it is shown: from the working directory if it lies in there. -/
def shown (cwd p : Path) : Text :=
  let full := Path.resolve cwd p
  if full.root = cwd.root && cwd.names.isPrefixOf full.names then
    (⟨0, full.names.drop cwd.names.length⟩ : Path).text
  else p.text

def splitEnding (e : Run.Error) : Ending :=
  if e.isExpected then .message ("Error: ".toList ++ e.message ++ ['\n'])
  else .message ("classsplit split failed: ".toList ++ e.message ++
    "\nRun with --verbose for more details.\n".toList)

def inspectEnding (e : Run.Error) : Ending :=
  if e.isExpected then .message ("Error: ".toList ++ e.message ++ ['\n']) else .failed (.run e)

/-- Writes the summary as JSON, in a directory that is made if it is missing. -/
def writeJson (sys : System m) (s : Report.Summary) (p : Path) : CallT m Unit := do
  onFiles (sys.volume.createDirectory p.parent)
  onFiles (sys.volume.write p (Utf8.encode (s.toJson.toText ++ ['\n'])))

def split (sys : System m) (s : Settings) (splitter : Splitter) (source : Text) (o : Options) : CallT m Unit := do
  let output := ((nonempty? o.output).map Path.ofText).getD s.output.directory
  let request ← ExceptT.mk (return (Run.Request.make (sourcePath source) output o.splits
    ((nonempty? o.typeName).map Text.strip) o.dryRun).mapError fun e => splitEnding (.count e))
  let outcome ← ExceptT.mk do
    return (← (Run.run (host sys o) splitter s request).run).mapError splitEnding
  ExceptT.lift (sys.out (outcome.summary.toText sys.workingDirectory))
  if let some file := nonempty? o.summaryJson then writeJson sys outcome.summary (.ofText file)
  if o.dryRun then
    outcome.summary.written.forM fun t =>
      ExceptT.lift (sys.out (Report.line ("would write ".toList ++ shown sys.workingDirectory (.ofText t))))

def inspect (sys : System m) (s : Settings) (splitter : Splitter) (source : Text) (o : Options) : CallT m Unit := do
  let source := sourcePath source
  let e ← ExceptT.mk do
    return (← (Run.parse (host sys o) splitter s source).run).mapError inspectEnding
  ExceptT.lift (sys.out (Report.listing (some source) e))

def Call.run (sys : System m) (call : Call) : CallT m Unit := do
  openLog sys call.options
  let s ← settings sys call.options
  let splitter ← ExceptT.mk (return (Splitter.ofSettings s none).mapError fun e => .failed (.keywords e))
  match call.command with
  | .split => split sys s splitter call.source call.options
  | .inspect => inspect sys s splitter call.source call.options

def run (sys : System m) (arguments : List Text) : CallT m Unit := do
  let call ← ExceptT.mk (return (Call.ofArguments arguments).mapError .stopped)
  call.run sys

def Ending.status : Ending → Nat
  | .stopped (.help _) => 0
  | .stopped (.misuse ..) => 2
  | .message _ => 1
  | .failed _ => 1

end

end TypeSplit.CommandLine
