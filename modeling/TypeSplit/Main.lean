/-
  TypeSplit.Main — the program on the disk and the console.
-/

import Std.Time
import TypeSplit.CommandLine.Basic
import TypeSplit.NamePattern.Standard

namespace TypeSplit.Console

open TypeSplit.CommandLine (Ending System)
open TypeSplit.Files (Cause Status Volume)

/-- The cause that the disk gives a number for; some numbers come with their sign turned. -/
def causeOf (code : UInt32) (text : String) : Cause :=
  match code.toInt32.toInt.natAbs with
  | 2 => .missing
  | 13 => .denied
  | 17 => .present
  | 20 => .notDirectory
  | 21 => .directory
  | 36 => .nameTooLong
  | code => .other code text.toList

def cause : IO.Error → Cause
  | .alreadyExists _ code text => causeOf code text
  | .otherError code text => causeOf code text
  | .resourceBusy code text => causeOf code text
  | .resourceVanished code text => causeOf code text
  | .unsupportedOperation code text => causeOf code text
  | .hardwareFault code text => causeOf code text
  | .unsatisfiedConstraints code text => causeOf code text
  | .illegalOperation code text => causeOf code text
  | .protocolError code text => causeOf code text
  | .timeExpired code text => causeOf code text
  | .interrupted _ code text => causeOf code text
  | .noFileOrDirectory _ code text => causeOf code text
  | .invalidArgument _ code text => causeOf code text
  | .permissionDenied _ code text => causeOf code text
  | .resourceExhausted _ code text => causeOf code text
  | .inappropriateType _ code text => causeOf code text
  | .noSuchThing _ code text => causeOf code text
  | .unexpectedEof => .other 5 "Unexpected end of file".toList
  | .userError text => .other 5 text.toList

def attempt {α : Type} (p : Path) (action : String → IO α) : IO (Except Files.Error α) := do
  if p.text.contains '\x00' then return .error .zeroInPath
  try return .ok (← action p.string) catch e => return .error (.system (cause e) p)

def bytes (content : List UInt8) : ByteArray := ⟨content.toArray⟩

def status (p : Path) : IO (Except Files.Error Status) := do
  let found ← attempt p fun name => do
    let data ← ((← IO.currentDir) / name).metadata
    return if data.type == .dir then Status.directory
      else if data.type == .file then Status.file data.byteSize.toNat
      else Status.nothing
  return match found with
    | .error (.system .missing _) => .ok .nothing
    | .error (.system .notDirectory _) => .ok .nothing
    | .error .zeroInPath => .ok .nothing
    | found => found

def volume : Volume IO where
  status := status
  read p := attempt p fun name => do return (← IO.FS.readBinFile name).toList
  write p content := attempt p fun name => IO.FS.writeBinFile name (bytes content)
  append p content := attempt p fun name => do (← IO.FS.Handle.mk name .append).write (bytes content)
  makeDirectory p := attempt p fun name => IO.FS.createDir name

def now : IO Text := do
  return ((← Std.Time.PlainDateTime.now).format "uuuu-MM-dd HH:mm:ss,SSS").toList

def system : IO (System IO) := do
  let stdout ← IO.getStdout
  let stderr ← IO.getStderr
  return {
    volume := volume
    workingDirectory := .ofText (← IO.currentDir).toString.toList
    out := fun t => stdout.putStr (String.ofList t)
    err := fun t => stderr.putStr (String.ofList t)
    now := now }

def close (sys : System IO) : Ending → IO Unit
  | .stopped (.help g) => sys.out g.usage
  | .stopped (.misuse g fault) => sys.err (g.usage ++ CommandLine.misuseLine g fault)
  | .message t => sys.err t
  | .failed e => sys.err (e.message ++ ['\n'])

end TypeSplit.Console

def main (arguments : List String) : IO UInt32 := do
  let sys ← TypeSplit.Console.system
  match ← (TypeSplit.CommandLine.run sys (arguments.map (·.toList))).run with
  | .ok _ => return 0
  | .error e =>
    TypeSplit.Console.close sys e
    return e.status.toUInt32
