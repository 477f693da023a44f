/-
  TypeSplit.CommandLine.Options — what can be said on a command line.

  The program has options of its own in front of a command, and each command has options and an operand. An
  option has a short name, a long one, or both, and takes a value or none.
-/

import TypeSplit.Number.Text
import TypeSplit.Text.Quoted

namespace TypeSplit.CommandLine

inductive Key where
  | help
  | verbose
  | quiet
  | logFile
  | config
  | output
  | splits
  | typeName
  | dryRun
  | summaryJson
  deriving DecidableEq, Repr

structure Switch where
  key : Key
  names : List Text
  /-- What its value is called, if it takes one. -/
  value : Option Text
  deriving DecidableEq, Repr

def Switch.takesValue (s : Switch) : Bool := s.value.isSome

def Switch.title (s : Switch) : Text := Text.join ['/'] s.names

/-- A program or a command: its options and its operand. -/
structure Grammar where
  program : Text
  switches : List Switch
  operand : Text
  /-- Whether everything behind the operand belongs to it. -/
  takesRest : Bool
  deriving DecidableEq, Repr

namespace Grammar

def names (g : Grammar) : List (Text × Switch) := g.switches.flatMap fun s => s.names.map (·, s)

def switchNamed? (g : Grammar) (name : Text) : Option Switch := g.names.lookup name

def help : Switch := ⟨.help, ["-h".toList, "--help".toList], none⟩
def verbose : Switch := ⟨.verbose, ["-v".toList, "--verbose".toList], none⟩
def quiet : Switch := ⟨.quiet, ["-q".toList, "--quiet".toList], none⟩
def config : Switch := ⟨.config, ["--config".toList], some "CONFIG".toList⟩

def outer : Grammar where
  program := "classsplit".toList
  switches := [help, verbose, quiet, ⟨.logFile, ["--log-file".toList], some "LOG_FILE".toList⟩]
  operand := "command".toList
  takesRest := true

def split : Grammar where
  program := "classsplit split".toList
  switches := [help, verbose, quiet, config,
    ⟨.output, ["-o".toList, "--output".toList], some "OUTPUT".toList⟩,
    ⟨.splits, ["-n".toList, "--splits".toList], some "SPLITS".toList⟩,
    ⟨.typeName, ["-t".toList, "--type".toList], some "TYPE_NAME".toList⟩,
    ⟨.dryRun, ["--dry-run".toList], none⟩,
    ⟨.summaryJson, ["--summary-json".toList], some "SUMMARY_JSON".toList⟩]
  operand := "source".toList
  takesRest := false

def inspect : Grammar where
  program := "classsplit inspect".toList
  switches := [help, verbose, quiet, config]
  operand := "source".toList
  takesRest := false

def usage (g : Grammar) : Text :=
  let option (s : Switch) : Text :=
    " [".toList ++ s.names.head?.getD [] ++ (s.value.map (' ' :: ·)).getD [] ++ [']']
  let operand := if g.takesRest then "\x7bsplit,inspect\x7d ...".toList else g.operand
  "usage: ".toList ++ g.program ++ g.switches.flatMap option ++ ' ' :: operand ++ ['\n']

end Grammar

/-! ## Values -/

structure Options where
  verbose : Bool := false
  quiet : Bool := false
  logFile : Option Text := none
  config : Option Text := none
  output : Option Text := none
  splits : Option Int := none
  typeName : Option Text := none
  dryRun : Bool := false
  summaryJson : Option Text := none
  deriving DecidableEq, Repr

inductive Fault where
  | required (operand : Text)
  | unrecognised (arguments : List Text)
  | ambiguous (argument : Text) (names : List Text)
  | valueMissing (s : Switch)
  | valueIgnored (s : Switch) (value : Text)
  | splitsNotPositive (s : Switch)
  | unknownCommand (name : Text)
  deriving DecidableEq, Repr

def Fault.message : Fault → Text
  | .required operand => "the following arguments are required: ".toList ++ operand
  | .unrecognised arguments => "unrecognized arguments: ".toList ++ Text.join [' '] arguments
  | .ambiguous argument names =>
    "ambiguous option: ".toList ++ argument ++ " could match ".toList ++ Text.join [',', ' '] names
  | .valueMissing s => "argument ".toList ++ s.title ++ ": expected one argument".toList
  | .valueIgnored s value =>
    "argument ".toList ++ s.title ++ ": ignored explicit argument ".toList ++ Text.quoted value
  | .splitsNotPositive s =>
    "argument ".toList ++ s.title ++ ": Number of splits must be a positive integer.".toList
  | .unknownCommand name =>
    "argument command: invalid choice: ".toList ++ Text.quoted name ++ " (choose from 'split', 'inspect')".toList

inductive Stop where
  | help (g : Grammar)
  | misuse (g : Grammar) (fault : Fault)
  deriving DecidableEq, Repr

def misuseLine (g : Grammar) (fault : Fault) : Text := g.program ++ ": error: ".toList ++ fault.message ++ ['\n']

def positive? (t : Text) : Option Int := (Number.readInt? t).filter (1 ≤ ·)

def Options.set (g : Grammar) (o : Options) (s : Switch) (value : Text) : Except Stop Options :=
  match s.key with
  | .help => .error (.help g)
  | .verbose => .ok { o with verbose := true }
  | .quiet => .ok { o with quiet := true }
  | .logFile => .ok { o with logFile := some value }
  | .config => .ok { o with config := some value }
  | .output => .ok { o with output := some value }
  | .splits =>
    match positive? value with
    | some n => .ok { o with splits := some n }
    | none => .error (.misuse g (.splitsNotPositive s))
  | .typeName => .ok { o with typeName := some value }
  | .dryRun => .ok { o with dryRun := true }
  | .summaryJson => .ok { o with summaryJson := some value }

end TypeSplit.CommandLine
