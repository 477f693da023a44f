/-
  TypeSplit.Settings.Load — settings from a YAML value, and from the bytes of a file.

  Sections are read in the order output, input, split, parsing, and the fields of each in the order below; the
  first that is refused ends the reading. A field whose value has no use for it keeps its default: numbers and
  truth values are also taken from text, and text also from numbers.
-/

import TypeSplit.Encoding.Basic
import TypeSplit.Settings.Basic
import TypeSplit.Yaml.Value

namespace TypeSplit

open TypeSplit.Number (Binary64)
open TypeSplit.Yaml (Value)

namespace Settings

def fileName : Text := ".classsplit.yml".toList

/-! ## Errors -/

inductive Refusal where
  | malformed (file : Text)
  | rootNotMapping
  | indentNegative
  | patternInvalid (pattern : Text)
  | patternWithoutPart
  | sizeNotPositive
  | modeUnknown (mode : Text)
  | countNotPositive
  | countMissing
  deriving DecidableEq, Repr

def Refusal.message : Refusal → Text
  | .malformed file => "Failed to parse ".toList ++ file
  | .rootNotMapping => fileName ++ " must contain a mapping at the root".toList
  | .indentNegative => "output.indent_size must not be negative".toList
  | .patternInvalid pattern => "output.file_pattern is invalid: ".toList ++ Text.quoted pattern
  | .patternWithoutPart => "output.file_pattern must contain \x7bpart\x7d".toList
  | .sizeNotPositive => "input.max_file_size_mb must be positive".toList
  | .modeUnknown mode =>
    "split.mode must be one of visibility, round_robin (got '".toList ++ mode ++ "')".toList
  | .countNotPositive => "split.count must be a positive integer".toList
  | .countMissing => "split.mode 'round_robin' requires split.count".toList

/-- Why settings cannot be read. Only a refusal is about the settings as such. -/
inductive Error where
  | refused (r : Refusal)
  /-- The pattern has the right form and no name comes of it. -/
  | pattern (e : NamePattern.Error)
  | yaml (e : Yaml.Error)
  | bytes (e : Encoding.DecodeError)
  | tooLargeForBinary
  | tooLongForText
  deriving DecidableEq, Repr

def Error.message : Error → Text
  | .refused r => r.message
  | .pattern e => e.message
  | .yaml e => e.message
  | .bytes e => e.message
  | .tooLargeForBinary => "int too large to convert to float".toList
  | .tooLongForText => NamePattern.Fault.tooLong.message

/-! ## Fields -/

/-- A value as text: text and numbers. -/
def text? : Value → Except Error (Option Text)
  | .text t => return some t
  | .whole n => ((NamePattern.Format.wholeText n).map some).mapError fun _ => .tooLongForText
  | .binary x => return some (Number.plain x)
  | _ => return none

def nonempty? (v : Value) : Except Error (Option Text) := do return (← text? v).filter (!·.isEmpty)

/-- A value as a whole number: whole numbers and their text. -/
def int? : Value → Option Int
  | .whole n => some n
  | .text t => Number.readInt? t
  | _ => none

def binary? : Value → Except Error (Option Binary64)
  | .whole n =>
    let x := Binary64.ofInt n
    if x.isInfinite then throw .tooLargeForBinary else return some x
  | .binary x => return some x
  | .text t => return Number.readBinary? t
  | _ => return none

/-- A value as a truth value: truth values and some words. -/
def bool? : Value → Option Bool
  | .bool b => some b
  | .text t =>
    let word := Text.lower (Text.strip t)
    if ["true".toList, "yes".toList, "1".toList].contains word then some true
    else if ["false".toList, "no".toList, "0".toList].contains word then some false
    else none
  | _ => none

def itemText? : Value → Except Error (Option Text)
  | .bool b => return some (if b then "True".toList else "False".toList)
  | v => text? v

/-- A value as a list of texts; items that have none are left out. -/
def texts : Value → Except Error (List Text)
  | .text t => return [t]
  | .list items => do return (← items.mapM itemText?).filterMap id
  | _ => return []

/-! ## Sections -/

def refuse {α : Type} (r : Refusal) : Except Error α := throw (.refused r)

variable [NamePattern.Objects]

/-- A pattern must give a name for the first part of a type, and hold the part as it is. -/
def checkPattern (pattern : Text) : Except Error Unit := do
  match NamePattern.fill pattern ⟨['T'], 1, ".cs".toList⟩ with
  | .ok _ => pure ()
  | .error e =>
    match e.category with
    | .form | .name | .index => refuse (.patternInvalid pattern)
    | _ => throw (.pattern e)
  unless Text.hasPart "\x7bpart\x7d".toList pattern do refuse .patternWithoutPart

def readOutput (v : Value) (o : Output) : Except Error Output := do
  let directory ← nonempty? (v.get "directory")
  let indentSize := int? (v.get "indent_size")
  if indentSize.any (· < 0) then refuse .indentNegative
  let pattern ← nonempty? (v.get "file_pattern")
  if let some pattern := pattern then checkPattern pattern
  return {
    directory := (directory.map Path.ofText).getD o.directory
    indentSize := indentSize.getD o.indentSize
    useSpaces := (bool? (v.get "use_spaces")).getD o.useSpaces
    filePattern := pattern.getD o.filePattern
    createDirectories := (bool? (v.get "create_directories")).getD o.createDirectories }

def extension (t : Text) : Text :=
  let t := Text.lower (Text.strip t)
  if Text.startsWith t ['.'] then t else '.' :: t

def readInput (v : Value) (i : Input) : Except Error Input := do
  let extensions ← texts (v.get "supported_extensions")
  let size ← binary? (v.get "max_file_size_mb")
  if size.any (·.isNonPositive) then refuse .sizeNotPositive
  return {
    supportedExtensions := if extensions.isEmpty then i.supportedExtensions else extensions.map extension
    maxFileSizeMb := size.getD i.maxFileSizeMb }

def mode (t : Text) : Except Error Mode :=
  let t := Text.replaceChar '-' '_' (Text.lower (Text.strip t))
  if t = Mode.visibility.name then return .visibility
  else if t = Mode.roundRobin.name then return .roundRobin
  else refuse (.modeUnknown t)

def readSplit (v : Value) (s : Split) : Except Error Split := do
  let m ← match ← nonempty? (v.get "mode") with
    | some t => mode t
    | none => pure s.mode
  let count := int? (v.get "count")
  if count.any (· < 1) then refuse .countNotPositive
  let count := count <|> s.count
  if m = .roundRobin && count.isNone then refuse .countMissing
  return ⟨m, count⟩

def readParsing (v : Value) (p : Parsing) : Except Error Parsing := do
  let keywords ← texts (v.get "type_keywords")
  return {
    typeKeywords := if keywords.isEmpty then p.typeKeywords else keywords
    includeProperties := (bool? (v.get "include_properties")).getD p.includeProperties
    includeConstructors := (bool? (v.get "include_constructors")).getD p.includeConstructors }

/-! ## Whole settings -/

/-- The settings that a value holds. A value that says nothing leaves all at their defaults. -/
def ofValue (v : Value) : Except Error Settings := do
  match v with
  | .mapping _ =>
    let output ← readOutput (v.get "output") default.output
    let input ← readInput (v.get "input") default.input
    let split ← readSplit (v.get "split") default.split
    let parsing ← readParsing (v.get "parsing") default.parsing
    return { output, input, split, parsing }
  | _ => if v.isVoid then return default else refuse .rootNotMapping

def ofText (file t : Text) : Except Error Settings :=
  if (Text.strip t).isEmpty then return default
  else
    match Value.ofText t with
    | .ok v => ofValue v
    | .error .malformed => refuse (.malformed file)
    | .error e => throw (.yaml e)

def ofBytes (file : Text) (bytes : List UInt8) : Except Error Settings :=
  match (Encoding.utf8 false).readText bytes with
  | .ok t => ofText file t
  | .error e => throw (.bytes e)

end Settings

end TypeSplit
