/-
  TypeSplit.NamePattern.Basic — patterns for the names of files.

  A pattern is text with fields between braces; a doubled brace stands for itself. A field names a value and
  may go on to a part of it, convert it (`!r`, `!s`, `!a`) and give a format, in which fields may stand once
  more. The values are the name of the type, the number of the part and the extension.

  A pattern is read from the left and filled in as it is read, so of two errors the first one counts.
-/

import TypeSplit.NamePattern.Value

namespace TypeSplit.NamePattern

open TypeSplit.Text (digitValue?)

/-! ## Reading a pattern -/

structure Field where
  name : Text
  conversion : Option Char
  format : Text
  deriving DecidableEq, Repr

inductive Segment where
  | literal (t : Text)
  | field (f : Field)
  deriving DecidableEq, Repr

/-- The name of a field, the character that ends it and the rest. What stands between square brackets does
not end a name. -/
def readName (bracketed : Bool) : Text → Except Fault (Text × Char × Text)
  | [] => .error .openField
  | c :: rest =>
    if bracketed then (readName (c ≠ ']') rest).map fun (name, stop, r) => (c :: name, stop, r)
    else if c = '{' then .error .openInName
    else if c = '}' || c = ':' || c = '!' then .ok ([], c, rest)
    else (readName (c = '[') rest).map fun (name, stop, r) => (c :: name, stop, r)

/-- A format up to the brace that ends its field, with `depth` more braces open, and the rest. -/
def readFormat (depth : Nat) : Text → Except Fault (Text × Text)
  | [] => .error .openFormat
  | c :: rest =>
    match c, depth with
    | '}', 0 => .ok ([], rest)
    | _, _ =>
      let depth := if c = '{' then depth + 1 else if c = '}' then depth - 1 else depth
      (readFormat depth rest).map fun (format, r) => (c :: format, r)

def readField (t : Text) : Except Fault (Field × Text) := do
  let (name, stop, t) ← readName false t
  match stop, t with
  | '}', _ => return (⟨name, none, []⟩, t)
  | '!', [] => throw .noConversion
  | '!', [_] => throw .openFormat
  | '!', c :: '}' :: rest => return (⟨name, some c, []⟩, rest)
  | '!', c :: ':' :: rest =>
    let (format, rest) ← readFormat 0 rest
    return (⟨name, some c, format⟩, rest)
  | '!', _ => throw .noColon
  | _, _ =>
    let (format, rest) ← readFormat 0 t
    return (⟨name, none, format⟩, rest)

/-- The segments of a pattern, up to its first fault. `fuel` bounds their number. -/
def segments (t : Text) : (fuel : Nat) → List Segment × Option Fault
  | 0 => ([], none)
  | fuel + 1 =>
    let isBrace (c : Char) : Bool := c == '{' || c == '}'
    let literal := t.takeWhile (!isBrace ·)
    let next (s : List Segment) (rest : Text) : List Segment × Option Fault :=
      let (more, fault) := segments rest fuel
      (s ++ more, fault)
    match t.dropWhile (!isBrace ·) with
    | [] => (if literal.isEmpty then [] else [.literal literal], none)
    | '{' :: '{' :: rest => next [.literal (literal ++ ['{'])] rest
    | '}' :: '}' :: rest => next [.literal (literal ++ ['}'])] rest
    | '}' :: _ => ([], some .singleClose)
    | ['{'] => ([], some .singleOpen)
    | _ :: rest =>
      match readField rest with
      | .ok (f, rest) => next [.literal literal, .field f] rest
      | .error fault => ([], some fault)

/-! ## Filling in -/

structure Values where
  type : Text
  part : Int
  ext : Text
  deriving DecidableEq, Repr

def Values.get? (v : Values) (name : Text) : Option Value :=
  if name = "type".toList then some (.text v.type)
  else if name = "part".toList then some (.number v.part)
  else if name = "ext".toList then some (.text v.ext)
  else none

/-- The number that a text of digits alone writes. -/
def wholeNumber? (t : Text) : Except Fault (Option Nat) := do
  match ← Format.readNumber digitValue? t with
  | (some n, []) => return some n
  | _ => return none

def beginsStep (c : Char) : Bool := c == '.' || c == '['

inductive Step where
  | attribute (name : Text)
  | element (key : Key)
  deriving DecidableEq, Repr

/-- The further steps of a field name, up to its first fault. `fuel` bounds their number. -/
def readSteps (t : Text) : (fuel : Nat) → List Step × Option Fault
  | 0 => ([], none)
  | fuel + 1 =>
    let next (s : Step) (rest : Text) : List Step × Option Fault :=
      let (more, fault) := readSteps rest fuel
      (s :: more, fault)
    match t with
    | [] => ([], none)
    | '.' :: rest =>
      let name := rest.takeWhile (!beginsStep ·)
      if name.isEmpty then ([], some .emptyAttribute)
      else next (.attribute name) (rest.dropWhile (!beginsStep ·))
    | '[' :: rest =>
      match Text.cut? ']' rest with
      | none => ([], some .openBracket)
      | some (key, rest) =>
        match wholeNumber? key with
        | .error fault => ([], some fault)
        | .ok (some i) => next (.element (.index i)) rest
        | .ok none => if key.isEmpty then ([], some .emptyAttribute) else next (.element (.name key)) rest
    | _ => ([], some .afterBracket)

def splitName (name : Text) : Text × List Step × Option Fault :=
  let steps := name.dropWhile (!beginsStep ·)
  (name.takeWhile (!beginsStep ·), readSteps steps (steps.length + 1))

variable [Objects]

def Value.step (v : Value) : Step → Except Error Value
  | .attribute name => v.attribute name
  | .element key => v.element key

def lookup (values : Values) (name : Text) : Except Error Value := do
  let (first, steps, fault) := splitName name
  match ← (wholeNumber? first).mapError .malformed with
  | some i => throw (.noPosition i)
  | none =>
    if first.isEmpty then throw (.noPosition 0)
    match values.get? first with
    | none => throw (.unknownField first)
    | some v =>
      let v ← steps.foldlM Value.step v
      match fault with
      | some x => throw (.malformed x)
      | none => return v

/-- A pattern filled in, where a format may hold fields `depth - 1` levels deep. -/
def fillDeep (values : Values) : (depth : Nat) → Text → Except Error (List CodePoint)
  | 0, _ => .error (.malformed .nestedTooDeep)
  | depth + 1, pattern => do
    let (found, fault) := segments pattern (pattern.length + 1)
    let texts ← found.mapM fun
      | .literal t => .ok t.points
      | .field f => do
        let v ← lookup values f.name
        let v ← match f.conversion with
          | some c => v.convert c
          | none => .ok v
        let format ← if f.format.contains '{' then fillDeep values depth f.format else .ok f.format.points
        v.formatted format
    match fault with
    | some x => throw (.malformed x)
    | none => return texts.flatten

def fill (pattern : Text) (values : Values) : Except Error (List CodePoint) := fillDeep values 2 pattern

end TypeSplit.NamePattern
