/-
  TypeSplit.Splitting.Replacement — replacement templates.

  A template is literal text with escapes. A backslash and a letter stand for a control character, a
  backslash and digits for a character by its octal code or for a group of the match, and `\g<n>` for a
  group by number or name. The match has only group 0, the matched text itself.

  Errors are noticed in reading order with one token of foresight: a backslash at the very end is
  reported as soon as the token in front of it has been read.
-/

import TypeSplit.Number.Text
import TypeSplit.Text.Identifier
import TypeSplit.Text.Quoted

namespace TypeSplit.Splitting

inductive Piece where
  | literal (t : Text)
  | whole
  deriving DecidableEq, Repr

inductive TemplateError.Cause where
  | endsInEscape
  | badEscape (c : Char)
  | noSuchGroup (n : Nat)
  | noBracket
  | noName
  | openName
  | badName (name : Text)
  | octalRange (escape : Text)
  deriving DecidableEq, Repr

inductive TemplateError where
  /-- A fault at an offset of the template. -/
  | fault (cause : TemplateError.Cause) (position : Int) (template : Text)
  | unknownName (name : Text)
  deriving DecidableEq, Repr

namespace TemplateError

def Cause.message : Cause → Text
  | .endsInEscape => "bad escape (end of pattern)".toList
  | .badEscape c => "bad escape \\".toList ++ [c]
  | .noSuchGroup n => "invalid group reference ".toList ++ Text.decimal n
  | .noBracket => "missing <".toList
  | .noName => "missing group name".toList
  | .openName => "missing >, unterminated name".toList
  | .badName name => "bad character in group name ".toList ++ Text.quoted name
  | .octalRange escape => "octal escape value ".toList ++ escape ++ " outside of range 0-0o377".toList

/-- The line and column of an offset, both from one, when the template has several lines. -/
def lineAndColumn (position : Int) (template : Text) : Text :=
  if template.contains '\n' then
    let before := template.take position.toNat
    let column := (before.reverse.takeWhile (· ≠ '\n')).length + 1
    " (line ".toList ++ Text.decimal (before.count '\n' + 1) ++ ", column ".toList ++ Text.decimal column ++ [')']
  else []

def message : TemplateError → Text
  | .fault cause position template =>
    cause.message ++ " at position ".toList ++ Text.decimalInt position ++ lineAndColumn position template
  | .unknownName name => "unknown group name ".toList ++ Text.quoted name

end TemplateError

/-- A template being read: the whole of it, the offset reached and the rest. -/
structure Reader where
  template : Text
  offset : Nat
  rest : Text

namespace Reader

def ofText (t : Text) : Reader := ⟨t, 0, t⟩

/-- A fault `back` characters before the place that is reached. -/
def fault {α : Type} (r : Reader) (cause : TemplateError.Cause) (back : Nat) : Except TemplateError α :=
  .error (.fault cause ((r.offset : Int) - back) r.template)

/-- The place after `n` characters, unless only a backslash is left. -/
def skip (r : Reader) (n : Nat) : Except TemplateError Reader :=
  let r : Reader := ⟨r.template, r.offset + n, r.rest.drop n⟩
  if r.rest = ['\\'] then .error (.fault .endsInEscape ((r.template.length : Int) - 1) r.template) else .ok r

/-- The next token, a character or a backslash with the character behind it, and the place after it. -/
def next? (r : Reader) : Except TemplateError (Option (Text × Reader)) :=
  match r.rest with
  | [] => .ok none
  | '\\' :: c :: _ => (r.skip 2).map fun r => some (['\\', c], r)
  | c :: _ => (r.skip 1).map fun r => some ([c], r)

end Reader

def controlEscape? : Char → Option Char
  | 'a' => some '\x07'
  | 'b' => some '\x08'
  | 'f' => some '\x0c'
  | 'n' => some '\n'
  | 'r' => some '\r'
  | 't' => some '\t'
  | 'v' => some '\x0b'
  | '\\' => some '\\'
  | _ => none

def isOctal (c : Char) : Bool := '0' ≤ c && c ≤ '7'

def octalValue (t : Text) : Nat := Text.ofDigits 8 (t.map fun c => c.toNat - 48)

/-- The name up to the closing bracket, and the place after it. `fuel` bounds the number of tokens. -/
def groupName (r : Reader) (name : Text) : (fuel : Nat) → Except TemplateError (Text × Reader)
  | 0 => r.fault .openName name.length
  | fuel + 1 => do
    match ← r.next? with
    | none => if name.isEmpty then r.fault .noName 0 else r.fault .openName name.length
    | some (['>'], r) => if name.isEmpty then r.fault .noName 1 else .ok (name, r)
    | some (token, r) => groupName r (name ++ token) fuel

/-- The group that a name between brackets refers to; it must be the whole match. -/
def namedGroup (name : Text) (r : Reader) : Except TemplateError Piece :=
  if Text.isIdentifier name then .error (.unknownName name)
  else match Number.readInt? name with
    | some (.ofNat 0) => .ok .whole
    | some (.ofNat n) => r.fault (.noSuchGroup n) (name.length + 1)
    | _ => r.fault (.badName name) (name.length + 1)

def takeIf (p : Char → Bool) (r : Reader) : Except TemplateError (Text × Reader) :=
  match r.rest with
  | c :: _ => if p c then (r.skip 1).map fun r => ([c], r) else .ok ([], r)
  | [] => .ok ([], r)

def digitEscape (first : Char) (r : Reader) : Except TemplateError (Piece × Reader) := do
  if first = '0' then
    let (second, r) ← takeIf isOctal r
    let (third, r) ← if second.isEmpty then .ok ([], r) else takeIf isOctal r
    .ok (.literal [Char.ofNat (octalValue (second ++ third))], r)
  else
    let (second, r) ← takeIf Text.isAsciiDigit r
    let (third, r) ← if isOctal first && !second.isEmpty && second.all isOctal then takeIf isOctal r else .ok ([], r)
    let digits := first :: second ++ third
    if third.isEmpty then
      r.fault (.noSuchGroup (Text.ofDigits 10 (digits.map fun c => c.toNat - 48))) digits.length
    else if 0o377 < octalValue digits then r.fault (.octalRange ('\\' :: digits)) (digits.length + 1)
    else .ok (.literal [Char.ofNat (octalValue digits)], r)

def escape (c : Char) (r : Reader) : Except TemplateError (Piece × Reader) := do
  if c = 'g' then
    match r.rest with
    | '<' :: _ =>
      let r ← r.skip 1
      let (name, r) ← groupName r [] (r.rest.length + 1)
      (namedGroup name r).map (·, r)
    | _ => r.fault .noBracket 0
  else if Text.isAsciiDigit c then digitEscape c r
  else match controlEscape? c with
    | some control => .ok (.literal [control], r)
    | none => if c.isAlpha then r.fault (.badEscape c) 2 else .ok (.literal ['\\', c], r)

/-- The pieces of the rest of a template. `fuel` bounds the number of tokens. -/
def pieces (r : Reader) : (fuel : Nat) → Except TemplateError (List Piece)
  | 0 => .ok []
  | fuel + 1 => do
    match ← r.next? with
    | none => .ok []
    | some (['\\', c], r) =>
      let (piece, r) ← escape c r
      (pieces r fuel).map (piece :: ·)
    | some (token, r) => (pieces r fuel).map (.literal token :: ·)

def template (t : Text) : Except TemplateError (List Piece) := pieces (.ofText t) (t.length + 1)

def expand (found : Text) (pieces : List Piece) : Text :=
  pieces.flatMap fun
    | .literal t => t
    | .whole => found

end TypeSplit.Splitting
