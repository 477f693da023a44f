/-
  TypeSplit.Yaml.Scalar — the texts of scalars: plain, between quotes, and in blocks.

  A line break inside a plain or quoted scalar is folded: a single one becomes a space, of several the first
  is dropped. Blanks around a folded break are dropped too.
-/

import TypeSplit.Yaml.Error
import TypeSplit.Yaml.Mark

namespace TypeSplit.Yaml

/-- The text that a folded break and the empty lines after it stand for. -/
def folded (first : Char) (breaks : Text) : Text :=
  (if first ≠ '\n' then [first] else if breaks.isEmpty then [' '] else []) ++ breaks

/-! ## Quoted scalars -/

/-- The breaks of the empty lines from here on, and the place after their blanks. `fuel` bounds their
number. -/
def quotedBreaks (m : Mark) : (fuel : Nat) → Except Error (Text × Mark)
  | 0 => .error .malformed
  | fuel + 1 =>
    if m.separatesDocuments then .error .malformed
    else
      let (_, m) := m.takeWhile fun c => c == ' ' || c == '\t'
      match m.lineBreak? with
      | none => .ok ([], m)
      | some (c, m) => (quotedBreaks m fuel).map fun (breaks, m) => (c :: breaks, m)

def quotedSpaces (m : Mark) : Except Error (Text × Mark) :=
  let (blanks, m) := m.takeWhile fun c => c == ' ' || c == '\t'
  match m.rest with
  | [] => .error .malformed
  | _ =>
    match m.lineBreak? with
    | none => .ok (blanks, m)
    | some (c, m) => (quotedBreaks m (m.rest.length + 1)).map fun (breaks, m) => (folded c breaks, m)

def namedEscape? : Char → Option Char
  | '0' => some '\x00'
  | 'a' => some '\x07'
  | 'b' => some '\x08'
  | 't' => some '\t'
  | '\t' => some '\t'
  | 'n' => some '\n'
  | 'v' => some '\x0b'
  | 'f' => some '\x0c'
  | 'r' => some '\r'
  | 'e' => some '\x1b'
  | ' ' => some ' '
  | '"' => some '"'
  | '\\' => some '\\'
  | '/' => some '/'
  | 'N' => some '\u0085'
  | '_' => some '\u00a0'
  | 'L' => some '\u2028'
  | 'P' => some '\u2029'
  | _ => none

def codeLength? : Char → Option Nat
  | 'x' => some 2
  | 'u' => some 4
  | 'U' => some 8
  | _ => none

def hexValue? (c : Char) : Option Nat :=
  if '0' ≤ c && c ≤ '9' then some (c.toNat - 48)
  else if 'a' ≤ c && c ≤ 'f' then some (c.toNat - 87)
  else if 'A' ≤ c && c ≤ 'F' then some (c.toNat - 55)
  else none

def characterOf (code : Nat) : Except Error Char :=
  if 0x7FFFFFFF < code then .error .noCodePoint
  else if 0x10FFFF < code then .error .noCharacter
  else .ok (Char.ofNat code)

def escaped (m : Mark) : Except Error (Text × Mark) :=
  match m.rest with
  | [] => .error .malformed
  | c :: rest =>
    match namedEscape? c, codeLength? c with
    | some named, _ => .ok ([named], m.step)
    | none, some length =>
      let digits := (rest.take length).filterMap hexValue?
      if digits.length < length then .error .malformed
      else (characterOf (Text.ofDigits 16 digits)).map fun c => ([c], m.forward (length + 1))
    | none, none =>
      match m.lineBreak? with
      | some (_, m) => quotedBreaks m (m.rest.length + 1)
      | none => .error .malformed

/-- The text of the rest of a scalar between quotes, and the place after the closing one. `fuel` bounds the
number of pieces. -/
def quotedRest (quote : Char) (m : Mark) : (fuel : Nat) → Except Error (Text × Mark)
  | 0 => .error .malformed
  | fuel + 1 =>
    let more (t : Text) (m : Mark) : Except Error (Text × Mark) :=
      (quotedRest quote m fuel).map fun (rest, m) => (t ++ rest, m)
    match m.rest with
    | [] => .error .malformed
    | c :: rest =>
      if c = quote then
        if quote = '\'' && rest.head? = some '\'' then more ['\''] (m.forward 2) else .ok ([], m.step)
      else if c = '\\' && quote = '"' then do
        let (t, m) ← escaped m.step
        more t m
      else if c = ' ' || c = '\t' || isBreak c then do
        let (t, m) ← quotedSpaces m
        more t m
      else more [c] m.step

def quotedScalar (quote : Char) (m : Mark) : Except Error (Text × Mark) :=
  quotedRest quote m.step (m.rest.length + 1)

/-! ## Plain scalars -/

/-- The breaks of the empty lines from here on and the place after their spaces; nothing if a document ends
in between. `fuel` bounds the number of characters. -/
def plainBreaks (m : Mark) : (fuel : Nat) → Option Text × Mark
  | 0 => (some [], m)
  | fuel + 1 =>
    if m.peek = some ' ' then plainBreaks m.step fuel
    else match m.lineBreak? with
      | none => (some [], m)
      | some (c, m) =>
        if m.separatesDocuments then (none, m)
        else
          let (breaks, m) := plainBreaks m fuel
          (breaks.map (c :: ·), m)

/-- The text of the spaces and breaks from here on in a plain scalar, the place after them, and whether a line
ended. The text is empty where the scalar cannot go on. -/
def plainSpaces (m : Mark) : Text × Mark × Bool :=
  let (spaces, m) := m.takeWhile (· == ' ')
  match m.lineBreak? with
  | none => (spaces, m, false)
  | some (c, m) =>
    if m.separatesDocuments then ([], m, true)
    else
      let (breaks, m) := plainBreaks m (m.rest.length + 1)
      (match breaks with
        | some breaks => folded c breaks
        | none => [], m, true)

def plainRun (inFlow : Bool) : Text → Text
  | [] => []
  | c :: rest =>
    if c == ' ' || c == '\t' || isBreak c then []
    else if c == ':' && (endsIndicator rest.head? || (inFlow && rest.head?.any (",[]\x7b\x7d".toList.contains ·))) then []
    else if inFlow && ",?[]\x7b\x7d".toList.contains c then []
    else c :: plainRun inFlow rest

/-- The text of the rest of a plain scalar after `spaces`, the place after it, and whether a new line was begun
since its last word. `fuel` bounds the number of words. -/
def plainRest (inFlow : Bool) (indent : Int) (spaces : Text) (m : Mark) (newLine : Bool) :
    (fuel : Nat) → Text × Mark × Bool
  | 0 => ([], m, newLine)
  | fuel + 1 =>
    if m.peek = some '#' then ([], m, newLine)
    else
      let run := plainRun inFlow m.rest
      if run.isEmpty then ([], m, newLine)
      else
        let (next, m, newLine) := plainSpaces (m.forward run.length)
        if next.isEmpty || m.peek = some '#' || (!inFlow && (m.column : Int) < indent) then
          (spaces ++ run, m, newLine)
        else
          let (rest, m, newLine) := plainRest inFlow indent next m newLine fuel
          (spaces ++ run ++ rest, m, newLine)

/-- The text of a plain scalar, the place after it and the blanks behind it, and whether a new line was begun
there. Lines after the first must be indented by at least `indent`. -/
def plainScalar (inFlow : Bool) (indent : Int) (m : Mark) : Text × Mark × Bool :=
  plainRest inFlow indent [] m false (m.rest.length + 1)

/-! ## Block scalars -/

inductive Chomping where
  | strip
  | clip
  | keep
  deriving DecidableEq, Repr

def chomping? : Option Char → Option Chomping
  | some '+' => some .keep
  | some '-' => some .strip
  | _ => none

def increment? (c : Option Char) : Except Error (Option Nat) :=
  match c with
  | some c =>
    if Text.isAsciiDigit c then if c = '0' then .error .malformed else .ok (some (c.toNat - 48))
    else .ok none
  | none => .ok none

/-- The signs after the indicator of a block scalar, in either order, and the place after them. -/
def blockSigns (m : Mark) : Except Error (Chomping × Option Nat × Mark) := do
  let (chomping, increment, m) ← match chomping? m.peek with
    | some chomping => do
      let m := m.step
      match ← increment? m.peek with
      | some n => pure (chomping, some n, m.step)
      | none => pure (chomping, none, m)
    | none => do
      match ← increment? m.peek with
      | some n =>
        let m := m.step
        match chomping? m.peek with
        | some chomping => pure (chomping, some n, m.step)
        | none => pure (.clip, some n, m)
      | none => pure (.clip, none, m)
  if endsWord m.peek then return (chomping, increment, m) else throw .malformed

def commentLine (m : Mark) : Except Error Mark :=
  let m := m.skipSpaces
  let m := if m.peek = some '#' then m.skipLine else m
  if endsLine m.peek then .ok ((m.lineBreak?.map (·.2)).getD m) else .error .malformed

/-- The breaks of the empty lines from here on, the greatest indentation seen, and the place after them. `fuel`
bounds the number of characters. -/
def blockIndentation (m : Mark) (greatest : Nat) : (fuel : Nat) → Text × Nat × Mark
  | 0 => ([], greatest, m)
  | fuel + 1 =>
    if m.peek = some ' ' then blockIndentation m.step (max greatest m.step.column) fuel
    else match m.lineBreak? with
      | none => ([], greatest, m)
      | some (c, m) =>
        let (breaks, greatest, m) := blockIndentation m greatest fuel
        (c :: breaks, greatest, m)

def toIndent (indent : Nat) (m : Mark) : Mark :=
  m.forward (min ((m.rest.takeWhile (· == ' ')).length) (indent - m.column))

def blockBreaks (indent : Nat) (m : Mark) : (fuel : Nat) → Text × Mark
  | 0 => ([], m)
  | fuel + 1 =>
    let m := toIndent indent m
    match m.lineBreak? with
    | none => ([], m)
    | some (c, m) =>
      let (breaks, m) := blockBreaks indent m fuel
      (c :: breaks, m)

/-- The lines of a block after `breaks`, with the break of the last line and the breaks behind it apart. `fuel`
bounds the number of lines. -/
def blockLines (folds : Bool) (indent : Nat) (breaks : Text) (m : Mark) :
    (fuel : Nat) → Text × Text × Text × Mark
  | 0 => ([], [], breaks, m)
  | fuel + 1 =>
    let isBlankChar (c : Option Char) : Bool := c == some ' ' || c == some '\t'
    if m.column ≠ indent || m.rest.isEmpty then ([], [], breaks, m)
    else
      let startsWithText := !isBlankChar m.peek
      let (line, m) := m.takeWhile (!isBreak ·)
      let (lineBreak, m) := match m.lineBreak? with
        | some (c, m) => ([c], m)
        | none => (([] : Text), m)
      let (next, m) := blockBreaks indent m (m.rest.length + 1)
      if m.column = indent && !m.rest.isEmpty then
        let between : Text :=
          if folds && lineBreak == ['\n'] && startsWithText && !isBlankChar m.peek then
            if next.isEmpty then [' '] else []
          else lineBreak
        let (rest, last, breaks', m) := blockLines folds indent next m fuel
        (breaks ++ line ++ between ++ rest, last, breaks', m)
      else (breaks ++ line, lineBreak, next, m)

def blockScalar (folds : Bool) (parent : Int) (m : Mark) : Except Error (Text × Mark) := do
  let (chomping, increment, m) ← blockSigns m.step
  let m ← commentLine m
  let least := (max (parent + 1) 1).toNat
  let (breaks, indent, m) := match increment with
    | none =>
      let (breaks, greatest, m) := blockIndentation m 0 (m.rest.length + 1)
      (breaks, max least greatest, m)
    | some n =>
      let indent := least + n - 1
      let (breaks, m) := blockBreaks indent m (m.rest.length + 1)
      (breaks, indent, m)
  let (text, last, breaks, m) := blockLines folds indent breaks m (m.rest.length + 1)
  return (match chomping with
    | .strip => text
    | .clip => text ++ last
    | .keep => text ++ last ++ breaks, m)

end TypeSplit.Yaml
