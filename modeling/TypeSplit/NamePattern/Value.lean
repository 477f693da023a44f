/-
  TypeSplit.NamePattern.Value — what the fields of a pattern refer to.

  A field begins with a text or a number, and its steps may lead on to other objects: the operations of a value, its
  class, and whatever hangs on those. What is there is not for a pattern to say, so `Objects` is left open. One thing
  is settled: where an attribute leads is the same for all texts and for all numbers. It leads to the value itself, to
  an operation bound to it, back from an operation to what it is bound to, or to an object that has nothing to do with
  the value.
-/

import TypeSplit.NamePattern.Format

namespace TypeSplit.NamePattern

open TypeSplit.Text (quoted quotedAscii)

inductive Value where
  | text (t : Text)
  | number (n : Int)
  /-- An operation, bound to a value. -/
  | operation (receiver : Value) (name : Text)
  /-- Any other object, by where it is. -/
  | object (address : Nat)
  deriving DecidableEq, Repr

/-- What a value is, whichever text or number is in it. -/
inductive Shape where
  | text
  | number
  | operation (receiver : Shape) (name : Text)
  | object (address : Nat)
  deriving DecidableEq, Repr

def Value.shape : Value → Shape
  | .text _ => .text
  | .number _ => .number
  | .operation receiver name => .operation receiver.shape name
  | .object address => .object address

inductive Reach where
  | itself
  | receiver
  | operation (name : Text)
  | constant (v : Value)
  deriving DecidableEq, Repr

/-- The number or the name between square brackets. -/
inductive Key where
  | index (i : Nat)
  | name (t : Text)
  deriving DecidableEq, Repr

inductive Manner where
  | conversion (c : Char)
  | format (f : List CodePoint)
  deriving DecidableEq, Repr

/-- The objects that can be reached from texts and numbers, and the memory that there is. -/
class Objects where
  /-- The attributes of a value, by name. -/
  reach : Shape → Text → Except Error Reach
  /-- The elements of what is neither text nor number. -/
  element : Shape → Key → Except Error Value
  /-- The error of what does not show itself so. -/
  refusal? : Shape → Manner → Option Error
  /-- How the others do. The text of an operation tells what it is bound to. -/
  shown : Value → Manner → Text
  /-- The greatest width that there is memory for. -/
  room : Nat

def Value.receiver : Value → Value
  | .operation v _ => v
  | v => v

def Value.reach (v : Value) : Reach → Value
  | .itself => v
  | .receiver => v.receiver
  | .operation name => .operation v name
  | .constant w => w

variable [Objects]

def Value.attribute (v : Value) (name : Text) : Except Error Value := (Objects.reach v.shape name).map v.reach

def Value.element (v : Value) (key : Key) : Except Error Value :=
  match v, key with
  | .text t, .index i =>
    match t[i]? with
    | some c => .ok (.text [c])
    | none => .error .indexOutOfRange
  | .text _, .name _ => .error .indexNotWhole
  | .number _, _ => .error (.noElements ('\'' :: Kind.number.name ++ "' object".toList))
  | v, key => Objects.element v.shape key

/-- What is neither text nor number, as it is asked to show itself. -/
def Value.display (v : Value) (manner : Manner) : Except Error Text :=
  match Objects.refusal? v.shape manner with
  | some e => .error e
  | none => .ok (Objects.shown v manner)

/-- A value after a conversion; a zero stands for none. -/
def Value.convert (v : Value) (c : Char) : Except Error Value :=
  if c = '\x00' then .ok v
  else if c = 'r' || c = 's' || c = 'a' then
    match v with
    | .text t => .ok (.text (if c = 'r' then quoted t else if c = 'a' then quotedAscii t else t))
    | .number n => (Format.wholeText n).map .text
    | v => (v.display (.conversion c)).map .text
  else .error (.malformed (.unknownConversion c))

def Value.formatted (v : Value) (format : List CodePoint) : Except Error (List CodePoint) :=
  match v with
  | .text t =>
    if format.isEmpty then .ok t.points
    else do (← (Format.read .text format).mapError .malformed).text Objects.room t
  | .number n =>
    if format.isEmpty then (Format.wholeText n).map Text.points
    else do (← (Format.read .number format).mapError .malformed).number Objects.room n
  | v => (v.display (.format format)).map Text.points

end TypeSplit.NamePattern
