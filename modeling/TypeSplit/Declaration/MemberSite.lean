/-
  TypeSplit.Declaration.MemberSite — where methods and properties are declared.

  Both begin with a run of modifiers, a return type, blanks and a name. A method goes on with type
  parameters, a parameter list and an opening brace; a property with an opening brace and `get` or
  `set`. Either may be preceded by as few modifiers of its run as make the rest fit.
-/

import TypeSplit.Declaration.Modifier

namespace TypeSplit.Declaration

open TypeSplit.Text (isBlank isWord)

inductive MemberKind where
  | method
  | property
  deriving DecidableEq, Repr

def MemberKind.name : MemberKind → String
  | .method => "method"
  | .property => "property"

structure MemberSite where
  offset : Int
  name : Text
  kind : MemberKind
  deriving DecidableEq, Repr

/-- The rest after an optional list between angle brackets, which ends at the first `>`. -/
def typeArguments? : Text → Option Text
  | '<' :: t => (Text.cut? '>' t).map (·.2)
  | t => some t

/-- The rest after a return type: a word, a word with type arguments, `word[]` or `word?`. -/
def returnType? (t : Text) : Option Text := do
  let (_, t) ← word? t
  match t with
  | '[' :: ']' :: t => some t
  | '?' :: t => some t
  | t => typeArguments? t

def typeAndName? (t : Text) : Option (Text × Text) := do
  let t ← returnType? t
  let t ← blanks? t
  word? t

/-- Braces and the semicolon cannot stand in a parameter list. -/
def endsParameters (c : Char) : Bool := c == '{' || c == '}' || c == ';'

def parametersAndBrace? (t : Text) : Option Text :=
  match t.dropWhile isBlank with
  | '(' :: t =>
    match t.dropWhile (!endsParameters ·) with
    | '{' :: rest =>
      if ((t.takeWhile (!endsParameters ·)).reverse.dropWhile isBlank).head? = some ')' then some rest else none
    | _ => none
  | _ => none

/-- The rest after `get` or `set` as the end of a word. -/
def accessor? (t : Text) : Option Text := do
  let t ← ("get".toList.isPrefixOf? t).or ("set".toList.isPrefixOf? t)
  if t.head?.any isWord then none else some t

def methodTail? (t : Text) : Option (Text × Text) := do
  let (name, t) ← typeAndName? t
  let t ← typeArguments? t
  let t ← parametersAndBrace? t
  some (name, t)

def propertyTail? (t : Text) : Option (Text × Text) := do
  let (name, t) ← typeAndName? t
  match t.dropWhile isBlank with
  | '{' :: t => do
    let t ← accessor? (t.dropWhile isBlank)
    some (name, t)
  | _ => none

/-- Recognises a run of member modifiers and then a tail; the name is kept. -/
def memberWith (tail? : Text → Option (Text × Text)) : Source.Recogniser Text := fun c =>
  if startsHere c then
    (modifierRun memberModifiers c.ahead).findSome? fun t =>
      (tail? t).map fun (name, rest) => (name, c.ahead.length - rest.length)
  else none

def method : Source.Recogniser Text := memberWith methodTail?

def property : Source.Recogniser Text := memberWith propertyTail?

def memberSitesOf (kind : MemberKind) (accepts : Source.Recogniser Text) (t : Text) (start stop : Nat) :
    List MemberSite :=
  (Source.sites accepts t start stop).map fun s => { offset := s.start, name := s.value, kind := kind }

/-- The member sites inside the window from `start` up to `stop`, in the order of the text; where a
method and a property share an offset the method stands. -/
def memberSites (withProperties : Bool) (t : Text) (start stop : Nat) : List MemberSite :=
  let methods := memberSitesOf .method method t start stop
  let properties := if withProperties then memberSitesOf .property property t start stop else []
  let others := properties.filter fun p => methods.all fun m => m.offset ≠ p.offset
  (methods ++ others).mergeSort fun a b => a.offset ≤ b.offset

end TypeSplit.Declaration
