/-
  TypeSplit.Declaration.TypeSite — where types are declared.

  A type header is a run of modifiers, a keyword, blanks, a name, and any text up to the first opening
  brace. The keywords are given, and tried in their order.
-/

import TypeSplit.Declaration.Modifier

namespace TypeSplit.Declaration

structure TypeSite where
  offset : Int
  name : Text
  keyword : Text
  header : Text
  deriving DecidableEq, Repr

def nameAndBrace? (t : Text) : Option (Text × Text) := do
  let t ← blanks? t
  let (name, t) ← word? t
  let (_, t) ← Text.cut? '{' t
  some (name, t)

/-- Recognises a type header up to its brace; the keyword and the name are kept. -/
def typeHeader (keywords : List Text) : Source.Recogniser (Text × Text) := fun c =>
  if startsHere c then
    (modifierRun typeModifiers c.ahead).findSome? fun t =>
      keywords.findSome? fun keyword => do
        let t ← keyword.isPrefixOf? t
        let (name, rest) ← nameAndBrace? t
        some ((keyword, name), c.ahead.length - rest.length)
  else none

def typeSites (keywords : List Text) (t : Text) : List TypeSite :=
  (Source.sites (typeHeader keywords) t 0 t.length).map fun s =>
    { offset := s.start, name := s.value.2, keyword := s.value.1
      header := Text.strip ((t.take (s.stop - 1)).drop s.start) }

end TypeSplit.Declaration
