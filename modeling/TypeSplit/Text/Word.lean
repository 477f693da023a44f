/-
  TypeSplit.Text.Word — word characters, word boundaries and tokens.

  A word character is a letter, a number of any kind, or the underscore. A boundary lies between a
  word character and anything else, the ends of the text included. A text `k` stands as a token where
  it stands with a boundary on both sides; `splitToken?` cuts a text around the first such place.
-/

import TypeSplit.Text.Basic
import TypeSplit.Text.WordTable

namespace TypeSplit.Text

def isWord (c : Char) : Bool :=
  if c.toNat < 0x80 then c.isAlphanum || c == '_' else inRanges c.toNat wordRanges

/-- A word boundary between two neighbours, either of which may be missing. -/
def boundary (before after : Option Char) : Bool := before.any isWord != after.any isWord

/-- The texts before and after the first place where `k` stands as a token. `before` is the character
in front of the text. -/
def splitToken? (k : Text) (before : Option Char) : Text → Option (Text × Text)
  | [] => if k.isEmpty && boundary before none then some ([], []) else none
  | c :: rest =>
    match k.isPrefixOf? (c :: rest) with
    | some after =>
      if boundary before (some c) && boundary (k.getLast?.or before) after.head? then some ([], after)
      else (splitToken? k (some c) rest).map fun (p, r) => (c :: p, r)
    | none => (splitToken? k (some c) rest).map fun (p, r) => (c :: p, r)

def hasToken (k t : Text) : Bool := (splitToken? k none t).isSome

end TypeSplit.Text
