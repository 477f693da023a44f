/-
  TypeSplit.Source.Block — the end of a block between delimiters.

  A block is closed where the delimiters seen since its opening first balance. Every character counts,
  also one inside a string or a comment of the source. The delimiters are two texts; a character that
  is the whole opener opens, and any other character of either text closes.
-/

import TypeSplit.Text.Basic

namespace TypeSplit.Source

/-- What one character does to the depth of a block. -/
inductive Effect where
  | opens
  | closes
  | nothing
  deriving DecidableEq, Repr

/-- The texts whose characters open and close a block. -/
structure Delimiters where
  opener : Text
  closer : Text
  some_character : opener ++ closer ≠ []

namespace Delimiters

inductive Error where
  | noCharacter

def Error.message : Error → String
  | .noCharacter => "unterminated character set at position 0"

def ofTexts (opener closer : Text) : Except Error Delimiters :=
  if h : opener ++ closer ≠ [] then .ok ⟨opener, closer, h⟩ else .error .noCharacter

def braces : Delimiters := ⟨['{'], ['}'], by decide⟩

def effect (d : Delimiters) (c : Char) : Effect :=
  if d.opener = [c] then .opens
  else if c ∈ d.opener ∨ c ∈ d.closer then .closes
  else .nothing

end Delimiters

/-- The offset just past the delimiter that closes a block, in a text that begins at offset `at_`
inside the block with `inner` more blocks open. -/
def closeFrom? (d : Delimiters) : (at_ inner : Nat) → Text → Option Nat
  | _, _, [] => none
  | at_, inner, c :: rest =>
    match d.effect c, inner with
    | .opens, _ => closeFrom? d (at_ + 1) (inner + 1) rest
    | .closes, 0 => some (at_ + 1)
    | .closes, k + 1 => closeFrom? d (at_ + 1) k rest
    | .nothing, _ => closeFrom? d (at_ + 1) inner rest

/-- The text before a limit; a limit below zero leaves nothing and one past the end cuts nothing. -/
def before (limit : Option Int) (t : Text) : Text :=
  match limit with
  | none => t
  | some l => t.take l.toNat

/-- The offset just past the delimiter that closes the block opened at `opening`, if that comes before
`limit`. The search starts one character after `opening`, or at the start of the text. -/
def matchBlock? (d : Delimiters) (t : Text) (opening : Int) (limit : Option Int) : Option Nat :=
  let start := (opening + 1).toNat
  closeFrom? d start 0 ((before limit t).drop start)

end TypeSplit.Source
