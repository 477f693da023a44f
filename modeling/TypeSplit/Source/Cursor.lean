/-
  TypeSplit.Source.Cursor — a place in a text, with what lies behind and ahead of it.
-/

import TypeSplit.Text.Basic

namespace TypeSplit.Source

/-- A place between two characters. `behind` is read backwards from the place, `ahead` forwards. -/
structure Cursor where
  behind : Text
  ahead : Text
  deriving DecidableEq, Repr

namespace Cursor

def at_ (t : Text) (offset : Nat) : Cursor := ⟨(t.take offset).reverse, t.drop offset⟩

def offset (c : Cursor) : Nat := c.behind.length

/-- The place `n` characters further on, or the end of the text. -/
def advance (c : Cursor) : Nat → Cursor
  | 0 => c
  | n + 1 =>
    match c.ahead with
    | [] => c
    | x :: rest => advance ⟨x :: c.behind, rest⟩ n

def nextLine? (c : Cursor) : Option Cursor :=
  go c.behind c.ahead
where
  go (behind : Text) : Text → Option Cursor
    | [] => none
    | x :: rest => if x = '\n' then some ⟨x :: behind, rest⟩ else go (x :: behind) rest

/-- Whether `//` stands between the start of the line and the place. -/
def inLineComment (c : Cursor) : Bool := Text.hasPart ['/', '/'] (c.behind.takeWhile (· ≠ '\n'))

end Cursor

end TypeSplit.Source
