/-
  TypeSplit.Text.Blank — white space, and texts stripped of it.

  A blank is a space separator, a line or paragraph separator, or one of the controls that end or
  advance a line or separate records. The zero-width space and the byte order mark are not blank.
-/

import TypeSplit.Text.Basic

namespace TypeSplit.Text

def blankRanges : List (Nat × Nat) := [
  (0x9, 0xD), (0x1C, 0x20), (0x85, 0x85), (0xA0, 0xA0), (0x1680, 0x1680), (0x2000, 0x200A),
  (0x2028, 0x2029), (0x202F, 0x202F), (0x205F, 0x205F), (0x3000, 0x3000)]

def isBlank (c : Char) : Bool := inRanges c.toNat blankRanges

/-- The text from its first character that satisfies `p` no longer to its last such one. -/
def stripWhile (p : Char → Bool) (t : Text) : Text := ((t.dropWhile p).reverse.dropWhile p).reverse

def stripStart (t : Text) : Text := t.dropWhile isBlank

def strip (t : Text) : Text := stripWhile isBlank t

def stripEndOf (c : Char) (t : Text) : Text := (t.reverse.dropWhile (· == c)).reverse

end TypeSplit.Text
