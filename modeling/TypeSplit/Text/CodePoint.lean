/-
  TypeSplit.Text.CodePoint — code points that are characters, and those that are not.

  A text is made of characters. A code point that is written by its number may also be a surrogate, which is
  half of a character in another encoding and none by itself. No text holds one, and no file system takes one in
  a path: there it stands as a zero, which no file system takes either.
-/

import TypeSplit.Text.Digit

namespace TypeSplit

inductive CodePoint where
  | char (c : Char)
  /-- The surrogates, counted from 0xD800. -/
  | surrogate (n : Fin 0x800)
  deriving DecidableEq, Repr

namespace CodePoint

def ofNat (n : Nat) : CodePoint :=
  if h : 0xD800 ≤ n ∧ n < 0xE000 then .surrogate ⟨n - 0xD800, by omega⟩ else .char (Char.ofNat n)

def toNat : CodePoint → Nat
  | .char c => c.toNat
  | .surrogate n => 0xD800 + n

def toChar : CodePoint → Char
  | .char c => c
  | .surrogate _ => '\x00'

def digitValue? : CodePoint → Option Nat
  | .char c => Text.digitValue? c
  | .surrogate _ => none

/-- Code points as a text, with zeros for surrogates. -/
def text (t : List CodePoint) : Text := t.map toChar

end CodePoint

def Text.points (t : Text) : List CodePoint := t.map .char

end TypeSplit
