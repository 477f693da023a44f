/-
  TypeSplit.Source.Line — the lines of a text and the line of an offset.

  Lines are numbered from one. A newline ends its line and belongs to it; the line of an offset is one
  more than the number of newlines in front of it. `lines` cuts at the same newlines, so its numbers
  agree with `lineOf`: the text after the last newline is a line only if it is not empty, and a line
  loses one carriage return at its end.
-/

import TypeSplit.Text.Basic

namespace TypeSplit.Source

def lineOf (t : Text) (offset : Int) : Nat := (t.take offset.toNat).count '\n' + 1

def lineCount (t : Text) : Nat := t.count '\n' + 1

/-- The offset just after the `k`-th newline of a text that begins at offset `at_`. -/
def afterNewline? : Nat → Nat → Text → Option Nat
  | 0, at_, _ => some at_
  | _ + 1, _, [] => none
  | k + 1, at_, c :: rest => afterNewline? (if c = '\n' then k else k + 1) (at_ + 1) rest

/-- The offset of the first character of a line; numbers below one stand for the first line. -/
def lineStart? (t : Text) (line : Int) : Option Nat := afterNewline? (line - 1).toNat 0 t

def dropReturn (line : Text) : Text := if line.getLast? = some '\r' then line.dropLast else line

/-- The pieces between newlines, without an empty last one. -/
def rawLines (t : Text) : List Text :=
  let pieces := Text.splitOn '\n' t
  if pieces.getLast? = some [] then pieces.dropLast else pieces

def lines (t : Text) : List Text := (rawLines t).map dropReturn

end TypeSplit.Source
