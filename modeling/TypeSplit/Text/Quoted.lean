/-
  TypeSplit.Text.Quoted — a text between quotes, with what does not print written as an escape.

  The quote is `'` unless the text holds that and no `"`. Backslash and the quote in use are escaped,
  as are tab, newline and carriage return; any other character that does not print is written by its
  code point in two, four or eight hexadecimal digits.
-/

import TypeSplit.Text.Basic
import TypeSplit.Text.PrintableTable

namespace TypeSplit.Text

def isPrintable (c : Char) : Bool :=
  if c.toNat < 0x80 then 0x20 ≤ c.toNat && c.toNat ≠ 0x7F else !inRanges c.toNat unprintableRanges

/-- A number in base 16 with lower-case digits, at least `width` of them. -/
def hex (width n : Nat) : Text :=
  let digits := Nat.toDigits 16 n
  List.replicate (width - digits.length) '0' ++ digits

/-- The code point of a character as an escape of the shortest form that holds it. -/
def escapeCode (c : Char) : Text :=
  if c.toNat ≤ 0xFF then '\\' :: 'x' :: hex 2 c.toNat
  else if c.toNat ≤ 0xFFFF then '\\' :: 'u' :: hex 4 c.toNat
  else '\\' :: 'U' :: hex 8 c.toNat

/-- One character inside quotes, where `prints` says which may stand for themselves. -/
def quoteChar (prints : Char → Bool) (quote c : Char) : Text :=
  if c = quote || c = '\\' then ['\\', c]
  else if c = '\t' then ['\\', 't']
  else if c = '\n' then ['\\', 'n']
  else if c = '\r' then ['\\', 'r']
  else if prints c then [c]
  else escapeCode c

def quoteWith (prints : Char → Bool) (t : Text) : Text :=
  let quote := if t.contains '\'' && !t.contains '"' then '"' else '\''
  quote :: t.flatMap (quoteChar prints quote) ++ [quote]

def quoted (t : Text) : Text := quoteWith isPrintable t

def quotedAscii (t : Text) : Text := quoteWith (fun c => isPrintable c && c.toNat < 0x80) t

end TypeSplit.Text
