/-
  TypeSplit.Text.Case — lower case and case folding.

  `lower` maps each character to its lower-case form; a capital sigma becomes the final form when a
  cased character stands before it in the word and none after it. `fold` is full case folding: two
  texts that differ only in case fold to the same text.
-/

import TypeSplit.Text.Basic
import TypeSplit.Text.CaseTable

namespace TypeSplit.Text

/-- Where the first shift that holds `n` moves it. -/
def shifted (shifts : List Shift) (n : Nat) : Nat :=
  match shifts.find? fun s => s.first ≤ n && n ≤ s.last && (n - s.first) % s.step == 0 with
  | some s => ((n : Int) + s.delta).toNat
  | none => n

/-- Whether the first character that is not passed over is cased. -/
def cased : Text → Bool
  | [] => false
  | c :: rest => if inRanges c.toNat passedOverRanges then cased rest else inRanges c.toNat casedRanges

/-- The lower-case form of one character between `behind`, read backwards, and `ahead`. -/
def lowerChar (behind ahead : Text) (c : Char) : Text :=
  if c = 'Σ' then [if cased behind && !cased ahead then 'ς' else 'σ']
  else if c = 'İ' then ['i', '\u0307']
  else [Char.ofNat (shifted lowerShifts c.toNat)]

/-- The lower-case form of a text that follows `behind`, read backwards. -/
def lowerAfter (behind : Text) : Text → Text
  | [] => []
  | c :: rest => lowerChar behind rest c ++ lowerAfter (c :: behind) rest

def lower (t : Text) : Text := lowerAfter [] t

def foldChar (c : Char) : Text :=
  match foldSequences.lookup c.toNat with
  | some codes => codes.map Char.ofNat
  | none => [Char.ofNat (shifted foldShifts c.toNat)]

def fold (t : Text) : Text := t.flatMap foldChar

end TypeSplit.Text
