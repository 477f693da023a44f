/-
  TypeSplit.Text.Basic — texts as lists of code points, and offsets into them.

  Offsets and lengths count code points. An offset may be any integer: `place` reads one below zero
  from the end of the text and keeps the result inside it, and `slice` and `find?` take their bounds
  through it.
-/

namespace TypeSplit

/-- A text is its code points in order. -/
abbrev Text := List Char

namespace Text

/-! ## Offsets -/

/-- The place an offset names in a text of length `size`: below zero it counts from the end. -/
def place (size : Nat) (offset : Int) : Nat :=
  if offset < 0 then (offset + size).toNat else min offset.toNat size

def slice (t : Text) (start stop : Int) : Text :=
  (t.take (place t.length stop)).drop (place t.length start)

/-- The offset of the first `c` in a text that begins at offset `at_`. -/
def indexFrom? (c : Char) (at_ : Nat) : Text → Option Nat
  | [] => none
  | x :: rest => if x = c then some at_ else indexFrom? c (at_ + 1) rest

/-- Where `c` first stands at or after `start` and before `stop`. -/
def find? (t : Text) (c : Char) (start stop : Int) : Option Nat :=
  indexFrom? c (place t.length start) (slice t start stop)

/-! ## Pieces -/

/-- The pieces between the separators; a text without one is a single piece. -/
def splitOn (sep : Char) : Text → List Text
  | [] => [[]]
  | c :: rest =>
    if c = sep then [] :: splitOn sep rest
    else match splitOn sep rest with
      | [] => [[c]]
      | piece :: others => (c :: piece) :: others

def join (sep : Text) (pieces : List Text) : Text := sep.intercalate pieces

def hasPart (part : Text) : Text → Bool
  | [] => part.isEmpty
  | c :: rest => part.isPrefixOf (c :: rest) || hasPart part rest

def startsWith (t start : Text) : Bool := start.isPrefixOf t

def endsWith (t : Text) (c : Char) : Bool := t.getLast? = some c

def cut? (sep : Char) : Text → Option (Text × Text)
  | [] => none
  | c :: rest => if c = sep then some ([], rest) else (cut? sep rest).map fun (a, b) => (c :: a, b)

def replaceChar (old new : Char) (t : Text) : Text := t.map fun c => if c = old then new else c

/-! ## Sets of characters -/

/-- Whether a code point lies in one of the closed ranges, which stand in ascending order. -/
def inRanges (n : Nat) : List (Nat × Nat) → Bool
  | [] => false
  | (lo, hi) :: rest => if n < lo then false else n ≤ hi || inRanges n rest

end Text

end TypeSplit
