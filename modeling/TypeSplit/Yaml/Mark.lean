/-
  TypeSplit.Yaml.Mark — a place in a YAML text, and the classes of characters that the format knows.
-/

import TypeSplit.Text.Digit

namespace TypeSplit.Yaml

/-! ## Characters -/

def isBreak (c : Char) : Bool :=
  c == '\n' || c == '\r' || c == '\u0085' || c == '\u2028' || c == '\u2029'

/-- Whether a line ends here: at a break or at the end of the text. -/
def endsLine (c : Option Char) : Bool := c.all isBreak

def endsWord (c : Option Char) : Bool := c.all fun c => c == ' ' || isBreak c

/-- Whether an indicator ends here: at a space, a tab, a break or the end of the text. -/
def endsIndicator (c : Option Char) : Bool := c.all fun c => c == ' ' || c == '\t' || isBreak c

/-- The characters of names of anchors, handles and directives. -/
def isNameChar (c : Char) : Bool := c.isAlphanum || c == '-' || c == '_'

def isAllowed (c : Char) : Bool :=
  let n := c.toNat
  n == 0x9 || n == 0xA || n == 0xD || (0x20 ≤ n && n ≤ 0x7E) || n == 0x85 ||
    (0xA0 ≤ n && n ≤ 0xD7FF) || (0xE000 ≤ n && n ≤ 0xFFFD) || 0x10000 ≤ n

/-! ## Places -/

/-- A place: the rest of the text, and where it begins. -/
structure Mark where
  rest : Text
  index : Nat
  line : Nat
  column : Nat
  deriving DecidableEq, Repr

namespace Mark

def ofText (t : Text) : Mark := ⟨t, 0, 0, 0⟩

def peekAt (m : Mark) (n : Nat) : Option Char := m.rest[n]?

def peek (m : Mark) : Option Char := m.rest.head?

def step (m : Mark) : Mark :=
  match m.rest with
  | [] => m
  | c :: rest =>
    if isBreak c && !(c == '\r' && rest.head? == some '\n') then ⟨rest, m.index + 1, m.line + 1, 0⟩
    else ⟨rest, m.index + 1, m.line, if c = '\ufeff' then m.column else m.column + 1⟩

def forward (m : Mark) : Nat → Mark
  | 0 => m
  | n + 1 => m.step.forward n

def takeWhile (p : Char → Bool) (m : Mark) : Text × Mark :=
  let run := m.rest.takeWhile p
  (run, m.forward run.length)

def skipSpaces (m : Mark) : Mark := (m.takeWhile (· == ' ')).2

def skipLine (m : Mark) : Mark := (m.takeWhile (!isBreak ·)).2

/-- The line break here, if there is one: as a newline, or as itself where it separates lines or
paragraphs. -/
def lineBreak? (m : Mark) : Option (Char × Mark) :=
  match m.rest with
  | '\r' :: '\n' :: _ => some ('\n', m.forward 2)
  | c :: _ =>
    if c == '\u2028' || c == '\u2029' then some (c, m.step)
    else if isBreak c then some ('\n', m.step)
    else none
  | [] => none

/-- Whether three equal signs here, `---` or `...`, part two documents. -/
def separates (sign : Char) (m : Mark) : Bool :=
  m.rest.take 3 == [sign, sign, sign] && endsIndicator (m.peekAt 3)

def separatesDocuments (m : Mark) : Bool := m.separates '-' || m.separates '.'

end Mark

end TypeSplit.Yaml
