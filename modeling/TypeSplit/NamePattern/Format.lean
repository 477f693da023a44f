/-
  TypeSplit.NamePattern.Format — the format of a field: fill, alignment, sign, width, separators, precision
  and code.

  A format reads `[[fill]align][sign][z][#][0][width][separator][.precision][code]`. It is read in that
  order, each part if it is there, and a part that does not fit the kind of the value is a fault. A number
  is laid out as padding, sign, base mark, padding, digits in groups, and the rest behind the digits. A format
  may be made of the values, so that it holds any code points. What is wider than there is room for in memory is
  not laid out.
-/

import TypeSplit.NamePattern.Error
import TypeSplit.Number.Text

namespace TypeSplit.NamePattern

open TypeSplit.Number (Binary64)

structure Format where
  fill : CodePoint
  align : Char
  sign : Option Char
  /-- Writes a negative zero as zero. -/
  unsignedZero : Bool
  alternate : Bool
  width : Option Nat
  separator : Option Char
  precision : Option Nat
  code : Char
  deriving DecidableEq, Repr

namespace Format

/-! ## Reading -/

def align? : CodePoint → Option Char
  | .char c => if c == '<' || c == '>' || c == '=' || c == '^' then some c else none
  | .surrogate _ => none

/-- The greatest number that a format or an index may hold. -/
def numberLimit : Nat := 0x7FFFFFFFFFFFFFFF

def readNumber {α : Type} (digit? : α → Option Nat) (t : List α) : Except Fault (Option Nat × List α) :=
  let digits := (t.takeWhile fun c => (digit? c).isSome).filterMap digit?
  let rest := t.drop digits.length
  if digits.isEmpty then .ok (none, rest)
  else
    let n := Text.ofDigits 10 digits
    if numberLimit < n then .error .tooManyDigits else .ok (some n, rest)

def readAlign : List CodePoint → Option CodePoint × Option Char × List CodePoint
  | f :: a :: rest =>
    match align? a, align? f with
    | some c, _ => (some f, some c, rest)
    | none, some c => (none, some c, a :: rest)
    | none, none => (none, none, f :: a :: rest)
  | [a] =>
    match align? a with
    | some c => (none, some c, [])
    | none => (none, none, [a])
  | [] => (none, none, [])

/-- Whether `c` stands in front, and the rest after it. -/
def readFlag (c : Char) : List CodePoint → Bool × List CodePoint
  | [] => (false, [])
  | x :: rest => if x = .char c then (true, rest) else (false, x :: rest)

def readSign : List CodePoint → Option Char × List CodePoint
  | .char '+' :: rest => (some '+', rest)
  | .char '-' :: rest => (some '-', rest)
  | .char ' ' :: rest => (some ' ', rest)
  | t => (none, t)

def readSeparator (t : List CodePoint) : Except Fault (Option Char × List CodePoint) :=
  let (comma, t) := readFlag ',' t
  let (underscore, t) := readFlag '_' t
  if comma && underscore then .error .bothSeparators
  else if underscore && t.head? = some (.char ',') then .error .bothSeparators
  else .ok (if comma then some ',' else if underscore then some '_' else none, t)

def readPrecision : List CodePoint → Except Fault (Option Nat × List CodePoint)
  | .char '.' :: rest => do
    match ← readNumber CodePoint.digitValue? rest with
    | (none, _) => .error .noPrecision
    | found => .ok found
  | t => .ok (none, t)

/-- Codes that allow both separators. -/
def groupingCodes : Text := ['d', 'e', 'f', 'g', 'E', 'G', '%', 'F']

def binaryCodes : Text := ['b', 'o', 'x', 'X']

def allows (separator : Char) : CodePoint → Bool
  | .char c => groupingCodes.contains c || (separator == '_' && binaryCodes.contains c)
  | .surrogate _ => false

def read (kind : Kind) (format : List CodePoint) : Except Fault Format := do
  let (fill, align, t) := readAlign format
  let (sign, t) := readSign t
  let (unsignedZero, t) := readFlag 'z' t
  let (alternate, t) := readFlag '#' t
  let (padded, t) := if fill.isSome then (false, t) else readFlag '0' t
  let (width, t) ← readNumber CodePoint.digitValue? t
  let (separator, t) ← readSeparator t
  let (precision, t) ← readPrecision t
  let code ← match t with
    | [] => .ok (.char (match kind with | .text => 's' | .number => 'd'))
    | [c] => .ok c
    | _ => .error (.badFormat format kind)
  if let some s := separator then
    unless allows s code do throw (.separatorWith s code)
  match code with
  | .char code =>
    return {
      fill := if padded then .char '0' else fill.getD (.char ' ')
      align := align.getD (match kind with | .text => '<' | .number => if padded then '=' else '>')
      sign, unsignedZero, alternate, width, separator, precision, code }
  | .surrogate _ => throw (.unknownCode code kind)

/-! ## Layout -/

/-- The text between `left` and `right` copies of the fill. -/
def pad (f : Format) (left right : Nat) (t : List CodePoint) : List CodePoint :=
  List.replicate left f.fill ++ t ++ List.replicate right f.fill

/-- What is laid out, if there is room for its width. -/
def within (f : Format) (room : Nat) (t : Unit → List CodePoint) : Except Error (List CodePoint) :=
  if room < f.width.getD 0 then .error .noMemory else .ok (t ())

/-- The digits in groups of `size` from the right, with zeros in front up to a least width. `fuel` bounds the
number of groups. -/
def grouped (separator : Char) (size : Nat) (reversed : Text) (least : Nat) (later : Text) : (fuel : Nat) → Text
  | 0 => later
  | fuel + 1 =>
    let length := min size (max (max reversed.length least) 1)
    let chunk := reversed.take length
    let zeros := List.replicate (length - chunk.length) '0'
    let text := zeros ++ chunk.reverse ++ later
    let rest := reversed.drop length
    if rest.isEmpty && least ≤ length then text
    else grouped separator size rest (least - length - 1) (separator :: text) fuel

/-- The digits with the separators of the format, and zeros in front if they are the fill. -/
def digitText (f : Format) (others : Nat) (digits : Text) : Text :=
  if digits.isEmpty then []
  else
    let least := if f.fill = .char '0' && f.align = '=' then f.width.getD 0 - others else 0
    match f.separator with
    | none => List.replicate (least - digits.length) '0' ++ digits
    | some s =>
      let size := if binaryCodes.contains f.code then 4 else 3
      grouped s size digits.reverse least [] (digits.length + least + 1)

def signText (f : Format) (negative : Bool) : Text :=
  if negative then ['-']
  else match f.sign with
    | some '+' => ['+']
    | some ' ' => [' ']
    | _ => []

/-- A number laid out: sign, base mark, digits, and what follows the digits. -/
def layout (f : Format) (negative : Bool) (mark digits : Text) (rest : List CodePoint) : List CodePoint :=
  let front := Text.points (signText f negative ++ mark)
  let others := front.length + rest.length
  let digits := Text.points (digitText f others digits)
  let padding := f.width.getD 0 - (others + digits.length)
  let whole := front ++ digits ++ rest
  match f.align with
  | '<' => pad f 0 padding whole
  | '^' => pad f (padding / 2) (padding - padding / 2) whole
  | '=' => front ++ pad f padding 0 (digits ++ rest)
  | _ => pad f padding 0 whole

/-! ## Values -/

/-- A text in its format: cut to the precision, then padded to the width. -/
def text (f : Format) (room : Nat) (t : Text) : Except Error (List CodePoint) :=
  let fault (x : Fault) : Except Error (List CodePoint) := .error (.malformed x)
  if f.code ≠ 's' then fault (.unknownCode (.char f.code) .text)
  else if f.sign = some ' ' then fault .spaceInText
  else if f.sign.isSome then fault .signInText
  else if f.unsignedZero then fault .zeroInText
  else if f.alternate then fault .alternateInText
  else if f.align = '=' then fault .equalsInText
  else f.within room fun _ =>
    let t := Text.points (match f.precision with
      | some p => t.take p
      | none => t)
    let padding := f.width.getD 0 - t.length
    match f.align with
    | '>' => pad f padding 0 t
    | '^' => pad f (padding / 2) (padding - padding / 2) t
    | _ => pad f 0 padding t

def base : Char → Nat × Text
  | 'b' => (2, ['0', 'b'])
  | 'o' => (8, ['0', 'o'])
  | 'x' => (16, ['0', 'x'])
  | 'X' => (16, ['0', 'X'])
  | _ => (10, [])

/-- A whole number in decimal, if it is not too long to be written so. -/
def wholeText (n : Int) : Except Error Text :=
  if Number.digitLimit < Number.digitCount n.natAbs then .error (.malformed .tooLong) else .ok (Text.decimalInt n)

def character (f : Format) (room : Nat) (n : Int) : Except Error (List CodePoint) :=
  if f.sign.isSome then .error (.malformed .signWithCharacter)
  else if f.alternate then .error (.malformed .alternateWithCharacter)
  else if n < -0x8000000000000000 || 0x8000000000000000 ≤ n then .error .characterTooLarge
  else if n < 0 || 0x110000 ≤ n then .error .characterRange
  else f.within room fun _ => layout f false [] [] [.ofNat n.toNat]

def whole (f : Format) (room : Nat) (n : Int) : Except Error (List CodePoint) :=
  if f.precision.isSome then .error (.malformed .precisionInInteger)
  else if f.unsignedZero then .error (.malformed .zeroInInteger)
  else if f.code = 'c' then character f room n
  else
    let (radix, mark) := base f.code
    let digits := Nat.toDigits radix n.natAbs
    if radix = 10 && Number.digitLimit < digits.length then .error (.malformed .tooLong)
    else f.within room fun _ =>
      let digits := if f.code = 'X' then digits.map Char.toUpper else digits
      layout f (n < 0) (if f.alternate then mark else []) digits []

def binary (f : Format) (room : Nat) (x : Binary64) : Except Error (List CodePoint) :=
  let precision := f.precision.getD 6
  if 0x7FFFFFFF < precision then .error (.malformed .precisionTooBig)
  else if room < precision then .error .noMemory
  else f.within room fun _ =>
    let written : Text := match f.code with
      | 'e' => Number.exponential 'e' precision f.alternate x
      | 'E' => Number.exponential 'E' precision f.alternate x
      | 'g' => Number.general 'e' precision f.alternate x
      | 'G' => Number.general 'E' precision f.alternate x
      | '%' => Number.fixed precision f.alternate (x.mul (.ofInt 100)) ++ ['%']
      | _ => Number.fixed precision f.alternate x
    let (negative, digits) := Number.signed written
    layout f negative [] (digits.takeWhile Text.isAsciiDigit) (Text.points (digits.dropWhile Text.isAsciiDigit))

def number (f : Format) (room : Nat) (n : Int) : Except Error (List CodePoint) :=
  if ['b', 'c', 'd', 'o', 'x', 'X', 'n'].contains f.code then whole f room n
  else if ['e', 'E', 'f', 'F', 'g', 'G', '%'].contains f.code then
    let x := Binary64.ofInt n
    if x.isInfinite then .error .tooLargeForBinary else binary f room x
  else .error (.malformed (.unknownCode (.char f.code) .number))

end Format

end TypeSplit.NamePattern
