/-
  TypeSplit.Number.Text — numbers as text, and text as numbers.

  Three ways of writing a binary number share the layouts of this module: the plain one with the fewest
  digits that read back (`plain`), the one with a fixed number of places (`fixed`), and the one with a
  number of significant digits that changes to an exponent for large and small numbers (`general`).
  Reading takes decimal digits of any script, single underscores between digits, and blanks around.
-/

import TypeSplit.Number.Digits
import TypeSplit.Text.Blank
import TypeSplit.Text.Digit

namespace TypeSplit.Number

open TypeSplit.Text (decimal digitValue?)

/-! ## Layouts -/

/-- Digits with a point before the last `places` of them. -/
def withPoint (value places : Nat) (keepPoint : Bool) : Text :=
  let digits := decimal value
  let digits := List.replicate (places + 1 - digits.length) '0' ++ digits
  let whole := digits.take (digits.length - places)
  let part := digits.drop (digits.length - places)
  if part.isEmpty && !keepPoint then whole else whole ++ '.' :: part

/-- The exponent mark: a sign and at least two digits. -/
def exponentMark (mark : Char) (power : Int) : Text :=
  let digits := decimal power.natAbs
  mark :: (if power < 0 then '-' else '+') :: List.replicate (2 - digits.length) '0' ++ digits

def scientific (mark : Char) (d : Digits) (keepPoint : Bool) : Text :=
  withPoint d.value (digitCount d.value - 1) keepPoint ++ exponentMark mark d.leading

def positional (d : Digits) : Text :=
  if d.power < 0 then withPoint d.value (-d.power).toNat false
  else decimal (d.value * Nat.pow 10 d.power.toNat)

def sign (negative : Bool) : Text := if negative then ['-'] else []

/-! ## Binary numbers as text -/

/-- The plain text of a number: an exponent below 1e-4 and from 1e16 on, else a point and at least one
place. -/
def plain : Binary64 → Text
  | .nan => "nan".toList
  | .infinite negative => sign negative ++ "inf".toList
  | .finite negative mantissa exponent =>
    sign negative ++
      if mantissa = 0 then "0.0".toList
      else
        let d := Digits.shortest mantissa exponent
        if d.leading < -4 || 16 ≤ d.leading then scientific 'e' d false
        else if d.power < 0 then positional d
        else positional d ++ ".0".toList

def fixed (places : Nat) (keepPoint : Bool) : Binary64 → Text
  | .nan => "nan".toList
  | .infinite negative => sign negative ++ "inf".toList
  | .finite negative mantissa exponent =>
    let (n, d) := Binary64.ratio mantissa exponent
    sign negative ++ withPoint (Digits.fixed places n d) places keepPoint

/-- The digits of a finite number to a number of significant places; zero has as many zeros. -/
def significantDigits (count mantissa : Nat) (exponent : Int) : Nat × Int :=
  if mantissa = 0 then (0, 0)
  else
    let (n, d) := Binary64.ratio mantissa exponent
    let digits := Digits.significant count n d
    (digits.value, digits.leading)

/-- A number with one digit in front of the point, `places` behind it, and an exponent. -/
def exponential (mark : Char) (places : Nat) (keepPoint : Bool) : Binary64 → Text
  | .nan => "nan".toList
  | .infinite negative => sign negative ++ "inf".toList
  | .finite negative mantissa exponent =>
    let (value, leading) := significantDigits (places + 1) mantissa exponent
    sign negative ++ withPoint value places keepPoint ++ exponentMark mark leading

def trimPlaces (value : Nat) : Nat → Nat × Nat
  | 0 => (value, 0)
  | places + 1 => if value % 10 = 0 then trimPlaces (value / 10) places else (value, places + 1)

/-- A number with at most `count` significant digits: an exponent below 1e-4 and from 10^count on, and no
zeros at the end unless `keepZeros`. -/
def general (mark : Char) (count : Nat) (keepZeros : Bool) : Binary64 → Text
  | .nan => "nan".toList
  | .infinite negative => sign negative ++ "inf".toList
  | .finite negative mantissa exponent =>
    let count := max count 1
    let (value, leading) := significantDigits count mantissa exponent
    let trimmed (places : Nat) : Text :=
      if keepZeros then withPoint value places true
      else let (v, p) := trimPlaces value places; withPoint v p false
    sign negative ++
      if leading < -4 || (count : Int) ≤ leading then trimmed (count - 1) ++ exponentMark mark leading
      else trimmed ((count : Int) - 1 - leading).toNat

/-! ## Text as numbers -/

/-- The greatest number of decimal digits that is read as a whole number or written as one. -/
def digitLimit : Nat := 4300

/-- The values of the digits that go on a run, each with at most one underscore in front, and the rest. -/
def moreDigits : Text → List Nat × Text
  | [] => ([], [])
  | '_' :: c :: rest =>
    match digitValue? c with
    | some v => let (vs, rest) := moreDigits rest; (v :: vs, rest)
    | none => ([], '_' :: c :: rest)
  | c :: rest =>
    match digitValue? c with
    | some v => let (vs, rest) := moreDigits rest; (v :: vs, rest)
    | none => ([], c :: rest)

/-- The values of a run of digits with single underscores between them, and the rest. The run is not
empty. -/
def digitRun? : Text → Option (List Nat × Text)
  | [] => none
  | c :: rest => (digitValue? c).map fun v => let (vs, rest) := moreDigits rest; (v :: vs, rest)

/-- Whether a text begins with a minus sign, and the rest after a sign. -/
def signed : Text → Bool × Text
  | '-' :: rest => (true, rest)
  | '+' :: rest => (false, rest)
  | t => (false, t)

/-- The blanks that may stand around a number. Separators of records are not among them. -/
def isMargin (c : Char) : Bool := Text.isBlank c && !(0x1C ≤ c.toNat && c.toNat ≤ 0x1F)

/-- The whole number that a text writes: blanks, a sign, digits, blanks. -/
def readInt? (t : Text) : Option Int :=
  let (negative, t) := signed (Text.stripWhile isMargin t)
  match digitRun? t with
  | some (digits, []) =>
    if digitLimit < digits.length then none
    else
      let n : Int := Text.ofDigits 10 digits
      some (if negative then -n else n)
  | _ => none

def readExponent? : Text → Option Int
  | [] => some 0
  | c :: rest =>
    if c = 'e' || c = 'E' then
      let (negative, rest) := signed rest
      match digitRun? rest with
      | some (digits, []) =>
        let n : Int := Text.ofDigits 10 digits
        some (if negative then -n else n)
      | _ => none
    else none

def word? (t : Text) : Option Bool :=
  let t := t.map Char.toLower
  if t = "inf".toList || t = "infinity".toList then some true
  else if t = "nan".toList then some false
  else none

/-- The binary number that a text writes: blanks, a sign, then digits with a point among or beside them
and an optional exponent, or a word for infinity or not-a-number. -/
def readBinary? (t : Text) : Option Binary64 :=
  let (negative, t) := signed (Text.stripWhile isMargin t)
  match word? t with
  | some true => some (.infinite negative)
  | some false => some .nan
  | none =>
    let (whole, t) := (digitRun? t).getD ([], t)
    let (part, t) :=
      match t with
      | '.' :: rest => (digitRun? rest).getD ([], rest)
      | _ => ([], t)
    if whole.isEmpty && part.isEmpty then none
    else (readExponent? t).map fun power =>
      Binary64.ofDecimal negative (Text.ofDigits 10 (whole ++ part)) (power - part.length)

end TypeSplit.Number
