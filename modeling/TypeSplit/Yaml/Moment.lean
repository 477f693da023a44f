/-
  TypeSplit.Yaml.Moment — dates and times among the plain scalars.

  A date is written `2001-12-31`. With a time of day, after a `T` or blanks, month and day may have one digit,
  and a fraction and a time zone may follow. What has the form and names no date or time is a fault: the zone
  is looked at first, then the year, the month, the day, and the time of day.
-/

import TypeSplit.Yaml.Error

namespace TypeSplit.Yaml

open TypeSplit.Text (isAsciiDigit)

structure Moment where
  year : Nat
  month : Nat
  day : Nat
  /-- Hour, minute and second. -/
  time : Option (Nat × Nat × Nat)
  /-- Minutes east of Greenwich. -/
  zone : Option Int
  deriving DecidableEq, Repr

namespace Moment

def number (t : Text) : Nat := Text.ofDigits 10 (t.map fun c => c.toNat - '0'.toNat)

/-- The number of between `least` and `most` digits at the front, and the rest. -/
def digits? (least most : Nat) (t : Text) : Option (Nat × Text) :=
  let found := (t.take most).takeWhile isAsciiDigit
  if found.length < least then none else some (number found, t.drop found.length)

def after? (c : Char) : Text → Option Text
  | [] => none
  | d :: rest => if d = c then some rest else none

def isSpace (c : Char) : Bool := c == ' ' || c == '\t'

/-- The rest after what parts a date from a time of day. -/
def afterDate? : Text → Option Text
  | [] => none
  | c :: rest =>
    if c = 'T' || c = 't' then some rest
    else if isSpace c then some (rest.dropWhile isSpace)
    else none

def zone? (t : Text) : Option (Option Int) :=
  match t, t.dropWhile isSpace with
  | [], _ => some none
  | _, ['Z'] => some (some 0)
  | _, c :: rest => do
    guard (c = '+' || c = '-')
    let (hours, rest) ← digits? 1 2 rest
    let minutes ← if rest.isEmpty then pure 0 else do
      let (minutes, rest) ← digits? 2 2 (← after? ':' rest)
      guard rest.isEmpty
      pure minutes
    let offset : Int := hours * 60 + minutes
    return some (if c = '-' then -offset else offset)
  | _, _ => none

def date? (t : Text) : Option Moment := do
  let (year, t) ← digits? 4 4 t
  let (month, t) ← digits? 2 2 (← after? '-' t)
  let (day, t) ← digits? 2 2 (← after? '-' t)
  guard t.isEmpty
  return ⟨year, month, day, none, none⟩

def dateAndTime? (t : Text) : Option Moment := do
  let (year, t) ← digits? 4 4 t
  let (month, t) ← digits? 1 2 (← after? '-' t)
  let (day, t) ← digits? 1 2 (← after? '-' t)
  let (hour, t) ← digits? 1 2 (← afterDate? t)
  let (minute, t) ← digits? 2 2 (← after? ':' t)
  let (second, t) ← digits? 2 2 (← after? ':' t)
  let t := match after? '.' t with
    | some rest => rest.dropWhile isAsciiDigit
    | none => t
  let zone ← zone? t
  return ⟨year, month, day, some (hour, minute, second), zone⟩

def ofText? (t : Text) : Option Moment := date? t <|> dateAndTime? t

/-! ## What exists -/

def isLeap (year : Nat) : Bool := year % 4 == 0 && (year % 100 != 0 || year % 400 == 0)

def daysIn (year month : Nat) : Nat :=
  if month = 2 then (if isLeap year then 29 else 28)
  else if [4, 6, 9, 11].contains month then 30
  else 31

/-- The fault of a zone that is a day or more away. -/
def zoneFault? (offset : Int) : Option DateFault :=
  if offset.natAbs < 24 * 60 then none
  else some (.zone (offset.fdiv (24 * 60)) (offset.fmod (24 * 60) * 60))

def timeFault? : Nat × Nat × Nat → Option DateFault
  | (hour, minute, second) =>
    if 23 < hour then some .hour
    else if 59 < minute then some .minute
    else if 59 < second then some .second
    else none

def fault? (m : Moment) : Option DateFault :=
  match m.zone.bind zoneFault? with
  | some fault => some fault
  | none =>
    if m.year = 0 then some (.year m.year)
    else if m.month < 1 || 12 < m.month then some .month
    else if m.day < 1 || daysIn m.year m.month < m.day then some .day
    else m.time.bind timeFault?

end Moment

end TypeSplit.Yaml
