/-
  TypeSplit.Yaml.Value — the values of YAML, and the value of a text.

  A plain scalar is of the first type whose form it has: null, a truth value, a whole number, a binary
  number, a date or time; otherwise it is text. The pairs of a mapping that is merged in come in front of the
  mapping's own.

  Of several faults in one document the shallowest counts, and of two at one depth the first.
-/

import TypeSplit.Number.Text
import TypeSplit.Yaml.Moment
import TypeSplit.Yaml.Node

namespace TypeSplit.Yaml

open TypeSplit.Number (Binary64)
open TypeSplit.Text (isAsciiDigit)

inductive Value where
  | null
  | bool (b : Bool)
  | whole (n : Int)
  | binary (x : Binary64)
  | text (t : Text)
  /-- A date or a time. -/
  | moment
  | list (items : List Value)
  | mapping (pairs : List (Value × Value))
  deriving Repr

namespace Value

/-! ## Plain scalars -/

def nullWords : List Text := ["~".toList, "null".toList, "Null".toList, "NULL".toList, []]

def boolWords : List (Text × Bool) := [
  ("yes".toList, true), ("no".toList, false), ("true".toList, true),
  ("false".toList, false), ("on".toList, true), ("off".toList, false)]

def capital : Text → Text
  | [] => []
  | c :: rest => c.toUpper :: rest

/-- The truth value of a word in small letters, in large letters, or with its first letter large. -/
def bool? (t : Text) : Option Bool :=
  (boolWords.find? fun (word, _) => t == word || t == capital word || t == word.map Char.toUpper).map (·.2)

def isDigitOf (base : Nat) (c : Char) : Bool :=
  c == '_' || (isAsciiDigit c && c.toNat - '0'.toNat < base) ||
    (base == 16 && (('a' ≤ c && c ≤ 'f') || ('A' ≤ c && c ≤ 'F')))

def digitValue (c : Char) : Nat :=
  if isAsciiDigit c then c.toNat - '0'.toNat else c.toLower.toNat - 'a'.toNat + 10

/-- A digit, then digits and underscores. -/
def isNumeral : Text → Bool
  | [] => false
  | c :: rest => isAsciiDigit c && rest.all (isDigitOf 10)

/-- One digit, or two of which the first is below six. -/
def isSixtieth : Text → Bool
  | [a] => isAsciiDigit a
  | [a, b] => '0' ≤ a && a ≤ '5' && isAsciiDigit b
  | _ => false

/-- The number that digits of a base write; underscores say nothing. -/
def ofDigits (base : Nat) (t : Text) : Except Error Nat :=
  let digits := t.filter (· ≠ '_')
  if digits.isEmpty then throw (.badWhole base [])
  else if base = 10 && Number.digitLimit < digits.length then throw (.tooManyDigits digits.length)
  else return Text.ofDigits base (digits.map digitValue)

def natural? : Text → Option (Except Error Nat)
  | [] => none
  | '0' :: [] => some (pure 0)
  | '0' :: 'b' :: rest => if !rest.isEmpty && rest.all (isDigitOf 2) then some (ofDigits 2 rest) else none
  | '0' :: 'x' :: rest => if !rest.isEmpty && rest.all (isDigitOf 16) then some (ofDigits 16 rest) else none
  | '0' :: rest => if rest.all (isDigitOf 8) then some (ofDigits 8 ('0' :: rest)) else none
  | t =>
    match Text.splitOn ':' t with
    | [] => none
    | first :: more =>
      if isNumeral first && more.all isSixtieth then
        some ((first :: more).foldlM (fun n digits => return n * 60 + (← ofDigits 10 digits)) 0)
      else none

def whole? (t : Text) : Option (Except Error Int) :=
  let (negative, t) := Number.signed t
  (natural? t).map fun found => found.map fun n => if negative then -(n : Int) else (n : Int)

/-- The exponent at the end of a binary number: a letter, a sign that may not be left out, and digits. -/
def exponent? : Text → Option Int
  | [] => some 0
  | mark :: sign :: rest =>
    if (mark = 'e' || mark = 'E') && (sign = '+' || sign = '-') && !rest.isEmpty && rest.all isAsciiDigit then
      let n : Int := Moment.number rest
      some (if sign = '-' then -n else n)
    else none
  | _ => none

def decimal (whole part : Text) (exponent : Int) : Binary64 :=
  let whole := whole.filter (· ≠ '_')
  let part := part.filter (· ≠ '_')
  .ofDecimal false (Moment.number (whole ++ part)) (exponent - part.length)

/-- The sum of parts each sixty times the next, from the last part on. -/
def sixtieths (base : Nat) (sum : Binary64) : List Binary64 → Except Error Binary64
  | [] => return sum
  | x :: rest => do
    let scale := Binary64.ofInt base
    if scale.isInfinite then throw .tooLargeForBinary
    sixtieths (base * 60) (sum.add (x.mul scale)) rest

/-- The binary number that a text without a sign has the form of. `signless` says that it had none. -/
def positive? (signless : Bool) (t : Text) : Option (Except Error Binary64) := do
  let (front, part) ← Text.cut? '.' t
  let (digits, rest) := part.span (isDigitOf 10)
  if front.isEmpty then
    if ["inf".toList, "Inf".toList, "INF".toList].contains part then return pure (.infinite false)
    else
      guard signless
      if ["nan".toList, "NaN".toList, "NAN".toList].contains part then return pure .nan
      else
        guard (isNumeral digits)
        return pure (decimal [] digits (← exponent? rest))
  else
    match Text.splitOn ':' front with
    | [] => none
    | [numeral] =>
      guard (isNumeral numeral)
      return pure (decimal numeral digits (← exponent? rest))
    | first :: more =>
      guard (isNumeral first && more.all isSixtieth && rest.isEmpty)
      let parts := (first :: more).reverse
      return sixtieths 1 .zero (decimal (parts.head?.getD []) digits 0 :: parts.tail.map (decimal · [] 0))

def binary? (t : Text) : Option (Except Error Binary64) :=
  let (negative, rest) := Number.signed t
  (positive? (rest.length == t.length) rest).map fun found => found.map fun x => if negative then x.neg else x

/-- The value of a plain scalar. The keys that merge and the sign for a default value are no values. -/
def ofPlain (t : Text) : Except Error Value :=
  if nullWords.contains t then return .null
  else if t = ['='] || t = ['<', '<'] then throw .malformed
  else
    match bool? t with
    | some b => return .bool b
    | none =>
      match whole? t with
      | some n => .whole <$> n
      | none =>
        match binary? t with
        | some x => .binary <$> x
        | none =>
          match Moment.ofText? t with
          | some m =>
            match m.fault? with
            | some fault => throw (.badDate fault)
            | none => return .moment
          | none => return .text t

def standard (name : String) : Text := "tag:yaml.org,2002:".toList ++ name.toList

def hasType (tag : Text) : Value → Bool
  | .null => tag == standard "null"
  | .bool _ => tag == standard "bool"
  | .whole _ => tag == standard "int"
  | .binary _ => tag == standard "float"
  | .text _ => tag == standard "str"
  | .moment => tag == standard "timestamp"
  | .list _ => tag == standard "seq"
  | .mapping _ => tag == standard "map"

/-- The value of a scalar. A scalar with a tag must have the form of the tag's type. -/
def ofScalar (tag : Option Text) (implicit : Bool) (t : Text) : Except Error Value :=
  match tag with
  | none => if implicit then ofPlain t else return .text t
  | some tag =>
    if tag = standard "str" then return .text t
    else if tag = standard "null" then return .null
    else do
      let v ← ofPlain t
      if v.hasType tag then return v else throw .malformed

/-! ## Collections -/

abbrev Deep := Except (Nat × Error)

/-- Two values; of two faults the shallower one, and the first of two at one depth. -/
def both {α β γ : Type} (f : α → β → γ) : Deep α → Deep β → Deep γ
  | .ok a, .ok b => .ok (f a b)
  | .error e, .ok _ => .error e
  | .ok _, .error e => .error e
  | .error (d, e), .error (d', e') => if d' < d then .error (d', e') else .error (d, e)

def isMerge : Node → Bool
  | .scalar none true t => t == ['<', '<']
  | .scalar (some tag) _ _ => tag == standard "merge"
  | _ => false

/-- The pairs of a mapping, those merged in first. `fuel` bounds the depth. -/
def flatten : (fuel : Nat) → List (Node × Node) → Except Error (List (Node × Node))
  | 0, _ => throw .malformed
  | fuel + 1, pairs => do
    let merged ← (pairs.filter fun (key, _) => isMerge key).mapM fun (_, value) =>
      match value with
      | .mapping _ inner => flatten fuel inner
      | .sequence _ items => do
        let all ← items.mapM fun item =>
          match item with
          | .mapping _ inner => flatten fuel inner
          | _ => throw .malformed
        return all.reverse.flatten
      | _ => throw .malformed
    return merged.flatten ++ pairs.filter fun (key, _) => !isMerge key

/-- The value of a key, which is a scalar; the sign for a default value is text here. -/
def ofKey : Node → Except Error Value
  | .scalar tag implicit t => if implicit && t = ['='] then return .text t else ofScalar tag implicit t
  | _ => throw .malformed

/-- The value of a node at a depth. `fuel` bounds the depth that is left. -/
def ofNode : (fuel depth : Nat) → Node → Deep Value
  | 0, depth, _ => .error (depth, .malformed)
  | _ + 1, depth, .scalar tag implicit t => (ofScalar tag implicit t).mapError (depth, ·)
  | _ + 1, _, .cycle => .ok (.list [])
  | fuel + 1, depth, .sequence tag items =>
    if tag.all (· == standard "seq") then
      (items.foldr (fun item rest => both (· :: ·) (ofNode fuel (depth + 1) item) rest) (.ok [])).map .list
    else .error (depth, .malformed)
  | fuel + 1, depth, .mapping tag pairs =>
    if tag.all (· == standard "map") then
      match flatten (fuel + 1) pairs with
      | .error e => .error (depth + 1, e)
      | .ok pairs =>
        let values := pairs.foldr (fun (key, value) rest =>
          both (· :: ·) (both (·, ·) ((ofKey key).mapError (depth + 1, ·)) (ofNode fuel (depth + 1) value)) rest) (.ok [])
        values.map .mapping
    else .error (depth, .malformed)

def ofText (t : Text) : Except Error Value := do
  match ← Node.ofText t with
  | none => return .null
  | some n => (ofNode (t.length + 1) 0 n).mapError (·.2)

/-! ## Access -/

/-- The last value under a key of a mapping, and null where there is none. -/
def get (key : String) : Value → Value
  | .mapping pairs =>
    (pairs.reverse.findSome? fun (k, v) =>
      match k with
      | .text t => if t = key.toList then some v else none
      | _ => none).getD .null
  | _ => .null

/-- Whether a value says nothing: null, false, a zero, or empty. -/
def isVoid : Value → Bool
  | .null => true
  | .bool b => !b
  | .whole n => n == 0
  | .binary (.finite _ mantissa _) => mantissa == 0
  | .binary _ => false
  | .text t => t.isEmpty
  | .moment => false
  | .list items => items.isEmpty
  | .mapping pairs => pairs.isEmpty

end Value

end TypeSplit.Yaml
