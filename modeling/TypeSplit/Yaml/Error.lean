/-
  TypeSplit.Yaml.Error — why a text has no YAML value.
-/

import TypeSplit.Text.Digit
import TypeSplit.Text.Quoted

namespace TypeSplit.Yaml

inductive DateFault where
  | year (n : Nat)
  | month
  | day
  | hour
  | minute
  | second
  | zone (days seconds : Int)
  deriving DecidableEq, Repr

def DateFault.message : DateFault → Text
  | .year n => "year ".toList ++ Text.decimal n ++ " is out of range".toList
  | .month => "month must be in 1..12".toList
  | .day => "day is out of range for month".toList
  | .hour => "hour must be in 0..23".toList
  | .minute => "minute must be in 0..59".toList
  | .second => "second must be in 0..59".toList
  | .zone days seconds =>
    "offset must be a timedelta strictly between -timedelta(hours=24) and timedelta(hours=24), not datetime.timedelta(".toList ++
      "days=".toList ++ Text.decimalInt days ++
      (if seconds = 0 then [] else ", seconds=".toList ++ Text.decimalInt seconds) ++ [')', '.']

inductive Error where
  /-- The text is not one document of values that can be built. -/
  | malformed
  /-- An escape names a code point past the last one. -/
  | noCharacter
  /-- An escape names a number too large for a code point. -/
  | noCodePoint
  | badWhole (base : Nat) (digits : Text)
  | tooManyDigits (count : Nat)
  | tooLargeForBinary
  | badDate (fault : DateFault)
  deriving DecidableEq, Repr

def Error.message : Error → Text
  | .malformed => "malformed".toList
  | .noCharacter => "chr() arg not in range(0x110000)".toList
  | .noCodePoint => "Python int too large to convert to C int".toList
  | .badWhole base digits =>
    "invalid literal for int() with base ".toList ++ Text.decimal base ++ ':' :: ' ' :: Text.quoted digits
  | .tooManyDigits count =>
    "Exceeds the limit (4300 digits) for integer string conversion: value has ".toList ++ Text.decimal count ++
      " digits; use sys.set_int_max_str_digits() to increase the limit".toList
  | .tooLargeForBinary => "int too large to convert to float".toList
  | .badDate fault => fault.message

end TypeSplit.Yaml
