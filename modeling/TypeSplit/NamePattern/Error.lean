/-
  TypeSplit.NamePattern.Error — why a name pattern cannot be filled in.
-/

import TypeSplit.Text.CodePoint
import TypeSplit.Text.Quoted

namespace TypeSplit.NamePattern

open TypeSplit.Text (decimal hex quoted)

/-- The kinds of values that have formats of their own. -/
inductive Kind where
  | text
  | number
  deriving DecidableEq, Repr

def Kind.name : Kind → Text
  | .text => "str".toList
  | .number => "int".toList

inductive Fault where
  | singleClose
  | singleOpen
  | openInName
  | noConversion
  | noColon
  | openFormat
  | openField
  | emptyAttribute
  | openBracket
  | afterBracket
  | nestedTooDeep
  | tooManyDigits
  | unknownConversion (c : Char)
  | badFormat (format : List CodePoint) (kind : Kind)
  | bothSeparators
  | separatorWith (separator : Char) (code : CodePoint)
  | noPrecision
  | precisionInInteger
  | precisionTooBig
  | zeroInInteger
  | signWithCharacter
  | alternateWithCharacter
  | spaceInText
  | signInText
  | zeroInText
  | alternateInText
  | equalsInText
  | unknownCode (code : CodePoint) (kind : Kind)
  | tooLong
  deriving DecidableEq, Repr

/-- A code point as itself if it is visible ASCII, else by its number. -/
def visible (c : CodePoint) (last : Nat) : Text :=
  if 32 < c.toNat && c.toNat < last then [c.toChar] else '\\' :: 'x' :: hex 1 c.toNat

def Fault.message : Fault → Text
  | .singleClose => "Single '\x7d' encountered in format string".toList
  | .singleOpen => "Single '\x7b' encountered in format string".toList
  | .openInName => "unexpected '\x7b' in field name".toList
  | .noConversion => "end of string while looking for conversion specifier".toList
  | .noColon => "expected ':' after conversion specifier".toList
  | .openFormat => "unmatched '\x7b' in format spec".toList
  | .openField => "expected '\x7d' before end of string".toList
  | .emptyAttribute => "Empty attribute in format string".toList
  | .openBracket => "Missing ']' in format string".toList
  | .afterBracket => "Only '.' or '[' may follow ']' in format field specifier".toList
  | .nestedTooDeep => "Max string recursion exceeded".toList
  | .tooManyDigits => "Too many decimal digits in format string".toList
  | .unknownConversion c => "Unknown conversion specifier ".toList ++ visible (.char c) 127
  | .badFormat format kind =>
    "Invalid format specifier '".toList ++ CodePoint.text format ++ "' for object of type '".toList ++ kind.name ++ ['\'']
  | .bothSeparators => "Cannot specify both ',' and '_'.".toList
  | .separatorWith separator code =>
    "Cannot specify '".toList ++ separator :: "' with '".toList ++ visible code 128 ++ "'.".toList
  | .noPrecision => "Format specifier missing precision".toList
  | .precisionInInteger => "Precision not allowed in integer format specifier".toList
  | .precisionTooBig => "precision too big".toList
  | .zeroInInteger => "Negative zero coercion (z) not allowed in integer format specifier".toList
  | .signWithCharacter => "Sign not allowed with integer format specifier 'c'".toList
  | .alternateWithCharacter => "Alternate form (#) not allowed with integer format specifier 'c'".toList
  | .spaceInText => "Space not allowed in string format specifier".toList
  | .signInText => "Sign not allowed in string format specifier".toList
  | .zeroInText => "Negative zero coercion (z) not allowed in string format specifier".toList
  | .alternateInText => "Alternate form (#) not allowed in string format specifier".toList
  | .equalsInText => "'=' alignment not allowed in string format specifier".toList
  | .unknownCode code kind =>
    "Unknown format code '".toList ++ visible code 128 ++ "' for object of type '".toList ++ kind.name ++ ['\'']
  | .tooLong =>
    "Exceeds the limit (4300 digits) for integer string conversion; use sys.set_int_max_str_digits() to increase the limit".toList

inductive Category where
  | form
  | name
  | index
  | operand
  | attribute
  | magnitude
  | memory
  | other
  deriving DecidableEq, Repr

inductive Error where
  | malformed (fault : Fault)
  | unknownField (name : Text)
  /-- Fields have names; a number finds none. -/
  | noPosition (index : Nat)
  | indexOutOfRange
  | indexNotWhole
  | noElements (subject : Text)
  | noAttribute (subject name : Text)
  | noFormat (typeName : Text)
  | characterRange
  | characterTooLarge
  | tooLargeForBinary
  | noMemory
  /-- The error of an object that is neither text nor number. -/
  | foreign (category : Category) (text : Text)
  deriving DecidableEq, Repr

namespace Error

def category : Error → Category
  | .malformed _ => .form
  | .unknownField _ => .name
  | .noPosition _ => .index
  | .indexOutOfRange => .index
  | .indexNotWhole => .operand
  | .noElements _ => .operand
  | .noAttribute .. => .attribute
  | .noFormat _ => .operand
  | .characterRange => .magnitude
  | .characterTooLarge => .magnitude
  | .tooLargeForBinary => .magnitude
  | .noMemory => .memory
  | .foreign category _ => category

def message : Error → Text
  | .malformed fault => fault.message
  | .unknownField name => quoted name
  | .noPosition index =>
    "Replacement index ".toList ++ decimal index ++ " out of range for positional args tuple".toList
  | .indexOutOfRange => "string index out of range".toList
  | .indexNotWhole => "string indices must be integers, not 'str'".toList
  | .noElements subject => subject ++ " is not subscriptable".toList
  | .noAttribute subject name => subject ++ " has no attribute '".toList ++ name ++ ['\'']
  | .noFormat typeName => "unsupported format string passed to ".toList ++ typeName ++ ".__format__".toList
  | .characterRange => "%c arg not in range(0x110000)".toList
  | .characterTooLarge => "Python int too large to convert to C long".toList
  | .tooLargeForBinary => "int too large to convert to float".toList
  | .noMemory => []
  | .foreign _ text => text

end Error

end TypeSplit.NamePattern
