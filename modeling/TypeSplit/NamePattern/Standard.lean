/-
  TypeSplit.NamePattern.Standard — the objects that patterns are known to ask for.

  Texts and numbers have operations, a class and a documentation, and numbers have the parts that every number has. An
  operation knows its name and what it is bound to, and a class what is written of it. Nothing else is there.
-/

import TypeSplit.NamePattern.Value

namespace TypeSplit.NamePattern.Standard

def textOperations : List String := [
  "__dir__", "__format__", "__getnewargs__", "__getstate__", "__reduce__", "__reduce_ex__", "__sizeof__",
  "capitalize", "casefold", "center", "count", "encode", "endswith", "expandtabs", "find", "format",
  "format_map", "index", "isalnum", "isalpha", "isascii", "isdecimal", "isdigit", "isidentifier", "islower",
  "isnumeric", "isprintable", "isspace", "istitle", "isupper", "join", "ljust", "lower", "lstrip",
  "partition", "removeprefix", "removesuffix", "replace", "rfind", "rindex", "rjust", "rpartition", "rsplit",
  "rstrip", "split", "splitlines", "startswith", "strip", "swapcase", "title", "translate", "upper", "zfill"]

def numberOperations : List String := [
  "__ceil__", "__dir__", "__floor__", "__format__", "__getnewargs__", "__getstate__", "__reduce__", "__reduce_ex__",
  "__round__", "__sizeof__", "__trunc__", "as_integer_ratio", "bit_count", "bit_length", "conjugate", "to_bytes"]

def operations : Kind → List String
  | .text => textOperations
  | .number => numberOperations

/-- The operations behind the operators. -/
def wrappers : Kind → List String
  | .text => [
    "__add__", "__contains__", "__delattr__", "__eq__", "__ge__", "__getattribute__", "__getitem__", "__gt__", "__hash__",
    "__init__", "__iter__", "__le__", "__len__", "__lt__", "__mod__", "__mul__", "__ne__", "__repr__", "__rmod__",
    "__rmul__", "__setattr__", "__str__"]
  | .number => [
    "__abs__", "__add__", "__and__", "__bool__", "__delattr__", "__divmod__", "__eq__", "__float__", "__floordiv__",
    "__ge__", "__getattribute__", "__gt__", "__hash__", "__index__", "__init__", "__int__", "__invert__", "__le__",
    "__lshift__", "__lt__", "__mod__", "__mul__", "__ne__", "__neg__", "__or__", "__pos__", "__pow__", "__radd__",
    "__rand__", "__rdivmod__", "__repr__", "__rfloordiv__", "__rlshift__", "__rmod__", "__rmul__", "__ror__",
    "__rpow__", "__rrshift__", "__rshift__", "__rsub__", "__rtruediv__", "__rxor__", "__setattr__", "__str__",
    "__sub__", "__truediv__", "__xor__"]

def isWrapper (name : Text) : Bool := (wrappers .text ++ wrappers .number).contains (String.ofList name)

/-- The operations that are bound to the class, whichever value they are asked of. -/
def classOperations : Kind → List String
  | .text => ["__init_subclass__", "__new__", "__subclasshook__", "maketrans"]
  | .number => ["__init_subclass__", "__new__", "__subclasshook__", "from_bytes"]

def documentation : Kind → Text
  | .text => Text.join ['\n'] <| List.map String.toList [
    "str(object='') -> str",
    "str(bytes_or_buffer[, encoding[, errors]]) -> str",
    "",
    "Create a new string object from the given object. If encoding or",
    "errors is specified, then the object must expose a data buffer",
    "that will be decoded using the given encoding and error handler.",
    "Otherwise, returns the result of object.__str__() (if defined)",
    "or repr(object).",
    "encoding defaults to sys.getdefaultencoding().",
    "errors defaults to 'strict'."]
  | .number => Text.join ['\n'] <| List.map String.toList [
    "int([x]) -> integer",
    "int(x, base=10) -> integer",
    "",
    "Convert a number or string to an integer, or return 0 if no arguments",
    "are given.  If x is a number, return x.__int__().  For floating point",
    "numbers, this truncates towards zero.",
    "",
    "If x is not a number or if base is given, then x must be a string,",
    "bytes, or bytearray instance representing an integer literal in the",
    "given base.  The literal can be preceded by '+' or '-' and be surrounded",
    "by whitespace.  The base defaults to 10.  Valid bases are 0 and 2-36.",
    "Base 0 means to interpret the base from the string as an integer literal.",
    ">>> int('0b100', base=0)",
    "4"]

def addressOf : Kind → Nat
  | .text => 0
  | .number => 1

def kindAt (address : Nat) : Kind := if address = addressOf .text then .text else .number

/-- What is written of the class of a kind of values. -/
def classParts (kind : Kind) : List (String × Value) := [
  ("__name__", .text kind.name),
  ("__qualname__", .text kind.name),
  ("__module__", .text "builtins".toList),
  ("__doc__", .text (documentation kind)),
  ("__flags__", .number (match kind with | .text => 273159424 | .number => 21501184)),
  ("__basicsize__", .number (match kind with | .text => 80 | .number => 24)),
  ("__itemsize__", .number (match kind with | .text => 0 | .number => 4)),
  ("__dictoffset__", .number 0),
  ("__weakrefoffset__", .number 0)]

def typeName : Shape → Text
  | .text => Kind.text.name
  | .number => Kind.number.name
  | .operation _ name => (if isWrapper name then "method-wrapper" else "builtin_function_or_method").toList
  | .object _ => "type".toList

/-- How an error speaks of a value whose attribute or element is missing. -/
def subject (word : Text) : Shape → Text
  | .object address => word ++ " '".toList ++ (kindAt address).name ++ ['\'']
  | s => '\'' :: typeName s ++ "' object".toList

def member? (kind : Kind) (name : Text) : Option Reach :=
  let own := Value.object (addressOf kind)
  if name = "__class__".toList then some (.constant own)
  else if name = "__doc__".toList then some (.constant (.text (documentation kind)))
  else if (classOperations kind).contains (String.ofList name) then some (.constant (.operation own name))
  else if (operations kind ++ wrappers kind).contains (String.ofList name) then some (.operation name)
  else none

def part? (name : Text) : Option Reach :=
  if name = "real".toList || name = "numerator".toList then some .itself
  else if name = "imag".toList then some (.constant (.number 0))
  else if name = "denominator".toList then some (.constant (.number 1))
  else none

def reach? : Shape → Text → Option Reach
  | .text, name => member? .text name
  | .number, name => part? name <|> member? .number name
  | .operation _ own, name =>
    if name = "__self__".toList then some .receiver
    else if name = "__name__".toList then some (.constant (.text own))
    else none
  | .object address, name => ((classParts (kindAt address)).lookup (String.ofList name)).map .constant

def reach (s : Shape) (name : Text) : Except Error Reach :=
  match reach? s name with
  | some r => .ok r
  | none => .error (.noAttribute (subject "type object".toList s) name)

def refusal? (s : Shape) : Manner → Option Error
  | .conversion _ => none
  | .format f => if f.isEmpty then none else some (.noFormat (typeName s))

def shown : Value → Text
  | .operation receiver name =>
    let place := " of ".toList ++ typeName receiver.shape ++ " object at 0x0>".toList
    if isWrapper name then "<method-wrapper '".toList ++ name ++ '\'' :: place else "<built-in method ".toList ++ name ++ place
  | .object address => "<class '".toList ++ (kindAt address).name ++ "'>".toList
  | _ => []

instance objects : Objects where
  reach := reach
  element s _ := .error (.noElements (subject "type".toList s))
  refusal? := refusal?
  shown v _ := shown v
  room := 0xFFFFFFFF

end TypeSplit.NamePattern.Standard
