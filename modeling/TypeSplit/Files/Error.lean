/-
  TypeSplit.Files.Error — why a file or a directory cannot be had.
-/

import TypeSplit.Encoding.Basic
import TypeSplit.Path

namespace TypeSplit.Files

inductive Cause where
  | missing
  | denied
  | present
  | notDirectory
  | directory
  | nameTooLong
  | other (code : Nat) (text : Text)
  deriving DecidableEq, Repr

def Cause.code : Cause → Nat
  | .missing => 2
  | .denied => 13
  | .present => 17
  | .notDirectory => 20
  | .directory => 21
  | .nameTooLong => 36
  | .other code _ => code

def Cause.text : Cause → Text
  | .missing => "No such file or directory".toList
  | .denied => "Permission denied".toList
  | .present => "File exists".toList
  | .notDirectory => "Not a directory".toList
  | .directory => "Is a directory".toList
  | .nameTooLong => "File name too long".toList
  | .other _ text => text

inductive Error where
  | system (cause : Cause) (path : Path)
  /-- A store that was told to refuse. -/
  | refused (path : Path)
  | undecodable (e : Encoding.DecodeError)
  | unencodable (e : Encoding.EncodeError)
  /-- A path with a zero character names nothing. -/
  | zeroInPath
  deriving DecidableEq, Repr

namespace Error

def message : Error → Text
  | .system cause path =>
    "[Errno ".toList ++ Text.decimal cause.code ++ ']' :: ' ' :: cause.text ++ ':' :: ' ' :: Text.quoted path.text
  | .refused path => "Permission denied: ".toList ++ path.text
  | .undecodable e => e.message
  | .unencodable e => e.message
  | .zeroInPath => "embedded null byte".toList

def isMissing : Error → Bool
  | .system .missing _ => true
  | _ => false

/-- Whether the error comes from the system that holds the files, and not from what is read or written. -/
def isSystem : Error → Bool
  | .system .. => true
  | .refused _ => true
  | _ => false

end Error

end TypeSplit.Files
