/-
  TypeSplit.Run.Error — why a run ends before it is done.
-/

import TypeSplit.Files.Error
import TypeSplit.Number.Text
import TypeSplit.Run.Request
import TypeSplit.Splitting.Document
import TypeSplit.Splitting.Group

namespace TypeSplit.Run

open TypeSplit.Number (Binary64)

inductive Error where
  | sourceMissing (source : Path)
  | sourceTooLarge (size limit : Binary64)
  | typeMissing (name : Text)
  | directoryMissing (directory : Path)
  | directoryFailed (directory : Path) (e : Files.Error)
  | writeFailed (target : Path) (e : Files.Error)
  | count (e : Request.CountError)
  | sizeOverflow
  | grouping (e : Splitting.GroupingError)
  | rendering (e : Splitting.RenderError)
  | file (e : Files.Error)

namespace Error

/-- Whether the error is one that a run can run into, and not a fault in what it was given. -/
def isExpected : Error → Bool
  | .sourceMissing _ => true
  | .sourceTooLarge .. => true
  | .typeMissing _ => true
  | .directoryMissing _ => true
  | .directoryFailed .. => true
  | .writeFailed .. => true
  | _ => false

def message : Error → Text
  | .sourceMissing source => "File not found: ".toList ++ source.text
  | .sourceTooLarge size limit =>
    "File size (".toList ++ Number.fixed 2 false size ++ " MB) exceeds maximum allowed size (".toList ++
      Number.general 'e' 6 false limit ++ " MB)".toList
  | .typeMissing name => "Type '".toList ++ name ++ "' not found in the file.".toList
  | .directoryMissing directory => "Output directory does not exist: ".toList ++ directory.text
  | .directoryFailed directory e =>
    "Could not create output directory ".toList ++ directory.text ++ ':' :: ' ' :: e.message
  | .writeFailed target e => "Could not write ".toList ++ target.text ++ ':' :: ' ' :: e.message
  | .count e => e.message
  | .sizeOverflow => "integer division result too large for a float".toList
  | .grouping e => e.message.toList
  | .rendering (.pattern e) => e.message
  | .rendering (.template e) => e.message
  | .file e => e.message

end Error

end TypeSplit.Run
