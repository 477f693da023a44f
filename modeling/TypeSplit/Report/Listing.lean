/-
  TypeSplit.Report.Listing — the types and members of a file, as text.
-/

import TypeSplit.Extraction.Trace
import TypeSplit.Report.Summary

namespace TypeSplit.Report

open TypeSplit.Text (decimal)

def lineRange (first last : Nat) : Text := "(lines ".toList ++ decimal first ++ '-' :: decimal last

def memberLine (m : Member) : Text :=
  line ([' ', ' ', if m.exposed then '+' else '-', ' '] ++ m.name ++ ' ' :: lineRange m.startLine m.endLine ++ [')'])

def typeText (d : TypeDeclaration) : Text :=
  line [] ++
  line (d.visibility.keyword ++ ' ' :: d.keyword ++ ' ' :: d.name ++ ' ' :: lineRange d.startLine d.endLine ++
    ", ".toList ++ decimal d.members.length ++ " members)".toList) ++
  d.members.flatMap memberLine

/-- What was found in a file, or in a text that has no file. -/
def listing (file : Option Path) (e : Extraction) : Text :=
  line ("File: ".toList ++ (match file with
    | some path => path.name
    | none => "(text)".toList)) ++
  line ("Namespace: ".toList ++ Extraction.orNone e.namespaceName) ++
  line ("Using directives: ".toList ++ decimal e.usings.length) ++
  line ("Types found: ".toList ++ decimal e.types.length) ++
  e.types.flatMap typeText ++
  skippedText (e.warnings.map .ofWarning)

end TypeSplit.Report
