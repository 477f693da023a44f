/-
  TypeSplit.Extraction.Trace — the decisions of an extraction, one line each.
-/

import TypeSplit.Extraction.Basic
import TypeSplit.Text.Digit

namespace TypeSplit.Extraction

open TypeSplit.Text (decimal)

/-- The text, or `(none)` in place of an empty one. -/
def orNone (t : Text) : Text := if t.isEmpty then "(none)".toList else t

def Verdict.trace? (owner : Text) : Verdict → Option Text
  | .nested site =>
    some ("Skipping ".toList ++ owner ++ '.' :: site.name ++ ": belongs to a nested type".toList)
  | .constructor site => some ("Skipping constructor ".toList ++ owner ++ '.' :: site.name)
  | _ => none

def parsedLine (d : TypeDeclaration) : Text :=
  "Parsed type ".toList ++ d.name ++ " (lines ".toList ++ decimal d.startLine ++ '-' :: decimal d.endLine ++
    ", ".toList ++ decimal d.members.length ++ " members)".toList

def Outcome.trace (t namespaceName : Text) : Outcome → List Text
  | .skipped _ => []
  | .resolved body verdicts =>
    verdicts.filterMap (Verdict.trace? body.owner.name) ++ [parsedLine (declare t namespaceName body verdicts)]

def trace (e : Extraction) : List Text :=
  ("Namespace: ".toList ++ orNone e.namespaceName ++ "; ".toList ++ decimal e.usings.length ++
      " using directives".toList) ::
    ("Found ".toList ++ decimal e.outcomes.length ++ " type declaration sites".toList) ::
    e.outcomes.flatMap (Outcome.trace e.content.text e.namespaceName)

end TypeSplit.Extraction
