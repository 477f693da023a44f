/-
  TypeSplit.Splitting.Header — the header of a type as a header of a part of it.
-/

import TypeSplit.Splitting.Replacement
import TypeSplit.Text.Word

namespace TypeSplit.Splitting

def partialWord : Text := "partial".toList

/-- The header with `partial` in front of its first token equal to the keyword. A header that is partial
already stays as it is. The text put in is a template, so a backslash in the keyword begins an escape. -/
def partialHeader (header keyword : Text) : Except TemplateError Text :=
  if Text.hasToken partialWord header then .ok header
  else (template (partialWord ++ ' ' :: keyword)).map fun pieces =>
    match Text.splitToken? keyword none header with
    | some (before, after) => before ++ expand keyword pieces ++ after
    | none => header

end TypeSplit.Splitting
