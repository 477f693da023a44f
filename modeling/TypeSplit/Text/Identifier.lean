/-
  TypeSplit.Text.Identifier — the texts that are identifiers.
-/

import TypeSplit.Text.Basic
import TypeSplit.Text.IdentifierTable

namespace TypeSplit.Text

def isIdentifierStart (c : Char) : Bool :=
  if c.toNat < 0x80 then c.isAlpha || c == '_' else inRanges c.toNat identifierStartRanges

def isIdentifierRest (c : Char) : Bool :=
  if c.toNat < 0x80 then c.isAlphanum || c == '_' else inRanges c.toNat identifierRestRanges

/-- A letter or underscore, then letters, digits, marks and connectors. -/
def isIdentifier : Text → Bool
  | [] => false
  | c :: rest => isIdentifierStart c && rest.all isIdentifierRest

end TypeSplit.Text
