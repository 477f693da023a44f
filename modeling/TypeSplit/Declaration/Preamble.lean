/-
  TypeSplit.Declaration.Preamble — what a file says before and around its types: namespace, using
  directives, visibility.
-/

import TypeSplit.Declaration.Modifier

namespace TypeSplit.Declaration

open TypeSplit.Text (isBlank isWord)

/-! ## Namespace -/

def endsNamespace (c : Char) : Bool := c == ';' || c == '{' || isBlank c

def namespaceHere? (t : Text) : Option Text := do
  let t ← "namespace".toList.isPrefixOf? t
  let t ← blanks? t
  let name := t.takeWhile (!endsNamespace ·)
  if name.isEmpty then none else some name

/-- The name in the first namespace declaration of a text that follows the character `before`. -/
def namespaceAfter? (before : Option Char) : Text → Option Text
  | [] => none
  | c :: rest =>
    if before.any isWord then namespaceAfter? (some c) rest
    else (namespaceHere? (c :: rest)).or (namespaceAfter? (some c) rest)

/-- The first declared namespace, or the empty text. -/
def namespaceOf (t : Text) : Text := (namespaceAfter? none t).getD []

/-! ## Using directives -/

def isUsing (line : Text) : Bool :=
  let line := Text.strip line
  Text.startsWith line "using ".toList && Text.endsWith line ';'

/-- A line that may stand between using directives: blank, or a line comment. -/
def isBetweenUsings (line : Text) : Bool :=
  let line := Text.strip line
  line.isEmpty || Text.startsWith line "//".toList

/-- The using directives at the top of a file, up to the first line of any other kind. -/
def usings : List Text → List Text
  | [] => []
  | line :: rest =>
    if isUsing line then line :: usings rest
    else if isBetweenUsings line then usings rest
    else []

/-! ## Visibility -/

inductive Visibility where
  | pub
  | priv
  | prot
  | internal
  deriving DecidableEq, Repr

def Visibility.keyword : Visibility → Text
  | .pub => "public".toList
  | .priv => "private".toList
  | .prot => "protected".toList
  | .internal => "internal".toList

/-- The visibility that a header names; the first of public, private and protected that stands in it as
a token, and internal if none does. -/
def visibilityOf (header : Text) : Visibility :=
  ([.pub, .priv, .prot].find? fun v => Text.hasToken (Visibility.keyword v) header).getD .internal

def isExposed (signature : Text) : Bool := Text.hasToken Visibility.pub.keyword signature

end TypeSplit.Declaration
