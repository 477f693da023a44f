/-
  TypeSplit.Splitting.Document — the file that declares one part of a type.

  A part repeats the using directives and the namespace of its source, then opens the type with a partial
  header and holds the members of its group. Every line of a member is indented by one unit, whatever its
  indentation was; one empty line stands between members.
-/

import TypeSplit.Extraction.Basic
import TypeSplit.NamePattern.Basic
import TypeSplit.Splitting.Header

namespace TypeSplit.Splitting

def indentLine (unit line : Text) : Text :=
  if (Text.strip line).isEmpty then [] else unit ++ Text.stripEndOf '\r' (Text.stripStart line)

def indent (unit t : Text) : List Text := (Text.splitOn '\n' t).map (indentLine unit)

/-- The lines of the members, with an empty line between neighbours. -/
def memberLines (unit : Text) (members : List Text) : List Text :=
  List.intercalate [[]] (members.map (indent unit))

structure Style where
  indentUnit : Text := "    ".toList
  filePattern : Text := "\x7btype\x7d_Part\x7bpart\x7d\x7bext\x7d".toList
  extension : Text := ".cs".toList
  deriving DecidableEq, Repr

structure Document where
  typeName : Text
  part : Int
  fileName : Text
  lines : List Text
  deriving DecidableEq, Repr

inductive RenderError where
  | pattern (e : NamePattern.Error)
  | template (e : TemplateError)

variable [NamePattern.Objects]

/-- The name of the file of a part, in code points. -/
def Style.name (s : Style) (typeName : Text) (part : Int) : Except NamePattern.Error (List CodePoint) :=
  NamePattern.fill s.filePattern ⟨typeName, part, s.extension⟩

/-- The name of the file of a part, as a path takes it. -/
def Style.fileName (s : Style) (typeName : Text) (part : Int) : Except NamePattern.Error Text :=
  (s.name typeName part).map CodePoint.text

/-- The lines in front of the header: using directives and namespace, each followed by an empty line. -/
def preamble (usings : List Text) (d : TypeDeclaration) : List Text :=
  let usings := if usings.isEmpty then d.usings else usings
  (if usings.isEmpty then [] else usings ++ [[]]) ++
    if (Text.strip d.namespaceName).isEmpty then []
    else ["namespace ".toList ++ d.namespaceName ++ [';'], []]

def partLines (unit : Text) (usings : List Text) (d : TypeDeclaration) (header : Text) (group : List Member) :
    List Text :=
  preamble usings d ++ [header, ['{']] ++ memberLines unit (group.map (·.fullText)) ++ [['}']]

def render (s : Style) (usings : List Text) (d : TypeDeclaration) (group : List Member) :
    Except TemplateError (List Text) :=
  (partialHeader d.header d.keyword).map fun header => partLines s.indentUnit usings d header group

def document (s : Style) (usings : List Text) (d : TypeDeclaration) (group : List Member) (part : Int) :
    Except RenderError Document := do
  let fileName ← (s.fileName d.name part).mapError .pattern
  let lines ← (render s usings d group).mapError .template
  return ⟨d.name, part, fileName, lines⟩

end TypeSplit.Splitting
