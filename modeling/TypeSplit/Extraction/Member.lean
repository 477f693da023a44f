/-
  TypeSplit.Extraction.Member — carving the members of one type.

  The member sites of a type's body are judged in order. A site before the end of the member carved
  last is covered by it; a site inside a nested type belongs to that type; a site with the name of the
  type is a constructor, which may be left out. Any other site is carved from its line to the line
  where its block closes, or skipped with a warning if its block does not open and close inside the
  body.
-/

import TypeSplit.Declaration.MemberSite
import TypeSplit.Declaration.Preamble
import TypeSplit.Declaration.TypeSite
import TypeSplit.Source.Block
import TypeSplit.Source.Line

namespace TypeSplit

open TypeSplit.Declaration (TypeSite MemberSite)
open TypeSplit.Source (Delimiters lineOf lineStart? matchBlock?)

structure Member where
  name : Text
  signature : Text
  body : Text
  /-- The whole lines from the one where the member starts to the one where its body closes. -/
  fullText : Text
  exposed : Bool
  startLine : Nat
  endLine : Nat
  deriving DecidableEq, Repr

inductive Warning.Cause where
  | missingDelimiter
  | unmatchedType
  | memberOutsideType (owner : Text)
  | unmatchedMember (owner : Text)
  deriving DecidableEq, Repr

structure Warning where
  cause : Warning.Cause
  offset : Int
  line : Nat
  name : Text
  deriving DecidableEq, Repr

namespace Warning

def Cause.kind : Cause → Text
  | .missingDelimiter => "missing_delimiter".toList
  | .unmatchedType => "unmatched_type".toList
  | .memberOutsideType _ => "member_outside_type".toList
  | .unmatchedMember _ => "unmatched_member".toList

def message (w : Warning) : Text :=
  match w.cause with
  | .missingDelimiter => "No opening brace found for type ".toList ++ w.name
  | .unmatchedType => "Unmatched braces for type ".toList ++ w.name
  | .memberOutsideType owner => "Body of ".toList ++ owner ++ '.' :: w.name ++ " starts outside the type".toList
  | .unmatchedMember owner => "Unmatched braces for member ".toList ++ owner ++ '.' :: w.name

end Warning

namespace Extraction

/-- The text and its lines. The lines are those of the text, unless the caller has others. -/
structure Content where
  text : Text
  lines : List Text

def Content.ofText (t : Text) : Content := ⟨t, Source.lines t⟩

/-- Where the block of a site opens and where it closes, if both lie before `stop`. -/
def blockOf? (t : Text) (offset : Int) (stop : Nat) : Option (Nat × Nat) := do
  let opening ← Text.find? t '{' offset stop
  let close ← matchBlock? .braces t opening (some stop)
  some (opening, close)

structure Carved where
  site : MemberSite
  opening : Nat
  /-- The offset just past the body. -/
  close : Nat
  member : Member
  deriving DecidableEq, Repr

/-- The member declared at a site whose body goes from `opening` to `close`. -/
def memberAt (content : Content) (site : MemberSite) (opening close : Nat) : Member :=
  let startLine := lineOf content.text site.offset
  let endLine := lineOf content.text ((close : Int) - 1)
  let fullText := Text.join ['\n'] ((content.lines.take endLine).drop (startLine - 1))
  let column := site.offset - (lineStart? content.text startLine).getD 0
  let signatureEnd := (Text.find? fullText '{' (max column 0) fullText.length).getD fullText.length
  let signature := Text.strip (fullText.take signatureEnd)
  { name := site.name
    signature := signature
    body := (content.text.take close).drop opening
    fullText := fullText
    exposed := Declaration.isExposed signature
    startLine := startLine
    endLine := endLine }

inductive Verdict where
  | covered
  | nested (site : MemberSite)
  | constructor (site : MemberSite)
  | skipped (warning : Warning)
  | carved (result : Carved)
  deriving DecidableEq, Repr

def Verdict.carved? : Verdict → Option Carved
  | .carved c => some c
  | _ => none

def Verdict.warning? : Verdict → Option Warning
  | .skipped w => some w
  | _ => none

/-- The body of a type: its owner, the brace that opens it and the brace that closes it. -/
structure Body where
  owner : TypeSite
  opening : Nat
  stop : Nat
  /-- Offsets covered by types declared inside the body. -/
  nested : List (Int × Nat)

/-- The verdict on one site when everything before `resume` is carved. -/
def judge (withConstructors : Bool) (content : Content) (body : Body) (resume : Nat) (site : MemberSite) :
    Verdict :=
  if site.offset < resume then .covered
  else if body.nested.any fun (start, stop) => start ≤ site.offset && site.offset < stop then .nested site
  else if !withConstructors && site.name == body.owner.name then .constructor site
  else
    let warn (cause : Warning.Cause) : Verdict :=
      .skipped ⟨cause, site.offset, lineOf content.text site.offset, site.name⟩
    match Text.find? content.text '{' site.offset body.stop with
    | none => warn (.memberOutsideType body.owner.name)
    | some opening =>
      match matchBlock? .braces content.text opening (some body.stop) with
      | none => warn (.unmatchedMember body.owner.name)
      | some close => .carved ⟨site, opening, close, memberAt content site opening close⟩

/-- The verdicts on a list of sites when everything before `resume` is carved. -/
def verdicts (withConstructors : Bool) (content : Content) (body : Body) : (resume : Nat) → List MemberSite →
    List Verdict
  | _, [] => []
  | resume, site :: rest =>
    let verdict := judge withConstructors content body resume site
    verdict :: verdicts withConstructors content body ((verdict.carved?.map (·.close)).getD resume) rest

end Extraction

end TypeSplit
