/-
  TypeSplit.Extraction.Basic — the types of a text, each with its members.

  Every type site gives one outcome: a body with the verdicts on its member sites, or a warning. Which
  sites there are is the scanner's business; the extraction works for any list of them.
-/

import TypeSplit.Extraction.Member

namespace TypeSplit

open TypeSplit.Declaration (TypeSite MemberSite Visibility)
open TypeSplit.Source (lineOf matchBlock?)

structure TypeDeclaration where
  name : Text
  namespaceName : Text
  visibility : Visibility
  header : Text
  keyword : Text
  members : List Member
  startLine : Nat
  endLine : Nat
  /-- Using directives of its own, for a file that has none. -/
  usings : List Text := []
  deriving DecidableEq, Repr

def TypeDeclaration.memberNames (d : TypeDeclaration) : List Text := d.members.map (·.name)

namespace Extraction

/-- What proposes the sites of a text. -/
structure Scanner where
  typeSites : Text → List TypeSite
  memberSites : Text → (start stop : Nat) → List MemberSite

inductive Scanner.Error where
  | noKeyword

def Scanner.Error.message : Scanner.Error → String
  | .noKeyword => "At least one type keyword is required"

def Scanner.ofKeywords (keywords : List Text) (withProperties : Bool) : Except Scanner.Error Scanner :=
  if keywords.isEmpty then .error .noKeyword
  else .ok ⟨Declaration.typeSites keywords, Declaration.memberSites withProperties⟩

def defaultKeywords : List Text := ["class".toList, "struct".toList]

inductive Outcome where
  | skipped (warning : Warning)
  | resolved (body : Body) (verdicts : List Verdict)

/-- The offsets covered by the types that are declared between two offsets and closed before the second. -/
def nestedSpans (t : Text) (sites : List TypeSite) (start stop : Nat) : List (Int × Nat) :=
  sites.filterMap fun site =>
    if (start : Int) < site.offset ∧ site.offset < (stop : Int) then
      (blockOf? t site.offset stop).map fun (_, close) => (site.offset, close)
    else none

def resolve (scanner : Scanner) (withConstructors : Bool) (content : Content) (sites : List TypeSite)
    (site : TypeSite) : Outcome :=
  let t := content.text
  let warn (cause : Warning.Cause) : Outcome := .skipped ⟨cause, site.offset, lineOf t site.offset, site.name⟩
  match Text.find? t '{' site.offset t.length with
  | none => warn .missingDelimiter
  | some opening =>
    match matchBlock? .braces t opening none with
    | none => warn .unmatchedType
    | some close =>
      let stop := close - 1
      let body : Body := ⟨site, opening, stop, nestedSpans t sites opening stop⟩
      .resolved body (verdicts withConstructors content body opening (scanner.memberSites t opening stop))

def declare (t : Text) (namespaceName : Text) (body : Body) (verdicts : List Verdict) : TypeDeclaration :=
  let header := Text.strip (Text.slice t body.owner.offset body.opening)
  { name := body.owner.name
    namespaceName := namespaceName
    visibility := Declaration.visibilityOf header
    header := header
    keyword := body.owner.keyword
    members := verdicts.filterMap fun v => v.carved?.map (·.member)
    startLine := lineOf t body.owner.offset
    endLine := lineOf t body.stop }

end Extraction

structure Extraction where
  content : Extraction.Content
  namespaceName : Text
  usings : List Text
  outcomes : List Extraction.Outcome

namespace Extraction

def run (scanner : Scanner) (withConstructors : Bool) (content : Content) : Extraction :=
  let sites := scanner.typeSites content.text
  { content := content
    namespaceName := Declaration.namespaceOf content.text
    usings := Declaration.usings content.lines
    outcomes := sites.map (resolve scanner withConstructors content sites) }

def Outcome.declaration? (t namespaceName : Text) : Outcome → Option TypeDeclaration
  | .skipped _ => none
  | .resolved body verdicts => some (declare t namespaceName body verdicts)

def Outcome.warnings : Outcome → List Warning
  | .skipped w => [w]
  | .resolved _ verdicts => verdicts.filterMap Verdict.warning?

/-- The resolved types, in the order of their headers. -/
def types (e : Extraction) : List TypeDeclaration :=
  e.outcomes.filterMap (Outcome.declaration? e.content.text e.namespaceName)

def warnings (e : Extraction) : List Warning := e.outcomes.flatMap Outcome.warnings

end Extraction

end TypeSplit
