/-
  TypeSplit.Yaml.Token — the tokens of a YAML text.

  Indentation becomes tokens: a block opens where a key or an entry stands further right than the block
  around it, and closes where a line stands further left. A key without a mark of its own is known only by
  the colon behind it, on the same line and within 1024 characters; so the place of each possible key is
  remembered, one for each level of brackets, and the key's tokens are put in there once the colon is seen.
  Between brackets indentation means nothing.
-/

import TypeSplit.Yaml.Scalar

namespace TypeSplit.Yaml

inductive Directive where
  | version (major : Nat)
  | tag (handle start : Text)
  | other
  deriving DecidableEq, Repr

inductive Token where
  | directive (d : Directive)
  | documentStart
  | documentEnd
  | blockSequenceStart
  | blockMappingStart
  | blockEnd
  | flowSequenceStart
  | flowSequenceEnd
  | flowMappingStart
  | flowMappingEnd
  | flowEntry
  | blockEntry
  | key
  | value
  | alias (name : Text)
  | anchor (name : Text)
  | tag (handle : Option Text) (suffix : Text)
  | scalar (text : Text) (plain : Bool)
  | streamEnd
  deriving DecidableEq, Repr

namespace Token

/-- A place where a key may turn out to begin. -/
structure PossibleKey where
  /-- How many tokens stand in front of it. -/
  position : Nat
  /-- Whether the text has no other reading. -/
  required : Bool
  index : Nat
  line : Nat
  column : Nat

structure State where
  mark : Mark
  tokens : Array Token
  /-- How many brackets are open. -/
  flow : Nat
  /-- The column of the block that is open, and those around it. -/
  indent : Int
  indents : List Int
  /-- Whether a key may begin here. -/
  allowKey : Bool
  /-- Possible keys, by the number of brackets open. -/
  keys : List (Nat × PossibleKey)

def State.ofText (t : Text) : State := ⟨.ofText t, #[], 0, -1, [], true, []⟩

namespace State

def inFlow (s : State) : Bool := s.flow != 0

def push (s : State) (t : Token) : State := { s with tokens := s.tokens.push t }

def allow (s : State) (b : Bool) : State := { s with allowKey := b }

def at_ (s : State) (m : Mark) : State := { s with mark := m }

/-! ## Possible keys -/

/-- The possible keys that are still on this line and near enough; a required one must be. -/
def dropStaleKeys (s : State) : Except Error State := do
  let isStale (k : PossibleKey) : Bool := k.line != s.mark.line || k.index + 1024 < s.mark.index
  if s.keys.any fun (_, k) => isStale k && k.required then throw .malformed
  return { s with keys := s.keys.filter fun (_, k) => !isStale k }

def removeKey (s : State) : Except Error State := do
  if s.keys.any fun (level, k) => level == s.flow && k.required then throw .malformed
  return { s with keys := s.keys.filter fun (level, _) => level != s.flow }

def saveKey (s : State) : Except Error State := do
  if s.allowKey then
    let required := !s.inFlow && s.indent == s.mark.column
    let s ← s.removeKey
    let key : PossibleKey := ⟨s.tokens.size, required, s.mark.index, s.mark.line, s.mark.column⟩
    return { s with keys := (s.flow, key) :: s.keys }
  else return s

/-! ## Indentation -/

/-- Closes the blocks to the right of a column. -/
def closeBlocks (s : State) (column : Int) : State :=
  if s.inFlow then s else go s.indent s.indents s.tokens
where
  go (indent : Int) (indents : List Int) (tokens : Array Token) : State :=
    if column < indent then
      match indents with
      | outer :: rest => go outer rest (tokens.push .blockEnd)
      | [] => { s with indent := -1, indents := [], tokens := tokens.push .blockEnd }
    else { s with indent := indent, indents := indents, tokens := tokens }

/-- Opens a block at a column, unless one is open there; says whether it did. -/
def openBlock (s : State) (column : Nat) : Bool × State :=
  if s.indent < column then (true, { s with indent := column, indents := s.indent :: s.indents })
  else (false, s)

def openBlockHere (s : State) (t : Token) : State :=
  let (opened, s) := s.openBlock s.mark.column
  if opened then s.push t else s

end State

/-! ## Tokens of each kind -/

/-- The place of the next token: after spaces, comments and line breaks. -/
def skipBlank (s : State) : (fuel : Nat) → State
  | 0 => s
  | fuel + 1 =>
    let m := s.mark.skipSpaces
    let m := if m.peek = some '#' then m.skipLine else m
    match m.lineBreak? with
    | some (_, m) => skipBlank { s with mark := m, allowKey := s.allowKey || !s.inFlow } fuel
    | none => s.at_ m

def directiveNumber (m : Mark) : Except Error (Nat × Mark) :=
  let (digits, m) := m.takeWhile Text.isAsciiDigit
  if digits.isEmpty then .error .malformed
  else .ok (Text.ofDigits 10 (digits.map fun c => c.toNat - 48), m)

/-- A handle of tags such as `!` or `!a!`, and the place after it. -/
def tagHandle (m : Mark) : Except Error (Text × Mark) :=
  match m.rest with
  | '!' :: rest =>
    if rest.head? = some ' ' then .ok (['!'], m.step)
    else
      let name := rest.takeWhile isNameChar
      if rest[name.length]? = some '!' then .ok ('!' :: name ++ ['!'], m.forward (name.length + 2))
      else .error .malformed
  | _ => .error .malformed

def isTagChar (c : Char) : Bool := c.isAlphanum || "-;/?:@&=+$,_.!~*'()[]%".toList.contains c

/-- The text of a tag with its percent escapes as they are, and the place after it. -/
def tagText (m : Mark) : Except Error (Text × Mark) :=
  let (t, m) := m.takeWhile isTagChar
  if t.isEmpty then .error .malformed else .ok (t, m)

def readDirective (m : Mark) : Except Error (Directive × Mark) := do
  let (name, m) := m.takeWhile isNameChar
  if name.isEmpty || !endsWord m.peek then throw .malformed
  let (d, m) ←
    if name = "YAML".toList then do
      let (major, m) ← directiveNumber m.skipSpaces
      if m.peek ≠ some '.' then throw .malformed
      let (_, m) ← directiveNumber m.step
      if !endsWord m.peek then throw .malformed
      pure (Directive.version major, m)
    else if name = "TAG".toList then do
      let (handle, m) ← tagHandle m.skipSpaces
      if m.peek ≠ some ' ' then throw .malformed
      let (start, m) ← tagText m.skipSpaces
      if !endsWord m.peek then throw .malformed
      pure (Directive.tag handle start, m)
    else pure (Directive.other, m.skipLine)
  return (d, ← commentLine m)

def readName (m : Mark) : Except Error (Text × Mark) :=
  let (name, m) := m.takeWhile isNameChar
  if name.isEmpty then .error .malformed
  else if endsIndicator m.peek || m.peek.any ("?:,]\x7d%@\x60".toList.contains ·) then .ok (name, m)
  else .error .malformed

def readTag (m : Mark) : Except Error (Token × Mark) := do
  let next := m.peekAt 1
  let (t, m) ←
    if next = some '<' then do
      let (suffix, m) ← tagText (m.forward 2)
      if m.peek ≠ some '>' then throw .malformed
      pure (Token.tag none suffix, m.step)
    else if endsIndicator next then pure (Token.tag none ['!'], m.step)
    else
      let word := (m.rest.drop 1).takeWhile fun c => !endsWord (some c)
      if word.contains '!' then do
        let (handle, m) ← tagHandle m
        let (suffix, m) ← tagText m
        pure (Token.tag (some handle) suffix, m)
      else do
        let (suffix, m) ← tagText m.step
        pure (Token.tag (some ['!']) suffix, m)
  if endsWord m.peek then return (t, m) else throw .malformed

/-- A value's colon: what stands before it on the line, if that can be a key, becomes one. -/
def readValue (s : State) : Except Error State := do
  let s ← match s.keys.lookup s.flow with
    | some found =>
      let s := { s with
        keys := s.keys.filter fun (level, _) => level != s.flow
        tokens := s.tokens.insertIdxIfInBounds found.position .key }
      let (opened, s) := if s.inFlow then (false, s) else s.openBlock found.column
      pure { s with
        tokens := if opened then s.tokens.insertIdxIfInBounds found.position .blockMappingStart else s.tokens
        allowKey := false }
    | none => do
      if !s.inFlow && !s.allowKey then throw .malformed
      let s := if s.inFlow then s else s.openBlockHere .blockMappingStart
      (s.allow !s.inFlow).removeKey
  return (s.push .value).at_ s.mark.step

def beginsPlain (s : State) : Bool :=
  match s.mark.peek with
  | none => false
  | some c =>
    !(endsIndicator (some c) || "-?:,[]\x7b\x7d#&*!|>'\"%@\x60".toList.contains c) ||
      (!endsIndicator (s.mark.peekAt 1) && (c == '-' || (!s.inFlow && (c == '?' || c == ':'))))

/-- A token that ends all blocks: a directive, or a line between documents. -/
def outermost (s : State) : Except Error State := do
  let s ← (s.closeBlocks (-1)).removeKey
  return s.allow false

/-- A scalar, alias, anchor or tag, which may begin a key. -/
def leaf (s : State) (read : Mark → Except Error (Token × Mark)) : Except Error State := do
  let s ← s.saveKey
  let (t, m) ← read s.mark
  return ((s.allow false).push t).at_ m

def openFlow (s : State) (t : Token) : Except Error State := do
  let s ← s.saveKey
  return { (s.push t).at_ s.mark.step with flow := s.flow + 1, allowKey := true }

def closeFlow (s : State) (t : Token) : Except Error State := do
  let s ← s.removeKey
  return { (s.push t).at_ s.mark.step with flow := s.flow - 1, allowKey := false }

def blockSign (s : State) (start sign : Token) (allowInFlow : Bool) : Except Error State := do
  if !s.inFlow && !s.allowKey then throw .malformed
  let s := if s.inFlow then s else s.openBlockHere start
  let s ← (s.allow (allowInFlow || !s.inFlow)).removeKey
  return (s.push sign).at_ s.mark.step

def readToken (s : State) (c : Char) : Except Error State := do
  let m := s.mark
  let next := m.peekAt 1
  if c = '%' && m.column = 0 then
    let s ← outermost s
    let (d, m) ← readDirective m.step
    return (s.push (.directive d)).at_ m
  if m.column = 0 && m.separates '-' then return ((← outermost s).push .documentStart).at_ (m.forward 3)
  if m.column = 0 && m.separates '.' then return ((← outermost s).push .documentEnd).at_ (m.forward 3)
  match c with
  | '[' => openFlow s .flowSequenceStart
  | '{' => openFlow s .flowMappingStart
  | ']' => closeFlow s .flowSequenceEnd
  | '}' => closeFlow s .flowMappingEnd
  | ',' => return (((← (s.allow true).removeKey).push .flowEntry).at_ m.step)
  | '*' => leaf s fun m => (readName m.step).map fun (name, m) => (.alias name, m)
  | '&' => leaf s fun m => (readName m.step).map fun (name, m) => (.anchor name, m)
  | '!' => leaf s readTag
  | '\'' => leaf s fun m => (quotedScalar '\'' m).map fun (t, m) => (.scalar t false, m)
  | '"' => leaf s fun m => (quotedScalar '"' m).map fun (t, m) => (.scalar t false, m)
  | _ =>
    if c = '-' && endsIndicator next then blockSign s .blockSequenceStart .blockEntry true
    else if c = '?' && (s.inFlow || endsIndicator next) then blockSign s .blockMappingStart .key false
    else if c = ':' && (s.inFlow || endsIndicator next) then readValue s
    else if (c = '|' || c = '>') && !s.inFlow then do
      let s ← (s.allow true).removeKey
      let (t, m) ← blockScalar (c = '>') s.indent m
      return (s.push (.scalar t false)).at_ m
    else if beginsPlain s then do
      let s ← s.saveKey
      let (t, m, newLine) := plainScalar s.inFlow (s.indent + 1) m
      return ((s.allow newLine).push (.scalar t true)).at_ m
    else throw .malformed

/-- The tokens from a state on. `fuel` bounds their number. -/
def readAll (s : State) : (fuel : Nat) → Except Error (Array Token)
  | 0 => .error .malformed
  | fuel + 1 => do
    let s ← (skipBlank s (s.mark.rest.length + 1)).dropStaleKeys
    let s := s.closeBlocks s.mark.column
    match s.mark.peek with
    | none => return ((← outermost s).push .streamEnd).tokens
    | some c => readAll (← readToken s c) fuel

/-- The tokens of a text. A byte order mark at its start is skipped. -/
def ofText (t : Text) : Except Error (List Token) := do
  if !t.all isAllowed then throw .malformed
  let s := State.ofText t
  let s := if t.head? = some '\ufeff' then s.at_ s.mark.step else s
  return (← readAll s (t.length + 2)).toList

end Token

end TypeSplit.Yaml
