/-
  TypeSplit.Yaml.Node — the tree of a YAML document.

  The tree is built by descent over the tokens. An anchor names the node behind it and an alias stands for the
  node with its name; a name is given once in a document, and an alias inside its own node closes a cycle,
  which has no tree and is left as `cycle`. A text has exactly one document or none.
-/

import TypeSplit.Yaml.Token

namespace TypeSplit.Yaml

inductive Node where
  /-- A scalar; `implicit` says that its type is read off its text. -/
  | scalar (tag : Option Text) (implicit : Bool) (text : Text)
  | sequence (tag : Option Text) (items : List Node)
  | mapping (tag : Option Text) (pairs : List (Node × Node))
  | cycle
  deriving Repr

namespace Node

def empty : Node := .scalar none true []

structure State where
  tokens : List Token
  /-- The nodes with a name; a node that is not finished is none yet. -/
  anchors : List (Text × Option Node)
  /-- What the handles of tags stand for. -/
  handles : List (Text × Text)

abbrev Build := StateT State (Except Error)

def malformed {α : Type} : Build α := throw .malformed

def next : Build Token := do return (← get).tokens.head?.getD .streamEnd

def skip : Build Unit := modify fun s => { s with tokens := s.tokens.drop 1 }

def nextIs (tokens : List Token) : Build Bool := do return tokens.contains (← next)

def expect (t : Token) : Build Unit := do if (← next) == t then skip else malformed

/-- The anchor and the tag in front of a node, in either order. -/
def properties : Build (Option Text × Option Token) := do
  match ← next with
  | .anchor name =>
    skip
    match ← next with
    | .tag handle suffix => skip; return (some name, some (.tag handle suffix))
    | _ => return (some name, none)
  | .tag handle suffix =>
    skip
    match ← next with
    | .anchor name => skip; return (some name, some (.tag handle suffix))
    | _ => return (none, some (.tag handle suffix))
  | _ => return (none, none)

def fullTag : Option Token → Build (Option Text)
  | some (.tag (some handle) suffix) => do
    match (← get).handles.lookup handle with
    | some start => return some (start ++ suffix)
    | none => malformed
  | some (.tag none suffix) => return some suffix
  | _ => return none

/-- The tag of a node whose type is left to its form. -/
def nonSpecific : Text := ['!']

def specific? (tag : Option Text) : Option Text := tag.filter (· ≠ nonSpecific)

def openAnchor : Option Text → Build Unit
  | none => return
  | some name => do
    if ((← get).anchors.lookup name).isSome then malformed
    else modify fun s => { s with anchors := (name, none) :: s.anchors }

def closeAnchor (name : Option Text) (n : Node) : Build Node := do
  if let some name := name then modify fun s => { s with anchors := (name, some n) :: s.anchors }
  return n

def aliased (name : Text) : Build Node := do
  match (← get).anchors.lookup name with
  | none => malformed
  | some none => return .cycle
  | some (some n) => return n

/-- The node that is not there: an empty scalar behind an anchor or a tag, and otherwise a fault. -/
def absent (kind tag : Option Text) (named : Bool) : Build Node :=
  if named then return .scalar kind (tag.isNone || tag == some nonSpecific) [] else malformed

mutual

/-- A node. In a block it may be a block itself; under a key its entries may stand at the key's column. -/
def node (block atKey : Bool) : (fuel : Nat) → Build Node
  | 0 => malformed
  | fuel + 1 => do
    if let .alias name ← next then
      skip
      aliased name
    else
      let (anchor, tag) ← properties
      let tag ← fullTag tag
      let kind := specific? tag
      let named := anchor.isSome || tag.isSome
      openAnchor anchor
      let n ← match ← next with
        | .blockEntry => if atKey then Node.sequence kind <$> entriesAtKey fuel else absent kind tag named
        | .scalar t plain =>
          skip
          pure (.scalar kind ((plain && tag.isNone) || tag == some nonSpecific) t)
        | .flowSequenceStart => do skip; Node.sequence kind <$> flowItems true fuel
        | .flowMappingStart => do skip; Node.mapping kind <$> flowPairs true fuel
        | .blockSequenceStart =>
          if block then do skip; Node.sequence kind <$> blockEntries fuel else absent kind tag named
        | .blockMappingStart =>
          if block then do skip; Node.mapping kind <$> blockPairs fuel else absent kind tag named
        | _ => absent kind tag named
      closeAnchor anchor n

/-- The entries of a sequence at the column of its key. -/
def entriesAtKey : (fuel : Nat) → Build (List Node)
  | 0 => malformed
  | fuel + 1 => do
    if ← nextIs [.blockEntry] then
      skip
      let first ← if ← nextIs [.blockEntry, .key, .value, .blockEnd] then pure empty else node true false fuel
      return first :: (← entriesAtKey fuel)
    else return []

def blockEntries : (fuel : Nat) → Build (List Node)
  | 0 => malformed
  | fuel + 1 => do
    if ← nextIs [.blockEntry] then
      skip
      let first ← if ← nextIs [.blockEntry, .blockEnd] then pure empty else node true false fuel
      return first :: (← blockEntries fuel)
    else
      expect .blockEnd
      return []

def blockPairs : (fuel : Nat) → Build (List (Node × Node))
  | 0 => malformed
  | fuel + 1 => do
    if ← nextIs [.key] then
      skip
      let key ← if ← nextIs [.key, .value, .blockEnd] then pure empty else node true true fuel
      let value ← if ← nextIs [.value] then do
          skip
          if ← nextIs [.key, .value, .blockEnd] then pure empty else node true true fuel
        else pure empty
      return (key, value) :: (← blockPairs fuel)
    else
      expect .blockEnd
      return []

/-- The items of a sequence between brackets; a pair among them is a mapping of its own. -/
def flowItems (first : Bool) : (fuel : Nat) → Build (List Node)
  | 0 => malformed
  | fuel + 1 => do
    if ← nextIs [.flowSequenceEnd] then
      skip
      return []
    else
      unless first do expect .flowEntry
      if ← nextIs [.key] then
        skip
        let key ← if ← nextIs [.value, .flowEntry, .flowSequenceEnd] then pure empty else node false false fuel
        let value ← if ← nextIs [.value] then do
            skip
            if ← nextIs [.flowEntry, .flowSequenceEnd] then pure empty else node false false fuel
          else pure empty
        return .mapping none [(key, value)] :: (← flowItems false fuel)
      else if ← nextIs [.flowSequenceEnd] then
        skip
        return []
      else
        let item ← node false false fuel
        return item :: (← flowItems false fuel)

/-- The pairs of a mapping between brackets; a key may stand without a value. -/
def flowPairs (first : Bool) : (fuel : Nat) → Build (List (Node × Node))
  | 0 => malformed
  | fuel + 1 => do
    if ← nextIs [.flowMappingEnd] then
      skip
      return []
    else
      unless first do expect .flowEntry
      if ← nextIs [.key] then
        skip
        let key ← if ← nextIs [.value, .flowEntry, .flowMappingEnd] then pure empty else node false false fuel
        let value ← if ← nextIs [.value] then do
            skip
            if ← nextIs [.flowEntry, .flowMappingEnd] then pure empty else node false false fuel
          else pure empty
        return (key, value) :: (← flowPairs false fuel)
      else if ← nextIs [.flowMappingEnd] then
        skip
        return []
      else
        let key ← node false false fuel
        return (key, empty) :: (← flowPairs false fuel)

end

/-! ## Documents -/

def defaultHandles : List (Text × Text) := [
  (['!'], ['!']),
  (['!', '!'], "tag:yaml.org,2002:".toList)]

/-- Passes the directives in front of a document. `fuel` bounds their number. -/
def directives (seenVersion : Bool) (own : List (Text × Text)) : (fuel : Nat) → Build Unit
  | 0 => malformed
  | fuel + 1 => do
    match ← next with
    | .directive (.version major) =>
      if seenVersion || major ≠ 1 then malformed
      else
        skip
        directives true own fuel
    | .directive (.tag handle start) =>
      if (own.lookup handle).isSome then malformed
      else
        skip
        directives seenVersion ((handle, start) :: own) fuel
    | .directive .other =>
      skip
      directives seenVersion own fuel
    | _ => modify fun s => { s with handles := own ++ defaultHandles }

def documentEnds : (fuel : Nat) → Build Unit
  | 0 => malformed
  | fuel + 1 => do
    if ← nextIs [.documentEnd] then
      skip
      documentEnds fuel

def document : Build (Option Node) := do
  let fuel := 4 * (← get).tokens.length + 8
  let explicit ← match ← next with
    | .directive _ => pure true
    | .documentStart => pure true
    | .streamEnd => pure true
    | _ => pure false
  if explicit then documentEnds fuel
  if ← nextIs [.streamEnd] then return none
  let n ← if explicit then do
      directives false [] fuel
      expect .documentStart
      match ← next with
      | .directive _ => pure empty
      | .documentStart => pure empty
      | .documentEnd => pure empty
      | .streamEnd => pure empty
      | _ => node true false fuel
    else node true false fuel
  documentEnds fuel
  if ← nextIs [.streamEnd] then return some n else malformed

def ofText (t : Text) : Except Error (Option Node) := do
  let tokens ← Token.ofText t
  return (← document.run ⟨tokens, [], defaultHandles⟩).1

end Node

end TypeSplit.Yaml
