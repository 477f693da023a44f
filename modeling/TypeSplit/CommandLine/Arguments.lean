/-
  TypeSplit.CommandLine.Arguments — reading the words of a command line.

  First every word is told apart: an option, an operand, or the two dashes behind which everything is an operand.
  A long name may be cut short as long as it stays the name of one option; short names without a value may be
  written together, and a value may follow its short name at once, or a name after an equals sign. A negative
  number is an operand, and so is a word with a space that is no option. Then the words are taken from left to
  right, and those that nothing takes are left over.
-/

import TypeSplit.CommandLine.Options

namespace TypeSplit.CommandLine

/-! ## Words -/

/-- A value in the same word as the name of its option. -/
structure Attached where
  /-- Whether an equals sign stands between them. -/
  equals : Bool
  text : Text
  deriving DecidableEq, Repr

inductive Kind where
  | operand
  | dashes
  | option (s : Switch) (name : Text) (attached : Option Attached)
  /-- A word that looks like an option and is none. -/
  | unknown
  deriving DecidableEq, Repr

structure Word where
  text : Text
  kind : Kind
  deriving DecidableEq, Repr

def Word.isOption (w : Word) : Bool :=
  match w.kind with
  | .option .. => true
  | .unknown => true
  | _ => false

def isNegativeNumber : Text → Bool
  | '-' :: t =>
    let t := if t.getLast? = some '\n' then t.dropLast else t
    let digits (t : Text) : Bool := t.all fun c => (Text.digitValue? c).isSome
    match Text.cut? '.' t with
    | none => !t.isEmpty && digits t
    | some (whole, part) => digits whole && !part.isEmpty && digits part
  | _ => false

/-- The options that a word may mean, where it is not the exact name of one. -/
def candidates (g : Grammar) (t : Text) : List (Switch × Text × Option Attached) :=
  if Text.startsWith t ['-', '-'] then
    let (front, attached) := match Text.cut? '=' t with
      | some (front, value) => (front, some ⟨true, value⟩)
      | none => (t, none)
    g.names.filterMap fun (name, s) => if Text.startsWith name front then some (s, name, attached) else none
  else
    g.names.filterMap fun (name, s) =>
      if name = t.take 2 then some (s, name, some ⟨false, t.drop 2⟩)
      else if Text.startsWith name t then some (s, name, none)
      else none

/-- The option that a word names exactly, with an equals sign and a value behind the name or without. -/
def named? (g : Grammar) (t : Text) : Option Kind :=
  match g.switchNamed? t with
  | some s => some (.option s t none)
  | none => do
    let (name, value) ← Text.cut? '=' t
    let s ← g.switchNamed? name
    return .option s name (some ⟨true, value⟩)

def kindOf (g : Grammar) (t : Text) : Except Fault Kind :=
  if !Text.startsWith t ['-'] || t.length = 1 then .ok .operand
  else
    match named? g t with
    | some kind => .ok kind
    | none =>
      match candidates g t with
      | [(s, name, attached)] => .ok (.option s name attached)
      | [] => .ok (if isNegativeNumber t || t.contains ' ' then .operand else .unknown)
      | several => .error (.ambiguous t (several.map (·.2.1)))

def words (g : Grammar) : List Text → Except Fault (List Word)
  | [] => .ok []
  | t :: rest =>
    if t = ['-', '-'] then .ok (⟨t, .dashes⟩ :: rest.map (⟨·, .operand⟩))
    else do
      let kind ← kindOf g t
      return ⟨t, kind⟩ :: (← words g rest)

/-! ## Options -/

/-- What is taken with an option: it and those written together with it, the number of words behind it, and
a rest of the word that is left over. -/
structure Taken where
  settings : List (Switch × Text)
  following : Nat
  leftOver : Option Text

/-- The options in a word, given the words behind it. `fuel` bounds the number of options. -/
def takeOption (g : Grammar) (rest : List Word) : (fuel : Nat) → Switch → (name : Text) → Option Attached →
    Except Fault Taken
  | 0, s, _, _ => .error (.valueMissing s)
  | fuel + 1, s, name, attached =>
    match attached with
    | none =>
      if s.takesValue then
        match rest with
        | ⟨value, .operand⟩ :: _ => .ok ⟨[(s, value)], 1, none⟩
        | _ => .error (.valueMissing s)
      else .ok ⟨[(s, [])], 0, none⟩
    | some ⟨equals, value⟩ =>
      if s.takesValue then .ok ⟨[(s, value)], 0, none⟩
      else
        match value with
        | [] => .error (.valueIgnored s value)
        | c :: more =>
          if equals || c = '-' || Text.startsWith name ['-', '-'] then .error (.valueIgnored s value)
          else
            match g.switchNamed? ['-', c] with
            | none => .ok ⟨[(s, [])], 0, some ('-' :: value)⟩
            | some s' => do
              let attached := match more with
                | [] => none
                | '=' :: text => some ⟨true, text⟩
                | text => some ⟨false, text⟩
              let taken ← takeOption g rest fuel s' ['-', c] attached
              return { taken with settings := (s, []) :: taken.settings }

/-! ## Whole command lines -/

structure Reading where
  options : Options
  /-- The operand, with everything that belongs to it. -/
  operand : Option (List Text)
  leftOver : List Text

def operandLength (g : Grammar) (words : List Word) : Nat :=
  let isDashes (w : Word) : Bool := w.kind == .dashes
  let dashes := (words.takeWhile isDashes).length
  match words.drop dashes with
  | [] => 0
  | w :: rest =>
    if w.kind ≠ .operand then 0
    else if g.takesRest then words.length
    else dashes + 1 + (rest.takeWhile isDashes).length

def takeOperand (g : Grammar) (r : Reading) (words : List Word) : Reading × List Word :=
  let length := if r.operand.isSome then 0 else operandLength g words
  if length = 0 then (r, words)
  else
    let texts := (words.take length).map (·.text)
    ({ r with operand := some (if g.takesRest then texts else texts.erase ['-', '-']) }, words.drop length)

/-- Takes words from left to right. `fuel` bounds their number. -/
def take (g : Grammar) : (fuel : Nat) → Reading → List Word → Except Stop Reading
  | 0, r, _ => .ok r
  | fuel + 1, r, words =>
    if !words.any (·.isOption) then
      let (r, rest) := takeOperand g r words
      .ok { r with leftOver := r.leftOver ++ rest.map (·.text) }
    else
      match words with
      | [] => .ok r
      | w :: rest =>
        match w.kind with
        | .unknown => take g fuel { r with leftOver := r.leftOver ++ [w.text] } rest
        | .option s name attached =>
          match takeOption g rest (w.text.length + 1) s name attached with
          | .error fault => .error (.misuse g fault)
          | .ok taken => do
            let options ← taken.settings.foldlM (fun o (s, value) => Options.set g o s value) r.options
            take g fuel { r with options, leftOver := r.leftOver ++ taken.leftOver.toList } (rest.drop taken.following)
        | _ =>
          let (r', rest) := takeOperand g r words
          if rest.length < words.length then take g fuel r' rest
          else
            let passed := words.takeWhile (!·.isOption)
            take g fuel { r with leftOver := r.leftOver ++ passed.map (·.text) } (words.drop passed.length)

def read (g : Grammar) (options : Options) (arguments : List Text) : Except Stop (Options × List Text × List Text) := do
  let words ← (words g arguments).mapError (.misuse g)
  let r ← take g (words.length + 1) ⟨options, none, []⟩ words
  match r.operand with
  | some operand => return (r.options, operand, r.leftOver)
  | none => throw (.misuse g (.required g.operand))

inductive Command where
  | split
  | inspect
  deriving DecidableEq, Repr

def Command.ofName? (name : Text) : Option Command :=
  if name = "split".toList then some .split
  else if name = "inspect".toList then some .inspect
  else none

def Command.grammar : Command → Grammar
  | .split => .split
  | .inspect => .inspect

structure Call where
  command : Command
  source : Text
  options : Options
  deriving DecidableEq, Repr

/-- The call that a command line makes. Nothing may be left over. -/
def Call.ofArguments (arguments : List Text) : Except Stop Call := do
  let (options, operand, leftOver) ← read .outer {} arguments
  let name := operand.head?.getD []
  match Command.ofName? name with
  | none => throw (.misuse .outer (.unknownCommand name))
  | some command =>
    let (options, operand, leftOver') ← read command.grammar options operand.tail
    match leftOver ++ leftOver' with
    | [] => return ⟨command, operand.head?.getD [], options⟩
    | leftOver => throw (.misuse .outer (.unrecognised leftOver))

end TypeSplit.CommandLine
