/-
  TypeSplit.Report.Json — JSON values and their text.

  The text is indented by two blanks a level, the fields of an object stand in the order of their names, and
  everything outside visible ASCII is escaped by UTF-16 units.
-/

import TypeSplit.Text.Digit
import TypeSplit.Text.Quoted

namespace TypeSplit.Report

inductive Json where
  | null
  | bool (b : Bool)
  | int (n : Int)
  | text (t : Text)
  | list (items : List Json)
  | object (fields : List (Text × Json))

namespace Json

def ofOption {α : Type} (f : α → Json) : Option α → Json
  | some a => f a
  | none => .null

/-- One UTF-16 unit as an escape. -/
def unitEscape (n : Nat) : Text := '\\' :: 'u' :: Text.hex 4 n

def stringChar (c : Char) : Text :=
  match c with
  | '"' => ['\\', '"']
  | '\\' => ['\\', '\\']
  | '\n' => ['\\', 'n']
  | '\r' => ['\\', 'r']
  | '\t' => ['\\', 't']
  | '\x08' => ['\\', 'b']
  | '\x0c' => ['\\', 'f']
  | c =>
    if 0x20 ≤ c.toNat && c.toNat ≤ 0x7E then [c]
    else if c.toNat < 0x10000 then unitEscape c.toNat
    else
      let n := c.toNat - 0x10000
      unitEscape (0xD800 + n / 0x400) ++ unitEscape (0xDC00 + n % 0x400)

def string (t : Text) : Text := '"' :: t.flatMap stringChar ++ ['"']

def nameLe (a b : Text) : Bool := !List.lex (b.map Char.toNat) (a.map Char.toNat)

/-- Items on lines of their own between two brackets, the lines starting with `margin`. -/
def block (opening closing : Char) (margin : Text) (items : List Text) : Text :=
  if items.isEmpty then [opening, closing]
  else
    let inner := margin ++ [' ', ' ']
    opening :: '\n' :: inner ++ Text.join (',' :: '\n' :: inner) items ++ '\n' :: margin ++ [closing]

mutual

/-- The text of a value on a line that starts with `margin`. -/
def textAt (margin : Text) : Json → Text
  | .null => "null".toList
  | .bool true => "true".toList
  | .bool false => "false".toList
  | .int n => Text.decimalInt n
  | .text t => string t
  | .list items => block '[' ']' margin (itemTexts (margin ++ [' ', ' ']) items)
  | .object fields =>
    let texts := fieldTexts (margin ++ [' ', ' ']) fields
    block '{' '}' margin ((texts.mergeSort fun a b => nameLe a.1 b.1).map fun (name, t) =>
      string name ++ ':' :: ' ' :: t)

def itemTexts (margin : Text) : List Json → List Text
  | [] => []
  | item :: rest => textAt margin item :: itemTexts margin rest

def fieldTexts (margin : Text) : List (Text × Json) → List (Text × Text)
  | [] => []
  | (name, value) :: rest => (name, textAt margin value) :: fieldTexts margin rest

end

def toText (j : Json) : Text := textAt [] j

end Json

end TypeSplit.Report
