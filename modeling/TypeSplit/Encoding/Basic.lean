/-
  TypeSplit.Encoding.Basic — text as bytes in a file.

  Reading turns every kind of line end into a newline; writing leaves newlines as they are. The default
  encoding passes over one byte order mark in front of the text when it reads, and writes none.
-/

import TypeSplit.Encoding.Utf8
import TypeSplit.Source.Line
import TypeSplit.Text.Case
import TypeSplit.Text.Digit
import TypeSplit.Text.Quoted

namespace TypeSplit

inductive Encoding where
  /-- One to four bytes for a character; `passesMark` says that a mark in front is not read as text. -/
  | utf8 (passesMark : Bool)
  /-- One byte for each of the first 256 characters. -/
  | latin1
  /-- One byte for each of the first 128 characters. -/
  | ascii
  deriving DecidableEq, Repr

namespace Encoding

def standard : Encoding := .utf8 true

def ofName? (name : Text) : Option Encoding :=
  let name := Text.lower name
  if name = "utf-8".toList then some (.utf8 true)
  else if name = "utf8".toList then some (.utf8 false)
  else if name = "latin-1".toList then some .latin1
  else if name = "ascii".toList then some .ascii
  else none

def name : Encoding → Text
  | .utf8 _ => "utf-8".toList
  | .latin1 => "latin-1".toList
  | .ascii => "ascii".toList

/-- The number of characters that have a byte each. -/
def limit : Encoding → Nat
  | .utf8 _ => 0x110000
  | .latin1 => 256
  | .ascii => 128

/-! ## Errors -/

/-- Bytes that are no text: where they begin, which they are, and why. -/
structure DecodeError where
  encoding : Encoding
  start : Nat
  bytes : List UInt8
  reason : Text
  deriving DecidableEq, Repr

def span (start length : Nat) : Text :=
  if length = 1 then Text.decimal start
  else Text.decimal start ++ '-' :: Text.decimal (start + length - 1)

def DecodeError.message (e : DecodeError) : Text :=
  let what := match e.bytes with
    | [b] => "byte 0x".toList ++ Text.hex 2 b.toNat
    | _ => "bytes".toList
  '\'' :: e.encoding.name ++ "' codec can't decode ".toList ++ what ++ " in position ".toList ++
    span e.start e.bytes.length ++ ": ".toList ++ e.reason

structure EncodeError where
  encoding : Encoding
  start : Nat
  characters : Text
  deriving DecidableEq, Repr

def outOfRange (e : Encoding) : Text := "ordinal not in range(".toList ++ Text.decimal e.limit ++ [')']

def EncodeError.message (e : EncodeError) : Text :=
  let what := match e.characters with
    | [c] => "character '".toList ++ Text.escapeCode c ++ ['\'']
    | _ => "characters".toList
  '\'' :: e.encoding.name ++ "' codec can't encode ".toList ++ what ++ " in position ".toList ++
    span e.start e.characters.length ++ ": ".toList ++ e.encoding.outOfRange

/-! ## Reading and writing -/

def mark : List UInt8 := [0xEF, 0xBB, 0xBF]

/-- Text that has the mark in front loses it; the first bytes of a mark alone are no text. -/
def withoutMark (bytes : List UInt8) : List UInt8 :=
  if bytes.isPrefixOf mark then []
  else if mark.isPrefixOf bytes then bytes.drop mark.length
  else bytes

def decodeUtf8 (e : Encoding) (bytes : List UInt8) : Except DecodeError Text :=
  (Utf8.decode bytes).mapError fun fault =>
    ⟨e, fault.start, (bytes.drop fault.start).take fault.length, fault.reason.message⟩

def decodeBytes (e : Encoding) (bytes : List UInt8) : Except DecodeError Text :=
  match bytes.findIdx? (e.limit ≤ ·.toNat) with
  | some i => .error ⟨e, i, (bytes.drop i).take 1, e.outOfRange⟩
  | none => .ok (bytes.map fun b => Char.ofNat b.toNat)

def decode (e : Encoding) (bytes : List UInt8) : Except DecodeError Text :=
  match e with
  | .utf8 true => decodeUtf8 e (withoutMark bytes)
  | .utf8 false => decodeUtf8 e bytes
  | _ => decodeBytes e bytes

def encode (e : Encoding) (t : Text) : Except EncodeError (List UInt8) :=
  match e with
  | .utf8 _ => .ok (Utf8.encode t)
  | _ =>
    let fits (c : Char) : Bool := c.toNat < e.limit
    match t.findIdx? (!fits ·) with
    | some i => .error ⟨e, i, (t.drop i).takeWhile (!fits ·)⟩
    | none => .ok (t.map fun c => .ofNat c.toNat)

def unifyLineEnds : Text → Text
  | [] => []
  | '\r' :: '\n' :: rest => '\n' :: unifyLineEnds rest
  | c :: rest => (if c = '\r' then '\n' else c) :: unifyLineEnds rest

def readText (e : Encoding) (bytes : List UInt8) : Except DecodeError Text := (e.decode bytes).map unifyLineEnds

def readLines (e : Encoding) (bytes : List UInt8) : Except DecodeError (List Text) :=
  (e.readText bytes).map Source.lines

/-- Lines as the text of a file: each is followed by a newline. -/
def ofLines (lines : List Text) : Text := lines.flatMap (· ++ ['\n'])

def writeLines (e : Encoding) (lines : List Text) : Except EncodeError (List UInt8) := e.encode (ofLines lines)

end Encoding

end TypeSplit
