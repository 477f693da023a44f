/-
  TypeSplit.Encoding.Utf8 — characters as one to four bytes.

  The first byte of a character says how many follow and what the first of those may be; this leaves out
  the longer spellings of a character, the surrogates, and what lies past the last code point. A text that
  is not in this form has a first place where it fails: a byte that starts no character, a byte that cannot
  go on the character before it, or an end inside a character.
-/

import TypeSplit.Text.Basic

namespace TypeSplit.Utf8

inductive Reason where
  | startByte
  | continuationByte
  | endOfData
  deriving DecidableEq, Repr

def Reason.message : Reason → Text
  | .startByte => "invalid start byte".toList
  | .continuationByte => "invalid continuation byte".toList
  | .endOfData => "unexpected end of data".toList

/-- A place that is no character: its offset and the number of bytes that are given up. -/
structure Fault where
  start : Nat
  length : Nat
  reason : Reason
  deriving DecidableEq, Repr

/-! ## Writing -/

def encodeChar (c : Char) : List UInt8 :=
  let n := c.toNat
  let tail (m : Nat) : UInt8 := .ofNat (0x80 + m % 64)
  if n < 0x80 then [.ofNat n]
  else if n < 0x800 then [.ofNat (0xC0 + n / 64), tail n]
  else if n < 0x10000 then [.ofNat (0xE0 + n / 4096), tail (n / 64), tail n]
  else [.ofNat (0xF0 + n / 262144), tail (n / 4096), tail (n / 64), tail n]

def encode (t : Text) : List UInt8 := t.flatMap encodeChar

/-! ## Reading -/

/-- What a first byte promises: its share of the code point, how many bytes follow, and the least and the
greatest that the first of them may be. -/
structure Lead where
  high : Nat
  tails : Nat
  low : Nat
  top : Nat

def lead? (byte : UInt8) : Option Lead :=
  let b := byte.toNat
  if b < 0x80 then some ⟨b, 0, 0, 0⟩
  else if b < 0xC2 then none
  else if b < 0xE0 then some ⟨b - 0xC0, 1, 0x80, 0xBF⟩
  else if b < 0xF0 then
    some ⟨b - 0xE0, 2, if b = 0xE0 then 0xA0 else 0x80, if b = 0xED then 0x9F else 0xBF⟩
  else if b < 0xF5 then
    some ⟨b - 0xF0, 3, if b = 0xF0 then 0x90 else 0x80, if b = 0xF4 then 0x8F else 0xBF⟩
  else none

/-- The code point that following bytes make of its leading part; on failure, the number of bytes that
were still right. -/
def tails (low top code : Nat) : (count : Nat) → List UInt8 → Except (Nat × Reason) Nat
  | 0, _ => .ok code
  | _ + 1, [] => .error (0, .endOfData)
  | count + 1, b :: rest =>
    if low ≤ b.toNat && b.toNat ≤ top then
      (tails 0x80 0xBF (code * 64 + b.toNat % 64) count rest).mapError fun (length, reason) => (length + 1, reason)
    else .error (0, .continuationByte)

def decodeFrom (offset : Nat) : List UInt8 → Except Fault Text
  | [] => .ok []
  | b :: rest =>
    match lead? b with
    | none => .error ⟨offset, 1, .startByte⟩
    | some lead =>
      match tails lead.low lead.top lead.high lead.tails rest with
      | .error (length, reason) => .error ⟨offset, length + 1, reason⟩
      | .ok code =>
        (decodeFrom (offset + lead.tails + 1) (rest.drop lead.tails)).map (Char.ofNat code :: ·)
termination_by bytes => bytes.length
decreasing_by simp only [List.length_drop, List.length_cons]; omega

def decode (bytes : List UInt8) : Except Fault Text := decodeFrom 0 bytes

end TypeSplit.Utf8
