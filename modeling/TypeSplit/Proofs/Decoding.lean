/-
  TypeSplit.Proofs.Decoding — which bytes are a text.

  A first byte tells how many bytes follow and bounds the first of them. These bounds are just those that make the bytes
  the shortest spelling of a character: no longer spelling of a smaller one, no surrogate, nothing past the last code
  point (`encodeChar_of_tails`). The bytes of every character keep to them (`tails_encodeChar`).
  - `decode_eq_ok_iff`: bytes are read as a text exactly if they are what is written for it.
-/

import TypeSplit.Proofs.Writing

namespace TypeSplit.Utf8

/-! ## What is read -/

section

variable {b : UInt8} {bytes rest : List UInt8} {low top code k n : Nat} {lead : Lead}

theorem lead?_eq_some_iff : lead? b = some lead ↔
    b.toNat < 0x80 ∧ lead = ⟨b.toNat, 0, 0, 0⟩ ∨
    (0xC2 ≤ b.toNat ∧ b.toNat < 0xE0) ∧ lead = ⟨b.toNat - 0xC0, 1, 0x80, 0xBF⟩ ∨
    (0xE0 ≤ b.toNat ∧ b.toNat < 0xF0) ∧
      lead = ⟨b.toNat - 0xE0, 2, if b.toNat = 0xE0 then 0xA0 else 0x80, if b.toNat = 0xED then 0x9F else 0xBF⟩ ∨
    (0xF0 ≤ b.toNat ∧ b.toNat < 0xF5) ∧
      lead = ⟨b.toNat - 0xF0, 3, if b.toNat = 0xF0 then 0x90 else 0x80, if b.toNat = 0xF4 then 0x8F else 0xBF⟩ := by
  unfold lead?
  dsimp only
  split
  · grind
  · split
    · grind
    · split
      · grind
      · split
        · grind
        · split <;> grind

theorem tails_succ_eq_ok_iff : tails low top code (n + 1) bytes = .ok k ↔
    ∃ b rest, bytes = b :: rest ∧ (low ≤ b.toNat ∧ b.toNat ≤ top) ∧
      tails 0x80 0xBF (code * 64 + b.toNat % 64) n rest = .ok k := by
  cases bytes with
  | nil => exact iff_of_false (fun h => nomatch h) fun ⟨_, _, h, _⟩ => nomatch h
  | cons b rest =>
    rw [tails]
    by_cases hbounds : low ≤ b.toNat ∧ b.toNat ≤ top
    · rw [if_pos (by simpa using hbounds), mapError_eq_ok]
      constructor
      · intro h
        exact ⟨b, rest, rfl, hbounds, h⟩
      · rintro ⟨_, _, ⟨rfl, rfl⟩, _, h⟩
        exact h
    · rw [if_neg (by simpa using hbounds)]
      refine iff_of_false (fun h => nomatch h) ?_
      rintro ⟨_, _, ⟨rfl, rfl⟩, hbounds', _⟩
      exact hbounds hbounds'

theorem tails_zero_eq_ok_iff : tails low top code 0 bytes = .ok k ↔ code = k := by
  rw [tails, Except.ok.injEq]

end

/-! ## What is written -/

section

variable {c : Char} {a b₁ b₂ b₃ : UInt8}

theorem eq_ofNat {b : UInt8} {m : Nat} (h : b.toNat = m) : UInt8.ofNat m = b := by
  rw [← h, UInt8.ofNat_toNat]

theorem encodeChar_one (h : c.toNat < 0x80) (ha : a.toNat = c.toNat) : encodeChar c = [a] := by
  unfold encodeChar
  dsimp only
  rw [if_pos h, eq_ofNat ha]

theorem encodeChar_two (h : 0x80 ≤ c.toNat) (h' : c.toNat < 0x800) (ha : a.toNat = 0xC0 + c.toNat / 64)
    (h₁ : b₁.toNat = 0x80 + c.toNat % 64) : encodeChar c = [a, b₁] := by
  unfold encodeChar
  dsimp only
  rw [if_neg (by omega), if_pos h', eq_ofNat ha, eq_ofNat h₁]

theorem encodeChar_three (h : 0x800 ≤ c.toNat) (h' : c.toNat < 0x10000) (ha : a.toNat = 0xE0 + c.toNat / 4096)
    (h₁ : b₁.toNat = 0x80 + c.toNat / 64 % 64) (h₂ : b₂.toNat = 0x80 + c.toNat % 64) : encodeChar c = [a, b₁, b₂] := by
  unfold encodeChar
  dsimp only
  rw [if_neg (by omega), if_neg (by omega), if_pos h', eq_ofNat ha, eq_ofNat h₁, eq_ofNat h₂]

theorem encodeChar_four (h : 0x10000 ≤ c.toNat) (ha : a.toNat = 0xF0 + c.toNat / 262144)
    (h₁ : b₁.toNat = 0x80 + c.toNat / 4096 % 64) (h₂ : b₂.toNat = 0x80 + c.toNat / 64 % 64)
    (h₃ : b₃.toNat = 0x80 + c.toNat % 64) : encodeChar c = [a, b₁, b₂, b₃] := by
  unfold encodeChar
  dsimp only
  rw [if_neg (by omega), if_neg (by omega), if_neg (by omega), eq_ofNat ha, eq_ofNat h₁, eq_ofNat h₂, eq_ofNat h₃]

end

/-! ## One character -/

section

variable {b : UInt8} {rest : List UInt8} {k : Nat} {lead : Lead}

theorem toNat_ofNat_char (h : k < 0xD800 ∨ 0xDFFF < k ∧ k < 0x110000) : (Char.ofNat k).toNat = k := by
  have hvalid : k.isValidChar := h
  unfold Char.ofNat
  rw [dif_pos hvalid]
  rfl

theorem toNat_ofNat_byte {m : Nat} (h : m < 256) : (UInt8.ofNat m).toNat = m := by
  rw [UInt8.toNat_ofNat']
  exact Nat.mod_eq_of_lt h

/-- The bytes that a character is read from are those that are written for it. -/
theorem encodeChar_of_tails (hlead : lead? b = some lead) (h : tails lead.low lead.top lead.high lead.tails rest = .ok k) :
    ∃ front back, rest = front ++ back ∧ front.length = lead.tails ∧ encodeChar (Char.ofNat k) = b :: front := by
  rcases lead?_eq_some_iff.mp hlead with ⟨hb, rfl⟩ | ⟨hb, rfl⟩ | ⟨hb, rfl⟩ | ⟨hb, rfl⟩ <;> dsimp only at h
  · rw [tails_zero_eq_ok_iff] at h
    have hchar := toNat_ofNat_char (k := k) (by omega)
    exact ⟨[], rest, rfl, rfl, encodeChar_one (by omega) (by omega)⟩
  · obtain ⟨b₁, back, rfl, h₁, h⟩ := tails_succ_eq_ok_iff.mp h
    rw [tails_zero_eq_ok_iff] at h
    have hchar := toNat_ofNat_char (k := k) (by omega)
    exact ⟨[b₁], back, rfl, rfl, encodeChar_two (by omega) (by omega) (by omega) (by omega)⟩
  · obtain ⟨b₁, _, rfl, h₁, h⟩ := tails_succ_eq_ok_iff.mp h
    obtain ⟨b₂, back, rfl, h₂, h⟩ := tails_succ_eq_ok_iff.mp h
    rw [tails_zero_eq_ok_iff] at h
    -- the bounds on the first of the following bytes leave out longer spellings and surrogates
    have hsecond : 0x80 ≤ b₁.toNat ∧ b₁.toNat ≤ 0xBF ∧ (b.toNat = 0xE0 → 0xA0 ≤ b₁.toNat) ∧
        (b.toNat = 0xED → b₁.toNat ≤ 0x9F) := by
      split_ifs at h₁ <;> omega
    clear h₁
    have hchar := toNat_ofNat_char (k := k) (by omega)
    exact ⟨[b₁, b₂], back, rfl, rfl, encodeChar_three (by omega) (by omega) (by omega) (by omega) (by omega)⟩
  · obtain ⟨b₁, _, rfl, h₁, h⟩ := tails_succ_eq_ok_iff.mp h
    obtain ⟨b₂, _, rfl, h₂, h⟩ := tails_succ_eq_ok_iff.mp h
    obtain ⟨b₃, back, rfl, h₃, h⟩ := tails_succ_eq_ok_iff.mp h
    rw [tails_zero_eq_ok_iff] at h
    -- here they leave out longer spellings and what lies past the last code point
    have hsecond : 0x80 ≤ b₁.toNat ∧ b₁.toNat ≤ 0xBF ∧ (b.toNat = 0xF0 → 0x90 ≤ b₁.toNat) ∧
        (b.toNat = 0xF4 → b₁.toNat ≤ 0x8F) := by
      split_ifs at h₁ <;> omega
    clear h₁
    have hchar := toNat_ofNat_char (k := k) (by omega)
    exact ⟨[b₁, b₂, b₃], back, rfl, rfl, encodeChar_four (by omega) (by omega) (by omega) (by omega) (by omega)⟩

/-- The bytes that are written for a character are read as it. -/
theorem tails_encodeChar (c : Char) :
    ∃ b front lead, encodeChar c = b :: front ∧ lead? b = some lead ∧ front.length = lead.tails ∧
      ∀ rest, tails lead.low lead.top lead.high lead.tails (front ++ rest) = .ok c.toNat := by
  have hvalid : c.toNat < 0xD800 ∨ 0xDFFF < c.toNat ∧ c.toNat < 0x110000 := c.valid
  have htail (m : Nat) : (UInt8.ofNat (0x80 + m % 64)).toNat = 0x80 + m % 64 := toNat_ofNat_byte (by omega)
  by_cases hone : c.toNat < 0x80
  · have ha := toNat_ofNat_byte (m := c.toNat) (by omega)
    refine ⟨_, _, _, encodeChar_one hone ha, lead?_eq_some_iff.mpr (.inl ⟨by omega, rfl⟩), rfl, fun rest => ?_⟩
    dsimp only
    rw [tails_zero_eq_ok_iff]
    omega
  by_cases htwo : c.toNat < 0x800
  · have ha := toNat_ofNat_byte (m := 0xC0 + c.toNat / 64) (by omega)
    refine ⟨_, _, _, encodeChar_two (by omega) htwo ha (htail _), lead?_eq_some_iff.mpr (.inr (.inl ⟨by omega, rfl⟩)), rfl,
      fun rest => ?_⟩
    dsimp only
    refine tails_succ_eq_ok_iff.mpr ⟨_, rest, rfl, by rw [htail]; omega, ?_⟩
    rw [tails_zero_eq_ok_iff, htail]
    omega
  by_cases hthree : c.toNat < 0x10000
  · have ha := toNat_ofNat_byte (m := 0xE0 + c.toNat / 4096) (by omega)
    refine ⟨_, _, _, encodeChar_three (by omega) hthree ha (htail _) (htail _),
      lead?_eq_some_iff.mpr (.inr (.inr (.inl ⟨by omega, rfl⟩))), rfl, fun rest => ?_⟩
    dsimp only
    refine tails_succ_eq_ok_iff.mpr ⟨_, _, rfl, by rw [htail]; split_ifs <;> omega, ?_⟩
    refine tails_succ_eq_ok_iff.mpr ⟨_, rest, rfl, by rw [htail]; omega, ?_⟩
    rw [tails_zero_eq_ok_iff, htail, htail]
    omega
  · have ha := toNat_ofNat_byte (m := 0xF0 + c.toNat / 262144) (by omega)
    refine ⟨_, _, _, encodeChar_four (by omega) ha (htail _) (htail _) (htail _),
      lead?_eq_some_iff.mpr (.inr (.inr (.inr ⟨by omega, rfl⟩))), rfl, fun rest => ?_⟩
    dsimp only
    refine tails_succ_eq_ok_iff.mpr ⟨_, _, rfl, by rw [htail]; split_ifs <;> omega, ?_⟩
    refine tails_succ_eq_ok_iff.mpr ⟨_, _, rfl, by rw [htail]; omega, ?_⟩
    refine tails_succ_eq_ok_iff.mpr ⟨_, rest, rfl, by rw [htail]; omega, ?_⟩
    rw [tails_zero_eq_ok_iff, htail, htail, htail]
    omega

end

/-! ## Texts -/

theorem encode_cons (c : Char) (t : Text) : encode (c :: t) = encodeChar c ++ encode t := List.flatMap_cons

/-- The bytes of a character are read as it, and reading goes on behind them. -/
theorem decodeFrom_encodeChar (c : Char) (rest : List UInt8) (offset : Nat) :
    ∃ next, decodeFrom offset (encodeChar c ++ rest) = (decodeFrom next rest).map (c :: ·) := by
  obtain ⟨b, front, lead, hchar, hlead, hlength, htails⟩ := tails_encodeChar c
  have hdrop : (front ++ rest).drop lead.tails = rest := by rw [← hlength, List.drop_left]
  refine ⟨offset + lead.tails + 1, ?_⟩
  rw [hchar, List.cons_append, decodeFrom, hlead]
  simp only [htails, hdrop, Char.ofNat_toNat]

theorem decodeFrom_encode (t : Text) (offset : Nat) : decodeFrom offset (encode t) = .ok t := by
  induction t generalizing offset with
  | nil =>
    show decodeFrom offset [] = .ok []
    rw [decodeFrom]
  | cons c t ih =>
    obtain ⟨next, hnext⟩ := decodeFrom_encodeChar c (encode t) offset
    rw [encode_cons, hnext, ih]
    rfl

theorem encode_of_decodeFrom {offset : Nat} {bytes : List UInt8} {t : Text} (h : decodeFrom offset bytes = .ok t) :
    bytes = encode t := by
  fun_induction decodeFrom offset bytes generalizing t with
  | case1 offset =>
    cases h
    rfl
  | case2 offset b rest hlead => cases h
  | case3 offset b rest lead hlead length reason htails => cases h
  | case4 offset b rest lead hlead code htails ih =>
    cases hrest : decodeFrom (offset + lead.tails + 1) (rest.drop lead.tails) with
    | error e =>
      rw [hrest] at h
      cases h
    | ok t' =>
      rw [hrest] at h
      cases h
      obtain ⟨front, back, rfl, hlength, hchar⟩ := encodeChar_of_tails hlead htails
      have hback := ih hrest
      rw [← hlength, List.drop_left] at hback
      rw [encode_cons, hchar, hback]
      rfl

/-- Bytes are read as a text exactly if they are what is written for it. -/
theorem decode_eq_ok_iff {bytes : List UInt8} {t : Text} : decode bytes = .ok t ↔ bytes = encode t := by
  constructor
  · exact encode_of_decodeFrom
  · rintro rfl
    exact decodeFrom_encode t 0

end TypeSplit.Utf8
