import FlowScript.Text.Utf8

/-!
# UTF-8 reads what it writes

A character is written as one to four bytes. Its lead byte promises as many
more as are written, the second byte lies between the bounds that the lead byte
sets because surrogates are no characters, and the bits add up again. So
reading is the inverse of writing (`decode_encode`). The bytes are those that
the library has for a character (`encode_eq_flatMap`).
-/

namespace FlowScript.Text.Utf8

/-- The code points of characters: no surrogates, and nothing above the last
    one. -/
theorem toNat_bounds (c : Char) : c.toNat < 0xD800 ∨ 0xDFFF < c.toNat ∧ c.toNat < 0x110000 :=
  c.valid

/-! ## The bytes of a text -/

/-- A character has the bytes that the library gives it. -/
theorem encodeChar_eq (c : Char) : encodeChar c = String.utf8EncodeChar c := by
  have hc : c.toNat < 0x110000 := by
    have := toNat_bounds c
    omega
  have hval : c.val.toNat = c.toNat := rfl
  simp only [encodeChar, String.utf8EncodeChar, hval]
  -- One case for each number of bytes; a lead byte has the bits that are left.
  by_cases h₁ : c.toNat < 0x80
  · rw [if_pos h₁, if_pos (by omega)]
  by_cases h₂ : c.toNat < 0x800
  · rw [if_neg h₁, if_pos h₂, if_neg (by omega), if_pos (by omega),
      Nat.mod_eq_of_lt (a := c.toNat / 64) (by omega), Nat.add_comm, Nat.add_comm (c.toNat % 64)]
  by_cases h₃ : c.toNat < 0x10000
  · rw [if_neg h₁, if_neg h₂, if_pos h₃, if_neg (by omega), if_neg (by omega), if_pos (by omega),
      Nat.mod_eq_of_lt (a := c.toNat / 4096) (by omega), Nat.add_comm,
      Nat.add_comm (c.toNat / 64 % 64), Nat.add_comm (c.toNat % 64)]
  · rw [if_neg h₁, if_neg h₂, if_neg h₃, if_neg (by omega), if_neg (by omega), if_neg (by omega),
      Nat.mod_eq_of_lt (a := c.toNat / 262144) (by omega), Nat.add_comm,
      Nat.add_comm (c.toNat / 4096 % 64), Nat.add_comm (c.toNat / 64 % 64),
      Nat.add_comm (c.toNat % 64)]

theorem encode_eq_flatMap (s : Text) : encode s = s.flatMap String.utf8EncodeChar := by
  rw [encode, funext encodeChar_eq]

/-! ## Reading one byte -/

section Steps

variable {lead : Lead} {start offset n : Nat} {rest : List UInt8}

theorem toNat_ofNat (hn : n < 256) : (UInt8.ofNat n).toNat = n :=
  UInt8.toNat_ofNat_of_lt hn

/-- A byte that is a character. -/
theorem decodeFrom_single (hn : n < 0x80) :
    decodeFrom none start offset (UInt8.ofNat n :: rest) =
      (decodeFrom none (offset + 1) (offset + 1) rest).map (Char.ofNat n :: ·) := by
  have hlead : lead? n = some ⟨n, 0, 0x80, 0xBF⟩ := if_pos hn
  rw [decodeFrom]
  simp only [toNat_ofNat (show n < 256 by omega), hlead, if_true]

/-- A byte that promises more. -/
theorem decodeFrom_lead (hn : n < 256) (hlead : lead? n = some lead) (hmore : lead.follow ≠ 0) :
    decodeFrom none start offset (UInt8.ofNat n :: rest) =
      decodeFrom (some lead) offset (offset + 1) rest := by
  rw [decodeFrom]
  simp only [toNat_ofNat hn, hlead, if_neg hmore]

/-- A byte that continues a character, which is not complete yet. -/
theorem decodeFrom_more (hn : n < 256) (hlow : lead.low ≤ n) (hhigh : n ≤ lead.high)
    (hmore : lead.follow - 1 ≠ 0) :
    decodeFrom (some lead) start offset (UInt8.ofNat n :: rest) =
      decodeFrom (some ⟨lead.bits * 64 + (n - 0x80), lead.follow - 1, 0x80, 0xBF⟩) start
        (offset + 1) rest := by
  rw [decodeFrom]
  simp only [toNat_ofNat hn, hlow, hhigh, decide_true, Bool.and_true, if_true, if_neg hmore]

/-- A byte that completes a character. -/
theorem decodeFrom_last (hn : n < 256) (hlow : lead.low ≤ n) (hhigh : n ≤ lead.high)
    (hlast : lead.follow - 1 = 0) :
    decodeFrom (some lead) start offset (UInt8.ofNat n :: rest) =
      (decodeFrom none (offset + 1) (offset + 1) rest).map
        (Char.ofNat (lead.bits * 64 + (n - 0x80)) :: ·) := by
  rw [decodeFrom]
  simp only [toNat_ofNat hn, hlow, hhigh, decide_true, Bool.and_true, if_true, if_pos hlast]

end Steps

/-! ## Lead bytes -/

section Leads

variable {n : Nat}

theorem lead?_two (hlow : 0xC2 ≤ n) (hhigh : n < 0xE0) :
    lead? n = some ⟨n - 0xC0, 1, 0x80, 0xBF⟩ := by
  rw [lead?, if_neg (by omega), if_neg (by omega), if_pos hhigh]

theorem lead?_three (hlow : 0xE0 ≤ n) (hhigh : n < 0xF0) :
    lead? n = some ⟨n - 0xE0, 2, if n = 0xE0 then 0xA0 else 0x80,
      if n = 0xED then 0x9F else 0xBF⟩ := by
  rw [lead?, if_neg (by omega), if_neg (by omega), if_neg (by omega), if_pos hhigh]

theorem lead?_four (hlow : 0xF0 ≤ n) (hhigh : n < 0xF5) :
    lead? n = some ⟨n - 0xF0, 3, if n = 0xF0 then 0x90 else 0x80,
      if n = 0xF4 then 0x8F else 0xBF⟩ := by
  rw [lead?, if_neg (by omega), if_neg (by omega), if_neg (by omega), if_neg (by omega),
    if_pos hhigh]

end Leads

/-! ## Reading a character -/

theorem ofNat_eq_of_eq {c : Char} {n : Nat} (h : n = c.toNat) : Char.ofNat n = c := by
  rw [h, Char.ofNat_toNat]

/-- The bytes of a character are read as the character. -/
theorem decodeFrom_encodeChar (c : Char) (start offset : Nat) (rest : List UInt8) :
    ∃ next, decodeFrom none start offset (encodeChar c ++ rest) =
      (decodeFrom none next next rest).map (c :: ·) := by
  have hc := toNat_bounds c
  rw [encodeChar]
  -- One case for each number of bytes. The lead byte settles the bounds of the
  -- second one, which are where surrogates and overlong forms are kept out.
  by_cases h₁ : c.toNat < 0x80
  · rw [if_pos h₁]
    refine ⟨offset + 1, ?_⟩
    rw [List.cons_append, decodeFrom_single h₁, Char.ofNat_toNat]
    rfl
  by_cases h₂ : c.toNat < 0x800
  · rw [if_neg h₁, if_pos h₂]
    refine ⟨offset + 2, ?_⟩
    rw [List.cons_append, decodeFrom_lead (by omega) (lead?_two (by omega) (by omega)) (by simp),
      List.cons_append, decodeFrom_last (by omega) (by simp) (by simp; omega) rfl,
      ofNat_eq_of_eq (c := c) (by simp only; omega)]
    rfl
  by_cases h₃ : c.toNat < 0x10000
  · rw [if_neg h₁, if_neg h₂, if_pos h₃]
    refine ⟨offset + 3, ?_⟩
    rw [List.cons_append, decodeFrom_lead (by omega) (lead?_three (by omega) (by omega)) (by simp),
      List.cons_append, decodeFrom_more (by omega) (by simp only; split <;> omega)
        (by simp only; split <;> omega) (by simp),
      List.cons_append, decodeFrom_last (by omega) (by simp) (by simp; omega) rfl,
      ofNat_eq_of_eq (c := c) (by simp only; omega)]
    rfl
  · rw [if_neg h₁, if_neg h₂, if_neg h₃]
    refine ⟨offset + 4, ?_⟩
    rw [List.cons_append, decodeFrom_lead (by omega) (lead?_four (by omega) (by omega)) (by simp),
      List.cons_append, decodeFrom_more (by omega) (by simp only; split <;> omega)
        (by simp only; split <;> omega) (by simp),
      List.cons_append, decodeFrom_more (by omega) (by simp) (by simp; omega) (by simp),
      List.cons_append, decodeFrom_last (by omega) (by simp) (by simp; omega) rfl,
      ofNat_eq_of_eq (c := c) (by simp only; omega)]
    rfl

theorem decodeFrom_encode (s : Text) (start offset : Nat) :
    decodeFrom none start offset (encode s) = .ok s := by
  induction s generalizing start offset with
  | nil => rfl
  | cons c s ih =>
    obtain ⟨next, h⟩ := decodeFrom_encodeChar c start offset (encode s)
    rw [ih] at h
    exact h

/-- What is written is read back. -/
theorem decode_encode (s : Text) : decode (encode s) = .ok s :=
  decodeFrom_encode s 0 0

end FlowScript.Text.Utf8
