import FlowScript.Proofs.Text.Line
import FlowScript.Text.Digit

/-!
# Digits and numerals

A decimal digit is no blank, so numerals are trimmed and stand on one line
(`isNumeral_inked`). The leading digits of a text are found whatever follows
them, as long as it does not go on with a digit (`spanDigits_append`), and the
decimal text of a number is a numeral (`isNumeral_ofNat`).
-/

namespace FlowScript.Text

variable {s t digits rest : Text} {c : Char}

/-- A digit lies within ten code points from a zero. -/
theorem exists_zero_of_isDigit (h : isDigit c = true) :
    ∃ z ∈ zeros, z ≤ c.toNat ∧ c.toNat < z + 10 := by
  rw [isDigit, digitValue?, List.findSome?_isSome_iff] at h
  obtain ⟨z, hz, hc⟩ := h
  split at hc
  · next hr => exact ⟨z, hz, by simpa using hr⟩
  · cases hc

theorem zeros_apart_from_blanks :
    ∀ z ∈ zeros, ∀ r ∈ blanks, z + 10 ≤ r.1 ∨ r.2 < z := by
  decide

/-- A digit is no blank. -/
theorem isBlank_of_isDigit (h : isDigit c = true) : isBlank c = false := by
  obtain ⟨z, hz, hlow, hhigh⟩ := exists_zero_of_isDigit h
  rw [isBlank, inRanges, List.any_eq_false]
  intro r hr
  have := zeros_apart_from_blanks z hz r hr
  simp only [Bool.and_eq_true, decide_eq_true_eq, not_and]
  omega

theorem isBreak_of_isDigit (h : isDigit c = true) : isBreak c = false := by
  have h' := isBlank_of_isDigit h
  refine Bool.eq_false_iff.2 fun hb => ?_
  rw [isBlank_of_isBreak hb] at h'
  cases h'

/-! ## Numerals -/

theorem isNumeral_iff : isNumeral s = true ↔ s ≠ [] ∧ ∀ c ∈ s, isDigit c = true := by
  simp [isNumeral]

theorem ne_nil_of_isNumeral (h : isNumeral s = true) : s ≠ [] :=
  (isNumeral_iff.1 h).1

/-- A character that is no digit is in no numeral. -/
theorem not_mem_of_isNumeral (h : isNumeral s = true) (hc : isDigit c = false) : c ∉ s :=
  fun hmem => by simp [(isNumeral_iff.1 h).2 c hmem] at hc

/-- A numeral can stand on a line of its own. -/
theorem isNumeral_inked (h : isNumeral s = true) : Inked s := by
  obtain ⟨hne, hd⟩ := isNumeral_iff.1 h
  exact ⟨hne, trimmed_of_forall fun c hc => isBlank_of_isDigit (hd c hc),
    fun c hc => isBreak_of_isDigit (hd c hc)⟩

/-- The digits of the decimal text of a number are worth what they are worth in
    ASCII. -/
theorem digitValue?_of_mem_ofNat {n : Nat} (h : c ∈ ofNat n) :
    digitValue? c = some (c.toNat - '0'.toNat) := by
  have hdig := Nat.isDigit_of_mem_toDigits (by decide) (by decide) h
  rw [Char.isDigit, Bool.and_eq_true, decide_eq_true_eq, decide_eq_true_eq] at hdig
  have hlow : 0x30 ≤ c.toNat := hdig.1
  have hhigh : c.toNat ≤ 0x39 := hdig.2
  rw [digitValue?, zeros, List.findSome?_cons,
    if_pos (by simp only [Bool.and_eq_true, decide_eq_true_eq]; omega)]
  rfl

/-- The decimal text of a number is a numeral. -/
theorem isNumeral_ofNat (n : Nat) : isNumeral (ofNat n) = true := by
  refine isNumeral_iff.2 ⟨Nat.toDigits_ne_nil, fun c hc => ?_⟩
  rw [isDigit, digitValue?_of_mem_ofNat hc]
  rfl

/-- The decimal text of a number denotes it. -/
theorem numeralValue_ofNat (n : Nat) : numeralValue (ofNat n) = n := by
  -- The value is accumulated from the left, so the induction is over any start.
  have hfold (s : Text) (hs : ∀ c ∈ s, digitValue? c = some (c.toNat - '0'.toNat)) (value : Nat) :
      s.foldl (fun value c => 10 * value + (digitValue? c).getD 0) value =
        Nat.ofDigitChars 10 s value := by
    induction s generalizing value with
    | nil => rfl
    | cons c s ih =>
      rw [List.forall_mem_cons] at hs
      rw [List.foldl_cons, hs.1, Option.getD_some, Nat.ofDigitChars_cons]
      exact ih hs.2 _
  rw [numeralValue, hfold _ fun c hc => digitValue?_of_mem_ofNat hc]
  exact Nat.ofDigitChars_ten_toDigits

/-! ## Leading digits -/

/-- The leading digits, and what follows them. -/
theorem spanDigits_append (hd : ∀ c ∈ digits, isDigit c = true)
    (hr : ∀ c, rest.head? = some c → isDigit c = false) :
    spanDigits (digits ++ rest) = (digits, rest) := by
  rw [spanDigits, List.takeWhile_append_of_pos hd, List.dropWhile_append_of_pos hd]
  cases rest with
  | nil => simp
  | cons c rest => simp [hr c rfl]

/-- A text is its leading digits and something that does not start with a
    digit. -/
theorem spanDigits_spec (h : spanDigits s = (digits, rest)) :
    s = digits ++ rest ∧ (∀ c ∈ digits, isDigit c = true) ∧
      ∀ c, rest.head? = some c → isDigit c = false := by
  rw [spanDigits, Prod.mk.injEq] at h
  obtain ⟨rfl, rfl⟩ := h
  refine ⟨List.takeWhile_append_dropWhile.symm, fun c hc => List.mem_takeWhile_imp hc,
    fun c hc => ?_⟩
  have := List.head?_dropWhile_not isDigit s
  simpa [hc] using this

end FlowScript.Text
