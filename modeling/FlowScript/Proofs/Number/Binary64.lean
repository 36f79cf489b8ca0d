import FlowScript.Number.Binary64
import Mathlib.Algebra.Group.Nat.Defs

/-!
# Numbers that are not too large for a float

Rounding at most doubles a number (`nearest_le`), and a pattern grows with the
exponent of its number, so numbers well below `2 ^ 1024` stay in the range of
floats: `nearest_lt`, `ofRatio_lt_infinity`.
-/

namespace FlowScript.Binary64

variable {n k : Nat}

theorem divNearest_le (num den : Nat) : divNearest num den ≤ num / den + 1 := by
  simp only [divNearest]
  split <;> omega

/-- Rounding at most doubles a number, but for zero. -/
theorem nearest_le (n : Nat) : nearest n ≤ 2 * n + 1 := by
  simp only [nearest]
  -- Rounding adds at most one unit, and the unit is a power of two that is at
  -- most the number.
  have hround : divNearest n (Nat.pow 2 (n.log2 + 1 - 53)) * Nat.pow 2 (n.log2 + 1 - 53) ≤
      n + Nat.pow 2 (n.log2 + 1 - 53) := by
    refine Nat.le_trans (Nat.mul_le_mul_right _ (divNearest_le _ _)) ?_
    rw [Nat.add_mul, Nat.one_mul]
    exact Nat.add_le_add_right (Nat.div_mul_le_self _ _) _
  have hunit : Nat.pow 2 (n.log2 + 1 - 53) ≤ n + 1 := by
    by_cases hn : n = 0
    · subst hn; decide
    · have hle : Nat.pow 2 (n.log2 + 1 - 53) ≤ 2 ^ n.log2 :=
        Nat.pow_le_pow_right (by decide) (by omega)
      have := Nat.log2_self_le hn
      omega
  omega

/-- Rounding adds no more than one binary digit. -/
theorem nearest_lt {m : Nat} (h : n < 2 ^ k) (hk : k < m) : nearest n < Nat.pow 2 m := by
  have hle := nearest_le n
  rw [Nat.pow_eq]
  refine Nat.lt_of_lt_of_le ?_ (Nat.pow_le_pow_right (by decide) hk)
  rw [Nat.pow_succ]
  omega

/-- Among whole numbers the exponent follows the number of digits. -/
theorem exponentFor_one (hn : n ≠ 0) : exponentFor n 1 = (n.log2 : Int) - 52 := by
  have hle : 1 * Nat.pow 2 n.log2 ≤ n := by
    rw [Nat.one_mul]
    exact Nat.log2_self_le hn
  have hk : Int.ofNat n.log2 - Int.ofNat (Nat.log2 1) = Int.ofNat n.log2 :=
    Int.sub_zero _
  have hpos : 0 ≤ Int.ofNat n.log2 := Int.natCast_nonneg n.log2
  have hnat : (Int.ofNat n.log2).toNat = n.log2 := rfl
  simp only [exponentFor, hk, hpos, if_true, hnat, hle]
  exact Int.max_eq_right (by omega)

/-- The mantissa of a whole number is at most `2 ^ 53`. -/
theorem mantissa_le (hn : n < 2 ^ (n.log2 + 1)) :
    (if 0 ≤ (n.log2 : Int) - 52 then
        divNearest n (1 * Nat.pow 2 ((n.log2 : Int) - 52).toNat)
      else divNearest (n * Nat.pow 2 (-((n.log2 : Int) - 52)).toNat) 1) ≤ 2 ^ 53 := by
  -- The mantissa is the number with its last digits cut off, or with zeros behind.
  split
  · next he =>
    have he : ((n.log2 : Int) - 52).toNat + 52 = n.log2 := by omega
    refine Nat.le_trans (divNearest_le _ _) (Nat.div_lt_of_lt_mul ?_)
    rw [Nat.one_mul, Nat.pow_eq, ← Nat.pow_add]
    refine Nat.lt_of_lt_of_le hn (Nat.pow_le_pow_right (by decide) ?_)
    omega
  · next he =>
    have he : (-((n.log2 : Int) - 52)).toNat + n.log2 = 52 := by omega
    refine Nat.le_trans (divNearest_le _ _) ?_
    rw [Nat.div_one, Nat.pow_eq]
    refine Nat.lt_of_lt_of_le (Nat.mul_lt_mul_of_pos_right hn (Nat.two_pow_pos _)) ?_
    rw [← Nat.pow_add]
    refine Nat.pow_le_pow_right (by decide) ?_
    omega

/-- The pattern of a number that is not too large is below that of infinity. -/
theorem ofRatio_lt_infinity (h : n < 2 ^ k) (hk : k < 1024) : ofRatio n 1 < infinity := by
  rw [ofRatio]
  split
  · decide
  · next hn =>
    have hlog : n.log2 < k := (Nat.log2_lt hn).2 h
    have hm := mantissa_le (n := n) Nat.lt_log2_self
    rw [exponentFor_one hn]
    refine Nat.lt_of_le_of_lt (Nat.min_le_right _ _) ?_
    have he : ((n.log2 : Int) - 52 + 1074).toNat = n.log2 + 1022 := by omega
    rw [he, infinity, normalStep]
    have hpow : 2 ^ 53 = 2 * 0x10000000000000 := by decide
    omega

end FlowScript.Binary64
