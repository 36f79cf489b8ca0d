import FlowScript.Proofs.Number.Binary64
import Mathlib.Algebra.Order.Field.Power
import Mathlib.Analysis.Real.Sqrt
import Mathlib.Data.Nat.Sqrt
import Mathlib.Tactic.Linarith
import Mathlib.Tactic.Positivity
import Mathlib.Tactic.Ring

/-!
# The rounded square root

A root is computed from its digits up to a place far behind the point, and one
more digit that tells whether any are left out. The number made of these digits
*marks* the exact root: rounding cannot tell the two apart, since half-way
points between floats have fewer digits. So the root is rounded as the exact one
would be, and no float is nearer to it:

* `abs_root_sub_sqrt_le`: the root of a float is the float nearest to its square
  root;
* `ceilSqrt_le_iff`: up to `2 ^ 52`, rounding the root up gives the least number
  whose square is large enough.
-/

namespace FlowScript.Binary64

variable {n c t : Nat} {v s : ℝ}

/-! ## Rounding to the nearest -/

/-- Rounding to a multiple is off by half of it at most. -/
theorem two_mul_abs_divNearest_sub_le (num : Nat) {den : Nat} (h : 0 < den) :
    2 * |((divNearest num den * den : Nat) : Int) - num| ≤ den := by
  have hsplit := Nat.div_add_mod' num den
  have hrest := Nat.mod_lt num h
  have hnext : (num / den + 1) * den = num / den * den + den := Nat.succ_mul _ _
  simp only [divNearest, Bool.or_eq_true, decide_eq_true_eq, Bool.and_eq_true, beq_iff_eq]
  split
  · rw [hnext, abs_of_nonneg (by omega)]
    omega
  · rw [abs_of_nonpos (by omega)]
    omega

/-- The unit in which a number is rounded leaves it 53 digits. -/
theorem nearest_eq (n : Nat) :
    nearest n = divNearest n (2 ^ (n.log2 - 52)) * 2 ^ (n.log2 - 52) := by
  have hunit : n.log2 + 1 - 53 = n.log2 - 52 := Nat.add_sub_add_right _ 1 52
  simp only [nearest, hunit, Nat.pow_eq]

/-- A number of 53 bits needs no rounding. -/
theorem nearest_eq_self (h : n < 2 ^ 53) : nearest n = n := by
  have hlog : n.log2 - 52 = 0 := by
    by_cases hn : n = 0
    · subst hn; rfl
    · have := (Nat.log2_lt hn).2 h
      omega
  have hoff := two_mul_abs_divNearest_sub_le n Nat.one_pos
  rw [nearest_eq, hlog, pow_zero, Nat.mul_one]
  rw [Nat.mul_one] at hoff
  have := abs_nonneg ((divNearest n 1 : Int) - n)
  exact Int.ofNat_inj.1 (sub_eq_zero.1 (abs_eq_zero.1 (by omega)))

/-- A number of 53 significant bits, which is a float unless its exponent is out
    of range. -/
def IsShort (v : ℝ) : Prop :=
  ∃ (m : Nat) (e : Int), m < 2 ^ 53 ∧ v = m * 2 ^ e

theorem isShort_natCast (h : n < 2 ^ 53) : IsShort n :=
  ⟨n, 0, h, by simp⟩

theorem IsShort.mul_two_pow (h : IsShort v) (k : Nat) : IsShort (v * 2 ^ k) := by
  obtain ⟨m, e, hm, rfl⟩ := h
  refine ⟨m, e + k, hm, ?_⟩
  rw [mul_assoc, zpow_add₀ two_ne_zero, zpow_natCast]

/-- A number of 53 significant bits is a multiple of a unit, or it is less than
    `2 ^ 52` units. -/
theorem IsShort.multiple_or_lt (h : IsShort v) (k : Nat) :
    (∃ j : Nat, v = j * 2 ^ k) ∨ v < 2 ^ 52 * 2 ^ k := by
  obtain ⟨m, e, hm, rfl⟩ := h
  by_cases he : (k : Int) ≤ e
  · obtain ⟨d, rfl⟩ := Int.le.dest he
    refine .inl ⟨m * 2 ^ d, ?_⟩
    rw [zpow_add₀ two_ne_zero, zpow_natCast, zpow_natCast]
    push_cast
    ring
  · -- A smaller unit leaves at most `2 ^ 53` halves of the given one.
    right
    have hm' : (m : ℝ) < 2 ^ 53 := by exact_mod_cast hm
    have hpow : (2 : ℝ) ^ e ≤ 2 ^ ((k : Int) - 1) := zpow_le_zpow_right₀ one_le_two (by omega)
    calc (m : ℝ) * 2 ^ e ≤ m * 2 ^ ((k : Int) - 1) := by gcongr
      _ < 2 ^ 53 * 2 ^ ((k : Int) - 1) := mul_lt_mul_of_pos_right hm' (by positivity)
      _ = 2 ^ 52 * 2 ^ k := by
        rw [zpow_sub_one₀ two_ne_zero, zpow_natCast]
        ring

/-- A number stands for a real one if it is the same, or odd and off by less than
    one. -/
def Marks (t : Nat) (s : ℝ) : Prop :=
  s = t ∨ t % 2 = 1 ∧ |s - t| < 1

theorem Marks.abs_nearest_sub_le (h : Marks t s) (ht : 2 ^ 54 ≤ t) :
    2 * |(nearest t : ℝ) - s| ≤ 2 ^ (t.log2 - 52) := by
  have hoff := two_mul_abs_divNearest_sub_le t (Nat.two_pow_pos (t.log2 - 52))
  rw [← nearest_eq] at hoff
  rcases h with rfl | ⟨hodd, hnear⟩
  · exact_mod_cast hoff
  · -- The unit is a multiple of four, so no odd number is half-way between two multiples.
    have hlog : 54 ≤ t.log2 := (Nat.le_log2 (by omega)).2 ht
    obtain ⟨k, hk⟩ : ∃ k, 2 ^ (t.log2 - 52) = 4 * k := pow_dvd_pow 2 (show 2 ≤ t.log2 - 52 by omega)
    have heven : nearest t % 4 = 0 := by
      rw [nearest_eq, hk]
      exact Nat.mod_eq_zero_of_dvd ((Nat.dvd_mul_right 4 k).mul_left _)
    have hint : 2 * |(nearest t : Int) - t| + 2 ≤ ((2 ^ (t.log2 - 52) : Nat) : Int) := by
      rw [hk] at hoff ⊢
      rcases abs_cases ((nearest t : Int) - t) with ⟨habs, -⟩ | ⟨habs, -⟩
      · omega
      · omega
    have hreal : 2 * |(nearest t : ℝ) - t| + 2 ≤ 2 ^ (t.log2 - 52) := by exact_mod_cast hint
    have htri := abs_sub_le (nearest t : ℝ) t s
    rw [abs_sub_comm (t : ℝ) s] at htri
    linarith

theorem Marks.le_of_even (h : Marks t s) {w : Nat} (hw : w % 2 = 0) (hle : w ≤ t) : (w : ℝ) ≤ s := by
  rcases h with rfl | ⟨hodd, hnear⟩
  · exact_mod_cast hle
  · have hlt : (w : ℝ) + 1 ≤ t := by
      have : w + 1 ≤ t := by omega
      exact_mod_cast this
    have := (abs_lt.1 hnear).1
    linarith

/-- No multiple of the unit is nearer than the rounded one. -/
theorem Marks.abs_nearest_sub_le_multiple (h : Marks t s) (ht : 2 ^ 54 ≤ t) (j : Nat) :
    |(nearest t : ℝ) - s| ≤ |j * 2 ^ (t.log2 - 52) - s| := by
  have hhalf := h.abs_nearest_sub_le ht
  have hunit : (nearest t : ℝ) = divNearest t (2 ^ (t.log2 - 52)) * 2 ^ (t.log2 - 52) := by
    exact_mod_cast nearest_eq t
  by_cases hj : j = divNearest t (2 ^ (t.log2 - 52))
  · rw [hunit, hj]
  · -- Other multiples are a whole unit away, so they are half a unit away from `s`.
    have hone : (1 : ℝ) ≤ |(j : ℝ) - divNearest t (2 ^ (t.log2 - 52))| := by
      have : (1 : Int) ≤ |(j : Int) - divNearest t (2 ^ (t.log2 - 52))| :=
        Int.one_le_abs (sub_ne_zero.2 (by exact_mod_cast hj))
      exact_mod_cast this
    have hfar : (2 : ℝ) ^ (t.log2 - 52) ≤ |j * 2 ^ (t.log2 - 52) - (nearest t : ℝ)| := by
      rw [hunit, ← sub_mul, abs_mul, abs_of_pos (show (0 : ℝ) < 2 ^ (t.log2 - 52) by positivity)]
      exact le_mul_of_one_le_left (by positivity) hone
    have htri := abs_sub_le (j * 2 ^ (t.log2 - 52) : ℝ) s (nearest t)
    rw [abs_sub_comm s] at htri
    linarith

/-- No number of 53 significant bits is nearer than the rounded one. -/
theorem Marks.abs_nearest_sub_le_abs (h : Marks t s) (ht : 2 ^ 54 ≤ t) (hv : IsShort v) :
    |(nearest t : ℝ) - s| ≤ |v - s| := by
  rcases hv.multiple_or_lt (t.log2 - 52) with ⟨j, rfl⟩ | hlt
  · exact h.abs_nearest_sub_le_multiple ht j
  · -- Between `v` and `s` there is a multiple of the unit, the greatest power of two.
    have hlog : 54 ≤ t.log2 := (Nat.le_log2 (by omega)).2 ht
    have hle : 2 ^ 52 * 2 ^ (t.log2 - 52) ≤ t := by
      rw [← pow_add, Nat.add_sub_cancel' (by omega)]
      exact Nat.log2_self_le (by omega)
    have hpow := h.le_of_even (w := 2 ^ 52 * 2 ^ (t.log2 - 52)) (by omega) hle
    have hnear := h.abs_nearest_sub_le_multiple ht (2 ^ 52)
    push_cast at hpow hnear
    refine hnear.trans ?_
    rw [abs_of_nonpos (by linarith), abs_of_nonpos (by linarith)]
    linarith

/-! ## Square roots -/

/-- The root that is found digit by digit is the integral square root. -/
theorem floorSqrt_eq_sqrt (n : Nat) : floorSqrt n = Nat.sqrt n := by
  induction n using Nat.strong_induction_on with
  | _ n ih =>
    rw [floorSqrt]
    split
    · next hn => rw [hn, Nat.sqrt_zero]
    · next hn =>
      -- The root is twice that of a quarter, or one more.
      have hlow := Nat.sqrt_le (n / 4)
      have hhigh := Nat.lt_succ_sqrt (n / 4)
      rw [Nat.succ_eq_add_one] at hhigh
      simp only [ih (n / 4) (by omega)]
      generalize Nat.sqrt (n / 4) = half at hlow hhigh ⊢
      split
      · next hle =>
        have hquarter : n < 4 * ((half + 1) * (half + 1)) := by omega
        exact Nat.eq_sqrt.2 ⟨hle, by nlinarith⟩
      · next hlt =>
        have hquarter : 4 * (half * half) ≤ n := by omega
        exact Nat.eq_sqrt.2 ⟨by nlinarith, by omega⟩

/-- The square root of `n` as a float. -/
noncomputable def root (n : Nat) : ℝ :=
  scaledSqrt n / 2 ^ 541

/-- The digits that are computed of a root, with one more that tells whether there are others,
    stand for the root. -/
theorem marks_sqrt (wide : Nat) : Marks
    (2 * Nat.sqrt wide + if Nat.sqrt wide * Nat.sqrt wide = wide then 0 else 1) (2 * √wide) := by
  have hlow := Real.nat_sqrt_le_real_sqrt (a := wide)
  have hhigh := Real.real_sqrt_lt_nat_sqrt_succ (a := wide)
  split
  · next hsq =>
    have hroot : √(wide : ℝ) = Nat.sqrt wide := by
      rw [Real.sqrt_eq_iff_mul_self_eq wide.cast_nonneg (Nat.cast_nonneg _)]
      exact_mod_cast hsq.symm
    left
    rw [hroot, Nat.add_zero, Nat.cast_mul, Nat.cast_ofNat]
  · next hsq =>
    have hlow : (Nat.sqrt wide : ℝ) < √wide := by
      refine lt_of_le_of_ne hlow fun heq => hsq ?_
      have := Real.mul_self_sqrt wide.cast_nonneg
      rw [← heq] at this
      exact_mod_cast this
    refine .inr ⟨by omega, ?_⟩
    push_cast
    rw [abs_lt]
    constructor <;> linarith

theorem sqrt_mul_two_pow (n k : Nat) : √(n : ℝ) * 2 ^ (k + 1) = 2 * √((n * 4 ^ k : Nat) : ℝ) := by
  have hpow : ((n * 4 ^ k : Nat) : ℝ) = n * (2 ^ k) ^ 2 := by
    rw [pow_right_comm, Nat.cast_mul, Nat.cast_pow]
    norm_num only
  rw [hpow, Real.sqrt_mul n.cast_nonneg, Real.sqrt_sq (by positivity), pow_succ]
  ring

theorem two_pow_le_sqrt (hn : 0 < n) (k : Nat) : 2 ^ k ≤ Nat.sqrt (n * 4 ^ k) := by
  rw [Nat.le_sqrt, ← mul_pow]
  exact Nat.le_mul_of_pos_left _ hn

/-- With `k` digits behind the point and the one that tells of others, a root is rounded as
    the exact one would be. -/
theorem abs_nearest_sqrt_sub_le {k : Nat} (hn : 0 < n) (hk : 53 ≤ k) (hv : IsShort v) :
    |(nearest (2 * Nat.sqrt (n * 4 ^ k) +
      if Nat.sqrt (n * 4 ^ k) * Nat.sqrt (n * 4 ^ k) = n * 4 ^ k then 0 else 1) : ℝ) -
        √n * 2 ^ (k + 1)| ≤ |v - √n| * 2 ^ (k + 1) := by
  have hmarks := marks_sqrt (n * 4 ^ k)
  rw [← sqrt_mul_two_pow] at hmarks
  have hlarge := (Nat.pow_le_pow_right two_pos hk).trans (two_pow_le_sqrt hn k)
  have hnear := hmarks.abs_nearest_sub_le_abs (by omega) (hv.mul_two_pow (k + 1))
  have hscale : (0 : ℝ) < 2 ^ (k + 1) := pow_pos two_pos _
  rwa [← sub_mul, abs_mul, abs_of_pos hscale] at hnear

theorem scaledSqrt_eq (n : Nat) : scaledSqrt n = nearest (2 * Nat.sqrt (n * 4 ^ 540) +
    if Nat.sqrt (n * 4 ^ 540) * Nat.sqrt (n * 4 ^ 540) = n * 4 ^ 540 then 0 else 1) := by
  have hpow (m k : Nat) : Nat.pow m k = m ^ k := rfl
  simp only [scaledSqrt, floorSqrt_eq_sqrt, hpow]

/-- No float is nearer to the exact square root. -/
theorem abs_root_sub_sqrt_le (n : Nat) (hv : IsShort v) : |root n - √n| ≤ |v - √n| := by
  rcases Nat.eq_zero_or_pos n with rfl | hn
  · have hzero : scaledSqrt 0 = 0 := by decide +kernel
    simp [root, hzero]
  · have hscale : (0 : ℝ) < 2 ^ (540 + 1) := pow_pos two_pos _
    have hroot : (scaledSqrt n : ℝ) = root n * 2 ^ (540 + 1) := (div_mul_cancel₀ _ hscale.ne').symm
    have hnear := abs_nearest_sqrt_sub_le hn (by omega : 53 ≤ 540) hv
    rw [← scaledSqrt_eq, hroot, ← sub_mul, abs_mul, abs_of_pos hscale] at hnear
    exact le_of_mul_le_mul_right hnear hscale

/-- A float below the exact root is not above the rounded one. -/
theorem le_root (hv : IsShort v) (h : v ≤ √n) : v ≤ root n := by
  by_contra hlt
  have hnear := abs_root_sub_sqrt_le n hv
  rw [abs_of_nonpos (by linarith), abs_of_nonpos (by linarith)] at hnear
  linarith

/-- A float above the exact root is not below the rounded one. -/
theorem root_le (hv : IsShort v) (h : √n ≤ v) : root n ≤ v := by
  by_contra hlt
  have hnear := abs_root_sub_sqrt_le n hv
  rw [abs_of_nonneg (by linarith), abs_of_nonneg (by linarith)] at hnear
  linarith

/-! ## Rounding up -/

theorem ceilSqrt_le_iff_root_le : ceilSqrt n ≤ c ↔ root n ≤ c := by
  rw [ceilSqrt, root]
  -- Whatever the scale is.
  generalize 541 = k
  have hpos : 0 < Nat.pow 2 k := Nat.two_pow_pos k
  rw [Nat.div_le_iff_le_mul_add_pred hpos, Nat.add_le_add_iff_right, Nat.mul_comm,
    div_le_iff₀ (by positivity)]
  exact_mod_cast Iff.rfl

/-- Up to `2 ^ 52` the rounded root serves as well as the exact one. -/
theorem ceilSqrt_le_iff (hn : n ≤ 2 ^ 52) : ceilSqrt n ≤ c ↔ n ≤ c * c := by
  rw [ceilSqrt_le_iff_root_le]
  constructor
  · intro hroot
    by_contra hlt
    -- Then the root exceeds `c` by so much that a float is in between.
    have hc : c < 2 ^ 26 := by nlinarith
    have hshort : IsShort (c + 1 / 2 ^ 27) := by
      refine ⟨c * 2 ^ 27 + 1, -27, by omega, ?_⟩
      rw [zpow_neg]
      push_cast
      field_simp
      norm_num
    have hsqrt : (c + 1 / 2 ^ 27 : ℝ) ≤ √n := by
      refine Real.le_sqrt_of_sq_le ?_
      have hc' : (c : ℝ) + 1 ≤ 2 ^ 26 := by exact_mod_cast hc
      have hn' : (c * c + 1 : ℝ) ≤ n := by exact_mod_cast Nat.lt_of_not_le hlt
      nlinarith
    have := le_root hshort hsqrt
    have : (0 : ℝ) < 1 / 2 ^ 27 := by positivity
    linarith
  · intro hle
    wlog hc : c ≤ 2 ^ 26 generalizing c
    · have := this (c := 2 ^ 26) (by omega) le_rfl
      refine this.trans ?_
      exact_mod_cast (by omega : 2 ^ 26 ≤ c)
    refine root_le (isShort_natCast (by omega)) ?_
    rw [Real.sqrt_le_left c.cast_nonneg]
    exact_mod_cast (sq c).symm ▸ hle

/-- The bound is sharp: the next root is rounded down. -/
example : ceilSqrt (2 ^ 52 + 1) = 2 ^ 26 := by decide +kernel

end FlowScript.Binary64
