import Mathlib.Data.Int.Log
import Mathlib.Data.Nat.Log
import MediaCenter.Library.RoundHalfEven

/-!
# Binary64 numbers

A `float` has 53 significant bits.  An integer becomes the nearest one, the even one of two, and
none at all where it is too large; so does the exact result of an operation.
-/

set_option autoImplicit false

namespace MediaCenter.Library.Binary64

/-- Integers from here on are too large. -/
def bound : ℤ := 2 ^ 1024 - 2 ^ 970

/-- The distance between the numbers around an integer, if it has more than 53 bits. -/
def spacing (n : ℤ) : ℚ := 2 ^ (Nat.log 2 n.natAbs - 52)

/-- `float(n)`, `none` where it raises `OverflowError`. -/
def ofInt (n : ℤ) : Option ℚ :=
  if bound ≤ |n| then none else some (roundHalfEven ((n : ℚ) / spacing n) * spacing n)

/-- The distance between the numbers around a rational one; the smallest is `2 ^ (-1074)`. -/
def gap (q : ℚ) : ℚ := 2 ^ max (Int.log 2 |q| - 52) (-1074)

/-- The number nearest to a rational one, `none` where it is infinite: the result of an operation
on numbers is the nearest one to the exact result. -/
def nearest (q : ℚ) : Option ℚ :=
  let rounded := roundHalfEven (q / gap q) * gap q
  if 2 ^ 1024 ≤ |rounded| then none else some rounded

/-- `x // n` of a number and a positive integer: the remainder is exact, the difference and the
quotient are rounded, and the result is an integer. -/
def floorDiv (x : ℚ) (n : ℤ) : Option ℤ := do
  let w ← ofInt n
  let remainder := x - w * (if 0 ≤ x then ⌊x / w⌋ else ⌈x / w⌉)
  let difference ← nearest (x - remainder)
  let quotient ← nearest (difference / w)
  let quotient ← if remainder < 0 then nearest (quotient - 1) else some quotient
  return if 1 / 2 < quotient - ⌊quotient⌋ then ⌊quotient⌋ + 1 else ⌊quotient⌋

theorem ofInt_eq_none {n : ℤ} (h : bound ≤ |n|) : ofInt n = none := by
  unfold ofInt
  rw [if_pos h]

theorem ofInt_eq_none_iff {n : ℤ} : ofInt n = none ↔ bound ≤ |n| := by
  refine ⟨fun h => ?_, ofInt_eq_none⟩
  by_contra hlt
  unfold ofInt at h
  rw [if_neg hlt] at h
  cases h

/-- INTERNAL: an integer of at most 53 bits is kept. -/
theorem ofInt_of_lt {n : ℤ} (h : |n| < 2 ^ 53) : ofInt n = some (n : ℚ) := by
  have hbound : ¬ bound ≤ |n| := by
    have hlarge : (2 : ℤ) ^ 53 ≤ bound := by decide +kernel
    omega
  have hspacing : spacing n = 1 := by
    have hsmall : n.natAbs < 2 ^ 53 := by
      rw [Int.abs_eq_natAbs] at h
      exact_mod_cast h
    have hlog : Nat.log 2 n.natAbs < 53 := Nat.log_lt_of_lt_pow' (by decide) hsmall
    have hzero : Nat.log 2 n.natAbs - 52 = 0 := by omega
    unfold spacing
    rw [hzero, pow_zero]
  unfold ofInt
  rw [if_neg hbound, hspacing, div_one, mul_one, roundHalfEven_intCast]

theorem ofInt_nonneg {n : ℤ} {x : ℚ} (hn : 0 ≤ n) (h : ofInt n = some x) : 0 ≤ x := by
  unfold ofInt at h
  split at h
  · cases h
  · cases h
    have hspacing : 0 ≤ spacing n := by
      unfold spacing
      positivity
    have hround := roundHalfEven_nonneg (div_nonneg (Int.cast_nonneg hn : (0 : ℚ) ≤ n) hspacing)
    exact mul_nonneg (Int.cast_nonneg hround) hspacing

theorem nearest_nonneg {q x : ℚ} (hq : 0 ≤ q) (h : nearest q = some x) : 0 ≤ x := by
  unfold nearest at h
  dsimp only at h
  split at h
  · cases h
  · cases h
    have hgap : 0 ≤ gap q := zpow_nonneg (by norm_num) _
    exact mul_nonneg (Int.cast_nonneg (roundHalfEven_nonneg (div_nonneg hq hgap))) hgap

/-- INTERNAL: an integer of at most 53 bits is the number nearest to it. -/
theorem nearest_intCast {n : ℤ} (h : |n| < 2 ^ 53) : nearest n = some (n : ℚ) := by
  have hlog : Int.log 2 |(n : ℚ)| < 53 := by
    rcases eq_or_ne n 0 with rfl | hn
    · simp
    · rw [← Int.lt_zpow_iff_log_lt (by omega) (abs_pos.mpr (Int.cast_ne_zero.mpr hn))]
      exact_mod_cast h
  obtain ⟨k, hk⟩ : ∃ k : ℕ, max (Int.log 2 |(n : ℚ)| - 52) (-1074) = -k :=
    ⟨(-max (Int.log 2 |(n : ℚ)| - 52) (-1074)).toNat, by omega⟩
  have hgap : gap n = (2 ^ k)⁻¹ := by
    unfold gap
    rw [hk, zpow_neg, zpow_natCast]
  have hrounded : roundHalfEven ((n : ℚ) / gap n) * gap n = (n : ℚ) := by
    have hscaled : (n : ℚ) / gap n = ((n * 2 ^ k : ℤ) : ℚ) := by
      rw [hgap, div_inv_eq_mul]
      push_cast
      rfl
    rw [hscaled, roundHalfEven_intCast, ← hscaled, div_mul_cancel₀]
    rw [hgap]
    positivity
  have hsmall : ¬ (2 : ℚ) ^ 1024 ≤ |(n : ℚ)| := by
    rw [not_le]
    calc |(n : ℚ)| < 2 ^ 53 := by exact_mod_cast h
      _ ≤ 2 ^ 1024 := pow_le_pow_right₀ (by norm_num) (by norm_num)
  unfold nearest
  rw [hrounded, if_neg hsmall]

/-- INTERNAL: nothing is rounded below `2 ^ 53`. -/
theorem floorDiv_of_lt {x : ℚ} {n : ℤ} (hx : 0 ≤ x) (hlt : x < 2 ^ 53) (hn : 0 < n)
    (hsmall : n < 2 ^ 53) : floorDiv x n = some ⌊x / n⌋ := by
  have hpos : (0 : ℚ) < n := Int.cast_pos.mpr hn
  have hfloor : (0 : ℤ) ≤ ⌊x / n⌋ := Int.floor_nonneg.mpr (div_nonneg hx hpos.le)
  have hproduct : (n : ℚ) * ⌊x / n⌋ ≤ x := by
    have hle := Int.floor_le (x / n)
    rwa [le_div_iff₀ hpos, mul_comm] at hle
  have hmultiple : |n * ⌊x / n⌋| < 2 ^ 53 := by
    rw [abs_of_nonneg (mul_nonneg hn.le hfloor)]
    exact_mod_cast hproduct.trans_lt hlt
  have hquotient : |⌊x / n⌋| < 2 ^ 53 := by
    rw [abs_of_nonneg hfloor]
    rw [abs_of_nonneg (mul_nonneg hn.le hfloor)] at hmultiple
    nlinarith
  have hdifference : nearest ((n : ℚ) * ⌊x / n⌋) = some ((n : ℚ) * ⌊x / n⌋) := by
    have hexact := nearest_intCast hmultiple
    push_cast at hexact
    exact hexact
  unfold floorDiv
  rw [ofInt_of_lt (abs_lt.mpr ⟨by omega, hsmall⟩)]
  simp only [Option.bind_eq_bind, Option.bind_some, if_pos hx, sub_sub_cancel, hdifference,
    mul_div_cancel_left₀ _ hpos.ne', nearest_intCast hquotient]
  rw [if_neg (by linarith), Int.floor_intCast, sub_self, if_neg (by norm_num)]
  rfl

theorem floorDiv_nonneg {x : ℚ} {n k : ℤ} (hx : 0 ≤ x) (hn : 0 ≤ n)
    (h : floorDiv x n = some k) : 0 ≤ k := by
  unfold floorDiv at h
  simp only [Option.bind_eq_bind, Option.bind_eq_some_iff, if_pos hx, sub_sub_cancel] at h
  obtain ⟨w, hw, difference, hdifference, quotient, hquotient, hk⟩ := h
  have hwpos := ofInt_nonneg hn hw
  have hfloor : (0 : ℤ) ≤ ⌊x / w⌋ := Int.floor_nonneg.mpr (div_nonneg hx hwpos)
  have hproduct : w * (⌊x / w⌋ : ℚ) ≤ x := by
    rcases hwpos.eq_or_lt with hzero | hpos
    · rw [← hzero, zero_mul]
      exact hx
    · have := Int.floor_le (x / w)
      rwa [le_div_iff₀ hpos, mul_comm] at this
  have hdiff := nearest_nonneg (mul_nonneg hwpos (Int.cast_nonneg hfloor)) hdifference
  have hquot := nearest_nonneg (div_nonneg hdiff hwpos) hquotient
  have hresult : 0 ≤ ⌊quotient⌋ := Int.floor_nonneg.mpr hquot
  rw [if_neg (by linarith), Option.bind_some] at hk
  cases hk
  split <;> omega

end MediaCenter.Library.Binary64
