import Mathlib.Algebra.Order.Floor.Ring
import Mathlib.Algebra.Order.BigOperators.Group.List
import Mathlib.Algebra.BigOperators.Ring.List
import Mathlib.Data.Rat.Floor
import Mathlib.Tactic.Linarith
import Mathlib.Tactic.FieldSimp
import Mathlib.Tactic.Ring
import Mathlib.Tactic.Positivity
import Mathlib.Tactic.GCongr

/-!
# Rounding half to even, and decimal grids

`roundHalfEven x` is the integer nearest to `x`, the even one of two; `roundTo d x` is the
nearest multiple of `10 ^ (-d)`.  `OnGrid d x` says that `x` is such a multiple: rounding
to `d` decimals lands on the grid, moves nothing that is on it, and the grid is closed
under sums and differences.
-/

set_option autoImplicit false

namespace MediaCenter.Library

section Integers

variable {K : Type} [Field K] [LinearOrder K] [FloorRing K]

/-- The nearest integer, ties to the even one. -/
def roundHalfEven (x : K) : ℤ :=
  if 2 * Int.fract x < 1 then ⌊x⌋
  else if 1 < 2 * Int.fract x then ⌊x⌋ + 1
  else if ⌊x⌋ % 2 = 0 then ⌊x⌋ else ⌊x⌋ + 1

variable [IsStrictOrderedRing K]

/-- INTERNAL: an integer is not moved. -/
@[simp] theorem roundHalfEven_intCast (n : ℤ) : roundHalfEven (n : K) = n := by
  unfold roundHalfEven
  rw [Int.fract_intCast, Int.floor_intCast]
  simp

@[simp] theorem roundHalfEven_zero : roundHalfEven (0 : K) = 0 := by
  simpa using roundHalfEven_intCast (K := K) 0

omit [IsStrictOrderedRing K] in
/-- INTERNAL: the rounded value is the floor or one more. -/
theorem floor_le_roundHalfEven (x : K) : ⌊x⌋ ≤ roundHalfEven x := by
  unfold roundHalfEven
  split_ifs <;> omega

omit [IsStrictOrderedRing K] in
theorem roundHalfEven_le_floor_add_one (x : K) : roundHalfEven x ≤ ⌊x⌋ + 1 := by
  unfold roundHalfEven
  split_ifs <;> omega

/-- INTERNAL: rounding is monotone. -/
theorem roundHalfEven_mono {x y : K} (h : x ≤ y) : roundHalfEven x ≤ roundHalfEven y := by
  rcases (Int.floor_mono h).lt_or_eq with hlt | heq
  · calc roundHalfEven x ≤ ⌊x⌋ + 1 := roundHalfEven_le_floor_add_one x
      _ ≤ ⌊y⌋ := hlt
      _ ≤ roundHalfEven y := floor_le_roundHalfEven y
  · have hfract : Int.fract x ≤ Int.fract y := by
      unfold Int.fract
      rw [heq]
      linarith
    unfold roundHalfEven
    rw [heq]
    split_ifs <;> first | omega | (exfalso; linarith)

theorem roundHalfEven_nonneg {x : K} (h : 0 ≤ x) : 0 ≤ roundHalfEven x := by
  simpa using roundHalfEven_mono h

/-- INTERNAL: what is rounded above an integer lies over the middle, or on it after an odd one. -/
theorem lt_roundHalfEven_iff (k : ℤ) (x : K) :
    k < roundHalfEven x ↔ (k : K) + 1 / 2 < x ∨ ((k : K) + 1 / 2 = x ∧ ¬ Even k) := by
  have hx := Int.floor_add_fract x
  have h0 := Int.fract_nonneg x
  have h1 := Int.fract_lt_one x
  rcases lt_trichotomy ⌊x⌋ k with hlt | heq | hgt
  · -- the floor is below: so is the middle before `k`
    have hle : roundHalfEven x ≤ k := le_trans (roundHalfEven_le_floor_add_one x) hlt
    have hcast : (⌊x⌋ : K) + 1 ≤ k := by exact_mod_cast hlt
    constructor
    · intro h
      exact absurd h (not_lt.mpr hle)
    · rintro (h | ⟨h, _⟩)
      · linarith
      · linarith
  · rw [← heq, Int.even_iff]
    unfold roundHalfEven
    split_ifs with hlow hhigh heven
    · constructor
      · intro h
        exact absurd h (lt_irrefl _)
      · rintro (h | ⟨h, _⟩)
        · linarith
        · linarith
    · constructor
      · intro _
        left
        linarith
      · intro _
        exact Int.lt_succ _
    · constructor
      · intro h
        exact absurd h (lt_irrefl _)
      · rintro (h | ⟨_, hodd⟩)
        · linarith
        · exact absurd heven hodd
    · constructor
      · intro _
        right
        refine ⟨?_, heven⟩
        linarith
      · intro _
        exact Int.lt_succ _
  · have hcast : (k : K) + 1 ≤ ⌊x⌋ := by exact_mod_cast hgt
    constructor
    · intro _
      left
      linarith
    · intro _
      exact lt_of_lt_of_le hgt (floor_le_roundHalfEven x)

/-- INTERNAL: half a unit away from an even number, rounding goes to that number. -/
theorem roundHalfEven_le_iff_of_even {m : ℤ} (hm : Even m) (x : K) :
    roundHalfEven x ≤ m ↔ x ≤ (m : K) + 1 / 2 := by
  rw [← not_lt, lt_roundHalfEven_iff, not_or, not_lt]
  constructor
  · exact fun h => h.1
  · exact fun h => ⟨h, fun hodd => hodd.2 hm⟩

theorem le_roundHalfEven_iff_of_even {m : ℤ} (hm : Even m) (x : K) :
    m ≤ roundHalfEven x ↔ (m : K) - 1 / 2 ≤ x := by
  have hodd : ¬ Even (m - 1) := by
    rw [Int.even_sub_one, not_not]
    exact hm
  have hmiddle : ((m - 1 : ℤ) : K) + 1 / 2 = (m : K) - 1 / 2 := by
    push_cast
    ring
  rw [← Int.sub_one_lt_iff, lt_roundHalfEven_iff, hmiddle, le_iff_lt_or_eq]
  constructor
  · rintro (h | ⟨h, _⟩)
    · exact .inl h
    · exact .inr h
  · rintro (h | h)
    · exact .inl h
    · exact .inr ⟨h, hodd⟩

end Integers

section Grid

variable {K : Type} [Field K] [LinearOrder K] [FloorRing K]

/-- `round(x, d)`: the nearest number with `d` decimals, ties to the even last digit. -/
def roundTo (d : ℕ) (x : K) : K := (roundHalfEven (x * 10 ^ d) : K) / 10 ^ d

/-- The numbers with `d` decimals. -/
def OnGrid (d : ℕ) (x : K) : Prop := ∃ n : ℤ, x = (n : K) / 10 ^ d

theorem onGrid_roundTo (d : ℕ) (x : K) : OnGrid d (roundTo d x) := ⟨_, rfl⟩

omit [LinearOrder K] [FloorRing K] in
theorem OnGrid.zero (d : ℕ) : OnGrid d (0 : K) := ⟨0, by simp⟩

omit [LinearOrder K] [FloorRing K] in
theorem OnGrid.add {d : ℕ} {x y : K} (hx : OnGrid d x) (hy : OnGrid d y) :
    OnGrid d (x + y) := by
  obtain ⟨m, rfl⟩ := hx
  obtain ⟨n, rfl⟩ := hy
  exact ⟨m + n, by push_cast; ring⟩

omit [LinearOrder K] [FloorRing K] in
theorem OnGrid.sub {d : ℕ} {x y : K} (hx : OnGrid d x) (hy : OnGrid d y) :
    OnGrid d (x - y) := by
  obtain ⟨m, rfl⟩ := hx
  obtain ⟨n, rfl⟩ := hy
  exact ⟨m - n, by push_cast; ring⟩

omit [LinearOrder K] [FloorRing K] in
/-- INTERNAL: a sum of numbers with `d` decimals has `d` decimals. -/
theorem OnGrid.sum {d : ℕ} {l : List K} (h : ∀ x ∈ l, OnGrid d x) : OnGrid d l.sum := by
  induction l with
  | nil => exact OnGrid.zero d
  | cons x l ih =>
      rw [List.sum_cons]
      exact (h x (by simp)).add (ih fun y hy => h y (by simp [hy]))

variable [IsStrictOrderedRing K]

omit [FloorRing K] in
theorem OnGrid.one (d : ℕ) : OnGrid d (1 : K) := by
  have hpow : (10 : K) ^ d ≠ 0 := by positivity
  exact ⟨10 ^ d, by push_cast; field_simp⟩

/-- INTERNAL: a number with `d` decimals is not moved. -/
theorem roundTo_of_onGrid {d : ℕ} {x : K} (h : OnGrid d x) : roundTo d x = x := by
  obtain ⟨n, rfl⟩ := h
  have hpow : (10 : K) ^ d ≠ 0 := by positivity
  unfold roundTo
  rw [div_mul_cancel₀ _ hpow, roundHalfEven_intCast]

@[simp] theorem roundTo_zero (d : ℕ) : roundTo d (0 : K) = 0 :=
  roundTo_of_onGrid (OnGrid.zero d)

theorem roundTo_mono (d : ℕ) {x y : K} (h : x ≤ y) : roundTo d x ≤ roundTo d y := by
  have hpow : (0 : K) < 10 ^ d := by positivity
  have hle : roundHalfEven (x * 10 ^ d) ≤ roundHalfEven (y * 10 ^ d) :=
    roundHalfEven_mono (by gcongr)
  unfold roundTo
  gcongr

theorem roundTo_nonneg (d : ℕ) {x : K} (h : 0 ≤ x) : 0 ≤ roundTo d x := by
  simpa using roundTo_mono d h

/-- INTERNAL: between two steps of the grid, to be above a number is to be above the step
before it. -/
theorem lt_roundTo_iff_floor (d : ℕ) (x y : K) :
    y < roundTo d x ↔ ⌊y * 10 ^ d⌋ < roundHalfEven (x * 10 ^ d) := by
  have hpow : (0 : K) < 10 ^ d := by positivity
  unfold roundTo
  rw [lt_div_iff₀ hpow, Int.floor_lt]

/-- INTERNAL: a bound with an even last digit is passed by the rounded number exactly if the
number passes it by more than half a unit. -/
theorem roundTo_le_iff_of_even {d : ℕ} {m : ℤ} (hm : Even m) (x : K) :
    roundTo d x ≤ (m : K) / 10 ^ d ↔ x ≤ (m : K) / 10 ^ d + 1 / 2 / 10 ^ d := by
  have hpow : (0 : K) < 10 ^ d := by positivity
  unfold roundTo
  rw [div_le_div_iff_of_pos_right hpow, Int.cast_le, roundHalfEven_le_iff_of_even hm, ← add_div,
    le_div_iff₀ hpow]

theorem le_roundTo_iff_of_even {d : ℕ} {m : ℤ} (hm : Even m) (x : K) :
    (m : K) / 10 ^ d ≤ roundTo d x ↔ (m : K) / 10 ^ d - 1 / 2 / 10 ^ d ≤ x := by
  have hpow : (0 : K) < 10 ^ d := by positivity
  unfold roundTo
  rw [div_le_div_iff_of_pos_right hpow, Int.cast_le, le_roundHalfEven_iff_of_even hm, ← sub_div,
    div_le_iff₀ hpow]

end Grid

end MediaCenter.Library
