import Mathlib.Data.Rat.Defs
import MediaCenter.Library.Text

/-!
# Integers as decimal text

`int(text)` and `str(n)` of Python.  A literal is an optional sign and digits of any
script, with single underscores allowed between them; both directions refuse numbers of more
than `maxStrDigits` digits.
-/

set_option autoImplicit false

namespace MediaCenter.Library

namespace Decimal

/-- `sys.get_int_max_str_digits()`. -/
def maxStrDigits : ℕ := 4300

/-- The value of a decimal digit of some script. -/
def decimalValue (c : Char) : Option ℕ :=
  (Text.decimalZeros.find? fun z => decide (z ≤ c.toNat) && decide (c.toNat ≤ z + 9)).map
    fun z => c.toNat - z

/-- The digits of an unsigned literal. -/
def parseDigits : List Char → Option (List ℕ)
  | [] => none
  | [c] => (decimalValue c).map fun d => [d]
  | c :: '_' :: cs => do return (← decimalValue c) :: (← parseDigits cs)
  | c :: c' :: cs => do return (← decimalValue c) :: (← parseDigits (c' :: cs))

def parseNat (l : List Char) : Option ℕ := do
  let digits ← parseDigits l
  if maxStrDigits < digits.length then none
  else some (digits.foldl (fun acc d => 10 * acc + d) 0)

/-- `int(text)`, `none` where it raises `ValueError`. -/
def parseInt (s : String) : Option ℤ :=
  match (Text.strip s).toList with
  | '-' :: l => (parseNat l).map fun n => -(n : ℤ)
  | '+' :: l => (parseNat l).map Int.ofNat
  | l => (parseNat l).map Int.ofNat

/-- `str(n)`, `none` where it raises `ValueError`. -/
def formatInt (n : ℤ) : Option String :=
  if maxStrDigits < (Nat.toDigits 10 n.natAbs).length then none else some (toString n)

theorem decimalValue_of_isDigit {c : Char} (h : c.isDigit = true) :
    decimalValue c = some (c.toNat - '0'.toNat) := by
  simp only [Char.isDigit, Bool.and_eq_true, decide_eq_true_eq, ge_iff_le,
    UInt32.le_iff_toNat_le] at h
  have hlo : 48 ≤ c.toNat := h.1
  have hhi : c.toNat ≤ 57 := h.2
  simp [decimalValue, Text.decimalZeros, hlo, hhi]

theorem parseDigits_of_isDigit (c : Char) (cs : List Char)
    (h : ∀ d ∈ c :: cs, d.isDigit = true) :
    parseDigits (c :: cs) = some ((c :: cs).map fun d => d.toNat - '0'.toNat) := by
  induction cs generalizing c with
  | nil => simp [parseDigits, decimalValue_of_isDigit (h c (by simp))]
  | cons c' cs ih =>
      have hne : c' ≠ '_' := by
        rintro rfl
        exact absurd (h '_' (by simp)) (by decide)
      have htail := ih c' (fun d hd => h d (List.mem_cons_of_mem c hd))
      rw [parseDigits, decimalValue_of_isDigit (h c (by simp)), htail]
      · rfl
      · exact hne

theorem parseNat_toDigits (n : ℕ) (h : (Nat.toDigits 10 n).length ≤ maxStrDigits) :
    parseNat (Nat.toDigits 10 n) = some n := by
  have hdigits : ∀ d ∈ Nat.toDigits 10 n, d.isDigit = true := fun d hd =>
    Nat.isDigit_of_mem_toDigits (by omega) (by omega) hd
  have hvalue : Nat.ofDigitChars 10 (Nat.toDigits 10 n) 0 = n := by simp
  rw [Nat.ofDigitChars_eq_foldl] at hvalue
  cases hl : Nat.toDigits 10 n with
  | nil => simp [hl] at hvalue; simp [← hvalue] at hl
  | cons c cs =>
      rw [hl] at hdigits hvalue h
      rw [parseNat, parseDigits_of_isDigit c cs hdigits]
      simp only [Option.bind_eq_bind, Option.bind_some, List.length_map, List.foldl_map]
      rw [if_neg (not_lt.mpr h), hvalue]

/-- INTERNAL: no character of a written number is white space, so it is read as it
stands. -/
theorem visible_of_isDigit {c : Char} (h : c.isDigit = true) : Text.Visible c := by
  simp only [Char.isDigit, Bool.and_eq_true, decide_eq_true_eq, ge_iff_le,
    UInt32.le_iff_toNat_le] at h
  have hlo : 48 ≤ c.toNat := h.1
  have hhi : c.toNat ≤ 57 := h.2
  unfold Text.Visible
  omega

theorem toList_toString (n : ℤ) : (toString n).toList =
    if n < 0 then '-' :: Nat.toDigits 10 n.natAbs else Nat.toDigits 10 n.natAbs := by
  cases n with
  | ofNat m =>
      have h : ¬ Int.ofNat m < 0 := by simp
      rw [if_neg h]
      exact Nat.toList_repr
  | negSucc m =>
      rw [if_pos (Int.negSucc_lt_zero m)]
      show ("-" ++ (m + 1).repr).toList = _
      rw [String.toList_append, Nat.toList_repr]
      rfl

theorem visible_toString (n : ℤ) : ∀ c ∈ (toString n).toList, Text.Visible c := by
  have hdigits : ∀ c ∈ Nat.toDigits 10 n.natAbs, Text.Visible c := fun c hc =>
    visible_of_isDigit (Nat.isDigit_of_mem_toDigits (by omega) (by omega) hc)
  intro c hc
  rw [toList_toString] at hc
  split at hc
  · rw [List.mem_cons] at hc
    rcases hc with rfl | hc
    · exact ⟨by decide, by decide⟩
    · exact hdigits c hc
  · exact hdigits c hc

/-- INTERNAL: a number that can be written is read back. -/
theorem parseInt_formatInt {n : ℤ} {s : String} (h : formatInt n = some s) :
    parseInt s = some n := by
  unfold formatInt at h
  split at h
  · cases h
  · rename_i hlength
    cases h
    have hnat := parseNat_toDigits n.natAbs (not_lt.mp hlength)
    rw [parseInt, Text.strip_of_forall_visible (visible_toString n), toList_toString]
    by_cases hn : n < 0
    · rw [if_pos hn]
      have hcast : -(n.natAbs : ℤ) = n := by omega
      simp only [hnat]
      show some (-(n.natAbs : ℤ)) = some n
      rw [hcast]
    · rw [if_neg hn]
      have hsign : ∀ c ∈ Nat.toDigits 10 n.natAbs, c ≠ '-' ∧ c ≠ '+' := by
        intro c hc
        have hdigit := Nat.isDigit_of_mem_toDigits (by omega) (by omega) hc
        constructor <;> (rintro rfl; exact absurd hdigit (by decide))
      have hcast : Int.ofNat n.natAbs = n := by
        rw [Int.ofNat_eq_natCast]
        omega
      cases hl : Nat.toDigits 10 n.natAbs with
      | nil => rw [hl] at hnat; cases hnat
      | cons c cs =>
          have hc := hsign c (by simp [hl])
          rw [hl] at hnat
          split
          · rename_i heq
            exact absurd (List.cons.inj heq).1 hc.1
          · rename_i heq
            exact absurd (List.cons.inj heq).1 hc.2
          · rw [hnat, Option.map_some, hcast]

theorem natAbs_eq_of_toDigits_eq {m n : ℤ}
    (h : Nat.toDigits 10 m.natAbs = Nat.toDigits 10 n.natAbs) : m.natAbs = n.natAbs := by
  have hvalue := congrArg (fun l => Nat.ofDigitChars 10 l 0) h
  simpa using hvalue

theorem toString_injective {m n : ℤ} (h : toString m = toString n) : m = n := by
  have hsign : ∀ k l, '-' :: l ≠ Nat.toDigits 10 k := by
    intro k l heq
    have hdigit := Nat.isDigit_of_mem_toDigits (b := 10) (n := k) (c := '-') (by omega)
      (by omega) (by rw [← heq]; exact List.mem_cons_self)
    exact absurd hdigit (by decide)
  have hlist := congrArg String.toList h
  rw [toList_toString, toList_toString] at hlist
  by_cases hm : m < 0
  · by_cases hn : n < 0
    · rw [if_pos hm, if_pos hn] at hlist
      have habs := natAbs_eq_of_toDigits_eq (List.cons.inj hlist).2
      omega
    · rw [if_pos hm, if_neg hn] at hlist
      exact absurd hlist (hsign _ _)
  · by_cases hn : n < 0
    · rw [if_neg hm, if_pos hn] at hlist
      exact absurd hlist.symm (hsign _ _)
    · rw [if_neg hm, if_neg hn] at hlist
      have habs := natAbs_eq_of_toDigits_eq hlist
      omega

theorem not_mem_toString {n : ℤ} {c : Char} (h : ¬ Text.Visible c) :
    c ∉ (toString n).toList :=
  fun hc => h (visible_toString n c hc)

end Decimal

end MediaCenter.Library
