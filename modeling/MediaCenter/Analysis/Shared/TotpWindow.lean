import MediaCenter.Analysis.Shared.TotpCodes
import MediaCenter.Library.Bytes
import MediaCenter.Model.Shared.Reference

/-!
# Which codes are answered

`verify_totp` compares a code with the codes of the steps around an instant, from the earliest on.
It raises where the comparison does (a digit outside ASCII) and where it gets to a step that does
not fit into eight bytes.
-/

set_option autoImplicit false

namespace MediaCenter.Shared

open MediaCenter.Library

/-! ## One code after another -/

section Steps

variable {py : Stdlib} {service : TOTPService} {secret code : String} {counter : ℤ}

namespace TOTPService

/-- The code belongs to this step. -/
def MadeAt (py : Stdlib) (service : TOTPService) (secret code : String) (step : ℤ) : Prop :=
  0 ≤ step ∧ hotp py secret step service.digits = .ok code

/-- The code belongs to a step around this one. -/
def InWindow (py : Stdlib) (service : TOTPService) (secret code : String) (counter : ℤ) : Prop :=
  ∃ step, |step - counter| ≤ service.allowedDriftSteps ∧ MadeAt py service secret code step

theorem hotp_eq_error {key : List ℕ} (hkey : decodeTotpSecret py secret = .ok key)
    (hlarge : 2 ^ 64 ≤ counter) (digits : ℕ) : ∃ e, hotp py secret counter digits = .error e := by
  unfold hotp counterBytes
  rw [hkey, if_neg (by omega), if_neg (not_lt.mpr hlarge)]
  exact ⟨_, rfl⟩

theorem lt_of_madeAt {step : ℤ} (h : MadeAt py service secret code step) : step < 2 ^ 64 := by
  obtain ⟨key, message, _, hmessage, _⟩ := hotp_eq_ok_iff.mp h.2
  unfold counterBytes at hmessage
  rw [if_neg (not_lt.mpr h.1)] at hmessage
  split at hmessage
  · assumption
  · cases hmessage

theorem compareDigest_of_ascii {expected : String} (hexpected : IsCode service.digits expected)
    (hcode : Bytes.IsAscii code) : compareDigest expected code = .ok (decide (expected = code)) := by
  unfold compareDigest
  rw [if_pos]
  rw [List.all_eq_true]
  intro c hc
  rw [decide_eq_true_eq]
  rcases List.mem_append.mp hc with hc | hc
  · exact lt_of_le_of_lt (toNat_of_isDigit (hexpected.2 c hc)).2 (by decide)
  · exact hcode c hc

theorem compareDigest_eq_error (expected : String) (hcode : ¬ Bytes.IsAscii code) :
    ∃ e, compareDigest expected code = .error e := by
  unfold compareDigest
  rw [if_neg]
  · exact ⟨_, rfl⟩
  · intro hall
    rw [List.all_eq_true] at hall
    exact hcode fun c hc => of_decide_eq_true (hall c (List.mem_append_right _ hc))

/-- What the loop answers: whether a step has made the code, if all before the end fit. -/
def Answers (py : Stdlib) (service : TOTPService) (secret code : String) (counter : ℤ)
    (drifts : List ℤ) : Prop :=
  ((∃ drift ∈ drifts, MadeAt py service secret code (counter + drift)) ∧
      verifyDrift py service secret code counter drifts = .ok true) ∨
    ((¬ ∃ drift ∈ drifts, MadeAt py service secret code (counter + drift)) ∧
      (((∀ drift ∈ drifts, counter + drift < 2 ^ 64) ∧
          verifyDrift py service secret code counter drifts = .ok false) ∨
        ((∃ drift ∈ drifts, 2 ^ 64 ≤ counter + drift) ∧
          ∃ e, verifyDrift py service secret code counter drifts = .error e)))

/-- INTERNAL: by induction on the drifts, which ascend: behind a step that does not fit into eight
bytes no step does. -/
theorem verifyDrift_of_ascii {key : List ℕ} (hdigits : 0 < service.digits)
    (hkey : decodeTotpSecret py secret = .ok key) (hcode : Bytes.IsAscii code)
    (drifts : List ℤ) (hsorted : drifts.Pairwise (· < ·)) :
    Answers py service secret code counter drifts := by
  induction drifts with
  | nil => exact .inr ⟨by rintro ⟨_, ⟨⟩, _⟩, .inl ⟨by rintro _ ⟨⟩, rfl⟩⟩
  | cons drift rest ih =>
      rw [List.pairwise_cons] at hsorted
      obtain ⟨hfirst, hrest⟩ := hsorted
      have hskip : ¬ MadeAt py service secret code (counter + drift) →
          counter + drift < 2 ^ 64 →
          verifyDrift py service secret code counter (drift :: rest) =
            verifyDrift py service secret code counter rest →
          Answers py service secret code counter (drift :: rest) := by
        intro hnot hfits heq
        have hlater := ih hrest
        unfold Answers at hlater ⊢
        simp only [List.mem_cons, exists_eq_or_imp, forall_eq_or_imp, heq, hnot, false_or, hfits,
          true_and, not_le.mpr hfits]
        exact hlater
      by_cases hneg : counter + drift < 0
      · apply hskip (fun h => absurd h.1 (not_le.mpr hneg)) (by omega)
        rw [verifyDrift, if_pos hneg]
      · by_cases hfits : counter + drift < 2 ^ 64
        · obtain ⟨expected, hexpected⟩ := exists_hotp hkey (not_lt.mp hneg) hfits service.digits
          have hcompare := @compareDigest_of_ascii service code expected
            (isCode_of_hotp hdigits hexpected) hcode
          by_cases hsame : expected = code
          · refine .inl ⟨⟨drift, List.mem_cons_self, not_lt.mp hneg, hsame ▸ hexpected⟩, ?_⟩
            rw [verifyDrift, if_neg hneg, hexpected]
            simp only [bind, Except.bind, hcompare, decide_eq_true hsame, if_true]
            rfl
          · apply hskip ?_ hfits
            · rw [verifyDrift, if_neg hneg, hexpected]
              simp only [bind, Except.bind, hcompare, decide_eq_false hsame, Bool.false_eq_true,
                if_false]
            · rintro ⟨_, hmade⟩
              rw [hexpected] at hmade
              cases hmade
              exact hsame rfl
        · rw [not_lt] at hfits
          refine .inr ⟨?_, .inr ⟨⟨drift, List.mem_cons_self, hfits⟩, ?_⟩⟩
          · rintro ⟨later, hlater, hmade⟩
            have hlt := lt_of_madeAt hmade
            rcases List.mem_cons.mp hlater with rfl | hlater
            · omega
            · have := hfirst later hlater
              omega
          · obtain ⟨e, he⟩ := hotp_eq_error hkey hfits service.digits
            rw [verifyDrift, if_neg hneg, he]
            exact ⟨e, rfl⟩

/-- INTERNAL: the first step that is not negative ends the loop with an exception. -/
theorem verifyDrift_eq_error {key : List ℕ} (hkey : decodeTotpSecret py secret = .ok key)
    (hcode : ¬ Bytes.IsAscii code) (drifts : List ℤ)
    (hsome : ∃ drift ∈ drifts, 0 ≤ counter + drift) :
    ∃ e, verifyDrift py service secret code counter drifts = .error e := by
  induction drifts with
  | nil =>
      obtain ⟨_, ⟨⟩, _⟩ := hsome
  | cons drift rest ih =>
      by_cases hneg : counter + drift < 0
      · rw [verifyDrift, if_pos hneg]
        obtain ⟨later, hlater, hnonneg⟩ := hsome
        rcases List.mem_cons.mp hlater with rfl | hlater
        · exact absurd hnonneg (not_le.mpr hneg)
        · exact ih ⟨later, hlater, hnonneg⟩
      · rw [verifyDrift, if_neg hneg]
        by_cases hfits : counter + drift < 2 ^ 64
        · obtain ⟨expected, hexpected⟩ := exists_hotp hkey (not_lt.mp hneg) hfits service.digits
          obtain ⟨e, he⟩ := compareDigest_eq_error expected hcode
          rw [hexpected]
          refine ⟨e, ?_⟩
          simp only [bind, Except.bind, he]
        · obtain ⟨e, he⟩ := hotp_eq_error hkey (not_lt.mp hfits) service.digits
          rw [he]
          exact ⟨e, rfl⟩

theorem drifts_eq (service : TOTPService) : service.drifts =
    (List.range (2 * service.allowedDriftSteps + 1)).map fun i : ℕ =>
      (i : ℤ) - service.allowedDriftSteps := by
  unfold drifts
  rw [bind_pure_comp, List.map_eq_map, List.map_map]
  rfl

theorem pairwise_drifts (service : TOTPService) : service.drifts.Pairwise (· < ·) := by
  rw [drifts_eq, List.pairwise_map]
  refine List.pairwise_lt_range.imp fun h => ?_
  omega

theorem mem_drifts {drift : ℤ} :
    drift ∈ service.drifts ↔ |drift| ≤ service.allowedDriftSteps := by
  rw [drifts_eq, List.mem_map, abs_le]
  constructor
  · rintro ⟨i, hi, rfl⟩
    rw [List.mem_range] at hi
    omega
  · intro h
    refine ⟨(drift + service.allowedDriftSteps).toNat, ?_, by omega⟩
    rw [List.mem_range]
    omega

theorem exists_drift_iff (p : ℤ → Prop) : (∃ drift ∈ service.drifts, p (counter + drift)) ↔
    ∃ step, |step - counter| ≤ service.allowedDriftSteps ∧ p step := by
  simp only [mem_drifts]
  constructor
  · rintro ⟨drift, hdrift, h⟩
    exact ⟨counter + drift, by rwa [add_sub_cancel_left], h⟩
  · rintro ⟨step, hstep, h⟩
    exact ⟨step - counter, hstep, by rwa [add_sub_cancel]⟩

theorem exists_large_iff : (∃ drift ∈ service.drifts, 2 ^ 64 ≤ counter + drift) ↔
    2 ^ 64 ≤ counter + service.allowedDriftSteps := by
  constructor
  · rintro ⟨drift, hdrift, h⟩
    have := (abs_le.mp (mem_drifts.mp hdrift)).2
    omega
  · intro h
    exact ⟨service.allowedDriftSteps, mem_drifts.mpr (by rw [abs_of_nonneg (by omega)]), h⟩

end TOTPService

end Steps

/-! ## The answer -/

namespace TOTPService

section Answers

variable (py : Stdlib) (service : TOTPService) (secret code : String) (atTime : Seconds)

/-- The settings that the constructor accepts. -/
structure Admissible : Prop where
  step : 0 < service.stepSeconds
  digits : 6 ≤ service.digits ∧ service.digits ≤ 8

/-- `verify_totp` returns whether the code, without blanks, belongs to a step around the time. -/
def VerifiesExactly : Prop :=
  ∃ answer, verifyTotpAt py service secret code atTime = .ok answer ∧
    (answer = true ↔
      InWindow py service secret (normalizeCode code) ⌊atTime.value / service.stepSeconds⌋)

/-- As many characters as a code has, each of them a digit. -/
def HasCodeShape : Prop :=
  (normalizeCode code).toList.length = service.digits ∧
    (normalizeCode code).toList.all Text.isDigit = true

/-- The digits are ASCII; `//` gives a step; the steps around it fit into eight bytes, or the code
belongs to one of them; and where `//` is rounded, this makes no difference to the code. -/
structure Comparable : Prop where
  ascii : Bytes.IsAscii (normalizeCode code)
  placed : ∃ counter, service.counterAt atTime = .ok counter ∧
    (counter + service.allowedDriftSteps < 2 ^ 64 ∨
      InWindow py service secret (normalizeCode code) counter) ∧
    (InWindow py service secret (normalizeCode code) counter ↔
      InWindow py service secret (normalizeCode code) ⌊atTime.value / service.stepSeconds⌋)

end Answers

section Exactness

variable {py : Stdlib} {service : TOTPService} {secret code : String} {atTime : Seconds}

/-- Integers are divided exactly. -/
theorem counterAt_int (n : ℤ) :
    service.counterAt (.int n) = .ok ⌊(Seconds.int n).value / service.stepSeconds⌋ := by
  show Except.ok (n / (service.stepSeconds : ℤ)) = _
  congr 1
  exact (Rat.floor_intCast_div_natCast n service.stepSeconds).symm

/-- Below `2 ^ 53` seconds so are numbers. -/
theorem counterAt_float {x : ℚ} (hx : 0 ≤ x) (hlt : x < 2 ^ 53) (hstep : 0 < service.stepSeconds)
    (hsmall : service.stepSeconds < 2 ^ 53) :
    service.counterAt (.float x) = .ok ⌊(Seconds.float x).value / service.stepSeconds⌋ := by
  have hpos : (0 : ℤ) < service.stepSeconds := by exact_mod_cast hstep
  have hbound : (service.stepSeconds : ℤ) < 2 ^ 53 := by exact_mod_cast hsmall
  unfold counterAt
  dsimp only
  rw [Binary64.floorDiv_of_lt hx hlt hpos hbound, Int.cast_natCast]
  rfl

theorem counterAt_nonneg {counter : ℤ} (htime : 0 ≤ atTime.value)
    (h : service.counterAt atTime = .ok counter) : 0 ≤ counter := by
  cases atTime with
  | int n =>
      rw [counterAt_int] at h
      cases h
      exact Int.floor_nonneg.mpr (div_nonneg htime (Nat.cast_nonneg _))
  | float x =>
      unfold counterAt at h
      dsimp only at h
      split at h
      · rename_i hdiv
        cases h
        exact Binary64.floorDiv_nonneg htime (Int.natCast_nonneg _) hdiv
      · cases h

/-- INTERNAL: a code is answered `False` if it has not the shape of one. -/
theorem hasCodeShape_of_inWindow {counter : ℤ} (hdigits : 0 < service.digits)
    (h : InWindow py service secret (normalizeCode code) counter) : HasCodeShape service code := by
  obtain ⟨step, _, _, hmade⟩ := h
  obtain ⟨hlength, hascii⟩ := isCode_of_hotp hdigits hmade
  exact ⟨hlength, List.all_eq_true.mpr fun c hc => textIsDigit_of_isDigit (hascii c hc)⟩

theorem verifyTotpAt_of_shape (hshape : HasCodeShape service code) :
    verifyTotpAt py service secret code atTime = (do
      let counter ← service.counterAt atTime
      verifyDrift py service secret (normalizeCode code) counter service.drifts) := by
  unfold verifyTotpAt
  exact if_neg (by rw [not_or, not_not, not_not]; exact hshape)

/-- INTERNAL: what a code of digits is answered, once the step of the time is known. -/
theorem verifyTotpAt_cases {key : List ℕ} {counter : ℤ} (hdigits : 0 < service.digits)
    (hkey : decodeTotpSecret py secret = .ok key) (hshape : HasCodeShape service code)
    (hcounter : service.counterAt atTime = .ok counter)
    (hascii : Bytes.IsAscii (normalizeCode code)) :
    (InWindow py service secret (normalizeCode code) counter ∧
        verifyTotpAt py service secret code atTime = .ok true) ∨
      (¬ InWindow py service secret (normalizeCode code) counter ∧
        ((counter + service.allowedDriftSteps < 2 ^ 64 ∧
            verifyTotpAt py service secret code atTime = .ok false) ∨
          (2 ^ 64 ≤ counter + service.allowedDriftSteps ∧
            ∃ e, verifyTotpAt py service secret code atTime = .error e))) := by
  have hrun : verifyTotpAt py service secret code atTime =
      verifyDrift py service secret (normalizeCode code) counter service.drifts := by
    rw [verifyTotpAt_of_shape hshape, hcounter]
    rfl
  have hcases := @verifyDrift_of_ascii py service secret (normalizeCode code) counter key hdigits
    hkey hascii service.drifts (pairwise_drifts service)
  have hlarge : (∀ drift ∈ service.drifts, counter + drift < 2 ^ 64) ↔
      counter + service.allowedDriftSteps < 2 ^ 64 := by
    rw [← not_iff_not, not_lt, ← exists_large_iff]
    simp only [not_forall, not_lt, exists_prop]
  unfold Answers at hcases
  rw [exists_drift_iff, exists_large_iff, hlarge] at hcases
  rw [hrun]
  exact hcases

theorem verifiesExactly_iff_comparable {key : List ℕ} {counter : ℤ}
    (hdigits : 0 < service.digits) (hkey : decodeTotpSecret py secret = .ok key)
    (hshape : HasCodeShape service code) (hcounter : service.counterAt atTime = .ok counter)
    (hascii : Bytes.IsAscii (normalizeCode code)) :
    VerifiesExactly py service secret code atTime ↔
      Comparable py service secret code atTime := by
  have hcomparable : Comparable py service secret code atTime ↔
      (counter + service.allowedDriftSteps < 2 ^ 64 ∨
        InWindow py service secret (normalizeCode code) counter) ∧
      (InWindow py service secret (normalizeCode code) counter ↔
        InWindow py service secret (normalizeCode code)
          ⌊atTime.value / service.stepSeconds⌋) := by
    constructor
    · rintro ⟨_, counter', h, hplaced⟩
      rw [hcounter] at h
      cases h
      exact hplaced
    · exact fun h => ⟨hascii, counter, hcounter, h⟩
  rw [hcomparable]
  unfold VerifiesExactly
  rcases verifyTotpAt_cases hdigits hkey hshape hcounter hascii with
    ⟨hin, hrun⟩ | ⟨hout, ⟨hfits, hrun⟩ | ⟨hlarge, e, hrun⟩⟩
  · simp [hrun, hin]
  · simp only [hrun, Except.ok.injEq, exists_eq_left', Bool.false_eq_true, hout, hfits, true_or,
      true_and]
  · simp only [hrun, reduceCtorEq, false_and, exists_false, hout, not_lt.mpr hlarge, or_self]

/-- For every secret that can be decoded, every code, every time and all settings, `verify_totp`
returns whether the code belongs to a step around the time exactly if the code has not the shape of
one, or can be compared with the codes of these steps. -/
theorem verifiesExactly_iff (key : List ℕ) (hkey : decodeTotpSecret py secret = .ok key)
    (hservice : Admissible service) (htime : 0 ≤ atTime.value) :
    VerifiesExactly py service secret code atTime ↔
      (HasCodeShape service code → Comparable py service secret code atTime) := by
  have hdigits : 0 < service.digits := by
    have := hservice.digits.1
    omega
  by_cases hshape : HasCodeShape service code
  · rw [forall_prop_of_true hshape]
    cases hcounter : service.counterAt atTime with
    | error e =>
        refine iff_of_false ?_ ?_
        · rintro ⟨answer, hanswer, _⟩
          rw [verifyTotpAt_of_shape hshape, hcounter] at hanswer
          cases hanswer
        · rintro ⟨_, counter, h, _⟩
          rw [hcounter] at h
          cases h
    | ok counter =>
        by_cases hascii : Bytes.IsAscii (normalizeCode code)
        · exact verifiesExactly_iff_comparable hdigits hkey hshape hcounter hascii
        · refine iff_of_false ?_ fun h => hascii h.ascii
          rintro ⟨answer, hanswer, _⟩
          have hnow : 0 ≤ counter + 0 := by
            rw [add_zero]
            exact counterAt_nonneg htime hcounter
          obtain ⟨e, he⟩ := @verifyDrift_eq_error py service secret (normalizeCode code) counter
            key hkey hascii service.drifts ⟨0, mem_drifts.mpr (by simp), hnow⟩
          rw [verifyTotpAt_of_shape hshape, hcounter] at hanswer
          simp only [bind, Except.bind, he] at hanswer
          cases hanswer
  · refine iff_of_true ⟨false, ?_, ?_⟩ fun h => absurd h hshape
    · unfold verifyTotpAt
      rw [if_pos]
      by_contra hnot
      rw [not_or, not_not, not_not] at hnot
      exact hshape hnot
    · refine iff_of_false (by decide) fun h => hshape (hasCodeShape_of_inWindow hdigits h)

/-- A secret of ten bytes. -/
def sampleSecret : String := "JBSWY3DPEHPK3PXP"

theorem decodeTotpSecret_sampleSecret : decodeTotpSecret Reference.stdlib sampleSecret =
    .ok [72, 101, 108, 108, 111, 33, 222, 173, 190, 239] := by
  decide +kernel

/-- At time 0 a text of ASCII digits is answered. -/
theorem verifiesExactly_zero :
    VerifiesExactly Reference.stdlib {} sampleSecret " 000 000 " (.int 0) := by
  have hadmissible : Admissible {} := ⟨by decide, by decide⟩
  refine (verifiesExactly_iff _ decodeTotpSecret_sampleSecret hadmissible (le_refl _)).mpr
    fun _ => ⟨by decide, 0, rfl, .inl (by decide), ?_⟩
  have hfloor : ⌊(Seconds.int 0).value / ((30 : ℕ) : ℚ)⌋ = 0 := by
    show ⌊((0 : ℤ) : ℚ) / _⌋ = 0
    norm_num
  show _ ↔ InWindow _ _ _ _ ⌊(Seconds.int 0).value / ((30 : ℕ) : ℚ)⌋
  rw [hfloor]

/-- Six Arabic digits are digits for `str.isdigit`, and cannot be compared. -/
theorem not_verifiesExactly_arabic :
    ¬ VerifiesExactly Reference.stdlib {} sampleSecret "٠١٢٣٤٥" (.int 0) := by
  rintro ⟨answer, hanswer, _⟩
  have hshape : HasCodeShape {} "٠١٢٣٤٥" := ⟨by decide, by decide⟩
  obtain ⟨e, he⟩ := @verifyDrift_eq_error Reference.stdlib {} sampleSecret
    (normalizeCode "٠١٢٣٤٥") 0 _ decodeTotpSecret_sampleSecret (by decide)
    (drifts {}) ⟨0, mem_drifts.mpr (by decide), by decide⟩
  rw [verifyTotpAt_of_shape hshape] at hanswer
  have hcounter : counterAt {} (.int 0) = .ok 0 := rfl
  rw [hcounter] at hanswer
  simp only [bind, Except.bind, he] at hanswer
  cases hanswer

end Exactness

end TOTPService

end MediaCenter.Shared
