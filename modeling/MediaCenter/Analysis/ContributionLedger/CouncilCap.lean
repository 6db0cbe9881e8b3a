import MediaCenter.Analysis.ContributionLedger.WeightCalculation

/-!
# The cap of the council

The cap is applied before the last rounding.  A cap with more than five decimals may be rounded
up, and then a member far enough above it gets more than the cap.  Rounding is monotone, so
the weight is monotone whatever the cap.
-/

set_option autoImplicit false

namespace MediaCenter.ContributionLedger

open MediaCenter.Library MediaCenter.Shared

/-! ## One member -/

/-- INTERNAL: the short cuts return what the formula returns. -/
theorem kvCapped_memberKv {totalPoints avgPointsCouncil capKv : ℚ} (hcap : 0 ≤ capKv)
    (hpoints : 0 ≤ totalPoints) (havg : 0 ≤ avgPointsCouncil) :
    (memberKv totalPoints avgPointsCouncil capKv).2 = roundTo kvCappedDecimals
      (min (roundTo kvRawDecimals (totalPoints / avgPointsCouncil)) capKv) := by
  unfold memberKv
  split_ifs with hzero
  · rcases hzero with rfl | rfl | rfl
    · rw [div_zero, roundTo_zero, min_eq_left hcap, roundTo_zero]
    · rw [zero_div, roundTo_zero, min_eq_left hcap, roundTo_zero]
    · rw [min_eq_right (roundTo_nonneg _ (div_nonneg hpoints havg)), roundTo_zero]
  · rfl

theorem kvCapped_mono {totalPoints totalPoints' avgPointsCouncil capKv : ℚ} (hcap : 0 ≤ capKv)
    (hpoints : 0 ≤ totalPoints) (havg : 0 ≤ avgPointsCouncil) (h : totalPoints ≤ totalPoints') :
    (memberKv totalPoints avgPointsCouncil capKv).2 ≤
      (memberKv totalPoints' avgPointsCouncil capKv).2 := by
  rw [kvCapped_memberKv hcap hpoints havg, kvCapped_memberKv hcap (hpoints.trans h) havg]
  apply roundTo_mono
  apply min_le_min_right
  apply roundTo_mono
  exact div_le_div_of_nonneg_right h havg

theorem kvCapped_anti {totalPoints avgPointsCouncil avgPointsCouncil' capKv : ℚ}
    (hcap : 0 ≤ capKv) (hpoints : 0 ≤ totalPoints) (havg : 0 < avgPointsCouncil)
    (h : avgPointsCouncil ≤ avgPointsCouncil') :
    (memberKv totalPoints avgPointsCouncil' capKv).2 ≤
      (memberKv totalPoints avgPointsCouncil capKv).2 := by
  rw [kvCapped_memberKv hcap hpoints havg.le, kvCapped_memberKv hcap hpoints (havg.le.trans h)]
  apply roundTo_mono
  apply min_le_min_right
  apply roundTo_mono
  exact div_le_div_of_nonneg_left hpoints havg h

/-! ## When the cap is exceeded -/

/-- The cap in units of the fifth decimal. -/
def capUnits (capKv : ℚ) : ℚ := capKv * 10 ^ 5

/-- What the cap has after the fifth decimal is over a half, or a half after an odd digit. -/
def CapRoundsUp (capKv : ℚ) : Prop :=
  1 / 2 < Int.fract (capUnits capKv) ∨
    (Int.fract (capUnits capKv) = 1 / 2 ∧ ¬ Even ⌊capUnits capKv⌋)

/-- The ratio is near enough to the middle of the step over the cap: rounded to six decimals
and then to five it gets to its upper end. -/
def ReachesNextStep (totalPoints avgPointsCouncil capKv : ℚ) : Prop :=
  if Even ⌊capUnits capKv⌋ then
    ⌊capUnits capKv⌋ + 11 / 20 ≤ totalPoints / avgPointsCouncil * 10 ^ 5
  else ⌊capUnits capKv⌋ + 9 / 20 < totalPoints / avgPointsCouncil * 10 ^ 5

theorem lt_roundTo_self_iff (capKv : ℚ) :
    capKv < roundTo kvCappedDecimals capKv ↔ CapRoundsUp capKv := by
  have hfloor := Int.floor_add_fract (capUnits capKv)
  rw [lt_roundTo_iff_floor, lt_roundHalfEven_iff]
  show ((⌊capUnits capKv⌋ : ℚ) + 1 / 2 < capUnits capKv ∨
    ((⌊capUnits capKv⌋ : ℚ) + 1 / 2 = capUnits capKv ∧ ¬ Even ⌊capUnits capKv⌋)) ↔ _
  unfold CapRoundsUp
  constructor
  · rintro (h | ⟨h, hodd⟩)
    · left
      linarith
    · right
      exact ⟨by linarith, hodd⟩
  · rintro (h | ⟨h, hodd⟩)
    · left
      linarith
    · right
      exact ⟨by linarith, hodd⟩

/-- INTERNAL: six decimals are ten units of five, so a half of a unit is a whole number there. -/
theorem lt_roundTo_roundTo_iff (totalPoints avgPointsCouncil capKv : ℚ) :
    capKv < roundTo kvCappedDecimals (roundTo kvRawDecimals (totalPoints / avgPointsCouncil)) ↔
      ReachesNextStep totalPoints avgPointsCouncil capKv := by
  have hstep := lt_roundTo_iff_floor kvCappedDecimals
    (roundTo kvRawDecimals (totalPoints / avgPointsCouncil)) capKv
  rw [lt_roundHalfEven_iff] at hstep
  rw [hstep]
  unfold ReachesNextStep
  show ((⌊capUnits capKv⌋ : ℚ) + 1 / 2 < _ ∨ ((⌊capUnits capKv⌋ : ℚ) + 1 / 2 = _ ∧
    ¬ Even ⌊capUnits capKv⌋)) ↔ _
  generalize ⌊capUnits capKv⌋ = k
  obtain ⟨n, hn⟩ : ∃ n, n = roundHalfEven (totalPoints / avgPointsCouncil * 10 ^ kvRawDecimals) :=
    ⟨_, rfl⟩
  have hraw : roundTo kvRawDecimals (totalPoints / avgPointsCouncil) * 10 ^ kvCappedDecimals =
      (n : ℚ) / 10 := by
    unfold roundTo
    rw [← hn, kvRawDecimals, kvCappedDecimals]
    ring
  have hscale : totalPoints / avgPointsCouncil * 10 ^ kvRawDecimals =
      10 * (totalPoints / avgPointsCouncil * 10 ^ 5) := by
    rw [kvRawDecimals]
    ring
  rw [hraw]
  rw [hscale] at hn
  generalize totalPoints / avgPointsCouncil * 10 ^ 5 = q at hn ⊢
  by_cases heven : Even k
  · -- the middle `10 k + 5` of the step must be passed, and it is odd
    have hodd : ¬ Even (10 * k + 5) := by
      rw [Int.even_iff]
      omega
    have hn' := lt_roundHalfEven_iff (10 * k + 5) (10 * q)
    rw [← hn] at hn'
    simp only [heven, hodd, not_true_eq_false, not_false_eq_true, and_false, and_true, or_false,
      if_true] at hn' ⊢
    rw [← le_iff_lt_or_eq] at hn'
    calc (k : ℚ) + 1 / 2 < n / 10 ↔ 10 * k + 5 < n := by
          rw [← @Int.cast_lt ℚ]
          push_cast
          constructor
          · intro h
            linarith
          · intro h
            linarith
      _ ↔ ((10 * k + 5 : ℤ) : ℚ) + 1 / 2 ≤ 10 * q := hn'
      _ ↔ (k : ℚ) + 11 / 20 ≤ q := by
          push_cast
          constructor
          · intro h
            linarith
          · intro h
            linarith
  · -- the middle of the step is enough
    have heven' : Even (10 * k + 4) := by
      rw [Int.even_iff]
      omega
    have hn' := lt_roundHalfEven_iff (10 * k + 4) (10 * q)
    rw [← hn] at hn'
    simp only [heven, heven', not_true_eq_false, not_false_eq_true, and_false, and_true, or_false,
      if_false] at hn' ⊢
    rw [← le_iff_lt_or_eq]
    calc (k : ℚ) + 1 / 2 ≤ n / 10 ↔ 10 * k + 4 < n := by
          rw [← Int.add_one_le_iff, ← @Int.cast_le ℚ]
          push_cast
          constructor
          · intro h
            linarith
          · intro h
            linarith
      _ ↔ ((10 * k + 4 : ℤ) : ℚ) + 1 / 2 < 10 * q := hn'
      _ ↔ (k : ℚ) + 9 / 20 < q := by
          push_cast
          constructor
          · intro h
            linarith
          · intro h
            linarith

/-- The weight is within the cap unless the cap rounds up and the ratio gets that far. -/
theorem kvCapped_le_iff {totalPoints avgPointsCouncil capKv : ℚ} (hcap : 0 ≤ capKv)
    (hpoints : 0 ≤ totalPoints) (havg : 0 ≤ avgPointsCouncil) :
    (memberKv totalPoints avgPointsCouncil capKv).2 ≤ capKv ↔
      ¬ (CapRoundsUp capKv ∧ ReachesNextStep totalPoints avgPointsCouncil capKv) := by
  have hmin : ∀ x y : ℚ, roundTo kvCappedDecimals (min x y) =
      min (roundTo kvCappedDecimals x) (roundTo kvCappedDecimals y) := by
    intro x y
    exact (Monotone.map_min fun _ _ h => roundTo_mono _ h)
  rw [kvCapped_memberKv hcap hpoints havg, hmin, ← not_lt, lt_min_iff, lt_roundTo_self_iff,
    lt_roundTo_roundTo_iff, and_comm]

/-! ## The members of a result -/

/-- The validated request of a call of `calculate_weights`. -/
def requestOf (payload : Option WeightPayload) (kwargs : Option WeightMapping) :
    Except SharedException WeightCalculationInput :=
  match payload, kwargs with
  | some _, some _ =>
      .error (.valueError "payload и keyword-аргументы нельзя передавать одновременно")
  | none, none => .error (.valueError "нужны входные данные для расчёта Кв")
  | some (.request r), none => .ok r
  | some (.mapping m), none => WeightCalculationInput.modelValidate m
  | none, some m => WeightCalculationInput.modelValidate m

theorem calculateWeights_eq_bind (payload : Option WeightPayload)
    (kwargs : Option WeightMapping) :
    calculateWeights payload kwargs = requestOf payload kwargs >>= calculateWeightsOf := by
  unfold calculateWeights requestOf
  split <;> rfl

theorem capKv_of_calculateWeightsOf {request : WeightCalculationInput}
    {out : WeightCalculationOutput} (h : calculateWeightsOf request = .ok out) :
    out.fields.capKv = request.capKv ∧
      out.members.map MemberWeightFields.kvCapped = request.kvCapped := by
  obtain ⟨shares, hok, _⟩ :=
    calculatePayoutShares_conserves request.kvCapped request.kvCapped_nonneg
  refine ⟨?_, ((calculateWeightsOf_cases request shares hok).2 out h).2⟩
  rw [calculateWeightsOf_eq request shares hok, bind_eq_ok_iff] at h
  obtain ⟨members, _, hmake⟩ := h
  rw [Validated.make_eq_ok_iff] at hmake
  rw [hmake]

theorem members_le_capKv_iff {request : WeightCalculationInput} {out : WeightCalculationOutput}
    (h : calculateWeightsOf request = .ok out) :
    (∀ m ∈ out.members, m.kvCapped ≤ out.fields.capKv) ↔
      ∀ m ∈ request.members, ¬ (CapRoundsUp request.capKv ∧
        ReachesNextStep m.totalPoints request.avgPointsCouncil request.capKv) := by
  obtain ⟨hcap, hkvs⟩ := capKv_of_calculateWeightsOf h
  have hmembers : (∀ m ∈ out.members, m.kvCapped ≤ request.capKv) ↔
      ∀ v ∈ request.kvCapped, v ≤ request.capKv := by
    rw [← hkvs, List.forall_mem_map]
  rw [hcap, hmembers, WeightCalculationInput.kvCapped, List.forall_mem_map]
  constructor
  · intro hle m hm
    exact (kvCapped_le_iff request.capKv_nonneg m.totalPoints_nonneg
      request.avgPointsCouncil_nonneg).mp (hle m hm)
  · intro hnot m hm
    exact (kvCapped_le_iff request.capKv_nonneg m.totalPoints_nonneg
      request.avgPointsCouncil_nonneg).mpr (hnot m hm)

/-! ## Main results -/

/-- **The cap.**  The capped weight is monotone in the points and antitone in the average.  It
is within the cap unless the cap is rounded up and the ratio gets to the step above it; and
so it is for the members of every result. -/
theorem councilCap_binds_iff (totalPoints avgPointsCouncil capKv : ℚ) :
    (0 ≤ totalPoints → 0 ≤ avgPointsCouncil → 0 ≤ capKv → capKv ≤ 1 →
      ∃ kv, calculateMemberKv totalPoints avgPointsCouncil capKv = .ok kv ∧
        (kv.2 ≤ capKv ↔
          ¬ (CapRoundsUp capKv ∧ ReachesNextStep totalPoints avgPointsCouncil capKv)) ∧
        (∀ totalPoints', totalPoints ≤ totalPoints' →
          ∃ kv', calculateMemberKv totalPoints' avgPointsCouncil capKv = .ok kv' ∧
            kv.2 ≤ kv'.2) ∧
        ∀ avgPointsCouncil', 0 < avgPointsCouncil → avgPointsCouncil ≤ avgPointsCouncil' →
          ∃ kv', calculateMemberKv totalPoints avgPointsCouncil' capKv = .ok kv' ∧
            kv'.2 ≤ kv.2) ∧
    ∀ payload kwargs request out, requestOf payload kwargs = .ok request →
      calculateWeights payload kwargs = .ok out →
      ((∀ m ∈ out.members, m.kvCapped ≤ out.fields.capKv) ↔
        ∀ m ∈ request.members, ¬ (CapRoundsUp request.capKv ∧
          ReachesNextStep m.totalPoints request.avgPointsCouncil request.capKv)) := by
  constructor
  · intro hpoints havg hcap hcap1
    refine ⟨_, calculateMemberKv_eq_ok hpoints havg hcap hcap1,
      kvCapped_le_iff hcap hpoints havg, ?_, ?_⟩
    · intro totalPoints' hle
      exact ⟨_, calculateMemberKv_eq_ok (hpoints.trans hle) havg hcap hcap1,
        kvCapped_mono hcap hpoints havg hle⟩
    · intro avgPointsCouncil' hpos hle
      exact ⟨_, calculateMemberKv_eq_ok hpoints (havg.trans hle) hcap hcap1,
        kvCapped_anti hcap hpoints hpos hle⟩
  · intro payload kwargs request out hrequest hout
    rw [calculateWeights_eq_bind, hrequest] at hout
    exact members_le_capKv_iff hout

/-- One point, against an average of five: the cap of the council binds. -/
theorem councilCap_binds_iff_tenth :
    ∃ kv, calculateMemberKv 1 5 councilCapKv = .ok kv ∧ (kv.2 ≤ councilCapKv ↔
      ¬ (CapRoundsUp councilCapKv ∧ ReachesNextStep 1 5 councilCapKv)) := by
  obtain ⟨kv, hkv, hiff, _⟩ := (councilCap_binds_iff 1 5 councilCapKv).1 (by decide) (by decide)
    (by decide +kernel) (by decide +kernel)
  exact ⟨kv, hkv, hiff⟩

/-- A cap of six millionths lets ten millionths through. -/
theorem councilCap_exceeded :
    ∃ kv, calculateMemberKv 1 1 (6 / 1000000) = .ok kv ∧ ¬ kv.2 ≤ 6 / 1000000 := by
  refine ⟨(1, 1 / 100000), ?_, by norm_num⟩
  rw [calculateMemberKv_eq_ok (by norm_num) (by norm_num) (by norm_num) (by norm_num)]
  have hkv : memberKv 1 1 (6 / 1000000) = (1, 1 / 100000) := by decide +kernel
  rw [hkv]

end MediaCenter.ContributionLedger
