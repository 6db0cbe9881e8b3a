import MediaCenter.Analysis.ContributionLedger.PayoutShares

/-!
# `calculate_weights` and the export built from it
-/

set_option autoImplicit false

namespace MediaCenter.ContributionLedger

open MediaCenter.Library MediaCenter.Shared

/-! ## The weight of one member -/

/-- What `calculate_member_kv` returns on valid arguments. -/
def memberKv (totalPoints avgPointsCouncil capKv : ℚ) : ℚ × ℚ :=
  if avgPointsCouncil = 0 ∨ totalPoints = 0 ∨ capKv = 0 then (0, 0)
  else
    (roundTo kvRawDecimals (totalPoints / avgPointsCouncil),
      roundTo kvCappedDecimals
        (min (roundTo kvRawDecimals (totalPoints / avgPointsCouncil)) capKv))

theorem calculateMemberKv_eq_ok {totalPoints avgPointsCouncil capKv : ℚ}
    (hpoints : 0 ≤ totalPoints) (havg : 0 ≤ avgPointsCouncil) (hcap : 0 ≤ capKv)
    (hcap1 : capKv ≤ 1) :
    calculateMemberKv totalPoints avgPointsCouncil capKv =
      .ok (memberKv totalPoints avgPointsCouncil capKv) := by
  have hvalid : ∀ (x : ℚ) (name : String), 0 ≤ x →
      validateNonNegativeFinite x name = .ok () := by
    intro x name hx
    unfold validateNonNegativeFinite
    rw [if_neg (not_lt.mpr hx)]
  unfold calculateMemberKv memberKv
  rw [hvalid _ _ hpoints, hvalid _ _ havg, hvalid _ _ hcap]
  simp only [bind, Except.bind, pure, Except.pure, gt_iff_lt, not_lt.mpr hcap1, if_false]
  split_ifs <;> rfl

theorem memberKv_nonneg {totalPoints avgPointsCouncil capKv : ℚ}
    (hpoints : 0 ≤ totalPoints) (havg : 0 ≤ avgPointsCouncil) (hcap : 0 ≤ capKv) :
    0 ≤ (memberKv totalPoints avgPointsCouncil capKv).1 ∧
      0 ≤ (memberKv totalPoints avgPointsCouncil capKv).2 := by
  unfold memberKv
  split_ifs
  · exact ⟨le_refl 0, le_refl 0⟩
  · have hraw : 0 ≤ roundTo kvRawDecimals (totalPoints / avgPointsCouncil) :=
      roundTo_nonneg _ (div_nonneg hpoints havg)
    exact ⟨hraw, roundTo_nonneg _ (le_min hraw hcap)⟩

theorem onGrid_memberKv (totalPoints avgPointsCouncil capKv : ℚ) :
    OnGrid kvCappedDecimals (memberKv totalPoints avgPointsCouncil capKv).2 := by
  unfold memberKv
  split_ifs
  · exact OnGrid.zero _
  · exact onGrid_roundTo _ _

namespace WeightCalculationInput

/-- The capped weight of every member, in the order of the request. -/
def kvCapped (request : WeightCalculationInput) : List ℚ :=
  request.members.map fun m =>
    (memberKv m.totalPoints request.avgPointsCouncil request.capKv).2

theorem kvCapped_nonneg (request : WeightCalculationInput) :
    ∀ v ∈ request.kvCapped, 0 ≤ v := by
  intro v hv
  unfold kvCapped at hv
  rw [List.mem_map] at hv
  obtain ⟨m, _, rfl⟩ := hv
  exact (memberKv_nonneg m.totalPoints_nonneg request.avgPointsCouncil_nonneg
    request.capKv_nonneg).2

/-- INTERNAL: the capped weights are rounded already. -/
theorem map_roundTo_kvCapped (request : WeightCalculationInput) :
    request.kvCapped.map (roundTo kvCappedDecimals) = request.kvCapped := by
  unfold kvCapped
  rw [List.map_map]
  apply List.map_congr_left
  intro m _
  exact roundTo_of_onGrid (onGrid_memberKv _ _ _)

end WeightCalculationInput

/-! ## The members of the result -/

/-- The fields `calculate_weights` gives the output of one member. -/
def memberFields (request : WeightCalculationInput) (member : MemberPointsInput)
    (payoutShare : ℚ) : MemberWeightFields :=
  { memberId := member.memberId
    totalPoints := member.totalPoints
    avgPointsCouncil := request.avgPointsCouncil
    kvRaw := (memberKv member.totalPoints request.avgPointsCouncil request.capKv).1
    kvCapped := (memberKv member.totalPoints request.avgPointsCouncil request.capKv).2
    payoutShare := payoutShare }

theorem memberFields_valid_iff (request : WeightCalculationInput)
    (member : MemberPointsInput) (share : ℚ) :
    (∀ c ∈ (memberFields request member share).checks, c.2 = true) ↔ 0 ≤ share := by
  obtain ⟨hraw, hcapped⟩ := memberKv_nonneg member.totalPoints_nonneg
    request.avgPointsCouncil_nonneg request.capKv_nonneg
  simp [MemberWeightFields.checks, memberFields, nonNegative, member.memberId_valid,
    member.totalPoints_nonneg, request.avgPointsCouncil_nonneg, hraw, hcapped]
  exact decide_eq_true_iff

/-- A share for each member. -/
theorem length_shares {request : WeightCalculationInput} {shares : List ℚ}
    (hok : calculatePayoutShares request.kvCapped = .ok shares) :
    request.members.length = shares.length := by
  obtain ⟨shares', hok', hzip, _⟩ :=
    calculatePayoutShares_conserves request.kvCapped request.kvCapped_nonneg
  rw [hok, Except.ok.injEq] at hok'
  subst hok'
  have hlength := hzip.length_eq
  rwa [WeightCalculationInput.kvCapped, List.length_map] at hlength

/-- INTERNAL: the loop over the members, with the weights and the shares worked out.
SOURCE: weight_engine.py:158-197 -/
theorem calculateWeightsOf_eq (request : WeightCalculationInput) (shares : List ℚ)
    (hok : calculatePayoutShares request.kvCapped = .ok shares) :
    calculateWeightsOf request =
      ((request.members.zip shares).mapM fun p =>
        Validated.make "MemberWeightOutput" MemberWeightFields.checks
          (memberFields request p.1 p.2)) >>= fun members =>
      Validated.make "WeightCalculationOutput" WeightCalculationFields.checks
        { avgPointsCouncil := request.avgPointsCouncil
          capKv := request.capKv
          totalKvCapped := roundTo kvCappedDecimals request.kvCapped.sum
          members := members } := by
  have hlength := length_shares hok
  have hkv : (request.members.mapM fun member => do
      let kv ← calculateMemberKv member.totalPoints request.avgPointsCouncil request.capKv
      pure (member, kv)) = .ok (request.members.map fun m =>
        (m, memberKv m.totalPoints request.avgPointsCouncil request.capKv)) := by
    apply mapM_eq_ok_map
    intro m _
    rw [calculateMemberKv_eq_ok m.totalPoints_nonneg request.avgPointsCouncil_nonneg
      request.capKv_nonneg request.capKv_le_one]
    rfl
  have hcapped : (request.members.map fun m =>
      (m, memberKv m.totalPoints request.avgPointsCouncil request.capKv)).map
        (fun w => w.2.2) = request.kvCapped := by
    rw [List.map_map]
    rfl
  unfold calculateWeightsOf
  rw [hkv]
  simp only [bind, Except.bind, hcapped, hok, zipStrict, List.length_map, hlength, if_true,
    List.zip_map_left]
  have hmake : (fun p : MemberPointsInput × ℚ =>
      memberWeightOutput (memberFields request p.1 p.2)) = fun p =>
        Validated.make "MemberWeightOutput" MemberWeightFields.checks
          (memberFields request p.1 p.2) := by
    funext p
    have htrim : Text.trim (memberFields request p.1 p.2).memberId =
        (memberFields request p.1 p.2).memberId := trim_of_tokenPattern p.1.memberId_valid
    unfold memberWeightOutput
    rw [htrim]
  rw [List.mapM_map, ← hmake]
  simp only [Function.comp_def, Prod.map_fst, Prod.map_snd, id_eq, memberFields]

/-- INTERNAL: `calculate_weights` succeeds exactly when no share is negative, and then its
members carry the capped weights and the shares. -/
theorem calculateWeightsOf_cases (request : WeightCalculationInput) (shares : List ℚ)
    (hok : calculatePayoutShares request.kvCapped = .ok shares) :
    ((∃ out, calculateWeightsOf request = .ok out) ↔ ∀ share ∈ shares, 0 ≤ share) ∧
      ∀ out, calculateWeightsOf request = .ok out →
        out.members.map MemberWeightFields.payoutShare = shares ∧
          out.members.map MemberWeightFields.kvCapped = request.kvCapped := by
  have hlength := length_shares hok
  have hsnd : (request.members.zip shares).map Prod.snd = shares :=
    List.map_snd_zip hlength.ge
  have hfst : (request.members.zip shares).map Prod.fst = request.members :=
    List.map_fst_zip hlength.le
  have htotal : ∀ members, ∀ c ∈ WeightCalculationFields.checks
      { avgPointsCouncil := request.avgPointsCouncil
        capKv := request.capKv
        totalKvCapped := roundTo kvCappedDecimals request.kvCapped.sum
        members := members }, c.2 = true := by
    intro members
    have hsum : 0 ≤ roundTo kvCappedDecimals request.kvCapped.sum :=
      roundTo_nonneg _ (List.sum_nonneg request.kvCapped_nonneg)
    simp [WeightCalculationFields.checks, nonNegative, request.avgPointsCouncil_nonneg,
      request.capKv_nonneg, hsum]
  rw [calculateWeightsOf_eq request shares hok]
  cases hmembers : (request.members.zip shares).mapM fun p =>
      Validated.make "MemberWeightOutput" MemberWeightFields.checks
        (memberFields request p.1 p.2) with
  | error e =>
      refine ⟨⟨?_, ?_⟩, ?_⟩
      · rintro ⟨out, hout⟩
        cases hout
      · -- a refused member has a negative share
        intro hnonneg
        exfalso
        have hall := (exists_mapM_eq_ok_iff (fun p : MemberPointsInput × ℚ =>
          Validated.make "MemberWeightOutput" MemberWeightFields.checks
            (memberFields request p.1 p.2)) (request.members.zip shares)).mpr (by
              intro p hp
              rw [Validated.exists_make_eq_ok_iff, memberFields_valid_iff]
              apply hnonneg
              rw [← hsnd]
              exact List.mem_map_of_mem hp)
        obtain ⟨members, hmembers'⟩ := hall
        rw [hmembers] at hmembers'
        cases hmembers'
      · intro out hout
        cases hout
  | ok members =>
      have hfields : members.map Validated.fields =
          (request.members.zip shares).map fun p => memberFields request p.1 p.2 := by
        rw [mapM_eq_ok_iff] at hmembers
        have hforall := hmembers.imp fun p m hm =>
          (Validated.make_eq_ok_iff _ _ m).mp hm
        symm
        rw [← List.forall₂_eq_eq_eq, List.forall₂_map_left_iff, List.forall₂_map_right_iff]
        exact hforall.imp fun p m hm => hm.symm
      have hshares : (members.map Validated.fields).map MemberWeightFields.payoutShare =
          shares := by
        rw [hfields, List.map_map]
        exact hsnd
      have hkvs : (members.map Validated.fields).map MemberWeightFields.kvCapped =
          request.kvCapped := by
        unfold WeightCalculationInput.kvCapped
        rw [hfields, List.map_map]
        conv_rhs => rw [← hfst, List.map_map]
        rfl
      have hmake := Validated.make_of_valid "WeightCalculationOutput" _ (htotal members)
      refine ⟨⟨?_, ?_⟩, ?_⟩
      · intro _ share hshare
        rw [← hshares, List.map_map, List.mem_map] at hshare
        obtain ⟨m, _, rfl⟩ := hshare
        have hvalid := m.valid ("payout_share", nonNegative m.fields.payoutShare)
          (by simp [MemberWeightFields.checks])
        simpa [nonNegative] using hvalid
      · intro _
        exact ⟨_, hmake⟩
      · intro out hout
        have hout' := hmake.symm.trans hout
        rw [Except.ok.injEq] at hout'
        subst hout'
        exact ⟨hshares, hkvs⟩

/-! ## The total -/

/-- **When the calculation succeeds.**  `calculate_weights` of a valid request returns, with
every share in `[0, 1]`, if and only if the rounding errors fit. -/
theorem calculateWeights_returns_iff (request : WeightCalculationInput) :
    (∃ out, calculateWeights (some (.request request)) none = .ok out ∧
      ∀ m ∈ out.members, 0 ≤ m.payoutShare ∧ m.payoutShare ≤ 1) ↔
        RoundingFits request.kvCapped := by
  obtain ⟨shares, hok, _⟩ :=
    calculatePayoutShares_conserves request.kvCapped request.kvCapped_nonneg
  obtain ⟨hreturns, hmembers⟩ := calculateWeightsOf_cases request shares hok
  have hfits := calculatePayoutShares_nonneg_iff _ shares request.kvCapped_nonneg hok
  rw [request.map_roundTo_kvCapped] at hfits
  constructor
  · rintro ⟨out, hout, _⟩
    exact hfits.mp (hreturns.mp ⟨out, hout⟩)
  · intro h
    have hnonneg := hfits.mpr h
    obtain ⟨out, hout⟩ := hreturns.mpr hnonneg
    have hle := calculatePayoutShares_le_one _ shares request.kvCapped_nonneg hok hnonneg
    refine ⟨out, hout, ?_⟩
    intro m hm
    have hmem : m.payoutShare ∈ shares := by
      rw [← (hmembers out hout).1]
      exact List.mem_map_of_mem hm
    exact ⟨hnonneg _ hmem, hle _ hmem⟩

/-- 1430 members at the cap and one member with a single point, against an average of
100000. -/
def crowdedRequest : WeightCalculationInput where
  avgPointsCouncil := 100000
  members :=
    List.replicate 1430 ⟨"member", 10000, by decide, by decide⟩ ++
      [⟨"newcomer", 1, by decide, by decide⟩]
  capKv := councilCapKv
  avgPointsCouncil_nonneg := by decide
  capKv_nonneg := by decide +kernel
  capKv_le_one := by decide +kernel

theorem kvCapped_crowdedRequest :
    crowdedRequest.kvCapped = List.replicate 1430 (1 / 10) ++ [1 / 100000] := by
  have hmember : (memberKv 10000 100000 councilCapKv).2 = 1 / 10 := by decide +kernel
  have hnewcomer : (memberKv 1 100000 councilCapKv).2 = 1 / 100000 := by decide +kernel
  unfold WeightCalculationInput.kvCapped crowdedRequest
  rw [List.map_append, List.map_replicate, List.map_singleton, hmember, hnewcomer]

/-- The 1430 rounded shares add up to more than 1, so the newcomer is left with a negative
one and the whole calculation is refused. -/
theorem calculateWeights_crowdedRequest :
    ¬ ∃ out, calculateWeights (some (.request crowdedRequest)) none = .ok out := by
  rintro ⟨out, hout⟩
  obtain ⟨shares, hok, _⟩ := calculatePayoutShares_conserves crowdedRequest.kvCapped
    crowdedRequest.kvCapped_nonneg
  have hnonneg := (calculateWeightsOf_cases crowdedRequest shares hok).1.mp ⟨out, hout⟩
  have hfits := (calculatePayoutShares_nonneg_iff _ shares crowdedRequest.kvCapped_nonneg
    hok).mp hnonneg
  rw [crowdedRequest.map_roundTo_kvCapped, kvCapped_crowdedRequest,
    roundingFits_split_iff _ _ _ (by decide +kernel) ?_ (by simp)] at hfits
  · rw [List.map_replicate, List.sum_replicate, List.sum_replicate] at hfits
    revert hfits
    decide +kernel
  · intro w hw
    rw [List.eq_of_mem_replicate hw]
    decide +kernel

end MediaCenter.ContributionLedger
