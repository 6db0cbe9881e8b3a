import MediaCenter.Model.Cglr.LinkRotator
import MediaCenter.Model.Shared.Reference

/-!
# The rotation is weight-proportional

The scaled weights of the eligible candidates cut the offsets below their total into intervals;
every offset is in one of them.
-/

set_option autoImplicit false

namespace MediaCenter.Cglr

open MediaCenter.Library MediaCenter.Shared

section Selection

variable {lib : LinkLib} {candidates eligible : List (ReferralLinkTarget lib)} {minimum : ℚ}
  {weights : List ℕ} {seed : String}

theorem mem_eligibleCandidates {c : ReferralLinkTarget lib} :
    c ∈ eligibleCandidates candidates minimum ↔
      c ∈ candidates ∧ minimum ≤ c.fields.contributionWeight := by
  unfold eligibleCandidates
  rw [List.mem_insertionSort, List.mem_filter, decide_eq_true_iff]

/-- A candidate that is listed twice is eligible twice. -/
theorem eligibleCandidates_perm : (eligibleCandidates candidates minimum).Perm
    (candidates.filter fun c => minimum ≤ c.fields.contributionWeight) :=
  List.perm_insertionSort _ _

theorem pos_of_scaleWeight {weight : ℚ} {scaled : ℕ} (h : scaleWeight weight = .ok scaled) :
    0 < scaled := by
  unfold scaleWeight at h
  split at h
  · cases h
  · split_ifs at h with hpos
    cases h
    omega

/-- `_scale_weight` of the candidates, one by one. -/
def Scaled (eligible : List (ReferralLinkTarget lib)) (weights : List ℕ) : Prop :=
  List.Forall₂ (fun c w => scaleWeight c.fields.contributionWeight = .ok w) eligible weights

theorem Scaled.mapM_eq (h : Scaled eligible weights) :
    (eligible.mapM fun c => scaleWeight c.fields.contributionWeight) = .ok weights :=
  (mapM_eq_ok_iff _ _ _).mpr h

theorem Scaled.sum_pos (h : Scaled eligible weights) (hne : eligible ≠ []) : 0 < weights.sum := by
  cases h with
  | nil => exact absurd rfl hne
  | cons hw _ =>
      rw [List.sum_cons]
      have hpos := pos_of_scaleWeight hw
      omega

/-- INTERNAL: an offset below the total weight picks the candidate at the position whose interval
it is in. -/
theorem cumulativeLoop_eq (h : Scaled eligible weights) {offset : ℕ}
    (hoffset : offset < weights.sum) : ∃ (i : ℕ) (hi : i < eligible.length),
      WeightedChoice.position offset weights = some i ∧
        cumulativeLoop offset eligible weights = some eligible[i] := by
  have hlength : eligible.length = weights.length := List.Forall₂.length_eq h
  obtain ⟨i, hposition⟩ : ∃ i, WeightedChoice.position offset weights = some i := by
    unfold WeightedChoice.position
    apply WeightedChoice.exists_choose (Nat.zero_le _)
    rw [WeightedChoice.total_zip (List.length_range), Nat.zero_add]
    exact hoffset
  have hi := (WeightedChoice.position_eq_some_iff.mp hposition).1
  refine ⟨i, by omega, hposition, ?_⟩
  unfold cumulativeLoop
  rw [WeightedChoice.choose_zip hlength, hposition, Option.bind_some,
    List.getElem?_eq_getElem (by omega)]

/-- INTERNAL: with scaled weights, the selection is the loop at the offset of the seed. -/
theorem selectL3Partner_eq (h : Scaled (eligibleCandidates candidates minimum) weights)
    (hne : eligibleCandidates candidates minimum ≠ []) : ∃ chosen,
      cumulativeLoop (lib.seedNumber seed % weights.sum)
          (eligibleCandidates candidates minimum) weights = some chosen ∧
        selectL3Partner candidates seed minimum = .ok chosen := by
  have hpos := h.sum_pos hne
  obtain ⟨i, hi, _, hloop⟩ := cumulativeLoop_eq h (Nat.mod_lt (lib.seedNumber seed) hpos)
  refine ⟨_, hloop, ?_⟩
  unfold selectL3Partner
  simp only
  split
  · rename_i hlast
    exact absurd (List.getLast?_eq_none_iff.mp hlast) hne
  · have hoffset : seedOffset lib seed weights.sum =
        .ok (lib.seedNumber seed % weights.sum) := by
      unfold seedOffset
      rw [if_neg (by omega)]
    rw [h.mapM_eq]
    simp only [bind, Except.bind, hoffset, hloop]
    rfl

end Selection

/-- **The rotation is proportional.**  The eligible candidates are those that weigh enough, each as
often as it is listed.  If every one of them has a scaled weight, each offset below the total picks
one of them, each of them is picked by as many offsets as its scaled weight, nothing else is ever
picked, and the selection never falls through its loop. -/
theorem selectL3Partner_proportional (lib : LinkLib)
    (candidates : List (ReferralLinkTarget lib)) (minimum : ℚ)
    (h : ∀ c ∈ candidates, minimum ≤ c.fields.contributionWeight →
      ∃ w, scaleWeight c.fields.contributionWeight = .ok w) :
    (∀ c, c ∈ eligibleCandidates candidates minimum ↔
      c ∈ candidates ∧ minimum ≤ c.fields.contributionWeight) ∧
    (eligibleCandidates candidates minimum).Perm
      (candidates.filter fun c => minimum ≤ c.fields.contributionWeight) ∧
    ∃ weights, Scaled (eligibleCandidates candidates minimum) weights ∧
      (∀ offset < weights.sum, ∃ (i : ℕ) (hi : i < (eligibleCandidates candidates minimum).length),
        WeightedChoice.position offset weights = some i ∧
          cumulativeLoop offset (eligibleCandidates candidates minimum) weights =
            some (eligibleCandidates candidates minimum)[i]) ∧
      (∀ (i : ℕ) (hi : i < weights.length), ((Finset.range weights.sum).filter fun offset =>
        WeightedChoice.position offset weights = some i).card = weights[i]) ∧
      (∀ offset c, cumulativeLoop offset (eligibleCandidates candidates minimum) weights =
        some c → c ∈ candidates ∧ minimum ≤ c.fields.contributionWeight) ∧
      ∀ seed, eligibleCandidates candidates minimum ≠ [] → ∃ chosen,
        cumulativeLoop (lib.seedNumber seed % weights.sum)
          (eligibleCandidates candidates minimum) weights = some chosen ∧
        selectL3Partner candidates seed minimum = .ok chosen := by
  obtain ⟨weights, hweights⟩ := (exists_mapM_eq_ok_iff
    (fun c : ReferralLinkTarget lib => scaleWeight c.fields.contributionWeight)
    (eligibleCandidates candidates minimum)).mpr fun c hc =>
      h c (mem_eligibleCandidates.mp hc).1 (mem_eligibleCandidates.mp hc).2
  have hscaled : Scaled (eligibleCandidates candidates minimum) weights :=
    (mapM_eq_ok_iff _ _ _).mp hweights
  refine ⟨fun _ => mem_eligibleCandidates, eligibleCandidates_perm, weights, hscaled,
    fun _ => cumulativeLoop_eq hscaled, fun _ hi => WeightedChoice.card_position hi, ?_,
    fun _ => selectL3Partner_eq hscaled⟩
  intro offset c hc
  unfold cumulativeLoop at hc
  rw [WeightedChoice.choose_eq_some_iff (Nat.zero_le _)] at hc
  obtain ⟨before, w, after, hzip, _⟩ := hc
  have hmem : (c, w) ∈ (eligibleCandidates candidates minimum).zip weights := by
    rw [hzip]
    exact List.mem_append_right _ List.mem_cons_self
  exact mem_eligibleCandidates.mp (List.of_mem_zip hmem).1

/-! ## Two partners of one site -/

def partnersUrl : String := "https://partners.example/join"

/-- The functions of the standard library, on that URL and names without special characters. -/
def plainLib : LinkLib where
  urlsplit url :=
    if url = partnersUrl then some ⟨"https", "partners.example", "/join", "", ""⟩ else none
  urlunsplit parts := parts.scheme ++ "://" ++ parts.netloc ++ parts.path ++
    (if parts.query = "" then "" else "?" ++ parts.query)
  parseQsl _ := []
  urlencode items := "&".intercalate (items.map fun e => e.1 ++ "=" ++ e.2)
  seedNumber seed := Sha.fromBytesBE ((Sha.sha256 (Reference.utf8 seed)).take 16)
  formatG x := if x.den = 1 then toString x.num else Reference.reprFloat x

/-- A target of that site. -/
def plainTarget (ownerId : String) (weight : ℚ)
    (h : tokenPattern ownerId = true ∧ 0 ≤ weight) : ReferralLinkTarget plainLib where
  fields := ⟨ownerId, partnersUrl, weight⟩
  valid := by
    have hurl : (hasLength 1 referralUrlMaxLength partnersUrl &&
        validateUrl plainLib partnersUrl) = true := by decide
    simp only [TargetFields.checks, List.forall_mem_cons, hurl, h.1, h.2, decide_true]
    simp

def partnerA : ReferralLinkTarget plainLib := plainTarget "partner-a" 10 (by decide)

def partnerB : ReferralLinkTarget plainLib := plainTarget "partner-b" 30 (by decide)

/-- It weighs too little. -/
def partnerC : ReferralLinkTarget plainLib := plainTarget "partner-c" 5 (by decide)

/-- The theorem at three partners, of which two weigh enough: a quarter of the offsets pick the
first of them, three quarters the second. -/
theorem selectL3Partner_proportional_two :
    partnerA ∈ eligibleCandidates [partnerB, partnerC, partnerA] 10 ∧
    partnerB ∈ eligibleCandidates [partnerB, partnerC, partnerA] 10 ∧
    partnerC ∉ eligibleCandidates [partnerB, partnerC, partnerA] 10 ∧
    eligibleCandidates [partnerB, partnerC, partnerA] 10 = [partnerA, partnerB] ∧
    ((Finset.range 40000).filter fun offset =>
      WeightedChoice.position offset [10000, 30000] = some 0).card = 10000 ∧
    ((Finset.range 40000).filter fun offset =>
      WeightedChoice.position offset [10000, 30000] = some 1).card = 30000 ∧
    ∃ chosen, selectL3Partner [partnerB, partnerC, partnerA] "seed-1" 10 = .ok chosen := by
  have hA : scaleWeight partnerA.fields.contributionWeight = .ok 10000 := by decide +kernel
  have hB : scaleWeight partnerB.fields.contributionWeight = .ok 30000 := by decide +kernel
  have hC : ¬ (10 : ℚ) ≤ partnerC.fields.contributionWeight := by decide +kernel
  have hscaled : ∀ c ∈ [partnerB, partnerC, partnerA],
      (10 : ℚ) ≤ c.fields.contributionWeight →
        ∃ w, scaleWeight c.fields.contributionWeight = .ok w := by
    intro c hc hweight
    simp only [List.mem_cons, List.not_mem_nil, or_false] at hc
    rcases hc with rfl | rfl | rfl
    · exact ⟨_, hB⟩
    · exact absurd hweight hC
    · exact ⟨_, hA⟩
  obtain ⟨hmem, _, weights, hweights, _, hcount, _, hselect⟩ :=
    selectL3Partner_proportional plainLib [partnerB, partnerC, partnerA] 10 hscaled
  have heligible : eligibleCandidates [partnerB, partnerC, partnerA] 10 =
      [partnerA, partnerB] := by rfl
  have hsums : weights = [10000, 30000] := by
    rw [heligible] at hweights
    have hmapM := hweights.mapM_eq
    simp only [List.mapM_cons, List.mapM_nil, hA, hB] at hmapM
    cases hmapM
    rfl
  subst hsums
  refine ⟨(hmem _).mpr ⟨by simp, by decide +kernel⟩, (hmem _).mpr ⟨by simp, by decide +kernel⟩,
    fun h => hC ((hmem _).mp h).2, heligible, hcount 0 (by decide), hcount 1 (by decide), ?_⟩
  obtain ⟨chosen, _, hchosen⟩ := hselect "seed-1" (by rw [heligible]; exact List.cons_ne_nil _ _)
  exact ⟨chosen, hchosen⟩

end MediaCenter.Cglr
