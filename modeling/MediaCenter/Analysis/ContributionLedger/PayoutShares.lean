import MediaCenter.Model.ContributionLedger.PayoutExporter

/-!
# What the weight engine distributes

The rounded shares leave a residual, which goes to the last positive entry; every number
in sight is a multiple of `10 ^ (-10)`, so the corrected shares add up to 1 exactly.  The
corrected entry is what the other shares leave of 1, and nothing keeps it from being
negative: `RoundingFits` says when it is not.
-/

set_option autoImplicit false

namespace MediaCenter.ContributionLedger

open MediaCenter.Library MediaCenter.Shared

/-! ## The last positive entry -/

theorem positiveIndexes_append_singleton (l : List ℚ) (x : ℚ) :
    positiveIndexes (l ++ [x]) =
      if 0 < x then positiveIndexes l ++ [l.length] else positiveIndexes l := by
  unfold positiveIndexes
  rw [List.zipIdx_append, List.filter_append, List.map_append]
  by_cases hx : 0 < x
  · simp [hx]
  · simp [hx]

/-- INTERNAL: a list without positive entries has no last one; any other list splits
there. -/
theorem getLast?_positiveIndexes_cases (l : List ℚ) :
    ((∀ w ∈ l, ¬ 0 < w) ∧ (positiveIndexes l).getLast? = none) ∨
      ∃ before v after, l = before ++ v :: after ∧ 0 < v ∧ (∀ w ∈ after, ¬ 0 < w) ∧
        (positiveIndexes l).getLast? = some before.length := by
  induction l using List.reverseRecOn with
  | nil => exact .inl ⟨by simp, rfl⟩
  | append_singleton l x ih =>
      rw [positiveIndexes_append_singleton]
      by_cases hx : 0 < x
      · refine .inr ⟨l, x, [], rfl, hx, by simp, ?_⟩
        rw [if_pos hx, List.getLast?_append]
        rfl
      · rw [if_neg hx]
        rcases ih with ⟨hnone, hlast⟩ | ⟨before, v, after, rfl, hv, hafter, hlast⟩
        · refine .inl ⟨?_, hlast⟩
          intro w hw
          rw [List.mem_append, List.mem_singleton] at hw
          rcases hw with hw | rfl
          · exact hnone w hw
          · exact hx
        · refine .inr ⟨before, v, after ++ [x], by simp, hv, ?_, hlast⟩
          intro w hw
          rw [List.mem_append, List.mem_singleton] at hw
          rcases hw with hw | rfl
          · exact hafter w hw
          · exact hx

theorem modify_append_cons {α : Type} (before : List α) (a : α) (after : List α)
    (f : α → α) :
    (before ++ a :: after).modify before.length f = before ++ f a :: after := by
  induction before with
  | nil => rfl
  | cons b before ih =>
      rw [List.cons_append, List.length_cons, List.modify_succ_cons, ih]
      rfl

/-! ## The shares -/

/-- The share of a value before the correction. -/
def roundedShare (total value : ℚ) : ℚ := roundTo payoutShareDecimals (value / total)

@[simp] theorem roundedShare_zero (total : ℚ) : roundedShare total 0 = 0 := by
  unfold roundedShare
  rw [zero_div, roundTo_zero]

theorem roundedShare_nonneg {total value : ℚ} (htotal : 0 ≤ total) (hvalue : 0 ≤ value) :
    0 ≤ roundedShare total value :=
  roundTo_nonneg _ (div_nonneg hvalue htotal)

theorem onGrid_sum_roundedShare (total : ℚ) (l : List ℚ) :
    OnGrid payoutShareDecimals (l.map (roundedShare total)).sum := by
  apply OnGrid.sum
  intro x hx
  rw [List.mem_map] at hx
  obtain ⟨v, _, rfl⟩ := hx
  exact onGrid_roundTo _ _

/-- INTERNAL: the residual is not rounded away: it is on the grid already. -/
theorem roundTo_residual (total : ℚ) (l : List ℚ) :
    roundTo payoutShareDecimals (1 - (l.map (roundedShare total)).sum) =
      1 - (l.map (roundedShare total)).sum :=
  roundTo_of_onGrid ((OnGrid.one _).sub (onGrid_sum_roundedShare total l))

theorem sum_roundedShare_split (before after : List ℚ) (v total : ℚ)
    (hafter : ∀ w ∈ after, w = 0) :
    ((before ++ v :: after).map (roundedShare total)).sum =
      (before.map (roundedShare total)).sum + roundedShare total v := by
  have hzero : (after.map (roundedShare total)).sum = 0 := by
    apply List.sum_eq_zero
    intro x hx
    rw [List.mem_map] at hx
    obtain ⟨w, hw, rfl⟩ := hx
    rw [hafter w hw, roundedShare_zero]
  rw [List.map_append, List.map_cons, List.sum_append, List.sum_cons, hzero, add_zero]

/-- INTERNAL: with the residual corrected, the last positive entry holds what the others
leave of 1.
SOURCE: weight_engine.py:125-141 -/
theorem correctLastShare_eq (before after : List ℚ) (v total : ℚ)
    (hafter : ∀ w ∈ after, w = 0)
    (hlast : (positiveIndexes (before ++ v :: after)).getLast? = some before.length) :
    correctLastShare (before ++ v :: after)
        ((before ++ v :: after).map (roundedShare total))
        (1 - ((before ++ v :: after).map (roundedShare total)).sum) =
      before.map (roundedShare total) ++
        (1 - (before.map (roundedShare total)).sum) :: after.map (roundedShare total) := by
  have hcorrected : roundedShare total v +
      (1 - ((before ++ v :: after).map (roundedShare total)).sum) =
        1 - (before.map (roundedShare total)).sum := by
    rw [sum_roundedShare_split before after v total hafter]
    ring
  have hgrid : OnGrid payoutShareDecimals (1 - (before.map (roundedShare total)).sum) :=
    (OnGrid.one _).sub (onGrid_sum_roundedShare total _)
  have hlength : (before.map (roundedShare total)).length = before.length :=
    List.length_map _
  unfold correctLastShare
  rw [hlast]
  simp only [List.map_append, List.map_cons] at hcorrected ⊢
  rw [← hlength, modify_append_cons, hcorrected, roundTo_of_onGrid hgrid]

/-- INTERNAL: the whole function.  Either every value rounds to zero and so does every
share, or the rounded values split at the last positive one.
SOURCE: weight_engine.py:111-141 -/
theorem calculatePayoutShares_cases (values : List ℚ) (hvalues : ∀ v ∈ values, 0 ≤ v) :
    ((∀ w ∈ values.map (roundTo kvCappedDecimals), w = 0) ∧
        calculatePayoutShares values = .ok (values.map fun _ => 0)) ∨
      ∃ before v after, values.map (roundTo kvCappedDecimals) = before ++ v :: after ∧
        0 < v ∧ (∀ w ∈ before, 0 ≤ w) ∧ (∀ w ∈ after, w = 0) ∧
        calculatePayoutShares values =
          .ok (before.map (roundedShare (before.sum + v)) ++
            (1 - (before.map (roundedShare (before.sum + v))).sum) ::
              after.map (roundedShare (before.sum + v))) := by
  have hvalidate : (values.forM fun value =>
      validateNonNegativeFinite value "kv_capped") = .ok () := by
    rw [forM_eq_ok_iff]
    intro v hv
    unfold validateNonNegativeFinite
    rw [if_neg (not_lt.mpr (hvalues v hv))]
  have hnonneg : ∀ w ∈ values.map (roundTo kvCappedDecimals), 0 ≤ w := by
    intro w hw
    rw [List.mem_map] at hw
    obtain ⟨v, hv, rfl⟩ := hw
    exact roundTo_nonneg _ (hvalues v hv)
  have htotal : roundTo kvCappedDecimals (values.map (roundTo kvCappedDecimals)).sum =
      (values.map (roundTo kvCappedDecimals)).sum := by
    apply roundTo_of_onGrid
    apply OnGrid.sum
    intro w hw
    rw [List.mem_map] at hw
    obtain ⟨v, _, rfl⟩ := hw
    exact onGrid_roundTo _ _
  have hshares : ∀ total, ((values.map (roundTo kvCappedDecimals)).map fun value =>
      if value > 0 then roundTo payoutShareDecimals (value / total) else 0) =
        (values.map (roundTo kvCappedDecimals)).map (roundedShare total) := by
    intro total
    apply List.map_congr_left
    intro w hw
    rcases (hnonneg w hw).lt_or_eq with hpos | hzero
    · rw [if_pos hpos]
      rfl
    · rw [← hzero, roundedShare_zero]
      rfl
  unfold calculatePayoutShares
  rw [hvalidate]
  simp only [htotal, hshares, bind, Except.bind, pure, Except.pure]
  rcases getLast?_positiveIndexes_cases (values.map (roundTo kvCappedDecimals)) with
    ⟨hnone, _⟩ | ⟨before, v, after, hsplit, hv, hafter, hlast⟩
  · have hall : ∀ w ∈ values.map (roundTo kvCappedDecimals), w = 0 := fun w hw =>
      le_antisymm (not_lt.mp (hnone w hw)) (hnonneg w hw)
    refine .inl ⟨hall, ?_⟩
    rw [List.sum_eq_zero hall, if_pos rfl, List.map_map]
    split_ifs with hempty
    · rw [hempty]
      rfl
    · rfl
  · rw [hsplit] at hnonneg hlast ⊢
    have hzero : ∀ w ∈ after, w = 0 := fun w hw =>
      le_antisymm (not_lt.mp (hafter w hw)) (hnonneg w (by simp [hw]))
    have hbefore : ∀ w ∈ before, 0 ≤ w := fun w hw => hnonneg w (by simp [hw])
    have hsum : (before ++ v :: after).sum = before.sum + v := by
      rw [List.sum_append, List.sum_cons, List.sum_eq_zero hzero, add_zero]
    have hpos : 0 < before.sum + v := add_pos_of_nonneg_of_pos (List.sum_nonneg hbefore) hv
    have hne : values ≠ [] := by
      rintro rfl
      simp at hsplit
    refine .inr ⟨before, v, after, rfl, hv, hbefore, hzero, ?_⟩
    rw [hsum, if_neg hne, if_neg hpos.ne', roundTo_residual]
    split_ifs with hresidual
    · rw [correctLastShare_eq before after v _ hzero hlast]
    · -- nothing is left over: the last positive share is already the rest of 1
      have hrest : roundedShare (before.sum + v) v =
          1 - (before.map (roundedShare (before.sum + v))).sum := by
        rw [not_not, sum_roundedShare_split before after v _ hzero] at hresidual
        linarith
      rw [List.map_append, List.map_cons, hrest]

/-! ## Conservation -/

/-- INTERNAL: a value that rounds to zero gets no share, the shares add up to 1 when some
value does not, and there is one share for each value. -/
theorem calculatePayoutShares_conserves (values : List ℚ) (hvalues : ∀ v ∈ values, 0 ≤ v) :
    ∃ shares, calculatePayoutShares values = .ok shares ∧
      List.Forall₂ (fun v share => roundTo kvCappedDecimals v = 0 → share = 0)
        values shares ∧
      ((∃ v ∈ values, 0 < roundTo kvCappedDecimals v) → shares.sum = 1) ∧
      ((∀ v ∈ values, roundTo kvCappedDecimals v = 0) → ∀ share ∈ shares, share = 0) := by
  rcases calculatePayoutShares_cases values hvalues with
    ⟨hall, hok⟩ | ⟨before, v, after, hsplit, hv, _, hzero, hok⟩
  · have hvanish : ∀ w ∈ values, roundTo kvCappedDecimals w = 0 := fun w hw =>
      hall _ (List.mem_map_of_mem hw)
    refine ⟨_, hok, ?_, ?_, ?_⟩
    · rw [List.forall₂_map_right_iff, List.forall₂_same]
      intro w _ _
      rfl
    · rintro ⟨w, hw, hpos⟩
      rw [hvanish w hw] at hpos
      exact absurd hpos (lt_irrefl 0)
    · intro _ share hshare
      rw [List.mem_map] at hshare
      obtain ⟨w, _, rfl⟩ := hshare
      rfl
  · refine ⟨_, hok, ?_, ?_, ?_⟩
    · have hrounded : List.Forall₂ (fun w share => w = 0 → share = 0)
          (values.map (roundTo kvCappedDecimals))
          (before.map (roundedShare (before.sum + v)) ++
            (1 - (before.map (roundedShare (before.sum + v))).sum) ::
              after.map (roundedShare (before.sum + v))) := by
        have hshare : ∀ l : List ℚ, List.Forall₂ (fun w share => w = 0 → share = 0) l
            (l.map (roundedShare (before.sum + v))) := by
          intro l
          rw [List.forall₂_map_right_iff, List.forall₂_same]
          rintro w _ rfl
          exact roundedShare_zero _
        rw [hsplit]
        exact List.rel_append (hshare before)
          (.cons (fun h => absurd h hv.ne') (hshare after))
      rwa [List.forall₂_map_left_iff] at hrounded
    · intro _
      have hafter := sum_roundedShare_split before after v (before.sum + v) hzero
      rw [List.map_append, List.map_cons, List.sum_append, List.sum_cons] at hafter
      rw [List.sum_append, List.sum_cons]
      linarith
    · intro hvanish
      have hmem : v ∈ values.map (roundTo kvCappedDecimals) := by
        rw [hsplit]
        simp
      rw [List.mem_map] at hmem
      obtain ⟨w, hw, hwv⟩ := hmem
      rw [hvanish w hw] at hwv
      exact absurd hwv hv.ne

/-! ## When no share is negative -/

def positiveValues (kvCapped : List ℚ) : List ℚ := kvCapped.filter fun v => 0 < v

/-- The rounding errors of the positive members but the last do not eat up the exact share
of the last: their sum, each `round(v / total, 10) - v / total`, is at most
`last / total`. -/
def RoundingFits (kvCapped : List ℚ) : Prop :=
  ∀ last ∈ (positiveValues kvCapped).getLast?,
    ((positiveValues kvCapped).dropLast.map fun v =>
      roundTo payoutShareDecimals (v / kvCapped.sum) - v / kvCapped.sum).sum ≤
        last / kvCapped.sum

theorem sum_map_positiveValues {f : ℚ → ℚ} (hf : f 0 = 0) (l : List ℚ)
    (hl : ∀ w ∈ l, 0 ≤ w) : ((positiveValues l).map f).sum = (l.map f).sum := by
  unfold positiveValues
  induction l with
  | nil => rfl
  | cons w l ih =>
      have htail := ih fun x hx => hl x (by simp [hx])
      by_cases hw : 0 < w
      · simp only [List.filter_cons, hw, decide_true, if_true, List.map_cons, List.sum_cons]
        rw [htail]
      · have hzero : w = 0 := le_antisymm (not_lt.mp hw) (hl w (by simp))
        simp only [List.filter_cons, hw, decide_false, Bool.false_eq_true, if_false,
          List.map_cons, List.sum_cons]
        rw [htail, hzero, hf, zero_add]

theorem positiveValues_split (before after : List ℚ) (v : ℚ) (hv : 0 < v)
    (hafter : ∀ w ∈ after, w = 0) :
    positiveValues (before ++ v :: after) = positiveValues before ++ [v] := by
  have hnone : after.filter (fun w => decide (0 < w)) = [] := by
    rw [List.filter_eq_nil_iff]
    intro w hw
    rw [hafter w hw]
    simp
  unfold positiveValues
  rw [List.filter_append, List.filter_cons, hnone]
  simp [hv]

theorem sum_roundingError (total : ℚ) (l : List ℚ) :
    (l.map fun w => roundTo payoutShareDecimals (w / total) - w / total).sum =
      (l.map (roundedShare total)).sum - l.sum / total := by
  induction l with
  | nil => simp
  | cons w l ih =>
      simp only [List.map_cons, List.sum_cons, ih]
      unfold roundedShare
      ring

/-- INTERNAL: `RoundingFits` is about the shares in front of the last positive one. -/
theorem roundingFits_split_iff (before after : List ℚ) (v : ℚ) (hv : 0 < v)
    (hbefore : ∀ w ∈ before, 0 ≤ w) (hafter : ∀ w ∈ after, w = 0) :
    RoundingFits (before ++ v :: after) ↔
      (before.map (roundedShare (before.sum + v))).sum ≤ 1 := by
  have hsum : (before ++ v :: after).sum = before.sum + v := by
    rw [List.sum_append, List.sum_cons, List.sum_eq_zero hafter, add_zero]
  have hpos : 0 < before.sum + v := add_pos_of_nonneg_of_pos (List.sum_nonneg hbefore) hv
  have hexcess : ((positiveValues before).map fun w =>
      roundTo payoutShareDecimals (w / (before.sum + v)) - w / (before.sum + v)).sum =
        (before.map (roundedShare (before.sum + v))).sum - before.sum / (before.sum + v) := by
    rw [sum_map_positiveValues (by simp) before hbefore, sum_roundingError]
  have hexact : v / (before.sum + v) = 1 - before.sum / (before.sum + v) := by
    field_simp
    ring
  unfold RoundingFits
  rw [positiveValues_split before after v hv hafter, hsum, List.dropLast_concat,
    List.getLast?_concat]
  simp only [Option.mem_some_iff, forall_eq']
  rw [hexcess, hexact]
  constructor
  · intro h
    linarith
  · intro h
    linarith

theorem roundingFits_of_forall_eq_zero (l : List ℚ) (hl : ∀ w ∈ l, w = 0) :
    RoundingFits l := by
  have hnone : positiveValues l = [] := by
    unfold positiveValues
    rw [List.filter_eq_nil_iff]
    intro w hw
    rw [hl w hw]
    simp
  unfold RoundingFits
  rw [hnone]
  intro last hlast
  simp at hlast

/-- INTERNAL: no share exceeds 1 unless another one is negative. -/
theorem calculatePayoutShares_le_one (values shares : List ℚ)
    (hvalues : ∀ v ∈ values, 0 ≤ v) (hok : calculatePayoutShares values = .ok shares)
    (hnonneg : ∀ share ∈ shares, 0 ≤ share) : ∀ share ∈ shares, share ≤ 1 := by
  obtain ⟨shares', hok', _, hone, hzero⟩ := calculatePayoutShares_conserves values hvalues
  rw [hok, Except.ok.injEq] at hok'
  subst hok'
  intro share hshare
  by_cases hpos : ∃ v ∈ values, 0 < roundTo kvCappedDecimals v
  · rw [← hone hpos]
    exact List.single_le_sum hnonneg share hshare
  · have hall : ∀ v ∈ values, roundTo kvCappedDecimals v = 0 := by
      intro v hv
      have hle : ¬ 0 < roundTo kvCappedDecimals v := fun h => hpos ⟨v, hv, h⟩
      exact le_antisymm (not_lt.mp hle) (roundTo_nonneg _ (hvalues v hv))
    rw [hzero hall share hshare]
    exact zero_le_one

/-- INTERNAL: no share is negative if and only if the rounding errors fit. -/
theorem calculatePayoutShares_nonneg_iff (values shares : List ℚ)
    (hvalues : ∀ v ∈ values, 0 ≤ v) (hok : calculatePayoutShares values = .ok shares) :
    (∀ share ∈ shares, 0 ≤ share) ↔
      RoundingFits (values.map (roundTo kvCappedDecimals)) := by
  rcases calculatePayoutShares_cases values hvalues with
    ⟨hall, hok'⟩ | ⟨before, v, after, hsplit, hv, hbefore, hzero, hok'⟩
  · rw [hok, Except.ok.injEq] at hok'
    subst hok'
    constructor
    · intro _
      exact roundingFits_of_forall_eq_zero _ hall
    · intro _ share hshare
      rw [List.mem_map] at hshare
      obtain ⟨w, _, rfl⟩ := hshare
      exact le_refl 0
  · rw [hok, Except.ok.injEq] at hok'
    subst hok'
    rw [hsplit, roundingFits_split_iff before after v hv hbefore hzero]
    have htotal : 0 ≤ before.sum + v :=
      add_nonneg (List.sum_nonneg hbefore) hv.le
    constructor
    · intro h
      have := h (1 - (before.map (roundedShare (before.sum + v))).sum) (by simp)
      linarith
    · intro h share hshare
      rw [List.mem_append, List.mem_cons] at hshare
      rcases hshare with hshare | rfl | hshare
      · rw [List.mem_map] at hshare
        obtain ⟨w, hw, rfl⟩ := hshare
        exact roundedShare_nonneg htotal (hbefore w hw)
      · linarith
      · rw [List.mem_map] at hshare
        obtain ⟨w, hw, rfl⟩ := hshare
        rw [hzero w hw, roundedShare_zero]

end MediaCenter.ContributionLedger
