import Mathlib.Algebra.Order.Ring.Nat
import Mathlib.Order.CompleteBooleanAlgebra
import Mathlib.Order.CompletePartialOrder
import MediaCenter.Analysis.Shared.ResourceCalls
import MediaCenter.Model.Shared.Reference

/-!
# Tenant quotas over whole runs

What the counters hold after a run is stated in terms of its calls and their answers: the
admissions of a window, and the amounts granted and given back.
-/

set_option autoImplicit false

namespace MediaCenter.Shared

open MediaCenter.Library

namespace InMemoryTenantResourceManager

/-! ## Windows -/

theorem windowStartedAt_mono (plan : TenantResourcePlan) {m n : ℤ} (h : m ≤ n) :
    windowStartedAt plan m ≤ windowStartedAt plan n := by
  have hpos : (0 : ℤ) < plan.windowSeconds := by
    have hwindow := plan.windowSeconds_pos
    omega
  have hdiv : m / plan.windowSeconds ≤ n / plan.windowSeconds := Int.ediv_le_ediv hpos h
  have hm : windowStartedAt plan m = plan.windowSeconds * (m / plan.windowSeconds) := by
    unfold windowStartedAt
    have hdecomposed := Int.mul_ediv_add_emod m plan.windowSeconds
    omega
  have hn : windowStartedAt plan n = plan.windowSeconds * (n / plan.windowSeconds) := by
    unfold windowStartedAt
    have hdecomposed := Int.mul_ediv_add_emod n plan.windowSeconds
    omega
  rw [hm, hn]
  exact Int.mul_le_mul_of_nonneg_left hdiv hpos.le

section CurrentState

variable (plan : TenantResourcePlan) (now : ℤ) (stored : Option TenantResourceState)

@[simp] theorem plan_currentState : (currentState plan now stored).plan = plan := by
  cases stored with
  | none => rfl
  | some s =>
      unfold currentState rollWindowIfNeeded
      simp only
      split <;> rfl

@[simp] theorem windowStartedAt_currentState :
    (currentState plan now stored).windowStartedAt = windowStartedAt plan now := by
  cases stored with
  | none => rfl
  | some s =>
      unfold currentState rollWindowIfNeeded
      simp only
      split
      · rfl
      · rename_i h
        exact not_not.mp h

/-- INTERNAL: a record of an earlier window is rolled, one of this window is kept. -/
theorem currentState_some (s : TenantResourceState) :
    currentState plan now (some s) =
      if s.windowStartedAt = windowStartedAt plan now then { s with plan := plan }
      else { s with plan := plan, windowStartedAt := windowStartedAt plan now, requestsUsed := 0 } := by
  unfold currentState rollWindowIfNeeded
  simp only
  by_cases h : s.windowStartedAt = windowStartedAt plan now
  · rw [if_pos h, if_neg (not_not.mpr h)]
  · rw [if_neg h, if_pos h]

theorem used_currentState_some (k : ResourceCounter) (s : TenantResourceState) :
    k.used (currentState plan now (some s)) = k.used s := by
  rw [currentState_some]
  split
  · cases k <;> rfl
  · cases k <;> rfl

/-- INTERNAL: making a record current earlier makes no difference later. -/
theorem currentState_currentState {later : ℤ} (hlater : now ≤ later)
    (hstored : ∀ s, stored = some s → s.windowStartedAt ≤ windowStartedAt plan now) :
    currentState plan later (some (currentState plan now stored)) =
      currentState plan later stored := by
  have hmono := windowStartedAt_mono plan hlater
  cases stored with
  | none =>
      rw [currentState_some, windowStartedAt_currentState]
      by_cases h : windowStartedAt plan now = windowStartedAt plan later
      · rw [if_pos h]
        unfold currentState
        simp only [h]
      · rw [if_neg h]
        rfl
  | some s =>
      have hle := hstored s rfl
      rw [currentState_some, windowStartedAt_currentState, currentState_some plan later s,
        currentState_some plan now s]
      by_cases h : windowStartedAt plan now = windowStartedAt plan later
      · rw [if_pos h]
        by_cases hs : s.windowStartedAt = windowStartedAt plan now
        · rw [if_pos hs, if_pos (hs.trans h), ← hs]
        · have hs' : s.windowStartedAt ≠ windowStartedAt plan later := by
            rw [← h]
            exact hs
          rw [if_neg hs, if_neg hs', h]
      · have hs' : s.windowStartedAt ≠ windowStartedAt plan later := by omega
        rw [if_neg h, if_neg hs']
        by_cases hs : s.windowStartedAt = windowStartedAt plan now
        · rw [if_pos hs]
        · rw [if_neg hs]

end CurrentState

/-! ## Tallies -/

abbrev History : Type := List (TimedCall × ResourceAnswer)

section Tallies

variable (tenantId : String) (plan : TenantResourcePlan)

/-- A request of the tenant that was admitted in the window that begins at `window`. -/
def Admission (window : ℤ) (p : TimedCall × ResourceAnswer) : Prop :=
  tenantOf p.1 = some tenantId ∧ p.1.call.demand = .request ∧ p.2.allowed? = some true ∧
    windowStartedAt plan p.1.now = window

instance (window : ℤ) : DecidablePred (Admission tenantId plan window) :=
  fun _ => inferInstanceAs (Decidable (_ ∧ _ ∧ _ ∧ _))

def admissions (window : ℤ) (h : History) : ℕ :=
  h.countP fun p => decide (Admission tenantId plan window p)

def grantedBy (k : ResourceCounter) (p : TimedCall × ResourceAnswer) : ℕ :=
  match p.1.call.demand with
  | .reserve k' n =>
      if tenantOf p.1 = some tenantId ∧ p.2.allowed? = some true ∧ k' = k then n else 0
  | _ => 0

def releasedBy (k : ResourceCounter) (p : TimedCall × ResourceAnswer) : ℕ :=
  match p.1.call.demand with
  | .release k' n =>
      if tenantOf p.1 = some tenantId ∧ p.2.isSnapshot = true ∧ k' = k then n else 0
  | _ => 0

/-- The amounts granted to a tenant, and those it has given back. -/
def granted (k : ResourceCounter) (h : History) : ℕ := (h.map (grantedBy tenantId k)).sum

def released (k : ResourceCounter) (h : History) : ℕ := (h.map (releasedBy tenantId k)).sum

theorem admissions_concat (window : ℤ) (h : History) (p : TimedCall × ResourceAnswer) :
    admissions tenantId plan window (h ++ [p]) = admissions tenantId plan window h +
      if Admission tenantId plan window p then 1 else 0 := by
  unfold admissions
  rw [List.countP_append, List.countP_singleton]
  simp only [decide_eq_true_eq]

theorem granted_concat (k : ResourceCounter) (h : History) (p : TimedCall × ResourceAnswer) :
    granted tenantId k (h ++ [p]) = granted tenantId k h + grantedBy tenantId k p := by
  unfold granted
  rw [List.map_append, List.sum_append, List.map_singleton, List.sum_singleton]

theorem released_concat (k : ResourceCounter) (h : History) (p : TimedCall × ResourceAnswer) :
    released tenantId k (h ++ [p]) = released tenantId k h + releasedBy tenantId k p := by
  unfold released
  rw [List.map_append, List.sum_append, List.map_singleton, List.sum_singleton]

end Tallies

/-! ## One call -/

section OneCall

variable {plan : TenantResourcePlan} {tenantId : String} {h : History}

/-- A current record agrees with the history of its tenant. -/
structure Tallied (plan : TenantResourcePlan) (h : History) (tenantId : String)
    (s : TenantResourceState) : Prop where
  used : s.requestsUsed = admissions tenantId plan s.windowStartedAt h
  later : ∀ window, s.windowStartedAt < window → admissions tenantId plan window h = 0
  requests_le : s.requestsUsed ≤ plan.requestLimit
  used_le : ∀ k : ResourceCounter, k.used s ≤ k.limit plan

theorem plan_of_served {cur s : TenantResourceState} {d : ResourceDemand} {a : ResourceAnswer}
    (hserved : Served cur d a s) : s.plan = cur.plan := by
  cases hserved with
  | shown => rfl
  | admitted => rfl
  | requestDenied => rfl
  | granted => rw [ResourceCounter.plan_update]
  | denied => rfl
  | released => rw [ResourceCounter.plan_update]

theorem windowStartedAt_of_served {cur s : TenantResourceState} {d : ResourceDemand}
    {a : ResourceAnswer} (hserved : Served cur d a s) :
    s.windowStartedAt = cur.windowStartedAt := by
  cases hserved with
  | shown => rfl
  | admitted => rfl
  | requestDenied => rfl
  | granted => rw [ResourceCounter.windowStartedAt_update]
  | denied => rfl
  | released => rw [ResourceCounter.windowStartedAt_update]

/-- INTERNAL: a call that admits nothing adds no admission. -/
theorem not_admission {p : TimedCall × ResourceAnswer} {window : ℤ}
    (hnone : p.1.call.demand ≠ .request ∨ p.2.allowed? ≠ some true) :
    ¬ Admission tenantId plan window p := by
  rintro ⟨_, hdemand, hallowed, _⟩
  rcases hnone with hne | hne
  · exact hne hdemand
  · exact hne hallowed

theorem admissions_concat_of_not {p : TimedCall × ResourceAnswer}
    (hnot : ∀ window, ¬ Admission tenantId plan window p) (window : ℤ) :
    admissions tenantId plan window (h ++ [p]) = admissions tenantId plan window h := by
  rw [admissions_concat, if_neg (hnot window), Nat.add_zero]

/-- INTERNAL: a record that changes no request count stays tallied when nothing is admitted. -/
theorem Tallied.of_requestsUsed {cur s : TenantResourceState} {p : TimedCall × ResourceAnswer}
    (htallied : Tallied plan h tenantId cur)
    (hnot : ∀ window, ¬ Admission tenantId plan window p)
    (hwindow : s.windowStartedAt = cur.windowStartedAt)
    (hused : s.requestsUsed = cur.requestsUsed)
    (hle : ∀ k : ResourceCounter, k.used s ≤ k.limit plan) :
    Tallied plan (h ++ [p]) tenantId s := by
  constructor
  · rw [admissions_concat_of_not hnot, hwindow, hused]
    exact htallied.used
  · intro window hlt
    rw [admissions_concat_of_not hnot]
    rw [hwindow] at hlt
    exact htallied.later window hlt
  · rw [hused]
    exact htallied.requests_le
  · exact hle

/-- INTERNAL: the record a call leaves agrees with the history it extends. -/
theorem Tallied.served {c : TimedCall} {cur s : TenantResourceState} {a : ResourceAnswer}
    (htallied : Tallied plan h tenantId cur) (htenant : tenantOf c = some tenantId)
    (hplan : cur.plan = plan) (hwindow : cur.windowStartedAt = windowStartedAt plan c.now)
    (hserved : Served cur c.call.demand a s) : Tallied plan (h ++ [(c, a)]) tenantId s := by
  generalize hdemand : c.call.demand = d at hserved
  cases hserved with
  | shown a ha =>
      refine htallied.of_requestsUsed (fun window => not_admission (.inl ?_)) rfl rfl
        htallied.used_le
      rw [hdemand]
      exact fun hne => by cases hne
  | admitted a ha hlt =>
      have hnow : Admission tenantId plan cur.windowStartedAt (c, a) :=
        ⟨htenant, hdemand, ha, hwindow.symm⟩
      constructor
      · rw [admissions_concat, if_pos hnow]
        show cur.requestsUsed + 1 = _
        rw [htallied.used]
      · intro window hwindow'
        have hnot : ¬ Admission tenantId plan window (c, a) := by
          rintro ⟨_, _, _, heq⟩
          rw [← heq, ← hwindow] at hwindow'
          exact absurd hwindow' (lt_irrefl _)
        rw [admissions_concat, if_neg hnot, Nat.add_zero]
        exact htallied.later window hwindow'
      · rw [hplan] at hlt
        exact hlt
      · intro k
        have hused : k.used { cur with requestsUsed := cur.requestsUsed + 1 } = k.used cur := by
          cases k <;> rfl
        rw [hused]
        exact htallied.used_le k
  | requestDenied a ha hle =>
      refine htallied.of_requestsUsed (fun window => not_admission (.inr ?_)) rfl rfl
        htallied.used_le
      rw [ha]
      exact fun hne => by cases hne
  | granted a ha k n hle =>
      refine htallied.of_requestsUsed (fun window => not_admission (.inl ?_))
        (ResourceCounter.windowStartedAt_update k cur _)
        (ResourceCounter.requestsUsed_update k cur _) (fun k' => ?_)
      · rw [hdemand]
        exact fun hne => by cases hne
      · rw [ResourceCounter.used_update]
        split
        · rename_i hk
          rw [hk, ← hplan]
          exact hle
        · exact htallied.used_le k'
  | denied a ha k n =>
      refine htallied.of_requestsUsed (fun window => not_admission (.inl ?_)) rfl rfl
        htallied.used_le
      rw [hdemand]
      exact fun hne => by cases hne
  | released a ha k n =>
      refine htallied.of_requestsUsed (fun window => not_admission (.inl ?_))
        (ResourceCounter.windowStartedAt_update k cur _)
        (ResourceCounter.requestsUsed_update k cur _) (fun k' => ?_)
      · rw [hdemand]
        exact fun hne => by cases hne
      · rw [ResourceCounter.used_update]
        have hle := htallied.used_le k'
        split
        · rename_i hk
          rw [hk] at hle ⊢
          omega
        · exact hle

/-- INTERNAL: the record stays tallied while time passes. -/
theorem Tallied.currentState {s : TenantResourceState} {now later : ℤ}
    (htallied : Tallied plan h tenantId s) (hplan : s.plan = plan)
    (hwindow : s.windowStartedAt = windowStartedAt plan now) (hlater : now ≤ later) :
    Tallied plan h tenantId (currentState plan later (some s)) := by
  have hmono := windowStartedAt_mono plan hlater
  have hused_le : ∀ k : ResourceCounter,
      k.used (InMemoryTenantResourceManager.currentState plan later (some s)) ≤ k.limit plan := by
    intro k
    rw [used_currentState_some]
    exact htallied.used_le k
  by_cases heq : s.windowStartedAt = windowStartedAt plan later
  · have hsame : InMemoryTenantResourceManager.currentState plan later (some s) = s := by
      rw [currentState_some, if_pos heq, ← hplan]
    rw [hsame]
    exact htallied
  · have hlt : s.windowStartedAt < windowStartedAt plan later := by omega
    constructor
    · rw [windowStartedAt_currentState, htallied.later _ hlt, currentState_some, if_neg heq]
    · intro window hwindow'
      rw [windowStartedAt_currentState] at hwindow'
      exact htallied.later window (hlt.trans hwindow')
    · rw [currentState_some, if_neg heq]
      exact Nat.zero_le _
    · exact hused_le

end OneCall

/-! ## Runs -/

section Runs

variable {plans : String → TenantResourcePlan} {last : ℤ} {h : History}
  {m : InMemoryTenantResourceManager}

/-- A call that gives a tenant no other plan than it has. -/
def KeepsPlan (plans : String → TenantResourcePlan) (c : TimedCall) : Prop :=
  ∀ name plan, c.call = .configureTenant name plan →
    ∀ tenantId, tenantOf c = some tenantId → plan = plans tenantId

/-- What a run keeps, up to its last reading of the clock. -/
structure QuotaInvariant (plans : String → TenantResourcePlan) (last : ℤ) (h : History)
    (m : InMemoryTenantResourceManager) : Prop where
  plan : ∀ tenantId, m.planOf tenantId = plans tenantId
  window : ∀ tenantId s, m.states.get? tenantId = some s →
    s.windowStartedAt ≤ windowStartedAt (plans tenantId) last
  tallied : ∀ tenantId now, last ≤ now →
    Tallied (plans tenantId) h tenantId (m.currentAt now tenantId)
  admissions_le : ∀ tenantId window,
    admissions tenantId (plans tenantId) window h ≤ (plans tenantId).requestLimit

theorem quotaInvariant_fresh (initial : TenantResourcePlans) (last : ℤ) :
    QuotaInvariant (fresh initial).planOf last [] (fresh initial) := by
  constructor
  · intro tenantId
    rfl
  · intro tenantId s hs
    cases hs
  · intro tenantId now _
    constructor
    · rfl
    · intro window _
      rfl
    · exact Nat.zero_le _
    · intro k
      cases k <;> exact Nat.zero_le _
  · intro tenantId window
    exact Nat.zero_le _

/-- INTERNAL: a call that admits nothing keeps the invariant when later calls find every record
as if it had not been made. -/
theorem QuotaInvariant.unchanged (hinv : QuotaInvariant plans last h m) {c : TimedCall}
    {a : ResourceAnswer} {m' : InMemoryTenantResourceManager} (hlast : last ≤ c.now)
    (ha : a.allowed? ≠ some true) (hplan : ∀ t, m'.planOf t = m.planOf t)
    (hcurrent : ∀ t now, c.now ≤ now → m'.currentAt now t = m.currentAt now t)
    (hwindow : ∀ t s, m'.states.get? t = some s →
      s.windowStartedAt ≤ windowStartedAt (plans t) c.now) :
    QuotaInvariant plans c.now (h ++ [(c, a)]) m' := by
  have hnot : ∀ t window, ¬ Admission t (plans t) window (c, a) := fun t window =>
    not_admission (.inr ha)
  constructor
  · intro t
    rw [hplan t]
    exact hinv.plan t
  · exact hwindow
  · intro t now hnow
    rw [hcurrent t now hnow]
    have htallied := hinv.tallied t now (hlast.trans hnow)
    exact htallied.of_requestsUsed (hnot t) rfl rfl htallied.used_le
  · intro t window
    rw [admissions_concat_of_not (hnot t)]
    exact hinv.admissions_le t window

theorem QuotaInvariant.window_of_le (hinv : QuotaInvariant plans last h m) {now : ℤ}
    (hnow : last ≤ now) (t : String) (s : TenantResourceState)
    (hs : m.states.get? t = some s) : s.windowStartedAt ≤ windowStartedAt (plans t) now :=
  (hinv.window t s hs).trans (windowStartedAt_mono (plans t) hnow)

theorem planOf_withPlan (now : ℤ) (tenantId t : String) (plan : TenantResourcePlan) :
    (m.withPlan now tenantId plan).planOf t = if t = tenantId then plan else m.planOf t := by
  unfold planOf withPlan
  simp only
  rw [Dict.get?_set]
  split <;> rfl

theorem get?_states_withPlan (now : ℤ) (tenantId t : String) (plan : TenantResourcePlan) :
    (m.withPlan now tenantId plan).states.get? t =
      if t = tenantId then (m.states.get? t).map fun s => currentState plan now (some s)
      else m.states.get? t := by
  unfold withPlan
  cases hget : m.states.get? tenantId with
  | none =>
      simp only
      split
      · rename_i ht
        rw [ht, hget]
        rfl
      · rfl
  | some s =>
      simp only
      rw [Dict.get?_set]
      split
      · rename_i ht
        rw [ht, hget]
        rfl
      · rfl

/-- INTERNAL: giving a tenant the plan it has only makes its record current. -/
theorem QuotaInvariant.withPlan (hinv : QuotaInvariant plans last h m) {c : TimedCall}
    (hlast : last ≤ c.now) {tenantId : String} :
    QuotaInvariant plans c.now (h ++ [(c, .configured)])
      (m.withPlan c.now tenantId (plans tenantId)) := by
  have hplan : ∀ t, (m.withPlan c.now tenantId (plans tenantId)).planOf t = m.planOf t := by
    intro t
    rw [planOf_withPlan]
    split
    · rename_i ht
      rw [ht, hinv.plan]
    · rfl
  refine hinv.unchanged hlast (fun hne => by cases hne) hplan ?_ ?_
  · intro t now hnow
    unfold currentAt
    rw [hplan t, get?_states_withPlan]
    split
    · rename_i ht
      subst ht
      cases hget : m.states.get? t with
      | none => rfl
      | some s =>
          rw [Option.map_some, hinv.plan]
          apply currentState_currentState _ _ _ hnow
          intro s' hs'
          cases hs'
          exact hinv.window_of_le hlast t s hget
    · rfl
  · intro t s hs
    rw [get?_states_withPlan] at hs
    split at hs
    · rename_i ht
      subst ht
      rw [Option.map_eq_some_iff] at hs
      obtain ⟨s', _, hs'⟩ := hs
      rw [← hs', windowStartedAt_currentState]
    · exact hinv.window_of_le hlast t s hs

/-- INTERNAL: a call served on the record of its tenant keeps the invariant. -/
theorem QuotaInvariant.served (hinv : QuotaInvariant plans last h m) {c : TimedCall}
    (hlast : last ≤ c.now) {tenantId : String} (htenant : tenantOf c = some tenantId)
    {a : ResourceAnswer} {s : TenantResourceState}
    (hserved : Served (m.currentAt c.now tenantId) c.call.demand a s) :
    QuotaInvariant plans c.now (h ++ [(c, a)]) { m with states := m.states.set tenantId s } := by
  have hplan : (m.currentAt c.now tenantId).plan = plans tenantId := by
    unfold currentAt
    rw [plan_currentState, hinv.plan]
  have hwindow : (m.currentAt c.now tenantId).windowStartedAt =
      windowStartedAt (plans tenantId) c.now := by
    unfold currentAt
    rw [windowStartedAt_currentState, hinv.plan]
  have htallied : Tallied (plans tenantId) (h ++ [(c, a)]) tenantId s :=
    (hinv.tallied tenantId c.now hlast).served htenant hplan hwindow hserved
  have hsplan : s.plan = plans tenantId := (plan_of_served hserved).trans hplan
  have hswindow : s.windowStartedAt = windowStartedAt (plans tenantId) c.now :=
    (windowStartedAt_of_served hserved).trans hwindow
  have hother : ∀ t, t ≠ tenantId → ∀ window, ¬ Admission t (plans t) window (c, a) := by
    rintro t hne window ⟨ht, _⟩
    rw [htenant, Option.some.injEq] at ht
    exact hne ht.symm
  constructor
  · exact hinv.plan
  · intro t s' hs'
    simp only [Dict.get?_set] at hs'
    split at hs'
    · rename_i ht
      cases hs'
      rw [ht, hswindow]
    · exact hinv.window_of_le hlast t s' hs'
  · intro t now hnow
    by_cases ht : t = tenantId
    · subst ht
      have hcurrent : currentAt { m with states := m.states.set t s } now t =
          currentState (plans t) now (some s) := by
        unfold currentAt
        rw [Dict.get?_set_self, ← hinv.plan]
        rfl
      rw [hcurrent]
      exact htallied.currentState hsplan hswindow hnow
    · have hcurrent : currentAt { m with states := m.states.set tenantId s } now t =
          m.currentAt now t := by
        unfold currentAt
        rw [Dict.get?_set_of_ne _ ht]
        rfl
      rw [hcurrent]
      have htallied' := hinv.tallied t now (hlast.trans hnow)
      exact htallied'.of_requestsUsed (hother t ht) rfl rfl htallied'.used_le
  · intro t window
    by_cases ht : t = tenantId
    · subst ht
      -- The admissions of the current window are the ones its record counts.
      by_cases hnow : window = s.windowStartedAt
      · rw [hnow, ← htallied.used]
        exact htallied.requests_le
      · have hnot : ¬ Admission t (plans t) window (c, a) := by
          rintro ⟨_, _, _, heq⟩
          rw [← hswindow] at heq
          exact hnow heq.symm
        rw [admissions_concat, if_neg hnot, Nat.add_zero]
        exact hinv.admissions_le t window
    · rw [admissions_concat_of_not (hother t ht)]
      exact hinv.admissions_le t window

/-- INTERNAL: one call keeps the invariant. -/
theorem QuotaInvariant.step (hinv : QuotaInvariant plans last h m) {c : TimedCall}
    (hlast : last ≤ c.now) (hkeeps : KeepsPlan plans c) :
    QuotaInvariant plans c.now (h ++ [(c, (step m c).1)]) (step m c).2 := by
  cases behaviour c with
  | raises e hstep =>
      rw [hstep]
      exact hinv.unchanged hlast (fun hne => by cases hne) (fun _ => rfl) (fun _ _ _ => rfl)
        (hinv.window_of_le hlast)
  | plans tenantId htenant hstep =>
      rw [hstep]
      exact hinv.unchanged hlast (fun hne => by cases hne) (fun _ => rfl) (fun _ _ _ => rfl)
        (hinv.window_of_le hlast)
  | configures tenantId plan htenant hcall hstep =>
      have hplan : plan = plans tenantId := hkeeps _ plan hcall tenantId htenant
      rw [hstep, hplan]
      exact hinv.withPlan hlast
  | serves tenantId htenant f hserved hstep =>
      rw [hstep]
      exact hinv.served hlast htenant (hserved _)

/-- INTERNAL: induction on the run, from its end. -/
theorem quotaInvariant_run (initial : TenantResourcePlans) {calls : List TimedCall}
    (hclock : calls.Pairwise fun c d => c.now ≤ d.now)
    (hkeeps : ∀ c ∈ calls, KeepsPlan (fresh initial).planOf c) :
    ∀ last, (∀ c ∈ calls, c.now ≤ last) →
      QuotaInvariant (fresh initial).planOf last (answers step (fresh initial) calls)
        (after step (fresh initial) calls) := by
  induction calls using List.reverseRecOn with
  | nil =>
      intro last _
      exact quotaInvariant_fresh initial last
  | append_singleton calls c ih =>
      intro last hlast
      rw [List.pairwise_append] at hclock
      have hbefore : ∀ d ∈ calls, d.now ≤ c.now := fun d hd =>
        hclock.2.2 d hd c List.mem_cons_self
      have hinv := ih hclock.1 (fun d hd => hkeeps d (List.mem_append_left _ hd)) c.now hbefore
      have hstep := hinv.step (le_refl c.now) (hkeeps c (by simp))
      have hc : c.now ≤ last := hlast c (by simp)
      rw [answers_concat, after_concat]
      refine ⟨hstep.plan, hstep.window_of_le hc, fun t now hnow => ?_, hstep.admissions_le⟩
      exact hstep.tallied t now (hc.trans hnow)

end Runs

/-! ## Denials -/

section Denials

variable {plans : String → TenantResourcePlan} {last : ℤ} {h : History}
  {m : InMemoryTenantResourceManager} {c : TimedCall}

/-- INTERNAL: a denied demand leaves the current record as it is. -/
theorem eq_of_served_denied {cur s : TenantResourceState} {d : ResourceDemand}
    {a : ResourceAnswer} (hserved : Served cur d a s) (hdenied : a.allowed? = some false) :
    s = cur := by
  cases hserved with
  | shown => rfl
  | admitted a ha =>
      rw [ha] at hdenied
      cases hdenied
  | requestDenied => rfl
  | granted a ha =>
      rw [ha] at hdenied
      cases hdenied
  | denied => rfl
  | released a ha =>
      cases a with
      | snapshot _ => cases hdenied
      | configured => cases ha
      | plan _ => cases ha
      | decision _ => cases ha
      | raised _ => cases ha

theorem requestLimit_le_of_served {cur s : TenantResourceState} {a : ResourceAnswer}
    (hserved : Served cur .request a s) (hdenied : a.allowed? = some false) :
    cur.plan.requestLimit ≤ cur.requestsUsed := by
  cases hserved with
  | admitted a ha =>
      rw [ha] at hdenied
      cases hdenied
  | requestDenied a ha hle => exact hle

/-- INTERNAL: whatever a tenant's record holds later, it holds without the denied call. -/
theorem QuotaInvariant.currentAt_of_denied (hinv : QuotaInvariant plans last h m)
    (hlast : last ≤ c.now) (hdenied : (InMemoryTenantResourceManager.step m c).1.allowed? = some false)
    (tenantId : String) {now : ℤ} (hnow : c.now ≤ now) :
    (InMemoryTenantResourceManager.step m c).2.currentAt now tenantId =
      m.currentAt now tenantId := by
  cases behaviour c with
  | raises e hstep => rw [hstep]
  | plans t htenant hstep => rw [hstep]
  | configures t plan htenant hcall hstep =>
      rw [hstep] at hdenied
      cases hdenied
  | serves t htenant f hserved hstep =>
      rw [hstep] at hdenied ⊢
      rw [eq_of_served_denied (hserved _) hdenied]
      by_cases ht : tenantId = t
      · subst ht
        unfold currentAt
        rw [Dict.get?_set_self]
        apply currentState_currentState _ _ _ hnow
        intro s hs
        show s.windowStartedAt ≤ windowStartedAt (m.planOf tenantId) c.now
        rw [hinv.plan]
        exact hinv.window_of_le hlast tenantId s hs
      · unfold currentAt
        rw [Dict.get?_set_of_ne _ ht]
        rfl

/-- INTERNAL: a request is denied when its window is full. -/
theorem QuotaInvariant.admissions_of_denied (hinv : QuotaInvariant plans last h m)
    (hlast : last ≤ c.now) {tenantId : String} (htenant : tenantOf c = some tenantId)
    (hdemand : c.call.demand = .request)
    (hdenied : (InMemoryTenantResourceManager.step m c).1.allowed? = some false) :
    admissions tenantId (plans tenantId) (windowStartedAt (plans tenantId) c.now) h =
      (plans tenantId).requestLimit := by
  have htallied := hinv.tallied tenantId c.now hlast
  have hwindow : (m.currentAt c.now tenantId).windowStartedAt =
      windowStartedAt (plans tenantId) c.now := by
    unfold currentAt
    rw [windowStartedAt_currentState, hinv.plan]
  have hplan : (m.currentAt c.now tenantId).plan = plans tenantId := by
    unfold currentAt
    rw [plan_currentState, hinv.plan]
  cases behaviour c with
  | raises e hstep =>
      rw [hstep] at hdenied
      cases hdenied
  | plans t ht hstep =>
      rw [hstep] at hdenied
      cases hdenied
  | configures t plan ht hcall hstep =>
      rw [hstep] at hdenied
      cases hdenied
  | serves t ht f hserved hstep =>
      rw [htenant, Option.some.injEq] at ht
      subst ht
      rw [hstep] at hdenied
      have hserved' := hserved (m.currentAt c.now tenantId)
      rw [hdemand] at hserved'
      have hle := requestLimit_le_of_served hserved' hdenied
      rw [hplan] at hle
      rw [← hwindow, ← htallied.used]
      exact le_antisymm htallied.requests_le hle

end Denials

/-! ## Accounts -/

section Accounts

variable {m : InMemoryTenantResourceManager}

/-- A counter of a tenant: zero before the tenant has a record. -/
def usedOf (m : InMemoryTenantResourceManager) (k : ResourceCounter) (tenantId : String) : ℕ :=
  match m.states.get? tenantId with
  | none => 0
  | some s => k.used s

theorem used_currentAt (k : ResourceCounter) (now : ℤ) (tenantId : String) :
    k.used (m.currentAt now tenantId) = m.usedOf k tenantId := by
  unfold currentAt usedOf
  cases m.states.get? tenantId with
  | none => cases k <;> rfl
  | some s => exact used_currentState_some _ _ k s

theorem usedOf_set (k : ResourceCounter) (tenantId t : String) (s : TenantResourceState) :
    usedOf { m with states := m.states.set tenantId s } k t =
      if t = tenantId then k.used s else m.usedOf k t := by
  unfold usedOf
  simp only [Dict.get?_set]
  by_cases ht : t = tenantId
  · rw [if_pos ht, if_pos ht]
  · rw [if_neg ht, if_neg ht]

theorem usedOf_withPlan (k : ResourceCounter) (now : ℤ) (tenantId t : String)
    (plan : TenantResourcePlan) : (m.withPlan now tenantId plan).usedOf k t = m.usedOf k t := by
  unfold usedOf
  rw [get?_states_withPlan]
  by_cases ht : t = tenantId
  · rw [if_pos ht]
    cases m.states.get? t with
    | none => rfl
    | some s => exact used_currentState_some _ _ k s
  · rw [if_neg ht]

/-- INTERNAL: what a demand that is served moves on a counter. -/
theorem used_of_served {cur s : TenantResourceState} {a : ResourceAnswer} {c : TimedCall}
    {tenantId : String} (htenant : tenantOf c = some tenantId)
    (hserved : Served cur c.call.demand a s) (k : ResourceCounter)
    (hle : releasedBy tenantId k (c, a) ≤ k.used cur) :
    k.used s + releasedBy tenantId k (c, a) = k.used cur + grantedBy tenantId k (c, a) := by
  unfold grantedBy releasedBy at *
  simp only at *
  generalize c.call.demand = d at hserved hle ⊢
  cases hserved with
  | shown => rfl
  | admitted => cases k <;> rfl
  | requestDenied => rfl
  | granted a ha k' n _ =>
      simp only [htenant, ha, true_and]
      rw [ResourceCounter.used_update]
      by_cases hk : k = k'
      · subst hk
        rw [if_pos rfl, if_pos rfl, Nat.add_zero]
      · rw [if_neg hk, if_neg (Ne.symm hk)]
  | denied a ha k' n =>
      simp only [ha]
      rw [if_neg (fun hall => by cases hall.2.1)]
  | released a ha k' n =>
      simp only [htenant, ha, true_and] at hle ⊢
      rw [ResourceCounter.used_update]
      by_cases hk : k = k'
      · subst hk
        rw [if_pos rfl] at hle
        rw [if_pos rfl, if_pos rfl]
        omega
      · rw [if_neg hk, if_neg (Ne.symm hk)]

theorem moved_of_allowed?_eq_none {c : TimedCall} {a : ResourceAnswer} (tenantId : String)
    (k : ResourceCounter) (ha : a.allowed? = none) (hs : a.isSnapshot = false) :
    grantedBy tenantId k (c, a) = 0 ∧ releasedBy tenantId k (c, a) = 0 := by
  unfold grantedBy releasedBy
  simp only [ha, hs]
  constructor
  · split
    · rw [if_neg (fun hall => by cases hall.2.1)]
    · rfl
  · split
    · rw [if_neg (fun hall => by cases hall.2.1)]
    · rfl

theorem moved_of_ne {c : TimedCall} {t tenantId : String} (htenant : tenantOf c = some t)
    (hne : tenantId ≠ t) (k : ResourceCounter) (a : ResourceAnswer) :
    grantedBy tenantId k (c, a) = 0 ∧ releasedBy tenantId k (c, a) = 0 := by
  have hnot : ¬ tenantOf c = some tenantId := by
    rw [htenant, Option.some.injEq]
    exact Ne.symm hne
  unfold grantedBy releasedBy
  constructor
  · split
    · rw [if_neg (fun hall => hnot hall.1)]
    · rfl
  · split
    · rw [if_neg (fun hall => hnot hall.1)]
    · rfl

/-- INTERNAL: one call moves a counter by what it grants and what it takes back. -/
theorem usedOf_step (c : TimedCall) (k : ResourceCounter) (tenantId : String)
    (hle : releasedBy tenantId k (c, (step m c).1) ≤ m.usedOf k tenantId) :
    (step m c).2.usedOf k tenantId + releasedBy tenantId k (c, (step m c).1) =
      m.usedOf k tenantId + grantedBy tenantId k (c, (step m c).1) := by
  cases behaviour c with
  | raises e hstep =>
      obtain ⟨hgranted, hreleased⟩ := moved_of_allowed?_eq_none (c := c) tenantId k
        (show (ResourceAnswer.raised e).allowed? = none from rfl) rfl
      rw [hstep, hgranted, hreleased]
  | plans t htenant hstep =>
      obtain ⟨hgranted, hreleased⟩ := moved_of_allowed?_eq_none (c := c) tenantId k
        (show (ResourceAnswer.plan (m.planOf t)).allowed? = none from rfl) rfl
      rw [hstep, hgranted, hreleased]
  | configures t plan htenant hcall hstep =>
      obtain ⟨hgranted, hreleased⟩ := moved_of_allowed?_eq_none (c := c) tenantId k
        (show ResourceAnswer.configured.allowed? = none from rfl) rfl
      rw [hstep, hgranted, hreleased, usedOf_withPlan]
  | serves t htenant f hserved hstep =>
      rw [hstep] at hle ⊢
      rw [usedOf_set]
      by_cases ht : tenantId = t
      · subst ht
        rw [if_pos rfl, ← used_currentAt k c.now]
        rw [← used_currentAt k c.now] at hle
        exact used_of_served htenant (hserved _) k hle
      · obtain ⟨hgranted, hreleased⟩ := moved_of_ne htenant ht k
          (f (m.currentAt c.now t)).1
        rw [if_neg ht, hgranted, hreleased]

/-- INTERNAL: induction on the run, from its end: as long as no more is released than was
granted, the counter is the difference. -/
theorem usedOf_run (initial : TenantResourcePlans) (k : ResourceCounter) (tenantId : String)
    {calls : List TimedCall}
    (hreleases : ∀ before, before <+: calls →
      released tenantId k (answers step (fresh initial) before) ≤
        granted tenantId k (answers step (fresh initial) before)) :
    (after step (fresh initial) calls).usedOf k tenantId +
        released tenantId k (answers step (fresh initial) calls) =
      granted tenantId k (answers step (fresh initial) calls) := by
  induction calls using List.reverseRecOn with
  | nil => rfl
  | append_singleton calls c ih =>
      have hbefore := ih fun before hfirst =>
        hreleases before (hfirst.trans (List.prefix_append calls [c]))
      have hall := hreleases (calls ++ [c]) (List.prefix_refl _)
      rw [answers_concat, granted_concat, released_concat] at hall
      rw [answers_concat, after_concat, granted_concat, released_concat]
      have hle : releasedBy tenantId k (c, (step (after step (fresh initial) calls) c).1) ≤
          (after step (fresh initial) calls).usedOf k tenantId := by
        -- A call that releases grants nothing.
        have hexclusive : releasedBy tenantId k (c, (step (after step (fresh initial) calls) c).1) = 0 ∨
            grantedBy tenantId k (c, (step (after step (fresh initial) calls) c).1) = 0 := by
          unfold releasedBy grantedBy
          simp only
          cases c.call.demand with
          | nothing => exact .inl rfl
          | request => exact .inl rfl
          | reserve _ _ => exact .inl rfl
          | release _ _ => exact .inr rfl
        omega
      have hstep := usedOf_step c k tenantId hle
      omega

end Accounts

/-! ## Isolation -/

/-- INTERNAL: a call reads and writes nothing but the plan and the record of its tenant. -/
theorem unwinds_tenant (tenantId : String) :
    Unwinds step (fun _ => ()) (fun c => decide (tenantOf c = some tenantId))
      (fun _ _ => True) (fun _ m m' => m.planOf tenantId = m'.planOf tenantId ∧
        m.states.get? tenantId = m'.states.get? tenantId) := by
  constructor
  · intro _ _ m m' hsame _
    exact hsame
  · intro m m' c hother hsame
    have hne : ∀ t, tenantOf c = some t → tenantId ≠ t := by
      intro t ht heq
      rw [ht, heq] at hother
      simp at hother
    cases behaviour c with
    | raises e hstep =>
        rw [hstep]
        exact hsame
    | plans t ht hstep =>
        rw [hstep]
        exact hsame
    | configures t plan ht hcall hstep =>
        rw [hstep, planOf_withPlan, get?_states_withPlan, if_neg (hne t ht), if_neg (hne t ht)]
        exact hsame
    | serves t ht f hserved hstep =>
        rw [hstep, Dict.get?_set_of_ne _ (hne t ht)]
        exact hsame
  · intro m m' c hown _ hsame
    rw [decide_eq_true_eq] at hown
    cases behaviour c with
    | raises e hstep => rw [hstep, hstep]
    | plans t ht hstep =>
        rw [hown, Option.some.injEq] at ht
        rw [hstep, hstep, ← ht, hsame.1]
    | configures t plan ht hcall hstep => rw [hstep, hstep]
    | serves t ht f hserved hstep =>
        rw [hown, Option.some.injEq] at ht
        subst ht
        have hcurrent : m.currentAt c.now tenantId = m'.currentAt c.now tenantId := by
          unfold currentAt
          rw [hsame.1, hsame.2]
        rw [hstep, hstep, hcurrent]
  · intro m m' c hown _ hsame
    rw [decide_eq_true_eq] at hown
    cases behaviour c with
    | raises e hstep =>
        rw [hstep, hstep]
        exact hsame
    | plans t ht hstep =>
        rw [hstep, hstep]
        exact hsame
    | configures t plan ht hcall hstep =>
        rw [hown, Option.some.injEq] at ht
        subst ht
        rw [hstep, hstep, planOf_withPlan, planOf_withPlan, if_pos rfl, if_pos rfl,
          get?_states_withPlan, get?_states_withPlan, hsame.2]
        exact ⟨rfl, rfl⟩
    | serves t ht f hserved hstep =>
        rw [hown, Option.some.injEq] at ht
        subst ht
        have hcurrent : m.currentAt c.now tenantId = m'.currentAt c.now tenantId := by
          unfold currentAt
          rw [hsame.1, hsame.2]
        rw [hstep, hstep, hcurrent, Dict.get?_set_self, Dict.get?_set_self]
        exact ⟨hsame.1, rfl⟩

/-! ## The quotas -/

/-- What holds of every run from a new manager. -/
structure QuotasHold (initial : TenantResourcePlans) (calls : List TimedCall) : Prop where
  /-- No window of a tenant has more admissions than its plan allows. -/
  admissions_le : ∀ tenantId window,
    admissions tenantId ((fresh initial).planOf tenantId) window
        (answers step (fresh initial) calls) ≤
      ((fresh initial).planOf tenantId).requestLimit
  /-- A request is denied only when the admissions before it fill its window. -/
  denied_full : ∀ earlier c later tenantId, calls = earlier ++ c :: later →
    tenantOf c = some tenantId → c.call.demand = .request →
    (step (after step (fresh initial) earlier) c).1.allowed? = some false →
      admissions tenantId ((fresh initial).planOf tenantId)
          (windowStartedAt ((fresh initial).planOf tenantId) c.now)
          (answers step (fresh initial) earlier) =
        ((fresh initial).planOf tenantId).requestLimit
  /-- The other counters stay within the plan. -/
  used_le : ∀ tenantId k, (after step (fresh initial) calls).usedOf k tenantId ≤
    k.limit ((fresh initial).planOf tenantId)
  /-- A denied call leaves no trace in what a tenant's record holds at that time or later. -/
  denied_unchanged : ∀ earlier c later, calls = earlier ++ c :: later →
    (step (after step (fresh initial) earlier) c).1.allowed? = some false →
      ∀ tenantId now, c.now ≤ now →
        (step (after step (fresh initial) earlier) c).2.currentAt now tenantId =
          (after step (fresh initial) earlier).currentAt now tenantId
  /-- A counter is what was granted less what was given back. -/
  accounts : ∀ tenantId k,
    (∀ earlier, earlier <+: calls →
      released tenantId k (answers step (fresh initial) earlier) ≤
        granted tenantId k (answers step (fresh initial) earlier)) →
    (after step (fresh initial) calls).usedOf k tenantId +
        released tenantId k (answers step (fresh initial) calls) =
      granted tenantId k (answers step (fresh initial) calls)
  /-- The calls of a tenant are answered as they are without those of the other tenants. -/
  isolated : ∀ tenantId,
    (answers step (fresh initial) calls).filter (fun p => decide (tenantOf p.1 = some tenantId)) =
      answers step (fresh initial) (calls.filter fun c => decide (tenantOf c = some tenantId))

theorem exists_last_reading {calls : List TimedCall}
    (hclock : calls.Pairwise fun c d => c.now ≤ d.now) : ∃ last, ∀ c ∈ calls, c.now ≤ last := by
  rcases List.eq_nil_or_concat calls with rfl | ⟨earlier, c, rfl⟩
  · exact ⟨0, fun c hc => absurd hc List.not_mem_nil⟩
  · rw [List.concat_eq_append] at hclock ⊢
    rw [List.pairwise_append] at hclock
    refine ⟨c.now, fun d hd => ?_⟩
    rw [List.mem_append, List.mem_singleton] at hd
    rcases hd with hd | rfl
    · exact hclock.2.2 d hd c List.mem_cons_self
    · exact le_refl _

/-- **Quotas hold.**  Where the clock does not go back and a tenant is configured with the plan it
has, every clause holds of every run of calls. -/
theorem tenantQuotas_hold (initial : TenantResourcePlans) (calls : List TimedCall)
    (hclock : calls.Pairwise fun c d => c.now ≤ d.now)
    (hkeeps : ∀ c ∈ calls, KeepsPlan (fresh initial).planOf c) : QuotasHold initial calls := by
  -- Each prefix of the run keeps the invariant up to the next reading of the clock.
  have hbefore : ∀ earlier c later, calls = earlier ++ c :: later →
      QuotaInvariant (fresh initial).planOf c.now (answers step (fresh initial) earlier)
        (after step (fresh initial) earlier) := by
    intro earlier c later hcalls
    rw [hcalls, List.pairwise_append] at hclock
    refine quotaInvariant_run initial hclock.1 (fun d hd => hkeeps d ?_) c.now ?_
    · rw [hcalls]
      exact List.mem_append_left _ hd
    · intro d hd
      exact hclock.2.2 d hd c List.mem_cons_self
  obtain ⟨last, hlast⟩ := exists_last_reading hclock
  have hinv := quotaInvariant_run initial hclock hkeeps last hlast
  constructor
  · exact hinv.admissions_le
  · intro earlier c later tenantId hcalls htenant hdemand hdenied
    exact (hbefore earlier c later hcalls).admissions_of_denied (le_refl _) htenant hdemand hdenied
  · intro tenantId k
    rw [← used_currentAt k last]
    exact (hinv.tallied tenantId last (le_refl _)).used_le k
  · intro earlier c later hcalls hdenied tenantId now hnow
    exact (hbefore earlier c later hcalls).currentAt_of_denied (le_refl _) hdenied tenantId hnow
  · intro tenantId k hreleases
    exact usedOf_run initial k tenantId hreleases
  · intro tenantId
    refine (unwinds_tenant tenantId).answers_filter ?_ (fun _ _ => le_refl ()) ⟨rfl, rfl⟩ ?_
    · exact List.pairwise_of_forall fun _ _ => le_refl ()
    · exact eachMeets_of_forall _ _ (fun _ _ => trivial) _ _

namespace QuotaSample

/-- One request a minute, one operation, ten bytes and two queue items. -/
def plan : TenantResourcePlan where
  name := "starter"
  requestLimit := 1
  windowSeconds := 60
  concurrentOperations := 1
  storageBytes := 10
  queueDepth := 2
  name_ne := by decide
  strip_name := by decide
  windowSeconds_pos := Reference.minute_pos

def plans : TenantResourcePlans := ⟨plan, .empty⟩

def context : TenantContext := ⟨"media-center", some "member-1", [], none⟩

/-- The second request is denied; the third falls in the next window. -/
def calls : List TimedCall :=
  [⟨0, 0, .admitRequest context "wallet" "read"⟩,
    ⟨30, 30, .admitRequest context "wallet" "read"⟩,
    ⟨30, 30, .configureTenant "media-center" plan⟩,
    ⟨60, 60, .admitRequest context "wallet" "read"⟩]

end QuotaSample

/-- One request is admitted in each of two windows, and one between them is denied. -/
theorem tenantQuotas_hold_nextWindow : QuotasHold QuotaSample.plans QuotaSample.calls := by
  refine tenantQuotas_hold QuotaSample.plans QuotaSample.calls (by decide) ?_
  intro c hc name plan hcall tenantId htenant
  simp only [QuotaSample.calls, List.mem_cons, List.not_mem_nil, or_false] at hc
  rcases hc with rfl | rfl | rfl | rfl
  · cases hcall
  · cases hcall
  · cases hcall
    rfl
  · cases hcall

end InMemoryTenantResourceManager

end MediaCenter.Shared
