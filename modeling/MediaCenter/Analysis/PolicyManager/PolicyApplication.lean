import MediaCenter.Analysis.PolicyManager.PolicyHistory
import MediaCenter.Model.PolicyManager.Application

/-!
# What applied policies decide

The loop reads every policy, and each policy gives its own reasons; the decision, the reasons as a
set and the versions depend only on which policies are read.
-/

set_option autoImplicit false

namespace MediaCenter.PolicyManager

open MediaCenter.Library MediaCenter.Shared

/-! ## What a policy asks -/

/-- A text field of a policy, without its surrounding white space. -/
inductive HasText (value : JSONObject) (key : String) (default : Option String) :
    String → Prop
  | given (s : String) : JSONValue.item key value = some (.str s) → Text.strip s ≠ "" →
      HasText value key default (Text.strip s)
  | absent (text : String) : (JSONValue.item key value).getD .null = .null →
      default = some text → HasText value key default text

/-- A number of an object, as a `float`. -/
inductive HasNumber (object : JSONObject) (key : String) : ℚ → Prop
  | int (n : ℤ) (x : ℚ) : JSONValue.item key object = some (.int n) →
      Binary64.ofInt n = some x → HasNumber object key x
  | float (x : ℚ) : JSONValue.item key object = some (.float x) → HasNumber object key x

/-- The observed number breaks the bound of an operator that has one. -/
def BreaksBound (operator : String) (observed bound : ℚ) : Prop :=
  (operator = "lte" ∧ bound < observed) ∨ (operator = "lt" ∧ bound ≤ observed) ∨
    (operator = "gte" ∧ observed < bound) ∨ (operator = "gt" ∧ observed ≤ bound)

/-- The observed number is out of the bounds that the operator asks for. -/
inductive OutOfBounds (value : JSONObject) (operator : String) (observed : ℚ) : Prop
  | threshold (bound : ℚ) : HasNumber value "threshold" bound →
      BreaksBound operator observed bound → OutOfBounds value operator observed
  | tooLow (low : ℚ) : operator = "between" → HasNumber value "min" low → observed < low →
      OutOfBounds value operator observed
  | tooHigh (high : ℚ) : operator = "between" → HasNumber value "max" high → high < observed →
      OutOfBounds value operator observed

/-- The facts violate the policy. -/
inductive Violates (facts value : JSONObject) : Prop
  | threshold (target operator : String) (observed : ℚ) :
      HasText value "kind" (some "metadata") "threshold" → HasText value "target" none target →
      HasText value "operator" none operator → HasNumber facts target observed →
      OutOfBounds value operator observed → Violates facts value
  | flag (target : String) (expected : JSONValue) :
      HasText value "kind" (some "metadata") "flag" → HasText value "target" none target →
      JSONValue.item "expected" value = some expected → expected ≠ .null →
      jsonEq ((JSONValue.item target facts).getD .null) expected = false → Violates facts value

/-- `decision_on_violation` is `escalate`, as it is where the policy does not say. -/
def Escalates (value : JSONObject) : Prop :=
  HasText value "decision_on_violation" (some "escalate") "escalate"

section Fields

variable {value facts : JSONObject} {key text : String} {default : Option String} {x : ℚ}

theorem stringField_eq_ok_iff :
    stringField value key default = .ok text ↔ HasText value key default text := by
  unfold stringField
  constructor
  · intro h
    split at h
    · rename_i hnull
      split at h
      · cases h
        exact .absent _ hnull rfl
      · cases h
    · rename_i s hs
      split at h
      · cases h
      · rename_i hne
        cases h
        refine .given s ?_ hne
        cases hitem : JSONValue.item key value with
        | none => rw [hitem] at hs; cases hs
        | some v => rw [hitem] at hs; exact congrArg some hs
    · cases h
  · intro h
    cases h with
    | given s hitem hne =>
        rw [hitem, Option.getD_some]
        exact if_neg hne
    | absent _ hnull hdefault =>
        rw [hnull, hdefault]

theorem numberField_eq_ok_iff : numberField value key = .ok x ↔ HasNumber value key x := by
  unfold numberField
  constructor
  · intro h
    split at h
    · rename_i n hn
      split at h
      · rename_i y hy
        cases h
        exact .int n _ hn hy
      · cases h
    · rename_i y hy
      cases h
      exact .float _ hy
    · cases h
  · intro h
    cases h with
    | int n _ hitem hofInt =>
        rw [hitem]
        simp only [hofInt]
    | float _ hitem => rw [hitem]

theorem HasText.unique {other : String} (h : HasText value key default text)
    (h' : HasText value key default other) : text = other := by
  rw [← stringField_eq_ok_iff] at h h'
  rw [h] at h'
  cases h'
  rfl

theorem HasNumber.unique {y : ℚ} (h : HasNumber value key x) (h' : HasNumber value key y) :
    x = y := by
  rw [← numberField_eq_ok_iff] at h h'
  rw [h] at h'
  cases h'
  rfl

/-- INTERNAL: an operator with one bound tells whether the bound is broken. -/
theorem numberField_bind_eq_ok_iff (broken : ℚ → Bool) {b : Bool} :
    (do let threshold ← numberField value key; return broken threshold) =
        (.ok b : Except PolicyApplicationError Bool) ↔
      ∃ bound, HasNumber value key bound ∧ broken bound = b := by
  rw [bind_eq_ok_iff]
  simp only [numberField_eq_ok_iff, pure, Except.pure, Except.ok.injEq]

end Fields

/-! ## The reasons of one policy -/

section Reasons

variable {value facts : JSONObject} {target operator : String} {observed : ℚ} {b : Bool}
  {reasons : List String}

theorem outOfBounds_iff_breaksBound {bound : ℚ} (hbetween : operator ≠ "between")
    (hbound : HasNumber value "threshold" bound) :
    OutOfBounds value operator observed ↔ BreaksBound operator observed bound := by
  constructor
  · intro hout
    cases hout with
    | threshold other hother hbreaks => rwa [hbound.unique hother]
    | tooLow _ hoperator => exact absurd hoperator hbetween
    | tooHigh _ hoperator => exact absurd hoperator hbetween
  · exact OutOfBounds.threshold bound hbound

theorem outOfBounds_between_iff {low : ℚ} (hlow : HasNumber value "min" low) :
    OutOfBounds value "between" observed ↔
      observed < low ∨ ∃ high, HasNumber value "max" high ∧ high < observed := by
  constructor
  · intro hout
    cases hout with
    | threshold bound _ hbreaks =>
        unfold BreaksBound at hbreaks
        simp at hbreaks
    | tooLow other _ hother hbelow =>
        left
        rwa [hlow.unique hother]
    | tooHigh high _ hhigh habove => exact .inr ⟨high, hhigh, habove⟩
  · rintro (hbelow | ⟨high, hhigh, habove⟩)
    · exact .tooLow low rfl hlow hbelow
    · exact .tooHigh high rfl hhigh habove

/-- INTERNAL: the operator finds exactly the numbers out of its bounds. -/
theorem thresholdViolation_iff (h : thresholdViolation value operator observed = .ok b) :
    b = true ↔ OutOfBounds value operator observed := by
  unfold thresholdViolation at h
  split_ifs at h with hlte hlt hgte hgt hbetween
  · rw [numberField_bind_eq_ok_iff (fun bound => decide (bound < observed))] at h
    obtain ⟨bound, hbound, rfl⟩ := h
    rw [hlte, outOfBounds_iff_breaksBound (by decide) hbound]
    simp [BreaksBound]
  · rw [numberField_bind_eq_ok_iff (fun bound => decide (bound ≤ observed))] at h
    obtain ⟨bound, hbound, rfl⟩ := h
    rw [hlt, outOfBounds_iff_breaksBound (by decide) hbound]
    simp [BreaksBound]
  · rw [numberField_bind_eq_ok_iff (fun bound => decide (observed < bound))] at h
    obtain ⟨bound, hbound, rfl⟩ := h
    rw [hgte, outOfBounds_iff_breaksBound (by decide) hbound]
    simp [BreaksBound]
  · rw [numberField_bind_eq_ok_iff (fun bound => decide (observed ≤ bound))] at h
    obtain ⟨bound, hbound, rfl⟩ := h
    rw [hgt, outOfBounds_iff_breaksBound (by decide) hbound]
    simp [BreaksBound]
  · rw [bind_eq_ok_iff] at h
    obtain ⟨low, hlow, h⟩ := h
    rw [numberField_eq_ok_iff] at hlow
    rw [hbetween, outOfBounds_between_iff hlow]
    split_ifs at h with hle
    · rw [numberField_bind_eq_ok_iff (fun high => !decide (observed ≤ high))] at h
      obtain ⟨high, hhigh, rfl⟩ := h
      rw [Bool.not_eq_true', decide_eq_false_iff_not, not_le]
      constructor
      · exact fun habove => .inr ⟨high, hhigh, habove⟩
      · rintro (hbelow | ⟨other, hother, habove⟩)
        · exact absurd hle (not_le.mpr hbelow)
        · rwa [hhigh.unique hother]
    · cases h
      exact ⟨fun _ => .inl (not_le.mp hle), fun _ => rfl⟩

theorem decisionOnViolation_iff {decision : PolicyDecision}
    (h : decisionOnViolation value = .ok decision) :
    decision = .escalate ↔ Escalates value := by
  unfold decisionOnViolation at h
  rw [bind_eq_ok_iff] at h
  obtain ⟨text, htext, h⟩ := h
  rw [stringField_eq_ok_iff] at htext
  have hescalates : Escalates value ↔ text = "escalate" := by
    unfold Escalates
    constructor
    · exact fun h => htext.unique h
    · rintro rfl
      exact htext
  rw [hescalates]
  split_ifs at h with hallow hescalate
  · cases h
    rw [hallow]
    decide
  · cases h
    exact ⟨fun _ => hescalate, fun _ => rfl⟩

theorem ne_nil_of_violationReason (h : violationReason value target = .ok reasons) :
    reasons ≠ [] := by
  unfold violationReason at h
  rw [bind_eq_ok_iff] at h
  obtain ⟨reason, _, h⟩ := h
  cases h
  exact List.cons_ne_nil _ _

/-- INTERNAL: a violated policy gives a reason unless it is one that allows violations. -/
theorem reasons_of_violation
    (h : (do let decision ← decisionOnViolation value
             if decision = PolicyDecision.allow then return [] else violationReason value target) =
      .ok reasons) : reasons ≠ [] ↔ Escalates value := by
  rw [bind_eq_ok_iff] at h
  obtain ⟨decision, hdecision, h⟩ := h
  rw [← decisionOnViolation_iff hdecision]
  split_ifs at h with hallow
  · cases h
    rw [hallow]
    simp
  · constructor
    · intro _
      cases decision with
      | allow => exact absurd rfl hallow
      | escalate => rfl
    · intro _
      exact ne_nil_of_violationReason h

theorem thresholdPolicyReasons_iff (hkind : HasText value "kind" (some "metadata") "threshold")
    (h : thresholdPolicyReasons value facts = .ok reasons) :
    reasons ≠ [] ↔ Violates facts value ∧ Escalates value := by
  unfold thresholdPolicyReasons at h
  simp only [bind_eq_ok_iff, stringField_eq_ok_iff, numberField_eq_ok_iff] at h
  obtain ⟨target, htarget, operator, hoperator, observed, hobserved, violation, hviolation, h⟩ := h
  have hviolates : Violates facts value ↔ violation = true := by
    rw [thresholdViolation_iff hviolation]
    constructor
    · intro hviolates
      cases hviolates with
      | threshold target' operator' observed' _ htarget' hoperator' hobserved' hout =>
          rw [← htarget.unique htarget'] at hobserved'
          rwa [hobserved.unique hobserved', hoperator.unique hoperator']
      | flag _ _ hflag => exact absurd (hkind.unique hflag) (by decide)
    · exact Violates.threshold target operator observed hkind htarget hoperator hobserved
  rw [hviolates]
  split_ifs at h with hviolation'
  · rw [reasons_of_violation h]
    exact ⟨fun hescalates => ⟨hviolation', hescalates⟩, And.right⟩
  · cases h
    exact ⟨fun hne => absurd rfl hne, fun hboth => absurd hboth.1 hviolation'⟩

theorem flagPolicyReasons_iff (hkind : HasText value "kind" (some "metadata") "flag")
    (h : flagPolicyReasons value facts = .ok reasons) :
    reasons ≠ [] ↔ Violates facts value ∧ Escalates value := by
  unfold flagPolicyReasons at h
  rw [bind_eq_ok_iff] at h
  obtain ⟨target, htarget, h⟩ := h
  rw [stringField_eq_ok_iff] at htarget
  split at h
  · cases h
  · rename_i expected hne
    have hitem : JSONValue.item "expected" value =
        some ((JSONValue.item "expected" value).getD .null) := by
      cases hitem : JSONValue.item "expected" value with
      | none =>
          rw [hitem] at hne
          exact absurd rfl hne
      | some v => rfl
    have hviolates : Violates facts value ↔
        jsonEq ((JSONValue.item target facts).getD .null)
          ((JSONValue.item "expected" value).getD .null) = false := by
      constructor
      · intro hviolates
        cases hviolates with
        | threshold _ _ _ hthreshold => exact absurd (hkind.unique hthreshold) (by decide)
        | flag target' expected' _ htarget' hexpected' _ hdiffers =>
            rw [hexpected', Option.getD_some, htarget.unique htarget']
            exact hdiffers
      · exact Violates.flag target _ hkind htarget hitem hne
    rw [hviolates]
    split_ifs at h with heq
    · cases h
      rw [heq]
      simp
    · rw [Bool.not_eq_true] at heq
      rw [reasons_of_violation h]
      exact ⟨fun hescalates => ⟨heq, hescalates⟩, And.right⟩

/-- INTERNAL: a policy gives a reason exactly if the facts violate it and it escalates. -/
theorem policyReasons_iff (h : policyReasons value facts = .ok reasons) :
    reasons ≠ [] ↔ Violates facts value ∧ Escalates value := by
  unfold policyReasons at h
  rw [bind_eq_ok_iff] at h
  obtain ⟨kind, hkind, h⟩ := h
  rw [stringField_eq_ok_iff] at hkind
  split_ifs at h with hthreshold hflag
  · rw [hthreshold] at hkind
    exact thresholdPolicyReasons_iff hkind h
  · rw [hflag] at hkind
    exact flagPolicyReasons_iff hkind h
  · cases h
    constructor
    · exact fun hne => absurd rfl hne
    · rintro ⟨hviolates, _⟩
      cases hviolates with
      | threshold _ _ _ hkind' => exact absurd (hkind.unique hkind') hthreshold
      | flag _ _ hkind' => exact absurd (hkind.unique hkind') hflag

end Reasons

/-! ## The loop over the keys -/

/-- The repository after some policies were saved, one after the other. -/
def InMemoryPolicyRepository.ofSaved (saved : List PolicyRecord) : InMemoryPolicyRepository :=
  saved.foldl InMemoryPolicyRepository.savePolicy .empty

/-- Every policy is stored under its own key. -/
def Keyed (repository : InMemoryPolicyRepository) : Prop :=
  ∀ tenantId key, ∀ policy ∈ repository.stored tenantId key, policy.fields.key = key

theorem Keyed.savePolicy {repository : InMemoryPolicyRepository} (h : Keyed repository)
    (policy : PolicyRecord) : Keyed (repository.savePolicy policy) := by
  intro tenantId key stored hstored
  rw [stored_savePolicy] at hstored
  split_ifs at hstored with hkey
  · rcases List.mem_append.mp hstored with hold | hnew
    · exact h tenantId key stored hold
    · rw [List.mem_singleton.mp hnew]
      exact (congrArg Prod.snd hkey).symm
  · exact h tenantId key stored hstored

theorem keyed_ofSaved (saved : List PolicyRecord) :
    Keyed (InMemoryPolicyRepository.ofSaved saved) := by
  unfold InMemoryPolicyRepository.ofSaved
  induction saved using List.reverseRecOn with
  | nil =>
      intro tenantId key policy h
      cases h
  | append_singleton saved policy ih =>
      rw [List.foldl_append]
      exact ih.savePolicy policy

section Application

variable {py : Stdlib} {now : Instant} {repository : InMemoryPolicyRepository}
  {tenantId key key' : String} {facts : JSONObject} {keys keys' : List String}
  {policy : PolicyRecord}

theorem key_of_getPolicy (hkeyed : Keyed repository)
    (h : repository.getPolicy tenantId key = .ok policy) :
    policy.fields.key = Text.strip key := by
  cases hnormal : normalizePolicyKey key with
  | error e =>
      unfold InMemoryPolicyRepository.getPolicy at h
      rw [hnormal] at h
      cases h
  | ok normalized =>
      have hstrip : normalized = Text.strip key := by
        unfold normalizePolicyKey at hnormal
        simp only at hnormal
        split_ifs at hnormal
        cases hnormal
        rfl
      rw [← hstrip]
      cases hlast : (repository.stored tenantId normalized).getLast? with
      | some latest =>
          rw [getPolicy_of_getLast? hnormal hlast] at h
          cases h
          exact hkeyed tenantId normalized policy (List.mem_of_getLast? hlast)
      | none =>
          rw [getPolicy_of_stored_eq_nil hnormal (List.getLast?_eq_none_iff.mp hlast)] at h
          split at h
          · rename_i value hvalue
            rw [mapError_eq_ok_iff] at h
            unfold defaultPolicyRecord policyRecord at h
            rw [Validated.make_eq_ok_iff] at h
            have hpattern := policyKeyPattern_of_normalizePolicyKey hnormal
            rw [h]
            exact Text.trim_of_forall_visible (visible_of_policyKeyPattern hpattern)
          · cases h

/-- INTERNAL: a policy is found under its key, whatever white space is around it. -/
theorem getPolicy_congr_strip (h : Text.strip key = Text.strip key') :
    repository.getPolicy tenantId key = repository.getPolicy tenantId key' := by
  have hnormal : normalizePolicyKey key = normalizePolicyKey key' := by
    unfold normalizePolicyKey
    rw [h]
  unfold InMemoryPolicyRepository.getPolicy
  rw [hnormal]

/-- What one round of the loop reads: the policy and its reasons. -/
def readPolicy (repository : InMemoryPolicyRepository) (tenantId : String)
    (facts : JSONObject) (key : String) :
    Except PolicyApplicationError (PolicyRecord × List String) := do
  let policy ← (repository.getPolicy tenantId key).mapError .repository
  let reasons ← policyReasons policy.fields.value facts
  return (policy, reasons)

/-- What one round of the loop adds. -/
def Collected.add (collected : Collected) (read : PolicyRecord × List String) : Collected where
  policyVersions := collected.policyVersions.set read.1.fields.key read.1.fields.version
  reasons := collected.reasons ++ read.2

@[simp] theorem Collected.add_policyVersions (collected : Collected)
    (read : PolicyRecord × List String) : (collected.add read).policyVersions =
      collected.policyVersions.set read.1.fields.key read.1.fields.version := rfl

theorem readPolicy_eq_ok_iff {read : PolicyRecord × List String} :
    readPolicy repository tenantId facts key = .ok read ↔
      repository.getPolicy tenantId key = .ok read.1 ∧
        policyReasons read.1.fields.value facts = .ok read.2 := by
  unfold readPolicy
  simp only [bind_eq_ok_iff, mapError_eq_ok_iff, pure, Except.pure, Except.ok.injEq]
  constructor
  · rintro ⟨policy, hpolicy, reasons, hreasons, rfl⟩
    exact ⟨hpolicy, hreasons⟩
  · rintro ⟨hpolicy, hreasons⟩
    exact ⟨read.1, hpolicy, read.2, hreasons, rfl⟩

theorem readPolicy_congr_strip (h : Text.strip key = Text.strip key') :
    readPolicy repository tenantId facts key = readPolicy repository tenantId facts key' := by
  unfold readPolicy
  rw [getPolicy_congr_strip h]

theorem collectPolicy_eq (collected : Collected) (key : String) :
    collectPolicy repository tenantId facts collected key = do
      let read ← readPolicy repository tenantId facts key
      return collected.add read := by
  unfold collectPolicy readPolicy
  simp only [bind_assoc, pure_bind]
  rfl

/-- INTERNAL: the loop reads all policies, then adds up what they say. -/
theorem foldlM_collectPolicy (collected : Collected) :
    keys.foldlM (collectPolicy repository tenantId facts) collected =
      (keys.mapM (readPolicy repository tenantId facts)).map fun reads =>
        reads.foldl Collected.add collected := by
  have hstep : collectPolicy repository tenantId facts = fun collected key => do
      let read ← readPolicy repository tenantId facts key
      return collected.add read := by
    funext collected key
    exact collectPolicy_eq collected key
  rw [hstep, foldlM_eq_mapM_map]

theorem reasons_foldl_add (reads : List (PolicyRecord × List String)) (collected : Collected) :
    (reads.foldl Collected.add collected).reasons =
      collected.reasons ++ reads.flatMap Prod.snd := by
  induction reads generalizing collected with
  | nil => simp
  | cons read reads ih =>
      rw [List.foldl_cons, ih, List.flatMap_cons]
      unfold Collected.add
      rw [List.append_assoc]

/-- INTERNAL: where the policies of one key have one version, the versions are those read. -/
theorem get?_foldl_add {reads : List (PolicyRecord × List String)}
    (hone : ∀ r ∈ reads, ∀ r' ∈ reads, r.1.fields.key = r'.1.fields.key →
      r.1.fields.version = r'.1.fields.version) (k : String) (version : ℕ) :
    (reads.foldl Collected.add ⟨.empty, []⟩).policyVersions.get? k = some version ↔
      ∃ r ∈ reads, r.1.fields.key = k ∧ r.1.fields.version = version := by
  induction reads using List.reverseRecOn with
  | nil => simp
  | append_singleton reads read ih =>
      have hones : ∀ r ∈ reads, ∀ r' ∈ reads, r.1.fields.key = r'.1.fields.key →
          r.1.fields.version = r'.1.fields.version := fun r hr r' hr' =>
        hone r (List.mem_append_left _ hr) r' (List.mem_append_left _ hr')
      rw [List.foldl_append, List.foldl_cons, List.foldl_nil, Collected.add_policyVersions,
        Dict.get?_set]
      split_ifs with hk
      · rw [Option.some.injEq]
        constructor
        · intro hversion
          exact ⟨read, List.mem_append_right _ (List.mem_singleton_self _), hk.symm, hversion⟩
        · rintro ⟨r, hr, hkey, rfl⟩
          exact hone read (List.mem_append_right _ (List.mem_singleton_self _)) r hr
            (hk.symm.trans hkey.symm)
      · rw [ih hones]
        constructor
        · rintro ⟨r, hr, hkey, hversion⟩
          exact ⟨r, List.mem_append_left _ hr, hkey, hversion⟩
        · rintro ⟨r, hr, hkey, hversion⟩
          rcases List.mem_append.mp hr with hold | hnew
          · exact ⟨r, hold, hkey, hversion⟩
          · rw [List.mem_singleton.mp hnew] at hkey
            exact absurd hkey.symm hk

/-! ## The result -/

/-- The fields of the result, from what the loop read. -/
def resultOf (args : ApplyArgs) (reads : List (PolicyRecord × List String))
    (appliedAt : Instant) : ResultFields where
  tenantId := Text.trim args.tenantId
  decision := if uniqueReasons (reads.flatMap Prod.snd) = [] then .allow else .escalate
  policyVersions := (reads.foldl Collected.add ⟨.empty, []⟩).policyVersions
  reasons := (uniqueReasons (reads.flatMap Prod.snd)).map Text.trim
  appliedAt := appliedAt

/-- The same call with other keys. -/
def ApplyArgs.withKeys (args : ApplyArgs) (keys : List String) : ApplyArgs :=
  { args with application := { args.application with policyKeys := keys } }

variable {args : ApplyArgs} {result : PolicyApplicationResult}
  {reads reads' : List (PolicyRecord × List String)} {appliedAt : Instant}

theorem applyPolicies_eq_ok_iff : applyPolicies py now repository args = .ok result ↔
    args.application.policyKeys ≠ [] ∧ ∃ reads,
      args.application.policyKeys.mapM
        (readPolicy repository args.tenantId args.application.facts) = .ok reads ∧
      ∃ appliedAt, resolveTime py now args.appliedAt = .ok appliedAt ∧
        result.fields = resultOf args reads appliedAt := by
  unfold applyPolicies
  split_ifs with hnil
  · constructor
    · intro h
      cases h
    · exact fun h => absurd hnil h.1
  · simp only [bind_eq_ok_iff, foldlM_collectPolicy, mapError_eq_ok_iff]
    unfold policyApplicationResult
    simp only [Validated.make_eq_ok_iff]
    constructor
    · rintro ⟨collected, hcollected, appliedAt, htime, hresult⟩
      refine ⟨hnil, ?_⟩
      cases hreads : args.application.policyKeys.mapM
          (readPolicy repository args.tenantId args.application.facts) with
      | error e =>
          rw [hreads] at hcollected
          cases hcollected
      | ok reads =>
          rw [hreads] at hcollected
          cases hcollected
          rw [reasons_foldl_add, List.nil_append] at hresult
          exact ⟨reads, rfl, appliedAt, htime, hresult⟩
    · rintro ⟨_, reads, hreads, appliedAt, htime, hresult⟩
      refine ⟨reads.foldl Collected.add ⟨.empty, []⟩, ?_, appliedAt, htime, ?_⟩
      · rw [hreads]
        rfl
      · rw [reasons_foldl_add, List.nil_append]
        exact hresult

theorem decision_resultOf : (resultOf args reads appliedAt).decision = .escalate ↔
    ∃ read ∈ reads, read.2 ≠ [] := by
  have hunique : uniqueReasons (reads.flatMap Prod.snd) = [] ↔ ∀ read ∈ reads, read.2 = [] := by
    unfold uniqueReasons
    simp [List.flatMap_eq_nil_iff]
  unfold resultOf
  simp only
  split_ifs with h
  · rw [hunique] at h
    constructor
    · intro hallow
      cases hallow
    · rintro ⟨read, hread, hne⟩
      exact absurd (h read hread) hne
  · rw [hunique] at h
    push Not at h
    exact ⟨fun _ => h, fun _ => rfl⟩

theorem mem_reasons_resultOf {reason : String} :
    reason ∈ (resultOf args reads appliedAt).reasons ↔
      ∃ read ∈ reads, reason ∈ read.2.map Text.trim := by
  unfold resultOf uniqueReasons
  simp only [List.mem_map, List.mem_reverse, List.mem_dedup, List.mem_flatMap]
  constructor
  · rintro ⟨raw, ⟨read, hread, hraw⟩, htrim⟩
    exact ⟨read, hread, raw, hraw, htrim⟩
  · rintro ⟨read, hread, raw, hraw, htrim⟩
    exact ⟨raw, ⟨read, hread, hraw⟩, htrim⟩

/-- INTERNAL: keys that are among those read are read as well, to the same policies. -/
theorem exists_reads_of_keys (h : keys.mapM (readPolicy repository tenantId facts) = .ok reads)
    (hkeys : ∀ key' ∈ keys', ∃ key ∈ keys, Text.strip key = Text.strip key') :
    ∃ reads', keys'.mapM (readPolicy repository tenantId facts) = .ok reads' ∧
      ∀ read ∈ reads', read ∈ reads := by
  have hall : ∀ key' ∈ keys', ∃ read ∈ reads,
      readPolicy repository tenantId facts key' = .ok read := by
    intro key' hkey'
    obtain ⟨key, hkey, hstrip⟩ := hkeys key' hkey'
    obtain ⟨read, hread⟩ := (exists_mapM_eq_ok_iff _ _).mp ⟨reads, h⟩ key hkey
    refine ⟨read, (mem_mapM_iff h).mpr ⟨key, hkey, hread⟩, ?_⟩
    rw [← readPolicy_congr_strip hstrip]
    exact hread
  obtain ⟨reads', hreads'⟩ := (exists_mapM_eq_ok_iff (readPolicy repository tenantId facts)
    keys').mpr fun key' hkey' => (hall key' hkey').imp fun read hread => hread.2
  refine ⟨reads', hreads', fun read hread => ?_⟩
  obtain ⟨key', hkey', hok⟩ := (mem_mapM_iff hreads').mp hread
  obtain ⟨other, hother, hok'⟩ := hall key' hkey'
  rw [hok] at hok'
  cases hok'
  exact hother

/-- INTERNAL: policies read under one key are one policy. -/
theorem version_of_reads (hkeyed : Keyed repository)
    (h : keys.mapM (readPolicy repository tenantId facts) = .ok reads) :
    ∀ r ∈ reads, ∀ r' ∈ reads, r.1.fields.key = r'.1.fields.key →
      r.1.fields.version = r'.1.fields.version := by
  intro r hr r' hr' hkey
  obtain ⟨k, _, hread⟩ := (mem_mapM_iff h).mp hr
  obtain ⟨k', _, hread'⟩ := (mem_mapM_iff h).mp hr'
  have hpolicy := (readPolicy_eq_ok_iff.mp hread).1
  have hpolicy' := (readPolicy_eq_ok_iff.mp hread').1
  rw [key_of_getPolicy hkeyed hpolicy, key_of_getPolicy hkeyed hpolicy'] at hkey
  rw [getPolicy_congr_strip hkey, hpolicy', Except.ok.injEq] at hpolicy
  rw [hpolicy]

/-- The same decision, the same reasons as a set, and the same versions. -/
structure SameVerdict (first second : PolicyApplicationResult) : Prop where
  decision : second.fields.decision = first.fields.decision
  reasons : ∀ reason, reason ∈ second.fields.reasons ↔ reason ∈ first.fields.reasons
  policyVersions : ∀ key,
    second.fields.policyVersions.get? key = first.fields.policyVersions.get? key

theorem decision_congr (h : ∀ read, read ∈ reads' ↔ read ∈ reads) (args' : ApplyArgs) :
    (resultOf args' reads' appliedAt).decision = (resultOf args reads appliedAt).decision := by
  have hiff : (resultOf args' reads' appliedAt).decision = .escalate ↔
      (resultOf args reads appliedAt).decision = .escalate := by
    simp only [decision_resultOf, h]
  cases hd : (resultOf args reads appliedAt).decision with
  | allow =>
      cases hd' : (resultOf args' reads' appliedAt).decision with
      | allow => rfl
      | escalate =>
          rw [hiff.mp hd'] at hd
          cases hd
  | escalate => exact hiff.mpr hd

theorem policyVersions_congr
    (hone : ∀ r ∈ reads, ∀ r' ∈ reads, r.1.fields.key = r'.1.fields.key →
      r.1.fields.version = r'.1.fields.version)
    (h : ∀ read, read ∈ reads' ↔ read ∈ reads) (k : String) :
    (reads'.foldl Collected.add ⟨.empty, []⟩).policyVersions.get? k =
      (reads.foldl Collected.add ⟨.empty, []⟩).policyVersions.get? k := by
  have hone' : ∀ r ∈ reads', ∀ r' ∈ reads', r.1.fields.key = r'.1.fields.key →
      r.1.fields.version = r'.1.fields.version := fun r hr r' hr' =>
    hone r ((h r).mp hr) r' ((h r').mp hr')
  apply Option.ext
  intro version
  rw [get?_foldl_add hone', get?_foldl_add hone]
  simp only [h]

/-- INTERNAL: a call with as many policies, in any order and however often, ends the same
way. -/
theorem exists_sameVerdict (hkeyed : Keyed repository)
    (h : applyPolicies py now repository args = .ok result)
    (hkeys : ∀ k, k ∈ keys'.map Text.strip ↔ k ∈ args.application.policyKeys.map Text.strip) :
    ∃ result', applyPolicies py now repository (args.withKeys keys') = .ok result' ∧
      SameVerdict result result' := by
  rw [applyPolicies_eq_ok_iff] at h
  obtain ⟨hne, reads, hreads, appliedAt, htime, hresult⟩ := h
  have hsub : ∀ key' ∈ keys', ∃ key ∈ args.application.policyKeys,
      Text.strip key = Text.strip key' := by
    intro key' hkey'
    exact List.mem_map.mp ((hkeys _).mp (List.mem_map_of_mem hkey'))
  have hsub' : ∀ key ∈ args.application.policyKeys, ∃ key' ∈ keys',
      Text.strip key' = Text.strip key := by
    intro key hkey
    exact List.mem_map.mp ((hkeys _).mpr (List.mem_map_of_mem hkey))
  obtain ⟨reads', hreads', hmem⟩ := exists_reads_of_keys hreads hsub
  obtain ⟨back, hback, hmem'⟩ := exists_reads_of_keys hreads' hsub'
  rw [hreads] at hback
  cases hback
  have hsame : ∀ read, read ∈ reads' ↔ read ∈ reads := fun read => ⟨hmem read, hmem' read⟩
  have hvalid : ∀ c ∈ (resultOf (args.withKeys keys') reads' appliedAt).checks, c.2 = true := by
    have hvalid := result.valid
    rw [hresult] at hvalid
    exact hvalid
  refine ⟨⟨resultOf (args.withKeys keys') reads' appliedAt, hvalid⟩, ?_, ?_⟩
  · rw [applyPolicies_eq_ok_iff]
    refine ⟨?_, reads', hreads', appliedAt, htime, rfl⟩
    show keys' ≠ []
    rintro rfl
    obtain ⟨key, hkey⟩ := List.exists_mem_of_ne_nil _ hne
    obtain ⟨key', hkey', _⟩ := hsub' key hkey
    cases hkey'
  · constructor
    · rw [hresult]
      exact decision_congr hsame _
    · intro reason
      rw [hresult]
      simp only [mem_reasons_resultOf, hsame]
    · intro key
      rw [hresult]
      exact policyVersions_congr (version_of_reads hkeyed hreads) hsame key

/-- INTERNAL: with more policies, what was found before is found again. -/
theorem exists_extended (h : applyPolicies py now repository args = .ok result)
    {result' : PolicyApplicationResult}
    (h' : applyPolicies py now repository (args.withKeys keys') = .ok result') :
    ∃ extended, applyPolicies py now repository
        (args.withKeys (args.application.policyKeys ++ keys')) = .ok extended ∧
      (result.fields.decision = .escalate → extended.fields.decision = .escalate) ∧
      ∀ reason ∈ result.fields.reasons, reason ∈ extended.fields.reasons := by
  rw [applyPolicies_eq_ok_iff] at h h'
  obtain ⟨hne, reads, hreads, appliedAt, htime, hresult⟩ := h
  obtain ⟨_, reads', hreads', _⟩ := h'
  have hboth : (args.application.policyKeys ++ keys').mapM
      (readPolicy repository args.tenantId args.application.facts) = .ok (reads ++ reads') := by
    rw [List.mapM_append, hreads]
    exact congrArg (fun more => do let more ← more; return reads ++ more) hreads'
  have hvalid : ∀ c ∈ (resultOf (args.withKeys (args.application.policyKeys ++ keys'))
      (reads ++ reads') appliedAt).checks, c.2 = true := by
    have hvalid := result.valid
    rw [hresult] at hvalid
    exact hvalid
  refine ⟨⟨_, hvalid⟩, ?_, ?_, ?_⟩
  · rw [applyPolicies_eq_ok_iff]
    exact ⟨List.append_ne_nil_of_left_ne_nil hne _, _, hboth, appliedAt, htime, rfl⟩
  · rw [hresult]
    simp only [decision_resultOf]
    rintro ⟨read, hread, hreason⟩
    exact ⟨read, List.mem_append_left _ hread, hreason⟩
  · rw [hresult]
    intro reason hreason
    rw [mem_reasons_resultOf] at hreason ⊢
    obtain ⟨read, hread, hreason⟩ := hreason
    exact ⟨read, List.mem_append_left _ hread, hreason⟩

/-- INTERNAL: a call escalates exactly if one of its policies is violated and escalates. -/
theorem escalate_iff (h : applyPolicies py now repository args = .ok result) :
    result.fields.decision = .escalate ↔ ∃ key ∈ args.application.policyKeys, ∃ policy,
      repository.getPolicy args.tenantId key = .ok policy ∧
        Violates args.application.facts policy.fields.value ∧
        Escalates policy.fields.value := by
  rw [applyPolicies_eq_ok_iff] at h
  obtain ⟨_, reads, hreads, appliedAt, _, hresult⟩ := h
  rw [hresult, decision_resultOf]
  constructor
  · rintro ⟨read, hread, hne⟩
    obtain ⟨key, hkey, hok⟩ := (mem_mapM_iff hreads).mp hread
    obtain ⟨hpolicy, hreasons⟩ := readPolicy_eq_ok_iff.mp hok
    exact ⟨key, hkey, read.1, hpolicy, (policyReasons_iff hreasons).mp hne⟩
  · rintro ⟨key, hkey, policy, hpolicy, hviolated⟩
    obtain ⟨read, hok⟩ := (exists_mapM_eq_ok_iff _ _).mp ⟨reads, hreads⟩ key hkey
    obtain ⟨hpolicy', hreasons⟩ := readPolicy_eq_ok_iff.mp hok
    rw [hpolicy] at hpolicy'
    cases hpolicy'
    exact ⟨read, (mem_mapM_iff hreads).mpr ⟨key, hkey, hok⟩,
      (policyReasons_iff hreasons).mpr hviolated⟩

end Application

/-- Whatever policies were saved, a call that returns escalates exactly if a policy it lists is
violated and escalates; the same policies in any other list end the same way; and with more
policies neither the escalation nor a reason is lost. -/
theorem applyPolicies_monotone (py : Stdlib) (now : Instant) (saved : List PolicyRecord)
    (args : ApplyArgs) (result : PolicyApplicationResult)
    (h : applyPolicies py now (.ofSaved saved) args = .ok result) :
    (result.fields.decision = .escalate ↔ ∃ key ∈ args.application.policyKeys, ∃ policy,
      (InMemoryPolicyRepository.ofSaved saved).getPolicy args.tenantId key = .ok policy ∧
        Violates args.application.facts policy.fields.value ∧
        Escalates policy.fields.value) ∧
    (∀ keys : List String,
      (∀ k, k ∈ keys.map Text.strip ↔ k ∈ args.application.policyKeys.map Text.strip) →
      ∃ same, applyPolicies py now (.ofSaved saved) (args.withKeys keys) = .ok same ∧
        SameVerdict result same) ∧
    ∀ (more : List String) (other : PolicyApplicationResult),
      applyPolicies py now (.ofSaved saved) (args.withKeys more) = .ok other →
      ∃ extended, applyPolicies py now (.ofSaved saved)
          (args.withKeys (args.application.policyKeys ++ more)) = .ok extended ∧
        (result.fields.decision = .escalate → extended.fields.decision = .escalate) ∧
        ∀ reason ∈ result.fields.reasons, reason ∈ extended.fields.reasons :=
  ⟨escalate_iff h, fun _ => exists_sameVerdict (keyed_ofSaved saved) h,
    fun _ _ => exists_extended h⟩

/-- A call on the default policy that asks for an explanation, with facts that have none. -/
def xaiApplication : ApplyArgs where
  tenantId := "media-center"
  application := ⟨["ethics.require_xai"], [("has_xai", .bool false)]⟩

theorem exists_xaiApplication : ∃ result,
    applyPolicies Reference.stdlib 0 (.ofSaved []) xaiApplication = .ok result ∧
      result.fields.reasons = ["xai_required"] := by
  have hvalue : defaultPolicyValue? "ethics.require_xai" =
      some (flagPolicy "has_xai" "xai_required") := by rfl
  obtain ⟨policy, hrecord, hdefault⟩ := exists_defaultPolicyRecord
    (show tenantIdPattern "media-center" = true by decide)
    (defaultPolicyValue?_eq_some_iff.mp hvalue)
  have hpolicy : (InMemoryPolicyRepository.ofSaved []).getPolicy "media-center"
      "ethics.require_xai" = .ok policy := by
    rw [getPolicy_of_stored_eq_nil (normalizePolicyKey_of_pattern (by decide)) rfl,
      hvalue]
    simp only [hrecord]
    rfl
  have hreasons : policyReasons policy.fields.value xaiApplication.application.facts =
      .ok ["xai_required"] := by
    rw [hdefault.value]
    decide
  have hread : readPolicy (.ofSaved []) "media-center" xaiApplication.application.facts
      "ethics.require_xai" = .ok (policy, ["xai_required"]) :=
    readPolicy_eq_ok_iff.mpr ⟨hpolicy, hreasons⟩
  have hvalid : ∀ c ∈ (resultOf xaiApplication [(policy, ["xai_required"])] 0).checks,
      c.2 = true := by
    have htenant : tenantIdPattern (Text.trim xaiApplication.tenantId) = true := by
      decide
    simp only [ResultFields.checks, resultOf, List.forall_mem_singleton]
    exact htenant
  refine ⟨⟨_, hvalid⟩, applyPolicies_eq_ok_iff.mpr ⟨List.cons_ne_nil _ _, _, ?_, 0, rfl, rfl⟩,
    ?_⟩
  · rw [mapM_eq_ok_iff]
    exact .cons hread .nil
  · show (uniqueReasons ["xai_required"]).map Text.trim = ["xai_required"]
    decide

/-- The theorem at that call. -/
theorem applyPolicies_monotone_xai : ∃ result,
    applyPolicies Reference.stdlib 0 (.ofSaved []) xaiApplication = .ok result ∧
      ∃ same, applyPolicies Reference.stdlib 0 (.ofSaved [])
          (xaiApplication.withKeys [" ethics.require_xai ", "ethics.require_xai"]) = .ok same ∧
        SameVerdict result same := by
  obtain ⟨result, h, _⟩ := exists_xaiApplication
  refine ⟨result, h, (applyPolicies_monotone _ _ _ _ result h).2.1 _ fun k => ?_⟩
  have hstrip : [" ethics.require_xai ", "ethics.require_xai"].map Text.strip =
      ["ethics.require_xai", "ethics.require_xai"] := by decide
  have hkeys : xaiApplication.application.policyKeys.map Text.strip =
      ["ethics.require_xai"] := by decide
  rw [hstrip, hkeys]
  simp

end MediaCenter.PolicyManager
