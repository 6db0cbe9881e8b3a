import MediaCenter.Model.Shared.TenantRecords

/-!
# Records that hide behind another tenant's

Ids are unique within a tenant only.  `get_owned` stops at the first record with the id and then
asks whose it is, so another tenant's record in front of one's own turns the answer into a denial.
-/

set_option autoImplicit false

namespace MediaCenter.Shared

open MediaCenter.Library

namespace TenantScopedRepository

variable {ρ ι : Type} [DecidableEq ι] (guard : TenantScopedRepository ρ ι)

section Statements

variable (context : TenantContext) (auditSink : Bool) (resourceId : ι)

/-- The tenant has a record with the id. -/
def Has (records : List ρ) : Prop :=
  ∃ record ∈ records, guard.tenantIdOf record = context.tenantId ∧ guard.idOf record = resourceId

/-- The records of the tenant, in their order. -/
def ownRecords (records : List ρ) : List ρ :=
  records.filter fun record => guard.tenantIdOf record = context.tenantId

/-- What the two operations owe the tenant. -/
structure Serves (records : List ρ) : Prop where
  own : guard.Has context resourceId records → ∃ record ∈ records,
    guard.tenantIdOf record = context.tenantId ∧ guard.idOf record = resourceId ∧
      guard.getOwned records resourceId (some context) none auditSink = (.ok (some record), [])
  absent : (∀ record ∈ records, guard.idOf record ≠ resourceId) →
    guard.getOwned records resourceId (some context) none auditSink = (.ok none, [])
  denied : ∀ raised events,
    guard.getOwned records resourceId (some context) none auditSink = (.error raised, events) →
      (∃ message correlationId, raised.error = .tenantIsolation message correlationId) ∧
        events.length = (if auditSink = true then 1 else 0) ∧
        ∀ record ∈ records, guard.idOf record = resourceId →
          guard.tenantIdOf record ≠ context.tenantId
  listed : listForTenant guard.tenantIdOf records context =
    .ok (guard.ownRecords context records)

/-- Where the tenant has the same records in both, it is given the same. -/
def Undisturbed (records records' : List ρ) : Prop :=
  guard.ownRecords context records = guard.ownRecords context records' →
    listForTenant guard.tenantIdOf records context =
        listForTenant guard.tenantIdOf records' context ∧
      (guard.Has context resourceId records →
        guard.getOwned records resourceId (some context) none auditSink =
          guard.getOwned records' resourceId (some context) none auditSink)

/-- If the tenant has a record with the id, no record of another tenant with the id stands before
it. -/
def Unshadowed (records : List ρ) : Prop :=
  ∀ earlier record later, records = earlier ++ record :: later → guard.idOf record = resourceId →
    guard.tenantIdOf record ≠ context.tenantId →
      guard.Has context resourceId earlier ∨ ¬ guard.Has context resourceId later

end Statements

/-! ## The first record with the id -/

section FirstRecord

variable {guard} {context : TenantContext} {auditSink : Bool} {resourceId : ι}

theorem getOwned_eq_firstOwned (records : List ρ) :
    guard.getOwned records resourceId (some context) none auditSink =
      guard.firstOwned resourceId context auditSink records := rfl

/-- INTERNAL: the loop asks for the owner of the first record with the id. -/
theorem firstOwned_eq (records : List ρ) :
    guard.firstOwned resourceId context auditSink records =
      match records.find? fun record => guard.idOf record = resourceId with
      | none => (.ok none, [])
      | some record =>
          ((guard.requireOwned record context auditSink).1.map some,
            (guard.requireOwned record context auditSink).2) := by
  induction records with
  | nil => rfl
  | cons record records ih =>
      rw [firstOwned]
      by_cases hid : guard.idOf record = resourceId
      · rw [if_pos hid, List.find?_cons_of_pos (by simpa using hid)]
      · rw [if_neg hid, List.find?_cons_of_neg (by simpa using hid), ih]

/-- The row that a database reads first is the first record. -/
theorem getOwnedRow_eq_getOwned (table : List ρ) (context current : Option TenantContext) :
    guard.getOwnedRow table resourceId context current auditSink =
      guard.getOwned table resourceId context current auditSink := by
  unfold getOwnedRow getOwned
  cases resolveContext context current with
  | error e => rfl
  | ok context =>
      simp only [firstOwned_eq, ← List.head?_filter]
      cases table.filter fun record => guard.idOf record = resourceId with
      | nil => rfl
      | cons record rest => rfl

omit [DecidableEq ι] in
theorem requireOwned_of_own {record : ρ}
    (hvalid : tenantIdPattern (guard.tenantIdOf record) = true)
    (hown : guard.tenantIdOf record = context.tenantId) :
    guard.requireOwned record context auditSink = (.ok record, []) := by
  unfold requireOwned validatedTenantId
  rw [if_pos hvalid]
  simp only [hown, ne_eq, not_true_eq_false, if_false]

omit [DecidableEq ι] in
theorem requireOwned_of_other {record : ρ}
    (hvalid : tenantIdPattern (guard.tenantIdOf record) = true)
    (hother : guard.tenantIdOf record ≠ context.tenantId) :
    guard.requireOwned record context auditSink =
      (.error (denyTenantAccess guard.py context (some (guard.tenantIdOf record))
          guard.resourceType auditSink "resource_tenant_mismatch").1,
        (denyTenantAccess guard.py context (some (guard.tenantIdOf record)) guard.resourceType
          auditSink "resource_tenant_mismatch").2) := by
  unfold requireOwned validatedTenantId
  rw [if_pos hvalid]
  simp only [hother, ne_eq, not_false_eq_true, if_true]

theorem length_denyTenantAccess (py : Stdlib) (requestedTenantId : Option String)
    (resourceType reason : String) : (denyTenantAccess py context requestedTenantId resourceType
      auditSink reason).2.length = if auditSink = true then 1 else 0 := by
  unfold denyTenantAccess
  split_ifs
  · rfl
  · rfl

/-- INTERNAL: unshadowed means that the first record with the id is the tenant's, if it has
one. -/
theorem unshadowed_iff (records : List ρ) : guard.Unshadowed context resourceId records ↔
    ∀ record, records.find? (fun record => guard.idOf record = resourceId) = some record →
      guard.Has context resourceId records → guard.tenantIdOf record = context.tenantId := by
  constructor
  · intro h record hfind hhas
    rw [List.find?_eq_some_iff_append] at hfind
    obtain ⟨hid, earlier, later, rfl, hearlier⟩ := hfind
    have hidEq : guard.idOf record = resourceId := of_decide_eq_true hid
    by_contra hother
    have hnone : ¬ guard.Has context resourceId earlier := by
      rintro ⟨own, hmem, _, hown⟩
      have hne := hearlier own hmem
      rw [hown] at hne
      simp at hne
    obtain ⟨own, hmem, howner, hown⟩ := hhas
    rw [List.mem_append, List.mem_cons] at hmem
    rcases hmem with hmem | rfl | hmem
    · exact hnone ⟨own, hmem, howner, hown⟩
    · exact hother howner
    · exact (h earlier record later rfl hidEq hother).elim hnone fun hlater =>
        hlater ⟨own, hmem, howner, hown⟩
  · intro h earlier record later hsplit hid hother
    by_contra hboth
    rw [not_or, not_not] at hboth
    obtain ⟨hnone, own, hmem, howner, hown⟩ := hboth
    have hhas : guard.Has context resourceId records := by
      rw [hsplit]
      exact ⟨own, List.mem_append_right _ (List.mem_cons_of_mem _ hmem), howner, hown⟩
    have hsome : (records.find? fun record => guard.idOf record = resourceId).isSome = true := by
      rw [List.find?_isSome]
      exact ⟨record, by rw [hsplit]; simp, by simpa using hid⟩
    obtain ⟨first, hfirst⟩ := Option.isSome_iff_exists.mp hsome
    have hfirstOwn := h first hfirst hhas
    rw [hsplit, List.find?_append] at hfirst
    cases hearlier : earlier.find? fun record => guard.idOf record = resourceId with
    | some r =>
        rw [hearlier, Option.some_or, Option.some.injEq] at hfirst
        subst hfirst
        have hrid : guard.idOf r = resourceId := by simpa using List.find?_some hearlier
        exact hnone ⟨r, List.mem_of_find?_eq_some hearlier, hfirstOwn, hrid⟩
    | none =>
        rw [hearlier, Option.none_or, List.find?_cons_of_pos (by simpa using hid),
          Option.some.injEq] at hfirst
        rw [hfirst] at hother
        exact hother hfirstOwn

/-- INTERNAL: where the first record with the id is the tenant's, it is the first of its own. -/
theorem find?_ownRecords {records : List ρ} {record : ρ}
    (hfind : records.find? (fun record => guard.idOf record = resourceId) = some record)
    (hown : guard.tenantIdOf record = context.tenantId) :
    (guard.ownRecords context records).find? (fun record => guard.idOf record = resourceId) =
      some record := by
  unfold ownRecords
  rw [List.find?_eq_some_iff_append] at hfind
  obtain ⟨hid, earlier, later, rfl, hearlier⟩ := hfind
  rw [List.filter_append, List.find?_append, List.filter_cons_of_pos (by simpa using hown),
    List.find?_cons_of_pos (by simpa using hid)]
  have hnone : (earlier.filter fun record => guard.tenantIdOf record = context.tenantId).find?
      (fun record => guard.idOf record = resourceId) = none := by
    rw [List.find?_eq_none]
    intro r hr
    have hne := hearlier r (List.mem_of_mem_filter hr)
    simpa using hne
  rw [hnone, Option.none_or]

omit [DecidableEq ι] in
theorem has_of_ownRecords_eq {records records' : List ρ}
    (hsame : guard.ownRecords context records = guard.ownRecords context records')
    (h : guard.Has context resourceId records) : guard.Has context resourceId records' := by
  obtain ⟨record, hmem, howner, hid⟩ := h
  have hown : record ∈ guard.ownRecords context records :=
    List.mem_filter.mpr ⟨hmem, by simpa using howner⟩
  rw [hsame] at hown
  exact ⟨record, List.mem_of_mem_filter hown, howner, hid⟩

theorem exists_find?_of_has {records : List ρ} (h : guard.Has context resourceId records) :
    ∃ record, records.find? (fun record => guard.idOf record = resourceId) = some record := by
  obtain ⟨own, hmem, _, hid⟩ := h
  rw [← Option.isSome_iff_exists, List.find?_isSome]
  exact ⟨own, hmem, by simpa using hid⟩

end FirstRecord

/-! ## What the tenant is given -/

section Answers

variable {guard} {context : TenantContext} {auditSink : Bool} {resourceId : ι}
  {records records' : List ρ}

/-- INTERNAL: the first record with the id, where the tenant has one. -/
theorem getOwned_of_unshadowed
    (hvalid : ∀ record ∈ records, tenantIdPattern (guard.tenantIdOf record) = true)
    (h : guard.Unshadowed context resourceId records)
    (hhas : guard.Has context resourceId records) : ∃ record ∈ records,
      guard.tenantIdOf record = context.tenantId ∧ guard.idOf record = resourceId ∧
      (guard.ownRecords context records).find? (fun record => guard.idOf record = resourceId) =
        some record ∧
      guard.getOwned records resourceId (some context) none auditSink =
        (.ok (some record), []) := by
  obtain ⟨record, hfind⟩ := exists_find?_of_has hhas
  have hown := (unshadowed_iff records).mp h record hfind hhas
  have hmem := List.mem_of_find?_eq_some hfind
  have hid : guard.idOf record = resourceId := by simpa using List.find?_some hfind
  refine ⟨record, hmem, hown, hid, find?_ownRecords hfind hown, ?_⟩
  rw [getOwned_eq_firstOwned, firstOwned_eq, hfind]
  simp only [requireOwned_of_own (hvalid record hmem) hown]
  rfl

theorem serves_of_unshadowed
    (hvalid : ∀ record ∈ records, tenantIdPattern (guard.tenantIdOf record) = true)
    (h : guard.Unshadowed context resourceId records) :
    guard.Serves context auditSink resourceId records where
  own := by
    intro hhas
    obtain ⟨record, hmem, hown, hid, _, hget⟩ := getOwned_of_unshadowed hvalid h hhas
    exact ⟨record, hmem, hown, hid, hget⟩
  absent := by
    intro hnone
    have hfind : records.find? (fun record => guard.idOf record = resourceId) = none := by
      rw [List.find?_eq_none]
      intro record hmem
      simpa using hnone record hmem
    rw [getOwned_eq_firstOwned, firstOwned_eq, hfind]
  denied := by
    intro raised events hget
    have hothers : ∀ record ∈ records, guard.idOf record = resourceId →
        guard.tenantIdOf record ≠ context.tenantId := by
      intro record hmem hid hown
      obtain ⟨_, _, _, _, _, hok⟩ := @getOwned_of_unshadowed _ _ _ _ _ auditSink _ _ hvalid h
        ⟨record, hmem, hown, hid⟩
      rw [hok] at hget
      cases hget
    rw [getOwned_eq_firstOwned, firstOwned_eq] at hget
    cases hfind : records.find? fun record => guard.idOf record = resourceId with
    | none =>
        rw [hfind] at hget
        cases hget
    | some record =>
        have hmem := List.mem_of_find?_eq_some hfind
        have hid : guard.idOf record = resourceId := by simpa using List.find?_some hfind
        rw [hfind] at hget
        simp only [requireOwned_of_other (hvalid record hmem) (hothers record hmem hid)] at hget
        cases hget
        exact ⟨⟨_, _, rfl⟩, length_denyTenantAccess _ _ _ _, hothers⟩
  listed := listForTenant_eq_ok hvalid context

theorem unshadowed_of_serves
    (hvalid : ∀ record ∈ records, tenantIdPattern (guard.tenantIdOf record) = true)
    (h : guard.Serves context auditSink resourceId records) :
    guard.Unshadowed context resourceId records := by
  rw [unshadowed_iff]
  intro record hfind hhas
  by_contra hother
  obtain ⟨own, _, _, _, hget⟩ := h.own hhas
  rw [getOwned_eq_firstOwned, firstOwned_eq, hfind] at hget
  simp only [requireOwned_of_other (hvalid record (List.mem_of_find?_eq_some hfind)) hother] at hget
  cases hget

theorem undisturbed_of_unshadowed
    (hvalid : ∀ record ∈ records, tenantIdPattern (guard.tenantIdOf record) = true)
    (hvalid' : ∀ record ∈ records', tenantIdPattern (guard.tenantIdOf record) = true)
    (h : guard.Unshadowed context resourceId records)
    (h' : guard.Unshadowed context resourceId records') :
    guard.Undisturbed context auditSink resourceId records records' := by
  intro hsame
  refine ⟨?_, fun hhas => ?_⟩
  · rw [listForTenant_eq_ok hvalid, listForTenant_eq_ok hvalid']
    exact congrArg Except.ok hsame
  · obtain ⟨record, _, _, _, hfirst, hget⟩ :=
      @getOwned_of_unshadowed _ _ _ _ _ auditSink _ _ hvalid h hhas
    obtain ⟨record', _, _, _, hfirst', hget'⟩ :=
      @getOwned_of_unshadowed _ _ _ _ _ auditSink _ _ hvalid' h' (has_of_ownRecords_eq hsame hhas)
    rw [hsame, hfirst', Option.some.injEq] at hfirst
    rw [hget, hget', hfirst]

end Answers

/-- In the two lists the tenant is served, and is given the same where it has the same records,
exactly if its record with the id is hidden in neither; and a table is read as a list is. -/
theorem serves_undisturbed_iff_unshadowed (context : TenantContext) (auditSink : Bool)
    (resourceId : ι) (records records' : List ρ)
    (hvalid : ∀ record ∈ records, tenantIdPattern (guard.tenantIdOf record) = true)
    (hvalid' : ∀ record ∈ records', tenantIdPattern (guard.tenantIdOf record) = true) :
    ((guard.Serves context auditSink resourceId records ∧
        guard.Serves context auditSink resourceId records' ∧
        guard.Undisturbed context auditSink resourceId records records') ↔
      guard.Unshadowed context resourceId records ∧
        guard.Unshadowed context resourceId records') ∧
    ∀ table, guard.getOwnedRow table resourceId (some context) none auditSink =
      guard.getOwned table resourceId (some context) none auditSink := by
  refine ⟨?_, fun table => getOwnedRow_eq_getOwned table (some context) none⟩
  constructor
  · rintro ⟨h, h', _⟩
    exact ⟨unshadowed_of_serves hvalid h, unshadowed_of_serves hvalid' h'⟩
  · rintro ⟨h, h'⟩
    exact ⟨serves_of_unshadowed hvalid h, serves_of_unshadowed hvalid' h',
      undisturbed_of_unshadowed hvalid hvalid' h h'⟩

/-! ## Two tenants with one id -/

namespace TenantSample

/-- Generated contents: a tenant and a content id. -/
def contentGuard : TenantScopedRepository (String × String) String where
  py := Reference.stdlib
  resourceType := "generated_content"
  tenantIdOf := Prod.fst
  idOf := Prod.snd

def context : TenantContext := ⟨"coop-alpha", some "editor-1", ["editor"], some "corr-1"⟩

def shadowed : List (String × String) := [("coop-beta", "post-1"), ("coop-alpha", "post-1")]

def unshadowed : List (String × String) := [("coop-alpha", "post-1"), ("coop-beta", "post-1")]

def alone : List (String × String) := [("coop-alpha", "post-1")]

theorem valid_unshadowed : ∀ record ∈ unshadowed, tenantIdPattern (contentGuard.tenantIdOf record) =
    true := by
  decide

theorem valid_alone : ∀ record ∈ alone, tenantIdPattern (contentGuard.tenantIdOf record) =
    true := by
  decide

theorem valid_shadowed : ∀ record ∈ shadowed, tenantIdPattern (contentGuard.tenantIdOf record) =
    true := by
  decide

/-- INTERNAL: the first record with the id is the tenant's. -/
theorem unshadowed_of_first {records : List (String × String)}
    (hfirst : records.find? (fun record => contentGuard.idOf record = "post-1") =
      some ("coop-alpha", "post-1")) : contentGuard.Unshadowed context "post-1" records := by
  rw [unshadowed_iff]
  intro record hrecord _
  rw [hfirst, Option.some.injEq] at hrecord
  rw [← hrecord]
  rfl

end TenantSample

open TenantSample in
/-- A record of another tenant behind one's own changes nothing. -/
theorem serves_undisturbed_iff_unshadowed_own :
    contentGuard.Serves context true "post-1" unshadowed ∧
      contentGuard.Serves context true "post-1" alone ∧
      contentGuard.Undisturbed context true "post-1" unshadowed alone :=
  (serves_undisturbed_iff_unshadowed contentGuard context true "post-1" unshadowed alone
    valid_unshadowed valid_alone).1.mpr
      ⟨unshadowed_of_first (by decide), unshadowed_of_first (by decide)⟩

open TenantSample in
/-- Another tenant's record in front of one's own: the tenant is denied its own record. -/
theorem not_serves_shadowed : ¬ ∀ (resourceId : String) (records : List (String × String)),
    (∀ record ∈ records, tenantIdPattern (contentGuard.tenantIdOf record) = true) →
      contentGuard.Serves context true resourceId records := by
  intro hall
  have h := unshadowed_of_serves valid_shadowed (hall "post-1" shadowed valid_shadowed)
  have hother : "coop-beta" ≠ "coop-alpha" := by decide
  rcases h [] ("coop-beta", "post-1") [("coop-alpha", "post-1")] rfl rfl hother with hnone | hlater
  · obtain ⟨record, hmem, _⟩ := hnone
    cases hmem
  · exact hlater ⟨("coop-alpha", "post-1"), List.mem_singleton_self _, rfl, rfl⟩

end TenantScopedRepository

end MediaCenter.Shared
