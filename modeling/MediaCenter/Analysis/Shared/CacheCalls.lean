import MediaCenter.Analysis.Shared.CacheKeys
import MediaCenter.Library.Expiry

/-!
# The calls of the in-memory cache

A call raises, or works on one entry or one lock of its tenant, or removes a namespace of its
tenant.  Some calls first remove whatever has expired, of any tenant.
-/

set_option autoImplicit false

namespace MediaCenter.Shared

open MediaCenter.Library

inductive CacheCall : Type where
  | getJson (namespaceName key : String)
  | setJson (namespaceName key : String) (value : JSONValue) (ttlSeconds : Option ℤ)
  | delete (namespaceName key : String)
  | invalidateNamespace (namespaceName : String)
  | increment (namespaceName key : String) (amount : ℤ) (ttlSeconds : Option ℤ)
  | acquireLock (namespaceName key owner : String) (ttlSeconds : Option ℤ)
  | releaseLock (namespaceName key owner : String)

/-- A call with its caller and the time: `delete` and `invalidate_namespace` do not read the
clock, and for them `now` is the time they are called at. -/
structure CacheInput where
  caller : CacheCaller
  readings : CacheReadings
  call : CacheCall

inductive CacheResult : Type where
  | json (value : JSONValue)
  | done
  | flag (b : Bool)
  | count (n : ℕ)
  | counter (n : ℤ)

namespace InMemoryTenantCache

/-- What an operation returns or raises, as the result of a call. -/
def answered {α : Type} (result : α → CacheResult)
    (r : Except SharedException α × InMemoryTenantCache) :
    Except SharedException CacheResult × InMemoryTenantCache :=
  (r.1.map result, r.2)

def step (codec : JsonCodec) (options : CacheOptions) (cache : InMemoryTenantCache)
    (c : CacheInput) : Except SharedException CacheResult × InMemoryTenantCache :=
  match c.call with
  | .getJson namespaceName key =>
      answered .json (getJson codec options c.readings c.caller namespaceName key cache)
  | .setJson namespaceName key value ttlSeconds => answered (fun _ => .done)
      (setJson codec options c.readings c.caller namespaceName key value ttlSeconds cache)
  | .delete namespaceName key =>
      answered .flag (delete options c.caller namespaceName key cache)
  | .invalidateNamespace namespaceName =>
      answered .count (invalidateNamespace options c.caller namespaceName cache)
  | .increment namespaceName key amount ttlSeconds => answered .counter
      (increment options c.readings c.caller namespaceName key amount ttlSeconds cache)
  | .acquireLock namespaceName key owner ttlSeconds => answered .flag
      (acquireLock options c.readings c.caller namespaceName key owner ttlSeconds cache)
  | .releaseLock namespaceName key owner => answered .flag
      (releaseLock options c.readings c.caller namespaceName key owner cache)

/-! ## One lemma for every call -/

/-- What a call does to an entry or a lock: nothing, or it removes or writes it. -/
inductive Write (α : Type) : Type where
  | keep
  | remove
  | put (value : α)

def Write.apply {α : Type} (key : String) (d : Dict String α) : Write α → Dict String α
  | .keep => d
  | .remove => d.erase key
  | .put value => d.set key value

/-- The cache a call works on. -/
def base (purges : Bool) (now : ℚ) (cache : InMemoryTenantCache) : InMemoryTenantCache :=
  if purges = true then cache.purgeExpired now else cache

/-- A key of a tenant. -/
def OwnKey (options : CacheOptions) (tenantId key : String) : Prop :=
  ColonFree tenantId ∧ ∃ n k, ColonFree n ∧ key = keyText options.keyPrefix tenantId n k

/-- What `get_json` makes of the entry it finds. -/
def got (codec : JsonCodec) : Option CacheEntry → Except SharedException CacheResult
  | none => .ok (.json .null)
  | some entry => (cloneJson codec entry.value).map .json

/-- What `increment` makes of the value and the expiry it comes to. -/
def counted : Except SharedException (ℤ × ℚ) →
    Except SharedException CacheResult × Write CacheEntry
  | .error e => (.error e, .keep)
  | .ok (nextValue, expires) => (.ok (.counter nextValue), .put ⟨.int nextValue, some expires⟩)

/-- What `acquire_lock` makes of the lock it comes to. -/
def acquired : Except SharedException LockEntry →
    Except SharedException CacheResult × Write LockEntry
  | .error e => (.error e, .keep)
  | .ok lock => (.ok (.flag true), .put lock)

/-- What `release_lock` makes of the lock it finds. -/
def released (owner : String) : Option LockEntry →
    Except SharedException CacheResult × Write LockEntry
  | none => (.ok (.flag false), .keep)
  | some lock =>
      match normalizeOwner owner with
      | .error e => (.error e, .keep)
      | .ok normalizedOwner =>
          if lock.owner ≠ normalizedOwner then (.ok (.flag false), .keep)
          else (.ok (.flag true), .remove)

/-- INTERNAL: everything a call can do, for every cache it is made on. -/
inductive Behaviour (codec : JsonCodec) (options : CacheOptions) (c : CacheInput) : Prop where
  | raises (e : SharedException) (purges : Bool)
      (h : ∀ cache, step codec options cache c = (.error e, base purges c.readings.now cache))
  | entry (tenantId key : String) (htenant : tenantSegment c.caller = .ok tenantId)
      (hkey : OwnKey options tenantId key) (purges : Bool)
      (f : Option CacheEntry → Except SharedException CacheResult × Write CacheEntry)
      (hreads : purges = true ∨ (∃ r v, ∀ stored, f stored = (r, .put v)) ∨
        ∃ namespaceName name,
        c.call = .delete namespaceName name ∧
          cacheKey options c.caller namespaceName name = .ok key)
      (h : ∀ cache, step codec options cache c =
        ((f ((base purges c.readings.now cache).entries.get? key)).1,
          { base purges c.readings.now cache with
            entries := (f ((base purges c.readings.now cache).entries.get? key)).2.apply key
              (base purges c.readings.now cache).entries }))
  | lock (tenantId key : String) (htenant : tenantSegment c.caller = .ok tenantId)
      (hkey : OwnKey options tenantId key)
      (f : Option LockEntry → Except SharedException CacheResult × Write LockEntry)
      (h : ∀ cache, step codec options cache c =
        ((f ((base true c.readings.now cache).locks.get? key)).1,
          { base true c.readings.now cache with
            locks := (f ((base true c.readings.now cache).locks.get? key)).2.apply key
              (base true c.readings.now cache).locks }))
  | invalidates (tenantId n namespaceName : String)
      (htenant : tenantSegment c.caller = .ok tenantId) (hn : ColonFree n)
      (hcall : c.call = .invalidateNamespace namespaceName)
      (hnamespace : namespacePrefix options c.caller namespaceName =
        .ok (keyText options.keyPrefix tenantId n ""))
      (h : ∀ cache, step codec options cache c =
        (.ok (.count (cache.entries.entries.countP fun e =>
            startsWith (keyText options.keyPrefix tenantId n "") e.1)),
          { cache with entries := cache.entries.filter fun key _ =>
              !startsWith (keyText options.keyPrefix tenantId n "") key }))

section Behaviours

variable {codec : JsonCodec} {options : CacheOptions} {caller : CacheCaller}
  {readings : CacheReadings} {namespaceName key s : String}

theorem colonFree_of_tenantSegment (h : tenantSegment caller = .ok s) : ColonFree s := by
  unfold tenantSegment at h
  rw [bind_eq_ok_iff] at h
  obtain ⟨context, _, hsegment⟩ := h
  exact (normalizeKeySegment_eq_ok hsegment).2.2.1

theorem ownKey_of_cacheKey (h : cacheKey options caller namespaceName key = .ok s) :
    ∃ tenantId, tenantSegment caller = .ok tenantId ∧ OwnKey options tenantId s := by
  rw [cacheKey_eq_ok_iff] at h
  obtain ⟨t, n, k, ht, hn, _, rfl⟩ := h
  exact ⟨t, ht, colonFree_of_tenantSegment ht, n, k, (normalizeKeySegment_eq_ok hn).2.2.1, rfl⟩

theorem ownKey_of_lockKey (h : lockKey options caller namespaceName key = .ok s) :
    ∃ tenantId, tenantSegment caller = .ok tenantId ∧ OwnKey options tenantId s := by
  obtain ⟨t, n, k, ht, _, _, hfree, rfl⟩ := lockKey_eq_ok h
  exact ⟨t, ht, colonFree_of_tenantSegment ht, "locks." ++ n, k, hfree, rfl⟩

theorem behaviour_getJson : Behaviour codec options
    ⟨caller, readings, .getJson namespaceName key⟩ := by
  cases hkey : cacheKey options caller namespaceName key with
  | error e =>
      refine Behaviour.raises e true fun cache => ?_
      simp only [step, getJson, hkey]
      rfl
  | ok s =>
      obtain ⟨t, ht, hown⟩ := ownKey_of_cacheKey hkey
      refine Behaviour.entry t s ht hown true (fun stored => (got codec stored, .keep)) (.inl rfl)
        fun cache => ?_
      simp only [step, getJson, hkey, base, if_pos]
      cases (cache.purgeExpired readings.now).entries.get? s with
      | none => rfl
      | some entry => rfl

theorem behaviour_setJson (value : JSONValue) (ttlSeconds : Option ℤ) : Behaviour codec options
    ⟨caller, readings, .setJson namespaceName key value ttlSeconds⟩ := by
  cases hkey : cacheKey options caller namespaceName key with
  | error e =>
      refine Behaviour.raises e false fun cache => ?_
      simp only [step, setJson, hkey]
      rfl
  | ok s =>
      obtain ⟨t, ht, hown⟩ := ownKey_of_cacheKey hkey
      cases hvalue : cloneJson codec value with
      | error e =>
          refine Behaviour.raises e false fun cache => ?_
          simp only [step, setJson, hkey, hvalue]
          rfl
      | ok value =>
          cases hexpires : expiresAt options ttlSeconds readings.now with
          | error e =>
              refine Behaviour.raises e false fun cache => ?_
              simp only [step, setJson, hkey, hvalue, hexpires]
              rfl
          | ok expires =>
              refine Behaviour.entry t s ht hown false
                (fun _ => (.ok .done, .put ⟨value, some expires⟩))
                (.inr (.inl ⟨_, _, fun _ => rfl⟩)) fun cache => ?_
              simp only [step, setJson, hkey, hvalue, hexpires]
              rfl

theorem behaviour_delete : Behaviour codec options
    ⟨caller, readings, .delete namespaceName key⟩ := by
  cases hkey : cacheKey options caller namespaceName key with
  | error e =>
      refine Behaviour.raises e false fun cache => ?_
      simp only [step, delete, hkey]
      rfl
  | ok s =>
      obtain ⟨t, ht, hown⟩ := ownKey_of_cacheKey hkey
      refine Behaviour.entry t s ht hown false
        (fun stored => (.ok (.flag stored.isSome), .remove))
        (.inr (.inr ⟨namespaceName, key, rfl, hkey⟩)) fun cache => ?_
      simp only [step, delete, hkey]
      rfl

theorem behaviour_invalidateNamespace : Behaviour codec options
    ⟨caller, readings, .invalidateNamespace namespaceName⟩ := by
  cases hnamespace : namespacePrefix options caller namespaceName with
  | error e =>
      refine Behaviour.raises e false fun cache => ?_
      simp only [step, invalidateNamespace, hnamespace]
      rfl
  | ok s =>
      have hparts := hnamespace
      rw [namespacePrefix_eq_ok_iff] at hparts
      obtain ⟨t, n, ht, hn, rfl⟩ := hparts
      refine Behaviour.invalidates t n namespaceName ht (normalizeKeySegment_eq_ok hn).2.2.1 rfl
        hnamespace fun cache => ?_
      simp only [step, invalidateNamespace, hnamespace]
      rfl

theorem behaviour_increment (amount : ℤ) (ttlSeconds : Option ℤ) : Behaviour codec options
    ⟨caller, readings, .increment namespaceName key amount ttlSeconds⟩ := by
  cases hkey : cacheKey options caller namespaceName key with
  | error e =>
      refine Behaviour.raises e false fun cache => ?_
      simp only [step, increment, hkey]
      rfl
  | ok s =>
      obtain ⟨t, ht, hown⟩ := ownKey_of_cacheKey hkey
      refine Behaviour.entry t s ht hown true (fun stored => counted (do
          let currentValue ← counterValue stored
          let expires ← expiresAt options ttlSeconds readings.writeNow
          return (currentValue + amount, expires))) (.inl rfl) fun cache => ?_
      simp only [step, increment, hkey, base, if_pos]
      cases counterValue ((cache.purgeExpired readings.now).entries.get? s) with
      | error e => rfl
      | ok currentValue =>
          cases expiresAt options ttlSeconds readings.writeNow with
          | error e => rfl
          | ok expires => rfl

theorem behaviour_acquireLock (owner : String) (ttlSeconds : Option ℤ) : Behaviour codec options
    ⟨caller, readings, .acquireLock namespaceName key owner ttlSeconds⟩ := by
  cases hkey : lockKey options caller namespaceName key with
  | error e =>
      refine Behaviour.raises e false fun cache => ?_
      simp only [step, acquireLock, hkey]
      rfl
  | ok s =>
      obtain ⟨t, ht, hown⟩ := ownKey_of_lockKey hkey
      refine Behaviour.lock t s ht hown (fun stored =>
        if stored.isSome = true then (.ok (.flag false), .keep)
        else acquired (do
          let normalizedOwner ← normalizeOwner owner
          let ttl ← positiveTtl ttlSeconds options.lockTtlSeconds
          return ⟨normalizedOwner, readings.writeNow + ttl⟩)) fun cache => ?_
      simp only [step, acquireLock, hkey, base, if_pos]
      by_cases hheld : (cache.purgeExpired readings.now).locks.contains s = true
      · have hsome : ((cache.purgeExpired readings.now).locks.get? s).isSome = true := hheld
        simp only [if_pos hheld, if_pos hsome]
        rfl
      · have hnone : ¬ ((cache.purgeExpired readings.now).locks.get? s).isSome = true := hheld
        simp only [if_neg hheld, if_neg hnone]
        cases normalizeOwner owner with
        | error e => rfl
        | ok normalizedOwner =>
            cases positiveTtl ttlSeconds options.lockTtlSeconds with
            | error e => rfl
            | ok ttl => rfl

theorem behaviour_releaseLock (owner : String) : Behaviour codec options
    ⟨caller, readings, .releaseLock namespaceName key owner⟩ := by
  cases hkey : lockKey options caller namespaceName key with
  | error e =>
      refine Behaviour.raises e false fun cache => ?_
      simp only [step, releaseLock, hkey]
      rfl
  | ok s =>
      obtain ⟨t, ht, hown⟩ := ownKey_of_lockKey hkey
      refine Behaviour.lock t s ht hown (released owner) fun cache => ?_
      simp only [step, releaseLock, released, hkey, base, if_pos]
      cases (cache.purgeExpired readings.now).locks.get? s with
      | none => rfl
      | some lock =>
          cases normalizeOwner owner with
          | error e => rfl
          | ok normalizedOwner =>
              simp only
              split <;> rfl

theorem behaviour (codec : JsonCodec) (options : CacheOptions) (c : CacheInput) :
    Behaviour codec options c := by
  obtain ⟨caller, readings, call⟩ := c
  cases call with
  | getJson namespaceName key => exact behaviour_getJson
  | setJson namespaceName key value ttlSeconds => exact behaviour_setJson value ttlSeconds
  | delete namespaceName key => exact behaviour_delete
  | invalidateNamespace namespaceName => exact behaviour_invalidateNamespace
  | increment namespaceName key amount ttlSeconds => exact behaviour_increment amount ttlSeconds
  | acquireLock namespaceName key owner ttlSeconds => exact behaviour_acquireLock owner ttlSeconds
  | releaseLock namespaceName key owner => exact behaviour_releaseLock owner

end Behaviours

end InMemoryTenantCache

end MediaCenter.Shared
