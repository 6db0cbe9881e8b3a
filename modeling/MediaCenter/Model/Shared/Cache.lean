import MediaCenter.Library.Dict
import MediaCenter.Model.Shared.Json
import MediaCenter.Model.Shared.Tenant

/-!
# The tenant cache (`libs/shared/cache.py`)

A key joins its segments with colons, so no segment may hold one: neither a namespace nor a
tenant id, although `TenantId` allows it.  The in-memory cache keeps its entries and its locks
apart, and removes what has expired when some operations begin, whoever calls them.
-/

set_option autoImplicit false

namespace MediaCenter.Shared

open MediaCenter.Library

def defaultCacheKeyPrefix : String := "nmc"

/-- `_normalize_key_segment`. -/
def normalizeKeySegment (value label : String) : Except SharedException String :=
  let normalized := Text.strip value
  if normalized = "" then .error (.valueError (label ++ " должен быть непустой строкой"))
  else if (normalized.toList.contains ':' || normalized.toList.any Text.isSpace) = true then
    .error (.valueError (label ++ " не должен содержать пробелы или ':'"))
  else .ok normalized

/-- `_tenant_cache_prefix`. -/
def tenantCachePrefix (context : TenantContext) (namespaceName keyPrefix : String) :
    Except SharedException String := do
  let normalizedPrefix ← normalizeKeySegment keyPrefix "prefix"
  let normalizedTenantId ← normalizeKeySegment context.tenantId "tenant_id"
  return normalizedPrefix ++ ":tenant:" ++ normalizedTenantId ++ ":" ++ namespaceName ++ ":"

/-- `build_tenant_cache_key`. -/
def buildTenantCacheKey (namespaceName key : String) (context : TenantContext)
    (keyPrefix : String) : Except SharedException String := do
  let normalizedNamespace ← normalizeKeySegment namespaceName "namespace"
  let normalizedKey ← normalizeKeySegment key "key"
  let cachePrefix ← tenantCachePrefix context normalizedNamespace keyPrefix
  return cachePrefix ++ normalizedKey

/-- INTERNAL: of the tokens, a key segment is one without a colon. -/
theorem normalizeKeySegment_of_tokenPattern {s : String} (h : tokenPattern s = true)
    (label : String) : normalizeKeySegment s label =
      if s.toList.contains ':' = true then
        .error (.valueError (label ++ " не должен содержать пробелы или ':'"))
      else .ok s := by
  have hvisible := visible_of_tokenPattern h
  have hempty : s ≠ "" := by
    rintro rfl
    revert h
    decide
  have hspace : s.toList.any Text.isSpace = false := by
    rw [List.any_eq_false]
    intro c hc
    rw [(hvisible c hc).isSpace]
    decide
  unfold normalizeKeySegment
  rw [Text.strip_of_forall_visible hvisible]
  simp only [if_neg hempty, hspace, Bool.or_false]

/-! ## Callers -/

/-- The context a call is given, and the one that is current where it is made. -/
structure CacheCaller where
  context : Option TenantContext
  current : Option TenantContext

/-- `_resolve_context`. -/
def CacheCaller.resolve (caller : CacheCaller) : Except SharedException TenantContext :=
  match caller.context with
  | some context => .ok context
  | none =>
      match caller.current with
      | some context => .ok context
      | none => .error (.tenantIsolation "Tenant context отсутствует" none)

/-- What both caches are configured with. -/
structure CacheOptions where
  keyPrefix : String
  defaultTtlSeconds : ℤ
  lockTtlSeconds : ℤ
  keyPrefix_normal : normalizeKeySegment keyPrefix "key_prefix" = .ok keyPrefix
  defaultTtlSeconds_pos : 0 < defaultTtlSeconds
  lockTtlSeconds_pos : 0 < lockTtlSeconds

/-- `build_tenant_cache_key` under the prefix of a cache. -/
def cacheKey (options : CacheOptions) (caller : CacheCaller) (namespaceName key : String) :
    Except SharedException String := do
  let context ← caller.resolve
  buildTenantCacheKey namespaceName key context options.keyPrefix

/-- `_build_tenant_lock_key`. -/
def lockKey (options : CacheOptions) (caller : CacheCaller) (namespaceName key : String) :
    Except SharedException String := do
  let normalizedNamespace ← normalizeKeySegment namespaceName "namespace"
  cacheKey options caller ("locks." ++ normalizedNamespace) key

/-- The start of every key of a namespace, as `invalidate_namespace` builds it. -/
def namespacePrefix (options : CacheOptions) (caller : CacheCaller) (namespaceName : String) :
    Except SharedException String := do
  let context ← caller.resolve
  let normalizedNamespace ← normalizeKeySegment namespaceName "namespace"
  tenantCachePrefix context normalizedNamespace options.keyPrefix

/-- `_normalize_owner`. -/
def normalizeOwner (owner : String) : Except SharedException String :=
  let normalized := Text.strip owner
  if normalized = "" then .error (.valueError "owner должен быть непустой строкой")
  else .ok normalized

/-- `_positive_ttl`. -/
def positiveTtl (ttlSeconds : Option ℤ) (defaultTtlSeconds : ℤ) : Except SharedException ℤ :=
  let ttl := ttlSeconds.getD defaultTtlSeconds
  if ttl ≤ 0 then .error (.valueError "ttl_seconds должен быть положительным") else .ok ttl

/-- `_clone_json`. -/
def cloneJson (codec : JsonCodec) (value : JSONValue) : Except SharedException JSONValue := do
  let text ← codec.dumps value
  codec.loads text

/-! ## The in-memory cache -/

/-- `_CacheEntry`. -/
structure CacheEntry where
  value : JSONValue
  expiresAt : Option ℚ

/-- `_LockEntry`. -/
structure LockEntry where
  owner : String
  expiresAt : ℚ

def CacheEntry.expired (entry : CacheEntry) (now : ℚ) : Bool :=
  entry.expiresAt.any fun expiresAt => decide (expiresAt ≤ now)

def LockEntry.expired (lock : LockEntry) (now : ℚ) : Bool := decide (lock.expiresAt ≤ now)

structure InMemoryTenantCache where
  entries : Dict String CacheEntry
  locks : Dict String LockEntry

/-- The readings of the clock by one call, in order: a purge is the first to read it. -/
structure CacheReadings where
  now : ℚ
  writeNow : ℚ

namespace InMemoryTenantCache

def empty : InMemoryTenantCache := ⟨.empty, .empty⟩

/-- `_purge_expired`. -/
def purgeExpired (now : ℚ) (cache : InMemoryTenantCache) : InMemoryTenantCache where
  entries := cache.entries.filter fun _ entry => !entry.expired now
  locks := cache.locks.filter fun _ lock => !lock.expired now

/-- `_expires_at`. -/
def expiresAt (options : CacheOptions) (ttlSeconds : Option ℤ) (now : ℚ) :
    Except SharedException ℚ := do
  let ttl ← positiveTtl ttlSeconds options.defaultTtlSeconds
  return now + ttl

/-- `get_json`; a missing value is the `None` that JSON `null` is read as. -/
def getJson (codec : JsonCodec) (options : CacheOptions) (readings : CacheReadings)
    (caller : CacheCaller) (namespaceName key : String) (cache : InMemoryTenantCache) :
    Except SharedException JSONValue × InMemoryTenantCache :=
  let purged := cache.purgeExpired readings.now
  match cacheKey options caller namespaceName key with
  | .error e => (.error e, purged)
  | .ok cacheKey =>
      match purged.entries.get? cacheKey with
      | none => (.ok .null, purged)
      | some entry => (cloneJson codec entry.value, purged)

/-- `set_json`. -/
def setJson (codec : JsonCodec) (options : CacheOptions) (readings : CacheReadings)
    (caller : CacheCaller) (namespaceName key : String) (value : JSONValue)
    (ttlSeconds : Option ℤ) (cache : InMemoryTenantCache) :
    Except SharedException Unit × InMemoryTenantCache :=
  let written := do
    let cacheKey ← cacheKey options caller namespaceName key
    let value ← cloneJson codec value
    let expires ← expiresAt options ttlSeconds readings.now
    return { cache with entries := cache.entries.set cacheKey ⟨value, some expires⟩ }
  match written with
  | .error e => (.error e, cache)
  | .ok cache' => (.ok (), cache')

/-- `delete`. -/
def delete (options : CacheOptions) (caller : CacheCaller) (namespaceName key : String)
    (cache : InMemoryTenantCache) : Except SharedException Bool × InMemoryTenantCache :=
  match cacheKey options caller namespaceName key with
  | .error e => (.error e, cache)
  | .ok cacheKey =>
      (.ok (cache.entries.contains cacheKey), { cache with entries := cache.entries.erase cacheKey })

/-- `cache_key.startswith(prefix)`. -/
def startsWith (start text : String) : Bool := start.toList.isPrefixOf text.toList

/-- `invalidate_namespace`. -/
def invalidateNamespace (options : CacheOptions) (caller : CacheCaller) (namespaceName : String)
    (cache : InMemoryTenantCache) : Except SharedException ℕ × InMemoryTenantCache :=
  match namespacePrefix options caller namespaceName with
  | .error e => (.error e, cache)
  | .ok start =>
      (.ok (cache.entries.entries.countP fun e => startsWith start e.1),
        { cache with entries := cache.entries.filter fun cacheKey _ => !startsWith start cacheKey })

/-- The current value of a counter. -/
def counterValue : Option CacheEntry → Except SharedException ℤ
  | none => .ok 0
  | some entry =>
      match entry.value with
      | .int n => .ok n
      | _ => .error (.typeError "cache counter должен хранить целое число")

/-- `increment`. -/
def increment (options : CacheOptions) (readings : CacheReadings) (caller : CacheCaller)
    (namespaceName key : String) (amount : ℤ) (ttlSeconds : Option ℤ)
    (cache : InMemoryTenantCache) : Except SharedException ℤ × InMemoryTenantCache :=
  match cacheKey options caller namespaceName key with
  | .error e => (.error e, cache)
  | .ok cacheKey =>
      let purged := cache.purgeExpired readings.now
      let incremented := do
        let currentValue ← counterValue (purged.entries.get? cacheKey)
        let expires ← expiresAt options ttlSeconds readings.writeNow
        return (currentValue + amount, expires)
      match incremented with
      | .error e => (.error e, purged)
      | .ok (nextValue, expires) => (.ok nextValue,
          { purged with entries := purged.entries.set cacheKey ⟨.int nextValue, some expires⟩ })

/-- `acquire_lock`. -/
def acquireLock (options : CacheOptions) (readings : CacheReadings) (caller : CacheCaller)
    (namespaceName key owner : String) (ttlSeconds : Option ℤ) (cache : InMemoryTenantCache) :
    Except SharedException Bool × InMemoryTenantCache :=
  match lockKey options caller namespaceName key with
  | .error e => (.error e, cache)
  | .ok lockKey =>
      let purged := cache.purgeExpired readings.now
      if purged.locks.contains lockKey = true then (.ok false, purged)
      else
        let lock : Except SharedException LockEntry := do
          let normalizedOwner ← normalizeOwner owner
          let ttl ← positiveTtl ttlSeconds options.lockTtlSeconds
          return ⟨normalizedOwner, readings.writeNow + ttl⟩
        match lock with
        | .error e => (.error e, purged)
        | .ok lock => (.ok true, { purged with locks := purged.locks.set lockKey lock })

/-- `release_lock`; the owner is looked at only if there is a lock. -/
def releaseLock (options : CacheOptions) (readings : CacheReadings) (caller : CacheCaller)
    (namespaceName key owner : String) (cache : InMemoryTenantCache) :
    Except SharedException Bool × InMemoryTenantCache :=
  match lockKey options caller namespaceName key with
  | .error e => (.error e, cache)
  | .ok lockKey =>
      let purged := cache.purgeExpired readings.now
      match purged.locks.get? lockKey with
      | none => (.ok false, purged)
      | some lock =>
          match normalizeOwner owner with
          | .error e => (.error e, purged)
          | .ok normalizedOwner =>
              if lock.owner ≠ normalizedOwner then (.ok false, purged)
              else (.ok true, { purged with locks := purged.locks.erase lockKey })

end InMemoryTenantCache

end MediaCenter.Shared
