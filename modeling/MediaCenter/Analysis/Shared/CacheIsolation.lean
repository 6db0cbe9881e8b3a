import Mathlib.Algebra.Order.Ring.Rat
import Mathlib.Tactic.NormNum
import MediaCenter.Analysis.Shared.CacheCalls
import MediaCenter.Library.Unwinding

/-!
# The isolation of tenants in the in-memory cache

The calls of other tenants touch no key of a tenant, but they remove what has expired.  A
tenant notices only where it deletes or invalidates without removing expired entries itself.
-/

set_option autoImplicit false

namespace MediaCenter.Shared

open MediaCenter.Library

namespace InMemoryTenantCache

/-! ## What a tenant sees -/

/-- To a tenant two caches are alike when the first may lack only what has expired. -/
def Alike (options : CacheOptions) (tenantId : String) (now : ℚ)
    (a b : InMemoryTenantCache) : Prop :=
  ∀ key, OwnKey options tenantId key →
    Behind CacheEntry.expired now (a.entries.get? key) (b.entries.get? key) ∧
      Behind LockEntry.expired now (a.locks.get? key) (b.locks.get? key)

def ownedBy (tenantId : String) (c : CacheInput) : Bool :=
  match tenantSegment c.caller with
  | .ok t => decide (t = tenantId)
  | .error _ => false

/-- A deletion or an invalidation addresses no entry that has expired. -/
def Unexpired (options : CacheOptions) (cache : InMemoryTenantCache) (c : CacheInput) : Prop :=
  match c.call with
  | .delete namespaceName key => ∀ s, cacheKey options c.caller namespaceName key = .ok s →
      ∀ entry, cache.entries.get? s = some entry → entry.expired c.readings.now = false
  | .invalidateNamespace namespaceName =>
      ∀ start, namespacePrefix options c.caller namespaceName = .ok start →
        ∀ s entry, cache.entries.get? s = some entry → startsWith start s = true →
          entry.expired c.readings.now = false
  | _ => True

theorem ownedBy_iff {tenantId : String} {c : CacheInput} :
    ownedBy tenantId c = true ↔ tenantSegment c.caller = .ok tenantId := by
  unfold ownedBy
  cases tenantSegment c.caller with
  | error e => simp
  | ok t => simp

theorem ownKey_unique {options : CacheOptions} {t t' key : String} (h : OwnKey options t key)
    (h' : OwnKey options t' key) : t = t' := by
  obtain ⟨ht, n, k, hn, rfl⟩ := h
  obtain ⟨ht', n', k', hn', heq⟩ := h'
  exact (keyText_injective (colonFree_keyPrefix options) ht hn (colonFree_keyPrefix options) ht'
    hn' heq).2.1

/-- INTERNAL: a key that starts with the text of a namespace is a key of that tenant. -/
theorem ownKey_of_startsWith {options : CacheOptions} {t n key : String} (ht : ColonFree t)
    (hn : ColonFree n) (h : startsWith (keyText options.keyPrefix t n "") key = true) :
    OwnKey options t key := by
  unfold startsWith at h
  rw [List.isPrefixOf_iff_prefix] at h
  obtain ⟨rest, hrest⟩ := h
  refine ⟨ht, n, String.ofList rest, hn, ?_⟩
  apply String.toList_inj.mp
  have hempty : "".toList = [] := by decide
  rw [← hrest, toList_keyText, toList_keyText, String.toList_ofList]
  simp only [hempty, String.toList_ofList, List.append_assoc, List.cons_append, List.nil_append]

theorem not_startsWith_of_ownKey {options : CacheOptions} {t t' n key : String}
    (ht : ColonFree t) (hn : ColonFree n) (hne : t' ≠ t) (hkey : OwnKey options t' key) :
    startsWith (keyText options.keyPrefix t n "") key = false := by
  rw [Bool.eq_false_iff]
  intro hstart
  exact hne (ownKey_unique hkey (ownKey_of_startsWith ht hn hstart))

section Stored

variable {options : CacheOptions} {now : ℚ} {cache : InMemoryTenantCache} {key : String}

theorem get?_entries_base (purges : Bool) : (base purges now cache).entries.get? key =
    if purges = true then live CacheEntry.expired now (cache.entries.get? key)
    else cache.entries.get? key := by
  unfold base
  split
  · exact Dict.get?_filter_expired _ _ _
  · rfl

theorem get?_locks_base (purges : Bool) : (base purges now cache).locks.get? key =
    if purges = true then live LockEntry.expired now (cache.locks.get? key)
    else cache.locks.get? key := by
  unfold base
  split
  · exact Dict.get?_filter_expired _ _ _
  · rfl

theorem get?_apply_of_ne {α : Type} {d : Dict String α} {s : String} (h : key ≠ s) (w : Write α) :
    (w.apply s d).get? key = d.get? key := by
  cases w with
  | keep => rfl
  | remove =>
      show (d.erase s).get? key = _
      rw [Dict.get?_erase, if_neg h]
  | put v => exact Dict.get?_set_of_ne d h v

theorem get?_apply_self {α : Type} {d d' : Dict String α} (h : d.get? key = d'.get? key)
    (w : Write α) : (w.apply key d).get? key = (w.apply key d').get? key := by
  cases w with
  | keep => exact h
  | remove =>
      show (d.erase key).get? key = (d'.erase key).get? key
      rw [Dict.get?_erase, Dict.get?_erase]
      simp
  | put v =>
      show (d.set key v).get? key = (d'.set key v).get? key
      rw [Dict.get?_set_self, Dict.get?_set_self]

theorem filter_true {α : Type} (o : Option α) : o.filter (fun _ => true) = o := by
  cases o with
  | none => rfl
  | some x => rfl

theorem CacheEntry.expired_mono (entry : CacheEntry) (m n : ℚ) (hle : m ≤ n)
    (h : entry.expired m = true) : entry.expired n = true := by
  unfold MediaCenter.Shared.CacheEntry.expired at *
  rw [Option.any_eq_true] at *
  obtain ⟨expiresAt, hsome, hexpired⟩ := h
  rw [decide_eq_true_eq] at hexpired
  exact ⟨expiresAt, hsome, decide_eq_true (hexpired.trans hle)⟩

theorem LockEntry.expired_mono (lock : LockEntry) (m n : ℚ) (hle : m ≤ n)
    (h : lock.expired m = true) : lock.expired n = true := by
  unfold MediaCenter.Shared.LockEntry.expired at *
  rw [decide_eq_true_eq] at *
  exact h.trans hle

end Stored

/-! ## Unwinding -/

section Unwinding

variable {codec : JsonCodec} {options : CacheOptions} {tenantId : String} {now : ℚ}
  {a b : InMemoryTenantCache} {c : CacheInput}

/-- INTERNAL: a cache that has been purged on one side only is still alike. -/
theorem Alike.base_left (h : Alike options tenantId now a b) (purges : Bool) :
    Alike options tenantId now (base purges now a) b := by
  intro key hkey
  rw [get?_entries_base, get?_locks_base]
  obtain ⟨hentry, hlock⟩ := h key hkey
  cases purges with
  | false => exact ⟨hentry, hlock⟩
  | true => exact ⟨hentry.live_left, hlock.live_left⟩

theorem Alike.base (h : Alike options tenantId now a b) (purges : Bool) :
    Alike options tenantId now (InMemoryTenantCache.base purges now a)
      (InMemoryTenantCache.base purges now b) := by
  intro key hkey
  rw [get?_entries_base, get?_locks_base, get?_entries_base, get?_locks_base]
  obtain ⟨hentry, hlock⟩ := h key hkey
  cases purges with
  | false => exact ⟨hentry, hlock⟩
  | true => exact ⟨.inl hentry.live_eq, .inl hlock.live_eq⟩

/-- INTERNAL: a purge makes the lock of a key the same on both sides. -/
theorem Alike.lock_eq (h : Alike options tenantId now a b) {key : String}
    (hkey : OwnKey options tenantId key) :
    (InMemoryTenantCache.base true now a).locks.get? key =
      (InMemoryTenantCache.base true now b).locks.get? key := by
  rw [get?_locks_base, get?_locks_base]
  exact (h key hkey).2.live_eq

/-- INTERNAL: a call that is not the tenant's leaves its keys, expired ones apart. -/
theorem Alike.step_other (h : Alike options tenantId c.readings.now a b)
    (hother : ownedBy tenantId c = false) :
    Alike options tenantId c.readings.now (step codec options a c).2 b := by
  have hne : ∀ t, tenantSegment c.caller = .ok t → tenantId ≠ t := by
    rintro t ht rfl
    rw [ownedBy_iff.mpr ht] at hother
    cases hother
  cases behaviour codec options c with
  | raises e purges hstep =>
      rw [hstep]
      exact h.base_left purges
  | entry t s ht hs purges f hreads hstep =>
      rw [hstep]
      intro key hkey
      have hkeyne : key ≠ s := by
        rintro rfl
        exact hne t ht (ownKey_unique hkey hs)
      simp only [get?_apply_of_ne hkeyne]
      exact h.base_left purges key hkey
  | lock t s ht hs f hstep =>
      rw [hstep]
      intro key hkey
      have hkeyne : key ≠ s := by
        rintro rfl
        exact hne t ht (ownKey_unique hkey hs)
      simp only [get?_apply_of_ne hkeyne]
      exact h.base_left true key hkey
  | invalidates t n namespaceName ht hn hcall hnamespace hstep =>
      rw [hstep]
      intro key hkey
      have hstart := not_startsWith_of_ownKey (colonFree_of_tenantSegment ht) hn (hne t ht) hkey
      simp only [Dict.get?_filter, hstart, Bool.not_false, filter_true]
      exact h key hkey

/-- INTERNAL: what a call of the tenant works on is the same on both sides. -/
theorem Alike.entry_eq (h : Alike options tenantId c.readings.now a b)
    (hfit : Unexpired options b c) {key : String} (hkey : OwnKey options tenantId key)
    {purges : Bool} (hreads : purges = true ∨ ∃ namespaceName name,
      c.call = .delete namespaceName name ∧
        cacheKey options c.caller namespaceName name = .ok key) :
    (InMemoryTenantCache.base purges c.readings.now a).entries.get? key =
      (InMemoryTenantCache.base purges c.readings.now b).entries.get? key := by
  rw [get?_entries_base, get?_entries_base]
  rcases hreads with rfl | ⟨namespaceName, name, hcall, hname⟩
  · exact (h key hkey).1.live_eq
  · have heq : a.entries.get? key = b.entries.get? key := by
      apply (h key hkey).1.eq_of_not_expired
      unfold Unexpired at hfit
      rw [hcall] at hfit
      exact hfit key hname
    rw [heq]

theorem Alike.get?_eq_of_startsWith (h : Alike options tenantId c.readings.now a b)
    (hfit : Unexpired options b c) {n namespaceName : String} (ht : ColonFree tenantId)
    (hn : ColonFree n) (hcall : c.call = .invalidateNamespace namespaceName)
    (hnamespace : namespacePrefix options c.caller namespaceName =
      .ok (keyText options.keyPrefix tenantId n "")) (key : String)
    (hstart : startsWith (keyText options.keyPrefix tenantId n "") key = true) :
    a.entries.get? key = b.entries.get? key := by
  apply (h key (ownKey_of_startsWith ht hn hstart)).1.eq_of_not_expired
  intro entry hentry
  unfold Unexpired at hfit
  rw [hcall] at hfit
  exact hfit _ hnamespace key entry hentry hstart

/-- INTERNAL: the unwinding conditions; the times are those of the calls. -/
theorem unwinds_tenant (codec : JsonCodec) (options : CacheOptions) (tenantId : String) :
    Unwinds (step codec options) (fun c => c.readings.now) (ownedBy tenantId)
      (Unexpired options) (Alike options tenantId) := by
  constructor
  · intro m n a b h hle key hkey
    exact ⟨(h key hkey).1.wait CacheEntry.expired_mono hle,
      (h key hkey).2.wait LockEntry.expired_mono hle⟩
  · intro a b c hother h
    exact h.step_other hother
  · intro a b c hown hfit h
    rw [ownedBy_iff] at hown
    cases behaviour codec options c with
    | raises e purges hstep => rw [hstep, hstep]
    | entry t s ht hs purges f hreads hstep =>
        rw [hown, Except.ok.injEq] at ht
        subst ht
        rw [hstep, hstep]
        rcases hreads with hpurges | hblind | hdelete
        · rw [h.entry_eq hfit hs (.inl hpurges)]
        · obtain ⟨r, v, hput⟩ := hblind
          rw [hput, hput]
        · rw [h.entry_eq hfit hs (.inr hdelete)]
    | lock t s ht hs f hstep =>
        rw [hown, Except.ok.injEq] at ht
        subst ht
        rw [hstep, hstep, h.lock_eq hs]
    | invalidates t n namespaceName ht hn hcall hnamespace hstep =>
        rw [hown, Except.ok.injEq] at ht
        subst ht
        rw [hstep, hstep, Dict.countP_eq_of_get? (startsWith (keyText options.keyPrefix tenantId n ""))
          (h.get?_eq_of_startsWith hfit (colonFree_of_tenantSegment hown) hn hcall hnamespace)]
  · intro a b c hown hfit h
    rw [ownedBy_iff] at hown
    cases behaviour codec options c with
    | raises e purges hstep =>
        rw [hstep, hstep]
        exact h.base purges
    | entry t s ht hs purges f hreads hstep =>
        rw [hown, Except.ok.injEq] at ht
        subst ht
        rw [hstep, hstep]
        intro key hkey
        refine ⟨?_, (h.base purges key hkey).2⟩
        by_cases hkeys : key = s
        · subst hkeys
          rcases hreads with hpurges | hblind | hdelete
          · have heq := h.entry_eq hfit hkey (.inl hpurges)
            rw [heq]
            exact .inl (get?_apply_self heq _)
          · obtain ⟨r, v, hput⟩ := hblind
            rw [hput, hput]
            refine .inl ?_
            show (Dict.set _ key v).get? key = (Dict.set _ key v).get? key
            rw [Dict.get?_set_self, Dict.get?_set_self]
          · have heq := h.entry_eq hfit hkey (Or.inr hdelete : purges = true ∨ _)
            rw [heq]
            exact .inl (get?_apply_self heq _)
        · simp only [get?_apply_of_ne hkeys]
          exact (h.base purges key hkey).1
    | lock t s ht hs f hstep =>
        rw [hown, Except.ok.injEq] at ht
        subst ht
        rw [hstep, hstep, h.lock_eq hs]
        intro key hkey
        refine ⟨(h.base true key hkey).1, ?_⟩
        by_cases hkeys : key = s
        · subst hkeys
          exact .inl (get?_apply_self (h.lock_eq hkey) _)
        · simp only [get?_apply_of_ne hkeys]
          exact (h.base true key hkey).2
    | invalidates t n namespaceName ht hn hcall hnamespace hstep =>
        rw [hown, Except.ok.injEq] at ht
        subst ht
        rw [hstep, hstep]
        intro key hkey
        refine ⟨?_, (h key hkey).2⟩
        simp only [Dict.get?_filter]
        cases hstart : startsWith (keyText options.keyPrefix tenantId n "") key with
        | true =>
            have heq := h.get?_eq_of_startsWith hfit (colonFree_of_tenantSegment hown) hn hcall
              hnamespace key hstart
            rw [heq]
            exact Behind.refl _ _ _
        | false =>
            simp only [Bool.not_false, filter_true]
            exact (h key hkey).1

end Unwinding

/-! ## Isolation -/

/-- `calls` are the calls of the tenant and those of others, at times that do not decrease; the
tenant gets the answers it gets alone, and finds what it would find alone. -/
def CallsIsolated (codec : JsonCodec) (options : CacheOptions) (tenantId : String)
    (mine : List CacheInput) : Prop :=
  ∀ calls : List CacheInput, (calls.Pairwise fun c d => c.readings.now ≤ d.readings.now) →
    calls.filter (ownedBy tenantId) = mine →
    (answers (step codec options) empty calls).filter (fun p => ownedBy tenantId p.1) =
        answers (step codec options) empty mine ∧
      ∀ now, (∀ c ∈ calls, c.readings.now ≤ now) → ∀ key, OwnKey options tenantId key →
        live CacheEntry.expired now ((after (step codec options) empty calls).entries.get? key) =
            live CacheEntry.expired now ((after (step codec options) empty mine).entries.get? key) ∧
          live LockEntry.expired now ((after (step codec options) empty calls).locks.get? key) =
            live LockEntry.expired now ((after (step codec options) empty mine).locks.get? key)

/-- The keys of calls are the same only if their normal segments are. -/
def KeysInjective : Prop :=
  ∀ (n n' k k' p p' : String) (context context' : TenantContext) (s : String),
    buildTenantCacheKey n k context p = .ok s → buildTenantCacheKey n' k' context' p' = .ok s →
    normalizeKeySegment p "prefix" = normalizeKeySegment p' "prefix" ∧
      normalizeKeySegment context.tenantId "tenant_id" =
        normalizeKeySegment context'.tenantId "tenant_id" ∧
      normalizeKeySegment n "namespace" = normalizeKeySegment n' "namespace" ∧
      normalizeKeySegment k "key" = normalizeKeySegment k' "key"

/-- An invalidation removes the entries of its tenant and namespace, counts them, and leaves
everything else. -/
def InvalidatesExactly (options : CacheOptions) : Prop :=
  ∀ (caller : CacheCaller) (namespaceName : String) (cache cache' : InMemoryTenantCache) (n : ℕ),
    invalidateNamespace options caller namespaceName cache = (.ok n, cache') →
    ∃ t ns, tenantSegment caller = .ok t ∧ normalizeKeySegment namespaceName "namespace" = .ok ns ∧
      cache'.locks = cache.locks ∧ cache'.entries.entries.length + n = cache.entries.entries.length ∧
      ∀ t' ns' k, ColonFree t' → ColonFree ns' →
        cache'.entries.get? (keyText options.keyPrefix t' ns' k) =
          if t' = t ∧ ns' = ns then none
          else cache.entries.get? (keyText options.keyPrefix t' ns' k)

structure TenantIsolation (codec : JsonCodec) (options : CacheOptions) (tenantId : String)
    (mine : List CacheInput) : Prop where
  keys_injective : KeysInjective
  calls_isolated : CallsIsolated codec options tenantId mine
  invalidates_exactly : InvalidatesExactly options

theorem buildTenantCacheKey_eq_ok {n k p s : String} {context : TenantContext}
    (h : buildTenantCacheKey n k context p = .ok s) :
    ∃ p' t n' k', normalizeKeySegment p "prefix" = .ok p' ∧
      normalizeKeySegment context.tenantId "tenant_id" = .ok t ∧
      normalizeKeySegment n "namespace" = .ok n' ∧ normalizeKeySegment k "key" = .ok k' ∧
      s = keyText p' t n' k' := by
  unfold buildTenantCacheKey tenantCachePrefix at h
  simp only [bind_eq_ok_iff] at h
  obtain ⟨n', hn, k', hk, start, ⟨p', hp, t, ht, hstart⟩, hpure⟩ := h
  cases hstart
  cases hpure
  exact ⟨p', t, n', k', hp, ht, hn, hk, rfl⟩

theorem keysInjective : KeysInjective := by
  intro n n' k k' p p' context context' s h h'
  obtain ⟨q, t, m, l, hq, ht, hm, hl, rfl⟩ := buildTenantCacheKey_eq_ok h
  obtain ⟨q', t', m', l', hq', ht', hm', hl', heq⟩ := buildTenantCacheKey_eq_ok h'
  have hfree : ∀ {value label s : String}, normalizeKeySegment value label = .ok s → ColonFree s :=
    fun h => (normalizeKeySegment_eq_ok h).2.2.1
  obtain ⟨rfl, rfl, rfl, rfl⟩ :=
    keyText_injective (hfree hq) (hfree ht) (hfree hm) (hfree hq') (hfree ht') (hfree hm') heq
  rw [hq, hq', ht, ht', hm, hm', hl, hl']
  exact ⟨rfl, rfl, rfl, rfl⟩

theorem invalidatesExactly (options : CacheOptions) : InvalidatesExactly options := by
  intro caller namespaceName cache cache' n h
  unfold invalidateNamespace at h
  cases hnamespace : namespacePrefix options caller namespaceName with
  | error e =>
      rw [hnamespace] at h
      cases h
  | ok start =>
      rw [hnamespace] at h
      rw [namespacePrefix_eq_ok_iff] at hnamespace
      obtain ⟨t, ns, ht, hns, rfl⟩ := hnamespace
      cases h
      have hfree := colonFree_of_tenantSegment ht
      have hnsfree := (normalizeKeySegment_eq_ok hns).2.2.1
      refine ⟨t, ns, ht, hns, rfl, ?_, ?_⟩
      · have hsplit := List.length_eq_countP_add_countP
          (fun e : String × CacheEntry => startsWith (keyText options.keyPrefix t ns "") e.1)
          (l := cache.entries.entries)
        simp only [Bool.not_eq_true, Bool.decide_eq_false] at hsplit
        show (cache.entries.entries.filter _).length + _ = _
        rw [← List.countP_eq_length_filter, Nat.add_comm]
        exact hsplit.symm
      · intro t' ns' k ht' hns'
        have hstart := startsWith_keyText_iff (colonFree_keyPrefix options) hfree hnsfree ht' hns' k
        rw [Dict.get?_filter]
        by_cases heq : t' = t ∧ ns' = ns
        · rw [if_pos heq, hstart.mpr heq, Option.filter_eq_none_iff]
          intro entry _ hnot
          cases hnot
        · rw [if_neg heq, Bool.eq_false_iff.mpr fun hstarts => heq (hstart.mp hstarts)]
          exact filter_true _

theorem callsIsolated_of_unexpired {codec : JsonCodec} {options : CacheOptions} {tenantId : String}
    {mine : List CacheInput}
    (hfit : EachMeets (step codec options) (Unexpired options) empty mine) :
    CallsIsolated codec options tenantId mine := by
  intro calls hclock hmine
  subst hmine
  cases calls with
  | nil => exact ⟨rfl, fun now _ key _ => ⟨rfl, rfl⟩⟩
  | cons c calls =>
      have hfirst : ∀ d ∈ c :: calls, c.readings.now ≤ d.readings.now := by
        intro d hd
        rw [List.pairwise_cons] at hclock
        rcases List.mem_cons.mp hd with rfl | hd
        · exact le_refl _
        · exact hclock.1 d hd
      have hstart : Alike options tenantId c.readings.now empty empty := by
        intro key _
        exact ⟨Behind.refl _ _ _, Behind.refl _ _ _⟩
      have hunwinds := unwinds_tenant codec options tenantId
      refine ⟨hunwinds.answers_filter hclock hfirst hstart hfit, fun now hnow key hkey => ?_⟩
      have halike := hunwinds.after_filter hclock hfirst hstart hfit
        (hnow c List.mem_cons_self) hnow key hkey
      exact ⟨halike.1.live_eq, halike.2.live_eq⟩

/-- A reading call of another tenant. -/
def probe (tenantId : String) (now : ℚ) : CacheInput where
  caller := ⟨some ⟨if tenantId = "a" then "b" else "a", none, [], none⟩, none⟩
  readings := ⟨now, now⟩
  call := .getJson "feed" "latest"

theorem ownedBy_probe (tenantId : String) (now : ℚ) : ownedBy tenantId (probe tenantId now) = false := by
  have ha : normalizeKeySegment "a" "tenant_id" = .ok "a" := by decide
  have hb : normalizeKeySegment "b" "tenant_id" = .ok "b" := by decide
  rw [← Bool.not_eq_true, ownedBy_iff]
  unfold probe
  split
  · rename_i heq
    show normalizeKeySegment "b" "tenant_id" ≠ _
    rw [hb, heq]
    decide
  · rename_i hne
    show normalizeKeySegment "a" "tenant_id" ≠ _
    rw [ha]
    intro h
    cases h
    exact hne rfl

/-- INTERNAL: reading removes what has expired, whatever is read. -/
theorem step_probe (codec : JsonCodec) (options : CacheOptions) (tenantId : String) (now : ℚ)
    (cache : InMemoryTenantCache) :
    (step codec options cache (probe tenantId now)).2 = cache.purgeExpired now := by
  show (answered _ (getJson codec options ⟨now, now⟩ _ _ _ cache)).2 = _
  unfold answered getJson
  simp only
  split
  · rfl
  · split
    · rfl
    · rfl

/-- INTERNAL: what is filtered away is not counted. -/
theorem countP_filter_lt {α : Type} {l : List α} {p q : α → Bool} {x : α} (hx : x ∈ l)
    (hp : p x = true) (hq : q x = false) : (l.filter q).countP p < l.countP p := by
  obtain ⟨before, later, rfl⟩ := List.append_of_mem hx
  have hbefore : (before.filter q).countP p ≤ before.countP p := List.filter_sublist.countP_le
  have hlater : (later.filter q).countP p ≤ later.countP p := List.filter_sublist.countP_le
  rw [List.filter_append, List.filter_cons_of_neg (by simp [hq]), List.countP_append,
    List.countP_append, List.countP_cons_of_pos hp]
  omega

/-- INTERNAL: an expired entry is counted by the call that removes it, unless it is gone. -/
theorem answer_ne_of_not_unexpired {codec : JsonCodec} {options : CacheOptions} {c : CacheInput}
    {cache : InMemoryTenantCache} (h : ¬ Unexpired options cache c) :
    (step codec options (cache.purgeExpired c.readings.now) c).1 ≠ (step codec options cache c).1 := by
  obtain ⟨caller, readings, call⟩ := c
  unfold Unexpired at h
  cases call with
  | getJson namespaceName key => exact absurd trivial h
  | setJson namespaceName key value ttlSeconds => exact absurd trivial h
  | increment namespaceName key amount ttlSeconds => exact absurd trivial h
  | acquireLock namespaceName key owner ttlSeconds => exact absurd trivial h
  | releaseLock namespaceName key owner => exact absurd trivial h
  | delete namespaceName key =>
      simp only [not_forall] at h
      obtain ⟨s, hs, entry, hentry, hexpired⟩ := h
      rw [Bool.not_eq_false] at hexpired
      have hgone : (cache.purgeExpired readings.now).entries.contains s = false := by
        have hnone : (cache.entries.filter fun _ x => !x.expired readings.now).get? s = none := by
          rw [Dict.get?_filter_expired, live_eq_none_iff]
          intro x hx
          rw [hentry] at hx
          cases hx
          exact hexpired
        show ((cache.entries.filter _).get? s).isSome = false
        rw [hnone]
        rfl
      have hthere : cache.entries.contains s = true := Dict.contains_iff_exists.mpr ⟨entry, hentry⟩
      simp only [step, delete, hs, answered, hgone, hthere, Except.map]
      intro heq
      cases heq
  | invalidateNamespace namespaceName =>
      simp only [not_forall] at h
      obtain ⟨start, hstart, s, entry, hentry, hs, hexpired⟩ := h
      rw [Bool.not_eq_false] at hexpired
      simp only [step, invalidateNamespace, hstart, answered, Except.map]
      have hlt := countP_filter_lt (p := fun e => startsWith start e.1)
        (q := fun e : String × CacheEntry => !e.2.expired readings.now)
        (Dict.get?_eq_some_iff.mp hentry) hs (by rw [hexpired]; rfl)
      intro heq
      rw [Except.ok.injEq, CacheResult.count.injEq] at heq
      exact absurd heq hlt.ne

/-- INTERNAL: another tenant that reads just before the call changes its answer. -/
theorem unexpired_of_callsIsolated {codec : JsonCodec} {options : CacheOptions}
    {tenantId : String} {mine : List CacheInput} (hown : ∀ c ∈ mine, ownedBy tenantId c = true)
    (hclock : mine.Pairwise fun c d => c.readings.now ≤ d.readings.now)
    (h : CallsIsolated codec options tenantId mine) :
    EachMeets (step codec options) (Unexpired options) empty mine := by
  rw [eachMeets_iff_forall_split]
  intro earlier c later hmine
  by_contra hunfit
  subst hmine
  rw [List.pairwise_append] at hclock
  obtain ⟨hbefore, hrest, hacross⟩ := hclock
  have hfilter : (earlier ++ probe tenantId c.readings.now :: c :: later).filter (ownedBy tenantId) =
      earlier ++ c :: later := by
    rw [List.filter_append,
      List.filter_cons_of_neg (by rw [ownedBy_probe]; decide), ← List.filter_append,
      List.filter_eq_self]
    exact hown
  have hrun : (earlier ++ probe tenantId c.readings.now :: c :: later).Pairwise
      fun c d => c.readings.now ≤ d.readings.now := by
    rw [List.pairwise_append]
    refine ⟨hbefore, List.pairwise_cons.mpr ⟨?_, hrest⟩, ?_⟩
    · intro d hd
      rcases List.mem_cons.mp hd with rfl | hd
      · exact le_refl _
      · exact (List.pairwise_cons.mp hrest).1 d hd
    · intro d hd e he
      rcases List.mem_cons.mp he with rfl | he
      · exact hacross d hd c List.mem_cons_self
      · exact hacross d hd e he
  have hanswers := (h _ hrun hfilter).1
  -- Both runs answer the earlier calls alike, so they must answer this one alike.
  have hearlier : (answers (step codec options) empty earlier).filter
      (fun p => ownedBy tenantId p.1) = answers (step codec options) empty earlier := by
    rw [List.filter_eq_self]
    intro p hp
    apply hown p.1
    rw [List.mem_append]
    left
    rw [← map_fst_answers (step codec options) empty earlier]
    exact List.mem_map_of_mem hp
  have hc : ownedBy tenantId c = true := hown c (List.mem_append_right _ List.mem_cons_self)
  rw [answers_append, answers_append, List.filter_append, hearlier, List.append_cancel_left_eq,
    answers, List.filter_cons_of_neg (by rw [ownedBy_probe]; decide), answers, answers,
    List.filter_cons, if_pos hc, step_probe, List.cons.injEq, Prod.mk.injEq] at hanswers
  exact answer_ne_of_not_unexpired hunfit hanswers.1.2

/-- **Tenant isolation.**  What the others do changes nothing for a tenant exactly if no entry
has expired when it deletes or invalidates it. -/
theorem tenantIsolation_iff_unexpired (codec : JsonCodec) (options : CacheOptions)
    (tenantId : String) (mine : List CacheInput) (hown : ∀ c ∈ mine, ownedBy tenantId c = true)
    (hclock : mine.Pairwise fun c d => c.readings.now ≤ d.readings.now) :
    TenantIsolation codec options tenantId mine ↔
      EachMeets (step codec options) (Unexpired options) empty mine := by
  constructor
  · intro h
    exact unexpired_of_callsIsolated hown hclock h.calls_isolated
  · intro hfit
    exact ⟨keysInjective, callsIsolated_of_unexpired hfit, invalidatesExactly options⟩

namespace CacheSample

/-- Of the JSON values only the integers are used here. -/
def codec : JsonCodec where
  dumps
    | .int n => .ok (toString n)
    | _ => .error (.typeError "not an integer")
  dumpsSorted
    | .int n => .ok (toString n)
    | _ => .error (.typeError "not an integer")
  loads text :=
    match text.toInt? with
    | some n => .ok (.int n)
    | none => .error (.valueError "not an integer")

def options : CacheOptions where
  keyPrefix := "nmc"
  defaultTtlSeconds := 300
  lockTtlSeconds := 30
  keyPrefix_normal := by decide
  defaultTtlSeconds_pos := by decide
  lockTtlSeconds_pos := by decide

def caller : CacheCaller := ⟨some ⟨"alpha", some "member-1", [], none⟩, none⟩

/-- A counter that lives for ten seconds is written, and deleted at the time given. -/
def calls (deletedAt : ℚ) : List CacheInput :=
  [⟨caller, ⟨0, 0⟩, .increment "feed" "views" 1 (some 10)⟩,
    ⟨caller, ⟨deletedAt, deletedAt⟩, .delete "feed" "views"⟩]

theorem cacheKey_views :
    cacheKey options caller "feed" "views" = .ok "nmc:tenant:alpha:feed:views" := by
  decide

theorem ownedBy_calls (deletedAt : ℚ) : ∀ c ∈ calls deletedAt, ownedBy "alpha" c = true := by
  have hcaller : tenantSegment caller = .ok "alpha" := by decide
  intro c hc
  rw [ownedBy_iff]
  simp only [calls, List.mem_cons, List.not_mem_nil, or_false] at hc
  rcases hc with rfl | rfl
  · exact hcaller
  · exact hcaller

theorem pairwise_calls {deletedAt : ℚ} (h : 0 ≤ deletedAt) :
    (calls deletedAt).Pairwise fun c d => c.readings.now ≤ d.readings.now := by
  unfold calls
  rw [List.pairwise_pair]
  exact h

theorem get?_after_increment : (step codec options empty
    ⟨caller, ⟨0, 0⟩, .increment "feed" "views" 1 (some 10)⟩).2.entries.get?
      "nmc:tenant:alpha:feed:views" = some ⟨.int 1, some 10⟩ := by
  simp only [step, increment, cacheKey_views, answered]
  show (Dict.set _ _ (⟨.int (0 + 1), some (0 + ((10 : ℤ) : ℚ))⟩ : CacheEntry)).get? _ = _
  rw [Dict.get?_set_self]
  norm_num

/-- INTERNAL: the deletion addresses the counter, which expires after ten seconds. -/
theorem unexpired_calls_iff (deletedAt : ℚ) :
    EachMeets (step codec options) (Unexpired options) empty (calls deletedAt) ↔ deletedAt < 10 := by
  have hexpired : ∀ entry : CacheEntry, some ⟨.int 1, some 10⟩ = some entry →
      (entry.expired deletedAt = false ↔ deletedAt < 10) := by
    intro entry hentry
    cases hentry
    show decide ((10 : ℚ) ≤ deletedAt) = false ↔ deletedAt < 10
    rw [decide_eq_false_iff_not, not_le]
  constructor
  · rintro ⟨_, hdelete, _⟩
    exact (hexpired _ rfl).mp (hdelete _ cacheKey_views _ get?_after_increment)
  · intro hlt
    refine ⟨trivial, fun s hs entry hentry => ?_, trivial⟩
    rw [cacheKey_views] at hs
    cases hs
    rw [get?_after_increment] at hentry
    exact (hexpired entry hentry).mpr hlt

end CacheSample

/-- A counter of ten seconds is deleted at five. -/
theorem tenantIsolation_deletedInTime :
    TenantIsolation CacheSample.codec CacheSample.options "alpha" (CacheSample.calls 5) :=
  (tenantIsolation_iff_unexpired CacheSample.codec CacheSample.options "alpha" (CacheSample.calls 5)
    (CacheSample.ownedBy_calls 5) (CacheSample.pairwise_calls (by norm_num))).mpr
    ((CacheSample.unexpired_calls_iff 5).mpr (by norm_num))

/-- Deleted at twenty the counter is counted as deleted, unless another tenant reads first. -/
theorem not_tenantIsolation :
    ¬ TenantIsolation CacheSample.codec CacheSample.options "alpha" (CacheSample.calls 20) := by
  intro h
  have hfit := unexpired_of_callsIsolated (CacheSample.ownedBy_calls 20)
    (CacheSample.pairwise_calls (by norm_num)) h.calls_isolated
  have hlt := (CacheSample.unexpired_calls_iff 20).mp hfit
  norm_num at hlt

end InMemoryTenantCache

end MediaCenter.Shared
