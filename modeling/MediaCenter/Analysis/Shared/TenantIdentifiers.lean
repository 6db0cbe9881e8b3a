import MediaCenter.Model.Shared.Cache
import MediaCenter.Model.Shared.Events

/-!
# Where a tenant id can be used

Routing keys refuse a dot in the tenant id and cache keys a colon; the pattern of a tenant id
allows both.
-/

set_option autoImplicit false

namespace MediaCenter.Shared

open MediaCenter.Library

/-- `event_routing_key` accepts the tenant id as it is, with every event type it accepts. -/
def UsableInRoutingKeys (tenantId : String) : Prop :=
  ∀ eventType normalized, normalizeEventType eventType = .ok normalized →
    eventRoutingKey tenantId eventType = .ok ("tenant." ++ tenantId ++ "." ++ normalized)

/-- `EventEnvelope` accepts the tenant id as it is, in every envelope that would be accepted
with another one. -/
def UsableInEnvelopes (tenantId : String) : Prop :=
  ∀ (args e : EventEnvelope) (other : String), eventEnvelope { args with tenantId := other } = .ok e →
      eventEnvelope { args with tenantId := tenantId } = .ok { e with tenantId := tenantId }

/-- `build_tenant_cache_key` accepts the tenant id as it is, with every namespace, key and
prefix it accepts. -/
def UsableInCacheKeys (tenantId : String) : Prop :=
  ∀ namespaceName key keyPrefix n k p (context : TenantContext),
    context.tenantId = tenantId → normalizeKeySegment namespaceName "namespace" = .ok n →
    normalizeKeySegment key "key" = .ok k → normalizeKeySegment keyPrefix "prefix" = .ok p →
    buildTenantCacheKey namespaceName key context keyPrefix =
      .ok (p ++ ":tenant:" ++ tenantId ++ ":" ++ n ++ ":" ++ k)

section

variable {tenantId : String} (h : tenantIdPattern tenantId = true)

include h

theorem usableInRoutingKeys_iff :
    UsableInRoutingKeys tenantId ↔ tenantId.toList.contains '.' = false := by
  have hsegment := normalizeRoutingSegment_of_tenantIdPattern h "tenant_id"
  constructor
  · intro husable
    have hkey := husable "a.b" "a.b" (by decide)
    unfold eventRoutingKey at hkey
    rw [bind_eq_ok_iff] at hkey
    obtain ⟨_, hok, _⟩ := hkey
    rw [hsegment] at hok
    by_contra hdot
    rw [Bool.not_eq_false] at hdot
    rw [if_pos hdot] at hok
    cases hok
  · intro hdot eventType normalized htype
    rw [hdot] at hsegment
    unfold eventRoutingKey
    rw [hsegment, htype]
    rfl

theorem usableInEnvelopes_iff :
    UsableInEnvelopes tenantId ↔ tenantId.toList.contains '.' = false := by
  constructor
  · intro husable
    have hother : eventEnvelope ⟨"e", "a.b", "1.0", "t", "s", "c", 0, [], none⟩ =
        .ok ⟨"e", "a.b", "1.0", "t", "s", "c", 0, [], none⟩ :=
      eventEnvelope_of_tokens (by decide) (by decide) (by decide) (by decide) (by decide)
        (by decide) (by decide) rfl
    have hok := husable ⟨"e", "a.b", "1.0", "t", "s", "c", 0, [], none⟩ _ "t" hother
    by_contra hdot
    rw [Bool.not_eq_false] at hdot
    exact eventEnvelope_ne_ok_of_dot h hdot hok
  · intro hdot args e other hother
    have hsegment : normalizeRoutingSegment tenantId "tenant_id" = .ok tenantId := by
      rw [normalizeRoutingSegment_of_tenantIdPattern h, hdot]
      rfl
    unfold eventEnvelope at hother ⊢
    simp only [bind_eq_ok_iff] at hother ⊢
    obtain ⟨eventId, hid, type, htype, version, hversion, _, _, source, hsource, correlation,
      hcorrelation, hrest⟩ := hother
    refine ⟨eventId, hid, type, htype, version, hversion, tenantId, hsegment, source, hsource,
      correlation, hcorrelation, ?_⟩
    cases hcause : args.causationId with
    | none =>
        rw [hcause] at hrest
        cases hrest
        rfl
    | some value =>
        simp only [hcause, bind_eq_ok_iff] at hrest ⊢
        obtain ⟨causation, hcausation, heq⟩ := hrest
        refine ⟨causation, hcausation, ?_⟩
        cases heq
        rfl

theorem usableInCacheKeys_iff :
    UsableInCacheKeys tenantId ↔ tenantId.toList.contains ':' = false := by
  have hsegment :=
    normalizeKeySegment_of_tokenPattern (tokenPattern_of_tenantIdPattern h) "tenant_id"
  constructor
  · intro husable
    have hkey := husable "n" "k" "nmc" "n" "k" "nmc" ⟨tenantId, none, [], none⟩ rfl
      (by decide) (by decide) (by decide)
    unfold buildTenantCacheKey tenantCachePrefix at hkey
    simp only [bind_eq_ok_iff] at hkey
    obtain ⟨_, _, _, _, _, ⟨_, _, _, hok, _⟩, _⟩ := hkey
    rw [hsegment] at hok
    by_contra hcolon
    rw [Bool.not_eq_false] at hcolon
    rw [if_pos hcolon] at hok
    cases hok
  · intro hcolon namespaceName key keyPrefix n k p context hcontext hn hk hp
    rw [hcolon] at hsegment
    unfold buildTenantCacheKey tenantCachePrefix
    rw [hn, hk, hp, hcontext, hsegment]
    simp only [bind, Except.bind, pure, Except.pure, Bool.false_eq_true, if_false]

end

/-- A tenant id can be used as it is in routing keys, event envelopes and cache keys exactly
when it holds neither a dot nor a colon. -/
theorem usableTenantId_iff (tenantId : String) (h : tenantIdPattern tenantId = true) :
    (UsableInRoutingKeys tenantId ∧ UsableInEnvelopes tenantId ∧ UsableInCacheKeys tenantId) ↔
      (tenantId.toList.contains '.' = false ∧ tenantId.toList.contains ':' = false) := by
  rw [usableInRoutingKeys_iff h, usableInEnvelopes_iff h, usableInCacheKeys_iff h]
  constructor
  · rintro ⟨hdot, _, hcolon⟩
    exact ⟨hdot, hcolon⟩
  · rintro ⟨hdot, hcolon⟩
    exact ⟨hdot, hdot, hcolon⟩

/-- `media-center` holds neither a dot nor a colon. -/
theorem usableTenantId_mediaCenter :
    UsableInRoutingKeys "media-center" ∧ UsableInEnvelopes "media-center" ∧
      UsableInCacheKeys "media-center" :=
  (usableTenantId_iff "media-center" (by decide)).mpr (by decide)

/-- The pattern allows `media.center` and `media:center`; a routing key refuses the first, a
cache key the second. -/
theorem tenantIdPattern_unusable :
    tenantIdPattern "media.center" = true ∧ tenantIdPattern "media:center" = true ∧
    eventRoutingKey "media.center" "payout.queued" = .error
      (.valueError "tenant_id не должен содержать '.' для RabbitMQ routing key") ∧
    buildTenantCacheKey "weights" "2026-01" ⟨"media:center", none, [], none⟩
      defaultCacheKeyPrefix = .error
      (.valueError "tenant_id не должен содержать пробелы или ':'") := by
  decide

end MediaCenter.Shared
