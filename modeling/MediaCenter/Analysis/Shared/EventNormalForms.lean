import MediaCenter.Library.ExceptList
import MediaCenter.Model.Shared.EventWire

/-!
# Normal forms of the fields of an event

What a field is normalised to, the constructor of an envelope accepts as it is.
-/

set_option autoImplicit false

namespace MediaCenter.Shared

open MediaCenter.Library

section NormalForms

variable {value label normalized : String}

/-- INTERNAL: what is left of a token. -/
theorem normalizeToken_eq_ok (h : normalizeToken value label = .ok normalized) :
    normalized ≠ "" ∧ ∀ c ∈ normalized.toList, Text.isSpace c = false := by
  unfold normalizeToken at h
  simp only at h
  split at h
  · cases h
  · rename_i hne
    split at h
    · cases h
    · rename_i hspace
      cases h
      rw [List.any_eq_true, not_exists] at hspace
      refine ⟨hne, ?_⟩
      intro c hc
      by_contra hnot
      rw [Bool.not_eq_false] at hnot
      exact hspace c ⟨hc, hnot⟩

theorem normalizeToken_idem (h : normalizeToken value label = .ok normalized) (label' : String) :
    normalizeToken normalized label' = .ok normalized := by
  obtain ⟨hne, hspace⟩ := normalizeToken_eq_ok h
  have hstrip : Text.strip normalized = normalized := Text.dropBoth_of_forall_not hspace
  have hany : ¬ normalized.toList.any Text.isSpace = true := by
    rw [List.any_eq_true]
    rintro ⟨c, hc, hc'⟩
    rw [hspace c hc] at hc'
    cases hc'
  unfold normalizeToken
  simp only [hstrip, if_neg hne, if_neg hany]

theorem normalizeRoutingSegment_eq_ok_iff : normalizeRoutingSegment value label = .ok normalized ↔
    normalizeToken value label = .ok normalized ∧ '.' ∉ normalized.toList := by
  unfold normalizeRoutingSegment
  rw [bind_eq_ok_iff]
  constructor
  · rintro ⟨token, htoken, h⟩
    by_cases hdot : token.toList.contains '.' = true
    · rw [if_pos hdot] at h
      cases h
    · rw [if_neg hdot] at h
      cases h
      rw [List.contains_iff_mem] at hdot
      exact ⟨htoken, hdot⟩
  · rintro ⟨htoken, hdot⟩
    refine ⟨normalized, htoken, ?_⟩
    rw [if_neg fun hcontains => hdot (List.contains_iff_mem.mp hcontains)]
    rfl

theorem normalizeRoutingSegment_eq_ok (h : normalizeRoutingSegment value label = .ok normalized) :
    '.' ∉ normalized.toList ∧ ∀ c ∈ normalized.toList, Text.isSpace c = false := by
  rw [normalizeRoutingSegment_eq_ok_iff] at h
  exact ⟨h.2, (normalizeToken_eq_ok h.1).2⟩

theorem normalizeRoutingSegment_idem (h : normalizeRoutingSegment value label = .ok normalized)
    (label' : String) : normalizeRoutingSegment normalized label' = .ok normalized := by
  rw [normalizeRoutingSegment_eq_ok_iff] at h ⊢
  exact ⟨normalizeToken_idem h.1 label', h.2⟩

theorem normalizeEventType_eq_ok (h : normalizeEventType value = .ok normalized) :
    Text.strip normalized = normalized ∧ eventTypePattern normalized = true := by
  unfold normalizeEventType at h
  simp only at h
  split at h
  · rename_i hpattern
    cases h
    exact ⟨Text.strip_strip value, hpattern⟩
  · cases h

theorem normalizeEventType_idem (h : normalizeEventType value = .ok normalized) :
    normalizeEventType normalized = .ok normalized := by
  obtain ⟨hstrip, hpattern⟩ := normalizeEventType_eq_ok h
  unfold normalizeEventType
  simp only [hstrip, if_pos hpattern]

theorem normalizeSchemaVersion_idem (h : normalizeSchemaVersion value = .ok normalized) :
    normalizeSchemaVersion normalized = .ok normalized := by
  unfold normalizeSchemaVersion at h
  simp only at h
  split at h
  · rename_i hpattern
    cases h
    unfold normalizeSchemaVersion
    simp only [Text.strip_strip, if_pos hpattern]
  · cases h

theorem normalizeOptionalToken_idem {value o : Option String}
    (h : normalizeOptionalToken value label = .ok o) (label' : String) :
    normalizeOptionalToken o label' = .ok o := by
  cases value with
  | none =>
      cases h
      rfl
  | some value =>
      unfold normalizeOptionalToken at h
      simp only at h
      cases htoken : normalizeToken value label with
      | error e =>
          rw [htoken] at h
          cases h
      | ok s =>
          rw [htoken] at h
          cases h
          unfold normalizeOptionalToken
          simp only [normalizeToken_idem htoken label']
          rfl

/-! ## Accepted envelopes -/

/-- INTERNAL: the tenant and the type of an accepted envelope are in normal form. -/
theorem eventEnvelope_eq_ok {args e : EventEnvelope} (h : eventEnvelope args = .ok e) :
    normalizeRoutingSegment args.tenantId "tenant_id" = .ok e.tenantId ∧
      normalizeEventType args.type = .ok e.type ∧ e.payload = args.payload := by
  unfold eventEnvelope at h
  simp only [bind_eq_ok_iff] at h
  obtain ⟨_, _, type, htype, _, _, tenantId, htenant, _, _, _, _, h⟩ := h
  cases hcausation : args.causationId with
  | none =>
      rw [hcausation] at h
      cases h
      exact ⟨htenant, htype, rfl⟩
  | some value =>
      rw [hcausation, bind_eq_ok_iff] at h
      obtain ⟨_, _, h⟩ := h
      cases h
      exact ⟨htenant, htype, rfl⟩

/-- INTERNAL: of an envelope in normal form the dot of its tenant and its id are left to refuse. -/
theorem exists_eventEnvelope_iff_normalizeToken {args : EventEnvelope}
    (htype : normalizeEventType args.type = .ok args.type)
    (hversion : normalizeSchemaVersion args.schemaVersion = .ok args.schemaVersion)
    (htenant : tenantIdPattern args.tenantId = true)
    (hsource : normalizeToken args.source "source" = .ok args.source)
    (hcorrelation : tokenPattern (Text.trim args.correlationId) = true)
    (hcausation : args.causationId = none) :
    (∃ event, eventEnvelope args = .ok event) ↔ args.tenantId.toList.contains '.' = false ∧
      ∃ id, normalizeToken args.eventId "event_id" = .ok id := by
  cases hdot : args.tenantId.toList.contains '.' with
  | true =>
      constructor
      · rintro ⟨event, hevent⟩
        exact absurd hevent (eventEnvelope_ne_ok_of_dot htenant hdot)
      · rintro ⟨h, _⟩
        cases h
  | false =>
      have hrouting : normalizeRoutingSegment args.tenantId "tenant_id" = .ok args.tenantId := by
        rw [normalizeRoutingSegment_of_tenantIdPattern htenant, hdot]
        rfl
      unfold eventEnvelope
      simp only [htype, hversion, hrouting, hsource, normalizeToken_of_trim hcorrelation,
        hcausation]
      cases normalizeToken args.eventId "event_id" with
      | error e =>
          constructor
          · rintro ⟨_, h⟩
            cases h
          · rintro ⟨_, _, h⟩
            cases h
      | ok id => exact ⟨fun _ => ⟨trivial, id, rfl⟩, fun _ => ⟨_, rfl⟩⟩

/-- INTERNAL: an id that is given is refused when it is blank or has white space inside. -/
theorem exists_normalizeToken_orDefault_iff {eventId : Option String} {stem : String} {u : Uuid4}
    (hstem : tokenPattern stem = true) (hlength : stem.toList.length ≤ 91) :
    (∃ id, normalizeToken (orDefault eventId (newId stem u)) label = .ok id) ↔
      ∀ id, eventId = some id → id ≠ "" →
        Text.strip id ≠ "" ∧ ¬ (Text.strip id).toList.any Text.isSpace = true := by
  have hfresh : ∃ id, normalizeToken (newId stem u) label = .ok id :=
    ⟨_, normalizeToken_of_tokenPattern (tokenPattern_newId hstem hlength u) _⟩
  unfold orDefault
  cases eventId with
  | none => exact iff_of_true hfresh (fun _ h => by cases h)
  | some id =>
      by_cases hempty : id = ""
      · simp only [if_pos hempty]
        refine iff_of_true hfresh ?_
        rintro _ ⟨⟩ h
        exact absurd hempty h
      · unfold normalizeToken
        simp only [if_neg hempty, Option.some.injEq]
        constructor
        · rintro ⟨normalized, h⟩ _ rfl _
          split_ifs at h with hblank hspace
          exact ⟨hblank, hspace⟩
        · intro h
          obtain ⟨hblank, hspace⟩ := h id rfl hempty
          exact ⟨_, by rw [if_neg hblank, if_neg hspace]⟩

end NormalForms

end MediaCenter.Shared
