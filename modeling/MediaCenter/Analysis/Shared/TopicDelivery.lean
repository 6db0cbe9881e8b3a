import MediaCenter.Analysis.Shared.EventNormalForms
import MediaCenter.Library.Expansion

/-!
# What a topic binding delivers

`topic_matches` recurses through the wildcards; what it decides is whether the routing words
expand the binding words.  The binding of a tenant therefore takes the events of that tenant
and no others.
-/

set_option autoImplicit false

namespace MediaCenter.Shared

open MediaCenter.Library

/-- What a binding word may be replaced by: `#` by any words, `*` by one, another by itself. -/
def ReplacedBy (word : String) (part : List String) : Prop :=
  if word = "#" then True else if word = "*" then ∃ any, part = [any] else part = [word]

theorem replacedBy_hash (part : List String) : ReplacedBy "#" part := by
  unfold ReplacedBy
  rw [if_pos rfl]
  trivial

theorem replacedBy_iff_of_ne_hash {word : String} (h : word ≠ "#") (part : List String) :
    ReplacedBy word part ↔ ∃ any, (word = "*" ∨ word = any) ∧ part = [any] := by
  unfold ReplacedBy
  rw [if_neg h]
  by_cases hstar : word = "*"
  · rw [if_pos hstar]
    simp [hstar]
  · rw [if_neg hstar]
    simp [hstar]

theorem topicPartsMatch_hash (tail routingParts : List String) :
    topicPartsMatch ("#" :: tail) routingParts =
      if tail = [] then true
      else (List.range (routingParts.length + 1)).any fun index =>
        topicPartsMatch tail (routingParts.drop index) := by
  rw [topicPartsMatch.eq_def]
  exact if_pos rfl

theorem topicPartsMatch_cons_nil {head : String} (h : head ≠ "#") (tail : List String) :
    topicPartsMatch (head :: tail) [] = false := by
  rw [topicPartsMatch.eq_def]
  exact if_neg h

theorem topicPartsMatch_cons_cons {head : String} (h : head ≠ "#") (tail : List String)
    (word : String) (rest : List String) :
    topicPartsMatch (head :: tail) (word :: rest) =
      if head = "*" ∨ head = word then topicPartsMatch tail rest else false := by
  rw [topicPartsMatch.eq_def]
  exact if_neg h

/-- INTERNAL: the matcher decides expansion, by induction on the binding words. -/
theorem topicPartsMatch_iff (bindingParts routingParts : List String) :
    topicPartsMatch bindingParts routingParts = true ↔
      Expands ReplacedBy bindingParts routingParts := by
  induction bindingParts generalizing routingParts with
  | nil =>
      rw [topicPartsMatch.eq_def, expands_nil_iff]
      exact List.isEmpty_iff
  | cons head tail ih =>
      by_cases hhash : head = "#"
      · subst hhash
        rw [topicPartsMatch_hash, expands_cons_of_any replacedBy_hash]
        by_cases htail : tail = []
        · -- a last `#` takes all the words that are left
          rw [if_pos htail, htail]
          refine ⟨fun _ => ⟨routingParts.length, le_rfl, ?_⟩, fun _ => rfl⟩
          rw [expands_nil_iff, List.drop_length]
        · rw [if_neg htail, List.any_eq_true]
          constructor
          · rintro ⟨index, hindex, hmatch⟩
            rw [List.mem_range] at hindex
            exact ⟨index, by omega, (ih _).mp hmatch⟩
          · rintro ⟨index, hindex, hexpands⟩
            refine ⟨index, ?_, (ih _).mpr hexpands⟩
            rw [List.mem_range]
            omega
      · rw [expands_cons_of_single (replacedBy_iff_of_ne_hash hhash)]
        cases routingParts with
        | nil =>
            rw [topicPartsMatch_cons_nil hhash]
            simp
        | cons word rest =>
            rw [topicPartsMatch_cons_cons hhash]
            by_cases hword : head = "*" ∨ head = word
            · rw [if_pos hword, ih]
              constructor
              · intro hexpands
                exact ⟨word, rest, rfl, hword, hexpands⟩
              · rintro ⟨word', rest', heq, _, hexpands⟩
                rw [List.cons.injEq] at heq
                rw [heq.2]
                exact hexpands
            · rw [if_neg hword]
              constructor
              · intro h
                cases h
              · rintro ⟨word', rest', heq, hword', _⟩
                rw [List.cons.injEq] at heq
                rw [heq.1] at hword
                exact absurd hword' hword

/-! ## Keys -/

theorem keyWords_append_dot {word : String} (h : '.' ∉ word.toList) (key : String) :
    keyWords (word ++ "." ++ key) = word :: keyWords key := by
  have hdot : ".".toList = ['.'] := rfl
  unfold keyWords
  rw [String.toList_append, String.toList_append, hdot, List.append_assoc, List.singleton_append,
    splitAtEvery_append_cons h, List.map_cons, String.ofList_toList]

theorem keyWords_of_not_mem {word : String} (h : '.' ∉ word.toList) : keyWords word = [word] := by
  have hpieces : ∀ l : List Char, '.' ∉ l → splitAtEvery '.' l = [l] := by
    intro l
    induction l with
    | nil => intro _; rfl
    | cons c l ih =>
        intro hl
        rw [List.mem_cons, not_or] at hl
        rw [splitAtEvery, if_neg (Ne.symm hl.1), ih hl.2]
  unfold keyWords
  rw [hpieces _ h, List.map_singleton, String.ofList_toList]

/-- INTERNAL: a key of words without white space is accepted as it is. -/
theorem normalizeBindingKey_of_not_isSpace {key : String} (hne : key ≠ "")
    (h : ∀ c ∈ key.toList, Text.isSpace c = false) : normalizeBindingKey key = .ok key := by
  have hstrip : Text.strip key = key := Text.dropBoth_of_forall_not h
  have hspace : ¬ key.toList.any Text.isSpace = true := by
    rw [List.any_eq_true]
    rintro ⟨c, hc, hspace⟩
    rw [h c hc] at hspace
    cases hspace
  unfold normalizeBindingKey
  simp only [hstrip, if_neg hne, if_neg hspace]

/-! ## Routing keys of envelopes -/

theorem eventRoutingKey_of_envelope {args e : EventEnvelope} (h : eventEnvelope args = .ok e) :
    eventRoutingKey e.tenantId e.type = .ok e.routingKey := by
  obtain ⟨htenant, htype, _⟩ := eventEnvelope_eq_ok h
  unfold eventRoutingKey
  rw [normalizeRoutingSegment_idem htenant, normalizeEventType_idem htype]
  rfl

/-- INTERNAL: a key that begins with a tenant is accepted as it is. -/
theorem normalizeBindingKey_tenant {tenantId rest : String}
    (htenant : ∀ c ∈ tenantId.toList, Text.isSpace c = false)
    (hrest : ∀ c ∈ rest.toList, Text.isSpace c = false) :
    normalizeBindingKey ("tenant." ++ tenantId ++ "." ++ rest) =
      .ok ("tenant." ++ tenantId ++ "." ++ rest) := by
  apply normalizeBindingKey_of_not_isSpace
  · intro hempty
    have hlength := congrArg String.toList hempty
    simp at hlength
  · intro c hc
    have hword : ∀ c ∈ "tenant.".toList, Text.isSpace c = false := by decide
    have hdot : ∀ c ∈ ".".toList, Text.isSpace c = false := by decide
    simp only [String.toList_append, List.mem_append] at hc
    rcases hc with ((hc | hc) | hc) | hc
    · exact hword c hc
    · exact htenant c hc
    · exact hdot c hc
    · exact hrest c hc

theorem keyWords_tenant {tenantId : String} (h : '.' ∉ tenantId.toList) (rest : String) :
    keyWords ("tenant." ++ tenantId ++ "." ++ rest) = "tenant" :: tenantId :: keyWords rest := by
  have htenant : '.' ∉ "tenant".toList := by decide
  have hkey : "tenant." ++ tenantId ++ "." ++ rest = "tenant" ++ "." ++ (tenantId ++ "." ++ rest) := by
    simp only [String.append_assoc]
    rfl
  rw [hkey, keyWords_append_dot htenant, keyWords_append_dot h]

/-- INTERNAL: the words of `tenant.A.#` match those of a routing key of the tenant `A`. -/
theorem topicPartsMatch_tenant {a b : String} (hstar : a ≠ "*") (hhash : a ≠ "#")
    (rest : List String) :
    topicPartsMatch ["tenant", a, "#"] ("tenant" :: b :: rest) = decide (b = a) := by
  have hhead : "tenant" ≠ "#" := by decide
  rw [topicPartsMatch_cons_cons hhead, if_pos (.inr rfl), topicPartsMatch_cons_cons hhash,
    topicPartsMatch_hash, if_pos rfl]
  by_cases hab : b = a
  · rw [if_pos (.inr hab.symm), decide_eq_true hab]
  · rw [if_neg (not_or.mpr ⟨hstar, fun h => hab h.symm⟩), decide_eq_false hab]

/-! ## Delivery -/

/-- **Topics deliver as AMQP has it**: a key matches exactly when its words expand those of the
binding; keys are refused only for their own form; and the binding of a tenant takes exactly
the events of that tenant. -/
theorem topicMatches_amqp :
    (∀ bindingKey routingKey : String, topicMatches bindingKey routingKey = .ok true ↔
      ∃ binding routing, normalizeBindingKey bindingKey = .ok binding ∧
        normalizeBindingKey routingKey = .ok routing ∧
        Expands ReplacedBy (keyWords binding) (keyWords routing)) ∧
    (∀ bindingKey routingKey : String, (∃ matched, topicMatches bindingKey routingKey = .ok matched) ↔
      (∃ binding, normalizeBindingKey bindingKey = .ok binding) ∧
        ∃ routing, normalizeBindingKey routingKey = .ok routing) ∧
    (∀ value label tenantId : String, normalizeRoutingSegment value label = .ok tenantId →
      '*' ∉ tenantId.toList → '#' ∉ tenantId.toList →
      ∀ args e : EventEnvelope, eventEnvelope args = .ok e →
        ∃ key, eventRoutingKey e.tenantId e.type = .ok key ∧
          topicMatches ("tenant." ++ tenantId ++ ".#") key = .ok (decide (e.tenantId = tenantId))) := by
  refine ⟨?_, ?_, ?_⟩
  · intro bindingKey routingKey
    unfold topicMatches
    simp only [bind_eq_ok_iff, pure, Except.pure, Except.ok.injEq, topicPartsMatch_iff]
    constructor
    · rintro ⟨binding, hbinding, routing, hrouting, hexpands⟩
      exact ⟨binding, routing, hbinding, hrouting, hexpands⟩
    · rintro ⟨binding, routing, hbinding, hrouting, hexpands⟩
      exact ⟨binding, hbinding, routing, hrouting, hexpands⟩
  · intro bindingKey routingKey
    unfold topicMatches
    simp only [bind_eq_ok_iff, pure, Except.pure, Except.ok.injEq]
    constructor
    · rintro ⟨_, binding, hbinding, routing, hrouting, _⟩
      exact ⟨⟨binding, hbinding⟩, routing, hrouting⟩
    · rintro ⟨⟨binding, hbinding⟩, routing, hrouting⟩
      exact ⟨_, binding, hbinding, routing, hrouting, rfl⟩
  · intro value label tenantId htenant hstar hhash args e he
    refine ⟨e.routingKey, eventRoutingKey_of_envelope he, ?_⟩
    obtain ⟨hdot, hspace⟩ := normalizeRoutingSegment_eq_ok htenant
    obtain ⟨hsegment, htype, _⟩ := eventEnvelope_eq_ok he
    obtain ⟨hdot', hspace'⟩ := normalizeRoutingSegment_eq_ok hsegment
    have hvisible := visible_of_eventTypePattern (normalizeEventType_eq_ok htype).2
    have hkey : "tenant." ++ tenantId ++ ".#" = "tenant." ++ tenantId ++ "." ++ "#" := by
      rw [String.append_assoc, String.append_assoc, String.append_assoc]
      rfl
    have hhashKey : ∀ c ∈ "#".toList, Text.isSpace c = false := by decide
    have hhashWords : keyWords "#" = ["#"] := keyWords_of_not_mem (by decide)
    have hne : ∀ word : String, word.toList ≠ [] → (∀ c ∈ word.toList, c ∉ tenantId.toList) →
        tenantId ≠ word := by
      rintro word hword hnot rfl
      obtain ⟨c, l, hl⟩ := List.exists_cons_of_ne_nil hword
      have hc : c ∈ tenantId.toList := by
        rw [hl]
        exact List.mem_cons_self
      exact hnot c hc hc
    unfold topicMatches EventEnvelope.routingKey
    rw [hkey, normalizeBindingKey_tenant hspace hhashKey,
      normalizeBindingKey_tenant hspace' fun c hc => (hvisible c hc).isSpace]
    simp only [bind, Except.bind, pure, Except.pure]
    rw [keyWords_tenant hdot, keyWords_tenant hdot', hhashWords,
      topicPartsMatch_tenant (hne "*" (by decide) (by simpa using hstar))
        (hne "#" (by decide) (by simpa using hhash))]

/-- A run of the whole theorem at one tenant and one event of another. -/
theorem topicMatches_amqp_other :
    ∃ key, eventRoutingKey "media-center" "payout.vetoed" = .ok key ∧
      topicMatches "tenant.media.#" key = .ok false := by
  have henvelope : eventEnvelope ⟨"evt-1", "payout.vetoed", "1.0", "media-center", "hitl-payout",
      "corr-1", 0, [], none⟩ = .ok ⟨"evt-1", "payout.vetoed", "1.0", "media-center",
      "hitl-payout", "corr-1", 0, [], none⟩ := by
    apply eventEnvelope_of_tokens
    all_goals rfl
  have hsegment : normalizeRoutingSegment "media" "tenant_id" = .ok "media" := by
    rw [normalizeRoutingSegment_of_tenantIdPattern (by decide)]
    rfl
  obtain ⟨key, hkey, hmatch⟩ := topicMatches_amqp.2.2 "media" "tenant_id" "media" hsegment
    (by decide) (by decide) _ _ henvelope
  have hother : decide ("media-center" = "media") = false := by decide
  exact ⟨key, hkey, hmatch.trans (congrArg Except.ok hother)⟩

end MediaCenter.Shared
