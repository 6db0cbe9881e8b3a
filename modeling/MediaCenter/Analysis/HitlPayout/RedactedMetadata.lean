import MediaCenter.Model.HitlPayout.AuditRedaction
import MediaCenter.Model.Shared.Reference

/-!
# What redaction leaves

`audit_safe_metadata` works on each object by itself: an entry is dropped for its key, replaced
by the summary of a payment, or kept with its value redacted.  What it leaves has no sensitive
key at any depth, stays as it is when redacted once more, and does not depend on what was
dropped.
-/

set_option autoImplicit false

namespace MediaCenter.HitlPayout

open MediaCenter.Library MediaCenter.Shared

section Entries

variable (py : Stdlib)

/-- What becomes of one entry: nothing, the summary of a payment, or its redacted value. -/
def keptValue (key : String) : JSONValue → Option JSONValue
  | .dict payment =>
      if normalizeKey py key = "payment" then some (.dict (paymentMetadataSummary payment))
      else if isSensitiveMetadataKey (normalizeKey py key) then none
      else some (auditSafeMetadataValue py (.dict payment))
  | value =>
      if isSensitiveMetadataKey (normalizeKey py key) then none
      else some (auditSafeMetadataValue py value)

theorem safeEntries_cons (key : String) (value : JSONValue) (rest : JSONObject) :
    safeEntries py ((key, value) :: rest) = match keptValue py key value with
      | some kept => (key, kept) :: safeEntries py rest
      | none => safeEntries py rest := by
  cases value with
  | dict payment =>
      rw [safeEntries]
      unfold keptValue
      by_cases hpayment : normalizeKey py key = "payment"
      · simp only [if_pos hpayment]
      · simp only [if_neg hpayment]
        by_cases hsensitive : isSensitiveMetadataKey (normalizeKey py key) = true
        · simp only [if_pos hsensitive]
        · simp only [if_neg hsensitive]
          rw [auditSafeMetadataValue]
  | _ =>
      rw [safeEntries]
      · unfold keptValue
        by_cases hsensitive : isSensitiveMetadataKey (normalizeKey py key) = true
        · simp only [if_pos hsensitive]
        · simp only [if_neg hsensitive]
      · intro payment h
        cases h

/-- INTERNAL: a kept entry is the summary of a payment, or has a key that is not sensitive. -/
theorem keptValue_eq_some {key : String} {value kept : JSONValue}
    (h : keptValue py key value = some kept) :
    (normalizeKey py key = "payment" ∧ ∃ payment, value = .dict payment ∧
        kept = .dict (paymentMetadataSummary payment)) ∨
      (isSensitiveMetadataKey (normalizeKey py key) = false ∧
        kept = auditSafeMetadataValue py value ∧
        ∀ payment, value = .dict payment → normalizeKey py key ≠ "payment") := by
  have hplain : (if isSensitiveMetadataKey (normalizeKey py key) then none
      else some (auditSafeMetadataValue py value)) = some kept →
      isSensitiveMetadataKey (normalizeKey py key) = false ∧
        kept = auditSafeMetadataValue py value := by
    intro hkept
    split at hkept
    · cases hkept
    · next hsensitive =>
        cases hkept
        exact ⟨Bool.eq_false_iff.mpr hsensitive, rfl⟩
  cases value with
  | dict payment =>
      unfold keptValue at h
      by_cases hpayment : normalizeKey py key = "payment"
      · simp only [if_pos hpayment] at h
        cases h
        exact .inl ⟨hpayment, payment, rfl, rfl⟩
      · simp only [if_neg hpayment] at h
        obtain ⟨hsensitive, hkept⟩ := hplain h
        exact .inr ⟨hsensitive, hkept, fun _ _ => hpayment⟩
  | _ =>
      obtain ⟨hsensitive, hkept⟩ := hplain h
      exact .inr ⟨hsensitive, hkept, fun _ hdict => (by cases hdict)⟩

theorem keptValue_of_plain {key : String} {value : JSONValue}
    (hsensitive : isSensitiveMetadataKey (normalizeKey py key) = false)
    (hplain : ∀ payment, value = .dict payment → normalizeKey py key ≠ "payment") :
    keptValue py key value = some (auditSafeMetadataValue py value) := by
  have hnot : ¬ isSensitiveMetadataKey (normalizeKey py key) = true :=
    Bool.eq_false_iff.mp hsensitive
  cases value with
  | dict payment =>
      unfold keptValue
      simp only [if_neg (hplain payment rfl), if_neg hnot]
  | _ => exact if_neg hnot

theorem keptValue_of_sensitive {key : String}
    (hsensitive : isSensitiveMetadataKey (normalizeKey py key) = true) (value : JSONValue) :
    keptValue py key value = none := by
  cases value with
  | dict payment =>
      have hpayment : ¬ normalizeKey py key = "payment" := by
        intro hpayment
        rw [hpayment] at hsensitive
        exact absurd hsensitive (by decide)
      unfold keptValue
      simp only [if_neg hpayment, if_pos hsensitive]
  | _ => exact if_pos hsensitive

theorem isSensitiveMetadataKey_payment : isSensitiveMetadataKey "payment" = false := by decide

theorem normalizeKey_of_lower {key : String}
    (h : ∀ c ∈ key.toList, Text.Visible c ∧ Text.lowerLatin1 c = c) :
    normalizeKey py key = key := by
  have hlatin : ∀ c ∈ key.toList, c.toNat < 256 := by
    intro c hc
    have hvisible := (h c hc).1.2
    omega
  unfold normalizeKey
  rw [Text.strip_of_forall_visible fun c hc => (h c hc).1, py.lower_latin1 key hlatin]
  rw [List.map_congr_left fun c hc => (h c hc).2, List.map_id', String.ofList_toList]

theorem isSensitiveMetadataKey_of_lower {key : String}
    (h : ∀ c ∈ key.toList, Text.Visible c ∧ Text.lowerLatin1 c = c)
    (hkey : isSensitiveMetadataKey key = false) :
    isSensitiveMetadataKey (normalizeKey py key) = false := by
  rw [normalizeKey_of_lower py h]
  exact hkey

instance (c : Char) : Decidable (Text.Visible c) := inferInstanceAs (Decidable (_ ∧ _))

theorem redactedFields_not_sensitive :
    isSensitiveMetadataKey (normalizeKey py "redacted_metadata_fields") = false :=
  isSensitiveMetadataKey_of_lower py (by decide) (by decide)

/-- The fields of a payment that its summary may have. -/
def summaryFields : List String := ["present", "currency", "rails"]

theorem summaryFields_not_sensitive : ∀ field ∈ summaryFields,
    isSensitiveMetadataKey (normalizeKey py field) = false := by
  intro field hfield
  have hlower : ∀ field ∈ summaryFields,
      ∀ c ∈ field.toList, Text.Visible c ∧ Text.lowerLatin1 c = c := by decide
  have hplain : ∀ field ∈ summaryFields, isSensitiveMetadataKey field = false := by decide
  exact isSensitiveMetadataKey_of_lower py (hlower field hfield) (hplain field hfield)

end Entries

/-! ## The summary of a payment -/

theorem mem_paymentMetadataSummary {payment : JSONObject} {e : String × JSONValue}
    (h : e ∈ paymentMetadataSummary payment) :
    e.1 ∈ summaryFields ∧ (e.2 = .bool true ∨ ∃ s, e.2 = .str s) := by
  unfold paymentMetadataSummary at h
  simp only [List.mem_append, List.mem_singleton] at h
  have hoptional : ∀ key ∈ summaryFields, ∀ s, e = (key, .str s) →
      e.1 ∈ summaryFields ∧ (e.2 = .bool true ∨ ∃ s, e.2 = .str s) := by
    rintro key hkey s rfl
    exact ⟨hkey, .inr ⟨s, rfl⟩⟩
  rcases h with (rfl | hcurrency) | hrails
  · exact ⟨by decide, .inl rfl⟩
  · split at hcurrency
    · exact hoptional "currency" (by decide) _ (List.mem_singleton.mp hcurrency)
    · cases hcurrency
  · split at hrails
    · exact hoptional "rails" (by decide) _ (List.mem_singleton.mp hrails)
    · cases hrails

theorem stringValue_stringValue {value : Option JSONValue} {s : String}
    (h : stringValue value = some s) : stringValue (some (.str s)) = some s := by
  cases value with
  | none => cases h
  | some value =>
      cases value with
      | str t =>
          unfold stringValue at h
          simp only at h
          split at h
          · cases h
          · next hblank =>
              cases h
              unfold stringValue
              simp only [Text.strip_strip, if_neg hblank]
      | _ => cases h

/-- The summary of a payment with this currency and these rails. -/
def summaryOf : Option String → Option String → JSONObject
  | none, none => [("present", .bool true)]
  | some c, none => [("present", .bool true), ("currency", .str c)]
  | none, some r => [("present", .bool true), ("rails", .str r)]
  | some c, some r => [("present", .bool true), ("currency", .str c), ("rails", .str r)]

theorem paymentMetadataSummary_eq (payment : JSONObject) :
    paymentMetadataSummary payment = summaryOf (stringValue (objectGet? payment "currency"))
      (stringValue (objectGet? payment "rails")) := by
  unfold paymentMetadataSummary
  dsimp only
  cases stringValue (objectGet? payment "currency") with
  | none => cases stringValue (objectGet? payment "rails") <;> rfl
  | some c => cases stringValue (objectGet? payment "rails") <;> rfl

theorem get?_summaryOf (currency rails : Option String) :
    objectGet? (summaryOf currency rails) "currency" = currency.map .str ∧
      objectGet? (summaryOf currency rails) "rails" = rails.map .str := by
  cases currency <;> cases rails <;> exact ⟨rfl, rfl⟩

theorem stringValue_map_str (value : Option JSONValue) :
    stringValue ((stringValue value).map .str) = stringValue value := by
  cases h : stringValue value with
  | none => rfl
  | some s => exact stringValue_stringValue h

/-- INTERNAL: a summary is its own summary. -/
theorem paymentMetadataSummary_idem (payment : JSONObject) :
    paymentMetadataSummary (paymentMetadataSummary payment) = paymentMetadataSummary payment := by
  rw [paymentMetadataSummary_eq (paymentMetadataSummary payment), paymentMetadataSummary_eq payment,
    (get?_summaryOf _ _).1, (get?_summaryOf _ _).2, stringValue_map_str, stringValue_map_str]

/-! ## Nothing sensitive is left -/

section Values

variable (py : Stdlib)

/-- A key that may stand, with a value that may stand under it. -/
structure Harmless (key : String) (value : JSONValue) : Prop where
  not_sensitive : isSensitiveMetadataKey (normalizeKey py key) = false
  summary : normalizeKey py key = "payment" → ∀ payment, value = .dict payment →
    ∀ e ∈ payment, e.1 ∈ summaryFields

mutual

/-- No object has a sensitive key, at any depth, and a payment that is an object has the fields
of a summary only. -/
def Redacted : JSONValue → Prop
  | .dict items => RedactedPairs items
  | .list items => RedactedItems items
  | .null => True
  | .bool _ => True
  | .int _ => True
  | .float _ => True
  | .str _ => True

def RedactedItems : List JSONValue → Prop
  | [] => True
  | item :: items => Redacted item ∧ RedactedItems items

def RedactedPairs : JSONObject → Prop
  | [] => True
  | (key, value) :: rest => Harmless py key value ∧ Redacted value ∧ RedactedPairs rest

end

theorem redactedPairs_iff (items : JSONObject) :
    RedactedPairs py items ↔ ∀ e ∈ items, Harmless py e.1 e.2 ∧ Redacted py e.2 := by
  induction items with
  | nil =>
      rw [RedactedPairs]
      exact ⟨fun _ e he => (by cases he), fun _ => trivial⟩
  | cons e items ih =>
      obtain ⟨key, value⟩ := e
      rw [RedactedPairs, ih, List.forall_mem_cons, and_assoc]

theorem mem_objectSet {object : JSONObject} {key : String} {value : JSONValue}
    {e : String × JSONValue} (h : e ∈ objectSet object key value) :
    e = (key, value) ∨ e ∈ object := by
  unfold objectSet at h
  split at h
  · rw [List.mem_map] at h
    obtain ⟨e', he', rfl⟩ := h
    split
    · exact .inl rfl
    · exact .inr he'
  · rw [List.mem_append, List.mem_singleton] at h
    exact h.symm

theorem mem_withRedactedCount {count : ℕ} {safe : JSONObject} {e : String × JSONValue}
    (h : e ∈ withRedactedCount count safe) :
    e = ("redacted_metadata_fields", .int count) ∨ e ∈ safe := by
  unfold withRedactedCount at h
  split at h
  · exact mem_objectSet h
  · exact .inr h

theorem redactedPairs_withRedactedCount {safe : JSONObject} (h : RedactedPairs py safe)
    (count : ℕ) : RedactedPairs py (withRedactedCount count safe) := by
  rw [redactedPairs_iff] at h ⊢
  intro e he
  rcases mem_withRedactedCount he with rfl | he
  · exact ⟨⟨redactedFields_not_sensitive py, fun _ _ hdict => (by cases hdict)⟩, trivial⟩
  · exact h e he

theorem redactedPairs_summary (payment : JSONObject) :
    RedactedPairs py (paymentMetadataSummary payment) := by
  rw [redactedPairs_iff]
  rintro ⟨field, value⟩ he
  obtain ⟨hfield, hvalue⟩ := mem_paymentMetadataSummary he
  refine ⟨⟨summaryFields_not_sensitive py field hfield, ?_⟩, ?_⟩
  · rintro _ inner rfl
    rcases hvalue with h | ⟨s, h⟩
    · cases h
    · cases h
  · rcases hvalue with rfl | ⟨s, rfl⟩
    · trivial
    · trivial

/-- INTERNAL: redaction makes no object of what is not one. -/
theorem auditSafeMetadataValue_eq_dict {value : JSONValue} {items : JSONObject}
    (h : auditSafeMetadataValue py value = .dict items) : ∃ inner, value = .dict inner := by
  cases value with
  | dict inner => exact ⟨inner, rfl⟩
  | _ => simp [auditSafeMetadataValue] at h

mutual

theorem redacted_value : ∀ value : JSONValue, Redacted py (auditSafeMetadataValue py value)
  | .dict items => by
      rw [auditSafeMetadataValue, Redacted]
      exact redactedPairs_withRedactedCount py (redacted_entries items) _
  | .list items => by
      rw [auditSafeMetadataValue, Redacted]
      exact redacted_items items
  | .null => trivial
  | .bool _ => trivial
  | .int _ => trivial
  | .float _ => trivial
  | .str _ => trivial

theorem redacted_items : ∀ items : List JSONValue, RedactedItems py (auditSafeItems py items)
  | [] => trivial
  | item :: items => by
      rw [auditSafeItems, RedactedItems]
      exact ⟨redacted_value item, redacted_items items⟩

theorem redacted_entries : ∀ items : JSONObject, RedactedPairs py (safeEntries py items)
  | [] => trivial
  | (key, value) :: rest => by
      have hrest := redacted_entries rest
      have hvalue := redacted_value value
      rw [safeEntries_cons]
      cases hkept : keptValue py key value with
      | none => exact hrest
      | some kept =>
          rw [RedactedPairs]
          rcases keptValue_eq_some py hkept with
            ⟨hpayment, payment, _, rfl⟩ | ⟨hsensitive, rfl, hplain⟩
          · refine ⟨⟨?_, ?_⟩, redactedPairs_summary py payment, hrest⟩
            · rw [hpayment]
              exact isSensitiveMetadataKey_payment
            · rintro _ inner hinner e he
              cases hinner
              exact (mem_paymentMetadataSummary he).1
          · refine ⟨⟨hsensitive, ?_⟩, hvalue, hrest⟩
            intro hpayment inner hinner
            obtain ⟨dict, hdict⟩ := auditSafeMetadataValue_eq_dict py hinner
            exact absurd hpayment (hplain dict hdict)

end

/-! ## Redaction once is enough -/

/-- Every entry is kept as it is. -/
def Stable (items : JSONObject) : Prop := ∀ e ∈ items, keptValue py e.1 e.2 = some e.2

theorem Stable.safeEntries_eq {items : JSONObject} (h : Stable py items) :
    safeEntries py items = items := by
  induction items with
  | nil => rw [safeEntries]
  | cons e items ih =>
      obtain ⟨key, value⟩ := e
      rw [safeEntries_cons, h (key, value) List.mem_cons_self]
      simp only
      rw [ih fun e he => h e (List.mem_cons_of_mem _ he)]

theorem Stable.redactedCount_eq {items : JSONObject} (h : Stable py items) :
    redactedCount py items = 0 := by
  unfold redactedCount
  rw [List.countP_eq_zero]
  intro e he
  rcases keptValue_eq_some py (h e he) with ⟨hpayment, _⟩ | ⟨hsensitive, _⟩
  · rw [hpayment, isSensitiveMetadataKey_payment]
    exact Bool.false_ne_true
  · rw [hsensitive]
    exact Bool.false_ne_true

theorem Stable.concat_count {items : JSONObject} (h : Stable py items) (count : ℕ) :
    Stable py (withRedactedCount count items) := by
  intro e he
  rcases mem_withRedactedCount he with rfl | he
  · exact keptValue_of_plain py (redactedFields_not_sensitive py)
      fun _ hdict => (by cases hdict)
  · exact h e he

theorem Stable.auditSafeMetadata_eq {items : JSONObject} (h : Stable py items) :
    auditSafeMetadata py items = items := by
  unfold auditSafeMetadata
  rw [h.redactedCount_eq, h.safeEntries_eq]
  rfl

mutual

theorem auditSafeMetadataValue_idem : ∀ value : JSONValue,
    auditSafeMetadataValue py (auditSafeMetadataValue py value) = auditSafeMetadataValue py value
  | .dict items => by
      have hstable := (stable_safeEntries items).concat_count py (redactedCount py items)
      rw [auditSafeMetadataValue, auditSafeMetadataValue]
      exact congrArg JSONValue.dict (hstable.auditSafeMetadata_eq py)
  | .list items => by
      rw [auditSafeMetadataValue, auditSafeMetadataValue, auditSafeItems_idem items]
  | .null => rfl
  | .bool _ => rfl
  | .int _ => rfl
  | .float _ => rfl
  | .str _ => rfl

theorem auditSafeItems_idem : ∀ items : List JSONValue,
    auditSafeItems py (auditSafeItems py items) = auditSafeItems py items
  | [] => by rw [auditSafeItems, auditSafeItems]
  | item :: items => by
      rw [auditSafeItems, auditSafeItems, auditSafeMetadataValue_idem item,
        auditSafeItems_idem items]

theorem stable_safeEntries : ∀ items : JSONObject, Stable py (safeEntries py items)
  | [] => by
      rw [safeEntries]
      intro e he
      cases he
  | (key, value) :: rest => by
      have hrest := stable_safeEntries rest
      have hvalue := auditSafeMetadataValue_idem value
      rw [safeEntries_cons]
      cases hkept : keptValue py key value with
      | none => exact hrest
      | some kept =>
          intro e he
          rcases List.mem_cons.mp he with rfl | he
          · rcases keptValue_eq_some py hkept with
              ⟨hpayment, payment, _, rfl⟩ | ⟨hsensitive, rfl, hplain⟩
            · unfold keptValue
              simp only [if_pos hpayment, paymentMetadataSummary_idem]
            · rw [keptValue_of_plain py hsensitive, hvalue]
              intro payment hpayment
              obtain ⟨dict, hdict⟩ := auditSafeMetadataValue_eq_dict py hpayment
              exact hplain dict hdict
          · exact hrest e he

end

/-! ## What is dropped does not matter -/

/-- Two payments that agree on the currency and the rails. -/
def AlikePayments (value other : JSONValue) : Prop :=
  ∃ payment payment', value = .dict payment ∧ other = .dict payment' ∧
    objectGet? payment "currency" = objectGet? payment' "currency" ∧
    objectGet? payment "rails" = objectGet? payment' "rails"

mutual

/-- The values differ only under sensitive keys, or in fields of payments other than the currency
and the rails. -/
def Alike : JSONValue → JSONValue → Prop
  | .dict items, .dict items' => AlikePairs items items'
  | .list items, .list items' => AlikeItems items items'
  | value, value' => value = value'

def AlikeItems : List JSONValue → List JSONValue → Prop
  | [], [] => True
  | item :: items, item' :: items' => Alike item item' ∧ AlikeItems items items'
  | _, _ => False

def AlikePairs : JSONObject → JSONObject → Prop
  | [], [] => True
  | (key, value) :: rest, (key', value') :: rest' =>
      key = key' ∧
        (isSensitiveMetadataKey (normalizeKey py key) = true ∨
          (normalizeKey py key = "payment" ∧ AlikePayments value value') ∨
          Alike value value') ∧
        AlikePairs rest rest'
  | _, _ => False

end

/-- INTERNAL: alike values are two objects, two lists, or the same. -/
theorem Alike.cases {value value' : JSONValue} (h : Alike py value value') :
    (∃ items items', value = .dict items ∧ value' = .dict items' ∧ AlikePairs py items items') ∨
      (∃ items items', value = .list items ∧ value' = .list items' ∧
        AlikeItems py items items') ∨ value = value' := by
  cases value with
  | dict items =>
      cases value' with
      | dict items' =>
          rw [Alike] at h
          exact .inl ⟨items, items', rfl, rfl, h⟩
      | _ => simp [Alike] at h
  | list items =>
      cases value' with
      | list items' =>
          rw [Alike] at h
          exact .inr (.inl ⟨items, items', rfl, rfl, h⟩)
      | _ => simp [Alike] at h
  | _ => exact .inr (.inr (by simpa [Alike] using h))

theorem Alike.eq_of_plain {value value' : JSONValue} (h : Alike py value value')
    (hdict : ∀ items, value ≠ .dict items) (hlist : ∀ items, value ≠ .list items) :
    value = value' := by
  rcases h.cases with ⟨items, _, hitems, _⟩ | ⟨items, _, hitems, _⟩ | hsame
  · exact absurd hitems (hdict items)
  · exact absurd hitems (hlist items)
  · exact hsame

theorem stringValue_of_alike {value value' : JSONValue} (h : Alike py value value') :
    stringValue (some value) = stringValue (some value') := by
  rcases h.cases with ⟨items, items', rfl, rfl, _⟩ | ⟨items, items', rfl, rfl, _⟩ | rfl
  · rfl
  · rfl
  · rfl

/-- INTERNAL: a field with a plain key is there in both or in neither, with alike values. -/
theorem stringValue_get?_of_alikePairs {key : String}
    (hsensitive : isSensitiveMetadataKey (normalizeKey py key) = false)
    (hpayment : normalizeKey py key ≠ "payment") {items items' : JSONObject}
    (h : AlikePairs py items items') :
    stringValue (objectGet? items key) = stringValue (objectGet? items' key) := by
  induction items generalizing items' with
  | nil =>
      cases items' with
      | nil => rfl
      | cons e rest => simp [AlikePairs] at h
  | cons e items ih =>
      obtain ⟨k, value⟩ := e
      cases items' with
      | nil => simp [AlikePairs] at h
      | cons e' items' =>
          obtain ⟨k', value'⟩ := e'
          rw [AlikePairs] at h
          obtain ⟨rfl, hvalues, hrest⟩ := h
          by_cases hk : k = key
          · subst hk
            have halike : Alike py value value' := by
              rcases hvalues with hs | ⟨hp, _⟩ | halike
              · rw [hsensitive] at hs
                cases hs
              · exact absurd hp hpayment
              · exact halike
            have hfound : ∀ (v : JSONValue) (l : JSONObject),
                objectGet? ((k, v) :: l) k = some v := by
              intro v l
              unfold objectGet?
              rw [List.find?_cons_of_pos (by simp)]
              rfl
            rw [hfound, hfound]
            exact stringValue_of_alike py halike
          · have hskip : ∀ (v : JSONValue) (l : JSONObject),
                objectGet? ((k, v) :: l) key = objectGet? l key := by
              intro v l
              unfold objectGet?
              rw [List.find?_cons_of_neg (by simpa using hk)]
            rw [hskip, hskip]
            exact ih hrest

theorem summary_fields_plain : ∀ field ∈ ["currency", "rails"],
    isSensitiveMetadataKey (normalizeKey py field) = false ∧ normalizeKey py field ≠ "payment" := by
  intro field hfield
  have hlower : ∀ field ∈ ["currency", "rails"],
      ∀ c ∈ field.toList, Text.Visible c ∧ Text.lowerLatin1 c = c := by decide
  have hplain : ∀ field ∈ ["currency", "rails"],
      isSensitiveMetadataKey field = false ∧ field ≠ "payment" := by decide
  rw [normalizeKey_of_lower py (hlower field hfield)]
  exact hplain field hfield

theorem paymentMetadataSummary_of_alike {items items' : JSONObject}
    (h : AlikePairs py items items') :
    paymentMetadataSummary items = paymentMetadataSummary items' := by
  have hfield : ∀ field ∈ ["currency", "rails"],
      stringValue (objectGet? items field) = stringValue (objectGet? items' field) := by
    intro field hmem
    obtain ⟨hsensitive, hpayment⟩ := summary_fields_plain py field hmem
    exact stringValue_get?_of_alikePairs py hsensitive hpayment h
  rw [paymentMetadataSummary_eq, paymentMetadataSummary_eq, hfield "currency" (by simp),
    hfield "rails" (by simp)]

theorem keptValue_of_alike {key : String} {value value' : JSONValue}
    (h : Alike py value value')
    (hsafe : auditSafeMetadataValue py value = auditSafeMetadataValue py value') :
    keptValue py key value = keptValue py key value' := by
  rcases h.cases with ⟨items, items', rfl, rfl, hitems⟩ | ⟨items, items', rfl, rfl, _⟩ | rfl
  · unfold keptValue
    simp only
    rw [hsafe, paymentMetadataSummary_of_alike py hitems]
  · unfold keptValue
    simp only
    rw [hsafe]
  · rfl

theorem redactedCount_of_alike {items items' : JSONObject} (h : AlikePairs py items items') :
    redactedCount py items = redactedCount py items' := by
  induction items generalizing items' with
  | nil =>
      cases items' with
      | nil => rfl
      | cons e rest => simp [AlikePairs] at h
  | cons e items ih =>
      cases items' with
      | nil => simp [AlikePairs] at h
      | cons e' items' =>
          rw [AlikePairs] at h
          obtain ⟨hkey, _, hrest⟩ := h
          unfold redactedCount at ih ⊢
          rw [List.countP_cons, List.countP_cons, ih hrest, hkey]

mutual

theorem auditSafeMetadataValue_of_alike : ∀ value value' : JSONValue, Alike py value value' →
    auditSafeMetadataValue py value = auditSafeMetadataValue py value'
  | .dict items, value', h => by
      rcases h.cases with ⟨_, items', hsame, rfl, halike⟩ | ⟨_, _, hlist, _⟩ | rfl
      · cases hsame
        rw [auditSafeMetadataValue, auditSafeMetadataValue, redactedCount_of_alike py halike,
          safeEntries_of_alike items items' halike]
      · cases hlist
      · rfl
  | .list items, value', h => by
      rcases h.cases with ⟨_, _, hdict, _⟩ | ⟨_, items', hsame, rfl, halike⟩ | rfl
      · cases hdict
      · cases hsame
        rw [auditSafeMetadataValue, auditSafeMetadataValue,
          auditSafeItems_of_alike items items' halike]
      · rfl
  | .null, _, h => by
      rw [h.eq_of_plain py (fun _ hdict => (by cases hdict)) (fun _ hlist => (by cases hlist))]
  | .bool _, _, h => by
      rw [h.eq_of_plain py (fun _ hdict => (by cases hdict)) (fun _ hlist => (by cases hlist))]
  | .int _, _, h => by
      rw [h.eq_of_plain py (fun _ hdict => (by cases hdict)) (fun _ hlist => (by cases hlist))]
  | .float _, _, h => by
      rw [h.eq_of_plain py (fun _ hdict => (by cases hdict)) (fun _ hlist => (by cases hlist))]
  | .str _, _, h => by
      rw [h.eq_of_plain py (fun _ hdict => (by cases hdict)) (fun _ hlist => (by cases hlist))]

theorem auditSafeItems_of_alike : ∀ items items' : List JSONValue, AlikeItems py items items' →
    auditSafeItems py items = auditSafeItems py items'
  | [], [], _ => rfl
  | [], _ :: _, h => by simp [AlikeItems] at h
  | _ :: _, [], h => by simp [AlikeItems] at h
  | item :: items, item' :: items', h => by
      rw [AlikeItems] at h
      rw [auditSafeItems, auditSafeItems, auditSafeMetadataValue_of_alike item item' h.1,
        auditSafeItems_of_alike items items' h.2]

theorem safeEntries_of_alike : ∀ items items' : JSONObject, AlikePairs py items items' →
    safeEntries py items = safeEntries py items'
  | [], [], _ => rfl
  | [], _ :: _, h => by simp [AlikePairs] at h
  | _ :: _, [], h => by simp [AlikePairs] at h
  | (key, value) :: rest, (key', value') :: rest', h => by
      rw [AlikePairs] at h
      obtain ⟨rfl, hvalues, hrest⟩ := h
      have hkept : keptValue py key value = keptValue py key value' := by
        rcases hvalues with hsensitive | ⟨hpayment, payment, payment', rfl, rfl, hc, hr⟩ | halike
        · rw [keptValue_of_sensitive py hsensitive, keptValue_of_sensitive py hsensitive]
        · unfold keptValue
          simp only [if_pos hpayment]
          rw [paymentMetadataSummary_eq, paymentMetadataSummary_eq, hc, hr]
        · exact keptValue_of_alike py halike (auditSafeMetadataValue_of_alike value value' halike)
      rw [safeEntries_cons, safeEntries_cons, hkept,
        safeEntries_of_alike rest rest' hrest]

end

end Values

/-- Redaction leaves nothing sensitive, is not changed by another redaction, and cannot be told
apart by what it drops. -/
theorem auditSafeMetadata_redacts (py : Stdlib) (metadata : JSONObject) :
    Redacted py (.dict (auditSafeMetadata py metadata)) ∧
      auditSafeMetadata py (auditSafeMetadata py metadata) = auditSafeMetadata py metadata ∧
      ∀ metadata', AlikePairs py metadata metadata' →
        auditSafeMetadata py metadata = auditSafeMetadata py metadata' := by
  refine ⟨?_, ?_, ?_⟩
  · have hredacted := redacted_value py (.dict metadata)
    rwa [auditSafeMetadataValue] at hredacted
  · have hstable := (stable_safeEntries py metadata).concat_count py (redactedCount py metadata)
    exact hstable.auditSafeMetadata_eq py
  · intro metadata' halike
    unfold auditSafeMetadata
    rw [redactedCount_of_alike py halike, safeEntries_of_alike py metadata metadata' halike]

open Reference in
/-- The amount and the account of two payments differ, and so do their tokens. -/
theorem auditSafeMetadata_redacts_payments :
    auditSafeMetadata stdlib
        [("payment", .dict [("currency", .str "RUB"), ("account", .str "1")]),
          ("token", .str "a"), ("note", .str "june")] =
      auditSafeMetadata stdlib
        [("payment", .dict [("currency", .str "RUB"), ("account", .str "2")]),
          ("token", .null), ("note", .str "june")] := by
  refine (auditSafeMetadata_redacts stdlib _).2.2 _ ?_
  have hpayment : normalizeKey stdlib "payment" = "payment" :=
    normalizeKey_of_lower stdlib (by decide)
  have htoken : normalizeKey stdlib "token" = "token" :=
    normalizeKey_of_lower stdlib (by decide)
  simp only [AlikePairs, hpayment, htoken]
  refine ⟨trivial, .inr (.inl ⟨trivial, _, _, rfl, rfl, rfl, rfl⟩), trivial, .inl (by decide),
    trivial, .inr (.inr ?_), trivial⟩
  rw [Alike]
  · intro _ _ h
    cases h
  · intro _ _ h
    cases h

end MediaCenter.HitlPayout
