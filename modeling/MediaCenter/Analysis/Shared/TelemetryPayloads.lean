import MediaCenter.Model.Shared.Observability
import MediaCenter.Model.Shared.Reference

/-!
# What a sanitised payload keeps

Sanitising succeeds exactly on the safe payloads, and then fills a new mapping under the stripped
keys.  Two keys of one mapping that are the same without their spaces become one entry, and the
value of the first is lost; where no two meet, the result is the payload with its keys stripped.
-/

set_option autoImplicit false

namespace MediaCenter.Shared

namespace Observability

open MediaCenter.Library

/-! ## Safe payloads -/

section Safe

variable (py : TelemetryStdlib)

/-- The key is a string, a token once stripped, and neither a forbidden name nor one with a
forbidden fragment. -/
def SafeKey (key : TelemetryKey) : Prop :=
  ∃ s, key = .str s ∧ tokenPattern (Text.strip s) = true ∧
    foldedFieldName py (Text.strip s) ∉ forbiddenFieldNames ∧
    ∀ fragment ∈ forbiddenFieldFragments,
      ¬ fragment.toList <:+: (foldedFieldName py (Text.strip s)).toList

/-- The text holds no e-mail, bearer token or private key. -/
def SafeText (s : String) : Prop :=
  py.hasEmail s = false ∧ py.hasBearer s = false ∧ py.hasPrivateKey s = false

mutual

/-- Safe at every depth. -/
def SafeValue : TelemetryValue → Prop
  | .none => True
  | .bool _ => True
  | .int _ => True
  | .float x => ∃ q, x = .finite q
  | .str s => SafeText py s
  | .mapping items => SafeItems items
  | .sequence items => SafeElements items

def SafeItems : List (TelemetryKey × TelemetryValue) → Prop
  | [] => True
  | (key, value) :: rest => SafeKey py key ∧ SafeValue value ∧ SafeItems rest

def SafeElements : List TelemetryValue → Prop
  | [] => True
  | item :: rest => SafeValue item ∧ SafeElements rest

end

end Safe

/-! ## Stripped keys -/

def TelemetryKey.stripped : TelemetryKey → TelemetryKey
  | .str s => .str (Text.strip s)
  | .other => .other

mutual

/-- The payload with its keys stripped, entry by entry. -/
def stripKeys : TelemetryValue → TelemetryValue
  | .none => .none
  | .bool b => .bool b
  | .int n => .int n
  | .float x => .float x
  | .str s => .str s
  | .mapping items => .mapping (stripItems items)
  | .sequence items => .sequence (stripElements items)

def stripItems : List (TelemetryKey × TelemetryValue) → List (TelemetryKey × TelemetryValue)
  | [] => []
  | (key, value) :: rest => (key.stripped, stripKeys value) :: stripItems rest

def stripElements : List TelemetryValue → List TelemetryValue
  | [] => []
  | item :: rest => stripKeys item :: stripElements rest

end

mutual

/-- No two keys of one mapping meet once they are stripped, at any depth. -/
def Apart : TelemetryValue → Prop
  | .none => True
  | .bool _ => True
  | .int _ => True
  | .float _ => True
  | .str _ => True
  | .mapping items => (items.map fun e => e.1.stripped).Nodup ∧ ApartItems items
  | .sequence items => ApartElements items

def ApartItems : List (TelemetryKey × TelemetryValue) → Prop
  | [] => True
  | (_, value) :: rest => Apart value ∧ ApartItems rest

def ApartElements : List TelemetryValue → Prop
  | [] => True
  | item :: rest => Apart item ∧ ApartElements rest

end

/-! ## What the loops fill -/

def TelemetryKey.text : TelemetryKey → String
  | .str s => Text.strip s
  | .other => ""

mutual

/-- What sanitising makes of a safe value: keys that meet become one. -/
def merged : TelemetryValue → TelemetryValue
  | .none => .none
  | .bool b => .bool b
  | .int n => .int n
  | .float x => .float x
  | .str s => .str s
  | .mapping items => .ofDict (Dict.ofList (mergedItems items))
  | .sequence items => .sequence (mergedElements items)

/-- What is set, in order. -/
def mergedItems : List (TelemetryKey × TelemetryValue) → List (String × TelemetryValue)
  | [] => []
  | (key, value) :: rest => (key.text, merged value) :: mergedItems rest

def mergedElements : List TelemetryValue → List TelemetryValue
  | [] => []
  | item :: rest => merged item :: mergedElements rest

end

section Sanitizing

variable {py : TelemetryStdlib}

theorem normalizePayloadKey_eq_ok_iff {key : TelemetryKey} {normalized : String} :
    normalizePayloadKey py key = .ok normalized ↔
      (∃ s, key = .str s ∧ tokenPattern (Text.strip s) = true) ∧ normalized = key.text := by
  cases key with
  | other => exact ⟨fun h => (by cases h), fun ⟨⟨_, h, _⟩, _⟩ => (by cases h)⟩
  | str s =>
      unfold normalizePayloadKey TelemetryKey.text
      dsimp only
      by_cases htoken : tokenPattern (Text.strip s) = true
      · rw [if_pos htoken, Except.ok.injEq]
        exact ⟨fun h => ⟨⟨s, rfl, htoken⟩, h.symm⟩, fun h => h.2.symm⟩
      · rw [if_neg htoken]
        refine ⟨fun h => (by cases h), ?_⟩
        rintro ⟨⟨t, ⟨⟩, ht⟩, -⟩
        exact absurd ht htoken

theorem assertSafeFieldName_eq_ok_iff {fieldName : String} {u : Unit} :
    assertSafeFieldName py fieldName = .ok u ↔
      foldedFieldName py fieldName ∉ forbiddenFieldNames ∧
        ∀ fragment ∈ forbiddenFieldFragments,
          ¬ fragment.toList <:+: (foldedFieldName py fieldName).toList := by
  unfold assertSafeFieldName
  simp only [bind_eq_ok_iff, refuseIf_eq_ok_iff, exists_const, not_exists, not_and]

theorem assertSafeStringValue_eq_ok_iff {value path : String} {u : Unit} :
    assertSafeStringValue py value path = .ok u ↔ SafeText py value := by
  unfold assertSafeStringValue SafeText
  simp only [bind_eq_ok_iff, refuseIf_eq_ok_iff, exists_const, Bool.not_eq_true]

/-- INTERNAL: the two checks of a key. -/
theorem safeKey_iff {key : TelemetryKey} :
    SafeKey py key ↔ ∃ u, normalizePayloadKey py key = .ok key.text ∧
      assertSafeFieldName py key.text = .ok u := by
  simp only [normalizePayloadKey_eq_ok_iff, assertSafeFieldName_eq_ok_iff, and_true, exists_const]
  unfold SafeKey
  constructor
  · rintro ⟨s, rfl, htoken, hname⟩
    exact ⟨⟨s, rfl, htoken⟩, hname⟩
  · rintro ⟨⟨s, rfl, htoken⟩, hname⟩
    exact ⟨s, rfl, htoken, hname⟩

mutual

/-- A value is sanitised exactly when it is safe, whatever its path. -/
theorem sanitizeJsonValue_eq_ok_iff : ∀ (value : TelemetryValue) (path : String)
    (r : TelemetryValue),
    sanitizeJsonValue py value path = .ok r ↔ SafeValue py value ∧ r = merged value
  | .none, path, r => by
      rw [sanitizeJsonValue, SafeValue, merged, Except.ok.injEq, true_and, eq_comm]
  | .bool b, path, r => by
      rw [sanitizeJsonValue, SafeValue, merged, Except.ok.injEq, true_and, eq_comm]
  | .int n, path, r => by
      rw [sanitizeJsonValue, SafeValue, merged, Except.ok.injEq, true_and, eq_comm]
  | .float (.finite x), path, r => by
      rw [sanitizeJsonValue, SafeValue, merged, Except.ok.injEq, eq_comm]
      exact ⟨fun h => ⟨⟨x, rfl⟩, h⟩, fun h => h.2⟩
  | .float (.infinite negative), path, r => by
      rw [SafeValue]
      exact ⟨fun h => by simp [sanitizeJsonValue] at h, fun ⟨⟨_, h⟩, _⟩ => (by cases h)⟩
  | .float .nan, path, r => by
      rw [SafeValue]
      exact ⟨fun h => by simp [sanitizeJsonValue] at h, fun ⟨⟨_, h⟩, _⟩ => (by cases h)⟩
  | .str s, path, r => by
      rw [sanitizeJsonValue, SafeValue, merged, bind_eq_ok_iff]
      simp only [assertSafeStringValue_eq_ok_iff, exists_const]
      exact and_congr_right fun _ => ⟨fun h => (Except.ok.inj h).symm, fun h => h ▸ rfl⟩
  | .mapping items, path, r => by
      rw [sanitizeJsonValue, SafeValue, merged, bind_eq_ok_iff]
      simp only [sanitizeItems_eq_ok_iff items]
      constructor
      · rintro ⟨nested, ⟨hsafe, rfl⟩, h⟩
        exact ⟨hsafe, (Except.ok.inj h).symm⟩
      · rintro ⟨hsafe, rfl⟩
        exact ⟨_, ⟨hsafe, rfl⟩, rfl⟩
  | .sequence items, path, r => by
      rw [sanitizeJsonValue, SafeValue, merged, bind_eq_ok_iff]
      simp only [sanitizeElements_eq_ok_iff items]
      constructor
      · rintro ⟨sanitized, ⟨hsafe, rfl⟩, h⟩
        exact ⟨hsafe, (Except.ok.inj h).symm⟩
      · rintro ⟨hsafe, rfl⟩
        exact ⟨_, ⟨hsafe, rfl⟩, rfl⟩

theorem sanitizeItems_eq_ok_iff : ∀ (items : List (TelemetryKey × TelemetryValue))
    (pathOf : String → String) (nested filled : Dict String TelemetryValue),
    sanitizeItems py items pathOf nested = .ok filled ↔
      SafeItems py items ∧
        filled = (mergedItems items).foldl (fun d e => d.set e.1 e.2) nested
  | [], pathOf, nested, filled => by
      rw [sanitizeItems, SafeItems, mergedItems, List.foldl_nil, Except.ok.injEq, true_and, eq_comm]
  | (key, value) :: rest, pathOf, nested, filled => by
      rw [sanitizeItems, SafeItems, mergedItems, List.foldl_cons, safeKey_iff]
      simp only [bind_eq_ok_iff, sanitizeJsonValue_eq_ok_iff value,
        sanitizeItems_eq_ok_iff rest]
      constructor
      · rintro ⟨normalized, hkey, u, hname, r, ⟨hvalue, rfl⟩, hrest, rfl⟩
        obtain ⟨-, rfl⟩ := normalizePayloadKey_eq_ok_iff.mp hkey
        exact ⟨⟨⟨u, hkey, hname⟩, hvalue, hrest⟩, rfl⟩
      · rintro ⟨⟨⟨u, hkey, hname⟩, hvalue, hrest⟩, rfl⟩
        exact ⟨_, hkey, u, hname, _, ⟨hvalue, rfl⟩, hrest, rfl⟩

theorem sanitizeElements_eq_ok_iff : ∀ (items : List TelemetryValue) (path : String)
    (sanitized : List TelemetryValue),
    sanitizeElements py items path = .ok sanitized ↔
      SafeElements py items ∧ sanitized = mergedElements items
  | [], path, sanitized => by
      rw [sanitizeElements, SafeElements, mergedElements, Except.ok.injEq, true_and, eq_comm]
  | item :: rest, path, sanitized => by
      rw [sanitizeElements, SafeElements, mergedElements]
      simp only [bind_eq_ok_iff, sanitizeJsonValue_eq_ok_iff item,
        sanitizeElements_eq_ok_iff rest]
      constructor
      · rintro ⟨r, ⟨hitem, rfl⟩, others, ⟨hrest, rfl⟩, h⟩
        exact ⟨⟨hitem, hrest⟩, (Except.ok.inj h).symm⟩
      · rintro ⟨⟨hitem, hrest⟩, rfl⟩
        exact ⟨_, ⟨hitem, rfl⟩, _, ⟨hrest, rfl⟩, rfl⟩

end

/-! ## The error of a refused payload -/

def IsPrivacyError (e : ObservabilityException) : Prop := ∃ message, e = .privacy message

theorem isPrivacyError_of_refuseIf {condition : Prop} [Decidable condition] {message : String}
    {e : ObservabilityException} (h : refuseIf condition (.privacy message) = .error e) :
    IsPrivacyError e := by
  unfold refuseIf at h
  split at h
  · exact ⟨message, (Except.error.inj h).symm⟩
  · cases h

/-- INTERNAL: a sequence fails where its first step does, or its rest. -/
theorem isPrivacyError_bind {α β : Type} {x : Except ObservabilityException α}
    {f : α → Except ObservabilityException β} {e : ObservabilityException}
    (hx : ∀ e, x = .error e → IsPrivacyError e)
    (hf : ∀ a, x = .ok a → ∀ e, f a = .error e → IsPrivacyError e)
    (h : x >>= f = .error e) : IsPrivacyError e := by
  cases x with
  | error e' =>
      obtain rfl : e' = e := Except.error.inj h
      exact hx e' rfl
  | ok a => exact hf a rfl e h

theorem isPrivacyError_pure {α : Type} {a : α} {e : ObservabilityException}
    (h : (pure a : Except ObservabilityException α) = .error e) : IsPrivacyError e := by
  cases h

theorem isPrivacyError_of_normalizePayloadKey {key : TelemetryKey} {e : ObservabilityException}
    (h : normalizePayloadKey py key = .error e) : IsPrivacyError e := by
  cases key with
  | other => exact ⟨_, (Except.error.inj h).symm⟩
  | str s =>
      unfold normalizePayloadKey at h
      dsimp only at h
      split at h
      · cases h
      · exact ⟨_, (Except.error.inj h).symm⟩

theorem isPrivacyError_of_assertSafeFieldName {fieldName : String} {e : ObservabilityException}
    (h : assertSafeFieldName py fieldName = .error e) : IsPrivacyError e := by
  unfold assertSafeFieldName at h
  exact isPrivacyError_bind (fun _ => isPrivacyError_of_refuseIf)
    (fun _ _ _ => isPrivacyError_of_refuseIf) h

theorem isPrivacyError_of_assertSafeStringValue {value path : String}
    {e : ObservabilityException} (h : assertSafeStringValue py value path = .error e) :
    IsPrivacyError e := by
  unfold assertSafeStringValue at h
  refine isPrivacyError_bind (fun _ => isPrivacyError_of_refuseIf) (fun _ _ e' h' => ?_) h
  exact isPrivacyError_bind (fun _ => isPrivacyError_of_refuseIf)
    (fun _ _ _ => isPrivacyError_of_refuseIf) h'

mutual

theorem isPrivacyError_of_sanitizeJsonValue : ∀ (value : TelemetryValue) (path : String)
    (e : ObservabilityException), sanitizeJsonValue py value path = .error e → IsPrivacyError e
  | .none, _, _, h => by simp [sanitizeJsonValue] at h
  | .bool _, _, _, h => by simp [sanitizeJsonValue] at h
  | .int _, _, _, h => by simp [sanitizeJsonValue] at h
  | .float (.finite _), _, _, h => by simp [sanitizeJsonValue] at h
  | .float (.infinite _), path, _, h => by
      rw [sanitizeJsonValue] at h
      · exact ⟨_, (Except.error.inj h).symm⟩
      · exact fun _ h => (by cases h)
  | .float .nan, path, _, h => by
      rw [sanitizeJsonValue] at h
      · exact ⟨_, (Except.error.inj h).symm⟩
      · exact fun _ h => (by cases h)
  | .str s, path, e, h => by
      rw [sanitizeJsonValue] at h
      exact isPrivacyError_bind (fun _ => isPrivacyError_of_assertSafeStringValue)
        (fun _ _ _ => isPrivacyError_pure) h
  | .mapping items, path, e, h => by
      rw [sanitizeJsonValue] at h
      exact isPrivacyError_bind (isPrivacyError_of_sanitizeItems items _ _)
        (fun _ _ _ => isPrivacyError_pure) h
  | .sequence items, path, e, h => by
      rw [sanitizeJsonValue] at h
      exact isPrivacyError_bind (isPrivacyError_of_sanitizeElements items _)
        (fun _ _ _ => isPrivacyError_pure) h

theorem isPrivacyError_of_sanitizeItems : ∀ (items : List (TelemetryKey × TelemetryValue))
    (pathOf : String → String) (nested : Dict String TelemetryValue) (e : ObservabilityException),
    sanitizeItems py items pathOf nested = .error e → IsPrivacyError e
  | [], _, _, _, h => by
      rw [sanitizeItems] at h
      cases h
  | (key, value) :: rest, pathOf, nested, e, h => by
      rw [sanitizeItems] at h
      refine isPrivacyError_bind (fun _ => isPrivacyError_of_normalizePayloadKey)
        (fun normalized _ e₁ h₁ => ?_) h
      refine isPrivacyError_bind (fun _ => isPrivacyError_of_assertSafeFieldName)
        (fun _ _ e₂ h₂ => ?_) h₁
      exact isPrivacyError_bind (isPrivacyError_of_sanitizeJsonValue value _)
        (fun sanitized _ => isPrivacyError_of_sanitizeItems rest pathOf _) h₂

theorem isPrivacyError_of_sanitizeElements : ∀ (items : List TelemetryValue) (path : String)
    (e : ObservabilityException), sanitizeElements py items path = .error e → IsPrivacyError e
  | [], _, _, h => by
      rw [sanitizeElements] at h
      cases h
  | item :: rest, path, e, h => by
      rw [sanitizeElements] at h
      refine isPrivacyError_bind (isPrivacyError_of_sanitizeJsonValue item _)
        (fun _ _ e₁ h₁ => ?_) h
      exact isPrivacyError_bind (isPrivacyError_of_sanitizeElements rest path)
        (fun _ _ _ => isPrivacyError_pure) h₁

end

end Sanitizing

/-! ## What the filled mapping keeps -/

theorem stripItems_eq_map (items : List (TelemetryKey × TelemetryValue)) :
    stripItems items = items.map fun e => (e.1.stripped, stripKeys e.2) := by
  induction items with
  | nil => rfl
  | cons e rest ih => rw [stripItems, ih, List.map_cons]

theorem mergedItems_eq_map (items : List (TelemetryKey × TelemetryValue)) :
    mergedItems items = items.map fun e => (e.1.text, merged e.2) := by
  induction items with
  | nil => rfl
  | cons e rest ih => rw [mergedItems, ih, List.map_cons]

section Kept

variable {py : TelemetryStdlib}

theorem safeItems_iff {items : List (TelemetryKey × TelemetryValue)} :
    SafeItems py items ↔ ∀ e ∈ items, SafeKey py e.1 ∧ SafeValue py e.2 := by
  induction items with
  | nil => exact ⟨fun _ e he => absurd he List.not_mem_nil, fun _ => trivial⟩
  | cons e rest ih => rw [SafeItems, ih, List.forall_mem_cons, and_assoc]

theorem stripped_of_safeKey {key : TelemetryKey} (h : SafeKey py key) :
    key.stripped = .str key.text := by
  obtain ⟨s, rfl, -⟩ := h
  rfl

/-- INTERNAL: stripped keys meet exactly where the texts they are set under do. -/
theorem nodup_stripped_iff {items : List (TelemetryKey × TelemetryValue)}
    (hsafe : SafeItems py items) :
    (items.map fun e => e.1.stripped).Nodup ↔ (items.map fun e => e.1.text).Nodup := by
  have hmap : (items.map fun e => e.1.stripped) =
      (items.map fun e => e.1.text).map TelemetryKey.str := by
    rw [List.map_map]
    apply List.map_congr_left
    intro e he
    exact stripped_of_safeKey (safeItems_iff.mp hsafe e he).1
  rw [hmap]
  exact List.nodup_map_iff fun _ _ h => TelemetryKey.str.inj h

theorem nodup_of_ofDict_eq {items : List (TelemetryKey × TelemetryValue)}
    {d : Dict String TelemetryValue}
    (h : TelemetryValue.ofDict d = .mapping (stripItems items)) :
    (items.map fun e => e.1.stripped).Nodup := by
  have hitems := TelemetryValue.mapping.inj h
  have hkeys := congrArg (List.map Prod.fst) hitems
  rw [stripItems_eq_map, List.map_map, List.map_map] at hkeys
  have hnodup : (d.entries.map fun e => TelemetryKey.str e.1).Nodup := by
    have hmap : (d.entries.map fun e => TelemetryKey.str e.1) =
        (d.entries.map Prod.fst).map TelemetryKey.str := by
      rw [List.map_map]
      rfl
    rw [hmap]
    exact d.nodup.map fun _ _ h => TelemetryKey.str.inj h
  exact hkeys ▸ hnodup

/-- INTERNAL: where no keys meet, every entry is set once. -/
theorem ofDict_mergedItems {items : List (TelemetryKey × TelemetryValue)}
    (hsafe : SafeItems py items) (hnodup : (items.map fun e => e.1.stripped).Nodup) :
    TelemetryValue.ofDict (Dict.ofList (mergedItems items)) =
      .mapping (items.map fun e => (e.1.stripped, merged e.2)) := by
  have hkeys : ((mergedItems items).map Prod.fst).Nodup := by
    rw [mergedItems_eq_map, List.map_map]
    exact (nodup_stripped_iff hsafe).mp hnodup
  unfold TelemetryValue.ofDict
  rw [Dict.entries_ofList hkeys, mergedItems_eq_map, List.map_map]
  refine congrArg TelemetryValue.mapping (List.map_congr_left fun e he => ?_)
  rw [Function.comp_apply, stripped_of_safeKey (safeItems_iff.mp hsafe e he).1]

mutual

/-- Over a tree: sanitising keeps every entry exactly where no keys meet. -/
theorem merged_eq_stripKeys_iff : ∀ value : TelemetryValue, SafeValue py value →
    (merged value = stripKeys value ↔ Apart value)
  | .none, _ => by rw [merged, stripKeys, Apart]; exact iff_of_true rfl trivial
  | .bool _, _ => by rw [merged, stripKeys, Apart]; exact iff_of_true rfl trivial
  | .int _, _ => by rw [merged, stripKeys, Apart]; exact iff_of_true rfl trivial
  | .float _, _ => by rw [merged, stripKeys, Apart]; exact iff_of_true rfl trivial
  | .str _, _ => by rw [merged, stripKeys, Apart]; exact iff_of_true rfl trivial
  | .mapping items, hsafe => by
      rw [SafeValue] at hsafe
      rw [merged, stripKeys, Apart]
      constructor
      · intro h
        have hnodup := nodup_of_ofDict_eq h
        rw [ofDict_mergedItems hsafe hnodup, TelemetryValue.mapping.injEq] at h
        exact ⟨hnodup, (mergedPairs_eq_iff items hsafe).mp h⟩
      · rintro ⟨hnodup, hitems⟩
        rw [ofDict_mergedItems hsafe hnodup, TelemetryValue.mapping.injEq]
        exact (mergedPairs_eq_iff items hsafe).mpr hitems
  | .sequence items, hsafe => by
      rw [SafeValue] at hsafe
      rw [merged, stripKeys, Apart, TelemetryValue.sequence.injEq]
      exact mergedElements_eq_iff items hsafe

theorem mergedPairs_eq_iff : ∀ items : List (TelemetryKey × TelemetryValue), SafeItems py items →
    ((items.map fun e => (e.1.stripped, merged e.2)) = stripItems items ↔ ApartItems items)
  | [], _ => by rw [stripItems, ApartItems]; exact iff_of_true rfl trivial
  | (key, value) :: rest, hsafe => by
      rw [SafeItems] at hsafe
      obtain ⟨-, hvalue, hrest⟩ := hsafe
      rw [List.map_cons, stripItems, ApartItems, List.cons.injEq, Prod.mk.injEq,
        merged_eq_stripKeys_iff value hvalue, mergedPairs_eq_iff rest hrest]
      exact and_congr_left fun _ => and_iff_right rfl

theorem mergedElements_eq_iff : ∀ items : List TelemetryValue, SafeElements py items →
    (mergedElements items = stripElements items ↔ ApartElements items)
  | [], _ => by rw [mergedElements, stripElements, ApartElements]; exact iff_of_true rfl trivial
  | item :: rest, hsafe => by
      rw [SafeElements] at hsafe
      rw [mergedElements, stripElements, ApartElements, List.cons.injEq,
        merged_eq_stripKeys_iff item hsafe.1, mergedElements_eq_iff rest hsafe.2]

end

/-! ## Sanitising twice -/

theorem text_str_text (key : TelemetryKey) :
    (TelemetryKey.str key.text).text = key.text := by
  cases key with
  | str s => exact Text.strip_strip s
  | other => decide

theorem safeKey_text {key : TelemetryKey} (h : SafeKey py key) : SafeKey py (.str key.text) := by
  obtain ⟨s, rfl, htoken, hname⟩ := h
  refine ⟨Text.strip s, rfl, ?_⟩
  rw [Text.strip_strip]
  exact ⟨htoken, hname⟩

/-- INTERNAL: every entry of a filled mapping was set by one of the items. -/
theorem exists_item_of_mem_entries {items : List (TelemetryKey × TelemetryValue)}
    {e : String × TelemetryValue} (h : e ∈ (Dict.ofList (mergedItems items)).entries) :
    ∃ item ∈ items, e = (item.1.text, merged item.2) := by
  have hset := Dict.mem_of_mem_entries_ofList h
  rw [mergedItems_eq_map, List.mem_map] at hset
  obtain ⟨item, hitem, rfl⟩ := hset
  exact ⟨item, hitem, rfl⟩

/-- INTERNAL: a mapping is filled again as it is when its keys are stripped and its values
sanitised. -/
theorem merged_ofDict {d : Dict String TelemetryValue}
    (h : ∀ e ∈ d.entries, (TelemetryKey.str e.1).text = e.1 ∧ merged e.2 = e.2) :
    Dict.ofList (mergedItems (d.entries.map fun e => (.str e.1, e.2))) = d := by
  have hmap : mergedItems (d.entries.map fun e => (.str e.1, e.2)) = d.entries := by
    rw [mergedItems_eq_map, List.map_map]
    refine (List.map_congr_left fun e he => ?_).trans (List.map_id d.entries)
    rw [Function.comp_apply, (h e he).1, (h e he).2]
    rfl
  rw [hmap, Dict.ofList_entries]

/-- What has been filled from safe items is safe, and filled again as it is. -/
theorem safe_ofDict {items : List (TelemetryKey × TelemetryValue)}
    (h : ∀ item ∈ items, SafeKey py item.1 ∧ SafeValue py (merged item.2) ∧
      merged (merged item.2) = merged item.2) :
    SafeValue py (.ofDict (Dict.ofList (mergedItems items))) ∧
      merged (.ofDict (Dict.ofList (mergedItems items))) =
        .ofDict (Dict.ofList (mergedItems items)) := by
  unfold TelemetryValue.ofDict
  rw [SafeValue, merged]
  constructor
  · rw [safeItems_iff]
    intro e he
    rw [List.mem_map] at he
    obtain ⟨entry, hentry, rfl⟩ := he
    obtain ⟨item, hitem, rfl⟩ := exists_item_of_mem_entries hentry
    obtain ⟨hkey, hvalue, -⟩ := h item hitem
    exact ⟨safeKey_text hkey, hvalue⟩
  · rw [merged_ofDict]
    · rfl
    · intro e he
      obtain ⟨item, hitem, rfl⟩ := exists_item_of_mem_entries he
      exact ⟨text_str_text item.1, (h item hitem).2.2⟩

mutual

/-- Sanitising a second time changes nothing: over a tree, one case per constructor. -/
theorem safe_merged : ∀ value : TelemetryValue, SafeValue py value →
    SafeValue py (merged value) ∧ merged (merged value) = merged value
  | .none, h => ⟨h, rfl⟩
  | .bool _, h => ⟨h, rfl⟩
  | .int _, h => ⟨h, rfl⟩
  | .float _, h => ⟨h, rfl⟩
  | .str _, h => ⟨h, rfl⟩
  | .mapping items, hsafe => by
      rw [SafeValue] at hsafe
      rw [merged]
      exact safe_ofDict (safe_mergedItems items hsafe)
  | .sequence items, hsafe => by
      rw [SafeValue] at hsafe
      rw [merged, SafeValue, merged, TelemetryValue.sequence.injEq]
      exact safe_mergedElements items hsafe

theorem safe_mergedItems : ∀ items : List (TelemetryKey × TelemetryValue), SafeItems py items →
    ∀ item ∈ items, SafeKey py item.1 ∧ SafeValue py (merged item.2) ∧
      merged (merged item.2) = merged item.2
  | [], _, item, hitem => absurd hitem List.not_mem_nil
  | (key, value) :: rest, hsafe, item, hitem => by
      rw [SafeItems] at hsafe
      obtain ⟨hkey, hvalue, hrest⟩ := hsafe
      rw [List.mem_cons] at hitem
      rcases hitem with rfl | hitem
      · exact ⟨hkey, safe_merged value hvalue⟩
      · exact safe_mergedItems rest hrest item hitem

theorem safe_mergedElements : ∀ items : List TelemetryValue, SafeElements py items →
    SafeElements py (mergedElements items) ∧
      mergedElements (mergedElements items) = mergedElements items
  | [], _ => ⟨trivial, rfl⟩
  | item :: rest, hsafe => by
      rw [SafeElements] at hsafe
      obtain ⟨hitem, hfixed⟩ := safe_merged item hsafe.1
      obtain ⟨hrest, hrests⟩ := safe_mergedElements rest hsafe.2
      rw [mergedElements, SafeElements, mergedElements, List.cons.injEq]
      exact ⟨⟨hitem, hrest⟩, hfixed, hrests⟩

end

/-! ## A payload -/

/-- The items of a filled mapping, to be sanitised again. -/
def itemsOf (d : Dict String TelemetryValue) : List (TelemetryKey × TelemetryValue) :=
  d.entries.map fun e => (.str e.1, e.2)

variable {payload : List (TelemetryKey × TelemetryValue)} {r : Dict String TelemetryValue}

theorem sanitizeObservabilityPayload_eq_ok_iff :
    sanitizeObservabilityPayload py payload = .ok r ↔
      SafeItems py payload ∧ r = Dict.ofList (mergedItems payload) :=
  sanitizeItems_eq_ok_iff payload _ _ r

theorem sanitize_itemsOf (h : sanitizeObservabilityPayload py payload = .ok r) :
    sanitizeObservabilityPayload py (itemsOf r) = .ok r := by
  obtain ⟨hsafe, rfl⟩ := sanitizeObservabilityPayload_eq_ok_iff.mp h
  have hitems := safe_mergedItems payload hsafe
  rw [sanitizeObservabilityPayload_eq_ok_iff]
  constructor
  · have hsafeAgain := (safe_ofDict hitems).1
    unfold TelemetryValue.ofDict at hsafeAgain
    rwa [SafeValue] at hsafeAgain
  · refine (merged_ofDict fun e he => ?_).symm
    obtain ⟨item, hitem, rfl⟩ := exists_item_of_mem_entries he
    exact ⟨text_str_text item.1, (hitems item hitem).2.2⟩

end Kept

/-- It returns on the safe payloads and raises a privacy error on all others; what it returns is
the payload with its keys stripped, entry by entry at every depth, and is returned as it is when
it is sanitised again. -/
def SanitizesFaithfully (py : TelemetryStdlib) (payload : List (TelemetryKey × TelemetryValue)) :
    Prop :=
  ((∃ r, sanitizeObservabilityPayload py payload = .ok r) ↔ SafeItems py payload) ∧
    (∀ e, sanitizeObservabilityPayload py payload = .error e → IsPrivacyError e) ∧
      ∀ r, sanitizeObservabilityPayload py payload = .ok r →
        TelemetryValue.ofDict r = stripKeys (.mapping payload) ∧
          sanitizeObservabilityPayload py (itemsOf r) = .ok r

theorem apart_of_sanitizesFaithfully {py : TelemetryStdlib}
    {payload : List (TelemetryKey × TelemetryValue)} (h : SanitizesFaithfully py payload)
    (hsafe : SafeItems py payload) : Apart (.mapping payload) := by
  obtain ⟨-, -, hkept⟩ := h
  obtain ⟨hstripped, -⟩ := hkept _ (sanitizeObservabilityPayload_eq_ok_iff.mpr ⟨hsafe, rfl⟩)
  rw [← merged_eq_stripKeys_iff (.mapping payload) (by rwa [SafeValue]), merged]
  exact hstripped

/-- A payload is sanitised faithfully exactly where it is refused, or no two keys of one of its
mappings meet. -/
theorem sanitizesFaithfully_iff (py : TelemetryStdlib)
    (payload : List (TelemetryKey × TelemetryValue)) :
    SanitizesFaithfully py payload ↔ (SafeItems py payload → Apart (.mapping payload)) := by
  refine ⟨apart_of_sanitizesFaithfully, fun hapart => ?_⟩
  refine ⟨?_, isPrivacyError_of_sanitizeItems payload _ _, ?_⟩
  · simp only [sanitizeObservabilityPayload_eq_ok_iff, exists_and_left, exists_eq, and_true]
  · intro r h
    refine ⟨?_, sanitize_itemsOf h⟩
    obtain ⟨hsafe, rfl⟩ := sanitizeObservabilityPayload_eq_ok_iff.mp h
    have hkept := merged_eq_stripKeys_iff (.mapping payload) (by rwa [SafeValue])
    rw [merged] at hkept
    exact hkept.mpr (hapart hsafe)

namespace Reference

/-- The standard library, computed; the three patterns are looser than the source's, and `repr`
is for text without quotes. -/
def telemetry : TelemetryStdlib where
  toStdlib := Shared.Reference.stdlib
  reprStr s := "'" ++ s ++ "'"
  format15g := Shared.Reference.reprFloat
  hasEmail s := decide ('@' ∈ s.toList)
  hasBearer s := decide ("bearer".toList <:+: s.toList.map Char.toLower)
  hasPrivateKey s := decide ("PRIVATE KEY-----".toList <:+: s.toList)

end Reference

/-- Two keys that meet: the entry of the first is lost. -/
theorem not_sanitizesFaithfully_of_spaced_key :
    ¬ SanitizesFaithfully Reference.telemetry
      [(.str "count", .int 1), (.str " count", .int 2)] := by
  have hcount : ∀ s, Text.strip s = "count" → SafeKey Reference.telemetry (.str s) := by
    intro s hs
    refine ⟨s, rfl, ?_⟩
    rw [hs]
    decide
  have hspaced : Text.strip " count" = "count" := by decide
  have hsafe : SafeItems Reference.telemetry [(.str "count", .int 1), (.str " count", .int 2)] :=
    ⟨hcount "count" (by decide), trivial, hcount " count" hspaced, trivial, trivial⟩
  intro hfaithful
  have hapart := apart_of_sanitizesFaithfully hfaithful hsafe
  rw [Apart] at hapart
  exact absurd hapart.1 (by decide)

end Observability

end MediaCenter.Shared
