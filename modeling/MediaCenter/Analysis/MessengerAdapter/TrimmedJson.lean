import MediaCenter.Analysis.Shared.SortedJson
import MediaCenter.Model.MessengerAdapter.ContentTransformer

/-!
# JSON that a contract has stripped

Stripping twice is stripping once, and what has been stripped holds no key twice and stays so
when its keys are put in order.
-/

set_option autoImplicit false

namespace MediaCenter.MessengerAdapter

open MediaCenter.Library MediaCenter.Shared

/-! ## Stripping twice -/

theorem trimmedItems_eq_map (items : List JSONValue) :
    trimmedItems items = items.map trimmed := by
  induction items with
  | nil => rfl
  | cons v vs ih => rw [trimmedItems, ih, List.map_cons]

theorem trimmedPairs_eq_map (items : JSONObject) :
    trimmedPairs items = items.map fun p => (Text.trim p.1, trimmed p.2) := by
  induction items with
  | nil => rfl
  | cons p rest ih => rw [trimmedPairs, ih, List.map_cons]

/-- INTERNAL: an object whose keys and values are trimmed is left as it is. -/
theorem trimmedPairs_eq_self {items : JSONObject}
    (h : ∀ p ∈ items, Text.trim p.1 = p.1 ∧ trimmed p.2 = p.2) : trimmedPairs items = items := by
  rw [trimmedPairs_eq_map]
  refine (List.map_congr_left fun p hp => ?_).trans (List.map_id items)
  obtain ⟨hkey, hvalue⟩ := h p hp
  rw [hkey, hvalue]
  rfl

theorem mem_trimmedObject {items : JSONObject} {p : String × JSONValue}
    (h : p ∈ trimmedObject items) : p ∈ trimmedPairs items := Dict.mem_of_mem_entries_ofList h

theorem trimmedObject_eq_self {items : JSONObject}
    (h : ∀ p ∈ trimmedObject items, Text.trim p.1 = p.1 ∧ trimmed p.2 = p.2) :
    trimmedObject (trimmedObject items) = trimmedObject items := by
  have hagain : trimmedObject (trimmedObject items) =
      (Dict.ofList (trimmedPairs (trimmedObject items))).entries := rfl
  rw [hagain, trimmedPairs_eq_self h]
  unfold trimmedObject
  rw [Dict.ofList_entries]

mutual

/-- Trimming a second time changes nothing: over a tree, one case per constructor. -/
theorem trimmed_trimmed : ∀ v : JSONValue, trimmed (trimmed v) = trimmed v
  | .null => rfl
  | .bool _ => rfl
  | .int _ => rfl
  | .float _ => rfl
  | .str s => congrArg JSONValue.str (Text.dropBoth_dropBoth _ s)
  | .list items => by
      rw [trimmed, trimmed, trimmedItems_trimmedItems items]
  | .dict items => by
      rw [trimmed, trimmed]
      refine congrArg JSONValue.dict (trimmedObject_eq_self fun p hp => ?_)
      exact trimmedPair_of_mem items p (mem_trimmedObject hp)

theorem trimmedItems_trimmedItems :
    ∀ items : List JSONValue, trimmedItems (trimmedItems items) = trimmedItems items
  | [] => rfl
  | v :: vs => by
      rw [trimmedItems, trimmedItems, trimmed_trimmed v, trimmedItems_trimmedItems vs]

theorem trimmedPair_of_mem : ∀ (items : JSONObject) (p : String × JSONValue),
    p ∈ trimmedPairs items → Text.trim p.1 = p.1 ∧ trimmed p.2 = p.2
  | [], p, hp => absurd hp List.not_mem_nil
  | (k, v) :: rest, p, hp => by
      rw [trimmedPairs, List.mem_cons] at hp
      rcases hp with rfl | hp
      · exact ⟨Text.dropBoth_dropBoth _ k, trimmed_trimmed v⟩
      · exact trimmedPair_of_mem rest p hp

end

theorem trimmedObject_trimmedObject (items : JSONObject) :
    trimmedObject (trimmedObject items) = trimmedObject items :=
  trimmedObject_eq_self fun p hp => trimmedPair_of_mem items p (mem_trimmedObject hp)

theorem trimmed_dict (items : JSONObject) : trimmed (.dict items) = .dict (trimmedObject items) :=
  trimmed.eq_7 items

/-! ## What has been stripped -/

theorem trimmedPair_of_trimmedObject_eq {items : JSONObject} (h : trimmedObject items = items) :
    ∀ p ∈ items, Text.trim p.1 = p.1 ∧ trimmed p.2 = p.2 := by
  intro p hp
  rw [← h] at hp
  exact trimmedPair_of_mem items p (mem_trimmedObject hp)

theorem nodup_of_trimmedObject_eq {items : JSONObject} (h : trimmedObject items = items) :
    (items.map Prod.fst).Nodup := by
  rw [← h]
  exact (Dict.ofList (trimmedPairs items)).nodup

/-- INTERNAL: an object without a key twice whose keys and values are trimmed. -/
theorem trimmedObject_eq_self_of_nodup {items : JSONObject} (hnodup : (items.map Prod.fst).Nodup)
    (h : ∀ p ∈ items, Text.trim p.1 = p.1 ∧ trimmed p.2 = p.2) : trimmedObject items = items := by
  unfold trimmedObject
  rw [trimmedPairs_eq_self h]
  exact Dict.entries_ofList hnodup

theorem dict_eq_of_trimmed {items : JSONObject} (h : trimmed (.dict items) = .dict items) :
    trimmedObject items = items := by
  rw [trimmed_dict] at h
  exact JSONValue.dict.inj h

theorem trimmed_of_mem_of_trimmed_list {items : List JSONValue}
    (h : trimmed (.list items) = .list items) : ∀ v ∈ items, trimmed v = v := by
  rw [trimmed, trimmedItems_eq_map] at h
  have hmap : items.map trimmed = items.map id := by
    rw [List.map_id]
    exact JSONValue.list.inj h
  exact List.map_inj_left.mp hmap

mutual

/-- What has been stripped is still so with its keys in order: over a tree, one case per
constructor. -/
theorem trimmed_sorted : ∀ {v : JSONValue}, trimmed v = v → trimmed v.sorted = v.sorted
  | .null, _ => rfl
  | .bool _, _ => rfl
  | .int _, _ => rfl
  | .float _, _ => rfl
  | .str _, h => h
  | .list items, h => by
      have hitems := trimmed_sorted_of_mem items (trimmed_of_mem_of_trimmed_list h)
      rw [JSONValue.sorted, trimmed, trimmedItems_eq_map, JSONValue.sortedItems_eq_map,
        List.map_map]
      exact congrArg JSONValue.list (List.map_congr_left hitems)
  | .dict items, h => by
      have hobject := dict_eq_of_trimmed h
      have hpairs := trimmedPair_of_trimmedObject_eq hobject
      have hvalues := trimmed_sorted_of_mem_pairs items fun p hp => (hpairs p hp).2
      have hperm := perm_sortKeys (JSONValue.sortedPairs items)
      rw [JSONValue.sorted, trimmed_dict]
      refine congrArg JSONValue.dict (trimmedObject_eq_self_of_nodup ?_ fun p hp => ?_)
      · rw [(hperm.map Prod.fst).nodup_iff, JSONValue.map_fst_sortedPairs]
        exact nodup_of_trimmedObject_eq hobject
      · have hmem := hperm.subset hp
        rw [JSONValue.sortedPairs_eq_map, List.mem_map] at hmem
        obtain ⟨q, hq, rfl⟩ := hmem
        exact ⟨(hpairs q hq).1, hvalues q hq⟩

theorem trimmed_sorted_of_mem : ∀ items : List JSONValue, (∀ v ∈ items, trimmed v = v) →
    ∀ v ∈ items, trimmed v.sorted = v.sorted
  | [], _, v, hv => absurd hv List.not_mem_nil
  | w :: rest, h, v, hv => by
      rw [List.forall_mem_cons] at h
      rw [List.mem_cons] at hv
      rcases hv with rfl | hv
      · exact trimmed_sorted h.1
      · exact trimmed_sorted_of_mem rest h.2 v hv

theorem trimmed_sorted_of_mem_pairs : ∀ items : JSONObject, (∀ p ∈ items, trimmed p.2 = p.2) →
    ∀ p ∈ items, trimmed p.2.sorted = p.2.sorted
  | [], _, p, hp => absurd hp List.not_mem_nil
  | (k, w) :: rest, h, p, hp => by
      rw [List.forall_mem_cons] at h
      rw [List.mem_cons] at hp
      rcases hp with rfl | hp
      · exact trimmed_sorted h.1
      · exact trimmed_sorted_of_mem_pairs rest h.2 p hp

end

mutual

theorem distinctKeys_of_trimmed : ∀ {v : JSONValue}, trimmed v = v → v.DistinctKeys
  | .null, _ => by rw [JSONValue.DistinctKeys]; trivial
  | .bool _, _ => by rw [JSONValue.DistinctKeys]; trivial
  | .int _, _ => by rw [JSONValue.DistinctKeys]; trivial
  | .float _, _ => by rw [JSONValue.DistinctKeys]; trivial
  | .str _, _ => by rw [JSONValue.DistinctKeys]; trivial
  | .list items, h => by
      rw [JSONValue.DistinctKeys]
      exact distinctItems_of_trimmed items (trimmed_of_mem_of_trimmed_list h)
  | .dict items, h => by
      have hobject := dict_eq_of_trimmed h
      rw [JSONValue.DistinctKeys]
      exact ⟨nodup_of_trimmedObject_eq hobject, distinctPairs_of_trimmed items
        fun p hp => (trimmedPair_of_trimmedObject_eq hobject p hp).2⟩

theorem distinctItems_of_trimmed : ∀ items : List JSONValue, (∀ v ∈ items, trimmed v = v) →
    JSONValue.DistinctItems items
  | [], _ => by rw [JSONValue.DistinctItems]; trivial
  | v :: rest, h => by
      rw [List.forall_mem_cons] at h
      rw [JSONValue.DistinctItems]
      exact ⟨distinctKeys_of_trimmed h.1, distinctItems_of_trimmed rest h.2⟩

theorem distinctPairs_of_trimmed : ∀ items : JSONObject, (∀ p ∈ items, trimmed p.2 = p.2) →
    JSONValue.DistinctPairs items
  | [], _ => by rw [JSONValue.DistinctPairs]; trivial
  | (k, v) :: rest, h => by
      rw [List.forall_mem_cons] at h
      rw [JSONValue.DistinctPairs]
      exact ⟨distinctKeys_of_trimmed h.1, distinctPairs_of_trimmed rest h.2⟩

end

end MediaCenter.MessengerAdapter
