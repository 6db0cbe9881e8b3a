import MediaCenter.Library.ExceptList
import MediaCenter.Model.Shared.Json

/-!
# JSON values with sorted keys

Sorting the keys of every object changes neither what an object holds nor whether it can be
written, and sorting once is enough.
-/

set_option autoImplicit false

namespace MediaCenter.Shared

open MediaCenter.Library

/-- The order of the items of an object. -/
def keyLE (a b : String × JSONValue) : Prop := a.1 ≤ b.1

instance : DecidableRel keyLE := fun a b => inferInstanceAs (Decidable (a.1 ≤ b.1))

instance : Std.Total keyLE := ⟨fun a b => le_total a.1 b.1⟩

instance : IsTrans (String × JSONValue) keyLE := ⟨fun _ _ _ h h' => le_trans h h'⟩

theorem sortKeys_eq_insertionSort (items : JSONObject) :
    sortKeys items = items.insertionSort keyLE := rfl

theorem perm_sortKeys (items : JSONObject) : (sortKeys items).Perm items := by
  rw [sortKeys_eq_insertionSort]
  exact List.perm_insertionSort keyLE items

theorem sortKeys_sortKeys (items : JSONObject) : sortKeys (sortKeys items) = sortKeys items := by
  rw [sortKeys_eq_insertionSort, sortKeys_eq_insertionSort]
  exact (List.pairwise_insertionSort keyLE items).insertionSort_eq

namespace JSONValue

theorem sortedItems_eq_map (items : List JSONValue) : sortedItems items = items.map sorted := by
  induction items with
  | nil => rw [sortedItems, List.map_nil]
  | cons v items ih => rw [sortedItems, ih, List.map_cons]

theorem sortedPairs_eq_map (items : JSONObject) :
    sortedPairs items = items.map fun p => (p.1, p.2.sorted) := by
  induction items with
  | nil => rw [sortedPairs, List.map_nil]
  | cons p items ih =>
      obtain ⟨k, v⟩ := p
      rw [sortedPairs, ih, List.map_cons]

theorem distinctPairs_iff (items : JSONObject) :
    DistinctPairs items ↔ ∀ p ∈ items, p.2.DistinctKeys := by
  induction items with
  | nil => simp [DistinctPairs]
  | cons p items ih =>
      obtain ⟨k, v⟩ := p
      rw [DistinctPairs, ih, List.forall_mem_cons]

theorem map_fst_sortedPairs (items : JSONObject) :
    (sortedPairs items).map Prod.fst = items.map Prod.fst := by
  rw [sortedPairs_eq_map, List.map_map]
  rfl

/-- INTERNAL: keys and values sort in either order. -/
theorem sortedPairs_sortKeys (items : JSONObject) :
    sortedPairs (sortKeys items) = sortKeys (sortedPairs items) := by
  rw [sortedPairs_eq_map, sortedPairs_eq_map]
  exact List.map_insertionSort _ _ _ items fun _ _ _ _ => Iff.rfl

mutual

theorem sorted_sorted : ∀ v : JSONValue, v.sorted.sorted = v.sorted
  | .null => by rw [sorted, sorted]
  | .bool _ => by rw [sorted, sorted]
  | .int _ => by rw [sorted, sorted]
  | .float _ => by rw [sorted, sorted]
  | .str _ => by rw [sorted, sorted]
  | .list items => by
      rw [sorted, sorted]
      rw [sortedItems_sortedItems items]
  | .dict items => by
      rw [sorted, sorted]
      rw [sortedPairs_sortKeys, sortKeys_sortKeys, sortedPairs_sortedPairs items]

theorem sortedItems_sortedItems : ∀ items : List JSONValue,
    sortedItems (sortedItems items) = sortedItems items
  | [] => by rw [sortedItems, sortedItems]
  | v :: items => by
      rw [sortedItems, sortedItems]
      rw [sorted_sorted v, sortedItems_sortedItems items]

theorem sortedPairs_sortedPairs : ∀ items : JSONObject,
    sortedPairs (sortedPairs items) = sortedPairs items
  | [] => by rw [sortedPairs, sortedPairs]
  | (k, v) :: items => by
      rw [sortedPairs, sortedPairs]
      rw [sorted_sorted v, sortedPairs_sortedPairs items]

end

mutual

theorem DistinctKeys.sorted : ∀ {v : JSONValue}, v.DistinctKeys → v.sorted.DistinctKeys
  | .null, _ => by rw [JSONValue.sorted, DistinctKeys]; trivial
  | .bool _, _ => by rw [JSONValue.sorted, DistinctKeys]; trivial
  | .int _, _ => by rw [JSONValue.sorted, DistinctKeys]; trivial
  | .float _, _ => by rw [JSONValue.sorted, DistinctKeys]; trivial
  | .str _, _ => by rw [JSONValue.sorted, DistinctKeys]; trivial
  | .list items, h => by
      rw [DistinctKeys] at h
      rw [JSONValue.sorted, DistinctKeys]
      exact distinctItems_sorted h
  | .dict items, h => by
      rw [DistinctKeys] at h
      rw [JSONValue.sorted, DistinctKeys]
      have hperm := perm_sortKeys (sortedPairs items)
      refine ⟨?_, ?_⟩
      · rw [(hperm.map Prod.fst).nodup_iff, map_fst_sortedPairs]
        exact h.1
      · rw [distinctPairs_iff]
        intro p hp
        exact (distinctPairs_iff _).mp (distinctPairs_sorted h.2) p (hperm.subset hp)

theorem distinctItems_sorted : ∀ {items : List JSONValue},
    DistinctItems items → DistinctItems (sortedItems items)
  | [], _ => by rw [sortedItems, DistinctItems]; trivial
  | v :: items, h => by
      rw [DistinctItems] at h
      rw [sortedItems, DistinctItems]
      exact ⟨DistinctKeys.sorted h.1, distinctItems_sorted h.2⟩

theorem distinctPairs_sorted : ∀ {items : JSONObject},
    DistinctPairs items → DistinctPairs (sortedPairs items)
  | [], _ => by rw [sortedPairs, DistinctPairs]; trivial
  | (k, v) :: items, h => by
      rw [DistinctPairs] at h
      rw [sortedPairs, DistinctPairs]
      exact ⟨DistinctKeys.sorted h.1, distinctPairs_sorted h.2⟩

end

/-! ## Items -/

theorem item_eq_some_iff {items : JSONObject} (h : (items.map Prod.fst).Nodup) {key : String}
    {v : JSONValue} : item key items = some v ↔ (key, v) ∈ items := by
  unfold item
  induction items with
  | nil => simp
  | cons p items ih =>
      obtain ⟨k, w⟩ := p
      rw [List.map_cons, List.nodup_cons] at h
      rw [List.lookup_cons, List.mem_cons]
      by_cases hk : key = k
      · subst hk
        rw [beq_self_eq_true]
        simp only [Option.some.injEq, Prod.mk.injEq, true_and]
        constructor
        · exact fun heq => .inl heq.symm
        · rintro (heq | hmem)
          · exact heq.symm
          · exact absurd (List.mem_map_of_mem hmem) h.1
      · rw [beq_false_of_ne hk]
        simp only [Prod.mk.injEq, hk, false_and, false_or]
        exact ih h.2

/-- INTERNAL: the order of the items does not change what an object holds. -/
theorem item_perm {items items' : JSONObject} (hperm : items.Perm items')
    (h : (items.map Prod.fst).Nodup) (key : String) : item key items = item key items' := by
  apply Option.ext
  intro v
  rw [item_eq_some_iff h, item_eq_some_iff ((hperm.map Prod.fst).nodup_iff.mp h), hperm.mem_iff]

/-- INTERNAL: an object with sorted keys holds the sorted values. -/
theorem item_sortKeys_sortedPairs {items : JSONObject} (h : (items.map Prod.fst).Nodup)
    (key : String) :
    item key (sortKeys (sortedPairs items)) = (item key items).map sorted := by
  have hkeys : ((sortedPairs items).map Prod.fst).Nodup := by
    rw [map_fst_sortedPairs]
    exact h
  rw [← item_perm (perm_sortKeys (sortedPairs items)).symm hkeys, sortedPairs_eq_map]
  unfold item
  clear h hkeys
  induction items with
  | nil => rfl
  | cons p items ih =>
      obtain ⟨k, w⟩ := p
      rw [List.map_cons, List.lookup_cons, List.lookup_cons]
      cases key == k with
      | true => rfl
      | false => exact ih

end JSONValue

/-! ## Writing -/

variable {codec : JsonCodec}

mutual

theorem JsonCodec.Lawful.dumps_sorted (hjson : codec.Lawful) : ∀ {v : JSONValue} {s : String},
    codec.dumps v = .ok s → ∃ s', codec.dumps v.sorted = .ok s'
  | .null, s, h => ⟨s, by rw [JSONValue.sorted, h]⟩
  | .bool _, s, h => ⟨s, by rw [JSONValue.sorted, h]⟩
  | .int _, s, h => ⟨s, by rw [JSONValue.sorted, h]⟩
  | .float _, s, h => ⟨s, by rw [JSONValue.sorted, h]⟩
  | .str _, s, h => ⟨s, by rw [JSONValue.sorted, h]⟩
  | .list items, s, h => by
      rw [JSONValue.sorted, hjson.dumps_list]
      exact hjson.dumps_sortedItems ((hjson.dumps_list items).mp ⟨s, h⟩)
  | .dict items, s, h => by
      rw [JSONValue.sorted, hjson.dumps_dict]
      intro p hp
      exact hjson.dumps_sortedPairs ((hjson.dumps_dict items).mp ⟨s, h⟩) p
        ((perm_sortKeys _).subset hp)

theorem JsonCodec.Lawful.dumps_sortedItems (hjson : codec.Lawful) : ∀ {items : List JSONValue},
    (∀ v ∈ items, ∃ s, codec.dumps v = .ok s) →
      ∀ v ∈ JSONValue.sortedItems items, ∃ s, codec.dumps v = .ok s
  | [], _, v, hv => by
      rw [JSONValue.sortedItems] at hv
      cases hv
  | w :: items, h, v, hv => by
      rw [JSONValue.sortedItems, List.mem_cons] at hv
      rw [List.forall_mem_cons] at h
      rcases hv with rfl | hv
      · obtain ⟨s, hs⟩ := h.1
        exact hjson.dumps_sorted hs
      · exact hjson.dumps_sortedItems h.2 v hv

theorem JsonCodec.Lawful.dumps_sortedPairs (hjson : codec.Lawful) : ∀ {items : JSONObject},
    (∀ p ∈ items, ∃ s, codec.dumps p.2 = .ok s) →
      ∀ p ∈ JSONValue.sortedPairs items, ∃ s, codec.dumps p.2 = .ok s
  | [], _, p, hp => by
      rw [JSONValue.sortedPairs] at hp
      cases hp
  | (k, w) :: items, h, p, hp => by
      rw [JSONValue.sortedPairs, List.mem_cons] at hp
      rw [List.forall_mem_cons] at h
      rcases hp with rfl | hp
      · obtain ⟨s, hs⟩ := h.1
        exact hjson.dumps_sorted hs
      · exact hjson.dumps_sortedPairs h.2 p hp

end

end MediaCenter.Shared
