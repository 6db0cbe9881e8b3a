import Mathlib.Data.List.Nodup
import Mathlib.Tactic.Common

/-!
# Insertion-ordered dictionaries

`Dict κ α` is a finite map that remembers the order in which its keys were first set:
setting a present key replaces its value in place, setting a new one appends it.  No key
occurs twice, by construction.
-/

set_option autoImplicit false

namespace MediaCenter.Library

structure Dict (κ α : Type) where
  entries : List (κ × α)
  nodup : (entries.map Prod.fst).Nodup

namespace Dict

variable {κ α : Type}

def empty : Dict κ α := ⟨[], List.nodup_nil⟩

instance : Inhabited (Dict κ α) := ⟨empty⟩

variable [DecidableEq κ]

def get? (d : Dict κ α) (k : κ) : Option α :=
  (d.entries.find? fun e => e.1 = k).map Prod.snd

def contains (d : Dict κ α) (k : κ) : Bool := (d.get? k).isSome

/-- Replace the value of a key in place. -/
def replaceEntries (k : κ) (v : α) (l : List (κ × α)) : List (κ × α) :=
  l.map fun e => if e.1 = k then (k, v) else e

theorem map_fst_replaceEntries (k : κ) (v : α) (l : List (κ × α)) :
    (replaceEntries k v l).map Prod.fst = l.map Prod.fst := by
  unfold replaceEntries
  rw [List.map_map]
  apply List.map_congr_left
  intro e _
  by_cases h : e.1 = k
  · simp [h]
  · simp [h]

/-- INTERNAL: a key is present exactly when some entry carries it. -/
theorem contains_iff_mem (d : Dict κ α) (k : κ) :
    d.contains k = true ↔ k ∈ d.entries.map Prod.fst := by
  simp [contains, get?, List.find?_isSome]

/-- `d[k] = v`. -/
def set (d : Dict κ α) (k : κ) (v : α) : Dict κ α :=
  if h : d.contains k = true then
    ⟨replaceEntries k v d.entries, by rw [map_fst_replaceEntries]; exact d.nodup⟩
  else
    ⟨d.entries ++ [(k, v)], by
      rw [contains_iff_mem] at h
      rw [List.map_append, List.nodup_append]
      refine ⟨d.nodup, by simp, ?_⟩
      intro a ha b hb hab
      simp only [List.map_cons, List.map_nil, List.mem_singleton] at hb
      subst hb
      subst hab
      exact h ha⟩

/-- `d.pop(k, None)`. -/
def erase (d : Dict κ α) (k : κ) : Dict κ α :=
  ⟨d.entries.filter fun e => e.1 ≠ k,
    d.nodup.sublist (List.filter_sublist.map Prod.fst)⟩

@[simp] theorem get?_empty (k : κ) : (empty : Dict κ α).get? k = none := rfl

theorem find?_replaceEntries_self (k : κ) (v : α) (l : List (κ × α))
    (h : k ∈ l.map Prod.fst) :
    (replaceEntries k v l).find? (fun e => e.1 = k) = some (k, v) := by
  induction l with
  | nil => simp at h
  | cons e l ih =>
      by_cases he : e.1 = k
      · simp [replaceEntries, he]
      · have hl : k ∈ l.map Prod.fst := by
          rw [List.map_cons, List.mem_cons] at h
          exact h.resolve_left fun hk => he hk.symm
        simpa [replaceEntries, he] using ih hl

theorem find?_replaceEntries_of_ne {k k' : κ} (hne : k' ≠ k) (v : α)
    (l : List (κ × α)) :
    ((replaceEntries k v l).find? fun e => e.1 = k').map Prod.snd =
      (l.find? fun e => e.1 = k').map Prod.snd := by
  induction l with
  | nil => rfl
  | cons e l ih =>
      by_cases he : e.1 = k
      · have hk' : ¬ e.1 = k' := by rw [he]; exact fun h => hne h.symm
        simpa [replaceEntries, he, hk', Ne.symm hne] using ih
      · by_cases he' : e.1 = k'
        · simp [replaceEntries, he', hne]
        · simpa [replaceEntries, he, he'] using ih

@[simp] theorem get?_set_self (d : Dict κ α) (k : κ) (v : α) :
    (d.set k v).get? k = some v := by
  unfold set get?
  split
  · rename_i h
    rw [find?_replaceEntries_self k v _ ((contains_iff_mem d k).mp h)]
    rfl
  · rename_i h
    rw [contains_iff_mem] at h
    rw [List.find?_append]
    have hnone : d.entries.find? (fun e => e.1 = k) = none := by
      rw [List.find?_eq_none]
      intro e he
      have hek : e.1 ≠ k := by
        intro hek
        exact h (hek ▸ List.mem_map_of_mem he)
      simpa using hek
    simp [hnone]

@[simp] theorem get?_set_of_ne (d : Dict κ α) {k k' : κ} (h : k' ≠ k) (v : α) :
    (d.set k v).get? k' = d.get? k' := by
  unfold set get?
  split
  · exact find?_replaceEntries_of_ne h v d.entries
  · rw [List.find?_append]
    have hnone : [(k, v)].find? (fun e => e.1 = k') = none := by
      simp [Ne.symm h]
    rw [hnone, Option.or_none]

theorem find?_eq_some_of_mem {k : κ} {v : α} {l : List (κ × α)}
    (hnodup : (l.map Prod.fst).Nodup) (h : (k, v) ∈ l) :
    l.find? (fun e => e.1 = k) = some (k, v) := by
  induction l with
  | nil => cases h
  | cons e l ih =>
      rw [List.map_cons, List.nodup_cons] at hnodup
      rw [List.mem_cons] at h
      rcases h with rfl | h
      · simp
      · have hne : e.1 ≠ k := by
          intro hek
          exact hnodup.1 (hek ▸ List.mem_map_of_mem h)
        simpa [hne] using ih hnodup.2 h

theorem get?_eq_some_iff {d : Dict κ α} {k : κ} {v : α} :
    d.get? k = some v ↔ (k, v) ∈ d.entries := by
  unfold get?
  constructor
  · intro h
    rw [Option.map_eq_some_iff] at h
    obtain ⟨e, he, rfl⟩ := h
    have hk : e.1 = k := by simpa using List.find?_some he
    rw [← hk]
    exact List.mem_of_find?_eq_some he
  · intro h
    rw [find?_eq_some_of_mem d.nodup h]
    rfl

/-- The entries that pass a test. -/
def filter (d : Dict κ α) (p : κ → α → Bool) : Dict κ α :=
  ⟨d.entries.filter fun e => p e.1 e.2,
    d.nodup.sublist (List.filter_sublist.map Prod.fst)⟩

theorem get?_filter_eq_some_iff {d : Dict κ α} {p : κ → α → Bool} {k : κ} {v : α} :
    (d.filter p).get? k = some v ↔ d.get? k = some v ∧ p k v = true := by
  rw [get?_eq_some_iff, get?_eq_some_iff, filter, List.mem_filter]

theorem get?_erase (d : Dict κ α) (k k' : κ) :
    (d.erase k).get? k' = if k' = k then none else d.get? k' := by
  apply Option.ext
  intro v
  rw [get?_eq_some_iff, erase, List.mem_filter, decide_eq_true_eq]
  by_cases h : k' = k
  · simp [h]
  · rw [if_neg h, get?_eq_some_iff]
    exact ⟨fun hmem => hmem.1, fun hmem => ⟨hmem, h⟩⟩

theorem contains_iff_exists {d : Dict κ α} {k : κ} :
    d.contains k = true ↔ ∃ v, d.get? k = some v := by
  unfold contains
  rw [Option.isSome_iff_exists]

theorem get?_set (d : Dict κ α) (k k' : κ) (v : α) :
    (d.set k v).get? k' = if k' = k then some v else d.get? k' := by
  by_cases h : k' = k
  · subst h; simp
  · simp [h]

theorem entries_set_of_not_contains {d : Dict κ α} {k : κ} (h : ¬ d.contains k = true) (v : α) :
    (d.set k v).entries = d.entries ++ [(k, v)] := by
  unfold set
  rw [dif_neg h]

theorem entries_set_of_contains {d : Dict κ α} {k : κ} (h : d.contains k = true) (v : α) :
    (d.set k v).entries = replaceEntries k v d.entries := by
  unfold set
  rw [dif_pos h]

theorem contains_set (d : Dict κ α) (k k' : κ) (v : α) :
    (d.set k v).contains k' = true ↔ k' = k ∨ d.contains k' = true := by
  unfold contains
  rw [get?_set]
  by_cases h : k' = k
  · simp [h]
  · simp [h]

/-- `{k: v for k, v in l}`: of several values for a key the last one stands. -/
def ofList (l : List (κ × α)) : Dict κ α := l.foldl (fun d e => d.set e.1 e.2) empty

theorem ofList_append_singleton (l : List (κ × α)) (e : κ × α) :
    ofList (l ++ [e]) = (ofList l).set e.1 e.2 := by
  unfold ofList
  rw [List.foldl_append, List.foldl_cons, List.foldl_nil]

theorem get?_ofList (l : List (κ × α)) (k : κ) :
    (ofList l).get? k = (l.reverse.find? fun e => e.1 = k).map Prod.snd := by
  unfold ofList
  suffices h : ∀ d : Dict κ α, (l.foldl (fun d e => d.set e.1 e.2) d).get? k =
      ((l.reverse.find? fun e => e.1 = k).map Prod.snd).or (d.get? k) by
    rw [h, get?_empty, Option.or_none]
  induction l with
  | nil => intro d; rfl
  | cons e l ih =>
      intro d
      rw [List.foldl_cons, ih, List.reverse_cons, List.find?_append, get?_set]
      cases hl : l.reverse.find? fun e => e.1 = k with
      | some e' => simp
      | none =>
          by_cases he : e.1 = k
          · simp [he]
          · simp [he, Ne.symm he]

theorem get?_ofList_eq_some_iff {l : List (κ × α)} (h : (l.map Prod.fst).Nodup) {k : κ} {v : α} :
    (ofList l).get? k = some v ↔ (k, v) ∈ l := by
  have hreverse : (l.reverse.map Prod.fst).Nodup := by
    rw [List.map_reverse, List.nodup_reverse]
    exact h
  rw [get?_ofList, Option.map_eq_some_iff]
  constructor
  · rintro ⟨e, he, rfl⟩
    have hk : e.1 = k := by simpa using List.find?_some he
    rw [← hk]
    exact List.mem_reverse.mp (List.mem_of_find?_eq_some he)
  · intro hmem
    exact ⟨(k, v), find?_eq_some_of_mem hreverse (List.mem_reverse.mpr hmem), rfl⟩

/-- `d.update(other)`. -/
def update (d other : Dict κ α) : Dict κ α :=
  other.entries.foldl (fun d e => d.set e.1 e.2) d

/-- INTERNAL: setting the value a key already has changes nothing. -/
theorem set_of_get?_eq_some {d : Dict κ α} {k : κ} {v : α} (h : d.get? k = some v) :
    d.set k v = d := by
  have hcontains : d.contains k = true := contains_iff_exists.mpr ⟨v, h⟩
  have hentries : replaceEntries k v d.entries = d.entries := by
    have hsame : ∀ e ∈ d.entries, (if e.1 = k then (k, v) else e) = id e := by
      rintro ⟨k', v'⟩ he
      by_cases hk : k' = k
      · subst hk
        have hv : d.get? k' = some v' := get?_eq_some_iff.mpr he
        rw [h, Option.some.injEq] at hv
        rw [if_pos rfl, hv, id]
      · exact if_neg hk
    unfold replaceEntries
    rw [List.map_congr_left hsame, List.map_id]
  obtain ⟨entries, nodup⟩ := d
  unfold set
  rw [dif_pos hcontains]
  simp only [hentries]

/-- INTERNAL: new keys are appended in their own order. -/
theorem update_eq_of_entries {d other joined : Dict κ α}
    (h : joined.entries = d.entries ++ other.entries) : d.update other = joined := by
  suffices hfold : ∀ (l : List (κ × α)) (d' : Dict κ α),
      joined.entries = d'.entries ++ l → l.foldl (fun d e => d.set e.1 e.2) d' = joined from
    hfold other.entries d h
  intro l
  induction l with
  | nil =>
      intro d' hd'
      rw [List.append_nil] at hd'
      obtain ⟨entries, nodup⟩ := d'
      obtain ⟨entries', nodup'⟩ := joined
      simp only at hd'
      subst hd'
      rfl
  | cons e l ih =>
      intro d' hd'
      have hnew : ¬ d'.contains e.1 = true := by
        rw [contains_iff_mem]
        intro hmem
        have hnodup := joined.nodup
        rw [hd', List.map_append, List.nodup_append] at hnodup
        exact hnodup.2.2 e.1 hmem e.1 (List.mem_map_of_mem List.mem_cons_self) rfl
      rw [List.foldl_cons]
      apply ih
      rw [entries_set_of_not_contains hnew, hd', List.append_assoc, List.singleton_append]

theorem entries_ofList {l : List (κ × α)} (h : (l.map Prod.fst).Nodup) : (ofList l).entries = l := by
  have hupdate : (empty : Dict κ α).update ⟨l, h⟩ = ⟨l, h⟩ := update_eq_of_entries rfl
  have hofList : ofList l = ⟨l, h⟩ := hupdate
  rw [hofList]

theorem mem_of_mem_entries_ofList {l : List (κ × α)} {e : κ × α} (h : e ∈ (ofList l).entries) :
    e ∈ l := by
  have hget : (ofList l).get? e.1 = some e.2 := get?_eq_some_iff.mpr h
  rw [get?_ofList, Option.map_eq_some_iff] at hget
  obtain ⟨e', hfind, hvalue⟩ := hget
  have hkey : e'.1 = e.1 := by simpa using List.find?_some hfind
  have he : e' = e := Prod.ext hkey hvalue
  rw [← he]
  exact List.mem_reverse.mp (List.mem_of_find?_eq_some hfind)

theorem ofList_entries (d : Dict κ α) : ofList d.entries = d := by
  have hentries := entries_ofList d.nodup
  obtain ⟨entries, nodup⟩ := d
  cases hlist : ofList entries with
  | mk entries' nodup' =>
      rw [hlist] at hentries
      cases hentries
      rfl

/-- `{k: f(v) for k, v in d.items()}`. -/
def mapValues {β : Type} (f : α → β) (d : Dict κ α) : Dict κ β :=
  ⟨d.entries.map fun e => (e.1, f e.2), by
    rw [List.map_map]
    exact d.nodup⟩

theorem get?_mapValues {β : Type} (f : α → β) (d : Dict κ α) (k : κ) :
    (d.mapValues f).get? k = (d.get? k).map f := by
  unfold get? mapValues
  rw [List.find?_map, Option.map_map, Option.map_map]
  rfl

theorem contains_mapValues {β : Type} (f : α → β) (d : Dict κ α) (k : κ) :
    (d.mapValues f).contains k = d.contains k := by
  unfold contains
  rw [get?_mapValues, Option.isSome_map]

theorem set_mapValues {β : Type} (f : α → β) (d : Dict κ α) (k : κ) (v : α) :
    (d.set k v).mapValues f = (d.mapValues f).set k (f v) := by
  have heq : ∀ a b : Dict κ β, a.entries = b.entries → a = b := by
    rintro ⟨entries, _⟩ ⟨entries', _⟩ h
    cases h
    rfl
  apply heq
  by_cases hk : d.contains k = true
  · rw [entries_set_of_contains (by rw [contains_mapValues]; exact hk)]
    unfold mapValues
    simp only
    rw [entries_set_of_contains hk]
    unfold replaceEntries
    rw [List.map_map, List.map_map]
    apply List.map_congr_left
    intro e _
    by_cases he : e.1 = k
    · simp [he]
    · simp [he]
  · rw [entries_set_of_not_contains (by rw [contains_mapValues]; exact hk)]
    unfold mapValues
    simp only
    rw [entries_set_of_not_contains hk, List.map_append]
    rfl

end Dict

end MediaCenter.Library
