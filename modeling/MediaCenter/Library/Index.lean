import MediaCenter.Library.Dict

/-!
# Indexes of a store

A store keeps its values under one key, and an index finds them under another.  An exact index
maps exactly the index keys of the stored values to the keys they are stored under.  A mirror
keeps the values themselves under the other key.
-/

set_option autoImplicit false

namespace MediaCenter.Library

variable {κ ι α : Type} [DecidableEq κ] [DecidableEq ι]

/-! ## Exact indexes -/

/-- The index maps the index keys of the stored values to their keys, and nothing else. -/
def IsIndex (key : α → ι) (store : Dict κ α) (index : Dict ι κ) : Prop :=
  ∀ i k, index.get? i = some k ↔ ∃ a, store.get? k = some a ∧ key a = i

section Exact

variable {key : α → ι} {store : Dict κ α} {index : Dict ι κ}

theorem isIndex_empty (key : α → ι) : IsIndex key (Dict.empty : Dict κ α) Dict.empty := by
  intro i k
  constructor
  · intro h
    cases h
  · rintro ⟨a, h, _⟩
    cases h

/-- Two stored values with one index key are stored under one key. -/
theorem IsIndex.unique (h : IsIndex key store index) {k k' : κ} {a a' : α}
    (ha : store.get? k = some a) (ha' : store.get? k' = some a') (hkey : key a = key a') :
    k = k' := by
  have hindex : index.get? (key a) = some k := (h _ _).mpr ⟨a, ha, rfl⟩
  have hindex' : index.get? (key a) = some k' := (h _ _).mpr ⟨a', ha', hkey.symm⟩
  rw [hindex, Option.some.injEq] at hindex'
  exact hindex'

theorem IsIndex.contains_iff (h : IsIndex key store index) {i : ι} :
    index.contains i = true ↔ ∃ k a, store.get? k = some a ∧ key a = i := by
  rw [Dict.contains_iff_exists]
  constructor
  · rintro ⟨k, hk⟩
    exact ⟨k, (h i k).mp hk⟩
  · rintro ⟨k, ha⟩
    exact ⟨k, (h i k).mpr ha⟩

/-- Storing a value whose index key is free, or its own, keeps the index exact if and only if
the value it replaces had the same index key. -/
theorem IsIndex.set_iff (h : IsIndex key store index) {k : κ} {a : α}
    (hfree : ∀ k', index.get? (key a) = some k' → k' = k) :
    IsIndex key (store.set k a) (index.set (key a) k) ↔
      ∀ old, store.get? k = some old → key old = key a := by
  constructor
  · intro hset old hold
    by_contra hne
    -- The entry of the replaced value is still there.
    have hstale : (index.set (key a) k).get? (key old) = some k := by
      rw [Dict.get?_set_of_ne _ hne]
      exact (h _ _).mpr ⟨old, hold, rfl⟩
    obtain ⟨a', ha', hkey⟩ := (hset _ _).mp hstale
    rw [Dict.get?_set_self, Option.some.injEq] at ha'
    rw [← ha'] at hkey
    exact hne hkey.symm
  · intro hsame i k'
    rw [Dict.get?_set, Dict.get?_set]
    by_cases hi : i = key a
    · rw [if_pos hi, Option.some.injEq]
      constructor
      · rintro rfl
        rw [if_pos rfl]
        exact ⟨a, rfl, hi.symm⟩
      · rintro ⟨a', ha', hkey⟩
        by_cases hk : k' = k
        · exact hk.symm
        · rw [if_neg hk] at ha'
          rw [hi] at hkey
          exact (hfree k' ((h _ _).mpr ⟨a', ha', hkey⟩)).symm
    · rw [if_neg hi, h i k']
      by_cases hk : k' = k
      · rw [if_pos hk]
        constructor
        · rintro ⟨old, hold, hkey⟩
          rw [hk] at hold
          rw [hsame old hold] at hkey
          exact absurd hkey.symm hi
        · rintro ⟨a', ha', hkey⟩
          rw [Option.some.injEq] at ha'
          rw [← ha'] at hkey
          exact absurd hkey.symm hi
      · rw [if_neg hk]

end Exact

/-! ## Mirrors -/

/-- The same values under two keys of theirs. -/
structure Mirror (f : α → κ) (g : α → ι) (d : Dict κ α) (e : Dict ι α) : Prop where
  forward : ∀ k a, d.get? k = some a ↔ f a = k ∧ e.get? (g a) = some a
  backward : ∀ i a, e.get? i = some a ↔ g a = i ∧ d.get? (f a) = some a

section Mirrors

variable {f : α → κ} {g : α → ι} {d : Dict κ α} {e : Dict ι α}

theorem mirror_empty (f : α → κ) (g : α → ι) :
    Mirror f g (Dict.empty : Dict κ α) (Dict.empty : Dict ι α) := by
  constructor
  · intro k a
    exact ⟨fun h => (nomatch h), fun h => (nomatch h.2)⟩
  · intro i a
    exact ⟨fun h => (nomatch h), fun h => (nomatch h.2)⟩

theorem Mirror.symm (h : Mirror f g d e) : Mirror g f e d := ⟨h.backward, h.forward⟩

/-- INTERNAL: one side of a mirror after a value has been stored on both. -/
theorem Mirror.forward_set (h : Mirror f g d e) {a : α}
    (hd : ∀ old, d.get? (f a) = some old → g old = g a)
    (he : ∀ old, e.get? (g a) = some old → f old = f a) (k : κ) (b : α) :
    (d.set (f a) a).get? k = some b ↔ f b = k ∧ (e.set (g a) a).get? (g b) = some b := by
  rw [Dict.get?_set, Dict.get?_set]
  by_cases hk : k = f a
  · rw [if_pos hk, Option.some.injEq]
    constructor
    · rintro rfl
      rw [if_pos rfl]
      exact ⟨hk.symm, rfl⟩
    · rintro ⟨hb, hother⟩
      by_cases hg : g b = g a
      · rw [if_pos hg, Option.some.injEq] at hother
        exact hother
      · rw [if_neg hg] at hother
        have hstored := ((h.backward _ b).mp hother).2
        rw [hb, hk] at hstored
        exact absurd (hd b hstored) hg
  · rw [if_neg hk, h.forward k b]
    by_cases hg : g b = g a
    · rw [if_pos hg, Option.some.injEq]
      constructor
      · rintro ⟨hb, hother⟩
        rw [hg] at hother
        exact absurd (hb.symm.trans (he b hother)) hk
      · rintro ⟨hb, rfl⟩
        exact absurd hb.symm hk
    · rw [if_neg hg]

/-- INTERNAL: what a mirror requires of the value that a stored one replaces. -/
theorem Mirror.of_set (h : Mirror f g d e) {a : α}
    (hset : Mirror f g (d.set (f a) a) (e.set (g a) a)) {old : α}
    (hold : d.get? (f a) = some old) : g old = g a := by
  by_contra hne
  -- The other side still has the replaced value, under a key of its own.
  obtain ⟨hf, hother⟩ := (h.forward _ old).mp hold
  have hstale : (e.set (g a) a).get? (g old) = some old := by
    rw [Dict.get?_set_of_ne _ hne]
    exact hother
  have hback := ((hset.backward _ old).mp hstale).2
  rw [hf, Dict.get?_set_self, Option.some.injEq] at hback
  exact hne (by rw [hback])

/-- Storing a value on both sides keeps the mirror if and only if the values it replaces have
its keys. -/
theorem Mirror.set_iff (h : Mirror f g d e) (a : α) :
    Mirror f g (d.set (f a) a) (e.set (g a) a) ↔
      (∀ old, d.get? (f a) = some old → g old = g a) ∧
        ∀ old, e.get? (g a) = some old → f old = f a := by
  constructor
  · intro hset
    exact ⟨fun old hold => h.of_set hset hold, fun old hold => h.symm.of_set hset.symm hold⟩
  · rintro ⟨hd, he⟩
    exact ⟨h.forward_set hd he, h.symm.forward_set he hd⟩

end Mirrors

end MediaCenter.Library
