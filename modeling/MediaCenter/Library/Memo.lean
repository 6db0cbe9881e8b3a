import MediaCenter.Library.Dict

/-!
# Results kept for the next call

A computation that may fail is kept by its argument in a dictionary ordered by last use; where the
dictionary grows over its capacity, its first entry goes.  Whatever is kept is what the computation
returns, so the calls answer as if nothing were kept.
-/

set_option autoImplicit false

namespace MediaCenter.Library

variable {κ α ε : Type}

/-- `d.popitem(last=False)`, of a dictionary that is not empty. -/
def Dict.popFirst (d : Dict κ α) : Dict κ α :=
  ⟨d.entries.tail, d.nodup.sublist ((List.tail_sublist d.entries).map Prod.fst)⟩

variable [DecidableEq κ]

/-- `d.move_to_end(k)`, where `k` has the value `v`. -/
def Dict.moveToEnd (d : Dict κ α) (k : κ) (v : α) : Dict κ α := (d.erase k).set k v

/-- A new result is kept, and the oldest one dropped where there are too many. -/
def Dict.keep (capacity : ℕ) (d : Dict κ α) (k : κ) (v : α) : Dict κ α :=
  if 0 < capacity then
    let kept := d.set k v
    if capacity < kept.entries.length then kept.popFirst else kept
  else d

/-- The computation, unless its result is kept; an error is not. -/
def memoized (f : κ → Except ε α) (capacity : ℕ) (d : Dict κ α) (k : κ) : Except ε α × Dict κ α :=
  match d.get? k with
  | some v => (.ok v, d.moveToEnd k v)
  | none =>
      match f k with
      | .error e => (.error e, d)
      | .ok v => (.ok v, d.keep capacity k v)

/-- Every kept result is one of the computation, and there are not too many. -/
structure Kept (f : κ → Except ε α) (capacity : ℕ) (d : Dict κ α) : Prop where
  ok : ∀ k v, d.get? k = some v → f k = .ok v
  bound : d.entries.length ≤ capacity

section Memo

variable {f : κ → Except ε α} {capacity : ℕ} {d : Dict κ α} {k : κ} {v : α}

theorem kept_empty (f : κ → Except ε α) (capacity : ℕ) : Kept f capacity Dict.empty where
  ok _ _ h := by cases h
  bound := Nat.zero_le capacity

theorem get?_of_get?_popFirst {k' : κ} (h : d.popFirst.get? k' = some v) :
    d.get? k' = some v := by
  rw [Dict.get?_eq_some_iff] at h ⊢
  exact List.mem_of_mem_tail h

theorem ok_of_get?_set {k' : κ} {v' : α} (hkept : ∀ k v, d.get? k = some v → f k = .ok v)
    (hv : f k = .ok v) (h : (d.set k v).get? k' = some v') : f k' = .ok v' := by
  rw [Dict.get?_set] at h
  by_cases hk : k' = k
  · rw [if_pos hk, Option.some.injEq] at h
    rw [hk, hv, h]
  · rw [if_neg hk] at h
    exact hkept k' v' h

theorem length_set_le (d : Dict κ α) (k : κ) (v : α) :
    (d.set k v).entries.length ≤ d.entries.length + 1 := by
  by_cases hk : d.contains k = true
  · rw [Dict.entries_set_of_contains hk]
    unfold Dict.replaceEntries
    rw [List.length_map]
    exact Nat.le_succ _
  · have hlength : (d.set k v).entries.length = d.entries.length + 1 := by
      rw [Dict.entries_set_of_not_contains hk, List.length_append, List.length_singleton]
    exact Nat.le_of_eq hlength

/-- INTERNAL: what is moved to the end is neither lost nor doubled. -/
theorem length_moveToEnd_le (h : d.get? k = some v) :
    (d.moveToEnd k v).entries.length ≤ d.entries.length := by
  have hmem := Dict.get?_eq_some_iff.mp h
  have herase : (d.erase k).entries.length < d.entries.length := by
    unfold Dict.erase
    rw [List.length_filter_lt_length_iff_exists]
    exact ⟨(k, v), hmem, by simp⟩
  exact Nat.le_trans (length_set_le (d.erase k) k v) herase

theorem Kept.moveToEnd (h : Kept f capacity d) (hget : d.get? k = some v) :
    Kept f capacity (d.moveToEnd k v) where
  ok k' v' hget' := by
    refine ok_of_get?_set (fun k'' v'' hget'' => ?_) (h.ok k v hget) hget'
    rw [Dict.get?_erase] at hget''
    split at hget''
    · cases hget''
    · exact h.ok k'' v'' hget''
  bound := Nat.le_trans (length_moveToEnd_le hget) h.bound

theorem Kept.keep (h : Kept f capacity d) (hv : f k = .ok v) :
    Kept f capacity (d.keep capacity k v) := by
  unfold Dict.keep
  by_cases hpos : 0 < capacity
  · rw [if_pos hpos]
    dsimp only
    have hlength := length_set_le d k v
    have hbound := h.bound
    by_cases hover : capacity < (d.set k v).entries.length
    · rw [if_pos hover]
      refine ⟨fun k' v' hget => ok_of_get?_set h.ok hv (get?_of_get?_popFirst hget), ?_⟩
      change (d.set k v).entries.tail.length ≤ capacity
      rw [List.length_tail]
      omega
    · rw [if_neg hover]
      exact ⟨fun k' v' hget => ok_of_get?_set h.ok hv hget, Nat.le_of_not_lt hover⟩
  · rw [if_neg hpos]
    exact h

/-- A call answers as the computation does. -/
theorem memoized_fst (h : Kept f capacity d) : (memoized f capacity d k).1 = f k := by
  unfold memoized
  cases hget : d.get? k with
  | some v => exact (h.ok k v hget).symm
  | none =>
      cases hf : f k with
      | error e => rfl
      | ok v => rfl

theorem kept_memoized (h : Kept f capacity d) : Kept f capacity (memoized f capacity d k).2 := by
  unfold memoized
  cases hget : d.get? k with
  | some v => exact h.moveToEnd hget
  | none =>
      cases hf : f k with
      | error e => exact h
      | ok v => exact h.keep hf

end Memo

end MediaCenter.Library
