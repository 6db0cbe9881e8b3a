import Mathlib.Order.Defs.PartialOrder
import MediaCenter.Library.Dict

/-!
# Values that expire

A value stays stored after it has expired, until somebody removes it.  `Behind` relates what
two stores hold under a key when one of them may have removed an expired value already.
-/

set_option autoImplicit false

namespace MediaCenter.Library

variable {κ α τ : Type} (expired : α → τ → Bool)

/-- What is stored and has not expired. -/
def live (now : τ) (stored : Option α) : Option α := stored.filter fun x => !expired x now

/-- The same value is stored, or an expired one is stored only in the second place. -/
def Behind (now : τ) (a b : Option α) : Prop :=
  a = b ∨ (a = none ∧ ∃ x, b = some x ∧ expired x now = true)

variable {expired} {now : τ} {a b : Option α}

theorem live_eq_some_iff {x : α} :
    live expired now a = some x ↔ a = some x ∧ expired x now = false := by
  unfold live
  rw [Option.filter_eq_some_iff, Bool.not_eq_true']

theorem live_eq_none_iff :
    live expired now a = none ↔ ∀ x, a = some x → expired x now = true := by
  unfold live
  rw [Option.filter_eq_none_iff]
  constructor
  · intro h x hx
    have hnot := h x hx
    rw [Bool.not_eq_true', Bool.not_eq_false] at hnot
    exact hnot
  · intro h x hx
    rw [h x hx]
    decide

@[simp] theorem live_none : live expired now (none : Option α) = none := rfl

theorem Behind.refl (expired : α → τ → Bool) (now : τ) (a : Option α) :
    Behind expired now a a := .inl rfl

theorem Behind.wait [Preorder τ] (hmono : ∀ x m n, m ≤ n → expired x m = true → expired x n = true)
    {later : τ} (h : Behind expired now a b) (hle : now ≤ later) : Behind expired later a b := by
  rcases h with heq | ⟨hnone, x, hx, hexpired⟩
  · exact .inl heq
  · exact .inr ⟨hnone, x, hx, hmono x now later hle hexpired⟩

/-- INTERNAL: once both have removed what has expired, they hold the same. -/
theorem Behind.live_eq (h : Behind expired now a b) :
    live expired now a = live expired now b := by
  rcases h with rfl | ⟨rfl, x, rfl, hexpired⟩
  · rfl
  · rw [live_none, eq_comm, live_eq_none_iff]
    intro y hy
    cases hy
    exact hexpired

theorem Behind.live_left (h : Behind expired now a b) :
    Behind expired now (live expired now a) b := by
  rcases h with rfl | ⟨rfl, hexpired⟩
  · cases hlive : live expired now a with
    | some x =>
        rw [live_eq_some_iff] at hlive
        exact .inl hlive.1.symm
    | none =>
        cases a with
        | none => exact .inl rfl
        | some x => exact .inr ⟨rfl, x, rfl, live_eq_none_iff.mp hlive x rfl⟩
  · exact .inr ⟨rfl, hexpired⟩

theorem Behind.eq_of_not_expired (h : Behind expired now a b)
    (hb : ∀ x, b = some x → expired x now = false) : a = b := by
  rcases h with heq | ⟨_, x, hx, hexpired⟩
  · exact heq
  · rw [hb x hx] at hexpired
    cases hexpired

namespace Dict

variable [DecidableEq κ]

theorem get?_filter (d : Dict κ α) (p : κ → α → Bool) (k : κ) :
    (d.filter p).get? k = (d.get? k).filter (p k) := by
  apply Option.ext
  intro v
  rw [get?_filter_eq_some_iff, Option.filter_eq_some_iff]

theorem get?_filter_expired (d : Dict κ α) (now : τ) (k : κ) :
    (d.filter fun _ x => !expired x now).get? k = live expired now (d.get? k) :=
  get?_filter d _ k

theorem mem_map_fst_iff {d : Dict κ α} {k : κ} :
    k ∈ d.entries.map Prod.fst ↔ ∃ v, d.get? k = some v := by
  rw [← contains_iff_mem, contains_iff_exists]

/-- INTERNAL: keys are counted once, so a count depends on what is stored alone. -/
theorem countP_eq_of_get? {d d' : Dict κ α} (p : κ → Bool)
    (h : ∀ k, p k = true → d.get? k = d'.get? k) :
    (d.entries.countP fun e => p e.1) = d'.entries.countP fun e => p e.1 := by
  have hmem : ∀ k, k ∈ (d.entries.map Prod.fst).filter p ↔
      k ∈ (d'.entries.map Prod.fst).filter p := by
    intro k
    rw [List.mem_filter, List.mem_filter, mem_map_fst_iff, mem_map_fst_iff]
    constructor
    · rintro ⟨hk, hp⟩
      rw [h k hp] at hk
      exact ⟨hk, hp⟩
    · rintro ⟨hk, hp⟩
      rw [← h k hp] at hk
      exact ⟨hk, hp⟩
  have hperm : ((d.entries.map Prod.fst).filter p).Perm ((d'.entries.map Prod.fst).filter p) :=
    (List.perm_ext_iff_of_nodup (d.nodup.filter p) (d'.nodup.filter p)).mpr hmem
  have hlength := hperm.length_eq
  rw [← List.countP_eq_length_filter, ← List.countP_eq_length_filter, List.countP_map,
    List.countP_map] at hlength
  exact hlength

end Dict

end MediaCenter.Library
