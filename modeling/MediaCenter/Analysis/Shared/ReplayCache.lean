import MediaCenter.Model.Shared.S2SAuth

/-!
# The replay cache

A nonce is remembered unless an entry for it is still within the window; an entry stays until a
call finds it expired.
-/

set_option autoImplicit false

namespace MediaCenter.Shared

open MediaCenter.Library

variable {serviceName nonce : String} {timestamp : ℤ} {now : ℚ} {window : ℕ}
  {cache : S2SReplayCache}

theorem contains_dropExpiredNonces_iff {key : String} :
    (dropExpiredNonces now window cache).contains key = true ↔
      ∃ timestamp, cache.get? key = some timestamp ∧ ¬ (window : ℚ) < now - timestamp := by
  simp only [Dict.contains_iff_exists, dropExpiredNonces, Dict.get?_filter_eq_some_iff,
    Bool.not_eq_true', decide_eq_false_iff_not]

/-- INTERNAL: a nonce is remembered exactly when no unexpired entry has its key. -/
theorem remember_eq_ok_iff {u : Unit} :
    (remember serviceName nonce timestamp now window cache).1 = .ok u ↔
      ∀ stored, cache.get? (replayCacheKey serviceName nonce) = some stored →
        (window : ℚ) < now - stored := by
  unfold remember
  by_cases hmem : (dropExpiredNonces now window cache).contains
      (replayCacheKey serviceName nonce) = true
  · simp only [if_pos hmem]
    obtain ⟨stored, hget, hfresh⟩ := contains_dropExpiredNonces_iff.mp hmem
    constructor
    · intro heq
      cases heq
    · intro hall
      exact absurd (hall stored hget) hfresh
  · simp only [if_neg hmem, true_iff]
    intro stored hget
    by_contra hfresh
    exact hmem (contains_dropExpiredNonces_iff.mpr ⟨stored, hget, hfresh⟩)

theorem remember_inserts {u : Unit}
    (h : (remember serviceName nonce timestamp now window cache).1 = .ok u) :
    (remember serviceName nonce timestamp now window cache).2.get?
      (replayCacheKey serviceName nonce) = some timestamp := by
  unfold remember at h ⊢
  by_cases hmem : (dropExpiredNonces now window cache).contains
      (replayCacheKey serviceName nonce) = true
  · simp only [if_pos hmem] at h
    cases h
  · simp only [if_neg hmem]
    exact Dict.get?_set_self _ _ _

/-- INTERNAL: an entry that has not expired is left as it is. -/
theorem remember_keeps {key : String} {stored : ℤ} (h : cache.get? key = some stored)
    (hfresh : ¬ (window : ℚ) < now - stored) :
    (remember serviceName nonce timestamp now window cache).2.get? key = some stored := by
  have hkept : (dropExpiredNonces now window cache).get? key = some stored := by
    unfold dropExpiredNonces
    rw [Dict.get?_filter_eq_some_iff]
    exact ⟨h, by simp [hfresh]⟩
  unfold remember
  by_cases hmem : (dropExpiredNonces now window cache).contains
      (replayCacheKey serviceName nonce) = true
  · simp only [if_pos hmem]
    exact hkept
  · simp only [if_neg hmem]
    have hne : key ≠ replayCacheKey serviceName nonce := by
      rintro rfl
      exact hmem (Dict.contains_iff_exists.mpr ⟨stored, hkept⟩)
    rw [Dict.get?_set_of_ne _ hne]
    exact hkept

end MediaCenter.Shared
