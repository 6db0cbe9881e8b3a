import Mathlib.Data.List.TakeWhile
import Mathlib.Tactic.Common

/-!
# Texts that can be split off

A way of writing is prefix free if what is written can be told apart from whatever follows it.
Numbers are not: they end where a character stands that no number has.
-/

set_option autoImplicit false

namespace MediaCenter.Library

variable {α κ : Type}

def PrefixFree (text : α → List κ) : Prop :=
  ∀ a b s t, text a ++ s = text b ++ t → a = b ∧ s = t

/-- INTERNAL: a reader that finds what was written, and leaves the rest. -/
theorem prefixFree_of_reader {text : α → List κ} (read : List κ → Option (α × List κ))
    (h : ∀ a s, read (text a ++ s) = some (a, s)) : PrefixFree text := by
  intro a b s t heq
  have hread := h a s
  rw [heq, h b t, Option.some.injEq, Prod.mk.injEq] at hread
  exact ⟨hread.1.symm, hread.2.symm⟩

/-- INTERNAL: items up to an end mark that none of them begins with. -/
theorem PrefixFree.terminated {text : α → List κ} (h : PrefixFree text) {mark : κ}
    (hmark : ∀ a, ∃ c l, text a = c :: l ∧ c ≠ mark) :
    PrefixFree fun items : List α => items.flatMap text ++ [mark] := by
  intro items
  induction items with
  | nil =>
      intro items' s t heq
      cases items' with
      | nil => exact ⟨rfl, List.append_cancel_left heq⟩
      | cons b items' =>
          obtain ⟨c, l, hb, hc⟩ := hmark b
          simp only [List.flatMap_nil, List.flatMap_cons, hb, List.nil_append, List.cons_append,
            List.cons.injEq] at heq
          exact absurd heq.1.symm hc
  | cons a items ih =>
      intro items' s t heq
      cases items' with
      | nil =>
          obtain ⟨c, l, ha, hc⟩ := hmark a
          simp only [List.flatMap_nil, List.flatMap_cons, ha, List.nil_append, List.cons_append,
            List.cons.injEq] at heq
          exact absurd heq.1 hc
      | cons b items' =>
          simp only [List.flatMap_cons, List.append_assoc] at heq
          obtain ⟨rfl, hrest⟩ := h a b _ _ heq
          obtain ⟨rfl, hst⟩ := ih items' s t (by simpa only [List.append_assoc] using hrest)
          exact ⟨rfl, hst⟩

/-- The text does not go on with a character of `p`. -/
def Stops (p : κ → Bool) (l : List κ) : Prop := ∀ c m, l = c :: m → p c = false

theorem stops_cons {p : κ → Bool} {c : κ} (h : p c = false) (l : List κ) : Stops p (c :: l) := by
  intro d m heq
  rw [List.cons.injEq] at heq
  rw [← heq.1]
  exact h

theorem takeWhile_append_of_stops {p : κ → Bool} {l s : List κ} (hl : ∀ c ∈ l, p c = true)
    (hs : Stops p s) : (l ++ s).takeWhile p = l := by
  rw [List.takeWhile_append_of_pos hl]
  cases s with
  | nil => rw [List.takeWhile_nil, List.append_nil]
  | cons c m =>
      have hc := hs c m rfl
      rw [List.takeWhile_cons_of_neg (by simp [hc]), List.append_nil]

/-- INTERNAL: two runs of characters of `p` that end where the run ends. -/
theorem append_inj_of_stops {p : κ → Bool} {l l' s t : List κ} (hl : ∀ c ∈ l, p c = true)
    (hl' : ∀ c ∈ l', p c = true) (hs : Stops p s) (ht : Stops p t) (h : l ++ s = l' ++ t) :
    l = l' ∧ s = t := by
  have hsame : l = l' := by
    rw [← takeWhile_append_of_stops hl hs, h, takeWhile_append_of_stops hl' ht]
  subst hsame
  exact ⟨rfl, List.append_cancel_left h⟩

end MediaCenter.Library
