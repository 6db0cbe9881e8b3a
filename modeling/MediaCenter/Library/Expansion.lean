import Mathlib.Data.List.Forall2
import Mathlib.Data.List.Flatten

/-!
# Expansions of a pattern

A pattern is a list of entries, each of which may stand for some lists of words: a literal
for itself, a wildcard for more.  A list of words expands the pattern if it is what the
entries stand for, one after another.
-/

set_option autoImplicit false

namespace MediaCenter.Library

variable {α β : Type}

def Expands (stands : α → List β → Prop) (pattern : List α) (words : List β) : Prop :=
  ∃ parts, List.Forall₂ stands pattern parts ∧ parts.flatten = words

section Expands

variable {stands : α → List β → Prop} {pattern : List α} {words : List β}

theorem expands_nil_iff : Expands stands [] words ↔ words = [] := by
  unfold Expands
  constructor
  · rintro ⟨parts, hparts, rfl⟩
    rw [List.forall₂_nil_left_iff] at hparts
    rw [hparts]
    rfl
  · rintro rfl
    exact ⟨[], List.Forall₂.nil, rfl⟩

/-- INTERNAL: the first entry takes a front of the words, the others expand to the rest. -/
theorem expands_cons_iff {a : α} : Expands stands (a :: pattern) words ↔
    ∃ part rest, stands a part ∧ Expands stands pattern rest ∧ words = part ++ rest := by
  unfold Expands
  constructor
  · rintro ⟨parts, hparts, rfl⟩
    rw [List.forall₂_cons_left_iff] at hparts
    obtain ⟨part, others, hpart, hothers, rfl⟩ := hparts
    exact ⟨part, others.flatten, hpart, ⟨others, hothers, rfl⟩, List.flatten_cons⟩
  · rintro ⟨part, rest, hpart, ⟨others, hothers, rfl⟩, rfl⟩
    exact ⟨part :: others, List.Forall₂.cons hpart hothers, List.flatten_cons⟩

/-- INTERNAL: an entry that stands for anything may take any number of words. -/
theorem expands_cons_of_any {a : α} (h : ∀ part, stands a part) :
    Expands stands (a :: pattern) words ↔
      ∃ index ≤ words.length, Expands stands pattern (words.drop index) := by
  rw [expands_cons_iff]
  constructor
  · rintro ⟨part, rest, _, hrest, rfl⟩
    refine ⟨part.length, ?_, ?_⟩
    · rw [List.length_append]
      omega
    · rw [List.drop_left]
      exact hrest
  · rintro ⟨index, _, hrest⟩
    exact ⟨words.take index, words.drop index, h _, hrest, (List.take_append_drop _ _).symm⟩

/-- INTERNAL: an entry that stands for single words takes the first one. -/
theorem expands_cons_of_single {a : α} {p : β → Prop}
    (h : ∀ part, stands a part ↔ ∃ word, p word ∧ part = [word]) :
    Expands stands (a :: pattern) words ↔
      ∃ word rest, words = word :: rest ∧ p word ∧ Expands stands pattern rest := by
  rw [expands_cons_iff]
  constructor
  · rintro ⟨part, rest, hpart, hrest, rfl⟩
    obtain ⟨word, hword, rfl⟩ := (h part).mp hpart
    exact ⟨word, rest, rfl, hword, hrest⟩
  · rintro ⟨word, rest, rfl, hword, hrest⟩
    exact ⟨[word], rest, (h [word]).mpr ⟨word, hword, rfl⟩, hrest, rfl⟩

end Expands

end MediaCenter.Library
