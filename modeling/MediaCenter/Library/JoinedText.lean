import Mathlib.Data.List.Basic
import Mathlib.Data.String.Basic
import Mathlib.Tactic.Common

/-!
# Texts joined by a separator

When two joined texts are equal, their parts agree where a part is known not to hold the
separator; otherwise the separator of one lies inside a part of the other.
-/

set_option autoImplicit false

namespace MediaCenter.Library

namespace JoinedText

variable {α : Type} {sep : α} {a b x y : List α}

/-- INTERNAL: two joins are equal exactly when their parts are, or when one of the first
parts continues the other across a separator. -/
theorem append_cons_eq_iff : a ++ sep :: x = b ++ sep :: y ↔
    (a = b ∧ x = y) ∨ (∃ m, b = a ++ sep :: m ∧ x = m ++ sep :: y) ∨
      (∃ m, a = b ++ sep :: m ∧ y = m ++ sep :: x) := by
  rw [List.append_eq_append_iff]
  constructor
  · rintro (⟨m, hb, hx⟩ | ⟨m, ha, hy⟩)
    · cases m with
      | nil =>
          rw [List.nil_append, List.cons.injEq] at hx
          rw [List.append_nil] at hb
          exact .inl ⟨hb.symm, hx.2⟩
      | cons c m =>
          rw [List.cons_append, List.cons.injEq] at hx
          rw [← hx.1] at hb
          exact .inr (.inl ⟨m, hb, hx.2⟩)
    · cases m with
      | nil =>
          rw [List.nil_append, List.cons.injEq] at hy
          rw [List.append_nil] at ha
          exact .inl ⟨ha, hy.2.symm⟩
      | cons c m =>
          rw [List.cons_append, List.cons.injEq] at hy
          rw [← hy.1] at ha
          exact .inr (.inr ⟨m, ha, hy.2⟩)
  · rintro (⟨rfl, rfl⟩ | ⟨m, hb, hx⟩ | ⟨m, ha, hy⟩)
    · exact .inl ⟨[], by simp⟩
    · exact .inl ⟨sep :: m, hb, by rw [hx, List.cons_append]⟩
    · exact .inr ⟨sep :: m, ha, by rw [hy, List.cons_append]⟩

theorem parts_eq_of_not_mem_left (ha : sep ∉ a) (hb : sep ∉ b)
    (h : a ++ sep :: x = b ++ sep :: y) : a = b ∧ x = y := by
  rcases append_cons_eq_iff.mp h with heq | ⟨m, hm, _⟩ | ⟨m, hm, _⟩
  · exact heq
  · exact absurd (by simp [hm]) hb
  · exact absurd (by simp [hm]) ha

theorem parts_eq_of_not_mem_right (hx : sep ∉ x) (hy : sep ∉ y)
    (h : a ++ sep :: x = b ++ sep :: y) : a = b ∧ x = y := by
  rcases append_cons_eq_iff.mp h with heq | ⟨m, _, hm⟩ | ⟨m, _, hm⟩
  · exact heq
  · exact absurd (by simp [hm]) hx
  · exact absurd (by simp [hm]) hy

/-! ## A word between two separators -/

/-- INTERNAL: the first join runs on into the second: its second part starts within the
second one's first part, behind a separated word. -/
def RunsInto (sep : α) (word a x b y : List α) : Prop :=
  ∃ m, b ++ [sep] = a ++ sep :: (word ++ sep :: m) ∧ x = m ++ (word ++ sep :: y)

theorem runsInto_of_append_eq {word m : List α} (hword : sep ∉ word)
    (hb : b = a ++ sep :: m) (hx : word ++ sep :: x = m ++ sep :: (word ++ sep :: y)) :
    RunsInto sep word a x b y := by
  rcases append_cons_eq_iff.mp hx with ⟨rfl, rfl⟩ | ⟨n, rfl, rfl⟩ | ⟨n, rfl, _⟩
  · exact ⟨[], by rw [hb, List.append_assoc, List.cons_append], rfl⟩
  · refine ⟨n ++ [sep], ?_, ?_⟩
    · rw [hb]
      simp only [List.append_assoc, List.cons_append]
    · simp only [List.append_assoc, List.cons_append, List.nil_append]
  · exact absurd (by simp) hword

theorem append_eq_of_runsInto {word : List α} (h : RunsInto sep word a x b y) :
    a ++ sep :: (word ++ sep :: x) = b ++ sep :: (word ++ sep :: y) := by
  obtain ⟨m, hb, rfl⟩ := h
  calc a ++ sep :: (word ++ sep :: (m ++ (word ++ sep :: y)))
      = (a ++ sep :: (word ++ sep :: m)) ++ (word ++ sep :: y) := by simp
    _ = (b ++ [sep]) ++ (word ++ sep :: y) := by rw [hb]
    _ = b ++ sep :: (word ++ sep :: y) := by simp

/-- INTERNAL: two joins by a separated word are equal exactly when their parts are, or when
one runs into the other. -/
theorem append_word_eq_iff {word : List α} (hword : sep ∉ word) :
    a ++ sep :: (word ++ sep :: x) = b ++ sep :: (word ++ sep :: y) ↔
      (a = b ∧ x = y) ∨ RunsInto sep word a x b y ∨ RunsInto sep word b y a x := by
  constructor
  · intro h
    rcases append_cons_eq_iff.mp h with ⟨rfl, hx⟩ | ⟨m, hb, hx⟩ | ⟨m, ha, hy⟩
    · rw [List.append_cancel_left_eq, List.cons.injEq] at hx
      exact .inl ⟨rfl, hx.2⟩
    · exact .inr (.inl (runsInto_of_append_eq hword hb hx))
    · exact .inr (.inr (runsInto_of_append_eq hword ha hy))
  · rintro (⟨rfl, rfl⟩ | h | h)
    · rfl
    · exact append_eq_of_runsInto h
    · exact (append_eq_of_runsInto h).symm

/-! ## Strings -/

section Strings

variable {c : Char} {separator : String} {a b x y : String}

theorem toList_append_append (hsep : separator.toList = [c]) (a x : String) :
    (a ++ separator ++ x).toList = a.toList ++ c :: x.toList := by
  rw [String.toList_append, String.toList_append, hsep, List.append_assoc,
    List.singleton_append]

theorem text_append_eq_iff (hsep : separator.toList = [c]) :
    a ++ separator ++ x = b ++ separator ++ y ↔
      (a = b ∧ x = y) ∨ (∃ m, b = a ++ separator ++ m ∧ x = m ++ separator ++ y) ∨
        (∃ m, a = b ++ separator ++ m ∧ y = m ++ separator ++ x) := by
  simp only [← String.toList_inj, toList_append_append hsep, append_cons_eq_iff]
  have hexists : ∀ P : List Char → Prop, (∃ l, P l) ↔ ∃ m : String, P m.toList :=
    fun P => ⟨fun ⟨l, h⟩ => ⟨String.ofList l, by rwa [String.toList_ofList]⟩,
      fun ⟨m, h⟩ => ⟨m.toList, h⟩⟩
  rw [hexists, hexists]

theorem texts_eq_of_not_mem_left (hsep : separator.toList = [c]) (ha : c ∉ a.toList)
    (hb : c ∉ b.toList) (h : a ++ separator ++ x = b ++ separator ++ y) : a = b ∧ x = y := by
  rw [← String.toList_inj, toList_append_append hsep, toList_append_append hsep] at h
  have hparts := parts_eq_of_not_mem_left ha hb h
  exact ⟨String.toList_inj.mp hparts.1, String.toList_inj.mp hparts.2⟩

theorem texts_eq_of_not_mem_right (hsep : separator.toList = [c]) (hx : c ∉ x.toList)
    (hy : c ∉ y.toList) (h : a ++ separator ++ x = b ++ separator ++ y) : a = b ∧ x = y := by
  rw [← String.toList_inj, toList_append_append hsep, toList_append_append hsep] at h
  have hparts := parts_eq_of_not_mem_right hx hy h
  exact ⟨String.toList_inj.mp hparts.1, String.toList_inj.mp hparts.2⟩

/-- INTERNAL: `RunsInto` of strings; the separator is the word between two marks. -/
theorem text_append_word_eq_iff {word mark : String} (hmark : mark.toList = [c])
    (hsep : separator = mark ++ word ++ mark) (hword : c ∉ word.toList) :
    a ++ separator ++ x = b ++ separator ++ y ↔ (a = b ∧ x = y) ∨
      (∃ m, b ++ mark = a ++ separator ++ m ∧ x = m ++ word ++ mark ++ y) ∨
        (∃ m, a ++ mark = b ++ separator ++ m ∧ y = m ++ word ++ mark ++ x) := by
  have happend : ∀ a x : String, (a ++ separator ++ x).toList =
      a.toList ++ c :: (word.toList ++ c :: x.toList) := by
    intro a x
    rw [hsep]
    simp only [String.toList_append, hmark, List.append_assoc, List.nil_append,
      List.cons_append]
  have hruns : ∀ a x b y : String, RunsInto c word.toList a.toList x.toList b.toList y.toList ↔
      ∃ m, b ++ mark = a ++ separator ++ m ∧ x = m ++ word ++ mark ++ y := by
    intro a x b y
    simp only [← String.toList_inj, happend]
    simp only [String.toList_append, hmark, List.append_assoc, List.singleton_append]
    exact ⟨fun ⟨l, hl⟩ => ⟨String.ofList l, by rwa [String.toList_ofList]⟩,
      fun ⟨m, hm⟩ => ⟨m.toList, hm⟩⟩
  rw [← hruns, ← hruns, ← String.toList_inj, happend, happend, append_word_eq_iff hword,
    String.toList_inj, String.toList_inj]

end Strings

end JoinedText

end MediaCenter.Library
