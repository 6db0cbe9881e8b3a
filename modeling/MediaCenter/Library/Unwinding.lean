import Mathlib.Order.Defs.PartialOrder
import Mathlib.Data.List.Basic
import Mathlib.Tactic.Common

/-!
# Runs with and without somebody else's calls

A machine answers calls one after the other.  Some of the calls are one's own.  The unwinding
conditions say what a single call must respect for one's own calls to be answered, in a run
with everybody's calls, as they are answered when they are made alone.
-/

set_option autoImplicit false

namespace MediaCenter.Library

variable {σ ι ρ τ : Type}

/-- The answers of a run, each with the call it answers. -/
def answers (step : σ → ι → ρ × σ) : σ → List ι → List (ι × ρ)
  | _, [] => []
  | s, i :: l => (i, (step s i).1) :: answers step (step s i).2 l

/-- The state a run ends in. -/
def after (step : σ → ι → ρ × σ) : σ → List ι → σ
  | s, [] => s
  | s, i :: l => after step (step s i).2 l

/-- Every call of a run is made in a state that it is fit for. -/
def EachMeets (step : σ → ι → ρ × σ) (fit : σ → ι → Prop) : σ → List ι → Prop
  | _, [] => True
  | s, i :: l => fit s i ∧ EachMeets step fit (step s i).2 l

section Runs

variable (step : σ → ι → ρ × σ) (fit : σ → ι → Prop)

theorem after_append (s : σ) (l l' : List ι) :
    after step s (l ++ l') = after step (after step s l) l' := by
  induction l generalizing s with
  | nil => rfl
  | cons i l ih =>
      rw [List.cons_append, after, after]
      exact ih (step s i).2

theorem answers_append (s : σ) (l l' : List ι) :
    answers step s (l ++ l') = answers step s l ++ answers step (after step s l) l' := by
  induction l generalizing s with
  | nil => rfl
  | cons i l ih =>
      rw [List.cons_append, answers, answers, after, List.cons_append]
      rw [ih (step s i).2]

theorem answers_concat (s : σ) (l : List ι) (i : ι) :
    answers step s (l ++ [i]) = answers step s l ++ [(i, (step (after step s l) i).1)] := by
  rw [answers_append]
  rfl

theorem after_concat (s : σ) (l : List ι) (i : ι) :
    after step s (l ++ [i]) = (step (after step s l) i).2 := by
  rw [after_append]
  rfl

theorem map_fst_answers (s : σ) (l : List ι) : (answers step s l).map Prod.fst = l := by
  induction l generalizing s with
  | nil => rfl
  | cons i l ih =>
      rw [answers, List.map_cons, ih (step s i).2]

theorem exists_split_of_mem_answers {s : σ} {l : List ι} {a : ι × ρ}
    (h : a ∈ answers step s l) : ∃ earlier i later, l = earlier ++ i :: later ∧
      a = (i, (step (after step s earlier) i).1) := by
  induction l generalizing s with
  | nil => cases h
  | cons i l ih =>
      rw [answers, List.mem_cons] at h
      rcases h with rfl | h
      · exact ⟨[], i, l, rfl, rfl⟩
      · obtain ⟨earlier, j, later, rfl, ha⟩ := ih h
        exact ⟨i :: earlier, j, later, rfl, ha⟩

theorem eachMeets_append (s : σ) (l l' : List ι) :
    EachMeets step fit s (l ++ l') ↔
      EachMeets step fit s l ∧ EachMeets step fit (after step s l) l' := by
  induction l generalizing s with
  | nil => exact ⟨fun h => ⟨trivial, h⟩, fun h => h.2⟩
  | cons i l ih =>
      rw [List.cons_append, EachMeets, EachMeets, after, ih (step s i).2, and_assoc]

theorem eachMeets_iff_forall_split (s : σ) (l : List ι) :
    EachMeets step fit s l ↔
      ∀ earlier i later, l = earlier ++ i :: later → fit (after step s earlier) i := by
  induction l generalizing s with
  | nil =>
      constructor
      · intro _ earlier i later hsplit
        exact absurd hsplit (by simp)
      · intro _
        exact trivial
  | cons j l ih =>
      rw [EachMeets, ih (step s j).2]
      constructor
      · rintro ⟨hj, hl⟩ earlier i later hsplit
        cases earlier with
        | nil =>
            rw [List.nil_append, List.cons.injEq] at hsplit
            rw [← hsplit.1]
            exact hj
        | cons k earlier =>
            rw [List.cons_append, List.cons.injEq] at hsplit
            rw [← hsplit.1]
            exact hl earlier i later hsplit.2
      · intro h
        refine ⟨h [] j l rfl, fun earlier i later hsplit => ?_⟩
        exact h (j :: earlier) i later (by rw [hsplit, List.cons_append])

theorem eachMeets_of_forall (hfit : ∀ s i, fit s i) (s : σ) (l : List ι) :
    EachMeets step fit s l := by
  induction l generalizing s with
  | nil => exact trivial
  | cons i l ih => exact ⟨hfit s i, ih (step s i).2⟩

theorem EachMeets.and {step : σ → ι → ρ × σ} {fit fit' : σ → ι → Prop} {s : σ} {l : List ι}
    (h : EachMeets step fit s l) (h' : EachMeets step fit' s l) :
    EachMeets step (fun s i => fit s i ∧ fit' s i) s l := by
  induction l generalizing s with
  | nil => exact trivial
  | cons i l ih => exact ⟨⟨h.1, h'.1⟩, ih h.2 h'.2⟩

/-- INTERNAL: what every fit call keeps, a run of fit calls keeps. -/
theorem after_induction {inv : σ → Prop} (hstep : ∀ s i, inv s → fit s i → inv (step s i).2)
    {s : σ} (hs : inv s) {l : List ι} (hl : EachMeets step fit s l) :
    inv (after step s l) := by
  induction l generalizing s with
  | nil => exact hs
  | cons i l ih => exact ih (hstep s i hs hl.1) hl.2

/-- A run is good throughout exactly if every call is fit: what fit calls keep is good, and
from there no other call leads to a good state. -/
theorem forall_after_iff_eachMeets {inv good : σ → Prop} (hgood : ∀ s, inv s → good s)
    (hstep : ∀ s i, inv s → fit s i → inv (step s i).2)
    (hback : ∀ s i, inv s → good (step s i).2 → fit s i) {s : σ} (hs : inv s) (l : List ι) :
    (∀ earlier later, l = earlier ++ later → good (after step s earlier)) ↔
      EachMeets step fit s l := by
  constructor
  · intro h
    induction l generalizing s with
    | nil => exact trivial
    | cons i l ih =>
        have hfit : fit s i := hback s i hs (h [i] l rfl)
        refine ⟨hfit, ih (hstep s i hs hfit) ?_⟩
        intro earlier later hsplit
        exact h (i :: earlier) later (by rw [hsplit, List.cons_append])
  · rintro h earlier later rfl
    rw [eachMeets_append] at h
    exact hgood _ (after_induction step fit hstep hs h.1)

end Runs

/-! ## Unwinding -/

/-- `same n s t`: at the time `n` the two states look alike to the owner of the calls that
`own` accepts.  The calls are made at times that do not decrease, and the states of the run
of one's own calls alone are the ones that must be fit for the calls. -/
structure Unwinds [Preorder τ] (step : σ → ι → ρ × σ) (time : ι → τ) (own : ι → Bool)
    (fit : σ → ι → Prop) (same : τ → σ → σ → Prop) : Prop where
  wait : ∀ {m n : τ} {s t : σ}, same m s t → m ≤ n → same n s t
  other : ∀ {s t : σ} {i : ι}, own i = false → same (time i) s t →
    same (time i) (step s i).2 t
  answer : ∀ {s t : σ} {i : ι}, own i = true → fit t i → same (time i) s t →
    (step s i).1 = (step t i).1
  next : ∀ {s t : σ} {i : ι}, own i = true → fit t i → same (time i) s t →
    same (time i) (step s i).2 (step t i).2

namespace Unwinds

variable [Preorder τ] {step : σ → ι → ρ × σ} {time : ι → τ} {own : ι → Bool}
  {fit : σ → ι → Prop} {same : τ → σ → σ → Prop}

/-- INTERNAL: induction on the calls; the relation holds at the time of the last call made. -/
theorem run (h : Unwinds step time own fit same) {l : List ι}
    (hl : l.Pairwise fun i j => time i ≤ time j) {n : τ} (hn : ∀ i ∈ l, n ≤ time i) {s t : σ}
    (hst : same n s t) (hfit : EachMeets step fit t (l.filter own)) :
    (answers step s l).filter (fun p => own p.1) = answers step t (l.filter own) ∧
      ∀ m, n ≤ m → (∀ i ∈ l, time i ≤ m) → same m (after step s l) (after step t (l.filter own)) := by
  induction l generalizing n s t with
  | nil => exact ⟨rfl, fun m hm _ => h.wait hst hm⟩
  | cons i l ih =>
      rw [List.pairwise_cons] at hl
      have hsame : same (time i) s t := h.wait hst (hn i List.mem_cons_self)
      cases hown : own i with
      | false =>
          have hfilter : (i :: l).filter own = l.filter own :=
            List.filter_cons_of_neg (by simp [hown])
          rw [hfilter] at hfit ⊢
          have hnext := ih hl.2 hl.1 (h.other hown hsame) hfit
          rw [answers, List.filter_cons_of_neg (by simp [hown])]
          refine ⟨hnext.1, fun m hm hle => ?_⟩
          exact hnext.2 m (hle i List.mem_cons_self) fun j hj => hle j (List.mem_cons_of_mem i hj)
      | true =>
          have hfilter : (i :: l).filter own = i :: l.filter own :=
            List.filter_cons_of_pos hown
          rw [hfilter, EachMeets] at hfit
          rw [hfilter]
          have hnext := ih hl.2 hl.1 (h.next hown hfit.1 hsame) hfit.2
          have hanswers : (answers step s (i :: l)).filter (fun p => own p.1) =
              answers step t (i :: l.filter own) := by
            rw [answers, List.filter_cons, if_pos hown, answers, h.answer hown hfit.1 hsame,
              hnext.1]
          refine ⟨hanswers, fun m hm hle => ?_⟩
          exact hnext.2 m (hle i List.mem_cons_self) fun j hj => hle j (List.mem_cons_of_mem i hj)

theorem answers_filter (h : Unwinds step time own fit same) {l : List ι}
    (hl : l.Pairwise fun i j => time i ≤ time j) {n : τ} (hn : ∀ i ∈ l, n ≤ time i) {s t : σ}
    (hst : same n s t) (hfit : EachMeets step fit t (l.filter own)) :
    (answers step s l).filter (fun p => own p.1) = answers step t (l.filter own) :=
  (h.run hl hn hst hfit).1

theorem after_filter (h : Unwinds step time own fit same) {l : List ι}
    (hl : l.Pairwise fun i j => time i ≤ time j) {n : τ} (hn : ∀ i ∈ l, n ≤ time i) {s t : σ}
    (hst : same n s t) (hfit : EachMeets step fit t (l.filter own)) {m : τ} (hm : n ≤ m)
    (hle : ∀ i ∈ l, time i ≤ m) : same m (after step s l) (after step t (l.filter own)) :=
  (h.run hl hn hst hfit).2 m hm hle

end Unwinds

end MediaCenter.Library
