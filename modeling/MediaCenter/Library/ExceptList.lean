import Mathlib.Data.List.Forall2
import Mathlib.Tactic.Common

/-!
# Fallible sequences and loops

`Except` stops at the first error.  A sequence or a loop succeeds exactly when every step
does; the results of `l.mapM f` are then the steps' results, in order.
-/

set_option autoImplicit false

namespace MediaCenter.Library

variable {ε α β : Type}

/-- INTERNAL: a sequence succeeds exactly when its first step does, and then its rest. -/
theorem bind_eq_ok_iff {x : Except ε α} {f : α → Except ε β} {b : β} :
    x >>= f = .ok b ↔ ∃ a, x = .ok a ∧ f a = .ok b := by
  cases x with
  | error e => simp [bind, Except.bind]
  | ok a => simp [bind, Except.bind]

/-- `if condition: raise e`. -/
def refuseIf (condition : Prop) [Decidable condition] (e : ε) : Except ε Unit :=
  if condition then .error e else .ok ()

theorem refuseIf_eq_ok_iff {condition : Prop} [Decidable condition] {e : ε} {u : Unit} :
    refuseIf condition e = .ok u ↔ ¬ condition := by
  unfold refuseIf
  by_cases h : condition
  · simp [h]
  · simp [h]

theorem mapError_eq_ok_iff {ε' : Type} {f : ε → ε'} {x : Except ε α} {a : α} :
    x.mapError f = .ok a ↔ x = .ok a := by
  cases x with
  | error e => simp [Except.mapError]
  | ok b => simp [Except.mapError]

theorem mapM_eq_ok_iff (f : α → Except ε β) (l : List α) (l' : List β) :
    l.mapM f = .ok l' ↔ List.Forall₂ (fun a b => f a = .ok b) l l' := by
  induction l generalizing l' with
  | nil =>
      rw [List.mapM_nil, List.forall₂_nil_left_iff]
      constructor
      · intro h
        cases h
        rfl
      · rintro rfl
        rfl
  | cons a l ih =>
      rw [List.mapM_cons, List.forall₂_cons_left_iff]
      constructor
      · intro h
        cases hfa : f a with
        | error e => simp [hfa, bind, Except.bind] at h
        | ok b =>
            cases hl : l.mapM f with
            | error e => simp [hfa, hl, bind, Except.bind] at h
            | ok bs =>
                simp only [hfa, hl, bind, Except.bind, pure, Except.pure,
                  Except.ok.injEq] at h
                exact ⟨b, bs, rfl, (ih bs).mp hl, h.symm⟩
      · rintro ⟨b, bs, hfa, hl, rfl⟩
        rw [hfa, (ih bs).mpr hl]
        rfl

/-- INTERNAL: every result of a loop is the result of one of its steps. -/
theorem exists_of_mem_mapM {f : α → Except ε β} {l : List α} {l' : List β}
    (h : l.mapM f = .ok l') {b : β} (hb : b ∈ l') : ∃ a ∈ l, f a = .ok b := by
  rw [mapM_eq_ok_iff] at h
  induction h with
  | nil => cases hb
  | cons hab _ ih =>
      rw [List.mem_cons] at hb
      rcases hb with rfl | hb
      · exact ⟨_, List.mem_cons_self, hab⟩
      · obtain ⟨a, ha, hok⟩ := ih hb
        exact ⟨a, List.mem_cons_of_mem _ ha, hok⟩

/-- INTERNAL: the results of a loop are those of its steps. -/
theorem mem_mapM_iff {f : α → Except ε β} {l : List α} {l' : List β} (h : l.mapM f = .ok l')
    {b : β} : b ∈ l' ↔ ∃ a ∈ l, f a = .ok b := by
  constructor
  · exact exists_of_mem_mapM h
  · rintro ⟨a, ha, hok⟩
    rw [mapM_eq_ok_iff] at h
    induction h with
    | nil => cases ha
    | cons hfirst _ ih =>
        rcases List.mem_cons.mp ha with rfl | hrest
        · rw [hok] at hfirst
          cases hfirst
          exact List.mem_cons_self
        · exact List.mem_cons_of_mem _ (ih hrest)

/-- INTERNAL: a loop fails where its first failing step does. -/
theorem mapM_eq_error_iff (f : α → Except ε β) (l : List α) (e : ε) :
    l.mapM f = .error e ↔ ∃ before a after, l = before ++ a :: after ∧
      (∀ a' ∈ before, ∃ b, f a' = .ok b) ∧ f a = .error e := by
  induction l with
  | nil =>
      constructor
      · intro h
        cases h
      · rintro ⟨before, a, after, h, _⟩
        simp at h
  | cons a l ih =>
      rw [List.mapM_cons]
      cases hfa : f a with
      | error e' =>
          constructor
          · intro h
            cases h
            exact ⟨[], a, l, rfl, by simp, hfa⟩
          · rintro ⟨before, a', after, hl, hbefore, ha'⟩
            cases before with
            | nil =>
                cases hl
                rw [hfa] at ha'
                cases ha'
                rfl
            | cons first before =>
                cases hl
                obtain ⟨b, hb⟩ := hbefore a List.mem_cons_self
                rw [hfa] at hb
                cases hb
      | ok b =>
          have htail : (do let bs ← l.mapM f; pure (b :: bs)) = (.error e : Except ε (List β)) ↔
              l.mapM f = .error e := by
            cases l.mapM f with
            | error e' => simp [bind, Except.bind]
            | ok bs => simp [bind, Except.bind, pure, Except.pure]
          refine htail.trans (ih.trans ?_)
          constructor
          · rintro ⟨before, a', after, rfl, hbefore, ha'⟩
            exact ⟨a :: before, a', after, rfl, List.forall_mem_cons.mpr ⟨⟨b, hfa⟩, hbefore⟩, ha'⟩
          · rintro ⟨before, a', after, hl, hbefore, ha'⟩
            cases before with
            | nil =>
                cases hl
                rw [hfa] at ha'
                cases ha'
            | cons first before =>
                cases hl
                exact ⟨before, a', after, rfl, fun x hx => hbefore x (List.mem_cons_of_mem _ hx),
                  ha'⟩

/-- INTERNAL: a loop whose steps all succeed is a map. -/
theorem mapM_eq_ok_map {f : α → Except ε β} {g : α → β} {l : List α}
    (h : ∀ a ∈ l, f a = .ok (g a)) : l.mapM f = .ok (l.map g) := by
  rw [mapM_eq_ok_iff, List.forall₂_map_right_iff, List.forall₂_same]
  exact h

/-- INTERNAL: a loop whose steps have known results, when they have one. -/
theorem mapM_eq_ok_map_iff {f : α → Except ε β} {g : α → β} {C : α → Prop}
    (h : ∀ a b, f a = .ok b ↔ C a ∧ b = g a) (l : List α) (l' : List β) :
    l.mapM f = .ok l' ↔ (∀ a ∈ l, C a) ∧ l' = l.map g := by
  rw [mapM_eq_ok_iff]
  simp only [h]
  induction l generalizing l' with
  | nil => simp
  | cons a l ih =>
      rw [List.forall₂_cons_left_iff, List.forall_mem_cons]
      constructor
      · rintro ⟨b, bs, ⟨hC, rfl⟩, hbs, rfl⟩
        obtain ⟨hall, rfl⟩ := (ih bs).mp hbs
        exact ⟨⟨hC, hall⟩, rfl⟩
      · rintro ⟨⟨hC, hall⟩, rfl⟩
        exact ⟨g a, l.map g, ⟨hC, rfl⟩, (ih _).mpr ⟨hall, rfl⟩, rfl⟩

theorem exists_mapM_eq_ok_iff (f : α → Except ε β) (l : List α) :
    (∃ l', l.mapM f = .ok l') ↔ ∀ a ∈ l, ∃ b, f a = .ok b := by
  induction l with
  | nil => exact ⟨fun _ a ha => by simp at ha, fun _ => ⟨[], rfl⟩⟩
  | cons a l ih =>
      simp only [List.forall_mem_cons, ← ih, mapM_eq_ok_iff, List.forall₂_cons_left_iff]
      constructor
      · rintro ⟨_, b, bs, hb, hbs, rfl⟩
        exact ⟨⟨b, hb⟩, bs, hbs⟩
      · rintro ⟨⟨b, hb⟩, bs, hbs⟩
        exact ⟨_, b, bs, hb, hbs, rfl⟩

/-- INTERNAL: a loop that adds up what its steps return runs the steps first. -/
theorem foldlM_eq_mapM_map {γ : Type} (f : α → Except ε γ) (add : β → γ → β) (l : List α) (b : β) :
    l.foldlM (fun b a => do let c ← f a; return add b c) b =
      (l.mapM f).map fun cs => cs.foldl add b := by
  induction l generalizing b with
  | nil => rfl
  | cons a l ih =>
      rw [List.foldlM_cons, List.mapM_cons]
      cases f a with
      | error e => rfl
      | ok c =>
          simp only [bind, Except.bind, pure, Except.pure] at ih ⊢
          rw [ih]
          cases l.mapM f with
          | error e => rfl
          | ok cs => rfl

theorem forM_eq_ok_iff (f : α → Except ε Unit) (l : List α) :
    l.forM f = .ok () ↔ ∀ a ∈ l, f a = .ok () := by
  induction l with
  | nil => simp [pure, Except.pure]
  | cons a l ih =>
      rw [List.forall_mem_cons, ← ih]
      show (f a >>= fun _ => l.forM f) = .ok () ↔ _
      cases hfa : f a with
      | error e => simp [bind, Except.bind]
      | ok u => simp [bind, Except.bind]

end MediaCenter.Library
