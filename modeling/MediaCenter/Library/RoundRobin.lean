import Mathlib.Data.List.Rotate

/-!
# Round robin

A ring of elements is served from its front.  A turn passes over the elements that are not live,
serves the first that is, and moves both behind the rest.
-/

set_option autoImplicit false

namespace MediaCenter.Library

variable {α : Type}

/-- One turn: the ring before it, the element served, the ring after it. -/
inductive Serves (live : α → Bool) : List α → α → List α → Prop
  | turn (passed : List α) (x : α) (waiting : List α) (hpassed : ∀ a ∈ passed, live a = false)
      (hx : live x = true) : Serves live (passed ++ x :: waiting) x (waiting ++ (passed ++ [x]))

namespace Serves

variable {live : α → Bool} {ring ring' : List α} {x : α}

theorem perm (h : Serves live ring x ring') : List.Perm ring' ring := by
  cases h with
  | turn passed x waiting _ _ =>
      rw [show passed ++ x :: waiting = passed ++ [x] ++ waiting from List.append_cons ..]
      exact List.perm_append_comm

/-- INTERNAL: among the live elements a turn moves the first to the end. -/
theorem filter_eq (h : Serves live ring x ring') :
    ∃ rest, ring.filter live = x :: rest ∧ ring'.filter live = rest ++ [x] := by
  cases h with
  | turn passed x waiting hpassed hx =>
      have hnone : passed.filter live = [] := by
        rw [List.filter_eq_nil_iff]
        intro a ha
        rw [hpassed a ha]
        exact Bool.false_ne_true
      refine ⟨waiting.filter live, ?_, ?_⟩
      · rw [List.filter_append, hnone, List.nil_append, List.filter_cons_of_pos hx]
      · rw [List.filter_append, List.filter_append, hnone, List.nil_append,
          List.filter_cons_of_pos hx, List.filter_nil]

/-- INTERNAL: a live element that is not served moves towards the front. -/
theorem idxOf_lt [DecidableEq α] (h : Serves live ring x ring') {p : α} (hp : p ∈ ring)
    (hlive : live p = true) (hne : p ≠ x) : ring'.idxOf p < ring.idxOf p := by
  cases h with
  | turn passed x waiting hpassed _ =>
      have hnot : p ∉ passed := by
        intro hmem
        rw [hpassed p hmem] at hlive
        exact Bool.false_ne_true hlive
      have hwaiting : p ∈ waiting := by
        rcases List.mem_append.mp hp with hmem | hmem
        · exact absurd hmem hnot
        · exact (List.mem_cons.mp hmem).resolve_left hne
      rw [List.idxOf_append_of_mem hwaiting, List.idxOf_append_of_notMem hnot,
        List.idxOf_cons_ne _ (Ne.symm hne)]
      omega

theorem map {β : Type} {live' : β → Bool} {f : α → β} (h : Serves live ring x ring')
    (hf : ∀ a ∈ ring, live' (f a) = live a) : Serves live' (ring.map f) (f x) (ring'.map f) := by
  cases h with
  | turn passed x waiting hpassed hx =>
      rw [List.map_append, List.map_cons, List.map_append, List.map_append, List.map_singleton]
      constructor
      · intro b hb
        obtain ⟨a, ha, rfl⟩ := List.mem_map.mp hb
        rw [hf a (List.mem_append_left _ ha), hpassed a ha]
      · rw [hf x (List.mem_append_right _ List.mem_cons_self), hx]

/-- INTERNAL: a cursor into a list is the front of a ring, and a scan from it serves the ring. -/
theorem rotate {l : List α} {cursor offset : ℕ} (hoffset : offset < l.length)
    (hx : l[(cursor + offset) % l.length]? = some x) (hlive : live x = true)
    (hpassed : ∀ o < offset, ∀ a, l[(cursor + o) % l.length]? = some a → live a = false) :
    Serves live (l.rotate cursor) x
      (l.rotate (((cursor + offset) % l.length + 1) % l.length)) := by
  have hlength : (l.rotate cursor).length = l.length := List.length_rotate l cursor
  have hget : ∀ o < l.length, (l.rotate cursor)[o]? = l[(cursor + o) % l.length]? := by
    intro o ho
    rw [List.getElem?_rotate ho, Nat.add_comm]
  have hserved : (l.rotate cursor)[offset]? = some x := by
    rw [hget offset hoffset, hx]
  obtain ⟨hbound, hserved⟩ := List.getElem?_eq_some_iff.mp hserved
  have hbefore : l.rotate cursor =
      (l.rotate cursor).take offset ++ x :: (l.rotate cursor).drop (offset + 1) := by
    rw [← hserved, List.getElem_cons_drop, List.take_append_drop]
  have hafter : l.rotate (((cursor + offset) % l.length + 1) % l.length) =
      (l.rotate cursor).drop (offset + 1) ++ ((l.rotate cursor).take offset ++ [x]) := by
    rw [Nat.mod_add_mod, List.rotate_mod, Nat.add_assoc, ← List.rotate_rotate,
      List.rotate_eq_drop_append_take (by omega), List.take_add_one, List.getElem?_eq_getElem hbound,
      hserved]
    rfl
  have hturn : Serves live ((l.rotate cursor).take offset ++ x :: (l.rotate cursor).drop (offset + 1))
      x ((l.rotate cursor).drop (offset + 1) ++ ((l.rotate cursor).take offset ++ [x])) := by
    refine .turn _ _ _ ?_ hlive
    intro a ha
    obtain ⟨o, ho, rfl⟩ := List.getElem_of_mem ha
    rw [List.length_take] at ho
    apply hpassed o (by omega)
    rw [← hget o (by omega), List.getElem_take]
    exact List.getElem?_eq_getElem (by omega)
  rw [← hbefore] at hturn
  rw [hafter]
  exact hturn

end Serves

/-- A run of turns: at each one, what is live and what is served. -/
inductive ServesEach : List α → List ((α → Bool) × α) → List α → Prop
  | nil (ring : List α) : ServesEach ring [] ring
  | cons {live : α → Bool} {ring ring' ring'' : List α} {x : α}
      {turns : List ((α → Bool) × α)} (hturn : Serves live ring x ring')
      (hturns : ServesEach ring' turns ring'') : ServesEach ring ((live, x) :: turns) ring''

namespace ServesEach

variable {ring ring' : List α} {turns : List ((α → Bool) × α)}

/-- INTERNAL: what stays live is served before as many turns as stand before it. -/
theorem exists_of_idxOf_lt [DecidableEq α] (h : ServesEach ring turns ring') {p : α}
    (hp : p ∈ ring) (hlive : ∀ turn ∈ turns, turn.1 p = true)
    (hlength : ring.idxOf p < turns.length) : ∃ turn ∈ turns, turn.2 = p := by
  induction h with
  | nil ring => cases hlength
  | @cons live ring ring' ring'' x turns hturn hturns ih =>
      by_cases hx : x = p
      · exact ⟨(live, x), List.mem_cons_self, hx⟩
      · have hcloser := hturn.idxOf_lt hp (hlive _ List.mem_cons_self) (Ne.symm hx)
        rw [List.length_cons] at hlength
        obtain ⟨turn, hmem, hserved⟩ := ih (hturn.perm.mem_iff.mpr hp)
          (fun turn hmem => hlive turn (List.mem_cons_of_mem _ hmem)) (by omega)
        exact ⟨turn, List.mem_cons_of_mem _ hmem, hserved⟩

/-- **No starvation**: what stays live is served within as many turns as the ring is long. -/
theorem exists_served [DecidableEq α] (h : ServesEach ring turns ring') {p : α} (hp : p ∈ ring)
    (hlive : ∀ turn ∈ turns, turn.1 p = true) (hlength : ring.length ≤ turns.length) :
    ∃ turn ∈ turns, turn.2 = p :=
  h.exists_of_idxOf_lt hp hlive (Nat.lt_of_lt_of_le (List.idxOf_lt_length_of_mem hp) hlength)

/-- INTERNAL: while nothing changes, the live elements are served in their order. -/
theorem served_eq_take (h : ServesEach ring turns ring') {live : α → Bool}
    (hlive : ∀ turn ∈ turns, turn.1 = live) (hlength : turns.length ≤ (ring.filter live).length) :
    turns.map Prod.snd = (ring.filter live).take turns.length := by
  induction h with
  | nil ring => rw [List.length_nil, List.take_zero, List.map_nil]
  | @cons live' ring ring' ring'' x turns hturn hturns ih =>
      have hsame : live' = live := hlive _ List.mem_cons_self
      rw [hsame] at hturn
      obtain ⟨rest, hring, hring'⟩ := hturn.filter_eq
      rw [hring, List.length_cons, List.length_cons] at hlength
      have htail := ih (fun turn hmem => hlive turn (List.mem_cons_of_mem _ hmem)) (by
        rw [hring', List.length_append]
        omega)
      rw [hring'] at htail
      rw [List.map_cons, htail, hring, List.length_cons, List.take_succ_cons,
        List.take_append_of_le_length (by omega)]

/-- **Each once**: while nothing changes, as many turns as there are live elements serve each
of them once. -/
theorem served_perm (h : ServesEach ring turns ring') {live : α → Bool}
    (hlive : ∀ turn ∈ turns, turn.1 = live) (hlength : turns.length = (ring.filter live).length) :
    List.Perm (turns.map Prod.snd) (ring.filter live) := by
  rw [h.served_eq_take hlive (Nat.le_of_eq hlength), hlength, List.take_length]

end ServesEach

end MediaCenter.Library
