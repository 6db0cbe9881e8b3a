import Mathlib.Algebra.BigOperators.Group.Finset.Basic
import Mathlib.Algebra.Order.BigOperators.Group.List
import Mathlib.Algebra.Order.Ring.Nat
import Mathlib.Data.List.Sort
import Mathlib.Order.Interval.Finset.Nat

/-!
# Choosing by cumulative weights

Entries with weights cut an initial segment of the naturals into consecutive intervals, as long as
the weights say; an offset chooses the entry whose interval it is in.
-/

set_option autoImplicit false

namespace MediaCenter.Library.WeightedChoice

variable {α β κ : Type}

/-- The first entry at which the weights, added up from `reached`, pass the offset. -/
def choose (offset : ℕ) : ℕ → List (α × ℕ) → Option α
  | _, [] => none
  | reached, e :: rest =>
      if offset < reached + e.2 then some e.1 else choose offset (reached + e.2) rest

theorem choose_nil (offset reached : ℕ) : choose offset reached ([] : List (α × ℕ)) = none := rfl

theorem choose_cons (offset reached : ℕ) (e : α × ℕ) (rest : List (α × ℕ)) :
    choose offset reached (e :: rest) =
      if offset < reached + e.2 then some e.1 else choose offset (reached + e.2) rest := rfl

def total (l : List (α × ℕ)) : ℕ := (l.map Prod.snd).sum

@[simp] theorem total_nil : total ([] : List (α × ℕ)) = 0 := rfl

@[simp] theorem total_cons (e : α × ℕ) (l : List (α × ℕ)) : total (e :: l) = e.2 + total l := by
  unfold total
  rw [List.map_cons, List.sum_cons]

theorem total_zip {l : List α} {weights : List ℕ} (h : l.length = weights.length) :
    total (l.zip weights) = weights.sum := by
  unfold total
  rw [List.map_snd_zip (by omega)]

/-- INTERNAL: an offset beyond the first entries is found in the later ones. -/
theorem choose_append {offset reached : ℕ} (h : reached ≤ offset) (l l' : List (α × ℕ)) :
    choose offset reached (l ++ l') =
      if offset < reached + total l then choose offset reached l
      else choose offset (reached + total l) l' := by
  induction l generalizing reached with
  | nil =>
      rw [List.nil_append, total_nil, Nat.add_zero, if_neg (by omega)]
  | cons e l ih =>
      rw [List.cons_append, total_cons, choose_cons, choose_cons]
      by_cases he : offset < reached + e.2
      · rw [if_pos he, if_pos he, if_pos (by omega)]
      · rw [if_neg he, if_neg he, ih (by omega), Nat.add_assoc]

/-- INTERNAL: the entry whose interval the offset is in. -/
theorem choose_eq_some_iff {offset reached : ℕ} (h : reached ≤ offset) {l : List (α × ℕ)} {a : α} :
    choose offset reached l = some a ↔ ∃ before w after, l = before ++ (a, w) :: after ∧
      reached + total before ≤ offset ∧ offset < reached + total before + w := by
  constructor
  · intro hchoose
    induction l generalizing reached with
    | nil => cases hchoose
    | cons e l ih =>
        rw [choose_cons] at hchoose
        split_ifs at hchoose with he
        · cases hchoose
          exact ⟨[], e.2, l, rfl, by simpa using h, by simpa using he⟩
        · obtain ⟨before, w, after, rfl, hlow, hhigh⟩ := ih (by omega) hchoose
          refine ⟨e :: before, w, after, rfl, ?_, ?_⟩
          · rw [total_cons]
            omega
          · rw [total_cons]
            omega
  · rintro ⟨before, w, after, rfl, hlow, hhigh⟩
    rw [choose_append h, if_neg (by omega), choose_cons, if_pos hhigh]

/-- INTERNAL: an offset below the total chooses an entry. -/
theorem exists_choose {offset reached : ℕ} (hlow : reached ≤ offset) {l : List (α × ℕ)}
    (hhigh : offset < reached + total l) : ∃ a, choose offset reached l = some a := by
  induction l generalizing reached with
  | nil =>
      rw [total_nil] at hhigh
      omega
  | cons e l ih =>
      rw [choose_cons]
      split_ifs with he
      · exact ⟨e.1, rfl⟩
      · rw [total_cons] at hhigh
        exact ih (by omega) (by omega)

theorem choose_map (f : α → β) (offset reached : ℕ) (l : List (α × ℕ)) :
    choose offset reached (l.map fun e => (f e.1, e.2)) = (choose offset reached l).map f := by
  induction l generalizing reached with
  | nil => rfl
  | cons e l ih =>
      rw [List.map_cons, choose_cons, choose_cons]
      split_ifs with he
      · rfl
      · exact ih _

/-! ## Positions -/

/-- The position of the entry that the offset chooses. -/
def position (offset : ℕ) (weights : List ℕ) : Option ℕ :=
  choose offset 0 ((List.range weights.length).zip weights)

theorem choose_zip_range'_eq_some_iff {offset reached k i : ℕ} {weights : List ℕ}
    (h : reached ≤ offset) :
    choose offset reached ((List.range' k weights.length).zip weights) = some i ↔
      k ≤ i ∧ i - k < weights.length ∧ reached + (weights.take (i - k)).sum ≤ offset ∧
        offset < reached + (weights.take (i - k + 1)).sum := by
  induction weights generalizing reached k with
  | nil => simp [choose_nil]
  | cons w weights ih =>
      rw [List.length_cons, List.range'_succ, List.zip_cons_cons, choose_cons]
      by_cases hw : offset < reached + w
      · rw [if_pos hw, Option.some.injEq]
        constructor
        · rintro rfl
          simp [h, hw]
        · rintro ⟨hk, _, hlow, _⟩
          by_contra hne
          obtain ⟨j, hj⟩ : ∃ j, i - k = j + 1 := ⟨i - k - 1, by omega⟩
          rw [hj, List.take_succ_cons, List.sum_cons] at hlow
          omega
      · rw [if_neg hw, ih (by omega)]
        constructor
        · rintro ⟨hk, hlength, hlow, hhigh⟩
          have hj : i - k = i - (k + 1) + 1 := by omega
          rw [hj, List.take_succ_cons, List.take_succ_cons, List.sum_cons, List.sum_cons]
          omega
        · rintro ⟨hk, hlength, hlow, hhigh⟩
          have hne : i ≠ k := by
            rintro rfl
            rw [Nat.sub_self, List.take_succ_cons, List.take_zero, List.sum_cons] at hhigh
            simp only [List.sum_nil] at hhigh
            omega
          have hj : i - k = i - (k + 1) + 1 := by omega
          rw [hj, List.take_succ_cons, List.sum_cons] at hlow hhigh
          omega

/-- INTERNAL: an entry is chosen by the offsets between the weights before it and those up to
it. -/
theorem position_eq_some_iff {offset : ℕ} {weights : List ℕ} {i : ℕ} :
    position offset weights = some i ↔ i < weights.length ∧
      (weights.take i).sum ≤ offset ∧ offset < (weights.take (i + 1)).sum := by
  unfold position
  rw [List.range_eq_range', choose_zip_range'_eq_some_iff (Nat.zero_le _)]
  simp

/-- INTERNAL: each entry is chosen by as many offsets as its weight. -/
theorem card_position {weights : List ℕ} {i : ℕ} (h : i < weights.length) :
    ((Finset.range weights.sum).filter fun offset => position offset weights = some i).card =
      weights[i] := by
  have hsum : (weights.take (i + 1)).sum = (weights.take i).sum + weights[i] :=
    List.sum_take_succ weights i h
  have hle : (weights.take (i + 1)).sum ≤ weights.sum := by
    conv_rhs => rw [← List.take_append_drop (i + 1) weights, List.sum_append]
    omega
  have hinterval : (Finset.range weights.sum).filter
      (fun offset => position offset weights = some i) =
        Finset.Ico (weights.take i).sum (weights.take (i + 1)).sum := by
    ext offset
    rw [Finset.mem_filter, Finset.mem_range, Finset.mem_Ico, position_eq_some_iff]
    omega
  rw [hinterval, Nat.card_Ico, hsum, Nat.add_sub_cancel_left]

/-- INTERNAL: the entry chosen is the one at the position chosen. -/
theorem choose_zip {offset : ℕ} {l : List α} {weights : List ℕ}
    (h : l.length = weights.length) :
    choose offset 0 (l.zip weights) = (position offset weights).bind fun i => l[i]? := by
  have hzip : (l.zip weights).map (fun e => (some e.1, e.2)) =
      ((List.range weights.length).zip weights).map fun e => (l[e.1]?, e.2) := by
    apply List.ext_getElem
    · simp [h]
    · intro n hn hn'
      simp only [List.length_map, List.length_zip] at hn
      simp [List.getElem_zip, List.getElem?_eq_getElem (show n < l.length by omega)]
  have hsome := choose_map some offset 0 (l.zip weights)
  rw [hzip, choose_map (fun i => l[i]?)] at hsome
  unfold position
  cases hposition : choose offset 0 ((List.range weights.length).zip weights) with
  | none =>
      rw [hposition, Option.map_none] at hsome
      cases hchosen : choose offset 0 (l.zip weights) with
      | none => rfl
      | some a =>
          rw [hchosen] at hsome
          cases hsome
  | some i =>
      rw [hposition, Option.map_some] at hsome
      cases hchosen : choose offset 0 (l.zip weights) with
      | none =>
          rw [hchosen] at hsome
          cases hsome
      | some a =>
          rw [hchosen, Option.map_some, Option.some.injEq] at hsome
          exact hsome.symm

/-! ## Entries in the order of a key

A stable sort keeps the entries of one key in the order they came in. -/

section Sorting

variable [LinearOrder κ] {key : α → κ} {weight : α → ℕ}

/-- The weight of some elements together. -/
def load (weight : α → ℕ) (l : List α) : ℕ := (l.map weight).sum

theorem load_append (l l' : List α) : load weight (l ++ l') = load weight l + load weight l' := by
  unfold load
  rw [List.map_append, List.sum_append]

theorem load_cons (a : α) (l : List α) : load weight (a :: l) = weight a + load weight l := by
  unfold load
  rw [List.map_cons, List.sum_cons]

theorem load_perm {l l' : List α} (h : l.Perm l') : load weight l = load weight l' :=
  (h.map weight).sum_eq

theorem total_map_load (l : List α) : total (l.map fun a => (a, weight a)) = load weight l := by
  unfold total load
  rw [List.map_map]
  rfl

/-- The elements in the order of their keys. -/
def byKey (key : α → κ) (l : List α) : List α := l.insertionSort fun a b => key a ≤ key b

theorem byKey_perm (key : α → κ) (l : List α) : (byKey key l).Perm l := List.perm_insertionSort _ l

theorem pairwise_byKey (key : α → κ) (l : List α) :
    (byKey key l).Pairwise fun a b => key a ≤ key b := by
  have : Std.Total fun a b : α => key a ≤ key b := ⟨fun a b => le_total (key a) (key b)⟩
  have : IsTrans α fun a b : α => key a ≤ key b := ⟨fun _ _ _ => le_trans⟩
  exact List.pairwise_insertionSort _ l

/-- INTERNAL: the sort is stable. -/
theorem filter_byKey (key : α → κ) (l : List α) (k : κ) :
    ((byKey key l).filter fun a => key a = k) = l.filter fun a => key a = k := by
  have : Std.Total fun a b : α => key a ≤ key b := ⟨fun a b => le_total (key a) (key b)⟩
  have : IsTrans α fun a b : α => key a ≤ key b := ⟨fun _ _ _ => le_trans⟩
  have hordered : (l.filter fun a => key a = k).Pairwise fun a b => key a ≤ key b := by
    apply List.pairwise_of_forall_mem_list
    intro a ha b hb
    rw [List.mem_filter, decide_eq_true_iff] at ha hb
    rw [ha.2, hb.2]
  have hsub : (l.filter fun a => key a = k).Sublist (byKey key l) :=
    List.sublist_insertionSort hordered List.filter_sublist
  have hfiltered := hsub.filter fun a => decide (key a = k)
  rw [List.filter_filter] at hfiltered
  simp only [Bool.and_self] at hfiltered
  exact (hfiltered.eq_of_length ((byKey_perm key l).filter _).length_eq.symm).symm

/-- INTERNAL: an ordered list has first the elements below a key, then those of the key. -/
theorem eq_append_of_ordered {l : List α} (h : l.Pairwise fun a b => key a ≤ key b) (k : κ) :
    l = (l.filter fun a => key a < k) ++
      ((l.filter fun a => key a = k) ++ l.filter fun a => k < key a) := by
  induction l with
  | nil => rfl
  | cons a l ih =>
      rw [List.pairwise_cons] at h
      have hl := ih h.2
      rcases lt_trichotomy (key a) k with hlt | heq | hgt
      · rw [List.filter_cons_of_pos (by simpa using hlt),
          List.filter_cons_of_neg (by simpa using hlt.ne),
          List.filter_cons_of_neg (by simpa using hlt.le), List.cons_append]
        exact congrArg (List.cons a) hl
      · have hnone : (l.filter fun b => key b < k) = [] := by
          rw [List.filter_eq_nil_iff]
          intro b hb
          simpa [← heq] using h.1 b hb
        rw [List.filter_cons_of_neg (by simpa using heq.ge),
          List.filter_cons_of_pos (by simpa using heq),
          List.filter_cons_of_neg (by simpa using heq.le), hnone, List.nil_append,
          List.cons_append]
        rw [hnone, List.nil_append] at hl
        exact congrArg (List.cons a) hl
      · have hnone : (l.filter fun b => key b < k) = [] := by
          rw [List.filter_eq_nil_iff]
          intro b hb
          simpa using hgt.le.trans (h.1 b hb)
        have hnone' : (l.filter fun b => key b = k) = [] := by
          rw [List.filter_eq_nil_iff]
          intro b hb
          simpa using (hgt.trans_le (h.1 b hb)).ne'
        rw [List.filter_cons_of_neg (by simpa using hgt.le),
          List.filter_cons_of_neg (by simpa using hgt.ne'),
          List.filter_cons_of_pos (by simpa using hgt), hnone, hnone', List.nil_append,
          List.nil_append]
        rw [hnone, hnone', List.nil_append, List.nil_append] at hl
        exact congrArg (List.cons a) hl

/-- INTERNAL: the elements of one key may come in any order. -/
theorem exists_perm_filter_eq {l group : List α} {k : κ}
    (h : (l.filter fun b => key b = k).Perm group) :
    ∃ l' : List α, l'.Perm l ∧ (l'.filter fun b => key b = k) = group := by
  refine ⟨group ++ l.filter fun b => !decide (key b = k),
    (h.symm.append_right _).trans (List.filter_append_perm _ l), ?_⟩
  have hgroup : group.filter (fun b => key b = k) = group := by
    rw [List.filter_eq_self]
    intro b hb
    exact (List.mem_filter.mp (h.mem_iff.mpr hb)).2
  have hrest : ((l.filter fun b => !decide (key b = k)).filter fun b => key b = k) = [] := by
    rw [List.filter_filter, List.filter_eq_nil_iff]
    intro b _
    simp
  rw [List.filter_append, hgroup, hrest, List.append_nil]

/-- Some order of the elements with the key of `a` brings `a` to the offset. -/
def CanChoose (key : α → κ) (weight : α → ℕ) (l : List α) (offset : ℕ) (a : α) : Prop :=
  ∃ before after, (l.filter fun b => key b = key a).Perm (before ++ a :: after) ∧
    load weight (l.filter fun b => key b < key a) + load weight before ≤ offset ∧
    offset < load weight (l.filter fun b => key b < key a) + load weight before + weight a

theorem CanChoose.mem {l : List α} {offset : ℕ} {a : α}
    (h : CanChoose key weight l offset a) : a ∈ l := by
  obtain ⟨before, after, hperm, _⟩ := h
  have ha : a ∈ l.filter fun b => key b = key a :=
    hperm.mem_iff.mpr (List.mem_append_right _ List.mem_cons_self)
  exact List.mem_of_mem_filter ha

/-- INTERNAL: what can be chosen after a sort by the key, whatever order the elements come in. -/
theorem exists_perm_choose_iff {l : List α} {offset : ℕ} {a : α} :
    (∃ l', l'.Perm l ∧
      choose offset 0 ((byKey key l').map fun b => (b, weight b)) = some a) ↔
      CanChoose key weight l offset a := by
  simp only [choose_eq_some_iff (Nat.zero_le _), Nat.zero_add]
  constructor
  · rintro ⟨l', hl', before, w, after, hsplit, hlow, hhigh⟩
    obtain ⟨first, rest, hsorted, rfl, hrest⟩ := List.map_eq_append_iff.mp hsplit
    obtain ⟨a', last, rfl, ha, rfl⟩ := List.map_eq_cons_iff.mp hrest
    cases ha
    have hordered := pairwise_byKey key l'
    rw [hsorted, List.pairwise_append, List.pairwise_cons] at hordered
    obtain ⟨hfirst, ⟨hlast, _⟩, hcross⟩ := hordered
    have hbelow : ((byKey key l').filter fun b => key b < key a) =
        first.filter fun b => key b < key a := by
      have hnone : (last.filter fun b => key b < key a) = [] := by
        rw [List.filter_eq_nil_iff]
        intro b hb
        simpa using hlast b hb
      rw [hsorted, List.filter_append, List.filter_cons_of_neg (by simp), hnone, List.append_nil]
    have habove : (first.filter fun b => key a < key b) = [] := by
      rw [List.filter_eq_nil_iff]
      intro b hb
      simpa using hcross b hb a List.mem_cons_self
    have hload : load weight first = load weight (first.filter fun b => key b < key a) +
        load weight (first.filter fun b => key b = key a) := by
      conv_lhs => rw [eq_append_of_ordered hfirst (key a), habove, List.append_nil]
      exact load_append _ _
    have hbelow' : load weight (l.filter fun b => key b < key a) =
        load weight (first.filter fun b => key b < key a) := by
      rw [← hbelow]
      exact load_perm ((hl'.symm.trans (byKey_perm key l').symm).filter _)
    rw [total_map_load] at hlow hhigh
    refine ⟨first.filter fun b => key b = key a, last.filter fun b => key b = key a, ?_, ?_, ?_⟩
    · have hsame : ((byKey key l').filter fun b => key b = key a) =
          (first.filter fun b => key b = key a) ++
            a :: last.filter fun b => key b = key a := by
        rw [hsorted, List.filter_append, List.filter_cons_of_pos (by simp)]
      rw [← hsame]
      exact (hl'.symm.trans (byKey_perm key l').symm).filter _
    · omega
    · omega
  · rintro ⟨before, after, hperm, hlow, hhigh⟩
    obtain ⟨l', hl', hgroup⟩ := exists_perm_filter_eq hperm
    have hsorted := eq_append_of_ordered (pairwise_byKey key l') (key a)
    rw [filter_byKey, hgroup] at hsorted
    have hbelow : load weight ((byKey key l').filter fun b => key b < key a) =
        load weight (l.filter fun b => key b < key a) :=
      load_perm (((byKey_perm key l').trans hl').filter _)
    refine ⟨l', hl', ((byKey key l').filter (fun b => key b < key a) ++ before).map
      fun b => (b, weight b), weight a,
      (after ++ (byKey key l').filter fun b => key a < key b).map fun b => (b, weight b),
      ?_, ?_, ?_⟩
    · conv_lhs => rw [hsorted]
      simp only [List.map_append, List.map_cons, List.append_assoc, List.cons_append]
    · rw [total_map_load, load_append, hbelow]
      exact hlow
    · rw [total_map_load, load_append, hbelow]
      exact hhigh

/-- INTERNAL: the elements up to a key weigh no more than those below a greater one. -/
theorem load_filter_le (key : α → κ) (weight : α → ℕ) {k k' : κ} (h : k < k') (l : List α) :
    load weight (l.filter fun b => key b < k) + load weight (l.filter fun b => key b = k) ≤
      load weight (l.filter fun b => key b < k') := by
  induction l with
  | nil => exact le_refl 0
  | cons b l ih =>
      rcases lt_trichotomy (key b) k with hlt | heq | hgt
      · rw [List.filter_cons_of_pos (by simpa using hlt),
          List.filter_cons_of_neg (by simpa using hlt.ne),
          List.filter_cons_of_pos (by simpa using hlt.trans h), load_cons, load_cons]
        omega
      · rw [List.filter_cons_of_neg (by simpa using heq.ge),
          List.filter_cons_of_pos (by simpa using heq),
          List.filter_cons_of_pos (by simpa [heq] using h), load_cons, load_cons]
        omega
      · rw [List.filter_cons_of_neg (by simpa using hgt.le),
          List.filter_cons_of_neg (by simpa using hgt.ne')]
        by_cases hb : key b < k'
        · rw [List.filter_cons_of_pos (by simpa using hb), load_cons]
          omega
        · rw [List.filter_cons_of_neg (by simpa using hb)]
          exact ih

theorem CanChoose.bounds {l : List α} {offset : ℕ} {a : α}
    (h : CanChoose key weight l offset a) :
    load weight (l.filter fun b => key b < key a) ≤ offset ∧
      offset < load weight (l.filter fun b => key b < key a) +
        load weight (l.filter fun b => key b = key a) := by
  obtain ⟨before, after, hperm, hlow, hhigh⟩ := h
  rw [load_perm hperm, load_append, load_cons]
  omega

/-- INTERNAL: all that can be chosen at an offset has one key. -/
theorem CanChoose.key_eq {l : List α} {offset : ℕ} {a b : α}
    (ha : CanChoose key weight l offset a) (hb : CanChoose key weight l offset b) :
    key a = key b := by
  obtain ⟨hlowA, hhighA⟩ := ha.bounds
  obtain ⟨hlowB, hhighB⟩ := hb.bounds
  rcases lt_trichotomy (key a) (key b) with hlt | heq | hgt
  · have hle := load_filter_le key weight hlt l
    omega
  · exact heq
  · have hle := load_filter_le key weight hgt l
    omega

end Sorting

end MediaCenter.Library.WeightedChoice
