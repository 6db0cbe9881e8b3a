import Mathlib.Data.List.Basic
import Mathlib.Data.List.DropRight
import Mathlib.Tactic.Common

/-!
# Text as Python reads it

Strings are sequences of Unicode scalar values.  `str.strip`, `str.isspace` and
`str.isdigit` go by Python's own tables; `trim` goes by the Unicode property
`White_Space`, as a Rust `str::trim` does.  The two differ on U+001C to U+001F.
-/

set_option autoImplicit false

namespace MediaCenter.Library

section Members

variable {α : Type*} (p : α → Prop) [DecidablePred p] (l : List α)

-- Before the instances that decide a statement about all characters one by one.
instance (priority := 1100) decidableForallMem : Decidable (∀ x ∈ l, p x) :=
  List.decidableBAll p l

instance (priority := 1100) decidableExistsMem : Decidable (∃ x, x ∈ l ∧ p x) :=
  List.decidableBEx p l

end Members

namespace Text

/-- The Unicode property `White_Space`. -/
def isWhiteSpace (c : Char) : Bool :=
  let n := c.toNat
  (9 ≤ n && n ≤ 13) || n = 0x20 || n = 0x85 || n = 0xA0 || n = 0x1680 ||
    (0x2000 ≤ n && n ≤ 0x200A) || n = 0x2028 || n = 0x2029 || n = 0x202F ||
    n = 0x205F || n = 0x3000

/-- `str.isspace` of one character: `White_Space`, and the four separators
U+001C to U+001F. -/
def isSpace (c : Char) : Bool :=
  isWhiteSpace c || (0x1C ≤ c.toNat && c.toNat ≤ 0x1F)

def dropBoth (p : Char → Bool) (s : String) : String :=
  String.ofList (((s.toList.dropWhile p).reverse.dropWhile p).reverse)

/-- `str.strip()`. -/
def strip (s : String) : String := dropBoth isSpace s

/-- `str::trim`. -/
def trim (s : String) : String := dropBoth isWhiteSpace s

/-- The characters with a Unicode digit value (`str.isdigit`), as closed ranges. -/
def digitRanges : List (ℕ × ℕ) :=
  [(48, 57), (178, 179), (185, 185), (1632, 1641), (1776, 1785), (1984, 1993),
    (2406, 2415), (2534, 2543), (2662, 2671), (2790, 2799), (2918, 2927), (3046, 3055),
    (3174, 3183), (3302, 3311), (3430, 3439), (3558, 3567), (3664, 3673), (3792, 3801),
    (3872, 3881), (4160, 4169), (4240, 4249), (4969, 4977), (6112, 6121), (6160, 6169),
    (6470, 6479), (6608, 6618), (6784, 6793), (6800, 6809), (6992, 7001), (7088, 7097),
    (7232, 7241), (7248, 7257), (8304, 8304), (8308, 8313), (8320, 8329), (9312, 9320),
    (9332, 9340), (9352, 9360), (9450, 9450), (9461, 9469), (9471, 9471),
    (10102, 10110), (10112, 10120), (10122, 10130), (42528, 42537), (43216, 43225),
    (43264, 43273), (43472, 43481), (43504, 43513), (43600, 43609), (44016, 44025),
    (65296, 65305), (66720, 66729), (68160, 68163), (68912, 68921), (69216, 69224),
    (69714, 69722), (69734, 69743), (69872, 69881), (69942, 69951), (70096, 70105),
    (70384, 70393), (70736, 70745), (70864, 70873), (71248, 71257), (71360, 71369),
    (71472, 71481), (71904, 71913), (72016, 72025), (72784, 72793), (73040, 73049),
    (73120, 73129), (73552, 73561), (92768, 92777), (92864, 92873), (93008, 93017),
    (120782, 120831), (123200, 123209), (123632, 123641), (124144, 124153),
    (125264, 125273), (127232, 127242), (130032, 130041)]

/-- `str.isdigit` of one character. -/
def isDigit (c : Char) : Bool :=
  digitRanges.any fun r => decide (r.1 ≤ c.toNat) && decide (c.toNat ≤ r.2)

/-- The zeros of the decimal digits (Unicode category `Nd`): each begins a run of ten. -/
def decimalZeros : List ℕ :=
  [48, 1632, 1776, 1984, 2406, 2534, 2662, 2790, 2918, 3046, 3174, 3302, 3430, 3558,
    3664, 3792, 3872, 4160, 4240, 6112, 6160, 6470, 6608, 6784, 6800, 6992, 7088, 7232,
    7248, 42528, 43216, 43264, 43472, 43504, 43600, 44016, 65296, 66720, 68912, 69734,
    69872, 69942, 70096, 70384, 70736, 70864, 71248, 71360, 71472, 71904, 72016, 72784,
    73040, 73120, 73552, 92768, 92864, 93008, 120782, 120792, 120802, 120812, 120822,
    123200, 123632, 124144, 125264, 130032]

/-- `\d` of one character: a decimal digit of some script. -/
def isDecimal (c : Char) : Bool :=
  decimalZeros.any fun z => decide (z ≤ c.toNat) && decide (c.toNat ≤ z + 9)

def isAsciiDigit (c : Char) : Bool := '0' ≤ c && c ≤ '9'

def isAsciiLower (c : Char) : Bool := 'a' ≤ c && c ≤ 'z'

def isAsciiUpper (c : Char) : Bool := 'A' ≤ c && c ≤ 'Z'

/-- `[A-Za-z0-9]`. -/
def isAsciiAlnum (c : Char) : Bool := isAsciiUpper c || isAsciiLower c || isAsciiDigit c

/-- `str.lower` of one character below U+0100. -/
def lowerLatin1 (c : Char) : Char :=
  if (65 ≤ c.toNat ∧ c.toNat ≤ 90) ∨ (192 ≤ c.toNat ∧ c.toNat ≤ 222 ∧ c.toNat ≠ 215) then
    Char.ofNat (c.toNat + 32)
  else c

theorem toNat_lowerLatin1 (c : Char) : (lowerLatin1 c).toNat =
    if (65 ≤ c.toNat ∧ c.toNat ≤ 90) ∨ (192 ≤ c.toNat ∧ c.toNat ≤ 222 ∧ c.toNat ≠ 215) then
      c.toNat + 32
    else c.toNat := by
  unfold lowerLatin1
  split
  · have hvalid : (c.toNat + 32).isValidChar := Or.inl (by omega)
    rw [Char.ofNat, dif_pos hvalid]
    rfl
  · rfl

theorem lowerLatin1_lowerLatin1 (c : Char) : lowerLatin1 (lowerLatin1 c) = lowerLatin1 c := by
  rw [← Char.toNat_inj, toNat_lowerLatin1 (lowerLatin1 c), if_neg]
  rw [toNat_lowerLatin1]
  split
  · omega
  · assumption

/-- Replace a text wherever it stands, from the left; `skip` characters belong to the last text
replaced. -/
def replaceFrom (old new : List Char) : ℕ → List Char → List Char
  | _, [] => []
  | skip + 1, _ :: cs => replaceFrom old new skip cs
  | 0, c :: cs =>
      if old.isPrefixOf (c :: cs) = true then new ++ replaceFrom old new (old.length - 1) cs
      else c :: replaceFrom old new 0 cs

/-- `str.replace(old, new)`, for a text `old` that is not empty. -/
def replace (old new s : String) : String :=
  String.ofList (replaceFrom old.toList new.toList 0 s.toList)

/-- INTERNAL: in front of a character of the text to replace nothing is replaced. -/
theorem replaceFrom_append {o : Char} {os new front rest : List Char} (h : o ∉ front) :
    replaceFrom (o :: os) new 0 (front ++ rest) =
      front ++ replaceFrom (o :: os) new 0 rest := by
  induction front with
  | nil => rfl
  | cons c front ih =>
      rw [List.mem_cons, not_or] at h
      have hnot : ¬ (o :: os).isPrefixOf (c :: (front ++ rest)) = true := by
        rw [List.isPrefixOf_iff_prefix, List.cons_prefix_cons]
        exact fun hstart => h.1 hstart.1
      rw [List.cons_append, replaceFrom, if_neg hnot, ih h.2, List.cons_append]

theorem replaceFrom_skip (old new rest : List Char) :
    ∀ front : List Char, replaceFrom old new front.length (front ++ rest) =
      replaceFrom old new 0 rest
  | [] => rfl
  | _ :: front => replaceFrom_skip old new rest front

theorem replaceFrom_self {o : Char} (os new : List Char) :
    replaceFrom (o :: os) new 0 (o :: os) = new := by
  have hstart : (o :: os).isPrefixOf (o :: os) = true :=
    List.isPrefixOf_iff_prefix.mpr (List.prefix_refl _)
  have hskip := replaceFrom_skip (o :: os) new [] os
  rw [List.append_nil] at hskip
  rw [replaceFrom, if_pos hstart, List.length_cons, Nat.add_sub_cancel, hskip, replaceFrom,
    List.append_nil]

/-- INTERNAL: a text that ends in what is to be replaced, and holds its first character nowhere
else. -/
theorem replace_append_self {front old new : String} {o : Char} {os : List Char}
    (hold : old.toList = o :: os) (h : o ∉ front.toList) :
    replace old new (front ++ old) = front ++ new := by
  unfold replace
  apply String.toList_inj.mp
  rw [String.toList_ofList, String.toList_append, String.toList_append, hold,
    replaceFrom_append h, replaceFrom_self]

/-- The pattern `^hc{0,n}$` of one head class `h` and one tail class `c`. -/
def matchesHeadTail (h c : Char → Bool) (n : ℕ) (s : String) : Bool :=
  match s.toList with
  | [] => false
  | x :: xs => h x && xs.all c && decide (xs.length ≤ n)

theorem dropBoth_of_forall_not {p : Char → Bool} {s : String}
    (h : ∀ c ∈ s.toList, p c = false) : dropBoth p s = s := by
  have hdrop : ∀ l : List Char, (∀ c ∈ l, p c = false) → l.dropWhile p = l := by
    intro l hl
    cases l with
    | nil => rfl
    | cons x xs => simp [hl x (by simp)]
  unfold dropBoth
  rw [hdrop _ h, hdrop _ (by simpa using h), List.reverse_reverse, String.ofList_toList]

theorem toList_dropBoth (p : Char → Bool) (s : String) :
    (dropBoth p s).toList = (s.toList.dropWhile p).rdropWhile p := by
  unfold dropBoth
  rw [String.toList_ofList, List.rdropWhile]

theorem head_rdropWhile {p : Char → Bool} {l : List Char} (h : l.rdropWhile p ≠ []) :
    (l.rdropWhile p).head h = l.head (List.IsPrefix.ne_nil (List.rdropWhile_prefix p l) h) := by
  obtain ⟨t, ht⟩ := List.rdropWhile_prefix p l
  generalize l.rdropWhile p = m at h ht
  subst ht
  rw [List.head_append_of_ne_nil]

/-- INTERNAL: what is left has no dropped character at either end. -/
theorem ends_dropBoth (p : Char → Bool) (s : String) (h : (dropBoth p s).toList ≠ []) :
    p ((dropBoth p s).toList.head h) = false ∧
      p ((dropBoth p s).toList.getLast h) = false := by
  simp only [toList_dropBoth] at h ⊢
  refine ⟨?_, ?_⟩
  · rw [head_rdropWhile h]
    have hne := List.IsPrefix.ne_nil (List.rdropWhile_prefix p (s.toList.dropWhile p)) h
    simpa using List.head_dropWhile_not p hne
  · simpa using List.rdropWhile_last_not p (s.toList.dropWhile p) h

/-- INTERNAL: a text with no dropped character at either end is left as it is, and no other
text is. -/
theorem dropBoth_eq_self_iff {p : Char → Bool} {s : String} : dropBoth p s = s ↔
    ∀ h : s.toList ≠ [], p (s.toList.head h) = false ∧ p (s.toList.getLast h) = false := by
  constructor
  · intro hs h
    have hends := ends_dropBoth p s
    rw [hs] at hends
    exact hends h
  · intro h
    rw [← String.toList_inj, toList_dropBoth]
    cases hl : s.toList with
    | nil => simp
    | cons c cs =>
        have hends := h (by simp [hl])
        simp only [hl, List.head_cons] at hends
        rw [List.dropWhile_cons_of_neg (by simp [hends.1]), List.rdropWhile_eq_self_iff]
        intro _
        simp [hends.2]

theorem dropBoth_dropBoth (p : Char → Bool) (s : String) :
    dropBoth p (dropBoth p s) = dropBoth p s :=
  dropBoth_eq_self_iff.mpr (ends_dropBoth p s)

/-- INTERNAL: nothing is left of a text exactly when all of it is dropped. -/
theorem dropBoth_eq_empty_iff {p : Char → Bool} {s : String} :
    dropBoth p s = "" ↔ ∀ c ∈ s.toList, p c = true := by
  rw [← String.toList_eq_nil_iff, toList_dropBoth, List.rdropWhile_eq_nil_iff]
  constructor
  · intro hall
    rw [← List.dropWhile_eq_nil_iff]
    by_contra hne
    have hhead := List.head_dropWhile_not p hne
    rw [hall _ (List.head_mem hne)] at hhead
    cases hhead
  · intro hall c hc
    exact hall c ((List.dropWhile_suffix p).subset hc)

/-- INTERNAL: dropped characters in front of a text, or behind it, do not matter. -/
theorem dropBoth_append_left {p : Char → Bool} {front : List Char}
    (h : ∀ c ∈ front, p c = true) (l : List Char) :
    dropBoth p (String.ofList (front ++ l)) = dropBoth p (String.ofList l) := by
  unfold dropBoth
  rw [String.toList_ofList, String.toList_ofList, List.dropWhile_append_of_pos h]

theorem dropBoth_append_right {p : Char → Bool} {back : List Char}
    (h : ∀ c ∈ back, p c = true) (l : List Char) :
    dropBoth p (String.ofList (l ++ back)) = dropBoth p (String.ofList l) := by
  rw [← String.toList_inj, toList_dropBoth, toList_dropBoth, String.toList_ofList,
    String.toList_ofList, List.dropWhile_append]
  by_cases hnil : (l.dropWhile p).isEmpty = true
  · rw [if_pos hnil, List.isEmpty_iff.mp hnil, List.rdropWhile_nil,
      List.rdropWhile_eq_nil_iff]
    exact fun c hc => h c ((List.dropWhile_suffix p).subset hc)
  · rw [if_neg hnil, List.rdropWhile, List.rdropWhile, List.reverse_append,
      List.dropWhile_append_of_pos (by simpa using h)]

/-- INTERNAL: a text is what is left of it between dropped characters. -/
theorem exists_eq_append_dropBoth (p : Char → Bool) (s : String) :
    ∃ front back, s.toList = front ++ (dropBoth p s).toList ++ back ∧
      (∀ c ∈ front, p c = true) ∧ ∀ c ∈ back, p c = true := by
  refine ⟨s.toList.takeWhile p, (s.toList.dropWhile p).rtakeWhile p, ?_, ?_, ?_⟩
  · rw [toList_dropBoth, List.append_assoc, List.rdropWhile_append_rtakeWhile,
      List.takeWhile_append_dropWhile]
  · exact fun c hc => List.mem_takeWhile_imp hc
  · exact fun c hc => List.mem_rtakeWhile_imp hc

/-- INTERNAL: a count of kept characters is the same before and after. -/
theorem countP_dropBoth {p q : Char → Bool} (hq : ∀ c, p c = true → q c = false) (s : String) :
    (dropBoth p s).toList.countP q = s.toList.countP q := by
  obtain ⟨front, back, hs, hfront, hback⟩ := exists_eq_append_dropBoth p s
  have hnone : ∀ l : List Char, (∀ c ∈ l, p c = true) → l.countP q = 0 := by
    intro l hl
    rw [List.countP_eq_zero]
    intro c hc
    rw [hq c (hl c hc)]
    exact Bool.false_ne_true
  rw [hs, List.countP_append, List.countP_append, hnone front hfront, hnone back hback,
    Nat.zero_add, Nat.add_zero]

@[simp] theorem strip_strip (s : String) : strip (strip s) = strip s :=
  dropBoth_dropBoth isSpace s

/-- INTERNAL: what a smaller class drops, a larger one drops too. -/
theorem dropBoth_of_imp {p q : Char → Bool} (h : ∀ c, p c = true → q c = true) (s : String) :
    dropBoth q (dropBoth p s) = dropBoth q s := by
  obtain ⟨front, back, hs, hfront, hback⟩ := exists_eq_append_dropBoth p s
  have hsplit : s = String.ofList (front ++ ((dropBoth p s).toList ++ back)) := by
    rw [← List.append_assoc, ← hs, String.ofList_toList]
  calc dropBoth q (dropBoth p s)
      = dropBoth q (String.ofList (dropBoth p s).toList) := by rw [String.ofList_toList]
    _ = dropBoth q (String.ofList ((dropBoth p s).toList ++ back)) :=
        (dropBoth_append_right (fun c hc => h c (hback c hc)) _).symm
    _ = dropBoth q (String.ofList (front ++ ((dropBoth p s).toList ++ back))) :=
        (dropBoth_append_left (fun c hc => h c (hfront c hc)) _).symm
    _ = dropBoth q s := by rw [← hsplit]

theorem isSpace_of_isWhiteSpace {c : Char} (h : isWhiteSpace c = true) : isSpace c = true := by
  unfold isSpace
  rw [h]
  rfl

@[simp] theorem strip_trim (s : String) : strip (trim s) = strip s :=
  dropBoth_of_imp (fun _ => isSpace_of_isWhiteSpace) s

theorem isWhiteSpace_eq_false_of_isSpace {c : Char} (h : isSpace c = false) :
    isWhiteSpace c = false := by
  rw [Bool.eq_false_iff]
  intro hwhite
  rw [isSpace_of_isWhiteSpace hwhite] at h
  cases h

theorem trim_eq_self_of_strip {s : String} (h : strip s = s) : trim s = s := by
  unfold strip at h
  unfold trim
  rw [dropBoth_eq_self_iff] at h ⊢
  intro hne
  obtain ⟨hhead, hlast⟩ := h hne
  exact ⟨isWhiteSpace_eq_false_of_isSpace hhead, isWhiteSpace_eq_false_of_isSpace hlast⟩

/-- INTERNAL: a change of characters that makes no space keeps a text trimmed. -/
theorem strip_map {f : Char → Char} (hf : ∀ c, isSpace c = false → isSpace (f c) = false)
    {s : String} (h : strip s = s) :
    strip (String.ofList (s.toList.map f)) = String.ofList (s.toList.map f) := by
  unfold strip at h ⊢
  rw [dropBoth_eq_self_iff] at h ⊢
  intro hne
  simp only [String.toList_ofList] at hne ⊢
  have hnil : s.toList ≠ [] := fun hnil => hne (by rw [hnil]; rfl)
  obtain ⟨hhead, hlast⟩ := h hnil
  rw [List.head_map, List.getLast_map]
  exact ⟨hf _ hhead, hf _ hlast⟩

/-! ## Visible characters -/

/-- The printable ASCII characters other than the blank. -/
def Visible (c : Char) : Prop := 33 ≤ c.toNat ∧ c.toNat ≤ 126

theorem Visible.isSpace {c : Char} (h : Visible c) : isSpace c = false := by
  unfold Visible at h
  simp only [Text.isSpace, isWhiteSpace, Bool.or_eq_false_iff, Bool.and_eq_false_iff,
    decide_eq_false_iff_not]
  omega

theorem Visible.isWhiteSpace {c : Char} (h : Visible c) : isWhiteSpace c = false := by
  have := h.isSpace
  simp only [Text.isSpace, Bool.or_eq_false_iff] at this
  exact this.1

theorem visible_of_isAsciiAlnum {c : Char} (h : isAsciiAlnum c = true) : Visible c := by
  simp only [isAsciiAlnum, isAsciiUpper, isAsciiLower, isAsciiDigit, Bool.or_eq_true,
    Bool.and_eq_true, decide_eq_true_eq, Char.le_def, UInt32.le_iff_toNat_le] at h
  have hA : ('A' : Char).val.toNat = 65 := rfl
  have hZ : ('Z' : Char).val.toNat = 90 := rfl
  have ha : ('a' : Char).val.toNat = 97 := rfl
  have hz : ('z' : Char).val.toNat = 122 := rfl
  have h0 : ('0' : Char).val.toNat = 48 := rfl
  have h9 : ('9' : Char).val.toNat = 57 := rfl
  have hc : c.val.toNat = c.toNat := rfl
  unfold Visible
  omega

theorem isSpace_toUpper {c : Char} (h : isSpace c = false) : isSpace c.toUpper = false := by
  unfold Char.toUpper
  split
  · rename_i hlower
    have hlo : 97 ≤ c.toNat := hlower.1
    have hhi : c.toNat ≤ 122 := hlower.2
    have hupper : (c.val + ('A'.val - 'a'.val)).toNat = c.toNat - 32 := by
      rw [UInt32.toNat_add]
      show (c.toNat + 4294967264) % 2 ^ 32 = c.toNat - 32
      omega
    apply Visible.isSpace
    unfold Visible
    show 33 ≤ (c.val + ('A'.val - 'a'.val)).toNat ∧ (c.val + ('A'.val - 'a'.val)).toNat ≤ 126
    omega
  · exact h

theorem trim_of_forall_visible {s : String} (h : ∀ c ∈ s.toList, Visible c) : trim s = s :=
  dropBoth_of_forall_not fun c hc => (h c hc).isWhiteSpace

theorem strip_of_forall_visible {s : String} (h : ∀ c ∈ s.toList, Visible c) :
    strip s = s :=
  dropBoth_of_forall_not fun c hc => (h c hc).isSpace

/-- INTERNAL: a matched text holds characters of its two classes only. -/
theorem forall_of_matchesHeadTail {h c : Char → Bool} {n : ℕ} {s : String}
    (hs : matchesHeadTail h c n s = true) : ∀ x ∈ s.toList, h x = true ∨ c x = true := by
  unfold matchesHeadTail at hs
  cases hl : s.toList with
  | nil => simp
  | cons y ys =>
      rw [hl] at hs
      simp only [Bool.and_eq_true, List.all_eq_true] at hs
      intro x hx
      rw [List.mem_cons] at hx
      rcases hx with rfl | hx
      · exact .inl hs.1.1
      · exact .inr (hs.1.2 x hx)

end Text

end MediaCenter.Library
