import MediaCenter.Library.Text
import Mathlib.Data.Finset.Max

/-!
# Byte strings

Text in the encodings of HTTP headers.  UTF-8 writes every text; Latin-1 reads every byte
string, a character for each byte.
-/

set_option autoImplicit false

namespace MediaCenter.Library

abbrev Bytes : Type := List UInt8

namespace Bytes

/-- `value.encode("utf-8")`. -/
def encodeUtf8 (s : String) : Bytes := s.toList.flatMap String.utf8EncodeChar

/-- The character of a byte. -/
def latin1Char (b : UInt8) : Char := Char.ofNat b.toNat

/-- `value.decode("latin-1")`. -/
def decodeLatin1 (bytes : Bytes) : String := String.ofList (bytes.map latin1Char)

/-- `bytes.lower()`: the ASCII letters only. -/
def lower (bytes : Bytes) : Bytes :=
  bytes.map fun b => if 65 ≤ b.toNat ∧ b.toNat ≤ 90 then b + 32 else b

/-- A text of ASCII characters. -/
def IsAscii (s : String) : Prop := ∀ c ∈ s.toList, c.toNat < 128

instance (s : String) : Decidable (IsAscii s) :=
  inferInstanceAs (Decidable (∀ c ∈ s.toList, c.toNat < 128))

theorem toNat_latin1Char (b : UInt8) : (latin1Char b).toNat = b.toNat := by
  have hvalid : b.toNat.isValidChar := Or.inl (by have := b.toNat_lt; omega)
  unfold latin1Char Char.ofNat
  rw [dif_pos hvalid]
  rfl

theorem latin1Char_ofNat {n : ℕ} (h : n < 256) : latin1Char (UInt8.ofNat n) = Char.ofNat n := by
  unfold latin1Char
  rw [UInt8.toNat_ofNat_of_lt' h]

/-- How a character of UTF-8 text is read as Latin-1. -/
def reread (c : Char) : List Char := (String.utf8EncodeChar c).map latin1Char

theorem toList_decodeLatin1_encodeUtf8 (s : String) :
    (decodeLatin1 (encodeUtf8 s)).toList = s.toList.flatMap reread := by
  unfold decodeLatin1 encodeUtf8
  rw [String.toList_ofList, List.map_flatMap]
  rfl

theorem reread_of_lt {c : Char} (h : c.toNat < 128) : reread c = [c] := by
  have hv : c.val.toNat ≤ 127 := Nat.le_of_lt_succ h
  unfold reread String.utf8EncodeChar
  simp only [if_pos hv, List.map_cons, List.map_nil]
  rw [latin1Char_ofNat (by omega)]
  show [Char.ofNat c.toNat] = [c]
  rw [Char.ofNat_toNat]

theorem latin1Char_injective : Function.Injective latin1Char := by
  intro a b h
  have hnat := congrArg Char.toNat h
  rw [toNat_latin1Char, toNat_latin1Char] at hnat
  exact UInt8.toNat_inj.mp hnat

theorem decodeLatin1_injective : Function.Injective decodeLatin1 := by
  intro a b h
  unfold decodeLatin1 at h
  rw [String.ofList_inj] at h
  exact List.map_injective_iff.mpr latin1Char_injective h

/-- INTERNAL: ASCII text survives. -/
theorem decodeLatin1_encodeUtf8 {s : String} (h : IsAscii s) :
    decodeLatin1 (encodeUtf8 s) = s := by
  rw [← String.toList_inj, toList_decodeLatin1_encodeUtf8]
  have hreread : s.toList.flatMap reread = s.toList.flatMap fun c => [c] :=
    List.flatMap_congr fun c hc => reread_of_lt (h c hc)
  rw [hreread]
  simp

/-- INTERNAL: any other character becomes a lead above U+00C0 and more characters from U+0080
to U+00BF. -/
theorem reread_of_le {c : Char} (h : 128 ≤ c.toNat) :
    ∃ lead rest, reread c = lead :: rest ∧ 192 ≤ lead.toNat ∧ lead.toNat < 256 ∧
      rest ≠ [] ∧ ∀ d ∈ rest, 128 ≤ d.toNat ∧ d.toNat < 192 := by
  have hv : ¬ c.val.toNat ≤ 127 := not_le.mpr h
  have hbyte : ∀ {n : ℕ}, n < 256 → (latin1Char (UInt8.ofNat n)).toNat = n := by
    intro n hn
    rw [toNat_latin1Char, UInt8.toNat_ofNat_of_lt' hn]
  unfold reread String.utf8EncodeChar
  simp only [if_neg hv]
  split
  · refine ⟨_, _, rfl, ?_, ?_, by simp, ?_⟩
    · rw [hbyte (by omega)]; omega
    · rw [hbyte (by omega)]; omega
    · intro d hd
      simp only [List.map_cons, List.map_nil, List.mem_cons, List.not_mem_nil, or_false] at hd
      rw [hd, hbyte (by omega)]
      omega
  split
  · refine ⟨_, _, rfl, ?_, ?_, by simp, ?_⟩
    · rw [hbyte (by omega)]; omega
    · rw [hbyte (by omega)]; omega
    · intro d hd
      simp only [List.map_cons, List.map_nil, List.mem_cons, List.not_mem_nil, or_false] at hd
      rcases hd with rfl | rfl
      all_goals
        rw [hbyte (by omega)]
        omega
  · refine ⟨_, _, rfl, ?_, ?_, by simp, ?_⟩
    · rw [hbyte (by omega)]; omega
    · rw [hbyte (by omega)]; omega
    · intro d hd
      simp only [List.map_cons, List.map_nil, List.mem_cons, List.not_mem_nil, or_false] at hd
      rcases hd with rfl | rfl | rfl
      all_goals
        rw [hbyte (by omega)]
        omega

/-- INTERNAL: from U+00C0 to U+00FF the lead is U+00C3. -/
theorem reread_of_latin1 {c : Char} (h : 192 ≤ c.toNat) (h' : c.toNat < 256) :
    reread c = [Char.ofNat 195, Char.ofNat (c.toNat - 64)] := by
  have hv : ¬ c.val.toNat ≤ 127 := by
    have : c.val.toNat = c.toNat := rfl
    omega
  have hv' : c.val.toNat ≤ 2047 := by
    have : c.val.toNat = c.toNat := rfl
    omega
  unfold reread String.utf8EncodeChar
  simp only [if_neg hv, if_pos hv', List.map_cons, List.map_nil]
  have hc : c.val.toNat = c.toNat := rfl
  rw [hc, latin1Char_ofNat (by omega), latin1Char_ofNat (by omega)]
  have hlead : c.toNat / 64 % 32 + 192 = 195 := by omega
  have hrest : c.toNat % 64 + 128 = c.toNat - 64 := by omega
  rw [hlead, hrest]

theorem decodeLatin1_encodeUtf8_append (s t : String) :
    decodeLatin1 (encodeUtf8 (s ++ t)) =
      decodeLatin1 (encodeUtf8 s) ++ decodeLatin1 (encodeUtf8 t) := by
  rw [← String.toList_inj, toList_decodeLatin1_encodeUtf8, String.toList_append,
    String.toList_append, List.flatMap_append, toList_decodeLatin1_encodeUtf8,
    toList_decodeLatin1_encodeUtf8]

/-- INTERNAL: an ASCII character is read only where it was written. -/
theorem mem_of_mem_decodeLatin1_encodeUtf8 {s : String} {c : Char} (hc : c.toNat < 128)
    (h : c ∈ (decodeLatin1 (encodeUtf8 s)).toList) : c ∈ s.toList := by
  rw [toList_decodeLatin1_encodeUtf8, List.mem_flatMap] at h
  obtain ⟨d, hd, hcd⟩ := h
  by_cases hlt : d.toNat < 128
  · rw [reread_of_lt hlt, List.mem_singleton] at hcd
    rw [hcd]
    exact hd
  · obtain ⟨lead, rest, hreread, hlead, _, _, hrest⟩ := reread_of_le (not_lt.mp hlt)
    rw [hreread, List.mem_cons] at hcd
    rcases hcd with rfl | hcd
    · omega
    · have := hrest c hcd
      omega

/-! ## Text that is read back as Latin-1

Each time, a character above U+007F becomes at least one such character that is no white
space, and after two times it becomes more. -/

/-- What is left of a text written as UTF-8, read as Latin-1 and stripped. -/
def readBack (s : String) : String := Text.strip (decodeLatin1 (encodeUtf8 s))

def isNonAscii (c : Char) : Bool := decide (128 ≤ c.toNat)

/-- A character above U+007F that `strip` leaves. -/
def isSolid (c : Char) : Bool := isNonAscii c && !Text.isSpace c

theorem isSolid_of_lead {c : Char} (h : 192 ≤ c.toNat) (h' : c.toNat < 256) :
    isSolid c = true := by
  have hspace : Text.isSpace c = false := by
    simp only [Text.isSpace, Text.isWhiteSpace, Bool.or_eq_false_iff, Bool.and_eq_false_iff,
      decide_eq_false_iff_not]
    omega
  unfold isSolid isNonAscii
  rw [hspace, Bool.not_false, Bool.and_true, decide_eq_true_eq]
  omega

theorem one_le_countP_reread {c : Char} (h : isNonAscii c = true) :
    1 ≤ (reread c).countP isSolid := by
  obtain ⟨lead, rest, hreread, hlead, hlead', _⟩ := reread_of_le (of_decide_eq_true h)
  rw [hreread, List.countP_cons_of_pos (isSolid_of_lead hlead hlead')]
  omega

theorem countP_le_countP_flatMap_reread (l : List Char) :
    l.countP isNonAscii ≤ (l.flatMap reread).countP isSolid := by
  induction l with
  | nil => exact Nat.le_refl 0
  | cons c l ih =>
      rw [List.flatMap_cons, List.countP_append, List.countP_cons]
      by_cases hc : isNonAscii c = true
      · have hone := one_le_countP_reread hc
        rw [if_pos hc]
        omega
      · rw [if_neg hc]
        omega

theorem countP_lt_countP_flatMap_reread {c : Char} (hc : 2 ≤ (reread c).countP isSolid)
    {l : List Char} (hmem : c ∈ l) :
    l.countP isNonAscii < (l.flatMap reread).countP isSolid := by
  obtain ⟨l₁, l₂, rfl⟩ := List.append_of_mem hmem
  have h₁ := countP_le_countP_flatMap_reread l₁
  have h₂ := countP_le_countP_flatMap_reread l₂
  rw [List.flatMap_append, List.flatMap_cons, List.countP_append, List.countP_append,
    List.countP_append, List.countP_cons]
  split <;> omega

theorem countP_isSolid_le (s : String) :
    s.toList.countP isSolid ≤ s.toList.countP isNonAscii := by
  apply List.countP_mono_left
  intro c _ hc
  unfold isSolid at hc
  rw [Bool.and_eq_true] at hc
  exact hc.1

theorem countP_isSolid_readBack (s : String) :
    (readBack s).toList.countP isSolid = (s.toList.flatMap reread).countP isSolid := by
  unfold readBack Text.strip
  rw [Text.countP_dropBoth, toList_decodeLatin1_encodeUtf8]
  intro c hc
  unfold isSolid
  rw [hc, Bool.not_true, Bool.and_false]

theorem countP_le_readBack (s : String) :
    s.toList.countP isNonAscii ≤ (readBack s).toList.countP isNonAscii :=
  calc s.toList.countP isNonAscii
      ≤ (s.toList.flatMap reread).countP isSolid := countP_le_countP_flatMap_reread _
    _ = (readBack s).toList.countP isSolid := (countP_isSolid_readBack s).symm
    _ ≤ (readBack s).toList.countP isNonAscii := countP_isSolid_le _

theorem countP_lt_readBack {c : Char} (hc : 2 ≤ (reread c).countP isSolid) {s : String}
    (hmem : c ∈ s.toList) :
    s.toList.countP isNonAscii < (readBack s).toList.countP isNonAscii :=
  calc s.toList.countP isNonAscii
      < (s.toList.flatMap reread).countP isSolid := countP_lt_countP_flatMap_reread hc hmem
    _ = (readBack s).toList.countP isSolid := (countP_isSolid_readBack s).symm
    _ ≤ (readBack s).toList.countP isNonAscii := countP_isSolid_le _

/-- INTERNAL: of the characters a text is read as, those that are no white space stay. -/
theorem mem_readBack {s : String} {c d : Char} (hc : c ∈ s.toList) (hd : d ∈ reread c)
    (hspace : Text.isSpace d = false) : d ∈ (readBack s).toList := by
  have hmem : d ∈ (decodeLatin1 (encodeUtf8 s)).toList := by
    rw [toList_decodeLatin1_encodeUtf8]
    exact List.mem_flatMap.mpr ⟨c, hc, hd⟩
  obtain ⟨front, back, heq, hfront, hback⟩ :=
    Text.exists_eq_append_dropBoth Text.isSpace (decodeLatin1 (encodeUtf8 s))
  rw [heq, List.mem_append, List.mem_append] at hmem
  rcases hmem with (hmem | hmem) | hmem
  · rw [hfront d hmem] at hspace
    cases hspace
  · exact hmem
  · rw [hback d hmem] at hspace
    cases hspace

theorem isSpace_of_isSolid {c : Char} (h : isSolid c = true) : Text.isSpace c = false := by
  unfold isSolid at h
  rw [Bool.and_eq_true, Bool.not_eq_true'] at h
  exact h.2

/-- INTERNAL: read back three times, a text with a character above U+007F has more of them:
a lead, then U+00C3, then U+00C3 and U+0083. -/
theorem countP_lt_readBack_thrice {s : String} (h : ¬ IsAscii s) :
    s.toList.countP isNonAscii <
      (readBack (readBack (readBack s))).toList.countP isNonAscii := by
  obtain ⟨c, hc, hge⟩ : ∃ c ∈ s.toList, 128 ≤ c.toNat := by
    unfold IsAscii at h
    push Not at h
    exact h
  obtain ⟨lead, rest, hreread, hlead, hlead', _⟩ := reread_of_le hge
  have hmem : lead ∈ (readBack s).toList :=
    mem_readBack hc (by rw [hreread]; exact List.mem_cons_self)
      (isSpace_of_isSolid (isSolid_of_lead hlead hlead'))
  have hmem' : Char.ofNat 195 ∈ (readBack (readBack s)).toList :=
    mem_readBack hmem (by rw [reread_of_latin1 hlead hlead']; exact List.mem_cons_self)
      (by decide)
  have htwo : 2 ≤ (reread (Char.ofNat 195)).countP isSolid := by
    rw [reread_of_latin1 (by decide) (by decide)]
    decide
  calc s.toList.countP isNonAscii
      ≤ (readBack s).toList.countP isNonAscii := countP_le_readBack s
    _ ≤ (readBack (readBack s)).toList.countP isNonAscii := countP_le_readBack _
    _ < (readBack (readBack (readBack s))).toList.countP isNonAscii :=
        countP_lt_readBack htwo hmem'

/-- INTERNAL: a text with more than white space is read back as one. -/
theorem readBack_ne_empty {s : String} (h : Text.strip s ≠ "") : readBack s ≠ "" := by
  intro hempty
  apply h
  apply Text.dropBoth_eq_empty_iff.mpr
  intro c hc
  by_contra hspace
  rw [Bool.not_eq_true] at hspace
  have hmem : ∃ d, d ∈ (readBack s).toList := by
    by_cases hlt : c.toNat < 128
    · refine ⟨c, mem_readBack hc ?_ hspace⟩
      rw [reread_of_lt hlt]
      exact List.mem_singleton_self c
    · obtain ⟨lead, rest, hreread, hlead, hlead', _⟩ := reread_of_le (not_lt.mp hlt)
      refine ⟨lead, mem_readBack hc ?_ (isSpace_of_isSolid (isSolid_of_lead hlead hlead'))⟩
      rw [hreread]
      exact List.mem_cons_self
  obtain ⟨d, hd⟩ := hmem
  rw [hempty] at hd
  cases hd

/-- INTERNAL: finitely many texts that are read back as each other are ASCII. -/
theorem isAscii_of_readBack_mem {l : List String} (h : ∀ s ∈ l, readBack s ∈ l) :
    ∀ s ∈ l, IsAscii s := by
  intro s hs
  have hne : l.toFinset.Nonempty := ⟨s, List.mem_toFinset.mpr hs⟩
  obtain ⟨t, ht, hmax⟩ :=
    l.toFinset.exists_max_image (fun s => s.toList.countP isNonAscii) hne
  rw [List.mem_toFinset] at ht
  have hascii : IsAscii t := by
    by_contra hascii
    have hlt := countP_lt_readBack_thrice hascii
    have hle := hmax _ (List.mem_toFinset.mpr (h _ (h _ (h t ht))))
    omega
  have hzero : t.toList.countP isNonAscii = 0 := by
    rw [List.countP_eq_zero]
    intro c hc
    rw [isNonAscii, decide_eq_true_eq]
    exact not_le.mpr (hascii c hc)
  have hle := hmax s (List.mem_toFinset.mpr hs)
  rw [hzero, Nat.le_zero, List.countP_eq_zero] at hle
  intro c hc
  have hnot := hle c hc
  rw [isNonAscii, decide_eq_true_eq, not_le] at hnot
  exact hnot

theorem readBack_of_isAscii {s : String} (h : IsAscii s) : readBack s = Text.strip s := by
  unfold readBack
  rw [decodeLatin1_encodeUtf8 h]

end Bytes

end MediaCenter.Library
