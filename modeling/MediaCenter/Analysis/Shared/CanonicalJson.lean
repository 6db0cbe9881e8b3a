import MediaCenter.Analysis.Shared.JsonTexts
import MediaCenter.Library.PrefixFree

/-!
# The text of `json.dumps(payload, sort_keys=True)` decides the value

Every part of the text can be told apart from what follows it, so two values are written alike
only if they are the same with their keys in order.  What is needed of `repr` of a `float` is
assumed of it.
-/

set_option autoImplicit false

namespace MediaCenter.Shared

open MediaCenter.Library

/-! ## Characters -/

open Reference in
def hexQuad (a b c d : Char) : ℕ :=
  ((hexValue a * 16 + hexValue b) * 16 + hexValue c) * 16 +
    hexValue d

/-- The second of two `\uXXXX` that are one character. -/
def readLowSurrogate (high : ℕ) : List Char → Option (Char × List Char)
  | _ :: _ :: a :: b :: c :: d :: l =>
      some (Char.ofNat (65536 + (high - 55296) * 1024 + (hexQuad a b c d - 56320)), l)
  | _ => none

/-- What stands behind a backslash. -/
def readAsciiEscape : List Char → Option (Char × List Char)
  | 'u' :: a :: b :: c :: d :: l =>
      if 55296 ≤ hexQuad a b c d ∧ hexQuad a b c d < 56320 then
        readLowSurrogate (hexQuad a b c d) l
      else some (Char.ofNat (hexQuad a b c d), l)
  | l => Reference.readEscape l

def readAsciiChar : List Char → Option (Char × List Char)
  | [] => none
  | c :: l => if c = '\\' then readAsciiEscape l else some (c, l)

open Reference in
theorem hexQuad_unicodeEscape {n : ℕ} (h : n < 65536) :
    hexQuad (hexDigitOf (n / 4096)) (hexDigitOf (n / 256)) (hexDigitOf (n / 16)) (hexDigitOf n) =
      n := by
  unfold hexQuad
  rw [hexValue_hexDigitOf, hexValue_hexDigitOf,
    hexValue_hexDigitOf, hexValue_hexDigitOf]
  omega

theorem unicodeEscape_append (n : ℕ) (s : List Char) :
    unicodeEscape n ++ s = '\\' :: 'u' :: hexDigitOf (n / 4096) :: hexDigitOf (n / 256) ::
      hexDigitOf (n / 16) :: hexDigitOf n :: s := rfl

theorem readAsciiChar_unicodeEscape {n : ℕ} (h : n < 65536) (s : List Char) :
    readAsciiChar (unicodeEscape n ++ s) =
      if 55296 ≤ n ∧ n < 56320 then readLowSurrogate n s else some (Char.ofNat n, s) := by
  rw [unicodeEscape_append, readAsciiChar, if_pos rfl, readAsciiEscape, hexQuad_unicodeEscape h]

theorem readLowSurrogate_unicodeEscape (high : ℕ) {n : ℕ} (h : n < 65536) (s : List Char) :
    readLowSurrogate high (unicodeEscape n ++ s) =
      some (Char.ofNat (65536 + (high - 55296) * 1024 + (n - 56320)), s) := by
  rw [unicodeEscape_append, readLowSurrogate, hexQuad_unicodeEscape h]

/-- INTERNAL: a written character is read back, and none begins with a quotation mark. -/
theorem escapeChar_spec (c : Char) : (∃ d l, escapeChar c = d :: l ∧ d ≠ '"') ∧
    ∀ s, readAsciiChar (escapeChar c ++ s) = some (c, s) := by
  unfold escapeChar
  split
  · rename_i hc
    exact ⟨⟨_, _, rfl, by decide⟩, fun s => by rw [hc]; rfl⟩
  split
  · rename_i hc
    exact ⟨⟨_, _, rfl, by decide⟩, fun s => by rw [hc]; rfl⟩
  split
  · rename_i hc
    exact ⟨⟨_, _, rfl, by decide⟩, fun s => by rw [hc]; rfl⟩
  split
  · rename_i hc
    exact ⟨⟨_, _, rfl, by decide⟩, fun s => by rw [hc]; rfl⟩
  split
  · rename_i hc
    exact ⟨⟨_, _, rfl, by decide⟩, fun s => by rw [hc]; rfl⟩
  split
  · rename_i hc
    exact ⟨⟨_, _, rfl, by decide⟩, fun s => by rw [← Char.ofNat_toNat c, hc]; rfl⟩
  split
  · rename_i hc
    exact ⟨⟨_, _, rfl, by decide⟩, fun s => by rw [← Char.ofNat_toNat c, hc]; rfl⟩
  split
  · rename_i hquote hslash _ _ _ _ _ _
    refine ⟨⟨c, [], rfl, hquote⟩, fun s => ?_⟩
    rw [List.singleton_append, readAsciiChar, if_neg hslash]
  have hvalid : c.toNat < 55296 ∨ (57343 < c.toNat ∧ c.toNat < 1114112) := c.valid
  split
  · rename_i hsmall
    refine ⟨⟨_, _, rfl, by decide⟩, fun s => ?_⟩
    rw [readAsciiChar_unicodeEscape hsmall, if_neg (by omega), Char.ofNat_toNat]
  · rename_i hlarge
    refine ⟨⟨_, _, rfl, by decide⟩, fun s => ?_⟩
    have hvalue : 65536 + (55296 + (c.toNat - 65536) / 1024 - 55296) * 1024 +
        (56320 + (c.toNat - 65536) % 1024 - 56320) = c.toNat := by omega
    rw [List.append_assoc, readAsciiChar_unicodeEscape (by omega), if_pos (by omega),
      readLowSurrogate_unicodeEscape _ (by omega), hvalue, Char.ofNat_toNat]

theorem prefixFree_escapeChar : PrefixFree escapeChar :=
  prefixFree_of_reader readAsciiChar fun c => (escapeChar_spec c).2

theorem prefixFree_quote : PrefixFree fun s : String => (quote s).toList := by
  intro s t l m heq
  have hchars := prefixFree_escapeChar.terminated fun c => (escapeChar_spec c).1
  simp only [quote, String.toList_ofList, List.cons_append, List.cons.injEq, true_and] at heq
  obtain ⟨hsame, hrest⟩ := hchars s.toList t.toList l m heq
  exact ⟨String.toList_inj.mp hsame, hrest⟩

/-! ## Numbers -/

def isNumberChar (c : Char) : Bool := c.isDigit || c == '-' || c == '+' || c == '.' || c == 'e'

/-- What is assumed of `repr` of a finite `float`: different numbers are written differently, in
the characters of a number, and not as an `int` is. -/
structure Stdlib.WritesFloats (py : Stdlib) : Prop where
  injective : Function.Injective py.reprFloat
  chars : ∀ x, ∀ c ∈ (py.reprFloat x).toList, isNumberChar c = true
  ne_empty : ∀ x, py.reprFloat x ≠ ""
  ne_int : ∀ (x : ℚ) (n : ℤ), py.reprFloat x ≠ toString n

theorem isNumberChar_toString {n : ℤ} {c : Char} (h : c ∈ (toString n).toList) :
    isNumberChar c = true := by
  have hdigit : ∀ c ∈ Nat.toDigits 10 n.natAbs, isNumberChar c = true := by
    intro c hc
    have hisDigit : c.isDigit = true := Nat.isDigit_of_mem_toDigits (by omega) (by omega) hc
    simp [isNumberChar, hisDigit]
  rw [Decimal.toList_toString] at h
  split_ifs at h
  · rw [List.mem_cons] at h
    rcases h with rfl | h
    · decide
    · exact hdigit c h
  · exact hdigit c h

open Reference in
theorem toString_int_injective {m n : ℤ} (h : toString m = toString n) : m = n := by
  have hstop : NoDigitFirst [] := fun _ _ h => by cases h
  have hm := readInt_toString m hstop
  rw [h, readInt_toString n hstop, Option.some.injEq, Prod.mk.injEq] at hm
  exact hm.1.symm

theorem toString_int_ne_empty (n : ℤ) : toString n ≠ "" := by
  intro h
  have hread := @Reference.readInt_toString n [] (fun _ _ h => by cases h)
  rw [h] at hread
  cases hread

/-! ## Values -/

/-- Items one after the other, up to the closing bracket. -/
def joinedText (close : Char) : Bool → List (List Char) → List Char
  | _, [] => [close]
  | first, text :: texts =>
      (if first then [] else [',', ' ']) ++ text ++ joinedText close false texts

mutual

/-- The text of a value whose keys are in order. -/
def writtenText (py : Stdlib) : JSONValue → List Char
  | .null => "null".toList
  | .bool true => "true".toList
  | .bool false => "false".toList
  | .int n => (toString n).toList
  | .float x => (py.reprFloat x).toList
  | .str s => (quote s).toList
  | .list items => '[' :: joinedText ']' true (writtenItems py items)
  | .dict items => '\x7b' :: joinedText '\x7d' true (writtenPairs py items)

def writtenItems (py : Stdlib) : List JSONValue → List (List Char)
  | [] => []
  | v :: vs => writtenText py v :: writtenItems py vs

def writtenPairs (py : Stdlib) : JSONObject → List (List Char)
  | [] => []
  | (k, v) :: rest =>
      ((quote k).toList ++ [':', ' '] ++ writtenText py v) :: writtenPairs py rest

end

theorem writtenItems_eq_map (py : Stdlib) (items : List JSONValue) :
    writtenItems py items = items.map (writtenText py) := by
  induction items with
  | nil => rfl
  | cons v vs ih => rw [writtenItems, ih, List.map_cons]

theorem writtenPairs_eq_map (py : Stdlib) (items : JSONObject) :
    writtenPairs py items =
      items.map fun p => (quote p.1).toList ++ [':', ' '] ++ writtenText py p.2 := by
  induction items with
  | nil => rfl
  | cons p rest ih => rw [writtenPairs, ih, List.map_cons]

theorem toList_intercalate_comma (texts : List String) (close : Char) :
    (", ".intercalate texts).toList ++ [close] =
      joinedText close true (texts.map String.toList) := by
  have htail : ∀ rest : List String,
      (rest.flatMap fun text => ", ".toList ++ text.toList) ++ [close] =
        joinedText close false (rest.map String.toList) := by
    intro rest
    induction rest with
    | nil => rfl
    | cons text rest ih =>
        rw [List.flatMap_cons, List.append_assoc, ih]
        rfl
  cases texts with
  | nil => rfl
  | cons text rest =>
      rw [Reference.toList_intercalate_cons, List.append_assoc, htail]
      rfl

section Dumps

variable (py : Stdlib)

theorem dumpsItems_eq_map (items : List JSONValue) : dumpsItems py items = items.map (dumps py) := by
  induction items with
  | nil => rfl
  | cons v vs ih => rw [dumpsItems, ih, List.map_cons]

theorem dumpsPairs_eq_map (items : JSONObject) :
    dumpsPairs py items = items.map fun p => (p.1, dumps py p.2) := by
  induction items with
  | nil => rfl
  | cons p rest ih => rw [dumpsPairs, ih, List.map_cons]

/-- INTERNAL: the rendered pairs are sorted as the items are. -/
theorem sortPairs_map (items : JSONObject) :
    sortPairs (items.map fun p => (p.1, dumps py p.2)) =
      (sortKeys items).map fun p => (p.1, dumps py p.2) := by
  unfold sortPairs
  rw [sortKeys_eq_insertionSort]
  exact (List.map_insertionSort keyLE (fun a b : String × String => a.1 ≤ b.1) _ items
    fun _ _ _ _ => Iff.rfl).symm

mutual

/-- `json.dumps(v, sort_keys=True)` writes the value with its keys in order: over a tree, one case
per constructor. -/
theorem toList_dumps : ∀ v : JSONValue, (dumps py v).toList = writtenText py v.sorted
  | .null => rfl
  | .bool true => rfl
  | .bool false => rfl
  | .int _ => rfl
  | .float _ => rfl
  | .str _ => rfl
  | .list items => by
      have hitems := toList_dumps_of_mem items
      rw [dumps, JSONValue.sorted, writtenText, writtenItems_eq_map, JSONValue.sortedItems_eq_map,
        List.map_map, String.toList_append, String.toList_append, List.append_assoc]
      have hclose : "]".toList = [']'] := by decide
      have htexts : items.map (String.toList ∘ dumps py) =
          items.map (writtenText py ∘ JSONValue.sorted) := List.map_congr_left hitems
      rw [hclose, toList_intercalate_comma, dumpsItems_eq_map, List.map_map, htexts]
      rfl
  | .dict items => by
      have hitems := toList_dumps_of_mem_pairs items
      have hclose : "\x7d".toList = ['\x7d'] := by decide
      have htexts : (sortKeys items).map (fun p => ((quote p.1) ++ ": " ++ dumps py p.2).toList) =
          (sortKeys items).map fun p =>
            (quote p.1).toList ++ [':', ' '] ++ writtenText py p.2.sorted := by
        refine List.map_congr_left fun p hp => ?_
        rw [String.toList_append, String.toList_append,
          hitems p ((perm_sortKeys items).subset hp)]
        rfl
      rw [dumps, JSONValue.sorted, writtenText, writtenPairs_eq_map,
        ← JSONValue.sortedPairs_sortKeys, JSONValue.sortedPairs_eq_map, List.map_map,
        dumpsPairs_eq_map, sortPairs_map, List.map_map, String.toList_append,
        String.toList_append, List.append_assoc, hclose, toList_intercalate_comma, List.map_map]
      show '\x7b' :: joinedText '\x7d' true ((sortKeys items).map fun p =>
        ((quote p.1) ++ ": " ++ dumps py p.2).toList) = _
      rw [htexts]
      rfl

theorem toList_dumps_of_mem : ∀ items : List JSONValue, ∀ v ∈ items,
    (dumps py v).toList = writtenText py v.sorted
  | [], v, hv => absurd hv List.not_mem_nil
  | w :: rest, v, hv => by
      rw [List.mem_cons] at hv
      rcases hv with rfl | hv
      · exact toList_dumps v
      · exact toList_dumps_of_mem rest v hv

theorem toList_dumps_of_mem_pairs : ∀ items : JSONObject, ∀ p ∈ items,
    (dumps py p.2).toList = writtenText py p.2.sorted
  | [], p, hp => absurd hp List.not_mem_nil
  | (k, w) :: rest, p, hp => by
      rw [List.mem_cons] at hp
      rcases hp with rfl | hp
      · exact toList_dumps w
      · exact toList_dumps_of_mem_pairs rest p hp

end

end Dumps

/-! ## Equal texts -/

section Equal

variable {py : Stdlib} (hfloats : py.WritesFloats)

/-- What the first character of a text says about the value. -/
def leadOf (c : Char) : Char := if isNumberChar c = true then '0' else c

def lead : JSONValue → Char
  | .null => 'n'
  | .bool true => 't'
  | .bool false => 'f'
  | .int _ => '0'
  | .float _ => '0'
  | .str _ => '"'
  | .list _ => '['
  | .dict _ => '\x7b'

theorem exists_cons_of_isNumberChar {s : String} (hne : s ≠ "")
    (hchars : ∀ c ∈ s.toList, isNumberChar c = true) : ∃ c l, s.toList = c :: l ∧ leadOf c = '0' := by
  cases hl : s.toList with
  | nil => exact absurd (String.toList_inj.mp hl) hne
  | cons c l =>
      have hc : isNumberChar c = true := hchars c (by rw [hl]; exact List.mem_cons_self)
      exact ⟨c, l, rfl, if_pos hc⟩

include hfloats in
theorem exists_cons_writtenText (v : JSONValue) :
    ∃ c l, writtenText py v = c :: l ∧ leadOf c = lead v := by
  cases v with
  | null => exact ⟨_, _, rfl, by decide⟩
  | bool b => cases b <;> exact ⟨_, _, rfl, by decide⟩
  | int n =>
      exact exists_cons_of_isNumberChar (toString_int_ne_empty n) fun c => isNumberChar_toString
  | float x => exact exists_cons_of_isNumberChar (hfloats.ne_empty x) (hfloats.chars x)
  | str s =>
      refine ⟨'"', s.toList.flatMap escapeChar ++ ['"'], ?_, rfl⟩
      rw [writtenText, quote, String.toList_ofList]
  | list items => exact ⟨_, _, rfl, rfl⟩
  | dict items => exact ⟨_, _, rfl, rfl⟩

/-- INTERNAL: two numbers, of the same type or not, before something that is not a number. -/
theorem number_inj {a b : String} {s t : List Char} (ha : ∀ c ∈ a.toList, isNumberChar c = true)
    (hb : ∀ c ∈ b.toList, isNumberChar c = true) (hs : Stops isNumberChar s)
    (ht : Stops isNumberChar t) (h : a.toList ++ s = b.toList ++ t) : a = b ∧ s = t := by
  obtain ⟨hsame, hrest⟩ := append_inj_of_stops ha hb hs ht h
  exact ⟨String.toList_inj.mp hsame, hrest⟩

theorem stops_joinedText {close : Char} (h : isNumberChar close = false)
    (texts : List (List Char)) (s : List Char) :
    Stops isNumberChar (joinedText close false texts ++ s) := by
  cases texts with
  | nil => exact stops_cons h _
  | cons text texts => exact stops_cons (by decide) _

/-- INTERNAL: an empty list of texts is not a list of texts that begin otherwise. -/
theorem joinedText_nil_ne_cons {close c : Char} {l s t : List Char} (first : Bool)
    (hcomma : close ≠ ',') (hc : c ≠ close) (texts : List (List Char)) :
    joinedText close first [] ++ s ≠ joinedText close first ((c :: l) :: texts) ++ t := by
  intro heq
  cases first with
  | true =>
      simp only [joinedText, if_true, List.nil_append, List.cons_append, List.cons.injEq] at heq
      exact hc heq.1.symm
  | false =>
      simp only [joinedText, Bool.false_eq_true, if_false, List.cons_append,
        List.cons.injEq] at heq
      exact hcomma heq.1

theorem joinedText_cons_inj {close : Char} {first : Bool} {text text' : List Char}
    {texts texts' : List (List Char)} {s t : List Char}
    (h : joinedText close first (text :: texts) ++ s =
      joinedText close first (text' :: texts') ++ t) :
    text ++ (joinedText close false texts ++ s) = text' ++ (joinedText close false texts' ++ t) := by
  simp only [joinedText, List.append_assoc] at h
  exact List.append_cancel_left h

include hfloats in
theorem lead_eq {v w : JSONValue} {s t : List Char}
    (h : writtenText py v ++ s = writtenText py w ++ t) : lead v = lead w := by
  obtain ⟨c, l, hv, hc⟩ := exists_cons_writtenText hfloats v
  obtain ⟨d, m, hw, hd⟩ := exists_cons_writtenText hfloats w
  rw [hv, hw, List.cons_append, List.cons_append, List.cons.injEq] at h
  rw [← hc, ← hd, h.1]

include hfloats in
theorem head_writtenText_ne_bracket (v : JSONValue) :
    ∃ c l, writtenText py v = c :: l ∧ c ≠ ']' := by
  obtain ⟨c, l, hv, hc⟩ := exists_cons_writtenText hfloats v
  refine ⟨c, l, hv, ?_⟩
  rintro rfl
  cases v with
  | bool b => cases b <;> exact absurd hc (by decide)
  | null => exact absurd hc (by decide)
  | int n => exact absurd (hc.trans rfl : leadOf ']' = '0') (by decide)
  | float x => exact absurd (hc.trans rfl : leadOf ']' = '0') (by decide)
  | str s => exact absurd (hc.trans rfl : leadOf ']' = '"') (by decide)
  | list items => exact absurd (hc.trans rfl : leadOf ']' = '[') (by decide)
  | dict items => exact absurd (hc.trans rfl : leadOf ']' = '\x7b') (by decide)

mutual

/-- The text of a value decides the value, whatever follows: over a tree, one case per
constructor. -/
theorem writtenText_inj (hfloats : py.WritesFloats) : ∀ (v w : JSONValue) (s t : List Char),
    Stops isNumberChar s → Stops isNumberChar t →
      writtenText py v ++ s = writtenText py w ++ t → v = w ∧ s = t
  | .null, w, s, t, _, _, heq => by
      have hlead := lead_eq hfloats heq
      cases w with
      | null => exact ⟨rfl, List.append_cancel_left heq⟩
      | bool b => cases b <;> exact absurd hlead (by decide)
      | int n => exact absurd hlead (by simp [lead])
      | float x => exact absurd hlead (by simp [lead])
      | str s => exact absurd hlead (by simp [lead])
      | list items => exact absurd hlead (by simp [lead])
      | dict items => exact absurd hlead (by simp [lead])
  | .bool b, w, s, t, _, _, heq => by
      have hlead := lead_eq hfloats heq
      cases w with
      | bool b' =>
          have hb : b = b' := by
            revert hlead
            cases b <;> cases b' <;> decide
          subst hb
          exact ⟨rfl, List.append_cancel_left heq⟩
      | _ => cases b <;> exact absurd hlead (by simp [lead])
  | .int m, w, s, t, hs, ht, heq => by
      have hlead := lead_eq hfloats heq
      cases w with
      | int n =>
          obtain ⟨hsame, hrest⟩ := number_inj (fun c => isNumberChar_toString)
            (fun c => isNumberChar_toString) hs ht heq
          exact ⟨congrArg JSONValue.int (toString_int_injective hsame), hrest⟩
      | float y =>
          obtain ⟨hsame, _⟩ := number_inj (fun c => isNumberChar_toString) (hfloats.chars y) hs ht
            heq
          exact absurd hsame.symm (hfloats.ne_int y m)
      | bool b => cases b <;> exact absurd hlead (by simp [lead])
      | _ => exact absurd hlead (by simp [lead])
  | .float x, w, s, t, hs, ht, heq => by
      have hlead := lead_eq hfloats heq
      cases w with
      | float y =>
          obtain ⟨hsame, hrest⟩ := number_inj (hfloats.chars x) (hfloats.chars y) hs ht heq
          exact ⟨congrArg JSONValue.float (hfloats.injective hsame), hrest⟩
      | int n =>
          obtain ⟨hsame, _⟩ := number_inj (hfloats.chars x) (fun c => isNumberChar_toString) hs ht
            heq
          exact absurd hsame (hfloats.ne_int x n)
      | bool b => cases b <;> exact absurd hlead (by simp [lead])
      | _ => exact absurd hlead (by simp [lead])
  | .str a, w, s, t, _, _, heq => by
      have hlead := lead_eq hfloats heq
      cases w with
      | str b =>
          obtain ⟨rfl, hrest⟩ := prefixFree_quote a b s t heq
          exact ⟨rfl, hrest⟩
      | bool b => cases b <;> exact absurd hlead (by simp [lead])
      | _ => exact absurd hlead (by simp [lead])
  | .list items, w, s, t, _, _, heq => by
      have hlead := lead_eq hfloats heq
      cases w with
      | list items' =>
          rw [writtenText, writtenText, List.cons_append, List.cons_append, List.cons.injEq] at heq
          obtain ⟨rfl, hrest⟩ := writtenItems_inj hfloats items items' true s t heq.2
          exact ⟨rfl, hrest⟩
      | bool b => cases b <;> exact absurd hlead (by simp [lead])
      | _ => exact absurd hlead (by simp [lead])
  | .dict items, w, s, t, _, _, heq => by
      have hlead := lead_eq hfloats heq
      cases w with
      | dict items' =>
          rw [writtenText, writtenText, List.cons_append, List.cons_append, List.cons.injEq] at heq
          obtain ⟨rfl, hrest⟩ := writtenPairs_inj hfloats items items' true s t heq.2
          exact ⟨rfl, hrest⟩
      | bool b => cases b <;> exact absurd hlead (by simp [lead])
      | _ => exact absurd hlead (by simp [lead])

theorem writtenItems_inj (hfloats : py.WritesFloats) :
    ∀ (items items' : List JSONValue) (first : Bool) (s t : List Char),
      joinedText ']' first (writtenItems py items) ++ s =
        joinedText ']' first (writtenItems py items') ++ t → items = items' ∧ s = t
  | [], [], first, s, t, heq => ⟨rfl, List.append_cancel_left heq⟩
  | [], w :: ws, first, s, t, heq => by
      obtain ⟨c, l, hw, hc⟩ := head_writtenText_ne_bracket hfloats w
      rw [writtenItems, writtenItems, hw] at heq
      exact absurd heq (joinedText_nil_ne_cons first (by decide) hc _)
  | v :: vs, [], first, s, t, heq => by
      obtain ⟨c, l, hv, hc⟩ := head_writtenText_ne_bracket hfloats v
      rw [writtenItems, writtenItems, hv] at heq
      exact absurd heq.symm (joinedText_nil_ne_cons first (by decide) hc _)
  | v :: vs, w :: ws, first, s, t, heq => by
      have hclose : isNumberChar ']' = false := by decide
      obtain ⟨rfl, hrest⟩ := writtenText_inj hfloats v w _ _ (stops_joinedText hclose _ s)
        (stops_joinedText hclose _ t) (joinedText_cons_inj heq)
      obtain ⟨rfl, hst⟩ := writtenItems_inj hfloats vs ws false s t hrest
      exact ⟨rfl, hst⟩

theorem writtenPairs_inj (hfloats : py.WritesFloats) :
    ∀ (items items' : JSONObject) (first : Bool) (s t : List Char),
      joinedText '\x7d' first (writtenPairs py items) ++ s =
        joinedText '\x7d' first (writtenPairs py items') ++ t → items = items' ∧ s = t
  | [], [], first, s, t, heq => ⟨rfl, List.append_cancel_left heq⟩
  | [], (k, w) :: ws, first, s, t, heq => by
      rw [writtenPairs, writtenPairs, quote, String.toList_ofList] at heq
      exact absurd heq (joinedText_nil_ne_cons first (by decide) (by decide) _)
  | (k, v) :: vs, [], first, s, t, heq => by
      rw [writtenPairs, writtenPairs, quote, String.toList_ofList] at heq
      exact absurd heq.symm (joinedText_nil_ne_cons first (by decide) (by decide) _)
  | (k, v) :: vs, (k', w) :: ws, first, s, t, heq => by
      have hclose : isNumberChar '\x7d' = false := by decide
      have hpair := joinedText_cons_inj heq
      simp only [List.append_assoc] at hpair
      obtain ⟨rfl, hvalue⟩ := prefixFree_quote k k' _ _ hpair
      have htail := List.append_cancel_left hvalue
      obtain ⟨rfl, hrest⟩ := writtenText_inj hfloats v w _ _ (stops_joinedText hclose _ s)
        (stops_joinedText hclose _ t) htail
      obtain ⟨rfl, hst⟩ := writtenPairs_inj hfloats vs ws false s t hrest
      exact ⟨rfl, hst⟩

end

end Equal

end MediaCenter.Shared
