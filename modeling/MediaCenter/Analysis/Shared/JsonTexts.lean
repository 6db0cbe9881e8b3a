import MediaCenter.Analysis.Shared.SortedJson
import MediaCenter.Library.Decimal
import MediaCenter.Model.Shared.Reference

/-!
# Reading the texts of `json.dumps`

`JsonCodec` leaves the `json` module open.  Here it is computed for values without fractional
numbers: a value is written as `dumps` writes it, and its text is read back by descent.
-/

set_option autoImplicit false

namespace MediaCenter.Shared

open MediaCenter.Library

namespace Reference

mutual

def floatFree : JSONValue → Bool
  | .null => true
  | .bool _ => true
  | .int _ => true
  | .float _ => false
  | .str _ => true
  | .list items => floatFreeItems items
  | .dict items => floatFreePairs items

def floatFreeItems : List JSONValue → Bool
  | [] => true
  | v :: vs => floatFree v && floatFreeItems vs

def floatFreePairs : JSONObject → Bool
  | [] => true
  | (_, v) :: rest => floatFree v && floatFreePairs rest

end

mutual

def hasDistinctKeys : JSONValue → Bool
  | .null => true
  | .bool _ => true
  | .int _ => true
  | .float _ => true
  | .str _ => true
  | .list items => haveDistinctKeys items
  | .dict items => decide ((items.map Prod.fst).Nodup) && pairsHaveDistinctKeys items

def haveDistinctKeys : List JSONValue → Bool
  | [] => true
  | v :: vs => hasDistinctKeys v && haveDistinctKeys vs

def pairsHaveDistinctKeys : JSONObject → Bool
  | [] => true
  | (_, v) :: rest => hasDistinctKeys v && pairsHaveDistinctKeys rest

end

/-! ## Characters and numbers -/

def hexValue (c : Char) : ℕ := if c.isDigit = true then c.toNat - 48 else c.toNat - 87

/-- What stands behind a backslash. -/
def readEscape : List Char → Option (Char × List Char)
  | 'u' :: a :: b :: c :: d :: l =>
      some (Char.ofNat (((hexValue a * 16 + hexValue b) * 16 + hexValue c) * 16 + hexValue d), l)
  | 'n' :: l => some ('\n', l)
  | 'r' :: l => some ('\r', l)
  | 't' :: l => some ('\t', l)
  | 'f' :: l => some (Char.ofNat 12, l)
  | 'b' :: l => some (Char.ofNat 8, l)
  | '"' :: l => some ('"', l)
  | '\\' :: l => some ('\\', l)
  | _ => none

def readChar : List Char → Option (Char × List Char)
  | [] => none
  | c :: l => if c = '\\' then readEscape l else some (c, l)

/-- The characters of a string literal, up to the closing quotation mark. -/
def readChars : ℕ → List Char → Option (List Char × List Char)
  | 0, _ => none
  | _ + 1, [] => none
  | fuel + 1, c :: l =>
      if c = '"' then some ([], l)
      else do
        let (d, l) ← readChar (c :: l)
        let (ds, l) ← readChars fuel l
        return (d :: ds, l)

def readString (l : List Char) : Option (String × List Char) :=
  (readChars l.length l).map fun p => (String.ofList p.1, p.2)

def readNat (l : List Char) : Option (ℕ × List Char) :=
  if l.takeWhile Char.isDigit = [] then none
  else some (Nat.ofDigitChars 10 (l.takeWhile Char.isDigit) 0, l.dropWhile Char.isDigit)

def readInt : List Char → Option (ℤ × List Char)
  | [] => none
  | c :: l =>
      if c = '-' then (readNat l).map fun p => (-(p.1 : ℤ), p.2)
      else (readNat (c :: l)).map fun p => ((p.1 : ℤ), p.2)

def readWord (word l : List Char) : Option (List Char) :=
  if word.isPrefixOf l = true then some (l.drop word.length) else none

/-- The comma before an item that is not the first. -/
def readSeparator (first : Bool) (l : List Char) : Option (List Char) :=
  if first = true then some l else readWord ", ".toList l

/-! ## Values -/

mutual

def readValue : ℕ → List Char → Option (JSONValue × List Char)
  | 0, _ => none
  | _ + 1, [] => none
  | fuel + 1, c :: l =>
      if c = 'n' then (readWord "ull".toList l).map fun l => (.null, l)
      else if c = 't' then (readWord "rue".toList l).map fun l => (.bool true, l)
      else if c = 'f' then (readWord "alse".toList l).map fun l => (.bool false, l)
      else if c = '"' then (readString l).map fun p => (.str p.1, p.2)
      else if c = '[' then (readItems fuel true l).map fun p => (.list p.1, p.2)
      else if c = '\x7b' then (readPairs fuel true l).map fun p => (.dict p.1, p.2)
      else (readInt (c :: l)).map fun p => (.int p.1, p.2)

/-- The items of a list, up to its closing bracket. -/
def readItems : ℕ → Bool → List Char → Option (List JSONValue × List Char)
  | 0, _, _ => none
  | _ + 1, _, ']' :: l => some ([], l)
  | fuel + 1, first, l => do
      let l ← readSeparator first l
      let (v, l) ← readValue fuel l
      let (vs, l) ← readItems fuel false l
      return (v :: vs, l)

def readPairs : ℕ → Bool → List Char → Option (JSONObject × List Char)
  | 0, _, _ => none
  | _ + 1, _, '\x7d' :: l => some ([], l)
  | fuel + 1, first, l => do
      let l ← readSeparator first l
      let l ← readWord ['"'] l
      let (k, l) ← readString l
      let l ← readWord ": ".toList l
      let (v, l) ← readValue fuel l
      let (rest, l) ← readPairs fuel false l
      return ((k, v) :: rest, l)

end

def dumpsJson (v : JSONValue) : Except SharedException String :=
  if floatFree v = true then .ok (dumpsUnicode stdlib v)
  else .error (.valueError "fractional numbers are not written")

def loadsJson (text : String) : Except SharedException JSONValue :=
  match readValue (2 * text.toList.length) text.toList with
  | some (v, []) =>
      if hasDistinctKeys v = true then .ok v else .error (.valueError "a key occurs twice")
  | _ => .error (.valueError "Expecting value")

/-- The computed `json` module. -/
def codec : JsonCodec where
  dumps := dumpsJson
  dumpsSorted v := dumpsJson v.sorted
  loads := loadsJson

/-! ## Reading characters back -/

theorem hexValue_hexDigitOf (n : ℕ) : hexValue (hexDigitOf n) = n % 16 := by
  have hall : ∀ k < 16, hexValue ("0123456789abcdef".toList.getD k '0') = k := by decide
  exact hall (n % 16) (Nat.mod_lt n (by decide))

/-- INTERNAL: a written character does not begin with a quotation mark, and is read back. -/
theorem readChar_escapeControlChar (c : Char) (rest : List Char) : ∃ d l,
    escapeControlChar c ++ rest = d :: l ∧ d ≠ '"' ∧ readChar (d :: l) = some (c, rest) := by
  have hread : ∀ l, readChar ('\\' :: l) = readEscape l := by
    intro l
    rw [readChar, if_pos rfl]
  by_cases hescaped : c.toNat < 32 ∨ c = '"' ∨ c = '\\'
  · unfold escapeControlChar
    rw [if_pos hescaped]
    unfold escapeChar
    split
    · rename_i hc
      exact ⟨_, _, rfl, by decide, by rw [hread, hc]; rfl⟩
    split
    · rename_i hc
      exact ⟨_, _, rfl, by decide, by rw [hread, hc]; rfl⟩
    split
    · rename_i hc
      exact ⟨_, _, rfl, by decide, by rw [hread, hc]; rfl⟩
    split
    · rename_i hc
      exact ⟨_, _, rfl, by decide, by rw [hread, hc]; rfl⟩
    split
    · rename_i hc
      exact ⟨_, _, rfl, by decide, by rw [hread, hc]; rfl⟩
    split
    · rename_i hc
      refine ⟨_, _, rfl, by decide, ?_⟩
      rw [hread, ← Char.ofNat_toNat c, hc]
      rfl
    split
    · rename_i hc
      refine ⟨_, _, rfl, by decide, ?_⟩
      rw [hread, ← Char.ofNat_toNat c, hc]
      rfl
    have hsmall : c.toNat < 32 := by
      rcases hescaped with h | h | h
      · exact h
      · contradiction
      · contradiction
    rw [if_neg (by omega), if_pos (by omega)]
    refine ⟨_, _, rfl, by decide, ?_⟩
    rw [hread]
    show some (Char.ofNat _, rest) = _
    have hvalue : ((hexValue (hexDigitOf (c.toNat / 4096)) * 16 +
        hexValue (hexDigitOf (c.toNat / 256))) * 16 + hexValue (hexDigitOf (c.toNat / 16))) * 16 +
        hexValue (hexDigitOf c.toNat) = c.toNat := by
      rw [hexValue_hexDigitOf, hexValue_hexDigitOf, hexValue_hexDigitOf, hexValue_hexDigitOf]
      omega
    rw [hvalue, Char.ofNat_toNat]
  · have hplain := hescaped
    rw [not_or, not_or] at hplain
    unfold escapeControlChar
    rw [if_neg hescaped]
    refine ⟨c, rest, rfl, hplain.2.1, ?_⟩
    rw [readChar, if_neg hplain.2.2]

theorem readChars_escaped (cs : List Char) (rest : List Char) : ∀ fuel, cs.length < fuel →
    readChars fuel (cs.flatMap escapeControlChar ++ '"' :: rest) = some (cs, rest) := by
  induction cs with
  | nil =>
      intro fuel hfuel
      cases fuel with
      | zero => cases hfuel
      | succ fuel =>
          show readChars (fuel + 1) ('"' :: rest) = _
          rw [readChars, if_pos rfl]
  | cons c cs ih =>
      intro fuel hfuel
      cases fuel with
      | zero => cases hfuel
      | succ fuel =>
          rw [List.flatMap_cons, List.append_assoc]
          obtain ⟨d, l, heq, hd, hread⟩ :=
            readChar_escapeControlChar c (cs.flatMap escapeControlChar ++ '"' :: rest)
          rw [heq, readChars, if_neg hd, hread]
          show (readChars fuel _ >>= _) = _
          rw [ih fuel (Nat.lt_of_succ_lt_succ hfuel)]
          rfl

theorem length_le_escaped (cs : List Char) :
    cs.length ≤ (cs.flatMap escapeControlChar).length := by
  induction cs with
  | nil => exact le_refl _
  | cons c cs ih =>
      obtain ⟨d, l, heq, _⟩ := readChar_escapeControlChar c []
      rw [List.append_nil] at heq
      rw [List.flatMap_cons, List.length_append, List.length_cons, heq, List.length_cons]
      omega

theorem toList_quoteUnicode (s : String) :
    (quoteUnicode s).toList = '"' :: (s.toList.flatMap escapeControlChar ++ ['"']) := by
  unfold quoteUnicode
  rw [String.toList_ofList]

theorem readString_quoteUnicode (s : String) (rest : List Char) :
    readString (s.toList.flatMap escapeControlChar ++ '"' :: rest) = some (s, rest) := by
  have hlength := length_le_escaped s.toList
  unfold readString
  rw [readChars_escaped s.toList rest]
  · rw [Option.map_some, String.ofList_toList]
  · rw [List.length_append, List.length_cons]
    omega

/-- What may follow a number. -/
def NoDigitFirst (l : List Char) : Prop := ∀ c m, l = c :: m → c.isDigit = false

theorem readNat_toDigits (n : ℕ) {rest : List Char} (h : NoDigitFirst rest) :
    readNat (Nat.toDigits 10 n ++ rest) = some (n, rest) := by
  have hdigits : ∀ c ∈ Nat.toDigits 10 n, c.isDigit = true := fun c hc =>
    Nat.isDigit_of_mem_toDigits (by omega) (by omega) hc
  have hstop : rest.takeWhile Char.isDigit = [] ∧ rest.dropWhile Char.isDigit = rest := by
    cases rest with
    | nil => exact ⟨rfl, rfl⟩
    | cons c m =>
        have hc := h c m rfl
        exact ⟨List.takeWhile_cons_of_neg (by simp [hc]), List.dropWhile_cons_of_neg (by simp [hc])⟩
  unfold readNat
  rw [List.takeWhile_append_of_pos hdigits, List.dropWhile_append_of_pos hdigits, hstop.1,
    hstop.2, List.append_nil, if_neg Nat.toDigits_ne_nil, Nat.ofDigitChars_ten_toDigits]

theorem readInt_toString (n : ℤ) {rest : List Char} (h : NoDigitFirst rest) :
    readInt ((toString n).toList ++ rest) = some (n, rest) := by
  rw [Decimal.toList_toString]
  by_cases hn : n < 0
  · rw [if_pos hn, List.cons_append, readInt, if_pos rfl, readNat_toDigits n.natAbs h,
      Option.map_some]
    have hvalue : -(n.natAbs : ℤ) = n := by omega
    rw [hvalue]
  · rw [if_neg hn]
    have hread := readNat_toDigits n.natAbs h
    cases hl : Nat.toDigits 10 n.natAbs with
    | nil => exact absurd hl Nat.toDigits_ne_nil
    | cons c l =>
        have hc : c.isDigit = true := Nat.isDigit_of_mem_toDigits (b := 10) (n := n.natAbs)
          (by omega) (by omega) (by rw [hl]; exact List.mem_cons_self)
        have hne : c ≠ '-' := by
          rintro rfl
          exact absurd hc (by decide)
        rw [hl] at hread
        rw [List.cons_append, readInt, if_neg hne, ← List.cons_append, hread, Option.map_some]
        have hvalue : (n.natAbs : ℤ) = n := by omega
        rw [hvalue]

theorem readWord_append (word rest : List Char) : readWord word (word ++ rest) = some rest := by
  unfold readWord
  rw [if_pos (List.isPrefixOf_iff_prefix.mpr (List.prefix_append word rest)), List.drop_left]

theorem readSeparator_comma (rest : List Char) :
    readSeparator false (", ".toList ++ rest) = some rest := by
  unfold readSeparator
  rw [if_neg (by decide), readWord_append]

/-! ## Reading values back -/

/-- The text of a value. -/
def textOf (v : JSONValue) : List Char := (dumpsUnicode stdlib v).toList

/-- The texts of further items, each behind a comma. -/
def tailOf (items : List JSONValue) : List Char :=
  items.flatMap fun v => ", ".toList ++ textOf v

/-- The text of an item of an object, behind its opening quotation mark. -/
def pairText (p : String × JSONValue) : List Char :=
  p.1.toList.flatMap escapeControlChar ++ '"' :: (": ".toList ++ textOf p.2)

def tailOfPairs (items : JSONObject) : List Char :=
  items.flatMap fun p => ", ".toList ++ '"' :: pairText p

theorem dumpsUnicodeItems_eq_map (items : List JSONValue) :
    dumpsUnicodeItems stdlib items = items.map (dumpsUnicode stdlib) := by
  induction items with
  | nil => rw [dumpsUnicodeItems, List.map_nil]
  | cons v items ih => rw [dumpsUnicodeItems, ih, List.map_cons]

theorem dumpsUnicodePairs_eq_map (items : JSONObject) :
    dumpsUnicodePairs stdlib items =
      items.map fun p => quoteUnicode p.1 ++ ": " ++ dumpsUnicode stdlib p.2 := by
  induction items with
  | nil => rw [dumpsUnicodePairs, List.map_nil]
  | cons p items ih =>
      obtain ⟨k, v⟩ := p
      rw [dumpsUnicodePairs, ih, List.map_cons]

/-- INTERNAL: a join is its first text, and each further text behind the separator. -/
theorem toList_intercalate_cons (sep s : String) (l : List String) :
    (sep.intercalate (s :: l)).toList =
      s.toList ++ l.flatMap fun t => sep.toList ++ t.toList := by
  induction l generalizing s with
  | nil => simp
  | cons t l ih =>
      rw [String.intercalate_cons_cons, String.toList_append, String.toList_append, ih,
        List.flatMap_cons, List.append_assoc, List.append_assoc]

theorem textOf_list_nil : textOf (.list []) = "[]".toList := by
  unfold textOf
  rw [dumpsUnicode, dumpsUnicodeItems]
  decide

theorem textOf_list_cons (v : JSONValue) (items : List JSONValue) :
    textOf (.list (v :: items)) = '[' :: (textOf v ++ (tailOf items ++ [']'])) := by
  have hopen : "[".toList = ['['] := by decide
  have hclose : "]".toList = [']'] := by decide
  unfold textOf tailOf
  rw [dumpsUnicode, dumpsUnicodeItems_eq_map, List.map_cons, String.toList_append,
    String.toList_append, toList_intercalate_cons, List.flatMap_map, hopen, hclose]
  simp only [List.cons_append, List.nil_append, List.append_assoc]
  rfl

theorem textOf_dict_nil : textOf (.dict []) = "\x7b\x7d".toList := by
  unfold textOf
  rw [dumpsUnicode, dumpsUnicodePairs]
  decide

theorem textOf_dict_cons (p : String × JSONValue) (items : JSONObject) :
    textOf (.dict (p :: items)) =
      '\x7b' :: '"' :: (pairText p ++ (tailOfPairs items ++ ['\x7d'])) := by
  have hopen : "\x7b".toList = ['\x7b'] := by decide
  have hclose : "\x7d".toList = ['\x7d'] := by decide
  have hpair : ∀ q : String × JSONValue,
      (quoteUnicode q.1 ++ ": " ++ dumpsUnicode stdlib q.2).toList = '"' :: pairText q := by
    intro q
    rw [String.toList_append, String.toList_append, toList_quoteUnicode]
    simp only [pairText, textOf, List.cons_append, List.nil_append, List.append_assoc]
  have htail : (items.map fun q => quoteUnicode q.1 ++ ": " ++ dumpsUnicode stdlib q.2).flatMap
      (fun t => ", ".toList ++ t.toList) = tailOfPairs items := by
    rw [List.flatMap_map]
    unfold tailOfPairs
    simp only [hpair]
  unfold textOf
  rw [dumpsUnicode, dumpsUnicodePairs_eq_map, List.map_cons, String.toList_append,
    String.toList_append, toList_intercalate_cons, htail, hpair, hopen, hclose]
  simp only [List.cons_append, List.nil_append, List.append_assoc]

mutual

/-- How often reading a value descends. -/
def sizeOfJson : JSONValue → ℕ
  | .null => 1
  | .bool _ => 1
  | .int _ => 1
  | .float _ => 1
  | .str _ => 1
  | .list items => 1 + sizeOfItems items
  | .dict items => 1 + sizeOfPairs items

def sizeOfItems : List JSONValue → ℕ
  | [] => 1
  | v :: vs => 1 + sizeOfJson v + sizeOfItems vs

def sizeOfPairs : JSONObject → ℕ
  | [] => 1
  | (_, v) :: rest => 1 + sizeOfJson v + sizeOfPairs rest

end

/-- INTERNAL: the first character of a text closes nothing. -/
theorem exists_cons_textOf {v : JSONValue} (h : floatFree v = true) : ∃ c l,
    textOf v = c :: l ∧ c ≠ ']' := by
  cases v with
  | null => exact ⟨'n', "ull".toList, by decide, by decide⟩
  | bool b =>
      cases b with
      | false => exact ⟨'f', "alse".toList, by decide, by decide⟩
      | true => exact ⟨'t', "rue".toList, by decide, by decide⟩
  | int n =>
      have htext : textOf (.int n) = (toString n).toList := rfl
      rw [htext, Decimal.toList_toString]
      split
      · exact ⟨'-', _, rfl, by decide⟩
      · cases hl : Nat.toDigits 10 n.natAbs with
        | nil => exact absurd hl Nat.toDigits_ne_nil
        | cons c l =>
            refine ⟨c, l, rfl, ?_⟩
            have hc : c.isDigit = true := Nat.isDigit_of_mem_toDigits (b := 10) (n := n.natAbs)
              (by omega) (by omega) (by rw [hl]; exact List.mem_cons_self)
            rintro rfl
            exact absurd hc (by decide)
  | float x => cases h
  | str s =>
      have htext : textOf (.str s) = (quoteUnicode s).toList := rfl
      rw [htext, toList_quoteUnicode]
      exact ⟨'"', _, rfl, by decide⟩
  | list items =>
      cases items with
      | nil =>
          rw [textOf_list_nil]
          exact ⟨'[', [']'], by decide, by decide⟩
      | cons v items =>
          rw [textOf_list_cons]
          exact ⟨'[', _, rfl, by decide⟩
  | dict items =>
      cases items with
      | nil =>
          rw [textOf_dict_nil]
          exact ⟨'\x7b', ['\x7d'], by decide, by decide⟩
      | cons p items =>
          rw [textOf_dict_cons]
          exact ⟨'\x7b', _, rfl, by decide⟩

theorem noDigitFirst_cons {c : Char} (h : c.isDigit = false) (l : List Char) :
    NoDigitFirst (c :: l) := by
  intro d m heq
  cases heq
  exact h

theorem noDigitFirst_tailOf (items : List JSONValue) (rest : List Char) :
    NoDigitFirst (tailOf items ++ ']' :: rest) := by
  cases items with
  | nil => exact noDigitFirst_cons (by decide) rest
  | cons v items =>
      have hcomma : ", ".toList = ',' :: [' '] := by decide
      unfold tailOf
      rw [List.flatMap_cons, hcomma]
      exact noDigitFirst_cons (by decide) _

theorem noDigitFirst_tailOfPairs (items : JSONObject) (rest : List Char) :
    NoDigitFirst (tailOfPairs items ++ '\x7d' :: rest) := by
  cases items with
  | nil => exact noDigitFirst_cons (by decide) rest
  | cons p items =>
      have hcomma : ", ".toList = ',' :: [' '] := by decide
      unfold tailOfPairs
      rw [List.flatMap_cons, hcomma]
      exact noDigitFirst_cons (by decide) _

/-- INTERNAL: a number begins with a digit or a sign, and so with none of the other marks. -/
theorem exists_cons_toString (n : ℤ) : ∃ c l, (toString n).toList = c :: l ∧
    ∀ d : Char, d ≠ '-' → d.isDigit = false → c ≠ d := by
  cases hl : (toString n).toList with
  | nil =>
      rw [Decimal.toList_toString] at hl
      split at hl
      · cases hl
      · exact absurd hl Nat.toDigits_ne_nil
  | cons c l =>
      have hc : c = '-' ∨ c.isDigit = true := by
        rw [Decimal.toList_toString] at hl
        split at hl
        · cases hl
          exact .inl rfl
        · right
          exact Nat.isDigit_of_mem_toDigits (b := 10) (n := n.natAbs) (by omega) (by omega)
            (by rw [hl]; exact List.mem_cons_self)
      refine ⟨c, l, rfl, ?_⟩
      rintro d hd hdigit rfl
      rcases hc with hc | hc
      · exact hd hc
      · rw [hdigit] at hc
        cases hc

theorem readValue_int (n : ℤ) (fuel : ℕ) {rest : List Char} (h : NoDigitFirst rest) :
    readValue (fuel + 1) ((toString n).toList ++ rest) = some (.int n, rest) := by
  have hread := readInt_toString n h
  obtain ⟨c, l, hl, hne⟩ := exists_cons_toString n
  rw [hl] at hread ⊢
  rw [List.cons_append] at hread ⊢
  rw [readValue, if_neg (hne 'n' (by decide) (by decide)),
    if_neg (hne 't' (by decide) (by decide)), if_neg (hne 'f' (by decide) (by decide)),
    if_neg (hne '"' (by decide) (by decide)), if_neg (hne '[' (by decide) (by decide)),
    if_neg (hne '\x7b' (by decide) (by decide)), hread, Option.map_some]

/-- INTERNAL: the items behind the opening bracket, the first one without a comma. -/
theorem readItems_cons {fuel : ℕ} {first : Bool} {l l' : List Char}
    (hopen : readSeparator first l = some l')
    (hclose : ∀ m, l ≠ ']' :: m) : readItems (fuel + 1) first l =
      (readValue fuel l').bind fun p =>
        (readItems fuel false p.2).map fun q => (p.1 :: q.1, q.2) := by
  rw [readItems]
  · rw [hopen]
    show (readValue fuel l' >>= fun p => readItems fuel false p.2 >>= fun q =>
      some (p.1 :: q.1, q.2)) = _
    cases readValue fuel l' with
    | none => rfl
    | some p =>
        show (readItems fuel false p.2 >>= _) = Option.map _ (readItems fuel false p.2)
        cases readItems fuel false p.2 with
        | none => rfl
        | some q => rfl
  · exact hclose

theorem readPairs_cons {fuel : ℕ} {first : Bool} {l l' : List Char}
    (hopen : readSeparator first l = some ('"' :: l'))
    (hclose : ∀ m, l ≠ '\x7d' :: m) : readPairs (fuel + 1) first l =
      (readString l').bind fun k => (readWord ": ".toList k.2).bind fun m =>
        (readValue fuel m).bind fun p =>
          (readPairs fuel false p.2).map fun q => ((k.1, p.1) :: q.1, q.2) := by
  rw [readPairs]
  · rw [hopen]
    show (readString l' >>= fun k => readWord ": ".toList k.2 >>= fun m => readValue fuel m >>=
      fun p => readPairs fuel false p.2 >>= fun q => some ((k.1, p.1) :: q.1, q.2)) = _
    cases readString l' with
    | none => rfl
    | some k =>
        show (readWord _ k.2 >>= _) = Option.bind (readWord _ k.2) _
        cases readWord ": ".toList k.2 with
        | none => rfl
        | some m =>
            show (readValue fuel m >>= _) = Option.bind (readValue fuel m) _
            cases readValue fuel m with
            | none => rfl
            | some p =>
                show (readPairs fuel false p.2 >>= _) = Option.map _ (readPairs fuel false p.2)
                cases readPairs fuel false p.2 with
                | none => rfl
                | some q => rfl
  · exact hclose

mutual

theorem readValue_textOf : ∀ {v : JSONValue}, floatFree v = true → ∀ {fuel : ℕ} {rest : List Char},
    sizeOfJson v ≤ fuel → NoDigitFirst rest → readValue fuel (textOf v ++ rest) = some (v, rest)
  | v, _, 0, _, hsize, _ => by
      cases v <;> simp [sizeOfJson] at hsize
  | .null, _, fuel + 1, rest, _, _ => by
      show readValue (fuel + 1) ('n' :: ("ull".toList ++ rest)) = _
      rw [readValue, if_pos rfl, readWord_append, Option.map_some]
  | .bool true, _, fuel + 1, rest, _, _ => by
      show readValue (fuel + 1) ('t' :: ("rue".toList ++ rest)) = _
      rw [readValue, if_neg (by decide), if_pos rfl, readWord_append, Option.map_some]
  | .bool false, _, fuel + 1, rest, _, _ => by
      show readValue (fuel + 1) ('f' :: ("alse".toList ++ rest)) = _
      rw [readValue, if_neg (by decide), if_neg (by decide), if_pos rfl, readWord_append,
        Option.map_some]
  | .int n, _, fuel + 1, rest, _, hrest => readValue_int n fuel hrest
  | .float _, h, _ + 1, _, _, _ => by cases h
  | .str s, _, fuel + 1, rest, _, _ => by
      have htext : textOf (.str s) = (quoteUnicode s).toList := rfl
      rw [htext, toList_quoteUnicode, List.cons_append, List.append_assoc, readValue,
        if_neg (by decide), if_neg (by decide), if_neg (by decide), if_pos rfl]
      show (readString (_ ++ '"' :: rest)).map _ = _
      rw [readString_quoteUnicode, Option.map_some]
  | .list [], _, fuel + 1, rest, hsize, _ => by
      rw [sizeOfJson, sizeOfItems] at hsize
      obtain ⟨fuel, rfl⟩ : ∃ k, fuel = k + 1 := ⟨fuel - 1, by omega⟩
      rw [textOf_list_nil]
      show readValue (fuel + 1 + 1) ('[' :: ']' :: rest) = _
      rw [readValue, if_neg (by decide), if_neg (by decide), if_neg (by decide),
        if_neg (by decide), if_pos rfl, readItems, Option.map_some]
  | .list (v :: items), h, fuel + 1, rest, hsize, _ => by
      rw [floatFree, floatFreeItems, Bool.and_eq_true] at h
      rw [sizeOfJson, sizeOfItems] at hsize
      obtain ⟨fuel, rfl⟩ : ∃ k, fuel = k + 1 := ⟨fuel - 1, by omega⟩
      have hclose : ∀ m, textOf v ++ (tailOf items ++ ']' :: rest) ≠ ']' :: m := by
        intro m heq
        obtain ⟨c, l, hc, hne⟩ := exists_cons_textOf h.1
        rw [hc] at heq
        exact hne (List.cons.inj heq).1
      rw [textOf_list_cons, List.cons_append, List.append_assoc, List.append_assoc, readValue,
        if_neg (by decide), if_neg (by decide), if_neg (by decide), if_neg (by decide),
        if_pos rfl]
      show (readItems (fuel + 1) true (textOf v ++ (tailOf items ++ ']' :: rest))).map _ = _
      rw [readItems_cons rfl hclose,
        readValue_textOf h.1 (by omega) (noDigitFirst_tailOf items rest)]
      show ((readItems fuel false (tailOf items ++ ']' :: rest)).map _).map _ = _
      rw [readItems_tailOf h.2 (by omega)]
      rfl
  | .dict [], _, fuel + 1, rest, hsize, _ => by
      rw [sizeOfJson, sizeOfPairs] at hsize
      obtain ⟨fuel, rfl⟩ : ∃ k, fuel = k + 1 := ⟨fuel - 1, by omega⟩
      rw [textOf_dict_nil]
      show readValue (fuel + 1 + 1) ('\x7b' :: '\x7d' :: rest) = _
      rw [readValue, if_neg (by decide), if_neg (by decide), if_neg (by decide),
        if_neg (by decide), if_neg (by decide), if_pos rfl, readPairs, Option.map_some]
  | .dict ((k, v) :: items), h, fuel + 1, rest, hsize, _ => by
      rw [floatFree, floatFreePairs, Bool.and_eq_true] at h
      rw [sizeOfJson, sizeOfPairs] at hsize
      obtain ⟨fuel, rfl⟩ : ∃ k, fuel = k + 1 := ⟨fuel - 1, by omega⟩
      rw [textOf_dict_cons, List.cons_append, List.cons_append, readValue,
        if_neg (by decide), if_neg (by decide), if_neg (by decide), if_neg (by decide),
        if_neg (by decide), if_pos rfl]
      have hclose : ∀ m, '"' :: (pairText (k, v) ++ (tailOfPairs items ++ ['\x7d']) ++ rest) ≠
          '\x7d' :: m := by
        intro m heq
        exact absurd (List.cons.inj heq).1 (by decide)
      rw [readPairs_cons rfl hclose]
      unfold pairText
      simp only [List.append_assoc, List.cons_append, List.nil_append]
      rw [readString_quoteUnicode, Option.bind_some, readWord_append, Option.bind_some,
        readValue_textOf h.1 (by omega) (noDigitFirst_tailOfPairs items rest), Option.bind_some,
        readPairs_tailOfPairs h.2 (by omega)]
      rfl

theorem readItems_tailOf : ∀ {items : List JSONValue}, floatFreeItems items = true →
    ∀ {fuel : ℕ} {rest : List Char}, sizeOfItems items ≤ fuel →
      readItems fuel false (tailOf items ++ ']' :: rest) = some (items, rest)
  | items, _, 0, _, hsize => by
      cases items <;> simp [sizeOfItems] at hsize
  | [], _, fuel + 1, rest, _ => by
      show readItems (fuel + 1) false (']' :: rest) = _
      rw [readItems]
  | v :: items, h, fuel + 1, rest, hsize => by
      rw [floatFreeItems, Bool.and_eq_true] at h
      rw [sizeOfItems] at hsize
      have hcomma : ", ".toList = ',' :: [' '] := by decide
      have hclose : ∀ m, ", ".toList ++ (textOf v ++ (tailOf items ++ ']' :: rest)) ≠ ']' :: m := by
        intro m heq
        rw [hcomma] at heq
        exact absurd (List.cons.inj heq).1 (by decide)
      show readItems (fuel + 1) false (tailOf (v :: items) ++ ']' :: rest) = _
      have htail : tailOf (v :: items) ++ ']' :: rest =
          ", ".toList ++ (textOf v ++ (tailOf items ++ ']' :: rest)) := by
        unfold tailOf
        rw [List.flatMap_cons, List.append_assoc, List.append_assoc]
      rw [htail, readItems_cons (readSeparator_comma _) hclose,
        readValue_textOf h.1 (by omega) (noDigitFirst_tailOf items rest), Option.bind_some,
        readItems_tailOf h.2 (by omega), Option.map_some]

theorem readPairs_tailOfPairs : ∀ {items : JSONObject}, floatFreePairs items = true →
    ∀ {fuel : ℕ} {rest : List Char}, sizeOfPairs items ≤ fuel →
      readPairs fuel false (tailOfPairs items ++ '\x7d' :: rest) = some (items, rest)
  | items, _, 0, _, hsize => by
      cases items <;> simp [sizeOfPairs] at hsize
  | [], _, fuel + 1, rest, _ => by
      show readPairs (fuel + 1) false ('\x7d' :: rest) = _
      rw [readPairs]
  | (k, v) :: items, h, fuel + 1, rest, hsize => by
      rw [floatFreePairs, Bool.and_eq_true] at h
      rw [sizeOfPairs] at hsize
      have hcomma : ", ".toList = ',' :: [' '] := by decide
      have htail : tailOfPairs ((k, v) :: items) ++ '\x7d' :: rest = ", ".toList ++
          ('"' :: (pairText (k, v) ++ (tailOfPairs items ++ '\x7d' :: rest))) := by
        unfold tailOfPairs
        rw [List.flatMap_cons, List.append_assoc, List.append_assoc]
        rfl
      have hclose : ∀ m, ", ".toList ++
          ('"' :: (pairText (k, v) ++ (tailOfPairs items ++ '\x7d' :: rest))) ≠ '\x7d' :: m := by
        intro m heq
        rw [hcomma] at heq
        exact absurd (List.cons.inj heq).1 (by decide)
      rw [htail, readPairs_cons (readSeparator_comma _) hclose]
      unfold pairText
      simp only [List.append_assoc, List.cons_append]
      rw [readString_quoteUnicode, Option.bind_some, readWord_append, Option.bind_some,
        readValue_textOf h.1 (by omega) (noDigitFirst_tailOfPairs items rest), Option.bind_some,
        readPairs_tailOfPairs h.2 (by omega), Option.map_some]

end

/-- INTERNAL: a text is not empty. -/
theorem sizeOfJson_le_of_leaf {v : JSONValue} (hsize : sizeOfJson v = 1)
    (h : floatFree v = true) : sizeOfJson v ≤ 2 * (textOf v).length := by
  obtain ⟨c, l, htext, _⟩ := exists_cons_textOf h
  rw [hsize, htext, List.length_cons]
  omega

mutual

/-- INTERNAL: reading descends at most twice for a character of the text. -/
theorem sizeOfJson_le : ∀ {v : JSONValue}, floatFree v = true →
    sizeOfJson v ≤ 2 * (textOf v).length
  | .null, h => sizeOfJson_le_of_leaf (by rw [sizeOfJson]) h
  | .bool _, h => sizeOfJson_le_of_leaf (by rw [sizeOfJson]) h
  | .int _, h => sizeOfJson_le_of_leaf (by rw [sizeOfJson]) h
  | .float _, h => by cases h
  | .str _, h => sizeOfJson_le_of_leaf (by rw [sizeOfJson]) h
  | .list [], _ => by
      rw [sizeOfJson, sizeOfItems, textOf_list_nil]
      decide
  | .list (v :: items), h => by
      rw [floatFree, floatFreeItems, Bool.and_eq_true] at h
      have hv := sizeOfJson_le h.1
      have hitems := sizeOfItems_le h.2
      rw [sizeOfJson, sizeOfItems, textOf_list_cons]
      simp only [List.length_cons, List.length_append, List.length_nil]
      omega
  | .dict [], _ => by
      rw [sizeOfJson, sizeOfPairs, textOf_dict_nil]
      decide
  | .dict ((k, v) :: items), h => by
      rw [floatFree, floatFreePairs, Bool.and_eq_true] at h
      have hv := sizeOfJson_le h.1
      have hitems := sizeOfPairs_le h.2
      rw [sizeOfJson, sizeOfPairs, textOf_dict_cons]
      simp only [pairText, List.length_cons, List.length_append, List.length_nil]
      omega

theorem sizeOfItems_le : ∀ {items : List JSONValue}, floatFreeItems items = true →
    sizeOfItems items ≤ 2 * (tailOf items).length + 1
  | [], _ => by
      rw [sizeOfItems]
      omega
  | v :: items, h => by
      rw [floatFreeItems, Bool.and_eq_true] at h
      have hv := sizeOfJson_le h.1
      have hitems := sizeOfItems_le h.2
      have hcomma : ", ".toList.length = 2 := by decide
      unfold tailOf at hitems ⊢
      rw [sizeOfItems, List.flatMap_cons, List.length_append, List.length_append, hcomma]
      omega

theorem sizeOfPairs_le : ∀ {items : JSONObject}, floatFreePairs items = true →
    sizeOfPairs items ≤ 2 * (tailOfPairs items).length + 1
  | [], _ => by
      rw [sizeOfPairs]
      omega
  | (k, v) :: items, h => by
      rw [floatFreePairs, Bool.and_eq_true] at h
      have hv := sizeOfJson_le h.1
      have hitems := sizeOfPairs_le h.2
      have hcomma : ", ".toList.length = 2 := by decide
      have hpair : (textOf v).length ≤ (pairText (k, v)).length := by
        simp only [pairText, List.length_cons, List.length_append]
        omega
      unfold tailOfPairs at hitems ⊢
      rw [sizeOfPairs, List.flatMap_cons, List.length_append, List.length_append, hcomma,
        List.length_cons]
      omega

end

/-! ## The module is lawful -/

theorem floatFreeItems_iff (items : List JSONValue) :
    floatFreeItems items = true ↔ ∀ v ∈ items, floatFree v = true := by
  induction items with
  | nil => simp [floatFreeItems]
  | cons v items ih => rw [floatFreeItems, Bool.and_eq_true, ih, List.forall_mem_cons]

theorem floatFreePairs_iff (items : JSONObject) :
    floatFreePairs items = true ↔ ∀ p ∈ items, floatFree p.2 = true := by
  induction items with
  | nil => simp [floatFreePairs]
  | cons p items ih =>
      obtain ⟨k, v⟩ := p
      rw [floatFreePairs, Bool.and_eq_true, ih, List.forall_mem_cons]

mutual

theorem hasDistinctKeys_iff : ∀ v : JSONValue, hasDistinctKeys v = true ↔ v.DistinctKeys
  | .null => by rw [hasDistinctKeys, JSONValue.DistinctKeys]; simp
  | .bool _ => by rw [hasDistinctKeys, JSONValue.DistinctKeys]; simp
  | .int _ => by rw [hasDistinctKeys, JSONValue.DistinctKeys]; simp
  | .float _ => by rw [hasDistinctKeys, JSONValue.DistinctKeys]; simp
  | .str _ => by rw [hasDistinctKeys, JSONValue.DistinctKeys]; simp
  | .list items => by
      rw [hasDistinctKeys, JSONValue.DistinctKeys]
      exact haveDistinctKeys_iff items
  | .dict items => by
      rw [hasDistinctKeys, JSONValue.DistinctKeys, Bool.and_eq_true, decide_eq_true_eq,
        pairsHaveDistinctKeys_iff items]

theorem haveDistinctKeys_iff : ∀ items : List JSONValue,
    haveDistinctKeys items = true ↔ JSONValue.DistinctItems items
  | [] => by rw [haveDistinctKeys, JSONValue.DistinctItems]; simp
  | v :: items => by
      rw [haveDistinctKeys, JSONValue.DistinctItems, Bool.and_eq_true, hasDistinctKeys_iff v,
        haveDistinctKeys_iff items]

theorem pairsHaveDistinctKeys_iff : ∀ items : JSONObject,
    pairsHaveDistinctKeys items = true ↔ JSONValue.DistinctPairs items
  | [] => by rw [pairsHaveDistinctKeys, JSONValue.DistinctPairs]; simp
  | (k, v) :: items => by
      rw [pairsHaveDistinctKeys, JSONValue.DistinctPairs, Bool.and_eq_true,
        hasDistinctKeys_iff v, pairsHaveDistinctKeys_iff items]

end

theorem exists_dumpsJson_iff (v : JSONValue) :
    (∃ s, dumpsJson v = .ok s) ↔ floatFree v = true := by
  unfold dumpsJson
  by_cases h : floatFree v = true
  · rw [if_pos h]
    exact ⟨fun _ => h, fun _ => ⟨_, rfl⟩⟩
  · rw [if_neg h]
    constructor
    · rintro ⟨s, hs⟩
      cases hs
    · exact fun h' => absurd h' h

theorem loadsJson_dumpsJson {v : JSONValue} {s : String} (hkeys : v.DistinctKeys)
    (h : dumpsJson v = .ok s) : loadsJson s = .ok v := by
  have hfree := (exists_dumpsJson_iff v).mp ⟨s, h⟩
  have hs : s = dumpsUnicode stdlib v := by
    unfold dumpsJson at h
    rw [if_pos hfree] at h
    exact (Except.ok.inj h).symm
  have hend : NoDigitFirst [] := by
    intro c m heq
    cases heq
  have hread : readValue (2 * (textOf v).length) (textOf v ++ []) = some (v, []) :=
    readValue_textOf hfree (sizeOfJson_le hfree) hend
  rw [List.append_nil] at hread
  have htext : s.toList = textOf v := by
    rw [hs]
    rfl
  unfold loadsJson
  rw [htext, hread]
  simp only
  rw [if_pos ((hasDistinctKeys_iff v).mpr hkeys)]

theorem lawful_codec : codec.Lawful where
  loads_dumps _ _ hkeys h := loadsJson_dumpsJson hkeys h
  distinct_loads s v h := by
    have hloads : loadsJson s = .ok v := h
    unfold loadsJson at hloads
    split at hloads
    · split at hloads
      · rename_i hkeys
        cases hloads
        exact (hasDistinctKeys_iff v).mp hkeys
      · cases hloads
    · cases hloads
  dumps_str t := (exists_dumpsJson_iff (.str t)).mpr rfl
  dumps_list items := by
    show (∃ s, dumpsJson _ = .ok s) ↔ ∀ v ∈ items, ∃ s, dumpsJson v = .ok s
    simp only [exists_dumpsJson_iff]
    rw [floatFree, floatFreeItems_iff]
  dumps_dict items := by
    show (∃ s, dumpsJson _ = .ok s) ↔ ∀ p ∈ items, ∃ s, dumpsJson p.2 = .ok s
    simp only [exists_dumpsJson_iff]
    rw [floatFree, floatFreePairs_iff]
  dumpsSorted_eq _ := rfl

end Reference

end MediaCenter.Shared
