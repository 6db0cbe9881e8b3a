import MediaCenter.Analysis.Shared.JsonTexts
import MediaCenter.Analysis.Shared.TokenSegments

/-!
# Reading base64 and the JSON of claims

The two codecs of a token, computed: base64 for what the encoder writes, and JSON for objects of
integers, texts and lists of texts.
-/

set_option autoImplicit false

namespace MediaCenter.Shared

open MediaCenter.Library

namespace Reference

/-! ## Base64 -/

def base64urlAlphabet : List Char :=
  "ABCDEFGHIJKLMNOPQRSTUVWXYZabcdefghijklmnopqrstuvwxyz0123456789-_".toList

/-- The bytes of groups of six bits; what fills the last group is dropped. -/
def octets : List ℕ → List ℕ
  | a :: b :: c :: d :: rest =>
      (a * 4 + b / 16) :: (b % 16 * 16 + c / 4) :: (c % 4 * 64 + d) :: octets rest
  | [a, b, c] => [a * 4 + b / 16, b % 16 * 16 + c / 4]
  | [a, b] => [a * 4 + b / 16]
  | _ => []

def b64decode (segment : String) : Except SegmentError (List ℕ) :=
  if segment.toList.all (fun c => base64urlAlphabet.contains c) = true then
    .ok (octets (segment.toList.map fun c => base64urlAlphabet.idxOf c))
  else .error .malformed

theorem octets_sextets (data : List ℕ) (h : ∀ b ∈ data, b < 256) :
    octets (sextets data) = data := by
  induction data using sextets.induct with
  | case1 a b c rest ih =>
      simp only [List.mem_cons, forall_eq_or_imp] at h
      obtain ⟨ha, hb, hc, hrest⟩ := h
      rw [sextets, octets, ih hrest]
      congr 1
      · omega
      · congr 1
        · omega
        · congr 1
          omega
  | case2 a b =>
      simp only [List.mem_cons, List.not_mem_nil, or_false, forall_eq_or_imp, forall_eq] at h
      obtain ⟨ha, hb⟩ := h
      rw [sextets, octets]
      congr 1
      · omega
      · congr 1
        omega
  | case3 a =>
      simp only [List.mem_cons, List.not_mem_nil, or_false, forall_eq] at h
      rw [sextets, octets]
      congr 1
      omega
  | case4 => rfl

theorem lt_of_mem_sextets {data : List ℕ} (h : ∀ b ∈ data, b < 256) :
    ∀ n ∈ sextets data, n < 64 := by
  induction data using sextets.induct with
  | case1 a b c rest ih =>
      simp only [List.mem_cons, forall_eq_or_imp] at h
      obtain ⟨ha, hb, hc, hrest⟩ := h
      simp only [sextets, List.mem_cons, forall_eq_or_imp]
      exact ⟨by omega, by omega, by omega, by omega, ih hrest⟩
  | case2 a b =>
      simp only [List.mem_cons, List.not_mem_nil, or_false, forall_eq_or_imp, forall_eq] at h
      simp only [sextets, List.mem_cons, List.not_mem_nil, or_false, forall_eq_or_imp, forall_eq]
      omega
  | case3 a =>
      simp only [List.mem_cons, List.not_mem_nil, or_false, forall_eq] at h
      simp only [sextets, List.mem_cons, List.not_mem_nil, or_false, forall_eq_or_imp, forall_eq]
      omega
  | case4 =>
      intro n hn
      cases hn

theorem b64decode_encode (data : List ℕ) (h : ∀ b ∈ data, b < 256) :
    b64decode (base64urlEncode data) = .ok data := by
  have hletter : ∀ n < 64, base64urlAlphabet.contains (base64urlAlphabet.getD n 'A') = true ∧
      base64urlAlphabet.idxOf (base64urlAlphabet.getD n 'A') = n := by decide
  have hsextets := lt_of_mem_sextets h
  have htext : (base64urlEncode data).toList =
      (sextets data).map fun n => base64urlAlphabet.getD n 'A' := by
    unfold base64urlEncode
    rw [String.toList_ofList]
    rfl
  unfold b64decode
  rw [htext, if_pos]
  · rw [List.map_map]
    have hmap : (sextets data).map ((fun c => base64urlAlphabet.idxOf c) ∘
        fun n => base64urlAlphabet.getD n 'A') = (sextets data).map id :=
      List.map_congr_left fun n hn => (hletter n (hsextets n hn)).2
    rw [hmap, List.map_id, octets_sextets data h]
  · rw [List.all_map, List.all_eq_true]
    exact fun n hn => (hletter n (hsextets n hn)).1

/-! ## UTF-8 -/

def utf8Text (data : List ℕ) : Option (List Char) :=
  (ByteArray.mk (data.map UInt8.ofNat).toArray).utf8Decode?.map Array.toList

theorem toList_loop (bytes : ByteArray) (rest : ℕ) : ∀ (i : ℕ) (r : List UInt8),
    bytes.size - i = rest →
    ByteArray.toList.loop bytes i r = r.reverse ++ bytes.data.toList.drop i := by
  induction rest with
  | zero =>
      intro i r hrest
      have hi : ¬ i < bytes.size := by omega
      have hlength : bytes.data.toList.length ≤ i := not_lt.mp hi
      rw [ByteArray.toList.loop, if_neg hi, List.drop_eq_nil_of_le hlength, List.append_nil]
  | succ rest ih =>
      intro i r hrest
      have hi : i < bytes.size := by omega
      have hdrop : bytes.data.toList.drop i = bytes.get! i :: bytes.data.toList.drop (i + 1) := by
        rw [List.drop_eq_getElem_cons hi]
        congr 1
        exact (getElem!_pos bytes.data i hi).symm
      rw [ByteArray.toList.loop, if_pos hi, ih (i + 1) _ (by omega), hdrop, List.reverse_cons,
        List.append_assoc, List.singleton_append]

theorem utf8Text_utf8 (s : String) : utf8Text (utf8 s) = some s.toList := by
  have hbytes : s.toUTF8.toList = s.toUTF8.data.toList :=
    toList_loop s.toUTF8 _ 0 [] rfl
  have harray : ByteArray.mk ((utf8 s).map UInt8.ofNat).toArray = s.toUTF8 := by
    unfold utf8
    rw [List.map_map]
    have hmap : s.toUTF8.toList.map (UInt8.ofNat ∘ UInt8.toNat) = s.toUTF8.toList.map id :=
      List.map_congr_left fun b _ => UInt8.ofNat_toNat
    rw [hmap, List.map_id, hbytes]
  have hencode : s.toUTF8 = s.toList.utf8Encode := String.utf8Encode_toList.symm
  unfold utf8Text
  rw [harray, hencode, List.utf8Decode?_utf8Encode, Option.map_some]

/-! ## The JSON of claims -/

/-- The texts of a list, up to its closing bracket. -/
def readStrings : ℕ → List Char → Option (List String × List Char)
  | 0, _ => none
  | fuel + 1, l => do
      let l ← readWord ['"'] l
      let (s, l) ← readString l
      match l with
      | ',' :: l => do
          let (rest, l) ← readStrings fuel l
          return (s :: rest, l)
      | ']' :: l => return ([s], l)
      | _ => none

def readList (l : List Char) : Option (List String × List Char) :=
  if l.head? = some ']' then some ([], l.tail) else readStrings l.length l

def readClaim : List Char → Option (JSONValue × List Char)
  | [] => none
  | c :: l =>
      if c = '"' then (readString l).map fun p => (.str p.1, p.2)
      else if c = '[' then (readList l).map fun p => (.list (p.1.map .str), p.2)
      else (readInt (c :: l)).map fun p => (.int p.1, p.2)

/-- The claims of an object, up to its closing brace. -/
def readClaims : ℕ → List Char → Option JSONObject
  | 0, _ => none
  | fuel + 1, l => do
      let l ← readWord ['"'] l
      let (k, l) ← readString l
      let l ← readWord [':'] l
      let (v, l) ← readClaim l
      match l with
      | ',' :: l => do
          let rest ← readClaims fuel l
          return (k, v) :: rest
      | ['\x7d'] => return [(k, v)]
      | _ => none

def loadsClaims : List Char → Option JSONObject
  | ['\x7b', '\x7d'] => some []
  | '\x7b' :: l => readClaims l.length l
  | _ => none

def loads (data : List ℕ) : Except SegmentError JSONValue :=
  match (utf8Text data).bind loadsClaims with
  | some claims => .ok (.dict claims)
  | none => .error .malformed

def segmentCodec : SegmentCodec := ⟨b64decode, loads⟩

/-! ## Reading the JSON back -/

section Texts

variable {py : Stdlib}

/-- A text in quotation marks, behind the first. -/
def quotedTail (s : String) : List Char := s.toList.flatMap escapeControlChar ++ ['"']

theorem readString_quotedTail (s : String) (rest : List Char) :
    readString (quotedTail s ++ rest) = some (s, rest) := by
  unfold quotedTail
  rw [List.append_assoc]
  exact readString_quoteUnicode s rest

/-- INTERNAL: by induction on the further texts. -/
theorem readStrings_quoted (rest : List String) : ∀ (s : String) (tail : List Char) (fuel : ℕ),
    rest.length < fuel →
    readStrings fuel ('"' :: (quotedTail s ++
      ((rest.flatMap fun t => ',' :: '"' :: quotedTail t) ++ ']' :: tail))) =
        some (s :: rest, tail) := by
  induction rest with
  | nil =>
      intro s tail fuel hfuel
      obtain ⟨fuel, rfl⟩ := Nat.exists_eq_succ_of_ne_zero (by omega : fuel ≠ 0)
      have hquote : readWord ['"'] ('"' :: (quotedTail s ++ ']' :: tail)) =
          some (quotedTail s ++ ']' :: tail) := readWord_append ['"'] _
      rw [readStrings]
      simp only [List.flatMap_nil, List.nil_append, hquote, readString_quotedTail, bind,
        Option.bind]
      rfl
  | cons t rest ih =>
      intro s tail fuel hfuel
      rw [List.length_cons] at hfuel
      obtain ⟨fuel, rfl⟩ := Nat.exists_eq_succ_of_ne_zero (by omega : fuel ≠ 0)
      have hrest := ih t tail fuel (by omega)
      have hquote : ∀ l, readWord ['"'] ('"' :: l) = some l := fun l => readWord_append ['"'] l
      rw [readStrings]
      simp only [List.flatMap_cons, List.cons_append, List.append_assoc, hquote,
        readString_quotedTail, bind, Option.bind, hrest]
      rfl

/-- The text of a claim. -/
def claimText (py : Stdlib) (v : JSONValue) : List Char := (dumpsCompact py v).toList

theorem claimText_str (s : String) : claimText py (.str s) = '"' :: quotedTail s := by
  unfold claimText quotedTail
  rw [dumpsCompact]
  exact toList_quoteUnicode s

theorem claimText_list_cons (s : String) (rest : List String) :
    claimText py (.list ((s :: rest).map .str)) =
      '[' :: '"' :: (quotedTail s ++ ((rest.flatMap fun t => ',' :: '"' :: quotedTail t) ++
        [']'])) := by
  have hitems : ∀ l : List String, dumpsCompactItems py (l.map .str) = l.map quoteUnicode := by
    intro l
    induction l with
    | nil => rfl
    | cons t l ih =>
        rw [List.map_cons, List.map_cons, dumpsCompactItems, ih, dumpsCompact]
  have hquote : ∀ t, (quoteUnicode t).toList = '"' :: quotedTail t := toList_quoteUnicode
  have hopen : "[".toList = ['['] := by decide
  have hcomma : ",".toList = [','] := by decide
  have hclose : "]".toList = [']'] := by decide
  unfold claimText
  rw [dumpsCompact, hitems, List.map_cons, String.toList_append, String.toList_append,
    toList_intercalate_cons, List.flatMap_map, hopen, hclose, hquote]
  simp only [hquote, hcomma, List.cons_append, List.nil_append, List.append_assoc]

/-- INTERNAL: a plain list is one of texts. -/
theorem exists_texts {items : List JSONValue}
    (h : ∀ item ∈ items, (asStr item).isSome = true) :
    ∃ texts : List String, items = texts.map .str := by
  induction items with
  | nil => exact ⟨[], rfl⟩
  | cons item items ih =>
      rw [List.forall_mem_cons] at h
      obtain ⟨texts, rfl⟩ := ih h.2
      cases item with
      | str s => exact ⟨s :: texts, rfl⟩
      | _ => cases h.1

theorem readClaim_claimText {v : JSONValue} (hplain : v.isPlain = true) {tail : List Char}
    (htail : NoDigitFirst tail) : readClaim (claimText py v ++ tail) = some (v, tail) := by
  cases v with
  | str s =>
      rw [claimText_str, List.cons_append, readClaim, if_pos rfl, readString_quotedTail,
        Option.map_some]
  | int n =>
      have hread := readInt_toString n htail
      obtain ⟨c, l, hl, hne⟩ := exists_cons_toString n
      have htext : claimText py (.int n) = (toString n).toList := by
        unfold claimText
        rw [dumpsCompact]
      rw [htext, hl, List.cons_append]
      rw [hl, List.cons_append] at hread
      rw [readClaim, if_neg (hne '"' (by decide) (by decide)),
        if_neg (hne '[' (by decide) (by decide)), hread, Option.map_some]
  | list items =>
      obtain ⟨texts, rfl⟩ := exists_texts (List.all_eq_true.mp hplain)
      cases texts with
      | nil =>
          have htext : claimText py (.list ([].map .str)) = ['[', ']'] := by
            unfold claimText
            rw [List.map_nil, dumpsCompact, dumpsCompactItems]
            decide
          rw [htext, List.cons_append, readClaim, if_neg (by decide), if_pos rfl]
          rfl
      | cons s rest =>
          have hlength : ∀ l : List String,
              l.length ≤ (l.flatMap fun t => ',' :: '"' :: quotedTail t).length := by
            intro l
            induction l with
            | nil => exact Nat.zero_le _
            | cons t l ih =>
                rw [List.flatMap_cons, List.length_append, List.length_cons, List.length_cons,
                  List.length_cons]
                omega
          have hread := readStrings_quoted rest s tail
            ('"' :: (quotedTail s ++ ((rest.flatMap fun t => ',' :: '"' :: quotedTail t) ++
              ']' :: tail))).length (by
            rw [List.length_cons, List.length_append, List.length_append, List.length_cons]
            have := hlength rest
            omega)
          rw [claimText_list_cons]
          simp only [List.cons_append, List.append_assoc, List.nil_append]
          rw [readClaim, if_neg (by decide), if_pos rfl]
          unfold readList
          rw [if_neg (by rw [List.head?_cons]; decide), hread, Option.map_some]
  | null => cases hplain
  | bool b => cases hplain
  | float x => cases hplain
  | dict items => cases hplain

/-- The text of a claim with its name, behind the first quotation mark. -/
def entryText (py : Stdlib) (p : String × JSONValue) : List Char :=
  quotedTail p.1 ++ ':' :: claimText py p.2

theorem readClaims_entries (rest : JSONObject) : ∀ (p : String × JSONValue) (fuel : ℕ),
    (∀ q ∈ p :: rest, q.2.isPlain = true) → rest.length < fuel →
    readClaims fuel ('"' :: (entryText py p ++
      ((rest.flatMap fun q => ',' :: '"' :: entryText py q) ++ ['\x7d']))) =
        some (p :: rest) := by
  have hquote : ∀ l, readWord ['"'] ('"' :: l) = some l := fun l => readWord_append ['"'] l
  have hcolon : ∀ l, readWord [':'] (':' :: l) = some l := fun l => readWord_append [':'] l
  induction rest with
  | nil =>
      intro p fuel hplain hfuel
      obtain ⟨fuel, rfl⟩ := Nat.exists_eq_succ_of_ne_zero (by omega : fuel ≠ 0)
      have hclaim := @readClaim_claimText py p.2 (hplain p List.mem_cons_self) ['\x7d']
        (noDigitFirst_cons (by decide) [])
      rw [readClaims]
      simp only [entryText, List.flatMap_nil, List.nil_append, List.append_assoc,
        List.cons_append, hquote, readString_quotedTail, hcolon, hclaim, bind, Option.bind]
      rfl
  | cons q rest ih =>
      intro p fuel hplain hfuel
      rw [List.length_cons] at hfuel
      obtain ⟨fuel, rfl⟩ := Nat.exists_eq_succ_of_ne_zero (by omega : fuel ≠ 0)
      have hrest := ih q fuel (fun r hr => hplain r (List.mem_cons_of_mem p hr)) (by omega)
      have hclaim := @readClaim_claimText py p.2 (hplain p List.mem_cons_self)
        (',' :: '"' :: (entryText py q ++
          ((rest.flatMap fun r => ',' :: '"' :: entryText py r) ++ ['\x7d'])))
        (noDigitFirst_cons (by decide) _)
      rw [readClaims]
      simp only [List.flatMap_cons, List.cons_append, List.append_assoc]
      rw [hquote]
      simp only [bind, Option.bind]
      rw [show entryText py p = quotedTail p.1 ++ ':' :: claimText py p.2 from rfl]
      simp only [List.append_assoc, List.cons_append, readString_quotedTail, hcolon, hclaim, hrest]
      rfl

/-- INTERNAL: sorted claims are written in their order. -/
theorem toList_dumpsCompact_dict {claims : JSONObject}
    (hkeys : (claims.map Prod.fst).Pairwise (· < ·)) :
    (dumpsCompact py (.dict claims)).toList =
      '\x7b' :: ((",".intercalate (claims.map fun p =>
        quoteUnicode p.1 ++ ":" ++ dumpsCompact py p.2)).toList ++ ['\x7d']) := by
  have hpairs : ∀ l : JSONObject,
      dumpsCompactPairs py l = l.map fun p => (p.1, dumpsCompact py p.2) := by
    intro l
    induction l with
    | nil => rfl
    | cons p l ih =>
        obtain ⟨k, v⟩ := p
        rw [dumpsCompactPairs, ih, List.map_cons]
  have hsorted : sortPairs (claims.map fun p => (p.1, dumpsCompact py p.2)) =
      claims.map fun p => (p.1, dumpsCompact py p.2) := by
    unfold sortPairs
    apply List.Pairwise.insertionSort_eq
    rw [List.pairwise_map]
    rw [List.pairwise_map] at hkeys
    exact hkeys.imp fun h => le_of_lt h
  have hopen : "\x7b".toList = ['\x7b'] := by decide
  have hclose : "\x7d".toList = ['\x7d'] := by decide
  rw [dumpsCompact, hpairs, hsorted, List.map_map, String.toList_append, String.toList_append,
    hopen, hclose]
  rfl

theorem lawful_segmentCodec (py : Stdlib) : segmentCodec.Lawful py where
  b64decode_encode := b64decode_encode
  loads_dumps := by
    intro claims hkeys hplain
    show loads (utf8 (dumpsCompact py (.dict claims))) = .ok (.dict claims)
    have hloads : loadsClaims (dumpsCompact py (.dict claims)).toList = some claims := by
      rw [toList_dumpsCompact_dict hkeys]
      cases claims with
      | nil => rfl
      | cons p rest =>
          have hentry : ∀ q : String × JSONValue,
              (quoteUnicode q.1 ++ ":" ++ dumpsCompact py q.2).toList =
                '"' :: entryText py q := by
            intro q
            rw [String.toList_append, String.toList_append, toList_quoteUnicode]
            simp only [entryText, quotedTail, claimText, List.cons_append, List.append_assoc,
              List.nil_append]
            rfl
          have hcomma : ",".toList = [','] := by decide
          have hlength : rest.length <
              ('"' :: (entryText py p ++ ((rest.flatMap fun q => ',' :: '"' :: entryText py q) ++
                ['\x7d']))).length := by
            have hle : ∀ l : JSONObject,
                l.length ≤ (l.flatMap fun q => ',' :: '"' :: entryText py q).length := by
              intro l
              induction l with
              | nil => exact Nat.zero_le _
              | cons q l ih =>
                  rw [List.flatMap_cons, List.length_append, List.length_cons, List.length_cons,
                    List.length_cons]
                  omega
            rw [List.length_cons, List.length_append, List.length_append]
            have := hle rest
            omega
          rw [List.map_cons, toList_intercalate_cons, List.flatMap_map, hentry]
          simp only [hentry, hcomma, List.cons_append, List.nil_append, List.append_assoc]
          exact readClaims_entries rest p _ hplain hlength
    unfold loads
    rw [utf8Text_utf8, Option.bind_some, hloads]

end Texts

end Reference

end MediaCenter.Shared
