import MediaCenter.Analysis.MessengerAdapter.TrimmedJson
import MediaCenter.Model.Shared.Reference

/-!
# The limits of a platform

A cut text is a prefix of the text, with three dots where there is room for them, and cut media
are some of the media in their order.  What is within the limits is not cut again.  A contract
strips keys: a key with white space around it can become the key of the media.
-/

set_option autoImplicit false

namespace MediaCenter.MessengerAdapter

open MediaCenter.Library MediaCenter.Shared

/-! ## Text -/

section Truncation

variable {content : List Char} {maxLength : ℕ}

/-- The dots behind a cut text, where there is room for them. -/
def dots (maxLength : ℕ) : List Char := if 3 < maxLength then ['.', '.', '.'] else []

/-- A text that begins with a character that is not white space. -/
def StartsVisibly (l : List Char) : Prop := ∃ c rest, l = c :: rest ∧ Text.isSpace c = false

theorem StartsVisibly.take {l : List Char} (h : StartsVisibly l) {n : ℕ} (hn : 0 < n) :
    StartsVisibly (l.take n) := by
  obtain ⟨c, rest, rfl, hc⟩ := h
  obtain ⟨k, rfl⟩ := Nat.exists_eq_succ_of_ne_zero hn.ne'
  exact ⟨c, rest.take k, List.take_succ_cons, hc⟩

theorem StartsVisibly.of_isPrefix_of_ne_nil {l l' : List Char} (h : StartsVisibly l) (hbegins : l' <+: l)
    (hne : l' ≠ []) : StartsVisibly l' := by
  obtain ⟨c, rest, rfl, hc⟩ := h
  obtain ⟨d, rest', rfl⟩ := List.exists_cons_of_ne_nil hne
  obtain ⟨hd, _⟩ := List.cons_prefix_cons.mp hbegins
  exact ⟨d, rest', rfl, hd ▸ hc⟩

theorem StartsVisibly.rdropWhile {l : List Char} {p : Char → Bool} (h : StartsVisibly l)
    (hp : ∀ c, Text.isSpace c = false → p c = false) : StartsVisibly (l.rdropWhile p) := by
  refine h.of_isPrefix_of_ne_nil (List.rdropWhile_prefix p l) ?_
  obtain ⟨c, rest, rfl, hc⟩ := h
  rw [Ne, List.rdropWhile_eq_nil_iff]
  intro hall
  have := hall c List.mem_cons_self
  rw [hp c hc] at this
  cases this

/-- A beginning of the content that is not empty, and fits with its dots. -/
structure Cuts (content : List Char) (maxLength : ℕ) (kept : List Char) : Prop where
  isPrefix : kept <+: content
  startsVisibly : StartsVisibly kept
  fits : (kept ++ dots maxLength).length ≤ maxLength

/-- INTERNAL: at the boundary of a word, or behind the last character that fits. -/
theorem exists_cuts (hvisible : StartsVisibly content) (hlong : maxLength < content.length)
    (hpositive : 1 ≤ maxLength) :
    ∃ kept, Cuts content maxLength kept ∧
      truncated content maxLength = kept ++ dots maxLength := by
  by_cases hsmall : maxLength ≤ 3
  · refine ⟨content.take maxLength, ⟨List.take_prefix _ _, hvisible.take hpositive, ?_⟩, ?_⟩
    · rw [dots, if_neg (by omega), List.append_nil, List.length_take]
      exact min_le_left _ _
    · rw [truncated, if_neg (by omega), if_pos hsmall, dots, if_neg (by omega), List.append_nil]
  · have hroom : 0 < maxLength - 3 := by omega
    have htake := (hvisible.take hroom).rdropWhile fun _ h => h
    have hdots : dots maxLength = ['.', '.', '.'] := if_pos (by omega)
    have hcuts : ∀ kept, kept <+: content.take (maxLength - 3) → StartsVisibly kept →
        Cuts content maxLength kept := by
      intro kept hbegins hkept
      refine ⟨hbegins.trans (List.take_prefix _ _), hkept, ?_⟩
      have hlength := hbegins.length_le
      rw [List.length_take] at hlength
      rw [hdots, List.length_append]
      simp only [List.length_cons, List.length_nil]
      omega
    have hne : ∀ l : List Char, StartsVisibly l → l ≠ [] := by
      rintro _ ⟨c, rest, rfl, _⟩
      exact List.cons_ne_nil _ _
    unfold truncated
    rw [if_neg (by omega), if_neg hsmall, hdots]
    dsimp only
    split
    · rename_i hboundary
      have hpositive := le_trans (le_max_left _ _) hboundary
      have hword := (htake.take (n := Int.toNat _) (Int.lt_toNat.mpr hpositive)).rdropWhile
        fun _ h => h
      rw [if_neg (hne _ hword)]
      refine ⟨_, hcuts _ ?_ hword, rfl⟩
      exact (List.rdropWhile_prefix _ _).trans
        ((List.take_prefix _ _).trans (List.rdropWhile_prefix _ _))
    · rw [if_neg (hne _ htake)]
      exact ⟨_, hcuts _ (List.rdropWhile_prefix _ _) htake, rfl⟩

end Truncation

/-! ## The content of a contract -/

section Content

variable {content : String} {maxLength : ℕ}

theorem startsVisibly_of_strip (hstrip : Text.strip content = content) (hne : content ≠ "") :
    StartsVisibly content.toList := by
  have hlist : content.toList ≠ [] := fun h => hne (String.toList_eq_nil_iff.mp h)
  obtain ⟨hhead, _⟩ := Text.dropBoth_eq_self_iff.mp hstrip hlist
  exact ⟨_, _, (List.cons_head_tail hlist).symm, hhead⟩

/-- INTERNAL: stripping only shortens a text that begins visibly. -/
theorem toList_trim_of_startsVisibly {l : List Char} (h : StartsVisibly l) :
    (Text.trim (String.ofList l)).toList = l.rdropWhile Text.isWhiteSpace := by
  obtain ⟨c, rest, rfl, hc⟩ := h
  unfold Text.trim
  rw [Text.toList_dropBoth, String.toList_ofList, List.dropWhile_cons_of_neg]
  rw [Text.isWhiteSpace_eq_false_of_isSpace hc]
  exact Bool.false_ne_true

/-- What a transformed text is: the content, or a cut of it. -/
def IsCutOf (content : String) (maxLength : ℕ) (result : String) : Prop :=
  result = content ∨
    ∃ kept : String, kept ≠ "" ∧ kept.toList <+: content.toList ∧
      result = kept ++ (if 3 < maxLength then "..." else "")

theorem trim_truncated (hstrip : Text.strip content = content) (hne : content ≠ "")
    (hpositive : 1 ≤ maxLength) :
    let result := Text.trim (String.ofList (truncated content.toList maxLength))
    IsCutOf content maxLength result ∧ result ≠ "" ∧ result.toList.length ≤ maxLength := by
  have hvisible := startsVisibly_of_strip hstrip hne
  by_cases hshort : content.toList.length ≤ maxLength
  · rw [truncated, if_pos hshort, String.ofList_toList, Text.trim_eq_self_of_strip hstrip]
    exact ⟨.inl rfl, hne, hshort⟩
  · obtain ⟨kept, hcuts, htruncated⟩ := exists_cuts hvisible (not_le.mp hshort) hpositive
    rw [htruncated]
    have hstarts : StartsVisibly (kept ++ dots maxLength) := by
      obtain ⟨c, rest, rfl, hc⟩ := hcuts.startsVisibly
      exact ⟨c, _, List.cons_append, hc⟩
    have hlist := toList_trim_of_startsVisibly hstarts
    have hwhite : ∀ c, Text.isSpace c = false → Text.isWhiteSpace c = false :=
      fun _ => Text.isWhiteSpace_eq_false_of_isSpace
    have hnonempty := hstarts.rdropWhile hwhite
    dsimp only
    refine ⟨.inr ?_, ?_, ?_⟩
    · by_cases hlarge : 3 < maxLength
      · refine ⟨String.ofList kept, ?_, ?_, ?_⟩
        · obtain ⟨c, rest, rfl, _⟩ := hcuts.startsVisibly
          intro h
          have := congrArg String.toList h
          rw [String.toList_ofList] at this
          cases this
        · rw [String.toList_ofList]
          exact hcuts.isPrefix
        · have htext : "...".toList = ['.', '.', '.'] := by decide
          rw [← String.toList_inj, hlist, if_pos hlarge, String.toList_append,
            String.toList_ofList, dots, if_pos hlarge, htext, List.rdropWhile_eq_self_iff]
          intro h
          rw [List.getLast_append_of_ne_nil _ (List.cons_ne_nil _ _)]
          decide
      · refine ⟨Text.trim (String.ofList (kept ++ dots maxLength)), ?_, ?_, ?_⟩
        · intro h
          rw [h] at hlist
          obtain ⟨c, rest, hcons, _⟩ := hnonempty
          rw [← hlist] at hcons
          cases hcons
        · rw [hlist, dots, if_neg hlarge, List.append_nil]
          exact (List.rdropWhile_prefix _ _).trans hcuts.isPrefix
        · rw [if_neg hlarge, String.append_empty]
    · intro h
      rw [h] at hlist
      obtain ⟨c, rest, hcons, _⟩ := hnonempty
      rw [← hlist] at hcons
      cases hcons
    · rw [hlist]
      exact (List.rdropWhile_prefix _ _).length_le.trans hcuts.fits

end Content

/-! ## Trimmed JSON -/

section Trimming

/-- INTERNAL: where the keys are plain, the value of a key is trimmed in its place. -/
theorem get?_trimmedObject {items : JSONObject} (h : ∀ p ∈ items, Text.trim p.1 = p.1)
    (key : String) : (Dict.ofList (trimmedObject items)).get? key =
      ((Dict.ofList items).get? key).map trimmed := by
  unfold trimmedObject
  have hpairs : trimmedPairs items = items.map fun p => (p.1, trimmed p.2) := by
    rw [trimmedPairs_eq_map]
    exact List.map_congr_left fun p hp => by rw [h p hp]
  rw [Dict.ofList_entries, hpairs, Dict.get?_ofList, Dict.get?_ofList, ← List.map_reverse,
    List.find?_map, Option.map_map, Option.map_map]
  rfl

theorem get?_trimmedDict {metadata : Dict String JSONValue}
    (h : ∀ p ∈ metadata.entries, Text.trim p.1 = p.1) (key : String) :
    (trimmedDict metadata).get? key = (metadata.get? key).map trimmed := by
  have hobject := get?_trimmedObject h key
  unfold trimmedObject at hobject
  rw [Dict.ofList_entries, Dict.ofList_entries] at hobject
  exact hobject

end Trimming

/-! ## Media -/

section Media

variable {py : Stdlib} {limits : PlatformContentLimits}

theorem selectMedia_sublist (items : List JSONObject) (selected linkCount : ℕ) :
    (selectMedia py limits items selected linkCount).Sublist items := by
  induction items generalizing selected linkCount with
  | nil => exact .slnil
  | cons item rest ih =>
      rw [selectMedia]
      split
      · split
        · exact (ih _ _).cons item
        · split
          · exact (List.nil_sublist rest).cons_cons item
          · exact (ih _ _).cons_cons item
      · split
        · exact (List.nil_sublist rest).cons_cons item
        · exact (ih _ _).cons_cons item

theorem length_selectMedia (items : List JSONObject) (selected linkCount : ℕ)
    (h : selected < limits.maxMediaItems) :
    (selectMedia py limits items selected linkCount).length + selected ≤
      limits.maxMediaItems := by
  induction items generalizing selected linkCount with
  | nil =>
      rw [selectMedia, List.length_nil]
      omega
  | cons item rest ih =>
      rw [selectMedia]
      split
      · split
        · exact ih _ _ h
        · rw [List.length_cons]
          split
          · rw [List.length_nil]
            omega
          · have := ih (selected + 1) (linkCount + 1) (by omega)
            omega
      · rw [List.length_cons]
        split
        · rw [List.length_nil]
          omega
        · have := ih (selected + 1) linkCount (by omega)
          omega

theorem countP_selectMedia (items : List JSONObject) (selected linkCount : ℕ)
    (h : linkCount ≤ limits.maxLinkItems) :
    (selectMedia py limits items selected linkCount).countP (isLinkMedia py) + linkCount ≤
      limits.maxLinkItems := by
  induction items generalizing selected linkCount with
  | nil =>
      rw [selectMedia, List.countP_nil]
      omega
  | cons item rest ih =>
      rw [selectMedia]
      split
      · rename_i hlink
        split
        · exact ih _ _ h
        · rw [List.countP_cons_of_pos hlink]
          split
          · rw [List.countP_nil]
            omega
          · have := ih (selected + 1) (linkCount + 1) (by omega)
            omega
      · rename_i hlink
        rw [List.countP_cons_of_neg hlink]
        split
        · rw [List.countP_nil]
          omega
        · exact ih _ _ h

/-- INTERNAL: what was selected is selected again. -/
theorem selectMedia_selectMedia (items : List JSONObject) (selected linkCount : ℕ) :
    selectMedia py limits (selectMedia py limits items selected linkCount) selected linkCount =
      selectMedia py limits items selected linkCount := by
  induction items generalizing selected linkCount with
  | nil => rfl
  | cons item rest ih =>
      by_cases hlink : isLinkMedia py item = true
      · by_cases hroom : limits.maxLinkItems ≤ linkCount
        · have hskip : selectMedia py limits (item :: rest) selected linkCount =
              selectMedia py limits rest selected linkCount := by
            rw [selectMedia, if_pos hlink, if_pos hroom]
          rw [hskip]
          exact ih _ _
        · have hkeep : ∀ l, selectMedia py limits (item :: l) selected linkCount =
              item :: if limits.maxMediaItems ≤ selected + 1 then []
                else selectMedia py limits l (selected + 1) (linkCount + 1) := by
            intro l
            rw [selectMedia, if_pos hlink, if_neg hroom]
          rw [hkeep, hkeep]
          split
          · rfl
          · rw [ih]
      · have hkeep : ∀ l, selectMedia py limits (item :: l) selected linkCount =
            item :: if limits.maxMediaItems ≤ selected + 1 then []
              else selectMedia py limits l (selected + 1) linkCount := by
          intro l
          rw [selectMedia, if_neg hlink]
        rw [hkeep, hkeep]
        split
        · rfl
        · rw [ih]

/-- INTERNAL: a change of the items that keeps links links does not change which are selected. -/
theorem selectMedia_map {f : JSONObject → JSONObject} (items : List JSONObject)
    (hf : ∀ item ∈ items, isLinkMedia py (f item) = isLinkMedia py item)
    (selected linkCount : ℕ) :
    selectMedia py limits (items.map f) selected linkCount =
      (selectMedia py limits items selected linkCount).map f := by
  induction items generalizing selected linkCount with
  | nil => rfl
  | cons item rest ih =>
      rw [List.forall_mem_cons] at hf
      have ih := ih hf.2
      rw [List.map_cons, selectMedia, selectMedia, hf.1]
      split
      · split
        · exact ih _ _
        · rw [List.map_cons]
          congr 1
          split
          · rfl
          · exact ih _ _
      · rw [List.map_cons]
        congr 1
        split
        · rfl
        · exact ih _ _

/-- Some of the items in their order, within the limits. -/
structure WithinLimits (py : Stdlib) (limits : PlatformContentLimits)
    (items selected : List JSONObject) : Prop where
  sublist : selected.Sublist items
  length : selected.length ≤ limits.maxMediaItems
  links : selected.countP (isLinkMedia py) ≤ limits.maxLinkItems

theorem withinLimits_limitMediaItems (items : List JSONObject) :
    WithinLimits py limits items (limitMediaItems py limits items) := by
  unfold limitMediaItems
  split
  · rename_i hzero
    exact ⟨List.nil_sublist _, Nat.zero_le _, Nat.zero_le _⟩
  · rename_i hpos
    exact ⟨selectMedia_sublist _ _ _, length_selectMedia _ _ _ (Nat.pos_of_ne_zero hpos),
      countP_selectMedia _ _ _ (Nat.zero_le _)⟩

theorem limitMediaItems_limitMediaItems (items : List JSONObject) :
    limitMediaItems py limits (limitMediaItems py limits items) =
      limitMediaItems py limits items := by
  unfold limitMediaItems
  split
  · rfl
  · exact selectMedia_selectMedia _ _ _

theorem limitMediaItems_map {f : JSONObject → JSONObject} (items : List JSONObject)
    (hf : ∀ item ∈ items, isLinkMedia py (f item) = isLinkMedia py item) :
    limitMediaItems py limits (items.map f) = (limitMediaItems py limits items).map f := by
  unfold limitMediaItems
  split
  · rfl
  · exact selectMedia_map items hf _ _

/-- INTERNAL: whether an item is a link is seen by its keys and by a text that is stripped. -/
theorem isLinkMedia_trimmedObject {item : JSONObject} (h : ∀ p ∈ item, Text.trim p.1 = p.1) :
    isLinkMedia py (trimmedObject item) = isLinkMedia py item := by
  unfold isLinkMedia Dict.contains
  dsimp only
  rw [get?_trimmedObject h, get?_trimmedObject h, Option.isSome_map]
  cases (Dict.ofList item).get? "type" with
  | none => rfl
  | some value =>
      cases value <;> simp [trimmed, Text.strip_trim]

theorem WithinLimits.map_trimmed {items selected : List JSONObject}
    (h : WithinLimits py limits items selected)
    (hplain : ∀ item ∈ items, ∀ p ∈ item, Text.trim p.1 = p.1) :
    WithinLimits py limits (items.map trimmedObject) (selected.map trimmedObject) := by
  refine ⟨h.sublist.map trimmedObject, ?_, ?_⟩
  · rw [List.length_map]
    exact h.length
  · rw [List.countP_map]
    have hcount : selected.countP (isLinkMedia py ∘ trimmedObject) =
        selected.countP (isLinkMedia py) :=
      List.countP_congr fun item hitem => by
        rw [Function.comp_apply,
          isLinkMedia_trimmedObject (hplain item (h.sublist.subset hitem))]
    rw [hcount]
    exact h.links

end Media

/-! ## Media of the metadata -/

section Metadata

variable {py : Stdlib} {metadata : Dict String JSONValue}

/-- The keys at the top have no white space around them. -/
def PlainTop (metadata : Dict String JSONValue) : Prop :=
  ∀ p ∈ metadata.entries, Text.trim p.1 = p.1

theorem plainTop_trimmedDict (metadata : Dict String JSONValue) :
    PlainTop (trimmedDict metadata) :=
  fun p hp => (trimmedPair_of_mem _ p (Dict.mem_of_mem_entries_ofList hp)).1

theorem PlainTop.set {key : String} (h : PlainTop metadata) (hkey : Text.trim key = key)
    (value : JSONValue) : PlainTop (metadata.set key value) := by
  rintro ⟨k, v⟩ hp
  have hget := Dict.get?_eq_some_iff.mpr hp
  rw [Dict.get?_set] at hget
  split at hget
  · rename_i heq
    rw [heq]
    exact hkey
  · exact h _ (Dict.get?_eq_some_iff.mp hget)

/-- The value in which the media are looked for. -/
def foundMedia (metadata : Dict String JSONValue) (key : String) : Option JSONValue :=
  (notNone (metadata.get? "media")).or
    ((asDict (metadata.get? key)).bind fun items => items.get? "media")

/-- The items of a list, as they are normalised. -/
def itemsOf (value : Option JSONValue) : List JSONObject :=
  match value with
  | some (.list items) => items.filterMap normalizeMediaItem
  | _ => []

/-- The keys that decide the media have no white space around them: those of the metadata, of the
object for the platform and of the items that are found. -/
structure PlainMedia (metadata : Dict String JSONValue) (key : String) : Prop where
  top : PlainTop metadata
  platform : ∀ items, metadata.get? key = some (.dict items) → ∀ p ∈ items, Text.trim p.1 = p.1
  items : ∀ item ∈ itemsOf (foundMedia metadata key), ∀ p ∈ item, Text.trim p.1 = p.1

theorem mediaItemsFromMetadata_eq (metadata : Dict String JSONValue) (platform : String) :
    mediaItemsFromMetadata py metadata platform =
      itemsOf (foundMedia metadata (py.lower (Text.strip platform))) := rfl

theorem normalizeMediaItem_trimmed (v : JSONValue) :
    normalizeMediaItem (trimmed v) = (normalizeMediaItem v).map trimmedObject := by
  cases v with
  | str s =>
      rw [trimmed, normalizeMediaItem, normalizeMediaItem, Text.strip_trim]
      split
      · rfl
      · have hlink : Text.trim "link" = "link" := by decide
        have hurl : Text.trim (Text.strip s) = Text.strip s :=
          Text.trim_eq_self_of_strip (Text.strip_strip s)
        have hkeys : Text.trim "type" = "type" ∧ Text.trim "url" = "url" := by decide
        rw [Option.map_some]
        unfold trimmedObject
        have hdistinct : (List.map Prod.fst [("type", JSONValue.str "link"),
            ("url", .str (Text.strip s))]).Nodup := by
          show ["type", "url"].Nodup
          decide
        rw [trimmedPairs_eq_self, Dict.entries_ofList hdistinct]
        intro p hp
        simp only [List.mem_cons, List.not_mem_nil, or_false] at hp
        rcases hp with rfl | rfl
        · exact ⟨hkeys.1, congrArg JSONValue.str hlink⟩
        · exact ⟨hkeys.2, congrArg JSONValue.str hurl⟩
  | dict items => rw [trimmed_dict, normalizeMediaItem, normalizeMediaItem, Option.map_some]
  | _ => rfl

theorem itemsOf_trimmed (value : Option JSONValue) :
    itemsOf (value.map trimmed) = (itemsOf value).map trimmedObject := by
  cases value with
  | none => rfl
  | some v =>
      cases v with
      | list items =>
          show (trimmedItems items).filterMap normalizeMediaItem = _
          rw [trimmedItems_eq_map, List.filterMap_map, itemsOf, List.map_filterMap]
          exact List.filterMap_congr fun v _ => normalizeMediaItem_trimmed v
      | _ => rfl

theorem itemsOf_dicts (media : List JSONObject) :
    itemsOf (some (.list (media.map .dict))) = media := by
  show (media.map JSONValue.dict).filterMap normalizeMediaItem = media
  rw [List.filterMap_map]
  exact List.filterMap_some

/-- INTERNAL: the media of an object under a plain key are trimmed in their place. -/
theorem asDict_trimmed {value : Option JSONValue}
    (h : ∀ items, value = some (.dict items) → ∀ p ∈ items, Text.trim p.1 = p.1) (key : String) : ((asDict (value.map trimmed)).bind fun items => items.get? key) =
      ((asDict value).bind fun items => items.get? key).map trimmed := by
  cases value with
  | none => rfl
  | some v =>
      cases v with
      | dict items =>
          rw [Option.map_some, trimmed_dict]
          exact get?_trimmedObject (h _ rfl) key
      | _ => rfl

end Metadata

/-! ## Transformations -/

section Transformations

variable {py : Stdlib} {transformer : PlatformContentTransformer} {platform content : String}
  {metadata : Dict String JSONValue} {name : String} {limits : PlatformContentLimits}

/-- The metadata with their media cut. -/
def cutMetadata (py : Stdlib) (limits : PlatformContentLimits) (key : String)
    (metadata : Dict String JSONValue) : Dict String JSONValue :=
  if itemsOf (foundMedia metadata key) ≠ [] ∨ metadata.contains "media" = true then
    metadata.set "media"
      (.list ((limitMediaItems py limits (itemsOf (foundMedia metadata key))).map .dict))
  else metadata

/-- INTERNAL: the notes have plain keys, and none of them is that of the media. -/
theorem contentTransform_keys (platform content transformed : String)
    (items selected : List JSONObject) :
    ∀ p ∈ contentTransform platform content transformed items selected,
      Text.trim p.1 = p.1 ∧ p.1 ≠ "media" := by
  have hkeys : ∀ key ∈ (contentTransform platform content transformed items selected).map
      Prod.fst, Text.trim key = key ∧ key ≠ "media" := by
    show ∀ key ∈ ["platform", "text_truncated", "media_truncated", "original_text_length",
      "transformed_text_length", "original_media_count", "transformed_media_count"],
      Text.trim key = key ∧ key ≠ "media"
    decide
  exact fun p hp => hkeys p.1 (List.mem_map_of_mem hp)

theorem get?_media_of_ne {items : JSONObject} (h : ∀ p ∈ items, p.1 ≠ "media") :
    (Dict.ofList items).get? "media" = none := by
  rw [Dict.get?_ofList, Option.map_eq_none_iff, List.find?_eq_none]
  intro p hp
  rw [decide_eq_true_eq]
  exact h p (List.mem_reverse.mp hp)

/-- What `transform` returns, apart from the numbers that it notes. -/
structure Transforms (py : Stdlib) (limits : PlatformContentLimits) (name content : String)
    (metadata : Dict String JSONValue) (result : TransformedContent) : Prop where
  content_eq : result.fields.content =
    Text.trim (String.ofList (truncated content.toList limits.maxTextLength))
  metadata_eq : ∃ notes : JSONObject, (∀ p ∈ notes, Text.trim p.1 = p.1 ∧ p.1 ≠ "media") ∧
    result.fields.metadata =
      trimmedDict ((cutMetadata py limits (py.lower (Text.strip name)) metadata).set
        "content_transform" (.dict notes))

theorem exists_transformedContent {text : String} (hne : Text.trim text ≠ "")
    (hlength : (Text.trim text).toList.length ≤ 100000) (metadata : Dict String JSONValue) :
    ∃ result, transformedContent text metadata = .ok result ∧
      result.fields = ⟨Text.trim text, trimmedDict metadata⟩ := by
  have hpositive : 1 ≤ (Text.trim text).toList.length :=
    Nat.one_le_iff_ne_zero.mpr fun hzero =>
      hne (String.toList_eq_nil_iff.mp (List.length_eq_zero_iff.mp hzero))
  have hvalid : ∀ c ∈ TransformedFields.checks ⟨Text.trim text, trimmedDict metadata⟩,
      c.2 = true := by
    intro c hc
    unfold TransformedFields.checks hasLength at hc
    rw [List.mem_singleton] at hc
    rw [hc, Bool.and_eq_true, decide_eq_true_eq, decide_eq_true_eq]
    exact ⟨hpositive, hlength⟩
  exact ⟨_, Validated.make_of_valid _ _ hvalid, rfl⟩

theorem exists_transforms (hplatform : normalizePlatform py platform = .ok name)
    (hlimits : transformer.limitsFor py name = .ok limits)
    (hcontent : Text.trim (String.ofList (truncated content.toList limits.maxTextLength)) ≠ "")
    (hlength : (Text.trim (String.ofList
      (truncated content.toList limits.maxTextLength))).toList.length ≤ limits.maxTextLength)
    (metadata : Dict String JSONValue) :
    ∃ result, transformer.transform py platform content metadata = .ok result ∧
      Transforms py limits name content metadata result := by
  have htext : smartTruncate content limits.maxTextLength =
      .ok (String.ofList (truncated content.toList limits.maxTextLength)) :=
    if_neg (not_lt.mpr limits.text_mem.1)
  obtain ⟨result, hresult, hfields⟩ := exists_transformedContent hcontent
    (hlength.trans limits.text_mem.2) ((cutMetadata py limits (py.lower (Text.strip name))
    metadata).set "content_transform" (.dict (contentTransform name content
      (String.ofList (truncated content.toList limits.maxTextLength))
      (itemsOf (foundMedia metadata (py.lower (Text.strip name))))
      (limitMediaItems py limits
        (itemsOf (foundMedia metadata (py.lower (Text.strip name))))))))
  refine ⟨result, ?_, by rw [hfields], _, contentTransform_keys _ _ _ _ _,
    congrArg TransformedFields.metadata hfields⟩
  unfold PlatformContentTransformer.transform
  simp only [hplatform, hlimits, htext, bind, Except.bind, mediaItemsFromMetadata_eq]
  exact hresult

/-- INTERNAL: what is within the limit is not cut, and stays as it is. -/
theorem trim_truncated_of_fits {text : String} {maxLength : ℕ} (htrim : Text.trim text = text)
    (hfits : text.toList.length ≤ maxLength) :
    Text.trim (String.ofList (truncated text.toList maxLength)) = text := by
  rw [truncated, if_pos hfits, String.ofList_toList, htrim]

end Transformations

/-! ## Twice -/

section Again

variable {py : Stdlib} {metadata : Dict String JSONValue} {limits : PlatformContentLimits}
  {key : String} {notes : JSONObject}

theorem plainTop_cutMetadata (h : PlainTop metadata) :
    PlainTop (cutMetadata py limits key metadata) := by
  unfold cutMetadata
  split
  · exact h.set (by decide) _
  · exact h

/-- The metadata that `transform` leaves. -/
def leftMetadata (py : Stdlib) (limits : PlatformContentLimits) (key : String)
    (notes : JSONObject) (metadata : Dict String JSONValue) : Dict String JSONValue :=
  trimmedDict ((cutMetadata py limits key metadata).set "content_transform" (.dict notes))

theorem get?_leftMetadata (h : PlainTop metadata) (name : String) :
    (leftMetadata py limits key notes metadata).get? name =
      (if name = "content_transform" then some (.dict notes)
        else (cutMetadata py limits key metadata).get? name).map trimmed := by
  have hplain : PlainTop ((cutMetadata py limits key metadata).set "content_transform"
      (.dict notes)) := (plainTop_cutMetadata h).set (by decide) _
  rw [leftMetadata, get?_trimmedDict hplain, Dict.get?_set]

theorem get?_media_leftMetadata (h : PlainTop metadata) :
    (leftMetadata py limits key notes metadata).get? "media" =
      ((cutMetadata py limits key metadata).get? "media").map trimmed := by
  rw [get?_leftMetadata h, if_neg (by decide)]

theorem trimmed_dicts (media : List JSONObject) :
    trimmed (.list (media.map .dict)) = .list ((media.map trimmedObject).map .dict) := by
  rw [trimmed, trimmedItems_eq_map, List.map_map, List.map_map]
  exact congrArg JSONValue.list (List.map_congr_left fun item _ => trimmed_dict item)

/-- INTERNAL: the media that are left where there is a list of them, or a key for it. -/
theorem get?_media_of_cut (h : PlainTop metadata)
    (hcut : itemsOf (foundMedia metadata key) ≠ [] ∨ metadata.contains "media" = true) :
    (leftMetadata py limits key notes metadata).get? "media" =
      some (.list (((limitMediaItems py limits (itemsOf (foundMedia metadata key))).map
        trimmedObject).map .dict)) := by
  rw [get?_media_leftMetadata h, cutMetadata, if_pos hcut, Dict.get?_set_self, Option.map_some,
    trimmed_dicts]

theorem get?_media_of_not_cut (h : PlainTop metadata)
    (hcut : ¬ (itemsOf (foundMedia metadata key) ≠ [] ∨ metadata.contains "media" = true)) :
    (leftMetadata py limits key notes metadata).get? "media" = none := by
  have hnone : metadata.get? "media" = none := by
    rw [not_or] at hcut
    exact Option.isNone_iff_eq_none.mp (by simpa [Dict.contains] using hcut.2)
  rw [get?_media_leftMetadata h, cutMetadata, if_neg hcut, hnone, Option.map_none]

/-- INTERNAL: where no media were found, none are found later. -/
theorem itemsOf_foundMedia_of_not_cut (h : PlainMedia metadata key)
    (hnotes : ∀ p ∈ notes, Text.trim p.1 = p.1 ∧ p.1 ≠ "media")
    (hcut : ¬ (itemsOf (foundMedia metadata key) ≠ [] ∨ metadata.contains "media" = true)) :
    itemsOf (foundMedia (leftMetadata py limits key notes metadata) key) = [] := by
  have htop := h.top
  have hmedia := @get?_media_of_not_cut py metadata limits key notes htop hcut
  unfold foundMedia
  rw [hmedia, get?_leftMetadata htop]
  show itemsOf (Option.bind _ _) = []
  split
  · have hplain : ∀ p ∈ notes, Text.trim p.1 = p.1 := fun p hp => (hnotes p hp).1
    rw [Option.map_some, trimmed_dict]
    show itemsOf ((Dict.ofList (trimmedObject notes)).get? "media") = []
    rw [get?_trimmedObject hplain, get?_media_of_ne fun p hp => (hnotes p hp).2]
    rfl
  · have hsame : cutMetadata py limits key metadata = metadata := if_neg hcut
    rw [hsame, asDict_trimmed h.platform, itemsOf_trimmed, List.map_eq_nil_iff]
    have hnone : metadata.get? "media" = none := by
      rw [not_or] at hcut
      exact Option.isNone_iff_eq_none.mp (by simpa [Dict.contains] using hcut.2)
    rw [not_or, not_not] at hcut
    have hitems := hcut.1
    unfold foundMedia at hitems
    rw [hnone] at hitems
    exact hitems

/-- INTERNAL: the media that are left are left again. -/
theorem get?_media_again (h : PlainMedia metadata key)
    (hnotes : ∀ p ∈ notes, Text.trim p.1 = p.1 ∧ p.1 ≠ "media") (notes' : JSONObject) :
    (leftMetadata py limits key notes' (leftMetadata py limits key notes metadata)).get?
        "media" =
      (leftMetadata py limits key notes metadata).get? "media" := by
  have htop := h.top
  have hleft : PlainTop (leftMetadata py limits key notes metadata) := plainTop_trimmedDict _
  by_cases hcut : itemsOf (foundMedia metadata key) ≠ [] ∨ metadata.contains "media" = true
  · let media := limitMediaItems py limits (itemsOf (foundMedia metadata key))
    have hmedia : (leftMetadata py limits key notes metadata).get? "media" =
        some (.list ((media.map trimmedObject).map .dict)) := get?_media_of_cut htop hcut
    have hvalue : foundMedia (leftMetadata py limits key notes metadata) key =
        some (.list ((media.map trimmedObject).map .dict)) := by
      unfold foundMedia
      rw [hmedia]
      rfl
    have hagain : limitMediaItems py limits (media.map trimmedObject) =
        media.map trimmedObject := by
      rw [limitMediaItems_map, limitMediaItems_limitMediaItems]
      intro item hitem
      have hmem := (withinLimits_limitMediaItems _).sublist.subset hitem
      exact isLinkMedia_trimmedObject (h.items item hmem)
    have hcontains : (leftMetadata py limits key notes metadata).contains "media" = true := by
      unfold Dict.contains
      rw [hmedia]
      rfl
    have htwice : (media.map trimmedObject).map trimmedObject = media.map trimmedObject := by
      rw [List.map_map]
      exact List.map_congr_left fun item _ => trimmedObject_trimmedObject item
    rw [get?_media_of_cut hleft (.inr hcontains), hvalue, itemsOf_dicts, hagain, hmedia, htwice]
  · have hmedia := @get?_media_of_not_cut py metadata limits key notes htop hcut
    rw [hmedia]
    refine get?_media_of_not_cut hleft ?_
    rw [itemsOf_foundMedia_of_not_cut h hnotes hcut]
    unfold Dict.contains
    rw [hmedia]
    simp

end Again

/-! ## The limits -/

section Limits

variable {py : Stdlib} {transformer : PlatformContentTransformer} {platform content : String}
  {metadata : Dict String JSONValue} {name : String} {limits : PlatformContentLimits}

/-- The media of transformed metadata, none where there is no key for them. -/
def HasMedia (metadata : Dict String JSONValue) (media : List JSONObject) : Prop :=
  metadata.get? "media" = some (.list (media.map .dict)) ∨
    metadata.get? "media" = none ∧ media = []

/-- A text within the limit, cut or not, that stays as it is when it is transformed again. -/
structure KeepsText (limits : PlatformContentLimits) (content : String)
    (result again : TransformedContent) : Prop where
  length : result.fields.content.toList.length ≤ limits.maxTextLength
  isCut : IsCutOf content limits.maxTextLength result.fields.content
  stable : again.fields.content = result.fields.content

/-- Media within the limits, without white space around their texts, that stay as they are when
they are transformed again. -/
structure KeepsMedia (py : Stdlib) (limits : PlatformContentLimits) (items : List JSONObject)
    (result again : TransformedContent) : Prop where
  within : ∃ media, HasMedia result.fields.metadata media ∧
    WithinLimits py limits (items.map trimmedObject) media
  stable : again.fields.metadata.get? "media" = result.fields.metadata.get? "media"

/-- For every platform that is not blank, its limits, every content that is not empty and not
padded and all metadata: the content is cut to its limit and is not cut twice, and so are the
media, if no key that decides them is padded. -/
theorem transform_keeps_limits (hplatform : normalizePlatform py platform = .ok name)
    (hlimits : transformer.limitsFor py name = .ok limits) (hne : content ≠ "")
    (hstrip : Text.strip content = content) (metadata : Dict String JSONValue) :
    ∃ result again, transformer.transform py platform content metadata = .ok result ∧
      transformer.transform py platform result.fields.content result.fields.metadata =
        .ok again ∧
      KeepsText limits content result again ∧
      (PlainMedia metadata (py.lower (Text.strip name)) →
        KeepsMedia py limits (mediaItemsFromMetadata py metadata name) result again) := by
  obtain ⟨hcut, hnonempty, hlength⟩ := trim_truncated hstrip hne limits.text_mem.1
  obtain ⟨result, hresult, hcontent, notes, hnotes, hmetadata⟩ :=
    exists_transforms hplatform hlimits hnonempty hlength metadata
  rw [← hcontent] at hcut hnonempty hlength
  have htrim : Text.trim result.fields.content = result.fields.content := by
    rw [hcontent]
    exact Text.dropBoth_dropBoth _ _
  have hsame := trim_truncated_of_fits htrim hlength
  obtain ⟨again, hagain, hcontent', notes', hnotes', hmetadata'⟩ :=
    exists_transforms hplatform hlimits (by rw [hsame]; exact hnonempty)
      (by rw [hsame]; exact hlength) result.fields.metadata
  refine ⟨result, again, hresult, hagain, ⟨hlength, hcut, hcontent'.trans hsame⟩, ?_⟩
  intro hplain
  have htop := hplain.top
  let key := py.lower (Text.strip name)
  have hleft : result.fields.metadata = leftMetadata py limits key notes metadata := hmetadata
  constructor
  · rw [hleft]
    by_cases hany : itemsOf (foundMedia metadata key) ≠ [] ∨ metadata.contains "media" = true
    · refine ⟨_, .inl (get?_media_of_cut htop hany), ?_⟩
      exact (withinLimits_limitMediaItems _).map_trimmed hplain.items
    · exact ⟨[], .inr ⟨get?_media_of_not_cut htop hany, rfl⟩,
        List.nil_sublist _, Nat.zero_le _, Nat.zero_le _⟩
  · have hleft' : again.fields.metadata = leftMetadata py limits key notes'
        (leftMetadata py limits key notes metadata) := by
      rw [hmetadata', hleft]
      rfl
    rw [hleft', hleft]
    exact get?_media_again hplain hnotes notes'

end Limits

/-! ## Three publications -/

namespace ContentSample

theorem oneLink_le : 1 ≤ 20 := by decide

/-- Eight characters, one item and one link. -/
def limits : PlatformContentLimits := ⟨8, 1, 1, by decide, by decide, oneLink_le⟩

def transformer : PlatformContentTransformer := ⟨Dict.empty, limits⟩

/-- Two links. -/
def links : Dict String JSONValue := Dict.ofList [("media", .list [.str "a", .str "b"])]

/-- A photo with a padded caption. -/
def photo : JSONObject := [("type", .str "photo"), ("caption", .str " hi ")]

def captioned : Dict String JSONValue := Dict.ofList [("media", .list [.dict photo])]

/-- Two photos under a padded key. -/
def padded : Dict String JSONValue := Dict.ofList [(" media", .list [.dict photo, .dict photo])]

theorem normalizePlatform_vk : normalizePlatform Reference.stdlib "vk" = .ok "vk" := by
  decide

theorem lower_vk : Reference.stdlib.lower (Text.strip "vk") = "vk" := by decide

open Reference in
/-- INTERNAL: the metadata of a transformation of a short text. -/
theorem metadata_of_transform {metadata : Dict String JSONValue} {result : TransformedContent}
    (h : transformer.transform stdlib "vk" "text" metadata = .ok result) :
    ∃ notes, result.fields.metadata =
      leftMetadata stdlib limits "vk" notes metadata := by
  have htext : Text.strip "text" = "text" := by decide
  obtain ⟨_, hnonempty, hlength⟩ := @trim_truncated "text" limits.maxTextLength htext
    (by decide) limits.text_mem.1
  obtain ⟨result', hresult, _, notes, _, hmetadata⟩ :=
    @exists_transforms stdlib transformer "vk" "text" "vk" limits
      normalizePlatform_vk rfl hnonempty hlength metadata
  rw [h] at hresult
  cases hresult
  rw [lower_vk] at hmetadata
  exact ⟨notes, hmetadata⟩

theorem plain_photo : ∀ p ∈ photo, Text.trim p.1 = p.1 := by
  have hkeys : ∀ key ∈ photo.map Prod.fst, Text.trim key = key := by decide
  exact fun p hp => hkeys p.1 (List.mem_map_of_mem hp)

open Reference in
/-- INTERNAL: the photo is kept, and its caption is stripped. -/
theorem get?_media_captioned (notes : JSONObject) :
    (leftMetadata stdlib limits "vk" notes captioned).get? "media" =
      some (.list [.dict (trimmedObject photo)]) := by
  have htop : PlainTop captioned := by
    have hkey : Text.trim "media" = "media" := by decide
    intro p hp
    rw [show captioned.entries = [("media", .list [.dict photo])] from rfl,
      List.mem_singleton] at hp
    rw [hp]
    exact hkey
  have hlink : isLinkMedia stdlib photo = false := by decide
  have hlimited : limitMediaItems stdlib limits [photo] = [photo] := by
    rw [limitMediaItems, if_neg (by decide), selectMedia, hlink]
    rfl
  have hitems : itemsOf (foundMedia captioned "vk") = [photo] := rfl
  rw [get?_media_of_cut htop (.inr rfl), hitems, hlimited]
  rfl

/-- INTERNAL: no media are found before the key is stripped. -/
theorem get?_media_padded (notes : JSONObject) :
    (leftMetadata Reference.stdlib limits "vk" notes padded).get? "media" =
      some (.list [.dict (trimmedObject photo), .dict (trimmedObject photo)]) := by
  have hsame : cutMetadata Reference.stdlib limits "vk" padded = padded := rfl
  have hentries : (padded.set "content_transform" (.dict notes)).entries =
      [(" media", .list [.dict photo, .dict photo]), ("content_transform", .dict notes)] := rfl
  have hkey : Text.trim " media" = "media" := by decide
  have hnotes : Text.trim "content_transform" = "content_transform" := by decide
  rw [leftMetadata, hsame, trimmedDict, hentries, trimmedPairs_eq_map]
  simp only [List.map_cons, List.map_nil, hkey, hnotes]
  rw [Dict.get?_ofList]
  show some (trimmed _) = _
  rw [trimmed, trimmedItems, trimmedItems, trimmedItems, trimmed_dict]

end ContentSample

open ContentSample Reference in
/-- A long text with two links. -/
theorem transform_keeps_limits_links : ∃ result again,
    transformer.transform stdlib "vk" "hello world" links = .ok result ∧
      transformer.transform stdlib "vk" result.fields.content
        result.fields.metadata = .ok again ∧
      KeepsText limits "hello world" result again ∧
      KeepsMedia stdlib limits
        (mediaItemsFromMetadata stdlib links "vk") result again := by
  have htext : Text.strip "hello world" = "hello world" := by decide
  obtain ⟨result, again, hresult, hagain, hkeeps, hmedia⟩ :=
    @transform_keeps_limits stdlib transformer "vk" "hello world" "vk" limits
      normalizePlatform_vk rfl (by decide) htext links
  refine ⟨result, again, hresult, hagain, hkeeps, hmedia ⟨?_, ?_, ?_⟩⟩
  · have hkey : Text.trim "media" = "media" := by decide
    intro p hp
    rw [show links.entries = [("media", .list [.str "a", .str "b"])] from rfl,
      List.mem_singleton] at hp
    rw [hp]
    exact hkey
  · intro items hitems
    rw [lower_vk, show links.get? "vk" = none from rfl] at hitems
    cases hitems
  · have hkeys : ∀ item ∈ itemsOf (foundMedia links "vk"), ∀ key ∈ item.map Prod.fst,
        Text.trim key = key := by decide
    rw [lower_vk]
    exact fun item hitem p hp => hkeys item hitem p.1 (List.mem_map_of_mem hp)

open ContentSample in
/-- A caption is stripped, so the item is none of the input's; and a padded key becomes the key of
the media behind the limit. -/
theorem not_transform_keeps_limits :
    (∀ result, transformer.transform Reference.stdlib "vk" "text" captioned = .ok result →
      ¬ ∃ media, HasMedia result.fields.metadata media ∧ WithinLimits Reference.stdlib limits
        (mediaItemsFromMetadata Reference.stdlib captioned "vk") media) ∧
    ∀ result, transformer.transform Reference.stdlib "vk" "text" padded = .ok result →
      ¬ ∃ media, HasMedia result.fields.metadata media ∧ WithinLimits Reference.stdlib limits
        (mediaItemsFromMetadata Reference.stdlib padded "vk") media := by
  constructor
  · intro result hresult
    obtain ⟨notes, hmetadata⟩ := metadata_of_transform hresult
    rintro ⟨media, hmedia, hsublist, _, _⟩
    rw [hmetadata] at hmedia
    have hleft := get?_media_captioned notes
    have hone : media = [trimmedObject photo] := by
      rcases hmedia with hmedia | ⟨hmedia, _⟩
      · rw [hleft, Option.some.injEq, JSONValue.list.injEq] at hmedia
        have hmap : ([trimmedObject photo].map JSONValue.dict) = media.map JSONValue.dict := hmedia
        exact (List.map_injective_iff.mpr (fun _ _ h => JSONValue.dict.inj h) hmap).symm
      · rw [hleft] at hmedia
        cases hmedia
    rw [hone, show mediaItemsFromMetadata Reference.stdlib captioned "vk" = [photo] from rfl,
      List.singleton_sublist, List.mem_singleton] at hsublist
    have hcaption := get?_trimmedObject plain_photo "caption"
    rw [hsublist] at hcaption
    have htrim : Text.trim " hi " ≠ " hi " := by decide
    exact htrim (JSONValue.str.inj (Option.some.inj hcaption)).symm
  · intro result hresult
    obtain ⟨notes, hmetadata⟩ := metadata_of_transform hresult
    rintro ⟨media, hmedia, _, hlength, _⟩
    rw [hmetadata] at hmedia
    have hleft := get?_media_padded notes
    rcases hmedia with hmedia | ⟨hmedia, _⟩
    · rw [hleft, Option.some.injEq, JSONValue.list.injEq] at hmedia
      have htwo := congrArg List.length hmedia
      rw [List.length_map] at htwo
      rw [← htwo] at hlength
      exact absurd hlength (by decide)
    · rw [hleft] at hmedia
      cases hmedia

end MediaCenter.MessengerAdapter
