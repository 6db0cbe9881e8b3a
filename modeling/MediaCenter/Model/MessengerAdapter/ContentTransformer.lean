import MediaCenter.Library.Binary64
import MediaCenter.Model.MessengerAdapter.Publications

/-!
# Content of a platform (`messenger_adapter/content_transformer.py`)

A text is cut at a word and the media are cut to a number, before a publication goes to its
platform.  A contract strips the texts and the keys of the metadata, at any depth.
-/

set_option autoImplicit false

namespace MediaCenter.MessengerAdapter

open MediaCenter.Library MediaCenter.Shared

structure PlatformContentLimits where
  maxTextLength : ℕ
  maxMediaItems : ℕ
  maxLinkItems : ℕ
  text_mem : 1 ≤ maxTextLength ∧ maxTextLength ≤ 100000
  media_le : maxMediaItems ≤ 100
  links_le : maxLinkItems ≤ 20

/-! ## JSON in a contract -/

mutual

/-- A value as a contract keeps it (`str_strip_whitespace`); of two keys that become the same the
later value stays. -/
def trimmed : JSONValue → JSONValue
  | .null => .null
  | .bool b => .bool b
  | .int n => .int n
  | .float x => .float x
  | .str s => .str (Text.trim s)
  | .list items => .list (trimmedItems items)
  | .dict items => .dict (Dict.ofList (trimmedPairs items)).entries

def trimmedItems : List JSONValue → List JSONValue
  | [] => []
  | v :: vs => trimmed v :: trimmedItems vs

def trimmedPairs : JSONObject → JSONObject
  | [] => []
  | (k, v) :: rest => (Text.trim k, trimmed v) :: trimmedPairs rest

end

def trimmedObject (items : JSONObject) : JSONObject := (Dict.ofList (trimmedPairs items)).entries

def trimmedDict (metadata : Dict String JSONValue) : Dict String JSONValue :=
  Dict.ofList (trimmedPairs metadata.entries)

/-! ## Limits -/

structure TransformedFields where
  content : String
  metadata : Dict String JSONValue

def TransformedFields.checks (f : TransformedFields) : List (String × Bool) :=
  [("content", hasLength 1 100000 f.content)]

abbrev TransformedContent : Type := Validated TransformedFields.checks

/-- `TransformedContent(content=content, metadata=metadata)`. -/
def transformedContent (content : String) (metadata : Dict String JSONValue) :
    Except SharedException TransformedContent :=
  Validated.make "TransformedContent" TransformedFields.checks
    ⟨Text.trim content, trimmedDict metadata⟩

/-- `_normalize_platform`. -/
def normalizePlatform (py : Stdlib) (platform : String) : Except SharedException String :=
  if py.lower (Text.strip platform) = "" then
    .error (.valueError "platform не может быть пустой")
  else .ok (py.lower (Text.strip platform))

/-- `DEFAULT_PLATFORM_LIMITS`. -/
def defaultPlatformLimits : Dict String PlatformContentLimits :=
  Dict.ofList
    [("telegram", ⟨4096, 10, 1, by decide, by decide, by decide⟩),
      ("vk", ⟨16384, 10, 1, by decide, by decide, by decide⟩),
      ("dzen", ⟨1500, 10, 1, by decide, by decide, by decide⟩),
      ("ok", ⟨4000, 10, 1, by decide, by decide, by decide⟩),
      ("rutube", ⟨5000, 5, 1, by decide, by decide, by decide⟩),
      ("vc", ⟨8000, 8, 1, by decide, by decide, by decide⟩),
      ("pikabu", ⟨8000, 10, 1, by decide, by decide, by decide⟩),
      ("habr", ⟨8000, 3, 1, by decide, by decide, by decide⟩),
      ("tenchat", ⟨7000, 10, 1, by decide, by decide, by decide⟩),
      ("livejournal", ⟨12000, 20, 1, by decide, by decide, by decide⟩)]

structure PlatformContentTransformer where
  limitsByPlatform : Dict String PlatformContentLimits := defaultPlatformLimits
  defaultLimits : PlatformContentLimits := ⟨100000, 100, 20, by decide, by decide, by decide⟩

/-- `_limits_for`. -/
def PlatformContentTransformer.limitsFor (py : Stdlib) (transformer : PlatformContentTransformer)
    (platform : String) : Except SharedException PlatformContentLimits := do
  let normalizedLimits ← transformer.limitsByPlatform.entries.mapM fun e => do
    let name ← normalizePlatform py e.1
    return (name, e.2)
  return ((Dict.ofList normalizedLimits).get? platform).getD transformer.defaultLimits

/-! ## Text -/

/-- `text.rfind(c)`. -/
def rfind (c : Char) (text : List Char) : ℤ :=
  match text.reverse.findIdx? fun x => x == c with
  | some i => text.length - 1 - i
  | none => -1

/-- `0.6` as a `float`. -/
def boundaryShare : ℚ := 5404319552844595 / 9007199254740992

/-- `int(available_length * 0.6)`. -/
def boundaryFloor (availableLength : ℕ) : ℤ :=
  ⌊(Binary64.nearest (availableLength * boundaryShare)).getD 0⌋

/-- `smart_truncate`, of a text by its characters and of a length that is not 0. -/
def truncated (content : List Char) (maxLength : ℕ) : List Char :=
  if content.length ≤ maxLength then content
  else if maxLength ≤ 3 then content.take maxLength
  else
    let availableLength := maxLength - 3
    let candidate := (content.take availableLength).rdropWhile Text.isSpace
    let boundary := max (max (rfind ' ' candidate) (rfind '\n' candidate)) (rfind '\t' candidate)
    let candidate :=
      if max 1 (boundaryFloor availableLength) ≤ boundary then
        (candidate.take boundary.toNat).rdropWhile Text.isSpace
      else candidate
    let candidate := if candidate = [] then content.take availableLength else candidate
    candidate ++ ['.', '.', '.']

def smartTruncate (content : String) (maxLength : ℕ) : Except SharedException String :=
  if maxLength < 1 then .error (.valueError "max_length должен быть больше 0")
  else .ok (String.ofList (truncated content.toList maxLength))

/-! ## Media -/

/-- `_is_link_media`. -/
def isLinkMedia (py : Stdlib) (item : JSONObject) : Bool :=
  let item := Dict.ofList item
  match item.get? "type" with
  | some (.str mediaType) =>
      decide (py.lower (Text.strip mediaType) ∈ ["link", "url"])
  | some _ => false
  | none => item.contains "url"

/-- The loop of `limit_media_items`, with what was selected before and how many links. -/
def selectMedia (py : Stdlib) (limits : PlatformContentLimits) :
    List JSONObject → ℕ → ℕ → List JSONObject
  | [], _, _ => []
  | item :: rest, selected, linkCount =>
      if isLinkMedia py item = true then
        if limits.maxLinkItems ≤ linkCount then selectMedia py limits rest selected linkCount
        else
          item :: if limits.maxMediaItems ≤ selected + 1 then []
            else selectMedia py limits rest (selected + 1) (linkCount + 1)
      else
        item :: if limits.maxMediaItems ≤ selected + 1 then []
          else selectMedia py limits rest (selected + 1) linkCount

/-- `limit_media_items`. -/
def limitMediaItems (py : Stdlib) (limits : PlatformContentLimits) (items : List JSONObject) :
    List JSONObject :=
  if limits.maxMediaItems = 0 then [] else selectMedia py limits items 0 0

/-- What `transform` notes under `content_transform`. -/
def contentTransform (platform content transformed : String)
    (mediaItems transformedMedia : List JSONObject) : JSONObject :=
  [("platform", .str platform),
    ("text_truncated", .bool (decide (transformed ≠ content))),
    ("media_truncated", .bool (decide (transformedMedia.length ≠ mediaItems.length))),
    ("original_text_length", .int content.toList.length),
    ("transformed_text_length", .int transformed.toList.length),
    ("original_media_count", .int mediaItems.length),
    ("transformed_media_count", .int transformedMedia.length)]

/-- `PlatformContentTransformer.transform`; `json.loads(json.dumps(metadata))` is the metadata. -/
def PlatformContentTransformer.transform (py : Stdlib) (transformer : PlatformContentTransformer)
    (platform content : String) (metadata : Dict String JSONValue) :
    Except SharedException TransformedContent := do
  let normalizedPlatform ← normalizePlatform py platform
  let limits ← transformer.limitsFor py normalizedPlatform
  let transformed ← smartTruncate content limits.maxTextLength
  let mediaItems := mediaItemsFromMetadata py metadata normalizedPlatform
  let transformedMedia := limitMediaItems py limits mediaItems
  let transformedMetadata :=
    if mediaItems ≠ [] ∨ metadata.contains "media" = true then
      metadata.set "media" (.list (transformedMedia.map .dict))
    else metadata
  transformedContent transformed (transformedMetadata.set "content_transform"
    (.dict (contentTransform normalizedPlatform content transformed mediaItems transformedMedia)))

end MediaCenter.MessengerAdapter
