import MediaCenter.Library.Dict
import MediaCenter.Model.Shared.Json

/-!
# Publications (`messenger_adapter/base_adapter.py` and `content_transformer.py`)

The names of the platforms, and the media of a publication.  An object of the metadata is a
dictionary at the top level and a JSON value below it.
-/

set_option autoImplicit false

namespace MediaCenter.MessengerAdapter

open MediaCenter.Library MediaCenter.Shared

/-- `^[a-z][a-z0-9_-]{1,63}$`, of 2 to 64 characters (`_PLATFORM_PATTERN`). -/
def platformPattern (s : String) : Bool :=
  Text.matchesHeadTail Text.isAsciiLower
    (fun c => Text.isAsciiLower c || Text.isAsciiDigit c || c == '_' || c == '-') 63 s &&
    hasLength 2 64 s

/-- `value is not None`. -/
def notNone : Option JSONValue → Option JSONValue
  | some .null => none
  | value => value

/-- An object as the dictionary it is. -/
def asDict : Option JSONValue → Option (Dict String JSONValue)
  | some (.dict items) => some (Dict.ofList items)
  | _ => none

/-- `_normalize_media_item`. -/
def normalizeMediaItem : JSONValue → Option JSONObject
  | .str s =>
      if Text.strip s = "" then none
      else some [("type", .str "link"), ("url", .str (Text.strip s))]
  | .dict items => some items
  | _ => none

/-- `media_items_from_metadata`: the media named for all platforms, else those named for this
one. -/
def mediaItemsFromMetadata (py : Stdlib) (metadata : Dict String JSONValue) (platform : String) :
    List JSONObject :=
  let ofPlatform := (asDict (metadata.get? (py.lower (Text.strip platform)))).bind fun items =>
    items.get? "media"
  match (notNone (metadata.get? "media")).or ofPlatform with
  | some (.list items) => items.filterMap normalizeMediaItem
  | _ => []

end MediaCenter.MessengerAdapter
