import MediaCenter.Model.BlockchainAuditor.Connector
import MediaCenter.Model.Shared.Json
import MediaCenter.Model.Shared.Tenant

/-!
# The connector and its metadata policy (`blockchain_auditor/connector.py`)

What the connector hands to the transport: commands of the Council for the tenant of the caller,
whose metadata names nothing personal.
-/

set_option autoImplicit false

namespace MediaCenter.BlockchainAuditor

open MediaCenter.Library MediaCenter.Shared

/-! ## Metadata -/

/-- `_FORBIDDEN_METADATA_KEYS`. -/
def forbiddenMetadataKeys : List String :=
  ["access_token", "amount", "amount_rub", "content", "email", "full_name", "member_id",
    "password", "payout_amount", "payout_share", "phone", "raw_content", "recipient_id",
    "refresh_token", "secret", "text", "token", "transcript", "voice"]

section Metadata

variable (py : Stdlib)

/-- `_normalize_metadata_key`. -/
def normalizeMetadataKey (value : String) : String :=
  (py.lower (Text.strip value)).map fun c => if c = '-' then '_' else c

mutual

/-- `_find_forbidden_metadata_key`: the path of the first forbidden key. -/
def findForbiddenMetadataKey (path : String) : JSONValue → Option String
  | .dict items => findForbiddenInItems path items
  | .list items => findForbiddenInList path 0 items
  | .null => none
  | .bool _ => none
  | .int _ => none
  | .float _ => none
  | .str _ => none

def findForbiddenInItems (path : String) : JSONObject → Option String
  | [] => none
  | (key, item) :: rest =>
      let childPath := path ++ "." ++ key
      if normalizeMetadataKey py key ∈ forbiddenMetadataKeys then some childPath
      else match findForbiddenMetadataKey childPath item with
        | some nestedPath => some nestedPath
        | none => findForbiddenInItems path rest

def findForbiddenInList (path : String) (index : ℕ) : List JSONValue → Option String
  | [] => none
  | item :: rest =>
      match findForbiddenMetadataKey (path ++ "[" ++ toString index ++ "]") item with
      | some nestedPath => some nestedPath
      | none => findForbiddenInList path (index + 1) rest

end

/-- `_clone_metadata`: `json.loads(json.dumps(dict(metadata), sort_keys=True))` is the same object
with the keys of every object in order. -/
def cloneMetadata (metadata : JSONObject) : JSONObject :=
  sortKeys (JSONValue.sortedPairs metadata)

end Metadata

/-! ## Access (`blockchain_auditor/access_controller.py`) -/

section Connector

variable (py : Stdlib)

end Connector

end MediaCenter.BlockchainAuditor
