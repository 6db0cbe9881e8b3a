import MediaCenter.Model.Shared.Models

/-!
# Metadata redaction (`hitl_payout_gateway/audit_redaction.py`)
-/

set_option autoImplicit false

namespace MediaCenter.HitlPayout

open MediaCenter.Library MediaCenter.Shared

/-- `_SENSITIVE_METADATA_KEYS`. -/
def sensitiveMetadataKeys : List String :=
  ["access_token", "amount", "amount_mcv", "amount_minor", "amount_rub", "api_key",
    "bank_account", "card", "card_number", "email", "pan", "password", "payout_amount",
    "phone", "raw_content", "recipient", "recipient_id", "recipient_token",
    "refresh_token", "secret", "source_content", "token", "transcript", "voice"]

/-- `_is_sensitive_metadata_key`. -/
def isSensitiveMetadataKey (normalizedKey : String) : Bool :=
  sensitiveMetadataKeys.contains normalizedKey ||
    ["_token", "_secret", "_password", "_email"].any fun ending =>
      ending.toList.isSuffixOf normalizedKey.toList

/-- `key.strip().lower()`. -/
def normalizeKey (py : Stdlib) (key : String) : String := py.lower (Text.strip key)

/-- `object.get(key)`. -/
def objectGet? (object : JSONObject) (key : String) : Option JSONValue :=
  (object.find? fun e => e.1 = key).map Prod.snd

/-- `object[key] = value`. -/
def objectSet (object : JSONObject) (key : String) (value : JSONValue) : JSONObject :=
  if object.any fun e => e.1 = key then
    object.map fun e => if e.1 = key then (key, value) else e
  else object ++ [(key, value)]

/-- `_string_value`. -/
def stringValue : Option JSONValue → Option String
  | some (.str s) => if Text.strip s = "" then none else some (Text.strip s)
  | _ => none

/-- `_payment_metadata_summary`. -/
def paymentMetadataSummary (payment : JSONObject) : JSONObject :=
  let optional (key : String) : JSONObject :=
    match stringValue (objectGet? payment key) with
    | some s => [(key, .str s)]
    | none => []
  [("present", .bool true)] ++ optional "currency" ++ optional "rails"

/-- The number of entries `audit_safe_metadata` drops at this level. -/
def redactedCount (py : Stdlib) (metadata : JSONObject) : ℕ :=
  metadata.countP fun e => isSensitiveMetadataKey (normalizeKey py e.1)

def withRedactedCount (count : ℕ) (safe : JSONObject) : JSONObject :=
  if count > 0 then objectSet safe "redacted_metadata_fields" (.int count) else safe

mutual

/-- The entries `audit_safe_metadata` keeps. -/
def safeEntries (py : Stdlib) : JSONObject → JSONObject
  | [] => []
  | (key, .dict payment) :: rest =>
      if normalizeKey py key = "payment" then
        (key, .dict (paymentMetadataSummary payment)) :: safeEntries py rest
      else if isSensitiveMetadataKey (normalizeKey py key) then safeEntries py rest
      else
        (key, .dict (withRedactedCount (redactedCount py payment) (safeEntries py payment)))
          :: safeEntries py rest
  | (key, value) :: rest =>
      if isSensitiveMetadataKey (normalizeKey py key) then safeEntries py rest
      else (key, auditSafeMetadataValue py value) :: safeEntries py rest

/-- `_audit_safe_metadata_value`. -/
def auditSafeMetadataValue (py : Stdlib) : JSONValue → JSONValue
  | .dict items =>
      .dict (withRedactedCount (redactedCount py items) (safeEntries py items))
  | .list items => .list (auditSafeItems py items)
  | value => value

def auditSafeItems (py : Stdlib) : List JSONValue → List JSONValue
  | [] => []
  | item :: items => auditSafeMetadataValue py item :: auditSafeItems py items

end

def auditSafeMetadata (py : Stdlib) (metadata : JSONObject) : JSONObject :=
  withRedactedCount (redactedCount py metadata) (safeEntries py metadata)

end MediaCenter.HitlPayout
