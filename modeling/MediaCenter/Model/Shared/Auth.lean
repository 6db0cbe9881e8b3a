import MediaCenter.Library.Binary64
import MediaCenter.Model.Shared.Tenant

/-!
# Two-factor confirmation (`libs/shared/auth.py`, `TOTPService`)

The services build `TOTPService()` with its defaults: six digits, steps of 30 seconds, one
step of drift.  Bytes are numbers below 256.
-/

set_option autoImplicit false

namespace MediaCenter.Shared

open MediaCenter.Library

structure TwoFactorConfirmation where
  tenantId : String
  subject : Option String
  operation : String
  resourceId : String
  method : String
  confirmedAt : ℤ
  correlationId : Option String
  deriving DecidableEq

/-- The settings of a `TOTPService`. -/
structure TOTPService where
  stepSeconds : ℕ := 30
  digits : ℕ := 6
  allowedDriftSteps : ℕ := 1

/-- `_normalize_base32_secret`: upper case, without white space. -/
def normalizeBase32Secret (py : Stdlib) (secret : String) : String :=
  String.ofList ((py.upper secret).toList.filter fun c => !Text.isSpace c)

/-- The value of a base32 digit. -/
def base32Value (c : Char) : Option ℕ :=
  if Text.isAsciiUpper c = true then some (c.toNat - 65)
  else if '2' ≤ c ∧ c ≤ '7' then some (c.toNat - 24)
  else none

/-- The bits of the digits, most significant first. -/
def base32Bits (values : List ℕ) : List ℕ :=
  values.flatMap fun v => [v / 16 % 2, v / 8 % 2, v / 4 % 2, v / 2 % 2, v % 2]

/-- Bits in groups of eight; an incomplete group is dropped. -/
def bytesOfBits : List ℕ → List ℕ
  | b7 :: b6 :: b5 :: b4 :: b3 :: b2 :: b1 :: b0 :: rest =>
      (b7 * 128 + b6 * 64 + b5 * 32 + b4 * 16 + b3 * 8 + b2 * 4 + b1 * 2 + b0) ::
        bytesOfBits rest
  | _ => []

/-- `base64.b32decode` of a text that was padded to a multiple of eight characters: `=`
may stand at the end only, and one, three, four or six of them. -/
def b32decode (text : List Char) : Option (List ℕ) :=
  let digits := text.reverse.dropWhile (· == '=') |>.reverse
  let padding := text.length - digits.length
  if text.length % 8 ≠ 0 ∨ padding ∉ [0, 1, 3, 4, 6] then none
  else (digits.mapM base32Value).map fun values => bytesOfBits (base32Bits values)

/-- `_decode_totp_secret`. -/
def decodeTotpSecret (py : Stdlib) (secret : String) : Except SharedException (List ℕ) :=
  let normalized := (normalizeBase32Secret py secret).toList
  let padding := (8 - normalized.length % 8) % 8
  match b32decode (normalized ++ List.replicate padding '=') with
  | some key => .ok key
  | none => .error (.unauthorized "2FA secret имеет недопустимый base32" none)

/-- `counter.to_bytes(8, "big")`. -/
def counterBytes (counter : ℤ) : Except SharedException (List ℕ) :=
  if counter < 0 then .error (.overflowError "can't convert negative int to unsigned")
  else if counter < 2 ^ 64 then
    .ok ((List.range 8).map fun i => counter.toNat / 256 ^ (7 - i) % 256)
  else .error (.overflowError "int too big to convert")

/-- `str(n).zfill(width)`. -/
def zfill (width n : ℕ) : String :=
  let digits := Nat.toDigits 10 n
  String.ofList (List.replicate (width - digits.length) '0' ++ digits)

/-- The truncated number of an HMAC digest (RFC 4226, dynamic truncation). -/
def dynamicTruncation (digest : List ℕ) : ℕ :=
  let offset := digest.getLastD 0 % 16
  ((digest.drop offset).take 4).foldl (fun acc b => acc * 256 + b) 0 % 2 ^ 31

/-- `_hotp`. -/
def hotp (py : Stdlib) (secret : String) (counter : ℤ) (digits : ℕ) :
    Except SharedException String := do
  let key ← decodeTotpSecret py secret
  let message ← counterBytes counter
  return zfill digits (dynamicTruncation (py.hmacSha1 key message) % 10 ^ digits)

/-- `hmac.compare_digest` of two strings: only ASCII is supported. -/
def compareDigest (a b : String) : Except SharedException Bool :=
  if (a.toList ++ b.toList).all fun c => c.toNat < 128 then .ok (a = b)
  else .error (.typeError "comparing strings with non-ASCII characters is not supported")

namespace TOTPService

/-- `_counter` of a whole number of seconds. -/
def counter (service : TOTPService) (atTime : ℤ) : ℤ := atTime / service.stepSeconds

/-- `generate_totp` at a whole number of seconds. -/
def generateTotp (py : Stdlib) (service : TOTPService) (secret : String) (atTime : ℤ) :
    Except SharedException String :=
  hotp py secret (service.counter atTime) service.digits

/-- The drift loop of `verify_totp`: the first step whose code matches ends it. -/
def verifyDrift (py : Stdlib) (service : TOTPService) (secret normalizedCode : String)
    (counter : ℤ) : List ℤ → Except SharedException Bool
  | [] => .ok false
  | drift :: rest =>
      if counter + drift < 0 then verifyDrift py service secret normalizedCode counter rest
      else do
        let expected ← hotp py secret (counter + drift) service.digits
        if ← compareDigest expected normalizedCode then return true
        verifyDrift py service secret normalizedCode counter rest

/-- `range(-allowed_drift_steps, allowed_drift_steps + 1)`. -/
def drifts (service : TOTPService) : List ℤ :=
  (List.range (2 * service.allowedDriftSteps + 1)).map fun i =>
    (i : ℤ) - service.allowedDriftSteps

/-- `code.strip().replace(" ", "")`. -/
def normalizeCode (code : String) : String :=
  String.ofList ((Text.strip code).toList.filter fun c => c ≠ ' ')

def verifyTotp (py : Stdlib) (service : TOTPService) (secret code : String) (atTime : ℤ) :
    Except SharedException Bool :=
  let normalizedCode := normalizeCode code
  if normalizedCode.toList.length ≠ service.digits ∨
      ¬ normalizedCode.toList.all Text.isDigit = true then .ok false
  else
    verifyDrift py service secret normalizedCode (service.counter atTime) service.drifts

/-- A time in seconds, as `int` or as `float`. -/
inductive Seconds : Type where
  | int (n : ℤ)
  | float (x : ℚ)

def Seconds.value : Seconds → ℚ
  | .int n => n
  | .float x => x

/-- `_counter`: `timestamp // step_seconds` of two integers is exact. -/
def counterAt (service : TOTPService) : Seconds → Except SharedException ℤ
  | .int n => .ok (service.counter n)
  | .float x =>
      match Binary64.floorDiv x service.stepSeconds with
      | some counter => .ok counter
      | none => .error (.overflowError "int too large to convert to float")

/-- `verify_totp` at any time. -/
def verifyTotpAt (py : Stdlib) (service : TOTPService) (secret code : String)
    (atTime : Seconds) : Except SharedException Bool :=
  let normalizedCode := normalizeCode code
  if normalizedCode.toList.length ≠ service.digits ∨
      ¬ normalizedCode.toList.all Text.isDigit = true then .ok false
  else do
    let counter ← service.counterAt atTime
    verifyDrift py service secret normalizedCode counter service.drifts

/-- `confirm_sensitive_operation`; the clock is read in whole seconds. -/
def confirmSensitiveOperation (py : Stdlib) (service : TOTPService) (env : Ambient)
    (context : TenantContext) (secret code operation resourceId : String)
    (atTime : Option ℤ) : Except SharedException TwoFactorConfirmation := do
  let confirmedAt := atTime.getD (env.now / 1000000)
  if ← verifyTotp py service secret code confirmedAt then
    return { tenantId := context.tenantId
             subject := context.subject
             operation := operation
             resourceId := resourceId
             method := "totp"
             confirmedAt := confirmedAt
             correlationId := context.correlationId }
  throw (.unauthorized "2FA code недействителен" context.correlationId)

end TOTPService

end MediaCenter.Shared
