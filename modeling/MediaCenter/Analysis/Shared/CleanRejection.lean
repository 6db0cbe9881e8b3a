import MediaCenter.Analysis.Shared.TenantBoundary

/-!
# Which tokens are rejected cleanly

`decode_hs256_jwt` expects the errors of base64, of UTF-8 and of JSON, and no others.  A character
outside ASCII, a JSON text that is no JSON error and still raises, and a time beyond the range of a
`float` escape from it.
-/

set_option autoImplicit false

namespace MediaCenter.Shared

open MediaCenter.Library

/-! ## Clean tokens -/

/-- `base64.urlsafe_b64decode` refuses text outside ASCII with a plain `ValueError`, and any other
text with `binascii.Error` or not at all. -/
structure SegmentCodec.ChecksAscii (codec : SegmentCodec) : Prop where
  b64decode_other : ∀ segment,
    (∃ message, codec.b64decode segment = .error (.other message)) ↔ ¬ Bytes.IsAscii segment

section Tokens

variable (codec : SegmentCodec)

/-- The token has these three parts. -/
def HasParts (token header payload signature : String) : Prop :=
  (splitAtEvery '.' token.toList).map String.ofList = [header, payload, signature]

/-- The bytes of a segment are a JSON object. -/
def HoldsObject (segment : String) (fields : Claims) : Prop :=
  ∃ bytes items, codec.b64decode segment = .ok bytes ∧ codec.loads bytes = .ok (.dict items) ∧
    Dict.ofList items = fields

/-- A segment is ASCII, and `json.loads` of its bytes raises `JSONDecodeError` or
`UnicodeDecodeError`, if anything. -/
structure CleanSegment (segment : String) : Prop where
  ascii : Bytes.IsAscii segment
  json : ∀ bytes, codec.b64decode segment = .ok bytes →
    ∀ message, codec.loads bytes ≠ .error (.other message)

def NamesHs256 (header : Claims) : Prop := (header.get? "alg").bind asStr = some "HS256"

/-- A segment is the signature of the two others. -/
def SignsParts (secret : List ℕ) (header payload signature : String) : Prop :=
  codec.b64decode signature =
    .ok (Sha.hmac Sha.sha256 secret (Reference.utf8 (header ++ "." ++ payload)))

/-- The token's signature segment is right for its two other segments. -/
def SignatureVerifies (token : String) (secret : List ℕ) : Prop :=
  ∃ header payload signature, HasParts token header payload signature ∧
    SignsParts codec secret header payload signature

/-- A claim is an integer beyond the range of a `float`. -/
def TooLarge (value : Option JSONValue) : Prop :=
  ∃ n : ℤ, value = some (.int n) ∧ Binary64.bound ≤ |n|

/-- A claim `exp` is missing or in the future. -/
inductive Unexpired (now : ℚ) : Option JSONValue → Prop
  | missing : Unexpired now none
  | null : Unexpired now (some .null)
  | int {n : ℤ} {x : ℚ} (hx : Binary64.ofInt n = some x) (h : now < x) :
      Unexpired now (some (.int n))
  | float {x : ℚ} (h : now < x) : Unexpired now (some (.float x))

/-- The times of a token fit into a `float`, as far as they are read. -/
structure TimesFit (claims : Claims) (now : ℚ) : Prop where
  exp : ¬ TooLarge (claims.get? "exp")
  nbf : Unexpired now (claims.get? "exp") → ¬ TooLarge (claims.get? "nbf")

/-- Each part of a token is clean, if what comes before it lets the decoder read it. -/
structure CleanParts (secret : List ℕ) (now : ℚ) (header payload signature : String) : Prop where
  cleanHeader : CleanSegment codec header
  cleanPayload : ∀ fields, HoldsObject codec header fields → CleanSegment codec payload
  asciiSignature : ∀ fields claims, HoldsObject codec header fields →
    HoldsObject codec payload claims → NamesHs256 fields → Bytes.IsAscii signature
  timesFit : ∀ fields claims, HoldsObject codec header fields →
    HoldsObject codec payload claims → NamesHs256 fields →
    SignsParts codec secret header payload signature → TimesFit claims now

def CleanToken (token : String) (secret : List ℕ) (now : ℚ) : Prop :=
  ∀ header payload signature, HasParts token header payload signature →
    CleanParts codec secret now header payload signature

/-- `decode_hs256_jwt` returns the claims of a signed token or raises `UnauthorizedError`. -/
def DecodesCleanly (token : String) (secret : List ℕ)
    (expectedIssuer expectedAudience : Option String) (now : ℚ) : Prop :=
  match decodeHs256Jwt codec token secret expectedIssuer expectedAudience now with
  | .ok _ => SignatureVerifies codec token secret
  | .error (.unauthorized _ _) => True
  | .error _ => False

end Tokens

/-! ## Segments -/

section Segments

variable {codec : SegmentCodec}

/-- An `UnauthorizedError`. -/
def Refuses (e : SharedException) : Prop := ∃ message correlationId,
  e = .unauthorized message correlationId

theorem refuses (message : String) (correlationId : Option String) :
    Refuses (.unauthorized message correlationId) := ⟨message, correlationId, rfl⟩

theorem not_refuses_valueError (message : String) : ¬ Refuses (.valueError message) := by
  rintro ⟨_, _, h⟩
  cases h

theorem decodeJsonSegment_eq_ok_iff (segment : String) (fields : Claims) :
    decodeJsonSegment codec segment = .ok fields ↔ HoldsObject codec segment fields := by
  unfold decodeJsonSegment HoldsObject
  cases hbytes : codec.b64decode segment with
  | error e =>
      simp only [bind, Except.bind]
      refine iff_of_false ?_ ?_
      · split <;> rintro ⟨⟩
        all_goals simp_all
      · rintro ⟨bytes, items, h, _⟩
        cases h
  | ok bytes =>
      simp only [bind, Except.bind, Except.ok.injEq, exists_and_left, exists_eq_left']
      split
      · rename_i h
        simp [h]
      · rename_i h
        simp [h]
      · rename_i items h
        simp [h]
      · rename_i value hnot h
        refine iff_of_false (by rintro ⟨⟩) ?_
        rintro ⟨items, hitems, _⟩
        rw [h] at hitems
        cases hitems
        exact hnot items rfl

theorem decodeJsonSegment_refuses_iff (hcodec : codec.ChecksAscii) (segment : String) :
    FailsOnly Refuses (decodeJsonSegment codec segment) ↔ CleanSegment codec segment := by
  unfold decodeJsonSegment
  by_cases hascii : Bytes.IsAscii segment
  · have hother : ∀ message, codec.b64decode segment ≠ .error (.other message) :=
      fun message h => (hcodec.b64decode_other segment).mp ⟨message, h⟩ hascii
    cases hbytes : codec.b64decode segment with
    | error e =>
        cases e with
        | malformed =>
            refine iff_of_true (.error (refuses _ _)) ⟨hascii, fun bytes h => ?_⟩
            rw [hbytes] at h
            cases h
        | other message => exact absurd hbytes (hother message)
    | ok bytes =>
        have hclean : CleanSegment codec segment ↔
            ∀ message, codec.loads bytes ≠ .error (.other message) := by
          refine ⟨fun h => h.json bytes hbytes, fun h => ⟨hascii, fun bytes' h' => ?_⟩⟩
          rw [hbytes] at h'
          cases h'
          exact h
        rw [hclean]
        simp only [bind, Except.bind]
        split
        · rename_i hloads
          refine iff_of_true (.error (refuses _ _)) fun message h => ?_
          rw [hloads] at h
          cases h
        · rename_i message hloads
          refine iff_of_false (fun h => ?_) fun h => h message hloads
          exact not_refuses_valueError _ (h _ rfl)
        · rename_i items hloads
          refine iff_of_true (.ok _) fun message h => ?_
          rw [hloads] at h
          cases h
        · rename_i value _ hloads
          refine iff_of_true (.error (refuses _ _)) fun message h => ?_
          rw [hloads] at h
          cases h
  · obtain ⟨message, hbytes⟩ := (hcodec.b64decode_other segment).mpr hascii
    rw [hbytes]
    refine iff_of_false (fun h => ?_) fun h => hascii h.ascii
    exact not_refuses_valueError _ (h _ rfl)

theorem decodeSignature_refuses_iff (hcodec : codec.ChecksAscii) (segment : String) :
    FailsOnly Refuses (decodeSignature codec segment) ↔ Bytes.IsAscii segment := by
  unfold decodeSignature
  rw [← not_iff_not, ← hcodec.b64decode_other]
  cases hbytes : codec.b64decode segment with
  | error e =>
      cases e with
      | malformed =>
          refine iff_of_false (fun h => h (.error (refuses _ _))) ?_
          rintro ⟨message, h⟩
          cases h
      | other message =>
          refine iff_of_true (fun h => ?_) ⟨message, rfl⟩
          exact not_refuses_valueError _ (h _ rfl)
  | ok bytes =>
      refine iff_of_false (fun h => h (.ok _)) ?_
      rintro ⟨message, h⟩
      cases h

theorem decodeSignature_eq_ok_iff (segment : String) (signature : List ℕ) :
    decodeSignature codec segment = .ok signature ↔ codec.b64decode segment = .ok signature := by
  unfold decodeSignature
  split <;> simp_all

theorem signHs256_eq_ok {header payload : String} (hheader : Bytes.IsAscii header)
    (hpayload : Bytes.IsAscii payload) (secret : List ℕ) :
    signHs256 (header ++ "." ++ payload) secret =
      .ok (Sha.hmac Sha.sha256 secret (Reference.utf8 (header ++ "." ++ payload))) := by
  unfold signHs256
  rw [if_pos]
  rw [List.all_eq_true]
  intro c hc
  rw [String.toList_append, String.toList_append, List.mem_append, List.mem_append] at hc
  rw [decide_eq_true_eq]
  rcases hc with (hc | hc) | hc
  · exact hheader c hc
  · revert c
    decide
  · exact hpayload c hc

end Segments

/-! ## Times -/

section Times

variable {claims : Claims} {now : ℚ}

theorem timeClaim_refuses_iff (name : String) :
    FailsOnly Refuses (timeClaim claims name) ↔ ¬ TooLarge (claims.get? name) := by
  unfold timeClaim TooLarge
  split
  · rename_i h
    exact iff_of_true (.ok _) (by simp [h])
  · rename_i h
    exact iff_of_true (.ok _) (by simp [h])
  · rename_i value hnull h
    rw [h]
    cases value with
    | int n =>
        simp only [numericClaim, Option.some.injEq, JSONValue.int.injEq, exists_eq_left']
        rw [← Binary64.ofInt_eq_none_iff]
        cases hfloat : Binary64.ofInt n with
        | none =>
            refine iff_of_false (fun hfails => ?_) fun hne => hne rfl
            obtain ⟨_, _, he⟩ := hfails _ rfl
            cases he
        | some x => exact iff_of_true (.ok _) (by rintro ⟨⟩)
    | float x => exact iff_of_true (.ok _) (by rintro ⟨_, ⟨⟩, _⟩)
    | null => exact absurd rfl hnull
    | str _ => exact iff_of_true (.error (refuses _ _)) (by rintro ⟨_, ⟨⟩, _⟩)
    | bool _ => exact iff_of_true (.error (refuses _ _)) (by rintro ⟨_, ⟨⟩, _⟩)
    | list _ => exact iff_of_true (.error (refuses _ _)) (by rintro ⟨_, ⟨⟩, _⟩)
    | dict _ => exact iff_of_true (.error (refuses _ _)) (by rintro ⟨_, ⟨⟩, _⟩)

/-- INTERNAL: the check of `exp` is passed exactly by a claim that is missing or ahead. -/
theorem unexpired_iff (name : String) : Unexpired now (claims.get? name) ↔
    ∃ expires, timeClaim claims name = .ok expires ∧ ¬ ∃ x ∈ expires, x ≤ now := by
  unfold timeClaim
  split
  · rename_i h
    rw [h]
    exact iff_of_true .missing ⟨none, rfl, by simp⟩
  · rename_i h
    rw [h]
    exact iff_of_true .null ⟨none, rfl, by simp⟩
  · rename_i value hnull h
    rw [h]
    cases value with
    | int n =>
        simp only [numericClaim]
        cases hfloat : Binary64.ofInt n with
        | none =>
            refine iff_of_false ?_ (by rintro ⟨_, ⟨⟩, _⟩)
            intro h
            cases h with
            | int hx _ =>
                rw [hfloat] at hx
                cases hx
        | some x =>
            constructor
            · intro h
              cases h with
              | int hx hlt =>
                  rw [hfloat] at hx
                  cases hx
                  exact ⟨some x, rfl, by simpa using hlt⟩
            · rintro ⟨expires, ⟨⟩, hlt⟩
              exact .int hfloat (by simpa using hlt)
    | float x =>
        constructor
        · intro h
          cases h with
          | float hlt => exact ⟨some x, rfl, by simpa using hlt⟩
        · rintro ⟨expires, ⟨⟩, hlt⟩
          exact .float (by simpa using hlt)
    | null => exact absurd rfl hnull
    | str _ => exact iff_of_false (by rintro ⟨⟩) (by rintro ⟨_, ⟨⟩, _⟩)
    | bool _ => exact iff_of_false (by rintro ⟨⟩) (by rintro ⟨_, ⟨⟩, _⟩)
    | list _ => exact iff_of_false (by rintro ⟨⟩) (by rintro ⟨_, ⟨⟩, _⟩)
    | dict _ => exact iff_of_false (by rintro ⟨⟩) (by rintro ⟨_, ⟨⟩, _⟩)

theorem validateRegisteredClaims_refuses_iff (expectedIssuer expectedAudience : Option String) :
    FailsOnly Refuses (validateRegisteredClaims claims expectedIssuer expectedAudience now) ↔
      TimesFit claims now := by
  have hlast : ∀ notBefore : Option ℚ, FailsOnly Refuses (do
      refuseIf (∃ start ∈ notBefore, now < start) (.unauthorized "JWT ещё не действует" none)
      refuseIf (∃ issuer ∈ expectedIssuer, (claims.get? "iss").bind asStr ≠ some issuer)
        (.unauthorized "JWT issuer не совпадает с ожидаемым" none)
      refuseIf (∃ audience ∈ expectedAudience,
          audienceMatches (claims.get? "aud") audience = false)
        (.unauthorized "JWT audience не совпадает с ожидаемым" none)) := fun notBefore =>
    .bind (.refuseIf (refuses _ _)) fun _ => .bind (.refuseIf (refuses _ _)) fun _ =>
      .refuseIf (refuses _ _)
  have hchecks : FailsOnly Refuses
      (validateRegisteredClaims claims expectedIssuer expectedAudience now) ↔
        ¬ TooLarge (claims.get? "exp") ∧ ∀ expires, timeClaim claims "exp" = .ok expires →
          (¬ ∃ x ∈ expires, x ≤ now) → ¬ TooLarge (claims.get? "nbf") := by
    unfold validateRegisteredClaims
    rw [FailsOnly.bind_iff, timeClaim_refuses_iff]
    refine and_congr_right fun _ => forall_congr' fun expires => imp_congr_right fun _ => ?_
    rw [FailsOnly.bind_iff]
    simp only [refuseIf_eq_ok_iff, forall_const]
    rw [and_iff_right (.refuseIf (refuses _ _))]
    refine imp_congr_right fun _ => ?_
    rw [FailsOnly.bind_iff, timeClaim_refuses_iff]
    exact and_iff_left fun notBefore _ => hlast notBefore
  rw [hchecks]
  constructor
  · rintro ⟨hexp, hnbf⟩
    refine ⟨hexp, fun hunexpired => ?_⟩
    obtain ⟨expires, hexpires, hahead⟩ := (unexpired_iff "exp").mp hunexpired
    exact hnbf expires hexpires hahead
  · rintro ⟨hexp, hnbf⟩
    exact ⟨hexp, fun expires hexpires hahead =>
      hnbf ((unexpired_iff "exp").mpr ⟨expires, hexpires, hahead⟩)⟩

end Times

/-! ## Tokens -/

section Decoding

variable {codec : SegmentCodec} {token : String} {secret : List ℕ}
  {expectedIssuer expectedAudience : Option String} {now : ℚ}

/-- INTERNAL: the parts of a token, from left to right. -/
theorem decodeParts_refuses_iff (hcodec : codec.ChecksAscii) {header payload signature : String}
    (hparts : HasParts token header payload signature) :
    FailsOnly Refuses (decodeHs256Jwt codec token secret expectedIssuer expectedAudience now) ↔
      CleanParts codec secret now header payload signature := by
  unfold decodeHs256Jwt
  unfold HasParts at hparts
  rw [hparts]
  dsimp only
  have htimes : ∀ claims, FailsOnly Refuses (do
      validateRegisteredClaims claims expectedIssuer expectedAudience now
      return claims) ↔ TimesFit claims now := by
    intro claims
    rw [FailsOnly.bind_iff, validateRegisteredClaims_refuses_iff]
    exact and_iff_left fun _ _ => .ok _
  rw [FailsOnly.bind_iff, decodeJsonSegment_refuses_iff hcodec]
  constructor
  · rintro ⟨hheader, hrest⟩
    have hpayload : ∀ fields, HoldsObject codec header fields → _ := fun fields hfields =>
      FailsOnly.bind_iff.mp (hrest fields ((decodeJsonSegment_eq_ok_iff _ _).mpr hfields))
    have hclean : ∀ fields, HoldsObject codec header fields → CleanSegment codec payload :=
      fun fields hfields => (decodeJsonSegment_refuses_iff hcodec _).mp (hpayload fields hfields).1
    have hsigned : ∀ fields claims, HoldsObject codec header fields →
        HoldsObject codec payload claims → NamesHs256 fields →
        Bytes.IsAscii signature ∧
          (SignsParts codec secret header payload signature → TimesFit claims now) := by
      intro fields claims hfields hclaims halg
      have hnext := (hpayload fields hfields).2 claims
        ((decodeJsonSegment_eq_ok_iff _ _).mpr hclaims)
      have hsignature := (FailsOnly.bind_iff.mp hnext).2 ()
        (by rw [refuseIf_eq_ok_iff]; exact not_not.mpr halg)
      rw [signHs256_eq_ok hheader.ascii (hclean fields hfields).ascii] at hsignature
      obtain ⟨hascii, hactual⟩ := FailsOnly.bind_iff.mp
        ((FailsOnly.bind_iff.mp hsignature).2 _ rfl)
      refine ⟨(decodeSignature_refuses_iff hcodec _).mp hascii, fun hsigns => ?_⟩
      have hchecked := hactual _ ((decodeSignature_eq_ok_iff _ _).mpr hsigns)
      exact (htimes claims).mp ((FailsOnly.bind_iff.mp hchecked).2 ()
        (refuseIf_eq_ok_iff.mpr (not_not.mpr rfl)))
    exact ⟨hheader, hclean,
      fun fields claims hfields hclaims halg => (hsigned fields claims hfields hclaims halg).1,
      fun fields claims hfields hclaims halg => (hsigned fields claims hfields hclaims halg).2⟩
  · intro hclean
    refine ⟨hclean.cleanHeader, fun fields hfields => ?_⟩
    rw [decodeJsonSegment_eq_ok_iff] at hfields
    have hpayload := hclean.cleanPayload fields hfields
    rw [FailsOnly.bind_iff, decodeJsonSegment_refuses_iff hcodec]
    refine ⟨hpayload, fun claims hclaims => ?_⟩
    rw [decodeJsonSegment_eq_ok_iff] at hclaims
    rw [FailsOnly.bind_iff]
    refine ⟨.refuseIf (refuses _ _), fun _ halg => ?_⟩
    rw [refuseIf_eq_ok_iff] at halg
    have hname : NamesHs256 fields := not_not.mp halg
    rw [signHs256_eq_ok hclean.cleanHeader.ascii hpayload.ascii, FailsOnly.bind_iff]
    refine ⟨.ok _, fun expected hexpected => ?_⟩
    cases hexpected
    rw [FailsOnly.bind_iff, decodeSignature_refuses_iff hcodec]
    refine ⟨hclean.asciiSignature fields claims hfields hclaims hname, fun actual hactual => ?_⟩
    rw [decodeSignature_eq_ok_iff] at hactual
    rw [FailsOnly.bind_iff]
    refine ⟨.refuseIf (refuses _ _), fun _ hsame => ?_⟩
    have hsigns : SignsParts codec secret header payload signature := by
      unfold SignsParts
      rw [hactual, not_not.mp (refuseIf_eq_ok_iff.mp hsame)]
    exact (htimes claims).mpr (hclean.timesFit fields claims hfields hclaims hname hsigns)

theorem decode_refuses_iff (hcodec : codec.ChecksAscii) :
    FailsOnly Refuses (decodeHs256Jwt codec token secret expectedIssuer expectedAudience now) ↔
      CleanToken codec token secret now := by
  by_cases hparts : ∃ header payload signature, HasParts token header payload signature
  · obtain ⟨header, payload, signature, hparts⟩ := hparts
    rw [decodeParts_refuses_iff hcodec hparts]
    refine ⟨fun h header' payload' signature' hparts' => ?_, fun h => h _ _ _ hparts⟩
    unfold HasParts at hparts hparts'
    rw [hparts] at hparts'
    cases hparts'
    exact h
  · refine iff_of_true ?_ fun header payload signature h => absurd ⟨_, _, _, h⟩ hparts
    unfold decodeHs256Jwt
    split
    · rename_i h
      exact absurd ⟨_, _, _, h⟩ hparts
    · exact .error (refuses _ _)

theorem signatureVerifies_of_decode {claims : Claims}
    (h : decodeHs256Jwt codec token secret expectedIssuer expectedAudience now = .ok claims) :
    SignatureVerifies codec token secret := by
  unfold decodeHs256Jwt at h
  split at h
  · rename_i header payload signature hparts
    simp only [bind_eq_ok_iff, refuseIf_eq_ok_iff, decodeSignature_eq_ok_iff] at h
    obtain ⟨fields, _, claims', _, _, _, expected, hexpected, actual, hactual, _, hsame, _⟩ := h
    refine ⟨header, payload, signature, hparts, ?_⟩
    unfold signHs256 at hexpected
    split at hexpected
    · cases hexpected
      unfold SignsParts
      rw [hactual, not_not.mp hsame]
    · cases hexpected
  · cases h

theorem decodesCleanly_iff_refuses :
    DecodesCleanly codec token secret expectedIssuer expectedAudience now ↔
      FailsOnly Refuses
        (decodeHs256Jwt codec token secret expectedIssuer expectedAudience now) := by
  unfold DecodesCleanly
  split
  · rename_i claims h
    rw [h]
    exact iff_of_true (signatureVerifies_of_decode h) (.ok _)
  · rename_i message correlationId h
    rw [h]
    exact iff_of_true trivial (.error (refuses _ _))
  · rename_i e hnot h
    rw [h]
    refine iff_of_false id fun hfails => ?_
    obtain ⟨message, correlationId, he⟩ := hfails e rfl
    exact hnot message correlationId he

end Decoding

/-! ## Requests -/

section Requests

open TenantContextASGIMiddleware

variable (m : TenantContextASGIMiddleware) (request : EdgeRequest) (app : ASGIApp)
  (current : Option TenantContext)

/-- The token of the request gives no claims, or they are refused as no identity. -/
inductive NotAuthenticated : Prop
  | token (token : String) (e : SharedException)
      (hbearer : extractBearerToken m.py (m.header request "authorization")
        (m.header request correlationIdHeader) = .ok token)
      (h : decodeHs256Jwt m.codec token m.jwtSecret m.expectedIssuer m.expectedAudience
        request.now = .error e)
  | refused (h : m.AuthenticationFails request)

/-- A request that is not authenticated is answered with one 401, and the call returns. -/
def RejectsCleanly : Prop :=
  NotAuthenticated m request →
    (∃ body, (m.call request app current).effects = [.responded 401 body]) ∧
      (m.call request app current).outcome = .returned ∧
      (m.call request app current).current = current

/-- The bearer token of a request, if there is one, is clean. -/
def CleanRequest : Prop :=
  ∀ token, extractBearerToken m.py (m.header request "authorization")
      (m.header request correlationIdHeader) = .ok token →
    CleanToken m.codec token m.jwtSecret request.now

end Requests

section Rejections

open TenantContextASGIMiddleware

variable {m : TenantContextASGIMiddleware} {request : EdgeRequest} {app : ASGIApp}
  {current : Option TenantContext}

theorem decodesOrRefuses_iff (hcodec : m.codec.ChecksAscii) :
    m.DecodesOrRefuses request ↔ CleanRequest m request := by
  unfold DecodesOrRefuses CleanRequest
  refine forall_congr' fun token => imp_congr_right fun _ => ?_
  rw [← decode_refuses_iff hcodec]
  rfl

/-- What `decode_hs256_jwt` raises is not about a tenant. -/
theorem coversDecoding_noTenant : CoversDecoding fun e =>
    ∀ message correlationId, e ≠ .tenantIsolation message correlationId :=
  ⟨fun _ => by rintro _ _ ⟨⟩, fun _ => by rintro _ _ ⟨⟩, fun _ => by rintro _ _ ⟨⟩⟩

/-- INTERNAL: an exception that is neither of the two goes on through the middleware. -/
theorem call_raises {e : SharedException} (hidentity : m.identity request = .error e)
    (hunauthorized : ¬ Refuses e)
    (htenant : ∀ message correlationId, e ≠ .tenantIsolation message correlationId) :
    (m.call request app current).outcome = .raised e := by
  have hcontext : m.requestContext (headersFromScope m.py request.headers) request.now =
      (.error ⟨e, false⟩, []) := by
    unfold requestContext
    unfold identity header at hidentity
    simp only [hidentity]
  unfold call
  simp only [hcontext]
  split
  · rename_i h
    cases h
  · rename_i message correlationId _ _ h
    cases h
    exact absurd rfl (htenant message correlationId)
  · rename_i message correlationId _ _ h
    cases h
    exact absurd (refuses message correlationId) hunauthorized
  · rename_i h
    cases h
    rfl

/-- INTERNAL: where the token decodes or is refused, a request that is not authenticated is
answered. -/
theorem rejectsCleanly_of_decodes (hdecode : m.DecodesOrRefuses request)
    (hpresent : m.header request "authorization" ≠ none) :
    RejectsCleanly m request app current := by
  intro hnot
  have hfails : m.AuthenticationFails request := by
    cases hnot with
    | refused h => exact h
    | token token e hbearer h =>
        obtain ⟨message, correlationId, rfl⟩ := hdecode token hbearer e h
        refine ⟨message, correlationId, ?_⟩
        unfold identity tenantContextFromAuthorizationHeader
        rw [hbearer]
        simp only [bind, Except.bind]
        rw [h]
  have hcourse := @call_course m request app current hdecode
  generalize m.call request app current = run at hcourse
  obtain ⟨message, correlationId, hidentity⟩ := hfails
  cases hcourse with
  | admitted h _ =>
      rw [hidentity] at h
      cases h
  | denied _ h _ _ _ _ => exact absurd ⟨message, correlationId, hidentity⟩ h
  | unauthenticated h hmessage hid hsent =>
      rw [hidentity] at h
      cases h
      have hnone := (hid.resolve_right fun hmissing => hpresent hmissing.2).1
      subst hnone
      rcases @sendError_cases 401 unauthorizedCode message none (by decide) hmessage with
        ⟨_, body, hbody⟩ | ⟨hfits, _⟩
      · rw [hbody] at hsent
        cases hsent
        exact ⟨⟨body, rfl⟩, rfl, rfl⟩
      · exact absurd (by rintro _ ⟨⟩) hfits

/-- INTERNAL: an exception of another kind is not answered. -/
theorem decodesOrRefuses_of_rejects (h : RejectsCleanly m request app current) :
    m.DecodesOrRefuses request := by
  intro token hbearer e he
  by_contra hrefuses
  have hidentity : m.identity request = .error e := by
    unfold identity tenantContextFromAuthorizationHeader
    rw [hbearer]
    simp only [bind, Except.bind]
    rw [he]
  have hraised := @call_raises m request app current e hidentity hrefuses
    (decodeHs256Jwt_failsOnly coversDecoding_noTenant _ _ _ _ _ _ he)
  obtain ⟨_, hreturned, _⟩ := h (.token token e hbearer he)
  rw [hraised] at hreturned
  cases hreturned

/-- For every token, every secret and every time, `decode_hs256_jwt` returns the claims of a signed
token or raises `UnauthorizedError` exactly if the token is clean; and for every request with an
`Authorization` header the middleware answers 401, where it does not authenticate, exactly if the
token of the header is clean. -/
theorem rejectsCleanly_iff (m : TenantContextASGIMiddleware) (hcodec : m.codec.ChecksAscii) :
    (∀ (token : String) (secret : List ℕ) (expectedIssuer expectedAudience : Option String)
        (now : ℚ), DecodesCleanly m.codec token secret expectedIssuer expectedAudience now ↔
          CleanToken m.codec token secret now) ∧
      ∀ (request : EdgeRequest) (app : ASGIApp) (current : Option TenantContext),
        m.header request "authorization" ≠ none →
          (RejectsCleanly m request app current ↔ CleanRequest m request) := by
  constructor
  · intro token secret expectedIssuer expectedAudience now
    rw [decodesCleanly_iff_refuses, decode_refuses_iff hcodec]
  · intro request app current hpresent
    rw [← decodesOrRefuses_iff hcodec]
    exact ⟨decodesOrRefuses_of_rejects, fun h => rejectsCleanly_of_decodes h hpresent⟩

end Rejections

/-! ## Two requests without a valid token -/

namespace RejectionSample

/-- Base64 that refuses text outside ASCII as Python does. -/
def codec : SegmentCodec where
  b64decode segment :=
    if Bytes.IsAscii segment then Reference.b64decode segment
    else .error (.other "string argument should contain only ASCII characters")
  loads := Reference.loads

def middleware : TenantContextASGIMiddleware where
  py := Reference.stdlib
  codec := codec
  jwtSecret := Reference.utf8 "jwt-secret"
  expectedIssuer := none
  expectedAudience := none
  auditSink := true

def request (authorization : Bytes) : EdgeRequest where
  headers := [(Bytes.encodeUtf8 "authorization", authorization)]
  now := 0

theorem checksAscii : codec.ChecksAscii := by
  refine ⟨fun segment => ?_⟩
  by_cases hascii : Bytes.IsAscii segment
  · refine iff_of_false ?_ (not_not.mpr hascii)
    rintro ⟨message, h⟩
    simp only [codec, if_pos hascii] at h
    unfold Reference.b64decode at h
    split at h <;> cases h
  · exact iff_of_true ⟨_, if_neg hascii⟩ hascii

theorem header_authorization (authorization : Bytes) :
    middleware.header (request authorization) "authorization" =
      some (Bytes.decodeLatin1 authorization) := by
  unfold TenantContextASGIMiddleware.header
  rw [get?_headersFromScope]
  unfold lastValue
  show (([(Bytes.encodeUtf8 "authorization", authorization)].find? _).map Prod.snd).map _ = _
  rw [List.find?_singleton, if_pos]
  · rfl
  · rw [decide_eq_true_eq]
    exact lower_decodeLatin1_encodeUtf8 Reference.stdlib (by decide)

/-- INTERNAL: the token of a header does not depend on the correlation id. -/
theorem bearer_of_header {authorization : Bytes} {token : String}
    (h : extractBearerToken Reference.stdlib (some (Bytes.decodeLatin1 authorization)) none =
      .ok token) :
    extractBearerToken middleware.py
      (middleware.header (request authorization) "authorization")
      (middleware.header (request authorization) correlationIdHeader) = .ok token := by
  rw [header_authorization]
  exact h

/-- The bytes of `Bearer é.b.c`, as a client sends them. -/
def accented : Bytes := Bytes.encodeUtf8 "Bearer " ++ [0xe9] ++ Bytes.encodeUtf8 ".b.c"

end RejectionSample

open RejectionSample in
/-- A token without dots is refused, and its request is answered. -/
theorem rejectsCleanly_withoutDots :
    DecodesCleanly middleware.codec "abc" middleware.jwtSecret none none 0 ∧
      RejectsCleanly middleware (request (Bytes.encodeUtf8 "Bearer abc"))
        (fun current => (true, current)) none := by
  have hclean : CleanToken middleware.codec "abc" middleware.jwtSecret 0 := by
    intro header payload signature h
    have hlength : ((splitAtEvery '.' "abc".toList).map String.ofList).length = 3 :=
      congrArg List.length h
    exact absurd hlength (by decide)
  have hbearer : extractBearerToken Reference.stdlib
      (some (Bytes.decodeLatin1 (Bytes.encodeUtf8 "Bearer abc"))) none = .ok "abc" := by
    decide
  constructor
  · exact ((rejectsCleanly_iff middleware checksAscii).1 _ _ none none 0).mpr hclean
  · refine ((rejectsCleanly_iff middleware checksAscii).2 _ _ _ ?_).mpr fun token htoken => ?_
    · rw [header_authorization]
      exact Option.some_ne_none _
    · rw [bearer_of_header hbearer] at htoken
      cases htoken
      exact hclean

open RejectionSample in
/-- A `Bearer` token whose first segment is `é` raises a plain `ValueError`, and the call of the
middleware fails. -/
theorem not_rejectsCleanly_accented : middleware.codec.ChecksAscii ∧
    ¬ DecodesCleanly middleware.codec "é.b.c" middleware.jwtSecret none none 0 ∧
    ¬ RejectsCleanly middleware (request accented) (fun current => (true, current)) none := by
  have hdirty : ¬ CleanToken middleware.codec "é.b.c" middleware.jwtSecret 0 := by
    intro h
    have hparts : HasParts "é.b.c" "é" "b" "c" := by
      unfold HasParts
      decide
    exact absurd (h _ _ _ hparts).cleanHeader.ascii (by decide)
  have hbearer : extractBearerToken Reference.stdlib
      (some (Bytes.decodeLatin1 accented)) none = .ok "é.b.c" := by
    decide
  refine ⟨checksAscii, fun h => hdirty ?_, fun h => hdirty ?_⟩
  · exact (decode_refuses_iff checksAscii).mp (decodesCleanly_iff_refuses.mp h)
  · exact (decodesOrRefuses_iff checksAscii).mp (decodesOrRefuses_of_rejects h) "é.b.c"
      (bearer_of_header hbearer)

end MediaCenter.Shared
