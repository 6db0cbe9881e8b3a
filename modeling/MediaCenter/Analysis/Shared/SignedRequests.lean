import MediaCenter.Library.JoinedText
import MediaCenter.Model.Shared.S2SAuth

/-!
# What a signature stands for

A verified request and a signed one are each described by the same record: method, path,
timestamp, nonce, service name and signature.  The text under the signature determines the
record, as long as its parts hold no line break.
-/

set_option autoImplicit false

namespace MediaCenter.Shared

open MediaCenter.Library

/-- The signature of a request is the MAC of `payload` under the secret of `config`. -/
structure MacOf (config : S2SConfig) (r : SignedRequest) (secret : List ℕ)
    (payload : String) : Prop where
  secretBytes_eq : secretBytes config = .ok secret
  payload_eq : signaturePayload r.method r.path r.timestamp r.nonce r.serviceName = .ok payload
  signature_eq : r.signature = hmacSha256Hex secret payload

/-- A request with a valid signature, within the replay window. -/
structure Authentic (py : Stdlib) (c : VerifyCall) (r : SignedRequest) : Prop where
  authMethod : readHeader py c.headers s2sMethodHeader = some AuthMethod.sharedSecret.value
  serviceName : normalizeRequiredText (readHeader py c.headers s2sServiceHeader)
    s2sServiceHeader = .ok r.serviceName
  nonce : normalizeRequiredText (readHeader py c.headers s2sNonceHeader) s2sNonceHeader =
    .ok r.nonce
  signature : normalizeRequiredText (readHeader py c.headers s2sSignatureHeader)
    s2sSignatureHeader = .ok r.signature
  timestamp : parseTimestamp (readHeader py c.headers s2sTimestampHeader) = .ok r.timestamp
  floating : |r.timestamp| < floatBound
  window : |c.now - r.timestamp| ≤ c.config.replayWindowSeconds
  method : normalizeMethod py c.method = .ok r.method
  path : normalizePath c.path = .ok r.path
  mac : ∃ secret payload, MacOf c.config r secret payload

/-- The call `s` signed the request `r`, and returned the headers `signed`. -/
structure SignedBy (py : Stdlib) (s : SignCall) (signed : Dict String String)
    (r : SignedRequest) : Prop where
  returned : signRequest py s = .ok signed
  method : normalizeMethod py s.method = .ok r.method
  path : normalizePath s.path = .ok r.path
  authMethodHeader : signed.get? s2sMethodHeader = some AuthMethod.sharedSecret.value
  serviceHeader : signed.get? s2sServiceHeader = some r.serviceName
  timestampHeader : signed.get? s2sTimestampHeader = some (toString r.timestamp)
  nonceHeader : signed.get? s2sNonceHeader = some r.nonce
  signatureHeader : signed.get? s2sSignatureHeader = some r.signature

/-! ## The two calls -/

theorem hmacSha256Hex_pattern (secret : List ℕ) (payload : String) :
    auditHashPattern (hmacSha256Hex secret payload) = true := by
  unfold hmacSha256Hex Sha.hmac
  exact Reference.auditHashPattern_hexdigest (Reference.length_sha256 _)

theorem visible_hmacSha256Hex (secret : List ℕ) (payload : String) :
    ∀ c ∈ (hmacSha256Hex secret payload).toList, Text.Visible c := by
  have h := hmacSha256Hex_pattern secret payload
  unfold auditHashPattern at h
  rw [Bool.and_eq_true, List.all_eq_true] at h
  exact fun c hc => visible_of_isHexChar (h.2 c hc)

/-- INTERNAL: comparing with a MAC succeeds exactly on the MAC itself. -/
theorem compareDigest_hmac_iff (secret : List ℕ) (payload signature : String) :
    compareDigest (hmacSha256Hex secret payload) signature = .ok true ↔
      signature = hmacSha256Hex secret payload := by
  unfold compareDigest
  constructor
  · intro h
    split at h
    · simpa using (Except.ok.inj h : decide (_ = signature) = true) |> of_decide_eq_true |>.symm
    · cases h
  · rintro rfl
    rw [if_pos, decide_eq_true rfl]
    rw [List.all_append, Bool.and_self, List.all_eq_true]
    intro c hc
    have hvisible := visible_hmacSha256Hex secret payload c hc
    unfold Text.Visible at hvisible
    simp only [decide_eq_true_eq]
    omega

theorem outsideWindow_eq_ok_iff {now : ℚ} {timestamp : ℤ} {window : ℕ} {outside : Bool} :
    outsideWindow now timestamp window = .ok outside ↔
      |timestamp| < floatBound ∧ outside = decide ((window : ℚ) < |now - timestamp|) := by
  unfold outsideWindow
  by_cases hbound : floatBound ≤ |timestamp|
  · rw [if_pos hbound]
    constructor
    · intro h
      cases h
    · rintro ⟨h, _⟩
      exact absurd hbound (not_le.mpr h)
  · rw [if_neg hbound, Except.ok.injEq]
    constructor
    · rintro rfl
      exact ⟨not_le.mp hbound, rfl⟩
    · rintro ⟨_, rfl⟩
      rfl

theorem authenticate_eq_ok_iff {py : Stdlib} {c : VerifyCall} {r : SignedRequest} :
    authenticate py c = .ok r ↔ Authentic py c r := by
  unfold authenticate
  simp only [bind_eq_ok_iff, refuseIf_eq_ok_iff, mapError_eq_ok_iff, outsideWindow_eq_ok_iff]
  constructor
  · rintro ⟨_, hmethodHeader, service, hservice, nonce, hnonce, signature, hsignature,
      timestamp, htimestamp, outside, ⟨hfloat, rfl⟩, _, hwindow, method, hmethod, path, hpath,
      payload, hpayload, secret, hsecret, valid, hvalid, _, htrue, heq⟩
    rw [decide_eq_true_eq] at hwindow
    rw [Bool.not_eq_false] at htrue
    subst htrue
    rw [compareDigest_hmac_iff] at hvalid
    cases heq
    exact ⟨not_not.mp hmethodHeader, hservice, hnonce, hsignature, htimestamp, hfloat,
      not_lt.mp hwindow, hmethod, hpath, secret, payload, hsecret, hpayload, hvalid⟩
  · rintro ⟨hmethodHeader, hservice, hnonce, hsignature, htimestamp, hfloat, hwindow, hmethod,
      hpath, secret, payload, hsecret, hpayload, hvalid⟩
    have hinside : ¬ decide ((c.config.replayWindowSeconds : ℚ) < |c.now - r.timestamp|) =
        true := by
      rw [decide_eq_true_eq]
      exact not_lt.mpr hwindow
    refine ⟨(), not_not.mpr hmethodHeader, _, hservice, _, hnonce, _, hsignature, _,
      htimestamp, _, ⟨hfloat, rfl⟩, (), hinside, _, hmethod, _, hpath, _, hpayload, _, hsecret,
      true, ?_, (), by simp, rfl⟩
    exact (compareDigest_hmac_iff secret payload r.signature).mpr hvalid

theorem normalizeRequiredText_eq_ok_iff {value : Option String} {fieldName text : String} :
    normalizeRequiredText value fieldName = .ok text ↔
      ∃ s, value = some s ∧ text = Text.strip s ∧ text ≠ "" := by
  cases value with
  | none => simp [normalizeRequiredText]
  | some s =>
      unfold normalizeRequiredText
      simp only [Option.some.injEq, exists_eq_left']
      constructor
      · intro h
        split at h
        · cases h
        · rename_i hne
          cases h
          exact ⟨rfl, hne⟩
      · rintro ⟨rfl, hne⟩
        rw [if_neg hne]

theorem timestampText_eq_ok {timestamp : ℤ} {text : String}
    (h : timestampText timestamp = .ok text) :
    text = toString timestamp ∧ Decimal.parseInt text = some timestamp := by
  unfold timestampText at h
  cases hformat : Decimal.formatInt timestamp with
  | none => simp [hformat] at h
  | some text' =>
      simp only [hformat, Except.ok.injEq] at h
      subst h
      refine ⟨?_, Decimal.parseInt_formatInt hformat⟩
      unfold Decimal.formatInt at hformat
      split at hformat
      · cases hformat
      · exact (Option.some.inj hformat).symm

theorem MacOf.timestampText_eq {config : S2SConfig} {r : SignedRequest} {secret : List ℕ}
    {payload : String} (h : MacOf config r secret payload) :
    ∃ text, timestampText r.timestamp = .ok text := by
  have hpayload := h.payload_eq
  unfold signaturePayload at hpayload
  rw [bind_eq_ok_iff] at hpayload
  obtain ⟨text, htext, _⟩ := hpayload
  exact ⟨text, htext⟩

/-- The values that a call of `sign_request` signs. -/
structure Signs (py : Stdlib) (s : SignCall) (r : SignedRequest) : Prop where
  method : normalizeMethod py s.method = .ok r.method
  path : normalizePath s.path = .ok r.path
  serviceName : normalizeRequiredText (some s.serviceName) "service_name" = .ok r.serviceName
  nonce : normalizeRequiredText (some (orDefault s.nonce s.freshNonce.text)) "nonce" =
    .ok r.nonce
  timestamp : r.timestamp = s.resolvedTimestamp
  mac : ∃ secret payload, MacOf s.config r secret payload

/-- The headers of a signed request, on top of others. -/
def signedHeaders (headers : Dict String String) (r : SignedRequest) : Dict String String :=
  ((((headers.set s2sMethodHeader AuthMethod.sharedSecret.value).set
    s2sServiceHeader r.serviceName).set s2sTimestampHeader (toString r.timestamp)).set
    s2sNonceHeader r.nonce).set s2sSignatureHeader r.signature

theorem get?_signedHeaders (headers : Dict String String) (r : SignedRequest) :
    (signedHeaders headers r).get? s2sMethodHeader = some AuthMethod.sharedSecret.value ∧
    (signedHeaders headers r).get? s2sServiceHeader = some r.serviceName ∧
    (signedHeaders headers r).get? s2sTimestampHeader = some (toString r.timestamp) ∧
    (signedHeaders headers r).get? s2sNonceHeader = some r.nonce ∧
    (signedHeaders headers r).get? s2sSignatureHeader = some r.signature := by
  have hdistinct : s2sHeaders.Nodup := by decide
  simp only [s2sHeaders, List.nodup_cons, List.mem_cons, List.not_mem_nil, not_or,
    or_false] at hdistinct
  simp [signedHeaders, hdistinct]

theorem signRequest_eq_ok_iff {py : Stdlib} {s : SignCall} {signed : Dict String String} :
    signRequest py s = .ok signed ↔
      ∃ r, Signs py s r ∧ signed = signedHeaders (s.headers.getD Dict.empty) r := by
  unfold signRequest
  simp only [bind_eq_ok_iff]
  constructor
  · rintro ⟨secret, hsecret, method, hmethod, path, hpath, service, hservice, nonce, hnonce,
      payload, hpayload, text, htext, heq⟩
    refine ⟨⟨method, path, s.resolvedTimestamp, nonce, service, hmacSha256Hex secret payload⟩,
      ⟨hmethod, hpath, hservice, hnonce, rfl, secret, payload, hsecret, hpayload, rfl⟩, ?_⟩
    rw [(timestampText_eq_ok htext).1] at heq
    exact (Except.ok.inj heq).symm
  · rintro ⟨r, ⟨hmethod, hpath, hservice, hnonce, htimestamp, secret, payload, hmac⟩, rfl⟩
    obtain ⟨text, htext⟩ := hmac.timestampText_eq
    refine ⟨secret, hmac.secretBytes_eq, _, hmethod, _, hpath, _, hservice, _, hnonce, payload,
      htimestamp ▸ hmac.payload_eq, text, htimestamp ▸ htext, ?_⟩
    rw [(timestampText_eq_ok htext).1, ← hmac.signature_eq]
    rfl

/-- INTERNAL: the headers that `sign_request` returns, and the MAC they carry. -/
theorem signedBy_of_signRequest {py : Stdlib} {s : SignCall} {signed : Dict String String}
    (h : signRequest py s = .ok signed) :
    ∃ r, SignedBy py s signed r ∧ ∃ secret payload, MacOf s.config r secret payload := by
  obtain ⟨r, hsigns, rfl⟩ := signRequest_eq_ok_iff.mp h
  have hget := get?_signedHeaders (s.headers.getD Dict.empty) r
  exact ⟨r, ⟨h, hsigns.method, hsigns.path, hget.1, hget.2.1, hget.2.2.1, hget.2.2.2.1,
    hget.2.2.2.2⟩, hsigns.mac⟩

theorem MacOf.payload_unique {config config' : S2SConfig} {r : SignedRequest}
    {secret secret' : List ℕ} {payload payload' : String} (h : MacOf config r secret payload)
    (h' : MacOf config' r secret' payload') : payload = payload' :=
  Except.ok.inj (h.payload_eq.symm.trans h'.payload_eq)

/-! ## Presenting what was signed -/

/-- The presented headers read as the signed ones, name by name. -/
def Delivers (py : Stdlib) (presented signed : Dict String String) : Prop :=
  ∀ name ∈ s2sHeaders, readHeader py presented name = signed.get? name

theorem normalizeRequiredText_self {value text fieldName fieldName' : String}
    (h : normalizeRequiredText (some value) fieldName = .ok text) :
    normalizeRequiredText (some text) fieldName' = .ok text := by
  obtain ⟨_, heq, htext, hne⟩ := normalizeRequiredText_eq_ok_iff.mp h
  rw [normalizeRequiredText_eq_ok_iff]
  refine ⟨text, rfl, ?_, hne⟩
  rw [htext, Text.strip_strip]

theorem normalizeRequiredText_of_visible {text fieldName : String} (hne : text ≠ "")
    (h : ∀ c ∈ text.toList, Text.Visible c) :
    normalizeRequiredText (some text) fieldName = .ok text :=
  normalizeRequiredText_eq_ok_iff.mpr
    ⟨text, rfl, (Text.strip_of_forall_visible h).symm, hne⟩

theorem parseTimestamp_toString {timestamp : ℤ} {text : String}
    (h : timestampText timestamp = .ok text) :
    parseTimestamp (some (toString timestamp)) = .ok timestamp := by
  have hparse := (timestampText_eq_ok h).2
  rw [(timestampText_eq_ok h).1] at hparse
  have hne : toString timestamp ≠ "" := by
    intro hempty
    rw [hempty] at hparse
    cases hparse
  unfold parseTimestamp
  rw [normalizeRequiredText_of_visible hne (Decimal.visible_toString timestamp)]
  simp only [hparse, bind, Except.bind]

theorem hmacSha256Hex_ne_empty (secret : List ℕ) (payload : String) :
    hmacSha256Hex secret payload ≠ "" := by
  intro h
  have hpattern := hmacSha256Hex_pattern secret payload
  rw [h] at hpattern
  exact absurd hpattern (by decide)

/-- INTERNAL: the headers of a signed request are valid with any method and path that give
the same text to sign. -/
theorem authentic_of_delivers {py : Stdlib} {s : SignCall} {c : VerifyCall}
    {r : SignedRequest} {method path payload : String} {secret : List ℕ}
    (hsigns : Signs py s r)
    (hdelivers : Delivers py c.headers (signedHeaders (s.headers.getD Dict.empty) r))
    (hfloat : |r.timestamp| < floatBound)
    (hwindow : |c.now - r.timestamp| ≤ c.config.replayWindowSeconds)
    (hmethod : normalizeMethod py c.method = .ok method) (hpath : normalizePath c.path = .ok path)
    (hmac : MacOf c.config { r with method := method, path := path } secret payload) :
    Authentic py c { r with method := method, path := path } := by
  obtain ⟨hauthMethod, hservice, htimestamp, hnonce, hsignature⟩ :=
    get?_signedHeaders (s.headers.getD Dict.empty) r
  obtain ⟨secret', payload', hmac'⟩ := hsigns.mac
  obtain ⟨text, htext⟩ := hmac'.timestampText_eq
  refine ⟨?_, ?_, ?_, ?_, ?_, hfloat, hwindow, hmethod, hpath, secret, payload, hmac⟩
  · rw [hdelivers _ (by decide), hauthMethod]
  · rw [hdelivers _ (by decide), hservice]
    exact normalizeRequiredText_self hsigns.serviceName
  · rw [hdelivers _ (by decide), hnonce]
    exact normalizeRequiredText_self hsigns.nonce
  · rw [hdelivers _ (by decide), hsignature, hmac'.signature_eq]
    exact normalizeRequiredText_of_visible (hmacSha256Hex_ne_empty _ _)
      (visible_hmacSha256Hex _ _)
  · rw [hdelivers _ (by decide), htimestamp]
    exact parseTimestamp_toString htext

theorem readHeader_set {py : Stdlib} {headers : Dict String String} {name : String}
    (h : ¬ headers.contains name = true) (value name' : String) :
    readHeader py (headers.set name value) name' =
      if py.lower name' = py.lower name then some (Text.strip value)
      else readHeader py headers name' := by
  unfold readHeader normalizeHeaders
  rw [Dict.entries_set_of_not_contains h, List.map_append, List.map_singleton,
    Dict.ofList_append_singleton, Dict.get?_set]

/-- INTERNAL: the five names stay different in lower case. -/
theorem lower_s2sHeaders_nodup (py : Stdlib) : (s2sHeaders.map py.lower).Nodup := by
  have hlatin : ∀ name ∈ s2sHeaders, ∀ c ∈ name.toList, c.toNat < 256 := by decide
  have hlower : s2sHeaders.map py.lower =
      s2sHeaders.map fun name => String.ofList (name.toList.map Text.lowerLatin1) :=
    List.map_congr_left fun name hname => py.lower_latin1 name (hlatin name hname)
  rw [hlower]
  decide

/-- INTERNAL: the dictionary that `sign_request` returns reads as what was signed, unless its
`headers` argument names one of the five headers itself. -/
theorem delivers_signedHeaders {py : Stdlib} {s : SignCall} {r : SignedRequest}
    {headers : Dict String String} (hsigns : Signs py s r)
    (h : ∀ e ∈ headers.entries, ∀ name ∈ s2sHeaders, py.lower e.1 ≠ py.lower name) :
    Delivers py (signedHeaders headers r) (signedHeaders headers r) := by
  have hnew : ∀ name ∈ s2sHeaders, ¬ headers.contains name = true := by
    intro name hname hcontains
    obtain ⟨value, hvalue⟩ := Dict.contains_iff_exists.mp hcontains
    exact h (name, value) (Dict.get?_eq_some_iff.mp hvalue) name hname rfl
  have hlower := lower_s2sHeaders_nodup py
  simp only [s2sHeaders, List.map_cons, List.map_nil, List.nodup_cons, List.mem_cons,
    List.not_mem_nil, not_or, or_false, forall_eq_or_imp, forall_eq] at hlower hnew
  simp only [s2sMethodHeader, s2sServiceHeader, s2sTimestampHeader, s2sNonceHeader,
    s2sSignatureHeader] at hnew
  -- each of the five names is new when it is set, so its header comes last
  have hread : ∀ name, readHeader py (signedHeaders headers r) name =
      if py.lower name = py.lower s2sSignatureHeader then some (Text.strip r.signature)
      else if py.lower name = py.lower s2sNonceHeader then some (Text.strip r.nonce)
      else if py.lower name = py.lower s2sTimestampHeader then
        some (Text.strip (toString r.timestamp))
      else if py.lower name = py.lower s2sServiceHeader then some (Text.strip r.serviceName)
      else if py.lower name = py.lower s2sMethodHeader then
        some (Text.strip AuthMethod.sharedSecret.value)
      else readHeader py headers name := by
    intro name
    unfold signedHeaders
    rw [readHeader_set, readHeader_set, readHeader_set, readHeader_set, readHeader_set]
    all_goals simp [Dict.contains_set, hnew, s2sMethodHeader, s2sServiceHeader,
      s2sTimestampHeader, s2sNonceHeader, s2sSignatureHeader]
  obtain ⟨hauthMethod, hservice, htimestamp, hnonce, hsignature⟩ := get?_signedHeaders headers r
  obtain ⟨secret, payload, hmac⟩ := hsigns.mac
  have hstripped : ∀ {value fieldName text : String},
      normalizeRequiredText (some value) fieldName = .ok text → Text.strip text = text := by
    intro value fieldName text hok
    obtain ⟨_, _, rfl, _⟩ := normalizeRequiredText_eq_ok_iff.mp hok
    exact Text.strip_strip _
  have hstrippedSignature : Text.strip r.signature = r.signature := by
    rw [hmac.signature_eq]
    exact Text.strip_of_forall_visible (visible_hmacSha256Hex _ _)
  have hstrippedMethod : Text.strip AuthMethod.sharedSecret.value =
      AuthMethod.sharedSecret.value := by decide
  intro name hname
  simp only [s2sHeaders, List.mem_cons, List.not_mem_nil, or_false] at hname
  rcases hname with rfl | rfl | rfl | rfl | rfl
  · simp [hread, hlower, hauthMethod, hstrippedMethod]
  · simp [hread, hlower, hservice, hstripped hsigns.serviceName]
  · rw [hread, htimestamp, Text.strip_of_forall_visible (Decimal.visible_toString r.timestamp)]
    simp [hlower]
  · simp [hread, hlower, hnonce, hstripped hsigns.nonce]
  · simp [hread, hsignature, hstrippedSignature]

/-! ## Line breaks -/

/-- A text without line breaks. -/
def LineFree (s : String) : Prop := '\n' ∉ s.toList

theorem lineFree_toString (n : ℤ) : LineFree (toString n) :=
  Decimal.not_mem_toString (by unfold Text.Visible; decide)

theorem lineFree_strip {s : String} (h : LineFree s) : LineFree (Text.strip s) := by
  intro hmem
  unfold Text.strip at hmem
  rw [Text.toList_dropBoth] at hmem
  exact h ((List.dropWhile_sublist _).subset ((List.rdropWhile_prefix _ _).subset hmem))

theorem lineFree_readHeader {py : Stdlib} {headers : Dict String String}
    (h : ∀ e ∈ headers.entries, LineFree e.2) {name value : String}
    (hread : readHeader py headers name = some value) : LineFree value := by
  unfold readHeader normalizeHeaders at hread
  rw [Dict.get?_ofList, Option.map_eq_some_iff] at hread
  obtain ⟨e, he, rfl⟩ := hread
  have hmem := List.mem_of_find?_eq_some he
  rw [List.mem_reverse, List.mem_map] at hmem
  obtain ⟨e', he', rfl⟩ := hmem
  exact lineFree_strip (h e' he')

theorem lineFree_normalizeRequiredText {value : Option String} {fieldName text : String}
    (h : ∀ s, value = some s → LineFree s)
    (hok : normalizeRequiredText value fieldName = .ok text) : LineFree text := by
  obtain ⟨s, hs, rfl, _⟩ := normalizeRequiredText_eq_ok_iff.mp hok
  exact lineFree_strip (h s hs)

/-- INTERNAL: a call signs one request. -/
theorem SignedBy.eq_of_signs {py : Stdlib} {s : SignCall} {signed : Dict String String}
    {r r' : SignedRequest} (h : SignedBy py s signed r) (h' : Signs py s r') : r = r' := by
  have hreturned : signed = signedHeaders (s.headers.getD Dict.empty) r' :=
    Except.ok.inj (h.returned.symm.trans (signRequest_eq_ok_iff.mpr ⟨r', h', rfl⟩))
  subst hreturned
  obtain ⟨_, hservice, htimestamp, hnonce, hsignature⟩ :=
    get?_signedHeaders (s.headers.getD Dict.empty) r'
  have heq : ∀ {name a b : String}, (signedHeaders (s.headers.getD Dict.empty) r').get? name =
      some a → (signedHeaders (s.headers.getD Dict.empty) r').get? name = some b → a = b :=
    fun ha hb => Option.some.inj (ha.symm.trans hb)
  have hmethod := Except.ok.inj (h.method.symm.trans h'.method)
  have hpath := Except.ok.inj (h.path.symm.trans h'.path)
  have hnumber := Decimal.toString_injective (heq h.timestampHeader htimestamp)
  cases r
  cases r'
  rw [SignedRequest.mk.injEq]
  exact ⟨hmethod, hpath, hnumber, heq h.nonceHeader hnonce, heq h.serviceHeader hservice,
    heq h.signatureHeader hsignature⟩

theorem lineFree_of_visible {s : String} (h : ∀ c ∈ s.toList, Text.Visible c) :
    LineFree s := by
  intro hmem
  exact absurd (h '\n' hmem) (by unfold Text.Visible; decide)

theorem lineFree_signedHeaders {r : SignedRequest} {config : S2SConfig} {secret : List ℕ}
    {payload : String} (hmac : MacOf config r secret payload)
    (hservice : LineFree r.serviceName) (hnonce : LineFree r.nonce) :
    ∀ e ∈ (signedHeaders Dict.empty r).entries, LineFree e.2 := by
  rintro ⟨name, value⟩ he
  rw [← Dict.get?_eq_some_iff] at he
  simp only [signedHeaders, Dict.get?_set, Dict.get?_empty] at he
  split at he
  · cases he
    rw [hmac.signature_eq]
    exact lineFree_of_visible (visible_hmacSha256Hex _ _)
  split at he
  · cases he
    exact hnonce
  split at he
  · cases he
    exact lineFree_toString _
  split at he
  · cases he
    exact hservice
  have hmethod : LineFree AuthMethod.sharedSecret.value := by unfold LineFree; decide
  split at he
  · cases he
    exact hmethod
  · cases he

/-- The parts of a request that a line break would move. -/
structure SignedRequest.LineFree (r : SignedRequest) : Prop where
  method : Shared.LineFree r.method
  nonce : Shared.LineFree r.nonce
  serviceName : Shared.LineFree r.serviceName

/-- INTERNAL: the text under a signature determines what was signed. -/
theorem eq_of_payload_eq {config config' : S2SConfig} {r r' : SignedRequest}
    {secret secret' : List ℕ} {payload : String} (h : MacOf config r secret payload)
    (h' : MacOf config' r' secret' payload) (hsignature : r.signature = r'.signature)
    (hr : r.LineFree) (hr' : r'.LineFree) : r = r' := by
  have hsep : ("\n" : String).toList = ['\n'] := rfl
  have hpayload := h.payload_eq
  have hpayload' := h'.payload_eq
  unfold signaturePayload at hpayload hpayload'
  rw [bind_eq_ok_iff] at hpayload hpayload'
  obtain ⟨text, htext, hjoin⟩ := hpayload
  obtain ⟨text', htext', hjoin'⟩ := hpayload'
  have heq := (Except.ok.inj hjoin).trans (Except.ok.inj hjoin').symm
  have hnumber := (timestampText_eq_ok htext).1
  have hnumber' := (timestampText_eq_ok htext').1
  -- from the end: the service name, the nonce and the timestamp hold no line break
  obtain ⟨heq, hservice⟩ :=
    JoinedText.texts_eq_of_not_mem_right hsep hr.serviceName hr'.serviceName heq
  obtain ⟨heq, hnonce⟩ := JoinedText.texts_eq_of_not_mem_right hsep hr.nonce hr'.nonce heq
  obtain ⟨heq, hnumbers⟩ := JoinedText.texts_eq_of_not_mem_right hsep
    (hnumber ▸ lineFree_toString _) (hnumber' ▸ lineFree_toString _) heq
  -- from the start: neither does the method
  obtain ⟨hmethod, hpath⟩ := JoinedText.texts_eq_of_not_mem_left hsep hr.method hr'.method heq
  have htimestamp : r.timestamp = r'.timestamp :=
    Decimal.toString_injective (hnumber.symm.trans (hnumbers.trans hnumber'))
  cases r
  cases r'
  simp only [SignedRequest.mk.injEq] at *
  exact ⟨hmethod, hpath, htimestamp, hnonce, hservice, hsignature⟩

end MediaCenter.Shared
