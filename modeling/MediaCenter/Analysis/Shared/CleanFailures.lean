import MediaCenter.Analysis.Shared.RequestReplay

/-!
# How a service request is refused

A refusal is an `S2SAuthenticationError`, which becomes a 401.  Three library calls of
`verify_request` raise something else on a text the caller has chosen: the conversion of a long
timestamp to `float`, the normalisation of a blank method, and the comparison of a signature
that is not ASCII.
-/

set_option autoImplicit false

namespace MediaCenter.Shared

open MediaCenter.Library

/-! ## Single checks -/

section Checks

variable {py : Stdlib}

/-- The error is the one that `require_s2s` catches. -/
def S2SException.IsAuthentication (e : S2SException) : Prop := ∃ message, e = .authentication message

theorem isAuthentication_of_normalizeRequiredText {value : Option String} {fieldName : String}
    {e : S2SException} (h : normalizeRequiredText value fieldName = .error e) :
    e.IsAuthentication := by
  unfold normalizeRequiredText at h
  cases value with
  | none =>
      cases h
      exact ⟨_, rfl⟩
  | some value =>
      dsimp only at h
      split at h
      · cases h
        exact ⟨_, rfl⟩
      · cases h

theorem isAuthentication_of_parseTimestamp {value : Option String} {e : S2SException}
    (h : parseTimestamp value = .error e) : e.IsAuthentication := by
  unfold parseTimestamp at h
  cases hraw : normalizeRequiredText value s2sTimestampHeader with
  | error e' =>
      rw [hraw] at h
      cases h
      exact isAuthentication_of_normalizeRequiredText hraw
  | ok raw =>
      simp only [hraw, bind, Except.bind] at h
      split at h
      · cases h
      · cases h
        exact ⟨_, rfl⟩

/-- INTERNAL: what a `float` holds has few digits. -/
theorem exists_timestampText_of_lt {timestamp : ℤ} (h : |timestamp| < floatBound) :
    ∃ text, timestampText timestamp = .ok text := by
  have hpow : ∀ n ≤ Decimal.maxStrDigits, 2 ^ n ≤ 10 ^ Decimal.maxStrDigits := by
    intro n hn
    exact le_trans (Nat.pow_le_pow_left (by omega) n) (Nat.pow_le_pow_right (by omega) hn)
  have hbound : floatBound ≤ ((2 ^ 1024 : ℕ) : ℤ) := by
    unfold floatBound
    rw [Nat.cast_pow, Nat.cast_ofNat]
    exact sub_le_self _ (by positivity)
  have habs : timestamp.natAbs < 10 ^ Decimal.maxStrDigits := by
    apply lt_of_lt_of_le _ (hpow 1024 (by decide))
    rw [← Int.ofNat_lt, Int.natCast_natAbs]
    exact lt_of_lt_of_le h hbound
  have hdigits : (Nat.toDigits 10 timestamp.natAbs).length ≤ Decimal.maxStrDigits :=
    (Nat.length_toDigits_le_iff (by omega) (by unfold Decimal.maxStrDigits; omega)).mpr habs
  unfold timestampText Decimal.formatInt
  rw [if_neg (not_lt.mpr hdigits)]
  exact ⟨_, rfl⟩

theorem exists_normalizePath {path : String} (h : path.toList.head? = some '/') :
    ∃ normalized, normalizePath path = .ok normalized := by
  have hslash : Text.isSpace '/' = false := by decide
  have hhead : (Text.strip path).toList.head? = some '/' := by
    unfold Text.strip
    rw [Text.toList_dropBoth]
    cases hpath : path.toList with
    | nil =>
        rw [hpath] at h
        cases h
    | cons c rest =>
        rw [hpath, List.head?_cons, Option.some.injEq] at h
        subst h
        rw [List.dropWhile_cons_of_neg (by rw [hslash]; exact Bool.false_ne_true)]
        have hne : List.rdropWhile Text.isSpace ('/' :: rest) ≠ [] := by
          rw [ne_eq, List.rdropWhile_eq_nil_iff]
          intro hall
          rw [hall '/' List.mem_cons_self] at hslash
          cases hslash
        obtain ⟨back, hback⟩ := List.rdropWhile_prefix Text.isSpace ('/' :: rest)
        cases hkept : List.rdropWhile Text.isSpace ('/' :: rest) with
        | nil => exact absurd hkept hne
        | cons c kept =>
            rw [hkept, List.cons_append, List.cons.injEq] at hback
            rw [hback.1, List.head?_cons]
  unfold normalizePath
  have hne : Text.strip path ≠ "" := by
    intro hempty
    rw [hempty] at hhead
    cases hhead
  dsimp only
  rw [if_neg hne, if_pos hhead]
  exact ⟨_, rfl⟩

theorem ascii_hmacSha256Hex (secret : List ℕ) (payload : String) :
    ∀ c ∈ (hmacSha256Hex secret payload).toList, c.toNat < 128 := by
  intro c hc
  have hvisible := visible_hmacSha256Hex secret payload c hc
  unfold Text.Visible at hvisible
  omega

/-- INTERNAL: the digest is ASCII, so the comparison raises exactly for a signature that is
not. -/
theorem compareDigest_hmac (secret : List ℕ) (payload signature : String) :
    compareDigest (hmacSha256Hex secret payload) signature =
      if ∀ c ∈ signature.toList, c.toNat < 128 then
        .ok (hmacSha256Hex secret payload = signature)
      else .error (.typeError "comparing strings with non-ASCII characters is not supported") := by
  have hall : ((hmacSha256Hex secret payload).toList ++ signature.toList).all
      (fun c => decide (c.toNat < 128)) = true ↔ ∀ c ∈ signature.toList, c.toNat < 128 := by
    rw [List.all_append, Bool.and_eq_true, List.all_eq_true, List.all_eq_true]
    simp only [decide_eq_true_eq]
    exact and_iff_right (ascii_hmacSha256Hex secret payload)
  unfold compareDigest
  simp only [hall]

end Checks

/-! ## The whole verification -/

/-- The headers of a request hold a shared-secret signature with all its parts. -/
structure Presents (py : Stdlib) (c : VerifyCall) (serviceName nonce signature : String)
    (timestamp : ℤ) : Prop where
  authMethod : readHeader py c.headers s2sMethodHeader = some AuthMethod.sharedSecret.value
  serviceName_eq : normalizeRequiredText (readHeader py c.headers s2sServiceHeader)
    s2sServiceHeader = .ok serviceName
  nonce_eq : normalizeRequiredText (readHeader py c.headers s2sNonceHeader) s2sNonceHeader =
    .ok nonce
  signature_eq : normalizeRequiredText (readHeader py c.headers s2sSignatureHeader)
    s2sSignatureHeader = .ok signature
  timestamp_eq : parseTimestamp (readHeader py c.headers s2sTimestampHeader) = .ok timestamp

/-- The headers are complete, and either the timestamp is too large for a `float`, or it is
within the window and the method is blank or the signature is not ASCII. -/
def ReachesPartialCall (py : Stdlib) (c : VerifyCall) : Prop :=
  ∃ serviceName nonce signature timestamp, Presents py c serviceName nonce signature timestamp ∧
    (floatBound ≤ |timestamp| ∨ |c.now - timestamp| ≤ c.config.replayWindowSeconds ∧
      (py.upper (Text.strip c.method) = "" ∨ ∃ ch ∈ signature.toList, 128 ≤ ch.toNat))

section Verification

variable {py : Stdlib} {c : VerifyCall}

/-- INTERNAL: after the headers, the request is a matter of three partial calls. -/
theorem authenticate_of_presents {serviceName nonce signature : String} {timestamp : ℤ}
    (h : Presents py c serviceName nonce signature timestamp)
    (hsecret : c.config.sharedSecret ≠ none) (hpath : c.path.toList.head? = some '/') :
    (∃ e, authenticate py c = .error (.builtin e)) ↔
      floatBound ≤ |timestamp| ∨ |c.now - timestamp| ≤ c.config.replayWindowSeconds ∧
        (py.upper (Text.strip c.method) = "" ∨ ∃ ch ∈ signature.toList, 128 ≤ ch.toNat) := by
  obtain ⟨path, hpath⟩ := exists_normalizePath hpath
  obtain ⟨secret, hsecret⟩ := Option.ne_none_iff_exists'.mp hsecret
  have hbytes : secretBytes c.config = .ok secret := by
    unfold secretBytes
    rw [hsecret]
  unfold authenticate
  rw [h.serviceName_eq, h.nonce_eq, h.signature_eq, h.timestamp_eq, hpath, hbytes]
  simp only [refuseIf, h.authMethod, ne_eq, not_true_eq_false, if_false, bind, Except.bind]
  unfold outsideWindow
  by_cases hfloat : floatBound ≤ |timestamp|
  · rw [if_pos hfloat]
    exact iff_of_true ⟨_, rfl⟩ (.inl hfloat)
  rw [if_neg hfloat]
  simp only [decide_eq_true_eq]
  by_cases hwindow : (c.config.replayWindowSeconds : ℚ) < |c.now - timestamp|
  · rw [if_pos hwindow]
    apply iff_of_false
    · rintro ⟨e, he⟩
      cases he
    · rintro (hlarge | ⟨hinside, _⟩)
      · exact hfloat hlarge
      · exact absurd hwindow (not_lt.mpr hinside)
  rw [if_neg hwindow]
  rw [not_lt] at hwindow
  unfold normalizeMethod
  by_cases hmethod : py.upper (Text.strip c.method) = ""
  · simp only [if_pos hmethod]
    exact iff_of_true ⟨_, rfl⟩ (.inr ⟨hwindow, .inl hmethod⟩)
  simp only [if_neg hmethod]
  obtain ⟨text, htext⟩ := exists_timestampText_of_lt (not_le.mp hfloat)
  simp only [signaturePayload, htext, bind, Except.bind, pure, Except.pure, compareDigest_hmac]
  by_cases hascii : ∀ ch ∈ signature.toList, ch.toNat < 128
  · rw [if_pos hascii]
    apply iff_of_false
    · rintro ⟨e, he⟩
      simp only [Except.mapError] at he
      split at he
      · rename_i hrefused
        split at hrefused
        · cases hrefused
          cases he
        · cases hrefused
      · cases he
    · rintro (hlarge | ⟨_, hblank | ⟨ch, hch, hlarge⟩⟩)
      · exact hfloat hlarge
      · exact hmethod hblank
      · exact absurd (hascii ch hch) (not_lt.mpr hlarge)
  · rw [if_neg hascii]
    refine iff_of_true ⟨_, rfl⟩ (.inr ⟨hwindow, .inr ?_⟩)
    simp only [not_forall, not_lt, exists_prop] at hascii
    exact hascii

/-- INTERNAL: a request without complete headers is refused as it should be. -/
theorem isAuthentication_of_not_presents {e : S2SException}
    (h : ∀ serviceName nonce signature timestamp,
      ¬ Presents py c serviceName nonce signature timestamp)
    (he : authenticate py c = .error e) : e.IsAuthentication := by
  unfold authenticate at he
  by_cases hmethod : readHeader py c.headers s2sMethodHeader =
      some AuthMethod.sharedSecret.value
  swap
  · simp only [refuseIf, hmethod, ne_eq, not_false_eq_true, if_true, bind, Except.bind] at he
    cases he
    exact ⟨_, rfl⟩
  simp only [refuseIf, hmethod, ne_eq, not_true_eq_false, if_false, bind, Except.bind] at he
  cases hservice : normalizeRequiredText (readHeader py c.headers s2sServiceHeader)
      s2sServiceHeader with
  | error e' =>
      simp only [hservice] at he
      cases he
      exact isAuthentication_of_normalizeRequiredText hservice
  | ok serviceName =>
  cases hnonce : normalizeRequiredText (readHeader py c.headers s2sNonceHeader)
      s2sNonceHeader with
  | error e' =>
      simp only [hservice, hnonce] at he
      cases he
      exact isAuthentication_of_normalizeRequiredText hnonce
  | ok nonce =>
  cases hsignature : normalizeRequiredText (readHeader py c.headers s2sSignatureHeader)
      s2sSignatureHeader with
  | error e' =>
      simp only [hservice, hnonce, hsignature] at he
      cases he
      exact isAuthentication_of_normalizeRequiredText hsignature
  | ok signature =>
  cases htimestamp : parseTimestamp (readHeader py c.headers s2sTimestampHeader) with
  | error e' =>
      simp only [hservice, hnonce, hsignature, htimestamp] at he
      cases he
      exact isAuthentication_of_parseTimestamp htimestamp
  | ok timestamp =>
      exact absurd ⟨hmethod, hservice, hnonce, hsignature, htimestamp⟩
        (h serviceName nonce signature timestamp)

theorem Presents.unique {serviceName serviceName' nonce nonce' signature signature' : String}
    {timestamp timestamp' : ℤ} (h : Presents py c serviceName nonce signature timestamp)
    (h' : Presents py c serviceName' nonce' signature' timestamp') :
    signature = signature' ∧ timestamp = timestamp' :=
  ⟨Except.ok.inj (h.signature_eq.symm.trans h'.signature_eq),
    Except.ok.inj (h.timestamp_eq.symm.trans h'.timestamp_eq)⟩

/-- INTERNAL: the errors that are not caught are those of the three partial calls. -/
theorem authenticate_builtin_iff (hsecret : c.config.sharedSecret ≠ none)
    (hpath : c.path.toList.head? = some '/') :
    (∃ e, authenticate py c = .error (.builtin e)) ↔ ReachesPartialCall py c := by
  by_cases hpresents : ∃ serviceName nonce signature timestamp,
      Presents py c serviceName nonce signature timestamp
  · obtain ⟨serviceName, nonce, signature, timestamp, hpresents⟩ := hpresents
    rw [authenticate_of_presents hpresents hsecret hpath]
    constructor
    · intro h
      exact ⟨serviceName, nonce, signature, timestamp, hpresents, h⟩
    · rintro ⟨_, _, signature', timestamp', hpresents', h⟩
      obtain ⟨rfl, rfl⟩ := hpresents.unique hpresents'
      exact h
  · apply iff_of_false
    · rintro ⟨e, he⟩
      have hcaught := isAuthentication_of_not_presents
        (fun _ _ _ _ h => hpresents ⟨_, _, _, _, h⟩) he
      obtain ⟨message, hmessage⟩ := hcaught
      cases hmessage
    · rintro ⟨_, _, _, _, h, _⟩
      exact hpresents ⟨_, _, _, _, h⟩

/-! ## The replay cache -/

theorem remember_error {serviceName nonce : String} {timestamp : ℤ} {now : ℚ} {window : ℕ}
    {cache : S2SReplayCache} {e : S2SException}
    (h : (remember serviceName nonce timestamp now window cache).1 = .error e) :
    e.IsAuthentication ∧
      (remember serviceName nonce timestamp now window cache).2 =
        dropExpiredNonces now window cache := by
  unfold remember at h ⊢
  dsimp only at h ⊢
  split at h
  · rename_i hmem
    cases h
    rw [if_pos hmem]
    exact ⟨⟨_, rfl⟩, rfl⟩
  · cases h

/-- INTERNAL: an error is one of `authenticate`, or the refusal of a nonce that is known. -/
theorem verifyRequest_error {cache : S2SReplayCache} {e : S2SException}
    (h : (verifyRequest py c cache).1 = .error e) :
    (authenticate py c = .error e ∧ (verifyRequest py c cache).2 = cache) ∨
      (e.IsAuthentication ∧ (verifyRequest py c cache).2 =
        dropExpiredNonces c.now c.config.replayWindowSeconds cache) := by
  cases hauth : authenticate py c with
  | error e' =>
      unfold verifyRequest at h ⊢
      rw [hauth] at h ⊢
      cases h
      exact .inl ⟨rfl, rfl⟩
  | ok signed =>
      right
      cases hremember : remember signed.serviceName signed.nonce signed.timestamp c.now
          c.config.replayWindowSeconds cache with
      | mk result cache' =>
          cases result with
          | ok u =>
              unfold verifyRequest at h
              simp only [hauth, hremember] at h
              cases h
          | error e' =>
              have herror := @remember_error signed.serviceName signed.nonce signed.timestamp
                c.now c.config.replayWindowSeconds cache e' (by rw [hremember])
              rw [hremember] at herror
              unfold verifyRequest at h ⊢
              simp only [hauth, hremember] at h ⊢
              cases h
              exact herror

end Verification

/-! ## Main results -/

/-- **Failing closed.**  With a secret and a path that starts with a slash, a request is accepted
or refused with an error that becomes a 401, and a refusal adds no nonce, exactly when the
request does not reach one of the partial calls. -/
theorem verifyRequest_failsClosed_iff (py : Stdlib) (c : VerifyCall) (cache : S2SReplayCache)
    (hsecret : c.config.sharedSecret ≠ none) (hpath : c.path.toList.head? = some '/') :
    (((∃ identity, (verifyRequest py c cache).1 = .ok identity) ∨
        ∃ message, (verifyRequest py c cache).1 = .error (.authentication message) ∧
          (requireS2s py c cache).1 = .error (.http 401 message)) ∧
      ∀ e, (verifyRequest py c cache).1 = .error e → ∀ key,
        (verifyRequest py c cache).2.contains key = true → cache.contains key = true) ↔
      ¬ ReachesPartialCall py c := by
  rw [← authenticate_builtin_iff hsecret hpath]
  constructor
  · rintro ⟨hclean, _⟩ ⟨e, he⟩
    have hraised : (verifyRequest py c cache).1 = .error (.builtin e) := by
      unfold verifyRequest
      rw [he]
    rcases hclean with ⟨identity, hok⟩ | ⟨message, herror, _⟩
    · rw [hraised] at hok
      cases hok
    · rw [hraised] at herror
      cases herror
  · intro hcaught
    constructor
    · cases hresult : (verifyRequest py c cache).1 with
      | ok identity => exact .inl ⟨identity, rfl⟩
      | error e =>
          right
          have hauthentication : e.IsAuthentication := by
            rcases verifyRequest_error hresult with ⟨he, _⟩ | ⟨he, _⟩
            · cases e with
              | authentication message => exact ⟨message, rfl⟩
              | builtin e => exact absurd ⟨e, he⟩ hcaught
            · exact he
          obtain ⟨message, rfl⟩ := hauthentication
          refine ⟨message, rfl, ?_⟩
          unfold requireS2s
          cases hverified : verifyRequest py c cache with
          | mk result cache' =>
              rw [hverified] at hresult
              cases hresult
              rfl
    · intro e he key hkey
      rcases verifyRequest_error he with ⟨_, hcache⟩ | ⟨_, hcache⟩
      · rw [hcache] at hkey
        exact hkey
      · rw [hcache, contains_dropExpiredNonces_iff] at hkey
        obtain ⟨timestamp, hget, _⟩ := hkey
        exact Dict.contains_iff_exists.mpr ⟨timestamp, hget⟩

/-- INTERNAL: what the check of the signature raises is raised. -/
theorem verifyRequest_of_error {py : Stdlib} {c : VerifyCall} {cache : Dict String ℤ}
    {e : S2SException} (h : authenticate py c = .error e) :
    (verifyRequest py c cache).1 = .error e := by
  unfold verifyRequest
  rw [h]

namespace SignedSample

/-- A request with the given signature. -/
def withSignature (signature : String) : VerifyCall :=
  ⟨config, 1000, Dict.ofList [("X-S2S-Method", "shared_secret"), ("X-S2S-Service", "api-gateway"),
    ("X-S2S-Nonce", "n-1"), ("X-S2S-Timestamp", "1000"), ("X-S2S-Signature", signature)],
    "GET", "/status"⟩

theorem presents_ascii :
    Presents Reference.stdlib (withSignature "abc") "api-gateway" "n-1" "abc" 1000 := by
  constructor <;> decide

theorem presents_accent :
    Presents Reference.stdlib (withSignature "é") "api-gateway" "n-1" "é" 1000 := by
  constructor <;> decide

end SignedSample

open SignedSample Reference in
/-- A signature of ASCII letters gets an identity or a 401. -/
theorem verifyRequest_failsClosed_ascii :
    (∃ identity, (verifyRequest stdlib (withSignature "abc") Dict.empty).1 =
        .ok identity) ∨
      ∃ message, (verifyRequest stdlib (withSignature "abc") Dict.empty).1 =
        .error (.authentication message) ∧
      (requireS2s stdlib (withSignature "abc") Dict.empty).1 =
        .error (.http 401 message) := by
  refine ((verifyRequest_failsClosed_iff stdlib (withSignature "abc") Dict.empty
    (by decide) (by decide)).mpr ?_).1
  rintro ⟨serviceName, nonce, signature, timestamp, hpresents, h⟩
  obtain ⟨rfl, rfl⟩ := presents_ascii.unique hpresents
  rcases h with hlarge | ⟨_, hblank | ⟨ch, hch, hlarge⟩⟩
  · have hsmall : ¬ floatBound ≤ |(1000 : ℤ)| := by decide +kernel
    exact hsmall hlarge
  · have hmethod : stdlib.upper (Text.strip "GET") ≠ "" := by decide +kernel
    exact hmethod hblank
  · have hascii : ∀ ch ∈ "abc".toList, ¬ 128 ≤ ch.toNat := by decide
    exact hascii ch hch hlarge

open SignedSample Reference in
/-- A signature with an accent raises `TypeError`. -/
theorem verifyRequest_raises_accent :
    ¬ ((∃ identity, (verifyRequest stdlib (withSignature "é") Dict.empty).1 =
        .ok identity) ∨
      ∃ message, (verifyRequest stdlib (withSignature "é") Dict.empty).1 =
        .error (.authentication message)) := by
  have hreaches : ReachesPartialCall stdlib (withSignature "é") := by
    refine ⟨_, _, _, _, presents_accent, .inr ⟨?_, .inr ⟨'é', by decide, by decide⟩⟩⟩
    decide +kernel
  obtain ⟨e, he⟩ := (authenticate_builtin_iff (by decide) (by decide)).mpr hreaches
  rw [verifyRequest_of_error he]
  rintro (⟨identity, h⟩ | ⟨message, h⟩)
  · cases h
  · cases h

end MediaCenter.Shared
