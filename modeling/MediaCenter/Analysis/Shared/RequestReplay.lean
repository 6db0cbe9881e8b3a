import Mathlib.Tactic.NormNum
import MediaCenter.Analysis.Shared.ReplayCache
import MediaCenter.Analysis.Shared.SignedRequests

/-!
# Replayed requests

The replay cache keeps the nonce of an accepted request for as long as its timestamp is
within the window, and a request outside the window is refused by its timestamp.  So a
signature is accepted once, at most.
-/

set_option autoImplicit false

namespace MediaCenter.Shared

open MediaCenter.Library

/-! ## Runs -/

/-- After the calls `before`, the verifier accepts the call `c`, with the signed values
`r`. -/
def Accepts (py : Stdlib) (before : List S2SCall) (c : VerifyCall) (r : SignedRequest) :
    Prop :=
  authenticate py c = .ok r ∧
    (verifyRequest py c (cacheAfter py before)).1 = .ok ⟨r.serviceName, .sharedSecret⟩

/-- Later calls of `verify_request` read a clock that has not gone back. -/
def NonDecreasingClock (calls : List S2SCall) : Prop :=
  calls.Pairwise fun a b =>
    match a, b with
    | .verify c, .verify d => c.now ≤ d.now
    | _, _ => True

/-- No header value, presented or signed, holds a line break. -/
structure LineFreeHeaders (py : Stdlib) (calls : List S2SCall) : Prop where
  presented : ∀ c, .verify c ∈ calls → ∀ e ∈ c.headers.entries, LineFree e.2
  signed : ∀ s signed, .sign s ∈ calls → signRequest py s = .ok signed →
    ∀ e ∈ signed.entries, LineFree e.2

/-- No method, trimmed and in upper case, holds a line break. -/
structure LineFreeMethods (py : Stdlib) (calls : List S2SCall) : Prop where
  presented : ∀ c m, .verify c ∈ calls → normalizeMethod py c.method = .ok m → LineFree m
  signed : ∀ s m, .sign s ∈ calls → normalizeMethod py s.method = .ok m → LineFree m

/-- A valid signature was returned by an earlier call of `sign_request`. -/
def Unforgeable (py : Stdlib) (calls : List S2SCall) : Prop :=
  ∀ before c after, calls = before ++ .verify c :: after →
    ∀ r, authenticate py c = .ok r →
      ∃ s signed, .sign s ∈ before ∧ signRequest py s = .ok signed ∧
        signed.get? s2sSignatureHeader = some r.signature

/-- The texts that the calls put under a MAC. -/
inductive Hashed (py : Stdlib) (calls : List S2SCall) : List ℕ → String → Prop where
  | sign {s signed r secret payload} : .sign s ∈ calls → SignedBy py s signed r →
      MacOf s.config r secret payload → Hashed py calls secret payload
  | verify {c r secret payload} : .verify c ∈ calls → authenticate py c = .ok r →
      MacOf c.config r secret payload → Hashed py calls secret payload

/-- No two texts of the run have the same MAC. -/
def CollisionFree (py : Stdlib) (calls : List S2SCall) : Prop :=
  ∀ secret payload secret' payload', Hashed py calls secret payload →
    Hashed py calls secret' payload' →
    hmacSha256Hex secret payload = hmacSha256Hex secret' payload' → payload = payload'

/-- An accepted request carries the method, path, timestamp, nonce and service name that an
earlier call signed, and no signature is accepted twice. -/
def AcceptsOnce (py : Stdlib) (calls : List S2SCall) : Prop :=
  (∀ before c after identity, calls = before ++ .verify c :: after →
    (verifyRequest py c (cacheAfter py before)).1 = .ok identity →
    ∃ r s signed, Accepts py before c r ∧ identity = ⟨r.serviceName, .sharedSecret⟩ ∧
      .sign s ∈ before ∧ SignedBy py s signed r) ∧
  (∀ before c middle d after r r',
    calls = (before ++ .verify c :: middle) ++ .verify d :: after →
    Accepts py before c r → Accepts py (before ++ .verify c :: middle) d r' →
    r.signature ≠ r'.signature)

/-! ## The replay cache -/

section Cache

variable {py : Stdlib} {cache : S2SReplayCache}

theorem verifyRequest_eq_ok {c : VerifyCall} {identity : S2SIdentity}
    (h : (verifyRequest py c cache).1 = .ok identity) :
    ∃ r, authenticate py c = .ok r ∧ identity = ⟨r.serviceName, .sharedSecret⟩ := by
  unfold verifyRequest at h
  split at h
  · cases h
  · rename_i r hr
    split at h
    · cases h
    · cases h
      exact ⟨r, hr, rfl⟩

/-- INTERNAL: with a valid signature, the outcome is that of the replay cache. -/
theorem verifyRequest_of_authenticate {c : VerifyCall} {r : SignedRequest}
    (h : authenticate py c = .ok r) : verifyRequest py c cache =
      let remembered := remember r.serviceName r.nonce r.timestamp c.now
        c.config.replayWindowSeconds cache
      (remembered.1.map fun _ => ⟨r.serviceName, .sharedSecret⟩, remembered.2) := by
  unfold verifyRequest
  rw [h]
  dsimp only
  split
  · rename_i heq
    rw [heq]
    rfl
  · rename_i heq
    rw [heq]
    rfl

/-- INTERNAL: with a valid signature, the call is accepted exactly when no unexpired entry
has its key. -/
theorem verifyRequest_accepts_iff {c : VerifyCall} {r : SignedRequest}
    (h : authenticate py c = .ok r) :
    (verifyRequest py c cache).1 = .ok ⟨r.serviceName, .sharedSecret⟩ ↔
      ∀ timestamp, cache.get? (replayCacheKey r.serviceName r.nonce) = some timestamp →
        (c.config.replayWindowSeconds : ℚ) < c.now - timestamp := by
  rw [verifyRequest_of_authenticate h,
    ← @remember_eq_ok_iff r.serviceName r.nonce r.timestamp _ _ _ ()]
  dsimp only
  cases (remember r.serviceName r.nonce r.timestamp c.now c.config.replayWindowSeconds cache).1 with
  | error e => simp [Except.map]
  | ok u => simp [Except.map]

theorem verifyRequest_cache_of_error {c : VerifyCall} {e : S2SException}
    (h : authenticate py c = .error e) : (verifyRequest py c cache).2 = cache := by
  unfold verifyRequest
  rw [h]

/-- INTERNAL: with a valid signature, the cache loses what has expired and gains the nonce,
unless the nonce is there. -/
theorem verifyRequest_cache {c : VerifyCall} {r : SignedRequest}
    (h : authenticate py c = .ok r) : (verifyRequest py c cache).2 =
      let kept := dropExpiredNonces c.now c.config.replayWindowSeconds cache
      let key := replayCacheKey r.serviceName r.nonce
      if kept.contains key = true then kept else kept.set key r.timestamp := by
  rw [verifyRequest_of_authenticate h]
  unfold remember
  dsimp only
  split
  · rfl
  · rfl

theorem verifyRequest_inserts {c : VerifyCall} {r : SignedRequest}
    (h : authenticate py c = .ok r)
    (haccepts : (verifyRequest py c cache).1 = .ok ⟨r.serviceName, .sharedSecret⟩) :
    (verifyRequest py c cache).2.get? (replayCacheKey r.serviceName r.nonce) =
      some r.timestamp := by
  rw [verifyRequest_accepts_iff h,
    ← @remember_eq_ok_iff r.serviceName r.nonce r.timestamp _ _ _ ()] at haccepts
  rw [verifyRequest_of_authenticate h]
  exact remember_inserts haccepts

/-- INTERNAL: one call leaves an entry as it is, unless the entry has expired by then. -/
theorem step_keeps {key : String} {timestamp : ℤ} (call : S2SCall)
    (h : cache.get? key = some timestamp) :
    (call.step py cache).get? key = some timestamp ∨
      ∃ c, call = .verify c ∧ (c.config.replayWindowSeconds : ℚ) < c.now - timestamp := by
  cases call with
  | sign s => exact .inl h
  | verify c =>
      by_cases hexpired : (c.config.replayWindowSeconds : ℚ) < c.now - timestamp
      · exact .inr ⟨c, rfl, hexpired⟩
      left
      show (verifyRequest py c cache).2.get? key = some timestamp
      cases hauth : authenticate py c with
      | error e =>
          rw [verifyRequest_cache_of_error hauth]
          exact h
      | ok r =>
          rw [verifyRequest_of_authenticate hauth]
          exact remember_keeps h hexpired

/-- INTERNAL: by induction on the calls, an entry is there until a call finds it expired. -/
theorem run_keeps {key : String} {timestamp : ℤ} (calls : List S2SCall)
    (h : cache.get? key = some timestamp) :
    (calls.foldl (S2SCall.step py) cache).get? key = some timestamp ∨
      ∃ c, .verify c ∈ calls ∧ (c.config.replayWindowSeconds : ℚ) < c.now - timestamp := by
  induction calls generalizing cache with
  | nil => exact .inl h
  | cons call calls ih =>
      rw [List.foldl_cons]
      rcases @step_keeps py cache key timestamp call h with hkept | ⟨c, rfl, hexpired⟩
      · rcases ih hkept with hkept | ⟨c, hc, hexpired⟩
        · exact .inl hkept
        · exact .inr ⟨c, List.mem_cons_of_mem call hc, hexpired⟩
      · exact .inr ⟨c, List.mem_cons_self, hexpired⟩

end Cache

/-! ## Signed once, accepted once -/

section Runs

variable {py : Stdlib} {calls : List S2SCall}

theorem lineFree_of_authentic {c : VerifyCall} {r : SignedRequest}
    (hheaders : LineFreeHeaders py calls) (hmethods : LineFreeMethods py calls)
    (hc : .verify c ∈ calls)
    (h : authenticate py c = .ok r) : r.LineFree := by
  have hauthentic := authenticate_eq_ok_iff.mp h
  have hread : ∀ {name fieldName text : String},
      normalizeRequiredText (readHeader py c.headers name) fieldName = .ok text →
      LineFree text := fun hok =>
    lineFree_normalizeRequiredText
      (fun _ hvalue => lineFree_readHeader (hheaders.presented c hc) hvalue) hok
  exact ⟨hmethods.presented c r.method hc hauthentic.method, hread hauthentic.nonce,
    hread hauthentic.serviceName⟩

theorem lineFree_of_signedBy {s : SignCall} {signed : Dict String String} {r : SignedRequest}
    (hheaders : LineFreeHeaders py calls) (hmethods : LineFreeMethods py calls)
    (hs : .sign s ∈ calls) (h : SignedBy py s signed r) :
    r.LineFree := by
  have hread : ∀ {name value : String}, signed.get? name = some value → LineFree value :=
    fun hget => hheaders.signed s signed hs h.returned _ (Dict.get?_eq_some_iff.mp hget)
  exact ⟨hmethods.signed s r.method hs h.method, hread h.nonceHeader,
    hread h.serviceHeader⟩

/-- INTERNAL: a request with a valid signature is, part by part, one that was signed. -/
theorem signedBy_of_authentic (hheaders : LineFreeHeaders py calls)
    (hmethods : LineFreeMethods py calls) (hunforgeable : Unforgeable py calls)
    (hcollision : CollisionFree py calls) {before after : List S2SCall} {c : VerifyCall} {r : SignedRequest}
    (hcalls : calls = before ++ .verify c :: after) (h : authenticate py c = .ok r) :
    ∃ s signed, .sign s ∈ before ∧ SignedBy py s signed r := by
  obtain ⟨s, signed, hs, hsigned, hsignature⟩ := hunforgeable before c after hcalls r h
  obtain ⟨r', hsignedBy, secret', payload', hmac'⟩ := signedBy_of_signRequest hsigned
  obtain ⟨secret, payload, hmac⟩ := (authenticate_eq_ok_iff.mp h).mac
  have hc : .verify c ∈ calls := by simp [hcalls]
  have hs' : .sign s ∈ calls := by simp [hcalls, hs]
  have heq : r.signature = r'.signature := by
    have := hsignedBy.signatureHeader
    rw [hsignature] at this
    exact Option.some.inj this
  have hpayload : payload = payload' :=
    hcollision secret payload secret' payload' (.verify hc h hmac) (.sign hs' hsignedBy hmac')
      (by rw [← hmac.signature_eq, ← hmac'.signature_eq, heq])
  subst hpayload
  have hr : r = r' := eq_of_payload_eq hmac hmac' heq (lineFree_of_authentic hheaders hmethods hc h)
    (lineFree_of_signedBy hheaders hmethods hs' hsignedBy)
  exact ⟨s, signed, hs, hr ▸ hsignedBy⟩

theorem now_le_of_nonDecreasingClock (hclock : NonDecreasingClock calls)
    {before after : List S2SCall} {c d : VerifyCall}
    (hcalls : calls = before ++ .verify d :: after) (hc : .verify c ∈ before) :
    c.now ≤ d.now := by
  subst hcalls
  unfold NonDecreasingClock at hclock
  rw [List.pairwise_append] at hclock
  exact hclock.2.2 _ hc _ List.mem_cons_self

/-- INTERNAL: after a request is accepted, one with the same signed values is not. -/
theorem not_accepts_again {W : ℕ}
    (hwindow : ∀ c, .verify c ∈ calls → c.config.replayWindowSeconds = W)
    (hclock : NonDecreasingClock calls) {before middle after : List S2SCall}
    {c d : VerifyCall} {r : SignedRequest}
    (hcalls : calls = (before ++ .verify c :: middle) ++ .verify d :: after)
    (hc : Accepts py before c r) : ¬ Accepts py (before ++ .verify c :: middle) d r := by
  rintro ⟨hauth, haccepts⟩
  rw [verifyRequest_accepts_iff hauth] at haccepts
  have hd : d.config.replayWindowSeconds = W := hwindow d (by simp [hcalls])
  have hfresh : ¬ (W : ℚ) < d.now - r.timestamp := by
    have := (authenticate_eq_ok_iff.mp hauth).window
    rw [hd] at this
    exact not_lt.mpr (le_trans (le_abs_self _) this)
  have hinserted := verifyRequest_inserts hc.1 hc.2
  have hcache : cacheAfter py (before ++ .verify c :: middle) =
      middle.foldl (S2SCall.step py) (verifyRequest py c (cacheAfter py before)).2 := by
    unfold cacheAfter
    rw [List.foldl_append, List.foldl_cons]
    rfl
  rw [hcache] at haccepts
  rcases run_keeps middle hinserted with hkept | ⟨e, he, hexpired⟩
  · exact hfresh (hd ▸ haccepts r.timestamp hkept)
  · have he' : .verify e ∈ before ++ .verify c :: middle := by simp [he]
    rw [hwindow e (by rw [hcalls]; exact List.mem_append_left _ he')] at hexpired
    have hnow : e.now ≤ d.now := now_le_of_nonDecreasingClock hclock hcalls he'
    exact hfresh (lt_of_lt_of_le hexpired (sub_le_sub_right hnow _))

end Runs

/-- In a run of signing and verifying calls that share a replay cache and a replay window,
with a clock that does not go back and line breaks neither in header values nor in methods,
every request is accepted as it was signed, and once at most. -/
theorem verifyRequest_acceptsOnce (py : Stdlib) (W : ℕ) (calls : List S2SCall)
    (hwindow : ∀ c, .verify c ∈ calls → c.config.replayWindowSeconds = W)
    (hclock : NonDecreasingClock calls) (hheaders : LineFreeHeaders py calls)
    (hmethods : LineFreeMethods py calls) (hunforgeable : Unforgeable py calls)
    (hcollision : CollisionFree py calls) : AcceptsOnce py calls := by
  constructor
  · intro before c after identity hcalls haccepts
    obtain ⟨r, hr, rfl⟩ := verifyRequest_eq_ok haccepts
    obtain ⟨s, signed, hs, hsigned⟩ :=
      signedBy_of_authentic hheaders hmethods hunforgeable hcollision hcalls hr
    exact ⟨r, s, signed, ⟨hr, haccepts⟩, rfl, hs, hsigned⟩
  · intro before c middle d after r r' hcalls hc hd hsignature
    have hcmem : .verify c ∈ calls := by simp [hcalls]
    have hdmem : .verify d ∈ calls := by simp [hcalls]
    obtain ⟨secret, payload, hmac⟩ := (authenticate_eq_ok_iff.mp hc.1).mac
    obtain ⟨secret', payload', hmac'⟩ := (authenticate_eq_ok_iff.mp hd.1).mac
    have hpayload : payload = payload' :=
      hcollision secret payload secret' payload' (.verify hcmem hc.1 hmac)
        (.verify hdmem hd.1 hmac') (by rw [← hmac.signature_eq, ← hmac'.signature_eq, hsignature])
    subst hpayload
    have hr : r = r' := eq_of_payload_eq hmac hmac' hsignature
      (lineFree_of_authentic hheaders hmethods hcmem hc.1) (lineFree_of_authentic hheaders hmethods hdmem hd.1)
    subst hr
    exact not_accepts_again hwindow hclock hcalls hc hd

/-! ## Requests signed at the time 1000 -/

namespace SignedSample

def config : S2SConfig := ⟨some [107, 101, 121], 300, by decide⟩

def token : UrlsafeToken where
  text := "0123456789abcdefghijklmnopqrstuv"
  length_text := Reference.urlsafeToken.length_text
  chars_text := Reference.urlsafeToken.chars_text

def sign (method path serviceName nonce : String) : SignCall :=
  ⟨config, 1000, token, method, path, serviceName, none, none, some nonce⟩

def payload (method path serviceName nonce : String) : String :=
  method ++ "\n" ++ path ++ "\n" ++ "1000" ++ "\n" ++ nonce ++ "\n" ++ serviceName

/-- A request as it is signed: each of its parts is normalised already. -/
structure Request where
  method : String
  path : String
  serviceName : String
  nonce : String
  method_eq : normalizeMethod Reference.stdlib method = .ok method
  path_eq : normalizePath path = .ok path
  serviceName_eq : normalizeRequiredText (some serviceName) "service_name" = .ok serviceName
  nonce_eq : normalizeRequiredText (some nonce) "nonce" = .ok nonce
  nonce_ne : nonce ≠ ""

namespace Request

variable (q q' : Request)

def sign : SignCall := SignedSample.sign q.method q.path q.serviceName q.nonce

def payload : String := SignedSample.payload q.method q.path q.serviceName q.nonce

def signed : SignedRequest :=
  ⟨q.method, q.path, 1000, q.nonce, q.serviceName, hmacSha256Hex [107, 101, 121] q.payload⟩

/-- The headers of `q`, presented with the method and path of `q'`. -/
def verify (now : ℚ) : VerifyCall :=
  ⟨config, now, signedHeaders Dict.empty q.signed, q'.method, q'.path⟩

theorem macOf : MacOf config q.signed [107, 101, 121] q.payload := by
  have htext : timestampText 1000 = .ok "1000" := by decide
  refine ⟨rfl, ?_, rfl⟩
  unfold signaturePayload signed
  simp only [htext]
  rfl

theorem signs : Signs Reference.stdlib q.sign q.signed := by
  refine ⟨q.method_eq, q.path_eq, q.serviceName_eq, ?_, ?_, _, _, q.macOf⟩
  · unfold sign SignedSample.sign orDefault
    simp only [if_neg q.nonce_ne]
    exact q.nonce_eq
  · show (1000 : ℤ) = (1000 : ℚ).num.tdiv (1000 : ℚ).den
    decide

theorem signRequest_eq :
    signRequest Reference.stdlib q.sign = .ok (signedHeaders Dict.empty q.signed) :=
  signRequest_eq_ok_iff.mpr ⟨q.signed, q.signs, rfl⟩

/-- INTERNAL: the signature of `q` is valid for `q'` when both give the same text to sign. -/
theorem authenticate_verify {now : ℚ} (hpayload : q.payload = q'.payload)
    (hservice : q.serviceName = q'.serviceName) (hnonce : q.nonce = q'.nonce)
    (hnow : |now - 1000| ≤ 300) :
    authenticate Reference.stdlib (q.verify q' now) = .ok q'.signed := by
  have hdelivers : Delivers Reference.stdlib (q.verify q' now).headers
      (signedHeaders Dict.empty q.signed) :=
    delivers_signedHeaders q.signs (fun e he => by cases he)
  have hsigned : { q.signed with method := q'.method, path := q'.path } = q'.signed := by
    simp only [signed, hpayload, hservice, hnonce]
  have hfloat : |q.signed.timestamp| < floatBound := by
    show |(1000 : ℤ)| < floatBound
    decide +kernel
  have hauthentic := authentic_of_delivers (c := q.verify q' now) q.signs hdelivers hfloat
    (by exact_mod_cast hnow) q'.method_eq q'.path_eq (hsigned ▸ q'.macOf)
  rw [hsigned] at hauthentic
  exact authenticate_eq_ok_iff.mpr hauthentic

/-- `q` is signed, and presented with the method and path of `q'` at some times. -/
def run (nows : List ℚ) : List S2SCall :=
  .sign q.sign :: nows.map fun now => .verify (q.verify q' now)

section Run

variable {q q'} {nows : List ℚ}

theorem verify_mem_run {c : VerifyCall} (h : .verify c ∈ q.run q' nows) :
    ∃ now ∈ nows, c = q.verify q' now := by
  unfold run at h
  rw [List.mem_cons, List.mem_map] at h
  rcases h with h | ⟨now, hnow, h⟩
  · cases h
  · cases h
    exact ⟨now, hnow, rfl⟩

theorem sign_mem_run {s : SignCall} (h : .sign s ∈ q.run q' nows) : s = q.sign := by
  unfold run at h
  rw [List.mem_cons, List.mem_map] at h
  rcases h with h | ⟨now, hnow, h⟩
  · exact S2SCall.sign.inj h
  · cases h

theorem run_window (c : VerifyCall) (h : .verify c ∈ q.run q' nows) :
    c.config.replayWindowSeconds = 300 := by
  obtain ⟨now, _, rfl⟩ := verify_mem_run h
  rfl

theorem run_lineFreeHeaders (hservice : LineFree q.serviceName) (hnonce : LineFree q.nonce) :
    LineFreeHeaders Reference.stdlib (q.run q' nows) := by
  have hclean := lineFree_signedHeaders q.macOf hservice hnonce
  constructor
  · intro c hc
    obtain ⟨now, _, rfl⟩ := verify_mem_run hc
    exact hclean
  · intro s signed hs hsigned
    rw [sign_mem_run hs, q.signRequest_eq] at hsigned
    cases hsigned
    exact hclean

variable (hpayload : q.payload = q'.payload) (hservice : q.serviceName = q'.serviceName)
  (hnonce : q.nonce = q'.nonce) (hnows : ∀ now ∈ nows, |now - 1000| ≤ 300)

include hpayload hservice hnonce hnows

theorem authenticate_run {c : VerifyCall} {r : SignedRequest}
    (hc : .verify c ∈ q.run q' nows) (h : authenticate Reference.stdlib c = .ok r) :
    r = q'.signed := by
  obtain ⟨now, hnow, rfl⟩ := verify_mem_run hc
  rw [authenticate_verify q q' hpayload hservice hnonce (hnows now hnow)] at h
  exact (Except.ok.inj h).symm

theorem run_unforgeable : Unforgeable Reference.stdlib (q.run q' nows) := by
  intro before c after hcalls r hr
  have hc : .verify c ∈ q.run q' nows := by simp [hcalls]
  have hr' := authenticate_run hpayload hservice hnonce hnows hc hr
  have hfirst : .sign q.sign ∈ before := by
    cases before with
    | nil => cases hcalls
    | cons call before =>
        rw [← (List.cons.inj hcalls).1]
        exact List.mem_cons_self
  refine ⟨q.sign, _, hfirst, q.signRequest_eq, ?_⟩
  rw [(get?_signedHeaders Dict.empty q.signed).2.2.2.2, hr']
  simp only [signed, hpayload]

theorem run_collisionFree : CollisionFree Reference.stdlib (q.run q' nows) := by
  have hone : ∀ secret payload, Hashed Reference.stdlib (q.run q' nows) secret payload →
      payload = q.payload := by
    intro secret payload h
    cases h with
    | sign hs hsigned hmac =>
        rw [sign_mem_run hs] at hsigned
        rw [hsigned.eq_of_signs q.signs] at hmac
        exact hmac.payload_unique q.macOf
    | verify hc hauth hmac =>
        rw [authenticate_run hpayload hservice hnonce hnows hc hauth] at hmac
        exact (hmac.payload_unique q'.macOf).trans hpayload.symm
  intro secret payload secret' payload' h h' _
  rw [hone secret payload h, hone secret' payload' h']

end Run

end Request

/-- A request to change the log level. -/
def logLevel : Request :=
  ⟨"POST", "/admin/log-level", "api-gateway", "n-1", by decide +kernel, by decide, by decide,
    by decide, by decide⟩

/-- A method that holds a line break, and the request it is confused with. -/
def brokenMethod : Request :=
  ⟨"GET\n/A", "/b", "api-gateway", "n-1", by decide +kernel, by decide, by decide, by decide,
    by decide⟩

def movedPath : Request :=
  ⟨"GET", "/A\n/b", "api-gateway", "n-1", by decide +kernel, by decide, by decide, by decide,
    by decide⟩

end SignedSample

open SignedSample Reference in
/-- A signed request is accepted at once, and its repeat is not. -/
theorem verifyRequest_acceptsOnce_logLevel :
    (verifyRequest stdlib (logLevel.verify logLevel 1010)
      (cacheAfter stdlib [.sign logLevel.sign])).1 =
        .ok ⟨"api-gateway", .sharedSecret⟩ ∧
    AcceptsOnce stdlib (logLevel.run logLevel [1010, 1200]) := by
  have hnows : ∀ now ∈ [(1010 : ℚ), 1200], |now - 1000| ≤ 300 := by
    simp only [List.mem_cons, List.not_mem_nil, or_false, forall_eq_or_imp, forall_eq]
    norm_num
  constructor
  · have hauth := Request.authenticate_verify logLevel logLevel rfl rfl rfl (hnows 1010 (by simp))
    refine (verifyRequest_accepts_iff hauth).mpr ?_
    intro timestamp hget
    cases hget
  · refine verifyRequest_acceptsOnce stdlib 300 _ Request.run_window ?_
      (Request.run_lineFreeHeaders (by unfold LineFree; decide) (by unfold LineFree; decide))
      ⟨?_, ?_⟩ (Request.run_unforgeable rfl rfl rfl hnows)
      (Request.run_collisionFree rfl rfl rfl hnows)
    · simp [NonDecreasingClock, Request.run, Request.verify]
      norm_num
    · intro c m hc hm
      obtain ⟨now, _, rfl⟩ := Request.verify_mem_run hc
      cases logLevel.method_eq.symm.trans hm
      unfold LineFree
      decide
    · intro s m hs hm
      rw [Request.sign_mem_run hs] at hm
      cases logLevel.method_eq.symm.trans hm
      unfold LineFree
      decide

open SignedSample Reference in
/-- Without the condition on methods a line break moves between method and path: what was
signed as `GET\n/A /b` is accepted as `GET /A\n/b`. -/
theorem not_acceptsOnce_brokenMethod : ¬ ∀ (py : Stdlib) (W : ℕ) (calls : List S2SCall),
    (∀ c, .verify c ∈ calls → c.config.replayWindowSeconds = W) → NonDecreasingClock calls →
    LineFreeHeaders py calls → Unforgeable py calls → CollisionFree py calls →
    AcceptsOnce py calls := by
  intro hclaim
  have hpayload : brokenMethod.payload = movedPath.payload := by decide
  have hnows : ∀ now ∈ [(1010 : ℚ)], |now - 1000| ≤ 300 := by
    simp only [List.mem_cons, List.not_mem_nil, or_false, forall_eq]
    norm_num
  have honce := hclaim stdlib 300 (brokenMethod.run movedPath [1010])
    Request.run_window (by simp [NonDecreasingClock, Request.run])
    (Request.run_lineFreeHeaders (by unfold LineFree; decide) (by unfold LineFree; decide))
    (Request.run_unforgeable hpayload rfl rfl hnows)
    (Request.run_collisionFree hpayload rfl rfl hnows)
  have hauth := Request.authenticate_verify brokenMethod movedPath hpayload rfl rfl
    (hnows 1010 (by simp))
  have haccepted : (verifyRequest stdlib (brokenMethod.verify movedPath 1010)
      (cacheAfter stdlib [.sign brokenMethod.sign])).1 =
        .ok ⟨"api-gateway", .sharedSecret⟩ := by
    refine (verifyRequest_accepts_iff hauth).mpr ?_
    intro timestamp hget
    cases hget
  obtain ⟨r, s, signed, hr, _, hs, hsigned⟩ :=
    honce.1 [.sign brokenMethod.sign] _ [] _ rfl haccepted
  rw [List.mem_singleton] at hs
  cases hs
  have hmethod := Except.ok.inj (hauth.symm.trans hr.1)
  have hsignedMethod := hsigned.method
  rw [← hmethod] at hsignedMethod
  have hne := Except.ok.inj (brokenMethod.method_eq.symm.trans hsignedMethod)
  exact absurd hne (by decide)

end MediaCenter.Shared
