import Mathlib.Data.List.Induction
import MediaCenter.Analysis.Shared.RequestReplay

/-!
# Requests taken for replays

The replay cache joins service name and nonce with a colon.  A fresh request is refused when
an unexpired entry was made by another pair that joins to the same text.
-/

set_option autoImplicit false

namespace MediaCenter.Shared

open MediaCenter.Library

/-- One of the calls was accepted, with the signed values `r`. -/
def AcceptedIn (py : Stdlib) (calls : List S2SCall) (r : SignedRequest) : Prop :=
  ∃ before c after, calls = before ++ .verify c :: after ∧ Accepts py before c r

/-- Different pairs of service name and nonce with one key: a service name continues the
other past a colon. -/
def KeysCollide (r r' : SignedRequest) : Prop :=
  (∃ m, r'.serviceName = r.serviceName ++ ":" ++ m ∧ r.nonce = m ++ ":" ++ r'.nonce) ∨
    (∃ m, r.serviceName = r'.serviceName ++ ":" ++ m ∧ r'.nonce = m ++ ":" ++ r.nonce)

/-- The entry of another accepted request is in the cache, unexpired, under the key of
`r`. -/
def BlockedByOther (py : Stdlib) (before : List S2SCall) (c : VerifyCall)
    (r : SignedRequest) : Prop :=
  ∃ r', AcceptedIn py before r' ∧ KeysCollide r r' ∧
    (cacheAfter py before).get? (replayCacheKey r'.serviceName r'.nonce) = some r'.timestamp ∧
    c.now - r'.timestamp ≤ c.config.replayWindowSeconds

theorem replayCacheKey_eq_iff {r r' : SignedRequest} :
    replayCacheKey r.serviceName r.nonce = replayCacheKey r'.serviceName r'.nonce ↔
      (r.serviceName = r'.serviceName ∧ r.nonce = r'.nonce) ∨ KeysCollide r r' :=
  JoinedText.text_append_eq_iff (c := ':') rfl

section Entries

variable {py : Stdlib} {calls : List S2SCall} {r : SignedRequest}

theorem AcceptedIn.append (h : AcceptedIn py calls r) (call : S2SCall) :
    AcceptedIn py (calls ++ [call]) r := by
  obtain ⟨before, c, after, rfl, hc⟩ := h
  exact ⟨before, c, after ++ [call], by simp, hc⟩

theorem cacheAfter_append (call : S2SCall) :
    cacheAfter py (calls ++ [call]) = call.step py (cacheAfter py calls) := by
  unfold cacheAfter
  rw [List.foldl_append, List.foldl_cons, List.foldl_nil]

theorem cacheAfter_singleton (c : VerifyCall) :
    cacheAfter py [.verify c] = (verifyRequest py c Dict.empty).2 :=
  rfl

/-- INTERNAL: by induction on the calls, each entry was made by an accepted request. -/
theorem acceptedIn_of_get? {key : String} {timestamp : ℤ}
    (h : (cacheAfter py calls).get? key = some timestamp) :
    ∃ r, AcceptedIn py calls r ∧ key = replayCacheKey r.serviceName r.nonce ∧
      timestamp = r.timestamp := by
  induction calls using List.reverseRecOn with
  | nil => cases h
  | append_singleton calls call ih =>
      have hearlier : (cacheAfter py calls).get? key = some timestamp →
          ∃ r, AcceptedIn py (calls ++ [call]) r ∧
            key = replayCacheKey r.serviceName r.nonce ∧ timestamp = r.timestamp := by
        intro hget
        obtain ⟨r, hr, hkey⟩ := ih hget
        exact ⟨r, hr.append call, hkey⟩
      rw [cacheAfter_append] at h
      cases call with
      | sign s => exact hearlier h
      | verify c =>
          have hkept : (dropExpiredNonces c.now c.config.replayWindowSeconds
              (cacheAfter py calls)).get? key = some timestamp →
              (cacheAfter py calls).get? key = some timestamp :=
            fun hget => (Dict.get?_filter_eq_some_iff.mp hget).1
          change (verifyRequest py c (cacheAfter py calls)).2.get? key = some timestamp at h
          cases hauth : authenticate py c with
          | error e =>
              rw [verifyRequest_cache_of_error hauth] at h
              exact hearlier h
          | ok r =>
              rw [verifyRequest_cache hauth] at h
              simp only at h
              split at h
              · exact hearlier (hkept h)
              · rename_i hmem
                rw [Dict.get?_set] at h
                split at h
                · rename_i hkey
                  refine ⟨r, ⟨calls, c, [], rfl, hauth, ?_⟩, hkey, (Option.some.inj h).symm⟩
                  rw [verifyRequest_accepts_iff hauth]
                  intro timestamp' hget
                  by_contra hexpired
                  exact hmem (contains_dropExpiredNonces_iff.mpr ⟨timestamp', hget, hexpired⟩)
                · exact hearlier (hkept h)

end Entries

/-- A signed request with a fresh pair of service name and nonce, presented as it was signed
and within the window, is accepted exactly when a `float` holds its timestamp and no other pair
blocks its key. -/
theorem verifyRequest_acceptsFresh_iff (py : Stdlib) (before : List S2SCall) (s : SignCall)
    (c : VerifyCall) (signed : Dict String String) (r : SignedRequest)
    (hsigned : SignedBy py s signed r)
    (hsecret : c.config.sharedSecret = s.config.sharedSecret)
    (hdelivers : Delivers py c.headers signed)
    (hmethod : normalizeMethod py c.method = normalizeMethod py s.method)
    (hpath : normalizePath c.path = normalizePath s.path)
    (hwindow : |c.now - r.timestamp| ≤ c.config.replayWindowSeconds)
    (hfresh : ∀ r', AcceptedIn py before r' →
      ¬ (r'.serviceName = r.serviceName ∧ r'.nonce = r.nonce)) :
    (verifyRequest py c (cacheAfter py before)).1 = .ok ⟨r.serviceName, .sharedSecret⟩ ↔
      |r.timestamp| < floatBound ∧ ¬ BlockedByOther py before c r := by
  obtain ⟨r₀, hsigns, rfl⟩ := signRequest_eq_ok_iff.mp hsigned.returned
  have hr := hsigned.eq_of_signs hsigns
  subst hr
  obtain ⟨secret, payload, hmac⟩ := hsigns.mac
  have hmac' : MacOf c.config r secret payload := by
    refine ⟨?_, hmac.payload_eq, hmac.signature_eq⟩
    have hbytes := hmac.secretBytes_eq
    unfold secretBytes at hbytes ⊢
    rwa [hsecret]
  by_cases hfloat : |r.timestamp| < floatBound
  swap
  · -- the timestamp does not get through the comparison with the clock
    constructor
    · intro haccepts
      obtain ⟨r', hr', _⟩ := verifyRequest_eq_ok haccepts
      have hread := (authenticate_eq_ok_iff.mp hr').timestamp
      obtain ⟨_, _, htimestamp, _⟩ := get?_signedHeaders (s.headers.getD Dict.empty) r
      obtain ⟨text, htext⟩ := hmac.timestampText_eq
      rw [hdelivers _ (by decide), htimestamp, parseTimestamp_toString htext,
        Except.ok.injEq] at hread
      rw [hread] at hfloat
      exact absurd (authenticate_eq_ok_iff.mp hr').floating hfloat
    · rintro ⟨h, _⟩
      exact absurd h hfloat
  have hauth : authenticate py c = .ok r :=
    authenticate_eq_ok_iff.mpr (authentic_of_delivers hsigns hdelivers hfloat hwindow
      (hmethod.trans hsigns.method) (hpath.trans hsigns.path) hmac')
  rw [verifyRequest_accepts_iff hauth, and_iff_right hfloat]
  constructor
  · rintro hexpired ⟨r', _, hcollide, hget, hfreshEntry⟩
    rw [← replayCacheKey_eq_iff.mpr (.inr hcollide)] at hget
    exact absurd (hexpired r'.timestamp hget) (not_lt.mpr hfreshEntry)
  · intro hblocked timestamp hget
    by_contra hunexpired
    obtain ⟨r', haccepted, hkey, rfl⟩ := acceptedIn_of_get? hget
    rcases replayCacheKey_eq_iff.mp hkey with ⟨hservice, hnonce⟩ | hcollide
    · exact hfresh r' haccepted ⟨hservice.symm, hnonce.symm⟩
    · exact hblocked ⟨r', haccepted, hcollide, hkey ▸ hget, not_lt.mp hunexpired⟩

namespace SignedSample

/-- Two requests whose pairs of service name and nonce both join to `a:b:c`. -/
def colonInService : Request :=
  ⟨"GET", "/status", "a:b", "c", movedPath.method_eq, by decide, by decide, by decide,
    by decide⟩

def colonInNonce : Request :=
  ⟨"GET", "/status", "a", "b:c", movedPath.method_eq, by decide, by decide, by decide,
    by decide⟩

theorem Request.signedBy (q : Request) :
    SignedBy Reference.stdlib q.sign (signedHeaders Dict.empty q.signed) q.signed := by
  obtain ⟨r, hsigned, _⟩ := signedBy_of_signRequest q.signRequest_eq
  rw [hsigned.eq_of_signs q.signs] at hsigned
  exact hsigned

theorem Request.delivers (q q' : Request) (now : ℚ) :
    Delivers Reference.stdlib (q.verify q' now).headers (signedHeaders Dict.empty q.signed) :=
  delivers_signedHeaders q.signs (fun e he => by cases he)

theorem Request.now_mem_window : |(1010 : ℚ) - (1000 : ℤ)| ≤ (300 : ℕ) := by norm_num

/-- One request has been accepted. -/
def history : List S2SCall := [.verify (colonInService.verify colonInService 1010)]

theorem signed_of_acceptedIn {r' : SignedRequest} (h : AcceptedIn Reference.stdlib history r') :
    r' = colonInService.signed := by
  obtain ⟨before, c, after, hcalls, hc, _⟩ := h
  have hmem : S2SCall.verify c ∈ history := by
    rw [hcalls]
    exact List.mem_append_right _ List.mem_cons_self
  rw [history, List.mem_singleton] at hmem
  cases hmem
  exact (Except.ok.inj ((Request.authenticate_verify colonInService colonInService rfl rfl rfl
    Request.now_mem_window).symm.trans hc)).symm

end SignedSample

open SignedSample Reference in
/-- After a request of another service the request is accepted. -/
theorem verifyRequest_acceptsFresh_logLevel :
    (verifyRequest stdlib (logLevel.verify logLevel 1010)
      (cacheAfter stdlib history)).1 = .ok ⟨"api-gateway", .sharedSecret⟩ := by
  have hservice : "a:b" ≠ "api-gateway" := by decide
  refine (verifyRequest_acceptsFresh_iff stdlib history logLevel.sign _ _ logLevel.signed
    logLevel.signedBy rfl (logLevel.delivers logLevel 1010) rfl rfl Request.now_mem_window
    ?_).mpr ⟨?_, ?_⟩
  · rintro r' haccepted ⟨hsame, _⟩
    rw [signed_of_acceptedIn haccepted] at hsame
    exact hservice hsame
  · show |(1000 : ℤ)| < floatBound
    decide +kernel
  · rintro ⟨r', haccepted, hcollide, _⟩
    rw [signed_of_acceptedIn haccepted] at hcollide
    have hkeys : replayCacheKey logLevel.signed.serviceName logLevel.signed.nonce ≠
        replayCacheKey colonInService.signed.serviceName colonInService.signed.nonce := by decide
    exact hkeys (replayCacheKey_eq_iff.mpr (.inr hcollide))

open SignedSample Reference in
/-- After `a:b` with the nonce `c`, the fresh nonce `b:c` of the service `a` is refused. -/
theorem verifyRequest_refusesFresh_colonInNonce : ¬ ∀ (py : Stdlib) (before : List S2SCall)
    (s : SignCall) (c : VerifyCall) (signed : Dict String String) (r : SignedRequest),
    SignedBy py s signed r → c.config.sharedSecret = s.config.sharedSecret →
    Delivers py c.headers signed →
    normalizeMethod py c.method = normalizeMethod py s.method →
    normalizePath c.path = normalizePath s.path →
    |c.now - r.timestamp| ≤ c.config.replayWindowSeconds →
    (∀ r', AcceptedIn py before r' →
      ¬ (r'.serviceName = r.serviceName ∧ r'.nonce = r.nonce)) →
    (verifyRequest py c (cacheAfter py before)).1 = .ok ⟨r.serviceName, .sharedSecret⟩ := by
  intro hclaim
  have hnow : |(1010 : ℚ) - 1000| ≤ 300 := by norm_num
  have hfirst := Request.authenticate_verify colonInService colonInService rfl rfl rfl hnow
  have hsecond := Request.authenticate_verify colonInNonce colonInNonce rfl rfl rfl hnow
  have haccepted : (verifyRequest stdlib (colonInService.verify colonInService 1010)
      Dict.empty).1 = .ok ⟨"a:b", .sharedSecret⟩ := by
    refine (verifyRequest_accepts_iff hfirst).mpr ?_
    intro timestamp hget
    cases hget
  have hfresh : ∀ r', AcceptedIn stdlib history r' →
      ¬ (r'.serviceName = colonInNonce.signed.serviceName ∧
        r'.nonce = colonInNonce.signed.nonce) := by
    rintro r' hr' ⟨hservice, _⟩
    rw [signed_of_acceptedIn hr'] at hservice
    exact absurd hservice (by decide)
  have haccepts := hclaim stdlib history colonInNonce.sign
    (colonInNonce.verify colonInNonce 1010) _ _ colonInNonce.signedBy rfl (colonInNonce.delivers
    colonInNonce 1010) rfl rfl hnow hfresh
  rw [verifyRequest_accepts_iff hsecond] at haccepts
  have hentry := verifyRequest_inserts hfirst haccepted
  rw [← cacheAfter_singleton] at hentry
  have hkeys : replayCacheKey colonInService.signed.serviceName colonInService.signed.nonce =
      replayCacheKey colonInNonce.signed.serviceName colonInNonce.signed.nonce := by decide
  rw [hkeys] at hentry
  have hexpired := haccepts 1000 hentry
  exact absurd hexpired (by show ¬ ((300 : ℕ) : ℚ) < 1010 - (1000 : ℤ); norm_num)

end MediaCenter.Shared
