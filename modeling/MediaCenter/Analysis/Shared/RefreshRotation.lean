import Mathlib.Logic.Relation
import MediaCenter.Library.Decimal
import MediaCenter.Library.Unwinding
import MediaCenter.Model.Shared.AuthTokens

/-!
# Rotation of refresh tokens

A refresh token is exchanged once, while it is neither revoked nor expired.  What a record says
of its revocation is written over by `revoke_refresh_token` alone, when it is called with a token
that is revoked already.
-/

set_option autoImplicit false

namespace MediaCenter.Shared

open MediaCenter.Library

inductive AuthCall : Type where
  | issueTokenPair (issuedAt : ℤ) (subject tenantId : String) (roles : List String)
      (correlationId : Option String)
  | refreshTokenPair (now issuedAt : ℤ) (refreshToken : String) (correlationId : Option String)
  | revokeRefreshToken (now : ℤ) (refreshToken : String)

/-- The clock readings of a call, in their order. -/
def AuthCall.readings : AuthCall → List ℤ
  | .issueTokenPair issuedAt _ _ _ _ => [issuedAt]
  | .refreshTokenPair now issuedAt _ _ => [now, issuedAt]
  | .revokeRefreshToken now _ => [now]

/-- `revoke_refresh_token` returns nothing. -/
abbrev AuthAnswer : Type := Except SharedException (Option TokenPair)

namespace AuthTokenService

def step (service : AuthTokenService) (tokens : AuthTokens) :
    AuthCall → AuthAnswer × AuthTokens
  | .issueTokenPair issuedAt subject tenantId roles correlationId =>
      match service.issueTokenPair issuedAt subject tenantId roles correlationId tokens with
      | .error e => (.error e, tokens)
      | .ok (tokenPair, issued) => (.ok (some tokenPair), issued)
  | .refreshTokenPair now issuedAt refreshToken correlationId =>
      let r := service.refreshTokenPair now issuedAt refreshToken correlationId tokens
      (r.1.map some, r.2)
  | .revokeRefreshToken now refreshToken =>
      (.ok none, service.revokeRefreshToken now refreshToken tokens)

/-- The record of a refresh token. -/
def recordOf (service : AuthTokenService) (tokens : AuthTokens) (token : String) :
    Option RefreshTokenRecord :=
  InMemoryRefreshTokenStore.get (service.hashRefreshToken token) tokens.records

section Runs

variable (service : AuthTokenService) (calls : List AuthCall)

def tokensAfter : AuthTokens := after service.step AuthTokens.empty calls

/-- The pair that a call exchanged a token for. -/
def exchanged (token : String) : AuthCall × AuthAnswer → Option TokenPair
  | (.refreshTokenPair _ _ refreshToken _, .ok (some tokenPair)) =>
      if refreshToken = token then some tokenPair else none
  | _ => none

def exchanges (token : String) : List TokenPair :=
  (answers service.step AuthTokens.empty calls).filterMap (exchanged token)

/-- A token and the one it was exchanged for. -/
def Linked (a b : String) : Prop :=
  ∃ tokenPair ∈ service.exchanges calls a, tokenPair.refreshToken = b

def Revoked (token : String) : Prop :=
  ∃ record, service.recordOf (service.tokensAfter calls) token = some record ∧
    record.revokedAt ≠ none

def Unrevoked (token : String) : Prop :=
  ∃ record, service.recordOf (service.tokensAfter calls) token = some record ∧
    record.revokedAt = none

/-- Rotation of the refresh tokens in a run. -/
structure Rotates : Prop where
  exchanged_once : ∀ token, (service.exchanges calls token).length ≤ 1
  exchanged_live : ∀ earlier now issuedAt token correlationId later,
    calls = earlier ++ .refreshTokenPair now issuedAt token correlationId :: later →
    ∀ tokenPair, (service.step (service.tokensAfter earlier)
      (.refreshTokenPair now issuedAt token correlationId)).1 = .ok (some tokenPair) →
    ∃ record, service.recordOf (service.tokensAfter earlier) token = some record ∧
      record.revokedAt = none ∧ now < record.expiresAt
  revoked_by_call : ∀ earlier now token later,
    calls = earlier ++ .revokeRefreshToken now token :: later →
    service.recordOf (service.tokensAfter earlier) token ≠ none →
    service.Revoked (earlier ++ [.revokeRefreshToken now token]) token
  not_exchanged_after : ∀ earlier later token, calls = earlier ++ later →
    service.Revoked earlier token →
    (answers service.step (service.tokensAfter earlier) later).filterMap (exchanged token) = []
  one_unrevoked : ∀ a b, Relation.EqvGen (service.Linked calls) a b →
    service.Unrevoked calls a → service.Unrevoked calls b → a = b
  revocation_kept : ∀ earlier middle later token record, calls = earlier ++ middle ++ later →
    service.recordOf (service.tokensAfter earlier) token = some record →
    record.revokedAt ≠ none →
    ∃ record', service.recordOf (service.tokensAfter (earlier ++ middle)) token = some record' ∧
      record'.revokedAt = record.revokedAt ∧ record'.replacedByJti = record.replacedByJti
  replacement_recorded : ∀ a b, service.Linked calls a b → ∃ used replacement,
    service.recordOf (service.tokensAfter calls) a = some used ∧
    service.recordOf (service.tokensAfter calls) b = some replacement ∧
    used.replacedByJti = some replacement.refreshJti

end Runs

/-- `revoke_refresh_token` is not called with a token that is revoked, unless it would write
what the record says already. -/
def RevokesOnce (service : AuthTokenService) (tokens : AuthTokens) : AuthCall → Prop
  | .revokeRefreshToken now refreshToken =>
      ∀ record, service.recordOf tokens refreshToken = some record →
        record.revokedAt = none ∨
          (record.revokedAt = some now ∧ record.replacedByJti = none)
  | .issueTokenPair .. => True
  | .refreshTokenPair .. => True

/-! ## What a call does -/

section Calls

variable {service : AuthTokenService} {tokens : AuthTokens}

/-- Every record is that of a token which the factory has made. -/
def Made (service : AuthTokenService) (tokens : AuthTokens) : Prop :=
  ∀ token, service.recordOf tokens token ≠ none →
    ∃ i, i < tokens.tokensMade ∧ token = service.refreshTokenFactory i

/-- INTERNAL: what `issue_token_pair` does when it does not raise. -/
theorem issueTokenPair_eq_ok {issuedAt : ℤ} {subject tenantId : String} {roles : List String}
    {correlationId : Option String} {tokenPair : TokenPair} {issued : AuthTokens}
    (h : service.issueTokenPair issuedAt subject tenantId roles correlationId tokens =
      .ok (tokenPair, issued)) :
    ∃ record : RefreshTokenRecord, record.revokedAt = none ∧
      tokenPair.refreshToken = service.refreshTokenFactory tokens.tokensMade ∧
      record.tokenHash = service.hashRefreshToken tokenPair.refreshToken ∧
      issued = ⟨InMemoryRefreshTokenStore.save record tokens.records, tokens.idsMade + 2,
        tokens.tokensMade + 1⟩ := by
  unfold issueTokenPair at h
  simp only [bind_eq_ok_iff] at h
  obtain ⟨rolesTuple, _, _, _, _, _, hreturn⟩ := h
  cases hreturn
  exact ⟨_, rfl, rfl, rfl, rfl⟩

theorem recordOf_save {record : RefreshTokenRecord} {made : String} {ids made' : ℕ}
    (hhash : record.tokenHash = service.hashRefreshToken made) (token : String) :
    service.recordOf ⟨InMemoryRefreshTokenStore.save record tokens.records, ids, made'⟩ token =
      if token = made then some record else service.recordOf tokens token := by
  unfold recordOf InMemoryRefreshTokenStore.get InMemoryRefreshTokenStore.save
  rw [hhash, Dict.get?_set]
  by_cases hmade : token = made
  · rw [if_pos hmade, if_pos (by rw [hmade])]
  · rw [if_neg hmade, if_neg fun h => hmade (service.hashRefreshToken_injective h)]

theorem recordOf_revoke {record : RefreshTokenRecord} {used : String} {now : ℤ}
    {replacedByJti : Option String} {ids made : ℕ}
    (hrecord : service.recordOf tokens used = some record) (token : String) :
    service.recordOf ⟨InMemoryRefreshTokenStore.revoke (service.hashRefreshToken used) now
        replacedByJti tokens.records, ids, made⟩ token =
      if token = used then
        some { record with revokedAt := some now, replacedByJti := replacedByJti }
      else service.recordOf tokens token := by
  unfold recordOf at hrecord
  unfold recordOf InMemoryRefreshTokenStore.revoke
  rw [hrecord]
  show Dict.get? _ _ = _
  rw [Dict.get?_set]
  by_cases hused : token = used
  · rw [if_pos hused, if_pos (by rw [hused])]
  · rw [if_neg hused, if_neg fun h => hused (service.hashRefreshToken_injective h)]
    rfl

theorem revoke_of_unknown {used : String} {now : ℤ} {replacedByJti : Option String}
    (hrecord : service.recordOf tokens used = none) :
    InMemoryRefreshTokenStore.revoke (service.hashRefreshToken used) now replacedByJti
      tokens.records = tokens.records := by
  unfold recordOf at hrecord
  unfold InMemoryRefreshTokenStore.revoke
  rw [hrecord]

/-- What a call does, seen through the records of the tokens. -/
inductive Behaviour (service : AuthTokenService) (tokens : AuthTokens) :
    AuthCall → AuthAnswer × AuthTokens → Prop
  | refused {call : AuthCall} (e : SharedException) :
      Behaviour service tokens call (.error e, tokens)
  | issued {issuedAt : ℤ} {subject tenantId : String} {roles : List String}
      {correlationId : Option String} {tokenPair : TokenPair} {record : RefreshTokenRecord}
      {next : AuthTokens} (hnew : record.revokedAt = none)
      (hmade : tokenPair.refreshToken = service.refreshTokenFactory tokens.tokensMade)
      (hcount : next.tokensMade = tokens.tokensMade + 1)
      (hnext : ∀ token, service.recordOf next token =
        if token = tokenPair.refreshToken then some record
        else service.recordOf tokens token) :
      Behaviour service tokens
        (.issueTokenPair issuedAt subject tenantId roles correlationId)
        (.ok (some tokenPair), next)
  | expired {now issuedAt : ℤ} {used : String} {correlationId : Option String}
      {record : RefreshTokenRecord} {next : AuthTokens} (e : SharedException)
      (hrecord : service.recordOf tokens used = some record)
      (hunrevoked : record.revokedAt = none) (hcount : next.tokensMade = tokens.tokensMade)
      (hnext : ∀ token, service.recordOf next token =
        if token = used then some { record with revokedAt := some now, replacedByJti := none }
        else service.recordOf tokens token) :
      Behaviour service tokens (.refreshTokenPair now issuedAt used correlationId)
        (.error e, next)
  | exchanged {now issuedAt : ℤ} {used : String} {correlationId : Option String}
      {tokenPair : TokenPair} {record new : RefreshTokenRecord} {next : AuthTokens}
      (hrecord : service.recordOf tokens used = some record)
      (hunrevoked : record.revokedAt = none) (hlive : now < record.expiresAt)
      (hnew : new.revokedAt = none)
      (hmade : tokenPair.refreshToken = service.refreshTokenFactory tokens.tokensMade)
      (hcount : next.tokensMade = tokens.tokensMade + 1)
      (hnext : ∀ token, service.recordOf next token =
        if token = used then
          some { record with revokedAt := some now, replacedByJti := some new.refreshJti }
        else if token = tokenPair.refreshToken then some new
        else service.recordOf tokens token) :
      Behaviour service tokens (.refreshTokenPair now issuedAt used correlationId)
        (.ok (some tokenPair), next)
  | unknown {now : ℤ} {used : String} (hrecord : service.recordOf tokens used = none) :
      Behaviour service tokens (.revokeRefreshToken now used) (.ok none, tokens)
  | revoked {now : ℤ} {used : String} {record : RefreshTokenRecord} {next : AuthTokens}
      (hrecord : service.recordOf tokens used = some record)
      (hcount : next.tokensMade = tokens.tokensMade)
      (hnext : ∀ token, service.recordOf next token =
        if token = used then some { record with revokedAt := some now, replacedByJti := none }
        else service.recordOf tokens token) :
      Behaviour service tokens (.revokeRefreshToken now used) (.ok none, next)

theorem recordOf_new (hmade : service.Made tokens) {token : String}
    (htoken : token = service.refreshTokenFactory tokens.tokensMade) :
    service.recordOf tokens token = none := by
  by_contra hrecord
  obtain ⟨i, hi, htoken'⟩ := hmade token hrecord
  rw [htoken] at htoken'
  have : tokens.tokensMade = i := service.refreshTokenFactory_injective htoken'
  omega

/-- INTERNAL: the specification of a call; the new token of an exchange is not the old one, as
the old one has a record. -/
theorem behaviour_step (hmade : service.Made tokens) (call : AuthCall) :
    Behaviour service tokens call (service.step tokens call) := by
  cases call with
  | issueTokenPair issuedAt subject tenantId roles correlationId =>
      unfold step
      simp only
      cases hissue : service.issueTokenPair issuedAt subject tenantId roles correlationId tokens with
      | error e => exact .refused e
      | ok result =>
          obtain ⟨tokenPair, issued⟩ := result
          obtain ⟨record, hnew, htoken, hhash, rfl⟩ := issueTokenPair_eq_ok hissue
          exact .issued hnew htoken rfl (recordOf_save hhash)
  | refreshTokenPair now issuedAt used correlationId =>
      unfold step refreshTokenPair
      simp only
      cases hrecord : InMemoryRefreshTokenStore.get (service.hashRefreshToken used)
          tokens.records with
      | none => exact .refused _
      | some record =>
          have hused : service.recordOf tokens used = some record := hrecord
          simp only
          by_cases hrevoked : record.revokedAt ≠ none
          · rw [if_pos hrevoked]
            exact .refused _
          · rw [if_neg hrevoked]
            have hunrevoked : record.revokedAt = none := not_not.mp hrevoked
            by_cases hlate : record.expiresAt ≤ now
            · rw [if_pos hlate]
              exact .expired _ hused hunrevoked rfl (recordOf_revoke hused)
            · rw [if_neg hlate]
              cases hissue : service.issueTokenPair issuedAt record.subject record.tenantId
                  record.roles correlationId tokens with
              | error e => exact .refused e
              | ok result =>
                  obtain ⟨tokenPair, issued⟩ := result
                  obtain ⟨new, hnew, htoken, hhash, rfl⟩ := issueTokenPair_eq_ok hissue
                  have hother : used ≠ tokenPair.refreshToken := by
                    intro h
                    rw [h, recordOf_new hmade htoken] at hused
                    cases hused
                  have hsaved : ∀ token, service.recordOf
                      ⟨InMemoryRefreshTokenStore.save new tokens.records, tokens.idsMade + 2,
                        tokens.tokensMade + 1⟩ token =
                      if token = tokenPair.refreshToken then some new
                      else service.recordOf tokens token := recordOf_save hhash
                  have hreplacement : InMemoryRefreshTokenStore.get
                      (service.hashRefreshToken tokenPair.refreshToken)
                      (InMemoryRefreshTokenStore.save new tokens.records) = some new := by
                    have h := hsaved tokenPair.refreshToken
                    rw [if_pos rfl] at h
                    exact h
                  have hold : service.recordOf ⟨InMemoryRefreshTokenStore.save new tokens.records,
                      tokens.idsMade + 2, tokens.tokensMade + 1⟩ used = some record := by
                    rw [hsaved, if_neg hother]
                    exact hused
                  refine .exchanged hused hunrevoked (not_le.mp hlate) hnew htoken
                    rfl fun token => ?_
                  show service.recordOf ⟨InMemoryRefreshTokenStore.revoke _ _ _ _, _, _⟩ token = _
                  rw [hreplacement, Option.map_some]
                  rw [recordOf_revoke hold, hsaved]
  | revokeRefreshToken now used =>
      unfold step revokeRefreshToken
      cases hused : service.recordOf tokens used with
      | none =>
          simp only
          rw [revoke_of_unknown hused]
          exact .unknown hused
      | some record => exact .revoked hused rfl (recordOf_revoke hused)

theorem made_step (hmade : service.Made tokens) (call : AuthCall) :
    service.Made (service.step tokens call).2 := by
  have hbehaviour := behaviour_step hmade call
  generalize service.step tokens call = r at hbehaviour
  intro token htoken
  cases hbehaviour with
  | refused e => exact hmade token htoken
  | @issued _ _ _ _ _ tokenPair _ next _ hfactory hcount hnext =>
      show ∃ i, i < next.tokensMade ∧ _
      rw [hcount]
      by_cases hnew : token = tokenPair.refreshToken
      · exact ⟨tokens.tokensMade, by omega, hnew.trans hfactory⟩
      · rw [hnext, if_neg hnew] at htoken
        obtain ⟨i, hi, heq⟩ := hmade token htoken
        exact ⟨i, by omega, heq⟩
  | @expired _ _ used _ record next e hrecord _ hcount hnext =>
      rw [hcount]
      by_cases hused : token = used
      · rw [hused]
        exact hmade used (by rw [hrecord]; exact Option.some_ne_none record)
      · rw [hnext, if_neg hused] at htoken
        exact hmade token htoken
  | @exchanged _ _ used _ tokenPair record _ next hrecord _ _ _ hfactory hcount hnext =>
      rw [hcount]
      by_cases hused : token = used
      · obtain ⟨i, hi, heq⟩ := hmade used (by rw [hrecord]; exact Option.some_ne_none record)
        exact ⟨i, by omega, hused.trans heq⟩
      · by_cases hnew : token = tokenPair.refreshToken
        · exact ⟨tokens.tokensMade, by omega, hnew.trans hfactory⟩
        · rw [hnext, if_neg hused, if_neg hnew] at htoken
          obtain ⟨i, hi, heq⟩ := hmade token htoken
          exact ⟨i, by omega, heq⟩
  | unknown hrecord => exact hmade token htoken
  | @revoked _ used record next hrecord hcount hnext =>
      rw [hcount]
      by_cases hused : token = used
      · rw [hused]
        exact hmade used (by rw [hrecord]; exact Option.some_ne_none record)
      · rw [hnext, if_neg hused] at htoken
        exact hmade token htoken

/-- What a call does to a record that is there: nothing, or the call revokes it. -/
inductive Moved (token : String) (record : RefreshTokenRecord) :
    AuthCall → AuthAnswer → RefreshTokenRecord → Prop
  | kept {call : AuthCall} {answer : AuthAnswer}
      (hnot : exchanged token (call, answer) = none) : Moved token record call answer record
  | revoked (now : ℤ) (answer : AuthAnswer) :
      Moved token record (.revokeRefreshToken now token) answer
        { record with revokedAt := some now, replacedByJti := none }
  | expired {now issuedAt : ℤ} {correlationId : Option String} (e : SharedException)
      (hunrevoked : record.revokedAt = none) :
      Moved token record (.refreshTokenPair now issuedAt token correlationId) (.error e)
        { record with revokedAt := some now, replacedByJti := none }
  | exchanged {now issuedAt : ℤ} {correlationId : Option String} (tokenPair : TokenPair)
      (jti : String) (hunrevoked : record.revokedAt = none) (hlive : now < record.expiresAt) :
      Moved token record (.refreshTokenPair now issuedAt token correlationId)
        (.ok (some tokenPair)) { record with revokedAt := some now, replacedByJti := some jti }

theorem exchanged_error (token : String) (call : AuthCall) (e : SharedException) :
    AuthTokenService.exchanged token (call, .error e) = none := by
  cases call with
  | issueTokenPair => rfl
  | refreshTokenPair => rfl
  | revokeRefreshToken => rfl

theorem exchanged_of_ne {now issuedAt : ℤ} {used token : String} {correlationId : Option String}
    {answer : AuthAnswer} (hne : token ≠ used) :
    AuthTokenService.exchanged token
      (.refreshTokenPair now issuedAt used correlationId, answer) = none := by
  match answer with
  | .error _ => rfl
  | .ok none => rfl
  | .ok (some _) => exact if_neg fun h => hne h.symm

/-- INTERNAL: a new token has no record before it is made. -/
theorem ne_of_recordOf (hmade : service.Made tokens) {token made : String}
    {record : RefreshTokenRecord} (hrecord : service.recordOf tokens token = some record)
    (hfactory : made = service.refreshTokenFactory tokens.tokensMade) : token ≠ made := by
  intro heq
  rw [heq, recordOf_new hmade hfactory] at hrecord
  cases hrecord

theorem moved_step (hmade : service.Made tokens) (call : AuthCall) {token : String}
    {record : RefreshTokenRecord} (hrecord : service.recordOf tokens token = some record) :
    ∃ record', service.recordOf (service.step tokens call).2 token = some record' ∧
      Moved token record call (service.step tokens call).1 record' := by
  have hbehaviour := behaviour_step hmade call
  generalize service.step tokens call = r at hbehaviour
  cases hbehaviour with
  | refused e =>
      exact ⟨record, hrecord, .kept (exchanged_error token call e)⟩
  | issued _ hfactory _ hnext =>
      refine ⟨record, ?_, .kept rfl⟩
      rw [hnext, if_neg (ne_of_recordOf hmade hrecord hfactory)]
      exact hrecord
  | @expired _ _ used _ old _ e hold hunrevoked _ hnext =>
      by_cases hused : token = used
      · subst hused
        rw [hrecord] at hold
        cases hold
        exact ⟨_, by rw [hnext, if_pos rfl], .expired e hunrevoked⟩
      · refine ⟨record, ?_, .kept rfl⟩
        rw [hnext, if_neg hused]
        exact hrecord
  | @exchanged _ _ used _ tokenPair old new _ hold hunrevoked hlive _ hfactory _ hnext =>
      by_cases hused : token = used
      · subst hused
        rw [hrecord] at hold
        cases hold
        exact ⟨_, by rw [hnext, if_pos rfl], .exchanged tokenPair new.refreshJti hunrevoked hlive⟩
      · refine ⟨record, ?_, .kept (exchanged_of_ne hused)⟩
        rw [hnext, if_neg hused, if_neg (ne_of_recordOf hmade hrecord hfactory)]
        exact hrecord
  | unknown _ => exact ⟨record, hrecord, .kept rfl⟩
  | @revoked _ used old _ hold _ hnext =>
      by_cases hused : token = used
      · subst hused
        rw [hrecord] at hold
        cases hold
        exact ⟨_, by rw [hnext, if_pos rfl], .revoked _ _⟩
      · refine ⟨record, ?_, .kept rfl⟩
        rw [hnext, if_neg hused]
        exact hrecord

theorem exchanged_step (hmade : service.Made tokens) (call : AuthCall) {token : String}
    {tokenPair : TokenPair}
    (h : exchanged token (call, (service.step tokens call).1) = some tokenPair) :
    ∃ now issuedAt correlationId record new,
      call = .refreshTokenPair now issuedAt token correlationId ∧
      service.recordOf tokens token = some record ∧ record.revokedAt = none ∧
      now < record.expiresAt ∧
      service.recordOf (service.step tokens call).2 token = some
        { record with revokedAt := some now, replacedByJti := some new.refreshJti } ∧
      service.recordOf (service.step tokens call).2 tokenPair.refreshToken = some new := by
  have hbehaviour := behaviour_step hmade call
  generalize service.step tokens call = r at hbehaviour h ⊢
  cases hbehaviour with
  | refused e =>
      rw [exchanged_error] at h
      cases h
  | issued => cases h
  | expired => cases h
  | unknown => cases h
  | revoked => cases h
  | @exchanged now issuedAt used correlationId made record new next hrecord hunrevoked hlive _
      hfactory _ hnext =>
      change (if used = token then some made else none) = some tokenPair at h
      by_cases hused : used = token
      · rw [if_pos hused] at h
        cases h
        subst hused
        refine ⟨now, issuedAt, correlationId, record, new, rfl, hrecord, hunrevoked, hlive, ?_, ?_⟩
        · rw [hnext, if_pos rfl]
        · rw [hnext, if_neg (ne_of_recordOf hmade hrecord hfactory).symm, if_pos rfl]
      · rw [if_neg hused] at h
        cases h

end Calls

namespace Moved

variable {token : String} {record record' : RefreshTokenRecord} {call : AuthCall}
  {answer : AuthAnswer}

theorem refreshJti_eq (h : Moved token record call answer record') :
    record'.refreshJti = record.refreshJti := by
  cases h <;> rfl

theorem revoked_of_revoked (h : Moved token record call answer record')
    (hrevoked : record.revokedAt ≠ none) : record'.revokedAt ≠ none := by
  cases h with
  | kept _ => exact hrevoked
  | revoked now => exact Option.some_ne_none now
  | expired e _ => exact Option.some_ne_none _
  | exchanged _ _ _ _ => exact Option.some_ne_none _

theorem not_exchanged (h : Moved token record call answer record')
    (hrevoked : record.revokedAt ≠ none) :
    AuthTokenService.exchanged token (call, answer) = none := by
  cases h with
  | kept hnot => exact hnot
  | revoked now => rfl
  | expired e _ => rfl
  | exchanged _ _ hunrevoked _ => exact absurd hunrevoked hrevoked

/-- INTERNAL: a revoked record is written over by `revoke_refresh_token` alone. -/
theorem revocation_eq {service : AuthTokenService} {tokens : AuthTokens}
    (h : Moved token record call answer record')
    (hrecord : service.recordOf tokens token = some record)
    (hrevoked : record.revokedAt ≠ none) (honce : service.RevokesOnce tokens call) :
    record'.revokedAt = record.revokedAt ∧ record'.replacedByJti = record.replacedByJti := by
  cases h with
  | kept _ => exact ⟨rfl, rfl⟩
  | revoked now =>
      rcases honce record hrecord with hnone | ⟨hat, hjti⟩
      · exact absurd hnone hrevoked
      · exact ⟨hat.symm, hjti.symm⟩
  | expired e hunrevoked => exact absurd hunrevoked hrevoked
  | exchanged _ _ hunrevoked _ => exact absurd hunrevoked hrevoked

end Moved

/-! ## Runs -/

section Runs

variable {service : AuthTokenService} {calls earlier middle later : List AuthCall}
  {token : String}

theorem made_tokensAfter (calls : List AuthCall) : service.Made (service.tokensAfter calls) := by
  induction calls using List.reverseRecOn with
  | nil =>
      intro token htoken
      exact absurd rfl htoken
  | append_singleton calls call ih =>
      unfold tokensAfter
      rw [after_concat]
      exact made_step ih call

theorem tokensAfter_concat (calls : List AuthCall) (call : AuthCall) :
    service.tokensAfter (calls ++ [call]) = (service.step (service.tokensAfter calls) call).2 :=
  after_concat _ _ _ _

theorem exchanges_concat (calls : List AuthCall) (call : AuthCall) (token : String) :
    service.exchanges (calls ++ [call]) token = service.exchanges calls token ++
      (exchanged token (call, (service.step (service.tokensAfter calls) call).1)).toList := by
  unfold exchanges
  rw [answers_concat, List.filterMap_append]
  rfl

/-- INTERNAL: a record stays, with its id, and stays revoked. -/
theorem recordOf_later {record : RefreshTokenRecord}
    (hrecord : service.recordOf (service.tokensAfter earlier) token = some record)
    (middle : List AuthCall) :
    ∃ record', service.recordOf (service.tokensAfter (earlier ++ middle)) token = some record' ∧
      record'.refreshJti = record.refreshJti ∧
      (record.revokedAt ≠ none → record'.revokedAt ≠ none) := by
  induction middle using List.reverseRecOn with
  | nil =>
      rw [List.append_nil]
      exact ⟨record, hrecord, rfl, id⟩
  | append_singleton middle call ih =>
      obtain ⟨record', hrecord', hjti, hrevoked⟩ := ih
      obtain ⟨next, hnext, hmoved⟩ := moved_step (made_tokensAfter _) call hrecord'
      rw [← List.append_assoc, tokensAfter_concat]
      exact ⟨next, hnext, hmoved.refreshJti_eq.trans hjti,
        fun h => hmoved.revoked_of_revoked (hrevoked h)⟩

theorem Revoked.persists (h : service.Revoked earlier token) (middle : List AuthCall) :
    service.Revoked (earlier ++ middle) token := by
  obtain ⟨record, hrecord, hrevoked⟩ := h
  obtain ⟨record', hrecord', _, hstill⟩ := recordOf_later hrecord middle
  exact ⟨record', hrecord', hstill hrevoked⟩

theorem Revoked.not_exchanged (h : service.Revoked earlier token) (call : AuthCall) :
    exchanged token (call, (service.step (service.tokensAfter earlier) call).1) = none := by
  obtain ⟨record, hrecord, hrevoked⟩ := h
  obtain ⟨_, _, hmoved⟩ := moved_step (made_tokensAfter earlier) call hrecord
  exact hmoved.not_exchanged hrevoked

theorem revoked_of_exchanged {tokenPair : TokenPair}
    (h : tokenPair ∈ service.exchanges calls token) : service.Revoked calls token := by
  induction calls using List.reverseRecOn with
  | nil => cases h
  | append_singleton calls call ih =>
      rw [exchanges_concat, List.mem_append] at h
      rcases h with hbefore | hnow
      · exact (ih hbefore).persists [call]
      · rw [Option.mem_toList] at hnow
        obtain ⟨now, _, _, record, new, _, _, _, _, hafter, _⟩ :=
          exchanged_step (made_tokensAfter calls) call hnow
        rw [← tokensAfter_concat] at hafter
        exact ⟨_, hafter, Option.some_ne_none now⟩

theorem exchanges_later (h : service.Revoked earlier token) (later : List AuthCall) :
    service.exchanges (earlier ++ later) token = service.exchanges earlier token := by
  induction later using List.reverseRecOn with
  | nil => rw [List.append_nil]
  | append_singleton later call ih =>
      rw [← List.append_assoc, exchanges_concat, (h.persists later).not_exchanged call, ih]
      exact List.append_nil _

theorem length_exchanges_le_one (calls : List AuthCall) (token : String) :
    (service.exchanges calls token).length ≤ 1 := by
  induction calls using List.reverseRecOn with
  | nil => exact Nat.zero_le 1
  | append_singleton calls call ih =>
      cases hbefore : service.exchanges calls token with
      | nil =>
          rw [exchanges_concat, hbefore, List.nil_append]
          exact Option.length_toList_le
      | cons tokenPair rest =>
          have hmem : tokenPair ∈ service.exchanges calls token := by
            rw [hbefore]
            exact List.mem_cons_self
          rw [exchanges_later (revoked_of_exchanged hmem) [call]]
          exact ih

theorem not_exchanged_after (h : service.Revoked earlier token) (later : List AuthCall) :
    (answers service.step (service.tokensAfter earlier) later).filterMap (exchanged token) =
      [] := by
  have hsame := exchanges_later h later
  unfold exchanges at hsame
  rw [answers_append, List.filterMap_append] at hsame
  exact List.append_right_eq_self.mp hsame

theorem exchanged_live {now issuedAt : ℤ} {correlationId : Option String} {tokenPair : TokenPair}
    (h : (service.step (service.tokensAfter earlier)
      (.refreshTokenPair now issuedAt token correlationId)).1 = .ok (some tokenPair)) :
    ∃ record, service.recordOf (service.tokensAfter earlier) token = some record ∧
      record.revokedAt = none ∧ now < record.expiresAt := by
  have hexchanged : exchanged token (.refreshTokenPair now issuedAt token correlationId,
      (service.step (service.tokensAfter earlier)
        (.refreshTokenPair now issuedAt token correlationId)).1) = some tokenPair := by
    rw [h]
    exact if_pos rfl
  obtain ⟨now', _, _, record, _, hcall, hrecord, hunrevoked, hlive, _⟩ :=
    exchanged_step (made_tokensAfter earlier) _ hexchanged
  cases hcall
  exact ⟨record, hrecord, hunrevoked, hlive⟩

theorem recordOf_revokeRefreshToken {tokens : AuthTokens} {record : RefreshTokenRecord}
    (hrecord : service.recordOf tokens token = some record) (now : ℤ) :
    service.recordOf (service.step tokens (.revokeRefreshToken now token)).2 token =
      some { record with revokedAt := some now, replacedByJti := none } := by
  show service.recordOf (service.revokeRefreshToken now token tokens) token = _
  unfold revokeRefreshToken
  rw [recordOf_revoke hrecord, if_pos rfl]

theorem revoked_by_call (hknown : service.recordOf (service.tokensAfter earlier) token ≠ none)
    (now : ℤ) : service.Revoked (earlier ++ [.revokeRefreshToken now token]) token := by
  obtain ⟨record, hrecord⟩ := Option.ne_none_iff_exists'.mp hknown
  unfold Revoked
  rw [tokensAfter_concat]
  exact ⟨_, recordOf_revokeRefreshToken hrecord now, Option.some_ne_none now⟩

theorem Linked.revoked {a b : String} (h : service.Linked calls a b) :
    service.Revoked calls a := by
  obtain ⟨tokenPair, hmem, _⟩ := h
  exact revoked_of_exchanged hmem

theorem Linked.right_unique {a b c : String} (hb : service.Linked calls a b)
    (hc : service.Linked calls a c) : b = c := by
  obtain ⟨p, hp, rfl⟩ := hb
  obtain ⟨q, hq, rfl⟩ := hc
  have hlength : (service.exchanges calls a).length ≤ 1 := length_exchanges_le_one calls a
  generalize service.exchanges calls a = l at hlength hp hq
  match l with
  | [] => cases hp
  | [only] => rw [List.mem_singleton.mp hp, List.mem_singleton.mp hq]
  | _ :: _ :: _ => simp at hlength

theorem Unrevoked.not_revoked (h : service.Unrevoked calls token) :
    ¬ service.Revoked calls token := by
  rintro ⟨record, hrecord, hrevoked⟩
  obtain ⟨record', hrecord', hunrevoked⟩ := h
  rw [hrecord] at hrecord'
  cases hrecord'
  exact hrevoked hunrevoked

/-- INTERNAL: links lead forward to the one token of the chain that has not been exchanged. -/
theorem linked_to_unrevoked {a b : String} (h : Relation.EqvGen (service.Linked calls) a b)
    {last : String} (hlast : service.Unrevoked calls last) :
    Relation.ReflTransGen (service.Linked calls) a last ↔
      Relation.ReflTransGen (service.Linked calls) b last := by
  induction h with
  | rel a b hab =>
      constructor
      · intro ha
        rcases Relation.ReflTransGen.cases_head ha with rfl | ⟨c, hac, hc⟩
        · exact absurd hab.revoked hlast.not_revoked
        · rw [hab.right_unique hac]
          exact hc
      · intro hb
        exact Relation.ReflTransGen.head hab hb
  | refl a => exact Iff.rfl
  | symm a b _ ih => exact ih.symm
  | trans a b c _ _ hab hbc => exact hab.trans hbc

theorem one_unrevoked {a b : String} (h : Relation.EqvGen (service.Linked calls) a b)
    (ha : service.Unrevoked calls a) (hb : service.Unrevoked calls b) : a = b := by
  have hforward : Relation.ReflTransGen (service.Linked calls) a b :=
    (linked_to_unrevoked h hb).mpr Relation.ReflTransGen.refl
  rcases Relation.ReflTransGen.cases_head hforward with heq | ⟨c, hac, _⟩
  · exact heq
  · exact absurd hac.revoked ha.not_revoked

/-! ## Revocations that are kept -/

theorem revocation_kept {record : RefreshTokenRecord}
    (h : EachMeets service.step service.RevokesOnce AuthTokens.empty (earlier ++ middle))
    (hrecord : service.recordOf (service.tokensAfter earlier) token = some record)
    (hrevoked : record.revokedAt ≠ none) :
    ∃ record', service.recordOf (service.tokensAfter (earlier ++ middle)) token = some record' ∧
      record'.revokedAt = record.revokedAt ∧ record'.replacedByJti = record.replacedByJti := by
  induction middle using List.reverseRecOn with
  | nil =>
      rw [List.append_nil]
      exact ⟨record, hrecord, rfl, rfl⟩
  | append_singleton middle call ih =>
      rw [← List.append_assoc, eachMeets_append] at h
      obtain ⟨record', hrecord', hat, hjti⟩ := ih h.1
      obtain ⟨next, hnext, hmoved⟩ := moved_step (made_tokensAfter _) call hrecord'
      have hrevoked' : record'.revokedAt ≠ none := by
        rw [hat]
        exact hrevoked
      have hkept := hmoved.revocation_eq hrecord' hrevoked' h.2.1
      rw [← List.append_assoc, tokensAfter_concat]
      exact ⟨next, hnext, hkept.1.trans hat, hkept.2.trans hjti⟩

theorem replacement_recorded {a b : String}
    (h : EachMeets service.step service.RevokesOnce AuthTokens.empty calls)
    (hlinked : service.Linked calls a b) : ∃ used replacement,
      service.recordOf (service.tokensAfter calls) a = some used ∧
      service.recordOf (service.tokensAfter calls) b = some replacement ∧
      used.replacedByJti = some replacement.refreshJti := by
  induction calls using List.reverseRecOn with
  | nil =>
      obtain ⟨_, hmem, _⟩ := hlinked
      cases hmem
  | append_singleton calls call ih =>
      obtain ⟨tokenPair, hmem, rfl⟩ := hlinked
      rw [exchanges_concat, List.mem_append] at hmem
      rcases hmem with hbefore | hnow
      · have hlinked : service.Linked calls a tokenPair.refreshToken := ⟨tokenPair, hbefore, rfl⟩
        obtain ⟨used, replacement, hused, hreplacement, hjti⟩ :=
          ih ((eachMeets_append _ _ _ _ _).mp h).1 hlinked
        have hrevoked : used.revokedAt ≠ none := by
          obtain ⟨record, hrecord, hrevoked⟩ := hlinked.revoked
          rw [hused] at hrecord
          cases hrecord
          exact hrevoked
        obtain ⟨used', hused', _, hkept⟩ := revocation_kept h hused hrevoked
        obtain ⟨replacement', hreplacement', hsame, _⟩ := recordOf_later hreplacement [call]
        exact ⟨used', replacement', hused', hreplacement', by rw [hkept, hjti, hsame]⟩
      · rw [Option.mem_toList] at hnow
        obtain ⟨_, _, _, _, new, _, _, _, _, hused, hnew⟩ :=
          exchanged_step (made_tokensAfter calls) call hnow
        rw [tokensAfter_concat]
        exact ⟨_, new, hused, hnew, rfl⟩

end Runs

/-- The tokens rotate as they should in exactly the runs in which `revoke_refresh_token` never
changes the record of a revoked token. -/
theorem rotates_iff_revokesOnce (service : AuthTokenService) (calls : List AuthCall) :
    service.Rotates calls ↔
      EachMeets service.step service.RevokesOnce AuthTokens.empty calls := by
  constructor
  · intro h
    rw [eachMeets_iff_forall_split]
    intro earlier call later hsplit
    cases call with
    | issueTokenPair => exact trivial
    | refreshTokenPair => exact trivial
    | revokeRefreshToken now token =>
        intro record hrecord
        by_cases hunrevoked : record.revokedAt = none
        · exact Or.inl hunrevoked
        · have hsplit' : calls = earlier ++ [.revokeRefreshToken now token] ++ later := by
            rw [hsplit, List.append_assoc, List.singleton_append]
          obtain ⟨record', hrecord', hat, hjti⟩ :=
            h.revocation_kept earlier _ later token record hsplit' hrecord hunrevoked
          have hwritten := recordOf_revokeRefreshToken hrecord now
          rw [tokensAfter_concat] at hrecord'
          change service.recordOf (service.step (service.tokensAfter earlier) _).2 token = _
            at hwritten
          rw [hrecord'] at hwritten
          cases hwritten
          exact Or.inr ⟨hat.symm, hjti.symm⟩
  · intro h
    exact
      { exchanged_once := length_exchanges_le_one calls
        exchanged_live := fun _ _ _ _ _ _ _ _ hok => exchanged_live hok
        revoked_by_call := fun _ now _ _ _ hknown => revoked_by_call hknown now
        not_exchanged_after := fun _ later _ _ hrevoked => not_exchanged_after hrevoked later
        one_unrevoked := fun _ _ hchain ha hb => one_unrevoked hchain ha hb
        revocation_kept := by
          intro earlier middle later token record hsplit hrecord hrevoked
          rw [hsplit, eachMeets_append] at h
          exact revocation_kept h.1 hrecord hrevoked
        replacement_recorded := fun _ _ hlinked => replacement_recorded h hlinked }

namespace RefreshSample

def firstHash : String := "5feceb66ffc86f38d952786c6d696c79c2dbc239dd4e91b46729d73a27fb57e9"

def secondHash : String := "6b86b273ff34fce19d6b804eff5a3f5747ada4eaa22f1d49c01e52ddb7875b4b"

/-- SHA-256 of the two tokens that are made. -/
def hashRefreshToken (token : String) : String :=
  if token = "0" then firstHash
  else if token = "1" then secondHash
  else "x" ++ token

def tokenOf (hash : String) : String :=
  if hash = firstHash then "0"
  else if hash = secondHash then "1"
  else String.ofList (hash.toList.drop 1)

theorem append_ne_hash {token hash : String} (h : hash.toList.head? ≠ some 'x') :
    "x" ++ token ≠ hash := by
  intro heq
  rw [← heq, String.toList_append] at h
  exact h rfl

theorem tokenOf_hashRefreshToken (token : String) : tokenOf (hashRefreshToken token) = token := by
  unfold hashRefreshToken
  by_cases hfirst : token = "0"
  · rw [if_pos hfirst, hfirst]
    exact if_pos rfl
  · rw [if_neg hfirst]
    by_cases hsecond : token = "1"
    · rw [if_pos hsecond, hsecond]
      unfold tokenOf
      rw [if_neg (by decide), if_pos rfl]
    · rw [if_neg hsecond]
      unfold tokenOf
      rw [if_neg (append_ne_hash (by decide)), if_neg (append_ne_hash (by decide)),
        String.toList_append]
      exact String.ofList_toList

def service : AuthTokenService where
  py := Reference.stdlib
  jwtSecret := Reference.utf8 "jwt-secret"
  issuer := "media-center"
  audience := "media-center-api"
  accessTtlSeconds := 900
  refreshTtlSeconds := 2592000
  accessTtlSeconds_pos := by decide
  refreshTtlSeconds_pos := by decide
  idFactory n := toString (n : ℤ)
  refreshTokenFactory n := toString (n : ℤ)
  hashRefreshToken := hashRefreshToken
  idFactory_injective := fun _ _ h => Int.ofNat_inj.mp (Decimal.toString_injective h)
  refreshTokenFactory_injective := fun _ _ h => Int.ofNat_inj.mp (Decimal.toString_injective h)
  hashRefreshToken_injective := Function.LeftInverse.injective tokenOf_hashRefreshToken

/-- A member refreshes, and logs out with the token that was refreshed. -/
def calls : List AuthCall :=
  [.issueTokenPair 1000 "member-1" "media-center" ["board"] none,
    .refreshTokenPair 1060 1060 "0" none]

end RefreshSample

/-- A logout with the rotated token moves its time of revocation and forgets its successor. -/
theorem not_rotates : ¬ ∀ (service : AuthTokenService) (calls : List AuthCall),
    (calls.flatMap AuthCall.readings).Pairwise (· ≤ ·) → service.Rotates calls := by
  intro h
  have hrotates := h RefreshSample.service
    (RefreshSample.calls ++ [.revokeRefreshToken 1120 "0"]) (by decide)
  have hjti : ((RefreshSample.service.recordOf
      (RefreshSample.service.tokensAfter RefreshSample.calls) "0").bind
      RefreshTokenRecord.replacedByJti) = some "3" := by decide
  have hrevoked : ((RefreshSample.service.recordOf
      (RefreshSample.service.tokensAfter RefreshSample.calls) "0").bind
      RefreshTokenRecord.revokedAt) = some 1060 := by decide
  obtain ⟨record, hrecord, hjti⟩ := Option.bind_eq_some_iff.mp hjti
  rw [hrecord, Option.bind_some] at hrevoked
  obtain ⟨record', hrecord', _, hkept⟩ := hrotates.revocation_kept RefreshSample.calls
    [.revokeRefreshToken 1120 "0"] [] "0" record (List.append_nil _).symm hrecord
    (by rw [hrevoked]; exact Option.some_ne_none 1060)
  rw [tokensAfter_concat, recordOf_revokeRefreshToken hrecord] at hrecord'
  cases hrecord'
  rw [hjti] at hkept
  cases hkept

end AuthTokenService

end MediaCenter.Shared
