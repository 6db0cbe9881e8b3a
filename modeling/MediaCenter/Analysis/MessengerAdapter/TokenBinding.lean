import MediaCenter.Library.JoinedText
import MediaCenter.Analysis.MessengerAdapter.TelegramAccounts
import MediaCenter.Analysis.Shared.TrustedHeaders
import MediaCenter.Model.MessengerAdapter.PlatformTokens

/-!
# What an encrypted token is bound to

A token opens for its tenant and its platform, and for no other.  The labels of Telegram
identities and Telethon sessions are names that a platform may have too.
-/

set_option autoImplicit false

namespace MediaCenter.MessengerAdapter

open MediaCenter.Library MediaCenter.Shared

/-! ## Saving and reading -/

section Store

variable (py : Stdlib) (aead : Aead)

/-- The platform in normal form, as it stands in a key. -/
def platformKey (platform : String) : String := py.lower (Text.strip platform)

/-- The platform as the record has it. -/
def recordedPlatform (platform : String) : String := Text.trim (platformKey py platform)

/-- A call of `save_token` that returns. -/
def acceptsToken (call : SaveToken) : Bool :=
  (Text.strip call.token != "") && (resolveTime py call.now call.createdAt).toBool &&
    tenantIdPattern (Text.trim call.tenantId) &&
    platformPattern (recordedPlatform py call.platform) && tokenPattern (Text.trim call.tokenId)

/-- The store after calls of `save_token`. -/
def afterSaves (calls : List SaveToken) : InMemoryPlatformTokenStore :=
  calls.foldl (fun store call => (store.saveToken py aead call).2) .empty

/-- The last call that saved a token and has the property. -/
def lastSaved (p : SaveToken → Bool) (calls : List SaveToken) : Option SaveToken :=
  calls.reverse.find? fun call => acceptsToken py call && p call

/-- The call saved the token that is asked for, under the id if one is given. -/
def asked (tenantId platform : String) (tokenId : Option String) (call : SaveToken) : Bool :=
  call.tenantId == tenantId && platformKey py call.platform == platformKey py platform &&
    (tokenId.filter fun id => id ≠ "").all fun id => call.tokenId == id

/-- `require_token`, and `decrypt_token` of the record. -/
def readToken (tenantId platform : String) (tokenId : Option String)
    (store : InMemoryPlatformTokenStore) : Except TokenError String := do
  let record ← store.requireToken py tenantId platform tokenId
  InMemoryPlatformTokenStore.decryptToken py aead record tenantId

/-- The text was encrypted as a Telegram identity or a Telethon session of some tenant. -/
def SealedElsewhere (sealed : String) : Prop :=
  ∃ nonce tenantId text, encryptIdentity py aead nonce tenantId text = .ok sealed ∨
    encryptSession py aead nonce tenantId text = .ok sealed

/-- After the calls, a token is read exactly as it was saved last, a token opens for its own
tenant and platform only, and no identity or session opens as a token of a saved platform. -/
structure Bound (calls : List SaveToken) : Prop where
  reads : ∀ tenantId platform tokenId token,
    readToken py aead tenantId platform tokenId (afterSaves py aead calls) = .ok token ↔
      ∃ call, lastSaved py (asked py tenantId platform tokenId) calls = some call ∧
        call.token = token
  separates : ∀ nonce tenantId tenantId' platform platform' token sealed,
    platformPattern (recordedPlatform py platform) = true →
    platformPattern (recordedPlatform py platform') = true →
    PlatformTokenCipher.encrypt py aead nonce tenantId platform token = .ok sealed →
    ((∃ opened, PlatformTokenCipher.decrypt py aead tenantId' platform' sealed = .ok opened) ↔
      tenantId' = tenantId ∧ platformKey py platform' = platformKey py platform)
  apart : ∀ call ∈ calls, acceptsToken py call = true → ∀ sealed, SealedElsewhere py aead sealed →
    ∀ opened, PlatformTokenCipher.decrypt py aead call.tenantId call.platform sealed ≠ .ok opened

/-- The labels of the ciphertexts that are not platform tokens. -/
def aadLabels : List String := [telegramIdentityAadLabel, telegramTelethonSessionAadLabel]

end Store

/-! ## Platform names -/

section Platforms

variable {py : Stdlib}

theorem mem_of_platformPattern {name : String} (h : platformPattern name = true) :
    ∀ c ∈ name.toList, Text.isAsciiLower c = true ∨ Text.isAsciiDigit c = true ∨ c = '_' ∨
      c = '-' := by
  unfold platformPattern at h
  rw [Bool.and_eq_true] at h
  intro c hc
  rcases Text.forall_of_matchesHeadTail h.1 c hc with hhead | htail
  · exact .inl hhead
  · simpa [or_assoc] using htail

theorem visible_of_platformPattern {name : String} (h : platformPattern name = true) :
    ∀ c ∈ name.toList, Text.Visible c := by
  intro c hc
  rcases mem_of_platformPattern h c hc with hlower | hdigit | rfl | rfl
  · exact Text.visible_of_isAsciiAlnum (by simp [Text.isAsciiAlnum, hlower])
  · exact Text.visible_of_isAsciiAlnum (by simp [Text.isAsciiAlnum, hdigit])
  · exact ⟨by decide, by decide⟩
  · exact ⟨by decide, by decide⟩

theorem isHeaderName_of_platformPattern {name : String} (h : platformPattern name = true) :
    IsHeaderName name := by
  intro c hc
  have hvisible := visible_of_platformPattern h c hc
  have hsmall : ¬ (65 ≤ c.toNat ∧ c.toNat ≤ 90) := by
    rcases mem_of_platformPattern h c hc with hlower | hdigit | rfl | rfl
    · simp only [Text.isAsciiLower, Bool.and_eq_true, decide_eq_true_iff] at hlower
      have hle : 97 ≤ c.toNat := hlower.1
      omega
    · simp only [Text.isAsciiDigit, Bool.and_eq_true, decide_eq_true_iff] at hdigit
      have hle : c.toNat ≤ 57 := hdigit.2
      omega
    · decide
    · decide
  have hbound := hvisible.2
  refine ⟨by omega, ?_⟩
  unfold Text.lowerLatin1
  rw [if_neg (by omega)]

/-- INTERNAL: a name in the pattern is in normal form. -/
theorem platformKey_of_platformPattern {name : String} (h : platformPattern name = true) :
    platformKey py name = name := by
  unfold platformKey
  rw [Text.strip_of_forall_visible (visible_of_platformPattern h),
    lower_of_isHeaderName py (isHeaderName_of_platformPattern h)]

theorem ne_empty_of_platformPattern {name : String} (h : platformPattern name = true) :
    name ≠ "" := by
  rintro rfl
  exact absurd h (by decide)

theorem normalizePlatform_eq_ok_iff {platform name : String} :
    normalizePlatform py platform = .ok name ↔ name = platformKey py platform ∧ name ≠ "" := by
  unfold normalizePlatform platformKey
  by_cases h : py.lower (Text.strip platform) = ""
  · rw [if_pos h]
    constructor
    · exact fun h => by cases h
    · rintro ⟨rfl, hne⟩
      exact absurd h hne
  · rw [if_neg h, Except.ok.injEq]
    constructor
    · rintro rfl
      exact ⟨rfl, h⟩
    · exact fun hname => hname.1.symm

theorem platformKey_recordedPlatform {platform : String}
    (h : platformPattern (recordedPlatform py platform) = true) :
    platformKey py (platformKey py platform) = recordedPlatform py platform := by
  have hstrip : Text.strip (platformKey py platform) = Text.strip (recordedPlatform py platform) :=
    (Text.dropBoth_of_imp (fun _ => Text.isSpace_of_isWhiteSpace) _).symm
  calc platformKey py (platformKey py platform)
      = py.lower (Text.strip (platformKey py platform)) := rfl
    _ = py.lower (Text.strip (recordedPlatform py platform)) := by rw [hstrip]
    _ = platformKey py (recordedPlatform py platform) := rfl
    _ = recordedPlatform py platform := platformKey_of_platformPattern h

theorem platformKey_ne_empty {platform : String}
    (h : platformPattern (recordedPlatform py platform) = true) : platformKey py platform ≠ "" := by
  intro hempty
  unfold recordedPlatform at h
  rw [hempty] at h
  exact absurd h (by decide)

/-- INTERNAL: a recorded platform has no colon, with or without its white space. -/
theorem colon_not_mem_platformKey {platform : String}
    (h : platformPattern (recordedPlatform py platform) = true) :
    ':' ∉ (platformKey py platform).toList := by
  obtain ⟨front, back, hsplit, hfront, hback⟩ :=
    Text.exists_eq_append_dropBoth Text.isWhiteSpace (platformKey py platform)
  have hspace : Text.isWhiteSpace ':' = false := by decide
  rw [hsplit, List.mem_append, List.mem_append]
  rintro ((hmem | hmem) | hmem)
  · rw [hfront _ hmem] at hspace
    cases hspace
  · rcases mem_of_platformPattern h ':' hmem with hc | hc | hc | hc
    all_goals exact absurd hc (by decide)
  · rw [hback _ hmem] at hspace
    cases hspace

end Platforms

/-! ## The cipher -/

section Cipher

variable {py : Stdlib} {aead : Aead} {nonce : ℕ} {tenantId tenantId' platform platform' : String}
  {token sealed opened : String}

/-- INTERNAL: a text opens with the associated data it was encrypted with, as it was. -/
theorem decryptToken_sealed_iff {aad : String} : decryptToken aead tenantId platform
    (tokenCiphertextPrefix ++ aead.encrypt nonce aad token) = .ok opened ↔
      tokenAad tenantId platform = aad ∧ opened = token := by
  have htake : (tokenCiphertextPrefix ++ aead.encrypt nonce aad token).toList.take 10 =
      tokenCiphertextPrefix.toList := by
    rw [String.toList_append]
    exact List.take_left' (by decide)
  have hdrop : String.ofList ((tokenCiphertextPrefix ++
      aead.encrypt nonce aad token).toList.drop 10) = aead.encrypt nonce aad token := by
    rw [String.toList_append, List.drop_left' (by decide), String.ofList_toList]
  unfold decryptToken
  rw [if_pos htake, hdrop]
  constructor
  · intro h
    cases hdecrypt : aead.decrypt (tokenAad tenantId platform) (aead.encrypt nonce aad token) with
    | error message =>
        rw [hdecrypt] at h
        cases h
    | ok plain =>
        have haad := aead.aad_of_decrypt _ _ _ _ _ hdecrypt
        rw [hdecrypt] at h
        rw [haad, aead.decrypt_encrypt] at hdecrypt
        cases hdecrypt
        cases h
        exact ⟨haad, rfl⟩
  · rintro ⟨haad, rfl⟩
    rw [haad, aead.decrypt_encrypt]

theorem encrypt_eq_ok_iff :
    PlatformTokenCipher.encrypt py aead nonce tenantId platform token = .ok sealed ↔
      Text.strip token ≠ "" ∧ platformKey py platform ≠ "" ∧ sealed = tokenCiphertextPrefix ++
        aead.encrypt nonce (tokenAad tenantId (platformKey py platform)) token := by
  unfold PlatformTokenCipher.encrypt
  by_cases hblank : Text.strip token = ""
  · rw [if_pos hblank]
    constructor
    · exact fun h => by cases h
    · exact fun h => absurd hblank h.1
  · rw [if_neg hblank]
    simp only [bind_eq_ok_iff, mapError_eq_ok_iff, normalizePlatform_eq_ok_iff, pure, Except.pure,
      Except.ok.injEq]
    constructor
    · rintro ⟨name, ⟨rfl, hne⟩, rfl⟩
      exact ⟨hblank, hne, rfl⟩
    · rintro ⟨_, hne, rfl⟩
      exact ⟨_, ⟨rfl, hne⟩, rfl⟩

theorem decrypt_sealed_iff {aad : String} : PlatformTokenCipher.decrypt py aead tenantId platform
    (tokenCiphertextPrefix ++ aead.encrypt nonce aad token) = .ok opened ↔
      platformKey py platform ≠ "" ∧ tokenAad tenantId (platformKey py platform) = aad ∧
        opened = token := by
  unfold PlatformTokenCipher.decrypt
  simp only [bind_eq_ok_iff, mapError_eq_ok_iff, normalizePlatform_eq_ok_iff,
    decryptToken_sealed_iff]
  constructor
  · rintro ⟨name, ⟨rfl, hne⟩, haad, rfl⟩
    exact ⟨hne, haad, rfl⟩
  · rintro ⟨hne, haad, rfl⟩
    exact ⟨_, ⟨rfl, hne⟩, haad, rfl⟩

theorem tokenAad_eq_iff {name name' : String} (h : ':' ∉ name.toList) (h' : ':' ∉ name'.toList) :
    tokenAad tenantId' name' = tokenAad tenantId name ↔ tenantId' = tenantId ∧ name' = name := by
  constructor
  · exact JoinedText.texts_eq_of_not_mem_right (by decide) h' h
  · rintro ⟨rfl, rfl⟩
    rfl

/-- INTERNAL: a token opens for its own tenant and platform, and for no other. -/
theorem decrypt_encrypt_iff (h : platformPattern (recordedPlatform py platform) = true)
    (h' : platformPattern (recordedPlatform py platform') = true)
    (hsealed : PlatformTokenCipher.encrypt py aead nonce tenantId platform token = .ok sealed) :
    PlatformTokenCipher.decrypt py aead tenantId' platform' sealed = .ok opened ↔
      (tenantId' = tenantId ∧ platformKey py platform' = platformKey py platform) ∧
        opened = token := by
  obtain ⟨_, _, rfl⟩ := encrypt_eq_ok_iff.mp hsealed
  rw [decrypt_sealed_iff, tokenAad_eq_iff (colon_not_mem_platformKey h)
    (colon_not_mem_platformKey h')]
  constructor
  · exact fun hopened => hopened.2
  · exact fun hopened => ⟨platformKey_ne_empty h', hopened⟩

theorem mem_aadLabels_iff {label : String} : label ∈ aadLabels ↔
    label = telegramIdentityAadLabel ∨ label = telegramTelethonSessionAadLabel := by
  unfold aadLabels
  rw [List.mem_cons, List.mem_singleton]

theorem platformPattern_of_mem_aadLabels {label : String} (h : label ∈ aadLabels) :
    platformPattern label = true := by
  have hall : ∀ label ∈ aadLabels, platformPattern label = true := by decide
  exact hall label h

theorem recordedPlatform_of_platformPattern {name : String} (h : platformPattern name = true) :
    recordedPlatform py name = name := by
  unfold recordedPlatform
  rw [platformKey_of_platformPattern h,
    Text.trim_of_forall_visible (visible_of_platformPattern h)]

/-- INTERNAL: an identity or a session is encrypted under its label. -/
theorem sealedElsewhere_iff : SealedElsewhere py aead sealed ↔ ∃ nonce tenantId text,
    ∃ label ∈ aadLabels,
      PlatformTokenCipher.encrypt py aead nonce tenantId label text = .ok sealed := by
  unfold SealedElsewhere
  constructor
  · rintro ⟨nonce, tenantId, text, hidentity | hsession⟩
    · exact ⟨nonce, tenantId, text, _, mem_aadLabels_iff.mpr (.inl rfl), hidentity⟩
    · unfold encryptSession at hsession
      split_ifs at hsession
      exact ⟨nonce, tenantId, text, _, mem_aadLabels_iff.mpr (.inr rfl), hsession⟩
  · rintro ⟨nonce, tenantId, text, label, hlabel, hsealed⟩
    rcases mem_aadLabels_iff.mp hlabel with rfl | rfl
    · exact ⟨nonce, tenantId, text, .inl hsealed⟩
    · refine ⟨nonce, tenantId, text, .inr ?_⟩
      unfold encryptSession
      rw [if_neg (encrypt_eq_ok_iff.mp hsealed).1]
      exact hsealed

end Cipher

/-! ## The store -/

section Saves

variable {py : Stdlib} {aead : Aead}

/-- What is encrypted for a call that saves. -/
def savedCiphertext (py : Stdlib) (aead : Aead) (call : SaveToken) : String :=
  tokenCiphertextPrefix ++
    aead.encrypt call.nonce (tokenAad call.tenantId (recordedPlatform py call.platform)) call.token

theorem newPlatformToken_eq_ok_iff {call : SaveToken} {name : String}
    {record : EncryptedPlatformToken} : newPlatformToken py aead call = .ok (name, record) ↔
      name = platformKey py call.platform ∧ Text.strip call.token ≠ "" ∧
        platformPattern (recordedPlatform py call.platform) = true ∧
        ∃ createdAt, resolveTime py call.now call.createdAt = .ok createdAt ∧ record.fields =
          { tenantId := Text.trim call.tenantId
            platform := recordedPlatform py call.platform
            tokenId := Text.trim call.tokenId
            tokenEncrypted := savedCiphertext py aead call
            createdAt := createdAt } := by
  have htrim : ∀ aad, Text.trim (tokenCiphertextPrefix ++ aead.encrypt call.nonce aad call.token) =
      tokenCiphertextPrefix ++ aead.encrypt call.nonce aad call.token := fun aad =>
    trim_of_tokenCiphertextPattern (aead.encrypt_pattern _ _ _)
  unfold newPlatformToken
  simp only [bind_eq_ok_iff, mapError_eq_ok_iff, normalizePlatform_eq_ok_iff, encrypt_eq_ok_iff,
    Validated.make_eq_ok_iff, pure, Except.pure, Except.ok.injEq, Prod.mk.injEq]
  constructor
  · rintro ⟨_, ⟨rfl, _⟩, createdAt, htime, _, ⟨htoken, _, rfl⟩, stored, hrecord, rfl, rfl⟩
    have hplatform := stored.valid ("platform", platformPattern stored.fields.platform)
      (List.mem_cons_of_mem _ List.mem_cons_self)
    rw [hrecord] at hplatform
    dsimp only at hplatform
    have hpattern : platformPattern (recordedPlatform py call.platform) = true := by
      unfold recordedPlatform
      exact hplatform
    refine ⟨rfl, htoken, hpattern, createdAt, htime, ?_⟩
    rw [hrecord, htrim, platformKey_recordedPlatform hpattern]
    rfl
  · rintro ⟨rfl, htoken, hpattern, createdAt, htime, hrecord⟩
    have hkey := platformKey_recordedPlatform hpattern
    have hne : recordedPlatform py call.platform ≠ "" := ne_empty_of_platformPattern hpattern
    refine ⟨_, ⟨rfl, platformKey_ne_empty hpattern⟩, createdAt, htime, _,
      ⟨htoken, by rwa [hkey], rfl⟩, record, ?_, rfl, rfl⟩
    rw [hrecord, htrim, hkey]
    rfl

theorem acceptsToken_iff {call : SaveToken} : acceptsToken py call = true ↔
    ∃ name record, newPlatformToken py aead call = .ok (name, record) := by
  have htime : (resolveTime py call.now call.createdAt).toBool = true ↔
      ∃ createdAt, resolveTime py call.now call.createdAt = .ok createdAt := by
    cases resolveTime py call.now call.createdAt with
    | error e => simp [Except.toBool]
    | ok t => simp [Except.toBool]
  unfold acceptsToken
  simp only [Bool.and_eq_true, bne_iff_ne, htime, newPlatformToken_eq_ok_iff]
  constructor
  · rintro ⟨⟨⟨⟨htoken, createdAt, ht⟩, htenant⟩, hplatform⟩, hid⟩
    have hvalid : ∀ c ∈ PlatformTokenFields.checks
        { tenantId := Text.trim call.tenantId
          platform := recordedPlatform py call.platform
          tokenId := Text.trim call.tokenId
          tokenEncrypted := savedCiphertext py aead call
          createdAt := createdAt }, c.2 = true := by
      simp only [PlatformTokenFields.checks, List.forall_mem_cons]
      exact ⟨htenant, hplatform, hid, aead.encrypt_pattern _ _ _, (fun _ h => by cases h)⟩
    exact ⟨_, ⟨_, hvalid⟩, rfl, htoken, hplatform, createdAt, ht, rfl⟩
  · rintro ⟨_, record, _, htoken, hplatform, createdAt, ht, hrecord⟩
    have hvalid := record.valid
    rw [hrecord] at hvalid
    simp only [PlatformTokenFields.checks, List.forall_mem_cons] at hvalid
    exact ⟨⟨⟨⟨htoken, createdAt, ht⟩, hvalid.1⟩, hplatform⟩, hvalid.2.2.1⟩

/-- The record that a call stores. -/
def recordOf (py : Stdlib) (aead : Aead) (call : SaveToken) : Option EncryptedPlatformToken :=
  (newPlatformToken py aead call).toOption.map Prod.snd

theorem recordOf_eq_some_iff {call : SaveToken} {record : EncryptedPlatformToken} :
    recordOf py aead call = some record ↔
      newPlatformToken py aead call = .ok (platformKey py call.platform, record) := by
  unfold recordOf
  cases h : newPlatformToken py aead call with
  | error e => simp [Except.toOption]
  | ok saved =>
      obtain ⟨name, stored⟩ := saved
      rw [(newPlatformToken_eq_ok_iff.mp h).1]
      simp [Except.toOption]

theorem lastSaved_concat (p : SaveToken → Bool) (calls : List SaveToken) (call : SaveToken) :
    lastSaved py p (calls ++ [call]) =
      if acceptsToken py call && p call then some call else lastSaved py p calls := by
  unfold lastSaved
  rw [List.reverse_append, List.reverse_singleton, List.singleton_append, List.find?_cons]
  split <;> simp_all

/-- The key of the token that a call saves. -/
def tokenKey (py : Stdlib) (call : SaveToken) : String × String × String :=
  (call.tenantId, platformKey py call.platform, call.tokenId)

/-- The key of the id that a call makes the first of its platform. -/
def primaryKey (py : Stdlib) (call : SaveToken) : String × String :=
  (call.tenantId, platformKey py call.platform)

/-- INTERNAL: what one call does to the store. -/
theorem afterSaves_concat (calls : List SaveToken) (call : SaveToken) :
    afterSaves py aead (calls ++ [call]) =
      match recordOf py aead call with
      | none => afterSaves py aead calls
      | some record =>
          ⟨(afterSaves py aead calls).tokens.set (tokenKey py call) record,
            (afterSaves py aead calls).primaryTokenIds.set (primaryKey py call) call.tokenId⟩ := by
  have hfold : afterSaves py aead (calls ++ [call]) =
      ((afterSaves py aead calls).saveToken py aead call).2 := by
    unfold afterSaves
    rw [List.foldl_append, List.foldl_cons, List.foldl_nil]
  rw [hfold]
  unfold InMemoryPlatformTokenStore.saveToken recordOf
  cases h : newPlatformToken py aead call with
  | error e => rfl
  | ok saved =>
      obtain ⟨name, record⟩ := saved
      rw [(newPlatformToken_eq_ok_iff.mp h).1]
      rfl

theorem acceptsToken_iff_recordOf {call : SaveToken} :
    acceptsToken py call = true ↔ ∃ record, recordOf py aead call = some record := by
  rw [@acceptsToken_iff py aead]
  simp only [recordOf_eq_some_iff]
  constructor
  · rintro ⟨name, record, h⟩
    obtain rfl := (newPlatformToken_eq_ok_iff.mp h).1
    exact ⟨record, h⟩
  · rintro ⟨record, h⟩
    exact ⟨_, record, h⟩

theorem acceptsToken_of_recordOf_none {call : SaveToken} (h : recordOf py aead call = none) :
    acceptsToken py call = false := by
  rw [Bool.eq_false_iff]
  intro haccepts
  obtain ⟨record, hsome⟩ := (@acceptsToken_iff_recordOf py aead call).mp haccepts
  rw [h] at hsome
  cases hsome

/-- INTERNAL: under a key lies what the last call for it saved. -/
theorem get?_afterSaves (calls : List SaveToken) :
    (∀ key, (afterSaves py aead calls).tokens.get? key =
      (lastSaved py (fun call => tokenKey py call == key) calls).bind (recordOf py aead)) ∧
    ∀ key, (afterSaves py aead calls).primaryTokenIds.get? key =
      (lastSaved py (fun call => primaryKey py call == key) calls).map fun call =>
        call.tokenId := by
  induction calls using List.reverseRecOn with
  | nil => exact ⟨fun _ => rfl, fun _ => rfl⟩
  | append_singleton calls call ih =>
      rw [afterSaves_concat]
      simp only [lastSaved_concat]
      cases hrecord : recordOf py aead call with
      | none =>
          simp only [acceptsToken_of_recordOf_none hrecord, Bool.false_and, Bool.false_eq_true,
            if_false]
          exact ih
      | some record =>
          simp only [acceptsToken_iff_recordOf.mpr ⟨record, hrecord⟩, Bool.true_and, beq_iff_eq,
            Dict.get?_set]
          constructor
          · intro key
            by_cases hkey : tokenKey py call = key
            · rw [if_pos hkey, if_pos hkey.symm, Option.bind_some, hrecord]
            · rw [if_neg hkey, if_neg (fun h => hkey h.symm)]
              exact ih.1 key
          · intro key
            by_cases hkey : primaryKey py call = key
            · rw [if_pos hkey, if_pos hkey.symm, Option.map_some]
            · rw [if_neg hkey, if_neg (fun h => hkey h.symm)]
              exact ih.2 key

theorem lastSaved_spec {p : SaveToken → Bool} {calls : List SaveToken} {call : SaveToken}
    (h : lastSaved py p calls = some call) :
    call ∈ calls ∧ acceptsToken py call = true ∧ p call = true := by
  unfold lastSaved at h
  have hfound := List.find?_some h
  rw [Bool.and_eq_true] at hfound
  exact ⟨List.mem_reverse.mp (List.mem_of_find?_eq_some h), hfound⟩

theorem exists_lastSaved {p : SaveToken → Bool} {calls : List SaveToken} {call : SaveToken}
    (hmem : call ∈ calls) (haccepts : acceptsToken py call = true) (hp : p call = true) :
    ∃ last, lastSaved py p calls = some last := by
  unfold lastSaved
  rw [← Option.isSome_iff_exists, List.find?_isSome]
  exact ⟨call, List.mem_reverse.mpr hmem, by rw [haccepts, hp]; rfl⟩

/-- INTERNAL: the last call of some is the last of fewer that it is one of. -/
theorem lastSaved_of_imp {p q : SaveToken → Bool} (himp : ∀ call, q call = true → p call = true)
    {calls : List SaveToken} {call : SaveToken} (h : lastSaved py p calls = some call)
    (hq : q call = true) : lastSaved py q calls = some call := by
  unfold lastSaved at h ⊢
  rw [List.find?_eq_some_iff_append] at h ⊢
  obtain ⟨hp, before, after, hsplit, hbefore⟩ := h
  rw [Bool.and_eq_true] at hp
  refine ⟨by rw [hp.1, hq]; rfl, before, after, hsplit, fun other hother => ?_⟩
  have hnot := hbefore other hother
  cases haccepts : acceptsToken py other with
  | false => rfl
  | true =>
      rw [haccepts, Bool.true_and, Bool.not_eq_true'] at hnot
      rw [Bool.true_and, Bool.not_eq_true', Bool.eq_false_iff]
      intro hother
      rw [himp other hother] at hnot
      cases hnot

theorem asked_eq_tokenKey (tenantId platform : String) {tokenId : Option String} {id : String}
    (h : (tokenId.filter fun id => id ≠ "") = some id) :
    asked py tenantId platform tokenId =
      fun call => tokenKey py call == (tenantId, platformKey py platform, id) := by
  funext call
  unfold asked tokenKey
  rw [h, Bool.eq_iff_iff]
  simp [Prod.mk.injEq, and_assoc]

theorem asked_eq_primaryKey (tenantId platform : String) {tokenId : Option String}
    (h : (tokenId.filter fun id => id ≠ "") = none) :
    asked py tenantId platform tokenId =
      fun call => primaryKey py call == (tenantId, platformKey py platform) := by
  funext call
  unfold asked primaryKey
  rw [h, Bool.eq_iff_iff]
  simp [Prod.mk.injEq]

theorem platformPattern_of_acceptsToken {call : SaveToken} (h : acceptsToken py call = true) :
    platformPattern (recordedPlatform py call.platform) = true := by
  unfold acceptsToken at h
  simp only [Bool.and_eq_true] at h
  exact h.1.2

/-- INTERNAL: the record that is asked for is what the last such call saved. -/
theorem requireToken_afterSaves (calls : List SaveToken) (tenantId platform : String)
    (tokenId : Option String) {record : EncryptedPlatformToken} :
    (afterSaves py aead calls).requireToken py tenantId platform tokenId = .ok record ↔
      ∃ call, lastSaved py (asked py tenantId platform tokenId) calls = some call ∧
        recordOf py aead call = some record := by
  have hbind : ∀ last : Option SaveToken, last.bind (recordOf py aead) = some record ↔
      ∃ call, last = some call ∧ recordOf py aead call = some record := by
    intro last
    rw [Option.bind_eq_some_iff]
  rw [← hbind]
  unfold InMemoryPlatformTokenStore.requireToken
  simp only [bind_eq_ok_iff, mapError_eq_ok_iff, normalizePlatform_eq_ok_iff]
  by_cases hkey : platformKey py platform = ""
  · constructor
    · rintro ⟨_, ⟨rfl, hne⟩, _⟩
      exact absurd hkey hne
    · intro hlast
      obtain ⟨call, hcall, _⟩ := (hbind _).mp hlast
      obtain ⟨_, haccepts, hasked⟩ := lastSaved_spec hcall
      unfold asked at hasked
      simp only [Bool.and_eq_true, beq_iff_eq] at hasked
      exact absurd (hasked.1.2.trans hkey)
        (platformKey_ne_empty (platformPattern_of_acceptsToken haccepts))
  · have hgiven : ∀ id, (match (afterSaves py aead calls).tokens.get?
        (tenantId, platformKey py platform, id) with
        | none => Except.error (TokenError.notFound "Токен площадки для tenant/platform не найден")
        | some stored => Except.ok stored) = Except.ok record ↔
          (lastSaved py (fun call => tokenKey py call == (tenantId, platformKey py platform, id))
            calls).bind (recordOf py aead) = some record := by
      intro id
      rw [(get?_afterSaves calls).1]
      cases Option.bind _ (recordOf py aead) with
      | none => simp
      | some stored => simp
    have hname : ∀ P : String → Prop, (∃ name, (name = platformKey py platform ∧ name ≠ "") ∧
        P name) ↔ P (platformKey py platform) := by
      intro P
      constructor
      · rintro ⟨_, ⟨rfl, _⟩, hP⟩
        exact hP
      · exact fun hP => ⟨_, ⟨rfl, hkey⟩, hP⟩
    rw [hname]
    cases hid : tokenId.filter fun id => id ≠ "" with
    | some id =>
        rw [asked_eq_tokenKey tenantId platform hid]
        exact hgiven id
    | none =>
        rw [asked_eq_primaryKey tenantId platform hid]
        simp only [Option.orElse_none, (get?_afterSaves calls).2]
        cases hlast : lastSaved py (fun call => primaryKey py call ==
            (tenantId, platformKey py platform)) calls with
        | none => simp
        | some call =>
            obtain ⟨_, _, hcall⟩ := lastSaved_spec hlast
            have hsame : tokenKey py call =
                (tenantId, platformKey py platform, call.tokenId) := by
              have hkeys := beq_iff_eq.mp hcall
              unfold primaryKey at hkeys
              rw [Prod.mk.injEq] at hkeys
              unfold tokenKey
              rw [hkeys.1, hkeys.2]
            have htoken := @lastSaved_of_imp py _ (fun other => tokenKey py other ==
              (tenantId, platformKey py platform, call.tokenId)) (fun other hother => by
                have hkeys := beq_iff_eq.mp hother
                unfold tokenKey at hkeys
                rw [Prod.mk.injEq, Prod.mk.injEq] at hkeys
                unfold primaryKey
                rw [hkeys.1, hkeys.2.1]
                exact beq_self_eq_true _) calls call hlast (beq_iff_eq.mpr hsame)
            have hrecord := hgiven call.tokenId
            rw [htoken] at hrecord
            exact hrecord

/-- INTERNAL: a record opens for the tenant it was saved for if the record has that tenant. -/
theorem decryptToken_recordOf_iff {call : SaveToken} {record : EncryptedPlatformToken}
    {token : String} (h : recordOf py aead call = some record) :
    InMemoryPlatformTokenStore.decryptToken py aead record call.tenantId = .ok token ↔
      Text.trim call.tenantId = call.tenantId ∧ call.token = token := by
  obtain ⟨_, _, hplatform, createdAt, _, hrecord⟩ :=
    newPlatformToken_eq_ok_iff.mp (recordOf_eq_some_iff.mp h)
  unfold InMemoryPlatformTokenStore.decryptToken
  rw [hrecord]
  simp only
  by_cases htenant : Text.trim call.tenantId = call.tenantId
  · rw [if_neg (not_not.mpr htenant), savedCiphertext, decrypt_sealed_iff,
      platformKey_of_platformPattern hplatform]
    constructor
    · rintro ⟨_, _, rfl⟩
      exact ⟨htenant, rfl⟩
    · rintro ⟨_, rfl⟩
      exact ⟨ne_empty_of_platformPattern hplatform, rfl, rfl⟩
  · rw [if_pos htenant]
    constructor
    · exact fun h => by cases h
    · exact fun hopened => absurd hopened.1 htenant

theorem readToken_afterSaves (calls : List SaveToken) (tenantId platform : String)
    (tokenId : Option String) (token : String) :
    readToken py aead tenantId platform tokenId (afterSaves py aead calls) = .ok token ↔
      ∃ call, lastSaved py (asked py tenantId platform tokenId) calls = some call ∧
        Text.trim tenantId = tenantId ∧ call.token = token := by
  unfold readToken
  simp only [bind_eq_ok_iff, requireToken_afterSaves]
  have htenant : ∀ call, lastSaved py (asked py tenantId platform tokenId) calls = some call →
      call.tenantId = tenantId ∧ ∃ record, recordOf py aead call = some record := by
    intro call hcall
    obtain ⟨_, haccepts, hasked⟩ := lastSaved_spec hcall
    unfold asked at hasked
    simp only [Bool.and_eq_true, beq_iff_eq] at hasked
    exact ⟨hasked.1.1, acceptsToken_iff_recordOf.mp haccepts⟩
  constructor
  · rintro ⟨record, ⟨call, hcall, hrecord⟩, hopened⟩
    obtain ⟨rfl, _⟩ := htenant call hcall
    exact ⟨call, hcall, (decryptToken_recordOf_iff hrecord).mp hopened⟩
  · rintro ⟨call, hcall, hopened⟩
    obtain ⟨rfl, record, hrecord⟩ := htenant call hcall
    exact ⟨record, ⟨call, hcall, hrecord⟩, (decryptToken_recordOf_iff hrecord).mpr hopened⟩

theorem separates_of_recorded {nonce : ℕ} {tenantId tenantId' platform platform' token : String}
    {sealed : String} (h : platformPattern (recordedPlatform py platform) = true)
    (h' : platformPattern (recordedPlatform py platform') = true)
    (hsealed : PlatformTokenCipher.encrypt py aead nonce tenantId platform token = .ok sealed) :
    (∃ opened, PlatformTokenCipher.decrypt py aead tenantId' platform' sealed = .ok opened) ↔
      tenantId' = tenantId ∧ platformKey py platform' = platformKey py platform := by
  simp only [decrypt_encrypt_iff h h' hsealed]
  constructor
  · rintro ⟨_, hsame, _⟩
    exact hsame
  · exact fun hsame => ⟨token, hsame, rfl⟩

/-- INTERNAL: nothing encrypted elsewhere opens for a platform that is not a label. -/
theorem apart_iff {tenantId platform : String}
    (h : platformPattern (recordedPlatform py platform) = true) :
    (∀ sealed, SealedElsewhere py aead sealed →
      ∀ opened, PlatformTokenCipher.decrypt py aead tenantId platform sealed ≠ .ok opened) ↔
      platformKey py platform ∉ aadLabels := by
  constructor
  · intro hapart hlabel
    have hpattern := platformPattern_of_mem_aadLabels hlabel
    have hkey : platformKey py (platformKey py platform) = platformKey py platform :=
      platformKey_of_platformPattern hpattern
    have hne : platformKey py (platformKey py platform) ≠ "" := by
      rw [hkey]
      exact ne_empty_of_platformPattern hpattern
    have hsealed : PlatformTokenCipher.encrypt py aead 0 tenantId (platformKey py platform) "x" =
        .ok (tokenCiphertextPrefix ++
          aead.encrypt 0 (tokenAad tenantId (platformKey py (platformKey py platform))) "x") :=
      encrypt_eq_ok_iff.mpr ⟨by decide, hne, rfl⟩
    refine hapart _ (sealedElsewhere_iff.mpr ⟨0, tenantId, "x", _, hlabel, hsealed⟩) "x" ?_
    rw [decrypt_sealed_iff, hkey]
    exact ⟨platformKey_ne_empty h, rfl, rfl⟩
  · intro hlabel sealed helsewhere opened hopened
    obtain ⟨nonce, tenant, text, label, hmem, hsealed⟩ := sealedElsewhere_iff.mp helsewhere
    have hpattern := platformPattern_of_mem_aadLabels hmem
    have hrecorded : platformPattern (recordedPlatform py label) = true := by
      rw [recordedPlatform_of_platformPattern hpattern]
      exact hpattern
    obtain ⟨⟨_, hkey⟩, _⟩ := (decrypt_encrypt_iff hrecorded h hsealed).mp hopened
    rw [platformKey_of_platformPattern hpattern] at hkey
    exact hlabel (hkey ▸ hmem)

end Saves

/-- Tokens are bound to their owner exactly if no call saves one for a tenant id with white space
around it, or for a platform with the name of a label. -/
theorem bound_iff (py : Stdlib) (aead : Aead) (calls : List SaveToken) :
    Bound py aead calls ↔ ∀ call ∈ calls, acceptsToken py call = true →
      Text.trim call.tenantId = call.tenantId ∧ platformKey py call.platform ∉ aadLabels := by
  constructor
  · intro h call hmem haccepts
    refine ⟨?_, (apart_iff (platformPattern_of_acceptsToken haccepts)).mp
      (h.apart call hmem haccepts)⟩
    obtain ⟨last, hlast⟩ := exists_lastSaved (p := asked py call.tenantId call.platform none) hmem
      haccepts (by simp [asked])
    have hread := (h.reads call.tenantId call.platform none last.token).mpr ⟨last, hlast, rfl⟩
    obtain ⟨_, _, htrim, _⟩ := (readToken_afterSaves _ _ _ _ _).mp hread
    exact htrim
  · intro h
    refine ⟨?_, fun _ _ _ _ _ _ _ => separates_of_recorded, ?_⟩
    · intro tenantId platform tokenId token
      rw [readToken_afterSaves]
      constructor
      · rintro ⟨call, hcall, _, htoken⟩
        exact ⟨call, hcall, htoken⟩
      · rintro ⟨call, hcall, htoken⟩
        obtain ⟨hmem, haccepts, hasked⟩ := lastSaved_spec hcall
        unfold asked at hasked
        simp only [Bool.and_eq_true, beq_iff_eq] at hasked
        exact ⟨call, hcall, hasked.1.1 ▸ (h call hmem haccepts).1, htoken⟩
    · intro call hmem haccepts
      exact (apart_iff (platformPattern_of_acceptsToken haccepts)).mpr (h call hmem haccepts).2

/-! ## A platform with the name of a label -/

def identityPlatform : SaveToken where
  tenantId := "coop-alpha"
  platform := "telegram_client_identity"
  token := "secret"
  tokenId := "primary"
  createdAt := .omitted
  nonce := 0
  now := 0

/-- A tenant may save a token for a platform of that name, and its Telegram identities open as
tokens of the platform. -/
theorem not_bound_identityPlatform : ¬ Bound Reference.stdlib TelegramSample.aead
    [identityPlatform] := by
  intro h
  have haccepts : acceptsToken Reference.stdlib identityPlatform = true := by decide
  have hlabel : platformKey Reference.stdlib identityPlatform.platform ∈ aadLabels := by
    decide
  exact (apart_iff (platformPattern_of_acceptsToken haccepts)).mp
    (h.apart identityPlatform List.mem_cons_self haccepts) hlabel

end MediaCenter.MessengerAdapter
