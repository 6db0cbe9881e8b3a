import MediaCenter.Model.MessengerAdapter.ContentTransformer
import MediaCenter.Model.MessengerAdapter.TelegramClient

/-!
# Encrypted platform tokens (`messenger_adapter/base_adapter.py`)

A token is encrypted with its tenant and its platform as associated data, and kept under tenant,
platform and token id.  Telegram identities and Telethon sessions are encrypted by the same
cipher, with a label in the place of the platform.
-/

set_option autoImplicit false

namespace MediaCenter.MessengerAdapter

open MediaCenter.Library MediaCenter.Shared

def telegramTelethonSessionAadLabel : String := "telegram_telethon_session"

inductive TokenError : Type where
  | shared (e : SharedException)
  | cipher (e : TelegramError)
  /-- `PlatformTokenNotFoundError`. -/
  | notFound (message : String)
  deriving DecidableEq, Repr

/-! ## The cipher -/

namespace PlatformTokenCipher

/-- `PlatformTokenCipher.encrypt`. -/
def encrypt (py : Stdlib) (aead : Aead) (nonce : ℕ) (tenantId platform token : String) :
    Except TokenError String :=
  if Text.strip token = "" then .error (.cipher (.tokenCrypto "token не может быть пустым"))
  else do
    let name ← (normalizePlatform py platform).mapError .shared
    return tokenCiphertextPrefix ++ aead.encrypt nonce (tokenAad tenantId name) token

/-- `PlatformTokenCipher.decrypt`.  A blank platform is told before a damaged payload here. -/
def decrypt (py : Stdlib) (aead : Aead) (tenantId platform tokenEncrypted : String) :
    Except TokenError String := do
  let name ← (normalizePlatform py platform).mapError .shared
  (decryptToken aead tenantId name tokenEncrypted).mapError .cipher

end PlatformTokenCipher

/-- `TelegramIdentityCipher.encrypt`. -/
def encryptIdentity (py : Stdlib) (aead : Aead) (nonce : ℕ) (tenantId telegramUserId : String) :
    Except TokenError String :=
  PlatformTokenCipher.encrypt py aead nonce tenantId telegramIdentityAadLabel telegramUserId

/-- The `session_encrypted` of `InMemoryTelegramTelethonSessionStore.save_session`. -/
def encryptSession (py : Stdlib) (aead : Aead) (nonce : ℕ) (tenantId sessionString : String) :
    Except TokenError String :=
  if Text.strip sessionString = "" then
    .error (.shared (.valueError "Telethon session_string не может быть пустой"))
  else
    PlatformTokenCipher.encrypt py aead nonce tenantId telegramTelethonSessionAadLabel
      sessionString

/-! ## The store -/

structure PlatformTokenFields where
  tenantId : String
  platform : String
  tokenId : String
  tokenEncrypted : String
  createdAt : Instant
  deriving DecidableEq, Repr

def PlatformTokenFields.checks (f : PlatformTokenFields) : List (String × Bool) :=
  [("tenant_id", tenantIdPattern f.tenantId),
    ("platform", platformPattern f.platform),
    ("token_id", tokenPattern f.tokenId),
    ("token_encrypted", tokenCiphertextPattern f.tokenEncrypted)]

abbrev EncryptedPlatformToken : Type := Validated PlatformTokenFields.checks

/-- The keys are tenant, normal platform and token id, the last without the id. -/
structure InMemoryPlatformTokenStore where
  tokens : Dict (String × String × String) EncryptedPlatformToken
  primaryTokenIds : Dict (String × String) String

def InMemoryPlatformTokenStore.empty : InMemoryPlatformTokenStore := ⟨Dict.empty, Dict.empty⟩

/-- The arguments of `save_token`, with the nonce and the clock. -/
structure SaveToken where
  tenantId : String
  platform : String
  token : String
  tokenId : String
  createdAt : TimeArg
  nonce : ℕ
  now : Instant

/-- The record that `save_token` stores, with the normal platform, or what it raises before. -/
def newPlatformToken (py : Stdlib) (aead : Aead) (call : SaveToken) :
    Except TokenError (String × EncryptedPlatformToken) := do
  let normalizedPlatform ← (normalizePlatform py call.platform).mapError .shared
  let createdAt ← (resolveTime py call.now call.createdAt).mapError .shared
  let tokenEncrypted ← PlatformTokenCipher.encrypt py aead call.nonce call.tenantId
    normalizedPlatform call.token
  let record ← (Validated.make "EncryptedPlatformToken" PlatformTokenFields.checks
    { tenantId := Text.trim call.tenantId
      platform := Text.trim normalizedPlatform
      tokenId := Text.trim call.tokenId
      tokenEncrypted := Text.trim tokenEncrypted
      createdAt := createdAt }).mapError .shared
  return (normalizedPlatform, record)

namespace InMemoryPlatformTokenStore

/-- `save_token`: what it returns or raises, and the store behind it. -/
def saveToken (py : Stdlib) (aead : Aead) (call : SaveToken) (store : InMemoryPlatformTokenStore) :
    Except TokenError EncryptedPlatformToken × InMemoryPlatformTokenStore :=
  match newPlatformToken py aead call with
  | .error e => (.error e, store)
  | .ok (normalizedPlatform, record) =>
      (.ok record,
        ⟨store.tokens.set (call.tenantId, normalizedPlatform, call.tokenId) record,
          store.primaryTokenIds.set (call.tenantId, normalizedPlatform) call.tokenId⟩)

/-- `require_token`. -/
def requireToken (py : Stdlib) (tenantId platform : String) (tokenId : Option String)
    (store : InMemoryPlatformTokenStore) : Except TokenError EncryptedPlatformToken := do
  let normalizedPlatform ← (normalizePlatform py platform).mapError .shared
  let resolvedTokenId := (tokenId.filter fun id => id ≠ "").orElse fun _ =>
    store.primaryTokenIds.get? (tenantId, normalizedPlatform)
  match resolvedTokenId with
  | none => .error (.notFound "Токен площадки для tenant/platform не найден")
  | some id =>
      match store.tokens.get? (tenantId, normalizedPlatform, id) with
      | none => .error (.notFound "Токен площадки для tenant/platform не найден")
      | some record => .ok record

/-- `decrypt_token`. -/
def decryptToken (py : Stdlib) (aead : Aead) (record : EncryptedPlatformToken)
    (tenantId : String) : Except TokenError String :=
  if record.fields.tenantId ≠ tenantId then
    .error (.shared (.tenantIsolation "Токен площадки принадлежит другому tenant" none))
  else
    PlatformTokenCipher.decrypt py aead tenantId record.fields.platform record.fields.tokenEncrypted

end InMemoryPlatformTokenStore

end MediaCenter.MessengerAdapter
