import Mathlib.Data.List.Infix
import MediaCenter.Library.Bytes
import MediaCenter.Library.Dict
import MediaCenter.Library.Sha
import MediaCenter.Model.Shared.Tenant

/-!
# The tenant object storage (`libs/shared/object_storage.py`)

One bucket keeps the objects of all tenants; a key starts with the tenant and the domain.  The
storage in memory and the one on S3 are written twice, over the same checks and keys.
-/

set_option autoImplicit false

namespace MediaCenter.Shared.ObjectStorage

open MediaCenter.Library

/-! ## Segments, keys and metadata -/

def isControl (c : Char) : Bool := decide (c.toNat < 32)

/-- `_BUCKET_PATTERN`. -/
def bucketPattern (s : String) : Bool :=
  let ends := fun c => Text.isAsciiLower c || Text.isAsciiDigit c
  let inner := fun c => ends c || c == '.' || c == '-'
  decide (3 ≤ s.toList.length) && decide (s.toList.length ≤ 63) && s.toList.all inner &&
    s.toList.head?.any ends && s.toList.getLast?.any ends

/-- `validate_s3_bucket_name`. -/
def validateS3BucketName (bucket : String) : Except SharedException String :=
  let normalized := Text.strip bucket
  if ¬ bucketPattern normalized = true then
    .error (.valueError "S3_BUCKET должен быть DNS-compatible bucket name")
  else if ['.', '.'] <:+: normalized.toList ∨ ['.', '-'] <:+: normalized.toList ∨
      ['-', '.'] <:+: normalized.toList then
    .error (.valueError "S3_BUCKET не должен содержать небезопасные сочетания")
  else .ok normalized

/-- `_SAFE_SEGMENT_PATTERN`. -/
def safeSegmentPattern (s : String) : Bool :=
  Text.matchesHeadTail Text.isAsciiAlnum
    (fun c => Text.isAsciiAlnum c || c == '.' || c == '_' || c == '-') 127 s

/-- `_METADATA_KEY_PATTERN`. -/
def metadataKeyPattern (s : String) : Bool :=
  Text.matchesHeadTail Text.isAsciiAlnum
    (fun c => Text.isAsciiAlnum c || c == '_' || c == '.' || c == '-') 127 s

/-- `_safe_segment`. -/
def safeSegment (value label : String) : Except SharedException String :=
  let normalized := Text.strip value
  if safeSegmentPattern normalized = true then .ok normalized
  else .error (.valueError (label ++ " должен быть безопасным path segment"))

/-- `_tenant_path_segment`. -/
def tenantPathSegment (tenantId : String) : Except SharedException String :=
  let normalized := Text.strip tenantId
  if normalized = "" ∨ '/' ∈ normalized.toList ∨ '\\' ∈ normalized.toList then
    .error (.tenantIsolation "tenant_id не должен содержать path separators" none)
  else if (normalized.toList.any fun c => Text.isSpace c || isControl c) = true then
    .error (.tenantIsolation "tenant_id не должен содержать пробелы" none)
  else if ['.', '.'] <:+: normalized.toList then
    .error (.tenantIsolation "tenant_id не должен содержать '..'" none)
  else .ok normalized

/-- `_normalize_object_id`. -/
def normalizeObjectId (objectId : String) : Except SharedException String :=
  let normalized := Text.strip objectId
  if normalized = "" then .error (.valueError "object_id должен быть непустой строкой")
  else if normalized.toList.head? = some '/' ∨ '\\' ∈ normalized.toList then
    .error (.valueError "object_id не должен начинаться с '/' или содержать '\\'")
  else if ['/', '/'] <:+: normalized.toList then
    .error (.valueError "object_id не должен содержать пустые path segments")
  else if (normalized.toList.any fun c => Text.isSpace c || isControl c) = true then
    .error (.valueError "object_id не должен содержать пробелы")
  else if ((splitAtEvery '/' normalized.toList).any fun part =>
      part = ['.'] || part = ['.', '.']) = true then
    .error (.valueError "object_id не должен содержать '.' или '..'")
  else .ok normalized

/-- `_normalize_optional_object_prefix`. -/
def normalizeOptionalObjectPrefix (objectPrefix : String) : Except SharedException String :=
  let normalized := Text.strip objectPrefix
  if normalized = "" then .ok ""
  else do
    let normalizedObjectId ← normalizeObjectId normalized
    return if normalizedObjectId.toList.getLast? = some '/' then normalizedObjectId
      else normalized ++ "/"

/-- `_normalize_key`. -/
def normalizeKey (value label : String) : Except SharedException String :=
  let normalized := Text.strip value
  if normalized = "" ∨ normalized.toList.head? = some '/' ∨ '\\' ∈ normalized.toList then
    .error (.valueError (label ++ " должен быть безопасным S3 key"))
  else if ['/', '/'] <:+: normalized.toList then
    .error (.valueError (label ++ " не должен содержать пустые path segments"))
  else .ok normalized

/-- `_content_type`. -/
def normalizeContentType (contentType : String) : Except SharedException String :=
  let normalized := Text.strip contentType
  if normalized = "" ∨ normalized.toList.any Text.isSpace = true then
    .error (.valueError "content_type должен быть media type без пробелов")
  else .ok normalized

abbrev ObjectMetadata : Type := Dict String String

/-- `key.lower()`; a key that gets this far is ASCII. -/
def lowerKey (key : String) : String := String.ofList (key.toList.map Text.lowerLatin1)

/-- One entry of `_normalize_metadata`. -/
def normalizeMetadataEntry (entry : String × String) :
    Except SharedException (String × String) := do
  refuseIf (¬ metadataKeyPattern entry.1 = true)
    (.valueError "metadata key должен быть безопасной строкой")
  refuseIf (entry.2.toList.any isControl = true)
    (.valueError "metadata value не должен содержать control characters")
  return (lowerKey entry.1, entry.2)

/-- `_normalize_metadata`. -/
def normalizeMetadata (metadata : ObjectMetadata) : Except SharedException ObjectMetadata := do
  let entries ← metadata.entries.mapM normalizeMetadataEntry
  return Dict.ofList entries

/-- The context a call is made with, and the one that is current. -/
structure StorageCaller where
  context : Option TenantContext
  current : Option TenantContext

/-- `build_tenant_object_prefix`. -/
def buildTenantObjectPrefix (domain : Option String) (caller : StorageCaller)
    (tenantPrefix : String) : Except SharedException String := do
  let resolvedContext ← resolveContext caller.context caller.current
  let normalizedPrefix ← safeSegment tenantPrefix "tenant_prefix"
  let tenantSegment ← tenantPathSegment resolvedContext.tenantId
  match domain with
  | none => return normalizedPrefix ++ "/" ++ tenantSegment ++ "/"
  | some domain => do
      let domainSegment ← safeSegment domain "domain"
      return normalizedPrefix ++ "/" ++ tenantSegment ++ "/" ++ domainSegment ++ "/"

/-- `build_tenant_object_key`. -/
def buildTenantObjectKey (domain objectId : String) (caller : StorageCaller)
    (tenantPrefix : String) : Except SharedException String := do
  let objectPrefix ← buildTenantObjectPrefix (some domain) caller tenantPrefix
  let normalizedObjectId ← normalizeObjectId objectId
  return objectPrefix ++ normalizedObjectId

/-- `_tenant_metadata_for_object`. -/
def tenantMetadataForObject (metadata : Option ObjectMetadata) (body : Bytes) (domain : String)
    (context : TenantContext) : Except SharedException ObjectMetadata := do
  let normalizedMetadata ← normalizeMetadata (metadata.getD Dict.empty)
  match normalizedMetadata.get? "tenant_id" with
  | some requestedTenantId => assertRequestedTenant requestedTenantId context
  | none => pure ()
  let normalizedMetadata := normalizedMetadata.set "tenant_id" context.tenantId
  let normalizedMetadata := normalizedMetadata.set "domain" domain
  let normalizedMetadata := normalizedMetadata.set "content_hash"
    (Sha.hexdigest (Sha.sha256 (body.map UInt8.toNat)))
  return match context.correlationId with
    | some correlationId => normalizedMetadata.set "correlation_id" correlationId
    | none => normalizedMetadata

/-- `_assert_metadata_tenant`. -/
def assertMetadataTenant (metadata : ObjectMetadata) (context : TenantContext) :
    Except SharedException Unit :=
  match metadata.get? "tenant_id" with
  | none => .error (.tenantIsolation "S3 object metadata не содержит tenant_id"
      context.correlationId)
  | some requestedTenantId => assertRequestedTenant requestedTenantId context

/-! ## References -/

structure TenantObjectReference where
  bucket : String
  key : String
  domain : String
  objectId : String
  size : Option ℕ := none
  contentType : Option String := none
  metadata : ObjectMetadata := Dict.empty
  etag : Option String := none

/-- `TenantObjectReference.__post_init__`; a size is never negative here. -/
def TenantObjectReference.postInit (args : TenantObjectReference) :
    Except SharedException TenantObjectReference := do
  let bucket ← validateS3BucketName args.bucket
  let key ← normalizeKey args.key "key"
  let domain ← safeSegment args.domain "domain"
  let objectId ← normalizeObjectId args.objectId
  refuseIf (args.contentType.any (fun contentType => Text.strip contentType = "") = true)
    (.valueError "content_type должен быть непустой строкой")
  let metadata ← normalizeMetadata args.metadata
  return { args with bucket, key, domain, objectId, metadata }

structure TenantObject where
  reference : TenantObjectReference
  body : Bytes

/-- The bucket and the tenant prefix of a storage. -/
structure StorageOptions where
  bucket : String
  tenantPrefix : String
  bucket_valid : validateS3BucketName bucket = .ok bucket
  tenantPrefix_valid : safeSegment tenantPrefix "tenant_prefix" = .ok tenantPrefix

/-! ## Calls -/

structure PutArgs where
  domain : String
  objectId : String
  body : Bytes
  contentType : String := "application/octet-stream"
  metadata : Option ObjectMetadata := none

inductive StorageRequest : Type where
  | putObject (args : PutArgs)
  | getObject (domain objectId : String)
  | listObjects (domain objectPrefix : String)
  | deleteObject (domain objectId : String)

structure StorageCall where
  caller : StorageCaller
  request : StorageRequest

inductive StorageAnswer : Type where
  | reference (reference : TenantObjectReference)
  | object (object : Option TenantObject)
  | references (references : List TenantObjectReference)
  | removed (removed : Bool)

/-- What `put_object` and `get_object` have worked out when they turn to their objects. -/
structure ObjectScope where
  context : TenantContext
  domain : String
  objectId : String
  key : String

/-- The first lines of `get_object`. -/
def objectScope (options : StorageOptions) (caller : StorageCaller) (domain objectId : String) :
    Except SharedException ObjectScope := do
  let resolvedContext ← resolveContext caller.context caller.current
  let normalizedDomain ← safeSegment domain "domain"
  let normalizedObjectId ← normalizeObjectId objectId
  let key ← buildTenantObjectKey normalizedDomain normalizedObjectId
    ⟨some resolvedContext, caller.current⟩ options.tenantPrefix
  return ⟨resolvedContext, normalizedDomain, normalizedObjectId, key⟩

/-- What a storage on S3 keeps under a key. -/
structure S3Object where
  body : Bytes
  contentType : String
  metadata : ObjectMetadata

/-- The first lines of `put_object`, up to the object to store. -/
def objectToPut (options : StorageOptions) (caller : StorageCaller) (args : PutArgs) :
    Except SharedException (ObjectScope × S3Object) := do
  let resolvedContext ← resolveContext caller.context caller.current
  let normalizedDomain ← safeSegment args.domain "domain"
  let normalizedObjectId ← normalizeObjectId args.objectId
  let normalizedContentType ← normalizeContentType args.contentType
  let key ← buildTenantObjectKey normalizedDomain normalizedObjectId
    ⟨some resolvedContext, caller.current⟩ options.tenantPrefix
  let objectMetadata ←
    tenantMetadataForObject args.metadata args.body normalizedDomain resolvedContext
  return (⟨resolvedContext, normalizedDomain, normalizedObjectId, key⟩,
    ⟨args.body, normalizedContentType, objectMetadata⟩)

/-- What `list_objects` has worked out when it turns to its objects. -/
structure ListScope where
  context : TenantContext
  domain : String
  domainPrefix : String
  keyPrefix : String

/-- The first lines of `list_objects`. -/
def listScope (options : StorageOptions) (caller : StorageCaller) (domain objectPrefix : String) :
    Except SharedException ListScope := do
  let resolvedContext ← resolveContext caller.context caller.current
  let normalizedDomain ← safeSegment domain "domain"
  let objectPrefix ← normalizeOptionalObjectPrefix objectPrefix
  let domainPrefix ← buildTenantObjectPrefix (some normalizedDomain)
    ⟨some resolvedContext, caller.current⟩ options.tenantPrefix
  return ⟨resolvedContext, normalizedDomain, domainPrefix, domainPrefix ++ objectPrefix⟩

/-- `key.startswith`. -/
def startsWith (key keyPrefix : String) : Bool := keyPrefix.toList.isPrefixOf key.toList

/-- `key.removeprefix`. -/
def removePrefix (key keyPrefix : String) : String :=
  if startsWith key keyPrefix = true then
    String.ofList (key.toList.drop keyPrefix.toList.length)
  else key

/-- The keys with a prefix, in ascending order. -/
def keysWithPrefix {α : Type} (objects : Dict String α) (keyPrefix : String) : List String :=
  ((objects.entries.map Prod.fst).insertionSort (· ≤ ·)).filter fun key => startsWith key keyPrefix

/-! ## In memory -/

namespace InMemoryTenantObjectStorage

/-- `_StoredObject`. -/
structure StoredObject where
  body : Bytes
  contentType : String
  metadata : ObjectMetadata
  etag : String

/-- `_reference_from_stored`. -/
def referenceFromStored (options : StorageOptions) (key domain objectId : String)
    (stored : StoredObject) (context : TenantContext) :
    Except SharedException TenantObjectReference := do
  assertMetadataTenant stored.metadata context
  TenantObjectReference.postInit
    { bucket := options.bucket
      key := key
      domain := domain
      objectId := objectId
      size := some stored.body.length
      contentType := some stored.contentType
      metadata := stored.metadata
      etag := some stored.etag }

/-- `put_object`: the object is stored before its reference is made. -/
def putObject (md5Hex : Bytes → String) (options : StorageOptions) (caller : StorageCaller)
    (args : PutArgs) (objects : Dict String StoredObject) :
    Except SharedException StorageAnswer × Dict String StoredObject :=
  match objectToPut options caller args with
  | .error e => (.error e, objects)
  | .ok (scope, object) =>
      let stored := ⟨object.body, object.contentType, object.metadata, md5Hex object.body⟩
      (.reference <$> referenceFromStored options scope.key scope.domain scope.objectId stored
        scope.context, objects.set scope.key stored)

/-- `get_object`. -/
def getObject (options : StorageOptions) (caller : StorageCaller) (domain objectId : String)
    (objects : Dict String StoredObject) : Except SharedException StorageAnswer := do
  let scope ← objectScope options caller domain objectId
  match objects.get? scope.key with
  | none => return .object none
  | some stored => do
      let reference ← referenceFromStored options scope.key scope.domain scope.objectId stored
        scope.context
      return .object (some ⟨reference, stored.body⟩)

/-- A turn of the loop of `list_objects`. -/
def listedReference (options : StorageOptions) (scope : ListScope)
    (objects : Dict String StoredObject) (key : String) :
    Except SharedException TenantObjectReference :=
  match objects.get? key with
  | some stored => referenceFromStored options key scope.domain
      (removePrefix key scope.domainPrefix) stored scope.context
  | none => .error (.valueError key) -- no such key is listed

/-- `list_objects`. -/
def listObjects (options : StorageOptions) (caller : StorageCaller)
    (domain objectPrefix : String) (objects : Dict String StoredObject) :
    Except SharedException StorageAnswer := do
  let scope ← listScope options caller domain objectPrefix
  let references ← (keysWithPrefix objects scope.keyPrefix).mapM
    (listedReference options scope objects)
  return .references references

/-- `delete_object`. -/
def deleteObject (options : StorageOptions) (caller : StorageCaller) (domain objectId : String)
    (objects : Dict String StoredObject) :
    Except SharedException StorageAnswer × Dict String StoredObject :=
  match buildTenantObjectKey domain objectId caller options.tenantPrefix with
  | .error e => (.error e, objects)
  | .ok key => (.ok (.removed (objects.contains key)), objects.erase key)

def step (md5Hex : Bytes → String) (options : StorageOptions) (objects : Dict String StoredObject)
    (call : StorageCall) : Except SharedException StorageAnswer × Dict String StoredObject :=
  match call.request with
  | .putObject args => putObject md5Hex options call.caller args objects
  | .getObject domain objectId =>
      (getObject options call.caller domain objectId objects, objects)
  | .listObjects domain objectPrefix =>
      (listObjects options call.caller domain objectPrefix objects, objects)
  | .deleteObject domain objectId => deleteObject options call.caller domain objectId objects

end InMemoryTenantObjectStorage

/-! ## On S3 -/

/-- The client of a bucket: a map from keys to objects.  Of an answer only the entity tag is its
own choice, and of a listing the size of its pages. -/
structure S3Client where
  etag : S3Object → Option String
  paginate : List (String × ℕ) → List (List (String × ℕ))
  flatten_paginate : ∀ contents, (paginate contents).flatten = contents

namespace S3TenantObjectStorage

/-- `put_object`. -/
def putObject (client : S3Client) (options : StorageOptions) (caller : StorageCaller)
    (args : PutArgs) (objects : Dict String S3Object) :
    Except SharedException StorageAnswer × Dict String S3Object :=
  match objectToPut options caller args with
  | .error e => (.error e, objects)
  | .ok (scope, object) =>
      (.reference <$> TenantObjectReference.postInit
        { bucket := options.bucket
          key := scope.key
          domain := scope.domain
          objectId := scope.objectId
          size := some object.body.length
          contentType := some object.contentType
          metadata := object.metadata
          etag := client.etag object }, objects.set scope.key object)

/-- `get_object`; `_optional_response_string` reads a blank content type as none. -/
def getObject (client : S3Client) (options : StorageOptions) (caller : StorageCaller)
    (domain objectId : String) (objects : Dict String S3Object) :
    Except SharedException StorageAnswer := do
  let scope ← objectScope options caller domain objectId
  match objects.get? scope.key with
  | none => return .object none
  | some object => do
      let metadata ← normalizeMetadata object.metadata
      assertMetadataTenant metadata scope.context
      let reference ← TenantObjectReference.postInit
        { bucket := options.bucket
          key := scope.key
          domain := scope.domain
          objectId := scope.objectId
          size := some object.body.length
          contentType := if Text.strip object.contentType = "" then none
            else some object.contentType
          metadata := metadata
          etag := client.etag object }
      return .object (some ⟨reference, object.body⟩)

/-- `list_objects`. -/
def listObjects (client : S3Client) (options : StorageOptions) (caller : StorageCaller)
    (domain objectPrefix : String) (objects : Dict String S3Object) :
    Except SharedException StorageAnswer := do
  let scope ← listScope options caller domain objectPrefix
  let contents := (keysWithPrefix objects scope.keyPrefix).filterMap fun key =>
    (objects.get? key).map fun object => (key, object.body.length)
  let items := (client.paginate contents).flatMap fun page =>
    page.filter fun item => startsWith item.1 scope.domainPrefix
  let references ← items.mapM fun item => TenantObjectReference.postInit
    { bucket := options.bucket
      key := item.1
      domain := scope.domain
      objectId := removePrefix item.1 scope.domainPrefix
      size := some item.2 }
  return .references references

/-- `delete_object`: S3 does not say whether there was an object. -/
def deleteObject (options : StorageOptions) (caller : StorageCaller) (domain objectId : String)
    (objects : Dict String S3Object) :
    Except SharedException StorageAnswer × Dict String S3Object :=
  match buildTenantObjectKey domain objectId caller options.tenantPrefix with
  | .error e => (.error e, objects)
  | .ok key => (.ok (.removed true), objects.erase key)

def step (client : S3Client) (options : StorageOptions) (objects : Dict String S3Object)
    (call : StorageCall) : Except SharedException StorageAnswer × Dict String S3Object :=
  match call.request with
  | .putObject args => putObject client options call.caller args objects
  | .getObject domain objectId =>
      (getObject client options call.caller domain objectId objects, objects)
  | .listObjects domain objectPrefix =>
      (listObjects client options call.caller domain objectPrefix objects, objects)
  | .deleteObject domain objectId => deleteObject options call.caller domain objectId objects

end S3TenantObjectStorage

/-! ## The bucket policy -/

structure IamStatement where
  sid : String
  effect : String
  action : List String
  resource : List String
  /-- The patterns of `StringLike` on `s3:prefix`. -/
  condition : Option (List String) := none

structure IamPolicy where
  version : String
  statement : List IamStatement

/-- `build_tenant_s3_prefix_policy`. -/
def buildTenantS3PrefixPolicy (bucket : String) (caller : StorageCaller) (tenantPrefix : String) :
    Except SharedException IamPolicy := do
  let bucketName ← validateS3BucketName bucket
  let tenantObjectPrefix ← buildTenantObjectPrefix none caller tenantPrefix
  return {
    version := "2012-10-17"
    statement := [
      { sid := "ListTenantPrefix"
        effect := "Allow"
        action := ["s3:ListBucket"]
        resource := ["arn:aws:s3:::" ++ bucketName]
        condition := some [tenantObjectPrefix ++ "*"] },
      { sid := "TenantObjectAccess"
        effect := "Allow"
        action := ["s3:GetObject", "s3:PutObject", "s3:DeleteObject"]
        resource := ["arn:aws:s3:::" ++ bucketName ++ "/" ++ tenantObjectPrefix ++ "*"] }] }

/-- The meaning of a pattern: `*` stands for any text, `?` for any character. -/
def iamMatches : List Char → List Char → Bool
  | [], text => text.isEmpty
  | '*' :: pattern, text =>
      (List.range (text.length + 1)).any fun index => iamMatches pattern (text.drop index)
  | _ :: _, [] => false
  | p :: pattern, c :: text => (p == '?' || p == c) && iamMatches pattern text

/-- Whether an action on an object is allowed: by a statement about that action, without a
condition, one of whose resources matches. -/
def IamPolicy.allowsObject (policy : IamPolicy) (action bucket key : String) : Bool :=
  policy.statement.any fun statement =>
    statement.effect == "Allow" && statement.action.contains action &&
      statement.condition.isNone && statement.resource.any fun pattern =>
        iamMatches pattern.toList ("arn:aws:s3:::" ++ bucket ++ "/" ++ key).toList

end MediaCenter.Shared.ObjectStorage
