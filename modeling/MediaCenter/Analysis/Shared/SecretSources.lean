import Mathlib.Data.Set.List
import MediaCenter.Model.Shared.AppSettings

/-!
# Where a secret comes from

`load_app_settings` asks a secret provider for every secret when it reads the environment of the
process, and only for those the given environment lacks when it is passed one.  The two agree
exactly when the provider raises on no secret and has, for a secret the environment sets, no value
that is read another way; or when both calls raise.
-/

set_option autoImplicit false

namespace MediaCenter.Shared.Config

open MediaCenter.Library

variable {ε : Type}

/-! ## The loop over the secrets -/

/-- What the provider has for a secret, when that is not blank. -/
def offered (provider : SecretProvider ε) (name : String) : Option String :=
  match provider name with
  | .ok value => value.filter fun value => Text.strip value ≠ ""
  | .error _ => none

/-- The dictionary of one pass that does not raise. -/
def withSecret (asks : String → Bool) (provider : SecretProvider ε)
    (resolved : Dict String String) (name : String) : Dict String String :=
  if asks name = true then (offered provider name).elim resolved (resolved.set name)
  else resolved

theorem collectSecret_eq_ok_iff {asks : String → Bool} {provider : SecretProvider ε}
    {resolved next : Dict String String} {name : String} :
    collectSecret asks provider resolved name = .ok next ↔
      (asks name = true → ∃ value, provider name = .ok value) ∧
        next = withSecret asks provider resolved name := by
  have hok : ∀ {d d' : Dict String String},
      (.ok d : Except (SettingsFailure ε) (Dict String String)) = .ok d' ↔ d' = d :=
    ⟨fun h => (Except.ok.inj h).symm, fun h => h ▸ rfl⟩
  unfold collectSecret withSecret offered
  by_cases hasks : asks name = true
  · rw [if_pos hasks, if_pos hasks]
    cases hprovider : provider name with
    | error e => simp [Except.mapError, bind, Except.bind, hasks]
    | ok value =>
        cases value with
        | none => simp [Except.mapError, bind, Except.bind, pure, Except.pure, hok]
        | some value =>
            by_cases hblank : Text.strip value = ""
            · simp [Except.mapError, bind, Except.bind, pure, Except.pure, hblank, hok, Option.filter]
            · simp [Except.mapError, bind, Except.bind, pure, Except.pure, hblank, hok, Option.filter]
  · rw [if_neg hasks, if_neg hasks, hok]
    exact (and_iff_right fun h => absurd h hasks).symm

theorem foldlM_collectSecret_eq_ok_iff {asks : String → Bool} {provider : SecretProvider ε}
    {names : List String} {resolved final : Dict String String} :
    names.foldlM (collectSecret asks provider) resolved = .ok final ↔
      (∀ name ∈ names, asks name = true → ∃ value, provider name = .ok value) ∧
        final = names.foldl (withSecret asks provider) resolved := by
  induction names generalizing resolved with
  | nil =>
      rw [List.foldlM_nil, List.foldl_nil]
      constructor
      · intro h
        exact ⟨List.forall_mem_nil _, (Except.ok.inj h).symm⟩
      · rintro ⟨-, rfl⟩
        rfl
  | cons name names ih =>
      rw [List.foldlM_cons, bind_eq_ok_iff, List.forall_mem_cons, List.foldl_cons]
      constructor
      · rintro ⟨next, hfirst, hrest⟩
        obtain ⟨hanswers, rfl⟩ := collectSecret_eq_ok_iff.mp hfirst
        obtain ⟨hall, hfinal⟩ := ih.mp hrest
        exact ⟨⟨hanswers, hall⟩, hfinal⟩
      · rintro ⟨⟨hanswers, hall⟩, hfinal⟩
        exact ⟨_, collectSecret_eq_ok_iff.mpr ⟨hanswers, rfl⟩, ih.mpr ⟨hall, hfinal⟩⟩

theorem get?_withSecret (asks : String → Bool) (provider : SecretProvider ε)
    (resolved : Dict String String) (name other : String) :
    (withSecret asks provider resolved name).get? other =
      (if other = name ∧ asks other = true then offered provider other else none).or
        (resolved.get? other) := by
  unfold withSecret
  by_cases hname : other = name
  · subst hname
    by_cases hasks : asks other = true
    · cases hoffered : offered provider other with
      | none => simp [hasks]
      | some value => simp [hasks]
    · simp [hasks]
  · by_cases hasks : asks name = true
    · cases hoffered : offered provider name with
      | none => simp [hasks, hname]
      | some value => simp [hasks, hname]
    · simp [hasks, hname]

theorem get?_foldl_withSecret (asks : String → Bool) (provider : SecretProvider ε)
    (names : List String) (resolved : Dict String String) (other : String) :
    (names.foldl (withSecret asks provider) resolved).get? other =
      (if other ∈ names ∧ asks other = true then offered provider other else none).or
        (resolved.get? other) := by
  induction names generalizing resolved with
  | nil => simp
  | cons name names ih =>
      rw [List.foldl_cons, ih, get?_withSecret, ← Option.or_assoc]
      congr 1
      by_cases hname : other = name
      · subst hname
        by_cases hmem : other ∈ names
        · simp [hmem]
        · simp [hmem]
      · simp [hname]

/-! ## The values that are read -/

/-- The text found for a name when the provider is asked for the secrets that `asks` tells. -/
def found (environ : Dict String String) (provider : SecretProvider ε)
    (asks : Option String → Bool) (name : String) : Option String :=
  (if name ∈ secretEnvNames ∧ asks (environ.get? name) = true then offered provider name
    else none).or (environ.get? name)

/-- The path over the environment of the process asks for every secret. -/
def everySecret : Option String → Bool := fun _ => true

/-- The settings hold the value of every field, from the texts found for them. -/
def Reads (lib : SettingsLib) (texts : String → Option String) (settings : AppSettings) : Prop :=
  ((appSettingsFields lib).map fun field =>
    (field.value (texts field.name)).map (Prod.mk field.name)) = settings.values.map some

theorem appSettings_eq_ok_iff {lib : SettingsLib} {values process : String → Option String}
    {settings : AppSettings} :
    (appSettings lib values process : Except (SettingsFailure ε) AppSettings) = .ok settings ↔
      Reads lib (fun name => (values name).or (process name)) settings := by
  unfold appSettings Reads
  rw [bind_eq_ok_iff, ← List.forall₂_eq_eq_eq, List.forall₂_map_left_iff,
    List.forall₂_map_right_iff]
  constructor
  · rintro ⟨read, hread, hsettings⟩
    cases hsettings
    refine ((mapM_eq_ok_iff _ _ _).mp hread).imp fun field entry hfield => ?_
    cases hvalue : field.value ((values field.name).or (process field.name)) with
    | none => simp [hvalue] at hfield
    | some v => simpa [hvalue] using hfield
  · intro h
    refine ⟨settings.values, (mapM_eq_ok_iff _ _ _).mpr (h.imp fun field entry hfield => ?_), rfl⟩
    cases hvalue : field.value ((values field.name).or (process field.name)) with
    | none => simp [hvalue] at hfield
    | some v => simpa [hvalue] using hfield

theorem exists_reads_iff {lib : SettingsLib} {texts : String → Option String} :
    (∃ settings, Reads lib texts settings) ↔
      ∀ field ∈ appSettingsFields lib, field.value (texts field.name) ≠ none := by
  constructor
  · rintro ⟨settings, h⟩ field hfield hnone
    have hmem := List.mem_map_of_mem (f := fun field =>
      (field.value (texts field.name)).map (Prod.mk field.name)) hfield
    rw [h, hnone] at hmem
    simp at hmem
  · intro h
    have hrange : ((appSettingsFields lib).map fun field =>
        (field.value (texts field.name)).map (Prod.mk field.name)) ∈
          Set.range (List.map some) := by
      rw [Set.range_list_map]
      intro entry hentry
      obtain ⟨field, hfield, rfl⟩ := List.mem_map.mp hentry
      obtain ⟨v, hv⟩ := Option.ne_none_iff_exists'.mp (h field hfield)
      exact ⟨(field.name, v), by rw [hv, Option.map_some]⟩
    obtain ⟨values, hvalues⟩ := hrange
    exact ⟨⟨values⟩, hvalues.symm⟩

/-- INTERNAL: two readings give the same settings exactly when they agree field by field. -/
theorem Reads.eq_iff {lib : SettingsLib} {texts texts' : String → Option String}
    {settings settings' : AppSettings} (h : Reads lib texts settings)
    (h' : Reads lib texts' settings') :
    settings = settings' ↔ ∀ field ∈ appSettingsFields lib,
      field.value (texts field.name) = field.value (texts' field.name) := by
  have hinj : ∀ name : String, Function.Injective
      (Option.map (Prod.mk name : SettingValue → String × SettingValue)) :=
    fun name => Option.map_injective (Prod.mk_right_injective name)
  have hsettings : settings = settings' ↔ settings.values.map some = settings'.values.map some := by
    rw [(List.map_injective_iff.mpr (Option.some_injective _)).eq_iff]
    cases settings
    cases settings'
    simp
  rw [hsettings, ← h, ← h', List.map_inj_left]
  exact forall₂_congr fun field _ => (hinj field.name).eq_iff

theorem Reads.mem {lib : SettingsLib} {texts : String → Option String} {settings : AppSettings}
    (h : Reads lib texts settings) {field : SettingsField} (hfield : field ∈ appSettingsFields lib)
    {v : SettingValue} (hv : field.value (texts field.name) = some v) :
    (field.name, v) ∈ settings.values := by
  have hmem := List.mem_map_of_mem (f := fun field =>
    (field.value (texts field.name)).map (Prod.mk field.name)) hfield
  rw [h, hv] at hmem
  simpa using hmem

/-! ## The two paths -/

/-- The provider raises on a secret it is asked for. -/
def Raises (environ : Dict String String) (provider : SecretProvider ε)
    (asks : Option String → Bool) : Prop :=
  ∃ name ∈ secretEnvNames, asks (environ.get? name) = true ∧ ∃ e, provider name = .error e

theorem not_raises_iff {environ : Dict String String} {provider : SecretProvider ε}
    {asks : Option String → Bool} :
    ¬ Raises environ provider asks ↔ ∀ name ∈ secretEnvNames, asks (environ.get? name) = true →
      ∃ value, provider name = .ok value := by
  unfold Raises
  simp only [not_exists, not_and]
  refine forall₃_congr fun name _ _ => ?_
  cases provider name with
  | error e => simp
  | ok value => simp

theorem collected_eq_ok_iff (environ : Dict String String) {provider : SecretProvider ε}
    (asks : Option String → Bool) {secrets : Dict String String} :
    secretEnvNames.foldlM (collectSecret (fun name => asks (environ.get? name)) provider)
        Dict.empty = .ok secrets ↔
      ¬ Raises environ provider asks ∧ secrets = secretEnvNames.foldl
        (withSecret (fun name => asks (environ.get? name)) provider) Dict.empty := by
  rw [foldlM_collectSecret_eq_ok_iff, not_raises_iff]

/-- INTERNAL: a value passed in and found in the environment of the process as well. -/
theorem or_or_self (x y : Option String) : (x.or y).or y = x.or y := by
  cases x with
  | none => cases y <;> rfl
  | some value => rfl

/-- Each path reads the texts that go with the secrets it asks for. -/
theorem loadAppSettings_eq_ok_iff {lib : SettingsLib} {environ : Dict String String}
    {provider : SecretProvider ε} {settings : AppSettings} :
    (loadAppSettings lib environ none (some provider) = .ok settings ↔
      ¬ Raises environ provider everySecret ∧
        Reads lib (found environ provider everySecret) settings) ∧
    (loadAppSettings lib environ (some environ) (some provider) = .ok settings ↔
      ¬ Raises environ provider needsSecretProvider ∧
        Reads lib (found environ provider needsSecretProvider) settings) := by
  have htexts : ∀ asks : Option String → Bool,
      (fun name => ((secretEnvNames.foldl (withSecret (fun name =>
        asks (environ.get? name)) provider) Dict.empty).get? name).or (environ.get? name)) =
        found environ provider asks := by
    intro asks
    funext name
    rw [get?_foldl_withSecret, Dict.get?_empty, Option.or_none, found]
  unfold loadAppSettings
  constructor
  · unfold secretValuesFromProvider
    rw [bind_eq_ok_iff]
    constructor
    · rintro ⟨secrets, hsecrets, hsettings⟩
      obtain ⟨hraises, rfl⟩ := (collected_eq_ok_iff environ everySecret).mp hsecrets
      exact ⟨hraises, htexts everySecret ▸ appSettings_eq_ok_iff.mp hsettings⟩
    · rintro ⟨hraises, hreads⟩
      exact ⟨_, (collected_eq_ok_iff environ everySecret).mpr ⟨hraises, rfl⟩,
        appSettings_eq_ok_iff.mpr (htexts everySecret ▸ hreads)⟩
  · unfold missingSecretValues
    rw [bind_eq_ok_iff]
    constructor
    · rintro ⟨secrets, hsecrets, hsettings⟩
      obtain ⟨hraises, rfl⟩ := (collected_eq_ok_iff environ needsSecretProvider).mp hsecrets
      have hreads := appSettings_eq_ok_iff.mp hsettings
      simp only [or_or_self] at hreads
      exact ⟨hraises, htexts needsSecretProvider ▸ hreads⟩
    · rintro ⟨hraises, hreads⟩
      refine ⟨_, (collected_eq_ok_iff environ needsSecretProvider).mpr ⟨hraises, rfl⟩,
        appSettings_eq_ok_iff.mpr ?_⟩
      simp only [or_or_self]
      exact htexts needsSecretProvider ▸ hreads

/-! ## When the two paths agree -/

/-- A secret that the environment sets to a value of its own is read from that value. -/
def UsesOwnSecrets (lib : SettingsLib) (environ : Dict String String) (settings : AppSettings) :
    Prop :=
  ∀ field ∈ appSettingsFields lib, field.name ∈ secretEnvNames → ∀ own,
    environ.get? field.name = some own → needsSecretProvider (some own) = false →
      ∃ v, field.read own = some v ∧ (field.name, v) ∈ settings.values

/-- Both calls raise, or both give the same settings, which use the secrets of the environment. -/
def ResolvesAlike (lib : SettingsLib) (environ : Dict String String)
    (provider : SecretProvider ε) : Prop :=
  match loadAppSettings lib environ none (some provider),
      loadAppSettings lib environ (some environ) (some provider) with
  | .ok fromProcess, .ok fromMapping =>
      fromProcess = fromMapping ∧ UsesOwnSecrets lib environ fromProcess
  | .error _, .error _ => True
  | _, _ => False

/-- For a secret that the environment sets, the provider has nothing that reads another way. -/
def SecretsAgree (lib : SettingsLib) (environ : Dict String String)
    (provider : SecretProvider ε) : Prop :=
  ∀ field ∈ appSettingsFields lib, field.name ∈ secretEnvNames → ∀ own other,
    environ.get? field.name = some own → needsSecretProvider (some own) = false →
      offered provider field.name = some other → field.read own = field.read other

/-- The provider raises on a secret it is asked for, or a field refuses the text found for it. -/
def Refused (lib : SettingsLib) (environ : Dict String String) (provider : SecretProvider ε)
    (asks : Option String → Bool) : Prop :=
  Raises environ provider asks ∨ ∃ field ∈ appSettingsFields lib,
    field.value (found environ provider asks field.name) = none

theorem not_refused_iff {lib : SettingsLib} {environ : Dict String String}
    {provider : SecretProvider ε} {asks : Option String → Bool} :
    ¬ Refused lib environ provider asks ↔
      ¬ Raises environ provider asks ∧ ∃ settings, Reads lib (found environ provider asks) settings := by
  rw [Refused, not_or, exists_reads_iff]
  simp only [not_exists, not_and, ne_eq]

section Agreement

variable {lib : SettingsLib} {environ : Dict String String} {provider : SecretProvider ε}

theorem found_of_own {name own : String} (hown : environ.get? name = some own)
    (hset : needsSecretProvider (some own) = false) :
    found environ provider needsSecretProvider name = some own := by
  unfold found
  rw [hown, hset]
  simp

theorem found_everySecret {name : String} (hname : name ∈ secretEnvNames) :
    found environ provider everySecret name = (offered provider name).or (environ.get? name) := by
  unfold found everySecret
  rw [if_pos ⟨hname, rfl⟩]

/-- Where the environment sets no value of its own, both paths find the same text. -/
theorem found_eq_found {name : String}
    (h : name ∈ secretEnvNames → needsSecretProvider (environ.get? name) = true) :
    found environ provider everySecret name = found environ provider needsSecretProvider name := by
  unfold found everySecret
  by_cases hname : name ∈ secretEnvNames
  · rw [if_pos ⟨hname, rfl⟩, if_pos ⟨hname, h hname⟩]
  · rw [if_neg fun hboth => hname hboth.1, if_neg fun hboth => hname hboth.1]

/-- INTERNAL: the secrets agree exactly when both paths read every field alike. -/
theorem secretsAgree_iff : SecretsAgree lib environ provider ↔ ∀ field ∈ appSettingsFields lib,
    field.value (found environ provider everySecret field.name) =
      field.value (found environ provider needsSecretProvider field.name) := by
  constructor
  · intro h field hfield
    by_cases hneeds : field.name ∈ secretEnvNames →
        needsSecretProvider (environ.get? field.name) = true
    · rw [found_eq_found hneeds]
    · rw [Classical.not_imp, Bool.not_eq_true] at hneeds
      obtain ⟨hname, hset⟩ := hneeds
      cases hown : environ.get? field.name with
      | none => simp [hown, needsSecretProvider] at hset
      | some own =>
          rw [hown] at hset
          rw [found_of_own hown hset, found_everySecret hname, hown]
          cases hoffered : offered provider field.name with
          | none => rfl
          | some other => exact (h field hfield hname own other hown hset hoffered).symm
  · intro h field hfield hname own other hown hset hoffered
    have hvalue := h field hfield
    rw [found_of_own hown hset, found_everySecret hname, hoffered] at hvalue
    exact hvalue.symm

theorem resolvesAlike_iff_of_not_refused
    (hboth : ¬ Refused lib environ provider everySecret ∧
      ¬ Refused lib environ provider needsSecretProvider) :
    ResolvesAlike lib environ provider ↔ SecretsAgree lib environ provider := by
  obtain ⟨hraises, fromProcess, hprocess⟩ := not_refused_iff.mp hboth.1
  obtain ⟨hraises', fromMapping, hmapping⟩ := not_refused_iff.mp hboth.2
  unfold ResolvesAlike
  rw [loadAppSettings_eq_ok_iff.1.mpr ⟨hraises, hprocess⟩,
    loadAppSettings_eq_ok_iff.2.mpr ⟨hraises', hmapping⟩, secretsAgree_iff,
    ← hprocess.eq_iff hmapping]
  constructor
  · exact fun h => h.1
  · rintro rfl
    refine ⟨rfl, fun field hfield _ own hown hset => ?_⟩
    obtain ⟨v, hv⟩ := Option.ne_none_iff_exists'.mp (exists_reads_iff.mp ⟨_, hmapping⟩ field hfield)
    rw [found_of_own hown hset] at hv
    exact ⟨v, hv, hmapping.mem hfield (by rw [found_of_own hown hset, hv])⟩

variable (lib environ provider) in
/-- A call raises exactly when it is refused. -/
theorem exists_loadAppSettings_iff :
    ((∃ settings, loadAppSettings lib environ none (some provider) = .ok settings) ↔
      ¬ Refused lib environ provider everySecret) ∧
    ((∃ settings, loadAppSettings lib environ (some environ) (some provider) = .ok settings) ↔
      ¬ Refused lib environ provider needsSecretProvider) := by
  simp only [loadAppSettings_eq_ok_iff, exists_and_left, not_refused_iff, and_self]

/-- INTERNAL: with agreeing secrets only a provider that raises can refuse one path alone. -/
theorem refused_iff_of_secretsAgree (hraises : ¬ Raises environ provider everySecret)
    (hagree : SecretsAgree lib environ provider) :
    Refused lib environ provider everySecret ↔
      Refused lib environ provider needsSecretProvider := by
  have hneeded : ¬ Raises environ provider needsSecretProvider := by
    rintro ⟨name, hname, -, e, he⟩
    exact hraises ⟨name, hname, rfl, e, he⟩
  have hvalues := secretsAgree_iff.mp hagree
  unfold Refused
  rw [or_iff_right hraises, or_iff_right hneeded]
  constructor
  · rintro ⟨field, hfield, hnone⟩
    exact ⟨field, hfield, hvalues field hfield ▸ hnone⟩
  · rintro ⟨field, hfield, hnone⟩
    exact ⟨field, hfield, hvalues field hfield ▸ hnone⟩

end Agreement

/-- The two paths resolve alike exactly when the provider raises on no secret and has nothing else
for one that the environment sets, or when both are refused. -/
theorem resolvesAlike_iff (lib : SettingsLib) (environ : Dict String String)
    (provider : SecretProvider ε) :
    ResolvesAlike lib environ provider ↔
      (¬ Raises environ provider everySecret ∧ SecretsAgree lib environ provider) ∨
        (Refused lib environ provider everySecret ∧
          Refused lib environ provider needsSecretProvider) := by
  obtain ⟨hprocess, hmapping⟩ := exists_loadAppSettings_iff lib environ provider
  by_cases hboth : Refused lib environ provider everySecret ∨
      Refused lib environ provider needsSecretProvider
  · have hrefused : ResolvesAlike lib environ provider ↔
        (Refused lib environ provider everySecret ∧
          Refused lib environ provider needsSecretProvider) := by
      unfold ResolvesAlike
      cases hleft : loadAppSettings lib environ none (some provider) with
      | ok settings =>
          have hnot := hprocess.mp ⟨settings, hleft⟩
          cases hright : loadAppSettings lib environ (some environ) (some provider) with
          | ok settings' => exact absurd hboth (not_or.mpr ⟨hnot, hmapping.mp ⟨settings', hright⟩⟩)
          | error e => exact iff_of_false not_false fun h => hnot h.1
      | error e =>
          have hyes : Refused lib environ provider everySecret := by
            by_contra hnot
            obtain ⟨settings, hok⟩ := hprocess.mpr hnot
            rw [hleft] at hok
            cases hok
          cases hright : loadAppSettings lib environ (some environ) (some provider) with
          | ok settings =>
              exact iff_of_false not_false fun h => hmapping.mp ⟨settings, hright⟩ h.2
          | error e' =>
              refine iff_of_true trivial ⟨hyes, ?_⟩
              by_contra hnot
              obtain ⟨settings, hok⟩ := hmapping.mpr hnot
              rw [hright] at hok
              cases hok
    rw [hrefused, iff_or_self]
    rintro ⟨hraises, hagree⟩
    have hiff := refused_iff_of_secretsAgree hraises hagree
    exact hboth.elim (fun h => ⟨h, hiff.mp h⟩) fun h => ⟨hiff.mpr h, h⟩
  · rw [not_or] at hboth
    rw [resolvesAlike_iff_of_not_refused hboth, or_iff_left fun h => hboth.1 h.1]
    exact (and_iff_right fun h => hboth.1 (Or.inl h)).symm

/-! ## A signing key that depends on the path -/

theorem toOption_eq_of_resolvesAlike {lib : SettingsLib} {environ : Dict String String}
    {provider : SecretProvider ε} (h : ResolvesAlike lib environ provider) :
    (loadAppSettings lib environ none (some provider)).toOption =
      (loadAppSettings lib environ (some environ) (some provider)).toOption := by
  unfold ResolvesAlike at h
  cases hleft : loadAppSettings lib environ none (some provider) with
  | ok settings =>
      cases hright : loadAppSettings lib environ (some environ) (some provider) with
      | ok settings' => simp_all [Except.toOption]
      | error e => simp [hleft, hright] at h
  | error e =>
      cases hright : loadAppSettings lib environ (some environ) (some provider) with
      | ok settings => simp [hleft, hright] at h
      | error e' => rfl

/-- The parsers on the URLs of `keyedEnviron`. -/
def keyedLib : SettingsLib where
  parseInt _ := none
  parseBool _ := none
  parseFloat _ := none
  urlparse value :=
    if value = "redis://cache" then some ("redis", "cache")
    else if value = "amqp://bus" then some ("amqp", "bus")
    else if value = "http://s3" then some ("http", "s3")
    else none
  makeUrl value :=
    if value = "postgresql+asyncpg://db/nmc" then some "postgresql+asyncpg" else none

/-- An environment with all that is required, and a signing key of its own. -/
def keyedEnviron : Dict String String :=
  Dict.ofList [("DATABASE_URL", "postgresql+asyncpg://db/nmc"), ("REDIS_URL", "redis://cache"),
    ("RABBITMQ_URL", "amqp://bus"), ("CHROMA_HOST", "chroma"), ("S3_ENDPOINT_URL", "http://s3"),
    ("S3_ACCESS_KEY", "access"), ("S3_SECRET_KEY", "secret"), ("S3_BUCKET", "nmc"),
    ("JWT_SECRET", "environment-key"), ("ENCRYPTION_KEY", "encryption")]

/-- A provider of another signing key. -/
def keyProvider : SecretProvider Empty := fun name =>
  .ok (if name = "JWT_SECRET" then some "provider-key" else none)

/-- The signing key of the provider goes before the one of the environment. -/
theorem not_resolvesAlike_keyed : ¬ ResolvesAlike keyedLib keyedEnviron keyProvider := by
  intro h
  have hequal := toOption_eq_of_resolvesAlike h
  revert hequal
  decide +kernel

end MediaCenter.Shared.Config
