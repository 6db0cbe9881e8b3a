import MediaCenter.Library.Text
import Mathlib.Data.Rat.Defs
import Mathlib.Data.List.Sort
import Mathlib.Data.String.Basic

/-!
# Shared contracts (`libs/shared/models.py`)

JSON values, the string patterns every service validates against, the exceptions the
shared library raises, and points in time.  Standard-library functions whose result no
property here depends on are fields of `Stdlib`; the theorems hold for any of them.
-/

set_option autoImplicit false

namespace MediaCenter.Shared

open MediaCenter.Library

/-! ## JSON -/

inductive JSONValue : Type where
  | null
  | bool (b : Bool)
  | int (n : ℤ)
  | float (x : ℚ)
  | str (s : String)
  | list (items : List JSONValue)
  | dict (items : List (String × JSONValue))

/-- A JSON object: its keys with their values, in order. -/
abbrev JSONObject : Type := List (String × JSONValue)

namespace JSONValue

/-- `value if value is not None else None`, for text. -/
def optionalStr : Option String → JSONValue
  | some s => .str s
  | none => .null

end JSONValue

/-! ## Exceptions of the shared library -/

inductive SharedException : Type where
  | valueError (message : String)
  /-- A pydantic `ValidationError`: the model and the fields that failed. -/
  | validationError (model : String) (fields : List String)
  | overflowError (message : String)
  | typeError (message : String)
  | tenantIsolation (message : String) (correlationId : Option String)
  | unauthorized (message : String) (correlationId : Option String)
  | forbidden (action resourceType : String) (requiredRoles : List String)
      (correlationId : Option String)
  | sharedError (statusCode : ℕ) (errorCode message : String)
      (correlationId : Option String)
  deriving DecidableEq, Repr

/-! ## Validated models

A pydantic model checks every field and is refused with the list of those that fail. -/

/-- An instance of a model: its fields, with the evidence that each passes its check. -/
structure Validated {α : Type} (checks : α → List (String × Bool)) where
  fields : α
  valid : ∀ c ∈ checks fields, c.2 = true

namespace Validated

variable {α : Type} {checks : α → List (String × Bool)}

@[irreducible] def make (model : String) (checks : α → List (String × Bool)) (fields : α) :
    Except SharedException (Validated checks) :=
  if h : ∀ c ∈ checks fields, c.2 = true then .ok ⟨fields, h⟩
  else .error (.validationError model (((checks fields).filter fun c => !c.2).map Prod.fst))

theorem make_of_valid (model : String) (fields : α)
    (h : ∀ c ∈ checks fields, c.2 = true) :
    make model checks fields = .ok ⟨fields, h⟩ := by
  unfold make
  rw [dif_pos h]

/-- INTERNAL: the constructor keeps the fields it accepts, and accepts the valid ones. -/
theorem make_eq_ok_iff (model : String) (fields : α) (m : Validated checks) :
    make model checks fields = .ok m ↔ m.fields = fields := by
  unfold make
  constructor
  · intro h
    split at h
    · cases h
      rfl
    · cases h
  · intro h
    subst h
    rw [dif_pos m.valid]

theorem exists_make_eq_ok_iff (model : String) (fields : α) :
    (∃ m, make model checks fields = .ok m) ↔ ∀ c ∈ checks fields, c.2 = true := by
  constructor
  · rintro ⟨m, hm⟩
    rw [make_eq_ok_iff] at hm
    rw [← hm]
    exact m.valid
  · intro h
    exact ⟨_, make_of_valid model fields h⟩

end Validated

/-! ## Patterns

Each is tested on the whole string.  `SharedBaseModel` strips the surrounding white space
of a string before it tests the pattern (`str_strip_whitespace`). -/

/-- `^[A-Za-z0-9][A-Za-z0-9._:-]{0,63}$` (`TENANT_ID_PATTERN_TEXT`). -/
def tenantIdPattern (s : String) : Bool :=
  Text.matchesHeadTail Text.isAsciiAlnum
    (fun c => Text.isAsciiAlnum c || c == '.' || c == '_' || c == ':' || c == '-') 63 s

/-- `TOKEN_PATTERN_TEXT`, as the tenant pattern with a slash allowed and 128 characters: that of
`CorrelationId`, `SubjectId`, `RoleName` and `IdempotencyKey`. -/
def tokenPattern (s : String) : Bool :=
  Text.matchesHeadTail Text.isAsciiAlnum
    (fun c => Text.isAsciiAlnum c || c == '.' || c == '_' || c == ':' || c == '/' ||
      c == '-') 127 s

theorem visible_of_tokenPattern {s : String} (h : tokenPattern s = true) :
    ∀ c ∈ s.toList, Text.Visible c := by
  intro c hc
  rcases Text.forall_of_matchesHeadTail h c hc with hhead | htail
  · exact Text.visible_of_isAsciiAlnum hhead
  · simp only [Bool.or_eq_true, beq_iff_eq] at htail
    rcases htail with ((((halnum | rfl) | rfl) | rfl) | rfl) | rfl
    · exact Text.visible_of_isAsciiAlnum halnum
    all_goals exact ⟨by decide, by decide⟩

/-- INTERNAL: a token is not changed by the white space stripping that precedes its
check. -/
theorem trim_of_tokenPattern {s : String} (h : tokenPattern s = true) : Text.trim s = s :=
  Text.trim_of_forall_visible (visible_of_tokenPattern h)

/-- INTERNAL: a tenant id is a token. -/
theorem tokenPattern_of_tenantIdPattern {s : String} (h : tenantIdPattern s = true) :
    tokenPattern s = true := by
  unfold tenantIdPattern at h
  unfold tokenPattern
  unfold Text.matchesHeadTail at h ⊢
  cases hl : s.toList with
  | nil => simp [hl] at h
  | cons x xs =>
      simp only [hl, Bool.and_eq_true, List.all_eq_true, decide_eq_true_eq] at h ⊢
      refine ⟨⟨h.1.1, ?_⟩, by omega⟩
      intro c hc
      have hclass := h.1.2 c hc
      simp only [Bool.or_eq_true] at hclass ⊢
      tauto

/-- `[a-z][a-z0-9_]*`. -/
def wordPattern (l : List Char) : Bool :=
  match l with
  | [] => false
  | c :: cs => Text.isAsciiLower c &&
      cs.all fun c => Text.isAsciiLower c || Text.isAsciiDigit c || c == '_'

/-- Cut a list at every separator. -/
def splitAtEvery (sep : Char) : List Char → List (List Char)
  | [] => [[]]
  | c :: cs =>
      if c = sep then [] :: splitAtEvery sep cs
      else match splitAtEvery sep cs with
        | [] => [[c]]
        | w :: ws => (c :: w) :: ws

/-- INTERNAL: the first piece ends at the first separator. -/
theorem splitAtEvery_append_cons {sep : Char} {t : List Char} (h : sep ∉ t) (l : List Char) :
    splitAtEvery sep (t ++ sep :: l) = t :: splitAtEvery sep l := by
  induction t with
  | nil => rw [List.nil_append, splitAtEvery, if_pos rfl]
  | cons c t ih =>
      rw [List.mem_cons, not_or] at h
      rw [List.cons_append, splitAtEvery, if_neg (Ne.symm h.1), ih h.2]

theorem exists_mem_splitAtEvery {sep c : Char} {l : List Char} (hc : c ∈ l) (hne : c ≠ sep) :
    ∃ w ∈ splitAtEvery sep l, c ∈ w := by
  induction l with
  | nil => cases hc
  | cons d l ih =>
      rw [splitAtEvery]
      by_cases hd : d = sep
      · rw [if_pos hd]
        have hl : c ∈ l := (List.mem_cons.mp hc).resolve_left fun h => hne (h.trans hd)
        obtain ⟨w, hw, hcw⟩ := ih hl
        exact ⟨w, List.mem_cons_of_mem _ hw, hcw⟩
      · rw [if_neg hd]
        cases hsplit : splitAtEvery sep l with
        | nil =>
            rw [List.mem_cons] at hc
            rcases hc with rfl | hc
            · exact ⟨[c], List.mem_cons_self, List.mem_cons_self⟩
            · obtain ⟨w, hw, _⟩ := ih hc
              rw [hsplit] at hw
              cases hw
        | cons v vs =>
            rw [List.mem_cons] at hc
            rcases hc with rfl | hc
            · exact ⟨c :: v, List.mem_cons_self, List.mem_cons_self⟩
            · obtain ⟨w, hw, hcw⟩ := ih hc
              rw [hsplit, List.mem_cons] at hw
              rcases hw with rfl | hw
              · exact ⟨d :: w, List.mem_cons_self, List.mem_cons_of_mem _ hcw⟩
              · exact ⟨w, List.mem_cons_of_mem _ hw, hcw⟩

/-- `^[a-z][a-z0-9_]*(\.[a-z][a-z0-9_]*)+$` (`EVENT_TYPE_PATTERN_TEXT`). -/
def eventTypePattern (s : String) : Bool :=
  let words := splitAtEvery '.' s.toList
  decide (2 ≤ words.length) && words.all wordPattern

theorem visible_of_wordPattern {l : List Char} (h : wordPattern l = true) :
    ∀ c ∈ l, Text.Visible c := by
  have hlower : ∀ c : Char, Text.isAsciiLower c = true → Text.Visible c := by
    intro c hc
    apply Text.visible_of_isAsciiAlnum
    simp [Text.isAsciiAlnum, hc]
  cases l with
  | nil => intro c hc; cases hc
  | cons d l =>
      rw [wordPattern, Bool.and_eq_true, List.all_eq_true] at h
      intro c hc
      rw [List.mem_cons] at hc
      rcases hc with rfl | hc
      · exact hlower c h.1
      · have hclass := h.2 c hc
        simp only [Bool.or_eq_true, beq_iff_eq] at hclass
        rcases hclass with (hletter | hdigit) | rfl
        · exact hlower c hletter
        · apply Text.visible_of_isAsciiAlnum
          simp [Text.isAsciiAlnum, hdigit]
        · exact ⟨by decide, by decide⟩

theorem visible_of_eventTypePattern {s : String} (h : eventTypePattern s = true) :
    ∀ c ∈ s.toList, Text.Visible c := by
  unfold eventTypePattern at h
  simp only [Bool.and_eq_true, List.all_eq_true] at h
  intro c hc
  by_cases hdot : c = '.'
  · rw [hdot]
    exact ⟨by decide, by decide⟩
  · obtain ⟨w, hw, hcw⟩ := exists_mem_splitAtEvery hc hdot
    exact visible_of_wordPattern (h.2 w hw) c hcw

/-- `EventType`: the pattern, 3 to 128 characters. -/
def isEventType (s : String) : Bool :=
  decide (3 ≤ s.toList.length) && decide (s.toList.length ≤ 128) && eventTypePattern s

def isHexChar (c : Char) : Bool := Text.isAsciiDigit c || ('a' ≤ c && c ≤ 'f')

/-- `^[0-9a-f]{64}$` (`AUDIT_HASH_PATTERN_TEXT`). -/
def auditHashPattern (s : String) : Bool :=
  decide (s.toList.length = 64) && s.toList.all isHexChar

/-- `^sha256:[0-9a-f]{64}$` (`_REF_HASH_PATTERN`). -/
def refHashPattern (s : String) : Bool :=
  s.toList.take 7 == "sha256:".toList &&
    decide ((s.toList.drop 7).length = 64) && (s.toList.drop 7).all isHexChar

theorem visible_of_isHexChar {c : Char} (h : isHexChar c = true) : Text.Visible c := by
  apply Text.visible_of_isAsciiAlnum
  simp only [isHexChar, Text.isAsciiAlnum, Text.isAsciiLower, Bool.or_eq_true,
    Bool.and_eq_true, decide_eq_true_eq] at h ⊢
  rcases h with hdigit | ⟨ha, hf⟩
  · exact .inr hdigit
  · exact .inl (.inr ⟨ha, le_trans hf (by decide)⟩)

theorem trim_of_auditHashPattern {s : String} (h : auditHashPattern s = true) :
    Text.trim s = s := by
  unfold auditHashPattern at h
  rw [Bool.and_eq_true, List.all_eq_true] at h
  exact Text.trim_of_forall_visible fun c hc => visible_of_isHexChar (h.2 c hc)

theorem trim_of_isEventType {s : String} (h : isEventType s = true) : Text.trim s = s := by
  unfold isEventType at h
  simp only [Bool.and_eq_true] at h
  exact Text.trim_of_forall_visible (visible_of_eventTypePattern h.2)

theorem trim_of_refHashPattern {s : String} (h : refHashPattern s = true) :
    Text.trim s = s := by
  unfold refHashPattern at h
  simp only [Bool.and_eq_true, beq_iff_eq, List.all_eq_true] at h
  obtain ⟨⟨htake, _⟩, hhex⟩ := h
  apply Text.trim_of_forall_visible
  intro c hc
  rw [← List.take_append_drop 7 s.toList, List.mem_append, htake] at hc
  rcases hc with hc | hc
  · have hvisible : ∀ c ∈ "sha256:".toList, 33 ≤ c.toNat ∧ c.toNat ≤ 126 := by decide
    exact hvisible c hc
  · exact visible_of_isHexChar (hhex c hc)

/-- `^\d{4}-(0[1-9]|1[0-2])$` (`_PERIOD_PATTERN`), where `\d` is any decimal digit. -/
def periodPattern (s : String) : Bool :=
  match s.toList with
  | [y1, y2, y3, y4, dash, m1, m2] =>
      [y1, y2, y3, y4].all Text.isDecimal && dash == '-' &&
        ((m1 == '0' && '1' ≤ m2 && m2 ≤ '9') || (m1 == '1' && '0' ≤ m2 && m2 ≤ '2'))
  | _ => false

/-- `^[a-z][a-z0-9_]{0,63}$` (`_REASON_CODE_PATTERN`). -/
def reasonCodePattern (s : String) : Bool :=
  Text.matchesHeadTail Text.isAsciiLower
    (fun c => Text.isAsciiLower c || Text.isAsciiDigit c || c == '_') 63 s

/-- `min_length` to `max_length` characters. -/
def hasLength (lo hi : ℕ) (s : String) : Bool :=
  decide (lo ≤ s.toList.length) && decide (s.toList.length ≤ hi)

/-- An optional field: absent, or present and valid. -/
def optionalField (p : String → Bool) : Option String → Bool
  | none => true
  | some s => p s

theorem map_trim_of_optionalField {value : Option String}
    (h : optionalField tokenPattern value = true) : value.map Text.trim = value := by
  cases value with
  | none => rfl
  | some s => rw [Option.map_some, trim_of_tokenPattern h]

/-! ## Time -/

/-- A point in time: microseconds since 1970-01-01T00:00Z. -/
abbrev Instant : Type := ℤ

/-- A `datetime`: the wall clock in microseconds since 1970-01-01T00:00, and the offset
from UTC in microseconds unless the value is naive. -/
structure PyDatetime where
  wall : ℤ
  utcoffset : Option ℤ
  deriving DecidableEq, Repr

/-- `datetime.min` and `datetime.max`: the years 1 to 9999. -/
def datetimeMin : Instant := -62135596800 * 1000000

def datetimeMax : Instant := 253402300800 * 1000000 - 1

def hoursToMicros (h : ℤ) : ℤ := h * 3600 * 1000000

/-- A result of date arithmetic, unless it leaves the years 1 to 9999. -/
def checkedInstant (t : Instant) : Except SharedException Instant :=
  if datetimeMin ≤ t ∧ t ≤ datetimeMax then .ok t
  else .error (.overflowError "date value out of range")

/-- A `now` argument (`datetime | str | None`). -/
inductive TimeArg : Type where
  | omitted
  | datetime (d : PyDatetime)
  | text (s : String)
  deriving DecidableEq, Repr

/-- Functions of Python's standard library. -/
structure Stdlib where
  /-- `hashlib.sha256(text.encode()).hexdigest()`. -/
  sha256Hex : String → String
  sha256Hex_pattern : ∀ s, auditHashPattern (sha256Hex s) = true
  /-- `hmac.new(key, message, hashlib.sha1).digest()`, on bytes. -/
  hmacSha1 : List ℕ → List ℕ → List ℕ
  /-- `repr` of a finite `float`. -/
  reprFloat : ℚ → String
  /-- `datetime.fromisoformat`, `none` where it raises `ValueError`. -/
  fromisoformat : String → Option PyDatetime
  /-- `datetime.isoformat` of a value in UTC. -/
  isoformat : Instant → String
  /-- `str.upper` and `str.lower`. -/
  upper : String → String
  lower : String → String
  upper_ascii : ∀ s, (∀ c ∈ s.toList, c.toNat < 128) →
    upper s = String.ofList (s.toList.map Char.toUpper)
  lower_latin1 : ∀ s, (∀ c ∈ s.toList, c.toNat < 256) →
    lower s = String.ofList (s.toList.map Text.lowerLatin1)

theorem refHashPattern_sha256 (py : Stdlib) (s : String) :
    refHashPattern ("sha256:" ++ py.sha256Hex s) = true := by
  have hhex := py.sha256Hex_pattern s
  unfold auditHashPattern at hhex
  rw [Bool.and_eq_true] at hhex
  unfold refHashPattern
  have htake : ("sha256:" ++ py.sha256Hex s).toList.take 7 = "sha256:".toList := by
    rw [String.toList_append]
    exact List.take_left' (by decide)
  have hdrop : ("sha256:" ++ py.sha256Hex s).toList.drop 7 = (py.sha256Hex s).toList := by
    rw [String.toList_append]
    exact List.drop_left' (by decide)
  rw [htake, hdrop, hhex.1, hhex.2]
  decide

/-- `datetime.isoformat().replace("+00:00", "Z")` on values in UTC. -/
def formatDatetime (py : Stdlib) (t : Instant) : String := py.isoformat t

/-- `_normalize_datetime` of a `datetime`: naive values are read as UTC. -/
def normalizeDatetime (d : PyDatetime) : Except SharedException Instant :=
  checkedInstant (d.wall - d.utcoffset.getD 0)

/-- `value.replace("Z", "+00:00")`. -/
def replaceZulu (s : String) : String :=
  String.ofList (s.toList.flatMap fun c => if c = 'Z' then "+00:00".toList else [c])

/-- `_normalize_datetime(value or datetime.now(UTC))`; an empty text counts as omitted. -/
def resolveTime (py : Stdlib) (now : Instant) : TimeArg → Except SharedException Instant
  | .omitted => .ok now
  | .datetime d => normalizeDatetime d
  | .text s =>
      if s = "" then .ok now
      else match py.fromisoformat (replaceZulu s) with
        | some d => normalizeDatetime d
        | none => .error (.valueError "Invalid isoformat string")

/-! ## Fresh identifiers -/

/-- The text of a `uuid4()`: 36 characters, hexadecimal digits and hyphens. -/
structure Uuid4 where
  text : String
  length_text : text.toList.length = 36
  chars_text : (text.toList.all fun c => isHexChar c || c == '-') = true

/-- `f"{stem}-{uuid4()}"` (`_new_id`). -/
def newId (stem : String) (u : Uuid4) : String := stem ++ "-" ++ u.text

/-- INTERNAL: a fresh id is a token. -/
theorem tokenPattern_newId {stem : String} (h : tokenPattern stem = true)
    (hlength : stem.toList.length ≤ 91) (u : Uuid4) : tokenPattern (newId stem u) = true := by
  have hchars : ∀ c ∈ u.text.toList, (Text.isAsciiAlnum c || c == '.' || c == '_' || c == ':' ||
      c == '/' || c == '-') = true := by
    intro c hc
    have hclass := List.all_eq_true.mp u.chars_text c hc
    simp only [isHexChar, Text.isAsciiAlnum, Text.isAsciiLower, Bool.or_eq_true,
      Bool.and_eq_true, decide_eq_true_eq] at hclass ⊢
    rcases hclass with (hdigit | ⟨ha, hf⟩) | hdash
    · exact .inl (.inl (.inl (.inl (.inl (.inr hdigit)))))
    · exact .inl (.inl (.inl (.inl (.inl (.inl (.inr ⟨ha, le_trans hf (by decide)⟩))))))
    · exact .inr hdash
  have hlist : (newId stem u).toList = stem.toList ++ '-' :: u.text.toList := by
    unfold newId
    rw [String.toList_append, String.toList_append, List.append_assoc]
    rfl
  unfold tokenPattern Text.matchesHeadTail at h ⊢
  rw [hlist]
  cases hstem : stem.toList with
  | nil => simp [hstem] at h
  | cons x xs =>
      rw [hstem] at hlength
      simp only [hstem, List.cons_append, Bool.and_eq_true, List.all_eq_true,
        decide_eq_true_eq] at h ⊢
      refine ⟨⟨h.1.1, fun c hc => ?_⟩, ?_⟩
      · rw [List.mem_append, List.mem_cons] at hc
        rcases hc with hc | rfl | hc
        · exact h.1.2 c hc
        · decide
        · exact hchars c hc
      · rw [List.length_append, List.length_cons, u.length_text]
        rw [List.length_cons] at hlength
        omega

/-- What a call reads from outside: the server clock, a `datetime` after the epoch, and a
fresh UUID for each place in the code that makes one. -/
structure Ambient where
  now : Instant
  now_nonneg : 0 ≤ now
  now_le_max : now ≤ datetimeMax
  uuid : ℕ → Uuid4

/-- `value or default`, where an empty string counts as absent. -/
def orDefault (value : Option String) (fallback : String) : String :=
  match value with
  | some s => if s = "" then fallback else s
  | none => fallback

end MediaCenter.Shared
