import Mathlib.Data.List.GetD
import Mathlib.Algebra.Order.Floor.Ring
import MediaCenter.Library.Sha
import MediaCenter.Model.Shared.Models

/-!
# The standard library, computed

`Stdlib` is a parameter of the model.  This instance computes its functions, for the runs
on given inputs: SHA-256 and HMAC-SHA1 in full, times and decimal numbers as text.
-/

set_option autoImplicit false

namespace MediaCenter.Shared

open MediaCenter.Library

namespace Reference

/-- `text.encode()`. -/
def utf8 (s : String) : List ℕ := s.toUTF8.toList.map UInt8.toNat

def padded (width n : ℕ) : String :=
  let digits := toString n
  String.ofList (List.replicate (width - digits.length) '0') ++ digits

/-- Year, month and day of a number of days since 1970-01-01. -/
def civilDate (days : ℤ) : ℤ × ℤ × ℤ :=
  let z := days + 719468
  let era := z / 146097
  let dayOfEra := z % 146097
  let yearOfEra := (dayOfEra - dayOfEra / 1460 + dayOfEra / 36524 - dayOfEra / 146096) / 365
  let dayOfYear := dayOfEra - (365 * yearOfEra + yearOfEra / 4 - yearOfEra / 100)
  let monthFromMarch := (5 * dayOfYear + 2) / 153
  let day := dayOfYear - (153 * monthFromMarch + 2) / 5 + 1
  let month := if monthFromMarch < 10 then monthFromMarch + 3 else monthFromMarch - 9
  (yearOfEra + era * 400 + if month ≤ 2 then 1 else 0, month, day)

/-- `isoformat()`, with `Z` for the offset; microseconds only if there are any. -/
def isoformat (t : Instant) : String :=
  let (year, month, day) := civilDate (t / 86400000000)
  let micros := (t % 86400000000).toNat
  let seconds := micros / 1000000
  let fraction := micros % 1000000
  padded 4 year.toNat ++ "-" ++ padded 2 month.toNat ++ "-" ++ padded 2 day.toNat ++ "T" ++
    padded 2 (seconds / 3600) ++ ":" ++ padded 2 (seconds / 60 % 60) ++ ":" ++
    padded 2 (seconds % 60) ++
    (if fraction = 0 then "" else "." ++ padded 6 fraction) ++ "Z"

/-- The digits after the point, up to the last one that is not zero. -/
def fractionDigits : ℕ → ℚ → List Char
  | 0, _ => []
  | n + 1, x =>
      if x = 0 then []
      else
        let d := (x * 10).floor
        Char.ofNat (48 + d.toNat) :: fractionDigits n (x * 10 - d)

/-- `repr` of a `float` with at most 17 decimals, between 1e-4 and 1e16 or zero. -/
def reprFloat (x : ℚ) : String :=
  let magnitude := if x < 0 then -x else x
  let whole := magnitude.floor
  let digits := fractionDigits 17 (magnitude - whole)
  (if x < 0 then "-" else "") ++ toString whole ++ "." ++
    (if digits.isEmpty then "0" else String.ofList digits)

theorem isHexChar_hexDigit (n : ℕ) : isHexChar (Sha.hexDigit n) = true := by
  have hall : ∀ c ∈ "0123456789abcdef".toList, isHexChar c = true := by decide
  apply hall
  unfold Sha.hexDigit
  by_cases hn : n < "0123456789abcdef".toList.length
  · rw [List.getD_eq_getElem _ _ hn]
    exact List.getElem_mem hn
  · rw [List.getD_eq_default _ _ (not_lt.mp hn)]
    decide

theorem length_bytesBE (n x : ℕ) : (Sha.bytesBE n x).length = n := by
  induction n generalizing x with
  | zero => rfl
  | succ n ih =>
      rw [Sha.bytesBE, List.length_append, ih]
      rfl

theorem length_sha256 (message : List ℕ) : (Sha.sha256 message).length = 32 := by
  simp only [Sha.sha256, List.flatMap_cons, List.flatMap_nil, List.length_append,
    length_bytesBE, List.length_nil]

theorem auditHashPattern_hexdigest {digest : List ℕ} (h : digest.length = 32) :
    auditHashPattern (Sha.hexdigest digest) = true := by
  have hlength : ∀ l : List ℕ, (l.flatMap fun b =>
      [Sha.hexDigit (b / 16), Sha.hexDigit (b % 16)]).length = 2 * l.length := by
    intro l
    induction l with
    | nil => rfl
    | cons b l ih =>
        rw [List.flatMap_cons, List.length_append, ih, List.length_cons]
        simp only [List.length_cons, List.length_nil]
        omega
  unfold auditHashPattern Sha.hexdigest
  rw [String.toList_ofList, hlength, h, Bool.and_eq_true, List.all_eq_true]
  refine ⟨by decide, ?_⟩
  intro c hc
  rw [List.mem_flatMap] at hc
  obtain ⟨b, _, hc⟩ := hc
  simp only [List.mem_cons, List.not_mem_nil, or_false] at hc
  rcases hc with rfl | rfl
  · exact isHexChar_hexDigit _
  · exact isHexChar_hexDigit _

def stdlib : Stdlib where
  sha256Hex s := Sha.hexdigest (Sha.sha256 (utf8 s))
  sha256Hex_pattern s := auditHashPattern_hexdigest (length_sha256 (utf8 s))
  hmacSha1 := Sha.hmac Sha.sha1
  reprFloat := reprFloat
  fromisoformat _ := none -- the runs below pass their times as `datetime`s
  isoformat := isoformat
  upper s := s.map Char.toUpper
  lower s := String.ofList (s.toList.map Text.lowerLatin1)
  upper_ascii s _ := by rw [← String.toList_inj, String.toList_map, String.toList_ofList]
  lower_latin1 _ _ := rfl

def uuid : Uuid4 where
  text := "5f0c1d7e-8a4b-4c3d-9e2f-1a2b3c4d5e6f"
  length_text := by decide
  chars_text := by decide

theorem epoch_nonneg : (0 : Instant) ≤ 0 := le_refl 0

theorem epoch_le_datetimeMax : (0 : Instant) ≤ datetimeMax := by decide

theorem minute_pos : 0 < 60 := by decide

end Reference

end MediaCenter.Shared
