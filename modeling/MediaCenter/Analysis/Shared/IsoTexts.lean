import MediaCenter.Library.CivilDate
import MediaCenter.Model.Shared.EventWire

/-!
# Reading the texts of `isoformat`

`Stdlib` leaves `fromisoformat` open.  Here it is computed for the extended format, which
`isoformat` writes: every point in time of the years 1 to 9999 is read back.
-/

set_option autoImplicit false

namespace MediaCenter.Shared

open MediaCenter.Library

namespace Reference

/-- The number that the first digits of a text spell, and the rest of the text. -/
def readDigits (width : ℕ) (l : List Char) : Option (ℕ × List Char) :=
  if (l.take width).length = width ∧ (l.take width).all Char.isDigit = true then
    some (Nat.ofDigitChars 10 (l.take width) 0, l.drop width)
  else none

def readMark (mark : Char) : List Char → Option (List Char)
  | c :: l => if c = mark then some l else none
  | [] => none

/-- The fraction of a second, which may be left out. -/
def readFraction (l : List Char) : Option (ℕ × List Char) :=
  match readMark '.' l with
  | some l => readDigits 6 l
  | none => some (0, l)

/-- `+HH:MM` or `-HH:MM`, in microseconds. -/
def readOffset (l : List Char) : Option ℤ := do
  let (sign, l) ← match l with
    | '+' :: l => some ((1 : ℤ), l)
    | '-' :: l => some (-1, l)
    | _ => none
  let (hours, l) ← readDigits 2 l
  let l ← readMark ':' l
  let (minutes, l) ← readDigits 2 l
  if l = [] then some (sign * (((hours * 60 + minutes) * 60000000 : ℕ) : ℤ)) else none

/-- The date, and the time of the day in seconds. -/
def readWall (l : List Char) : Option (ℤ × ℕ × List Char) := do
  let (year, l) ← readDigits 4 l
  let l ← readMark '-' l
  let (month, l) ← readDigits 2 l
  let l ← readMark '-' l
  let (day, l) ← readDigits 2 l
  let l ← readMark 'T' l
  let (hours, l) ← readDigits 2 l
  let l ← readMark ':' l
  let (minutes, l) ← readDigits 2 l
  let l ← readMark ':' l
  let (seconds, l) ← readDigits 2 l
  return (CivilDate.toDays year month day, (hours * 60 + minutes) * 60 + seconds, l)

/-- `datetime.fromisoformat` of `YYYY-MM-DDTHH:MM:SS[.ffffff]+HH:MM`. -/
def fromisoformat (s : String) : Option PyDatetime := do
  let (days, seconds, l) ← readWall s.toList
  let (fraction, l) ← readFraction l
  let offset ← readOffset l
  return ⟨days * 86400000000 + ((seconds * 1000000 + fraction : ℕ) : ℤ), some offset⟩

/-- The computed standard library, with times read from texts. -/
def wireStdlib : Stdlib := { stdlib with fromisoformat := fromisoformat }

/-! ## Reading back -/

section Reading

variable {width n : ℕ}

theorem readDigits_padded (hwidth : 0 < width) (hn : n < 10 ^ width) (rest : List Char) :
    readDigits width ((padded width n).toList ++ rest) = some (n, rest) := by
  have hdigits : (toString n).toList = Nat.toDigits 10 n := Nat.toList_repr
  have hlength : (Nat.toDigits 10 n).length ≤ width :=
    (Nat.length_toDigits_le_iff (by omega) hwidth).mpr hn
  have htext : (padded width n).toList =
      List.replicate (width - (Nat.toDigits 10 n).length) '0' ++ Nat.toDigits 10 n := by
    unfold padded
    simp only [String.toList_append, String.toList_ofList, hdigits]
    rw [← String.length_toList, hdigits]
  have hwidth' : (padded width n).toList.length = width := by
    rw [htext, List.length_append, List.length_replicate]
    omega
  have hall : (padded width n).toList.all Char.isDigit = true := by
    rw [List.all_eq_true, htext]
    intro c hc
    rw [List.mem_append, List.mem_replicate] at hc
    rcases hc with ⟨_, rfl⟩ | hc
    · decide
    · exact Nat.isDigit_of_mem_toDigits (by omega) (by omega) hc
  have hvalue : Nat.ofDigitChars 10 (padded width n).toList 0 = n := by
    rw [htext, Nat.ofDigitChars_append, Nat.ofDigitChars_replicate_zero, Nat.mul_zero,
      Nat.ofDigitChars_ten_toDigits]
  unfold readDigits
  rw [List.take_left' hwidth', List.drop_left' hwidth', hvalue, if_pos ⟨hwidth', hall⟩]

theorem readMark_cons (mark : Char) (rest : List Char) :
    readMark mark (mark :: rest) = some rest := by
  rw [readMark, if_pos rfl]

/-- The date and the time of the day, as `isoformat` writes them in front of `rest`. -/
def wallText (year month day hours minutes seconds : ℕ) (rest : List Char) : List Char :=
  (padded 4 year).toList ++ '-' :: ((padded 2 month).toList ++ '-' :: ((padded 2 day).toList ++
    'T' :: ((padded 2 hours).toList ++ ':' :: ((padded 2 minutes).toList ++
      ':' :: ((padded 2 seconds).toList ++ rest)))))

theorem readWall_wallText {year month day hours minutes seconds : ℕ} (hyear : year < 10000)
    (hmonth : month < 100) (hday : day < 100) (hhours : hours < 100) (hminutes : minutes < 100)
    (hseconds : seconds < 100) (rest : List Char) :
    readWall (wallText year month day hours minutes seconds rest) =
      some (CivilDate.toDays year month day, (hours * 60 + minutes) * 60 + seconds, rest) := by
  have htwo : ∀ {n : ℕ}, n < 100 → ∀ rest, readDigits 2 ((padded 2 n).toList ++ rest) =
      some (n, rest) := fun hn rest => readDigits_padded (by decide) hn rest
  unfold readWall wallText
  simp only [readDigits_padded (by decide : 0 < 4) hyear, htwo hmonth, htwo hday, htwo hhours,
    htwo hminutes, htwo hseconds, readMark_cons, bind, Option.bind]
  rfl

/-- The fraction, left out if it is zero. -/
def fractionText (fraction : ℕ) (rest : List Char) : List Char :=
  if fraction = 0 then rest else '.' :: ((padded 6 fraction).toList ++ rest)

theorem readFraction_fractionText {fraction : ℕ} (h : fraction < 1000000) (rest : List Char) :
    readFraction (fractionText fraction ('+' :: rest)) = some (fraction, '+' :: rest) := by
  unfold fractionText
  by_cases hzero : fraction = 0
  · rw [if_pos hzero, hzero]
    rfl
  · rw [if_neg hzero]
    unfold readFraction
    rw [readMark_cons]
    exact readDigits_padded (by decide) h _

theorem readOffset_utc : readOffset "+00:00".toList = some 0 := by
  decide

theorem civilDate_eq_ofDays (days : ℤ) : civilDate days = CivilDate.ofDays days := rfl

theorem toList_isoformatUtc (t : Instant) : (isoformatUtc t).toList =
    wallText (CivilDate.ofDays (t / 86400000000)).1.toNat
      (CivilDate.ofDays (t / 86400000000)).2.1.toNat (CivilDate.ofDays (t / 86400000000)).2.2.toNat
      ((t % 86400000000).toNat / 1000000 / 3600) ((t % 86400000000).toNat / 1000000 / 60 % 60)
      ((t % 86400000000).toNat / 1000000 % 60)
      (fractionText ((t % 86400000000).toNat % 1000000) "+00:00".toList) := by
  have hdash : "-".toList = ['-'] := by decide
  have htime : "T".toList = ['T'] := by decide
  have hcolon : ":".toList = [':'] := by decide
  have hpoint : ".".toList = ['.'] := by decide
  have hfraction : ∀ n : ℕ, (if n = 0 then "" else "." ++ padded 6 n).toList ++ "+00:00".toList =
      fractionText n "+00:00".toList := by
    intro n
    unfold fractionText
    by_cases hn : n = 0
    · rw [if_pos hn, if_pos hn]
      rfl
    · rw [if_neg hn, if_neg hn, String.toList_append, hpoint, List.append_assoc,
        List.cons_append, List.nil_append]
  unfold isoformatUtc isoformatNaive
  rw [civilDate_eq_ofDays]
  generalize CivilDate.ofDays (t / 86400000000) = date
  obtain ⟨year, month, day⟩ := date
  simp only
  rw [String.toList_append, String.toList_append, List.append_assoc, hfraction]
  simp only [String.toList_append, hdash, htime, hcolon, wallText, List.append_assoc,
    List.cons_append, List.nil_append]

theorem fromisoformat_isoformatUtc (t : ℤ) (hmin : -62135596800 * 1000000 ≤ t)
    (hmax : t ≤ 253402300800 * 1000000 - 1) :
    fromisoformat (isoformatUtc t) = some ⟨t, some 0⟩ := by
  have hdays : CivilDate.toDays (CivilDate.ofDays (t / 86400000000)).1
      (CivilDate.ofDays (t / 86400000000)).2.1 (CivilDate.ofDays (t / 86400000000)).2.2 =
        t / 86400000000 := CivilDate.toDays_ofDays _
  have hlo : (-719162 : ℤ) ≤ t / 86400000000 := by omega
  have hhi : t / 86400000000 ≤ (2932896 : ℤ) := by omega
  have hyear := CivilDate.year_bounds hlo hhi
  have hmonth := CivilDate.month_bounds (t / 86400000000)
  have hday := CivilDate.day_bounds (t / 86400000000)
  unfold fromisoformat
  rw [toList_isoformatUtc, readWall_wallText (by omega) (by omega) (by omega) (by omega) (by omega)
    (by omega)]
  have hutc : "+00:00".toList = '+' :: "00:00".toList := by decide
  have hfraction : readFraction (fractionText ((t % 86400000000).toNat % 1000000)
      "+00:00".toList) = some ((t % 86400000000).toNat % 1000000, "+00:00".toList) := by
    rw [hutc]
    exact readFraction_fractionText (by omega) _
  simp only [bind, Option.bind, hfraction, readOffset_utc, pure]
  rw [Int.toNat_of_nonneg (by omega), Int.toNat_of_nonneg (by omega),
    Int.toNat_of_nonneg (by omega), hdays]
  congr 2
  omega

theorem readsIsoformat_wireStdlib : wireStdlib.ReadsIsoformat :=
  fun t hmin hmax => fromisoformat_isoformatUtc t hmin hmax

end Reading

end Reference

end MediaCenter.Shared
