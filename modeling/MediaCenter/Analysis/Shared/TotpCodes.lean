import MediaCenter.Model.Shared.Auth

/-!
# The code of an instant

A TOTP code is made of as many ASCII digits as the service asks for, and the code that is made
for an instant is accepted at that instant: the steps before it that the drift loop tries cannot
raise, because they decode the same secret.
-/

set_option autoImplicit false

namespace MediaCenter.Shared

open MediaCenter.Library

theorem hotp_eq_ok_iff {py : Stdlib} {secret : String} {counter : ℤ} {digits : ℕ}
    {code : String} :
    hotp py secret counter digits = .ok code ↔
      ∃ key message, decodeTotpSecret py secret = .ok key ∧ counterBytes counter = .ok message ∧
        code = zfill digits (dynamicTruncation (py.hmacSha1 key message) % 10 ^ digits) := by
  unfold hotp
  simp only [bind_eq_ok_iff]
  constructor
  · rintro ⟨key, hkey, message, hmessage, hcode⟩
    cases hcode
    exact ⟨key, message, hkey, hmessage, rfl⟩
  · rintro ⟨key, message, hkey, hmessage, rfl⟩
    exact ⟨key, hkey, message, hmessage, rfl⟩

theorem exists_counterBytes {counter : ℤ} (hnonneg : 0 ≤ counter) (h : counter < 2 ^ 64) :
    ∃ message, counterBytes counter = .ok message := by
  unfold counterBytes
  rw [if_neg (not_lt.mpr hnonneg), if_pos h]
  exact ⟨_, rfl⟩

/-- INTERNAL: a secret that can be decoded has a code for each step. -/
theorem exists_hotp {py : Stdlib} {secret : String} {key : List ℕ}
    (hkey : decodeTotpSecret py secret = .ok key) {counter : ℤ} (hnonneg : 0 ≤ counter)
    (hcounter : counter < 2 ^ 64) (digits : ℕ) : ∃ code, hotp py secret counter digits = .ok code := by
  obtain ⟨message, hmessage⟩ := exists_counterBytes hnonneg hcounter
  exact ⟨_, hotp_eq_ok_iff.mpr ⟨key, message, hkey, hmessage, rfl⟩⟩

/-! ## The digits -/

theorem length_zfill {width n : ℕ} (hwidth : 0 < width) (h : n < 10 ^ width) :
    (zfill width n).toList.length = width := by
  have hlength : (Nat.toDigits 10 n).length ≤ width :=
    (Nat.length_toDigits_le_iff (by decide) hwidth).mpr h
  unfold zfill
  rw [String.toList_ofList, List.length_append, List.length_replicate]
  omega

theorem isDigit_of_mem_zfill {width n : ℕ} {c : Char} (h : c ∈ (zfill width n).toList) :
    c.isDigit = true := by
  unfold zfill at h
  rw [String.toList_ofList, List.mem_append] at h
  rcases h with hzero | hdigit
  · rw [List.eq_of_mem_replicate hzero]
    decide
  · exact Nat.isDigit_of_mem_toDigits (by decide) (by decide) hdigit

theorem toNat_of_isDigit {c : Char} (h : c.isDigit = true) : 48 ≤ c.toNat ∧ c.toNat ≤ 57 := by
  unfold Char.isDigit at h
  rw [Bool.and_eq_true, decide_eq_true_eq, decide_eq_true_eq] at h
  exact ⟨h.1, h.2⟩

theorem textIsDigit_of_isDigit {c : Char} (h : c.isDigit = true) : Text.isDigit c = true := by
  obtain ⟨hlo, hhi⟩ := toNat_of_isDigit h
  unfold Text.isDigit
  rw [List.any_eq_true]
  refine ⟨(48, 57), by decide, ?_⟩
  simp only [Bool.and_eq_true, decide_eq_true_eq]
  exact ⟨hlo, hhi⟩

theorem isDecimal_of_isDigit {c : Char} (h : c.isDigit = true) : Text.isDecimal c = true := by
  obtain ⟨hlo, hhi⟩ := toNat_of_isDigit h
  unfold Text.isDecimal
  rw [List.any_eq_true]
  refine ⟨48, by decide, ?_⟩
  simp only [Bool.and_eq_true, decide_eq_true_eq]
  exact ⟨hlo, hhi⟩

/-- A text of ASCII digits, as long as the codes of the service. -/
def IsCode (digits : ℕ) (code : String) : Prop :=
  code.toList.length = digits ∧ ∀ c ∈ code.toList, c.isDigit = true

theorem isCode_of_hotp {py : Stdlib} {secret : String} {counter : ℤ} {digits : ℕ}
    {code : String} (hdigits : 0 < digits) (h : hotp py secret counter digits = .ok code) :
    IsCode digits code := by
  obtain ⟨key, message, _, _, rfl⟩ := hotp_eq_ok_iff.mp h
  refine ⟨length_zfill hdigits (Nat.mod_lt _ (Nat.pow_pos (by decide))), ?_⟩
  intro c hc
  exact isDigit_of_mem_zfill hc

/-- INTERNAL: codes have no white space to strip or to remove. -/
theorem normalizeCode_of_isCode {digits : ℕ} {code : String} (h : IsCode digits code) :
    TOTPService.normalizeCode code = code := by
  have hvisible : ∀ c ∈ code.toList, Text.Visible c := by
    intro c hc
    obtain ⟨hlo, hhi⟩ := toNat_of_isDigit (h.2 c hc)
    exact ⟨by omega, by omega⟩
  unfold TOTPService.normalizeCode
  rw [Text.strip_of_forall_visible hvisible, List.filter_eq_self.mpr, String.ofList_toList]
  intro c hc
  obtain ⟨hlo, _⟩ := toNat_of_isDigit (h.2 c hc)
  rw [decide_eq_true_eq]
  rintro rfl
  exact absurd hlo (by decide)

theorem compareDigest_of_isCode {digits digits' : ℕ} {a b : String} (ha : IsCode digits a)
    (hb : IsCode digits' b) : compareDigest a b = .ok (decide (a = b)) := by
  unfold compareDigest
  rw [if_pos]
  rw [List.all_eq_true]
  intro c hc
  rw [decide_eq_true_eq]
  rw [List.mem_append] at hc
  rcases hc with hc | hc
  · exact lt_of_le_of_lt (toNat_of_isDigit (ha.2 c hc)).2 (by decide)
  · exact lt_of_le_of_lt (toNat_of_isDigit (hb.2 c hc)).2 (by decide)

/-! ## The drift loop -/

namespace TOTPService

/-- INTERNAL: the loop gets to the step that made the code, or to one before that made the same. -/
theorem verifyDrift_eq_true {py : Stdlib} {service : TOTPService} {secret code : String}
    {key : List ℕ} {counter : ℤ} (hdigits : 0 < service.digits)
    (hkey : decodeTotpSecret py secret = .ok key) (hcode : IsCode service.digits code)
    (drifts : List ℤ) (hrange : ∀ drift ∈ drifts, counter + drift < 2 ^ 64)
    (hmade : ∃ drift ∈ drifts, 0 ≤ counter + drift ∧
      hotp py secret (counter + drift) service.digits = .ok code) :
    verifyDrift py service secret code counter drifts = .ok true := by
  induction drifts with
  | nil =>
      obtain ⟨drift, hdrift, _⟩ := hmade
      cases hdrift
  | cons drift rest ih =>
      rw [List.forall_mem_cons] at hrange
      obtain ⟨made, hmem, hnonneg, hotpMade⟩ := hmade
      rw [List.mem_cons] at hmem
      unfold verifyDrift
      by_cases hneg : counter + drift < 0
      · rw [if_pos hneg]
        apply ih hrange.2
        rcases hmem with rfl | hmem
        · exact absurd hneg (not_lt.mpr hnonneg)
        · exact ⟨made, hmem, hnonneg, hotpMade⟩
      · rw [if_neg hneg]
        obtain ⟨expected, hexpected⟩ := exists_hotp hkey (not_lt.mp hneg) hrange.1 service.digits
        have hcompare := compareDigest_of_isCode (isCode_of_hotp hdigits hexpected) hcode
        simp only [hexpected, hcompare, bind, Except.bind]
        by_cases hsame : expected = code
        · simp [hsame, pure, Except.pure]
        · simp only [hsame, decide_false, Bool.false_eq_true, if_false]
          apply ih hrange.2
          rcases hmem with rfl | hmem
          · rw [hexpected] at hotpMade
            cases hotpMade
            exact absurd rfl hsame
          · exact ⟨made, hmem, hnonneg, hotpMade⟩

/-- **The code of an instant is accepted at that instant.** -/
theorem verifyTotp_generateTotp {py : Stdlib} {secret code : String} {t : ℤ} (hnonneg : 0 ≤ t)
    (hrange : t < 2 ^ 64) (h : generateTotp py {} secret t = .ok code) :
    verifyTotp py {} secret code t = .ok true := by
  have hcode := isCode_of_hotp (by decide) h
  obtain ⟨key, _, hkey, _, _⟩ := hotp_eq_ok_iff.mp h
  have hcounter : 0 ≤ counter {} t ∧ counter {} t + 1 < 2 ^ 64 := by
    show 0 ≤ t / 30 ∧ t / 30 + 1 < 2 ^ 64
    omega
  have hdrifts : drifts {} = [-1, 0, 1] := by decide
  unfold verifyTotp
  simp only [normalizeCode_of_isCode hcode]
  rw [if_neg]
  · apply verifyDrift_eq_true (by decide) hkey hcode
    · rw [hdrifts]
      intro drift hdrift
      have hle : drift ≤ 1 := by
        simp only [List.mem_cons, List.not_mem_nil, or_false] at hdrift
        omega
      omega
    · refine ⟨0, by decide, ?_, ?_⟩
      · rw [Int.add_zero]
        exact hcounter.1
      · rw [Int.add_zero]
        exact h
  · rw [not_or, not_not, not_not]
    refine ⟨hcode.1, ?_⟩
    rw [List.all_eq_true]
    exact fun c hc => textIsDigit_of_isDigit (hcode.2 c hc)

end TOTPService

end MediaCenter.Shared
