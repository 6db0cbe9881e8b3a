import MediaCenter.Analysis.Shared.TrustedHeaders
import MediaCenter.Model.Shared.Jwt

/-!
# Reading what was encoded

A token that `encode_hs256_jwt` made is cut into its three segments again, and its signature is
the one that is computed once more.  What is left of `decode_hs256_jwt` is the check of the
registered claims.
-/

set_option autoImplicit false

namespace MediaCenter.Shared

open MediaCenter.Library

/-! ## Segments -/

section Segments

/-- INTERNAL: the letters of a segment are visible, and no dots. -/
theorem base64urlEncode_letters {data : List ℕ} {c : Char}
    (h : c ∈ (base64urlEncode data).toList) : Text.Visible c ∧ c ≠ '.' := by
  have halphabet : ∀ n, "ABCDEFGHIJKLMNOPQRSTUVWXYZabcdefghijklmnopqrstuvwxyz0123456789-_".toList.getD
      n 'A' ∈ "ABCDEFGHIJKLMNOPQRSTUVWXYZabcdefghijklmnopqrstuvwxyz0123456789-_".toList := by
    intro n
    by_cases hn : n < 64
    · rw [List.getD_eq_getElem _ _ hn]
      exact List.getElem_mem _
    · rw [List.getD_eq_default _ _ (not_lt.mp hn)]
      decide
  have hletters : ∀ c ∈
      "ABCDEFGHIJKLMNOPQRSTUVWXYZabcdefghijklmnopqrstuvwxyz0123456789-_".toList,
      (33 ≤ c.toNat ∧ c.toNat ≤ 126) ∧ c ≠ '.' := by decide
  unfold base64urlEncode at h
  rw [String.toList_ofList, List.mem_map] at h
  obtain ⟨n, _, rfl⟩ := h
  exact hletters _ (halphabet n)

theorem dot_not_mem_base64urlEncode (data : List ℕ) : '.' ∉ (base64urlEncode data).toList :=
  fun h => (base64urlEncode_letters h).2 rfl

theorem lt_of_mem_bytesBE {n x b : ℕ} (h : b ∈ Sha.bytesBE n x) : b < 256 := by
  induction n generalizing x with
  | zero => cases h
  | succ n ih =>
      rw [Sha.bytesBE, List.mem_append, List.mem_singleton] at h
      rcases h with h | rfl
      · exact ih h
      · exact Nat.mod_lt x (by decide)

theorem lt_of_mem_hmac {secret message : List ℕ} {b : ℕ}
    (h : b ∈ Sha.hmac Sha.sha256 secret message) : b < 256 := by
  unfold Sha.hmac Sha.sha256 at h
  rw [List.mem_flatMap] at h
  obtain ⟨x, _, hb⟩ := h
  exact lt_of_mem_bytesBE hb

theorem lt_of_mem_utf8 {s : String} {b : ℕ} (h : b ∈ Reference.utf8 s) : b < 256 := by
  unfold Reference.utf8 at h
  rw [List.mem_map] at h
  obtain ⟨x, _, rfl⟩ := h
  exact x.toNat_lt

end Segments

/-! ## Tokens -/

section Tokens

variable {py : Stdlib} {codec : SegmentCodec}

/-- The two segments under the signature of a token. -/
def headerSegmentOf (py : Stdlib) : String :=
  base64urlEncode (Reference.utf8 (dumpsCompact py
    (.dict [("alg", .str "HS256"), ("typ", .str "JWT")])))

def payloadSegmentOf (py : Stdlib) (claims : JSONObject) : String :=
  base64urlEncode (Reference.utf8 (dumpsCompact py (.dict claims)))

theorem decodeJsonSegment_encode (hlawful : codec.Lawful py) {claims : JSONObject}
    (hkeys : (claims.map Prod.fst).Pairwise (· < ·))
    (hplain : ∀ p ∈ claims, p.2.isPlain = true) :
    decodeJsonSegment codec (payloadSegmentOf py claims) = .ok (Dict.ofList claims) := by
  unfold decodeJsonSegment payloadSegmentOf
  rw [hlawful.b64decode_encode _ fun _ => lt_of_mem_utf8]
  simp only [bind, Except.bind, hlawful.loads_dumps claims hkeys hplain]

theorem decodeSignature_encode (hlawful : codec.Lawful py) (secret message : List ℕ) :
    decodeSignature codec (base64urlEncode (Sha.hmac Sha.sha256 secret message)) =
      .ok (Sha.hmac Sha.sha256 secret message) := by
  unfold decodeSignature
  rw [hlawful.b64decode_encode _ fun _ => lt_of_mem_hmac]

theorem signHs256_segments (header payload secret : List ℕ) :
    signHs256 (base64urlEncode header ++ "." ++ base64urlEncode payload) secret =
      .ok (Sha.hmac Sha.sha256 secret
        (Reference.utf8 (base64urlEncode header ++ "." ++ base64urlEncode payload))) := by
  unfold signHs256
  rw [if_pos]
  rw [List.all_eq_true]
  intro c hc
  have hvisible : ∀ data, c ∈ (base64urlEncode data).toList → c.toNat < 128 := by
    intro data hmem
    have hletter := (base64urlEncode_letters hmem).1
    unfold Text.Visible at hletter
    omega
  rw [String.toList_append, String.toList_append, List.mem_append, List.mem_append] at hc
  rw [decide_eq_true_eq]
  rcases hc with (hc | hc) | hc
  · exact hvisible header hc
  · rw [show c = '.' by simpa using hc]
    decide
  · exact hvisible payload hc

/-- INTERNAL: a token is cut where it was put together. -/
theorem splitAtEvery_encodeHs256Jwt (claims : JSONObject) (secret : List ℕ) :
    ∃ signature, signature = Sha.hmac Sha.sha256 secret
        (Reference.utf8 (headerSegmentOf py ++ "." ++ payloadSegmentOf py claims)) ∧
      (splitAtEvery '.' (encodeHs256Jwt py claims secret).toList).map String.ofList =
        [headerSegmentOf py, payloadSegmentOf py claims, base64urlEncode signature] := by
  refine ⟨_, rfl, ?_⟩
  have hlast : ∀ l : List Char, '.' ∉ l → splitAtEvery '.' l = [l] := by
    intro l hl
    obtain ⟨first, rest, hnil, happend⟩ := splitAtEvery_append_left hl []
    rw [splitAtEvery] at hnil
    cases hnil
    rw [List.append_nil] at happend
    exact happend
  unfold encodeHs256Jwt
  dsimp only
  rw [String.toList_append, String.toList_append, String.toList_append, String.toList_append]
  show (splitAtEvery '.' ((_ ++ ['.'] ++ _) ++ ['.'] ++ _)).map String.ofList = _
  rw [List.append_assoc, List.append_assoc, List.append_assoc, List.singleton_append,
    List.singleton_append, splitAtEvery_append_cons (dot_not_mem_base64urlEncode _),
    splitAtEvery_append_cons (dot_not_mem_base64urlEncode _),
    hlast _ (dot_not_mem_base64urlEncode _)]
  simp only [List.map_cons, List.map_nil, String.ofList_toList]
  rfl

/-- INTERNAL: of a token that was encoded, the registered claims are left to check. -/
theorem decodeHs256Jwt_encode (hlawful : codec.Lawful py) {claims : JSONObject}
    (hkeys : (claims.map Prod.fst).Pairwise (· < ·))
    (hplain : ∀ p ∈ claims, p.2.isPlain = true) (secret : List ℕ)
    (expectedIssuer expectedAudience : Option String) (now : ℚ) :
    decodeHs256Jwt codec (encodeHs256Jwt py claims secret) secret expectedIssuer
        expectedAudience now =
      (validateRegisteredClaims (Dict.ofList claims) expectedIssuer expectedAudience now).map
        fun _ => Dict.ofList claims := by
  obtain ⟨signature, hsignature, hsplit⟩ := @splitAtEvery_encodeHs256Jwt py claims secret
  have hheader : decodeJsonSegment codec (headerSegmentOf py) =
      .ok (Dict.ofList [("alg", .str "HS256"), ("typ", .str "JWT")]) :=
    decodeJsonSegment_encode hlawful (by decide) (by decide)
  have halg : ¬ ((Dict.ofList [("alg", JSONValue.str "HS256"), ("typ", .str "JWT")]).get?
      "alg").bind asStr ≠ some "HS256" := by decide
  have hsign : signHs256 (headerSegmentOf py ++ "." ++ payloadSegmentOf py claims) secret =
      .ok signature := by
    rw [hsignature]
    exact signHs256_segments _ _ _
  have hdecoded : decodeSignature codec (base64urlEncode signature) = .ok signature := by
    rw [hsignature]
    exact decodeSignature_encode hlawful _ _
  unfold decodeHs256Jwt
  rw [hsplit]
  simp only [hheader, decodeJsonSegment_encode hlawful hkeys hplain, hsign, hdecoded, bind,
    Except.bind, refuseIf, if_neg halg, ne_eq, not_true_eq_false, if_false]
  cases validateRegisteredClaims (Dict.ofList claims) expectedIssuer expectedAudience now with
  | error e => rfl
  | ok u => rfl

theorem visible_encodeHs256Jwt (claims : JSONObject) (secret : List ℕ) :
    ∀ c ∈ (encodeHs256Jwt py claims secret).toList, Text.Visible c := by
  intro c hc
  have hdot : Text.Visible '.' := by
    unfold Text.Visible
    decide
  unfold encodeHs256Jwt at hc
  dsimp only at hc
  rw [String.toList_append, String.toList_append, String.toList_append, String.toList_append,
    List.mem_append, List.mem_append, List.mem_append, List.mem_append] at hc
  rcases hc with (((hc | hc) | hc) | hc) | hc
  · exact (base64urlEncode_letters hc).1
  · rw [show c = '.' by simpa using hc]
    exact hdot
  · exact (base64urlEncode_letters hc).1
  · rw [show c = '.' by simpa using hc]
    exact hdot
  · exact (base64urlEncode_letters hc).1

theorem encodeHs256Jwt_ne_empty (claims : JSONObject) (secret : List ℕ) :
    encodeHs256Jwt py claims secret ≠ "" := by
  intro hempty
  have hlist : (encodeHs256Jwt py claims secret).toList = [] := by
    rw [hempty]
    rfl
  unfold encodeHs256Jwt at hlist
  simp at hlist

theorem strip_bearer {token : String} (hvisible : ∀ c ∈ token.toList, Text.Visible c)
    (hne : token ≠ "") : Text.strip ("Bearer " ++ token) = "Bearer " ++ token := by
  have htoken : token.toList ≠ [] := fun h => hne (String.toList_eq_nil_iff.mp h)
  unfold Text.strip
  rw [Text.dropBoth_eq_self_iff]
  intro hnil
  constructor
  · simp only [String.toList_append]
    rfl
  · have hlast : ("Bearer " ++ token).toList.getLast hnil = token.toList.getLast htoken := by
      simp only [String.toList_append]
      exact List.getLast_append_of_ne_nil _ htoken
    rw [hlast]
    exact (hvisible _ (List.getLast_mem htoken)).isSpace

/-- INTERNAL: a visible token is read from its header as it is. -/
theorem extractBearerToken_bearer {token : String}
    (hvisible : ∀ c ∈ token.toList, Text.Visible c) (hne : token ≠ "")
    (correlationId : Option String) :
    extractBearerToken py (some ("Bearer " ++ token)) correlationId = .ok token := by
  have hscheme : (("Bearer " ++ token).toList.takeWhile fun c => c ≠ ' ') = "Bearer".toList := by
    rw [String.toList_append]
    rfl
  have hrest : (("Bearer " ++ token).toList.dropWhile fun c => c ≠ ' ').drop 1 =
      token.toList := by
    rw [String.toList_append]
    rfl
  have hseparator : (("Bearer " ++ token).toList.any fun c => c == ' ') = true := by
    rw [String.toList_append]
    rfl
  have hlower : py.lower "Bearer" = "bearer" := by
    rw [py.lower_latin1 "Bearer" (by decide)]
    decide
  unfold extractBearerToken
  simp only [strip_bearer hvisible hne, hscheme, hrest, hseparator, hlower,
    String.ofList_toList, Text.strip_of_forall_visible hvisible, hne, ne_eq, not_true_eq_false,
    Bool.true_eq_false, or_self, if_false]

end Tokens

end MediaCenter.Shared
