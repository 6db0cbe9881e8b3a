import MediaCenter.Library.JoinedText
import MediaCenter.Model.Shared.RateLimit
import MediaCenter.Model.Shared.TenantHeaders

/-!
# Whose requests share a rate limit

A key joins the tenant id, the subject and the service name with fixed words that all three may
hold themselves, and a missing subject is written like the subject `anonymous`.
-/

set_option autoImplicit false

namespace MediaCenter.Shared

open MediaCenter.Library

/-- The parts of a rate limit key. -/
structure RateLimitedCaller where
  tenantId : String
  subject : Option String
  serviceName : String
  deriving DecidableEq

namespace RateLimitedCaller

def key (caller : RateLimitedCaller) : String :=
  rateLimitKey caller.tenantId caller.subject caller.serviceName

def subjectText (caller : RateLimitedCaller) : String := rateLimitSubject caller.subject

/-- The subject of `a` reads on, over `:service:`, into the service name of `a`. -/
def ServiceRunsInto (a b : RateLimitedCaller) : Prop :=
  ∃ m, b.subjectText ++ ":" = a.subjectText ++ ":service:" ++ m ∧
    a.serviceName = m ++ "service" ++ ":" ++ b.serviceName

/-- The tenant id of `b` reads on, over `:subject:`, into the subject and service of `a`. -/
def SubjectRunsInto (a b : RateLimitedCaller) : Prop :=
  ∃ m, b.tenantId ++ ":" = a.tenantId ++ ":subject:" ++ m ∧
    a.subjectText ++ ":service:" ++ a.serviceName =
      m ++ "subject" ++ ":" ++ (b.subjectText ++ ":service:" ++ b.serviceName)

/-- The two callers are told apart: they do not agree in all three texts, and no part of one
holds a fixed word behind which the other reads the same. -/
structure ToldApart (a b : RateLimitedCaller) : Prop where
  texts : ¬ (a.tenantId = b.tenantId ∧ a.subjectText = b.subjectText ∧
    a.serviceName = b.serviceName)
  service : a.tenantId = b.tenantId → ¬ ServiceRunsInto a b ∧ ¬ ServiceRunsInto b a
  subject : ¬ SubjectRunsInto a b ∧ ¬ SubjectRunsInto b a

end RateLimitedCaller

open RateLimitedCaller

theorem rateLimitKey_eq_append (a : RateLimitedCaller) : a.key = "tenant:" ++
    (a.tenantId ++ ":subject:" ++ (a.subjectText ++ ":service:" ++ a.serviceName)) := by
  unfold RateLimitedCaller.key rateLimitKey RateLimitedCaller.subjectText
  simp only [String.append_assoc]

theorem append_service_eq_iff (a b : RateLimitedCaller) :
    a.subjectText ++ ":service:" ++ a.serviceName = b.subjectText ++ ":service:" ++ b.serviceName ↔
      (a.subjectText = b.subjectText ∧ a.serviceName = b.serviceName) ∨
        ServiceRunsInto a b ∨ ServiceRunsInto b a :=
  JoinedText.text_append_word_eq_iff (c := ':') (by decide) (by decide) (by decide)

theorem append_subject_eq_iff (a b : RateLimitedCaller) (x y : String) :
    a.tenantId ++ ":subject:" ++ x = b.tenantId ++ ":subject:" ++ y ↔
      (a.tenantId = b.tenantId ∧ x = y) ∨
        (∃ m, b.tenantId ++ ":" = a.tenantId ++ ":subject:" ++ m ∧
          x = m ++ "subject" ++ ":" ++ y) ∨
        (∃ m, a.tenantId ++ ":" = b.tenantId ++ ":subject:" ++ m ∧
          y = m ++ "subject" ++ ":" ++ x) :=
  JoinedText.text_append_word_eq_iff (c := ':') (by decide) (by decide) (by decide)

theorem key_ne_iff_toldApart (a b : RateLimitedCaller) : a.key ≠ b.key ↔ ToldApart a b := by
  rw [rateLimitKey_eq_append, rateLimitKey_eq_append, Ne, String.append_right_inj,
    append_subject_eq_iff, append_service_eq_iff]
  constructor
  · intro h
    refine ⟨fun ⟨ht, hs, hv⟩ => h (.inl ⟨ht, .inl ⟨hs, hv⟩⟩), ?_, ?_⟩
    · exact fun ht => ⟨fun hrun => h (.inl ⟨ht, .inr (.inl hrun)⟩),
        fun hrun => h (.inl ⟨ht, .inr (.inr hrun)⟩)⟩
    · exact ⟨fun hrun => h (.inr (.inl hrun)), fun hrun => h (.inr (.inr hrun))⟩
  · rintro ⟨htexts, hservice, hsubject⟩ (⟨ht, hrest⟩ | hrun | hrun)
    · rcases hrest with ⟨hs, hv⟩ | hrun | hrun
      · exact htexts ⟨ht, hs, hv⟩
      · exact (hservice ht).1 hrun
      · exact (hservice ht).2 hrun
    · exact hsubject.1 hrun
    · exact hsubject.2 hrun

/-! ## Histories of requests -/

/-- The answers of the limiter to requests served one after another, each at its own reading
of the clock. -/
def serveAll (policy : RateLimitPolicy) (windows : RateLimitWindows) :
    List (ℤ × RateLimitedCaller) →
      List (RateLimitedCaller × Except SharedException RateLimitDecision)
  | [] => []
  | (now, caller) :: rest =>
      match InMemoryRateLimiter.check policy now caller.key windows with
      | .error e => (caller, .error e) :: serveAll policy windows rest
      | .ok (decision, windows') => (caller, .ok decision) :: serveAll policy windows' rest

/-- The answers a caller gets in a history. -/
def answersTo (caller : RateLimitedCaller) (policy : RateLimitPolicy)
    (windows : RateLimitWindows) (history : List (ℤ × RateLimitedCaller)) :
    List (RateLimitedCaller × Except SharedException RateLimitDecision) :=
  (serveAll policy windows history).filter fun answer => answer.1 = caller

/-- The answers to `a` do not depend on the requests of `b`. -/
def Independent (a b : RateLimitedCaller) : Prop :=
  ∀ (policy : RateLimitPolicy) (history : List (ℤ × RateLimitedCaller)),
    answersTo a policy Dict.empty history =
      answersTo a policy Dict.empty (history.filter fun request => request.2 ≠ b)

theorem check_key (policy : RateLimitPolicy) (now : ℤ) (caller : RateLimitedCaller)
    (windows : RateLimitWindows) :
    InMemoryRateLimiter.check policy now caller.key windows =
      .ok ((InMemoryRateLimiter.decide policy now (windows.get? caller.key)).1,
        windows.set caller.key
          (InMemoryRateLimiter.decide policy now (windows.get? caller.key)).2) := by
  have hstrip : Text.strip caller.key ≠ "" := by
    intro hempty
    have hspace := Text.dropBoth_eq_empty_iff.mp hempty 't' (by
      rw [rateLimitKey_eq_append, String.toList_append]
      exact List.mem_append_left _ (by decide))
    exact absurd hspace (by decide)
  unfold InMemoryRateLimiter.check
  rw [if_neg hstrip]

theorem serveAll_cons (policy : RateLimitPolicy) (windows : RateLimitWindows) (now : ℤ)
    (c : RateLimitedCaller) (rest : List (ℤ × RateLimitedCaller)) :
    serveAll policy windows ((now, c) :: rest) =
      (c, .ok (InMemoryRateLimiter.decide policy now (windows.get? c.key)).1) ::
        serveAll policy (windows.set c.key
          (InMemoryRateLimiter.decide policy now (windows.get? c.key)).2) rest := by
  rw [serveAll, check_key]

/-- INTERNAL: the answers to `a` depend on the window of its key only, which no request with
another key touches. -/
theorem answersTo_filter {a b : RateLimitedCaller} (hkey : a.key ≠ b.key)
    (policy : RateLimitPolicy) (history : List (ℤ × RateLimitedCaller))
    (w w' : RateLimitWindows) (hw : w.get? a.key = w'.get? a.key) :
    answersTo a policy w history =
      answersTo a policy w' (history.filter fun request => request.2 ≠ b) := by
  unfold answersTo
  induction history generalizing w w' with
  | nil => rfl
  | cons request rest ih =>
      obtain ⟨now, c⟩ := request
      by_cases hcb : c = b
      · have hba : ¬ b = a := fun heq => hkey (by rw [heq])
        rw [List.filter_cons_of_neg (by simpa using hcb), serveAll_cons, hcb,
          List.filter_cons_of_neg (by simpa using hba)]
        apply ih
        rw [Dict.get?_set_of_ne w hkey, hw]
      · rw [List.filter_cons_of_pos (by simpa using hcb), serveAll_cons, serveAll_cons]
        by_cases hca : c.key = a.key
        · rw [hca, hw, List.filter_cons, List.filter_cons]
          rw [ih (w.set a.key (InMemoryRateLimiter.decide policy now (w'.get? a.key)).2)
            (w'.set a.key (InMemoryRateLimiter.decide policy now (w'.get? a.key)).2)
            (by rw [Dict.get?_set_self, Dict.get?_set_self])]
        · have hne : ¬ c = a := fun heq => hca (by rw [heq])
          rw [List.filter_cons_of_neg (by simpa using hne),
            List.filter_cons_of_neg (by simpa using hne)]
          apply ih
          rw [Dict.get?_set_of_ne w (Ne.symm hca), Dict.get?_set_of_ne w' (Ne.symm hca), hw]

/-- INTERNAL: with a budget of one request, a caller that spends it under the key of another
one leaves nothing to it. -/
theorem not_independent_of_key_eq {a b : RateLimitedCaller} (hne : a ≠ b)
    (hkey : a.key = b.key) : ¬ Independent a b := by
  intro h
  let once : RateLimitPolicy := ⟨1, 1, Nat.one_pos, Nat.one_pos⟩
  have hanswers := h once [(0, b), (0, a)]
  have hspent : (InMemoryRateLimiter.decide once 0
      (some (InMemoryRateLimiter.decide once 0 none).2)).1 ≠
      (InMemoryRateLimiter.decide once 0 none).1 := by decide
  unfold answersTo at hanswers
  rw [List.filter_cons_of_neg (by simp), List.filter_cons_of_pos (by simpa using hne),
    List.filter_nil, serveAll_cons, serveAll_cons, serveAll_cons,
    List.filter_cons_of_neg (by simpa using Ne.symm hne), List.filter_cons_of_pos (by simp),
    List.filter_cons_of_pos (by simp), hkey, Dict.get?_set_self, Dict.get?_empty,
    List.cons.injEq, Prod.mk.injEq, Except.ok.injEq] at hanswers
  exact hspent hanswers.1.2

theorem independent_iff_key_ne {a b : RateLimitedCaller} (hne : a ≠ b) :
    Independent a b ↔ a.key ≠ b.key :=
  ⟨fun h hkey => not_independent_of_key_eq hne hkey h,
    fun hkey policy history => answersTo_filter hkey policy history _ _ rfl⟩

/-- Two callers have keys and budgets of their own exactly when their keys tell them apart. -/
theorem ownBudgets_iff (a b : RateLimitedCaller) (hne : a ≠ b) :
    (a.key ≠ b.key ∧ Independent a b) ↔ ToldApart a b := by
  rw [independent_iff_key_ne hne, and_self, key_ne_iff_toldApart]

/-- Two members of a tenant have budgets of their own at a service. -/
theorem ownBudgets_ana_boris :
    RateLimitedCaller.key ⟨"media-center", some "ana", "ledger"⟩ ≠
      RateLimitedCaller.key ⟨"media-center", some "boris", "ledger"⟩ ∧
    Independent ⟨"media-center", some "ana", "ledger"⟩
      ⟨"media-center", some "boris", "ledger"⟩ :=
  (ownBudgets_iff ⟨"media-center", some "ana", "ledger"⟩
    ⟨"media-center", some "boris", "ledger"⟩ (by decide)).mpr
    ((key_ne_iff_toldApart _ _).mp (by decide))

/-- A token without a subject and one with the subject `anonymous` share a key: with a budget
of one request, the second of them is refused because of the first. -/
theorem ownBudgets_anonymous :
    tenantContextFromClaims
        (Dict.empty.set "tenant_id" (.str "media-center")) none =
      .ok ⟨"media-center", none, [], none⟩ ∧
    tenantContextFromClaims ((Dict.empty.set "tenant_id" (.str "media-center")).set
        "sub" (.str "anonymous")) none =
      .ok ⟨"media-center", some "anonymous", [], none⟩ ∧
    RateLimitedCaller.key ⟨"media-center", none, "ledger"⟩ =
      RateLimitedCaller.key ⟨"media-center", some "anonymous", "ledger"⟩ ∧
    ¬ Independent ⟨"media-center", none, "ledger"⟩
      ⟨"media-center", some "anonymous", "ledger"⟩ :=
  ⟨by decide, by decide, by decide, not_independent_of_key_eq (by decide) (by decide)⟩

end MediaCenter.Shared
