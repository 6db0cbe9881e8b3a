import MediaCenter.Analysis.HitlPayout.Execution

/-!
# Runs of complete calls

When every call ends before the next one starts, the copy a call writes is the payout that
is stored.  So each call keeps the state machine, whatever its arguments, its `now`, and
however the connectors answer.
-/

set_option autoImplicit false

namespace MediaCenter.HitlPayout

open MediaCenter.Library MediaCenter.Shared

/-- What a call that runs without interference does to the state. -/
structure KeepsStateMachine (cfg : GatewayConfig) (call : GatewayCall)
    (s s' : GatewayState) : Prop where
  coherent : Coherent s'
  evolve : PayoutsEvolve s.payouts s'.payouts
  executedBy : ∀ k p, s'.payout? k = some p → p.status = .executed →
    (∃ p₁, s.payout? k = some p₁ ∧ p₁.status = .executed) ∨ ExecutedBy cfg call p

section Step

variable {cfg : GatewayConfig} {call : GatewayCall}

theorem ExecutedBy.evolve {p p' : PayoutQueueItem} (h : ExecutedBy cfg call p)
    (hev : Evolves p p') : ExecutedBy cfg call p' := by
  obtain ⟨args, t, hop, hkey, htime, hwindow⟩ := h
  refine ⟨args, t, hop, hev.key.trans hkey, htime, ?_⟩
  have hsame : p'.vetoUntil = p.vetoUntil := by
    unfold PayoutQueueItem.vetoUntil
    rw [hev.queued]
  rw [hsame]
  exact hwindow

theorem KeepsStateMachine.trans {s s' s'' : GatewayState}
    (h : KeepsStateMachine cfg call s s') (h' : KeepsStateMachine cfg call s' s'') :
    KeepsStateMachine cfg call s s'' where
  coherent := h'.coherent
  evolve := h.evolve.trans _ _ _ h'.evolve
  executedBy := by
    intro k p hp hexecuted
    rcases h'.executedBy k p hp hexecuted with ⟨p', hp', hexecuted'⟩ | hby
    · rcases h.executedBy k p' hp' hexecuted' with hbefore | hby
      · exact .inl hbefore
      · obtain ⟨p₂, hp₂, hev⟩ := h'.evolve k p' hp'
        have hsame : s''.payout? k = some p₂ := hp₂
        rw [hp] at hsame
        cases hsame
        exact .inr (hby.evolve hev)
    · exact .inr hby

/-- INTERNAL: a segment, when the payouts are as the call read them. -/
theorem Writes.keepsStateMachine {r : Resumption gatewayInterface} {s s' : GatewayState}
    (h : Writes Eq cfg call r s s') (hs : Coherent s) : KeepsStateMachine cfg call s s' := by
  have hRP : ∀ read, read = s.payouts → PayoutsEvolve read s.payouts := by
    intro read hread
    rw [hread]
    exact .refl _
  have hkept := h.preserves hs hRP (by
    intro args command notification read p t _ _ hsince hread hexecutable p₁ hp₁
    rw [hsince] at hread
    have hsame : s.payout? (args.tenantId, args.payoutId) = some p := hread
    rw [hsame] at hp₁
    cases hp₁
    obtain ⟨hstatus, _⟩ := requireExecutable_eq_ok hexecutable
    rcases hstatus with hstatus | hstatus
    · rw [hstatus]
      decide
    · rw [hstatus]
      decide)
  exact ⟨hkept.1, hkept.2, fun k p hp hexecuted => h.executedBy hs hRP hp hexecuted⟩

/-- **The step lemma.**  One complete call, successful or failing. -/
theorem CompleteCall.step_keeps (cfg : GatewayConfig) (c : CompleteCall) {s : GatewayState}
    (hs : Coherent s) : KeepsStateMachine cfg c.call s (c.step cfg s) := by
  have hkeeps : Keeps Eq cfg c.call Eq (c.call.program cfg) none s s := by
    apply program_keeps
    · intro s₁ s₂ h
      rw [h]
    · exact fun _ _ _ h h' => h.trans h'
    · intro r₁ r₂ k p h hp
      rw [← h, hp]
      rfl
  have hsegments := Coroutine.complete_of_segments
    (T := fun s s' => Coherent s → KeepsStateMachine cfg c.call s s')
    (fun _ _ _ h h' hs => (h hs).trans (h' (h hs).coherent))
    (fun _ _ _ h hs => h.keepsStateMachine hs)
    (fun _ _ _ _ (h : Writes Eq cfg c.call _ _ _) hs => h.keepsStateMachine hs)
    (c.call.program cfg) c.answers none s s hkeeps
  exact hsegments hs

end Step

/-! ## Runs -/

section Runs

variable (cfg : GatewayConfig)

theorem CompleteCall.run_append (s : GatewayState) (calls later : List CompleteCall) :
    CompleteCall.run cfg s (calls ++ later) =
      CompleteCall.run cfg (CompleteCall.run cfg s calls) later :=
  List.foldl_append

/-- **The run lemma.** -/
theorem CompleteCall.run_keeps (calls : List CompleteCall) {s : GatewayState}
    (hs : Coherent s) : Coherent (CompleteCall.run cfg s calls) ∧
      PayoutsEvolve s.payouts (CompleteCall.run cfg s calls).payouts := by
  induction calls generalizing s with
  | nil => exact ⟨hs, .refl _⟩
  | cons c calls ih =>
      have hstep := CompleteCall.step_keeps cfg c hs
      obtain ⟨hcoherent, hevolve⟩ := ih hstep.coherent
      exact ⟨hcoherent, hstep.evolve.trans _ _ _ hevolve⟩

/-- INTERNAL: an executed payout has its executing call in the run. -/
theorem CompleteCall.run_executedBy (calls : List CompleteCall) {s : GatewayState}
    (hs : Coherent s) {k : String × String} {p : PayoutQueueItem}
    (hp : (CompleteCall.run cfg s calls).payout? k = some p) (hexecuted : p.status = .executed) :
    (∃ p₁, s.payout? k = some p₁ ∧ p₁.status = .executed) ∨
      ∃ before c after, calls = before ++ c :: after ∧ ExecutedBy cfg c.call p ∧
        ∃ p₁, (c.step cfg (CompleteCall.run cfg s before)).payout? k = some p₁ ∧
          p₁.status = .executed := by
  induction calls generalizing s with
  | nil => exact .inl ⟨p, hp, hexecuted⟩
  | cons c calls ih =>
      have hstep := CompleteCall.step_keeps cfg c hs
      rcases ih hstep.coherent hp with ⟨p₁, hp₁, hexecuted₁⟩ | ⟨before, c', after, hsplit, hrest⟩
      · rcases hstep.executedBy k p₁ hp₁ hexecuted₁ with hbefore | hby
        · exact .inl hbefore
        · obtain ⟨_, hevolve⟩ := CompleteCall.run_keeps cfg calls hstep.coherent
          obtain ⟨p', hp', hev⟩ := hevolve k p₁ hp₁
          have hsame : (CompleteCall.run cfg (c.step cfg s) calls).payout? k = some p' := hp'
          have hp'' : (CompleteCall.run cfg (c.step cfg s) calls).payout? k = some p := hp
          rw [hp''] at hsame
          cases hsame
          exact .inr ⟨[], c, calls, rfl, hby.evolve hev, p₁, hp₁, hexecuted₁⟩
      · refine .inr ⟨c :: before, c', after, ?_, hrest⟩
        rw [hsplit]
        rfl

/-- A stored payout and the stores around it. -/
structure LawfulPayout (s : GatewayState) (p : PayoutQueueItem) : Prop where
  confirmed : p.status = .readyToExecute ∨ p.status = .executed →
    ∃ c : PayoutConfirmation, p.confirmationId = some c.fields.confirmationId ∧
      s.confirmations.payoutIndex.get? p.key = some c.fields.confirmationId ∧
      s.confirmations.confirmations.get? (PayoutConfirmation.key c) = some c ∧
      PayoutConfirmation.payoutKey c = p.key
  executed : p.status = .executed → p.executionId ≠ none ∧ p.vetoDecisionId = none
  canceled : p.status = .canceled → p.executionId = none ∧
    ∃ d : VetoDecision, p.vetoDecisionId = some d.fields.decisionId ∧
      s.decisions.decisions.get? (VetoDecision.key d) = some d ∧
      d.fields.tenantId = p.tenantId ∧ d.fields.payoutId = p.payoutId ∧
      d.fields.decidedAt < p.vetoUntil

theorem CoherentPayout.lawful {s : GatewayState} {p : PayoutQueueItem}
    (h : CoherentPayout s p) : LawfulPayout s p where
  confirmed := by
    intro hstatus
    obtain ⟨id, hid⟩ := Option.ne_none_iff_exists'.mp (h.confirmed hstatus)
    have hindex := h.indexed id hid
    obtain ⟨c, hc, hpayout⟩ := s.confirmations.indexed _ id hindex
    have hkey := s.confirmations.keyed _ c hc
    have hid' : id = c.fields.confirmationId := congrArg Prod.snd hkey
    subst hid'
    rw [hkey] at hc
    exact ⟨c, hid, hindex, hc, hpayout⟩
  executed := by
    intro hstatus
    refine ⟨h.sent.mp hstatus, ?_⟩
    by_contra hveto
    exact absurd (hstatus.symm.trans (h.vetoed hveto)) (by decide)
  canceled := by
    intro hstatus
    refine ⟨?_, h.decided hstatus⟩
    by_contra hsent
    exact absurd (hstatus.symm.trans (h.sent.mpr hsent)) (by decide)

/-- The law of the payout state machine, after some calls and some more. -/
structure StateMachineLaw (calls later : List CompleteCall) (k : String × String)
    (p : PayoutQueueItem) : Prop where
  lawful : LawfulPayout (CompleteCall.run cfg .initial calls) p
  executedBy : p.status = .executed → ∃ before c after, calls = before ++ c :: after ∧
    ExecutedBy cfg c.call p ∧
    ∃ p₁, (CompleteCall.run cfg .initial (before ++ [c])).payout? k = some p₁ ∧
      p₁.status = .executed
  immutable : ∃ p', (CompleteCall.run cfg .initial (calls ++ later)).payout? k = some p' ∧
    p'.queued = p.queued ∧ (p.status = .executed → p'.status = .executed) ∧
    (p.status = .canceled → p'.status = .canceled)

/-- **The payout state machine.**  Every stored payout obeys its law, after every run of
complete calls. -/
theorem completeCalls_stateMachine (calls later : List CompleteCall) :
    ∀ k p, (CompleteCall.run cfg .initial calls).payout? k = some p →
      StateMachineLaw cfg calls later k p := by
  intro k p hp
  obtain ⟨hcoherent, _⟩ := CompleteCall.run_keeps cfg calls coherent_initial
  refine ⟨(hcoherent k p hp).lawful, ?_, ?_⟩
  · intro hexecuted
    rcases CompleteCall.run_executedBy cfg calls coherent_initial hp hexecuted with
      ⟨p₁, hp₁, _⟩ | ⟨before, c, after, hsplit, hby, hafter⟩
    · cases hp₁
    · refine ⟨before, c, after, hsplit, hby, ?_⟩
      rw [CompleteCall.run_append]
      exact hafter
  · obtain ⟨_, hevolve⟩ := CompleteCall.run_keeps cfg later hcoherent
    obtain ⟨p', hp', hev⟩ := hevolve k p hp
    refine ⟨p', ?_, hev.queued, hev.executed, hev.canceled⟩
    rw [CompleteCall.run_append]
    exact hp'

end Runs

/-- INTERNAL: a queue call that is made alone leaves what the gateway has written when it first
waits. -/
theorem CompleteCall.step_queue (cfg : GatewayConfig) (env : Ambient) (args : QueueArgs)
    (answers : Answers) (s : GatewayState) :
    CompleteCall.step cfg s ⟨⟨env, .queue args⟩, answers⟩ =
      ((queuePayout cfg env args).advance s).2 := by
  unfold CompleteCall.step GatewayCall.program
  rw [Coroutine.complete_map]
  exact (queuePayout_starts s).complete_state answers

/-- INTERNAL: and so does a veto. -/
theorem CompleteCall.step_veto (cfg : GatewayConfig) (env : Ambient) (args : VetoArgs)
    (answers : Answers) (s : GatewayState) :
    CompleteCall.step cfg s ⟨⟨env, .veto args⟩, answers⟩ =
      ((vetoPayout cfg env args).advance s).2 := by
  unfold CompleteCall.step GatewayCall.program
  rw [Coroutine.complete_map]
  exact (vetoPayout_starts s).complete_state answers

namespace Sample

/-- A payout is queued, and the publisher accepts its event. -/
def queueCall : CompleteCall where
  call := ⟨ambient 0, .queue (queueArgs .omitted)⟩
  answers _ := accept

/-- An hour later it is vetoed. -/
def vetoCall : CompleteCall where
  call := ⟨ambient 1, .veto (vetoArgs .omitted)⟩
  answers _ := accept

/-- An execution after the window. -/
def executeCall : CompleteCall where
  call := ⟨ambient 5, .execute (executeArgs "execution-1" .omitted)⟩
  answers _ := accept

end Sample

open Sample in
/-- The vetoed payout obeys its law, whatever the later execution does. -/
theorem completeCalls_stateMachine_vetoed :
    ∃ p, (CompleteCall.run config .initial [queueCall, vetoCall]).payout? payoutKey = some p ∧
      p.status = .canceled ∧
      StateMachineLaw config [queueCall, vetoCall] [executeCall] payoutKey p := by
  have hqueuedAt : resolveTime Reference.stdlib (ambient 0).now .omitted = .ok (clock 0) := rfl
  have hwindow : checkedInstant (clock 0 + hoursToMicros 4) = .ok (clock 4) := by decide
  obtain ⟨s, p, hqueued, hstored, hfields, hstatus, _, hdecisions, _⟩ :=
    queuePayout_queueArgs (ambient 0) .omitted hqueuedAt hwindow (s := .initial) rfl
  have hopen : clock 1 < p.vetoUntil := by
    rw [(queueArgs_ids hfields).2.2.2]
    decide
  obtain ⟨s', p', hvetoed, hstored', hcanceled⟩ :=
    vetoPayout_vetoArgs (ambient 1) .omitted rfl hstored hstatus hopen hdecisions
  have hrun : CompleteCall.run config .initial [queueCall, vetoCall] = s' := by
    unfold CompleteCall.run queueCall vetoCall
    rw [List.foldl_cons, List.foldl_cons, List.foldl_nil, CompleteCall.step_queue, hqueued,
      CompleteCall.step_veto, hvetoed]
  refine ⟨p', ?_, hcanceled, ?_⟩
  · rw [hrun]
    exact hstored'
  · apply completeCalls_stateMachine
    rw [hrun]
    exact hstored'

end MediaCenter.HitlPayout
