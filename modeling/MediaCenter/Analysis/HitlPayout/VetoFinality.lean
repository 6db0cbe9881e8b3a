import MediaCenter.Analysis.HitlPayout.Execution

/-!
# Vetoes in overlapping runs

`execute_payout` checks the status before its three connector calls and writes after them.
A veto that is accepted in between is overwritten; nothing else can undo one.
-/

set_option autoImplicit false

namespace MediaCenter.HitlPayout

open MediaCenter.Library MediaCenter.Shared Coroutine

variable (cfg : GatewayConfig)

/-- Runs of the managers over the state `s`: any calls, overlapping at their awaits. -/
abbrev gatewayRun (s : GatewayState) (actions : List (Action GatewayCall gatewayInterface)) :
    GatewayRun :=
  Config.run (GatewayCall.program cfg) (.initial s) actions

theorem gatewayRun_call (s : GatewayState) (k : GatewayCall) :
    (gatewayRun cfg s [.call k]).shared = ((GatewayCall.program cfg k).advance s).2 := rfl

theorem gatewayRun_append (s : GatewayState)
    (before after : List (Action GatewayCall gatewayInterface)) :
    gatewayRun cfg s (before ++ after) =
      Config.run (GatewayCall.program cfg) (gatewayRun cfg s before) after :=
  Config.run_append _ _ _ _

/-- Every step of the run meets the condition. -/
abbrev GatewayEveryStep
    (A : GatewayRun → Action GatewayCall gatewayInterface → Prop) (s : GatewayState)
    (actions : List (Action GatewayCall gatewayInterface)) : Prop :=
  Config.EveryStep (GatewayCall.program cfg) A (.initial s) actions

/-- No `execute_payout` comes back from an accepted notification to a canceled payout. -/
def NoLateExecution (c : GatewayRun) : Action GatewayCall gatewayInterface → Prop
  | .call _ => True
  | .resume i answer => ∀ call args command rest notification,
      c.tasks[i]? = some ⟨call, .suspended (.notifyPayoutExecuted command) rest⟩ →
      call.op = .execute args →
      answer (.notifyPayoutExecuted command) = .ok notification →
      ∀ p, c.shared.payout? (args.tenantId, args.payoutId) = some p → p.status ≠ .canceled

/-- What the calls rely on, and guarantee to each other. -/
structure Interferes (s s' : GatewayState) : Prop where
  evolve : PayoutsEvolve s.payouts s'.payouts
  coherent : Coherent s → Coherent s'

theorem Interferes.refl (s : GatewayState) : Interferes s s := ⟨.refl _, id⟩

theorem Interferes.trans (s s' s'' : GatewayState) (h : Interferes s s')
    (h' : Interferes s' s'') : Interferes s s'' :=
  ⟨h.evolve.trans _ _ _ h'.evolve, fun hs => h'.coherent (h.coherent hs)⟩

/-- INTERNAL: a segment of an admitted step, from a coherent state. -/
theorem interferes_of_segment (c : GatewayRun) (a : Action GatewayCall gatewayInterface)
    (s' : GatewayState) (ha : NoLateExecution c a) (hc : Coherent c.shared)
    (hseg : Config.Segment (fun call => Writes PayoutsEvolve cfg call) c a s') :
    Interferes c.shared s' := by
  have hevolve : ∀ read, PayoutsEvolve read c.shared.payouts →
      PayoutsEvolve read c.shared.payouts := fun _ h => h
  cases a with
  | call k =>
      have hwrites : Writes PayoutsEvolve cfg k none c.shared s' := hseg
      have hkept := hwrites.preserves hc hevolve (by
        intro args command notification read p t _ hr
        cases hr)
      exact ⟨hkept.2, fun _ => hkept.1⟩
  | resume i answer =>
      rcases Config.segment_resume hseg with ⟨call, q, rest, htask, hwrites⟩ | ⟨_, hsame⟩
      · have hkept := hwrites.preserves hc hevolve (by
          intro args command notification read p t hop hr _ _ _ p₁ hp₁
          injection hr with hr
          injection hr with hq hanswer
          subst hq
          exact ha call args command rest notification htask hop (eq_of_heq hanswer) p₁ hp₁)
        exact ⟨hkept.2, fun _ => hkept.1⟩
      · rw [hsame]
        exact .refl _

/-- **The state machine in overlapping runs.**  Without late executions it is kept, from
any point of a run to any later one. -/
theorem gatewayRun_interferes (before after : List (Action GatewayCall gatewayInterface))
    (h : GatewayEveryStep cfg NoLateExecution .initial (before ++ after)) :
    Coherent (gatewayRun cfg .initial before).shared ∧
      Interferes (gatewayRun cfg .initial before).shared
        (gatewayRun cfg .initial (before ++ after)).shared := by
  refine Config.run_guarantee_between (R := Interferes) (A := NoLateExecution) (J := Coherent)
    (Φ := fun call => Writes PayoutsEvolve cfg call)
    (Q := fun call _ => Writes PayoutsEvolve cfg call) Interferes.refl Interferes.trans ?_ ?_
    ?_ (interferes_of_segment cfg) .initial coherent_initial before after h
  · exact fun _ _ h => h.coherent
  · exact fun _ _ _ _ _ h => h
  · intro call s _
    exact program_keeps (fun _ _ h => h.evolve) PayoutsEvolve.trans PayoutsEvolve.stays call s

/-- A canceled payout, as it is left in `s`, is still there in `s'`. -/
def StaysVetoed (s s' : GatewayState) : Prop :=
  ∀ k p, s.payout? k = some p → p.status = .canceled →
    ∃ p', s'.payout? k = some p' ∧ p'.status = .canceled ∧ p'.vetoDecisionId ≠ none ∧
      p'.vetoDecisionId = p.vetoDecisionId

theorem Interferes.staysVetoed {s s' : GatewayState} (h : Interferes s s')
    (hs : Coherent s) : StaysVetoed s s' := by
  intro k p hp hcanceled
  obtain ⟨d, hid, _⟩ := (hs k p hp).decided hcanceled
  have hveto : p.vetoDecisionId ≠ none := by
    rw [hid]
    exact Option.some_ne_none _
  obtain ⟨p', hp', hev⟩ := h.evolve k p hp
  have hsame := hev.vetoed hveto
  refine ⟨p', hp', hev.canceled hcanceled, ?_, hsame⟩
  rw [hsame]
  exact hveto

/-- **A veto is final without late executions**, from any point of an overlapping run to
any later one. -/
theorem gatewayRun_staysVetoed (before after : List (Action GatewayCall gatewayInterface))
    (h : GatewayEveryStep cfg NoLateExecution .initial (before ++ after)) :
    StaysVetoed (gatewayRun cfg .initial before).shared
      (gatewayRun cfg .initial (before ++ after)).shared := by
  obtain ⟨hcoherent, hinterferes⟩ := gatewayRun_interferes cfg before after h
  exact hinterferes.staysVetoed hcoherent

namespace Sample

/-- An execution that claims to be four hours ahead, and a veto in time. -/
def hastyExecution : GatewayCall :=
  ⟨ambient 1, .execute (executeArgs "execution-1" (.datetime ⟨clock 5, none⟩))⟩

def timelyVeto : GatewayCall := ⟨ambient 1, .veto (vetoArgs .omitted)⟩

def confirmed : List (Action GatewayCall gatewayInterface) :=
  confirmedActions (ambient 0) .omitted 1767225600

theorem run_confirmed : ∃ (s : GatewayState) (p : PayoutQueueItem)
    (t₀ t₁ : Task GatewayCall gatewayInterface GatewayState HitlError GatewayReturn),
    gatewayRun config .initial confirmed = ⟨s, [t₀, t₁], []⟩ ∧
      s.payout? payoutKey = some p ∧
      p.queued.fields =
        (queueArgs .omitted).itemFields Reference.stdlib (ambient 0) (clock 0) (clock 4) ∧
      p.status = .queued ∧ p.confirmationId ≠ none ∧ s.decisions = .empty := by
  have hqueuedAt : resolveTime Reference.stdlib (ambient 0).now .omitted = .ok (clock 0) := rfl
  have hwindow : checkedInstant (clock 0 + hoursToMicros 4) = .ok (clock 4) := by decide
  have hconfirmedAt : datetimeFromUnix 1767225600 = .ok (clock 0) := by decide
  exact run_confirmedActions (ambient 0) .omitted 1767225600 hqueuedAt hwindow hconfirmedAt

/-- INTERNAL: the veto cancels the payout of `run_confirmed`. -/
theorem advance_timelyVeto {s : GatewayState} {p : PayoutQueueItem}
    (hstored : s.payout? payoutKey = some p)
    (hfields : p.queued.fields =
      (queueArgs .omitted).itemFields Reference.stdlib (ambient 0) (clock 0) (clock 4))
    (hstatus : p.status = .queued) (hdecisions : s.decisions = .empty) :
    ∃ s' p', ((GatewayCall.program config timelyVeto).advance s).2 = s' ∧
      s'.payout? payoutKey = some p' ∧ p'.status = .canceled := by
  have hopen : clock 1 < p.vetoUntil := by
    rw [(queueArgs_ids hfields).2.2.2]
    decide
  obtain ⟨s', p', hstate, hstored', hcanceled⟩ :=
    vetoPayout_vetoArgs (ambient 1) .omitted rfl hstored hstatus hopen hdecisions
  exact ⟨s', p', (snd_advance_map _ _ _).trans hstate, hstored', hcanceled⟩

end Sample

open Sample

/-- A confirmed payout is vetoed in its window; an execution started later leaves it so. -/
theorem gatewayRun_staysVetoed_timelyVeto :
    (∃ p, (gatewayRun config .initial (confirmed ++ [.call timelyVeto])).shared.payout?
      payoutKey = some p ∧ p.status = .canceled) ∧
    StaysVetoed (gatewayRun config .initial (confirmed ++ [.call timelyVeto])).shared
      (gatewayRun config .initial
        ((confirmed ++ [.call timelyVeto]) ++ [.call hastyExecution])).shared := by
  constructor
  · obtain ⟨s, p, t₀, t₁, hrun, hstored, hfields, hstatus, _, hdecisions⟩ := run_confirmed
    obtain ⟨s', p', hstate, hstored', hcanceled⟩ :=
      advance_timelyVeto hstored hfields hstatus hdecisions
    refine ⟨p', ?_, hcanceled⟩
    rw [gatewayRun_append, hrun, Config.run_cons, Config.run_nil, Config.step_call, hstate]
    exact hstored'
  · apply gatewayRun_staysVetoed
    exact ⟨trivial, trivial, trivial, trivial, trivial⟩

/-- The execution was there first, and its copy of the payout knows no veto. -/
theorem executePayout_overwritesVeto : ¬ StaysVetoed
    (gatewayRun config .initial
      (confirmed ++ [.call hastyExecution, .call timelyVeto])).shared
    (gatewayRun config .initial
      ((confirmed ++ [.call hastyExecution, .call timelyVeto]) ++
        [.resume 2 accept, .resume 2 accept, .resume 2 accept])).shared := by
  obtain ⟨s, p, t₀, t₁, hrun, hstored, hfields, hstatus, hconfirmed, hdecisions⟩ :=
    run_confirmed
  obtain ⟨command, k₁, hexecute, _, _, _, hpays⟩ : ∃ command k₁,
      (GatewayCall.program config hastyExecution).advance s =
        (.suspended (.executePayout command) k₁, s) ∧ _ := by
    have hlater : resolveTime Reference.stdlib (ambient 1).now (.datetime ⟨clock 5, none⟩) =
      .ok (clock 5) := by decide
    have hover : clock 4 ≤ clock 5 := by decide
    have hid : tokenPattern "execution-1" = true := by decide
    exact program_executeArgs (ambient 1) (.datetime ⟨clock 5, none⟩) .omitted hlater hstored
      hfields hstatus hconfirmed hover hid
  obtain ⟨s', p', hveto, hstored', hcanceled⟩ :=
    advance_timelyVeto hstored hfields hstatus hdecisions
  have hbefore : gatewayRun config .initial
      (confirmed ++ [.call hastyExecution, .call timelyVeto]) =
        ⟨s', [t₀, t₁, ⟨hastyExecution, .suspended (.executePayout command) k₁⟩,
          ⟨timelyVeto, ((GatewayCall.program config timelyVeto).advance s).1⟩], []⟩ := by
    rw [gatewayRun_append, hrun, Config.run_cons, Config.run_cons, Config.run_nil,
      Config.step_call, Config.step_call]
    simp only [hexecute, hveto, List.cons_append, List.nil_append]
  have hthere : (GatewayState.payout? s' payoutKey).isSome = true := by
    rw [hstored']
    rfl
  intro hstays
  rw [gatewayRun_append config .initial (_ ++ [_, _]), hbefore] at hstays
  obtain ⟨p₃, hp₃, hexecuted⟩ := run_accept
    (c := ⟨s', [t₀, t₁, ⟨hastyExecution, .suspended (.executePayout command) k₁⟩,
      ⟨timelyVeto, ((GatewayCall.program config timelyVeto).advance s).1⟩], []⟩)
    (i := 2) rfl hpays hthere
  obtain ⟨p₄, hp₄, hstill, _⟩ := hstays payoutKey p' hstored' hcanceled
  have hsame := Option.some.inj (hp₃.symm.trans hp₄)
  rw [hsame, hstill] at hexecuted
  cases hexecuted

end MediaCenter.HitlPayout
