import MediaCenter.Analysis.HitlPayout.GatewayEffects
import MediaCenter.Analysis.HitlPayout.VetoFinality

/-!
# Payments in overlapping runs

The payment gateway is idempotent for one execution id only, and `execute_payout` brings a
new id with every call.  A payout is paid twice when a second execution passes the checks
before the first one has written, or after the first one was paid and then failed.
-/

set_option autoImplicit false

namespace MediaCenter.HitlPayout

open MediaCenter.Library MediaCenter.Shared Coroutine

/-- The gateway has accepted the payment. -/
def Accepted (c : GatewayRun) (command : PayoutPaymentCommand) : Prop :=
  ∃ payment, ⟨.executePayout command, .ok payment⟩ ∈ c.answered

/-- The payment is accepted, or may still be. -/
def Live (c : GatewayRun) (command : PayoutPaymentCommand) : Prop :=
  Accepted c command ∨ Config.Awaits c (.executePayout command)

def SamePayout (a b : PayoutPaymentCommand) : Prop :=
  a.fields.tenantId = b.fields.tenantId ∧ a.fields.payoutId = b.fields.payoutId

/-- A payout is paid under one execution id at most. -/
def SinglePayment (c : GatewayRun) : Prop :=
  ∀ a b, Accepted c a → Accepted c b → SamePayout a b →
    a.fields.executionId = b.fields.executionId

variable (cfg : GatewayConfig)

/-- A call, made in the state `s`, passes the checks and sends this payment. -/
def Sends (call : GatewayCall) (s : GatewayState) (command : PayoutPaymentCommand) : Prop :=
  ∃ args requestedAt payout, call.op = .execute args ∧
    resolveTime cfg.py call.env.now args.now = .ok requestedAt ∧
    s.payout? (args.tenantId, args.payoutId) = some payout ∧
    requireExecutable payout requestedAt = .ok () ∧
    payoutPaymentCommand (args.paymentFields call.env payout requestedAt) = .ok command

/-- No execution passes the checks while a payment for the same payout under another id is
accepted or on its way. -/
def NoSecondPayment (c : GatewayRun) : Action GatewayCall gatewayInterface → Prop
  | .call call => ∀ command live, Sends cfg call c.shared command → Live c live →
      SamePayout live command → live.fields.executionId = command.fields.executionId
  | .resume _ _ => True

section Sending

variable {cfg}

/-- INTERNAL: a failed connector call does not turn into a payment. -/
theorem failConnector_ne_pays {α β : Type} {py : Stdlib} {failure : FailureArgs} {e : HitlError}
    {g : α → Gateway β} {s : GatewayState} {command : PayoutPaymentCommand}
    {rest : gatewayInterface.Answer (.executePayout command) → Gateway β} :
    ((failConnector py failure e >>= g).advance s).1 ≠
      .suspended (.executePayout command) rest := by
  intro h
  rw [advance_bind] at h
  unfold failConnector at h
  cases hrecord : auditRecord py (failure.auditArgs py
      (asConnectorError failure.connectorName e)) with
  | error e' =>
      rw [advance_bind, Gateway.recordAudit, advance_update, hrecord] at h
      cases h
  | ok record =>
      rw [advance_recordAudit_bind hrecord, advance_bind, Gateway.publishEvent, advance_bind,
        Gateway.shared] at h
      cases hevent : eventEnvelope (failure.event (asConnectorError failure.connectorName e)
          record.fields.auditHash) with
      | error e' =>
          rw [hevent] at h
          cases h
      | ok event =>
          rw [hevent] at h
          cases h

theorem executePayout_sends {env : Ambient} {args : ExecuteArgs} {s : GatewayState}
    {command : PayoutPaymentCommand}
    {rest : gatewayInterface.Answer (.executePayout command) → Gateway PayoutExecutionReceipt}
    (h : ((executePayout cfg env args).advance s).1 = .suspended (.executePayout command) rest) :
    ∃ requestedAt payout, resolveTime cfg.py env.now args.now = .ok requestedAt ∧
      s.payout? (args.tenantId, args.payoutId) = some payout ∧
      requireExecutable payout requestedAt = .ok () ∧
      payoutPaymentCommand (args.paymentFields env payout requestedAt) = .ok command := by
  unfold executePayout at h
  cases htime : resolveTime cfg.py env.now args.now with
  | error e =>
      rw [htime] at h
      cases h
  | ok requestedAt =>
      rw [advance_shared_bind htime] at h
      cases hstored : s.payout? (args.tenantId, args.payoutId) with
      | none =>
          have hmissing : s.payouts.getPayout args.tenantId args.payoutId =
              .error (.payoutNotFound "Выплата не найдена в очереди tenant") := by
            have hnone : s.payouts.payouts.get? (args.tenantId, args.payoutId) = none := hstored
            unfold PayoutRepository.getPayout
            rw [hnone]
          rw [advance_bind, Gateway.getPayout, advance_inspect, hmissing] at h
          cases h
      | some payout =>
          rw [advance_getPayout_bind hstored] at h
          cases hexecutable : requireExecutable payout requestedAt with
          | error e =>
              rw [hexecutable] at h
              cases h
          | ok u =>
              rw [advance_ofExcept_bind hexecutable] at h
              refine ⟨requestedAt, payout, rfl, rfl, hexecutable, ?_⟩
              cases hcommand : payoutPaymentCommand
                  (args.paymentFields env payout requestedAt) with
              | error e =>
                  unfold payOut at h
                  rw [hcommand] at h
                  exact absurd h failConnector_ne_pays
              | ok command' =>
                  unfold payOut at h
                  rw [hcommand] at h
                  cases h
                  rfl

/-- A call that begins with a payment passed the checks. -/
theorem program_sends {call : GatewayCall} {s : GatewayState} {command : PayoutPaymentCommand}
    {rest : gatewayInterface.Answer (.executePayout command) → Gateway GatewayReturn}
    (h : ((call.program cfg).advance s).1 = .suspended (.executePayout command) rest) :
    Sends cfg call s command := by
  rcases program_cases call with ⟨args, hop, _⟩ | hwithin
  · obtain ⟨env, op⟩ := call
    cases hop
    have hmap := advance_map GatewayReturn.executed (executePayout cfg env args) s
    have hstart : (Pause.andThen (fun a => pure (GatewayReturn.executed a))
        ((executePayout cfg env args).advance s)).1 = .suspended (.executePayout command) rest :=
      (congrArg Prod.fst hmap).symm.trans h
    rcases hadvance : (executePayout cfg env args).advance s with ⟨p, s'⟩
    rw [hadvance] at hstart
    cases p with
    | finished res =>
        cases res with
        | ok receipt => cases hstart
        | error e => cases hstart
    | suspended q k =>
        cases hstart
        obtain ⟨requestedAt, payout, hsends⟩ :=
          executePayout_sends (congrArg Prod.fst hadvance)
        exact ⟨args, requestedAt, payout, rfl, hsends⟩
  · exact absurd rfl ((hwithin.of_suspended (Prod.ext h rfl)).1 command)

/-- Two executions under one state send the same command, if they are the same call. -/
theorem Sends.unique {call : GatewayCall} {s : GatewayState} {a b : PayoutPaymentCommand}
    (ha : Sends cfg call s a) (hb : Sends cfg call s b) : a = b := by
  obtain ⟨args, t, p, hop, ht, hp, _, hcommand⟩ := ha
  obtain ⟨args', t', p', hop', ht', hp', _, hcommand'⟩ := hb
  have hargs := hop.symm.trans hop'
  cases hargs
  have htime := ht.symm.trans ht'
  cases htime
  have hpayout := hp.symm.trans hp'
  cases hpayout
  have hsame := hcommand.symm.trans hcommand'
  cases hsame
  rfl

/-- Where a live payment comes from. -/
theorem live_step {c : GatewayRun} (hc : Config.Settled (fun _ _ => True) AsksNoMoney c)
    {a : Action GatewayCall gatewayInterface} {command : PayoutPaymentCommand}
    (h : Live (Config.step (GatewayCall.program cfg) c a) command) :
    Live c command ∨ ∃ call, a = .call call ∧ Sends cfg call c.shared command := by
  rcases h with ⟨payment, hanswered⟩ | hawaits
  · rcases Config.answered_step hanswered with hbefore | hawaited
    · exact .inl (.inl ⟨payment, hbefore⟩)
    · exact .inl (.inr hawaited)
  · rcases Config.awaits_step hc hawaits with hbefore | hasks | ⟨call, rest, rfl, hstart⟩
    · exact .inl (.inr hbefore)
    · exact absurd rfl (hasks command)
    · exact .inr ⟨call, rfl, program_sends hstart⟩

/-- The invariant: live payments for one payout carry one execution id. -/
structure LiveAgree (c : GatewayRun) : Prop where
  settled : Config.Settled (fun _ _ => True) AsksNoMoney c
  agree : ∀ a b, Live c a → Live c b → SamePayout a b →
    a.fields.executionId = b.fields.executionId

theorem SamePayout.symm {a b : PayoutPaymentCommand} (h : SamePayout a b) : SamePayout b a :=
  ⟨h.1.symm, h.2.symm⟩

theorem LiveAgree.step {c : GatewayRun} {a : Action GatewayCall gatewayInterface}
    (ha : NoSecondPayment cfg c a) (hc : LiveAgree c) :
    LiveAgree (Config.step (GatewayCall.program cfg) c a) where
  settled := hc.settled.step program_afterFirst a
  agree := by
    intro x y hx hy hsame
    rcases live_step hc.settled hx with hxLive | ⟨call, rfl, hxSent⟩
    · rcases live_step hc.settled hy with hyLive | ⟨call, rfl, hySent⟩
      · exact hc.agree x y hxLive hyLive hsame
      · exact ha y x hySent hxLive hsame
    · rcases live_step hc.settled hy with hyLive | ⟨call', hcall, hySent⟩
      · exact (ha x y hxSent hyLive hsame.symm).symm
      · cases hcall
        rw [hxSent.unique hySent]

end Sending

theorem liveAgree_initial (s : GatewayState) : LiveAgree (.initial s) where
  settled := Config.settled_initial _ _ s
  agree := by
    rintro a b (⟨payment, ha⟩ | ⟨t, ht, _⟩)
    · cases ha
    · cases ht

/-- **One payment for a payout**, in every overlapping run in which no execution is let
through while another payment for its payout is live. -/
theorem gatewayRun_singlePayment (s : GatewayState)
    (actions : List (Action GatewayCall gatewayInterface))
    (h : GatewayEveryStep cfg (NoSecondPayment cfg) s actions) :
    SinglePayment (gatewayRun cfg s actions) := by
  have hagree : LiveAgree (gatewayRun cfg s actions) :=
    Config.run_induction (fun _ _ ha hc => hc.step ha) _ actions h (liveAgree_initial s)
  intro a b ha hb hsame
  exact hagree.agree a b (.inl ha) (.inl hb) hsame

namespace Sample

/-- An execution after the veto window. -/
def lateExecution (executionId : String) : GatewayCall :=
  ⟨ambient 5, .execute (executeArgs executionId .omitted)⟩

theorem advance_lateExecution {s : GatewayState} {p : PayoutQueueItem} {executionId : String}
    (hstored : s.payout? payoutKey = some p)
    (hfields : p.queued.fields =
      (queueArgs .omitted).itemFields Reference.stdlib (ambient 0) (clock 0) (clock 4))
    (hstatus : p.status = .queued) (hconfirmed : p.confirmationId ≠ none)
    (hid : tokenPattern executionId = true) :
    ∃ command k₁, (GatewayCall.program config (lateExecution executionId)).advance s =
        (.suspended (.executePayout command) k₁, s) ∧
      command.fields.tenantId = "media-center" ∧ command.fields.payoutId = "payout-1" ∧
      command.fields.executionId = executionId := by
  have hover : clock 4 ≤ clock 5 := by decide
  obtain ⟨command, k₁, hadvance, htenant, hpayout, hexecution, _⟩ := program_executeArgs
    (ambient 5) .omitted .omitted (t := clock 5) rfl hstored hfields hstatus hconfirmed hover hid
  exact ⟨command, k₁, hadvance, htenant, hpayout, hexecution⟩

/-- INTERNAL: queueing and confirming send no payment. -/
theorem not_live_confirmed (command : PayoutPaymentCommand) :
    ¬ Live (gatewayRun config .initial confirmed) command := by
  rw [gatewayRun, confirmed, confirmedActions, Config.run_cons, Config.run_cons, Config.run_nil]
  intro h
  have hsettled₀ : Config.Settled (fun _ _ => True) AsksNoMoney (.initial GatewayState.initial : GatewayRun) :=
    Config.settled_initial _ _ _
  have hprogram : ∀ call, (GatewayCall.program config call).AfterFirst (fun _ _ => True)
    AsksNoMoney := fun call => program_afterFirst call
  have hsettled₁ := hsettled₀.step hprogram (.call ⟨ambient 0, .queue (queueArgs .omitted)⟩)
  rcases live_step hsettled₁ h with h | ⟨call, hcall, args, _, _, hop, _⟩
  · rcases live_step hsettled₀ h with h | ⟨call, hcall, args, _, _, hop, _⟩
    · rcases h with ⟨payment, ha⟩ | ⟨t, ht, _⟩
      · cases ha
      · cases ht
    · cases hcall
      cases hop
  · cases hcall
    cases hop

end Sample

open Sample

/-- One execution on its own pays once. -/
theorem gatewayRun_singlePayment_late :
    (∃ command, Accepted (gatewayRun config .initial
      (confirmed ++ [.call (lateExecution "execution-1"), .resume 2 accept])) command) ∧
    SinglePayment (gatewayRun config .initial
      (confirmed ++ [.call (lateExecution "execution-1"), .resume 2 accept])) := by
  constructor
  · obtain ⟨s, p, t₀, t₁, hrun, hstored, hfields, hstatus, hconfirmed, _⟩ := run_confirmed
    have hid : tokenPattern "execution-1" = true := by decide
    obtain ⟨command, k₁, hstart, _⟩ :=
      advance_lateExecution hstored hfields hstatus hconfirmed hid
    refine ⟨command, payment, ?_⟩
    rw [gatewayRun_append, hrun, Config.run_cons, Config.run_cons, Config.run_nil,
      Config.step_call]
    simp only [hstart, List.cons_append, List.nil_append]
    exact List.mem_singleton_self _
  · apply gatewayRun_singlePayment
    refine (Config.everyStep_append_iff _ _ _).mpr ⟨⟨?_, ?_, trivial⟩, ?_, trivial, trivial⟩
    · rintro command live ⟨args, _, _, hop, _⟩
      cases hop
    · rintro command live ⟨args, _, _, hop, _⟩
      cases hop
    · intro command live _ hlive
      exact absurd hlive (not_live_confirmed live)

/-- Two executions overlap, and the gateway accepts both. -/
theorem executePayout_paysTwice : ¬ SinglePayment (gatewayRun config .initial
    (confirmed ++ [.call (lateExecution "execution-1"), .call (lateExecution "execution-2"),
      .resume 2 accept, .resume 3 accept])) := by
  obtain ⟨s, p, t₀, t₁, hrun, hstored, hfields, hstatus, hconfirmed, _⟩ := run_confirmed
  have hid₁ : tokenPattern "execution-1" = true := by decide
  have hid₂ : tokenPattern "execution-2" = true := by decide
  obtain ⟨command₁, k₁, hstart₁, htenant₁, hpayout₁, hexecution₁⟩ :=
    advance_lateExecution hstored hfields hstatus hconfirmed hid₁
  obtain ⟨command₂, k₂, hstart₂, htenant₂, hpayout₂, hexecution₂⟩ :=
    advance_lateExecution hstored hfields hstatus hconfirmed hid₂
  have hanswered : (gatewayRun config .initial
      (confirmed ++ [.call (lateExecution "execution-1"), .call (lateExecution "execution-2"),
        .resume 2 accept, .resume 3 accept])).answered =
      [⟨.executePayout command₁, .ok payment⟩, ⟨.executePayout command₂, .ok payment⟩] := by
    rw [gatewayRun_append, hrun, Config.run_cons, Config.run_cons, Config.run_cons,
      Config.run_cons, Config.run_nil, Config.step_call, Config.step_call]
    simp only [hstart₁, hstart₂, List.cons_append, List.nil_append]
    rfl
  intro hsingle
  have hsame := hsingle command₁ command₂ ⟨payment, by simp [hanswered]⟩
    ⟨payment, by simp [hanswered]⟩
    ⟨htenant₁.trans htenant₂.symm, hpayout₁.trans hpayout₂.symm⟩
  rw [hexecution₁, hexecution₂] at hsame
  exact absurd hsame (by decide)

end MediaCenter.HitlPayout
