import MediaCenter.Analysis.HitlPayout.CompleteCalls
import MediaCenter.Analysis.HitlPayout.GatewayEffects

/-!
# Failing calls

The audit record of a decision is written first.  Whatever is refused after it leaves the
record behind, and with a refused event the writes as well.  `Settles` is the condition
under which a call that raises changes nothing.
-/

set_option autoImplicit false

namespace MediaCenter.HitlPayout

open MediaCenter.Library MediaCenter.Shared Coroutine

/-! ## Calls that begin in one of the three ways -/

section Starts

variable {α : Type} {s : GatewayState} {audited : AuditLogRecord → Prop}
  {ready : AuditLogRecord → EventEnvelope → α → GatewayState → Prop} {x : Gateway α}

/-- If a record is written, everything after it passes, and the event is published. -/
def Passes (audited : AuditLogRecord → Prop)
    (ready : AuditLogRecord → EventEnvelope → α → GatewayState → Prop) (answers : Answers) :
    Prop :=
  (∃ record, audited record) →
    ∃ record event a s', ready record event a s' ∧ answers 0 (.publish event) = .ok ()

/-- INTERNAL: one more record makes another log. -/
theorem ne_of_auditLog {s s' : GatewayState} {record : AuditLogRecord}
    (h : s'.auditLog = s.auditLog ++ [record]) : s' ≠ s := by
  intro hsame
  rw [hsame] at h
  have hlength := congrArg List.length h
  rw [List.length_append] at hlength
  simp at hlength

theorem Starts.allOrNothing_iff (h : Starts s audited ready (x.advance s))
    (hunique : ∀ record event a s' record' event' a' s'', ready record event a s' →
      ready record' event' a' s'' → event = event') (answers : Answers) :
    (∀ e, (x.complete answers s).1 = .error e → (x.complete answers s).2 = s) ↔
      Passes audited ready answers := by
  rw [complete_eq]
  generalize x.advance s = start at h
  cases h with
  | refused e hnone =>
      constructor
      · rintro _ ⟨record, haudited⟩
        exact absurd haudited (hnone record)
      · intro _ _ _
        rfl
  | stopped e record s' haudited hnot hlog =>
      constructor
      · intro hkeeps
        exact absurd (hkeeps e rfl) (ne_of_auditLog hlog)
      · intro hpasses
        obtain ⟨record', event, a, s'', hready, _⟩ := hpasses ⟨record, haudited⟩
        exact absurd hready (hnot record' event a s'')
  | published record event a s' rest haudited hready hlog haccepted hrefused =>
      have hrest : ∀ answer, answers 0 (.publish event) = answer →
          ((rest (answers 0 (.publish event))).complete (fun n => answers (n + 1)) s') =
            (answer.map fun _ => a, s') := by
        intro answer hanswer
        rw [hanswer, complete_eq]
        cases answer with
        | ok u =>
            rw [haccepted]
            rfl
        | error e =>
            rw [hrefused]
            rfl
      show (∀ e, ((rest (answers 0 (.publish event))).complete _ s').1 = .error e →
        ((rest (answers 0 (.publish event))).complete _ s').2 = s) ↔ _
      rw [hrest _ rfl]
      constructor
      · intro hkeeps _
        refine ⟨record, event, a, s', hready, ?_⟩
        cases hanswer : answers 0 (.publish event) with
        | ok u => rfl
        | error e =>
            rw [hanswer] at hkeeps
            exact absurd (hkeeps e rfl) (ne_of_auditLog hlog)
      · intro hpasses e he
        obtain ⟨record', event', a', s'', hready', hpublished⟩ := hpasses ⟨record, haudited⟩
        have hevent := hunique _ _ _ _ _ _ _ _ hready hready'
        rw [hevent, hpublished] at he
        cases he

end Starts

/-! ## The three operations -/

/-- The operations that queue, veto or confirm. -/
inductive HitlOp : Type where
  | queue (args : QueueArgs)
  | veto (args : VetoArgs)
  | confirm (args : ConfirmArgs)

namespace HitlOp

def toOp : HitlOp → GatewayOp
  | queue args => .queue args
  | veto args => .veto args
  | confirm args => .confirm args

/-- What the audit trail says of the operation: event type, tenant and payout. -/
def entry (env : Ambient) : HitlOp → String × String × String
  | queue args => (payoutQueuedEvent, args.tenantId, args.resolvedPayoutId env)
  | veto args => (payoutVetoedEvent, args.tenantId, args.payoutId)
  | confirm args => (payoutConfirmedEvent, args.tenantId, args.payoutId)

/-- If the audit record is written, the checks after it pass: the new item, decision or
confirmation is valid, its id is unused, the event envelope is accepted and published. -/
def Settles (cfg : GatewayConfig) (env : Ambient) (answers : Answers) (s : GatewayState) :
    HitlOp → Prop
  | queue args => Passes (queueAudited cfg env args) (queueReady cfg env args s) answers
  | veto args => Passes (vetoAudited cfg env args s) (vetoReady cfg env args s) answers
  | confirm args =>
      Passes (confirmAudited cfg env args s) (confirmReady cfg env args s) answers

end HitlOp

/-- A call that raises leaves every store and the audit log as they were. -/
def AllOrNothing (cfg : GatewayConfig) (c : CompleteCall) (s : GatewayState) : Prop :=
  ∀ e, c.result cfg s = .error e → c.step cfg s = s

section Operations

variable (cfg : GatewayConfig) (env : Ambient) (answers : Answers) (s : GatewayState)

/-- INTERNAL: wrapping the result changes nothing here. -/
theorem map_allOrNothing_iff {α β : Type} (f : α → β) (x : Gateway α) :
    (∀ e, ((f <$> x).complete answers s).1 = .error e →
      ((f <$> x).complete answers s).2 = s) ↔
    ∀ e, (x.complete answers s).1 = .error e → (x.complete answers s).2 = s := by
  rw [complete_map]
  constructor
  · intro h e he
    apply h e
    rw [he]
    rfl
  · intro h e he
    cases hx : (x.complete answers s).1 with
    | ok a =>
        rw [hx] at he
        cases he
    | error e' => exact h e' hx

theorem hitlOp_allOrNothing_iff (op : HitlOp) :
    AllOrNothing cfg ⟨⟨env, op.toOp⟩, answers⟩ s ↔ op.Settles cfg env answers s := by
  cases op with
  | queue args =>
      refine (map_allOrNothing_iff answers s _ (queuePayout cfg env args)).trans ?_
      apply (queuePayout_starts s).allOrNothing_iff
      rintro r event a s' r' event' a' s'' ⟨t, v, p, haudited, hready, _⟩
        ⟨t', v', p', haudited', hready', _⟩
      obtain ⟨rfl, rfl, rfl⟩ := haudited.unique haudited'
      exact (hready.unique hready').2
  | veto args =>
      refine (map_allOrNothing_iff answers s _ (vetoPayout cfg env args)).trans ?_
      apply (vetoPayout_starts s).allOrNothing_iff
      rintro r event a s' r' event' a' s'' ⟨t, p, haudited, hready, _⟩
        ⟨t', p', haudited', hready', _⟩
      obtain ⟨rfl, rfl, rfl⟩ := haudited.unique haudited'
      exact (hready.unique hready').2
  | confirm args =>
      refine (map_allOrNothing_iff answers s _ (confirmPayout cfg env args)).trans ?_
      apply (confirmPayout_starts s).allOrNothing_iff
      rintro r event a s' r' event' a' s'' ⟨p, basis, haudited, hready, _⟩
        ⟨p', basis', haudited', hready', _⟩
      obtain ⟨rfl, rfl, rfl⟩ := haudited.unique haudited'
      exact (hready.unique hready').2

end Operations

/-! ## The audit trail -/

def hitlEvents : List String := [payoutQueuedEvent, payoutVetoedEvent, payoutConfirmedEvent]

/-- `payout_id` of the metadata of a record. -/
def recordedPayoutId (metadata : JSONObject) : String :=
  match metadata.lookup "payout_id" with
  | some (.str payoutId) => payoutId
  | _ => ""

/-- The entries for queued, vetoed and confirmed payouts, oldest first. -/
def hitlTrail (log : List AuditLogRecord) : List (String × String × String) :=
  (log.filter fun r => hitlEvents.contains r.fields.eventType).map fun r =>
    (r.fields.eventType, r.fields.tenantId, recordedPayoutId r.fields.metadata)

/-- The log may grow, but not by entries of the three kinds. -/
def SameTrail (s s' : GatewayState) : Prop := hitlTrail s'.auditLog = hitlTrail s.auditLog

theorem SameTrail.refl (s : GatewayState) : SameTrail s s := rfl

theorem SameTrail.trans (s s' s'' : GatewayState) (h : SameTrail s s')
    (h' : SameTrail s' s'') : SameTrail s s'' :=
  Eq.trans h' h

/-- The operation, if it is one of the three. -/
def HitlOp.ofOp : GatewayOp → Option HitlOp
  | .queue args => some (.queue args)
  | .veto args => some (.veto args)
  | .confirm args => some (.confirm args)
  | _ => none

/-- The entry a complete call should leave: one if it returns, none if it raises. -/
def CompleteCall.entry (cfg : GatewayConfig) (c : CompleteCall) (s : GatewayState) :
    Option (String × String × String) :=
  match c.result cfg s with
  | .ok _ => (HitlOp.ofOp c.call.op).map (HitlOp.entry c.call.env)
  | .error _ => none

/-- The entries of a run, call by call. -/
def CompleteCall.entries (cfg : GatewayConfig) :
    GatewayState → List CompleteCall → List (String × String × String)
  | _, [] => []
  | s, c :: calls => (c.entry cfg s).toList ++ entries cfg (c.step cfg s) calls

section Trail

variable {cfg : GatewayConfig} {env : Ambient} {answers : Answers} {s : GatewayState}

end Trail

/-! ## Runs -/

section Runs

variable (cfg : GatewayConfig)

theorem HitlOp.toOp_of_ofOp {op : GatewayOp} {op' : HitlOp} (h : ofOp op = some op') :
    op'.toOp = op := by
  cases op with
  | queue args =>
      cases h
      rfl
  | veto args =>
      cases h
      rfl
  | confirm args =>
      cases h
      rfl
  | markReady args => cases h
  | execute args => cases h
  | sync args => cases h

theorem CompleteCall.allOrNothing_iff {c : CompleteCall} {op : HitlOp} (s : GatewayState)
    (h : HitlOp.ofOp c.call.op = some op) :
    AllOrNothing cfg c s ↔ op.Settles cfg c.call.env c.answers s := by
  obtain ⟨⟨env, op'⟩, answers⟩ := c
  have hop : op.toOp = op' := HitlOp.toOp_of_ofOp h
  subst hop
  exact hitlOp_allOrNothing_iff cfg env answers s op

end Runs

end MediaCenter.HitlPayout
