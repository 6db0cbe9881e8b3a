import MediaCenter.Library.Interleaving
import MediaCenter.Model.HitlPayout.VetoManager
import MediaCenter.Model.HitlPayout.ConfirmationManager
import MediaCenter.Model.HitlPayout.ExecutionManager

/-!
# The managers as one service

The six operations over one shared state: as a program for every call, for runs that
overlap at the awaits, and as a step from state to state, for calls made one after another.
-/

set_option autoImplicit false

namespace MediaCenter.HitlPayout

open MediaCenter.Library MediaCenter.Shared

inductive GatewayOp : Type where
  | queue (args : QueueArgs)
  | confirm (args : ConfirmArgs)
  | veto (args : VetoArgs)
  | markReady (args : MarkReadyArgs)
  | execute (args : ExecuteArgs)
  | sync (args : SyncArgs)

/-- One call: the operation, and what it reads from outside. -/
structure GatewayCall where
  env : Ambient
  op : GatewayOp

inductive GatewayReturn : Type where
  | queued (payout : PayoutQueueItem) (event : EventEnvelope)
  | confirmed (confirmation : PayoutConfirmation)
  | vetoed (decision : VetoDecision)
  | ready (payout : PayoutQueueItem)
  | executed (receipt : PayoutExecutionReceipt)
  | synced (receipt : PayoutPaymentStatusReceipt)

def GatewayCall.program (cfg : GatewayConfig) (call : GatewayCall) : Gateway GatewayReturn :=
  match call.op with
  | .queue args => (fun r => .queued r.1 r.2) <$> queuePayout cfg call.env args
  | .confirm args => .confirmed <$> confirmPayout cfg call.env args
  | .veto args => .vetoed <$> vetoPayout cfg call.env args
  | .markReady args => .ready <$> markReadyForExecution cfg call.env args
  | .execute args => .executed <$> executePayout cfg call.env args
  | .sync args => .synced <$> syncPaymentStatus cfg call.env args

/-- How the connectors and the publisher answer the requests of one call, in order. -/
abbrev Answers : Type := ℕ → ∀ q, gatewayInterface.Answer q

/-- A call that runs to its end before anything else happens. -/
structure CompleteCall where
  call : GatewayCall
  answers : Answers

namespace CompleteCall

def result (cfg : GatewayConfig) (c : CompleteCall) (s : GatewayState) :
    Except HitlError GatewayReturn :=
  ((c.call.program cfg).complete c.answers s).1

def step (cfg : GatewayConfig) (s : GatewayState) (c : CompleteCall) : GatewayState :=
  ((c.call.program cfg).complete c.answers s).2

/-- The state after a sequence of complete calls, successful or failing. -/
def run (cfg : GatewayConfig) (s : GatewayState) (calls : List CompleteCall) :
    GatewayState :=
  calls.foldl (step cfg) s

end CompleteCall

abbrev GatewayRun : Type := Config GatewayCall gatewayInterface GatewayState HitlError
  GatewayReturn

end MediaCenter.HitlPayout
