import Mathlib.Data.Finset.Basic
import MediaCenter.Library.Interleaving
import MediaCenter.Model.Shared.Events

/-!
# Idempotent event processing (`libs/shared/events.py`)

A processor begins an event, runs its handler, and marks the event completed, or releases it
when the handler raises an `Exception`.  A cancelled handler raises `CancelledError`, which is
a `BaseException` only.  The store does not suspend: other calls run during a handler alone.
-/

set_option autoImplicit false

namespace MediaCenter.Shared

open MediaCenter.Library Coroutine

/-- What a call may raise: an `Exception`, or `asyncio.CancelledError`. -/
inductive BaseException : Type where
  | exception (e : SharedException)
  | cancelled
  deriving DecidableEq

structure InMemoryEventIdempotencyStore where
  inProgress : Finset String
  completed : Finset String

namespace InMemoryEventIdempotencyStore

def empty : InMemoryEventIdempotencyStore := ⟨∅, ∅⟩

/-- `begin`. -/
def begin (eventId : String) (store : InMemoryEventIdempotencyStore) :
    Except SharedException (Bool × InMemoryEventIdempotencyStore) := do
  let normalizedEventId ← normalizeToken eventId "event_id"
  if normalizedEventId ∈ store.completed ∨ normalizedEventId ∈ store.inProgress then
    return (false, store)
  else
    return (true, { store with inProgress := insert normalizedEventId store.inProgress })

/-- `complete`. -/
def complete (eventId : String) (store : InMemoryEventIdempotencyStore) :
    Except SharedException (Unit × InMemoryEventIdempotencyStore) := do
  let normalizedEventId ← normalizeToken eventId "event_id"
  return ((), ⟨store.inProgress.erase normalizedEventId,
    insert normalizedEventId store.completed⟩)

/-- `fail`. -/
def fail (eventId : String) (store : InMemoryEventIdempotencyStore) :
    Except SharedException (Unit × InMemoryEventIdempotencyStore) := do
  let normalizedEventId ← normalizeToken eventId "event_id"
  return ((), { store with inProgress := store.inProgress.erase normalizedEventId })

end InMemoryEventIdempotencyStore

/-- A processor awaits its handler, which is given the envelope. -/
abbrev handlerInterface : Interface :=
  Interface.fallible EventEnvelope BaseException fun _ => Unit

abbrev EventProgram : Type → Type :=
  Coroutine handlerInterface InMemoryEventIdempotencyStore BaseException

/-- An operation of the store. -/
def stored {α : Type} (operation : InMemoryEventIdempotencyStore →
    Except SharedException (α × InMemoryEventIdempotencyStore)) : EventProgram α :=
  update fun store => (operation store).mapError .exception

namespace IdempotentEventProcessor

/-- `except Exception`: a cancellation is not caught. -/
def releaseAfter (envelope : EventEnvelope) : BaseException → EventProgram Unit
  | .exception e => do
      stored (InMemoryEventIdempotencyStore.fail envelope.eventId)
      throw (.exception e)
  | .cancelled => throw .cancelled

/-- `handle`. -/
def handle (envelope : EventEnvelope) : EventProgram Bool := do
  let started ← stored (InMemoryEventIdempotencyStore.begin envelope.eventId)
  if started = true then
    tryCatch (attempt envelope) (releaseAfter envelope)
    stored (InMemoryEventIdempotencyStore.complete envelope.eventId)
    return true
  else
    return false

end IdempotentEventProcessor

end MediaCenter.Shared
