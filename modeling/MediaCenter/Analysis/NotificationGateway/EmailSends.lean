import MediaCenter.Model.NotificationGateway.EmailDelivery
import MediaCenter.Model.Shared.Reference

/-!
# How often an email is sent

`try_send` works on the message it is given and writes the whole record back.  A message is sent
once, and its record agrees with the adapter's answers, as long as no call is given an outdated
or a sent message, or one that another call is sending.
-/

set_option autoImplicit false

namespace MediaCenter.NotificationGateway

open MediaCenter.Library MediaCenter.Shared

abbrev EmailConfig : Type :=
  Config EmailCall emailInterface Outbox SharedException (Option EmailOutboxMessage)

abbrev EmailAction : Type := Action EmailCall emailInterface

/-! ## What is counted -/

/-- The message that a command sends. -/
def commandKey (command : EmailProviderSendCommand) : String × String :=
  (command.fields.tenantId, command.fields.messageId)

def succeeded : Except SendFailure EmailProviderResult → Bool
  | .ok _ => true
  | .error _ => false

/-- The sends of a message that the adapter has answered. -/
def sends (c : EmailConfig) (key : String × String) : ℕ :=
  c.answered.countP fun x => decide (commandKey x.1 = key)

/-- The sends of a message that the adapter has completed. -/
def completions (c : EmailConfig) (key : String × String) : ℕ :=
  c.answered.countP fun x => decide (commandKey x.1 = key) && succeeded x.2

theorem completions_le_sends (c : EmailConfig) (key : String × String) :
    completions c key ≤ sends c key := by
  unfold completions sends
  apply List.countP_mono_left
  intro x _ hx
  rw [Bool.and_eq_true] at hx
  exact hx.1

/-! ## One call -/

theorem key_updatedMessage (message : EmailOutboxMessage) (status : EmailOutboxStatus)
    (route : Option EmailProviderRoute) (attemptCount : Option ℕ)
    (providerRefHash lastErrorCode : Option String) (updatedAt : Instant) :
    (updatedMessage message status route attemptCount providerRefHash lastErrorCode
      updatedAt).key = message.key := by
  unfold updatedMessage EmailOutboxMessage.key
  cases route <;> cases providerRefHash <;> rfl

theorem status_updatedMessage (message : EmailOutboxMessage) (status : EmailOutboxStatus)
    (route : Option EmailProviderRoute) (attemptCount : Option ℕ)
    (providerRefHash lastErrorCode : Option String) (updatedAt : Instant) :
    (updatedMessage message status route attemptCount providerRefHash lastErrorCode
      updatedAt).status = status := by
  unfold updatedMessage
  cases route <;> cases providerRefHash <;> rfl

theorem attemptCount_updatedMessage (message : EmailOutboxMessage) (status : EmailOutboxStatus)
    (route : Option EmailProviderRoute) (attemptCount : Option ℕ)
    (providerRefHash lastErrorCode : Option String) (updatedAt : Instant) :
    (updatedMessage message status route attemptCount providerRefHash lastErrorCode
      updatedAt).attemptCount = attemptCount.getD message.attemptCount := by
  unfold updatedMessage
  cases route <;> cases providerRefHash <;> rfl

/-- Something would be sent: there is an address, a route for it, and an adapter. -/
def Sendable (adapters : List String) (outbox : Outbox) (message : EmailOutboxMessage) : Prop :=
  message.toAddress.isSome = true ∧
    ∃ route, outbox.resolveRoute message.tenantId message.purpose = some route ∧
      adapters.contains route.fields.providerName = true

/-- Where `try_send` is up to its first await. -/
inductive SendStep (py : Stdlib) (adapters : List String) (now : Instant)
    (message : EmailOutboxMessage) (outbox : Outbox) :
    Coroutine.Pause emailInterface Outbox SharedException (Option EmailOutboxMessage) × Outbox →
      Prop where
  | deferred {stored : EmailOutboxMessage} (hkey : stored.key = message.key)
      (hstatus : stored.status = .deferred)
      (hcount : stored.attemptCount = message.attemptCount) :
      SendStep py adapters now message outbox
        (.finished (.ok (some stored)), outbox.saveMessage stored)
  | refused (e : SharedException) :
      SendStep py adapters now message outbox (.finished (.error e), outbox)
  | sending {command : EmailProviderSendCommand} {route : EmailProviderRoute}
      (hkey : commandKey command = message.key) (hsendable : Sendable adapters outbox message) :
      SendStep py adapters now message outbox
        (.suspended command fun answer =>
          updateMessage (settledMessage py now message route answer), outbox)

theorem advance_updateMessage (message : EmailOutboxMessage) (outbox : Outbox) :
    (updateMessage message).advance outbox =
      (.finished (.ok (some message)), outbox.saveMessage message) := rfl

/-- INTERNAL: a deferred message is stored, its attempts unchanged. -/
theorem sendStep_deferred (py : Stdlib) (adapters : List String) (now : Instant)
    (message : EmailOutboxMessage) (outbox : Outbox) (route : Option EmailProviderRoute)
    (reason : String) :
    SendStep py adapters now message outbox ((updateMessage (updatedMessage message .deferred
      route none none (some reason) now)).advance outbox) := by
  rw [advance_updateMessage]
  apply SendStep.deferred
  · exact key_updatedMessage message .deferred route none none (some reason) now
  · exact status_updatedMessage message .deferred route none none (some reason) now
  · exact attemptCount_updatedMessage message .deferred route none none (some reason) now

theorem sendStep_trySend (py : Stdlib) (adapters : List String) (now : Instant)
    (message : EmailOutboxMessage) (outbox : Outbox) :
    SendStep py adapters now message outbox
      ((trySend py adapters now message).advance outbox) := by
  unfold trySend
  cases haddress : message.toAddress with
  | none => exact sendStep_deferred py adapters now message outbox none _
  | some toAddress =>
      simp only
      rw [Coroutine.advance_inspect_bind]
      cases hroute : outbox.resolveRoute message.tenantId message.purpose with
      | none => exact sendStep_deferred py adapters now message outbox none _
      | some route =>
          simp only
          by_cases hadapter : adapters.contains route.fields.providerName = true
          · rw [if_pos hadapter, Coroutine.advance_ofExcept_bind]
            cases hcommand : Validated.make "EmailProviderSendCommand" SendCommandFields.checks
                (sendCommand message route toAddress) with
            | error e => exact .refused e
            | ok command =>
                rw [Validated.make_eq_ok_iff] at hcommand
                have hkey : commandKey command = message.key := by
                  unfold commandKey
                  rw [hcommand]
                  rfl
                exact SendStep.sending hkey ⟨by rw [haddress]; rfl, route, hroute, hadapter⟩
          · rw [if_neg hadapter]
            exact sendStep_deferred py adapters now message outbox (some route) _

/-- INTERNAL: a message is queued by storing it and trying to send it. -/
theorem advance_queueFromNotification (py : Stdlib) (adapters : List String)
    (command : NotificationEmailCommand) (purpose : String) (uuid : Uuid4) (now : Instant)
    (outbox : Outbox) :
    (∃ e, (queueFromNotification py adapters command purpose uuid now).advance outbox =
      (.finished (.error e), outbox)) ∨
    ∃ normalizedPurpose,
      (queueFromNotification py adapters command purpose uuid now).advance outbox =
        (trySend py adapters now (queuedMessage py command normalizedPurpose uuid)).advance
          (outbox.saveMessage (queuedMessage py command normalizedPurpose uuid)) := by
  unfold queueFromNotification
  rw [Coroutine.advance_ofExcept_bind]
  cases EmailMessagePurpose.parse (py.lower (Text.strip purpose)) with
  | error e => exact .inl ⟨e, rfl⟩
  | ok normalizedPurpose =>
      simp only
      rw [Coroutine.advance_ofExcept_bind]
      cases hchecked : Validated.make "EmailOutboxMessage" EmailOutboxMessage.checks
          (queuedMessage py command normalizedPurpose uuid) with
      | error e => exact .inl ⟨e, rfl⟩
      | ok checked =>
          rw [Validated.make_eq_ok_iff] at hchecked
          refine .inr ⟨normalizedPurpose, ?_⟩
          simp only
          rw [Coroutine.advance_bind, advance_updateMessage, hchecked]
          rfl

/-- What the adapter's answer makes of a message. -/
theorem settledMessage_spec (py : Stdlib) (now : Instant) (message : EmailOutboxMessage)
    (route : EmailProviderRoute) (answer : Except SendFailure EmailProviderResult) :
    (settledMessage py now message route answer).key = message.key ∧
      (settledMessage py now message route answer).attemptCount = message.attemptCount + 1 ∧
      ((settledMessage py now message route answer).status = .sent ↔
        succeeded answer = true) := by
  cases answer with
  | ok result =>
      refine ⟨key_updatedMessage _ _ _ _ _ _ _, attemptCount_updatedMessage _ _ _ _ _ _ _, ?_⟩
      unfold settledMessage
      rw [status_updatedMessage]
      simp [succeeded]
  | error failure =>
      cases failure with
      | emailDeliveryError errorCode =>
          refine ⟨key_updatedMessage _ _ _ _ _ _ _, attemptCount_updatedMessage _ _ _ _ _ _ _,
            ?_⟩
          unfold settledMessage
          rw [status_updatedMessage]
          simp [succeeded]
      | other =>
          refine ⟨key_updatedMessage _ _ _ _ _ _ _, attemptCount_updatedMessage _ _ _ _ _ _ _,
            ?_⟩
          unfold settledMessage
          rw [status_updatedMessage]
          simp [succeeded]

/-! ## The invariant -/

/-- The `i`-th call is sending a message, of which it holds a copy with `count` attempts. -/
def IsSending (py : Stdlib) (c : EmailConfig) (i : ℕ) (command : EmailProviderSendCommand)
    (count : ℕ) : Prop :=
  ∃ call now message route,
    c.tasks[i]? = some ⟨call, .suspended command fun answer =>
      updateMessage (settledMessage py now message route answer)⟩ ∧
    message.key = commandKey command ∧ message.attemptCount = count

structure Accounted (py : Stdlib) (c : EmailConfig) : Prop where
  counted : ∀ key m, c.shared.messages.get? key = some m → m.attemptCount = sends c key
  unknown : ∀ key, c.shared.messages.get? key = none → sends c key = 0
  /-- What is not marked as sent has never been sent. -/
  unsent : ∀ key m, c.shared.messages.get? key = some m → m.status ≠ .sent →
    completions c key = 0
  once : ∀ key, completions c key ≤ 1
  /-- A message that is being sent is not marked as sent, and its attempts are those of the
  copy. -/
  sending : ∀ i command, c.pending i = some command →
    ∃ m, c.shared.messages.get? (commandKey command) = some m ∧ m.status ≠ .sent ∧
      IsSending py c i command m.attemptCount
  alone : ∀ i j command command', c.pending i = some command → c.pending j = some command' →
    commandKey command = commandKey command' → i = j

theorem accounted_initial (py : Stdlib) : Accounted py (Config.initial Outbox.initial) where
  counted := by
    intro key m hm
    cases hm
  unknown _ _ := rfl
  unsent := by
    intro key m hm
    cases hm
  once _ := Nat.zero_le 1
  sending := by
    intro i command hpending
    cases hpending
  alone := by
    intro i j command command' hpending
    cases hpending

theorem get?_saveMessage (outbox : Outbox) (message : EmailOutboxMessage)
    (key : String × String) : (outbox.saveMessage message).messages.get? key =
      if key = message.key then some message else outbox.messages.get? key := by
  unfold Outbox.saveMessage
  exact Dict.get?_set outbox.messages message.key key message

/-! ## What a step keeps -/

section Steps

variable {py : Stdlib} {c : EmailConfig}

/-- INTERNAL: a stored copy that is not marked as sent may be replaced by another with the same
attempts, and a new message may be stored. -/
theorem Accounted.save (h : Accounted py c) {stored : EmailOutboxMessage}
    (hstatus : stored.status ≠ .sent)
    (hbefore : (∃ m, c.shared.messages.get? stored.key = some m ∧ m.status ≠ .sent ∧
      m.attemptCount = stored.attemptCount) ∨
      (c.shared.messages.get? stored.key = none ∧ stored.attemptCount = 0)) :
    Accounted py ⟨c.shared.saveMessage stored, c.tasks, c.answered⟩ := by
  have hcount : stored.attemptCount = sends c stored.key := by
    rcases hbefore with ⟨m, hm, _, hattempts⟩ | ⟨hnone, hzero⟩
    · rw [← hattempts]
      exact h.counted _ _ hm
    · rw [hzero, h.unknown _ hnone]
  have hunsent : completions c stored.key = 0 := by
    rcases hbefore with ⟨m, hm, hnot, _⟩ | ⟨hnone, _⟩
    · exact h.unsent _ _ hm hnot
    · exact Nat.le_zero.mp (h.unknown _ hnone ▸ completions_le_sends c stored.key)
  refine ⟨?_, ?_, ?_, h.once, ?_, h.alone⟩
  · intro key m hm
    simp only [get?_saveMessage] at hm
    by_cases hkey : key = stored.key
    · rw [if_pos hkey, Option.some.injEq] at hm
      rw [← hm, hkey]
      exact hcount
    · rw [if_neg hkey] at hm
      exact h.counted key m hm
  · intro key hnone
    simp only [get?_saveMessage] at hnone
    by_cases hkey : key = stored.key
    · rw [if_pos hkey] at hnone
      cases hnone
    · rw [if_neg hkey] at hnone
      exact h.unknown key hnone
  · intro key m hm hnot
    simp only [get?_saveMessage] at hm
    by_cases hkey : key = stored.key
    · rw [hkey]
      exact hunsent
    · rw [if_neg hkey] at hm
      exact h.unsent key m hm hnot
  · intro i command hpending
    obtain ⟨m, hm, hnot, hsending⟩ := h.sending i command hpending
    by_cases hkey : commandKey command = stored.key
    · have hattempts : m.attemptCount = stored.attemptCount := by
        rw [h.counted _ _ hm, hkey, hcount]
      refine ⟨stored, ?_, hstatus, ?_⟩
      · simp only [get?_saveMessage]
        rw [if_pos hkey]
      · rw [← hattempts]
        exact hsending
    · refine ⟨m, ?_, hnot, hsending⟩
      simp only [get?_saveMessage]
      rw [if_neg hkey]
      exact hm

theorem pending_append_finished (s : Outbox) (call : EmailCall)
    (result : Except SharedException (Option EmailOutboxMessage)) (i : ℕ) :
    Config.pending (⟨s, c.tasks ++ [⟨call, .finished result⟩], c.answered⟩ : EmailConfig) i =
      c.pending i := by
  unfold Config.pending
  by_cases hlt : i < c.tasks.length
  · rw [List.getElem?_append_left hlt]
  · rw [List.getElem?_append_right (not_lt.mp hlt), List.getElem?_eq_none (not_lt.mp hlt)]
    cases i - c.tasks.length with
    | zero => rfl
    | succ n => rfl

theorem getElem?_append_of_some {tasks : List (Task EmailCall emailInterface Outbox SharedException
    (Option EmailOutboxMessage))} {i : ℕ} {t t' : Task EmailCall emailInterface Outbox
    SharedException (Option EmailOutboxMessage)} (h : tasks[i]? = some t) :
    (tasks ++ [t'])[i]? = some t := by
  rw [List.getElem?_append_left (List.getElem?_eq_some_iff.mp h).1]
  exact h

/-- INTERNAL: a call that has ended at once. -/
theorem Accounted.append_finished (h : Accounted py c) (call : EmailCall)
    (result : Except SharedException (Option EmailOutboxMessage)) :
    Accounted py ⟨c.shared, c.tasks ++ [⟨call, .finished result⟩], c.answered⟩ := by
  refine ⟨h.counted, h.unknown, h.unsent, h.once, ?_, ?_⟩
  · intro i command hpending
    rw [pending_append_finished] at hpending
    obtain ⟨m, hm, hnot, call', now, message, route, htask, hkey, hcount⟩ :=
      h.sending i command hpending
    exact ⟨m, hm, hnot, call', now, message, route, getElem?_append_of_some htask, hkey, hcount⟩
  · intro i j command command' hi hj hkey
    rw [pending_append_finished] at hi hj
    exact h.alone i j command command' hi hj hkey

theorem pending_append_suspended (call : EmailCall) (command : EmailProviderSendCommand)
    (rest : Except SendFailure EmailProviderResult → EmailProgram) (i : ℕ) :
    Config.pending (⟨c.shared, c.tasks ++ [⟨call, .suspended command rest⟩], c.answered⟩ :
      EmailConfig) i = if i = c.tasks.length then some command else c.pending i := by
  unfold Config.pending
  by_cases hi : i = c.tasks.length
  · rw [if_pos hi, hi]
    simp only [List.getElem?_concat_length]
  · rw [if_neg hi]
    by_cases hlt : i < c.tasks.length
    · rw [List.getElem?_append_left hlt]
    · rw [List.getElem?_eq_none (by simp; omega), List.getElem?_eq_none (not_lt.mp hlt)]

/-- INTERNAL: a call that sends a message which nobody else is sending. -/
theorem Accounted.append_sending (h : Accounted py c) (call : EmailCall) (now : Instant)
    {message m : EmailOutboxMessage} (route : EmailProviderRoute)
    {command : EmailProviderSendCommand} (hkey : commandKey command = message.key)
    (hm : c.shared.messages.get? message.key = some m) (hnot : m.status ≠ .sent)
    (hcount : message.attemptCount = m.attemptCount)
    (halone : ∀ i command', c.pending i = some command' → commandKey command' ≠ message.key) :
    Accounted py ⟨c.shared, c.tasks ++ [⟨call, .suspended command fun answer =>
      updateMessage (settledMessage py now message route answer)⟩], c.answered⟩ := by
  refine ⟨h.counted, h.unknown, h.unsent, h.once, ?_, ?_⟩
  · intro i command' hpending
    rw [pending_append_suspended] at hpending
    by_cases hi : i = c.tasks.length
    · rw [if_pos hi, Option.some.injEq] at hpending
      subst hpending
      refine ⟨m, by rw [hkey]; exact hm, hnot, call, now, message, route, ?_, hkey.symm, hcount⟩
      rw [hi]
      exact List.getElem?_concat_length
    · rw [if_neg hi] at hpending
      obtain ⟨m', hm', hnot', call', now', message', route', htask, hkey', hcount'⟩ :=
        h.sending i command' hpending
      exact ⟨m', hm', hnot', call', now', message', route', getElem?_append_of_some htask, hkey',
        hcount'⟩
  · intro i j command₁ command₂ hi hj hsame
    rw [pending_append_suspended] at hi hj
    by_cases hilast : i = c.tasks.length
    · by_cases hjlast : j = c.tasks.length
      · rw [hilast, hjlast]
      · rw [if_pos hilast, Option.some.injEq] at hi
        rw [if_neg hjlast] at hj
        exact absurd (by rw [← hsame, ← hi, hkey]) (halone j command₂ hj)
    · rw [if_neg hilast] at hi
      by_cases hjlast : j = c.tasks.length
      · rw [if_pos hjlast, Option.some.injEq] at hj
        exact absurd (by rw [hsame, ← hj, hkey]) (halone i command₁ hi)
      · rw [if_neg hjlast] at hj
        exact h.alone i j command₁ command₂ hi hj hsame

/-- INTERNAL: a stored message that may be sent, in the state in which `try_send` begins. -/
theorem Accounted.sendStep (h : Accounted py c) {adapters : List String} {now : Instant}
    {message m : EmailOutboxMessage} (call : EmailCall)
    (hm : c.shared.messages.get? message.key = some m) (hnot : m.status ≠ .sent)
    (hcount : m.attemptCount = message.attemptCount)
    (halone : Sendable adapters c.shared message →
      ∀ i command, c.pending i = some command → commandKey command ≠ message.key)
    {pause : Coroutine.Pause emailInterface Outbox SharedException (Option EmailOutboxMessage)}
    {outbox : Outbox} (hstep : SendStep py adapters now message c.shared (pause, outbox)) :
    Accounted py ⟨outbox, c.tasks ++ [⟨call, pause⟩], c.answered⟩ := by
  cases hstep with
  | deferred hkey hstatus hattempts =>
      have hbefore := h.save (by rw [hstatus]; decide)
        (.inl ⟨m, by rw [hkey]; exact hm, hnot, by rw [hattempts, hcount]⟩)
      exact hbefore.append_finished call _
  | refused e => exact h.append_finished call _
  | sending hkey hsendable =>
      exact h.append_sending call now _ hkey hm hnot hcount.symm (halone hsendable)

/-- INTERNAL: an answer settles the message of the call it is for. -/
theorem Accounted.answer (h : Accounted py c) (program : EmailCall → EmailProgram) {i : ℕ}
    {command : EmailProviderSendCommand} (hpending : c.pending i = some command)
    (answer : ∀ q : emailInterface.Request, emailInterface.Answer q) :
    Accounted py (Config.step program c (.resume i answer)) ∧
      ∀ key, key ≠ commandKey command →
        (Config.step program c (.resume i answer)).shared.messages.get? key =
          c.shared.messages.get? key := by
  obtain ⟨m, hm, hnot, call, now, message, route, htask, hkey, hcount⟩ :=
    h.sending i command hpending
  obtain ⟨hsettledKey, hsettledCount, hsettledStatus⟩ :=
    settledMessage_spec py now message route (answer command)
  rw [Config.step_resume program htask answer, advance_updateMessage]
  generalize hsettled : settledMessage py now message route (answer command) = settled at *
  have hstored : settled.key = commandKey command := hsettledKey.trans hkey
  have hsends : ∀ key, sends ⟨c.shared.saveMessage settled,
      c.tasks.set i ⟨call, .finished (.ok (some settled))⟩,
      c.answered ++ [⟨command, answer command⟩]⟩ key =
        sends c key + if commandKey command = key then 1 else 0 := by
    intro key
    unfold sends
    rw [List.countP_append, List.countP_singleton]
    by_cases hsame : commandKey command = key <;> simp [hsame]
  have hcompletions : ∀ key, completions ⟨c.shared.saveMessage settled,
      c.tasks.set i ⟨call, .finished (.ok (some settled))⟩,
      c.answered ++ [⟨command, answer command⟩]⟩ key =
        completions c key +
          if commandKey command = key ∧ succeeded (answer command) = true then 1 else 0 := by
    intro key
    unfold completions
    rw [List.countP_append, List.countP_singleton]
    by_cases hsame : commandKey command = key <;> simp [hsame]
  have hpendingSet : ∀ j, Config.pending (⟨c.shared.saveMessage settled,
      c.tasks.set i ⟨call, .finished (.ok (some settled))⟩,
      c.answered ++ [⟨command, answer command⟩]⟩ : EmailConfig) j =
        if j = i then none else c.pending j := by
    intro j
    unfold Config.pending
    have hlt : i < c.tasks.length := (List.getElem?_eq_some_iff.mp htask).1
    by_cases hj : j = i
    · subst hj
      simp only [List.getElem?_set_self hlt, if_pos]
    · simp only [List.getElem?_set_ne (Ne.symm hj), if_neg hj]
  refine ⟨⟨?_, ?_, ?_, ?_, ?_, ?_⟩, ?_⟩
  · intro key m' hm'
    rw [hsends]
    simp only [get?_saveMessage, hstored] at hm'
    by_cases hsame : key = commandKey command
    · rw [if_pos hsame, Option.some.injEq] at hm'
      rw [if_pos hsame.symm, ← hm', hsettledCount, hcount, h.counted _ _ hm, hsame]
    · rw [if_neg hsame] at hm'
      rw [if_neg (Ne.symm hsame), Nat.add_zero]
      exact h.counted key m' hm'
  · intro key hnone
    simp only [get?_saveMessage, hstored] at hnone
    by_cases hsame : key = commandKey command
    · rw [if_pos hsame] at hnone
      cases hnone
    · rw [if_neg hsame] at hnone
      rw [hsends, if_neg (Ne.symm hsame), Nat.add_zero]
      exact h.unknown key hnone
  · intro key m' hm' hnot'
    rw [hcompletions]
    simp only [get?_saveMessage, hstored] at hm'
    by_cases hsame : key = commandKey command
    · rw [if_pos hsame, Option.some.injEq] at hm'
      rw [← hm', Ne, hsettledStatus] at hnot'
      rw [if_neg (fun hboth => hnot' hboth.2), Nat.add_zero, hsame]
      exact h.unsent _ _ hm hnot
    · rw [if_neg hsame] at hm'
      rw [if_neg (fun hboth => hsame hboth.1.symm), Nat.add_zero]
      exact h.unsent key m' hm' hnot'
  · intro key
    rw [hcompletions]
    by_cases hsame : commandKey command = key
    · rw [← hsame, h.unsent _ _ hm hnot]
      split
      · exact Nat.le_refl 1
      · exact Nat.zero_le 1
    · rw [if_neg (fun hboth => hsame hboth.1), Nat.add_zero]
      exact h.once key
  · intro j command' hj
    rw [hpendingSet] at hj
    by_cases hji : j = i
    · rw [if_pos hji] at hj
      cases hj
    · rw [if_neg hji] at hj
      obtain ⟨m', hm', hnot', call', now', message', route', htask', hkey', hcount'⟩ :=
        h.sending j command' hj
      have hother : commandKey command' ≠ commandKey command := fun hsame =>
        hji (h.alone j i command' command hj hpending hsame)
      refine ⟨m', ?_, hnot', call', now', message', route', ?_, hkey', hcount'⟩
      · simp only [get?_saveMessage, hstored]
        rw [if_neg hother]
        exact hm'
      · rw [List.getElem?_set_ne (Ne.symm hji)]
        exact htask'
  · intro j k command₁ command₂ hj hk hsame
    rw [hpendingSet] at hj hk
    by_cases hji : j = i
    · rw [if_pos hji] at hj
      cases hj
    · by_cases hki : k = i
      · rw [if_pos hki] at hk
        cases hk
      · rw [if_neg hji] at hj
        rw [if_neg hki] at hk
        exact h.alone j k command₁ command₂ hj hk hsame
  · intro key hne
    simp only [get?_saveMessage, hstored]
    rw [if_neg hne]

end Steps

/-! ## Runs -/

section Runs

variable (py : Stdlib) (adapters : List String)

/-- What the callers of the service must see to: a new message has a new id; `try_send` is given
a message that is not marked as sent, with the attempts that the outbox has for it, and if it
would be sent no other call is sending it. -/
def Exclusive (c : EmailConfig) : EmailAction → Prop
  | .call (.queueFromNotification command _ uuid _) =>
      c.shared.getMessage command.tenantId (newId "email" uuid) = none
  | .call (.trySend message _) =>
      (∃ m, c.shared.getMessage message.tenantId message.messageId = some m ∧
        m.status ≠ .sent ∧ m.attemptCount = message.attemptCount) ∧
      (Sendable adapters c.shared message →
        ∀ i command, c.pending i = some command → commandKey command ≠ message.key)
  | .call (.upsertRoute _) => True
  | .resume _ _ => True

/-- INTERNAL: a step keeps the accounts, and every message that is marked as sent. -/
theorem accounted_step {c : EmailConfig} {a : EmailAction} (ha : Exclusive adapters c a)
    (h : Accounted py c) :
    Accounted py (Config.step (emailProgram py adapters) c a) ∧
      ∀ key m, c.shared.messages.get? key = some m → m.status = .sent →
        (Config.step (emailProgram py adapters) c a).shared.messages.get? key = some m := by
  cases a with
  | call call =>
      rw [Config.step_call]
      cases call with
      | queueFromNotification command purpose uuid now =>
          simp only [emailProgram]
          rcases advance_queueFromNotification py adapters command purpose uuid now c.shared with
            ⟨e, hrun⟩ | ⟨normalizedPurpose, hrun⟩
          · rw [hrun]
            exact ⟨h.append_finished _ _, fun key m hm _ => hm⟩
          · rw [hrun]
            generalize hmessage : queuedMessage py command normalizedPurpose uuid = message
            have hnew : c.shared.messages.get? message.key = none := by
              rw [← hmessage]
              exact ha
            have hzero : message.attemptCount = 0 := by
              rw [← hmessage]
              rfl
            have hpending : message.status ≠ .sent := by
              rw [← hmessage]
              exact fun hsent => by cases hsent
            have hsaved := h.save hpending (.inr ⟨hnew, hzero⟩)
            have hstored : (c.shared.saveMessage message).messages.get? message.key =
                some message := by rw [get?_saveMessage, if_pos rfl]
            have halone : ∀ i command', c.pending i = some command' →
                commandKey command' ≠ message.key := by
              intro i command' hi hsame
              obtain ⟨m, hm, _⟩ := h.sending i command' hi
              rw [hsame, hnew] at hm
              cases hm
            have hstep := sendStep_trySend py adapters now message (c.shared.saveMessage message)
            refine ⟨hsaved.sendStep _ hstored hpending rfl (fun _ => halone) hstep, ?_⟩
            intro key m hm _
            have hkey : key ≠ message.key := by
              rintro rfl
              rw [hnew] at hm
              cases hm
            have hkept : (c.shared.saveMessage message).messages.get? key = some m := by
              rw [get?_saveMessage, if_neg hkey]
              exact hm
            generalize (trySend py adapters now message).advance
              (c.shared.saveMessage message) = paused at hstep ⊢
            cases hstep with
            | deferred hsame _ _ =>
                rw [get?_saveMessage, hsame, if_neg hkey]
                exact hkept
            | refused e => exact hkept
            | sending _ _ => exact hkept
      | trySend message now =>
          simp only [emailProgram]
          obtain ⟨⟨m, hm, hnot, hcount⟩, halone⟩ := ha
          have hstep := sendStep_trySend py adapters now message c.shared
          refine ⟨h.sendStep _ hm hnot hcount halone hstep, ?_⟩
          intro key m' hm' hsent
          have hkey : key ≠ message.key := by
            rintro rfl
            rw [show c.shared.messages.get? message.key = some m from hm, Option.some.injEq]
              at hm'
            exact hnot (hm' ▸ hsent)
          generalize (trySend py adapters now message).advance c.shared = paused at hstep ⊢
          cases hstep with
          | deferred hsame _ _ =>
              rw [get?_saveMessage, hsame, if_neg hkey]
              exact hm'
          | refused e => exact hm'
          | sending _ _ => exact hm'
      | upsertRoute route =>
          have hroute : Accounted py ⟨c.shared.upsertRoute route, c.tasks, c.answered⟩ :=
            ⟨h.counted, h.unknown, h.unsent, h.once, h.sending, h.alone⟩
          exact ⟨hroute.append_finished _ _, fun key m hm _ => hm⟩
  | resume i answer =>
      cases hi : c.pending i with
      | none =>
          rw [Config.step_resume_of_pending_eq_none _ hi]
          exact ⟨h, fun key m hm _ => hm⟩
      | some command =>
          obtain ⟨haccounted, hframe⟩ := h.answer (emailProgram py adapters) hi answer
          refine ⟨haccounted, fun key m hm hsent => ?_⟩
          have hkey : key ≠ commandKey command := by
            rintro rfl
            obtain ⟨m', hm', hnot, _⟩ := h.sending i command hi
            rw [hm, Option.some.injEq] at hm'
            exact hnot (hm' ▸ hsent)
          rw [hframe key hkey]
          exact hm

/-- In every state of the run each message has been sent at most once, its attempts are the
sends that the adapter answered, and one that is marked as sent stays so. -/
def SentAtMostOnce (actions : List EmailAction) : Prop :=
  ∀ earlier later, actions = earlier ++ later → ∀ key,
    completions (Config.run (emailProgram py adapters) (Config.initial Outbox.initial) earlier)
      key ≤ 1 ∧
    ∀ m, (Config.run (emailProgram py adapters) (Config.initial Outbox.initial)
        earlier).shared.messages.get? key = some m →
      m.attemptCount = sends (Config.run (emailProgram py adapters)
        (Config.initial Outbox.initial) earlier) key ∧
      (m.status = .sent → ∃ m', (Config.run (emailProgram py adapters)
        (Config.initial Outbox.initial) actions).shared.messages.get? key = some m' ∧
          m'.status = .sent ∧ m'.providerRefHash = m.providerRefHash)

/-- INTERNAL: by induction on the calls and answers, from any state whose accounts are right. -/
theorem accounted_run {c : EmailConfig} (h : Accounted py c) {actions : List EmailAction}
    (hactions : Config.EveryStep (emailProgram py adapters) (Exclusive adapters) c
      actions) :
    Accounted py (Config.run (emailProgram py adapters) c actions) ∧
      ∀ key m, c.shared.messages.get? key = some m → m.status = .sent →
        (Config.run (emailProgram py adapters) c actions).shared.messages.get? key = some m := by
  induction actions generalizing c with
  | nil => exact ⟨h, fun key m hm _ => hm⟩
  | cons a actions ih =>
      obtain ⟨hnext, hkept⟩ := accounted_step py adapters hactions.1 h
      obtain ⟨hend, hrest⟩ := ih hnext hactions.2
      exact ⟨hend, fun key m hm hsent => hrest key m (hkept key m hm hsent) hsent⟩

/-- **Sent at most once.**  Where every queued message has a new id, and every retry is given the
message as it stands with no command for it under way, no message is completed twice. -/
theorem sentAtMostOnce_of_exclusive (actions : List EmailAction)
    (hactions : Config.EveryStep (emailProgram py adapters) (Exclusive adapters)
      (Config.initial Outbox.initial) actions) : SentAtMostOnce py adapters actions := by
  intro earlier later hsplit key
  rw [hsplit, Config.everyStep_append_iff] at hactions
  obtain ⟨haccounted, _⟩ := accounted_run py adapters (accounted_initial py) hactions.1
  refine ⟨haccounted.once key, fun m hm => ⟨haccounted.counted key m hm, fun hsent => ?_⟩⟩
  obtain ⟨_, hkept⟩ := accounted_run py adapters haccounted hactions.2
  refine ⟨m, ?_, hsent, rfl⟩
  rw [hsplit, Config.run_append]
  exact hkept key m hm hsent

end Runs

/-! ## Two overlapping retries -/

namespace EmailSample

def command : NotificationEmailCommand where
  notificationId := "notification-1-1"
  tenantId := "media-center"
  eventId := "evt-1"
  eventType := "policy.updated"
  recipientId := "editor-1"
  subject := "Событие"
  body := "Обновлена политика"
  contentHash := Reference.stdlib.sha256Hex "content"
  correlationId := "corr-1"
  requestedAt := 0
  metadata := [("recipient_email", .str "editor@example.org")]

def routeFields : RouteFields where
  tenantId := "media-center"
  routeKey := "system-main"
  purpose := .system
  providerName := "mailgun"
  providerKind := .mailgun
  senderAlias := none
  priority := 100
  status := .active
  endpointUrl := none
  region := none
  credentialsRef := none
  parameters := []
  updatedAt := 0

def route : EmailProviderRoute := ⟨routeFields, by decide⟩

def queue : EmailAction :=
  .call (.queueFromNotification command "system" Reference.uuid 0)

/-- The message in the outbox, deferred for want of a route. -/
def deferredMessage : EmailOutboxMessage :=
  updatedMessage (queuedMessage Reference.stdlib command .system Reference.uuid) .deferred none
    none none (some "email_route_unavailable") 0

def delivered : ∀ q : emailInterface.Request, emailInterface.Answer q :=
  fun _ => .ok ⟨"mailgun", "ref-1", 0⟩

/-- The message is deferred; a route appears; it is retried twice before the adapter answers. -/
def overlappingRetries : List EmailAction :=
  [queue, .call (.upsertRoute route), .call (.trySend deferredMessage 0),
    .call (.trySend deferredMessage 0), .resume 2 delivered, .resume 3 delivered]

/-- The same with one retry. -/
def singleRetry : List EmailAction :=
  [queue, .call (.upsertRoute route), .call (.trySend deferredMessage 0), .resume 2 delivered]

abbrev afterActions (actions : List EmailAction) : EmailConfig :=
  Config.run (emailProgram Reference.stdlib ["mailgun"]) (Config.initial Outbox.initial) actions

end EmailSample

open EmailSample

/-- INTERNAL: without a route the message is stored and deferred. -/
theorem advance_queue :
    (queueFromNotification Reference.stdlib ["mailgun"] command "system" Reference.uuid
      0).advance Outbox.initial =
    (.finished (.ok (some deferredMessage)), (Outbox.initial.saveMessage
      (queuedMessage Reference.stdlib command .system Reference.uuid)).saveMessage
        deferredMessage) := by
  have hpurpose : EmailMessagePurpose.parse (Reference.stdlib.lower (Text.strip "system")) =
      .ok .system := by
    have hname : Reference.stdlib.lower (Text.strip "system") = "system" := by decide
    rw [hname]
    rfl
  have hvalid : ∀ c ∈ (queuedMessage Reference.stdlib command .system Reference.uuid).checks,
      c.2 = true := by decide +kernel
  have haddress : (queuedMessage Reference.stdlib command .system Reference.uuid).toAddress =
      some "editor@example.org" := by decide
  unfold queueFromNotification
  rw [hpurpose, Coroutine.advance_ofExcept_bind]
  simp only
  rw [Validated.make_of_valid _ _ hvalid, Coroutine.advance_ofExcept_bind]
  simp only
  rw [Coroutine.advance_bind, advance_updateMessage]
  unfold trySend
  simp only [Coroutine.Pause.andThen, haddress]
  rw [Coroutine.advance_inspect_bind]
  rfl

theorem afterActions_queue : afterActions [queue] =
    ⟨(Outbox.initial.saveMessage (queuedMessage Reference.stdlib command .system
        Reference.uuid)).saveMessage deferredMessage,
      [⟨.queueFromNotification command "system" Reference.uuid 0,
        .finished (.ok (some deferredMessage))⟩], []⟩ := by
  unfold afterActions queue
  rw [Config.run_cons, Config.run_nil, Config.step_call]
  unfold emailProgram Config.initial
  simp only [advance_queue, List.nil_append]

theorem getMessage_after_queue :
    (afterActions [queue]).shared.getMessage "media-center" (newId "email" Reference.uuid) =
      some deferredMessage := by
  rw [afterActions_queue]
  rfl

theorem pending_after_upsertRoute (i : ℕ) :
    (Config.step (emailProgram Reference.stdlib ["mailgun"])
      (Config.step (emailProgram Reference.stdlib ["mailgun"]) (Config.initial Outbox.initial)
        queue) (.call (.upsertRoute route))).pending i = none := by
  have hqueue : Config.step (emailProgram Reference.stdlib ["mailgun"])
      (Config.initial Outbox.initial) queue = afterActions [queue] := rfl
  rw [hqueue, afterActions_queue, Config.step_call]
  cases i with
  | zero => rfl
  | succ i =>
      cases i with
      | zero => rfl
      | succ i => rfl

theorem completions_overlappingRetries :
    completions (afterActions overlappingRetries) deferredMessage.key = 2 := by
  decide +kernel

/-- Both retries are given the message that the outbox holds. -/
theorem not_sentAtMostOnce_overlappingRetries :
    (afterActions [queue]).shared.getMessage "media-center" (newId "email" Reference.uuid) =
      some deferredMessage ∧
    ¬ SentAtMostOnce Reference.stdlib ["mailgun"] overlappingRetries := by
  refine ⟨getMessage_after_queue, fun hsent => ?_⟩
  have honce := (hsent overlappingRetries [] (List.append_nil _).symm deferredMessage.key).1
  rw [completions_overlappingRetries] at honce
  omega

/-- A deferred message, a new route and one retry of the message. -/
theorem sentAtMostOnce_singleRetry :
    Config.EveryStep (emailProgram Reference.stdlib ["mailgun"])
      (Exclusive ["mailgun"]) (Config.initial Outbox.initial) singleRetry ∧
    SentAtMostOnce Reference.stdlib ["mailgun"] singleRetry := by
  have hexclusive : Config.EveryStep (emailProgram Reference.stdlib ["mailgun"])
      (Exclusive ["mailgun"]) (Config.initial Outbox.initial) singleRetry := by
    refine ⟨rfl, trivial, ⟨⟨deferredMessage, getMessage_after_queue, ?_, rfl⟩, ?_⟩, trivial,
      trivial⟩
    · decide
    · intro _ i command hpending
      rw [pending_after_upsertRoute i] at hpending
      cases hpending
  exact ⟨hexclusive, sentAtMostOnce_of_exclusive Reference.stdlib ["mailgun"] singleRetry
    hexclusive⟩

end MediaCenter.NotificationGateway
