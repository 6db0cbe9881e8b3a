import MediaCenter.Library.ExceptList
import MediaCenter.Library.Index
import MediaCenter.Library.Unwinding
import MediaCenter.Model.MessengerAdapter.TelegramClient
import MediaCenter.Model.Shared.Reference

/-!
# Telegram accounts and their members

A link is stored under its account and under its member.  A member who links another account
leaves the old one behind, which still answers for the member; a member whose account is linked
to somebody else keeps a link that the account does not know of.
-/

set_option autoImplicit false

namespace MediaCenter.MessengerAdapter

open MediaCenter.Library MediaCenter.Shared

/-! ## Identities -/

theorem visible_of_tokenCiphertextPattern {s : String} (h : tokenCiphertextPattern s = true) :
    ∀ c ∈ s.toList, Text.Visible c := by
  unfold tokenCiphertextPattern at h
  simp only [Bool.and_eq_true, decide_eq_true_eq, List.all_eq_true, Bool.or_eq_true,
    beq_iff_eq] at h
  obtain ⟨⟨⟨htake, _⟩, _⟩, hbody⟩ := h
  intro c hc
  rw [← List.take_append_drop 10 s.toList, List.mem_append, htake] at hc
  rcases hc with hc | hc
  · have hvisible : ∀ c ∈ tokenCiphertextPrefix.toList, 33 ≤ c.toNat ∧ c.toNat ≤ 126 := by
      decide
    exact hvisible c hc
  · rw [← List.rdropWhile_append_rtakeWhile (p := fun c => c == '=') (l := s.toList.drop 10),
      List.mem_append] at hc
    rcases hc with hc | hc
    · rcases hbody c hc with (halnum | rfl) | rfl
      · exact Text.visible_of_isAsciiAlnum halnum
      all_goals exact ⟨by decide, by decide⟩
    · have hpad := List.mem_rtakeWhile_imp hc
      rw [beq_iff_eq] at hpad
      rw [hpad]
      exact ⟨by decide, by decide⟩

theorem trim_of_tokenCiphertextPattern {s : String} (h : tokenCiphertextPattern s = true) :
    Text.trim s = s :=
  Text.trim_of_forall_visible (visible_of_tokenCiphertextPattern h)

/-- What is decrypted for a tenant is the text that was encrypted for it. -/
theorem decryptToken_encrypt {aead : Aead} {nonce : ℕ} {tenantId tenantId' platform token : String}
    {opened : String}
    (h : decryptToken aead tenantId' platform
      (tokenCiphertextPrefix ++ aead.encrypt nonce (tokenAad tenantId platform) token) =
        .ok opened) :
    opened = token := by
  have htake : (tokenCiphertextPrefix ++
      aead.encrypt nonce (tokenAad tenantId platform) token).toList.take 10 =
        tokenCiphertextPrefix.toList := by
    rw [String.toList_append]
    exact List.take_left' (by decide)
  have hdrop : String.ofList ((tokenCiphertextPrefix ++
      aead.encrypt nonce (tokenAad tenantId platform) token).toList.drop 10) =
        aead.encrypt nonce (tokenAad tenantId platform) token := by
    rw [String.toList_append, List.drop_left' (by decide), String.ofList_toList]
  unfold decryptToken at h
  rw [if_pos htake, hdrop] at h
  cases hdecrypt : aead.decrypt (tokenAad tenantId' platform)
      (aead.encrypt nonce (tokenAad tenantId platform) token) with
  | error message =>
      rw [hdecrypt] at h
      cases h
  | ok plain =>
      have haad := aead.aad_of_decrypt _ _ _ _ _ hdecrypt
      rw [haad, aead.decrypt_encrypt, Except.ok.injEq] at hdecrypt
      rw [haad, aead.decrypt_encrypt, Except.ok.injEq] at h
      exact h.symm

/-! ## What a call stores -/

section Calls

variable (gateway : TelegramClientGateway)

/-- The link that a call stores, whether or not the call then returns. -/
def savedLink (call : TelegramCall) : Option TelegramAccountLink :=
  match call.operation with
  | .link args => (newAccountLink gateway call.env args).toOption
  | .handle _ => none

/-- The account that a call links to the member. -/
def linkedAccount (tenantId memberId : String) (call : TelegramCall) : Option String :=
  match call.operation, savedLink gateway call with
  | .link args, some link =>
      if link.memberKey = (tenantId, memberId) then some args.telegramUserId else none
  | _, _ => none

/-- The account that the member has linked last. -/
def currentAccount (tenantId memberId : String) (calls : List TelegramCall) : Option String :=
  calls.foldl (fun current call => (linkedAccount gateway tenantId memberId call).or current) none

theorem newAccountLink_eq_ok {env : TelegramAmbient} {args : LinkAccountArgs}
    {link : TelegramAccountLink} (h : newAccountLink gateway env args = .ok link) :
    link.tenantId = Text.trim args.tenantId ∧ link.memberId = Text.trim args.memberId ∧
      link.telegramUserRefHash = telegramUserRefHash gateway.py args.tenantId args.telegramUserId ∧
      link.identityEncrypted = tokenCiphertextPrefix ++ gateway.aead.encrypt env.nonce
        (tokenAad args.tenantId telegramIdentityAadLabel) args.telegramUserId := by
  unfold newAccountLink at h
  obtain ⟨linkedAt, _, h⟩ := bind_eq_ok_iff.mp h
  obtain ⟨identity, hidentity, h⟩ := bind_eq_ok_iff.mp h
  have hfields := (Validated.make_eq_ok_iff _ _ _).mp (mapError_eq_ok_iff.mp h)
  unfold encryptToken at hidentity
  split at hidentity
  · cases hidentity
  · rw [Except.ok.injEq] at hidentity
    unfold TelegramAccountLink.tenantId TelegramAccountLink.memberId
      TelegramAccountLink.telegramUserRefHash TelegramAccountLink.identityEncrypted
    rw [hfields, ← hidentity]
    refine ⟨rfl, rfl, rfl, ?_⟩
    exact trim_of_tokenCiphertextPattern (gateway.aead.encrypt_pattern _ _ _)

theorem exists_newAccountLink_of_savedLink {call : TelegramCall} {link : TelegramAccountLink}
    (h : savedLink gateway call = some link) :
    ∃ args, call.operation = .link args ∧ newAccountLink gateway call.env args = .ok link := by
  rcases call with ⟨env, operation⟩
  cases operation with
  | handle args => cases h
  | link args =>
      refine ⟨args, rfl, ?_⟩
      change (newAccountLink gateway env args).toOption = some link at h
      cases hresult : newAccountLink gateway env args with
      | error e =>
          rw [hresult] at h
          cases h
      | ok made =>
          rw [hresult] at h
          cases h
          rfl

/-- Programs that leave the accounts alone. -/
def SameAccounts (s s' : TelegramClientState) : Prop := s'.accountStore = s.accountStore

theorem sameAccounts_refl (s : TelegramClientState) : SameAccounts s s := rfl

theorem SameAccounts.trans (s t u : TelegramClientState) (h : SameAccounts s t)
    (h' : SameAccounts t u) : SameAccounts s u := by
  unfold SameAccounts at h h' ⊢
  rw [h', h]

theorem keeps_recordAudit (py : Stdlib) (args : AuditArgs) :
    Fallible.Keeps SameAccounts (recordAudit py args) := by
  apply Fallible.keeps_bind SameAccounts.trans (Fallible.keeps_ofExcept sameAccounts_refl _)
  intro record
  apply Fallible.keeps_bind SameAccounts.trans
  · exact Fallible.keeps_change fun s => sameAccounts_refl s
  intro _
  exact Fallible.keeps_pure sameAccounts_refl record

theorem keeps_publishEvent (publisher : EventEnvelope → Except TelegramError Unit)
    (args : EventEnvelope) : Fallible.Keeps SameAccounts (publishEvent publisher args) := by
  apply Fallible.keeps_bind SameAccounts.trans (Fallible.keeps_ofExcept sameAccounts_refl _)
  intro event
  apply Fallible.keeps_bind SameAccounts.trans (Fallible.keeps_ofExcept sameAccounts_refl _)
  intro _
  exact Fallible.keeps_change fun _ => rfl

theorem keeps_handleUpdate (env : TelegramAmbient) (args : HandleUpdateArgs) :
    Fallible.Keeps SameAccounts (handleUpdate gateway env args) := by
  apply Fallible.keeps_bind SameAccounts.trans (Fallible.keeps_inspect sameAccounts_refl _)
  intro handled
  apply Fallible.keeps_bind SameAccounts.trans (keeps_recordAudit _ _)
  intro audit
  apply Fallible.keeps_bind SameAccounts.trans (keeps_publishEvent _ _)
  intro _
  exact Fallible.keeps_ofExcept sameAccounts_refl _

/-- What `link_account` does once the link is stored. -/
theorem keeps_afterSave (env : TelegramAmbient) (args : LinkAccountArgs)
    (link : TelegramAccountLink) :
    Fallible.Keeps SameAccounts (do
      let audit ← recordAudit gateway.py (linkAuditArgs gateway args link)
      publishEvent env.publisher (linkEvent env args link audit)
      return link) := by
  apply Fallible.keeps_bind SameAccounts.trans (keeps_recordAudit _ _)
  intro audit
  apply Fallible.keeps_bind SameAccounts.trans (keeps_publishEvent _ _)
  intro _
  exact Fallible.keeps_pure sameAccounts_refl link

theorem answered_snd {α : Type} (answer : α → TelegramAnswer)
    (ended : Except TelegramError α × TelegramClientState) :
    (TelegramClientGateway.answered answer ended).2 = ended.2 := by
  rcases ended with ⟨result, s⟩
  cases result with
  | ok a => rfl
  | error e => rfl

/-- **One call** stores the link it makes, and nothing else. -/
theorem accountStore_step (s : TelegramClientState) (call : TelegramCall) :
    (gateway.step s call).2.accountStore =
      match savedLink gateway call with
      | some link => s.accountStore.save link
      | none => s.accountStore := by
  rcases call with ⟨env, operation⟩
  cases operation with
  | handle args =>
      show (TelegramClientGateway.answered _ _).2.accountStore = s.accountStore
      rw [answered_snd]
      exact keeps_handleUpdate gateway env args s
  | link args =>
      show (TelegramClientGateway.answered _ (Fallible.exec (linkAccount gateway env args)
        s)).2.accountStore = match (newAccountLink gateway env args).toOption with
          | some link => s.accountStore.save link
          | none => s.accountStore
      rw [answered_snd]
      unfold linkAccount
      rw [Fallible.exec_ofExcept_bind]
      cases newAccountLink gateway env args with
      | error e => rfl
      | ok link => exact keeps_afterSave gateway env args link _

end Calls

/-! ## Exchanges -/

/-- INTERNAL: an exchange is made for the member of the link that the message's account finds,
and the identity of that link is the message's. -/
theorem link_of_exchanged {gateway : TelegramClientGateway} {s : TelegramClientState}
    {env : TelegramAmbient} {args : HandleUpdateArgs} {exchange : TelegramClientExchange}
    (h : (gateway.step s ⟨env, .handle args⟩).1 = .exchanged exchange) :
    exchange.fields.tenantId = args.message.fields.tenantId ∧
      ∃ link, s.accountStore.findByRefHash args.message.fields.tenantId
          (telegramUserRefHash gateway.py args.message.fields.tenantId
            args.message.fields.telegramUserId) = some link ∧
        link.memberId = exchange.fields.memberId ∧
        decryptToken gateway.aead args.message.fields.tenantId telegramIdentityAadLabel
          link.identityEncrypted = .ok args.message.fields.telegramUserId := by
  have hrun : ∃ s', Fallible.exec (handleUpdate gateway env args) s = (.ok exchange, s') := by
    change (TelegramClientGateway.answered .exchanged
      (Fallible.exec (handleUpdate gateway env args) s)).1 = .exchanged exchange at h
    rcases hexec : Fallible.exec (handleUpdate gateway env args) s with ⟨result, s'⟩
    rw [hexec] at h
    cases result with
    | error e => cases h
    | ok made =>
        cases h
        exact ⟨s', rfl⟩
  obtain ⟨s', hrun⟩ := hrun
  unfold handleUpdate at hrun
  obtain ⟨handled, s₁, hhandled, hrun⟩ := Fallible.exec_bind_eq_ok_iff.mp hrun
  obtain ⟨audit, s₂, _, hrun⟩ := Fallible.exec_bind_eq_ok_iff.mp hrun
  obtain ⟨u, s₃, _, hrun⟩ := Fallible.exec_bind_eq_ok_iff.mp hrun
  rw [Fallible.exec_ofExcept, Prod.mk.injEq] at hrun
  have hfields := (Validated.make_eq_ok_iff _ _ _).mp (mapError_eq_ok_iff.mp hrun.1)
  rw [Fallible.exec_inspect, Prod.mk.injEq] at hhandled
  have hcommand := hhandled.1
  unfold handleCommand at hcommand
  obtain ⟨handledAt, _, hcommand⟩ := bind_eq_ok_iff.mp hcommand
  obtain ⟨link, hlink, hcommand⟩ := bind_eq_ok_iff.mp hcommand
  obtain ⟨v, hverified, hcommand⟩ := bind_eq_ok_iff.mp hcommand
  obtain ⟨command, _, hcommand⟩ := bind_eq_ok_iff.mp hcommand
  obtain ⟨reply, _, hcommand⟩ := bind_eq_ok_iff.mp hcommand
  obtain ⟨lease, _, hcommand⟩ := bind_eq_ok_iff.mp hcommand
  have hhandled : handled.link = link := by
    cases hcommand
    rfl
  rw [hfields]
  refine ⟨rfl, link, ?_, ?_, ?_⟩
  · unfold InMemoryTelegramAccountStore.requireByRefHash at hlink
    split at hlink
    · rename_i found hfound
      rw [Except.ok.injEq] at hlink
      rw [← hlink]
      exact hfound
    · cases hlink
  · rw [← hhandled]
  · unfold verifyIdentityBinding at hverified
    obtain ⟨decrypted, hdecrypted, hverified⟩ := bind_eq_ok_iff.mp hverified
    split at hverified
    · cases hverified
    · rename_i hsame
      rw [not_not] at hsame
      rw [← hsame]
      exact hdecrypted

/-! ## The two indexes -/

/-- One of the indexes holds the link. -/
def InMemoryTelegramAccountStore.Holds (store : InMemoryTelegramAccountStore)
    (link : TelegramAccountLink) : Prop :=
  store.findByRefHash link.tenantId link.telegramUserRefHash = some link ∨
    store.findByMember link.tenantId link.memberId = some link

/-- The indexes are inverse to each other, and no member and no account has two links. -/
structure AccountsAgree (store : InMemoryTelegramAccountStore) : Prop where
  inverse : ∀ t m link, store.findByMember t m = some link ↔
    store.findByRefHash t link.telegramUserRefHash = some link ∧ link.memberId = m
  oneOfMember : ∀ link link', store.Holds link → store.Holds link' →
    link.tenantId = link'.tenantId → link.memberId = link'.memberId → link = link'
  oneOfAccount : ∀ link link', store.Holds link → store.Holds link' →
    link.tenantId = link'.tenantId → link.telegramUserRefHash = link'.telegramUserRefHash →
    link = link'

/-- Links are stored under keys of their own. -/
structure Keyed (store : InMemoryTelegramAccountStore) : Prop where
  byRefHash : ∀ k link, store.byRefHash.get? k = some link → link.refKey = k
  byMember : ∀ k link, store.byMember.get? k = some link → link.memberKey = k

theorem keyed_empty : Keyed .empty := by
  constructor
  · intro k link h
    cases h
  · intro k link h
    cases h

theorem Keyed.save {store : InMemoryTelegramAccountStore} (h : Keyed store)
    (link : TelegramAccountLink) : Keyed (store.save link) := by
  constructor
  · intro k stored hget
    unfold InMemoryTelegramAccountStore.save at hget
    rw [Dict.get?_set] at hget
    split at hget
    · rename_i hk
      rw [Option.some.injEq] at hget
      rw [← hget, hk]
    · exact h.byRefHash k stored hget
  · intro k stored hget
    unfold InMemoryTelegramAccountStore.save at hget
    rw [Dict.get?_set] at hget
    split at hget
    · rename_i hk
      rw [Option.some.injEq] at hget
      rw [← hget, hk]
    · exact h.byMember k stored hget

/-- INTERNAL: the indexes of keyed links agree exactly when each mirrors the other. -/
theorem Keyed.accountsAgree_iff_mirror {store : InMemoryTelegramAccountStore} (h : Keyed store) :
    AccountsAgree store ↔ Mirror TelegramAccountLink.refKey TelegramAccountLink.memberKey
      store.byRefHash store.byMember := by
  constructor
  · intro hagree
    constructor
    · rintro ⟨t, r⟩ link
      constructor
      · intro hget
        have hkey := h.byRefHash _ _ hget
        have htenant : link.tenantId = t := congrArg Prod.fst hkey
        have hhash : link.telegramUserRefHash = r := congrArg Prod.snd hkey
        refine ⟨hkey, (hagree.inverse link.tenantId link.memberId link).mpr ⟨?_, rfl⟩⟩
        rw [htenant, hhash]
        exact hget
      · rintro ⟨hkey, hget⟩
        rw [← hkey]
        exact ((hagree.inverse link.tenantId link.memberId link).mp hget).1
    · rintro ⟨t, m⟩ link
      constructor
      · intro hget
        have hkey := h.byMember _ _ hget
        have htenant : link.tenantId = t := congrArg Prod.fst hkey
        refine ⟨hkey, ?_⟩
        rw [TelegramAccountLink.refKey, htenant]
        exact ((hagree.inverse t m link).mp hget).1
      · rintro ⟨hkey, hget⟩
        rw [← hkey]
        exact (hagree.inverse link.tenantId link.memberId link).mpr ⟨hget, rfl⟩
  · intro hmirror
    -- What one index holds, the other one does.
    have hboth : ∀ link, store.Holds link →
        store.byRefHash.get? link.refKey = some link ∧
          store.byMember.get? link.memberKey = some link := by
      rintro link (hget | hget)
      · exact ⟨hget, ((hmirror.forward _ _).mp hget).2⟩
      · exact ⟨((hmirror.backward _ _).mp hget).2, hget⟩
    constructor
    · intro t m link
      constructor
      · intro hget
        obtain ⟨hkey, hother⟩ := (hmirror.backward (t, m) link).mp hget
        have htenant : link.tenantId = t := congrArg Prod.fst hkey
        have hmember : link.memberId = m := congrArg Prod.snd hkey
        rw [← htenant]
        exact ⟨hother, hmember⟩
      · rintro ⟨hget, hmember⟩
        obtain ⟨hkey, hother⟩ :=
          (hmirror.forward (t, link.telegramUserRefHash) link).mp hget
        have htenant : link.tenantId = t := congrArg Prod.fst hkey
        rw [← htenant, ← hmember]
        exact hother
    · intro link link' hlink hlink' htenant hmember
      have hkey : link.memberKey = link'.memberKey := by
        rw [TelegramAccountLink.memberKey, htenant, hmember]
        rfl
      have hget := (hboth link hlink).2
      rw [hkey, (hboth link' hlink').2, Option.some.injEq] at hget
      exact hget.symm
    · intro link link' hlink hlink' htenant hhash
      have hkey : link.refKey = link'.refKey := by
        rw [TelegramAccountLink.refKey, htenant, hhash]
        rfl
      have hget := (hboth link hlink).1
      rw [hkey, (hboth link' hlink').1, Option.some.injEq] at hget
      exact hget.symm

section Runs

variable (gateway : TelegramClientGateway)

/-- A member who has a link keeps the account, and an account that has a link keeps its member:
a call that links again links the same two. -/
def KeepsAccounts (s : TelegramClientState) (call : TelegramCall) : Prop :=
  ∀ args, call.operation = .link args → (savedLink gateway call).isSome →
    (∀ old, s.accountStore.findByMember (Text.trim args.tenantId) (Text.trim args.memberId) =
        some old →
      old.telegramUserRefHash =
        telegramUserRefHash gateway.py args.tenantId args.telegramUserId) ∧
    ∀ old, s.accountStore.findByRefHash (Text.trim args.tenantId)
        (telegramUserRefHash gateway.py args.tenantId args.telegramUserId) = some old →
      old.memberId = Text.trim args.memberId

variable {gateway}

theorem keyed_step {s : TelegramClientState} (h : Keyed s.accountStore) (call : TelegramCall) :
    Keyed (gateway.step s call).2.accountStore := by
  rw [accountStore_step]
  cases savedLink gateway call with
  | none => exact h
  | some link => exact h.save link

/-- **One call** keeps the indexes in agreement if and only if it parts no member from an
account. -/
theorem accountsAgree_step_iff {s : TelegramClientState} (hkeyed : Keyed s.accountStore)
    (hagree : AccountsAgree s.accountStore) (call : TelegramCall) :
    AccountsAgree (gateway.step s call).2.accountStore ↔ KeepsAccounts gateway s call := by
  have hmirror := hkeyed.accountsAgree_iff_mirror.mp hagree
  rw [(keyed_step hkeyed call).accountsAgree_iff_mirror, accountStore_step]
  cases hsaved : savedLink gateway call with
  | none =>
      refine ⟨fun _ args _ hsome => ?_, fun _ => hmirror⟩
      rw [hsaved] at hsome
      cases hsome
  | some link =>
      obtain ⟨args, hcall, hnew⟩ := exists_newAccountLink_of_savedLink gateway hsaved
      obtain ⟨htenant, hmember, hhash, _⟩ := newAccountLink_eq_ok gateway hnew
      unfold InMemoryTelegramAccountStore.save
      rw [hmirror.set_iff link]
      unfold KeepsAccounts
      constructor
      · rintro ⟨hold, hnewer⟩ args' hcall' _
        rw [hcall, TelegramOperation.link.injEq] at hcall'
        rw [← hcall', ← htenant, ← hmember, ← hhash]
        exact ⟨fun old hget => congrArg Prod.snd (hnewer old hget),
          fun old hget => congrArg Prod.snd (hold old hget)⟩
      · intro hkeeps
        obtain ⟨hofMember, hofAccount⟩ := hkeeps args hcall (by rw [hsaved]; rfl)
        rw [← htenant, ← hmember, ← hhash] at hofMember
        rw [← htenant, ← hmember, ← hhash] at hofAccount
        constructor
        · intro old hget
          have hkey := hkeyed.byRefHash _ _ hget
          have holdTenant : old.tenantId = link.tenantId := congrArg Prod.fst hkey
          rw [TelegramAccountLink.memberKey, holdTenant, hofAccount old hget]
          rfl
        · intro old hget
          have hkey := hkeyed.byMember _ _ hget
          have holdTenant : old.tenantId = link.tenantId := congrArg Prod.fst hkey
          rw [TelegramAccountLink.refKey, holdTenant, hofMember old hget]
          rfl

theorem keyed_after (gateway : TelegramClientGateway) (calls : List TelegramCall) :
    Keyed (after gateway.step .initial calls).accountStore := by
  induction calls using List.reverseRecOn with
  | nil => exact keyed_empty
  | append_singleton calls call ih =>
      rw [after_concat]
      exact keyed_step ih call

/-- The accounts stay in agreement as long as no call parts a member from an account. -/
theorem accountsAgree_after {calls : List TelegramCall}
    (hkeeps : EachMeets gateway.step (KeepsAccounts gateway) .initial calls) :
    Keyed (after gateway.step .initial calls).accountStore ∧
      AccountsAgree (after gateway.step .initial calls).accountStore := by
  refine @after_induction _ _ _ gateway.step (KeepsAccounts gateway)
    (fun s => Keyed s.accountStore ∧ AccountsAgree s.accountStore) ?_ _ ?_ _ hkeeps
  · rintro s call ⟨hkeyed, hagree⟩ hcall
    exact ⟨keyed_step hkeyed call, (accountsAgree_step_iff hkeyed hagree call).mpr hcall⟩
  · exact ⟨keyed_empty, keyed_empty.accountsAgree_iff_mirror.mpr (mirror_empty _ _)⟩

/-! ## Who an account speaks for -/

theorem currentAccount_concat (tenantId memberId : String) (calls : List TelegramCall)
    (call : TelegramCall) :
    currentAccount gateway tenantId memberId (calls ++ [call]) =
      (linkedAccount gateway tenantId memberId call).or
        (currentAccount gateway tenantId memberId calls) := by
  unfold currentAccount
  rw [List.foldl_append]
  rfl

/-- INTERNAL: the link of a member holds, encrypted, the account that the member has linked
last. -/
theorem identity_of_findByMember (calls : List TelegramCall) {t m : String}
    {link : TelegramAccountLink}
    (h : (after gateway.step .initial calls).accountStore.findByMember t m = some link) :
    ∃ nonce tenantId account, currentAccount gateway t m calls = some account ∧
      link.identityEncrypted = tokenCiphertextPrefix ++ gateway.aead.encrypt nonce
        (tokenAad tenantId telegramIdentityAadLabel) account := by
  induction calls using List.reverseRecOn generalizing link with
  | nil => cases h
  | append_singleton calls call ih =>
      rw [after_concat, accountStore_step] at h
      rw [currentAccount_concat]
      cases hsaved : savedLink gateway call with
      | none =>
          rw [hsaved] at h
          have hnone : linkedAccount gateway t m call = none := by
            unfold linkedAccount
            rw [hsaved]
            cases call.operation with
            | link args => rfl
            | handle args => rfl
          rw [hnone, Option.none_or]
          exact ih h
      | some saved =>
          rw [hsaved] at h
          obtain ⟨args, hcall, hnew⟩ := exists_newAccountLink_of_savedLink gateway hsaved
          have hlinked : linkedAccount gateway t m call =
              if saved.memberKey = (t, m) then some args.telegramUserId else none := by
            unfold linkedAccount
            rw [hsaved, hcall]
          rw [hlinked]
          change (Dict.set _ saved.memberKey saved).get? (t, m) = some link at h
          rw [Dict.get?_set] at h
          by_cases hkey : saved.memberKey = (t, m)
          · rw [if_pos hkey.symm, Option.some.injEq] at h
            rw [if_pos hkey, Option.some_or, ← h]
            exact ⟨_, _, _, rfl, (newAccountLink_eq_ok gateway hnew).2.2.2⟩
          · rw [if_neg (Ne.symm hkey)] at h
            rw [if_neg hkey, Option.none_or]
            exact ih h

variable (gateway)

/-- Whoever is answered for a member writes from the account that the member has linked last. -/
def SpeaksForCurrent (calls : List TelegramCall) : Prop :=
  ∀ env args exchange,
    (gateway.step (after gateway.step .initial calls) ⟨env, .handle args⟩).1 =
        .exchanged exchange →
    currentAccount gateway exchange.fields.tenantId exchange.fields.memberId calls =
      some args.message.fields.telegramUserId

variable {gateway}

theorem speaksForCurrent_of_accountsAgree {calls : List TelegramCall}
    (h : AccountsAgree (after gateway.step .initial calls).accountStore) :
    SpeaksForCurrent gateway calls := by
  intro env args exchange hexchange
  obtain ⟨htenant, link, hfound, hmember, hopened⟩ := link_of_exchanged hexchange
  have hkeyed := keyed_after gateway calls
  have hhash : link.telegramUserRefHash = telegramUserRefHash gateway.py
      args.message.fields.tenantId args.message.fields.telegramUserId :=
    congrArg Prod.snd (hkeyed.byRefHash _ _ hfound)
  rw [← hhash] at hfound
  have hcurrent := (h.inverse _ _ _).mpr ⟨hfound, hmember⟩
  obtain ⟨nonce, tenantId, account, haccount, hidentity⟩ := identity_of_findByMember calls hcurrent
  rw [hidentity] at hopened
  rw [htenant, haccount, ← decryptToken_encrypt hopened]

/-- **Accounts and members** are in agreement in every state of a run, and every account speaks
for the member it is the last account of, if and only if no call of the run parts a member from
an account. -/
theorem accountsAgree_iff (gateway : TelegramClientGateway) (calls : List TelegramCall) :
    (∀ earlier later, calls = earlier ++ later →
      AccountsAgree (after gateway.step .initial earlier).accountStore ∧
        SpeaksForCurrent gateway earlier) ↔
    EachMeets gateway.step (KeepsAccounts gateway) .initial calls := by
  constructor
  · intro hagree
    -- The first call that parts the two is made in a state where they still agree.
    induction calls using List.reverseRecOn with
    | nil => exact trivial
    | append_singleton calls call ih =>
        have hearlier := ih fun earlier later hsplit =>
          hagree earlier (later ++ [call]) (by rw [hsplit, List.append_assoc])
        obtain ⟨hlast, _⟩ := hagree (calls ++ [call]) [] (List.append_nil _).symm
        obtain ⟨hkeyed, hbefore⟩ := accountsAgree_after hearlier
        rw [after_concat] at hlast
        rw [eachMeets_append]
        exact ⟨hearlier, (accountsAgree_step_iff hkeyed hbefore call).mp hlast, trivial⟩
  · intro hkeeps earlier later hsplit
    rw [hsplit, eachMeets_append] at hkeeps
    have hagree := (accountsAgree_after hkeeps.1).2
    exact ⟨hagree, speaksForCurrent_of_accountsAgree hagree⟩

end Runs

/-! ### A member links another account -/

namespace TelegramSample

/-- A character as that many letters and a hyphen. -/
def encodeChar (c : Char) : List Char := List.replicate c.toNat 'a' ++ ['-']

def encode (l : List Char) : List Char := l.flatMap encodeChar

def decode (l : List Char) : List Char :=
  (splitAtEvery '-' l).dropLast.map fun w => Char.ofNat w.length

theorem decode_encode (l : List Char) : decode (encode l) = l := by
  induction l with
  | nil => rfl
  | cons c l ih =>
      have hletters : '-' ∉ List.replicate c.toNat 'a' := by
        intro h
        exact absurd (List.eq_of_mem_replicate h) (by decide)
      have hne : splitAtEvery '-' (encode l) ≠ [] := by
        cases encode l with
        | nil => exact List.cons_ne_nil _ _
        | cons d rest =>
            rw [splitAtEvery]
            split
            · exact List.cons_ne_nil _ _
            · split
              · exact List.cons_ne_nil _ _
              · exact List.cons_ne_nil _ _
      unfold decode encode at ih
      unfold encode at hne
      rw [decode, encode, List.flatMap_cons, encodeChar, List.append_assoc, List.singleton_append,
        splitAtEvery_append_cons hletters, List.dropLast_cons_of_ne_nil hne, List.map_cons,
        List.length_replicate, Char.ofNat_toNat, ih]

theorem mem_encode {c : Char} {l : List Char} (h : c ∈ encode l) : c = 'a' ∨ c = '-' := by
  obtain ⟨d, _, hc⟩ := List.mem_flatMap.mp h
  rw [encodeChar, List.mem_append, List.mem_singleton] at hc
  rcases hc with hc | hc
  · exact .inl (List.eq_of_mem_replicate hc)
  · exact .inr hc

/-- The associated data in front of the token. -/
def sealed (aad token : String) : List Char := encode aad.toList ++ '_' :: encode token.toList

theorem takeWhile_sealed (aad token : String) :
    (sealed aad token).takeWhile (fun c => c ≠ '_') = encode aad.toList := by
  unfold sealed
  rw [List.takeWhile_append_of_pos]
  · simp
  · intro c hc
    rcases mem_encode hc with rfl | rfl
    · decide
    · decide

theorem dropWhile_sealed (aad token : String) :
    ((sealed aad token).dropWhile (fun c => c ≠ '_')).drop 1 = encode token.toList := by
  unfold sealed
  rw [List.dropWhile_append_of_pos]
  · simp
  · intro c hc
    rcases mem_encode hc with rfl | rfl
    · decide
    · decide

theorem tokenCiphertextPattern_sealed (aad token : String) :
    tokenCiphertextPattern (tokenCiphertextPrefix ++ String.ofList (sealed aad token)) = true := by
  have htake : (tokenCiphertextPrefix ++ String.ofList (sealed aad token)).toList.take 10 =
      tokenCiphertextPrefix.toList := by
    rw [String.toList_append]
    exact List.take_left' (by decide)
  have hdrop : (tokenCiphertextPrefix ++ String.ofList (sealed aad token)).toList.drop 10 =
      sealed aad token := by
    rw [String.toList_append, List.drop_left' (by decide), String.toList_ofList]
  have hclass : ∀ c ∈ sealed aad token, c = 'a' ∨ c = '-' ∨ c = '_' := by
    intro c hc
    unfold sealed at hc
    rw [List.mem_append, List.mem_cons] at hc
    rcases hc with hc | rfl | hc
    · rcases mem_encode hc with hc | hc
      · exact .inl hc
      · exact .inr (.inl hc)
    · exact .inr (.inr rfl)
    · rcases mem_encode hc with hc | hc
      · exact .inl hc
      · exact .inr (.inl hc)
  have hbody : (sealed aad token).rdropWhile (fun c => c == '=') = sealed aad token := by
    rw [List.rdropWhile_eq_self_iff]
    intro hne
    rcases hclass _ (List.getLast_mem hne) with h | h | h
    all_goals
      rw [h]
      decide
  have hne : sealed aad token ≠ [] := List.append_ne_nil_of_right_ne_nil _ (List.cons_ne_nil _ _)
  have hlength : (tokenCiphertextPrefix ++ String.ofList (sealed aad token)).toList.length =
      10 + (sealed aad token).length := by
    rw [String.toList_append, List.length_append, String.toList_ofList]
    rfl
  unfold tokenCiphertextPattern
  rw [htake, hdrop, hbody, hlength]
  simp only [Bool.and_eq_true, decide_eq_true_eq, Bool.not_eq_true', List.isEmpty_eq_false_iff,
    List.all_eq_true]
  refine ⟨⟨⟨trivial, hne⟩, by omega⟩, fun c hc => ?_⟩
  rcases hclass c hc with rfl | rfl | rfl
  all_goals decide

def aead : Aead where
  encrypt := fun _ aad token => String.ofList (sealed aad token)
  decrypt := fun aad ciphertext =>
    if ciphertext.toList.takeWhile (fun c => c ≠ '_') = encode aad.toList then
      .ok (String.ofList (decode ((ciphertext.toList.dropWhile fun c => c ≠ '_').drop 1)))
    else .error "не удалось расшифровать token_encrypted"
  decrypt_encrypt := by
    intro nonce aad token
    rw [String.toList_ofList, if_pos (takeWhile_sealed aad token), dropWhile_sealed, decode_encode,
      String.ofList_toList]
  aad_of_decrypt := by
    intro nonce aad aad' token opened h
    rw [String.toList_ofList, takeWhile_sealed] at h
    split at h
    · rename_i hsame
      have hdecoded := congrArg decode hsame
      rw [decode_encode, decode_encode, String.toList_inj] at hdecoded
      exact hdecoded.symm
    · cases h
  encrypt_pattern := fun _ aad token => tokenCiphertextPattern_sealed aad token

def gateway : TelegramClientGateway := ⟨Reference.stdlib, aead, fun _ => none⟩

def ambient : TelegramAmbient where
  now := 0
  now_nonneg := le_rfl
  now_le_max := by decide
  uuid := fun _ => Reference.uuid
  nonce := 0
  leaseProxy := fun _ _ => .ok none
  publisher := fun _ => .ok ()

def linkArgs (telegramUserId : String) : LinkAccountArgs where
  tenantId := "coop-alpha"
  memberId := "member-1"
  telegramUserId := telegramUserId
  correlationId := "corr-1"
  linkId := some "link-1"
  linkedAt := .omitted
  eventId := none
  metadata := []

def links (telegramUserId : String) : TelegramCall := ⟨ambient, .link (linkArgs telegramUserId)⟩

theorem exists_savedLink (telegramUserId : String) (h : Text.strip telegramUserId ≠ "") :
    ∃ link, savedLink gateway (links telegramUserId) = some link ∧
      link.memberKey = ("coop-alpha", "member-1") ∧
      link.telegramUserRefHash =
        telegramUserRefHash Reference.stdlib "coop-alpha" telegramUserId := by
  have hmade : ∃ link, newAccountLink gateway ambient (linkArgs telegramUserId) = .ok link := by
    unfold newAccountLink encryptToken
    have hstrip : Text.strip (linkArgs telegramUserId).telegramUserId ≠ "" := h
    rw [if_neg hstrip]
    simp only [resolveTime, linkArgs, Except.mapError, bind, Except.bind]
    have hpattern := gateway.aead.encrypt_pattern ambient.nonce
      (tokenAad "coop-alpha" telegramIdentityAadLabel) telegramUserId
    have hhash : refHashPattern
        (telegramUserRefHash gateway.py "coop-alpha" telegramUserId) = true :=
      refHashPattern_sha256 gateway.py _
    rw [← trim_of_tokenCiphertextPattern hpattern] at hpattern
    rw [Validated.make_of_valid]
    · exact ⟨_, rfl⟩
    · simp only [AccountLinkFields.checks, List.forall_mem_cons]
      exact ⟨by decide, by decide, by decide, hhash, hpattern,
        fun c hc => (by cases hc)⟩
  obtain ⟨link, hlink⟩ := hmade
  obtain ⟨htenant, hmember, hhash, _⟩ := newAccountLink_eq_ok gateway hlink
  refine ⟨link, ?_, ?_, hhash⟩
  · show (newAccountLink gateway ambient (linkArgs telegramUserId)).toOption = some link
    rw [hlink]
    rfl
  · have htrim : (Text.trim "coop-alpha", Text.trim "member-1") = ("coop-alpha", "member-1") := by
      decide
    rw [TelegramAccountLink.memberKey, htenant, hmember]
    exact htrim

end TelegramSample

/-- A member who links one account after another leaves the first one behind. -/
theorem not_accountsAgree_of_relink {gateway : TelegramClientGateway} {first second : TelegramCall}
    {link : TelegramAccountLink} (args : LinkAccountArgs)
    (hfirst : savedLink gateway first = some link) (hsecond : second.operation = .link args)
    (hsaved : (savedLink gateway second).isSome)
    (hkey : link.memberKey = (Text.trim args.tenantId, Text.trim args.memberId))
    (hother : link.telegramUserRefHash ≠
      telegramUserRefHash gateway.py args.tenantId args.telegramUserId) :
    ¬ ∀ earlier later, [first, second] = earlier ++ later →
      AccountsAgree (after gateway.step .initial earlier).accountStore ∧
        SpeaksForCurrent gateway earlier := by
  intro hall
  have hbefore := (hall [first] [second] rfl).1
  have hafter := (hall ([first] ++ [second]) [] rfl).1
  rw [after_concat] at hafter
  have hkeyed : Keyed (after gateway.step .initial [first]).accountStore :=
    keyed_step keyed_empty first
  have hkeeps := (accountsAgree_step_iff hkeyed hbefore second).mp hafter
  refine hother ((hkeeps args hsecond hsaved).1 link ?_)
  show (gateway.step .initial first).2.accountStore.byMember.get? _ = some link
  rw [accountStore_step, hfirst, ← hkey]
  exact Dict.get?_set_self _ _ _

open TelegramSample in
/-- The first account still leads to the member, who has moved on to the second. -/
theorem not_accountsAgree_relink : ¬ ∀ (gateway : TelegramClientGateway)
    (calls : List TelegramCall), ∀ earlier later, calls = earlier ++ later →
      AccountsAgree (after gateway.step .initial earlier).accountStore ∧
        SpeaksForCurrent gateway earlier := by
  intro hall
  obtain ⟨first, hfirst, hkey, hhash⟩ := exists_savedLink "1" (by decide)
  obtain ⟨second, hsecond, _⟩ := exists_savedLink "2" (by decide)
  have hother : telegramUserRefHash Reference.stdlib "coop-alpha" "1" ≠
      telegramUserRefHash Reference.stdlib "coop-alpha" "2" := by decide +kernel
  have htrim : (Text.trim "coop-alpha", Text.trim "member-1") = ("coop-alpha", "member-1") := by
    decide
  refine not_accountsAgree_of_relink (linkArgs "2") hfirst rfl ?_ ?_ ?_
    (hall gateway [links "1", links "2"])
  · rw [hsecond]
    rfl
  · rw [hkey]
    exact htrim.symm
  · rw [hhash]
    exact hother

end MediaCenter.MessengerAdapter
