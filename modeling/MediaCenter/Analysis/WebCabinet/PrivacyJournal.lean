import MediaCenter.Library.Unwinding
import MediaCenter.Model.WebCabinet.Privacy
import Mathlib.Data.List.Pairwise

/-!
# The journal of requests of data subjects

The journal replaces what has the id of a new request, and the id is the caller's.  As long as
every call that is carried out brings an id that its tenant has not used, the journal only
grows, and what a call has returned can be read back for ever.
-/

set_option autoImplicit false

namespace MediaCenter.WebCabinet

open MediaCenter.Library MediaCenter.Shared

/-! ## What one call does to the journal -/

/-- A call that reaches the journal: its body and its caller have passed every check. -/
structure Admitted (call : DataSubjectRequestCall) (payload : DataSubjectRequestCreate)
    (memberId : String) : Prop where
  body : dataSubjectRequestCreate call.body = .ok payload
  target : targetPrivacyMemberId call.context payload.fields.memberId = .ok memberId
  allowed : ensurePrivacyReadAllowed call.context memberId = .ok ()
  tenant : tenantIdPattern call.context.tenantId = true

/-- The record that a call writes: whose it is, and the id it has. -/
structure Writes (call : DataSubjectRequestCall) (record : DataSubjectRequestRecord) : Prop where
  admitted : ∃ payload memberId, Admitted call payload memberId ∧
    record.requestId = requestIdOf call.env payload.fields ∧ record.memberId = memberId
  tenantId_eq : record.tenantId = call.context.tenantId
  trimmed : Text.trim record.requestId = record.requestId

theorem trim_orDefault {value : Option String} {fallback : String}
    (hvalue : ∀ s ∈ value, Text.trim s = s) (hfallback : Text.trim fallback = fallback) :
    Text.trim (orDefault value fallback) = orDefault value fallback := by
  cases value with
  | none => exact hfallback
  | some s =>
      unfold orDefault
      simp only
      by_cases hempty : s = ""
      · rw [if_pos hempty]
        exact hfallback
      · rw [if_neg hempty]
        exact hvalue s rfl

theorem trim_generatedId (u : Uuid4) : Text.trim ("dsr-" ++ u.hex) = "dsr-" ++ u.hex := by
  apply Text.trim_of_forall_visible
  intro c hc
  rw [String.toList_append, List.mem_append] at hc
  rcases hc with hc | hc
  · have hstem : ∀ c ∈ "dsr-".toList, 33 ≤ c.toNat ∧ c.toNat ≤ 126 := by decide
    exact hstem c hc
  · unfold Uuid4.hex at hc
    rw [String.toList_ofList, List.mem_filter] at hc
    have hclass := List.all_eq_true.mp u.chars_text c hc.1
    rw [Bool.or_eq_true, beq_iff_eq] at hclass
    rcases hclass with hhex | rfl
    · exact visible_of_isHexChar hhex
    · exact ⟨by decide, by decide⟩

theorem trim_requestIdOf {body : DataSubjectRequestFields} {payload : DataSubjectRequestCreate}
    (h : dataSubjectRequestCreate body = .ok payload) (env : Ambient) :
    Text.trim (requestIdOf env payload.fields) = requestIdOf env payload.fields := by
  unfold dataSubjectRequestCreate at h
  rw [Validated.make_eq_ok_iff] at h
  unfold requestIdOf
  rw [h]
  apply trim_orDefault
  · intro s hs
    rw [Option.mem_def, Option.map_eq_some_iff] at hs
    obtain ⟨requestId, _, rfl⟩ := hs
    exact Text.dropBoth_dropBoth _ requestId
  · exact trim_generatedId (env.uuid 0)

section Calls

variable (py : Stdlib)

theorem tenantIdPattern_of_auditHash {eventType tenantId hash : String} {metadata : JSONObject}
    {timestamp : Instant} (h : auditHash py eventType tenantId metadata timestamp = .ok hash) :
    tenantIdPattern tenantId = true := by
  unfold auditHash at h
  by_contra htenant
  rw [if_neg htenant] at h
  cases h

/-- INTERNAL: a call that is not admitted leaves the journal as it is and answers with an error;
an admitted one saves the record that it answers with. -/
theorem journal_step (s : InMemoryWebCabinetRepository) (call : DataSubjectRequestCall) :
    ((¬ ∃ payload memberId, Admitted call payload memberId) ∧
        (∃ e, (s.step py call).1 = .error e) ∧
        (s.step py call).2.dataSubjectRequests = s.dataSubjectRequests) ∨
      ∃ record, Writes call record ∧
        (s.step py call).1 = dataSubjectRequestResponse record ∧
        (s.step py call).2.dataSubjectRequests =
          saveDataSubjectRequest s.dataSubjectRequests record := by
  unfold InMemoryWebCabinetRepository.step createDataSubjectRequest
  rw [Fallible.exec_ofExcept_bind]
  cases hbody : dataSubjectRequestCreate call.body with
  | error e =>
      refine .inl ⟨?_, ⟨e, rfl⟩, rfl⟩
      rintro ⟨payload, memberId, hadmitted⟩
      exact absurd (hbody.symm.trans hadmitted.body) (by simp)
  | ok payload =>
  simp only
  rw [Fallible.exec_ofExcept_bind]
  cases htarget : targetPrivacyMemberId call.context payload.fields.memberId with
  | error e =>
      refine .inl ⟨?_, ⟨e, rfl⟩, rfl⟩
      rintro ⟨payload', memberId, hadmitted⟩
      cases hbody.symm.trans hadmitted.body
      exact absurd (htarget.symm.trans hadmitted.target) (by simp)
  | ok memberId =>
  simp only
  rw [Fallible.exec_ofExcept_bind]
  cases hallowed : ensurePrivacyReadAllowed call.context memberId with
  | error e =>
      refine .inl ⟨?_, ⟨e, rfl⟩, rfl⟩
      rintro ⟨payload', memberId', hadmitted⟩
      cases hbody.symm.trans hadmitted.body
      cases htarget.symm.trans hadmitted.target
      exact absurd (hallowed.symm.trans hadmitted.allowed) (by simp)
  | ok u =>
  simp only
  rw [Fallible.exec_bind]
  unfold completeDataSubjectRequest
  simp only [Fallible.exec_inspect_bind, Fallible.exec_change_bind,
    Fallible.exec_ofExcept_bind]
  generalize hhash : dataSubjectRequestAuditHash py call.context.tenantId
    (requestIdOf call.env payload.fields) memberId payload.fields.requestType _ _ _ _ _ = hash
  cases hash with
  | error e =>
      refine .inl ⟨?_, ⟨e, rfl⟩, rfl⟩
      rintro ⟨payload', memberId', hadmitted⟩
      unfold dataSubjectRequestAuditHash auditHash at hhash
      rw [if_pos hadmitted.tenant] at hhash
      cases hhash
  | ok hash =>
      refine .inr ⟨_, ⟨⟨payload, memberId, ⟨hbody, htarget, hallowed, ?_⟩, rfl, rfl⟩, rfl, ?_⟩,
        rfl, rfl⟩
      · exact tenantIdPattern_of_auditHash py hhash
      · exact trim_requestIdOf hbody call.env

end Calls

/-! ## A journal that only grows -/

/-- The id of a call that reaches the journal is not one that its tenant has used. -/
def NewRequestId (s : InMemoryWebCabinetRepository) (call : DataSubjectRequestCall) : Prop :=
  ∀ payload memberId, Admitted call payload memberId →
    ∀ record ∈ s.dataSubjectRequests, ¬ (record.tenantId = call.context.tenantId ∧
      record.requestId = requestIdOf call.env payload.fields)

/-- The tenants of a journal are well formed, its ids carry no white space around them, and no
tenant has an id twice. -/
structure Journal (journal : List DataSubjectRequestRecord) : Prop where
  tenant : ∀ record ∈ journal, tenantIdPattern record.tenantId = true
  trimmed : ∀ record ∈ journal, Text.trim record.requestId = record.requestId
  distinct : journal.Pairwise fun a b => ¬ (a.tenantId = b.tenantId ∧ a.requestId = b.requestId)

theorem saveDataSubjectRequest_of_new {journal : List DataSubjectRequestRecord}
    {record : DataSubjectRequestRecord}
    (h : ∀ r ∈ journal, ¬ (r.tenantId = record.tenantId ∧ r.requestId = record.requestId)) :
    saveDataSubjectRequest journal record = journal ++ [record] := by
  unfold saveDataSubjectRequest
  congr 1
  rw [List.filter_eq_self]
  intro r hr
  exact decide_eq_true (h r hr)

theorem Journal.concat {journal : List DataSubjectRequestRecord}
    {record : DataSubjectRequestRecord} (h : Journal journal)
    (htenant : tenantIdPattern record.tenantId = true)
    (htrimmed : Text.trim record.requestId = record.requestId)
    (hnew : ∀ r ∈ journal, ¬ (r.tenantId = record.tenantId ∧ r.requestId = record.requestId)) :
    Journal (journal ++ [record]) where
  tenant := by
    intro r hr
    rcases List.mem_append.mp hr with hr | hr
    · exact h.tenant r hr
    · rw [List.mem_singleton.mp hr]
      exact htenant
  trimmed := by
    intro r hr
    rcases List.mem_append.mp hr with hr | hr
    · exact h.trimmed r hr
    · rw [List.mem_singleton.mp hr]
      exact htrimmed
  distinct := by
    rw [List.pairwise_append]
    refine ⟨h.distinct, List.pairwise_singleton _ _, ?_⟩
    intro r hr r' hr'
    rw [List.mem_singleton.mp hr']
    exact hnew r hr

/-! ### Reading back -/

theorem Journal.listForTenant_eq {journal : List DataSubjectRequestRecord} (h : Journal journal)
    (context : TenantContext) :
    listForTenant DataSubjectRequestRecord.tenantId journal context =
      .ok (journal.filter fun record => record.tenantId = context.tenantId) :=
  listForTenant_eq_ok h.tenant context

theorem Journal.find_eq {journal : List DataSubjectRequestRecord} (h : Journal journal)
    {record : DataSubjectRequestRecord} (hrecord : record ∈ journal) {context : TenantContext}
    (hcontext : context.tenantId = record.tenantId) :
    findDataSubjectRequest journal context record.requestId = .ok (some record) := by
  unfold findDataSubjectRequest
  rw [h.listForTenant_eq context]
  show Except.ok _ = Except.ok _
  congr 1
  have hmem : record ∈ journal.filter fun record => record.tenantId = context.tenantId :=
    List.mem_filter.mpr ⟨hrecord, decide_eq_true hcontext.symm⟩
  cases hfound : (journal.filter fun record => record.tenantId = context.tenantId).find?
      fun r => r.requestId = record.requestId with
  | none =>
      have hno := List.find?_eq_none.mp hfound record hmem
      simp at hno
  | some r =>
      have hid : r.requestId = record.requestId := by
        simpa using List.find?_some hfound
      have hr := List.mem_filter.mp (List.mem_of_find?_eq_some hfound)
      have htenant : r.tenantId = context.tenantId := by simpa using hr.2
      by_contra hne
      have hother : r ≠ record := fun heq => hne (congrArg some heq)
      have : Std.Symm fun a b : DataSubjectRequestRecord =>
          ¬ (a.tenantId = b.tenantId ∧ a.requestId = b.requestId) :=
        ⟨fun a b hab hba => hab ⟨hba.1.symm, hba.2.symm⟩⟩
      exact h.distinct.forall hr.1 hrecord hother ⟨htenant.trans hcontext, hid⟩

theorem Journal.mem_list {journal : List DataSubjectRequestRecord} (h : Journal journal)
    {record : DataSubjectRequestRecord} (hrecord : record ∈ journal) {context : TenantContext}
    (hcontext : context.tenantId = record.tenantId) {limit : ℕ} (hlimit : journal.length ≤ limit) :
    ∃ records, listDataSubjectRequests journal context record.memberId limit = .ok records ∧
      record ∈ records := by
  unfold listDataSubjectRequests
  rw [h.listForTenant_eq context]
  refine ⟨_, rfl, ?_⟩
  have hshort : (((journal.filter fun record => record.tenantId = context.tenantId).filter
      fun r => r.memberId = record.memberId).insertionSort
        DataSubjectRequestRecord.NotBefore).length ≤ limit := by
    rw [List.length_insertionSort]
    calc _ ≤ (journal.filter fun record => record.tenantId = context.tenantId).length :=
          List.length_filter_le _ _
      _ ≤ journal.length := List.length_filter_le _ _
      _ ≤ limit := hlimit
  rw [List.take_of_length_le hshort, List.mem_insertionSort, List.mem_filter, List.mem_filter]
  exact ⟨⟨hrecord, decide_eq_true hcontext.symm⟩, decide_eq_true rfl⟩

/-- What was returned for a request can still be had: by its id, in every context of its tenant
that may read it, and in the list of its member. -/
def Retained (s : InMemoryWebCabinetRepository) (response : DataSubjectRequestResponse) : Prop :=
  ∀ context : TenantContext, context.tenantId = response.fields.tenantId →
    ∃ record, findDataSubjectRequest s.dataSubjectRequests context response.fields.requestId =
        .ok (some record) ∧
      dataSubjectRequestResponse record = .ok response ∧
      (ensurePrivacyReadAllowed context record.memberId = .ok () →
        getDataSubjectRequest s context response.fields.requestId = .ok response) ∧
      ∀ limit, s.dataSubjectRequests.length ≤ limit →
        ∃ records, listDataSubjectRequests s.dataSubjectRequests context record.memberId limit =
          .ok records ∧ record ∈ records

theorem response_fields {record : DataSubjectRequestRecord} {response : DataSubjectRequestResponse}
    (h : dataSubjectRequestResponse record = .ok response) :
    response.fields.tenantId = Text.trim record.tenantId ∧
      response.fields.requestId = Text.trim record.requestId := by
  unfold dataSubjectRequestResponse at h
  rw [Validated.make_eq_ok_iff] at h
  rw [h]
  exact ⟨rfl, rfl⟩

theorem Journal.retained {s : InMemoryWebCabinetRepository} (h : Journal s.dataSubjectRequests)
    {record : DataSubjectRequestRecord} (hrecord : record ∈ s.dataSubjectRequests)
    {response : DataSubjectRequestResponse}
    (hresponse : dataSubjectRequestResponse record = .ok response) : Retained s response := by
  obtain ⟨htenant, hid⟩ := response_fields hresponse
  rw [trim_of_tokenPattern (tokenPattern_of_tenantIdPattern (h.tenant record hrecord))] at htenant
  rw [h.trimmed record hrecord] at hid
  intro context hcontext
  rw [htenant] at hcontext
  rw [hid]
  have hfind := h.find_eq hrecord hcontext
  refine ⟨record, hfind, hresponse, ?_, fun limit => h.mem_list hrecord hcontext⟩
  intro hallowed
  have hpolicy : requireAccess privacySelfServicePolicy context = .ok context := by
    unfold ensurePrivacyReadAllowed at hallowed
    rw [bind_eq_ok_iff] at hallowed
    obtain ⟨actor, hactor, _⟩ := hallowed
    rw [hactor, requireAccess_eq_ok hactor]
  unfold getDataSubjectRequest
  rw [hpolicy]
  simp only [bind, Except.bind, hfind, hallowed]
  exact hresponse

section Runs

variable (py : Stdlib)

/-- In every state that a run reaches, all that has been returned is retained, and what a state
has in its journal stays there, in its place. -/
structure AppendOnly (s : InMemoryWebCabinetRepository) (calls : List DataSubjectRequestCall) :
    Prop where
  retained : ∀ earlier later, calls = earlier ++ later →
    ∀ call response,
      (call, .ok response) ∈ answers (InMemoryWebCabinetRepository.step py) s earlier →
      Retained (after (InMemoryWebCabinetRepository.step py) s earlier) response
  grows : ∀ earlier middle later, calls = earlier ++ middle ++ later →
    (after (InMemoryWebCabinetRepository.step py) s earlier).dataSubjectRequests <+:
      (after (InMemoryWebCabinetRepository.step py) s (earlier ++ middle)).dataSubjectRequests

variable {py} {s : InMemoryWebCabinetRepository} {call : DataSubjectRequestCall}

/-- INTERNAL: a call with a new id keeps the journal and at most appends its record to it. -/
theorem Journal.step (h : Journal s.dataSubjectRequests) (hnew : NewRequestId s call) :
    Journal (s.step py call).2.dataSubjectRequests ∧
      s.dataSubjectRequests <+: (s.step py call).2.dataSubjectRequests ∧
      ∀ response, (s.step py call).1 = .ok response →
        ∃ record ∈ (s.step py call).2.dataSubjectRequests,
          dataSubjectRequestResponse record = .ok response := by
  rcases journal_step py s call with ⟨_, ⟨e, he⟩, hsame⟩ | ⟨record, hwrites, hanswer, hsaved⟩
  · rw [hsame, he]
    exact ⟨h, List.prefix_refl _, fun response hresponse => (by cases hresponse)⟩
  · obtain ⟨payload, memberId, hadmitted, hid, _⟩ := hwrites.admitted
    have hfree : ∀ r ∈ s.dataSubjectRequests,
        ¬ (r.tenantId = record.tenantId ∧ r.requestId = record.requestId) := by
      rw [hwrites.tenantId_eq, hid]
      exact hnew payload memberId hadmitted
    rw [hsaved, hanswer, saveDataSubjectRequest_of_new hfree]
    refine ⟨h.concat ?_ hwrites.trimmed hfree, List.prefix_append _ _, ?_⟩
    · rw [hwrites.tenantId_eq]
      exact hadmitted.tenant
    · intro response hresponse
      exact ⟨record, List.mem_append_right _ (List.mem_singleton_self record), hresponse⟩

/-- INTERNAL: what one call keeps, a run keeps; the induction is on the calls. -/
theorem Journal.run (h : Journal s.dataSubjectRequests) {calls : List DataSubjectRequestCall}
    (hcalls : EachMeets (InMemoryWebCabinetRepository.step py) NewRequestId s calls) :
    Journal (after (InMemoryWebCabinetRepository.step py) s calls).dataSubjectRequests ∧
      s.dataSubjectRequests <+:
        (after (InMemoryWebCabinetRepository.step py) s calls).dataSubjectRequests ∧
      ∀ call response, (call, .ok response) ∈
          answers (InMemoryWebCabinetRepository.step py) s calls →
        ∃ record ∈ (after (InMemoryWebCabinetRepository.step py) s calls).dataSubjectRequests,
          dataSubjectRequestResponse record = .ok response := by
  induction calls generalizing s with
  | nil => exact ⟨h, List.prefix_refl _, fun call response hanswer => (by cases hanswer)⟩
  | cons call calls ih =>
      obtain ⟨hnew, hrest⟩ := hcalls
      obtain ⟨hjournal, hprefix, hanswered⟩ := @Journal.step py s call h hnew
      obtain ⟨hlast, hgrown, hlater⟩ := ih hjournal hrest
      refine ⟨hlast, hprefix.trans hgrown, ?_⟩
      intro call' response hanswer
      rw [answers, List.mem_cons, Prod.mk.injEq] at hanswer
      rcases hanswer with ⟨_, hfirst⟩ | hanswer
      · obtain ⟨record, hrecord, hresponse⟩ := hanswered response hfirst.symm
        exact ⟨record, hgrown.subset hrecord, hresponse⟩
      · exact hlater call' response hanswer

theorem journal_nil : Journal [] where
  tenant := fun _ h => (by cases h)
  trimmed := fun _ h => (by cases h)
  distinct := List.Pairwise.nil

end Runs

/-- A run in which every call that is carried out brings a new id has an append-only journal. -/
theorem appendOnly_of_newRequestIds (py : Stdlib) (data : CabinetData)
    (calls : List DataSubjectRequestCall)
    (h : EachMeets (InMemoryWebCabinetRepository.step py) NewRequestId ⟨data, []⟩ calls) :
    AppendOnly py ⟨data, []⟩ calls where
  retained := by
    intro earlier later hcalls call response hanswer
    rw [hcalls, eachMeets_append] at h
    obtain ⟨hjournal, _, hanswered⟩ := journal_nil.run h.1
    obtain ⟨record, hrecord, hresponse⟩ := hanswered call response hanswer
    exact hjournal.retained hrecord hresponse
  grows := by
    intro earlier middle later hcalls
    rw [hcalls, eachMeets_append, eachMeets_append] at h
    have hjournal := (journal_nil.run h.1.1).1
    rw [after_append]
    exact (hjournal.run h.1.2).2.1

namespace JournalSample

def data : CabinetData := ⟨.empty, [], .empty, [], []⟩

open Reference in
def ambient : Ambient :=
  ⟨0, epoch_nonneg, epoch_le_datetimeMax, fun _ => uuid⟩

/-- A member asks for a copy of the data kept about the member. -/
def call (subject requestId : String) : DataSubjectRequestCall where
  env := ambient
  body := ⟨some requestId, .access, none, "copy", none, []⟩
  context := ⟨"tenant-a", some subject, ["member_full"], none⟩

def payload (requestId : String) : DataSubjectRequestFields :=
  ⟨some (Text.trim requestId), .access, none, Text.trim "copy", none, []⟩

theorem admitted_call {subject requestId : String} (hsubject : Text.strip subject ≠ "")
    (hchecks : ∀ c ∈ (payload requestId).checks, c.2 = true) :
    Admitted (call subject requestId) ⟨payload requestId, hchecks⟩ subject where
  body := Validated.make_of_valid _ _ hchecks
  target := by
    show (if Text.strip subject = "" then _ else Except.ok subject : Except _ _) = _
    rw [if_neg hsubject]
  allowed := by
    show (if some subject = some subject then _ else _ : Except SharedException Unit) = _
    rw [if_pos rfl]
    rfl
  tenant := by
    show tenantIdPattern "tenant-a" = true
    decide

theorem admitted_first :
    Admitted (call "ana" "dsr-1") ⟨payload "dsr-1", by decide⟩ "ana" :=
  admitted_call (by decide) (by decide)

theorem newRequestIds_calls : EachMeets (InMemoryWebCabinetRepository.step Reference.stdlib)
    NewRequestId ⟨data, []⟩ [call "ana" "dsr-1", call "boris" "dsr-2"] := by
  refine ⟨fun _ _ _ record hrecord => (by cases hrecord), ?_, trivial⟩
  intro second memberId hsecond record hrecord hsame
  have hfirst : record.requestId = "dsr-1" := by
    rcases journal_step Reference.stdlib ⟨data, []⟩ (call "ana" "dsr-1") with
      ⟨hrefused, _⟩ | ⟨saved, hwrites, _, hsaved⟩
    · exact absurd ⟨_, _, admitted_first⟩ hrefused
    · rw [hsaved] at hrecord
      cases List.mem_singleton.mp hrecord
      obtain ⟨first, _, hadmitted, hid, _⟩ := hwrites.admitted
      cases admitted_first.body.symm.trans hadmitted.body
      rw [hid]
      decide
  have hbody : second.fields = payload "dsr-2" := by
    have hmake := hsecond.body
    unfold dataSubjectRequestCreate at hmake
    rwa [Validated.make_eq_ok_iff] at hmake
  rw [hfirst, hbody] at hsame
  exact absurd hsame.2 (by decide)

end JournalSample

open JournalSample Reference in
/-- Two members make requests under ids of their own. -/
theorem appendOnly_of_newRequestIds_calls : AppendOnly stdlib ⟨data, []⟩
    [call "ana" "dsr-1", call "boris" "dsr-2"] :=
  appendOnly_of_newRequestIds stdlib data _ newRequestIds_calls

open JournalSample Reference in
/-- A member makes a request under the id of the request of another. -/
theorem not_appendOnly_reused : ¬ ∀ (py : Stdlib) (data : CabinetData)
    (calls : List DataSubjectRequestCall), AppendOnly py ⟨data, []⟩ calls := by
  intro hall
  have hgrows := (hall stdlib data [call "ana" "dsr-1", call "boris" "dsr-1"]).grows
    [call "ana" "dsr-1"] [call "boris" "dsr-1"] [] rfl
  have hsecond : Admitted (call "boris" "dsr-1") ⟨payload "dsr-1", by decide⟩ "boris" :=
    admitted_call (by decide) (by decide)
  rcases journal_step stdlib ⟨data, []⟩ (call "ana" "dsr-1") with
    ⟨hrefused, _⟩ | ⟨first, hwrites, _, hsaved⟩
  · exact absurd ⟨_, _, admitted_first⟩ hrefused
  rcases journal_step stdlib (after (InMemoryWebCabinetRepository.step stdlib)
      ⟨data, []⟩ [call "ana" "dsr-1"]) (call "boris" "dsr-1") with
    ⟨hrefused, _⟩ | ⟨second, hwrites', _, hsaved'⟩
  · exact absurd ⟨_, _, hsecond⟩ hrefused
  obtain ⟨_, _, hadmitted, hid, hmember⟩ := hwrites.admitted
  cases admitted_first.body.symm.trans hadmitted.body
  cases admitted_first.target.symm.trans hadmitted.target
  obtain ⟨_, _, hadmitted', hid', hmember'⟩ := hwrites'.admitted
  cases hsecond.body.symm.trans hadmitted'.body
  cases hsecond.target.symm.trans hadmitted'.target
  have hjournal : (after (InMemoryWebCabinetRepository.step stdlib) ⟨data, []⟩
      [call "ana" "dsr-1"]).dataSubjectRequests = [first] := hsaved
  rw [hjournal] at hsaved' hgrows
  have hreplaced : saveDataSubjectRequest [first] second = [second] := by
    unfold saveDataSubjectRequest
    rw [List.filter_cons_of_neg, List.filter_nil, List.nil_append]
    rw [hwrites.tenantId_eq, hwrites'.tenantId_eq, hid, hid']
    decide
  rw [after_append] at hgrows
  have hlast : [first] <+: [second] := by
    rw [← hreplaced, ← hsaved']
    exact hgrows
  have hsame : first = second := by
    obtain ⟨tail, htail⟩ := hlast
    exact (List.cons.inj htail).1
  rw [hsame, hmember'] at hmember
  exact absurd hmember (by decide)

end MediaCenter.WebCabinet
