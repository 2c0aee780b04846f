import Nanihold.Commands
import Nanihold.Lethe.Client
import Nanihold.Safety.Failover

/-!
# Continuing a stream after an attachment

A process that attaches a commissioned instance continues its stream: it takes the version of the
last event that one read of the stream returns. A read returns a bounded number of events, so on a
longer stream it takes the bound for the version; and a contract's stream is not read at all.

## Main definitions

* `runLifecycle` — a process that attaches an instance and goes on.
* `AppendRequest.Continues` — an event that is the next of its stream.
* `ContinuesStreams` — the condition on a step.

## Main results

* `continuing_step` — a step that meets the condition asks for next events alone.
* `attachmentLaw_of_continuesStreams` — so does a run whose steps all meet it.
* `long_stream_breaks_attachmentLaw` — an attached instance with more events than one read
  returns, and a contract with an event of an earlier process.
-/

namespace Nanihold

variable [Sha256]

/-- The services of one process over an observed LETHE ledger. -/
abbrev LetheSystem := System (ObservedLedger LetheOperationalLedger)

/-- A process that starts on a ledger to which others have written. -/
def startedOn (dataSpace : DataSpace) (ledger : LetheOperationalLedger) : LetheSystem where
  ledger := ⟨ledger, []⟩
  kernel := .new dataSpace
  interface := .new dataSpace.dataSpaceId
  tokenLab := .new dataSpace.dataSpaceId
  environments _ := .new ledger.lake.dataSpaceId

/-- The system after one operation of the lifecycle, whether it returns or raises. -/
def EnvironmentCommand.step (s : LetheSystem) (input : EnvironmentCommand × Clock) :
    LetheSystem :=
  (input.1.run 0 input.2).finalState s

/-- The system after a run of the lifecycle. -/
def runLifecycle (s : LetheSystem) (inputs : List (EnvironmentCommand × Clock)) : LetheSystem :=
  Run.exec EnvironmentCommand.step s inputs

/-- **The event is the next of its stream**, so that a ledger that knows neither its key nor its
identity accepts it. -/
structure AppendRequest.Continues (request : AppendRequest LetheOperationalLedger) : Prop where
  next_version : request.event.streamVersion =
    request.ledger.lake.streamLength request.event.streamId + 1
  accepted : request.ledger.lake.idempotency.get? request.event.idempotencyKey = none →
    request.ledger.lake.eventIds.get? request.event.eventId = none →
    ∃ cursor next, request.ledger.lake.append request.event request.expectedStreamVersion =
      .ok (⟨.appended, cursor, request.event.streamVersion⟩, next)

/-- The law of an attachment: whatever the process does after it attached an instance, every event
that it asks the ledger to append is the next of its stream. -/
def AttachmentLaw (dataSpace : DataSpace) (ledger : LetheOperationalLedger)
    (environmentInstance : EnvironmentInstance) (contract : EnvironmentContract)
    (inputs : List (EnvironmentCommand × Clock)) : Prop :=
  ∀ clock attached,
    (EnvironmentCommand.attachActive environmentInstance contract).run 0 clock
      (startedOn dataSpace ledger) = .ok () attached →
    ∀ request ∈ (runLifecycle attached inputs).ledger.requests, request.Continues

/-! ### The condition -/

/-- The recordings that an operation comes to when its checks pass. -/
def EnvironmentCommand.recordings (e : EnvironmentInstanceService) (clock : Clock) :
    EnvironmentCommand → Except VsmError (List (Recording EnvironmentInstanceService))
  | .attachActive _ _ => .ok []
  | .register environmentInstance contract key =>
    (e.register environmentInstance contract key clock).map ([·])
  | .verify instanceId evidence key => (e.verify instanceId evidence key clock).map ([·])
  | .preflightEvidenceHook instanceId keyPrefix evidence =>
    (e.preflightEvidenceHook instanceId keyPrefix evidence clock).map ([·])
  | .activate instanceId key => (e.activate instanceId key clock).map ([·])
  | .retire instanceId key => (e.retire instanceId key clock).map ([·])
  | .failover failedInstanceId key _ =>
    (e.failoverRecordings failedInstanceId key clock).map (·.1)

/-- One read returns the whole stream of the instance that is attached. -/
def ReadsToEnd (ledger : LetheOperationalLedger) (instanceId : String) : Prop :=
  ledger.lake.streamLength instanceId ≤ min 100000 ledger.maxPageSize

/-- The process has read or written the stream, or nobody has written it. -/
def KnownOrEmpty (s : LetheSystem) (streamId : String) : Prop :=
  (s.environments 0).versions.contains streamId = true ∨
    s.ledger.ledger.lake.streamLength streamId = 0

/-- **The condition on a step**: an attachment reads the stream of the instance to its end, and
every other operation records on streams that the process has read or written or that are
empty. -/
def ContinuesStreams (s : LetheSystem) (input : EnvironmentCommand × Clock) : Prop :=
  match input.1 with
  | .attachActive environmentInstance _ => ReadsToEnd s.ledger.ledger environmentInstance.instanceId
  | c => Checked.Yields (c.recordings (s.environments 0) input.2) fun recordings =>
      ∀ r ∈ recordings, KnownOrEmpty s r.streamId

instance (s : LetheSystem) (streamId : String) : Decidable (KnownOrEmpty s streamId) :=
  inferInstanceAs (Decidable (_ ∨ _))

instance (s : LetheSystem) (input : EnvironmentCommand × Clock) :
    Decidable (ContinuesStreams s input) := by
  unfold ContinuesStreams ReadsToEnd
  split <;> infer_instance

/-! ### One recording -/

section Record

variable {σ : Type} [Service (ObservedLedger LetheOperationalLedger) σ] {s : LetheSystem}
  {r : Recording σ} {event : EventEnvelope}

/-- A recording that the data model refuses asks the ledger for nothing. -/
theorem record_of_unrequested {e : VsmError}
    (henvelope : r.envelope (Component.read s : σ) = .error e) : record r s = .error e s := by
  simp only [record, EStateM.run_bind_eq, EStateM.run_get_eq, henvelope,
    EStateM.run_ofExcept_error]

/-- A recording whose event the lake refuses leaves the request. -/
theorem record_of_requested_error {e : VsmError}
    (henvelope : r.envelope (Component.read s : σ) = .ok event)
    (happend : s.ledger.ledger.lake.append event
      (EventWriter.version (Component.read s : σ) r.streamId) = .error e) :
    record r s = .error e
      { s with
        ledger := ⟨s.ledger.ledger, s.ledger.requests ++ [⟨s.ledger.ledger, event,
          EventWriter.version (Component.read s : σ) r.streamId⟩]⟩ } := by
  simp only [record, EStateM.run_bind_eq, EStateM.run_get_eq, henvelope,
    EStateM.run_ofExcept_ok, onLedger, OperationalLedger.append, happend]

/-- A recording whose event the lake accepts leaves the request and the event, and runs its
assignments. -/
theorem record_of_requested {result : AppendResult} {lake : InMemoryOperationalLedger}
    (henvelope : r.envelope (Component.read s : σ) = .ok event)
    (happend : s.ledger.ledger.lake.append event
      (EventWriter.version (Component.read s : σ) r.streamId) = .ok (result, lake)) :
    let requested : LetheSystem :=
      { s with
        ledger := ⟨{ s.ledger.ledger with lake := lake }, s.ledger.requests ++
          [⟨s.ledger.ledger, event, EventWriter.version (Component.read s : σ) r.streamId⟩]⟩ }
    record r s =
      match r.update event result
        (EventWriter.advance (Component.read s) r.streamId result) with
      | .ok _ t => .ok (event, result) (Component.write requested t)
      | .error e t => .error e (Component.write requested t) := by
  intro requested
  simp only [record, EStateM.run_bind_eq, EStateM.run_get_eq, henvelope,
    EStateM.run_ofExcept_ok, onLedger, OperationalLedger.append, happend, EStateM.zoom,
    EStateM.run_modify_eq, Service.read_ledger, Component.read_write]
  cases r.update event result (EventWriter.advance (Component.read s) r.streamId result) <;>
    simp only [Component.write_write, EStateM.run_pure_eq, requested]

end Record

/-- **The invariant**: what the process knows of a stream is how long it is, and all that it asked
for were next events. -/
structure Continuing (s : LetheSystem) : Prop where
  data_space : (s.environments 0).dataSpaceId = s.ledger.ledger.lake.dataSpaceId
  known : ∀ streamId, (s.environments 0).versions.contains streamId = true →
    (s.environments 0).versions.getD streamId 0 = s.ledger.ledger.lake.streamLength streamId
  continued : ∀ request ∈ s.ledger.requests, request.Continues

omit [Sha256] in
theorem continuing_startedOn (dataSpace : DataSpace) (ledger : LetheOperationalLedger) :
    Continuing (startedOn dataSpace ledger) where
  data_space := rfl
  known _ h := by cases h
  continued _ h := by cases h

variable {s : LetheSystem}

omit [Sha256] in
/-- The process knows the length of a stream that it may record on. -/
theorem Continuing.version_eq (hs : Continuing s) {streamId : String}
    (hknown : KnownOrEmpty s streamId) :
    (s.environments 0).versions.getD streamId 0 = s.ledger.ledger.lake.streamLength streamId := by
  by_cases hcontains : (s.environments 0).versions.contains streamId = true
  · exact hs.known streamId hcontains
  · rw [hknown.resolve_left hcontains]
    rw [Bool.not_eq_true, OrderedDict.contains_eq_false_iff] at hcontains
    rw [OrderedDict.getD, hcontains, Option.getD_none]

/-- A recording of the lifecycle: its assignments change the instances alone. -/
def Recording.OfLifecycle (r : Recording EnvironmentInstanceService) : Prop :=
  ∃ streamId payload key occurredAt assign,
    r = EnvironmentInstanceService.recording streamId payload key occurredAt assign ∧
      ∀ e, (assign e).versions = e.versions ∧ (assign e).dataSpaceId = e.dataSpaceId

omit [Sha256] in
theorem Recording.ofLifecycle_recording (streamId : String) (payload : EnvironmentPayload)
    (key : String) (occurredAt : DateTime)
    {assign : EnvironmentInstanceService → EnvironmentInstanceService}
    (hassign : ∀ e, (assign e).versions = e.versions ∧ (assign e).dataSpaceId = e.dataSpaceId) :
    (EnvironmentInstanceService.recording streamId payload key occurredAt assign).OfLifecycle :=
  ⟨streamId, payload, key, occurredAt, assign, rfl, hassign⟩

omit [Sha256] in
theorem ofLifecycle_verify (e : EnvironmentInstanceService) (instanceId : String)
    (evidence : PreflightEvidence) (key : String) (clock : Clock) :
    Checked.Yields (e.verify instanceId evidence key clock) Recording.OfLifecycle := by
  simp only [EnvironmentInstanceService.verify, Checked.yields_bind, Checked.yields_ite,
    Checked.yields_pure]
  intros
  exact ⟨fun _ => Recording.ofLifecycle_recording _ _ _ _ fun _ => ⟨rfl, rfl⟩,
    fun _ => Recording.ofLifecycle_recording _ _ _ _ fun _ => ⟨rfl, rfl⟩⟩

omit [Sha256] in
/-- The recordings of an operation are recordings of the lifecycle. -/
theorem EnvironmentCommand.recordings_ofLifecycle (e : EnvironmentInstanceService)
    (clock : Clock) (c : EnvironmentCommand) :
    Checked.Yields (c.recordings e clock) fun recordings => ∀ r ∈ recordings, r.OfLifecycle := by
  have hone {plan : Except VsmError (Recording EnvironmentInstanceService)}
      (h : Checked.Yields plan Recording.OfLifecycle) :
      Checked.Yields (plan.map ([·])) fun recordings => ∀ r ∈ recordings, r.OfLifecycle := by
    refine Checked.yields_map.mpr fun r hr other hother => ?_
    rw [List.mem_singleton.mp hother]
    exact h r hr
  have hassign (moved : EnvironmentInstance) (e : EnvironmentInstanceService) :
      (EnvironmentInstanceService.put moved e).versions = e.versions ∧
        (EnvironmentInstanceService.put moved e).dataSpaceId = e.dataSpaceId := ⟨rfl, rfl⟩
  cases c with
  | attachActive => exact Checked.yields_ok.mpr fun _ h => by cases h
  | register environmentInstance contract key =>
    refine hone ?_
    simp only [EnvironmentInstanceService.register, Checked.yields_bind, Checked.yields_pure]
    intros
    exact Recording.ofLifecycle_recording _ _ _ _ (hassign _)
  | verify instanceId evidence key =>
    exact hone (ofLifecycle_verify e instanceId evidence key clock)
  | preflightEvidenceHook instanceId keyPrefix evidence =>
    refine hone ?_
    simp only [EnvironmentInstanceService.preflightEvidenceHook, Checked.yields_bind]
    intros
    exact ofLifecycle_verify e instanceId evidence _ clock
  | activate instanceId key =>
    refine hone ?_
    simp only [EnvironmentInstanceService.activate, Checked.yields_bind, Checked.yields_pure]
    intros
    exact Recording.ofLifecycle_recording _ _ _ _ fun _ => ⟨rfl, rfl⟩
  | retire instanceId key =>
    refine hone ?_
    simp only [EnvironmentInstanceService.retire, Checked.yields_bind, Checked.yields_pure]
    intros
    exact Recording.ofLifecycle_recording _ _ _ _ fun _ => ⟨rfl, rfl⟩
  | failover failedInstanceId key requestReprovision =>
    refine Checked.yields_map.mpr fun answer hanswer => ?_
    obtain ⟨recordings, reprovision⟩ := answer
    obtain ⟨failed, contractStream, -, -, ⟨replacement, -, -, -, -, rfl⟩ | ⟨-, rfl⟩⟩ :=
      failoverRecordings_cases hanswer
    · simp only [List.mem_cons, List.not_mem_nil, or_false]
      rintro r (rfl | rfl | rfl)
      · exact Recording.ofLifecycle_recording _ _ _ _ fun _ => ⟨rfl, rfl⟩
      · exact Recording.ofLifecycle_recording _ _ _ _ fun _ => ⟨rfl, rfl⟩
      · exact Recording.ofLifecycle_recording _ _ _ _ fun _ => ⟨rfl, rfl⟩
    · simp only [List.mem_cons, List.not_mem_nil, or_false]
      rintro r (rfl | rfl)
      · exact Recording.ofLifecycle_recording _ _ _ _ fun _ => ⟨rfl, rfl⟩
      · exact Recording.ofLifecycle_recording _ _ _ _ (hassign _)

omit [Sha256] in
/-- The invariant after an event was appended and the process noted its version. -/
theorem Continuing.appended (hs : Continuing s) {event : EventEnvelope}
    (happ : s.ledger.ledger.lake.Appendable event)
    {requests : List (AppendRequest LetheOperationalLedger)}
    (hcontinued : ∀ request ∈ requests, request.Continues) {e : EnvironmentInstanceService}
    (hversions : e.versions = (s.environments 0).versions.set event.streamId event.streamVersion)
    (hspace : e.dataSpaceId = (s.environments 0).dataSpaceId) :
    let next : LetheSystem :=
      { s with
        ledger := ⟨{ s.ledger.ledger with lake := s.ledger.ledger.lake.push event happ }, requests⟩
        environments := Function.update s.environments 0 e }
    Continuing next ∧ ∀ streamId, KnownOrEmpty s streamId → KnownOrEmpty next streamId := by
  intro next
  have hlength (streamId : String) := s.ledger.ledger.lake.push_streamLength event happ streamId
  have hnext : next.environments 0 = e := Function.update_self 0 e s.environments
  refine ⟨⟨?_, ?_, hcontinued⟩, ?_⟩
  · rw [hnext, hspace]
    exact hs.data_space
  · intro streamId hknown
    rw [hnext, hversions] at hknown ⊢
    rw [hlength]
    by_cases hstream : event.streamId = streamId
    · subst hstream
      rw [OrderedDict.getD_set_self, if_pos rfl]
      exact happ.next_version
    · rw [OrderedDict.contains_set, decide_eq_false hstream, Bool.false_or] at hknown
      rw [OrderedDict.getD_set_of_ne _ _ _ hstream, if_neg hstream]
      exact hs.known streamId hknown
  · intro streamId hknown
    by_cases hstream : event.streamId = streamId
    · left
      rw [hnext, hversions, OrderedDict.contains_set, decide_eq_true hstream, Bool.true_or]
    · rcases hknown with hknown | hempty
      · left
        rw [hnext, hversions, OrderedDict.contains_set, hknown, Bool.or_true]
      · right
        rw [hlength, hempty, if_neg hstream]

/-- **One recording** on a stream that the process may record on keeps the invariant, and leaves
the streams that it may record on. -/
theorem continuing_of_record {r : Recording EnvironmentInstanceService} (hr : r.OfLifecycle)
    (hs : Continuing s) (hknown : KnownOrEmpty s r.streamId) :
    letI := environmentService (L := ObservedLedger LetheOperationalLedger) 0
    Continuing ((record r).finalState s) ∧
      ∀ streamId, KnownOrEmpty s streamId → KnownOrEmpty ((record r).finalState s) streamId := by
  let : Service (ObservedLedger LetheOperationalLedger) _ := environmentService 0
  obtain ⟨streamId, payload, key, occurredAt, assign, rfl, hassign⟩ := hr
  have hversion := hs.version_eq hknown
  set r := EnvironmentInstanceService.recording streamId payload key occurredAt assign with hrdef
  have hstream : r.streamId = streamId := rfl
  rw [hstream] at hversion hknown
  cases henvelope : r.envelope (s.environments 0) with
  | error e =>
    rw [EStateM.finalState_of_error (record_of_unrequested henvelope)]
    exact ⟨hs, fun _ h => h⟩
  | ok event =>
    have hdescribes := Recording.describes_of_envelope henvelope
    have heventStream : event.streamId = streamId := hdescribes.stream
    have hnext : event.streamVersion = s.ledger.ledger.lake.streamLength event.streamId + 1 := by
      rw [hdescribes.version, heventStream, ← hversion]
      rfl
    have hspace : event.dataSpaceId = s.ledger.ledger.lake.dataSpaceId :=
      hdescribes.data_space.trans hs.data_space
    set request : AppendRequest LetheOperationalLedger :=
      ⟨s.ledger.ledger, event, (s.environments 0).versions.getD streamId 0⟩ with hrequest
    have hcontinues : request.Continues := by
      refine ⟨hnext, fun hkey hid => ?_⟩
      have happ : s.ledger.ledger.lake.Appendable event := ⟨hspace, hkey, hid, hnext⟩
      exact ⟨_, _, s.ledger.ledger.lake.append_of_appendable happ (heventStream ▸ hversion.symm)⟩
    have hcontinued : ∀ other ∈ s.ledger.requests ++ [request], other.Continues := by
      intro other hother
      rcases List.mem_append.mp hother with hold | hnew
      · exact hs.continued other hold
      · exact List.mem_singleton.mp hnew ▸ hcontinues
    cases happend : s.ledger.ledger.lake.append event
        ((s.environments 0).versions.getD streamId 0) with
    | error e =>
      rw [EStateM.finalState_of_error (record_of_requested_error henvelope happend)]
      exact ⟨⟨hs.data_space, hs.known, hcontinued⟩, fun _ h => h⟩
    | ok answer =>
      obtain ⟨result, lake⟩ := answer
      rcases s.ledger.ledger.lake.append_eq_ok happend with
        ⟨happ, -, rfl, rfl⟩ | ⟨stored, hstored, rfl, -⟩
      · obtain ⟨hversions, hspace'⟩ := hassign
          (EventWriter.advance (s.environments 0) streamId
            ⟨.appended, s.ledger.ledger.lake.events.length + 1, event.streamVersion⟩)
        have hok := record_of_requested henvelope happend
        rw [EStateM.finalState_of_ok hok]
        refine hs.appended happ hcontinued (hversions.trans ?_) (hspace'.trans rfl)
        rw [heventStream]
        rfl
      · -- An event that is already stored has an earlier version.
        have hle := s.ledger.ledger.lake.streamVersion_le hstored
        omega

/-! ### One operation -/

/-- An operation that records one event. -/
theorem continuing_performEnvironment (hs : Continuing s)
    (plan : EnvironmentInstanceService → Except VsmError (Recording EnvironmentInstanceService))
    (hplan : Checked.Yields ((plan (s.environments 0)).map ([·])) fun recordings =>
      ∀ r ∈ recordings, r.OfLifecycle)
    (hknown : Checked.Yields ((plan (s.environments 0)).map ([·])) fun recordings =>
      ∀ r ∈ recordings, KnownOrEmpty s r.streamId) :
    Continuing ((performEnvironment 0 plan).finalState s) := by
  let : Service (ObservedLedger LetheOperationalLedger) _ := environmentService 0
  rw [performEnvironment, EStateM.finalState_bind_pure, perform, EStateM.finalState_get_bind]
  cases hr : plan (s.environments 0) with
  | error e =>
    rw [EStateM.finalState_ofExcept_error_bind]
    exact hs
  | ok r =>
    rw [hr] at hplan hknown
    rw [EStateM.finalState_ofExcept_ok_bind]
    exact (continuing_of_record (hplan [r] rfl r (List.mem_singleton_self r)) hs
      (hknown [r] rfl r (List.mem_singleton_self r))).1

/-- A failover: each of its recordings keeps the invariant and the streams of the others. -/
theorem continuing_failover (hs : Continuing s) {failedInstanceId key : String} {clock : Clock}
    (requestReprovision : Except VsmError Unit)
    (hknown : Checked.Yields ((EnvironmentCommand.failover failedInstanceId key
      requestReprovision).recordings (s.environments 0) clock) fun recordings =>
      ∀ r ∈ recordings, KnownOrEmpty s r.streamId) :
    Continuing ((failover 0 failedInstanceId key requestReprovision clock).finalState s) := by
  let : Service (ObservedLedger LetheOperationalLedger) _ := environmentService 0
  have hlifecycle := EnvironmentCommand.recordings_ofLifecycle (s.environments 0) clock
    (.failover failedInstanceId key requestReprovision)
  rw [failover, EStateM.finalState_get_bind]
  cases hplan : (s.environments 0).failoverRecordings failedInstanceId key clock with
  | error e =>
    rw [EStateM.finalState_ofExcept_error_bind]
    exact hs
  | ok answer =>
    obtain ⟨recordings, reprovision⟩ := answer
    have hrecordings : (EnvironmentCommand.failover failedInstanceId key
        requestReprovision).recordings (s.environments 0) clock = .ok recordings := by
      rw [EnvironmentCommand.recordings, hplan]
      rfl
    rw [EStateM.finalState_ofExcept_ok_bind]
    have hall : EStateM.Preserves
        (fun t : LetheSystem => Continuing t ∧ ∀ r ∈ recordings, KnownOrEmpty t r.streamId)
        (recordings.forM (fun r => do let _ ← record r) >>= fun _ =>
          if reprovision then EStateM.ofExcept requestReprovision else pure ()) := by
      refine .bind (.forM fun r hr => .bind (.of_final fun t ht => ?_) fun _ => .pure _)
        fun _ => ?_
      · obtain ⟨hcontinuing, hkept⟩ := continuing_of_record
          (hlifecycle recordings hrecordings r hr) ht.1 (ht.2 r hr)
        exact ⟨hcontinuing, fun other hother => hkept _ (ht.2 other hother)⟩
      · split
        · exact .ofExcept _
        · exact .pure _
    exact (hall.final ⟨hs, hknown recordings hrecordings⟩).1

omit [Sha256] in
/-- The invariant after a change of the process's service that records nothing. -/
theorem Continuing.of_environment (hs : Continuing s) (e : EnvironmentInstanceService)
    (hspace : e.dataSpaceId = (s.environments 0).dataSpaceId)
    (hknown : ∀ streamId, e.versions.contains streamId = true →
      e.versions.getD streamId 0 = s.ledger.ledger.lake.streamLength streamId) :
    Continuing { s with environments := Function.update s.environments 0 e } := by
  have hself : ({ s with environments := Function.update s.environments 0 e } :
      LetheSystem).environments 0 = e := Function.update_self 0 e s.environments
  constructor
  · rw [hself, hspace]
    exact hs.data_space
  · rw [hself]
    exact hknown
  · exact hs.continued

/-- **An attachment** that reads the stream of the instance to its end knows how long it is. -/
theorem continuing_attachActive (hs : Continuing s) (environmentInstance : EnvironmentInstance)
    (contract : EnvironmentContract) (clock : Clock)
    (hread : ReadsToEnd s.ledger.ledger environmentInstance.instanceId) :
    Continuing (((EnvironmentCommand.attachActive environmentInstance contract).run 0
      clock).finalState s) := by
  rw [EnvironmentCommand.run, EStateM.finalState_get_bind]
  cases hattach : (s.environments 0).attachActive (OperationalLedger.stream s.ledger)
      environmentInstance contract with
  | error e =>
    rw [EStateM.finalState_ofExcept_error_bind]
    exact hs
  | ok next =>
    rw [EStateM.finalState_ofExcept_ok_bind]
    obtain ⟨_, -, hattach⟩ := Checked.bind_eq_ok_iff.mp hattach
    obtain ⟨-, hattach⟩ := Checked.check_bind_eq_ok_iff.mp hattach
    obtain ⟨history, hhistory, hnext⟩ := Checked.bind_eq_ok_iff.mp hattach
    change s.ledger.ledger.stream environmentInstance.instanceId 0 100000 = .ok history at hhistory
    rw [LetheOperationalLedger.stream_eq _ _ (by decide),
      List.take_of_length_le (by rwa [← InMemoryOperationalLedger.streamLength_eq])] at hhistory
    obtain rfl := Except.ok.inj hhistory
    obtain rfl := Checked.pure_eq_ok_iff.mp hnext
    cases hlast : (onStream environmentInstance.instanceId
        s.ledger.ledger.lake.events).getLast? with
    | none => exact hs.of_environment _ rfl fun streamId hknown => hs.known streamId hknown
    | some last =>
      refine hs.of_environment _ rfl fun streamId hknown => ?_
      have hversion := s.ledger.ledger.lake.streamVersion_getLast? hlast
      rw [← InMemoryOperationalLedger.streamLength_eq] at hversion
      change (OrderedDict.set _ _ _).getD streamId 0 = _
      by_cases hstream : environmentInstance.instanceId = streamId
      · subst hstream
        rw [OrderedDict.getD_set_self, hversion]
      · change (OrderedDict.set _ _ _).contains streamId = true at hknown
        rw [OrderedDict.contains_set, decide_eq_false hstream, Bool.false_or] at hknown
        rw [OrderedDict.getD_set_of_ne _ _ _ hstream]
        exact hs.known streamId hknown

/-- **One operation** that meets the condition keeps the invariant. -/
theorem continuing_step (s : LetheSystem) (input : EnvironmentCommand × Clock)
    (hs : Continuing s) (hc : ContinuesStreams s input) :
    Continuing (EnvironmentCommand.step s input) := by
  obtain ⟨c, clock⟩ := input
  have hlifecycle := c.recordings_ofLifecycle (s.environments 0) clock
  cases c with
  | attachActive environmentInstance contract =>
    exact continuing_attachActive hs environmentInstance contract clock hc
  | register environmentInstance contract key =>
    exact continuing_performEnvironment hs
      (fun e => e.register environmentInstance contract key clock) hlifecycle hc
  | verify instanceId evidence key =>
    exact continuing_performEnvironment hs
      (fun e => e.verify instanceId evidence key clock) hlifecycle hc
  | preflightEvidenceHook instanceId keyPrefix evidence =>
    exact continuing_performEnvironment hs
      (fun e => e.preflightEvidenceHook instanceId keyPrefix evidence clock) hlifecycle hc
  | activate instanceId key =>
    exact continuing_performEnvironment hs (fun e => e.activate instanceId key clock) hlifecycle hc
  | retire instanceId key =>
    exact continuing_performEnvironment hs (fun e => e.retire instanceId key clock) hlifecycle hc
  | failover failedInstanceId key requestReprovision =>
    exact continuing_failover hs requestReprovision hc

/-! ### A run -/

/-- **The law of an attachment** holds when the attachment reads the stream of the instance to its
end and every later operation meets the condition. -/
theorem attachmentLaw_of_continuesStreams (dataSpace : DataSpace)
    (ledger : LetheOperationalLedger) (environmentInstance : EnvironmentInstance)
    (contract : EnvironmentContract) (inputs : List (EnvironmentCommand × Clock))
    (hread : ReadsToEnd ledger environmentInstance.instanceId)
    (hc : ∀ clock attached,
      (EnvironmentCommand.attachActive environmentInstance contract).run 0 clock
        (startedOn dataSpace ledger) = .ok () attached →
      Run.Along EnvironmentCommand.step ContinuesStreams attached inputs) :
    AttachmentLaw dataSpace ledger environmentInstance contract inputs := by
  intro clock attached hattached
  have hstart := continuing_attachActive (continuing_startedOn dataSpace ledger)
    environmentInstance contract clock hread
  rw [EStateM.finalState_of_ok hattached] at hstart
  exact (Run.exec_invariant_along continuing_step inputs (hc clock attached hattached)
    hstart).continued

omit [Sha256] in
/-- The law, checked on the requests of a run. -/
theorem AppendRequest.all_next {requests : List (AppendRequest LetheOperationalLedger)}
    (h : ∀ request ∈ requests, request.Continues) :
    requests.all (fun request => request.event.streamVersion =
      request.ledger.lake.streamLength request.event.streamId + 1) = true :=
  List.all_eq_true.mpr fun request hrequest => decide_eq_true (h request hrequest).next_version

/-- The ledger on which one process commissioned an instance, behind an adapter. -/
def commissionedLedger (maxPageSize : Nat) (hpos : 0 < maxPageSize) :
    LetheOperationalLedger :=
  ⟨(runShared (.new companySpace) attachedRun).ledger, maxPageSize, hpos⟩

/-- The next process retires the instance. -/
def retirement : List (EnvironmentCommand × Clock) :=
  [(.retire "instance:host-1" "retire:1", fun _ => 4)]

omit [Sha256] in
/-- The stream of the instance has three events, and a read returns them all. -/
theorem attachmentLaw_of_retirement :
    letI := Sha256.polynomial
    AttachmentLaw companySpace (commissionedLedger 500 (by decide)) workspaceInstance
      workspaceContract retirement := by
  let := Sha256.polynomial
  refine attachmentLaw_of_continuesStreams companySpace _ workspaceInstance workspaceContract
    retirement (by unfold ReadsToEnd; decide +kernel) fun clock attached hattached => ?_
  obtain rfl := EStateM.finalState_of_ok hattached
  exact ⟨(by decide +kernel : ContinuesStreams (EnvironmentCommand.step (startedOn companySpace
    (commissionedLedger 500 _)) (.attachActive workspaceInstance workspaceContract, fun _ => 0)) _),
    trivial⟩

/-- The ledger after the process that commissioned the instance asked for another in its
place. -/
def reprovisionedLedger : LetheOperationalLedger :=
  ⟨(runShared (.new companySpace) (attachedRun ++
    [(.environment 1 (.failover "instance:host-1" "failover:1" (.ok ())), fun _ => 4)])).ledger,
    500, by decide⟩

/-- The instance that was provisioned. -/
def provisionedInstance : EnvironmentInstance :=
  { workspaceInstance with instanceId := "instance:host-2" }

/-- The next process asks for another in the place of the instance that was provisioned. -/
def secondFailover : List (EnvironmentCommand × Clock) :=
  [(.failover "instance:host-2" "failover:2" (.ok ()), fun _ => 5)]

omit [Sha256] in
/-- **The law fails** when the stream of the instance is longer than one read, and when the
contract's stream has an event of an earlier process. -/
theorem long_stream_breaks_attachmentLaw :
    letI := Sha256.polynomial
    ¬ AttachmentLaw companySpace (commissionedLedger 2 (by decide)) workspaceInstance
        workspaceContract retirement ∧
      ¬ AttachmentLaw companySpace reprovisionedLedger provisionedInstance workspaceContract
        secondFailover := by
  let := Sha256.polynomial
  constructor
  · intro hlaw
    obtain ⟨⟨⟩, hattached⟩ := EStateM.exists_ok_of_returns (show EStateM.returns
      ((EnvironmentCommand.attachActive workspaceInstance workspaceContract).run 0 fun _ => 3)
      (startedOn companySpace (commissionedLedger 2 (by decide))) = true by decide +kernel)
    have hall := AppendRequest.all_next (hlaw _ _ hattached)
    revert hall
    decide +kernel
  · intro hlaw
    obtain ⟨⟨⟩, hattached⟩ := EStateM.exists_ok_of_returns (show EStateM.returns
      ((EnvironmentCommand.attachActive provisionedInstance workspaceContract).run 0 fun _ => 3)
      (startedOn companySpace reprovisionedLedger) = true by decide +kernel)
    have hall := AppendRequest.all_next (hlaw _ _ hattached)
    revert hall
    decide +kernel

end Nanihold
