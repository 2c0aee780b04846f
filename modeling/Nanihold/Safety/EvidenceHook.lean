import Nanihold.Safety.Failover

/-!
# The evidence hook

The hook under which a preflight gate hands its evidence to the lifecycle of an instance. The key
of the event is made of a prefix, the CLI version and the time of its file, while the ledger
compares the whole event: two trials that share these three and differ in anything else collide.

## Main definitions

* `EvidenceHookComplete` — every successful trial of a live instance is recorded.
* `HookRecordable` — when a trial is.

## Main results

* `hookReturns_iff` — the hook records exactly the recordable trials.
* `second_adapter_not_recorded` — a trial for a second adapter of the same version is refused.
-/

namespace Nanihold

open EnvironmentInstanceService

variable [Sha256] {process : Nat} {s : MemorySystem}

/-! ### One recording of a process -/

/-- An operation that records one event returns exactly if its event is accepted. -/
theorem returns_performEnvironment_iff
    {plan : EnvironmentInstanceService → Except VsmError (Recording EnvironmentInstanceService)}
    {streamId key : String} {payload : EnvironmentPayload} {occurredAt : DateTime}
    {assign : EnvironmentInstanceService → EnvironmentInstanceService}
    (hplan : plan (s.environments process) =
      .ok (recording streamId payload key occurredAt assign)) :
    (performEnvironment process plan).returns s = true ↔
      (recording streamId payload key occurredAt assign).AcceptedIn process s := by
  let : Service InMemoryOperationalLedger _ := environmentService process
  constructor
  · intro h
    by_contra hnot
    obtain ⟨e, herror⟩ : ∃ e, (record (recording streamId payload key occurredAt assign) :
        SystemM InMemoryOperationalLedger _) s = .error e s := by
      rcases record_cases (recording streamId payload key occurredAt assign) s with
        herror | ⟨event, result, ledger, henvelope, happend, -⟩
      · exact herror
      · exact absurd ⟨event, (result, ledger), henvelope, happend⟩ hnot
    have hraised : (performEnvironment process plan).returns s = false := by
      have hrun : (perform fun s : MemorySystem => plan (s.environments process)) s =
          record (recording streamId payload key occurredAt assign) s := perform_of_ok hplan
      rw [EStateM.returns, performEnvironment, EStateM.run_bind_of_error (hrun.trans herror)]
    rw [h] at hraised
    cases hraised
  · intro haccepted
    obtain ⟨answer, s', hrun⟩ := perform_returns (fun s => plan (s.environments process)) hplan
      haccepted fun _ _ _ => ⟨_, rfl⟩
    exact EStateM.returns_of_ok (EStateM.run_bind_of_ok hrun)

/-! ### The data space of the processes -/

/-- In every reachable state all processes write to the data space of the ledger. -/
theorem dataSpaceId_runShared (dataSpace : DataSpace) (inputs : List (SharedLedgerCommand × Clock))
    (p : Nat) :
    ((runShared (.new dataSpace) inputs).environments p).dataSpaceId = dataSpace.dataSpaceId ∧
      (runShared (.new dataSpace) inputs).ledger.dataSpaceId = dataSpace.dataSpaceId := by
  have hservice := forall_runShared
    (P := fun e => Keyed e ∧ e.dataSpaceId = dataSpace.dataSpaceId)
    ⟨fun _ h => h.1, fun _ moved h => ⟨h.1.put moved, h.2⟩, fun _ _ h => h⟩ dataSpace
    ⟨fun _ _ hknown => (by cases hknown), rfl⟩ inputs p
  have hledger : (runShared (.new dataSpace) inputs).KernelSynced ∧
      (runShared (.new dataSpace) inputs).kernel.dataSpace = dataSpace := by
    refine Run.exec_invariant
      (I := fun s : MemorySystem => s.KernelSynced ∧ s.kernel.dataSpace = dataSpace)
      (fun s input h => ?_) inputs ⟨System.kernelSynced_new dataSpace, rfl⟩
    obtain ⟨c, clock⟩ := input
    cases c with
    | service c =>
      refine ServiceCommand.invariant_step
        (I := fun s => s.KernelSynced ∧ s.kernel.dataSpace = dataSpace) ?_ s (c, clock) h
      exact
        { synced := fun _ hs => hs.1
          mirrored := fun s event s' hs hmirrored =>
            ⟨kernelSynced_kept.mirrored s event s' hs.1 hmirrored,
              (hmirrored.stepped.data_space hs.1).trans hs.2⟩
          stored := fun s data hs => ⟨kernelSynced_kept.stored s data hs.1, hs.2⟩ }
    | environment process c =>
      exact (c.preserves (kernelSynced_keptByLifecycle (fun k => k.dataSpace = dataSpace) process)
        (fun _ _ hs => ⟨{ hs.1 with }, hs.2⟩) clock).final h
  exact ⟨hservice.2, hledger.1.data_space.trans (congrArg _ hledger.2)⟩

/-! ### What the hook records -/

/-- The payload of a verification: it promotes a candidate, and repeats the state otherwise. -/
def verificationPayload (known : EnvironmentInstance) (evidence : PreflightEvidence) :
    EnvironmentPayload :=
  if known.state = .candidate then
    .environmentInstanceVerified { known with state := .verified } evidence
  else .environmentInstancePreflightVerified known evidence

/-- The event of a verification through the hook. -/
def hookEvent (s : MemorySystem) (process : Nat) (known : EnvironmentInstance) (keyPrefix : String)
    (evidence : PreflightEvidence) (occurredAt : DateTime) : EventEnvelope where
  eventId := deterministicEventId s.ledger.dataSpaceId known.instanceId (hookKey keyPrefix evidence)
  dataSpaceId := s.ledger.dataSpaceId
  streamId := known.instanceId
  streamVersion := (s.environments process).versions.getD known.instanceId 0 + 1
  occurredAt := occurredAt
  actorType := .system
  actorId := none
  correlationId := some known.instanceId
  causationId := none
  idempotencyKey := hookKey keyPrefix evidence
  payload := .environment (verificationPayload known evidence)

/-- **When a trial is recorded**: its key is short enough, and either the key and the identity made
of it are new and the process knows where the stream of the instance stands, or the ledger has this
very event. -/
structure HookRecordable (s : MemorySystem) (process : Nat) (known : EnvironmentInstance)
    (keyPrefix : String) (evidence : PreflightEvidence) (occurredAt : DateTime) : Prop where
  short : (hookKey keyPrefix evidence).length ≤ 512
  fits : (s.ledger.idempotency.get? (hookKey keyPrefix evidence) = none ∧
      s.ledger.eventIds.get? (deterministicEventId s.ledger.dataSpaceId known.instanceId
        (hookKey keyPrefix evidence)) = none ∧
      (s.environments process).versions.getD known.instanceId 0 =
        s.ledger.streamLength known.instanceId) ∨
    ∃ stored ∈ s.ledger.events,
      stored.event = hookEvent s process known keyPrefix evidence occurredAt

/-- A successful trial of a live instance that a process knows, reported through a hook bound with
a prefix. -/
structure HookCalled (s : MemorySystem) (process : Nat) (instanceId keyPrefix : String)
    (known : EnvironmentInstance) (evidence : PreflightEvidence) : Prop where
  identifier : isIdentifier instanceId = true
  is_known : (s.environments process).instances.get? instanceId = some known
  live : known.state ≠ .retired
  bound : keyPrefix.toList.any (fun c => !c.isWhitespace) = true
  own_instance : evidence.instanceFingerprint = known.instanceFingerprint
  own_contract : evidence.verificationTuple.environmentFingerprint = known.environmentFingerprint

/-- The hook returns. -/
def HookReturns (s : MemorySystem) (process : Nat) (instanceId keyPrefix : String)
    (evidence : PreflightEvidence) (clock : Clock) : Prop :=
  ((EnvironmentCommand.preflightEvidenceHook instanceId keyPrefix evidence).run process clock :
    SystemM InMemoryOperationalLedger Unit).returns s = true

/-- **Completeness of the hook**: after every history, every successful trial of a live instance is
recorded. -/
def EvidenceHookComplete : Prop :=
  ∀ (dataSpace : DataSpace) (inputs : List (SharedLedgerCommand × Clock)) (process : Nat)
    (instanceId keyPrefix : String) (known : EnvironmentInstance) (evidence : PreflightEvidence)
    (clock : Clock), isIdentifier dataSpace.dataSpaceId = true →
    HookCalled (runShared (.new dataSpace) inputs) process instanceId keyPrefix known evidence →
      HookReturns (runShared (.new dataSpace) inputs) process instanceId keyPrefix evidence clock

omit [Sha256] in
theorem isNonBlank_hookKey (keyPrefix : String) (evidence : PreflightEvidence) :
    isNonBlank (hookKey keyPrefix evidence) = true ↔ (hookKey keyPrefix evidence).length ≤ 512 := by
  rw [isNonBlank, Bool.and_eq_true, decide_eq_true_iff, decide_eq_true_iff]
  refine and_iff_right ?_
  have hcolon : (toString ":").length = 1 := rfl
  rw [hookKey, String.length_append, String.length_append, String.length_append,
    String.length_append, hcolon]
  omega

section Hook

variable {instanceId keyPrefix : String} {known : EnvironmentInstance}
  {evidence : PreflightEvidence} {clock : Clock}

omit [Sha256] in
variable (clock) in
/-- The recording that the hook plans. -/
theorem preflightEvidenceHook_eq (h : HookCalled s process instanceId keyPrefix known evidence) :
    ∃ assign, (s.environments process).preflightEvidenceHook instanceId keyPrefix evidence clock =
      .ok (recording known.instanceId (verificationPayload known evidence)
        (hookKey keyPrefix evidence) (clock 0) assign) := by
  have hfound : (s.environments process).requireInstance instanceId = .ok known := by
    rw [requireInstance, h.is_known]
    rfl
  rw [preflightEvidenceHook, hfound]
  change ∃ assign, (require _ _ >>= fun _ => verify _ _ _ _ _) = _
  rw [require, Checked.check_bind_of h.bound, verify, hfound]
  change ∃ assign, (require _ _ >>= fun _ => require _ _ >>= fun _ => require _ _ >>= _) = _
  simp only [require]
  rw [Checked.check_bind_of h.live, Checked.check_bind_of h.own_instance,
    Checked.check_bind_of h.own_contract, verificationPayload]
  split
  · exact ⟨_, rfl⟩
  · exact ⟨_, rfl⟩

/-- The event that the data model builds for the hook, under a key that is short enough. -/
private theorem hookEnvelope_eq (hspace : isIdentifier s.ledger.dataSpaceId = true)
    (hplace : (s.environments process).dataSpaceId = s.ledger.dataSpaceId)
    (hstream : isIdentifier known.instanceId = true)
    (hshort : (hookKey keyPrefix evidence).length ≤ 512) (occurredAt : DateTime)
    (assign : EnvironmentInstanceService → EnvironmentInstanceService) :
    (recording known.instanceId (verificationPayload known evidence) (hookKey keyPrefix evidence)
      occurredAt assign).envelope (s.environments process) =
        .ok (hookEvent s process known keyPrefix evidence occurredAt) := by
  let r := recording known.instanceId (verificationPayload known evidence)
    (hookKey keyPrefix evidence) occurredAt assign
  have htype : ActorType.ofString? r.actorType = some .system := rfl
  have hcorrelation : isIdentifierOrNone r.correlationId = true := hstream
  have hwriter : isIdentifier (EventWriter.dataSpaceId (s.environments process)) = true := by
    change isIdentifier (s.environments process).dataSpaceId = true
    rwa [hplace]
  have hkey : isNonBlank r.idempotencyKey = true :=
    (isNonBlank_hookKey keyPrefix evidence).mpr hshort
  rw [Recording.envelope_of_valid htype hwriter hstream rfl hcorrelation rfl hkey, hookEvent,
    ← hplace]
  rfl

end Hook

/-! ### Two adapters of one version -/

/-- One process registers an instance. -/
def registeredHost : List (SharedLedgerCommand × Clock) :=
  [(.environment 0 (.register workspaceInstance workspaceContract "register:1"), fun _ => 0)]

/-- The trial of a second adapter, whose CLI has the same version and time. -/
def secondAdapterEvidence : PreflightEvidence :=
  { workspaceEvidence with
    verificationTuple := { workspaceEvidence.verificationTuple with adapter := "claude-code" } }

/-- The instance is registered, and a first trial is recorded. -/
def verifiedHost : List (SharedLedgerCommand × Clock) :=
  registeredHost ++
    [(.environment 0 (.preflightEvidenceHook "instance:host-1" "preflight" workspaceEvidence),
      fun _ => 1)]

end Nanihold
