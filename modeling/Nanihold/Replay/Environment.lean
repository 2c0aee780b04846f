import Nanihold.Replay.Runs

/-!
# Runs that share the ledger with environment instances

The lifecycle of environment instances writes to the ledger of the services, and the
projection has no handler for its events. A run on the shared ledger is rebuilt exactly as
long as the lifecycle has recorded nothing.

## Main definitions

* `SharedLedgerCommand`, `runShared` — runs of services and lifecycle operations.
* `HasEnvironmentEvent` — the lifecycle has recorded an event.
* `KeptByLifecycle` — an invariant that each record of the lifecycle keeps.

## Main results

* `applyStored_environment` — no view accepts an event of the lifecycle.
* `EnvironmentCommand.preserves`, `preserves_failover` — what each record keeps, operations keep.
* `rebuild_accepts_iff_no_environment_event` — the ledgers of shared runs that are rebuilt.
-/

namespace Nanihold

/-- The event was written by the environment instance lifecycle. -/
def EventPayload.IsEnvironment (payload : EventPayload) : Prop :=
  ∃ p, payload = .environment p

instance (payload : EventPayload) : Decidable payload.IsEnvironment :=
  match payload with
  | .environment p => .isTrue ⟨p, rfl⟩
  | .kernel _ | .activation _ | .ownerAuth _ | .interface _ | .tokenLab _ | .routing _
  | .external _ =>
    .isFalse fun ⟨_, h⟩ => nomatch h

/-- The lifecycle has recorded an event in the ledger. -/
def HasEnvironmentEvent (s : MemorySystem) : Prop :=
  ∃ stored ∈ s.ledger.events, stored.event.payload.IsEnvironment

/-- No view accepts an event of the environment instance lifecycle: it has no handler. -/
theorem applyStored_environment {stored : StoredEvent}
    (h : stored.event.payload.IsEnvironment) (p next : OperationalProjection) :
    p.applyStored stored ≠ .ok next := by
  obtain ⟨payload, hpayload⟩ := h
  intro haccepted
  rw [OperationalProjection.applyStored, Checked.check_bind_eq_ok_iff,
    Checked.bind_eq_ok_iff] at haccepted
  obtain ⟨-, mid, happly, -⟩ := haccepted
  simp only [OperationalProjection.apply, OperationalProjection.handle, hpayload,
    Checked.check_bind_eq_ok_iff] at happly
  cases happly.2.2

variable [Sha256]

/-- A command of a service, or an operation of the environment instance lifecycle in one
process. -/
inductive SharedLedgerCommand where
  | service (c : ServiceCommand)
  | environment (process : Nat) (c : EnvironmentCommand)

def SharedLedgerCommand.run (clock : Clock) :
    SharedLedgerCommand → SystemM InMemoryOperationalLedger Unit
  | .service c => c.run clock
  | .environment process c => c.run process clock

def SharedLedgerCommand.step (s : MemorySystem) (input : SharedLedgerCommand × Clock) :
    MemorySystem :=
  (input.1.run input.2).finalState s

/-- The system after a run on the shared ledger. -/
def runShared (s : MemorySystem) (inputs : List (SharedLedgerCommand × Clock)) : MemorySystem :=
  Run.exec SharedLedgerCommand.step s inputs

/-! ### The ledger only grows -/

section Growth

variable {σ : Type} [Service InMemoryOperationalLedger σ]

/-- What a recording leaves in the ledger: what was there, and its event if it was accepted. -/
theorem ledger_of_record (r : Recording σ) (s : MemorySystem) :
    ((record r).finalState s = s) ∨
    (s.ledger.events <+: ((record r).finalState s).ledger.events ∧
      ∃ stored ∈ ((record r).finalState s).ledger.events, stored.event.payload = r.payload) := by
  rcases record_cases r s with ⟨e, herror⟩ | ⟨event, result, ledger, henvelope, happend, hrecord⟩
  · exact Or.inl (EStateM.finalState_of_error herror)
  right
  have hpayload := (Recording.describes_of_envelope henvelope).payload
  have hledger : ((record r).finalState s).ledger = ledger := by
    unfold EStateM.finalState
    rw [hrecord]
    cases r.update event result (EventWriter.advance (Component.read s) r.streamId result) <;>
      exact Service.write_ledger _ _
  rw [hledger]
  rcases s.ledger.append_eq_ok happend with
    ⟨happ, -, -, rfl⟩ | ⟨stored, hstored, rfl, -, rfl⟩
  · rw [InMemoryOperationalLedger.push_events]
    exact ⟨List.prefix_append _ _, s.ledger.store event,
      List.mem_append_right _ (List.mem_singleton.mpr rfl), hpayload⟩
  · exact ⟨List.prefix_rfl, stored, hstored, hpayload⟩

/-- What was in the ledger before a recording is there after it. -/
theorem prefix_of_record (r : Recording σ) {events : List StoredEvent} {s : MemorySystem}
    (hs : events <+: s.ledger.events) : events <+: ((record r).finalState s).ledger.events := by
  rcases ledger_of_record r s with hsame | ⟨hkept, -⟩
  · rwa [hsame]
  · exact hs.trans hkept

/-- Once the lifecycle has recorded an event, it stays recorded. -/
theorem hasEnvironmentEvent_of_record (r : Recording σ) {s : MemorySystem}
    (hs : HasEnvironmentEvent s) : HasEnvironmentEvent ((record r).finalState s) := by
  obtain ⟨stored, hstored, hpayload⟩ := hs
  exact ⟨stored, (prefix_of_record r List.prefix_rfl).subset hstored, hpayload⟩

/-- An invariant that every recording keeps is kept by checking and then recording. -/
theorem preserves_perform {I : MemorySystem → Prop} {plan : MemorySystem → Except VsmError
    (Recording σ)} (hrecord : ∀ s r, plan s = .ok r → EStateM.Preserves I (record r)) :
    EStateM.Preserves I (perform plan >>= fun _ => pure () : SystemM _ Unit) := by
  refine .of_final fun s hs => ?_
  rw [EStateM.finalState_bind_pure, perform, EStateM.finalState_get_bind]
  cases h : plan s with
  | error e =>
    rw [EStateM.finalState_ofExcept_error_bind]
    exact hs
  | ok r =>
    rw [EStateM.finalState_ofExcept_ok_bind]
    exact (hrecord s r h).final hs

end Growth

omit [Sha256] in
theorem preserves_checkKernel {I : MemorySystem → Prop} {α : Type}
    (read : Kernel → Except VsmError α) :
    EStateM.Preserves I (checkKernel read : SystemM InMemoryOperationalLedger Unit) :=
  .bind .get fun _ => .bind (.ofExcept _) fun _ => .pure ()

theorem preserves_recordSessionIndex {I : MemorySystem → Prop}
    (hactivation : ∀ r : Recording ActivationService, EStateM.Preserves I (record r))
    (hblob : ∀ s data, I s → I (s.putBlob data)) (actorId key : String) :
    ∀ (pages : List (Option String × HistoryPage)) (clock : Clock),
      EStateM.Preserves I (recordSessionIndex actorId key pages clock)
  | [], _ => .pure []
  | (_, _) :: pages, _ =>
    .bind (.of_final fun s hs => hblob s _ hs) fun _ => .bind .get fun _ =>
      .bind (hactivation _) fun _ =>
        .bind (preserves_recordSessionIndex hactivation hblob actorId key pages _) fun _ => .pure _

/-- **What every recording keeps, every command keeps**, in whatever state the services are. -/
theorem ServiceCommand.preserves {I : MemorySystem → Prop}
    (hkernel : ∀ r : Recording Kernel, EStateM.Preserves I (record r))
    (hactivation : ∀ r : Recording ActivationService, EStateM.Preserves I (record r))
    (hownerAuth : ∀ r : Recording OwnerBootstrapService, EStateM.Preserves I (record r))
    (hblob : ∀ s data, I s → I (s.putBlob data)) (c : ServiceCommand) (clock : Clock) :
    EStateM.Preserves I (c.run clock) := by
  have hperform (plan : Kernel → Except VsmError (Recording Kernel)) :
      EStateM.Preserves I (performKernel plan : SystemM InMemoryOperationalLedger Unit) :=
    preserves_perform fun _ r _ => hkernel r
  have hactivate (plan : ActivationService → Except VsmError (Recording ActivationService)) :
      EStateM.Preserves I (performActivation plan : SystemM InMemoryOperationalLedger Unit) :=
    preserves_perform fun _ r _ => hactivation r
  cases c with
  | kernel c =>
    rw [run]
    cases c <;> rw [KernelCommand.run]
    case importCurrentWorkGraph snapshot actorId key =>
      rw [Nanihold.importCurrentWorkGraph]
      refine .bind .get fun s => .bind (.ofExcept _) fun answer => ?_
      cases answer with
      | inl _ => exact .pure ()
      | inr r => exact .bind (hkernel r) fun _ => .pure ()
    case promoteAgentNotification notificationId workItem actorId key =>
      rw [Nanihold.promoteAgentNotification]
      exact .bind .get fun s => .bind (.ofExcept _) fun notification =>
        .bind (hperform _) fun _ => .bind (hkernel _) fun _ => .pure ()
    case validateOwnerConfirmedResume => exact preserves_checkKernel _
    case requireEffectReconciliation => exact preserves_checkKernel _
    all_goals exact hperform _
  | activation c =>
    rw [run]
    cases c <;> rw [ActivationCommand.run]
    case registerHistoryImport receipt conversationId actorId key =>
      rw [Nanihold.registerHistoryImport]
      refine .bind .get fun s => .bind (.ofExcept _) fun answer => ?_
      cases answer with
      | none => exact .pure ()
      | some r => exact .bind (hactivation r) fun _ => .pure ()
    all_goals exact hactivate _
  | history c =>
    rw [run]
    cases c <;> rw [HistoryCommand.run]
    case resolve maxResultBytes action reply actorId key =>
      rw [resolveHistory]
      exact .bind (.bind .get fun s => .bind (.ofExcept _) fun page =>
        .bind (.of_final fun s hs => hblob s _ hs) fun _ =>
          .bind (hactivation _) fun _ => .pure _) fun _ => .pure ()
    case scanSessionIndex maxResultBytes receipt replies actorId key =>
      rw [Nanihold.scanSessionIndex]
      exact .bind (.bind .get fun s => .bind (.ofExcept _) fun answer =>
        .bind (.ofExcept _) fun _ =>
          preserves_recordSessionIndex hactivation hblob actorId key _ clock) fun _ => .pure ()
  | ownerAuth c =>
    rw [run]
    cases c <;> rw [OwnerAuthCommand.run] <;> exact preserves_perform fun _ r _ => hownerAuth r

theorem hasEnvironmentEvent_of_service {s : MemorySystem} (hs : HasEnvironmentEvent s)
    (input : ServiceCommand × Clock) : HasEnvironmentEvent (ServiceCommand.step s input) :=
  (input.1.preserves (fun r => .of_final fun _ => hasEnvironmentEvent_of_record r)
    (fun r => .of_final fun _ => hasEnvironmentEvent_of_record r)
    (fun r => .of_final fun _ => hasEnvironmentEvent_of_record r) (fun _ _ hs => hs)
    input.2).final hs

/-! ### The lifecycle records its own events -/

section Lifecycle

open Checked

variable (e : EnvironmentInstanceService)

omit [Sha256] in
private theorem isEnvironment (payload : EnvironmentPayload) :
    EventPayload.IsEnvironment (.environment payload) := ⟨payload, rfl⟩

/-- The recording of a lifecycle operation carries a lifecycle event. -/
def RecordsEnvironment (r : Recording EnvironmentInstanceService) : Prop :=
  r.payload.IsEnvironment

omit [Sha256] in
theorem yields_register (environmentInstance : EnvironmentInstance)
    (contract : EnvironmentContract) (key : String) (clock : Clock) :
    Yields (e.register environmentInstance contract key clock) RecordsEnvironment := by
  simp [EnvironmentInstanceService.register, RecordsEnvironment,
    EnvironmentInstanceService.recording, isEnvironment]

omit [Sha256] in
theorem yields_verify (instanceId : String) (evidence : PreflightEvidence) (key : String)
    (clock : Clock) :
    Yields (e.verify instanceId evidence key clock) RecordsEnvironment := by
  simp [EnvironmentInstanceService.verify, RecordsEnvironment,
    EnvironmentInstanceService.recording, isEnvironment]

omit [Sha256] in
theorem yields_preflightEvidenceHook (instanceId keyPrefix : String)
    (evidence : PreflightEvidence) (clock : Clock) :
    Yields (e.preflightEvidenceHook instanceId keyPrefix evidence clock)
      RecordsEnvironment := by
  simp [EnvironmentInstanceService.preflightEvidenceHook, yields_verify]

omit [Sha256] in
theorem yields_activate (instanceId key : String) (clock : Clock) :
    Yields (e.activate instanceId key clock) RecordsEnvironment := by
  simp [EnvironmentInstanceService.activate, RecordsEnvironment,
    EnvironmentInstanceService.recording, isEnvironment]

omit [Sha256] in
theorem yields_retire (instanceId key : String) (clock : Clock) :
    Yields (e.retire instanceId key clock) RecordsEnvironment := by
  simp [EnvironmentInstanceService.retire, RecordsEnvironment,
    EnvironmentInstanceService.recording, isEnvironment]

omit [Sha256] in
theorem yields_failoverRecordings (failedInstanceId key : String) (clock : Clock) :
    Yields (e.failoverRecordings failedInstanceId key clock) fun answer =>
      ∀ r ∈ answer.1, RecordsEnvironment r := by
  simp only [EnvironmentInstanceService.failoverRecordings, yields_bind]
  intro failed _ _ _ verified _ contractStream _
  split <;> simp [RecordsEnvironment, EnvironmentInstanceService.recording, isEnvironment]

end Lifecycle

/-! ### What the lifecycle keeps -/

section Kept

variable {I : MemorySystem → Prop} {process : Nat}

/-- What every lifecycle event of a process keeps. -/
def KeptByLifecycle (I : MemorySystem → Prop) (process : Nat) : Prop :=
  letI : Service InMemoryOperationalLedger _ := environmentService process
  ∀ r : Recording EnvironmentInstanceService, RecordsEnvironment r →
    EStateM.Preserves I (record r : SystemM _ _)

theorem preserves_performEnvironment (hrecord : KeptByLifecycle I process)
    {plan : EnvironmentInstanceService → Except VsmError (Recording EnvironmentInstanceService)}
    (hplan : ∀ e, Checked.Yields (plan e) RecordsEnvironment) :
    EStateM.Preserves I
      (performEnvironment process plan : SystemM InMemoryOperationalLedger Unit) :=
  let : Service InMemoryOperationalLedger _ := environmentService process
  preserves_perform fun _ r h => hrecord r ((hplan _).of_ok h)

theorem preserves_failover (hrecord : KeptByLifecycle I process) (failedInstanceId key : String)
    (requestReprovision : Except VsmError Unit) (clock : Clock) :
    EStateM.Preserves I (failover process failedInstanceId key requestReprovision clock :
      SystemM InMemoryOperationalLedger Unit) := by
  rw [Nanihold.failover]
  refine .bind .get fun s => ?_
  refine EStateM.Triple.bind (Q := fun answer s =>
    I s ∧ ∀ r ∈ answer.1, RecordsEnvironment r) ?_ ?_
  · exact .ofExcept
      (fun answer h s hs =>
        ⟨hs, (yields_failoverRecordings _ failedInstanceId key clock).of_ok h⟩)
      (fun _ _ _ hs => hs)
  · rintro ⟨recordings, reprovision⟩ s ⟨hs, hrecords⟩
    refine EStateM.Preserves.bind (.forM fun r hr => ?_) (fun _ => ?_) s hs
    · exact .bind (hrecord r (hrecords r hr)) fun _ => .pure ()
    · split
      · exact .ofExcept requestReprovision
      · exact .pure ()

/-- **What the lifecycle's events keep, its operations keep.** -/
theorem EnvironmentCommand.preserves (hrecord : KeptByLifecycle I process)
    (hattached : ∀ (s : MemorySystem) environments, I s → I { s with environments := environments })
    (clock : Clock) (c : EnvironmentCommand) :
    EStateM.Preserves I (c.run process clock : SystemM InMemoryOperationalLedger Unit) := by
  cases c <;> rw [run]
  case attachActive environmentInstance contract =>
    refine .of_final fun s hs => ?_
    rw [EStateM.finalState_get_bind]
    cases (s.environments process).attachActive (OperationalLedger.stream s.ledger)
      environmentInstance contract with
    | error e => exact hs
    | ok next => exact hattached s _ hs
  case failover failedInstanceId key requestReprovision =>
    exact preserves_failover hrecord failedInstanceId key requestReprovision clock
  case register => exact preserves_performEnvironment hrecord fun e => yields_register e _ _ _ _
  case verify => exact preserves_performEnvironment hrecord fun e => yields_verify e _ _ _ _
  case preflightEvidenceHook =>
    exact preserves_performEnvironment hrecord fun e => yields_preflightEvidenceHook e _ _ _ _
  case activate => exact preserves_performEnvironment hrecord fun e => yields_activate e _ _ _
  case retire => exact preserves_performEnvironment hrecord fun e => yields_retire e _ _ _

/-- **A lifecycle event leaves the Kernel alone**, and synced. -/
theorem kernelSynced_keptByLifecycle (I : Kernel → Prop) (process : Nat) :
    KeptByLifecycle (fun s => s.KernelSynced ∧ I s.kernel) process := by
  let : Service InMemoryOperationalLedger _ := environmentService process
  rintro r ⟨p, hp⟩
  refine .of_final fun s ⟨hs, hI⟩ => ?_
  rcases record_cases r s with ⟨e, herror⟩ | ⟨event, result, ledger, henvelope, happend, hrecord⟩
  · rw [EStateM.finalState_of_error herror]
    exact ⟨hs, hI⟩
  obtain ⟨e, hfinal⟩ : ∃ e, (record r).finalState s =
      Component.write { s with ledger := ledger } (e : EnvironmentInstanceService) := by
    unfold EStateM.finalState
    rw [hrecord]
    cases r.update event result (EventWriter.advance (Component.read s) r.streamId result) with
    | ok _ t => exact ⟨t, rfl⟩
    | error _ t => exact ⟨t, rfl⟩
  rw [hfinal]
  refine ⟨?_, hI⟩
  have hother : event.payload.ofKernel = false := by
    rw [(Recording.describes_of_envelope henvelope).payload, hp]
    rfl
  rcases s.ledger.append_eq_ok happend with ⟨happ, -, -, rfl⟩ | ⟨_, -, -, -, rfl⟩
  · constructor
    · exact EventSourcing.replay_concat _ hs.kernel_replayed
        (System.applyStored_of_not_ofKernel hother)
    · exact hs.data_space
    · intro stored hstored hown
      change stored ∈ s.ledger.events ++ [s.ledger.store event] at hstored
      rw [List.mem_append, List.mem_singleton] at hstored
      rcases hstored with hold | rfl
      · have hversion := hs.kernel_versions stored hold hown
        cases hpayload : stored.event.payload <;> rw [hpayload] at hversion <;> exact hversion
      · exact nomatch hown.symm.trans hother
    · exact hs.consistent
    · exact hs.settled
    · exact hs.keyed
  · exact { hs with }

end Kept

/-! ### Shared runs -/

/-- The services are synced, or the lifecycle has recorded an event. -/
def SyncedOrEnvironment (dataSpace : DataSpace) (s : MemorySystem) : Prop :=
  SyncedIn dataSpace s ∨ HasEnvironmentEvent s

variable {dataSpace : DataSpace}

/-- A lifecycle event that is recorded stays recorded; one that is refused changes nothing. -/
theorem syncedOrEnvironment_kept (process : Nat) :
    KeptByLifecycle (SyncedOrEnvironment dataSpace) process := by
  let : Service InMemoryOperationalLedger _ := environmentService process
  intro r hr
  refine EStateM.Preserves.of_final fun s hs => ?_
  rcases ledger_of_record r s with hsame | ⟨-, stored, hstored, hpayload⟩
  · rwa [hsame]
  · exact Or.inr ⟨stored, hstored, hpayload ▸ hr⟩

omit [Sha256] in
private theorem syncedOrEnvironment_attached (s : MemorySystem)
    (environments : Nat → EnvironmentInstanceService) (hs : SyncedOrEnvironment dataSpace s) :
    SyncedOrEnvironment dataSpace { s with environments := environments } := by
  rcases hs with ⟨hsynced, hspace⟩ | hevent
  · exact Or.inl ⟨{ hsynced with }, hspace⟩
  · exact Or.inr hevent

theorem syncedOrEnvironment_step (s : MemorySystem) (input : SharedLedgerCommand × Clock)
    (hs : SyncedOrEnvironment dataSpace s) :
    SyncedOrEnvironment dataSpace (SharedLedgerCommand.step s input) := by
  obtain ⟨c, clock⟩ := input
  cases c with
  | service c =>
    rcases hs with hsynced | hevent
    · exact Or.inl (ServiceCommand.invariant_step (syncedIn_kept dataSpace) s (c, clock) hsynced)
    · exact Or.inr (hasEnvironmentEvent_of_service hevent (c, clock))
  | environment process c =>
    exact (c.preserves (syncedOrEnvironment_kept process) syncedOrEnvironment_attached
      clock).final hs

theorem syncedOrEnvironment_run (dataSpace : DataSpace)
    (inputs : List (SharedLedgerCommand × Clock)) :
    SyncedOrEnvironment dataSpace (runShared (.new dataSpace) inputs) :=
  Run.exec_invariant syncedOrEnvironment_step inputs (Or.inl (syncedIn_new dataSpace))

omit [Sha256] in
/-- A ledger with a lifecycle event is not rebuilt. -/
theorem rebuild_ne_ok_of_environment {s : MemorySystem} (hs : HasEnvironmentEvent s)
    (dataSpace : DataSpace) {pageSize : Nat} (hpos : 0 < pageSize)
    (rebuilt : OperationalProjection) :
    (OperationalProjection.fresh dataSpace).rebuild s.ledger pageSize ≠ .ok (some rebuilt) := by
  obtain ⟨stored, hstored, hpayload⟩ := hs
  rw [OperationalProjection.rebuild_eq_replay _ _ hpos]
  intro h
  obtain ⟨final, hreplay, -⟩ := Checked.bind_eq_ok_iff.mp h
  exact EventSourcing.replay_ne_ok_of_mem _ (applyStored_environment hpayload)
    hstored _ final hreplay

/-- **The ledgers of shared runs that the next process can rebuild** are those in which the
environment instance lifecycle has recorded nothing. -/
theorem rebuild_accepts_iff_no_environment_event (dataSpace : DataSpace)
    (inputs : List (SharedLedgerCommand × Clock)) {pageSize : Nat} (hpos : 0 < pageSize) :
    (∃ rebuilt, (OperationalProjection.fresh dataSpace).rebuild
        (runShared (.new dataSpace) inputs).ledger pageSize = .ok (some rebuilt)) ↔
      ∀ stored ∈ (runShared (.new dataSpace) inputs).ledger.events,
        ¬ stored.event.payload.IsEnvironment := by
  constructor
  · rintro ⟨rebuilt, hrebuilt⟩ stored hstored hpayload
    exact rebuild_ne_ok_of_environment ⟨stored, hstored, hpayload⟩ dataSpace hpos rebuilt hrebuilt
  · intro hnone
    rcases syncedOrEnvironment_run dataSpace inputs with
      ⟨hsynced, hspace⟩ | ⟨stored, hstored, hpayload⟩
    · have hrebuild := System.rebuild_of_synced hsynced hpos
      rw [hspace] at hrebuild
      exact ⟨_, hrebuild⟩
    · exact absurd hpayload (hnone stored hstored)

/-- An unknown instance is activated, which is refused; then a node is registered. -/
def refusedRun : List (SharedLedgerCommand × Clock) :=
  [(.environment 0 (.activate "instance:host-1" "activate:1"), fun _ => 0),
    (.service (.kernel (.registerNode ownerNode "owner:1" "node:1")), fun _ => 0)]

omit [Sha256] in
/-- A refused operation of the lifecycle leaves a ledger that is rebuilt. -/
theorem refusedRun_rebuilt :
    letI := Sha256.polynomial
    ∃ rebuilt, (OperationalProjection.fresh companySpace).rebuild
      (runShared (.new companySpace) refusedRun).ledger 100 = .ok (some rebuilt) :=
  let := Sha256.polynomial
  (rebuild_accepts_iff_no_environment_event companySpace refusedRun (by decide)).mpr
    (by decide +kernel)

/-! ### A registered instance -/

/-- A candidate instance without logical paths. -/
def candidateInstance : EnvironmentInstance where
  instanceId := "instance:host-1"
  dataSpaceId := "space:company-1"
  environmentFingerprint := "environment-contract-sha256:1"
  logicalPathBindings := .empty
  cliExecutablePath := "/usr/bin/codex"
  codexHome := "/home/owner/.codex"
  environmentVariables := .empty
  machineIdentity := .empty
  instanceFingerprint := "environment-instance-sha256:1"
  state := .candidate

/-- The instance is registered. -/
def registeredRun : List (SharedLedgerCommand × Clock) :=
  [(.environment 0 (.register candidateInstance ⟨"environment-contract-sha256:1", []⟩
    "register:1"), fun _ => 0)]

omit [Sha256] in
/-- After the registration the rebuild stops at an event without a handler. -/
theorem registeredRun_not_rebuilt :
    letI := Sha256.polynomial
    ¬ ∃ rebuilt, (OperationalProjection.fresh companySpace).rebuild
      (runShared (.new companySpace) registeredRun).ledger 100 = .ok (some rebuilt) := by
  let := Sha256.polynomial
  have hrefused : (OperationalProjection.fresh companySpace).rebuild
      (runShared (.new companySpace) registeredRun).ledger 100 =
      .error (.invariantViolation
        "projection has no handler for event type: environment_instance_registered") := by
    rfl
  rintro ⟨rebuilt, hrebuilt⟩
  exact nomatch hrefused.symm.trans hrebuilt

end Nanihold
