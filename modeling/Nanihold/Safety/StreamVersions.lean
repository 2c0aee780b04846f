import Nanihold.Migration.Legacy
import Nanihold.Replay.KernelSync
import Nanihold.Replay.Plans
import Nanihold.Replay.Runs
import Nanihold.Runtime

/-!
# Stream versions after a rebuild

A Kernel command expects the version that the Kernel remembers of its stream, and a rebuild makes
it remember the version of the last Kernel event there. The importer of legacy records writes to
streams that carry the names of nodes, and its events are remembered by the Interface alone. So a
permitted Kernel command runs into a stream conflict exactly when the last event of its stream is
not the Kernel's.

## Main definitions

* `lastKernelVersion`, `KernelWroteLast` — the Kernel's last event on a stream.
* `AppendsInTurn` — the command runs into no stream conflict.
* `KernelCommand.KeepsToItsStreams` — the new events of the command go to streams that the Kernel
  wrote last.

## Main results

* `versions_of_replay` — the versions that a rebuild makes the Kernel remember.
* `appendsInTurn_iff_keepsToItsStreams` — the exact condition, for every accepted ledger.
* `legacy_memory_breaks_appendsInTurn` — an import after which a node cannot be registered.
-/

namespace Nanihold

/-! ### The Kernel's last event on a stream -/

/-- The event is the Kernel's own. -/
def EventPayload.isKernel : EventPayload → Bool
  | .kernel _ => true
  | .activation _ | .ownerAuth _ | .interface _ | .tokenLab _ | .routing _ | .environment _
  | .external _ => false

/-- The version of the Kernel's last event on a stream, and 0 when it has none there. -/
def lastKernelVersion (streamId : String) (events : List StoredEvent) : Nat :=
  match ((onStream streamId events).filter (·.event.payload.isKernel)).getLast? with
  | some last => last.event.streamVersion
  | none => 0

/-- The last event of the stream, if there is one, is the Kernel's. -/
def KernelWroteLast (ledger : InMemoryOperationalLedger) (streamId : String) : Prop :=
  ∀ last ∈ (onStream streamId ledger.events).getLast?, last.event.payload.isKernel = true

theorem lastKernelVersion_append (streamId : String) (events : List StoredEvent)
    (stored : StoredEvent) :
    lastKernelVersion streamId (events ++ [stored]) =
      if stored.event.streamId = streamId ∧ stored.event.payload.isKernel = true then
        stored.event.streamVersion
      else lastKernelVersion streamId events := by
  unfold lastKernelVersion
  rw [InMemoryOperationalLedger.onStream_append, List.filter_append]
  by_cases hstream : stored.event.streamId = streamId
  · cases hkernel : stored.event.payload.isKernel <;> simp [hstream, hkernel]
  · simp [hstream]

/-- **What a rebuild remembers.** A Kernel that starts empty remembers of each stream the version
of the Kernel's last event there. -/
theorem versions_of_replay {k next : Kernel} (hfresh : k.versions = .empty)
    {events : List StoredEvent} (h : EventSourcing.replay Kernel.applyStored k events = .ok next)
    (streamId : String) :
    next.versions.getD streamId 0 = lastKernelVersion streamId events := by
  induction events using List.reverseRecOn generalizing next with
  | nil =>
    obtain rfl := Except.ok.inj h
    rw [hfresh]
    rfl
  | append_singleton events stored ih =>
    rw [EventSourcing.replay_append] at h
    obtain ⟨mid, hmid, hlast⟩ := Checked.bind_eq_ok_iff.mp h
    obtain ⟨last, happly, hnext⟩ := Checked.bind_eq_ok_iff.mp hlast
    obtain rfl := Except.ok.inj hnext
    rw [lastKernelVersion_append, ← ih hmid]
    unfold Kernel.applyStored at happly
    cases hpayload : stored.event.payload with
    | kernel payload =>
      simp only [hpayload] at happly
      rw [Kernel.versions_of_applyKernel happly, OrderedDict.getD_set]
      simp [EventPayload.isKernel]
    | activation payload =>
      simp only [hpayload] at happly
      obtain ⟨activation, -, hnext⟩ := Checked.bind_eq_ok_iff.mp happly
      obtain rfl := Checked.pure_eq_ok_iff.mp hnext
      simp [EventPayload.isKernel]
    | ownerAuth payload =>
      simp only [hpayload] at happly
      obtain ⟨auth, -, hnext⟩ := Checked.bind_eq_ok_iff.mp happly
      obtain rfl := Checked.pure_eq_ok_iff.mp hnext
      simp [EventPayload.isKernel]
    | _ =>
      simp only [hpayload] at happly
      obtain rfl := Except.ok.inj happly
      simp [EventPayload.isKernel]

/-- The events of a stream before its last one stand below the length of the stream. -/
private theorem streamVersion_lt_of_dropLast {ledger : InMemoryOperationalLedger}
    {streamId : String} {earlier : List StoredEvent} {last stored : StoredEvent}
    (hsplit : onStream streamId ledger.events = earlier ++ [last]) (h : stored ∈ earlier) :
    stored.event.streamVersion < ledger.streamLength streamId := by
  have hversions := ledger.versions_contiguous streamId
  rw [hsplit, List.map_append, List.length_append, List.length_singleton, List.range'_concat]
    at hversions
  have hmem := List.mem_map_of_mem (f := (·.event.streamVersion)) h
  rw [List.append_inj_left' hversions rfl, List.mem_range'_1] at hmem
  rw [ledger.streamLength_eq, hsplit, List.length_append, List.length_singleton]
  omega

/-- **The Kernel expects the right version** exactly on the streams that it wrote last. -/
theorem lastKernelVersion_eq_iff (ledger : InMemoryOperationalLedger) (streamId : String) :
    lastKernelVersion streamId ledger.events = ledger.streamLength streamId ↔
      KernelWroteLast ledger streamId := by
  rcases List.eq_nil_or_concat (onStream streamId ledger.events) with hnil | ⟨earlier, last, hsplit⟩
  · simp [lastKernelVersion, KernelWroteLast, hnil, ledger.streamLength_eq]
  · have hlast : (onStream streamId ledger.events).getLast? = some last := by simp [hsplit]
    have hversion := ledger.streamVersion_getLast? hlast
    cases hkernel : last.event.payload.isKernel with
    | true =>
      have hfiltered : lastKernelVersion streamId ledger.events = last.event.streamVersion := by
        simp [lastKernelVersion, hsplit, hkernel]
      rw [hfiltered, hversion, ledger.streamLength_eq]
      refine iff_of_true rfl fun found hfound => ?_
      obtain rfl := Option.some.inj (hlast.symm.trans hfound)
      exact hkernel
    | false =>
      refine iff_of_false ?_ fun hwrote => ?_
      · have hbelow : lastKernelVersion streamId ledger.events <
            ledger.streamLength streamId := by
          have hpos : 0 < ledger.streamLength streamId := by
            rw [ledger.streamLength_eq, hsplit]
            simp
          have hfiltered : (onStream streamId ledger.events).filter
              (·.event.payload.isKernel) = earlier.filter (·.event.payload.isKernel) := by
            simp [hsplit, hkernel]
          rw [lastKernelVersion, hfiltered]
          split
          · next kernelLast hfound =>
            exact streamVersion_lt_of_dropLast (hsplit.trans (List.concat_eq_append ..))
              (List.mem_of_mem_filter (List.mem_of_getLast? hfound))
          · exact hpos
        omega
      · rw [hwrote last hlast] at hkernel
        cases hkernel

/-! ### Stream conflicts -/

section Conflicts

variable [Sha256] {s : MemorySystem} {clock : Clock}

/-- The program raises a stream conflict. -/
def RaisesConflict {L α : Type} (x : SystemM L α) (s : System L) : Prop :=
  ∃ streamId expected actual t, x s = .error (.streamConflict streamId expected actual) t

instance {L α : Type} (x : SystemM L α) (s : System L) : Decidable (RaisesConflict x s) :=
  decidable_of_iff
    ((match x s with
      | .error e _ => e.isStreamConflict
      | .ok _ _ => false) = true) <| by
    unfold RaisesConflict
    cases x s with
    | ok a t => simp
    | error e t => cases e <;> simp [VsmError.isStreamConflict]

/-- The ledger would compare versions: the data model accepts the event of the recording, the event
is of the ledger's data space, and neither its key nor its identity is stored. -/
def Recording.IsNew (r : Recording Kernel) (s : MemorySystem) : Prop :=
  ∃ event, r.envelope s.kernel = .ok event ∧ event.dataSpaceId = s.ledger.dataSpaceId ∧
    s.ledger.idempotency.get? event.idempotencyKey = none ∧
    s.ledger.eventIds.get? event.eventId = none

/-- The assignments after the recording raise no stream conflict. -/
def Recording.Quiet (r : Recording Kernel) : Prop :=
  ∀ event result k streamId expected actual next,
    r.update event result k ≠ .error (.streamConflict streamId expected actual) next

omit [Sha256] in
@[simp] theorem quiet_recording {streamId : String} {payload : KernelPayload} {actorType : String}
    {actorId : Option String} {key : String} {correlationId causationId : Option String}
    {occurredAt : DateTime} {assign : EventEnvelope → Kernel → Kernel} :
    (Kernel.recording streamId payload actorType actorId key correlationId causationId occurredAt
      assign).Quiet := by
  intro event result k streamId expected actual next h
  cases h

omit [Sha256] in
/-- Forgetting the value raises nothing. -/
theorem raisesConflict_bind_pure {L α β : Type} (x : SystemM L α) {b : α → β} (s : System L) :
    RaisesConflict (x >>= fun a => pure (b a)) s ↔ RaisesConflict x s := by
  unfold RaisesConflict
  cases h : x s with
  | ok a t =>
    rw [EStateM.run_bind_of_ok h]
    constructor <;> (rintro ⟨_, _, _, _, hraised⟩; cases hraised)
  | error e t =>
    rw [EStateM.run_bind_of_error h]
    constructor <;>
    · rintro ⟨streamId, expected, actual, _, hraised⟩
      obtain ⟨rfl, rfl⟩ := EStateM.Result.error.inj hraised
      exact ⟨streamId, expected, actual, _, rfl⟩

/-- **A recording runs into a conflict** when its event is new and the Kernel does not know where
its stream stands. -/
theorem raisesConflict_record_iff {r : Recording Kernel} (hquiet : r.Quiet) :
    RaisesConflict (record r : SystemM InMemoryOperationalLedger _) s ↔
      r.IsNew s ∧ s.kernel.versions.getD r.streamId 0 ≠ s.ledger.streamLength r.streamId := by
  cases henvelope : r.envelope s.kernel with
  | error e =>
    obtain rfl := Recording.envelope_eq_error henvelope
    have hrun : record r s = .error (.validationError "EventEnvelope") s :=
      record_of_invalid henvelope
    refine iff_of_false ?_ ?_
    · rintro ⟨streamId, expected, actual, t, hconflict⟩
      cases hrun.symm.trans hconflict
    · rintro ⟨⟨event, hevent, -⟩, -⟩
      cases henvelope.symm.trans hevent
  | ok event =>
    have hstream := (Recording.describes_of_envelope henvelope).stream
    have hcompared : (r.IsNew s ∧
        s.kernel.versions.getD r.streamId 0 ≠ s.ledger.streamLength r.streamId) ↔
        ∃ streamId known actual,
          s.ledger.append event (s.kernel.versions.getD r.streamId 0) =
            .error (.streamConflict streamId known actual) := by
      rw [InMemoryOperationalLedger.append_conflict_iff, hstream]
      constructor
      · rintro ⟨⟨known, hknown, hspace, hkey, hid⟩, hne⟩
        obtain rfl := Except.ok.inj (henvelope.symm.trans hknown)
        exact ⟨hspace, hkey, hid, hne.symm⟩
      · rintro ⟨hspace, hkey, hid, hne⟩
        exact ⟨⟨event, henvelope, hspace, hkey, hid⟩, hne.symm⟩
    rw [hcompared]
    cases happend : s.ledger.append event (s.kernel.versions.getD r.streamId 0) with
    | error e =>
      have hrun : record r s = .error e s := record_of_refused henvelope happend
      constructor
      · rintro ⟨streamId, expected, actual, t, hconflict⟩
        obtain ⟨rfl, -⟩ := EStateM.Result.error.inj (hrun.symm.trans hconflict)
        exact ⟨streamId, expected, actual, rfl⟩
      · rintro ⟨streamId, expected, actual, hconflict⟩
        obtain rfl := Except.error.inj hconflict
        exact ⟨streamId, expected, actual, s, hrun⟩
    | ok answer =>
      obtain ⟨result, ledger⟩ := answer
      have hrun := record_of_appended (r := r) (s := s) henvelope happend
      refine iff_of_false ?_ ?_
      · rintro ⟨streamId, expected, actual, t, hconflict⟩
        rw [hrun] at hconflict
        split at hconflict
        · cases hconflict
        · next e next hupdate =>
          obtain ⟨rfl, -⟩ := EStateM.Result.error.inj hconflict
          exact hquiet _ _ _ _ _ _ _ hupdate
      · rintro ⟨streamId, expected, actual, hconflict⟩
        cases hconflict

/-- The assignments of every planned recording are quiet. -/
theorem quiet_of_plan {k : Kernel}
    {readStream : String → Nat → Nat → Except VsmError (List StoredEvent)} (c : KernelCommand) :
    Checked.Yields (c.plan k readStream clock) fun recordings => ∀ r ∈ recordings, r.Quiet := by
  cases c
  case registerNode node actorId key =>
    simp only [KernelCommand.plan, Kernel.registerNode]
    cases node.parentNodeId <;> simp
  case importCurrentWorkGraph snapshot actorId key =>
    refine Checked.yields_map.mpr fun answer hanswer => ?_
    cases answer with
    | inl known => simp
    | inr r =>
      have himported := Kernel.workGraphSnapshotId_of_import hanswer
      simp only [Kernel.importCurrentWorkGraph, himported, Checked.check_bind_eq_ok_iff,
        Checked.forM_bind_eq_ok_iff, Checked.pure_eq_ok_iff] at hanswer
      obtain ⟨-, -, -, -, -, -, -, -, hr⟩ := hanswer
      obtain rfl := Sum.inr.inj hr
      simp
  case promoteAgentNotification =>
    simp [KernelCommand.plan, Kernel.planPromotion, Kernel.promotionRecording,
      Kernel.createWorkItem]
  case acceptS3StarRisk findingId s5NodeId actorId rationale key =>
    simp only [KernelCommand.plan, Kernel.acceptS3StarRisk, Checked.yields_map,
      Checked.yields_orRaise_bind, Checked.yields_check_bind, Checked.yields_pure,
      List.mem_singleton, forall_eq]
    -- The work item may be missing, which raises a `KeyError`.
    intro finding _ _ event result k streamId expected actual next hraised
    dsimp only at hraised
    rw [EStateM.run_bind_of_ok (EStateM.run_modify_eq _ _), EStateM.run_get_bind] at hraised
    dsimp only at hraised
    cases hwork : k.workItems.get? finding.workItemId with
    | none =>
      rw [hwork] at hraised
      cases hraised
    | some work =>
      rw [hwork] at hraised
      cases hraised
  all_goals
    simp [KernelCommand.plan, Kernel.createWorkItem, Kernel.grantCapability, Kernel.addDependency,
      Kernel.delegateWorkItem, Kernel.prepareOwnerConfirmedResume, Kernel.createExecution,
      Kernel.recordAgentNotification, Kernel.recordAgentNameAssignment,
      Kernel.registerAgentIdentity, Kernel.setExecutionState, Kernel.recordPilotExecutionReceipt,
      Kernel.reserveBudget, Kernel.planEffect, Kernel.approveEffect, Kernel.activateEffect,
      Kernel.markEffectUnknown, Kernel.reconcileEffect, Kernel.intervene,
      Kernel.recordS3StarFinding, Kernel.completeWorkItem, Kernel.pilotHostDisconnected,
      Kernel.registerReferenceGrant, Kernel.registerRouteSnapshot, Kernel.approveRouteSnapshot,
      Kernel.publishRouteSnapshot, Kernel.retireRouteSnapshot]

section Refusals

variable {k : Kernel}

omit [Sha256] in
private theorem requireParent_refuses (workItem : WorkItem) :
    Checked.Refuses (k.requireParent workItem) fun e => e.isStreamConflict = false := by
  unfold Kernel.requireParent
  cases workItem.parentWorkItemId <;> simp

private theorem importCurrentWorkGraph_refuses {ledger : InMemoryOperationalLedger}
    {snapshot : CurrentWorkGraphSnapshot} {actorId key : String} :
    Checked.Refuses (k.importCurrentWorkGraph ledger.stream snapshot actorId key clock)
      fun e => e.isStreamConflict = false := by
  unfold Kernel.importCurrentWorkGraph
  cases k.activation.workGraphSnapshotId with
  | none =>
    have hitems : Checked.Refuses (forM snapshot.workItems (k.requireImportedWork snapshot))
        fun e => e.isStreamConflict = false :=
      Checked.refuses_forM fun work _ => by simp [Kernel.requireImportedWork]
    simp [hitems]
  | some importedId =>
    simp only [Checked.refuses_check_bind, isStreamConflict_invariantViolation, implies_true,
      true_and]
    intro _
    rw [Checked.refuses_bind]
    refine ⟨by simp [InMemoryOperationalLedger.stream], fun events _ => ?_⟩
    split
    · simp
    · split <;> simp

omit [Sha256] in
private theorem validateNotificationIdentity_refuses (notification : AgentNotification) :
    Checked.Refuses (k.validateNotificationIdentity notification)
      fun e => e.isStreamConflict = false := by
  unfold Kernel.validateNotificationIdentity Kernel.validateAgentMessageIdentity
  split
  · simp only [Checked.refuses_check_bind, isStreamConflict_invariantViolation, implies_true,
      true_and]
    intro _ _
    split
    · split <;> simp
    · simp
  · simp

omit [Sha256] in
private theorem receiptOutcome_refuses (receipt : Kernel.PilotReceipt) :
    Checked.Refuses (Kernel.receiptOutcome receipt) fun e => e.isStreamConflict = false := by
  unfold Kernel.receiptOutcome
  split_ifs <;> simp

omit [Sha256] in
private theorem incompleteDependencies_refuses (workItemId : String) :
    Checked.Refuses (k.incompleteDependencies workItemId) fun e => e.isStreamConflict = false :=
  Checked.refuses_filterM (fun targetId => by simp) _

omit [Sha256] in
private theorem validateRetirement_refuses (snapshot : RouteSnapshot)
    (reason : RouteSnapshotRetirementReason) (replacement : Option String) :
    Checked.Refuses (k.validateRetirement snapshot reason replacement)
      fun e => e.isStreamConflict = false := by
  cases reason <;> cases replacement <;>
    simp [Kernel.validateRetirement, Kernel.validateRouteSnapshotReplacement]

/-- No check of a Kernel command reports a stream conflict. -/
theorem plan_refuses {ledger : InMemoryOperationalLedger} (c : KernelCommand) :
    Checked.Refuses (c.plan k ledger.stream clock) fun e => e.isStreamConflict = false := by
  cases c
  case registerNode node actorId key =>
    simp only [KernelCommand.plan, Kernel.registerNode]
    cases node.parentNodeId <;> simp
  case importCurrentWorkGraph =>
    exact Checked.refuses_map.mpr importCurrentWorkGraph_refuses
  all_goals
    simp [KernelCommand.plan, Kernel.createWorkItem, Kernel.grantCapability, Kernel.addDependency,
      Kernel.delegateWorkItem, Kernel.prepareOwnerConfirmedResume, Kernel.createExecution,
      Kernel.recordAgentNotification, Kernel.recordAgentNameAssignment,
      Kernel.registerAgentIdentity, Kernel.setExecutionState, Kernel.recordPilotExecutionReceipt,
      Kernel.reserveBudget, Kernel.planEffect, Kernel.approveEffect, Kernel.activateEffect,
      Kernel.markEffectUnknown, Kernel.reconcileEffect, Kernel.intervene,
      Kernel.recordS3StarFinding, Kernel.completeWorkItem, Kernel.pilotHostDisconnected,
      Kernel.registerReferenceGrant, Kernel.registerRouteSnapshot, Kernel.approveRouteSnapshot,
      Kernel.publishRouteSnapshot, Kernel.retireRouteSnapshot, Kernel.acceptS3StarRisk,
      Kernel.planPromotion, Kernel.requirePromotable, Kernel.validateOwnerConfirmedResume,
      Kernel.requireEffectReconciliation, ActivationService.requireActive,
      AgentNameRegistry.assignmentForId, AgentNameRegistry.registrationForId,
      Kernel.approvalState, requireParent_refuses, validateNotificationIdentity_refuses,
      receiptOutcome_refuses, incompleteDependencies_refuses, validateRetirement_refuses]

end Refusals

/-! ### The two recordings of a promotion -/

/-- The events of the two recordings have neither a key nor an identity in common. -/
def Recording.ToldApart (k : Kernel) (q r : Recording Kernel) : Prop :=
  q.idempotencyKey ≠ r.idempotencyKey ∧
    deterministicEventId k.dataSpace.dataSpaceId q.streamId q.idempotencyKey ≠
      deterministicEventId k.dataSpace.dataSpaceId r.streamId r.idempotencyKey

/-- What an accepted recording leaves for the next one: the data space, the versions of the other
streams, and a ledger that stores its event. -/
structure Recording.Leaves (q : Recording Kernel) (s t : MemorySystem) : Prop where
  data_space : t.kernel.dataSpace = s.kernel.dataSpace
  versions : ∀ streamId ≠ q.streamId,
    t.kernel.versions.getD streamId 0 = s.kernel.versions.getD streamId 0
  stored : ∃ event, q.envelope s.kernel = .ok event ∧
    ((t.ledger = s.ledger ∧ ∃ known ∈ s.ledger.events, known.event = event) ∨
      ∃ happ : s.ledger.Appendable event, t.ledger = s.ledger.push event happ)

/-- A recording whose assignments leave the data space and the versions alone. -/
theorem leaves_of_accepted {streamId : String} {payload : KernelPayload} {actorType : String}
    {actorId : Option String} {key : String} {correlationId causationId : Option String}
    {occurredAt : DateTime} {assign : EventEnvelope → Kernel → Kernel}
    (hspace : ∀ event k, (assign event k).dataSpace = k.dataSpace)
    (hversions : ∀ event k, (assign event k).versions = k.versions)
    (h : (Kernel.recording streamId payload actorType actorId key correlationId causationId
      occurredAt assign).Accepted s) :
    ∃ answer t, record (Kernel.recording streamId payload actorType actorId key correlationId
        causationId occurredAt assign) s = .ok answer t ∧
      (Kernel.recording streamId payload actorType actorId key correlationId causationId
        occurredAt assign).Leaves s t := by
  obtain ⟨event, ⟨result, ledger⟩, henvelope, happend⟩ := h
  refine ⟨_, _, record_of_appended henvelope happend, ⟨hspace _ _, fun id hid => ?_, event,
    henvelope, ?_⟩⟩
  · change (assign event _).versions.getD id 0 = _
    rw [hversions]
    change (s.kernel.versions.set streamId result.streamVersion).getD id 0 = _
    rw [OrderedDict.getD_set]
    exact if_neg (Ne.symm hid)
  · rcases s.ledger.append_eq_ok happend with ⟨happ, -, -, rfl⟩ | ⟨known, hknown, heq, -, rfl⟩
    · exact Or.inr ⟨happ, rfl⟩
    · exact Or.inl ⟨rfl, known, hknown, heq⟩

/-- The next recording is new when it was new before and is told apart from the first. -/
theorem Recording.Leaves.isNew_iff {q r : Recording Kernel} {t : MemorySystem}
    (h : q.Leaves s t) (hstreams : r.streamId ≠ q.streamId) :
    r.IsNew t ↔ q.ToldApart s.kernel r ∧ r.IsNew s := by
  obtain ⟨hspace, hversions, first, hfirst, hledger⟩ := h
  have henvelope : r.envelope t.kernel = r.envelope s.kernel := by
    have hdata : EventWriter.dataSpaceId t.kernel = EventWriter.dataSpaceId s.kernel :=
      congrArg DataSpace.dataSpaceId hspace
    have hversion : EventWriter.version t.kernel r.streamId =
        EventWriter.version s.kernel r.streamId := hversions r.streamId hstreams
    simp only [Recording.envelope, hdata, hversion]
  have hkey : first.idempotencyKey = q.idempotencyKey := (describes_of_envelope hfirst).key
  have hid := eventId_of_envelope hfirst
  unfold Recording.IsNew Recording.ToldApart
  rw [henvelope, ← hkey]
  change _ ↔ (_ ∧ deterministicEventId (EventWriter.dataSpaceId s.kernel) _ _ ≠ _) ∧ _
  rw [← hkey] at hid
  rw [← hid]
  constructor
  · rintro ⟨event, hevent, hdata, hfreshKey, hfreshId⟩
    have heventKey := (describes_of_envelope hevent).key
    have heventId := eventId_of_envelope hevent
    rcases hledger with ⟨hsame, known, hknown, rfl⟩ | ⟨happ, hpush⟩
    · rw [hsame] at hdata hfreshKey hfreshId
      refine ⟨⟨fun heq => ?_, fun heq => ?_⟩, event, hevent, hdata, hfreshKey, hfreshId⟩
      · have := (s.ledger.idempotency_iff event.idempotencyKey known).mpr
          ⟨hknown, heq.trans heventKey.symm⟩
        cases hfreshKey.symm.trans this
      · have := (s.ledger.eventIds_iff event.eventId known).mpr
          ⟨hknown, heq.trans heventId.symm⟩
        cases hfreshId.symm.trans this
    · rw [hpush] at hdata hfreshKey hfreshId
      change (s.ledger.idempotency.set first.idempotencyKey _).get? _ = none at hfreshKey
      change (s.ledger.eventIds.set first.eventId _).get? _ = none at hfreshId
      rw [OrderedDict.get?_set] at hfreshKey hfreshId
      split at hfreshKey
      · cases hfreshKey
      · next hkeys =>
        split at hfreshId
        · cases hfreshId
        · next hids =>
          rw [heventKey] at hkeys
          rw [heventId] at hids
          exact ⟨⟨hkeys, hids⟩, event, hevent, hdata, hfreshKey, hfreshId⟩
  · rintro ⟨⟨hkeys, hids⟩, event, hevent, hdata, hfreshKey, hfreshId⟩
    have heventKey := (describes_of_envelope hevent).key
    have heventId := eventId_of_envelope hevent
    refine ⟨event, hevent, ?_⟩
    rcases hledger with ⟨hsame, -⟩ | ⟨happ, hpush⟩
    · rw [hsame]
      exact ⟨hdata, hfreshKey, hfreshId⟩
    · rw [hpush]
      refine ⟨hdata, ?_, ?_⟩
      · change (s.ledger.idempotency.set first.idempotencyKey _).get? _ = none
        rw [OrderedDict.get?_set, if_neg (by rw [heventKey]; exact hkeys)]
        exact hfreshKey
      · change (s.ledger.eventIds.set first.eventId _).get? _ = none
        rw [OrderedDict.get?_set, if_neg (by rw [heventId]; exact hids)]
        exact hfreshId

theorem Recording.Leaves.streamLength {q : Recording Kernel} {t : MemorySystem}
    (h : q.Leaves s t) {streamId : String} (hne : streamId ≠ q.streamId) :
    t.ledger.streamLength streamId = s.ledger.streamLength streamId := by
  obtain ⟨-, -, first, hfirst, ⟨hsame, -⟩ | ⟨happ, hpush⟩⟩ := h
  · rw [hsame]
  · rw [hpush, InMemoryOperationalLedger.push_streamLength,
      if_neg (by rw [(describes_of_envelope hfirst).stream]; exact Ne.symm hne), Nat.add_zero]

/-- **Two recordings** on different streams run into a conflict at the first, or at the second when
the first is accepted. -/
theorem raisesConflict_pair_iff {q r : Recording Kernel} (hr : r.Quiet)
    (hleaves : q.Accepted s → ∃ answer t, record q s = .ok answer t ∧ q.Leaves s t)
    (hstreams : r.streamId ≠ q.streamId) :
    RaisesConflict (recordEach [q, r] : SystemM InMemoryOperationalLedger _) s ↔
      RaisesConflict (record q : SystemM InMemoryOperationalLedger _) s ∨
        (q.Accepted s ∧ q.ToldApart s.kernel r ∧ r.IsNew s ∧
          s.kernel.versions.getD r.streamId 0 ≠ s.ledger.streamLength r.streamId) := by
  change RaisesConflict (record q >>= fun _ => (recordEach [r] : SystemM _ Unit)) s ↔ _
  by_cases haccepted : q.Accepted s
  · obtain ⟨answer, t, hrun, hleft⟩ := hleaves haccepted
    have hfirst : ¬ RaisesConflict (record q : SystemM InMemoryOperationalLedger _) s := by
      rintro ⟨streamId, expected, actual, _, hconflict⟩
      cases hrun.symm.trans hconflict
    have hsecond : RaisesConflict (record q >>= fun _ => (recordEach [r] : SystemM _ Unit)) s ↔
        RaisesConflict (record r : SystemM InMemoryOperationalLedger _) t := by
      unfold RaisesConflict
      rw [EStateM.run_bind_of_ok hrun, recordEach_singleton]
      exact raisesConflict_bind_pure (record r) t
    rw [hsecond, raisesConflict_record_iff hr, hleft.isNew_iff hstreams,
      hleft.versions _ hstreams, hleft.streamLength hstreams]
    tauto
  · rcases record_cases q s with ⟨e, herror⟩ | ⟨event, result, ledger, henvelope, happend, -⟩
    · have hrun : (record q >>= fun _ => (recordEach [r] : SystemM _ Unit)) s = .error e s :=
        EStateM.run_bind_of_error herror
      unfold RaisesConflict
      rw [hrun, herror]
      constructor
      · rintro ⟨streamId, expected, actual, t, h⟩
        obtain ⟨rfl, -⟩ := EStateM.Result.error.inj h
        exact Or.inl ⟨streamId, expected, actual, s, rfl⟩
      · rintro (⟨streamId, expected, actual, t, h⟩ | ⟨hfalse, -⟩)
        · obtain ⟨rfl, -⟩ := EStateM.Result.error.inj h
          exact ⟨streamId, expected, actual, s, rfl⟩
        · exact absurd hfalse haccepted
    · exact absurd ⟨event, (result, ledger), henvelope, happend⟩ haccepted

/-! ### Permitted commands -/

/-- A planned promotion records on two streams, and its first recording leaves the second alone. -/
theorem pair_of_planPromotion {k : Kernel} {notificationId : String} {workItem : WorkItem}
    {actorId key : String} {recordings : List (Recording Kernel)}
    (h : k.planPromotion notificationId workItem actorId key clock = .ok recordings) :
    ∃ q r, recordings = [q, r] ∧ r.streamId ≠ q.streamId ∧ ∀ s : MemorySystem,
      q.Accepted s → ∃ answer t, record q s = .ok answer t ∧ q.Leaves s t := by
  obtain ⟨notification, hpromotable, h⟩ := Checked.bind_eq_ok_iff.mp h
  obtain ⟨creation, hcreation, h⟩ := Checked.bind_eq_ok_iff.mp h
  obtain rfl := Checked.pure_eq_ok_iff.mp h
  simp only [Kernel.requirePromotable, Checked.orRaise_bind_eq_ok_iff,
    Checked.check_bind_eq_ok_iff, Checked.pure_eq_ok_iff] at hpromotable
  obtain ⟨known, -, -, -, -, hdistinct, -, rfl⟩ := hpromotable
  simp only [Kernel.createWorkItem, Checked.check_bind_eq_ok_iff, Checked.forM_bind_eq_ok_iff]
    at hcreation
  obtain ⟨-, -, -, -, hcreation⟩ := hcreation
  obtain ⟨_, -, hcreation⟩ := Checked.bind_eq_ok_iff.mp hcreation
  obtain rfl := Checked.pure_eq_ok_iff.mp hcreation
  exact ⟨_, _, rfl, Ne.symm hdistinct,
    fun s => leaves_of_accepted (fun _ _ => rfl) fun _ _ => rfl⟩

/-- A command plans nothing, one recording, or the two of a promotion. -/
private theorem plan_shape {k : Kernel}
    {readStream : String → Nat → Nat → Except VsmError (List StoredEvent)} (c : KernelCommand) :
    Checked.Yields (c.plan k readStream clock) fun recordings =>
      recordings = [] ∨ (∃ r, recordings = [r]) ∨
        ∃ q r, recordings = [q, r] ∧ r.streamId ≠ q.streamId ∧ ∀ s : MemorySystem,
          q.Accepted s → ∃ answer t, record q s = .ok answer t ∧ q.Leaves s t := by
  cases c
  case promoteAgentNotification =>
    exact fun recordings h => Or.inr (Or.inr (pair_of_planPromotion h))
  case importCurrentWorkGraph =>
    refine Checked.yields_map.mpr fun answer _ => ?_
    cases answer with
    | inl known => exact Or.inl rfl
    | inr r => exact Or.inr (Or.inl ⟨r, rfl⟩)
  case validateOwnerConfirmedResume => exact Checked.yields_map.mpr fun _ _ => Or.inl rfl
  case requireEffectReconciliation => exact Checked.yields_map.mpr fun _ _ => Or.inl rfl
  all_goals exact Checked.yields_map.mpr fun r _ => Or.inr (Or.inl ⟨r, rfl⟩)

/-- The command runs into no stream conflict. -/
def AppendsInTurn (s : MemorySystem) (c : KernelCommand) (clock : Clock) : Prop :=
  ¬ RaisesConflict (c.run clock) s

instance (s : MemorySystem) (c : KernelCommand) (clock : Clock) :
    Decidable (AppendsInTurn s c clock) :=
  inferInstanceAs (Decidable (¬ _))

/-- Every new event of the command goes to a stream that the Kernel wrote last. A promotion comes
to its second event when its first one is accepted. -/
def KernelCommand.KeepsToItsStreams (c : KernelCommand) (s : MemorySystem) (clock : Clock) : Prop :=
  ∀ recordings, c.plan s.kernel s.ledger.stream clock = .ok recordings →
    ∀ earlier r later, recordings = earlier ++ r :: later →
      (∀ q ∈ earlier, q.Accepted s ∧ q.ToldApart s.kernel r) → r.IsNew s →
        KernelWroteLast s.ledger r.streamId

/-- What the Kernel remembers decides which commands run into a conflict. -/
private theorem appendsInTurn_iff_of_versions
    (hversions : ∀ streamId,
      s.kernel.versions.getD streamId 0 = lastKernelVersion streamId s.ledger.events)
    (c : KernelCommand) : AppendsInTurn s c clock ↔ c.KeepsToItsStreams s clock := by
  have hknows (streamId : String) :
      s.kernel.versions.getD streamId 0 = s.ledger.streamLength streamId ↔
        KernelWroteLast s.ledger streamId := by
    rw [hversions, lastKernelVersion_eq_iff]
  unfold AppendsInTurn KernelCommand.KeepsToItsStreams RaisesConflict
  rw [KernelCommand.run_eq_plan]
  change ¬ (∃ streamId expected actual t, (EStateM.ofExcept (c.plan s.kernel s.ledger.stream clock)
    >>= recordEach) s = .error (.streamConflict streamId expected actual) t) ↔ _
  cases hplan : c.plan s.kernel s.ledger.stream clock with
  | error e =>
    rw [EStateM.run_ofExcept_error_bind]
    refine iff_of_true ?_ fun _ h => by cases h
    rintro ⟨streamId, expected, actual, t, h⟩
    obtain ⟨rfl, -⟩ := EStateM.Result.error.inj h
    cases (plan_refuses c).of_error hplan
  | ok recordings =>
    rw [EStateM.run_ofExcept_ok_bind]
    change ¬ RaisesConflict (recordEach recordings : SystemM InMemoryOperationalLedger _) s ↔ _
    have hquiet := (quiet_of_plan c).of_ok hplan
    rcases (plan_shape c).of_ok hplan with rfl | ⟨r, rfl⟩ | ⟨q, r, rfl, hstreams, hleaves⟩
    · refine iff_of_true ?_ ?_
      · rintro ⟨streamId, expected, actual, t, h⟩
        cases h
      · rintro _ h earlier r later hsplit
        obtain rfl := Except.ok.inj h
        cases earlier <;> cases hsplit
    · rw [recordEach_singleton, raisesConflict_bind_pure,
        raisesConflict_record_iff (hquiet r List.mem_cons_self)]
      constructor
      · rintro h _ heq earlier last later hsplit - hnew
        obtain rfl := Except.ok.inj heq
        cases earlier with
        | nil =>
          obtain ⟨rfl, -⟩ := List.cons.inj hsplit
          exact (hknows _).mp (not_not.mp fun hne => h ⟨hnew, hne⟩)
        | cons q earlier => cases earlier <;> cases (List.cons.inj hsplit).2
      · rintro h ⟨hnew, hne⟩
        exact hne ((hknows _).mpr (h _ rfl [] r [] rfl (fun _ hq => by cases hq) hnew))
    · rw [raisesConflict_pair_iff (hquiet r (by simp)) (hleaves s) hstreams,
        raisesConflict_record_iff (hquiet q (by simp))]
      constructor
      · rintro h _ heq earlier last later hsplit hearlier hnew
        obtain rfl := Except.ok.inj heq
        refine (hknows _).mp (not_not.mp fun hne => h ?_)
        match earlier, hsplit, hearlier with
        | [], hsplit, _ =>
          obtain ⟨rfl, -⟩ := List.cons.inj hsplit
          exact Or.inl ⟨hnew, hne⟩
        | [first], hsplit, hearlier =>
          obtain ⟨rfl, hrest⟩ := List.cons.inj hsplit
          obtain ⟨rfl, -⟩ := List.cons.inj hrest
          obtain ⟨haccepted, htold⟩ := hearlier q List.mem_cons_self
          exact Or.inr ⟨haccepted, htold, hnew, hne⟩
        | first :: second :: rest, hsplit, _ =>
          obtain ⟨-, hrest⟩ := List.cons.inj hsplit
          obtain ⟨-, hrest⟩ := List.cons.inj hrest
          cases rest <;> cases hrest
      · rintro h (⟨hnew, hne⟩ | ⟨haccepted, htold, hnew, hne⟩)
        · exact hne ((hknows _).mpr (h _ rfl [] q [r] rfl (fun _ hq => by cases hq) hnew))
        · refine hne ((hknows _).mpr (h _ rfl [q] r [] rfl (fun _ hq => ?_) hnew))
          obtain rfl := List.mem_singleton.mp hq
          exact ⟨haccepted, htold⟩

/-- **Stream versions after a rebuild.** Whatever ledger the projection accepted, a Kernel command
in the rebuilt services runs into a stream conflict unless its new events go to streams that the
Kernel wrote last. -/
theorem appendsInTurn_iff_keepsToItsStreams (dataSpace : DataSpace)
    (routingEvidence : Option RoutingEvidenceService) (tokenLab : Option TokenLabEventService)
    (ledger : InMemoryOperationalLedger) {pageSize : Nat} {p : OperationalProjection}
    (hrebuild : { OperationalProjection.fresh dataSpace with
      routingEvidence := routingEvidence, tokenLab := tokenLab }.rebuild ledger pageSize =
        .ok (some p)) (c : KernelCommand) (clock : Clock) :
    AppendsInTurn (p.services ledger) c clock ↔ c.KeepsToItsStreams (p.services ledger) clock := by
  have hpos : 0 < pageSize := (Checked.check_bind_eq_ok_iff.mp hrebuild).1
  rw [OperationalProjection.rebuild_eq_replay _ _ hpos] at hrebuild
  obtain ⟨final, hreplay, hfinal⟩ := Checked.bind_eq_ok_iff.mp hrebuild
  obtain rfl := Option.some.inj (Except.ok.inj hfinal)
  exact appendsInTurn_iff_of_versions
    (fun streamId =>
      versions_of_replay (k := .new dataSpace) rfl (kernel_of_replay hreplay) streamId) c

/-- A summary that the legacy system wrote for the owner's node. -/
def legacySummary : LegacyRecord where
  kind := .nodeMemory
  source := "container-1"
  sourceFile := "container-1/events.jsonl"
  lineNumber := 1
  occurredAt := 5
  raw := .text "summary_generated"
  sender := none
  text := "reuse the build cache"

/-- The owner assigns the container to the node that is to become the Interface Node. -/
def legacyPlan : MigrationPlan where
  targetDataSpaceId := "space:company-1"
  sources := .ofList [("container-1",
    ⟨"owner:1", "node:owner-interface", "conversation:legacy-1", "node:owner-interface", []⟩)]
  importEventCount := 2

/-- The ledger of the company after the migration, before its first node is registered. -/
def migratedLedger : InMemoryOperationalLedger :=
  (importPlan legacyPlan [legacySummary] companySpace.dataSpaceId).finalState
    (.new companySpace.dataSpaceId)

/-- The projection that has read the migrated ledger. -/
def migratedProjection : OperationalProjection :=
  match (OperationalProjection.fresh companySpace).rebuild migratedLedger 100 with
  | .ok (some p) => p
  | .ok none | .error _ => .fresh companySpace

omit [Sha256] in
private theorem rebuild_migratedLedger :
    letI := Sha256.polynomial
    (OperationalProjection.fresh companySpace).rebuild migratedLedger 100 =
      .ok (some migratedProjection) := by
  let := Sha256.polynomial
  have haccepted : (match (OperationalProjection.fresh companySpace).rebuild migratedLedger 100 with
    | .ok (some _) => true
    | .ok none | .error _ => false) = true := by decide +kernel
  unfold migratedProjection
  split at haccepted
  · next p hp => rw [hp]
  · cases haccepted
  · cases haccepted

omit [Sha256] in
/-- The registration of the node does not keep to the Kernel's streams. -/
theorem registerNode_leaves_its_streams :
    letI := Sha256.polynomial
    ¬ (KernelCommand.registerNode ownerNode "owner:1" "node:1").KeepsToItsStreams
      (migratedProjection.services migratedLedger) fun _ => 10 := by
  let := Sha256.polynomial
  rw [← appendsInTurn_iff_keepsToItsStreams companySpace none (some (.new "space:company-1"))
    migratedLedger rebuild_migratedLedger]
  decide +kernel

omit [Sha256] in
/-- **A migrated node cannot be registered**: the memory that was imported for it is the first
event of its stream, and the Kernel expects none there. -/
theorem legacy_memory_breaks_appendsInTurn :
    letI := Sha256.polynomial
    (OperationalProjection.fresh companySpace).rebuild migratedLedger 100 =
        .ok (some migratedProjection) ∧
      ¬ AppendsInTurn (migratedProjection.services migratedLedger)
        (.registerNode ownerNode "owner:1" "node:1") fun _ => 10 :=
  ⟨rebuild_migratedLedger, by decide +kernel⟩

end Conflicts

end Nanihold
