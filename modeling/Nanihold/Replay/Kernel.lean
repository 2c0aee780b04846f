import Nanihold.Kernel.Permits
import Nanihold.Projection

/-!
# Kernel commands and their replay

Each Kernel command against the handler of the event it records. A command that passed its
checks records an event that the Kernel permits, its assignments do not raise, and the handler
makes the same change from the event alone.

## Main definitions

* `Kernel.Replayable` — a recording whose assignments the projection's handler repeats.

## Main results

* `Kernel.replayable_createWorkItem`, …, `Kernel.replayable_retireRouteSnapshot` — one for
  each command of the Kernel.
-/

namespace Nanihold

namespace Kernel

variable {k : Kernel} {r : Recording Kernel} {clock : Clock}

/-- **Replayable.** Whatever event the recording turns into, the Kernel permits it, the
assignments after it return, and the handler of the event reaches the same Kernel. -/
def Replayable (k : Kernel) (streamId : String) (payload : KernelPayload)
    (r : Recording Kernel) : Prop :=
  r.streamId = streamId ∧ r.payload = .kernel payload ∧
    ∀ (event : EventEnvelope) (result : AppendResult),
      r.Describes k event → result.streamVersion = event.streamVersion →
        k.Permits event payload ∧ ∃ next,
          r.update event result (EventWriter.advance k r.streamId result) = .ok () next ∧
            applyKernel event payload k = .ok next

/-- A recording whose assignments cannot raise is replayable when the handler makes the
assignments; they may not touch the stream versions. -/
private theorem replayable_recording {streamId : String} {payload : KernelPayload}
    {actorType : String} {actorId : Option String} {key : String}
    {correlationId causationId : Option String} {occurredAt : DateTime}
    {assign : EventEnvelope → Kernel → Kernel}
    (hevent : ∀ event : EventEnvelope, event.streamId = streamId →
      ActorType.ofString? actorType = some event.actorType → event.actorId = actorId →
        k.Permits event payload ∧ onKernel event k payload = .ok (assign event k))
    (hframe : ∀ event versions,
      assign event { k with versions := versions } =
        { assign event k with versions := versions }) :
    k.Replayable streamId payload (recording streamId payload actorType actorId key correlationId
      causationId occurredAt assign) := by
  refine ⟨rfl, rfl, fun event result hdescribes hversion => ?_⟩
  obtain ⟨hpermits, hon⟩ := hevent event hdescribes.stream hdescribes.actor_type hdescribes.actor
  refine ⟨hpermits, _, rfl, ?_⟩
  have hkept : (assign event k).versions = k.versions := by
    have := congrArg Kernel.versions (hframe event k.versions)
    exact this
  have hstream : event.streamId = streamId := hdescribes.stream
  refine Eq.trans ?_ (congrArg Except.ok (hframe event _).symm)
  rw [applyKernel, hon]
  change Except.ok (kernelVersion event (assign event k)) = _
  rw [kernelVersion, hkept, hstream, ← hversion]
  rfl

/-! ### Nodes and work -/

theorem replayable_registerNode {node : UVSMNode} {actorId key : String}
    (h : k.registerNode node actorId key clock = .ok r) :
    k.Replayable node.nodeId (.nodeRegistered node) r := by
  simp only [registerNode, Checked.check_bind_eq_ok_iff] at h
  obtain ⟨hspace, hfresh, h⟩ := h
  have hr : (∀ parentNodeId ∈ node.parentNodeId, k.nodes.contains parentNodeId = true) ∧
      r = recording node.nodeId (.nodeRegistered node) "human" (some actorId) key
        (some node.nodeId) none (clock 0)
        fun _ k => { k with nodes := k.nodes.set node.nodeId node } := by
    cases hparent : node.parentNodeId with
    | none =>
      rw [hparent] at h
      exact ⟨by simp, (Checked.pure_eq_ok_iff.mp h).symm⟩
    | some parentNodeId =>
      simp only [hparent, Checked.orRaise_bind_eq_ok_iff, Checked.check_bind_eq_ok_iff,
        Checked.pure_eq_ok_iff] at h
      obtain ⟨parent, hget, -, hr⟩ := h
      refine ⟨fun id hid => ?_, hr.symm⟩
      obtain rfl := Option.mem_some.mp hid
      exact (OrderedDict.contains_iff _ _).mpr ⟨parent, hget⟩
  obtain ⟨hparent, rfl⟩ := hr
  exact replayable_recording (fun _ hstream _ _ => ⟨⟨hstream, hspace, hfresh, hparent⟩, rfl⟩)
    fun _ _ => rfl

private theorem requireParent_eq_ok {workItem : WorkItem} {u : Unit}
    (h : k.requireParent workItem = .ok u) :
    ∀ parentId ∈ workItem.parentWorkItemId, ∃ parent, k.workItems.get? parentId = some parent ∧
      parent.integrationOwnerNodeId = workItem.integrationOwnerNodeId := by
  intro parentId hparent
  rw [requireParent, Option.mem_def.mp hparent] at h
  obtain ⟨parent, hget, h⟩ := Checked.orRaise_bind_eq_ok_iff.mp h
  exact ⟨parent, hget, Checked.check_eq_ok_iff.mp h⟩

theorem replayable_createWorkItem {workItem : WorkItem} {actorId key : String}
    (h : k.createWorkItem workItem actorId key clock = .ok r) :
    k.Replayable workItem.workItemId (.workItemCreated workItem) r := by
  simp only [createWorkItem, Checked.check_bind_eq_ok_iff, Checked.forM_bind_eq_ok_iff] at h
  obtain ⟨-, hstate, ⟨hevidence, hblockers, -⟩, -, h⟩ := h
  obtain ⟨_, hparent, h⟩ := Checked.bind_eq_ok_iff.mp h
  obtain rfl := Checked.pure_eq_ok_iff.mp h
  exact replayable_recording
    (fun _ hstream _ _ =>
      ⟨⟨hstream, hstate, hevidence, hblockers, requireParent_eq_ok hparent⟩, rfl⟩)
    fun _ _ => rfl

theorem replayable_addDependency {workItemId dependsOnId actorId key : String}
    (h : k.addDependency workItemId dependsOnId actorId key clock = .ok r) :
    k.Replayable workItemId (.workDependencyAdded ⟨workItemId, dependsOnId, .dependsOn⟩) r := by
  simp only [addDependency, Checked.check_bind_eq_ok_iff, Checked.pure_eq_ok_iff] at h
  obtain ⟨⟨hsource, htarget⟩, hne, hfresh, hacyclic, rfl⟩ := h
  exact replayable_recording
    (fun _ hstream _ _ => ⟨⟨hstream, rfl, hfresh, hne, hsource, htarget, hacyclic⟩, rfl⟩)
    fun _ _ => rfl

/-- An import that records an event is the first one. -/
theorem workGraphSnapshotId_of_import [Sha256]
    {readStream : String → Nat → Nat → Except VsmError (List StoredEvent)}
    {snapshot : CurrentWorkGraphSnapshot} {actorId key : String}
    (h : k.importCurrentWorkGraph readStream snapshot actorId key clock = .ok (.inr r)) :
    k.activation.workGraphSnapshotId = none := by
  cases himported : k.activation.workGraphSnapshotId with
  | none => rfl
  | some importedId =>
    simp only [importCurrentWorkGraph, himported, Checked.check_bind_eq_ok_iff] at h
    obtain ⟨-, h⟩ := h
    obtain ⟨events, -, h⟩ := Checked.bind_eq_ok_iff.mp h
    split at h
    · cases h
    · split at h
      · rw [Checked.check_bind_eq_ok_iff] at h
        cases h.2
      · cases h

theorem replayable_importCurrentWorkGraph [Sha256]
    {readStream : String → Nat → Nat → Except VsmError (List StoredEvent)}
    {snapshot : CurrentWorkGraphSnapshot} {actorId key : String}
    (h : k.importCurrentWorkGraph readStream snapshot actorId key clock = .ok (.inr r)) :
    k.Replayable snapshot.snapshotId (.currentWorkGraphImported snapshot) r := by
  have himported := workGraphSnapshotId_of_import h
  simp only [importCurrentWorkGraph, himported, Checked.check_bind_eq_ok_iff,
    Checked.forM_bind_eq_ok_iff, Checked.pure_eq_ok_iff] at h
  obtain ⟨hstate, -, -, -, hnodes, hwork, hitems, hedges, hr⟩ := h
  obtain rfl := Sum.inr.inj hr
  have hparents : ∀ work ∈ snapshot.workItems, ∀ parentId ∈ work.parentWorkItemId,
      parentId ∈ snapshot.workItems.map (·.workItemId) := by
    intro work hmem
    have hitem := hitems work hmem
    simp only [requireImportedWork, Checked.check_bind_eq_ok_iff,
      Checked.check_eq_ok_iff] at hitem
    exact hitem.2.2
  exact replayable_recording
    (fun _ hstream _ _ => ⟨⟨hstream, himported, hstate, hnodes, hwork, hparents, hedges⟩, rfl⟩)
    fun _ _ => rfl

theorem replayable_delegateWorkItem {workItemId delegatedToNodeId actorId key : String}
    (h : k.delegateWorkItem workItemId delegatedToNodeId actorId key clock = .ok r) :
    k.Replayable workItemId (.workItemDelegated delegatedToNodeId) r := by
  simp only [delegateWorkItem, Checked.orRaise_bind_eq_ok_iff, Checked.check_bind_eq_ok_iff,
    Checked.pure_eq_ok_iff] at h
  obtain ⟨work, hwork, hnode, hstate, hexecutions, rfl⟩ := h
  refine replayable_recording (fun event hstream _ _ => ?_) fun _ _ => rfl
  subst hstream
  exact ⟨⟨hnode, hexecutions, work, hwork, hstate⟩, by simp only [onKernel, hwork]; rfl⟩

theorem replayable_prepareOwnerConfirmedResume {workItemId actorId key : String}
    (h : k.prepareOwnerConfirmedResume workItemId actorId key clock = .ok r) :
    k.Replayable workItemId (.workItemResumePrepared .ready) r := by
  obtain ⟨_, hvalid, h⟩ := Checked.bind_eq_ok_iff.mp h
  simp only [validateOwnerConfirmedResume, Checked.orRaise_bind_eq_ok_iff,
    Checked.check_bind_eq_ok_iff, Checked.pure_eq_ok_iff] at hvalid
  obtain ⟨hstate, assessment, -, -, work, hwork, hblockers, -, -, rfl⟩ := hvalid
  obtain rfl := Checked.pure_eq_ok_iff.mp h
  refine replayable_recording (fun event hstream _ _ => ?_) fun _ _ => rfl
  subst hstream
  exact ⟨⟨rfl, hstate, work, hwork, hblockers⟩, by simp only [onKernel, hwork]; rfl⟩

theorem replayable_intervene {workItemId actorId reason key : String}
    (h : k.intervene workItemId actorId reason key clock = .ok r) :
    k.Replayable workItemId (.humanIntervention reason) r := by
  simp only [intervene, Checked.orRaise_bind_eq_ok_iff, Checked.pure_eq_ok_iff] at h
  obtain ⟨work, hwork, rfl⟩ := h
  refine replayable_recording (fun event hstream _ _ => ?_) fun _ _ => rfl
  subst hstream
  exact ⟨(OrderedDict.contains_iff _ _).mpr ⟨work, hwork⟩, by simp only [onKernel, hwork]; rfl⟩

theorem replayable_completeWorkItem {workItemId actorId key : String}
    {evidence : CompletionEvidence}
    (h : k.completeWorkItem workItemId evidence actorId key clock = .ok r) :
    k.Replayable workItemId (.workItemCompleted evidence) r := by
  simp only [completeWorkItem, Checked.orRaise_bind_eq_ok_iff,
    Checked.check_bind_eq_ok_iff] at h
  obtain ⟨work, hwork, hblockers, hgate, h⟩ := h
  obtain ⟨incomplete, hincomplete, h⟩ := Checked.bind_eq_ok_iff.mp h
  rw [Checked.check_bind_eq_ok_iff] at h
  obtain ⟨rfl, h⟩ := h
  obtain rfl := Checked.pure_eq_ok_iff.mp h
  refine replayable_recording (fun event hstream _ _ => ?_) fun _ _ => rfl
  subst hstream
  exact ⟨⟨hgate, hincomplete, work, hwork, hblockers⟩, by simp only [onKernel, hwork]; rfl⟩

/-! ### Grants and budgets -/

theorem replayable_grantCapability {grant : CapabilityGrant} {actorId key : String}
    (h : k.grantCapability grant actorId key clock = .ok r) :
    k.Replayable grant.grantId (.capabilityGranted grant) r := by
  simp only [grantCapability, Checked.check_bind_eq_ok_iff, Checked.pure_eq_ok_iff] at h
  obtain ⟨-, hstate, -, -, rfl⟩ := h
  exact replayable_recording (fun _ hstream _ _ => ⟨⟨hstream, hstate⟩, rfl⟩) fun _ _ => rfl

theorem replayable_registerReferenceGrant {grant : ReferenceGrant} {actorId key : String}
    (h : k.registerReferenceGrant grant actorId key clock = .ok r) :
    k.Replayable grant.grantId (.referenceGranted grant) r := by
  simp only [registerReferenceGrant, Checked.check_bind_eq_ok_iff, Checked.pure_eq_ok_iff] at h
  obtain ⟨-, hstate, -, rfl⟩ := h
  exact replayable_recording (fun _ hstream _ _ => ⟨⟨hstream, hstate⟩, rfl⟩) fun _ _ => rfl

theorem replayable_reserveBudget {reservation : BudgetReservation} {actorId key : String}
    (h : k.reserveBudget reservation actorId key clock = .ok r) :
    k.Replayable reservation.reservationId (.budgetReserved reservation) r := by
  simp only [reserveBudget, Checked.check_bind_eq_ok_iff, Checked.pure_eq_ok_iff] at h
  obtain ⟨-, hwork, rfl⟩ := h
  exact replayable_recording (fun _ hstream _ _ => ⟨⟨hstream, hwork⟩, rfl⟩) fun _ _ => rfl

/-! ### Executions -/

theorem replayable_createExecution {execution : Execution} {actorId key : String}
    (h : k.createExecution execution actorId key clock = .ok r) :
    k.Replayable execution.executionId (.executionCreated execution) r := by
  simp only [createExecution, ActivationService.requireActive, Checked.check_bind_eq_ok_iff,
    Checked.orRaise_bind_eq_ok_iff, Checked.pure_eq_ok_iff] at h
  obtain ⟨hactive, -, hstate, -, work, hwork, hnode, hfresh, rfl⟩ := h
  rw [OrderedDict.contains_eq_false_iff] at hfresh
  exact replayable_recording
    (fun _ hstream _ _ => ⟨⟨hstream, hactive, hstate,
      (OrderedDict.contains_eq_false_iff _ _).mpr hfresh, work, hwork, hnode⟩, rfl⟩)
    fun _ _ => rfl

theorem replayable_setExecutionState {executionId actorType actorId key : String}
    {state : ExecutionState} {pauseReason : Option String}
    (h : k.setExecutionState executionId state actorType actorId key pauseReason clock = .ok r) :
    k.Replayable executionId (.executionStateChanged state pauseReason) r := by
  simp only [setExecutionState, Checked.orRaise_bind_eq_ok_iff, Checked.check_bind_eq_ok_iff,
    Checked.pure_eq_ok_iff] at h
  obtain ⟨execution, hexecution, hallowed, -, rfl⟩ := h
  refine replayable_recording (fun event hstream _ _ => ?_) fun _ _ => rfl
  subst hstream
  exact ⟨⟨execution, hexecution, hallowed⟩, by simp only [onKernel, hexecution]; rfl⟩

/-- The assignment found for an execution is filed under its own identifier. -/
theorem assignmentIdFor_eq_some (hk : k.Consistent) {executionId assignmentId : String}
    (h : k.assignmentIdFor executionId = some assignmentId) :
    ∃ assignment ∈ k.agentNameAssignments.get? assignmentId,
      assignment.executionId = executionId := by
  obtain ⟨assignment, hfind, rfl⟩ := Option.map_eq_some_iff.mp h
  obtain ⟨id, hid⟩ := (OrderedDict.mem_values_iff _ _).mp (List.mem_of_find?_eq_some hfind)
  have hexecution := List.find?_some hfind
  refine ⟨assignment, ?_, of_decide_eq_true hexecution⟩
  rw [hk.assignment_keyed id assignment hid]
  exact hid

/-- A receipt ends an execution or holds it for reconciliation. -/
private theorem receiptOutcome_eq_ok {receipt : PilotReceipt} {state : ExecutionState}
    {pauseReason : Option String} (h : receiptOutcome receipt = .ok (state, pauseReason)) :
    state = .succeeded ∨ state = .failed ∨
      state = .paused ∧ pauseReason = some "pilot_receipt_reconciliation_required" := by
  unfold receiptOutcome at h
  split_ifs at h
  · rw [Checked.check_bind_eq_ok_iff, Checked.pure_eq_ok_iff] at h
    exact Or.inl (Prod.mk.inj h.2).1.symm
  · rw [Checked.check_bind_eq_ok_iff, Checked.pure_eq_ok_iff] at h
    exact Or.inr (Or.inl (Prod.mk.inj h.2).1.symm)
  · rw [Checked.check_bind_eq_ok_iff, Checked.pure_eq_ok_iff] at h
    obtain ⟨rfl, rfl⟩ := Prod.mk.inj h.2
    exact Or.inr (Or.inr ⟨rfl, rfl⟩)

theorem replayable_recordPilotExecutionReceipt (hk : k.Consistent) {executionId : String}
    {receipt : PilotReceipt} {actorId key : String}
    (h : k.recordPilotExecutionReceipt executionId receipt actorId key clock = .ok r) :
    ∃ recorded, k.Replayable executionId (.pilotExecutionReceiptRecorded recorded) r := by
  simp only [recordPilotExecutionReceipt, Checked.orRaise_bind_eq_ok_iff,
    Checked.check_bind_eq_ok_iff] at h
  obtain ⟨execution, hexecution, hrequested, h⟩ := h
  obtain ⟨⟨nextState, pauseReason⟩, houtcome, h⟩ := Checked.bind_eq_ok_iff.mp h
  obtain rfl := Checked.pure_eq_ok_iff.mp h
  refine ⟨_, replayable_recording (fun event hstream _ _ => ?_) fun _ _ => rfl⟩
  subst hstream
  refine ⟨⟨rfl, execution, hexecution, hrequested, rfl, rfl, receiptOutcome_eq_ok houtcome⟩, ?_⟩
  rw [onKernel, onPilotExecutionReceiptRecorded, hexecution, Checked.orRaise_some_bind,
    Checked.check_bind_of rfl, Checked.check_bind_of rfl, Checked.check_bind_of,
    Checked.check_bind_of rfl]
  · rfl
  · exact fun _ hid => assignmentIdFor_eq_some hk hid

theorem replayable_pilotHostDisconnected {pilotHostId key : String}
    (h : pilotHostDisconnected pilotHostId key clock = .ok r) :
    k.Replayable pilotHostId (.pilotHostDisconnected pilotHostId) r := by
  obtain rfl := Checked.pure_eq_ok_iff.mp h
  exact replayable_recording (fun _ hstream _ _ => ⟨hstream, rfl⟩) fun _ _ => rfl

/-! ### Notifications, names and identities -/

theorem replayable_recordAgentNotification {notification : AgentNotification}
    {actorId key : String}
    (h : k.recordAgentNotification notification actorId key clock = .ok r) :
    k.Replayable notification.notificationId (.agentNotificationDelivered notification) r := by
  rw [recordAgentNotification, Checked.check_bind_eq_ok_iff] at h
  obtain ⟨-, h⟩ := h
  obtain ⟨_, hidentity, h⟩ := Checked.bind_eq_ok_iff.mp h
  rw [Checked.check_bind_eq_ok_iff] at h
  obtain ⟨hfresh, h⟩ := h
  obtain rfl := Checked.pure_eq_ok_iff.mp h
  refine replayable_recording
    (fun _ hstream _ _ => ⟨⟨hstream, hidentity, hfresh⟩, ?_⟩) fun _ _ => rfl
  have hnone := (OrderedDict.contains_eq_false_iff _ _).mp hfresh
  simp only [onKernel, hidentity, hnone]
  rfl

/-- The second write of a promotion, in the state its first write left behind. -/
theorem replayable_promotionRecording {notificationId : String}
    {notification : AgentNotification} {workItemId actorId key : String}
    (hk : k.Consistent) (hknown : k.agentNotifications.get? notificationId = some notification)
    (hwork : k.workItems.contains workItemId = true)
    (hrequires : notification.requiresWorkItem = true)
    (hunpromoted : notification.promotedWorkItemId = none) :
    k.Replayable notification.notificationId
      (.agentNotificationPromoted notificationId workItemId)
      (promotionRecording notificationId notification workItemId actorId key clock) := by
  have hid := hk.notification_keyed _ _ hknown
  refine replayable_recording (fun event hstream _ _ => ?_) fun _ _ => rfl
  rw [hid] at hstream
  subst hstream
  refine ⟨⟨hwork, notification, hknown, hrequires, hunpromoted⟩, ?_⟩
  simp only [onKernel, onAgentNotificationPromoted, hknown, Checked.orRaise_some_bind]
  rw [Checked.check_bind_of hwork, Checked.check_bind_of hrequires, Checked.check_bind_of]
  · rfl
  · rw [hunpromoted]
    exact fun _ h => by cases h

theorem replayable_recordAgentNameAssignment {assignment : AgentNameAssignment}
    {namingRegistry : AgentNameRegistry} {actorId key : String}
    (h : k.recordAgentNameAssignment assignment namingRegistry actorId key clock = .ok r) :
    k.Replayable assignment.assignmentId (.agentNameAssigned assignment) r := by
  obtain ⟨issued, -, h⟩ := Checked.bind_eq_ok_iff.mp h
  simp only [Checked.orRaise_bind_eq_ok_iff, Checked.check_bind_eq_ok_iff,
    Checked.pure_eq_ok_iff] at h
  obtain ⟨-, -, hfresh, hname, execution, hexecution, hwork, -, -, hunnamed, rfl⟩ := h
  refine replayable_recording
    (fun event hstream _ _ => ⟨⟨hstream, hfresh, hname, execution, hexecution, hwork,
      hunnamed⟩, ?_⟩) fun _ _ => rfl
  have hnone := (OrderedDict.contains_eq_false_iff _ _).mp hfresh
  simp only [onKernel, onAgentNameAssigned, hexecution, Checked.orRaise_some_bind]
  rw [Checked.check_bind_of, Checked.check_bind_of, Checked.check_bind_of hunnamed,
    Checked.check_bind_of hwork]
  · rfl
  · exact fun known hknown heq => absurd heq (hname known hknown)
  · rw [hnone]
    exact fun _ h => by cases h

theorem replayable_registerAgentIdentity {registration : AgentIdentityRegistration}
    {namingRegistry : AgentNameRegistry} {actorId key : String}
    (h : k.registerAgentIdentity registration namingRegistry actorId key clock = .ok r) :
    k.Replayable registration.registrationId (.agentIdentityRegistered registration) r := by
  obtain ⟨issued, -, h⟩ := Checked.bind_eq_ok_iff.mp h
  simp only [Checked.check_bind_eq_ok_iff, Checked.pure_eq_ok_iff] at h
  obtain ⟨-, -, hfresh, hname, hnode, rfl⟩ := h
  refine replayable_recording
    (fun event hstream _ _ => ⟨⟨hstream, hfresh, hname, hnode⟩, ?_⟩) fun _ _ => rfl
  have hnone := (OrderedDict.contains_eq_false_iff _ _).mp hfresh
  simp only [onKernel, onAgentIdentityRegistered]
  rw [Checked.check_bind_of, Checked.check_bind_of, Checked.check_bind_of hnode]
  · rfl
  · rintro (⟨known, hknown, hsame, -⟩ | htaken)
    · have hregistered : k.agentNameIsRegistered registration.agentName = true := by
        rw [agentNameIsRegistered, Bool.or_eq_true]
        exact Or.inr (List.any_eq_true.mpr ⟨known, hknown, decide_eq_true hsame⟩)
      rw [hname] at hregistered
      cases hregistered
    · rw [hname] at htaken
      cases htaken
  · rw [hnone]
    exact fun _ h => by cases h

/-! ### Effects -/

/-- The handler of an effect event that moves a lease to another state. -/
private theorem effectState_of_get? {leaseId : String} {lease : EffectLease}
    (hlease : k.effectLeases.get? leaseId = some lease) (state : EffectLeaseState) :
    effectState leaseId state k =
      .ok { k with effectLeases := k.effectLeases.set leaseId { lease with state := state } } := by
  rw [effectState, hlease]
  rfl

theorem replayable_planEffect {lease : EffectLease} {actorId key : String}
    (h : k.planEffect lease actorId key clock = .ok r) :
    k.Replayable lease.leaseId (.effectPlanned lease) r := by
  simp only [planEffect, ActivationService.requireActive, Checked.check_bind_eq_ok_iff,
    Checked.orRaise_bind_eq_ok_iff, Checked.pure_eq_ok_iff] at h
  obtain ⟨hactive, -, hplanned, -, execution, -, -, hunique, rfl⟩ := h
  exact replayable_recording
    (fun _ hstream _ _ => ⟨⟨hstream, hactive, hplanned, hunique⟩, rfl⟩) fun _ _ => rfl

theorem replayable_approveEffect {leaseId actorId key : String}
    (h : k.approveEffect leaseId actorId key clock = .ok r) :
    ∃ approvedAt, k.Replayable leaseId (.effectApproved ⟨leaseId, actorId, approvedAt⟩) r := by
  simp only [approveEffect, ActivationService.requireActive, Checked.check_bind_eq_ok_iff,
    Checked.orRaise_bind_eq_ok_iff] at h
  obtain ⟨hactive, lease, hlease, hplanned, hfresh, h⟩ := h
  split at h
  · cases h
  · obtain rfl := Checked.pure_eq_ok_iff.mp h
    exact ⟨clock 0, replayable_recording
      (fun _ hstream _ _ => ⟨⟨hstream, hactive, hfresh, lease, hlease, hplanned⟩, rfl⟩)
      fun _ _ => rfl⟩

theorem replayable_activateEffect {leaseId actorId key : String}
    (h : k.activateEffect leaseId actorId key clock = .ok r) :
    k.Replayable leaseId (.effectActivated .active) r := by
  simp only [activateEffect, ActivationService.requireActive, Checked.check_bind_eq_ok_iff,
    Checked.orRaise_bind_eq_ok_iff, Checked.pure_eq_ok_iff] at h
  obtain ⟨hactive, lease, hlease, hplanned, -, happroved, rfl⟩ := h
  refine replayable_recording (fun event hstream _ _ => ?_) fun _ _ => rfl
  subst hstream
  exact ⟨⟨rfl, hactive, happroved, lease, hlease, hplanned⟩, effectState_of_get? hlease .active⟩

theorem replayable_markEffectUnknown {leaseId actorId key : String}
    (h : k.markEffectUnknown leaseId actorId key clock = .ok r) :
    ∃ effectKey, k.Replayable leaseId (.effectResultUnknown .unknown effectKey) r := by
  simp only [markEffectUnknown, Checked.check_bind_eq_ok_iff, Checked.orRaise_bind_eq_ok_iff,
    Checked.pure_eq_ok_iff] at h
  obtain ⟨lease, hlease, hactive, rfl⟩ := h
  refine ⟨_, replayable_recording (fun event hstream _ _ => ?_) fun _ _ => rfl⟩
  subst hstream
  exact ⟨⟨rfl, lease, hlease, hactive⟩, effectState_of_get? hlease .unknown⟩

theorem replayable_reconcileEffect {leaseId actorId key : String} {result : EffectLeaseState}
    (h : k.reconcileEffect leaseId result actorId key clock = .ok r) :
    ∃ effectKey, k.Replayable leaseId (.effectReconciled result effectKey) r := by
  simp only [reconcileEffect, Checked.check_bind_eq_ok_iff, Checked.orRaise_bind_eq_ok_iff,
    Checked.pure_eq_ok_iff] at h
  obtain ⟨lease, hlease, hunknown, hresult, rfl⟩ := h
  refine ⟨_, replayable_recording (fun event hstream _ _ => ?_) fun _ _ => rfl⟩
  subst hstream
  exact ⟨⟨hresult, lease, hlease, hunknown⟩, effectState_of_get? hlease result⟩

/-! ### Findings -/

theorem replayable_recordS3StarFinding {finding : S3StarFinding} {actorId key : String}
    (h : k.recordS3StarFinding finding actorId key clock = .ok r) :
    k.Replayable finding.workItemId (.s3StarFindingRecorded finding) r := by
  simp only [recordS3StarFinding, Checked.check_bind_eq_ok_iff, Checked.orRaise_bind_eq_ok_iff,
    Checked.pure_eq_ok_iff] at h
  obtain ⟨work, hwork, hnode, hunaccepted, rfl⟩ := h
  refine replayable_recording (fun event hstream _ _ => ⟨⟨hstream, hunaccepted, hnode,
    (OrderedDict.contains_iff _ _).mpr ⟨work, hwork⟩⟩, ?_⟩) fun _ _ => rfl
  by_cases hsevere : finding.severity = .severe
  · rw [onKernel, if_pos hsevere, if_pos hsevere, hwork]
    rfl
  · rw [onKernel, if_neg hsevere, if_neg hsevere]

/-- The work item of a known finding is known, so the assignments after the event of a risk
acceptance do not raise. -/
theorem replayable_acceptS3StarRisk (hk : k.Consistent)
    {findingId s5NodeId actorId rationale key : String}
    (h : k.acceptS3StarRisk findingId s5NodeId actorId rationale key clock = .ok r) :
    ∃ streamId, k.Replayable streamId (.s3StarRiskAccepted findingId s5NodeId rationale) r := by
  simp only [acceptS3StarRisk, Checked.check_bind_eq_ok_iff, Checked.orRaise_bind_eq_ok_iff,
    Checked.pure_eq_ok_iff] at h
  obtain ⟨finding, hfinding, hnode, rfl⟩ := h
  obtain ⟨work, hwork⟩ := (OrderedDict.contains_iff _ _).mp (hk.finding_target _ _ hfinding)
  have hid : work.workItemId = finding.workItemId := hk.work_keyed _ _ hwork
  have hentry : entry (some work) finding.workItemId = .ok work := rfl
  refine ⟨_, rfl, rfl, fun event result hdescribes hversion => ?_⟩
  have hstream : event.streamId = finding.workItemId := hdescribes.stream
  refine ⟨⟨finding, hfinding, hstream, hnode⟩, ?_⟩
  simp only [EStateM.run_bind_eq, EStateM.run_modify_eq, EStateM.run_get_eq,
    EventWriter.advance, applyKernel, onKernel, hfinding, hstream, hwork, hentry,
    EStateM.run_ofExcept_ok, Checked.orRaise_some_bind]
  rw [hid, hversion]
  refine ⟨_, rfl, ?_⟩
  change Except.ok (kernelVersion event _) = _
  rw [kernelVersion, hstream]

/-! ### Route snapshots -/

theorem replayable_registerRouteSnapshot {snapshot : RouteSnapshot} {actorId key : String}
    (h : k.registerRouteSnapshot snapshot actorId key clock = .ok r) :
    k.Replayable snapshot.snapshotId (.routeSnapshotRegistered snapshot) r := by
  simp only [registerRouteSnapshot, Checked.check_bind_eq_ok_iff, Checked.pure_eq_ok_iff] at h
  obtain ⟨-, hdraft, rfl⟩ := h
  exact replayable_recording (fun _ hstream _ _ => ⟨⟨hstream, hdraft⟩, rfl⟩) fun _ _ => rfl

theorem replayable_approveRouteSnapshot {snapshotId approval actorId key : String}
    (h : k.approveRouteSnapshot snapshotId approval actorId key clock = .ok r) :
    ∃ state, k.Replayable snapshotId (.routeSnapshotApproved approval state) r := by
  rw [approveRouteSnapshot, Checked.orRaise_bind_eq_ok_iff] at h
  obtain ⟨snapshot, hsnapshot, h⟩ := h
  obtain ⟨nextState, hnext, h⟩ := Checked.bind_eq_ok_iff.mp h
  obtain rfl := Checked.pure_eq_ok_iff.mp h
  refine ⟨_, replayable_recording (fun event hstream _ _ => ?_) fun _ _ => rfl⟩
  subst hstream
  exact ⟨⟨snapshot, hsnapshot, hnext⟩, by simp only [onKernel, hsnapshot]; rfl⟩

theorem replayable_publishRouteSnapshot {snapshotId actorId key : String}
    (h : k.publishRouteSnapshot snapshotId actorId key clock = .ok r) :
    k.Replayable snapshotId (.routeSnapshotPublished .published) r := by
  simp only [publishRouteSnapshot, Checked.check_bind_eq_ok_iff, Checked.orRaise_bind_eq_ok_iff,
    Checked.pure_eq_ok_iff] at h
  obtain ⟨snapshot, hsnapshot, happroved, hunique, rfl⟩ := h
  refine replayable_recording (fun event hstream _ _ => ?_) fun _ _ => rfl
  subst hstream
  exact ⟨⟨snapshot, hsnapshot, happroved, hunique⟩, by simp only [onKernel, hsnapshot]; rfl⟩

/-- The projection's checks on a replacement are those of the command. -/
private theorem validateProjectedReplacement_of {snapshot : RouteSnapshot}
    {reason : RouteSnapshotRetirementReason} {replacement : Option String}
    (h : k.validateRetirement snapshot reason replacement = .ok ()) :
    validateProjectedReplacement k snapshot reason replacement = .ok () := by
  cases reason with
  | routeDecommissioned => exact Checked.check_eq_ok_iff.mpr (Checked.check_eq_ok_iff.mp h)
  | supersededByApprovedSnapshot =>
    cases replacement with
    | none => exact nomatch h
    | some replacementSnapshotId =>
      simp only [validateRetirement, validateRouteSnapshotReplacement,
        Checked.check_bind_eq_ok_iff, Checked.orRaise_bind_eq_ok_iff,
        Checked.check_eq_ok_iff] at h
      simp only [validateProjectedReplacement, Checked.check_bind_eq_ok_iff,
        Checked.orRaise_bind_eq_ok_iff, Checked.check_eq_ok_iff]
      exact h

theorem replayable_retireRouteSnapshot {snapshotId actorId key : String}
    {reasonCode : Option RouteSnapshotRetirementReason} {replacement : Option String}
    (h : k.retireRouteSnapshot snapshotId reasonCode replacement actorId key clock = .ok r) :
    ∃ reason, reasonCode = some reason ∧
      k.Replayable snapshotId (.routeSnapshotRetired reason replacement .retired) r := by
  simp only [retireRouteSnapshot, Checked.check_bind_eq_ok_iff,
    Checked.orRaise_bind_eq_ok_iff] at h
  obtain ⟨reason, hreason, snapshot, hsnapshot, hpublished, h⟩ := h
  obtain ⟨_, hretire, h⟩ := Checked.bind_eq_ok_iff.mp h
  obtain rfl := Checked.pure_eq_ok_iff.mp h
  refine ⟨reason, hreason,
    replayable_recording (fun event hstream htype hactor => ?_) fun _ _ => rfl⟩
  subst hstream
  have hhuman : event.actorType = .human := (Option.some.inj htype).symm
  have hactor_known : event.actorId ≠ none := by
    rw [hactor]
    exact Option.some_ne_none actorId
  refine ⟨⟨rfl, hhuman, hactor_known, snapshot, hsnapshot, hpublished, hretire⟩, ?_⟩
  rw [onKernel, onRouteSnapshotRetired, Checked.check_bind_of ⟨hhuman, hactor_known⟩,
    Checked.check_bind_of rfl, hsnapshot, Checked.orRaise_some_bind,
    Checked.check_bind_of hpublished, validateProjectedReplacement_of hretire]
  rfl

end Kernel

end Nanihold
