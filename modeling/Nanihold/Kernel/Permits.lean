import Nanihold.Kernel.Effects

/-!
# What the Kernel has checked

The checks of a Kernel command, read as a property of the state and of the event it records.
Every invariant of the Kernel is derived from this property and from what the event does to
the state, so no invariant looks into a command again.

## Main definitions

* `Kernel.Permits` — what the Kernel has checked when it records an event.
* `Kernel.Consistent` — the collections agree with one another.
-/

namespace Nanihold

namespace Kernel

/-- What the Kernel has checked when it records an event with this payload. -/
def Permits (k : Kernel) (event : EventEnvelope) : KernelPayload → Prop
  | .nodeRegistered node =>
    event.streamId = node.nodeId ∧ node.dataSpaceId = k.dataSpace.dataSpaceId ∧
      k.nodes.contains node.nodeId = false ∧
      ∀ parentNodeId ∈ node.parentNodeId, k.nodes.contains parentNodeId = true
  | .capabilityGranted grant => event.streamId = grant.grantId ∧ grant.state = .active
  | .workItemCreated work =>
    event.streamId = work.workItemId ∧ (work.state = .proposed ∨ work.state = .ready) ∧
      work.completionEvidence = none ∧ work.blockingS3StarFindingIds = [] ∧
      ∀ parentId ∈ work.parentWorkItemId, ∃ parent, k.workItems.get? parentId = some parent ∧
        parent.integrationOwnerNodeId = work.integrationOwnerNodeId
  | .workDependencyAdded edge =>
    event.streamId = edge.sourceWorkItemId ∧ edge.kind = .dependsOn ∧ edge ∉ k.workEdges ∧
      edge.sourceWorkItemId ≠ edge.targetWorkItemId ∧
      k.workItems.contains edge.sourceWorkItemId = true ∧
      k.workItems.contains edge.targetWorkItemId = true ∧
      k.dependencySearch edge.sourceWorkItemId edge.targetWorkItemId = some false
  | .currentWorkGraphImported snapshot =>
    event.streamId = snapshot.snapshotId ∧ k.activation.workGraphSnapshotId = none ∧
      k.activation.state = .uncommissioned ∧
      (∀ node ∈ snapshot.nodes, ∀ known ∈ k.nodes.get? node.nodeId, known = node) ∧
      (∀ work ∈ snapshot.workItems, k.workItems.contains work.workItemId = false) ∧
      (∀ work ∈ snapshot.workItems, ∀ parentId ∈ work.parentWorkItemId,
        parentId ∈ snapshot.workItems.map (·.workItemId)) ∧
      ∀ edge ∈ snapshot.edges, edge.sourceWorkItemId ∈ snapshot.workItems.map (·.workItemId) ∧
        edge.targetWorkItemId ∈ snapshot.workItems.map (·.workItemId)
  | .workItemDelegated delegatedToNodeId =>
    k.nodes.contains delegatedToNodeId = true ∧
      (∀ execution ∈ k.executions.values, execution.workItemId ≠ event.streamId) ∧
      ∃ work, k.workItems.get? event.streamId = some work ∧
        (work.state = .proposed ∨ work.state = .ready)
  | .workItemResumePrepared state =>
    state = .ready ∧ k.activation.state = .awaitingOwnerConfirmation ∧
      ∃ work, k.workItems.get? event.streamId = some work ∧ work.blockingS3StarFindingIds = []
  | .executionCreated execution =>
    event.streamId = execution.executionId ∧ k.activation.state = .active ∧
      (execution.state = .requested ∨ execution.state = .active) ∧
      k.executions.contains execution.executionId = false ∧
      ∃ work, k.workItems.get? execution.workItemId = some work ∧
        execution.nodeId = work.delegatedToNodeId
  | .agentNotificationDelivered notification =>
    event.streamId = notification.notificationId ∧
      k.validateNotificationIdentity notification = .ok () ∧
      k.agentNotifications.contains notification.notificationId = false
  | .agentNotificationPromoted _ workItemId =>
    k.workItems.contains workItemId = true ∧
      ∃ notification, k.agentNotifications.get? event.streamId = some notification ∧
        notification.requiresWorkItem = true ∧ notification.promotedWorkItemId = none
  | .agentNameAssigned assignment =>
    event.streamId = assignment.assignmentId ∧
      k.agentNameAssignments.contains assignment.assignmentId = false ∧
      (∀ known ∈ k.agentNameAssignments.values, known.agentName ≠ assignment.agentName) ∧
      ∃ execution, k.executions.get? assignment.executionId = some execution ∧
        execution.workItemId = assignment.workItemId ∧ execution.agentName = none
  | .agentIdentityRegistered registration =>
    event.streamId = registration.registrationId ∧
      k.agentNameRegistrations.contains registration.registrationId = false ∧
      k.agentNameIsRegistered registration.agentName = false ∧
      k.nodes.contains registration.nodeId = true
  | .executionStateChanged state _ =>
    ∃ execution, k.executions.get? event.streamId = some execution ∧
      state ∈ execution.state.allowed
  | .pilotExecutionReceiptRecorded receipt =>
    receipt.executionId = event.streamId ∧
      ∃ execution, k.executions.get? event.streamId = some execution ∧
        execution.state = .requested ∧ receipt.workItemId = execution.workItemId ∧
        receipt.agentName = execution.agentName ∧
        (receipt.state = .succeeded ∨ receipt.state = .failed ∨ receipt.state = .paused ∧
          receipt.pauseReason = some "pilot_receipt_reconciliation_required")
  | .budgetReserved reservation =>
    event.streamId = reservation.reservationId ∧
      k.workItems.contains reservation.workItemId = true
  | .effectPlanned lease =>
    event.streamId = lease.leaseId ∧ k.activation.state = .active ∧ lease.state = .planned ∧
      ∀ existing ∈ k.effectLeases.values, existing.idempotencyKey = lease.idempotencyKey →
        existing.leaseId = lease.leaseId
  | .effectApproved approval =>
    event.streamId = approval.leaseId ∧ k.activation.state = .active ∧
      k.effectApprovals.contains approval.leaseId = false ∧
      ∃ lease, k.effectLeases.get? approval.leaseId = some lease ∧ lease.state = .planned
  | .effectActivated state =>
    state = .active ∧ k.activation.state = .active ∧
      k.effectApprovals.contains event.streamId = true ∧
      ∃ lease, k.effectLeases.get? event.streamId = some lease ∧ lease.state = .planned
  | .effectResultUnknown state _ =>
    state = .unknown ∧
      ∃ lease, k.effectLeases.get? event.streamId = some lease ∧ lease.state = .active
  | .effectReconciled state _ =>
    (state = .succeeded ∨ state = .failed) ∧
      ∃ lease, k.effectLeases.get? event.streamId = some lease ∧ lease.state = .unknown
  | .humanIntervention _ => k.workItems.contains event.streamId = true
  | .s3StarFindingRecorded finding =>
    event.streamId = finding.workItemId ∧ finding.acceptedByS5 = false ∧
      k.nodes.contains finding.nodeId = true ∧ k.workItems.contains finding.workItemId = true
  | .s3StarRiskAccepted findingId s5NodeId _ =>
    ∃ finding, k.findings.get? findingId = some finding ∧
      event.streamId = finding.workItemId ∧ s5NodeId = finding.nodeId
  | .workItemCompleted evidence =>
    CompletionGate evidence ∧ k.incompleteDependencies event.streamId = .ok [] ∧
      ∃ work, k.workItems.get? event.streamId = some work ∧ work.blockingS3StarFindingIds = []
  | .pilotHostDisconnected pilotHostId => event.streamId = pilotHostId
  | .referenceGranted grant => event.streamId = grant.grantId ∧ grant.state = .active
  | .routeSnapshotRegistered snapshot =>
    event.streamId = snapshot.snapshotId ∧ snapshot.state = .draft
  | .routeSnapshotApproved approval state =>
    ∃ snapshot, k.routeSnapshots.get? event.streamId = some snapshot ∧
      approvalState snapshot approval = .ok state
  | .routeSnapshotPublished _ =>
    ∃ snapshot, k.routeSnapshots.get? event.streamId = some snapshot ∧
      snapshot.state = .ownerApproved ∧
      ∀ other ∈ k.routeSnapshots.values, other.snapshotId ≠ event.streamId →
        other.routeKey = snapshot.routeKey → other.state ≠ .published
  | .routeSnapshotRetired reason replacementSnapshotId state =>
    state = .retired ∧ event.actorType = .human ∧ event.actorId ≠ none ∧
      ∃ snapshot, k.routeSnapshots.get? event.streamId = some snapshot ∧
        snapshot.state = .published ∧
        k.validateRetirement snapshot reason replacementSnapshotId = .ok ()

/-- The collections agree with one another: records are filed under their own identifiers,
and findings are about existing work items. -/
structure Consistent (k : Kernel) : Prop where
  work_keyed : ∀ id work, k.workItems.get? id = some work → work.workItemId = id
  notification_keyed : ∀ id notification, k.agentNotifications.get? id = some notification →
    notification.notificationId = id
  assignment_keyed : ∀ id assignment, k.agentNameAssignments.get? id = some assignment →
    assignment.assignmentId = id
  finding_target : ∀ id finding, k.findings.get? id = some finding →
    k.workItems.contains finding.workItemId = true

theorem consistent_new (dataSpace : DataSpace) : (Kernel.new dataSpace).Consistent where
  work_keyed _ _ h := nomatch h
  notification_keyed _ _ h := nomatch h
  assignment_keyed _ _ h := nomatch h
  finding_target _ _ h := nomatch h

end Kernel

end Nanihold
