import Nanihold.Replay.Kernel

/-!
# What a Kernel event changes

The handlers of Kernel events, read one collection at a time: for each collection, the events
that write it and what they write. Every other event leaves it alone.

## Main definitions

* `Kernel.workItemsAfter`, `Kernel.effectLeasesAfter`, … — a collection after an event.
* `Kernel.Changes` — all collections after an event.

## Main results

* `Kernel.changes_of_applyKernel` — the handlers do just that.
* `Kernel.consistent_of_applyKernel` — a permitted event keeps the collections consistent.
-/

namespace Nanihold

namespace Kernel

variable {k next : Kernel} {event : EventEnvelope} {payload : KernelPayload}

/-! ### The collections after an event -/

/-- The nodes after an event. -/
def nodesAfter (k : Kernel) : KernelPayload → OrderedDict String UVSMNode
  | .nodeRegistered node => k.nodes.set node.nodeId node
  | .currentWorkGraphImported snapshot =>
    k.nodes.update (snapshot.nodes.map fun node => (node.nodeId, node))
  | _ => k.nodes

/-- The work edges after an event. -/
def workEdgesAfter (k : Kernel) : KernelPayload → List WorkEdge
  | .workItemCreated work => k.workEdges ++ decompositionEdges work
  | .workDependencyAdded edge => k.workEdges ++ [edge]
  | .currentWorkGraphImported snapshot => k.workEdges ++ snapshot.edges
  | _ => k.workEdges

/-- The route snapshots after an event. -/
def routeSnapshotsAfter (k : Kernel) (event : EventEnvelope) :
    KernelPayload → OrderedDict String RouteSnapshot
  | .routeSnapshotRegistered snapshot => k.routeSnapshots.set snapshot.snapshotId snapshot
  | .routeSnapshotApproved approval state =>
    k.routeSnapshots.modify event.streamId fun snapshot =>
      approvedSnapshot snapshot approval state event.eventId
  | .routeSnapshotPublished _ =>
    k.routeSnapshots.modify event.streamId fun snapshot => { snapshot with state := .published }
  | .routeSnapshotRetired _ _ _ =>
    k.routeSnapshots.modify event.streamId fun snapshot => { snapshot with state := .retired }
  | _ => k.routeSnapshots

/-- The work items after an event. -/
def workItemsAfter (k : Kernel) (event : EventEnvelope) :
    KernelPayload → OrderedDict String WorkItem
  | .workItemCreated work => k.workItems.set work.workItemId work
  | .currentWorkGraphImported snapshot =>
    k.workItems.update (snapshot.workItems.map fun work => (work.workItemId, work))
  | .workItemDelegated delegatedToNodeId =>
    k.workItems.modify event.streamId fun work =>
      { work with delegatedToNodeId := delegatedToNodeId, state := .ready }
  | .workItemResumePrepared _ =>
    k.workItems.modify event.streamId fun work => { work with state := .ready }
  | .humanIntervention _ =>
    k.workItems.modify event.streamId fun work => { work with state := .paused }
  | .s3StarFindingRecorded finding =>
    if finding.severity = .severe then
      k.workItems.modify finding.workItemId (blockedBy finding.findingId)
    else k.workItems
  | .s3StarRiskAccepted findingId _ _ =>
    k.workItems.modify event.streamId (unblockedFrom findingId)
  | .workItemCompleted evidence =>
    k.workItems.modify event.streamId fun work =>
      { work with state := .completed, completionEvidence := some evidence }
  | _ => k.workItems

/-- The findings after an event. -/
def findingsAfter (k : Kernel) : KernelPayload → OrderedDict String S3StarFinding
  | .s3StarFindingRecorded finding => k.findings.set finding.findingId finding
  | .s3StarRiskAccepted findingId _ _ =>
    k.findings.modify findingId fun finding => { finding with acceptedByS5 := true }
  | _ => k.findings

/-- The executions after an event. -/
def executionsAfter (k : Kernel) (event : EventEnvelope) :
    KernelPayload → OrderedDict String Execution
  | .executionCreated execution => k.executions.set execution.executionId execution
  | .agentNameAssigned assignment =>
    k.executions.modify assignment.executionId fun execution =>
      { execution with agentName := some assignment.agentName }
  | .executionStateChanged state pauseReason =>
    k.executions.modify event.streamId fun execution =>
      { execution with state := state, pauseReason := pauseReason }
  | .pilotExecutionReceiptRecorded receipt =>
    k.executions.modify event.streamId fun execution =>
      { execution with
        state := receipt.state
        providerSessionId := receipt.providerSessionId
        pauseReason := receipt.pauseReason }
  | .humanIntervention _ => k.executions.mapValues fun _ => intervened event.streamId
  | .pilotHostDisconnected pilotHostId => k.executions.mapValues fun _ => disconnected pilotHostId
  | _ => k.executions

/-- The capability grants after an event. -/
def capabilityGrantsAfter (k : Kernel) : KernelPayload → OrderedDict String CapabilityGrant
  | .capabilityGranted grant => k.capabilityGrants.set grant.grantId grant
  | _ => k.capabilityGrants

/-- The budget reservations after an event. -/
def budgetReservationsAfter (k : Kernel) : KernelPayload → OrderedDict String BudgetReservation
  | .budgetReserved reservation =>
    k.budgetReservations.set reservation.reservationId reservation
  | _ => k.budgetReservations

/-- The effect leases after an event. -/
def effectLeasesAfter (k : Kernel) (event : EventEnvelope) :
    KernelPayload → OrderedDict String EffectLease
  | .effectPlanned lease => k.effectLeases.set lease.leaseId lease
  | .effectActivated state | .effectResultUnknown state _ | .effectReconciled state _ =>
    k.effectLeases.modify event.streamId fun lease => { lease with state := state }
  | .humanIntervention _ => k.effectLeases.mapValues fun _ => revoked event.streamId
  | _ => k.effectLeases

/-- The effect approvals after an event. -/
def effectApprovalsAfter (k : Kernel) : KernelPayload → OrderedDict String EffectApproval
  | .effectApproved approval => k.effectApprovals.set approval.leaseId approval
  | _ => k.effectApprovals

/-- The notifications after an event. -/
def agentNotificationsAfter (k : Kernel) (event : EventEnvelope) :
    KernelPayload → OrderedDict String AgentNotification
  | .agentNotificationDelivered notification =>
    k.agentNotifications.set notification.notificationId notification
  | .agentNotificationPromoted _ workItemId =>
    k.agentNotifications.modify event.streamId fun notification =>
      { notification with promotedWorkItemId := some workItemId }
  | _ => k.agentNotifications

/-- The agent names after an event. -/
def agentNameAssignmentsAfter (k : Kernel) :
    KernelPayload → OrderedDict String AgentNameAssignment
  | .agentNameAssigned assignment =>
    k.agentNameAssignments.set assignment.assignmentId assignment
  | _ => k.agentNameAssignments

/-- The registered identities after an event. -/
def agentNameRegistrationsAfter (k : Kernel) :
    KernelPayload → OrderedDict String AgentIdentityRegistration
  | .agentIdentityRegistered registration =>
    k.agentNameRegistrations.set registration.registrationId registration
  | _ => k.agentNameRegistrations

/-- The activation aggregate after a Kernel event. -/
def activationAfter (k : Kernel) : KernelPayload → ActivationService
  | .currentWorkGraphImported snapshot =>
    { k.activation with workGraphSnapshotId := some snapshot.snapshotId }
  | _ => k.activation

/-! ### The handlers -/

/-- The Kernel after an event, collection by collection. -/
structure Changes (k : Kernel) (event : EventEnvelope) (payload : KernelPayload)
    (next : Kernel) : Prop where
  data_space : next.dataSpace = k.dataSpace
  owner_bootstrap : next.ownerBootstrap = k.ownerBootstrap
  versions : next.versions = k.versions.set event.streamId event.streamVersion
  activation : next.activation = k.activationAfter payload
  nodes : next.nodes = k.nodesAfter payload
  work_edges : next.workEdges = k.workEdgesAfter payload
  route_snapshots : next.routeSnapshots = k.routeSnapshotsAfter event payload
  work_items : next.workItems = k.workItemsAfter event payload
  executions : next.executions = k.executionsAfter event payload
  capability_grants : next.capabilityGrants = k.capabilityGrantsAfter payload
  budget_reservations : next.budgetReservations = k.budgetReservationsAfter payload
  effect_leases : next.effectLeases = k.effectLeasesAfter event payload
  effect_approvals : next.effectApprovals = k.effectApprovalsAfter payload
  findings : next.findings = k.findingsAfter payload
  agent_notifications : next.agentNotifications = k.agentNotificationsAfter event payload
  agent_name_assignments : next.agentNameAssignments = k.agentNameAssignmentsAfter payload
  agent_name_registrations : next.agentNameRegistrations = k.agentNameRegistrationsAfter payload

/-- What every accepted Kernel event leaves alone. -/
private theorem yields_frame : Checked.Yields (onKernel event k payload) fun mid =>
    mid.dataSpace = k.dataSpace ∧ mid.ownerBootstrap = k.ownerBootstrap ∧
      mid.versions = k.versions ∧ mid.activation = k.activationAfter payload := by
  cases payload <;>
    simp [onKernel, activationAfter, onAgentNameAssigned, onAgentIdentityRegistered,
      onAgentNotificationPromoted, onPilotExecutionReceiptRecorded, effectState,
      onRouteSnapshotRetired]

/-- A Kernel event raises the version of its own stream. -/
theorem versions_of_applyKernel (h : applyKernel event payload k = .ok next) :
    next.versions = k.versions.set event.streamId event.streamVersion := by
  obtain ⟨mid, hmid, hnext⟩ := Checked.bind_eq_ok_iff.mp h
  obtain rfl := Checked.pure_eq_ok_iff.mp hnext
  rw [kernelVersion, (yields_frame.of_ok hmid).2.2.1]

private theorem yields_workItems (hk : k.Consistent) :
    Checked.Yields (onKernel event k payload) fun mid =>
      mid.workItems = k.workItemsAfter event payload := by
  cases payload <;>
    simp +contextual [onKernel, workItemsAfter, onAgentNameAssigned, onAgentIdentityRegistered,
      onAgentNotificationPromoted, onPilotExecutionReceiptRecorded, effectState,
      onRouteSnapshotRetired, OrderedDict.modify]
  -- The handler of a finding files the work item under the identifier it carries.
  intro _ work hwork
  rw [hk.work_keyed _ _ hwork]

private theorem yields_graph : Checked.Yields (onKernel event k payload) fun mid =>
    mid.nodes = k.nodesAfter payload ∧ mid.workEdges = k.workEdgesAfter payload := by
  cases payload <;>
    simp [onKernel, nodesAfter, workEdgesAfter, onAgentNameAssigned, onAgentIdentityRegistered,
      onAgentNotificationPromoted, onPilotExecutionReceiptRecorded, effectState,
      onRouteSnapshotRetired]

private theorem yields_routeSnapshots : Checked.Yields (onKernel event k payload) fun mid =>
    mid.routeSnapshots = k.routeSnapshotsAfter event payload := by
  cases payload <;>
    simp +contextual [onKernel, routeSnapshotsAfter, onAgentNameAssigned,
      onAgentIdentityRegistered, onAgentNotificationPromoted, onPilotExecutionReceiptRecorded,
      effectState, onRouteSnapshotRetired, OrderedDict.modify]

private theorem yields_executions : Checked.Yields (onKernel event k payload) fun mid =>
    mid.executions = k.executionsAfter event payload := by
  cases payload <;>
    simp +contextual [onKernel, executionsAfter, onAgentNameAssigned, onAgentIdentityRegistered,
      onAgentNotificationPromoted, onPilotExecutionReceiptRecorded, effectState,
      onRouteSnapshotRetired, OrderedDict.modify]

private theorem yields_grants : Checked.Yields (onKernel event k payload) fun mid =>
    mid.capabilityGrants = k.capabilityGrantsAfter payload ∧
      mid.budgetReservations = k.budgetReservationsAfter payload := by
  cases payload <;>
    simp [onKernel, capabilityGrantsAfter, budgetReservationsAfter, onAgentNameAssigned,
      onAgentIdentityRegistered, onAgentNotificationPromoted, onPilotExecutionReceiptRecorded,
      effectState, onRouteSnapshotRetired]

private theorem yields_effects : Checked.Yields (onKernel event k payload) fun mid =>
    mid.effectLeases = k.effectLeasesAfter event payload ∧
      mid.effectApprovals = k.effectApprovalsAfter payload := by
  cases payload <;>
    simp +contextual [onKernel, effectLeasesAfter, effectApprovalsAfter, onAgentNameAssigned,
      onAgentIdentityRegistered, onAgentNotificationPromoted, onPilotExecutionReceiptRecorded,
      effectState, onRouteSnapshotRetired, OrderedDict.modify]

private theorem yields_agents : Checked.Yields (onKernel event k payload) fun mid =>
    mid.agentNotifications = k.agentNotificationsAfter event payload ∧
      mid.agentNameAssignments = k.agentNameAssignmentsAfter payload ∧
      mid.agentNameRegistrations = k.agentNameRegistrationsAfter payload ∧
      mid.findings = k.findingsAfter payload := by
  cases payload <;>
    simp +contextual [onKernel, agentNotificationsAfter, agentNameAssignmentsAfter,
      agentNameRegistrationsAfter, findingsAfter, onAgentNameAssigned, onAgentIdentityRegistered,
      onAgentNotificationPromoted, onPilotExecutionReceiptRecorded, effectState,
      onRouteSnapshotRetired, OrderedDict.modify]

/-- What an accepted event makes of the notifications, whatever was accepted before it. -/
theorem agentNotifications_of_applyKernel (h : applyKernel event payload k = .ok next) :
    next.agentNotifications = k.agentNotificationsAfter event payload := by
  obtain ⟨mid, hmid, hnext⟩ := Checked.bind_eq_ok_iff.mp h
  obtain rfl := Checked.pure_eq_ok_iff.mp hnext
  exact (yields_agents.of_ok hmid).1

private theorem yields_knownWork {id : String} (hid : k.workItems.contains id = true) :
    Checked.Yields (onKernel event k payload) fun mid => mid.workItems.contains id = true := by
  cases payload <;>
    simp +contextual [onKernel, onAgentNameAssigned, onAgentIdentityRegistered,
      onAgentNotificationPromoted, onPilotExecutionReceiptRecorded, effectState,
      onRouteSnapshotRetired, OrderedDict.contains_set, OrderedDict.contains_update, hid]

/-- An accepted event loses no work item, whatever was accepted before it. -/
theorem workItems_of_applyKernel {id : String} (h : applyKernel event payload k = .ok next)
    (hid : k.workItems.contains id = true) : next.workItems.contains id = true := by
  obtain ⟨mid, hmid, hnext⟩ := Checked.bind_eq_ok_iff.mp h
  obtain rfl := Checked.pure_eq_ok_iff.mp hnext
  have hknown := (yields_knownWork hid).of_ok hmid
  exact hknown

/-- **What an accepted event changes.** -/
theorem changes_of_applyKernel (hk : k.Consistent)
    (h : applyKernel event payload k = .ok next) : k.Changes event payload next := by
  obtain ⟨mid, hmid, hnext⟩ := Checked.bind_eq_ok_iff.mp h
  obtain rfl := Checked.pure_eq_ok_iff.mp hnext
  obtain ⟨hspace, howner, hversions, hactivation⟩ := yields_frame.of_ok hmid
  obtain ⟨hgrants, hbudgets⟩ := yields_grants.of_ok hmid
  obtain ⟨hleases, happrovals⟩ := yields_effects.of_ok hmid
  obtain ⟨hnotifications, hassignments, hregistrations, hfindings⟩ := yields_agents.of_ok hmid
  obtain ⟨hnodes, hedges⟩ := yields_graph.of_ok hmid
  have hroutes := yields_routeSnapshots.of_ok hmid
  have hwork := (yields_workItems hk).of_ok hmid
  have hexecutions := yields_executions.of_ok hmid
  exact
    { data_space := hspace
      owner_bootstrap := howner
      versions := by rw [kernelVersion, hversions]
      activation := hactivation
      nodes := hnodes
      work_edges := hedges
      route_snapshots := hroutes
      work_items := hwork
      executions := hexecutions
      capability_grants := hgrants
      budget_reservations := hbudgets
      effect_leases := hleases
      effect_approvals := happrovals
      findings := hfindings
      agent_notifications := hnotifications
      agent_name_assignments := hassignments
      agent_name_registrations := hregistrations }

/-! ### Consistency -/

/-- A property of the value under each key, kept by rewriting one value. -/
private theorem keyed_modify {ν : Type} {d : OrderedDict String ν} {id : ν → String}
    (hd : ∀ key v, d.get? key = some v → id v = key) {key x : String} {f : ν → ν} {v : ν}
    (h : (d.modify key f).get? x = some v) (hf : ∀ v, id (f v) = id v) : id v = x := by
  rw [OrderedDict.get?_modify] at h
  split at h
  · obtain ⟨w, hw, rfl⟩ := Option.map_eq_some_iff.mp h
    rw [hf]
    exact hd x w hw
  · exact hd x v h

/-- A record filed under its own identifier keeps the dictionary keyed. -/
private theorem keyed_set {ν : Type} {d : OrderedDict String ν} {id : ν → String}
    (hd : ∀ key v, d.get? key = some v → id v = key) (w : ν) (x : String) (v : ν)
    (h : (d.set (id w) w).get? x = some v) : id v = x := by
  rw [OrderedDict.get?_set] at h
  split at h
  · next hx => rw [← Option.some.inj h, hx]
  · exact hd x v h

private theorem work_keyed_after (hk : k.Consistent) (x : String) (v : WorkItem)
    (h : (k.workItemsAfter event payload).get? x = some v) : v.workItemId = x := by
  have hmodify {key : String} {f : WorkItem → WorkItem}
      (h : (k.workItems.modify key f).get? x = some v)
      (hf : ∀ work, (f work).workItemId = work.workItemId) : v.workItemId = x :=
    keyed_modify hk.work_keyed h hf
  cases payload <;> simp only [workItemsAfter] at h
  case workItemCreated work => exact keyed_set hk.work_keyed work x v h
  case currentWorkGraphImported snapshot =>
    rcases OrderedDict.get?_update x v _ _ h with hold | hnew
    · exact hk.work_keyed x v hold
    · obtain ⟨work, -, heq⟩ := List.mem_map.mp hnew
      rw [← (Prod.mk.inj heq).2, (Prod.mk.inj heq).1]
  case s3StarFindingRecorded finding =>
    split at h
    · exact hmodify h fun _ => rfl
    · exact hk.work_keyed x v h
  case workItemDelegated => exact hmodify h fun _ => rfl
  case workItemResumePrepared => exact hmodify h fun _ => rfl
  case humanIntervention => exact hmodify h fun _ => rfl
  case s3StarRiskAccepted => exact hmodify h fun _ => rfl
  case workItemCompleted => exact hmodify h fun _ => rfl
  all_goals exact hk.work_keyed x v h

/-- A known work item stays known. -/
theorem contains_workItemsAfter {id : String} (h : k.workItems.contains id = true) :
    (k.workItemsAfter event payload).contains id = true := by
  cases payload <;> simp only [workItemsAfter, OrderedDict.contains_modify]
  case workItemCreated work => simp [OrderedDict.contains_set, h]
  case currentWorkGraphImported => exact (OrderedDict.contains_update id _ _).mpr (Or.inl h)
  case s3StarFindingRecorded => split <;> simp [h]
  all_goals exact h

private theorem finding_target_after (hk : k.Consistent) (hpermits : k.Permits event payload)
    (id : String) (finding : S3StarFinding)
    (h : (k.findingsAfter payload).get? id = some finding) :
    k.workItems.contains finding.workItemId = true := by
  cases payload <;> simp only [findingsAfter] at h
  case s3StarFindingRecorded recorded =>
    rw [OrderedDict.get?_set] at h
    split at h
    · obtain rfl := Option.some.inj h
      exact hpermits.2.2.2
    · exact hk.finding_target id finding h
  case s3StarRiskAccepted =>
    rw [OrderedDict.get?_modify] at h
    split at h
    · obtain ⟨known, hknown, rfl⟩ := Option.map_eq_some_iff.mp h
      exact hk.finding_target id known hknown
    · exact hk.finding_target id finding h
  all_goals exact hk.finding_target id finding h

/-- **A permitted event keeps the collections consistent.** -/
theorem consistent_of_applyKernel (hk : k.Consistent) (hpermits : k.Permits event payload)
    (h : applyKernel event payload k = .ok next) : next.Consistent := by
  have hchanges := changes_of_applyKernel hk h
  constructor
  · intro id work hwork
    rw [hchanges.work_items] at hwork
    exact work_keyed_after hk id work hwork
  · intro id notification hnotification
    rw [hchanges.agent_notifications] at hnotification
    cases payload <;> simp only [agentNotificationsAfter] at hnotification
    case agentNotificationDelivered =>
      exact keyed_set hk.notification_keyed _ id notification hnotification
    case agentNotificationPromoted =>
      exact keyed_modify hk.notification_keyed hnotification fun _ => rfl
    all_goals exact hk.notification_keyed id notification hnotification
  · intro id assignment hassignment
    rw [hchanges.agent_name_assignments] at hassignment
    cases payload <;> simp only [agentNameAssignmentsAfter] at hassignment
    case agentNameAssigned =>
      exact keyed_set hk.assignment_keyed _ id assignment hassignment
    all_goals exact hk.assignment_keyed id assignment hassignment
  · intro id finding hfinding
    rw [hchanges.findings] at hfinding
    rw [hchanges.work_items]
    exact contains_workItemsAfter (finding_target_after hk hpermits id finding hfinding)

end Kernel

end Nanihold
