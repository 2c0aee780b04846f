import Nanihold.Commands
import Nanihold.Library.EventSourcing

/-!
# The operational projection

`vsm.projection.OperationalProjection`: it rebuilds the state of fresh services from the
events of the ledger. Every event must continue its stream and have a handler; what a handler
does is written independently of the command that recorded the event.

## Main definitions

* `OperationalProjection` — the services being rebuilt and the cursor reached.
* `applyKernel`, `applyActivation`, `applyOwnerAuth`, `applyInterface`, `applyTokenLab`,
  `applyRouting` — the handlers of each family of events.
* `OperationalProjection.apply`, `OperationalProjection.rebuild` — one event; the whole
  ledger, page by page.

## Main results

* `OperationalProjection.rebuild_eq_replay` — a rebuild reads the ledger once, whatever the
  page size.
-/

namespace Nanihold

/-! ### Kernel events -/

section KernelHandlers

/-- `_on_agent_name_assigned`. -/
def onAgentNameAssigned (assignment : AgentNameAssignment) (k : Kernel) :
    Except VsmError Kernel := do
  require (∀ known ∈ k.agentNameAssignments.get? assignment.assignmentId, known = assignment)
    "agent-name assignment identity collision during projection"
  require (∀ known ∈ k.agentNameAssignments.values, known.agentName = assignment.agentName →
      known.assignmentId = assignment.assignmentId)
    "agent-name assignment name collision during projection"
  let execution ← found (k.executions.get? assignment.executionId)
    "agent-name assignment references an unknown Execution"
  require (execution.agentName = none) "Execution already has an agent name"
  require (execution.workItemId = assignment.workItemId)
    "agent-name assignment WorkItem does not match Execution"
  return { k with
    agentNameAssignments := k.agentNameAssignments.set assignment.assignmentId assignment
    executions := k.executions.set assignment.executionId
      { execution with agentName := some assignment.agentName } }

/-- `_on_agent_identity_registered`. -/
def onAgentIdentityRegistered (registration : AgentIdentityRegistration) (k : Kernel) :
    Except VsmError Kernel := do
  let existing := k.agentNameRegistrations.get? registration.registrationId
  require (∀ known ∈ existing, known = registration)
    "agent identity registration collision during projection"
  require (((∃ known ∈ k.agentNameRegistrations.values,
        known.agentName = registration.agentName ∧
          known.registrationId ≠ registration.registrationId) ∨
      k.agentNameIsRegistered registration.agentName = true) → existing ≠ none)
    "agent identity registration name collision during projection"
  require (k.nodes.contains registration.nodeId = true)
    "agent identity registration references an unknown Node"
  return { k with
    agentNameRegistrations :=
      k.agentNameRegistrations.set registration.registrationId registration }

/-- `_on_agent_notification_promoted`. -/
def onAgentNotificationPromoted (streamId : String) (workItemId : Identifier) (k : Kernel) :
    Except VsmError Kernel := do
  let notification ← found (k.agentNotifications.get? streamId)
    "agent notification promotion references an unknown notification"
  require (k.workItems.contains workItemId = true)
    "agent notification promotion references an unknown WorkItem"
  require (notification.requiresWorkItem = true)
    "agent notification without promotion condition was promoted"
  require (∀ known ∈ notification.promotedWorkItemId, known = workItemId)
    "agent notification promotion identity collision"
  return { k with
    agentNotifications := k.agentNotifications.set streamId
      { notification with promotedWorkItemId := some workItemId } }

/-- `_on_pilot_execution_receipt_recorded`. -/
def onPilotExecutionReceiptRecorded (streamId : String)
    (receipt : PilotExecutionReceiptPayload) (k : Kernel) : Except VsmError Kernel := do
  let execution ← entry (k.executions.get? streamId) streamId
  require (receipt.executionId = streamId)
    "PilotHost receipt Execution does not match its stream"
  require (receipt.workItemId = execution.workItemId)
    "PilotHost receipt WorkItem does not match Execution"
  require (∀ assignmentId ∈ receipt.assignmentId,
      ∃ assignment ∈ k.agentNameAssignments.get? assignmentId, assignment.executionId = streamId)
    "PilotHost receipt assignment does not match Execution"
  require (receipt.agentName = execution.agentName)
    "PilotHost receipt agent name does not match Execution"
  return { k with
    executions := k.executions.set streamId
      { execution with
        state := receipt.state
        providerSessionId := receipt.providerSessionId
        pauseReason := receipt.pauseReason } }

/-- `_effect_state`. -/
def effectState (streamId : String) (state : EffectLeaseState) (k : Kernel) :
    Except VsmError Kernel := do
  let lease ← entry (k.effectLeases.get? streamId) streamId
  return { k with effectLeases := k.effectLeases.set streamId { lease with state := state } }

/-- The checks of `_on_route_snapshot_retired` on the replacement. -/
def validateProjectedReplacement (k : Kernel) (snapshot : RouteSnapshot) :
    RouteSnapshotRetirementReason → Option String → Except VsmError Unit
  | .routeDecommissioned, replacement =>
    require (replacement = none) "decommissioned RouteSnapshot cannot have a replacement"
  | .supersededByApprovedSnapshot, none =>
    throw (.invariantViolation "RouteSnapshot retirement replacement identity is invalid")
  | .supersededByApprovedSnapshot, some replacementSnapshotId => do
    require (replacementSnapshotId ≠ snapshot.snapshotId)
      "RouteSnapshot retirement replacement must differ from source"
    let replacement ← found (k.routeSnapshots.get? replacementSnapshotId)
      "RouteSnapshot retirement replacement does not exist"
    require (replacement.routeKey = snapshot.routeKey)
      "RouteSnapshot retirement replacement route_key mismatch"
    require (replacement.state = .ownerApproved ∨ replacement.state = .published)
      "RouteSnapshot retirement replacement is not approved"

/-- `_on_route_snapshot_retired`. -/
def onRouteSnapshotRetired (event : EventEnvelope) (reasonCode : RouteSnapshotRetirementReason)
    (replacementSnapshotId : Option String) (state : RouteSnapshotState) (k : Kernel) :
    Except VsmError Kernel := do
  require (event.actorType = .human ∧ event.actorId ≠ none)
    "RouteSnapshot retirement must be an explicit human event"
  require (state = .retired) "RouteSnapshot retirement transition is invalid"
  let snapshot ← found (k.routeSnapshots.get? event.streamId)
    "RouteSnapshot retirement requires a published source"
  require (snapshot.state = .published) "RouteSnapshot retirement requires a published source"
  validateProjectedReplacement k snapshot reasonCode replacementSnapshotId
  return { k with
    routeSnapshots := k.routeSnapshots.set event.streamId { snapshot with state := .retired } }

/-- The handlers of Kernel events, without the version bookkeeping. -/
def onKernel (event : EventEnvelope) (k : Kernel) : KernelPayload → Except VsmError Kernel
  | .nodeRegistered node => .ok { k with nodes := k.nodes.set node.nodeId node }
  | .capabilityGranted grant =>
    .ok { k with capabilityGrants := k.capabilityGrants.set grant.grantId grant }
  | .workItemCreated work =>
    .ok { k with
      workItems := k.workItems.set work.workItemId work
      workEdges := k.workEdges ++ decompositionEdges work }
  | .workDependencyAdded edge => .ok { k with workEdges := k.workEdges ++ [edge] }
  | .currentWorkGraphImported snapshot =>
    .ok { k with
      nodes := k.nodes.update (snapshot.nodes.map fun node => (node.nodeId, node))
      workItems := k.workItems.update (snapshot.workItems.map fun work => (work.workItemId, work))
      workEdges := k.workEdges ++ snapshot.edges
      activation := { k.activation with workGraphSnapshotId := some snapshot.snapshotId } }
  | .workItemDelegated delegatedToNodeId => do
    let work ← entry (k.workItems.get? event.streamId) event.streamId
    return { k with
      workItems := k.workItems.set event.streamId
        { work with delegatedToNodeId := delegatedToNodeId, state := .ready } }
  | .workItemResumePrepared _ => do
    let work ← entry (k.workItems.get? event.streamId) event.streamId
    return { k with workItems := k.workItems.set event.streamId { work with state := .ready } }
  | .executionCreated execution =>
    .ok { k with executions := k.executions.set execution.executionId execution }
  | .agentNotificationDelivered notification => do
    k.validateNotificationIdentity notification
    require (∀ known ∈ k.agentNotifications.get? notification.notificationId,
        known = notification)
      "agent notification identity collision during projection"
    return { k with
      agentNotifications := k.agentNotifications.set notification.notificationId notification }
  | .agentNotificationPromoted _ workItemId =>
    onAgentNotificationPromoted event.streamId workItemId k
  | .agentNameAssigned assignment => onAgentNameAssigned assignment k
  | .agentIdentityRegistered registration => onAgentIdentityRegistered registration k
  | .executionStateChanged state pauseReason => do
    let execution ← entry (k.executions.get? event.streamId) event.streamId
    return { k with
      executions := k.executions.set event.streamId
        { execution with state := state, pauseReason := pauseReason } }
  | .pilotExecutionReceiptRecorded receipt =>
    onPilotExecutionReceiptRecorded event.streamId receipt k
  | .budgetReserved reservation =>
    .ok { k with
      budgetReservations := k.budgetReservations.set reservation.reservationId reservation }
  | .effectPlanned lease =>
    .ok { k with effectLeases := k.effectLeases.set lease.leaseId lease }
  | .effectApproved approval =>
    .ok { k with effectApprovals := k.effectApprovals.set approval.leaseId approval }
  | .effectActivated state => effectState event.streamId state k
  | .effectResultUnknown state _ => effectState event.streamId state k
  | .effectReconciled state _ => effectState event.streamId state k
  | .humanIntervention _ => do
    let work ← entry (k.workItems.get? event.streamId) event.streamId
    return { k with
      workItems := k.workItems.set event.streamId { work with state := .paused }
      executions := k.executions.mapValues fun _ => Kernel.intervened event.streamId
      effectLeases := k.effectLeases.mapValues fun _ => Kernel.revoked event.streamId }
  | .s3StarFindingRecorded finding =>
    if finding.severity = .severe then do
      let work ← entry (k.workItems.get? finding.workItemId) finding.workItemId
      return { k with
        findings := k.findings.set finding.findingId finding
        workItems := k.workItems.set work.workItemId
          (Kernel.blockedBy finding.findingId work) }
    else .ok { k with findings := k.findings.set finding.findingId finding }
  | .s3StarRiskAccepted findingId _ _ => do
    let finding ← entry (k.findings.get? findingId) findingId
    let work ← entry (k.workItems.get? event.streamId) event.streamId
    return { k with
      findings := k.findings.set findingId { finding with acceptedByS5 := true }
      workItems := k.workItems.set event.streamId (Kernel.unblockedFrom findingId work) }
  | .workItemCompleted evidence => do
    let work ← entry (k.workItems.get? event.streamId) event.streamId
    return { k with
      workItems := k.workItems.set event.streamId
        { work with state := .completed, completionEvidence := some evidence } }
  | .pilotHostDisconnected pilotHostId =>
    .ok { k with executions := k.executions.mapValues fun _ => Kernel.disconnected pilotHostId }
  | .referenceGranted grant =>
    .ok { k with referenceGrants := k.referenceGrants.set grant.grantId grant }
  | .routeSnapshotRegistered snapshot =>
    .ok { k with routeSnapshots := k.routeSnapshots.set snapshot.snapshotId snapshot }
  | .routeSnapshotApproved approval state => do
    let snapshot ← entry (k.routeSnapshots.get? event.streamId) event.streamId
    return { k with
      routeSnapshots := k.routeSnapshots.set event.streamId
        (Kernel.approvedSnapshot snapshot approval state event.eventId) }
  | .routeSnapshotPublished _ => do
    let snapshot ← entry (k.routeSnapshots.get? event.streamId) event.streamId
    return { k with
      routeSnapshots := k.routeSnapshots.set event.streamId { snapshot with state := .published } }
  | .routeSnapshotRetired reasonCode replacementSnapshotId state =>
    onRouteSnapshotRetired event reasonCode replacementSnapshotId state k

/-- `_kernel_version`. -/
def kernelVersion (event : EventEnvelope) (k : Kernel) : Kernel :=
  { k with versions := k.versions.set event.streamId event.streamVersion }

/-- A Kernel event. -/
def applyKernel (event : EventEnvelope) (payload : KernelPayload) (k : Kernel) :
    Except VsmError Kernel := do
  let next ← onKernel event k payload
  return kernelVersion event next

end KernelHandlers

/-! ### Activation and owner events -/

/-- The handlers of activation events; `cursor` is the event's own cursor. -/
def onActivation (event : EventEnvelope) (cursor : Nat) (a : ActivationService) :
    ActivationPayload → Except VsmError ActivationService
  | .historyImportVerified receipt conversationId _ => do
    require (conversationId ≠ "")
      "history import event is missing its canonical Conversation"
    return { a with
      importReceipt := some receipt
      reorientationConversationId := some conversationId
      sessions := OrderedDict.ofList (receipt.sessions.map fun session =>
        (session.sessionRef, session))
      state := .historyImported
      reorientationAttemptInProgress := false
      reorientationAttemptStartedStreamVersion := none
      pendingReorientationRevisionReason := none
      importEventCursor := cursor }
  | .reorientationStarted _ | .reorientationRetryStarted _ _
  | .reorientationRevisionRetryStarted _ _ =>
    .ok { a with
      state := .reorientationOnly
      reorientationError := none
      pendingReorientationRevisionReason := none
      reorientationAttemptInProgress := true
      reorientationAttemptStartedStreamVersion := some event.streamVersion }
  | .reorientationFailed errorCode => .ok (a.closeAttempt errorCode)
  | .reorientationAttemptInterrupted reasonCode => .ok (a.closeAttempt reasonCode.value)
  | .reorientationSessionCheckpointed providerSessionId => do
    require (providerSessionId ≠ "") "reorientation checkpoint is missing its provider session"
    return { a with reorientationProviderSessionId := some providerSessionId }
  | .historyQueryResolved _ operation _ _ _ _ _ _ =>
    .ok { a with
      historyQueryOperations := insert operation a.historyQueryOperations
      historyQueryEventIds := insert event.eventId a.historyQueryEventIds }
  | .historySessionIndexPageVerified _ _ _ _ => .ok a
  | .reorientationPilotUsageRecorded inputTokens outputTokens =>
    .ok { a with
      reorientationPilotCalls := a.reorientationPilotCalls + 1
      reorientationInputTokens := a.reorientationInputTokens + inputTokens
      reorientationOutputTokens := a.reorientationOutputTokens + outputTokens }
  | .reorientationAssessmentAccepted assessment _ =>
    .ok { a with
      assessment := some assessment
      state := .awaitingOwnerConfirmation
      pendingReorientationRevisionReason := none
      reorientationAttemptInProgress := false
      reorientationAttemptStartedStreamVersion := none }
  | .reorientationAssessmentRevisionRequested priorAssessmentId reasonCode state => do
    let prior ← found a.assessment
      "assessment revision does not reference the projected assessment"
    require (prior.assessmentId = priorAssessmentId)
      "assessment revision does not reference the projected assessment"
    require (state = .reorientationOnly)
      "assessment revision event has an invalid activation state"
    return { a with
      assessment := none
      reorientationError := none
      pendingReorientationRevisionReason := some reasonCode
      reorientationAttemptInProgress := false
      reorientationAttemptStartedStreamVersion := none
      state := .reorientationOnly }
  | .activationApproved _ approvedAt _ =>
    .ok { a with state := .active, approvedAt := some approvedAt }

/-- An activation event. -/
def applyActivation (event : EventEnvelope) (payload : ActivationPayload) (cursor : Nat)
    (a : ActivationService) : Except VsmError ActivationService := do
  let next ← onActivation event cursor a payload
  return { next with version := event.streamVersion }

/-- An owner authentication event. -/
def applyOwnerAuth (event : EventEnvelope) (payload : OwnerAuthPayload)
    (auth : OwnerBootstrapService) : Except VsmError OwnerBootstrapService :=
  match payload with
  | .ownerBootstrapIssued record =>
    .ok { auth with
      codes := auth.codes.set record.bootstrapId record
      version := event.streamVersion }
  | .ownerBootstrapExchanged bootstrapId usedAt session => do
    let record ← found (auth.codes.get? bootstrapId)
      "owner bootstrap exchange references unknown code"
    return { auth with
      codes := auth.codes.set bootstrapId { record with usedAt := some usedAt }
      sessions := auth.sessions.set session.sessionId session
      version := event.streamVersion }

/-! ### Interface events -/

/-- The decision or commitment that a recorded action projects to. -/
def projectAction (conversationId : String) (i : InterfaceService) :
    InterfaceAction → InterfaceService
  | .recordDecision action =>
    { i with
      decisions := i.decisions.set action.actionId
        ⟨action.actionId, conversationId, action.statement, action.supersedesDecisionId⟩ }
  | .updateCommitment action =>
    { i with
      commitments := i.commitments.set action.commitmentId
        ⟨action.commitmentId, conversationId, action.statement, action.workItemId,
          action.state⟩ }
  | _ => i

/-- The Pilot session that a recorded response leads to. -/
def projectedSession (i : InterfaceService) (conversationId : String)
    (response : InterfaceResponsePayload) (cursor : Nat) : Except VsmError PilotSession :=
  match i.sessionOf conversationId with
  | none =>
    InterfaceService.buildPilotSession response.pilotSessionId conversationId
      response.rootProviderSessionId response.providerSessionId cursor
  | some session =>
    .ok { session with
      providerSessionId := response.providerSessionId
      lastEventCursor := cursor }

/-- `_on_interface_response_recorded`. -/
def onInterfaceResponseRecorded (response : InterfaceResponsePayload) (cursor : Nat)
    (i : InterfaceService) : Except VsmError InterfaceService := do
  let conversationId := response.message.conversationId
  let i ← i.appendMessage response.message
  let session ← projectedSession i conversationId response cursor
  let i := { i with pilotSessions := i.pilotSessions.set session.pilotSessionId session }
  let i := response.actions.foldl (projectAction conversationId) i
  let receipt : ConversationActionReceipt :=
    { actionId := response.actionId
      conversationId := conversationId
      status := .completed
      ownerMessageId := response.ownerMessageId
      interfaceMessage := some response.message
      eventCursor := cursor
      error := none }
  return { i with
    actionReceipts := i.actionReceipts.set response.actionId receipt
    actionDigests := i.actionDigests.set response.actionId response.actionDigest
    conversationCursors := i.conversationCursors.set conversationId cursor }

/-- `_on_reorientation_session_advanced`. -/
def onReorientationSessionAdvanced (streamId pilotSessionId rootProviderSessionId
    providerSessionId : String) (cursor : Nat) (i : InterfaceService) :
    Except VsmError InterfaceService := do
  let existing := i.sessionOf streamId
  let session ← InterfaceService.buildPilotSession pilotSessionId streamId
    rootProviderSessionId providerSessionId cursor
  require (∀ known ∈ existing, known.pilotSessionId = session.pilotSessionId)
    "reorientation changed canonical PilotSession identity"
  return { i with
    pilotSessions := i.pilotSessions.set session.pilotSessionId session
    conversationCursors := i.conversationCursors.set streamId cursor }

/-- One commitment of a projected batch. -/
def projectCommitment (i : InterfaceService) (commitment : Commitment) :
    Except VsmError InterfaceService := do
  require (∀ known ∈ i.commitments.get? commitment.commitmentId, known = commitment)
    "history commitment identity collision"
  return { i with commitments := i.commitments.set commitment.commitmentId commitment }

/-- The handlers of Interface events; `cursor` is the event's own cursor. -/
def onInterface (event : EventEnvelope) (cursor : Nat) (i : InterfaceService) :
    InterfacePayload → Except VsmError InterfaceService
  | .conversationCreated conversation binding requestDigest =>
    .ok { i with
      conversations := i.conversations.set conversation.conversationId conversation
      surfaceBindings := i.surfaceBindings.set binding.bindingId binding
      messages := i.messages.set conversation.conversationId []
      conversationCursors := i.conversationCursors.set conversation.conversationId cursor
      creationReceipts := i.creationReceipts.set event.idempotencyKey
        ⟨conversation.conversationId, binding.bindingId, cursor⟩
      creationDigests := i.creationDigests.set event.idempotencyKey requestDigest }
  | .ownerMessageReceived actionId actionDigest message => do
    let i ← i.appendMessage message
    let receipt : ConversationActionReceipt :=
      { actionId := actionId
        conversationId := message.conversationId
        status := .accepted
        ownerMessageId := message.messageId
        interfaceMessage := none
        eventCursor := cursor
        error := none }
    return { i with
      actionReceipts := i.actionReceipts.set actionId receipt
      actionDigests := i.actionDigests.set actionId actionDigest
      conversationCursors := i.conversationCursors.set message.conversationId cursor }
  | .interfaceResponseRecorded response => onInterfaceResponseRecorded response cursor i
  | .reorientationSessionAdvanced pilotSessionId rootProviderSessionId providerSessionId =>
    onReorientationSessionAdvanced event.streamId pilotSessionId rootProviderSessionId
      providerSessionId cursor i
  | .historyCommitmentsMaterialized commitments _ => do
    require (commitments.map (·.commitmentId)).Nodup
      "history commitment identities must be unique"
    let i ← commitments.foldlM projectCommitment i
    return { i with
      conversationCursors := i.conversationCursors.set event.streamId cursor }
  | .reorientationAssessmentMaterialized _ memory decisions =>
    .ok { i with
      nodeMemories := i.nodeMemories.set memory.memoryId memory
      decisions := i.decisions.update (decisions.map fun decision =>
        (decision.decisionId, decision))
      conversationCursors := i.conversationCursors.set event.streamId cursor }
  | .conversationActionFailed actionId _ _ error => do
    let previous ← found (i.actionReceipts.get? actionId)
      "failed action has no accepted owner message"
    return { i with
      actionReceipts := i.actionReceipts.set actionId
        { previous with status := .failed, eventCursor := cursor, error := some error }
      conversationCursors := i.conversationCursors.set event.streamId cursor }
  | .ownerCorrectionRecorded decision =>
    .ok { i with
      decisions := i.decisions.set decision.decisionId decision
      conversationCursors := i.conversationCursors.set event.streamId cursor }
  | .legacyConversationCreated conversation =>
    .ok { i with
      conversations := i.conversations.set conversation.conversationId conversation
      messages := i.messages.set conversation.conversationId []
      conversationCursors := i.conversationCursors.set conversation.conversationId cursor }
  | .legacyConversationMessageImported message _ => do
    require (i.messages.contains message.conversationId = true)
      "legacy message references unknown Conversation"
    i.appendMessage message
  | .legacyDecisionImported decision _ =>
    .ok { i with decisions := i.decisions.set decision.decisionId decision }
  | .legacyCommitmentImported commitment _ =>
    .ok { i with commitments := i.commitments.set commitment.commitmentId commitment }
  | .legacyNodeMemoryImported memory =>
    .ok { i with nodeMemories := i.nodeMemories.set memory.memoryId memory }

/-- An Interface or legacy event, with `_interface_version`. -/
def applyInterface (event : EventEnvelope) (payload : InterfacePayload) (cursor : Nat)
    (i : InterfaceService) : Except VsmError InterfaceService := do
  let next ← onInterface event cursor i payload
  return { next with versions := next.versions.set event.streamId event.streamVersion }

/-! ### Token Lab events -/

/-- A Token Lab event. -/
def applyTokenLab (event : EventEnvelope) (payload : TokenLabPayload)
    (t : TokenLabEventService) : Except VsmError TokenLabEventService := do
  let lab ← match payload with
    | .tokenBaselineApproved baseline => .ok (t.lab.approveBaseline baseline)
    | .tokenObservationRecorded observation _ => t.lab.observe observation
    | .tokenWeeklyReviewRecorded reviewedAt => t.lab.markWeeklyReviewed reviewedAt
  return { t with
    lab := lab
    versions := t.versions.set event.streamId event.streamVersion }

/-- `_on_model_outcome_verified`. -/
def applyRouting (event : EventEnvelope) (cursor : Nat) (r : RoutingEvidenceService) :
    RoutingPayload → Except VsmError RoutingEvidenceService
  | .modelOutcomeVerified outcome => r.replay outcome event.streamVersion cursor

/-! ### The projection -/

/-- The services being rebuilt; routing evidence and the Token Lab may be left unconfigured. -/
structure OperationalProjection where
  kernel : Kernel
  interface : InterfaceService
  routingEvidence : Option RoutingEvidenceService := none
  tokenLab : Option TokenLabEventService
  cursor : Nat
  deriving DecidableEq

namespace OperationalProjection

/-- The services of a process that has read no event. -/
def fresh (dataSpace : DataSpace) : OperationalProjection where
  kernel := .new dataSpace
  interface := .new dataSpace.dataSpaceId
  tokenLab := some (.new dataSpace.dataSpaceId)
  cursor := 0

/-- The version that a service with a single stream knows of a stream. -/
def singleStreamVersion (own : String) (version : Nat) (streamId : String) : Nat :=
  if streamId = own then version else 0

@[simp] theorem singleStreamVersion_self (own : String) (version : Nat) :
    singleStreamVersion own version own = version := if_pos rfl

theorem singleStreamVersion_of_ne {own streamId : String} (version : Nat) (h : streamId ≠ own) :
    singleStreamVersion own version streamId = 0 := if_neg h

/-- The version at which the projection knows a stream: the largest that any service knows. -/
def knownVersion (p : OperationalProjection) (streamId : String) : Nat :=
  max (p.kernel.versions.getD streamId 0) <|
  max (p.interface.versions.getD streamId 0) <|
  max (match p.routingEvidence with
    | some r => r.versions.getD streamId 0
    | none => 0) <|
  max (match p.tokenLab with
    | some t => t.versions.getD streamId 0
    | none => 0) <|
  max (singleStreamVersion p.kernel.activation.streamId p.kernel.activation.version streamId)
    (singleStreamVersion p.kernel.ownerBootstrap.streamId p.kernel.ownerBootstrap.version
      streamId)

/-- The handler of an event. Events of environment instances have none. -/
def handle (p : OperationalProjection) (event : EventEnvelope) :
    Except VsmError OperationalProjection :=
  match event.payload with
  | .kernel payload => do
    let kernel ← applyKernel event payload p.kernel
    return { p with kernel := kernel }
  | .activation payload => do
    let activation ← applyActivation event payload (p.cursor + 1) p.kernel.activation
    return { p with kernel := { p.kernel with activation := activation } }
  | .ownerAuth payload => do
    let auth ← applyOwnerAuth event payload p.kernel.ownerBootstrap
    return { p with kernel := { p.kernel with ownerBootstrap := auth } }
  | .interface payload => do
    let interface ← applyInterface event payload (p.cursor + 1) p.interface
    return { p with interface := interface }
  | .routing payload => do
    let routingEvidence ← found p.routingEvidence
      "routing evidence projection service is not configured"
    let routingEvidence ← applyRouting event (p.cursor + 1) routingEvidence payload
    return { p with routingEvidence := some routingEvidence }
  | .tokenLab payload => do
    let tokenLab ← found p.tokenLab "Token Lab projection service is not configured"
    let tokenLab ← applyTokenLab event payload tokenLab
    return { p with tokenLab := some tokenLab }
  | .environment _ | .external _ =>
    throw (.invariantViolation
      ("projection has no handler for event type: " ++ event.eventType))

/-- `apply`. Events of LETHE's own history streams are passed over. -/
def apply (p : OperationalProjection) (event : EventEnvelope) :
    Except VsmError OperationalProjection := do
  require (event.dataSpaceId = p.kernel.dataSpace.dataSpaceId)
    "projection event crossed its DataSpace"
  if let .external payload := event.payload then
    require (payload.streamPrefix.toList.isPrefixOf event.streamId.toList = true)
      "LETHE external event does not match its reserved history stream"
    return p
  require (event.streamVersion = p.knownVersion event.streamId + 1)
    (s!"projection stream gap for {event.streamId}: " ++
      s!"expected {p.knownVersion event.streamId + 1}, got {event.streamVersion}")
  p.handle event

/-- One stored event: its cursor must follow the projection's. -/
def applyStored (p : OperationalProjection) (stored : StoredEvent) :
    Except VsmError OperationalProjection := do
  require (stored.cursor = p.cursor + 1) "Event Ledger cursor is not contiguous"
  let next ← p.apply stored.event
  return { next with cursor := stored.cursor }

/-- `rebuild` over an in-memory ledger, page by page. The bound on the number of pages is
never reached. -/
def rebuild (p : OperationalProjection) (ledger : InMemoryOperationalLedger) (pageSize : Nat) :
    Except VsmError (Option OperationalProjection) := do
  require (0 < pageSize) "projection page_size must be positive"
  EventSourcing.rebuild applyStored cursor
    (fun after => (ledger.events.drop after).take pageSize) (ledger.events.length + 1) p

theorem cursor_of_applyStored (p : OperationalProjection) (stored : StoredEvent)
    (next : OperationalProjection) (h : p.applyStored stored = .ok next) :
    next.cursor = p.cursor + 1 := by
  rw [applyStored, Checked.check_bind_eq_ok_iff, Checked.bind_eq_ok_iff] at h
  obtain ⟨hcursor, reached, -, h⟩ := h
  obtain rfl := Checked.pure_eq_ok_iff.mp h
  exact hcursor

/-- **A rebuild reads the ledger once.** Whatever the page size, the result is that of
applying every event after the cursor in order, and the loop ends. -/
theorem rebuild_eq_replay (p : OperationalProjection) (ledger : InMemoryOperationalLedger)
    {pageSize : Nat} (hpos : 0 < pageSize) :
    p.rebuild ledger pageSize =
      (EventSourcing.replay applyStored p (ledger.events.drop p.cursor) >>=
        fun next => .ok (some next)) := by
  rw [rebuild, Checked.check_bind_of hpos]
  exact EventSourcing.rebuild_eq_replay ledger.events pageSize hpos (fun _ => rfl)
    cursor_of_applyStored _ p (by omega)

end OperationalProjection

end Nanihold
