import Nanihold.Kernel.Work

/-!
# Kernel commands on executions and agents

The commands of `vsm.kernel.service.Kernel` that create executions and move them through
their states, and those that record agent names, identities and notifications.

## Main definitions

* `Kernel.createExecution`, `Kernel.setExecutionState`,
  `Kernel.recordPilotExecutionReceipt`, `Kernel.pilotHostDisconnected`.
* `Kernel.recordAgentNotification`, `Kernel.promotionRecording`,
  `Kernel.recordAgentNameAssignment`, `Kernel.registerAgentIdentity`.
* `ExecutionState.allowed` — the table of permitted transitions.
-/

namespace Nanihold

/-- The transitions that `set_execution_state` permits. -/
def ExecutionState.allowed : ExecutionState → List ExecutionState
  | .requested => [.active, .paused, .failed, .cancelled]
  | .active => [.paused, .succeeded, .failed, .cancelled]
  | .paused => [.active, .failed, .cancelled]
  | .succeeded => []
  | .failed => []
  | .cancelled => []

/-- The value of the enumeration member. -/
def ExecutionState.value : ExecutionState → String
  | .requested => "requested"
  | .active => "active"
  | .paused => "paused"
  | .succeeded => "succeeded"
  | .failed => "failed"
  | .cancelled => "cancelled"

namespace Kernel

variable (k : Kernel)

/-! ### Executions -/

/-- `create_execution`. -/
def createExecution (execution : Execution) (actorId idempotencyKey : String) (clock : Clock) :
    Except VsmError (Recording Kernel) := do
  k.activation.requireActive "Execution creation"
  require (execution.dataSpaceId = k.dataSpace.dataSpaceId) "Execution DataSpace mismatch"
  require (execution.state = .requested ∨ execution.state = .active)
    "new Execution must start requested or active"
  require (k.nodes.contains execution.nodeId = true) "Execution Node not found"
  let work ← found (k.workItems.get? execution.workItemId) "Execution WorkItem not found"
  require (execution.nodeId = work.delegatedToNodeId)
    "Execution must stay with the delegated Node"
  require (k.executions.contains execution.executionId = false) "Execution already exists"
  return recording execution.executionId (.executionCreated execution) "human" (some actorId)
    idempotencyKey (some execution.workItemId) none (clock 0)
    fun _ k => { k with executions := k.executions.set execution.executionId execution }

/-- `set_execution_state`. -/
def setExecutionState (executionId : String) (state : ExecutionState)
    (actorType actorId idempotencyKey : String) (pauseReason : Option String) (clock : Clock) :
    Except VsmError (Recording Kernel) := do
  let execution ← found (k.executions.get? executionId) "Execution not found"
  require (state ∈ execution.state.allowed)
    s!"invalid Execution transition: {execution.state.value} -> {state.value}"
  require (state = .paused → pauseReason ≠ none ∧ pauseReason ≠ some "")
    "paused Execution requires a reason"
  let updated := { execution with state := state, pauseReason := pauseReason }
  return recording executionId (.executionStateChanged state pauseReason) actorType
    (some actorId) idempotencyKey (some execution.workItemId) none (clock 0)
    fun _ k => { k with executions := k.executions.set executionId updated }

/-- What a PilotHost reported about an execution. -/
structure PilotReceipt where
  receiptId : String
  receiptStatus : String
  requestedModel : Option String
  actualModel : Option String
  providerSessionId : Option String
  usage : Option JsonObject
  result : Option JsonObject
  error : Option JsonObject
  deriving DecidableEq

/-- The state and the pause reason that a receipt leads to. -/
def receiptOutcome (receipt : PilotReceipt) :
    Except VsmError (ExecutionState × Option String) :=
  if receipt.receiptStatus = "succeeded" then do
    require (receipt.actualModel ≠ none ∧ receipt.providerSessionId ≠ none ∧
        receipt.usage ≠ none ∧ receipt.result ≠ none ∧ receipt.error = none)
      "succeeded PilotHost receipt is incomplete"
    return (.succeeded, none)
  else if receipt.receiptStatus = "failed" then do
    require (receipt.result = none ∧ receipt.error ≠ none)
      "failed PilotHost receipt is inconsistent"
    return (.failed, none)
  else if receipt.receiptStatus = "transport_unknown" then do
    require (receipt.result = none ∧ receipt.error ≠ none)
      "transport_unknown PilotHost receipt is inconsistent"
    return (.paused, some "pilot_receipt_reconciliation_required")
  else throw (.invariantViolation "PilotHost receipt must be terminal")

/-- The first recorded assignment of an execution. -/
def assignmentIdFor (executionId : String) : Option Identifier :=
  (k.agentNameAssignments.values.find? (·.executionId = executionId)).map (·.assignmentId)

/-- `record_pilot_execution_receipt`. -/
def recordPilotExecutionReceipt (executionId : String) (receipt : PilotReceipt)
    (actorId idempotencyKey : String) (clock : Clock) :
    Except VsmError (Recording Kernel) := do
  let execution ← found (k.executions.get? executionId)
    "PilotHost receipt requires a requested Execution"
  require (execution.state = .requested) "PilotHost receipt requires a requested Execution"
  let (nextState, pauseReason) ← receiptOutcome receipt
  let payload : PilotExecutionReceiptPayload :=
    { receiptId := receipt.receiptId
      executionId := executionId
      workItemId := execution.workItemId
      assignmentId := k.assignmentIdFor executionId
      receiptStatus := receipt.receiptStatus
      requestedModel := receipt.requestedModel
      actualModel := receipt.actualModel
      providerSessionId := receipt.providerSessionId
      usage := receipt.usage
      result := receipt.result
      error := receipt.error
      state := nextState
      pauseReason := pauseReason
      agentName := execution.agentName }
  let updated :=
    { execution with
      state := nextState
      providerSessionId := receipt.providerSessionId
      pauseReason := pauseReason }
  return recording executionId (.pilotExecutionReceiptRecorded payload) "pilot" (some actorId)
    idempotencyKey (some execution.workItemId) none (clock 0)
    fun _ k => { k with executions := k.executions.set executionId updated }

/-- An execution of a PilotHost that went away. -/
def disconnected (pilotHostId : String) (execution : Execution) : Execution :=
  if execution.pilotHostId = pilotHostId ∧ execution.state = .active then
    pauseActive "pilot_host_disconnected" execution
  else execution

/-- `pilot_host_disconnected`. -/
def pilotHostDisconnected (pilotHostId idempotencyKey : String) (clock : Clock) :
    Except VsmError (Recording Kernel) :=
  return recording pilotHostId (.pilotHostDisconnected pilotHostId) "system" none
    idempotencyKey (some pilotHostId) none (clock 0)
    fun _ k => { k with executions := k.executions.mapValues fun _ => disconnected pilotHostId }

/-! ### Notifications -/

/-- `agent_name_is_registered`. -/
def agentNameIsRegistered (agentName : String) : Bool :=
  agentName = reservedAgentName ||
    k.agentNameAssignments.values.any (·.agentName = agentName) ||
    k.agentNameRegistrations.values.any (·.agentName = agentName)

/-- `_validate_agent_message_identity`. -/
def validateAgentMessageIdentity (notification : AgentNotification) : Except VsmError Unit := do
  require (∃ sender ∈ notification.senderAgentName, k.agentNameIsRegistered sender = true)
    "agent-to-agent sender must be issued by the agent-name registry"
  require (k.agentNameIsRegistered notification.recipientAgentName = true)
    "agent-to-agent recipient must be issued by the agent-name registry"
  match notification.relatedWorkItemId, notification.relatedExecutionId with
  | some workItemId, some executionId =>
    match k.workItems.get? workItemId, k.executions.get? executionId with
    | some workItem, some execution =>
      require (execution.workItemId = workItem.workItemId)
        "agent-to-agent WorkItem and Execution references do not match"
    | _, _ =>
      throw (.invariantViolation
        "agent-to-agent references must resolve to WorkItem and Execution")
  | _, _ =>
    throw (.invariantViolation
      "agent-to-agent messages require WorkItem and Execution references")

/-- The identity check that only agent-to-agent notifications make. -/
def validateNotificationIdentity (notification : AgentNotification) : Except VsmError Unit :=
  if notification.sourceKind = .agentToAgent then k.validateAgentMessageIdentity notification
  else .ok ()

/-- `record_agent_notification`. -/
def recordAgentNotification (notification : AgentNotification)
    (actorId idempotencyKey : String) (clock : Clock) :
    Except VsmError (Recording Kernel) := do
  require (notification.dataSpaceId = k.dataSpace.dataSpaceId)
    "AgentNotification DataSpace mismatch"
  k.validateNotificationIdentity notification
  require (k.agentNotifications.contains notification.notificationId = false)
    s!"AgentNotification already exists: {notification.notificationId}"
  return recording notification.notificationId (.agentNotificationDelivered notification)
    "system" (some actorId) idempotencyKey
    (some (notification.relatedWorkItemId.getD notification.notificationId))
    notification.relatedExecutionId (clock 0)
    fun _ k =>
      { k with
        agentNotifications := k.agentNotifications.set notification.notificationId notification }

/-- The checks of `promote_agent_notification` before its first write. -/
def requirePromotable (notificationId : String) (workItem : WorkItem) :
    Except VsmError AgentNotification := do
  let notification ← found (k.agentNotifications.get? notificationId)
    "AgentNotification not found"
  require (notification.requiresWorkItem = true)
    "AgentNotification does not satisfy the WorkItem promotion condition"
  require (notification.promotedWorkItemId = none) "AgentNotification is already promoted"
  require (workItem.dataSpaceId = k.dataSpace.dataSpaceId)
    "promoted WorkItem DataSpace mismatch"
  require (workItem.workItemId ≠ notification.notificationId)
    "promoted WorkItem must have a distinct identity from its notification"
  require (k.workItems.contains workItem.workItemId = false) "promoted WorkItem already exists"
  return notification

/-- The second write of `promote_agent_notification`: the link from the notification to the
work item that the first write created. -/
def promotionRecording (notificationId : String) (notification : AgentNotification)
    (workItemId actorId idempotencyKey : String) (clock : Clock) : Recording Kernel :=
  recording notification.notificationId (.agentNotificationPromoted notificationId workItemId)
    "system" (some actorId) idempotencyKey (some workItemId)
    (some notification.notificationId) (clock 1)
    fun _ k =>
      { k with
        agentNotifications := k.agentNotifications.set notificationId
          { notification with promotedWorkItemId := some workItemId } }

/-! ### Names and identities -/

/-- `record_agent_name_assignment`. -/
def recordAgentNameAssignment (assignment : AgentNameAssignment)
    (namingRegistry : AgentNameRegistry) (actorId idempotencyKey : String) (clock : Clock) :
    Except VsmError (Recording Kernel) := do
  let issued ← namingRegistry.assignmentForId assignment.assignmentId
  require (issued = assignment)
    "AgentNameAssignment was not issued by the configured name registry"
  require (assignment.dataSpaceId = k.dataSpace.dataSpaceId)
    "AgentNameAssignment DataSpace mismatch"
  require (k.agentNameAssignments.contains assignment.assignmentId = false)
    s!"AgentNameAssignment already exists: {assignment.assignmentId}"
  require (∀ known ∈ k.agentNameAssignments.values, known.agentName ≠ assignment.agentName)
    s!"AgentNameAssignment name is already assigned: {assignment.agentName}"
  let execution ← found (k.executions.get? assignment.executionId)
    "AgentNameAssignment Execution not found"
  require (execution.workItemId = assignment.workItemId)
    "AgentNameAssignment WorkItem does not match Execution"
  require (execution.nodeId = assignment.nodeId)
    "AgentNameAssignment Node does not match Execution"
  require (execution.pilotId = assignment.pilotId)
    "AgentNameAssignment Pilot does not match Execution"
  require (execution.agentName = none) "Execution already has an agent name"
  return recording assignment.assignmentId (.agentNameAssigned assignment) "system"
    (some actorId) idempotencyKey (some assignment.workItemId) (some assignment.executionId)
    (clock 0)
    fun _ k =>
      { k with
        agentNameAssignments :=
          k.agentNameAssignments.set assignment.assignmentId assignment
        executions := k.executions.set assignment.executionId
          { execution with agentName := some assignment.agentName } }

/-- `register_agent_identity`. -/
def registerAgentIdentity (registration : AgentIdentityRegistration)
    (namingRegistry : AgentNameRegistry) (actorId idempotencyKey : String) (clock : Clock) :
    Except VsmError (Recording Kernel) := do
  let issued ← namingRegistry.registrationForId registration.registrationId
  require (issued = registration)
    "AgentIdentityRegistration was not issued by the configured name registry"
  require (registration.dataSpaceId = k.dataSpace.dataSpaceId)
    "AgentIdentityRegistration DataSpace mismatch"
  require (k.agentNameRegistrations.contains registration.registrationId = false)
    s!"AgentIdentityRegistration already exists: {registration.registrationId}"
  require (k.agentNameIsRegistered registration.agentName = false)
    s!"AgentIdentityRegistration name is already assigned: {registration.agentName}"
  require (k.nodes.contains registration.nodeId = true)
    "AgentIdentityRegistration Node does not exist"
  return recording registration.registrationId (.agentIdentityRegistered registration) "system"
    (some actorId) idempotencyKey (some registration.nodeId) none (clock 0)
    fun _ k =>
      { k with
        agentNameRegistrations :=
          k.agentNameRegistrations.set registration.registrationId registration }

end Kernel

end Nanihold
