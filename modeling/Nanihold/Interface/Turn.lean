import Nanihold.Dispatcher
import Nanihold.Replay.KernelSync

/-!
# Owner turns

`InterfaceService.perform_owner_action`: it records what the owner said, asks the Pilot, checks the
actions of the answer and applies them. The service holds no lock while the Pilot is called, so a
turn is modelled in two parts, and what else happens in the data space happens in between.

## Main definitions

* `OwnerTurn` — a turn whose owner message is recorded and whose Pilot has not answered.
* `beginOwnerAction`, `finishOwnerAction` — the two parts of a turn.
* `performOwnerAction` — a turn during whose Pilot call nothing else happens.
* `validateActions`, `applyActions` — the checks of an answer's actions, and their application.
* `visit` — the search for a dependency cycle.
-/

namespace Nanihold

/-- A turn whose owner message is recorded and whose Pilot has not answered. -/
structure OwnerTurn where
  conversation : Conversation
  action : OwnerMessageAction
  actionDigest : String
  ownerMessage : ConversationMessage
  accepted : ConversationActionReceipt
  context : InterfaceTurn
  deriving DecidableEq

/-- What the second part of a turn draws: clock readings and new identities. -/
structure TurnDraws where
  validatedAt : Clock
  respondedAt : DateTime
  responseRecordedAt : Clock
  observedAt : DateTime
  observationRecordedAt : Clock
  /-- The readings of a Kernel command, for each action and each command of the action. -/
  appliedAt : Nat → Nat → Clock
  failedAt : Clock
  newMessageId : Identifier
  newSessionId : Identifier

/-! ### The event delta -/

/-- The loop of `_event_delta`: page after page until the cursor is reached. The number bounds the
pages and is never used up. -/
def readTurnDelta (ledger : InMemoryOperationalLedger) (throughCursor : Nat) :
    Nat → Dispatcher.DeltaScan → Except VsmError Dispatcher.DeltaScan
  | 0, _ => throw (.raised "page bound")
  | pages + 1, scan =>
    if scan.cursor < throughCursor then do
      let page ← ledger.page scan.cursor (min 500 (throughCursor - scan.cursor))
      require (page ≠ []) "Event Ledger ended before owner message cursor"
      let next := (page.takeWhile (·.cursor ≤ throughCursor)).foldl Dispatcher.DeltaScan.count scan
      require (scan.cursor < next.cursor) "Event Ledger delta did not advance"
      readTurnDelta ledger throughCursor pages next
    else return scan

/-- `_event_delta`. -/
def turnDelta (ledger : InMemoryOperationalLedger) (afterCursor throughCursor : Nat) :
    Except VsmError EventDeltaSummary := do
  require (afterCursor ≤ throughCursor) "Event delta cursor moved backwards"
  let scan ← readTurnDelta ledger throughCursor (throughCursor - afterCursor + 1)
    ⟨afterCursor, .empty, []⟩
  return { scan.summary afterCursor with throughCursor := throughCursor }

namespace InterfaceService

/-! ### What the Pilot is told -/

/-- The decisions that another decision supersedes. -/
def superseded (i : InterfaceService) : List Identifier :=
  i.decisions.values.filterMap (·.supersedesDecisionId)

/-- `_resume_pack`. -/
def resumePack (i : InterfaceService) (k : Kernel) (conversation : Conversation) :
    InterfaceResumePack where
  nodeMemory := i.nodeMemories.values.filter (·.nodeId = conversation.interfaceNodeId)
  unfinishedWorkItems := k.workItems.values.filter fun work =>
    work.ownerNodeId = conversation.interfaceNodeId ∧ work.state ≠ .completed ∧
      work.state ≠ .cancelled
  openCommitments := i.commitments.values.filter fun commitment =>
    commitment.conversationId = conversation.conversationId ∧ commitment.state = .open
  activeDecisions := i.decisions.values.filter fun decision =>
    decision.conversationId = conversation.conversationId ∧ decision.decisionId ∉ i.superseded

/-- The device acts through a surface that is bound to the conversation. -/
def IsBound (i : InterfaceService) (conversationId : String) (action : OwnerMessageAction)
    (deviceId : String) : Prop :=
  ∃ binding ∈ i.surfaceBindings.values, binding.conversationId = conversationId ∧
    binding.deviceId = deviceId ∧ binding.surface = action.source.surface ∧
    binding.sourceSessionId = action.source.sourceSessionId ∧
    binding.channelId = action.source.channelId

instance (i : InterfaceService) (conversationId : String) (action : OwnerMessageAction)
    (deviceId : String) : Decidable (i.IsBound conversationId action deviceId) :=
  inferInstanceAs (Decidable (∃ binding ∈ i.surfaceBindings.values, _))

/-- The Pilot session after a response, from the one before it. -/
def advancedSession (prior : Option PilotSession) (conversationId pilotSessionId : String)
    (providerSessionId : String) (cursor : Nat) : Except VsmError PilotSession :=
  match prior with
  | none =>
    buildPilotSession pilotSessionId conversationId providerSessionId providerSessionId cursor
  | some session =>
    .ok { session with providerSessionId := providerSessionId, lastEventCursor := cursor }

end InterfaceService

section Begin

variable [Sha256]

/-- The checks of `perform_owner_action`. A repeated action is answered with its receipt, before the
device is looked at. -/
def admitOwnerAction (s : MemorySystem) (conversationId : String) (action : OwnerMessageAction)
    (deviceId : String) : Except VsmError (ConversationActionReceipt ⊕ Conversation) := do
  s.kernel.activation.requireActive "owner conversation action"
  let conversation ← found (s.interface.conversations.get? conversationId) "Conversation not found"
  if let some prior := s.interface.actionReceipts.get? action.actionId then
    let priorDigest ← entry (s.interface.actionDigests.get? action.actionId) action.actionId
    require (priorDigest = hexdigest (.ownerAction action))
      "conversation action identity collision"
    return .inl prior
  require (s.interface.IsBound conversationId action deviceId)
    "owner action does not match an authenticated SurfaceBinding"
  return .inr conversation

/-- What the owner said, as a message of the conversation. -/
def ownerMessageOf (conversationId : String) (action : OwnerMessageAction)
    (newMessageId : Identifier) : ConversationMessage where
  messageId := newMessageId
  conversationId := conversationId
  role := .owner
  displayText := none
  blobRef := some (blobRef (.text action.text))
  occurredAt := action.source.occurredAt
  source := some action.source

omit [Sha256] in
/-- The receipt of a turn whose owner message was recorded. -/
def acceptedReceipt (action : OwnerMessageAction) (ownerMessage : ConversationMessage)
    (cursor : Nat) : ConversationActionReceipt where
  actionId := action.actionId
  conversationId := ownerMessage.conversationId
  status := .accepted
  ownerMessageId := ownerMessage.messageId
  interfaceMessage := none
  eventCursor := cursor
  error := none

/-- The recording of what the owner said. -/
def ownerMessageRecording (conversation : Conversation) (action : OwnerMessageAction)
    (ownerMessage : ConversationMessage) (clock : Clock) : Recording InterfaceService :=
  InterfaceService.recording ownerMessage.conversationId
    (.ownerMessageReceived action.actionId (hexdigest (.ownerAction action)) ownerMessage) "human"
    (some conversation.ownerId) s!"{action.idempotencyKey}:owner" (clock 0)
    fun result => do
      let i ← get
      let i ← EStateM.ofExcept (i.appendMessage ownerMessage)
      set { i with
        actionReceipts := i.actionReceipts.set action.actionId
          (acceptedReceipt action ownerMessage result.cursor)
        actionDigests := i.actionDigests.set action.actionId (hexdigest (.ownerAction action)) }

/-- What the Pilot is told about a turn whose owner message stands at a cursor. -/
def turnContext (s : MemorySystem) (conversationId : String) (conversation : Conversation)
    (ownerMessageBlobRef : String) (cursor : Nat) : Except VsmError InterfaceTurn := do
  let session := s.interface.sessionOf conversationId
  let eventDelta ← turnDelta s.ledger ((session.map (·.lastEventCursor)).getD 0) cursor
  return {
    ownerMessageBlobRef := ownerMessageBlobRef
    eventDelta := eventDelta
    resumePack :=
      if session = none then some (s.interface.resumePack s.kernel conversation) else none
    providerSessionId := session.map (·.providerSessionId) }

/-- The owner message is stored and recorded, and the turn waits for the Pilot. -/
def openTurn (conversationId : String) (conversation : Conversation)
    (action : OwnerMessageAction) (newMessageId : Identifier) (clock : Clock) :
    SystemM InMemoryOperationalLedger OwnerTurn := do
  let ownerMessageBlobRef ← onLedger (OperationalLedger.putBlob (.text action.text))
  let ownerMessage := ownerMessageOf conversationId action newMessageId
  let (_, result) ← record (ownerMessageRecording conversation action ownerMessage clock)
  let s ← get
  let context ← EStateM.ofExcept
    (turnContext s conversationId conversation ownerMessageBlobRef result.cursor)
  return {
    conversation := conversation
    action := action
    actionDigest := hexdigest (.ownerAction action)
    ownerMessage := ownerMessage
    accepted := acceptedReceipt action ownerMessage result.cursor
    context := context }

/-- The part of `perform_owner_action` before the Pilot is called. -/
def beginOwnerAction (conversationId : String) (action : OwnerMessageAction) (deviceId : String)
    (newMessageId : Identifier) (clock : Clock) :
    SystemM InMemoryOperationalLedger (ConversationActionReceipt ⊕ OwnerTurn) := do
  let s ← get
  match ← EStateM.ofExcept (admitOwnerAction s conversationId action deviceId) with
  | .inl prior => return .inl prior
  | .inr conversation =>
    let turn ← openTurn conversationId conversation action newMessageId clock
    return .inr turn

end Begin

/-! ### The checks of an answer's actions -/

/-- The work items and prerequisites that the actions checked so far would lead to. -/
structure ProjectedWork where
  work : OrderedDict String WorkItem
  dependencies : OrderedDict String (List String)

/-- What is there before the first action. -/
def ProjectedWork.ofKernel (k : Kernel) : ProjectedWork where
  work := k.workItems
  dependencies := OrderedDict.ofList (k.workItems.keys.map fun workItemId =>
    (workItemId, (k.workEdges.filter fun edge =>
      edge.sourceWorkItemId = workItemId ∧ edge.kind = .dependsOn).map (·.targetWorkItemId)))

/-- The search for a cycle from a work item; `path` is the way there. The number bounds the length
of the path and is never used up. -/
def visit (dependencies : OrderedDict String (List String)) :
    Nat → String → List String → Except VsmError Unit
  | 0, _, _ => throw (.raised "path bound")
  | bound + 1, workItemId, path => do
    require (workItemId ∉ path) "Interface WorkItem actions create a dependency cycle"
    (dependencies.getD workItemId []).forM fun dependency =>
      visit dependencies bound dependency (workItemId :: path)

/-- The search from every work item. -/
def visitAll (dependencies : OrderedDict String (List String)) : Except VsmError Unit :=
  dependencies.keys.forM fun workItemId =>
    visit dependencies (dependencies.keys.length + 2) workItemId []

/-- The checks of a new work item. -/
def validateCreation (k : Kernel) (projected : ProjectedWork) (action : CreateWorkItemAction) :
    Except VsmError ProjectedWork := do
  let work := action.workItem
  require (work.dataSpaceId = k.dataSpace.dataSpaceId ∧
      (work.state = .proposed ∨ work.state = .ready) ∧ work.completionEvidence = none ∧
      work.blockingS3StarFindingIds = [] ∧ work.acceptanceCriteria ≠ [])
    "Interface WorkItem create action violates Kernel contract"
  require (∀ nodeId ∈ [work.ownerNodeId, work.delegatedToNodeId, work.integrationOwnerNodeId],
      k.nodes.contains nodeId = true)
    "Interface WorkItem references an unknown Node"
  require (∀ parentId ∈ work.parentWorkItemId, projected.work.contains parentId = true)
    "Interface WorkItem parent does not exist"
  require (∀ dependencyId ∈ action.dependsOnWorkItemIds,
      projected.work.contains dependencyId = true)
    "Interface WorkItem dependency does not exist"
  return {
    work := projected.work.set work.workItemId work
    dependencies := projected.dependencies.set work.workItemId action.dependsOnWorkItemIds }

/-- The checks of a delegation. -/
def validateDelegation (k : Kernel) (projected : ProjectedWork) (action : DelegateWorkItemAction) :
    Except VsmError ProjectedWork := do
  let work ← found (projected.work.get? action.workItemId)
    "Interface delegation action violates Kernel contract"
  require (k.nodes.contains action.delegatedToNodeId = true ∧
      (work.state = .proposed ∨ work.state = .ready) ∧
      ∀ execution ∈ k.executions.values, execution.workItemId ≠ action.workItemId)
    "Interface delegation action violates Kernel contract"
  return { projected with
    work := projected.work.set action.workItemId
      { work with delegatedToNodeId := action.delegatedToNodeId, state := .ready } }

/-- The checks of an effect plan. -/
def validateEffectPlan (k : Kernel) (lease : EffectLease) (now : DateTime) :
    Except VsmError Unit := do
  require (lease.dataSpaceId = k.dataSpace.dataSpaceId)
    "Interface Effect plan violates lease contract"
  let execution ← found (k.executions.get? lease.executionId)
    "Interface Effect plan violates lease contract"
  require (execution.workItemId = lease.workItemId ∧ now < lease.expiresAt ∧
      lease.state = .planned)
    "Interface Effect plan violates lease contract"

/-- The checks of a proposed completion. -/
def validateCompletion (projected : ProjectedWork) (action : ProposeCompletionAction) :
    Except VsmError Unit := do
  let work ← found (projected.work.get? action.workItemId)
    "Interface completion action fails the completion gate"
  require (work.blockingS3StarFindingIds = [] ∧ Kernel.CompletionGate action.evidence)
    "Interface completion action fails the completion gate"

/-- The check that a selected route is the route of its work item. -/
def requireRoute (work : Option WorkItem) (routeKey : String) (message : String) :
    Except VsmError Unit := do
  let work ← found work message
  require (work.routeKey = routeKey) message

/-- The checks of one action, after those of the actions before it. -/
def validateAction (k : Kernel) (decisionIds : List String) (now : DateTime)
    (projected : ProjectedWork) : InterfaceAction → Except VsmError ProjectedWork
  | .createWorkItem action => validateCreation k projected action
  | .delegateWorkItem action => validateDelegation k projected action
  | .recordDecision action => do
    require (∀ decisionId ∈ action.supersedesDecisionId, decisionId ∈ decisionIds)
      "Interface decision supersedes unknown evidence"
    return projected
  | .updateCommitment action => do
    require (∀ workItemId ∈ action.workItemId, projected.work.contains workItemId = true)
      "Interface commitment references unknown WorkItem"
    return projected
  | .planEffect action => do
    validateEffectPlan k action.effectLease now
    return projected
  | .proposeCompletion action => do
    validateCompletion projected action
    return projected
  | .selectPilot action => do
    requireRoute (projected.work.get? action.workItemId) action.routeKey
      "Interface pilot selection does not match WorkItem route"
    return projected
  | .readHistory action =>
    throw (.invariantViolation ("InterfaceAction is not valid in a normal owner turn: " ++
      (InterfaceAction.readHistory action).kind))
  | .submitReorientation action =>
    throw (.invariantViolation ("InterfaceAction is not valid in a normal owner turn: " ++
      (InterfaceAction.submitReorientation action).kind))

/-- The work items that the actions of an answer create. -/
def createdWorkIds (actions : List InterfaceAction) : List Identifier :=
  actions.filterMap fun
    | .createWorkItem action => some action.workItem.workItemId
    | _ => none

/-- The decisions that the actions of an answer record. -/
def recordedDecisionIds (actions : List InterfaceAction) : List Identifier :=
  actions.filterMap fun
    | .recordDecision action => some action.actionId
    | _ => none

/-- `_validate_actions`; the clock is read for the effect plans, here once for each position. -/
def validateActions (i : InterfaceService) (k : Kernel) (actions : List InterfaceAction)
    (clock : Clock) : Except VsmError Unit := do
  require (actions.map (·.actionId)).Nodup "Interface response action identities must be unique"
  require (∀ workItemId ∈ createdWorkIds actions, k.workItems.contains workItemId = false)
    "Interface WorkItem create action reuses an existing identity"
  let decisionIds := i.decisions.keys ++ recordedDecisionIds actions
  let projected ← actions.zipIdx.foldlM
    (fun projected (action, position) =>
      validateAction k decisionIds (clock position) projected action)
    (ProjectedWork.ofKernel k)
  visitAll projected.dependencies

/-! ### The application of an answer's actions -/

section Finish

variable [Sha256]

/-- One action of an answer, applied. -/
def applyAction (conversation : Conversation) (clock : Nat → Clock) :
    InterfaceAction → SystemM InMemoryOperationalLedger Unit
  | .createWorkItem action => do
    (KernelCommand.createWorkItem action.workItem conversation.interfaceNodeId
      s!"interface:{action.actionId}:create").run (clock 0)
    action.dependsOnWorkItemIds.zipIdx.forM fun (dependencyId, position) =>
      (KernelCommand.addDependency action.workItem.workItemId dependencyId
        conversation.interfaceNodeId s!"interface:{action.actionId}:depends:{dependencyId}").run
        (clock (position + 1))
  | .delegateWorkItem action =>
    (KernelCommand.delegateWorkItem action.workItemId action.delegatedToNodeId
      conversation.interfaceNodeId s!"interface:{action.actionId}:delegate").run (clock 0)
  | .recordDecision action =>
    EStateM.zoom (modify fun i : InterfaceService =>
      { i with
        decisions := i.decisions.set action.actionId
          ⟨action.actionId, conversation.conversationId, action.statement,
            action.supersedesDecisionId⟩ })
  | .updateCommitment action =>
    EStateM.zoom (modify fun i : InterfaceService =>
      { i with
        commitments := i.commitments.set action.commitmentId
          ⟨action.commitmentId, conversation.conversationId, action.statement, action.workItemId,
            action.state⟩ })
  | .planEffect action =>
    (KernelCommand.planEffect action.effectLease conversation.interfaceNodeId
      s!"interface:{action.actionId}:effect").run (clock 0)
  | .proposeCompletion action =>
    (KernelCommand.completeWorkItem action.workItemId action.evidence
      conversation.interfaceNodeId s!"interface:{action.actionId}:completion").run (clock 0)
  | .selectPilot action => do
    let s ← get
    EStateM.ofExcept (requireRoute (s.kernel.workItems.get? action.workItemId) action.routeKey
      "pilot selection must match an existing WorkItem route_key")
  | .readHistory action =>
    throw (.invariantViolation ("InterfaceAction is not valid in a normal owner turn: " ++
      (InterfaceAction.readHistory action).kind))
  | .submitReorientation action =>
    throw (.invariantViolation ("InterfaceAction is not valid in a normal owner turn: " ++
      (InterfaceAction.submitReorientation action).kind))

/-- `_apply_actions`. -/
def applyActions (conversation : Conversation) (actions : List InterfaceAction)
    (clock : Nat → Nat → Clock) : SystemM InMemoryOperationalLedger Unit :=
  actions.zipIdx.forM fun (action, position) => applyAction conversation (clock position) action

/-! ### The end of a turn -/

omit [Sha256] in
/-- The incidents that the usage of a call reports. -/
def usageIncidents (usage : InterfacePilotUsage) : Finset TokenIncidentKind :=
  [(usage.classifierTriggered, TokenIncidentKind.permissionClassifier),
    (usage.modelSubstitution, .modelSubstitution), (usage.fullHistoryResent, .contextReload),
    (usage.pollingCall, .modelCallPolling), (usage.falseComplete, .falseComplete),
    (decide (usage.reeditedTokens ≠ 0), .reedit)].filterMap
      (fun (reported, incident) => if reported then some incident else none) |>.toFinset

omit [Sha256] in
/-- What the Token Lab is told about a turn. -/
def turnObservation (action : OwnerMessageAction) (usage : InterfacePilotUsage)
    (occurredAt : DateTime) : TokenObservation where
  observationId := "observation:" ++ afterColon action.actionId
  workType := "interface"
  occurredAt := occurredAt
  totalInputTokens := usage.inputTokens
  interfaceInputTokens := usage.inputTokens
  incidentKinds := usageIncidents usage
  fullHistoryResent := usage.fullHistoryResent
  expensiveInterfaceCalls := 1
  verifiedComplete := !usage.falseComplete

namespace OwnerTurn

variable (turn : OwnerTurn)

/-- The Pilot's answer as a message of the conversation. -/
def interfaceMessage (response : StructuredInterfaceResponse) (draws : TurnDraws) :
    ConversationMessage where
  messageId := draws.newMessageId
  conversationId := turn.conversation.conversationId
  role := .interface
  displayText := some response.displayText
  blobRef := none
  occurredAt := draws.respondedAt
  source := none

/-- The body of `interface_response_recorded`. -/
def responsePayload (response : StructuredInterfaceResponse) (draws : TurnDraws)
    (prior : Option PilotSession) : InterfaceResponsePayload where
  actionId := turn.action.actionId
  actionDigest := turn.actionDigest
  ownerMessageId := turn.ownerMessage.messageId
  message := turn.interfaceMessage response draws
  actions := response.actions
  pilotSessionId := (prior.map (·.pilotSessionId)).getD draws.newSessionId
  rootProviderSessionId := (prior.map (·.rootProviderSessionId)).getD response.providerSessionId
  providerSessionId := response.providerSessionId
  pilotUsage := response.pilotUsage
  contextMode := if prior = none then .resumePack else .providerDelta

/-- The receipt of a turn that completed. -/
def completedReceipt (message : ConversationMessage) (cursor : Nat) :
    ConversationActionReceipt where
  actionId := turn.action.actionId
  conversationId := turn.conversation.conversationId
  status := .completed
  ownerMessageId := turn.ownerMessage.messageId
  interfaceMessage := some message
  eventCursor := cursor
  error := none

/-- The recording of the Pilot's answer. -/
def responseRecording (response : StructuredInterfaceResponse) (draws : TurnDraws)
    (prior : Option PilotSession) : Recording InterfaceService :=
  InterfaceService.recording turn.conversation.conversationId
    (.interfaceResponseRecorded (turn.responsePayload response draws prior)) "pilot"
    (some turn.conversation.interfaceNodeId) s!"{turn.action.idempotencyKey}:response"
    (draws.responseRecordedAt 0)
    fun _ => do
      let i ← get
      set (← EStateM.ofExcept (i.appendMessage (turn.interfaceMessage response draws)))

/-- `_complete_action`. -/
def completeAction (response : StructuredInterfaceResponse) (draws : TurnDraws) :
    SystemM InMemoryOperationalLedger ConversationActionReceipt := do
  let s ← get
  let prior := s.interface.sessionOf turn.conversation.conversationId
  let (_, result) ← record (turn.responseRecording response draws prior)
  let _ ← perform fun s : MemorySystem => s.tokenLab.observe
    (turnObservation turn.action response.pilotUsage draws.observedAt)
    turn.conversation.interfaceNodeId s!"{turn.action.idempotencyKey}:token-observation"
    draws.observationRecordedAt
  let session ← EStateM.ofExcept (InterfaceService.advancedSession prior
    turn.conversation.conversationId (turn.responsePayload response draws prior).pilotSessionId
    response.providerSessionId result.cursor)
  EStateM.zoom (modify fun i : InterfaceService =>
    { i with pilotSessions := i.pilotSessions.set session.pilotSessionId session })
  applyActions turn.conversation response.actions draws.appliedAt
  let receipt := turn.completedReceipt (turn.interfaceMessage response draws) result.cursor
  EStateM.zoom (modify fun i : InterfaceService =>
    { i with actionReceipts := i.actionReceipts.set turn.action.actionId receipt })
  return receipt

/-- The answer is checked and applied. -/
def respond (answer : Except VsmError StructuredInterfaceResponse) (draws : TurnDraws) :
    SystemM InMemoryOperationalLedger ConversationActionReceipt := do
  let response ← EStateM.ofExcept answer
  let s ← get
  EStateM.ofExcept (validateActions s.interface s.kernel response.actions draws.validatedAt)
  turn.completeAction response draws

/-- The receipt of a turn that failed. -/
def failedReceipt (e : VsmError) (cursor : Nat) : ConversationActionReceipt :=
  { turn.accepted with status := .failed, eventCursor := cursor, error := some e.text }

/-- The recording of a failure. -/
def failureRecording (e : VsmError) (draws : TurnDraws) : Recording InterfaceService :=
  InterfaceService.recording turn.ownerMessage.conversationId
    (.conversationActionFailed turn.action.actionId turn.actionDigest turn.ownerMessage.messageId
      e.text) "system" none s!"{turn.action.idempotencyKey}:failed" (draws.failedAt 0)
    fun result => modify fun i =>
      { i with
        actionReceipts := i.actionReceipts.set turn.action.actionId
          (turn.failedReceipt e result.cursor) }

/-- The handler of an exception that the Pilot, a check or the application raised. -/
def failAction (e : VsmError) (draws : TurnDraws) :
    SystemM InMemoryOperationalLedger ConversationActionReceipt := do
  let (_, result) ← record (turn.failureRecording e draws)
  return turn.failedReceipt e result.cursor

end OwnerTurn

/-- The part of `perform_owner_action` after the Pilot answered or raised. -/
def finishOwnerAction (turn : OwnerTurn) (answer : Except VsmError StructuredInterfaceResponse)
    (draws : TurnDraws) : SystemM InMemoryOperationalLedger ConversationActionReceipt :=
  tryCatch (turn.respond answer draws) fun e => turn.failAction e draws

/-- `perform_owner_action`, with a Pilot during whose call nothing else happens. -/
def performOwnerAction
    (pilot : String → InterfaceTurn → Except VsmError StructuredInterfaceResponse)
    (conversationId : String) (action : OwnerMessageAction) (deviceId : String)
    (newMessageId : Identifier) (clock : Clock) (draws : TurnDraws) :
    SystemM InMemoryOperationalLedger ConversationActionReceipt := do
  match ← beginOwnerAction conversationId action deviceId newMessageId clock with
  | .inl prior => return prior
  | .inr turn => finishOwnerAction turn (pilot action.text turn.context) draws

end Finish

end Nanihold
