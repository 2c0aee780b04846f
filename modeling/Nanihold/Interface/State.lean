import Nanihold.Kernel.State

/-!
# Interface state and simple commands

The collections that `vsm.interface.service.InterfaceService` keeps for its conversations,
and the commands that record a single event: the creation of a conversation, the advance of
a reorientation session, the two materializations and an owner's correction.

## Main definitions

* `InterfaceService` — the state of the service.
* `InterfaceService.createConversation`, `InterfaceService.recordReorientationSession`,
  `InterfaceService.materializeHistoryCommitments`,
  `InterfaceService.materializeReorientationAssessment`,
  `InterfaceService.recordOwnerCorrection` — the commands.
-/

namespace Nanihold

structure InterfaceService where
  /-- The data space of the Kernel the service belongs to. -/
  dataSpaceId : String
  conversations : OrderedDict String Conversation
  surfaceBindings : OrderedDict String SurfaceBinding
  pilotSessions : OrderedDict String PilotSession
  messages : OrderedDict String (List ConversationMessage)
  commitments : OrderedDict String Commitment
  decisions : OrderedDict String Decision
  nodeMemories : OrderedDict String NodeMemory
  actionReceipts : OrderedDict String ConversationActionReceipt
  actionDigests : OrderedDict String String
  creationReceipts : OrderedDict String ConversationCreatedReceipt
  creationDigests : OrderedDict String String
  conversationCursors : OrderedDict String Nat
  versions : OrderedDict String Nat
  deriving DecidableEq

namespace InterfaceService

def new (dataSpaceId : String) : InterfaceService where
  dataSpaceId := dataSpaceId
  conversations := .empty
  surfaceBindings := .empty
  pilotSessions := .empty
  messages := .empty
  commitments := .empty
  decisions := .empty
  nodeMemories := .empty
  actionReceipts := .empty
  actionDigests := .empty
  creationReceipts := .empty
  creationDigests := .empty
  conversationCursors := .empty
  versions := .empty

instance : EventWriter InterfaceService where
  dataSpaceId i := i.dataSpaceId
  version i conversationId := i.versions.getD conversationId 0
  advance i conversationId result :=
    { i with
      versions := i.versions.set conversationId result.streamVersion
      conversationCursors := i.conversationCursors.set conversationId result.cursor }

/-- `_record`: an event of a conversation's stream, followed by assignments. -/
def recording (conversationId : String) (payload : InterfacePayload) (actorType : String)
    (actorId : Option String) (idempotencyKey : String) (occurredAt : DateTime)
    (update : AppendResult → EStateM VsmError InterfaceService Unit) :
    Recording InterfaceService where
  streamId := conversationId
  payload := .interface payload
  actorType := actorType
  actorId := actorId
  idempotencyKey := idempotencyKey
  correlationId := some conversationId
  occurredAt := occurredAt
  update _ result := update result

/-- The messages of a conversation with one more at the end; a `KeyError` when the
conversation has no message list. -/
def appendMessage (i : InterfaceService) (message : ConversationMessage) :
    Except VsmError InterfaceService := do
  let messages ← entry (i.messages.get? message.conversationId) message.conversationId
  return { i with messages := i.messages.set message.conversationId (messages ++ [message]) }

/-- The first Pilot session of a conversation. -/
def sessionOf (i : InterfaceService) (conversationId : String) : Option PilotSession :=
  i.pilotSessions.values.find? (·.conversationId = conversationId)

/-- `PilotSession(…)`, with the checks of its data model. -/
def buildPilotSession (pilotSessionId conversationId rootProviderSessionId
    providerSessionId : String) (lastEventCursor : Nat) : Except VsmError PilotSession :=
  if isIdentifier pilotSessionId && isIdentifier conversationId &&
      isNonBlank rootProviderSessionId && isNonBlank providerSessionId then
    .ok
      { pilotSessionId := pilotSessionId
        conversationId := conversationId
        pilotId := "pilot:interface"
        rootProviderSessionId := rootProviderSessionId
        providerSessionId := providerSessionId
        lastEventCursor := lastEventCursor }
  else .error (.validationError "PilotSession")

variable [Sha256] (i : InterfaceService)

/-! ### Conversations -/

/-- `create_conversation`. A repeated request is answered with the first receipt. -/
def createConversation (k : Kernel) (conversation : Conversation)
    (surfaceBinding : SurfaceBinding) (idempotencyKey : String) (clock : Clock) :
    Except VsmError (ConversationCreatedReceipt ⊕ Recording InterfaceService) := do
  let digest := hexdigest (.conversationRequest conversation surfaceBinding)
  if let some prior := i.creationReceipts.get? idempotencyKey then
    let priorDigest ← entry (i.creationDigests.get? idempotencyKey) idempotencyKey
    require (priorDigest = digest) "conversation idempotency collision"
    return .inl prior
  let node ← found (k.nodes.get? conversation.interfaceNodeId)
    "conversation requires an owner Interface Node"
  require (node.kind = .interface) "conversation requires an owner Interface Node"
  require (conversation.dataSpaceId = k.dataSpace.dataSpaceId) "Conversation DataSpace mismatch"
  require (surfaceBinding.conversationId = conversation.conversationId)
    "SurfaceBinding Conversation mismatch"
  require (i.conversations.contains conversation.conversationId = false)
    "Conversation already exists"
  require (i.surfaceBindings.contains surfaceBinding.bindingId = false)
    "SurfaceBinding already exists"
  return .inr <| recording conversation.conversationId
    (.conversationCreated conversation surfaceBinding digest) "human"
    (some conversation.ownerId) idempotencyKey (clock 0)
    fun result => modify fun i =>
      { i with
        conversations := i.conversations.set conversation.conversationId conversation
        surfaceBindings := i.surfaceBindings.set surfaceBinding.bindingId surfaceBinding
        messages := i.messages.set conversation.conversationId []
        creationReceipts := i.creationReceipts.set idempotencyKey
          ⟨conversation.conversationId, surfaceBinding.bindingId, result.cursor⟩
        creationDigests := i.creationDigests.set idempotencyKey digest }

/-! ### Reorientation -/

omit [Sha256] in
/-- `record_reorientation_session`. The session record is built after the event was
appended. -/
def recordReorientationSession (conversationId providerSessionId actorId
    idempotencyKey : String) (newSessionId : Identifier) (clock : Clock) :
    Except VsmError (Recording InterfaceService) := do
  require (i.conversations.contains conversationId = true)
    "reorientation requires an existing canonical Conversation"
  let existing := i.sessionOf conversationId
  let pilotSessionId := (existing.map (·.pilotSessionId)).getD newSessionId
  let rootProviderSessionId := (existing.map (·.rootProviderSessionId)).getD providerSessionId
  return recording conversationId
    (.reorientationSessionAdvanced pilotSessionId rootProviderSessionId providerSessionId)
    "pilot" (some actorId) idempotencyKey (clock 0)
    fun result => do
      let session ← EStateM.ofExcept (buildPilotSession pilotSessionId conversationId
        rootProviderSessionId providerSessionId result.cursor)
      modify fun i => { i with pilotSessions := i.pilotSessions.set pilotSessionId session }

/-- One commitment of a materialized batch: it must not contradict a commitment that is
already known under its identity. -/
def storeCommitment (commitment : Commitment) : EStateM VsmError InterfaceService Unit := do
  let i ← get
  EStateM.ofExcept <| require
    (∀ known ∈ i.commitments.get? commitment.commitmentId, known = commitment)
    "history commitment identity collision"
  modify fun i =>
    { i with commitments := i.commitments.set commitment.commitmentId commitment }

omit [Sha256] in
/-- `materialize_history_commitments`. The comparison with the known commitments follows the
append. -/
def materializeHistoryCommitments (conversationId : String) (commitments : List Commitment)
    (historyResultEventIds : List String) (actorId idempotencyKey : String) (clock : Clock) :
    Except VsmError (Recording InterfaceService) := do
  require (i.conversations.contains conversationId = true)
    "history commitment materialization needs Conversation"
  require (commitments.map (·.commitmentId)).Nodup "history commitment identities must be unique"
  require (∀ item ∈ commitments, item.conversationId = conversationId)
    "history commitment Conversation mismatch"
  return recording conversationId
    (.historyCommitmentsMaterialized commitments historyResultEventIds)
    "system" (some actorId) idempotencyKey (clock 0)
    fun _ => commitments.forM storeCommitment

/-- The decisions that an assessment's constraints become, with the identities drawn for
them. -/
def assessmentDecisions (assessment : ReorientationAssessment) (conversationId : String)
    (newDecisionId : Nat → Identifier) : List Decision :=
  assessment.decisionsAndConstraints.mapIdx fun index statement =>
    { decisionId := newDecisionId index
      conversationId := conversationId
      statement := statement
      supersedesDecisionId := none }

/-- `materialize_reorientation_assessment`, with the identities it draws. A node memory holds
512 characters, an assessment's understanding up to 1200. -/
def materializeReorientationAssessment (assessment : ReorientationAssessment)
    (actorId idempotencyKey : String) (newMemoryId : Identifier)
    (newDecisionId : Nat → Identifier) (clock : Clock) :
    Except VsmError (Recording InterfaceService) := do
  let conversation ← found (i.conversations.get? assessment.conversationId)
    "reorientation assessment Conversation not found"
  if !isNonBlank assessment.understanding then
    throw (.validationError "NodeMemory")
  let memory : NodeMemory :=
    { memoryId := newMemoryId
      nodeId := conversation.interfaceNodeId
      statement := assessment.understanding
      sourceBlobRef := blobRef (.assessment assessment) }
  let decisions := assessmentDecisions assessment conversation.conversationId newDecisionId
  return recording conversation.conversationId
    (.reorientationAssessmentMaterialized assessment.assessmentId memory decisions)
    "pilot" (some actorId) idempotencyKey (clock 0)
    fun _ => modify fun i =>
      { i with
        nodeMemories := i.nodeMemories.set memory.memoryId memory
        decisions := i.decisions.update (decisions.map fun decision =>
          (decision.decisionId, decision)) }

omit [Sha256] in
/-- `record_owner_correction`. -/
def recordOwnerCorrection (conversationId statement actorId idempotencyKey : String)
    (newDecisionId : Identifier) (clock : Clock) :
    Except VsmError (Recording InterfaceService) := do
  require (i.conversations.contains conversationId = true) "Conversation not found"
  if !isNonBlank statement then
    throw (.validationError "Decision")
  let decision : Decision := ⟨newDecisionId, conversationId, statement, none⟩
  return recording conversationId (.ownerCorrectionRecorded decision) "human" (some actorId)
    idempotencyKey (clock 0)
    fun _ => modify fun i =>
      { i with decisions := i.decisions.set decision.decisionId decision }

end InterfaceService

end Nanihold
