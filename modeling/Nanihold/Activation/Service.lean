import Nanihold.Recording
import Mathlib.Data.Finset.Image

/-!
# The Activation service

The fail-closed commissioning state machine of `vsm.activation.service`. Each method is the
`Recording` it makes; the methods that return without recording say so.

## Main definitions

* `ActivationService` — the activation aggregate of a data space.
* `ActivationService.registerHistoryImport`, …, `ActivationService.approve` — the commands.
* `ActivationService.requireActive` — the gate the Kernel asks.
-/

namespace Nanihold

/-- The activation aggregate. -/
structure ActivationService where
  dataSpaceId : String
  state : ActivationState
  importReceipt : Option HistoryImportReceipt
  sessions : OrderedDict String HistorySession
  assessment : Option ReorientationAssessment
  approvedAt : Option DateTime
  version : Nat
  importEventCursor : Nat
  historyQueryOperations : Finset HistoryOperation
  historyQueryEventIds : Finset String
  reorientationPilotCalls : Nat
  reorientationInputTokens : Int
  reorientationOutputTokens : Int
  reorientationError : Option String
  reorientationAttemptInProgress : Bool
  reorientationAttemptStartedStreamVersion : Option Nat
  pendingReorientationRevisionReason : Option ReorientationRevisionReason
  workGraphSnapshotId : Option String
  reorientationConversationId : Option String
  reorientationProviderSessionId : Option String
  deriving DecidableEq

namespace ActivationService

def new (dataSpaceId : String) : ActivationService where
  dataSpaceId := dataSpaceId
  state := .uncommissioned
  importReceipt := none
  sessions := .empty
  assessment := none
  approvedAt := none
  version := 0
  importEventCursor := 0
  historyQueryOperations := ∅
  historyQueryEventIds := ∅
  reorientationPilotCalls := 0
  reorientationInputTokens := 0
  reorientationOutputTokens := 0
  reorientationError := none
  reorientationAttemptInProgress := false
  reorientationAttemptStartedStreamVersion := none
  pendingReorientationRevisionReason := none
  workGraphSnapshotId := none
  reorientationConversationId := none
  reorientationProviderSessionId := none

/-- The stream of the activation events. -/
def streamId (a : ActivationService) : String := "activation:" ++ afterColon a.dataSpaceId

instance : EventWriter ActivationService where
  dataSpaceId a := a.dataSpaceId
  version a _ := a.version
  advance a _ result := { a with version := result.streamVersion }

/-- `_record`: an event of the activation stream, followed by the assignments. -/
def recording (a : ActivationService) (payload : ActivationPayload) (actorType : String)
    (actorId : Option String) (idempotencyKey : String) (occurredAt : DateTime)
    (assign : EventEnvelope → AppendResult → ActivationService → ActivationService) :
    Recording ActivationService where
  streamId := a.streamId
  payload := .activation payload
  actorType := actorType
  actorId := actorId
  idempotencyKey := idempotencyKey
  correlationId := some a.streamId
  occurredAt := occurredAt
  update event result := modify (assign event result)

variable (a : ActivationService)

/-- `require_active`. -/
def requireActive (operation : String) : Except VsmError Unit :=
  require (a.state = .active)
    (operation ++ s!" is forbidden before owner-confirmed activation (state={a.state.value})")

/-- `register_history_import`. Registering the registered receipt again returns without
recording (`none`). The receipt's own model was validated when it was built. -/
def registerHistoryImport (receipt : HistoryImportReceipt)
    (reorientationConversationId actorId idempotencyKey : String) (clock : Clock) :
    Except VsmError (Option (Recording ActivationService)) := do
  if a.state ≠ .uncommissioned then
    require (a.importReceipt = some receipt)
      "history import is accepted only while uncommissioned"
    return none
  require (a.workGraphSnapshotId ≠ none) "current Work Graph must be imported before history"
  require (reorientationConversationId ≠ "") "reorientation requires a canonical Conversation"
  require (receipt.dataSpaceId = a.dataSpaceId) "history import DataSpace mismatch"
  require ((receipt.sources.map (·.sourceKind)).toFinset = requiredHistorySourceKinds)
    "history source coverage mismatch"
  let sessions := OrderedDict.ofList (receipt.sessions.map fun session =>
    (session.sessionRef, session))
  require (sessions.entries.length = receipt.sessionCount)
    "history session identities must be globally unique"
  return some <| a.recording
    (.historyImportVerified receipt reorientationConversationId .historyImported)
    "human" (some actorId) idempotencyKey (clock 0)
    fun _ result a =>
      { a with
        importReceipt := some receipt
        reorientationConversationId := some reorientationConversationId
        sessions := sessions
        state := .historyImported
        importEventCursor := result.cursor }

/-- The event with which an attempt starts: a first attempt after the import, a retry after a
failure, or a retry after the owner asked for a revision. -/
def startPayload : Except VsmError ActivationPayload :=
  match a.state, a.reorientationError, a.pendingReorientationRevisionReason with
  | .historyImported, _, _ => .ok (.reorientationStarted .reorientationOnly)
  | .reorientationOnly, some errorCode, _ =>
    .ok (.reorientationRetryStarted .reorientationOnly errorCode)
  | .reorientationOnly, none, some reason =>
    .ok (.reorientationRevisionRetryStarted .reorientationOnly reason)
  | _, _, _ =>
    .error (.invariantViolation "reorientation requires a verified history import")

/-- `start_reorientation`. -/
def startReorientation (actorId idempotencyKey : String) (clock : Clock) :
    Except VsmError (Recording ActivationService) := do
  require (a.reorientationAttemptInProgress = false)
    "a reorientation attempt is already in progress"
  let payload ← a.startPayload
  return a.recording payload "pilot" (some actorId) idempotencyKey (clock 0)
    fun event _ a =>
      { a with
        state := .reorientationOnly
        reorientationError := none
        pendingReorientationRevisionReason := none
        reorientationAttemptInProgress := true
        reorientationAttemptStartedStreamVersion := some event.streamVersion }

/-- The guard shared by the operations on a running attempt. -/
def requireAttempt (operation : String) : Except VsmError Unit := do
  require (a.state = .reorientationOnly) s!"{operation} requires reorientation-only state"
  require (a.reorientationAttemptInProgress = true)
    s!"{operation} requires an attempt in progress"

/-- What a failed or interrupted attempt leaves behind. -/
def closeAttempt (errorCode : String) : ActivationService :=
  { a with
    reorientationError := some errorCode
    pendingReorientationRevisionReason := none
    reorientationAttemptInProgress := false
    reorientationAttemptStartedStreamVersion := none }

/-- `record_reorientation_failure`. -/
def recordReorientationFailure (errorCode actorId idempotencyKey : String) (clock : Clock) :
    Except VsmError (Recording ActivationService) := do
  a.requireAttempt "reorientation failure"
  return a.recording (.reorientationFailed errorCode) "system" (some actorId) idempotencyKey
    (clock 0) fun _ _ a => a.closeAttempt errorCode

/-- `interrupt_reorientation_attempt`. -/
def interruptReorientationAttempt (reasonCode : ReorientationInterruptionReason)
    (actorId idempotencyKey : String) (clock : Clock) :
    Except VsmError (Recording ActivationService) := do
  a.requireAttempt "reorientation interruption"
  return a.recording (.reorientationAttemptInterrupted reasonCode) "system" (some actorId)
    idempotencyKey (clock 0) fun _ _ a => a.closeAttempt reasonCode.value

/-- `record_reorientation_session_checkpoint`. -/
def recordReorientationSessionCheckpoint (providerSessionId actorId idempotencyKey : String)
    (clock : Clock) : Except VsmError (Recording ActivationService) := do
  a.requireAttempt "reorientation session checkpoint"
  require (providerSessionId ≠ "")
    "reorientation session checkpoint requires a provider session"
  return a.recording (.reorientationSessionCheckpointed providerSessionId) "pilot"
    (some actorId) idempotencyKey (clock 0)
    fun _ _ a => { a with reorientationProviderSessionId := some providerSessionId }

/-- The claims of an assessment that must carry a citation. -/
def requiredClaims (assessment : ReorientationAssessment) : List String :=
  "understanding" ::
    ((List.range assessment.activeMissions.length).map (s!"active_missions:{·}") ++
      (List.range assessment.decisionsAndConstraints.length).map
        (s!"decisions_and_constraints:{·}"))

/-- `submit_assessment`. -/
def submitAssessment (assessment : ReorientationAssessment)
    (openCommitmentIds existingWorkItemIds : List String) (sessionIndexListedToEnd : Bool)
    (actorId idempotencyKey : String) (clock : Clock) :
    Except VsmError (Recording ActivationService) := do
  require (a.state = .reorientationOnly) "assessment requires reorientation-only state"
  require (a.reorientationAttemptInProgress = true)
    "assessment requires a reorientation attempt in progress"
  let receipt ← found a.importReceipt "assessment does not reference the verified import"
  require (assessment.importId = receipt.inventoryId)
    "assessment does not reference the verified import"
  require (some assessment.conversationId = a.reorientationConversationId)
    "assessment does not reference the imported canonical Conversation"
  require (assessment.coveredSessionIndexRef = receipt.sessionIndexRef)
    "assessment session index differs from verified import"
  require (assessment.coveredSessionCount = receipt.sessionCount)
    "assessment session count differs from verified import"
  require (sessionIndexListedToEnd = true)
    "assessment requires a complete list_sessions traversal"
  require (assessment.openCommitmentIds.toFinset = openCommitmentIds.toFinset)
    "assessment open commitments are incomplete or stale"
  require (existingWorkItemIds = [] ∨ assessment.resumeWorkItemIds ≠ [])
    "assessment must select at least one current WorkItem for resume"
  require (∀ workItemId ∈ assessment.resumeWorkItemIds, workItemId ∈ existingWorkItemIds)
    "assessment references an unknown resume WorkItem"
  require (a.importEventCursor ≤ assessment.historyCursor)
    "assessment history cursor predates verified import"
  require (assessment.historyCursor ≤ assessment.currentStateCursor)
    "current state must be read after history"
  require (HistoryOperation.getCurrentState ∈ a.historyQueryOperations)
    "assessment requires a current-state history query"
  require (∀ claim ∈ requiredClaims assessment, claim ∈ assessment.citations.map (·.claimRef))
    "assessment contains claims without evidence citations"
  require (∀ citation ∈ assessment.citations, citation.evidenceRef ∈ a.historyQueryEventIds)
    "assessment citations must reference audited history query results"
  return a.recording
    (.reorientationAssessmentAccepted assessment .awaitingOwnerConfirmation)
    "pilot" (some actorId) idempotencyKey (clock 0)
    fun _ _ a =>
      { a with
        assessment := some assessment
        state := .awaitingOwnerConfirmation
        pendingReorientationRevisionReason := none
        reorientationAttemptInProgress := false
        reorientationAttemptStartedStreamVersion := none }

/-- Who asks for a revision of an assessment. -/
inductive RevisionRequester where
  | owner | system
  deriving DecidableEq

/-- `request_assessment_revision`. -/
def requestAssessmentRevision (reasonCode : ReorientationRevisionReason)
    (requestedBy : RevisionRequester) (actorId idempotencyKey : String) (clock : Clock) :
    Except VsmError (Recording ActivationService) := do
  require (a.state = .awaitingOwnerConfirmation)
    "assessment revision requires awaiting-owner-confirmation state"
  let prior ← found a.assessment "assessment revision requires an accepted assessment"
  return a.recording
    (.reorientationAssessmentRevisionRequested prior.assessmentId reasonCode
      .reorientationOnly)
    (if requestedBy = .owner then "human" else "system") (some actorId) idempotencyKey (clock 0)
    fun _ _ a =>
      { a with
        assessment := none
        reorientationError := none
        pendingReorientationRevisionReason := some reasonCode
        reorientationAttemptInProgress := false
        reorientationAttemptStartedStreamVersion := none
        state := .reorientationOnly }

/-- `approve`. The approval time is read before the event's own time. -/
def approve (assessmentId actorId idempotencyKey : String) (clock : Clock) :
    Except VsmError (Recording ActivationService) := do
  require (a.state = .awaitingOwnerConfirmation) "activation requires owner confirmation"
  let assessment ← found a.assessment "owner confirmation references unknown assessment"
  require (assessment.assessmentId = assessmentId)
    "owner confirmation references unknown assessment"
  let approvedAt := clock 0
  return a.recording (.activationApproved assessmentId approvedAt .active) "human"
    (some actorId) idempotencyKey (clock 1)
    fun _ _ a => { a with approvedAt := some approvedAt, state := .active }

/-- `record_reorientation_usage`. -/
def recordReorientationUsage (inputTokens outputTokens : Int)
    (actorId idempotencyKey : String) (clock : Clock) :
    Except VsmError (Recording ActivationService) := do
  require (0 ≤ inputTokens ∧ 0 ≤ outputTokens)
    "reorientation token usage cannot be negative"
  require (a.state = .reorientationOnly ∧ a.reorientationAttemptInProgress = true)
    "reorientation usage requires an attempt in progress"
  return a.recording (.reorientationPilotUsageRecorded inputTokens outputTokens) "pilot"
    (some actorId) idempotencyKey (clock 0)
    fun _ _ a =>
      { a with
        reorientationPilotCalls := a.reorientationPilotCalls + 1
        reorientationInputTokens := a.reorientationInputTokens + inputTokens
        reorientationOutputTokens := a.reorientationOutputTokens + outputTokens }

end ActivationService

end Nanihold
