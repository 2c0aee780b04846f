import Nanihold.AgentNaming
import Nanihold.EnvironmentInstance.Models
import Nanihold.Notifications
import Nanihold.Pilot.Models
import Nanihold.Routing.Evidence
import Nanihold.TokenLab.Lab

/-!
# Events

The envelope of every event in the Operational Ledger and the payloads each service writes.
A payload is typed data: writing a record as JSON and validating it again gives the record
back. The event type is a function of the payload.

## Main definitions

* `KernelPayload`, `ActivationPayload`, `OwnerAuthPayload`, `InterfacePayload`,
  `TokenLabPayload`, `EnvironmentPayload` — one family for each service.
* `EventPayload` — their sum, with `EventPayload.eventType`.
* `EventEnvelope`, `StoredEvent` — an event, and an event at its cursor in the ledger.
-/

namespace Nanihold

/-- A JSON object that is stored and never inspected, as its canonical text. -/
abbrev JsonObject := String

/-- The body of `pilot_execution_receipt_recorded`. -/
structure PilotExecutionReceiptPayload where
  receiptId : String
  executionId : Identifier
  workItemId : Identifier
  assignmentId : Option Identifier
  receiptStatus : String
  requestedModel : Option String
  actualModel : Option String
  providerSessionId : Option String
  usage : Option JsonObject
  result : Option JsonObject
  error : Option JsonObject
  state : ExecutionState
  pauseReason : Option String
  agentName : Option NonBlank
  deriving DecidableEq

/-- The payloads the Kernel writes. -/
inductive KernelPayload where
  | nodeRegistered (node : UVSMNode)
  | capabilityGranted (grant : CapabilityGrant)
  | workItemCreated (workItem : WorkItem)
  | workDependencyAdded (edge : WorkEdge)
  | currentWorkGraphImported (snapshot : CurrentWorkGraphSnapshot)
  | workItemDelegated (delegatedToNodeId : String)
  | workItemResumePrepared (state : WorkState)
  | executionCreated (execution : Execution)
  | agentNotificationDelivered (notification : AgentNotification)
  | agentNotificationPromoted (notificationId : String) (workItemId : Identifier)
  | agentNameAssigned (assignment : AgentNameAssignment)
  | agentIdentityRegistered (registration : AgentIdentityRegistration)
  | executionStateChanged (state : ExecutionState) (pauseReason : Option String)
  | pilotExecutionReceiptRecorded (receipt : PilotExecutionReceiptPayload)
  | budgetReserved (reservation : BudgetReservation)
  | effectPlanned (effectLease : EffectLease)
  | effectApproved (approval : EffectApproval)
  | effectActivated (state : EffectLeaseState)
  | effectResultUnknown (state : EffectLeaseState) (effectIdempotencyKey : NonBlank)
  | effectReconciled (state : EffectLeaseState) (effectIdempotencyKey : NonBlank)
  | humanIntervention (reason : String)
  | s3StarFindingRecorded (finding : S3StarFinding)
  | s3StarRiskAccepted (findingId s5NodeId rationale : String)
  | workItemCompleted (completionEvidence : CompletionEvidence)
  | pilotHostDisconnected (pilotHostId : String)
  | referenceGranted (referenceGrant : ReferenceGrant)
  | routeSnapshotRegistered (routeSnapshot : RouteSnapshot)
  | routeSnapshotApproved (approval : String) (state : RouteSnapshotState)
  | routeSnapshotPublished (state : RouteSnapshotState)
  | routeSnapshotRetired (reasonCode : RouteSnapshotRetirementReason)
      (replacementSnapshotId : Option String) (state : RouteSnapshotState)
  deriving DecidableEq

def KernelPayload.eventType : KernelPayload → String
  | .nodeRegistered _ => "node_registered"
  | .capabilityGranted _ => "capability_granted"
  | .workItemCreated _ => "work_item_created"
  | .workDependencyAdded _ => "work_dependency_added"
  | .currentWorkGraphImported _ => "current_work_graph_imported"
  | .workItemDelegated _ => "work_item_delegated"
  | .workItemResumePrepared _ => "work_item_resume_prepared"
  | .executionCreated _ => "execution_created"
  | .agentNotificationDelivered _ => "agent_notification_delivered"
  | .agentNotificationPromoted _ _ => "agent_notification_promoted"
  | .agentNameAssigned _ => "agent_name_assigned"
  | .agentIdentityRegistered _ => "agent_identity_registered"
  | .executionStateChanged _ _ => "execution_state_changed"
  | .pilotExecutionReceiptRecorded _ => "pilot_execution_receipt_recorded"
  | .budgetReserved _ => "budget_reserved"
  | .effectPlanned _ => "effect_planned"
  | .effectApproved _ => "effect_approved"
  | .effectActivated _ => "effect_activated"
  | .effectResultUnknown _ _ => "effect_result_unknown"
  | .effectReconciled _ _ => "effect_reconciled"
  | .humanIntervention _ => "human_intervention"
  | .s3StarFindingRecorded _ => "s3_star_finding_recorded"
  | .s3StarRiskAccepted _ _ _ => "s3_star_risk_accepted"
  | .workItemCompleted _ => "work_item_completed"
  | .pilotHostDisconnected _ => "pilot_host_disconnected"
  | .referenceGranted _ => "reference_granted"
  | .routeSnapshotRegistered _ => "route_snapshot_registered"
  | .routeSnapshotApproved _ _ => "route_snapshot_approved"
  | .routeSnapshotPublished _ => "route_snapshot_published"
  | .routeSnapshotRetired _ _ _ => "route_snapshot_retired"

/-- The payloads the Activation service and the history tools write. -/
inductive ActivationPayload where
  | historyImportVerified (receipt : HistoryImportReceipt)
      (reorientationConversationId : String) (state : ActivationState)
  | reorientationStarted (state : ActivationState)
  | reorientationRetryStarted (state : ActivationState) (priorErrorCode : String)
  | reorientationRevisionRetryStarted (state : ActivationState)
      (revisionReasonCode : ReorientationRevisionReason)
  | reorientationFailed (errorCode : String)
  | reorientationAttemptInterrupted (reasonCode : ReorientationInterruptionReason)
  | reorientationSessionCheckpointed (providerSessionId : String)
  | historyQueryResolved (actionId : Identifier) (operation : HistoryOperation)
      (argument pageCursor nextCursor : Option NonBlank) (sourceCursor : NonBlank)
      (resultBlobRef resultSha256 : String)
  | historySessionIndexPageVerified (pageCursor nextCursor : Option NonBlank)
      (resultBlobRef resultSha256 : String)
  | reorientationPilotUsageRecorded (inputTokens outputTokens : Int)
  | reorientationAssessmentAccepted (assessment : ReorientationAssessment)
      (state : ActivationState)
  | reorientationAssessmentRevisionRequested (priorAssessmentId : Identifier)
      (reasonCode : ReorientationRevisionReason) (state : ActivationState)
  | activationApproved (assessmentId : String) (approvedAt : DateTime) (state : ActivationState)
  deriving DecidableEq

def ActivationPayload.eventType : ActivationPayload → String
  | .historyImportVerified _ _ _ => "history_import_verified"
  | .reorientationStarted _ => "reorientation_started"
  | .reorientationRetryStarted _ _ => "reorientation_retry_started"
  | .reorientationRevisionRetryStarted _ _ => "reorientation_revision_retry_started"
  | .reorientationFailed _ => "reorientation_failed"
  | .reorientationAttemptInterrupted _ => "reorientation_attempt_interrupted"
  | .reorientationSessionCheckpointed _ => "reorientation_session_checkpointed"
  | .historyQueryResolved _ _ _ _ _ _ _ _ => "history_query_resolved"
  | .historySessionIndexPageVerified _ _ _ _ => "history_session_index_page_verified"
  | .reorientationPilotUsageRecorded _ _ => "reorientation_pilot_usage_recorded"
  | .reorientationAssessmentAccepted _ _ => "reorientation_assessment_accepted"
  | .reorientationAssessmentRevisionRequested _ _ _ =>
    "reorientation_assessment_revision_requested"
  | .activationApproved _ _ _ => "activation_approved"

structure BootstrapCodeRecord where
  bootstrapId : Identifier
  ownerId : Identifier
  codeSha256 : String
  issuedAt : DateTime
  expiresAt : DateTime
  usedAt : Option DateTime
  deriving DecidableEq

inductive BrowserSessionState where
  | active | revoked
  deriving DecidableEq

structure BrowserSessionRecord where
  sessionId : Identifier
  ownerId : Identifier
  deviceId : NonBlank
  tokenSha256 : String
  issuedAt : DateTime
  expiresAt : DateTime
  state : BrowserSessionState
  deriving DecidableEq

/-- The payloads the owner bootstrap writes; only token digests enter the ledger. -/
inductive OwnerAuthPayload where
  | ownerBootstrapIssued (record : BootstrapCodeRecord)
  | ownerBootstrapExchanged (bootstrapId : Identifier) (usedAt : DateTime)
      (session : BrowserSessionRecord)
  deriving DecidableEq

def OwnerAuthPayload.eventType : OwnerAuthPayload → String
  | .ownerBootstrapIssued _ => "owner_bootstrap_issued"
  | .ownerBootstrapExchanged _ _ _ => "owner_bootstrap_exchanged"

inductive ContextMode where
  | resumePack | providerDelta
  deriving DecidableEq

/-- The body of `interface_response_recorded`. -/
structure InterfaceResponsePayload where
  actionId : Identifier
  actionDigest : String
  ownerMessageId : Identifier
  message : ConversationMessage
  actions : List InterfaceAction
  pilotSessionId : Identifier
  rootProviderSessionId : NonBlank
  providerSessionId : NonBlank
  pilotUsage : InterfacePilotUsage
  contextMode : ContextMode
  deriving DecidableEq

/-- The payloads the Interface service writes, and those of the legacy import. -/
inductive InterfacePayload where
  | conversationCreated (conversation : Conversation) (surfaceBinding : SurfaceBinding)
      (requestDigest : String)
  | ownerMessageReceived (actionId : Identifier) (actionDigest : String)
      (message : ConversationMessage)
  | interfaceResponseRecorded (response : InterfaceResponsePayload)
  | reorientationSessionAdvanced (pilotSessionId : Identifier)
      (rootProviderSessionId providerSessionId : String)
  | historyCommitmentsMaterialized (commitments : List Commitment)
      (historyResultEventIds : List String)
  | reorientationAssessmentMaterialized (assessmentId : Identifier) (memory : NodeMemory)
      (decisions : List Decision)
  | conversationActionFailed (actionId : Identifier) (actionDigest : String)
      (ownerMessageId : Identifier) (error : String)
  | ownerCorrectionRecorded (decision : Decision)
  | legacyConversationCreated (conversation : Conversation)
  | legacyConversationMessageImported (message : ConversationMessage) (rawBlobRef : String)
  | legacyDecisionImported (decision : Decision) (rawBlobRef : String)
  | legacyCommitmentImported (commitment : Commitment) (rawBlobRef : String)
  | legacyNodeMemoryImported (memory : NodeMemory)
  deriving DecidableEq

def InterfacePayload.eventType : InterfacePayload → String
  | .conversationCreated _ _ _ => "conversation_created"
  | .ownerMessageReceived _ _ _ => "owner_message_received"
  | .interfaceResponseRecorded _ => "interface_response_recorded"
  | .reorientationSessionAdvanced _ _ _ => "reorientation_session_advanced"
  | .historyCommitmentsMaterialized _ _ => "history_commitments_materialized"
  | .reorientationAssessmentMaterialized _ _ _ => "reorientation_assessment_materialized"
  | .conversationActionFailed _ _ _ _ => "conversation_action_failed"
  | .ownerCorrectionRecorded _ => "owner_correction_recorded"
  | .legacyConversationCreated _ => "legacy_conversation_created"
  | .legacyConversationMessageImported _ _ => "legacy_conversation_message_imported"
  | .legacyDecisionImported _ _ => "legacy_decision_imported"
  | .legacyCommitmentImported _ _ => "legacy_commitment_imported"
  | .legacyNodeMemoryImported _ => "legacy_node_memory_imported"

/-- The payloads the Token Lab writes. -/
inductive TokenLabPayload where
  | tokenBaselineApproved (baseline : TokenBaseline)
  | tokenObservationRecorded (observation : TokenObservation)
      (triggers : List InvestigationTrigger)
  | tokenWeeklyReviewRecorded (reviewedAt : DateTime)
  deriving DecidableEq

def TokenLabPayload.eventType : TokenLabPayload → String
  | .tokenBaselineApproved _ => "token_baseline_approved"
  | .tokenObservationRecorded _ _ => "token_observation_recorded"
  | .tokenWeeklyReviewRecorded _ => "token_weekly_review_recorded"

/-- The payload the routing evidence service writes. -/
inductive RoutingPayload where
  | modelOutcomeVerified (outcome : VerifiedRouteOutcome)
  deriving DecidableEq

def RoutingPayload.eventType : RoutingPayload → String
  | .modelOutcomeVerified _ => "model_outcome_verified"

/-- The payloads the environment instance lifecycle writes. -/
inductive EnvironmentPayload where
  | environmentInstanceRegistered (environmentInstance : EnvironmentInstance)
      (environmentFingerprint instanceFingerprint : String)
  | environmentInstanceVerified (environmentInstance : EnvironmentInstance)
      (preflightEvidence : PreflightEvidence)
  | environmentInstancePreflightVerified (environmentInstance : EnvironmentInstance)
      (preflightEvidence : PreflightEvidence)
  | environmentInstanceActivated (environmentInstance : EnvironmentInstance)
  | environmentInstanceRetired (environmentInstance : EnvironmentInstance)
  | environmentInstanceFailedOver (environmentFingerprint failedInstanceId
      failedInstanceFingerprint replacementInstanceId replacementInstanceFingerprint : String)
  | environmentInstanceReprovisionRequested (environmentFingerprint failedInstanceId
      failedInstanceFingerprint : String)
  deriving DecidableEq

def EnvironmentPayload.eventType : EnvironmentPayload → String
  | .environmentInstanceRegistered _ _ _ => "environment_instance_registered"
  | .environmentInstanceVerified _ _ => "environment_instance_verified"
  | .environmentInstancePreflightVerified _ _ => "environment_instance_preflight_verified"
  | .environmentInstanceActivated _ => "environment_instance_activated"
  | .environmentInstanceRetired _ => "environment_instance_retired"
  | .environmentInstanceFailedOver _ _ _ _ _ => "environment_instance_failed_over"
  | .environmentInstanceReprovisionRequested _ _ _ =>
    "environment_instance_reprovision_requested"

/-- The events that LETHE itself writes on its reserved history streams. -/
inductive ExternalPayload where
  | historyMessageImported
  | historyImportCompleted
  deriving DecidableEq

def ExternalPayload.eventType : ExternalPayload → String
  | .historyMessageImported => "history.message_imported"
  | .historyImportCompleted => "history.import_completed"

/-- `LETHE_EXTERNAL_EVENT_STREAM_PREFIXES`. -/
def ExternalPayload.streamPrefix : ExternalPayload → String
  | .historyMessageImported => "history-message:"
  | .historyImportCompleted => "history-import:"

/-! ### Envelopes -/

/-- The payload of an event, by the service that writes it. -/
inductive EventPayload where
  | kernel (payload : KernelPayload)
  | activation (payload : ActivationPayload)
  | ownerAuth (payload : OwnerAuthPayload)
  | interface (payload : InterfacePayload)
  | tokenLab (payload : TokenLabPayload)
  | routing (payload : RoutingPayload)
  | environment (payload : EnvironmentPayload)
  | external (payload : ExternalPayload)
  deriving DecidableEq

def EventPayload.eventType : EventPayload → String
  | .kernel payload => payload.eventType
  | .activation payload => payload.eventType
  | .ownerAuth payload => payload.eventType
  | .interface payload => payload.eventType
  | .tokenLab payload => payload.eventType
  | .routing payload => payload.eventType
  | .environment payload => payload.eventType
  | .external payload => payload.eventType

inductive ActorType where
  | human | kernel | pilot | system
  deriving DecidableEq

/-- The literal of an actor type; other strings are refused. -/
def ActorType.ofString? : String → Option ActorType
  | "human" => some .human
  | "kernel" => some .kernel
  | "pilot" => some .pilot
  | "system" => some .system
  | _ => none

/-- An event as it is handed to a ledger. -/
structure EventEnvelope where
  eventId : Identifier
  dataSpaceId : Identifier
  streamId : Identifier
  streamVersion : Nat
  occurredAt : DateTime
  actorType : ActorType
  actorId : Option Identifier
  correlationId : Option Identifier
  causationId : Option Identifier
  idempotencyKey : NonBlank
  payload : EventPayload
  deriving DecidableEq

/-- The type of an event. -/
def EventEnvelope.eventType (event : EventEnvelope) : String := event.payload.eventType

structure StoredEvent where
  cursor : Nat
  event : EventEnvelope
  deriving DecidableEq

inductive AppendOutcome where
  | appended | duplicate
  deriving DecidableEq

structure AppendResult where
  outcome : AppendOutcome
  cursor : Nat
  streamVersion : Nat
  deriving DecidableEq

end Nanihold
