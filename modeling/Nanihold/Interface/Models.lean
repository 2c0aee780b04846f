import Nanihold.Activation.Models

/-!
# Interface data models

The records of `vsm.interface.models`: conversations and their surfaces, messages and action
receipts, the actions a Pilot may request, and what a conversation accumulates.

## Main definitions

* `Conversation`, `SurfaceBinding`, `PilotSession` — a conversation and who may speak in it.
* `ConversationMessage`, `ConversationActionReceipt` — what was said and what became of it.
* `InterfaceAction` — the actions of a Pilot's response.
* `Decision`, `Commitment`, `NodeMemory` — what a conversation accumulates.
-/

namespace Nanihold

inductive Surface where
  | web | tui | claudeNative | slack | discord | intercom | codex
  deriving DecidableEq

structure Conversation where
  conversationId : Identifier
  dataSpaceId : Identifier
  interfaceNodeId : Identifier
  ownerId : Identifier
  title : NonBlank
  deriving DecidableEq

structure SurfaceBinding where
  bindingId : Identifier
  conversationId : Identifier
  surface : Surface
  sourceSessionId : NonBlank
  channelId : NonBlank
  deviceId : NonBlank
  deriving DecidableEq

structure PilotSession where
  pilotSessionId : Identifier
  conversationId : Identifier
  pilotId : Identifier
  rootProviderSessionId : NonBlank
  providerSessionId : NonBlank
  lastEventCursor : Nat
  deriving DecidableEq

structure MessageSource where
  surface : Surface
  sourceSessionId : NonBlank
  sourceMessageId : NonBlank
  authorId : NonBlank
  channelId : NonBlank
  occurredAt : DateTime
  deriving DecidableEq

structure OwnerMessageAction where
  actionId : Identifier
  idempotencyKey : NonBlank
  text : NonBlank
  source : MessageSource
  deriving DecidableEq

inductive MessageRole where
  | owner | interface
  deriving DecidableEq

structure ConversationMessage where
  messageId : Identifier
  conversationId : Identifier
  role : MessageRole
  displayText : Option String
  blobRef : Option String
  occurredAt : DateTime
  source : Option MessageSource
  deriving DecidableEq

inductive ReceiptStatus where
  | accepted | completed | failed
  deriving DecidableEq

structure ConversationActionReceipt where
  actionId : Identifier
  conversationId : Identifier
  status : ReceiptStatus
  ownerMessageId : Identifier
  interfaceMessage : Option ConversationMessage
  eventCursor : Nat
  error : Option String
  deriving DecidableEq

structure ConversationCreatedReceipt where
  conversationId : Identifier
  surfaceBindingId : Identifier
  eventCursor : Nat
  deriving DecidableEq

/-! ### Actions of a response -/

inductive CommitmentState where
  | open | satisfied | withdrawn
  deriving DecidableEq

inductive HistoryOperation where
  | listSessions | readTimeline | readRaw | search | resolveReference | listOpenCommitments
  | getCurrentState
  deriving DecidableEq

/-- The value of the literal. -/
def HistoryOperation.value : HistoryOperation → String
  | .listSessions => "list_sessions"
  | .readTimeline => "read_timeline"
  | .readRaw => "read_raw"
  | .search => "search"
  | .resolveReference => "resolve_reference"
  | .listOpenCommitments => "list_open_commitments"
  | .getCurrentState => "get_current_state"

structure CreateWorkItemAction where
  actionId : Identifier
  workItem : WorkItem
  dependsOnWorkItemIds : List Identifier
  deriving DecidableEq

structure DelegateWorkItemAction where
  actionId : Identifier
  workItemId : Identifier
  delegatedToNodeId : Identifier
  deriving DecidableEq

structure RecordDecisionAction where
  actionId : Identifier
  statement : NonBlank
  supersedesDecisionId : Option Identifier
  deriving DecidableEq

structure UpdateCommitmentAction where
  actionId : Identifier
  commitmentId : Identifier
  statement : NonBlank
  workItemId : Option Identifier
  state : CommitmentState
  deriving DecidableEq

structure ReadHistoryAction where
  actionId : Identifier
  operation : HistoryOperation
  argument : Option NonBlank
  pageCursor : Option NonBlank
  deriving DecidableEq

structure SubmitReorientationAction where
  actionId : Identifier
  assessment : ReorientationAssessment
  deriving DecidableEq

structure SelectPilotAction where
  actionId : Identifier
  workItemId : Identifier
  routeKey : NonBlank
  deriving DecidableEq

structure PlanEffectAction where
  actionId : Identifier
  effectLease : EffectLease
  deriving DecidableEq

structure ProposeCompletionAction where
  actionId : Identifier
  workItemId : Identifier
  evidence : CompletionEvidence
  deriving DecidableEq

/-- One action of a Pilot's response, told apart by its kind. -/
inductive InterfaceAction where
  | createWorkItem (action : CreateWorkItemAction)
  | delegateWorkItem (action : DelegateWorkItemAction)
  | recordDecision (action : RecordDecisionAction)
  | updateCommitment (action : UpdateCommitmentAction)
  | readHistory (action : ReadHistoryAction)
  | submitReorientation (action : SubmitReorientationAction)
  | selectPilot (action : SelectPilotAction)
  | planEffect (action : PlanEffectAction)
  | proposeCompletion (action : ProposeCompletionAction)
  deriving DecidableEq

namespace InterfaceAction

def actionId : InterfaceAction → Identifier
  | .createWorkItem action => action.actionId
  | .delegateWorkItem action => action.actionId
  | .recordDecision action => action.actionId
  | .updateCommitment action => action.actionId
  | .readHistory action => action.actionId
  | .submitReorientation action => action.actionId
  | .selectPilot action => action.actionId
  | .planEffect action => action.actionId
  | .proposeCompletion action => action.actionId

/-- The literal that tells the action apart. -/
def kind : InterfaceAction → String
  | .createWorkItem _ => "work_item.create"
  | .delegateWorkItem _ => "work_item.delegate"
  | .recordDecision _ => "decision.record"
  | .updateCommitment _ => "commitment.update"
  | .readHistory _ => "history.read"
  | .submitReorientation _ => "reorientation.submit"
  | .selectPilot _ => "pilot.select"
  | .planEffect _ => "effect.plan"
  | .proposeCompletion _ => "completion.propose"

end InterfaceAction

/-! ### What a conversation accumulates -/

structure Commitment where
  commitmentId : Identifier
  conversationId : Identifier
  statement : NonBlank
  workItemId : Option Identifier
  state : CommitmentState
  deriving DecidableEq

structure Decision where
  decisionId : Identifier
  conversationId : Identifier
  statement : NonBlank
  supersedesDecisionId : Option Identifier
  deriving DecidableEq

structure NodeMemory where
  memoryId : Identifier
  nodeId : Identifier
  statement : NonBlank
  sourceBlobRef : String
  deriving DecidableEq

end Nanihold
