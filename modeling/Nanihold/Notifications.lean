import Nanihold.Kernel.Models

/-!
# Agent notifications

The payload shared by channel inbound delivery and agent-to-agent messages, as
`vsm.notifications` defines it. A notification is an auditable event first; the WorkItem it
may be promoted to is created by a second command.

## Main definitions

* `AgentNotification` — one addressed notification.
-/

namespace Nanihold

inductive NotificationSourceKind where
  | channelInbound | agentToAgent
  deriving DecidableEq

inductive NotificationPlatform where
  | discord | slack | internal
  deriving DecidableEq

inductive NotificationResolutionKind where
  | explicitMention | botReply | threadInheritance | agentAddress
  deriving DecidableEq

/-- One addressed notification. Promotion copies the record, so its validator is not a
field. -/
structure AgentNotification where
  notificationId : Identifier
  dataSpaceId : Identifier
  sourceKind : NotificationSourceKind
  sourcePlatform : NotificationPlatform
  sourceInstanceId : NonBlank
  sourceChannel : NonBlank
  sourceMessageId : NonBlank
  sourceObservationSubject : Option NonBlank
  senderActorId : NonBlank
  senderAgentName : Option NonBlank
  recipientAgentName : NonBlank
  body : String
  resolutionKind : NotificationResolutionKind
  requiresWorkItem : Bool
  relatedWorkItemId : Option Identifier
  relatedExecutionId : Option Identifier
  promotedWorkItemId : Option Identifier
  deriving DecidableEq

end Nanihold
