import Nanihold.Interface.Models
import Nanihold.Library.OrderedDict

/-!
# Pilot data models

What the Interface service hands to the Interface Pilot at one owner turn, and what the Pilot
answers, as `vsm.pilot.models` defines them.

## Main definitions

* `EventDeltaSummary`, `InterfaceResumePack`, `InterfaceTurn` — the context of one turn.
* `InterfacePilotUsage`, `StructuredInterfaceResponse` — the answer and what it cost.
* `ModelCandidate` — a model that work may be routed to.
-/

namespace Nanihold

/-- A model that work may be routed to. The key names its adapter and digests all its fields; a
provider may choose the snapshot itself. -/
structure ModelCandidate where
  key : NonBlank
  provider : NonBlank
  modelSnapshot : Option NonBlank
  deriving DecidableEq

/-- What happened in the ledger after one cursor and through another. -/
structure EventDeltaSummary where
  afterCursor : Nat
  throughCursor : Nat
  eventCount : Nat
  eventTypeCounts : OrderedDict String Nat
  changedStreamIds : List Identifier
  deriving DecidableEq

/-- What a Pilot without a provider session needs to take up a conversation. -/
structure InterfaceResumePack where
  nodeMemory : List NodeMemory
  unfinishedWorkItems : List WorkItem
  openCommitments : List Commitment
  activeDecisions : List Decision
  deriving DecidableEq

structure InterfaceTurn where
  ownerMessageBlobRef : String
  eventDelta : EventDeltaSummary
  resumePack : Option InterfaceResumePack
  providerSessionId : Option NonBlank
  deriving DecidableEq

structure InterfacePilotUsage where
  candidateKey : NonBlank
  actualProvider : NonBlank
  actualModelSnapshot : NonBlank
  inputTokens : Nat
  cacheCreationInputTokens : Nat
  cacheReadInputTokens : Nat
  outputTokens : Nat
  costUsd : Rat
  durationMs : Nat
  classifierTriggered : Bool
  modelSubstitution : Bool
  fullHistoryResent : Bool
  pollingCall : Bool
  falseComplete : Bool
  reeditedTokens : Nat
  deriving DecidableEq

/-- A Pilot's answer to one turn; its data model admits no empty provider session. -/
structure StructuredInterfaceResponse where
  displayText : String
  actions : List InterfaceAction
  providerSessionId : NonBlank
  pilotUsage : InterfacePilotUsage
  provider_session_nonblank : isNonBlank providerSessionId = true
  deriving DecidableEq

end Nanihold
