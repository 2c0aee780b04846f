import Nanihold.Kernel.Models
import Mathlib.Algebra.GroupWithZero.Nat
import Mathlib.Data.List.Nodup

/-!
# Activation data models

The records of `vsm.activation.models`: the states of commissioning, the receipt of a
verified history import, the snapshot of the current work graph and the assessment a Pilot
submits for the owner's confirmation. Their validators are fields: these records are never
copied with changes.

## Main definitions

* `ActivationState` — the five states of commissioning.
* `HistoryImportReceipt` — the verified import, with its coverage and totals.
* `CurrentWorkGraphSnapshot` — nodes, work items and edges to import.
* `ReorientationAssessment` — the Pilot's assessment.
-/

namespace Nanihold

inductive ActivationState where
  | uncommissioned | historyImported | reorientationOnly | awaitingOwnerConfirmation | active
  deriving DecidableEq, Repr

/-- The value of the enumeration member. -/
def ActivationState.value : ActivationState → String
  | .uncommissioned => "UNCOMMISSIONED"
  | .historyImported => "HISTORY_IMPORTED"
  | .reorientationOnly => "REORIENTATION_ONLY"
  | .awaitingOwnerConfirmation => "AWAITING_OWNER_CONFIRMATION"
  | .active => "ACTIVE"

inductive ReorientationRevisionReason where
  | missingResumeWorkItem | ownerCorrection
  deriving DecidableEq

inductive ReorientationInterruptionReason where
  | processRestartInterruptedAttempt
  deriving DecidableEq

/-- The value of the enumeration member. -/
def ReorientationInterruptionReason.value : ReorientationInterruptionReason → String
  | .processRestartInterruptedAttempt => "process_restart_interrupted_attempt"

/-! ### Imported history -/

inductive HistorySourceKind where
  | claudeCode | claudeAi | codex | intercom | lethe | naniholdLegacy | systemSnapshot
  deriving DecidableEq

/-- `REQUIRED_HISTORY_SOURCE_KINDS`: every source kind. -/
def requiredHistorySourceKinds : Finset HistorySourceKind :=
  {.claudeCode, .claudeAi, .codex, .intercom, .lethe, .naniholdLegacy, .systemSnapshot}

structure HistorySession where
  sessionRef : NonBlank
  sourceSessionId : NonBlank
  sourceKind : HistorySourceKind
  sourceId : NonBlank
  messageCount : Nat
  firstMessageAt : DateTime
  lastMessageAt : DateTime
  message_count_pos : messageCount > 0
  bounds_match_count : firstMessageAt ≤ lastMessageAt
  deriving DecidableEq

structure HistorySourceManifest where
  sourceId : NonBlank
  sourceKind : HistorySourceKind
  ownerId : NonBlank
  recordCount : Nat
  rawBytes : Nat
  digestSha256 : String
  cutoverCursor : NonBlank
  deriving DecidableEq

/-- The receipt of a history import that LETHE verified. -/
structure HistoryImportReceipt where
  inventoryId : NonBlank
  dataSpaceId : Identifier
  manifestDigest : String
  recordCount : Nat
  rawBytes : Nat
  crossSourceOverlapIdentities : Nat
  sources : List HistorySourceManifest
  sessionCount : Nat
  sessions : List HistorySession
  sessionIndexRef : NonBlank
  openCommitmentsRef : NonBlank
  currentStateRef : NonBlank
  source_ids_unique : (sources.map (·.sourceId)).Nodup
  source_kinds_exact : (sources.map (·.sourceKind)).toFinset = requiredHistorySourceKinds
  record_count_total : (sources.map (·.recordCount)).sum = recordCount
  raw_bytes_total : (sources.map (·.rawBytes)).sum = rawBytes
  session_count_total : sessions.length = sessionCount
  session_refs_unique : (sessions.map (·.sessionRef)).Nodup
  session_provenance : ∀ session ∈ sessions, ∃ source ∈ sources,
    source.sourceId = session.sourceId ∧ source.sourceKind = session.sourceKind
  deriving DecidableEq

/-! ### Current work graph -/

/-- The nodes, work items and edges that commissioning imports. -/
structure CurrentWorkGraphSnapshot where
  snapshotId : Identifier
  dataSpaceId : Identifier
  capturedAt : DateTime
  nodes : List UVSMNode
  workItems : List WorkItem
  edges : List WorkEdge
  snapshotSha256 : String
  node_ids_unique : (nodes.map (·.nodeId)).Nodup
  work_ids_unique : (workItems.map (·.workItemId)).Nodup
  has_incomplete_work : ∃ work ∈ workItems, work.state ≠ .completed ∧ work.state ≠ .cancelled
  edges_unique : edges.Nodup
  deriving DecidableEq

/-! ### Assessment -/

structure EvidenceCitation where
  claimRef : NonBlank
  evidenceRef : Identifier
  deriving DecidableEq

/-- An `AssessmentItem`: a text of 1 to 500 characters. -/
def isAssessmentItem (text : String) : Bool :=
  decide (1 ≤ text.length) && decide (text.length ≤ 500)

/-- What a Pilot understood of the imported history, for the owner to confirm. -/
structure ReorientationAssessment where
  assessmentId : Identifier
  importId : Identifier
  conversationId : Identifier
  generatedAt : DateTime
  understanding : String
  activeMissions : List String
  decisionsAndConstraints : List String
  openCommitmentIds : List Identifier
  unknowns : List String
  resumeWorkItemIds : List Identifier
  coveredSessionIndexRef : NonBlank
  coveredSessionCount : Nat
  historyCursor : Nat
  currentStateCursor : Nat
  citations : List EvidenceCitation
  understanding_length : 1 ≤ understanding.length ∧ understanding.length ≤ 1200
  active_missions_bounded : activeMissions.length ≤ 8 ∧ activeMissions.all isAssessmentItem
  decisions_bounded :
    decisionsAndConstraints.length ≤ 12 ∧ decisionsAndConstraints.all isAssessmentItem
  unknowns_bounded : unknowns.length ≤ 8 ∧ unknowns.all isAssessmentItem
  citations_bounded : citations.length ≤ 32
  deriving DecidableEq

end Nanihold
