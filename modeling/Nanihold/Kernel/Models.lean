import Nanihold.Errors
import Mathlib.Data.Finset.Basic
import Mathlib.Data.Rat.Defs
import Mathlib.Algebra.Order.Ring.Unbundled.Rat

/-!
# Kernel data models

The frozen records of `vsm.kernel.models`. A validator that no later copy of the record can
invalidate is a field of the structure, so such a record cannot be built without passing it.
Records that the services copy with changed fields (`model_copy` does not validate again)
carry no such field.

## Main definitions

* `UVSMNode`, `WorkItem`, `WorkEdge`, `Execution` — nodes and work.
* `CapabilityGrant`, `ReferenceGrant`, `BudgetReservation` — grants and budgets.
* `EffectLease`, `EffectApproval` — leases on external effects.
* `S3StarFinding`, `RouteSnapshot` — audit findings and routing snapshots.
-/

namespace Nanihold

/-- A string that matched the `Identifier` pattern when its record was validated. -/
abbrev Identifier := String

/-- A string of 1 to 512 characters when its record was validated. -/
abbrev NonBlank := String

structure DataSpace where
  dataSpaceId : Identifier
  ownerId : Identifier
  deriving DecidableEq

/-! ### Nodes -/

inductive VSMFunction where
  | s1 | s2 | s3 | s3Star | s4 | s5
  deriving DecidableEq

/-- `frozenset(VSMFunction)`. -/
def VSMFunction.all : Finset VSMFunction := {.s1, .s2, .s3, .s3Star, .s4, .s5}

inductive NodeKind where
  | organization | unit | interface | experiment
  deriving DecidableEq

inductive NodeStatus where
  | active | paused | retired
  deriving DecidableEq

/-- A node of the recursive organisation, with every function resident. -/
structure UVSMNode where
  nodeId : Identifier
  dataSpaceId : Identifier
  ownerId : Identifier
  name : NonBlank
  kind : NodeKind
  parentNodeId : Option Identifier
  residentFunctions : Finset VSMFunction
  status : NodeStatus
  memoryStreamId : Identifier
  /-- Every node contains the resident S1–S5 and S3* functions. -/
  viable : residentFunctions = VSMFunction.all
  /-- An owner Interface Node is not the child of a company node. -/
  interface_owned : kind = .interface → parentNodeId = none
  deriving DecidableEq

/-! ### Work -/

inductive WorkState where
  | proposed | ready | active | paused | blocked | completed | cancelled
  deriving DecidableEq

inductive WorkEdgeKind where
  | delegatedTo | dependsOn | integratedBy
  deriving DecidableEq

structure WorkEdge where
  sourceWorkItemId : Identifier
  targetWorkItemId : Identifier
  kind : WorkEdgeKind
  deriving DecidableEq

structure CompletionEvidence where
  acceptanceSatisfied : Bool
  requiredTestsPassed : Bool
  blockingDeviations : List NonBlank
  independentS3StarGate : Bool
  integrationBranchMerged : Bool
  remotePushSucceeded : Bool
  deriving DecidableEq

structure WorkItem where
  workItemId : Identifier
  dataSpaceId : Identifier
  title : NonBlank
  description : NonBlank
  ownerNodeId : Identifier
  delegatedToNodeId : Identifier
  integrationOwnerNodeId : Identifier
  parentWorkItemId : Option Identifier
  acceptanceCriteria : List NonBlank
  routeKey : NonBlank
  state : WorkState
  blockingS3StarFindingIds : List Identifier
  completionEvidence : Option CompletionEvidence
  deriving DecidableEq

inductive ExecutionState where
  | requested | active | paused | succeeded | failed | cancelled
  deriving DecidableEq, Repr

structure Execution where
  executionId : Identifier
  dataSpaceId : Identifier
  nodeId : Identifier
  workItemId : Identifier
  pilotId : Identifier
  modelCandidateKey : NonBlank
  state : ExecutionState
  providerSessionId : Option NonBlank
  pilotHostId : Identifier
  pauseReason : Option NonBlank
  agentName : Option NonBlank
  deriving DecidableEq

/-! ### Grants and budgets -/

inductive GrantState where
  | active | revoked | expired
  deriving DecidableEq

structure CapabilityGrant where
  grantId : Identifier
  dataSpaceId : Identifier
  grantorNodeId : Identifier
  granteeNodeId : Identifier
  capabilities : Finset NonBlank
  purpose : NonBlank
  validFrom : DateTime
  expiresAt : DateTime
  state : GrantState
  interval_is_positive : validFrom < expiresAt
  deriving DecidableEq

structure ReferenceGrant where
  grantId : Identifier
  sourceDataSpaceId : Identifier
  targetDataSpaceId : Identifier
  grantedBy : Identifier
  purpose : NonBlank
  subjectRefs : List Identifier
  validFrom : DateTime
  expiresAt : DateTime
  state : GrantState
  isolates_spaces : sourceDataSpaceId ≠ targetDataSpaceId
  subject_refs_nonempty : subjectRefs ≠ []
  interval_is_positive : validFrom < expiresAt
  deriving DecidableEq

inductive BudgetReservationState where
  | reserved | consumed | released
  deriving DecidableEq

/-- A reservation of money and tokens; the amount is a finite float, taken exactly. -/
structure BudgetReservation where
  reservationId : Identifier
  dataSpaceId : Identifier
  workItemId : Identifier
  currency : NonBlank
  amount : Rat
  tokenLimit : Nat
  state : BudgetReservationState
  amount_pos : 0 < amount
  token_limit_pos : 0 < tokenLimit
  deriving DecidableEq

/-! ### Effects -/

inductive EffectLeaseState where
  | planned | active | succeeded | failed | unknown | revoked
  deriving DecidableEq, Repr

structure EffectLease where
  leaseId : Identifier
  dataSpaceId : Identifier
  workItemId : Identifier
  executionId : Identifier
  effectKind : NonBlank
  target : NonBlank
  idempotencyKey : NonBlank
  planSha256 : String
  state : EffectLeaseState
  expiresAt : DateTime
  deriving DecidableEq

structure EffectApproval where
  leaseId : Identifier
  approvedBy : Identifier
  approvedAt : DateTime
  deriving DecidableEq

/-! ### Findings and routing snapshots -/

inductive S3StarSeverity where
  | advisory | severe
  deriving DecidableEq

structure S3StarFinding where
  findingId : Identifier
  dataSpaceId : Identifier
  workItemId : Identifier
  nodeId : Identifier
  severity : S3StarSeverity
  statement : NonBlank
  evidenceRefs : List Identifier
  acceptedByS5 : Bool
  deriving DecidableEq

inductive RouteSnapshotState where
  | draft | s3StarApproved | ownerApproved | published | retired
  deriving DecidableEq

inductive RouteSnapshotRetirementReason where
  | supersededByApprovedSnapshot | routeDecommissioned
  deriving DecidableEq

inductive ProductionObjective where
  | reliabilityThenCost | expectedUtility | qualityMax
  deriving DecidableEq

structure RouteSnapshot where
  snapshotId : Identifier
  dataSpaceId : Identifier
  routeKey : NonBlank
  evidenceCursor : Nat
  candidateKeys : List NonBlank
  productionObjective : ProductionObjective
  state : RouteSnapshotState
  s3StarApprovalEventId : Option Identifier
  ownerApprovalEventId : Option Identifier
  deriving DecidableEq

end Nanihold
