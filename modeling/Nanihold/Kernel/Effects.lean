import Nanihold.Kernel.Executions

/-!
# Kernel commands on grants, effects, findings and routes

The commands of `vsm.kernel.service.Kernel` on capability and reference grants, budgets,
effect leases, S3* findings and route snapshots.

## Main definitions

* `Kernel.grantCapability`, `Kernel.registerReferenceGrant`, `Kernel.reserveBudget`.
* `Kernel.planEffect`, `Kernel.approveEffect`, `Kernel.activateEffect`,
  `Kernel.markEffectUnknown`, `Kernel.reconcileEffect`.
* `Kernel.recordS3StarFinding`, `Kernel.acceptS3StarRisk`.
* `Kernel.registerRouteSnapshot`, `Kernel.approveRouteSnapshot`,
  `Kernel.publishRouteSnapshot`, `Kernel.retireRouteSnapshot`.
-/

namespace Nanihold

namespace Kernel

variable (k : Kernel)

/-! ### Grants and budgets -/

/-- `grant_capability`. -/
def grantCapability (grant : CapabilityGrant) (actorId idempotencyKey : String)
    (clock : Clock) : Except VsmError (Recording Kernel) := do
  require (grant.dataSpaceId = k.dataSpace.dataSpaceId) "CapabilityGrant DataSpace mismatch"
  require (grant.state = .active) "new CapabilityGrant must be active"
  require (grant.validFrom ≤ clock 0 ∧ clock 0 < grant.expiresAt)
    "CapabilityGrant is not currently valid"
  require (k.nodes.contains grant.grantorNodeId = true ∧
      k.nodes.contains grant.granteeNodeId = true)
    "CapabilityGrant nodes must exist"
  return recording grant.grantId (.capabilityGranted grant) "human" (some actorId)
    idempotencyKey (some grant.grantId) none (clock 1)
    fun _ k => { k with capabilityGrants := k.capabilityGrants.set grant.grantId grant }

/-- `register_reference_grant`. -/
def registerReferenceGrant (grant : ReferenceGrant) (actorId idempotencyKey : String)
    (clock : Clock) : Except VsmError (Recording Kernel) := do
  require (grant.targetDataSpaceId = k.dataSpace.dataSpaceId)
    "ReferenceGrant target DataSpace mismatch"
  require (grant.state = .active) "new ReferenceGrant must be active"
  require (grant.validFrom ≤ clock 0 ∧ clock 0 < grant.expiresAt)
    "ReferenceGrant is not currently valid"
  return recording grant.grantId (.referenceGranted grant) "human" (some actorId)
    idempotencyKey (some grant.grantId) none (clock 1)
    fun _ k => { k with referenceGrants := k.referenceGrants.set grant.grantId grant }

/-- `reserve_budget`. -/
def reserveBudget (reservation : BudgetReservation) (actorId idempotencyKey : String)
    (clock : Clock) : Except VsmError (Recording Kernel) := do
  require (reservation.dataSpaceId = k.dataSpace.dataSpaceId)
    "BudgetReservation DataSpace mismatch"
  require (k.workItems.contains reservation.workItemId = true)
    "BudgetReservation WorkItem not found"
  return recording reservation.reservationId (.budgetReserved reservation) "human"
    (some actorId) idempotencyKey (some reservation.workItemId) none (clock 0)
    fun _ k =>
      { k with
        budgetReservations := k.budgetReservations.set reservation.reservationId reservation }

/-! ### Effects -/

/-- `plan_effect`. A lease that is already present is planned again. -/
def planEffect (lease : EffectLease) (actorId idempotencyKey : String) (clock : Clock) :
    Except VsmError (Recording Kernel) := do
  k.activation.requireActive "Effect planning"
  require (lease.dataSpaceId = k.dataSpace.dataSpaceId) "EffectLease DataSpace mismatch"
  require (lease.state = .planned) "a new EffectLease must be planned"
  require (clock 0 < lease.expiresAt) "EffectLease must expire in the future"
  let execution ← found (k.executions.get? lease.executionId)
    "EffectLease Execution/WorkItem mismatch"
  require (execution.workItemId = lease.workItemId) "EffectLease Execution/WorkItem mismatch"
  require (∀ existing ∈ k.effectLeases.values,
      existing.idempotencyKey = lease.idempotencyKey → existing.leaseId = lease.leaseId)
    "effect idempotency key already belongs to another lease"
  return recording lease.leaseId (.effectPlanned lease) "pilot" (some actorId) idempotencyKey
    (some lease.workItemId) none (clock 1)
    fun _ k => { k with effectLeases := k.effectLeases.set lease.leaseId lease }

/-- `approve_effect`. The approval's own time is read before the event's. -/
def approveEffect (leaseId actorId idempotencyKey : String) (clock : Clock) :
    Except VsmError (Recording Kernel) := do
  k.activation.requireActive "Effect approval"
  let lease ← found (k.effectLeases.get? leaseId) "only a planned EffectLease can be approved"
  require (lease.state = .planned) "only a planned EffectLease can be approved"
  require (k.effectApprovals.contains leaseId = false) "EffectLease is already approved"
  if !isIdentifier actorId then
    throw (.validationError "EffectApproval")
  let approval : EffectApproval := ⟨leaseId, actorId, clock 0⟩
  return recording leaseId (.effectApproved approval) "human" (some actorId) idempotencyKey
    (some lease.workItemId) none (clock 1)
    fun _ k => { k with effectApprovals := k.effectApprovals.set leaseId approval }

/-- `activate_effect`. -/
def activateEffect (leaseId actorId idempotencyKey : String) (clock : Clock) :
    Except VsmError (Recording Kernel) := do
  k.activation.requireActive "Effect activation"
  let lease ← found (k.effectLeases.get? leaseId)
    "only a LETHE-confirmed planned effect can activate"
  require (lease.state = .planned) "only a LETHE-confirmed planned effect can activate"
  require (clock 0 < lease.expiresAt) "expired EffectLease cannot activate"
  require (k.effectApprovals.contains leaseId = true)
    "EffectLease requires explicit owner approval"
  return recording leaseId (.effectActivated .active) "pilot" (some actorId) idempotencyKey
    (some lease.workItemId) none (clock 1)
    fun _ k =>
      { k with effectLeases := k.effectLeases.set leaseId { lease with state := .active } }

/-- `mark_effect_unknown`. -/
def markEffectUnknown (leaseId actorId idempotencyKey : String) (clock : Clock) :
    Except VsmError (Recording Kernel) := do
  let lease ← found (k.effectLeases.get? leaseId) "only an active effect can become unknown"
  require (lease.state = .active) "only an active effect can become unknown"
  return recording leaseId (.effectResultUnknown .unknown lease.idempotencyKey) "pilot"
    (some actorId) idempotencyKey (some lease.workItemId) none (clock 0)
    fun _ k =>
      { k with effectLeases := k.effectLeases.set leaseId { lease with state := .unknown } }

/-- `require_effect_reconciliation`: a read that raises while the result is unknown. -/
def requireEffectReconciliation (leaseId : String) : Except VsmError Unit := do
  let lease ← found (k.effectLeases.get? leaseId) "EffectLease not found"
  if lease.state = .unknown then
    throw (.reconciliationRequired
      s!"reconcile effect by idempotency key {lease.idempotencyKey}")

/-- `reconcile_effect`. -/
def reconcileEffect (leaseId : String) (result : EffectLeaseState)
    (actorId idempotencyKey : String) (clock : Clock) :
    Except VsmError (Recording Kernel) := do
  let lease ← found (k.effectLeases.get? leaseId) "only an unknown effect can be reconciled"
  require (lease.state = .unknown) "only an unknown effect can be reconciled"
  require (result = .succeeded ∨ result = .failed)
    "reconciliation result must be succeeded or failed"
  return recording leaseId (.effectReconciled result lease.idempotencyKey) "human"
    (some actorId) idempotencyKey (some lease.workItemId) none (clock 0)
    fun _ k =>
      { k with effectLeases := k.effectLeases.set leaseId { lease with state := result } }

/-! ### Findings -/

/-- A work item that a severe finding blocks. -/
def blockedBy (findingId : String) (work : WorkItem) : WorkItem :=
  { work with
    state := .blocked
    blockingS3StarFindingIds := work.blockingS3StarFindingIds ++ [findingId] }

/-- A work item after the risk of a finding was accepted. -/
def unblockedFrom (findingId : String) (work : WorkItem) : WorkItem :=
  let blockers := work.blockingS3StarFindingIds.filter (· ≠ findingId)
  { work with
    state := if blockers = [] then .ready else .blocked
    blockingS3StarFindingIds := blockers }

/-- `record_s3_star_finding`. -/
def recordS3StarFinding (finding : S3StarFinding) (actorId idempotencyKey : String)
    (clock : Clock) : Except VsmError (Recording Kernel) := do
  let work ← found (k.workItems.get? finding.workItemId) "S3* finding target does not exist"
  require (k.nodes.contains finding.nodeId = true) "S3* finding target does not exist"
  require (finding.acceptedByS5 = false) "a new S3* finding cannot start accepted"
  return recording finding.workItemId (.s3StarFindingRecorded finding) "system" (some actorId)
    idempotencyKey (some finding.workItemId) none (clock 0)
    fun _ k =>
      { k with
        findings := k.findings.set finding.findingId finding
        workItems :=
          if finding.severity = .severe then
            k.workItems.set work.workItemId (blockedBy finding.findingId work)
          else k.workItems }

/-- `accept_s3_star_risk`. The work item is looked up after the event was recorded. -/
def acceptS3StarRisk (findingId s5NodeId actorId rationale idempotencyKey : String)
    (clock : Clock) : Except VsmError (Recording Kernel) := do
  let finding ← found (k.findings.get? findingId) "S3* finding not found"
  require (s5NodeId = finding.nodeId) "risk acceptance must come from same-level S5"
  return {
    streamId := finding.workItemId
    payload := .kernel (.s3StarRiskAccepted findingId s5NodeId rationale)
    actorType := "human"
    actorId := some actorId
    idempotencyKey := idempotencyKey
    correlationId := some finding.workItemId
    occurredAt := clock 0
    update := fun _ _ => do
      modify fun k : Kernel =>
        { k with findings := k.findings.set findingId { finding with acceptedByS5 := true } }
      let k ← get
      let work ← EStateM.ofExcept
        (entry (k.workItems.get? finding.workItemId) finding.workItemId)
      modify fun k : Kernel =>
        { k with workItems := k.workItems.set work.workItemId (unblockedFrom findingId work) } }

/-! ### Route snapshots -/

/-- `register_route_snapshot`. -/
def registerRouteSnapshot (snapshot : RouteSnapshot) (actorId idempotencyKey : String)
    (clock : Clock) : Except VsmError (Recording Kernel) := do
  require (snapshot.dataSpaceId = k.dataSpace.dataSpaceId) "RouteSnapshot DataSpace mismatch"
  require (snapshot.state = .draft) "RouteSnapshot must start as draft"
  return recording snapshot.snapshotId (.routeSnapshotRegistered snapshot) "human"
    (some actorId) idempotencyKey (some snapshot.snapshotId) none (clock 0)
    fun _ k => { k with routeSnapshots := k.routeSnapshots.set snapshot.snapshotId snapshot }

/-- The state after an approval, and the snapshot with the approval's event id. -/
def approvedSnapshot (snapshot : RouteSnapshot) (approval : String) (nextState : RouteSnapshotState)
    (eventId : Identifier) : RouteSnapshot :=
  if approval = "s3_star" then
    { snapshot with state := nextState, s3StarApprovalEventId := some eventId }
  else { snapshot with state := nextState, ownerApprovalEventId := some eventId }

/-- The state an approval leads to: first S3*, then the owner. -/
def approvalState (snapshot : RouteSnapshot) (approval : String) :
    Except VsmError RouteSnapshotState :=
  if approval = "s3_star" ∧ snapshot.state = .draft then .ok .s3StarApproved
  else if approval = "owner" ∧ snapshot.state = .s3StarApproved then .ok .ownerApproved
  else .error (.invariantViolation "RouteSnapshot approvals are ordered S3* then owner")

/-- `approve_route_snapshot`. -/
def approveRouteSnapshot (snapshotId approval actorId idempotencyKey : String)
    (clock : Clock) : Except VsmError (Recording Kernel) := do
  let snapshot ← found (k.routeSnapshots.get? snapshotId) "RouteSnapshot not found"
  let nextState ← approvalState snapshot approval
  return recording snapshotId (.routeSnapshotApproved approval nextState) "human"
    (some actorId) idempotencyKey (some snapshotId) none (clock 0)
    fun event k =>
      { k with
        routeSnapshots := k.routeSnapshots.set snapshotId
          (approvedSnapshot snapshot approval nextState event.eventId) }

/-- `publish_route_snapshot`. -/
def publishRouteSnapshot (snapshotId actorId idempotencyKey : String) (clock : Clock) :
    Except VsmError (Recording Kernel) := do
  let snapshot ← found (k.routeSnapshots.get? snapshotId)
    "only an owner-approved RouteSnapshot can publish"
  require (snapshot.state = .ownerApproved) "only an owner-approved RouteSnapshot can publish"
  require (∀ other ∈ k.routeSnapshots.values, other.snapshotId ≠ snapshotId →
      other.routeKey = snapshot.routeKey → other.state ≠ .published)
    "retire the published RouteSnapshot for this route_key before publishing"
  return recording snapshotId (.routeSnapshotPublished .published) "human" (some actorId)
    idempotencyKey (some snapshotId) none (clock 0)
    fun _ k =>
      { k with
        routeSnapshots := k.routeSnapshots.set snapshotId { snapshot with state := .published } }

/-- `_validate_route_snapshot_replacement`. -/
def validateRouteSnapshotReplacement (snapshot : RouteSnapshot)
    (replacementSnapshotId : String) : Except VsmError Unit := do
  require (replacementSnapshotId ≠ snapshot.snapshotId)
    "replacement RouteSnapshot must differ from retired RouteSnapshot"
  let replacement ← found (k.routeSnapshots.get? replacementSnapshotId)
    "replacement RouteSnapshot not found"
  require (replacement.routeKey = snapshot.routeKey)
    "replacement RouteSnapshot must have the same route_key"
  require (replacement.state = .ownerApproved ∨ replacement.state = .published)
    "replacement RouteSnapshot must be owner-approved or published"

/-- The checks on the reason and the replacement of a retirement. -/
def validateRetirement (snapshot : RouteSnapshot) :
    RouteSnapshotRetirementReason → Option String → Except VsmError Unit
  | .routeDecommissioned, replacement =>
    require (replacement = none)
      "decommissioned route must not have a replacement RouteSnapshot"
  | .supersededByApprovedSnapshot, none =>
    throw (.invariantViolation "superseded RouteSnapshot requires a replacement RouteSnapshot")
  | .supersededByApprovedSnapshot, some replacement =>
    k.validateRouteSnapshotReplacement snapshot replacement

/-- `retire_route_snapshot`; `none` stands for a reason that is not a member of the
enumeration. -/
def retireRouteSnapshot (snapshotId : String)
    (reasonCode : Option RouteSnapshotRetirementReason) (replacementSnapshotId : Option String)
    (actorId idempotencyKey : String) (clock : Clock) :
    Except VsmError (Recording Kernel) := do
  let reason ← found reasonCode "unsupported RouteSnapshot retirement reason"
  let snapshot ← found (k.routeSnapshots.get? snapshotId) "RouteSnapshot not found"
  require (snapshot.state = .published) "only a published RouteSnapshot can retire"
  k.validateRetirement snapshot reason replacementSnapshotId
  return recording snapshotId (.routeSnapshotRetired reason replacementSnapshotId .retired)
    "human" (some actorId) idempotencyKey (some snapshotId) none (clock 0)
    fun _ k =>
      { k with
        routeSnapshots := k.routeSnapshots.set snapshotId { snapshot with state := .retired } }

end Kernel

end Nanihold
