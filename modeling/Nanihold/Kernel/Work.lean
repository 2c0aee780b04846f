import Nanihold.Kernel.State
import Nanihold.Library.Reachability

/-!
# Kernel commands on nodes and work

The commands of `vsm.kernel.service.Kernel` that create and change nodes and work items:
registration, creation, dependencies, the import of the current work graph, delegation,
resumption, human intervention and completion.

## Main definitions

* `Kernel.registerNode`, `Kernel.createWorkItem`, `Kernel.addDependency`,
  `Kernel.importCurrentWorkGraph`, `Kernel.delegateWorkItem`,
  `Kernel.prepareOwnerConfirmedResume`, `Kernel.intervene`, `Kernel.completeWorkItem`.
* `decompositionEdges` — the two edges that tie a work item to its parent.

## Main results

* `Kernel.dependencySearch_isSome` — the cycle search of `Kernel.addDependency` ends.
-/

namespace Nanihold

/-- The edges that record that a work item was split off its parent. -/
def decompositionEdges (workItem : WorkItem) : List WorkEdge :=
  match workItem.parentWorkItemId with
  | none => []
  | some parentId =>
    [⟨parentId, workItem.workItemId, .delegatedTo⟩, ⟨workItem.workItemId, parentId, .integratedBy⟩]

namespace Kernel

variable (k : Kernel)

/-! ### Nodes -/

/-- `register_node`. -/
def registerNode (node : UVSMNode) (actorId idempotencyKey : String) (clock : Clock) :
    Except VsmError (Recording Kernel) := do
  require (node.dataSpaceId = k.dataSpace.dataSpaceId) "UVSMNode DataSpace mismatch"
  require (k.nodes.contains node.nodeId = false) s!"UVSMNode already exists: {node.nodeId}"
  if let some parentNodeId := node.parentNodeId then
    let parent ← found (k.nodes.get? parentNodeId) s!"parent UVSMNode not found: {parentNodeId}"
    require (parent.dataSpaceId = node.dataSpaceId) "a Node Tree cannot cross a DataSpace"
  return recording node.nodeId (.nodeRegistered node) "human" (some actorId) idempotencyKey
    (some node.nodeId) none (clock 0) fun _ k => { k with nodes := k.nodes.set node.nodeId node }

/-! ### Creation -/

/-- The checks that a new work item makes on its parent. -/
def requireParent (workItem : WorkItem) : Except VsmError Unit :=
  match workItem.parentWorkItemId with
  | none => .ok ()
  | some parentId => do
    let parent ← found (k.workItems.get? parentId) s!"parent WorkItem not found: {parentId}"
    require (parent.integrationOwnerNodeId = workItem.integrationOwnerNodeId)
      "delegated child must retain its parent's integration owner"

/-- `create_work_item`. -/
def createWorkItem (workItem : WorkItem) (actorId idempotencyKey : String) (clock : Clock) :
    Except VsmError (Recording Kernel) := do
  require (workItem.dataSpaceId = k.dataSpace.dataSpaceId) "WorkItem DataSpace mismatch"
  require (workItem.state = .proposed ∨ workItem.state = .ready)
    "new WorkItem must start proposed or ready"
  require (workItem.completionEvidence = none ∧ workItem.blockingS3StarFindingIds = [] ∧
      workItem.acceptanceCriteria ≠ [])
    "new WorkItem requires acceptance and cannot start completed or blocked"
  [workItem.ownerNodeId, workItem.delegatedToNodeId, workItem.integrationOwnerNodeId].forM
    fun nodeId =>
      require (k.nodes.contains nodeId = true) s!"WorkItem node not found: {nodeId}"
  k.requireParent workItem
  return recording workItem.workItemId (.workItemCreated workItem) "human" (some actorId)
    idempotencyKey (some workItem.workItemId) none (clock 0)
    fun _ k =>
      { k with
        workItems := k.workItems.set workItem.workItemId workItem
        workEdges := k.workEdges ++ decompositionEdges workItem }

/-! ### Dependencies -/

/-- The dependency edges as pairs of a work item and its prerequisite. -/
def dependencies : List (String × String) :=
  (k.workEdges.filter (·.kind = .dependsOn)).map fun edge =>
    (edge.sourceWorkItemId, edge.targetWorkItemId)

/-- The search of `add_dependency`: whether the prerequisite already depends on the item. -/
def dependencySearch (workItemId dependsOnId : String) : Option Bool :=
  Reachability.search k.dependencies workItemId (k.dependencies.length + 2) [dependsOnId] []

theorem dependencySearch_isSome (workItemId dependsOnId : String) :
    (k.dependencySearch workItemId dependsOnId).isSome = true := by
  refine Reachability.search_isSome k.dependencies workItemId _ _ _ ?_
  have := Reachability.length_unexplored_le k.dependencies []
  rw [List.length_singleton]
  omega

/-- `add_dependency`. -/
def addDependency (workItemId dependsOnId actorId idempotencyKey : String) (clock : Clock) :
    Except VsmError (Recording Kernel) := do
  require (k.workItems.contains workItemId = true ∧ k.workItems.contains dependsOnId = true)
    "both WorkItems must exist"
  require (workItemId ≠ dependsOnId) "a WorkItem cannot depend on itself"
  let edge : WorkEdge := ⟨workItemId, dependsOnId, .dependsOn⟩
  require (edge ∉ k.workEdges) "dependency already exists"
  require (k.dependencySearch workItemId dependsOnId = some false)
    "WorkItem dependency would create a cycle"
  return recording workItemId (.workDependencyAdded edge) "human" (some actorId) idempotencyKey
    (some workItemId) none (clock 0) fun _ k => { k with workEdges := k.workEdges ++ [edge] }

/-! ### Import of the current work graph -/

/-- The checks of one imported work item. -/
def requireImportedWork (snapshot : CurrentWorkGraphSnapshot) (work : WorkItem) :
    Except VsmError Unit := do
  require (work.dataSpaceId = k.dataSpace.dataSpaceId)
    "Work Graph snapshot WorkItem DataSpace mismatch"
  require (∀ nodeId ∈ [work.ownerNodeId, work.delegatedToNodeId, work.integrationOwnerNodeId],
      nodeId ∈ snapshot.nodes.map (·.nodeId) ∨ k.nodes.contains nodeId = true)
    "Work Graph snapshot WorkItem references an unknown Node"
  require (∀ parentId ∈ work.parentWorkItemId, parentId ∈ snapshot.workItems.map (·.workItemId))
    "Work Graph snapshot WorkItem parent is missing"

/-- `import_current_work_graph`. A second import of the same snapshot is answered with the
event of the first, read back from the ledger by `readStream`; otherwise the import is
recorded. -/
def importCurrentWorkGraph [Sha256]
    (readStream : String → Nat → Nat → Except VsmError (List StoredEvent))
    (snapshot : CurrentWorkGraphSnapshot) (actorId idempotencyKey : String) (clock : Clock) :
    Except VsmError (EventEnvelope ⊕ Recording Kernel) := do
  if let some importedId := k.activation.workGraphSnapshotId then
    require (importedId = snapshot.snapshotId) "current Work Graph was already imported"
    match ← readStream snapshot.snapshotId 0 1 with
    | [] => throw (.invariantViolation "imported Work Graph event cannot be reconciled")
    | stored :: _ =>
      match stored.event.payload with
      | .kernel (.currentWorkGraphImported known) =>
        require (known = snapshot) "Work Graph snapshot identity collision"
        return .inl stored.event
      | _ => throw (.keyError "snapshot")
  require (k.activation.state = .uncommissioned)
    "current Work Graph import requires uncommissioned state"
  require (snapshot.dataSpaceId = k.dataSpace.dataSpaceId)
    "Work Graph snapshot DataSpace mismatch"
  require (snapshot.calculatedSha256 = snapshot.snapshotSha256)
    "Work Graph snapshot digest mismatch"
  require (∀ node ∈ snapshot.nodes, node.dataSpaceId = k.dataSpace.dataSpaceId)
    "Work Graph snapshot Node DataSpace mismatch"
  require (∀ node ∈ snapshot.nodes, ∀ known ∈ k.nodes.get? node.nodeId, known = node)
    "Work Graph snapshot Node identity collision"
  require (∀ work ∈ snapshot.workItems, k.workItems.contains work.workItemId = false)
    "Work Graph snapshot WorkItem identity collision"
  snapshot.workItems.forM (k.requireImportedWork snapshot)
  require (∀ edge ∈ snapshot.edges,
      edge.sourceWorkItemId ∈ snapshot.workItems.map (·.workItemId) ∧
        edge.targetWorkItemId ∈ snapshot.workItems.map (·.workItemId))
    "Work Graph snapshot edge references an unknown WorkItem"
  return .inr <| recording snapshot.snapshotId (.currentWorkGraphImported snapshot) "human"
    (some actorId) idempotencyKey (some snapshot.snapshotId) none (clock 0)
    fun _ k =>
      { k with
        nodes := k.nodes.update (snapshot.nodes.map fun node => (node.nodeId, node))
        workItems := k.workItems.update (snapshot.workItems.map fun work =>
          (work.workItemId, work))
        workEdges := k.workEdges ++ snapshot.edges
        activation := { k.activation with workGraphSnapshotId := some snapshot.snapshotId } }

/-! ### Delegation and resumption -/

/-- `delegate_work_item`. -/
def delegateWorkItem (workItemId delegatedToNodeId actorId idempotencyKey : String)
    (clock : Clock) : Except VsmError (Recording Kernel) := do
  let work ← found (k.workItems.get? workItemId) "WorkItem not found"
  require (k.nodes.contains delegatedToNodeId = true) "delegated UVSMNode not found"
  require (work.state = .proposed ∨ work.state = .ready)
    "only proposed or ready WorkItem can be delegated"
  require (∀ execution ∈ k.executions.values, execution.workItemId ≠ workItemId)
    "WorkItem with Executions cannot be redelegated"
  let updated := { work with delegatedToNodeId := delegatedToNodeId, state := .ready }
  return recording workItemId (.workItemDelegated delegatedToNodeId) "human" (some actorId)
    idempotencyKey (some workItemId) none (clock 0)
    fun _ k => { k with workItems := k.workItems.set workItemId updated }

/-- `validate_owner_confirmed_resume`: a proposed resume, checked without a write. -/
def validateOwnerConfirmedResume (workItemId : String) : Except VsmError WorkItem := do
  require (k.activation.state = .awaitingOwnerConfirmation)
    "resume preparation requires awaiting owner confirmation"
  let assessment ← found k.activation.assessment
    "only assessed resume WorkItems may be prepared"
  require (workItemId ∈ assessment.resumeWorkItemIds)
    "only assessed resume WorkItems may be prepared"
  let work ← found (k.workItems.get? workItemId) "resume WorkItem not found"
  require (work.blockingS3StarFindingIds = []) "blocking S3* finding prevents WorkItem resume"
  require (work.state = .proposed ∨ work.state = .ready ∨ work.state = .paused)
    "WorkItem state cannot be resumed after owner confirmation"
  require (k.nodes.contains work.delegatedToNodeId = true)
    "resume WorkItem delegated Node not found"
  return work

/-- `prepare_owner_confirmed_resume`. -/
def prepareOwnerConfirmedResume (workItemId actorId idempotencyKey : String) (clock : Clock) :
    Except VsmError (Recording Kernel) := do
  let work ← k.validateOwnerConfirmedResume workItemId
  return recording workItemId (.workItemResumePrepared .ready) "human" (some actorId)
    idempotencyKey (some workItemId) none (clock 0)
    fun _ k =>
      { k with workItems := k.workItems.set workItemId { work with state := .ready } }

/-! ### Intervention and completion -/

/-- Pause an active execution, giving a reason. -/
def pauseActive (reason : String) (execution : Execution) : Execution :=
  { execution with state := .paused, pauseReason := some reason }

/-- An execution of a work item that a human stopped. -/
def intervened (workItemId : String) (execution : Execution) : Execution :=
  if execution.workItemId = workItemId ∧ execution.state = .active then
    pauseActive "human_intervention" execution
  else execution

/-- A lease of a work item that a human stopped. -/
def revoked (workItemId : String) (lease : EffectLease) : EffectLease :=
  if lease.workItemId = workItemId ∧ (lease.state = .planned ∨ lease.state = .active) then
    { lease with state := .revoked }
  else lease

/-- `intervene`. -/
def intervene (workItemId actorId reason idempotencyKey : String) (clock : Clock) :
    Except VsmError (Recording Kernel) := do
  let work ← found (k.workItems.get? workItemId) "WorkItem not found"
  return recording workItemId (.humanIntervention reason) "human" (some actorId) idempotencyKey
    (some workItemId) none (clock 0)
    fun _ k =>
      { k with
        workItems := k.workItems.set workItemId { work with state := .paused }
        executions := k.executions.mapValues fun _ => intervened workItemId
        effectLeases := k.effectLeases.mapValues fun _ => revoked workItemId }

/-- The completion gate. -/
def CompletionGate (evidence : CompletionEvidence) : Prop :=
  evidence.acceptanceSatisfied = true ∧ evidence.requiredTestsPassed = true ∧
    evidence.blockingDeviations = [] ∧ evidence.independentS3StarGate = true ∧
    evidence.integrationBranchMerged = true ∧ evidence.remotePushSucceeded = true

instance (evidence : CompletionEvidence) : Decidable (CompletionGate evidence) :=
  inferInstanceAs (Decidable (_ ∧ _))

/-- The prerequisites of a work item that are not completed, read edge by edge. -/
def incompleteDependencies (workItemId : String) : Except VsmError (List String) :=
  ((k.dependencies.filter (·.1 = workItemId)).map Prod.snd).filterM fun targetId => do
    let target ← entry (k.workItems.get? targetId) targetId
    return decide (target.state ≠ .completed)

/-- `complete_work_item`. -/
def completeWorkItem (workItemId : String) (evidence : CompletionEvidence)
    (actorId idempotencyKey : String) (clock : Clock) :
    Except VsmError (Recording Kernel) := do
  let work ← found (k.workItems.get? workItemId) "WorkItem not found"
  require (work.blockingS3StarFindingIds = []) "blocking S3* findings prevent integration"
  require (CompletionGate evidence) "completion gate is not satisfied"
  let incomplete ← k.incompleteDependencies workItemId
  require (incomplete = []) ("incomplete dependencies: " ++ ", ".intercalate incomplete)
  return recording workItemId (.workItemCompleted evidence) "human" (some actorId)
    idempotencyKey (some workItemId) none (clock 0)
    fun _ k =>
      { k with
        workItems := k.workItems.set workItemId
          { work with state := .completed, completionEvidence := some evidence } }

end Kernel

end Nanihold
