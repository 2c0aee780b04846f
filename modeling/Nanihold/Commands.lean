import Nanihold.Activation.HistoryTools
import Nanihold.System
import Mathlib.Data.Finset.Card

/-!
# Commands

The public commands of the Kernel, the Activation service and its history tools, the owner
bootstrap, the Token Lab and the environment instance lifecycle, as programs of the system. Reads
that only raise are commands too. Every command takes the clock readings of its call.

## Main definitions

* `KernelCommand`, `KernelCommand.run` — the public commands of the Kernel.
* `ActivationCommand`, `HistoryCommand`, `OwnerAuthCommand`, `TokenLabCommand`,
  `EnvironmentCommand` — those of the services beside it.
-/

namespace Nanihold

variable [Sha256] {L : Type} [OperationalLedger L]

/-! ### Kernel -/

/-- The public commands of the Kernel. -/
inductive KernelCommand where
  | registerNode (node : UVSMNode) (actorId idempotencyKey : String)
  | grantCapability (grant : CapabilityGrant) (actorId idempotencyKey : String)
  | createWorkItem (workItem : WorkItem) (actorId idempotencyKey : String)
  | addDependency (workItemId dependsOnId actorId idempotencyKey : String)
  | importCurrentWorkGraph (snapshot : CurrentWorkGraphSnapshot)
      (actorId idempotencyKey : String)
  | delegateWorkItem (workItemId delegatedToNodeId actorId idempotencyKey : String)
  | prepareOwnerConfirmedResume (workItemId actorId idempotencyKey : String)
  | validateOwnerConfirmedResume (workItemId : String)
  | createExecution (execution : Execution) (actorId idempotencyKey : String)
  | recordAgentNotification (notification : AgentNotification)
      (actorId idempotencyKey : String)
  | promoteAgentNotification (notificationId : String) (workItem : WorkItem)
      (actorId idempotencyKey : String)
  | recordAgentNameAssignment (assignment : AgentNameAssignment)
      (namingRegistry : AgentNameRegistry) (actorId idempotencyKey : String)
  | registerAgentIdentity (registration : AgentIdentityRegistration)
      (namingRegistry : AgentNameRegistry) (actorId idempotencyKey : String)
  | setExecutionState (executionId : String) (state : ExecutionState)
      (actorType actorId idempotencyKey : String) (pauseReason : Option String)
  | recordPilotExecutionReceipt (executionId : String) (receipt : Kernel.PilotReceipt)
      (actorId idempotencyKey : String)
  | reserveBudget (reservation : BudgetReservation) (actorId idempotencyKey : String)
  | planEffect (lease : EffectLease) (actorId idempotencyKey : String)
  | approveEffect (leaseId actorId idempotencyKey : String)
  | activateEffect (leaseId actorId idempotencyKey : String)
  | markEffectUnknown (leaseId actorId idempotencyKey : String)
  | requireEffectReconciliation (leaseId : String)
  | reconcileEffect (leaseId : String) (result : EffectLeaseState)
      (actorId idempotencyKey : String)
  | intervene (workItemId actorId reason idempotencyKey : String)
  | recordS3StarFinding (finding : S3StarFinding) (actorId idempotencyKey : String)
  | acceptS3StarRisk (findingId s5NodeId actorId rationale idempotencyKey : String)
  | completeWorkItem (workItemId : String) (evidence : CompletionEvidence)
      (actorId idempotencyKey : String)
  | pilotHostDisconnected (pilotHostId idempotencyKey : String)
  | registerReferenceGrant (grant : ReferenceGrant) (actorId idempotencyKey : String)
  | registerRouteSnapshot (snapshot : RouteSnapshot) (actorId idempotencyKey : String)
  | approveRouteSnapshot (snapshotId approval actorId idempotencyKey : String)
  | publishRouteSnapshot (snapshotId actorId idempotencyKey : String)
  | retireRouteSnapshot (snapshotId : String)
      (reasonCode : Option RouteSnapshotRetirementReason)
      (replacementSnapshotId : Option String) (actorId idempotencyKey : String)

/-- A Kernel command that records one event. -/
def performKernel (plan : Kernel → Except VsmError (Recording Kernel)) : SystemM L Unit := do
  let _ ← perform fun s : System L => plan s.kernel

/-- A read of the Kernel that may raise. -/
def checkKernel {α : Type} (read : Kernel → Except VsmError α) : SystemM L Unit := do
  let s ← get
  let _ ← EStateM.ofExcept (read s.kernel)

/-- `import_current_work_graph`: the second import of a snapshot records nothing. -/
def importCurrentWorkGraph (snapshot : CurrentWorkGraphSnapshot)
    (actorId idempotencyKey : String) (clock : Clock) : SystemM L Unit := do
  let s ← get
  match ← EStateM.ofExcept (s.kernel.importCurrentWorkGraph (OperationalLedger.stream s.ledger)
    snapshot actorId idempotencyKey clock) with
  | .inl _ => return
  | .inr r =>
    let _ ← record r

/-- `promote_agent_notification`: create the work item, then link the notification to it. -/
def promoteAgentNotification (notificationId : String) (workItem : WorkItem)
    (actorId idempotencyKey : String) (clock : Clock) : SystemM L Unit := do
  let s ← get
  let notification ← EStateM.ofExcept (s.kernel.requirePromotable notificationId workItem)
  performKernel fun k => k.createWorkItem workItem actorId s!"{idempotencyKey}:work-item" clock
  let _ ← record (Kernel.promotionRecording notificationId notification workItem.workItemId
    actorId idempotencyKey clock)

/-- A Kernel command as a program of the system. -/
def KernelCommand.run (clock : Clock) : KernelCommand → SystemM L Unit
  | .registerNode node actorId key => performKernel fun k => k.registerNode node actorId key clock
  | .grantCapability grant actorId key =>
    performKernel fun k => k.grantCapability grant actorId key clock
  | .createWorkItem workItem actorId key =>
    performKernel fun k => k.createWorkItem workItem actorId key clock
  | .addDependency workItemId dependsOnId actorId key =>
    performKernel fun k => k.addDependency workItemId dependsOnId actorId key clock
  | .importCurrentWorkGraph snapshot actorId key =>
    Nanihold.importCurrentWorkGraph snapshot actorId key clock
  | .delegateWorkItem workItemId nodeId actorId key =>
    performKernel fun k => k.delegateWorkItem workItemId nodeId actorId key clock
  | .prepareOwnerConfirmedResume workItemId actorId key =>
    performKernel fun k => k.prepareOwnerConfirmedResume workItemId actorId key clock
  | .validateOwnerConfirmedResume workItemId =>
    checkKernel fun k => k.validateOwnerConfirmedResume workItemId
  | .createExecution execution actorId key =>
    performKernel fun k => k.createExecution execution actorId key clock
  | .recordAgentNotification notification actorId key =>
    performKernel fun k => k.recordAgentNotification notification actorId key clock
  | .promoteAgentNotification notificationId workItem actorId key =>
    Nanihold.promoteAgentNotification notificationId workItem actorId key clock
  | .recordAgentNameAssignment assignment registry actorId key =>
    performKernel fun k => k.recordAgentNameAssignment assignment registry actorId key clock
  | .registerAgentIdentity registration registry actorId key =>
    performKernel fun k => k.registerAgentIdentity registration registry actorId key clock
  | .setExecutionState executionId state actorType actorId key pauseReason =>
    performKernel fun k =>
      k.setExecutionState executionId state actorType actorId key pauseReason clock
  | .recordPilotExecutionReceipt executionId receipt actorId key =>
    performKernel fun k => k.recordPilotExecutionReceipt executionId receipt actorId key clock
  | .reserveBudget reservation actorId key =>
    performKernel fun k => k.reserveBudget reservation actorId key clock
  | .planEffect lease actorId key => performKernel fun k => k.planEffect lease actorId key clock
  | .approveEffect leaseId actorId key =>
    performKernel fun k => k.approveEffect leaseId actorId key clock
  | .activateEffect leaseId actorId key =>
    performKernel fun k => k.activateEffect leaseId actorId key clock
  | .markEffectUnknown leaseId actorId key =>
    performKernel fun k => k.markEffectUnknown leaseId actorId key clock
  | .requireEffectReconciliation leaseId =>
    checkKernel fun k => k.requireEffectReconciliation leaseId
  | .reconcileEffect leaseId result actorId key =>
    performKernel fun k => k.reconcileEffect leaseId result actorId key clock
  | .intervene workItemId actorId reason key =>
    performKernel fun k => k.intervene workItemId actorId reason key clock
  | .recordS3StarFinding finding actorId key =>
    performKernel fun k => k.recordS3StarFinding finding actorId key clock
  | .acceptS3StarRisk findingId s5NodeId actorId rationale key =>
    performKernel fun k => k.acceptS3StarRisk findingId s5NodeId actorId rationale key clock
  | .completeWorkItem workItemId evidence actorId key =>
    performKernel fun k => k.completeWorkItem workItemId evidence actorId key clock
  | .pilotHostDisconnected pilotHostId key =>
    performKernel fun _ => Kernel.pilotHostDisconnected pilotHostId key clock
  | .registerReferenceGrant grant actorId key =>
    performKernel fun k => k.registerReferenceGrant grant actorId key clock
  | .registerRouteSnapshot snapshot actorId key =>
    performKernel fun k => k.registerRouteSnapshot snapshot actorId key clock
  | .approveRouteSnapshot snapshotId approval actorId key =>
    performKernel fun k => k.approveRouteSnapshot snapshotId approval actorId key clock
  | .publishRouteSnapshot snapshotId actorId key =>
    performKernel fun k => k.publishRouteSnapshot snapshotId actorId key clock
  | .retireRouteSnapshot snapshotId reasonCode replacementSnapshotId actorId key =>
    performKernel fun k =>
      k.retireRouteSnapshot snapshotId reasonCode replacementSnapshotId actorId key clock

/-! ### Activation -/

/-- The public commands of the Activation service. -/
inductive ActivationCommand where
  | registerHistoryImport (receipt : HistoryImportReceipt)
      (reorientationConversationId actorId idempotencyKey : String)
  | startReorientation (actorId idempotencyKey : String)
  | recordReorientationFailure (errorCode actorId idempotencyKey : String)
  | interruptReorientationAttempt (reasonCode : ReorientationInterruptionReason)
      (actorId idempotencyKey : String)
  | recordReorientationSessionCheckpoint (providerSessionId actorId idempotencyKey : String)
  | submitAssessment (assessment : ReorientationAssessment)
      (openCommitmentIds existingWorkItemIds : List String) (sessionIndexListedToEnd : Bool)
      (actorId idempotencyKey : String)
  | requestAssessmentRevision (reasonCode : ReorientationRevisionReason)
      (requestedBy : ActivationService.RevisionRequester) (actorId idempotencyKey : String)
  | approve (assessmentId actorId idempotencyKey : String)
  | recordReorientationUsage (inputTokens outputTokens : Int) (actorId idempotencyKey : String)

/-- An Activation command that records one event. -/
def performActivation (plan : ActivationService → Except VsmError (Recording ActivationService)) :
    SystemM L Unit := do
  let _ ← perform fun s : System L => plan s.kernel.activation

/-- `register_history_import`: registering the registered receipt again records nothing. -/
def registerHistoryImport (receipt : HistoryImportReceipt)
    (reorientationConversationId actorId idempotencyKey : String) (clock : Clock) :
    SystemM L Unit := do
  let s ← get
  match ← EStateM.ofExcept (s.kernel.activation.registerHistoryImport receipt
    reorientationConversationId actorId idempotencyKey clock) with
  | none => return
  | some r =>
    let _ ← record r

/-- An Activation command as a program of the system. -/
def ActivationCommand.run (clock : Clock) : ActivationCommand → SystemM L Unit
  | .registerHistoryImport receipt conversationId actorId key =>
    Nanihold.registerHistoryImport receipt conversationId actorId key clock
  | .startReorientation actorId key =>
    performActivation fun a => a.startReorientation actorId key clock
  | .recordReorientationFailure errorCode actorId key =>
    performActivation fun a => a.recordReorientationFailure errorCode actorId key clock
  | .interruptReorientationAttempt reasonCode actorId key =>
    performActivation fun a => a.interruptReorientationAttempt reasonCode actorId key clock
  | .recordReorientationSessionCheckpoint providerSessionId actorId key =>
    performActivation fun a =>
      a.recordReorientationSessionCheckpoint providerSessionId actorId key clock
  | .submitAssessment assessment openIds workItemIds listed actorId key =>
    performActivation fun a =>
      a.submitAssessment assessment openIds workItemIds listed actorId key clock
  | .requestAssessmentRevision reasonCode requestedBy actorId key =>
    performActivation fun a =>
      a.requestAssessmentRevision reasonCode requestedBy actorId key clock
  | .approve assessmentId actorId key =>
    performActivation fun a => a.approve assessmentId actorId key clock
  | .recordReorientationUsage inputTokens outputTokens actorId key =>
    performActivation fun a =>
      a.recordReorientationUsage inputTokens outputTokens actorId key clock

/-! ### History tools -/

/-- The tools through which a reorientation reads LETHE's history, with the reader's answers. -/
inductive HistoryCommand where
  | resolve (maxResultBytes : Nat) (action : ReadHistoryAction)
      (reply : Except VsmError HistoryPage) (actorId idempotencyKey : String)
  | scanSessionIndex (maxResultBytes : Nat) (receipt : HistoryImportReceipt)
      (replies : List (Except VsmError HistoryPage)) (actorId idempotencyKey : String)

/-- `resolve`: store the page as a blob, then record the query. -/
def resolveHistory (maxResultBytes : Nat) (action : ReadHistoryAction)
    (reply : Except VsmError HistoryPage) (actorId idempotencyKey : String) (clock : Clock) :
    SystemM L HistoryToolResult := do
  let s ← get
  let page ← EStateM.ofExcept (requirePage s.kernel.activation maxResultBytes action reply)
  let _ ← onLedger (OperationalLedger.putBlob (.text page.encoded))
  let (event, result) ← record
    (s.kernel.activation.historyQueryRecording action page actorId idempotencyKey clock)
  return ⟨page, event.eventId, result.cursor⟩

/-- The audit of a verified session index: each page is stored and recorded. -/
def recordSessionIndex (actorId idempotencyKey : String) :
    List (Option String × HistoryPage) → Clock → SystemM L (List HistoryToolResult)
  | [], _ => return []
  | (pageCursor, page) :: pages, clock => do
    let _ ← onLedger (OperationalLedger.putBlob (.text page.encoded))
    let s ← get
    let (event, result) ← record
      (s.kernel.activation.sessionIndexRecording pageCursor page actorId idempotencyKey clock)
    let results ← recordSessionIndex actorId idempotencyKey pages fun reading => clock (reading + 1)
    return ⟨page, event.eventId, result.cursor⟩ :: results

/-- `scan_session_index`: the whole index is read and compared before any page is recorded. -/
def scanSessionIndex (maxResultBytes : Nat) (receipt : HistoryImportReceipt)
    (replies : List (Except VsmError HistoryPage)) (actorId idempotencyKey : String)
    (clock : Clock) : SystemM L (List HistoryToolResult) := do
  let s ← get
  let (pages, observed) ← EStateM.ofExcept (traverseSessionIndex maxResultBytes none replies)
  EStateM.ofExcept <| require (observed.toFinset = s.kernel.activation.sessions.keys.toFinset ∧
      observed.toFinset.card = receipt.sessionCount)
    "LETHE session index differs from verified import receipt"
  recordSessionIndex actorId idempotencyKey pages clock

/-- A history tool as a program of the system. -/
def HistoryCommand.run (clock : Clock) : HistoryCommand → SystemM L Unit
  | .resolve maxResultBytes action reply actorId key => do
    let _ ← resolveHistory maxResultBytes action reply actorId key clock
  | .scanSessionIndex maxResultBytes receipt replies actorId key => do
    let _ ← Nanihold.scanSessionIndex maxResultBytes receipt replies actorId key clock

/-! ### Owner bootstrap -/

/-- The public commands of the owner bootstrap, with the secrets and identifiers they draw. -/
inductive OwnerAuthCommand where
  | issue (code : String) (bootstrapId : Identifier) (lifetimeSeconds : Int)
      (idempotencyKey : String)
  | exchange (code token : String) (sessionId : Identifier) (deviceId : String)
      (sessionLifetimeSeconds : Int) (idempotencyKey : String)

/-- An owner bootstrap command as a program of the system. -/
def OwnerAuthCommand.run (clock : Clock) : OwnerAuthCommand → SystemM L Unit
  | .issue code bootstrapId lifetimeSeconds key => do
    let _ ← perform fun s : System L =>
      s.kernel.ownerBootstrap.issue s.kernel.activation.state s.kernel.ownerNodeExists code
        bootstrapId lifetimeSeconds key clock
  | .exchange code token sessionId deviceId lifetimeSeconds key => do
    let _ ← perform fun s : System L =>
      s.kernel.ownerBootstrap.exchange s.kernel.activation.state s.kernel.ownerNodeExists code
        token sessionId deviceId lifetimeSeconds key clock

/-! ### Token Lab -/

/-- The public commands of the Token Lab's event service. -/
inductive TokenLabCommand where
  | approveBaseline (baseline : TokenBaseline) (actorId idempotencyKey : String)
  | observe (observation : TokenObservation) (actorId idempotencyKey : String)
  | recordWeeklyReview (reviewedAt : DateTime) (actorId idempotencyKey : String)

/-- A Token Lab command as a program of the system. -/
def TokenLabCommand.run (clock : Clock) : TokenLabCommand → SystemM L Unit
  | .approveBaseline baseline actorId key => do
    let _ ← perform fun _ : System L =>
      TokenLabEventService.approveBaseline baseline actorId key clock
  | .observe observation actorId key => do
    let _ ← perform fun s : System L => s.tokenLab.observe observation actorId key clock
  | .recordWeeklyReview reviewedAt actorId key => do
    let _ ← perform fun s : System L =>
      s.tokenLab.recordWeeklyReview reviewedAt actorId key clock

/-! ### Environment instances -/

/-- The operations of the environment instance lifecycle. -/
inductive EnvironmentCommand where
  | attachActive (environmentInstance : EnvironmentInstance) (contract : EnvironmentContract)
  | register (environmentInstance : EnvironmentInstance) (contract : EnvironmentContract)
      (idempotencyKey : String)
  | verify (instanceId : String) (evidence : PreflightEvidence) (idempotencyKey : String)
  | preflightEvidenceHook (instanceId idempotencyKeyPrefix : String)
      (evidence : PreflightEvidence)
  | activate (instanceId idempotencyKey : String)
  | retire (instanceId idempotencyKey : String)
  | failover (failedInstanceId idempotencyKey : String)
      (requestReprovision : Except VsmError Unit)

/-- A lifecycle operation that records one event, in one process. -/
def performEnvironment (process : Nat)
    (plan : EnvironmentInstanceService → Except VsmError (Recording EnvironmentInstanceService)) :
    SystemM L Unit :=
  letI := environmentService (L := L) process
  do
    let _ ← perform fun s : System L => plan (s.environments process)

/-- `failover`: the recordings of `failoverRecordings` in order, and then the reprovisioner's
hook, which may raise, when there is no verified peer. -/
def failover (process : Nat) (failedInstanceId idempotencyKey : String)
    (requestReprovision : Except VsmError Unit) (clock : Clock) : SystemM L Unit :=
  letI := environmentService (L := L) process
  do
    let s ← get
    let (recordings, reprovision) ← EStateM.ofExcept
      ((s.environments process).failoverRecordings failedInstanceId idempotencyKey clock)
    recordings.forM fun r => do
      let _ ← record r
    if reprovision then
      EStateM.ofExcept requestReprovision

/-- A lifecycle operation of one process as a program of the system. -/
def EnvironmentCommand.run (process : Nat) (clock : Clock) : EnvironmentCommand → SystemM L Unit
  | .attachActive environmentInstance contract => do
    let s ← get
    let next ← EStateM.ofExcept ((s.environments process).attachActive
      (OperationalLedger.stream s.ledger) environmentInstance contract)
    set { s with environments := Function.update s.environments process next }
  | .register environmentInstance contract key =>
    performEnvironment process fun e => e.register environmentInstance contract key clock
  | .verify instanceId evidence key =>
    performEnvironment process fun e => e.verify instanceId evidence key clock
  | .preflightEvidenceHook instanceId keyPrefix evidence =>
    performEnvironment process fun e =>
      e.preflightEvidenceHook instanceId keyPrefix evidence clock
  | .activate instanceId key => performEnvironment process fun e => e.activate instanceId key clock
  | .retire instanceId key => performEnvironment process fun e => e.retire instanceId key clock
  | .failover failedInstanceId key requestReprovision =>
    Nanihold.failover process failedInstanceId key requestReprovision clock

end Nanihold
