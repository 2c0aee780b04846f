import Nanihold.Commands

/-!
# Kernel commands as plans

A Kernel command checks before it records, and no check follows its first event. So its checks
compute the recordings that it makes one after the other, over any ledger.

## Main definitions

* `KernelCommand.plan` — the recordings of a Kernel command, from the state in which it is called.
* `recordEach` — recordings made one after the other.

## Main results

* `KernelCommand.run_eq_plan` — a Kernel command makes the recordings of its plan.
-/

namespace Nanihold

variable [Sha256] {L : Type} [OperationalLedger L]

/-- Recordings made one after the other; the first one that raises ends them. -/
def recordEach {σ : Type} [Service L σ] : List (Recording σ) → SystemM L Unit
  | [] => pure ()
  | r :: rest => do
    let _ ← record r
    recordEach rest

/-- The recordings of `promote_agent_notification`. -/
def Kernel.planPromotion (k : Kernel) (notificationId : String) (workItem : WorkItem)
    (actorId idempotencyKey : String) (clock : Clock) :
    Except VsmError (List (Recording Kernel)) := do
  let notification ← k.requirePromotable notificationId workItem
  let creation ← k.createWorkItem workItem actorId s!"{idempotencyKey}:work-item" clock
  return [creation, Kernel.promotionRecording notificationId notification workItem.workItemId
    actorId idempotencyKey clock]

/-- The recordings of a Kernel command that passes its checks: two for a promotion, none for a
check and for the second import of a snapshot, else one. -/
def KernelCommand.plan (k : Kernel)
    (readStream : String → Nat → Nat → Except VsmError (List StoredEvent)) (clock : Clock) :
    KernelCommand → Except VsmError (List (Recording Kernel))
  | .registerNode node actorId key => ([·]) <$> k.registerNode node actorId key clock
  | .grantCapability grant actorId key => ([·]) <$> k.grantCapability grant actorId key clock
  | .createWorkItem workItem actorId key => ([·]) <$> k.createWorkItem workItem actorId key clock
  | .addDependency workItemId dependsOnId actorId key =>
    ([·]) <$> k.addDependency workItemId dependsOnId actorId key clock
  | .importCurrentWorkGraph snapshot actorId key =>
    (fun answer => match answer with
      | .inl _ => []
      | .inr r => [r]) <$> k.importCurrentWorkGraph readStream snapshot actorId key clock
  | .delegateWorkItem workItemId nodeId actorId key =>
    ([·]) <$> k.delegateWorkItem workItemId nodeId actorId key clock
  | .prepareOwnerConfirmedResume workItemId actorId key =>
    ([·]) <$> k.prepareOwnerConfirmedResume workItemId actorId key clock
  | .validateOwnerConfirmedResume workItemId =>
    (fun _ => []) <$> k.validateOwnerConfirmedResume workItemId
  | .createExecution execution actorId key =>
    ([·]) <$> k.createExecution execution actorId key clock
  | .recordAgentNotification notification actorId key =>
    ([·]) <$> k.recordAgentNotification notification actorId key clock
  | .promoteAgentNotification notificationId workItem actorId key =>
    k.planPromotion notificationId workItem actorId key clock
  | .recordAgentNameAssignment assignment registry actorId key =>
    ([·]) <$> k.recordAgentNameAssignment assignment registry actorId key clock
  | .registerAgentIdentity registration registry actorId key =>
    ([·]) <$> k.registerAgentIdentity registration registry actorId key clock
  | .setExecutionState executionId state actorType actorId key pauseReason =>
    ([·]) <$> k.setExecutionState executionId state actorType actorId key pauseReason clock
  | .recordPilotExecutionReceipt executionId receipt actorId key =>
    ([·]) <$> k.recordPilotExecutionReceipt executionId receipt actorId key clock
  | .reserveBudget reservation actorId key =>
    ([·]) <$> k.reserveBudget reservation actorId key clock
  | .planEffect lease actorId key => ([·]) <$> k.planEffect lease actorId key clock
  | .approveEffect leaseId actorId key => ([·]) <$> k.approveEffect leaseId actorId key clock
  | .activateEffect leaseId actorId key => ([·]) <$> k.activateEffect leaseId actorId key clock
  | .markEffectUnknown leaseId actorId key =>
    ([·]) <$> k.markEffectUnknown leaseId actorId key clock
  | .requireEffectReconciliation leaseId => (fun _ => []) <$> k.requireEffectReconciliation leaseId
  | .reconcileEffect leaseId result actorId key =>
    ([·]) <$> k.reconcileEffect leaseId result actorId key clock
  | .intervene workItemId actorId reason key =>
    ([·]) <$> k.intervene workItemId actorId reason key clock
  | .recordS3StarFinding finding actorId key =>
    ([·]) <$> k.recordS3StarFinding finding actorId key clock
  | .acceptS3StarRisk findingId s5NodeId actorId rationale key =>
    ([·]) <$> k.acceptS3StarRisk findingId s5NodeId actorId rationale key clock
  | .completeWorkItem workItemId evidence actorId key =>
    ([·]) <$> k.completeWorkItem workItemId evidence actorId key clock
  | .pilotHostDisconnected pilotHostId key =>
    ([·]) <$> Kernel.pilotHostDisconnected pilotHostId key clock
  | .registerReferenceGrant grant actorId key =>
    ([·]) <$> k.registerReferenceGrant grant actorId key clock
  | .registerRouteSnapshot snapshot actorId key =>
    ([·]) <$> k.registerRouteSnapshot snapshot actorId key clock
  | .approveRouteSnapshot snapshotId approval actorId key =>
    ([·]) <$> k.approveRouteSnapshot snapshotId approval actorId key clock
  | .publishRouteSnapshot snapshotId actorId key =>
    ([·]) <$> k.publishRouteSnapshot snapshotId actorId key clock
  | .retireRouteSnapshot snapshotId reasonCode replacementSnapshotId actorId key =>
    ([·]) <$> k.retireRouteSnapshot snapshotId reasonCode replacementSnapshotId actorId key clock

/-! ### A command makes the recordings of its plan -/

variable {s : System L} {clock : Clock}

theorem recordEach_singleton {σ : Type} [Service L σ] (r : Recording σ) :
    (recordEach [r] : SystemM L Unit) = record r >>= fun _ => pure () := rfl

theorem run_performKernel (plan : Kernel → Except VsmError (Recording Kernel)) (s : System L) :
    performKernel plan s =
      (EStateM.ofExcept (([·]) <$> plan s.kernel) >>= recordEach : SystemM L Unit) s := by
  rw [performKernel, perform, bind_assoc, EStateM.run_get_bind, bind_assoc]
  cases plan s.kernel with
  | error e => rfl
  | ok r => rfl

theorem run_checkKernel {α : Type} (read : Kernel → Except VsmError α) (s : System L) :
    checkKernel read s =
      (EStateM.ofExcept ((fun _ => []) <$> read s.kernel) >>= recordEach (σ := Kernel) :
        SystemM L Unit) s := by
  rw [checkKernel, EStateM.run_get_bind]
  cases read s.kernel with
  | error e => rfl
  | ok a => rfl

private theorem run_importCurrentWorkGraph (snapshot : CurrentWorkGraphSnapshot)
    (actorId key : String) (s : System L) :
    importCurrentWorkGraph snapshot actorId key clock s =
      (EStateM.ofExcept ((KernelCommand.importCurrentWorkGraph snapshot actorId key).plan s.kernel
        (OperationalLedger.stream s.ledger) clock) >>= recordEach : SystemM L Unit) s := by
  rw [importCurrentWorkGraph, EStateM.run_get_bind, KernelCommand.plan]
  cases s.kernel.importCurrentWorkGraph (OperationalLedger.stream s.ledger) snapshot actorId key
    clock with
  | error e => rfl
  | ok answer => cases answer <;> rfl

private theorem run_promoteAgentNotification (notificationId : String) (workItem : WorkItem)
    (actorId key : String) (s : System L) :
    promoteAgentNotification notificationId workItem actorId key clock s =
      (EStateM.ofExcept (s.kernel.planPromotion notificationId workItem actorId key clock) >>=
        recordEach : SystemM L Unit) s := by
  rw [promoteAgentNotification, EStateM.run_get_bind, Kernel.planPromotion]
  cases s.kernel.requirePromotable notificationId workItem with
  | error e => rfl
  | ok notification =>
    rw [EStateM.run_ofExcept_ok_bind, performKernel, perform, bind_assoc, bind_assoc,
      EStateM.run_get_bind, bind_assoc]
    cases s.kernel.createWorkItem workItem actorId s!"{key}:work-item" clock with
    | error e => rfl
    | ok r => rfl

/-- **A Kernel command makes the recordings of its plan**, over any ledger. -/
theorem KernelCommand.run_eq_plan (c : KernelCommand) (clock : Clock) (s : System L) :
    c.run clock s =
      (EStateM.ofExcept (c.plan s.kernel (OperationalLedger.stream s.ledger) clock) >>=
        recordEach : SystemM L Unit) s := by
  cases c with
  | importCurrentWorkGraph snapshot actorId key =>
    exact run_importCurrentWorkGraph snapshot actorId key s
  | promoteAgentNotification notificationId workItem actorId key =>
    exact run_promoteAgentNotification notificationId workItem actorId key s
  | validateOwnerConfirmedResume workItemId =>
    rw [run]
    exact run_checkKernel _ s
  | requireEffectReconciliation leaseId =>
    rw [run]
    exact run_checkKernel _ s
  | _ =>
    rw [run]
    exact run_performKernel _ s

end Nanihold
