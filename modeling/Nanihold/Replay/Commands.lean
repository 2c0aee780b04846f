import Nanihold.Replay.Record

/-!
# The commands as steps

Each public command of the Kernel, the Activation service and the owner bootstrap in a synced
system: it changes nothing, or it records one event, or it is a promotion and records two.

## Main definitions

* `KernelCommand.Records` — the events a Kernel command may record.
* `KernelCommand.Outcome` — what a Kernel command does to the system.

## Main results

* `performKernel_cases` — a single command refuses, or records what it planned.
* `KernelCommand.outcome`, `ActivationCommand.outcome`, `HistoryCommand.outcome`,
  `OwnerAuthCommand.outcome` — what the commands do.
* `System.Reaches.invariant` — what each event keeps, a command keeps.
-/

namespace Nanihold

variable [Sha256] {s : MemorySystem} {clock : Clock}

/-! ### Programs that record once -/

/-- Checking and then recording, with what is known of the recording. -/
private theorem perform_cases {σ : Type} [Service InMemoryOperationalLedger σ]
    {plan : MemorySystem → Except VsmError (Recording σ)}
    {P : EventEnvelope → MemorySystem → Prop}
    (hplan : ∀ r, plan s = .ok r → (∃ e, record r s = .error e s) ∨
      ∃ event answer s', P event s' ∧ record r s = .ok answer s') :
    (∃ e, (perform plan >>= fun _ => pure () : SystemM _ Unit) s = .error e s) ∨
    ∃ event s', P event s' ∧
      (perform plan >>= fun _ => pure () : SystemM _ Unit) s = .ok () s' := by
  have hrun : (perform plan >>= fun _ => pure () : SystemM _ Unit) s =
      (EStateM.ofExcept (plan s) >>= fun r => record r >>= fun _ => pure ()) s := by
    rw [perform, bind_assoc, EStateM.run_get_bind, bind_assoc]
  rw [hrun]
  cases h : plan s with
  | error e => exact Or.inl ⟨e, rfl⟩
  | ok r =>
    rw [EStateM.run_ofExcept_ok_bind]
    rcases hplan r h with ⟨e, herror⟩ | ⟨event, answer, s', hP, hok⟩
    · exact Or.inl ⟨e, EStateM.run_bind_of_error herror⟩
    · exact Or.inr ⟨event, s', hP, EStateM.run_bind_of_ok hok⟩

/-! ### Kernel commands -/

/-- The streams and events a Kernel command may record in a given state. -/
@[simp]
def KernelCommand.Records (k : Kernel) : KernelCommand → String → KernelPayload → Prop
  | .registerNode node _ _, _, payload => payload = .nodeRegistered node
  | .grantCapability grant _ _, _, payload => payload = .capabilityGranted grant
  | .createWorkItem workItem _ _, _, payload => payload = .workItemCreated workItem
  | .addDependency workItemId dependsOnId _ _, _, payload =>
    payload = .workDependencyAdded ⟨workItemId, dependsOnId, .dependsOn⟩
  | .importCurrentWorkGraph snapshot _ _, _, payload =>
    payload = .currentWorkGraphImported snapshot
  | .delegateWorkItem workItemId nodeId _ _, streamId, payload =>
    streamId = workItemId ∧ payload = .workItemDelegated nodeId
  | .prepareOwnerConfirmedResume workItemId _ _, streamId, payload =>
    streamId = workItemId ∧ payload = .workItemResumePrepared .ready
  | .validateOwnerConfirmedResume _, _, _ => False
  | .createExecution execution _ _, _, payload => payload = .executionCreated execution
  | .recordAgentNotification notification _ _, _, payload =>
    payload = .agentNotificationDelivered notification
  | .promoteAgentNotification _ workItem _ _, _, payload =>
    payload = .workItemCreated workItem ∧ k.workItems.contains workItem.workItemId = false
  | .recordAgentNameAssignment assignment _ _ _, _, payload =>
    payload = .agentNameAssigned assignment
  | .registerAgentIdentity registration _ _ _, _, payload =>
    payload = .agentIdentityRegistered registration
  | .setExecutionState executionId state _ _ _ pauseReason, streamId, payload =>
    streamId = executionId ∧ payload = .executionStateChanged state pauseReason
  | .recordPilotExecutionReceipt executionId _ _ _, streamId, payload =>
    streamId = executionId ∧ ∃ recorded, payload = .pilotExecutionReceiptRecorded recorded
  | .reserveBudget reservation _ _, _, payload => payload = .budgetReserved reservation
  | .planEffect lease _ _, _, payload => payload = .effectPlanned lease
  | .approveEffect leaseId actorId _, _, payload =>
    ∃ approvedAt, payload = .effectApproved ⟨leaseId, actorId, approvedAt⟩
  | .activateEffect leaseId _ _, streamId, payload =>
    streamId = leaseId ∧ payload = .effectActivated .active
  | .markEffectUnknown leaseId _ _, streamId, payload =>
    streamId = leaseId ∧ ∃ key, payload = .effectResultUnknown .unknown key
  | .requireEffectReconciliation _, _, _ => False
  | .reconcileEffect leaseId result _ _, streamId, payload =>
    streamId = leaseId ∧ ∃ key, payload = .effectReconciled result key
  | .intervene workItemId _ reason _, streamId, payload =>
    streamId = workItemId ∧ payload = .humanIntervention reason
  | .recordS3StarFinding finding _ _, _, payload => payload = .s3StarFindingRecorded finding
  | .acceptS3StarRisk findingId s5NodeId _ rationale _, _, payload =>
    payload = .s3StarRiskAccepted findingId s5NodeId rationale
  | .completeWorkItem workItemId evidence _ _, streamId, payload =>
    streamId = workItemId ∧ payload = .workItemCompleted evidence
  | .pilotHostDisconnected pilotHostId _, _, payload =>
    payload = .pilotHostDisconnected pilotHostId
  | .registerReferenceGrant grant _ _, _, payload => payload = .referenceGranted grant
  | .registerRouteSnapshot snapshot _ _, _, payload =>
    payload = .routeSnapshotRegistered snapshot
  | .approveRouteSnapshot snapshotId approval _ _, streamId, payload =>
    streamId = snapshotId ∧ ∃ state, payload = .routeSnapshotApproved approval state
  | .publishRouteSnapshot snapshotId _ _, streamId, payload =>
    streamId = snapshotId ∧ payload = .routeSnapshotPublished .published
  | .retireRouteSnapshot snapshotId reasonCode replacement _ _, streamId, payload =>
    streamId = snapshotId ∧
      ∃ reason, reasonCode = some reason ∧
        payload = .routeSnapshotRetired reason replacement .retired

namespace KernelCommand.Records

variable {k : Kernel} {c : KernelCommand} {streamId : String}

omit [Sha256] in
/-- `create_work_item`, and the promotion of a notification to a new work item, record a
created work item. -/
theorem createWorkItem {work : WorkItem} (h : c.Records k streamId (.workItemCreated work)) :
    (∃ actorId key, c = .createWorkItem work actorId key) ∨
      k.workItems.contains work.workItemId = false := by
  cases c <;> simp only [KernelCommand.Records, reduceCtorEq, and_false, exists_false,
    KernelPayload.workItemCreated.injEq] at h
  case createWorkItem created actorId key => exact Or.inl ⟨actorId, key, by rw [h]⟩
  case promoteAgentNotification => exact Or.inr (h.1 ▸ h.2)

omit [Sha256] in
/-- Only `import_current_work_graph` records an imported work graph. -/
theorem importCurrentWorkGraph {snapshot : CurrentWorkGraphSnapshot}
    (h : c.Records k streamId (.currentWorkGraphImported snapshot)) :
    ∃ actorId key, c = .importCurrentWorkGraph snapshot actorId key := by
  cases c <;> simp only [KernelCommand.Records, reduceCtorEq, and_false, false_and, exists_false,
    KernelPayload.currentWorkGraphImported.injEq] at h
  case importCurrentWorkGraph imported actorId key => exact ⟨actorId, key, by rw [h]⟩

omit [Sha256] in
/-- Only `grant_capability` records a granted capability. -/
theorem grantCapability {grant : CapabilityGrant}
    (h : c.Records k streamId (.capabilityGranted grant)) :
    ∃ actorId key, c = .grantCapability grant actorId key := by
  cases c <;> simp only [KernelCommand.Records, reduceCtorEq, and_false, false_and, exists_false,
    KernelPayload.capabilityGranted.injEq] at h
  case grantCapability granted actorId key => exact ⟨actorId, key, by rw [h]⟩

omit [Sha256] in
/-- Only `reserve_budget` records a reservation. -/
theorem reserveBudget {reservation : BudgetReservation}
    (h : c.Records k streamId (.budgetReserved reservation)) :
    ∃ actorId key, c = .reserveBudget reservation actorId key := by
  cases c <;> simp only [KernelCommand.Records, reduceCtorEq, and_false, false_and, exists_false,
    KernelPayload.budgetReserved.injEq] at h
  case reserveBudget reserved actorId key => exact ⟨actorId, key, by rw [h]⟩

omit [Sha256] in
/-- Only `record_s3_star_finding` records a finding. -/
theorem recordS3StarFinding {finding : S3StarFinding}
    (h : c.Records k streamId (.s3StarFindingRecorded finding)) :
    ∃ actorId key, c = .recordS3StarFinding finding actorId key := by
  cases c <;> simp only [KernelCommand.Records, reduceCtorEq, and_false, false_and, exists_false,
    KernelPayload.s3StarFindingRecorded.injEq] at h
  case recordS3StarFinding recorded actorId key => exact ⟨actorId, key, by rw [h]⟩

omit [Sha256] in
/-- Only `create_execution` records a created execution. -/
theorem createExecution {execution : Execution}
    (h : c.Records k streamId (.executionCreated execution)) :
    ∃ actorId key, c = .createExecution execution actorId key := by
  cases c <;> simp only [KernelCommand.Records, reduceCtorEq, and_false, false_and, exists_false,
    KernelPayload.executionCreated.injEq] at h
  case createExecution created actorId key => exact ⟨actorId, key, by rw [h]⟩

omit [Sha256] in
/-- Only `record_agent_notification` records a delivery. -/
theorem recordAgentNotification {notification : AgentNotification}
    (h : c.Records k streamId (.agentNotificationDelivered notification)) :
    ∃ actorId key, c = .recordAgentNotification notification actorId key := by
  cases c <;> simp only [KernelCommand.Records, reduceCtorEq, and_false, false_and, exists_false,
    KernelPayload.agentNotificationDelivered.injEq] at h
  case recordAgentNotification delivered actorId key => exact ⟨actorId, key, by rw [h]⟩

omit [Sha256] in
/-- Only `record_agent_name_assignment` records an assigned name. -/
theorem recordAgentNameAssignment {assignment : AgentNameAssignment}
    (h : c.Records k streamId (.agentNameAssigned assignment)) :
    ∃ registry actorId key, c = .recordAgentNameAssignment assignment registry actorId key := by
  cases c <;> simp only [KernelCommand.Records, reduceCtorEq, and_false, false_and, exists_false,
    KernelPayload.agentNameAssigned.injEq] at h
  case recordAgentNameAssignment assigned registry actorId key =>
    exact ⟨registry, actorId, key, by rw [h]⟩

omit [Sha256] in
/-- Only `set_execution_state` records a changed state. -/
theorem setExecutionState {state : ExecutionState} {pauseReason : Option String}
    (h : c.Records k streamId (.executionStateChanged state pauseReason)) :
    ∃ actorType actorId key, c = .setExecutionState streamId state actorType actorId key
      pauseReason := by
  cases c <;> simp only [KernelCommand.Records, reduceCtorEq, and_false, false_and, exists_false,
    KernelPayload.executionStateChanged.injEq] at h
  case setExecutionState executionId next actorType actorId key reason =>
    obtain ⟨rfl, rfl, rfl⟩ := h
    exact ⟨actorType, actorId, key, rfl⟩

omit [Sha256] in
/-- Only `plan_effect` records a planned lease. -/
theorem planEffect {lease : EffectLease} (h : c.Records k streamId (.effectPlanned lease)) :
    ∃ actorId key, c = .planEffect lease actorId key := by
  cases c <;> simp only [KernelCommand.Records, reduceCtorEq, and_false, false_and, exists_false,
    KernelPayload.effectPlanned.injEq] at h
  case planEffect planned actorId key => exact ⟨actorId, key, by rw [h]⟩

omit [Sha256] in
/-- Only `intervene` records a human intervention. -/
theorem intervene {reason : String} (h : c.Records k streamId (.humanIntervention reason)) :
    ∃ actorId key, c = .intervene streamId actorId reason key := by
  cases c <;> simp only [KernelCommand.Records, reduceCtorEq, and_false, false_and, exists_false,
    KernelPayload.humanIntervention.injEq] at h
  case intervene workItemId actorId given key =>
    obtain ⟨rfl, rfl⟩ := h
    exact ⟨actorId, key, rfl⟩

omit [Sha256] in
/-- Only `accept_s3_star_risk` records an accepted risk. -/
theorem acceptS3StarRisk {findingId s5NodeId rationale : String}
    (h : c.Records k streamId (.s3StarRiskAccepted findingId s5NodeId rationale)) :
    ∃ actorId key, c = .acceptS3StarRisk findingId s5NodeId actorId rationale key := by
  cases c <;> simp only [KernelCommand.Records, reduceCtorEq, and_false, false_and, exists_false,
    KernelPayload.s3StarRiskAccepted.injEq] at h
  case acceptS3StarRisk accepted s5 actorId reason key =>
    obtain ⟨rfl, rfl, rfl⟩ := h
    exact ⟨actorId, key, rfl⟩

omit [Sha256] in
/-- Only `register_route_snapshot` records a registered snapshot. -/
theorem registerRouteSnapshot {snapshot : RouteSnapshot}
    (h : c.Records k streamId (.routeSnapshotRegistered snapshot)) :
    ∃ actorId key, c = .registerRouteSnapshot snapshot actorId key := by
  cases c <;> simp only [KernelCommand.Records, reduceCtorEq, and_false, false_and, exists_false,
    KernelPayload.routeSnapshotRegistered.injEq] at h
  case registerRouteSnapshot registered actorId key => exact ⟨actorId, key, by rw [h]⟩

omit [Sha256] in
/-- Only `retire_route_snapshot` records a retired snapshot. -/
theorem retireRouteSnapshot {reason : RouteSnapshotRetirementReason}
    {replacement : Option String} {state : RouteSnapshotState}
    (h : c.Records k streamId (.routeSnapshotRetired reason replacement state)) :
    ∃ actorId key, c = .retireRouteSnapshot streamId (some reason) replacement actorId key := by
  cases c <;> simp only [KernelCommand.Records, reduceCtorEq, and_false, false_and, exists_false,
    KernelPayload.routeSnapshotRetired.injEq] at h
  case retireRouteSnapshot snapshotId reasonCode replacementSnapshotId actorId key =>
    obtain ⟨rfl, given, hgiven, rfl, rfl, -⟩ := h
    exact ⟨actorId, key, by rw [hgiven]⟩

end KernelCommand.Records

/-- What a Kernel command does to the system. -/
inductive KernelCommand.Outcome (s : MemorySystem) : KernelCommand → MemorySystem → Prop
  | unchanged (c : KernelCommand) : Outcome s c s
  | recorded {c : KernelCommand} {event : EventEnvelope} {s' : MemorySystem}
      (payload : KernelPayload) (payload_eq : event.payload = .kernel payload)
      (records : c.Records s.kernel event.streamId payload) (mirrored : s.Mirrored event s') :
      Outcome s c s'
  | promoted {notificationId : String} {workItem : WorkItem} {actorId key : String}
      {created linked : EventEnvelope} {mid s' : MemorySystem}
      (created_eq : created.payload = .kernel (.workItemCreated workItem))
      (fresh : s.kernel.workItems.contains workItem.workItemId = false)
      (first : s.Mirrored created mid)
      (linked_eq : linked.payload =
        .kernel (.agentNotificationPromoted notificationId workItem.workItemId))
      (second : mid.Mirrored linked s') :
      Outcome s (.promoteAgentNotification notificationId workItem actorId key) s'

omit [Sha256] in
/-- What every recorded event keeps, a Kernel command keeps. -/
theorem KernelCommand.Outcome.invariant {I : MemorySystem → Prop}
    (hstep : ∀ s event s', I s → s.Mirrored event s' → I s') {c : KernelCommand}
    {s s' : MemorySystem} (h : c.Outcome s s') (hs : I s) : I s' := by
  cases h with
  | unchanged => exact hs
  | recorded payload _ _ hrecorded => exact hstep _ _ _ hs hrecorded
  | promoted _ _ hfirst _ hsecond => exact hstep _ _ _ (hstep _ _ _ hs hfirst) hsecond

/-- A Kernel plan whose recordings are replayable is refused or is one step. -/
theorem performKernel_cases (hs : s.KernelSynced)
    (plan : Kernel → Except VsmError (Recording Kernel)) (Q : String → KernelPayload → Prop)
    (hplan : ∀ r, plan s.kernel = .ok r →
      ∃ streamId payload, Q streamId payload ∧ s.kernel.Replayable streamId payload r) :
    (∃ e, performKernel plan s = .error e s) ∨
    ∃ event s', (∃ payload, event.payload = .kernel payload ∧ Q event.streamId payload ∧
      s.Mirrored event s') ∧ performKernel plan s = .ok () s' := by
  refine perform_cases fun r h => ?_
  obtain ⟨streamId, payload, hQ, hr⟩ := hplan r h
  rcases record_kernel hs hr with herror | ⟨event, answer, s', rfl, hpayload, hstep, hok⟩
  · exact Or.inl herror
  · exact Or.inr ⟨event, answer, s', ⟨payload, hpayload, hQ, hstep⟩, hok⟩

private theorem outcome_of_replayable (hs : s.KernelSynced) {c : KernelCommand}
    {plan : Kernel → Except VsmError (Recording Kernel)}
    (hplan : ∀ r, plan s.kernel = .ok r →
      ∃ streamId payload,
        c.Records s.kernel streamId payload ∧ s.kernel.Replayable streamId payload r) :
    c.Outcome s ((performKernel plan).finalState s) := by
  rcases performKernel_cases hs plan _ hplan with
    ⟨e, herror⟩ | ⟨event, s', ⟨payload, hpayload, hrecords, hstep⟩, hok⟩
  · rw [EStateM.finalState_of_error herror]
    exact .unchanged c
  · rw [EStateM.finalState_of_ok hok]
    exact .recorded payload hpayload hrecords hstep

omit [Sha256] in
private theorem finalState_checkKernel {α : Type} (read : Kernel → Except VsmError α)
    (s : MemorySystem) : (checkKernel read).finalState s = s := by
  rw [checkKernel, EStateM.finalState_get_bind, EStateM.finalState_bind_pure]
  cases read s.kernel <;> rfl

/-- A Kernel command whose checks raise, or whose event the ledger does not accept, changes
nothing. -/
theorem finalState_performKernel_of_not_accepted
    {plan : Kernel → Except VsmError (Recording Kernel)}
    (h : ∀ r, plan s.kernel = .ok r → ¬ r.Accepted s) : (performKernel plan).finalState s = s := by
  rw [performKernel, EStateM.finalState_bind_pure]
  exact finalState_perform_of_not_accepted h

/-- An import that is answered, refused or not accepted changes nothing. -/
theorem finalState_importCurrentWorkGraph_of_not_accepted {snapshot : CurrentWorkGraphSnapshot}
    {actorId key : String}
    (h : ∀ r, s.kernel.importCurrentWorkGraph (OperationalLedger.stream s.ledger) snapshot actorId
      key clock = .ok (.inr r) → ¬ r.Accepted s) :
    (importCurrentWorkGraph snapshot actorId key clock).finalState s = s := by
  rw [importCurrentWorkGraph, EStateM.finalState_get_bind]
  cases hplan : s.kernel.importCurrentWorkGraph (OperationalLedger.stream s.ledger) snapshot
    actorId key clock with
  | error e => rfl
  | ok answer =>
    rw [EStateM.finalState_ofExcept_ok_bind]
    cases answer with
    | inl known => rfl
    | inr r =>
      rw [EStateM.finalState_bind_pure]
      exact finalState_record_of_not_accepted (h r hplan)

theorem outcome_importCurrentWorkGraph (hs : s.KernelSynced) (snapshot : CurrentWorkGraphSnapshot)
    (actorId key : String) :
    (KernelCommand.importCurrentWorkGraph snapshot actorId key).Outcome s
      ((importCurrentWorkGraph snapshot actorId key clock).finalState s) := by
  rw [importCurrentWorkGraph, EStateM.finalState_get_bind]
  cases h : s.kernel.importCurrentWorkGraph (OperationalLedger.stream s.ledger) snapshot actorId
    key clock with
  | error e =>
    rw [EStateM.finalState_ofExcept_error_bind]
    exact .unchanged _
  | ok answer =>
    rw [EStateM.finalState_ofExcept_ok_bind]
    cases answer with
    | inl known => exact .unchanged _
    | inr r =>
      rw [EStateM.finalState_bind_pure]
      have hr := Kernel.replayable_importCurrentWorkGraph h
      rcases record_kernel hs hr with ⟨e, herror⟩ | ⟨event, result, s', -, hpayload, hstep, hok⟩
      · rw [EStateM.finalState_of_error herror]
        exact .unchanged _
      · rw [EStateM.finalState_of_ok hok]
        exact .recorded _ hpayload rfl hstep

theorem outcome_promoteAgentNotification (hs : s.KernelSynced) (notificationId : String)
    (workItem : WorkItem) (actorId key : String) :
    (KernelCommand.promoteAgentNotification notificationId workItem actorId key).Outcome s
      ((promoteAgentNotification notificationId workItem actorId key clock).finalState s) := by
  rw [promoteAgentNotification, EStateM.finalState_get_bind]
  cases h : s.kernel.requirePromotable notificationId workItem with
  | error e =>
    rw [EStateM.finalState_ofExcept_error_bind]
    exact .unchanged _
  | ok notification =>
    rw [EStateM.finalState_ofExcept_ok_bind]
    simp only [Kernel.requirePromotable, Checked.orRaise_bind_eq_ok_iff,
      Checked.check_bind_eq_ok_iff, Checked.pure_eq_ok_iff] at h
    obtain ⟨known, hknown, hrequires, hunpromoted, -, -, hfresh, rfl⟩ := h
    rcases performKernel_cases hs
        (fun k => k.createWorkItem workItem actorId s!"{key}:work-item" clock)
        (fun _ payload => payload = .workItemCreated workItem)
        (fun r h => ⟨_, _, rfl, Kernel.replayable_createWorkItem h⟩) with
      ⟨e, herror⟩ | ⟨created, mid, ⟨_, hcreated, rfl, hfirst⟩, hok⟩
    · rw [EStateM.finalState_bind_of_error herror]
      exact .unchanged _
    rw [EStateM.finalState_bind_of_ok hok, EStateM.finalState_bind_pure]
    have hmid := System.kernelSynced_of_stepped hs hfirst.stepped
    have hchanges := Kernel.changes_of_applyKernel hs.consistent (hfirst.stepped.kernel hcreated).2
    have hr : mid.kernel.Replayable known.notificationId
        (.agentNotificationPromoted notificationId workItem.workItemId)
        (Kernel.promotionRecording notificationId known workItem.workItemId actorId key clock) := by
      refine Kernel.replayable_promotionRecording hmid.consistent ?_ ?_ hrequires hunpromoted
      · rw [hchanges.agent_notifications]
        exact hknown
      · rw [hchanges.work_items, Kernel.workItemsAfter, OrderedDict.contains_set]
        simp
    rcases record_kernel hmid hr with ⟨e, herror⟩ | ⟨linked, answer, s', -, hlinked, hsecond, hok'⟩
    · rw [EStateM.finalState_of_error herror]
      exact .recorded _ hcreated ⟨rfl, hfresh⟩ hfirst
    · rw [EStateM.finalState_of_ok hok']
      exact .promoted hcreated hfresh hfirst hlinked hsecond

/-- **A Kernel command** changes nothing, records one event it may record, or is a promotion
that records two. -/
theorem KernelCommand.outcome (hs : s.KernelSynced) (c : KernelCommand) (clock : Clock) :
    c.Outcome s ((c.run clock).finalState s) := by
  cases c <;> rw [run]
  case importCurrentWorkGraph => exact outcome_importCurrentWorkGraph hs _ _ _
  case promoteAgentNotification => exact outcome_promoteAgentNotification hs _ _ _ _
  case validateOwnerConfirmedResume =>
    rw [finalState_checkKernel]
    exact .unchanged _
  case requireEffectReconciliation =>
    rw [finalState_checkKernel]
    exact .unchanged _
  all_goals refine outcome_of_replayable hs fun r h => ?_
  case registerNode => exact ⟨_, _, rfl, Kernel.replayable_registerNode h⟩
  case grantCapability => exact ⟨_, _, rfl, Kernel.replayable_grantCapability h⟩
  case createWorkItem => exact ⟨_, _, rfl, Kernel.replayable_createWorkItem h⟩
  case addDependency => exact ⟨_, _, rfl, Kernel.replayable_addDependency h⟩
  case delegateWorkItem => exact ⟨_, _, ⟨rfl, rfl⟩, Kernel.replayable_delegateWorkItem h⟩
  case prepareOwnerConfirmedResume =>
    exact ⟨_, _, ⟨rfl, rfl⟩, Kernel.replayable_prepareOwnerConfirmedResume h⟩
  case createExecution => exact ⟨_, _, rfl, Kernel.replayable_createExecution h⟩
  case recordAgentNotification => exact ⟨_, _, rfl, Kernel.replayable_recordAgentNotification h⟩
  case recordAgentNameAssignment => exact ⟨_, _, rfl, Kernel.replayable_recordAgentNameAssignment h⟩
  case registerAgentIdentity => exact ⟨_, _, rfl, Kernel.replayable_registerAgentIdentity h⟩
  case setExecutionState => exact ⟨_, _, ⟨rfl, rfl⟩, Kernel.replayable_setExecutionState h⟩
  case reserveBudget => exact ⟨_, _, rfl, Kernel.replayable_reserveBudget h⟩
  case planEffect => exact ⟨_, _, rfl, Kernel.replayable_planEffect h⟩
  case activateEffect => exact ⟨_, _, ⟨rfl, rfl⟩, Kernel.replayable_activateEffect h⟩
  case intervene => exact ⟨_, _, ⟨rfl, rfl⟩, Kernel.replayable_intervene h⟩
  case completeWorkItem => exact ⟨_, _, ⟨rfl, rfl⟩, Kernel.replayable_completeWorkItem h⟩
  case pilotHostDisconnected => exact ⟨_, _, rfl, Kernel.replayable_pilotHostDisconnected h⟩
  case registerReferenceGrant => exact ⟨_, _, rfl, Kernel.replayable_registerReferenceGrant h⟩
  case registerRouteSnapshot => exact ⟨_, _, rfl, Kernel.replayable_registerRouteSnapshot h⟩
  case publishRouteSnapshot => exact ⟨_, _, ⟨rfl, rfl⟩, Kernel.replayable_publishRouteSnapshot h⟩
  case recordS3StarFinding => exact ⟨_, _, rfl, Kernel.replayable_recordS3StarFinding h⟩
  case approveEffect =>
    obtain ⟨value, hr⟩ := Kernel.replayable_approveEffect h
    exact ⟨_, _, ⟨value, rfl⟩, hr⟩
  case markEffectUnknown =>
    obtain ⟨value, hr⟩ := Kernel.replayable_markEffectUnknown h
    exact ⟨_, _, ⟨rfl, value, rfl⟩, hr⟩
  case reconcileEffect =>
    obtain ⟨value, hr⟩ := Kernel.replayable_reconcileEffect h
    exact ⟨_, _, ⟨rfl, value, rfl⟩, hr⟩
  case approveRouteSnapshot =>
    obtain ⟨value, hr⟩ := Kernel.replayable_approveRouteSnapshot h
    exact ⟨_, _, ⟨rfl, value, rfl⟩, hr⟩
  case retireRouteSnapshot =>
    obtain ⟨reason, hreason, hr⟩ := Kernel.replayable_retireRouteSnapshot h
    exact ⟨_, _, ⟨rfl, reason, hreason, rfl⟩, hr⟩
  case recordPilotExecutionReceipt =>
    obtain ⟨recorded, hr⟩ := Kernel.replayable_recordPilotExecutionReceipt hs.consistent h
    exact ⟨_, _, ⟨rfl, recorded, rfl⟩, hr⟩
  case acceptS3StarRisk =>
    obtain ⟨streamId, hr⟩ := Kernel.replayable_acceptS3StarRisk hs.consistent h
    exact ⟨streamId, _, rfl, hr⟩

/-! ### Activation commands -/

/-- A system reached by recording events of some kind and by storing blobs. -/
inductive System.Reaches (P : EventPayload → Prop) : MemorySystem → MemorySystem → Prop
  | refl (s : MemorySystem) : Reaches P s s
  | recorded {s mid s' : MemorySystem} {event : EventEnvelope} (before : Reaches P s mid)
      (payload : P event.payload) (mirrored : mid.Mirrored event s') : Reaches P s s'
  | stored {s mid : MemorySystem} (before : Reaches P s mid) (data : Document) :
      Reaches P s (mid.putBlob data)

section Reaches

variable {P : EventPayload → Prop}

/-- What every such event and every blob keeps holds in the system reached. -/
theorem System.Reaches.invariant {I : MemorySystem → Prop}
    (hstep : ∀ s event s', I s → P event.payload → s.Mirrored event s' → I s')
    (hblob : ∀ s data, I s → I (s.putBlob data)) {s s' : MemorySystem}
    (h : System.Reaches P s s') (hs : I s) : I s' := by
  induction h with
  | refl => exact hs
  | recorded _ hpayload hmirrored ih => exact hstep _ _ _ ih hpayload hmirrored
  | stored _ data ih => exact hblob _ data ih

theorem System.Reaches.trans {s mid s' : MemorySystem} (h : System.Reaches P s mid)
    (h' : System.Reaches P mid s') : System.Reaches P s s' :=
  h'.invariant (fun _ _ _ ih hpayload hmirrored => .recorded ih hpayload hmirrored)
    (fun _ data ih => .stored ih data) h

theorem System.Reaches.kernelSynced {s s' : MemorySystem} (h : System.Reaches P s s')
    (hs : s.KernelSynced) : s'.KernelSynced :=
  h.invariant (fun _ _ _ hs _ hmirrored => System.kernelSynced_of_stepped hs hmirrored.stepped)
    (fun _ data hs => System.kernelSynced_putBlob hs data) hs

/-- Events of other services and blobs leave the Kernel's collections alone. -/
theorem System.Reaches.collections {s s' : MemorySystem} (h : System.Reaches P s s')
    (hs : s.KernelSynced) (hP : ∀ payload, ¬ P (.kernel payload)) :
    ∃ activation auth,
      s'.kernel = { s.kernel with activation := activation, ownerBootstrap := auth } := by
  have hkept : s'.KernelSynced ∧ ∃ activation auth,
      s'.kernel = { s.kernel with activation := activation, ownerBootstrap := auth } := by
    apply h.invariant (I := fun s' => s'.KernelSynced ∧ ∃ activation auth,
      s'.kernel = { s.kernel with activation := activation, ownerBootstrap := auth })
    · rintro mid event next ⟨hmid, activation, auth, hkernel⟩ hpayload hmirrored
      refine ⟨System.kernelSynced_of_stepped hmid hmirrored.stepped, ?_⟩
      rcases hmirrored.stepped.kernel_cases hmid with
        ⟨payload, hown, -⟩ | ⟨-, activation', auth', hkernel'⟩
      · exact absurd (hown ▸ hpayload) (hP payload)
      · exact ⟨activation', auth', by rw [hkernel', hkernel]⟩
    · rintro mid data ⟨hmid, hkernel⟩
      exact ⟨System.kernelSynced_putBlob hmid data, hkernel⟩
    · exact ⟨hs, s.kernel.activation, s.kernel.ownerBootstrap, rfl⟩
  exact hkept.2

end Reaches

private theorem outcome_of_record {σ : Type} [Service InMemoryOperationalLedger σ]
    {P : EventPayload → Prop} {r : Recording σ}
    (h : (∃ e, record r s = .error e s) ∨
      ∃ event answer s', P event.payload ∧ s.Mirrored event s' ∧ record r s = .ok answer s') :
    System.Reaches P s ((record r).finalState s) := by
  rcases h with ⟨e, herror⟩ | ⟨event, answer, s', hpayload, hstep, hok⟩
  · rw [EStateM.finalState_of_error herror]
    exact .refl s
  · rw [EStateM.finalState_of_ok hok]
    exact .recorded (.refl s) hpayload hstep

private theorem outcome_of_perform {σ : Type} [Service InMemoryOperationalLedger σ]
    {P : EventPayload → Prop} (plan : MemorySystem → Except VsmError (Recording σ))
    (hplan : ∀ r, plan s = .ok r → System.Reaches P s ((record r).finalState s)) :
    System.Reaches P s
      ((perform plan >>= fun _ => pure () : SystemM _ Unit).finalState s) := by
  rw [EStateM.finalState_bind_pure, perform, EStateM.finalState_get_bind]
  cases h : plan s with
  | error e =>
    rw [EStateM.finalState_ofExcept_error_bind]
    exact .refl s
  | ok r =>
    rw [EStateM.finalState_ofExcept_ok_bind]
    exact hplan r h

/-- The payload is an Activation payload. -/
def EventPayload.IsActivation (payload : EventPayload) : Prop := ∃ p, payload = .activation p

/-- The payload is an owner authentication payload. -/
def EventPayload.IsOwnerAuth (payload : EventPayload) : Prop := ∃ p, payload = .ownerAuth p

theorem outcome_of_activation (hs : s.KernelSynced) {payload : ActivationPayload}
    {r : Recording ActivationService} (hr : s.kernel.activation.Replayable payload r) :
    System.Reaches EventPayload.IsActivation s ((record r).finalState s) := by
  refine outcome_of_record ?_
  rcases record_activation hs hr with herror | ⟨event, answer, s', hpayload, hstep, hok⟩
  · exact Or.inl herror
  · exact Or.inr ⟨event, answer, s', ⟨payload, hpayload⟩, hstep, hok⟩

/-- **An Activation command** changes nothing or records one event. -/
theorem ActivationCommand.outcome (hs : s.KernelSynced) (c : ActivationCommand) (clock : Clock) :
    System.Reaches EventPayload.IsActivation s ((c.run clock).finalState s) := by
  cases c <;> rw [run]
  case registerHistoryImport receipt conversationId actorId key =>
    rw [Nanihold.registerHistoryImport, EStateM.finalState_get_bind]
    cases h : s.kernel.activation.registerHistoryImport receipt conversationId actorId key
      clock with
    | error e =>
      rw [EStateM.finalState_ofExcept_error_bind]
      exact .refl s
    | ok answer =>
      rw [EStateM.finalState_ofExcept_ok_bind]
      cases answer with
      | none => exact .refl s
      | some r =>
        rw [EStateM.finalState_bind_pure]
        exact outcome_of_activation hs
          (ActivationService.replayable_registerHistoryImport hs.settled h)
  all_goals refine outcome_of_perform _ fun r h => ?_
  case startReorientation =>
    obtain ⟨payload, -, hr⟩ := ActivationService.replayable_startReorientation h
    exact outcome_of_activation hs hr
  case recordReorientationFailure =>
    exact outcome_of_activation hs (ActivationService.replayable_recordReorientationFailure h)
  case interruptReorientationAttempt =>
    exact outcome_of_activation hs (ActivationService.replayable_interruptReorientationAttempt h)
  case recordReorientationSessionCheckpoint =>
    exact outcome_of_activation hs
      (ActivationService.replayable_recordReorientationSessionCheckpoint h)
  case submitAssessment =>
    exact outcome_of_activation hs (ActivationService.replayable_submitAssessment h)
  case requestAssessmentRevision =>
    obtain ⟨prior, -, hr⟩ := ActivationService.replayable_requestAssessmentRevision h
    exact outcome_of_activation hs hr
  case approve => exact outcome_of_activation hs (ActivationService.replayable_approve h)
  case recordReorientationUsage =>
    exact outcome_of_activation hs (ActivationService.replayable_recordReorientationUsage h)

/-! ### History tools -/

theorem outcome_resolveHistory (hs : s.KernelSynced) (maxResultBytes : Nat)
    (action : ReadHistoryAction) (reply : Except VsmError HistoryPage) (actorId key : String) :
    System.Reaches EventPayload.IsActivation s
      ((resolveHistory maxResultBytes action reply actorId key clock).finalState s) := by
  rw [resolveHistory, EStateM.finalState_get_bind]
  cases h : requirePage s.kernel.activation maxResultBytes action reply with
  | error e =>
    rw [EStateM.finalState_ofExcept_error_bind]
    exact .refl s
  | ok page =>
    have hstate : s.kernel.activation.state = .reorientationOnly :=
      (Checked.check_bind_eq_ok_iff.mp h).1
    have hblob : (onLedger (OperationalLedger.putBlob (.text page.encoded)) :
        SystemM InMemoryOperationalLedger String) s =
        .ok (blobRef (.text page.encoded)) (s.putBlob (.text page.encoded)) := rfl
    rw [EStateM.finalState_ofExcept_ok_bind, EStateM.finalState_bind_of_ok hblob,
      EStateM.finalState_bind_pure]
    refine .trans (.stored (.refl s) (.text page.encoded)) ?_
    have hreplayable : (s.putBlob (.text page.encoded)).kernel.activation.Replayable _
        (s.kernel.activation.historyQueryRecording action page actorId key clock) :=
      ActivationService.replayable_historyQueryRecording hstate
    exact outcome_of_activation (System.kernelSynced_putBlob hs _) hreplayable

theorem outcome_recordSessionIndex (actorId key : String) :
    ∀ (pages : List (Option String × HistoryPage)) (clock : Clock) {s : MemorySystem},
      s.KernelSynced → System.Reaches EventPayload.IsActivation s
        ((recordSessionIndex actorId key pages clock).finalState s)
  | [], _, s, _ => .refl s
  | (pageCursor, page) :: pages, clock, s, hs => by
    have hblob : (onLedger (OperationalLedger.putBlob (.text page.encoded)) :
        SystemM InMemoryOperationalLedger String) s =
        .ok (blobRef (.text page.encoded)) (s.putBlob (.text page.encoded)) := rfl
    rw [recordSessionIndex, EStateM.finalState_bind_of_ok hblob, EStateM.finalState_get_bind]
    have hmid := System.kernelSynced_putBlob hs (.text page.encoded)
    refine .trans (.stored (.refl s) (.text page.encoded)) ?_
    have hreplayable : (s.putBlob (.text page.encoded)).kernel.activation.Replayable _
        (s.kernel.activation.sessionIndexRecording pageCursor page actorId key clock) :=
      ActivationService.replayable_sessionIndexRecording
    have hrecord := outcome_of_activation hmid hreplayable
    cases hrun : (record ((s.putBlob (.text page.encoded)).kernel.activation.sessionIndexRecording
        pageCursor page actorId key clock) : SystemM InMemoryOperationalLedger _)
        (s.putBlob (.text page.encoded)) with
    | error e t =>
      rw [EStateM.finalState_bind_of_error hrun]
      exact EStateM.finalState_of_error hrun ▸ hrecord
    | ok answer t =>
      have hreached : System.Reaches EventPayload.IsActivation _ t :=
        EStateM.finalState_of_ok hrun ▸ hrecord
      rw [EStateM.finalState_bind_of_ok hrun]
      obtain ⟨event, result⟩ := answer
      rw [EStateM.finalState_bind_pure]
      exact hreached.trans
        (outcome_recordSessionIndex actorId key pages _ (hreached.kernelSynced hmid))

/-- **A history tool** stores blobs and records activation events. -/
theorem HistoryCommand.outcome (hs : s.KernelSynced) (c : HistoryCommand) (clock : Clock) :
    System.Reaches EventPayload.IsActivation s ((c.run clock).finalState s) := by
  cases c with
  | resolve maxResultBytes action reply actorId key =>
    rw [run, EStateM.finalState_bind_pure]
    exact outcome_resolveHistory hs maxResultBytes action reply actorId key
  | scanSessionIndex maxResultBytes receipt replies actorId key =>
    rw [run, EStateM.finalState_bind_pure, Nanihold.scanSessionIndex, EStateM.finalState_get_bind]
    cases traverseSessionIndex maxResultBytes none replies with
    | error e => exact .refl s
    | ok answer =>
      obtain ⟨pages, observed⟩ := answer
      rw [EStateM.finalState_ofExcept_ok_bind]
      by_cases hindex : observed.toFinset = s.kernel.activation.sessions.keys.toFinset ∧
          observed.toFinset.card = receipt.sessionCount
      · simp only [require, Checked.check, if_pos hindex]
        exact outcome_recordSessionIndex actorId key pages clock hs
      · simp only [require, Checked.check, if_neg hindex]
        exact .refl s

/-! ### Owner commands -/

/-- **An owner command** changes nothing or records one event. -/
theorem OwnerAuthCommand.outcome (hs : s.KernelSynced) (c : OwnerAuthCommand) (clock : Clock) :
    System.Reaches EventPayload.IsOwnerAuth s ((c.run clock).finalState s) := by
  have hrecord {payload : OwnerAuthPayload} {r : Recording OwnerBootstrapService}
      (hr : s.kernel.ownerBootstrap.Replayable payload r) :
      System.Reaches EventPayload.IsOwnerAuth s ((record r).finalState s) := by
    refine outcome_of_record ?_
    rcases record_ownerAuth hs hr with herror | ⟨event, answer, s', hpayload, hstep, hok⟩
    · exact Or.inl herror
    · exact Or.inr ⟨event, answer, s', ⟨payload, hpayload⟩, hstep, hok⟩
  cases c <;> rw [run] <;> refine outcome_of_perform _ fun r h => ?_
  case issue =>
    obtain ⟨record, hr⟩ := OwnerBootstrapService.replayable_issue h
    exact hrecord hr
  case exchange =>
    obtain ⟨bootstrapId, usedAt, session, hr⟩ :=
      OwnerBootstrapService.replayable_exchange hs.keyed h
    exact hrecord hr

end Nanihold
