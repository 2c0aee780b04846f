import Nanihold.Safety.Acceptance
import Nanihold.Safety.Eligibility

/-!
# Preflight and dispatch

Before the owner's selection is dispatched, `preflight_ready` checks it. It makes the checks that a
dispatch makes but for one: it does not ask whether an execution of a work item is already in
flight. So what passed the preflight is started, except for such work.

## Main definitions

* `Kernel.WorkPlaced` — work items belong to the Kernel's data space and to nodes it knows.
* `Kernel.Startable`, `Kernel.InFlight` — a work item whose dependencies are completed, and one with
  an execution that has not ended.
* `Dispatcher.Unhindered` — the ledger takes what a dispatch appends, and its executions are named.
* `PreflightKept` — a dispatch starts all that the preflight promised.

## Main results

* `workPlaced_runHost` — work items stay placed.
* `planDispatch_of_preflight` — what passed the preflight is planned.
* `preflightKept_iff` — a dispatch keeps the promise exactly when nothing selected is in flight.
-/

namespace Nanihold

open Dispatcher

/-! ### Where work belongs -/

/-- Every work item is in the data space of the Kernel, and delegated to a node that it knows. -/
def Kernel.WorkPlaced (k : Kernel) : Prop :=
  ∀ id work, k.workItems.get? id = some work →
    work.dataSpaceId = k.dataSpace.dataSpaceId ∧ k.nodes.contains work.delegatedToNodeId = true

/-- The work items that an event brings. -/
def KernelPayload.newWork : KernelPayload → List WorkItem
  | .workItemCreated work => [work]
  | .currentWorkGraphImported snapshot => snapshot.workItems
  | _ => []

section Events

variable {k next : Kernel} {event : EventEnvelope} {payload : KernelPayload}

private theorem nodes_of_changes (hchanges : k.Changes event payload next) {id : String}
    (h : k.nodes.contains id = true) : next.nodes.contains id = true := by
  rw [hchanges.nodes]
  cases payload <;> simp only [Kernel.nodesAfter, h]
  case nodeRegistered node => rw [OrderedDict.contains_set, h, Bool.or_true]
  case currentWorkGraphImported snapshot =>
    exact (OrderedDict.contains_update id _ _).mpr (Or.inl h)

/-- What an event keeps of the work items that were there, but for a delegation. -/
private theorem place_after (k : Kernel) (event : EventEnvelope)
    (hdelegated : ∀ nodeId, payload ≠ .workItemDelegated nodeId)
    (hnew : payload.newWork = []) (id : String) :
    ((k.workItemsAfter event payload).get? id).map
        (fun work => (work.dataSpaceId, work.delegatedToNodeId)) =
      (k.workItems.get? id).map fun work => (work.dataSpaceId, work.delegatedToNodeId) := by
  cases payload <;> simp only [Kernel.workItemsAfter]
  case workItemCreated work => cases hnew
  case currentWorkGraphImported snapshot =>
    rw [show snapshot.workItems = [] from hnew]
    rfl
  case workItemDelegated nodeId => exact absurd rfl (hdelegated nodeId)
  case s3StarFindingRecorded finding =>
    split_ifs
    · refine OrderedDict.map_get?_modify _ _ (fun _ => ?_) id
      rfl
    · rfl
  case workItemResumePrepared | humanIntervention | s3StarRiskAccepted | workItemCompleted =>
    refine OrderedDict.map_get?_modify _ _ (fun _ => ?_) id
    rfl

/-- **What an event keeps.** Work items stay placed when those that the event brings are. -/
theorem workPlaced_of_changes (h : k.WorkPlaced) (hpermits : k.Permits event payload)
    (hchanges : k.Changes event payload next)
    (hnew : ∀ work ∈ payload.newWork, work.dataSpaceId = k.dataSpace.dataSpaceId ∧
      next.nodes.contains work.delegatedToNodeId = true) : next.WorkPlaced := by
  intro id work hget
  rw [hchanges.data_space]
  have hknown {known : WorkItem} (hknown : k.workItems.get? id = some known) :
      known.dataSpaceId = k.dataSpace.dataSpaceId ∧
        next.nodes.contains known.delegatedToNodeId = true :=
    ⟨(h id known hknown).1, nodes_of_changes hchanges (h id known hknown).2⟩
  rw [hchanges.work_items] at hget
  by_cases hdelegated : ∃ nodeId, payload = .workItemDelegated nodeId
  · obtain ⟨nodeId, rfl⟩ := hdelegated
    rw [Kernel.workItemsAfter, OrderedDict.get?_modify] at hget
    split_ifs at hget with hid
    · obtain ⟨known, hfound, rfl⟩ := Option.map_eq_some_iff.mp hget
      exact ⟨(hknown hfound).1, nodes_of_changes hchanges hpermits.1⟩
    · exact hknown hget
  rcases hbrought : payload.newWork with _ | ⟨first, rest⟩
  · have hplace := place_after k event (fun nodeId heq => hdelegated ⟨nodeId, heq⟩) hbrought id
    rw [hget] at hplace
    obtain ⟨known, hfound, hsame⟩ := Option.map_eq_some_iff.mp hplace.symm
    obtain ⟨hspace, hnode⟩ := Prod.mk.inj hsame
    rw [← hspace, ← hnode]
    exact hknown hfound
  · cases payload <;> simp only [KernelPayload.newWork, reduceCtorEq] at hbrought
    case workItemCreated created =>
      rw [Kernel.workItemsAfter, OrderedDict.get?_set] at hget
      split_ifs at hget with hid
      · obtain rfl := Option.some.inj hget
        exact hnew _ (List.mem_singleton.mpr rfl)
      · exact hknown hget
    case currentWorkGraphImported snapshot =>
      rcases OrderedDict.get?_update id work _ _ hget with hold | hadded
      · exact hknown hold
      · obtain ⟨added, hmem, heq⟩ := List.mem_map.mp hadded
        obtain ⟨-, rfl⟩ := Prod.ext_iff.mp heq
        exact hnew _ hmem

end Events

section Runs

variable [Sha256] {s : MemorySystem}

/-- The work items that an event brings are placed once it is recorded. -/
def Kernel.Places (k : Kernel) (payload : KernelPayload) : Prop :=
  ∀ work ∈ payload.newWork, work.dataSpaceId = k.dataSpace.dataSpaceId ∧
    (k.nodesAfter payload).contains work.delegatedToNodeId = true

omit [Sha256] in
private theorem placed_of_mirrored (hs : s.KernelSynced) (h : s.kernel.WorkPlaced)
    {event : EventEnvelope} {s' : MemorySystem} (hmirrored : s.Mirrored event s')
    {payload : KernelPayload} (hpayload : event.payload = .kernel payload)
    (hplaces : s.kernel.Places payload) : s'.kernel.WorkPlaced := by
  obtain ⟨hpermits, happlied⟩ := hmirrored.stepped.kernel hpayload
  have hchanges := Kernel.changes_of_applyKernel hs.consistent happlied
  refine workPlaced_of_changes h hpermits hchanges fun work hwork => ?_
  rw [hchanges.nodes]
  exact hplaces work hwork

omit [Sha256] in
/-- The checks of `create_work_item` place the work item. -/
private theorem places_of_createWorkItem {k : Kernel} {work : WorkItem} {actorId key : String}
    {clock : Clock} {r : Recording Kernel} (h : k.createWorkItem work actorId key clock = .ok r) :
    k.Places (.workItemCreated work) := by
  simp only [Kernel.createWorkItem, Checked.check_bind_eq_ok_iff, Checked.forM_bind_eq_ok_iff] at h
  obtain ⟨hspace, -, -, hnodes, -⟩ := h
  intro created hcreated
  obtain rfl := List.mem_singleton.mp hcreated
  exact ⟨hspace, Checked.check_eq_ok_iff.mp (hnodes _ (by simp))⟩

/-- The checks of an import place the imported work items. -/
private theorem places_of_importCurrentWorkGraph {k : Kernel}
    {readStream : String → Nat → Nat → Except VsmError (List StoredEvent)}
    {snapshot : CurrentWorkGraphSnapshot} {actorId key : String} {clock : Clock}
    {r : Recording Kernel}
    (h : k.importCurrentWorkGraph readStream snapshot actorId key clock = .ok (.inr r)) :
    k.Places (.currentWorkGraphImported snapshot) := by
  have himported := Kernel.workGraphSnapshotId_of_import h
  simp only [Kernel.importCurrentWorkGraph, himported, Checked.check_bind_eq_ok_iff,
    Checked.forM_bind_eq_ok_iff] at h
  obtain ⟨-, -, -, -, -, -, hitems, -⟩ := h
  intro work hwork
  have hitem := hitems work hwork
  simp only [Kernel.requireImportedWork, Checked.check_bind_eq_ok_iff,
    Checked.check_eq_ok_iff] at hitem
  obtain ⟨hspace, hnodes, -⟩ := hitem
  refine ⟨hspace, (OrderedDict.contains_update ..).mpr ?_⟩
  rw [List.map_map]
  exact (hnodes _ (by simp)).symm

/-- A command that would misplace a work item is refused. -/
private theorem finalState_of_not_places {c : KernelCommand} {clock : Clock} {streamId : String}
    {payload : KernelPayload} (hrecords : c.Records s.kernel streamId payload)
    (hnot : ¬ s.kernel.Places payload) : (c.run clock).finalState s = s := by
  cases payload
  case workItemCreated work =>
    cases c <;> simp only [KernelCommand.Records, reduceCtorEq, and_false, exists_false,
      KernelPayload.workItemCreated.injEq] at hrecords
    case createWorkItem created actorId key =>
      subst hrecords
      rw [KernelCommand.run]
      exact finalState_performKernel_of_not_accepted fun r hr _ =>
        hnot (places_of_createWorkItem hr)
    case promoteAgentNotification notificationId created actorId key =>
      obtain ⟨rfl, -⟩ := hrecords
      rw [KernelCommand.run, promoteAgentNotification, EStateM.finalState_get_bind]
      cases s.kernel.requirePromotable notificationId work with
      | error e => rfl
      | ok notification =>
        rw [EStateM.finalState_ofExcept_ok_bind]
        have hrefused (r : Recording Kernel) :
            s.kernel.createWorkItem work actorId s!"{key}:work-item" clock ≠ .ok r :=
          fun hr => hnot (places_of_createWorkItem hr)
        cases hplan : s.kernel.createWorkItem work actorId s!"{key}:work-item" clock with
        | ok r => exact absurd hplan (hrefused r)
        | error e =>
          refine EStateM.finalState_of_error (e := e) (EStateM.run_bind_of_error ?_)
          exact EStateM.run_bind_of_error (perform_of_error hplan)
  case currentWorkGraphImported snapshot =>
    obtain ⟨actorId, key, rfl⟩ := hrecords.importCurrentWorkGraph
    rw [KernelCommand.run]
    exact finalState_importCurrentWorkGraph_of_not_accepted fun r hr _ =>
      hnot (places_of_importCurrentWorkGraph hr)
  all_goals
    exact absurd (fun _ hwork => by cases hwork) hnot

theorem workPlaced_kernelCommand (hs : s.KernelSynced) (h : s.kernel.WorkPlaced)
    (c : KernelCommand) (clock : Clock) : ((c.run clock).finalState s).kernel.WorkPlaced := by
  generalize hnext : (c.run clock).finalState s = s'
  have hout := c.outcome hs clock
  rw [hnext] at hout
  cases hout with
  | unchanged => exact h
  | recorded payload hpayload hrecords hmirrored =>
    by_cases hplaces : s.kernel.Places payload
    · exact placed_of_mirrored hs h hmirrored hpayload hplaces
    · rw [← hnext, finalState_of_not_places hrecords hplaces]
      exact h
  | @promoted notificationId work actorId key created linked mid _ hcreated hfresh hfirst hlinked
      hsecond =>
    by_cases hplaces : s.kernel.Places (.workItemCreated work)
    · have hmid := System.kernelSynced_of_stepped hs hfirst.stepped
      exact placed_of_mirrored hmid (placed_of_mirrored hs h hfirst hcreated hplaces) hsecond
        hlinked fun _ hwork => by cases hwork
    · have hrecords : KernelCommand.Records s.kernel
          (.promoteAgentNotification notificationId work actorId key) created.streamId
          (.workItemCreated work) := ⟨rfl, hfresh⟩
      rw [← hnext, finalState_of_not_places hrecords hplaces]
      exact h

/-- **Any command** keeps work items placed. -/
theorem workPlaced_step (hs : s.KernelSynced) (h : s.kernel.WorkPlaced)
    (input : ServiceCommand × Clock) : (ServiceCommand.step s input).kernel.WorkPlaced := by
  obtain ⟨c, clock⟩ := input
  have hreaches {P : EventPayload → Prop} {s' : MemorySystem} (hreaches : System.Reaches P s s')
      (hP : ∀ payload, ¬ P (.kernel payload)) : s'.kernel.WorkPlaced := by
    obtain ⟨activation, auth, hkernel⟩ := hreaches.collections hs hP
    rw [hkernel]
    exact h
  cases c with
  | kernel c => exact workPlaced_kernelCommand hs h c clock
  | activation c => exact hreaches (c.outcome hs clock) fun _ ⟨_, h⟩ => by cases h
  | history c => exact hreaches (c.outcome hs clock) fun _ ⟨_, h⟩ => by cases h
  | ownerAuth c => exact hreaches (c.outcome hs clock) fun _ ⟨_, h⟩ => by cases h

/-- Runs with restarts keep work items placed. -/
theorem workPlaced_runProcesses (dataSpace : DataSpace)
    (inputs : List (ProcessCommand × Clock)) :
    (runProcesses (.new dataSpace) inputs).kernel.WorkPlaced := by
  have hrun : SyncedIn dataSpace (runProcesses (.new dataSpace) inputs) ∧
      (runProcesses (.new dataSpace) inputs).kernel.WorkPlaced := by
    refine Run.exec_invariant (I := fun s => SyncedIn dataSpace s ∧ s.kernel.WorkPlaced) ?_ inputs
      ⟨syncedIn_new dataSpace, fun _ _ hget => by cases hget⟩
    rintro s ⟨command, clock⟩ ⟨hs, h⟩
    refine ⟨ProcessCommand.invariant_step (syncedIn_processes dataSpace) s _ hs, ?_⟩
    cases command with
    | service c => exact workPlaced_step hs.1.toKernelSynced h (c, clock)
    | restart pageSize =>
      rw [ProcessCommand.step, ProcessCommand.run]
      rcases finalState_bootstrap hs.1 pageSize clock with hsame | hinterrupted
      · rw [hsame]
        exact h
      · have hsynced := (System.synced_restarted hs.1).toKernelSynced
        rw [hinterrupted]
        obtain ⟨activation, auth, hkernel⟩ :=
          (interruptLostReorientation_reaches hsynced clock).collections hsynced (by
            rintro _ ⟨_, h⟩
            cases h)
        rw [hkernel]
        exact h
  exact hrun.2

/-- A synced system whose work items are placed stays one. -/
theorem workPlaced_keptByHost :
    KeptByHost fun s => s.KernelSynced ∧ s.kernel.WorkPlaced where
  service s input hs :=
    ⟨ServiceCommand.invariant_step kernelSynced_kept s input hs.1, workPlaced_step hs.1 hs.2 input⟩
  lifecycle := kernelSynced_keptByLifecycle Kernel.WorkPlaced
  attached _ _ hs := ⟨{ hs.1 with }, hs.2⟩

/-- Work items are placed in every state that a host reaches. -/
theorem workPlaced_runHost (dataSpace : DataSpace) (processes : List (ProcessCommand × Clock))
    {d : Dispatcher} (hsystem : d.system = runProcesses (.new dataSpace) processes)
    (inputs : List (HostInput × Clock)) :
    (runHost d inputs).system.KernelSynced ∧ (runHost d inputs).system.kernel.WorkPlaced := by
  refine workPlaced_keptByHost.run ?_ inputs
  rw [hsystem]
  exact ⟨(syncedIn_runProcesses dataSpace processes).1.toKernelSynced,
    workPlaced_runProcesses dataSpace processes⟩

end Runs

/-! ### What the preflight says -/

namespace Kernel

variable (k : Kernel)

/-- All that the work item depends on is completed. -/
def Startable (workItemId : String) : Prop :=
  ∀ targetId ∈ k.prerequisites workItemId,
    ∃ target, k.workItems.get? targetId = some target ∧ target.state = .completed

/-- An execution of the work item is requested or active. -/
def InFlight (workItemId : String) : Prop :=
  ∃ id execution, k.executions.get? id = some execution ∧ execution.workItemId = workItemId ∧
    (execution.state = .requested ∨ execution.state = .active)

theorem mem_activeWorkIds_iff (workItemId : String) :
    workItemId ∈ k.activeWorkIds ↔ k.InFlight workItemId := by
  rw [activeWorkIds, List.mem_map]
  constructor
  · rintro ⟨execution, hexecution, hwork⟩
    obtain ⟨hvalue, hstate⟩ := List.mem_filter.mp hexecution
    obtain ⟨id, hget⟩ := (OrderedDict.mem_values_iff ..).mp hvalue
    exact ⟨id, execution, hget, hwork, of_decide_eq_true hstate⟩
  · rintro ⟨id, execution, hget, hwork, hstate⟩
    exact ⟨execution, List.mem_filter.mpr
      ⟨OrderedDict.mem_values_of_get? hget, decide_eq_true hstate⟩, hwork⟩

theorem isEligible_of_notMem {work : WorkItem} {allowed : List String}
    (h : work.workItemId ∉ allowed) : k.isEligible (some allowed) work = .ok false := by
  unfold isEligible
  rw [if_pos ⟨allowed, rfl, h⟩]
  rfl

/-- **The checks of a dispatch return** for selected work that is ready, and find it eligible when
it is startable and idle. -/
theorem isEligible_of_known {work : WorkItem} {allowed : List String}
    (hknown : ∀ targetId ∈ k.prerequisites work.workItemId,
      ∃ target, k.workItems.get? targetId = some target)
    (hstate : work.state = .ready) (hallowed : work.workItemId ∈ allowed) :
    ∃ eligible, k.isEligible (some allowed) work = .ok eligible ∧
      (k.Startable work.workItemId → ¬ k.InFlight work.workItemId → eligible = true) := by
  unfold isEligible
  rw [if_neg (by rintro ⟨_, hsome, hnot⟩; exact hnot (Option.some.inj hsome ▸ hallowed))]
  by_cases hflight : work.workItemId ∈ k.activeWorkIds
  · rw [if_pos (Or.inr hflight)]
    exact ⟨false, rfl, fun _ hidle =>
      absurd ((k.mem_activeWorkIds_iff _).mp hflight) hidle⟩
  rw [if_neg (by rintro (hnot | hin) <;> contradiction)]
  have hany := Checked.anyM_of_ok (l := k.prerequisites work.workItemId)
    (f := fun itemId => do
      let prerequisite ← entry (k.workItems.get? itemId) itemId
      return decide (prerequisite.state ≠ .completed))
    (q := fun itemId => (k.workItems.get? itemId).any fun target => target.state ≠ .completed)
    (fun itemId hitem => by
      obtain ⟨target, hget⟩ := hknown itemId hitem
      rw [hget]
      rfl)
  rw [hany]
  refine ⟨_, rfl, fun hstartable _ => ?_⟩
  rw [Bool.not_eq_true', List.any_eq_false]
  intro itemId hitem
  obtain ⟨target, hget, hcompleted⟩ := hstartable itemId hitem
  simp [hget, hcompleted]

/-- When the checks of the selected work return, the eligible work is found. -/
theorem exists_eligibleWork (allowed : List String)
    (h : ∀ work ∈ k.workItems.values, work.workItemId ∈ allowed →
      ∃ eligible, k.isEligible (some allowed) work = .ok eligible) :
    ∃ works, k.eligibleWork (some allowed) = .ok works ∧ ∀ work, work ∈ works ↔
      work ∈ k.workItems.values ∧ k.isEligible (some allowed) work = .ok true := by
  have hsorted (work : WorkItem) : (work ∈ k.workItems.values.insertionSort
      fun work other => work.workItemId ≤ other.workItemId) ↔ work ∈ k.workItems.values :=
    (List.perm_insertionSort _ _).mem_iff
  have hchecks : ∀ work ∈ k.workItems.values,
      k.isEligible (some allowed) work =
        .ok ((k.isEligible (some allowed) work).toOption.getD false) := by
    intro work hvalue
    by_cases hmem : work.workItemId ∈ allowed
    · obtain ⟨eligible, heligible⟩ := h work hvalue hmem
      rw [heligible]
      rfl
    · rw [k.isEligible_of_notMem hmem]
      rfl
  refine ⟨_, Checked.filterM_of_ok fun work hwork => hchecks work ((hsorted work).mp hwork),
    fun work => ?_⟩
  rw [List.mem_filter, hsorted]
  refine and_congr_right fun hvalue => ?_
  rw [hchecks work hvalue]
  exact ⟨fun htrue => congrArg Except.ok htrue, fun hok => Except.ok.inj hok⟩

end Kernel

section Plans

variable {d : Dispatcher} {call : DispatchCall} {allowed : List String}

/-- The check of `preflight_ready` and of a dispatch that a dependency is completed. -/
private def completedCheck (k : Kernel) (itemId : String) : Except VsmError Bool := do
  let prerequisite ← entry (k.workItems.get? itemId) itemId
  return prerequisite.state = .completed

/-- **What the preflight found** of one work item. -/
structure Passed (d : Dispatcher) (call : DispatchCall)
    (registry : OrderedDict String ModelCandidate) (bindingByNode : OrderedDict String PilotBinding)
    (published : OrderedDict String RouteSnapshot) (allowed : List String) (workItemId : String)
    (work : WorkItem) : Prop where
  known : d.system.kernel.workItems.get? workItemId = some work
  ready : work.state = .ready
  bound : bindingByNode.contains work.delegatedToNodeId = true
  available : ∀ targetId ∈ d.system.kernel.prerequisites workItemId, targetId ∉ allowed →
    ∃ target, d.system.kernel.workItems.get? targetId = some target
  routed : ∃ snapshot candidateKey candidate, published.get? work.routeKey = some snapshot ∧
    snapshot.evidenceCursor = call.answers.evidenceCursor workItemId ∧
    call.answers.selectProduction workItemId snapshot = .ok candidateKey ∧
    registry.get? candidateKey = some candidate ∧
    call.answers.validateWorkCandidate candidate = .ok ()

theorem passed_of_preflightWork {registry : OrderedDict String ModelCandidate}
    {bindingByNode : OrderedDict String PilotBinding}
    {published : OrderedDict String RouteSnapshot} {workItemId : String} {startable : Bool}
    (h : d.preflightWork call registry bindingByNode published allowed false workItemId =
      .ok startable) :
    (∃ work, Passed d call registry bindingByNode published allowed workItemId work) ∧
      (d.system.kernel.prerequisites workItemId).allM (completedCheck d.system.kernel) =
        .ok startable := by
  simp only [preflightWork, Checked.orRaise_bind_eq_ok_iff, Checked.check_bind_eq_ok_iff] at h
  obtain ⟨work, hknown, hstate, hbound, h⟩ := h
  obtain ⟨unavailable, hany, h⟩ := Checked.bind_eq_ok_iff.mp h
  obtain ⟨hnone, h⟩ := Checked.check_bind_eq_ok_iff.mp h
  obtain ⟨answer, hall, h⟩ := Checked.bind_eq_ok_iff.mp h
  simp only [Checked.orRaise_bind_eq_ok_iff, Checked.check_bind_eq_ok_iff] at h
  obtain ⟨snapshot, hsnapshot, hcursor, h⟩ := h
  obtain ⟨candidateKey, hselected, h⟩ := Checked.bind_eq_ok_iff.mp h
  obtain ⟨candidate, hcandidate, h⟩ := Checked.orRaise_bind_eq_ok_iff.mp h
  obtain ⟨_, hvalid, h⟩ := Checked.bind_eq_ok_iff.mp h
  obtain rfl := Checked.pure_eq_ok_iff.mp h
  subst hnone
  refine ⟨⟨work, hknown, ?_, hbound, fun targetId htarget hnot => ?_,
    snapshot, candidateKey, candidate, hsnapshot, hcursor, hselected, hcandidate, hvalid⟩, hall⟩
  · exact List.mem_singleton.mp hstate
  · have hchecked := Checked.eq_false_of_anyM hany targetId htarget
    rw [if_neg hnot] at hchecked
    obtain ⟨target, hfound, -⟩ := Checked.bind_eq_ok_iff.mp hchecked
    exact ⟨target, Checked.orRaise_eq_ok_iff.mp hfound⟩

/-- Keys that are as many as the pairs are distinct. -/
private theorem nodup_of_length_ofList {ν : Type} (pairs : List (String × ν))
    (h : (OrderedDict.ofList pairs).keys.length = pairs.length) : (pairs.map Prod.fst).Nodup := by
  have hmem (x : String) :
      x ∈ (OrderedDict.ofList pairs).keys ↔ x ∈ (pairs.map Prod.fst).dedup := by
    rw [OrderedDict.mem_keys_iff, OrderedDict.ofList, OrderedDict.contains_update, List.mem_dedup]
    simp
  have hperm := (List.perm_ext_iff_of_nodup (OrderedDict.ofList pairs).nodup_keys
    (List.nodup_dedup _)).mpr hmem
  rw [← List.dedup_eq_self]
  refine (List.dedup_sublist _).eq_of_length ?_
  rw [← hperm.length_eq, List.length_map, List.length_map, ← h, OrderedDict.keys,
    List.length_map]

/-- Published snapshots of distinct routes are found. -/
private theorem exists_publishedByRoute {k : Kernel}
    (hnodup : ((k.routeSnapshots.values.filter (·.state = .published)).map (·.routeKey)).Nodup) :
    ∃ published, k.publishedByRoute = .ok published := by
  unfold Kernel.publishedByRoute
  have hfresh : ∀ snapshot ∈ k.routeSnapshots.values, snapshot.state = .published →
      (OrderedDict.empty : OrderedDict String RouteSnapshot).contains snapshot.routeKey = false :=
    fun _ _ _ => rfl
  generalize k.routeSnapshots.values = snapshots at hnodup hfresh ⊢
  generalize OrderedDict.empty = published at hfresh ⊢
  induction snapshots generalizing published with
  | nil => exact ⟨published, rfl⟩
  | cons snapshot rest ih =>
    rw [List.foldlM_cons]
    have hrest : ∀ other ∈ rest, other.state = .published →
        published.contains other.routeKey = false :=
      fun other hother => hfresh other (List.mem_cons_of_mem _ hother)
    by_cases hstate : snapshot.state = .published
    · rw [List.filter_cons, if_pos (decide_eq_true hstate), List.map_cons, List.nodup_cons]
        at hnodup
      rw [if_pos hstate, require, Checked.check_bind_of (hfresh snapshot List.mem_cons_self hstate)]
      refine ih hnodup.2 (published.set snapshot.routeKey snapshot)
        fun other hother hpublished => ?_
      rw [OrderedDict.contains_set, hrest other hother hpublished, Bool.or_false,
        decide_eq_false_iff_not]
      intro hsame
      exact hnodup.1 (hsame ▸ List.mem_map_of_mem
        (List.mem_filter.mpr ⟨hother, decide_eq_true hpublished⟩))
    · rw [List.filter_cons, if_neg (by simpa using hstate)] at hnodup
      rw [if_neg hstate]
      exact ih hnodup published hrest

/-- Work that passed the preflight has a plan. -/
private theorem exists_planWork {registry : OrderedDict String ModelCandidate}
    {bindingByNode : OrderedDict String PilotBinding}
    {published publishedByRoute : OrderedDict String RouteSnapshot} {work : WorkItem}
    (h : Passed d call registry bindingByNode published allowed work.workItemId work)
    (hsame : ∀ snapshot, published.get? work.routeKey = some snapshot →
      publishedByRoute.get? work.routeKey = some snapshot) :
    ∃ plan, planWork call registry bindingByNode publishedByRoute work = .ok plan := by
  obtain ⟨binding, hbinding⟩ := (OrderedDict.contains_iff ..).mp h.bound
  obtain ⟨snapshot, candidateKey, candidate, hsnapshot, hcursor, hselected, hcandidate, hvalid⟩ :=
    h.routed
  refine ⟨⟨work, binding, candidate⟩, ?_⟩
  simp only [planWork, Checked.orRaise_bind_eq_ok_iff, Checked.check_bind_eq_ok_iff]
  refine ⟨binding, hbinding, snapshot, hsame snapshot hsnapshot, hcursor, ?_⟩
  refine Checked.bind_eq_ok_iff.mpr ⟨candidateKey, hselected, ?_⟩
  refine Checked.orRaise_bind_eq_ok_iff.mpr ⟨candidate, hcandidate, ?_⟩
  exact Checked.bind_eq_ok_iff.mpr ⟨(), hvalid, rfl⟩

/-- **What passed the preflight is planned**, unless it is in flight already. -/
theorem planDispatch_of_preflight (hk : d.system.kernel.Consistent)
    (hactive : d.system.kernel.activation.state = .active)
    (hpassed : d.preflightReady call allowed false = .ok ())
    (hallowed : call.allowedWorkItemIds = some allowed) :
    (∃ planned, d.planDispatch call = .ok planned ∧
      ∀ workItemId ∈ allowed, d.system.kernel.Startable workItemId →
        ¬ d.system.kernel.InFlight workItemId →
          ∃ plan ∈ planned, plan.workItem.workItemId = workItemId) ∧
    ∃ workItemId ∈ allowed, d.system.kernel.Startable workItemId := by
  simp only [preflightReady, Checked.check_bind_eq_ok_iff, Checked.orRaise_bind_eq_ok_iff]
    at hpassed
  obtain ⟨-, registry, hregistry, hexecutor, hbindings, hroutes, hpassed⟩ := hpassed
  obtain ⟨startable, hchecked, hcount⟩ := Checked.bind_eq_ok_iff.mp hpassed
  have hresults := Checked.mapM_eq_ok hchecked
  generalize hpublished : OrderedDict.ofList ((d.system.kernel.routeSnapshots.values.filter
    (·.state = .published)).map fun snapshot => (snapshot.routeKey, snapshot)) = published
    at hresults hroutes
  generalize hbound : OrderedDict.ofList (call.bindings.map fun binding =>
    (binding.nodeId, binding)) = bindingByNode at hresults hbindings
  -- Each selected work item was checked.
  have hwork : ∀ workItemId ∈ allowed, ∃ work,
      Passed d call registry bindingByNode published allowed workItemId work := by
    intro workItemId hmem
    obtain ⟨answer, -, hanswer⟩ := exists_of_forall₂ hresults.flip (b := workItemId)
      ((List.perm_insertionSort _ _).mem_iff.mpr (List.mem_dedup.mpr hmem))
    exact (passed_of_preflightWork hanswer).1
  have hknown : ∀ workItemId ∈ allowed, ∀ targetId ∈ d.system.kernel.prerequisites workItemId,
      ∃ target, d.system.kernel.workItems.get? targetId = some target := by
    intro workItemId hmem targetId htarget
    by_cases hin : targetId ∈ allowed
    · obtain ⟨target, htarget⟩ := hwork targetId hin
      exact ⟨target, htarget.known⟩
    · obtain ⟨work, hpassed⟩ := hwork workItemId hmem
      exact hpassed.available targetId htarget hin
  constructor
  · -- The dispatch finds the same snapshots and the same candidates.
    obtain ⟨publishedByRoute, hfound⟩ := exists_publishedByRoute (k := d.system.kernel) (by
      have hkeys := nodup_of_length_ofList ((d.system.kernel.routeSnapshots.values.filter
        (·.state = .published)).map fun snapshot => (snapshot.routeKey, snapshot))
        (by rw [hpublished, List.length_map, hroutes])
      rwa [List.map_map] at hkeys)
    have hsame (routeKey : String) (snapshot : RouteSnapshot)
        (hget : published.get? routeKey = some snapshot) :
        publishedByRoute.get? routeKey = some snapshot := by
      rw [← hpublished] at hget
      rcases OrderedDict.get?_update routeKey snapshot _ _ hget with hempty | hmem
      · cases hempty
      · obtain ⟨other, hother, heq⟩ := List.mem_map.mp hmem
        obtain ⟨rfl, rfl⟩ := Prod.mk.inj heq
        obtain ⟨hvalue, hstate⟩ := List.mem_filter.mp hother
        exact (get?_publishedByRoute hfound _ _).mpr ⟨hvalue, of_decide_eq_true hstate, rfl⟩
    have hselected {work : WorkItem} (hvalue : work ∈ d.system.kernel.workItems.values)
        (hmem : work.workItemId ∈ allowed) :
        Passed d call registry bindingByNode published allowed work.workItemId work := by
      obtain ⟨known, hpassed⟩ := hwork _ hmem
      obtain ⟨id, hid⟩ := (OrderedDict.mem_values_iff ..).mp hvalue
      rw [← hk.work_keyed id work hid] at hid
      obtain rfl := Option.some.inj (hid.symm.trans hpassed.known)
      exact hpassed
    obtain ⟨works, hworks, hmem⟩ := d.system.kernel.exists_eligibleWork allowed
      fun work hvalue hin => by
        obtain ⟨eligible, heligible, -⟩ := Kernel.isEligible_of_known _ (hknown _ hin)
          (hselected hvalue hin).ready hin
        exact ⟨eligible, heligible⟩
    obtain ⟨planned, hplanned⟩ := Checked.exists_mapM_eq_ok (l := works)
      (f := planWork call registry bindingByNode publishedByRoute) fun work hkept => by
        obtain ⟨hvalue, heligible⟩ := (hmem work).mp hkept
        refine exists_planWork (hselected hvalue ?_) (hsame _)
        by_contra hnot
        rw [Kernel.isEligible_of_notMem _ hnot] at heligible
        cases heligible
    refine ⟨planned, ?_, fun workItemId hin hstartable hidle => ?_⟩
    · refine Checked.bind_eq_ok_iff.mpr ⟨(), Checked.check_eq_ok_iff.mpr hactive, ?_⟩
      simp only [Checked.orRaise_bind_eq_ok_iff, Checked.check_bind_eq_ok_iff]
      refine ⟨registry, hregistry, hexecutor, by rw [hbound, hbindings], ?_⟩
      refine Checked.bind_eq_ok_iff.mpr ⟨publishedByRoute, hfound, ?_⟩
      rw [hbound, hallowed]
      exact Checked.bind_eq_ok_iff.mpr ⟨works, hworks, hplanned⟩
    · obtain ⟨work, hpassed⟩ := hwork workItemId hin
      obtain rfl := hk.work_keyed workItemId work hpassed.known
      obtain ⟨eligible, hok, heligible⟩ := Kernel.isEligible_of_known _ (hknown _ hin)
        hpassed.ready hin
      rw [heligible hstartable hidle] at hok
      obtain ⟨plan, hplan, hmade⟩ := exists_of_forall₂ (Checked.mapM_eq_ok hplanned).flip
        ((hmem work).mpr ⟨OrderedDict.mem_values_of_get? hpassed.known, hok⟩)
      exact ⟨plan, hplan, by rw [workItem_of_planWork hmade]⟩
  · obtain ⟨workItemId, hmem, hanswer⟩ := exists_of_forall₂ hresults
      (List.count_pos_iff.mp (Nat.pos_of_ne_zero (Checked.check_eq_ok_iff.mp hcount)))
    have hselected : workItemId ∈ allowed :=
      List.mem_dedup.mp ((List.perm_insertionSort _ _).mem_iff.mp hmem)
    refine ⟨workItemId, hselected, fun targetId htarget => ?_⟩
    have hall := (passed_of_preflightWork hanswer).2
    rw [Checked.allM_of_ok (q := fun itemId =>
      (d.system.kernel.workItems.get? itemId).any fun target => target.state = .completed)] at hall
    · have hcompleted := List.all_eq_true.mp (Except.ok.inj hall) targetId htarget
      obtain ⟨target, hget⟩ := hknown workItemId hselected targetId htarget
      rw [hget] at hcompleted
      exact ⟨target, hget, of_decide_eq_true hcompleted⟩
    · intro itemId hitem
      obtain ⟨target, hget⟩ := hknown workItemId hselected itemId hitem
      rw [completedCheck, hget]
      rfl

end Plans

/-! ### What is planned is started -/

section Starts

variable [Sha256] {k : Kernel} {planned : List PlannedWork} {plan : PlannedWork}

/-- The idempotency key under which the execution of a plan is created. -/
def DispatchCall.startKey (call : DispatchCall) (plan : PlannedWork) : String :=
  s!"{call.idempotencyKey}:{plan.workItem.workItemId}"

/-- Nothing outside the Kernel hinders the start of an execution: its identifier is new, its agent
can be named, and the ledger takes what is appended. -/
structure UnhinderedStart (call : DispatchCall) (plan : PlannedWork) (clock : Clock)
    (d : Dispatcher) : Prop where
  fresh : d.system.kernel.executions.contains
    (call.answers.executionId plan.workItem.workItemId) = false
  allocated : (allocateName call plan
    (call.answers.executionId plan.workItem.workItemId)).returns d = true
  taken : ∀ r, d.system.kernel.createExecution
    (requestedExecution plan (call.answers.executionId plan.workItem.workItemId)) call.actorId
    (call.startKey plan) clock = .ok r → r.Accepted d.system
  named : ∀ assignment registry d',
    (allocateName call plan (call.answers.executionId plan.workItem.workItemId)) d =
      .ok (some (assignment, registry)) d' →
    (Dispatcher.onKernel (.recordAgentNameAssignment assignment registry "system:dispatcher"
      s!"{call.idempotencyKey}:{call.answers.executionId plan.workItem.workItemId}:agent-name")
      fun reading => clock (reading + 1)).returns
      ((Dispatcher.onKernel (.createExecution
        (requestedExecution plan (call.answers.executionId plan.workItem.workItemId)) call.actorId
        (call.startKey plan)) clock).finalState d') = true

/-- Nothing outside the Kernel hinders the starts of a plan, one after the other. -/
def Unhindered (call : DispatchCall) : List PlannedWork → Clock → Dispatcher → Prop
  | [], _, _ => True
  | plan :: rest, clock, d => UnhinderedStart call plan clock d ∧
    Unhindered call rest (fun reading => clock (reading + 2))
      ((startExecution call plan clock).finalState d)

/-- The Kernel may start the work item: it runs, and it knows the item and where it belongs. -/
structure Kernel.Starts (k : Kernel) (plan : PlannedWork) : Prop where
  active : k.activation.state = .active
  known : k.workItems.get? plan.workItem.workItemId = some plan.workItem
  placed : plan.workItem.dataSpaceId = k.dataSpace.dataSpaceId ∧
    k.nodes.contains plan.workItem.delegatedToNodeId = true

omit [Sha256] in
/-- The checks of `create_execution` pass for the execution that a plan requests. -/
private theorem createExecution_of_starts (h : k.Starts plan) {id : Identifier}
    (hfresh : k.executions.contains id = false) (actorId key : String) (clock : Clock) :
    k.createExecution (requestedExecution plan id) actorId key clock =
      .ok (Kernel.recording id (.executionCreated (requestedExecution plan id)) "human"
        (some actorId) key (some plan.workItem.workItemId) none (clock 0) fun _ k =>
          { k with executions := k.executions.set id (requestedExecution plan id) }) := by
  refine Checked.bind_eq_ok_iff.mpr ⟨(), Checked.check_eq_ok_iff.mpr h.active, ?_⟩
  simp only [Checked.orRaise_bind_eq_ok_iff, Checked.check_bind_eq_ok_iff]
  exact ⟨h.placed.1, Or.inl rfl, h.placed.2, plan.workItem, h.known, rfl, hfresh, rfl⟩

omit [Sha256] in
theorem Kernel.Starts.of_startedFrom {next : Kernel} (h : k.Starts plan)
    (hstarted : k.StartedFrom planned next) : next.Starts plan where
  active := by rw [hstarted.activation, h.active]
  known := by rw [hstarted.work_items, h.known]
  placed := by
    rw [hstarted.data_space, hstarted.nodes]
    exact h.placed

/-- **An unhindered start returns.** -/
theorem exists_startExecution {call : DispatchCall} {clock : Clock} {d : Dispatcher}
    (hstarts : d.system.kernel.Starts plan) (h : UnhinderedStart call plan clock d) :
    ∃ execution d', startExecution call plan clock d = .ok execution d' := by
  obtain ⟨assigned, hallocated⟩ := EStateM.exists_ok_of_returns h.allocated
  have hsystem : ((allocateName call plan (call.answers.executionId
      plan.workItem.workItemId)).finalState d).system = d.system :=
    (preserves_allocateName (I := fun d' => d'.system = d.system) (fun _ _ hd => hd) call plan
      _).final rfl
  generalize (allocateName call plan (call.answers.executionId
    plan.workItem.workItemId)).finalState d = mid at hallocated hsystem
  have hplan := createExecution_of_starts hstarts h.fresh call.actorId
    (call.startKey plan) clock
  have hcreated : ∃ d', Dispatcher.onKernel (.createExecution
      (requestedExecution plan (call.answers.executionId plan.workItem.workItemId)) call.actorId
      (call.startKey plan)) clock mid = .ok () d' := by
    obtain ⟨answer, s', hok⟩ := perform_returns (s := mid.system) (fun s =>
      s.kernel.createExecution (requestedExecution plan (call.answers.executionId
        plan.workItem.workItemId)) call.actorId
        (call.startKey plan) clock) (by rw [hsystem, hplan])
      (hsystem ▸ h.taken _ hplan) fun _ _ _ => ⟨_, rfl⟩
    exact ⟨_, EStateM.run_zoom_of_ok (EStateM.run_bind_of_ok hok)⟩
  obtain ⟨d', hcreated⟩ := hcreated
  change ∃ execution d', (allocateName call plan (call.answers.executionId
    plan.workItem.workItemId) >>= _) d = .ok execution d'
  rw [EStateM.run_bind_of_ok hallocated]
  change ∃ execution d', (Dispatcher.onKernel (.createExecution (requestedExecution plan
    (call.answers.executionId plan.workItem.workItemId)) call.actorId (call.startKey plan)) clock
      >>= _) mid = .ok execution d'
  rw [EStateM.run_bind_of_ok hcreated]
  cases assigned with
  | none => exact ⟨_, _, rfl⟩
  | some assigned =>
    obtain ⟨assignment, registry⟩ := assigned
    have hnamed := h.named assignment registry mid hallocated
    rw [EStateM.finalState_of_ok hcreated] at hnamed
    obtain ⟨_, hnamed⟩ := EStateM.exists_ok_of_returns hnamed
    exact ⟨_, _, EStateM.run_bind_of_ok hnamed⟩

/-- **Unhindered starts return**, and each plan has its execution. -/
theorem exists_startExecutions (call : DispatchCall) :
    ∀ (rest planned : List PlannedWork) (clock : Clock) (d : Dispatcher),
      AllStartedIn k planned d → ((planned ++ rest).map (·.workItem.workItemId)).Nodup →
      (∀ plan ∈ rest, k.Starts plan) → Unhindered call rest clock d →
      ∃ executions d', startExecutions call rest clock d = .ok executions d' ∧
        AllStartedIn k (planned ++ rest) d'
  | [], planned, _, d, hd, _, _, _ => ⟨[], d, rfl, by rwa [List.append_nil]⟩
  | plan :: rest, planned, clock, d, hd, hnodup, hstarts, hunhindered => by
    obtain ⟨hstart, hrest⟩ := hunhindered
    have hsplit : planned ++ plan :: rest = planned ++ [plan] ++ rest := by simp
    have hnew : ∀ other ∈ planned, other.workItem.workItemId ≠ plan.workItem.workItemId := by
      intro other hother heq
      rw [List.map_append, List.nodup_append] at hnodup
      exact hnodup.2.2 _ (List.mem_map_of_mem hother) _ (List.mem_map_of_mem List.mem_cons_self)
        heq
    obtain ⟨execution, mid, hok⟩ := exists_startExecution
      ((hstarts plan List.mem_cons_self).of_startedFrom hd.1.2) hstart
    have hmid := startedFrom_startExecution call clock hnew d hd
    rw [hok] at hmid
    rw [EStateM.finalState_of_ok hok] at hrest
    obtain ⟨executions, d', hall, hd'⟩ := exists_startExecutions call rest (planned ++ [plan]) _ mid
      hmid (hsplit ▸ hnodup) (fun plan hplan => hstarts plan (List.mem_cons_of_mem _ hplan)) hrest
    refine ⟨(execution, plan) :: executions, d', ?_, hsplit ▸ hd'⟩
    rw [startExecutions, EStateM.run_bind_of_ok hok, EStateM.run_bind_of_ok hall]
    rfl

end Starts

/-! ### The promise of the preflight -/

section Promise

variable [Sha256]

/-- The dispatch creates an execution of the work item. -/
def DispatchCreates (d : Dispatcher) (call : DispatchCall) (clock : Clock) (workItemId : String) :
    Prop :=
  ∃ id execution,
    ((dispatchReady call clock).finalState d).system.kernel.executions.get? id = some execution ∧
      d.system.kernel.executions.get? id = none ∧ execution.workItemId = workItemId

/-- **What the preflight promises**: the dispatch starts each selected work item whose dependencies
are completed, and at least one. -/
def PreflightKept (d : Dispatcher) (call : DispatchCall) (allowed : List String) (clock : Clock) :
    Prop :=
  (∀ workItemId ∈ allowed, d.system.kernel.Startable workItemId →
    DispatchCreates d call clock workItemId) ∧
  ∃ workItemId ∈ allowed, DispatchCreates d call clock workItemId

/-- A dispatch creates executions of idle work alone. -/
theorem not_inFlight_of_creates {d : Dispatcher} (hs : d.system.KernelSynced) {call : DispatchCall}
    {clock : Clock} {workItemId : String} (h : DispatchCreates d call clock workItemId) :
    ¬ d.system.kernel.InFlight workItemId := by
  rintro ⟨other, known, hother, hof, hstate⟩
  obtain ⟨id, execution, hget, hnone, hwork⟩ := h
  rcases startedSystem_dispatchReady hs call clock with hsame | ⟨planned, hplan, -, hstarted⟩
  · rw [hsame] at hget
    cases hnone.symm.trans hget
  · obtain ⟨plan, hmem, heq⟩ := hstarted.started id execution.unnamed
      (by rw [Kernel.runOf?, hget]; rfl) (by rw [Kernel.runOf?, hnone]; rfl)
    have hitem : execution.workItemId = plan.workItem.workItemId :=
      congrArg (fun run : Execution => run.workItemId) heq
    obtain ⟨hrequested, hactive⟩ := (eligibleWork_of_planDispatch hs.consistent hplan hmem).idle
      other known hother (hof.trans (hwork.symm.trans hitem))
    rcases hstate with hstate | hstate
    · exact hrequested hstate
    · exact hactive hstate

/-- An unhindered dispatch creates an execution of each plan. -/
theorem creates_of_planned {d : Dispatcher} (hs : d.system.KernelSynced)
    (hplaced : d.system.kernel.WorkPlaced) (hactive : d.system.kernel.activation.state = .active)
    {call : DispatchCall} {clock : Clock} {planned : List PlannedWork}
    (hplan : d.planDispatch call = .ok planned) (hunhindered : Unhindered call planned clock d)
    {plan : PlannedWork} (hmem : plan ∈ planned) :
    DispatchCreates d call clock plan.workItem.workItemId := by
  have hstarts : ∀ plan ∈ planned, d.system.kernel.Starts plan := fun plan hmem =>
    have hknown := (eligibleWork_of_planDispatch hs.consistent hplan hmem).known
    ⟨hactive, hknown, hplaced _ _ hknown⟩
  obtain ⟨executions, d', hok, hall⟩ := exists_startExecutions (k := d.system.kernel) call planned
    [] clock d ⟨⟨hs, .refl _⟩, fun _ hmem => by cases hmem⟩
    (planDispatch_spec hs.consistent hplan).1 hstarts hunhindered
  have hfinal : AllStartedIn d.system.kernel planned ((dispatchReady call clock).finalState d) := by
    rw [dispatchReady, EStateM.finalState_get_bind, hplan, EStateM.finalState_ofExcept_ok_bind,
      EStateM.finalState_bind_of_ok hok]
    refine (preserves_handOver (I := AllStartedIn d.system.kernel planned)
      (fun d d' hsystem _ hd => ?_) call executions).final hall
    rwa [AllStartedIn, StartedSystem, hsystem]
  obtain ⟨id, hsome, hnone⟩ := hfinal.2 plan hmem
  obtain ⟨execution, hget, heq⟩ := Option.map_eq_some_iff.mp hsome
  exact ⟨id, execution, hget, Option.map_eq_none_iff.mp hnone,
    congrArg (fun run : Execution => run.workItemId) heq⟩

/-- **Preflight and dispatch.** In every state that a host reaches with an active system, a dispatch
that nothing hinders starts what the preflight promised exactly if no selected work item that could
start has an execution in flight. -/
theorem preflightKept_iff (dataSpace : DataSpace) (processes : List (ProcessCommand × Clock))
    (d : Dispatcher) (hsystem : d.system = runProcesses (.new dataSpace) processes)
    (inputs : List (HostInput × Clock)) (call : DispatchCall) (allowed : List String)
    (clock : Clock) (hactive : (runHost d inputs).system.kernel.activation.state = .active)
    (hallowed : call.allowedWorkItemIds = some allowed)
    (hpassed : (runHost d inputs).preflightReady call allowed false = .ok ())
    (hunhindered : ∀ planned, (runHost d inputs).planDispatch call = .ok planned →
      Unhindered call planned clock (runHost d inputs)) :
    PreflightKept (runHost d inputs) call allowed clock ↔
      ∀ workItemId ∈ allowed, (runHost d inputs).system.kernel.Startable workItemId →
        ¬ (runHost d inputs).system.kernel.InFlight workItemId := by
  obtain ⟨hs, hplaced⟩ := workPlaced_runHost dataSpace processes hsystem inputs
  constructor
  · rintro ⟨hall, -⟩ workItemId hmem hstartable
    exact not_inFlight_of_creates hs (hall workItemId hmem hstartable)
  · intro hidle
    obtain ⟨⟨planned, hplan, hplanned⟩, workItemId, hmem, hstartable⟩ :=
      planDispatch_of_preflight hs.consistent hactive hpassed hallowed
    have hall : ∀ workItemId ∈ allowed, (runHost d inputs).system.kernel.Startable workItemId →
        DispatchCreates (runHost d inputs) call clock workItemId := by
      intro workItemId hmem hstartable
      obtain ⟨plan, hin, rfl⟩ := hplanned workItemId hmem hstartable (hidle _ hmem hstartable)
      exact creates_of_planned hs hplaced hactive hplan (hunhindered planned hplan) hin
    exact ⟨hall, workItemId, hmem, hall workItemId hmem hstartable⟩

/-- A dispatch of the company's work item. -/
def selectedDispatch (key executionId : String) : DispatchCall :=
  { companyDispatch key executionId with allowedWorkItemIds := some ["work:1"] }

/-- What a dispatch plans for the company's work item. -/
def companyPlan : PlannedWork where
  workItem := { proposedWork with state := .ready }
  binding := ⟨"node:owner-interface", "pilot:1", "host:1"⟩
  candidate := companyCandidate

omit [Sha256] in
private theorem readyHost_state :
    letI := Sha256.polynomial
    let d := runHost companyDispatcher readyHost
    d.system.kernel.activation.state = .active ∧
      d.preflightReady (selectedDispatch "dispatch:1" "execution:1") ["work:1"] false = .ok () ∧
      d.planDispatch (selectedDispatch "dispatch:1" "execution:1") = .ok [companyPlan] ∧
      d.agentNamingRegistry.isNone = true ∧
      d.system.kernel.executions.contains "execution:1" = false ∧
      ((KernelCommand.createExecution (requestedExecution companyPlan
        ((selectedDispatch "dispatch:1" "execution:1").answers.executionId
          companyPlan.workItem.workItemId)) (selectedDispatch "dispatch:1" "execution:1").actorId
        ((selectedDispatch "dispatch:1" "execution:1").startKey companyPlan)).run
        fun _ => 0).returns d.system = true ∧
      d.system.kernel.executions.values = [] := by
  decide +kernel

omit [Sha256] in
/-- The company's work item passes the preflight and is started. -/
theorem preflightKept_company :
    letI := Sha256.polynomial
    PreflightKept (runHost companyDispatcher readyHost)
      (selectedDispatch "dispatch:1" "execution:1") ["work:1"] fun _ => 0 := by
  let := Sha256.polynomial
  obtain ⟨hactive, hpassed, hplan, hnames, hfresh, hreturns, hnone⟩ := readyHost_state
  refine (preflightKept_iff companySpace [] companyDispatcher rfl readyHost _ ["work:1"] _ hactive
    rfl hpassed ?_).mpr ?_
  · generalize runHost companyDispatcher readyHost = d at hplan hnames hfresh hreturns
    intro planned hplanned
    obtain rfl := Except.ok.inj (hplan.symm.trans hplanned)
    have hallocated : allocateName (selectedDispatch "dispatch:1" "execution:1") companyPlan
        "execution:1" d = .ok none d := by
      rw [allocateName, EStateM.run_get_bind, Option.isNone_iff_eq_none.mp hnames]
      rfl
    refine ⟨⟨hfresh, EStateM.returns_of_ok hallocated, fun r hr => ?_, ?_⟩, trivial⟩
    · rw [KernelCommand.run] at hreturns
      exact Recording.accepted_of_returns (fun k => k.createExecution _ _ _ _) hr hreturns
    · intro assignment registry d' hnamed
      cases hallocated.symm.trans hnamed
  · generalize runHost companyDispatcher readyHost = d at hnone
    rintro workItemId - - ⟨id, execution, hget, -⟩
    have hmem := OrderedDict.mem_values_of_get? hget
    rw [hnone] at hmem
    cases hmem

/-! ### Work that is already in flight -/

/-- The work item is made ready and dispatched. -/
def startedHost : List (HostInput × Clock) :=
  readyHost ++ [(.dispatcher (.dispatch (selectedDispatch "dispatch:1" "execution:1")), fun _ => 0)]

omit [Sha256] in
private theorem startedHost_state :
    letI := Sha256.polynomial
    let d := runHost companyDispatcher startedHost
    d.system.kernel.activation.state = .active ∧
      d.preflightReady (selectedDispatch "dispatch:2" "execution:2") ["work:1"] false = .ok () ∧
      d.planDispatch (selectedDispatch "dispatch:2" "execution:2") = .ok [] ∧
      d.system.kernel.prerequisites "work:1" = [] ∧
      (d.system.kernel.executions.get? "execution:1").map (fun execution =>
        (execution.workItemId, execution.state)) = some ("work:1", .requested) := by
  decide +kernel

omit [Sha256] in
/-- **A second start passes the preflight and starts nothing**: the first execution is still in
flight. -/
theorem inFlight_breaks_preflightKept :
    letI := Sha256.polynomial
    (runHost companyDispatcher startedHost).system.kernel.activation.state = .active ∧
      (runHost companyDispatcher startedHost).preflightReady
        (selectedDispatch "dispatch:2" "execution:2") ["work:1"] false = .ok () ∧
      (∀ planned, (runHost companyDispatcher startedHost).planDispatch
          (selectedDispatch "dispatch:2" "execution:2") = .ok planned →
        Unhindered (selectedDispatch "dispatch:2" "execution:2") planned (fun _ => 0)
          (runHost companyDispatcher startedHost)) ∧
      ¬ PreflightKept (runHost companyDispatcher startedHost)
        (selectedDispatch "dispatch:2" "execution:2") ["work:1"] fun _ => 0 := by
  let := Sha256.polynomial
  obtain ⟨hactive, hpassed, hplan, hnone, hexecution⟩ := startedHost_state
  have hs := (workPlaced_runHost companySpace [] (d := companyDispatcher) rfl startedHost).1
  generalize runHost companyDispatcher startedHost = d
    at hactive hpassed hplan hnone hexecution hs ⊢
  refine ⟨hactive, hpassed, fun planned hplanned => ?_, fun hkept => ?_⟩
  · obtain rfl := Except.ok.inj (hplan.symm.trans hplanned)
    trivial
  · obtain ⟨execution, hget, heq⟩ := Option.map_eq_some_iff.mp hexecution
    obtain ⟨hwork, hstate⟩ := Prod.mk.inj heq
    have hstarted := hkept.1 "work:1" List.mem_cons_self fun targetId htarget => ?_
    · exact not_inFlight_of_creates hs hstarted
        ⟨"execution:1", execution, hget, hwork, Or.inl hstate⟩
    rw [hnone] at htarget
    cases htarget

end Promise

end Nanihold
