import Nanihold.Safety.EventDeltas

/-!
# One provider run at a time

An execution is unresolved while it is requested or active, and while it is paused because the
PilotHost's receipt must still be reconciled. The dispatcher looks for executions in flight before
it starts another one of the same work item, and passes over those that await reconciliation; in
every run in which it meets none, a work item has at most one unresolved execution.

## Main definitions

* `Execution.Unresolved`, `Execution.AwaitsReconciliation` — the outcome of a run is not known.
* `Kernel.AtMostOneUnresolved` — no work item has two unresolved executions.
* `ExecutionInput`, `runExecutions` — runs of dispatches, completions, reconciliations and commands.
* `FindsNoneAwaiting` — a dispatch plans no work item with an execution that awaits reconciliation.

## Main results

* `Kernel.guarded_kept` — the events that open no second execution.
* `planDispatch_spec` — planned work items are distinct and have no execution in flight.
* `atMostOneUnresolved_of_findsNoneAwaiting` — the invariant holds after every such run.
* `secondDispatch_breaks_atMostOneUnresolved` — a dispatch after an unknown outcome breaks it.
-/

namespace Nanihold

/-! ### Unresolved executions -/

/-- The execution is paused because the receipt of its run must still be reconciled. -/
def Execution.AwaitsReconciliation (execution : Execution) : Prop :=
  execution.state = .paused ∧
    execution.pauseReason = some "pilot_receipt_reconciliation_required"

instance (execution : Execution) : Decidable execution.AwaitsReconciliation :=
  inferInstanceAs (Decidable (_ ∧ _))

/-- The outcome of the provider's run is not known. -/
def Execution.Unresolved (execution : Execution) : Prop :=
  execution.state = .requested ∨ execution.state = .active ∨ execution.AwaitsReconciliation

namespace Kernel

variable (k : Kernel)

/-- An unresolved execution of a work item. -/
def UnresolvedOf (workItemId executionId : String) : Prop :=
  ∃ execution, k.executions.get? executionId = some execution ∧
    execution.workItemId = workItemId ∧ execution.Unresolved

/-- No work item has two unresolved executions. -/
def AtMostOneUnresolved : Prop :=
  ∀ workItemId first second, k.UnresolvedOf workItemId first → k.UnresolvedOf workItemId second →
    first = second

/-- At most one execution of a work item is unresolved, and none of the work items of a set. -/
structure Guarded (free : Set String) (k : Kernel) : Prop where
  at_most_one : k.AtMostOneUnresolved
  none_of_free : ∀ workItemId ∈ free, ∀ executionId, ¬ k.UnresolvedOf workItemId executionId

/-- An event that opens a second execution of a work item, or an execution of a work item of the
set, or that makes a resolved execution unresolved again. -/
def Opens (free : Set String) (k : Kernel) (streamId : String) : KernelPayload → Prop
  | .executionCreated execution =>
    execution.workItemId ∈ free ∨ ∃ id, k.UnresolvedOf execution.workItemId id
  | .executionStateChanged state pauseReason =>
    ∃ execution, k.executions.get? streamId = some execution ∧ ¬ execution.Unresolved ∧
      Execution.Unresolved { execution with state := state, pauseReason := pauseReason }
  | _ => False

variable {k} {next : Kernel} {event : EventEnvelope} {payload : KernelPayload} {free : Set String}

/-- Rewriting one execution makes no other one unresolved. -/
private theorem unresolvedOf_modify {executions : OrderedDict String Execution} {key id : String}
    {f : Execution → Execution} {workItemId : String}
    (h : ∃ execution, (executions.modify key f).get? id = some execution ∧
      execution.workItemId = workItemId ∧ execution.Unresolved)
    (hf : ∀ execution, executions.get? key = some execution →
      (f execution).workItemId = execution.workItemId ∧
        ((f execution).Unresolved → execution.Unresolved)) :
    ∃ execution, executions.get? id = some execution ∧ execution.workItemId = workItemId ∧
      execution.Unresolved := by
  obtain ⟨execution, hget, hwork, hunresolved⟩ := h
  rw [OrderedDict.get?_modify] at hget
  split at hget
  · next hkey =>
    obtain ⟨known, hknown, rfl⟩ := Option.map_eq_some_iff.mp hget
    obtain ⟨hsame, hopen⟩ := hf known (hkey ▸ hknown)
    exact ⟨known, hknown, hsame ▸ hwork, hopen hunresolved⟩
  · exact ⟨execution, hget, hwork, hunresolved⟩

/-- Pausing active executions makes none unresolved. -/
private theorem unresolvedOf_mapValues {executions : OrderedDict String Execution} {id : String}
    {f : Execution → Execution} {workItemId : String}
    (h : ∃ execution, (executions.mapValues fun _ => f).get? id = some execution ∧
      execution.workItemId = workItemId ∧ execution.Unresolved)
    (hf : ∀ execution, f execution = execution ∨
      execution.state = .active ∧ ∃ reason, f execution = pauseActive reason execution) :
    ∃ execution, executions.get? id = some execution ∧ execution.workItemId = workItemId ∧
      execution.Unresolved := by
  obtain ⟨execution, hget, hwork, hunresolved⟩ := h
  rw [OrderedDict.get?_mapValues] at hget
  obtain ⟨known, hknown, rfl⟩ := Option.map_eq_some_iff.mp hget
  refine ⟨known, hknown, ?_⟩
  rcases hf known with hsame | ⟨hactive, reason, hpaused⟩
  · rw [hsame] at hwork hunresolved
    exact ⟨hwork, hunresolved⟩
  · rw [hpaused] at hwork
    exact ⟨hwork, Or.inr (Or.inl hactive)⟩

/-- **What an event opens.** An execution that is unresolved after an event was so before, or the
event created it, or it is one that the event names as reopened. -/
theorem unresolvedOf_of_changes (hpermits : k.Permits event payload)
    (hchanges : k.Changes event payload next) (hnot : ¬ Opens ∅ k event.streamId payload ∨
      ∃ execution, payload = .executionCreated execution)
    {workItemId id : String} (h : next.UnresolvedOf workItemId id) :
    k.UnresolvedOf workItemId id ∨ ∃ execution, payload = .executionCreated execution ∧
      execution.executionId = id ∧ execution.workItemId = workItemId := by
  rw [UnresolvedOf, hchanges.executions] at h
  cases payload <;> simp only [executionsAfter] at h
  case executionCreated created =>
    obtain ⟨execution, hget, hwork, hunresolved⟩ := h
    rw [OrderedDict.get?_set] at hget
    split at hget
    · next hid =>
      obtain rfl := Option.some.inj hget
      exact Or.inr ⟨created, rfl, hid, hwork⟩
    · exact Or.inl ⟨execution, hget, hwork, hunresolved⟩
  case agentNameAssigned =>
    exact Or.inl (unresolvedOf_modify h fun _ _ => ⟨rfl, fun hunresolved => hunresolved⟩)
  case executionStateChanged state pauseReason =>
    refine Or.inl (unresolvedOf_modify h fun execution hget => ⟨rfl, fun hunresolved => ?_⟩)
    rcases hnot with hnot | ⟨_, hcreated⟩
    · by_contra hresolved
      exact hnot ⟨execution, hget, hresolved, hunresolved⟩
    · cases hcreated
  case pilotExecutionReceiptRecorded receipt =>
    refine Or.inl (unresolvedOf_modify h fun execution hget => ⟨rfl, fun _ => ?_⟩)
    obtain ⟨-, known, hknown, hrequested, -⟩ := hpermits
    obtain rfl := Option.some.inj (hget.symm.trans hknown)
    exact Or.inl hrequested
  case humanIntervention =>
    refine Or.inl (unresolvedOf_mapValues h fun execution => ?_)
    rw [intervened]
    split
    · next hactive => exact Or.inr ⟨hactive.2, _, rfl⟩
    · exact Or.inl rfl
  case pilotHostDisconnected =>
    refine Or.inl (unresolvedOf_mapValues h fun execution => ?_)
    rw [disconnected]
    split
    · next hactive => exact Or.inr ⟨hactive.2, _, rfl⟩
    · exact Or.inl rfl
  all_goals exact Or.inl h

/-- **Every event that opens nothing** keeps the guard. -/
theorem guarded_kept (free : Set String) : Kernel.KeptExcept (Opens free) (Guarded free) where
  changes {k event payload next} _ hk hpermits hchanges hnot := by
    have hopens : ¬ Opens ∅ k event.streamId payload ∨
        ∃ execution, payload = .executionCreated execution := by
      cases payload <;> first | exact Or.inr ⟨_, rfl⟩ | exact Or.inl hnot
    have hcases {workItemId id : String} (h : next.UnresolvedOf workItemId id) :=
      unresolvedOf_of_changes hpermits hchanges hopens h
    constructor
    · intro workItemId first second hfirst hsecond
      rcases hcases hfirst with hold | ⟨created, rfl, rfl, rfl⟩
      · rcases hcases hsecond with hother | ⟨created, rfl, rfl, rfl⟩
        · exact hk.at_most_one workItemId first second hold hother
        · exact absurd (Or.inr ⟨first, hold⟩) hnot
      · rcases hcases hsecond with hother | ⟨known, hknown, rfl, -⟩
        · exact absurd (Or.inr ⟨second, hother⟩) hnot
        · rw [KernelPayload.executionCreated.inj hknown]
    · intro workItemId hfree id h
      rcases hcases h with hold | ⟨created, rfl, -, rfl⟩
      · exact hk.none_of_free workItemId hfree id hold
      · exact hnot (Or.inl hfree)
  collections _ _ hk := ⟨hk.at_most_one, hk.none_of_free⟩
  created _ _ h := h
  promoted _ _ _ h := h

end Kernel

/-! ### Commands that open nothing -/

/-- The command starts no execution and sets no execution's state; receipts, interventions and
disconnections move executions too, but resolve or keep unresolved what they move. -/
def ServiceCommand.OpensNone : ServiceCommand → Prop
  | .kernel (.createExecution _ _ _) => False
  | .kernel (.setExecutionState _ _ _ _ _ _) => False
  | _ => True

variable [Sha256]

/-- The Kernel is synced and guarded. -/
def GuardedSystem (free : Set String) (s : MemorySystem) : Prop :=
  s.KernelSynced ∧ Kernel.Guarded free s.kernel

variable {free : Set String} {s : MemorySystem}

omit [Sha256] in
theorem GuardedSystem.mono {fewer : Set String} (h : GuardedSystem free s) (hle : fewer ⊆ free) :
    GuardedSystem fewer s :=
  ⟨h.1, h.2.at_most_one, fun workItemId hmem => h.2.none_of_free workItemId (hle hmem)⟩

/-- A Kernel command that is refused whenever it would open an execution. -/
theorem GuardedSystem.kernelCommand (h : GuardedSystem free s) (c : KernelCommand) (clock : Clock)
    (hopens : ∀ streamId payload, c.Records s.kernel streamId payload →
      ¬ Kernel.Opens free s.kernel streamId payload) :
    GuardedSystem free ((c.run clock).finalState s) :=
  ⟨ServiceCommand.invariant_step kernelSynced_kept s (.kernel c, clock) h.1,
    (Kernel.guarded_kept free).kernelCommand h.1 h.2 c clock fun streamId payload hrecords hopen =>
      absurd hopen (hopens streamId payload hrecords)⟩

omit [Sha256] in
theorem not_opens_of_opensNone {c : KernelCommand} (hc : (ServiceCommand.kernel c).OpensNone)
    {k : Kernel} {streamId : String} {payload : KernelPayload}
    (hrecords : c.Records k streamId payload) : ¬ Kernel.Opens free k streamId payload := by
  intro hopen
  cases payload <;> simp only [Kernel.Opens] at hopen
  case executionCreated execution =>
    obtain ⟨_, _, rfl⟩ := hrecords.createExecution
    exact hc
  case executionStateChanged state pauseReason =>
    obtain ⟨_, _, _, rfl⟩ := hrecords.setExecutionState
    exact hc

theorem GuardedSystem.command (h : GuardedSystem free s) {c : ServiceCommand} (hc : c.OpensNone)
    (clock : Clock) : GuardedSystem free ((c.run clock).finalState s) := by
  refine ⟨ServiceCommand.invariant_step kernelSynced_kept s (c, clock) h.1, ?_⟩
  refine (Kernel.guarded_kept free).step h.1 h.2 (c, clock) ?_
  rintro c rfl streamId payload hrecords hopen
  exact absurd hopen (not_opens_of_opensNone hc hrecords)

/-- A transition of an unresolved execution, or one that resolves, opens nothing. -/
theorem GuardedSystem.setExecutionState (h : GuardedSystem free s) {executionId : String}
    {state : ExecutionState} {actorType actorId key : String} {pauseReason : Option String}
    (clock : Clock)
    (hset : ∀ execution, s.kernel.executions.get? executionId = some execution →
      execution.Unresolved ∨ state = .failed) :
    GuardedSystem free
      (((KernelCommand.setExecutionState executionId state actorType actorId key
        pauseReason).run clock).finalState s) := by
  refine h.kernelCommand _ clock ?_
  rintro streamId payload ⟨rfl, rfl⟩ ⟨execution, hget, hresolved, hunresolved⟩
  rcases hset execution hget with hopen | rfl
  · exact hresolved hopen
  · rcases hunresolved with hstate | hstate | ⟨hstate, -⟩ <;> cases hstate

namespace Dispatcher

/-! ### Completions -/

omit [Sha256] in
/-- What keeps the guard of the system, run beside the dispatcher. -/
theorem guarded_onSystem {α : Type} {x : SystemM InMemoryOperationalLedger α}
    (hx : EStateM.Preserves (GuardedSystem free) x) :
    EStateM.Preserves (fun d => GuardedSystem free d.system) (onSystem x) := by
  refine .of_final fun d hd => ?_
  rw [onSystem, EStateM.finalState_zoom]
  exact hx.final hd

theorem guarded_onKernel {c : KernelCommand} (hc : (ServiceCommand.kernel c).OpensNone)
    (clock : Clock) :
    EStateM.Preserves (fun d => GuardedSystem free d.system) (onKernel c clock) :=
  guarded_onSystem (.of_final fun _ hs => hs.command (c := .kernel c) hc clock)

/-- **A completion** resolves an execution, or leaves its outcome unknown. -/
theorem guarded_finishExecution (position : Nat) (outcome : WorkOutcome) (clock : Clock) :
    EStateM.Preserves (fun d => GuardedSystem free d.system)
      (finishExecution position outcome clock) := by
  refine preserves_finishExecution (fun _ _ hd => hd) (fun _ _ _ _ => guarded_onKernel trivial)
    (fun executionId actorId key clock => ?_) (fun process _ _ _ _ => ?_) position outcome clock
  · exact guarded_onSystem (.of_final fun _ hs =>
      hs.setExecutionState clock fun _ _ => Or.inr rfl)
  · exact guarded_onSystem (preserves_failover
      (kernelSynced_keptByLifecycle (Kernel.Guarded free) process) _ _ _ _)

/-! ### Plans -/

omit [Sha256] in
/-- The eligible work items are distinct, and none has an execution in flight. -/
theorem eligibleWork_spec {k : Kernel} (hk : k.Consistent) {allowed : Option (List String)}
    {eligible : List WorkItem} (h : k.eligibleWork allowed = .ok eligible) :
    (eligible.map (·.workItemId)).Nodup ∧
      ∀ work ∈ eligible, work.workItemId ∉ k.activeWorkIds := by
  obtain ⟨hsublist, hpassed⟩ := Checked.filterM_eq_ok h
  constructor
  · have hkeys : k.workItems.values.map (·.workItemId) = k.workItems.keys := by
      rw [OrderedDict.values, OrderedDict.keys, List.map_map]
      refine List.map_congr_left fun entry hentry => ?_
      exact hk.work_keyed _ _ ((k.workItems.mem_entries_iff _ _).mp hentry)
    refine (hsublist.map _).nodup ?_
    rw [((List.perm_insertionSort _ _).map _).nodup_iff, hkeys]
    exact k.workItems.nodup_keys
  · intro work hwork hactive
    have hpass := hpassed work hwork
    unfold Kernel.isEligible at hpass
    split at hpass
    · cases hpass
    · rw [if_pos (Or.inr hactive)] at hpass
      cases hpass

omit [Sha256] in
/-- A plan is about the work item it was made for. -/
theorem workItem_of_planWork {call : DispatchCall} {registry : OrderedDict String ModelCandidate}
    {bindingByNode : OrderedDict String PilotBinding}
    {publishedByRoute : OrderedDict String RouteSnapshot} {work : WorkItem} {plan : PlannedWork}
    (h : planWork call registry bindingByNode publishedByRoute work = .ok plan) :
    plan.workItem = work := by
  obtain ⟨_, -, h⟩ := Checked.bind_eq_ok_iff.mp h
  obtain ⟨_, -, h⟩ := Checked.bind_eq_ok_iff.mp h
  obtain ⟨_, -, h⟩ := Checked.bind_eq_ok_iff.mp h
  obtain ⟨_, -, h⟩ := Checked.bind_eq_ok_iff.mp h
  obtain ⟨_, -, h⟩ := Checked.bind_eq_ok_iff.mp h
  obtain ⟨_, -, h⟩ := Checked.bind_eq_ok_iff.mp h
  rw [← Checked.pure_eq_ok_iff.mp h]

omit [Sha256] in
theorem workItems_of_planWork {call : DispatchCall} {registry : OrderedDict String ModelCandidate}
    {bindingByNode : OrderedDict String PilotBinding}
    {publishedByRoute : OrderedDict String RouteSnapshot} {eligible : List WorkItem}
    {planned : List PlannedWork}
    (h : eligible.mapM (planWork call registry bindingByNode publishedByRoute) = .ok planned) :
    planned.map (·.workItem) = eligible := by
  have hall := Checked.mapM_eq_ok h
  clear h
  induction hall with
  | nil => rfl
  | cons hplan _ ih => rw [List.map_cons, ih, workItem_of_planWork hplan]

omit [Sha256] in
/-- **What a plan starts.** -/
theorem planDispatch_spec {d : Dispatcher} (hk : d.system.kernel.Consistent) {call : DispatchCall}
    {planned : List PlannedWork} (h : d.planDispatch call = .ok planned) :
    (planned.map (·.workItem.workItemId)).Nodup ∧
      ∀ work ∈ planned, work.workItem.workItemId ∉ d.system.kernel.activeWorkIds := by
  obtain ⟨_, -, h⟩ := Checked.bind_eq_ok_iff.mp h
  obtain ⟨registry, -, h⟩ := Checked.bind_eq_ok_iff.mp h
  obtain ⟨_, -, h⟩ := Checked.bind_eq_ok_iff.mp h
  obtain ⟨_, -, h⟩ := Checked.bind_eq_ok_iff.mp h
  obtain ⟨publishedByRoute, -, h⟩ := Checked.bind_eq_ok_iff.mp h
  obtain ⟨eligible, heligible, h⟩ := Checked.bind_eq_ok_iff.mp h
  obtain ⟨hnodup, hidle⟩ := eligibleWork_spec hk heligible
  have hitems := workItems_of_planWork h
  have hids : planned.map (·.workItem.workItemId) = eligible.map (·.workItemId) := by
    rw [← hitems, List.map_map]
    rfl
  refine ⟨hids ▸ hnodup, fun plan hplan => hidle _ ?_⟩
  rw [← hitems]
  exact List.mem_map_of_mem hplan

/-! ### A dispatch -/

/-- A dispatch whose checks pass plans no work item with an execution that awaits
reconciliation. -/
def FindsNoneAwaiting (d : Dispatcher) (call : DispatchCall) : Prop :=
  ∀ planned, d.planDispatch call = .ok planned → ∀ plan ∈ planned,
    ∀ execution ∈ d.system.kernel.executions.values,
      execution.workItemId = plan.workItem.workItemId → ¬ execution.AwaitsReconciliation

/-- The work items that a list of plans starts. -/
def plannedIds (planned : List PlannedWork) : Set String :=
  {id | id ∈ planned.map (·.workItem.workItemId)}

omit [Sha256] in
/-- Where none awaits reconciliation, no planned work item has an unresolved execution. -/
theorem guarded_of_findsNoneAwaiting {d : Dispatcher} (hd : GuardedSystem ∅ d.system)
    {call : DispatchCall} (hnone : FindsNoneAwaiting d call) {planned : List PlannedWork}
    (hplan : d.planDispatch call = .ok planned) :
    GuardedSystem (plannedIds planned) d.system := by
  refine ⟨hd.1, hd.2.at_most_one, ?_⟩
  rintro _ hmem executionId ⟨execution, hget, rfl, hunresolved⟩
  obtain ⟨plan, hmember, hwork⟩ := List.mem_map.mp hmem
  have hvalue := OrderedDict.mem_values_of_get? hget
  have hidle := (planDispatch_spec hd.1.consistent hplan).2 plan hmember
  have hactive (hstate : execution.state = .requested ∨ execution.state = .active) : False := by
    refine hidle (List.mem_map.mpr ⟨execution, List.mem_filter.mpr ⟨hvalue, ?_⟩, hwork.symm⟩)
    exact decide_eq_true hstate
  rcases hunresolved with hstate | hstate | hawaits
  · exact hactive (Or.inl hstate)
  · exact hactive (Or.inr hstate)
  · exact hnone planned hplan plan hmember execution hvalue hwork.symm hawaits

/-- **Starting an execution** of a work item that has no unresolved one. -/
theorem guarded_startExecution (call : DispatchCall) (plan : PlannedWork) (clock : Clock)
    (hnot : plan.workItem.workItemId ∉ free) :
    EStateM.Triple (fun d => GuardedSystem (insert plan.workItem.workItemId free) d.system)
      (startExecution call plan clock) (fun _ d => GuardedSystem free d.system)
      (fun _ d => GuardedSystem free d.system) := by
  have hless {d : Dispatcher} (hd : GuardedSystem (insert plan.workItem.workItemId free) d.system) :
      GuardedSystem free d.system := hd.mono (Set.subset_insert _ _)
  rw [startExecution]
  refine .bind (.conseq (preserves_allocateName (fun _ _ hd => hd) call plan _) (fun _ hd => hd)
    (fun _ _ hd => hd) fun _ _ hd => hless hd) fun assigned => ?_
  refine .bind (.of_final (Q := fun d : Dispatcher => GuardedSystem free d.system) fun d hd => ?_)
    fun _ => ?_
  · rw [onKernel, onSystem, EStateM.finalState_zoom]
    refine (hless hd).kernelCommand _ clock ?_
    rintro streamId payload rfl (hfree | ⟨id, hopen⟩)
    · exact hnot hfree
    · exact hd.2.none_of_free _ (Set.mem_insert _ _) id hopen
  · cases assigned with
    | none => exact .pure fun _ hd => hd
    | some assigned =>
      obtain ⟨assignment, registry⟩ := assigned
      have hopens (key : String) : (ServiceCommand.kernel (.recordAgentNameAssignment assignment
        registry "system:dispatcher" key)).OpensNone := trivial
      exact .bind (guarded_onKernel (hopens _) _) fun _ => .pure fun _ hd => hd

/-- The plans are started one after the other. -/
theorem guarded_startExecutions (call : DispatchCall) :
    ∀ (planned : List PlannedWork) (clock : Clock),
      (planned.map (·.workItem.workItemId)).Nodup →
      EStateM.Triple (fun d => GuardedSystem (plannedIds planned) d.system)
        (startExecutions call planned clock) (fun _ d => GuardedSystem ∅ d.system)
        (fun _ d => GuardedSystem ∅ d.system)
  | [], _, _ => .pure fun _ hd => hd.mono (Set.empty_subset _)
  | plan :: rest, clock, hnodup => by
    rw [List.map_cons, List.nodup_cons] at hnodup
    have hids : plannedIds (plan :: rest) = insert plan.workItem.workItemId (plannedIds rest) := by
      ext id
      simp [plannedIds, eq_comm]
    rw [startExecutions, hids]
    have hplan : plan.workItem.workItemId ∉ plannedIds rest := hnodup.1
    refine .bind (.conseq (guarded_startExecution call plan clock hplan) (fun _ hd => hd)
      (fun _ _ hd => hd) fun _ _ hd => hd.mono (Set.empty_subset _)) fun execution => ?_
    exact .bind (guarded_startExecutions call rest _ hnodup.2) fun _ => .pure fun _ hd => hd

/-- **A dispatch that finds none awaiting reconciliation** keeps the guard. -/
theorem guarded_dispatchReady {d : Dispatcher} (hd : GuardedSystem ∅ d.system)
    {call : DispatchCall} (hnone : FindsNoneAwaiting d call) (clock : Clock) :
    GuardedSystem ∅ ((dispatchReady call clock).finalState d).system := by
  rw [dispatchReady, EStateM.finalState_get_bind]
  cases hplan : d.planDispatch call with
  | error e => exact hd
  | ok planned =>
    rw [EStateM.finalState_ofExcept_ok_bind]
    have hstart := guarded_startExecutions call planned clock
      (planDispatch_spec hd.1.consistent hplan).1
    refine EStateM.Triple.final (Q := fun d : Dispatcher => GuardedSystem ∅ d.system)
      (.bind hstart fun executions => ?_) (guarded_of_findsNoneAwaiting hd hnone hplan)
    -- The delta and the submissions leave the system alone.
    refine EStateM.Preserves.bind (I := fun d : Dispatcher => GuardedSystem ∅ d.system)
      (.of_final fun d hd => ?_) fun delta => .bind (.forM fun started _ => ?_) fun _ => .pure _
    · rw [EStateM.finalState_of_ok (eventDelta_run d)]
      exact hd
    · refine .of_final fun d hd => ?_
      rw [submit, EStateM.finalState_get_bind]
      cases Checked.check (d.closed = false)
        (VsmError.raised "cannot schedule new futures after shutdown") <;> exact hd

end Dispatcher

/-! ### Runs -/

open Dispatcher

/-- A step of a run: a command that opens no execution, the reconciliation of a receipt, or a step
of the dispatcher. -/
inductive ExecutionInput where
  | command (c : ServiceCommand) (opens_none : c.OpensNone)
  | reconcile (executionId : String) (state : ExecutionState) (actorType actorId
      idempotencyKey : String) (pauseReason : Option String)
  | dispatcher (input : DispatcherInput)

/-- The reconciliation of a receipt: the transition of an execution that awaits it. -/
def reconcileReceipt (executionId : String) (state : ExecutionState) (actorType actorId
    idempotencyKey : String) (pauseReason : Option String) (clock : Clock) :
    DispatcherM Unit := do
  let d ← get
  match d.system.kernel.executions.get? executionId with
  | none => return
  | some execution =>
    if execution.AwaitsReconciliation then
      Dispatcher.onKernel (.setExecutionState executionId state actorType actorId idempotencyKey
        pauseReason) clock

def ExecutionInput.run (clock : Clock) : ExecutionInput → DispatcherM Unit
  | .command c _ => onSystem (c.run clock)
  | .reconcile executionId state actorType actorId key pauseReason =>
    reconcileReceipt executionId state actorType actorId key pauseReason clock
  | .dispatcher input => input.run clock

def ExecutionInput.step (d : Dispatcher) (input : ExecutionInput × Clock) : Dispatcher :=
  (input.1.run input.2).finalState d

/-- The dispatcher after a run. -/
def runExecutions (d : Dispatcher) (inputs : List (ExecutionInput × Clock)) : Dispatcher :=
  Run.exec ExecutionInput.step d inputs

/-- The step is no dispatch that plans a work item with an execution awaiting reconciliation. -/
def NoRedispatch (d : Dispatcher) : ExecutionInput × Clock → Prop
  | (.dispatcher (.dispatch call), _) => FindsNoneAwaiting d call
  | _ => True

/-- **One step.** -/
theorem guarded_step {d : Dispatcher} (hd : GuardedSystem ∅ d.system)
    (input : ExecutionInput × Clock) (hnone : NoRedispatch d input) :
    GuardedSystem ∅ (ExecutionInput.step d input).system := by
  obtain ⟨input, clock⟩ := input
  rw [ExecutionInput.step, ExecutionInput.run.eq_def]
  cases input with
  | command c hc =>
    exact (guarded_onSystem (.of_final fun _ hs => hs.command hc clock)).final hd
  | reconcile executionId state actorType actorId key pauseReason =>
    change GuardedSystem ∅ ((reconcileReceipt _ _ _ _ _ _ clock).finalState d).system
    rw [reconcileReceipt, EStateM.finalState_get_bind]
    cases hget : d.system.kernel.executions.get? executionId with
    | none => exact hd
    | some execution =>
      by_cases hawaits : execution.AwaitsReconciliation
      · simp only [if_pos hawaits]
        rw [Dispatcher.onKernel, onSystem, EStateM.finalState_zoom]
        refine hd.setExecutionState clock fun known hknown => Or.inl ?_
        obtain rfl := Option.some.inj (hget.symm.trans hknown)
        exact Or.inr (Or.inr hawaits)
      · simp only [if_neg hawaits]
        exact hd
  | dispatcher input =>
    cases input with
    | dispatch call =>
      change GuardedSystem ∅
        (EStateM.finalState (dispatchReady call clock >>= fun _ => pure ()) d).system
      rw [EStateM.finalState_bind_pure]
      exact guarded_dispatchReady hd hnone clock
    | finish position outcome =>
      exact (guarded_finishExecution position outcome clock).final hd
    | close => exact hd

/-- **At most one provider run at a time.** In every run from an empty data space in which no
dispatch plans a work item with an execution that awaits reconciliation, no work item has two
unresolved executions. -/
theorem atMostOneUnresolved_of_findsNoneAwaiting (dataSpace : DataSpace) (d : Dispatcher)
    (hd : d.system = .new dataSpace) (inputs : List (ExecutionInput × Clock))
    (hnone : Run.Along ExecutionInput.step NoRedispatch d inputs) :
    (runExecutions d inputs).system.kernel.AtMostOneUnresolved := by
  have hinitial : GuardedSystem ∅ d.system := by
    rw [hd]
    refine ⟨System.kernelSynced_new dataSpace, ?_, fun _ hmem => hmem.elim⟩
    rintro workItemId first second ⟨_, hget, -⟩
    cases hget
  exact (Run.exec_invariant_along (I := fun d => GuardedSystem ∅ d.system)
    (fun _ input h hinput => guarded_step h input hinput) inputs hnone hinitial).2.at_most_one

/-! ### An unknown outcome -/

omit [Sha256] in
private theorem readyCompany_opensNone : ∀ input ∈ readyCompany, input.1.OpensNone := by
  simp [readyCompany, commissioning, publishedRun, ServiceCommand.OpensNone]

/-- The company's work item is made ready. -/
def readyInputs : List (ExecutionInput × Clock) :=
  readyCompany.pmap (fun input h => (.command input.1 h, input.2)) readyCompany_opensNone

/-- The work item is dispatched. -/
def initialDispatch : ExecutionInput × Clock :=
  (.dispatcher (.dispatch (companyDispatch "dispatch:1" "execution:1")), fun _ => 0)

/-- The host reports that the outcome of the run is unknown. -/
def unknownOutcome : ExecutionInput × Clock :=
  (.dispatcher (.finish 0 (.receipt
    { receiptId := "receipt:1"
      receiptStatus := "transport_unknown"
      requestedModel := some "claude-opus"
      actualModel := none
      providerSessionId := none
      usage := none
      result := none
      error := some "ProviderTransportUnknown" })), fun _ => 0)

/-- The work item is dispatched again. -/
def secondDispatch : ExecutionInput × Clock :=
  (.dispatcher (.dispatch (companyDispatch "dispatch:2" "execution:2")), fun _ => 0)

omit [Sha256] in
/-- Without executions none awaits reconciliation. -/
theorem findsNoneAwaiting_of_empty {d : Dispatcher} (h : d.system.kernel.executions = .empty)
    (call : DispatchCall) : FindsNoneAwaiting d call := by
  intro planned _ plan _ execution hmem
  rw [h] at hmem
  cases hmem

omit [Sha256] in
private theorem readyInputs_executions :
    (@runExecutions Sha256.polynomial companyDispatcher readyInputs).system.kernel.executions =
      .empty := by
  decide +kernel

omit [Sha256] in
/-- One dispatch, and one unresolved execution. -/
theorem atMostOneUnresolved_of_initialDispatch :
    letI := Sha256.polynomial
    (runExecutions companyDispatcher
      (readyInputs ++ [initialDispatch])).system.kernel.AtMostOneUnresolved := by
  have hready : @Run.Along _ _ (@ExecutionInput.step Sha256.polynomial)
      NoRedispatch companyDispatcher readyInputs := by
    refine Run.along_of_forall fun input hinput d => ?_
    obtain ⟨_, _, rfl⟩ := List.mem_pmap.mp hinput
    trivial
  have hdispatch : NoRedispatch
      (@runExecutions Sha256.polynomial companyDispatcher readyInputs) initialDispatch :=
    findsNoneAwaiting_of_empty readyInputs_executions _
  exact @atMostOneUnresolved_of_findsNoneAwaiting Sha256.polynomial companySpace companyDispatcher
    rfl (readyInputs ++ [initialDispatch]) (Run.along_append.mpr ⟨hready, hdispatch, trivial⟩)

/-- The dispatch, the unknown outcome and the second dispatch. -/
def redispatchedRun : List (ExecutionInput × Clock) :=
  readyInputs ++ [initialDispatch, unknownOutcome, secondDispatch]

omit [Sha256] in
private theorem redispatchedRun_state :
    ((@runExecutions Sha256.polynomial companyDispatcher
        redispatchedRun).system.kernel.executions.get? "execution:1").map (fun execution =>
          (execution.workItemId, execution.state, execution.pauseReason)) =
        some ("work:1", .paused, some "pilot_receipt_reconciliation_required") ∧
      ((@runExecutions Sha256.polynomial companyDispatcher
        redispatchedRun).system.kernel.executions.get? "execution:2").map (fun execution =>
          (execution.workItemId, execution.state)) = some ("work:1", .requested) := by
  decide +kernel

omit [Sha256] in
/-- **The run is started again while its outcome is unknown.** -/
theorem secondDispatch_breaks_atMostOneUnresolved :
    letI := Sha256.polynomial
    ¬ (runExecutions companyDispatcher redispatchedRun).system.kernel.AtMostOneUnresolved := by
  intro h
  obtain ⟨hfirst, hsecond⟩ := redispatchedRun_state
  obtain ⟨first, hget, hfirst⟩ := Option.map_eq_some_iff.mp hfirst
  obtain ⟨second, hget', hsecond⟩ := Option.map_eq_some_iff.mp hsecond
  obtain ⟨hwork, hpaused⟩ := Prod.mk.inj hfirst
  obtain ⟨hwork', hrequested⟩ := Prod.mk.inj hsecond
  have hsame := h "work:1" "execution:1" "execution:2"
    ⟨first, hget, hwork, Or.inr (Or.inr (Prod.mk.inj hpaused))⟩
    ⟨second, hget', hwork', Or.inl hrequested⟩
  exact absurd hsame (by decide)

end Nanihold
