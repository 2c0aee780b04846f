import Nanihold.Safety.Acceptance
import Nanihold.Safety.Hosts

/-!
# Completions

When the worker of an execution answers, the dispatcher records a receipt, or a bare failure when
that is all it can record. Each of these is one event under a key made from the key of the dispatch,
so a completion settles its execution exactly if that event is taken.

## Main definitions

* `ExecutionState.Settled` — the execution has ended, or waits for a human.
* `ReceiptsOnce` — an execution has one receipt at most, and none while it is requested.
* `FuturesKnown` — the executions that workers hold exist.
* `KeyRecordable` — the event of a completion is taken.
* `CompletionKept` — what a completion promises; `CompletionSettles` — when it keeps it.

## Main results

* `receiptsOnce_keptByHost`, `futuresKnown_runHost` — the invariants.
* `completionKept_iff` — the exact condition, in every state that a host reaches.
* `oversized_key_breaks_completionKept` — a receipt whose key is too long.
-/

namespace Nanihold

open Dispatcher

/-! ### Receipts -/

/-- The execution is neither requested nor active any more. -/
def ExecutionState.Settled (state : ExecutionState) : Prop := state ≠ .requested ∧ state ≠ .active

/-- The event is a receipt of the execution. -/
def StoredEvent.IsReceiptOf (stored : StoredEvent) (executionId : String) : Bool :=
  stored.event.streamId = executionId &&
    match stored.event.payload with
    | .kernel (.pilotExecutionReceiptRecorded _) => true
    | _ => false

theorem StoredEvent.isReceiptOf_iff {stored : StoredEvent} {executionId : String} :
    stored.IsReceiptOf executionId = true ↔ stored.event.streamId = executionId ∧
      ∃ receipt, stored.event.payload = .kernel (.pilotExecutionReceiptRecorded receipt) := by
  rw [IsReceiptOf, Bool.and_eq_true, decide_eq_true_eq]
  refine and_congr_right fun _ => ?_
  constructor
  · intro h
    split at h
    · next receipt hpayload => exact ⟨receipt, hpayload⟩
    · cases h
  · rintro ⟨receipt, hpayload⟩
    rw [hpayload]

/-- The receipts of an execution, in the order of the ledger. -/
def receiptsOf (executionId : String) (events : List StoredEvent) : List StoredEvent :=
  events.filter (·.IsReceiptOf executionId)

/-- The execution is requested, or there is none yet. -/
def Kernel.Awaits (k : Kernel) (executionId : String) : Prop :=
  ∀ execution, k.executions.get? executionId = some execution → execution.state = .requested

/-- **Receipts**: an execution has one at most, and none while it is requested. -/
structure ReceiptsOnce (s : MemorySystem) : Prop where
  at_most_one : ∀ id, (receiptsOf id s.ledger.events).length ≤ 1
  none_before : ∀ id, s.kernel.Awaits id → receiptsOf id s.ledger.events = []

section Events

variable {k next : Kernel} {event : EventEnvelope} {payload : KernelPayload}

/-- No event requests an execution that was requested before and moved on. -/
private theorem awaits_of_changes (hpermits : k.Permits event payload)
    (hchanges : k.Changes event payload next) {id : String} (h : next.Awaits id) : k.Awaits id := by
  intro execution hget
  have hnext {after : Execution} (hafter : next.executions.get? id = some after) :
      after.state = .requested := h after hafter
  rw [hchanges.executions] at hnext
  cases payload <;> simp only [Kernel.executionsAfter] at hnext
  case executionCreated created =>
    have hne : created.executionId ≠ id := by
      rintro rfl
      cases ((OrderedDict.contains_eq_false_iff ..).mp hpermits.2.2.2.1).symm.trans hget
    exact hnext ((OrderedDict.get?_set_of_ne _ _ hne).trans hget)
  case agentNameAssigned assignment =>
    rw [OrderedDict.get?_modify, hget] at hnext
    split_ifs at hnext
    · have hafter := hnext rfl
      exact hafter
    · exact hnext rfl
  case executionStateChanged state pauseReason =>
    rw [OrderedDict.get?_modify, hget] at hnext
    split_ifs at hnext with hid
    · obtain ⟨known, -, hallowed⟩ := hpermits
      obtain rfl := hnext rfl
      have hnever : .requested ∉ known.state.allowed := by cases known.state <;> decide
      exact absurd hallowed hnever
    · exact hnext rfl
  case pilotExecutionReceiptRecorded receipt =>
    rw [OrderedDict.get?_modify, hget] at hnext
    split_ifs at hnext with hid
    · obtain ⟨-, -, -, -, -, -, hstate⟩ := hpermits
      rw [show receipt.state = .requested from hnext rfl] at hstate
      rcases hstate with hstate | hstate | ⟨hstate, -⟩ <;> cases hstate
    · exact hnext rfl
  case humanIntervention reason =>
    rw [OrderedDict.get?_mapValues, hget] at hnext
    have hafter := hnext rfl
    unfold Kernel.intervened at hafter
    split_ifs at hafter
    · cases hafter
    · exact hafter
  case pilotHostDisconnected pilotHostId =>
    rw [OrderedDict.get?_mapValues, hget] at hnext
    have hafter := hnext rfl
    unfold Kernel.disconnected at hafter
    split_ifs at hafter
    · cases hafter
    · exact hafter
  all_goals exact hnext hget

end Events

section Kept

variable [Sha256] {s : MemorySystem}

omit [Sha256] in
/-- An event that is no receipt of an execution leaves its receipts alone. -/
private theorem receiptsOf_append {events : List StoredEvent} {stored : StoredEvent} {id : String}
    (h : stored.IsReceiptOf id = false) :
    receiptsOf id (events ++ [stored]) = receiptsOf id events := by
  rw [receiptsOf, List.filter_append, List.filter_cons, h, receiptsOf]
  simp

omit [Sha256] in
/-- **One recorded event.** -/
private theorem receiptsOnce_of_stepped (hs : s.KernelSynced) (h : ReceiptsOnce s)
    {event : EventEnvelope} {s' : MemorySystem} (hstep : s.Stepped event s') : ReceiptsOnce s' := by
  have hevents := hstep.events
  rcases hstep.kernel_cases hs with
    ⟨payload, hpayload, hpermits, hchanges⟩ | ⟨hother, activation, auth, hkernel⟩
  · have hcases (id : String) :
        receiptsOf id s'.ledger.events = receiptsOf id s.ledger.events ∨
          s.kernel.Awaits id ∧ ¬ s'.kernel.Awaits id ∧
            receiptsOf id s'.ledger.events =
              receiptsOf id s.ledger.events ++ [s.ledger.store event] := by
      rw [hevents]
      cases hreceipt : (s.ledger.store event).IsReceiptOf id with
      | false => exact Or.inl (receiptsOf_append hreceipt)
      | true =>
        obtain ⟨hstream, receipt, hown⟩ := StoredEvent.isReceiptOf_iff.mp hreceipt
        change event.streamId = id at hstream
        subst hstream
        obtain rfl := EventPayload.kernel.inj (hpayload.symm.trans hown)
        obtain ⟨-, execution, hget, hrequested, -, -, hstate⟩ := hpermits
        refine Or.inr ⟨fun known hknown => ?_, fun hawaits => ?_, ?_⟩
        · rw [Option.some.inj (hknown.symm.trans hget)]
          exact hrequested
        · have hafter := hawaits _ (by
            rw [hchanges.executions, Kernel.executionsAfter, OrderedDict.get?_modify, if_pos rfl,
              hget]
            rfl)
          rw [show receipt.state = .requested from hafter] at hstate
          rcases hstate with hstate | hstate | ⟨hstate, -⟩ <;> cases hstate
        · rw [receiptsOf, List.filter_append, List.filter_cons, hreceipt, receiptsOf]
          rfl
    constructor
    · intro id
      rcases hcases id with hsame | ⟨hawaits, -, hadded⟩
      · rw [hsame]
        exact h.at_most_one id
      · rw [hadded, h.none_before id hawaits]
        simp
    · intro id hawaits
      rcases hcases id with hsame | ⟨-, hnot, -⟩
      · rw [hsame]
        exact h.none_before id (awaits_of_changes hpermits hchanges hawaits)
      · exact absurd hawaits hnot
  · have hsame (id : String) :
        receiptsOf id s'.ledger.events = receiptsOf id s.ledger.events := by
      rw [hevents]
      refine receiptsOf_append (Bool.eq_false_iff.mpr fun hreceipt => ?_)
      obtain ⟨-, receipt, hpayload⟩ := StoredEvent.isReceiptOf_iff.mp hreceipt
      exact hother _ hpayload
    have hexecutions : s'.kernel.executions = s.kernel.executions := by rw [hkernel]
    constructor
    · intro id
      rw [hsame]
      exact h.at_most_one id
    · intro id hawaits
      rw [hsame]
      refine h.none_before id fun execution hget => hawaits execution ?_
      rw [hexecutions]
      exact hget

omit [Sha256] in
/-- A lifecycle record leaves executions and their receipts alone. -/
private theorem receiptsOnce_of_lifecycle (h : ReceiptsOnce s) {s' : MemorySystem}
    (hkernel : s'.kernel = s.kernel) (hevents : s'.ledger.events = s.ledger.events ∨
      ∃ stored : StoredEvent, stored.event.payload.IsEnvironment ∧
        s'.ledger.events = s.ledger.events ++ [stored]) : ReceiptsOnce s' := by
  have hsame (id : String) : receiptsOf id s'.ledger.events = receiptsOf id s.ledger.events := by
    rcases hevents with hevents | ⟨stored, ⟨_, henvironment⟩, hevents⟩
    · rw [hevents]
    · rw [hevents]
      refine receiptsOf_append (Bool.eq_false_iff.mpr fun hreceipt => ?_)
      obtain ⟨-, receipt, hpayload⟩ := StoredEvent.isReceiptOf_iff.mp hreceipt
      cases henvironment.symm.trans hpayload
  constructor
  · intro id
    rw [hsame]
    exact h.at_most_one id
  · intro id hawaits
    rw [hsame]
    rw [hkernel] at hawaits
    exact h.none_before id hawaits

/-- **Receipts stay unique** whatever a host does. -/
theorem receiptsOnce_keptByHost : KeptByHost fun s => s.KernelSynced ∧ ReceiptsOnce s where
  service s input hs := by
    refine ServiceCommand.invariant_step (I := fun s => s.KernelSynced ∧ ReceiptsOnce s)
      ⟨fun _ hs => hs.1, fun s event s' hs hmirrored => ?_, fun s data hs => ?_⟩ s input hs
    · exact ⟨System.kernelSynced_of_stepped hs.1 hmirrored.stepped,
        receiptsOnce_of_stepped hs.1 hs.2 hmirrored.stepped⟩
    · exact ⟨System.kernelSynced_putBlob hs.1 data, ⟨hs.2.at_most_one, hs.2.none_before⟩⟩
  lifecycle process r hr := by
    refine .of_final fun s hs => ⟨(kernelSynced_keptByHost.lifecycle process r hr).final hs.1, ?_⟩
    obtain ⟨hkernel, hevents⟩ := events_of_lifecycle process hr s
    exact receiptsOnce_of_lifecycle hs.2 hkernel hevents
  attached _ _ hs := ⟨{ hs.1 with }, ⟨hs.2.at_most_one, hs.2.none_before⟩⟩

/-- **Receipts** in every state that processes reach, restarts included. -/
theorem receiptsOnce_runProcesses (dataSpace : DataSpace)
    (inputs : List (ProcessCommand × Clock)) :
    ReceiptsOnce (runProcesses (.new dataSpace) inputs) := by
  have hkept : KeptByProcesses fun s => SyncedIn dataSpace s ∧ ReceiptsOnce s :=
    { all_synced := fun _ hs => hs.1.1
      synced := fun _ hs => hs.1.1.toKernelSynced
      mirrored := fun s event s' hs hmirrored =>
        ⟨(syncedIn_processes dataSpace).mirrored s event s' hs.1 hmirrored,
          receiptsOnce_of_stepped hs.1.1.toKernelSynced hs.2 hmirrored.stepped⟩
      stored := fun s data hs =>
        ⟨(syncedIn_processes dataSpace).stored s data hs.1, ⟨hs.2.at_most_one, hs.2.none_before⟩⟩
      restarted := fun s hs =>
        ⟨(syncedIn_processes dataSpace).restarted s hs.1, ⟨hs.2.at_most_one, hs.2.none_before⟩⟩ }
  exact (Run.exec_invariant (ProcessCommand.invariant_step hkept) inputs
    ⟨syncedIn_new dataSpace, ⟨fun _ => Nat.zero_le 1, fun _ _ => rfl⟩⟩).2

end Kept

/-! ### Executions that workers hold -/

section Futures

variable [Sha256] {s : MemorySystem}

/-- The system is synced and some executions exist. -/
def Knows (ids : List String) (s : MemorySystem) : Prop :=
  s.KernelSynced ∧ ∀ id ∈ ids, s.kernel.executions.contains id = true

omit [Sha256] in
private theorem contains_of_changes {k next : Kernel} {event : EventEnvelope}
    {payload : KernelPayload} (hchanges : k.Changes event payload next) {id : String}
    (h : k.executions.contains id = true) : next.executions.contains id = true := by
  rw [hchanges.executions]
  cases payload <;> simp only [Kernel.executionsAfter, OrderedDict.contains_modify,
    OrderedDict.contains_mapValues, h]
  case executionCreated execution => rw [OrderedDict.contains_set, h, Bool.or_true]

omit [Sha256] in
private theorem knows_kept (ids : List String) :
    Kernel.KeptExcept (fun _ _ _ => False)
      (fun k => ∀ id ∈ ids, k.executions.contains id = true) where
  changes _ hk _ hchanges _ id hid := contains_of_changes hchanges (hk id hid)
  collections _ _ hk := hk
  created _ _ h := h
  promoted _ _ _ h := h

/-- Executions are never removed. -/
theorem knows_keptByHost (ids : List String) : KeptByHost (Knows ids) where
  service s input hs :=
    ⟨ServiceCommand.invariant_step kernelSynced_kept s input hs.1,
      (knows_kept ids).step hs.1 hs.2 input fun _ _ _ _ _ hdefect => hdefect.elim⟩
  lifecycle := kernelSynced_keptByLifecycle fun k => ∀ id ∈ ids, k.executions.contains id = true
  attached _ _ hs := ⟨{ hs.1 with }, hs.2⟩

/-- The executions whose futures are not done exist. -/
def FuturesKnown (d : Dispatcher) : Prop :=
  d.system.KernelSynced ∧ ∀ pending ∈ d.futures,
    d.system.kernel.executions.contains pending.execution.executionId = true

/-- Some executions exist, and the futures are of these. -/
private def Holds (ids : List String) (d : Dispatcher) : Prop :=
  Knows ids d.system ∧ ∀ pending ∈ d.futures, pending.execution.executionId ∈ ids

omit [Sha256] in
private theorem Holds.futuresKnown {ids : List String} {d : Dispatcher} (h : Holds ids d) :
    FuturesKnown d :=
  ⟨h.1.1, fun pending hpending => h.1.2 _ (h.2 pending hpending)⟩

omit [Sha256] in
private theorem FuturesKnown.holds {d : Dispatcher} (h : FuturesKnown d) :
    Holds (d.futures.map (·.execution.executionId)) d :=
  ⟨⟨h.1, fun _ hid => by
    obtain ⟨pending, hpending, rfl⟩ := List.mem_map.mp hid
    exact h.2 pending hpending⟩, fun _ hpending => List.mem_map_of_mem hpending⟩

private theorem holds_onKernel {ids : List String} (c : KernelCommand) (clock : Clock) :
    EStateM.Preserves (Holds ids) (Dispatcher.onKernel c clock) := by
  refine .of_final fun d hd => ?_
  rw [Dispatcher.onKernel, onSystem, EStateM.finalState_zoom]
  exact ⟨(knows_keptByHost ids).service d.system (.kernel c, clock) hd.1, hd.2⟩

/-- The execution that was created exists. -/
private theorem holds_createExecution {ids : List String} {execution : Execution}
    {actorId key : String} (clock : Clock) :
    EStateM.Triple (Holds ids)
      (Dispatcher.onKernel (.createExecution execution actorId key) clock)
      (fun _ => Holds (execution.executionId :: ids)) (fun _ => Holds ids) := by
  refine .zoom fun d hd => .of_run fun s hread => ?_
  obtain ⟨⟨hs, hknown⟩, hfutures⟩ := hd
  subst hread
  rw [KernelCommand.run]
  rcases performKernel_cases hs (fun k => k.createExecution execution actorId key clock)
      (fun _ payload => payload = .executionCreated execution)
      (fun r h => ⟨_, _, rfl, Kernel.replayable_createExecution h⟩) with
    ⟨e, herror⟩ | ⟨event, s', ⟨_, hpayload, rfl, hmirrored⟩, hok⟩
  · exact Or.inl ⟨e, _, herror, ⟨hs, hknown⟩, hfutures⟩
  · have hchanges := Kernel.changes_of_applyKernel hs.consistent
      (hmirrored.stepped.kernel hpayload).2
    refine Or.inr ⟨_, s', hok, ⟨System.kernelSynced_of_stepped hs hmirrored.stepped,
      fun id hid => ?_⟩, fun pending hpending => List.mem_cons_of_mem _ (hfutures pending hpending)⟩
    rcases List.mem_cons.mp hid with rfl | hid
    · change s'.kernel.executions.contains execution.executionId = true
      rw [hchanges.executions, Kernel.executionsAfter, OrderedDict.contains_set]
      simp
    · exact contains_of_changes hchanges (hknown id hid)

private theorem holds_startExecution {ids : List String} (call : DispatchCall) (plan : PlannedWork)
    (clock : Clock) :
    EStateM.Triple (Holds ids) (startExecution call plan clock)
      (fun execution => Holds (execution.executionId :: ids)) (fun _ => FuturesKnown) := by
  rw [startExecution]
  refine .bind (.conseq (preserves_allocateName (I := Holds ids) (fun _ _ hd => hd) call plan _)
    (fun _ hd => hd) (fun _ _ hd => hd) fun _ _ hd => hd.futuresKnown) fun assigned => ?_
  refine .bind (.conseq (holds_createExecution clock) (fun _ hd => hd) (fun _ _ hd => hd)
    fun _ _ hd => hd.futuresKnown) fun _ => ?_
  cases assigned with
  | none => exact .pure fun _ hd => hd
  | some assigned =>
    exact .bind (.conseq (holds_onKernel _ _) (fun _ hd => hd) (fun _ _ hd => hd)
      fun _ _ hd => hd.futuresKnown) fun _ => .pure fun _ hd => hd

/-- The executions that were started exist, with those that existed before. -/
private def HoldsStarted (ids : List String) (executions : List (Execution × PlannedWork))
    (d : Dispatcher) : Prop :=
  ∃ known, ids ⊆ known ∧ Holds known d ∧ ∀ started ∈ executions, started.1.executionId ∈ known

private theorem holds_startExecutions (call : DispatchCall) :
    ∀ (planned : List PlannedWork) (ids : List String) (clock : Clock),
      EStateM.Triple (Holds ids) (startExecutions call planned clock) (HoldsStarted ids)
        (fun _ => FuturesKnown) := by
  intro planned
  induction planned with
  | nil => exact fun ids _ => .pure fun _ hd => ⟨ids, List.Subset.refl _, hd, List.forall_mem_nil _⟩
  | cons plan rest ih =>
    intro ids clock
    rw [startExecutions]
    refine .bind (holds_startExecution call plan clock) fun execution => ?_
    refine .bind (ih (execution.executionId :: ids) _) fun executions => .pure ?_
    rintro d ⟨known, hle, hd, hrest⟩
    obtain ⟨hfirst, hle⟩ := List.cons_subset.mp hle
    exact ⟨known, hle, hd, List.forall_mem_cons.mpr ⟨hfirst, hrest⟩⟩

/-- **A dispatch** submits executions that exist. -/
private theorem futuresKnown_dispatchReady {d : Dispatcher} (hd : FuturesKnown d)
    (call : DispatchCall) (clock : Clock) :
    FuturesKnown ((dispatchReady call clock).finalState d) := by
  rw [dispatchReady, EStateM.finalState_get_bind]
  cases d.planDispatch call with
  | error e => exact hd
  | ok planned =>
    rw [EStateM.finalState_ofExcept_ok_bind]
    refine EStateM.Triple.final (Q := FuturesKnown)
      (.bind (holds_startExecutions call planned _ clock) fun executions => ?_) hd.holds
    rintro now ⟨known, -, hnow, hstarted⟩
    have hrest : EStateM.Preserves (Holds known) (do
        let delta ← eventDelta
        executions.forM (submit call delta)
        return DispatchBatch.mk (executions.map assignmentOf) executions.length
          executions.length) := by
      refine .bind (.of_final fun d hd => ?_) fun delta =>
        .bind (.forM fun started hmem => .of_final fun d hd => ?_) fun _ => .pure _
      · rw [EStateM.finalState_of_ok (eventDelta_run d)]
        exact hd
      · rw [submit, EStateM.finalState_get_bind]
        cases Checked.check (d.closed = false)
          (VsmError.raised "cannot schedule new futures after shutdown") with
        | error e => exact hd
        | ok _ =>
          refine ⟨hd.1, fun pending hpending => ?_⟩
          rcases List.mem_append.mp hpending with hold | hnew
          · exact hd.2 pending hold
          · obtain rfl := List.mem_singleton.mp hnew
            exact hstarted started hmem
    exact EStateM.Triple.conseq hrest (fun _ h => h) (fun _ _ h => h.futuresKnown)
      (fun _ _ h => h.futuresKnown) now hnow

end Futures

/-! ### Completions -/

section Completion

variable [Sha256] {s : MemorySystem} {d : Dispatcher} {position : Nat} {pending : PendingExecution}

/-- `_finish_execution` once the future is discarded. -/
def completion (pending : PendingExecution) (clock : Clock) : WorkOutcome → DispatcherM Unit
  | .receipt receipt =>
    Dispatcher.onKernel (.recordPilotExecutionReceipt pending.execution.executionId receipt
      pending.execution.pilotId
      s!"{pending.idempotencyKey}:{pending.execution.executionId}:receipt") clock
  | .unreachable receiptId requestReprovision =>
    finishUnreachable pending receiptId requestReprovision clock
  | .unexpected message receiptId => finishUnexpected pending message receiptId clock

theorem finishExecution_of_pending (h : d.futures[position]? = some pending) (outcome : WorkOutcome)
    (clock : Clock) : finishExecution position outcome clock d =
      completion pending clock outcome { d with futures := d.futures.eraseIdx position } := by
  rw [finishExecution, EStateM.run_get_bind, h]
  cases outcome <;> rfl

private theorem preserves_completion {I : Dispatcher → Prop}
    (hkernel : ∀ c clock, EStateM.Preserves I (Dispatcher.onKernel c clock))
    (hfailover : ∀ process pilotHostId key requestReprovision clock, EStateM.Preserves I
      (onSystem (failover process pilotHostId key requestReprovision clock)))
    (clock : Clock) (outcome : WorkOutcome) :
    EStateM.Preserves I (completion pending clock outcome) := by
  cases outcome with
  | receipt receipt => exact hkernel _ clock
  | unreachable receiptId requestReprovision =>
    refine .bind .get fun reached => .bind (.ofExcept _) fun _ => .bind (hkernel _ _) fun _ => ?_
    cases reached.environmentFailover with
    | none => exact .pure ()
    | some process => exact hfailover process _ _ _ _
  | unexpected message receiptId =>
    exact .tryCatch (.bind .get fun _ => .bind (.ofExcept _) fun _ => hkernel _ _)
      fun _ => hkernel _ _

/-- **One step of a host** keeps the executions of the futures. -/
private theorem futuresKnown_step (d : Dispatcher) (input : HostInput × Clock)
    (hd : FuturesKnown d) : FuturesKnown (HostInput.step d input) := by
  obtain ⟨input, clock⟩ := input
  cases input with
  | shared c =>
    have hknows := (knows_keptByHost _).step d (.shared c, clock) hd.holds.1
    have hfutures : (HostInput.step d (.shared c, clock)).futures = d.futures := by
      rw [HostInput.step, HostInput.run, onSystem, EStateM.finalState_zoom]
      rfl
    refine ⟨hknows.1, fun pending hpending => ?_⟩
    rw [hfutures] at hpending
    exact hknows.2 _ (List.mem_map_of_mem hpending)
  | dispatcher input =>
    cases input with
    | dispatch call =>
      rw [HostInput.step, HostInput.run, DispatcherInput.run, EStateM.finalState_bind_pure]
      exact futuresKnown_dispatchReady hd call clock
    | close => exact hd
    | finish position outcome =>
      rw [HostInput.step, HostInput.run, DispatcherInput.run]
      cases hpending : d.futures[position]? with
      | none =>
        rw [finishExecution, EStateM.finalState_get_bind, hpending]
        exact hd
      | some pending =>
        have hrun := finishExecution_of_pending hpending outcome clock
        have hkept : EStateM.Preserves (Holds (d.futures.map (·.execution.executionId)))
            (completion pending clock outcome) :=
          preserves_completion holds_onKernel (fun process _ _ _ _ => .of_final fun now hnow => by
            rw [onSystem, EStateM.finalState_zoom]
            exact ⟨(preserves_failover ((knows_keptByHost _).lifecycle process) _ _ _ _).final
              hnow.1, hnow.2⟩) clock outcome
        have hstart : Holds (d.futures.map (·.execution.executionId))
            { d with futures := d.futures.eraseIdx position } :=
          ⟨hd.holds.1, fun pending hmem =>
            hd.holds.2 pending ((List.eraseIdx_sublist _ _).subset hmem)⟩
        have hfinal := (hkept.final hstart).futuresKnown
        rw [EStateM.finalState] at hfinal ⊢
        rwa [hrun]

/-- The executions of the futures exist in every state that a host reaches. -/
theorem futuresKnown_runHost {d : Dispatcher} (hs : d.system.KernelSynced) (hnone : d.futures = [])
    (inputs : List (HostInput × Clock)) : FuturesKnown (runHost d inputs) := by
  refine Run.exec_invariant futuresKnown_step inputs ⟨hs, ?_⟩
  rw [hnone]
  exact fun _ hmem => by cases hmem

end Completion

/-! ### When the event of a completion is taken -/

section Taken

variable [Sha256] {s : MemorySystem} {executionId workItemId pilotId key : String}

/-- **The event of a completion is taken**: its identifiers and its key are well formed, no event
stored has its key or its identity, and the Kernel knows where the stream of the execution
stands. -/
structure KeyRecordable (executionId workItemId pilotId key : String) (s : MemorySystem) :
    Prop where
  data_space : isIdentifier s.kernel.dataSpace.dataSpaceId = true
  execution : isIdentifier executionId = true
  work_item : isIdentifier workItemId = true
  pilot : isIdentifier pilotId = true
  key_nonblank : isNonBlank key = true
  fresh_key : s.ledger.idempotency.get? key = none
  fresh_id : s.ledger.eventIds.get?
    (deterministicEventId s.kernel.dataSpace.dataSpaceId executionId key) = none
  version : s.kernel.versions.getD executionId 0 = s.ledger.streamLength executionId

/-- Whatever it says, an event on the stream of the execution is accepted exactly if its key is
recordable. -/
theorem accepted_iff_keyRecordable (hs : s.KernelSynced) (payload : KernelPayload)
    {actorType : String} (hactor : (ActorType.ofString? actorType).isSome = true)
    (occurredAt : DateTime) (assign : EventEnvelope → Kernel → Kernel) :
    (Kernel.recording executionId payload actorType (some pilotId) key (some workItemId) none
        occurredAt assign).Accepted s ↔ KeyRecordable executionId workItemId pilotId key s := by
  rw [Recording.accepted_iff hs rfl, Recording.isNew_iff hs.data_space]
  constructor
  · rintro ⟨⟨hvalid, hkey, hid⟩, hversion⟩
    exact ⟨hvalid.data_space, hvalid.stream, hvalid.correlation, hvalid.actor, hvalid.key, hkey,
      hid, hversion⟩
  · rintro ⟨hspace, hstream, hwork, hpilot, hkey, hfresh, hid, hversion⟩
    exact ⟨⟨⟨hactor, hspace, hstream, hpilot, hwork, rfl, hkey⟩, hfresh, hid⟩, hversion⟩

/-- A command that passes its checks records its event, or raises and changes nothing. -/
private theorem performKernel_of_recording (hs : s.KernelSynced)
    (plan : Kernel → Except VsmError (Recording Kernel)) {payload recorded : KernelPayload}
    {actorType : String} (hactor : (ActorType.ofString? actorType).isSome = true)
    {occurredAt : DateTime} {assign : EventEnvelope → Kernel → Kernel}
    (hplan : plan s.kernel = .ok (Kernel.recording executionId payload actorType (some pilotId) key
      (some workItemId) none occurredAt assign))
    (hreplay : s.kernel.Replayable executionId recorded (Kernel.recording executionId payload
      actorType (some pilotId) key (some workItemId) none occurredAt assign)) :
    (KeyRecordable executionId workItemId pilotId key s → ∃ event s', event.streamId = executionId ∧
      event.payload = .kernel recorded ∧ s.Mirrored event s' ∧
      performKernel plan s = .ok () s') ∧
    (¬ KeyRecordable executionId workItemId pilotId key s →
      ∃ e, performKernel plan s = .error e s) := by
  rw [← accepted_iff_keyRecordable hs payload hactor occurredAt assign]
  have hrun : perform (fun s : MemorySystem => plan s.kernel) s = _ := perform_of_ok hplan
  constructor
  · intro haccepted
    obtain ⟨answer, s', hok⟩ := perform_returns (fun s : MemorySystem => plan s.kernel) hplan
      haccepted fun _ _ _ => ⟨_, rfl⟩
    rcases record_kernel hs hreplay with
      ⟨e, herror⟩ | ⟨event, _, _, hid, hpayload, hmirrored, hrecord⟩
    · cases hok.symm.trans (hrun.trans herror)
    · exact ⟨event, _, hid, hpayload, hmirrored, EStateM.run_bind_of_ok (hrun.trans hrecord)⟩
  · intro hnot
    obtain ⟨e, herror⟩ := record_of_not_accepted hnot
    exact ⟨e, EStateM.run_bind_of_error (hrun.trans herror)⟩

variable {execution : Execution} {actorId : String} {clock : Clock}

omit [Sha256] in
/-- The receipt of a requested execution passes its checks. -/
private theorem recordPilotExecutionReceipt_of_requested {k : Kernel} (actorId key : String)
    (clock : Clock) (hget : k.executions.get? executionId = some execution)
    (hrequested : execution.state = .requested) {receipt : Kernel.PilotReceipt}
    {state : ExecutionState} {pauseReason : Option String}
    (houtcome : Kernel.receiptOutcome receipt = .ok (state, pauseReason)) :
    ∃ payload assign, k.recordPilotExecutionReceipt executionId receipt actorId key clock =
      .ok (Kernel.recording executionId (.pilotExecutionReceiptRecorded payload) "pilot"
        (some actorId) key (some execution.workItemId) none (clock 0) assign) := by
  rw [Kernel.recordPilotExecutionReceipt, hget, Checked.orRaise_some_bind, require,
    Checked.check_bind_of hrequested, houtcome]
  exact ⟨_, _, rfl⟩

/-- **A receipt that is taken** settles the execution. -/
theorem recordReceipt_settles (clock : Clock) (hs : s.KernelSynced)
    (hget : s.kernel.executions.get? executionId = some execution)
    (hrequested : execution.state = .requested) {receipt : Kernel.PilotReceipt}
    (houtcome : ∃ answer, Kernel.receiptOutcome receipt = .ok answer)
    (hkey : KeyRecordable executionId execution.workItemId actorId key s) :
    ∃ s' after, (KernelCommand.recordPilotExecutionReceipt executionId receipt actorId key).run
        clock s = .ok () s' ∧
      s'.kernel.executions.get? executionId = some after ∧ after.state.Settled := by
  obtain ⟨⟨state, pauseReason⟩, houtcome⟩ := houtcome
  obtain ⟨payload, assign, hplan⟩ := recordPilotExecutionReceipt_of_requested actorId key
    clock hget hrequested houtcome
  obtain ⟨recorded, hreplay⟩ := Kernel.replayable_recordPilotExecutionReceipt hs.consistent hplan
  rw [KernelCommand.run]
  obtain ⟨event, s', rfl, hpayload, hmirrored, hok⟩ := (performKernel_of_recording hs
    (fun k => k.recordPilotExecutionReceipt executionId receipt actorId key clock)
    rfl hplan hreplay).1 hkey
  obtain ⟨hpermits, happlied⟩ := hmirrored.stepped.kernel hpayload
  have hchanges := Kernel.changes_of_applyKernel hs.consistent happlied
  obtain ⟨-, -, -, -, -, -, hstate⟩ := hpermits
  have hafter : s'.kernel.executions.get? event.streamId = some { execution with
      state := recorded.state
      providerSessionId := recorded.providerSessionId
      pauseReason := recorded.pauseReason } := by
    rw [hchanges.executions, Kernel.executionsAfter, OrderedDict.get?_modify, if_pos rfl, hget]
    rfl
  refine ⟨s', _, hok, hafter, ?_⟩
  change recorded.state.Settled
  rcases hstate with hstate | hstate | ⟨hstate, -⟩ <;> rw [hstate] <;>
    exact ⟨ExecutionState.noConfusion, ExecutionState.noConfusion⟩

/-- A receipt that is not taken raises and changes nothing. -/
theorem recordReceipt_raises (clock : Clock) (hs : s.KernelSynced)
    (hget : s.kernel.executions.get? executionId = some execution) {receipt : Kernel.PilotReceipt}
    (hnot : ¬ (execution.state = .requested ∧
      (∃ answer, Kernel.receiptOutcome receipt = .ok answer) ∧
      KeyRecordable executionId execution.workItemId actorId key s)) :
    ∃ e, (KernelCommand.recordPilotExecutionReceipt executionId receipt actorId key).run clock s =
      .error e s := by
  rw [KernelCommand.run]
  cases hplan : s.kernel.recordPilotExecutionReceipt executionId receipt actorId key clock with
  | error e => exact ⟨e, EStateM.run_bind_of_error (perform_of_error hplan)⟩
  | ok r =>
    have hchecks := hplan
    rw [Kernel.recordPilotExecutionReceipt, hget, Checked.orRaise_some_bind,
      Checked.check_bind_eq_ok_iff] at hchecks
    obtain ⟨hrequested, hchecks⟩ := hchecks
    obtain ⟨⟨state, pauseReason⟩, houtcome, -⟩ := Checked.bind_eq_ok_iff.mp hchecks
    obtain ⟨payload, assign, hplan'⟩ := recordPilotExecutionReceipt_of_requested
      actorId key clock hget hrequested houtcome
    obtain ⟨recorded, hreplay⟩ := Kernel.replayable_recordPilotExecutionReceipt hs.consistent hplan'
    exact (performKernel_of_recording hs
      (fun k => k.recordPilotExecutionReceipt executionId receipt actorId key clock)
      rfl hplan' hreplay).2 fun hkey => hnot ⟨hrequested, ⟨_, houtcome⟩, hkey⟩

omit [Sha256] in
/-- A bare failure of an unsettled execution passes its checks. -/
private theorem setExecutionState_failed {k : Kernel} (actorId key : String) (clock : Clock)
    (hget : k.executions.get? executionId = some execution)
    (hallowed : .failed ∈ execution.state.allowed) :
    ∃ assign, k.setExecutionState executionId .failed "system" actorId key none clock =
      .ok (Kernel.recording executionId (.executionStateChanged .failed none) "system"
        (some actorId) key (some execution.workItemId) none (clock 0) assign) := by
  rw [Kernel.setExecutionState, hget, Checked.orRaise_some_bind, require,
    Checked.check_bind_of hallowed, require, Checked.check_bind_of (by simp)]
  exact ⟨_, rfl⟩

/-- **A bare failure** settles the execution when it is taken, and raises without a change when it
is not. -/
theorem setFailed_cases (actorId key : String) (clock : Clock) (hs : s.KernelSynced)
    (hget : s.kernel.executions.get? executionId = some execution) :
    (execution.state.Settled ∨ KeyRecordable executionId execution.workItemId actorId key s →
      ∃ after, (((KernelCommand.setExecutionState executionId .failed "system" actorId key none).run
        clock).finalState s).kernel.executions.get? executionId = some after ∧
        after.state.Settled) ∧
    (¬ KeyRecordable executionId execution.workItemId actorId key s →
      ∃ e, (KernelCommand.setExecutionState executionId .failed "system" actorId key none).run
        clock s = .error e s) := by
  rw [KernelCommand.run]
  by_cases hallowed : .failed ∈ execution.state.allowed
  · obtain ⟨assign, hplan⟩ := setExecutionState_failed actorId key clock hget hallowed
    obtain ⟨htaken, hraises⟩ := performKernel_of_recording hs
      (fun k => k.setExecutionState executionId .failed "system" actorId key none clock)
      rfl hplan (Kernel.replayable_setExecutionState hplan)
    refine ⟨fun hsettles => ?_, hraises⟩
    by_cases hkey : KeyRecordable executionId execution.workItemId actorId key s
    · obtain ⟨event, s', rfl, hpayload, hmirrored, hok⟩ := htaken hkey
      have hchanges := Kernel.changes_of_applyKernel hs.consistent
        (hmirrored.stepped.kernel hpayload).2
      have hafter : s'.kernel.executions.get? event.streamId =
          some { execution with state := .failed, pauseReason := none } := by
        rw [hchanges.executions, Kernel.executionsAfter, OrderedDict.get?_modify, if_pos rfl, hget]
        rfl
      rw [EStateM.finalState_of_ok hok]
      exact ⟨_, hafter, ExecutionState.noConfusion, ExecutionState.noConfusion⟩
    · obtain ⟨e, herror⟩ := hraises hkey
      rw [EStateM.finalState_of_error herror]
      exact ⟨execution, hget, hsettles.resolve_right hkey⟩
  · -- The execution has ended, and the transition is refused.
    have hplan : ∃ e, s.kernel.setExecutionState executionId .failed "system" actorId key none
        clock = .error e := by
      rw [Kernel.setExecutionState, hget, Checked.orRaise_some_bind, require,
        Checked.check_bind_of_not hallowed]
      exact ⟨_, rfl⟩
    obtain ⟨e, hplan⟩ := hplan
    have herror : performKernel (fun k : Kernel =>
        k.setExecutionState executionId .failed "system" actorId key none clock) s = .error e s :=
      EStateM.run_bind_of_error (perform_of_error hplan)
    refine ⟨fun _ => ?_, fun _ => ⟨e, herror⟩⟩
    rw [EStateM.finalState_of_error herror]
    refine ⟨execution, hget, ?_, ?_⟩
    · intro hstate
      rw [hstate] at hallowed
      exact hallowed (by decide)
    · intro hstate
      rw [hstate] at hallowed
      exact hallowed (by decide)

end Taken

/-! ### The promise of a completion -/

section Promise

variable [Sha256]

/-- The key under which the event of a completion is recorded. -/
def WorkOutcome.key (pending : PendingExecution) : WorkOutcome → String
  | .receipt _ => s!"{pending.idempotencyKey}:{pending.execution.executionId}:receipt"
  | .unreachable _ _ =>
    s!"{pending.idempotencyKey}:{pending.execution.executionId}:receipt-unreachable"
  | .unexpected _ _ =>
    s!"{pending.idempotencyKey}:{pending.execution.executionId}:unexpected-dispatch-failure"

/-- The answer of the worker is one that the dispatcher can record: its receipt is consistent, or
the model that was asked for is still registered. -/
def WorkOutcome.Admissible (d : Dispatcher) (pending : PendingExecution) : WorkOutcome → Prop
  | .receipt reported => ∃ answer, Kernel.receiptOutcome reported = .ok answer
  | .unreachable _ _ => ∃ model, d.requestedModel pending.execution = .ok model
  | .unexpected _ _ => True

/-- An exception that nothing anticipated. -/
def WorkOutcome.IsUnexpected : WorkOutcome → Prop
  | .unexpected _ _ => True
  | _ => False

/-- **When a completion settles its execution**: it is settled already, or the event is taken and
the execution is requested and the answer admissible, or nothing anticipated the answer. -/
def CompletionSettles (d : Dispatcher) (pending : PendingExecution) (outcome : WorkOutcome) :
    Prop :=
  ∃ execution, d.system.kernel.executions.get? pending.execution.executionId = some execution ∧
    (execution.state.Settled ∨
      (outcome.IsUnexpected ∨ execution.state = .requested ∧ outcome.Admissible d pending) ∧
      KeyRecordable pending.execution.executionId execution.workItemId pending.execution.pilotId
        (outcome.key pending) d.system)

/-- **What a completion promises**: the execution is no longer requested, it has one receipt at
most, and an exception escapes only once the execution is settled. -/
structure CompletionKept (d : Dispatcher) (position : Nat) (outcome : WorkOutcome) (clock : Clock)
    (executionId : String) : Prop where
  not_requested : ∃ execution,
    ((finishExecution position outcome clock).finalState d).system.kernel.executions.get?
      executionId = some execution ∧ execution.state ≠ .requested
  receipt_once : (receiptsOf executionId
    ((finishExecution position outcome clock).finalState d).system.ledger.events).length ≤ 1
  settled_first : (finishExecution position outcome clock).returns d = false → ∃ execution,
    ((finishExecution position outcome clock).finalState d).system.kernel.executions.get?
      executionId = some execution ∧ execution.state.Settled

/-- An execution is settled in the system of the dispatcher. -/
def SettledIn (executionId : String) (d : Dispatcher) : Prop :=
  ∃ execution, d.system.kernel.executions.get? executionId = some execution ∧
    execution.state.Settled

end Promise

/-! ### What a completion does -/

section Outcomes

variable [Sha256] {d : Dispatcher} {pending : PendingExecution} {execution : Execution}
  {executionId pilotId key : String} {clock : Clock}

private theorem run_onKernel_of_error {c : KernelCommand} {e : VsmError}
    (h : c.run clock d.system = .error e d.system) :
    Dispatcher.onKernel c clock d = .error e d := by
  rw [Dispatcher.onKernel, onSystem]
  exact EStateM.run_zoom_of_error (S := Dispatcher) h

/-- A receipt can be recorded: the execution is requested, the receipt is consistent and its event
is taken. -/
private def ReceiptRecordable (d : Dispatcher) (pending : PendingExecution) (execution : Execution)
    (receipt : Kernel.PilotReceipt) (key : String) : Prop :=
  execution.state = .requested ∧ (∃ answer, Kernel.receiptOutcome receipt = .ok answer) ∧
    KeyRecordable pending.execution.executionId execution.workItemId pending.execution.pilotId key
      d.system

/-- The receipt of a pending execution. -/
private def receiptOf (pending : PendingExecution) (receipt : Kernel.PilotReceipt) (key : String)
    (clock : Clock) : DispatcherM Unit :=
  Dispatcher.onKernel (.recordPilotExecutionReceipt pending.execution.executionId receipt
    pending.execution.pilotId key) clock

private theorem receiptOf_ok (clock : Clock) (hs : d.system.KernelSynced)
    (hget : d.system.kernel.executions.get? pending.execution.executionId = some execution)
    {receipt : Kernel.PilotReceipt} (h : ReceiptRecordable d pending execution receipt key) :
    ∃ d', receiptOf pending receipt key clock d = .ok () d' ∧ d'.system.KernelSynced ∧
      SettledIn pending.execution.executionId d' := by
  obtain ⟨hrequested, houtcome, hkey⟩ := h
  obtain ⟨s', after, hok, hafter, hsettled⟩ := recordReceipt_settles clock hs hget
    hrequested houtcome hkey
  have hsynced := ServiceCommand.invariant_step kernelSynced_kept d.system
    (.kernel (.recordPilotExecutionReceipt pending.execution.executionId receipt
      pending.execution.pilotId key), clock) hs
  rw [ServiceCommand.step, ServiceCommand.run, EStateM.finalState_of_ok hok] at hsynced
  exact ⟨_, EStateM.run_zoom_of_ok hok, hsynced, after, hafter, hsettled⟩

private theorem receiptOf_error (clock : Clock) (hs : d.system.KernelSynced)
    (hget : d.system.kernel.executions.get? pending.execution.executionId = some execution)
    {receipt : Kernel.PilotReceipt} (h : ¬ ReceiptRecordable d pending execution receipt key) :
    ∃ e, receiptOf pending receipt key clock d = .error e d := by
  obtain ⟨e, herror⟩ := recordReceipt_raises clock hs hget h
  exact ⟨e, run_onKernel_of_error herror⟩

omit [Sha256] in
/-- The receipts that the dispatcher writes itself are consistent. -/
private theorem receiptOutcome_ownReceipt (receiptId : String) {status : String}
    (hstatus : status = "failed" ∨ status = "transport_unknown") (model : Option NonBlank)
    (error : JsonObject) :
    ∃ answer, Kernel.receiptOutcome (ownReceipt receiptId status model error) = .ok answer := by
  rcases hstatus with rfl | rfl
  · exact ⟨(.failed, none), rfl⟩
  · exact ⟨(.paused, some "pilot_receipt_reconciliation_required"), rfl⟩

/-- **The two ends of a completion**: it settles the execution when it can, and otherwise raises
with nothing changed. -/
private def Ends (d : Dispatcher) (pending : PendingExecution) (outcome : WorkOutcome)
    (x : DispatcherM Unit) : Prop :=
  (CompletionSettles d pending outcome → SettledIn pending.execution.executionId (x.finalState d)) ∧
  (¬ CompletionSettles d pending outcome → ∃ e, x d = .error e d)

/-- The event of a completion is taken, for a requested execution and an admissible answer. -/
private def Answered (d : Dispatcher) (pending : PendingExecution) (execution : Execution)
    (outcome : WorkOutcome) : Prop :=
  execution.state = .requested ∧ outcome.Admissible d pending ∧
    KeyRecordable pending.execution.executionId execution.workItemId pending.execution.pilotId
      (outcome.key pending) d.system

private theorem ends_of_settled
    (hget : d.system.kernel.executions.get? pending.execution.executionId = some execution)
    {outcome : WorkOutcome} (h : Answered d pending execution outcome) {x : DispatcherM Unit}
    (hfinal : SettledIn pending.execution.executionId (x.finalState d)) :
    Ends d pending outcome x :=
  ⟨fun _ => hfinal, fun hnot => absurd ⟨execution, hget, Or.inr ⟨Or.inr ⟨h.1, h.2.1⟩, h.2.2⟩⟩ hnot⟩

/-- An anticipated answer that is not taken raises with nothing changed. -/
private theorem ends_of_error
    (hget : d.system.kernel.executions.get? pending.execution.executionId = some execution)
    {outcome : WorkOutcome} (hanticipated : ¬ outcome.IsUnexpected)
    (hnot : ¬ Answered d pending execution outcome) {x : DispatcherM Unit} {e : VsmError}
    (herror : x d = .error e d) : Ends d pending outcome x := by
  refine ⟨?_, fun _ => ⟨e, herror⟩⟩
  rintro ⟨known, hknown, hsettles⟩
  obtain rfl := Option.some.inj (hknown.symm.trans hget)
  rw [EStateM.finalState_of_error herror]
  rcases hsettles with hsettled | ⟨hunexpected | ⟨hrequested, hadmissible⟩, hkey⟩
  · exact ⟨known, hget, hsettled⟩
  · exact absurd hunexpected hanticipated
  · exact absurd ⟨hrequested, hadmissible, hkey⟩ hnot

/-- An answer that carries a receipt. -/
private theorem ends_receipt (clock : Clock) (hs : d.system.KernelSynced)
    (hget : d.system.kernel.executions.get? pending.execution.executionId = some execution)
    (reported : Kernel.PilotReceipt) :
    Ends d pending (.receipt reported) (completion pending clock (.receipt reported)) := by
  change Ends d pending _ (receiptOf pending reported (WorkOutcome.key pending (.receipt reported))
    clock)
  by_cases hanswered : Answered d pending execution (.receipt reported)
  · obtain ⟨d', hok, -, hsettled⟩ := receiptOf_ok clock hs hget hanswered
    refine ends_of_settled hget hanswered ?_
    rw [EStateM.finalState_of_ok hok]
    exact hsettled
  · obtain ⟨e, herror⟩ := receiptOf_error clock hs hget hanswered
    exact ends_of_error hget id hanswered herror

/-- The failover of a dispatcher with the boundary `environmentFailover`. -/
private def failoverOf (environmentFailover : Option Nat) (pending : PendingExecution)
    (requestReprovision : Except VsmError Unit) (clock : Clock) : DispatcherM Unit :=
  match environmentFailover with
  | none => return
  | some process =>
    onSystem (failover process pending.execution.pilotHostId
      s!"{pending.idempotencyKey}:{pending.execution.executionId}:environment-failover"
      requestReprovision fun reading => clock (reading + 1))

private theorem settledIn_failoverOf (environmentFailover : Option Nat)
    (requestReprovision : Except VsmError Unit) (hs : d.system.KernelSynced)
    (h : SettledIn executionId d) : SettledIn executionId
      ((failoverOf environmentFailover pending requestReprovision clock).finalState d) := by
  cases environmentFailover with
  | none => exact h
  | some process =>
    rw [failoverOf, onSystem, EStateM.finalState_zoom]
    exact ((preserves_failover (kernelSynced_keptByLifecycle (fun k => ∃ execution,
      k.executions.get? executionId = some execution ∧ execution.state.Settled) process) _ _ _
      _).final ⟨hs, h⟩).2

/-- A host that cannot be reached. The failover after the receipt may raise. -/
private theorem ends_unreachable (clock : Clock) (hs : d.system.KernelSynced)
    (hget : d.system.kernel.executions.get? pending.execution.executionId = some execution)
    (receiptId : String) (requestReprovision : Except VsmError Unit) :
    Ends d pending (.unreachable receiptId requestReprovision)
      (completion pending clock (.unreachable receiptId requestReprovision)) := by
  cases hmodel : d.requestedModel pending.execution with
  | error e =>
    refine ends_of_error (e := e) hget id ?_ ?_
    · rintro ⟨-, ⟨model, hok⟩, -⟩
      cases hmodel.symm.trans hok
    · rw [completion, finishUnreachable, EStateM.run_get_bind, hmodel]
      rfl
  | ok model =>
    obtain ⟨receipt, hconsistent, hrun⟩ : ∃ receipt : Kernel.PilotReceipt,
        (∃ answer, Kernel.receiptOutcome receipt = .ok answer) ∧
        completion pending clock (.unreachable receiptId requestReprovision) d =
          (receiptOf pending receipt
            (WorkOutcome.key pending (.unreachable receiptId requestReprovision)) clock >>= fun _ =>
              failoverOf d.environmentFailover pending requestReprovision clock) d := by
      refine ⟨_, receiptOutcome_ownReceipt receiptId (Or.inr rfl) model
        (errorObject "ReceiptUnreachable"
          s!"PilotHost POST outcome and receipt {receiptId} are unreachable"), ?_⟩
      rw [completion, finishUnreachable, EStateM.run_get_bind, hmodel]
      rfl
    by_cases hanswered : Answered d pending execution (.unreachable receiptId requestReprovision)
    · obtain ⟨d', hok, hsynced, hsettled⟩ := receiptOf_ok clock hs hget
        ⟨hanswered.1, hconsistent, hanswered.2.2⟩
      refine ends_of_settled hget hanswered ?_
      have hfinal : (completion pending clock
          (.unreachable receiptId requestReprovision)).finalState d =
          (failoverOf d.environmentFailover pending requestReprovision clock).finalState d' := by
        rw [EStateM.finalState, hrun, EStateM.run_bind_of_ok hok, EStateM.finalState]
      rw [hfinal]
      exact settledIn_failoverOf _ _ hsynced hsettled
    · obtain ⟨e, herror⟩ := receiptOf_error clock hs hget fun hrecordable =>
        hanswered ⟨hrecordable.1, ⟨model, hmodel⟩, hrecordable.2.2⟩
      exact ends_of_error hget id hanswered (hrun.trans (EStateM.run_bind_of_error herror))

/-- The receipt of an exception that nothing anticipated. -/
private def unexpectedReceipt (pending : PendingExecution) (message : String)
    (receiptId : Identifier) (key : String) (clock : Clock) : DispatcherM Unit := do
  let d ← get
  let model ← EStateM.ofExcept (d.requestedModel pending.execution)
  receiptOf pending
    (ownReceipt receiptId "failed" model (errorObject "UnexpectedDispatchFailure" message)) key
      clock

/-- The bare failure of a pending execution. -/
private def bareFailure (pending : PendingExecution) (key : String) (clock : Clock) :
    DispatcherM Unit :=
  Dispatcher.onKernel (.setExecutionState pending.execution.executionId .failed "system"
    pending.execution.pilotId key none) clock

/-- The receipt settles the execution, or nothing changes and the bare failure is tried. -/
private theorem unexpectedReceipt_cases (clock : Clock) (hs : d.system.KernelSynced)
    (hget : d.system.kernel.executions.get? pending.execution.executionId = some execution)
    (message : String) (receiptId : Identifier) (key : String) :
    (KeyRecordable pending.execution.executionId execution.workItemId pending.execution.pilotId key
        d.system ∧
      ∃ d', unexpectedReceipt pending message receiptId key clock d = .ok () d' ∧
        SettledIn pending.execution.executionId d') ∨
    ∃ e, unexpectedReceipt pending message receiptId key clock d = .error e d := by
  rw [unexpectedReceipt, EStateM.run_get_bind]
  cases d.requestedModel pending.execution with
  | error e => exact Or.inr ⟨e, rfl⟩
  | ok model =>
    rw [EStateM.run_ofExcept_ok_bind]
    by_cases hrecordable : ReceiptRecordable d pending execution
        (ownReceipt receiptId "failed" model (errorObject "UnexpectedDispatchFailure" message)) key
    · obtain ⟨d', hok, -, hsettled⟩ := receiptOf_ok clock hs hget hrecordable
      exact Or.inl ⟨hrecordable.2.2, d', hok, hsettled⟩
    · exact Or.inr (receiptOf_error clock hs hget hrecordable)

/-- An exception that nothing anticipated: the bare failure is what remains when the receipt is not
taken. -/
private theorem ends_unexpected (clock : Clock) (hs : d.system.KernelSynced)
    (hget : d.system.kernel.executions.get? pending.execution.executionId = some execution)
    (message : String) (receiptId : Identifier) :
    Ends d pending (.unexpected message receiptId)
      (completion pending clock (.unexpected message receiptId)) := by
  let key := WorkOutcome.key pending (.unexpected message receiptId)
  have hrun : completion pending clock (.unexpected message receiptId) d =
      (tryCatch (unexpectedReceipt pending message receiptId key clock) (fun _ =>
        bareFailure pending key fun reading => clock (reading + 1)) : DispatcherM Unit) d := rfl
  rw [EStateM.run_tryCatch_eq] at hrun
  rcases unexpectedReceipt_cases clock hs hget message receiptId key with
    ⟨hkey, d', hok, hsettled⟩ | ⟨e, herror⟩
  · rw [hok] at hrun
    refine ⟨fun _ => ?_, fun hnot => ?_⟩
    · rw [EStateM.finalState_of_ok hrun]
      exact hsettled
    · exact absurd ⟨execution, hget, Or.inr ⟨Or.inl trivial, hkey⟩⟩ hnot
  · rw [herror] at hrun
    obtain ⟨hsettles, hraises⟩ := setFailed_cases pending.execution.pilotId key
      (fun reading => clock (reading + 1)) hs hget
    constructor
    · rintro ⟨known, hknown, h⟩
      obtain rfl := Option.some.inj (hknown.symm.trans hget)
      rw [EStateM.finalState, hrun, ← EStateM.finalState, bareFailure, Dispatcher.onKernel,
        onSystem, EStateM.finalState_zoom]
      exact hsettles (h.imp_right And.right)
    · intro hnot
      obtain ⟨e, hraised⟩ := hraises fun hkey =>
        hnot ⟨execution, hget, Or.inr ⟨Or.inl trivial, hkey⟩⟩
      exact ⟨e, hrun.trans (run_onKernel_of_error hraised)⟩

/-- **The two ends of every completion.** -/
private theorem ends_completion (clock : Clock) (hs : d.system.KernelSynced)
    (hknown : d.system.kernel.executions.contains pending.execution.executionId = true)
    (outcome : WorkOutcome) : Ends d pending outcome (completion pending clock outcome) := by
  obtain ⟨execution, hget⟩ := (OrderedDict.contains_iff ..).mp hknown
  cases outcome with
  | receipt reported => exact ends_receipt clock hs hget reported
  | unreachable receiptId requestReprovision =>
    exact ends_unreachable clock hs hget receiptId requestReprovision
  | unexpected message receiptId => exact ends_unexpected clock hs hget message receiptId

end Outcomes

/-! ### When a completion keeps its promise -/

section Kept

variable [Sha256]

/-- Discarding the future changes nothing that a completion looks at. -/
private theorem completionSettles_erase {d : Dispatcher} {futures : List PendingExecution}
    {pending : PendingExecution} {outcome : WorkOutcome} :
    CompletionSettles { d with futures := futures } pending outcome ↔
      CompletionSettles d pending outcome := by
  cases outcome <;> rfl

/-- **Completions.** In every state that a host reaches, the completion of a future keeps its
promise exactly if its execution is settled already or the event that settles it is taken. -/
theorem completionKept_iff (dataSpace : DataSpace) (processes : List (ProcessCommand × Clock))
    (d : Dispatcher) (hsystem : d.system = runProcesses (.new dataSpace) processes)
    (hnone : d.futures = []) (inputs : List (HostInput × Clock)) (position : Nat)
    (pending : PendingExecution) (hpending : (runHost d inputs).futures[position]? = some pending)
    (outcome : WorkOutcome) (clock : Clock) :
    CompletionKept (runHost d inputs) position outcome clock pending.execution.executionId ↔
      CompletionSettles (runHost d inputs) pending outcome := by
  have hsynced : d.system.KernelSynced := by
    rw [hsystem]
    exact (syncedIn_runProcesses dataSpace processes).1.toKernelSynced
  have hreceipts : d.system.KernelSynced ∧ ReceiptsOnce d.system :=
    ⟨hsynced, hsystem ▸ receiptsOnce_runProcesses dataSpace processes⟩
  have hnow := receiptsOnce_keptByHost.run hreceipts inputs
  obtain ⟨hs, hfutures⟩ := futuresKnown_runHost hsynced hnone inputs
  generalize runHost d inputs = now at hpending hnow hs hfutures
  have hknown := hfutures pending (List.mem_of_getElem? hpending)
  have hrun := finishExecution_of_pending hpending outcome clock
  obtain ⟨hsettles, hraises⟩ := ends_completion clock
    (d := { now with futures := now.futures.eraseIdx position }) hs hknown outcome
  rw [completionSettles_erase] at hsettles hraises
  constructor
  · intro hkept
    by_contra hnot
    obtain ⟨e, herror⟩ := hraises hnot
    have hraised := hrun.trans herror
    obtain ⟨execution, hget, hsettled⟩ := hkept.settled_first (by rw [EStateM.returns, hraised])
    rw [EStateM.finalState_of_error hraised] at hget
    exact hnot ⟨execution, hget, Or.inl hsettled⟩
  · intro h
    have hfinal := hsettles h
    rw [EStateM.finalState, ← hrun, ← EStateM.finalState] at hfinal
    obtain ⟨execution, hget, hsettled⟩ := hfinal
    refine ⟨⟨execution, hget, hsettled.1⟩, ?_, fun _ => ⟨execution, hget, hsettled⟩⟩
    exact (receiptsOnce_keptByHost.step now
      (.dispatcher (.finish position outcome), clock) hnow).2.at_most_one _

/-- The company's work item is made ready and dispatched under a key. -/
def submittedHost (key : String) : List (HostInput × Clock) :=
  readyHost ++ [(.dispatcher (.dispatch (companyDispatch key "execution:1")), fun _ => 0)]

/-- The execution that the dispatch submits. -/
def submittedExecution : Execution where
  executionId := "execution:1"
  dataSpaceId := "space:company-1"
  nodeId := "node:owner-interface"
  workItemId := "work:1"
  pilotId := "pilot:1"
  modelCandidateKey := "candidate-a"
  state := .requested
  providerSessionId := none
  pilotHostId := "host:1"
  pauseReason := none
  agentName := none

/-- The receipt of a run that succeeded. -/
def succeededReceipt : Kernel.PilotReceipt where
  receiptId := "receipt:1"
  receiptStatus := "succeeded"
  requestedModel := some "claude-opus"
  actualModel := some "claude-opus"
  providerSessionId := some "session:1"
  usage := some "\x7b\x7d"
  result := some "\x7b\x7d"
  error := none

omit [Sha256] in
private theorem submittedHost_pending :
    letI := Sha256.polynomial
    (runHost companyDispatcher (submittedHost "dispatch:1")).futures[0]?.map
        (fun pending => (pending.execution, pending.idempotencyKey)) =
      some (submittedExecution, "dispatch:1") := by
  decide +kernel

omit [Sha256] in
private theorem submittedHost_execution :
    letI := Sha256.polynomial
    (runHost companyDispatcher (submittedHost "dispatch:1")).system.kernel.executions.get?
      "execution:1" = some submittedExecution := by
  decide +kernel

omit [Sha256] in
private theorem submittedHost_returns :
    letI := Sha256.polynomial
    ((KernelCommand.recordPilotExecutionReceipt "execution:1" succeededReceipt "pilot:1"
      "dispatch:1:execution:1:receipt").run fun _ => 0).returns
        (runHost companyDispatcher (submittedHost "dispatch:1")).system = true := by
  decide +kernel

omit [Sha256] in
/-- The receipt of the company's worker settles its execution. -/
theorem completionKept_company :
    letI := Sha256.polynomial
    CompletionKept (runHost companyDispatcher (submittedHost "dispatch:1")) 0
      (.receipt succeededReceipt) (fun _ => 0) "execution:1" := by
  let := Sha256.polynomial
  obtain ⟨pending, hpending, hmade⟩ := Option.map_eq_some_iff.mp submittedHost_pending
  obtain ⟨hexecution, hdispatched⟩ := Prod.mk.inj hmade
  have hiff := completionKept_iff companySpace [] companyDispatcher rfl rfl
    (submittedHost "dispatch:1") 0 pending hpending (.receipt succeededReceipt) fun _ => 0
  rw [hexecution] at hiff
  refine hiff.mpr ?_
  have hs : (runHost companyDispatcher (submittedHost "dispatch:1")).system.KernelSynced :=
    kernelSynced_keptByHost.run (syncedIn_new companySpace).1.toKernelSynced _
  have hget := submittedHost_execution
  have hreturns := submittedHost_returns
  generalize runHost companyDispatcher (submittedHost "dispatch:1") = d at hs hget hreturns ⊢
  have hkeyed : WorkOutcome.key pending (.receipt succeededReceipt) =
      "dispatch:1:execution:1:receipt" := by
    rw [WorkOutcome.key, hexecution, hdispatched]
    decide
  refine ⟨submittedExecution, by rw [hexecution]; exact hget, Or.inr ⟨Or.inr ⟨rfl, ?_⟩, ?_⟩⟩
  · exact ⟨(.succeeded, none), rfl⟩
  · rw [hexecution, hkeyed]
    obtain ⟨payload, assign, hplan⟩ := recordPilotExecutionReceipt_of_requested "pilot:1"
      "dispatch:1:execution:1:receipt" (fun _ => 0) hget rfl
      (show Kernel.receiptOutcome succeededReceipt = .ok (.succeeded, none) from rfl)
    rw [KernelCommand.run] at hreturns
    exact (accepted_iff_keyRecordable hs _ rfl _ _).mp
      (Recording.accepted_of_returns (fun k => k.recordPilotExecutionReceipt _ _ _ _ _) hplan
        hreturns)

/-! ### A key that is too long -/

/-- A key of 500 characters, which a dispatch accepts. -/
def oversizedKey : String := String.ofList (List.replicate 500 'k')

omit [Sha256] in
private theorem oversizedHost_state :
    letI := Sha256.polynomial
    let d := runHost companyDispatcher (submittedHost oversizedKey)
    (d.futures[0]?.map fun pending => (pending.execution, pending.idempotencyKey)) =
        some (submittedExecution, oversizedKey) ∧
      d.system.kernel.executions.get? "execution:1" = some submittedExecution := by
  decide +kernel

omit [Sha256] in
private theorem length_repeated (n : Nat) : (String.ofList (List.replicate n 'k')).length = n := by
  rw [String.length_ofList, List.length_replicate]

omit [Sha256] in
private theorem isNonBlank_oversized {key suffix : String} (hkey : key.length = 500)
    (hsuffix : 13 ≤ suffix.length) : isNonBlank (key ++ suffix) = false := by
  simp only [isNonBlank, String.length_append, hkey, Bool.and_eq_false_iff,
    decide_eq_false_iff_not]
  omega

omit [Sha256] in
/-- **A key that is too long.** The dispatch is accepted, but the key of the receipt exceeds its
bound: the exception escapes and the execution stays requested. -/
theorem oversized_key_breaks_completionKept :
    letI := Sha256.polynomial
    ¬ CompletionKept (runHost companyDispatcher (submittedHost oversizedKey)) 0
      (.receipt succeededReceipt) (fun _ => 0) "execution:1" := by
  let := Sha256.polynomial
  obtain ⟨hfuture, hget⟩ := oversizedHost_state
  obtain ⟨pending, hpending, hmade⟩ := Option.map_eq_some_iff.mp hfuture
  obtain ⟨hexecution, hdispatched⟩ := Prod.mk.inj hmade
  have hs : (runHost companyDispatcher (submittedHost oversizedKey)).system.KernelSynced :=
    kernelSynced_keptByHost.run (syncedIn_new companySpace).1.toKernelSynced _
  have hlength : oversizedKey.length = 500 := length_repeated 500
  generalize oversizedKey = key at *
  generalize runHost companyDispatcher (submittedHost key) = d at *
  intro hkept
  obtain ⟨execution, hafter, hstate⟩ := hkept.not_requested
  have hkey : WorkOutcome.key pending (.receipt succeededReceipt) =
      key ++ ":execution:1:receipt" := by
    rw [WorkOutcome.key, hexecution, hdispatched]
    change key ++ ":" ++ "execution:1" ++ ":receipt" = _
    simp only [String.append_assoc]
    rfl
  have hstored : d.system.kernel.executions.get? pending.execution.executionId =
      some submittedExecution := by
    rw [hexecution]
    exact hget
  have hnot : ¬ CompletionSettles { d with futures := d.futures.eraseIdx 0 } pending
      (.receipt succeededReceipt) := by
    rintro ⟨known, hknown, hsettled | ⟨-, htaken⟩⟩
    · rw [Option.some.inj (hknown.symm.trans hstored)] at hsettled
      exact hsettled.1 rfl
    · have hnonblank := htaken.key_nonblank
      rw [hkey, isNonBlank_oversized hlength (by decide)] at hnonblank
      cases hnonblank
  obtain ⟨e, herror⟩ := (ends_receipt (fun _ => 0)
    (d := { d with futures := d.futures.eraseIdx 0 }) hs hstored succeededReceipt).2 hnot
  rw [EStateM.finalState_of_error ((finishExecution_of_pending hpending _ _).trans herror)]
    at hafter
  rw [Option.some.inj (hafter.symm.trans hget)] at hstate
  exact hstate rfl

end Kept

end Nanihold
