import Nanihold.Dispatcher
import Nanihold.Library.Handout
import Nanihold.Replay.Environment
import Nanihold.Safety.Routes

/-!
# The events that workers are told about

The dispatcher hands the ledger out to its workers, each batch the events since the last one. A
dispatch takes its delta before it looks whether there is an execution to hand it to, so that a
dispatch without eligible work drops the events in between; in every other run each event past the
start-up cursor is in exactly one of the deltas that workers were handed.

## Main definitions

* `EventDeltaSummary.Summarizes` — a delta says what happened between its cursors.
* `DeltaLaw` — the deltas handed out tile the ledger.
* `LedgerInput`, `runLedger` — runs of dispatchers beside services that append to the ledger.
* `HandsDelta` — a dispatch takes no delta that nobody is handed.

## Main results

* `eventDelta_run` — the delta summarizes the rest of the ledger, and the cursor moves to its end.
* `deltaLaw_of_handsDelta` — the law holds in every run that drops no delta.
* `idleDispatch_breaks_deltaLaw` — a dispatch without eligible work breaks it.
-/

namespace Nanihold

/-! ### Summaries -/

namespace EventDeltaSummary

/-- The delta covers an event. -/
def Covers (delta : EventDeltaSummary) (stored : StoredEvent) : Prop :=
  delta.afterCursor < stored.cursor ∧ stored.cursor ≤ delta.throughCursor

instance (delta : EventDeltaSummary) (stored : StoredEvent) : Decidable (delta.Covers stored) :=
  inferInstanceAs (Decidable (_ ∧ _))

/-- The delta counts the events it covers, by type and in all, and names their streams. -/
structure Summarizes (delta : EventDeltaSummary) (events : List StoredEvent) : Prop where
  event_count : delta.eventCount = (events.filter (delta.Covers ·)).length
  type_counts : ∀ eventType, delta.eventTypeCounts.getD eventType 0 =
    ((events.filter (delta.Covers ·)).map (·.event.eventType)).count eventType
  streams : ∀ streamId, streamId ∈ delta.changedStreamIds ↔
    ∃ stored ∈ events, delta.Covers stored ∧ stored.event.streamId = streamId

end EventDeltaSummary

namespace InMemoryOperationalLedger

/-- Where a ledger is cut in two, its cursors are. -/
theorem cursor_of_cut (ledger : InMemoryOperationalLedger) {first second : List StoredEvent}
    (h : ledger.events = first ++ second) :
    (∀ stored ∈ first, stored.cursor ≤ first.length) ∧
      ∀ stored ∈ second, first.length < stored.cursor := by
  have hcursors := ledger.cursors_contiguous
  rw [h, List.map_append, List.length_append, ← List.range'_append_1] at hcursors
  obtain ⟨hfirst, hsecond⟩ := List.append_inj hcursors (by simp)
  constructor
  · intro stored hstored
    have hmem := List.mem_map_of_mem (f := (·.cursor)) hstored
    rw [hfirst, List.mem_range'_1] at hmem
    omega
  · intro stored hstored
    have hmem := List.mem_map_of_mem (f := (·.cursor)) hstored
    rw [hsecond, List.mem_range'_1] at hmem
    omega

/-- The cursors after a cursor count on from it. -/
theorem cursors_drop (ledger : InMemoryOperationalLedger) (afterCursor : Nat) :
    (ledger.events.drop afterCursor).map (·.cursor) =
      List.range' (afterCursor + 1) (ledger.events.drop afterCursor).length := by
  rw [List.map_drop, ledger.cursors_contiguous, List.drop_range', List.length_drop]
  congr 1
  omega

end InMemoryOperationalLedger

namespace Dispatcher

/-! ### Reading the delta -/

/-- The counters after a stretch of events. -/
theorem cursor_foldl_count : ∀ {events : List StoredEvent} {scan : DeltaScan},
    events.map (·.cursor) = List.range' (scan.cursor + 1) events.length →
      (events.foldl DeltaScan.count scan).cursor = scan.cursor + events.length
  | [], _, _ => rfl
  | stored :: events, scan, h => by
    rw [List.map_cons, List.length_cons, List.range'_succ] at h
    obtain ⟨hcursor, hrest⟩ := List.cons.inj h
    have hcount : (scan.count stored).cursor = scan.cursor + 1 := hcursor
    rw [List.foldl_cons, cursor_foldl_count (by rw [hcount, hrest]), hcount, List.length_cons]
    omega

private theorem counts_foldl_count : ∀ (events : List StoredEvent) (scan : DeltaScan),
    (events.foldl DeltaScan.count scan).counts =
      (events.map (·.event.eventType)).foldl OrderedDict.tally scan.counts
  | [], _ => rfl
  | _ :: events, _ => counts_foldl_count events _

private theorem mem_streams_foldl_count (streamId : String) :
    ∀ (events : List StoredEvent) (scan : DeltaScan),
      streamId ∈ (events.foldl DeltaScan.count scan).streams ↔
        streamId ∈ scan.streams ∨ ∃ stored ∈ events, stored.event.streamId = streamId
  | [], _ => by simp
  | stored :: events, scan => by
    rw [List.foldl_cons, mem_streams_foldl_count streamId events, DeltaScan.count,
      List.mem_insert_iff, List.exists_mem_cons_iff, eq_comm (a := streamId)]
    tauto

/-- Contiguous events are all counted. -/
private theorem replay_countNext : ∀ {events : List StoredEvent} {scan : DeltaScan},
    events.map (·.cursor) = List.range' (scan.cursor + 1) events.length →
      EventSourcing.replay DeltaScan.countNext scan events =
        .ok (events.foldl DeltaScan.count scan)
  | [], _, _ => rfl
  | stored :: events, scan, h => by
    rw [List.map_cons, List.length_cons, List.range'_succ] at h
    obtain ⟨hcursor, hrest⟩ := List.cons.inj h
    have hcount : (scan.count stored).cursor = scan.cursor + 1 := hcursor
    rw [EventSourcing.replay_cons, DeltaScan.countNext, Checked.check_bind_of hcursor]
    exact replay_countNext (by rw [hcount, hrest])

/-- The delta from a cursor to the end of a ledger. -/
def deltaFrom (ledger : InMemoryOperationalLedger) (afterCursor : Nat) : EventDeltaSummary :=
  ((ledger.events.drop afterCursor).foldl DeltaScan.count ⟨afterCursor, .empty, []⟩).summary
    afterCursor

variable (ledger : InMemoryOperationalLedger) (afterCursor : Nat)

/-- Reading the ledger page by page counts every event after the cursor, and never fails. -/
theorem scanEvents_eq : scanEvents ledger afterCursor =
    .ok (some ((ledger.events.drop afterCursor).foldl DeltaScan.count
      ⟨afterCursor, .empty, []⟩)) := by
  have hcursor (view : DeltaScan) (stored : StoredEvent) (next : DeltaScan)
      (h : view.countNext stored = .ok next) : next.cursor = view.cursor + 1 := by
    obtain ⟨hnext, h⟩ := Checked.check_bind_eq_ok_iff.mp h
    obtain rfl := Checked.pure_eq_ok_iff.mp h
    exact hnext
  rw [scanEvents, EventSourcing.rebuild_eq_replay ledger.events 500 (by omega) (fun _ => rfl)
    hcursor _ _ (by omega), replay_countNext (ledger.cursors_drop afterCursor)]
  rfl

theorem through_deltaFrom : (deltaFrom ledger afterCursor).throughCursor =
    afterCursor + (ledger.events.length - afterCursor) := by
  rw [← List.length_drop]
  exact cursor_foldl_count (ledger.cursors_drop afterCursor)

/-- **What `_event_delta` returns**, and where it moves the cursor. -/
theorem eventDelta_run (d : Dispatcher) :
    eventDelta d = .ok (deltaFrom d.system.ledger d.eventDeltaCursor)
      { d with
        eventDeltaCursor := (deltaFrom d.system.ledger d.eventDeltaCursor).throughCursor } := by
  rw [eventDelta, EStateM.run_get_bind, scanEvents_eq, EStateM.run_ofExcept_ok_bind]
  rfl

/-- The delta of the events between two cursors. -/
def stretchDelta (ledger : InMemoryOperationalLedger) (afterCursor throughCursor : Nat) :
    EventDeltaSummary :=
  { (((ledger.events.take throughCursor).drop afterCursor).foldl DeltaScan.count
      ⟨afterCursor, .empty, []⟩).summary afterCursor with throughCursor := throughCursor }

/-- A delta covers the events between its cursors. -/
theorem filter_covers (delta : EventDeltaSummary) :
    ledger.events.filter (delta.Covers ·) =
      (ledger.events.take delta.throughCursor).drop delta.afterCursor := by
  let first := (ledger.events.take delta.throughCursor).take delta.afterCursor
  let middle := (ledger.events.take delta.throughCursor).drop delta.afterCursor
  let last := ledger.events.drop delta.throughCursor
  have hfirst : first ++ middle = ledger.events.take delta.throughCursor :=
    List.take_append_drop _ _
  have hevents : first ++ middle ++ last = ledger.events := by
    rw [hfirst, List.take_append_drop]
  have hcut := ledger.cursor_of_cut (hevents.symm.trans (List.append_assoc _ _ _))
  have hcut' := ledger.cursor_of_cut hevents.symm
  have hfirstLength : first.length =
      min delta.afterCursor (min delta.throughCursor ledger.events.length) := by
    rw [List.length_take, List.length_take]
  have hmiddleLength : middle.length =
      min delta.throughCursor ledger.events.length - delta.afterCursor := by
    rw [List.length_drop, List.length_take]
  have hlastLength : last.length = ledger.events.length - delta.throughCursor :=
    List.length_drop
  have hbefore : first.filter (delta.Covers ·) = [] := by
    refine List.filter_eq_nil_iff.mpr fun stored hstored hcovers => ?_
    have hle := hcut.1 stored hstored
    have hlt : delta.afterCursor < stored.cursor := (of_decide_eq_true hcovers).1
    omega
  have hwithin : middle.filter (delta.Covers ·) = middle := by
    refine List.filter_eq_self.mpr fun stored hstored => decide_eq_true ?_
    have hlt := hcut.2 stored (List.mem_append_left _ hstored)
    have hle := hcut'.1 stored (List.mem_append_right _ hstored)
    have hpos := List.length_pos_of_mem hstored
    rw [List.length_append] at hle
    exact ⟨by omega, by omega⟩
  have hafter : last.filter (delta.Covers ·) = [] := by
    refine List.filter_eq_nil_iff.mpr fun stored hstored hcovers => ?_
    have hlt := hcut'.2 stored hstored
    have hpos := List.length_pos_of_mem hstored
    rw [List.length_append] at hlt
    have hle : stored.cursor ≤ delta.throughCursor := (of_decide_eq_true hcovers).2
    omega
  conv_lhs => rw [← hevents, List.filter_append, List.filter_append]
  rw [hbefore, hwithin, hafter, List.nil_append, List.append_nil]

/-- **The delta of a stretch** is a true summary of its events. -/
theorem summarizes_stretchDelta (throughCursor : Nat) :
    (stretchDelta ledger afterCursor throughCursor).Summarizes ledger.events := by
  have hcounts := counts_foldl_count ((ledger.events.take throughCursor).drop afterCursor)
    ⟨afterCursor, .empty, []⟩
  have hfilter := filter_covers ledger (stretchDelta ledger afterCursor throughCursor)
  change _ = (ledger.events.take throughCursor).drop afterCursor at hfilter
  constructor
  · rw [hfilter]
    change (DeltaScan.counts _).values.sum = _
    rw [hcounts, OrderedDict.sum_values_foldl_tally, List.length_map]
    exact Nat.zero_add _
  · intro eventType
    rw [hfilter]
    change (DeltaScan.counts _).sortedByKey.getD eventType 0 = _
    rw [OrderedDict.getD_sortedByKey, hcounts, OrderedDict.getD_foldl_tally]
    exact Nat.zero_add _
  · intro streamId
    have hmem (stored : StoredEvent) :
        stored ∈ (ledger.events.take throughCursor).drop afterCursor ↔
          stored ∈ ledger.events ∧
            (stretchDelta ledger afterCursor throughCursor).Covers stored := by
      rw [← hfilter, List.mem_filter, decide_eq_true_iff]
    change streamId ∈ (DeltaScan.streams _).insertionSort (· ≤ ·) ↔ _
    rw [(List.perm_insertionSort _ _).mem_iff, mem_streams_foldl_count]
    simp only [hmem, List.not_mem_nil, false_or, and_assoc]

/-- **The delta is a true summary** of the events after the cursor. -/
theorem summarizes_deltaFrom : (deltaFrom ledger afterCursor).Summarizes ledger.events := by
  have hstretch : deltaFrom ledger afterCursor = stretchDelta ledger afterCursor
      (afterCursor + (ledger.events.length - afterCursor)) := by
    have hthrough := through_deltaFrom ledger afterCursor
    rw [stretchDelta, List.take_of_length_le (by omega), ← hthrough]
    rfl
  rw [hstretch]
  exact summarizes_stretchDelta ledger afterCursor _

end Dispatcher

/-- A delta of a ledger keeps its summary when the ledger grows. -/
theorem EventDeltaSummary.Summarizes.mono {delta : EventDeltaSummary} {events : List StoredEvent}
    (h : delta.Summarizes events) {ledger : InMemoryOperationalLedger}
    (hgrown : events <+: ledger.events)
    (hbound : delta.throughCursor ≤ events.length ∨ delta.throughCursor ≤ delta.afterCursor) :
    delta.Summarizes ledger.events := by
  obtain ⟨more, hmore⟩ := hgrown
  have hnew (stored : StoredEvent) (hstored : stored ∈ more) : ¬ delta.Covers stored := by
    rintro ⟨hafter, hthrough⟩
    have hcursor := (ledger.cursor_of_cut hmore.symm).2 stored hstored
    omega
  have hfilter : ledger.events.filter (delta.Covers ·) = events.filter (delta.Covers ·) := by
    have hnone : more.filter (delta.Covers ·) = [] :=
      List.filter_eq_nil_iff.mpr fun stored hstored hcovers =>
        hnew stored hstored (of_decide_eq_true hcovers)
    rw [← hmore, List.filter_append, hnone, List.append_nil]
  constructor
  · rw [hfilter, h.event_count]
  · intro eventType
    rw [hfilter, h.type_counts]
  · intro streamId
    rw [h.streams, ← hmore]
    constructor
    · rintro ⟨stored, hstored, hcovers, rfl⟩
      exact ⟨stored, List.mem_append_left _ hstored, hcovers, rfl⟩
    · rintro ⟨stored, hstored, hcovers, rfl⟩
      refine ⟨stored, (List.mem_append.mp hstored).resolve_right fun hnot => ?_, hcovers, rfl⟩
      exact hnew stored hnot hcovers

namespace Dispatcher

/-! ### What leaves the deltas alone -/

/-- The deltas handed out, one for each request. -/
def handedDeltas (d : Dispatcher) : List EventDeltaSummary := d.requests.map (·.eventDelta)

/-- No delta was taken and no request handed out, and the ledger has at most grown. -/
structure SameDeltas (d d' : Dispatcher) : Prop where
  cursor : d'.eventDeltaCursor = d.eventDeltaCursor
  requests : d'.requests = d.requests
  closed : d'.closed = d.closed
  grown : d.system.ledger.events <+: d'.system.ledger.events

theorem SameDeltas.refl (d : Dispatcher) : d.SameDeltas d := ⟨rfl, rfl, rfl, List.prefix_rfl⟩

variable [Sha256] {d : Dispatcher}

/-- The program only appends to the ledger. -/
def OnlyAppends {α : Type} (x : SystemM InMemoryOperationalLedger α) : Prop :=
  ∀ events : List StoredEvent, EStateM.Preserves (fun s => events <+: s.ledger.events) x

theorem onlyAppends_command (c : ServiceCommand) (clock : Clock) : OnlyAppends (c.run clock) :=
  fun _ => c.preserves (fun r => .of_final fun _ => prefix_of_record r)
    (fun r => .of_final fun _ => prefix_of_record r)
    (fun r => .of_final fun _ => prefix_of_record r) (fun _ _ hs => hs) clock

theorem onlyAppends_failover (process : Nat) (failedInstanceId key : String)
    (requestReprovision : Except VsmError Unit) (clock : Clock) :
    OnlyAppends (failover process failedInstanceId key requestReprovision clock) :=
  fun _ => preserves_failover
    (fun r _ => .of_final fun _ =>
      letI : Service InMemoryOperationalLedger _ := environmentService process
      prefix_of_record r)
    failedInstanceId key requestReprovision clock

omit [Sha256] in
/-- A program of the system that only appends hands nothing out. -/
theorem sameDeltas_onSystem {α : Type} {x : SystemM InMemoryOperationalLedger α}
    (hx : OnlyAppends x) : EStateM.Preserves d.SameDeltas (onSystem x) := by
  refine .of_final fun mid hmid => ?_
  rw [onSystem, EStateM.finalState_zoom]
  exact ⟨hmid.cursor, hmid.requests, hmid.closed,
    hmid.grown.trans ((hx mid.system.ledger.events).final List.prefix_rfl)⟩

theorem sameDeltas_onKernel (c : KernelCommand) (clock : Clock) :
    EStateM.Preserves d.SameDeltas (onKernel c clock) :=
  sameDeltas_onSystem (onlyAppends_command (.kernel c) clock)

omit [Sha256] in
/-- Allocating a name writes the naming registry alone. -/
theorem preserves_allocateName {I : Dispatcher → Prop}
    (hregistry : ∀ d registry, I d → I { d with agentNamingRegistry := registry })
    (call : DispatchCall) (planned : PlannedWork) (executionId : Identifier) :
    EStateM.Preserves I (allocateName call planned executionId) := by
  refine .of_final fun d hd => ?_
  rw [allocateName, EStateM.finalState_get_bind]
  cases d.agentNamingRegistry with
  | none => exact hd
  | some registry =>
    change I (EStateM.finalState (EStateM.ofExcept _ >>= _) d)
    cases call.answers.issuedName planned.workItem.workItemId with
    | error e => exact hd
    | ok name =>
      rw [EStateM.finalState_ofExcept_ok_bind]
      cases registry.allocate name (call.answers.assignmentId planned.workItem.workItemId)
        planned.workItem.dataSpaceId planned.workItem.workItemId executionId
        planned.workItem.delegatedToNodeId planned.binding.pilotId planned.candidate with
      | error e => exact hd
      | ok answer => exact hregistry d _ hd

theorem sameDeltas_startExecution (call : DispatchCall) (planned : PlannedWork) (clock : Clock) :
    EStateM.Preserves d.SameDeltas (startExecution call planned clock) := by
  rw [startExecution]
  refine .bind (preserves_allocateName
    (fun _ _ h => ⟨h.cursor, h.requests, h.closed, h.grown⟩) call planned _) fun assigned => ?_
  refine .bind (sameDeltas_onKernel _ clock) fun _ => ?_
  cases assigned with
  | none => exact .pure _
  | some assigned => exact .bind (sameDeltas_onKernel _ _) fun _ => .pure _

/-- Starting the executions of a plan hands nothing out yet, and gives one for each. -/
theorem startExecutions_spec (call : DispatchCall) :
    ∀ (planned : List PlannedWork) (clock : Clock),
      EStateM.Triple d.SameDeltas (startExecutions call planned clock)
        (fun executions mid => executions.length = planned.length ∧ d.SameDeltas mid)
        (fun _ => d.SameDeltas)
  | [], _ => .pure fun _ hmid => ⟨rfl, hmid⟩
  | planned :: rest, clock => by
    rw [startExecutions]
    refine .bind (sameDeltas_startExecution call planned clock) fun execution => ?_
    refine .bind (startExecutions_spec call rest _) fun executions => ?_
    exact .pure fun mid ⟨hlength, hmid⟩ =>
      ⟨by rw [List.length_cons, hlength, List.length_cons], hmid⟩

/-- **Completion rule.** What receipts, bare failures and a failover keep, a completion keeps. -/
theorem preserves_finishExecution {I : Dispatcher → Prop}
    (hfutures : ∀ d futures, I d → I { d with futures := futures })
    (hreceipt : ∀ executionId receipt actorId key clock, EStateM.Preserves I
      (onKernel (.recordPilotExecutionReceipt executionId receipt actorId key) clock))
    (hfailed : ∀ executionId actorId key clock, EStateM.Preserves I
      (onKernel (.setExecutionState executionId .failed "system" actorId key none) clock))
    (hfailover : ∀ process pilotHostId key requestReprovision clock, EStateM.Preserves I
      (onSystem (failover process pilotHostId key requestReprovision clock)))
    (position : Nat) (outcome : WorkOutcome) (clock : Clock) :
    EStateM.Preserves I (finishExecution position outcome clock) := by
  rw [finishExecution]
  refine EStateM.Triple.bind (Q := fun d now => d = now ∧ I now) .get fun d => ?_
  rintro now ⟨rfl, hd⟩
  cases d.futures[position]? with
  | none => exact hd
  | some pending =>
    refine EStateM.Preserves.bind (.of_final fun _ _ => hfutures d _ hd) (fun _ => ?_) d hd
    cases outcome with
    | receipt receipt => exact hreceipt _ _ _ _ clock
    | unreachable receiptId requestReprovision =>
      refine .bind .get fun reached => .bind (.ofExcept _) fun _ =>
        .bind (hreceipt _ _ _ _ _) fun _ => ?_
      cases reached.environmentFailover with
      | none => exact .pure ()
      | some process => exact hfailover process _ _ _ _
    | unexpected message receiptId =>
      exact .tryCatch (.bind .get fun _ => .bind (.ofExcept _) fun _ => hreceipt _ _ _ _ _)
        fun _ => hfailed _ _ _ _

theorem sameDeltas_finishExecution (position : Nat) (outcome : WorkOutcome) (clock : Clock) :
    EStateM.Preserves d.SameDeltas (finishExecution position outcome clock) :=
  preserves_finishExecution (fun _ _ h => ⟨h.cursor, h.requests, h.closed, h.grown⟩)
    (fun _ _ _ _ => sameDeltas_onKernel _) (fun _ _ _ => sameDeltas_onKernel _)
    (fun _ _ _ _ _ => sameDeltas_onSystem (onlyAppends_failover _ _ _ _ _)) position outcome clock

/-! ### A dispatch -/

omit [Sha256] in
/-- An open pool takes every execution. -/
theorem forM_submit (call : DispatchCall) (delta : EventDeltaSummary) :
    ∀ (executions : List (Execution × PlannedWork)) {d : Dispatcher}, d.closed = false →
      ∃ futures, executions.forM (submit call delta) d =
        .ok ⟨⟩ { d with
          requests := d.requests ++ executions.map (workRequest call delta)
          futures := futures }
  | [], d, _ => ⟨d.futures, by rw [List.map_nil, List.append_nil]; rfl⟩
  | started :: executions, d, hopen => by
    obtain ⟨futures, hrest⟩ := forM_submit call delta executions (d := { d with
      requests := d.requests ++ [workRequest call delta started]
      futures := d.futures ++ [PendingExecution.mk started.1 call.idempotencyKey] }) hopen
    refine ⟨futures, ?_⟩
    have hsubmit : submit call delta started d = .ok ⟨⟩ { d with
        requests := d.requests ++ [workRequest call delta started]
        futures := d.futures ++ [PendingExecution.mk started.1 call.idempotencyKey] } := by
      rw [submit, EStateM.run_get_bind, Checked.check, if_pos hopen]
      rfl
    rw [List.map_cons, List.append_cons]
    exact (EStateM.run_bind_of_ok hsubmit).trans hrest

/-- **What a dispatch does to the deltas**: it is refused before it takes one, or it takes the
delta to the end of the ledger and submits the executions it has started. -/
theorem dispatchReady_cases (d : Dispatcher) (call : DispatchCall) (clock : Clock) :
    d.SameDeltas ((dispatchReady call clock).finalState d) ∨
    ∃ planned executions mid, d.planDispatch call = .ok planned ∧
      startExecutions call planned clock d = .ok executions mid ∧
      (dispatchReady call clock).finalState d =
        (executions.forM (submit call
          (deltaFrom mid.system.ledger mid.eventDeltaCursor))).finalState
          { mid with
            eventDeltaCursor :=
              (deltaFrom mid.system.ledger mid.eventDeltaCursor).throughCursor } := by
  rw [dispatchReady, EStateM.finalState_get_bind]
  cases hplan : d.planDispatch call with
  | error e => exact Or.inl (.refl d)
  | ok planned =>
    rw [EStateM.finalState_ofExcept_ok_bind]
    cases hstart : startExecutions call planned clock d with
    | error e mid =>
      have hspec := startExecutions_spec (d := d) call planned clock d (.refl d)
      rw [hstart] at hspec
      rw [EStateM.finalState_bind_of_error hstart]
      exact Or.inl hspec
    | ok executions mid =>
      refine Or.inr ⟨planned, executions, mid, rfl, hstart, ?_⟩
      rw [EStateM.finalState_bind_of_ok hstart, EStateM.finalState_bind_of_ok (eventDelta_run mid),
        EStateM.finalState_bind_pure]

end Dispatcher

open Dispatcher

variable [Sha256]

/-! ### Runs -/

/-- A step of a run: a service or another process appends to the ledger, or the dispatcher makes a
step. -/
inductive LedgerInput where
  | append (event : EventEnvelope) (expectedStreamVersion : Nat)
  | command (c : ServiceCommand)
  | dispatcher (input : DispatcherInput)

def LedgerInput.run (clock : Clock) : LedgerInput → DispatcherM Unit
  | .append event expected => onSystem do
    let _ ← onLedger (OperationalLedger.append event expected)
  | .command c => onSystem (c.run clock)
  | .dispatcher input => input.run clock

def LedgerInput.step (d : Dispatcher) (input : LedgerInput × Clock) : Dispatcher :=
  (input.1.run input.2).finalState d

/-- The dispatcher after a run. -/
def runLedger (d : Dispatcher) (inputs : List (LedgerInput × Clock)) : Dispatcher :=
  Run.exec LedgerInput.step d inputs

/-- **Every event past the start-up cursor is handed out once.** The deltas handed to the work
executor are disjoint and contiguous from the start-up cursor to the delta cursor, each event in
between is in exactly one of them, and each is a true summary of its stretch. -/
structure DeltaLaw (startup : Nat) (d : Dispatcher) : Prop where
  exactly_one : ∀ stored ∈ d.system.ledger.events, startup < stored.cursor →
    stored.cursor ≤ d.eventDeltaCursor → ∃! delta, delta ∈ d.handedDeltas ∧ delta.Covers stored
  disjoint : ∀ delta ∈ d.handedDeltas, ∀ other ∈ d.handedDeltas, delta ≠ other →
    ∀ stored, delta.Covers stored → ¬ other.Covers stored
  contiguous : d.handedDeltas.IsChain fun delta next =>
    delta = next ∨ delta.throughCursor = next.afterCursor
  first : ∀ delta ∈ d.handedDeltas.head?, delta.afterCursor = startup
  last : ∀ delta ∈ d.handedDeltas.getLast?, delta.throughCursor = d.eventDeltaCursor
  truthful : ∀ delta ∈ d.handedDeltas, delta.Summarizes d.system.ledger.events

/-- A dispatch takes no delta that nobody is handed: when its checks pass and it has no eligible
work, the ledger holds no event past the delta cursor; when it has some and the pool was shut
down, the creation of an execution is refused. -/
def HandsDelta (d : Dispatcher) : LedgerInput × Clock → Prop
  | (.dispatcher (.dispatch call), clock) => ∀ planned, d.planDispatch call = .ok planned →
    (planned = [] → d.system.ledger.events.length ≤ d.eventDeltaCursor) ∧
    (planned ≠ [] → d.closed = true →
      ∀ executions mid, startExecutions call planned clock d ≠ .ok executions mid)
  | _ => True

/-! ### The invariant of the runs that drop no delta -/

/-- The deltas handed out tile the ledger and summarize it. -/
structure DeltaInvariant (startup : Nat) (d : Dispatcher) : Prop where
  tiles : Handout.Tiles EventDeltaSummary.afterCursor EventDeltaSummary.throughCursor startup
    d.eventDeltaCursor d.handedDeltas
  truthful : ∀ delta ∈ d.handedDeltas, delta.Summarizes d.system.ledger.events ∧
    (delta.throughCursor ≤ d.system.ledger.events.length ∨
      delta.throughCursor ≤ delta.afterCursor)

omit [Sha256] in
theorem DeltaInvariant.law {startup : Nat} {d : Dispatcher} (h : DeltaInvariant startup d) :
    DeltaLaw startup d where
  exactly_one _ _ hstart hnow := h.tiles.existsUnique hstart hnow
  disjoint _ hdelta _ hother hne _ hcovers hcovered :=
    Set.disjoint_left.mp (h.tiles.disjoint hdelta hother hne) hcovers hcovered
  contiguous := h.tiles.contiguous
  first := h.tiles.first
  last := h.tiles.last
  truthful delta hdelta := (h.truthful delta hdelta).1

omit [Sha256] in
/-- What hands nothing out keeps the invariant. -/
theorem DeltaInvariant.of_sameDeltas {startup : Nat} {d d' : Dispatcher}
    (h : DeltaInvariant startup d) (hsame : d.SameDeltas d') : DeltaInvariant startup d' := by
  have hdeltas : d'.handedDeltas = d.handedDeltas := by
    rw [handedDeltas, handedDeltas, hsame.requests]
  constructor
  · rw [hdeltas, hsame.cursor]
    exact h.tiles
  · intro delta hdelta
    rw [hdeltas] at hdelta
    obtain ⟨hsummary, hbound⟩ := h.truthful delta hdelta
    refine ⟨hsummary.mono hsame.grown hbound, hbound.imp_left fun hle => ?_⟩
    exact hle.trans hsame.grown.length_le

omit [Sha256] in
/-- A delta that a batch is handed extends the tiling. -/
theorem DeltaInvariant.handed {startup : Nat} {d : Dispatcher} (h : DeltaInvariant startup d)
    (call : DispatchCall) {executions : List (Execution × PlannedWork)} (hne : executions ≠ [])
    (futures : List PendingExecution) :
    let delta := deltaFrom d.system.ledger d.eventDeltaCursor
    DeltaInvariant startup { d with
      eventDeltaCursor := delta.throughCursor
      requests := d.requests ++ executions.map (workRequest call delta)
      futures := futures } := by
  intro delta
  have hthrough := through_deltaFrom d.system.ledger d.eventDeltaCursor
  let batch := executions.map fun _ => delta
  have hbatch : ∀ member ∈ batch, member = delta := by
    intro member hmember
    obtain ⟨_, -, rfl⟩ := List.mem_map.mp hmember
    rfl
  have hdeltas : (d.requests ++ executions.map (workRequest call delta)).map (·.eventDelta) =
      d.handedDeltas ++ batch := by
    rw [List.map_append, List.map_map]
    rfl
  constructor
  · change Handout.Tiles _ _ startup delta.throughCursor
      ((d.requests ++ executions.map (workRequest call delta)).map (·.eventDelta))
    rw [hdeltas]
    refine h.tiles.extend hbatch ?_ rfl (by rw [hthrough]; omega)
    simpa [batch] using hne
  · intro member hmember
    change member ∈ (d.requests ++ executions.map (workRequest call delta)).map (·.eventDelta)
      at hmember
    rw [hdeltas, List.mem_append] at hmember
    rcases hmember with hold | hnew
    · exact h.truthful member hold
    · rw [hbatch member hnew]
      refine ⟨summarizes_deltaFrom _ _, ?_⟩
      change delta.throughCursor ≤ d.system.ledger.events.length ∨
        delta.throughCursor ≤ d.eventDeltaCursor
      rw [hthrough]
      omega

/-- **A dispatch that drops no delta** keeps the invariant. -/
theorem DeltaInvariant.dispatchReady {startup : Nat} {d : Dispatcher}
    (h : DeltaInvariant startup d) (call : DispatchCall) (clock : Clock)
    (hhands : HandsDelta d (.dispatcher (.dispatch call), clock)) :
    DeltaInvariant startup ((dispatchReady call clock).finalState d) := by
  rcases dispatchReady_cases d call clock with
    hsame | ⟨planned, executions, mid, hplan, hstart, hfinal⟩
  · exact h.of_sameDeltas hsame
  have hspec := startExecutions_spec (d := d) call planned clock d (.refl d)
  rw [hstart] at hspec
  obtain ⟨hlength, hsame⟩ := hspec
  obtain ⟨hidle, hbusy⟩ := hhands planned hplan
  rw [hfinal]
  by_cases hnone : planned = []
  · -- Nothing is started, so the delta is empty and the cursor stays where it is.
    subst hnone
    obtain ⟨rfl, rfl⟩ : executions = [] ∧ mid = d := by
      injection hstart with hexecutions hmid
      exact ⟨hexecutions.symm, hmid.symm⟩
    refine h.of_sameDeltas ⟨?_, rfl, rfl, List.prefix_rfl⟩
    have hle := hidle rfl
    change (deltaFrom mid.system.ledger mid.eventDeltaCursor).throughCursor = mid.eventDeltaCursor
    rw [through_deltaFrom]
    omega
  · have hopen : d.closed = false := by
      by_contra hclosed
      exact hbusy hnone (Bool.eq_true_of_not_eq_false hclosed) executions mid hstart
    have hne : executions ≠ [] := by
      rintro rfl
      exact hnone (List.eq_nil_of_length_eq_zero hlength.symm)
    obtain ⟨futures, hsubmit⟩ := forM_submit call
      (deltaFrom mid.system.ledger mid.eventDeltaCursor) executions (d := { mid with
        eventDeltaCursor := (deltaFrom mid.system.ledger mid.eventDeltaCursor).throughCursor })
      (hsame.closed.trans hopen)
    rw [EStateM.finalState_of_ok hsubmit]
    exact (h.of_sameDeltas hsame).handed call hne futures

/-- An append to the ledger keeps what was there. -/
theorem onlyAppends_append (event : EventEnvelope) (expected : Nat) :
    OnlyAppends (do
      let _ ← onLedger (OperationalLedger.append event expected)
      : SystemM InMemoryOperationalLedger Unit) := by
  intro events
  refine .of_final fun s hs => ?_
  rw [EStateM.finalState_bind_pure]
  unfold EStateM.finalState onLedger
  simp only [OperationalLedger.append]
  cases happend : s.ledger.append event expected with
  | error e => exact hs
  | ok answer =>
    obtain ⟨result, next⟩ := answer
    rcases s.ledger.append_eq_ok happend with ⟨happ, -, -, rfl⟩ | ⟨stored, -, -, -, rfl⟩
    · exact hs.trans (List.prefix_append _ _)
    · exact hs

/-- **One step.** -/
theorem DeltaInvariant.step {startup : Nat} {d : Dispatcher} (h : DeltaInvariant startup d)
    (input : LedgerInput × Clock) (hhands : HandsDelta d input) :
    DeltaInvariant startup (LedgerInput.step d input) := by
  obtain ⟨input, clock⟩ := input
  cases input with
  | append event expected =>
    exact h.of_sameDeltas
      ((sameDeltas_onSystem (onlyAppends_append event expected)).final (.refl d))
  | command c =>
    exact h.of_sameDeltas ((sameDeltas_onSystem (onlyAppends_command c clock)).final (.refl d))
  | dispatcher input =>
    rw [LedgerInput.step, LedgerInput.run]
    cases input with
    | dispatch call =>
      rw [DispatcherInput.run, EStateM.finalState_bind_pure]
      exact h.dispatchReady call clock hhands
    | finish position outcome =>
      exact h.of_sameDeltas ((sameDeltas_finishExecution position outcome clock).final (.refl d))
    | close =>
      exact ⟨h.tiles, h.truthful⟩

/-- **Every run that drops no delta hands every event out exactly once.** A dispatcher that has
handed nothing out starts at its start-up cursor; the services, other processes and the dispatcher
take turns in any order. -/
theorem deltaLaw_of_handsDelta (d : Dispatcher) (hstart : d.requests = [])
    (inputs : List (LedgerInput × Clock))
    (hhands : Run.Along LedgerInput.step HandsDelta d inputs) :
    DeltaLaw d.eventDeltaCursor (runLedger d inputs) := by
  have hinitial : DeltaInvariant d.eventDeltaCursor d := by
    have hnone : d.handedDeltas = [] := by rw [handedDeltas, hstart, List.map_nil]
    refine ⟨hnone.symm ▸ Handout.tiles_nil d.eventDeltaCursor, fun delta hdelta => ?_⟩
    rw [hnone] at hdelta
    exact nomatch hdelta
  exact (Run.exec_invariant_along (fun _ input h hinput => h.step input hinput) inputs hhands
    hinitial).law

/-! ### A company with a dispatcher -/

/-- The one model that work is routed to. -/
def companyCandidate : ModelCandidate := ⟨"candidate-a", "anthropic", some "claude-opus"⟩

/-- A dispatcher of an empty data space. -/
def companyDispatcher : Dispatcher where
  system := .new companySpace
  eventDeltaCursor := 0
  modelRegistry := some (.ofList [("candidate-a", companyCandidate)])
  hasWorkExecutor := true
  agentNamingRegistry := none
  environmentFailover := none
  closed := false
  futures := []
  requests := []

/-- A dispatch of all ready work. -/
def companyDispatch (key executionId : String) : DispatchCall where
  bindings := [⟨"node:owner-interface", "pilot:1", "host:1"⟩]
  actorId := "owner:1"
  idempotencyKey := key
  allowedWorkItemIds := none
  answers :=
    { evidenceCursor := fun _ => 0
      selectProduction := fun _ _ => .ok "candidate-a"
      validateWorkCandidate := fun _ => .ok ()
      executionId := fun _ => executionId
      assignmentId := fun _ => "assignment:1"
      issuedName := fun _ => .error (.raised "no table") }

/-- Commands of the services, as steps of a run. -/
def commandInputs (inputs : List (ServiceCommand × Clock)) : List (LedgerInput × Clock) :=
  inputs.map fun input => (.command input.1, input.2)

/-- The company is commissioned, its route is published and its work item is delegated. -/
def readyCompany : List (ServiceCommand × Clock) :=
  commissioning ++ publishedRun ++
    [(.kernel (.delegateWorkItem "work:1" "node:owner-interface" "owner:1" "delegate:1"),
      fun _ => 0)]

/-- The dispatch of the company's work item. -/
def firstDispatch : LedgerInput × Clock :=
  (.dispatcher (.dispatch (companyDispatch "dispatch:1" "execution:1")), fun _ => 0)

omit [Sha256] in
private theorem firstDispatch_state :
    letI := Sha256.polynomial
    (runLedger companyDispatcher (commandInputs readyCompany)).planDispatch
        (companyDispatch "dispatch:1" "execution:1") ≠ .ok [] ∧
      (runLedger companyDispatcher (commandInputs readyCompany)).closed = false := by
  decide +kernel

omit [Sha256] in
/-- The first worker is handed all that happened before. -/
theorem deltaLaw_of_firstDispatch :
    letI := Sha256.polynomial
    DeltaLaw companyDispatcher.eventDeltaCursor
      (runLedger companyDispatcher (commandInputs readyCompany ++ [firstDispatch])) := by
  let := Sha256.polynomial
  refine deltaLaw_of_handsDelta companyDispatcher rfl _ (Run.along_append.mpr ⟨?_, ?_, trivial⟩)
  · refine Run.along_of_forall fun input hinput d => ?_
    obtain ⟨_, -, rfl⟩ := List.mem_map.mp hinput
    trivial
  · obtain ⟨hbusy, hopen⟩ := firstDispatch_state
    intro planned hplan
    refine ⟨fun hnone => absurd (hnone ▸ hplan) hbusy, fun _ hclosed => ?_⟩
    exact nomatch hopen.symm.trans hclosed

omit [Sha256] in
private theorem firstDispatch_of_commissioned :
    letI := Sha256.polynomial
    (runLedger companyDispatcher (commandInputs commissioning ++ [firstDispatch])).requests = [] ∧
      ∃ stored ∈ (runLedger companyDispatcher
          (commandInputs commissioning ++ [firstDispatch])).system.ledger.events,
        0 < stored.cursor ∧ stored.cursor ≤ (runLedger companyDispatcher
          (commandInputs commissioning ++ [firstDispatch])).eventDeltaCursor := by
  decide +kernel

omit [Sha256] in
/-- **A dispatch without eligible work** takes the delta of the commissioning, and nobody is handed
it. -/
theorem idleDispatch_breaks_deltaLaw :
    letI := Sha256.polynomial
    ¬ DeltaLaw companyDispatcher.eventDeltaCursor
      (runLedger companyDispatcher (commandInputs commissioning ++ [firstDispatch])) := by
  let := Sha256.polynomial
  intro h
  obtain ⟨hnone, stored, hstored, hstart, hnow⟩ := firstDispatch_of_commissioned
  obtain ⟨_, ⟨hdelta, -⟩, -⟩ := h.exactly_one stored hstored hstart hnow
  rw [handedDeltas, hnone] at hdelta
  exact nomatch hdelta

end Nanihold
