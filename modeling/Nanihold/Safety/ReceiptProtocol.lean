import Nanihold.PilotHost.Protocol
import Nanihold.Safety.ProviderCalls
import Nanihold.Safety.Settlement

/-!
# What the Kernel says of an execution

An execution has succeeded or failed in the Kernel because an event says so, and the dispatcher
writes that event from what a worker was answered. Every such event is traced to its source: a
receipt that the host has written and does not change any more, or a worker that got no receipt it
could use.

## Main definitions

* `Evidence` — the events that report executions have an explanation, and executions that have ended
  have such an event.
* `ReceiptProtocol.Explains` — why an event reports an execution.
* `ReceiptLaw` — what the states of executions say of the receipts of the host.

## Main results

* `evidence_of_stepped` — one event.
* `receiptLaw_exec` — the law in every run.
-/

namespace Nanihold

open Dispatcher

/-! ### Events that report executions -/

/-- The execution has succeeded or failed. -/
def ExecutionState.Ended (state : ExecutionState) : Prop := state = .succeeded ∨ state = .failed

/-- The state that an event gives to the execution of its stream. -/
def EventPayload.reported : EventPayload → Option ExecutionState
  | .kernel (.pilotExecutionReceiptRecorded receipt) => some receipt.state
  | .kernel (.executionStateChanged state _) => some state
  | _ => none

/-- The event is a receipt, or it ends an execution. -/
def EventPayload.IsReport : EventPayload → Prop
  | .kernel (.pilotExecutionReceiptRecorded _) => True
  | .kernel (.executionStateChanged state _) => state.Ended
  | _ => False

/-- **Evidence**: every event that reports an execution has an explanation, and every execution that
has ended has such an event. -/
structure Evidence (Q : String → EventPayload → Prop) (s : MemorySystem) : Prop where
  synced : s.KernelSynced
  explained : ∀ stored ∈ s.ledger.events, stored.event.payload.IsReport →
    Q stored.event.streamId stored.event.payload
  reported : ∀ id execution, s.kernel.executions.get? id = some execution →
    execution.state.Ended → ∃ stored ∈ s.ledger.events, stored.event.streamId = id ∧
      stored.event.payload.reported = some execution.state

theorem Evidence.mono {Q Q' : String → EventPayload → Prop} {s : MemorySystem} (h : Evidence Q s)
    (hQ : ∀ id payload, Q id payload → Q' id payload) : Evidence Q' s :=
  ⟨h.synced, fun stored hstored hreport => hQ _ _ (h.explained stored hstored hreport), h.reported⟩

theorem EventPayload.isReport_of_reported {payload : EventPayload} {state : ExecutionState}
    (h : payload.reported = some state) (hended : state.Ended) : payload.IsReport := by
  cases payload with
  | kernel known =>
    cases known <;> simp only [reported, reduceCtorEq, Option.some.injEq] at h
    case executionStateChanged given _ =>
      subst h
      exact hended
    case pilotExecutionReceiptRecorded receipt => trivial
  | _ => cases h

section Events

variable {k next : Kernel} {event : EventEnvelope} {payload : KernelPayload}

/-- An execution that has ended had ended before, or the event says so. -/
private theorem ended_of_changes (hpermits : k.Permits event payload)
    (hchanges : k.Changes event payload next) {id : String} {after : Execution}
    (hafter : next.executions.get? id = some after) (hended : after.state.Ended) :
    (∃ before, k.executions.get? id = some before ∧ before.state = after.state) ∨
      event.streamId = id ∧ (EventPayload.kernel payload).reported = some after.state := by
  rw [hchanges.executions] at hafter
  cases payload <;> simp only [Kernel.executionsAfter] at hafter
  case executionCreated created =>
    rw [OrderedDict.get?_set] at hafter
    split_ifs at hafter with hid
    · obtain rfl := Option.some.inj hafter
      obtain ⟨-, -, hstate, -⟩ := hpermits
      rcases hended with hended | hended <;> rcases hstate with hstate | hstate <;>
        cases hstate.symm.trans hended
    · exact Or.inl ⟨after, hafter, rfl⟩
  case agentNameAssigned assignment =>
    rw [OrderedDict.get?_modify] at hafter
    split_ifs at hafter with hid
    · obtain ⟨before, hbefore, rfl⟩ := Option.map_eq_some_iff.mp hafter
      exact Or.inl ⟨before, hbefore, rfl⟩
    · exact Or.inl ⟨after, hafter, rfl⟩
  case executionStateChanged state pauseReason =>
    rw [OrderedDict.get?_modify] at hafter
    split_ifs at hafter with hid
    · obtain ⟨before, -, rfl⟩ := Option.map_eq_some_iff.mp hafter
      exact Or.inr ⟨hid, rfl⟩
    · exact Or.inl ⟨after, hafter, rfl⟩
  case pilotExecutionReceiptRecorded receipt =>
    rw [OrderedDict.get?_modify] at hafter
    split_ifs at hafter with hid
    · obtain ⟨before, -, rfl⟩ := Option.map_eq_some_iff.mp hafter
      exact Or.inr ⟨hid, rfl⟩
    · exact Or.inl ⟨after, hafter, rfl⟩
  case humanIntervention reason =>
    rw [OrderedDict.get?_mapValues] at hafter
    obtain ⟨before, hbefore, rfl⟩ := Option.map_eq_some_iff.mp hafter
    refine Or.inl ⟨before, hbefore, ?_⟩
    unfold Kernel.intervened at hended ⊢
    split_ifs at hended ⊢
    · rcases hended with hended | hended <;> cases hended
    · rfl
  case pilotHostDisconnected pilotHostId =>
    rw [OrderedDict.get?_mapValues] at hafter
    obtain ⟨before, hbefore, rfl⟩ := Option.map_eq_some_iff.mp hafter
    refine Or.inl ⟨before, hbefore, ?_⟩
    unfold Kernel.disconnected at hended ⊢
    split_ifs at hended ⊢
    · rcases hended with hended | hended <;> cases hended
    · rfl
  all_goals exact Or.inl ⟨after, hafter, rfl⟩

end Events

section Evidence

variable {Q : String → EventPayload → Prop} {s s' : MemorySystem}

/-- **One event** keeps the evidence, if it is explained when it reports an execution. -/
theorem evidence_of_stepped {event : EventEnvelope} (h : Evidence Q s)
    (hstep : s.Stepped event s')
    (hQ : event.payload.IsReport → Q event.streamId event.payload) : Evidence Q s' := by
  have hevents := hstep.events
  refine ⟨System.kernelSynced_of_stepped h.synced hstep, ?_, ?_⟩
  · rw [hevents]
    intro stored hstored hreport
    rcases List.mem_append.mp hstored with hold | hnew
    · exact h.explained stored hold hreport
    · obtain rfl := List.mem_singleton.mp hnew
      exact hQ hreport
  · intro id after hafter hended
    have hold {before : Execution} (hbefore : s.kernel.executions.get? id = some before)
        (hstate : before.state = after.state) : ∃ stored ∈ s'.ledger.events,
          stored.event.streamId = id ∧ stored.event.payload.reported = some after.state := by
      rw [← hstate] at hended ⊢
      obtain ⟨stored, hstored, hreported⟩ := h.reported id before hbefore hended
      exact ⟨stored, hevents ▸ List.mem_append_left _ hstored, hreported⟩
    rcases hstep.kernel_cases h.synced with
      ⟨payload, hpayload, hpermits, hchanges⟩ | ⟨-, activation, auth, hkernel⟩
    · rcases ended_of_changes hpermits hchanges hafter hended with
        ⟨before, hbefore, hstate⟩ | ⟨hid, hreported⟩
      · exact hold hbefore hstate
      · refine ⟨s.ledger.store event, ?_, hid, ?_⟩
        · rw [hevents]
          exact List.mem_append_right _ (List.mem_singleton.mpr rfl)
        · change event.payload.reported = _
          rw [hpayload]
          exact hreported
    · rw [hkernel] at hafter
      exact hold hafter rfl

variable [Sha256]

/-- A Kernel command whose reports are explained. -/
theorem evidence_kernelCommand (h : Evidence Q s) (c : KernelCommand) (clock : Clock)
    (hQ : ∀ streamId payload, c.Records s.kernel streamId payload →
      (EventPayload.kernel payload).IsReport → Q streamId (.kernel payload)) :
    Evidence Q ((c.run clock).finalState s) := by
  have hout := c.outcome h.synced clock
  generalize (c.run clock).finalState s = s' at hout
  cases hout with
  | unchanged => exact h
  | recorded payload hpayload hrecords hmirrored =>
    refine evidence_of_stepped h hmirrored.stepped ?_
    rw [hpayload]
    exact hQ _ payload hrecords
  | promoted hcreated _ hfirst hlinked hsecond =>
    refine evidence_of_stepped (evidence_of_stepped h hfirst.stepped ?_) hsecond.stepped ?_
    · rw [hcreated]
      exact False.elim
    · rw [hlinked]
      exact False.elim

/-- Events of the other services report nothing. -/
private theorem evidence_of_reaches {P : EventPayload → Prop} (h : Evidence Q s)
    (hreaches : System.Reaches P s s') (hP : ∀ payload, ¬ P (.kernel payload)) :
    Evidence Q s' := by
  refine hreaches.invariant (I := Evidence Q) (fun mid event next hmid hpayload hmirrored => ?_)
    (fun mid data hmid => ⟨System.kernelSynced_putBlob hmid.synced data, hmid.explained,
      hmid.reported⟩) h
  refine evidence_of_stepped hmid hmirrored.stepped fun hreport => ?_
  cases hown : event.payload with
  | kernel payload => exact absurd (hown ▸ hpayload) (hP payload)
  | _ =>
    rw [hown] at hreport
    exact hreport.elim

/-- The lifecycle reports nothing. -/
private theorem evidence_lifecycle (process : Nat) : KeptByLifecycle (Evidence Q) process := by
  intro r hr
  refine .of_final fun s h => ?_
  obtain ⟨hkernel, hevents⟩ := events_of_lifecycle process hr s
  refine ⟨(kernelSynced_keptByHost.lifecycle process r hr).final h.synced, ?_, ?_⟩
  · rcases hevents with hevents | ⟨stored, ⟨payload, henvironment⟩, hevents⟩
    · rw [hevents]
      exact h.explained
    · rw [hevents]
      intro other hother hreport
      rcases List.mem_append.mp hother with hold | hnew
      · exact h.explained other hold hreport
      · obtain rfl := List.mem_singleton.mp hnew
        rw [henvironment] at hreport
        exact hreport.elim
  · rw [hkernel]
    intro id execution hget hended
    obtain ⟨stored, hstored, hreported⟩ := h.reported id execution hget hended
    rcases hevents with hevents | ⟨_, -, hevents⟩
    · exact ⟨stored, hevents ▸ hstored, hreported⟩
    · exact ⟨stored, hevents ▸ List.mem_append_left _ hstored, hreported⟩

/-- A command that reports nothing keeps the evidence. -/
theorem evidence_sharedCommand (h : Evidence Q s) (c : OtherCommand) (clock : Clock) :
    Evidence Q ((c.command.run clock).finalState s) := by
  obtain ⟨c, hnothing⟩ := c
  cases c with
  | environment process c =>
    exact (c.preserves (evidence_lifecycle process) (fun s environments hs =>
      ⟨{ hs.synced with }, hs.explained, hs.reported⟩) clock).final h
  | service c =>
    cases c with
    | kernel c =>
      refine evidence_kernelCommand h c clock fun streamId payload hrecords hreport => ?_
      cases payload <;> first | exact hreport.elim | skip
      case executionStateChanged state pauseReason =>
        obtain ⟨actorType, actorId, key, rfl⟩ := KernelCommand.Records.setExecutionState hrecords
        rcases hreport with hended | hended
        · exact absurd hended hnothing.1
        · exact absurd hended hnothing.2
      case pilotExecutionReceiptRecorded recorded =>
        cases c <;> simp only [KernelCommand.Records, reduceCtorEq, and_false, false_and,
          exists_false] at hrecords
        exact hnothing.elim
    | activation c =>
      refine evidence_of_reaches h (c.outcome h.synced clock) ?_
      rintro payload ⟨_, hother⟩
      cases hother
    | history c =>
      refine evidence_of_reaches h (c.outcome h.synced clock) ?_
      rintro payload ⟨_, hother⟩
      cases hother
    | ownerAuth c =>
      refine evidence_of_reaches h (c.outcome h.synced clock) ?_
      rintro payload ⟨_, hother⟩
      cases hother

end Evidence

/-! ### What is recorded of a receipt -/

/-- The payload says of an execution what a receipt says. -/
structure PilotExecutionReceiptPayload.IsOf (payload : PilotExecutionReceiptPayload)
    (executionId : String) (receipt : Kernel.PilotReceipt) : Prop where
  execution_id : payload.executionId = executionId
  receipt_id : payload.receiptId = receipt.receiptId
  receipt_status : payload.receiptStatus = receipt.receiptStatus
  requested_model : payload.requestedModel = receipt.requestedModel
  actual_model : payload.actualModel = receipt.actualModel
  provider_session_id : payload.providerSessionId = receipt.providerSessionId
  usage : payload.usage = receipt.usage
  result : payload.result = receipt.result
  error : payload.error = receipt.error
  outcome : Kernel.receiptOutcome receipt = .ok (payload.state, payload.pauseReason)

/-- What the status of a receipt makes of its execution. -/
theorem receiptOutcome_cases {receipt : Kernel.PilotReceipt} {state : ExecutionState}
    {pauseReason : Option String}
    (h : Kernel.receiptOutcome receipt = .ok (state, pauseReason)) :
    receipt.receiptStatus = "succeeded" ∧ state = .succeeded ∨
      receipt.receiptStatus = "failed" ∧ state = .failed ∨
      receipt.receiptStatus = "transport_unknown" ∧ state = .paused := by
  rw [Kernel.receiptOutcome] at h
  split_ifs at h with hsucceeded hfailed hunknown
  · obtain ⟨-, h⟩ := Checked.check_bind_eq_ok_iff.mp h
    exact Or.inl ⟨hsucceeded, (Prod.mk.inj (Checked.pure_eq_ok_iff.mp h)).1.symm⟩
  · obtain ⟨-, h⟩ := Checked.check_bind_eq_ok_iff.mp h
    exact Or.inr (Or.inl ⟨hfailed, (Prod.mk.inj (Checked.pure_eq_ok_iff.mp h)).1.symm⟩)
  · obtain ⟨-, h⟩ := Checked.check_bind_eq_ok_iff.mp h
    exact Or.inr (Or.inr ⟨hunknown, (Prod.mk.inj (Checked.pure_eq_ok_iff.mp h)).1.symm⟩)

/-- The event of a receipt says what the receipt says. -/
private theorem isOf_of_recording {k : Kernel} {executionId actorId key : String}
    {receipt : Kernel.PilotReceipt} {clock : Clock} {r : Recording Kernel}
    {recorded : PilotExecutionReceiptPayload}
    (h : k.recordPilotExecutionReceipt executionId receipt actorId key clock = .ok r)
    (hpayload : r.payload = .kernel (.pilotExecutionReceiptRecorded recorded)) :
    recorded.IsOf executionId receipt := by
  obtain ⟨execution, -, h⟩ := Checked.orRaise_bind_eq_ok_iff.mp h
  obtain ⟨-, h⟩ := Checked.check_bind_eq_ok_iff.mp h
  obtain ⟨⟨state, pauseReason⟩, houtcome, h⟩ := Checked.bind_eq_ok_iff.mp h
  obtain rfl := Checked.pure_eq_ok_iff.mp h
  obtain rfl := KernelPayload.pilotExecutionReceiptRecorded.inj (EventPayload.kernel.inj hpayload)
  exact ⟨rfl, rfl, rfl, rfl, rfl, rfl, rfl, rfl, rfl, houtcome⟩

section Dispatcher

variable [Sha256] {Q : String → EventPayload → Prop}

/-- A receipt whose event is explained. -/
private theorem evidence_recordReceipt {s : MemorySystem} (h : Evidence Q s)
    {executionId actorId key : String} {receipt : Kernel.PilotReceipt} (clock : Clock)
    (hQ : ∀ recorded : PilotExecutionReceiptPayload, recorded.IsOf executionId receipt →
      Q executionId (.kernel (.pilotExecutionReceiptRecorded recorded))) :
    Evidence Q (((KernelCommand.recordPilotExecutionReceipt executionId receipt actorId key).run
      clock).finalState s) := by
  rw [KernelCommand.run]
  rcases performKernel_cases h.synced
      (fun k => k.recordPilotExecutionReceipt executionId receipt actorId key clock)
      (fun streamId payload => streamId = executionId ∧ ∃ recorded,
        payload = .pilotExecutionReceiptRecorded recorded ∧ recorded.IsOf executionId receipt)
      (fun r hplan => by
        obtain ⟨recorded, hr⟩ :=
          Kernel.replayable_recordPilotExecutionReceipt h.synced.consistent hplan
        exact ⟨_, _, ⟨rfl, recorded, rfl, isOf_of_recording hplan hr.2.1⟩, hr⟩) with
    ⟨e, herror⟩ | ⟨event, s', ⟨payload, hpayload, ⟨hid, recorded, rfl, hof⟩, hmirrored⟩, hok⟩
  · rw [EStateM.finalState_of_error herror]
    exact h
  · rw [EStateM.finalState_of_ok hok]
    refine evidence_of_stepped h hmirrored.stepped fun _ => ?_
    rw [hpayload, hid]
    exact hQ recorded hof

private theorem evidence_onKernel {c : KernelCommand} {clock : Clock}
    (hc : ∀ s, Evidence Q s → Evidence Q ((c.run clock).finalState s)) :
    EStateM.Preserves (fun d : Dispatcher => Evidence Q d.system)
      (Dispatcher.onKernel c clock) := by
  refine .of_final fun d hd => ?_
  rw [Dispatcher.onKernel, onSystem, EStateM.finalState_zoom]
  exact hc d.system hd

private theorem evidence_failover (process : Nat) (failedInstanceId key : String)
    (requestReprovision : Except VsmError Unit) (clock : Clock) :
    EStateM.Preserves (fun d : Dispatcher => Evidence Q d.system)
      (onSystem (failover process failedInstanceId key requestReprovision clock)) := by
  refine .of_final fun d hd => ?_
  rw [onSystem, EStateM.finalState_zoom]
  exact (preserves_failover (evidence_lifecycle process) _ _ _ _).final hd

/-- **A dispatch** reports nothing. -/
theorem evidence_dispatch (call : DispatchCall) (clock : Clock) :
    EStateM.Preserves (fun d : Dispatcher => Evidence Q d.system)
      (DispatcherInput.run clock (.dispatch call)) := by
  refine .bind (preserves_dispatchReady (fun d d' hsystem _ hd => ?_)
    (fun _ _ _ _ => evidence_onKernel fun s hs => ?_)
    (fun _ _ _ _ _ => evidence_onKernel fun s hs => ?_) call clock) fun _ => .pure _
  · rwa [hsystem]
  · refine evidence_kernelCommand hs _ _ fun streamId payload hrecords hreport => ?_
    rw [KernelCommand.Records] at hrecords
    rw [hrecords] at hreport
    exact hreport.elim
  · refine evidence_kernelCommand hs _ _ fun streamId payload hrecords hreport => ?_
    rw [KernelCommand.Records] at hrecords
    rw [hrecords] at hreport
    exact hreport.elim

/-- Whatever is recorded of an outcome is explained. -/
def WorkOutcome.Accounts (Q : String → EventPayload → Prop) (executionId : String) :
    WorkOutcome → Prop
  | .receipt given => ∀ recorded : PilotExecutionReceiptPayload,
      recorded.IsOf executionId given →
        Q executionId (.kernel (.pilotExecutionReceiptRecorded recorded))
  | .unreachable receiptId _ => ∀ model error, ∀ recorded : PilotExecutionReceiptPayload,
      recorded.IsOf executionId (ownReceipt receiptId "transport_unknown" model error) →
        Q executionId (.kernel (.pilotExecutionReceiptRecorded recorded))
  | .unexpected _ receiptId =>
      (∀ model error, ∀ recorded : PilotExecutionReceiptPayload,
        recorded.IsOf executionId (ownReceipt receiptId "failed" model error) →
          Q executionId (.kernel (.pilotExecutionReceiptRecorded recorded))) ∧
      Q executionId (.kernel (.executionStateChanged .failed none))

private theorem evidence_completion (pending : PendingExecution) (clock : Clock)
    {outcome : WorkOutcome} (hQ : outcome.Accounts Q pending.execution.executionId) :
    EStateM.Preserves (fun d : Dispatcher => Evidence Q d.system)
      (completion pending clock outcome) := by
  cases outcome with
  | receipt receipt =>
    exact evidence_onKernel fun s hs => evidence_recordReceipt hs clock hQ
  | unreachable receiptId requestReprovision =>
    refine .bind .get fun reached => .bind (.ofExcept _) fun model =>
      .bind (evidence_onKernel fun s hs => evidence_recordReceipt hs _ (hQ model _)) fun _ => ?_
    cases reached.environmentFailover with
    | none => exact .pure ()
    | some process => exact evidence_failover process _ _ _ _
  | unexpected message receiptId =>
    refine .tryCatch (.bind .get fun _ => .bind (.ofExcept _) fun model =>
      evidence_onKernel fun s hs => evidence_recordReceipt hs _ (hQ.1 model _)) fun _ =>
      evidence_onKernel fun s hs => ?_
    refine evidence_kernelCommand hs _ _ fun streamId payload hrecords _ => ?_
    obtain ⟨rfl, rfl⟩ := hrecords
    exact hQ.2

/-- **A completion** whose outcome is explained. -/
theorem evidence_finish {d : Dispatcher} (hd : Evidence Q d.system) (position : Nat)
    (outcome : WorkOutcome) (clock : Clock)
    (hQ : ∀ pending, d.futures[position]? = some pending →
      outcome.Accounts Q pending.execution.executionId) :
    Evidence Q ((finishExecution position outcome clock).finalState d).system := by
  cases hpending : d.futures[position]? with
  | none =>
    rw [finishExecution, EStateM.finalState_get_bind, hpending]
    exact hd
  | some pending =>
    rw [EStateM.finalState, finishExecution_of_pending hpending]
    have hkept := (evidence_completion pending clock (hQ pending hpending)).final
      (s := { d with futures := d.futures.eraseIdx position }) hd
    rwa [EStateM.finalState] at hkept

end Dispatcher

/-! ### The two parties -/

section Parties

variable [Sha256] {P : Type} (client : ProductionPilotHostClient P)

namespace ReceiptProtocol

variable (protocol : ReceiptProtocol)

/-- The answers that a worker got are answers of the host. -/
def Arrived (exchange : Exchange) : Prop :=
  ∀ answer, exchange.post = some answer ∨ exchange.poll = some answer → answer ∈ protocol.answers

/-- **A receipt of the host**: a worker of the execution was answered with it, it is the one of the
request and says what is recorded, and the host does not change it any more. -/
structure HostWrote (executionId : String) (recorded : PilotExecutionReceiptPayload)
    (body : ProviderReceipt) : Prop where
  of_call : ∃ call ∈ protocol.calls, call.request.executionId = executionId ∧ ∃ receipt,
    client.Matches (client.postedWork call.receiptId call.request) receipt.request ∧
      receipt.Says body ∧ recorded.IsOf executionId (client.report receipt)
  settled : protocol.host.Settled body.request.receiptId body

/-- **A worker of the execution gave up** over what the host answered: an error, a receipt that is
in progress or is not the one of the request, or values that the data models refuse. -/
def GaveUp (executionId : String) : Prop :=
  ∃ call ∈ protocol.calls, call.request.executionId = executionId ∧
    ∃ exchange message, protocol.Arrived exchange ∧
      client.executeWork call.receiptId call.request exchange = .error (.other message)

/-- **A worker of the execution was not answered.** -/
def Unheard (executionId : String) : Prop :=
  ∃ call ∈ protocol.calls, call.request.executionId = executionId ∧
    ∃ exchange receiptId, protocol.Arrived exchange ∧
      client.executeWork call.receiptId call.request exchange = .error (.unreachable receiptId)

/-- **Why an event reports an execution.** -/
inductive Explains (executionId : String) : EventPayload → Prop
  | host {recorded : PilotExecutionReceiptPayload} {body : ProviderReceipt}
      (wrote : protocol.HostWrote client executionId recorded body) :
      Explains executionId (.kernel (.pilotExecutionReceiptRecorded recorded))
  | unheard {recorded : PilotExecutionReceiptPayload} {receiptId : String}
      {model : Option NonBlank} {error : JsonObject} (unheard : protocol.Unheard client executionId)
      (of_receipt : recorded.IsOf executionId
        (ownReceipt receiptId "transport_unknown" model error)) :
      Explains executionId (.kernel (.pilotExecutionReceiptRecorded recorded))
  | gaveUp {recorded : PilotExecutionReceiptPayload} {receiptId : String}
      {model : Option NonBlank} {error : JsonObject} (gaveUp : protocol.GaveUp client executionId)
      (of_receipt : recorded.IsOf executionId (ownReceipt receiptId "failed" model error)) :
      Explains executionId (.kernel (.pilotExecutionReceiptRecorded recorded))
  | bare (gaveUp : protocol.GaveUp client executionId) :
      Explains executionId (.kernel (.executionStateChanged .failed none))

/-- **The protocol is sound**: the reports of the Kernel are explained, a receipt that the host has
answered with is settled if it has an outcome, and an execution has one call. -/
structure Sound : Prop where
  evidence : Evidence (protocol.Explains client) protocol.dispatcher.system
  settled : ∀ body, .receipt body ∈ protocol.answers → body.status ≠ .inProgress →
    protocol.host.Settled body.request.receiptId body
  one_call : (protocol.calls.map (·.request.executionId)).Nodup

/-- What was begun, answered and settled before is so still. -/
structure Precedes (later : ReceiptProtocol) : Prop where
  calls : ∀ call ∈ protocol.calls, call ∈ later.calls
  answers : ∀ answer ∈ protocol.answers, answer ∈ later.answers
  settled : ∀ receiptId body, protocol.host.Settled receiptId body →
    later.host.Settled receiptId body

variable {client protocol} {later : ReceiptProtocol} {executionId : String}

omit [Sha256] in
theorem Precedes.refl (protocol : ReceiptProtocol) : protocol.Precedes protocol :=
  ⟨fun _ h => h, fun _ h => h, fun _ _ h => h⟩

omit [Sha256] in
theorem Precedes.trans {latest : ReceiptProtocol} (h : protocol.Precedes later)
    (h' : later.Precedes latest) : protocol.Precedes latest :=
  ⟨fun call hcall => h'.calls call (h.calls call hcall),
    fun answer hanswer => h'.answers answer (h.answers answer hanswer),
    fun receiptId body hbody => h'.settled receiptId body (h.settled receiptId body hbody)⟩

/-- An explanation holds from then on. -/
theorem Explains.mono {payload : EventPayload} (h : protocol.Precedes later)
    (hexplains : protocol.Explains client executionId payload) :
    later.Explains client executionId payload := by
  have hgaveUp (hgaveUp : protocol.GaveUp client executionId) :
      later.GaveUp client executionId := by
    obtain ⟨call, hcall, hid, exchange, message, harrived, hraised⟩ := hgaveUp
    exact ⟨call, h.calls call hcall, hid, exchange, message,
      fun answer hanswer => h.answers answer (harrived answer hanswer), hraised⟩
  cases hexplains with
  | host hwrote =>
    obtain ⟨⟨call, hcall, hsaid⟩, hsettled⟩ := hwrote
    exact .host ⟨⟨call, h.calls call hcall, hsaid⟩, h.settled _ _ hsettled⟩
  | unheard hunheard hof =>
    obtain ⟨call, hcall, hid, exchange, receiptId, harrived, hraised⟩ := hunheard
    exact .unheard ⟨call, h.calls call hcall, hid, exchange, receiptId,
      fun answer hanswer => h.answers answer (harrived answer hanswer), hraised⟩ hof
  | gaveUp hgave hof => exact .gaveUp (hgaveUp hgave) hof
  | bare hgave => exact .bare (hgaveUp hgave)

/-! ### Steps of the protocol -/

omit [Sha256] in
private theorem mem_of_answered {position : Option Nat} {answer : HttpAnswer}
    (h : (position.bind fun position => protocol.answers[position]?) = some answer) :
    answer ∈ protocol.answers := by
  obtain ⟨known, -, hknown⟩ := Option.bind_eq_some_iff.mp h
  exact List.mem_of_getElem? hknown

omit [Sha256] in
private theorem arrived_exchange (protocol : ReceiptProtocol) (ending : CallEnd) :
    protocol.Arrived (protocol.exchange ending) := by
  rintro answer (hpost | hpoll)
  · exact mem_of_answered hpost
  · exact mem_of_answered hpoll

/-- **What a call gives** is explained, whichever answers arrived. -/
theorem accounts_outcomeOf {call : WorkCall}
    (hsettled : ∀ body, .receipt body ∈ protocol.answers → body.status ≠ .inProgress →
      protocol.host.Settled body.request.receiptId body)
    (hcall : call ∈ protocol.calls) (hid : call.request.executionId = executionId)
    (ending : CallEnd) : (protocol.outcomeOf client call ending).Accounts
      (protocol.Explains client) executionId := by
  have harrived := arrived_exchange protocol ending
  cases houtcome : protocol.outcomeOf client call ending with
  | receipt reported =>
    obtain ⟨receipt, body, rfl, hmatches, hstatus, hanswered, hsaid⟩ :=
      ProductionPilotHostClient.outcome_eq_receipt houtcome
    intro recorded hof
    refine .host ⟨⟨call, hcall, hid, receipt, hmatches, hsaid, hof⟩,
      hsettled body (harrived _ hanswered) ?_⟩
    rw [← hsaid.status]
    exact hstatus
  | unreachable receiptId requestReprovision =>
    intro model error recorded hof
    exact .unheard ⟨call, hcall, hid, _, receiptId, harrived,
      ProductionPilotHostClient.outcome_eq_unreachable houtcome⟩ hof
  | unexpected message receiptId =>
    have hgaveUp : protocol.GaveUp client executionId :=
      ⟨call, hcall, hid, _, message, harrived,
        ProductionPilotHostClient.outcome_eq_unexpected houtcome⟩
    exact ⟨fun model error recorded hof => .gaveUp hgaveUp hof, .bare hgaveUp⟩

variable {models : RequestModels P}

omit [Sha256] in
private theorem precedes_post (position : Nat) (receiptId : String) :
    protocol.Precedes (protocol.post position receiptId) := by
  rw [post]
  cases protocol.dispatcher.requests[position]? with
  | none => exact .refl protocol
  | some request =>
    by_cases hknown : ∃ call ∈ protocol.calls, call.request.executionId = request.executionId
    · simp only [if_pos hknown]
      exact .refl protocol
    · simp only [if_neg hknown]
      exact ⟨fun call hcall => List.mem_append_left _ hcall, fun _ h => h, fun _ _ h => h⟩

private theorem precedes_finish (position : Nat) (ending : CallEnd) (clock : Clock) :
    protocol.Precedes (protocol.finish client position ending clock) := by
  rw [finish]
  split
  · exact .refl protocol
  · split
    · exact .refl protocol
    · exact ⟨fun _ h => h, fun _ h => h, fun _ _ h => h⟩

/-- **No step takes back** a call, an answer, or a receipt with an outcome. -/
theorem precedes_step (protocol : ReceiptProtocol) (input : ProtocolInput P) :
    protocol.Precedes (ProtocolInput.run models client protocol input) := by
  cases input with
  | command c clock => exact ⟨fun _ h => h, fun _ h => h, fun _ _ h => h⟩
  | dispatch call clock => exact ⟨fun _ h => h, fun _ h => h, fun _ _ h => h⟩
  | post position receiptId => exact precedes_post position receiptId
  | host step =>
    exact ⟨fun _ h => h, fun _ h => h, fun receiptId body h =>
      PilotHostProcess.settled_step protocol.host step h⟩
  | answer receiptId =>
    exact ⟨fun _ h => h, fun answer h => List.mem_append_left _ h, fun _ _ h => h⟩
  | refuse status text =>
    exact ⟨fun _ h => h, fun answer h => List.mem_append_left _ h, fun _ _ h => h⟩
  | finish position ending clock => exact precedes_finish position ending clock

theorem precedes_exec (protocol : ReceiptProtocol) (inputs : List (ProtocolInput P)) :
    protocol.Precedes (Run.exec (ProtocolInput.run models client) protocol inputs) :=
  Run.exec_invariant (I := fun later => protocol.Precedes later)
    (fun later input h => h.trans (precedes_step later input)) inputs (.refl protocol)

/-- A step of the dispatcher alone. -/
private theorem Sound.of_dispatcher (h : protocol.Sound client) {d : Dispatcher}
    (hd : Evidence (protocol.Explains client) d.system) :
    { protocol with dispatcher := d }.Sound client := by
  have hprecedes : protocol.Precedes { protocol with dispatcher := d } :=
    ⟨fun _ h => h, fun _ h => h, fun _ _ h => h⟩
  exact ⟨hd.mono fun _ _ hexplains => hexplains.mono hprecedes, h.settled, h.one_call⟩

private theorem sound_post (h : protocol.Sound client) (position : Nat) (receiptId : String) :
    (protocol.post position receiptId).Sound client := by
  have hprecedes : protocol.Precedes (protocol.post position receiptId) :=
    precedes_post position receiptId
  rw [post] at hprecedes ⊢
  cases hrequest : protocol.dispatcher.requests[position]? with
  | none => exact h
  | some request =>
    rw [hrequest] at hprecedes
    by_cases hknown : ∃ call ∈ protocol.calls, call.request.executionId = request.executionId
    · simp only [if_pos hknown]
      exact h
    · simp only [if_neg hknown] at hprecedes ⊢
      refine ⟨h.evidence.mono fun _ _ hexplains => hexplains.mono hprecedes, h.settled, ?_⟩
      change ((protocol.calls ++ [WorkCall.mk request receiptId]).map
        fun call => call.request.executionId).Nodup
      rw [List.map_append, List.nodup_append]
      refine ⟨h.one_call, List.nodup_singleton _, fun id hid other hother heq => hknown ?_⟩
      obtain ⟨call, hcall, rfl⟩ := List.mem_map.mp hid
      exact ⟨call, hcall, heq.trans (List.mem_singleton.mp hother)⟩

private theorem sound_finish (h : protocol.Sound client) (position : Nat) (ending : CallEnd)
    (clock : Clock) : (protocol.finish client position ending clock).Sound client := by
  rw [finish]
  cases hpending : protocol.dispatcher.futures[position]? with
  | none => exact h
  | some pending =>
    cases hfind : protocol.calls.find? fun call =>
        call.request.executionId = pending.execution.executionId with
    | none =>
      simp only [hfind]
      exact h
    | some call =>
      simp only [hfind]
      refine h.of_dispatcher (evidence_finish h.evidence position _ clock ?_)
      intro known hknown
      obtain rfl := Option.some.inj (hpending.symm.trans hknown)
      have hid := List.find?_some hfind
      exact accounts_outcomeOf h.settled (List.mem_of_find?_eq_some hfind)
        (of_decide_eq_true hid) ending

/-- **Every step** of either party keeps the protocol sound. -/
theorem sound_step (protocol : ReceiptProtocol) (input : ProtocolInput P)
    (h : protocol.Sound client) :
    (ProtocolInput.run models client protocol input).Sound client := by
  have hprecedes : protocol.Precedes (ProtocolInput.run models client protocol input) :=
    precedes_step protocol input
  have hevidence {later : ReceiptProtocol} (hprecedes : protocol.Precedes later)
      (hsame : later.dispatcher = protocol.dispatcher) :
      Evidence (later.Explains client) later.dispatcher.system := by
    rw [hsame]
    exact h.evidence.mono fun _ _ hexplains => hexplains.mono hprecedes
  cases input with
  | command c clock =>
    refine h.of_dispatcher ?_
    rw [HostInput.step, HostInput.run, onSystem, EStateM.finalState_zoom]
    exact evidence_sharedCommand h.evidence c clock
  | dispatch call clock => exact h.of_dispatcher ((evidence_dispatch call clock).final h.evidence)
  | post position receiptId => exact sound_post h position receiptId
  | host step =>
    exact ⟨hevidence hprecedes rfl, fun body hbody hstatus =>
      PilotHostProcess.settled_step protocol.host step (h.settled body hbody hstatus), h.one_call⟩
  | answer receiptId =>
    refine ⟨hevidence hprecedes rfl, fun body hbody hstatus => ?_, h.one_call⟩
    rcases List.mem_append.mp hbody with hold | hnew
    · exact h.settled body hold hstatus
    · cases hget : protocol.host.memory.receipts.receipts.get? receiptId with
      | none =>
        rw [hget] at hnew
        cases List.mem_singleton.mp hnew
      | some stored =>
        rw [hget] at hnew
        obtain rfl := HttpAnswer.receipt.inj (List.mem_singleton.mp hnew)
        refine ⟨?_, hstatus⟩
        rw [protocol.host.memory.receipts.receipt_id_eq receiptId body hget]
        exact hget
  | refuse status text =>
    refine ⟨hevidence hprecedes rfl, fun body hbody hstatus => ?_, h.one_call⟩
    rcases List.mem_append.mp hbody with hold | hnew
    · exact h.settled body hold hstatus
    · cases List.mem_singleton.mp hnew
  | finish position ending clock => exact sound_finish h position ending clock

/-- A protocol that has not begun is sound. -/
theorem sound_new (d : Dispatcher) (dataSpace : DataSpace) (cache : CacheFile) :
    (ReceiptProtocol.new d dataSpace cache).Sound client where
  evidence := by
    refine ⟨(syncedIn_new dataSpace).1.toKernelSynced, fun stored hstored => ?_,
      fun id execution hget => ?_⟩
    · cases hstored
    · cases hget
  settled body hbody := by cases hbody
  one_call := List.nodup_nil

/-! ### What the states of executions say -/

/-- A receipt is recorded of an execution. -/
def Recorded (protocol : ReceiptProtocol) (executionId : String)
    (recorded : PilotExecutionReceiptPayload) : Prop :=
  ∃ stored ∈ protocol.dispatcher.system.ledger.events, stored.event.streamId = executionId ∧
    stored.event.payload = .kernel (.pilotExecutionReceiptRecorded recorded)

variable {recorded : PilotExecutionReceiptPayload} {body : ProviderReceipt}

omit [Sha256] in
private theorem value_eq_iff (status : ProviderReceiptStatus) :
    (status.value = "succeeded" ↔ status = .succeeded) ∧
      (status.value = "failed" ↔ status = .failed) ∧
        (status.value = "transport_unknown" ↔ status = .transportUnknown) := by
  cases status <;> decide

/-- The state that is recorded is the one that the status of the host's receipt leads to. -/
theorem HostWrote.status (h : protocol.HostWrote client executionId recorded body) :
    body.status = .succeeded ∧ recorded.state = .succeeded ∨
      body.status = .failed ∧ recorded.state = .failed ∨
      body.status = .transportUnknown ∧ recorded.state = .paused := by
  obtain ⟨call, -, -, receipt, -, hsaid, hof⟩ := h.of_call
  rw [← hsaid.status]
  obtain ⟨hsucceeded, hfailed, hunknown⟩ := value_eq_iff receipt.status
  rcases receiptOutcome_cases hof.outcome with ⟨hstatus, hstate⟩ | ⟨hstatus, hstate⟩ |
    ⟨hstatus, hstate⟩
  · exact Or.inl ⟨hsucceeded.mp hstatus, hstate⟩
  · exact Or.inr (Or.inl ⟨hfailed.mp hstatus, hstate⟩)
  · exact Or.inr (Or.inr ⟨hunknown.mp hstatus, hstate⟩)

/-- The result that is recorded is the one that the host has written. -/
theorem HostWrote.result_eq (h : protocol.HostWrote client executionId recorded body) :
    recorded.result = body.result.map client.written := by
  obtain ⟨call, -, -, receipt, -, hsaid, hof⟩ := h.of_call
  rw [hof.result, hsaid.result, Option.map_map]
  rfl

/-- **What an explanation comes to**: the host has written the receipt, or the dispatcher has:
paused when the worker was not answered, failed when it gave up. -/
theorem Explains.cases {payload : EventPayload} {state : ExecutionState}
    (h : protocol.Explains client executionId payload) (hreported : payload.reported = some state) :
    (∃ recorded body, payload = .kernel (.pilotExecutionReceiptRecorded recorded) ∧
      protocol.HostWrote client executionId recorded body ∧
        (body.status = .succeeded ∧ state = .succeeded ∨ body.status = .failed ∧ state = .failed ∨
          body.status = .transportUnknown ∧ state = .paused)) ∨
    state = .paused ∧ protocol.Unheard client executionId ∨
    state = .failed ∧ protocol.GaveUp client executionId := by
  cases h with
  | host hwrote =>
    obtain rfl := Option.some.inj hreported
    exact Or.inl ⟨_, _, rfl, hwrote, hwrote.status⟩
  | unheard hunheard hof =>
    obtain rfl := Option.some.inj hreported
    refine Or.inr (Or.inl ⟨?_, hunheard⟩)
    rcases receiptOutcome_cases hof.outcome with ⟨hstatus, -⟩ | ⟨hstatus, -⟩ | ⟨-, hstate⟩
    · exact absurd (show "transport_unknown" = "succeeded" from hstatus) (by decide)
    · exact absurd (show "transport_unknown" = "failed" from hstatus) (by decide)
    · exact hstate
  | gaveUp hgaveUp hof =>
    obtain rfl := Option.some.inj hreported
    refine Or.inr (Or.inr ⟨?_, hgaveUp⟩)
    rcases receiptOutcome_cases hof.outcome with ⟨hstatus, -⟩ | ⟨-, hstate⟩ | ⟨hstatus, -⟩
    · exact absurd (show "failed" = "succeeded" from hstatus) (by decide)
    · exact hstate
    · exact absurd (show "failed" = "transport_unknown" from hstatus) (by decide)
  | bare hgaveUp => exact Or.inr (Or.inr ⟨(Option.some.inj hreported).symm, hgaveUp⟩)

end ReceiptProtocol

/-- **What the states of executions say of the host's receipts**, now and after whatever happens
later. -/
structure ReceiptLaw (models : RequestModels P) (client : ProductionPilotHostClient P)
    (protocol : ReceiptProtocol) : Prop where
  /-- An execution has one call, and so at most one receipt at the host. -/
  one_call : (protocol.calls.map (·.request.executionId)).Nodup
  /-- An execution that has succeeded has a receipt that the host will always have as succeeded,
  with the result that is recorded. -/
  succeeded : ∀ id execution, protocol.dispatcher.system.kernel.executions.get? id =
    some execution → execution.state = .succeeded → ∃ recorded body,
      protocol.Recorded id recorded ∧ protocol.HostWrote client id recorded body ∧
        body.status = .succeeded ∧ recorded.result = body.result.map client.written ∧
        ∀ later, (Run.exec (ProtocolInput.run models client) protocol later).host.Settled
          body.request.receiptId body
  /-- An execution that has failed has a receipt that the host will always have as failed, or its
  worker gave up over what the host answered. -/
  failed : ∀ id execution, protocol.dispatcher.system.kernel.executions.get? id =
    some execution → execution.state = .failed → (∃ recorded body,
      protocol.Recorded id recorded ∧ protocol.HostWrote client id recorded body ∧
        body.status = .failed ∧
        ∀ later, (Run.exec (ProtocolInput.run models client) protocol later).host.Settled
          body.request.receiptId body) ∨ protocol.GaveUp client id
  /-- A receipt that awaits reconciliation is one whose outcome the host does not know either, or
  that no answer arrived about. -/
  reconciled : ∀ id recorded, protocol.Recorded id recorded → recorded.state = .paused →
    (∃ body, protocol.HostWrote client id recorded body ∧ body.status = .transportUnknown) ∨
      protocol.Unheard client id

end Parties

end Nanihold
