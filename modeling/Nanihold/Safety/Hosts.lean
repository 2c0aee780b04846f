import Nanihold.Replay.Restart
import Nanihold.Safety.Dispatch

/-!
# Runs of a host

The process that a dispatcher belongs to also serves commands on the shared ledger. A step of a host
is one of these or a step of the dispatcher, in any order.

## Main definitions

* `HostInput`, `runHost` — the steps and the runs of a host.
* `KeptByHost` — what commands and lifecycle records keep.

## Main results

* `preserves_dispatchReady`, `preserves_dispatcherInput` — the rules of the dispatcher's programs.
* `KeptByHost.step`, `KeptByHost.run` — what commands and lifecycle records keep, hosts keep.
* `modelRegistry_runHost` — no step writes the model registry.
-/

namespace Nanihold

open Dispatcher

/-- A step of the process that the dispatcher belongs to: a command on the shared ledger, or a step
of the dispatcher. -/
inductive HostInput where
  | shared (c : SharedLedgerCommand)
  | dispatcher (input : DispatcherInput)

section Runs

variable [Sha256]

def HostInput.run (clock : Clock) : HostInput → DispatcherM Unit
  | .shared c => onSystem (c.run clock)
  | .dispatcher input => input.run clock

def HostInput.step (d : Dispatcher) (input : HostInput × Clock) : Dispatcher :=
  (input.1.run input.2).finalState d

/-- The dispatcher after a run. -/
def runHost (d : Dispatcher) (inputs : List (HostInput × Clock)) : Dispatcher :=
  Run.exec HostInput.step d inputs

variable {I : Dispatcher → Prop}
  (hbookkeeping : ∀ d d' : Dispatcher, d'.system = d.system → d'.modelRegistry = d.modelRegistry →
    I d → I d')
  (hcreate : ∀ execution actorId key clock, EStateM.Preserves I
    (Dispatcher.onKernel (.createExecution execution actorId key) clock))
  (hassign : ∀ assignment registry actorId key clock, EStateM.Preserves I
    (Dispatcher.onKernel (.recordAgentNameAssignment assignment registry actorId key) clock))
include hbookkeeping hcreate hassign

theorem preserves_startExecution (call : DispatchCall) (plan : PlannedWork) (clock : Clock) :
    EStateM.Preserves I (startExecution call plan clock) := by
  rw [startExecution]
  refine .bind (preserves_allocateName (fun d _ hd => hbookkeeping d _ rfl rfl hd) call plan _)
    fun assigned => .bind (hcreate _ _ _ _) fun _ => ?_
  cases assigned with
  | none => exact .pure _
  | some assigned => exact .bind (hassign _ _ _ _ _) fun _ => .pure _

theorem preserves_startExecutions (call : DispatchCall) :
    ∀ (planned : List PlannedWork) (clock : Clock),
      EStateM.Preserves I (startExecutions call planned clock)
  | [], _ => .pure _
  | plan :: rest, clock => by
    rw [startExecutions]
    exact .bind (preserves_startExecution hbookkeeping hcreate hassign call plan clock) fun _ =>
      .bind (preserves_startExecutions call rest _) fun _ => .pure _

omit hcreate hassign [Sha256] in
/-- Taking the delta and handing it over leaves the system and the model registry alone. -/
theorem preserves_handOver (call : DispatchCall) (executions : List (Execution × PlannedWork)) :
    EStateM.Preserves I (do
      let delta ← eventDelta
      executions.forM (submit call delta)
      return DispatchBatch.mk (executions.map assignmentOf) executions.length
        executions.length) := by
  refine .bind (.of_final fun d hd => ?_) fun delta =>
    .bind (.forM fun started _ => .of_final fun d hd => ?_) fun _ => .pure _
  · rw [EStateM.finalState_of_ok (eventDelta_run d)]
    exact hbookkeeping d _ rfl rfl hd
  · rw [submit, EStateM.finalState_get_bind]
    cases Checked.check (d.closed = false)
      (VsmError.raised "cannot schedule new futures after shutdown") with
    | error e => exact hd
    | ok _ => exact hbookkeeping d _ rfl rfl hd

/-- What the two commands of a dispatch keep, a dispatch keeps. -/
theorem preserves_dispatchReady (call : DispatchCall) (clock : Clock) :
    EStateM.Preserves I (dispatchReady call clock) :=
  .bind .get fun _ => .bind (.ofExcept _) fun planned =>
    .bind (preserves_startExecutions hbookkeeping hcreate hassign call planned clock)
      fun executions => preserves_handOver hbookkeeping call executions

omit hcreate hassign in
/-- **Step rule of the dispatcher.** What Kernel commands and failovers keep, every step of the
dispatcher keeps. -/
theorem preserves_dispatcherInput
    (hkernel : ∀ c clock, EStateM.Preserves I (Dispatcher.onKernel c clock))
    (hfailover : ∀ process pilotHostId key requestReprovision clock, EStateM.Preserves I
      (onSystem (failover process pilotHostId key requestReprovision clock)))
    (input : DispatcherInput) (clock : Clock) : EStateM.Preserves I (input.run clock) := by
  cases input with
  | dispatch call =>
    exact .bind (preserves_dispatchReady hbookkeeping (fun _ _ _ => hkernel _)
      (fun _ _ _ _ => hkernel _) call clock) fun _ => .pure _
  | finish position outcome =>
    exact preserves_finishExecution (fun d _ hd => hbookkeeping d _ rfl rfl hd)
      (fun _ _ _ _ => hkernel _) (fun _ _ _ => hkernel _) hfailover position outcome clock
  | close => exact .of_final fun d hd => hbookkeeping d _ rfl rfl hd

end Runs

/-! ### What hosts keep -/

section Kept

variable [Sha256] {I : MemorySystem → Prop}

/-- What every command of the services and every record of the lifecycle keeps. -/
structure KeptByHost (I : MemorySystem → Prop) : Prop where
  service : ∀ s input, I s → I (ServiceCommand.step s input)
  lifecycle : ∀ process, KeptByLifecycle I process
  attached : ∀ (s : MemorySystem) environments, I s → I { s with environments := environments }

namespace KeptByHost

variable (hI : KeptByHost I)
include hI

theorem onKernel (c : KernelCommand) (clock : Clock) :
    EStateM.Preserves (fun d : Dispatcher => I d.system) (Dispatcher.onKernel c clock) := by
  refine .of_final fun d hd => ?_
  rw [Dispatcher.onKernel, onSystem, EStateM.finalState_zoom]
  exact hI.service d.system (.kernel c, clock) hd

theorem onFailover (process : Nat) (failedInstanceId key : String)
    (requestReprovision : Except VsmError Unit) (clock : Clock) :
    EStateM.Preserves (fun d : Dispatcher => I d.system)
      (onSystem (failover process failedInstanceId key requestReprovision clock)) := by
  refine .of_final fun d hd => ?_
  rw [onSystem, EStateM.finalState_zoom]
  exact (preserves_failover (hI.lifecycle process) _ _ _ _).final hd

/-- **One step of a host.** -/
theorem step (d : Dispatcher) (input : HostInput × Clock) (hd : I d.system) :
    I (HostInput.step d input).system := by
  obtain ⟨input, clock⟩ := input
  cases input with
  | shared c =>
    rw [HostInput.step, HostInput.run, onSystem, EStateM.finalState_zoom]
    cases c with
    | service c => exact hI.service d.system (c, clock) hd
    | environment process c => exact (c.preserves (hI.lifecycle process) hI.attached clock).final hd
  | dispatcher input =>
    refine (preserves_dispatcherInput (I := fun d : Dispatcher => I d.system)
      (fun d d' hsystem _ h => ?_) hI.onKernel hI.onFailover input clock).final hd
    rwa [hsystem]

/-- **Runs of a host.** -/
theorem run {d : Dispatcher} (hd : I d.system) (inputs : List (HostInput × Clock)) :
    I (runHost d inputs).system :=
  Run.exec_invariant (I := fun d : Dispatcher => I d.system) hI.step inputs hd

end KeptByHost

/-- A lifecycle record leaves the Kernel alone and appends an event of the lifecycle at most. -/
theorem events_of_lifecycle (process : Nat) {r : Recording EnvironmentInstanceService}
    (hr : RecordsEnvironment r) (s : MemorySystem) :
    letI : Service InMemoryOperationalLedger _ := environmentService process
    ((record r).finalState s).kernel = s.kernel ∧
      (((record r).finalState s).ledger.events = s.ledger.events ∨
        ∃ stored : StoredEvent, stored.event.payload.IsEnvironment ∧
          ((record r).finalState s).ledger.events = s.ledger.events ++ [stored]) := by
  let : Service InMemoryOperationalLedger _ := environmentService process
  rcases record_cases r s with ⟨e, herror⟩ | ⟨event, result, ledger, henvelope, happend, hrecord⟩
  · rw [EStateM.finalState_of_error herror]
    exact ⟨rfl, Or.inl rfl⟩
  obtain ⟨e, hfinal⟩ : ∃ e, (record r).finalState s =
      Component.write { s with ledger := ledger } (e : EnvironmentInstanceService) := by
    unfold EStateM.finalState
    rw [hrecord]
    cases r.update event result (EventWriter.advance (Component.read s) r.streamId result) with
    | ok _ t => exact ⟨t, rfl⟩
    | error _ t => exact ⟨t, rfl⟩
  rw [hfinal]
  refine ⟨rfl, ?_⟩
  rcases s.ledger.append_eq_ok happend with ⟨happ, -, -, rfl⟩ | ⟨_, -, -, -, rfl⟩
  · refine Or.inr ⟨s.ledger.store event, ?_, rfl⟩
    change event.payload.IsEnvironment
    rw [(Recording.describes_of_envelope henvelope).payload]
    exact hr
  · exact Or.inl rfl

/-- A synced system stays one. -/
theorem kernelSynced_keptByHost : KeptByHost System.KernelSynced where
  service := ServiceCommand.invariant_step kernelSynced_kept
  lifecycle process r hr := by
    refine .of_final fun s hs => ?_
    exact ((kernelSynced_keptByLifecycle (fun _ => True) process r hr).final ⟨hs, trivial⟩).1
  attached _ _ hs := { hs with }

/-- No step of a host writes the model registry. -/
theorem modelRegistry_runHost (d : Dispatcher) (inputs : List (HostInput × Clock)) :
    (runHost d inputs).modelRegistry = d.modelRegistry := by
  refine Run.exec_invariant (I := fun now : Dispatcher => now.modelRegistry = d.modelRegistry)
    (fun now input hnow => ?_) inputs rfl
  obtain ⟨input, clock⟩ := input
  cases input with
  | shared c =>
    rw [HostInput.step, HostInput.run, onSystem, EStateM.finalState_zoom]
    exact hnow
  | dispatcher input =>
    refine (preserves_dispatcherInput
      (I := fun now : Dispatcher => now.modelRegistry = d.modelRegistry)
      (fun _ _ _ hregistry h => hregistry.trans h) (fun c clock => .of_final fun now h => ?_)
      (fun _ _ _ _ _ => .of_final fun now h => ?_) input clock).final hnow
    · rw [Dispatcher.onKernel, onSystem, EStateM.finalState_zoom]
      exact h
    · rw [onSystem, EStateM.finalState_zoom]
      exact h

end Kept

/-- The commands that make the company's work item ready, as steps of a host. -/
def readyHost : List (HostInput × Clock) :=
  readyCompany.map fun input => (.shared (.service input.1), input.2)

end Nanihold
