import Nanihold.PilotHost.Host

/-!
# Calls in threads

A PilotHost serves every call in a thread of its own, so that calls overlap, and it can be stopped
while they do. A call enters its request, runs the provider and enters the outcome; between any two
of these other calls may be served, and a restart ends all calls.

## Main definitions

* `RunningCall` — a thread that has entered a new request.
* `PilotHostProcess` — what outlives the host, and its threads.
* `ThreadStep` — what a thread does at once, or a restart.

## Main results

* `PilotHostProcess.memory_exec_execute` — `execute` is a call that no other overlaps.
-/

namespace Nanihold

/-- A thread that has entered a new request, and whether it has run the provider. -/
structure RunningCall where
  host : ProductionPilotHost
  world : HostWorld
  request : HostRequest
  invoked : Bool

structure PilotHostProcess where
  memory : HostMemory
  calls : List RunningCall

/-- The receipts after an outcome was entered; they stay what they are if it cannot be. -/
def ReceiptStore.finished (store : ReceiptStore) (receiptId : String) (outcome : ReceiptOutcome)
    (now : String) : ReceiptStore :=
  match store.finish receiptId outcome now with
  | .ok answer => answer.2
  | .error _ => store

theorem ReceiptStore.finished_of_ok {store : ReceiptStore} {receiptId now : String}
    {outcome : ReceiptOutcome} {answer : ProviderReceipt × ReceiptStore}
    (h : store.finish receiptId outcome now = .ok answer) :
    store.finished receiptId outcome now = answer.2 := by
  simp only [finished, h]

theorem ReceiptStore.finished_of_error {store : ReceiptStore} {receiptId now : String}
    {outcome : ReceiptOutcome} {e : HostError}
    (h : store.finish receiptId outcome now = .error e) :
    store.finished receiptId outcome now = store := by
  simp only [finished, h]

namespace PilotHostProcess

/-- A host that has not served a call yet. -/
def new (cache : CacheFile) : PilotHostProcess := ⟨⟨.new, cache, []⟩, []⟩

variable [Sha256] {P : Type} (models : RequestModels P)

/-- A call of `execute`, up to the entry of its request. -/
def arrive (host : ProductionPilotHost) (endpoint : String) (payload : P) (world : HostWorld)
    (process : PilotHostProcess) : PilotHostProcess :=
  match host.admission models endpoint payload world process.memory.cache with
  | .error _ => process
  | .ok (request, cache) =>
    match process.memory.receipts.begin (request.receiptRequest endpoint) world.beganAt with
    | .error _ => { process with memory := { process.memory with cache := cache } }
    | .ok begun =>
      { memory := { process.memory with receipts := begun.store, cache := cache }
        calls := process.calls ++
          if begun.created then [⟨host, world, request, false⟩] else [] }

omit [Sha256]

/-- A thread runs its provider. -/
def invoke (position : Nat) (process : PilotHostProcess) : PilotHostProcess :=
  match process.calls[position]? with
  | none => process
  | some call =>
    if call.invoked then process
    else
      { memory := { process.memory with
          invocations := process.memory.invocations ++ [call.request.receiptId] }
        calls := process.calls.set position { call with invoked := true } }

/-- A thread enters the outcome of its provider and ends, also when the outcome cannot be
written. -/
def finish (position : Nat) (process : PilotHostProcess) : PilotHostProcess :=
  match process.calls[position]? with
  | none => process
  | some call =>
    if call.invoked then
      { memory := { process.memory with
          receipts := process.memory.receipts.finished call.request.receiptId
            (invocationOutcome (call.host.invoke call.world call.request))
            call.world.finishedAt }
        calls := process.calls.eraseIdx position }
    else process

/-- The host is stopped, and a new one opens the receipts. -/
def restart (now : String) (process : PilotHostProcess) : PilotHostProcess where
  memory := { process.memory with receipts := process.memory.receipts.recover now }
  calls := []

end PilotHostProcess

/-- What a thread does at once, or a restart of the host. -/
inductive ThreadStep (P : Type) where
  | arrive (host : ProductionPilotHost) (endpoint : String) (payload : P) (world : HostWorld)
  | invoke (position : Nat)
  | finish (position : Nat)
  | restart (now : String)

/-- The process after a step. -/
def ThreadStep.run [Sha256] {P : Type} (models : RequestModels P) (process : PilotHostProcess) :
    ThreadStep P → PilotHostProcess
  | .arrive host endpoint payload world => process.arrive models host endpoint payload world
  | .invoke position => process.invoke position
  | .finish position => process.finish position
  | .restart now => process.restart now

namespace PilotHostProcess

variable {process : PilotHostProcess} {position : Nat} {call : RunningCall}

theorem invoke_of_none (h : process.calls[position]? = none) :
    process.invoke position = process := by
  simp only [invoke, h]

theorem finish_of_none (h : process.calls[position]? = none) :
    process.finish position = process := by
  simp only [finish, h]

theorem invoke_of_waiting (h : process.calls[position]? = some call)
    (hwaiting : call.invoked = false) : process.invoke position =
      { memory := { process.memory with
          invocations := process.memory.invocations ++ [call.request.receiptId] }
        calls := process.calls.set position { call with invoked := true } } := by
  simp only [invoke, h, hwaiting, Bool.false_eq_true, if_false]

theorem finish_of_invoked (h : process.calls[position]? = some call)
    (hinvoked : call.invoked = true) : process.finish position =
      { memory := { process.memory with
          receipts := process.memory.receipts.finished call.request.receiptId
            (invocationOutcome (call.host.invoke call.world call.request))
            call.world.finishedAt }
        calls := process.calls.eraseIdx position } := by
  simp only [finish, h, hinvoked, if_true]

variable [Sha256] {P : Type} {models : RequestModels P} {host : ProductionPilotHost}
  {endpoint : String} {payload : P} {world : HostWorld} {request : HostRequest}
  {cache : CacheFile}

theorem arrive_of_refused {e : HostError}
    (h : host.admission models endpoint payload world process.memory.cache = .error e) :
    process.arrive models host endpoint payload world = process := by
  simp only [arrive, h]

theorem arrive_of_conflict {e : HostError}
    (h : host.admission models endpoint payload world process.memory.cache = .ok (request, cache))
    (hbegin : process.memory.receipts.begin (request.receiptRequest endpoint) world.beganAt =
      .error e) : process.arrive models host endpoint payload world =
      { process with memory := { process.memory with cache := cache } } := by
  simp only [arrive, h, hbegin]

theorem arrive_of_begun {begun : ReceiptStore.Begun}
    (h : host.admission models endpoint payload world process.memory.cache = .ok (request, cache))
    (hbegin : process.memory.receipts.begin (request.receiptRequest endpoint) world.beganAt =
      .ok begun) : process.arrive models host endpoint payload world =
      { memory := { process.memory with receipts := begun.store, cache := cache }
        calls := process.calls ++
          if begun.created then [⟨host, world, request, false⟩] else [] } := by
  simp only [arrive, h, hbegin]

/-- The three steps of a call that no other overlaps. -/
def executeSteps (process : PilotHostProcess) (host : ProductionPilotHost) (endpoint : String)
    (payload : P) (world : HostWorld) : List (ThreadStep P) :=
  [.arrive host endpoint payload world, .invoke process.calls.length,
    .finish process.calls.length]

omit [Sha256] in
/-- The thread of a new request runs its provider and enters the outcome. -/
private theorem finish_invoke_last (memory : HostMemory) (calls : List RunningCall)
    (call : RunningCall) (hwaiting : call.invoked = false) :
    finish calls.length (invoke calls.length ⟨memory, calls ++ [call]⟩) =
      ⟨{ memory with
          invocations := memory.invocations ++ [call.request.receiptId]
          receipts := memory.receipts.finished call.request.receiptId
            (invocationOutcome (call.host.invoke call.world call.request))
            call.world.finishedAt }, calls⟩ := by
  have hlast : (calls ++ [call])[calls.length]? = some call := by simp
  have hset : (calls ++ [call]).set calls.length { call with invoked := true } =
      calls ++ [{ call with invoked := true }] := by simp
  have hinvoked : (calls ++ [{ call with invoked := true }])[calls.length]? =
      some { call with invoked := true } := by simp
  have herase : (calls ++ [{ call with invoked := true }]).eraseIdx calls.length = calls := by
    rw [List.eraseIdx_append_of_length_le (Nat.le_refl _), Nat.sub_self]
    exact List.append_nil calls
  rw [invoke_of_waiting hlast hwaiting, hset, finish_of_invoked hinvoked rfl, herase]

/-- **`execute` is a call that no other overlaps**: its three steps in a row leave what `execute`
leaves, and the other threads as they were. -/
theorem memory_exec_execute (process : PilotHostProcess) (host : ProductionPilotHost)
    (endpoint : String) (payload : P) (world : HostWorld) :
    Run.exec (ThreadStep.run models) process
        (process.executeSteps host endpoint payload world) =
      ⟨HostStep.run models process.memory (.execute host endpoint payload world),
        process.calls⟩ := by
  have hnone : process.calls[process.calls.length]? = none := by simp
  -- No thread stands at the end of the list unless the call created it.
  have hidle (memory : HostMemory) : finish process.calls.length (invoke process.calls.length
      ⟨memory, process.calls⟩) = ⟨memory, process.calls⟩ := by
    have hthread : (PilotHostProcess.mk memory process.calls).calls[process.calls.length]? = none :=
      hnone
    rw [invoke_of_none hthread, finish_of_none hthread]
  rw [executeSteps, Run.exec_cons, Run.exec_cons, Run.exec_cons, Run.exec_nil]
  simp only [ThreadStep.run, HostStep.run]
  cases hadmission : host.admission models endpoint payload world process.memory.cache with
  | error e =>
    rw [arrive_of_refused hadmission,
      EStateM.finalState_of_error (ProductionPilotHost.execute_of_refused hadmission)]
    exact hidle process.memory
  | ok admitted =>
    obtain ⟨request, cache⟩ := admitted
    rw [EStateM.finalState, ProductionPilotHost.execute_of_admission hadmission]
    change _ = PilotHostProcess.mk ((host.complete endpoint world request).finalState
      { process.memory with cache := cache }) process.calls
    cases hbegin : process.memory.receipts.begin (request.receiptRequest endpoint)
        world.beganAt with
    | error e =>
      have hconflict : host.complete endpoint world request
          { process.memory with cache := cache } = .error e _ :=
        ProductionPilotHost.complete_of_conflict hbegin
      rw [arrive_of_conflict hadmission hbegin, EStateM.finalState_of_error hconflict]
      exact hidle _
    | ok begun =>
      rw [arrive_of_begun hadmission hbegin]
      rcases ReceiptStore.begin_eq_ok hbegin with ⟨hknown, hstore, hstored⟩ | ⟨hnew, rfl⟩
      · simp only [hknown, Bool.false_eq_true, if_false, List.append_nil, hstore]
        have hanswered : host.complete endpoint world request
            { process.memory with cache := cache } = .ok begun.receipt _ :=
          ProductionPilotHost.complete_of_storedFor hstored
        rw [EStateM.finalState_of_ok hanswered]
        exact hidle _
      · simp only [if_true]
        rw [finish_invoke_last _ _ _ rfl]
        obtain ⟨hok, herror⟩ := ProductionPilotHost.complete_of_new host endpoint world request
          { process.memory with cache := cache } hnew
        cases hfinish : (ProductionPilotHost.begunMemory endpoint world request
            { process.memory with cache := cache } hnew).receipts.finish request.receiptId
            (invocationOutcome (host.invoke world request)) world.finishedAt with
        | ok answer =>
          have hfinished := ReceiptStore.finished_of_ok hfinish
          rw [EStateM.finalState_of_ok (hok answer.1 answer.2 hfinish), ← hfinished]
          rfl
        | error e =>
          have hfinished := ReceiptStore.finished_of_error hfinish
          rw [EStateM.finalState_of_error (herror e hfinish)]
          change _ = PilotHostProcess.mk { ProductionPilotHost.begunMemory endpoint world request
            { process.memory with cache := cache } hnew with
              receipts := (ProductionPilotHost.begunMemory endpoint world request
                { process.memory with cache := cache } hnew).receipts } process.calls
          rw [← hfinished]
          rfl

end PilotHostProcess

end Nanihold
