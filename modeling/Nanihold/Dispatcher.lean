import Nanihold.Commands
import Nanihold.Library.Counter
import Nanihold.Library.EventSourcing
import Mathlib.Data.String.Basic

/-!
# The dispatcher

`vsm.dispatcher.DependencyAwareDispatcher`. It starts an execution for each ready work item whose
dependencies are completed, hands it to the work executor together with the events since the last
hand-over, and records what the executor answers.

## Main definitions

* `Dispatcher` — the dispatcher over a system, with the requests it handed to the executor.
* `Kernel.eligibleWork`, `Dispatcher.planDispatch` — what a dispatch would start, or why it is
  refused.
* `Dispatcher.preflightReady` — what is checked before the owner's selection is dispatched.
* `Dispatcher.eventDelta` — the summary of the events since the last one, which moves the cursor.
* `Dispatcher.dispatchReady`, `Dispatcher.finishExecution` — a dispatch, and the completion of an
  execution.
* `DispatcherInput` — the steps of a run.
-/

namespace Nanihold

/-! ### Requests and answers -/

structure PilotBinding where
  nodeId : Identifier
  pilotId : Identifier
  pilotHostId : Identifier
  deriving DecidableEq

structure DispatchAssignment where
  workItemId : Identifier
  executionId : Identifier
  pilotId : Identifier
  pilotHostId : Identifier
  modelCandidateKey : NonBlank
  agentName : Option NonBlank
  deriving DecidableEq

structure DispatchBatch where
  assignments : List DispatchAssignment
  parallelism : Nat
  modelCalls : Nat
  deriving DecidableEq

/-- What `execute_work` is called with. -/
structure WorkRequest where
  executionId : Identifier
  workItem : WorkItem
  candidate : ModelCandidate
  eventDelta : EventDeltaSummary
  idempotencyKey : String
  agentName : Option NonBlank
  deriving DecidableEq

/-- The answers of the router, the executor, the name table and the identifier generator during one
dispatch, for the work item of each name. -/
structure DispatchAnswers where
  evidenceCursor : String → Nat
  selectProduction : String → RouteSnapshot → Except VsmError NonBlank
  validateWorkCandidate : ModelCandidate → Except VsmError Unit
  executionId : String → Identifier
  assignmentId : String → Identifier
  issuedName : String → Except VsmError IssuedName

/-- The arguments of `dispatch_ready`, with the answers it gets. -/
structure DispatchCall where
  bindings : List PilotBinding
  actorId : String
  idempotencyKey : String
  allowedWorkItemIds : Option (List String)
  answers : DispatchAnswers

/-- A work item that a dispatch is going to start. -/
structure PlannedWork where
  workItem : WorkItem
  binding : PilotBinding
  candidate : ModelCandidate
  deriving DecidableEq

/-- An execution whose future is not done. -/
structure PendingExecution where
  execution : Execution
  idempotencyKey : String

/-- What the future of an execution gives: a receipt, returned or carried by the exception of a
failed or unknown run; a host that cannot be reached, with what the reprovisioner would answer; or
an exception that nothing anticipated. -/
inductive WorkOutcome where
  | receipt (receipt : Kernel.PilotReceipt)
  | unreachable (receiptId : String) (requestReprovision : Except VsmError Unit)
  | unexpected (message : String) (receiptId : Identifier)

/-! ### The dispatcher's state -/

/-- The dispatcher over a system. The environment failover boundary is the lifecycle service of a
process. -/
structure Dispatcher where
  system : System InMemoryOperationalLedger
  eventDeltaCursor : Nat
  modelRegistry : Option (OrderedDict String ModelCandidate)
  hasWorkExecutor : Bool
  agentNamingRegistry : Option AgentNameRegistry
  environmentFailover : Option Nat
  /-- The pool was shut down. -/
  closed : Bool
  futures : List PendingExecution
  /-- The requests handed to the work executor, oldest first. -/
  requests : List WorkRequest

/-- A program of the dispatcher. -/
abbrev DispatcherM (α : Type) := EStateM VsmError Dispatcher α

instance : Component Dispatcher (System InMemoryOperationalLedger) where
  read d := d.system
  write d s := { d with system := s }
  read_write _ _ := rfl
  write_write _ _ _ := rfl

/-! ### Eligible work -/

namespace Kernel

variable (k : Kernel)

/-- The published snapshot of each route. -/
def publishedByRoute : Except VsmError (OrderedDict String RouteSnapshot) :=
  k.routeSnapshots.values.foldlM (fun published snapshot => do
    if snapshot.state = .published then
      require (published.contains snapshot.routeKey = false)
        s!"multiple published RouteSnapshots for {snapshot.routeKey}"
      return published.set snapshot.routeKey snapshot
    else
      return published) .empty

/-- The work items with an execution in flight. -/
def activeWorkIds : List String :=
  (k.executions.values.filter fun execution =>
    execution.state = .requested ∨ execution.state = .active).map (·.workItemId)

/-- The work items that a work item depends on. -/
def prerequisites (workItemId : String) : List String :=
  (k.dependencies.filter (·.1 = workItemId)).map Prod.snd

/-- The checks of one work item: it is allowed, it is ready without an execution in flight, and its
dependencies are completed. -/
def isEligible (allowedWorkItemIds : Option (List String)) (work : WorkItem) :
    Except VsmError Bool :=
  if ∃ ids ∈ allowedWorkItemIds, work.workItemId ∉ ids then return false
  else if work.state ≠ .ready ∨ work.workItemId ∈ k.activeWorkIds then return false
  else do
    let incomplete ← (k.prerequisites work.workItemId).anyM fun itemId => do
      let prerequisite ← entry (k.workItems.get? itemId) itemId
      return prerequisite.state ≠ .completed
    return !incomplete

/-- The eligible work items, in the order of their identifiers. -/
def eligibleWork (allowedWorkItemIds : Option (List String)) : Except VsmError (List WorkItem) :=
  (k.workItems.values.insertionSort fun work other => work.workItemId ≤ other.workItemId).filterM
    (k.isEligible allowedWorkItemIds)

end Kernel

namespace Dispatcher

/-! ### Planning a dispatch -/

section Plan

variable (d : Dispatcher) (call : DispatchCall)

/-- The binding and the candidate of an eligible work item. -/
def planWork (registry : OrderedDict String ModelCandidate)
    (bindingByNode : OrderedDict String PilotBinding)
    (publishedByRoute : OrderedDict String RouteSnapshot) (work : WorkItem) :
    Except VsmError PlannedWork := do
  let binding ← found (bindingByNode.get? work.delegatedToNodeId)
    s!"no PilotBinding for delegated Node {work.delegatedToNodeId}"
  let snapshot ← found (publishedByRoute.get? work.routeKey)
    s!"no published RouteSnapshot for {work.routeKey}"
  require (snapshot.evidenceCursor = call.answers.evidenceCursor work.workItemId)
    s!"published RouteSnapshot is stale for {work.routeKey}"
  let candidateKey ← call.answers.selectProduction work.workItemId snapshot
  let candidate ← found (registry.get? candidateKey)
    "RouteSnapshot selected an unregistered ModelCandidate"
  call.answers.validateWorkCandidate candidate
  return ⟨work, binding, candidate⟩

/-- The part of `dispatch_ready` before its first write: what it is going to start. -/
def planDispatch : Except VsmError (List PlannedWork) := do
  d.system.kernel.activation.requireActive "dispatch"
  let registry ← found d.modelRegistry "dispatch requires an explicit production WorkExecutor"
  require (d.hasWorkExecutor = true) "dispatch requires an explicit production WorkExecutor"
  let bindingByNode := OrderedDict.ofList (call.bindings.map fun binding =>
    (binding.nodeId, binding))
  require (bindingByNode.keys.length = call.bindings.length)
    "PilotBinding node identities must be unique"
  let publishedByRoute ← d.system.kernel.publishedByRoute
  let eligible ← d.system.kernel.eligibleWork call.allowedWorkItemIds
  eligible.mapM (planWork call registry bindingByNode publishedByRoute)

/-! ### Preflight -/

/-- The states in which a selected work item is taken. -/
def preflightStates (allowOwnerConfirmedPrepare : Bool) : List WorkState :=
  if allowOwnerConfirmedPrepare then [.proposed, .ready, .paused] else [.ready]

/-- The checks of one selected work item; the answer is whether what it depends on is completed. -/
def preflightWork (registry : OrderedDict String ModelCandidate)
    (bindingByNode : OrderedDict String PilotBinding) (published : OrderedDict String RouteSnapshot)
    (allowedWorkItemIds : List String) (allowOwnerConfirmedPrepare : Bool) (workItemId : String) :
    Except VsmError Bool := do
  let work ← found (d.system.kernel.workItems.get? workItemId)
    s!"resume WorkItem is not ready: {workItemId}"
  require (work.state ∈ preflightStates allowOwnerConfirmedPrepare)
    s!"resume WorkItem is not ready: {workItemId}"
  require (bindingByNode.contains work.delegatedToNodeId = true)
    s!"resume WorkItem has no PilotBinding: {workItemId}"
  let dependencies := d.system.kernel.prerequisites workItemId
  let unavailable ← dependencies.anyM fun dependency =>
    if dependency ∈ allowedWorkItemIds then return false
    else do
      let prerequisite ← entry (d.system.kernel.workItems.get? dependency) dependency
      return prerequisite.state ≠ .completed
  require (unavailable = false)
    s!"resume WorkItem has an unavailable dependency: {workItemId}"
  let startable ← dependencies.allM fun dependency => do
    let prerequisite ← entry (d.system.kernel.workItems.get? dependency) dependency
    return prerequisite.state = .completed
  let snapshot ← found (published.get? work.routeKey)
    s!"resume WorkItem route is unavailable or stale: {workItemId}"
  require (snapshot.evidenceCursor = call.answers.evidenceCursor workItemId)
    s!"resume WorkItem route is unavailable or stale: {workItemId}"
  let candidateKey ← call.answers.selectProduction workItemId snapshot
  let candidate ← found (registry.get? candidateKey)
    "resume route selected an unregistered candidate"
  call.answers.validateWorkCandidate candidate
  return startable

/-- `preflight_ready` for the work items of the call. -/
def preflightReady (allowedWorkItemIds : List String) (allowOwnerConfirmedPrepare : Bool) :
    Except VsmError Unit := do
  require (allowedWorkItemIds ≠ []) "resume dispatch requires work IDs and production WorkExecutor"
  let registry ← found d.modelRegistry
    "resume dispatch requires work IDs and production WorkExecutor"
  require (d.hasWorkExecutor = true)
    "resume dispatch requires work IDs and production WorkExecutor"
  let bindingByNode := OrderedDict.ofList (call.bindings.map fun binding =>
    (binding.nodeId, binding))
  require (bindingByNode.keys.length = call.bindings.length)
    "PilotBinding node identities must be unique"
  let snapshots := d.system.kernel.routeSnapshots.values.filter (·.state = .published)
  let published := OrderedDict.ofList (snapshots.map fun snapshot => (snapshot.routeKey, snapshot))
  require (published.keys.length = snapshots.length)
    "multiple published RouteSnapshots for a route"
  let startable ← (allowedWorkItemIds.dedup.insertionSort (· ≤ ·)).mapM
    (d.preflightWork call registry bindingByNode published allowedWorkItemIds
      allowOwnerConfirmedPrepare)
  require (startable.count true ≠ 0) "resume selection has no dependency-ready WorkItem"

end Plan

/-! ### The event delta -/

/-- The counters of `_event_delta` while it reads the ledger. -/
structure DeltaScan where
  cursor : Nat
  counts : OrderedDict String Nat
  streams : List String

/-- Count one event. -/
def DeltaScan.count (scan : DeltaScan) (stored : StoredEvent) : DeltaScan where
  cursor := stored.cursor
  counts := scan.counts.tally stored.event.eventType
  streams := scan.streams.insert stored.event.streamId

/-- Count one event, which must be the next one. -/
def DeltaScan.countNext (scan : DeltaScan) (stored : StoredEvent) : Except VsmError DeltaScan := do
  require (stored.cursor = scan.cursor + 1) "Event Ledger cursor is not contiguous"
  return scan.count stored

/-- Read the ledger page by page to its end. The bound on the number of pages is never reached. -/
def scanEvents (ledger : InMemoryOperationalLedger) (afterCursor : Nat) :
    Except VsmError (Option DeltaScan) :=
  EventSourcing.rebuild DeltaScan.countNext DeltaScan.cursor
    (fun after => (ledger.events.drop after).take 500) (ledger.events.length + 1)
    ⟨afterCursor, .empty, []⟩

/-- What a worker is told about the events that were counted. -/
def DeltaScan.summary (scan : DeltaScan) (afterCursor : Nat) : EventDeltaSummary where
  afterCursor := afterCursor
  throughCursor := scan.cursor
  eventCount := scan.counts.values.sum
  eventTypeCounts := scan.counts.sortedByKey
  changedStreamIds := scan.streams.insertionSort (· ≤ ·)

/-- `_event_delta`: the events since the last delta; the cursor moves past them. -/
def eventDelta : DispatcherM EventDeltaSummary := do
  let d ← get
  match ← EStateM.ofExcept (scanEvents d.system.ledger d.eventDeltaCursor) with
  | none => throw (.raised "page bound")
  | some scan =>
    set { d with eventDeltaCursor := scan.cursor }
    return scan.summary d.eventDeltaCursor

/-! ### Starting executions -/

section Programs

variable [Sha256]

/-- A program of the system, run beside the dispatcher. -/
def onSystem {α : Type} (x : SystemM InMemoryOperationalLedger α) : DispatcherM α := EStateM.zoom x

/-- A Kernel command, run beside the dispatcher. -/
def onKernel (c : KernelCommand) (clock : Clock) : DispatcherM Unit := onSystem (c.run clock)

variable (call : DispatchCall)

/-- The agent name of a new execution, when there is a naming registry. -/
def allocateName (planned : PlannedWork) (executionId : Identifier) :
    DispatcherM (Option (AgentNameAssignment × AgentNameRegistry)) := do
  let d ← get
  match d.agentNamingRegistry with
  | none => return none
  | some registry =>
    let name ← EStateM.ofExcept (call.answers.issuedName planned.workItem.workItemId)
    let (assignment, registry) ← EStateM.ofExcept (registry.allocate name
      (call.answers.assignmentId planned.workItem.workItemId) planned.workItem.dataSpaceId
      planned.workItem.workItemId executionId planned.workItem.delegatedToNodeId
      planned.binding.pilotId planned.candidate)
    set { d with agentNamingRegistry := some registry }
    return some (assignment, registry)

/-- The execution of a planned work item, as it is requested. -/
def requestedExecution (planned : PlannedWork) (executionId : Identifier) : Execution where
  executionId := executionId
  dataSpaceId := planned.workItem.dataSpaceId
  nodeId := planned.workItem.delegatedToNodeId
  workItemId := planned.workItem.workItemId
  pilotId := planned.binding.pilotId
  modelCandidateKey := planned.candidate.key
  state := .requested
  providerSessionId := none
  pilotHostId := planned.binding.pilotHostId
  pauseReason := none
  agentName := none

/-- Create the execution of a planned work item, and record the name it was given. -/
def startExecution (planned : PlannedWork) (clock : Clock) : DispatcherM Execution := do
  let execution :=
    requestedExecution planned (call.answers.executionId planned.workItem.workItemId)
  let assigned ← allocateName call planned execution.executionId
  onKernel (.createExecution execution call.actorId
    s!"{call.idempotencyKey}:{planned.workItem.workItemId}") clock
  match assigned with
  | none => return execution
  | some (assignment, registry) =>
    onKernel (.recordAgentNameAssignment assignment registry "system:dispatcher"
      s!"{call.idempotencyKey}:{execution.executionId}:agent-name") fun reading =>
        clock (reading + 1)
    return { execution with agentName := some assignment.agentName }

/-- Create the executions of a plan one after the other. -/
def startExecutions : List PlannedWork → Clock → DispatcherM (List (Execution × PlannedWork))
  | [], _ => return []
  | planned :: rest, clock => do
    let execution ← startExecution call planned clock
    let executions ← startExecutions rest fun reading => clock (reading + 2)
    return (execution, planned) :: executions

/-- What a started execution is handed to the executor as. -/
def workRequest (delta : EventDeltaSummary) (started : Execution × PlannedWork) : WorkRequest where
  executionId := started.1.executionId
  workItem := started.2.workItem
  candidate := started.2.candidate
  eventDelta := delta
  idempotencyKey := s!"{call.idempotencyKey}:{started.1.executionId}:pilot"
  agentName := started.1.agentName

/-- Submit one execution to the pool. A pool that was shut down takes nothing. -/
def submit (delta : EventDeltaSummary) (started : Execution × PlannedWork) : DispatcherM PUnit := do
  let d ← get
  EStateM.ofExcept (Checked.check (d.closed = false)
    (.raised "cannot schedule new futures after shutdown"))
  set { d with
    requests := d.requests ++ [workRequest call delta started]
    futures := d.futures ++ [PendingExecution.mk started.1 call.idempotencyKey] }

/-- What the caller is told about a started execution. -/
def assignmentOf (started : Execution × PlannedWork) : DispatchAssignment where
  workItemId := started.2.workItem.workItemId
  executionId := started.1.executionId
  pilotId := started.1.pilotId
  pilotHostId := started.1.pilotHostId
  modelCandidateKey := started.1.modelCandidateKey
  agentName := started.1.agentName

/-- `dispatch_ready`. The delta is taken whether or not there is an execution to hand it to. -/
def dispatchReady (clock : Clock) : DispatcherM DispatchBatch := do
  let d ← get
  let planned ← EStateM.ofExcept (d.planDispatch call)
  let executions ← startExecutions call planned clock
  let delta ← eventDelta
  executions.forM (submit call delta)
  return DispatchBatch.mk (executions.map assignmentOf) executions.length executions.length

/-- `close`. -/
def close : DispatcherM Unit := modify fun d => { d with closed := true }

/-! ### Finishing executions -/

/-- The JSON object of an error that the dispatcher itself reports. -/
def errorObject (code message : String) : JsonObject :=
  "\x7b\"code\": \"" ++ code ++ "\", \"message\": \"" ++ message ++ "\"\x7d"

/-- The snapshot of the model that an execution was dispatched to. -/
def requestedModel (d : Dispatcher) (execution : Execution) :
    Except VsmError (Option NonBlank) := do
  let candidate ← entry (d.modelRegistry.bind (·.get? execution.modelCandidateKey))
    execution.modelCandidateKey
  return candidate.modelSnapshot

/-- A receipt that the dispatcher writes itself because the host gave none. -/
def ownReceipt (receiptId receiptStatus : String) (requestedModel : Option NonBlank)
    (error : JsonObject) : Kernel.PilotReceipt where
  receiptId := receiptId
  receiptStatus := receiptStatus
  requestedModel := requestedModel
  actualModel := none
  providerSessionId := none
  usage := none
  result := none
  error := some error

/-- The branch of `_finish_execution` for a host that cannot be reached: the outcome is unknown, and
the environment instance fails over. -/
def finishUnreachable (pending : PendingExecution) (receiptId : String)
    (requestReprovision : Except VsmError Unit) (clock : Clock) : DispatcherM Unit := do
  let d ← get
  let model ← EStateM.ofExcept (d.requestedModel pending.execution)
  onKernel (.recordPilotExecutionReceipt pending.execution.executionId
    (ownReceipt receiptId "transport_unknown" model (errorObject "ReceiptUnreachable"
      s!"PilotHost POST outcome and receipt {receiptId} are unreachable"))
    pending.execution.pilotId
    s!"{pending.idempotencyKey}:{pending.execution.executionId}:receipt-unreachable") clock
  match d.environmentFailover with
  | none => return
  | some process =>
    onSystem (failover process pending.execution.pilotHostId
      s!"{pending.idempotencyKey}:{pending.execution.executionId}:environment-failover"
      requestReprovision fun reading => clock (reading + 1))

/-- The branch of `_finish_execution` for an exception that nothing anticipated: a failed receipt,
or the bare transition when that receipt cannot be recorded. -/
def finishUnexpected (pending : PendingExecution) (message : String) (receiptId : Identifier)
    (clock : Clock) : DispatcherM Unit :=
  tryCatch
    (do
      let d ← get
      let model ← EStateM.ofExcept (d.requestedModel pending.execution)
      onKernel (.recordPilotExecutionReceipt pending.execution.executionId
        (ownReceipt receiptId "failed" model (errorObject "UnexpectedDispatchFailure" message))
        pending.execution.pilotId
        s!"{pending.idempotencyKey}:{pending.execution.executionId}:unexpected-dispatch-failure")
        clock)
    fun _ =>
      onKernel (.setExecutionState pending.execution.executionId .failed "system"
        pending.execution.pilotId
        s!"{pending.idempotencyKey}:{pending.execution.executionId}:unexpected-dispatch-failure"
        none) fun reading => clock (reading + 1)

/-- `_finish_execution` for the future in a position. The future is discarded whatever happens. -/
def finishExecution (position : Nat) (outcome : WorkOutcome) (clock : Clock) :
    DispatcherM Unit := do
  let d ← get
  match d.futures[position]? with
  | none => return
  | some pending =>
    set { d with futures := d.futures.eraseIdx position }
    match outcome with
    | .receipt receipt =>
      onKernel (.recordPilotExecutionReceipt pending.execution.executionId receipt
        pending.execution.pilotId
        s!"{pending.idempotencyKey}:{pending.execution.executionId}:receipt") clock
    | .unreachable receiptId requestReprovision =>
      finishUnreachable pending receiptId requestReprovision clock
    | .unexpected message receiptId => finishUnexpected pending message receiptId clock

end Programs

end Dispatcher

/-! ### Steps -/

/-- A step of the dispatcher: a dispatch, the completion of a future, or the shutdown. -/
inductive DispatcherInput where
  | dispatch (call : DispatchCall)
  | finish (position : Nat) (outcome : WorkOutcome)
  | close

def DispatcherInput.run [Sha256] (clock : Clock) : DispatcherInput → DispatcherM Unit
  | .dispatch call => do
    let _ ← Dispatcher.dispatchReady call clock
  | .finish position outcome => Dispatcher.finishExecution position outcome clock
  | .close => Dispatcher.close

end Nanihold
