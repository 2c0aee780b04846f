import Nanihold.Library.Program
import Nanihold.Library.Runs
import Nanihold.PilotHost.Codex

/-!
# The production PilotHost

`ProductionPilotHost.execute`: a request is validated, checked against the host and the environment,
entered in the table of receipts, handed to a provider, and its outcome is entered as well. The
receipts and the preflight cache outlive the host.

## Main definitions

* `ProductionPilotHost` — the host, with its two adapters and its preflight gate.
* `HostMemory` — what outlives the host, and the requests for which a provider was run.
* `ProductionPilotHost.execute` — `execute`, with the classification of failures.
* `HostStep` — a call of a host, or a restart.
-/

namespace Nanihold

inductive PermissionMode where
  | sandboxedBypass | managedPermissions | observeOnly
  deriving DecidableEq

/-- What a PilotHost reads of a turn, and the canonical JSON of all of it. -/
structure ClaudeTurnRequest where
  receiptId : String
  idempotencyKey : String
  deviceIdentity : DeviceIdentity
  candidate : HostCandidate
  permissionMode : PermissionMode
  maxBudgetUsd : Rat
  timeoutSeconds : Rat
  canonical : String

structure ClaudeAdapter where
  candidate : HostCandidate
  permissionMode : PermissionMode
  maxBudgetUsd : Rat
  timeoutSeconds : Rat

/-- `validate_request`. -/
def ClaudeAdapter.validateRequest (adapter : ClaudeAdapter) (request : ClaudeTurnRequest) :
    Except HostError Unit := do
  Checked.check (request.candidate = adapter.candidate)
    (.contract "requested Claude candidate differs from PilotHost")
  Checked.check (request.permissionMode = adapter.permissionMode)
    (.contract "requested permission mode differs from PilotHost")
  Checked.check (request.maxBudgetUsd ≤ adapter.maxBudgetUsd)
    (.contract "requested Claude budget exceeds the host maximum")
  Checked.check (request.timeoutSeconds ≤ adapter.timeoutSeconds)
    (.contract "requested Claude timeout exceeds the host maximum")

/-- A request as its data model has validated it. -/
inductive HostRequest where
  | turn (request : ClaudeTurnRequest)
  | work (request : WorkExecutionRequest)

namespace HostRequest

def receiptId : HostRequest → String
  | .turn request => request.receiptId
  | .work request => request.receiptId

def idempotencyKey : HostRequest → String
  | .turn request => request.idempotencyKey
  | .work request => request.idempotencyKey

def deviceIdentity : HostRequest → DeviceIdentity
  | .turn request => request.deviceIdentity
  | .work request => request.deviceIdentity

def candidate : HostRequest → HostCandidate
  | .turn request => request.candidate
  | .work request => request.candidate

def canonical : HostRequest → String
  | .turn request => request.canonical
  | .work request => request.canonical

/-- What `begin` is called with. -/
def receiptRequest [Sha256] (request : HostRequest) (endpoint : String) : ReceiptRequest where
  endpoint := endpoint
  receiptId := request.receiptId
  idempotencyKey := request.idempotencyKey
  requestSha256 := hexdigest (.text request.canonical)
  candidateKey := request.candidate.key
  requestedModel := request.candidate.modelSnapshot

end HostRequest

/-- `model_validate` of the three data models. -/
structure RequestModels (P : Type) where
  interfaceTurn : P → Option ClaudeTurnRequest
  reorientationTurn : P → Option ClaudeTurnRequest
  workExecution : P → Option WorkExecutionRequest

/-- The request that a payload is at an endpoint. -/
def RequestModels.validate {P : Type} (models : RequestModels P) (endpoint : String)
    (payload : P) : Except HostError HostRequest :=
  let invalid := HostError.contract "request violates the exact endpoint contract"
  if endpoint = "/v1/interface-turn" then
    HostRequest.turn <$> Checked.orRaise (models.interfaceTurn payload) invalid
  else if endpoint = "/v1/reorientation-turn" then
    HostRequest.turn <$> Checked.orRaise (models.reorientationTurn payload) invalid
  else if endpoint = "/v1/work-executions" then
    HostRequest.work <$> Checked.orRaise (models.workExecution payload) invalid
  else .error (.contract "undefined PilotHost endpoint")

/-! ### The host -/

structure ProductionPilotHost where
  identity : DeviceIdentity
  claude : ClaudeAdapter
  codex : CodexAdapter
  preflight : Option PreflightGate
  /-- `sys.platform == "win32"`. -/
  isWindows : Bool

/-- The surroundings of a call. -/
structure HostWorld where
  codex : CodexWorld
  /-- What `ClaudeAdapter.invoke` returns or raises. -/
  claude : Except InvocationFailure InvocationResult
  /-- The answers to a preflight. -/
  preflight : PreflightCall
  beganAt : String
  finishedAt : String

/-- What outlives the host; `invocations` lists the receipts for which a provider was run. -/
structure HostMemory where
  receipts : ReceiptStore
  cache : CacheFile
  invocations : List String

/-- The error that a preflight leaves `execute` with. -/
def preflightRejection : PreflightError → HostError
  | .trial message | .versionRead message | .contract message | .cache message =>
    .contract s!"preflight rejected the execution: {message}"
  | .foreign message => .raised message

/-- What a failed invocation enters in its receipt. -/
def InvocationFailure.outcome : InvocationFailure → ReceiptOutcome
  | .timeout => ⟨.failed, none, none, none, none,
      some ⟨"ProviderTimeout", "provider process exceeded the authorized timeout"⟩⟩
  | .provider code message usage actualModel providerSessionId =>
    ⟨.failed, actualModel, providerSessionId, usage, none, some ⟨code, message⟩⟩
  | .os => ⟨.failed, none, none, none, none,
      some ⟨"ProviderLaunchFailed", "provider process could not be launched"⟩⟩
  | .other => ⟨.failed, none, none, none, none,
      some ⟨"PilotHostInternalError", "PilotHost could not validate the provider result"⟩⟩

/-- What an invocation enters in its receipt. -/
def invocationOutcome : Except InvocationFailure InvocationResult → ReceiptOutcome
  | .ok invoked => ⟨.succeeded, some invoked.actualModel, some invoked.providerSessionId,
      some invoked.usage, some invoked.result, none⟩
  | .error failure => failure.outcome

namespace ProductionPilotHost

variable (host : ProductionPilotHost)

/-- The checks of the adapter that a request is for. -/
def validateRequest (world : HostWorld) : HostRequest → Except HostError Unit
  | .work request => do
    host.codex.validateRequest world.codex.resolve request
    Checked.check (¬ (host.isWindows = true ∧ host.codex.sandbox = .workspaceWrite ∧
        host.codex.win32CodexSandboxBypassEnabled = false ∧ host.preflight.isNone = true))
      (.contract
        "Windows workspace-write execution requires a successful EnvironmentContract preflight")
  | .turn request => host.claude.validateRequest request

/-- The preflight of a request, if the host has a gate; the result is the cache that it leaves. -/
def runPreflight (world : HostWorld) (request : HostRequest) (cache : CacheFile) :
    Except HostError CacheFile :=
  match host.preflight with
  | none => .ok cache
  | some gate =>
    match gate.dispatchPreflight { world.preflight with adapter := request.candidate.adapter }
        cache with
    | .ok result => .ok result.2
    | .error e => .error (preflightRejection e)

/-- The provider of a request is run. -/
def invoke (world : HostWorld) : HostRequest → Except InvocationFailure InvocationResult
  | .work request => host.codex.invoke world.codex request
  | .turn _ => world.claude

variable [Sha256] {P : Type} (models : RequestModels P)

/-- The checks of `execute` before it looks for a receipt. -/
def admission (endpoint : String) (payload : P) (world : HostWorld) (cache : CacheFile) :
    Except HostError (HostRequest × CacheFile) := do
  let request ← models.validate endpoint payload
  Checked.check (request.deviceIdentity = host.identity)
    (.contract "request device identity differs from PilotHost")
  host.validateRequest world request
  let cache ← host.runPreflight world request cache
  return (request, cache)

/-- `execute`, from the lookup of the receipt on. -/
def complete (endpoint : String) (world : HostWorld) (request : HostRequest) :
    EStateM HostError HostMemory ProviderReceipt := do
  let memory ← get
  let begun ← EStateM.ofExcept
    (memory.receipts.begin (request.receiptRequest endpoint) world.beganAt)
  set { memory with receipts := begun.store }
  if begun.created = false then return begun.receipt
  modify fun memory => { memory with invocations := memory.invocations ++ [request.receiptId] }
  let memory ← get
  let finished ← EStateM.ofExcept (memory.receipts.finish request.receiptId
    (invocationOutcome (host.invoke world request)) world.finishedAt)
  set { memory with receipts := finished.2 }
  return finished.1

/-- `execute`. -/
def execute (endpoint : String) (payload : P) (world : HostWorld) :
    EStateM HostError HostMemory ProviderReceipt := do
  let memory ← get
  let admitted ← EStateM.ofExcept (host.admission models endpoint payload world memory.cache)
  set { memory with cache := admitted.2 }
  host.complete endpoint world admitted.1

variable {host models} {endpoint : String} {payload : P} {world : HostWorld}
  {request : HostRequest} {memory : HostMemory}

/-- A request that is admitted leaves the cache of its preflight. -/
theorem execute_of_admission {cache : CacheFile}
    (h : host.admission models endpoint payload world memory.cache = .ok (request, cache)) :
    host.execute models endpoint payload world memory =
      host.complete endpoint world request { memory with cache := cache } := by
  rw [execute, EStateM.run_get_bind, h]
  rfl

theorem execute_of_refused {e : HostError}
    (h : host.admission models endpoint payload world memory.cache = .error e) :
    host.execute models endpoint payload world memory = .error e memory := by
  rw [execute, EStateM.run_get_bind, h]
  rfl

/-- **A stored receipt** of the request is returned, and no provider is run. -/
theorem complete_of_storedFor {receipt : ProviderReceipt}
    (h : memory.receipts.StoredFor (request.receiptRequest endpoint) receipt) :
    host.complete endpoint world request memory = .ok receipt memory := by
  rw [complete, EStateM.run_get_bind, ReceiptStore.begin_of_storedFor h]
  rfl

/-- A request that the table refuses changes nothing. -/
theorem complete_of_conflict {e : HostError}
    (h : memory.receipts.begin (request.receiptRequest endpoint) world.beganAt = .error e) :
    host.complete endpoint world request memory = .error e memory := by
  rw [complete, EStateM.run_get_bind, h]
  rfl

/-- The memory in which the provider of a new request is run. -/
def begunMemory (endpoint : String) (world : HostWorld) (request : HostRequest)
    (memory : HostMemory)
    (hnew : memory.receipts.existing request.receiptId request.idempotencyKey = none) :
    HostMemory where
  receipts := memory.receipts.insert ((request.receiptRequest endpoint).body world.beganAt) hnew
  cache := memory.cache
  invocations := memory.invocations ++ [request.receiptId]

theorem storedFor_begunMemory
    (hnew : memory.receipts.existing request.receiptId request.idempotencyKey = none) :
    (begunMemory endpoint world request memory hnew).receipts.StoredFor
      (request.receiptRequest endpoint) ((request.receiptRequest endpoint).body world.beganAt) :=
  ⟨(ReceiptStore.get?_insert hnew _).trans (if_pos rfl), rfl, rfl⟩

variable (host endpoint world request memory) in
/-- **A new request** is entered, its provider is run, and the outcome is entered if it can be
written. -/
theorem complete_of_new
    (hnew : memory.receipts.existing request.receiptId request.idempotencyKey = none) :
    (∀ receipt store, (begunMemory endpoint world request memory hnew).receipts.finish
        request.receiptId (invocationOutcome (host.invoke world request)) world.finishedAt =
          .ok (receipt, store) →
      host.complete endpoint world request memory = .ok receipt
        { begunMemory endpoint world request memory hnew with receipts := store }) ∧
    (∀ e, (begunMemory endpoint world request memory hnew).receipts.finish
        request.receiptId (invocationOutcome (host.invoke world request)) world.finishedAt =
          .error e →
      host.complete endpoint world request memory = .error e
        (begunMemory endpoint world request memory hnew)) := by
  have hbegin : memory.receipts.begin (request.receiptRequest endpoint) world.beganAt =
      .ok ⟨_, true, memory.receipts.insert _ hnew⟩ := ReceiptStore.begin_of_new hnew
  have hcomplete : host.complete endpoint world request memory =
      (EStateM.ofExcept ((begunMemory endpoint world request memory hnew).receipts.finish
          request.receiptId (invocationOutcome (host.invoke world request)) world.finishedAt) >>=
        fun finished => do
          set { begunMemory endpoint world request memory hnew with receipts := finished.2 }
          return finished.1) (begunMemory endpoint world request memory hnew) := by
    rw [complete, EStateM.run_get_bind, hbegin]
    rfl
  constructor
  · intro receipt store h
    rw [hcomplete, h]
    rfl
  · intro e h
    rw [hcomplete, h]
    rfl

end ProductionPilotHost

/-- What happens to the memory: a call of a host, or its restart. -/
inductive HostStep (P : Type) where
  | execute (host : ProductionPilotHost) (endpoint : String) (payload : P) (world : HostWorld)
  | restart (now : String)

/-- The memory after a step. -/
def HostStep.run [Sha256] {P : Type} (models : RequestModels P) (memory : HostMemory) :
    HostStep P → HostMemory
  | .execute host endpoint payload world =>
    (host.execute models endpoint payload world).finalState memory
  | .restart now => { memory with receipts := memory.receipts.recover now }

end Nanihold
