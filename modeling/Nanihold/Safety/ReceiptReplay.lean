import Nanihold.PilotHost.Host
import Nanihold.Safety.PreflightCache

/-!
# Requests that are sent again

A PilotHost answers a request that it knows with the stored receipt. It looks for the receipt after
it has checked the request against its adapters and its environment, so a request that is sent again
is judged by the conditions of a new run.

## Main definitions

* `HoldsReceipt` — the memory holds the receipt of a request.
* `ReplaysReceipt` — the call returns the stored receipt and runs no provider.
* `AdmittedNow` — the request passes the checks of a new run.

## Main results

* `holdsReceipt_exec` — a stored receipt stays stored over every run.
* `replaysReceipt_iff` — the exact condition.
* `lost_version_file_breaks_replay` — a retry that fails.
-/

namespace Nanihold

variable [Sha256] {P : Type} {models : RequestModels P}

/-- **The memory holds the receipt** of a request at an endpoint. -/
def HoldsReceipt (endpoint : String) (request : HostRequest) (memory : HostMemory) : Prop :=
  ∃ receipt, memory.receipts.StoredFor (request.receiptRequest endpoint) receipt

/-! ### What a run keeps -/

section Keeps

variable {host : ProductionPilotHost} {endpoint : String} {payload : P} {world : HostWorld}
  {request : HostRequest} {memory : HostMemory}

/-- The end of a call keeps the receipts. -/
theorem keeps_complete (host : ProductionPilotHost) (endpoint : String) (world : HostWorld)
    (request : HostRequest) (memory : HostMemory) :
    memory.receipts.Keeps ((host.complete endpoint world request).finalState memory).receipts := by
  cases hbegin : memory.receipts.begin (request.receiptRequest endpoint) world.beganAt with
  | error e =>
    rw [EStateM.finalState_of_error (ProductionPilotHost.complete_of_conflict hbegin)]
    exact OrderedDict.Retains.refl _
  | ok begun =>
    rcases ReceiptStore.begin_eq_ok hbegin with ⟨-, -, hstored⟩ | ⟨hnew, -⟩
    · rw [EStateM.finalState_of_ok (ProductionPilotHost.complete_of_storedFor hstored)]
      exact OrderedDict.Retains.refl _
    · obtain ⟨hok, herror⟩ :=
        ProductionPilotHost.complete_of_new host endpoint world request memory hnew
      have hinsert : memory.receipts.Keeps
          (ProductionPilotHost.begunMemory endpoint world request memory hnew).receipts :=
        ReceiptStore.keeps_insert hnew
      cases hfinish : (ProductionPilotHost.begunMemory endpoint world request memory
          hnew).receipts.finish request.receiptId
          (invocationOutcome (host.invoke world request)) world.finishedAt with
      | ok answer =>
        rw [EStateM.finalState_of_ok (hok answer.1 answer.2 hfinish)]
        exact hinsert.trans (ReceiptStore.keeps_finish hfinish)
      | error e =>
        rw [EStateM.finalState_of_error (herror e hfinish)]
        exact hinsert

/-- **One step** keeps the receipts. -/
theorem keeps_step (memory : HostMemory) (step : HostStep P) :
    memory.receipts.Keeps (HostStep.run models memory step).receipts := by
  cases step with
  | restart now => exact ReceiptStore.keeps_recover
  | execute host endpoint payload world =>
    rw [HostStep.run]
    cases hadmission : host.admission models endpoint payload world memory.cache with
    | error e =>
      rw [EStateM.finalState_of_error (ProductionPilotHost.execute_of_refused hadmission)]
      exact OrderedDict.Retains.refl _
    | ok admitted =>
      rw [EStateM.finalState, ProductionPilotHost.execute_of_admission hadmission]
      exact keeps_complete host endpoint world admitted.1 { memory with cache := admitted.2 }

/-- **A stored receipt stays stored** over every run, whatever hosts serve it. -/
theorem holdsReceipt_exec (steps : List (HostStep P)) (h : HoldsReceipt endpoint request memory) :
    HoldsReceipt endpoint request (Run.exec (HostStep.run models) memory steps) := by
  refine Run.exec_invariant (fun memory step h => ?_) steps h
  obtain ⟨receipt, hstored⟩ := h
  exact (keeps_step memory step).storedFor hstored

end Keeps

/-! ### The condition -/

section Replay

variable {host : ProductionPilotHost} {endpoint : String} {payload : P} {world : HostWorld}
  {request : HostRequest} {memory : HostMemory}

/-- **The request passes the checks of a new run**: it is for this host, its adapter accepts it, and
the preflight finds or makes evidence. -/
structure AdmittedNow (host : ProductionPilotHost) (world : HostWorld) (cache : CacheFile)
    (request : HostRequest) : Prop where
  identity : request.deviceIdentity = host.identity
  accepted : host.validateRequest world request = .ok ()
  preflight : ∃ cache', host.runPreflight world request cache = .ok cache'

/-- **The call replays the receipt**: it returns what is stored, leaves the receipts alone and runs
no provider. -/
def ReplaysReceipt (models : RequestModels P) (host : ProductionPilotHost) (endpoint : String)
    (payload : P) (world : HostWorld) (request : HostRequest) (memory : HostMemory) : Prop :=
  ∃ receipt after, memory.receipts.StoredFor (request.receiptRequest endpoint) receipt ∧
    host.execute models endpoint payload world memory = .ok receipt after ∧
    after.receipts = memory.receipts ∧ after.invocations = memory.invocations

omit [Sha256] in
theorem admission_eq_ok_iff {cache : CacheFile} {answer : HostRequest × CacheFile}
    (hvalidate : models.validate endpoint payload = .ok request) :
    host.admission models endpoint payload world cache = .ok answer ↔
      request.deviceIdentity = host.identity ∧ host.validateRequest world request = .ok () ∧
        ∃ cache', host.runPreflight world request cache = .ok cache' ∧
          (request, cache') = answer := by
  rw [ProductionPilotHost.admission, hvalidate]
  refine Checked.check_bind_eq_ok_iff.trans (and_congr_right fun _ => ?_)
  rw [Checked.bind_eq_ok_iff]
  constructor
  · rintro ⟨_, haccepted, h⟩
    obtain ⟨cache', hpreflight, h⟩ := Checked.bind_eq_ok_iff.mp h
    exact ⟨haccepted, cache', hpreflight, Except.ok.inj h⟩
  · rintro ⟨haccepted, cache', hpreflight, rfl⟩
    exact ⟨(), haccepted, Checked.bind_eq_ok_iff.mpr ⟨cache', hpreflight, rfl⟩⟩

/-- A stored receipt is replayed exactly if the request is admitted. -/
theorem replaysReceipt_iff_admittedNow
    (hvalidate : models.validate endpoint payload = .ok request)
    (hholds : HoldsReceipt endpoint request memory) :
    ReplaysReceipt models host endpoint payload world request memory ↔
      AdmittedNow host world memory.cache request := by
  constructor
  · rintro ⟨receipt, after, -, hexecute, -⟩
    cases hadmission : host.admission models endpoint payload world memory.cache with
    | error e =>
      cases hexecute.symm.trans (ProductionPilotHost.execute_of_refused hadmission)
    | ok answer =>
      obtain ⟨hidentity, haccepted, cache', hpreflight, -⟩ :=
        (admission_eq_ok_iff hvalidate).mp hadmission
      exact ⟨hidentity, haccepted, cache', hpreflight⟩
  · rintro ⟨hidentity, haccepted, cache', hpreflight⟩
    obtain ⟨receipt, hstored⟩ := hholds
    have hadmission : host.admission models endpoint payload world memory.cache =
        .ok (request, cache') :=
      (admission_eq_ok_iff hvalidate).mpr ⟨hidentity, haccepted, cache', hpreflight, rfl⟩
    refine ⟨receipt, { memory with cache := cache' }, hstored, ?_, rfl, rfl⟩
    rw [ProductionPilotHost.execute_of_admission hadmission]
    exact ProductionPilotHost.complete_of_storedFor hstored

/-- **The exact condition**: after every run, a request whose receipt is stored is answered with it
exactly if the request passes the checks of a new run. -/
theorem replaysReceipt_iff (hvalidate : models.validate endpoint payload = .ok request)
    (hholds : HoldsReceipt endpoint request memory) (later : List (HostStep P))
    (host : ProductionPilotHost) (world : HostWorld) :
    ReplaysReceipt models host endpoint payload world request
        (Run.exec (HostStep.run models) memory later) ↔
      AdmittedNow host world (Run.exec (HostStep.run models) memory later).cache request :=
  replaysReceipt_iff_admittedNow hvalidate (holdsReceipt_exec later hholds)

/-- **A call that returns** leaves the receipt of its request. -/
theorem holdsReceipt_of_execute (hvalidate : models.validate endpoint payload = .ok request)
    {receipt : ProviderReceipt} {after : HostMemory}
    (h : host.execute models endpoint payload world memory = .ok receipt after) :
    HoldsReceipt endpoint request after := by
  cases hadmission : host.admission models endpoint payload world memory.cache with
  | error e => cases h.symm.trans (ProductionPilotHost.execute_of_refused hadmission)
  | ok admitted =>
    obtain ⟨-, -, cache', -, rfl⟩ := (admission_eq_ok_iff hvalidate).mp hadmission
    rw [ProductionPilotHost.execute_of_admission hadmission] at h
    cases hbegin : memory.receipts.begin (request.receiptRequest endpoint) world.beganAt with
    | error e =>
      have hconflict : host.complete endpoint world request { memory with cache := cache' } =
          .error e _ := ProductionPilotHost.complete_of_conflict hbegin
      cases h.symm.trans hconflict
    | ok begun =>
      rcases ReceiptStore.begin_eq_ok hbegin with ⟨-, -, hstored⟩ | ⟨hnew, -⟩
      · have hreturned : host.complete endpoint world request { memory with cache := cache' } =
            .ok _ _ := ProductionPilotHost.complete_of_storedFor hstored
        cases h.symm.trans hreturned
        exact ⟨_, hstored⟩
      · obtain ⟨hok, herror⟩ := ProductionPilotHost.complete_of_new host endpoint world request
          { memory with cache := cache' } hnew
        cases hfinish : (ProductionPilotHost.begunMemory endpoint world request
            { memory with cache := cache' } hnew).receipts.finish request.receiptId
            (invocationOutcome (host.invoke world request)) world.finishedAt with
        | error e => cases h.symm.trans (herror e hfinish)
        | ok answer =>
          cases h.symm.trans (hok answer.1 answer.2 hfinish)
          exact (ReceiptStore.keeps_finish hfinish).storedFor
            (ProductionPilotHost.storedFor_begunMemory hnew)

end Replay

/-! ### A version file that is lost -/

section Example

omit [Sha256]

def companyHostDevice : DeviceIdentity where
  pilotHostId := "pilot-host:1"
  deviceId := "device:1"
  certificateSha256 := ""
  pilot_host_id_valid := by decide

def companyCodex : HostCandidate where
  key := "codex-cli@1.2.3"
  provider := "openai"
  modelSnapshot := some "gpt-1"
  adapter := "codex-cli"
  adapterVersion := "1.2.3"
  isExact := true
  effort := "high"
  toolset := []
  sandboxFingerprint := "sandbox:1"
  environmentFingerprint := companyContract.environmentFingerprint

def companyTokens : TokenBudget := ⟨1000, 1000, 2000, by decide⟩

/-- A host with a Codex adapter and a preflight gate. -/
def companyPilotHost : ProductionPilotHost where
  identity := companyHostDevice
  claude := ⟨{ companyCodex with adapter := "claude-code" }, .managedPermissions, 1, 60⟩
  codex := ⟨companyCodex, ["/work"], .workspaceWrite, false, companyTokens, 60⟩
  preflight := some companyGate
  isWindows := false

def companyWorkRequest : WorkExecutionRequest where
  receiptId := "receipt:1"
  idempotencyKey := "execution:1"
  deviceIdentity := companyHostDevice
  candidate := companyCodex
  unmetAcceptance := ["It works."]
  cwd := "/work"
  sandbox := .workspaceWrite
  tokenBudget := companyTokens
  timeoutSeconds := 30
  canonical := "\x7b\"receipt_id\":\"receipt:1\"\x7d"

/-- Every payload is the work request. -/
def companyModels : RequestModels Unit where
  interfaceTurn _ := none
  reorientationTurn _ := none
  workExecution _ := some companyWorkRequest

/-- A provider that does not answer in time, and what a preflight finds. -/
def companyWorld (preflight : PreflightCall) : HostWorld where
  codex := ⟨⟨fun _ => .error .decode, fun _ => none⟩, some, .error .timeout, fun _ => .ok []⟩
  claude := .error .other
  preflight := preflight
  beganAt := "2026-01-01T00:00:00+00:00"
  finishedAt := "2026-01-01T00:01:00+00:00"

/-- The CLI version file cannot be read any more. -/
def lostVersionFile : PreflightCall :=
  { companyTrial "workspace-write" false with versionFile := none }

def emptyMemory : HostMemory := ⟨.new, .absent, []⟩

/-- A request that is sent again after a restart of the host. -/
theorem replaysReceipt_company :
    letI := Sha256.polynomial
    ∃ memory, HoldsReceipt "/v1/work-executions" (.work companyWorkRequest) memory ∧
      (ReplaysReceipt companyModels companyPilotHost "/v1/work-executions" ()
          (companyWorld lostVersionFile) (.work companyWorkRequest)
          (Run.exec (HostStep.run companyModels) memory [.restart "2026-01-02T00:00:00+00:00"]) ↔
        AdmittedNow companyPilotHost (companyWorld lostVersionFile)
          (Run.exec (HostStep.run companyModels) memory
            [.restart "2026-01-02T00:00:00+00:00"]).cache (.work companyWorkRequest)) := by
  let := Sha256.polynomial
  have hholds : HoldsReceipt "/v1/work-executions" (.work companyWorkRequest)
      (ProductionPilotHost.begunMemory "/v1/work-executions"
        (companyWorld (companyTrial "workspace-write" false)) (.work companyWorkRequest)
        emptyMemory rfl) :=
    ⟨_, ProductionPilotHost.storedFor_begunMemory rfl⟩
  exact ⟨_, hholds, replaysReceipt_iff rfl hholds _ _ _⟩

/-- **A retry after the version file is lost** is refused, although its receipt is stored. -/
theorem lost_version_file_breaks_replay :
    letI := Sha256.polynomial
    ∃ receipt after, companyPilotHost.execute companyModels "/v1/work-executions" ()
        (companyWorld (companyTrial "workspace-write" false)) emptyMemory = .ok receipt after ∧
      HoldsReceipt "/v1/work-executions" (.work companyWorkRequest) after ∧
      ¬ ReplaysReceipt companyModels companyPilotHost "/v1/work-executions" ()
        (companyWorld lostVersionFile) (.work companyWorkRequest) after := by
  let := Sha256.polynomial
  have hreturns : (companyPilotHost.execute companyModels "/v1/work-executions" ()
      (companyWorld (companyTrial "workspace-write" false))).returns emptyMemory = true := by
    decide +kernel
  obtain ⟨receipt, hexecute⟩ := EStateM.exists_ok_of_returns hreturns
  have hholds : HoldsReceipt "/v1/work-executions" (.work companyWorkRequest) _ :=
    holdsReceipt_of_execute rfl hexecute
  refine ⟨receipt, _, hexecute, hholds, fun hreplays => ?_⟩
  obtain ⟨-, -, cache', hpreflight⟩ := (replaysReceipt_iff_admittedNow rfl hholds).mp hreplays
  cases hpreflight

end Example

end Nanihold
