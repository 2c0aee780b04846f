import Nanihold.Recording

/-!
# The lifecycle of environment instances

`vsm.environment_instance.EnvironmentInstanceService`: it attaches, registers, verifies,
activates and retires instances, and writes each change to the Operational Ledger it shares
with the Kernel. Failover records three events, or two and a request to a reprovisioner.

## Main definitions

* `EnvironmentInstanceService` — the instances and stream versions of one process.
* `EnvironmentInstanceService.register`, `EnvironmentInstanceService.verify`,
  `EnvironmentInstanceService.activate`, `EnvironmentInstanceService.retire`.
* `EnvironmentInstanceService.failoverRecordings` — the events of a failover, in order.
-/

namespace Nanihold

structure EnvironmentInstanceService where
  dataSpaceId : String
  instances : OrderedDict String EnvironmentInstance
  versions : OrderedDict String Nat
  deriving DecidableEq

namespace EnvironmentInstanceService

def new (dataSpaceId : String) : EnvironmentInstanceService := ⟨dataSpaceId, .empty, .empty⟩

instance : EventWriter EnvironmentInstanceService where
  dataSpaceId s := s.dataSpaceId
  version s streamId := s.versions.getD streamId 0
  advance s streamId result :=
    { s with versions := s.versions.set streamId result.streamVersion }

/-- `_record`: an event of a stream, followed by the assignments. -/
def recording (streamId : String) (payload : EnvironmentPayload) (idempotencyKey : String)
    (occurredAt : DateTime)
    (assign : EnvironmentInstanceService → EnvironmentInstanceService) :
    Recording EnvironmentInstanceService where
  streamId := streamId
  payload := .environment payload
  actorType := "system"
  actorId := none
  idempotencyKey := idempotencyKey
  correlationId := some streamId
  occurredAt := occurredAt
  update _ _ := modify assign

/-- Replace the instance under its identity. -/
def put (environmentInstance : EnvironmentInstance) (s : EnvironmentInstanceService) :
    EnvironmentInstanceService :=
  { s with instances := s.instances.set environmentInstance.instanceId environmentInstance }

variable (s : EnvironmentInstanceService)

/-- `_validate_instance_contract`. -/
def validateInstanceContract (environmentInstance : EnvironmentInstance)
    (contract : EnvironmentContract) : Except VsmError Unit := do
  require (environmentInstance.dataSpaceId = s.dataSpaceId)
    "EnvironmentInstance DataSpace mismatch"
  require (environmentInstance.environmentFingerprint = contract.environmentFingerprint)
    "EnvironmentInstance does not match the EnvironmentContract"
  require (environmentInstance.logicalPathBindings.keys.toFinset =
      contract.pathMappingNames.toFinset)
    "EnvironmentInstance logical path bindings do not match the contract"

/-- `_require_instance`. -/
def requireInstance (instanceId : String) : Except VsmError EnvironmentInstance :=
  found (s.instances.get? instanceId) s!"EnvironmentInstance not found: {instanceId}"

/-- `attach_active`: take over a commissioned instance and continue its stream, whose history
`readStream` reads. Nothing is recorded. -/
def attachActive (readStream : String → Nat → Nat → Except VsmError (List StoredEvent))
    (environmentInstance : EnvironmentInstance) (contract : EnvironmentContract) :
    Except VsmError EnvironmentInstanceService := do
  s.validateInstanceContract environmentInstance contract
  require (s.instances.contains environmentInstance.instanceId = false)
    s!"EnvironmentInstance already attached: {environmentInstance.instanceId}"
  let history ← readStream environmentInstance.instanceId 0 100000
  let attached := match history.getLast? with
    | none => s
    | some last =>
      { s with
        versions := s.versions.set environmentInstance.instanceId last.event.streamVersion }
  return put { environmentInstance with state := .active } attached

/-- `register`. -/
def register (environmentInstance : EnvironmentInstance) (contract : EnvironmentContract)
    (idempotencyKey : String) (clock : Clock) :
    Except VsmError (Recording EnvironmentInstanceService) := do
  s.validateInstanceContract environmentInstance contract
  require (environmentInstance.state = .candidate)
    "new EnvironmentInstance must be a candidate"
  require (s.instances.contains environmentInstance.instanceId = false)
    s!"EnvironmentInstance already exists: {environmentInstance.instanceId}"
  return recording environmentInstance.instanceId
    (.environmentInstanceRegistered environmentInstance
      environmentInstance.environmentFingerprint environmentInstance.instanceFingerprint)
    idempotencyKey (clock 0) (put environmentInstance)

/-- `verify`. -/
def verify (instanceId : String) (evidence : PreflightEvidence) (idempotencyKey : String)
    (clock : Clock) : Except VsmError (Recording EnvironmentInstanceService) := do
  let known ← s.requireInstance instanceId
  require (known.state ≠ .retired) "retired EnvironmentInstance cannot be verified"
  require (evidence.instanceFingerprint = known.instanceFingerprint)
    "preflight evidence instance fingerprint does not match EnvironmentInstance"
  require (evidence.verificationTuple.environmentFingerprint = known.environmentFingerprint)
    "preflight evidence environment fingerprint does not match EnvironmentInstance"
  if known.state = .candidate then
    let verified := { known with state := .verified }
    return recording known.instanceId (.environmentInstanceVerified verified evidence)
      idempotencyKey (clock 0) fun s => { s with instances := s.instances.set instanceId verified }
  else
    return recording known.instanceId (.environmentInstancePreflightVerified known evidence)
      idempotencyKey (clock 0) fun s => { s with instances := s.instances.set instanceId known }

/-- The idempotency key under which `preflight_evidence_hook` verifies. -/
def hookKey (prefixText : String) (evidence : PreflightEvidence) : String :=
  s!"{prefixText}:{evidence.verificationTuple.cliVersion}:{evidence.versionFileMtimeNs}"

/-- `preflight_evidence_hook`, bound to an instance and called with evidence. -/
def preflightEvidenceHook (instanceId idempotencyKeyPrefix : String)
    (evidence : PreflightEvidence) (clock : Clock) :
    Except VsmError (Recording EnvironmentInstanceService) := do
  let _ ← s.requireInstance instanceId
  require (idempotencyKeyPrefix.toList.any (fun c => !c.isWhitespace) = true)
    "preflight idempotency key prefix must not be blank"
  s.verify instanceId evidence (hookKey idempotencyKeyPrefix evidence) clock

/-- `activate`. -/
def activate (instanceId idempotencyKey : String) (clock : Clock) :
    Except VsmError (Recording EnvironmentInstanceService) := do
  let known ← s.requireInstance instanceId
  require (known.state = .verified) "only a verified EnvironmentInstance can be activated"
  let active := { known with state := .active }
  return recording known.instanceId (.environmentInstanceActivated active) idempotencyKey
    (clock 0) fun s => { s with instances := s.instances.set instanceId active }

/-- `retire`. -/
def retire (instanceId idempotencyKey : String) (clock : Clock) :
    Except VsmError (Recording EnvironmentInstanceService) := do
  let known ← s.requireInstance instanceId
  require (known.state ≠ .retired) "EnvironmentInstance is already retired"
  let retired := { known with state := .retired }
  return recording known.instanceId (.environmentInstanceRetired retired) idempotencyKey
    (clock 0) fun s => { s with instances := s.instances.set instanceId retired }

/-! ### Failover -/

/-- The prefix of an environment contract fingerprint. -/
def fingerprintPrefix : String := "environment-contract-sha256:"

/-- A fingerprint is its prefix followed by 64 lower-case hexadecimal digits. -/
def isEnvironmentFingerprint (fingerprint : String) : Bool :=
  let digest := fingerprint.toList.drop fingerprintPrefix.length
  decide (fingerprint.toList.take fingerprintPrefix.length = fingerprintPrefix.toList) &&
    decide (digest.length = 64) &&
    digest.all fun c => c.isDigit || (decide ('a' ≤ c) && decide (c ≤ 'f'))

/-- `_contract_stream_id`. -/
def contractStreamId (fingerprint : String) : Except VsmError String := do
  require (isEnvironmentFingerprint fingerprint = true)
    "environment_fingerprint must be an environment contract fingerprint"
  return "environment_contract:" ++
    String.ofList (fingerprint.toList.drop fingerprintPrefix.length)

/-- The verified instances of a contract, ordered by identity (`verified_instances`). -/
def verifiedInstances (fingerprint : String) : Except VsmError (List EnvironmentInstance) := do
  require (isEnvironmentFingerprint fingerprint = true)
    "environment_fingerprint must be an environment contract fingerprint"
  return (s.instances.values.filter fun known =>
      known.environmentFingerprint = fingerprint && known.state = .verified).mergeSort
    fun x y => decide (x.instanceId ≤ y.instanceId)

/-- The events of `failover`, in order, each with the assignments that follow it, and whether
the reprovisioner is called after them: it is when there is no verified peer. -/
def failoverRecordings (failedInstanceId idempotencyKey : String) (clock : Clock) :
    Except VsmError (List (Recording EnvironmentInstanceService) × Bool) := do
  let failed ← s.requireInstance failedInstanceId
  require (failed.state = .active) "failover requires an active EnvironmentInstance"
  let verified ← s.verifiedInstances failed.environmentFingerprint
  let contractStream ← contractStreamId failed.environmentFingerprint
  let failedRetired := { failed with state := .retired }
  match verified.filter (·.instanceId ≠ failedInstanceId) with
  | replacement :: _ =>
    let replacementActive := { replacement with state := .active }
    return ([
      recording contractStream
        (.environmentInstanceFailedOver failed.environmentFingerprint failed.instanceId
          failed.instanceFingerprint replacement.instanceId replacement.instanceFingerprint)
        idempotencyKey (clock 0) id,
      recording failed.instanceId (.environmentInstanceRetired failedRetired)
        s!"{idempotencyKey}:retire" (clock 1) id,
      recording replacement.instanceId (.environmentInstanceActivated replacementActive)
        s!"{idempotencyKey}:activate" (clock 2)
        fun s => put replacementActive (put failedRetired s)], false)
  | [] =>
    return ([
      recording failed.instanceId (.environmentInstanceRetired failedRetired)
        s!"{idempotencyKey}:retire" (clock 0) id,
      recording contractStream
        (.environmentInstanceReprovisionRequested failed.environmentFingerprint
          failed.instanceId failed.instanceFingerprint)
        idempotencyKey (clock 1) (put failedRetired)], true)

end EnvironmentInstanceService

end Nanihold
