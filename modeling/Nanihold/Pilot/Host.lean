import Nanihold.Commands

/-!
# PilotHosts and their streams

The coordinator of `vsm.pilot.host` and the websocket session of `vsm.web.app`. A PilotHost
connects with the cursor it has acknowledged, acknowledges the events it is sent, and is
disconnected when its stream ends for whatever reason.

## Main definitions

* `PilotHostCoordinator` — the hosts that are or were connected.
* `PilotHostCoordinator.connect`, `PilotHostCoordinator.acknowledge` — a host's own steps.
* `disconnect`, `resumeExecution` — the steps that reach into the Kernel.
* `PilotStream` — the coordinator over a system, and the session whose stream is open.
* `openStream`, `acknowledgeStream`, `closeStream` — the parts of `pilot_stream`.
-/

namespace Nanihold

inductive PilotHostState where
  | connected | disconnected
  deriving DecidableEq

structure DeviceIdentity where
  pilotHostId : Identifier
  deviceId : Identifier
  certificateSha256 : String
  pilot_host_id_valid : isIdentifier pilotHostId = true
  deriving DecidableEq

/-- A host as the coordinator knows it. The cursor counts acknowledged events. -/
structure PilotHostStatus where
  identity : DeviceIdentity
  state : PilotHostState
  acknowledgedCursor : Int
  connectedAt : Option DateTime
  disconnectedAt : Option DateTime
  deriving DecidableEq

/-- The hosts of one registered device. -/
structure PilotHostCoordinator where
  expectedIdentity : DeviceIdentity
  hosts : OrderedDict String PilotHostStatus

namespace PilotHostCoordinator

def new (expectedIdentity : DeviceIdentity) : PilotHostCoordinator where
  expectedIdentity := expectedIdentity
  hosts := .empty

/-- `_validate_cursor`: zero, or the cursor of a stored event. -/
def validateCursor (ledger : InMemoryOperationalLedger) (cursor : Int) : Except VsmError Unit := do
  if cursor = 0 then
    return
  require (0 ≤ cursor - 1) "cursor must be non-negative and limit positive"
  let page ← ledger.page (cursor - 1).toNat 1
  require (page.head?.map (fun stored => (stored.cursor : Int)) = some cursor)
    "PilotHost acknowledged cursor does not exist in this DataSpace"

variable (c : PilotHostCoordinator)

/-- The checks against what is known of a host that connects again. -/
def requireContinued (identity : DeviceIdentity) (acknowledgedCursor : Int) :
    Option PilotHostStatus → Except VsmError Unit
  | none => .ok ()
  | some previous => do
    require (previous.identity = identity) "PilotHost device identity changed"
    require (previous.acknowledgedCursor ≤ acknowledgedCursor)
      "PilotHost cursor acknowledgement regressed"

/-- `connect`. -/
def connect (ledger : InMemoryOperationalLedger) (identity : DeviceIdentity)
    (acknowledgedCursor : Int) (connectedAt : DateTime) : Except VsmError PilotHostCoordinator := do
  require (identity = c.expectedIdentity) "PilotHost device identity is not registered"
  validateCursor ledger acknowledgedCursor
  requireContinued identity acknowledgedCursor (c.hosts.get? identity.pilotHostId)
  return { c with
    hosts := c.hosts.set identity.pilotHostId
      { identity := identity
        state := .connected
        acknowledgedCursor := acknowledgedCursor
        connectedAt := some connectedAt
        disconnectedAt := none } }

/-- The connected host of a name. -/
def requireConnected (pilotHostId message : String) : Except VsmError PilotHostStatus := do
  let host ← found (c.hosts.get? pilotHostId) message
  require (host.state = .connected) message
  return host

/-- `acknowledge`. -/
def acknowledge (ledger : InMemoryOperationalLedger) (pilotHostId : String) (cursor : Int) :
    Except VsmError PilotHostCoordinator := do
  let host ← c.requireConnected pilotHostId "PilotHost is not connected"
  require (host.acknowledgedCursor ≤ cursor) "PilotHost cursor acknowledgement regressed"
  validateCursor ledger cursor
  return { c with hosts := c.hosts.set pilotHostId { host with acknowledgedCursor := cursor } }

end PilotHostCoordinator

/-! ### Streams -/

/-- An open stream: its host, and the cursor after which the next page is read. -/
structure StreamSession where
  pilotHostId : String
  cursor : Int
  deriving DecidableEq

/-- The coordinator over a system, and the session whose stream is open. -/
structure PilotStream where
  system : System InMemoryOperationalLedger
  pilotHosts : PilotHostCoordinator
  session : Option StreamSession

/-- A program of the coordinator. -/
abbrev PilotStreamM (α : Type) := EStateM VsmError PilotStream α

instance : Component PilotStream (System InMemoryOperationalLedger) where
  read p := p.system
  write p s := { p with system := s }
  read_write _ _ := rfl
  write_write _ _ _ := rfl

namespace PilotStream

/-- The idempotency key under which a stream that ends at a cursor disconnects its host. -/
def disconnectKey (pilotHostId : String) (cursor : Int) : String :=
  s!"pilot-disconnect:{pilotHostId}:{cursor}"

/-- A program of the system, run beside the coordinator. -/
def onSystem {α : Type} (x : SystemM InMemoryOperationalLedger α) : PilotStreamM α := EStateM.zoom x

variable [Sha256]

/-- `disconnect`. -/
def disconnect (pilotHostId : String) (disconnectedAt : DateTime) (idempotencyKey : String)
    (clock : Clock) : PilotStreamM Unit := do
  let p ← get
  let host ← EStateM.ofExcept
    (p.pilotHosts.requireConnected pilotHostId "PilotHost is not connected")
  onSystem ((KernelCommand.pilotHostDisconnected pilotHostId idempotencyKey).run clock)
  modify fun p =>
    { p with
      pilotHosts.hosts := p.pilotHosts.hosts.set pilotHostId
        { host with state := .disconnected, disconnectedAt := some disconnectedAt } }

/-- `resume_execution`. -/
def resumeExecution (executionId pilotHostId actorId idempotencyKey : String) (clock : Clock) :
    PilotStreamM Unit := do
  let p ← get
  let _ ← EStateM.ofExcept
    (p.pilotHosts.requireConnected pilotHostId "PilotHost must reconnect before Execution resumes")
  let execution ← EStateM.ofExcept
    (found (p.system.kernel.executions.get? executionId) "Execution does not belong to PilotHost")
  EStateM.ofExcept
    (require (execution.pilotHostId = pilotHostId) "Execution does not belong to PilotHost")
  onSystem ((KernelCommand.setExecutionState executionId .active "pilot" actorId idempotencyKey
    none).run clock)

/-- The `finally` of `pilot_stream`: the session is over, and the host is disconnected when it is
still connected. -/
def closeStream (pilotHostId : String) (cursor : Int) (clock : Clock) : PilotStreamM Unit := do
  modify fun p => { p with session := none }
  let p ← get
  match p.pilotHosts.hosts.get? pilotHostId with
  | none => return
  | some host =>
    if host.state = .connected then
      disconnect pilotHostId (clock 0) (disconnectKey pilotHostId cursor)
        fun reading => clock (reading + 1)

/-- The greeting of `pilot_stream`: a host that connects has its stream open. -/
def openStream (pilotHostId : String) (identity : DeviceIdentity) (acknowledgedCursor : Int)
    (connectedAt : DateTime) : PilotStreamM Unit := do
  let p ← get
  EStateM.ofExcept (require (identity.pilotHostId = pilotHostId) "PilotHost identity mismatch")
  let pilotHosts ← EStateM.ofExcept
    (p.pilotHosts.connect p.system.ledger identity acknowledgedCursor connectedAt)
  set { p with pilotHosts := pilotHosts, session := some ⟨pilotHostId, acknowledgedCursor⟩ }

/-- An acknowledgement on the stream. The cursor is taken over before it is checked, and a refused
one ends the stream. -/
def acknowledgeStream (session : StreamSession) (cursor : Int) (clock : Clock) :
    PilotStreamM Unit := do
  let p ← get
  match p.pilotHosts.acknowledge p.system.ledger session.pilotHostId cursor with
  | .ok pilotHosts =>
    set { p with pilotHosts := pilotHosts, session := some { session with cursor := cursor } }
  | .error e =>
    closeStream session.pilotHostId cursor clock
    throw e

end PilotStream

end Nanihold
