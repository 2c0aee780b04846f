import Nanihold.Recording

/-!
# Owner bootstrap

The one-time bootstrap codes and browser sessions of `vsm.auth`. Only digests of codes and
tokens enter the ledger. The random code, token and identifiers of a call are its arguments.

## Main definitions

* `OwnerBootstrapService` — issued codes and opened sessions.
* `OwnerBootstrapService.issue`, `OwnerBootstrapService.exchange` — the two commands.
* `OwnerBootstrapService.authenticate` — the check of a session token.
-/

namespace Nanihold

structure OwnerBootstrapService where
  dataSpaceId : String
  ownerId : String
  codes : OrderedDict String BootstrapCodeRecord
  sessions : OrderedDict String BrowserSessionRecord
  version : Nat
  deriving DecidableEq

namespace OwnerBootstrapService

def new (dataSpaceId ownerId : String) : OwnerBootstrapService :=
  ⟨dataSpaceId, ownerId, .empty, .empty, 0⟩

/-- The stream of the owner authentication events. -/
def streamId (auth : OwnerBootstrapService) : String :=
  "owner-auth:" ++ afterColon auth.dataSpaceId

instance : EventWriter OwnerBootstrapService where
  dataSpaceId auth := auth.dataSpaceId
  version auth _ := auth.version
  advance auth _ result := { auth with version := result.streamVersion }

/-- `_record`: an event of the owner authentication stream, followed by the assignments. -/
def recording (auth : OwnerBootstrapService) (payload : OwnerAuthPayload)
    (idempotencyKey : String) (occurredAt : DateTime)
    (assign : OwnerBootstrapService → OwnerBootstrapService) :
    Recording OwnerBootstrapService where
  streamId := auth.streamId
  payload := .ownerAuth payload
  actorType := "system"
  actorId := none
  idempotencyKey := idempotencyKey
  correlationId := some auth.streamId
  occurredAt := occurredAt
  update _ _ := modify assign

variable [Sha256] (auth : OwnerBootstrapService)

/-- `_commissioned`, with the two reads of the Kernel as arguments. -/
def requireCommissioned (activationState : ActivationState) (ownerNodeExists : Bool) :
    Except VsmError Unit :=
  require (activationState ≠ .uncommissioned ∧ ownerNodeExists = true)
    "owner bootstrap requires commissioned history and owner node"

/-- Seconds in the unit of the clock. -/
def seconds (n : Int) : Int := n * 1000000

/-- `issue`. -/
def issue (activationState : ActivationState) (ownerNodeExists : Bool) (code : String)
    (bootstrapId : Identifier) (lifetimeSeconds : Int) (idempotencyKey : String)
    (clock : Clock) : Except VsmError (Recording OwnerBootstrapService) := do
  requireCommissioned activationState ownerNodeExists
  require (0 < lifetimeSeconds ∧ lifetimeSeconds ≤ 900)
    "bootstrap lifetime must be 1..900 seconds"
  let now := clock 0
  let record : BootstrapCodeRecord :=
    { bootstrapId := bootstrapId
      ownerId := auth.ownerId
      codeSha256 := hexdigest (.text code)
      issuedAt := now
      expiresAt := now + seconds lifetimeSeconds
      usedAt := none }
  return auth.recording (.ownerBootstrapIssued record) idempotencyKey (clock 1)
    fun auth => { auth with codes := auth.codes.set record.bootstrapId record }

/-- `exchange`. -/
def exchange (activationState : ActivationState) (ownerNodeExists : Bool)
    (code token : String) (sessionId : Identifier) (deviceId : String)
    (sessionLifetimeSeconds : Int) (idempotencyKey : String) (clock : Clock) :
    Except VsmError (Recording OwnerBootstrapService) := do
  requireCommissioned activationState ownerNodeExists
  require (deviceId.toList.any (fun c => !c.isWhitespace) = true)
    "owner browser device_id is required"
  require (0 < sessionLifetimeSeconds) "owner session lifetime must be positive"
  let now := clock 0
  let record ← found (auth.codes.values.find? (·.codeSha256 = hexdigest (.text code)))
    "owner bootstrap code is invalid"
  require (record.ownerId = auth.ownerId) "owner bootstrap code is invalid"
  require (record.usedAt = none) "owner bootstrap code was already used"
  require (now < record.expiresAt) "owner bootstrap code expired"
  if !isNonBlank deviceId then
    throw (.validationError "BrowserSessionRecord")
  let session : BrowserSessionRecord :=
    { sessionId := sessionId
      ownerId := auth.ownerId
      deviceId := deviceId
      tokenSha256 := hexdigest (.text token)
      issuedAt := now
      expiresAt := now + seconds sessionLifetimeSeconds
      state := .active }
  let used := { record with usedAt := some now }
  return auth.recording (.ownerBootstrapExchanged record.bootstrapId now session)
    idempotencyKey (clock 1)
    fun auth =>
      { auth with
        codes := auth.codes.set record.bootstrapId used
        sessions := auth.sessions.set session.sessionId session }

/-- `authenticate`: the device a session token was issued to. -/
def authenticate (token : String) (clock : Clock) : Except VsmError String := do
  let session ← found (auth.sessions.values.find? (·.tokenSha256 = hexdigest (.text token)))
    "owner browser session is invalid or expired"
  require (session.ownerId = auth.ownerId ∧ session.state = .active ∧ clock 0 < session.expiresAt)
    "owner browser session is invalid or expired"
  return session.deviceId

end OwnerBootstrapService

end Nanihold
