import Nanihold.Kernel.Models
import Nanihold.Library.OrderedDict

/-!
# Environment instances

The concrete execution location bound to a portable environment contract, and the evidence
of a successful preflight trial. A contract is known here by what the lifecycle reads of it:
its fingerprint and the names of its logical paths.

## Main definitions

* `EnvironmentContract` — fingerprint and path mapping names of a contract.
* `EnvironmentInstance`, `EnvironmentInstanceState` — a location and its lifecycle state.
* `PreflightEvidence` — the record of a successful preflight trial.
-/

namespace Nanihold

structure EnvironmentContract where
  /-- `environment_fingerprint(contract)`. -/
  environmentFingerprint : String
  pathMappingNames : List String
  deriving DecidableEq

inductive EnvironmentInstanceState where
  | candidate | verified | active | retired
  deriving DecidableEq

structure EnvironmentInstance where
  instanceId : Identifier
  dataSpaceId : Identifier
  environmentFingerprint : NonBlank
  logicalPathBindings : OrderedDict String String
  cliExecutablePath : NonBlank
  codexHome : NonBlank
  environmentVariables : OrderedDict String String
  machineIdentity : OrderedDict String String
  instanceFingerprint : String
  state : EnvironmentInstanceState
  deriving DecidableEq

structure VerificationTuple where
  adapter : String
  cliVersion : String
  sandboxMode : String
  environmentFingerprint : String
  deriving DecidableEq

structure PreflightEvidence where
  verificationTuple : VerificationTuple
  measuredSandboxPolicy : String
  measuredCapabilities : String
  instanceFingerprint : String
  checkedAt : String
  rolloutRef : Option String
  versionFile : String
  versionFileMtimeNs : Nat
  bridged : Bool
  deriving DecidableEq

end Nanihold
