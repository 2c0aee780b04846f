import Mathlib.Data.List.DropRight
import Nanihold.AgentNaming.Table
import Nanihold.EnvironmentInstance.Service
import Nanihold.Library.PyValue
import Nanihold.Library.Runs
import Nanihold.Preflight.Versions

/-!
# The preflight gate

`vsm.preflight.PreflightGate`: before a dispatch it reads the CLI version, looks for evidence of
the same trial in its cache, and otherwise runs a trial, checks what was measured against the
contract and stores the evidence. The file system, the trial, the clock and the hooks are answered
by a request; an error leaves the cache file as it was.

## Main definitions

* `GateContract`, `PreflightGate` — the contract and the gate bound to it.
* `GateEvidence` — evidence as the gate builds it, with `GateEvidence.toDict` and `fromDict`.
* `CacheFile` — the cache file, with `CacheFile.load`.
* `PreflightGate.validateObservation`, `PreflightGate.findCached`, `store`,
  `PreflightGate.dispatchPreflight`.
-/

namespace Nanihold

/-! ### Text -/

/-- `value.strip()`. -/
def strip (value : String) : String :=
  String.ofList ((value.toList.dropWhile isSpace).rdropWhile isSpace)

/-- Text that is not empty and that `strip` leaves alone. -/
def IsTrimmed (value : String) : Prop := strip value = value ∧ value ≠ ""

instance (value : String) : Decidable (IsTrimmed value) := inferInstanceAs (Decidable (_ ∧ _))

private theorem dropWhile_of_prefix {p : Char → Bool} {l m : List Char} (h : l <+: m)
    (hm : m.dropWhile p = m) : l.dropWhile p = l := by
  cases l with
  | nil => rfl
  | cons c l =>
    obtain ⟨rest, rfl⟩ := h
    by_cases hc : p c = true
    · have hlength := congrArg List.length hm
      rw [List.cons_append, List.dropWhile_cons_of_pos hc, List.length_cons] at hlength
      have hle := List.length_dropWhile_le p (l ++ rest)
      omega
    · exact List.dropWhile_cons_of_neg hc

theorem strip_strip (value : String) : strip (strip value) = strip value := by
  have hstripped := dropWhile_of_prefix
    (List.rdropWhile_prefix isSpace (value.toList.dropWhile isSpace))
    (List.dropWhile_idempotent isSpace value.toList)
  rw [strip, strip, String.toList_ofList, hstripped, List.rdropWhile_idempotent]

theorem isTrimmed_strip {value : String} (h : strip value ≠ "") : IsTrimmed (strip value) :=
  ⟨strip_strip value, h⟩

/-- Text without white space is left alone. -/
theorem strip_of_forall {value : String} (h : ∀ c ∈ value.toList, isSpace c = false) :
    strip value = value := by
  have hdrop : value.toList.dropWhile isSpace = value.toList := by
    rw [List.dropWhile_eq_self_iff]
    intro hlength
    rw [h _ (List.getElem_mem hlength)]
    exact Bool.false_ne_true
  rw [strip, hdrop, List.rdropWhile_eq_self_iff.mpr, String.ofList_toList]
  intro hne
  rw [h _ (List.getLast_mem hne)]
  exact Bool.false_ne_true

/-- `_nonblank`. -/
def nonblank (value : Option PyValue) (label : String) : Except PreflightError String :=
  match value with
  | some (.scalar (.str text)) => do
    Checked.check (strip text ≠ "") (.contract s!"{label} must be a non-blank string")
    return strip text
  | _ => throw (.contract s!"{label} must be a non-blank string")

/-! ### Values -/

/-- `mapping.get(name)`. -/
def getName (entries : List (PyScalar × PyValue)) (name : String) : Option PyValue :=
  entries.lookup (.str name)

/-- A dictionary with the given names. -/
def named (fields : List (String × PyValue)) : List (PyScalar × PyValue) :=
  fields.map fun field => (.str field.1, field.2)

def text (value : String) : PyValue := .scalar (.str value)

/-- `isinstance(value, Mapping)`. -/
def asMapping : Option PyValue → Option (List (PyScalar × PyValue))
  | some (.dict entries) => some entries
  | _ => none

/-- `isinstance(value, bool)`. -/
def asBool : Option PyValue → Option Bool
  | some (.scalar (.bool b)) => some b
  | _ => none

/-- `isinstance(value, int) and not isinstance(value, bool)`. -/
def asInt : Option PyValue → Option Int
  | some (.scalar (.int n)) => some n
  | _ => none

/-- `mapping.get(name, {})`, which must be a mapping. -/
def mappingOrEmpty (value : Option PyValue) (e : PreflightError) :
    Except PreflightError (List (PyScalar × PyValue)) :=
  match value with
  | none => .ok []
  | some value => Checked.orRaise (asMapping (some value)) e

/-- `mapping.get(name, False)`, which must be boolean. -/
def boolOrFalse (value : Option PyValue) (e : PreflightError) : Except PreflightError Bool :=
  match value with
  | none => .ok false
  | some value => Checked.orRaise (asBool (some value)) e

/-- Text that may be `None`, and is not blank otherwise. -/
def optionalNonblank (value : Option PyValue) (label : String) :
    Except PreflightError (Option String) :=
  match value with
  | none | some (.scalar .none) => .ok none
  | some value => some <$> nonblank (some value) label

/-! ### The contract -/

inductive SandboxMode where
  | readOnly | workspaceWrite
  deriving DecidableEq

def SandboxMode.value : SandboxMode → String
  | .readOnly => "read-only"
  | .workspaceWrite => "workspace-write"

structure AdapterRequirement where
  requiredEndpoints : List String
  minimumCliVersion : Option String
  minimum_isCliVersion : ∀ version ∈ minimumCliVersion, isCliVersion version = true

/-- The contract with all that the gate reads of it. -/
structure GateContract extends EnvironmentContract where
  supportedShells : List String
  workspaceWritable : Bool
  minimumMemoryMb : ℕ
  supportedSandboxes : List SandboxMode
  requiredSandbox : SandboxMode
  adapters : OrderedDict String AdapterRequirement
  fingerprint_wellFormed :
    EnvironmentInstanceService.isEnvironmentFingerprint environmentFingerprint = true
  required_supported : requiredSandbox ∈ supportedSandboxes

/-! ### The CLI version -/

structure CliVersion where
  version : String
  versionFile : String
  versionFileMtimeNs : Int

structure CliVersionReader where
  versionFile : String
  versionField : String
  /-- The file is named `package.json` or ends in `.json`. -/
  isJson : Bool

/-- What the file system answers while a version file is read. -/
structure VersionFile where
  mtimeBefore : Int
  mtimeAfter : Int
  raw : String
  /-- `json.loads(raw)`, if it is JSON. -/
  document : Option PyValue

/-- The version in a version file: a field of a JSON document, or the whole text. -/
def CliVersionReader.rawVersion (reader : CliVersionReader) (file : VersionFile) :
    Except PreflightError (Option PyValue) :=
  if reader.isJson then do
    let document ← Checked.orRaise file.document
      (.versionRead s!"CLI version file is not valid JSON: {reader.versionFile}")
    let fields ← Checked.orRaise (asMapping (some document))
      (.versionRead "CLI package version document must be an object")
    return getName fields reader.versionField
  else .ok (some (text (strip file.raw)))

/-- `CliVersionReader.read`; there is no file if it could not be read. -/
def CliVersionReader.read (reader : CliVersionReader) (file : Option VersionFile) :
    Except PreflightError CliVersion := do
  let file ← Checked.orRaise file
    (.versionRead s!"CLI version file could not be read: {reader.versionFile}")
  Checked.check (file.mtimeBefore = file.mtimeAfter)
    (.versionRead s!"CLI version file changed while it was being read: {reader.versionFile}")
  match ← reader.rawVersion file with
  | some (.scalar (.str version)) => do
    Checked.check (strip version ≠ "") (.versionRead
      s!"CLI version file does not contain a non-blank version: {reader.versionFile}")
    return ⟨strip version, reader.versionFile, file.mtimeBefore⟩
  | _ => throw (.versionRead
      s!"CLI version file does not contain a non-blank version: {reader.versionFile}")

/-! ### Observations and evidence -/

structure PreflightObservation where
  sandboxPolicy : String
  capabilities : List (PyScalar × PyValue)
  rolloutRef : Option String
  bridged : Bool

/-- What a runner returns. -/
inductive RawObservation where
  | observation (value : PreflightObservation)
  | mapping (entries : List (PyScalar × PyValue))
  | other

def flatCapabilities : List String :=
  ["workspace_writable", "endpoint_reachable", "memory_bytes", "shell", "path_mappings"]

/-- `merged = dict(capabilities); merged.update(flat)`. -/
def mergeFlat (capabilities value : List (PyScalar × PyValue)) : List (PyScalar × PyValue) :=
  let flat := value.filter fun entry => flatCapabilities.any fun name => entry.1 = .str name
  capabilities.filter (fun entry => !flat.any fun other => other.1 = entry.1) ++ flat

/-- The sandbox policy of a mapping, or else that of its rollout. -/
def measuredPolicy (value : List (PyScalar × PyValue)) : Option PyValue :=
  match getName value "sandbox_policy" with
  | none | some (.scalar .none) =>
    (asMapping (getName value "rollout")).bind fun rollout => getName rollout "sandbox_policy"
  | some policy => some policy

/-- `PreflightObservation.from_mapping`. -/
def PreflightObservation.fromMapping (value : List (PyScalar × PyValue)) :
    Except PreflightError PreflightObservation := do
  let sandboxPolicy ← nonblank (measuredPolicy value) "measured sandbox_policy"
  let capabilities ← mappingOrEmpty (getName value "capabilities")
    (.contract "preflight capabilities must be an object")
  let rolloutRef ← optionalNonblank (getName value "rollout_ref") "rollout_ref"
  let bridged ← boolOrFalse (getName value "bridged")
    (.contract "preflight bridged flag must be boolean")
  return ⟨sandboxPolicy, mergeFlat capabilities value, rolloutRef, bridged⟩

/-- `PreflightEvidence` as the gate builds it; the ledger keeps the capabilities as JSON text. -/
structure GateEvidence where
  verificationTuple : VerificationTuple
  measuredSandboxPolicy : String
  measuredCapabilities : List (PyScalar × PyValue)
  instanceFingerprint : String
  checkedAt : String
  rolloutRef : Option String
  versionFile : String
  versionFileMtimeNs : Int
  bridged : Bool

/-- `asdict(verification_tuple)`. -/
def VerificationTuple.asDict (verificationTuple : VerificationTuple) : PyValue :=
  .dict (named [("adapter", text verificationTuple.adapter),
    ("cli_version", text verificationTuple.cliVersion),
    ("sandbox_mode", text verificationTuple.sandboxMode),
    ("environment_fingerprint", text verificationTuple.environmentFingerprint)])

/-- `PreflightEvidence.to_dict`. -/
def GateEvidence.toDict (evidence : GateEvidence) : List (PyScalar × PyValue) :=
  named [("verification_tuple", evidence.verificationTuple.asDict),
    ("measured_sandbox_policy", text evidence.measuredSandboxPolicy),
    ("measured_capabilities", .dict evidence.measuredCapabilities),
    ("instance_fingerprint", text evidence.instanceFingerprint),
    ("checked_at", text evidence.checkedAt),
    ("rollout_ref", evidence.rolloutRef.elim (.scalar .none) text),
    ("version_file", text evidence.versionFile),
    ("version_file_mtime_ns", .scalar (.int evidence.versionFileMtimeNs)),
    ("bridged", .scalar (.bool evidence.bridged))]

/-- `PreflightEvidence.from_dict`. -/
def GateEvidence.fromDict (value : List (PyScalar × PyValue)) :
    Except PreflightError GateEvidence := do
  let rawTuple ← Checked.orRaise (asMapping (getName value "verification_tuple"))
    (.cache "preflight cache evidence has no verification tuple")
  let adapter ← nonblank (getName rawTuple "adapter") "cached adapter"
  let cliVersion ← nonblank (getName rawTuple "cli_version") "cached cli_version"
  let sandboxMode ← nonblank (getName rawTuple "sandbox_mode") "cached sandbox_mode"
  let environmentFingerprint ← nonblank (getName rawTuple "environment_fingerprint")
    "cached environment_fingerprint"
  let capabilities ← mappingOrEmpty (getName value "measured_capabilities")
    (.cache "cached measured_capabilities must be an object")
  let mtime ← Checked.orRaise (asInt (getName value "version_file_mtime_ns"))
    (.cache "cached version_file_mtime_ns is invalid")
  Checked.check (0 ≤ mtime) (.cache "cached version_file_mtime_ns is invalid")
  let bridged ← boolOrFalse (getName value "bridged")
    (.cache "cached bridged flag must be boolean")
  let policy ← nonblank (getName value "measured_sandbox_policy") "cached measured_sandbox_policy"
  let instanceFingerprint ← nonblank (getName value "instance_fingerprint")
    "cached instance_fingerprint"
  let checkedAt ← nonblank (getName value "checked_at") "cached checked_at"
  let rolloutRef ← optionalNonblank (getName value "rollout_ref") "cached rollout_ref"
  let versionFile ← nonblank (getName value "version_file") "cached version_file"
  return ⟨⟨adapter, cliVersion, sandboxMode, environmentFingerprint⟩, policy, capabilities,
    instanceFingerprint, checkedAt, rolloutRef, versionFile, mtime, bridged⟩

/-! ### The checks -/

/-- `set(value)` of a sequence, as far as a name can be in it. -/
def namesIn (items : List PyValue) : Except PreflightError (List PyScalar) := do
  Checked.check (PyValue.areHashable items = true) (.foreign "unhashable type")
  return items.filterMap fun item => match item with
    | .scalar s => some s
    | _ => none

/-- The required endpoints that were not measured as reachable. -/
def missingEndpoints (value : Option PyValue) (required : List String) :
    Except PreflightError (List String) :=
  match value with
  | some (.dict entries) => .ok <| required.filter fun endpoint =>
      asBool (getName entries endpoint) ≠ some true
  | some (.list items) | some (.tuple items) => do
    let reachable ← namesIn items
    return required.filter fun endpoint => .str endpoint ∉ reachable
  | _ => .ok required

/-- The names of the measured path mappings. -/
def measuredPathNames : Option PyValue → Except PreflightError (List PyScalar)
  | some (.dict entries) => .ok (entries.map Prod.fst)
  | some (.list items) | some (.tuple items) => namesIn items
  | _ => .ok []

/-- `capabilities.get("shell") in supported_shells`. -/
def shellSupported (value : Option PyValue) (supported : List String) : Bool :=
  match value with
  | some (.scalar (.str shell)) => shell ∈ supported
  | _ => false

/-- The measured memory reaches the minimum. -/
def memorySuffices (value : Option PyValue) (minimum : ℕ) : Bool :=
  match asInt value with
  | some memory => (minimum : Int) ≤ memory
  | none => false

/-- `_compare_versions(version, minimum) < 0`, if a minimum is required. -/
def belowMinimum (cliVersion : String) (minimum : Option String) : Except PreflightError Bool :=
  match minimum with
  | none => .ok false
  | some minimum => do
    let order ← compareVersions cliVersion minimum
    return order < 0

/-- `_validate_observation`. -/
def GateContract.validateObservation (contract : GateContract)
    (verificationTuple : VerificationTuple) (observation : PreflightObservation)
    (requirement : AdapterRequirement) : Except PreflightError Unit := do
  -- A bridged observation is recorded as unverified and passes the sandbox checks.
  if observation.bridged = false then
    Checked.check (observation.sandboxPolicy ∈ contract.supportedSandboxes.map SandboxMode.value)
      (.contract "measured sandbox_policy is not supported by the environment contract")
    Checked.check (observation.sandboxPolicy = verificationTuple.sandboxMode)
      (.contract "measured sandbox_policy differs from the required sandbox mode")
  let capabilities := observation.capabilities
  Checked.check (contract.workspaceWritable = true →
      asBool (getName capabilities "workspace_writable") = some true)
    (.contract "workspace write capability was not measured")
  let missing ← missingEndpoints (getName capabilities "endpoint_reachable")
    requirement.requiredEndpoints
  Checked.check (missing = []) (.contract ("required endpoints were not measured as reachable: " ++
    ", ".intercalate missing))
  Checked.check (memorySuffices (getName capabilities "memory_bytes")
      (contract.minimumMemoryMb * 1024 * 1024) = true)
    (.contract "minimum memory capability was not met")
  Checked.check (shellSupported (getName capabilities "shell") contract.supportedShells = true)
    (.contract "required shell capability was not measured")
  let names ← measuredPathNames (getName capabilities "path_mappings")
  let missingNames := contract.pathMappingNames.filter fun name => .str name ∉ names
  Checked.check (missingNames = []) (.contract ("required path mappings were not measured: " ++
    ", ".intercalate missingNames))
  let below ← belowMinimum verificationTuple.cliVersion requirement.minimumCliVersion
  Checked.check (below = false) (.contract "CLI version is below the contract minimum")

/-! ### The cache file -/

/-- A document that was loaded from JSON text. -/
structure JsonDocument where
  value : PyValue
  reloads : value.reload = some value

inductive CacheFile where
  | absent
  | unreadable
  | document (document : JsonDocument)

/-- `CACHE_SCHEMA_VERSION`. -/
def cacheSchemaVersion : Int := 2

/-- The entries of `_load`. -/
def CacheFile.load (cachePath : String) : CacheFile → Except PreflightError (List PyValue)
  | .absent => .ok []
  | .unreadable => throw (.cache s!"preflight cache could not be read: {cachePath}")
  | .document stored => do
    let raw ← Checked.orRaise (asMapping (some stored.value))
      (.cache "preflight cache schema version is unsupported")
    Checked.check (asInt (getName raw "schema_version") = some cacheSchemaVersion)
      (.cache "preflight cache schema version is unsupported")
    match getName raw "entries" with
    | some (.list entries) => return entries
    | _ => throw (.cache "preflight cache entries must be a list")

/-- What a lookup compares. -/
structure CacheKey where
  verificationTuple : VerificationTuple
  versionFileMtimeNs : Int
  instanceFingerprint : String
  deriving DecidableEq

def GateEvidence.key (evidence : GateEvidence) : CacheKey :=
  ⟨evidence.verificationTuple, evidence.versionFileMtimeNs, evidence.instanceFingerprint⟩

/-- The evidence of an entry. -/
def decodeEntry (entry : PyValue) : Except PreflightError GateEvidence := do
  let entry ← Checked.orRaise (asMapping (some entry))
    (.cache "preflight cache entry must be an object")
  let rawEvidence ← Checked.orRaise (asMapping (getName entry "evidence"))
    (.cache "preflight cache entry has no evidence object")
  GateEvidence.fromDict rawEvidence

/-- The loop of `_find_cached`: the first entry with the key; the entries before it are decoded. -/
def findEntry (key : CacheKey) : List PyValue → Except PreflightError (Option GateEvidence)
  | [] => .ok none
  | entry :: rest => do
    let evidence ← decodeEntry entry
    if evidence.key = key then return some evidence
    findEntry key rest

/-- `_find_cached`. -/
def CacheFile.find (cache : CacheFile) (cachePath : String) (key : CacheKey) :
    Except PreflightError (Option GateEvidence) := do
  findEntry key (← cache.load cachePath)

/-- `value.get(name) == expected`. -/
def hasText (value : List (PyScalar × PyValue)) (name expected : String) : Bool :=
  match getName value name with
  | some (.scalar (.str found)) => found = expected
  | _ => false

/-- `_same_verification_tuple`; it looks for the parts of the tuple in the evidence itself. -/
def sameVerificationTuple (value : Option PyValue) (expected : VerificationTuple) : Bool :=
  match asMapping value with
  | none => false
  | some value => hasText value "adapter" expected.adapter &&
      hasText value "cli_version" expected.cliVersion &&
      hasText value "sandbox_mode" expected.sandboxMode &&
      hasText value "environment_fingerprint" expected.environmentFingerprint

/-- The entries that `_store` keeps. -/
def isKept (verificationTuple : VerificationTuple) (entry : PyValue) : Bool :=
  match asMapping (some entry) with
  | none => false
  | some entry => !sameVerificationTuple (getName entry "evidence") verificationTuple

/-- The entry of some evidence. -/
def GateEvidence.entry (evidence : GateEvidence) : PyValue :=
  .dict (named [("verification_tuple", evidence.verificationTuple.asDict),
    ("version_file_mtime_ns", .scalar (.int evidence.versionFileMtimeNs)),
    ("evidence", .dict evidence.toDict)])

def cacheDocument (entries : List PyValue) : PyValue :=
  .dict (named [("schema_version", .scalar (.int cacheSchemaVersion)), ("entries", .list entries)])

/-- `json.dump`, and what a later `json.loads` reads. -/
def JsonDocument.dump (value : PyValue) : Except PreflightError JsonDocument :=
  match h : value.reload with
  | some copy => .ok ⟨copy, PyValue.reload_reload h⟩
  | none => throw (.foreign "the value cannot be written as JSON")

/-- `_store`; the file is replaced as a whole if it can be written. -/
def CacheFile.store (cache : CacheFile) (cachePath : String) (evidence : GateEvidence)
    (writable : Bool) : Except PreflightError CacheFile := do
  let entries ← cache.load cachePath
  let document ← JsonDocument.dump
    (cacheDocument (entries.filter (isKept evidence.verificationTuple) ++ [evidence.entry]))
  Checked.check (writable = true)
    (.cache s!"preflight cache could not be written atomically: {cachePath}")
  return .document document

/-! ### The gate -/

/-- Text that `_nonblank` returned. -/
def Trimmed := { value : String // IsTrimmed value }

structure PreflightGate where
  contract : GateContract
  instanceFingerprint : Trimmed
  versionReaders : OrderedDict String CliVersionReader
  preflightRunners : List String
  cachePath : String

/-- A call of `dispatch_preflight` and what its surroundings answer. -/
structure PreflightCall where
  adapter : String
  versionFile : Option VersionFile
  trial : Except PreflightError RawObservation
  /-- The time in UTC as ISO text, if the clock knows its time zone. -/
  clock : Option Trimmed
  updateDeclaration : GateEvidence → Except PreflightError Unit
  evidenceHook : GateEvidence → Except PreflightError Unit
  cacheWritable : Bool

structure PreflightResult where
  evidence : GateEvidence
  cacheHit : Bool

/-- A failure of another class is reported as a failed trial. -/
def orTrial {α : Type} (message : String) : Except PreflightError α → Except PreflightError α
  | .error (.foreign _) => .error (.trial message)
  | result => result

/-- Every failure is reported as a failed trial. -/
def alwaysTrial {α : Type} (message : String) : Except PreflightError α → Except PreflightError α
  | .error _ => .error (.trial message)
  | result => result

namespace PreflightGate

variable (gate : PreflightGate)

/-- The tuple that a trial verifies. -/
def verificationTuple (adapter : String) (cliVersion : CliVersion) : VerificationTuple where
  adapter := adapter
  cliVersion := cliVersion.version
  sandboxMode := gate.contract.requiredSandbox.value
  environmentFingerprint := gate.contract.environmentFingerprint

/-- What a lookup of the tuple compares. -/
def key (adapter : String) (cliVersion : CliVersion) : CacheKey :=
  ⟨gate.verificationTuple adapter cliVersion, cliVersion.versionFileMtimeNs,
    gate.instanceFingerprint.val⟩

/-- The observation of a trial. -/
def observe (trial : Except PreflightError RawObservation) :
    Except PreflightError PreflightObservation := do
  match ← orTrial "preflight trial could not be completed" trial with
  | .observation observation => return observation
  | .mapping entries => PreflightObservation.fromMapping entries
  | .other => throw (.contract "preflight trial returned a non-object")

/-- The evidence of an observation. -/
def evidenceOf (adapter : String) (cliVersion : CliVersion) (observation : PreflightObservation)
    (checkedAt : Trimmed) : GateEvidence where
  verificationTuple := gate.verificationTuple adapter cliVersion
  measuredSandboxPolicy := observation.sandboxPolicy
  measuredCapabilities := observation.capabilities
  instanceFingerprint := gate.instanceFingerprint.val
  checkedAt := checkedAt.val
  rolloutRef := observation.rolloutRef
  versionFile := cliVersion.versionFile
  versionFileMtimeNs := cliVersion.versionFileMtimeNs
  bridged := observation.bridged

/-- The trial of a call, up to its evidence. -/
def runTrial (adapter : String) (requirement : AdapterRequirement) (cliVersion : CliVersion)
    (call : PreflightCall) : Except PreflightError GateEvidence := do
  let observation ← observe call.trial
  gate.contract.validateObservation (gate.verificationTuple adapter cliVersion) observation
    requirement
  let checkedAt ← Checked.orRaise call.clock
    (.trial "preflight clock must return a timezone-aware datetime")
  return gate.evidenceOf adapter cliVersion observation checkedAt

/-- What a call asks: the adapter, what the contract requires of it, and its CLI version. -/
def request (call : PreflightCall) :
    Except PreflightError (String × AdapterRequirement × CliVersion) := do
  let adapter := strip call.adapter
  Checked.check (adapter ≠ "") (.contract "dispatch adapter must be a non-blank string")
  let requirement ← Checked.orRaise (gate.contract.adapters.get? adapter)
    (.contract s!"dispatch adapter is not declared by the environment contract: {adapter}")
  let reader ← Checked.orRaise (gate.versionReaders.get? adapter)
    (.contract s!"no CLI version reader is configured for adapter: {adapter}")
  Checked.check (adapter ∈ gate.preflightRunners)
    (.contract s!"no preflight runner is configured for adapter: {adapter}")
  let cliVersion ← reader.read call.versionFile
  return (adapter, requirement, cliVersion)

/-- `_dispatch_preflight`, with the cache file it leaves. -/
def dispatchPreflight (call : PreflightCall) (cache : CacheFile) :
    Except PreflightError (PreflightResult × CacheFile) := do
  let (adapter, requirement, cliVersion) ← gate.request call
  match ← cache.find gate.cachePath (gate.key adapter cliVersion) with
  | some evidence => return (⟨evidence, true⟩, cache)
  | none => do
    let evidence ← gate.runTrial adapter requirement cliVersion call
    orTrial "candidate declaration update failed" (call.updateDeclaration evidence)
    alwaysTrial "preflight evidence hook failed" (call.evidenceHook evidence)
    let cache ← cache.store gate.cachePath evidence call.cacheWritable
    return (⟨evidence, false⟩, cache)

end PreflightGate

end Nanihold
