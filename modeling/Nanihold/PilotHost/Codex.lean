import Nanihold.Library.Lines
import Nanihold.Pilot.Host
import Nanihold.Pilot.Models
import Nanihold.PilotHost.Receipts
import Nanihold.Preflight.Gate

/-!
# The Codex adapter

`CodexAdapter._parse`: what a run of Codex has printed, the final message and the session rollout
are read as lines of JSON and checked one after the other. The interpreter's JSON readers, the
directory of rollouts and the process itself answer as the surroundings do.

## Main definitions

* `HostTexts`, `CodexWorld` — the readers of JSON; the surroundings of a run.
* `StructuredWorkOutput.validate` — the final message.
* `CodexAdapter.validateRequest`, `CodexAdapter.parse`, `CodexAdapter.invoke`.
-/

namespace Nanihold

/-! ### Candidates and requests -/

/-- All of a model candidate. -/
structure HostCandidate extends ModelCandidate where
  adapter : String
  adapterVersion : String
  isExact : Bool
  effort : String
  toolset : List String
  sandboxFingerprint : String
  environmentFingerprint : String
  deriving DecidableEq

structure TokenBudget where
  maxInputTokens : Nat
  maxOutputTokens : Nat
  maxTotalTokens : Nat
  total_covers : maxInputTokens + maxOutputTokens ≤ maxTotalTokens
  deriving DecidableEq

/-- What a PilotHost reads of a work request, and the canonical JSON of all of it. -/
structure WorkExecutionRequest where
  receiptId : String
  idempotencyKey : String
  deviceIdentity : DeviceIdentity
  candidate : HostCandidate
  unmetAcceptance : List String
  cwd : String
  sandbox : SandboxMode
  tokenBudget : TokenBudget
  timeoutSeconds : Rat
  canonical : String

structure CodexAdapter where
  candidate : HostCandidate
  workingDirectories : List String
  sandbox : SandboxMode
  win32CodexSandboxBypassEnabled : Bool
  tokenLimits : TokenBudget
  timeoutSeconds : Rat

/-! ### Surroundings -/

/-- Why `json.loads` raises: `JSONDecodeError`, or an exception of another class. -/
inductive LoadsFailure where
  | decode | other
  deriving DecidableEq

/-- Why a file or a directory is not read: `OSError`, or an exception of another class. -/
inductive FileFailure where
  | os | other
  deriving DecidableEq

structure HostTexts where
  /-- `json.loads`. -/
  loads : String → Except LoadsFailure JsonValue
  /-- The JSON reader of `model_validate_json`. -/
  fromJson : String → Option JsonValue

structure CompletedProcess where
  stdout : String
  returncode : Int

/-- Why no result of a provider is there. -/
inductive InvocationFailure where
  /-- `ProviderInvocationError`. -/
  | provider (code message : String) (usage : Option JsonValue)
      (actualModel providerSessionId : Option PyText)
  /-- `TimeoutExpired`. -/
  | timeout
  /-- `OSError`. -/
  | os
  /-- An exception of another class. -/
  | other

/-- The surroundings of a run of Codex. -/
structure CodexWorld where
  texts : HostTexts
  /-- `str(Path(cwd).resolve())`, unless it raises. -/
  resolve : String → Option String
  /-- The process, and the final message that it leaves. -/
  process : Except InvocationFailure (CompletedProcess × String)
  /-- The files under the sessions directory that match a pattern, with their contents. -/
  rglob : PyText → Except FileFailure (List (Except FileFailure String))

/-- What an invocation returns. -/
structure InvocationResult where
  result : JsonValue
  actualModel : PyText
  usage : JsonValue
  providerSessionId : PyText

/-! ### Lines -/

/-- The characters other than a carriage return at which `str.splitlines` breaks. -/
def isLineBreak (c : Char) : Bool :=
  let n := c.toNat
  (10 ≤ n && n ≤ 12) || (28 ≤ n && n ≤ 30) || n == 0x85 || n == 0x2028 || n == 0x2029

/-- The lines of a text that are not blank. -/
def nonBlankLines (content : String) : List String :=
  ((Lines.split '\r' '\n' isLineBreak content.toList).map String.ofList).filter
    fun line => strip line ≠ ""

/-- `value.get("type") == name`. -/
def hasType (name : String) (event : JsonMembers) : Bool :=
  (event.get? "type").bind JsonValue.asText = some (.ofString name)

/-! ### The final message -/

structure AcceptanceResult where
  criterion : String
  satisfied : Bool
  evidenceRefs : List String
  deriving DecidableEq

structure StructuredWorkOutput where
  summary : String
  acceptanceResults : List AcceptanceResult
  artifactRefs : List String
  eventNotes : List String
  completed : Bool
  deriving DecidableEq

def AcceptanceResult.validate (value : JsonValue) : Option AcceptanceResult := do
  let fields ← value.fieldsOf ["criterion", "satisfied", "evidence_refs"]
  let criterion ← (fields.get? "criterion").bind JsonValue.nonEmptyText
  let satisfied ← (fields.get? "satisfied").bind JsonValue.laxBool
  let evidenceRefs ← (fields.get? "evidence_refs").bind (JsonValue.tupleOf JsonValue.modelText)
  return ⟨criterion, satisfied, evidenceRefs⟩

/-- `StructuredWorkOutput.model_validate`. -/
def StructuredWorkOutput.validate (value : JsonValue) : Option StructuredWorkOutput := do
  let fields ← value.fieldsOf
    ["summary", "acceptance_results", "artifact_refs", "event_notes", "completed"]
  let summary ← (fields.get? "summary").bind JsonValue.nonEmptyText
  let acceptanceResults ← (fields.get? "acceptance_results").bind
    (JsonValue.tupleOf AcceptanceResult.validate)
  let artifactRefs ← (fields.get? "artifact_refs").bind (JsonValue.tupleOf JsonValue.modelText)
  let eventNotes ← (fields.get? "event_notes").bind (JsonValue.tupleOf JsonValue.modelText)
  let completed ← (fields.get? "completed").bind JsonValue.laxBool
  return ⟨summary, acceptanceResults, artifactRefs, eventNotes, completed⟩

/-- `model_validate_json`. -/
def HostTexts.workOutput (texts : HostTexts) (resultText : String) :
    Option StructuredWorkOutput :=
  (texts.fromJson resultText).bind StructuredWorkOutput.validate

def AcceptanceResult.dump (result : AcceptanceResult) : JsonValue :=
  .object [("criterion", .str result.criterion), ("satisfied", .bool result.satisfied),
    ("evidence_refs", .list (result.evidenceRefs.map .str))]

/-- `model_dump(mode="json")`. -/
def StructuredWorkOutput.dump (output : StructuredWorkOutput) : JsonValue :=
  .object [("summary", .str output.summary),
    ("acceptance_results", .list (output.acceptanceResults.map AcceptanceResult.dump)),
    ("artifact_refs", .list (output.artifactRefs.map .str)),
    ("event_notes", .list (output.eventNotes.map .str)), ("completed", .bool output.completed)]

/-! ### Usage -/

structure CodexUsage where
  inputTokens : Nat
  cachedInputTokens : Nat
  outputTokens : Nat
  reasoningOutputTokens : Nat

namespace CodexUsage

variable (usage : CodexUsage)

def totalTokens : Nat := usage.inputTokens + usage.outputTokens

/-- The usage as `_validate_usage` returns it. -/
def report : JsonValue :=
  .object [("input_tokens", .int usage.inputTokens),
    ("cached_input_tokens", .int usage.cachedInputTokens),
    ("output_tokens", .int usage.outputTokens),
    ("reasoning_output_tokens", .int usage.reasoningOutputTokens),
    ("total_tokens", .int usage.totalTokens), ("model_substitution", .bool false)]

/-- The usage is within a budget. -/
def Within (budget : TokenBudget) : Prop :=
  usage.inputTokens ≤ budget.maxInputTokens ∧ usage.outputTokens ≤ budget.maxOutputTokens ∧
    usage.totalTokens ≤ budget.maxTotalTokens

instance (budget : TokenBudget) : Decidable (usage.Within budget) :=
  inferInstanceAs (Decidable (_ ∧ _))

end CodexUsage

/-- A usage that is not reported. -/
def usageMissing (message : String) (providerSessionId : PyText) : InvocationFailure :=
  .provider "ProviderUsageMissing" message none none (some providerSessionId)

/-- A count in a usage. -/
def usageCount (raw : JsonMembers) (name : String) (providerSessionId : PyText) :
    Except InvocationFailure Nat :=
  match (raw.get? name).bind JsonValue.asInteger with
  | some (.ofNat n) => .ok n
  | _ => .error (usageMissing s!"Codex exec did not report valid {name}" providerSessionId)

/-- `_validate_usage`; the names of a set come in no fixed order, here as they are written. -/
def validateUsage (raw : Option JsonValue) (providerSessionId : PyText) :
    Except InvocationFailure CodexUsage := do
  let raw ← Checked.orRaise (raw.bind JsonValue.asObject)
    (usageMissing "Codex exec did not report token usage" providerSessionId)
  Checked.check (raw.HasExactly ["input_tokens", "cached_input_tokens", "output_tokens",
      "reasoning_output_tokens"])
    (usageMissing "Codex exec token usage fields differ from the exact contract" providerSessionId)
  let inputTokens ← usageCount raw "input_tokens" providerSessionId
  let cachedInputTokens ← usageCount raw "cached_input_tokens" providerSessionId
  let outputTokens ← usageCount raw "output_tokens" providerSessionId
  let reasoningOutputTokens ← usageCount raw "reasoning_output_tokens" providerSessionId
  return ⟨inputTokens, cachedInputTokens, outputTokens, reasoningOutputTokens⟩

/-! ### The rollout -/

/-- A model that cannot be verified. -/
def unverifiable (message : String) (threadId : PyText) : InvocationFailure :=
  .provider "ActualModelUnverifiable" message none none (some threadId)

/-- The model and effort that a record of a rollout names. -/
def namedModelEffort (record : JsonValue) : Option (PyText × PyText) := do
  let record ← record.asObject.filter (hasType "turn_context")
  let payload ← (record.get? "payload").bind JsonValue.asObject
  let model ← (payload.get? "model").bind JsonValue.asText
  let effort ← (payload.get? "effort").bind JsonValue.asText
  return (model, effort)

/-- The pattern of the rollouts of a thread. -/
def rolloutPattern (threadId : PyText) : PyText :=
  .ofString "rollout-*-" ++ threadId ++ .ofString ".jsonl"

/-- A line of a rollout. -/
def loadsRecord (texts : HostTexts) (threadId : PyText) (line : String) :
    Except InvocationFailure JsonValue :=
  match texts.loads line with
  | .ok record => .ok record
  | .error .decode =>
    .error (unverifiable "Codex session rollout contained invalid JSONL" threadId)
  | .error .other => .error .other

/-- What the reading of a file raises. -/
def orUnverifiable {α : Type} (message : String) (threadId : PyText) :
    Except FileFailure α → Except InvocationFailure α
  | .ok a => .ok a
  | .error .os => .error (unverifiable message threadId)
  | .error .other => .error .other

/-- `_verify_actual_model_effort`. -/
def verifyActualModelEffort (world : CodexWorld) (threadId : PyText) :
    Except InvocationFailure (PyText × PyText) := do
  let found ← orUnverifiable "Codex session rollout directory could not be scanned" threadId
    (world.rglob (rolloutPattern threadId))
  Checked.check (found.length = 1)
    (unverifiable "Codex session rollout for the thread was not uniquely found" threadId)
  let file ← Checked.orRaise found.head? .other
  let content ← orUnverifiable
    "Codex session rollout could not be read for model verification" threadId file
  -- Each record that names a model and an effort takes the place of the one before.
  let named ← (nonBlankLines content).foldlM (fun named line => do
    let record ← loadsRecord world.texts threadId line
    return (namedModelEffort record).or named) none
  Checked.orRaise named
    (unverifiable "Codex session rollout did not report actual model and effort" threadId)

/-! ### The adapter -/

/-- A line of the standard output. -/
def loadsEvent (texts : HostTexts) (line : String) : Except InvocationFailure JsonMembers :=
  match texts.loads line with
  | .ok value => Checked.orRaise value.asObject (.provider "ProviderProtocolError"
      "Codex exec returned a non-object event" none none none)
  | .error .decode => .error (.provider "ProviderProtocolError"
      "Codex exec returned invalid JSONL" none none none)
  | .error .other => .error .other

/-- The id of the thread, if it is the only one and has an id. -/
def threadIdOf (events : List JsonMembers) : Option PyText :=
  match events.filter (hasType "thread.started") with
  | [thread] => ((thread.get? "thread_id").bind JsonValue.asText).filter (· ≠ [])
  | _ => none

namespace CodexAdapter

variable (adapter : CodexAdapter)

/-- `validate_request`. -/
def validateRequest (resolve : String → Option String) (request : WorkExecutionRequest) :
    Except HostError Unit := do
  Checked.check (request.candidate = adapter.candidate)
    (.contract "requested Codex candidate differs from PilotHost")
  let resolvedCwd ← Checked.orRaise (resolve request.cwd) (.raised "OSError")
  Checked.check (resolvedCwd ∈ adapter.workingDirectories)
    (.contract "requested Codex cwd is not in the exact allowlist")
  Checked.check (request.sandbox = adapter.sandbox)
    (.contract "requested Codex sandbox differs from PilotHost")
  Checked.check (request.tokenBudget.maxInputTokens ≤ adapter.tokenLimits.maxInputTokens ∧
      request.tokenBudget.maxOutputTokens ≤ adapter.tokenLimits.maxOutputTokens ∧
      request.tokenBudget.maxTotalTokens ≤ adapter.tokenLimits.maxTotalTokens)
    (.contract "requested Codex token budget exceeds host limits")
  Checked.check (request.timeoutSeconds ≤ adapter.timeoutSeconds)
    (.contract "requested Codex timeout exceeds the host maximum")

/-- What a run has reported before it is judged. -/
structure Report where
  usage : CodexUsage
  actualModel : PyText
  actualEffort : PyText
  providerSessionId : PyText

/-- A failure with what was reported. -/
def Report.failure (report : Report) (code message : String) : InvocationFailure :=
  .provider code message (some report.usage.report) (some report.actualModel)
    (some report.providerSessionId)

/-- `_parse`, up to the report. -/
def readReport (world : CodexWorld) (stdout : String) : Except InvocationFailure Report := do
  let events ← (nonBlankLines stdout).mapM (loadsEvent world.texts)
  let turns := events.filter (hasType "turn.completed")
  Checked.check ((events.filter (hasType "thread.started")).length = 1 ∧ turns.length = 1)
    (.provider "ProviderProtocolError"
      "Codex exec did not report one thread and one completed turn" none none (threadIdOf events))
  let providerSessionId ← Checked.orRaise (threadIdOf events) (.provider "ProviderProtocolError"
    "Codex exec did not report a thread ID" none none none)
  let actual ← verifyActualModelEffort world providerSessionId
  let usage ← validateUsage (turns.head?.bind fun turn => turn.get? "usage") providerSessionId
  return ⟨usage, actual.1, actual.2, providerSessionId⟩

/-- `_parse`, from the report on. -/
def judge (texts : HostTexts) (report : Report) (returncode : Int) (resultText : String)
    (request : WorkExecutionRequest) : Except InvocationFailure InvocationResult := do
  Checked.check (adapter.candidate.modelSnapshot.map PyText.ofString = some report.actualModel ∧
      report.actualEffort = .ofString adapter.candidate.effort)
    (report.failure "RequestedActualModelMismatch"
      "Codex actual model or reasoning effort differs from the request")
  Checked.check (returncode = 0) (report.failure "ProviderExecutionFailed"
    "Codex exec exited without a successful structured response")
  Checked.check (report.usage.Within request.tokenBudget) (report.failure "BudgetExceeded"
    "Codex reported token usage above the authorized budget")
  let structured ← Checked.orRaise (texts.workOutput resultText)
    (report.failure "ProviderProtocolError" "Codex final output violated the work output schema")
  Checked.check (structured.acceptanceResults.map AcceptanceResult.criterion =
      request.unmetAcceptance)
    (report.failure "AcceptanceCoverageMismatch"
      "Codex result did not cover unmet acceptance in request order")
  Checked.check (structured.completed = true →
      ∀ result ∈ structured.acceptanceResults, result.satisfied = true)
    (report.failure "FalseComplete" "Codex claimed completion with unsatisfied acceptance")
  return ⟨structured.dump, report.actualModel, report.usage.report, report.providerSessionId⟩

/-- `_parse`. -/
def parse (world : CodexWorld) (completed : CompletedProcess) (resultText : String)
    (request : WorkExecutionRequest) : Except InvocationFailure InvocationResult := do
  let report ← readReport world completed.stdout
  adapter.judge world.texts report completed.returncode resultText request

/-- `invoke`; a request that is not valid any more raises an exception of another class. -/
def invoke (world : CodexWorld) (request : WorkExecutionRequest) :
    Except InvocationFailure InvocationResult := do
  Checked.check ((adapter.validateRequest world.resolve request).isOk = true) .other
  let output ← world.process
  adapter.parse world output.1 output.2 request

end CodexAdapter

end Nanihold
