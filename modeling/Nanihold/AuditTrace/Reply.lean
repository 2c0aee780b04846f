import Nanihold.Kernel.State
import Nanihold.ReplyAuthoring

/-!
# Audit traces of replies

`AuditTraceService.trace_reply`: from the supplemental records of LETHE, a draft with its author,
its one approval and its one send record. The work item and the execution are read out of the text
of the draft's lineage.

## Main definitions

* `ReplyLineage`, `matchLineage` — what the regular expression of a lineage captures.
* `DraftAttribution` — the author of a draft, with his work item and execution.
* `traceReply` — the trace.
-/

namespace Nanihold

/-- A record of LETHE. -/
abbrev Supplemental := List (PyScalar × PyValue)

/-! ### Fields of a record -/

/-- A string that is not empty. -/
def nonEmptyString : PyValue → Option String
  | .scalar (.str value) => if value = "" then none else some value
  | _ => none

/-- `_required_string`. -/
def requiredString (value : Option PyValue) (field context : String) : Except VsmError String :=
  found (value.bind nonEmptyString) s!"{context} requires a non-empty {field}"

/-- `validate_id`. -/
def validatedId (value : String) : Except VsmError String := do
  require (isIdentifier value = true) s!"invalid Nanihold identifier: '{value}'"
  return value

/-- `value.startswith("sup:")`. -/
def isSupplementalId (value : String) : Bool := "sup:".toList <+: value.toList

/-- `_record_id`. -/
def recordId (record : Supplemental) (context : String) : Except VsmError String := do
  let value ← requiredString (getName record "id") "id" context
  require (isIdentifier value = true) s!"{context} id must be a valid sup: identifier"
  require (isSupplementalId value = true) s!"{context} id must use the sup: namespace"
  return value

/-- `_kind`. -/
def recordKind (record : Supplemental) (context : String) : Except VsmError String :=
  requiredString (getName record "kind") "kind" context

/-- A list of strings that are not empty. -/
def nonEmptyStrings : PyValue → Option (List String)
  | .list items => items.mapM nonEmptyString
  | _ => none

/-- `_derived_supplementals`. -/
def derivedSupplementals (record : Supplemental) (context : String) :
    Except VsmError (List String) := do
  let derivedFrom ← found (asMapping (getName record "derived_from"))
    s!"{context} derived_from is malformed"
  found ((getName derivedFrom "supplementals").bind nonEmptyStrings)
    s!"{context} derived_from.supplementals is malformed"

/-! ### The author of a draft -/

/-- What a lineage captures. -/
structure ReplyLineage where
  workItemId : String
  executionId : String
  agentName : String
  deriving DecidableEq

/-- `_LINEAGE.fullmatch`. No group matches a slash, so the groups are parts between slashes. -/
def matchLineage (lineage : String) : Option ReplyLineage :=
  match lineage.toList.splitOn '/' with
  | [root, workItem, workItemId, execution, executionId, agent, agentName] =>
    if root = "nanihold".toList ∧ workItem = "work-item".toList ∧ workItemId ≠ [] ∧
        execution = "execution".toList ∧ executionId ≠ [] ∧ agent = "agent".toList ∧
        isNamePattern (String.ofList agentName) = true then
      some ⟨String.ofList workItemId, String.ofList executionId, String.ofList agentName⟩
    else none
  | _ => none

/-- The name behind `agent:`. -/
def agentOf (createdBy : String) : Option String :=
  if "agent:".toList <+: createdBy.toList then
    some (String.ofList (createdBy.toList.drop "agent:".length))
  else none

/-- The author that a draft names, in both places. -/
def replyAuthor (draft : Supplemental) : Except VsmError ReplyLineage := do
  let createdBy ← requiredString (getName draft "created_by") "created_by" "reply draft"
  let agentName ← found (agentOf createdBy) "reply draft created_by must identify an agent"
  require (agentName ≠ "") "reply draft created_by has no agent name"
  let lineage ← requiredString (getName draft "lineage") "lineage" "reply draft"
  let captured ← found (matchLineage lineage) "reply draft lineage does not match created_by"
  require (captured.agentName = agentName) "reply draft lineage does not match created_by"
  let workItemId ← validatedId captured.workItemId
  let executionId ← validatedId captured.executionId
  return ⟨workItemId, executionId, agentName⟩

/-- The one observation that a draft answers. -/
def replyAnchor (draft : Supplemental) : Except VsmError String := do
  let derivedFrom ← found (asMapping (getName draft "derived_from"))
    "reply draft derived_from is malformed"
  match getName derivedFrom "observations" with
  | some (.list [observation]) =>
    requiredString (some observation) "incoming observation id" "reply draft"
  | _ => throw (.invariantViolation "reply draft must anchor exactly one incoming observation")

/-- The channel of a draft. -/
def replyChannel (draft : Supplemental) : Except VsmError String := do
  let payload ← found (asMapping (getName draft "payload")) "reply draft payload is malformed"
  requiredString (getName payload "channel") "channel" "reply draft"

/-! ### The records of a draft -/

/-- One record more, under its id. -/
def indexRecord (indexed : OrderedDict String Supplemental) (record : PyValue) :
    Except VsmError (OrderedDict String Supplemental) := do
  let record ← found (asMapping (some record)) "supplemental audit records must be mappings"
  let recordKey ← recordId record "supplemental audit record"
  require (indexed.contains recordKey = false)
    s!"duplicate supplemental audit record: {recordKey}"
  return indexed.set recordKey record

/-- The records by their ids. -/
def indexRecords (records : List PyValue) : Except VsmError (OrderedDict String Supplemental) :=
  records.foldlM indexRecord .empty

/-- The record is of the kind and derived from the draft. -/
def isAnchored (kind context draftId : String) (record : Supplemental) :
    Except VsmError Bool := do
  let recordKind ← recordKind record "supplemental audit record"
  if recordKind = kind then
    let derived ← derivedSupplementals record context
    return draftId ∈ derived
  else return false

/-- The one record of a kind that is derived from the draft. -/
def anchoredRecord (kind context draftId message : String) (records : List Supplemental) :
    Except VsmError Supplemental := do
  let anchored ← records.filterM (isAnchored kind context draftId)
  match anchored with
  | [record] => return record
  | _ => throw (.invariantViolation message)

/-- The Kernel that a trace is checked against, with its `trace_execution`. -/
structure ReplyKernel where
  kernel : Kernel
  traceExecution : String → Except VsmError PyValue

/-- What the Kernel says of the author. -/
def executionAttribution (author : ReplyLineage) :
    Option ReplyKernel → Except VsmError (Option PyValue)
  | none => .ok none
  | some service => do
    let unknown := "reply draft lineage references an unknown WorkItem or Execution"
    let execution ← found (service.kernel.executions.get? author.executionId) unknown
    let _ ← found (service.kernel.workItems.get? author.workItemId) unknown
    require (execution.workItemId = author.workItemId)
      "reply draft lineage WorkItem and Execution do not match"
    require (execution.agentName = some author.agentName)
      "reply draft agent name does not match Execution attribution"
    let attribution ← service.traceExecution author.executionId
    return some attribution

/-! ### The trace -/

structure ReplyTrace where
  draftId : String
  incomingObservationId : String
  channel : String
  author : ReplyLineage
  approvalId : String
  sendRecordId : String
  messageRef : Option PyValue
  executionAttribution : Option PyValue

/-- The send record of a draft, checked against its approval. -/
def checkedDelivery (sendRecord : Supplemental) (approvalId channel : String) :
    Except VsmError (Option PyValue) := do
  let sendPayload ← found (asMapping (getName sendRecord "payload"))
    "send record payload is malformed"
  require (hasText sendPayload "approval_id" approvalId = true)
    "send record approval does not match draft approval"
  require (hasText sendPayload "mode" "approved" = true)
    "send record was not produced by approved delivery"
  require (hasText sendPayload "channel" channel = true)
    "send record channel does not match reply draft"
  return getName sendPayload "message_ref"

/-- `trace_reply`. -/
def traceReply (records : List PyValue) (draftId : String) (kernel : Option ReplyKernel) :
    Except VsmError ReplyTrace := do
  let draftId ← validatedId draftId
  let indexed ← indexRecords records
  let draft ← found (indexed.get? draftId) s!"reply draft not found: {draftId}"
  let kind ← recordKind draft "reply draft"
  require (kind = "reply-draft@1") "trace subject is not a reply-draft@1 record"
  let author ← replyAuthor draft
  let incomingObservationId ← replyAnchor draft
  let channel ← replyChannel draft
  let approval ← anchoredRecord "reply-approval@1" "reply approval" draftId
    "reply draft audit trace requires exactly one anchored approval" indexed.values
  let approvalId ← recordId approval "reply approval"
  let sendRecord ← anchoredRecord "send-record@1" "send record" draftId
    "reply draft audit trace requires exactly one anchored send record" indexed.values
  let sendRecordId ← recordId sendRecord "send record"
  let messageRef ← checkedDelivery sendRecord approvalId channel
  let executionAttribution ← executionAttribution author kernel
  return ⟨draftId, incomingObservationId, channel, author, approvalId, sendRecordId, messageRef,
    executionAttribution⟩

end Nanihold
