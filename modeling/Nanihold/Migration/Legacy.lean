import Nanihold.Kernel.Ledger
import Nanihold.Library.Counter

/-!
# The migration of legacy records

`import_plan` of `vsm.migration.legacy`: the records of the legacy event logs are appended to the
ledger under the streams that the owner assigned to their sources. The importer writes through
no service, so it asks the ledger for the version of a stream it has not written yet. The
digests of the dry run are not modelled.

## Main definitions

* `LegacyRecord`, `SourceAssignment` — a record with the texts it holds; the owner's assignment.
* `appendLegacy` — `_append`, with the versions the importer remembers.
* `importPlan` — a conversation for each source, and then an event for each record.

## Main results

* `expectedVersion_eq` — the importer expects the version at which a stream stands.
-/

namespace Nanihold

inductive LegacyKind where
  | conversation | decision | commitment | nodeMemory
  deriving DecidableEq

/-- The value of the enumeration member. -/
def LegacyKind.value : LegacyKind → String
  | .conversation => "conversation"
  | .decision => "decision"
  | .commitment => "commitment"
  | .nodeMemory => "node_memory"

structure SourceAssignment where
  ownerId : String
  interfaceNodeId : String
  conversationId : String
  nodeId : String
  ownerSenders : List String
  deriving DecidableEq

/-- A legacy record; `text` is what `_text` finds in it under the keys of its kind. -/
structure LegacyRecord where
  kind : LegacyKind
  source : String
  sourceFile : String
  lineNumber : Nat
  occurredAt : DateTime
  raw : Document
  sender : Option String
  text : String
  deriving DecidableEq

/-- `LegacyRecord.stable_key`. -/
def LegacyRecord.stableKey (record : LegacyRecord) : String :=
  s!"{record.sourceFile}:{record.lineNumber}:{record.kind.value}"

section Append

variable [Sha256]

/-- `_stable_id`. -/
def stableId (kind stableKey : String) : String :=
  kind ++ ":" ++ String.ofList ((hexdigest (.text stableKey)).toList.take 32)

/-- The envelope that `_append` builds, with the checks of its model. -/
def legacyEnvelope (dataSpaceId streamId : String) (expected : Nat) (occurredAt : DateTime)
    (actorType : ActorType) (actorId : Option String) (stableKey : String)
    (payload : InterfacePayload) : Except VsmError EventEnvelope :=
  if isIdentifier dataSpaceId && isIdentifier streamId && isIdentifierOrNone actorId then
    .ok
      { eventId := stableId "event" stableKey
        dataSpaceId := dataSpaceId
        streamId := streamId
        streamVersion := expected + 1
        occurredAt := occurredAt
        actorType := actorType
        actorId := actorId
        correlationId := some streamId
        causationId := none
        idempotencyKey := "legacy:" ++ hexdigest (.text stableKey)
        payload := .interface payload }
  else .error (.validationError "EventEnvelope")

variable {L : Type} [OperationalLedger L]

/-- The version of a stream that `_append` expects. -/
def legacyExpected (versions : OrderedDict String Nat) (streamId : String) (ledger : L) :
    Except VsmError Nat :=
  match versions.get? streamId with
  | some version => .ok version
  | none => do
    let existing ← OperationalLedger.stream ledger streamId 0 100000
    return match existing.getLast? with
      | some last => last.event.streamVersion
      | none => 0

/-- `_append`; the result is the dictionary of the versions written so far. -/
def appendLegacy (dataSpaceId streamId : String) (versions : OrderedDict String Nat)
    (occurredAt : DateTime) (actorType : ActorType) (actorId : Option String)
    (stableKey : String) (payload : InterfacePayload) :
    EStateM VsmError L (OrderedDict String Nat) := do
  let ledger ← get
  let expected ← EStateM.ofExcept (legacyExpected versions streamId ledger)
  let event ← EStateM.ofExcept (legacyEnvelope dataSpaceId streamId expected occurredAt actorType
    actorId stableKey payload)
  let result ← OperationalLedger.append event expected
  return versions.set streamId result.streamVersion

/-! ### The import -/

/-- The time of the first record of each source. -/
def firstBySource (records : List LegacyRecord) : OrderedDict String DateTime :=
  records.foldl (fun first record =>
    if first.contains record.source then first
    else first.set record.source record.occurredAt) .empty

/-- The conversation of a source, with the checks of its model. -/
def sourceConversation (assigned : SourceAssignment) (dataSpaceId source : String) :
    Except VsmError Conversation :=
  let title := s!"Imported history: {source}"
  if isIdentifier assigned.conversationId && isIdentifier dataSpaceId &&
      isIdentifier assigned.interfaceNodeId && isIdentifier assigned.ownerId &&
      isNonBlank title then
    .ok
      { conversationId := assigned.conversationId
        dataSpaceId := dataSpaceId
        interfaceNodeId := assigned.interfaceNodeId
        ownerId := assigned.ownerId
        title := title }
  else .error (.validationError "Conversation")

/-- The conversation of a source is created. -/
def importSource (assignments : OrderedDict String SourceAssignment) (dataSpaceId : String)
    (versions : OrderedDict String Nat) (source : String) (occurredAt : DateTime) :
    EStateM VsmError L (OrderedDict String Nat) := do
  let assigned ← EStateM.ofExcept (entry (assignments.get? source) source)
  let conversation ← EStateM.ofExcept (sourceConversation assigned dataSpaceId source)
  appendLegacy dataSpaceId assigned.conversationId versions occurredAt .human
    (some assigned.ownerId) s!"{source}:conversation" (.legacyConversationCreated conversation)

/-- The payload of a record and the stream it goes to; the data models refuse a text of
inadmissible length. -/
def legacyContent (assigned : SourceAssignment) (record : LegacyRecord) (rawBlobRef : String) :
    Except VsmError (InterfacePayload × String) :=
  match record.kind with
  | .conversation => do
    let byOwner := decide (∃ sender ∈ record.sender, sender ∈ assigned.ownerSenders)
    if !byOwner && !(decide (1 ≤ record.text.length) && decide (record.text.length ≤ 1200)) then
      throw (.validationError "ConversationMessage")
    let message : ConversationMessage :=
      { messageId := stableId "message" record.stableKey
        conversationId := assigned.conversationId
        role := if byOwner then .owner else .interface
        displayText := if byOwner then none else some record.text
        blobRef := if byOwner then some rawBlobRef else none
        occurredAt := record.occurredAt
        source := none }
    return (.legacyConversationMessageImported message rawBlobRef, assigned.conversationId)
  | .decision => do
    if !isNonBlank record.text then throw (.validationError "Decision")
    let decision : Decision :=
      { decisionId := stableId "decision" record.stableKey
        conversationId := assigned.conversationId
        statement := record.text
        supersedesDecisionId := none }
    return (.legacyDecisionImported decision rawBlobRef, assigned.conversationId)
  | .commitment => do
    if !isNonBlank record.text then throw (.validationError "Commitment")
    let commitment : Commitment :=
      { commitmentId := stableId "commitment" record.stableKey
        conversationId := assigned.conversationId
        statement := record.text
        workItemId := none
        state := .open }
    return (.legacyCommitmentImported commitment rawBlobRef, assigned.conversationId)
  | .nodeMemory => do
    if !isNonBlank record.text then throw (.validationError "NodeMemory")
    let memory : NodeMemory :=
      { memoryId := stableId "memory" record.stableKey
        nodeId := assigned.nodeId
        statement := record.text
        sourceBlobRef := rawBlobRef }
    return (.legacyNodeMemoryImported memory, assigned.nodeId)

/-- A record is stored as a blob and its event is appended. -/
def importRecord (assignments : OrderedDict String SourceAssignment) (dataSpaceId : String)
    (versions : OrderedDict String Nat) (record : LegacyRecord) :
    EStateM VsmError L (OrderedDict String Nat) := do
  let assigned ← EStateM.ofExcept (entry (assignments.get? record.source) record.source)
  let rawBlobRef ← OperationalLedger.putBlob record.raw
  let (payload, streamId) ← EStateM.ofExcept (legacyContent assigned record rawBlobRef)
  appendLegacy dataSpaceId streamId versions record.occurredAt .system none record.stableKey payload

/-- What `import_plan` reads of a `MigrationPlan`. -/
structure MigrationPlan where
  targetDataSpaceId : String
  sources : OrderedDict String SourceAssignment
  importEventCount : Nat

/-- `import_plan`; the result is the number of imported events. -/
def importPlan (plan : MigrationPlan) (records : List LegacyRecord) (dataSpaceId : String) :
    EStateM VsmError L Nat := do
  EStateM.ofExcept (require (plan.targetDataSpaceId = dataSpaceId)
    "migration target DataSpace mismatch")
  let sources := (firstBySource records).sortedByKey
  let versions ← sources.entries.foldlM
    (fun versions source => importSource plan.sources dataSpaceId versions source.1 source.2) .empty
  let _ ← records.foldlM (importRecord plan.sources dataSpaceId) versions
  let imported := sources.entries.length + records.length
  EStateM.ofExcept (require (imported = plan.importEventCount)
    s!"import count differs from dry-run: planned={plan.importEventCount}, actual={imported}")
  return imported

end Append

/-! ### The versions the importer expects -/

/-- The importer remembers the version at which each stream stands that it has written. -/
def Remembers (versions : OrderedDict String Nat) (ledger : InMemoryOperationalLedger) : Prop :=
  ∀ streamId version, versions.get? streamId = some version →
    ledger.streamLength streamId = version

/-- The version at which the importer expects a stream: of those that it does not remember it
reads one page. -/
def expectedVersion (versions : OrderedDict String Nat) (ledger : InMemoryOperationalLedger)
    (streamId : String) : Nat :=
  (versions.get? streamId).getD (min 100000 (ledger.streamLength streamId))

theorem legacyExpected_eq_expectedVersion [Sha256] (versions : OrderedDict String Nat)
    (ledger : InMemoryOperationalLedger) (streamId : String) :
    legacyExpected versions streamId ledger = .ok (expectedVersion versions ledger streamId) := by
  rw [legacyExpected, expectedVersion]
  cases versions.get? streamId with
  | some version => rfl
  | none =>
    have hread : OperationalLedger.stream ledger streamId 0 100000 =
        .ok ((onStream streamId ledger.events).take 100000) := by
      change ledger.stream streamId 0 100000 = _
      rw [InMemoryOperationalLedger.stream, Checked.check_bind_of (by decide), List.drop_zero,
        ledger.streams_eq]
      rfl
    simp only [hread]
    change Except.ok _ = Except.ok (min 100000 (ledger.streamLength streamId))
    rw [ledger.streamLength_eq]
    cases hlast : ((onStream streamId ledger.events).take 100000).getLast? with
    | none =>
      rw [List.getLast?_eq_none_iff, List.take_eq_nil_iff] at hlast
      rw [hlast.resolve_left (by decide), List.length_nil]
      rfl
    | some last => exact congrArg Except.ok (ledger.streamVersion_getLast?_take hlast)

/-- **The importer knows the streams.** It expects the version at which a stream stands, as long
as the stream can be read in one page. -/
theorem expectedVersion_eq {ledger : InMemoryOperationalLedger} {versions : OrderedDict String Nat}
    (hversions : Remembers versions ledger) {streamId : String}
    (hpage : versions.get? streamId = none → ledger.streamLength streamId ≤ 100000) :
    expectedVersion versions ledger streamId = ledger.streamLength streamId := by
  rw [expectedVersion]
  cases hknown : versions.get? streamId with
  | some version => exact (hversions streamId version hknown).symm
  | none => exact min_eq_right (hpage hknown)

end Nanihold
