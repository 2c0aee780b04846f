import Nanihold.Library.Lines
import Nanihold.Migration.Legacy
import Nanihold.Preflight.Gate

/-!
# The dry run of a migration

`scan_legacy` reads the event logs under a directory, and `build_plan` checks that the owner has
assigned exactly the sources that have records. An import scans the directory again and refuses to
go on if it is not the one that was planned.

## Main definitions

* `LegacyText` — how `json` and `datetime` read and write text.
* `SourceFile`, `scanLegacy` — a file under the source root; the records of all event logs.
* `OwnershipAssignment` — the owner's assignment, with `OwnershipAssignment.check`.
* `buildPlan`, `importFrom` — the dry run, and the import of what it planned.
-/

namespace Nanihold

/-- How `json` and `datetime` read and write text. -/
structure LegacyText where
  /-- `json.loads`, unless it raises. -/
  loads : List UInt8 → Option PyValue
  /-- `json.dumps(value, ensure_ascii=False, sort_keys=True)`. -/
  dumps : PyValue → String
  /-- `_canonical`, unless a character has no encoding. -/
  canonical : PyValue → Option String
  /-- `datetime.fromisoformat(value.replace("Z", "+00:00"))` in UTC, unless it raises or has no
  timezone. -/
  timestamp : String → Option DateTime

/-- A file under the source root: the parts of its relative path, and its bytes. -/
structure SourceFile where
  parts : List String
  content : List UInt8

/-- `relative.as_posix()`. -/
def SourceFile.relativePath (file : SourceFile) : String := "/".intercalate file.parts

/-- `bytes.splitlines()`. -/
def splitLines (content : List UInt8) : List (List UInt8) := Lines.split 13 10 (· = 10) content

/-- `not line.strip()`. -/
def isBlankLine (line : List UInt8) : Bool :=
  line.all fun b => b = 32 ∨ (9 ≤ b ∧ b ≤ 13)

/-! ### Scanning -/

/-- `_kind`. -/
def LegacyKind.ofEventType (eventType : String) : Option LegacyKind :=
  if eventType = "channel_message" then some .conversation
  else if eventType = "consortium_decided" then some .decision
  else if eventType = "task_submitted" then some .commitment
  else if eventType = "summary_generated" then some .nodeMemory
  else none

/-- A JSON object. -/
abbrev JsonEntries := List (PyScalar × PyValue)

/-- `raw.get(key)`, if it is a string. -/
def textOf (raw : JsonEntries) (key : String) : Option String :=
  match getName raw key with
  | some (.scalar (.str value)) => some value
  | _ => none

/-- The kind of an event, if it is a relevant one. -/
def legacyKind (raw : JsonEntries) : Option LegacyKind :=
  (textOf raw "event_type").bind LegacyKind.ofEventType

/-- `_source_name`. -/
def sourceName (file : SourceFile) : Except VsmError String :=
  match file.parts with
  | source :: _ :: _ => .ok source
  | _ => .error (.invariantViolation
      s!"legacy file is not inside a source container: {file.relativePath}")

/-- `_timestamp`. -/
def legacyTimestamp (texts : LegacyText) (raw : JsonEntries) : Except VsmError DateTime := do
  let value ← found (textOf raw "ts") "legacy event timestamp is missing"
  found (texts.timestamp value) "legacy event timestamp must include a timezone"

/-- A relevant event of an event log. -/
structure ScannedEvent where
  kind : LegacyKind
  source : String
  sourceFile : String
  lineNumber : Nat
  occurredAt : DateTime
  raw : JsonEntries

/-- One line of an event log. -/
def scanLine (texts : LegacyText) (file : SourceFile) (lineNumber : Nat) (line : List UInt8) :
    Except VsmError (Option ScannedEvent) :=
  if isBlankLine line then .ok none
  else do
    let value ← found (texts.loads line)
      s!"invalid legacy JSON at {file.relativePath}:{lineNumber}"
    let raw ← found (asMapping (some value))
      s!"legacy event is not an object at {file.relativePath}:{lineNumber}"
    match legacyKind raw with
    | none => return none
    | some kind => do
      let source ← sourceName file
      let occurredAt ← legacyTimestamp texts raw
      return some ⟨kind, source, file.relativePath, lineNumber, occurredAt, raw⟩

/-- The relevant events of a file. -/
def scanFile (texts : LegacyText) (file : SourceFile) : Except VsmError (List ScannedEvent) :=
  if file.parts.getLast? = some "events.jsonl" then do
    let lines ← ((splitLines file.content).zipIdx 1).mapM fun line =>
      scanLine texts file line.2 line.1
    return lines.reduceOption
  else .ok []

/-- The keys under which `_text` looks for the text of a record. -/
def LegacyKind.textKeys : LegacyKind → List String
  | .conversation => []
  | .decision => ["reason", "decision"]
  | .commitment => ["description"]
  | .nodeMemory => ["approach"]

/-- `_text`. -/
def legacyText (texts : LegacyText) (raw : JsonEntries) (keys : List String) : String :=
  match asMapping (getName raw "payload") with
  | none => texts.dumps (.dict raw)
  | some payload =>
    ((keys ++ ["payload"]).findSome? fun key =>
      (textOf payload key).filter fun value => strip value ≠ "").getD (texts.dumps (.dict payload))

/-- The record of a relevant event. -/
def ScannedEvent.record (texts : LegacyText) (event : ScannedEvent) :
    Except VsmError LegacyRecord := do
  let raw ← Checked.orRaise (texts.canonical (.dict event.raw)) (.raised "UnicodeEncodeError")
  return {
    kind := event.kind
    source := event.source
    sourceFile := event.sourceFile
    lineNumber := event.lineNumber
    occurredAt := event.occurredAt
    raw := .text raw
    sender := (asMapping (getName event.raw "payload")).bind fun payload => textOf payload "sender"
    text := legacyText texts event.raw event.kind.textKeys }

section Plan

variable [Sha256]

/-- `_sha(_canonical(value))`. -/
def canonicalSha256 (texts : LegacyText) (value : PyValue) : Except VsmError String := do
  let content ← Checked.orRaise (texts.canonical value) (.raised "UnicodeEncodeError")
  return hexdigest (.text content)

/-- A file in the manifest. -/
def SourceFile.entry (file : SourceFile) : PyValue :=
  .dict (named [("byte_count", .scalar (.int file.content.length)),
    ("relative_path", text file.relativePath),
    ("sha256", text (hexdigest (.bytes file.content)))])

/-- A record in the list of relevant ones. -/
def LegacyRecord.entry (record : LegacyRecord) : PyValue :=
  .dict (named [("kind", Nanihold.text record.kind.value),
    ("line_number", .scalar (.int record.lineNumber)),
    ("raw_sha256", Nanihold.text (hexdigest record.raw)),
    ("source", Nanihold.text record.source), ("source_file", Nanihold.text record.sourceFile)])

/-- What a scan returns: the digests of the census, and the records. -/
structure LegacyScan where
  manifestSha256 : String
  relevantSha256 : String
  records : List LegacyRecord

/-- `scan_legacy`, over the files in the order in which `sorted` lists them. -/
def scanLegacy (texts : LegacyText) (root : List SourceFile) : Except VsmError LegacyScan := do
  let events ← root.mapM (scanFile texts)
  let records ← events.flatten.mapM (ScannedEvent.record texts)
  let manifest ← canonicalSha256 texts (.list (root.map SourceFile.entry))
  let relevant ← canonicalSha256 texts (.list (records.map LegacyRecord.entry))
  return ⟨manifest, relevant, records⟩

/-! ### The plan -/

/-- The owner's assignment of the sources. -/
structure OwnershipAssignment where
  targetDataSpaceId : String
  sources : OrderedDict String SourceAssignment

/-- `validate_id`. -/
def validateId (value : String) : Except VsmError Unit :=
  require (isIdentifier value = true) s!"invalid Nanihold identifier: '{value}'"

/-- The checks of `load_assignment` for one source. -/
def SourceAssignment.check (source : String) (assigned : SourceAssignment) :
    Except VsmError Unit := do
  require (source ≠ "" ∧ '/' ∉ source.toList ∧ Char.ofNat 92 ∉ source.toList)
    s!"invalid legacy source name: '{source}'"
  validateId assigned.ownerId
  validateId assigned.interfaceNodeId
  validateId assigned.conversationId
  validateId assigned.nodeId

/-- The checks of `load_assignment`. -/
def OwnershipAssignment.check (assignment : OwnershipAssignment) : Except VsmError Unit := do
  validateId assignment.targetDataSpaceId
  assignment.sources.entries.forM fun entry => SourceAssignment.check entry.1 entry.2

/-- `model_dump` of one assignment. -/
def SourceAssignment.dump (assigned : SourceAssignment) : PyValue :=
  .dict (named [("conversation_id", text assigned.conversationId),
    ("interface_node_id", text assigned.interfaceNodeId), ("node_id", text assigned.nodeId),
    ("owner_id", text assigned.ownerId),
    ("owner_senders", .list (assigned.ownerSenders.map text))])

/-- `model_dump`. -/
def OwnershipAssignment.dump (assignment : OwnershipAssignment) : PyValue :=
  .dict (named [("sources", .dict (named (assignment.sources.entries.map fun entry =>
      (entry.1, entry.2.dump)))),
    ("target_data_space_id", text assignment.targetDataSpaceId)])

/-- A `MigrationPlan`, with the digests of what it was made from. -/
structure DryRun extends MigrationPlan where
  manifestSha256 : String
  relevantSha256 : String
  assignmentSha256 : String

/-- The assignment of a plan. -/
def MigrationPlan.assignment (plan : MigrationPlan) : OwnershipAssignment :=
  ⟨plan.targetDataSpaceId, plan.sources⟩

/-- The assignment covers exactly the sources that have records. -/
def OwnershipAssignment.Covers (assignment : OwnershipAssignment) (records : List LegacyRecord) :
    Prop :=
  (∀ record ∈ records, assignment.sources.contains record.source = true) ∧
    ∀ source ∈ assignment.sources.keys, ∃ record ∈ records, record.source = source

/-- The message that lists the sources that have records and no assignment, and those that have an
assignment and no records. -/
def OwnershipAssignment.coverageMessage (assignment : OwnershipAssignment)
    (records : List LegacyRecord) : String :=
  let missing := ((records.map LegacyRecord.source).dedup.filter
    fun source => assignment.sources.contains source = false).mergeSort
  let extra := (assignment.sources.keys.filter
    fun source => source ∉ records.map LegacyRecord.source).mergeSort
  "ownership assignment does not exactly cover legacy sources; " ++
    s!"missing={missing}, extra={extra}"

instance (assignment : OwnershipAssignment) (records : List LegacyRecord) :
    Decidable (assignment.Covers records) :=
  inferInstanceAs (Decidable (_ ∧ _))

/-- `build_plan`. -/
def buildPlan (texts : LegacyText) (root : List SourceFile) (assignment : OwnershipAssignment) :
    Except VsmError DryRun := do
  let scan ← scanLegacy texts root
  assignment.check
  require (assignment.Covers scan.records) (assignment.coverageMessage scan.records)
  let assignmentSha256 ← canonicalSha256 texts assignment.dump
  return {
    targetDataSpaceId := assignment.targetDataSpaceId
    sources := assignment.sources
    importEventCount := (scan.records.map LegacyRecord.source).dedup.length + scan.records.length
    manifestSha256 := scan.manifestSha256
    relevantSha256 := scan.relevantSha256
    assignmentSha256 := assignmentSha256 }

variable {L : Type} [OperationalLedger L]

/-- `import_plan`, from the scan of the directory on. -/
def importFrom (texts : LegacyText) (plan : DryRun) (root : List SourceFile)
    (dataSpaceId : String) : EStateM VsmError L Nat := do
  let scan ← EStateM.ofExcept (scanLegacy texts root)
  let assignmentSha256 ← EStateM.ofExcept
    (canonicalSha256 texts plan.toMigrationPlan.assignment.dump)
  EStateM.ofExcept (require (scan.manifestSha256 = plan.manifestSha256)
    "legacy source manifest changed after dry-run")
  EStateM.ofExcept (require (scan.relevantSha256 = plan.relevantSha256)
    "legacy relevant record set changed after dry-run")
  EStateM.ofExcept (require (assignmentSha256 = plan.assignmentSha256)
    "ownership assignment changed after dry-run")
  importPlan plan.toMigrationPlan scan.records dataSpaceId

end Plan

end Nanihold
