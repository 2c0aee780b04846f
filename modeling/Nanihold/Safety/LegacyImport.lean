import Nanihold.Migration.Planning

/-!
# Importing a legacy history
-/

namespace Nanihold

/-- The identifiers of an assignment are well formed. -/
structure SourceAssignment.Valid (assigned : SourceAssignment) : Prop where
  owner : isIdentifier assigned.ownerId = true
  interface_node : isIdentifier assigned.interfaceNodeId = true
  conversation : isIdentifier assigned.conversationId = true
  node : isIdentifier assigned.nodeId = true

/-- One event that the import appends. -/
structure LegacyAppend where
  streamId : String
  occurredAt : DateTime
  actorType : ActorType
  actorId : Option String
  stableKey : String
  payload : InterfacePayload

variable [Sha256]

namespace LegacyAppend

variable (a : LegacyAppend)

/-- The idempotency key of the event. -/
def key : String := "legacy:" ++ hexdigest (.text a.stableKey)

/-- The identifier of the event. -/
def identity : String := stableId "event" a.stableKey

/-- The event, if its stream is expected at a version. -/
def event (dataSpaceId : String) (expected : Nat) : EventEnvelope where
  eventId := a.identity
  dataSpaceId := dataSpaceId
  streamId := a.streamId
  streamVersion := expected + 1
  occurredAt := a.occurredAt
  actorType := a.actorType
  actorId := a.actorId
  correlationId := some a.streamId
  causationId := none
  idempotencyKey := a.key
  payload := .interface a.payload

/-- `_append` of the event. -/
def run (dataSpaceId : String) (versions : OrderedDict String Nat) :
    EStateM VsmError InMemoryOperationalLedger (OrderedDict String Nat) :=
  appendLegacy dataSpaceId a.streamId versions a.occurredAt a.actorType a.actorId a.stableKey
    a.payload

/-- The data model of the envelope accepts the stream and the actor. -/
def IsValid : Prop := isIdentifier a.streamId = true ∧ isIdentifierOrNone a.actorId = true

end LegacyAppend

/-- The event has the key or the identifier that the import makes of a record or source. -/
def EventEnvelope.IsLegacyOf (event : EventEnvelope) (stableKey : String) : Prop :=
  event.idempotencyKey = "legacy:" ++ hexdigest (.text stableKey) ∨
    event.eventId = stableId "event" stableKey

/-- **No event with one of some stable keys** is in the ledger yet. -/
def NoLegacy (keys : List String) (ledger : InMemoryOperationalLedger) : Prop :=
  ∀ stored ∈ ledger.events, ∀ stableKey ∈ keys, ¬ stored.event.IsLegacyOf stableKey

/-- The digests of two keys cannot be told apart by the importer. -/
def Clash (stableKey other : String) : Prop :=
  stableId "event" stableKey = stableId "event" other

/-! ### One append -/

section Append

variable {versions : OrderedDict String Nat} {ledger next : InMemoryOperationalLedger}
  {dataSpaceId : String} {a : LegacyAppend} {expected : Nat}

private theorem run_append (hspace : isIdentifier dataSpaceId = true) (ha : a.IsValid)
    (hexpected : expectedVersion versions ledger a.streamId = expected) :
    a.run dataSpaceId versions ledger =
      (OperationalLedger.append (a.event dataSpaceId expected) expected >>=
        fun result => pure (versions.set a.streamId result.streamVersion)) ledger := by
  rw [LegacyAppend.run, appendLegacy, EStateM.run_get_bind, legacyExpected_eq_expectedVersion,
    EStateM.run_ofExcept_ok_bind, hexpected, legacyEnvelope, hspace, ha.1, ha.2]
  rfl

/-- An append that the ledger takes, as a new event or as one that it has stored. -/
theorem LegacyAppend.run_of_ok (hspace : isIdentifier dataSpaceId = true) (ha : a.IsValid)
    (hexpected : expectedVersion versions ledger a.streamId = expected) {result : AppendResult}
    (h : ledger.append (a.event dataSpaceId expected) expected = .ok (result, next)) :
    a.run dataSpaceId versions ledger = .ok (versions.set a.streamId (expected + 1)) next := by
  have hversion : result.streamVersion = expected + 1 := by
    rcases ledger.append_eq_ok h with ⟨-, -, rfl, -⟩ | ⟨stored, -, heq, rfl, -⟩
    · rfl
    · exact congrArg EventEnvelope.streamVersion heq
  rw [run_append hspace ha hexpected, ← hversion]
  refine EStateM.run_bind_of_ok ?_
  simp only [OperationalLedger.append, h]

/-- An append that the ledger refuses. -/
theorem LegacyAppend.run_of_not_ok (hspace : isIdentifier dataSpaceId = true) (ha : a.IsValid)
    (hexpected : expectedVersion versions ledger a.streamId = expected)
    (h : ¬ ∃ answer, ledger.append (a.event dataSpaceId expected) expected = .ok answer) :
    ∃ e, a.run dataSpaceId versions ledger = .error e ledger := by
  rw [run_append hspace ha hexpected]
  cases happend : ledger.append (a.event dataSpaceId expected) expected with
  | ok answer => exact absurd ⟨answer, happend⟩ h
  | error e =>
    refine ⟨e, EStateM.run_bind_of_error ?_⟩
    simp only [OperationalLedger.append, happend]

/-- An event whose key and identifier are new is appended at the end of its stream. -/
theorem LegacyAppend.run_of_new (hspace : isIdentifier dataSpaceId = true) (ha : a.IsValid)
    (hledger : ledger.dataSpaceId = dataSpaceId)
    (hnew : ∀ stored ∈ ledger.events, ¬ stored.event.IsLegacyOf a.stableKey)
    (hexpected : expectedVersion versions ledger a.streamId = ledger.streamLength a.streamId) :
    ∃ happ : ledger.Appendable (a.event dataSpaceId (ledger.streamLength a.streamId)),
      a.run dataSpaceId versions ledger =
        .ok (versions.set a.streamId (ledger.streamLength a.streamId + 1))
          (ledger.push _ happ) := by
  have happ : ledger.Appendable (a.event dataSpaceId (ledger.streamLength a.streamId)) := by
    refine ⟨hledger.symm, ?_, ?_, rfl⟩
    · rw [Option.eq_none_iff_forall_ne_some]
      intro stored hstored
      obtain ⟨hmem, hkey⟩ := (ledger.idempotency_iff _ _).mp hstored
      exact hnew stored hmem (Or.inl hkey)
    · rw [Option.eq_none_iff_forall_ne_some]
      intro stored hstored
      obtain ⟨hmem, hid⟩ := (ledger.eventIds_iff _ _).mp hstored
      exact hnew stored hmem (Or.inr hid)
  exact ⟨happ, LegacyAppend.run_of_ok hspace ha hexpected
    (ledger.append_of_appendable happ rfl)⟩

end Append

/-! ### The steps of an import -/

/-- The conversation of a source, or a record. -/
inductive LegacyStep where
  | conversationOf (name : String) (occurredAt : DateTime)
  | eventOf (record : LegacyRecord)

namespace LegacyStep

/-- The source that the step belongs to. -/
def sourceName : LegacyStep → String
  | .conversationOf name _ => name
  | .eventOf record => record.source

/-- The key that tells the step from the others. -/
def stableKey : LegacyStep → String
  | .conversationOf name _ => s!"{name}:conversation"
  | .eventOf record => record.stableKey

/-- The stream that the step writes to. -/
def streamId (assigned : SourceAssignment) : LegacyStep → String
  | .conversationOf _ _ => assigned.conversationId
  | .eventOf record =>
    if record.kind = .nodeMemory then assigned.nodeId else assigned.conversationId

/-- The event that the step appends, unless a data model refuses it. -/
def planned (assigned : SourceAssignment) (dataSpaceId : String) :
    LegacyStep → Except VsmError LegacyAppend
  | .conversationOf name occurredAt => do
    let conversation ← sourceConversation assigned dataSpaceId name
    return ⟨assigned.conversationId, occurredAt, .human, some assigned.ownerId,
      s!"{name}:conversation", .legacyConversationCreated conversation⟩
  | .eventOf record => do
    let content ← legacyContent assigned record (blobRef record.raw)
    return ⟨content.2, record.occurredAt, .system, none, record.stableKey, content.1⟩

/-- The step as the import runs it. -/
def run (assignments : OrderedDict String SourceAssignment) (dataSpaceId : String)
    (versions : OrderedDict String Nat) :
    LegacyStep → EStateM VsmError InMemoryOperationalLedger (OrderedDict String Nat)
  | .conversationOf name occurredAt => importSource assignments dataSpaceId versions name occurredAt
  | .eventOf record => importRecord assignments dataSpaceId versions record

/-- The ledger with the blob of the step. -/
def withBlob (ledger : InMemoryOperationalLedger) : LegacyStep → InMemoryOperationalLedger
  | .conversationOf _ _ => ledger
  | .eventOf record => ledger.putBlob record.raw

variable (step : LegacyStep) {assignments : OrderedDict String SourceAssignment}
  {assigned : SourceAssignment} {dataSpaceId : String} {versions : OrderedDict String Nat}
  {ledger : InMemoryOperationalLedger} {a : LegacyAppend}

theorem withBlob_events : (step.withBlob ledger).events = ledger.events := by
  cases step <;> rfl

theorem withBlob_dataSpaceId : (step.withBlob ledger).dataSpaceId = ledger.dataSpaceId := by
  cases step <;> rfl

theorem withBlob_streamLength (streamId : String) :
    (step.withBlob ledger).streamLength streamId = ledger.streamLength streamId := by
  cases step <;> rfl

theorem expectedVersion_withBlob (streamId : String) :
    expectedVersion versions (step.withBlob ledger) streamId =
      expectedVersion versions ledger streamId := by
  cases step <;> rfl

variable {step}

theorem stableKey_of_planned (h : step.planned assigned dataSpaceId = .ok a) :
    a.stableKey = step.stableKey := by
  cases step with
  | conversationOf name occurredAt =>
    obtain ⟨conversation, -, h⟩ := Checked.bind_eq_ok_iff.mp h
    cases h
    rfl
  | eventOf record =>
    obtain ⟨content, -, h⟩ := Checked.bind_eq_ok_iff.mp h
    cases h
    rfl

/-- A step whose event is built appends it. -/
theorem run_of_planned (hassigned : assignments.get? step.sourceName = some assigned)
    (h : step.planned assigned dataSpaceId = .ok a) :
    step.run assignments dataSpaceId versions ledger =
      a.run dataSpaceId versions (step.withBlob ledger) := by
  cases step with
  | conversationOf name occurredAt =>
    obtain ⟨conversation, hconversation, h⟩ := Checked.bind_eq_ok_iff.mp h
    cases h
    rw [run, importSource, show assignments.get? name = some assigned from hassigned]
    change (EStateM.ofExcept (sourceConversation _ _ _) >>= _) ledger = _
    rw [hconversation]
    rfl
  | eventOf record =>
    obtain ⟨content, hcontent, h⟩ := Checked.bind_eq_ok_iff.mp h
    cases h
    rw [run, importRecord, show assignments.get? record.source = some assigned from hassigned]
    change (EStateM.ofExcept (legacyContent _ _ _) >>= _) (ledger.putBlob record.raw) = _
    rw [hcontent]
    rfl

variable (versions ledger) in
/-- A step whose event is refused raises. -/
theorem run_of_not_planned (hassigned : assignments.get? step.sourceName = some assigned)
    (h : ¬ ∃ a, step.planned assigned dataSpaceId = .ok a) :
    ∃ e, step.run assignments dataSpaceId versions ledger = .error e (step.withBlob ledger) := by
  cases step with
  | conversationOf name occurredAt =>
    rw [run, importSource, show assignments.get? name = some assigned from hassigned]
    change ∃ e, (EStateM.ofExcept (sourceConversation _ _ _) >>= _) ledger = _
    cases hconversation : sourceConversation assigned dataSpaceId name with
    | ok conversation =>
      refine absurd ?_ h
      rw [planned, hconversation]
      exact ⟨_, rfl⟩
    | error e => exact ⟨e, rfl⟩
  | eventOf record =>
    rw [run, importRecord, show assignments.get? record.source = some assigned from hassigned]
    change ∃ e, (EStateM.ofExcept (legacyContent _ _ _) >>= _) (ledger.putBlob record.raw) = _
    cases hcontent : legacyContent assigned record (blobRef record.raw) with
    | ok content =>
      refine absurd ?_ h
      rw [planned, hcontent]
      exact ⟨_, rfl⟩
    | error e => exact ⟨e, rfl⟩

end LegacyStep

/-- The steps of an import: the sources in the order of their names, and then the records. -/
def legacySteps (records : List LegacyRecord) : List LegacyStep :=
  (firstBySource records).sortedByKey.entries.map (fun entry => .conversationOf entry.1 entry.2) ++
    records.map .eventOf

/-- Run some steps from what is remembered so far. -/
def runSteps (assignments : OrderedDict String SourceAssignment) (dataSpaceId : String)
    (steps : List LegacyStep) (versions : OrderedDict String Nat) :
    EStateM VsmError InMemoryOperationalLedger (OrderedDict String Nat) :=
  steps.foldlM (LegacyStep.run assignments dataSpaceId) versions

/-- **An import runs its steps.** -/
theorem importPlan_eq_runSteps (plan : MigrationPlan) (records : List LegacyRecord)
    (dataSpaceId : String) :
    (importPlan plan records dataSpaceId : EStateM VsmError InMemoryOperationalLedger Nat) = do
      EStateM.ofExcept (require (plan.targetDataSpaceId = dataSpaceId)
        "migration target DataSpace mismatch")
      let _ ← runSteps plan.sources dataSpaceId (legacySteps records) .empty
      EStateM.ofExcept (require ((legacySteps records).length = plan.importEventCount)
        s!"import count differs from dry-run: planned={plan.importEventCount}, actual={
          (legacySteps records).length}")
      return (legacySteps records).length := by
  simp only [importPlan, runSteps, legacySteps, List.foldlM_append, List.foldlM_map,
    List.length_append, List.length_map, bind_assoc]
  rfl

/-! ### Where an import stands -/

/-- **The invariant**: an import with some stable keys that began at `start` remembers exactly the
streams that it wrote, and its own events are those with the keys that it has used. -/
structure Along (keys : List String) (start : InMemoryOperationalLedger) (used : List String)
    (versions : OrderedDict String Nat) (ledger : InMemoryOperationalLedger) : Prop where
  data_space : ledger.dataSpaceId = start.dataSpaceId
  remembers : Remembers versions ledger
  untouched : ∀ streamId, versions.get? streamId = none →
    ledger.streamLength streamId = start.streamLength streamId
  paged : ∀ streamId, versions.get? streamId ≠ none → start.streamLength streamId ≤ 100000
  legacy_known : ∀ stored ∈ ledger.events, ∀ stableKey ∈ keys, stored.event.IsLegacyOf stableKey →
    versions.get? stored.event.streamId ≠ none
  used_iff : ∀ stableKey ∈ keys, (∃ stored ∈ ledger.events, stored.event.IsLegacyOf stableKey) ↔
    ∃ known ∈ used, Clash known stableKey

theorem NoLegacy.along {keys : List String} {start : InMemoryOperationalLedger}
    (h : NoLegacy keys start) : Along keys start [] .empty start where
  data_space := rfl
  remembers _ _ hget := by cases hget
  untouched _ _ := rfl
  paged _ hget := absurd rfl hget
  legacy_known stored hstored stableKey hkey hlegacy :=
    absurd hlegacy (h stored hstored stableKey hkey)
  used_iff stableKey hkey := by
    constructor
    · rintro ⟨stored, hstored, hlegacy⟩
      exact absurd hlegacy (h stored hstored stableKey hkey)
    · rintro ⟨_, hmem, -⟩
      cases hmem

section Along

variable {start ledger : InMemoryOperationalLedger} {keys used : List String}
  {versions : OrderedDict String Nat} {dataSpaceId : String} {a : LegacyAppend}

/-- The event of an append has the key of exactly those that its digests clash with. -/
theorem LegacyAppend.isLegacyOf_iff (expected : Nat) (stableKey : String) :
    (a.event dataSpaceId expected).IsLegacyOf stableKey ↔ Clash a.stableKey stableKey := by
  constructor
  · rintro (hkey | hid)
    · have hdigest : hexdigest (.text a.stableKey) = hexdigest (.text stableKey) :=
        (String.append_right_inj "legacy:").mp hkey
      rw [Clash, stableId, stableId, hdigest]
    · exact hid
  · exact Or.inr

/-- A new event keeps the invariant. -/
theorem Along.push (h : Along keys start used versions ledger)
    (hpage : start.streamLength a.streamId ≤ 100000)
    (happ : ledger.Appendable (a.event dataSpaceId (ledger.streamLength a.streamId))) :
    Along keys start (used ++ [a.stableKey])
      (versions.set a.streamId (ledger.streamLength a.streamId + 1)) (ledger.push _ happ) where
  data_space := h.data_space
  remembers streamId version hget := by
    rw [InMemoryOperationalLedger.push_streamLength]
    change ledger.streamLength streamId + (if a.streamId = streamId then 1 else 0) = version
    rw [OrderedDict.get?_set] at hget
    split_ifs at hget ⊢ with heq
    · rw [← Option.some.inj hget, heq]
    · exact h.remembers streamId version hget
  untouched streamId hget := by
    rw [InMemoryOperationalLedger.push_streamLength]
    change ledger.streamLength streamId + (if a.streamId = streamId then 1 else 0) = _
    rw [OrderedDict.get?_set] at hget
    split_ifs at hget ⊢ with heq
    exact h.untouched streamId hget
  paged streamId hget := by
    rw [OrderedDict.get?_set] at hget
    split_ifs at hget with heq
    · exact heq ▸ hpage
    · exact h.paged streamId hget
  legacy_known stored hstored stableKey hkey hlegacy := by
    rw [OrderedDict.get?_set]
    rcases List.mem_append.mp hstored with hold | hlast
    · split_ifs with heq
      · exact Option.some_ne_none _
      · exact h.legacy_known stored hold stableKey hkey hlegacy
    · rw [List.mem_singleton.mp hlast]
      rw [if_pos (show a.streamId = (ledger.store _).event.streamId from rfl)]
      exact Option.some_ne_none _
  used_iff stableKey hkey := by
    constructor
    · rintro ⟨stored, hstored, hlegacy⟩
      rcases List.mem_append.mp hstored with hold | hlast
      · obtain ⟨known, hmem, hclash⟩ := (h.used_iff stableKey hkey).mp ⟨stored, hold, hlegacy⟩
        exact ⟨known, List.mem_append_left _ hmem, hclash⟩
      · rw [List.mem_singleton.mp hlast] at hlegacy
        exact ⟨a.stableKey, List.mem_append_right _ (List.mem_singleton_self _),
          (LegacyAppend.isLegacyOf_iff _ _).mp hlegacy⟩
    · rintro ⟨known, hmem, hclash⟩
      rcases List.mem_append.mp hmem with hold | hlast
      · obtain ⟨stored, hstored, hlegacy⟩ := (h.used_iff stableKey hkey).mpr ⟨known, hold, hclash⟩
        exact ⟨stored, List.mem_append_left _ hstored, hlegacy⟩
      · rw [List.mem_singleton.mp hlast] at hclash
        exact ⟨_, List.mem_append_right _ (List.mem_singleton_self _),
          (LegacyAppend.isLegacyOf_iff _ _).mpr hclash⟩

/-- **One append**: it goes through exactly if the ledger is of the data space, the stream fits in a
page and the key is new. -/
theorem Along.run_append (h : Along keys start used versions ledger)
    (hspace : isIdentifier dataSpaceId = true) (ha : a.IsValid) (hkeys : a.stableKey ∈ keys) :
    ((dataSpaceId = start.dataSpaceId ∧ start.streamLength a.streamId ≤ 100000 ∧
        ∀ known ∈ used, ¬ Clash known a.stableKey) →
      ∃ happ : ledger.Appendable (a.event dataSpaceId (ledger.streamLength a.streamId)),
        a.run dataSpaceId versions ledger =
          .ok (versions.set a.streamId (ledger.streamLength a.streamId + 1))
            (ledger.push _ happ)) ∧
    (¬ (dataSpaceId = start.dataSpaceId ∧ start.streamLength a.streamId ≤ 100000 ∧
        ∀ known ∈ used, ¬ Clash known a.stableKey) →
      ∃ e, a.run dataSpaceId versions ledger = .error e ledger) := by
  constructor
  · rintro ⟨hds, hpage, hclash⟩
    refine LegacyAppend.run_of_new hspace ha (h.data_space.trans hds.symm) ?_
      (expectedVersion_eq h.remembers fun hget => (h.untouched _ hget).trans_le hpage)
    intro stored hstored hlegacy
    obtain ⟨known, hmem, hknown⟩ := (h.used_iff a.stableKey hkeys).mp ⟨stored, hstored, hlegacy⟩
    exact hclash known hmem hknown
  · intro hnot
    refine LegacyAppend.run_of_not_ok hspace ha rfl ?_
    rw [InMemoryOperationalLedger.append_returns_iff]
    rintro (⟨happ, hlength⟩ | ⟨stored, hstored, heq⟩)
    · refine hnot ⟨happ.data_space.trans h.data_space, ?_, ?_⟩
      · by_contra hpage
        have hget : versions.get? a.streamId = none := by
          by_contra hget
          exact hpage (h.paged _ hget)
        have huntouched := h.untouched _ hget
        rw [expectedVersion, hget] at hlength
        change ledger.streamLength a.streamId = min 100000 (ledger.streamLength a.streamId)
          at hlength
        omega
      · intro known hmem hclash
        obtain ⟨stored, hstored, hkey | hid⟩ := (h.used_iff a.stableKey hkeys).mpr
          ⟨known, hmem, hclash⟩
        · cases happ.fresh_key.symm.trans ((ledger.idempotency_iff _ _).mpr ⟨hstored, hkey⟩)
        · cases happ.fresh_id.symm.trans ((ledger.eventIds_iff _ _).mpr ⟨hstored, hid⟩)
    · -- A stored event of the import lies on a stream that the importer knows the end of.
      have hlegacy : stored.event.IsLegacyOf a.stableKey := by
        rw [heq]
        exact Or.inr rfl
      have hknown := h.legacy_known stored hstored a.stableKey hkeys hlegacy
      have hle := ledger.streamVersion_le hstored
      rw [heq] at hknown hle
      have hexpected := expectedVersion_eq h.remembers fun hnone => absurd hnone hknown
      change expectedVersion versions ledger a.streamId + 1 ≤ ledger.streamLength a.streamId at hle
      change expectedVersion versions ledger a.streamId = ledger.streamLength a.streamId
        at hexpected
      omega

end Along

/-! ### Content that the data models accept -/

/-- **The data models accept the text** of a record: an owner's message keeps none, a message of
the Interface is longer than other statements. -/
def LegacyRecord.Fits (assigned : SourceAssignment) (record : LegacyRecord) : Prop :=
  if record.kind = .conversation then
    (∃ sender ∈ record.sender, sender ∈ assigned.ownerSenders) ∨
      (1 ≤ record.text.length ∧ record.text.length ≤ 1200)
  else isNonBlank record.text = true

/-- The data models accept the content of a step. -/
def LegacyStep.Fits (assigned : SourceAssignment) : LegacyStep → Prop
  | .conversationOf name _ => isNonBlank s!"Imported history: {name}" = true
  | .eventOf record => record.Fits assigned

section Content

variable {assigned : SourceAssignment} {dataSpaceId : String} {step : LegacyStep}

theorem legacyContent_iff {record : LegacyRecord} (rawBlobRef : String) :
    (∃ content, legacyContent assigned record rawBlobRef = .ok content) ↔ record.Fits assigned := by
  rw [legacyContent, LegacyRecord.Fits]
  cases hkind : record.kind with
  | conversation =>
    dsimp only
    rw [if_pos rfl]
    by_cases howner : ∃ sender ∈ record.sender, sender ∈ assigned.ownerSenders
    · rw [decide_eq_true howner]
      exact iff_of_true ⟨_, rfl⟩ (Or.inl howner)
    · rw [decide_eq_false howner]
      by_cases hlength : 1 ≤ record.text.length ∧ record.text.length ≤ 1200
      · rw [decide_eq_true hlength.1, decide_eq_true hlength.2]
        exact iff_of_true ⟨_, rfl⟩ (Or.inr hlength)
      · rw [← Bool.decide_and, decide_eq_false hlength]
        refine iff_of_false ?_ (not_or.mpr ⟨howner, hlength⟩)
        rintro ⟨_, h⟩
        cases h
  | decision | commitment | nodeMemory =>
    dsimp only
    cases isNonBlank record.text
    · refine iff_of_false ?_ Bool.false_ne_true
      rintro ⟨_, h⟩
      cases h
    · exact iff_of_true ⟨_, rfl⟩ rfl

/-- The stream that the content of a record goes to. -/
theorem legacyContent_snd {record : LegacyRecord} {rawBlobRef : String}
    {content : InterfacePayload × String}
    (h : legacyContent assigned record rawBlobRef = .ok content) :
    content.2 = (LegacyStep.eventOf record).streamId assigned := by
  rw [legacyContent] at h
  rw [LegacyStep.streamId]
  cases hkind : record.kind with
  | conversation | decision | commitment | nodeMemory =>
    rw [hkind] at h
    dsimp only at h
    split at h
    · cases h
    · cases h
      rfl

/-- **A step has an event** exactly if its content fits. -/
theorem LegacyStep.planned_iff (hspace : isIdentifier dataSpaceId = true)
    (hvalid : assigned.Valid) :
    (∃ a, step.planned assigned dataSpaceId = .ok a) ↔ step.Fits assigned := by
  cases step with
  | conversationOf name occurredAt =>
    rw [planned, sourceConversation, hvalid.conversation, hspace, hvalid.interface_node,
      hvalid.owner, Fits]
    cases isNonBlank s!"Imported history: {name}"
    · refine iff_of_false ?_ Bool.false_ne_true
      rintro ⟨_, h⟩
      cases h
    · exact iff_of_true ⟨_, rfl⟩ rfl
  | eventOf record =>
    rw [Fits, ← legacyContent_iff (blobRef record.raw), planned]
    constructor
    · rintro ⟨a, h⟩
      obtain ⟨content, hcontent, -⟩ := Checked.bind_eq_ok_iff.mp h
      exact ⟨content, hcontent⟩
    · rintro ⟨content, hcontent⟩
      rw [hcontent]
      exact ⟨_, rfl⟩

theorem LegacyStep.planned_spec (hvalid : assigned.Valid) {a : LegacyAppend}
    (h : step.planned assigned dataSpaceId = .ok a) :
    a.IsValid ∧ a.streamId = step.streamId assigned := by
  cases step with
  | conversationOf name occurredAt =>
    obtain ⟨conversation, -, h⟩ := Checked.bind_eq_ok_iff.mp h
    cases h
    exact ⟨⟨hvalid.conversation, hvalid.owner⟩, rfl⟩
  | eventOf record =>
    obtain ⟨content, hcontent, h⟩ := Checked.bind_eq_ok_iff.mp h
    cases h
    have hstream := legacyContent_snd hcontent
    refine ⟨⟨?_, rfl⟩, hstream⟩
    change isIdentifier content.2 = true
    rw [hstream, streamId]
    split_ifs
    · exact hvalid.node
    · exact hvalid.conversation

end Content

/-! ### Runs of steps -/

section Runs

variable (assignments : OrderedDict String SourceAssignment) (dataSpaceId : String)
  (start : InMemoryOperationalLedger)

/-- The data models and the ledger of the start take a step. -/
def LegacyStep.Taken (step : LegacyStep) : Prop :=
  ∃ assigned, assignments.get? step.sourceName = some assigned ∧ step.Fits assigned ∧
    dataSpaceId = start.dataSpaceId ∧ start.streamLength (step.streamId assigned) ≤ 100000

/-- All steps are taken after some keys have been used. -/
structure AllTaken (used : List String) (steps : List LegacyStep) : Prop where
  taken : ∀ step ∈ steps, step.Taken assignments dataSpaceId start
  unused : ∀ step ∈ steps, ∀ known ∈ used, ¬ Clash known step.stableKey
  distinct : (steps.map LegacyStep.stableKey).Pairwise fun key other => ¬ Clash key other

variable {assignments dataSpaceId start} {keys used : List String} {step : LegacyStep}
  {steps : List LegacyStep} {versions : OrderedDict String Nat}
  {ledger : InMemoryOperationalLedger}

theorem allTaken_cons :
    AllTaken assignments dataSpaceId start used (step :: steps) ↔
      (step.Taken assignments dataSpaceId start ∧ ∀ known ∈ used, ¬ Clash known step.stableKey) ∧
        AllTaken assignments dataSpaceId start (used ++ [step.stableKey]) steps := by
  constructor
  · rintro ⟨htaken, hunused, hdistinct⟩
    rw [List.map_cons, List.pairwise_cons] at hdistinct
    rw [List.forall_mem_cons] at htaken hunused
    refine ⟨⟨htaken.1, hunused.1⟩, htaken.2, fun other hother known hmem => ?_, hdistinct.2⟩
    rcases List.mem_append.mp hmem with hold | hlast
    · exact hunused.2 other hother known hold
    · rw [List.mem_singleton.mp hlast]
      exact hdistinct.1 _ (List.mem_map_of_mem hother)
  · rintro ⟨⟨hfirst, hnew⟩, htaken, hunused, hdistinct⟩
    refine ⟨List.forall_mem_cons.mpr ⟨hfirst, htaken⟩, List.forall_mem_cons.mpr ⟨hnew, ?_⟩, ?_⟩
    · intro other hother known hmem
      exact hunused other hother known (List.mem_append_left _ hmem)
    · rw [List.map_cons, List.pairwise_cons]
      refine ⟨fun key hkey => ?_, hdistinct⟩
      obtain ⟨other, hother, rfl⟩ := List.mem_map.mp hkey
      exact hunused other hother _ (List.mem_append_right _ (List.mem_singleton_self _))

/-- The blob of a step keeps the invariant. -/
theorem Along.withBlob (h : Along keys start used versions ledger) (step : LegacyStep) :
    Along keys start used versions (step.withBlob ledger) := by
  cases step with
  | conversationOf name occurredAt => exact h
  | eventOf record => exact { h with }

/-- **One step** of an import is taken, or raises and appends nothing. -/
theorem Along.run_step (h : Along keys start used versions ledger)
    (hspace : isIdentifier dataSpaceId = true)
    (hvalid : ∀ source assigned, assignments.get? source = some assigned → assigned.Valid)
    (hassigned : (assignments.get? step.sourceName).isSome = true)
    (hkeys : step.stableKey ∈ keys) :
    (step.Taken assignments dataSpaceId start ∧
        (∀ known ∈ used, ¬ Clash known step.stableKey) →
      ∃ versions' ledger' event, step.run assignments dataSpaceId versions ledger =
          .ok versions' ledger' ∧ Along keys start (used ++ [step.stableKey]) versions' ledger' ∧
        ledger'.events = ledger.events ++ [event] ∧
        event.event.idempotencyKey = "legacy:" ++ hexdigest (.text step.stableKey)) ∧
    (¬ (step.Taken assignments dataSpaceId start ∧
        ∀ known ∈ used, ¬ Clash known step.stableKey) →
      ∃ e ledger', step.run assignments dataSpaceId versions ledger = .error e ledger' ∧
        ledger'.events = ledger.events) := by
  obtain ⟨assigned, hassigned⟩ := Option.isSome_iff_exists.mp hassigned
  have hids := hvalid _ _ hassigned
  have hfits : step.Taken assignments dataSpaceId start ↔ step.Fits assigned ∧
      dataSpaceId = start.dataSpaceId ∧
      start.streamLength (step.streamId assigned) ≤ 100000 := by
    rw [LegacyStep.Taken, hassigned]
    constructor
    · rintro ⟨_, heq, h⟩
      exact Option.some.inj heq ▸ h
    · intro h
      exact ⟨assigned, rfl, h⟩
  rw [hfits]
  by_cases hplanned : ∃ a, step.planned assigned dataSpaceId = .ok a
  · have hcontent := (LegacyStep.planned_iff hspace hids).mp hplanned
    obtain ⟨a, hplanned⟩ := hplanned
    obtain ⟨ha, hstream⟩ := LegacyStep.planned_spec hids hplanned
    have hkey := LegacyStep.stableKey_of_planned hplanned
    rw [LegacyStep.run_of_planned hassigned hplanned, ← hstream, ← hkey]
    obtain ⟨hok, herror⟩ := (h.withBlob step).run_append (a := a) hspace ha (hkey ▸ hkeys)
    constructor
    · rintro ⟨⟨-, hds, hpage⟩, hnew⟩
      obtain ⟨happ, hrun⟩ := hok ⟨hds, hpage, hnew⟩
      let event := a.event dataSpaceId ((step.withBlob ledger).streamLength a.streamId)
      refine ⟨_, _, (step.withBlob ledger).store event, hrun, (h.withBlob step).push hpage happ,
        ?_, rfl⟩
      rw [InMemoryOperationalLedger.push_events, step.withBlob_events]
    · intro hnot
      obtain ⟨e, hrun⟩ := herror fun hall => hnot ⟨⟨hcontent, hall.1, hall.2.1⟩, hall.2.2⟩
      exact ⟨e, _, hrun, step.withBlob_events⟩
  · refine ⟨fun hall => ?_, fun _ => ?_⟩
    · exact absurd ((LegacyStep.planned_iff hspace hids).mpr hall.1.1) hplanned
    · obtain ⟨e, hrun⟩ := LegacyStep.run_of_not_planned versions ledger hassigned
        hplanned
      exact ⟨e, _, hrun, step.withBlob_events⟩

variable (hspace : isIdentifier dataSpaceId = true)
  (hvalid : ∀ source assigned, assignments.get? source = some assigned → assigned.Valid)
  (hkeys : ∀ step ∈ steps, step.stableKey ∈ keys)

include hspace hvalid hkeys

/-- **A run whose steps are all taken** returns, and appends one event for each step. -/
theorem Along.run_of_allTaken (h : Along keys start used versions ledger)
    (hall : AllTaken assignments dataSpaceId start used steps) :
    ∃ versions' ledger' appended,
      runSteps assignments dataSpaceId steps versions ledger = .ok versions' ledger' ∧
        Along keys start (used ++ steps.map LegacyStep.stableKey) versions' ledger' ∧
        ledger'.events = ledger.events ++ appended ∧
        appended.map (·.event.idempotencyKey) =
          steps.map fun step => "legacy:" ++ hexdigest (.text step.stableKey) := by
  induction steps generalizing used versions ledger with
  | nil =>
    rw [List.map_nil, List.append_nil]
    exact ⟨versions, ledger, [], rfl, h, (List.append_nil _).symm, rfl⟩
  | cons step steps ih =>
    obtain ⟨hstep, hrest⟩ := allTaken_cons.mp hall
    rw [List.forall_mem_cons] at hkeys
    have hassigned : (assignments.get? step.sourceName).isSome = true := by
      obtain ⟨assigned, hassigned, -⟩ := hstep.1
      exact Option.isSome_of_eq_some hassigned
    obtain ⟨versions₁, ledger₁, event, hrun, halong, hevents, hkey⟩ :=
      (h.run_step hspace hvalid hassigned hkeys.1).1 hstep
    obtain ⟨versions', ledger', appended, hruns, halong', hevents', hnames⟩ :=
      ih hkeys.2 halong hrest
    refine ⟨versions', ledger', event :: appended, ?_, ?_, ?_, ?_⟩
    · rw [runSteps, List.foldlM_cons]
      exact (EStateM.run_bind_of_ok hrun).trans hruns
    · rwa [List.map_cons, List.append_cons]
    · rw [hevents', hevents, List.append_assoc, List.singleton_append]
    · rw [List.map_cons, List.map_cons, hkey, hnames]

/-- **A run that has a step which is not taken** raises; it appends nothing exactly if that is the
first one. -/
theorem Along.run_of_not_allTaken (h : Along keys start used versions ledger)
    (hassigned : ∀ step ∈ steps, (assignments.get? step.sourceName).isSome = true)
    (hnot : ¬ AllTaken assignments dataSpaceId start used steps) :
    ∃ e ledger', runSteps assignments dataSpaceId steps versions ledger = .error e ledger' ∧
      ledger.events <+: ledger'.events ∧
      (ledger'.events = ledger.events ↔ ∃ step rest, steps = step :: rest ∧
        ¬ (step.Taken assignments dataSpaceId start ∧
          ∀ known ∈ used, ¬ Clash known step.stableKey)) := by
  induction steps generalizing used versions ledger with
  | nil =>
    refine absurd ⟨fun _ hmem => ?_, fun _ hmem => ?_, List.Pairwise.nil⟩ hnot
    · cases hmem
    · cases hmem
  | cons step steps ih =>
    rw [allTaken_cons, not_and_or] at hnot
    rw [runSteps, List.foldlM_cons]
    rw [List.forall_mem_cons] at hkeys
    have hstep := h.run_step hspace hvalid (hassigned step List.mem_cons_self) hkeys.1
    by_cases hfirst : step.Taken assignments dataSpaceId start ∧
        ∀ known ∈ used, ¬ Clash known step.stableKey
    · obtain ⟨versions₁, ledger₁, event, hrun, halong, hevents, -⟩ := hstep.1 hfirst
      obtain ⟨e, ledger', hruns, hgrown, -⟩ := ih hkeys.2 halong
        (fun other hother => hassigned other (List.mem_cons_of_mem _ hother))
        (hnot.resolve_left (not_not.mpr hfirst))
      rw [hevents] at hgrown
      refine ⟨e, ledger', (EStateM.run_bind_of_ok hrun).trans hruns,
        (List.prefix_append _ _).trans hgrown, iff_of_false ?_ ?_⟩
      · intro hsame
        have hlength := hgrown.length_le
        rw [hsame, List.length_append, List.length_singleton] at hlength
        omega
      · rintro ⟨other, rest, heq, hrefused⟩
        obtain ⟨rfl, -⟩ := List.cons.inj heq
        exact hrefused hfirst
    · obtain ⟨e, ledger', hrun, hevents⟩ := hstep.2 hfirst
      refine ⟨e, ledger', EStateM.run_bind_of_error hrun, ?_, iff_of_true hevents ?_⟩
      · rw [hevents]
      · exact ⟨step, steps, rfl, hfirst⟩

end Runs

/-! ### The sources of a plan -/

section Sources

omit [Sha256]

variable {records : List LegacyRecord}

theorem contains_firstBySource (records : List LegacyRecord) (source : String) :
    (firstBySource records).contains source = true ↔
      ∃ record ∈ records, record.source = source := by
  have hfold (first : OrderedDict String DateTime) :
      (records.foldl (fun first record =>
        if first.contains record.source then first
        else first.set record.source record.occurredAt) first).contains source = true ↔
        first.contains source = true ∨ ∃ record ∈ records, record.source = source := by
    induction records generalizing first with
    | nil => simp
    | cons record records ih =>
      rw [List.foldl_cons, ih, List.exists_mem_cons_iff, ← or_assoc]
      refine or_congr_left ?_
      split_ifs with hknown
      · refine ⟨Or.inl, ?_⟩
        rintro (h | rfl)
        · exact h
        · exact hknown
      · rw [OrderedDict.contains_set, Bool.or_eq_true, decide_eq_true_eq, or_comm]
  rw [firstBySource, hfold, OrderedDict.contains_empty]
  simp

/-- The steps of the sources. -/
theorem mem_sources_iff {step : LegacyStep} :
    step ∈ (firstBySource records).sortedByKey.entries.map
        (fun entry => LegacyStep.conversationOf entry.1 entry.2) ↔
      ∃ source occurredAt, (firstBySource records).get? source = some occurredAt ∧
        step = .conversationOf source occurredAt := by
  rw [List.mem_map]
  constructor
  · rintro ⟨entry, hmem, rfl⟩
    rw [OrderedDict.mem_entries_iff, OrderedDict.get?_sortedByKey] at hmem
    exact ⟨_, _, hmem, rfl⟩
  · rintro ⟨source, occurredAt, hget, rfl⟩
    refine ⟨(source, occurredAt), ?_, rfl⟩
    rwa [OrderedDict.mem_entries_iff, OrderedDict.get?_sortedByKey]

/-- There is a conversation for each source of a record. -/
theorem length_sources (records : List LegacyRecord) :
    (firstBySource records).sortedByKey.entries.length =
      (records.map LegacyRecord.source).dedup.length := by
  have hkeys : (firstBySource records).sortedByKey.keys.Nodup :=
    (firstBySource records).sortedByKey.nodup_keys
  have hperm : (firstBySource records).sortedByKey.keys.Perm
      (records.map LegacyRecord.source).dedup := by
    rw [List.perm_ext_iff_of_nodup hkeys (List.nodup_dedup _)]
    intro source
    rw [OrderedDict.mem_keys_iff, OrderedDict.contains, OrderedDict.get?_sortedByKey,
      ← OrderedDict.contains, contains_firstBySource, List.mem_dedup, List.mem_map]
  rw [← hperm.length_eq, OrderedDict.keys, List.length_map]

theorem length_legacySteps (records : List LegacyRecord) :
    (legacySteps records).length =
      (records.map LegacyRecord.source).dedup.length + records.length := by
  rw [legacySteps, List.length_append, List.length_map, List.length_map, length_sources]

/-- Every step belongs to the source of a record. -/
theorem sourceName_of_mem {step : LegacyStep} (h : step ∈ legacySteps records) :
    ∃ record ∈ records, record.source = step.sourceName := by
  rcases List.mem_append.mp h with hsource | hrecord
  · obtain ⟨source, occurredAt, hget, rfl⟩ := mem_sources_iff.mp hsource
    rw [← contains_firstBySource]
    exact Option.isSome_of_eq_some hget
  · obtain ⟨record, hmem, rfl⟩ := List.mem_map.mp hrecord
    exact ⟨record, hmem, rfl⟩

end Sources

/-! ### Planned imports -/

section Planned

variable {texts : LegacyText} {root : List SourceFile} {assignment : OwnershipAssignment}
  {plan : DryRun} {scan : LegacyScan}

omit [Sha256] in
private theorem forM_eq_ok_iff {α : Type} {check : α → Except VsmError Unit} {items : List α} :
    items.forM check = .ok () ↔ ∀ item ∈ items, check item = .ok () := by
  induction items with
  | nil => exact iff_of_true rfl fun _ h => by cases h
  | cons item items ih =>
    rw [List.forall_mem_cons, ← ih]
    change (check item >>= fun _ => items.forM check) = .ok () ↔ _
    constructor
    · intro h
      obtain ⟨_, hitem, hitems⟩ := Checked.bind_eq_ok_iff.mp h
      exact ⟨hitem, hitems⟩
    · rintro ⟨hitem, hitems⟩
      rw [hitem]
      exact hitems

omit [Sha256] in
theorem SourceAssignment.valid_of_check {source : String} {assigned : SourceAssignment}
    (h : SourceAssignment.check source assigned = .ok ()) : assigned.Valid := by
  obtain ⟨-, h⟩ := Checked.check_bind_eq_ok_iff.mp h
  obtain ⟨howner, h⟩ := Checked.check_bind_eq_ok_iff.mp h
  obtain ⟨hinterface, h⟩ := Checked.check_bind_eq_ok_iff.mp h
  obtain ⟨hconversation, h⟩ := Checked.check_bind_eq_ok_iff.mp h
  exact ⟨howner, hinterface, hconversation, Checked.check_eq_ok_iff.mp h⟩

/-- **What a dry run has established.** -/
structure Planned (plan : DryRun) (records : List LegacyRecord) : Prop where
  target : isIdentifier plan.targetDataSpaceId = true
  valid : ∀ source assigned, plan.sources.get? source = some assigned → assigned.Valid
  covered : ∀ record ∈ records, (plan.sources.get? record.source).isSome = true
  count : plan.importEventCount =
    (records.map LegacyRecord.source).dedup.length + records.length

omit [Sha256] in
theorem Planned.assigned {records : List LegacyRecord} (h : Planned plan records) :
    ∀ step ∈ legacySteps records, (plan.sources.get? step.sourceName).isSome = true := by
  intro step hstep
  obtain ⟨record, hmem, hname⟩ := sourceName_of_mem hstep
  exact hname ▸ h.covered record hmem

theorem planned_of_buildPlan (hplan : buildPlan texts root assignment = .ok plan)
    (hscan : scanLegacy texts root = .ok scan) : Planned plan scan.records := by
  obtain ⟨scan', hscan', hplan⟩ := Checked.bind_eq_ok_iff.mp hplan
  obtain rfl := Except.ok.inj (hscan.symm.trans hscan')
  obtain ⟨_, hcheck, hplan⟩ := Checked.bind_eq_ok_iff.mp hplan
  obtain ⟨hcovers, hplan⟩ := Checked.check_bind_eq_ok_iff.mp hplan
  obtain ⟨sha, -, hplan⟩ := Checked.bind_eq_ok_iff.mp hplan
  obtain rfl := Except.ok.inj hplan
  rw [OwnershipAssignment.check, validateId] at hcheck
  obtain ⟨htarget, hsources⟩ := Checked.check_bind_eq_ok_iff.mp hcheck
  have hchecked : ∀ entry ∈ assignment.sources.entries,
      SourceAssignment.check entry.1 entry.2 = .ok () := forM_eq_ok_iff.mp hsources
  refine ⟨htarget, fun source assigned hget => ?_, hcovers.1, rfl⟩
  exact SourceAssignment.valid_of_check
    (hchecked (source, assigned) ((OrderedDict.mem_entries_iff _ _ _).mpr hget))

/-- **The import of an unchanged directory** passes the comparisons with the dry run. -/
theorem importFrom_eq (hplan : buildPlan texts root assignment = .ok plan)
    (hscan : scanLegacy texts root = .ok scan) (dataSpaceId : String) :
    (importFrom texts plan root dataSpaceId : EStateM VsmError InMemoryOperationalLedger Nat) =
      importPlan plan.toMigrationPlan scan.records dataSpaceId := by
  obtain ⟨scan', hscan', hplan⟩ := Checked.bind_eq_ok_iff.mp hplan
  obtain rfl := Except.ok.inj (hscan.symm.trans hscan')
  obtain ⟨_, -, hplan⟩ := Checked.bind_eq_ok_iff.mp hplan
  obtain ⟨-, hplan⟩ := Checked.check_bind_eq_ok_iff.mp hplan
  obtain ⟨assignmentSha256, hsha, hplan⟩ := Checked.bind_eq_ok_iff.mp hplan
  cases hplan
  rw [importFrom, hscan]
  change (EStateM.ofExcept (canonicalSha256 texts assignment.dump) >>= _) = _
  rw [hsha]
  change (EStateM.ofExcept (require (_ = _) _) >>= fun _ => EStateM.ofExcept (require (_ = _) _) >>=
    fun _ => EStateM.ofExcept (require (_ = _) _) >>= _) = _
  simp only [require, Checked.check, if_true]
  rfl

end Planned

/-! ### The condition -/

/-- **The records can be imported** into a ledger: it is of the data space, the data models accept
every title and text, every stream that is written fits in a page, and no two keys share their
digest. -/
structure Importable (plan : MigrationPlan) (records : List LegacyRecord) (dataSpaceId : String)
    (ledger : InMemoryOperationalLedger) : Prop where
  data_space : records ≠ [] → dataSpaceId = ledger.dataSpaceId
  titles : ∀ record ∈ records, isNonBlank s!"Imported history: {record.source}" = true
  texts : ∀ record ∈ records, ∀ assigned, plan.sources.get? record.source = some assigned →
    record.Fits assigned
  pages : ∀ record ∈ records, ∀ assigned, plan.sources.get? record.source = some assigned →
    ledger.streamLength assigned.conversationId ≤ 100000 ∧
      (record.kind = .nodeMemory → ledger.streamLength assigned.nodeId ≤ 100000)
  distinct : ((legacySteps records).map LegacyStep.stableKey).Pairwise
    fun key other => ¬ Clash key other

/-- The import is refused before it appends anything: for its data space, or for the conversation
of the first source. -/
def RefusedAtOnce (plan : MigrationPlan) (records : List LegacyRecord) (dataSpaceId : String)
    (ledger : InMemoryOperationalLedger) : Prop :=
  plan.targetDataSpaceId ≠ dataSpaceId ∨
    ∃ source ∈ (firstBySource records).sortedByKey.keys.head?,
      dataSpaceId ≠ ledger.dataSpaceId ∨ isNonBlank s!"Imported history: {source}" = false ∨
        ∃ assigned, plan.sources.get? source = some assigned ∧
          100000 < ledger.streamLength assigned.conversationId

section Condition

variable {plan : MigrationPlan} {records : List LegacyRecord} {dataSpaceId : String}
  {ledger : InMemoryOperationalLedger}

/-- **The steps of an import are all taken** exactly if the records can be imported. -/
theorem allTaken_iff_importable
    (hcovered : ∀ record ∈ records, (plan.sources.get? record.source).isSome = true) :
    AllTaken plan.sources dataSpaceId ledger [] (legacySteps records) ↔
      Importable plan records dataSpaceId ledger := by
  constructor
  · rintro ⟨htaken, -, hdistinct⟩
    have hsource : ∀ record ∈ records, ∃ occurredAt,
        (LegacyStep.conversationOf record.source occurredAt).Taken plan.sources dataSpaceId
          ledger := by
      intro record hmem
      obtain ⟨occurredAt, hget⟩ := Option.isSome_iff_exists.mp
        ((contains_firstBySource records record.source).mpr ⟨record, hmem, rfl⟩)
      exact ⟨occurredAt, htaken _
        (List.mem_append_left _ (mem_sources_iff.mpr ⟨_, _, hget, rfl⟩))⟩
    have hrecord : ∀ record ∈ records,
        (LegacyStep.eventOf record).Taken plan.sources dataSpaceId ledger := fun record hmem =>
      htaken _ (List.mem_append_right _ (List.mem_map_of_mem hmem))
    refine ⟨fun hne => ?_, fun record hmem => ?_, fun record hmem assigned hget => ?_,
      fun record hmem assigned hget => ⟨?_, fun hkind => ?_⟩, hdistinct⟩
    · obtain ⟨record, hmem⟩ := List.exists_mem_of_ne_nil records hne
      obtain ⟨_, -, -, hds, -⟩ := hrecord record hmem
      exact hds
    · obtain ⟨_, _, -, hfits, -⟩ := hsource record hmem
      exact hfits
    · obtain ⟨_, hassigned, hfits, -⟩ := hrecord record hmem
      obtain rfl := Option.some.inj (hget.symm.trans hassigned)
      exact hfits
    · obtain ⟨_, _, hassigned, -, -, hpage⟩ := hsource record hmem
      obtain rfl := Option.some.inj (hget.symm.trans hassigned)
      exact hpage
    · obtain ⟨_, hassigned, -, -, hpage⟩ := hrecord record hmem
      obtain rfl := Option.some.inj (hget.symm.trans hassigned)
      rwa [LegacyStep.streamId, if_pos hkind] at hpage
  · intro h
    refine ⟨fun step hstep => ?_, fun _ _ _ hmem => (by cases hmem), h.distinct⟩
    obtain ⟨record, hmem, hname⟩ := sourceName_of_mem hstep
    obtain ⟨assigned, hassigned⟩ := Option.isSome_iff_exists.mp (hcovered record hmem)
    have hds := h.data_space (List.ne_nil_of_mem hmem)
    rcases List.mem_append.mp hstep with hsource | hrecord
    · obtain ⟨source, occurredAt, -, rfl⟩ := mem_sources_iff.mp hsource
      obtain rfl : record.source = source := hname
      exact ⟨assigned, hassigned, h.titles record hmem, hds, (h.pages record hmem _ hassigned).1⟩
    · obtain ⟨record, hmem, rfl⟩ := List.mem_map.mp hrecord
      obtain ⟨assigned, hassigned⟩ := Option.isSome_iff_exists.mp (hcovered record hmem)
      refine ⟨assigned, hassigned, h.texts record hmem _ hassigned, hds, ?_⟩
      rw [LegacyStep.streamId]
      split_ifs with hkind
      · exact (h.pages record hmem _ hassigned).2 hkind
      · exact (h.pages record hmem _ hassigned).1

/-- The first step is not taken exactly if the import is refused for its ledger or the conversation
of its first source. -/
private theorem first_refused_iff
    (hcovered : ∀ record ∈ records, (plan.sources.get? record.source).isSome = true) :
    (∃ step rest, legacySteps records = step :: rest ∧
        ¬ (step.Taken plan.sources dataSpaceId ledger ∧
          ∀ known ∈ ([] : List String), ¬ Clash known step.stableKey)) ↔
      ∃ source ∈ (firstBySource records).sortedByKey.keys.head?,
        dataSpaceId ≠ ledger.dataSpaceId ∨ isNonBlank s!"Imported history: {source}" = false ∨
          ∃ assigned, plan.sources.get? source = some assigned ∧
            100000 < ledger.streamLength assigned.conversationId := by
  cases hentries : (firstBySource records).sortedByKey.entries with
  | nil =>
    have hrecords : records = [] := by
      have hlength := length_sources records
      rw [hentries, List.length_nil, eq_comm, List.length_eq_zero_iff, List.dedup_eq_nil,
        List.map_eq_nil_iff] at hlength
      exact hlength
    subst hrecords
    refine iff_of_false ?_ ?_
    · rintro ⟨_, _, heq, -⟩
      cases heq
    · rintro ⟨_, hmem, -⟩
      cases hmem
  | cons first rest =>
    have hsteps : legacySteps records = .conversationOf first.1 first.2 ::
        (rest.map (fun entry => LegacyStep.conversationOf entry.1 entry.2) ++
          records.map .eventOf) := by
      rw [legacySteps, hentries]
      rfl
    have hhead : (firstBySource records).sortedByKey.keys.head? = some first.1 := by
      rw [OrderedDict.keys, hentries]
      rfl
    obtain ⟨record, hmem, hsource⟩ := sourceName_of_mem (hsteps ▸ List.mem_cons_self)
    obtain ⟨assigned, hget⟩ := Option.isSome_iff_exists.mp (hcovered record hmem)
    rw [show record.source = first.1 from hsource] at hget
    have htaken : (LegacyStep.conversationOf first.1 first.2).Taken plan.sources dataSpaceId
        ledger ↔ isNonBlank s!"Imported history: {first.1}" = true ∧
          dataSpaceId = ledger.dataSpaceId ∧
          ledger.streamLength assigned.conversationId ≤ 100000 := by
      constructor
      · rintro ⟨_, hother, h⟩
        obtain rfl := Option.some.inj (hget.symm.trans hother)
        exact h
      · exact fun h => ⟨assigned, hget, h⟩
    rw [hhead, hsteps]
    constructor
    · rintro ⟨step, _, heq, hnot⟩
      obtain ⟨rfl, -⟩ := List.cons.inj heq
      refine ⟨first.1, rfl, ?_⟩
      by_contra hall
      rw [not_or, not_or, not_not, Bool.not_eq_false] at hall
      refine hnot ⟨htaken.mpr ⟨hall.2.1, hall.1, ?_⟩, fun _ hknown => by cases hknown⟩
      by_contra hpage
      exact hall.2.2 ⟨assigned, hget, not_le.mp hpage⟩
    · rintro ⟨source, hsource, hrefused⟩
      obtain rfl := Option.some.inj hsource
      refine ⟨_, _, rfl, ?_⟩
      rintro ⟨h, -⟩
      obtain ⟨htitle, hds, hpage⟩ := htaken.mp h
      rcases hrefused with hne | hblank | ⟨other, hother, hlong⟩
      · exact hne hds
      · rw [htitle] at hblank
        cases hblank
      · obtain rfl := Option.some.inj (hget.symm.trans hother)
        omega

end Condition

/-! ### Completeness -/

/-- **The import is complete**: it appends exactly the planned events, one for each source and one
for each record, or it raises before it appends anything. -/
def ImportComplete (texts : LegacyText) (plan : DryRun) (root : List SourceFile)
    (records : List LegacyRecord) (dataSpaceId : String) (ledger : InMemoryOperationalLedger) :
    Prop :=
  (∃ next appended, importFrom texts plan root dataSpaceId ledger =
      .ok plan.importEventCount next ∧ next.events = ledger.events ++ appended ∧
    appended.length = plan.importEventCount ∧ appended.map (·.event.idempotencyKey) =
      (legacySteps records).map fun step => "legacy:" ++ hexdigest (.text step.stableKey)) ∨
  ∃ e next, importFrom texts plan root dataSpaceId ledger = .error e next ∧
    next.events = ledger.events

section Complete

variable {texts : LegacyText} {root : List SourceFile} {assignment : OwnershipAssignment}
  {plan : DryRun} {scan : LegacyScan} {dataSpaceId : String}
  {ledger next : InMemoryOperationalLedger}

variable (ledger) in
/-- An import for another data space raises at once. -/
theorem importFrom_of_other_space (hplan : buildPlan texts root assignment = .ok plan)
    (hscan : scanLegacy texts root = .ok scan) (h : plan.targetDataSpaceId ≠ dataSpaceId) :
    ∃ e, importFrom texts plan root dataSpaceId ledger = .error e ledger := by
  rw [importFrom_eq hplan hscan, importPlan_eq_runSteps, require, Checked.check, if_neg h]
  exact ⟨_, rfl⟩

/-- **An import whose steps return** returns the planned number of events. -/
theorem importFrom_of_runSteps (hplan : buildPlan texts root assignment = .ok plan)
    (hscan : scanLegacy texts root = .ok scan) (htarget : plan.targetDataSpaceId = dataSpaceId)
    {versions : OrderedDict String Nat}
    (h : runSteps plan.sources dataSpaceId (legacySteps scan.records) .empty ledger =
      .ok versions next) :
    importFrom texts plan root dataSpaceId ledger = .ok plan.importEventCount next := by
  have hcount : (legacySteps scan.records).length = plan.importEventCount :=
    (length_legacySteps _).trans (planned_of_buildPlan hplan hscan).count.symm
  rw [importFrom_eq hplan hscan, importPlan_eq_runSteps]
  simp only [require, Checked.check, htarget, hcount, if_true]
  exact EStateM.run_bind_of_ok h

/-- An import whose steps raise raises. -/
theorem importFrom_of_runSteps_error (hplan : buildPlan texts root assignment = .ok plan)
    (hscan : scanLegacy texts root = .ok scan) (htarget : plan.targetDataSpaceId = dataSpaceId)
    {e : VsmError}
    (h : runSteps plan.sources dataSpaceId (legacySteps scan.records) .empty ledger =
      .error e next) :
    importFrom texts plan root dataSpaceId ledger = .error e next := by
  rw [importFrom_eq hplan hscan, importPlan_eq_runSteps]
  simp only [require, Checked.check, htarget, if_true]
  rw [EStateM.run_ofExcept_ok_bind]
  exact EStateM.run_bind_of_error h

section Target

variable (hplan : buildPlan texts root assignment = .ok plan)
  (hscan : scanLegacy texts root = .ok scan) (htarget : plan.targetDataSpaceId = dataSpaceId)
  (hnew : NoLegacy ((legacySteps scan.records).map LegacyStep.stableKey) ledger)

include hplan hscan htarget hnew

/-- Records that can be imported are imported. -/
theorem importComplete_of_importable
    (h : Importable plan.toMigrationPlan scan.records dataSpaceId ledger) :
    ImportComplete texts plan root scan.records dataSpaceId ledger := by
  have hplanned := planned_of_buildPlan hplan hscan
  obtain ⟨versions, next, appended, hrun, -, hevents, hkeys⟩ := hnew.along.run_of_allTaken
    (htarget ▸ hplanned.target) hplanned.valid (fun _ => List.mem_map_of_mem)
      ((allTaken_iff_importable hplanned.covered).mpr h)
  refine Or.inl ⟨next, appended, importFrom_of_runSteps hplan hscan htarget hrun, hevents, ?_,
    hkeys⟩
  rw [← List.length_map (fun stored : StoredEvent => stored.event.idempotencyKey), hkeys,
    List.length_map, length_legacySteps, hplanned.count]

/-- **Records that cannot be imported** leave something behind, unless the first step is refused. -/
theorem importComplete_of_not_importable
    (h : ¬ Importable plan.toMigrationPlan scan.records dataSpaceId ledger) :
    ImportComplete texts plan root scan.records dataSpaceId ledger ↔
      ∃ source ∈ (firstBySource scan.records).sortedByKey.keys.head?,
        dataSpaceId ≠ ledger.dataSpaceId ∨ isNonBlank s!"Imported history: {source}" = false ∨
          ∃ assigned, plan.sources.get? source = some assigned ∧
            100000 < ledger.streamLength assigned.conversationId := by
  have hplanned := planned_of_buildPlan hplan hscan
  obtain ⟨e, next, hrun, -, hsame⟩ := hnew.along.run_of_not_allTaken (htarget ▸ hplanned.target)
    hplanned.valid (fun _ => List.mem_map_of_mem) hplanned.assigned fun hall =>
      h ((allTaken_iff_importable hplanned.covered).mp hall)
  have herror := importFrom_of_runSteps_error hplan hscan htarget hrun
  rw [← first_refused_iff hplanned.covered, ← hsame]
  constructor
  · rintro (⟨_, _, hok, -⟩ | ⟨_, _, herror', hevents⟩)
    · cases herror.symm.trans hok
    · cases herror.symm.trans herror'
      exact hevents
  · exact fun hevents => Or.inr ⟨e, next, herror, hevents⟩

end Target

/-- **The exact condition**: the import of a planned directory is complete exactly if it is refused
at once or its records can be imported. -/
theorem importComplete_iff (hplan : buildPlan texts root assignment = .ok plan)
    (hscan : scanLegacy texts root = .ok scan) (dataSpaceId : String)
    (ledger : InMemoryOperationalLedger)
    (hnew : NoLegacy ((legacySteps scan.records).map LegacyStep.stableKey) ledger) :
    ImportComplete texts plan root scan.records dataSpaceId ledger ↔
      RefusedAtOnce plan.toMigrationPlan scan.records dataSpaceId ledger ∨
        Importable plan.toMigrationPlan scan.records dataSpaceId ledger := by
  by_cases htarget : plan.targetDataSpaceId = dataSpaceId
  · by_cases himportable : Importable plan.toMigrationPlan scan.records dataSpaceId ledger
    · exact iff_of_true (importComplete_of_importable hplan hscan htarget hnew himportable)
        (Or.inr himportable)
    · rw [importComplete_of_not_importable hplan hscan htarget hnew himportable, RefusedAtOnce,
        or_iff_left himportable, or_iff_right (not_not.mpr htarget)]
  · obtain ⟨e, herror⟩ := importFrom_of_other_space ledger hplan hscan htarget
    exact iff_of_true (Or.inr ⟨e, ledger, herror, rfl⟩) (Or.inl (Or.inl htarget))

end Complete

/-! ### A description that is too long -/

mutual

/-- The canonical JSON of texts without escapes, integers, lists and sorted dictionaries. -/
def plainJson : PyValue → List Char
  | .scalar (.str value) => "\"".toList ++ value.toList ++ "\"".toList
  | .scalar (.int value) => (toString value).toList
  | .scalar _ => []
  | .list items | .tuple items => "[".toList ++ plainItems items ++ "]".toList
  | .dict entries => "\x7b".toList ++ plainEntries entries ++ "\x7d".toList

def plainItems : List PyValue → List Char
  | [] => []
  | [item] => plainJson item
  | item :: items => plainJson item ++ ",".toList ++ plainItems items

def plainEntries : List (PyScalar × PyValue) → List Char
  | [] => []
  | [(key, value)] => plainJson (.scalar key) ++ ":".toList ++ plainJson value
  | (key, value) :: entries =>
    plainJson (.scalar key) ++ ":".toList ++ plainJson value ++ ",".toList ++ plainEntries entries

end

/-- A task of the legacy system. -/
def legacyTask (description : String) : JsonEntries :=
  named [("event_type", text "task_submitted"),
    ("payload", .dict (named [("description", text description)])),
    ("ts", text "2026-07-01T12:00:00Z")]

/-- The line of the task in an event log. -/
def legacyLine (description : String) : List UInt8 :=
  (plainJson (.dict (legacyTask description))).map fun c => UInt8.ofNat c.toNat

/-- How the texts of the log are read and written. -/
def legacyTexts (description : String) : LegacyText where
  loads line :=
    if line = legacyLine description then some (.dict (legacyTask description)) else none
  dumps value := String.ofList (plainJson value)
  canonical value := some (String.ofList (plainJson value))
  timestamp value := if value = "2026-07-01T12:00:00Z" then some 1782907200000000 else none

/-- A directory with one event log, which holds the task. -/
def legacyRoot (description : String) : List SourceFile :=
  [⟨["alpha", "events.jsonl"], legacyLine description⟩]

/-- The owner's assignment of the log. -/
def legacyAssignment : OwnershipAssignment where
  targetDataSpaceId := "space:company-1"
  sources := .ofList [("alpha",
    ⟨"owner:1", "node:owner-interface", "conversation:alpha", "node:owner-interface", []⟩)]

/-- The record of the task. -/
def legacyTaskRecord (description : String) : LegacyRecord where
  kind := .commitment
  source := "alpha"
  sourceFile := "alpha/events.jsonl"
  lineNumber := 1
  occurredAt := 1782907200000000
  raw := .text (String.ofList (plainJson (.dict (legacyTask description))))
  sender := none
  text := description

section Example

omit [Sha256]

variable {description : String}

private theorem legacyLine_eq (description : String) :
    legacyLine description =
      (("\x7b\"event_type\":\"task_submitted\",\"payload\":\x7b\"description\":\"".toList ++
        description.toList) ++ "\"\x7d,\"ts\":\"2026-07-01T12:00:00Z\"\x7d".toList).map
          fun c => UInt8.ofNat c.toNat := by
  rw [legacyLine]
  simp only [legacyTask, named, Nanihold.text, List.map_cons, List.map_nil, plainJson,
    plainEntries, List.append_assoc]
  rfl

/-- The line is one line, and not a blank one. -/
private theorem legacyLine_spec (hdescription : ∀ c ∈ description.toList, c = 'x') :
    isBlankLine (legacyLine description) = false ∧
      splitLines (legacyLine description) = [legacyLine description] := by
  have hblank : isBlankLine (legacyLine description) = false := by
    rw [legacyLine_eq, List.map_append, List.map_append, isBlankLine, List.all_append,
      List.all_append, Bool.and_assoc]
    exact Bool.and_eq_false_imp.mpr fun h => absurd h (by decide)
  refine ⟨hblank, Lines.split_of_forall ?_ ?_⟩
  · intro hnil
    rw [hnil] at hblank
    cases hblank
  · rw [legacyLine_eq, List.map_append, List.map_append, List.forall_mem_append,
      List.forall_mem_append]
    refine ⟨⟨by decide +kernel, ?_⟩, by decide +kernel⟩
    intro b hb
    obtain ⟨c, hc, rfl⟩ := List.mem_map.mp hb
    rw [hdescription c hc]
    decide

/-- **The scan of the directory** finds the record. -/
private theorem scanLegacy_legacyRoot [Sha256] (hdescription : ∀ c ∈ description.toList, c = 'x')
    (hne : description ≠ "") :
    ∃ scan, scanLegacy (legacyTexts description) (legacyRoot description) = .ok scan ∧
      scan.records = [legacyTaskRecord description] := by
  obtain ⟨hblank, hsplit⟩ := legacyLine_spec hdescription
  have hline : scanLine (legacyTexts description)
      ⟨["alpha", "events.jsonl"], legacyLine description⟩ 1 (legacyLine description) =
        .ok (some ⟨.commitment, "alpha", "alpha/events.jsonl", 1, 1782907200000000,
          legacyTask description⟩) := by
    rw [scanLine, hblank, if_neg Bool.false_ne_true, legacyTexts]
    simp only [if_true]
    rfl
  have hfile : scanFile (legacyTexts description)
      ⟨["alpha", "events.jsonl"], legacyLine description⟩ =
        .ok [⟨.commitment, "alpha", "alpha/events.jsonl", 1, 1782907200000000,
          legacyTask description⟩] := by
    rw [scanFile, if_pos (by rfl), hsplit]
    change (List.mapM (fun line => scanLine _ _ line.2 line.1) [(legacyLine description, 1)] >>=
      fun lines => Except.ok lines.reduceOption) = _
    rw [List.mapM_cons, hline]
    rfl
  have htext : legacyText (legacyTexts description) (legacyTask description) ["description"] =
      description := by
    have hstrip : strip description = description := strip_of_forall fun c hc => by
      rw [hdescription c hc]
      decide
    change (((["description", "payload"] : List String).findSome? fun key =>
      (textOf (named [("description", text description)]) key).filter fun value =>
        strip value ≠ "").getD _) = description
    rw [List.findSome?_cons, show textOf (named [("description", text description)]) "description" =
      some description from rfl, Option.filter_some, hstrip, if_pos (decide_eq_true hne)]
    rfl
  have hrecord : ScannedEvent.record (legacyTexts description) ⟨.commitment, "alpha",
      "alpha/events.jsonl", 1, 1782907200000000, legacyTask description⟩ =
        .ok (legacyTaskRecord description) := by
    rw [ScannedEvent.record]
    change Except.ok (LegacyRecord.mk _ _ _ _ _ _ _
      (legacyText (legacyTexts description) (legacyTask description) ["description"])) = _
    rw [htext]
    rfl
  have hfiles : (legacyRoot description).mapM (scanFile (legacyTexts description)) =
      .ok [[⟨.commitment, "alpha", "alpha/events.jsonl", 1, 1782907200000000,
        legacyTask description⟩]] := by
    rw [legacyRoot, List.mapM_cons, hfile]
    rfl
  have hrecords : List.mapM (ScannedEvent.record (legacyTexts description))
      [⟨.commitment, "alpha", "alpha/events.jsonl", 1, 1782907200000000,
        legacyTask description⟩] = .ok [legacyTaskRecord description] := by
    rw [List.mapM_cons, hrecord]
    rfl
  exact ⟨_, Checked.bind_eq_ok_iff.mpr ⟨_, hfiles, Checked.bind_eq_ok_iff.mpr ⟨_, hrecords, rfl⟩⟩,
    rfl⟩

/-- The dry run accepts the directory. -/
theorem buildPlan_legacyRoot [Sha256] (hdescription : ∀ c ∈ description.toList, c = 'x')
    (hne : description ≠ "") :
    ∃ plan scan, buildPlan (legacyTexts description) (legacyRoot description) legacyAssignment =
        .ok plan ∧ plan.targetDataSpaceId = "space:company-1" ∧
      scanLegacy (legacyTexts description) (legacyRoot description) = .ok scan ∧
      scan.records = [legacyTaskRecord description] := by
  obtain ⟨scan, hscan, hrecords⟩ := scanLegacy_legacyRoot hdescription hne
  have hcheck : legacyAssignment.check = .ok () := by decide +kernel
  have hcovers : legacyAssignment.Covers scan.records := by
    rw [hrecords]
    refine ⟨fun record hmem => ?_, fun source hmem => ?_⟩
    · rw [List.mem_singleton.mp hmem]
      rfl
    · exact ⟨_, List.mem_singleton_self _, (List.mem_singleton.mp hmem).symm⟩
  exact ⟨_, scan, Checked.bind_eq_ok_iff.mpr ⟨_, hscan, Checked.bind_eq_ok_iff.mpr ⟨_, hcheck,
    Checked.check_bind_eq_ok_iff.mpr ⟨hcovers, rfl⟩⟩⟩, rfl, hscan, hrecords⟩

/-- A description of some length. -/
def longDescription (length : Nat) : String := String.ofList (List.replicate length 'x')

theorem mem_longDescription {length : Nat} :
    ∀ c ∈ (longDescription length).toList, c = 'x' := by
  rw [longDescription, String.toList_ofList]
  exact fun c hc => List.eq_of_mem_replicate hc

private theorem length_longDescription (length : Nat) :
    (longDescription length).length = length := by
  rw [longDescription, String.length_ofList, List.length_replicate]

theorem longDescription_ne {length : Nat} (h : 0 < length) : longDescription length ≠ "" := by
  intro hempty
  have hlength := length_longDescription length
  rw [hempty, String.length_empty] at hlength
  omega

theorem noLegacy_new [Sha256] (keys : List String) (dataSpaceId : String) :
    NoLegacy keys (.new dataSpaceId) := by
  intro _ hstored
  cases hstored

/-- A task with a short description. -/
theorem importComplete_short :
    letI := Sha256.polynomial
    ∃ plan scan, buildPlan (legacyTexts (longDescription 1)) (legacyRoot (longDescription 1))
        legacyAssignment = .ok plan ∧
      scanLegacy (legacyTexts (longDescription 1)) (legacyRoot (longDescription 1)) = .ok scan ∧
      (ImportComplete (legacyTexts (longDescription 1)) plan (legacyRoot (longDescription 1))
          scan.records "space:company-1" (.new "space:company-1") ↔
        RefusedAtOnce plan.toMigrationPlan scan.records "space:company-1"
            (.new "space:company-1") ∨
          Importable plan.toMigrationPlan scan.records "space:company-1"
            (.new "space:company-1")) := by
  let := Sha256.polynomial
  obtain ⟨plan, scan, hplan, -, hscan, -⟩ :=
    buildPlan_legacyRoot mem_longDescription (longDescription_ne Nat.one_pos)
  exact ⟨plan, scan, hplan, hscan, importComplete_iff hplan hscan _ _ (noLegacy_new _ _)⟩

/-- **A description of 513 characters** passes the dry run; the import appends the conversation, and
then the data model of the commitment refuses the description. -/
theorem long_description_breaks_importComplete :
    letI := Sha256.polynomial
    ∃ plan scan, buildPlan (legacyTexts (longDescription 513)) (legacyRoot (longDescription 513))
        legacyAssignment = .ok plan ∧
      scanLegacy (legacyTexts (longDescription 513)) (legacyRoot (longDescription 513)) =
        .ok scan ∧
      NoLegacy ((legacySteps scan.records).map LegacyStep.stableKey) (.new "space:company-1") ∧
      ¬ ImportComplete (legacyTexts (longDescription 513)) plan (legacyRoot (longDescription 513))
        scan.records "space:company-1" (.new "space:company-1") := by
  let := Sha256.polynomial
  have hlong : longDescription 513 ≠ "" := longDescription_ne (by omega)
  obtain ⟨plan, scan, hplan, htarget, hscan, hrecords⟩ :=
    buildPlan_legacyRoot mem_longDescription hlong
  refine ⟨plan, scan, hplan, hscan, noLegacy_new _ _, ?_⟩
  have hcovered := (planned_of_buildPlan hplan hscan).covered
  rw [hrecords] at hcovered
  obtain ⟨assigned, hassigned⟩ :=
    Option.isSome_iff_exists.mp (hcovered _ (List.mem_singleton_self _))
  rw [importComplete_of_not_importable hplan hscan htarget (noLegacy_new _ _), hrecords]
  · rintro ⟨source, hsource, hrefused⟩
    obtain rfl := Option.some.inj hsource
    rcases hrefused with hne | hblank | ⟨other, -, hlong⟩
    · exact hne rfl
    · revert hblank
      decide
    · cases hlong
  · intro h
    rw [hrecords] at h
    have hfits := h.texts _ (List.mem_singleton_self _) _ hassigned
    change isNonBlank (longDescription 513) = true at hfits
    rw [isNonBlank, length_longDescription] at hfits
    cases hfits

end Example

end Nanihold
