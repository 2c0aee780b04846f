import Nanihold.Dispatcher
import Nanihold.Replay.KernelSync

/-!
# Reorientation

`vsm.activation.reorientation.ReorientationService`, with the two loops of its history tools that
follow the cursors of LETHE's pages: the scan of the session index and the listing of the open
commitments. The reader, the Pilot and the other writers of the data space are collaborators with a
memory of their own.

## Main definitions

* `ReorientationTurn` — what the Pilot is shown in one round.
* `ReorientationService` — the service with its collaborators.
* `ReorientationService.scanSessionIndex`, `ReorientationService.materializeOpenCommitments` — the
  loops over pages, for at most a number of pages.
* `readDelta` — the events between two cursors, read page by page.
* `ReorientationService.executeRounds`, `ReorientationService.execute` — the rounds with the Pilot.
-/

namespace Nanihold

/-! ### Data models -/

structure ReorientationWorkItemSummary where
  workItemId : Identifier
  title : NonBlank
  description : NonBlank
  acceptanceCriteria : List NonBlank
  state : WorkState
  deriving DecidableEq

/-- What the Pilot must copy into an assessment. -/
structure ReorientationAssessmentContract where
  importId : Identifier
  canonicalConversationId : Identifier
  coveredSessionIndexRef : NonBlank
  coveredSessionCount : Nat
  openCommitmentIds : List Identifier
  resumeWorkItems : List ReorientationWorkItemSummary
  minimumHistoryCursor : Nat
  deriving DecidableEq

/-- What the Pilot is shown in one round. The contract is sent in full on the initial turn alone. -/
structure ReorientationTurn where
  providerSessionId : Option NonBlank
  eventDelta : EventDeltaSummary
  historyResult : HistoryToolResult
  objective : NonBlank
  sessionIndexRef : NonBlank
  openCommitmentRefs : List NonBlank
  currentStateRef : NonBlank
  assessmentContract : ReorientationAssessmentContract
  auditedHistoryEventIds : List Identifier
  sessionIndexEventIds : List Identifier
  assessmentContractIncluded : Bool
  deriving DecidableEq

/-- The arguments of `execute`. -/
structure ReorientationRequest where
  initialAction : ReadHistoryAction
  actorId : String
  idempotencyKey : String
  maxToolRounds : Nat
  objective : String
  sessionIndexRef : String
  openCommitmentRefs : List String
  currentStateRef : String

/-! ### The service -/

variable [Sha256]

/-- The service. Its collaborators share a memory: the history reader and the Pilot answer from it,
the clock and the identifier generator are read off it, and the other writers of the data space
do something whenever the service gives them the chance. -/
structure ReorientationService (ρ : Type) where
  read (operation : HistoryOperation) (argument pageCursor : Option NonBlank) :
    EStateM VsmError ρ HistoryPage
  respondReorientation (context : ReorientationTurn) :
    EStateM VsmError ρ StructuredInterfaceResponse
  maxResultBytes : Nat
  clock : ρ → Clock
  newId : ρ → Nat → Identifier
  others : ρ → MemorySystem → MemorySystem × ρ
  max_result_bytes_pos : 0 < maxResultBytes

/-- A run of the service: the data space, the collaborators' memory and what the Pilot was shown and
answered so far. -/
structure ReorientationRun (ρ : Type) where
  system : MemorySystem
  memory : ρ
  rounds : List (ReorientationTurn × Except VsmError StructuredInterfaceResponse)

abbrev ReorientationM (ρ α : Type) := EStateM VsmError (ReorientationRun ρ) α

omit [Sha256] in
instance (ρ : Type) : Component (ReorientationRun ρ) MemorySystem where
  read run := run.system
  write run s := { run with system := s }
  read_write _ _ := rfl
  write_write _ _ _ := rfl

/-- Run a program of the data space. -/
def onDataSpace {ρ α : Type} (x : SystemM InMemoryOperationalLedger α) : ReorientationM ρ α :=
  EStateM.zoom x

/-- Run a program of the collaborators. -/
def onMemory {ρ α : Type} (x : EStateM VsmError ρ α) : ReorientationM ρ α := fun run =>
  match x run.memory with
  | .ok a memory => .ok a { run with memory := memory }
  | .error e memory => .error e { run with memory := memory }

namespace ReorientationService

variable {ρ : Type} (service : ReorientationService ρ)

/-- The other writers have their chance. -/
def await : ReorientationM ρ Unit := fun run =>
  .ok () { run with
    system := (service.others run.memory run.system).1
    memory := (service.others run.memory run.system).2 }

/-- `resolve`, with the page that the reader returns. -/
def resolve (action : ReadHistoryAction) (actorId idempotencyKey : String) :
    ReorientationM ρ HistoryToolResult := do
  service.await
  let reply ← onMemory
    (EStateM.attempt (service.read action.operation action.argument action.pageCursor))
  let run ← get
  onDataSpace (resolveHistory service.maxResultBytes action reply actorId idempotencyKey
    (service.clock run.memory))

/-! ### The session index -/

end ReorientationService

/-- The checks of one page of the session index, and the sessions it lists. -/
def checkSessionPage (maxResultBytes : Nat) (page : HistoryPage) :
    Except VsmError (List String) := do
  let _ ← found page.items "LETHE list_sessions result must be a list"
  require (page.encoded.utf8ByteSize ≤ maxResultBytes)
    "LETHE session index page exceeded max_result_bytes"
  sessionRefs page

/-- The audit of an index that was read: it must list the sessions of the receipt. -/
def recordVerifiedIndex (receipt : HistoryImportReceipt)
    (index : List (Option String × HistoryPage) × List String) (actorId idempotencyKey : String)
    (clock : Clock) : SystemM InMemoryOperationalLedger (List HistoryToolResult) := do
  let s ← get
  EStateM.ofExcept <| require (index.2.toFinset = s.kernel.activation.sessions.keys.toFinset ∧
      index.2.toFinset.card = receipt.sessionCount)
    "LETHE session index differs from verified import receipt"
  recordSessionIndex actorId idempotencyKey index.1 clock

namespace ReorientationService

variable {ρ : Type} (service : ReorientationService ρ)

/-- One page of the session index. -/
def readSessionPage (cursor : Option NonBlank) :
    EStateM VsmError ρ (HistoryPage × List String) := do
  let page ← service.read .listSessions none cursor
  let refs ← EStateM.ofExcept (checkSessionPage service.maxResultBytes page)
  return (page, refs)

/-- The loop of `scan_session_index`: the pages with the cursors they were read at, and the sessions
observed. The first argument bounds the number of pages; `none` says that it was used up. -/
def readSessionIndex : Nat → Option NonBlank →
    EStateM VsmError ρ (Option (List (Option String × HistoryPage) × List String))
  | 0, _ => return none
  | fuel + 1, cursor => do
    let (page, refs) ← service.readSessionPage cursor
    match page.nextCursor with
    | none => return some ([(cursor, page)], refs)
    | some next =>
      let rest ← readSessionIndex fuel (some next)
      return rest.map fun index => ((cursor, page) :: index.1, refs ++ index.2)

/-- `scan_session_index`. Reading and recording do not alternate: an event between two pages would
invalidate the reader's cursor. -/
def scanSessionIndex (fuel : Nat) (receipt : HistoryImportReceipt)
    (actorId idempotencyKey : String) : ReorientationM ρ (Option (List HistoryToolResult)) := do
  match ← onMemory (service.readSessionIndex fuel none) with
  | none => return none
  | some index =>
    service.await
    let run ← get
    let results ← onDataSpace (recordVerifiedIndex receipt index actorId idempotencyKey
      (service.clock run.memory))
    return some results

end ReorientationService

/-! ### Open commitments -/

/-- The commitment that one item of a page describes. -/
def openCommitment (conversationId : String) (item : Option HistoryItem) :
    Except VsmError Commitment := do
  let item ← found item "LETHE open commitment must be an object"
  let commitmentId ← found item.commitmentId "LETHE open commitment fields are invalid"
  let statement ← found item.text "LETHE open commitment fields are invalid"
  if !(isIdentifier commitmentId && isIdentifier conversationId && isNonBlank statement) then
    throw (.validationError "Commitment")
  return {
    commitmentId := commitmentId
    conversationId := conversationId
    statement := statement
    workItemId := none
    state := .open }

/-- The commitments that a page describes. -/
def openCommitments (conversationId : String) (page : HistoryPage) :
    Except VsmError (List Commitment) := do
  let items ← found page.items "LETHE open commitments result must be a list"
  items.mapM (openCommitment conversationId)

namespace ReorientationService

variable {ρ : Type} (service : ReorientationService ρ)

/-- One page of the open commitments. -/
def resolveCommitmentPage (actorId idempotencyKey : String) (pageCursor : Option NonBlank) :
    ReorientationM ρ HistoryToolResult := do
  let run ← get
  service.resolve ⟨service.newId run.memory 0, .listOpenCommitments, none, pageCursor⟩ actorId
    (idempotencyKey ++ ":" ++ ActivationService.sessionIndexRecording.pageOrFirst pageCursor)

/-- The loop of `_materialize_open_commitments`: the commitments with the events of the pages that
listed them. The first argument bounds the number of pages; `none` says that it was used up. -/
def readOpenCommitments (conversationId actorId idempotencyKey : String) :
    Nat → Option NonBlank → ReorientationM ρ (Option (List Commitment × List Identifier))
  | 0, _ => return none
  | fuel + 1, pageCursor => do
    let result ← service.resolveCommitmentPage actorId idempotencyKey pageCursor
    let commitments ← EStateM.ofExcept (openCommitments conversationId result.page)
    match result.page.nextCursor with
    | none => return some (commitments, [result.resultEventId])
    | some next =>
      let rest ← readOpenCommitments conversationId actorId idempotencyKey fuel (some next)
      return rest.map fun rest => (commitments ++ rest.1, result.resultEventId :: rest.2)

/-- `_materialize_open_commitments`. -/
def materializeOpenCommitments (fuel : Nat) (actorId idempotencyKey : String) :
    ReorientationM ρ (Option Unit) := do
  let run ← get
  let conversationId ← EStateM.ofExcept
    (found run.system.kernel.activation.reorientationConversationId
      "history commitments require canonical Conversation")
  match ← service.readOpenCommitments conversationId actorId idempotencyKey fuel none with
  | none => return none
  | some (commitments, resultEventIds) =>
    service.await
    let run ← get
    let _ ← onDataSpace <| perform fun s : MemorySystem =>
      s.interface.materializeHistoryCommitments conversationId commitments resultEventIds actorId
        idempotencyKey (service.clock run.memory)
    return some ()

end ReorientationService

/-! ### Event deltas -/

/-- The loop of `_delta`: page after page until the cursor is reached. The number bounds the pages
and is never used up. -/
def readDelta (ledger : InMemoryOperationalLedger) (throughCursor : Nat) :
    Nat → Dispatcher.DeltaScan → Except VsmError Dispatcher.DeltaScan
  | 0, _ => throw (.raised "page bound")
  | pages + 1, scan =>
    if scan.cursor < throughCursor then do
      let page ← ledger.page scan.cursor (min 500 (throughCursor - scan.cursor))
      require (page ≠ []) "reorientation Event Ledger delta ended early"
      readDelta ledger throughCursor pages
        ((page.takeWhile (·.cursor ≤ throughCursor)).foldl Dispatcher.DeltaScan.count scan)
    else return scan

/-- `_delta`. -/
def reorientationDelta (ledger : InMemoryOperationalLedger) (afterCursor throughCursor : Nat) :
    Except VsmError EventDeltaSummary := do
  let scan ← readDelta ledger throughCursor (throughCursor - afterCursor + 1)
    ⟨afterCursor, .empty, []⟩
  return { scan.summary afterCursor with throughCursor := throughCursor }

/-! ### Rounds with the Pilot -/

/-- The contract of an attempt: what is verified, in the order of the identities. -/
def buildAssessmentContract (s : MemorySystem) (receipt : HistoryImportReceipt)
    (conversationId : String) : Except VsmError ReorientationAssessmentContract :=
  if isIdentifier receipt.inventoryId && isIdentifier conversationId then
    .ok
      { importId := receipt.inventoryId
        canonicalConversationId := conversationId
        coveredSessionIndexRef := receipt.sessionIndexRef
        coveredSessionCount := receipt.sessionCount
        openCommitmentIds := ((s.interface.commitments.values.filter (·.state = .open)).map
          (·.commitmentId)).insertionSort (· ≤ ·)
        resumeWorkItems := (s.kernel.workItems.values.insertionSort
            (·.workItemId ≤ ·.workItemId)).map fun item =>
          ⟨item.workItemId, item.title, item.description, item.acceptanceCriteria, item.state⟩
        minimumHistoryCursor := s.kernel.activation.importEventCursor }
  else .error (.validationError "ReorientationAssessmentContract")

/-- `ReorientationTurn(…)`, with the checks of its data model. -/
def buildReorientationTurn (request : ReorientationRequest)
    (contract : ReorientationAssessmentContract) (sessionIndexEventIds : List Identifier)
    (providerSessionId : Option NonBlank) (eventDelta : EventDeltaSummary)
    (historyResult : HistoryToolResult) (auditedHistoryEventIds : List Identifier) :
    Except VsmError ReorientationTurn :=
  if isNonBlank request.objective && isNonBlank request.sessionIndexRef &&
      request.openCommitmentRefs.all isNonBlank && isNonBlank request.currentStateRef then
    .ok
      { providerSessionId := providerSessionId
        eventDelta := eventDelta
        historyResult := historyResult
        objective := request.objective
        sessionIndexRef := request.sessionIndexRef
        openCommitmentRefs := request.openCommitmentRefs
        currentStateRef := request.currentStateRef
        assessmentContract := contract
        auditedHistoryEventIds := auditedHistoryEventIds
        sessionIndexEventIds := sessionIndexEventIds
        assessmentContractIncluded := providerSessionId.isNone }
  else .error (.validationError "ReorientationTurn")

/-- What a response asks for: it submits an assessment or requests one history query. -/
def nextReorientationAction (actions : List InterfaceAction) :
    Except VsmError (ReadHistoryAction ⊕ SubmitReorientationAction) :=
  let historyActions := actions.filterMap fun
    | .readHistory action => some action
    | _ => none
  let submissions := actions.filterMap fun
    | .submitReorientation action => some action
    | _ => none
  match submissions, historyActions with
  | submission :: others, _ => do
    require (actions.length = 1 ∧ others = []) "reorientation submission must be the only action"
    return .inr submission
  | [], action :: others => do
    require (actions.length = 1 ∧ others = [])
      "reorientation response must request one history query or submit"
    return .inl action
  | [], [] =>
    throw (.invariantViolation "reorientation response must request one history query or submit")

namespace ReorientationService

variable {ρ : Type} (service : ReorientationService ρ)

/-- Run a command of the data space after the other writers. -/
def command (c : ActivationCommand) : ReorientationM ρ Unit := do
  service.await
  let run ← get
  onDataSpace (c.run (service.clock run.memory))

/-- Show the Pilot a turn; its answer is kept beside it. -/
def respond (turn : ReorientationTurn) : ReorientationM ρ StructuredInterfaceResponse := do
  let reply ← onMemory (EStateM.attempt (service.respondReorientation turn))
  modify fun run => { run with rounds := run.rounds ++ [(turn, reply)] }
  EStateM.ofExcept reply

/-- An assessment is submitted and materialized. -/
def submit (request : ReorientationRequest) (assessment : ReorientationAssessment)
    (providerSessionId : NonBlank) : ReorientationM ρ Unit := do
  service.await
  let run ← get
  EStateM.ofExcept <| require
    (run.system.interface.conversations.contains assessment.conversationId = true)
    "reorientation assessment references no canonical Conversation"
  service.command <| .submitAssessment assessment
    ((run.system.interface.commitments.values.filter (·.state = .open)).map (·.commitmentId))
    run.system.kernel.workItems.keys true request.actorId (request.idempotencyKey ++ ":assessment")
  service.await
  let run ← get
  let _ ← onDataSpace <| perform fun s : MemorySystem =>
    s.interface.materializeReorientationAssessment assessment request.actorId
      (request.idempotencyKey ++ ":materialize") (service.newId run.memory 0)
      (fun index => service.newId run.memory (index + 1)) (service.clock run.memory)
  service.await
  let run ← get
  let _ ← onDataSpace <| perform fun s : MemorySystem =>
    s.interface.recordReorientationSession assessment.conversationId providerSessionId
      request.actorId (request.idempotencyKey ++ ":session") (service.newId run.memory 0)
      (service.clock run.memory)

/-- One round: the Pilot is shown the events since the last result and the result, and its session
and usage are recorded. -/
def executeRound (request : ReorientationRequest) (contract : ReorientationAssessmentContract)
    (sessionIndexEventIds : List Identifier) (roundIndex afterCursor : Nat)
    (result : HistoryToolResult) (providerSessionId : Option NonBlank)
    (auditedHistoryEventIds : List Identifier) : ReorientationM ρ StructuredInterfaceResponse := do
  service.await
  let run ← get
  let delta ← EStateM.ofExcept
    (reorientationDelta run.system.ledger afterCursor result.eventCursor)
  let turn ← EStateM.ofExcept (buildReorientationTurn request contract sessionIndexEventIds
    providerSessionId delta result auditedHistoryEventIds)
  let response ← service.respond turn
  service.command (.recordReorientationSessionCheckpoint response.providerSessionId request.actorId
    (request.idempotencyKey ++ ":session-checkpoint:" ++ toString roundIndex))
  service.command (.recordReorientationUsage response.pilotUsage.inputTokens
    response.pilotUsage.outputTokens request.actorId
    (request.idempotencyKey ++ ":usage:" ++ toString roundIndex))
  return response

/-- The rounds of `execute`. -/
def executeRounds (request : ReorientationRequest) (contract : ReorientationAssessmentContract)
    (sessionIndexEventIds : List Identifier) : Nat → Nat → Nat → HistoryToolResult →
      Option NonBlank → List Identifier → ReorientationM ρ StructuredInterfaceResponse
  | 0, _, _, _, _, _ =>
    throw (.invariantViolation "reorientation exceeded explicit history tool budget")
  | rounds + 1, roundIndex, afterCursor, result, providerSessionId, auditedHistoryEventIds => do
    let response ← service.executeRound request contract sessionIndexEventIds roundIndex afterCursor
      result providerSessionId auditedHistoryEventIds
    match ← EStateM.ofExcept (nextReorientationAction response.actions) with
    | .inr submission =>
      service.submit request submission.assessment response.providerSessionId
      return response
    | .inl action =>
      let next ← service.resolve action request.actorId
        (request.idempotencyKey ++ ":round:" ++ toString roundIndex)
      executeRounds request contract sessionIndexEventIds rounds (roundIndex + 1)
        result.eventCursor next (some response.providerSessionId)
        (auditedHistoryEventIds ++ [next.resultEventId])

/-- `execute`. The first argument bounds the pages of the two loops over pages; `none` says that it
was used up. -/
def execute (fuel : Nat) (request : ReorientationRequest) :
    ReorientationM ρ (Option StructuredInterfaceResponse) := do
  EStateM.ofExcept (require (0 < request.maxToolRounds) "max_tool_rounds must be positive")
  EStateM.ofExcept <| require (request.initialAction.operation ≠ .listSessions)
    "initial reorientation action cannot list_sessions"
  let run ← get
  let receipt ← EStateM.ofExcept (found run.system.kernel.activation.importReceipt
    "reorientation requires a verified activation contract")
  match ← service.scanSessionIndex fuel receipt request.actorId
    (request.idempotencyKey ++ ":session-index") with
  | none => return none
  | some sessionPages =>
    let result ← service.resolve request.initialAction request.actorId
      (request.idempotencyKey ++ ":initial")
    match ← service.materializeOpenCommitments fuel request.actorId
      (request.idempotencyKey ++ ":commitments") with
    | none => return none
    | some () =>
      service.await
      let run ← get
      let activation := run.system.kernel.activation
      let conversationId ← EStateM.ofExcept (found activation.reorientationConversationId
        "reorientation requires a verified activation contract")
      let contract ← EStateM.ofExcept (buildAssessmentContract run.system receipt conversationId)
      let response ← service.executeRounds request contract (sessionPages.map (·.resultEventId))
        request.maxToolRounds 0 activation.importEventCursor result
        activation.reorientationProviderSessionId [result.resultEventId]
      return some response

end ReorientationService

end Nanihold
