import Nanihold.Activation.Service

/-!
# History tools

The typed port through which a reorientation reads LETHE's history, as
`vsm.activation.reorientation.HistoryToolService` defines it: one audited query, and the
traversal of the session index that precedes every attempt. The history reader is a
collaborator; its answers are arguments.

## Main definitions

* `HistoryPage` — a page as the reader returns it.
* `requirePage` — the checks of a query's operation and argument.
* `ActivationService.historyQueryRecording`, `ActivationService.sessionIndexRecording` — the
  audit events.
* `traverseSessionIndex` — the stable read of the whole session index.
-/

namespace Nanihold

/-- What the tools read of a JSON object: the fields that hold strings. -/
structure HistoryItem where
  sessionRef : Option String
  commitmentId : Option String
  text : Option String
  deriving DecidableEq

/-- A page of history: the canonical text of its result, the items when the result is a list
(`none` for an item that is not an object) and the cursors. -/
structure HistoryPage where
  encoded : String
  items : Option (List (Option HistoryItem))
  nextCursor : Option NonBlank
  sourceCursor : NonBlank
  deriving DecidableEq

/-- What one audited query returns. -/
structure HistoryToolResult where
  page : HistoryPage
  resultEventId : Identifier
  eventCursor : Nat
  deriving DecidableEq

/-- Whether the operation takes an argument: it may be required, forbidden or optional. -/
def requireArgument (action : ReadHistoryAction) : Except VsmError Unit :=
  match action.operation with
  | .listSessions =>
    throw (.invariantViolation
      "list_sessions is a deterministic reorientation preflight, not a Pilot tool")
  | .readTimeline | .readRaw | .search | .resolveReference =>
    require (action.argument ≠ none)
      (action.operation.value ++ " requires an explicit argument")
  | .listOpenCommitments =>
    require (action.argument = none)
      (action.operation.value ++ " does not accept an argument")
  | .getCurrentState => .ok ()

/-- The page that answers a query, with the checks made before and after the reader is
asked. -/
def requirePage (a : ActivationService) (maxResultBytes : Nat) (action : ReadHistoryAction)
    (reply : Except VsmError HistoryPage) : Except VsmError HistoryPage := do
  require (a.state = .reorientationOnly) "history tools require reorientation-only state"
  requireArgument action
  let page ← reply
  require (page.encoded.utf8ByteSize ≤ maxResultBytes)
    ("LETHE history page exceeded max_result_bytes; " ++
      "implicit truncation is forbidden")
  return page

/-- Every item of a session index page names a session. -/
def sessionRefs (page : HistoryPage) : Except VsmError (List String) := do
  let items ← found page.items "LETHE list_sessions result must be a list"
  items.mapM fun item =>
    found (item.bind (·.sessionRef)) "LETHE session index item is invalid"

/-- The loop of `scan_session_index` over the reader's answers: the pages with the cursors
they were read at, and the sessions observed. It ends at the first page without a next
cursor; when the answers run out first, the reader has raised. -/
def traverseSessionIndex (maxResultBytes : Nat) :
    Option String → List (Except VsmError HistoryPage) →
      Except VsmError (List (Option String × HistoryPage) × List String)
  | _, [] => throw (.raised "history reader is unavailable")
  | cursor, reply :: replies => do
    let page ← reply
    let _ ← found page.items "LETHE list_sessions result must be a list"
    require (page.encoded.utf8ByteSize ≤ maxResultBytes)
      "LETHE session index page exceeded max_result_bytes"
    let refs ← sessionRefs page
    match page.nextCursor with
    | none => return ([(cursor, page)], refs)
    | some next => do
      let (pages, observed) ← traverseSessionIndex maxResultBytes (some next) replies
      return ((cursor, page) :: pages, refs ++ observed)

namespace ActivationService

variable [Sha256] (a : ActivationService)

/-- The audit event of `resolve`. -/
def historyQueryRecording (action : ReadHistoryAction) (page : HistoryPage)
    (actorId idempotencyKey : String) (clock : Clock) : Recording ActivationService :=
  a.recording
    (.historyQueryResolved action.actionId action.operation action.argument action.pageCursor
      page.nextCursor page.sourceCursor (blobRef (.text page.encoded))
      (hexdigest (.text page.encoded)))
    "pilot" (some actorId) idempotencyKey (clock 0)
    fun event _ a =>
      { a with
        historyQueryOperations := insert action.operation a.historyQueryOperations
        historyQueryEventIds := insert event.eventId a.historyQueryEventIds }

/-- The audit event of one page of the session index. -/
def sessionIndexRecording (pageCursor : Option String) (page : HistoryPage)
    (actorId idempotencyKey : String) (clock : Clock) : Recording ActivationService :=
  a.recording
    (.historySessionIndexPageVerified pageCursor page.nextCursor
      (blobRef (.text page.encoded)) (hexdigest (.text page.encoded)))
    "system" (some actorId) (idempotencyKey ++ ":" ++ pageOrFirst pageCursor) (clock 0)
    fun _ _ a => a
where
  /-- `page_cursor or 'first'`. -/
  pageOrFirst : Option String → String
    | none | some "" => "first"
    | some cursor => cursor

end ActivationService

end Nanihold
