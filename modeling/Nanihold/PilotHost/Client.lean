import Mathlib
import Nanihold.Dispatcher
import Nanihold.PilotHost.Host

/-!
# The client of a PilotHost

`ProductionPilotHostClient`: the work executor of the dispatcher. It posts a request, and asks for
the receipt once when the post has no answer. Whatever it is answered with, it takes a receipt only
if its data model accepts the receipt and the receipt is the one of its request.

## Main definitions

* `PilotHostReceipt` — a receipt that the client's data model has accepted.
* `HttpAnswer`, `Exchange` — what the host has answered, if its answers arrived.
* `ProductionPilotHostClient.postReceipt`, `ProductionPilotHostClient.executeWork`.
* `ProductionPilotHostClient.outcome` — what the future of an execution gives.

## Main results

* `PilotHostReceipt.says_of_validate` — a receipt that is accepted says what the host has written.
* `ProductionPilotHostClient.outcome_eq_receipt` — a receipt that is handed to the Kernel is the
  answer of the host.
-/

namespace Nanihold

/-! ### Receipts -/

def ProviderReceiptStatus.value : ProviderReceiptStatus → String
  | .inProgress => "in_progress"
  | .succeeded => "succeeded"
  | .failed => "failed"
  | .transportUnknown => "transport_unknown"

/-- The pattern `^[0-9a-f]{64}$`. -/
def isSha256Text (text : String) : Bool :=
  text.length = 64 && text.toList.all fun c =>
    ('0' ≤ c && c ≤ '9') || ('a' ≤ c && c ≤ 'f')

/-- What a `NonBlank` field takes. -/
def nonBlankText (text : PyText) : Option String := text.decode?.filter isNonBlank

/-- What a `dict[str, Any]` field takes. -/
def modelDict (value : JsonValue) : Option JsonMembers :=
  value.asObject.filter fun entries => entries.all fun entry => entry.1.isEncodable

/-- `terminal_fields_are_consistent`. -/
def TerminalFieldsConsistent (status : ProviderReceiptStatus)
    (actualModel providerSessionId : Option String) (usage result : Option JsonMembers)
    (error : Option ReceiptError) : Prop :=
  match status with
  | .inProgress => True
  | .succeeded => actualModel.isSome = true ∧ providerSessionId.isSome = true ∧
      usage.isSome = true ∧ result.isSome = true ∧ error.isNone = true
  | .failed | .transportUnknown => result.isNone = true ∧ error.isSome = true

instance (status : ProviderReceiptStatus) (actualModel providerSessionId : Option String)
    (usage result : Option JsonMembers) (error : Option ReceiptError) :
    Decidable (TerminalFieldsConsistent status actualModel providerSessionId usage result error) :=
  match status with
  | .inProgress => inferInstanceAs (Decidable True)
  | .succeeded => inferInstanceAs (Decidable (_ ∧ _))
  | .failed | .transportUnknown => inferInstanceAs (Decidable (_ ∧ _))

/-- A receipt that the client's data model has accepted. -/
structure PilotHostReceipt where
  request : ReceiptRequest
  status : ProviderReceiptStatus
  actualModel : Option String
  providerSessionId : Option String
  usage : Option JsonMembers
  result : Option JsonMembers
  error : Option ReceiptError
  createdAt : String
  updatedAt : String
  terminal_fields_consistent :
    TerminalFieldsConsistent status actualModel providerSessionId usage result error

/-- The fields of a receipt that say which request it is of are well formed. -/
def ReceiptRequest.IsWellFormed (request : ReceiptRequest) : Prop :=
  request.endpoint ∈ ["/v1/interface-turn", "/v1/reorientation-turn", "/v1/work-executions"] ∧
    isNonBlank request.receiptId = true ∧ isNonBlank request.idempotencyKey = true ∧
    isSha256Text request.requestSha256 = true ∧ isNonBlank request.candidateKey = true ∧
    request.requestedModel.all isNonBlank = true

instance (request : ReceiptRequest) : Decidable request.IsWellFormed :=
  inferInstanceAs (Decidable (_ ∧ _))

/-- The text of an error is well formed. -/
def ReceiptError.isWellFormed (error : ReceiptError) : Bool :=
  isNonBlank error.code && isNonBlank error.message

/-- `PilotHostReceipt.model_validate`. -/
def PilotHostReceipt.validate (body : ProviderReceipt) : Option PilotHostReceipt := do
  guard (body.request.IsWellFormed ∧ body.error.all ReceiptError.isWellFormed = true ∧
    isNonBlank body.createdAt = true ∧ isNonBlank body.updatedAt = true)
  let actualModel ← body.actualModel.mapM nonBlankText
  let providerSessionId ← body.providerSessionId.mapM nonBlankText
  let usage ← body.usage.mapM modelDict
  let result ← body.result.mapM modelDict
  if h : TerminalFieldsConsistent body.status actualModel providerSessionId usage result
      body.error then
    return ⟨body.request, body.status, actualModel, providerSessionId, usage, result, body.error,
      body.createdAt, body.updatedAt, h⟩
  else none

/-! ### Results -/

/-- What the client takes as the result of a work execution. -/
structure WorkExecutionResult where
  summary : NonBlank
  acceptanceResults : List JsonMembers
  artifactRefs : List String
  eventNotes : List String
  completed : Bool

/-- `WorkExecutionResult.model_validate`. -/
def WorkExecutionResult.validate (value : JsonValue) : Option WorkExecutionResult := do
  let fields ← value.fieldsOf
    ["summary", "acceptance_results", "artifact_refs", "event_notes", "completed"]
  let summary ← ((fields.get? "summary").bind JsonValue.asText).bind nonBlankText
  let acceptanceResults ← (fields.get? "acceptance_results").bind (JsonValue.tupleOf modelDict)
  let artifactRefs ← (fields.get? "artifact_refs").bind (JsonValue.tupleOf JsonValue.modelText)
  let eventNotes ← (fields.get? "event_notes").bind (JsonValue.tupleOf JsonValue.modelText)
  let completed ← (fields.get? "completed").bind JsonValue.laxBool
  return ⟨summary, acceptanceResults, artifactRefs, eventNotes, completed⟩

/-! ### Requests and answers -/

/-- A request as the client posts it. -/
structure PostedRequest (P : Type) where
  endpoint : String
  receiptId : String
  idempotencyKey : String
  payload : P

/-- What the host answers a post or a get with. -/
inductive HttpAnswer where
  /-- The status 200 with a receipt. -/
  | receipt (body : ProviderReceipt)
  /-- Another status, with a text. -/
  | refused (status : Nat) (text : String)

/-- The answers that the client got: an answer is missing when the transport failed. -/
structure Exchange where
  post : Option HttpAnswer
  /-- The answer to the get, which is only sent when the post has no answer. -/
  poll : Option HttpAnswer
  /-- What the data models say of a value that they refuse. -/
  invalid : String

/-- The exceptions of the client. -/
inductive ClientError where
  /-- `PilotHostReceiptError`. -/
  | receiptError (receipt : PilotHostReceipt)
  /-- `PilotHostTransportUnknown`. -/
  | transportUnknown (receipt : PilotHostReceipt)
  /-- `PilotHostModelMismatch`. -/
  | modelMismatch (receipt : PilotHostReceipt)
  /-- `PilotHostUnreachable`. -/
  | unreachable (receiptId : String)
  /-- An exception of another class. -/
  | other (message : String)

/-- The receipt that an exception of the client carries. -/
def ClientError.receipt? : ClientError → Option PilotHostReceipt
  | .receiptError receipt | .transportUnknown receipt | .modelMismatch receipt => some receipt
  | .unreachable _ | .other _ => none

/-- The receipt of an answer. -/
def HttpAnswer.read (invalid : String) : HttpAnswer → Except ClientError PilotHostReceipt
  | .receipt body => Checked.orRaise (PilotHostReceipt.validate body) (.other invalid)
  | .refused status text =>
    .error (.other ("production PilotHost HTTP " ++ toString status ++ ": " ++ text))

/-! ### The client -/

/-- The client, with the payload that it builds for a work request and the text that it digests. -/
structure ProductionPilotHostClient (P : Type) where
  interfaceCandidate : HostCandidate
  codingCandidate : HostCandidate
  workPayload : String → WorkRequest → P
  /-- `json.dumps` of a payload with its keys sorted. -/
  canonical : P → String
  /-- How a JSON object is written in the ledger. -/
  written : JsonValue → JsonObject

namespace ProductionPilotHostClient

variable [Sha256] {P : Type} (client : ProductionPilotHostClient P)

omit [Sha256] in
/-- The candidate that an endpoint is for. -/
def candidateOf (endpoint : String) : HostCandidate :=
  if endpoint = "/v1/work-executions" then client.codingCandidate else client.interfaceCandidate

/-- `_validate_receipt`: the receipt is the one of the request. -/
def Matches (posted : PostedRequest P) (request : ReceiptRequest) : Prop :=
  request.endpoint = posted.endpoint ∧
    request.receiptId = posted.receiptId ∧
    request.idempotencyKey = posted.idempotencyKey ∧
    request.requestSha256 = hexdigest (.text (client.canonical posted.payload)) ∧
    request.candidateKey = (client.candidateOf posted.endpoint).key ∧
    ((client.candidateOf posted.endpoint).isExact = true →
      request.requestedModel = (client.candidateOf posted.endpoint).modelSnapshot)

instance (posted : PostedRequest P) (request : ReceiptRequest) :
    Decidable (client.Matches posted request) :=
  inferInstanceAs (Decidable (_ ∧ _))

omit [Sha256] in
/-- The receipt that the client gets for a request, before it compares the two. -/
def answered (posted : PostedRequest P) (exchange : Exchange) :
    Except ClientError PilotHostReceipt :=
  match exchange.post with
  | some answer => answer.read exchange.invalid
  | none =>
    match exchange.poll with
    | some answer => answer.read exchange.invalid
    | none => .error (.unreachable posted.receiptId)

omit [Sha256] in
/-- What is raised of a receipt that has not succeeded. -/
def settle (receipt : PilotHostReceipt) : Except ClientError PilotHostReceipt :=
  match receipt.status with
  | .succeeded => .ok receipt
  | .transportUnknown => .error (.transportUnknown receipt)
  | .failed =>
    if receipt.error.map ReceiptError.code = some "RequestedActualModelMismatch" then
      .error (.modelMismatch receipt)
    else .error (.receiptError receipt)
  | .inProgress =>
    .error (.other "PilotHost returned a non-terminal receipt from synchronous RPC")

/-- `_post_receipt`. -/
def postReceipt (posted : PostedRequest P) (exchange : Exchange) :
    Except ClientError PilotHostReceipt := do
  let receipt ← answered posted exchange
  Checked.check (client.Matches posted receipt.request)
    (.other "PilotHost receipt does not match its request")
  settle receipt

omit [Sha256] in
/-- What the client posts for a work request under a receipt id that it draws. -/
def postedWork (receiptId : String) (request : WorkRequest) : PostedRequest P where
  endpoint := "/v1/work-executions"
  receiptId := receiptId
  idempotencyKey := request.idempotencyKey
  payload := client.workPayload receiptId request

/-- `execute_work`. -/
def executeWork (receiptId : String) (request : WorkRequest) (exchange : Exchange) :
    Except ClientError (PilotHostReceipt × WorkExecutionResult) := do
  Checked.check (request.candidate.key = client.codingCandidate.key)
    (.other "selected coding candidate differs from production PilotHost")
  let receipt ← client.postReceipt (client.postedWork receiptId request) exchange
  let result ← Checked.orRaise (receipt.result.bind fun members =>
    WorkExecutionResult.validate (.dict members)) (.other exchange.invalid)
  return (receipt, result)

omit [Sha256] in
/-- A receipt as the dispatcher hands it to the Kernel. -/
def report (receipt : PilotHostReceipt) : Kernel.PilotReceipt where
  receiptId := receipt.request.receiptId
  receiptStatus := receipt.status.value
  requestedModel := receipt.request.requestedModel
  actualModel := receipt.actualModel
  providerSessionId := receipt.providerSessionId
  usage := receipt.usage.map fun members => client.written (.dict members)
  result := receipt.result.map fun members => client.written (.dict members)
  error := receipt.error.map fun error =>
    client.written (.object [("code", .str error.code), ("message", .str error.message)])

/-- **What the future of an execution gives**, as `_finish_execution` tells the exceptions apart; an
execution without a receipt of the host is recorded under a receipt id of the dispatcher's own. -/
def outcome (receiptId : String) (request : WorkRequest) (exchange : Exchange)
    (requestReprovision : Except VsmError Unit) (ownReceiptId : Identifier) : WorkOutcome :=
  match client.executeWork receiptId request exchange with
  | .ok (receipt, _) => .receipt (client.report receipt)
  | .error (.receiptError receipt) | .error (.transportUnknown receipt)
  | .error (.modelMismatch receipt) => .receipt (client.report receipt)
  | .error (.unreachable receiptId) => .unreachable receiptId requestReprovision
  | .error (.other message) => .unexpected message ownReceiptId

end ProductionPilotHostClient

/-! ### What an accepted receipt says -/

theorem nonBlankText_eq_some_iff {t : PyText} {text : String} :
    nonBlankText t = some text ↔ t = .ofString text ∧ isNonBlank text = true := by
  rw [nonBlankText, Option.filter_eq_some_iff, PyText.decode?_eq_some_iff]

theorem modelDict_eq_some_iff {value : JsonValue} {members : JsonMembers} :
    modelDict value = some members ↔
      value = .dict members ∧ members.all (fun entry => entry.1.isEncodable) = true := by
  rw [modelDict, Option.filter_eq_some_iff, JsonValue.asObject_eq_some_iff]

/-- An optional field is accepted exactly if it is absent or its value is accepted. -/
private theorem mapM_eq_some_iff {α β : Type} {f : α → Option β} {given : Option α}
    {taken : Option β} : given.mapM f = some taken ↔
      (given = none ∧ taken = none) ∨ ∃ a b, given = some a ∧ f a = some b ∧ taken = some b := by
  cases given with
  | none =>
    change some none = some taken ↔ _
    constructor
    · intro h
      exact Or.inl ⟨rfl, (Option.some.inj h).symm⟩
    · rintro (⟨-, rfl⟩ | ⟨a, b, h, -⟩)
      · rfl
      · cases h
  | some a =>
    change (f a).map some = some taken ↔ _
    rw [Option.map_eq_some_iff]
    constructor
    · rintro ⟨b, hb, rfl⟩
      exact Or.inr ⟨a, b, rfl, hb, rfl⟩
    · rintro (⟨h, -⟩ | ⟨known, b, h, hb, rfl⟩)
      · cases h
      · obtain rfl := Option.some.inj h
        exact ⟨b, hb, rfl⟩

namespace PilotHostReceipt

/-- An accepted receipt says what the host has written. -/
structure Says (receipt : PilotHostReceipt) (body : ProviderReceipt) : Prop where
  request : receipt.request = body.request
  status : receipt.status = body.status
  actual_model : body.actualModel = receipt.actualModel.map .ofString
  provider_session_id : body.providerSessionId = receipt.providerSessionId.map .ofString
  usage : body.usage = receipt.usage.map .dict
  result : body.result = receipt.result.map .dict
  error : receipt.error = body.error

variable {body : ProviderReceipt} {receipt : PilotHostReceipt}

/-- **What the data model accepts.** -/
theorem validate_eq_some_iff : validate body = some receipt ↔
    (body.request.IsWellFormed ∧ body.error.all ReceiptError.isWellFormed = true ∧
      isNonBlank body.createdAt = true ∧ isNonBlank body.updatedAt = true) ∧
    ∃ actualModel providerSessionId usage result,
      body.actualModel.mapM nonBlankText = some actualModel ∧
      body.providerSessionId.mapM nonBlankText = some providerSessionId ∧
      body.usage.mapM modelDict = some usage ∧ body.result.mapM modelDict = some result ∧
      ∃ h : TerminalFieldsConsistent body.status actualModel providerSessionId usage result
          body.error,
        receipt = ⟨body.request, body.status, actualModel, providerSessionId, usage, result,
          body.error, body.createdAt, body.updatedAt, h⟩ := by
  simp only [validate, bind, Option.bind_eq_some_iff, Option.guard_eq_some', exists_const]
  refine and_congr_right fun _ => ?_
  constructor
  · rintro ⟨actualModel, hmodel, session, hsession, usage, husage, result, hresult, h⟩
    split at h
    · next hconsistent =>
      exact ⟨actualModel, session, usage, result, hmodel, hsession, husage, hresult, hconsistent,
        (Option.some.inj h).symm⟩
    · cases h
  · rintro ⟨actualModel, session, usage, result, hmodel, hsession, husage, hresult, h, rfl⟩
    refine ⟨actualModel, hmodel, session, hsession, usage, husage, result, hresult, ?_⟩
    rw [dif_pos h]
    rfl

private theorem eq_map_of_mapM {α β : Type} {f : α → Option β} {g : β → α}
    (hf : ∀ a b, f a = some b → a = g b) {given : Option α} {taken : Option β}
    (h : given.mapM f = some taken) : given = taken.map g := by
  rcases mapM_eq_some_iff.mp h with ⟨rfl, rfl⟩ | ⟨a, b, rfl, hb, rfl⟩
  · rfl
  · rw [Option.map_some, hf a b hb]

/-- **A receipt that is accepted** says what the host has written. -/
theorem says_of_validate (h : validate body = some receipt) : receipt.Says body := by
  obtain ⟨-, actualModel, session, usage, result, hmodel, hsession, husage, hresult, -, rfl⟩ :=
    validate_eq_some_iff.mp h
  have htext (a : PyText) (b : String) (hb : nonBlankText a = some b) : a = .ofString b :=
    (nonBlankText_eq_some_iff.mp hb).1
  have hdict (a : JsonValue) (b : JsonMembers) (hb : modelDict a = some b) : a = .dict b :=
    (modelDict_eq_some_iff.mp hb).1
  exact ⟨rfl, rfl, eq_map_of_mapM htext hmodel, eq_map_of_mapM htext hsession,
    eq_map_of_mapM hdict husage, eq_map_of_mapM hdict hresult, rfl⟩

end PilotHostReceipt

namespace ProductionPilotHostClient

variable [Sha256] {P : Type} {client : ProductionPilotHostClient P} {posted : PostedRequest P}
  {exchange : Exchange} {receipt receipt' : PilotHostReceipt} {receiptId : String}
  {request : WorkRequest}

omit [Sha256] in
/-- A receipt that the client got is an answer that arrived. -/
theorem answered_eq_ok (h : answered posted exchange = .ok receipt) :
    ∃ body, (exchange.post = some (.receipt body) ∨ exchange.poll = some (.receipt body)) ∧
      PilotHostReceipt.validate body = some receipt := by
  have hread {answer : HttpAnswer} (h : answer.read exchange.invalid = .ok receipt) :
      ∃ body, answer = .receipt body ∧ PilotHostReceipt.validate body = some receipt := by
    cases answer with
    | receipt body => exact ⟨body, rfl, Checked.orRaise_eq_ok_iff.mp h⟩
    | refused status text => cases h
  rw [answered] at h
  cases hpost : exchange.post with
  | some answer =>
    rw [hpost] at h
    obtain ⟨body, rfl, hvalid⟩ := hread h
    exact ⟨body, Or.inl rfl, hvalid⟩
  | none =>
    rw [hpost] at h
    cases hpoll : exchange.poll with
    | some answer =>
      rw [hpoll] at h
      obtain ⟨body, rfl, hvalid⟩ := hread h
      exact ⟨body, Or.inr rfl, hvalid⟩
    | none =>
      rw [hpoll] at h
      cases h

omit [Sha256] in
/-- A receipt in an exception was not found in progress. -/
private theorem settle_answers
    (h : settle receipt = .ok receipt' ∨
      ∃ e : ClientError, settle receipt = .error e ∧ e.receipt? = some receipt') :
    receipt' = receipt ∧ receipt.status ≠ .inProgress := by
  rw [settle] at h
  cases hstatus : receipt.status with
  | succeeded =>
    rw [hstatus] at h
    rcases h with h | ⟨e, h, -⟩
    · exact ⟨(Except.ok.inj h).symm, ProviderReceiptStatus.noConfusion⟩
    · cases h
  | inProgress =>
    rw [hstatus] at h
    rcases h with h | ⟨e, h, he⟩
    · cases h
    · obtain rfl := Except.error.inj h
      cases he
  | transportUnknown =>
    rw [hstatus] at h
    rcases h with h | ⟨e, h, he⟩
    · cases h
    · obtain rfl := Except.error.inj h
      exact ⟨(Option.some.inj he).symm, ProviderReceiptStatus.noConfusion⟩
  | failed =>
    rw [hstatus] at h
    rcases h with h | ⟨e, h, he⟩
    · split_ifs at h
    · split_ifs at h <;> obtain rfl := Except.error.inj h <;>
        exact ⟨(Option.some.inj he).symm, ProviderReceiptStatus.noConfusion⟩

omit [Sha256] in
/-- A receipt that was not got carries no receipt. -/
private theorem answered_eq_error {e : ClientError} (h : answered posted exchange = .error e) :
    e.receipt? = none := by
  have hread {answer : HttpAnswer} (h : answer.read exchange.invalid = .error e) :
      e.receipt? = none := by
    cases answer with
    | receipt body =>
      rw [HttpAnswer.read] at h
      cases hvalid : PilotHostReceipt.validate body with
      | some receipt =>
        rw [hvalid] at h
        cases h
      | none =>
        rw [hvalid] at h
        obtain rfl := Except.error.inj h
        rfl
    | refused status text =>
      obtain rfl := Except.error.inj h
      rfl
  rw [answered] at h
  cases hpost : exchange.post with
  | some answer =>
    rw [hpost] at h
    exact hread h
  | none =>
    rw [hpost] at h
    cases hpoll : exchange.poll with
    | some answer =>
      rw [hpoll] at h
      exact hread h
    | none =>
      rw [hpoll] at h
      obtain rfl := Except.error.inj h
      rfl

/-- **A receipt that leaves the client**, returned or in an exception, is one that the host has
answered with; it is the receipt of the request, and it has an outcome. -/
theorem postReceipt_answers
    (h : client.postReceipt posted exchange = .ok receipt ∨
      ∃ e : ClientError, client.postReceipt posted exchange = .error e ∧
        e.receipt? = some receipt) :
    client.Matches posted receipt.request ∧ receipt.status ≠ .inProgress ∧
      ∃ body, (exchange.post = some (.receipt body) ∨ exchange.poll = some (.receipt body)) ∧
        receipt.Says body := by
  rw [postReceipt] at h
  cases hanswered : answered posted exchange with
  | error e =>
    rw [hanswered] at h
    rcases h with h | ⟨known, h, hknown⟩
    · cases h
    · obtain rfl := Except.error.inj h
      cases (answered_eq_error hanswered).symm.trans hknown
  | ok taken =>
    rw [hanswered] at h
    obtain ⟨body, harrived, hvalid⟩ := answered_eq_ok hanswered
    by_cases hmatches : client.Matches posted taken.request
    · have hsettle : settle taken = .ok receipt ∨
          ∃ e : ClientError, settle taken = .error e ∧ e.receipt? = some receipt := by
        change (Checked.check _ _ >>= fun _ => settle taken) = _ ∨ ∃ e : ClientError,
          (Checked.check _ _ >>= fun _ => settle taken) = _ ∧ _ at h
        rwa [Checked.check_bind_of hmatches] at h
      obtain ⟨rfl, hstatus⟩ := settle_answers hsettle
      exact ⟨hmatches, hstatus, body, harrived, PilotHostReceipt.says_of_validate hvalid⟩
    · change (Checked.check _ _ >>= fun _ => settle taken) = _ ∨ ∃ e : ClientError,
        (Checked.check _ _ >>= fun _ => settle taken) = _ ∧ _ at h
      rw [Checked.check_bind_of_not hmatches] at h
      rcases h with h | ⟨known, h, hknown⟩
      · cases h
      · obtain rfl := Except.error.inj h
        cases hknown

/-- A host is unreachable only for a worker that was not answered. -/
theorem outcome_eq_unreachable {requestReprovision reprovision : Except VsmError Unit}
    {ownReceiptId : Identifier} {unheardId : String}
    (h : client.outcome receiptId request exchange requestReprovision ownReceiptId =
      .unreachable unheardId reprovision) :
    client.executeWork receiptId request exchange = .error (.unreachable unheardId) := by
  rw [outcome] at h
  cases hwork : client.executeWork receiptId request exchange with
  | ok answer =>
    rw [hwork] at h
    cases h
  | error e =>
    rw [hwork] at h
    cases e with
    | unreachable known => rw [(WorkOutcome.unreachable.inj h).1]
    | _ => cases h

/-- An exception that nothing anticipated carries no receipt. -/
theorem outcome_eq_unexpected {requestReprovision : Except VsmError Unit}
    {ownReceiptId unexpectedId : Identifier} {message : String}
    (h : client.outcome receiptId request exchange requestReprovision ownReceiptId =
      .unexpected message unexpectedId) :
    client.executeWork receiptId request exchange = .error (.other message) := by
  rw [outcome] at h
  cases hwork : client.executeWork receiptId request exchange with
  | ok answer =>
    rw [hwork] at h
    cases h
  | error e =>
    rw [hwork] at h
    cases e with
    | other known => rw [(WorkOutcome.unexpected.inj h).1]
    | _ => cases h

/-- **A receipt that is handed to the Kernel** is the answer of the host to the request. -/
theorem outcome_eq_receipt {requestReprovision : Except VsmError Unit} {ownReceiptId : Identifier}
    {reported : Kernel.PilotReceipt}
    (h : client.outcome receiptId request exchange requestReprovision ownReceiptId =
      .receipt reported) :
    ∃ receipt body, reported = client.report receipt ∧
      client.Matches (client.postedWork receiptId request) receipt.request ∧
      receipt.status ≠ .inProgress ∧
      (exchange.post = some (.receipt body) ∨ exchange.poll = some (.receipt body)) ∧
      receipt.Says body := by
  have hposted {receipt : PilotHostReceipt}
      (hreceipt : client.postReceipt (client.postedWork receiptId request) exchange = .ok receipt ∨
        ∃ e : ClientError, client.postReceipt (client.postedWork receiptId request) exchange =
          .error e ∧ e.receipt? = some receipt)
      (hreported : reported = client.report receipt) :
      ∃ receipt body, reported = client.report receipt ∧
        client.Matches (client.postedWork receiptId request) receipt.request ∧
        receipt.status ≠ .inProgress ∧
        (exchange.post = some (.receipt body) ∨ exchange.poll = some (.receipt body)) ∧
        receipt.Says body := by
    obtain ⟨hmatches, hstatus, body, harrived, hsaid⟩ := postReceipt_answers hreceipt
    exact ⟨receipt, body, hreported, hmatches, hstatus, harrived, hsaid⟩
  rw [outcome] at h
  cases hwork : client.executeWork receiptId request exchange with
  | ok answer =>
    obtain ⟨receipt, result⟩ := answer
    rw [hwork] at h
    refine hposted (Or.inl ?_) (WorkOutcome.receipt.inj h).symm
    obtain ⟨-, hwork⟩ := Checked.check_bind_eq_ok_iff.mp hwork
    obtain ⟨known, hknown, hwork⟩ := Checked.bind_eq_ok_iff.mp hwork
    obtain ⟨_, -, hwork⟩ := Checked.bind_eq_ok_iff.mp hwork
    rw [← (Prod.mk.inj (Checked.pure_eq_ok_iff.mp hwork)).1]
    exact hknown
  | error e =>
    rw [hwork] at h
    -- Only the post raises an exception with a receipt.
    have hraised {receipt : PilotHostReceipt} (he : e.receipt? = some receipt) :
        client.postReceipt (client.postedWork receiptId request) exchange = .error e := by
      by_cases hcandidate : request.candidate.key = client.codingCandidate.key
      · rw [executeWork, Checked.check_bind_of hcandidate] at hwork
        cases hpost : client.postReceipt (client.postedWork receiptId request) exchange with
        | error raised =>
          rw [hpost] at hwork
          rw [Except.error.inj hwork]
        | ok taken =>
          rw [hpost] at hwork
          cases hresult : taken.result.bind fun members =>
              WorkExecutionResult.validate (.dict members) with
          | none =>
            change (Checked.orRaise (taken.result.bind _) _ >>= _) = _ at hwork
            rw [hresult] at hwork
            obtain rfl := Except.error.inj hwork
            cases he
          | some result =>
            change (Checked.orRaise (taken.result.bind _) _ >>= _) = _ at hwork
            rw [hresult] at hwork
            cases hwork
      · rw [executeWork, Checked.check_bind_of_not hcandidate] at hwork
        obtain rfl := Except.error.inj hwork
        cases he
    cases e with
    | receiptError receipt =>
      exact hposted (Or.inr ⟨_, hraised rfl, rfl⟩) (WorkOutcome.receipt.inj h).symm
    | transportUnknown receipt =>
      exact hposted (Or.inr ⟨_, hraised rfl, rfl⟩) (WorkOutcome.receipt.inj h).symm
    | modelMismatch receipt =>
      exact hposted (Or.inr ⟨_, hraised rfl, rfl⟩) (WorkOutcome.receipt.inj h).symm
    | unreachable _ => cases h
    | other _ => cases h

end ProductionPilotHostClient

end Nanihold
