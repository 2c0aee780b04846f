import Nanihold.PilotHost.Client
import Nanihold.Safety.ProviderCalls

/-!
# Results on both sides

The host checks the final message of a provider against its own data model of a result, and the
client checks what it receives against another one. A succeeded receipt of a work execution always
holds a result of the host's model; the client takes it exactly if a few texts are short enough and
the receipt is the one of its request.

## Main definitions

* `ProviderReceipt.IsWorkReceipt` — what a succeeded receipt of a work execution holds.
* `ProductionPilotHostClient.Takes` — when the client takes such a receipt.
* `ResultLaw` — what the client makes of the receipts of a host.

## Main results

* `WorkExecutionResult.validate_dump` — the client's model, on the results of the host's.
* `ProductionPilotHostClient.executeWork_of_takes`,
  `ProductionPilotHostClient.executeWork_of_not_takes` — the exact condition.
* `resultLaw_exec` — the law in every run of a host.
-/

namespace Nanihold

/-! ### The two data models -/

/-- The members of a dumped acceptance result. -/
def AcceptanceResult.members (result : AcceptanceResult) : JsonMembers :=
  [("criterion", .str result.criterion), ("satisfied", .bool result.satisfied),
    ("evidence_refs", .list (result.evidenceRefs.map .str))].map fun field =>
      (PyText.ofString field.1, field.2)

/-- The fields of a dumped output. -/
def StructuredWorkOutput.fields (output : StructuredWorkOutput) : List (String × JsonValue) :=
  [("summary", .str output.summary),
    ("acceptance_results", .list (output.acceptanceResults.map AcceptanceResult.dump)),
    ("artifact_refs", .list (output.artifactRefs.map .str)),
    ("event_notes", .list (output.eventNotes.map .str)), ("completed", .bool output.completed)]

/-- The result that the client makes of a dumped output. -/
def StructuredWorkOutput.received (output : StructuredWorkOutput) : WorkExecutionResult where
  summary := output.summary
  acceptanceResults := output.acceptanceResults.map AcceptanceResult.members
  artifactRefs := output.artifactRefs
  eventNotes := output.eventNotes
  completed := output.completed

/-- A written object has names with an encoding. -/
private theorem modelDict_object (fields : List (String × JsonValue)) :
    modelDict (.object fields) =
      some (fields.map fun field => (PyText.ofString field.1, field.2)) := by
  refine modelDict_eq_some_iff.mpr ⟨rfl, ?_⟩
  rw [List.all_map, List.all_eq_true]
  intro field _
  exact PyText.isEncodable_ofString field.1

/-- **The client's model on the host's results**: every field is taken but for the summary, which
may be too long. -/
theorem WorkExecutionResult.validate_dump (output : StructuredWorkOutput) :
    WorkExecutionResult.validate output.dump =
      if isNonBlank output.summary then some output.received else none := by
  have hfields : output.dump.fieldsOf
      ["summary", "acceptance_results", "artifact_refs", "event_notes", "completed"] =
        some (output.fields.map fun field => (PyText.ofString field.1, field.2)) :=
    JsonValue.fieldsOf_object (by simp) (by simp)
  have hacceptance : JsonValue.tupleOf modelDict
      (.list (output.acceptanceResults.map AcceptanceResult.dump)) =
        some (output.acceptanceResults.map AcceptanceResult.members) :=
    JsonValue.tupleOf_map (fun result => modelDict_object _) output.acceptanceResults
  have htexts (texts : List String) :
      JsonValue.tupleOf JsonValue.modelText (.list (texts.map .str)) = some texts := by
    have hread := JsonValue.tupleOf_map JsonValue.modelText_str texts
    rwa [List.map_id'] at hread
  have hsummary : (JsonValue.str output.summary).asText.bind nonBlankText =
      if isNonBlank output.summary then some output.summary else none := by
    change nonBlankText (.ofString output.summary) = _
    rw [nonBlankText, PyText.decode?_eq_some_iff.mpr rfl, Option.filter_some]
  rw [validate, hfields]
  simp only [Option.bind_eq_bind, Option.bind_some, JsonMembers.get?_object,
    StructuredWorkOutput.fields, List.lookup, String.reduceBEq, hsummary, hacceptance, htexts,
    JsonValue.laxBool]
  split_ifs <;> rfl

/-! ### Receipts with a result -/

/-- What a succeeded receipt of a work execution holds. -/
structure ProviderReceipt.IsWorkReceipt (body : ProviderReceipt) (output : StructuredWorkOutput)
    (model session : String) : Prop where
  status : body.status = .succeeded
  actual_model : body.actualModel = some (.ofString model)
  provider_session_id : body.providerSessionId = some (.ofString session)
  usage : ∃ usage : CodexUsage, body.usage = some usage.report
  result : body.result = some output.dump
  error : body.error = none
  session_nonempty : session ≠ ""
  summary_nonempty : output.summary ≠ ""

/-- The receipt is what the worker is answered with. -/
def Exchange.Delivers (exchange : Exchange) (body : ProviderReceipt) : Prop :=
  exchange.post = some (.receipt body) ∨
    exchange.post = none ∧ exchange.poll = some (.receipt body)

/-- **The client takes the receipt**: it is the one of the request, its texts are well formed, and
neither the session nor the summary is longer than 512 characters. -/
structure ProductionPilotHostClient.Takes [Sha256] {P : Type} (client : ProductionPilotHostClient P)
    (receiptId : String) (request : WorkRequest) (body : ProviderReceipt)
    (output : StructuredWorkOutput) (model session : String) : Prop where
  candidate : request.candidate.key = client.codingCandidate.key
  of_request : client.Matches (client.postedWork receiptId request) body.request
  well_formed : body.request.IsWellFormed
  created_at : isNonBlank body.createdAt = true
  updated_at : isNonBlank body.updatedAt = true
  actual_model : isNonBlank model = true
  provider_session_id : session.length ≤ 512
  summary : output.summary.length ≤ 512

/-- A text that is not empty is blank only by its length. -/
private theorem isNonBlank_iff_of_ne {text : String} (h : text ≠ "") :
    isNonBlank text = true ↔ text.length ≤ 512 := by
  have hlength : 1 ≤ text.length := by
    rw [Nat.one_le_iff_ne_zero]
    exact fun hzero => h (String.length_eq_zero_iff.mp hzero)
  rw [isNonBlank, Bool.and_eq_true, decide_eq_true_eq, decide_eq_true_eq]
  exact and_iff_right hlength

section Client

variable [Sha256] {P : Type} {client : ProductionPilotHostClient P} {receiptId : String}
  {request : WorkRequest} {exchange : Exchange} {body : ProviderReceipt}
  {output : StructuredWorkOutput} {model session : String}

omit [Sha256] in
/-- When the data model of receipts accepts the receipt of a result. -/
private theorem exists_validate_iff (h : body.IsWorkReceipt output model session) :
    (∃ receipt, PilotHostReceipt.validate body = some receipt) ↔
      body.request.IsWellFormed ∧ isNonBlank body.createdAt = true ∧
        isNonBlank body.updatedAt = true ∧ isNonBlank model = true ∧ session.length ≤ 512 := by
  obtain ⟨usage, husage⟩ := h.usage
  have htext {text : String} {taken : Option String}
      (htaken : (some (PyText.ofString text)).mapM nonBlankText = some taken) :
      isNonBlank text = true := by
    obtain ⟨known, hknown, -⟩ := Option.map_eq_some_iff.mp htaken
    obtain ⟨heq, hnonblank⟩ := nonBlankText_eq_some_iff.mp hknown
    rwa [PyText.ofString_injective heq]
  have hmapped {text : String} (hnonblank : isNonBlank text = true) :
      (some (PyText.ofString text)).mapM nonBlankText = some (some text) :=
    congrArg (Option.map some) (nonBlankText_eq_some_iff.mpr ⟨rfl, hnonblank⟩)
  constructor
  · rintro ⟨receipt, hvalid⟩
    obtain ⟨⟨hformed, -, hcreated, hupdated⟩, _, _, _, _, hmodel, hsession, -⟩ :=
      PilotHostReceipt.validate_eq_some_iff.mp hvalid
    rw [h.actual_model] at hmodel
    rw [h.provider_session_id] at hsession
    exact ⟨hformed, hcreated, hupdated, htext hmodel,
      (isNonBlank_iff_of_ne h.session_nonempty).mp (htext hsession)⟩
  · rintro ⟨hformed, hcreated, hupdated, hmodel, hsession⟩
    have hconsistent (usage result : JsonMembers) : TerminalFieldsConsistent body.status
        (some model) (some session) (some usage) (some result) body.error := by
      rw [h.status, h.error]
      exact ⟨rfl, rfl, rfl, rfl, rfl⟩
    obtain ⟨reported, hreported⟩ : ∃ members, modelDict usage.report = some members :=
      ⟨_, modelDict_object _⟩
    obtain ⟨dumped, hdumped⟩ : ∃ members, modelDict output.dump = some members :=
      ⟨_, modelDict_object output.fields⟩
    refine ⟨_, PilotHostReceipt.validate_eq_some_iff.mpr ⟨⟨hformed, ?_, hcreated, hupdated⟩, _, _,
      _, _, ?_, ?_, ?_, ?_, hconsistent reported dumped, rfl⟩⟩
    · rw [h.error]
      rfl
    · rw [h.actual_model]
      exact hmapped hmodel
    · rw [h.provider_session_id]
      exact hmapped ((isNonBlank_iff_of_ne h.session_nonempty).mpr hsession)
    · rw [husage]
      exact congrArg (Option.map some) hreported
    · rw [h.result]
      exact congrArg (Option.map some) hdumped

omit [Sha256] in
private theorem answered_of_delivers {posted : PostedRequest P} (h : exchange.Delivers body) :
    ProductionPilotHostClient.answered posted exchange =
      Checked.orRaise (PilotHostReceipt.validate body) (.other exchange.invalid) := by
  rw [ProductionPilotHostClient.answered]
  rcases h with hpost | ⟨hpost, hpoll⟩
  · rw [hpost]
    rfl
  · rw [hpost, hpoll]
    rfl

omit [Sha256] in
/-- What the data model of results makes of an accepted receipt. -/
private theorem result_of_said (h : body.IsWorkReceipt output model session)
    {receipt : PilotHostReceipt} (hsaid : receipt.Says body) :
    (receipt.result.bind fun members => WorkExecutionResult.validate (.dict members)) =
      if isNonBlank output.summary then some output.received else none := by
  obtain ⟨members, hmembers, hdump⟩ :=
    Option.map_eq_some_iff.mp (hsaid.result.symm.trans h.result)
  rw [hmembers, Option.bind_some, hdump, WorkExecutionResult.validate_dump]

/-- **A receipt that the client takes** gives the result of the host, and the Kernel is told that
the execution has succeeded with it. -/
theorem ProductionPilotHostClient.executeWork_of_takes
    (h : body.IsWorkReceipt output model session) (hdelivers : exchange.Delivers body)
    (htakes : client.Takes receiptId request body output model session) :
    ∃ receipt, client.executeWork receiptId request exchange = .ok (receipt, output.received) ∧
      receipt.Says body ∧ Kernel.receiptOutcome (client.report receipt) = .ok (.succeeded, none) ∧
        (client.report receipt).result = some (client.written output.dump) := by
  obtain ⟨receipt, hvalid⟩ := (exists_validate_iff h).mpr ⟨htakes.well_formed, htakes.created_at,
    htakes.updated_at, htakes.actual_model, htakes.provider_session_id⟩
  have hsaid := PilotHostReceipt.says_of_validate hvalid
  have hstatus : receipt.status = .succeeded := hsaid.status.trans h.status
  have hmatches : client.Matches (client.postedWork receiptId request) receipt.request := by
    rw [hsaid.request]
    exact htakes.of_request
  have hpost : client.postReceipt (client.postedWork receiptId request) exchange =
      .ok receipt := by
    rw [postReceipt, answered_of_delivers hdelivers, hvalid]
    change (Checked.check _ _ >>= fun _ => settle receipt) = _
    rw [Checked.check_bind_of hmatches, settle, hstatus]
  have hresult := result_of_said h hsaid
  rw [if_pos ((isNonBlank_iff_of_ne h.summary_nonempty).mpr htakes.summary)] at hresult
  refine ⟨receipt, ?_, hsaid, ?_, ?_⟩
  · rw [executeWork, Checked.check_bind_of htakes.candidate, hpost]
    change (Checked.orRaise (receipt.result.bind _) _ >>= _) = _
    rw [hresult]
    rfl
  · have hconsistent := receipt.terminal_fields_consistent
    rw [hstatus] at hconsistent
    obtain ⟨hmodel, hsession, husage, hgiven, hnone⟩ := hconsistent
    have hsucceeded : (client.report receipt).receiptStatus = "succeeded" := by
      change receipt.status.value = _
      rw [hstatus]
      rfl
    rw [Kernel.receiptOutcome, if_pos hsucceeded]
    refine Checked.check_bind_of ⟨Option.isSome_iff_ne_none.mp hmodel,
      Option.isSome_iff_ne_none.mp hsession, ?_, ?_, ?_⟩
    · exact fun hnone => Option.isSome_iff_ne_none.mp husage (Option.map_eq_none_iff.mp hnone)
    · exact fun hnone => Option.isSome_iff_ne_none.mp hgiven (Option.map_eq_none_iff.mp hnone)
    · exact Option.map_eq_none_iff.mpr (Option.isNone_iff_eq_none.mp hnone)
  · change receipt.result.map _ = _
    obtain ⟨members, hmembers, hdump⟩ :=
      Option.map_eq_some_iff.mp (hsaid.result.symm.trans h.result)
    rw [hmembers, Option.map_some, hdump]

/-- **A receipt that the client does not take** is an exception that nothing anticipated: the Kernel
is told that the execution has failed. -/
theorem ProductionPilotHostClient.executeWork_of_not_takes
    (h : body.IsWorkReceipt output model session) (hdelivers : exchange.Delivers body)
    (hnot : ¬ client.Takes receiptId request body output model session) :
    ∃ message, client.executeWork receiptId request exchange = .error (.other message) := by
  by_cases hcandidate : request.candidate.key = client.codingCandidate.key
  · rw [executeWork, Checked.check_bind_of hcandidate, postReceipt,
      answered_of_delivers hdelivers]
    cases hvalid : PilotHostReceipt.validate body with
    | none => exact ⟨_, rfl⟩
    | some receipt =>
      have hsaid := PilotHostReceipt.says_of_validate hvalid
      obtain ⟨hformed, hcreated, hupdated, hmodel, hsession⟩ :=
        (exists_validate_iff h).mp ⟨receipt, hvalid⟩
      change ∃ message, ((Checked.check _ _ >>= fun _ => settle receipt) >>= _) = _
      by_cases hmatches : client.Matches (client.postedWork receiptId request) receipt.request
      · rw [Checked.check_bind_of hmatches, settle, hsaid.status, h.status]
        change ∃ message, (Checked.orRaise (receipt.result.bind _) _ >>= _) = _
        rw [result_of_said h hsaid, if_neg]
        · exact ⟨_, rfl⟩
        · rw [isNonBlank_iff_of_ne h.summary_nonempty]
          rw [hsaid.request] at hmatches
          exact fun hsummary => hnot ⟨hcandidate, hmatches, hformed, hcreated, hupdated, hmodel,
            hsession, hsummary⟩
      · rw [Checked.check_bind_of_not hmatches]
        exact ⟨_, rfl⟩
  · rw [executeWork, Checked.check_bind_of_not hcandidate]
    exact ⟨_, rfl⟩

end Client

/-! ### The receipts of a host -/

/-- A text that can be encoded is the text of a string. -/
private theorem exists_string_of_encodable {t : PyText} (h : t.isEncodable = true) :
    ∃ text : String, t = .ofString text :=
  ⟨_, PyText.decode?_eq_some_iff.mp (if_pos h)⟩

/-- A run of Codex that is accepted has a result of the host's data model. -/
private theorem result_of_invoke {adapter : CodexAdapter} {world : CodexWorld}
    {request : WorkExecutionRequest} {invoked : InvocationResult}
    (h : adapter.invoke world request = .ok invoked) :
    ∃ (output : StructuredWorkOutput) (usage : CodexUsage), invoked.result = output.dump ∧
      invoked.usage = usage.report ∧ output.summary ≠ "" ∧ invoked.providerSessionId ≠ [] := by
  obtain ⟨-, h⟩ := Checked.check_bind_eq_ok_iff.mp h
  obtain ⟨process, -, h⟩ := Checked.bind_eq_ok_iff.mp h
  obtain ⟨report, hreport, h⟩ := Checked.bind_eq_ok_iff.mp h
  have hsession : report.providerSessionId ≠ [] := by
    obtain ⟨events, -, hreport⟩ := Checked.bind_eq_ok_iff.mp hreport
    obtain ⟨-, hreport⟩ := Checked.check_bind_eq_ok_iff.mp hreport
    obtain ⟨session, hthread, hreport⟩ := Checked.orRaise_bind_eq_ok_iff.mp hreport
    obtain ⟨actual, -, hreport⟩ := Checked.bind_eq_ok_iff.mp hreport
    obtain ⟨usage, -, hreport⟩ := Checked.bind_eq_ok_iff.mp hreport
    obtain rfl := Checked.pure_eq_ok_iff.mp hreport
    rw [threadIdOf] at hthread
    split at hthread
    · exact of_decide_eq_true (Option.filter_eq_some_iff.mp hthread).2
    · cases hthread
  obtain ⟨-, h⟩ := Checked.check_bind_eq_ok_iff.mp h
  obtain ⟨-, h⟩ := Checked.check_bind_eq_ok_iff.mp h
  obtain ⟨-, h⟩ := Checked.check_bind_eq_ok_iff.mp h
  obtain ⟨output, houtput, h⟩ := Checked.orRaise_bind_eq_ok_iff.mp h
  obtain ⟨-, h⟩ := Checked.check_bind_eq_ok_iff.mp h
  obtain ⟨-, h⟩ := Checked.check_bind_eq_ok_iff.mp h
  obtain rfl := Checked.pure_eq_ok_iff.mp h
  refine ⟨output, report.usage, rfl, rfl, ?_, hsession⟩
  obtain ⟨value, -, hvalue⟩ := Option.bind_eq_some_iff.mp houtput
  simp only [StructuredWorkOutput.validate, bind, Option.bind_eq_some_iff] at hvalue
  obtain ⟨fields, -, summary, ⟨given, -, hsummary⟩, results, -, refs, -, notes, -, completed, -,
    hvalue⟩ := hvalue
  obtain rfl := Option.some.inj hvalue
  exact of_decide_eq_true (Option.filter_eq_some_iff.mp hsummary).2

/-- The receipt of a work request whose run was accepted, once it is written. -/
private theorem isWorkReceipt_complete {adapter : CodexAdapter} {world : CodexWorld}
    {request : WorkExecutionRequest} {outcome : ReceiptOutcome} (old : ProviderReceipt)
    (houtcome : outcome = invocationOutcome (adapter.invoke world request))
    (hsucceeded : outcome.status = .succeeded) (hwritable : outcome.isWritable = true)
    (now : String) :
    ∃ output model session, (old.complete outcome now).IsWorkReceipt output model session := by
  cases hinvoke : adapter.invoke world request with
  | error failure =>
    rw [hinvoke] at houtcome
    subst houtcome
    cases failure <;> cases hsucceeded
  | ok invoked =>
    rw [hinvoke] at houtcome
    subst houtcome
    obtain ⟨output, usage, hresult, husage, hsummary, hsession⟩ := result_of_invoke hinvoke
    simp only [ReceiptOutcome.isWritable, Bool.and_eq_true] at hwritable
    obtain ⟨⟨⟨hmodel, hid⟩, -⟩, -⟩ := hwritable
    obtain ⟨model, hmodel⟩ := exists_string_of_encodable hmodel
    obtain ⟨session, hid⟩ := exists_string_of_encodable hid
    refine ⟨output, model, session, rfl, congrArg some hmodel, congrArg some hid,
      ⟨usage, congrArg some husage⟩, congrArg some hresult, rfl, ?_, hsummary⟩
    rintro rfl
    exact hsession hid

namespace PilotHostProcess

/-- **The receipts of work executions hold results**: a thread with such a receipt serves a work
request, and a succeeded one holds what the host's data model has accepted. -/
structure WorkWritten (process : PilotHostProcess) : Prop where
  accounted : process.Accounted
  serves : ∀ call ∈ process.calls, ∀ receipt,
    process.memory.receipts.receipts.get? call.request.receiptId = some receipt →
      receipt.request.endpoint = "/v1/work-executions" → ∃ request, call.request = .work request
  written : ∀ receiptId receipt,
    process.memory.receipts.receipts.get? receiptId = some receipt →
      receipt.status = .succeeded → receipt.request.endpoint = "/v1/work-executions" →
        ∃ output model session, receipt.IsWorkReceipt output model session

variable [Sha256] {P : Type} {models : RequestModels P} {process : PilotHostProcess}

omit [Sha256] in
/-- What is admitted at the endpoint for work is a work request. -/
private theorem work_of_admission {host : ProductionPilotHost} {payload : P} {world : HostWorld}
    {cache : CacheFile} {admitted : HostRequest × CacheFile}
    (h : host.admission models "/v1/work-executions" payload world cache = .ok admitted) :
    ∃ work, admitted.1 = .work work := by
  obtain ⟨request, hvalid, h⟩ := Checked.bind_eq_ok_iff.mp h
  obtain ⟨-, h⟩ := Checked.check_bind_eq_ok_iff.mp h
  obtain ⟨-, -, h⟩ := Checked.bind_eq_ok_iff.mp h
  obtain ⟨left, -, h⟩ := Checked.bind_eq_ok_iff.mp h
  obtain rfl := Checked.pure_eq_ok_iff.mp h
  simp only [RequestModels.validate, String.reduceEq, if_false, if_true] at hvalid
  cases hwork : models.workExecution payload with
  | none =>
    rw [hwork] at hvalid
    cases hvalid
  | some work =>
    rw [hwork] at hvalid
    exact ⟨work, (Except.ok.inj hvalid).symm⟩

private theorem workWritten_arrive (h : process.WorkWritten) (host : ProductionPilotHost)
    (endpoint : String) (payload : P) (world : HostWorld) :
    (process.arrive models host endpoint payload world).WorkWritten := by
  have haccounted : (process.arrive models host endpoint payload world).Accounted :=
    accounted_step process (.arrive host endpoint payload world) h.accounted
  cases hadmission : host.admission models endpoint payload world process.memory.cache with
  | error e => rwa [arrive_of_refused hadmission]
  | ok admitted =>
    cases hbegin : process.memory.receipts.begin (admitted.1.receiptRequest endpoint)
        world.beganAt with
    | error e =>
      rw [arrive_of_conflict hadmission hbegin] at haccounted ⊢
      exact ⟨haccounted, h.serves, h.written⟩
    | ok begun =>
      rw [arrive_of_begun hadmission hbegin] at haccounted ⊢
      rcases ReceiptStore.begin_eq_ok hbegin with ⟨hknown, hstore, -⟩ | ⟨hnew, rfl⟩
      · simp only [hknown, Bool.false_eq_true, if_false, List.append_nil, hstore] at haccounted ⊢
        exact ⟨haccounted, h.serves, h.written⟩
      · simp only [if_true] at haccounted ⊢
        have hinserted {receiptId : String} {receipt : ProviderReceipt}
            (hget : (process.memory.receipts.insert ((admitted.1.receiptRequest endpoint).body
              world.beganAt) hnew).receipts.get? receiptId = some receipt) :
            receipt = (admitted.1.receiptRequest endpoint).body world.beganAt ∧
              admitted.1.receiptId = receiptId ∨
            process.memory.receipts.receipts.get? receiptId = some receipt := by
          have hcases : (if admitted.1.receiptId = receiptId then
              some ((admitted.1.receiptRequest endpoint).body world.beganAt)
              else process.memory.receipts.receipts.get? receiptId) = some receipt :=
            (ReceiptStore.get?_insert hnew receiptId).symm.trans hget
          split_ifs at hcases with hid
          · exact Or.inl ⟨(Option.some.inj hcases).symm, hid⟩
          · exact Or.inr hcases
        refine ⟨haccounted, fun call hcall receipt hget hendpoint => ?_,
          fun receiptId receipt hget hstatus hendpoint => ?_⟩
        · rcases List.mem_append.mp hcall with hold | hlast
          · rcases hinserted hget with ⟨-, hid⟩ | hget
            · -- A thread that was there before has a receipt of its own.
              obtain ⟨running, hrunning, -⟩ := h.accounted.running call hold
              rw [← hid] at hrunning
              cases (ReceiptStore.existing_eq_none_iff.mp hnew).1.symm.trans hrunning
            · exact h.serves call hold receipt hget hendpoint
          · obtain rfl := List.mem_singleton.mp hlast
            rcases hinserted hget with ⟨rfl, -⟩ | hget
            · obtain rfl : endpoint = "/v1/work-executions" := hendpoint
              exact work_of_admission hadmission
            · cases (ReceiptStore.existing_eq_none_iff.mp hnew).1.symm.trans hget
        · rcases hinserted hget with ⟨rfl, -⟩ | hget
          · cases hstatus
          · exact h.written receiptId receipt hget hstatus hendpoint

omit [Sha256] in
private theorem workWritten_invoke (h : process.WorkWritten) (position : Nat)
    (haccounted : (process.invoke position).Accounted) : (process.invoke position).WorkWritten := by
  cases hcall : process.calls[position]? with
  | none => rwa [invoke_of_none hcall]
  | some call =>
    by_cases hwaiting : call.invoked = false
    · rw [invoke_of_waiting hcall hwaiting] at haccounted ⊢
      refine ⟨haccounted, fun known hknown => ?_, h.written⟩
      rcases List.mem_or_eq_of_mem_set hknown with hold | rfl
      · exact h.serves known hold
      · exact h.serves call (List.mem_of_getElem? hcall)
    · rw [Bool.not_eq_false] at hwaiting
      simp only [invoke, hcall, hwaiting, if_true]
      exact h

omit [Sha256] in
private theorem workWritten_finish (h : process.WorkWritten) (position : Nat)
    (haccounted : (process.finish position).Accounted) : (process.finish position).WorkWritten := by
  cases hcall : process.calls[position]? with
  | none => rwa [finish_of_none hcall]
  | some call =>
    by_cases hinvoked : call.invoked = true
    · rw [finish_of_invoked hcall hinvoked] at haccounted ⊢
      have hmem := List.mem_of_getElem? hcall
      have hsub := List.eraseIdx_sublist process.calls position
      cases hfinish : process.memory.receipts.finish call.request.receiptId
          (invocationOutcome (call.host.invoke call.world call.request)) call.world.finishedAt with
      | error e =>
        rw [ReceiptStore.finished_of_error hfinish] at haccounted ⊢
        exact ⟨haccounted, fun known hknown => h.serves known (hsub.subset hknown), h.written⟩
      | ok answer =>
        rw [ReceiptStore.finished_of_ok hfinish] at haccounted ⊢
        obtain ⟨⟨old, hold, hcomplete⟩, hnext⟩ := ReceiptStore.finish_eq_ok hfinish
        have hwritable := (ReceiptStore.finish_eq_ok_iff.mp ⟨answer, hfinish⟩).2
        have hrequest : answer.1.request = old.request := by
          rw [hcomplete]
          rfl
        refine ⟨haccounted, fun known hknown receipt hget hendpoint => ?_,
          fun receiptId receipt hget hstatus hendpoint => ?_⟩
        · rw [hnext] at hget
          split_ifs at hget with hid
          · obtain rfl := Option.some.inj hget
            rw [hrequest] at hendpoint
            exact h.serves known (hsub.subset hknown) old (hid ▸ hold) hendpoint
          · exact h.serves known (hsub.subset hknown) receipt hget hendpoint
        · rw [hnext] at hget
          split_ifs at hget with hid
          · obtain rfl := Option.some.inj hget
            rw [hrequest] at hendpoint
            obtain ⟨request, hwork⟩ := h.serves call hmem old hold hendpoint
            rw [hcomplete] at hstatus ⊢
            rw [hwork] at hwritable hstatus ⊢
            exact isWorkReceipt_complete old rfl hstatus hwritable _
          · exact h.written receiptId receipt hget hstatus hendpoint
    · rw [Bool.not_eq_true] at hinvoked
      simp only [finish, hcall, hinvoked, Bool.false_eq_true, if_false]
      exact h

/-- **Every step** of a host writes results only. -/
theorem workWritten_step (process : PilotHostProcess) (step : ThreadStep P)
    (h : process.WorkWritten) : (ThreadStep.run models process step).WorkWritten := by
  have haccounted : (ThreadStep.run models process step).Accounted :=
    accounted_step process step h.accounted
  cases step with
  | arrive host endpoint payload world => exact workWritten_arrive h host endpoint payload world
  | invoke position => exact workWritten_invoke h position haccounted
  | finish position => exact workWritten_finish h position haccounted
  | restart now =>
    refine ⟨haccounted, (fun _ hcall => by cases hcall),
      fun receiptId receipt hget hstatus hendpoint => ?_⟩
    rw [ThreadStep.run, restart, ReceiptStore.get?_recover] at hget
    obtain ⟨old, hold, rfl⟩ := Option.map_eq_some_iff.mp hget
    rw [ProviderReceipt.recover_request] at hendpoint
    by_cases hprogress : old.status = .inProgress
    · rw [ProviderReceipt.recover, if_pos hprogress] at hstatus
      cases hstatus
    · rw [ProviderReceipt.recover, if_neg hprogress] at hstatus ⊢
      exact h.written receiptId old hold hstatus hendpoint

end PilotHostProcess

/-! ### The law -/

/-- **What the client makes of the receipts of a host.** -/
structure ResultLaw [Sha256] (process : PilotHostProcess) : Prop where
  /-- A succeeded receipt of a work execution holds a result of the host's data model. A client that
  is answered with it returns that result, and has the Kernel record the success of the execution,
  if it takes the receipt; if not, it raises an exception that nothing anticipated. -/
  succeeded : ∀ receiptId body, process.memory.receipts.receipts.get? receiptId = some body →
    body.status = .succeeded → body.request.endpoint = "/v1/work-executions" →
      ∃ output model session, body.IsWorkReceipt output model session ∧
        ∀ (P : Type) (client : ProductionPilotHostClient P) postedId request exchange,
          exchange.Delivers body →
            (client.Takes postedId request body output model session → ∃ receipt,
              client.executeWork postedId request exchange = .ok (receipt, output.received) ∧
                receipt.Says body ∧
                Kernel.receiptOutcome (client.report receipt) = .ok (.succeeded, none) ∧
                (client.report receipt).result = some (client.written output.dump)) ∧
            (¬ client.Takes postedId request body output model session → ∃ message,
              client.executeWork postedId request exchange = .error (.other message))

/-- **Agreement on results.** In every run of a host, whatever its providers print. -/
theorem resultLaw_exec [Sha256] {P : Type} (models : RequestModels P) (cache : CacheFile)
    (steps : List (ThreadStep P)) :
    ResultLaw (Run.exec (ThreadStep.run models) (.new cache) steps) := by
  have hnew : (PilotHostProcess.new cache).WorkWritten :=
    ⟨PilotHostProcess.accounted_new cache, (fun _ hcall => by cases hcall),
      (fun _ _ hget => by cases hget)⟩
  have hwritten : (Run.exec (ThreadStep.run models) (.new cache) steps).WorkWritten :=
    Run.exec_invariant PilotHostProcess.workWritten_step steps hnew
  refine ⟨fun receiptId body hget hstatus hendpoint => ?_⟩
  obtain ⟨output, model, session, hbody⟩ := hwritten.written receiptId body hget hstatus hendpoint
  exact ⟨output, model, session, hbody, fun P client postedId request exchange hdelivers =>
    ⟨ProductionPilotHostClient.executeWork_of_takes hbody hdelivers,
      ProductionPilotHostClient.executeWork_of_not_takes hbody hdelivers⟩⟩

end Nanihold
