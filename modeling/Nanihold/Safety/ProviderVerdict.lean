import Nanihold.Safety.ReceiptReplay

/-!
# The verdict on a run of Codex

A run of Codex is judged by what it has printed, by the rollout of its thread, by its exit code and
by its final message. The adapter returns exactly on the runs that are acceptable; the receipt of
every other run is to be stored as failed. What a failed run has said goes into its receipt, and
that is written as JSON text: a thread id that has no encoding cannot be stored, and the call raises
with the receipt in progress.

## Main definitions

* `AcceptableRun` — a run that is accepted for a request.
* `Recordable` — what a failed run has said can be written.
* `ReachesProvider`, `StoresFailed`, `VerdictKept` — a call, and what it is to do.

## Main results

* `parse_eq_ok_iff` — the adapter returns exactly on an acceptable run.
* `verdictKept_iff` — the exact condition.
* `lone_surrogate_breaks_verdict` — a failure that is not stored.
-/

namespace Nanihold

/-! ### What a run has said -/

/-- **The events of a standard output**: each line that is not blank is a JSON object. -/
def PrintsEvents (texts : HostTexts) (stdout : String) (events : List JsonMembers) : Prop :=
  List.Forall₂ (fun line event => texts.loads line = .ok (.dict event)) (nonBlankLines stdout)
    events

/-- Exactly one event says that a thread has started, and gives its id. -/
def StartsThread (events : List JsonMembers) (threadId : PyText) : Prop :=
  ∃ thread, events.filter (hasType "thread.started") = [thread] ∧
    thread.get? "thread_id" = some (.text threadId) ∧ threadId ≠ []

/-- Exactly one event says that a turn is completed. -/
def CompletesTurn (events : List JsonMembers) (turn : JsonMembers) : Prop :=
  events.filter (hasType "turn.completed") = [turn]

/-- **The rollout of a thread** is the only one and can be read, all its lines are JSON, and the
last context of a turn that names a model and an effort names these. -/
def NamesModel (world : CodexWorld) (threadId model effort : PyText) : Prop :=
  ∃ content records, world.rglob (rolloutPattern threadId) = .ok [.ok content] ∧
    List.Forall₂ (fun line record => world.texts.loads line = .ok record) (nonBlankLines content)
      records ∧
    (records.filterMap namedModelEffort).getLast? = some (model, effort)

/-- The reading of the rollout raises an exception that the adapter does not expect. -/
def InterruptsReading (world : CodexWorld) (threadId : PyText) : Prop :=
  world.rglob (rolloutPattern threadId) = .error .other ∨
    world.rglob (rolloutPattern threadId) = .ok [.error .other] ∨
    ∃ content, world.rglob (rolloutPattern threadId) = .ok [.ok content] ∧
      ∃ before line after, nonBlankLines content = before ++ line :: after ∧
        (∀ other ∈ before, ∃ record, world.texts.loads other = .ok record) ∧
        world.texts.loads line = .error .other

/-- **The usage of a turn** has exactly the four counts. -/
def ReportsUsage (turn : JsonMembers) (usage : CodexUsage) : Prop :=
  ∃ raw : JsonMembers, turn.get? "usage" = some (.dict raw) ∧
    raw.HasExactly ["input_tokens", "cached_input_tokens", "output_tokens",
      "reasoning_output_tokens"] ∧
    raw.get? "input_tokens" = some (.int usage.inputTokens) ∧
    raw.get? "cached_input_tokens" = some (.int usage.cachedInputTokens) ∧
    raw.get? "output_tokens" = some (.int usage.outputTokens) ∧
    raw.get? "reasoning_output_tokens" = some (.int usage.reasoningOutputTokens)

section Reading

variable {texts : HostTexts} {world : CodexWorld} {stdout : String} {events : List JsonMembers}
  {turn : JsonMembers} {threadId model effort : PyText} {usage : CodexUsage}

theorem mapM_loadsEvent_iff :
    (nonBlankLines stdout).mapM (loadsEvent texts) = .ok events ↔
      PrintsEvents texts stdout events := by
  have hline (line : String) (event : JsonMembers) :
      loadsEvent texts line = .ok event ↔ texts.loads line = .ok (.dict event) := by
    rw [loadsEvent]
    cases hloads : texts.loads line with
    | ok value =>
      dsimp only
      rw [Checked.orRaise_eq_ok_iff, JsonValue.asObject_eq_some_iff, Except.ok.injEq]
    | error failure =>
      cases failure <;> exact iff_of_false (fun h => by cases h) fun h => by cases h
  rw [Checked.mapM_eq_ok_iff, PrintsEvents]
  simp only [hline]

theorem threadIdOf_eq_some_iff :
    threadIdOf events = some threadId ↔ StartsThread events threadId := by
  rw [threadIdOf, StartsThread]
  split
  · next thread hfilter =>
    rw [hfilter, Option.filter_eq_some_iff, Option.bind_eq_some_iff]
    simp only [JsonValue.asText_eq_some_iff, exists_eq_right, decide_eq_true_eq, List.cons.injEq,
      and_true, exists_eq_left']
  · next hnot =>
    refine iff_of_false (fun h => by cases h) ?_
    rintro ⟨thread, hfilter, -⟩
    exact hnot thread hfilter

private theorem usageCount_eq_ok_iff {raw : JsonMembers} {name : String} {n : Nat} :
    usageCount raw name threadId = .ok n ↔ raw.get? name = some (.int n) := by
  have hinteger : (raw.get? name).bind JsonValue.asInteger = some (.ofNat n) ↔
      raw.get? name = some (.int n) := by
    rw [Option.bind_eq_some_iff]
    simp only [JsonValue.asInteger_eq_some_iff, exists_eq_right]
    rfl
  rw [← hinteger, usageCount]
  split
  · next m hm =>
    rw [hm, Except.ok.injEq, Option.some.injEq, Int.ofNat.injEq]
  · next hnot =>
    exact iff_of_false (fun h => by cases h) fun h => hnot n h

variable (threadId) in
theorem validateUsage_eq_ok_iff :
    validateUsage (turn.get? "usage") threadId = .ok usage ↔ ReportsUsage turn usage := by
  rw [validateUsage, ReportsUsage]
  simp only [Checked.bind_eq_ok_iff, Checked.orRaise_eq_ok_iff, Checked.check_eq_ok_iff,
    Checked.pure_eq_ok_iff, usageCount_eq_ok_iff, Option.bind_eq_some_iff,
    JsonValue.asObject_eq_some_iff, exists_eq_right, exists_const]
  refine exists_congr fun raw => and_congr_right fun _ => and_congr_right fun _ => ?_
  constructor
  · rintro ⟨input, hinput, cached, hcached, output, houtput, reasoning, hreasoning, rfl⟩
    exact ⟨hinput, hcached, houtput, hreasoning⟩
  · rintro ⟨hinput, hcached, houtput, hreasoning⟩
    exact ⟨_, hinput, _, hcached, _, houtput, _, hreasoning, rfl⟩

/-! ### The rollout -/

private theorem foldl_named_eq (records : List JsonValue) (named : Option (PyText × PyText)) :
    records.foldl (fun named record => (namedModelEffort record).or named) named =
      (records.filterMap namedModelEffort).getLast?.or named := by
  induction records generalizing named with
  | nil => rfl
  | cons record records ih =>
    rw [List.foldl_cons, ih, List.filterMap_cons]
    cases namedModelEffort record with
    | none => rfl
    | some first =>
      rw [List.getLast?_cons]
      cases (records.filterMap namedModelEffort).getLast? <;> rfl

/-- The reading of the only file. -/
private theorem verify_of_content {content : String}
    (hglob : world.rglob (rolloutPattern threadId) = .ok [.ok content]) :
    verifyActualModelEffort world threadId =
      (nonBlankLines content).mapM (loadsRecord world.texts threadId) >>= fun records =>
        Checked.orRaise (records.filterMap namedModelEffort).getLast? (unverifiable
          "Codex session rollout did not report actual model and effort" threadId) := by
  rw [verifyActualModelEffort, hglob]
  change ((nonBlankLines content).foldlM (fun named line => loadsRecord world.texts threadId line >>=
    fun record => pure ((namedModelEffort record).or named)) none >>= _) = _
  rw [Checked.foldlM_eq_mapM_bind]
  cases (nonBlankLines content).mapM (loadsRecord world.texts threadId) with
  | error failure => rfl
  | ok records =>
    change Checked.orRaise (records.foldl _ none) _ = Checked.orRaise _ _
    rw [foldl_named_eq, Option.or_none]

variable (threadId) in
private theorem loadsRecord_eq_ok_iff {line : String} {record : JsonValue} :
    loadsRecord texts threadId line = .ok record ↔ texts.loads line = .ok record := by
  rw [loadsRecord]
  cases texts.loads line with
  | ok value => rw [Except.ok.injEq, Except.ok.injEq]
  | error failure => cases failure <;> exact iff_of_false (fun h => by cases h) fun h => by cases h

private theorem loadsRecord_eq_other_iff {line : String} :
    loadsRecord texts threadId line = .error .other ↔ texts.loads line = .error .other := by
  rw [loadsRecord]
  cases texts.loads line with
  | ok value => exact iff_of_false (fun h => by cases h) fun h => by cases h
  | error failure =>
    cases failure with
    | decode => exact iff_of_false (fun h => by cases h) fun h => by cases h
    | other => exact iff_of_true rfl rfl

private theorem loadsRecord_eq_error {line : String} {failure : InvocationFailure}
    (h : loadsRecord texts threadId line = .error failure) :
    failure = .other ∨ ∃ message, failure = unverifiable message threadId := by
  rw [loadsRecord] at h
  cases hloads : texts.loads line with
  | ok value =>
    rw [hloads] at h
    cases h
  | error raised =>
    rw [hloads] at h
    cases raised with
    | decode => exact Or.inr ⟨_, (Except.error.inj h).symm⟩
    | other => exact Or.inl (Except.error.inj h).symm

/-- What the reading of the rollout can do. -/
private inductive ReadingCases (world : CodexWorld) (threadId : PyText) : Prop where
  | named (model effort : PyText)
      (result : verifyActualModelEffort world threadId = .ok (model, effort))
      (named : NamesModel world threadId model effort)
  | interrupted (result : verifyActualModelEffort world threadId = .error .other)
      (interrupted : InterruptsReading world threadId)
  | unverifiable (message : String) (result : verifyActualModelEffort world threadId =
      .error (Nanihold.unverifiable message threadId))

private theorem readingCases_of_content {content : String}
    (hglob : world.rglob (rolloutPattern threadId) = .ok [.ok content]) :
    ReadingCases world threadId := by
  have hverify := verify_of_content hglob
  cases hrecords : (nonBlankLines content).mapM (loadsRecord world.texts threadId) with
  | ok records =>
    rw [hrecords] at hverify
    have hloads := Checked.mapM_eq_ok_iff.mp hrecords
    simp only [loadsRecord_eq_ok_iff] at hloads
    cases hlast : (records.filterMap namedModelEffort).getLast? with
    | none => exact .unverifiable _ (by rw [hverify]; exact congrArg (Checked.orRaise · _) hlast)
    | some actual =>
      exact .named actual.1 actual.2 (by rw [hverify]; exact congrArg (Checked.orRaise · _) hlast)
        ⟨content, records, hglob, hloads, hlast⟩
  | error failure =>
    rw [hrecords] at hverify
    obtain ⟨before, line, after, hlines, hbefore, hline⟩ := Checked.mapM_eq_error_iff.mp hrecords
    rcases loadsRecord_eq_error hline with rfl | ⟨message, rfl⟩
    · simp only [loadsRecord_eq_ok_iff] at hbefore
      exact .interrupted hverify (Or.inr (Or.inr ⟨content, hglob, before, line, after, hlines,
        hbefore, loadsRecord_eq_other_iff.mp hline⟩))
    · exact .unverifiable message hverify

/-- The reading of the rollout names a model and an effort, is interrupted, or fails. -/
private theorem readingCases (world : CodexWorld) (threadId : PyText) :
    ReadingCases world threadId := by
  cases hglob : world.rglob (rolloutPattern threadId) with
  | error failure =>
    cases failure with
    | os => exact .unverifiable _ (by rw [verifyActualModelEffort, hglob]; rfl)
    | other => exact .interrupted (by rw [verifyActualModelEffort, hglob]; rfl) (Or.inl hglob)
  | ok found =>
    have hlength : found.length ≠ 1 → ReadingCases world threadId := fun hne => by
      refine .unverifiable "Codex session rollout for the thread was not uniquely found" ?_
      rw [verifyActualModelEffort, hglob]
      exact Checked.check_bind_of_not hne
    rcases found with _ | ⟨file, _ | ⟨second, rest⟩⟩
    · exact hlength Nat.zero_ne_one
    · cases file with
      | ok content => exact readingCases_of_content hglob
      | error failure =>
        cases failure with
        | os => exact .unverifiable _ (by rw [verifyActualModelEffort, hglob]; rfl)
        | other =>
          exact .interrupted (by rw [verifyActualModelEffort, hglob]; rfl) (Or.inr (Or.inl hglob))
    · refine hlength ?_
      rw [List.length_cons, List.length_cons]
      omega

private theorem verify_of_namesModel (h : NamesModel world threadId model effort) :
    verifyActualModelEffort world threadId = .ok (model, effort) := by
  obtain ⟨content, records, hglob, hloads, hlast⟩ := h
  simp only [← loadsRecord_eq_ok_iff threadId] at hloads
  rw [verify_of_content hglob, Checked.mapM_eq_ok_iff.mpr hloads]
  exact congrArg (Checked.orRaise · _) hlast

private theorem verify_of_interruptsReading (h : InterruptsReading world threadId) :
    verifyActualModelEffort world threadId = .error .other := by
  rcases h with hglob | hglob | ⟨content, hglob, before, line, after, hlines, hbefore, hline⟩
  · rw [verifyActualModelEffort, hglob]
    rfl
  · rw [verifyActualModelEffort, hglob]
    rfl
  · simp only [← loadsRecord_eq_ok_iff threadId] at hbefore
    rw [verify_of_content hglob, Checked.mapM_eq_error_iff.mpr
      ⟨before, line, after, hlines, hbefore, loadsRecord_eq_other_iff.mpr hline⟩]
    rfl

theorem verify_eq_ok_iff :
    verifyActualModelEffort world threadId = .ok (model, effort) ↔
      NamesModel world threadId model effort := by
  refine ⟨fun h => ?_, verify_of_namesModel⟩
  cases readingCases world threadId with
  | named other another hresult hnamed =>
    obtain ⟨rfl, rfl⟩ := Prod.mk.inj (Except.ok.inj (h.symm.trans hresult))
    exact hnamed
  | interrupted hresult => cases h.symm.trans hresult
  | unverifiable message hresult => cases h.symm.trans hresult

/-- **What the reading of the rollout raises** has the thread, unless the reading is
interrupted. -/
theorem verify_eq_error {failure : InvocationFailure}
    (h : verifyActualModelEffort world threadId = .error failure) :
    (failure = .other ∧ InterruptsReading world threadId) ∨
      (∃ message, failure = unverifiable message threadId) ∧
        ¬ InterruptsReading world threadId := by
  cases readingCases world threadId with
  | named model effort hresult => cases h.symm.trans hresult
  | interrupted hresult hinterrupted =>
    exact Or.inl ⟨Except.error.inj (h.symm.trans hresult), hinterrupted⟩
  | unverifiable message hresult =>
    refine Or.inr ⟨⟨message, Except.error.inj (h.symm.trans hresult)⟩, fun hinterrupted => ?_⟩
    cases hresult.symm.trans (verify_of_interruptsReading hinterrupted)

/-! ### The report -/

/-- **A run has reported** exactly what its output and its rollout say. -/
theorem readReport_eq_ok_iff {report : CodexAdapter.Report} :
    CodexAdapter.readReport world stdout = .ok report ↔
      ∃ events turn, PrintsEvents world.texts stdout events ∧
        StartsThread events report.providerSessionId ∧ CompletesTurn events turn ∧
        NamesModel world report.providerSessionId report.actualModel report.actualEffort ∧
        ReportsUsage turn report.usage := by
  rw [CodexAdapter.readReport]
  simp only [Checked.bind_eq_ok_iff, Checked.check_eq_ok_iff, Checked.orRaise_eq_ok_iff,
    Checked.pure_eq_ok_iff, mapM_loadsEvent_iff, threadIdOf_eq_some_iff, exists_const]
  constructor
  · rintro ⟨events, hevents, ⟨-, hturns⟩, threadId, hthread, ⟨model, effort⟩, hactual, usage,
      husage,
      rfl⟩
    obtain ⟨turn, hturn⟩ := List.length_eq_one_iff.mp hturns
    rw [hturn] at husage
    exact ⟨events, turn, hevents, hthread, hturn, verify_eq_ok_iff.mp hactual,
      (validateUsage_eq_ok_iff _).mp husage⟩
  · rintro ⟨events, turn, hevents, hthread, hturn, hnamed, husage⟩
    obtain ⟨thread, hthreads, -⟩ := id hthread
    refine ⟨events, hevents, ⟨?_, ?_⟩, _, hthread, _, verify_eq_ok_iff.mpr hnamed, report.usage, ?_,
      rfl⟩
    · rw [hthreads, List.length_singleton]
    · rw [hturn, List.length_singleton]
    · rw [hturn]
      exact (validateUsage_eq_ok_iff _).mpr husage

end Reading

/-! ### The verdict -/

/-- **The final message covers the request**: it is a valid output, its criteria are those of the
request in their order, and it is not completed with a criterion unsatisfied. -/
def CoversRequest (texts : HostTexts) (resultText : String) (request : WorkExecutionRequest) :
    Prop :=
  ∃ output, texts.workOutput resultText = some output ∧
    output.acceptanceResults.map AcceptanceResult.criterion = request.unmetAcceptance ∧
    (output.completed = true → ∀ result ∈ output.acceptanceResults, result.satisfied = true)

/-- **A run is acceptable** for a request: what it printed, its rollout, its exit code, its usage and
its final message are as they have to be. -/
def AcceptableRun (world : CodexWorld) (completed : CompletedProcess) (resultText : String)
    (request : WorkExecutionRequest) : Prop :=
  ∃ events threadId turn usage model, PrintsEvents world.texts completed.stdout events ∧
    StartsThread events threadId ∧ CompletesTurn events turn ∧
    request.candidate.modelSnapshot = some model ∧
    NamesModel world threadId (.ofString model) (.ofString request.candidate.effort) ∧
    completed.returncode = 0 ∧ ReportsUsage turn usage ∧ usage.Within request.tokenBudget ∧
    CoversRequest world.texts resultText request

section Verdict

variable {adapter : CodexAdapter} {world : CodexWorld} {completed : CompletedProcess}
  {resultText : String} {request : WorkExecutionRequest} {report : CodexAdapter.Report}

private theorem judge_eq_ok_iff {returncode : Int} :
    (∃ invoked, adapter.judge world.texts report returncode resultText request = .ok invoked) ↔
      (adapter.candidate.modelSnapshot.map PyText.ofString = some report.actualModel ∧
        report.actualEffort = .ofString adapter.candidate.effort) ∧ returncode = 0 ∧
      report.usage.Within request.tokenBudget ∧ CoversRequest world.texts resultText request := by
  rw [CodexAdapter.judge, CoversRequest]
  simp only [Checked.bind_eq_ok_iff, Checked.check_eq_ok_iff, Checked.orRaise_eq_ok_iff,
    Checked.pure_eq_ok_iff, exists_const]
  constructor
  · rintro ⟨_, hcandidate, hcode, hwithin, output, houtput, hcriteria, hcomplete, -⟩
    exact ⟨hcandidate, hcode, hwithin, output, houtput, hcriteria, hcomplete⟩
  · rintro ⟨hcandidate, hcode, hwithin, output, houtput, hcriteria, hcomplete⟩
    exact ⟨_, hcandidate, hcode, hwithin, output, houtput, hcriteria, hcomplete, rfl⟩

/-- **The adapter returns exactly on an acceptable run.** -/
theorem parse_eq_ok_iff (hcandidate : request.candidate = adapter.candidate) :
    (∃ invoked, adapter.parse world completed resultText request = .ok invoked) ↔
      AcceptableRun world completed resultText request := by
  rw [AcceptableRun, hcandidate]
  constructor
  · rintro ⟨invoked, h⟩
    obtain ⟨report, hreport, hjudge⟩ := Checked.bind_eq_ok_iff.mp h
    obtain ⟨events, turn, hevents, hthread, hturn, hnamed, husage⟩ :=
      readReport_eq_ok_iff.mp hreport
    obtain ⟨⟨hmodel, heffort⟩, hcode, hwithin, hcovers⟩ := judge_eq_ok_iff.mp ⟨invoked, hjudge⟩
    obtain ⟨model, hsnapshot, hmodel⟩ := Option.map_eq_some_iff.mp hmodel
    rw [← hmodel, heffort] at hnamed
    exact ⟨events, _, turn, _, model, hevents, hthread, hturn, hsnapshot, hnamed, hcode, husage,
      hwithin, hcovers⟩
  · rintro ⟨events, threadId, turn, usage, model, hevents, hthread, hturn, hsnapshot, hnamed, hcode,
      husage, hwithin, hcovers⟩
    have hreport : CodexAdapter.readReport world completed.stdout =
        .ok ⟨usage, .ofString model, .ofString adapter.candidate.effort, threadId⟩ :=
      readReport_eq_ok_iff.mpr ⟨events, turn, hevents, hthread, hturn, hnamed, husage⟩
    rw [CodexAdapter.parse, hreport]
    exact judge_eq_ok_iff.mpr ⟨⟨by rw [hsnapshot]; rfl, rfl⟩, hcode, hwithin, hcovers⟩

private theorem judge_eq_error {returncode : Int} {failure : InvocationFailure}
    (h : adapter.judge world.texts report returncode resultText request = .error failure) :
    ∃ code message, failure = report.failure code message := by
  have hrefuses : Checked.Refuses (adapter.judge world.texts report returncode resultText request)
      fun failure => ∃ code message, failure = report.failure code message := by
    have hreport (code message : String) :
        ∃ code' message', report.failure code message = report.failure code' message' :=
      ⟨code, message, rfl⟩
    simp only [CodexAdapter.judge, Checked.refuses_bind, Checked.refuses_check,
      Checked.refuses_orRaise, Checked.refuses_pure, hreport, implies_true, and_true]
  exact hrefuses.of_error h

end Verdict

/-! ### What can be recorded -/

/-- The counts of a usage and their total can be written. -/
def CodexUsage.IsWritable (usage : CodexUsage) : Prop :=
  ∀ count ∈ [usage.inputTokens, usage.cachedInputTokens, usage.outputTokens,
    usage.reasoningOutputTokens, usage.totalTokens], PyScalar.writable count = true

/-- **What a failed run has said can be recorded**: the id of its thread has no lone surrogate, unless
the reading of its rollout is interrupted, and where the run is read up to its usage, neither has the
model, and the counts have not too many digits. -/
structure Recordable (world : CodexWorld) (stdout : String) : Prop where
  thread : ∀ events threadId, PrintsEvents world.texts stdout events →
    StartsThread events threadId →
    ¬ ((∃ turn, CompletesTurn events turn) ∧ InterruptsReading world threadId) →
    threadId.isEncodable = true
  report : ∀ events threadId turn model effort usage, PrintsEvents world.texts stdout events →
    StartsThread events threadId → CompletesTurn events turn →
    NamesModel world threadId model effort → ReportsUsage turn usage →
    model.isEncodable = true ∧ usage.IsWritable

section Recording

variable {adapter : CodexAdapter} {world : CodexWorld} {stdout : String}
  {events : List JsonMembers} {turn : JsonMembers} {threadId model effort : PyText}
  {usage : CodexUsage}

theorem CodexUsage.isWritable_report : usage.report.isWritable = true ↔ usage.IsWritable := by
  rw [report, JsonValue.object, JsonValue.isWritable, JsonValue.haveWritable_iff, IsWritable]
  simp only [List.forall_mem_map, List.forall_mem_cons, PyText.isEncodable_ofString, true_and,
    JsonValue.isWritable, List.not_mem_nil, false_imp_iff, implies_true, and_true]

private theorem PrintsEvents.unique {texts : HostTexts} {other : List JsonMembers}
    (h : PrintsEvents texts stdout events) (hother : PrintsEvents texts stdout other) :
    other = events :=
  Except.ok.inj ((mapM_loadsEvent_iff.mpr hother).symm.trans (mapM_loadsEvent_iff.mpr h))

private theorem StartsThread.unique {other : PyText} (h : StartsThread events threadId)
    (hother : StartsThread events other) : other = threadId :=
  Option.some.inj ((threadIdOf_eq_some_iff.mpr hother).symm.trans (threadIdOf_eq_some_iff.mpr h))

private theorem recordable_of_no_thread
    (h : ∀ events threadId, PrintsEvents world.texts stdout events →
      ¬ StartsThread events threadId) : Recordable world stdout :=
  ⟨fun events threadId hevents hthread => absurd hthread (h events threadId hevents),
    fun events threadId _ _ _ _ hevents hthread => absurd hthread (h events threadId hevents)⟩

private theorem recordable_of_interrupted (hevents : PrintsEvents world.texts stdout events)
    (hthread : StartsThread events threadId) (hturn : CompletesTurn events turn)
    (hinterrupted : InterruptsReading world threadId) : Recordable world stdout := by
  refine ⟨fun other otherId hother hotherThread hread => ?_,
    fun other otherId _ _ _ _ hother hotherThread _ hnamed _ => ?_⟩
  · obtain rfl := hevents.unique hother
    obtain rfl := hthread.unique hotherThread
    exact absurd ⟨⟨turn, hturn⟩, hinterrupted⟩ hread
  · obtain rfl := hevents.unique hother
    obtain rfl := hthread.unique hotherThread
    cases (verify_of_namesModel hnamed).symm.trans (verify_of_interruptsReading hinterrupted)

/-- A run that is not read up to its usage has only its thread recorded. -/
private theorem recordable_iff_thread (hevents : PrintsEvents world.texts stdout events)
    (hthread : StartsThread events threadId)
    (hread : ¬ ((∃ turn, CompletesTurn events turn) ∧ InterruptsReading world threadId))
    (hreport : ∀ turn model effort usage, CompletesTurn events turn →
      NamesModel world threadId model effort → ¬ ReportsUsage turn usage) :
    Recordable world stdout ↔ threadId.isEncodable = true := by
  refine ⟨fun h => h.thread events threadId hevents hthread hread, fun h => ⟨?_, ?_⟩⟩
  · intro other otherId hother hotherThread _
    obtain rfl := hevents.unique hother
    exact hthread.unique hotherThread ▸ h
  · intro other otherId turn model effort usage hother hotherThread hturn hnamed husage
    obtain rfl := hevents.unique hother
    obtain rfl := hthread.unique hotherThread
    exact absurd husage (hreport turn model effort usage hturn hnamed)

/-- A run that is read up to its usage has all of its report recorded. -/
private theorem recordable_iff_report (hevents : PrintsEvents world.texts stdout events)
    (hthread : StartsThread events threadId) (hturn : CompletesTurn events turn)
    (hnamed : NamesModel world threadId model effort) (husage : ReportsUsage turn usage) :
    Recordable world stdout ↔
      usage.IsWritable ∧ model.isEncodable = true ∧ threadId.isEncodable = true := by
  have hread : ¬ ((∃ turn, CompletesTurn events turn) ∧ InterruptsReading world threadId) := by
    rintro ⟨-, hinterrupted⟩
    cases (verify_of_namesModel hnamed).symm.trans (verify_of_interruptsReading hinterrupted)
  constructor
  · intro h
    obtain ⟨hmodel, hwritable⟩ :=
      h.report events threadId turn model effort usage hevents hthread hturn hnamed husage
    exact ⟨hwritable, hmodel, h.thread events threadId hevents hthread hread⟩
  · rintro ⟨hwritable, hmodel, hid⟩
    refine ⟨?_, ?_⟩
    · intro other otherId hother hotherThread _
      obtain rfl := hevents.unique hother
      exact hthread.unique hotherThread ▸ hid
    · intro other otherId otherTurn otherModel otherEffort otherUsage hother hotherThread hotherTurn
        hotherNamed hotherUsage
      obtain rfl := hevents.unique hother
      obtain rfl := hthread.unique hotherThread
      obtain ⟨rfl, -⟩ := List.cons.inj (hturn.symm.trans hotherTurn)
      obtain ⟨rfl, -⟩ := Prod.mk.inj (Except.ok.inj
        ((verify_of_namesModel hnamed).symm.trans (verify_of_namesModel hotherNamed)))
      have hvalidated := (validateUsage_eq_ok_iff otherId).mpr husage
      obtain rfl := Except.ok.inj
        (hvalidated.symm.trans ((validateUsage_eq_ok_iff otherId).mpr hotherUsage))
      exact ⟨hmodel, hwritable⟩

/-- A failure that has nothing but its thread. -/
private theorem isWritable_provider {code message : String} {session : Option PyText} :
    (InvocationFailure.provider code message none none session).outcome.isWritable = true ↔
      ∀ id ∈ session, id.isEncodable = true := by
  cases session with
  | none => exact iff_of_true rfl fun _ hmem => by cases hmem
  | some id =>
    change (true && id.isEncodable && true && true) = true ↔ _
    simp only [Bool.true_and, Bool.and_true, Option.mem_some_iff, forall_eq']

private theorem isWritable_failure {report : CodexAdapter.Report} {code message : String} :
    (report.failure code message).outcome.isWritable = true ↔ report.usage.IsWritable ∧
      report.actualModel.isEncodable = true ∧ report.providerSessionId.isEncodable = true := by
  change (report.actualModel.isEncodable && report.providerSessionId.isEncodable &&
    report.usage.report.isWritable && true) = true ↔ _
  rw [Bool.and_true, Bool.and_eq_true, Bool.and_eq_true, CodexUsage.isWritable_report, and_comm]

private theorem validateUsage_eq_error {raw : Option JsonValue} {failure : InvocationFailure}
    (h : validateUsage raw threadId = .error failure) :
    ∃ message, failure = usageMissing message threadId := by
  have hmissing (message : String) :
      ∃ message', usageMissing message threadId = usageMissing message' threadId := ⟨message, rfl⟩
  have hcount (raw : JsonMembers) (name : String) : Checked.Refuses (usageCount raw name threadId)
      fun failure => ∃ message, failure = usageMissing message threadId := by
    intro failure hfailure
    rw [usageCount] at hfailure
    split at hfailure
    · cases hfailure
    · exact ⟨_, (Except.error.inj hfailure).symm⟩
  have hrefuses : Checked.Refuses (validateUsage raw threadId)
      fun failure => ∃ message, failure = usageMissing message threadId := by
    simp only [validateUsage, Checked.refuses_bind, Checked.refuses_check, Checked.refuses_orRaise,
      Checked.refuses_pure, hmissing, hcount, implies_true, and_true]
  exact hrefuses.of_error h

private theorem mapM_loadsEvent_eq_error {texts : HostTexts} {lines : List String}
    {failure : InvocationFailure} (h : lines.mapM (loadsEvent texts) = .error failure) :
    failure.outcome.isWritable = true := by
  obtain ⟨_, line, _, -, -, hline⟩ := Checked.mapM_eq_error_iff.mp h
  rw [loadsEvent] at hline
  cases hloads : texts.loads line with
  | ok value =>
    rw [hloads] at hline
    dsimp only at hline
    cases hobject : value.asObject with
    | none =>
      rw [hobject] at hline
      obtain rfl := Except.error.inj hline
      rfl
    | some event =>
      rw [hobject] at hline
      cases hline
  | error raised =>
    rw [hloads] at hline
    cases raised <;> obtain rfl := Except.error.inj hline <;> rfl

/-- The reading of a rollout and a usage that fails. -/
private theorem isWritable_of_reading_error {failure : InvocationFailure}
    (hevents : PrintsEvents world.texts stdout events) (hthread : StartsThread events threadId)
    (hturn : CompletesTurn events turn)
    (h : (verifyActualModelEffort world threadId >>= fun actual =>
      validateUsage ((events.filter (hasType "turn.completed")).head?.bind fun turn =>
        turn.get? "usage") threadId >>= fun usage =>
          pure (CodexAdapter.Report.mk usage actual.1 actual.2 threadId)) = .error failure) :
    failure.outcome.isWritable = true ↔ Recordable world stdout := by
  rw [show events.filter (hasType "turn.completed") = [turn] from hturn] at h
  cases hverify : verifyActualModelEffort world threadId with
  | error raised =>
    rw [hverify] at h
    obtain rfl := Except.error.inj h
    rcases verify_eq_error hverify with ⟨rfl, hinterrupted⟩ | ⟨⟨message, rfl⟩, hread⟩
    · exact iff_of_true rfl (recordable_of_interrupted hevents hthread hturn hinterrupted)
    · rw [unverifiable, isWritable_provider, recordable_iff_thread hevents hthread
        (fun hinterrupted => hread hinterrupted.2) fun _ _ _ _ _ hnamed _ => by
          cases hverify.symm.trans (verify_of_namesModel hnamed)]
      simp only [Option.mem_some_iff, forall_eq']
  | ok actual =>
    rw [hverify] at h
    change (validateUsage (turn.get? "usage") threadId >>= _) = _ at h
    cases husage : validateUsage (turn.get? "usage") threadId with
    | ok usage =>
      rw [husage] at h
      cases h
    | error raised =>
      rw [husage] at h
      obtain rfl := Except.error.inj h
      obtain ⟨message, rfl⟩ := validateUsage_eq_error husage
      rw [usageMissing, isWritable_provider, recordable_iff_thread hevents hthread]
      · simp only [Option.mem_some_iff, forall_eq']
      · rintro ⟨-, hinterrupted⟩
        cases hverify.symm.trans (verify_of_interruptsReading hinterrupted)
      · intro other _ _ _ hother _ hreports
        obtain ⟨rfl, -⟩ := List.cons.inj (hturn.symm.trans hother)
        cases husage.symm.trans ((validateUsage_eq_ok_iff _).mpr hreports)

/-- **A failed reading can be recorded** exactly if what it has read can. -/
theorem isWritable_of_readReport_error {failure : InvocationFailure}
    (h : CodexAdapter.readReport world stdout = .error failure) :
    failure.outcome.isWritable = true ↔ Recordable world stdout := by
  rw [CodexAdapter.readReport] at h
  cases hevents : (nonBlankLines stdout).mapM (loadsEvent world.texts) with
  | error raised =>
    rw [hevents] at h
    obtain rfl := Except.error.inj h
    refine iff_of_true (mapM_loadsEvent_eq_error hevents) (recordable_of_no_thread ?_)
    intro events threadId hprints
    cases hevents.symm.trans (mapM_loadsEvent_iff.mpr hprints)
  | ok events =>
    rw [hevents] at h
    change (Checked.check _ _ >>= _) = _ at h
    have hprints := mapM_loadsEvent_iff.mp hevents
    have hcounts {threadId : PyText} {turn : JsonMembers} (hthread : StartsThread events threadId)
        (hturn : CompletesTurn events turn) :
        (events.filter (hasType "thread.started")).length = 1 ∧
          (events.filter (hasType "turn.completed")).length = 1 := by
      obtain ⟨thread, hthread, -⟩ := hthread
      rw [hthread, hturn]
      exact ⟨rfl, rfl⟩
    by_cases hcount : (events.filter (hasType "thread.started")).length = 1 ∧
        (events.filter (hasType "turn.completed")).length = 1
    · rw [Checked.check_bind_of hcount] at h
      cases hid : threadIdOf events with
      | none =>
        rw [hid] at h
        obtain rfl := Except.error.inj h
        refine iff_of_true rfl (recordable_of_no_thread fun other threadId hother hthread => ?_)
        rw [hprints.unique hother] at hthread
        cases hid.symm.trans (threadIdOf_eq_some_iff.mpr hthread)
      | some id =>
        rw [hid] at h
        exact isWritable_of_reading_error hprints (threadIdOf_eq_some_iff.mp hid)
          (List.length_eq_one_iff.mp hcount.2).choose_spec h
    · rw [Checked.check_bind_of_not hcount] at h
      obtain rfl := Except.error.inj h
      rw [isWritable_provider]
      cases hid : threadIdOf events with
      | none =>
        refine iff_of_true (fun _ hmem => by cases hmem)
          (recordable_of_no_thread fun other threadId hother hthread => ?_)
        rw [hprints.unique hother] at hthread
        cases hid.symm.trans (threadIdOf_eq_some_iff.mpr hthread)
      | some id =>
        have hthread := threadIdOf_eq_some_iff.mp hid
        rw [recordable_iff_thread hprints hthread
          (fun hread => hcount (hcounts hthread hread.1.choose_spec))
          fun turn _ _ _ hturn _ _ => hcount (hcounts hthread hturn)]
        simp only [Option.mem_some_iff, forall_eq']

/-- **The failure of a run can be recorded** exactly if what it has said can. -/
theorem isWritable_iff_recordable {completed : CompletedProcess} {resultText : String}
    {request : WorkExecutionRequest} {failure : InvocationFailure}
    (h : adapter.parse world completed resultText request = .error failure) :
    failure.outcome.isWritable = true ↔ Recordable world completed.stdout := by
  rw [CodexAdapter.parse] at h
  cases hreport : CodexAdapter.readReport world completed.stdout with
  | error raised =>
    rw [hreport] at h
    obtain rfl := Except.error.inj h
    exact isWritable_of_readReport_error hreport
  | ok report =>
    rw [hreport] at h
    obtain ⟨code, message, rfl⟩ := judge_eq_error h
    obtain ⟨events, turn, hevents, hthread, hturn, hnamed, husage⟩ :=
      readReport_eq_ok_iff.mp hreport
    rw [isWritable_failure, recordable_iff_report hevents hthread hturn hnamed husage]

end Recording

/-! ### The receipt -/

section Receipt

variable [Sha256] {P : Type} {models : RequestModels P} {host : ProductionPilotHost} {payload : P}
  {world : HostWorld} {memory : HostMemory} {request : WorkExecutionRequest}
  {completed : CompletedProcess} {resultText : String}

/-- **A call reaches the provider**: the request is admitted and its receipt is new. -/
structure ReachesProvider (models : RequestModels P) (host : ProductionPilotHost) (payload : P)
    (world : HostWorld) (memory : HostMemory) (request : WorkExecutionRequest) : Prop where
  valid : models.validate "/v1/work-executions" payload = .ok (.work request)
  admitted : AdmittedNow host world memory.cache (.work request)
  fresh : memory.receipts.existing request.receiptId request.idempotencyKey = none

/-- The call stores a failed receipt and returns it. -/
def StoresFailed (models : RequestModels P) (host : ProductionPilotHost) (payload : P)
    (world : HostWorld) (memory : HostMemory) (request : WorkExecutionRequest) : Prop :=
  ∃ receipt after, host.execute models "/v1/work-executions" payload world memory =
      .ok receipt after ∧ receipt.status = .failed ∧
    after.receipts.receipts.get? request.receiptId = some receipt

/-- **The verdict is kept**: the adapter returns exactly on an acceptable run, and the receipt of
every other run is stored as failed. -/
def VerdictKept (models : RequestModels P) (host : ProductionPilotHost) (payload : P)
    (world : HostWorld) (memory : HostMemory) (request : WorkExecutionRequest)
    (completed : CompletedProcess) (resultText : String) : Prop :=
  ((∃ invoked, host.codex.parse world.codex completed resultText request = .ok invoked) ↔
      AcceptableRun world.codex completed resultText request) ∧
    (¬ AcceptableRun world.codex completed resultText request →
      StoresFailed models host payload world memory request)

omit [Sha256] in
private theorem candidate_of_accepted (h : host.validateRequest world (.work request) = .ok ()) :
    host.codex.validateRequest world.codex.resolve request = .ok () ∧
      request.candidate = host.codex.candidate := by
  obtain ⟨_, hcodex, -⟩ := Checked.bind_eq_ok_iff.mp h
  exact ⟨hcodex, (Checked.check_bind_eq_ok_iff.mp hcodex).1⟩

omit [Sha256] in
/-- The outcome of a run is what the adapter makes of it. -/
private theorem invoke_eq_parse (h : host.validateRequest world (.work request) = .ok ())
    (hprocess : world.codex.process = .ok (completed, resultText)) :
    host.invoke world (.work request) =
      host.codex.parse world.codex completed resultText request := by
  rw [ProductionPilotHost.invoke, CodexAdapter.invoke, (candidate_of_accepted h).1, hprocess]
  rfl

/-- **A failure is stored** exactly if it can be written. -/
private theorem storesFailed_iff
    (hreaches : ReachesProvider models host payload world memory request)
    {failure : InvocationFailure} (hinvoke : host.invoke world (.work request) = .error failure) :
    StoresFailed models host payload world memory request ↔
      failure.outcome.isWritable = true := by
  obtain ⟨hidentity, haccepted, cache', hpreflight⟩ := hreaches.admitted
  have hadmission : host.admission models "/v1/work-executions" payload world memory.cache =
      .ok (.work request, cache') :=
    (admission_eq_ok_iff hreaches.valid).mpr ⟨hidentity, haccepted, cache', hpreflight, rfl⟩
  have hexecute := ProductionPilotHost.execute_of_admission hadmission
  obtain ⟨hok, herror⟩ := ProductionPilotHost.complete_of_new host "/v1/work-executions" world
    (.work request) { memory with cache := cache' } hreaches.fresh
  let begun := ProductionPilotHost.begunMemory "/v1/work-executions" world (.work request)
    { memory with cache := cache' } hreaches.fresh
  have hstored : begun.receipts.StoredFor
      ((HostRequest.work request).receiptRequest "/v1/work-executions") _ :=
    ProductionPilotHost.storedFor_begunMemory hreaches.fresh
  rw [hinvoke] at hok herror
  have hfinish : (∃ answer, begun.receipts.finish request.receiptId failure.outcome
      world.finishedAt = .ok answer) ↔ _ := ReceiptStore.finish_eq_ok_iff
  rw [and_iff_right ⟨_, hstored.get?, rfl⟩] at hfinish
  rw [← hfinish, StoresFailed, hexecute]
  constructor
  · rintro ⟨receipt, after, hcomplete, -⟩
    cases hresult : (ProductionPilotHost.begunMemory "/v1/work-executions" world (.work request)
        { memory with cache := cache' } hreaches.fresh).receipts.finish request.receiptId
        failure.outcome world.finishedAt with
    | ok answer => exact ⟨answer, rfl⟩
    | error e => cases hcomplete.symm.trans (herror e hresult)
  · rintro ⟨⟨receipt, store⟩, hresult⟩
    obtain ⟨⟨old, -, rfl⟩, hget⟩ := ReceiptStore.finish_eq_ok hresult
    refine ⟨_, _, hok _ _ hresult, ?_, (hget _).trans (if_pos rfl)⟩
    cases failure <;> rfl

/-- **The exact condition**: the verdict on a run is kept exactly if the run is acceptable or what it
has said can be recorded. -/
theorem verdictKept_iff (hreaches : ReachesProvider models host payload world memory request)
    (hprocess : world.codex.process = .ok (completed, resultText)) :
    VerdictKept models host payload world memory request completed resultText ↔
      AcceptableRun world.codex completed resultText request ∨
        Recordable world.codex completed.stdout := by
  have hinvoke := invoke_eq_parse hreaches.admitted.accepted hprocess
  have hparse : (∃ invoked, host.codex.parse world.codex completed resultText request =
      .ok invoked) ↔ AcceptableRun world.codex completed resultText request :=
    parse_eq_ok_iff (candidate_of_accepted hreaches.admitted.accepted).2
  rw [VerdictKept, and_iff_right hparse]
  by_cases hacceptable : AcceptableRun world.codex completed resultText request
  · exact iff_of_true (fun hnot => absurd hacceptable hnot) (Or.inl hacceptable)
  · rw [or_iff_right hacceptable, imp_iff_right hacceptable]
    cases hfailed : host.codex.parse world.codex completed resultText request with
    | ok invoked => exact absurd (hparse.mp ⟨invoked, hfailed⟩) hacceptable
    | error failure =>
      rw [storesFailed_iff hreaches (hinvoke.trans hfailed), isWritable_iff_recordable hfailed]

end Receipt

/-! ### A thread id without an encoding -/

section Example

/-- `{"type":"thread.started","thread_id":"\ud800"}`. -/
def surrogateLine : String :=
  "\x7b\"type\":\"thread.started\",\"thread_id\":\"\\ud800\"\x7d"

/-- The readers of JSON, as far as that line goes. -/
def surrogateTexts : HostTexts where
  loads line := if line = surrogateLine then
      .ok (.dict [(.ofString "type", .str "thread.started"),
        (.ofString "thread_id", .text [⟨0xD800, by decide⟩])])
    else .error .decode
  fromJson _ := none

def ungatedHost : ProductionPilotHost := { companyPilotHost with preflight := none }

/-- A run of Codex that prints a text and leaves no final message. -/
def printedWorld (stdout : String) : HostWorld :=
  { companyWorld lostVersionFile with
    codex := ⟨surrogateTexts, some, .ok (⟨stdout, 1⟩, ""), fun _ => .ok []⟩ }

theorem reachesProvider_ungated (stdout : String) :
    ReachesProvider companyModels ungatedHost () (printedWorld stdout) emptyMemory
      companyWorkRequest where
  valid := rfl
  admitted := ⟨rfl, rfl, _, rfl⟩
  fresh := rfl

/-- A run that prints nothing. -/
theorem verdictKept_silent :
    letI := Sha256.polynomial
    VerdictKept companyModels ungatedHost () (printedWorld "") emptyMemory companyWorkRequest
        ⟨"", 1⟩ "" ↔
      AcceptableRun (printedWorld "").codex ⟨"", 1⟩ "" companyWorkRequest ∨
        Recordable (printedWorld "").codex "" := by
  let := Sha256.polynomial
  exact verdictKept_iff (reachesProvider_ungated "") rfl

/-- **A run that starts a thread with a lone surrogate** and completes no turn: the adapter raises,
and then the failure cannot be stored. -/
theorem lone_surrogate_breaks_verdict :
    letI := Sha256.polynomial
    ReachesProvider companyModels ungatedHost () (printedWorld surrogateLine) emptyMemory
        companyWorkRequest ∧
      ¬ AcceptableRun (printedWorld surrogateLine).codex ⟨surrogateLine, 1⟩ "" companyWorkRequest ∧
      ¬ StoresFailed companyModels ungatedHost () (printedWorld surrogateLine) emptyMemory
        companyWorkRequest := by
  let := Sha256.polynomial
  refine ⟨reachesProvider_ungated _, fun hacceptable => ?_, ?_⟩
  · have hreturns : ∃ invoked, ungatedHost.codex.parse (printedWorld surrogateLine).codex
        ⟨surrogateLine, 1⟩ "" companyWorkRequest = .ok invoked :=
      (parse_eq_ok_iff rfl).mpr hacceptable
    obtain ⟨invoked, hparse⟩ := hreturns
    have hfails : (ungatedHost.codex.parse (printedWorld surrogateLine).codex ⟨surrogateLine, 1⟩ ""
        companyWorkRequest).isOk = false := by decide +kernel
    rw [hparse] at hfails
    cases hfails
  · rintro ⟨receipt, after, hexecute, -⟩
    have hfails : (ungatedHost.execute companyModels "/v1/work-executions" ()
        (printedWorld surrogateLine)).returns emptyMemory = false := by decide +kernel
    rw [EStateM.returns_of_ok hexecute] at hfails
    cases hfails

end Example

end Nanihold
