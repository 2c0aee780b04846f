import Mathlib
import Nanihold.Safety.Commissioning

/-!
# Imports that cannot be assessed

A history import is accepted once. The assessment that must follow repeats the import's id and the
id of the canonical Conversation as identifiers; the receipt has any text of up to 512 characters
for the first, and the registration takes any text that is not empty for the second. Every other
demand of an assessment can be met, so the two texts decide whether the data space can ever become
active.

## Main definitions

* `ReorientationAssessment.isValid` — the formats that the data model checks.
* `SameImport`, `Imported` — the import stays, and the import of a receipt with its Conversation.
* `Activates` — an assessment that is accepted and can be approved.

## Main results

* `imported_runProcesses` — an accepted import stays.
* `exists_activates_iff` — an import can be assessed exactly if both ids are identifiers.
-/

namespace Nanihold

/-! ### Formats -/

/-- The formats of an assessment. -/
def ReorientationAssessment.isValid (assessment : ReorientationAssessment) : Bool :=
  isIdentifier assessment.assessmentId && isIdentifier assessment.importId &&
    isIdentifier assessment.conversationId && assessment.openCommitmentIds.all isIdentifier &&
    assessment.resumeWorkItemIds.all isIdentifier &&
    isNonBlank assessment.coveredSessionIndexRef &&
    assessment.citations.all fun citation =>
      isNonBlank citation.claimRef && isIdentifier citation.evidenceRef

/-- The formats of a receipt, but for its sources and sessions. -/
def HistoryImportReceipt.isValid (receipt : HistoryImportReceipt) : Bool :=
  isNonBlank receipt.inventoryId && isIdentifier receipt.dataSpaceId &&
    isNonBlank receipt.sessionIndexRef && isNonBlank receipt.openCommitmentsRef &&
    isNonBlank receipt.currentStateRef

/-! ### The import stays -/

/-- An aggregate after the import keeps what was imported. -/
structure SameImport (a next : ActivationService) : Prop where
  left_uncommissioned : next.state ≠ .uncommissioned
  receipt_eq : next.importReceipt = a.importReceipt
  conversation_eq : next.reorientationConversationId = a.reorientationConversationId
  cursor_eq : next.importEventCursor = a.importEventCursor

/-- The history of a receipt has been imported with a Conversation. -/
structure Imported (receipt : HistoryImportReceipt) (conversationId : String)
    (a : ActivationService) : Prop where
  left_uncommissioned : a.state ≠ .uncommissioned
  receipt_eq : a.importReceipt = some receipt
  conversation_eq : a.reorientationConversationId = some conversationId

section Import

variable {receipt : HistoryImportReceipt} {conversationId : String} {a next : ActivationService}
  {event : EventEnvelope} {payload : ActivationPayload} {cursor : Nat}

/-- **A permitted event** after the import keeps it. -/
theorem sameImport_of_applyActivation (ha : a.state ≠ .uncommissioned)
    (hpermits : a.Permits event payload)
    (h : applyActivation event payload cursor a = .ok next) : SameImport a next := by
  have hyields : Checked.Yields (onActivation event cursor a payload) (SameImport a) := by
    cases payload <;> rw [onActivation]
    case historyImportVerified => exact absurd hpermits.1 ha
    case reorientationSessionCheckpointed =>
      simp only [Checked.yields_check_bind, Checked.yields_pure]
      exact fun _ => ⟨ha, rfl, rfl, rfl⟩
    case reorientationAssessmentRevisionRequested =>
      simp only [Checked.yields_orRaise_bind, Checked.yields_check_bind, Checked.yields_pure]
      exact fun _ _ _ _ => ⟨ActivationState.noConfusion, rfl, rfl, rfl⟩
    case reorientationStarted | reorientationRetryStarted | reorientationRevisionRetryStarted
        | reorientationAssessmentAccepted | activationApproved =>
      exact Checked.yields_ok.mpr ⟨ActivationState.noConfusion, rfl, rfl, rfl⟩
    all_goals exact Checked.yields_ok.mpr ⟨ha, rfl, rfl, rfl⟩
  obtain ⟨mid, hmid, rfl⟩ := ActivationService.applyActivation_eq_ok h
  obtain ⟨hstate, hreceipt, hconversation, hcursor⟩ := hyields.of_ok hmid
  exact ⟨hstate, hreceipt, hconversation, hcursor⟩

variable {s s' : MemorySystem}

/-- **Every recorded event** after the import keeps it. -/
theorem sameImport_of_stepped (hs : s.KernelSynced)
    (hstate : s.kernel.activation.state ≠ .uncommissioned) (h : s.Stepped event s') :
    SameImport s.kernel.activation s'.kernel.activation := by
  cases h.wrote with
  | kernel payload _ _ happlied =>
    rw [(Kernel.changes_of_applyKernel hs.consistent happlied).activation]
    cases payload <;> exact ⟨hstate, rfl, rfl, rfl⟩
  | activation _ _ _ hpermits happlied =>
    exact sameImport_of_applyActivation hstate hpermits happlied
  | ownerAuth _ _ _ _ hkernel =>
    rw [hkernel]
    exact ⟨hstate, rfl, rfl, rfl⟩
  | other _ hkernel =>
    rw [hkernel]
    exact ⟨hstate, rfl, rfl, rfl⟩

theorem imported_of_stepped (hs : s.KernelSynced)
    (himported : Imported receipt conversationId s.kernel.activation) (h : s.Stepped event s') :
    Imported receipt conversationId s'.kernel.activation := by
  have hsame := sameImport_of_stepped hs himported.left_uncommissioned h
  exact ⟨hsame.left_uncommissioned, hsame.receipt_eq.trans himported.receipt_eq,
    hsame.conversation_eq.trans himported.conversation_eq⟩

variable [Sha256] (dataSpace : DataSpace)

theorem imported_kept : KeptByProcesses fun s => Reorienting dataSpace s ∧
    Imported receipt conversationId s.kernel.activation where
  synced s hs := (reorienting_kept dataSpace).synced s hs.1
  all_synced s hs := (reorienting_kept dataSpace).all_synced s hs.1
  mirrored s event s' hs h := ⟨(reorienting_kept dataSpace).mirrored s event s' hs.1 h,
    imported_of_stepped hs.1.synced.1.toKernelSynced hs.2 h.stepped⟩
  stored s data hs := ⟨(reorienting_kept dataSpace).stored s data hs.1, hs.2⟩
  restarted s hs := ⟨(reorienting_kept dataSpace).restarted s hs.1, hs.2⟩

/-- **An accepted import stays** over every run. -/
theorem imported_runProcesses (hs : Reorienting dataSpace s)
    (himported : Imported receipt conversationId s.kernel.activation)
    (inputs : List (ProcessCommand × Clock)) :
    Reorienting dataSpace (runProcesses s inputs) ∧
      Imported receipt conversationId (runProcesses s inputs).kernel.activation :=
  Run.exec_invariant (ProcessCommand.invariant_step (imported_kept dataSpace)) inputs
    ⟨hs, himported⟩

end Import

/-! ### Assessments -/

section Assessment

variable {a : ActivationService} {receipt : HistoryImportReceipt}
  {conversationId evidenceRef : String} {openCommitmentIds existingWorkItemIds : List String}

private theorem least_understanding : 1 ≤ "-".length ∧ "-".length ≤ 1200 := by decide

private theorem least_missions : ([] : List String).length ≤ 8 ∧ [].all isAssessmentItem := by
  decide

private theorem least_decisions : ([] : List String).length ≤ 12 ∧ [].all isAssessmentItem := by
  decide

private theorem least_citations (claim evidenceRef : String) :
    [EvidenceCitation.mk claim evidenceRef].length ≤ 32 := Nat.le_of_ble_eq_true rfl

/-- The least that an assessment of the import can say: it resumes the first of the existing work
items and cites one history query. -/
def leastAssessment (receipt : HistoryImportReceipt) (conversationId evidenceRef : String)
    (openCommitmentIds existingWorkItemIds : List String) (cursor : Nat) :
    ReorientationAssessment where
  assessmentId := "assessment:1"
  importId := receipt.inventoryId
  conversationId := conversationId
  generatedAt := 0
  understanding := "-"
  activeMissions := []
  decisionsAndConstraints := []
  openCommitmentIds := openCommitmentIds
  unknowns := []
  resumeWorkItemIds := existingWorkItemIds.take 1
  coveredSessionIndexRef := receipt.sessionIndexRef
  coveredSessionCount := receipt.sessionCount
  historyCursor := cursor
  currentStateCursor := cursor
  citations := [⟨"understanding", evidenceRef⟩]
  understanding_length := least_understanding
  active_missions_bounded := least_missions
  decisions_bounded := least_decisions
  unknowns_bounded := least_missions
  citations_bounded := least_citations conversationId evidenceRef

/-- The least assessment is well formed if both ids are identifiers. -/
theorem leastAssessment_isValid (hreceipt : receipt.isValid = true)
    (hinventory : isIdentifier receipt.inventoryId = true)
    (hconversation : isIdentifier conversationId = true)
    (hevidence : isIdentifier evidenceRef = true)
    (hopen : ∀ id ∈ openCommitmentIds, isIdentifier id = true)
    (hwork : ∀ id ∈ existingWorkItemIds, isIdentifier id = true) (cursor : Nat) :
    (leastAssessment receipt conversationId evidenceRef openCommitmentIds existingWorkItemIds
      cursor).isValid = true := by
  simp only [HistoryImportReceipt.isValid, Bool.and_eq_true] at hreceipt
  have hresume : (existingWorkItemIds.take 1).all isIdentifier = true :=
    List.all_eq_true.mpr fun id hid => hwork id (List.mem_of_mem_take hid)
  have hfirst : isIdentifier "assessment:1" = true := by decide
  have hclaim : isNonBlank "understanding" = true := by decide
  simp only [ReorientationAssessment.isValid, leastAssessment, hfirst, hinventory, hconversation,
    List.all_eq_true.mpr hopen, hresume, hreceipt.1.1.2, List.all_cons, hclaim, hevidence,
    List.all_nil, Bool.and_self]

/-- An attempt that has read the current state and can be finished. -/
structure ReadyAttempt (a : ActivationService)
    (openCommitmentIds existingWorkItemIds : List String) :
    Prop where
  attempt : a.state = .reorientationOnly ∧ a.reorientationAttemptInProgress = true
  queried : HistoryOperation.getCurrentState ∈ a.historyQueryOperations
  evidence : ∃ evidenceRef ∈ a.historyQueryEventIds, isIdentifier evidenceRef = true
  open_identifiers : ∀ id ∈ openCommitmentIds, isIdentifier id = true
  work_identifiers : ∀ id ∈ existingWorkItemIds, isIdentifier id = true

/-- What an accepted assessment leaves behind. -/
def withAssessment (a : ActivationService) (assessment : ReorientationAssessment) :
    ActivationService :=
  { a with
    assessment := some assessment
    state := .awaitingOwnerConfirmation
    pendingReorientationRevisionReason := none
    reorientationAttemptInProgress := false
    reorientationAttemptStartedStreamVersion := none }

/-- The event of an accepted assessment. -/
def assessmentRecording (a : ActivationService) (assessment : ReorientationAssessment)
    (actorId key : String) (clock : Clock) : Recording ActivationService :=
  a.recording (.reorientationAssessmentAccepted assessment .awaitingOwnerConfirmation) "pilot"
    (some actorId) key (clock 0) fun _ _ a => withAssessment a assessment

/-- **The least assessment** passes every check. -/
theorem submitAssessment_least (himported : Imported receipt conversationId a)
    (hready : ReadyAttempt a openCommitmentIds existingWorkItemIds)
    (hevidence : evidenceRef ∈ a.historyQueryEventIds) (actorId key : String) (clock : Clock) :
    a.submitAssessment (leastAssessment receipt conversationId evidenceRef openCommitmentIds
        existingWorkItemIds a.importEventCursor) openCommitmentIds existingWorkItemIds true actorId
        key clock =
      .ok (assessmentRecording a (leastAssessment receipt conversationId evidenceRef
        openCommitmentIds existingWorkItemIds a.importEventCursor) actorId key clock) := by
  have hresume : existingWorkItemIds = [] ∨ existingWorkItemIds.take 1 ≠ [] := by
    cases existingWorkItemIds with
    | nil => exact Or.inl rfl
    | cons id rest => exact Or.inr (List.cons_ne_nil _ _)
  refine Checked.check_bind_eq_ok_iff.mpr ⟨hready.attempt.1, ?_⟩
  refine Checked.check_bind_eq_ok_iff.mpr ⟨hready.attempt.2, ?_⟩
  refine Checked.orRaise_bind_eq_ok_iff.mpr ⟨receipt, himported.receipt_eq, ?_⟩
  refine Checked.check_bind_eq_ok_iff.mpr ⟨rfl, ?_⟩
  refine Checked.check_bind_eq_ok_iff.mpr ⟨himported.conversation_eq.symm, ?_⟩
  refine Checked.check_bind_eq_ok_iff.mpr ⟨rfl, ?_⟩
  refine Checked.check_bind_eq_ok_iff.mpr ⟨rfl, ?_⟩
  refine Checked.check_bind_eq_ok_iff.mpr ⟨rfl, ?_⟩
  refine Checked.check_bind_eq_ok_iff.mpr ⟨rfl, ?_⟩
  refine Checked.check_bind_eq_ok_iff.mpr ⟨hresume, ?_⟩
  refine Checked.check_bind_eq_ok_iff.mpr ⟨fun id => List.mem_of_mem_take, ?_⟩
  refine Checked.check_bind_eq_ok_iff.mpr ⟨le_rfl, ?_⟩
  refine Checked.check_bind_eq_ok_iff.mpr ⟨le_rfl, ?_⟩
  refine Checked.check_bind_eq_ok_iff.mpr ⟨hready.queried, ?_⟩
  refine Checked.check_bind_eq_ok_iff.mpr ⟨List.forall_mem_singleton.mpr ?_, ?_⟩
  · exact List.mem_singleton_self _
  · exact Checked.check_bind_eq_ok_iff.mpr ⟨List.forall_mem_singleton.mpr hevidence, rfl⟩

/-- **A valid assessment** that is accepted repeats both ids, which are identifiers. -/
theorem identifiers_of_submitted (himported : Imported receipt conversationId a)
    {assessment : ReorientationAssessment} (hvalid : assessment.isValid = true)
    {workItemIds : List String} {listed : Bool} {actorId key : String} {clock : Clock}
    {r : Recording ActivationService} (h : a.submitAssessment assessment openCommitmentIds
      workItemIds listed actorId key clock = .ok r) :
    isIdentifier receipt.inventoryId = true ∧ isIdentifier conversationId = true := by
  simp only [ReorientationAssessment.isValid, Bool.and_eq_true] at hvalid
  obtain ⟨⟨⟨⟨⟨⟨-, himport⟩, hconversation⟩, -⟩, -⟩, -⟩, -⟩ := hvalid
  obtain ⟨-, h⟩ := Checked.check_bind_eq_ok_iff.mp h
  obtain ⟨-, h⟩ := Checked.check_bind_eq_ok_iff.mp h
  obtain ⟨known, hknown, h⟩ := Checked.orRaise_bind_eq_ok_iff.mp h
  obtain rfl := Option.some.inj (hknown.symm.trans himported.receipt_eq)
  obtain ⟨hsame, h⟩ := Checked.check_bind_eq_ok_iff.mp h
  obtain ⟨hsame', -⟩ := Checked.check_bind_eq_ok_iff.mp h
  rw [himported.conversation_eq, Option.some_inj] at hsame'
  exact ⟨hsame ▸ himport, hsame' ▸ hconversation⟩

end Assessment

/-! ### To the active state -/

section Activate

variable [Sha256] {dataSpace : DataSpace} {s : MemorySystem}

/-- **A command with a fresh key** whose checks pass returns, and its assignments are made. -/
theorem performActivation_returns (hs : Reorienting dataSpace s)
    (hidentifier : isIdentifier dataSpace.dataSpaceId = true) {actorId key : String}
    (hfresh : FreshRequest s actorId key)
    (himported : s.kernel.activation.state ≠ .uncommissioned) {payload : ActivationPayload}
    {actorText : String} {actorType : ActorType}
    (htype : ActorType.ofString? actorText = some actorType) {occurredAt : DateTime}
    {assign : EventEnvelope → AppendResult → ActivationService → ActivationService}
    (plan : ActivationService → Except VsmError (Recording ActivationService))
    (hplan : plan s.kernel.activation = .ok (s.kernel.activation.recording payload actorText
      (some actorId) key occurredAt assign)) :
    ∃ s' event result version, performActivation plan s = .ok () s' ∧
      s'.kernel.activation =
        assign event result { s.kernel.activation with version := version } := by
  obtain ⟨event, ⟨result, ledger⟩, henvelope, happend⟩ :=
    accepted_recording hs hidentifier hfresh himported payload htype occurredAt assign
  have hrecord := record_of_appended henvelope happend
  have hperform : perform (fun s : MemorySystem => plan s.kernel.activation) s = _ :=
    (perform_of_ok hplan).trans hrecord
  exact ⟨_, event, result, result.streamVersion, EStateM.run_bind_of_ok hperform, rfl⟩

/-- A command that returns keeps the invariant. -/
private theorem reorienting_of_returned (hs : Reorienting dataSpace s)
    {command : ActivationCommand} {clock : Clock} {s' : MemorySystem}
    (h : command.run clock s = .ok () s') : Reorienting dataSpace s' := by
  have hrun : (ProcessCommand.service (.activation command)).run clock s = .ok () s' := h
  have hstep := ProcessCommand.invariant_step (reorienting_kept dataSpace) s
    (.service (.activation command), clock) hs
  rwa [ProcessCommand.step, EStateM.finalState_of_ok hrun] at hstep

/-- **An assessment that leads on**: the data model accepts it, its submission passes every check,
and with fresh keys the submission and then the owner's approval return and the data space is
active. -/
structure Activates (s : MemorySystem) (openCommitmentIds : List String)
    (assessment : ReorientationAssessment) : Prop where
  valid : assessment.isValid = true
  checked : ∀ actorId key clock, ∃ r, s.kernel.activation.submitAssessment assessment
    openCommitmentIds s.kernel.workItems.keys true actorId key clock = .ok r
  activated : ∀ pilotId submitKey clock, FreshRequest s pilotId submitKey →
    ∃ submitted, (ActivationCommand.submitAssessment assessment openCommitmentIds
        s.kernel.workItems.keys true pilotId submitKey).run clock s = .ok () submitted ∧
      ∀ ownerId approveKey clock', FreshRequest submitted ownerId approveKey →
        ∃ approved, (ActivationCommand.approve assessment.assessmentId ownerId approveKey).run
          clock' submitted = .ok () approved ∧ approved.kernel.activation.state = .active

variable {receipt : HistoryImportReceipt} {conversationId : String}
  {openCommitmentIds : List String}

/-- **An accepted assessment** can be approved with a fresh key. -/
private theorem approve_returns (hs : Reorienting dataSpace s)
    (hidentifier : isIdentifier dataSpace.dataSpaceId = true)
    (hstate : s.kernel.activation.state = .awaitingOwnerConfirmation)
    {assessment : ReorientationAssessment}
    (hassessment : s.kernel.activation.assessment = some assessment) {ownerId key : String}
    (clock : Clock) (hfresh : FreshRequest s ownerId key) :
    ∃ approved, (ActivationCommand.approve assessment.assessmentId ownerId key).run clock s =
      .ok () approved ∧ approved.kernel.activation.state = .active := by
  have hplan : s.kernel.activation.approve assessment.assessmentId ownerId key clock =
      .ok (s.kernel.activation.recording
        (.activationApproved assessment.assessmentId (clock 0) .active) "human" (some ownerId) key
        (clock 1) fun _ _ a => { a with approvedAt := some (clock 0), state := .active }) := by
    refine Checked.check_bind_eq_ok_iff.mpr ⟨hstate, ?_⟩
    refine Checked.orRaise_bind_eq_ok_iff.mpr ⟨assessment, hassessment, ?_⟩
    exact Checked.check_bind_eq_ok_iff.mpr ⟨rfl, rfl⟩
  have himported : s.kernel.activation.state ≠ .uncommissioned := by
    rw [hstate]
    exact ActivationState.noConfusion
  obtain ⟨approved, _, _, _, happrove, hactivation⟩ :=
    performActivation_returns hs hidentifier hfresh himported rfl
      (fun a => a.approve assessment.assessmentId ownerId key clock) hplan
  refine ⟨approved, happrove, ?_⟩
  rw [hactivation]

/-- **The least assessment** leads on. -/
theorem activates_least (hs : Reorienting dataSpace s)
    (hidentifier : isIdentifier dataSpace.dataSpaceId = true) (hreceipt : receipt.isValid = true)
    (himported : Imported receipt conversationId s.kernel.activation)
    (hready : ReadyAttempt s.kernel.activation openCommitmentIds s.kernel.workItems.keys)
    {evidenceRef : String} (hevidence : evidenceRef ∈ s.kernel.activation.historyQueryEventIds)
    (hevidenceId : isIdentifier evidenceRef = true)
    (hinventory : isIdentifier receipt.inventoryId = true)
    (hconversation : isIdentifier conversationId = true) :
    Activates s openCommitmentIds (leastAssessment receipt conversationId evidenceRef
      openCommitmentIds s.kernel.workItems.keys s.kernel.activation.importEventCursor) where
  valid := leastAssessment_isValid hreceipt hinventory hconversation hevidenceId
    hready.open_identifiers hready.work_identifiers _
  checked actorId key clock :=
    ⟨_, submitAssessment_least himported hready hevidence actorId key clock⟩
  activated pilotId submitKey clock hfresh := by
    obtain ⟨submitted, _, _, _, hplan, hactivation⟩ := performActivation_returns hs hidentifier
      hfresh himported.left_uncommissioned rfl (fun a => a.submitAssessment _ openCommitmentIds
        s.kernel.workItems.keys true pilotId submitKey clock)
      (submitAssessment_least himported hready hevidence pilotId submitKey clock)
    have hsubmit : (ActivationCommand.submitAssessment (leastAssessment receipt conversationId
        evidenceRef openCommitmentIds s.kernel.workItems.keys
        s.kernel.activation.importEventCursor) openCommitmentIds s.kernel.workItems.keys true
        pilotId
        submitKey).run clock s = .ok () submitted := hplan
    refine ⟨submitted, hsubmit, fun ownerId approveKey clock' hfresh' => ?_⟩
    exact approve_returns (reorienting_of_returned hs hsubmit) hidentifier
      (by rw [hactivation]; rfl) (by rw [hactivation]; rfl) clock' hfresh'

/-- **An import can be assessed** exactly if both ids are identifiers. -/
theorem exists_activates_iff (hs : Reorienting dataSpace s)
    (hidentifier : isIdentifier dataSpace.dataSpaceId = true) (hreceipt : receipt.isValid = true)
    (himported : Imported receipt conversationId s.kernel.activation)
    (hready : ReadyAttempt s.kernel.activation openCommitmentIds s.kernel.workItems.keys) :
    (∃ assessment, Activates s openCommitmentIds assessment) ↔
      isIdentifier receipt.inventoryId = true ∧ isIdentifier conversationId = true := by
  constructor
  · rintro ⟨assessment, hactivates⟩
    obtain ⟨_, hr⟩ := hactivates.checked "pilot:1" "key" fun _ => 0
    exact identifiers_of_submitted himported hactivates.valid hr
  · rintro ⟨hinventory, hconversation⟩
    obtain ⟨evidenceRef, hevidence, hevidenceId⟩ := hready.evidence
    exact ⟨_, activates_least hs hidentifier hreceipt himported hready hevidence hevidenceId
      hinventory hconversation⟩

/-! ### Runs -/

variable {s₀ s₁ : MemorySystem} {actorId key : String} {clock : Clock}

omit [Sha256] in
/-- The checks of an import plan its event. -/
private theorem registerHistoryImport_planned {a : ActivationService}
    (hstate : a.state = .uncommissioned) {answer : Option (Recording ActivationService)}
    (h : a.registerHistoryImport receipt conversationId actorId key clock = .ok answer) :
    answer = some (a.recording (.historyImportVerified receipt conversationId .historyImported)
      "human" (some actorId) key (clock 0) fun _ result a =>
        { a with
          importReceipt := some receipt
          reorientationConversationId := some conversationId
          sessions := OrderedDict.ofList (receipt.sessions.map fun session =>
            (session.sessionRef, session))
          state := .historyImported
          importEventCursor := result.cursor }) := by
  rw [ActivationService.registerHistoryImport, if_neg (not_not.mpr hstate)] at h
  obtain ⟨-, h⟩ := Checked.check_bind_eq_ok_iff.mp h
  obtain ⟨-, h⟩ := Checked.check_bind_eq_ok_iff.mp h
  obtain ⟨-, h⟩ := Checked.check_bind_eq_ok_iff.mp h
  obtain ⟨-, h⟩ := Checked.check_bind_eq_ok_iff.mp h
  obtain ⟨-, h⟩ := Checked.check_bind_eq_ok_iff.mp h
  exact (Except.ok.inj h).symm

/-- **An accepted registration** of an uncommissioned data space imports the receipt. -/
theorem imported_of_registered (hstate : s₀.kernel.activation.state = .uncommissioned)
    (h : (ActivationCommand.registerHistoryImport receipt conversationId actorId key).run clock s₀ =
      .ok () s₁) : Imported receipt conversationId s₁.kernel.activation := by
  rw [ActivationCommand.run, Nanihold.registerHistoryImport,
    EStateM.run_bind_of_ok (EStateM.run_get_eq s₀)] at h
  cases hchecks : s₀.kernel.activation.registerHistoryImport receipt conversationId actorId key
    clock with
  | error e =>
    rw [hchecks] at h
    cases h
  | ok answer =>
    obtain rfl := registerHistoryImport_planned hstate hchecks
    rw [hchecks] at h
    rcases record_cases (s₀.kernel.activation.recording
      (.historyImportVerified receipt conversationId .historyImported) "human" (some actorId) key
      (clock 0) fun _ result a =>
        { a with
          importReceipt := some receipt
          reorientationConversationId := some conversationId
          sessions := OrderedDict.ofList (receipt.sessions.map fun session =>
            (session.sessionRef, session))
          state := .historyImported
          importEventCursor := result.cursor }) s₀ with
      ⟨e, herror⟩ | ⟨event, result, ledger, -, -, hrecord⟩
    · cases (EStateM.run_bind_of_error herror).symm.trans h
    · cases (EStateM.run_bind_of_ok hrecord).symm.trans h
      exact ⟨ActivationState.noConfusion, rfl, rfl⟩

/-- **No dead end but for the formats of two ids.** After any run the registration of a receipt is
accepted; whatever commands and restarts follow, an attempt that has read the current state has an
assessment that leads to the active state exactly if the ids of the inventory and of the
Conversation are identifiers. -/
theorem exists_activates_runProcesses_iff (dataSpace : DataSpace)
    (hidentifier : isIdentifier dataSpace.dataSpaceId = true)
    (earlier later : List (ProcessCommand × Clock)) (hreceipt : receipt.isValid = true)
    (hstate : (runProcesses (.new dataSpace) earlier).kernel.activation.state = .uncommissioned)
    (hregistered : (ActivationCommand.registerHistoryImport receipt conversationId actorId key).run
      clock (runProcesses (.new dataSpace) earlier) = .ok () s₁)
    (hready : ReadyAttempt (runProcesses s₁ later).kernel.activation openCommitmentIds
      (runProcesses s₁ later).kernel.workItems.keys) :
    (∃ assessment, Activates (runProcesses s₁ later) openCommitmentIds assessment) ↔
      isIdentifier receipt.inventoryId = true ∧ isIdentifier conversationId = true := by
  have hnew : Reorienting dataSpace (runProcesses (.new dataSpace) earlier) :=
    Run.exec_invariant (ProcessCommand.invariant_step (reorienting_kept dataSpace)) earlier
      (reorienting_new dataSpace)
  obtain ⟨hs, himported⟩ := imported_runProcesses dataSpace
    (reorienting_of_returned hnew hregistered)
    (imported_of_registered hstate hregistered) later
  exact exists_activates_iff hs hidentifier hreceipt himported hready

/-- The company's work graph is imported. -/
def graphRun : List (ProcessCommand × Clock) :=
  [(.service (.kernel (.importCurrentWorkGraph companyGraph "owner:1" "graph:1")), fun _ => 0)]

/-- The registration of a receipt by the company's owner. -/
def companyRegistration (receipt : HistoryImportReceipt) : ActivationCommand :=
  .registerHistoryImport receipt "conversation:1" "owner:1" "import:1"

/-- An attempt starts and reads the current state. -/
def attemptRun : List (ProcessCommand × Clock) :=
  [(.service (.activation (.startReorientation "pilot:1" "start:1")), fun _ => 0),
    (.service (.history (.resolve 1000 ⟨"action:1", .getCurrentState, none, none⟩
      (.ok ⟨"state", none, none, "cursor"⟩) "pilot:1" "query:1")), fun _ => 0)]

/-- The company after its import. -/
def importedCompany (receipt : HistoryImportReceipt) : MemorySystem :=
  ((companyRegistration receipt).run fun _ => 0).finalState
    (runProcesses (.new companySpace) graphRun)

omit [Sha256] in
/-- The company's import can be assessed. -/
theorem exists_activates_runProcesses_iff_company :
    letI := Sha256.polynomial
    (∃ assessment, Activates (runProcesses (importedCompany companyReceipt) attemptRun) []
        assessment) ↔
      isIdentifier companyReceipt.inventoryId = true ∧ isIdentifier "conversation:1" = true := by
  let := Sha256.polynomial
  have hreturned : ((companyRegistration companyReceipt).run fun _ => 0).returns
      (runProcesses (.new companySpace) graphRun) = true := by decide +kernel
  obtain ⟨_, hregistered⟩ := EStateM.exists_ok_of_returns hreturned
  refine exists_activates_runProcesses_iff companySpace (by decide) graphRun attemptRun
    (by decide +kernel) (by decide +kernel) hregistered ?_
  exact ⟨by decide +kernel, by decide +kernel, by decide +kernel, by decide +kernel,
    by decide +kernel⟩

/-- A receipt whose inventory has an id with a blank. -/
def spacedReceipt : HistoryImportReceipt :=
  { companyReceipt with inventoryId := "inventory 1" }

omit [Sha256] in
/-- The import of a receipt whose inventory id is no identifier is accepted and an attempt reads the
current state, but no valid assessment is accepted then or after any later run. -/
theorem not_submitted_spacedReceipt :
    letI := Sha256.polynomial
    spacedReceipt.isValid = true ∧
      ((companyRegistration spacedReceipt).run fun _ => 0).returns
        (runProcesses (.new companySpace) graphRun) = true ∧
      ReadyAttempt (runProcesses (importedCompany spacedReceipt) attemptRun).kernel.activation []
        (runProcesses (importedCompany spacedReceipt) attemptRun).kernel.workItems.keys ∧
      ∀ later assessment openCommitmentIds workItemIds listed actorId key clock r,
        assessment.isValid = true →
          (runProcesses (importedCompany spacedReceipt) later).kernel.activation.submitAssessment
            assessment openCommitmentIds workItemIds listed actorId key clock ≠ .ok r := by
  let := Sha256.polynomial
  have hreturned : ((companyRegistration spacedReceipt).run fun _ => 0).returns
      (runProcesses (.new companySpace) graphRun) = true := by decide +kernel
  refine ⟨by decide +kernel, hreturned, ⟨by decide +kernel, by decide +kernel, by decide +kernel,
    by decide +kernel, by decide +kernel⟩, ?_⟩
  intro later assessment openCommitmentIds workItemIds listed actorId key clock r hvalid hr
  obtain ⟨_, hregistered⟩ := EStateM.exists_ok_of_returns hreturned
  have hnew := Run.exec_invariant (ProcessCommand.invariant_step (reorienting_kept companySpace))
    graphRun (reorienting_new companySpace)
  obtain ⟨-, himported⟩ := imported_runProcesses companySpace
    (reorienting_of_returned hnew hregistered)
    (imported_of_registered (by decide +kernel) hregistered) later
  have hinventory := (identifiers_of_submitted himported hvalid hr).1
  revert hinventory
  decide

end Activate

end Nanihold
