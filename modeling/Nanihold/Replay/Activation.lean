import Nanihold.Activation.HistoryTools
import Nanihold.Projection

/-!
# Activation and owner commands and their replay

The commands of the Activation service, the audit events of the history tools and the owner
bootstrap against the handlers of the events they record.

## Main definitions

* `ActivationService.Permits` — what the service has checked when it records an event.
* `ActivationService.Settled` — no attempt is pending before the history import.
* `ActivationService.Replayable`, `OwnerBootstrapService.Replayable` — a recording whose
  assignments the projection's handler repeats.

## Main results

* `ActivationService.replayable_registerHistoryImport`, … — one for each command.
* `ActivationService.settled_of_applyActivation` — a permitted event keeps the aggregate
  settled.
-/

namespace Nanihold

namespace ActivationService

variable {a next : ActivationService} {r : Recording ActivationService} {clock : Clock}

/-- What the Activation service has checked when it records an event with this payload. -/
def Permits (a : ActivationService) (event : EventEnvelope) : ActivationPayload → Prop
  | .historyImportVerified receipt conversationId _ =>
    a.state = .uncommissioned ∧ a.workGraphSnapshotId ≠ none ∧ conversationId ≠ "" ∧
      receipt.dataSpaceId = a.dataSpaceId
  | .reorientationStarted _ =>
    a.state = .historyImported ∧ a.reorientationAttemptInProgress = false
  | .reorientationRetryStarted _ priorErrorCode =>
    a.state = .reorientationOnly ∧ a.reorientationAttemptInProgress = false ∧
      a.reorientationError = some priorErrorCode
  | .reorientationRevisionRetryStarted _ reasonCode =>
    a.state = .reorientationOnly ∧ a.reorientationAttemptInProgress = false ∧
      a.pendingReorientationRevisionReason = some reasonCode
  | .reorientationFailed _ | .reorientationAttemptInterrupted _
  | .reorientationSessionCheckpointed _ | .reorientationPilotUsageRecorded _ _ =>
    a.state = .reorientationOnly ∧ a.reorientationAttemptInProgress = true
  | .historyQueryResolved _ _ _ _ _ _ _ _ => a.state = .reorientationOnly
  | .historySessionIndexPageVerified _ _ _ _ => True
  | .reorientationAssessmentAccepted assessment _ =>
    a.state = .reorientationOnly ∧ a.reorientationAttemptInProgress = true ∧
      (∃ receipt, a.importReceipt = some receipt ∧ assessment.importId = receipt.inventoryId) ∧
      some assessment.conversationId = a.reorientationConversationId ∧
      a.importEventCursor ≤ assessment.historyCursor ∧
      assessment.historyCursor ≤ assessment.currentStateCursor
  | .reorientationAssessmentRevisionRequested priorAssessmentId _ state =>
    a.state = .awaitingOwnerConfirmation ∧ state = .reorientationOnly ∧
      ∃ prior, a.assessment = some prior ∧ prior.assessmentId = priorAssessmentId
  | .activationApproved assessmentId _ _ =>
    a.state = .awaitingOwnerConfirmation ∧ event.actorType = .human ∧
      ∃ assessment, a.assessment = some assessment ∧ assessment.assessmentId = assessmentId

/-- Before the history import no attempt was started and none is pending. -/
structure Settled (a : ActivationService) : Prop where
  attempt : a.state = .uncommissioned → a.reorientationAttemptInProgress = false
  started : a.state = .uncommissioned → a.reorientationAttemptStartedStreamVersion = none
  pending : a.state = .uncommissioned → a.pendingReorientationRevisionReason = none

theorem settled_new (dataSpaceId : String) : (ActivationService.new dataSpaceId).Settled where
  attempt _ := rfl
  started _ := rfl
  pending _ := rfl

/-- **Replayable.** Whatever event the recording turns into, the service permits it, the
assignments after it return, and the handler of the event reaches the same aggregate. -/
def Replayable (a : ActivationService) (payload : ActivationPayload)
    (r : Recording ActivationService) : Prop :=
  r.payload = .activation payload ∧ r.streamId = a.streamId ∧
    ∀ (event : EventEnvelope) (result : AppendResult),
      r.Describes a event → result.streamVersion = event.streamVersion →
        a.Permits event payload ∧ ∃ next,
          r.update event result (EventWriter.advance a r.streamId result) = .ok () next ∧
            applyActivation event payload result.cursor a = .ok next

private theorem replayable_recording {payload : ActivationPayload} {actorType : String}
    {actorId : Option String} {key : String} {occurredAt : DateTime}
    {assign : EventEnvelope → AppendResult → ActivationService → ActivationService}
    (hevent : ∀ (event : EventEnvelope) (result : AppendResult),
      ActorType.ofString? actorType = some event.actorType →
        result.streamVersion = event.streamVersion →
          a.Permits event payload ∧
            onActivation event result.cursor a payload = .ok (assign event result a))
    (hframe : ∀ event result version,
      assign event result { a with version := version } =
        { assign event result a with version := version }) :
    a.Replayable payload (a.recording payload actorType actorId key occurredAt assign) := by
  refine ⟨rfl, rfl, fun event result hdescribes hversion => ?_⟩
  obtain ⟨hpermits, hon⟩ := hevent event result hdescribes.actor_type hversion
  refine ⟨hpermits, _, rfl, ?_⟩
  refine Eq.trans ?_ (congrArg Except.ok (hframe event result _).symm)
  rw [applyActivation, hon, hversion]
  rfl

/-! ### Commands -/

theorem replayable_registerHistoryImport (ha : a.Settled) {receipt : HistoryImportReceipt}
    {conversationId actorId key : String}
    (h : a.registerHistoryImport receipt conversationId actorId key clock = .ok (some r)) :
    a.Replayable (.historyImportVerified receipt conversationId .historyImported) r := by
  rw [registerHistoryImport] at h
  split at h
  · rw [Checked.check_bind_eq_ok_iff] at h
    exact nomatch h.2
  · next hstate =>
    rw [not_not] at hstate
    simp only [Checked.check_bind_eq_ok_iff, Checked.pure_eq_ok_iff] at h
    obtain ⟨hgraph, hconversation, hspace, -, -, hr⟩ := h
    obtain rfl := Option.some.inj hr
    refine replayable_recording
      (fun event result _ _ => ⟨⟨hstate, hgraph, hconversation, hspace⟩, ?_⟩)
      fun _ _ _ => rfl
    rw [onActivation, Checked.check_bind_of hconversation, ← ha.attempt hstate,
      ← ha.started hstate, ← ha.pending hstate]
    rfl

theorem replayable_startReorientation {actorId key : String}
    (h : a.startReorientation actorId key clock = .ok r) :
    ∃ payload, a.startPayload = .ok payload ∧ a.Replayable payload r := by
  rw [startReorientation, Checked.check_bind_eq_ok_iff] at h
  obtain ⟨hattempt, h⟩ := h
  obtain ⟨payload, hpayload, h⟩ := Checked.bind_eq_ok_iff.mp h
  obtain rfl := Checked.pure_eq_ok_iff.mp h
  refine ⟨payload, hpayload, replayable_recording (fun event result _ _ => ?_) fun _ _ _ => rfl⟩
  unfold startPayload at hpayload
  split at hpayload
  · next hstate =>
    obtain rfl := Except.ok.inj hpayload
    exact ⟨⟨hstate, hattempt⟩, rfl⟩
  · next hstate herror =>
    obtain rfl := Except.ok.inj hpayload
    exact ⟨⟨hstate, hattempt, herror⟩, rfl⟩
  · next hstate _ hpending =>
    obtain rfl := Except.ok.inj hpayload
    exact ⟨⟨hstate, hattempt, hpending⟩, rfl⟩
  · exact nomatch hpayload

private theorem requireAttempt_eq_ok {operation : String} {u : Unit}
    (h : a.requireAttempt operation = .ok u) :
    a.state = .reorientationOnly ∧ a.reorientationAttemptInProgress = true := by
  rw [requireAttempt, Checked.check_bind_eq_ok_iff, Checked.check_eq_ok_iff] at h
  exact h

theorem replayable_recordReorientationFailure {errorCode actorId key : String}
    (h : a.recordReorientationFailure errorCode actorId key clock = .ok r) :
    a.Replayable (.reorientationFailed errorCode) r := by
  obtain ⟨_, hattempt, h⟩ := Checked.bind_eq_ok_iff.mp h
  obtain rfl := Checked.pure_eq_ok_iff.mp h
  exact replayable_recording (fun _ _ _ _ => ⟨requireAttempt_eq_ok hattempt, rfl⟩)
    fun _ _ _ => rfl

theorem replayable_interruptReorientationAttempt
    {reasonCode : ReorientationInterruptionReason} {actorId key : String}
    (h : a.interruptReorientationAttempt reasonCode actorId key clock = .ok r) :
    a.Replayable (.reorientationAttemptInterrupted reasonCode) r := by
  obtain ⟨_, hattempt, h⟩ := Checked.bind_eq_ok_iff.mp h
  obtain rfl := Checked.pure_eq_ok_iff.mp h
  exact replayable_recording (fun _ _ _ _ => ⟨requireAttempt_eq_ok hattempt, rfl⟩)
    fun _ _ _ => rfl

theorem replayable_recordReorientationSessionCheckpoint {providerSessionId actorId key : String}
    (h : a.recordReorientationSessionCheckpoint providerSessionId actorId key clock = .ok r) :
    a.Replayable (.reorientationSessionCheckpointed providerSessionId) r := by
  obtain ⟨_, hattempt, h⟩ := Checked.bind_eq_ok_iff.mp h
  rw [Checked.check_bind_eq_ok_iff] at h
  obtain ⟨hsession, h⟩ := h
  obtain rfl := Checked.pure_eq_ok_iff.mp h
  refine replayable_recording (fun _ _ _ _ => ⟨requireAttempt_eq_ok hattempt, ?_⟩)
    fun _ _ _ => rfl
  rw [onActivation, Checked.check_bind_of hsession]
  rfl

theorem replayable_submitAssessment {assessment : ReorientationAssessment}
    {openCommitmentIds existingWorkItemIds : List String} {listed : Bool} {actorId key : String}
    (h : a.submitAssessment assessment openCommitmentIds existingWorkItemIds listed actorId key
      clock = .ok r) :
    a.Replayable (.reorientationAssessmentAccepted assessment .awaitingOwnerConfirmation) r := by
  simp only [submitAssessment, Checked.check_bind_eq_ok_iff, Checked.orRaise_bind_eq_ok_iff,
    Checked.pure_eq_ok_iff] at h
  obtain ⟨hstate, hattempt, receipt, hreceipt, himport, hconversation, -, -, -, -, -, -,
    hhistory, hcurrent, -, -, -, rfl⟩ := h
  exact replayable_recording
    (fun _ _ _ _ => ⟨⟨hstate, hattempt, ⟨receipt, hreceipt, himport⟩, hconversation, hhistory,
      hcurrent⟩, rfl⟩)
    fun _ _ _ => rfl

theorem replayable_requestAssessmentRevision {reasonCode : ReorientationRevisionReason}
    {requestedBy : RevisionRequester} {actorId key : String}
    (h : a.requestAssessmentRevision reasonCode requestedBy actorId key clock = .ok r) :
    ∃ prior, a.assessment = some prior ∧
      a.Replayable (.reorientationAssessmentRevisionRequested prior.assessmentId reasonCode
        .reorientationOnly) r := by
  simp only [requestAssessmentRevision, Checked.check_bind_eq_ok_iff,
    Checked.orRaise_bind_eq_ok_iff, Checked.pure_eq_ok_iff] at h
  obtain ⟨hstate, prior, hprior, rfl⟩ := h
  refine ⟨prior, hprior, replayable_recording
    (fun _ _ _ _ => ⟨⟨hstate, rfl, prior, hprior, rfl⟩, ?_⟩) fun _ _ _ => rfl⟩
  rw [onActivation, hprior, Checked.orRaise_some_bind, Checked.check_bind_of rfl,
    Checked.check_bind_of rfl]
  rfl

theorem replayable_approve {assessmentId actorId key : String}
    (h : a.approve assessmentId actorId key clock = .ok r) :
    a.Replayable (.activationApproved assessmentId (clock 0) .active) r := by
  simp only [approve, Checked.check_bind_eq_ok_iff, Checked.orRaise_bind_eq_ok_iff,
    Checked.pure_eq_ok_iff] at h
  obtain ⟨hstate, assessment, hassessment, hid, rfl⟩ := h
  refine replayable_recording (fun _ _ htype _ => ⟨⟨hstate, ?_, assessment, hassessment, hid⟩,
    rfl⟩) fun _ _ _ => rfl
  exact (Option.some.inj htype).symm

theorem replayable_recordReorientationUsage {inputTokens outputTokens : Int}
    {actorId key : String}
    (h : a.recordReorientationUsage inputTokens outputTokens actorId key clock = .ok r) :
    a.Replayable (.reorientationPilotUsageRecorded inputTokens outputTokens) r := by
  simp only [recordReorientationUsage, Checked.check_bind_eq_ok_iff,
    Checked.pure_eq_ok_iff] at h
  obtain ⟨-, hattempt, rfl⟩ := h
  exact replayable_recording (fun _ _ _ _ => ⟨hattempt, rfl⟩) fun _ _ _ => rfl

theorem replayable_historyQueryRecording [Sha256] (hstate : a.state = .reorientationOnly)
    {action : ReadHistoryAction} {page : HistoryPage} {actorId key : String} :
    a.Replayable
      (.historyQueryResolved action.actionId action.operation action.argument action.pageCursor
        page.nextCursor page.sourceCursor (blobRef (.text page.encoded))
        (hexdigest (.text page.encoded)))
      (a.historyQueryRecording action page actorId key clock) :=
  replayable_recording (fun _ _ _ _ => ⟨hstate, rfl⟩) fun _ _ _ => rfl

theorem replayable_sessionIndexRecording [Sha256] {pageCursor : Option String}
    {page : HistoryPage} {actorId key : String} :
    a.Replayable
      (.historySessionIndexPageVerified pageCursor page.nextCursor
        (blobRef (.text page.encoded)) (hexdigest (.text page.encoded)))
      (a.sessionIndexRecording pageCursor page actorId key clock) :=
  replayable_recording (fun _ _ _ _ => ⟨trivial, rfl⟩) fun _ _ _ => rfl

/-! ### What an activation event changes -/

variable {event : EventEnvelope} {payload : ActivationPayload} {cursor : Nat}

theorem applyActivation_eq_ok (h : applyActivation event payload cursor a = .ok next) :
    ∃ mid, onActivation event cursor a payload = .ok mid ∧
      next = { mid with version := event.streamVersion } := by
  obtain ⟨mid, hmid, hnext⟩ := Checked.bind_eq_ok_iff.mp h
  exact ⟨mid, hmid, (Checked.pure_eq_ok_iff.mp hnext).symm⟩

/-- An activation event leaves the data space of the aggregate alone. -/
theorem dataSpaceId_of_applyActivation (h : applyActivation event payload cursor a = .ok next) :
    next.dataSpaceId = a.dataSpaceId := by
  obtain ⟨mid, hmid, rfl⟩ := applyActivation_eq_ok h
  have hframe : Checked.Yields (onActivation event cursor a payload) fun mid =>
      mid.dataSpaceId = a.dataSpaceId := by
    cases payload <;> simp [onActivation, closeAttempt]
  have hmid := hframe.of_ok hmid
  exact hmid

/-- What every activation event leaves alone, and the version it writes down. -/
theorem frame_of_applyActivation (h : applyActivation event payload cursor a = .ok next) :
    next.streamId = a.streamId ∧ next.version = event.streamVersion := by
  refine ⟨by rw [streamId, streamId, dataSpaceId_of_applyActivation h], ?_⟩
  obtain ⟨mid, -, rfl⟩ := applyActivation_eq_ok h
  rfl

/-- A permitted event leaves the uncommissioned state behind, or changes nothing. -/
private theorem yields_left_uncommissioned (hpermits : a.Permits event payload) :
    Checked.Yields (onActivation event cursor a payload) fun mid =>
      mid.state ≠ .uncommissioned ∨ mid = a := by
  cases payload <;> simp_all [onActivation, closeAttempt, Permits]

/-- **A permitted event keeps the aggregate settled**: it leaves the uncommissioned state, or
it is recorded in another state. -/
theorem settled_of_applyActivation (ha : a.Settled) (hpermits : a.Permits event payload)
    (h : applyActivation event payload cursor a = .ok next) : next.Settled := by
  obtain ⟨mid, hmid, rfl⟩ := applyActivation_eq_ok h
  rcases (yields_left_uncommissioned hpermits).of_ok hmid with hstate | rfl
  · exact ⟨fun h => absurd h hstate, fun h => absurd h hstate, fun h => absurd h hstate⟩
  · exact ⟨ha.attempt, ha.started, ha.pending⟩

end ActivationService

/-! ### Owner bootstrap -/

namespace OwnerBootstrapService

variable {auth next : OwnerBootstrapService} {r : Recording OwnerBootstrapService}
  {clock : Clock}

/-- Bootstrap codes are filed under their own identifiers. -/
def Keyed (auth : OwnerBootstrapService) : Prop :=
  ∀ id record, auth.codes.get? id = some record → record.bootstrapId = id

theorem keyed_new (dataSpaceId ownerId : String) :
    (OwnerBootstrapService.new dataSpaceId ownerId).Keyed :=
  fun _ _ h => nomatch h

/-- **Replayable.** The assignments after the event return, and the handler of the event
reaches the same state. -/
def Replayable (auth : OwnerBootstrapService) (payload : OwnerAuthPayload)
    (r : Recording OwnerBootstrapService) : Prop :=
  r.payload = .ownerAuth payload ∧ r.streamId = auth.streamId ∧
    ∀ (event : EventEnvelope) (result : AppendResult),
      result.streamVersion = event.streamVersion → ∃ next,
        r.update event result (EventWriter.advance auth r.streamId result) = .ok () next ∧
          applyOwnerAuth event payload auth = .ok next

theorem replayable_issue [Sha256] {state : ActivationState} {ownerNodeExists : Bool}
    {code : String} {bootstrapId : Identifier} {lifetimeSeconds : Int} {key : String}
    (h : auth.issue state ownerNodeExists code bootstrapId lifetimeSeconds key clock = .ok r) :
    ∃ record, auth.Replayable (.ownerBootstrapIssued record) r := by
  obtain ⟨_, -, h⟩ := Checked.bind_eq_ok_iff.mp h
  rw [Checked.check_bind_eq_ok_iff] at h
  obtain ⟨-, h⟩ := h
  obtain rfl := Checked.pure_eq_ok_iff.mp h
  refine ⟨_, rfl, rfl, fun event result hversion => ⟨_, rfl, ?_⟩⟩
  rw [applyOwnerAuth, ← hversion]
  rfl

theorem replayable_exchange [Sha256] (hauth : auth.Keyed) {state : ActivationState}
    {ownerNodeExists : Bool} {code token : String} {sessionId : Identifier} {deviceId : String}
    {lifetimeSeconds : Int} {key : String}
    (h : auth.exchange state ownerNodeExists code token sessionId deviceId lifetimeSeconds key
      clock = .ok r) :
    ∃ bootstrapId usedAt session,
      auth.Replayable (.ownerBootstrapExchanged bootstrapId usedAt session) r := by
  obtain ⟨_, -, h⟩ := Checked.bind_eq_ok_iff.mp h
  simp only [Checked.check_bind_eq_ok_iff, Checked.orRaise_bind_eq_ok_iff] at h
  obtain ⟨-, -, record, hrecord, -, -, -, h⟩ := h
  split at h
  · exact nomatch h
  · obtain rfl := Checked.pure_eq_ok_iff.mp h
    obtain ⟨id, hid⟩ := (OrderedDict.mem_values_iff _ _).mp (List.mem_of_find?_eq_some hrecord)
    have hget : auth.codes.get? record.bootstrapId = some record := by
      rw [hauth id record hid]
      exact hid
    refine ⟨_, _, _, rfl, rfl, fun event result hversion => ⟨_, rfl, ?_⟩⟩
    rw [applyOwnerAuth, hget, Checked.orRaise_some_bind, ← hversion]
    rfl

theorem frame_of_applyOwnerAuth {event : EventEnvelope} {payload : OwnerAuthPayload}
    (h : applyOwnerAuth event payload auth = .ok next) :
    next.streamId = auth.streamId ∧ next.version = event.streamVersion := by
  have hframe : Checked.Yields (applyOwnerAuth event payload auth) fun next =>
      next.dataSpaceId = auth.dataSpaceId ∧ next.version = event.streamVersion := by
    cases payload <;> simp [applyOwnerAuth]
  obtain ⟨hspace, hversion⟩ := hframe.of_ok h
  exact ⟨by rw [streamId, streamId, hspace], hversion⟩

theorem keyed_of_applyOwnerAuth (hauth : auth.Keyed) {event : EventEnvelope}
    {payload : OwnerAuthPayload} (h : applyOwnerAuth event payload auth = .ok next) :
    next.Keyed := by
  intro id record hrecord
  cases payload with
  | ownerBootstrapIssued issued =>
    obtain rfl := Except.ok.inj h
    rw [OrderedDict.get?_set] at hrecord
    split at hrecord
    · next hid => rw [← Option.some.inj hrecord, hid]
    · exact hauth id record hrecord
  | ownerBootstrapExchanged bootstrapId usedAt session =>
    rw [applyOwnerAuth, Checked.orRaise_bind_eq_ok_iff] at h
    obtain ⟨known, hknown, h⟩ := h
    obtain rfl := Checked.pure_eq_ok_iff.mp h
    rw [OrderedDict.get?_set] at hrecord
    split at hrecord
    · next hid =>
      obtain rfl := Option.some.inj hrecord
      exact (hauth bootstrapId known hknown).trans hid
    · exact hauth id record hrecord

end OwnerBootstrapService

end Nanihold
