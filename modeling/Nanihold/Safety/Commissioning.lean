import Nanihold.Replay.Restart

/-!
# Commissioning over runs

The reorientation of a data space never comes to a state in which no command can be accepted: as
long as it is in reorientation it has an attempt in progress, an error or a pending revision, and
always exactly one of them. The activation stream belongs to the Activation service alone once
history was imported, so nothing but its own checks refuses a start with a fresh key.

## Main definitions

* `ActivationService.Unstuck` — reorientation has exactly one reason to wait.
* `ActivationService.Startable` — a new attempt may start.
* `AttemptRecorded` — an attempt in progress carries the version of the event that started it.
* `ReorientationLaw` — what holds of the attempts in every reachable state.

## Main results

* `ActivationService.unstuck_of_applyActivation` — every permitted event keeps the reason unique.
* `reorientationLaw_run` — the law in every run, with restarts anywhere in it.
-/

namespace Nanihold

/-- Exactly one of three propositions. -/
def ExactlyOne (p q r : Prop) : Prop :=
  (p ∧ ¬ q ∧ ¬ r) ∨ (¬ p ∧ q ∧ ¬ r) ∨ (¬ p ∧ ¬ q ∧ r)

namespace ActivationService

/-- Reorientation waits for exactly one of the end of an attempt, a retry after an error and a
retry after a revision, and there is no attempt outside it. -/
structure Unstuck (a : ActivationService) : Prop where
  one_reason : a.state = .reorientationOnly →
    ExactlyOne (a.reorientationAttemptInProgress = true) (a.reorientationError ≠ none)
      (a.pendingReorientationRevisionReason ≠ none)
  attempt_state : a.reorientationAttemptInProgress = true → a.state = .reorientationOnly

/-- A new attempt may start: the first after the import, or one after the last attempt ended. -/
def Startable (a : ActivationService) : Prop :=
  a.state = .historyImported ∨
    (a.state = .reorientationOnly ∧ a.reorientationAttemptInProgress = false)

variable {a next : ActivationService} {event : EventEnvelope} {payload : ActivationPayload}
  {cursor : Nat}

theorem unstuck_new (dataSpaceId : String) : (ActivationService.new dataSpaceId).Unstuck where
  one_reason h := nomatch h
  attempt_state h := nomatch h

/-- In reorientation with an attempt in progress there is neither an error nor a revision. -/
theorem Unstuck.of_attempt (ha : a.Unstuck) (h : a.reorientationAttemptInProgress = true) :
    a.state = .reorientationOnly ∧ a.reorientationError = none ∧
      a.pendingReorientationRevisionReason = none := by
  have hstate := ha.attempt_state h
  rcases ha.one_reason hstate with ⟨-, herror, hpending⟩ | ⟨hno, -⟩ | ⟨hno, -⟩
  · exact ⟨hstate, not_not.mp herror, not_not.mp hpending⟩
  · exact absurd h hno
  · exact absurd h hno

/-- An aggregate outside reorientation without an attempt. -/
private theorem unstuck_of_outside (hstate : a.state ≠ .reorientationOnly)
    (hattempt : a.reorientationAttemptInProgress = false) : a.Unstuck where
  one_reason h := absurd h hstate
  attempt_state h := nomatch hattempt.symm.trans h

/-- Outside reorientation no attempt is in progress. -/
theorem Unstuck.attempt_of_outside (ha : a.Unstuck) (hstate : a.state ≠ .reorientationOnly) :
    a.reorientationAttemptInProgress = false := by
  cases hattempt : a.reorientationAttemptInProgress with
  | false => rfl
  | true => exact absurd (ha.attempt_state hattempt) hstate

private theorem yields_unstuck (ha : a.Unstuck) (hpermits : a.Permits event payload) :
    Checked.Yields (onActivation event cursor a payload) Unstuck := by
  have hkept {b : ActivationService} (hstate : b.state = a.state)
      (herror : b.reorientationError = a.reorientationError)
      (hpending : b.pendingReorientationRevisionReason = a.pendingReorientationRevisionReason)
      (hattempt : b.reorientationAttemptInProgress = a.reorientationAttemptInProgress) :
      b.Unstuck := by
    constructor
    · rw [hstate, herror, hpending, hattempt]
      exact ha.one_reason
    · rw [hstate, hattempt]
      exact ha.attempt_state
  have hstarted {b : ActivationService} (hstate : b.state = .reorientationOnly)
      (herror : b.reorientationError = none)
      (hpending : b.pendingReorientationRevisionReason = none)
      (hattempt : b.reorientationAttemptInProgress = true) : b.Unstuck :=
    ⟨fun _ => Or.inl ⟨hattempt, not_not.mpr herror, not_not.mpr hpending⟩, fun _ => hstate⟩
  cases payload <;> rw [onActivation]
  case historyImportVerified =>
    simp only [Checked.yields_check_bind, Checked.yields_pure]
    exact fun _ => unstuck_of_outside (by simp) rfl
  case reorientationStarted => exact Checked.yields_ok.mpr (hstarted rfl rfl rfl rfl)
  case reorientationRetryStarted => exact Checked.yields_ok.mpr (hstarted rfl rfl rfl rfl)
  case reorientationRevisionRetryStarted => exact Checked.yields_ok.mpr (hstarted rfl rfl rfl rfl)
  case reorientationFailed errorCode =>
    refine Checked.yields_ok.mpr ⟨fun _ => Or.inr (Or.inl ?_), fun h => by cases h⟩
    simp [closeAttempt]
  case reorientationAttemptInterrupted reasonCode =>
    refine Checked.yields_ok.mpr ⟨fun _ => Or.inr (Or.inl ?_), fun h => by cases h⟩
    simp [closeAttempt]
  case reorientationSessionCheckpointed =>
    simp only [Checked.yields_check_bind, Checked.yields_pure]
    exact fun _ => hkept rfl rfl rfl rfl
  case historyQueryResolved => exact Checked.yields_ok.mpr (hkept rfl rfl rfl rfl)
  case historySessionIndexPageVerified => exact Checked.yields_ok.mpr ha
  case reorientationPilotUsageRecorded => exact Checked.yields_ok.mpr (hkept rfl rfl rfl rfl)
  case reorientationAssessmentAccepted =>
    exact Checked.yields_ok.mpr (unstuck_of_outside (by simp) rfl)
  case reorientationAssessmentRevisionRequested =>
    simp only [Checked.yields_orRaise_bind, Checked.yields_check_bind, Checked.yields_pure]
    refine fun prior _ _ _ => ⟨fun _ => Or.inr (Or.inr ?_), fun h => by cases h⟩
    simp
  case activationApproved =>
    obtain ⟨hstate, -⟩ := hpermits
    have hattempt := ha.attempt_of_outside (by simp [hstate])
    exact Checked.yields_ok.mpr (unstuck_of_outside (by simp) hattempt)

/-- **Every permitted event** keeps the reason for waiting unique. -/
theorem unstuck_of_applyActivation (ha : a.Unstuck) (hpermits : a.Permits event payload)
    (h : applyActivation event payload cursor a = .ok next) : next.Unstuck := by
  obtain ⟨mid, hmid, rfl⟩ := applyActivation_eq_ok h
  have hmid := (yields_unstuck ha hpermits).of_ok hmid
  exact ⟨hmid.one_reason, hmid.attempt_state⟩

/-- The checks of `start_reorientation` are passed exactly by the startable aggregates. -/
theorem startReorientation_ok_iff (ha : a.Unstuck) (actorId key : String) (clock : Clock) :
    (∃ r, a.startReorientation actorId key clock = .ok r) ↔ a.Startable := by
  constructor
  · rintro ⟨r, hr⟩
    obtain ⟨hattempt, hr⟩ := Checked.check_bind_eq_ok_iff.mp hr
    obtain ⟨payload, hpayload, -⟩ := Checked.bind_eq_ok_iff.mp hr
    unfold startPayload at hpayload
    split at hpayload
    · next hstate => exact Or.inl hstate
    · next hstate _ => exact Or.inr ⟨hstate, hattempt⟩
    · next hstate _ _ => exact Or.inr ⟨hstate, hattempt⟩
    · cases hpayload
  · rintro (hstate | ⟨hstate, hattempt⟩)
    · have hattempt := ha.attempt_of_outside (by simp [hstate])
      rw [startReorientation, Checked.check_bind_of hattempt, startPayload, hstate]
      exact ⟨_, rfl⟩
    · rw [startReorientation, Checked.check_bind_of hattempt, startPayload, hstate]
      rcases ha.one_reason hstate with ⟨hno, -⟩ | ⟨-, herror, -⟩ | ⟨-, herror, hpending⟩
      · cases hattempt.symm.trans hno
      · obtain ⟨errorCode, herror⟩ := Option.ne_none_iff_exists'.mp herror
        rw [herror]
        exact ⟨_, rfl⟩
      · obtain ⟨reason, hpending⟩ := Option.ne_none_iff_exists'.mp hpending
        rw [not_not.mp herror, hpending]
        exact ⟨_, rfl⟩

end ActivationService

/-! ### The activation stream -/

section Stream

variable {s s' : MemorySystem} {event : EventEnvelope}

/-- The event starts an attempt. -/
def EventPayload.StartsAttempt : EventPayload → Prop
  | .activation (.reorientationStarted _) | .activation (.reorientationRetryStarted _ _)
  | .activation (.reorientationRevisionRetryStarted _ _) => True
  | _ => False

/-- An attempt in progress carries the stream version of the event that started it. -/
def AttemptRecorded (s : MemorySystem) : Prop :=
  s.kernel.activation.reorientationAttemptInProgress = true →
    ∃ stored ∈ s.ledger.events, stored.event.streamId = s.kernel.activation.streamId ∧
      s.kernel.activation.reorientationAttemptStartedStreamVersion =
        some stored.event.streamVersion ∧ stored.event.payload.StartsAttempt

/-- The activation stream belongs to the Activation service once it wrote to it: no other
service knows the stream. -/
structure OwnsStream (s : MemorySystem) : Prop where
  data_space : s.kernel.activation.dataSpaceId = s.kernel.dataSpace.dataSpaceId
  imported : s.kernel.activation.state ≠ .uncommissioned → s.kernel.activation.version ≠ 0
  kernel : s.kernel.activation.version ≠ 0 →
    s.kernel.versions.getD s.kernel.activation.streamId 0 = 0
  interface : s.kernel.activation.version ≠ 0 →
    s.interface.versions.getD s.kernel.activation.streamId 0 = 0
  tokenLab : s.kernel.activation.version ≠ 0 →
    s.tokenLab.versions.getD s.kernel.activation.streamId 0 = 0

/-- The owner authentication stream is another one. -/
theorem ownerStream_ne (a : ActivationService) (auth : OwnerBootstrapService) :
    auth.streamId ≠ a.streamId := by
  intro h
  have hlist := congrArg String.toList h
  rw [OwnerBootstrapService.streamId, ActivationService.streamId, String.toList_append,
    String.toList_append] at hlist
  exact absurd (List.cons.inj hlist).1 (by decide)

/-- The projection knows the activation stream at the version of the service that owns it. -/
theorem OwnsStream.streamLength (hs : s.Synced) (h : OwnsStream s)
    (hversion : s.kernel.activation.version ≠ 0) :
    s.ledger.streamLength s.kernel.activation.streamId = s.kernel.activation.version := by
  have howner := ownerStream_ne s.kernel.activation s.kernel.ownerBootstrap
  rw [← hs.versions, OperationalProjection.knownVersion]
  simp only [System.view, h.kernel hversion, h.interface hversion, h.tokenLab hversion,
    OperationalProjection.singleStreamVersion_self]
  rw [OperationalProjection.singleStreamVersion_of_ne _ howner.symm]
  omega

/-- A stream on which the writer of an event knows no event is empty. -/
private theorem known_eq_zero (hs : s.Synced) (h : s.Mirrored event s')
    (hzero : s.writerVersion event.streamId event.payload = 0) :
    s.view.knownVersion event.streamId = 0 := by
  obtain ⟨happ, -⟩ := h.stepped.appended
  have hnext := h.stepped.next_version
  have hlength := happ.next_version
  rw [hs.versions]
  omega

private theorem le_known (s : MemorySystem) (streamId : String) :
    s.kernel.versions.getD streamId 0 ≤ s.view.knownVersion streamId ∧
      s.interface.versions.getD streamId 0 ≤ s.view.knownVersion streamId ∧
      s.tokenLab.versions.getD streamId 0 ≤ s.view.knownVersion streamId ∧
      (streamId = s.kernel.activation.streamId →
        s.kernel.activation.version ≤ s.view.knownVersion streamId) := by
  simp only [OperationalProjection.knownVersion, System.view]
  refine ⟨by omega, by omega, by omega, ?_⟩
  rintro rfl
  rw [OperationalProjection.singleStreamVersion_self]
  omega

/-- Another service writes to another stream. -/
private theorem stream_ne (hs : s.Synced) (h : s.Mirrored event s')
    (hversion : s.kernel.activation.version ≠ 0)
    (hzero : event.streamId = s.kernel.activation.streamId →
      s.writerVersion event.streamId event.payload = 0) :
    event.streamId ≠ s.kernel.activation.streamId := by
  intro hstream
  obtain ⟨-, -, -, hle⟩ := le_known s event.streamId
  have hknown := known_eq_zero hs h (hzero hstream)
  have := hle hstream
  omega

/-- A Kernel event leaves the activation aggregate alone but for the work graph it names. -/
private theorem activation_frame {k next : Kernel} {payload : KernelPayload}
    (h : k.Changes event payload next) :
    next.activation.dataSpaceId = k.activation.dataSpaceId ∧
      next.activation.state = k.activation.state ∧
      next.activation.reorientationAttemptInProgress =
        k.activation.reorientationAttemptInProgress ∧
      next.activation.reorientationAttemptStartedStreamVersion =
        k.activation.reorientationAttemptStartedStreamVersion ∧
      (k.activation.Unstuck → next.activation.Unstuck) := by
  rw [h.activation]
  cases payload <;> exact ⟨rfl, rfl, rfl, rfl, fun h => ⟨h.one_reason, h.attempt_state⟩⟩

private theorem ownsStream_of_activation (hs : s.Synced) (howns : OwnsStream s)
    (h : s.Mirrored event s') {payload : ActivationPayload}
    (hpayload : event.payload = .activation payload)
    (hstream : event.streamId = s.kernel.activation.streamId) : OwnsStream s' := by
  obtain ⟨-, happlied, hkernel⟩ := h.stepped.activation hpayload
  obtain ⟨hsame, hversion⟩ := ActivationService.frame_of_applyActivation happlied
  have hspace := ActivationService.dataSpaceId_of_applyActivation happlied
  have hnext := h.stepped.next_version
  rw [hpayload, System.writerVersion] at hnext
  have hversions : s'.kernel.versions = s.kernel.versions := by rw [hkernel]
  obtain ⟨hinterface, htokenLab⟩ :
      s'.interface = s.interface ∧ s'.tokenLab = s.tokenLab := by
    cases h.others with
    | kernel _ hinterface htokenLab => exact ⟨hinterface, htokenLab⟩
    | interface _ hknown => cases hknown.symm.trans hpayload
    | tokenLab _ hknown => cases hknown.symm.trans hpayload
  -- The first event of the stream finds it empty, so that no other service wrote to it before.
  have hothers : s.kernel.versions.getD s.kernel.activation.streamId 0 = 0 ∧
      s.interface.versions.getD s.kernel.activation.streamId 0 = 0 ∧
      s.tokenLab.versions.getD s.kernel.activation.streamId 0 = 0 := by
    by_cases hold : s.kernel.activation.version = 0
    · have hzero := known_eq_zero hs h (by rw [hpayload]; exact hold)
      obtain ⟨hk, hi, ht, -⟩ := le_known s event.streamId
      rw [← hstream]
      omega
    · exact ⟨howns.kernel hold, howns.interface hold, howns.tokenLab hold⟩
  obtain ⟨hk, hi, ht⟩ := hothers
  constructor
  · rw [hspace, howns.data_space, h.stepped.data_space hs.toKernelSynced]
  · intro _
    omega
  · intro _
    rw [hversions, hsame, hk]
  · intro _
    rw [hinterface, hsame, hi]
  · intro _
    rw [htokenLab, hsame, ht]

private theorem ownsStream_of_kernel (hs : s.Synced) (howns : OwnsStream s)
    (h : s.Mirrored event s') {payload : KernelPayload}
    (hpayload : event.payload = .kernel payload) : OwnsStream s' := by
  obtain ⟨-, happlied⟩ := h.stepped.kernel hpayload
  have hchanges := Kernel.changes_of_applyKernel hs.toKernelSynced.consistent happlied
  obtain ⟨hspace, hstate, -⟩ := activation_frame hchanges
  obtain ⟨hsame, hversion⟩ := System.activation_of_changes hchanges
  obtain ⟨hinterface, htokenLab⟩ :
      s'.interface = s.interface ∧ s'.tokenLab = s.tokenLab := by
    cases h.others with
    | kernel _ hinterface htokenLab => exact ⟨hinterface, htokenLab⟩
    | interface _ hknown => exact nomatch hknown.symm.trans hpayload
    | tokenLab _ hknown => exact nomatch hknown.symm.trans hpayload
  constructor
  · rw [hspace, howns.data_space, h.stepped.data_space hs.toKernelSynced]
  · rw [hstate, hversion]
    exact howns.imported
  · rw [hversion, hsame, hchanges.versions]
    intro hwrote
    rw [OrderedDict.getD_set, if_neg, howns.kernel hwrote]
    refine stream_ne hs h hwrote fun hstream => ?_
    rw [hpayload, System.writerVersion, hstream]
    exact howns.kernel hwrote
  · rw [hversion, hsame, hinterface]
    exact howns.interface
  · rw [hversion, hsame, htokenLab]
    exact howns.tokenLab

/-- **Every recorded event** leaves the activation stream to its owner. -/
theorem ownsStream_of_mirrored (hs : s.Synced) (howns : OwnsStream s) (h : s.Mirrored event s') :
    OwnsStream s' := by
  have hzero {family : EventPayload} (hpayload : event.payload = family)
      (hwriter : s.writerVersion s.kernel.activation.streamId family = 0) :
      event.streamId = s.kernel.activation.streamId →
        s.writerVersion event.streamId event.payload = 0 := by
    intro hstream
    rw [hpayload, hstream]
    exact hwriter
  cases h.stepped.wrote with
  | kernel payload hpayload => exact ownsStream_of_kernel hs howns h hpayload
  | activation payload hpayload hstream =>
    exact ownsStream_of_activation hs howns h hpayload hstream
  | ownerAuth payload hpayload _ _ hkernel =>
    cases h.others with
    | kernel _ hinterface htokenLab =>
      constructor <;> rw [hkernel]
      · exact howns.data_space
      · exact howns.imported
      · exact howns.kernel
      · rw [hinterface]
        exact howns.interface
      · rw [htokenLab]
        exact howns.tokenLab
    | interface _ hknown => exact nomatch hknown.symm.trans hpayload
    | tokenLab _ hknown => exact nomatch hknown.symm.trans hpayload
  | other hother hkernel =>
    cases h.others with
    | kernel hown => exact nomatch hown.symm.trans hother
    | interface payload hpayload happlied htokenLab =>
      constructor <;> rw [hkernel]
      · exact howns.data_space
      · exact howns.imported
      · exact howns.kernel
      · intro hwrote
        rw [versions_of_applyInterface happlied, OrderedDict.getD_set, if_neg,
          howns.interface hwrote]
        exact stream_ne hs h hwrote (hzero hpayload (howns.interface hwrote))
      · rw [htokenLab]
        exact howns.tokenLab
    | tokenLab payload hpayload happlied hinterface =>
      constructor <;> rw [hkernel]
      · exact howns.data_space
      · exact howns.imported
      · exact howns.kernel
      · rw [hinterface]
        exact howns.interface
      · intro hwrote
        rw [versions_of_applyTokenLab happlied, OrderedDict.getD_set, if_neg,
          howns.tokenLab hwrote]
        exact stream_ne hs h hwrote (hzero hpayload (howns.tokenLab hwrote))

private theorem yields_attempt {a : ActivationService} {payload : ActivationPayload}
    {cursor : Nat} :
    Checked.Yields (onActivation event cursor a payload) fun mid =>
      ((EventPayload.activation payload).StartsAttempt ∧
        mid.reorientationAttemptStartedStreamVersion = some event.streamVersion) ∨
      mid.reorientationAttemptInProgress = false ∨
      (mid.reorientationAttemptInProgress = a.reorientationAttemptInProgress ∧
        mid.reorientationAttemptStartedStreamVersion =
          a.reorientationAttemptStartedStreamVersion) := by
  cases payload <;>
    simp [onActivation, ActivationService.closeAttempt, EventPayload.StartsAttempt]

/-- **Every recorded event** keeps the start of the attempt in progress recorded. -/
theorem attemptRecorded_of_stepped (hs : s.KernelSynced) (hattempt : AttemptRecorded s)
    (h : s.Stepped event s') : AttemptRecorded s' := by
  have hkept (hstream : s'.kernel.activation.streamId = s.kernel.activation.streamId)
      (hsame : s'.kernel.activation.reorientationAttemptInProgress =
        s.kernel.activation.reorientationAttemptInProgress)
      (hstarted : s'.kernel.activation.reorientationAttemptStartedStreamVersion =
        s.kernel.activation.reorientationAttemptStartedStreamVersion) : AttemptRecorded s' := by
    rw [AttemptRecorded, hstream, hsame, hstarted, h.events]
    intro hprogress
    obtain ⟨stored, hmem, hstored⟩ := hattempt hprogress
    exact ⟨stored, List.mem_append_left _ hmem, hstored⟩
  cases h.wrote with
  | kernel payload _ _ happlied =>
    have hchanges := Kernel.changes_of_applyKernel hs.consistent happlied
    obtain ⟨-, -, hsame, hstarted, -⟩ := activation_frame hchanges
    exact hkept (System.activation_of_changes hchanges).1 hsame hstarted
  | activation payload hpayload hstream _ happlied =>
    obtain ⟨hown, -⟩ := ActivationService.frame_of_applyActivation happlied
    obtain ⟨mid, hmid, hnext⟩ := ActivationService.applyActivation_eq_ok happlied
    rcases yields_attempt.of_ok hmid with ⟨hstarts, hversion⟩ | hended | ⟨hsame, hstarted⟩
    · intro _
      refine ⟨s.ledger.store event, ?_, ?_, ?_, ?_⟩
      · rw [h.events]
        exact List.mem_append_right _ (List.mem_singleton_self _)
      · rw [hown]
        exact hstream
      · rw [hnext]
        exact hversion
      · change event.payload.StartsAttempt
        rw [hpayload]
        exact hstarts
    · intro hprogress
      rw [hnext] at hprogress
      exact nomatch hended.symm.trans hprogress
    · exact hkept hown (by rw [hnext]; exact hsame) (by rw [hnext]; exact hstarted)
  | ownerAuth _ _ _ _ hkernel => exact hkept (by rw [hkernel]) (by rw [hkernel]) (by rw [hkernel])
  | other _ hkernel => exact hkept (by rw [hkernel]) (by rw [hkernel]) (by rw [hkernel])

/-- **Every recorded event** keeps the reason for waiting unique. -/
theorem unstuck_of_stepped (hs : s.KernelSynced) (hunstuck : s.kernel.activation.Unstuck)
    (h : s.Stepped event s') : s'.kernel.activation.Unstuck := by
  cases h.wrote with
  | kernel payload _ _ happlied =>
    obtain ⟨-, -, -, -, hkept⟩ :=
      activation_frame (Kernel.changes_of_applyKernel hs.consistent happlied)
    exact hkept hunstuck
  | activation _ _ _ hpermits happlied =>
    exact ActivationService.unstuck_of_applyActivation hunstuck hpermits happlied
  | ownerAuth _ _ _ _ hkernel => rw [hkernel]; exact hunstuck
  | other _ hkernel => rw [hkernel]; exact hunstuck

end Stream

/-! ### The law of reorientation -/

variable [Sha256]

/-- A request that names its actor and carries a key that was never used. -/
structure FreshRequest (s : MemorySystem) (actorId key : String) : Prop where
  actor : isIdentifier actorId = true
  nonblank : isNonBlank key = true
  fresh_key : s.ledger.idempotency.get? key = none
  fresh_id : s.ledger.eventIds.get? (deterministicEventId s.kernel.activation.dataSpaceId
    s.kernel.activation.streamId key) = none

/-- What holds of the attempts: reorientation has one reason to wait, an attempt in progress is
in reorientation and its start is recorded, and a start with a fresh key returns exactly when a
new attempt may start. -/
structure ReorientationLaw (s : MemorySystem) : Prop where
  unstuck : s.kernel.activation.Unstuck
  recorded : AttemptRecorded s
  started : ∀ actorId key clock, FreshRequest s actorId key →
    ((∃ s', (ActivationCommand.startReorientation actorId key).run clock s = .ok () s') ↔
      s.kernel.activation.Startable)

/-- The invariant behind the law. -/
structure Reorienting (dataSpace : DataSpace) (s : MemorySystem) : Prop where
  synced : SyncedIn dataSpace s
  unstuck : s.kernel.activation.Unstuck
  recorded : AttemptRecorded s
  owns : OwnsStream s

theorem reorienting_kept (dataSpace : DataSpace) : KeptByProcesses (Reorienting dataSpace) where
  synced _ hs := hs.synced.1.toKernelSynced
  all_synced _ hs := hs.synced.1
  mirrored s event s' hs h :=
    { synced := (syncedIn_kept dataSpace).mirrored s event s' hs.synced h
      unstuck := unstuck_of_stepped hs.synced.1.toKernelSynced hs.unstuck h.stepped
      recorded := attemptRecorded_of_stepped hs.synced.1.toKernelSynced hs.recorded h.stepped
      owns := ownsStream_of_mirrored hs.synced.1 hs.owns h }
  stored s data hs :=
    { synced := (syncedIn_kept dataSpace).stored s data hs.synced
      unstuck := hs.unstuck
      recorded := hs.recorded
      owns := { hs.owns with } }
  restarted s hs :=
    { synced := (syncedIn_processes dataSpace).restarted s hs.synced
      unstuck := hs.unstuck
      recorded := hs.recorded
      owns := { hs.owns with } }

omit [Sha256] in
theorem reorienting_new (dataSpace : DataSpace) : Reorienting dataSpace (.new dataSpace) where
  synced := syncedIn_new dataSpace
  unstuck := ActivationService.unstuck_new _
  recorded h := nomatch h
  owns := ⟨rfl, fun h => absurd rfl h, fun h => absurd rfl h, fun h => absurd rfl h,
    fun h => absurd rfl h⟩

omit [Sha256] in
/-- A startable aggregate has imported history. -/
private theorem imported_of_startable {a : ActivationService} (h : a.Startable) :
    a.state ≠ .uncommissioned := by
  rcases h with hstate | ⟨hstate, -⟩ <;> simp [hstate]

/-- **An event with a fresh key** of an aggregate with history is accepted by the ledger. -/
theorem accepted_recording {dataSpace : DataSpace} {s : MemorySystem}
    (hs : Reorienting dataSpace s) (hidentifier : isIdentifier dataSpace.dataSpaceId = true)
    {actorId key : String} (hfresh : FreshRequest s actorId key)
    (himported : s.kernel.activation.state ≠ .uncommissioned) (payload : ActivationPayload)
    {actorText : String} {actorType : ActorType}
    (htype : ActorType.ofString? actorText = some actorType) (occurredAt : DateTime)
    (assign : EventEnvelope → AppendResult → ActivationService → ActivationService) :
    (s.kernel.activation.recording payload actorText (some actorId) key occurredAt
      assign).Accepted s := by
  have hspace : isIdentifier s.kernel.activation.dataSpaceId = true := by
    rw [hs.owns.data_space, hs.synced.2]
    exact hidentifier
  have hstream : isIdentifier s.kernel.activation.streamId = true :=
    isIdentifier_activation hspace
  have hlength := hs.owns.streamLength hs.synced.1 (hs.owns.imported himported)
  refine ⟨_, _, Recording.envelope_of_valid htype hspace hstream hfresh.actor hstream rfl
    hfresh.nonblank, InMemoryOperationalLedger.append_of_appendable _ ?_ hlength⟩
  exact
    { data_space := hs.owns.data_space.trans hs.synced.1.data_space.symm
      fresh_key := hfresh.fresh_key
      fresh_id := hfresh.fresh_id
      next_version := by
        change s.kernel.activation.version + 1 = _
        rw [← hlength]
        rfl }

/-- **A start with a fresh key** of a startable aggregate is accepted by the ledger. -/
theorem accepted_startReorientation {dataSpace : DataSpace} {s : MemorySystem}
    (hs : Reorienting dataSpace s) (hidentifier : isIdentifier dataSpace.dataSpaceId = true)
    {actorId key : String} {clock : Clock} (hfresh : FreshRequest s actorId key)
    (hstartable : s.kernel.activation.Startable)
    {r : Recording ActivationService}
    (hr : s.kernel.activation.startReorientation actorId key clock = .ok r) : r.Accepted s := by
  obtain ⟨-, hr⟩ := Checked.check_bind_eq_ok_iff.mp hr
  obtain ⟨payload, -, hr⟩ := Checked.bind_eq_ok_iff.mp hr
  obtain rfl := Checked.pure_eq_ok_iff.mp hr
  exact accepted_recording hs hidentifier hfresh (imported_of_startable hstartable) payload rfl _ _

/-- An accepted start returns. -/
private theorem startReorientation_returns {s : MemorySystem} {actorId key : String}
    {clock : Clock} {r : Recording ActivationService}
    (hr : s.kernel.activation.startReorientation actorId key clock = .ok r)
    (haccepted : r.Accepted s) :
    ∃ s', (ActivationCommand.startReorientation actorId key).run clock s = .ok () s' := by
  have hupdate : ∀ event result service, ∃ next, r.update event result service = .ok () next := by
    obtain ⟨-, hassign⟩ := Checked.check_bind_eq_ok_iff.mp hr
    obtain ⟨payload, -, hassign⟩ := Checked.bind_eq_ok_iff.mp hassign
    obtain rfl := Checked.pure_eq_ok_iff.mp hassign
    exact fun event result service => ⟨_, rfl⟩
  obtain ⟨answer, s', hperform⟩ := perform_returns
    (fun s : MemorySystem => s.kernel.activation.startReorientation actorId key clock) hr
    haccepted hupdate
  rw [ActivationCommand.run, performActivation]
  exact ⟨s', EStateM.run_bind_of_ok hperform⟩

/-- A start that returns has passed its checks. -/
private theorem startReorientation_ok_of_returns {s s' : MemorySystem} {actorId key : String}
    {clock : Clock}
    (h : (ActivationCommand.startReorientation actorId key).run clock s = .ok () s') :
    ∃ r, s.kernel.activation.startReorientation actorId key clock = .ok r := by
  cases hr : s.kernel.activation.startReorientation actorId key clock with
  | ok r => exact ⟨r, rfl⟩
  | error e =>
    rw [ActivationCommand.run, performActivation,
      EStateM.run_bind_of_error (perform_of_error hr)] at h
    cases h

/-- **The law of reorientation** holds after every run, with restarts and the interruptions that
follow them anywhere in it. -/
theorem reorientationLaw_run (dataSpace : DataSpace)
    (hidentifier : isIdentifier dataSpace.dataSpaceId = true)
    (inputs : List (ProcessCommand × Clock)) :
    ReorientationLaw (runProcesses (.new dataSpace) inputs) := by
  have hs : Reorienting dataSpace (runProcesses (.new dataSpace) inputs) :=
    Run.exec_invariant (ProcessCommand.invariant_step (reorienting_kept dataSpace)) inputs
      (reorienting_new dataSpace)
  refine ⟨hs.unstuck, hs.recorded, fun actorId key clock hfresh => ?_⟩
  rw [← ActivationService.startReorientation_ok_iff hs.unstuck actorId key clock]
  constructor
  · rintro ⟨s', hreturns⟩
    exact startReorientation_ok_of_returns hreturns
  · rintro ⟨r, hr⟩
    have hstartable := (ActivationService.startReorientation_ok_iff hs.unstuck actorId key
      clock).mp ⟨r, hr⟩
    exact startReorientation_returns hr (accepted_startReorientation hs hidentifier hfresh
      hstartable hr)

/-- The company's first attempt is stopped, and a second process starts. -/
def interruptedRun : List (ProcessCommand × Clock) :=
  (commissioning.take 3).map (fun input => (.service input.1, input.2)) ++
    [(.restart 2, fun _ => 0)]

omit [Sha256] in
/-- The second process may start an attempt of its own. -/
theorem reorientationLaw_of_interruptedRun :
    letI := Sha256.polynomial
    ReorientationLaw (runProcesses (.new companySpace) interruptedRun) ∧
      ∃ s', (ActivationCommand.startReorientation "pilot:1" "start:2").run (fun _ => 0)
        (runProcesses (.new companySpace) interruptedRun) = .ok () s' := by
  let := Sha256.polynomial
  have hlaw := reorientationLaw_run companySpace (by decide) interruptedRun
  refine ⟨hlaw, (hlaw.started "pilot:1" "start:2" (fun _ => 0) ⟨by decide, by decide, ?_, ?_⟩).mpr
    (Or.inr ⟨?_, ?_⟩)⟩
  all_goals decide +kernel

end Nanihold
