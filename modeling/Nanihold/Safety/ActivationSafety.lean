import Nanihold.Safety.DeadEnds

/-!
# Activation safety

The Kernel runs nothing before an owner has approved. An execution or an effect lease exists only
after the approval of an assessment that was accepted on the imported conversation, and an approved
data space stays what it was when it was approved.

## Main definitions

* `ActivationService.Founded` — what the state of the aggregate rests on.
* `EventPayload.IsGated` — an event that the Activation service gates.
* `ApprovedAt` — an approval in the ledger, with the aggregate that awaited it.
* `ActivationLaw` — the law of activation.

## Main results

* `ActivationService.founded_of_applyActivation` — every permitted event keeps the foundation.
* `activation_eq_of_active` — an event of an approved data space changes a version at most.
* `activationLaw_run` — the law in every run, with restarts anywhere in it.
-/

namespace Nanihold

/-! ### The aggregate -/

namespace ActivationService

variable {a next : ActivationService} {event : EventEnvelope} {payload : ActivationPayload}
  {cursor : Nat}

/-- An assessment was accepted for an import: it names it and its conversation, and it was made on
the history after it. -/
structure AcceptedFor (a : ActivationService) (receipt : HistoryImportReceipt)
    (assessment : ReorientationAssessment) : Prop where
  import_id : assessment.importId = receipt.inventoryId
  conversation : some assessment.conversationId = a.reorientationConversationId
  after_import : a.importEventCursor ≤ assessment.historyCursor
  state_after_history : assessment.historyCursor ≤ assessment.currentStateCursor

/-- **What the state of the aggregate rests on.** After the import there is a receipt of this data
space, a work graph and a conversation; while an owner is awaited, and after the approval, there is
an assessment that was accepted for the receipt; the time of an approval is known from then on. -/
structure Founded (a : ActivationService) : Prop where
  imported : a.state ≠ .uncommissioned → a.workGraphSnapshotId ≠ none ∧
    (∃ conversationId, a.reorientationConversationId = some conversationId ∧
      conversationId ≠ "") ∧
    ∃ receipt, a.importReceipt = some receipt ∧ receipt.dataSpaceId = a.dataSpaceId
  assessed : a.state = .awaitingOwnerConfirmation ∨ a.state = .active →
    ∃ receipt assessment, a.importReceipt = some receipt ∧ a.assessment = some assessment ∧
      a.AcceptedFor receipt assessment
  approved : a.state = .active ↔ a.approvedAt ≠ none

theorem founded_new (dataSpaceId : String) : (ActivationService.new dataSpaceId).Founded where
  imported h := absurd rfl h
  assessed h := by rcases h with h | h <;> cases h
  approved := by simp [new]

/-- A foundation that a change of other fields leaves alone. -/
private theorem Founded.same (ha : a.Founded) (hstate : next.state = a.state)
    (hspace : next.dataSpaceId = a.dataSpaceId) (hreceipt : next.importReceipt = a.importReceipt)
    (hgraph : next.workGraphSnapshotId = a.workGraphSnapshotId)
    (hconversation : next.reorientationConversationId = a.reorientationConversationId)
    (hassessment : next.assessment = a.assessment) (happroved : next.approvedAt = a.approvedAt)
    (hcursor : next.importEventCursor = a.importEventCursor) : next.Founded := by
  constructor
  · rw [hstate, hgraph, hconversation, hreceipt, hspace]
    exact ha.imported
  · rw [hstate, hreceipt, hassessment]
    intro hassessed
    obtain ⟨receipt, assessment, hr, has, haccepted⟩ := ha.assessed hassessed
    refine ⟨receipt, assessment, hr, has, haccepted.import_id, ?_, ?_,
      haccepted.state_after_history⟩
    · rw [hconversation]
      exact haccepted.conversation
    · rw [hcursor]
      exact haccepted.after_import
  · rw [hstate, happroved]
    exact ha.approved

/-- A foundation after an event of reorientation: no assessment is needed, and there is no
approval. -/
private theorem Founded.reorienting (ha : a.Founded) (hleft : a.state ≠ .uncommissioned)
    (hactive : a.state ≠ .active) (hstate : next.state = .reorientationOnly)
    (hspace : next.dataSpaceId = a.dataSpaceId) (hreceipt : next.importReceipt = a.importReceipt)
    (hgraph : next.workGraphSnapshotId = a.workGraphSnapshotId)
    (hconversation : next.reorientationConversationId = a.reorientationConversationId)
    (happroved : next.approvedAt = a.approvedAt) : next.Founded := by
  constructor
  · rw [hgraph, hconversation, hreceipt, hspace]
    exact fun _ => ha.imported hleft
  · rw [hstate]
    intro h
    rcases h with h | h <;> cases h
  · rw [hstate, happroved]
    refine iff_of_false (by simp) fun h => ?_
    exact hactive (ha.approved.mpr h)

private theorem yields_founded (ha : a.Founded) (hpermits : a.Permits event payload) :
    Checked.Yields (onActivation event cursor a payload) Founded := by
  cases payload <;> rw [onActivation]
  case historyImportVerified receipt conversationId state =>
    obtain ⟨hstate, hgraph, hconversation, hspace⟩ := hpermits
    simp only [Checked.yields_check_bind, Checked.yields_pure]
    refine fun _ => ⟨fun _ => ⟨hgraph, ⟨conversationId, rfl, hconversation⟩, receipt, rfl, hspace⟩,
      fun h => ?_, iff_of_false (by simp) fun h => ?_⟩
    · rcases h with h | h <;> cases h
    · exact absurd (ha.approved.mpr h) (by simp [hstate])
  case reorientationStarted =>
    obtain ⟨hstate, -⟩ := hpermits
    exact Checked.yields_ok.mpr (ha.reorienting (by simp [hstate]) (by simp [hstate]) rfl rfl rfl
      rfl rfl rfl)
  case reorientationRetryStarted =>
    obtain ⟨hstate, -⟩ := hpermits
    exact Checked.yields_ok.mpr (ha.reorienting (by simp [hstate]) (by simp [hstate]) rfl rfl rfl
      rfl rfl rfl)
  case reorientationRevisionRetryStarted =>
    obtain ⟨hstate, -⟩ := hpermits
    exact Checked.yields_ok.mpr (ha.reorienting (by simp [hstate]) (by simp [hstate]) rfl rfl rfl
      rfl rfl rfl)
  case reorientationFailed =>
    obtain ⟨hstate, -⟩ := hpermits
    exact Checked.yields_ok.mpr (ha.reorienting (by simp [hstate]) (by simp [hstate]) hstate rfl
      rfl rfl rfl rfl)
  case reorientationAttemptInterrupted =>
    obtain ⟨hstate, -⟩ := hpermits
    exact Checked.yields_ok.mpr (ha.reorienting (by simp [hstate]) (by simp [hstate]) hstate rfl
      rfl rfl rfl rfl)
  case reorientationSessionCheckpointed =>
    simp only [Checked.yields_check_bind, Checked.yields_pure]
    exact fun _ => ha.same rfl rfl rfl rfl rfl rfl rfl rfl
  case historyQueryResolved =>
    exact Checked.yields_ok.mpr (ha.same rfl rfl rfl rfl rfl rfl rfl rfl)
  case historySessionIndexPageVerified => exact Checked.yields_ok.mpr ha
  case reorientationPilotUsageRecorded =>
    exact Checked.yields_ok.mpr (ha.same rfl rfl rfl rfl rfl rfl rfl rfl)
  case reorientationAssessmentAccepted assessment state =>
    obtain ⟨hstate, -, ⟨receipt, hreceipt, himport⟩, hconversation, hhistory, hcurrent⟩ := hpermits
    refine Checked.yields_ok.mpr ⟨fun _ => ha.imported (by simp [hstate]), fun _ =>
      ⟨receipt, assessment, hreceipt, rfl, himport, hconversation, hhistory, hcurrent⟩,
      iff_of_false (by simp) fun h => ?_⟩
    exact absurd (ha.approved.mpr h) (by simp [hstate])
  case reorientationAssessmentRevisionRequested =>
    obtain ⟨hstate, -⟩ := hpermits
    simp only [Checked.yields_orRaise_bind, Checked.yields_check_bind, Checked.yields_pure]
    exact fun _ _ _ _ => ha.reorienting (by simp [hstate]) (by simp [hstate]) rfl rfl rfl rfl rfl
      rfl
  case activationApproved =>
    obtain ⟨hstate, -⟩ := hpermits
    obtain ⟨receipt, assessment, hreceipt, hassessment, haccepted⟩ := ha.assessed (Or.inl hstate)
    exact Checked.yields_ok.mpr ⟨fun _ => ha.imported (by simp [hstate]), fun _ =>
      ⟨receipt, assessment, hreceipt, hassessment, haccepted.import_id, haccepted.conversation,
        haccepted.after_import, haccepted.state_after_history⟩, iff_of_true rfl (by simp)⟩

/-- **Every permitted event** keeps the foundation. -/
theorem founded_of_applyActivation (ha : a.Founded) (hpermits : a.Permits event payload)
    (h : applyActivation event payload cursor a = .ok next) : next.Founded := by
  obtain ⟨mid, hmid, rfl⟩ := applyActivation_eq_ok h
  exact ((yields_founded ha hpermits).of_ok hmid).same rfl rfl rfl rfl rfl rfl rfl rfl

/-- **After the approval** only the audit of the session index is permitted, and it writes down a
version. -/
theorem eq_of_applyActivation_active (hactive : a.state = .active)
    (hpermits : a.Permits event payload)
    (h : applyActivation event payload cursor a = .ok next) :
    next = { a with version := event.streamVersion } := by
  obtain ⟨mid, hmid, rfl⟩ := applyActivation_eq_ok h
  cases payload <;> simp [Permits, hactive] at hpermits
  rw [onActivation] at hmid
  rw [Except.ok.inj hmid]

end ActivationService

/-! ### The Kernel behind the gate -/

/-- An event that the Activation service gates: it creates an execution, or it plans, approves or
activates an effect. -/
def EventPayload.IsGated : EventPayload → Prop
  | .kernel (.executionCreated _) | .kernel (.effectPlanned _) | .kernel (.effectApproved _)
  | .kernel (.effectActivated _) => True
  | _ => False

namespace Kernel

variable {k next : Kernel} {event : EventEnvelope} {payload : KernelPayload}

/-- The Kernel permits a gated event only in an approved data space. -/
theorem Permits.active (hpermits : k.Permits event payload)
    (hgated : (EventPayload.kernel payload).IsGated) : k.activation.state = .active := by
  cases payload with
  | executionCreated => exact hpermits.2.1
  | effectPlanned => exact hpermits.2.1
  | effectApproved => exact hpermits.2.1
  | effectActivated => exact hpermits.2.1
  | _ => exact hgated.elim

/-- An execution after an event was there before, or the event created it. -/
theorem contains_executionsAfter {executionId : String}
    (h : (k.executionsAfter event payload).contains executionId = true) :
    k.executions.contains executionId = true ∨
      ∃ execution, payload = .executionCreated execution ∧
        execution.executionId = executionId := by
  cases payload <;>
    simp only [executionsAfter, OrderedDict.contains_modify, OrderedDict.contains_mapValues] at h
  case executionCreated execution =>
    rw [OrderedDict.contains_set, Bool.or_eq_true, decide_eq_true_eq] at h
    rcases h with h | h
    · exact Or.inr ⟨execution, rfl, h⟩
    · exact Or.inl h
  all_goals exact Or.inl h

/-- A lease after an event was there before, or the event planned it. -/
theorem contains_effectLeasesAfter {leaseId : String}
    (h : (k.effectLeasesAfter event payload).contains leaseId = true) :
    k.effectLeases.contains leaseId = true ∨
      ∃ lease, payload = .effectPlanned lease ∧ lease.leaseId = leaseId := by
  cases payload <;>
    simp only [effectLeasesAfter, OrderedDict.contains_modify, OrderedDict.contains_mapValues] at h
  case effectPlanned lease =>
    rw [OrderedDict.contains_set, Bool.or_eq_true, decide_eq_true_eq] at h
    rcases h with h | h
    · exact Or.inr ⟨lease, rfl, h⟩
    · exact Or.inl h
  all_goals exact Or.inl h

/-- A permitted Kernel event keeps the foundation. -/
theorem founded_of_changes (ha : k.activation.Founded) (hpermits : k.Permits event payload)
    (h : k.Changes event payload next) : next.activation.Founded := by
  rw [h.activation]
  cases payload <;> try exact ha
  case currentWorkGraphImported snapshot =>
    have hstate := hpermits.2.2.1
    refine ⟨fun hleft => absurd hstate hleft, fun hassessed => ha.assessed hassessed |>.elim ?_,
      ha.approved⟩
    rintro receipt ⟨assessment, -⟩
    rcases hassessed with h | h <;> cases hstate.symm.trans h

/-- A permitted Kernel event leaves an approved aggregate alone. -/
theorem activation_of_active (hactive : k.activation.state = .active)
    (hpermits : k.Permits event payload) (h : k.Changes event payload next) :
    next.activation = k.activation := by
  rw [h.activation]
  cases payload <;> try rfl
  case currentWorkGraphImported => cases hactive.symm.trans hpermits.2.2.1

end Kernel

/-- **An event of an approved data space** changes at most the version of the aggregate. -/
theorem activation_eq_of_active {s s' : MemorySystem} {event : EventEnvelope}
    (hs : s.KernelSynced) (hactive : s.kernel.activation.state = .active)
    (h : s.Stepped event s') :
    ∃ version, s'.kernel.activation = { s.kernel.activation with version := version } := by
  cases h.wrote with
  | kernel payload _ hpermits happlied =>
    exact ⟨s.kernel.activation.version, Kernel.activation_of_active hactive hpermits
      (Kernel.changes_of_applyKernel hs.consistent happlied)⟩
  | activation payload _ _ hpermits happlied =>
    exact ⟨_, ActivationService.eq_of_applyActivation_active hactive hpermits happlied⟩
  | ownerAuth _ _ _ _ hkernel =>
    refine ⟨s.kernel.activation.version, ?_⟩
    rw [hkernel]
  | other _ hkernel =>
    refine ⟨s.kernel.activation.version, ?_⟩
    rw [hkernel]

/-! ### The law -/

/-- **An approval**: it stands after a stretch of the ledger without a gated event, after which the
aggregate awaited its owner with an assessment, and a human approved that assessment. -/
structure ApprovedAt (dataSpace : DataSpace) (earlier : List StoredEvent) (approval : StoredEvent)
    (a : ActivationService) : Prop where
  awaiting : ∃ before, EventSourcing.replay ActivationService.applyStored
      (.new dataSpace.dataSpaceId) earlier = .ok before ∧
    before.state = .awaitingOwnerConfirmation ∧ before.assessment = a.assessment
  human : approval.event.actorType = .human
  approves : ∃ assessment approvedAt state, a.assessment = some assessment ∧
    a.approvedAt = some approvedAt ∧
    approval.event.payload =
      .activation (.activationApproved assessment.assessmentId approvedAt state)
  ungated : ∀ stored ∈ earlier, ¬ stored.event.payload.IsGated

/-- **The law of activation.** The state of the aggregate has its foundation, an approved data space
was approved in the ledger, only such a data space has gated events, and executions and leases come
from gated events. -/
structure ActivationLaw (dataSpace : DataSpace) (s : MemorySystem) : Prop where
  founded : s.kernel.activation.Founded
  approved : s.kernel.activation.state = .active → ∃ earlier approval later,
    s.ledger.events = earlier ++ approval :: later ∧
      ApprovedAt dataSpace earlier approval s.kernel.activation
  gated : ∀ stored ∈ s.ledger.events, stored.event.payload.IsGated →
    s.kernel.activation.state = .active
  executions : ∀ executionId, s.kernel.executions.contains executionId = true →
    ∃ stored ∈ s.ledger.events, ∃ execution,
      stored.event.payload = .kernel (.executionCreated execution) ∧
        execution.executionId = executionId
  leases : ∀ leaseId, s.kernel.effectLeases.contains leaseId = true →
    ∃ stored ∈ s.ledger.events, ∃ lease,
      stored.event.payload = .kernel (.effectPlanned lease) ∧ lease.leaseId = leaseId

section Steps

variable {dataSpace : DataSpace} {s s' : MemorySystem} {event : EventEnvelope}

theorem activationLaw_new (dataSpace : DataSpace) :
    ActivationLaw dataSpace (.new dataSpace) where
  founded := ActivationService.founded_new _
  approved h := by cases h
  gated _ h := by cases h
  executions _ h := by cases h
  leases _ h := by cases h

/-- An approval stays where it is. -/
private theorem approved_grown (h : s.Stepped event s') {a : ActivationService}
    (happroved : ∃ earlier approval later, s.ledger.events = earlier ++ approval :: later ∧
      ApprovedAt dataSpace earlier approval s.kernel.activation)
    (hassessment : a.assessment = s.kernel.activation.assessment)
    (happrovedAt : a.approvedAt = s.kernel.activation.approvedAt) :
    ∃ earlier approval later, s'.ledger.events = earlier ++ approval :: later ∧
      ApprovedAt dataSpace earlier approval a := by
  obtain ⟨earlier, approval, later, hevents, hawaiting, hhuman, happroves, hungated⟩ := happroved
  refine ⟨earlier, approval, later ++ [s.ledger.store event], ?_, ?_⟩
  · rw [h.events, hevents, List.append_assoc, List.cons_append]
  · exact ⟨hassessment ▸ hawaiting, hhuman, by rwa [hassessment, happrovedAt], hungated⟩

/-- An activation event that ends in the approved state is an approval. -/
private theorem approval_of_active {a next : ActivationService} {payload : ActivationPayload}
    {cursor : Nat} (hbefore : a.state ≠ .active)
    (h : applyActivation event payload cursor a = .ok next) (hafter : next.state = .active) :
    ∃ assessmentId approvedAt state, payload = .activationApproved assessmentId approvedAt state ∧
      next.approvedAt = some approvedAt ∧ next.assessment = a.assessment := by
  obtain ⟨mid, hmid, rfl⟩ := ActivationService.applyActivation_eq_ok h
  have hyields : Checked.Yields (onActivation event cursor a payload) fun mid =>
      mid.state = .active → ∃ assessmentId approvedAt state,
        payload = .activationApproved assessmentId approvedAt state ∧
          mid.approvedAt = some approvedAt ∧ mid.assessment = a.assessment := by
    cases payload <;> simp [onActivation, ActivationService.closeAttempt, hbefore]
  have happroval := hyields.of_ok hmid
  exact happroval hafter

/-- The part of the law about the aggregate, after an activation event. -/
private theorem approved_of_activation (hreplay : ActivationReplayed dataSpace s)
    (hlaw : ActivationLaw dataSpace s) (h : s.Stepped event s') {payload : ActivationPayload}
    (hpayload : event.payload = .activation payload)
    (hactive : s'.kernel.activation.state = .active) :
    ∃ earlier approval later, s'.ledger.events = earlier ++ approval :: later ∧
      ApprovedAt dataSpace earlier approval s'.kernel.activation := by
  obtain ⟨hpermits, happlied, -⟩ := h.activation hpayload
  by_cases hbefore : s.kernel.activation.state = .active
  · have hsame := ActivationService.eq_of_applyActivation_active hbefore hpermits happlied
    exact approved_grown h (hlaw.approved hbefore) (by rw [hsame]) (by rw [hsame])
  · obtain ⟨assessmentId, approvedAt, state, rfl, happrovedAt, hassessment⟩ :=
      approval_of_active hbefore happlied hactive
    obtain ⟨hstate, hhuman, assessment, hknown, hid⟩ := hpermits
    refine ⟨s.ledger.events, s.ledger.store event, [], h.events,
      ⟨s.kernel.activation, hreplay.2, hstate, hassessment.symm⟩, hhuman,
      ⟨assessment, approvedAt, state, hassessment.trans hknown, happrovedAt, ?_⟩, ?_⟩
    · rw [hid]
      exact hpayload
    · exact fun stored hstored hgated => hbefore (hlaw.gated stored hstored hgated)

/-- **Every recorded event** keeps the law. -/
theorem activationLaw_of_stepped (hreplay : ActivationReplayed dataSpace s)
    (hlaw : ActivationLaw dataSpace s) (h : s.Stepped event s') : ActivationLaw dataSpace s' := by
  have hs := hreplay.1.1.toKernelSynced
  have hstays : s.kernel.activation.state = .active → s'.kernel.activation.state = .active := by
    intro hactive
    obtain ⟨version, hsame⟩ := activation_eq_of_active hs hactive h
    rw [hsame]
    exact hactive
  have hgrown : ∀ stored ∈ s.ledger.events, stored ∈ s'.ledger.events := by
    rw [h.events]
    exact fun stored hstored => List.mem_append_left _ hstored
  have hlast : s.ledger.store event ∈ s'.ledger.events := by
    rw [h.events]
    exact List.mem_append_right _ (List.mem_singleton.mpr rfl)
  have hgated : (event.payload.IsGated → s.kernel.activation.state = .active) →
      ∀ stored ∈ s'.ledger.events, stored.event.payload.IsGated →
        s'.kernel.activation.state = .active := by
    intro hevent stored hstored hgated
    rw [h.events] at hstored
    rcases List.mem_append.mp hstored with hstored | hstored
    · exact hstays (hlaw.gated stored hstored hgated)
    · rw [List.mem_singleton.mp hstored] at hgated
      exact hstays (hevent hgated)
  have hcollections : s'.kernel.executions = s.kernel.executions →
      s'.kernel.effectLeases = s.kernel.effectLeases →
      (∀ executionId, s'.kernel.executions.contains executionId = true →
        ∃ stored ∈ s'.ledger.events, ∃ execution,
          stored.event.payload = .kernel (.executionCreated execution) ∧
            execution.executionId = executionId) ∧
      ∀ leaseId, s'.kernel.effectLeases.contains leaseId = true →
        ∃ stored ∈ s'.ledger.events, ∃ lease,
          stored.event.payload = .kernel (.effectPlanned lease) ∧ lease.leaseId = leaseId := by
    intro hexecutions hleases
    rw [hexecutions, hleases]
    constructor
    · intro executionId hknown
      obtain ⟨stored, hstored, hcreated⟩ := hlaw.executions executionId hknown
      exact ⟨stored, hgrown stored hstored, hcreated⟩
    · intro leaseId hknown
      obtain ⟨stored, hstored, hplanned⟩ := hlaw.leases leaseId hknown
      exact ⟨stored, hgrown stored hstored, hplanned⟩
  cases h.wrote with
  | kernel payload hpayload hpermits happlied =>
    have hchanges := Kernel.changes_of_applyKernel hs.consistent happlied
    refine ⟨Kernel.founded_of_changes hlaw.founded hpermits hchanges, fun hactive => ?_,
      hgated fun hgated => ?_, fun executionId hknown => ?_, fun leaseId hknown => ?_⟩
    · have hbefore : s.kernel.activation.state = .active := by
        rw [hchanges.activation] at hactive
        cases payload <;> exact hactive
      have hsame := Kernel.activation_of_active hbefore hpermits hchanges
      exact approved_grown h (hlaw.approved hbefore) (by rw [hsame]) (by rw [hsame])
    · rw [hpayload] at hgated
      exact hpermits.active hgated
    · rw [hchanges.executions] at hknown
      rcases Kernel.contains_executionsAfter hknown with hknown | ⟨execution, rfl, hid⟩
      · obtain ⟨stored, hstored, hcreated⟩ := hlaw.executions executionId hknown
        exact ⟨stored, hgrown stored hstored, hcreated⟩
      · exact ⟨_, hlast, execution, hpayload, hid⟩
    · rw [hchanges.effect_leases] at hknown
      rcases Kernel.contains_effectLeasesAfter hknown with hknown | ⟨lease, rfl, hid⟩
      · obtain ⟨stored, hstored, hplanned⟩ := hlaw.leases leaseId hknown
        exact ⟨stored, hgrown stored hstored, hplanned⟩
      · exact ⟨_, hlast, lease, hpayload, hid⟩
  | activation payload hpayload _ hpermits happlied hkernel =>
    obtain ⟨hexecutions, hleases⟩ := hcollections (by rw [hkernel]) (by rw [hkernel])
    refine ⟨ActivationService.founded_of_applyActivation hlaw.founded hpermits happlied,
      approved_of_activation hreplay hlaw h hpayload, hgated fun hgated => ?_, hexecutions,
      hleases⟩
    rw [hpayload] at hgated
    exact hgated.elim
  | ownerAuth payload hpayload _ _ hkernel =>
    obtain ⟨hexecutions, hleases⟩ := hcollections (by rw [hkernel]) (by rw [hkernel])
    have hsame : s'.kernel.activation = s.kernel.activation := by rw [hkernel]
    refine ⟨hsame ▸ hlaw.founded, fun hactive => ?_, hgated fun hgated => ?_, hexecutions,
      hleases⟩
    · rw [hsame] at hactive ⊢
      exact approved_grown h (hlaw.approved hactive) rfl rfl
    · rw [hpayload] at hgated
      exact hgated.elim
  | other hother hkernel =>
    obtain ⟨hexecutions, hleases⟩ := hcollections (by rw [hkernel]) (by rw [hkernel])
    refine ⟨hkernel ▸ hlaw.founded, fun hactive => ?_, hgated fun hgated => ?_, hexecutions,
      hleases⟩
    · rw [hkernel] at hactive ⊢
      exact approved_grown h (hlaw.approved hactive) rfl rfl
    · cases hpayload : event.payload <;> simp_all [EventPayload.ofKernel, EventPayload.IsGated]

end Steps

section Runs

variable [Sha256] (dataSpace : DataSpace)

/-- Events, blobs and restarts keep the law. -/
theorem activationLaw_kept :
    KeptByProcesses fun s => ActivationReplayed dataSpace s ∧ ActivationLaw dataSpace s where
  synced s hs := (activationReplayed_kept dataSpace).synced s hs.1
  all_synced s hs := (activationReplayed_kept dataSpace).all_synced s hs.1
  mirrored s event s' hs h := ⟨(activationReplayed_kept dataSpace).mirrored s event s' hs.1 h,
    activationLaw_of_stepped hs.1 hs.2 h.stepped⟩
  stored s data hs := ⟨(activationReplayed_kept dataSpace).stored s data hs.1, { hs.2 with }⟩
  restarted s hs := ⟨(activationReplayed_kept dataSpace).restarted s hs.1, { hs.2 with }⟩

/-- An approved aggregate, whatever its version. -/
theorem approved_kept (approved : ActivationService) : KeptByProcesses fun s =>
    SyncedIn dataSpace s ∧ approved.state = .active ∧
      ∃ version, s.kernel.activation = { approved with version := version } where
  synced s hs := hs.1.1.toKernelSynced
  all_synced s hs := hs.1.1
  mirrored s event s' hs h := by
    obtain ⟨hsynced, hactive, version, hsame⟩ := hs
    obtain ⟨version', hsame'⟩ := activation_eq_of_active hsynced.1.toKernelSynced
      (by rw [hsame]; exact hactive) h.stepped
    refine ⟨(syncedIn_kept dataSpace).mirrored s event s' hsynced h, hactive, version', ?_⟩
    rw [hsame', hsame]
  stored s data hs := ⟨(syncedIn_kept dataSpace).stored s data hs.1, hs.2⟩
  restarted s hs := ⟨(syncedIn_processes dataSpace).restarted s hs.1, hs.2⟩

/-- **Activation is safe.** After every run, with restarts anywhere in it, the law of activation
holds, and once the data space is approved no further run changes its aggregate but for the version
of its stream. -/
theorem activationLaw_run (inputs : List (ProcessCommand × Clock)) :
    ActivationLaw dataSpace (runProcesses (.new dataSpace) inputs) ∧
      ((runProcesses (.new dataSpace) inputs).kernel.activation.state = .active →
        ∀ later, ∃ version, (runProcesses (.new dataSpace) (inputs ++ later)).kernel.activation =
          { (runProcesses (.new dataSpace) inputs).kernel.activation with version := version }) := by
  have hlaw : ActivationReplayed dataSpace (runProcesses (.new dataSpace) inputs) ∧
      ActivationLaw dataSpace (runProcesses (.new dataSpace) inputs) :=
    Run.exec_invariant (ProcessCommand.invariant_step (activationLaw_kept dataSpace)) inputs
      ⟨⟨syncedIn_new dataSpace, rfl⟩, activationLaw_new dataSpace⟩
  refine ⟨hlaw.2, fun hactive later => ?_⟩
  have hkept := Run.exec_invariant (ProcessCommand.invariant_step (approved_kept dataSpace
    (runProcesses (.new dataSpace) inputs).kernel.activation)) later
    ⟨hlaw.1.1, hactive, (runProcesses (.new dataSpace) inputs).kernel.activation.version, rfl⟩
  rw [runProcesses, Run.exec_append]
  exact hkept.2.2

end Runs

end Nanihold
