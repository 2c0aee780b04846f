import Nanihold.Interface.Requests
import Nanihold.Replay.TokenLab

/-!
# What a request records

The requests to a data space, by the events they record. A request to a service other than the
Interface service records events of that service alone, each repeated by its handler; a recording
of the Interface service is refused, or its event is appended as the next one of its conversation
and its assignments run.

## Main definitions

* `EventPayload.NotInterface` — the event is another service's.
* `System.InterfaceStepped` — one event of the Interface service.

## Main results

* `ServiceCommand.reaches`, `TokenLabCommand.reaches` — requests to the other services.
* `record_interface` — a recording of the Interface service.
* `System.InterfaceStepped.kernelSynced`, `System.InterfaceStepped.othersKnown` — what one event of
  the Interface service keeps.
-/

namespace Nanihold

/-- The event is not one of the Interface service. -/
def EventPayload.NotInterface (payload : EventPayload) : Prop :=
  ∀ known, payload ≠ .interface known

theorem EventPayload.notInterface_of_ofKernel {payload : EventPayload}
    (h : payload.ofKernel = true) : payload.NotInterface := by
  rintro known rfl
  cases h

variable [Sha256] {s s' : MemorySystem} {event : EventEnvelope} {P Q : EventPayload → Prop}

/-! ### The other services -/

theorem System.Reaches.mono (h : System.Reaches P s s') (hPQ : ∀ payload, P payload → Q payload) :
    System.Reaches Q s s' := by
  induction h with
  | refl => exact .refl _
  | recorded _ hpayload hmirrored ih => exact .recorded ih (hPQ _ hpayload) hmirrored
  | stored _ data ih => exact .stored ih data

theorem KernelCommand.reaches (hs : s.KernelSynced) (c : KernelCommand) (clock : Clock) :
    System.Reaches (·.ofKernel = true) s ((c.run clock).finalState s) := by
  have hout := c.outcome hs clock
  generalize (c.run clock).finalState s = s' at hout
  cases hout with
  | unchanged => exact .refl s
  | recorded payload hpayload _ hmirrored =>
    exact .recorded (.refl s) (by rw [hpayload]; rfl) hmirrored
  | promoted hcreated _ hfirst hlinked hsecond =>
    exact .recorded (.recorded (.refl s) (by rw [hcreated]; rfl) hfirst) (by rw [hlinked]; rfl)
      hsecond

theorem ServiceCommand.reaches (hs : s.KernelSynced) (c : ServiceCommand) (clock : Clock) :
    System.Reaches (·.ofKernel = true) s ((c.run clock).finalState s) := by
  cases c with
  | kernel c => exact c.reaches hs clock
  | activation c =>
    refine (c.outcome hs clock).mono ?_
    rintro _ ⟨payload, rfl⟩
    rfl
  | history c =>
    refine (c.outcome hs clock).mono ?_
    rintro _ ⟨payload, rfl⟩
    rfl
  | ownerAuth c =>
    refine (c.outcome hs clock).mono ?_
    rintro _ ⟨payload, rfl⟩
    rfl

/-- A recording of the Token Lab that its handler repeats. -/
private theorem reaches_of_replayable (hknown : s.OthersKnown) {payload : TokenLabPayload}
    {r : Recording TokenLabEventService} (hr : s.tokenLab.Replayable payload r) :
    System.Reaches EventPayload.NotInterface s ((record r).finalState s) := by
  rcases record_tokenLab hknown hr with ⟨e, herror⟩ | ⟨event, answer, s', hpayload, hstep, hok⟩
  · rw [EStateM.finalState_of_error herror]
    exact .refl s
  · rw [EStateM.finalState_of_ok hok]
    refine .recorded (.refl s) ?_ hstep
    rw [hpayload]
    exact fun _ h => by cases h

/-- A check of the Token Lab, followed by a recording. -/
theorem reaches_performTokenLab (hknown : s.OthersKnown)
    {plan : MemorySystem → Except VsmError (Recording TokenLabEventService)}
    (hplan : ∀ r, plan s = .ok r → ∃ payload, s.tokenLab.Replayable payload r) :
    System.Reaches EventPayload.NotInterface s ((perform plan).finalState s) := by
  rw [perform, EStateM.finalState_get_bind]
  cases h : plan s with
  | error e => exact .refl s
  | ok r =>
    obtain ⟨payload, hr⟩ := hplan r h
    exact reaches_of_replayable hknown hr

theorem TokenLabCommand.reaches (hknown : s.OthersKnown) (c : TokenLabCommand) (clock : Clock) :
    System.Reaches EventPayload.NotInterface s ((c.run clock).finalState s) := by
  cases c with
  | approveBaseline baseline actorId key =>
    rw [TokenLabCommand.run, EStateM.finalState_bind_pure]
    exact reaches_performTokenLab hknown fun r h =>
      ⟨_, TokenLabEventService.replayable_approveBaseline h⟩
  | observe observation actorId key =>
    rw [TokenLabCommand.run, EStateM.finalState_bind_pure]
    exact reaches_performTokenLab hknown fun r h => ⟨_, TokenLabEventService.replayable_observe h⟩
  | recordWeeklyReview reviewedAt actorId key =>
    rw [TokenLabCommand.run, EStateM.finalState_bind_pure]
    exact reaches_performTokenLab hknown fun r h =>
      ⟨_, TokenLabEventService.replayable_recordWeeklyReview h⟩

omit [Sha256] in
/-- A mirrored event leaves the services beside the Kernel level with their events. -/
theorem System.OthersKnown.of_mirrored (h : s.OthersKnown) (hmirrored : s.Mirrored event s') :
    s'.OthersKnown := by
  intro stored hstored hother
  rw [hmirrored.stepped.events, List.mem_append, List.mem_singleton] at hstored
  rcases hstored with hold | rfl
  · exact (h stored hold hother).trans (hmirrored.writerVersion _ hother)
  · exact (hmirrored.writerVersion_self hother).ge

omit [Sha256] in
/-- An event of another service leaves the Interface service alone. -/
theorem System.Mirrored.interface_eq (h : s.Mirrored event s')
    (hpayload : event.payload.NotInterface) : s'.interface = s.interface := by
  cases h.others with
  | kernel _ hinterface => exact hinterface
  | interface payload hknown => exact absurd hknown (hpayload payload)
  | tokenLab _ _ _ hinterface => exact hinterface

/-! ### The Interface service -/

/-- One event of the Interface service: appended as the next one of its stream, the next that the
service knows, with other changes to the Interface service alone. -/
structure System.InterfaceStepped (s : MemorySystem) (event : EventEnvelope)
    (s' : MemorySystem) : Prop where
  appended : ∃ happ : s.ledger.Appendable event, s'.ledger = s.ledger.push event happ
  payload : ∃ payload, event.payload = .interface payload
  next_version : event.streamVersion = s.interface.versions.getD event.streamId 0 + 1
  versions : s'.interface.versions = s.interface.versions.set event.streamId event.streamVersion
  kernel_eq : s'.kernel = s.kernel
  tokenLab_eq : s'.tokenLab = s.tokenLab

namespace System.InterfaceStepped

omit [Sha256] in
theorem stepped (h : s.InterfaceStepped event s') : s.Stepped event s' := by
  obtain ⟨payload, hpayload⟩ := h.payload
  refine ⟨h.appended, ?_, .other ?_ h.kernel_eq⟩
  · rw [hpayload]
    exact h.next_version
  · rw [hpayload]
    rfl

omit [Sha256] in
theorem kernelSynced (h : s.InterfaceStepped event s') (hs : s.KernelSynced) : s'.KernelSynced :=
  System.kernelSynced_of_stepped hs h.stepped

omit [Sha256] in
/-- The services beside the Kernel stay level with their events. -/
theorem othersKnown (h : s.InterfaceStepped event s') (hknown : s.OthersKnown) :
    s'.OthersKnown := by
  intro stored hstored hother
  rw [h.stepped.events, List.mem_append, List.mem_singleton] at hstored
  rcases hstored with hold | rfl
  · have hle := hknown stored hold hother
    revert hle hother
    cases hpayload : stored.event.payload with
    | interface payload =>
      intro _ hle
      simp only [System.writerVersion, h.versions] at hle ⊢
      exact hle.trans (OrderedDict.getD_le_getD_set (by rw [h.next_version]; omega) _)
    | tokenLab payload =>
      intro _ hle
      simp only [System.writerVersion, h.tokenLab_eq] at hle ⊢
      exact hle
    | routing | environment | external => exact fun _ hle => hle
    | kernel | activation | ownerAuth => exact fun hother => by cases hother
  · obtain ⟨payload, hpayload⟩ := h.payload
    change event.streamVersion ≤ s'.writerVersion event.streamId event.payload
    rw [hpayload, System.writerVersion, h.versions, OrderedDict.getD_set_self]

end System.InterfaceStepped

/-- The system after an event of the Interface service was appended and the service became `i`. -/
def System.interfaceStep (s : MemorySystem) (event : EventEnvelope)
    (happ : s.ledger.Appendable event) (i : InterfaceService) : MemorySystem :=
  { s with ledger := s.ledger.push event happ, interface := i }

/-- The Interface service after the ledger accepted an event. -/
def InterfaceService.advanced (i : InterfaceService) (ledger : InMemoryOperationalLedger)
    (event : EventEnvelope) : InterfaceService :=
  EventWriter.advance i event.streamId (appendedResult ledger event)

/-- **A recording of the Interface service** is refused before anything is written, or its event is
appended and its assignments run on the advanced service. -/
theorem record_interface (hknown : s.OthersKnown) {r : Recording InterfaceService}
    {payload : InterfacePayload} (hr : r.payload = .interface payload) :
    (∃ e, record r s = .error e s) ∨
    ∃ event, ∃ happ : s.ledger.Appendable event, r.Describes s.interface event ∧
      event.streamVersion = s.interface.versions.getD event.streamId 0 + 1 ∧
      (∀ i, r.update event (appendedResult s.ledger event) (s.interface.advanced s.ledger event) =
          .ok () i →
        record r s = .ok (event, appendedResult s.ledger event) (s.interfaceStep event happ i)) ∧
      ∀ e i, r.update event (appendedResult s.ledger event)
          (s.interface.advanced s.ledger event) = .error e i →
        record r s = .error e (s.interfaceStep event happ i) := by
  have hwriter : s.writerVersion r.streamId r.payload =
      EventWriter.version (Component.read s : InterfaceService) r.streamId := by
    rw [hr]
    rfl
  have hversions : ∀ stored ∈ s.ledger.events, stored.event.payload = r.payload →
      stored.event.streamVersion ≤
        s.writerVersion stored.event.streamId stored.event.payload := by
    intro stored hstored hsame
    refine hknown stored hstored ?_
    rw [hsame, hr]
    rfl
  rcases record_appended r hwriter hversions with
    herror | ⟨event, happ, hdescribes, hnext, hrecord⟩
  · exact Or.inl herror
  · refine Or.inr ⟨event, happ, hdescribes, ?_, fun i hi => ?_, fun e i hi => ?_⟩
    · rw [hnext, hdescribes.payload, hr]
      rfl
    · rw [InterfaceService.advanced, hdescribes.stream] at hi
      rw [hrecord]
      change r.update event (appendedResult s.ledger event)
        (EventWriter.advance (Component.read s) r.streamId _) = _ at hi
      rw [hi]
      rfl
    · rw [InterfaceService.advanced, hdescribes.stream] at hi
      rw [hrecord]
      change r.update event (appendedResult s.ledger event)
        (EventWriter.advance (Component.read s) r.streamId _) = _ at hi
      rw [hi]
      rfl

omit [Sha256] in
/-- An event of the Interface service whose assignments keep the versions. -/
theorem System.interfaceStepped {payload : InterfacePayload} {i : InterfaceService}
    (happ : s.ledger.Appendable event) (hpayload : event.payload = .interface payload)
    (hnext : event.streamVersion = s.interface.versions.getD event.streamId 0 + 1)
    (hversions : i.versions = (s.interface.advanced s.ledger event).versions) :
    s.InterfaceStepped event (s.interfaceStep event happ i) where
  appended := ⟨happ, rfl⟩
  payload := ⟨payload, hpayload⟩
  next_version := hnext
  versions := hversions
  kernel_eq := rfl
  tokenLab_eq := rfl

/-! ### Recordings of the commands -/

/-- What `create_conversation` records. -/
def InterfaceService.conversationRecording (conversation : Conversation)
    (surfaceBinding : SurfaceBinding) (idempotencyKey : String) (clock : Clock) :
    Recording InterfaceService :=
  recording conversation.conversationId
    (.conversationCreated conversation surfaceBinding
      (hexdigest (.conversationRequest conversation surfaceBinding))) "human"
    (some conversation.ownerId) idempotencyKey (clock 0)
    fun result => modify fun i =>
      { i with
        conversations := i.conversations.set conversation.conversationId conversation
        surfaceBindings := i.surfaceBindings.set surfaceBinding.bindingId surfaceBinding
        messages := i.messages.set conversation.conversationId []
        creationReceipts := i.creationReceipts.set idempotencyKey
          ⟨conversation.conversationId, surfaceBinding.bindingId, result.cursor⟩
        creationDigests := i.creationDigests.set idempotencyKey
          (hexdigest (.conversationRequest conversation surfaceBinding)) }

theorem InterfaceService.createConversation_eq_inr {i : InterfaceService} {k : Kernel}
    {conversation : Conversation} {surfaceBinding : SurfaceBinding} {key : String} {clock : Clock}
    {r : Recording InterfaceService}
    (h : i.createConversation k conversation surfaceBinding key clock = .ok (.inr r)) :
    r = conversationRecording conversation surfaceBinding key clock := by
  rw [createConversation] at h
  cases hprior : i.creationReceipts.get? key with
  | some prior =>
    simp only [hprior, Checked.orRaise_bind_eq_ok_iff, Checked.check_bind_eq_ok_iff,
      Checked.pure_eq_ok_iff] at h
    obtain ⟨_, -, -, h⟩ := h
    cases h
  | none =>
    simp only [hprior] at h
    obtain ⟨node, -, h⟩ := Checked.orRaise_bind_eq_ok_iff.mp h
    iterate 5 obtain ⟨-, h⟩ := Checked.check_bind_eq_ok_iff.mp h
    exact (Sum.inr.inj (Checked.pure_eq_ok_iff.mp h)).symm

end Nanihold
