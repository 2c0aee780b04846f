import Nanihold.Replay.Sync

/-!
# Recording in a synced system

When no stored event of a service is ahead of it, no recording of the service is answered as a
duplicate, so it is refused or it appends the next event of its stream. A replayable recording
of the Kernel, of the Activation service or of the owner bootstrap is then one step of the
system.

## Main results

* `record_appended` — a recording of any service.
* `record_kernel`, `record_activation`, `record_ownerAuth` — replayable recordings.
-/

namespace Nanihold

variable [Sha256] {s : MemorySystem}

/-- The ledger's answer to an event stored as the next one. -/
def appendedResult (ledger : InMemoryOperationalLedger) (event : EventEnvelope) : AppendResult :=
  ⟨.appended, ledger.events.length + 1, event.streamVersion⟩

/-- **A recording** of a service that no event of its own is ahead of is refused before
anything is written, or its event is appended as the next one of its stream: no stored event is
as new as the one it describes. -/
theorem record_appended {σ : Type} [Service InMemoryOperationalLedger σ] (r : Recording σ)
    (hwriter : s.writerVersion r.streamId r.payload =
      EventWriter.version (Component.read s : σ) r.streamId)
    (hversions : ∀ stored ∈ s.ledger.events, stored.event.payload = r.payload →
      stored.event.streamVersion ≤ s.writerVersion stored.event.streamId stored.event.payload) :
    (∃ e, record r s = .error e s) ∨
    ∃ event, ∃ happ : s.ledger.Appendable event, r.Describes (Component.read s : σ) event ∧
      event.streamVersion = s.writerVersion event.streamId event.payload + 1 ∧
      record r s =
        match r.update event (appendedResult s.ledger event)
          (EventWriter.advance (Component.read s) r.streamId (appendedResult s.ledger event)) with
        | .ok _ t =>
          .ok (event, appendedResult s.ledger event)
            (Component.write { s with ledger := s.ledger.push event happ } t)
        | .error e t =>
          .error e (Component.write { s with ledger := s.ledger.push event happ } t) := by
  rcases record_cases r s with herror | ⟨event, result, ledger, henvelope, happend, hrecord⟩
  · exact Or.inl herror
  right
  have hdescribes := Recording.describes_of_envelope henvelope
  have hnext : event.streamVersion = s.writerVersion event.streamId event.payload + 1 := by
    rw [hdescribes.version, hdescribes.stream, hdescribes.payload, hwriter]
  rcases s.ledger.append_eq_ok happend with
    ⟨happ, -, rfl, rfl⟩ | ⟨stored, hstored, rfl, -, -⟩
  · exact ⟨event, happ, hdescribes, hnext, hrecord⟩
  · have hle := hversions stored hstored hdescribes.payload
    omega

/-- A recording of the Kernel or of a service inside it. -/
private theorem record_ofKernel {σ : Type} [Service InMemoryOperationalLedger σ]
    (hs : s.KernelSynced) (r : Recording σ) (hown : r.payload.ofKernel = true)
    (hwriter : s.writerVersion r.streamId r.payload =
      EventWriter.version (Component.read s : σ) r.streamId) :
    (∃ e, record r s = .error e s) ∨
    ∃ event, ∃ happ : s.ledger.Appendable event, r.Describes (Component.read s : σ) event ∧
      event.streamVersion = s.writerVersion event.streamId event.payload + 1 ∧
      record r s =
        match r.update event (appendedResult s.ledger event)
          (EventWriter.advance (Component.read s) r.streamId (appendedResult s.ledger event)) with
        | .ok _ t =>
          .ok (event, appendedResult s.ledger event)
            (Component.write { s with ledger := s.ledger.push event happ } t)
        | .error e t =>
          .error e (Component.write { s with ledger := s.ledger.push event happ } t) :=
  record_appended r hwriter fun stored hstored hpayload =>
    hs.kernel_versions stored hstored (hpayload ▸ hown)

theorem record_kernel (hs : s.KernelSynced) {r : Recording Kernel} {streamId : String}
    {payload : KernelPayload} (hr : s.kernel.Replayable streamId payload r) :
    (∃ e, record r s = .error e s) ∨
    ∃ event answer s', event.streamId = streamId ∧ event.payload = .kernel payload ∧
      s.Mirrored event s' ∧ record r s = .ok answer s' := by
  obtain ⟨hstream, hpayload, hreplay⟩ := hr
  have hwriter : s.writerVersion r.streamId r.payload =
      EventWriter.version (Component.read s : Kernel) r.streamId := by
    rw [hpayload]
    rfl
  rcases record_ofKernel hs r (by rw [hpayload]; rfl) hwriter with
    herror | ⟨event, happ, hdescribes, hnext, hrecord⟩
  · exact Or.inl herror
  obtain ⟨hpermits, next, hupdate, happlied⟩ :=
    hreplay event (appendedResult s.ledger event) hdescribes rfl
  have hevent := hdescribes.payload.trans hpayload
  have hread : (Component.read s : Kernel) = s.kernel := rfl
  rw [hread, hupdate] at hrecord
  refine Or.inr ⟨event, _, { s with ledger := s.ledger.push event happ, kernel := next },
    hdescribes.stream.trans hstream, hevent,
    ⟨⟨⟨happ, rfl⟩, hnext, .kernel payload hevent hpermits happlied⟩, ?_⟩, hrecord⟩
  exact .kernel (by rw [hevent]; rfl) rfl rfl

/-- **A replayable recording of the Activation service** is refused, or answered with the event it
appended. -/
theorem record_activation_answer (hs : s.KernelSynced) {r : Recording ActivationService}
    {payload : ActivationPayload} (hr : s.kernel.activation.Replayable payload r) :
    (∃ e, record r s = .error e s) ∨
    ∃ event s', r.Describes s.kernel.activation event ∧ event.payload = .activation payload ∧
      s.Mirrored event s' ∧ record r s = .ok (event, appendedResult s.ledger event) s' := by
  obtain ⟨hpayload, hstream, hreplay⟩ := hr
  have hwriter : s.writerVersion r.streamId r.payload =
      EventWriter.version (Component.read s : ActivationService) r.streamId := by
    rw [hpayload]
    rfl
  rcases record_ofKernel hs r (by rw [hpayload]; rfl) hwriter with
    herror | ⟨event, happ, hdescribes, hnext, hrecord⟩
  · exact Or.inl herror
  obtain ⟨hpermits, next, hupdate, happlied⟩ :=
    hreplay event (appendedResult s.ledger event) hdescribes rfl
  have hevent := hdescribes.payload.trans hpayload
  have hread : (Component.read s : ActivationService) = s.kernel.activation := rfl
  rw [hread, hupdate] at hrecord
  refine Or.inr ⟨event,
    { s with
      ledger := s.ledger.push event happ
      kernel := { s.kernel with activation := next } }, hdescribes, hevent,
    ⟨⟨⟨happ, rfl⟩, hnext, ?_⟩, ?_⟩, hrecord⟩
  · exact .activation payload hevent (hdescribes.stream.trans hstream) hpermits happlied rfl
  · exact .kernel (by rw [hevent]; rfl) rfl rfl

theorem record_activation (hs : s.KernelSynced) {r : Recording ActivationService}
    {payload : ActivationPayload} (hr : s.kernel.activation.Replayable payload r) :
    (∃ e, record r s = .error e s) ∨
    ∃ event answer s', event.payload = .activation payload ∧ s.Mirrored event s' ∧
      record r s = .ok answer s' := by
  rcases record_activation_answer hs hr with herror | ⟨event, s', -, hevent, hmirrored, hrecord⟩
  · exact Or.inl herror
  · exact Or.inr ⟨event, _, s', hevent, hmirrored, hrecord⟩

theorem record_ownerAuth (hs : s.KernelSynced) {r : Recording OwnerBootstrapService}
    {payload : OwnerAuthPayload} (hr : s.kernel.ownerBootstrap.Replayable payload r) :
    (∃ e, record r s = .error e s) ∨
    ∃ event answer s', event.payload = .ownerAuth payload ∧ s.Mirrored event s' ∧
      record r s = .ok answer s' := by
  obtain ⟨hpayload, hstream, hreplay⟩ := hr
  have hwriter : s.writerVersion r.streamId r.payload =
      EventWriter.version (Component.read s : OwnerBootstrapService) r.streamId := by
    rw [hpayload]
    rfl
  rcases record_ofKernel hs r (by rw [hpayload]; rfl) hwriter with
    herror | ⟨event, happ, hdescribes, hnext, hrecord⟩
  · exact Or.inl herror
  obtain ⟨next, hupdate, happlied⟩ := hreplay event (appendedResult s.ledger event) rfl
  have hevent := hdescribes.payload.trans hpayload
  have hread : (Component.read s : OwnerBootstrapService) = s.kernel.ownerBootstrap := rfl
  rw [hread, hupdate] at hrecord
  refine Or.inr ⟨event, _,
    { s with
      ledger := s.ledger.push event happ
      kernel := { s.kernel with ownerBootstrap := next } }, hevent,
    ⟨⟨⟨happ, rfl⟩, hnext, ?_⟩, ?_⟩, hrecord⟩
  · exact .ownerAuth payload hevent (hdescribes.stream.trans hstream) happlied rfl
  · exact .kernel (by rw [hevent]; rfl) rfl rfl

end Nanihold
