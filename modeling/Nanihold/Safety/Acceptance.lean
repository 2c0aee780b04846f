import Nanihold.Safety.StreamVersions

/-!
# When an event of the Kernel is accepted

The ledger accepts an event exactly if the data model takes it, neither its key nor its identity is
stored, and the Kernel knows where the stream stands. None of this depends on the payload.

## Main definitions

* `Recording.Valid` — what the data model asks of a recording.

## Main results

* `Recording.accepted_iff` — when the ledger accepts an event of the Kernel.
* `record_of_not_accepted`, `Recording.accepted_of_returns` — a command returns only if its event
  is accepted.
-/

namespace Nanihold

variable [Sha256] {s : MemorySystem}

/-- What the data model asks of a recording. -/
structure Recording.Valid (r : Recording Kernel) (k : Kernel) : Prop where
  actor_type : (ActorType.ofString? r.actorType).isSome = true
  data_space : isIdentifier k.dataSpace.dataSpaceId = true
  stream : isIdentifier r.streamId = true
  actor : isIdentifierOrNone r.actorId = true
  correlation : isIdentifierOrNone r.correlationId = true
  causation : isIdentifierOrNone r.causationId = true
  key : isNonBlank r.idempotencyKey = true

theorem Recording.valid_of_envelope {r : Recording Kernel} {k : Kernel} {event : EventEnvelope}
    (h : r.envelope k = .ok event) : r.Valid k := by
  unfold Recording.envelope at h
  dsimp only at h
  split at h
  · cases h
  · next actorType hactor =>
    split at h
    · next hvalid =>
      simp only [Bool.and_eq_true] at hvalid
      obtain ⟨⟨⟨⟨⟨hspace, hstream⟩, hactorId⟩, hcorrelation⟩, hcausation⟩, hkey⟩ := hvalid
      exact ⟨by rw [hactor]; rfl, hspace, hstream, hactorId, hcorrelation, hcausation, hkey⟩
    · cases h

/-- A recording is new when the data model accepts it and neither its key nor the identity of its
event is stored. -/
theorem Recording.isNew_iff (hspace : s.ledger.dataSpaceId = s.kernel.dataSpace.dataSpaceId)
    {r : Recording Kernel} :
    r.IsNew s ↔ r.Valid s.kernel ∧ s.ledger.idempotency.get? r.idempotencyKey = none ∧
      s.ledger.eventIds.get? (deterministicEventId s.kernel.dataSpace.dataSpaceId r.streamId
        r.idempotencyKey) = none := by
  constructor
  · rintro ⟨event, henvelope, -, hkey, hid⟩
    rw [(describes_of_envelope henvelope).key] at hkey
    rw [eventId_of_envelope henvelope] at hid
    exact ⟨valid_of_envelope henvelope, hkey, hid⟩
  · rintro ⟨hvalid, hkey, hid⟩
    obtain ⟨actorType, hactor⟩ := Option.isSome_iff_exists.mp hvalid.actor_type
    exact ⟨_, envelope_of_valid hactor hvalid.data_space hvalid.stream hvalid.actor
      hvalid.correlation hvalid.causation hvalid.key, hspace.symm, hkey, hid⟩

/-- **An event of the Kernel is accepted** exactly if it is new and the Kernel knows where its
stream stands: none that is stored comes again, since the Kernel knows a version beyond it. -/
theorem Recording.accepted_iff (hs : s.KernelSynced) {r : Recording Kernel}
    {payload : KernelPayload} (hpayload : r.payload = .kernel payload) :
    r.Accepted s ↔
      r.IsNew s ∧ s.kernel.versions.getD r.streamId 0 = s.ledger.streamLength r.streamId := by
  constructor
  · rintro ⟨event, ⟨result, ledger⟩, henvelope, happend⟩
    have hdescribes := describes_of_envelope henvelope
    rcases s.ledger.append_eq_ok happend with ⟨happ, hlength, -, -⟩ | ⟨known, hknown, heq, -, -⟩
    · rw [hdescribes.stream] at hlength
      exact ⟨⟨event, henvelope, happ.data_space, happ.fresh_key, happ.fresh_id⟩, hlength.symm⟩
    · have hown : known.event.payload = .kernel payload := by
        rw [heq, hdescribes.payload, hpayload]
      have hbound := hs.kernel_versions known hknown (by rw [hown]; rfl)
      rw [hown, heq, hdescribes.stream, hdescribes.version] at hbound
      change s.kernel.versions.getD r.streamId 0 + 1 ≤ s.kernel.versions.getD r.streamId 0
        at hbound
      omega
  · rintro ⟨⟨event, henvelope, hspace, hkey, hid⟩, hversion⟩
    have hdescribes := describes_of_envelope henvelope
    have happ : s.ledger.Appendable event := by
      refine ⟨hspace, hkey, hid, ?_⟩
      rw [hdescribes.version, hdescribes.stream, ← hversion]
      rfl
    have hlength : s.ledger.streamLength event.streamId =
        EventWriter.version s.kernel r.streamId := by
      rw [hdescribes.stream]
      exact hversion.symm
    exact ⟨event, _, henvelope, s.ledger.append_of_appendable happ hlength⟩

/-- A recording that is not accepted is refused before anything is written. -/
theorem record_of_not_accepted {r : Recording Kernel} (h : ¬ r.Accepted s) :
    ∃ e, record r s = .error e s := by
  rcases record_cases r s with herror | ⟨event, result, ledger, henvelope, happend, -⟩
  · exact herror
  · exact absurd ⟨event, (result, ledger), henvelope, happend⟩ h

/-- A command that returns recorded an accepted event. -/
theorem Recording.accepted_of_returns (plan : Kernel → Except VsmError (Recording Kernel))
    {r : Recording Kernel} (hplan : plan s.kernel = .ok r)
    (h : (performKernel plan).returns s = true) : r.Accepted s := by
  by_contra hnot
  obtain ⟨e, herror⟩ := record_of_not_accepted hnot
  have hraised : performKernel plan s = .error e s :=
    EStateM.run_bind_of_error ((perform_of_ok hplan).trans herror)
  rw [EStateM.returns, hraised] at h
  cases h

end Nanihold
