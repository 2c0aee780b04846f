import Nanihold.Events
import Nanihold.Kernel.Ledger
import Nanihold.Library.Program

/-!
# Recording an event

Every command of every service has the same shape: it checks its arguments against the
service's state, records one event on a stream, and then updates the state in memory. The
checks of a command compute a `Recording`: the arguments of the service's `_record` together
with the assignments that follow the call. An exception raised by those assignments keeps the
appended event and the assignments made before it.

## Main definitions

* `EventWriter` — a service that writes events: its data space and its stream versions.
* `Recording` — the arguments of `_record` and the assignments after it.
* `Recording.envelope` — the envelope that `_record` builds, with the checks of its model.
-/

namespace Nanihold

/-- A service that writes events. -/
class EventWriter (σ : Type) where
  /-- The data space the service writes to. -/
  dataSpaceId : σ → String
  /-- The version of a stream the service expects. -/
  version : σ → String → Nat
  /-- What the service writes down when the ledger accepted an event of a stream. -/
  advance : σ → String → AppendResult → σ

/-- The arguments of `_record`, and the assignments that follow it. -/
structure Recording (σ : Type) where
  streamId : String
  payload : EventPayload
  actorType : String
  actorId : Option String
  idempotencyKey : String
  correlationId : Option String
  causationId : Option String := none
  /-- The clock reading that `_record` takes. -/
  occurredAt : DateTime
  /-- The assignments after `_record`, from the event and the ledger's answer. -/
  update : EventEnvelope → AppendResult → EStateM VsmError σ Unit

namespace Recording

variable {σ : Type} [EventWriter σ] [Sha256]

/-- The envelope that `_record` builds from the service's state. Its data model refuses a
malformed identifier, an unknown actor type and an empty or oversized idempotency key. -/
def envelope (r : Recording σ) (service : σ) : Except VsmError EventEnvelope :=
  let dataSpaceId := EventWriter.dataSpaceId service
  match ActorType.ofString? r.actorType with
  | none => .error (.validationError "EventEnvelope")
  | some actorType =>
    if isIdentifier dataSpaceId && isIdentifier r.streamId && isIdentifierOrNone r.actorId &&
        isIdentifierOrNone r.correlationId && isIdentifierOrNone r.causationId &&
        isNonBlank r.idempotencyKey then
      .ok
        { eventId := deterministicEventId dataSpaceId r.streamId r.idempotencyKey
          dataSpaceId := dataSpaceId
          streamId := r.streamId
          streamVersion := EventWriter.version service r.streamId + 1
          occurredAt := r.occurredAt
          actorType := actorType
          actorId := r.actorId
          correlationId := r.correlationId
          causationId := r.causationId
          idempotencyKey := r.idempotencyKey
          payload := r.payload }
    else .error (.validationError "EventEnvelope")

/-- The event carries what the recording says, in the service's data space and as the next
event of its stream. -/
structure Describes (r : Recording σ) (service : σ) (event : EventEnvelope) : Prop where
  data_space : event.dataSpaceId = EventWriter.dataSpaceId service
  stream : event.streamId = r.streamId
  version : event.streamVersion = EventWriter.version service r.streamId + 1
  actor_type : ActorType.ofString? r.actorType = some event.actorType
  actor : event.actorId = r.actorId
  key : event.idempotencyKey = r.idempotencyKey
  payload : event.payload = r.payload
  key_nonblank : isNonBlank event.idempotencyKey = true

theorem describes_of_envelope {r : Recording σ} {service : σ} {event : EventEnvelope}
    (h : r.envelope service = .ok event) : r.Describes service event := by
  unfold envelope at h
  simp only at h
  split at h
  · exact nomatch h
  · next actorType hactor =>
    split at h
    · next hvalid =>
      obtain rfl := Except.ok.inj h
      simp only [Bool.and_eq_true] at hvalid
      exact ⟨rfl, rfl, rfl, hactor, rfl, rfl, rfl, hvalid.2⟩
    · exact nomatch h

/-- The identity of the event is made from its data space, its stream and its key. -/
theorem eventId_of_envelope {r : Recording σ} {service : σ} {event : EventEnvelope}
    (h : r.envelope service = .ok event) :
    event.eventId = deterministicEventId (EventWriter.dataSpaceId service) r.streamId
      r.idempotencyKey := by
  unfold envelope at h
  simp only at h
  split at h
  · cases h
  · split at h
    · obtain rfl := Except.ok.inj h
      rfl
    · cases h

/-- The data model refuses a recording with a validation error. -/
theorem envelope_eq_error {r : Recording σ} {service : σ} {e : VsmError}
    (h : r.envelope service = .error e) : e = .validationError "EventEnvelope" := by
  unfold envelope at h
  simp only at h
  split at h
  · exact (Except.error.inj h).symm
  · split at h
    · cases h
    · exact (Except.error.inj h).symm

/-- The data model accepts a recording with well-formed identifiers, a known actor type and a key
of admissible length. -/
theorem envelope_of_valid {r : Recording σ} {service : σ} {actorType : ActorType}
    (htype : ActorType.ofString? r.actorType = some actorType)
    (hspace : isIdentifier (EventWriter.dataSpaceId service) = true)
    (hstream : isIdentifier r.streamId = true) (hactor : isIdentifierOrNone r.actorId = true)
    (hcorrelation : isIdentifierOrNone r.correlationId = true)
    (hcausation : isIdentifierOrNone r.causationId = true)
    (hkey : isNonBlank r.idempotencyKey = true) :
    r.envelope service = .ok
      { eventId :=
          deterministicEventId (EventWriter.dataSpaceId service) r.streamId r.idempotencyKey
        dataSpaceId := EventWriter.dataSpaceId service
        streamId := r.streamId
        streamVersion := EventWriter.version service r.streamId + 1
        occurredAt := r.occurredAt
        actorType := actorType
        actorId := r.actorId
        correlationId := r.correlationId
        causationId := r.causationId
        idempotencyKey := r.idempotencyKey
        payload := r.payload } := by
  simp only [envelope, htype, hspace, hstream, hactor, hcorrelation, hcausation, hkey,
    Bool.and_self, if_true]

end Recording

end Nanihold
