import Nanihold.Documents
import Nanihold.Events
import Nanihold.Library.Program
import Mathlib.Data.List.Range

/-!
# The Operational Ledger

The append-only event log that all services of a data space share. The protocol is a class,
so a service can be run over any ledger; `InMemoryOperationalLedger` is the deterministic
implementation. It keeps the events in five indexes, and it carries the proofs that the
indexes agree with the list of events, that cursors count from one without gaps and that the
versions of each stream count from one in append order.

## Main definitions

* `OperationalLedger` — appends, pages, streams and blobs.
* `InMemoryOperationalLedger` — the ledger with its representation invariant.
* `InMemoryOperationalLedger.append` — the checks of an append, in the order of the source.

## Main results

* `InMemoryOperationalLedger.append_eq_ok` — an accepted append either stored the event as
  the next one of its stream, or found the very same event already stored.
* `InMemoryOperationalLedger.page_eq` — a page is the stretch of events after a cursor.
-/

namespace Nanihold

/-- A ledger as the services see it. -/
class OperationalLedger (L : Type) where
  append : EventEnvelope → Nat → EStateM VsmError L AppendResult
  page : L → Nat → Nat → Except VsmError (List StoredEvent)
  stream : L → String → Nat → Nat → Except VsmError (List StoredEvent)
  putBlob : Document → EStateM VsmError L String

/-- The events of one stream, in append order. -/
def onStream (streamId : String) (events : List StoredEvent) : List StoredEvent :=
  events.filter (·.event.streamId = streamId)

/-- The events, indexed by stream, by idempotency key and by event id, and the blobs. -/
structure InMemoryOperationalLedger where
  dataSpaceId : String
  events : List StoredEvent
  streams : OrderedDict String (List StoredEvent)
  idempotency : OrderedDict String StoredEvent
  eventIds : OrderedDict String StoredEvent
  blobs : OrderedDict String Document
  /-- Cursors are `1, …, n` in append order. -/
  cursors_contiguous : events.map (·.cursor) = List.range' 1 events.length
  /-- The stream index is the list of events of each stream. -/
  streams_eq : ∀ streamId, streams.getD streamId [] = onStream streamId events
  /-- The versions of a stream are `1, …, k` in append order. -/
  versions_contiguous : ∀ streamId, (onStream streamId events).map (·.event.streamVersion) =
    List.range' 1 (onStream streamId events).length
  /-- The idempotency index finds exactly the stored events. -/
  idempotency_iff : ∀ key stored, idempotency.get? key = some stored ↔
    stored ∈ events ∧ stored.event.idempotencyKey = key
  /-- The event id index finds exactly the stored events. -/
  eventIds_iff : ∀ eventId stored, eventIds.get? eventId = some stored ↔
    stored ∈ events ∧ stored.event.eventId = eventId
  /-- No event of another data space is stored. -/
  data_space_eq : ∀ stored ∈ events, stored.event.dataSpaceId = dataSpaceId

namespace InMemoryOperationalLedger

/-- A ledger without events. -/
def new (dataSpaceId : String) : InMemoryOperationalLedger where
  dataSpaceId := dataSpaceId
  events := []
  streams := .empty
  idempotency := .empty
  eventIds := .empty
  blobs := .empty
  cursors_contiguous := rfl
  streams_eq _ := rfl
  versions_contiguous _ := rfl
  idempotency_iff _ _ := by simp
  eventIds_iff _ _ := by simp
  data_space_eq _ h := nomatch h

variable (ledger : InMemoryOperationalLedger)

/-- The number of events on a stream. -/
def streamLength (streamId : String) : Nat := (ledger.streams.getD streamId []).length

theorem streamLength_eq (streamId : String) :
    ledger.streamLength streamId = (onStream streamId ledger.events).length := by
  rw [streamLength, ledger.streams_eq]

/-- What `append` has checked when it stores an event. -/
structure Appendable (event : EventEnvelope) : Prop where
  data_space : event.dataSpaceId = ledger.dataSpaceId
  fresh_key : ledger.idempotency.get? event.idempotencyKey = none
  fresh_id : ledger.eventIds.get? event.eventId = none
  next_version : event.streamVersion = ledger.streamLength event.streamId + 1

theorem onStream_append (streamId : String) (events : List StoredEvent) (stored : StoredEvent) :
    onStream streamId (events ++ [stored]) =
      onStream streamId events ++ if stored.event.streamId = streamId then [stored] else [] := by
  rw [onStream, List.filter_append]
  congr 1
  by_cases h : stored.event.streamId = streamId <;> simp [h]

private theorem get?_set_index {index : OrderedDict String StoredEvent}
    {events : List StoredEvent} (key : EventEnvelope → String) (stored : StoredEvent)
    (hindex : ∀ k s, index.get? k = some s ↔ s ∈ events ∧ key s.event = k)
    (hfresh : index.get? (key stored.event) = none) (k : String) (s : StoredEvent) :
    (index.set (key stored.event) stored).get? k = some s ↔
      s ∈ events ++ [stored] ∧ key s.event = k := by
  rw [OrderedDict.get?_set, List.mem_append, List.mem_singleton]
  constructor
  · intro h
    split at h
    · next hk =>
      obtain rfl := Option.some.inj h
      exact ⟨Or.inr rfl, hk⟩
    · exact ⟨Or.inl ((hindex k s).mp h).1, ((hindex k s).mp h).2⟩
  · rintro ⟨hs | rfl, hk⟩
    · have hne : key stored.event ≠ k := by
        intro he
        rw [he, (hindex k s).mpr ⟨hs, hk⟩] at hfresh
        exact nomatch hfresh
      rw [if_neg hne]
      exact (hindex k s).mpr ⟨hs, hk⟩
    · rw [if_pos hk]

/-- The event as `append` stores it. -/
def store (event : EventEnvelope) : StoredEvent := ⟨ledger.events.length + 1, event⟩

/-- Store an event that passed the checks in every index. -/
def push (event : EventEnvelope) (h : ledger.Appendable event) : InMemoryOperationalLedger where
  dataSpaceId := ledger.dataSpaceId
  events := ledger.events ++ [ledger.store event]
  streams := ledger.streams.set event.streamId
    (ledger.streams.getD event.streamId [] ++ [ledger.store event])
  idempotency := ledger.idempotency.set event.idempotencyKey (ledger.store event)
  eventIds := ledger.eventIds.set event.eventId (ledger.store event)
  blobs := ledger.blobs
  cursors_contiguous := by
    rw [List.map_append, ledger.cursors_contiguous, List.length_append, List.length_singleton,
      List.range'_concat]
    simp [store, Nat.add_comm]
  streams_eq streamId := by
    rw [OrderedDict.getD_set, onStream_append]
    by_cases hs : event.streamId = streamId
    · rw [if_pos hs, if_pos (show (ledger.store event).event.streamId = streamId from hs),
        ← ledger.streams_eq, hs]
    · rw [if_neg hs, if_neg (show ¬ (ledger.store event).event.streamId = streamId from hs),
        List.append_nil, ledger.streams_eq]
  versions_contiguous streamId := by
    rw [onStream_append]
    by_cases hs : event.streamId = streamId
    · have hv : event.streamVersion = (onStream streamId ledger.events).length + 1 := by
        rw [h.next_version, hs, streamLength_eq]
      rw [if_pos (show (ledger.store event).event.streamId = streamId from hs), List.map_append,
        ledger.versions_contiguous, List.length_append, List.length_singleton,
        List.range'_concat]
      simp [store, hv, Nat.add_comm]
    · rw [if_neg (show ¬ (ledger.store event).event.streamId = streamId from hs),
        List.append_nil]
      exact ledger.versions_contiguous streamId
  idempotency_iff key stored :=
    get?_set_index (·.idempotencyKey) (ledger.store event) ledger.idempotency_iff h.fresh_key
      key stored
  eventIds_iff eventId stored :=
    get?_set_index (·.eventId) (ledger.store event) ledger.eventIds_iff h.fresh_id eventId stored
  data_space_eq stored hmem := by
    rcases List.mem_append.mp hmem with hold | hnew
    · exact ledger.data_space_eq stored hold
    · rw [List.mem_singleton.mp hnew]
      exact h.data_space

@[simp] theorem push_events (event : EventEnvelope) (h : ledger.Appendable event) :
    (ledger.push event h).events = ledger.events ++ [ledger.store event] := rfl

@[simp] theorem push_dataSpaceId (event : EventEnvelope) (h : ledger.Appendable event) :
    (ledger.push event h).dataSpaceId = ledger.dataSpaceId := rfl

theorem push_streamLength (event : EventEnvelope) (h : ledger.Appendable event)
    (streamId : String) :
    (ledger.push event h).streamLength streamId =
      ledger.streamLength streamId + if event.streamId = streamId then 1 else 0 := by
  rw [streamLength_eq, streamLength_eq, push_events, onStream_append, List.length_append]
  congr 1
  by_cases hs : event.streamId = streamId
  · rw [if_pos hs, if_pos (show (ledger.store event).event.streamId = streamId from hs)]
    rfl
  · rw [if_neg hs, if_neg (show ¬ (ledger.store event).event.streamId = streamId from hs)]
    rfl

/-! ### The protocol -/

/-- The receipt for an event that is already stored. -/
def duplicateResult (stored : StoredEvent) : AppendResult :=
  ⟨.duplicate, stored.cursor, stored.event.streamVersion⟩

/-- Store an event as the next one of its stream. -/
def append (event : EventEnvelope) (expectedStreamVersion : Nat) :
    Except VsmError (AppendResult × InMemoryOperationalLedger) :=
  if hds : event.dataSpaceId = ledger.dataSpaceId then
    match hkey : ledger.idempotency.get? event.idempotencyKey with
    | some duplicate =>
      if duplicate.event = event then .ok (duplicateResult duplicate, ledger)
      else .error (.invariantViolation s!"idempotency collision: {event.idempotencyKey}")
    | none =>
      match hid : ledger.eventIds.get? event.eventId with
      | some sameId =>
        if sameId.event = event then .ok (duplicateResult sameId, ledger)
        else .error (.invariantViolation s!"event id collision: {event.eventId}")
      | none =>
        let actual := ledger.streamLength event.streamId
        if actual = expectedStreamVersion then
          if hversion : event.streamVersion = actual + 1 then
            .ok (⟨.appended, ledger.events.length + 1, event.streamVersion⟩,
              ledger.push event ⟨hds, hkey, hid, hversion⟩)
          else
            .error (.invariantViolation
              s!"event stream version {event.streamVersion} does not follow {actual}")
        else .error (.streamConflict event.streamId expectedStreamVersion actual)
  else
    .error (.invariantViolation
      s!"event DataSpace {event.dataSpaceId} does not match {ledger.dataSpaceId}")

/-- The stored events after a cursor, at most `limit` of them. -/
def page (afterCursor limit : Nat) : Except VsmError (List StoredEvent) := do
  require (0 < limit) "cursor must be non-negative and limit positive"
  return (ledger.events.drop afterCursor).take limit

/-- The events of a stream after a version, at most `limit` of them. -/
def stream (streamId : String) (afterStreamVersion limit : Nat) :
    Except VsmError (List StoredEvent) := do
  require (0 < limit) "version must be non-negative and limit positive"
  return ((ledger.streams.getD streamId []).drop afterStreamVersion).take limit

/-- Store a blob under the reference made from its digest. -/
def putBlob [Sha256] (data : Document) : InMemoryOperationalLedger :=
  { ledger with blobs := ledger.blobs.set (blobRef data) data }

instance [Sha256] : OperationalLedger InMemoryOperationalLedger where
  append event expected := fun ledger =>
    match ledger.append event expected with
    | .ok (result, next) => .ok result next
    | .error e => .error e ledger
  page ledger := ledger.page
  stream ledger := ledger.stream
  putBlob data := fun ledger => .ok (blobRef data) (ledger.putBlob data)

/-! ### What an append can do -/

/-- An accepted append stored the event as the next one of its stream, or the very same event
was already stored and nothing changed. -/
theorem append_eq_ok {event : EventEnvelope} {expected : Nat} {result : AppendResult}
    {next : InMemoryOperationalLedger} (h : ledger.append event expected = .ok (result, next)) :
    (∃ happ : ledger.Appendable event, ledger.streamLength event.streamId = expected ∧
      result = ⟨.appended, ledger.events.length + 1, event.streamVersion⟩ ∧
      next = ledger.push event happ) ∨
    (∃ stored ∈ ledger.events, stored.event = event ∧ result = duplicateResult stored ∧
      next = ledger) := by
  unfold append at h
  split at h
  · next hds =>
    split at h
    · next stored hkey =>
      split at h
      · next heq =>
        obtain ⟨rfl, rfl⟩ := Prod.mk.inj (Except.ok.inj h)
        exact Or.inr ⟨stored, ((ledger.idempotency_iff _ _).mp hkey).1, heq, rfl, rfl⟩
      · exact nomatch h
    · next hkey =>
      split at h
      · next stored hid =>
        split at h
        · next heq =>
          obtain ⟨rfl, rfl⟩ := Prod.mk.inj (Except.ok.inj h)
          exact Or.inr ⟨stored, ((ledger.eventIds_iff _ _).mp hid).1, heq, rfl, rfl⟩
        · exact nomatch h
      · next hid =>
        simp only at h
        split at h
        · next hactual =>
          split at h
          · next hversion =>
            obtain ⟨rfl, rfl⟩ := Prod.mk.inj (Except.ok.inj h)
            exact Or.inl ⟨⟨hds, hkey, hid, hversion⟩, hactual, rfl, rfl⟩
          · exact nomatch h
        · exact nomatch h
  · exact nomatch h

/-- An event that passes the checks is stored. -/
theorem append_of_appendable {event : EventEnvelope} {expected : Nat}
    (happ : ledger.Appendable event) (hexpected : ledger.streamLength event.streamId = expected) :
    ledger.append event expected =
      .ok (⟨.appended, ledger.events.length + 1, event.streamVersion⟩, ledger.push event happ) := by
  unfold append
  rw [dif_pos happ.data_space]
  split
  · next hkey => exact nomatch happ.fresh_key.symm.trans hkey
  · split
    · next hid => exact nomatch happ.fresh_id.symm.trans hid
    · simp only
      rw [if_pos hexpected, dif_pos happ.next_version]

/-- An append runs into a stream conflict when the event is new and its stream is not where it is
expected. -/
theorem append_conflict_iff {event : EventEnvelope} {expected : Nat} :
    (∃ streamId known actual,
        ledger.append event expected = .error (.streamConflict streamId known actual)) ↔
      event.dataSpaceId = ledger.dataSpaceId ∧
        ledger.idempotency.get? event.idempotencyKey = none ∧
        ledger.eventIds.get? event.eventId = none ∧
        ledger.streamLength event.streamId ≠ expected := by
  constructor
  · rintro ⟨streamId, known, actual, h⟩
    unfold append at h
    split at h
    · next hspace =>
      split at h
      · split at h <;> cases h
      · next hkey =>
        split at h
        · split at h <;> cases h
        · next hid =>
          simp only at h
          split at h
          · split at h <;> cases h
          · next hactual => exact ⟨hspace, hkey, hid, hactual⟩
    · cases h
  · rintro ⟨hspace, hkey, hid, hactual⟩
    refine ⟨event.streamId, expected, ledger.streamLength event.streamId, ?_⟩
    unfold append
    rw [dif_pos hspace]
    split
    · next hknown => cases hkey.symm.trans hknown
    · split
      · next hknown => cases hid.symm.trans hknown
      · simp only
        rw [if_neg hactual]

theorem page_eq {limit : Nat} (hpos : 0 < limit) (afterCursor : Nat) :
    ledger.page afterCursor limit = .ok ((ledger.events.drop afterCursor).take limit) := by
  rw [page, Checked.check_bind_of hpos]
  rfl

/-- The last event of a stream stands at the stream's length. -/
theorem streamVersion_getLast? {streamId : String} {last : StoredEvent}
    (h : (onStream streamId ledger.events).getLast? = some last) :
    last.event.streamVersion = (onStream streamId ledger.events).length := by
  have hversions := congrArg List.getLast? (ledger.versions_contiguous streamId)
  rw [List.getLast?_map, h, List.getLast?_range', Option.map_some] at hversions
  split at hversions
  · cases hversions
  · have := Option.some.inj hversions
    omega

/-- The last event of the first page of a stream stands at the page's length. -/
theorem streamVersion_getLast?_take {streamId : String} {limit : Nat} {last : StoredEvent}
    (h : ((onStream streamId ledger.events).take limit).getLast? = some last) :
    last.event.streamVersion = min limit (onStream streamId ledger.events).length := by
  have hversions := congrArg (fun versions => (versions.take limit).getLast?)
    (ledger.versions_contiguous streamId)
  simp only [← List.map_take, List.getLast?_map, h, Option.map_some] at hversions
  rw [List.range'_eq_map_range, ← List.map_take, List.take_range, ← List.range'_eq_map_range,
    List.getLast?_range'] at hversions
  split at hversions
  · cases hversions
  · have := Option.some.inj hversions
    omega

/-- The version of a stored event lies within its stream. -/
theorem streamVersion_le {stored : StoredEvent} (h : stored ∈ ledger.events) :
    stored.event.streamVersion ≤ ledger.streamLength stored.event.streamId := by
  have hmem : stored ∈ onStream stored.event.streamId ledger.events :=
    List.mem_filter.mpr ⟨h, decide_eq_true rfl⟩
  have hversion := List.mem_map_of_mem (f := (·.event.streamVersion)) hmem
  rw [ledger.versions_contiguous, List.mem_range'_1] at hversion
  rw [streamLength_eq]
  omega

variable {ledger}

/-- An event that is stored already is found again. -/
theorem append_of_stored {stored : StoredEvent} (h : stored ∈ ledger.events) (expected : Nat) :
    ledger.append stored.event expected = .ok (duplicateResult stored, ledger) := by
  have hkey := (ledger.idempotency_iff _ stored).mpr ⟨h, rfl⟩
  unfold InMemoryOperationalLedger.append
  rw [dif_pos (ledger.data_space_eq stored h)]
  split
  · next found hfound =>
    obtain rfl := Option.some.inj (hkey.symm.trans hfound)
    exact if_pos rfl
  · next hnone => cases hkey.symm.trans hnone

/-- **An append goes through** exactly if the event is the next one of its stream under a new key
and identity, or is stored already. -/
theorem append_returns_iff {event : EventEnvelope} {expected : Nat} :
    (∃ answer, ledger.append event expected = .ok answer) ↔
      (ledger.Appendable event ∧ ledger.streamLength event.streamId = expected) ∨
        ∃ stored ∈ ledger.events, stored.event = event := by
  constructor
  · rintro ⟨⟨result, next⟩, h⟩
    rcases ledger.append_eq_ok h with ⟨happ, hexpected, -, -⟩ | ⟨stored, hstored, heq, -, -⟩
    · exact Or.inl ⟨happ, hexpected⟩
    · exact Or.inr ⟨stored, hstored, heq⟩
  · rintro (⟨happ, hexpected⟩ | ⟨stored, hstored, rfl⟩)
    · exact ⟨_, ledger.append_of_appendable happ hexpected⟩
    · exact ⟨_, append_of_stored hstored expected⟩

/-- Two ledgers with the same events take the same appends. -/
theorem append_of_same_events {other next : InMemoryOperationalLedger}
    (hevents : other.events = ledger.events) (hspace : other.dataSpaceId = ledger.dataSpaceId)
    {event : EventEnvelope} {expected : Nat} {result : AppendResult}
    (h : ledger.append event expected = .ok (result, next)) :
    ∃ next', other.append event expected = .ok (result, next') ∧ next'.events = next.events ∧
      next'.dataSpaceId = next.dataSpaceId := by
  rcases ledger.append_eq_ok h with ⟨happ, hlength, rfl, rfl⟩ | ⟨stored, hstored, rfl, rfl, rfl⟩
  · have hstream : other.streamLength event.streamId = ledger.streamLength event.streamId := by
      rw [streamLength_eq, streamLength_eq, hevents]
    have happ' : other.Appendable event := by
      refine ⟨happ.data_space.trans hspace.symm, ?_, ?_, hstream ▸ happ.next_version⟩
      · rw [Option.eq_none_iff_forall_ne_some]
        intro stored hstored
        obtain ⟨hmem, hkey⟩ := (other.idempotency_iff _ _).mp hstored
        cases happ.fresh_key.symm.trans
          ((ledger.idempotency_iff _ _).mpr ⟨hevents ▸ hmem, hkey⟩)
      · rw [Option.eq_none_iff_forall_ne_some]
        intro stored hstored
        obtain ⟨hmem, hid⟩ := (other.eventIds_iff _ _).mp hstored
        cases happ.fresh_id.symm.trans ((ledger.eventIds_iff _ _).mpr ⟨hevents ▸ hmem, hid⟩)
    have hok := other.append_of_appendable happ' (hstream.trans hlength)
    rw [hevents] at hok
    refine ⟨_, hok, ?_, hspace⟩
    rw [push_events, push_events, store, store, hevents]
  · exact ⟨other, append_of_stored (hevents ▸ hstored) expected, hevents, hspace⟩

end InMemoryOperationalLedger

end Nanihold
