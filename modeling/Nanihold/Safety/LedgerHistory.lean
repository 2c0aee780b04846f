import Nanihold.Kernel.Ledger
import Nanihold.Library.Paging
import Nanihold.Library.Runs
import Mathlib.Data.List.Nodup

/-!
# The history of the in-memory ledger

What every sequence of appends makes of an in-memory ledger, whether the appends return or raise:
events are numbered without gaps, in the ledger and on each stream, no key and no identity occurs
twice, what is stored stays where it is, and readers that go page by page read everything once.

## Main definitions

* `InMemoryOperationalLedger.run` — the ledger after a sequence of appends.
* `InMemoryOperationalLedger.readPages`, `InMemoryOperationalLedger.readStream` — a reader of the
  ledger and a reader of a stream.
* `InMemoryOperationalLedger.History` — the law.

## Main results

* `InMemoryOperationalLedger.history_run` — the law holds after every sequence of appends.
-/

namespace Nanihold

namespace InMemoryOperationalLedger

variable [Sha256] (ledger : InMemoryOperationalLedger)

/-- The ledger after one append, whether it returns or raises. -/
def appendStep (ledger : InMemoryOperationalLedger) (input : EventEnvelope × Nat) :
    InMemoryOperationalLedger :=
  (OperationalLedger.append input.1 input.2 :
    EStateM VsmError InMemoryOperationalLedger AppendResult).finalState ledger

/-- The ledger after a sequence of appends. -/
def run (inputs : List (EventEnvelope × Nat)) : InMemoryOperationalLedger :=
  Run.exec appendStep ledger inputs

/-- Read the ledger after a cursor page by page. The bound on the pages is never reached. -/
def readPages (limit afterCursor : Nat) : Except VsmError (Option (List StoredEvent)) :=
  Paging.readAll (ledger.page · limit) (·.cursor) (ledger.events.length + 1) afterCursor

/-- Read a stream after a version page by page. The bound on the pages is never reached. -/
def readStream (streamId : String) (limit afterStreamVersion : Nat) :
    Except VsmError (Option (List StoredEvent)) :=
  Paging.readAll (ledger.stream streamId · limit) (·.event.streamVersion)
    (ledger.streamLength streamId + 1) afterStreamVersion

/-- The law of a ledger's history. -/
structure History : Prop where
  cursors : ledger.events.map (·.cursor) = List.range' 1 ledger.events.length
  versions : ∀ streamId, (onStream streamId ledger.events).map (·.event.streamVersion) =
    List.range' 1 (onStream streamId ledger.events).length
  keys_distinct : (ledger.events.map (·.event.idempotencyKey)).Nodup
  identities_distinct : (ledger.events.map (·.event.eventId)).Nodup
  /-- No later sequence of appends changes a stored event. -/
  events_stay : ∀ inputs, ledger.events <+: (ledger.run inputs).events
  /-- An append that raises changes nothing. -/
  refused : ∀ event expected e next,
    OperationalLedger.append event expected ledger = .error e next → next = ledger
  /-- The pages after a cursor are the events after it. -/
  pages : ∀ limit, 0 < limit → ∀ afterCursor,
    ledger.readPages limit afterCursor = .ok (some (ledger.events.drop afterCursor))
  /-- The pages of a stream after a version are its events after it. -/
  stream_pages : ∀ streamId limit, 0 < limit → ∀ afterStreamVersion,
    ledger.readStream streamId limit afterStreamVersion =
      .ok (some ((onStream streamId ledger.events).drop afterStreamVersion))

/-! ### Distinct keys and identities -/

omit [Sha256] in
/-- Two events with the same entry of an index stand at the same cursor. -/
private theorem nodup_of_index {index : OrderedDict String StoredEvent}
    {key : EventEnvelope → String}
    (hindex : ∀ k stored, index.get? k = some stored ↔
      stored ∈ ledger.events ∧ key stored.event = k) :
    (ledger.events.map fun stored => key stored.event).Nodup := by
  have hnodup : ledger.events.Nodup := by
    refine List.Nodup.of_map (·.cursor) ?_
    rw [ledger.cursors_contiguous]
    exact List.nodup_range'
  refine List.Nodup.map_on (fun first hfirst second hsecond heq => ?_) hnodup
  have hget := (hindex (key second.event) first).mpr ⟨hfirst, heq⟩
  have hget' := (hindex (key second.event) second).mpr ⟨hsecond, rfl⟩
  exact Option.some.inj (hget.symm.trans hget')

/-! ### One append -/

/-- An append as a program: it answers, or it raises and leaves the ledger as it was. -/
theorem append_cases (event : EventEnvelope) (expected : Nat) :
    (∃ result next, ledger.append event expected = .ok (result, next) ∧
      OperationalLedger.append event expected ledger = .ok result next) ∨
    ∃ e, OperationalLedger.append event expected ledger = .error e ledger := by
  cases happend : ledger.append event expected with
  | ok answer =>
    exact Or.inl ⟨answer.1, answer.2, rfl, by simp only [OperationalLedger.append, happend]⟩
  | error e => exact Or.inr ⟨e, by simp only [OperationalLedger.append, happend]⟩

/-- An append that raises leaves the ledger as it was. -/
theorem append_refused {event : EventEnvelope} {expected : Nat} {e : VsmError}
    {next : InMemoryOperationalLedger}
    (h : OperationalLedger.append event expected ledger = .error e next) : next = ledger := by
  rcases ledger.append_cases event expected with ⟨result, other, -, hok⟩ | ⟨raised, herror⟩
  · cases hok.symm.trans h
  · exact (EStateM.Result.error.inj (herror.symm.trans h)).2.symm

/-- **One append** leaves the stored events where they are. -/
theorem prefix_appendStep (input : EventEnvelope × Nat) :
    ledger.events <+: (ledger.appendStep input).events := by
  unfold appendStep
  rcases ledger.append_cases input.1 input.2 with ⟨result, next, happend, hok⟩ | ⟨e, herror⟩
  · rw [EStateM.finalState_of_ok hok]
    rcases ledger.append_eq_ok happend with ⟨happ, -, -, rfl⟩ | ⟨-, -, -, -, rfl⟩
    · exact List.prefix_append _ _
    · exact List.prefix_refl _
  · rw [EStateM.finalState_of_error herror]

/-! ### The law -/

theorem prefix_run (inputs : List (EventEnvelope × Nat)) :
    ledger.events <+: (ledger.run inputs).events :=
  Run.exec_invariant (I := fun next : InMemoryOperationalLedger => ledger.events <+: next.events)
    (fun next input h => h.trans (next.prefix_appendStep input)) inputs (List.prefix_refl _)

/-- Every ledger obeys the law: its fields carry the proofs that its indexes agree. -/
theorem history : ledger.History where
  cursors := ledger.cursors_contiguous
  versions := ledger.versions_contiguous
  keys_distinct := ledger.nodup_of_index ledger.idempotency_iff
  identities_distinct := ledger.nodup_of_index ledger.eventIds_iff
  events_stay := ledger.prefix_run
  refused _ _ _ _ := ledger.append_refused
  pages limit hpos afterCursor :=
    Paging.readAll_eq hpos ledger.cursors_contiguous (ledger.page_eq hpos) _ _ (by omega)
  stream_pages streamId limit hpos afterStreamVersion := by
    refine Paging.readAll_eq hpos (ledger.versions_contiguous streamId) (fun after => ?_) _ _ ?_
    · rw [stream, Checked.check_bind_of hpos, ledger.streams_eq]
      rfl
    · rw [ledger.streamLength_eq]
      omega

/-- **The history of a ledger.** After every sequence of appends to an empty ledger, returning or
raising, the law holds. -/
theorem history_run (dataSpaceId : String) (inputs : List (EventEnvelope × Nat)) :
    ((InMemoryOperationalLedger.new dataSpaceId).run inputs).History :=
  history _

end InMemoryOperationalLedger

end Nanihold
