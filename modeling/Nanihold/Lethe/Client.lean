import Nanihold.Kernel.Ledger

/-!
# LETHE's ledger

`vsm.lethe.client.LetheOperationalLedger`: the adapter through which a service reaches the
Operational Ledger in LETHE. The lake behind it is taken to answer as the in-memory ledger does;
the adapter asks for at most `max_page_size` events at once, however many its caller wants.

## Main definitions

* `LetheOperationalLedger` — the lake behind the adapter.
* `ObservedLedger` — a ledger that keeps what it is asked to append.

## Main results

* `LetheOperationalLedger.stream_eq` — what a read of a stream returns.
-/

namespace Nanihold

/-- The lake behind the adapter, with the adapter's bound on one read. -/
structure LetheOperationalLedger where
  lake : InMemoryOperationalLedger
  maxPageSize : Nat
  maxPageSize_pos : 0 < maxPageSize

namespace LetheOperationalLedger

variable (ledger : LetheOperationalLedger)

/-- `page`. -/
def page (afterCursor limit : Nat) : Except VsmError (List StoredEvent) :=
  ledger.lake.page afterCursor (min limit ledger.maxPageSize)

/-- `stream`. -/
def stream (streamId : String) (afterStreamVersion limit : Nat) :
    Except VsmError (List StoredEvent) :=
  ledger.lake.stream streamId afterStreamVersion (min limit ledger.maxPageSize)

instance [Sha256] : OperationalLedger LetheOperationalLedger where
  append event expected := fun ledger =>
    match ledger.lake.append event expected with
    | .ok (result, lake) => .ok result { ledger with lake := lake }
    | .error e => .error e ledger
  page ledger := ledger.page
  stream ledger := ledger.stream
  putBlob data := fun ledger =>
    .ok (blobRef data) { ledger with lake := ledger.lake.putBlob data }

/-- A read of a stream returns its first events, as many as are asked for and the adapter
allows. -/
theorem stream_eq (streamId : String) {limit : Nat} (hpos : 0 < limit) :
    ledger.stream streamId 0 limit =
      .ok ((onStream streamId ledger.lake.events).take (min limit ledger.maxPageSize)) := by
  have hbound : 0 < min limit ledger.maxPageSize := lt_min hpos ledger.maxPageSize_pos
  rw [stream, InMemoryOperationalLedger.stream, Checked.check_bind_of hbound,
    ledger.lake.streams_eq, List.drop_zero]
  rfl

end LetheOperationalLedger

/-! ### Observed ledgers -/

/-- What a ledger was asked to append, and the ledger before it answered. -/
structure AppendRequest (L : Type) where
  ledger : L
  event : EventEnvelope
  expectedStreamVersion : Nat

/-- A ledger that keeps what it is asked to append, in order, and answers as it would. -/
structure ObservedLedger (L : Type) where
  ledger : L
  requests : List (AppendRequest L)

namespace ObservedLedger

variable {L : Type} [OperationalLedger L]

instance : OperationalLedger (ObservedLedger L) where
  append event expected := fun observed =>
    let requests := observed.requests ++ [⟨observed.ledger, event, expected⟩]
    match OperationalLedger.append event expected observed.ledger with
    | .ok result ledger => .ok result ⟨ledger, requests⟩
    | .error e ledger => .error e ⟨ledger, requests⟩
  page observed := OperationalLedger.page observed.ledger
  stream observed := OperationalLedger.stream observed.ledger
  putBlob data := fun observed =>
    match OperationalLedger.putBlob data observed.ledger with
    | .ok ref ledger => .ok ref { observed with ledger := ledger }
    | .error e ledger => .error e { observed with ledger := ledger }

end ObservedLedger

end Nanihold
