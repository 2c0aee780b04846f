import Nanihold.EnvironmentInstance.Service
import Nanihold.Interface.State
import Nanihold.Kernel.Effects
import Nanihold.TokenLab.Service

/-!
# The system

The services of one data space over one ledger. A program of the system may append events
and raise; what it appended and assigned before it raised stays. `record` is the `_record` of
every service: it builds the envelope, appends it and updates the service in memory.

## Main definitions

* `System` — a ledger and the services that share it.
* `record`, `perform` — record one event; check, then record.
* `KernelCommand`, `ActivationCommand`, `OwnerAuthCommand`, `TokenLabCommand` — the public
  commands, with `KernelCommand.run` and its siblings as programs of the system.

## Main results

* `record_cases` — what a recording can do to the system.
-/

namespace Nanihold

/-- A ledger and the services that share it. The environment services are those of all
processes, told apart by a process number. -/
structure System (L : Type) where
  ledger : L
  kernel : Kernel
  interface : InterfaceService
  tokenLab : TokenLabEventService
  environments : Nat → EnvironmentInstanceService

/-- A program of the system. -/
abbrev SystemM (L α : Type) := EStateM VsmError (System L) α

/-- A service of the system: a component apart from the ledger that writes events. -/
class Service (L σ : Type) extends Component (System L) σ, EventWriter σ where
  read_ledger : ∀ (s : System L) (ledger : L), read { s with ledger := ledger } = read s
  write_ledger : ∀ (s : System L) (t : σ), (write s t).ledger = s.ledger

section Services

variable {L : Type}

instance : Service L Kernel where
  read s := s.kernel
  write s k := { s with kernel := k }
  read_write _ _ := rfl
  write_write _ _ _ := rfl
  read_ledger _ _ := rfl
  write_ledger _ _ := rfl

instance : Service L ActivationService where
  read s := s.kernel.activation
  write s a := { s with kernel := { s.kernel with activation := a } }
  read_write _ _ := rfl
  write_write _ _ _ := rfl
  read_ledger _ _ := rfl
  write_ledger _ _ := rfl

instance : Service L OwnerBootstrapService where
  read s := s.kernel.ownerBootstrap
  write s auth := { s with kernel := { s.kernel with ownerBootstrap := auth } }
  read_write _ _ := rfl
  write_write _ _ _ := rfl
  read_ledger _ _ := rfl
  write_ledger _ _ := rfl

instance : Service L InterfaceService where
  read s := s.interface
  write s i := { s with interface := i }
  read_write _ _ := rfl
  write_write _ _ _ := rfl
  read_ledger _ _ := rfl
  write_ledger _ _ := rfl

instance : Service L TokenLabEventService where
  read s := s.tokenLab
  write s t := { s with tokenLab := t }
  read_write _ _ := rfl
  write_write _ _ _ := rfl
  read_ledger _ _ := rfl
  write_ledger _ _ := rfl

/-- The environment service of one process. -/
@[reducible]
def environmentService (process : Nat) : Service L EnvironmentInstanceService where
  read s := s.environments process
  write s e := { s with environments := Function.update s.environments process e }
  read_write _ _ := Function.update_self _ _ _
  write_write s t u := by simp [Function.update_idem]
  read_ledger _ _ := rfl
  write_ledger _ _ := rfl

end Services

/-! ### Recording -/

section Record

variable [Sha256] {L : Type} [OperationalLedger L] {σ : Type} [Service L σ]

/-- Run a ledger operation. -/
def onLedger {α : Type} (x : EStateM VsmError L α) : SystemM L α := fun s =>
  match x s.ledger with
  | .ok a ledger => .ok a { s with ledger := ledger }
  | .error e ledger => .error e { s with ledger := ledger }

/-- `_record`, and the assignments after it. -/
def record (r : Recording σ) : SystemM L (EventEnvelope × AppendResult) := do
  let s ← get
  let service : σ := Component.read s
  let event ← EStateM.ofExcept (r.envelope service)
  let result ← onLedger (OperationalLedger.append event (EventWriter.version service r.streamId))
  EStateM.zoom (modify fun service : σ => EventWriter.advance service r.streamId result)
  EStateM.zoom (r.update event result)
  return (event, result)

/-- Check a command against the state, then record it. -/
def perform (plan : System L → Except VsmError (Recording σ)) :
    SystemM L (EventEnvelope × AppendResult) := do
  let s ← get
  let r ← EStateM.ofExcept (plan s)
  record r

end Record

/-! ### What a recording can do -/

section InMemory

variable [Sha256] {σ : Type} [Service InMemoryOperationalLedger σ]

/-- A recording whose event is accepted: the event is appended and the assignments run on the
advanced service. -/
theorem record_of_appended {r : Recording σ} {s : System InMemoryOperationalLedger}
    {event : EventEnvelope} {result : AppendResult} {ledger : InMemoryOperationalLedger}
    (henvelope : r.envelope (Component.read s : σ) = .ok event)
    (happend : s.ledger.append event (EventWriter.version (Component.read s : σ) r.streamId) =
      .ok (result, ledger)) :
    record r s =
      match r.update event result
        (EventWriter.advance (Component.read s) r.streamId result) with
      | .ok _ t => .ok (event, result) (Component.write { s with ledger := ledger } t)
      | .error e t => .error e (Component.write { s with ledger := ledger } t) := by
  simp only [record, EStateM.run_bind_eq, EStateM.run_get_eq, henvelope,
    EStateM.run_ofExcept_ok, onLedger, OperationalLedger.append, happend, EStateM.zoom,
    EStateM.run_modify_eq, Service.read_ledger, Component.read_write]
  cases r.update event result (EventWriter.advance (Component.read s) r.streamId result) <;>
    simp only [Component.write_write, EStateM.run_pure_eq]

/-- A recording that the data model refuses. -/
theorem record_of_invalid {r : Recording σ} {s : System InMemoryOperationalLedger} {e : VsmError}
    (henvelope : r.envelope (Component.read s : σ) = .error e) : record r s = .error e s := by
  simp only [record, EStateM.run_bind_eq, EStateM.run_get_eq, henvelope,
    EStateM.run_ofExcept_error]

/-- A recording whose event the ledger refuses. -/
theorem record_of_refused {r : Recording σ} {s : System InMemoryOperationalLedger}
    {event : EventEnvelope} {e : VsmError}
    (henvelope : r.envelope (Component.read s : σ) = .ok event)
    (happend : s.ledger.append event (EventWriter.version (Component.read s : σ) r.streamId) =
      .error e) : record r s = .error e s := by
  simp only [record, EStateM.run_bind_eq, EStateM.run_get_eq, henvelope,
    EStateM.run_ofExcept_ok, onLedger, OperationalLedger.append, happend]

/-- **A recording** is refused before anything is written, or its event is appended and its
assignments run on the advanced service. -/
theorem record_cases (r : Recording σ) (s : System InMemoryOperationalLedger) :
    (∃ e, record r s = .error e s) ∨
    ∃ event result ledger, r.envelope (Component.read s) = .ok event ∧
      s.ledger.append event (EventWriter.version (Component.read s : σ) r.streamId) =
        .ok (result, ledger) ∧
      record r s =
        match r.update event result
          (EventWriter.advance (Component.read s) r.streamId result) with
        | .ok _ t => .ok (event, result) (Component.write { s with ledger := ledger } t)
        | .error e t => .error e (Component.write { s with ledger := ledger } t) := by
  cases henv : r.envelope (Component.read s : σ) with
  | error e => exact Or.inl ⟨e, record_of_invalid henv⟩
  | ok event =>
    cases happ : s.ledger.append event (EventWriter.version (Component.read s : σ) r.streamId) with
    | error e => exact Or.inl ⟨e, record_of_refused henv happ⟩
    | ok answer =>
      obtain ⟨result, ledger⟩ := answer
      exact Or.inr ⟨event, result, ledger, rfl, happ, record_of_appended henv happ⟩

theorem perform_of_ok {plan : System InMemoryOperationalLedger → Except VsmError (Recording σ)}
    {s : System InMemoryOperationalLedger} {r : Recording σ} (h : plan s = .ok r) :
    perform plan s = record r s := by
  rw [perform, EStateM.run_get_bind, h, EStateM.run_ofExcept_ok_bind]

theorem perform_of_error
    {plan : System InMemoryOperationalLedger → Except VsmError (Recording σ)}
    {s : System InMemoryOperationalLedger} {e : VsmError} (h : plan s = .error e) :
    perform plan s = .error e s := by
  rw [perform, EStateM.run_get_bind, h, EStateM.run_ofExcept_error_bind]

/-- The data model and the ledger accept the recording's event in this state. -/
def Recording.Accepted (r : Recording σ) (s : System InMemoryOperationalLedger) : Prop :=
  ∃ event answer, r.envelope (Component.read s : σ) = .ok event ∧
    s.ledger.append event (EventWriter.version (Component.read s : σ) r.streamId) = .ok answer

/-- A command whose checks pass, whose event is accepted and whose assignments return, returns. -/
theorem perform_returns (plan : System InMemoryOperationalLedger → Except VsmError (Recording σ))
    {s : System InMemoryOperationalLedger} {r : Recording σ} (hplan : plan s = .ok r)
    (haccepted : r.Accepted s)
    (hupdate : ∀ event result service, ∃ next, r.update event result service = .ok () next) :
    ∃ answer s', perform plan s = .ok answer s' := by
  obtain ⟨event, ⟨result, ledger⟩, henvelope, happend⟩ := haccepted
  obtain ⟨next, hnext⟩ := hupdate event result
    (EventWriter.advance (Component.read s) r.streamId result)
  have hrecord := record_of_appended henvelope happend
  rw [hnext] at hrecord
  exact ⟨_, _, (perform_of_ok hplan).trans hrecord⟩

/-- A recording that is not accepted changes nothing. -/
theorem finalState_record_of_not_accepted {r : Recording σ}
    {s : System InMemoryOperationalLedger} (h : ¬ r.Accepted s) :
    (record r).finalState s = s := by
  rcases record_cases r s with ⟨e, herror⟩ | ⟨event, result, ledger, henvelope, happend, -⟩
  · exact EStateM.finalState_of_error herror
  · exact absurd ⟨event, (result, ledger), henvelope, happend⟩ h

/-- A command whose recording is refused or not accepted changes nothing. -/
theorem finalState_perform_of_not_accepted
    {plan : System InMemoryOperationalLedger → Except VsmError (Recording σ)}
    {s : System InMemoryOperationalLedger} (h : ∀ r, plan s = .ok r → ¬ r.Accepted s) :
    (perform plan).finalState s = s := by
  rw [perform, EStateM.finalState_get_bind]
  cases hplan : plan s with
  | error e => rfl
  | ok r => exact finalState_record_of_not_accepted (h r hplan)

end InMemory

end Nanihold
