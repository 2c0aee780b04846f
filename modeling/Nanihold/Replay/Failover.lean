import Nanihold.Replay.Environment

/-!
# What a failover records

A failover of the environment instance lifecycle records three events, or two and a request to
the reprovisioner, and assigns to memory only after the last one. An event that the ledger
refuses ends it there, and what was recorded before stays.

## Main definitions

* `recordIn`, `Recording.AcceptedIn` — a recording of the lifecycle in one process.
* `AcceptedInTurn` — the ledger accepts recordings one after the other.
* `EnvironmentInstanceService.Keyed` — each instance stands under its own identity.

## Main results

* `recordIn_of_accepted`, `recordIn_of_not_accepted` — what one recording does.
* `failoverRecordings_cases` — the recordings of a failover that passes its checks.
* `finalState_failover` — a failover leaves what its recordings leave.
-/

namespace Nanihold

variable [Sha256] {process : Nat} {s : MemorySystem}

/-- `_record` of the lifecycle in one process. -/
def recordIn (process : Nat) (r : Recording EnvironmentInstanceService) :
    SystemM InMemoryOperationalLedger Unit :=
  letI := environmentService (L := InMemoryOperationalLedger) process
  do
    let _ ← record r

/-- The data model and the ledger accept the recording's event from this process. -/
def Recording.AcceptedIn (process : Nat) (r : Recording EnvironmentInstanceService)
    (s : MemorySystem) : Prop :=
  letI := environmentService (L := InMemoryOperationalLedger) process
  r.Accepted s

/-- The ledger accepts the recordings one after the other. -/
def AcceptedInTurn (process : Nat) :
    List (Recording EnvironmentInstanceService) → MemorySystem → Prop
  | [], _ => True
  | r :: rest, s => r.AcceptedIn process s ∧
      AcceptedInTurn process rest ((recordIn process r).finalState s)

namespace EnvironmentInstanceService

/-- The service after the ledger accepted its next event of a stream. -/
def advanced (e : EnvironmentInstanceService) (streamId : String) : EnvironmentInstanceService :=
  { e with versions := e.versions.set streamId (e.versions.getD streamId 0 + 1) }

omit [Sha256] in
@[simp] theorem advanced_instances (e : EnvironmentInstanceService) (streamId : String) :
    (e.advanced streamId).instances = e.instances := rfl

/-- Each instance stands under its own identity. -/
def Keyed (e : EnvironmentInstanceService) : Prop :=
  ∀ id known, e.instances.get? id = some known → known.instanceId = id

omit [Sha256] in
theorem Keyed.put {e : EnvironmentInstanceService} (h : Keyed e) (moved : EnvironmentInstance) :
    Keyed (put moved e) := by
  intro id known hknown
  rw [EnvironmentInstanceService.put, OrderedDict.get?_set] at hknown
  split at hknown
  · next heq =>
    obtain rfl := Option.some.inj hknown
    exact heq
  · exact h id known hknown

end EnvironmentInstanceService

open EnvironmentInstanceService

/-- **An accepted recording**: its event is the next one the process expects on the stream, and
its assignments run. -/
theorem recordIn_of_accepted {streamId key : String} {payload : EnvironmentPayload}
    {occurredAt : DateTime} {assign : EnvironmentInstanceService → EnvironmentInstanceService}
    (h : (recording streamId payload key occurredAt assign).AcceptedIn process s) :
    ∃ event result ledger,
      (recording streamId payload key occurredAt assign).envelope (s.environments process) =
        .ok event ∧
      event.streamId = streamId ∧ event.payload = .environment payload ∧
      event.idempotencyKey = key ∧
      event.streamVersion = (s.environments process).versions.getD streamId 0 + 1 ∧
      s.ledger.append event ((s.environments process).versions.getD streamId 0) =
        .ok (result, ledger) ∧
      recordIn process (recording streamId payload key occurredAt assign) s = .ok ()
        { s with
          ledger := ledger
          environments := Function.update s.environments process
            (assign ((s.environments process).advanced streamId)) } := by
  let : Service InMemoryOperationalLedger _ := environmentService process
  obtain ⟨event, ⟨result, ledger⟩, henvelope, happend⟩ := h
  have hdescribes := Recording.describes_of_envelope henvelope
  have hversion : result.streamVersion = event.streamVersion := by
    rcases s.ledger.append_eq_ok happend with ⟨-, -, rfl, -⟩ | ⟨stored, -, rfl, rfl, -⟩ <;> rfl
  have hnext := hdescribes.version
  refine ⟨event, result, ledger, henvelope, hdescribes.stream, hdescribes.payload, hdescribes.key,
    hnext, happend, ?_⟩
  have hrecord := record_of_appended henvelope happend
  let r := recording streamId payload key occurredAt assign
  have hupdate : r.update event result (EventWriter.advance (Component.read s) r.streamId result) =
      .ok () (assign ((s.environments process).advanced streamId)) := by
    change EStateM.Result.ok () (assign (EnvironmentInstanceService.mk _ _ _)) = _
    rw [hversion, hnext]
    rfl
  rw [hupdate] at hrecord
  rw [recordIn, EStateM.run_bind_of_ok hrecord]
  rfl

/-- A recording that is not accepted raises and changes nothing. -/
theorem recordIn_of_not_accepted {r : Recording EnvironmentInstanceService}
    (h : ¬ r.AcceptedIn process s) : ∃ e, recordIn process r s = .error e s := by
  let : Service InMemoryOperationalLedger _ := environmentService process
  rcases record_cases r s with ⟨e, herror⟩ | ⟨event, result, ledger, henvelope, happend, -⟩
  · exact ⟨e, EStateM.run_bind_of_error herror⟩
  · exact absurd ⟨event, (result, ledger), henvelope, happend⟩ h

/-- An operation that records one event leaves what its recording leaves. -/
theorem finalState_performEnvironment
    (plan : EnvironmentInstanceService → Except VsmError (Recording EnvironmentInstanceService))
    (s : MemorySystem) :
    (performEnvironment process plan).finalState s =
      match plan (s.environments process) with
      | .ok r => (recordIn process r).finalState s
      | .error _ => s := by
  let : Service InMemoryOperationalLedger _ := environmentService process
  rw [performEnvironment, EStateM.finalState_bind_pure, perform, EStateM.finalState_get_bind]
  cases plan (s.environments process) with
  | error e => rw [EStateM.finalState_ofExcept_error_bind]
  | ok r =>
    rw [EStateM.finalState_ofExcept_ok_bind, ← EStateM.finalState_bind_pure (record r) fun _ => ()]
    rfl

/-! ### The recordings of a failover -/

omit [Sha256] in
/-- **The recordings of a failover** that passes its checks: with a verified peer of the same
contract the switch, the retirement and the activation; else the retirement and the request. -/
theorem failoverRecordings_cases {e : EnvironmentInstanceService} {failedInstanceId key : String}
    {clock : Clock} {recordings : List (Recording EnvironmentInstanceService)} {reprovision : Bool}
    (h : e.failoverRecordings failedInstanceId key clock = .ok (recordings, reprovision)) :
    ∃ failed contractStream, e.instances.get? failedInstanceId = some failed ∧
      failed.state = .active ∧
      ((∃ replacement ∈ e.instances.values, replacement.state = .verified ∧
          replacement.instanceId ≠ failedInstanceId ∧ reprovision = false ∧
          recordings = [
            recording contractStream
              (.environmentInstanceFailedOver failed.environmentFingerprint failed.instanceId
                failed.instanceFingerprint replacement.instanceId replacement.instanceFingerprint)
              key (clock 0) id,
            recording failed.instanceId
              (.environmentInstanceRetired { failed with state := .retired })
              s!"{key}:retire" (clock 1) id,
            recording replacement.instanceId
              (.environmentInstanceActivated { replacement with state := .active })
              s!"{key}:activate" (clock 2)
              fun s => put { replacement with state := .active }
                (put { failed with state := .retired } s)]) ∨
        (reprovision = true ∧
          recordings = [
            recording failed.instanceId
              (.environmentInstanceRetired { failed with state := .retired })
              s!"{key}:retire" (clock 0) id,
            recording contractStream
              (.environmentInstanceReprovisionRequested failed.environmentFingerprint
                failed.instanceId failed.instanceFingerprint)
              key (clock 1) (put { failed with state := .retired })])) := by
  obtain ⟨failed, hfailed, h⟩ := Checked.bind_eq_ok_iff.mp h
  obtain ⟨hactive, h⟩ := Checked.check_bind_eq_ok_iff.mp h
  obtain ⟨verified, hverified, h⟩ := Checked.bind_eq_ok_iff.mp h
  obtain ⟨contractStream, -, h⟩ := Checked.bind_eq_ok_iff.mp h
  refine ⟨failed, contractStream, Checked.orRaise_eq_ok_iff.mp hfailed, hactive, ?_⟩
  obtain ⟨-, hvalues⟩ := Checked.check_bind_eq_ok_iff.mp hverified
  obtain rfl := Checked.pure_eq_ok_iff.mp hvalues
  simp only at h
  split at h
  · next replacement rest hpeers =>
    obtain ⟨rfl, rfl⟩ := Prod.mk.inj (Checked.pure_eq_ok_iff.mp h)
    have hmem := hpeers ▸ List.mem_cons_self (a := replacement) (l := rest)
    obtain ⟨hsorted, hne⟩ := List.mem_filter.mp hmem
    obtain ⟨hvalue, hpeer⟩ := List.mem_filter.mp (List.mem_mergeSort.mp hsorted)
    rw [Bool.and_eq_true, decide_eq_true_iff, decide_eq_true_iff] at hpeer
    exact Or.inl ⟨replacement, hvalue, hpeer.2, of_decide_eq_true hne, rfl, rfl⟩
  · obtain ⟨rfl, rfl⟩ := Prod.mk.inj (Checked.pure_eq_ok_iff.mp h)
    exact Or.inr ⟨rfl, rfl⟩

/-- The recordings of a failover, one after the other. -/
def recordAll (process : Nat) (recordings : List (Recording EnvironmentInstanceService)) :
    SystemM InMemoryOperationalLedger Unit :=
  recordings.forM (recordIn process)

theorem failover_of_refused {failedInstanceId key : String}
    {requestReprovision : Except VsmError Unit} {clock : Clock} {e : VsmError}
    (h : (s.environments process).failoverRecordings failedInstanceId key clock = .error e) :
    failover process failedInstanceId key requestReprovision clock s = .error e s := by
  rw [failover, EStateM.run_get_bind, h, EStateM.run_ofExcept_error_bind]

theorem failover_of_planned {failedInstanceId key : String}
    {requestReprovision : Except VsmError Unit} {clock : Clock}
    {recordings : List (Recording EnvironmentInstanceService)} {reprovision : Bool}
    (h : (s.environments process).failoverRecordings failedInstanceId key clock =
      .ok (recordings, reprovision)) :
    failover process failedInstanceId key requestReprovision clock s =
      (do
        recordAll process recordings
        if reprovision then EStateM.ofExcept requestReprovision :
          SystemM InMemoryOperationalLedger Unit) s := by
  rw [failover, EStateM.run_get_bind, h, EStateM.run_ofExcept_ok_bind]
  rfl

/-- The reprovisioner writes nothing, so a failover leaves what its recordings leave. -/
theorem finalState_failover {failedInstanceId key : String}
    {requestReprovision : Except VsmError Unit} {clock : Clock}
    {recordings : List (Recording EnvironmentInstanceService)} {reprovision : Bool}
    (h : (s.environments process).failoverRecordings failedInstanceId key clock =
      .ok (recordings, reprovision)) :
    (failover process failedInstanceId key requestReprovision clock).finalState s =
      (recordAll process recordings).finalState s := by
  rw [EStateM.finalState, failover_of_planned h]
  cases hall : recordAll process recordings s with
  | error e t => rw [EStateM.run_bind_of_error hall, EStateM.finalState_of_error hall]
  | ok _ t =>
    rw [EStateM.run_bind_of_ok hall, EStateM.finalState_of_ok hall]
    cases reprovision <;> cases requestReprovision <;> rfl

theorem finalState_recordAll_nil : (recordAll process []).finalState s = s := rfl

theorem finalState_recordAll_of_accepted {r : Recording EnvironmentInstanceService}
    {rest : List (Recording EnvironmentInstanceService)} {t : MemorySystem}
    (h : recordIn process r s = .ok () t) :
    (recordAll process (r :: rest)).finalState s = (recordAll process rest).finalState t := by
  change (recordIn process r >>= fun _ => recordAll process rest).finalState s = _
  rw [EStateM.finalState_bind_of_ok h]

theorem finalState_recordAll_of_not_accepted {r : Recording EnvironmentInstanceService}
    {rest : List (Recording EnvironmentInstanceService)} (h : ¬ r.AcceptedIn process s) :
    (recordAll process (r :: rest)).finalState s = s := by
  obtain ⟨e, herror⟩ := recordIn_of_not_accepted h
  change (recordIn process r >>= fun _ => recordAll process rest).finalState s = _
  rw [EStateM.finalState_bind_of_error herror]

end Nanihold
