import Nanihold.Safety.Lifecycle

/-!
# A failover that raises

A failover may raise at any of its appends, or after them when there is no reprovisioner or it
raises. What it has recorded by then stays in the ledger and its stream versions have moved on,
so a second call under the same idempotency key describes other events and collides with the
recorded ones, or finds the failed instance retired. A failover that raises is harmless exactly
when it has written nothing.

## Main definitions

* `failoverUnder` — a failover during an outage of the ledger.
* `FailoverAtomic` — a failover that raises left everything unchanged, or the second call
  completes it.
* `FailsCleanly` — nothing raises, or the first event that is not in the ledger yet does.

## Main results

* `recordAllUnder_of_not_goesThrough` — what a failover leaves that does not reach its last event.
* `not_acceptedIn_of_superseded` — a recording under a key that an older event has is refused.
* `failoverAtomic_iff_failsCleanly` — when a failover is atomic.
* `missing_reprovisioner_breaks_failoverAtomic` — the instance is retired and nothing replaces it.
-/

namespace Nanihold

open EnvironmentInstanceService

variable [Sha256] {process : Nat} {s : MemorySystem}

/-- The recordings from number `i` on, while the append of number `n` raises `outage n`: such an
append writes nothing. -/
def recordAllUnder (process : Nat) (outage : Nat → Option VsmError) :
    Nat → List (Recording EnvironmentInstanceService) → SystemM InMemoryOperationalLedger Unit
  | _, [] => pure ()
  | i, r :: rest =>
    match outage i with
    | some e => throw e
    | none => do
      recordIn process r
      recordAllUnder process outage (i + 1) rest

/-- `failover` during an outage of the ledger. -/
def failoverUnder (outage : Nat → Option VsmError) (process : Nat)
    (failedInstanceId idempotencyKey : String) (requestReprovision : Except VsmError Unit)
    (clock : Clock) : SystemM InMemoryOperationalLedger Unit := do
  let s ← get
  let (recordings, reprovision) ← EStateM.ofExcept
    ((s.environments process).failoverRecordings failedInstanceId idempotencyKey clock)
  recordAllUnder process outage 0 recordings
  if reprovision then
    EStateM.ofExcept requestReprovision

theorem recordAllUnder_none (process : Nat) :
    ∀ (i : Nat) (recordings : List (Recording EnvironmentInstanceService)),
      recordAllUnder process (fun _ => none) i recordings = recordAll process recordings
  | _, [] => rfl
  | i, r :: rest => by
    rw [recordAllUnder]
    simp only [recordAllUnder_none process (i + 1) rest]
    rfl

/-- Without an outage it is the failover. -/
theorem failoverUnder_none (process : Nat) (failedInstanceId key : String)
    (requestReprovision : Except VsmError Unit) (clock : Clock) :
    failoverUnder (fun _ => none) process failedInstanceId key requestReprovision clock =
      failover process failedInstanceId key requestReprovision clock := by
  unfold failoverUnder
  simp only [recordAllUnder_none]
  rfl

/-! ### The property -/

/-- The second call under the same key, without an outage and with a reprovisioner that answers,
completes the failover: each of the recordings is in the ledger exactly once. -/
def ReissueCompletes (process : Nat) (failedInstanceId key : String) (clock : Clock)
    (recordings : List (Recording EnvironmentInstanceService)) (s : MemorySystem) : Prop :=
  ∃ t, failover process failedInstanceId key (.ok ()) clock s = .ok () t ∧
    ∀ r ∈ recordings, ∃! stored, stored ∈ t.ledger.events ∧
      stored.event.idempotencyKey = r.idempotencyKey ∧ stored.event.payload = r.payload

/-- **Failover atomicity**: when the failover raises, the instances in memory and the ledger are
unchanged, or the second call completes it. -/
def FailoverAtomic (s : MemorySystem) (process : Nat) (failedInstanceId key : String)
    (outage : Nat → Option VsmError) (requestReprovision : Except VsmError Unit)
    (clock reissueClock : Clock) : Prop :=
  ∀ e t, failoverUnder outage process failedInstanceId key requestReprovision clock s =
      .error e t →
    (t.ledger = s.ledger ∧
      (t.environments process).instances = (s.environments process).instances) ∨
    ∃ recordings reprovision,
      (s.environments process).failoverRecordings failedInstanceId key clock =
        .ok (recordings, reprovision) ∧
      ReissueCompletes process failedInstanceId key reissueClock recordings t

/-! ### Where a failover stops -/

/-- Every recording from number `i` on is accepted, one after the other. -/
def GoesThrough (process : Nat) (outage : Nat → Option VsmError) :
    Nat → List (Recording EnvironmentInstanceService) → MemorySystem → Prop
  | _, [], _ => True
  | i, r :: rest, s => outage i = none ∧ r.AcceptedIn process s ∧
      GoesThrough process outage (i + 1) rest ((recordIn process r).finalState s)

/-- The event that the recording describes is in the ledger already. -/
def Recording.StoredIn (process : Nat) (r : Recording EnvironmentInstanceService)
    (s : MemorySystem) : Prop :=
  ∃ event, r.envelope (s.environments process) = .ok event ∧
    ∃ stored ∈ s.ledger.events, stored.event = event

/-- From number `i` on, the events are in the ledger already up to one that is not accepted. -/
def StopsUnwritten (process : Nat) (outage : Nat → Option VsmError) :
    Nat → List (Recording EnvironmentInstanceService) → MemorySystem → Prop
  | _, [], _ => False
  | i, r :: rest, s => (outage i ≠ none ∨ ¬ r.AcceptedIn process s) ∨
      (r.StoredIn process s ∧
        StopsUnwritten process outage (i + 1) rest ((recordIn process r).finalState s))

/-- The failover is refused by its checks, or nothing raises, or the first append that raises
comes before anything is written. -/
def FailsCleanly (s : MemorySystem) (process : Nat) (failedInstanceId key : String)
    (outage : Nat → Option VsmError) (requestReprovision : Except VsmError Unit)
    (clock : Clock) : Prop :=
  ∀ recordings reprovision,
    (s.environments process).failoverRecordings failedInstanceId key clock =
      .ok (recordings, reprovision) →
    (GoesThrough process outage 0 recordings s ∧
      (reprovision = true → requestReprovision = .ok ())) ∨
    StopsUnwritten process outage 0 recordings s

/-- Only the last recording assigns to memory, and it leaves the stream versions alone. -/
inductive AssignsLast (assign : EnvironmentInstanceService → EnvironmentInstanceService) :
    List (Recording EnvironmentInstanceService) → Prop
  | last {streamId payload key occurredAt} (versions : ∀ e, (assign e).versions = e.versions) :
      AssignsLast assign [recording streamId payload key occurredAt assign]
  | cons {streamId payload key occurredAt rest} (rest_assigns : AssignsLast assign rest) :
      AssignsLast assign (recording streamId payload key occurredAt id :: rest)

omit [Sha256] in
/-- A failover assigns to memory with its last recording; without a verified peer it retires the
failed instance. -/
theorem assignsLast_of_planned {e : EnvironmentInstanceService} {failedInstanceId key : String}
    {clock : Clock} {recordings : List (Recording EnvironmentInstanceService)} {reprovision : Bool}
    (h : e.failoverRecordings failedInstanceId key clock = .ok (recordings, reprovision)) :
    ∃ failed assign, e.instances.get? failedInstanceId = some failed ∧ failed.state = .active ∧
      AssignsLast assign recordings ∧
      (reprovision = true → assign = put { failed with state := .retired }) := by
  obtain ⟨failed, contractStream, hget, hactive, hcases⟩ := failoverRecordings_cases h
  rcases hcases with ⟨replacement, -, -, -, rfl, rfl⟩ | ⟨-, rfl⟩
  · refine ⟨failed, _, hget, hactive, .cons (.cons (.last fun _ => rfl)), fun hfalse => ?_⟩
    cases hfalse
  · exact ⟨failed, _, hget, hactive, .cons (.last fun _ => rfl), fun _ => rfl⟩

/-! ### What one recording leaves -/

/-- **An accepted recording** leaves its event in the ledger at the version the process then
knows. The ledger is unchanged when the event was stored before, and has grown otherwise. -/
theorem recordIn_effect {streamId key : String} {payload : EnvironmentPayload}
    {occurredAt : DateTime} {assign : EnvironmentInstanceService → EnvironmentInstanceService}
    (h : (recording streamId payload key occurredAt assign).AcceptedIn process s) :
    ∃ t, recordIn process (recording streamId payload key occurredAt assign) s = .ok () t ∧
      t.environments process = assign ((s.environments process).advanced streamId) ∧
      s.ledger.events <+: t.ledger.events ∧
      (((recording streamId payload key occurredAt assign).StoredIn process s ∧
          t.ledger = s.ledger) ∨
        (¬ (recording streamId payload key occurredAt assign).StoredIn process s ∧
          s.ledger.events.length < t.ledger.events.length)) ∧
      ∃ stored ∈ t.ledger.events, stored.event.idempotencyKey = key ∧
        stored.event.streamVersion = (s.environments process).versions.getD streamId 0 + 1 := by
  obtain ⟨event, result, ledger, henvelope, -, -, hkey, hversion, happend, hrun⟩ :=
    recordIn_of_accepted h
  refine ⟨_, hrun, Function.update_self _ _ _, ?_⟩
  change s.ledger.events <+: ledger.events ∧
    (_ ∧ ledger = s.ledger ∨ _ ∧ _ < ledger.events.length) ∧ ∃ stored ∈ ledger.events, _
  rcases s.ledger.append_eq_ok happend with ⟨happ, -, -, rfl⟩ | ⟨stored, hstored, heq, -, rfl⟩
  · refine ⟨List.prefix_append _ _, Or.inr ⟨?_, by simp⟩, s.ledger.store event,
      List.mem_append_right _ (List.mem_singleton.mpr rfl), hkey, hversion⟩
    rintro ⟨known, hknown, stored, hstored, rfl⟩
    obtain rfl := Except.ok.inj (hknown.symm.trans henvelope)
    have hfresh := happ.fresh_key
    rw [(s.ledger.idempotency_iff _ _).mpr ⟨hstored, rfl⟩] at hfresh
    cases hfresh
  · exact ⟨List.prefix_rfl, Or.inl ⟨⟨event, henvelope, stored, hstored, heq⟩, rfl⟩, stored, hstored,
      heq ▸ hkey, heq ▸ hversion⟩

/-- The ledger has an event under the recording's key that is no newer than what the process
knows of the stream. -/
def Recording.SupersededIn (process : Nat) (r : Recording EnvironmentInstanceService)
    (s : MemorySystem) : Prop :=
  ∃ stored ∈ s.ledger.events, stored.event.idempotencyKey = r.idempotencyKey ∧
    stored.event.streamVersion ≤ (s.environments process).versions.getD r.streamId 0

/-- **A collision**: the recording would describe a newer event under the same key. -/
theorem not_acceptedIn_of_superseded {r : Recording EnvironmentInstanceService}
    (h : r.SupersededIn process s) : ¬ r.AcceptedIn process s := by
  rintro ⟨event, ⟨result, ledger⟩, henvelope, happend⟩
  obtain ⟨stored, hstored, hkey, hversion⟩ := h
  have hdescribes := Recording.describes_of_envelope henvelope
  have hnext : event.streamVersion = (s.environments process).versions.getD r.streamId 0 + 1 :=
    hdescribes.version
  have hindex := (s.ledger.idempotency_iff event.idempotencyKey stored).mpr
    ⟨hstored, hkey.trans hdescribes.key.symm⟩
  rcases s.ledger.append_eq_ok happend with ⟨happ, -, -, -⟩ | ⟨found, hfound, rfl, -, -⟩
  · cases happ.fresh_key.symm.trans hindex
  · have hsame := (s.ledger.idempotency_iff found.event.idempotencyKey found).mpr ⟨hfound, rfl⟩
    obtain rfl := Option.some.inj (hsame.symm.trans hindex)
    omega

/-! ### What a failover leaves -/

variable {outage : Nat → Option VsmError}

theorem recordAllUnder_cons_of_outage {i : Nat} {e : VsmError}
    {r : Recording EnvironmentInstanceService} {rest : List (Recording EnvironmentInstanceService)}
    (h : outage i = some e) : recordAllUnder process outage i (r :: rest) s = .error e s := by
  rw [recordAllUnder, h]
  rfl

theorem recordAllUnder_cons_of_ok {i : Nat} {r : Recording EnvironmentInstanceService}
    {rest : List (Recording EnvironmentInstanceService)} {t : MemorySystem}
    (h : outage i = none) (hrun : recordIn process r s = .ok () t) :
    recordAllUnder process outage i (r :: rest) s =
      recordAllUnder process outage (i + 1) rest t := by
  rw [recordAllUnder, h]
  exact EStateM.run_bind_of_ok hrun

theorem recordAllUnder_cons_of_not_accepted {i : Nat} {r : Recording EnvironmentInstanceService}
    {rest : List (Recording EnvironmentInstanceService)} (h : outage i = none)
    (hrefused : ¬ r.AcceptedIn process s) :
    ∃ e, recordAllUnder process outage i (r :: rest) s = .error e s := by
  obtain ⟨e, herror⟩ := recordIn_of_not_accepted hrefused
  rw [recordAllUnder, h]
  exact ⟨e, EStateM.run_bind_of_error herror⟩

/-- A failover whose recordings all go through assigns to memory what they end with. -/
theorem recordAllUnder_of_goesThrough
    {assign : EnvironmentInstanceService → EnvironmentInstanceService}
    {recordings : List (Recording EnvironmentInstanceService)}
    (hassigns : AssignsLast assign recordings) :
    ∀ {i : Nat} {s : MemorySystem}, GoesThrough process outage i recordings s →
      ∃ t e, recordAllUnder process outage i recordings s = .ok () t ∧
        e.instances = (s.environments process).instances ∧ t.environments process = assign e := by
  induction hassigns with
  | last hversions =>
    rintro i s ⟨houtage, haccepted, -⟩
    obtain ⟨t, hrun, henvironment, -⟩ := recordIn_effect haccepted
    exact ⟨t, (s.environments process).advanced _, recordAllUnder_cons_of_ok houtage hrun, rfl,
      henvironment⟩
  | cons _ ih =>
    rintro i s ⟨houtage, haccepted, hrest⟩
    obtain ⟨t, hrun, henvironment, -⟩ := recordIn_effect haccepted
    rw [EStateM.finalState_of_ok hrun] at hrest
    obtain ⟨t', e, hrun', hinstances, henvironment'⟩ := ih hrest
    refine ⟨t', e, (recordAllUnder_cons_of_ok houtage hrun).trans hrun', ?_, henvironment'⟩
    rw [hinstances, henvironment]
    rfl

/-- What a failover leaves that did not reach its last event: the instances in memory, and the
ledger if nothing was written before the stop, else a longer one in which its first event is
superseded. -/
structure StoppedAt (process : Nat) (outage : Nat → Option VsmError) (i : Nat)
    (recordings : List (Recording EnvironmentInstanceService)) (s t : MemorySystem) : Prop where
  instances : (t.environments process).instances = (s.environments process).instances
  versions : ∀ streamId, (s.environments process).versions.getD streamId 0 ≤
    (t.environments process).versions.getD streamId 0
  grown : s.ledger.events <+: t.ledger.events
  unwritten : StopsUnwritten process outage i recordings s → t.ledger = s.ledger
  written : ¬ StopsUnwritten process outage i recordings s →
    s.ledger.events.length < t.ledger.events.length ∧
      ∃ first rest, recordings = first :: rest ∧ first.SupersededIn process t

theorem stoppedAt_self {i : Nat} {r : Recording EnvironmentInstanceService}
    {rest : List (Recording EnvironmentInstanceService)}
    (h : outage i ≠ none ∨ ¬ r.AcceptedIn process s) :
    StoppedAt process outage i (r :: rest) s s where
  instances := rfl
  versions _ := le_rfl
  grown := List.prefix_rfl
  unwritten _ := rfl
  written hnot := absurd (Or.inl h) hnot

/-- **A failover that stops** at an event that is not accepted. -/
theorem recordAllUnder_of_not_goesThrough
    {assign : EnvironmentInstanceService → EnvironmentInstanceService}
    {recordings : List (Recording EnvironmentInstanceService)}
    (hassigns : AssignsLast assign recordings) :
    ∀ {i : Nat} {s : MemorySystem}, ¬ GoesThrough process outage i recordings s →
      ∃ e t, recordAllUnder process outage i recordings s = .error e t ∧
        StoppedAt process outage i recordings s t := by
  induction hassigns with
  | @last streamId payload key occurredAt _ =>
    intro i s hstops
    cases houtage : outage i with
    | some e =>
      exact ⟨e, s, recordAllUnder_cons_of_outage houtage,
        stoppedAt_self (Or.inl (by rw [houtage]; exact Option.some_ne_none e))⟩
    | none =>
      have hrefused := fun haccepted => hstops ⟨houtage, haccepted, trivial⟩
      obtain ⟨e, herror⟩ := recordAllUnder_cons_of_not_accepted houtage hrefused
      exact ⟨e, s, herror, stoppedAt_self (Or.inr hrefused)⟩
  | @cons streamId payload key occurredAt rest _ ih =>
    intro i s hstops
    cases houtage : outage i with
    | some e =>
      exact ⟨e, s, recordAllUnder_cons_of_outage houtage,
        stoppedAt_self (Or.inl (by rw [houtage]; exact Option.some_ne_none e))⟩
    | none =>
      by_cases haccepted :
          (recording streamId payload key occurredAt id).AcceptedIn process s
      swap
      · obtain ⟨e, herror⟩ := recordAllUnder_cons_of_not_accepted houtage haccepted
        exact ⟨e, s, herror, stoppedAt_self (Or.inr haccepted)⟩
      obtain ⟨t, hrun, henvironment, hgrown, hstored, stored, hmem, hkey, hversion⟩ :=
        recordIn_effect haccepted
      have hrest : ¬ GoesThrough process outage (i + 1) rest t := fun hgoes =>
        hstops ⟨houtage, haccepted, (EStateM.finalState_of_ok hrun).symm ▸ hgoes⟩
      obtain ⟨e, t', herror, hstopped⟩ := ih hrest
      refine ⟨e, t', (recordAllUnder_cons_of_ok houtage hrun).trans herror, ?_⟩
      have hadvanced : (t.environments process).versions =
          (s.environments process).versions.set streamId
            ((s.environments process).versions.getD streamId 0 + 1) := by
        rw [henvironment]
        rfl
      constructor
      · rw [hstopped.instances, henvironment]
        rfl
      · intro known
        refine le_trans ?_ (hstopped.versions known)
        rw [hadvanced]
        exact OrderedDict.getD_le_getD_set
          (Nat.le_succ ((s.environments process).versions.getD streamId 0)) known
      · exact hgrown.trans hstopped.grown
      · rintro (hself | ⟨hknown, hunwritten⟩)
        · exact absurd haccepted (hself.resolve_left (not_not.mpr houtage))
        · rw [EStateM.finalState_of_ok hrun] at hunwritten
          rcases hstored with ⟨-, hledger⟩ | ⟨hnot, -⟩
          · rw [hstopped.unwritten hunwritten, hledger]
          · exact absurd hknown hnot
      · intro hnot
        constructor
        · rcases hstored with ⟨hknown, hledger⟩ | ⟨-, hlt⟩
          · rw [← hledger]
            refine (hstopped.written fun hunwritten => hnot (Or.inr ⟨hknown, ?_⟩)).1
            rwa [EStateM.finalState_of_ok hrun]
          · exact hlt.trans_le hstopped.grown.length_le
        · refine ⟨_, rest, rfl, stored, hstopped.grown.subset hmem, hkey, ?_⟩
          have hle := hstopped.versions streamId
          rw [hadvanced, OrderedDict.getD_set_self] at hle
          rw [hversion]
          exact hle

/-! ### The instances of every reachable state -/

/-- What the assignments of the lifecycle keep of a service. -/
structure KeptByAssignments (P : EnvironmentInstanceService → Prop) : Prop where
  keyed : ∀ e, P e → Keyed e
  put : ∀ e moved, P e → P (EnvironmentInstanceService.put moved e)
  versions : ∀ e versions, P e → P { e with versions := versions }

section Assignments

variable {P : EnvironmentInstanceService → Prop} (hP : KeptByAssignments P)

include hP in
theorem forall_recordIn (h : ∀ p, P (s.environments p)) {streamId key : String}
    {payload : EnvironmentPayload} {occurredAt : DateTime}
    {assign : EnvironmentInstanceService → EnvironmentInstanceService}
    (hassign : ∀ e, P e → P (assign e)) (p : Nat) :
    P (((recordIn process
      (recording streamId payload key occurredAt assign)).finalState s).environments p) := by
  by_cases haccepted : (recording streamId payload key occurredAt assign).AcceptedIn process s
  · obtain ⟨_, _, _, -, -, -, -, -, -, hrun⟩ := recordIn_of_accepted haccepted
    rw [EStateM.finalState_of_ok hrun]
    change P (Function.update s.environments process _ p)
    by_cases hp : p = process
    · rw [hp, Function.update_self]
      exact hassign _ (hP.versions _ _ (h process))
    · rw [Function.update_of_ne hp]
      exact h p
  · obtain ⟨e, herror⟩ := recordIn_of_not_accepted haccepted
    rw [EStateM.finalState_of_error herror]
    exact h p

include hP in
theorem forall_performEnvironment (h : ∀ p, P (s.environments p))
    {plan : EnvironmentInstanceService → Except VsmError (Recording EnvironmentInstanceService)}
    (hplan : ∀ r, plan (s.environments process) = .ok r →
      RecordsMove (s.environments process) r) (p : Nat) :
    P (((performEnvironment process plan).finalState s).environments p) := by
  rw [finalState_performEnvironment]
  cases hr : plan (s.environments process) with
  | error e => exact h p
  | ok r =>
    obtain ⟨moved, payload, key, occurredAt, rfl, -, -⟩ := hplan r hr
    exact forall_recordIn hP h (fun e he => hP.put e moved he) p

include hP in
theorem forall_failover (h : ∀ p, P (s.environments p)) (failedInstanceId key : String)
    (requestReprovision : Except VsmError Unit) (clock : Clock) (p : Nat) :
    P (((failover process failedInstanceId key requestReprovision clock).finalState
      s).environments p) := by
  have hrecord {streamId key : String} {payload : EnvironmentPayload} {occurredAt : DateTime}
      {assign : EnvironmentInstanceService → EnvironmentInstanceService}
      (hassign : ∀ e, P e → P (assign e)) :
      EStateM.Preserves (fun s : MemorySystem => ∀ p, P (s.environments p))
        (recordIn process (recording streamId payload key occurredAt assign)) :=
    .of_final fun _ hs => forall_recordIn hP hs hassign
  cases hplan : (s.environments process).failoverRecordings failedInstanceId key clock with
  | error e =>
    rw [EStateM.finalState_of_error (failover_of_refused hplan)]
    exact h p
  | ok plan =>
    obtain ⟨recordings, reprovision⟩ := plan
    rw [finalState_failover hplan]
    refine EStateM.Preserves.final (I := fun s : MemorySystem => ∀ p, P (s.environments p))
      (.forM fun r hr => ?_) h p
    obtain ⟨failed, contractStream, -, -, hcases⟩ := failoverRecordings_cases hplan
    rcases hcases with ⟨replacement, -, -, -, -, rfl⟩ | ⟨-, rfl⟩
    · simp only [List.mem_cons, List.not_mem_nil, or_false] at hr
      rcases hr with rfl | rfl | rfl
      · exact hrecord fun _ he => he
      · exact hrecord fun _ he => he
      · exact hrecord fun _ he => hP.put _ _ (hP.put _ _ he)
    · simp only [List.mem_cons, List.not_mem_nil, or_false] at hr
      rcases hr with rfl | rfl
      · exact hrecord fun _ he => he
      · exact hrecord fun _ he => hP.put _ _ he

omit [Sha256] in
include hP in
theorem kept_of_attachActive {e next : EnvironmentInstanceService}
    {readStream : String → Nat → Nat → Except VsmError (List StoredEvent)}
    {environmentInstance : EnvironmentInstance} {contract : EnvironmentContract} (he : P e)
    (h : e.attachActive readStream environmentInstance contract = .ok next) : P next := by
  obtain ⟨_, -, h⟩ := Checked.bind_eq_ok_iff.mp h
  obtain ⟨-, h⟩ := Checked.check_bind_eq_ok_iff.mp h
  obtain ⟨history, -, h⟩ := Checked.bind_eq_ok_iff.mp h
  rw [← Checked.pure_eq_ok_iff.mp h]
  refine hP.put _ _ ?_
  cases history.getLast? with
  | none => exact he
  | some last => exact hP.versions e _ he

include hP in
/-- **Every reachable state** keeps what the assignments keep, in every process. -/
theorem forall_runShared (dataSpace : DataSpace) (hnew : P (.new dataSpace.dataSpaceId))
    (inputs : List (SharedLedgerCommand × Clock)) (p : Nat) :
    P ((runShared (.new dataSpace) inputs).environments p) := by
  refine Run.exec_invariant (I := fun s : MemorySystem => ∀ p, P (s.environments p))
    (fun s input h => ?_) inputs (fun _ => hnew) p
  obtain ⟨c, clock⟩ := input
  cases c with
  | service c =>
    intro p
    have hkept := environments_of_service s (c, clock)
    change P ((ServiceCommand.step s (c, clock)).environments p)
    rw [hkept]
    exact h p
  | environment process c =>
    have hkeyed := hP.keyed _ (h process)
    change ∀ p, P (((c.run process clock).finalState s).environments p)
    cases c <;> rw [EnvironmentCommand.run]
    case attachActive environmentInstance contract =>
      rw [EStateM.finalState_get_bind]
      change ∀ p, P (((EStateM.ofExcept ((s.environments process).attachActive s.ledger.stream
        environmentInstance contract) >>= _).finalState s).environments p)
      cases hattach : (s.environments process).attachActive s.ledger.stream environmentInstance
          contract with
      | error e => exact h
      | ok next =>
        intro p
        change P (Function.update s.environments process next p)
        by_cases hp : p = process
        · rw [hp, Function.update_self]
          exact kept_of_attachActive hP (h process) hattach
        · rw [Function.update_of_ne hp]
          exact h p
    case failover => exact forall_failover hP h _ _ _ _
    case register => exact forall_performEnvironment hP h fun r hr => recordsMove_register hr
    case verify => exact forall_performEnvironment hP h fun r hr => recordsMove_verify hkeyed hr
    case preflightEvidenceHook =>
      exact forall_performEnvironment hP h fun r hr => recordsMove_preflightEvidenceHook hkeyed hr
    case activate =>
      exact forall_performEnvironment hP h fun r hr => recordsMove_activate hkeyed hr
    case retire => exact forall_performEnvironment hP h fun r hr => recordsMove_retire hkeyed hr

end Assignments

/-- Every process keeps each instance under its own identity. -/
def AllKeyed (s : MemorySystem) : Prop := ∀ process, Keyed (s.environments process)

/-- **Every reachable state** keeps each instance under its own identity. -/
theorem allKeyed_runShared (dataSpace : DataSpace) (inputs : List (SharedLedgerCommand × Clock)) :
    AllKeyed (runShared (.new dataSpace) inputs) :=
  forall_runShared ⟨fun _ h => h, fun _ moved h => h.put moved, fun _ _ h => h⟩ dataSpace
    (fun _ _ hknown => by cases hknown) inputs

/-! ### The second call -/

omit [Sha256] in
/-- The second call plans the same streams and keys, as long as the instances are the same. -/
theorem failoverRecordings_reissue {e e' : EnvironmentInstanceService}
    {failedInstanceId key : String} {clock : Clock}
    {recordings : List (Recording EnvironmentInstanceService)} {reprovision : Bool}
    (hinstances : e'.instances = e.instances)
    (h : e.failoverRecordings failedInstanceId key clock = .ok (recordings, reprovision))
    (reissueClock : Clock) :
    ∃ again, e'.failoverRecordings failedInstanceId key reissueClock = .ok (again, reprovision) ∧
      again.map (fun r => (r.streamId, r.idempotencyKey)) =
        recordings.map fun r => (r.streamId, r.idempotencyKey) := by
  obtain ⟨failed, hfailed, h⟩ := Checked.bind_eq_ok_iff.mp h
  obtain ⟨hactive, h⟩ := Checked.check_bind_eq_ok_iff.mp h
  obtain ⟨verified, hverified, h⟩ := Checked.bind_eq_ok_iff.mp h
  obtain ⟨contractStream, hcontract, h⟩ := Checked.bind_eq_ok_iff.mp h
  have hfailed' : e'.requireInstance failedInstanceId = .ok failed := by
    rw [requireInstance, hinstances]
    exact hfailed
  have hverified' : e'.verifiedInstances failed.environmentFingerprint = .ok verified := by
    rw [verifiedInstances, hinstances]
    exact hverified
  simp only at h
  cases hpeers : verified.filter (·.instanceId ≠ failedInstanceId) with
  | cons replacement rest =>
    rw [hpeers] at h
    obtain ⟨rfl, rfl⟩ := Prod.mk.inj (Checked.pure_eq_ok_iff.mp h)
    refine ⟨?_, ?_, ?_⟩
    rotate_left
    · rw [failoverRecordings, Checked.bind_eq_ok_iff]
      refine ⟨failed, hfailed', Checked.check_bind_eq_ok_iff.mpr ⟨hactive, ?_⟩⟩
      rw [Checked.bind_eq_ok_iff]
      refine ⟨verified, hverified', ?_⟩
      rw [hcontract]
      simp only [hpeers]
      exact rfl
    · rfl
  | nil =>
    rw [hpeers] at h
    obtain ⟨rfl, rfl⟩ := Prod.mk.inj (Checked.pure_eq_ok_iff.mp h)
    refine ⟨?_, ?_, ?_⟩
    rotate_left
    · rw [failoverRecordings, Checked.bind_eq_ok_iff]
      refine ⟨failed, hfailed', Checked.check_bind_eq_ok_iff.mpr ⟨hactive, ?_⟩⟩
      rw [Checked.bind_eq_ok_iff]
      refine ⟨verified, hverified', ?_⟩
      rw [hcontract]
      simp only [hpeers]
      exact rfl
    · rfl

/-- A second call whose first recording collides raises. -/
theorem not_reissueCompletes_of_superseded {failedInstanceId key : String} {clock : Clock}
    {again recordings : List (Recording EnvironmentInstanceService)} {reprovision : Bool}
    {r : Recording EnvironmentInstanceService} {rest : List (Recording EnvironmentInstanceService)}
    (hplan : (s.environments process).failoverRecordings failedInstanceId key clock =
      .ok (again, reprovision))
    (hsame : again.map (fun r => (r.streamId, r.idempotencyKey)) =
      (r :: rest).map fun r => (r.streamId, r.idempotencyKey))
    (hsuperseded : r.SupersededIn process s) :
    ¬ ReissueCompletes process failedInstanceId key clock recordings s := by
  rintro ⟨t, hrun, -⟩
  obtain ⟨first, others, rfl, hfirst, -⟩ := List.map_eq_cons_iff.mp hsame
  obtain ⟨hstream, hkey⟩ := Prod.mk.inj hfirst
  obtain ⟨stored, hmem, hstoredKey, hversion⟩ := hsuperseded
  have hrefused : ¬ first.AcceptedIn process s :=
    not_acceptedIn_of_superseded ⟨stored, hmem, hstoredKey.trans hkey.symm, hstream ▸ hversion⟩
  obtain ⟨e, herror⟩ := recordIn_of_not_accepted hrefused
  have hall : recordAll process (first :: others) s = .error e s :=
    EStateM.run_bind_of_error herror
  rw [failover_of_planned hplan, EStateM.run_bind_of_error hall] at hrun
  cases hrun

/-! ### When a failover is atomic -/

theorem failoverUnder_of_refused {failedInstanceId key : String}
    {requestReprovision : Except VsmError Unit} {clock : Clock} {e : VsmError}
    (h : (s.environments process).failoverRecordings failedInstanceId key clock = .error e) :
    failoverUnder outage process failedInstanceId key requestReprovision clock s = .error e s := by
  rw [failoverUnder, EStateM.run_get_bind, h, EStateM.run_ofExcept_error_bind]

theorem failoverUnder_of_planned {failedInstanceId key : String}
    {requestReprovision : Except VsmError Unit} {clock : Clock}
    {recordings : List (Recording EnvironmentInstanceService)} {reprovision : Bool}
    (h : (s.environments process).failoverRecordings failedInstanceId key clock =
      .ok (recordings, reprovision)) :
    failoverUnder outage process failedInstanceId key requestReprovision clock s =
      (do
        recordAllUnder process outage 0 recordings
        if reprovision then EStateM.ofExcept requestReprovision :
          SystemM InMemoryOperationalLedger Unit) s := by
  rw [failoverUnder, EStateM.run_get_bind, h, EStateM.run_ofExcept_ok_bind]

theorem not_goesThrough_of_stopsUnwritten
    (recordings : List (Recording EnvironmentInstanceService)) :
    ∀ {i : Nat} {s : MemorySystem}, StopsUnwritten process outage i recordings s →
      ¬ GoesThrough process outage i recordings s := by
  induction recordings with
  | nil =>
    intro i s hstops
    exact hstops.elim
  | cons r rest ih =>
    rintro i s (hself | ⟨-, hstops⟩) ⟨houtage, haccepted, hrest⟩
    · exact hself.elim (fun h => h houtage) fun h => h haccepted
    · exact ih hstops hrest

/-- A failover that retired the instance without a replacement, and whose reprovisioner does not
answer, is not atomic. -/
private theorem not_failoverAtomic_of_reprovisioner_fails (hkeyed : Keyed (s.environments process))
    {failedInstanceId key : String} {requestReprovision : Except VsmError Unit}
    {clock reissueClock : Clock} {recordings : List (Recording EnvironmentInstanceService)}
    (hplan : (s.environments process).failoverRecordings failedInstanceId key clock =
      .ok (recordings, true))
    (hgoes : GoesThrough process outage 0 recordings s) (hfails : requestReprovision ≠ .ok ()) :
    ¬ FailoverAtomic s process failedInstanceId key outage requestReprovision clock
      reissueClock := by
  intro hatomic
  obtain ⟨failed, assign, hget, hactive, hassigns, hretires⟩ := assignsLast_of_planned hplan
  obtain rfl : failed.instanceId = failedInstanceId := hkeyed _ failed hget
  obtain rfl := hretires rfl
  obtain ⟨t, e, hrun, -, hassigned⟩ := recordAllUnder_of_goesThrough hassigns hgoes
  obtain ⟨error, rfl⟩ : ∃ error, requestReprovision = .error error := by
    cases requestReprovision with
    | ok u => exact absurd rfl hfails
    | error error => exact ⟨error, rfl⟩
  have hretired : (t.environments process).instances.get? failed.instanceId =
      some { failed with state := .retired } := by
    rw [hassigned]
    exact OrderedDict.get?_set_self _ _ _
  have hraised : failoverUnder outage process failed.instanceId key (.error error) clock s =
      .error error t := by
    rw [failoverUnder_of_planned hplan, EStateM.run_bind_of_ok hrun]
    rfl
  rcases hatomic error t hraised with ⟨-, hsame⟩ | ⟨_, _, -, t', hcompleted, -⟩
  · rw [hsame, hget] at hretired
    have hstate := congrArg EnvironmentInstance.state (Option.some.inj hretired)
    rw [hactive] at hstate
    cases hstate
  · have hrefused : (t.environments process).failoverRecordings failed.instanceId key
        reissueClock =
          .error (.invariantViolation "failover requires an active EnvironmentInstance") := by
      rw [failoverRecordings, requireInstance, hretired]
      rfl
    rw [failover_of_refused hrefused] at hcompleted
    cases hcompleted

/-- **Failover atomicity**, in every state that keeps each instance under its own identity: a
failover is atomic exactly when it is refused by its checks, or nothing raises, or the first
append that raises comes before anything is written. -/
theorem failoverAtomic_iff_failsCleanly (s : MemorySystem) (process : Nat)
    (hkeyed : Keyed (s.environments process)) (failedInstanceId key : String)
    (outage : Nat → Option VsmError) (requestReprovision : Except VsmError Unit)
    (clock reissueClock : Clock) :
    FailoverAtomic s process failedInstanceId key outage requestReprovision clock reissueClock ↔
      FailsCleanly s process failedInstanceId key outage requestReprovision clock := by
  constructor
  · intro hatomic recordings reprovision hplan
    by_contra hnot
    rw [not_or] at hnot
    obtain ⟨-, assign, -, -, hassigns, -⟩ := assignsLast_of_planned hplan
    by_cases hgoes : GoesThrough process outage 0 recordings s
    · have hhook := fun h => hnot.1 ⟨hgoes, h⟩
      obtain ⟨rfl, hfails⟩ := Classical.not_imp.mp hhook
      exact not_failoverAtomic_of_reprovisioner_fails hkeyed hplan hgoes hfails hatomic
    · obtain ⟨e, t, herror, hstopped⟩ := recordAllUnder_of_not_goesThrough hassigns hgoes
      obtain ⟨hlonger, first, rest, rfl, hsuperseded⟩ := hstopped.written hnot.2
      have hraised : failoverUnder outage process failedInstanceId key requestReprovision clock s =
          .error e t := by
        rw [failoverUnder_of_planned hplan, EStateM.run_bind_of_error herror]
      rcases hatomic e t hraised with ⟨hledger, -⟩ | ⟨_, _, -, hcompletes⟩
      · rw [hledger] at hlonger
        exact absurd hlonger (lt_irrefl _)
      · obtain ⟨again, hagain, hsame⟩ :=
          failoverRecordings_reissue hstopped.instances hplan reissueClock
        exact not_reissueCompletes_of_superseded hagain hsame hsuperseded hcompletes
  · intro hclean e t hraised
    left
    cases hplan : (s.environments process).failoverRecordings failedInstanceId key clock with
    | error refusal =>
      rw [failoverUnder_of_refused hplan] at hraised
      obtain ⟨-, rfl⟩ := EStateM.Result.error.inj hraised
      exact ⟨rfl, rfl⟩
    | ok plan =>
      obtain ⟨recordings, reprovision⟩ := plan
      obtain ⟨-, assign, -, -, hassigns, -⟩ := assignsLast_of_planned hplan
      rw [failoverUnder_of_planned hplan] at hraised
      rcases hclean recordings reprovision hplan with ⟨hgoes, hhook⟩ | hstops
      · obtain ⟨final, _, hrun, -⟩ := recordAllUnder_of_goesThrough hassigns hgoes
        rw [EStateM.run_bind_of_ok hrun] at hraised
        cases reprovision with
        | false => cases hraised
        | true =>
          rw [hhook rfl] at hraised
          cases hraised
      · obtain ⟨stop, final, herror, hstopped⟩ :=
          recordAllUnder_of_not_goesThrough hassigns (not_goesThrough_of_stopsUnwritten _ hstops)
        rw [EStateM.run_bind_of_error herror] at hraised
        obtain ⟨-, rfl⟩ := EStateM.Result.error.inj hraised
        exact ⟨hstopped.unwritten hstops, hstopped.instances⟩

/-- The reading of the clock when the instance fails. -/
def failoverClock : Clock := fun n => 10 + n

omit [Sha256] in
/-- A failover of an unknown instance is refused and atomic. -/
theorem failoverAtomic_of_unknownInstance :
    letI := Sha256.polynomial
    FailoverAtomic (runShared (.new companySpace) attachedRun) 1 "instance:host-2" "failover:1"
      (fun _ => none) (.ok ()) failoverClock failoverClock := by
  let := Sha256.polynomial
  refine (failoverAtomic_iff_failsCleanly (runShared (.new companySpace) attachedRun) 1
    (allKeyed_runShared companySpace attachedRun 1) "instance:host-2" "failover:1" (fun _ => none)
    (.ok ()) failoverClock failoverClock).mpr fun recordings reprovision hplan => ?_
  have hrefused : (((runShared (.new companySpace) attachedRun).environments 1).failoverRecordings
    "instance:host-2" "failover:1" failoverClock).isOk = false := by decide +kernel
  rw [hplan] at hrefused
  cases hrefused

/-- The only instance of its contract fails, and no reprovisioner is configured. -/
def failoverWithoutReprovisioner : SystemM InMemoryOperationalLedger Unit :=
  failoverUnder (fun _ => none) 1 "instance:host-1" "failover:1"
    (.error (.invariantViolation
      "no reprovisioner hook is configured for EnvironmentInstance failover")) failoverClock

omit [Sha256] in
/-- **Failover atomicity fails**: the instance is retired, and the second call, with a
reprovisioner, is refused since it is no longer active. -/
theorem missing_reprovisioner_breaks_failoverAtomic :
    letI := Sha256.polynomial
    ¬ FailoverAtomic (runShared (.new companySpace) attachedRun) 1 "instance:host-1" "failover:1"
      (fun _ => none) (.error (.invariantViolation
        "no reprovisioner hook is configured for EnvironmentInstance failover")) failoverClock
      failoverClock := by
  let := Sha256.polynomial
  intro hatomic
  obtain ⟨e, hraised⟩ : ∃ e,
      failoverWithoutReprovisioner (runShared (.new companySpace) attachedRun) =
        .error e (failoverWithoutReprovisioner.finalState
          (runShared (.new companySpace) attachedRun)) :=
    EStateM.exists_error_of_not_returns (by decide +kernel)
  rcases hatomic e _ hraised with ⟨-, hsame⟩ | ⟨_, _, -, t, hcompleted, -⟩
  · exact absurd hsame (by decide +kernel)
  · exact absurd (EStateM.returns_of_ok hcompleted) (by decide +kernel)

end Nanihold
