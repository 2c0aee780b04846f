import Nanihold.Library.Versioned
import Nanihold.Replay.Failover

/-!
# The states of environment instances

Several processes run the lifecycle of environment instances over one ledger. Each remembers a
state for an instance and the version of the instance's stream it knows, so each follows the
stream as a writer follows a versioned log, and the states on the stream move only forward. Two
operations leave a process with a state that the ledger does not show: an attachment takes the
instance for active whatever the ledger says, and a failover that is refused at its last event
has retired the instance in the ledger and not in memory.

## Main definitions

* `EnvironmentInstanceState.Moves` — the moves of an instance.
* `LifecycleLaw` — the states per the ledger only move forward, and an instance that is retired
  there is never reported active by a service that attached afterwards.
* `KeepsLifecycle` — the operation attaches no candidate or retired instance and is no failover
  that is refused at its last event.

## Main results

* `Tracking.service`, `Tracking.environment` — what one step keeps.
* `lifecycleLaw_of_keepsLifecycle` — the law along runs of such steps.
* `retired_attached_breaks_lifecycleLaw` — a retired instance is attached and reported active.
-/

namespace Nanihold

open VersionedLog

/-! ### States on the ledger -/

/-- The state of the instance that a lifecycle event carries. -/
def EnvironmentPayload.instanceState? : EnvironmentPayload → Option EnvironmentInstanceState
  | .environmentInstanceRegistered environmentInstance _ _ => some environmentInstance.state
  | .environmentInstanceVerified environmentInstance _ => some environmentInstance.state
  | .environmentInstancePreflightVerified environmentInstance _ => some environmentInstance.state
  | .environmentInstanceActivated environmentInstance => some environmentInstance.state
  | .environmentInstanceRetired environmentInstance => some environmentInstance.state
  | .environmentInstanceFailedOver _ _ _ _ _ => none
  | .environmentInstanceReprovisionRequested _ _ _ => none

def EventPayload.instanceState? : EventPayload → Option EnvironmentInstanceState
  | .environment payload => payload.instanceState?
  | .kernel _ | .activation _ | .ownerAuth _ | .interface _ | .tokenLab _ | .routing _
  | .external _ => none

theorem EventPayload.instanceState?_of_not_isEnvironment {payload : EventPayload}
    (h : ¬ payload.IsEnvironment) : payload.instanceState? = none := by
  cases payload with
  | environment p => exact absurd ⟨p, rfl⟩ h
  | _ => rfl

/-- The moves of an instance: forward one state, or straight to retired. -/
inductive EnvironmentInstanceState.Moves :
    EnvironmentInstanceState → EnvironmentInstanceState → Prop
  | stays (state : EnvironmentInstanceState) : Moves state state
  | verified : Moves .candidate .verified
  | activated : Moves .verified .active
  | retired (state : EnvironmentInstanceState) : Moves state .retired

/-- A service's state of an instance follows the ledger's: it is the same, or the service
attached as active an instance that the ledger shows verified. -/
inductive EnvironmentInstanceState.Follows :
    EnvironmentInstanceState → EnvironmentInstanceState → Prop
  | same (state : EnvironmentInstanceState) : Follows state state
  | attached : Follows .verified .active

open EnvironmentInstanceState (Moves Follows)
open EnvironmentInstanceService (Keyed)

theorem EnvironmentInstanceState.Follows.moves {l m : EnvironmentInstanceState}
    (h : Follows l m) : Moves l m := by
  cases h with
  | same => exact .stays _
  | attached => exact .activated

namespace InMemoryOperationalLedger

variable (ledger : InMemoryOperationalLedger)

/-- The events of an instance's stream, each by the state it carries. -/
def instanceLog (instanceId : String) : List (Option EnvironmentInstanceState) :=
  (onStream instanceId ledger.events).map (·.event.payload.instanceState?)

theorem instanceLog_length (instanceId : String) :
    (ledger.instanceLog instanceId).length = ledger.streamLength instanceId := by
  rw [instanceLog, List.length_map, streamLength_eq]

/-- The event of a stream at a version. -/
theorem onStream_getElem? {stored : StoredEvent} (h : stored ∈ ledger.events) {version : Nat}
    (hversion : stored.event.streamVersion = version + 1) :
    (onStream stored.event.streamId ledger.events)[version]? = some stored := by
  have hmem : stored ∈ onStream stored.event.streamId ledger.events :=
    List.mem_filter.mpr ⟨h, decide_eq_true rfl⟩
  obtain ⟨i, hi, hget⟩ := List.getElem_of_mem hmem
  have hat := congrArg (·[i]?) (ledger.versions_contiguous stored.event.streamId)
  simp only [List.getElem?_map, List.getElem?_eq_getElem hi, hget, Option.map_some,
    List.getElem?_range' hi] at hat
  have : stored.event.streamVersion = 1 + 1 * i := Option.some.inj hat
  obtain rfl : i = version := by omega
  rw [List.getElem?_eq_getElem hi, hget]

/-- **An accepted append** writes its event's state on its stream, and leaves the other streams
alone. -/
theorem wrote_of_append {event : EventEnvelope} {expected : Nat} {result : AppendResult}
    {next : InMemoryOperationalLedger} (hversion : event.streamVersion = expected + 1)
    (h : ledger.append event expected = .ok (result, next)) :
    Wrote (ledger.instanceLog event.streamId) expected event.payload.instanceState?
        (next.instanceLog event.streamId) ∧
      ∀ id ≠ event.streamId, next.instanceLog id = ledger.instanceLog id := by
  rcases ledger.append_eq_ok h with ⟨happ, hexpected, -, rfl⟩ | ⟨stored, hstored, rfl, -, rfl⟩
  · constructor
    · have hnext : (ledger.push event happ).instanceLog event.streamId =
          ledger.instanceLog event.streamId ++ [event.payload.instanceState?] := by
        rw [instanceLog, push_events, onStream_append,
          if_pos (show (ledger.store event).event.streamId = event.streamId from rfl),
          List.map_append]
        rfl
      rw [hnext]
      exact .appended (by rw [instanceLog_length, hexpected])
    · intro id hne
      rw [instanceLog, push_events, onStream_append,
        if_neg (show ¬ (ledger.store event).event.streamId = id from Ne.symm hne), List.append_nil]
      rfl
  · refine ⟨.found ?_, fun _ _ => rfl⟩
    rw [instanceLog, List.getElem?_map, onStream_getElem? _ hstored hversion, Option.map_some]

/-- Events of other services carry no state of an instance. -/
theorem states_instanceLog_of_append {next : InMemoryOperationalLedger} {more : List StoredEvent}
    (hnext : next.events = ledger.events ++ more)
    (hmore : ∀ stored ∈ more, ¬ stored.event.payload.IsEnvironment) (id : String) :
    ledger.instanceLog id <+: next.instanceLog id ∧
      states (next.instanceLog id) = states (ledger.instanceLog id) := by
  have hsplit : next.instanceLog id = ledger.instanceLog id ++
      (onStream id more).map (·.event.payload.instanceState?) := by
    rw [instanceLog, hnext, onStream, List.filter_append, List.map_append]
    rfl
  rw [hsplit]
  refine ⟨List.prefix_append _ _, states_append_of_none fun e he => ?_⟩
  obtain ⟨stored, hstored, rfl⟩ := List.mem_map.mp he
  exact EventPayload.instanceState?_of_not_isEnvironment
    (hmore stored (List.mem_of_mem_filter hstored))

theorem instanceLog_isPrefix {next : InMemoryOperationalLedger} (h : ledger.events <+: next.events)
    (id : String) : ledger.instanceLog id <+: next.instanceLog id := by
  exact (h.filter _).map _

end InMemoryOperationalLedger

/-- The state that the service reports for an instance. -/
def EnvironmentInstanceService.stateOf (e : EnvironmentInstanceService) (instanceId : String) :
    Option EnvironmentInstanceState :=
  (e.instances.get? instanceId).map (·.state)

/-! ### The invariant -/

/-- The states on every stream only move, and each process, with the states it is to remember,
follows every stream up to the version it knows. -/
structure TrackingAs (memory : Nat → String → Option EnvironmentInstanceState)
    (s : MemorySystem) : Prop where
  moves : ∀ id, (states (s.ledger.instanceLog id)).IsChain Moves
  tracks : ∀ process id, Tracks Follows (s.ledger.instanceLog id)
    ((s.environments process).versions.getD id 0) (memory process id)

/-- The processes follow the ledger with the states they report, and keep each instance under
its own identity. -/
structure Tracking (s : MemorySystem) : Prop extends
    TrackingAs (fun process => (s.environments process).stateOf) s where
  keyed : ∀ process, Keyed (s.environments process)

variable {s : MemorySystem} {memory : Nat → String → Option EnvironmentInstanceState}

theorem tracking_new (dataSpace : DataSpace) : Tracking (.new dataSpace) where
  moves _ := .nil
  tracks _ _ := tracks_zero _ _
  keyed _ _ _ h := by cases h

/-- What other services write leaves the instances alone. -/
theorem TrackingAs.grown (h : TrackingAs memory s) {s' : MemorySystem} {more : List StoredEvent}
    (hledger : s'.ledger.events = s.ledger.events ++ more)
    (hmore : ∀ stored ∈ more, ¬ stored.event.payload.IsEnvironment)
    (henvironments : s'.environments = s.environments) : TrackingAs memory s' where
  moves id := by
    rw [(s.ledger.states_instanceLog_of_append hledger hmore id).2]
    exact h.moves id
  tracks process id := by
    rw [henvironments]
    exact (h.tracks process id).grown
      (s.ledger.states_instanceLog_of_append hledger hmore id).1

theorem TrackingAs.congr (h : TrackingAs memory s)
    {other : Nat → String → Option EnvironmentInstanceState}
    (heq : ∀ process id, memory process id = other process id) : TrackingAs other s where
  moves := h.moves
  tracks process id := heq process id ▸ h.tracks process id

/-! ### One event of a process -/

section Step

open EnvironmentInstanceService

variable [Sha256] {process : Nat}

/-- What a process is to remember after it wrote an event on a stream. -/
def remember (memory : Nat → String → Option EnvironmentInstanceState) (process : Nat)
    (streamId : String) (payload : EnvironmentPayload) :
    Nat → String → Option EnvironmentInstanceState :=
  Function.update memory process (Function.update (memory process) streamId
    (payload.instanceState?.or (memory process streamId)))

/-- **An accepted event** whose state may follow what the process remembers. -/
theorem TrackingAs.accepted (h : TrackingAs memory s) {streamId key : String}
    {payload : EnvironmentPayload} {occurredAt : DateTime}
    {assign : EnvironmentInstanceService → EnvironmentInstanceService}
    (hversions : ∀ e, (assign e).versions = e.versions)
    (hmoves : ∀ state ∈ payload.instanceState?, ∀ m ∈ memory process streamId,
      ∀ l, Follows l m → Moves l state)
    (haccepted : (recording streamId payload key occurredAt assign).AcceptedIn process s) :
    ∃ t, recordIn process (recording streamId payload key occurredAt assign) s = .ok () t ∧
      t.environments = Function.update s.environments process
        (assign ((s.environments process).advanced streamId)) ∧
      TrackingAs (remember memory process streamId payload) t := by
  obtain ⟨event, result, ledger, -, rfl, hpayload, -, hversion, happend, hrun⟩ :=
    recordIn_of_accepted haccepted
  obtain ⟨hwrote, hothers⟩ := s.ledger.wrote_of_append hversion happend
  rw [hpayload] at hwrote
  have hgrown (id : String) : s.ledger.instanceLog id <+: ledger.instanceLog id := by
    by_cases hid : id = event.streamId
    · exact hid ▸ hwrote.isPrefix
    · rw [hothers id hid]
  refine ⟨_, hrun, rfl, fun id => ?_, fun p id => ?_⟩
  · by_cases hid : id = event.streamId
    · subst hid
      refine hwrote.isChain (h.moves _) fun state hstate l hl => ?_
      obtain ⟨m, hm, hfollows⟩ := (h.tracks process _).follows l hl
      exact hmoves state hstate m hm l hfollows
    · rw [hothers id hid]
      exact h.moves id
  · change Tracks Follows (ledger.instanceLog id)
      ((Function.update s.environments process _ p).versions.getD id 0) _
    by_cases hp : p = process
    · subst hp
      rw [Function.update_self, hversions, remember, Function.update_self]
      by_cases hid : id = event.streamId
      · subst hid
        rw [Function.update_self]
        change Tracks Follows _ ((OrderedDict.set _ _ _).getD _ 0) _
        rw [OrderedDict.getD_set_self]
        exact (h.tracks p _).wrote .same hwrote
      · rw [Function.update_of_ne hid]
        change Tracks Follows _ ((OrderedDict.set _ _ _).getD _ 0) _
        rw [OrderedDict.getD_set_of_ne _ _ _ (Ne.symm hid), hothers id hid]
        exact h.tracks p id
    · rw [Function.update_of_ne hp, remember, Function.update_of_ne hp]
      exact (h.tracks p id).grown (hgrown id)

omit [Sha256] in
theorem stateOf_put (e : EnvironmentInstanceService) (moved : EnvironmentInstance) (id : String) :
    (put moved e).stateOf id =
      if moved.instanceId = id then some moved.state else e.stateOf id := by
  rw [stateOf, put, OrderedDict.get?_set, stateOf]
  split <;> rfl

omit [Sha256] in
theorem remember_of_ne {streamId : String} {payload : EnvironmentPayload} {p : Nat}
    (h : p ≠ process) : remember memory process streamId payload p = memory p :=
  Function.update_of_ne h _ _

omit [Sha256] in
theorem remember_self (memory : Nat → String → Option EnvironmentInstanceState) (process : Nat)
    (streamId : String) (payload : EnvironmentPayload) (id : String) :
    remember memory process streamId payload process id =
      if streamId = id then payload.instanceState?.or (memory process id)
      else memory process id := by
  rw [remember, Function.update_self]
  by_cases h : streamId = id
  · rw [if_pos h, h, Function.update_self]
  · rw [if_neg h, Function.update_of_ne (Ne.symm h)]

omit [Sha256] in
/-- One process assigned to memory what it is to remember. -/
theorem Tracking.assigned (h : Tracking s) {t : MemorySystem} (ht : TrackingAs memory t)
    {e : EnvironmentInstanceService}
    (henvironments : t.environments = Function.update s.environments process e)
    (hothers : ∀ p ≠ process, memory p = (s.environments p).stateOf)
    (hown : ∀ id, memory process id = e.stateOf id) (hkeyed : Keyed e) : Tracking t where
  toTrackingAs := by
    refine ht.congr fun p id => ?_
    rw [henvironments]
    by_cases hp : p = process
    · rw [hp, Function.update_self, hown]
    · rw [Function.update_of_ne hp, hothers p hp]
  keyed p id known hknown := by
    rw [henvironments] at hknown
    by_cases hp : p = process
    · rw [hp, Function.update_self] at hknown
      exact hkeyed id known hknown
    · rw [Function.update_of_ne hp] at hknown
      exact h.keyed p id known hknown

/-- A recording that writes a state an instance may move to, and puts it into memory. -/
def RecordsMove (e : EnvironmentInstanceService) (r : Recording EnvironmentInstanceService) :
    Prop :=
  ∃ moved payload key occurredAt,
    r = recording moved.instanceId payload key occurredAt (put moved) ∧
    payload.instanceState? = some moved.state ∧
    ∀ m ∈ e.stateOf moved.instanceId, ∀ l, Follows l m → Moves l moved.state

/-- **An event that moves an instance**, recorded or refused. -/
theorem Tracking.recorded (h : Tracking s) {r : Recording EnvironmentInstanceService}
    (hr : RecordsMove (s.environments process) r) :
    Tracking ((recordIn process r).finalState s) := by
  by_cases haccepted : r.AcceptedIn process s
  · obtain ⟨moved, payload, key, occurredAt, rfl, hstate, hmoves⟩ := hr
    have hversions (e : EnvironmentInstanceService) : (put moved e).versions = e.versions := rfl
    obtain ⟨t, hrun, henvironments, htracked⟩ := h.toTrackingAs.accepted hversions
      (fun state hmem => by
        obtain rfl := Option.mem_some_iff.mp (hstate ▸ hmem)
        exact hmoves) haccepted
    rw [EStateM.finalState_of_ok hrun]
    refine h.assigned htracked henvironments (fun p hp => remember_of_ne hp) (fun id => ?_)
      (Keyed.put (h.keyed process) moved)
    rw [remember_self, stateOf_put, hstate]
    rfl
  · obtain ⟨e, herror⟩ := recordIn_of_not_accepted haccepted
    rwa [EStateM.finalState_of_error herror]

/-! ### The operations that record one event -/

section Operations

variable {e : EnvironmentInstanceService} {id key : String} {clock : Clock}

omit [Sha256] in
theorem recordsMove_register {environmentInstance : EnvironmentInstance}
    {contract : EnvironmentContract} {r : Recording EnvironmentInstanceService}
    (h : e.register environmentInstance contract key clock = .ok r) : RecordsMove e r := by
  obtain ⟨_, -, h⟩ := Checked.bind_eq_ok_iff.mp h
  obtain ⟨-, h⟩ := Checked.check_bind_eq_ok_iff.mp h
  obtain ⟨hunknown, h⟩ := Checked.check_bind_eq_ok_iff.mp h
  refine ⟨environmentInstance, _, _, _, (Checked.pure_eq_ok_iff.mp h).symm, rfl, fun m hm => ?_⟩
  rw [stateOf, (e.instances.contains_eq_false_iff _).mp hunknown] at hm
  cases hm

variable (hkeyed : ∀ id known, e.instances.get? id = some known → known.instanceId = id)

omit [Sha256] in
include hkeyed in
/-- A known instance that is put back in a state it may move to. -/
private theorem recordsMove_of_known {known : EnvironmentInstance} (moved : EnvironmentInstance)
    (hknown : e.requireInstance id = .ok known) (hid : moved.instanceId = known.instanceId)
    (hmoves : ∀ l, Follows l known.state → Moves l moved.state) {payload : EnvironmentPayload}
    (hpayload : payload.instanceState? = some moved.state) (occurredAt : DateTime) :
    RecordsMove e (recording known.instanceId payload key occurredAt
      fun s => { s with instances := s.instances.set id moved }) := by
  have hget := Checked.orRaise_eq_ok_iff.mp hknown
  have hknownId : known.instanceId = id := hkeyed id known hget
  have hmovedId : moved.instanceId = id := hid.trans hknownId
  refine ⟨moved, payload, key, occurredAt, ?_, hpayload, fun m hm => ?_⟩
  · rw [hknownId, hmovedId, ← hmovedId]
    rfl
  · rw [hmovedId, stateOf, hget, Option.map_some] at hm
    exact Option.mem_some_iff.mp hm ▸ hmoves

omit [Sha256] in
include hkeyed in
theorem recordsMove_verify {evidence : PreflightEvidence}
    {r : Recording EnvironmentInstanceService} (h : e.verify id evidence key clock = .ok r) :
    RecordsMove e r := by
  obtain ⟨known, hknown, h⟩ := Checked.bind_eq_ok_iff.mp h
  obtain ⟨-, h⟩ := Checked.check_bind_eq_ok_iff.mp h
  obtain ⟨-, h⟩ := Checked.check_bind_eq_ok_iff.mp h
  obtain ⟨-, h⟩ := Checked.check_bind_eq_ok_iff.mp h
  split at h
  · next hcandidate =>
    rw [← Checked.pure_eq_ok_iff.mp h]
    refine recordsMove_of_known hkeyed { known with state := .verified } hknown rfl
      (fun l hl => ?_) rfl (clock 0)
    rw [hcandidate] at hl
    cases hl
    exact .verified
  · rw [← Checked.pure_eq_ok_iff.mp h]
    exact recordsMove_of_known hkeyed known hknown rfl (fun _ => Follows.moves) rfl (clock 0)

omit [Sha256] in
include hkeyed in
theorem recordsMove_preflightEvidenceHook {keyPrefix : String} {evidence : PreflightEvidence}
    {r : Recording EnvironmentInstanceService}
    (h : e.preflightEvidenceHook id keyPrefix evidence clock = .ok r) : RecordsMove e r := by
  obtain ⟨_, -, h⟩ := Checked.bind_eq_ok_iff.mp h
  obtain ⟨-, h⟩ := Checked.check_bind_eq_ok_iff.mp h
  exact recordsMove_verify hkeyed h

omit [Sha256] in
include hkeyed in
theorem recordsMove_activate {r : Recording EnvironmentInstanceService}
    (h : e.activate id key clock = .ok r) : RecordsMove e r := by
  obtain ⟨known, hknown, h⟩ := Checked.bind_eq_ok_iff.mp h
  obtain ⟨hverified, h⟩ := Checked.check_bind_eq_ok_iff.mp h
  rw [← Checked.pure_eq_ok_iff.mp h]
  refine recordsMove_of_known hkeyed { known with state := .active } hknown rfl
    (fun l hl => ?_) rfl (clock 0)
  rw [hverified] at hl
  cases hl
  exact .activated

omit [Sha256] in
include hkeyed in
theorem recordsMove_retire {r : Recording EnvironmentInstanceService}
    (h : e.retire id key clock = .ok r) : RecordsMove e r := by
  obtain ⟨known, hknown, h⟩ := Checked.bind_eq_ok_iff.mp h
  obtain ⟨-, h⟩ := Checked.check_bind_eq_ok_iff.mp h
  rw [← Checked.pure_eq_ok_iff.mp h]
  exact recordsMove_of_known hkeyed { known with state := .retired } hknown rfl
    (fun l _ => .retired l) rfl (clock 0)

end Operations

/-- **An operation that records one event.** -/
theorem Tracking.performEnvironment (h : Tracking s)
    {plan : EnvironmentInstanceService → Except VsmError (Recording EnvironmentInstanceService)}
    (hplan : ∀ r, plan (s.environments process) = .ok r →
      RecordsMove (s.environments process) r) :
    Tracking ((Nanihold.performEnvironment process plan).finalState s) := by
  rw [finalState_performEnvironment]
  cases hr : plan (s.environments process) with
  | error e => exact h
  | ok r => exact h.recorded (hplan r hr)

/-! ### Failover -/

/-- A failover that records all its events but the last records the last one, too. -/
def FailsOverWhole (s : MemorySystem) (process : Nat) (failedInstanceId key : String)
    (clock : Clock) : Prop :=
  ∀ before last reprovision,
    (s.environments process).failoverRecordings failedInstanceId key clock =
      .ok (before ++ [last], reprovision) →
    AcceptedInTurn process before s → AcceptedInTurn process (before ++ [last]) s

/-- A failover that switches to a verified peer. -/
private theorem Tracking.failedOver (h : Tracking s) {failed replacement : EnvironmentInstance}
    (hreplacement : (s.environments process).instances.get? replacement.instanceId =
      some replacement)
    (hverified : replacement.state = .verified) (hne : failed.instanceId ≠ replacement.instanceId)
    {contract retire activate : Recording EnvironmentInstanceService}
    {contractStream switchKey retireKey activateKey : String} {payload : EnvironmentPayload}
    {switchedAt retiredAt activatedAt : DateTime} (hpayload : payload.instanceState? = none)
    (hcontract : contract = recording contractStream payload switchKey switchedAt id)
    (hretire : retire = recording failed.instanceId
      (.environmentInstanceRetired { failed with state := .retired }) retireKey retiredAt id)
    (hactivate : activate = recording replacement.instanceId
      (.environmentInstanceActivated { replacement with state := .active }) activateKey activatedAt
      fun s => put { replacement with state := .active }
        (put { failed with state := .retired } s))
    (hwhole : AcceptedInTurn process [contract, retire] s →
      AcceptedInTurn process [contract, retire, activate] s) :
    Tracking ((recordAll process [contract, retire, activate]).finalState s) := by
  by_cases haccepted : contract.AcceptedIn process s
  swap
  · rwa [finalState_recordAll_of_not_accepted haccepted]
  subst hcontract
  have hid (e : EnvironmentInstanceService) : (id e).versions = e.versions := rfl
  obtain ⟨t, hrun, henvironments, htracked⟩ := h.toTrackingAs.accepted hid
    (fun state hmem => by
      rw [hpayload] at hmem
      cases hmem) haccepted
  have hmemory (id : String) : remember (fun p => (s.environments p).stateOf) process
      contractStream payload process id = (s.environments process).stateOf id := by
    rw [remember_self, hpayload, Option.none_or, ite_self]
  rw [finalState_recordAll_of_accepted hrun]
  by_cases hretired : retire.AcceptedIn process t
  swap
  · -- The switch alone is recorded, and it moves no instance.
    rw [finalState_recordAll_of_not_accepted hretired]
    exact h.assigned htracked henvironments (fun p hp => remember_of_ne hp) hmemory
      (h.keyed process)
  have hactivated := (hwhole ⟨haccepted, (EStateM.finalState_of_ok hrun).symm ▸ hretired,
    trivial⟩).2.2.1
  subst hretire
  obtain ⟨t₂, hrun₂, henvironments₂, htracked₂⟩ := htracked.accepted hid
    (fun state hmem m _ l _ => by
      obtain rfl := Option.mem_some_iff.mp hmem
      exact .retired l) hretired
  rw [EStateM.finalState_of_ok hrun, EStateM.finalState_of_ok hrun₂] at hactivated
  rw [finalState_recordAll_of_accepted hrun₂]
  subst hactivate
  have hversions (e : EnvironmentInstanceService) :
      (put { replacement with state := .active }
        (put { failed with state := .retired } e)).versions = e.versions := rfl
  obtain ⟨t₃, hrun₃, henvironments₃, htracked₃⟩ := htracked₂.accepted hversions
    (fun state hmem m hm l hl => by
      obtain rfl := Option.mem_some_iff.mp hmem
      rw [remember_self, if_neg hne, hmemory, stateOf, hreplacement, Option.map_some,
        Option.mem_some_iff] at hm
      rw [← hm, hverified] at hl
      cases hl
      exact .activated) hactivated
  rw [finalState_recordAll_of_accepted hrun₃, finalState_recordAll_nil]
  rw [henvironments₂, henvironments, Function.update_idem, Function.update_idem] at henvironments₃
  refine h.assigned htracked₃ henvironments₃ (fun p hp => ?_) (fun id => ?_) ?_
  · rw [remember_of_ne hp, remember_of_ne hp, remember_of_ne hp]
  · rw [remember_self, remember_self, hmemory, stateOf_put, stateOf_put, Function.update_self,
      Function.update_self]
    rfl
  · rw [Function.update_self, Function.update_self]
    exact Keyed.put (Keyed.put (h.keyed process) _) _

/-- A failover that requests a new instance. -/
private theorem Tracking.requested (h : Tracking s) {failed : EnvironmentInstance}
    {retire request : Recording EnvironmentInstanceService}
    {contractStream requestKey retireKey : String} {payload : EnvironmentPayload}
    {retiredAt requestedAt : DateTime} (hpayload : payload.instanceState? = none)
    (hretire : retire = recording failed.instanceId
      (.environmentInstanceRetired { failed with state := .retired }) retireKey retiredAt id)
    (hrequest : request = recording contractStream payload requestKey requestedAt
      (put { failed with state := .retired }))
    (hwhole : AcceptedInTurn process [retire] s → AcceptedInTurn process [retire, request] s) :
    Tracking ((recordAll process [retire, request]).finalState s) := by
  by_cases haccepted : retire.AcceptedIn process s
  swap
  · rwa [finalState_recordAll_of_not_accepted haccepted]
  have hrequested := (hwhole ⟨haccepted, trivial⟩).2.1
  subst hretire
  have hid (e : EnvironmentInstanceService) : (id e).versions = e.versions := rfl
  obtain ⟨t, hrun, henvironments, htracked⟩ := h.toTrackingAs.accepted hid
    (fun state hmem m _ l _ => by
      obtain rfl := Option.mem_some_iff.mp hmem
      exact .retired l) haccepted
  rw [EStateM.finalState_of_ok hrun] at hrequested
  rw [finalState_recordAll_of_accepted hrun]
  subst hrequest
  have hversions (e : EnvironmentInstanceService) :
      (put { failed with state := .retired } e).versions = e.versions := rfl
  obtain ⟨t₂, hrun₂, henvironments₂, htracked₂⟩ := htracked.accepted hversions
    (fun state hmem => by
      rw [hpayload] at hmem
      cases hmem) hrequested
  rw [finalState_recordAll_of_accepted hrun₂, finalState_recordAll_nil]
  rw [henvironments, Function.update_idem] at henvironments₂
  refine h.assigned htracked₂ henvironments₂ (fun p hp => ?_) (fun id => ?_) ?_
  · rw [remember_of_ne hp, remember_of_ne hp]
  · rw [remember_self, hpayload, Option.none_or, ite_self, remember_self, stateOf_put,
      Function.update_self]
    rfl
  · rw [Function.update_self]
    exact Keyed.put (h.keyed process) _

/-- **A failover** that is not refused at its last event. -/
theorem Tracking.failover (h : Tracking s) {failedInstanceId key : String}
    {requestReprovision : Except VsmError Unit} {clock : Clock}
    (hwhole : FailsOverWhole s process failedInstanceId key clock) :
    Tracking
      ((Nanihold.failover process failedInstanceId key requestReprovision clock).finalState s) := by
  cases hplan : (s.environments process).failoverRecordings failedInstanceId key clock with
  | error e => rwa [EStateM.finalState_of_error (failover_of_refused hplan)]
  | ok plan =>
    obtain ⟨recordings, reprovision⟩ := plan
    rw [finalState_failover hplan]
    obtain ⟨failed, contractStream, hget, hactive, hcases⟩ := failoverRecordings_cases hplan
    obtain rfl : failed.instanceId = failedInstanceId := h.keyed process _ failed hget
    rcases hcases with
      ⟨replacement, hvalue, hverified, hne, rfl, rfl⟩ | ⟨rfl, rfl⟩
    · obtain ⟨replacementId, hreplacement⟩ := (OrderedDict.mem_values_iff _ _).mp hvalue
      obtain rfl := h.keyed process _ replacement hreplacement
      exact h.failedOver hreplacement hverified (Ne.symm hne) rfl rfl rfl rfl
        (hwhole [_, _] _ false hplan)
    · exact h.requested rfl rfl rfl (hwhole [_] _ true hplan)

/-! ### Attachment -/

/-- What is known of an instance does not forbid to take it for active: there is no event of it,
or the last one shows it verified or active. -/
def Attachable (state : Option EnvironmentInstanceState) : Prop :=
  state ≠ some .candidate ∧ state ≠ some .retired

omit [Sha256] in
theorem Attachable.follows {state : Option EnvironmentInstanceState} (h : Attachable state) :
    ∀ l ∈ state, Follows l .active := by
  rintro l rfl
  cases l with
  | candidate => exact absurd rfl h.1
  | verified => exact .attached
  | active => exact .same _
  | retired => exact absurd rfl h.2

/-- An attachment that passes its checks attaches an instance which, by the events it reads and
by the ledger, is neither a candidate nor retired. -/
def AttachesLive (s : MemorySystem) (process : Nat) (environmentInstance : EnvironmentInstance)
    (contract : EnvironmentContract) : Prop :=
  ∀ next, (s.environments process).attachActive s.ledger.stream environmentInstance contract =
      .ok next →
    Attachable (stateAt (s.ledger.instanceLog environmentInstance.instanceId) 100000) ∧
      Attachable (current (s.ledger.instanceLog environmentInstance.instanceId))

omit [Sha256] in
/-- The version of the last of the events that an attachment reads. -/
theorem streamVersion_getLast? {ledger : InMemoryOperationalLedger} {streamId : String}
    {limit : Nat} {last : StoredEvent}
    (h : ((onStream streamId ledger.events).take limit).getLast? = some last) :
    last.event.streamVersion = min limit (onStream streamId ledger.events).length := by
  rw [List.getLast?_eq_getElem?, List.length_take] at h
  have hlt := (List.getElem?_eq_some_iff.mp h).1
  rw [List.length_take] at hlt
  rw [List.getElem?_take_of_lt (by omega)] at h
  have hat := congrArg (·[min limit (onStream streamId ledger.events).length - 1]?)
    (ledger.versions_contiguous streamId)
  simp only [List.getElem?_map, h, Option.map_some] at hat
  rw [List.getElem?_range' (by omega)] at hat
  have := Option.some.inj hat
  omega

omit [Sha256] in
/-- **An attachment** of an instance that is neither a candidate nor retired. -/
theorem Tracking.attached (h : Tracking s) {environmentInstance : EnvironmentInstance}
    {contract : EnvironmentContract} {next : EnvironmentInstanceService}
    (hattach : (s.environments process).attachActive s.ledger.stream environmentInstance contract =
      .ok next)
    (hlive : Attachable
      (stateAt (s.ledger.instanceLog environmentInstance.instanceId) 100000)) :
    Tracking { s with environments := Function.update s.environments process next } := by
  obtain ⟨_, -, hattach⟩ := Checked.bind_eq_ok_iff.mp hattach
  obtain ⟨-, hattach⟩ := Checked.check_bind_eq_ok_iff.mp hattach
  obtain ⟨history, hhistory, hattach⟩ := Checked.bind_eq_ok_iff.mp hattach
  obtain ⟨-, hread⟩ := Checked.check_bind_eq_ok_iff.mp hhistory
  have hread : history = (onStream environmentInstance.instanceId s.ledger.events).take 100000 := by
    rw [← Checked.pure_eq_ok_iff.mp hread, s.ledger.streams_eq, List.drop_zero]
  have hnext := Checked.pure_eq_ok_iff.mp hattach
  have hothers (p : Nat) (hp : p ≠ process) :
      Function.update s.environments process next p = s.environments p :=
    Function.update_of_ne hp _ _
  refine ⟨⟨h.moves, fun p id => ?_⟩, fun p => ?_⟩
  · change Tracks Follows _ ((Function.update s.environments process next p).versions.getD id 0)
      ((Function.update s.environments process next p).stateOf id)
    by_cases hp : p = process
    swap
    · rw [hothers p hp]
      exact h.tracks p id
    subst hp
    rw [Function.update_self, ← hnext, stateOf_put]
    by_cases hid : environmentInstance.instanceId = id
    swap
    · rw [if_neg hid]
      cases hlast : history.getLast? with
      | none => exact h.tracks p id
      | some last =>
        change Tracks Follows _ ((OrderedDict.set _ _ _).getD id 0) _
        rw [OrderedDict.getD_set_of_ne _ _ _ hid]
        exact h.tracks p id
    subst hid
    rw [if_pos rfl]
    cases hlast : history.getLast? with
    | none =>
      -- The stream is empty, so the process knows all of it.
      have hnil : onStream environmentInstance.instanceId s.ledger.events = [] := by
        rw [hread, List.getLast?_eq_none_iff, List.take_eq_nil_iff] at hlast
        exact hlast.resolve_left (by decide)
      refine ⟨(h.tracks p _).version_le, fun l hl => ?_⟩
      rw [InMemoryOperationalLedger.instanceLog, hnil, stateAt, List.map_nil, List.take_nil] at hl
      cases hl
    | some last =>
      rw [hread] at hlast
      change Tracks Follows _ ((OrderedDict.set _ _ _).getD _ 0) _
      rw [OrderedDict.getD_set_self, streamVersion_getLast? hlast]
      refine ⟨by rw [s.ledger.instanceLog_length, s.ledger.streamLength_eq]; omega,
        fun l hl => ⟨.active, rfl, hlive.follows l ?_⟩⟩
      rw [stateAt, List.take_eq_take_min, s.ledger.instanceLog_length, s.ledger.streamLength_eq]
      exact hl
  · change Keyed (Function.update s.environments process next p)
    by_cases hp : p = process
    · rw [hp, Function.update_self, ← hnext]
      refine Keyed.put ?_ _
      cases history.getLast? <;> exact h.keyed process
    · rw [hothers p hp]
      exact h.keyed p

/-! ### Steps and runs -/

/-- The operation attaches an instance that is neither a candidate nor retired, or it is a
failover that is not refused at its last event, or another one. -/
def KeepsLifecycle (s : MemorySystem) (input : SharedLedgerCommand × Clock) : Prop :=
  match input.1 with
  | .environment process (.attachActive environmentInstance contract) =>
    AttachesLive s process environmentInstance contract
  | .environment process (.failover failedInstanceId key _) =>
    FailsOverWhole s process failedInstanceId key input.2
  | _ => True

/-- **A lifecycle operation.** -/
theorem Tracking.environment (h : Tracking s) (c : EnvironmentCommand) (clock : Clock)
    (hkeeps : KeepsLifecycle s (.environment process c, clock)) :
    Tracking ((c.run process clock).finalState s) := by
  have hkeyed := h.keyed process
  cases c <;> rw [EnvironmentCommand.run]
  case attachActive environmentInstance contract =>
    rw [EStateM.finalState_get_bind]
    change Tracking ((EStateM.ofExcept ((s.environments process).attachActive s.ledger.stream
      environmentInstance contract) >>= _).finalState s)
    cases hattach : (s.environments process).attachActive s.ledger.stream environmentInstance
        contract with
    | error e => exact h
    | ok next => exact h.attached hattach (hkeeps next hattach).1
  case failover failedInstanceId key requestReprovision => exact h.failover hkeeps
  case register => exact h.performEnvironment fun r hr => recordsMove_register hr
  case verify => exact h.performEnvironment fun r hr => recordsMove_verify hkeyed hr
  case preflightEvidenceHook =>
    exact h.performEnvironment fun r hr => recordsMove_preflightEvidenceHook hkeyed hr
  case activate => exact h.performEnvironment fun r hr => recordsMove_activate hkeyed hr
  case retire => exact h.performEnvironment fun r hr => recordsMove_retire hkeyed hr

/-- A command of a service leaves the lifecycle of every process alone. -/
theorem environments_of_service (s : MemorySystem) (input : ServiceCommand × Clock) :
    (ServiceCommand.step s input).environments = s.environments := by
  have hrecord {σ : Type} [Service InMemoryOperationalLedger σ]
      (hwrite : ∀ (s : MemorySystem) (t : σ), (Component.write s t).environments = s.environments)
      (r : Recording σ) :
      EStateM.Preserves (fun t : MemorySystem => t.environments = s.environments)
        (record r) := by
    refine .of_final fun t ht => ?_
    rcases record_cases r t with ⟨e, herror⟩ | ⟨event, result, ledger, -, -, hrun⟩
    · rwa [EStateM.finalState_of_error herror]
    · unfold EStateM.finalState
      rw [hrun]
      cases r.update event result (EventWriter.advance (Component.read t) r.streamId result) <;>
        exact (hwrite _ _).trans ht
  exact (input.1.preserves (hrecord fun _ _ => rfl) (hrecord fun _ _ => rfl)
    (hrecord fun _ _ => rfl) (fun _ _ ht => ht) input.2).final rfl

omit [Sha256] in
private theorem not_isEnvironment_of_others {event : EventEnvelope} {s' : MemorySystem}
    (h : System.OthersWrote s event s') : ¬ event.payload.IsEnvironment := by
  rintro ⟨payload, hpayload⟩
  cases h with
  | kernel hown =>
    rw [hpayload] at hown
    cases hown
  | interface _ hknown => cases hknown.symm.trans hpayload
  | tokenLab _ hknown => cases hknown.symm.trans hpayload

/-- The ledger is these events and events of other services after them. -/
def OthersAfter (events : List StoredEvent) (s : MemorySystem) : Prop :=
  s.KernelSynced ∧ ∃ more, s.ledger.events = events ++ more ∧
    ∀ stored ∈ more, ¬ stored.event.payload.IsEnvironment

/-- A command of a service records no event of the lifecycle. -/
theorem othersAfter_kept (events : List StoredEvent) : KeptByRecording (OthersAfter events) where
  synced _ h := h.1
  stored _ data h := ⟨kernelSynced_kept.stored _ data h.1, h.2⟩
  mirrored s event s' h hmirrored := by
    obtain ⟨hsynced, more, hevents, hmore⟩ := h
    refine ⟨kernelSynced_kept.mirrored s event s' hsynced hmirrored,
      more ++ [s.ledger.store event], ?_, fun stored hstored => ?_⟩
    · rw [hmirrored.stepped.events, hevents, List.append_assoc]
    · rcases List.mem_append.mp hstored with hold | hnew
      · exact hmore stored hold
      · rw [List.mem_singleton.mp hnew]
        exact not_isEnvironment_of_others hmirrored.others

/-- **A command of a service.** -/
theorem Tracking.service (hsynced : s.KernelSynced) (h : Tracking s)
    (input : ServiceCommand × Clock) : Tracking (ServiceCommand.step s input) := by
  have henvironments := environments_of_service s input
  obtain ⟨-, more, hevents, hmore⟩ := ServiceCommand.invariant_step
    (othersAfter_kept s.ledger.events) s input ⟨hsynced, [], (List.append_nil _).symm, by simp⟩
  refine ⟨(h.toTrackingAs.grown hevents hmore henvironments).congr fun p id => ?_, fun p => ?_⟩
  · rw [henvironments]
  · rw [henvironments]
    exact h.keyed p

theorem kernelSynced_of_environment (hsynced : s.KernelSynced) (c : EnvironmentCommand)
    (clock : Clock) : ((c.run process clock).finalState s).KernelSynced :=
  ((c.preserves (kernelSynced_keptByLifecycle (fun _ => True) process)
    (fun _ _ hs => ⟨{ hs.1 with }, trivial⟩) clock).final ⟨hsynced, trivial⟩).1

/-- **One step**: a command of a service, or a lifecycle operation that keeps the law. -/
theorem tracking_step (s : MemorySystem) (input : SharedLedgerCommand × Clock)
    (hs : s.KernelSynced ∧ Tracking s) (hkeeps : KeepsLifecycle s input) :
    (SharedLedgerCommand.step s input).KernelSynced ∧
      Tracking (SharedLedgerCommand.step s input) := by
  obtain ⟨c, clock⟩ := input
  cases c with
  | service c =>
    exact ⟨ServiceCommand.invariant_step kernelSynced_kept s (c, clock) hs.1,
      hs.2.service hs.1 (c, clock)⟩
  | environment process c =>
    exact ⟨kernelSynced_of_environment hs.1 c clock, hs.2.environment c clock hkeeps⟩

/-- **Runs** of such steps keep the processes on the ledger. -/
theorem tracking_run (dataSpace : DataSpace) (inputs : List (SharedLedgerCommand × Clock))
    (hkeeps : Run.Along SharedLedgerCommand.step KeepsLifecycle (.new dataSpace) inputs) :
    Tracking (runShared (.new dataSpace) inputs) :=
  (Run.exec_invariant_along tracking_step inputs hkeeps
    ⟨System.kernelSynced_new dataSpace, tracking_new dataSpace⟩).2

/-- The ledger of a shared run only grows. -/
theorem prefix_runShared (s : MemorySystem) (inputs : List (SharedLedgerCommand × Clock)) :
    s.ledger.events <+: (runShared s inputs).ledger.events := by
  refine Run.exec_invariant (I := fun t : MemorySystem => s.ledger.events <+: t.ledger.events)
    (fun t input ht => ?_) inputs List.prefix_rfl
  obtain ⟨c, clock⟩ := input
  cases c with
  | service c =>
    have hkept := c.preserves (I := fun t => s.ledger.events <+: t.ledger.events)
      (fun r => .of_final fun _ => prefix_of_record r)
      (fun r => .of_final fun _ => prefix_of_record r)
      (fun r => .of_final fun _ => prefix_of_record r) (fun _ _ ht => ht) clock
    exact hkept.final ht
  | environment process c =>
    let : Service InMemoryOperationalLedger _ := environmentService process
    have hrecord : KeptByLifecycle
        (fun t : MemorySystem => s.ledger.events <+: t.ledger.events) process :=
      fun r _ => .of_final fun _ => prefix_of_record r
    exact (c.preserves hrecord (fun _ _ ht => ht) clock).final ht

/-! ### The law -/

/-- **The lifecycle law** of a shared run. The states of each instance per the ledger only move
forward or straight to retired. When an instance that is retired in the ledger is attached
afterwards, that service does not report it active. -/
def LifecycleLaw (dataSpace : DataSpace) (inputs : List (SharedLedgerCommand × Clock)) : Prop :=
  (∀ id, (states ((runShared (.new dataSpace) inputs).ledger.instanceLog id)).IsChain Moves) ∧
  ∀ first later process environmentInstance contract clock rest,
    inputs = first ++ later ++
      (.environment process (.attachActive environmentInstance contract), clock) :: rest →
    current ((runShared (.new dataSpace) first).ledger.instanceLog
      environmentInstance.instanceId) = some .retired →
    (∃ next, ((runShared (.new dataSpace) (first ++ later)).environments process).attachActive
      (runShared (.new dataSpace) (first ++ later)).ledger.stream environmentInstance contract =
        .ok next) →
    ((runShared (.new dataSpace) inputs).environments process).stateOf
      environmentInstance.instanceId ≠ some .active

omit [Sha256] in
theorem moves_retired (state : EnvironmentInstanceState) (h : Moves .retired state) :
    state = .retired := by
  cases h <;> rfl

/-- **The lifecycle law holds** along every run whose attachments find neither a candidate nor a
retired instance and whose failovers are not refused at their last event. -/
theorem lifecycleLaw_of_keepsLifecycle (dataSpace : DataSpace)
    (inputs : List (SharedLedgerCommand × Clock))
    (hkeeps : Run.Along SharedLedgerCommand.step KeepsLifecycle (.new dataSpace) inputs) :
    LifecycleLaw dataSpace inputs := by
  refine ⟨(tracking_run dataSpace inputs hkeeps).moves, ?_⟩
  rintro first later process environmentInstance contract clock rest rfl hretired ⟨next, hattach⟩
  obtain ⟨hbefore, hattached, -⟩ := Run.along_append.mp hkeeps
  -- Retired is final, so the attachment finds the instance retired.
  have hstill : current ((runShared (.new dataSpace) (first ++ later)).ledger.instanceLog
      environmentInstance.instanceId) = some .retired := by
    refine current_of_final moves_retired (InMemoryOperationalLedger.instanceLog_isPrefix _ ?_ _)
      ((tracking_run dataSpace (first ++ later) hbefore).moves _) hretired
    have hgrown := prefix_runShared (runShared (.new dataSpace) first) later
    rwa [runShared, runShared, ← Run.exec_append] at hgrown
  exact absurd hstill (hattached next hattach).2.2

end Step

/-! ### Runs of one instance -/

/-- A contract with one logical path. -/
def workspaceContract : EnvironmentContract where
  environmentFingerprint := "environment-contract-sha256:" ++
    "cc8321d6375c494d043fdd0260f21bc0ec51dacc9f6abb7f909cdcd3041b78bf"
  pathMappingNames := ["workspace"]

/-- A candidate for the contract. -/
def workspaceInstance : EnvironmentInstance where
  instanceId := "instance:host-1"
  dataSpaceId := "space:company-1"
  environmentFingerprint := workspaceContract.environmentFingerprint
  logicalPathBindings := .ofList [("workspace", "/srv/workspace")]
  cliExecutablePath := "/usr/bin/codex"
  codexHome := "/home/owner/.codex"
  environmentVariables := .empty
  machineIdentity := .empty
  instanceFingerprint := "b724bda956aeccc3bb06047cff986af291e742763b55cc50974f2fe171a4b9e6"
  state := .candidate

/-- A preflight trial of the candidate. -/
def workspaceEvidence : PreflightEvidence where
  verificationTuple := ⟨"codex", "0.42.0", "workspace-write",
    workspaceContract.environmentFingerprint⟩
  measuredSandboxPolicy := "workspace-write"
  measuredCapabilities := "exec"
  instanceFingerprint := workspaceInstance.instanceFingerprint
  checkedAt := "2026-01-01T00:00:00+00:00"
  rolloutRef := none
  versionFile := "/usr/bin/codex"
  versionFileMtimeNs := 0
  bridged := false

/-- One process commissions the instance, and another attaches it. -/
def attachedRun : List (SharedLedgerCommand × Clock) :=
  [(.environment 0 (.register workspaceInstance workspaceContract "register:1"), fun _ => 0),
    (.environment 0 (.verify "instance:host-1" workspaceEvidence "verify:1"), fun _ => 1),
    (.environment 0 (.activate "instance:host-1" "activate:1"), fun _ => 2),
    (.environment 1 (.attachActive workspaceInstance workspaceContract), fun _ => 3)]

theorem lifecycleLaw_of_attachedRun :
    letI := Sha256.polynomial
    LifecycleLaw companySpace attachedRun := by
  let := Sha256.polynomial
  refine lifecycleLaw_of_keepsLifecycle companySpace attachedRun
    ⟨trivial, trivial, trivial, fun _ _ => ?_, trivial⟩
  constructor <;> constructor <;> decide +kernel

/-- The instance is commissioned, attached and retired by two processes, and attached by a
third. -/
def reattachedRun : List (SharedLedgerCommand × Clock) :=
  attachedRun ++
    [(.environment 1 (.retire "instance:host-1" "retire:1"), fun _ => 4),
      (.environment 2 (.attachActive workspaceInstance workspaceContract), fun _ => 5)]

/-- **The law fails**: a service that attaches a retired instance reports it active. -/
theorem retired_attached_breaks_lifecycleLaw :
    letI := Sha256.polynomial
    ¬ LifecycleLaw companySpace reattachedRun := by
  let := Sha256.polynomial
  intro hlaw
  exact hlaw.2 (reattachedRun.take 5) [] 2 workspaceInstance workspaceContract (fun _ => 5) [] rfl
    (by decide +kernel) (Checked.exists_ok_of_isOk (by decide +kernel)) (by decide +kernel)

end Nanihold
