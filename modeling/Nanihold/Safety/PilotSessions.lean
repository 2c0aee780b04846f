import Nanihold.Pilot.Host
import Nanihold.Safety.Effects

/-!
# PilotHost sessions over runs

A stream that ends disconnects its host and pauses the executions of the host. The disconnection
is recorded under a key made from the host and the cursor, so a second stream that ends where an
earlier one ended finds the key in use: its host stays connected, and its executions stay active.

## Main definitions

* `StreamInput`, `runStreams` — the steps of sessions, one after another, among other commands.
* `EndsAt` — the cursor at which a step ends a session.
* `FreshEnd` — the disconnection at a cursor can be recorded.
* `SessionLaw` — every session leaves a disconnected host without active executions.

## Main results

* `sessionLaw_of_freshEnds` — the law in runs whose sessions end at fresh cursors.
-/

namespace Nanihold

open PilotStream

variable [Sha256]

/-- A step of a run: a command of a service, or a step of the session of a PilotHost. -/
inductive StreamInput where
  | command (c : ServiceCommand)
  | resume (executionId pilotHostId actorId idempotencyKey : String)
  /-- A PilotHost opens a stream. -/
  | hello (pilotHostId : String) (identity : DeviceIdentity) (acknowledgedCursor : Int)
      (connectedAt : DateTime)
  /-- The PilotHost asks for the next page. -/
  | tail
  | ack (cursor : Int)
  /-- The PilotHost goes away, or sends what the stream does not accept. -/
  | leave

/-- One step of a run. A stream has messages while it is open, and only one is open at a time. -/
def StreamInput.run (clock : Clock) (input : StreamInput) : PilotStreamM Unit := do
  let p ← get
  match input, p.session with
  | .command c, _ => onSystem (c.run clock)
  | .resume executionId pilotHostId actorId key, _ =>
    resumeExecution executionId pilotHostId actorId key clock
  | .hello pilotHostId identity cursor connectedAt, none =>
    openStream pilotHostId identity cursor connectedAt
  | .ack cursor, some session => acknowledgeStream session cursor clock
  | .leave, some session => closeStream session.pilotHostId session.cursor clock
  | _, _ => return

def StreamInput.step (p : PilotStream) (input : StreamInput × Clock) : PilotStream :=
  (input.1.run input.2).finalState p

/-- The coordinator and its system after a run. -/
def runStreams (p : PilotStream) (inputs : List (StreamInput × Clock)) : PilotStream :=
  Run.exec StreamInput.step p inputs

/-- A process without sessions over an empty ledger. -/
def PilotStream.new (dataSpace : DataSpace) (expectedIdentity : DeviceIdentity) : PilotStream where
  system := .new dataSpace
  pilotHosts := .new expectedIdentity
  session := none

/-! ### The end of a session -/

/-- The step ends the session of the host at the cursor: the host leaves, or it acknowledges a
cursor that is refused. -/
def EndsAt (p : PilotStream) (input : StreamInput) (pilotHostId : String) (cursor : Int) : Prop :=
  ∃ session, p.session = some session ∧ session.pilotHostId = pilotHostId ∧
    ((input = .leave ∧ cursor = session.cursor) ∨
      (input = .ack cursor ∧
        ∀ next, p.pilotHosts.acknowledge p.system.ledger pilotHostId cursor ≠ .ok next))

/-- The disconnection of the host at the cursor can be recorded: its key is admissible and in no
use, and no service but the Kernel has written to the stream of the host. -/
structure FreshEnd (s : MemorySystem) (pilotHostId : String) (cursor : Int) : Prop where
  nonblank : isNonBlank (disconnectKey pilotHostId cursor) = true
  fresh_key : s.ledger.idempotency.get? (disconnectKey pilotHostId cursor) = none
  fresh_id : s.ledger.eventIds.get? (deterministicEventId s.kernel.dataSpace.dataSpaceId
    pilotHostId (disconnectKey pilotHostId cursor)) = none
  own_stream : s.ledger.streamLength pilotHostId = s.kernel.versions.getD pilotHostId 0

/-- A session that this step ends can record its disconnection. -/
def EndsFresh (p : PilotStream) (input : StreamInput × Clock) : Prop :=
  ∀ pilotHostId cursor, EndsAt p input.1 pilotHostId cursor → FreshEnd p.system pilotHostId cursor

/-- The host is disconnected, and none of its executions is active. -/
structure Released (p : PilotStream) (pilotHostId : String) : Prop where
  host : ∃ status, p.pilotHosts.hosts.get? pilotHostId = some status ∧ status.state = .disconnected
  executions : ∀ id execution, p.system.kernel.executions.get? id = some execution →
    execution.pilotHostId = pilotHostId → execution.state ≠ .active

omit [Sha256] in
/-- The Kernel pauses every active execution of a host that went away. -/
theorem not_active_of_disconnected {k next : Kernel} {event : EventEnvelope} {pilotHostId : String}
    (h : k.Changes event (.pilotHostDisconnected pilotHostId) next) {id : String}
    {execution : Execution} (hget : next.executions.get? id = some execution)
    (hhost : execution.pilotHostId = pilotHostId) : execution.state ≠ .active := by
  rw [h.executions, Kernel.executionsAfter, OrderedDict.get?_mapValues] at hget
  obtain ⟨old, -, rfl⟩ := Option.map_eq_some_iff.mp hget
  rw [Kernel.disconnected] at hhost ⊢
  split_ifs at hhost ⊢ with hactive
  · simp [Kernel.pauseActive]
  · exact fun hstate => hactive ⟨hhost, hstate⟩

section Close

variable {dataSpace : DataSpace} {s : MemorySystem} {pilotHostId : String} {cursor : Int}
  {clock : Clock}

/-- A disconnection that can be recorded returns. -/
theorem pilotHostDisconnected_returns (hs : SyncedIn dataSpace s)
    (hidentifier : isIdentifier dataSpace.dataSpaceId = true)
    (hhost : isIdentifier pilotHostId = true) (hfresh : FreshEnd s pilotHostId cursor) :
    ∃ s', (KernelCommand.pilotHostDisconnected pilotHostId (disconnectKey pilotHostId cursor)).run
      clock s = .ok () s' := by
  have hspace : isIdentifier s.kernel.dataSpace.dataSpaceId = true := hs.2 ▸ hidentifier
  obtain ⟨answer, s', hperform⟩ :=
    perform_returns (fun _ : MemorySystem => Kernel.pilotHostDisconnected pilotHostId
      (disconnectKey pilotHostId cursor) clock) rfl
      ⟨_, _, Recording.envelope_of_valid rfl hspace hhost rfl hhost rfl hfresh.nonblank,
        InMemoryOperationalLedger.append_of_appendable _
          { data_space := hs.1.data_space.symm
            fresh_key := hfresh.fresh_key
            fresh_id := hfresh.fresh_id
            next_version := congrArg (· + 1) hfresh.own_stream.symm } hfresh.own_stream⟩
      fun event result service => ⟨_, rfl⟩
  rw [KernelCommand.run, performKernel]
  exact ⟨s', EStateM.run_bind_of_ok hperform⟩

/-- The coordinator after a disconnection whose event was recorded. -/
theorem disconnect_run {p : PilotStream} {status : PilotHostStatus} {s' : MemorySystem}
    {key : String} {disconnectedAt : DateTime}
    (hget : p.pilotHosts.hosts.get? pilotHostId = some status) (hstate : status.state = .connected)
    (hreturns : (KernelCommand.pilotHostDisconnected pilotHostId key).run clock p.system =
      .ok () s') :
    disconnect pilotHostId disconnectedAt key clock p =
      .ok () { p with
        system := s'
        pilotHosts.hosts := p.pilotHosts.hosts.set pilotHostId
          { status with state := .disconnected, disconnectedAt := some disconnectedAt } } := by
  have hrequire : p.pilotHosts.requireConnected pilotHostId "PilotHost is not connected" =
      .ok status := by
    rw [PilotHostCoordinator.requireConnected, hget, Checked.orRaise_some_bind,
      Checked.check_bind_of hstate]
    rfl
  rw [disconnect, EStateM.run_get_bind, hrequire, EStateM.run_ofExcept_ok_bind, onSystem,
    EStateM.run_bind_of_ok (EStateM.run_zoom_of_ok hreturns)]
  rfl

/-- **The end of a session** at a fresh cursor releases its host. -/
theorem closeStream_released {p : PilotStream} (hs : SyncedIn dataSpace p.system)
    (hidentifier : isIdentifier dataSpace.dataSpaceId = true)
    (hhost : isIdentifier pilotHostId = true) {status : PilotHostStatus}
    (hget : p.pilotHosts.hosts.get? pilotHostId = some status) (hstate : status.state = .connected)
    (hfresh : FreshEnd p.system pilotHostId cursor) :
    Released ((closeStream pilotHostId cursor clock).finalState p) pilotHostId := by
  let closed : PilotStream := { p with session := none }
  obtain ⟨s', hreturns⟩ : ∃ s', (KernelCommand.pilotHostDisconnected pilotHostId
      (disconnectKey pilotHostId cursor)).run (fun reading => clock (reading + 1)) p.system =
        .ok () s' :=
    pilotHostDisconnected_returns hs hidentifier hhost hfresh
  have hrun : closeStream pilotHostId cursor clock p =
      disconnect pilotHostId (clock 0) (disconnectKey pilotHostId cursor)
        (fun reading => clock (reading + 1)) closed := by
    rw [closeStream, EStateM.run_bind_of_ok (EStateM.run_modify_eq _ p), EStateM.run_get_bind]
    simp only [hget, hstate, if_true]
    rfl
  have hclosed := hrun.trans (disconnect_run (p := closed) hget hstate hreturns)
  rw [EStateM.finalState_of_ok hclosed]
  constructor
  · exact ⟨_, OrderedDict.get?_set_self _ _ _, rfl⟩
  · rcases performKernel_cases hs.1.toKernelSynced
        (fun _ => Kernel.pilotHostDisconnected pilotHostId (disconnectKey pilotHostId cursor)
          fun reading => clock (reading + 1))
        (fun _ payload => payload = .pilotHostDisconnected pilotHostId)
        fun r hr => ⟨_, _, rfl, Kernel.replayable_pilotHostDisconnected hr⟩ with
      ⟨e, herror⟩ | ⟨event, next, ⟨payload, hpayload, rfl, hmirrored⟩, hok⟩
    · exact nomatch hreturns.symm.trans herror
    · obtain rfl : next = s' := by injection hok.symm.trans hreturns
      obtain ⟨-, happlied⟩ := hmirrored.stepped.kernel hpayload
      have hchanges := Kernel.changes_of_applyKernel hs.1.toKernelSynced.consistent happlied
      exact fun id execution hget hhost => not_active_of_disconnected hchanges hget hhost

end Close

/-! ### Steps -/

section Steps

variable {dataSpace : DataSpace} {p : PilotStream} {clock : Clock}

/-- A command of a service changes the system alone. -/
theorem finalState_onSystem (c : ServiceCommand) (clock : Clock) (p : PilotStream) :
    (onSystem (c.run clock)).finalState p =
      { p with system := ServiceCommand.step p.system (c, clock) } :=
  EStateM.finalState_zoom _ _

/-- What a step keeps: a synced system, with the session and the hosts as they are. -/
def KeptBeside (dataSpace : DataSpace) (session : Option StreamSession)
    (pilotHosts : PilotHostCoordinator) (p : PilotStream) : Prop :=
  SyncedIn dataSpace p.system ∧ p.session = session ∧ p.pilotHosts = pilotHosts

theorem keptBeside_onSystem {session : Option StreamSession} {pilotHosts : PilotHostCoordinator}
    (c : ServiceCommand) (clock : Clock) :
    EStateM.Preserves (KeptBeside dataSpace session pilotHosts) (onSystem (c.run clock)) := by
  refine EStateM.Preserves.of_final fun p hp => ?_
  rw [finalState_onSystem]
  exact ⟨ServiceCommand.invariant_step (syncedIn_kept dataSpace) p.system (c, clock) hp.1, hp.2⟩

theorem keptBeside_resumeExecution {session : Option StreamSession}
    {pilotHosts : PilotHostCoordinator} (executionId pilotHostId actorId key : String)
    (clock : Clock) :
    EStateM.Preserves (KeptBeside dataSpace session pilotHosts)
      (resumeExecution executionId pilotHostId actorId key clock) :=
  EStateM.Preserves.bind .get fun _ =>
    EStateM.Preserves.bind (.ofExcept _) fun _ =>
      EStateM.Preserves.bind (.ofExcept _) fun _ =>
        EStateM.Preserves.bind (.ofExcept _) fun _ =>
          keptBeside_onSystem (.kernel (.setExecutionState executionId .active "pilot" actorId key
            none)) clock

/-- A stream that is closed leaves no session, and a synced system. -/
theorem closeStream_kept (hs : SyncedIn dataSpace p.system) (pilotHostId : String) (cursor : Int)
    (clock : Clock) :
    ((closeStream pilotHostId cursor clock).finalState p).session = none ∧
      SyncedIn dataSpace ((closeStream pilotHostId cursor clock).finalState p).system := by
  let closed : PilotStream := { p with session := none }
  have hclosed : (closeStream pilotHostId cursor clock).finalState p =
      (closeStream pilotHostId cursor clock).finalState closed := rfl
  have hdisconnect (key : String) (clock : Clock) (disconnectedAt : DateTime) :
      EStateM.Preserves (fun q : PilotStream => q.session = none ∧ SyncedIn dataSpace q.system)
        (disconnect pilotHostId disconnectedAt key clock) := by
    refine EStateM.Preserves.bind .get fun _ => .bind (.ofExcept _) fun _ => .bind ?_ fun _ =>
      .modify fun _ hq => hq
    refine EStateM.Preserves.of_final fun q hq => ?_
    have hfinal := finalState_onSystem (.kernel (.pilotHostDisconnected pilotHostId key)) clock q
    rw [ServiceCommand.run] at hfinal
    rw [hfinal]
    exact ⟨hq.1, ServiceCommand.invariant_step (syncedIn_kept dataSpace) q.system _ hq.2⟩
  have hpreserves : EStateM.Preserves
      (fun q : PilotStream => q.session = none ∧ SyncedIn dataSpace q.system)
      (closeStream pilotHostId cursor clock) := by
    refine EStateM.Preserves.bind (.modify fun _ hq => ⟨rfl, hq.2⟩) fun _ => .bind .get fun q => ?_
    split
    · exact .pure ()
    · split_ifs
      · exact hdisconnect _ _ _
      · exact .pure ()
  rw [hclosed]
  exact hpreserves.final ⟨rfl, hs⟩

/-- The host of an open session is connected, and its name is an identifier. -/
structure Tracked (dataSpace : DataSpace) (p : PilotStream) : Prop where
  synced : SyncedIn dataSpace p.system
  session : ∀ session, p.session = some session → isIdentifier session.pilotHostId = true ∧
    ∃ status, p.pilotHosts.hosts.get? session.pilotHostId = some status ∧
      status.state = .connected

theorem tracked_of_closed (hp : Tracked dataSpace p) (pilotHostId : String) (cursor : Int) :
    Tracked dataSpace ((closeStream pilotHostId cursor clock).finalState p) := by
  obtain ⟨hnone, hsynced⟩ := closeStream_kept hp.synced pilotHostId cursor clock
  exact ⟨hsynced, fun session hsession => nomatch hnone.symm.trans hsession⟩

omit [Sha256] in
/-- A greeting is refused, or it opens a session of a connected host. -/
theorem tracked_of_opened (hp : Tracked dataSpace p) (pilotHostId : String)
    (identity : DeviceIdentity) (cursor : Int) (connectedAt : DateTime) :
    Tracked dataSpace ((openStream pilotHostId identity cursor connectedAt).finalState p) := by
  rw [openStream, EStateM.finalState_get_bind]
  by_cases hname : identity.pilotHostId = pilotHostId
  · have hrequire : require (identity.pilotHostId = pilotHostId) "PilotHost identity mismatch" =
        .ok () := Checked.check_eq_ok_iff.mpr hname
    rw [hrequire, EStateM.finalState_ofExcept_ok_bind]
    cases hconnect : p.pilotHosts.connect p.system.ledger identity cursor connectedAt with
    | error e => exact hp
    | ok pilotHosts =>
      rw [EStateM.finalState_ofExcept_ok_bind]
      refine ⟨hp.synced, fun session hsession => ?_⟩
      obtain rfl := Option.some.inj hsession
      simp only [PilotHostCoordinator.connect, Checked.bind_eq_ok_iff,
        Checked.pure_eq_ok_iff] at hconnect
      obtain ⟨_, -, _, -, _, -, rfl⟩ := hconnect
      refine ⟨hname ▸ identity.pilot_host_id_valid, ?_⟩
      rw [← hname]
      exact ⟨_, OrderedDict.get?_set_self _ _ _, rfl⟩
  · have hrequire : require (identity.pilotHostId = pilotHostId) "PilotHost identity mismatch" =
        .error (.invariantViolation "PilotHost identity mismatch") := if_neg hname
    rw [hrequire, EStateM.finalState_ofExcept_error_bind]
    exact hp

/-- An acknowledgement is taken over, or it ends the session. -/
theorem acknowledgeStream_cases (p : PilotStream) (session : StreamSession) (cursor : Int)
    (clock : Clock) :
    (∃ pilotHosts, p.pilotHosts.acknowledge p.system.ledger session.pilotHostId cursor =
        .ok pilotHosts ∧
      (acknowledgeStream session cursor clock).finalState p =
        { p with pilotHosts := pilotHosts, session := some { session with cursor := cursor } }) ∨
    ((∀ next, p.pilotHosts.acknowledge p.system.ledger session.pilotHostId cursor ≠ .ok next) ∧
      (acknowledgeStream session cursor clock).finalState p =
        (closeStream session.pilotHostId cursor clock).finalState p) := by
  rw [acknowledgeStream, EStateM.finalState_get_bind]
  cases hack : p.pilotHosts.acknowledge p.system.ledger session.pilotHostId cursor with
  | ok pilotHosts => exact Or.inl ⟨pilotHosts, rfl, rfl⟩
  | error e =>
    refine Or.inr ⟨(fun next h => nomatch h), ?_⟩
    cases hclose : closeStream session.pilotHostId cursor clock p with
    | ok u q =>
      rw [EStateM.finalState_bind_of_ok hclose, EStateM.finalState_of_ok hclose]
      rfl
    | error e' q =>
      rw [EStateM.finalState_bind_of_error hclose, EStateM.finalState_of_error hclose]

omit [Sha256] in
/-- A host that acknowledges stays connected. -/
theorem connected_of_acknowledge {c next : PilotHostCoordinator}
    {ledger : InMemoryOperationalLedger} {pilotHostId : String} {cursor : Int}
    (h : c.acknowledge ledger pilotHostId cursor = .ok next) :
    ∃ status, next.hosts.get? pilotHostId = some status ∧ status.state = .connected := by
  obtain ⟨host, hhost, h⟩ := Checked.bind_eq_ok_iff.mp h
  obtain ⟨known, -, hknown⟩ := Checked.bind_eq_ok_iff.mp hhost
  obtain ⟨hstate, hsame⟩ := Checked.check_bind_eq_ok_iff.mp hknown
  obtain rfl := Checked.pure_eq_ok_iff.mp hsame
  obtain ⟨-, h⟩ := Checked.check_bind_eq_ok_iff.mp h
  obtain ⟨_, -, h⟩ := Checked.bind_eq_ok_iff.mp h
  obtain rfl := Checked.pure_eq_ok_iff.mp h
  exact ⟨_, OrderedDict.get?_set_self _ _ _, hstate⟩

omit [Sha256] in
private theorem tracked_of_keptBeside {q : PilotStream} (hp : Tracked dataSpace p)
    (h : KeptBeside dataSpace p.session p.pilotHosts q) : Tracked dataSpace q := by
  obtain ⟨hsynced, hsession, hhosts⟩ := h
  refine ⟨hsynced, ?_⟩
  rw [hsession, hhosts]
  exact hp.session

theorem StreamInput.step_ack {session : StreamSession} (h : p.session = some session)
    (cursor : Int) (clock : Clock) :
    StreamInput.step p (.ack cursor, clock) =
      (acknowledgeStream session cursor clock).finalState p := by
  rw [StreamInput.step, StreamInput.run, EStateM.finalState_get_bind]
  simp only [h]

theorem StreamInput.step_leave {session : StreamSession} (h : p.session = some session)
    (clock : Clock) :
    StreamInput.step p (.leave, clock) =
      (closeStream session.pilotHostId session.cursor clock).finalState p := by
  rw [StreamInput.step, StreamInput.run, EStateM.finalState_get_bind]
  simp only [h]

/-- A message without a session, or a greeting during one, does nothing. -/
private theorem step_idle {input : StreamInput} (clock : Clock)
    (h : match input, p.session with
      | .command _, _ | .resume _ _ _ _, _ | .hello _ _ _ _, none | .ack _, some _
      | .leave, some _ => False
      | _, _ => True) : StreamInput.step p (input, clock) = p := by
  rw [StreamInput.step, StreamInput.run, EStateM.finalState_get_bind]
  cases input <;> cases hsession : p.session <;> simp_all

/-- **Every step** keeps the open session tracked. -/
theorem tracked_step (p : PilotStream) (input : StreamInput × Clock) (hp : Tracked dataSpace p) :
    Tracked dataSpace (StreamInput.step p input) := by
  obtain ⟨input, clock⟩ := input
  have hbeside : KeptBeside dataSpace p.session p.pilotHosts p := ⟨hp.synced, rfl, rfl⟩
  cases input with
  | command c => exact tracked_of_keptBeside hp ((keptBeside_onSystem c clock).final hbeside)
  | resume executionId pilotHostId actorId key =>
    exact tracked_of_keptBeside hp
      ((keptBeside_resumeExecution executionId pilotHostId actorId key clock).final hbeside)
  | hello pilotHostId identity cursor connectedAt =>
    cases hsession : p.session with
    | none =>
      rw [StreamInput.step, StreamInput.run, EStateM.finalState_get_bind]
      simp only [hsession]
      exact tracked_of_opened hp pilotHostId identity cursor connectedAt
    | some session => rwa [step_idle clock (by simp [hsession])]
  | tail => rwa [step_idle clock (by simp)]
  | ack cursor =>
    cases hsession : p.session with
    | none => rwa [step_idle clock (by simp [hsession])]
    | some session =>
      rw [StreamInput.step_ack hsession]
      rcases acknowledgeStream_cases p session cursor clock with
        ⟨pilotHosts, hack, hfinal⟩ | ⟨-, hfinal⟩
      · rw [hfinal]
        refine ⟨hp.synced, fun opened hopened => ?_⟩
        obtain rfl := Option.some.inj hopened
        exact ⟨(hp.session session hsession).1, connected_of_acknowledge hack⟩
      · rw [hfinal]
        exact tracked_of_closed hp session.pilotHostId cursor
  | leave =>
    cases hsession : p.session with
    | none => rwa [step_idle clock (by simp [hsession])]
    | some session =>
      rw [StreamInput.step_leave hsession]
      exact tracked_of_closed hp session.pilotHostId session.cursor

/-- **A step that ends a session** at a fresh cursor releases its host. -/
theorem released_step (hidentifier : isIdentifier dataSpace.dataSpaceId = true)
    (hp : Tracked dataSpace p) {session : StreamSession} (hsession : p.session = some session)
    (input : StreamInput × Clock) (hfresh : EndsFresh p input)
    (hended : (StreamInput.step p input).session = none) :
    Released (StreamInput.step p input) session.pilotHostId := by
  obtain ⟨input, clock⟩ := input
  obtain ⟨hhost, status, hget, hstate⟩ := hp.session session hsession
  have hbeside : KeptBeside dataSpace p.session p.pilotHosts p := ⟨hp.synced, rfl, rfl⟩
  -- Only an end of the session takes it away.
  have hopen {q : PilotStream} (h : KeptBeside dataSpace p.session p.pilotHosts q)
      (hnone : q.session = none) : Released q session.pilotHostId :=
    nomatch (h.2.1.symm.trans hnone).symm.trans hsession
  cases input with
  | command c => exact hopen ((keptBeside_onSystem c clock).final hbeside) hended
  | resume executionId pilotHostId actorId key =>
    exact hopen ((keptBeside_resumeExecution executionId pilotHostId actorId key clock).final
      hbeside) hended
  | hello => exact hopen (by rwa [step_idle clock (by simp [hsession])]) hended
  | tail => exact hopen (by rwa [step_idle clock (by simp)]) hended
  | ack cursor =>
    rw [StreamInput.step_ack hsession] at hended ⊢
    rcases acknowledgeStream_cases p session cursor clock with
      ⟨pilotHosts, hack, hfinal⟩ | ⟨hrefused, hfinal⟩
    · rw [hfinal] at hended
      exact nomatch hended
    · rw [hfinal]
      exact closeStream_released hp.synced hidentifier hhost hget hstate
        (hfresh _ _ ⟨session, hsession, rfl, Or.inr ⟨rfl, hrefused⟩⟩)
  | leave =>
    rw [StreamInput.step_leave hsession]
    exact closeStream_released hp.synced hidentifier hhost hget hstate
      (hfresh _ _ ⟨session, hsession, rfl, Or.inl ⟨rfl, rfl⟩⟩)

end Steps

/-! ### The law of sessions -/

/-- Every session that a step of the run ends leaves its host disconnected, and none of the
host's executions active. -/
def SessionLaw (dataSpace : DataSpace) (identity : DeviceIdentity)
    (inputs : List (StreamInput × Clock)) : Prop :=
  ∀ first input rest session, inputs = first ++ input :: rest →
    (runStreams (.new dataSpace identity) first).session = some session →
    (runStreams (.new dataSpace identity) (first ++ [input])).session = none →
    Released (runStreams (.new dataSpace identity) (first ++ [input])) session.pilotHostId

/-- **The law of sessions** holds in every run whose sessions end at fresh cursors. -/
theorem sessionLaw_of_freshEnds (dataSpace : DataSpace)
    (hidentifier : isIdentifier dataSpace.dataSpaceId = true) (identity : DeviceIdentity)
    (inputs : List (StreamInput × Clock))
    (hc : Run.Along StreamInput.step EndsFresh (.new dataSpace identity) inputs) :
    SessionLaw dataSpace identity inputs := by
  rintro first input rest session rfl hsession hended
  obtain ⟨-, hinput, -⟩ := Run.along_append.mp hc
  have hp : Tracked dataSpace (runStreams (.new dataSpace identity) first) :=
    Run.exec_invariant (fun p input hp => tracked_step p input hp) first
      ⟨syncedIn_new dataSpace, fun _ h => nomatch h⟩
  rw [runStreams, Run.exec_concat] at hended ⊢
  exact released_step hidentifier hp hsession input hinput hended

/-! ### Two sessions at one cursor -/

omit [Sha256] in
/-- Only a host that leaves and a refused acknowledgement end a session. -/
theorem not_endsAt_of_ne {p : PilotStream} {input : StreamInput} (hleave : input ≠ .leave)
    (hack : ∀ cursor, input ≠ .ack cursor) (pilotHostId : String) (cursor : Int) :
    ¬ EndsAt p input pilotHostId cursor := by
  rintro ⟨session, -, -, ⟨hinput, -⟩ | ⟨hinput, -⟩⟩
  · exact hleave hinput
  · exact hack cursor hinput

/-- The registered device of the company. -/
def companyDevice : DeviceIdentity where
  pilotHostId := "host:1"
  deviceId := "device:1"
  certificateSha256 := ""
  pilot_host_id_valid := by decide

/-- The company's execution is requested, its host opens a stream, and the execution runs. -/
def openSession : List (StreamInput × Clock) :=
  startedRun.map (fun input => (.command input.1, input.2)) ++
    [(.hello "host:1" companyDevice 0 0, fun _ => 0),
      (.resume "execution:1" "host:1" "pilot:1" "resume:1", fun _ => 0)]

/-- The host leaves. -/
def departure : StreamInput × Clock := (.leave, fun _ => 0)

/-- The host opens a stream and leaves it. -/
def firstSession : List (StreamInput × Clock) := openSession ++ [departure]

omit [Sha256] in
/-- The first session releases its host. -/
theorem sessionLaw_of_firstSession :
    letI := Sha256.polynomial
    SessionLaw companySpace companyDevice firstSession := by
  let := Sha256.polynomial
  refine sessionLaw_of_freshEnds companySpace (by decide) companyDevice _ ?_
  have hsession : (Run.exec StreamInput.step (.new companySpace companyDevice)
      openSession).session = some ⟨"host:1", 0⟩ := by
    decide +kernel
  have hfresh : FreshEnd (Run.exec StreamInput.step (.new companySpace companyDevice)
      openSession).system "host:1" 0 := by
    constructor <;> decide +kernel
  have hmessages : ∀ input ∈ openSession, input.1 ≠ .leave ∧ ∀ cursor, input.1 ≠ .ack cursor := by
    intro input hinput
    rcases List.mem_append.mp hinput with hcommand | hmessage
    · obtain ⟨command, -, rfl⟩ := List.mem_map.mp hcommand
      simp
    · simp only [List.mem_cons, List.not_mem_nil, or_false] at hmessage
      rcases hmessage with rfl | rfl <;> simp
  rw [firstSession, Run.along_append]
  refine ⟨Run.along_of_forall fun input hinput p => ?_, ?_, trivial⟩
  · obtain ⟨hleave, hack⟩ := hmessages input hinput
    exact fun pilotHostId cursor hends => absurd hends (not_endsAt_of_ne hleave hack _ _)
  · rintro pilotHostId cursor ⟨session, hopen, rfl, ⟨-, rfl⟩ | ⟨hinput, -⟩⟩
    · obtain rfl := Option.some.inj (hsession.symm.trans hopen)
      exact hfresh
    · exact nomatch hinput

/-- The host comes back at the same cursor and resumes its execution. -/
def reopenedSession : List (StreamInput × Clock) :=
  firstSession ++
    [(.hello "host:1" companyDevice 0 0, fun _ => 0),
      (.resume "execution:1" "host:1" "pilot:1" "resume:2", fun _ => 0)]

omit [Sha256] in
/-- The second session ends at the cursor of the first, and leaves its host connected and its
execution active. -/
theorem secondDeparture_breaks_sessionLaw :
    letI := Sha256.polynomial
    ¬ SessionLaw companySpace companyDevice (reopenedSession ++ [departure]) := by
  intro h
  have hopen :
      (@runStreams Sha256.polynomial (.new companySpace companyDevice) reopenedSession).session =
      some ⟨"host:1", 0⟩ := by
    decide +kernel
  have hended : (@runStreams Sha256.polynomial (.new companySpace companyDevice)
      (reopenedSession ++ [departure])).session = none := by
    decide +kernel
  have hactive : ((@runStreams Sha256.polynomial (.new companySpace companyDevice)
      (reopenedSession ++ [departure])).system.kernel.executions.get? "execution:1").map
        (fun execution => (execution.pilotHostId, execution.state)) =
      some ("host:1", .active) := by
    decide +kernel
  have hreleased := h reopenedSession departure [] ⟨"host:1", 0⟩ rfl hopen hended
  obtain ⟨execution, hget, hfields⟩ := Option.map_eq_some_iff.mp hactive
  obtain ⟨hhost, hstate⟩ := Prod.mk.inj hfields
  exact hreleased.executions _ _ hget hhost hstate

end Nanihold
