import Mathlib
import Nanihold.Safety.DeadEnds
import Nanihold.Safety.EventDeltas
import Nanihold.Safety.Pagination

/-!
# The events that a Pilot is told about

In each round of a reorientation the Pilot is shown a history result and the events since the result
of the round before. The events of other writers in between make the deltas longer and nothing else:
the deltas join up, together they are the ledger from the import to the last result shown, and each
of them ends with the event of the result that the Pilot asked for in the round before.

## Main definitions

* `Follows` — a data space after other writers were at work.
* `ReorientationService.OthersFollow` — what is assumed of the other writers.
* `eventsOf` — the events that a delta covers.
* `RoundsLaw` — the law of the rounds that the Pilot was shown.
* `AtRound`, `Responded` — an execution before and after it shows a result.
* `ImportPlaced` — where the import stands.

## Main results

* `reorientationDelta_eq` — the delta is a true summary of the events between its cursors.
* `follows_of_reaches`, `follows_append` — recorded events and events of other processes follow.
* `ReorientationService.known_of_resolve` — a query is recorded past everything known before.
* `importPlaced_of_reaches` — an import stands at its cursor, in an event that the service knows.
* `roundsLaw_execute` — the law holds in every execution, whether it returns or raises.
-/

namespace Nanihold

open Dispatcher (DeltaScan stretchDelta cursor_foldl_count summarizes_stretchDelta filter_covers)

/-! ### Reading the delta -/

section Delta

variable {ledger : InMemoryOperationalLedger} {throughCursor : Nat}

/-- The cursors of a page count on from the cursor it was read after. -/
private theorem cursors_take_drop (ledger : InMemoryOperationalLedger) (after limit : Nat) :
    ((ledger.events.drop after).take limit).map (·.cursor) =
      List.range' (after + 1) ((ledger.events.drop after).take limit).length := by
  rw [List.map_take, ledger.cursors_drop, List.length_take]
  rcases Nat.le_total (ledger.events.drop after).length limit with hle | hge
  · rw [List.take_range'_of_length_le hle, Nat.min_eq_right hle]
  · rw [List.take_range'_of_length_ge hge, Nat.min_eq_left hge]

/-- **Reading page by page** counts the events up to the cursor, and never fails. -/
theorem readDelta_eq (hthrough : throughCursor ≤ ledger.events.length) (pages : Nat)
    (scan : DeltaScan) (hpages : throughCursor - scan.cursor < pages) :
    readDelta ledger throughCursor pages scan =
      .ok (((ledger.events.take throughCursor).drop scan.cursor).foldl DeltaScan.count scan) := by
  induction pages generalizing scan with
  | zero => omega
  | succ pages ih =>
    rw [readDelta]
    by_cases hbefore : scan.cursor < throughCursor
    · rw [if_pos hbefore]
      let limit := min 500 (throughCursor - scan.cursor)
      have hpos : 0 < limit := by omega
      let page := (ledger.events.drop scan.cursor).take limit
      have hread : ledger.page scan.cursor limit = .ok page := ledger.page_eq hpos scan.cursor
      have hlength : page.length = limit := by
        rw [List.length_take, List.length_drop]
        omega
      have hcursors : page.map (·.cursor) = List.range' (scan.cursor + 1) page.length :=
        cursors_take_drop ledger scan.cursor limit
      have hwhole : page.takeWhile (·.cursor ≤ throughCursor) = page := by
        refine List.takeWhile_eq_self_iff.mpr fun stored hstored => decide_eq_true ?_
        have hmem := List.mem_map_of_mem (f := (·.cursor)) hstored
        rw [hcursors, List.mem_range'_1] at hmem
        omega
      have hcount : (page.foldl DeltaScan.count scan).cursor = scan.cursor + limit := by
        rw [cursor_foldl_count hcursors, hlength]
      have hne : page ≠ [] := by
        intro hnil
        rw [hnil] at hlength
        exact absurd hlength.symm hpos.ne'
      have hsplit : (ledger.events.take throughCursor).drop scan.cursor =
          page ++ (ledger.events.take throughCursor).drop (scan.cursor + limit) := by
        rw [← List.take_append_drop limit ((ledger.events.take throughCursor).drop scan.cursor),
          List.drop_drop, List.drop_take, List.take_take, Nat.min_eq_left (Nat.min_le_right _ _)]
      change (ledger.page scan.cursor limit >>= fun page =>
        require (page ≠ []) "reorientation Event Ledger delta ended early" >>= fun _ =>
          readDelta ledger throughCursor pages
            ((page.takeWhile (·.cursor ≤ throughCursor)).foldl DeltaScan.count scan)) = _
      rw [hread]
      change (require (page ≠ []) "reorientation Event Ledger delta ended early" >>= fun _ =>
        readDelta ledger throughCursor pages
          ((page.takeWhile (·.cursor ≤ throughCursor)).foldl DeltaScan.count scan)) = _
      rw [require, Checked.check_bind_of hne, hwhole, ih _ (by rw [hcount]; omega), hcount,
        hsplit, List.foldl_append]
    · rw [if_neg hbefore, List.drop_of_length_le (by rw [List.length_take]; omega)]
      rfl

/-- **What `_delta` returns**: a true summary of the events between the cursors. -/
theorem reorientationDelta_eq (hthrough : throughCursor ≤ ledger.events.length)
    (afterCursor : Nat) : reorientationDelta ledger afterCursor throughCursor =
      .ok (stretchDelta ledger afterCursor throughCursor) := by
  rw [reorientationDelta, readDelta_eq hthrough _ ⟨afterCursor, .empty, []⟩ (Nat.lt_succ_self _)]
  rfl

end Delta

/-! ### The data space while others are at work -/

variable [Sha256] {s s' : MemorySystem}

/-- The ledger is only appended to, the service knows no fewer events of its stream than before, and
an import stays. -/
structure Follows (s s' : MemorySystem) : Prop where
  events : s.ledger.events <+: s'.ledger.events
  data_space : s'.kernel.activation.dataSpaceId = s.kernel.activation.dataSpaceId
  version : s.kernel.activation.version ≤ s'.kernel.activation.version
  imported : s.kernel.activation.state ≠ .uncommissioned →
    s'.kernel.activation.state ≠ .uncommissioned ∧
      s'.kernel.activation.importEventCursor = s.kernel.activation.importEventCursor

omit [Sha256] in
theorem Follows.refl (s : MemorySystem) : Follows s s :=
  ⟨List.prefix_rfl, rfl, le_rfl, fun h => ⟨h, rfl⟩⟩

omit [Sha256] in
theorem Follows.trans {mid : MemorySystem} (h : Follows s mid) (h' : Follows mid s') :
    Follows s s' where
  events := h.events.trans h'.events
  data_space := h'.data_space.trans h.data_space
  version := h.version.trans h'.version
  imported hstate := by
    obtain ⟨hmid, hcursor⟩ := h.imported hstate
    obtain ⟨hlast, hcursor'⟩ := h'.imported hmid
    exact ⟨hlast, hcursor'.trans hcursor⟩

/-- The other writers append to the ledger, do not turn this process's Activation service back and
do not import over an import. -/
def ReorientationService.OthersFollow {ρ : Type} (service : ReorientationService ρ) : Prop :=
  ∀ memory s, Follows s (service.others memory s).1

omit [Sha256] in
/-- **A recorded event** of a service of this process follows. -/
theorem follows_of_stepped {event : EventEnvelope} (hs : s.KernelSynced)
    (h : s.Stepped event s') : Follows s s' := by
  have hframe : s'.kernel.activation.dataSpaceId = s.kernel.activation.dataSpaceId ∧
      s.kernel.activation.version ≤ s'.kernel.activation.version := by
    cases h.wrote with
    | kernel payload _ _ happlied =>
      rw [(Kernel.changes_of_applyKernel hs.consistent happlied).activation]
      cases payload <;> exact ⟨rfl, le_rfl⟩
    | activation payload hpayload _ _ happlied =>
      refine ⟨ActivationService.dataSpaceId_of_applyActivation happlied, ?_⟩
      rw [(ActivationService.frame_of_applyActivation happlied).2, h.next_version, hpayload]
      exact Nat.le_succ _
    | ownerAuth _ _ _ _ hkernel =>
      rw [hkernel]
      exact ⟨rfl, le_rfl⟩
    | other _ hkernel =>
      rw [hkernel]
      exact ⟨rfl, le_rfl⟩
  refine ⟨?_, hframe.1, hframe.2, fun hstate => ?_⟩
  · rw [h.events]
    exact List.prefix_append _ _
  · have hsame := sameImport_of_stepped hs hstate h
    exact ⟨hsame.left_uncommissioned, hsame.cursor_eq⟩

/-- **What the services of this process record** follows. -/
theorem follows_of_reaches {P : EventPayload → Prop} (hs : s.KernelSynced)
    (h : System.Reaches P s s') : Follows s s' := by
  have hkept : s'.KernelSynced ∧ Follows s s' :=
    h.invariant (I := fun s' => s'.KernelSynced ∧ Follows s s')
      (fun mid event next hmid _ hmirrored =>
        ⟨System.kernelSynced_of_stepped hmid.1 hmirrored.stepped,
          hmid.2.trans (follows_of_stepped hmid.1 hmirrored.stepped)⟩)
      (fun mid data hmid => ⟨System.kernelSynced_putBlob hmid.1 data,
        hmid.2.events, hmid.2.data_space, hmid.2.version, hmid.2.imported⟩)
      ⟨hs, .refl s⟩
  exact hkept.2

omit [Sha256] in
/-- **What another process appends** to the ledger follows, whatever event it is. -/
theorem follows_append {event : EventEnvelope} {expected : Nat} {result : AppendResult}
    {ledger : InMemoryOperationalLedger}
    (h : s.ledger.append event expected = .ok (result, ledger)) :
    Follows s { s with ledger := ledger } := by
  refine ⟨?_, rfl, le_rfl, fun hstate => ⟨hstate, rfl⟩⟩
  rcases s.ledger.append_eq_ok h with ⟨happ, -, -, rfl⟩ | ⟨_, -, -, -, rfl⟩
  · exact List.prefix_append _ _
  · exact List.prefix_rfl

/-! ### Where the service's own events stand -/

/-- An event of the activation stream that the service knows about stands at a cursor. -/
structure KnownAt (s : MemorySystem) (cursor : Nat) (event : EventEnvelope) : Prop where
  stored : ⟨cursor, event⟩ ∈ s.ledger.events
  stream : event.streamId = s.kernel.activation.streamId
  version : event.streamVersion ≤ s.kernel.activation.version

omit [Sha256] in
theorem Follows.streamId (h : Follows s s') :
    s'.kernel.activation.streamId = s.kernel.activation.streamId := by
  rw [ActivationService.streamId, ActivationService.streamId, h.data_space]

omit [Sha256] in
theorem KnownAt.follows {cursor : Nat} {event : EventEnvelope} (h : KnownAt s cursor event)
    (hfollows : Follows s s') : KnownAt s' cursor event :=
  ⟨hfollows.events.subset h.stored, h.stream.trans hfollows.streamId.symm,
    h.version.trans hfollows.version⟩

omit [Sha256] in
/-- In one stream a later version stands at a later cursor. -/
theorem cursor_lt_of_version_lt (ledger : InMemoryOperationalLedger) {stored later : StoredEvent}
    (hstored : stored ∈ ledger.events) (hlater : later ∈ ledger.events)
    (hstream : stored.event.streamId = later.event.streamId)
    (hversion : stored.event.streamVersion < later.event.streamVersion) :
    stored.cursor < later.cursor := by
  let events := onStream later.event.streamId ledger.events
  have hcursors : events.Pairwise (·.cursor < ·.cursor) := by
    have hsorted := List.pairwise_lt_range' (s := 1) (n := ledger.events.length)
    rw [← ledger.cursors_contiguous, List.pairwise_map] at hsorted
    exact hsorted.filter _
  have hversions : events.Pairwise (·.event.streamVersion < ·.event.streamVersion) := by
    have hsorted := List.pairwise_lt_range' (s := 1) (n := events.length)
    rwa [← ledger.versions_contiguous, List.pairwise_map] at hsorted
  have hmem : stored ∈ events := List.mem_filter.mpr ⟨hstored, decide_eq_true hstream⟩
  have hmem' : later ∈ events := List.mem_filter.mpr ⟨hlater, decide_eq_true rfl⟩
  let ordered (first second : StoredEvent) : Prop :=
    first.event.streamVersion < second.event.streamVersion → first.cursor < second.cursor
  have hforward : events.Pairwise ordered := by
    refine List.Pairwise.imp ?_ hcursors
    exact fun hlt _ => hlt
  have hbackward : events.Pairwise (flip ordered) := by
    refine List.Pairwise.imp ?_ hversions
    exact fun hlt h => absurd h hlt.asymm
  exact List.Pairwise.forall_of_forall_of_flip (fun _ _ h => absurd h (lt_irrefl _)) hforward
    hbackward hmem hmem' hversion

/-! ### What the service records -/

/-- The assignments of a recording leave alone what the service knows of its stream, and keep an
import. -/
def Recording.KeepsImport (r : Recording ActivationService) : Prop :=
  ∃ assign : EventEnvelope → AppendResult → ActivationService → ActivationService,
    (r.update = fun event result => modify (assign event result)) ∧
    ∀ event result a, (assign event result a).dataSpaceId = a.dataSpaceId ∧
      (assign event result a).version = a.version ∧
      (a.state ≠ .uncommissioned → (assign event result a).state ≠ .uncommissioned ∧
        (assign event result a).importEventCursor = a.importEventCursor)

/-- **A recording** of the service is refused, or its event is known at the cursor of the answer,
whether it was appended or found there. -/
theorem record_follows {r : Recording ActivationService} (hr : r.KeepsImport)
    (s : MemorySystem) :
    (∃ e, record r s = .error e s) ∨
    ∃ event result s', record r s = .ok (event, result) s' ∧ Follows s s' ∧
      r.Describes s.kernel.activation event ∧ ⟨result.cursor, event⟩ ∈ s'.ledger.events ∧
      s'.kernel.activation.version = event.streamVersion := by
  obtain ⟨assign, hupdate, hassign⟩ := hr
  rcases record_cases r s with herror | ⟨event, result, ledger, henvelope, happend, hrecord⟩
  · exact Or.inl herror
  right
  have hdescribes := Recording.describes_of_envelope henvelope
  have hnext : event.streamVersion = s.kernel.activation.version + 1 := hdescribes.version
  rw [hupdate] at hrecord
  obtain ⟨hspace, hversion, himport⟩ := hassign event result
    (EventWriter.advance (Component.read s : ActivationService) r.streamId result)
  have hanswer : result.streamVersion = event.streamVersion ∧
      s.ledger.events <+: ledger.events ∧ ⟨result.cursor, event⟩ ∈ ledger.events := by
    rcases s.ledger.append_eq_ok happend with
      ⟨happ, -, rfl, rfl⟩ | ⟨stored, hstored, rfl, rfl, rfl⟩
    · exact ⟨rfl, List.prefix_append _ _, List.mem_append_right _ (List.mem_singleton_self _)⟩
    · exact ⟨rfl, List.prefix_rfl, hstored⟩
  obtain ⟨hstreamVersion, hgrown, hstored⟩ := hanswer
  refine ⟨event, result, _, hrecord, ⟨hgrown, hspace, ?_, himport⟩, hdescribes, hstored, ?_⟩
  · have hle : s.kernel.activation.version ≤ result.streamVersion := by omega
    exact hle.trans hversion.ge
  · exact hversion.trans hstreamVersion

theorem preserves_record {r : Recording ActivationService} (hr : r.KeepsImport)
    (s₀ : MemorySystem) : EStateM.Preserves (Follows s₀) (record r) := by
  refine .of_final fun s hs => ?_
  rcases record_follows hr s with ⟨e, herror⟩ | ⟨_, _, s', hrecord, hfollows, -⟩
  · rw [EStateM.finalState_of_error herror]
    exact hs
  · rw [EStateM.finalState_of_ok hrecord]
    exact hs.trans hfollows

/-- The Interface service leaves the Kernel alone. -/
theorem preserves_recordInterface (r : Recording InterfaceService) (s₀ : MemorySystem) :
    EStateM.Preserves (Follows s₀) (record r) := by
  refine .of_final fun s hs => hs.trans ?_
  have hkernel : ((record r).finalState s).kernel = s.kernel := by
    rcases record_cases r s with ⟨e, herror⟩ | ⟨event, result, ledger, -, -, hrecord⟩
    · rw [EStateM.finalState_of_error herror]
    · unfold EStateM.finalState
      rw [hrecord]
      cases r.update event result (EventWriter.advance (Component.read s) r.streamId result) <;> rfl
  refine ⟨prefix_of_record r List.prefix_rfl, ?_, ?_, ?_⟩
  · rw [hkernel]
  · rw [hkernel]
  · rw [hkernel]
    exact fun hstate => ⟨hstate, rfl⟩

theorem preserves_performInterface
    (plan : MemorySystem → Except VsmError (Recording InterfaceService)) (s₀ : MemorySystem) :
    EStateM.Preserves (Follows s₀) (perform plan) := by
  refine .bind .get fun s => .bind (.ofExcept _) fun r => preserves_recordInterface r s₀

theorem preserves_putBlob (data : Document) (s₀ : MemorySystem) :
    EStateM.Preserves (Follows s₀) (onLedger (OperationalLedger.putBlob data) :
      SystemM InMemoryOperationalLedger String) :=
  .of_final fun _ hs => ⟨hs.events, hs.data_space, hs.version, hs.imported⟩

theorem keepsImport_historyQueryRecording (a : ActivationService) (action : ReadHistoryAction)
    (page : HistoryPage) (actorId key : String) (clock : Clock) :
    (a.historyQueryRecording action page actorId key clock).KeepsImport :=
  ⟨_, rfl, fun _ _ _ => ⟨rfl, rfl, fun hstate => ⟨hstate, rfl⟩⟩⟩

theorem keepsImport_sessionIndexRecording (a : ActivationService) (pageCursor : Option String)
    (page : HistoryPage) (actorId key : String) (clock : Clock) :
    (a.sessionIndexRecording pageCursor page actorId key clock).KeepsImport :=
  ⟨_, rfl, fun _ _ _ => ⟨rfl, rfl, fun hstate => ⟨hstate, rfl⟩⟩⟩

theorem preserves_resolveHistory (maxResultBytes : Nat) (action : ReadHistoryAction)
    (reply : Except VsmError HistoryPage) (actorId key : String) (clock : Clock)
    (s₀ : MemorySystem) : EStateM.Preserves (Follows s₀)
      (resolveHistory maxResultBytes action reply actorId key clock) :=
  .bind .get fun _ => .bind (.ofExcept _) fun page => .bind (preserves_putBlob _ s₀) fun _ =>
    .bind (preserves_record (keepsImport_historyQueryRecording _ action page actorId key clock) s₀)
      fun _ => .pure _

theorem preserves_recordIndex (actorId key : String) (s₀ : MemorySystem) :
    ∀ (pages : List (Option String × HistoryPage)) (clock : Clock),
      EStateM.Preserves (Follows s₀) (recordSessionIndex actorId key pages clock)
  | [], _ => .pure _
  | (pageCursor, page) :: pages, clock =>
    .bind (preserves_putBlob _ s₀) fun _ => .bind .get fun _ =>
      .bind (preserves_record
        (keepsImport_sessionIndexRecording _ pageCursor page actorId key clock) s₀) fun _ =>
        .bind (preserves_recordIndex actorId key s₀ pages _) fun _ => .pure _

theorem preserves_recordVerifiedIndex (receipt : HistoryImportReceipt)
    (index : List (Option String × HistoryPage) × List String) (actorId key : String)
    (clock : Clock) (s₀ : MemorySystem) :
    EStateM.Preserves (Follows s₀) (recordVerifiedIndex receipt index actorId key clock) :=
  .bind .get fun _ => .bind (.ofExcept _) fun _ => preserves_recordIndex actorId key s₀ _ _

/-- The commands of a reorientation keep an import. -/
theorem preserves_performActivation
    {plan : ActivationService → Except VsmError (Recording ActivationService)}
    (hplan : ∀ a r, plan a = .ok r → r.KeepsImport) (s₀ : MemorySystem) :
    EStateM.Preserves (Follows s₀)
      (performActivation plan : SystemM InMemoryOperationalLedger Unit) :=
  preserves_perform fun s r h => preserves_record (hplan s.kernel.activation r h) s₀

omit [Sha256] in
theorem keepsImport_checkpoint {a : ActivationService} {providerSessionId actorId key : String}
    {clock : Clock} {r : Recording ActivationService}
    (h : a.recordReorientationSessionCheckpoint providerSessionId actorId key clock = .ok r) :
    r.KeepsImport := by
  obtain ⟨_, -, h⟩ := Checked.bind_eq_ok_iff.mp h
  obtain ⟨-, h⟩ := Checked.check_bind_eq_ok_iff.mp h
  obtain rfl := Checked.pure_eq_ok_iff.mp h
  exact ⟨_, rfl, fun _ _ _ => ⟨rfl, rfl, fun hstate => ⟨hstate, rfl⟩⟩⟩

omit [Sha256] in
theorem keepsImport_usage {a : ActivationService} {inputTokens outputTokens : Int}
    {actorId key : String} {clock : Clock} {r : Recording ActivationService}
    (h : a.recordReorientationUsage inputTokens outputTokens actorId key clock = .ok r) :
    r.KeepsImport := by
  obtain ⟨-, h⟩ := Checked.check_bind_eq_ok_iff.mp h
  obtain ⟨-, h⟩ := Checked.check_bind_eq_ok_iff.mp h
  obtain rfl := Checked.pure_eq_ok_iff.mp h
  exact ⟨_, rfl, fun _ _ _ => ⟨rfl, rfl, fun hstate => ⟨hstate, rfl⟩⟩⟩

omit [Sha256] in
theorem keepsImport_submitAssessment {a : ActivationService} {assessment : ReorientationAssessment}
    {openCommitmentIds workItemIds : List String} {listed : Bool} {actorId key : String}
    {clock : Clock} {r : Recording ActivationService}
    (h : a.submitAssessment assessment openCommitmentIds workItemIds listed actorId key clock =
      .ok r) : r.KeepsImport := by
  obtain ⟨-, h⟩ := Checked.check_bind_eq_ok_iff.mp h
  obtain ⟨-, h⟩ := Checked.check_bind_eq_ok_iff.mp h
  obtain ⟨_, -, h⟩ := Checked.orRaise_bind_eq_ok_iff.mp h
  iterate 13 obtain ⟨-, h⟩ := Checked.check_bind_eq_ok_iff.mp h
  obtain rfl := Checked.pure_eq_ok_iff.mp h
  exact ⟨_, rfl, fun _ _ _ =>
    ⟨rfl, rfl, fun _ => ⟨ActivationState.noConfusion, rfl⟩⟩⟩

/-! ### Runs of the service -/

variable {ρ : Type} {service : ReorientationService ρ} {run₀ run run' : ReorientationRun ρ}

/-- The data space has gone on, and the Pilot was shown nothing more. -/
structure Tracks (run₀ run : ReorientationRun ρ) : Prop where
  follows : Follows run₀.system run.system
  rounds : run.rounds = run₀.rounds

omit [Sha256] in
theorem Tracks.refl (run : ReorientationRun ρ) : Tracks run run := ⟨.refl _, rfl⟩

omit [Sha256] in
theorem preserves_onDataSpace {α : Type} {x : SystemM InMemoryOperationalLedger α}
    (hx : ∀ s₀, EStateM.Preserves (Follows s₀) x) :
    EStateM.Preserves (Tracks run₀) (onDataSpace x) := by
  refine .of_final fun run hrun => ?_
  rw [onDataSpace, EStateM.finalState_zoom]
  exact ⟨(hx run₀.system).final hrun.follows, hrun.rounds⟩

omit [Sha256] in
theorem preserves_onMemory {α : Type} (x : EStateM VsmError ρ α) :
    EStateM.Preserves (Tracks run₀) (onMemory x) := by
  refine .of_final fun run hrun => ?_
  unfold EStateM.finalState onMemory
  cases x run.memory <;> exact ⟨hrun.follows, hrun.rounds⟩

namespace ReorientationService

omit [Sha256] in
theorem preserves_await (hothers : service.OthersFollow) :
    EStateM.Preserves (Tracks run₀) service.await :=
  fun run hrun => ⟨hrun.follows.trans (hothers run.memory run.system), hrun.rounds⟩

theorem preserves_resolve (hothers : service.OthersFollow) (action : ReadHistoryAction)
    (actorId key : String) :
    EStateM.Preserves (Tracks run₀) (service.resolve action actorId key) :=
  .bind (preserves_await hothers) fun _ => .bind (preserves_onMemory _) fun reply =>
    .bind .get fun _ => preserves_onDataSpace fun s₀ =>
      preserves_resolveHistory service.maxResultBytes action reply actorId key _ s₀

theorem preserves_scanSessionIndex (hothers : service.OthersFollow) (fuel : Nat)
    (receipt : HistoryImportReceipt) (actorId key : String) :
    EStateM.Preserves (Tracks run₀) (service.scanSessionIndex fuel receipt actorId key) := by
  refine .bind (preserves_onMemory _) fun answer => ?_
  cases answer with
  | none => exact .pure none
  | some index =>
    exact .bind (preserves_await hothers) fun _ => .bind .get fun _ =>
      .bind (preserves_onDataSpace fun s₀ =>
        preserves_recordVerifiedIndex receipt index actorId key _ s₀) fun _ => .pure _

theorem preserves_readOpenCommitments (hothers : service.OthersFollow)
    (conversationId actorId key : String) (fuel : Nat) (cursor : Option NonBlank) :
    EStateM.Preserves (Tracks run₀)
      (service.readOpenCommitments conversationId actorId key fuel cursor) := by
  induction fuel generalizing cursor with
  | zero => exact .pure none
  | succ fuel ih =>
    refine .bind (.bind .get fun _ => preserves_resolve hothers _ actorId _) fun result =>
      .bind (.ofExcept _) fun commitments => ?_
    cases result.page.nextCursor with
    | none => exact .pure _
    | some next => exact .bind (ih (some next)) fun _ => .pure _

theorem preserves_materializeOpenCommitments (hothers : service.OthersFollow) (fuel : Nat)
    (actorId key : String) :
    EStateM.Preserves (Tracks run₀) (service.materializeOpenCommitments fuel actorId key) := by
  refine .bind .get fun run => .bind (.ofExcept _) fun conversationId =>
    .bind (preserves_readOpenCommitments hothers conversationId actorId key fuel none)
      fun answer => ?_
  cases answer with
  | none => exact .pure none
  | some answer =>
    exact .bind (preserves_await hothers) fun _ => .bind .get fun _ =>
      .bind (preserves_onDataSpace fun s₀ => preserves_performInterface _ s₀) fun _ => .pure _

/-- The commands of a reorientation. -/
theorem preserves_command (hothers : service.OthersFollow) {command : ActivationCommand}
    (hcommand : ∀ clock s₀, EStateM.Preserves (Follows s₀)
      (command.run clock : SystemM InMemoryOperationalLedger Unit)) :
    EStateM.Preserves (Tracks run₀) (service.command command) :=
  .bind (preserves_await hothers) fun _ => .bind .get fun _ =>
    preserves_onDataSpace fun s₀ => hcommand _ s₀

theorem preserves_submit (hothers : service.OthersFollow) (request : ReorientationRequest)
    (assessment : ReorientationAssessment) (providerSessionId : NonBlank) :
    EStateM.Preserves (Tracks run₀) (service.submit request assessment providerSessionId) := by
  refine .bind (preserves_await hothers) fun _ => .bind .get fun _ => .bind (.ofExcept _) fun _ =>
    .bind (preserves_command hothers fun clock s₀ => ?_) fun _ => ?_
  · rw [ActivationCommand.run]
    exact preserves_performActivation (fun _ _ h => keepsImport_submitAssessment h) s₀
  refine .bind (preserves_await hothers) fun _ => .bind .get fun _ =>
    .bind (preserves_onDataSpace fun s₀ => preserves_performInterface _ s₀) fun _ => ?_
  exact .bind (preserves_await hothers) fun _ => .bind .get fun _ =>
    .bind (preserves_onDataSpace fun s₀ => preserves_performInterface _ s₀) fun _ => .pure _

end ReorientationService

/-! ### The law of the rounds -/

/-- The events that a delta covers. -/
def eventsOf (events : List StoredEvent) (delta : EventDeltaSummary) : List StoredEvent :=
  (events.take delta.throughCursor).drop delta.afterCursor

/-- The Pilot's answer requests one query and nothing else. -/
def Requests (reply : Except VsmError StructuredInterfaceResponse) (action : ReadHistoryAction) :
    Prop :=
  ∃ response, reply = .ok response ∧ response.actions = [.readHistory action]

/-- The result is what the reader answered to the query, recorded in the event it names. -/
def ReorientationService.Answers (service : ReorientationService ρ) (events : List StoredEvent)
    (action : ReadHistoryAction) (result : HistoryToolResult) : Prop :=
  (∃ stored ∈ events, stored.cursor = result.eventCursor ∧
    stored.event.eventId = result.resultEventId ∧
    stored.event.payload = .activation (historyQueryPayload action result.page)) ∧
  ∃ memory memory', service.read action.operation action.argument action.pageCursor memory =
    .ok result.page memory'

/-- **The law of the rounds.** The first delta starts after the cursor of the import and each other
one after the one before it; each is a true summary of its events, the last of which is the event of
the result shown with it; together they are the ledger between the import and the last result; and
each result but the first answers the query of the round before. -/
structure RoundsLaw (service : ReorientationService ρ) (importCursor : Nat)
    (events : List StoredEvent)
    (rounds : List (ReorientationTurn × Except VsmError StructuredInterfaceResponse)) : Prop where
  first : ∀ round ∈ rounds.head?, round.1.eventDelta.afterCursor = importCursor
  contiguous : rounds.IsChain fun round next =>
    next.1.eventDelta.afterCursor = round.1.eventDelta.throughCursor
  truthful : ∀ round ∈ rounds, round.1.eventDelta.Summarizes events
  ends : ∀ round ∈ rounds,
    round.1.eventDelta.throughCursor = round.1.historyResult.eventCursor
  delivered : ∀ round ∈ rounds, ∃ stored,
    (eventsOf events round.1.eventDelta).getLast? = some stored ∧
      stored.cursor = round.1.historyResult.eventCursor ∧
      stored.event.eventId = round.1.historyResult.resultEventId
  covered : ∀ round ∈ rounds.getLast?, rounds.flatMap (eventsOf events ·.1.eventDelta) =
    (events.take round.1.historyResult.eventCursor).drop importCursor
  requested : rounds.IsChain fun round next =>
    ∃ action, Requests round.2 action ∧ service.Answers events action next.1.historyResult

/-- The deltas end within the ledger. -/
def Within (events : List StoredEvent)
    (rounds : List (ReorientationTurn × Except VsmError StructuredInterfaceResponse)) : Prop :=
  ∀ round ∈ rounds, round.1.eventDelta.throughCursor ≤ events.length

variable {importCursor : Nat} {ledger ledger' : InMemoryOperationalLedger}
  {rounds : List (ReorientationTurn × Except VsmError StructuredInterfaceResponse)}

theorem roundsLaw_nil (service : ReorientationService ρ) (importCursor : Nat)
    (events : List StoredEvent) : RoundsLaw service importCursor events [] where
  first _ h := by cases h
  contiguous := .nil
  truthful _ h := by cases h
  ends _ h := by cases h
  delivered _ h := by cases h
  covered _ h := by cases h
  requested := .nil

omit [Sha256] in
/-- A delta within the ledger covers the same events when the ledger grows. -/
theorem eventsOf_of_grown {events events' : List StoredEvent} (hgrown : events <+: events')
    {delta : EventDeltaSummary} (hwithin : delta.throughCursor ≤ events.length) :
    eventsOf events' delta = eventsOf events delta := by
  obtain ⟨more, rfl⟩ := hgrown
  rw [eventsOf, eventsOf, List.take_append_of_le_length hwithin]

theorem ReorientationService.Answers.mono {events events' : List StoredEvent}
    {action : ReadHistoryAction} {result : HistoryToolResult}
    (h : service.Answers events action result) (hgrown : events <+: events') :
    service.Answers events' action result := by
  obtain ⟨⟨stored, hstored, hevent⟩, hread⟩ := h
  exact ⟨⟨stored, hgrown.subset hstored, hevent⟩, hread⟩

/-- **The law stays** when the ledger grows. -/
theorem RoundsLaw.mono (h : RoundsLaw service importCursor ledger.events rounds)
    (hwithin : Within ledger.events rounds) (hgrown : ledger.events <+: ledger'.events) :
    RoundsLaw service importCursor ledger'.events rounds where
  first := h.first
  contiguous := h.contiguous
  truthful round hround :=
    (h.truthful round hround).mono hgrown (Or.inl (hwithin round hround))
  ends := h.ends
  delivered round hround := by
    rw [eventsOf_of_grown hgrown (hwithin round hround)]
    exact h.delivered round hround
  covered round hround := by
    have hmem := List.mem_of_getLast? hround
    have hbound := hwithin round hmem
    rw [h.ends round hmem] at hbound
    have hevents : rounds.flatMap (eventsOf ledger'.events ·.1.eventDelta) =
        rounds.flatMap (eventsOf ledger.events ·.1.eventDelta) :=
      List.flatMap_congr fun round hround => eventsOf_of_grown hgrown (hwithin round hround)
    obtain ⟨more, hmore⟩ := hgrown
    rw [hevents, h.covered round hround, ← hmore, List.take_append_of_le_length hbound]
  requested := h.requested.imp fun _ _ ⟨action, hrequests, hanswers⟩ =>
    ⟨action, hrequests, hanswers.mono hgrown⟩

omit [Sha256] in
/-- The events up to a stored one end with it. -/
private theorem exists_take_cursor (ledger : InMemoryOperationalLedger) {stored : StoredEvent}
    (hstored : stored ∈ ledger.events) :
    ∃ before, ledger.events.take stored.cursor = before ++ [stored] ∧
      stored.cursor = before.length + 1 := by
  obtain ⟨before, later, hevents⟩ := List.append_of_mem hstored
  have hjoined : ledger.events = before ++ [stored] ++ later := by
    rw [hevents, List.append_assoc, List.singleton_append]
  have hgt := (ledger.cursor_of_cut hevents).2 stored List.mem_cons_self
  have hle := (ledger.cursor_of_cut hjoined).1 stored
    (List.mem_append_right _ (List.mem_singleton_self _))
  rw [List.length_append, List.length_singleton] at hle
  have hcursor : stored.cursor = before.length + 1 := by omega
  refine ⟨before, ?_, hcursor⟩
  rw [hjoined]
  exact List.take_left' (by rw [List.length_append, List.length_singleton, hcursor])

omit [Sha256] in
/-- Two stretches that join up. -/
private theorem take_drop_append {α : Type} (l : List α) {first second third : Nat}
    (h : first ≤ second) (h' : second ≤ third) :
    (l.take second).drop first ++ (l.take third).drop second = (l.take third).drop first := by
  have htake : l.take second = (l.take third).take second := by
    rw [List.take_take, Nat.min_eq_left h']
  rw [htake]
  rcases Nat.le_total second (l.take third).length with hwithin | hpast
  · rw [← List.drop_append_of_le_length, List.take_append_drop]
    rw [List.length_take]
    exact le_min h (h.trans hwithin)
  · rw [List.take_of_length_le hpast, List.drop_of_length_le hpast, List.append_nil]

/-- Where the next delta starts. -/
def nextAfter (importCursor : Nat)
    (rounds : List (ReorientationTurn × Except VsmError StructuredInterfaceResponse)) : Nat :=
  (rounds.getLast?.map fun round => round.1.eventDelta.throughCursor).getD importCursor

/-- **One more round**: the stretch from the end of the last delta to a later event, which is the
event of the result shown. -/
theorem RoundsLaw.concat (h : RoundsLaw service importCursor ledger.events rounds)
    {turn : ReorientationTurn} {reply : Except VsmError StructuredInterfaceResponse}
    (hdelta : turn.eventDelta = stretchDelta ledger (nextAfter importCursor rounds)
      turn.historyResult.eventCursor)
    (hordered : importCursor ≤ nextAfter importCursor rounds)
    (hlater : nextAfter importCursor rounds < turn.historyResult.eventCursor)
    {event : EventEnvelope} (hstored : ⟨turn.historyResult.eventCursor, event⟩ ∈ ledger.events)
    (hevent : event.eventId = turn.historyResult.resultEventId)
    (hrequested : ∀ round ∈ rounds.getLast?, ∃ action, Requests round.2 action ∧
      service.Answers ledger.events action turn.historyResult) :
    RoundsLaw service importCursor ledger.events (rounds ++ [(turn, reply)]) := by
  have hafter : turn.eventDelta.afterCursor = nextAfter importCursor rounds := by
    rw [hdelta]
    rfl
  have hthrough : turn.eventDelta.throughCursor = turn.historyResult.eventCursor := by
    rw [hdelta]
    rfl
  have hevents : eventsOf ledger.events turn.eventDelta =
      (ledger.events.take turn.historyResult.eventCursor).drop (nextAfter importCursor rounds) := by
    rw [eventsOf, hafter, hthrough]
  refine ⟨?_, ?_, ?_, ?_, ?_, ?_, ?_⟩
  · intro round hround
    cases rounds with
    | nil =>
      obtain rfl := Option.some.inj hround
      exact hafter
    | cons => exact h.first round hround
  · refine List.isChain_append.mpr ⟨h.contiguous, .singleton _, fun round hround next hnext => ?_⟩
    obtain rfl := Option.some.inj hnext
    rw [hafter, nextAfter, hround, Option.map_some, Option.getD_some]
  · refine List.forall_mem_append.mpr ⟨h.truthful, List.forall_mem_singleton.mpr ?_⟩
    rw [hdelta]
    exact summarizes_stretchDelta ledger _ _
  · exact List.forall_mem_append.mpr ⟨h.ends, List.forall_mem_singleton.mpr hthrough⟩
  · refine List.forall_mem_append.mpr ⟨h.delivered, List.forall_mem_singleton.mpr ?_⟩
    obtain ⟨before, htake, hcursor⟩ := exists_take_cursor ledger hstored
    have hle : nextAfter importCursor rounds ≤ before.length :=
      Nat.le_of_lt_succ (hlater.trans_eq hcursor)
    refine ⟨⟨turn.historyResult.eventCursor, event⟩, ?_, rfl, hevent⟩
    rw [hevents, htake, List.drop_append_of_le_length hle, List.getLast?_concat]
  · intro round hround
    rw [List.getLast?_concat] at hround
    obtain rfl := Option.some.inj hround
    rw [List.flatMap_append, List.flatMap_singleton, hevents]
    rcases List.eq_nil_or_concat rounds with rfl | ⟨earlier, last, rfl⟩
    · rfl
    · have hlast : last ∈ (earlier.concat last).getLast? := by
        rw [List.concat_eq_append, List.getLast?_concat]
        rfl
      have hnext : nextAfter importCursor (earlier.concat last) =
          last.1.historyResult.eventCursor := by
        rw [nextAfter, hlast, Option.map_some, Option.getD_some,
          h.ends last (List.mem_of_getLast? hlast)]
      rw [hnext] at hordered hlater
      rw [h.covered last hlast, hnext]
      exact take_drop_append _ hordered hlater.le
  · refine List.isChain_append.mpr ⟨h.requested, .singleton _, fun round hround next hnext => ?_⟩
    obtain rfl := Option.some.inj hnext
    exact hrequested round hround

/-! ### The rounds of an execution -/

/-- The rounds shown so far obey the law. -/
structure Lawful (service : ReorientationService ρ) (importCursor : Nat)
    (run : ReorientationRun ρ) : Prop where
  law : RoundsLaw service importCursor run.system.ledger.events run.rounds
  within : Within run.system.ledger.events run.rounds

/-- Before a round: the result to be shown stands past the last delta, and answers the query of the
round before. -/
structure AtRound (service : ReorientationService ρ) (importCursor afterCursor : Nat)
    (result : HistoryToolResult) (run : ReorientationRun ρ) : Prop
    extends Lawful service importCursor run where
  ordered : importCursor ≤ afterCursor
  after_eq : afterCursor = nextAfter importCursor run.rounds
  later : afterCursor < result.eventCursor
  known : ∃ event, event.eventId = result.resultEventId ∧
    KnownAt run.system result.eventCursor event
  requested : ∀ round ∈ run.rounds.getLast?, ∃ action, Requests round.2 action ∧
    service.Answers run.system.ledger.events action result

/-- After a round: the last delta ends with the result that was shown. -/
structure Responded (service : ReorientationService ρ) (importCursor : Nat)
    (result : HistoryToolResult) (response : StructuredInterfaceResponse)
    (run : ReorientationRun ρ) : Prop extends Lawful service importCursor run where
  ordered : importCursor ≤ result.eventCursor
  next_eq : nextAfter importCursor run.rounds = result.eventCursor
  known : ∃ event, KnownAt run.system result.eventCursor event
  reply : ∀ round ∈ run.rounds.getLast?, round.2 = .ok response

theorem Lawful.tracks (h : Lawful service importCursor run) (htracks : Tracks run run') :
    Lawful service importCursor run' := by
  have hgrown := htracks.follows.events
  refine ⟨?_, ?_⟩
  · rw [htracks.rounds]
    exact h.law.mono h.within hgrown
  · rw [htracks.rounds]
    exact fun round hround => (h.within round hround).trans hgrown.length_le

theorem AtRound.tracks {afterCursor : Nat} {result : HistoryToolResult}
    (h : AtRound service importCursor afterCursor result run) (htracks : Tracks run run') :
    AtRound service importCursor afterCursor result run' where
  toLawful := h.toLawful.tracks htracks
  ordered := h.ordered
  after_eq := by
    rw [htracks.rounds]
    exact h.after_eq
  later := h.later
  known := by
    obtain ⟨event, hevent, hknown⟩ := h.known
    exact ⟨event, hevent, hknown.follows htracks.follows⟩
  requested := by
    rw [htracks.rounds]
    intro round hround
    obtain ⟨action, hrequests, hanswers⟩ := h.requested round hround
    exact ⟨action, hrequests, hanswers.mono htracks.follows.events⟩

theorem Responded.tracks {result : HistoryToolResult} {response : StructuredInterfaceResponse}
    (h : Responded service importCursor result response run) (htracks : Tracks run run') :
    Responded service importCursor result response run' where
  toLawful := h.toLawful.tracks htracks
  ordered := h.ordered
  next_eq := by
    rw [htracks.rounds]
    exact h.next_eq
  known := by
    obtain ⟨event, hknown⟩ := h.known
    exact ⟨event, hknown.follows htracks.follows⟩
  reply := by
    rw [htracks.rounds]
    exact h.reply

omit [Sha256] in
/-- A program that shows the Pilot nothing keeps what it cannot disturb. -/
theorem preserves_of_tracks {α : Type} {I : ReorientationRun ρ → Prop}
    (hI : ∀ {run run'}, I run → Tracks run run' → I run') {x : ReorientationM ρ α}
    (hx : ∀ run₀, EStateM.Preserves (Tracks run₀) x) : EStateM.Preserves I x :=
  .of_final fun run hrun => hI hrun ((hx run).final (.refl run))

omit [Sha256] in
/-- Asking the collaborators always has an answer. -/
theorem onMemory_attempt {α : Type} (x : EStateM VsmError ρ α) (run : ReorientationRun ρ) :
    ∃ reply memory,
      onMemory (EStateM.attempt x) run = .ok reply { run with memory := memory } := by
  unfold onMemory EStateM.attempt
  cases x run.memory with
  | ok a memory => exact ⟨.ok a, memory, rfl⟩
  | error e memory => exact ⟨.error e, memory, rfl⟩

/-- One more round, shown in an admissible state. -/
theorem AtRound.shown {afterCursor : Nat} {turn : ReorientationTurn}
    (h : AtRound service importCursor afterCursor turn.historyResult run)
    (hdelta : turn.eventDelta =
      stretchDelta run.system.ledger afterCursor turn.historyResult.eventCursor)
    (reply : Except VsmError StructuredInterfaceResponse) (memory : ρ) :
    Lawful service importCursor
      { run with memory := memory, rounds := run.rounds ++ [(turn, reply)] } := by
  obtain ⟨event, hevent, hknown⟩ := h.known
  have hthrough : turn.eventDelta.throughCursor = turn.historyResult.eventCursor := by
    rw [hdelta]
    rfl
  refine ⟨?_, List.forall_mem_append.mpr ⟨h.within, List.forall_mem_singleton.mpr ?_⟩⟩
  · have hordered := h.ordered
    have hlater := h.later
    rw [h.after_eq] at hdelta hordered hlater
    exact h.law.concat hdelta hordered hlater hknown.stored hevent h.requested
  · rw [hthrough]
    exact (run.system.ledger.cursor_of_cut (List.append_nil _).symm).1 _ hknown.stored

/-- A program that shows the Pilot nothing keeps what it cannot disturb, and raises lawfully. -/
theorem triple_of_tracks {α : Type} {I : ReorientationRun ρ → Prop}
    (hI : ∀ {run run'}, I run → Tracks run run' → I run')
    (hlawful : ∀ run, I run → Lawful service importCursor run) {x : ReorientationM ρ α}
    (hx : ∀ run₀, EStateM.Preserves (Tracks run₀) x) :
    EStateM.Triple I x (fun _ => I) (fun _ => Lawful service importCursor) :=
  (preserves_of_tracks hI hx).conseq (fun _ h => h) (fun _ _ h => h) fun _ => hlawful

omit [Sha256] in
theorem buildReorientationTurn_eq_ok {request : ReorientationRequest}
    {contract : ReorientationAssessmentContract} {sessionIndexEventIds : List Identifier}
    {providerSessionId : Option NonBlank} {delta : EventDeltaSummary} {result : HistoryToolResult}
    {auditedHistoryEventIds : List Identifier} {turn : ReorientationTurn}
    (h : buildReorientationTurn request contract sessionIndexEventIds providerSessionId delta result
      auditedHistoryEventIds = .ok turn) :
    turn.eventDelta = delta ∧ turn.historyResult = result := by
  unfold buildReorientationTurn at h
  split_ifs at h
  obtain rfl := Except.ok.inj h
  exact ⟨rfl, rfl⟩

namespace ReorientationService

/-- **Showing a turn** makes one more round, whatever the Pilot answers. -/
theorem triple_respond (afterCursor : Nat) (turn : ReorientationTurn) :
    EStateM.Triple
      (fun run => AtRound service importCursor afterCursor turn.historyResult run ∧
        turn.eventDelta = stretchDelta run.system.ledger afterCursor turn.historyResult.eventCursor)
      (service.respond turn) (Responded service importCursor turn.historyResult)
      (fun _ => Lawful service importCursor) := by
  rintro run ⟨hat, hdelta⟩
  obtain ⟨reply, memory, hask⟩ := onMemory_attempt (service.respondReorientation turn) run
  have hlawful := hat.shown hdelta reply memory
  let run' : ReorientationRun ρ :=
    { run with memory := memory, rounds := run.rounds ++ [(turn, reply)] }
  have hshown : service.respond turn run = EStateM.ofExcept reply run' := by
    rw [respond, EStateM.run_bind_of_ok hask]
    rfl
  rw [hshown]
  cases reply with
  | error e => exact hlawful
  | ok response =>
    obtain ⟨event, -, hknown⟩ := hat.known
    refine ⟨hlawful, hat.ordered.trans hat.later.le, ?_, ⟨event, hknown⟩, fun round hround => ?_⟩
    · rw [nextAfter, List.getLast?_concat, Option.map_some, Option.getD_some, hdelta]
      rfl
    · rw [List.getLast?_concat] at hround
      obtain rfl := Option.some.inj hround
      rfl

theorem preserves_checkpoint (hothers : service.OthersFollow)
    (providerSessionId actorId key : String) :
    EStateM.Preserves (Tracks run₀) (service.command
      (.recordReorientationSessionCheckpoint providerSessionId actorId key)) := by
  refine preserves_command hothers fun clock s₀ => ?_
  rw [ActivationCommand.run]
  exact preserves_performActivation (fun _ _ h => keepsImport_checkpoint h) s₀

theorem preserves_usage (hothers : service.OthersFollow) (inputTokens outputTokens : Int)
    (actorId key : String) :
    EStateM.Preserves (Tracks run₀) (service.command
      (.recordReorientationUsage inputTokens outputTokens actorId key)) := by
  refine preserves_command hothers fun clock s₀ => ?_
  rw [ActivationCommand.run]
  exact preserves_performActivation (fun _ _ h => keepsImport_usage h) s₀

/-- **One round** shows the result with the events since the one before. -/
theorem triple_executeRound (hothers : service.OthersFollow) (request : ReorientationRequest)
    (contract : ReorientationAssessmentContract) (sessionIndexEventIds : List Identifier)
    (roundIndex afterCursor : Nat) (result : HistoryToolResult)
    (providerSessionId : Option NonBlank) (auditedHistoryEventIds : List Identifier) :
    EStateM.Triple (AtRound service importCursor afterCursor result)
      (service.executeRound request contract sessionIndexEventIds roundIndex afterCursor result
        providerSessionId auditedHistoryEventIds)
      (Responded service importCursor result) (fun _ => Lawful service importCursor) := by
  refine .bind (triple_of_tracks AtRound.tracks (fun _ h => h.toLawful)
    fun _ => preserves_await hothers) fun _ => .bind .get fun run => ?_
  refine .bind (Q := fun delta run => AtRound service importCursor afterCursor result run ∧
    delta = stretchDelta run.system.ledger afterCursor result.eventCursor)
    (.ofExcept ?_ fun _ _ _ h => h.2.toLawful) fun delta => ?_
  · rintro delta hdelta _ ⟨rfl, hat⟩
    obtain ⟨event, -, hknown⟩ := hat.known
    rw [reorientationDelta_eq
      ((run.system.ledger.cursor_of_cut (List.append_nil _).symm).1 _ hknown.stored)] at hdelta
    exact ⟨hat, (Except.ok.inj hdelta).symm⟩
  refine .bind (Q := fun turn run => turn.historyResult = result ∧
    AtRound service importCursor afterCursor result run ∧
    turn.eventDelta = stretchDelta run.system.ledger afterCursor result.eventCursor)
    (.ofExcept ?_ fun _ _ _ h => h.1.toLawful) fun turn => ?_
  · rintro turn hturn run ⟨hat, hdelta⟩
    obtain ⟨heventDelta, hresult⟩ := buildReorientationTurn_eq_ok hturn
    exact ⟨hresult, hat, heventDelta.trans hdelta⟩
  rintro run ⟨rfl, hat⟩
  refine EStateM.Triple.bind (triple_respond afterCursor turn) (fun response => ?_) run hat
  have hrecord {x : ReorientationM ρ Unit} (hx : ∀ run₀, EStateM.Preserves (Tracks run₀) x) :=
    triple_of_tracks (I := Responded service importCursor turn.historyResult response)
      Responded.tracks (fun _ h => h.toLawful) hx
  exact .bind (hrecord fun _ => preserves_checkpoint hothers _ _ _) fun _ =>
    .bind (hrecord fun _ => preserves_usage hothers _ _ _ _) fun _ => .pure fun _ h => h

/-- **A query that returns** was recorded past everything the service knew before. -/
theorem known_of_resolve (hothers : service.OthersFollow) {action : ReadHistoryAction}
    {actorId key : String} {result : HistoryToolResult}
    (h : service.resolve action actorId key run = .ok result run') :
    Tracks run run' ∧ service.Answers run'.system.ledger.events action result ∧
      (∃ event, event.eventId = result.resultEventId ∧
        KnownAt run'.system result.eventCursor event) ∧
      ∀ cursor earlier, KnownAt run.system cursor earlier → cursor < result.eventCursor := by
  obtain ⟨⟨reply, clock, hresolve⟩, hrounds, hread⟩ := resolve_eq_ok h
  let mid := (service.others run.memory run.system).1
  have hothersFollow : Follows run.system mid := hothers run.memory run.system
  obtain ⟨⟨event, answer⟩, hrecord, -, -, heventId, hcursor⟩ := resolveHistory_eq_ok hresolve
  have hkeeps := keepsImport_historyQueryRecording mid.kernel.activation action result.page actorId
    key clock
  rcases record_follows hkeeps (mid.putBlob (.text result.page.encoded)) with
    ⟨e, herror⟩ | ⟨_, _, last, hok, hfollows, hdescribes, hstored, hversion⟩
  · cases herror.symm.trans hrecord
  cases hok.symm.trans hrecord
  have hlast : Follows mid run'.system :=
    ⟨hfollows.events, hfollows.data_space, hfollows.version, hfollows.imported⟩
  have hall := hothersFollow.trans hlast
  rw [← hcursor] at hstored
  have hstream : event.streamId = run'.system.kernel.activation.streamId := by
    rw [hlast.streamId]
    exact hdescribes.stream
  refine ⟨⟨hall, hrounds⟩, ⟨⟨_, hstored, rfl, heventId.symm, hdescribes.payload⟩, hread⟩,
    ⟨event, heventId.symm, hstored, hstream, hversion.ge⟩, fun cursor earlier hknown => ?_⟩
  have hmid := hknown.follows hothersFollow
  have hlater : earlier.streamVersion < event.streamVersion := by
    have hnext : event.streamVersion = mid.kernel.activation.version + 1 := hdescribes.version
    have hle := hmid.version
    omega
  exact cursor_lt_of_version_lt run'.system.ledger (hlast.events.subset hmid.stored) hstored
    ((hmid.follows hlast).stream.trans hstream.symm) hlater

omit [Sha256] in
/-- Only an answer with one action, which is a query, requests a query. -/
theorem actions_of_nextReorientationAction {actions : List InterfaceAction}
    {action : ReadHistoryAction} (h : nextReorientationAction actions = .ok (.inl action)) :
    actions = [.readHistory action] := by
  unfold nextReorientationAction at h
  dsimp only at h
  split at h
  · obtain ⟨-, h⟩ := Checked.check_bind_eq_ok_iff.mp h
    cases Checked.pure_eq_ok_iff.mp h
  · next action' others hsubmissions hactions =>
    obtain ⟨⟨hone, rfl⟩, hreturned⟩ := Checked.check_bind_eq_ok_iff.mp h
    obtain rfl := Sum.inl.inj (Checked.pure_eq_ok_iff.mp hreturned)
    obtain ⟨only, rfl⟩ := List.length_eq_one_iff.mp hone
    cases only with
    | readHistory asked =>
      obtain ⟨rfl, -⟩ := List.cons.inj hactions
      rfl
    | _ => cases hactions
  · cases h

/-- **The next query** is recorded past the last delta. -/
theorem triple_resolve (hothers : service.OthersFollow) {result : HistoryToolResult}
    {response : StructuredInterfaceResponse} {action : ReadHistoryAction}
    (haction : response.actions = [.readHistory action]) (actorId key : String) :
    EStateM.Triple (Responded service importCursor result response)
      (service.resolve action actorId key)
      (AtRound service importCursor result.eventCursor) (fun _ => Lawful service importCursor) := by
  intro run hrun
  have hfinal := (preserves_resolve hothers action actorId key).final (.refl run)
  cases hresolve : service.resolve action actorId key run with
  | error e run' =>
    rw [EStateM.finalState_of_error hresolve] at hfinal
    exact hrun.toLawful.tracks hfinal
  | ok next run' =>
    obtain ⟨htracks, hanswers, hknown, hpast⟩ := known_of_resolve hothers hresolve
    obtain ⟨earlier, hearlier⟩ := hrun.known
    refine ⟨hrun.toLawful.tracks htracks, hrun.ordered, ?_, hpast _ earlier hearlier, hknown, ?_⟩
    · rw [htracks.rounds]
      exact hrun.next_eq.symm
    · rw [htracks.rounds]
      exact fun round hround => ⟨action, ⟨response, hrun.reply round hround, haction⟩, hanswers⟩

/-- **All the rounds** obey the law, whether they return or raise. -/
theorem triple_executeRounds (hothers : service.OthersFollow) (request : ReorientationRequest)
    (contract : ReorientationAssessmentContract) (sessionIndexEventIds : List Identifier)
    (rounds roundIndex afterCursor : Nat) (result : HistoryToolResult)
    (providerSessionId : Option NonBlank) (auditedHistoryEventIds : List Identifier) :
    EStateM.Triple (AtRound service importCursor afterCursor result)
      (service.executeRounds request contract sessionIndexEventIds rounds roundIndex afterCursor
        result providerSessionId auditedHistoryEventIds)
      (fun _ => Lawful service importCursor) (fun _ => Lawful service importCursor) := by
  induction rounds generalizing roundIndex afterCursor result providerSessionId
    auditedHistoryEventIds with
  | zero => exact .throw fun _ h => h.toLawful
  | succ rounds ih =>
    refine .bind (triple_executeRound hothers request contract sessionIndexEventIds roundIndex
      afterCursor result providerSessionId auditedHistoryEventIds) fun response => ?_
    refine .bind (Q := fun next run => nextReorientationAction response.actions = .ok next ∧
      Responded service importCursor result response run)
      (.ofExcept (fun _ h _ hrun => ⟨h, hrun⟩) fun _ _ _ h => h.toLawful) fun next => ?_
    rintro run ⟨hnext, hrun⟩
    cases next with
    | inr submission =>
      exact preserves_of_tracks Lawful.tracks
        (fun _ => .bind (preserves_submit hothers request _ _) fun _ => .pure _) run hrun.toLawful
    | inl action =>
      have haction := actions_of_nextReorientationAction hnext
      exact EStateM.Triple.bind (triple_resolve hothers haction _ _)
        (fun next => ih (roundIndex + 1) result.eventCursor next _ _) run hrun

end ReorientationService

/-! ### Where the import stands -/

/-- The import stands at a cursor, in an event that the service knows. -/
structure PlacedAt (s : MemorySystem) (importCursor : Nat) : Prop where
  left_uncommissioned : s.kernel.activation.state ≠ .uncommissioned
  cursor_eq : s.kernel.activation.importEventCursor = importCursor
  known : ∃ event, KnownAt s importCursor event

/-- Without a receipt nothing was imported; with one, the import stands at its cursor. -/
def ImportPlaced (s : MemorySystem) : Prop :=
  s.kernel.activation.state = .uncommissioned ∧ s.kernel.activation.importReceipt = none ∨
    PlacedAt s s.kernel.activation.importEventCursor

omit [Sha256] in
theorem PlacedAt.follows (h : PlacedAt s importCursor) (hfollows : Follows s s') :
    PlacedAt s' importCursor := by
  obtain ⟨hstate, hcursor⟩ := hfollows.imported h.left_uncommissioned
  obtain ⟨event, hknown⟩ := h.known
  exact ⟨hstate, hcursor.trans h.cursor_eq, event, hknown.follows hfollows⟩

omit [Sha256] in
/-- A permitted event before the import is the import, or changes nothing of it. -/
theorem imports_of_applyActivation {a next : ActivationService} {event : EventEnvelope}
    {payload : ActivationPayload} {cursor : Nat} (ha : a.state = .uncommissioned)
    (hpermits : a.Permits event payload)
    (h : applyActivation event payload cursor a = .ok next) :
    next.state ≠ .uncommissioned ∧ next.importEventCursor = cursor ∨
      next.state = a.state ∧ next.importReceipt = a.importReceipt := by
  have hyields : Checked.Yields (onActivation event cursor a payload) fun mid =>
      mid.state ≠ .uncommissioned ∧ mid.importEventCursor = cursor ∨
        mid.state = a.state ∧ mid.importReceipt = a.importReceipt := by
    cases payload <;> rw [onActivation]
    case historyImportVerified =>
      rw [Checked.yields_check_bind]
      exact fun _ => Checked.yields_pure.mpr (Or.inl ⟨ActivationState.noConfusion, rfl⟩)
    case historySessionIndexPageVerified => exact Checked.yields_ok.mpr (Or.inr ⟨rfl, rfl⟩)
    case historyQueryResolved => exact absurd (ha.symm.trans hpermits) ActivationState.noConfusion
    all_goals exact absurd (ha.symm.trans hpermits.1) ActivationState.noConfusion
  obtain ⟨mid, hmid, rfl⟩ := ActivationService.applyActivation_eq_ok h
  have hyielded := hyields.of_ok hmid
  exact hyielded

omit [Sha256] in
/-- **Every recorded event** leaves the import in its place, or is the import. -/
theorem importPlaced_of_stepped {event : EventEnvelope} (hs : s.KernelSynced)
    (hplaced : ImportPlaced s) (h : s.Stepped event s') : ImportPlaced s' := by
  rcases hplaced with ⟨hstate, hreceipt⟩ | hplaced
  · cases h.wrote with
    | kernel payload _ _ happlied =>
      left
      rw [(Kernel.changes_of_applyKernel hs.consistent happlied).activation]
      cases payload <;> exact ⟨hstate, hreceipt⟩
    | activation payload hpayload hstream hpermits happlied =>
      obtain ⟨hstreamId, hversion⟩ := ActivationService.frame_of_applyActivation happlied
      rcases imports_of_applyActivation hstate hpermits happlied with
        ⟨hleft, hcursor⟩ | ⟨hstate', hreceipt'⟩
      · refine Or.inr ⟨hleft, rfl, event, ?_, hstream.trans hstreamId.symm, hversion.ge⟩
        rw [hcursor, h.events]
        exact List.mem_append_right _ (List.mem_singleton_self _)
      · exact Or.inl ⟨hstate'.trans hstate, hreceipt'.trans hreceipt⟩
    | ownerAuth _ _ _ _ hkernel =>
      rw [ImportPlaced, hkernel]
      exact Or.inl ⟨hstate, hreceipt⟩
    | other _ hkernel =>
      left
      rw [hkernel]
      exact ⟨hstate, hreceipt⟩
  · have hfollowed := hplaced.follows (follows_of_stepped hs h)
    right
    rw [hfollowed.cursor_eq]
    exact hfollowed

theorem importPlaced_kept (dataSpace : DataSpace) :
    KeptByProcesses fun s => SyncedIn dataSpace s ∧ ImportPlaced s where
  synced _ hs := hs.1.1.toKernelSynced
  all_synced _ hs := hs.1.1
  mirrored s event s' hs h := ⟨(syncedIn_kept dataSpace).mirrored s event s' hs.1 h,
    importPlaced_of_stepped hs.1.1.toKernelSynced hs.2 h.stepped⟩
  stored s data hs := by
    refine ⟨(syncedIn_kept dataSpace).stored s data hs.1, ?_⟩
    rcases hs.2 with hnone | hplaced
    · exact Or.inl hnone
    · exact Or.inr (hplaced.follows ⟨List.prefix_rfl, rfl, le_rfl, fun hstate => ⟨hstate, rfl⟩⟩)
  restarted s hs := by
    refine ⟨(syncedIn_processes dataSpace).restarted s hs.1, ?_⟩
    rcases hs.2 with hnone | hplaced
    · exact Or.inl hnone
    · exact Or.inr (hplaced.follows ⟨List.prefix_rfl, rfl, le_rfl, fun hstate => ⟨hstate, rfl⟩⟩)

/-- **The import stands at its cursor** after every run of processes and whatever the services
recorded since. -/
theorem importPlaced_of_reaches (dataSpace : DataSpace) (inputs : List (ProcessCommand × Clock))
    (hreaches : System.Reaches (fun _ => True) (runProcesses (.new dataSpace) inputs) s) :
    ImportPlaced s := by
  have hkept := importPlaced_kept dataSpace
  have hrun := Run.exec_invariant (ProcessCommand.invariant_step hkept) inputs
    ⟨syncedIn_new dataSpace, Or.inl ⟨rfl, rfl⟩⟩
  exact (hreaches.invariant (fun s event s' hs _ h => hkept.mirrored s event s' hs h) hkept.stored
    hrun).2

/-! ### Executions -/

/-- Before the execution the import is placed if there is one, and the Pilot was shown nothing. -/
structure BeforeStart (importCursor : Nat) (run : ReorientationRun ρ) : Prop where
  placed : ImportPlaced run.system
  cursor_eq : run.system.kernel.activation.importEventCursor = importCursor
  rounds_eq : run.rounds = []

/-- Before the first query the import is placed, and the Pilot was shown nothing. -/
structure AtStart (importCursor : Nat) (run : ReorientationRun ρ) : Prop where
  placed : PlacedAt run.system importCursor
  rounds_eq : run.rounds = []

/-- After the first query its result stands past the import. -/
structure AtInitial (service : ReorientationService ρ) (importCursor : Nat)
    (result : HistoryToolResult) (run : ReorientationRun ρ) : Prop
    extends AtRound service importCursor importCursor result run where
  placed : PlacedAt run.system importCursor

omit [Sha256] in
theorem AtStart.tracks (h : AtStart importCursor run) (htracks : Tracks run run') :
    AtStart importCursor run' :=
  ⟨h.placed.follows htracks.follows, htracks.rounds.trans h.rounds_eq⟩

/-- Nothing shown is nothing wrong. -/
theorem lawful_of_rounds_eq (h : run.rounds = []) : Lawful service importCursor run := by
  refine ⟨?_, ?_⟩
  · rw [h]
    exact roundsLaw_nil service importCursor _
  · rw [h]
    exact fun _ hround => by cases hround

theorem AtInitial.tracks {result : HistoryToolResult}
    (h : AtInitial service importCursor result run) (htracks : Tracks run run') :
    AtInitial service importCursor result run' :=
  ⟨h.toAtRound.tracks htracks, h.placed.follows htracks.follows⟩

namespace ReorientationService

/-- **The initial query** is recorded past the import. -/
theorem triple_initial (hothers : service.OthersFollow) (action : ReadHistoryAction)
    (actorId key : String) :
    EStateM.Triple (AtStart importCursor) (service.resolve action actorId key)
      (AtInitial service importCursor) (fun _ => Lawful service importCursor) := by
  intro run hrun
  have hfinal := (preserves_resolve hothers action actorId key).final (.refl run)
  cases hresolve : service.resolve action actorId key run with
  | error e run' =>
    rw [EStateM.finalState_of_error hresolve] at hfinal
    exact lawful_of_rounds_eq (hrun.tracks hfinal).rounds_eq
  | ok result run' =>
    obtain ⟨htracks, -, hknown, hpast⟩ := known_of_resolve hothers hresolve
    have hstart := hrun.tracks htracks
    obtain ⟨event, himport⟩ := hrun.placed.known
    refine ⟨⟨lawful_of_rounds_eq hstart.rounds_eq, le_rfl, ?_, hpast _ event himport, hknown, ?_⟩,
      hstart.placed⟩
    · rw [hstart.rounds_eq]
      rfl
    · rw [hstart.rounds_eq]
      exact fun _ hround => by cases hround

/-- **An execution** obeys the law, whether it returns or raises. -/
theorem triple_execute (hothers : service.OthersFollow) (fuel : Nat)
    (request : ReorientationRequest) :
    EStateM.Triple (BeforeStart importCursor) (service.execute fuel request)
      (fun _ => Lawful service importCursor) (fun _ => Lawful service importCursor) := by
  have hbefore (run : ReorientationRun ρ) (h : BeforeStart importCursor run) :
      Lawful service importCursor run := lawful_of_rounds_eq h.rounds_eq
  have hstart (run : ReorientationRun ρ) (h : AtStart importCursor run) :
      Lawful service importCursor run := lawful_of_rounds_eq h.rounds_eq
  refine .bind (.ofExcept (fun _ _ _ h => h) fun _ _ => hbefore) fun _ =>
    .bind (.ofExcept (fun _ _ _ h => h) fun _ _ => hbefore) fun _ => .bind .get fun run => ?_
  refine .bind (Q := fun _ => AtStart importCursor)
    (.ofExcept ?_ fun _ _ _ h => hbefore _ h.2) fun receipt => ?_
  · rintro receipt hreceipt _ ⟨rfl, hplaced, hcursor, hrounds⟩
    rcases hplaced with ⟨-, hnone⟩ | hplaced
    · rw [hnone] at hreceipt
      cases hreceipt
    · rw [hcursor] at hplaced
      exact ⟨hplaced, hrounds⟩
  refine .bind (triple_of_tracks (I := AtStart importCursor) AtStart.tracks hstart
    fun _ => preserves_scanSessionIndex hothers fuel receipt _ _) fun answer => ?_
  cases answer with
  | none => exact .pure hstart
  | some sessionPages =>
    refine .bind (triple_initial hothers _ _ _) fun result => ?_
    let I := AtInitial service importCursor result
    have hinitial (run : ReorientationRun ρ) (h : I run) : Lawful service importCursor run :=
      h.toLawful
    refine .bind (triple_of_tracks (I := I) AtInitial.tracks hinitial
      fun _ => preserves_materializeOpenCommitments hothers fuel _ _) fun answer => ?_
    cases answer with
    | none => exact .pure hinitial
    | some =>
      refine .bind (triple_of_tracks (I := I) AtInitial.tracks hinitial
        fun _ => preserves_await hothers) fun _ => .bind .get fun run => ?_
      refine .bind (Q := fun _ run' => run' = run ∧ I run')
        (.ofExcept (fun _ _ _ h => ⟨h.1.symm, h.2⟩) fun _ _ _ h => hinitial _ h.2)
        fun conversationId => .bind (Q := fun _ run' => run' = run ∧ I run')
          (.ofExcept (fun _ _ _ h => h) fun _ _ _ h => hinitial _ h.2) fun contract => ?_
      refine .bind (Q := fun _ => Lawful service importCursor) ?_ fun _ => .pure fun _ h => h
      rintro _ ⟨rfl, hrun⟩
      rw [hrun.placed.cursor_eq]
      exact triple_executeRounds hothers request contract _ _ _ _ _ _ _ _ hrun.toAtRound

end ReorientationService

/-- **Deltas join up.** After any run of processes and whatever the services recorded since, an
execution shows the Pilot rounds that obey the law, whatever is appended in between and however the
execution ends. -/
theorem roundsLaw_execute (hothers : service.OthersFollow) (dataSpace : DataSpace)
    (inputs : List (ProcessCommand × Clock))
    (hreaches : System.Reaches (fun _ => True) (runProcesses (.new dataSpace) inputs) s)
    (memory : ρ) (fuel : Nat) (request : ReorientationRequest) :
    let run : ReorientationRun ρ := (service.execute fuel request).finalState ⟨s, memory, []⟩
    RoundsLaw service s.kernel.activation.importEventCursor run.system.ledger.events
      run.rounds := by
  have hbefore : BeforeStart s.kernel.activation.importEventCursor
      (⟨s, memory, []⟩ : ReorientationRun ρ) :=
    ⟨importPlaced_of_reaches dataSpace inputs hreaches, rfl, rfl⟩
  exact ((ReorientationService.triple_execute hothers fuel request).final hbefore).law

/-- The company's attempt has started. -/
def attemptStarted : List (ProcessCommand × Clock) :=
  (commissioning.take 3).map fun input => (.service input.1, input.2)

/-- Another surface opens one conversation after the other. -/
def openConversation (n : Nat) : SystemM InMemoryOperationalLedger Unit := do
  let s ← get
  let conversationId := "conversation:" ++ toString n
  let answer ← EStateM.ofExcept <| s.interface.createConversation s.kernel
    ⟨conversationId, "space:company-1", "node:owner-interface", "owner:1", "Release"⟩
    ⟨"binding:" ++ toString n, conversationId, .tui, "session:1", "channel:1", "device:1"⟩
    ("create:" ++ toString n) fun _ => 0
  match answer with
  | .inl _ => return ()
  | .inr r =>
    let _ ← record r

omit [Sha256] in
private theorem session_nonblank : isNonBlank "session:1" = true := by decide

omit [Sha256] in
private theorem result_bytes_pos : 0 < 1000 := by decide

/-- A Pilot that asks for the current state once more, and then fails. -/
def inquiringReorientation : ReorientationService Nat where
  read _ _ _ := pure ⟨"[]", some [], none, "source"⟩
  respondReorientation turn :=
    if turn.providerSessionId.isNone then
      pure
        { displayText := "Reading on."
          actions := [.readHistory ⟨"action:2", .getCurrentState, none, none⟩]
          providerSessionId := "session:1"
          pilotUsage := ⟨"pilot:1", "provider", "model", 1, 0, 0, 1, 0, 1, false, false, false,
            false, false, 0⟩
          provider_session_nonblank := session_nonblank }
    else throw (.raised "no Pilot")
  maxResultBytes := 1000
  clock _ _ := 0
  newId n index := "action:" ++ toString n ++ ":" ++ toString index
  others n s := ((openConversation n).finalState s, n + 1)
  max_result_bytes_pos := result_bytes_pos

/-- The request of the company's owner. -/
def companyReorientationRequest : ReorientationRequest where
  initialAction := ⟨"action:1", .getCurrentState, none, none⟩
  actorId := "pilot:1"
  idempotencyKey := "reorientation:1"
  maxToolRounds := 3
  objective := "Take up the work."
  sessionIndexRef := "index:1"
  openCommitmentRefs := []
  currentStateRef := "state:1"

/-- Opening a conversation follows, whatever the data space. -/
theorem othersFollow_inquiringReorientation : inquiringReorientation.OthersFollow := by
  intro n s
  have hpreserves : EStateM.Preserves (Follows s) (openConversation n) := by
    refine .bind .get fun s₀ => .bind (.ofExcept _) fun answer => ?_
    cases answer with
    | inl => exact .pure _
    | inr r => exact .bind (preserves_recordInterface r s) fun _ => .pure _
  exact hpreserves.final (.refl s)

omit [Sha256] in
/-- Two rounds are shown, with conversations opened before, between and after the queries. -/
theorem roundsLaw_execute_inquiring :
    letI := Sha256.polynomial
    let s := runProcesses (.new companySpace) attemptStarted
    let run : ReorientationRun Nat := (inquiringReorientation.execute 2
      companyReorientationRequest).finalState ⟨s, 1, []⟩
    (run.rounds.map fun round =>
        (round.1.eventDelta.afterCursor, round.1.eventDelta.throughCursor)) =
      [(2, 7), (7, 19)] ∧
      RoundsLaw inquiringReorientation s.kernel.activation.importEventCursor
        run.system.ledger.events run.rounds := by
  refine ⟨by decide +kernel, ?_⟩
  exact @roundsLaw_execute Sha256.polynomial _ _ _
    (@othersFollow_inquiringReorientation Sha256.polynomial) companySpace attemptStarted
    (@System.Reaches.refl Sha256.polynomial _ _) 1 2 companyReorientationRequest

end Nanihold
