import Nanihold.Library.Traversal
import Nanihold.Reorientation
import Nanihold.Replay.Restart
import Nanihold.Safety.LedgerHistory

/-!
# Following the reader's cursors

Two loops of a reorientation go from page to page by the cursors that the history reader returns.
The listing of the open commitments records every page before it asks for the next one, under a key
made from the page's cursor; a cursor that comes back collides with the key, so this loop ends. The
scan of the session index reads all pages before it records the first one, and no cursor is
compared with the ones before: it ends exactly if no cursor comes again and again.

## Main definitions

* `RecordedNext` — a history tool recorded one event.
* `Terminates` — a loop over pages ends.
* `ReorientationService.NoCursorRecurs` — the scan meets no cursor again and again.
* `FormsChain` — pages that lead from the first one to one without a next cursor.
* `PaginationLaw` — both loops end, and a scan that succeeds recorded a chain.

## Main results

* `terminates_readOpenCommitments` — the listing of the open commitments ends.
* `noCursorRecurs_iff_of_stateless` — for a reader that answers from the cursor alone, no cursor
  comes again and again exactly if none comes twice.
* `paginationLaw_iff` — the law holds exactly if no cursor comes again and again.
-/

namespace Nanihold

variable [Sha256] {s s' : MemorySystem}

/-! ### What a history tool records -/

/-- The keys of the recorded events. -/
def recordedKeys (s : MemorySystem) : Set String :=
  {key | ∃ stored ∈ s.ledger.events, stored.event.idempotencyKey = key}

/-- One event of the Activation service was recorded, under a key that was not used before. -/
structure RecordedNext (s : MemorySystem) (key : String) (payload : ActivationPayload)
    (event : EventEnvelope) (s' : MemorySystem) : Prop where
  events : s'.ledger.events = s.ledger.events ++ [s.ledger.store event]
  key_eq : event.idempotencyKey = key
  payload_eq : event.payload = .activation payload
  fresh : key ∉ recordedKeys s
  reaches : System.Reaches (fun _ => True) s s'

/-- **A replayable recording** that returns recorded the next event. -/
theorem recordedNext_of_record (hs : s.KernelSynced) {r : Recording ActivationService}
    {payload : ActivationPayload} (hr : s.kernel.activation.Replayable payload r)
    {answer : EventEnvelope × AppendResult} (h : record r s = .ok answer s') :
    ∃ event, RecordedNext s r.idempotencyKey payload event s' ∧
      answer = (event, appendedResult s.ledger event) := by
  rcases record_activation_answer hs hr with
    ⟨e, herror⟩ | ⟨event, next, hdescribes, hpayload, hmirrored, hrecord⟩
  · cases herror.symm.trans h
  · cases hrecord.symm.trans h
    obtain ⟨happ, -⟩ := hmirrored.stepped.appended
    refine ⟨event, ⟨hmirrored.stepped.events, hdescribes.key, hpayload, ?_,
      .recorded (.refl s) trivial hmirrored⟩, rfl⟩
    rintro ⟨stored, hstored, hkey⟩
    have hfound := (s.ledger.idempotency_iff event.idempotencyKey stored).mpr
      ⟨hstored, hkey.trans hdescribes.key.symm⟩
    cases happ.fresh_key.symm.trans hfound

/-- A blob stored before makes no difference. -/
private theorem RecordedNext.of_putBlob {data : Document} {key : String}
    {payload : ActivationPayload} {event : EventEnvelope}
    (h : RecordedNext (s.putBlob data) key payload event s') :
    RecordedNext s key payload event s' :=
  ⟨h.events, h.key_eq, h.payload_eq, h.fresh, .trans (.stored (.refl s) data) h.reaches⟩

/-- The payload of a query's event. -/
def historyQueryPayload (action : ReadHistoryAction) (page : HistoryPage) : ActivationPayload :=
  .historyQueryResolved action.actionId action.operation action.argument action.pageCursor
    page.nextCursor page.sourceCursor (blobRef (.text page.encoded))
    (hexdigest (.text page.encoded))

/-- **A query that returns** hands out the reader's page, with the answer to its recording. -/
theorem resolveHistory_eq_ok {maxResultBytes : Nat} {action : ReadHistoryAction}
    {reply : Except VsmError HistoryPage} {actorId key : String} {clock : Clock}
    {result : HistoryToolResult}
    (h : resolveHistory maxResultBytes action reply actorId key clock s = .ok result s') :
    ∃ answer : EventEnvelope × AppendResult,
      record (s.kernel.activation.historyQueryRecording action result.page actorId key clock)
          (s.putBlob (.text result.page.encoded)) = .ok answer s' ∧
        reply = .ok result.page ∧ s.kernel.activation.state = .reorientationOnly ∧
        result.resultEventId = answer.1.eventId ∧ result.eventCursor = answer.2.cursor := by
  rw [resolveHistory, EStateM.run_get_bind] at h
  obtain ⟨page, mid, hchecks, h⟩ := EStateM.run_bind_eq_ok_iff.mp h
  obtain ⟨hpage, rfl⟩ := EStateM.run_ofExcept_eq_ok_iff.mp hchecks
  obtain ⟨hstate, hpage⟩ := Checked.check_bind_eq_ok_iff.mp hpage
  obtain ⟨-, -, hpage⟩ := Checked.bind_eq_ok_iff.mp hpage
  obtain ⟨answered, hreply, hpage⟩ := Checked.bind_eq_ok_iff.mp hpage
  obtain ⟨-, hpage⟩ := Checked.check_bind_eq_ok_iff.mp hpage
  obtain rfl := Checked.pure_eq_ok_iff.mp hpage
  obtain ⟨_, mid, hblob, h⟩ := EStateM.run_bind_eq_ok_iff.mp h
  cases hblob
  obtain ⟨answer, next, hrecord, h⟩ := EStateM.run_bind_eq_ok_iff.mp h
  cases h
  exact ⟨answer, hrecord, hreply, hstate, rfl, rfl⟩

/-- In a synced system the event was recorded as the next one. -/
private theorem recordedNext_of_resolveHistory (hs : s.KernelSynced) {maxResultBytes : Nat}
    {action : ReadHistoryAction} {reply : Except VsmError HistoryPage} {actorId key : String}
    {clock : Clock} {result : HistoryToolResult}
    (h : resolveHistory maxResultBytes action reply actorId key clock s = .ok result s') :
    ∃ event, RecordedNext s key (historyQueryPayload action result.page) event s' := by
  obtain ⟨answer, hrecord, -, hstate, -, -⟩ := resolveHistory_eq_ok h
  have hreplayable : (s.putBlob (.text result.page.encoded)).kernel.activation.Replayable
      (historyQueryPayload action result.page)
      (s.kernel.activation.historyQueryRecording action result.page actorId key clock) :=
    ActivationService.replayable_historyQueryRecording hstate
  obtain ⟨event, hrecorded, -⟩ :=
    recordedNext_of_record (System.kernelSynced_putBlob hs _) hreplayable hrecord
  exact ⟨event, hrecorded.of_putBlob⟩

/-- The payload of the event of one page of the session index. -/
def sessionPagePayload (page : Option String × HistoryPage) : ActivationPayload :=
  .historySessionIndexPageVerified page.1 page.2.nextCursor (blobRef (.text page.2.encoded))
    (hexdigest (.text page.2.encoded))

/-- **An index that was recorded** left one event for each page, in order. -/
theorem recorded_sessionIndex (actorId key : String) :
    ∀ (pages : List (Option String × HistoryPage)) (clock : Clock) {s s' : MemorySystem}
      {results : List HistoryToolResult}, s.KernelSynced →
      recordSessionIndex actorId key pages clock s = .ok results s' →
        results.map (·.page) = pages.map (·.2) ∧ System.Reaches (fun _ => True) s s' ∧
          ∃ recorded, s'.ledger.events = s.ledger.events ++ recorded ∧
            recorded.map (·.event.payload) =
              pages.map (EventPayload.activation ∘ sessionPagePayload) ∧
            recorded.map (·.event.idempotencyKey) = pages.map fun page =>
              key ++ ":" ++ ActivationService.sessionIndexRecording.pageOrFirst page.1
  | [], _, s, s', results, _, h => by
    cases h
    exact ⟨rfl, .refl s, [], (List.append_nil _).symm, rfl, rfl⟩
  | (pageCursor, page) :: pages, clock, s, s', results, hs, h => by
    obtain ⟨_, mid, hblob, h⟩ := EStateM.run_bind_eq_ok_iff.mp h
    cases hblob
    rw [EStateM.run_get_bind] at h
    obtain ⟨answer, next, hrecord, h⟩ := EStateM.run_bind_eq_ok_iff.mp h
    have hreplayable : (s.putBlob (.text page.encoded)).kernel.activation.Replayable
        (sessionPagePayload (pageCursor, page))
        (s.kernel.activation.sessionIndexRecording pageCursor page actorId key clock) :=
      ActivationService.replayable_sessionIndexRecording
    obtain ⟨event, hrecorded, rfl⟩ :=
      recordedNext_of_record (System.kernelSynced_putBlob hs _) hreplayable hrecord
    obtain ⟨rest, last, hrest, h⟩ := EStateM.run_bind_eq_ok_iff.mp h
    cases h
    have hstep := hrecorded.of_putBlob
    obtain ⟨hpages, hreaches, recorded, hevents, hpayloads, hkeys⟩ :=
      recorded_sessionIndex actorId key pages _ (hstep.reaches.kernelSynced hs) hrest
    refine ⟨by rw [List.map_cons, hpages, List.map_cons], hstep.reaches.trans hreaches,
      s.ledger.store event :: recorded, ?_, ?_, ?_⟩
    · rw [hevents, hstep.events, List.append_assoc, List.singleton_append]
    · rw [List.map_cons, List.map_cons, hpayloads]
      exact congrArg (· :: _) hstep.payload_eq
    · rw [List.map_cons, List.map_cons, hkeys]
      exact congrArg (· :: _) hstep.key_eq

/-- What was recorded stays recorded while the other writers are at work. -/
theorem System.Reaches.events_prefix {P : EventPayload → Prop} (h : System.Reaches P s s') :
    s.ledger.events <+: s'.ledger.events :=
  h.invariant (I := fun s' => s.ledger.events <+: s'.ledger.events)
    (fun _ _ _ hmid _ hmirrored => by
      rw [hmirrored.stepped.events]
      exact hmid.trans (List.prefix_append _ _))
    (fun _ _ hmid => hmid) List.prefix_rfl

theorem recordedKeys_mono {P : EventPayload → Prop} (h : System.Reaches P s s') :
    recordedKeys s ⊆ recordedKeys s' :=
  fun _ ⟨stored, hstored, hkey⟩ => ⟨stored, h.events_prefix.subset hstored, hkey⟩

theorem RecordedNext.mem_recordedKeys {key : String} {payload : ActivationPayload}
    {event : EventEnvelope} (h : RecordedNext s key payload event s') :
    key ∈ recordedKeys s' := by
  refine ⟨s.ledger.store event, ?_, h.key_eq⟩
  rw [h.events]
  exact List.mem_append_right _ (List.mem_singleton_self _)

/-! ### Loops over pages -/

/-- A loop over pages ends: from some bound on, the bound is not used up. -/
def Terminates {σ α : Type} (loop : Nat → EStateM VsmError σ (Option α)) (s : σ) : Prop :=
  ∃ bound, ∀ fuel, bound ≤ fuel → ∀ s', loop fuel s ≠ .ok none s'

variable {ρ : Type}

omit [Sha256] in
theorem onMemory_eq_ok_iff {α : Type} {x : EStateM VsmError ρ α} {run run' : ReorientationRun ρ}
    {a : α} : onMemory x run = .ok a run' ↔
      ∃ memory, x run.memory = .ok a memory ∧ run' = { run with memory := memory } := by
  unfold onMemory
  cases x run.memory with
  | ok b memory =>
    constructor
    · intro h
      cases h
      exact ⟨memory, rfl, rfl⟩
    · rintro ⟨_, h, rfl⟩
      cases h
      rfl
  | error e memory =>
    constructor
    · intro h
      cases h
    · rintro ⟨_, h, -⟩
      cases h

omit [Sha256] in
theorem onDataSpace_eq_ok_iff {α : Type} {x : SystemM InMemoryOperationalLedger α}
    {run run' : ReorientationRun ρ} {a : α} : onDataSpace x run = .ok a run' ↔
      ∃ s, x run.system = .ok a s ∧ run' = { run with system := s } := by
  rw [onDataSpace]
  cases hx : x run.system with
  | ok b s =>
    rw [EStateM.run_zoom_of_ok hx]
    constructor
    · intro h
      cases h
      exact ⟨s, rfl, rfl⟩
    · rintro ⟨_, h, rfl⟩
      cases h
      rfl
  | error e s =>
    rw [EStateM.run_zoom_of_error hx]
    constructor
    · intro h
      cases h
    · rintro ⟨_, h, -⟩
      cases h

namespace ReorientationService

variable (service : ReorientationService ρ)

/-- The cursors that the reader may return. -/
def cursors : Set NonBlank :=
  {cursor | ∃ operation argument pageCursor memory page memory',
    service.read operation argument pageCursor memory = .ok page memory' ∧
      page.nextCursor = some cursor}

/-- The other writers of the data space are its services: all they do is to record events. -/
def OthersRecord : Prop :=
  ∀ memory s, s.KernelSynced → System.Reaches (fun _ => True) s (service.others memory s).1

/-! ### The scan of the session index -/

/-- Where the scan goes on after the page at a cursor, if the page passes the checks. -/
def nextSessionPage (here : Option NonBlank × ρ) : Option (Option NonBlank × ρ) :=
  match service.readSessionPage here.1 here.2 with
  | .ok (page, _) memory => page.nextCursor.map fun next => (some next, memory)
  | .error _ _ => none

/-- On the way of the scan from the first page, no cursor comes again and again. -/
def NoCursorRecurs (memory : ρ) : Prop :=
  ∀ cursor, (Traversal.visits service.nextSessionPage Prod.fst (none, memory) cursor).Finite

variable {service}

omit [Sha256] in
/-- The bound is used up exactly if the scan goes on for so many pages. -/
theorem exhausted_readSessionIndex_iff (fuel : Nat) (cursor : Option NonBlank) (memory : ρ) :
    (∃ memory', service.readSessionIndex fuel cursor memory = .ok none memory') ↔
      Traversal.position service.nextSessionPage (cursor, memory) fuel ≠ none := by
  induction fuel generalizing cursor memory with
  | zero => exact ⟨fun _ => Option.some_ne_none _, fun _ => ⟨memory, rfl⟩⟩
  | succ fuel ih =>
    rw [Traversal.position_succ, nextSessionPage, readSessionIndex]
    cases hpage : service.readSessionPage cursor memory with
    | error e mid =>
      rw [EStateM.run_bind_of_error hpage]
      exact ⟨(fun ⟨_, h⟩ => by cases h), fun h => absurd rfl h⟩
    | ok answer mid =>
      obtain ⟨page, refs⟩ := answer
      rw [EStateM.run_bind_of_ok hpage]
      dsimp only
      cases page.nextCursor with
      | none => exact ⟨(fun ⟨_, h⟩ => by cases h), fun h => absurd rfl h⟩
      | some next =>
        change _ ↔ Traversal.position service.nextSessionPage (some next, mid) fuel ≠ none
        rw [← ih (some next) mid]
        constructor
        · rintro ⟨_, h⟩
          obtain ⟨rest, last, hrest, h⟩ := EStateM.run_bind_eq_ok_iff.mp h
          cases rest with
          | none => exact ⟨last, hrest⟩
          | some rest => cases h
        · rintro ⟨last, hrest⟩
          exact ⟨last, EStateM.run_bind_of_ok hrest⟩

/-- Nothing but reading uses up the bound of a scan. -/
theorem exhausted_scanSessionIndex_iff (fuel : Nat) (receipt : HistoryImportReceipt)
    (actorId key : String) (run : ReorientationRun ρ) :
    (∃ run', service.scanSessionIndex fuel receipt actorId key run = .ok none run') ↔
      ∃ memory', service.readSessionIndex fuel none run.memory = .ok none memory' := by
  rw [scanSessionIndex]
  constructor
  · rintro ⟨run', h⟩
    obtain ⟨answer, mid, hread, h⟩ := EStateM.run_bind_eq_ok_iff.mp h
    obtain ⟨memory, hread, -⟩ := onMemory_eq_ok_iff.mp hread
    cases answer with
    | none => exact ⟨memory, hread⟩
    | some index =>
      obtain ⟨_, _, -, h⟩ := EStateM.run_bind_eq_ok_iff.mp h
      obtain ⟨_, _, -, h⟩ := EStateM.run_bind_eq_ok_iff.mp h
      obtain ⟨_, _, -, h⟩ := EStateM.run_bind_eq_ok_iff.mp h
      cases h
  · rintro ⟨memory, hread⟩
    exact ⟨_, EStateM.run_bind_of_ok (onMemory_eq_ok_iff.mpr ⟨memory, hread, rfl⟩)⟩

/-- **A scan ends** exactly if its way from the first page does. -/
theorem terminates_scanSessionIndex_iff (receipt : HistoryImportReceipt) (actorId key : String)
    (run : ReorientationRun ρ) :
    Terminates (fun fuel => service.scanSessionIndex fuel receipt actorId key) run ↔
      Traversal.Ends service.nextSessionPage (none, run.memory) := by
  have hexhausted (fuel : Nat) :
      (∃ run', service.scanSessionIndex fuel receipt actorId key run = .ok none run') ↔
        Traversal.position service.nextSessionPage (none, run.memory) fuel ≠ none :=
    (exhausted_scanSessionIndex_iff fuel receipt actorId key run).trans
      (exhausted_readSessionIndex_iff fuel none run.memory)
  constructor
  · rintro ⟨bound, hbound⟩
    refine ⟨bound, by_contra fun hgoes => ?_⟩
    obtain ⟨run', h⟩ := (hexhausted bound).mpr hgoes
    exact hbound bound le_rfl run' h
  · rintro ⟨bound, hended⟩
    refine ⟨bound, fun fuel hle run' h => ?_⟩
    exact (hexhausted fuel).mp ⟨run', h⟩ (Traversal.position_eq_none_of_le hended hle)

omit [Sha256] in
/-- A scan goes on with cursors that the reader returned. -/
theorem cursor_mem_of_nextSessionPage {here there : Option NonBlank × ρ}
    (h : service.nextSessionPage here = some there) :
    ∃ cursor ∈ service.cursors, there.1 = some cursor := by
  unfold nextSessionPage at h
  cases hpage : service.readSessionPage here.1 here.2 with
  | error e memory =>
    rw [hpage] at h
    cases h
  | ok answer memory =>
    obtain ⟨page, refs⟩ := answer
    rw [hpage] at h
    obtain ⟨next, hnext, rfl⟩ := Option.map_eq_some_iff.mp h
    obtain ⟨answered, mid, hread, hpage⟩ := EStateM.run_bind_eq_ok_iff.mp hpage
    obtain ⟨_, _, -, hpage⟩ := EStateM.run_bind_eq_ok_iff.mp hpage
    cases hpage
    exact ⟨next, ⟨_, _, _, _, _, _, hread, hnext⟩, rfl⟩

omit [Sha256] in
/-- A scan meets finitely many cursors if the reader has no more to return. -/
theorem finite_cursors_met (hfinite : service.cursors.Finite) (memory : ρ) :
    {cursor | ∃ n, (Traversal.position service.nextSessionPage (none, memory) n).map Prod.fst =
      some cursor}.Finite := by
  refine ((hfinite.image some).insert none).subset ?_
  rintro cursor ⟨n, hn⟩
  obtain ⟨there, hthere, rfl⟩ := Option.map_eq_some_iff.mp hn
  cases n with
  | zero =>
    cases hthere
    exact Set.mem_insert _ _
  | succ n =>
    rw [Traversal.position] at hthere
    obtain ⟨here, -, hnext⟩ := Option.bind_eq_some_iff.mp hthere
    obtain ⟨next, hmem, heq⟩ := cursor_mem_of_nextSessionPage hnext
    exact Set.mem_insert_of_mem _ ⟨next, hmem, heq.symm⟩

/-- Where a scan goes on, when the reader's answer depends on the cursor alone. -/
def nextSessionCursor (service : ReorientationService ρ)
    (answer : Option NonBlank → Except VsmError HistoryPage) (cursor : Option NonBlank) :
    Option (Option NonBlank) :=
  match answer cursor >>= fun page =>
    checkSessionPage service.maxResultBytes page >>= fun _ => pure page.nextCursor with
  | .ok nextCursor => nextCursor.map some
  | .error _ => none

omit [Sha256] in
/-- **A reader that answers from the cursor alone**: no cursor comes again and again exactly if none
comes twice. -/
theorem noCursorRecurs_iff_of_stateless (hfinite : service.cursors.Finite) (memory : ρ)
    {answer : Option NonBlank → Except VsmError HistoryPage}
    (hanswer : ∀ cursor memory, ∃ memory',
      EStateM.attempt (service.read .listSessions none cursor) memory =
        .ok (answer cursor) memory') :
    service.NoCursorRecurs memory ↔
      ∀ m n cursor,
        (Traversal.position service.nextSessionPage (none, memory) m).map Prod.fst = some cursor →
          (Traversal.position service.nextSessionPage (none, memory) n).map Prod.fst =
            some cursor → m = n := by
  have hlabel (here : Option NonBlank × ρ) : (service.nextSessionPage here).map Prod.fst =
      service.nextSessionCursor answer here.1 := by
    obtain ⟨memory', hread⟩ := hanswer here.1 here.2
    unfold EStateM.attempt at hread
    unfold nextSessionPage nextSessionCursor
    cases hpage : service.read .listSessions none here.1 here.2 with
    | error e mid =>
      rw [hpage] at hread
      obtain ⟨herror, -⟩ := EStateM.Result.ok.inj hread
      rw [readSessionPage, EStateM.run_bind_of_error hpage, ← herror]
      rfl
    | ok page mid =>
      rw [hpage] at hread
      obtain ⟨hok, -⟩ := EStateM.Result.ok.inj hread
      have hbind (f : HistoryPage → Except VsmError (Option NonBlank)) :
          (Except.ok page >>= f) = f page := rfl
      rw [readSessionPage, EStateM.run_bind_of_ok hpage, ← hok, hbind]
      cases checkSessionPage service.maxResultBytes page with
      | error e => rfl
      | ok refs =>
        change (page.nextCursor.map fun next => (some next, mid)).map Prod.fst =
          page.nextCursor.map some
        rw [Option.map_map]
        rfl
  have hmet := finite_cursors_met hfinite memory
  rw [NoCursorRecurs, ← Traversal.ends_iff_visits_finite Prod.fst hmet,
    Traversal.ends_iff_of_label hlabel]
  simp only [Traversal.position_map_label hlabel] at hmet ⊢
  exact Traversal.ends_iff_no_repetition hmet

/-! ### The chain of the recorded pages -/

end ReorientationService

/-- Pages with the cursors they were read at lead from the first page to one without a next cursor,
and none of them comes twice. -/
structure FormsChain (pages : List (Option NonBlank × HistoryPage)) : Prop where
  first : pages.head?.map Prod.fst = some none
  linked : pages.IsChain fun page next => next.1 = page.2.nextCursor
  last : ∀ page ∈ pages.getLast?, page.2.nextCursor = none
  distinct : (pages.map Prod.fst).Nodup

namespace ReorientationService

variable {service : ReorientationService ρ}

omit [Sha256] in
/-- The pages of a scan lead from its cursor to a page without a next cursor. -/
theorem linked_of_readSessionIndex (fuel : Nat) (cursor : Option NonBlank) (memory : ρ)
    {index : List (Option NonBlank × HistoryPage) × List String} {memory' : ρ}
    (h : service.readSessionIndex fuel cursor memory = .ok (some index) memory') :
    index.1.head?.map Prod.fst = some cursor ∧
      (index.1.IsChain fun page next => next.1 = page.2.nextCursor) ∧
      ∀ page ∈ index.1.getLast?, page.2.nextCursor = none := by
  induction fuel generalizing cursor memory index with
  | zero => cases h
  | succ fuel ih =>
    obtain ⟨⟨page, refs⟩, mid, -, h⟩ := EStateM.run_bind_eq_ok_iff.mp h
    dsimp only at h
    cases hnext : page.nextCursor with
    | none =>
      rw [hnext] at h
      cases h
      refine ⟨rfl, .singleton _, fun last hlast => ?_⟩
      cases hlast
      exact hnext
    | some next =>
      rw [hnext] at h
      obtain ⟨rest, last, hrest, h⟩ := EStateM.run_bind_eq_ok_iff.mp h
      cases rest with
      | none => cases h
      | some rest =>
        cases h
        obtain ⟨hfirst, hlinked, hlast⟩ := ih (some next) mid hrest
        obtain ⟨second, pages, hpages⟩ : ∃ second pages, rest.1 = second :: pages := by
          cases hpages : rest.1 with
          | nil =>
            rw [hpages] at hfirst
            cases hfirst
          | cons second pages => exact ⟨second, pages, rfl⟩
        dsimp only
        rw [hpages] at hfirst hlinked hlast ⊢
        refine ⟨rfl, .cons_cons ?_ hlinked, ?_⟩
        · rw [hnext]
          exact Option.some.inj hfirst
        · rwa [List.getLast?_cons_cons]

/-- **A scan that succeeds** recorded the pages it read, one event for each in order, and they form
a chain. -/
theorem formsChain_of_scanSessionIndex (hothers : service.OthersRecord)
    {run run' : ReorientationRun ρ}
    (hs : run.system.KernelSynced) {fuel : Nat} {receipt : HistoryImportReceipt}
    {actorId key : String} {results : List HistoryToolResult}
    (h : service.scanSessionIndex fuel receipt actorId key run = .ok (some results) run') :
    ∃ pages earlier recorded, FormsChain pages ∧ results.map (·.page) = pages.map Prod.snd ∧
      run.system.ledger.events <+: earlier ∧
      run'.system.ledger.events = earlier ++ recorded ∧
      recorded.map (·.event.payload) =
        pages.map (EventPayload.activation ∘ sessionPagePayload) := by
  obtain ⟨answer, mid, hasked, h⟩ := EStateM.run_bind_eq_ok_iff.mp h
  obtain ⟨memory, hread, rfl⟩ := onMemory_eq_ok_iff.mp hasked
  cases answer with
  | none => cases h
  | some index =>
    obtain ⟨_, waited, hawait, h⟩ := EStateM.run_bind_eq_ok_iff.mp h
    cases hawait
    rw [EStateM.run_get_bind] at h
    obtain ⟨answered, last, hrecord, h⟩ := EStateM.run_bind_eq_ok_iff.mp h
    cases h
    obtain ⟨s, hindex, rfl⟩ := onDataSpace_eq_ok_iff.mp hrecord
    rw [recordVerifiedIndex, EStateM.run_get_bind] at hindex
    obtain ⟨_, _, hrequire, hindex⟩ := EStateM.run_bind_eq_ok_iff.mp hindex
    obtain ⟨-, rfl⟩ := EStateM.run_ofExcept_eq_ok_iff.mp hrequire
    have hreaches := hothers memory run.system hs
    obtain ⟨hpages, -, recorded, hevents, hpayloads, hkeys⟩ :=
      recorded_sessionIndex actorId key index.1 _ (hreaches.kernelSynced hs) hindex
    obtain ⟨hfirst, hlinked, hlast⟩ := linked_of_readSessionIndex fuel none run.memory hread
    refine ⟨index.1, _, recorded, ⟨hfirst, hlinked, hlast, ?_⟩, hpages, hreaches.events_prefix,
      hevents, hpayloads⟩
    -- Pages with one cursor would have been recorded under one key.
    have hnodup : (recorded.map (·.event.idempotencyKey)).Nodup := by
      have hall := s.ledger.history.keys_distinct
      rw [hevents, List.map_append] at hall
      exact (List.nodup_append.mp hall).2.1
    rw [hkeys] at hnodup
    refine List.Nodup.of_map (fun cursor =>
      key ++ ":" ++ ActivationService.sessionIndexRecording.pageOrFirst cursor) ?_
    rwa [List.map_map]

/-! ### The listing of the open commitments -/

/-- **`resolve`**: the other writers have their chance, then the query of the reader's page is
recorded. -/
theorem resolve_eq_ok {run run' : ReorientationRun ρ} {action : ReadHistoryAction}
    {actorId key : String} {result : HistoryToolResult}
    (h : service.resolve action actorId key run = .ok result run') :
    (∃ reply clock, resolveHistory service.maxResultBytes action reply actorId key clock
      (service.others run.memory run.system).1 = .ok result run'.system) ∧
      run'.rounds = run.rounds ∧
      ∃ memory memory', service.read action.operation action.argument action.pageCursor memory =
        .ok result.page memory' := by
  obtain ⟨_, _, hawait, h⟩ := EStateM.run_bind_eq_ok_iff.mp h
  cases hawait
  obtain ⟨reply, _, hask, h⟩ := EStateM.run_bind_eq_ok_iff.mp h
  obtain ⟨memory, hreply, rfl⟩ := onMemory_eq_ok_iff.mp hask
  rw [EStateM.run_get_bind] at h
  obtain ⟨s, hresolve, rfl⟩ := onDataSpace_eq_ok_iff.mp h
  obtain ⟨-, -, hpage, -⟩ := resolveHistory_eq_ok hresolve
  refine ⟨⟨_, _, hresolve⟩, rfl, (service.others run.memory run.system).2, memory, ?_⟩
  unfold EStateM.attempt at hreply
  cases hread : service.read action.operation action.argument action.pageCursor
    (service.others run.memory run.system).2 with
  | error e mid =>
    rw [hread] at hreply
    obtain ⟨herror, -⟩ := EStateM.Result.ok.inj hreply
    cases herror.trans hpage
  | ok page mid =>
    rw [hread] at hreply
    obtain ⟨hok, rfl⟩ := EStateM.Result.ok.inj hreply
    cases hok.trans hpage
    rfl

/-- The key of the page at a cursor. -/
private def commitmentKey (key : String) (cursor : Option NonBlank) : String :=
  key ++ ":" ++ ActivationService.sessionIndexRecording.pageOrFirst cursor

open Classical in
/-- The keys of pages that have not been recorded. -/
private noncomputable def unusedKeys (keys : Finset String) (s : MemorySystem) : Finset String :=
  keys.filter (· ∉ recordedKeys s)

omit [Sha256] in
private theorem mem_unusedKeys {keys : Finset String} {key : String} :
    key ∈ unusedKeys keys s ↔ key ∈ keys ∧ key ∉ recordedKeys s := by
  classical
  rw [unusedKeys]
  exact Finset.mem_filter

omit [Sha256] in
/-- Recording one of the keys leaves fewer unused. -/
private theorem card_unusedKeys_lt {keys : Finset String} {key : String} (hmem : key ∈ keys)
    (hfresh : key ∉ recordedKeys s) (hused : key ∈ recordedKeys s')
    (hmono : recordedKeys s ⊆ recordedKeys s') :
    (unusedKeys keys s').card < (unusedKeys keys s).card := by
  refine Finset.card_lt_card (Finset.ssubset_iff_of_subset ?_ |>.mpr ⟨key, ?_, ?_⟩)
  · intro other hother
    obtain ⟨hkeys, hunused⟩ := mem_unusedKeys.mp hother
    exact mem_unusedKeys.mpr ⟨hkeys, fun h => hunused (hmono h)⟩
  · exact mem_unusedKeys.mpr ⟨hmem, hfresh⟩
  · exact fun h => (mem_unusedKeys.mp h).2 hused

/-- With more pages allowed than there are unused keys, the loop does not use up its bound. -/
private theorem not_exhausted_readOpenCommitments (hothers : service.OthersRecord)
    (conversationId actorId key : String) {keys : Finset String}
    (hfirst : commitmentKey key none ∈ keys)
    (hkeys : ∀ cursor ∈ service.cursors, commitmentKey key (some cursor) ∈ keys) (fuel : Nat)
    (cursor : Option NonBlank) (hcursor : ∀ c ∈ cursor, c ∈ service.cursors)
    (run : ReorientationRun ρ) (hs : run.system.KernelSynced)
    (hbound : (unusedKeys keys run.system).card < fuel) (run' : ReorientationRun ρ) :
    service.readOpenCommitments conversationId actorId key fuel cursor run ≠ .ok none run' := by
  induction fuel generalizing cursor run run' with
  | zero => omega
  | succ fuel ih =>
    intro h
    obtain ⟨result, mid, hpage, h⟩ := EStateM.run_bind_eq_ok_iff.mp h
    rw [resolveCommitmentPage, EStateM.run_get_bind] at hpage
    obtain ⟨⟨reply, clock, hresolve⟩, -, memory, memory', hread⟩ := resolve_eq_ok hpage
    have hreaches := hothers run.memory run.system hs
    obtain ⟨event, hrecorded⟩ :=
      recordedNext_of_resolveHistory (hreaches.kernelSynced hs) hresolve
    obtain ⟨_, _, hchecks, h⟩ := EStateM.run_bind_eq_ok_iff.mp h
    obtain ⟨-, rfl⟩ := EStateM.run_ofExcept_eq_ok_iff.mp hchecks
    cases hnext : result.page.nextCursor with
    | none =>
      rw [hnext] at h
      cases h
    | some next =>
      rw [hnext] at h
      obtain ⟨rest, last, hrest, h⟩ := EStateM.run_bind_eq_ok_iff.mp h
      cases rest with
      | some rest => cases h
      | none =>
        have hmem : commitmentKey key cursor ∈ keys := by
          cases cursor with
          | none => exact hfirst
          | some cursor => exact hkeys cursor (hcursor cursor rfl)
        have hfewer : (unusedKeys keys mid.system).card < (unusedKeys keys run.system).card :=
          card_unusedKeys_lt hmem (fun hused => hrecorded.fresh (recordedKeys_mono hreaches hused))
            hrecorded.mem_recordedKeys
            ((recordedKeys_mono hreaches).trans (recordedKeys_mono hrecorded.reaches))
        refine ih (some next) ?_ mid (hrecorded.reaches.kernelSynced (hreaches.kernelSynced hs))
          (by omega) last hrest
        intro c hc
        cases hc
        exact ⟨_, _, _, _, _, _, hread, hnext⟩

/-- **The listing of the open commitments ends**, whatever pages and cursors the reader returns: the
key of a page that comes back has been used. -/
theorem terminates_materializeOpenCommitments (hothers : service.OthersRecord)
    (hfinite : service.cursors.Finite)
    {run : ReorientationRun ρ} (hs : run.system.KernelSynced) (actorId key : String) :
    Terminates (fun fuel => service.materializeOpenCommitments fuel actorId key) run := by
  let keys := insert (commitmentKey key none)
    (hfinite.toFinset.image fun cursor => commitmentKey key (some cursor))
  refine ⟨(unusedKeys keys run.system).card + 1, fun fuel hbound run' h => ?_⟩
  dsimp only at h
  rw [materializeOpenCommitments, EStateM.run_get_bind] at h
  obtain ⟨conversationId, _, hfound, h⟩ := EStateM.run_bind_eq_ok_iff.mp h
  obtain ⟨-, rfl⟩ := EStateM.run_ofExcept_eq_ok_iff.mp hfound
  obtain ⟨answer, mid, hread, h⟩ := EStateM.run_bind_eq_ok_iff.mp h
  cases answer with
  | none =>
    have hfirst : commitmentKey key none ∈ keys := Finset.mem_insert_self _ _
    have hkeys (cursor : NonBlank) (hcursor : cursor ∈ service.cursors) :
        commitmentKey key (some cursor) ∈ keys :=
      Finset.mem_insert_of_mem (Finset.mem_image_of_mem _ (hfinite.mem_toFinset.mpr hcursor))
    exact not_exhausted_readOpenCommitments hothers conversationId actorId key hfirst hkeys fuel
      none
      (fun _ h => by cases h) run hs (by omega) mid hread
  | some answer =>
    obtain ⟨_, _, -, h⟩ := EStateM.run_bind_eq_ok_iff.mp h
    obtain ⟨_, _, -, h⟩ := EStateM.run_bind_eq_ok_iff.mp h
    obtain ⟨_, _, -, h⟩ := EStateM.run_bind_eq_ok_iff.mp h
    cases h

end ReorientationService

/-! ### The law -/

/-- Both loops over pages end, with a result or an error, and a scan that succeeds recorded the
chain from the first page to the one without a next cursor, each page once. -/
structure PaginationLaw (service : ReorientationService ρ) (run : ReorientationRun ρ)
    (receipt : HistoryImportReceipt) (actorId key : String) : Prop where
  scan_ends : Terminates (fun fuel => service.scanSessionIndex fuel receipt actorId key) run
  commitments_end :
    Terminates (fun fuel => service.materializeOpenCommitments fuel actorId key) run
  chain : ∀ fuel results run',
    service.scanSessionIndex fuel receipt actorId key run = .ok (some results) run' →
      ∃ pages earlier recorded, FormsChain pages ∧ results.map (·.page) = pages.map Prod.snd ∧
        run.system.ledger.events <+: earlier ∧
        run'.system.ledger.events = earlier ++ recorded ∧
        recorded.map (·.event.payload) =
          pages.map (EventPayload.activation ∘ sessionPagePayload)

/-- **The law holds** in every reachable data space exactly if, on the way of the scan, no cursor
comes again and again. -/
theorem paginationLaw_iff (service : ReorientationService ρ) (hothers : service.OthersRecord)
    (hfinite : service.cursors.Finite)
    (dataSpace : DataSpace) (inputs : List (ProcessCommand × Clock)) (memory : ρ)
    (receipt : HistoryImportReceipt) (actorId key : String) :
    PaginationLaw service ⟨runProcesses (.new dataSpace) inputs, memory, []⟩ receipt actorId key ↔
      service.NoCursorRecurs memory := by
  have hs : (runProcesses (.new dataSpace) inputs).KernelSynced :=
    (syncedIn_runProcesses dataSpace inputs).1.toKernelSynced
  have hends : Terminates
      (fun fuel => service.scanSessionIndex fuel receipt actorId key)
        ⟨runProcesses (.new dataSpace) inputs, memory, []⟩ ↔
      Traversal.Ends service.nextSessionPage (none, memory) :=
    ReorientationService.terminates_scanSessionIndex_iff receipt actorId key _
  have hscan := hends.trans (Traversal.ends_iff_visits_finite Prod.fst
      (ReorientationService.finite_cursors_met hfinite memory))
  constructor
  · exact fun h => hscan.mp h.scan_ends
  · exact fun h => ⟨hscan.mpr h,
      ReorientationService.terminates_materializeOpenCommitments hothers hfinite hs actorId key,
      fun _ _ _ => ReorientationService.formsChain_of_scanSessionIndex hothers hs⟩

/-! ### A reader of two pages -/

/-- A service whose reader returns empty pages; whether a second page follows a page depends on the
cursor. -/
def companyReorientation (follows : Option NonBlank → Bool) : ReorientationService Unit where
  read _ _ cursor := pure ⟨"[]", some [], if follows cursor then some "page-2" else none, "source"⟩
  respondReorientation _ := throw (.raised "no Pilot")
  maxResultBytes := 1000
  clock _ _ := 0
  newId _ _ := "action:1"
  others _ s := (s, ())
  max_result_bytes_pos := by decide

omit [Sha256] in
theorem finite_cursors_companyReorientation (follows : Option NonBlank → Bool) :
    (companyReorientation follows).cursors.Finite := by
  refine (Set.finite_singleton "page-2").subset ?_
  rintro cursor ⟨_, _, pageCursor, _, page, _, hread, hnext⟩
  cases hread
  by_cases hfollows : follows pageCursor = true
  · rw [if_pos hfollows] at hnext
    exact (Option.some.inj hnext).symm
  · rw [if_neg hfollows] at hnext
    cases hnext

omit [Sha256] in
/-- The second page follows the first one alone. -/
theorem paginationLaw_iff_two_pages :
    letI := Sha256.polynomial
    PaginationLaw (companyReorientation Option.isNone)
        ⟨runProcesses (.new companySpace) [], (), []⟩ companyReceipt "owner:1" "index:1" ↔
      (companyReorientation Option.isNone).NoCursorRecurs () := by
  let := Sha256.polynomial
  exact paginationLaw_iff (companyReorientation Option.isNone) (fun _ s _ => .refl s)
    (finite_cursors_companyReorientation _) companySpace [] () companyReceipt "owner:1" "index:1"

omit [Sha256] in
/-- A second page that follows itself is read for ever, although there is one cursor only. -/
theorem not_paginationLaw_looping :
    letI := Sha256.polynomial
    (companyReorientation fun _ => true).cursors.Finite ∧
      ¬ PaginationLaw (companyReorientation fun _ => true)
        ⟨runProcesses (.new companySpace) [], (), []⟩ companyReceipt "owner:1" "index:1" := by
  let := Sha256.polynomial
  refine ⟨finite_cursors_companyReorientation _, fun h => ?_⟩
  obtain ⟨n, hended⟩ :=
    (ReorientationService.terminates_scanSessionIndex_iff _ _ _ _).mp h.scan_ends
  have hgoes (n : Nat) : ∃ here, Traversal.position
      (companyReorientation fun _ => true).nextSessionPage (none, ()) n = some here := by
    induction n with
    | zero => exact ⟨_, rfl⟩
    | succ n ih =>
      obtain ⟨here, hhere⟩ := ih
      rw [Traversal.position, hhere]
      exact ⟨(some "page-2", ()), rfl⟩
  obtain ⟨here, hhere⟩ := hgoes n
  cases hended.symm.trans hhere

end Nanihold
