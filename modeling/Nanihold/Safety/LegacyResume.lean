import Nanihold.Safety.LegacyImport

/-!
# Resuming an interrupted import

An import that is run again sends all its events once more. The ledger takes an event for the one
it has stored only if every field agrees, among them the version of its stream; the importer
expects a stream where it stands now, which is behind the events that it wrote before.

## Main definitions

* `Interrupted` — a ledger that an import has left after some appends.
* `Resumes` — the import that is run again leaves the ledger of an uninterrupted one.

## Main results

* `Along.resend` — which events of the first run the second run gets past.
* `resumes_iff` — the exact condition.
* `completed_import_breaks_resumes` — a completed import that is run again.
-/

namespace Nanihold

variable [Sha256]

/-! ### Two runs side by side -/

/-- Two imports remember the same versions, and their ledgers hold the same events. -/
structure SideBySide (versions versions' : OrderedDict String Nat)
    (ledger ledger' : InMemoryOperationalLedger) : Prop where
  versions : ∀ streamId, versions'.get? streamId = versions.get? streamId
  events : ledger'.events = ledger.events
  data_space : ledger'.dataSpaceId = ledger.dataSpaceId

section SideBySide

variable {versions versions' next : OrderedDict String Nat}
  {ledger ledger' after : InMemoryOperationalLedger} {dataSpaceId : String} {a : LegacyAppend}

omit [Sha256] in
theorem SideBySide.streamLength (h : SideBySide versions versions' ledger ledger')
    (streamId : String) : ledger'.streamLength streamId = ledger.streamLength streamId := by
  rw [InMemoryOperationalLedger.streamLength_eq, InMemoryOperationalLedger.streamLength_eq,
    h.events]

omit [Sha256] in
theorem SideBySide.expectedVersion (h : SideBySide versions versions' ledger ledger')
    (streamId : String) :
    expectedVersion versions' ledger' streamId = expectedVersion versions ledger streamId := by
  rw [Nanihold.expectedVersion, Nanihold.expectedVersion, h.versions, h.streamLength]

theorem SideBySide.withBlob (h : SideBySide versions versions' ledger ledger')
    (step : LegacyStep) :
    SideBySide versions versions' (step.withBlob ledger) (step.withBlob ledger') :=
  ⟨h.versions, by rw [step.withBlob_events, step.withBlob_events, h.events],
    by rw [step.withBlob_dataSpaceId, step.withBlob_dataSpaceId, h.data_space]⟩

/-- An append that goes through in one run goes through in the other. -/
theorem SideBySide.run_append (h : SideBySide versions versions' ledger ledger')
    (hspace : isIdentifier dataSpaceId = true) (ha : a.IsValid)
    (hrun : a.run dataSpaceId versions ledger = .ok next after) :
    ∃ next' after', a.run dataSpaceId versions' ledger' = .ok next' after' ∧
      SideBySide next next' after after' := by
  let expected := Nanihold.expectedVersion versions ledger a.streamId
  by_cases happend : ∃ answer,
      ledger.append (a.event dataSpaceId expected) expected = .ok answer
  · obtain ⟨⟨result, taken⟩, happend⟩ := happend
    obtain ⟨taken', happend', hevents, hds⟩ :=
      InMemoryOperationalLedger.append_of_same_events h.events h.data_space happend
    cases hrun.symm.trans (LegacyAppend.run_of_ok hspace ha rfl happend)
    refine ⟨_, taken', LegacyAppend.run_of_ok hspace ha (h.expectedVersion _) happend', ?_,
      hevents, hds⟩
    intro streamId
    rw [OrderedDict.get?_set, OrderedDict.get?_set, h.versions]
  · obtain ⟨e, herror⟩ := LegacyAppend.run_of_not_ok hspace ha rfl happend
    cases hrun.symm.trans herror

end SideBySide

section Runs

variable {assignments : OrderedDict String SourceAssignment} {dataSpaceId : String}
  {start ledger ledger' after : InMemoryOperationalLedger} {keys used : List String}
  {versions versions' next : OrderedDict String Nat} {step : LegacyStep}
  {steps : List LegacyStep}

/-- A step that returns has planned an event, and the event was appended. -/
theorem LegacyStep.run_ok (hassigned : (assignments.get? step.sourceName).isSome = true)
    (h : step.run assignments dataSpaceId versions ledger = .ok next after) :
    ∃ assigned a, assignments.get? step.sourceName = some assigned ∧
      step.planned assigned dataSpaceId = .ok a ∧
      a.run dataSpaceId versions (step.withBlob ledger) = .ok next after := by
  obtain ⟨assigned, hassigned⟩ := Option.isSome_iff_exists.mp hassigned
  by_cases hplanned : ∃ a, step.planned assigned dataSpaceId = .ok a
  · obtain ⟨a, hplanned⟩ := hplanned
    rw [LegacyStep.run_of_planned hassigned hplanned] at h
    exact ⟨assigned, a, hassigned, hplanned, h⟩
  · obtain ⟨e, herror⟩ := LegacyStep.run_of_not_planned versions ledger hassigned hplanned
    cases h.symm.trans herror

variable (hspace : isIdentifier dataSpaceId = true)
  (hvalid : ∀ source assigned, assignments.get? source = some assigned → assigned.Valid)

include hspace hvalid

/-- **Steps that return in one run return in the other.** -/
theorem SideBySide.runSteps (h : SideBySide versions versions' ledger ledger')
    (hassigned : ∀ step ∈ steps, (assignments.get? step.sourceName).isSome = true)
    (hrun : runSteps assignments dataSpaceId steps versions ledger = .ok next after) :
    ∃ next' after', Nanihold.runSteps assignments dataSpaceId steps versions' ledger' =
      .ok next' after' ∧ SideBySide next next' after after' := by
  induction steps generalizing versions versions' ledger ledger' with
  | nil =>
    cases hrun
    exact ⟨versions', ledger', rfl, h⟩
  | cons step steps ih =>
    rw [List.forall_mem_cons] at hassigned
    rw [Nanihold.runSteps, List.foldlM_cons] at hrun
    cases hstep : step.run assignments dataSpaceId versions ledger with
    | error e failed => cases hrun.symm.trans (EStateM.run_bind_of_error hstep)
    | ok middle taken =>
      rw [EStateM.run_bind_of_ok hstep] at hrun
      obtain ⟨assigned, a, hget, hplanned, ha⟩ := LegacyStep.run_ok hassigned.1 hstep
      obtain ⟨middle', taken', ha', hside⟩ := (h.withBlob step).run_append hspace
        (LegacyStep.planned_spec (hvalid _ _ hget) hplanned).1 ha
      obtain ⟨next', after', hruns, hside'⟩ := ih hside hassigned.2 hrun
      refine ⟨next', after', ?_, hside'⟩
      rw [Nanihold.runSteps, List.foldlM_cons]
      refine (EStateM.run_bind_of_ok ?_).trans hruns
      rw [LegacyStep.run_of_planned hget hplanned]
      exact ha'

section

variable (hkeys : ∀ step ∈ steps, step.stableKey ∈ keys)

include hkeys

/-- A run that returns has taken all its steps. -/
theorem Along.allTaken_of_runSteps (h : Along keys start used versions ledger)
    (hassigned : ∀ step ∈ steps, (assignments.get? step.sourceName).isSome = true)
    (hrun : runSteps assignments dataSpaceId steps versions ledger = .ok next after) :
    AllTaken assignments dataSpaceId start used steps := by
  by_contra hnot
  obtain ⟨e, _, herror, -⟩ := h.run_of_not_allTaken hspace hvalid hkeys hassigned hnot
  cases hrun.symm.trans herror

/-- A run that returns keeps the events it found. -/
theorem Along.prefix_of_runSteps (h : Along keys start used versions ledger)
    (hassigned : ∀ step ∈ steps, (assignments.get? step.sourceName).isSome = true)
    (hrun : runSteps assignments dataSpaceId steps versions ledger = .ok next after) :
    ledger.events <+: after.events := by
  obtain ⟨_, _, appended, hok, -, hevents, -⟩ := h.run_of_allTaken hspace hvalid hkeys
    (h.allTaken_of_runSteps hspace hvalid hkeys hassigned hrun)
  cases hrun.symm.trans hok
  rw [hevents]
  exact List.prefix_append _ _

end

/-- **What a step that returns has done.** -/
theorem Along.step_of_ok (h : Along keys start used versions ledger)
    (hassigned : (assignments.get? step.sourceName).isSome = true) (hkeys : step.stableKey ∈ keys)
    (hrun : step.run assignments dataSpaceId versions ledger = .ok next after) :
    ∃ assigned a, assignments.get? step.sourceName = some assigned ∧
      step.planned assigned dataSpaceId = .ok a ∧
      start.streamLength a.streamId ≤ 100000 ∧
      next = versions.set a.streamId (ledger.streamLength a.streamId + 1) ∧
      Along keys start (used ++ [step.stableKey]) next after ∧
      ∃ stored ∈ after.events, stored.event =
        a.event dataSpaceId (ledger.streamLength a.streamId) := by
  obtain ⟨assigned, a, hget, hplanned, ha⟩ := LegacyStep.run_ok hassigned hrun
  have hids := (LegacyStep.planned_spec (hvalid _ _ hget) hplanned).1
  obtain ⟨hok, herror⟩ := (h.withBlob step).run_append (a := a) hspace hids
    (LegacyStep.stableKey_of_planned hplanned ▸ hkeys)
  by_cases hall : dataSpaceId = start.dataSpaceId ∧ start.streamLength a.streamId ≤ 100000 ∧
      ∀ known ∈ used, ¬ Clash known a.stableKey
  · obtain ⟨happ, hrun'⟩ := hok hall
    cases ha.symm.trans hrun'
    have halong := (h.withBlob step).push hall.2.1 happ
    rw [LegacyStep.stableKey_of_planned hplanned] at halong
    refine ⟨assigned, a, hget, hplanned, hall.2.1, ?_, halong, _,
      List.mem_append_right _ (List.mem_singleton_self _), ?_⟩
    · rw [step.withBlob_streamLength]
    · change a.event _ ((step.withBlob ledger).streamLength a.streamId) = _
      rw [step.withBlob_streamLength]
  · obtain ⟨e, herror⟩ := herror hall
    cases ha.symm.trans herror

end Runs

/-! ### Sending events again -/

section Resend

variable {assignments : OrderedDict String SourceAssignment} {dataSpaceId : String}
  {start ledger ledger' after : InMemoryOperationalLedger} {keys used : List String}
  {versions versions' next : OrderedDict String Nat} {step : LegacyStep}
  {steps : List LegacyStep} {a : LegacyAppend} {version : Nat}

/-- **An event that is sent again** is recognised exactly if its stream is expected where it was
expected before. -/
theorem LegacyAppend.run_again (versions : OrderedDict String Nat)
    (hspace : isIdentifier dataSpaceId = true) (ha : a.IsValid)
    (hstored : ∃ stored ∈ ledger.events, stored.event = a.event dataSpaceId version) :
    (expectedVersion versions ledger a.streamId = version →
      a.run dataSpaceId versions ledger = .ok (versions.set a.streamId (version + 1)) ledger) ∧
    (expectedVersion versions ledger a.streamId ≠ version →
      ∃ e, a.run dataSpaceId versions ledger = .error e ledger) := by
  obtain ⟨stored, hmem, hevent⟩ := hstored
  constructor
  · intro hexpected
    have happend : ledger.append (a.event dataSpaceId version) version =
        .ok (InMemoryOperationalLedger.duplicateResult stored, ledger) := by
      rw [← hevent]
      exact InMemoryOperationalLedger.append_of_stored hmem version
    exact LegacyAppend.run_of_ok hspace ha hexpected happend
  · intro hne
    refine LegacyAppend.run_of_not_ok hspace ha rfl ?_
    rw [InMemoryOperationalLedger.append_returns_iff]
    have hkey : stored.event.idempotencyKey = a.key := by
      rw [hevent]
      rfl
    have hfound := (ledger.idempotency_iff a.key stored).mpr ⟨hmem, hkey⟩
    rintro (⟨happ, -⟩ | ⟨other, hother, heq⟩)
    · cases happ.fresh_key.symm.trans hfound
    · have hother := (ledger.idempotency_iff a.key other).mpr ⟨hother, by rw [heq]; rfl⟩
      obtain rfl := Option.some.inj (hfound.symm.trans hother)
      have hversion := congrArg EventEnvelope.streamVersion (hevent.symm.trans heq)
      change version + 1 = expectedVersion versions ledger a.streamId + 1 at hversion
      omega

/-- The streams that steps write, and that are not remembered, were as long as a page. -/
def PageFull (assignments : OrderedDict String SourceAssignment)
    (start : InMemoryOperationalLedger) (versions : OrderedDict String Nat)
    (steps : List LegacyStep) : Prop :=
  ∀ step ∈ steps, ∀ assigned, assignments.get? step.sourceName = some assigned →
    versions.get? (step.streamId assigned) = none →
      start.streamLength (step.streamId assigned) = 100000

omit [Sha256] in
theorem pageFull_cons {assigned : SourceAssignment}
    (hget : assignments.get? step.sourceName = some assigned) (version : Nat) :
    PageFull assignments start versions (step :: steps) ↔
      (versions.get? (step.streamId assigned) = none →
        start.streamLength (step.streamId assigned) = 100000) ∧
        PageFull assignments start (versions.set (step.streamId assigned) version) steps := by
  constructor
  · intro h
    refine ⟨h step List.mem_cons_self assigned hget, fun other hother known hknown hnone => ?_⟩
    rw [OrderedDict.get?_set] at hnone
    split_ifs at hnone
    exact h other (List.mem_cons_of_mem _ hother) known hknown hnone
  · rintro ⟨hfirst, hrest⟩ other hother known hknown hnone
    rcases List.mem_cons.mp hother with rfl | hother
    · obtain rfl := Option.some.inj (hget.symm.trans hknown)
      exact hfirst hnone
    · by_cases hsame : step.streamId assigned = other.streamId known
      · rw [← hsame] at hnone ⊢
        exact hfirst hnone
      · refine hrest other hother known hknown ?_
        rw [OrderedDict.get?_set_of_ne _ _ hsame]
        exact hnone

variable (hspace : isIdentifier dataSpaceId = true)
  (hvalid : ∀ source assigned, assignments.get? source = some assigned → assigned.Valid)
  (hkeys : ∀ step ∈ steps, step.stableKey ∈ keys)

include hspace hvalid hkeys

/-- **The second run gets past the events of the first** exactly if it expects each stream where
the first run found it: those that the first run wrote were as long as a page. -/
theorem Along.resend (h : Along keys start used versions ledger)
    (hassigned : ∀ step ∈ steps, (assignments.get? step.sourceName).isSome = true)
    (hrun : runSteps assignments dataSpaceId steps versions ledger = .ok next after)
    (hversions : ∀ streamId, versions'.get? streamId = versions.get? streamId)
    (hevents : ledger'.events = after.events) (hds : ledger'.dataSpaceId = after.dataSpaceId) :
    (PageFull assignments start versions steps → ∃ next' after',
      runSteps assignments dataSpaceId steps versions' ledger' = .ok next' after' ∧
        SideBySide next next' after after') ∧
    (¬ PageFull assignments start versions steps → ∃ e after',
      runSteps assignments dataSpaceId steps versions' ledger' = .error e after') := by
  induction steps generalizing used versions versions' ledger ledger' with
  | nil =>
    cases hrun
    refine ⟨fun _ => ⟨versions', ledger', rfl, hversions, hevents, hds⟩, fun hnot => ?_⟩
    exact absurd (fun _ hmem => by cases hmem) hnot
  | cons step steps ih =>
    rw [List.forall_mem_cons] at hassigned hkeys
    rw [runSteps, List.foldlM_cons] at hrun
    cases hstep : step.run assignments dataSpaceId versions ledger with
    | error e failed => cases hrun.symm.trans (EStateM.run_bind_of_error hstep)
    | ok middle taken =>
      rw [EStateM.run_bind_of_ok hstep] at hrun
      obtain ⟨assigned, a, hget, hplanned, hpage, rfl, halong, stored, hmem, hstored⟩ :=
        h.step_of_ok hspace hvalid hassigned.1 hkeys.1 hstep
      obtain ⟨hids, hstream⟩ := LegacyStep.planned_spec (hvalid _ _ hget) hplanned
      have hkept := (halong.prefix_of_runSteps hspace hvalid hkeys.2 hassigned.2 hrun).subset hmem
      have hfound : stored ∈ (step.withBlob ledger').events := by
        rwa [step.withBlob_events, hevents]
      -- The second run expects the stream where it stands, in its first page at most.
      have hexpected : expectedVersion versions' (step.withBlob ledger') a.streamId =
            ledger.streamLength a.streamId ↔
          (versions.get? a.streamId = none → start.streamLength a.streamId = 100000) := by
        have hle := (step.withBlob ledger').streamVersion_le hfound
        rw [hstored] at hle
        change ledger.streamLength a.streamId + 1 ≤ (step.withBlob ledger').streamLength a.streamId
          at hle
        rw [expectedVersion, hversions]
        cases hknown : versions.get? a.streamId with
        | some version =>
          refine iff_of_true (h.remembers _ _ hknown).symm fun hnone => ?_
          cases hnone
        | none =>
          have huntouched := h.untouched _ hknown
          change min 100000 _ = _ ↔ _
          constructor
          · intro hmin _
            omega
          · intro hfull
            have := hfull rfl
            omega
      rw [hstream] at hexpected
      obtain ⟨hok, herror⟩ := LegacyAppend.run_again versions' hspace hids
        ⟨stored, hfound, hstored⟩
      rw [← LegacyStep.run_of_planned hget hplanned] at hok herror
      let versions₂ := versions'.set a.streamId (ledger.streamLength a.streamId + 1)
      have hversions₂ (streamId : String) : versions₂.get? streamId =
          (versions.set a.streamId (ledger.streamLength a.streamId + 1)).get? streamId := by
        rw [OrderedDict.get?_set, OrderedDict.get?_set, hversions]
      have hevents₂ : (step.withBlob ledger').events = after.events := by
        rw [step.withBlob_events, hevents]
      have hds₂ : (step.withBlob ledger').dataSpaceId = after.dataSpaceId := by
        rw [step.withBlob_dataSpaceId, hds]
      obtain ⟨ihok, iherror⟩ := ih hkeys.2 halong hassigned.2 hrun hversions₂ hevents₂ hds₂
      rw [pageFull_cons hget (ledger.streamLength a.streamId + 1), ← hexpected, ← hstream,
        runSteps, List.foldlM_cons]
      constructor
      · rintro ⟨hsame, hrest⟩
        obtain ⟨next', after', hruns, hside⟩ := ihok hrest
        exact ⟨next', after', (EStateM.run_bind_of_ok (hok hsame)).trans hruns, hside⟩
      · intro hnot
        by_cases hsame : expectedVersion versions' (step.withBlob ledger') a.streamId =
            ledger.streamLength a.streamId
        · obtain ⟨e, after', hruns⟩ := iherror fun hrest => hnot ⟨hsame, hrest⟩
          exact ⟨e, after', (EStateM.run_bind_of_ok (hok hsame)).trans hruns⟩
        · obtain ⟨e, hfailed⟩ := herror hsame
          exact ⟨e, _, EStateM.run_bind_of_error hfailed⟩

end Resend

/-! ### Interrupted imports -/

/-- **An interrupted import** of a plan: its comparisons with the dry run are passed, and the ledger
holds the events of its first steps. -/
structure Interrupted (plan : DryRun) (records : List LegacyRecord) (dataSpaceId : String)
    (count : Nat) (ledger interrupted : InMemoryOperationalLedger) : Prop where
  target : plan.targetDataSpaceId = dataSpaceId
  data_space : interrupted.dataSpaceId = ledger.dataSpaceId
  ran : ∃ versions after, runSteps plan.sources dataSpaceId ((legacySteps records).take count)
    .empty ledger = .ok versions after ∧ interrupted.events = after.events

/-- **The import resumes**: run again, it returns and leaves the events that it would have left
without the interruption, one for each source and one for each record. -/
def Resumes (texts : LegacyText) (plan : DryRun) (root : List SourceFile)
    (records : List LegacyRecord) (dataSpaceId : String)
    (ledger interrupted : InMemoryOperationalLedger) : Prop :=
  ∃ again full appended,
    importFrom texts plan root dataSpaceId interrupted = .ok plan.importEventCount again ∧
    importFrom texts plan root dataSpaceId ledger = .ok plan.importEventCount full ∧
    again.events = full.events ∧ full.events = ledger.events ++ appended ∧
    appended.map (·.event.idempotencyKey) =
      (legacySteps records).map fun step => "legacy:" ++ hexdigest (.text step.stableKey)

section Resume

variable {texts : LegacyText} {root : List SourceFile} {assignment : OwnershipAssignment}
  {plan : DryRun} {scan : LegacyScan} {dataSpaceId : String} {count : Nat}
  {ledger interrupted : InMemoryOperationalLedger}

theorem runSteps_append (assignments : OrderedDict String SourceAssignment) (dataSpaceId : String)
    (first rest : List LegacyStep) (versions : OrderedDict String Nat) :
    runSteps assignments dataSpaceId (first ++ rest) versions =
      runSteps assignments dataSpaceId first versions >>= runSteps assignments dataSpaceId rest :=
  List.foldlM_append

variable (hplan : buildPlan texts root assignment = .ok plan)
  (hscan : scanLegacy texts root = .ok scan)
  (hnew : NoLegacy ((legacySteps scan.records).map LegacyStep.stableKey) ledger)
  (hinterrupted : Interrupted plan scan.records dataSpaceId count ledger interrupted)

include hplan hscan hnew hinterrupted

/-- **The steps of the interrupted import, run again.** -/
private theorem Interrupted.resend :
    ∃ versions after, runSteps plan.sources dataSpaceId ((legacySteps scan.records).take count)
        .empty ledger = .ok versions after ∧
      (PageFull plan.sources ledger .empty ((legacySteps scan.records).take count) →
        ∃ versions' after', runSteps plan.sources dataSpaceId
            ((legacySteps scan.records).take count) .empty interrupted = .ok versions' after' ∧
          SideBySide versions versions' after after') ∧
      (¬ PageFull plan.sources ledger .empty ((legacySteps scan.records).take count) →
        ∃ e after', runSteps plan.sources dataSpaceId
          ((legacySteps scan.records).take count) .empty interrupted = .error e after') := by
  obtain ⟨htarget, hds, versions, after, hrun, hevents⟩ := hinterrupted
  have hplanned := planned_of_buildPlan hplan hscan
  have hspace := htarget ▸ hplanned.target
  have htake : ∀ step ∈ (legacySteps scan.records).take count, step ∈ legacySteps scan.records :=
    fun _ => List.mem_of_mem_take
  have hassigned := fun step hstep => hplanned.assigned step (htake step hstep)
  have hkeys : ∀ step ∈ (legacySteps scan.records).take count,
      step.stableKey ∈ (legacySteps scan.records).map LegacyStep.stableKey :=
    fun step hstep => List.mem_map_of_mem (htake step hstep)
  obtain ⟨_, _, _, hok, halong, -, -⟩ := hnew.along.run_of_allTaken hspace hplanned.valid hkeys
    (hnew.along.allTaken_of_runSteps hspace hplanned.valid hkeys hassigned hrun)
  cases hrun.symm.trans hok
  exact ⟨versions, after, hrun, hnew.along.resend hspace hplanned.valid hkeys hassigned hrun
    (fun _ => rfl) hevents (hds.trans halong.data_space.symm)⟩

/-- Streams that were as long as a page let the import resume. -/
theorem resumes_of_pageFull
    (himportable : Importable plan.toMigrationPlan scan.records dataSpaceId ledger)
    (hfull : PageFull plan.sources ledger .empty ((legacySteps scan.records).take count)) :
    Resumes texts plan root scan.records dataSpaceId ledger interrupted := by
  have hplanned := planned_of_buildPlan hplan hscan
  have htarget := hinterrupted.target
  obtain ⟨versions, after, hrun, hresend, -⟩ := hinterrupted.resend hplan hscan hnew
  obtain ⟨versions', after', hrun', hside⟩ := hresend hfull
  obtain ⟨final, full, appended, hall, -, hevents, hkeys⟩ := hnew.along.run_of_allTaken
    (htarget ▸ hplanned.target) hplanned.valid (fun _ => List.mem_map_of_mem)
    ((allTaken_iff_importable hplanned.covered).mpr himportable)
  have hsplit := runSteps_append plan.sources dataSpaceId ((legacySteps scan.records).take count)
    ((legacySteps scan.records).drop count) .empty
  rw [List.take_append_drop] at hsplit
  have hrest := hall
  rw [hsplit, EStateM.run_bind_of_ok hrun] at hrest
  obtain ⟨final', again, hagain, hsides⟩ := hside.runSteps (htarget ▸ hplanned.target)
    hplanned.valid (fun step hstep => hplanned.assigned step (List.mem_of_mem_drop hstep)) hrest
  have hall' : runSteps plan.sources dataSpaceId (legacySteps scan.records) .empty interrupted =
      .ok final' again := by
    rw [hsplit, EStateM.run_bind_of_ok hrun']
    exact hagain
  exact ⟨again, full, appended, importFrom_of_runSteps hplan hscan htarget hall',
    importFrom_of_runSteps hplan hscan htarget hall, hsides.events, hevents, hkeys⟩

/-- An import that resumes has written only streams that were as long as a page. -/
theorem pageFull_of_resumes
    (h : Resumes texts plan root scan.records dataSpaceId ledger interrupted) :
    PageFull plan.sources ledger .empty ((legacySteps scan.records).take count) := by
  by_contra hnot
  obtain ⟨again, _, _, hok, -⟩ := h
  obtain ⟨_, _, -, -, hresend⟩ := hinterrupted.resend hplan hscan hnew
  obtain ⟨e, failed, herror⟩ := hresend hnot
  have hsplit := runSteps_append plan.sources dataSpaceId ((legacySteps scan.records).take count)
    ((legacySteps scan.records).drop count) .empty
  rw [List.take_append_drop] at hsplit
  have hfailed := importFrom_of_runSteps_error hplan hscan hinterrupted.target
    (hsplit ▸ EStateM.run_bind_of_error herror)
  cases hok.symm.trans hfailed

/-- Records that an uninterrupted import takes can be imported. -/
theorem importable_of_resumes
    (h : Resumes texts plan root scan.records dataSpaceId ledger interrupted) :
    Importable plan.toMigrationPlan scan.records dataSpaceId ledger := by
  have hplanned := planned_of_buildPlan hplan hscan
  by_contra hnot
  obtain ⟨_, full, _, -, hok, -⟩ := h
  obtain ⟨e, failed, herror, -⟩ := hnew.along.run_of_not_allTaken
    (hinterrupted.target ▸ hplanned.target) hplanned.valid (fun _ => List.mem_map_of_mem)
    hplanned.assigned
    (fun hall => hnot ((allTaken_iff_importable hplanned.covered).mp hall))
  cases hok.symm.trans
    (importFrom_of_runSteps_error hplan hscan hinterrupted.target herror)

/-- **The exact condition**: an import that was interrupted after some appends resumes exactly if
its records can be imported and every stream that it had written was as long as a page before. -/
theorem resumes_iff :
    Resumes texts plan root scan.records dataSpaceId ledger interrupted ↔
      Importable plan.toMigrationPlan scan.records dataSpaceId ledger ∧
        ∀ step ∈ (legacySteps scan.records).take count, ∀ assigned,
          plan.sources.get? step.sourceName = some assigned →
            ledger.streamLength (step.streamId assigned) = 100000 := by
  constructor
  · intro h
    refine ⟨importable_of_resumes hplan hscan hnew hinterrupted h,
      fun step hstep assigned hget => ?_⟩
    exact pageFull_of_resumes hplan hscan hnew hinterrupted h step hstep assigned hget rfl
  · rintro ⟨himportable, hfull⟩
    exact resumes_of_pageFull hplan hscan hnew hinterrupted himportable
      fun step hstep assigned hget _ => hfull step hstep assigned hget

end Resume

/-! ### A completed import -/

section Example

omit [Sha256]

/-- An import is interrupted before its first append. -/
theorem Interrupted.of_start {plan : DryRun} {dataSpaceId : String} [Sha256]
    (htarget : plan.targetDataSpaceId = dataSpaceId) (records : List LegacyRecord)
    (ledger : InMemoryOperationalLedger) :
    Interrupted plan records dataSpaceId 0 ledger ledger :=
  ⟨htarget, rfl, .empty, ledger, rfl, rfl⟩

/-- An import that was interrupted before it appended anything. -/
theorem resumes_at_start :
    letI := Sha256.polynomial
    ∃ plan scan, buildPlan (legacyTexts (longDescription 1)) (legacyRoot (longDescription 1))
        legacyAssignment = .ok plan ∧
      scanLegacy (legacyTexts (longDescription 1)) (legacyRoot (longDescription 1)) = .ok scan ∧
      (Resumes (legacyTexts (longDescription 1)) plan (legacyRoot (longDescription 1))
          scan.records "space:company-1" (.new "space:company-1") (.new "space:company-1") ↔
        Importable plan.toMigrationPlan scan.records "space:company-1"
            (.new "space:company-1") ∧
          ∀ step ∈ (legacySteps scan.records).take 0, ∀ assigned,
            plan.sources.get? step.sourceName = some assigned →
              (InMemoryOperationalLedger.new "space:company-1").streamLength
                (step.streamId assigned) = 100000) := by
  let := Sha256.polynomial
  obtain ⟨plan, scan, hplan, htarget, hscan, -⟩ :=
    buildPlan_legacyRoot mem_longDescription (longDescription_ne Nat.one_pos)
  exact ⟨plan, scan, hplan, hscan, resumes_iff hplan hscan (noLegacy_new _ _)
    (.of_start htarget scan.records _)⟩

/-- The task with the short description can be imported. -/
private theorem importable_short [Sha256] {plan : DryRun} {records : List LegacyRecord}
    (hrecords : records = [legacyTaskRecord (longDescription 1)])
    (hdistinct : ¬ Clash "alpha:conversation" "alpha/events.jsonl:1:commitment") :
    Importable plan.toMigrationPlan records "space:company-1" (.new "space:company-1") := by
  subst hrecords
  refine ⟨fun _ => rfl, fun record hmem => ?_, fun record hmem assigned _ => ?_,
    fun _ _ _ _ => ⟨Nat.zero_le _, fun _ => Nat.zero_le _⟩, ?_⟩
  · rw [List.mem_singleton.mp hmem]
    decide
  · rw [List.mem_singleton.mp hmem]
    change isNonBlank (longDescription 1) = true
    decide
  · change List.Pairwise _ ["alpha:conversation", "alpha/events.jsonl:1:commitment"]
    exact List.pairwise_pair.mpr hdistinct

/-- **A completed import that is run again** expects its conversation to hold two events already, so
the conversation is not recognised and the import raises. -/
theorem completed_import_breaks_resumes :
    letI := Sha256.polynomial
    ∃ plan scan completed, buildPlan (legacyTexts (longDescription 1))
        (legacyRoot (longDescription 1)) legacyAssignment = .ok plan ∧
      scanLegacy (legacyTexts (longDescription 1)) (legacyRoot (longDescription 1)) = .ok scan ∧
      NoLegacy ((legacySteps scan.records).map LegacyStep.stableKey) (.new "space:company-1") ∧
      Interrupted plan scan.records "space:company-1" 2 (.new "space:company-1") completed ∧
      ¬ Resumes (legacyTexts (longDescription 1)) plan (legacyRoot (longDescription 1))
        scan.records "space:company-1" (.new "space:company-1") completed := by
  let := Sha256.polynomial
  obtain ⟨plan, scan, hplan, htarget, hscan, hrecords⟩ :=
    buildPlan_legacyRoot mem_longDescription (longDescription_ne Nat.one_pos)
  have hplanned := planned_of_buildPlan hplan hscan
  have hnew := noLegacy_new ((legacySteps scan.records).map LegacyStep.stableKey) "space:company-1"
  have himportable : Importable plan.toMigrationPlan scan.records "space:company-1"
      (.new "space:company-1") := importable_short hrecords (by
    rw [Clash]
    decide +kernel)
  obtain ⟨versions, completed, _, hrun, halong, -⟩ := hnew.along.run_of_allTaken
    (htarget ▸ hplanned.target) hplanned.valid (fun _ => List.mem_map_of_mem)
    ((allTaken_iff_importable hplanned.covered).mpr himportable)
  have hsteps : (legacySteps scan.records).take 2 = legacySteps scan.records := by
    rw [hrecords]
    rfl
  have hinterrupted : Interrupted plan scan.records "space:company-1" 2
      (.new "space:company-1") completed :=
    ⟨htarget, halong.data_space, versions, completed, hsteps.symm ▸ hrun, rfl⟩
  refine ⟨plan, scan, completed, hplan, hscan, hnew, hinterrupted, fun hresumes => ?_⟩
  have hfull := pageFull_of_resumes hplan hscan hnew hinterrupted hresumes
  have hmem : LegacyStep.eventOf (legacyTaskRecord (longDescription 1)) ∈
      (legacySteps scan.records).take 2 := by
    rw [hsteps, hrecords]
    exact List.mem_append_right _ (List.mem_singleton_self _)
  obtain ⟨assigned, hget⟩ := Option.isSome_iff_exists.mp
    (hplanned.assigned _ (List.mem_of_mem_take hmem))
  cases hfull _ hmem assigned hget rfl

end Example

end Nanihold
