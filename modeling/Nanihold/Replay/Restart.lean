import Nanihold.Replay.Runs
import Nanihold.Runtime

/-!
# Runs with restarts

Runs in which the process is stopped and started again, between any two commands and any number
of times. A start rebuilds the very services that the last process had, so what commands keep is
kept across restarts.

## Main definitions

* `ProcessCommand` — a command, or a restart of the process.
* `runProcesses` — the system after a run.
* `System.KeptExcept` — what events, blobs and restarts keep, but for events named a defect.
* `ActivationService.applyStored` — the activation aggregate after one stored event.

## Main results

* `finalState_bootstrap` — a start gives the live services, and then interrupts a lost attempt.
* `ProcessCommand.invariant_step` — what every recorded event keeps, commands and restarts keep.
* `System.KeptExcept.run` — what runs with restarts keep that record no defect.
* `replay_eq_live_activation` — a fresh Activation service replays the live aggregate.
-/

namespace Nanihold

variable [Sha256]

/-- A command of a service, or a restart of the process. -/
inductive ProcessCommand where
  | service (c : ServiceCommand)
  | restart (pageSize : Nat)

def ProcessCommand.run (clock : Clock) :
    ProcessCommand → SystemM InMemoryOperationalLedger Unit
  | .service c => c.run clock
  | .restart pageSize => bootstrap pageSize clock

/-- The system after one command or restart, whether it returns or raises. -/
def ProcessCommand.step (s : MemorySystem) (input : ProcessCommand × Clock) : MemorySystem :=
  (input.1.run input.2).finalState s

/-- The system after a run with restarts. -/
def runProcesses (s : MemorySystem) (inputs : List (ProcessCommand × Clock)) : MemorySystem :=
  Run.exec ProcessCommand.step s inputs

/-- The system as a new process rebuilds it: the environment services start empty. -/
def System.restarted (s : MemorySystem) : MemorySystem :=
  { s with environments := fun _ => .new s.kernel.dataSpace.dataSpaceId }

variable {s : MemorySystem}

/-- The interruption of a lost attempt records activation events alone. -/
theorem interruptLostReorientation_reaches (hs : s.KernelSynced) (clock : Clock) :
    System.Reaches EventPayload.IsActivation s
      ((interruptLostReorientation clock).finalState s) := by
  rw [interruptLostReorientation, EStateM.finalState_get_bind]
  split_ifs
  · exact .refl s
  · cases s.kernel.activation.reorientationAttemptStartedStreamVersion with
    | none => exact .refl s
    | some attemptVersion =>
      change System.Reaches _ s ((EStateM.ofExcept (.ok attemptVersion) >>= _).finalState s)
      rw [EStateM.finalState_ofExcept_ok_bind, EStateM.finalState_bind_pure]
      exact ActivationCommand.outcome hs _ clock

/-- **A start of the process** changes nothing, or it interrupts the lost attempt in the
services of the last process. -/
theorem finalState_bootstrap (hs : s.Synced) (pageSize : Nat) (clock : Clock) :
    (bootstrap pageSize clock).finalState s = s ∨
      (bootstrap pageSize clock).finalState s =
        (interruptLostReorientation clock).finalState s.restarted := by
  rw [bootstrap, EStateM.finalState_get_bind]
  rcases Nat.eq_zero_or_pos pageSize with rfl | hpos
  · exact Or.inl rfl
  · right
    rw [System.rebuild_of_synced hs hpos, EStateM.finalState_ofExcept_ok_bind]
    change (set (s.view.services s.ledger) >>= fun _ =>
      interruptLostReorientation clock >>= fun _ => pure ()).finalState s = _
    rw [EStateM.finalState_bind_of_ok (EStateM.run_set_eq _ _), EStateM.finalState_bind_pure]
    rfl

/-- What every recorded event, every stored blob and every restart keeps, with services that
stay synced. -/
structure KeptByProcesses (I : MemorySystem → Prop) : Prop extends KeptByRecording I where
  all_synced : ∀ s, I s → s.Synced
  restarted : ∀ s, I s → I s.restarted

/-- **Step rule.** What every recorded event, every stored blob and every restart keeps, every
command keeps. -/
theorem ProcessCommand.invariant_step {I : MemorySystem → Prop} (hI : KeptByProcesses I)
    (s : MemorySystem) (input : ProcessCommand × Clock) (hs : I s) :
    I (ProcessCommand.step s input) := by
  obtain ⟨c, clock⟩ := input
  cases c with
  | service c => exact ServiceCommand.invariant_step hI.toKeptByRecording s (c, clock) hs
  | restart pageSize =>
    have hrestarted := hI.restarted s hs
    rcases finalState_bootstrap (hI.all_synced s hs) pageSize clock with hsame | hinterrupted
    · rw [ProcessCommand.step, ProcessCommand.run, hsame]
      exact hs
    · rw [ProcessCommand.step, ProcessCommand.run, hinterrupted]
      exact (interruptLostReorientation_reaches (hI.synced _ hrestarted) clock).invariant
        (fun s event s' hs _ hmirrored => hI.mirrored s event s' hs hmirrored) hI.stored hrestarted

omit [Sha256] in
theorem System.synced_restarted (hs : s.Synced) : s.restarted.Synced :=
  { hs with }

/-- A synced system of the data space stays one across restarts. -/
theorem syncedIn_processes (dataSpace : DataSpace) : KeptByProcesses (SyncedIn dataSpace) where
  toKeptByRecording := syncedIn_kept dataSpace
  all_synced _ hs := hs.1
  restarted _ hs := ⟨System.synced_restarted hs.1, hs.2⟩

theorem syncedIn_runProcesses (dataSpace : DataSpace) (inputs : List (ProcessCommand × Clock)) :
    SyncedIn dataSpace (runProcesses (.new dataSpace) inputs) :=
  Run.exec_invariant (ProcessCommand.invariant_step (syncedIn_processes dataSpace)) inputs
    (syncedIn_new dataSpace)

/-! ### Invariants with a defect -/

/-- What every recorded event, every stored blob and every restart keeps, but for the events of
the Kernel named a defect. Neither event of a promotion is a defect. -/
structure System.KeptExcept (Defect : MemorySystem → String → KernelPayload → Prop)
    (I : MemorySystem → Prop) : Prop where
  mirrored : ∀ {s : MemorySystem} {event : EventEnvelope} {s' : MemorySystem}, s.Synced → I s →
    s.Mirrored event s' →
    (∀ payload, event.payload = .kernel payload → ¬ Defect s event.streamId payload) → I s'
  stored : ∀ {s : MemorySystem} (data : Document), I s → I (s.putBlob data)
  restarted : ∀ {s : MemorySystem}, I s → I s.restarted
  created : ∀ {s : MemorySystem} {work : WorkItem} (streamId : String),
    s.kernel.workItems.contains work.workItemId = false →
      ¬ Defect s streamId (.workItemCreated work)
  promoted : ∀ {s : MemorySystem} (streamId notificationId workItemId : String),
    ¬ Defect s streamId (.agentNotificationPromoted notificationId workItemId)

section Except

variable {Defect : MemorySystem → String → KernelPayload → Prop} {I : MemorySystem → Prop}

/-- Events of other services keep the property. -/
theorem System.KeptExcept.of_reaches (hI : System.KeptExcept Defect I) {P : EventPayload → Prop}
    {s' : MemorySystem} (hs : s.Synced) (h : I s) (hreaches : System.Reaches P s s')
    (hP : ∀ payload, ¬ P (.kernel payload)) : I s' := by
  have hboth : s'.Synced ∧ I s' := by
    refine hreaches.invariant (I := fun s => s.Synced ∧ I s) ?_ ?_ ⟨hs, h⟩
    · rintro s event s' ⟨hs, h⟩ hpayload hmirrored
      refine ⟨System.synced_of_mirrored hs hmirrored, hI.mirrored hs h hmirrored ?_⟩
      exact fun payload hkernel => absurd (hkernel ▸ hpayload) (hP payload)
    · exact fun s data ⟨hs, h⟩ => ⟨System.synced_putBlob hs data, hI.stored data h⟩
  exact hboth.2

/-- **A Kernel command** keeps the property when the defects it may record are refused. -/
theorem System.KeptExcept.kernelCommand (hI : System.KeptExcept Defect I) (hs : s.Synced)
    (h : I s) (c : KernelCommand) (clock : Clock)
    (hrefused : ∀ streamId payload, c.Records s.kernel streamId payload →
      Defect s streamId payload → (c.run clock).finalState s = s) :
    I ((c.run clock).finalState s) := by
  generalize hnext : (c.run clock).finalState s = s'
  have hout := c.outcome hs.toKernelSynced clock
  rw [hnext] at hout hrefused
  cases hout with
  | unchanged => exact h
  | @recorded _ event _ payload hpayload hrecords hmirrored =>
    by_cases hdefect : Defect s event.streamId payload
    · exact (hrefused _ payload hrecords hdefect).symm ▸ h
    · refine hI.mirrored hs h hmirrored fun known hknown => ?_
      obtain rfl := EventPayload.kernel.inj (hpayload.symm.trans hknown)
      exact hdefect
  | promoted hcreated hfresh hfirst hlinked hsecond =>
    refine hI.mirrored (System.synced_of_mirrored hs hfirst) (hI.mirrored hs h hfirst ?_) hsecond ?_
    · intro payload hpayload
      obtain rfl := EventPayload.kernel.inj (hcreated.symm.trans hpayload)
      exact hI.created _ hfresh
    · intro payload hpayload
      obtain rfl := EventPayload.kernel.inj (hlinked.symm.trans hpayload)
      exact hI.promoted _ _ _

/-- **Any command and any restart** keeps the property when the defects it may record are
refused. -/
theorem System.KeptExcept.step (hI : System.KeptExcept Defect I) (hs : s.Synced) (h : I s)
    (input : ProcessCommand × Clock)
    (hrefused : ∀ c, input.1 = .service (.kernel c) → ∀ streamId payload,
      c.Records s.kernel streamId payload → Defect s streamId payload →
        (c.run input.2).finalState s = s) : I (ProcessCommand.step s input) := by
  obtain ⟨command, clock⟩ := input
  cases command with
  | restart pageSize =>
    rw [ProcessCommand.step, ProcessCommand.run]
    rcases finalState_bootstrap hs pageSize clock with hsame | hinterrupted
    · rw [hsame]
      exact h
    · have hrestarted := System.synced_restarted hs
      rw [hinterrupted]
      exact hI.of_reaches hrestarted (hI.restarted h)
        (interruptLostReorientation_reaches hrestarted.toKernelSynced clock)
        fun _ ⟨_, h⟩ => by cases h
  | service c =>
    have hsync := hs.toKernelSynced
    cases c with
    | kernel c => exact hI.kernelCommand hs h c clock (hrefused c rfl)
    | activation c => exact hI.of_reaches hs h (c.outcome hsync clock) fun _ ⟨_, h⟩ => by cases h
    | history c => exact hI.of_reaches hs h (c.outcome hsync clock) fun _ ⟨_, h⟩ => by cases h
    | ownerAuth c => exact hI.of_reaches hs h (c.outcome hsync clock) fun _ ⟨_, h⟩ => by cases h

/-- **Runs with restarts that record no defect.** Where every step that meets `C` refuses the
defects, a run whose steps all meet it keeps the property. -/
theorem System.KeptExcept.run {C : MemorySystem → ProcessCommand × Clock → Prop}
    (hI : System.KeptExcept Defect I)
    (hC : ∀ s c clock, C s (.service (.kernel c), clock) → ∀ streamId payload,
      c.Records s.kernel streamId payload → Defect s streamId payload →
        (c.run clock).finalState s = s)
    (dataSpace : DataSpace) (h : I (.new dataSpace)) {inputs : List (ProcessCommand × Clock)}
    (hc : Run.Along ProcessCommand.step C (.new dataSpace) inputs) :
    I (runProcesses (.new dataSpace) inputs) := by
  have hrun : SyncedIn dataSpace (runProcesses (.new dataSpace) inputs) ∧
      I (runProcesses (.new dataSpace) inputs) := by
    refine Run.exec_invariant_along (I := fun s => SyncedIn dataSpace s ∧ I s) ?_ inputs hc
      ⟨syncedIn_new dataSpace, h⟩
    rintro s ⟨command, clock⟩ ⟨hs, h⟩ hc
    refine ⟨ProcessCommand.invariant_step (syncedIn_processes dataSpace) s _ hs,
      hI.step hs.1 h _ ?_⟩
    rintro c rfl
    exact hC s c clock hc
  exact hrun.2

end Except

/-- A property of the Kernel as a property of the system. -/
theorem Kernel.KeptExcept.system {Defect : Kernel → String → KernelPayload → Prop}
    {I : Kernel → Prop} (hI : Kernel.KeptExcept Defect I) :
    System.KeptExcept (fun s => Defect s.kernel) (fun s => I s.kernel) where
  mirrored hs h hmirrored hnot := hI.stepped hs.toKernelSynced h hmirrored.stepped hnot
  stored _ h := h
  restarted h := h
  created streamId hfresh := hI.created streamId hfresh
  promoted := hI.promoted

/-! ### The activation aggregate -/

/-- The activation aggregate after a stored event: its own events, and the import of the current
work graph, which leaves its snapshot's identifier there. -/
def ActivationService.applyStored (a : ActivationService) (stored : StoredEvent) :
    Except VsmError ActivationService :=
  match stored.event.payload with
  | .activation payload => applyActivation stored.event payload stored.cursor a
  | .kernel (.currentWorkGraphImported snapshot) =>
    .ok { a with workGraphSnapshotId := some snapshot.snapshotId }
  | _ => .ok a

omit [Sha256] in
/-- The handlers of a written event make the change of the live aggregate. -/
theorem System.Stepped.activation_applied {event : EventEnvelope} {s' : MemorySystem}
    (hs : s.KernelSynced) (h : s.Stepped event s') :
    s.kernel.activation.applyStored (s.ledger.store event) = .ok s'.kernel.activation := by
  have hcursor : (s.ledger.store event).cursor = s.ledger.events.length + 1 := rfl
  have hevent : (s.ledger.store event).event = event := rfl
  cases h.wrote with
  | kernel payload hpayload _ happlied =>
    rw [(Kernel.changes_of_applyKernel hs.consistent happlied).activation]
    cases payload <;> simp only [ActivationService.applyStored, hevent, hpayload,
      Kernel.activationAfter]
  | activation payload hpayload _ _ happlied =>
    simp only [ActivationService.applyStored, hevent, hpayload, hcursor, happlied]
  | ownerAuth payload hpayload _ _ hkernel =>
    simp only [ActivationService.applyStored, hevent, hpayload]
    rw [hkernel]
  | other hother hkernel =>
    rw [hkernel, ActivationService.applyStored, hevent]
    cases hpayload : event.payload <;> simp_all [EventPayload.ofKernel]

/-- The live aggregate of a synced system is the one that a fresh service replays. -/
def ActivationReplayed (dataSpace : DataSpace) (s : MemorySystem) : Prop :=
  SyncedIn dataSpace s ∧
    EventSourcing.replay ActivationService.applyStored (.new dataSpace.dataSpaceId)
      s.ledger.events = .ok s.kernel.activation

theorem activationReplayed_kept (dataSpace : DataSpace) :
    KeptByProcesses (ActivationReplayed dataSpace) where
  synced _ hs := hs.1.1.toKernelSynced
  all_synced _ hs := hs.1.1
  mirrored s event s' hs h := by
    refine ⟨(syncedIn_kept dataSpace).mirrored s event s' hs.1 h, ?_⟩
    rw [h.stepped.events]
    exact EventSourcing.replay_concat _ hs.2 (h.stepped.activation_applied hs.1.1.toKernelSynced)
  stored s data hs := ⟨(syncedIn_kept dataSpace).stored s data hs.1, hs.2⟩
  restarted s hs := ⟨(syncedIn_processes dataSpace).restarted s hs.1, hs.2⟩

/-- **The activation aggregate is replayed exactly.** After every run, with restarts anywhere in
it, a fresh Activation service that reads the ledger is the live one in every field, and it is
the one that a rebuild of all services gives. -/
theorem replay_eq_live_activation (dataSpace : DataSpace)
    (inputs : List (ProcessCommand × Clock)) {pageSize : Nat} (hpos : 0 < pageSize) :
    EventSourcing.replay ActivationService.applyStored (.new dataSpace.dataSpaceId)
        (runProcesses (.new dataSpace) inputs).ledger.events =
      .ok (runProcesses (.new dataSpace) inputs).kernel.activation ∧
    ∃ rebuilt, (OperationalProjection.fresh dataSpace).rebuild
        (runProcesses (.new dataSpace) inputs).ledger pageSize = .ok (some rebuilt) ∧
      rebuilt.kernel.activation = (runProcesses (.new dataSpace) inputs).kernel.activation := by
  obtain ⟨⟨hsynced, hspace⟩, hreplay⟩ : ActivationReplayed dataSpace _ :=
    Run.exec_invariant (ProcessCommand.invariant_step (activationReplayed_kept dataSpace)) inputs
      ⟨syncedIn_new dataSpace, rfl⟩
  have hrebuild := System.rebuild_of_synced hsynced hpos
  rw [hspace] at hrebuild
  exact ⟨hreplay, _, hrebuild, rfl⟩

/-- The company is commissioned by three processes: the first is stopped during its attempt, and
the third starts after the approval. -/
def restartedCommissioning : List (ProcessCommand × Clock) :=
  (commissioning.take 3).map (fun input => (.service input.1, input.2)) ++
    [(.restart 2, fun _ => 0),
      (.service (.activation (.startReorientation "pilot:1" "start:2")), fun _ => 0)] ++
    (commissioning.drop 3).map (fun input => (.service input.1, input.2)) ++
    [(.restart 500, fun _ => 0)]

omit [Sha256] in
/-- The lost attempt comes back as an error, and the approval as it was given. -/
theorem replay_eq_live_activation_restarted :
    letI := Sha256.polynomial
    let s := runProcesses (.new companySpace) restartedCommissioning
    (EventSourcing.replay ActivationService.applyStored (.new companySpace.dataSpaceId)
        s.ledger.events = .ok s.kernel.activation ∧
      ∃ rebuilt, (OperationalProjection.fresh companySpace).rebuild s.ledger 100 =
          .ok (some rebuilt) ∧
        rebuilt.kernel.activation = s.kernel.activation) ∧
      s.kernel.activation.state = .active ∧ s.ledger.events.length = 8 :=
  ⟨@replay_eq_live_activation Sha256.polynomial companySpace restartedCommissioning 100 (by decide),
    by decide +kernel, by decide +kernel⟩

end Nanihold
