import Nanihold.Replay.Commands
import Nanihold.Library.Runs

/-!
# Rebuilding after a run

Runs of the commands of the Kernel, the Activation service with its history tools and the
owner bootstrap from an empty ledger, in any order, each returning or raising. A rebuild of the
ledger in the next process gives the Kernel exactly.

## Main definitions

* `ServiceCommand` — a command of a run.
* `runCommands` — the system after a run.
* `Kernel.KeptExcept` — what every Kernel event keeps, but for those named a defect.
* `AcceptsImport`, `AcceptsCreation` — the step imports a work graph; it creates a work item.

## Main results

* `ServiceCommand.invariant_step` — what every recorded event keeps, every command keeps.
* `Kernel.KeptExcept.run` — what runs keep that record no defect.
* `rebuild_eq_live_kernel` — a rebuild gives the live Kernel.
-/

namespace Nanihold

variable [Sha256]

/-- A command of the Kernel, of the Activation service, of its history tools or of the owner
bootstrap. -/
inductive ServiceCommand where
  | kernel (c : KernelCommand)
  | activation (c : ActivationCommand)
  | history (c : HistoryCommand)
  | ownerAuth (c : OwnerAuthCommand)

def ServiceCommand.run (clock : Clock) : ServiceCommand → SystemM InMemoryOperationalLedger Unit
  | .kernel c => c.run clock
  | .activation c => c.run clock
  | .history c => c.run clock
  | .ownerAuth c => c.run clock

/-- The system after one command and its clock readings, whether it returns or raises. -/
def ServiceCommand.step (s : MemorySystem) (input : ServiceCommand × Clock) : MemorySystem :=
  (input.1.run input.2).finalState s

/-- The system after a run. -/
def runCommands (s : MemorySystem) (inputs : List (ServiceCommand × Clock)) : MemorySystem :=
  Run.exec ServiceCommand.step s inputs

/-- What every recorded event and every stored blob keeps, with a Kernel that stays synced. -/
structure KeptByRecording (I : MemorySystem → Prop) : Prop where
  synced : ∀ s, I s → s.KernelSynced
  mirrored : ∀ s event s', I s → s.Mirrored event s' → I s'
  stored : ∀ s data, I s → I (s.putBlob data)

/-- **Step rule.** What every recorded event and every stored blob keeps, every command
keeps. -/
theorem ServiceCommand.invariant_step {I : MemorySystem → Prop} (hI : KeptByRecording I)
    (s : MemorySystem) (input : ServiceCommand × Clock) (hs : I s) :
    I (ServiceCommand.step s input) := by
  obtain ⟨c, clock⟩ := input
  have hreaches {P : EventPayload → Prop} {s' : MemorySystem} (h : System.Reaches P s s') : I s' :=
    h.invariant (fun s event s' hs _ hmirrored => hI.mirrored s event s' hs hmirrored) hI.stored hs
  cases c with
  | kernel c => exact (c.outcome (hI.synced s hs) clock).invariant hI.mirrored hs
  | activation c => exact hreaches (c.outcome (hI.synced s hs) clock)
  | history c => exact hreaches (c.outcome (hI.synced s hs) clock)
  | ownerAuth c => exact hreaches (c.outcome (hI.synced s hs) clock)

/-! ### Invariants with a defect -/

/-- What every event of the Kernel keeps, but for the events named a defect: commands record
them although they break the property. The first event of a promotion creates a new work item
and is no defect, and neither is the second. -/
structure Kernel.KeptExcept (Defect : Kernel → String → KernelPayload → Prop)
    (I : Kernel → Prop) : Prop where
  changes : ∀ {k : Kernel} {event : EventEnvelope} {payload : KernelPayload} {next : Kernel},
    k.Consistent → I k → k.Permits event payload → k.Changes event payload next →
      ¬ Defect k event.streamId payload → I next
  collections : ∀ {k : Kernel} (activation : ActivationService) (auth : OwnerBootstrapService),
    I k → I { k with activation := activation, ownerBootstrap := auth }
  created : ∀ {k : Kernel} {work : WorkItem} (streamId : String),
    k.workItems.contains work.workItemId = false → ¬ Defect k streamId (.workItemCreated work)
  promoted : ∀ {k : Kernel} (streamId notificationId workItemId : String),
    ¬ Defect k streamId (.agentNotificationPromoted notificationId workItemId)

section Except

variable {Defect : Kernel → String → KernelPayload → Prop} {I : Kernel → Prop} {s : MemorySystem}

omit [Sha256] in
/-- One recorded event that is no defect. -/
theorem Kernel.KeptExcept.stepped (hI : Kernel.KeptExcept Defect I) (hs : s.KernelSynced)
    (h : I s.kernel) {event : EventEnvelope} {s' : MemorySystem} (hstep : s.Stepped event s')
    (hnot : ∀ payload, event.payload = .kernel payload →
      ¬ Defect s.kernel event.streamId payload) : I s'.kernel := by
  rcases hstep.kernel_cases hs with
    ⟨payload, hpayload, hpermits, hchanges⟩ | ⟨-, activation, auth, hkernel⟩
  · exact hI.changes hs.consistent h hpermits hchanges (hnot payload hpayload)
  · rw [hkernel]
    exact hI.collections activation auth h

/-- **A Kernel command** keeps the property when the defects it may record are refused. -/
theorem Kernel.KeptExcept.kernelCommand (hI : Kernel.KeptExcept Defect I) (hs : s.KernelSynced)
    (h : I s.kernel) (c : KernelCommand) (clock : Clock)
    (hrefused : ∀ streamId payload, c.Records s.kernel streamId payload →
      Defect s.kernel streamId payload → (c.run clock).finalState s = s) :
    I ((c.run clock).finalState s).kernel := by
  generalize hnext : (c.run clock).finalState s = s'
  have hout := c.outcome hs clock
  rw [hnext] at hout hrefused
  cases hout with
  | unchanged => exact h
  | @recorded _ event _ payload hpayload hrecords hmirrored =>
    by_cases hdefect : Defect s.kernel event.streamId payload
    · exact (hrefused _ payload hrecords hdefect).symm ▸ h
    · refine hI.stepped hs h hmirrored.stepped fun known hknown => ?_
      obtain rfl := EventPayload.kernel.inj (hpayload.symm.trans hknown)
      exact hdefect
  | promoted hcreated hfresh hfirst hlinked hsecond =>
    have hmid := System.kernelSynced_of_stepped hs hfirst.stepped
    refine hI.stepped hmid (hI.stepped hs h hfirst.stepped ?_) hsecond.stepped ?_
    · intro payload hpayload
      obtain rfl := EventPayload.kernel.inj (hcreated.symm.trans hpayload)
      exact hI.created _ hfresh
    · intro payload hpayload
      obtain rfl := EventPayload.kernel.inj (hlinked.symm.trans hpayload)
      exact hI.promoted _ _ _

/-- **Any command** keeps the property when the defects it may record are refused. -/
theorem Kernel.KeptExcept.step (hI : Kernel.KeptExcept Defect I) (hs : s.KernelSynced)
    (h : I s.kernel) (input : ServiceCommand × Clock)
    (hrefused : ∀ c, input.1 = .kernel c → ∀ streamId payload,
      c.Records s.kernel streamId payload → Defect s.kernel streamId payload →
        (c.run input.2).finalState s = s) :
    I (ServiceCommand.step s input).kernel := by
  obtain ⟨c, clock⟩ := input
  have hreaches {P : EventPayload → Prop} {s' : MemorySystem} (hreaches : System.Reaches P s s')
      (hP : ∀ payload, ¬ P (.kernel payload)) : I s'.kernel := by
    obtain ⟨activation, auth, hkernel⟩ := hreaches.collections hs hP
    rw [hkernel]
    exact hI.collections activation auth h
  cases c with
  | kernel c => exact hI.kernelCommand hs h c clock (hrefused c rfl)
  | activation c => exact hreaches (c.outcome hs clock) fun _ ⟨_, h⟩ => nomatch h
  | history c => exact hreaches (c.outcome hs clock) fun _ ⟨_, h⟩ => nomatch h
  | ownerAuth c => exact hreaches (c.outcome hs clock) fun _ ⟨_, h⟩ => nomatch h

end Except

theorem kernelSynced_kept : KeptByRecording System.KernelSynced where
  synced _ hs := hs
  mirrored _ _ _ hs h := System.kernelSynced_of_stepped hs h.stepped
  stored _ data hs := System.kernelSynced_putBlob hs data

theorem kernelSynced_run {s : MemorySystem} (hs : s.KernelSynced)
    (inputs : List (ServiceCommand × Clock)) : (runCommands s inputs).KernelSynced :=
  Run.exec_invariant (ServiceCommand.invariant_step kernelSynced_kept) inputs hs

/-- **Runs that record no defect.** Where every step that meets `C` refuses the defects, a run
whose steps all meet it keeps the property. -/
theorem Kernel.KeptExcept.run {Defect : Kernel → String → KernelPayload → Prop}
    {I : Kernel → Prop} {C : MemorySystem → ServiceCommand × Clock → Prop}
    (hI : Kernel.KeptExcept Defect I)
    (hC : ∀ s c clock, C s (.kernel c, clock) → ∀ streamId payload,
      c.Records s.kernel streamId payload → Defect s.kernel streamId payload →
        (c.run clock).finalState s = s)
    {s : MemorySystem} (hs : s.KernelSynced) (h : I s.kernel)
    {inputs : List (ServiceCommand × Clock)} (hc : Run.Along ServiceCommand.step C s inputs) :
    I (runCommands s inputs).kernel := by
  have hrun : (runCommands s inputs).KernelSynced ∧ I (runCommands s inputs).kernel := by
    refine Run.exec_invariant_along (I := fun s => s.KernelSynced ∧ I s.kernel) ?_ inputs hc
      ⟨hs, h⟩
    rintro s ⟨command, clock⟩ ⟨hs, h⟩ hc
    refine ⟨ServiceCommand.invariant_step kernelSynced_kept s _ hs, hI.step hs h _ ?_⟩
    rintro c rfl
    exact hC s c clock hc
  exact hrun.2

/-! ### Accepted commands -/

/-- The step is an import of this snapshot that passes its checks and whose event the ledger
accepts. -/
def AcceptsImport (s : MemorySystem) (input : ServiceCommand × Clock)
    (snapshot : CurrentWorkGraphSnapshot) : Prop :=
  ∃ actorId key r, input.1 = .kernel (.importCurrentWorkGraph snapshot actorId key) ∧
    s.kernel.importCurrentWorkGraph (OperationalLedger.stream s.ledger) snapshot actorId key
      input.2 = .ok (.inr r) ∧ r.Accepted s

/-- The step creates this work item, passes its checks and its event is accepted. -/
def AcceptsCreation (s : MemorySystem) (input : ServiceCommand × Clock) (work : WorkItem) : Prop :=
  ∃ actorId key r, input.1 = .kernel (.createWorkItem work actorId key) ∧
    s.kernel.createWorkItem work actorId key input.2 = .ok r ∧ r.Accepted s

theorem unchanged_of_not_acceptsImport {s : MemorySystem} {c : KernelCommand} {clock : Clock}
    {streamId : String} {snapshot : CurrentWorkGraphSnapshot}
    (hrecords : c.Records s.kernel streamId (.currentWorkGraphImported snapshot))
    (h : ¬ AcceptsImport s (.kernel c, clock) snapshot) : (c.run clock).finalState s = s := by
  obtain ⟨actorId, key, rfl⟩ := hrecords.importCurrentWorkGraph
  rw [KernelCommand.run]
  exact finalState_importCurrentWorkGraph_of_not_accepted fun r hr haccepted =>
    h ⟨actorId, key, r, rfl, hr, haccepted⟩

/-- A work item that the step does not create is not recorded as created, unless a promotion
creates it for the first time. -/
theorem unchanged_of_not_acceptsCreation {s : MemorySystem} {c : KernelCommand} {clock : Clock}
    {streamId : String} {work : WorkItem}
    (hrecords : c.Records s.kernel streamId (.workItemCreated work))
    (hknown : s.kernel.workItems.contains work.workItemId = true)
    (h : ¬ AcceptsCreation s (.kernel c, clock) work) : (c.run clock).finalState s = s := by
  rcases hrecords.createWorkItem with ⟨actorId, key, rfl⟩ | hfresh
  · rw [KernelCommand.run]
    exact finalState_performKernel_of_not_accepted fun r hr haccepted =>
      h ⟨actorId, key, r, rfl, hr, haccepted⟩
  · rw [hknown] at hfresh
    cases hfresh

/-- A synced system of the given data space. -/
def SyncedIn (dataSpace : DataSpace) (s : MemorySystem) : Prop :=
  s.Synced ∧ s.kernel.dataSpace = dataSpace

omit [Sha256] in
theorem syncedIn_new (dataSpace : DataSpace) : SyncedIn dataSpace (.new dataSpace) :=
  ⟨System.synced_new dataSpace, rfl⟩

theorem syncedIn_kept (dataSpace : DataSpace) : KeptByRecording (SyncedIn dataSpace) where
  synced _ hs := hs.1.toKernelSynced
  mirrored _ _ _ hs h :=
    ⟨System.synced_of_mirrored hs.1 h, (h.stepped.data_space hs.1.toKernelSynced).trans hs.2⟩
  stored _ data hs := ⟨System.synced_putBlob hs.1 data, hs.2⟩

theorem syncedIn_run (dataSpace : DataSpace) (inputs : List (ServiceCommand × Clock)) :
    SyncedIn dataSpace (runCommands (.new dataSpace) inputs) :=
  Run.exec_invariant (ServiceCommand.invariant_step (syncedIn_kept dataSpace)) inputs
    (syncedIn_new dataSpace)

/-- **A restart restores the Kernel.** After every run of commands, returning or raising, a
rebuild of the ledger into fresh services succeeds and gives exactly the live Kernel: every
collection, the activation aggregate, the owner bootstrap and the stream versions. -/
theorem rebuild_eq_live_kernel (dataSpace : DataSpace)
    (inputs : List (ServiceCommand × Clock)) {pageSize : Nat} (hpos : 0 < pageSize) :
    ∃ rebuilt, (OperationalProjection.fresh dataSpace).rebuild
        (runCommands (.new dataSpace) inputs).ledger pageSize = .ok (some rebuilt) ∧
      rebuilt.kernel = (runCommands (.new dataSpace) inputs).kernel := by
  obtain ⟨hsynced, hspace⟩ := syncedIn_run dataSpace inputs
  have hrebuild := System.rebuild_of_synced hsynced hpos
  rw [hspace] at hrebuild
  exact ⟨_, hrebuild, rfl⟩

/-! ### A run of two commands -/

/-- A data space for runs on concrete inputs. -/
def companySpace : DataSpace := ⟨"space:company-1", "owner:1"⟩

/-- The owner's Interface Node. -/
def ownerNode : UVSMNode where
  nodeId := "node:owner-interface"
  dataSpaceId := "space:company-1"
  ownerId := "owner:1"
  name := "Owner Interface"
  kind := .interface
  parentNodeId := none
  residentFunctions := VSMFunction.all
  status := .active
  memoryStreamId := "memory:owner-interface"
  viable := rfl
  interface_owned _ := rfl

/-- A proposed work item of the owner's node. -/
def proposedWork : WorkItem where
  workItemId := "work:1"
  dataSpaceId := "space:company-1"
  title := "Ship"
  description := "Ship the release"
  ownerNodeId := "node:owner-interface"
  delegatedToNodeId := "node:owner-interface"
  integrationOwnerNodeId := "node:owner-interface"
  parentWorkItemId := none
  acceptanceCriteria := ["released"]
  routeKey := "development"
  state := .proposed
  blockingS3StarFindingIds := []
  completionEvidence := none

omit [Sha256] in
/-- The owner's node and a work item come back; the second registration raises. -/
theorem rebuild_eq_live_kernel_two_commands :
    letI := Sha256.polynomial
    let s := runCommands (.new companySpace)
      [(.kernel (.registerNode ownerNode "owner:1" "node:1"), fun _ => 0),
        (.kernel (.registerNode ownerNode "owner:1" "node:2"), fun _ => 1),
        (.kernel (.createWorkItem proposedWork "owner:1" "work:1"), fun _ => 2)]
    (∃ rebuilt, (OperationalProjection.fresh companySpace).rebuild s.ledger 1 =
        .ok (some rebuilt) ∧ rebuilt.kernel = s.kernel) ∧
      s.kernel.workItems.contains "work:1" = true ∧ s.ledger.events.length = 2 :=
  let := Sha256.polynomial
  ⟨rebuild_eq_live_kernel companySpace _ (by decide), by decide +kernel, by decide +kernel⟩

/-! ### A commissioned company -/

/-- The current work graph: the owner's node and the proposed work item. -/
def companyGraph : CurrentWorkGraphSnapshot where
  snapshotId := "graph:1"
  dataSpaceId := "space:company-1"
  capturedAt := 0
  nodes := [ownerNode]
  workItems := [proposedWork]
  edges := []
  snapshotSha256 := Sha256.polynomial.hexdigest
    (.workGraph "graph:1" "space:company-1" 0 [ownerNode] [proposedWork] [])
  node_ids_unique := by decide
  work_ids_unique := by decide
  has_incomplete_work := by decide
  edges_unique := by decide

private def companySource (sourceId : NonBlank) (kind : HistorySourceKind) :
    HistorySourceManifest where
  sourceId := sourceId
  sourceKind := kind
  ownerId := "owner:1"
  recordCount := 0
  rawBytes := 0
  digestSha256 := ""
  cutoverCursor := "0"

/-- A receipt of an import without sessions, from one source of each kind. -/
def companyReceipt : HistoryImportReceipt where
  inventoryId := "inventory:1"
  dataSpaceId := "space:company-1"
  manifestDigest := ""
  recordCount := 0
  rawBytes := 0
  crossSourceOverlapIdentities := 0
  sources := [companySource "claude-code" .claudeCode, companySource "claude-ai" .claudeAi,
    companySource "codex" .codex, companySource "intercom" .intercom,
    companySource "lethe" .lethe, companySource "nanihold" .naniholdLegacy,
    companySource "system" .systemSnapshot]
  sessionCount := 0
  sessions := []
  sessionIndexRef := "index:1"
  openCommitmentsRef := "commitments:1"
  currentStateRef := "state:1"
  source_ids_unique := by decide
  source_kinds_exact := by decide
  record_count_total := by decide
  raw_bytes_total := by decide
  session_count_total := rfl
  session_refs_unique := by decide
  session_provenance _ h := nomatch h

/-- An assessment that cites the one history query. -/
def companyAssessment : ReorientationAssessment where
  assessmentId := "assessment:1"
  importId := "inventory:1"
  conversationId := "conversation:1"
  generatedAt := 0
  understanding := "The release is next."
  activeMissions := []
  decisionsAndConstraints := []
  openCommitmentIds := []
  unknowns := []
  resumeWorkItemIds := ["work:1"]
  coveredSessionIndexRef := "index:1"
  coveredSessionCount := 0
  historyCursor := 2
  currentStateCursor := 4
  citations := [⟨"understanding",
    @deterministicEventId Sha256.polynomial "space:company-1" "activation:company-1" "query:1"⟩]
  understanding_length := by decide
  active_missions_bounded := by decide
  decisions_bounded := by decide
  unknowns_bounded := by decide
  citations_bounded := by decide

/-- The commands that take an empty data space to its owner's approval. -/
def commissioning : List (ServiceCommand × Clock) :=
  [(.kernel (.importCurrentWorkGraph companyGraph "owner:1" "graph:1"), fun _ => 0),
    (.activation (.registerHistoryImport companyReceipt "conversation:1" "owner:1" "import:1"),
      fun _ => 0),
    (.activation (.startReorientation "pilot:1" "start:1"), fun _ => 0),
    (.history (.resolve 1000 ⟨"action:1", .getCurrentState, none, none⟩
      (.ok ⟨"state", none, none, "cursor"⟩) "pilot:1" "query:1"), fun _ => 0),
    (.activation (.submitAssessment companyAssessment [] ["work:1"] true "pilot:1"
      "assessment:1"), fun _ => 0),
    (.activation (.approve "assessment:1" "owner:1" "approve:1"), fun _ => 0)]

omit [Sha256] in
example :
    letI := Sha256.polynomial
    (runCommands (.new companySpace) commissioning).kernel.activation.state = .active := by
  decide +kernel

end Nanihold
