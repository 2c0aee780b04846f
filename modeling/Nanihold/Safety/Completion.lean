import Nanihold.Replay.Runs

/-!
# Completed work over runs

A work item is completed through its completion gate, and no later event leaves it completed
with another evidence or with a blocker. The import of the current work graph is the one command
that takes over completed work items without asking for their evidence.

## Main definitions

* `WorkItem.Accounted` — the evidence passes the completion gate and nothing blocks.
* `CompletionLaw` — every completed work item is accounted for.
* `ImportsAccounted` — the completed work items of an import are accounted for.

## Main results

* `completionLaw_of_importsAccounted` — the law in runs of such imports.
-/

namespace Nanihold

/-- The work item carries evidence that passes the completion gate, and nothing blocks it. -/
def WorkItem.Accounted (work : WorkItem) : Prop :=
  (∃ evidence, work.completionEvidence = some evidence ∧ Kernel.CompletionGate evidence) ∧
    work.blockingS3StarFindingIds = []

/-- Every completed work item is accounted for. -/
def CompletionLaw (k : Kernel) : Prop :=
  ∀ id work, k.workItems.get? id = some work → work.state = .completed → work.Accounted

/-- The snapshot takes over a completed work item that is not accounted for. -/
def CompletesUnaccounted (_ : Kernel) (_ : String) : KernelPayload → Prop
  | .currentWorkGraphImported snapshot =>
    ∃ work ∈ snapshot.workItems, work.state = .completed ∧ ¬ work.Accounted
  | _ => False

section Events

variable {k : Kernel}

/-- A rewrite that completes nothing. -/
private theorem completionLaw_modify (h : CompletionLaw k) {key : String}
    {f : WorkItem → WorkItem} (hf : ∀ work, (f work).state ≠ .completed) :
    ∀ id work, (k.workItems.modify key f).get? id = some work → work.state = .completed →
      work.Accounted := by
  intro id work hget hcompleted
  rw [OrderedDict.get?_modify] at hget
  split_ifs at hget with hkey
  · obtain ⟨old, -, rfl⟩ := Option.map_eq_some_iff.mp hget
    exact absurd hcompleted (hf old)
  · exact h id work hget hcompleted

/-- A completion that passed the gate. -/
private theorem completionLaw_completed (h : CompletionLaw k) {event : EventEnvelope}
    {evidence : CompletionEvidence} (hpermits : k.Permits event (.workItemCompleted evidence)) :
    ∀ id work, (k.workItemsAfter event (.workItemCompleted evidence)).get? id = some work →
      work.state = .completed → work.Accounted := by
  obtain ⟨hgate, -, completed, hcompleted, hblockers⟩ := hpermits
  intro id work hget hstate
  rw [Kernel.workItemsAfter, OrderedDict.get?_modify] at hget
  split_ifs at hget with hkey
  · rw [← hkey, hcompleted, Option.map_some] at hget
    rw [← Option.some.inj hget]
    exact ⟨⟨evidence, rfl, hgate⟩, hblockers⟩
  · exact h id work hget hstate

end Events

/-- **Every event but such an import** keeps completed work accounted for. -/
theorem completionLaw_kept : Kernel.KeptExcept CompletesUnaccounted CompletionLaw where
  changes := by
    intro k event payload next _ h hpermits hchanges hnot
    rw [CompletionLaw, hchanges.work_items]
    cases payload
    case workItemCreated created =>
      obtain ⟨-, hstate, -⟩ := hpermits
      intro id work hget hcompleted
      rw [Kernel.workItemsAfter, OrderedDict.get?_set] at hget
      split_ifs at hget with hid
      · obtain rfl := Option.some.inj hget
        rcases hstate with hstate | hstate <;> cases hstate.symm.trans hcompleted
      · exact h id work hget hcompleted
    case currentWorkGraphImported snapshot =>
      intro id work hget hcompleted
      rcases OrderedDict.get?_update id work _ _ hget with hold | hnew
      · exact h id work hold hcompleted
      · obtain ⟨imported, hmem, heq⟩ := List.mem_map.mp hnew
        obtain rfl := (Prod.mk.inj heq).2
        by_contra hopen
        exact hnot ⟨imported, hmem, hcompleted, hopen⟩
    case s3StarFindingRecorded finding =>
      rw [Kernel.workItemsAfter]
      split_ifs
      · exact completionLaw_modify h fun _ => by simp [Kernel.blockedBy]
      · exact h
    case s3StarRiskAccepted findingId s5NodeId rationale =>
      refine completionLaw_modify h fun work => ?_
      rw [Kernel.unblockedFrom]
      split_ifs <;> simp
    case workItemCompleted evidence => exact completionLaw_completed h hpermits
    case workItemDelegated => exact completionLaw_modify h fun _ => by simp
    case workItemResumePrepared => exact completionLaw_modify h fun _ => by simp
    case humanIntervention => exact completionLaw_modify h fun _ => by simp
    all_goals exact h
  collections _ _ h := h
  created _ _ h := h
  promoted _ _ _ h := h

variable [Sha256]

/-- An import that is recorded takes over no completed work item that is not accounted for. -/
def ImportsAccounted (s : MemorySystem) (input : ServiceCommand × Clock) : Prop :=
  ∀ snapshot, AcceptsImport s input snapshot → ∀ work ∈ snapshot.workItems,
    work.state = .completed → work.Accounted

/-- **Completed work** is accounted for in every run of such imports. -/
theorem completionLaw_of_importsAccounted (dataSpace : DataSpace)
    (inputs : List (ServiceCommand × Clock))
    (hc : Run.Along ServiceCommand.step ImportsAccounted (.new dataSpace) inputs) :
    CompletionLaw (runCommands (.new dataSpace) inputs).kernel := by
  refine completionLaw_kept.run ?_ (System.kernelSynced_new dataSpace) ?_ hc
  · intro s c clock hc streamId payload hrecords hdefect
    cases payload <;> simp only [CompletesUnaccounted] at hdefect
    case currentWorkGraphImported snapshot =>
      obtain ⟨work, hmem, hcompleted, hopen⟩ := hdefect
      exact unchanged_of_not_acceptsImport hrecords fun haccepts =>
        hopen (hc snapshot haccepts work hmem hcompleted)
  · exact fun _ _ hget => nomatch hget

/-! ### Completed work without evidence -/

theorem importsAccounted_of_ne {s : MemorySystem} {input : ServiceCommand × Clock}
    (h : ∀ snapshot actorId key,
      input.1 ≠ .kernel (.importCurrentWorkGraph snapshot actorId key)) :
    ImportsAccounted s input :=
  fun snapshot ⟨actorId, key, _, heq, _⟩ => absurd heq (h snapshot actorId key)

/-- Evidence that passes the completion gate. -/
def fullEvidence : CompletionEvidence where
  acceptanceSatisfied := true
  requiredTestsPassed := true
  blockingDeviations := []
  independentS3StarGate := true
  integrationBranchMerged := true
  remotePushSucceeded := true

/-- The company's work graph is imported, and its work item is completed. -/
def completedRun : List (ServiceCommand × Clock) :=
  [(.kernel (.importCurrentWorkGraph companyGraph "owner:1" "graph:1"), fun _ => 0),
    (.kernel (.completeWorkItem "work:1" fullEvidence "owner:1" "complete:1"), fun _ => 0)]

omit [Sha256] in
/-- The completed work item is accounted for. -/
theorem completionLaw_of_completedRun :
    letI := Sha256.polynomial
    CompletionLaw (runCommands (.new companySpace) completedRun).kernel ∧
      ((runCommands (.new companySpace) completedRun).kernel.workItems.get? "work:1").map
        (·.state) = some .completed := by
  let := Sha256.polynomial
  refine ⟨completionLaw_of_importsAccounted companySpace _ ⟨?_, ?_, trivial⟩, by decide +kernel⟩
  · rintro snapshot ⟨actorId, key, r, heq, -⟩ work hmem hcompleted
    injection heq with heq
    injection heq with hgraph
    rw [← hgraph, companyGraph, List.mem_singleton] at hmem
    exact nomatch (hmem ▸ hcompleted :)
  · exact importsAccounted_of_ne (by simp)

/-- A work item said to be completed, without evidence. -/
def unprovenWork : WorkItem :=
  { proposedWork with workItemId := "work:2", state := .completed }

/-- A work graph that holds it beside the proposed work item. -/
def unprovenGraph : CurrentWorkGraphSnapshot where
  snapshotId := "graph:1"
  dataSpaceId := "space:company-1"
  capturedAt := 0
  nodes := [ownerNode]
  workItems := [proposedWork, unprovenWork]
  edges := []
  snapshotSha256 := Sha256.polynomial.hexdigest
    (.workGraph "graph:1" "space:company-1" 0 [ownerNode] [proposedWork, unprovenWork] [])
  node_ids_unique := companyGraph.node_ids_unique
  work_ids_unique := by decide
  has_incomplete_work := by decide
  edges_unique := companyGraph.edges_unique

/-- The work graph is imported. -/
def unprovenRun : List (ServiceCommand × Clock) :=
  [(.kernel (.importCurrentWorkGraph unprovenGraph "owner:1" "graph:1"), fun _ => 0)]

omit [Sha256] in
private theorem unprovenRun_work :
    letI := Sha256.polynomial
    (runCommands (.new companySpace) unprovenRun).kernel.workItems.get? "work:2" =
      some unprovenWork := by
  decide +kernel

omit [Sha256] in
/-- The imported work item is completed without evidence. -/
theorem unprovenRun_breaks_completionLaw :
    letI := Sha256.polynomial
    ¬ CompletionLaw (runCommands (.new companySpace) unprovenRun).kernel := by
  let := Sha256.polynomial
  intro h
  obtain ⟨⟨evidence, hevidence, -⟩, -⟩ := h "work:2" unprovenWork unprovenRun_work rfl
  exact nomatch hevidence

end Nanihold
