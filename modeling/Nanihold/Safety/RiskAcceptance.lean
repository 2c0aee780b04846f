import Nanihold.Safety.Findings
import Nanihold.Safety.Scope

/-!
# Accepting the risk of a finding

A severe finding blocks its work item, and accepting its risk takes it off the blockers. The state
of the work item is then computed from the blockers that are left, whatever the state was before:
a work item that the finding did not block comes out ready or blocked as well.

## Main definitions

* `undoneState` — the state of a work item when only the block of a finding is undone.
* `UndoesOwnBlock` — an acceptance moves the work item to this state and is replayed as it was.
* `BlockedOrUntouched` — the work items for which it does.

## Main results

* `unblocked_of_accepted` — what an acceptance does to its work item, and its replay.
* `undoesOwnBlock_iff` — in every reachable state the law holds of exactly these work items.
* `advisory_acceptance_breaks_undoesOwnBlock` — an advisory finding makes a proposed item ready.
-/

namespace Nanihold

/-- The finding is what blocks the work item, and nothing else does. -/
def OnlyBlocker (findingId : String) (work : WorkItem) : Prop :=
  work.blockingS3StarFindingIds ≠ [] ∧
    ∀ blocker ∈ work.blockingS3StarFindingIds, blocker = findingId

instance (findingId : String) (work : WorkItem) : Decidable (OnlyBlocker findingId work) :=
  inferInstanceAs (Decidable (_ ∧ _))

/-- The state of a work item when the block of a finding is undone and nothing else: ready if it
was blocked by this finding alone, else what it was. -/
def undoneState (findingId : String) (work : WorkItem) : WorkState :=
  if work.state = .blocked ∧ OnlyBlocker findingId work then .ready else work.state

/-- The finding may be taken off the work item without moving it in any other way: the work item
is blocked by some finding, or it is ready and no other finding blocks it. -/
def BlockedOrUntouched (findingId : String) (work : WorkItem) : Prop :=
  work.state = .blocked ∧ work.blockingS3StarFindingIds ≠ [] ∨
    work.state = .ready ∧ ∀ blocker ∈ work.blockingS3StarFindingIds, blocker = findingId

/-- **The law of accepted risks**: the work item of the finding moves as the undone block says, and
the recorded event is replayed as the command was. -/
def UndoesOwnBlock (findingId s5NodeId rationale : String) (s s' : MemorySystem) : Prop :=
  ∀ finding work, s.kernel.findings.get? findingId = some finding →
    s.kernel.workItems.get? finding.workItemId = some work →
    (s'.kernel.workItems.get? finding.workItemId).map (·.state) =
        some (undoneState findingId work) ∧
      ReplaysAs finding.workItemId (.s3StarRiskAccepted findingId s5NodeId rationale) s s'

namespace Kernel

/-- What is left of the blockers when the finding is taken off. -/
private theorem filter_ne_eq_nil_iff {findingId : String} {blockers : List String} :
    blockers.filter (· ≠ findingId) = [] ↔ ∀ blocker ∈ blockers, blocker = findingId := by
  simp only [List.filter_eq_nil_iff, decide_eq_true_eq, not_not]

/-- The code computes the state of the undone block for exactly these work items. -/
theorem state_unblockedFrom_eq_iff (findingId : String) (work : WorkItem) :
    (unblockedFrom findingId work).state = undoneState findingId work ↔
      BlockedOrUntouched findingId work := by
  simp only [unblockedFrom, undoneState, BlockedOrUntouched, filter_ne_eq_nil_iff]
  by_cases hown : ∀ blocker ∈ work.blockingS3StarFindingIds, blocker = findingId
  · -- Nothing else blocks the work item, so the code makes it ready.
    rw [if_pos hown]
    by_cases hblocked : work.state = .blocked ∧ work.blockingS3StarFindingIds ≠ []
    · rw [if_pos ⟨hblocked.1, hblocked.2, hown⟩]
      exact iff_of_true rfl (Or.inl hblocked)
    · rw [if_neg fun h => hblocked ⟨h.1, h.2.1⟩]
      constructor
      · exact fun h => Or.inr ⟨h.symm, hown⟩
      · rintro (h | h)
        · exact absurd h hblocked
        · exact h.1.symm
  · -- Another finding blocks it, so the code leaves it blocked or blocks it.
    have hne : work.blockingS3StarFindingIds ≠ [] := by
      rintro hnil
      exact hown fun blocker hmem => by rw [hnil] at hmem; cases hmem
    rw [if_neg hown, if_neg fun h => hown h.2.2]
    constructor
    · exact fun h => Or.inl ⟨h.symm, hne⟩
    · rintro (h | h)
      · exact h.1.symm
      · exact absurd h.2 hown

end Kernel

variable [Sha256] {s s' : MemorySystem}
  {findingId s5NodeId actorId rationale key : String} {clock : Clock}

/-- **What an acceptance does**: it takes the finding off the blockers of its work item, and its
event is replayed as the command was. -/
theorem unblocked_of_accepted (hs : s.Synced)
    (hok : (KernelCommand.acceptS3StarRisk findingId s5NodeId actorId rationale key).run clock s =
      .ok () s') :
    ∃ finding work, s.kernel.findings.get? findingId = some finding ∧
      s.kernel.workItems.get? finding.workItemId = some work ∧
      s'.kernel.workItems.get? finding.workItemId = some (Kernel.unblockedFrom findingId work) ∧
      ReplaysAs finding.workItemId (.s3StarRiskAccepted findingId s5NodeId rationale) s s' := by
  have hsync := hs.toKernelSynced
  rcases performKernel_cases hsync
    (fun k => k.acceptS3StarRisk findingId s5NodeId actorId rationale key clock)
    (fun _ payload => payload = .s3StarRiskAccepted findingId s5NodeId rationale)
    (fun r hr =>
      have ⟨streamId, hr⟩ := Kernel.replayable_acceptS3StarRisk hsync.consistent hr
      ⟨streamId, _, rfl, hr⟩) with
    ⟨e, herror⟩ | ⟨event, next, ⟨_, hpayload, rfl, hmirrored⟩, hnext⟩
  · cases herror.symm.trans hok
  · obtain ⟨-, rfl⟩ := EStateM.Result.ok.inj (hnext.symm.trans hok)
    obtain ⟨⟨finding, hfinding, hstream, -⟩, happlied⟩ := hmirrored.stepped.kernel hpayload
    simp only [applyKernel, onKernel, Checked.bind_eq_ok_iff, Checked.orRaise_eq_ok_iff,
      Checked.pure_eq_ok_iff] at happlied
    obtain ⟨_, ⟨_, -, work, hwork, rfl⟩, hkernel⟩ := happlied
    have hreplays := replaysAs_of_mirrored hs hpayload hmirrored
    rw [hstream] at hwork hreplays
    refine ⟨finding, work, hfinding, hwork, ?_, hreplays⟩
    rw [← hkernel, ← hstream]
    exact OrderedDict.get?_set_self _ _ _

/-- **The law of accepted risks holds of exactly the work items that are blocked, or that are ready
and that no other finding blocks**, in every state that a run with restarts reaches. -/
theorem undoesOwnBlock_iff (dataSpace : DataSpace) (inputs : List (ProcessCommand × Clock))
    (hok : (KernelCommand.acceptS3StarRisk findingId s5NodeId actorId rationale key).run clock
      (runProcesses (.new dataSpace) inputs) = .ok () s') :
    UndoesOwnBlock findingId s5NodeId rationale (runProcesses (.new dataSpace) inputs) s' ↔
      ∀ finding work,
        (runProcesses (.new dataSpace) inputs).kernel.findings.get? findingId = some finding →
        (runProcesses (.new dataSpace) inputs).kernel.workItems.get? finding.workItemId =
          some work →
        BlockedOrUntouched findingId work := by
  have hs := (syncedIn_runProcesses dataSpace inputs).1
  generalize runProcesses (.new dataSpace) inputs = s at hs hok ⊢
  obtain ⟨finding, work, hfinding, hwork, hafter, hreplays⟩ := unblocked_of_accepted hs hok
  have hstate : (s'.kernel.workItems.get? finding.workItemId).map (·.state) =
      some (Kernel.unblockedFrom findingId work).state := by
    rw [hafter, Option.map_some]
  constructor
  · intro h known other hknown hother
    obtain rfl := Option.some.inj (hfinding.symm.trans hknown)
    obtain rfl := Option.some.inj (hwork.symm.trans hother)
    rw [← Kernel.state_unblockedFrom_eq_iff]
    exact Option.some.inj (hstate.symm.trans (h _ _ hfinding hwork).1)
  · intro h known other hknown hother
    obtain rfl := Option.some.inj (hfinding.symm.trans hknown)
    obtain rfl := Option.some.inj (hwork.symm.trans hother)
    refine ⟨?_, hreplays⟩
    rw [hstate, (Kernel.state_unblockedFrom_eq_iff findingId work).mpr (h _ _ hfinding hwork)]

/-! ### A severe and an advisory finding -/

/-- The owner accepts the risk of the finding. -/
def acceptance : KernelCommand :=
  .acceptS3StarRisk "finding:1" "node:owner-interface" "owner:1" "The risk is acceptable."
    "accept:1"

/-- The work item is created, and a severe finding about it is recorded. -/
def severeRun : List (ProcessCommand × Clock) :=
  blockedRun.map fun input => (.service input.1, input.2)

omit [Sha256] in
/-- The finding that alone blocks the work item is accepted, and the law holds. -/
theorem undoesOwnBlock_severe :
    letI := Sha256.polynomial
    ∃ s', acceptance.run (fun _ => 0) (runProcesses (.new companySpace) severeRun) = .ok () s' ∧
      UndoesOwnBlock "finding:1" "node:owner-interface" "The risk is acceptable."
        (runProcesses (.new companySpace) severeRun) s' := by
  let := Sha256.polynomial
  have hfinding : (runProcesses (.new companySpace) severeRun).kernel.findings.get? "finding:1" =
      some severeFinding := by decide +kernel
  have hwork : (runProcesses (.new companySpace) severeRun).kernel.workItems.get? "work:1" =
      some (Kernel.blockedBy "finding:1" proposedWork) := by decide +kernel
  obtain ⟨⟨⟩, hok⟩ := EStateM.exists_ok_of_returns (show (acceptance.run (fun _ => 0)).returns
    (runProcesses (.new companySpace) severeRun) = true by decide +kernel)
  have hiff := undoesOwnBlock_iff companySpace severeRun hok
  generalize runProcesses (.new companySpace) severeRun = s at hfinding hwork hok hiff ⊢
  refine ⟨_, hok, hiff.mpr fun known other hknown hother => ?_⟩
  obtain rfl := Option.some.inj (hfinding.symm.trans hknown)
  obtain rfl := Option.some.inj (hwork.symm.trans hother)
  exact Or.inl ⟨rfl, List.cons_ne_nil _ _⟩

/-- The work item is created, and an advisory finding about it is recorded. -/
def advisoryRun : List (ProcessCommand × Clock) :=
  [(.service (.kernel (.registerNode ownerNode "owner:1" "node:1")), fun _ => 0),
    (.service (.kernel (.createWorkItem proposedWork "owner:1" "work:1")), fun _ => 0),
    (.service (.kernel (.recordS3StarFinding { severeFinding with severity := .advisory }
      "auditor:1" "finding:1")), fun _ => 0)]

omit [Sha256] in
/-- **The law fails**: the finding blocks nothing, and accepting its risk makes the proposed work
item ready. -/
theorem advisory_acceptance_breaks_undoesOwnBlock :
    letI := Sha256.polynomial
    ∃ s', acceptance.run (fun _ => 0) (runProcesses (.new companySpace) advisoryRun) = .ok () s' ∧
      ¬ UndoesOwnBlock "finding:1" "node:owner-interface" "The risk is acceptable."
        (runProcesses (.new companySpace) advisoryRun) s' := by
  let := Sha256.polynomial
  have hready : (((acceptance.run (fun _ => 0)).finalState
      (runProcesses (.new companySpace) advisoryRun)).kernel.workItems.get? "work:1").map
        (·.state) = some .ready := by decide +kernel
  have hfinding : (runProcesses (.new companySpace) advisoryRun).kernel.findings.get? "finding:1" =
      some { severeFinding with severity := .advisory } := by decide +kernel
  have hwork : (runProcesses (.new companySpace) advisoryRun).kernel.workItems.get? "work:1" =
      some proposedWork := by decide +kernel
  obtain ⟨⟨⟩, hok⟩ := EStateM.exists_ok_of_returns (show (acceptance.run (fun _ => 0)).returns
    (runProcesses (.new companySpace) advisoryRun) = true by decide +kernel)
  generalize runProcesses (.new companySpace) advisoryRun = s at hready hfinding hwork hok ⊢
  refine ⟨_, hok, fun h => ?_⟩
  cases hready.symm.trans (h _ _ hfinding hwork).1

end Nanihold
