import Nanihold.Routing.Bayesian
import Nanihold.Safety.Hosts

/-!
# What a dispatch starts

A dispatch first looks for eligible work and plans all of it, and then starts the planned work item
by item. Nothing it writes in between touches work items, dependencies or route snapshots, so what
the plan found is still so when an execution is created.

## Main definitions

* `EligibleExecution` — an execution of eligible work, on the node and by a candidate it should be.
* `StartedFrom` — a Kernel as the creations of some plans leave it.
* `DispatchSound` — all that a dispatch creates is eligible, and at most one of each work item.

## Main results

* `eligibleExecution_of_planDispatch` — what a plan found.
* `startedFrom_startExecutions` — what the creations leave, whether they return or raise.
* `dispatchSound_run` — dispatches are sound in every reachable state.
-/

namespace Nanihold

open Dispatcher

/-! ### Eligible work -/

/-- The call asks the router for its candidates. -/
def DispatchCall.AsksRouter (call : DispatchCall) : Prop :=
  ∀ workItemId, ∃ router : ScoringRouter, ∀ snapshot,
    call.answers.selectProduction workItemId snapshot =
      (router.selectProduction snapshot).map (·.candidateKey)

/-- The candidates of the model registry are filed under their keys. -/
def Dispatcher.RegistryKeyed (d : Dispatcher) : Prop :=
  ∀ registry, d.modelRegistry = some registry → ∀ key candidate,
    registry.get? key = some candidate → candidate.key = key

namespace Kernel

variable (k : Kernel)

/-- The route snapshot is the one published snapshot of its route. -/
structure PublishedAlone (snapshot : RouteSnapshot) : Prop where
  known : snapshot ∈ k.routeSnapshots.values
  published : snapshot.state = .published
  alone : ∀ other ∈ k.routeSnapshots.values, other.state = .published →
    other.routeKey = snapshot.routeKey → other = snapshot

/-- The work item is ready, what it depends on is completed, and no execution of it is in
flight. -/
structure EligibleWork (work : WorkItem) : Prop where
  known : k.workItems.get? work.workItemId = some work
  ready : work.state = .ready
  prerequisites : ∀ targetId ∈ k.prerequisites work.workItemId,
    ∃ target, k.workItems.get? targetId = some target ∧ target.state = .completed
  idle : ∀ id execution, k.executions.get? id = some execution →
    execution.workItemId = work.workItemId →
    execution.state ≠ .requested ∧ execution.state ≠ .active

/-- **An execution of eligible work**: it is on the node that the work item is delegated to, and by
a candidate of the one published snapshot of its route, which is not stale. -/
structure EligibleExecution (call : DispatchCall) (execution : Execution) : Prop where
  eligible : ∃ work, k.EligibleWork work ∧ execution.workItemId = work.workItemId ∧
    execution.nodeId = work.delegatedToNodeId ∧
    ∃ snapshot, k.PublishedAlone snapshot ∧ snapshot.routeKey = work.routeKey ∧
      snapshot.evidenceCursor = call.answers.evidenceCursor work.workItemId ∧
      execution.modelCandidateKey ∈ snapshot.candidateKeys

end Kernel

/-! ### What a plan found -/

section Plans

variable {k : Kernel}

/-- **What the checks of a work item say.** -/
theorem eligibleWork_of_isEligible {allowed : Option (List String)} {work : WorkItem}
    (hknown : k.workItems.get? work.workItemId = some work)
    (h : k.isEligible allowed work = .ok true) : k.EligibleWork work := by
  unfold Kernel.isEligible at h
  split_ifs at h with hallowed hidle
  · cases h
  · cases h
  obtain ⟨hready, hinactive⟩ := not_or.mp hidle
  obtain ⟨incomplete, hany, h⟩ := Checked.bind_eq_ok_iff.mp h
  have hcomplete : incomplete = false := by simpa using Checked.pure_eq_ok_iff.mp h
  subst hcomplete
  refine ⟨hknown, not_not.mp hready, fun targetId htarget => ?_, fun id execution hget hwork => ?_⟩
  · have hchecked := Checked.eq_false_of_anyM hany targetId htarget
    obtain ⟨target, hfound, hstate⟩ := Checked.bind_eq_ok_iff.mp hchecked
    exact ⟨target, Checked.orRaise_eq_ok_iff.mp hfound,
      by simpa using Checked.pure_eq_ok_iff.mp hstate⟩
  · rw [← not_or]
    intro hstate
    exact hinactive (List.mem_map.mpr ⟨execution, List.mem_filter.mpr
      ⟨OrderedDict.mem_values_of_get? hget, decide_eq_true hstate⟩, hwork⟩)

/-- One snapshot of `publishedByRoute`. -/
private theorem publishedByRoute_step {snapshot : RouteSnapshot}
    {published next : OrderedDict String RouteSnapshot}
    (h : (if snapshot.state = .published then do
        require (published.contains snapshot.routeKey = false)
          s!"multiple published RouteSnapshots for {snapshot.routeKey}"
        return published.set snapshot.routeKey snapshot
      else return published : Except VsmError _) = .ok next) :
    (snapshot.state = .published ∧ published.get? snapshot.routeKey = none ∧
        next = published.set snapshot.routeKey snapshot) ∨
      (snapshot.state ≠ .published ∧ next = published) := by
  split_ifs at h with hstate
  · obtain ⟨hfresh, h⟩ := Checked.check_bind_eq_ok_iff.mp h
    exact Or.inl ⟨hstate, (OrderedDict.contains_eq_false_iff ..).mp hfresh,
      (Checked.pure_eq_ok_iff.mp h).symm⟩
  · exact Or.inr ⟨hstate, (Checked.pure_eq_ok_iff.mp h).symm⟩

/-- **The published snapshots by route** are the published snapshots: a second one of a route is
refused. -/
theorem get?_publishedByRoute {published : OrderedDict String RouteSnapshot}
    (h : k.publishedByRoute = .ok published) (routeKey : String) (snapshot : RouteSnapshot) :
    published.get? routeKey = some snapshot ↔ snapshot ∈ k.routeSnapshots.values ∧
      snapshot.state = .published ∧ snapshot.routeKey = routeKey := by
  unfold Kernel.publishedByRoute at h
  generalize k.routeSnapshots.values = snapshots at h ⊢
  induction snapshots using List.reverseRecOn generalizing published with
  | nil =>
    obtain rfl := Checked.pure_eq_ok_iff.mp h
    simp
  | append_singleton snapshots last ih =>
    rw [List.foldlM_append] at h
    obtain ⟨before, hbefore, h⟩ := Checked.bind_eq_ok_iff.mp h
    rw [List.foldlM_cons] at h
    obtain ⟨after, hlast, h⟩ := Checked.bind_eq_ok_iff.mp h
    obtain rfl := Checked.pure_eq_ok_iff.mp h
    have hfound := ih hbefore
    rw [List.mem_append, List.mem_singleton]
    rcases publishedByRoute_step hlast with ⟨hpublished, hfresh, rfl⟩ | ⟨hnot, rfl⟩
    · rw [OrderedDict.get?_set]
      split_ifs with hroute
      · subst hroute
        constructor
        · intro heq
          obtain rfl := Option.some.inj heq
          exact ⟨Or.inr rfl, hpublished, rfl⟩
        · rintro ⟨hold | rfl, hstate, hkey⟩
          · cases hfresh.symm.trans ((hfound.mpr ⟨hold, hstate, hkey⟩))
          · rfl
      · rw [hfound]
        constructor
        · rintro ⟨hold, hrest⟩
          exact ⟨Or.inl hold, hrest⟩
        · rintro ⟨hold | rfl, hstate, hkey⟩
          · exact ⟨hold, hstate, hkey⟩
          · exact absurd hkey hroute
    · rw [hfound]
      constructor
      · rintro ⟨hold, hrest⟩
        exact ⟨Or.inl hold, hrest⟩
      · rintro ⟨hold | rfl, hstate, hkey⟩
        · exact ⟨hold, hstate, hkey⟩
        · exact absurd hstate hnot

theorem exists_of_forall₂ {α β : Type} {R : α → β → Prop} {as : List α} {bs : List β}
    (h : List.Forall₂ R as bs) {b : β} (hb : b ∈ bs) : ∃ a ∈ as, R a b := by
  induction h with
  | nil => cases hb
  | cons hab _ ih =>
    rcases List.mem_cons.mp hb with rfl | hb
    · exact ⟨_, List.mem_cons_self, hab⟩
    · obtain ⟨a, ha, hrel⟩ := ih hb
      exact ⟨a, List.mem_cons_of_mem _ ha, hrel⟩

/-- **What a plan is about**: eligible work. -/
theorem eligibleWork_of_planDispatch {d : Dispatcher} (hk : d.system.kernel.Consistent)
    {call : DispatchCall} {planned : List PlannedWork} (h : d.planDispatch call = .ok planned)
    {plan : PlannedWork} (hplan : plan ∈ planned) :
    d.system.kernel.EligibleWork plan.workItem := by
  obtain ⟨_, -, h⟩ := Checked.bind_eq_ok_iff.mp h
  obtain ⟨registry, -, h⟩ := Checked.bind_eq_ok_iff.mp h
  obtain ⟨_, -, h⟩ := Checked.bind_eq_ok_iff.mp h
  obtain ⟨_, -, h⟩ := Checked.bind_eq_ok_iff.mp h
  obtain ⟨publishedByRoute, -, h⟩ := Checked.bind_eq_ok_iff.mp h
  obtain ⟨eligible, heligible, h⟩ := Checked.bind_eq_ok_iff.mp h
  obtain ⟨work, hwork, hmade⟩ := exists_of_forall₂ (Checked.mapM_eq_ok h) hplan
  rw [workItem_of_planWork hmade]
  obtain ⟨hsublist, hpassed⟩ := Checked.filterM_eq_ok heligible
  have hmem : work ∈ d.system.kernel.workItems.values :=
    (List.perm_insertionSort _ _).mem_iff.mp (hsublist.subset hwork)
  obtain ⟨id, hid⟩ := (OrderedDict.mem_values_iff ..).mp hmem
  refine eligibleWork_of_isEligible ?_ (hpassed work hwork)
  rw [hk.work_keyed id work hid]
  exact hid

/-- **What a plan found**: the execution that it requests is one of eligible work. -/
theorem eligibleExecution_of_planDispatch {d : Dispatcher} (hk : d.system.kernel.Consistent)
    (hregistry : d.RegistryKeyed) {call : DispatchCall} (hrouter : call.AsksRouter)
    {planned : List PlannedWork} (h : d.planDispatch call = .ok planned) {plan : PlannedWork}
    (hplan : plan ∈ planned) (executionId : Identifier) :
    d.system.kernel.EligibleExecution call (requestedExecution plan executionId) := by
  have hwork := eligibleWork_of_planDispatch hk h hplan
  obtain ⟨_, -, h⟩ := Checked.bind_eq_ok_iff.mp h
  obtain ⟨registry, hfound, h⟩ := Checked.bind_eq_ok_iff.mp h
  obtain ⟨_, -, h⟩ := Checked.bind_eq_ok_iff.mp h
  obtain ⟨_, -, h⟩ := Checked.bind_eq_ok_iff.mp h
  obtain ⟨publishedByRoute, hpublished, h⟩ := Checked.bind_eq_ok_iff.mp h
  obtain ⟨eligible, -, h⟩ := Checked.bind_eq_ok_iff.mp h
  have hkeyed := hregistry registry (Checked.orRaise_eq_ok_iff.mp hfound)
  obtain ⟨work, -, hmade⟩ := exists_of_forall₂ (Checked.mapM_eq_ok h) hplan
  rw [workItem_of_planWork hmade] at hwork
  simp only [planWork, Checked.orRaise_bind_eq_ok_iff, Checked.check_bind_eq_ok_iff] at hmade
  obtain ⟨binding, -, snapshot, hsnapshot, hcursor, hmade⟩ := hmade
  obtain ⟨candidateKey, hselected, hmade⟩ := Checked.bind_eq_ok_iff.mp hmade
  obtain ⟨candidate, hcandidate, hmade⟩ := Checked.orRaise_bind_eq_ok_iff.mp hmade
  obtain ⟨_, -, hmade⟩ := Checked.bind_eq_ok_iff.mp hmade
  obtain rfl := Checked.pure_eq_ok_iff.mp hmade
  have hofRoute := get?_publishedByRoute hpublished
  obtain ⟨hin, hstate, hroute⟩ := (hofRoute _ _).mp hsnapshot
  obtain ⟨router, hasks⟩ := hrouter work.workItemId
  rw [hasks] at hselected
  obtain ⟨selected, hselect, rfl⟩ := Checked.map_eq_ok_iff.mp hselected
  refine ⟨work, hwork, rfl, rfl, snapshot,
    ⟨hin, hstate, fun other hother hpublishedOther hsame => ?_⟩, hroute, hcursor, ?_⟩
  · have hfoundOther := (hofRoute work.routeKey other).mpr
      ⟨hother, hpublishedOther, hsame.trans hroute⟩
    exact Option.some.inj (hfoundOther.symm.trans hsnapshot)
  · change candidate.key ∈ snapshot.candidateKeys
    rw [hkeyed _ _ hcandidate]
    exact (ScoringRouter.selectProduction_spec hselect).2.1

end Plans

/-! ### Creating executions -/

/-- An execution apart from the name of its agent. -/
def Execution.unnamed (execution : Execution) : Execution := { execution with agentName := none }

namespace Kernel

/-- The execution of a name, apart from the name of its agent. -/
def runOf? (k : Kernel) (id : String) : Option Execution :=
  (k.executions.get? id).map Execution.unnamed

/-- **A Kernel as the creations of some plans leave it**: work items, dependencies, route snapshots
and the executions that were there are the same, and each new execution is the one that a plan
requests, at most one for each work item. -/
structure StartedFrom (k : Kernel) (planned : List PlannedWork) (next : Kernel) : Prop where
  data_space : next.dataSpace = k.dataSpace
  activation : next.activation = k.activation
  nodes : next.nodes = k.nodes
  work_items : next.workItems = k.workItems
  work_edges : next.workEdges = k.workEdges
  route_snapshots : next.routeSnapshots = k.routeSnapshots
  kept : ∀ id execution, k.runOf? id = some execution → next.runOf? id = some execution
  started : ∀ id execution, next.runOf? id = some execution → k.runOf? id = none →
    ∃ plan ∈ planned, execution = requestedExecution plan id
  once : ∀ id other execution known, next.runOf? id = some execution →
    next.runOf? other = some known → k.runOf? id = none → k.runOf? other = none →
    execution.workItemId = known.workItemId → id = other

/-- Each of the plans has its new execution. -/
def AllStarted (k : Kernel) (planned : List PlannedWork) (next : Kernel) : Prop :=
  ∀ plan ∈ planned, ∃ id, next.runOf? id = some (requestedExecution plan id) ∧ k.runOf? id = none

namespace StartedFrom

variable {k mid next : Kernel} {planned : List PlannedWork} {plan : PlannedWork}

theorem refl (k : Kernel) : k.StartedFrom [] k where
  data_space := rfl
  activation := rfl
  nodes := rfl
  work_items := rfl
  work_edges := rfl
  route_snapshots := rfl
  kept _ _ h := h
  started _ _ hsome hnone := by cases hnone.symm.trans hsome
  once _ _ _ _ hsome _ hnone _ _ := by cases hnone.symm.trans hsome

theorem mono (h : k.StartedFrom planned next) {more : List PlannedWork} (hle : planned ⊆ more) :
    k.StartedFrom more next :=
  { h with
    started := fun id execution hsome hnone => by
      obtain ⟨plan, hplan, heq⟩ := h.started id execution hsome hnone
      exact ⟨plan, hle hplan, heq⟩ }

/-- An event that leaves all this alone. -/
theorem of_same (h : k.StartedFrom planned mid) (hspace : next.dataSpace = mid.dataSpace)
    (hactivation : next.activation = mid.activation) (hnodes : next.nodes = mid.nodes)
    (hitems : next.workItems = mid.workItems) (hedges : next.workEdges = mid.workEdges)
    (hsnapshots : next.routeSnapshots = mid.routeSnapshots)
    (hruns : ∀ id, next.runOf? id = mid.runOf? id) : k.StartedFrom planned next where
  data_space := hspace.trans h.data_space
  activation := hactivation.trans h.activation
  nodes := hnodes.trans h.nodes
  work_items := hitems.trans h.work_items
  work_edges := hedges.trans h.work_edges
  route_snapshots := hsnapshots.trans h.route_snapshots
  kept id execution hsome := (hruns id).trans (h.kept id execution hsome)
  started id execution hsome := h.started id execution ((hruns id).symm.trans hsome)
  once id other execution known hsome hother :=
    h.once id other execution known ((hruns id).symm.trans hsome)
      ((hruns other).symm.trans hother)

/-- The creation of an execution of another work item. -/
theorem created (h : k.StartedFrom planned mid) {id : Identifier}
    (hspace : next.dataSpace = mid.dataSpace) (hactivation : next.activation = mid.activation)
    (hnodes : next.nodes = mid.nodes) (hitems : next.workItems = mid.workItems)
    (hedges : next.workEdges = mid.workEdges)
    (hsnapshots : next.routeSnapshots = mid.routeSnapshots)
    (hruns : ∀ other, next.runOf? other =
      if id = other then some (requestedExecution plan id) else mid.runOf? other)
    (hfresh : mid.runOf? id = none)
    (hnew : ∀ other ∈ planned, other.workItem.workItemId ≠ plan.workItem.workItemId) :
    k.StartedFrom (planned ++ [plan]) next := by
  have hunknown : k.runOf? id = none := by
    cases hknown : k.runOf? id with
    | none => rfl
    | some execution => cases hfresh.symm.trans (h.kept id execution hknown)
  have hother {other : String} {execution : Execution} (hne : id ≠ other)
      (hsome : next.runOf? other = some execution) : mid.runOf? other = some execution := by
    rwa [hruns, if_neg hne] at hsome
  have hitself {execution : Execution} (hsome : next.runOf? id = some execution) :
      execution = requestedExecution plan id := by
    rw [hruns, if_pos rfl] at hsome
    exact (Option.some.inj hsome).symm
  -- An earlier execution is of an earlier plan, so of another work item.
  have hapart {other : String} {execution : Execution} (hne : id ≠ other)
      (hsome : next.runOf? other = some execution) (hnone : k.runOf? other = none) :
      execution.workItemId ≠ plan.workItem.workItemId := by
    obtain ⟨earlier, hearlier, rfl⟩ := h.started other execution (hother hne hsome) hnone
    exact hnew earlier hearlier
  refine ⟨hspace.trans h.data_space, hactivation.trans h.activation, hnodes.trans h.nodes,
    hitems.trans h.work_items, hedges.trans h.work_edges, hsnapshots.trans h.route_snapshots,
    fun other execution hsome => ?_, fun other execution hsome hnone => ?_,
    fun first second execution known hfirst hsecond hfirstNew hsecondNew hsame => ?_⟩
  · rw [hruns, if_neg]
    · exact h.kept other execution hsome
    · rintro rfl
      cases hunknown.symm.trans hsome
  · by_cases hid : id = other
    · subst hid
      exact ⟨plan, by simp, hitself hsome⟩
    · obtain ⟨earlier, hearlier, heq⟩ := h.started other execution (hother hid hsome) hnone
      exact ⟨earlier, List.mem_append_left _ hearlier, heq⟩
  · by_cases hid : id = first <;> by_cases hid' : id = second
    · exact hid.symm.trans hid'
    · subst hid
      rw [hitself hfirst] at hsame
      exact absurd hsame.symm (hapart hid' hsecond hsecondNew)
    · subst hid'
      rw [hitself hsecond] at hsame
      exact absurd hsame (hapart hid hfirst hfirstNew)
    · exact h.once first second execution known (hother hid hfirst) (hother hid' hsecond)
        hfirstNew hsecondNew hsame

/-- After the creation one more plan has its execution. -/
theorem allStarted (h : k.StartedFrom planned mid) (hall : k.AllStarted planned mid)
    {id : Identifier} (hruns : ∀ other, next.runOf? other =
      if id = other then some (requestedExecution plan id) else mid.runOf? other)
    (hfresh : mid.runOf? id = none) : k.AllStarted (planned ++ [plan]) next := by
  intro known hknown
  rcases List.mem_append.mp hknown with hold | hnew
  · obtain ⟨other, hsome, hnone⟩ := hall known hold
    refine ⟨other, ?_, hnone⟩
    rw [hruns, if_neg]
    · exact hsome
    · rintro rfl
      cases hfresh.symm.trans hsome
  · obtain rfl := List.mem_singleton.mp hnew
    refine ⟨id, by rw [hruns, if_pos rfl], ?_⟩
    cases hunknown : k.runOf? id with
    | none => rfl
    | some execution => cases hfresh.symm.trans (h.kept id execution hunknown)

end StartedFrom

end Kernel

section Starting

variable [Sha256] {k : Kernel} {s s' : MemorySystem} {event : EventEnvelope}
  {planned : List PlannedWork} {plan : PlannedWork}

omit [Sha256] in
/-- What the event of a creation adds. -/
private theorem runOf?_of_created (hs : s.KernelSynced) (hmirrored : s.Mirrored event s')
    {id : Identifier}
    (hpayload : event.payload = .kernel (.executionCreated (requestedExecution plan id))) :
    s.kernel.runOf? id = none ∧ ∀ other, s'.kernel.runOf? other =
      if id = other then some (requestedExecution plan id) else s.kernel.runOf? other := by
  obtain ⟨⟨-, -, -, hfresh, -⟩, happlied⟩ := hmirrored.stepped.kernel hpayload
  have hchanges := Kernel.changes_of_applyKernel hs.consistent happlied
  constructor
  · have hnone : s.kernel.executions.get? id = none :=
      (OrderedDict.contains_eq_false_iff ..).mp hfresh
    rw [Kernel.runOf?, hnone]
    rfl
  · intro other
    rw [Kernel.runOf?, hchanges.executions]
    change ((s.kernel.executions.set id _).get? other).map _ = _
    rw [OrderedDict.get?_set]
    split_ifs <;> rfl

omit [Sha256] in
/-- The creation of an execution of another work item. -/
theorem startedFrom_of_created (hs : s.KernelSynced) (h : k.StartedFrom planned s.kernel)
    (hmirrored : s.Mirrored event s') {id : Identifier}
    (hpayload : event.payload = .kernel (.executionCreated (requestedExecution plan id)))
    (hnew : ∀ other ∈ planned, other.workItem.workItemId ≠ plan.workItem.workItemId) :
    k.StartedFrom (planned ++ [plan]) s'.kernel := by
  have hchanges := Kernel.changes_of_applyKernel hs.consistent
    (hmirrored.stepped.kernel hpayload).2
  obtain ⟨hfresh, hruns⟩ := runOf?_of_created hs hmirrored hpayload
  exact h.created hchanges.data_space hchanges.activation hchanges.nodes hchanges.work_items
    hchanges.work_edges hchanges.route_snapshots hruns hfresh hnew

omit [Sha256] in
/-- Naming the agent of an execution changes nothing else. -/
theorem startedFrom_of_named (hs : s.KernelSynced) (h : k.StartedFrom planned s.kernel)
    (hmirrored : s.Mirrored event s') {assignment : AgentNameAssignment}
    (hpayload : event.payload = .kernel (.agentNameAssigned assignment)) :
    k.StartedFrom planned s'.kernel ∧
      ∀ id, s'.kernel.runOf? id = s.kernel.runOf? id := by
  have hchanges := Kernel.changes_of_applyKernel hs.consistent
    (hmirrored.stepped.kernel hpayload).2
  have hruns (id : String) : s'.kernel.runOf? id = s.kernel.runOf? id := by
    rw [Kernel.runOf?, hchanges.executions, Kernel.executionsAfter, OrderedDict.get?_modify]
    split_ifs with hid
    · subst hid
      rw [Option.map_map]
      rfl
    · rfl
  exact ⟨h.of_same hchanges.data_space hchanges.activation hchanges.nodes hchanges.work_items
    hchanges.work_edges hchanges.route_snapshots hruns, hruns⟩

/-- The system stays synced, and its Kernel is as the creations of the plans leave it. -/
def StartedSystem (k : Kernel) (planned : List PlannedWork) (d : Dispatcher) : Prop :=
  d.system.KernelSynced ∧ k.StartedFrom planned d.system.kernel

/-- Each of the plans has its new execution in the system. -/
def AllStartedIn (k : Kernel) (planned : List PlannedWork) (d : Dispatcher) : Prop :=
  StartedSystem k planned d ∧ k.AllStarted planned d.system.kernel

omit [Sha256] in
theorem StartedSystem.mono {d : Dispatcher} (h : StartedSystem k planned d)
    {more : List PlannedWork} (hle : planned ⊆ more) : StartedSystem k more d :=
  ⟨h.1, h.2.mono hle⟩

/-- **The creation of one execution.** -/
private theorem onKernel_createExecution {id : Identifier} {actorId key : String} (clock : Clock)
    (hnew : ∀ other ∈ planned, other.workItem.workItemId ≠ plan.workItem.workItemId) :
    EStateM.Triple (AllStartedIn k planned)
      (Dispatcher.onKernel (.createExecution (requestedExecution plan id) actorId key) clock)
      (fun _ => AllStartedIn k (planned ++ [plan]))
      (fun _ => StartedSystem k (planned ++ [plan])) := by
  refine .zoom fun d hd => .of_run fun s hread => ?_
  obtain ⟨⟨hs, hstarted⟩, hall⟩ := hd
  subst hread
  rw [KernelCommand.run]
  rcases performKernel_cases hs
      (fun k => k.createExecution (requestedExecution plan id) actorId key clock)
      (fun _ payload => payload = .executionCreated (requestedExecution plan id))
      (fun r h => ⟨_, _, rfl, Kernel.replayable_createExecution h⟩) with
    ⟨e, herror⟩ | ⟨event, s', ⟨_, hpayload, rfl, hmirrored⟩, hok⟩
  · exact Or.inl ⟨e, _, herror, hs, hstarted.mono (List.subset_append_left _ _)⟩
  · obtain ⟨hfresh, hruns⟩ := runOf?_of_created hs hmirrored hpayload
    exact Or.inr ⟨_, s', hok, ⟨System.kernelSynced_of_stepped hs hmirrored.stepped,
      startedFrom_of_created hs hstarted hmirrored hpayload hnew⟩,
      hstarted.allStarted hall hruns hfresh⟩

/-- Naming the agent of an execution keeps all this. -/
private theorem onKernel_recordAgentNameAssignment {assignment : AgentNameAssignment}
    {registry : AgentNameRegistry} {actorId key : String} (clock : Clock) :
    EStateM.Preserves (AllStartedIn k planned)
      (Dispatcher.onKernel (.recordAgentNameAssignment assignment registry actorId key) clock) := by
  refine .of_final fun d hd => ?_
  obtain ⟨⟨hs, hstarted⟩, hall⟩ := hd
  rw [Dispatcher.onKernel, onSystem, EStateM.finalState_zoom]
  have houtcome := KernelCommand.outcome hs
    (.recordAgentNameAssignment assignment registry actorId key) clock
  change AllStartedIn k planned { d with system := _ }
  generalize ((KernelCommand.recordAgentNameAssignment assignment registry actorId key).run
    clock).finalState d.system = s' at houtcome ⊢
  cases houtcome with
  | unchanged => exact ⟨⟨hs, hstarted⟩, hall⟩
  | recorded payload hpayload hrecords hmirrored =>
    obtain rfl := hrecords
    obtain ⟨hnamed, hruns⟩ := startedFrom_of_named hs hstarted hmirrored hpayload
    refine ⟨⟨System.kernelSynced_of_stepped hs hmirrored.stepped, hnamed⟩, fun plan hplan => ?_⟩
    obtain ⟨id, hsome, hnone⟩ := hall plan hplan
    exact ⟨id, (hruns id).trans hsome, hnone⟩

/-- **Starting one execution** of another work item. -/
theorem startedFrom_startExecution (call : DispatchCall) (clock : Clock)
    (hnew : ∀ other ∈ planned, other.workItem.workItemId ≠ plan.workItem.workItemId) :
    EStateM.Triple (AllStartedIn k planned) (startExecution call plan clock)
      (fun _ => AllStartedIn k (planned ++ [plan]))
      (fun _ => StartedSystem k (planned ++ [plan])) := by
  rw [startExecution]
  refine .bind (.conseq (preserves_allocateName (I := AllStartedIn k planned) (fun _ _ hd => hd)
    call plan _) (fun _ hd => hd) (fun _ _ hd => hd)
    fun _ _ hd => hd.1.mono (List.subset_append_left _ _)) fun assigned => ?_
  refine .bind (onKernel_createExecution clock hnew) fun _ => ?_
  cases assigned with
  | none => exact .pure fun _ hd => hd
  | some assigned =>
    exact .bind (.conseq (onKernel_recordAgentNameAssignment _) (fun _ hd => hd)
      (fun _ _ hd => hd) fun _ _ hd => hd.1) fun _ => .pure fun _ hd => hd

/-- **Starting the executions of a plan**, one work item after the other. -/
theorem startedFrom_startExecutions (call : DispatchCall) :
    ∀ (rest planned : List PlannedWork) (clock : Clock),
      ((planned ++ rest).map (·.workItem.workItemId)).Nodup →
      EStateM.Triple (AllStartedIn k planned) (startExecutions call rest clock)
        (fun _ => AllStartedIn k (planned ++ rest)) (fun _ => StartedSystem k (planned ++ rest))
  | [], planned, _, _ => by
    rw [List.append_nil]
    exact .pure fun _ hd => hd
  | plan :: rest, planned, clock, hnodup => by
    have hsplit : planned ++ plan :: rest = planned ++ [plan] ++ rest := by simp
    have hnew : ∀ other ∈ planned, other.workItem.workItemId ≠ plan.workItem.workItemId := by
      intro other hother heq
      rw [List.map_append, List.nodup_append] at hnodup
      exact hnodup.2.2 _ (List.mem_map_of_mem hother) _ (List.mem_map_of_mem List.mem_cons_self)
        heq
    rw [startExecutions, hsplit]
    refine .bind (.conseq (startedFrom_startExecution call clock hnew) (fun _ hd => hd)
      (fun _ _ hd => hd) fun _ _ hd => hd.mono (List.subset_append_left _ _)) fun execution => ?_
    exact .bind (startedFrom_startExecutions call rest (planned ++ [plan]) _ (hsplit ▸ hnodup))
      fun _ => .pure fun _ hd => hd

end Starting

/-! ### Dispatches -/

section Dispatches

variable [Sha256]

/-- **A sound dispatch**, whether it returns or raises: it leaves work items, dependencies and route
snapshots alone, each execution that it created is one of eligible work, and no other execution of
that work item is in flight afterwards. -/
structure DispatchSound (d : Dispatcher) (call : DispatchCall) (clock : Clock) : Prop where
  work_items : ((dispatchReady call clock).finalState d).system.kernel.workItems =
    d.system.kernel.workItems
  work_edges : ((dispatchReady call clock).finalState d).system.kernel.workEdges =
    d.system.kernel.workEdges
  route_snapshots : ((dispatchReady call clock).finalState d).system.kernel.routeSnapshots =
    d.system.kernel.routeSnapshots
  created : ∀ id execution,
    ((dispatchReady call clock).finalState d).system.kernel.executions.get? id = some execution →
    d.system.kernel.executions.get? id = none → d.system.kernel.EligibleExecution call execution
  one_each : ∀ id execution other known,
    ((dispatchReady call clock).finalState d).system.kernel.executions.get? id = some execution →
    d.system.kernel.executions.get? id = none →
    ((dispatchReady call clock).finalState d).system.kernel.executions.get? other = some known →
    known.workItemId = execution.workItemId →
    known.state = .requested ∨ known.state = .active → other = id

/-- The system after a dispatch: nothing happened, or the plans were started. -/
theorem startedSystem_dispatchReady {d : Dispatcher} (hs : d.system.KernelSynced)
    (call : DispatchCall) (clock : Clock) :
    ((dispatchReady call clock).finalState d).system = d.system ∨
      ∃ planned, d.planDispatch call = .ok planned ∧
        StartedSystem d.system.kernel planned ((dispatchReady call clock).finalState d) := by
  rw [dispatchReady, EStateM.finalState_get_bind]
  cases hplan : d.planDispatch call with
  | error e => exact Or.inl rfl
  | ok planned =>
    refine Or.inr ⟨planned, rfl, ?_⟩
    rw [EStateM.finalState_ofExcept_ok_bind]
    have hstart := startedFrom_startExecutions (k := d.system.kernel) call planned [] clock
      (planDispatch_spec hs.consistent hplan).1
    rw [List.nil_append] at hstart
    refine EStateM.Triple.final (Q := StartedSystem d.system.kernel planned)
      (.bind (.conseq hstart (fun _ hd => hd) (fun _ _ hd => hd.1) fun _ _ hd => hd)
        fun executions => ?_) ⟨⟨hs, .refl _⟩, fun _ hmem => by cases hmem⟩
    exact preserves_handOver (I := StartedSystem d.system.kernel planned)
      (fun d d' hsystem _ hd => by rwa [StartedSystem, hsystem]) call executions

end Dispatches

section Soundness

variable [Sha256]

/-- **A dispatch is sound** in a synced system. -/
theorem dispatchSound {d : Dispatcher} (hs : d.system.KernelSynced)
    (hregistry : d.RegistryKeyed) {call : DispatchCall} (hrouter : call.AsksRouter)
    (clock : Clock) : DispatchSound d call clock := by
  rcases startedSystem_dispatchReady hs call clock with hsame | ⟨planned, hplan, -, hstarted⟩
  · constructor
    · rw [hsame]
    · rw [hsame]
    · rw [hsame]
    · intro id execution hget hnone
      rw [hsame] at hget
      cases hnone.symm.trans hget
    · intro id execution _ _ hget hnone
      rw [hsame] at hget
      cases hnone.symm.trans hget
  generalize hnext : ((dispatchReady call clock).finalState d).system.kernel = next at hstarted
  have hfound {id : String} {execution : Execution}
      (hget : next.executions.get? id = some execution)
      (hnone : d.system.kernel.executions.get? id = none) :
      d.system.kernel.EligibleExecution call execution := by
    obtain ⟨plan, hmem, heq⟩ := hstarted.started id execution.unnamed
      (by rw [Kernel.runOf?, hget]; rfl) (by rw [Kernel.runOf?, hnone]; rfl)
    have heligible :=
      eligibleExecution_of_planDispatch hs.consistent hregistry hrouter hplan hmem id
    rw [← heq] at heligible
    exact ⟨heligible.eligible⟩
  refine ⟨by rw [hnext]; exact hstarted.work_items, by rw [hnext]; exact hstarted.work_edges,
    by rw [hnext]; exact hstarted.route_snapshots, fun id execution hget hnone => ?_,
    fun id execution other known hget hnone hknown hwork hflight => ?_⟩
  · rw [hnext] at hget
    exact hfound hget hnone
  · rw [hnext] at hget hknown
    cases hold : d.system.kernel.executions.get? other with
    | none =>
      exact hstarted.once other id known.unnamed execution.unnamed
        (by rw [Kernel.runOf?, hknown]; rfl) (by rw [Kernel.runOf?, hget]; rfl)
        (by rw [Kernel.runOf?, hold]; rfl) (by rw [Kernel.runOf?, hnone]; rfl) hwork
    | some before =>
      -- An execution that was there kept its work item and its state, and the work was idle.
      obtain ⟨work, heligible, hof, -⟩ := (hfound hget hnone).eligible
      have hkept := hstarted.kept other before.unnamed (by rw [Kernel.runOf?, hold]; rfl)
      rw [Kernel.runOf?, hknown] at hkept
      have hsame : known.unnamed = before.unnamed := Option.some.inj hkept
      have hstate : known.unnamed.state = before.unnamed.state := by rw [hsame]
      have hitem : known.unnamed.workItemId = before.unnamed.workItemId := by rw [hsame]
      obtain ⟨hrequested, hactive⟩ := heligible.idle other before hold
        (hitem.symm.trans (hwork.trans hof))
      rcases hflight with hflight | hflight
      · exact absurd (hstate.symm.trans hflight) hrequested
      · exact absurd (hstate.symm.trans hflight) hactive

/-- **Dispatch eligibility.** In every state that a host reaches, a dispatch creates executions of
eligible work alone, and at most one of each work item, whether it returns or raises. -/
theorem dispatchSound_run (dataSpace : DataSpace) (processes : List (ProcessCommand × Clock))
    (d : Dispatcher) (hsystem : d.system = runProcesses (.new dataSpace) processes)
    (hregistry : d.RegistryKeyed) (inputs : List (HostInput × Clock)) (call : DispatchCall)
    (hrouter : call.AsksRouter) (clock : Clock) :
    DispatchSound (runHost d inputs) call clock := by
  have hsynced : d.system.KernelSynced := by
    rw [hsystem]
    exact (syncedIn_runProcesses dataSpace processes).1.toKernelSynced
  refine dispatchSound (kernelSynced_keptByHost.run hsynced inputs) (fun registry hfound => ?_)
    hrouter clock
  rw [modelRegistry_runHost] at hfound
  exact hregistry registry hfound

/-- A router that knows the one candidate. -/
def companyRouter : ScoringRouter where
  qualityWeight := 1
  costWeight := 0
  latencyWeight := 0
  posteriors := .ofList [("candidate-a",
    { candidate := ⟨companyCandidate, .exact, "high"⟩
      success := ⟨2, 1⟩
      tokens := ⟨0, 1, 1, 1⟩
      cost := ⟨0, 1, 1, 1⟩
      latency := ⟨0, 1, 1, 1⟩
      verifiedSamples := 0
      deterministicOrHumanSamples := 0 })]

/-- A dispatch of all ready work that asks the router. -/
def routedDispatch : DispatchCall :=
  { companyDispatch "dispatch:1" "execution:1" with
    answers :=
      { (companyDispatch "dispatch:1" "execution:1").answers with
        selectProduction := fun _ snapshot =>
          (companyRouter.selectProduction snapshot).map (·.candidateKey) } }

omit [Sha256] in
/-- A dispatch of the company's work. -/
theorem dispatchSound_company :
    letI := Sha256.polynomial
    DispatchSound (runHost companyDispatcher
      (readyCompany.map fun input => (.shared (.service input.1), input.2))) routedDispatch
      fun _ => 0 := by
  let := Sha256.polynomial
  refine dispatchSound_run companySpace [] companyDispatcher rfl ?_ _ routedDispatch
    (fun _ => ⟨companyRouter, fun _ => rfl⟩) _
  intro registry hfound key candidate hget
  obtain rfl := Option.some.inj hfound
  change (OrderedDict.empty.set "candidate-a" companyCandidate).get? key = some candidate at hget
  rw [OrderedDict.get?_set] at hget
  split_ifs at hget with hkey
  · rw [← Option.some.inj hget]
    exact hkey
  · cases hget

end Soundness

end Nanihold
