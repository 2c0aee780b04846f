import Nanihold.Library.Acyclic
import Nanihold.Replay.Runs

/-!
# Dependencies over runs

`add_dependency` searches for a path back before it adds an edge, so it closes no cycle. A
snapshot of the current work graph is imported with its edges as they are, and a cycle among
them stays: work items on it wait for one another for good.

## Main definitions

* `DependsOn` — a dependency edge between two work items.
* `DependencyLaw` — no cycle, and every set of unfinished work items holds one that depends on
  none of the set.
* `ImportsAcyclic` — the dependencies of an import form no cycle.
* `RefusesCycle` — `add_dependency` refuses to close a cycle.

## Main results

* `dependencyLaw_of_importsAcyclic` — the law in runs of such imports.
* `addDependency_refusesCycle` — when the search refuses a dependency.
-/

namespace Nanihold

open Reachability (Acyclic)

/-- The first work item depends on the second. -/
def DependsOn (edges : List WorkEdge) (workItemId dependsOnId : String) : Prop :=
  (⟨workItemId, dependsOnId, .dependsOn⟩ : WorkEdge) ∈ edges

instance (edges : List WorkEdge) (workItemId dependsOnId : String) :
    Decidable (DependsOn edges workItemId dependsOnId) :=
  inferInstanceAs (Decidable (_ ∈ _))

/-- The dependencies form no cycle, and every set of unfinished work items holds one whose
dependencies are not in the set. -/
def DependencyLaw (k : Kernel) : Prop :=
  Acyclic (DependsOn k.workEdges) ∧
    ∀ S : Set String, S.Nonempty →
      (∀ id ∈ S, ∃ work, k.workItems.get? id = some work ∧ work.state ≠ .completed) →
        ∃ id ∈ S, ∀ dependsOnId, DependsOn k.workEdges id dependsOnId → dependsOnId ∉ S

/-- The dependencies form no cycle and are between known work items. -/
structure DependenciesOrdered (k : Kernel) : Prop where
  acyclic : Acyclic (DependsOn k.workEdges)
  known : ∀ x y, DependsOn k.workEdges x y →
    k.workItems.contains x = true ∧ k.workItems.contains y = true

theorem DependenciesOrdered.law {k : Kernel} (h : DependenciesOrdered k) : DependencyLaw k := by
  refine ⟨h.acyclic, fun S hS hunfinished => ?_⟩
  have hfinite : S.Finite := by
    refine (List.finite_toSet k.workItems.keys).subset fun id hid => ?_
    obtain ⟨work, hget, -⟩ := hunfinished id hid
    exact (OrderedDict.mem_keys_iff _ _).mpr ((OrderedDict.contains_iff _ _).mpr ⟨work, hget⟩)
  obtain ⟨id, hid, hmin⟩ := h.acyclic.exists_minimal hfinite hS
  exact ⟨id, hid, fun dependsOnId hedge hmem => hmin dependsOnId hmem hedge⟩

/-- The dependencies of the imported graph form a cycle. -/
def ImportsCycle (_ : Kernel) (_ : String) : KernelPayload → Prop
  | .currentWorkGraphImported snapshot => ¬ Acyclic (DependsOn snapshot.edges)
  | _ => False

section Events

variable {k : Kernel} {event : EventEnvelope}

theorem dependsOn_append {edges more : List WorkEdge} {x y : String} :
    DependsOn (edges ++ more) x y ↔ DependsOn edges x y ∨ DependsOn more x y :=
  List.mem_append

/-- The edges to a parent are no dependencies. -/
theorem not_dependsOn_decompositionEdges (work : WorkItem) (x y : String) :
    ¬ DependsOn (decompositionEdges work) x y := by
  rw [DependsOn, decompositionEdges]
  cases work.parentWorkItemId <;> simp

/-- The search of `add_dependency` runs along the dependencies. -/
theorem edge_dependencies_iff {x y : String} :
    Reachability.Edge k.dependencies x y ↔ DependsOn k.workEdges x y := by
  rw [Reachability.Edge, Kernel.dependencies, List.mem_map]
  constructor
  · rintro ⟨⟨source, target, kind⟩, hmem, heq⟩
    obtain ⟨hedge, hkind⟩ := List.mem_filter.mp hmem
    obtain rfl : kind = .dependsOn := of_decide_eq_true hkind
    obtain ⟨rfl, rfl⟩ := Prod.mk.inj heq
    exact hedge
  · intro hedge
    exact ⟨⟨x, y, .dependsOn⟩, List.mem_filter.mpr ⟨hedge, rfl⟩, rfl⟩

private theorem acyclic_added {edge : WorkEdge} (h : DependenciesOrdered k)
    (hpermits : k.Permits event (.workDependencyAdded edge)) :
    Acyclic (DependsOn (k.workEdges ++ [edge])) := by
  obtain ⟨source, target, kind⟩ := edge
  obtain ⟨-, rfl, -, -, -, -, hsearch⟩ := hpermits
  have hpath := Reachability.not_reaches_of_search hsearch
  have hnot : ¬ Relation.ReflTransGen (DependsOn k.workEdges) target source := fun hreach =>
    hpath (Relation.ReflTransGen.mono (fun x y hedge => edge_dependencies_iff.mpr hedge) _ _ hreach)
  refine (h.acyclic.insert hnot).mono fun x y hedge => ?_
  rcases dependsOn_append.mp hedge with hold | hnew
  · exact Or.inl hold
  · injection List.mem_singleton.mp hnew with hx hy
    exact Or.inr ⟨hx, hy⟩

private theorem acyclic_imported {snapshot : CurrentWorkGraphSnapshot}
    (h : DependenciesOrdered k) (hpermits : k.Permits event (.currentWorkGraphImported snapshot))
    (hacyclic : Acyclic (DependsOn snapshot.edges)) :
    Acyclic (DependsOn (k.workEdges ++ snapshot.edges)) := by
  obtain ⟨-, -, -, -, hfresh, -, hedges⟩ := hpermits
  -- An imported work item is new, so no edge between known work items touches it.
  have hnew {id : String} (hid : id ∈ snapshot.workItems.map (·.workItemId)) :
      k.workItems.contains id = false := by
    obtain ⟨work, hmem, rfl⟩ := List.mem_map.mp hid
    exact hfresh work hmem
  refine (h.acyclic.union hacyclic ?_ ?_).mono fun x y hedge => dependsOn_append.mp hedge
  · intro x y z hxy hyz
    have hknown := (h.known x y hxy).2
    rw [hnew (hedges _ hyz).1] at hknown
    exact nomatch hknown
  · intro x y z hxy hyz
    have hknown := (h.known y z hyz).1
    rw [hnew (hedges _ hxy).2] at hknown
    exact nomatch hknown

end Events

/-! ### The answer of the search -/

/-- The errors with which `add_dependency` refuses to close a cycle. -/
def cycleErrors : List VsmError :=
  [.invariantViolation "a WorkItem cannot depend on itself",
    .invariantViolation "WorkItem dependency would create a cycle"]

/-- `add_dependency` refuses to close a cycle. -/
def RefusesCycle (k : Kernel) (workItemId dependsOnId actorId key : String) (clock : Clock) :
    Prop :=
  ∃ e ∈ cycleErrors, k.addDependency workItemId dependsOnId actorId key clock = .error e

section Search

variable {k : Kernel} {workItemId dependsOnId actorId key : String} {clock : Clock}

theorem dependencySearch_eq_some_false_iff :
    k.dependencySearch workItemId dependsOnId = some false ↔
      ¬ Relation.ReflTransGen (DependsOn k.workEdges) dependsOnId workItemId := by
  have hedge : Reachability.Edge k.dependencies = DependsOn k.workEdges :=
    funext fun x => funext fun y => propext edge_dependencies_iff
  rw [Kernel.dependencySearch, Reachability.search_eq_some_false_iff
    (k.dependencySearch_isSome workItemId dependsOnId), hedge]

variable (actorId key clock) in
private theorem addDependency_of_new
    (hknown : k.workItems.contains workItemId = true ∧ k.workItems.contains dependsOnId = true)
    (hne : workItemId ≠ dependsOnId) (hnew : ¬ DependsOn k.workEdges workItemId dependsOnId) :
    (k.addDependency workItemId dependsOnId actorId key clock =
        .error (.invariantViolation "WorkItem dependency would create a cycle") ↔
      Relation.ReflTransGen (DependsOn k.workEdges) dependsOnId workItemId) ∧
    k.addDependency workItemId dependsOnId actorId key clock ≠
      .error (.invariantViolation "a WorkItem cannot depend on itself") := by
  have hnew : (⟨workItemId, dependsOnId, .dependsOn⟩ : WorkEdge) ∉ k.workEdges := hnew
  rw [Kernel.addDependency, require, Checked.check_bind_of hknown, require,
    Checked.check_bind_of hne]
  dsimp only
  rw [require, Checked.check_bind_of hnew, require]
  by_cases hsearch : k.dependencySearch workItemId dependsOnId = some false
  · rw [Checked.check_bind_of hsearch]
    exact ⟨iff_of_false (fun h => by cases h) (dependencySearch_eq_some_false_iff.mp hsearch),
      fun h => by cases h⟩
  · rw [Checked.check_bind_of_not hsearch]
    constructor
    · refine iff_of_true rfl (not_not.mp fun hnot => ?_)
      exact hsearch (dependencySearch_eq_some_false_iff.mpr hnot)
    · intro h
      injection Except.error.inj h with hmessage
      exact absurd hmessage (by decide)

private theorem refusesCycle_iff
    (hknown : k.workItems.contains workItemId = true ∧ k.workItems.contains dependsOnId = true)
    (hnew : ¬ DependsOn k.workEdges workItemId dependsOnId) :
    RefusesCycle k workItemId dependsOnId actorId key clock ↔
      dependsOnId = workItemId ∨
        Relation.TransGen (DependsOn k.workEdges) dependsOnId workItemId := by
  rw [RefusesCycle, cycleErrors]
  by_cases hself : workItemId = dependsOnId
  · refine iff_of_true ⟨_, List.mem_cons_self, ?_⟩ (Or.inl hself.symm)
    rw [Kernel.addDependency, require, Checked.check_bind_of hknown, require,
      Checked.check_bind_of_not (not_not.mpr hself)]
  · obtain ⟨hcycle, hother⟩ := addDependency_of_new actorId key clock hknown hself hnew
    have hreach := Relation.reflTransGen_iff_eq_or_transGen (r := DependsOn k.workEdges)
      (a := dependsOnId) (b := workItemId)
    rw [or_iff_right hself] at hreach
    rw [or_iff_right (Ne.symm hself), ← hreach, ← hcycle]
    simp only [List.mem_cons, List.not_mem_nil, or_false, exists_eq_or_imp, exists_eq_left]
    exact or_iff_right hother

end Search

/-- **Every event but such an import** keeps the dependencies in order. -/
theorem dependenciesOrdered_kept : Kernel.KeptExcept ImportsCycle DependenciesOrdered where
  changes := by
    intro k event payload next _ h hpermits hchanges hnot
    have hkept {id : String} (hid : k.workItems.contains id = true) :
        next.workItems.contains id = true := by
      rw [hchanges.work_items]
      exact Kernel.contains_workItemsAfter hid
    have hsame {x y : String} (hedge : DependsOn k.workEdges x y) :
        next.workItems.contains x = true ∧ next.workItems.contains y = true :=
      ⟨hkept (h.known x y hedge).1, hkept (h.known x y hedge).2⟩
    have hedges := hchanges.work_edges
    cases payload <;> simp only [Kernel.workEdgesAfter] at hedges
    case workItemCreated work =>
      have hold {x y : String} (hedge : DependsOn next.workEdges x y) :
          DependsOn k.workEdges x y := by
        rw [hedges, dependsOn_append] at hedge
        exact hedge.resolve_right (not_dependsOn_decompositionEdges work x y)
      exact ⟨h.acyclic.mono fun x y hedge => hold hedge, fun x y hedge => hsame (hold hedge)⟩
    case workDependencyAdded edge =>
      refine ⟨hedges ▸ acyclic_added h hpermits, fun x y hedge => ?_⟩
      rw [hedges, dependsOn_append] at hedge
      rcases hedge with hold | hnew
      · exact hsame hold
      · obtain ⟨-, -, -, -, hsource, htarget, -⟩ := hpermits
        obtain rfl := List.mem_singleton.mp hnew
        exact ⟨hkept hsource, hkept htarget⟩
    case currentWorkGraphImported snapshot =>
      refine ⟨hedges ▸ acyclic_imported h hpermits (not_not.mp hnot), fun x y hedge => ?_⟩
      rw [hedges, dependsOn_append] at hedge
      rcases hedge with hold | hnew
      · exact hsame hold
      · obtain ⟨-, -, -, -, -, -, hends⟩ := hpermits
        have himported {id : String} (hid : id ∈ snapshot.workItems.map (·.workItemId)) :
            next.workItems.contains id = true := by
          obtain ⟨work, hmem, rfl⟩ := List.mem_map.mp hid
          rw [hchanges.work_items, Kernel.workItemsAfter, OrderedDict.contains_update]
          exact Or.inr (List.mem_map.mpr ⟨_, List.mem_map.mpr ⟨work, hmem, rfl⟩, rfl⟩)
        exact ⟨himported (hends _ hnew).1, himported (hends _ hnew).2⟩
    all_goals exact ⟨hedges ▸ h.acyclic, fun x y hedge => hsame (hedges ▸ hedge)⟩
  collections _ _ h := ⟨h.acyclic, h.known⟩
  created _ _ h := h
  promoted _ _ _ h := h

variable [Sha256]

/-- The dependencies of an import that is recorded form no cycle. -/
def ImportsAcyclic (s : MemorySystem) (input : ServiceCommand × Clock) : Prop :=
  ∀ snapshot, AcceptsImport s input snapshot → Acyclic (DependsOn snapshot.edges)

/-- **Dependencies** form no cycle in every run of such imports. -/
theorem dependencyLaw_of_importsAcyclic (dataSpace : DataSpace)
    (inputs : List (ServiceCommand × Clock))
    (hc : Run.Along ServiceCommand.step ImportsAcyclic (.new dataSpace) inputs) :
    DependencyLaw (runCommands (.new dataSpace) inputs).kernel := by
  have hnone (x y : String) : ¬ DependsOn [] x y := List.not_mem_nil
  have hnew : DependenciesOrdered (.new dataSpace) :=
    ⟨Reachability.acyclic_of_forall_not hnone, fun x y hedge => absurd hedge (hnone x y)⟩
  refine (dependenciesOrdered_kept.run ?_ (System.kernelSynced_new dataSpace) hnew hc).law
  · intro s c clock hc streamId payload hrecords hdefect
    cases payload <;> simp only [ImportsCycle] at hdefect
    case currentWorkGraphImported snapshot =>
      exact unchanged_of_not_acceptsImport hrecords fun haccepts =>
        hdefect (hc snapshot haccepts)

/-! ### A cycle of two work items -/

theorem importsAcyclic_of_ne {s : MemorySystem} {input : ServiceCommand × Clock}
    (h : ∀ snapshot actorId key,
      input.1 ≠ .kernel (.importCurrentWorkGraph snapshot actorId key)) :
    ImportsAcyclic s input :=
  fun snapshot ⟨actorId, key, _, heq, _⟩ => absurd heq (h snapshot actorId key)

/-- A second work item. -/
def followingWork : WorkItem := { proposedWork with workItemId := "work:2" }

/-- The company's work graph is imported, and a second work item depends on the first. -/
def dependentRun : List (ServiceCommand × Clock) :=
  [(.kernel (.importCurrentWorkGraph companyGraph "owner:1" "graph:1"), fun _ => 0),
    (.kernel (.createWorkItem followingWork "owner:1" "work:2"), fun _ => 0),
    (.kernel (.addDependency "work:2" "work:1" "owner:1" "depends:1"), fun _ => 0)]

omit [Sha256] in
/-- The dependency is there, and there is no cycle. -/
theorem dependencyLaw_of_dependentRun :
    letI := Sha256.polynomial
    DependencyLaw (runCommands (.new companySpace) dependentRun).kernel ∧
      DependsOn (runCommands (.new companySpace) dependentRun).kernel.workEdges "work:2"
        "work:1" := by
  let := Sha256.polynomial
  refine ⟨dependencyLaw_of_importsAcyclic companySpace _ ⟨?_, ?_, ?_, trivial⟩, by decide +kernel⟩
  · rintro snapshot ⟨actorId, key, r, heq, -⟩
    injection heq with heq
    injection heq with hgraph
    rw [← hgraph]
    exact Reachability.acyclic_of_forall_not fun _ _ => List.not_mem_nil
  · exact importsAcyclic_of_ne (by simp)
  · exact importsAcyclic_of_ne (by simp)

/-- The two work items depend on each other. -/
def mutualEdges : List WorkEdge :=
  [⟨"work:1", "work:2", .dependsOn⟩, ⟨"work:2", "work:1", .dependsOn⟩]

/-- A work graph in which they do. -/
def cyclicGraph : CurrentWorkGraphSnapshot where
  snapshotId := "graph:1"
  dataSpaceId := "space:company-1"
  capturedAt := 0
  nodes := [ownerNode]
  workItems := [proposedWork, followingWork]
  edges := mutualEdges
  snapshotSha256 := Sha256.polynomial.hexdigest
    (.workGraph "graph:1" "space:company-1" 0 [ownerNode] [proposedWork, followingWork]
      mutualEdges)
  node_ids_unique := companyGraph.node_ids_unique
  work_ids_unique := by decide
  has_incomplete_work := by decide
  edges_unique := by decide

/-- The work graph is imported. -/
def cyclicRun : List (ServiceCommand × Clock) :=
  [(.kernel (.importCurrentWorkGraph cyclicGraph "owner:1" "graph:1"), fun _ => 0)]

omit [Sha256] in
private theorem cyclicRun_edges :
    letI := Sha256.polynomial
    DependsOn (runCommands (.new companySpace) cyclicRun).kernel.workEdges "work:1" "work:2" ∧
      DependsOn (runCommands (.new companySpace) cyclicRun).kernel.workEdges "work:2"
        "work:1" := by
  decide +kernel

omit [Sha256] in
/-- The imported work items depend on each other. -/
theorem cyclicRun_breaks_dependencyLaw :
    letI := Sha256.polynomial
    ¬ DependencyLaw (runCommands (.new companySpace) cyclicRun).kernel := by
  let := Sha256.polynomial
  rintro ⟨hacyclic, -⟩
  obtain ⟨hfirst, hsecond⟩ := cyclicRun_edges
  exact hacyclic "work:1" (.tail (.single hfirst) hsecond)

end Nanihold
