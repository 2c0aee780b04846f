import Nanihold.Library.Forest
import Nanihold.Replay.Runs

/-!
# The node tree and the work tree over runs

Nodes and work items each name a parent, and a work item is tied to its parent by a delegation
edge and an integration edge. A new work item gets its edges from `create_work_item`, which also
accepts an identifier that exists; the import of the current work graph takes over parents,
edges and integration owners of a snapshot as they are.

## Main definitions

* `Tied` — the edges between a work item and its parent.
* `TreeLaw` — both trees are forests and every child is tied to its parent.
* `CurrentWorkGraphSnapshot.TreeShaped` — a snapshot that brings such trees along.
* `Kernel.ReplacesInTree` — a work item that may be created again.

## Main results

* `treeLaw_of_keepsTrees` — the law in runs that keep the trees.
-/

namespace Nanihold

open Forest (ChildOf)

/-! ### The law -/

/-- The parents of the nodes. -/
def Kernel.nodeParents (k : Kernel) (nodeId : String) : Option (Option String) :=
  (k.nodes.get? nodeId).map (·.parentNodeId)

/-- The parents of the work items. -/
def Kernel.workParents (k : Kernel) (workItemId : String) : Option (Option String) :=
  (k.workItems.get? workItemId).map (·.parentWorkItemId)

/-- The delegation edges to a work item. -/
def delegationsTo (edges : List WorkEdge) (workItemId : String) : List WorkEdge :=
  edges.filter fun edge => edge.kind = .delegatedTo ∧ edge.targetWorkItemId = workItemId

/-- The integration edges from a work item. -/
def integrationsFrom (edges : List WorkEdge) (workItemId : String) : List WorkEdge :=
  edges.filter fun edge => edge.kind = .integratedBy ∧ edge.sourceWorkItemId = workItemId

/-- One delegation edge leads to the child and one integration edge leaves it, from and to this
parent. -/
structure Tied (edges : List WorkEdge) (child parent : String) : Prop where
  delegated : delegationsTo edges child = [⟨parent, child, .delegatedTo⟩]
  integrated : integrationsFrom edges child = [⟨child, parent, .integratedBy⟩]

/-- Parents exist and nothing is its own ancestor, among nodes and among work items; every work
item with a parent is tied to it alone and has its integration owner. -/
structure TreeLaw (k : Kernel) : Prop where
  nodes : Forest k.nodeParents
  works : Forest k.workParents
  tied : ∀ child parent, ChildOf k.workParents child parent → Tied k.workEdges child parent
  integration_owner : ∀ id work parentId parent, k.workItems.get? id = some work →
    work.parentWorkItemId = some parentId → k.workItems.get? parentId = some parent →
      parent.integrationOwnerNodeId = work.integrationOwnerNodeId

/-- The law, with edges between known work items. -/
structure TreeOrdered (k : Kernel) : Prop extends TreeLaw k where
  edges_known : ∀ edge ∈ k.workEdges, k.workItems.contains edge.sourceWorkItemId = true ∧
    k.workItems.contains edge.targetWorkItemId = true

theorem treeOrdered_new (dataSpace : DataSpace) : TreeOrdered (.new dataSpace) where
  nodes := Forest.empty
  works := Forest.empty
  tied _ _ h := nomatch h
  integration_owner _ _ _ _ h := nomatch h
  edges_known _ h := nomatch h

/-! ### Edges -/

section Edges

variable {edges more : List WorkEdge} {id child parent : String}

theorem delegationsTo_append :
    delegationsTo (edges ++ more) id = delegationsTo edges id ++ delegationsTo more id :=
  List.filter_append _ _

theorem integrationsFrom_append :
    integrationsFrom (edges ++ more) id = integrationsFrom edges id ++ integrationsFrom more id :=
  List.filter_append _ _

theorem delegationsTo_eq_nil (h : ∀ edge ∈ edges, edge.kind = .delegatedTo →
    edge.targetWorkItemId ≠ id) : delegationsTo edges id = [] := by
  rw [delegationsTo, List.filter_eq_nil_iff]
  intro edge hmem hboth
  obtain ⟨hkind, htarget⟩ := of_decide_eq_true hboth
  exact h edge hmem hkind htarget

theorem integrationsFrom_eq_nil (h : ∀ edge ∈ edges, edge.kind = .integratedBy →
    edge.sourceWorkItemId ≠ id) : integrationsFrom edges id = [] := by
  rw [integrationsFrom, List.filter_eq_nil_iff]
  intro edge hmem hboth
  obtain ⟨hkind, hsource⟩ := of_decide_eq_true hboth
  exact h edge hmem hkind hsource

/-- Edges that neither lead to the child nor leave it leave the tie alone. -/
theorem Tied.append (h : Tied edges child parent) (hto : delegationsTo more child = [])
    (hfrom : integrationsFrom more child = []) : Tied (edges ++ more) child parent where
  delegated := by rw [delegationsTo_append, hto, List.append_nil, h.delegated]
  integrated := by rw [integrationsFrom_append, hfrom, List.append_nil, h.integrated]

/-- Edges behind others that neither lead to the child nor leave it. -/
theorem Tied.after (h : Tied more child parent) (hto : delegationsTo edges child = [])
    (hfrom : integrationsFrom edges child = []) : Tied (edges ++ more) child parent where
  delegated := by rw [delegationsTo_append, hto, List.nil_append, h.delegated]
  integrated := by rw [integrationsFrom_append, hfrom, List.nil_append, h.integrated]

/-- The edges of a new work item tie it to its parent. -/
theorem tied_decompositionEdges {work : WorkItem} (h : work.parentWorkItemId = some parent) :
    Tied (decompositionEdges work) work.workItemId parent := by
  rw [decompositionEdges, h]
  constructor <;> simp [delegationsTo, integrationsFrom]

/-- The edges of a new work item neither lead to another child nor leave it. -/
theorem decompositionEdges_of_ne {work : WorkItem} (h : work.workItemId ≠ child) :
    delegationsTo (decompositionEdges work) child = [] ∧
      integrationsFrom (decompositionEdges work) child = [] := by
  cases hparent : work.parentWorkItemId <;>
    simp [decompositionEdges, hparent, delegationsTo, integrationsFrom, h]

end Edges

/-! ### What an event does to the trees -/

/-- The snapshot brings trees along: its nodes have known parents, no cycle of parents, and each
work item with a parent is tied to it alone and has its integration owner. -/
structure CurrentWorkGraphSnapshot.TreeShaped (snapshot : CurrentWorkGraphSnapshot) (k : Kernel) :
    Prop where
  node_parents : ∀ node ∈ snapshot.nodes, ∀ parentId ∈ node.parentNodeId,
    parentId ∈ snapshot.nodes.map (·.nodeId) ∨ k.nodes.contains parentId = true
  nodes_acyclic : Reachability.Acyclic fun x y =>
    ∃ node ∈ snapshot.nodes, node.nodeId = x ∧ node.parentNodeId = some y
  works_acyclic : Reachability.Acyclic fun x y =>
    ∃ work ∈ snapshot.workItems, work.workItemId = x ∧ work.parentWorkItemId = some y
  tied : ∀ work ∈ snapshot.workItems, ∀ parentId ∈ work.parentWorkItemId,
    Tied snapshot.edges work.workItemId parentId
  integration_owner : ∀ work ∈ snapshot.workItems, ∀ parent ∈ snapshot.workItems,
    work.parentWorkItemId = some parent.workItemId →
      parent.integrationOwnerNodeId = work.integrationOwnerNodeId

/-- The work item may take its place in the tree: a parent it names is not below it and is the
first it is tied to, and the children it has keep their integration owner. -/
def Kernel.ReplacesInTree (k : Kernel) (work : WorkItem) : Prop :=
  (∀ parentId ∈ work.parentWorkItemId,
    ¬ Relation.ReflTransGen (ChildOf k.workParents) parentId work.workItemId ∧
      delegationsTo k.workEdges work.workItemId = [] ∧
      integrationsFrom k.workEdges work.workItemId = []) ∧
  ∀ id child, k.workItems.get? id = some child →
    child.parentWorkItemId = some work.workItemId →
      child.integrationOwnerNodeId = work.integrationOwnerNodeId

/-- The events that bring a malformed tree along. -/
def BreaksTrees (k : Kernel) (_ : String) : KernelPayload → Prop
  | .currentWorkGraphImported snapshot => ¬ snapshot.TreeShaped k
  | .workItemCreated work =>
    k.workItems.contains work.workItemId = true ∧ ¬ k.ReplacesInTree work
  | _ => False

section Events

variable {k : Kernel} {event : EventEnvelope}

/-- A new work item takes its place in the tree. -/
theorem replacesInTree_of_fresh (h : TreeOrdered k) {work : WorkItem}
    (hfresh : k.workItems.contains work.workItemId = false)
    (hpermits : k.Permits event (.workItemCreated work)) : k.ReplacesInTree work := by
  have hnone : k.workParents work.workItemId = none := by
    rw [Kernel.workParents, (OrderedDict.contains_eq_false_iff _ _).mp hfresh, Option.map_none]
  obtain ⟨-, -, -, -, hparents⟩ := hpermits
  refine ⟨fun parentId hparent => ⟨?_, ?_, ?_⟩, fun id child hget hchild => ?_⟩
  · obtain ⟨parent, hget, -⟩ := hparents parentId hparent
    refine Reachability.not_reaches_of_unreached ?_ fun x => h.works.not_childOf_unknown hnone
    rintro rfl
    rw [(OrderedDict.contains_iff _ _).mpr ⟨parent, hget⟩] at hfresh
    exact nomatch hfresh
  · refine delegationsTo_eq_nil fun edge hmem _ htarget => ?_
    rw [← htarget, (h.edges_known edge hmem).2] at hfresh
    exact nomatch hfresh
  · refine integrationsFrom_eq_nil fun edge hmem _ hsource => ?_
    rw [← hsource, (h.edges_known edge hmem).1] at hfresh
    exact nomatch hfresh
  · refine absurd ?_ (h.works.not_childOf_unknown (x := id) hnone)
    rw [ChildOf, Kernel.workParents, hget, Option.map_some, hchild]

/-- A created work item that takes its place in the tree. -/
private theorem treeOrdered_created (h : TreeOrdered k) {next : Kernel} {work : WorkItem}
    (hpermits : k.Permits event (.workItemCreated work))
    (hchanges : k.Changes event (.workItemCreated work) next) (hplace : k.ReplacesInTree work) :
    TreeOrdered next := by
  obtain ⟨-, -, -, -, hparents⟩ := hpermits
  obtain ⟨htied, hchildren⟩ := hplace
  have hget (id : String) : next.workItems.get? id =
      if work.workItemId = id then some work else k.workItems.get? id := by
    rw [hchanges.work_items]
    exact OrderedDict.get?_set _ _ _ id
  have hworks : next.workParents =
      Function.update k.workParents work.workItemId (some work.parentWorkItemId) := by
    funext id
    by_cases hid : id = work.workItemId
    · rw [hid, Function.update_self, Kernel.workParents, hget, if_pos rfl, Option.map_some]
    · rw [Function.update_of_ne hid, Kernel.workParents, hget, if_neg (Ne.symm hid)]
      rfl
  have hedges : next.workEdges = k.workEdges ++ decompositionEdges work := hchanges.work_edges
  have hparent {parentId : String} (hparent : work.parentWorkItemId = some parentId) :
      k.workItems.contains parentId = true := by
    obtain ⟨parent, hget, -⟩ := hparents parentId hparent
    exact (OrderedDict.contains_iff _ _).mpr ⟨parent, hget⟩
  have hcontains {id : String} (hid : k.workItems.contains id = true) :
      next.workItems.contains id = true := by
    rw [hchanges.work_items]
    exact Kernel.contains_workItemsAfter hid
  have hself : next.workItems.contains work.workItemId = true :=
    (OrderedDict.contains_iff _ _).mpr ⟨work, (hget _).trans (if_pos rfl)⟩
  refine ⟨⟨?_, ?_, ?_, ?_⟩, ?_⟩
  · rw [show next.nodeParents = k.nodeParents from funext fun id => by
      rw [Kernel.nodeParents, hchanges.nodes]; rfl]
    exact h.nodes
  · rw [hworks]
    refine h.works.set fun parentId hmem => ⟨?_, (htied parentId hmem).1⟩
    obtain ⟨parent, hknown, -⟩ := hparents parentId hmem
    rw [Kernel.workParents, hknown]
    rfl
  · intro child parentId hchild
    rw [hedges]
    rw [hworks] at hchild
    by_cases hid : child = work.workItemId
    · subst hid
      rw [ChildOf, Function.update_self] at hchild
      have hwork := Option.some.inj hchild
      obtain ⟨-, hto, hfrom⟩ := htied parentId hwork
      exact (tied_decompositionEdges hwork).after hto hfrom
    · rw [ChildOf, Function.update_of_ne hid] at hchild
      obtain ⟨hto, hfrom⟩ := decompositionEdges_of_ne (Ne.symm hid)
      exact (h.tied child parentId hchild).append hto hfrom
  · intro id child parentId parent hchild hparentId hknown
    rw [hget] at hchild hknown
    split_ifs at hchild hknown with hid hparentSelf hparentSelf
    · -- The work item is not its own parent.
      refine absurd ?_ (htied parentId ?_).1
      · rw [hparentSelf]
      · rw [Option.some.inj hchild]
        exact hparentId
    · obtain rfl := Option.some.inj hchild
      obtain ⟨known, hget', howner⟩ := hparents parentId hparentId
      rw [← Option.some.inj (hget'.symm.trans hknown)]
      exact howner
    · obtain rfl := Option.some.inj hknown
      rw [← hparentSelf] at hparentId
      exact (hchildren id child hchild hparentId).symm
    · exact h.integration_owner id child parentId parent hchild hparentId hknown
  · intro edge hmem
    rw [hedges, List.mem_append] at hmem
    rcases hmem with hold | hnew
    · exact ⟨hcontains (h.edges_known edge hold).1, hcontains (h.edges_known edge hold).2⟩
    · cases hp : work.parentWorkItemId with
      | none =>
        rw [decompositionEdges, hp] at hnew
        cases hnew
      | some parentId =>
        have hknown := hcontains (hparent hp)
        simp only [decompositionEdges, hp, List.mem_cons, List.not_mem_nil, or_false] at hnew
        rcases hnew with rfl | rfl
        · exact ⟨hknown, hself⟩
        · exact ⟨hself, hknown⟩

/-- A record found under an identifier is one of the records and has it. -/
private theorem of_find? {ν : Type} {records : List ν} {key : ν → String} {id : String}
    {record : ν} (h : records.find? (key · = id) = some record) :
    record ∈ records ∧ key record = id := by
  have hfound := List.find?_some h
  exact ⟨List.mem_of_find?_eq_some h, of_decide_eq_true hfound⟩

/-- The parents in a dictionary after a list of assignments of distinct keys. -/
private theorem parents_update {ν : Type} {d : OrderedDict String ν} {records : List ν}
    {key : ν → String} {parent : ν → Option String} (hunique : (records.map key).Nodup)
    (id : String) :
    ((d.update (records.map fun record => (key record, record))).get? id).map parent =
      ((records.find? (key · = id)).map parent).or ((d.get? id).map parent) := by
  have hkeys : (records.map fun record => (key record, record)).map Prod.fst =
      records.map key := by
    rw [List.map_map]
    rfl
  cases hfind : records.find? (key · = id) with
  | none =>
    rw [OrderedDict.get?_update_of_notMem, Option.map_none, Option.none_or]
    rw [hkeys]
    intro hmem
    obtain ⟨record, hrecord, rfl⟩ := List.mem_map.mp hmem
    exact List.find?_eq_none.mp hfind record hrecord (decide_eq_true rfl)
  | some record =>
    obtain ⟨hmem, hid⟩ := of_find? hfind
    have hin : (id, record) ∈ records.map fun record => (key record, record) :=
      List.mem_map.mpr ⟨record, hmem, Prod.ext hid rfl⟩
    rw [OrderedDict.get?_update_of_mem id record _ _ (hkeys.symm ▸ hunique) hin, Option.map_some,
      Option.some_or]

/-- The parent that a list of records gives an identifier. -/
private theorem childOf_find? {ν : Type} {records : List ν} {key : ν → String}
    {parent : ν → Option String} {x y : String}
    (h : ChildOf (fun id => (records.find? (key · = id)).map parent) x y) :
    ∃ record ∈ records, key record = x ∧ parent record = some y := by
  obtain ⟨record, hfind, hparent⟩ := Option.map_eq_some_iff.mp h
  obtain ⟨hmem, hid⟩ := of_find? hfind
  exact ⟨record, hmem, hid, hparent⟩

private theorem isSome_find? {ν : Type} {records : List ν} {key : ν → String}
    {parent : ν → Option String} {id : String} (h : id ∈ records.map key) :
    ((records.find? (key · = id)).map parent).isSome = true := by
  obtain ⟨record, hmem, rfl⟩ := List.mem_map.mp h
  rw [Option.isSome_map, List.find?_isSome]
  exact ⟨record, hmem, decide_eq_true rfl⟩

private theorem nodes_imported (h : TreeOrdered k) {next : Kernel}
    {snapshot : CurrentWorkGraphSnapshot}
    (hpermits : k.Permits event (.currentWorkGraphImported snapshot))
    (hchanges : k.Changes event (.currentWorkGraphImported snapshot) next)
    (hshaped : snapshot.TreeShaped k) : Forest next.nodeParents := by
  obtain ⟨-, -, -, hknown, -, -, -⟩ := hpermits
  have hparents : next.nodeParents = fun id =>
      ((snapshot.nodes.find? (·.nodeId = id)).map (·.parentNodeId)).or (k.nodeParents id) := by
    funext id
    rw [Kernel.nodeParents, hchanges.nodes]
    exact parents_update snapshot.node_ids_unique id
  rw [hparents]
  refine h.nodes.extend (hshaped.nodes_acyclic.mono fun x y hxy => childOf_find? hxy) ?_ ?_
  · intro x y hxy
    obtain ⟨node, hmem, -, hparent⟩ := childOf_find? hxy
    rcases hshaped.node_parents node hmem y hparent with hin | hcontains
    · exact Or.inl (isSome_find? hin)
    · exact Or.inr ((Option.isSome_map ..).trans hcontains)
  · intro x p q hp hq
    obtain ⟨node, hfind, rfl⟩ := Option.map_eq_some_iff.mp hp
    obtain ⟨known, hget, rfl⟩ := Option.map_eq_some_iff.mp hq
    obtain ⟨hmem, rfl⟩ := of_find? hfind
    rw [hknown node hmem known hget]

private theorem works_imported (h : TreeOrdered k) {next : Kernel}
    {snapshot : CurrentWorkGraphSnapshot}
    (hpermits : k.Permits event (.currentWorkGraphImported snapshot))
    (hchanges : k.Changes event (.currentWorkGraphImported snapshot) next)
    (hshaped : snapshot.TreeShaped k) : Forest next.workParents := by
  obtain ⟨-, -, -, -, hfresh, hparents, -⟩ := hpermits
  have hworks : next.workParents = fun id =>
      ((snapshot.workItems.find? (·.workItemId = id)).map (·.parentWorkItemId)).or
        (k.workParents id) := by
    funext id
    rw [Kernel.workParents, hchanges.work_items]
    exact parents_update snapshot.work_ids_unique id
  rw [hworks]
  refine h.works.extend (hshaped.works_acyclic.mono fun x y hxy => childOf_find? hxy) ?_ ?_
  · intro x y hxy
    obtain ⟨work, hmem, -, hparent⟩ := childOf_find? hxy
    exact Or.inl (isSome_find? (hparents work hmem y hparent))
  · intro x p q hp hq
    obtain ⟨work, hfind, -⟩ := Option.map_eq_some_iff.mp hp
    obtain ⟨known, hget, -⟩ := Option.map_eq_some_iff.mp hq
    obtain ⟨hmem, rfl⟩ := of_find? hfind
    have hnone := (OrderedDict.contains_eq_false_iff _ _).mp (hfresh work hmem)
    rw [hget] at hnone
    exact nomatch hnone

/-- An imported snapshot that brings trees along. -/
private theorem treeOrdered_imported (h : TreeOrdered k) {next : Kernel}
    {snapshot : CurrentWorkGraphSnapshot}
    (hpermits : k.Permits event (.currentWorkGraphImported snapshot))
    (hchanges : k.Changes event (.currentWorkGraphImported snapshot) next)
    (hshaped : snapshot.TreeShaped k) : TreeOrdered next := by
  have hnodes := nodes_imported h hpermits hchanges hshaped
  have hforest := works_imported h hpermits hchanges hshaped
  obtain ⟨-, -, -, -, hfresh, hparents, hends⟩ := hpermits
  have hedges : next.workEdges = k.workEdges ++ snapshot.edges := hchanges.work_edges
  have hitems : next.workItems = k.workItems.update
      (snapshot.workItems.map fun work => (work.workItemId, work)) := hchanges.work_items
  -- A work item of the new Kernel is an imported one, or one that was there before.
  have hcases {id : String} {work : WorkItem} (hget : next.workItems.get? id = some work) :
      (k.workItems.get? id = some work) ∨
        work ∈ snapshot.workItems ∧ work.workItemId = id := by
    rw [hitems] at hget
    rcases OrderedDict.get?_update id work _ _ hget with hold | hnew
    · exact Or.inl hold
    · obtain ⟨imported, hmem, heq⟩ := List.mem_map.mp hnew
      obtain ⟨rfl, rfl⟩ := Prod.mk.inj heq
      exact Or.inr ⟨hmem, rfl⟩
  have hnew {id : String} (hid : id ∈ snapshot.workItems.map (·.workItemId)) :
      k.workItems.contains id = false := by
    obtain ⟨work, hmem, rfl⟩ := List.mem_map.mp hid
    exact hfresh work hmem
  have himported {id : String} (hid : id ∈ snapshot.workItems.map (·.workItemId)) :
      next.workItems.contains id = true := by
    rw [hitems, OrderedDict.contains_update, List.map_map]
    exact Or.inr hid
  refine ⟨⟨hnodes, hforest, ?_, ?_⟩, ?_⟩
  · intro child parentId hchild
    obtain ⟨work, hget, hparent⟩ := Option.map_eq_some_iff.mp hchild
    rw [hedges]
    rcases hcases hget with hold | ⟨hmem, rfl⟩
    · have hcontains := (OrderedDict.contains_iff _ _).mpr ⟨work, hold⟩
      have htied : Tied k.workEdges child parentId := by
        refine h.tied child parentId ?_
        rw [ChildOf, Kernel.workParents, hold, Option.map_some, hparent]
      refine htied.append (delegationsTo_eq_nil fun edge hedge _ htarget => ?_)
        (integrationsFrom_eq_nil fun edge hedge _ hsource => ?_)
      · rw [← htarget, hnew (hends edge hedge).2] at hcontains
        cases hcontains
      · rw [← hsource, hnew (hends edge hedge).1] at hcontains
        cases hcontains
    · have habsent := hfresh work hmem
      refine (hshaped.tied work hmem parentId hparent).after
        (delegationsTo_eq_nil fun edge hedge _ htarget => ?_)
        (integrationsFrom_eq_nil fun edge hedge _ hsource => ?_)
      · rw [← htarget, (h.edges_known edge hedge).2] at habsent
        cases habsent
      · rw [← hsource, (h.edges_known edge hedge).1] at habsent
        cases habsent
  · intro id work parentId parent hget hparent hknown
    rcases hcases hget with hold | ⟨hmem, rfl⟩ <;>
      rcases hcases hknown with hold' | ⟨hmem', rfl⟩
    · exact h.integration_owner id work parentId parent hold hparent hold'
    · -- The parent of a work item that was there before was there before.
      have hchild : ChildOf k.workParents id parent.workItemId := by
        rw [ChildOf, Kernel.workParents, hold, Option.map_some, hparent]
      refine absurd hchild (h.works.not_childOf_unknown ?_)
      rw [Kernel.workParents,
        (OrderedDict.contains_eq_false_iff _ _).mp (hfresh parent hmem'), Option.map_none]
    · have habsent := hnew (hparents work hmem parentId hparent)
      rw [(OrderedDict.contains_iff _ _).mpr ⟨parent, hold'⟩] at habsent
      cases habsent
    · exact hshaped.integration_owner work hmem parent hmem' hparent
  · intro edge hmem
    rw [hedges, List.mem_append] at hmem
    rcases hmem with hold | hadded
    · rw [hitems, OrderedDict.contains_update, OrderedDict.contains_update]
      exact ⟨Or.inl (h.edges_known edge hold).1, Or.inl (h.edges_known edge hold).2⟩
    · exact ⟨himported (hends edge hadded).1, himported (hends edge hadded).2⟩

/-- A rewrite of one work item that keeps its parent and its integration owner. -/
private theorem lineage_modify {d : OrderedDict String WorkItem} {key : String}
    {f : WorkItem → WorkItem}
    (hf : ∀ work, (f work).parentWorkItemId = work.parentWorkItemId ∧
      (f work).integrationOwnerNodeId = work.integrationOwnerNodeId) (id : String) :
    ((d.modify key f).get? id).map
        (fun work => (work.parentWorkItemId, work.integrationOwnerNodeId)) =
      (d.get? id).map fun work => (work.parentWorkItemId, work.integrationOwnerNodeId) := by
  rw [OrderedDict.get?_modify]
  split_ifs with hkey
  · rw [Option.map_map]
    congr 1
    funext work
    exact Prod.ext (hf work).1 (hf work).2
  · rfl

/-- An event that creates no work item keeps parents and integration owners. -/
private theorem lineage_after {payload : KernelPayload}
    (hcreated : ∀ work, payload ≠ .workItemCreated work)
    (himported : ∀ snapshot, payload ≠ .currentWorkGraphImported snapshot) (id : String) :
    ((k.workItemsAfter event payload).get? id).map
        (fun work => (work.parentWorkItemId, work.integrationOwnerNodeId)) =
      (k.workItems.get? id).map fun work =>
        (work.parentWorkItemId, work.integrationOwnerNodeId) := by
  cases payload <;> simp only [Kernel.workItemsAfter]
  case workItemCreated work => exact absurd rfl (hcreated work)
  case currentWorkGraphImported snapshot => exact absurd rfl (himported snapshot)
  case s3StarFindingRecorded =>
    split_ifs
    · refine lineage_modify (fun _ => ?_) id
      exact ⟨rfl, rfl⟩
    · rfl
  case workItemDelegated | workItemResumePrepared | humanIntervention | s3StarRiskAccepted |
      workItemCompleted =>
    refine lineage_modify (fun _ => ?_) id
    exact ⟨rfl, rfl⟩

/-- A Kernel with the same parents and integration owners and with more edges, none of them to
or from a parent. -/
private theorem treeOrdered_of_same (h : TreeOrdered k) {next : Kernel} {more : List WorkEdge}
    (hnodes : Forest next.nodeParents)
    (hlineage : ∀ id, (next.workItems.get? id).map
        (fun work => (work.parentWorkItemId, work.integrationOwnerNodeId)) =
      (k.workItems.get? id).map fun work => (work.parentWorkItemId, work.integrationOwnerNodeId))
    (hedges : next.workEdges = k.workEdges ++ more)
    (hmore : ∀ edge ∈ more, edge.kind = .dependsOn ∧
      k.workItems.contains edge.sourceWorkItemId = true ∧
      k.workItems.contains edge.targetWorkItemId = true) : TreeOrdered next := by
  have hparents : next.workParents = k.workParents := by
    funext id
    have hid := congrArg (Option.map Prod.fst) (hlineage id)
    rw [Option.map_map, Option.map_map] at hid
    exact hid
  have hcontains (id : String) : next.workItems.contains id = k.workItems.contains id := by
    have hid := congrArg Option.isSome (hlineage id)
    rw [Option.isSome_map, Option.isSome_map] at hid
    exact hid
  -- A work item of the new Kernel was there before, with the same parent and owner.
  have hold {id : String} {work : WorkItem} (hget : next.workItems.get? id = some work) :
      ∃ known, k.workItems.get? id = some known ∧
        known.parentWorkItemId = work.parentWorkItemId ∧
        known.integrationOwnerNodeId = work.integrationOwnerNodeId := by
    have hid := hlineage id
    rw [hget, Option.map_some] at hid
    obtain ⟨known, hknown, heq⟩ := Option.map_eq_some_iff.mp hid.symm
    obtain ⟨hparent, howner⟩ := Prod.mk.inj heq
    exact ⟨known, hknown, hparent, howner⟩
  have hnone (id : String) : delegationsTo more id = [] ∧ integrationsFrom more id = [] :=
    ⟨delegationsTo_eq_nil fun edge hmem hkind =>
        absurd (hkind.symm.trans (hmore edge hmem).1) (by simp),
      integrationsFrom_eq_nil fun edge hmem hkind =>
        absurd (hkind.symm.trans (hmore edge hmem).1) (by simp)⟩
  refine ⟨⟨hnodes, hparents ▸ h.works, ?_, ?_⟩, ?_⟩
  · intro child parentId hchild
    rw [hedges]
    exact (h.tied child parentId (hparents ▸ hchild)).append (hnone child).1 (hnone child).2
  · intro id work parentId parent hget hparent hknown
    obtain ⟨oldWork, hwork, holdWorkParent, hworkOwner⟩ := hold hget
    obtain ⟨oldParent, holdParent, -, hparentOwner⟩ := hold hknown
    rw [← hworkOwner, ← hparentOwner]
    exact h.integration_owner id oldWork parentId oldParent hwork (holdWorkParent.trans hparent)
      holdParent
  · intro edge hmem
    rw [hcontains, hcontains]
    rw [hedges, List.mem_append] at hmem
    rcases hmem with hold | hnew
    · exact h.edges_known edge hold
    · exact (hmore edge hnew).2

/-- A registered node is new, and its parent is known. -/
private theorem nodes_registered (h : TreeOrdered k) {next : Kernel} {node : UVSMNode}
    (hpermits : k.Permits event (.nodeRegistered node))
    (hchanges : k.Changes event (.nodeRegistered node) next) : Forest next.nodeParents := by
  obtain ⟨-, -, hfresh, hparent⟩ := hpermits
  have hnone : k.nodeParents node.nodeId = none := by
    rw [Kernel.nodeParents, (OrderedDict.contains_eq_false_iff _ _).mp hfresh, Option.map_none]
  have hparents : next.nodeParents =
      Function.update k.nodeParents node.nodeId (some node.parentNodeId) := by
    funext id
    rw [Kernel.nodeParents, hchanges.nodes, Kernel.nodesAfter, OrderedDict.get?_set]
    by_cases hid : id = node.nodeId
    · rw [hid, if_pos rfl, Function.update_self, Option.map_some]
    · rw [if_neg (Ne.symm hid), Function.update_of_ne hid]
      rfl
  rw [hparents]
  refine h.nodes.set_unknown hnone fun parentId hmem => ?_
  exact (Option.isSome_map ..).trans (hparent parentId hmem)

end Events

/-- **Every event but those that bring a malformed tree along** keeps the trees in order. -/
theorem treeOrdered_kept : Kernel.KeptExcept BreaksTrees TreeOrdered where
  changes := by
    intro k event payload next _ h hpermits hchanges hnot
    have hedges := hchanges.work_edges
    have hnodes (hsame : k.nodesAfter payload = k.nodes) : Forest next.nodeParents := by
      have hparents : next.nodeParents = k.nodeParents := by
        funext id
        rw [Kernel.nodeParents, hchanges.nodes, hsame]
        rfl
      exact hparents ▸ h.nodes
    have hlineage (hcreated : ∀ work, payload ≠ .workItemCreated work)
        (himported : ∀ snapshot, payload ≠ .currentWorkGraphImported snapshot) (id : String) :=
      hchanges.work_items ▸ lineage_after (k := k) hcreated himported id
    cases payload
    case workItemCreated work =>
      refine treeOrdered_created h hpermits hchanges ?_
      by_cases hknown : k.workItems.contains work.workItemId = true
      · by_contra hplace
        exact hnot ⟨hknown, hplace⟩
      · exact replacesInTree_of_fresh h (Bool.not_eq_true _ ▸ hknown) hpermits
    case currentWorkGraphImported snapshot =>
      exact treeOrdered_imported h hpermits hchanges (not_not.mp hnot)
    case workDependencyAdded edge =>
      refine treeOrdered_of_same h (hnodes rfl) (hlineage (by simp) (by simp)) hedges ?_
      intro added hmem
      obtain rfl := List.mem_singleton.mp hmem
      obtain ⟨-, hkind, -, -, hsource, htarget, -⟩ := hpermits
      exact ⟨hkind, hsource, htarget⟩
    case nodeRegistered node =>
      exact treeOrdered_of_same h (nodes_registered h hpermits hchanges)
        (hlineage (by simp) (by simp)) (hedges.trans (List.append_nil _).symm) (by simp)
    all_goals
      exact treeOrdered_of_same h (hnodes rfl) (hlineage (by simp) (by simp))
        (hedges.trans (List.append_nil _).symm) (by simp)
  collections _ _ h := ⟨⟨h.nodes, h.works, h.tied, h.integration_owner⟩, h.edges_known⟩
  created _ hfresh h := by
    rw [h.1] at hfresh
    cases hfresh
  promoted _ _ _ h := h

variable [Sha256]

/-- The trees are kept by this command: an import that is recorded brings trees along, and a
work item that is created again may take its place in the tree. -/
def KeepsTrees (s : MemorySystem) (input : ServiceCommand × Clock) : Prop :=
  (∀ snapshot, AcceptsImport s input snapshot → snapshot.TreeShaped s.kernel) ∧
    ∀ work, AcceptsCreation s input work → s.kernel.workItems.contains work.workItemId = true →
      s.kernel.ReplacesInTree work

/-- **Both trees** are well formed in every run that keeps them. -/
theorem treeLaw_of_keepsTrees (dataSpace : DataSpace) (inputs : List (ServiceCommand × Clock))
    (hc : Run.Along ServiceCommand.step KeepsTrees (.new dataSpace) inputs) :
    TreeLaw (runCommands (.new dataSpace) inputs).kernel := by
  refine (treeOrdered_kept.run ?_ (System.kernelSynced_new dataSpace)
    (treeOrdered_new dataSpace) hc).toTreeLaw
  intro s c clock hc streamId payload hrecords hdefect
  cases payload <;> simp only [BreaksTrees] at hdefect
  case currentWorkGraphImported snapshot =>
    exact unchanged_of_not_acceptsImport hrecords fun haccepts => hdefect (hc.1 snapshot haccepts)
  case workItemCreated work =>
    exact unchanged_of_not_acceptsCreation hrecords hdefect.1 fun haccepts =>
      hdefect.2 (hc.2 work haccepts hdefect.1)

/-! ### A work item made its own parent -/

theorem keepsTrees_of_ne {s : MemorySystem} {input : ServiceCommand × Clock}
    (himport : ∀ snapshot actorId key,
      input.1 ≠ .kernel (.importCurrentWorkGraph snapshot actorId key))
    (hcreate : ∀ work actorId key, input.1 ≠ .kernel (.createWorkItem work actorId key)) :
    KeepsTrees s input :=
  ⟨fun snapshot ⟨actorId, key, _, heq, _⟩ => absurd heq (himport snapshot actorId key),
    fun work ⟨actorId, key, _, heq, _⟩ => absurd heq (hcreate work actorId key)⟩

theorem keepsTrees_of_fresh {s : MemorySystem} {work : WorkItem} {actorId key : String}
    {clock : Clock} (h : s.kernel.workItems.contains work.workItemId = false) :
    KeepsTrees s (.kernel (.createWorkItem work actorId key), clock) := by
  refine ⟨fun snapshot ⟨_, _, _, heq, _⟩ => ?_, fun created ⟨_, _, _, heq, _⟩ hknown => ?_⟩
  · simp at heq
  · injection heq with heq
    injection heq with hwork
    rw [← hwork, h] at hknown
    exact nomatch hknown

/-- A part of the proposed work item. -/
def partOfWork : WorkItem :=
  { proposedWork with workItemId := "work:2", parentWorkItemId := some "work:1" }

/-- The owner's node is registered. -/
def nodeRegistration : ServiceCommand × Clock :=
  (.kernel (.registerNode ownerNode "owner:1" "node:1"), fun _ => 0)

/-- The owner's node and the proposed work item. -/
def rootRun : List (ServiceCommand × Clock) :=
  [nodeRegistration, (.kernel (.createWorkItem proposedWork "owner:1" "work:1"), fun _ => 0)]

/-- The proposed work item gets a part. -/
def partitionedRun : List (ServiceCommand × Clock) :=
  rootRun ++ [(.kernel (.createWorkItem partOfWork "owner:1" "work:2"), fun _ => 0)]

omit [Sha256] in
/-- The part is tied to its parent. -/
theorem treeLaw_of_partitionedRun :
    letI := Sha256.polynomial
    TreeLaw (runCommands (.new companySpace) partitionedRun).kernel ∧
      (runCommands (.new companySpace) partitionedRun).kernel.workParents "work:2" =
        some (some "work:1") := by
  let := Sha256.polynomial
  have hfirst : (ServiceCommand.step (.new companySpace)
      nodeRegistration).kernel.workItems.contains proposedWork.workItemId = false := by
    decide +kernel
  have hsecond : (Run.exec ServiceCommand.step (.new companySpace)
      rootRun).kernel.workItems.contains partOfWork.workItemId = false := by
    decide +kernel
  refine ⟨treeLaw_of_keepsTrees companySpace _ ?_, by decide +kernel⟩
  rw [partitionedRun, Run.along_append]
  refine ⟨⟨?_, ?_, trivial⟩, ?_, trivial⟩
  · exact keepsTrees_of_ne (by simp [nodeRegistration]) (by simp [nodeRegistration])
  · exact keepsTrees_of_fresh hfirst
  · exact keepsTrees_of_fresh hsecond

/-- The proposed work item is created again, as a part of itself. -/
def selfParentRun : List (ServiceCommand × Clock) :=
  rootRun ++
    [(.kernel (.createWorkItem { proposedWork with parentWorkItemId := some "work:1" } "owner:1"
      "work:2"), fun _ => 0)]

omit [Sha256] in
private theorem selfParentRun_parent :
    letI := Sha256.polynomial
    (runCommands (.new companySpace) selfParentRun).kernel.workParents "work:1" =
      some (some "work:1") := by
  decide +kernel

omit [Sha256] in
/-- The work item is its own ancestor. -/
theorem selfParentRun_breaks_treeLaw :
    letI := Sha256.polynomial
    ¬ TreeLaw (runCommands (.new companySpace) selfParentRun).kernel := by
  let := Sha256.polynomial
  intro h
  exact h.works.acyclic "work:1" (.single selfParentRun_parent)

end Nanihold
