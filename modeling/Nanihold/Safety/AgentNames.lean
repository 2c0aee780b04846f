import Nanihold.Replay.Restart
import Nanihold.Safety.Effects

/-!
# Agent names of executions

The name of an execution is kept twice: on the execution, and in the assignment that gave it. The
two agree, and no two executions have one name, as long as no execution is created with a name:
its creation does not look at the field.

## Main definitions

* `Kernel.AgentNameLaw` — an execution has a name exactly if one assignment gave it.
* `CreatesUnnamed` — the condition on a step.

## Main results

* `namesAgree_kept` — every event but such a creation keeps the two in step.
* `agentNameLaw_of_createsUnnamed` — the law holds in every run without such a creation.
* `named_creation_breaks_agentNameLaw` — an execution that is created with a name.
-/

namespace Nanihold

/-- **The law of agent names**: an execution has a name exactly if one recorded assignment gives
it that name, and no two executions have the same name. -/
structure Kernel.AgentNameLaw (k : Kernel) : Prop where
  named_iff : ∀ executionId execution, k.executions.get? executionId = some execution →
    ∀ name, execution.agentName = some name ↔
      ∃! assignmentId, ∃ assignment, k.agentNameAssignments.get? assignmentId = some assignment ∧
        assignment.executionId = executionId ∧ assignment.agentName = name
  distinct : ∀ id id' execution execution' name, k.executions.get? id = some execution →
    k.executions.get? id' = some execution' → execution.agentName = some name →
    execution'.agentName = some name → id = id'

/-- **The invariant**: executions and assignments name each other, and the names of assignments
are distinct. -/
structure Kernel.NamesAgree (k : Kernel) : Prop where
  assigned : ∀ id assignment, k.agentNameAssignments.get? id = some assignment →
    ∃ execution, k.executions.get? assignment.executionId = some execution ∧
      execution.agentName = some assignment.agentName
  named : ∀ id execution name, k.executions.get? id = some execution →
    execution.agentName = some name →
    ∃ assignmentId assignment, k.agentNameAssignments.get? assignmentId = some assignment ∧
      assignment.executionId = id ∧ assignment.agentName = name
  distinct : ∀ id id' assignment assignment', k.agentNameAssignments.get? id = some assignment →
    k.agentNameAssignments.get? id' = some assignment' →
    assignment.agentName = assignment'.agentName → id = id'

variable {k next : Kernel} {event : EventEnvelope} {payload : KernelPayload}

theorem Kernel.namesAgree_new (dataSpace : DataSpace) : (Kernel.new dataSpace).NamesAgree where
  assigned _ _ h := by cases h
  named _ _ _ h := by cases h
  distinct _ _ _ _ h := by cases h

theorem Kernel.NamesAgree.law (h : k.NamesAgree) : k.AgentNameLaw := by
  constructor
  · intro executionId execution hexecution name
    constructor
    · intro hname
      obtain ⟨assignmentId, assignment, hget, hid, hassigned⟩ :=
        h.named executionId execution name hexecution hname
      refine ⟨assignmentId, ⟨assignment, hget, hid, hassigned⟩, ?_⟩
      rintro other ⟨known, hknown, -, hsame⟩
      exact h.distinct other assignmentId known assignment hknown hget (hsame.trans hassigned.symm)
    · rintro ⟨assignmentId, ⟨assignment, hget, rfl, rfl⟩, -⟩
      obtain ⟨known, hknown, hname⟩ := h.assigned assignmentId assignment hget
      obtain rfl := Option.some.inj (hexecution.symm.trans hknown)
      exact hname
  · intro id id' execution execution' name hexecution hexecution' hname hname'
    obtain ⟨assignmentId, assignment, hget, rfl, hassigned⟩ :=
      h.named id execution name hexecution hname
    obtain ⟨other, known, hknown, rfl, hsame⟩ :=
      h.named id' execution' name hexecution' hname'
    obtain rfl := h.distinct assignmentId other assignment known hget hknown
      (hassigned.trans hsame.symm)
    rw [Option.some.inj (hget.symm.trans hknown)]

/-! ### Events -/

/-- An execution is created with a name. -/
def CreatesNamed : KernelPayload → Prop
  | .executionCreated execution => execution.agentName ≠ none
  | _ => False

/-- A rewrite of executions that keeps their names keeps the two in step. -/
theorem Kernel.NamesAgree.of_names (h : k.NamesAgree)
    (hassignments : next.agentNameAssignments = k.agentNameAssignments)
    (hnames : ∀ id, (next.executions.get? id).map (·.agentName) =
      (k.executions.get? id).map (·.agentName)) : next.NamesAgree := by
  have hback {id : String} {execution : Execution}
      (hget : next.executions.get? id = some execution) :
      ∃ known, k.executions.get? id = some known ∧ known.agentName = execution.agentName := by
    have hname := hnames id
    rw [hget, Option.map_some] at hname
    exact Option.map_eq_some_iff.mp hname.symm
  have hforth {id : String} {known : Execution} (hget : k.executions.get? id = some known) :
      ∃ execution, next.executions.get? id = some execution ∧
        execution.agentName = known.agentName := by
    have hname := hnames id
    rw [hget, Option.map_some] at hname
    exact Option.map_eq_some_iff.mp hname
  constructor
  · rw [hassignments]
    intro id assignment hget
    obtain ⟨known, hknown, hname⟩ := h.assigned id assignment hget
    obtain ⟨execution, hexecution, hsame⟩ := hforth hknown
    exact ⟨execution, hexecution, hsame.trans hname⟩
  · rw [hassignments]
    intro id execution name hget hname
    obtain ⟨known, hknown, hsame⟩ := hback hget
    exact h.named id known name hknown (hsame.trans hname)
  · rw [hassignments]
    exact h.distinct

/-- An execution without a name keeps the two in step. -/
theorem Kernel.NamesAgree.created (h : k.NamesAgree) {created : Execution}
    (hassignments : next.agentNameAssignments = k.agentNameAssignments)
    (hexecutions : next.executions = k.executions.set created.executionId created)
    (hfresh : k.executions.contains created.executionId = false)
    (hunnamed : created.agentName = none) : next.NamesAgree := by
  rw [OrderedDict.contains_eq_false_iff] at hfresh
  constructor
  · rw [hassignments, hexecutions]
    intro id assignment hget
    obtain ⟨known, hknown, hname⟩ := h.assigned id assignment hget
    have hne : created.executionId ≠ assignment.executionId := by
      intro heq
      rw [← heq, hfresh] at hknown
      cases hknown
    exact ⟨known, (OrderedDict.get?_set_of_ne _ _ hne).trans hknown, hname⟩
  · rw [hassignments, hexecutions]
    intro id execution name hget hname
    rw [OrderedDict.get?_set] at hget
    split_ifs at hget
    · obtain rfl := Option.some.inj hget
      cases hunnamed.symm.trans hname
    · exact h.named id execution name hget hname
  · rw [hassignments]
    exact h.distinct

/-- An assignment of a new name to an execution without one keeps the two in step. -/
theorem Kernel.NamesAgree.nameAssigned (h : k.NamesAgree) {assignment : AgentNameAssignment}
    (hassignments : next.agentNameAssignments =
      k.agentNameAssignments.set assignment.assignmentId assignment)
    (hexecutions : next.executions = k.executions.modify assignment.executionId fun execution =>
      { execution with agentName := some assignment.agentName })
    (hpermits : k.Permits event (.agentNameAssigned assignment)) : next.NamesAgree := by
  obtain ⟨-, hfresh, hnew, execution, hexecution, -, hunnamed⟩ := hpermits
  rw [OrderedDict.contains_eq_false_iff] at hfresh
  have hold {id : String} {known : AgentNameAssignment}
      (hget : k.agentNameAssignments.get? id = some known) :
      assignment.assignmentId ≠ id ∧ assignment.executionId ≠ known.executionId := by
    constructor
    · rintro rfl
      cases hfresh.symm.trans hget
    · intro heq
      obtain ⟨other, hother, hname⟩ := h.assigned id known hget
      rw [← heq, hexecution] at hother
      obtain rfl := Option.some.inj hother
      cases hunnamed.symm.trans hname
  constructor
  · rw [hassignments, hexecutions]
    intro id known hget
    rw [OrderedDict.get?_set] at hget
    split_ifs at hget with hid
    · obtain rfl := Option.some.inj hget
      rw [OrderedDict.get?_modify, if_pos rfl, hexecution]
      exact ⟨_, rfl, rfl⟩
    · rw [OrderedDict.get?_modify, if_neg (hold hget).2]
      exact h.assigned id known hget
  · rw [hassignments, hexecutions]
    intro id known name hget hname
    rw [OrderedDict.get?_modify] at hget
    split_ifs at hget with hid
    · obtain ⟨other, -, rfl⟩ := Option.map_eq_some_iff.mp hget
      exact ⟨assignment.assignmentId, assignment, OrderedDict.get?_set_self _ _ _, hid,
        Option.some.inj hname⟩
    · obtain ⟨assignmentId, old, hassigned, hexecutionId, hsame⟩ := h.named id known name hget hname
      rw [← OrderedDict.get?_set_of_ne _ assignment (hold hassigned).1] at hassigned
      exact ⟨assignmentId, old, hassigned, hexecutionId, hsame⟩
  · rw [hassignments]
    have hdistinct {id : String} {known : AgentNameAssignment}
        (hget : k.agentNameAssignments.get? id = some known) :
        known.agentName ≠ assignment.agentName := hnew known (OrderedDict.mem_values_of_get? hget)
    intro id id' known known' hget hget' hname
    rw [OrderedDict.get?_set] at hget hget'
    split_ifs at hget with hid <;> split_ifs at hget' with hid'
    · exact hid.symm.trans hid'
    · obtain rfl := Option.some.inj hget
      exact absurd hname.symm (hdistinct hget')
    · obtain rfl := Option.some.inj hget'
      exact absurd hname (hdistinct hget)
    · exact h.distinct id id' known known' hget hget' hname

/-- **Every event but such a creation** keeps the names in step. -/
theorem namesAgree_kept :
    Kernel.KeptExcept (fun _ _ payload => CreatesNamed payload) Kernel.NamesAgree where
  changes := by
    intro k event payload next _ h hpermits hchanges hnot
    have hassignments := hchanges.agent_name_assignments
    have hexecutions := hchanges.executions
    cases payload <;>
      simp only [Kernel.agentNameAssignmentsAfter, Kernel.executionsAfter]
        at hassignments hexecutions
    case executionCreated created =>
      obtain ⟨-, -, -, hfresh, -⟩ := hpermits
      exact h.created hassignments hexecutions hfresh (not_not.mp hnot)
    case agentNameAssigned assignment => exact h.nameAssigned hassignments hexecutions hpermits
    case executionStateChanged =>
      refine h.of_names hassignments fun id => ?_
      rw [hexecutions]
      exact OrderedDict.map_get?_modify _ _ (by exact fun _ => rfl) id
    case pilotExecutionReceiptRecorded =>
      refine h.of_names hassignments fun id => ?_
      rw [hexecutions]
      exact OrderedDict.map_get?_modify _ _ (by exact fun _ => rfl) id
    case humanIntervention =>
      refine h.of_names hassignments fun id =>
        hexecutions ▸ OrderedDict.map_get?_mapValues _ (fun _ execution => ?_) id
      rw [Kernel.intervened]
      split_ifs <;> rfl
    case pilotHostDisconnected =>
      refine h.of_names hassignments fun id =>
        hexecutions ▸ OrderedDict.map_get?_mapValues _ (fun _ execution => ?_) id
      rw [Kernel.disconnected]
      split_ifs <;> rfl
    all_goals exact h.of_names hassignments fun id => by rw [hexecutions]
  collections _ _ h := { h with }
  created _ _ h := h
  promoted _ _ _ h := h

/-! ### Runs -/

variable [Sha256]

/-- The step creates this execution, passes its checks and its event is accepted. -/
def AcceptsExecution (s : MemorySystem) (input : ProcessCommand × Clock) (execution : Execution) :
    Prop :=
  ∃ actorId key r, input.1 = .service (.kernel (.createExecution execution actorId key)) ∧
    s.kernel.createExecution execution actorId key input.2 = .ok r ∧ r.Accepted s

/-- **The condition on a step**: an execution that it creates has no name yet. -/
def CreatesUnnamed (s : MemorySystem) (input : ProcessCommand × Clock) : Prop :=
  ∀ execution, AcceptsExecution s input execution → execution.agentName = none

/-- **The law of agent names** holds in every run, with restarts anywhere in it, that creates
executions without a name. -/
theorem agentNameLaw_of_createsUnnamed (dataSpace : DataSpace)
    (inputs : List (ProcessCommand × Clock))
    (hc : Run.Along ProcessCommand.step CreatesUnnamed (.new dataSpace) inputs) :
    (runProcesses (.new dataSpace) inputs).kernel.AgentNameLaw := by
  refine (namesAgree_kept.system.run ?_ dataSpace ?_ hc).law
  · intro s c clock hc streamId payload hrecords hdefect
    cases payload <;> simp only [CreatesNamed] at hdefect
    case executionCreated execution =>
      obtain ⟨actorId, key, rfl⟩ := hrecords.createExecution
      rw [KernelCommand.run]
      exact finalState_performKernel_of_not_accepted fun r hr haccepted =>
        hdefect (hc execution ⟨actorId, key, r, rfl, hr, haccepted⟩)
  · exact Kernel.namesAgree_new dataSpace

/-! ### An execution with a name -/

/-- The name that the registry gives to the company's execution. -/
def companyAssignment : AgentNameAssignment where
  assignmentId := "assignment:1"
  dataSpaceId := "space:company-1"
  workItemId := "work:1"
  executionId := "execution:1"
  nodeId := "node:owner-interface"
  pilotId := "pilot:1"
  agentName := "Aki"
  baseName := "Aki"
  suffix := 1
  nameColumn := .japanese
  scale := 2
  provider := "anthropic"
  modelCandidateKey := "candidate"
  suffix_pos := Nat.le_refl 1
  suffix_matches_name := rfl

/-- The company starts an execution, which then gets its name, and the process restarts. -/
def namedRun : List (ProcessCommand × Clock) :=
  startedRun.map (fun input => (.service input.1, input.2)) ++
    [(.service (.kernel (.recordAgentNameAssignment companyAssignment
        ⟨.ofList [("assignment:1", companyAssignment)], .empty⟩ "pilot:1" "name:1")), fun _ => 0),
      (.restart 500, fun _ => 0)]

omit [Sha256] in
/-- The execution has the name of its assignment. -/
theorem agentNameLaw_of_namedRun :
    letI := Sha256.polynomial
    (runProcesses (.new companySpace) namedRun).kernel.AgentNameLaw ∧
      ((runProcesses (.new companySpace) namedRun).kernel.executions.get? "execution:1").map
        (·.agentName) = some (some "Aki") := by
  let := Sha256.polynomial
  refine ⟨agentNameLaw_of_createsUnnamed companySpace namedRun ?_, by decide +kernel⟩
  refine Run.along_of_forall fun input hinput s execution => ?_
  rintro ⟨actorId, key, r, heq, -⟩
  simp only [namedRun, startedRun, commissioning, List.map_cons, List.map_nil,
    List.cons_append, List.nil_append, List.mem_cons, List.not_mem_nil, or_false] at hinput
  rcases hinput with rfl | rfl | rfl | rfl | rfl | rfl | rfl | rfl | rfl <;>
    simp only [ProcessCommand.service.injEq, ServiceCommand.kernel.injEq, reduceCtorEq,
      KernelCommand.createExecution.injEq] at heq
  rw [← heq.1]
  rfl

/-- An execution that comes with a name. -/
def foundling : Execution := { companyExecution with agentName := some "Aki" }

/-- The company starts it. -/
def foundlingRun : List (ProcessCommand × Clock) :=
  commissioning.map (fun input => (.service input.1, input.2)) ++
    [(.service (.kernel (.createExecution foundling "owner:1" "execution:1")), fun _ => 0)]

omit [Sha256] in
/-- **The law fails**: the execution has a name, and there is no assignment. -/
theorem named_creation_breaks_agentNameLaw :
    letI := Sha256.polynomial
    ¬ (runProcesses (.new companySpace) foundlingRun).kernel.AgentNameLaw := by
  let := Sha256.polynomial
  intro hlaw
  have hexecution : (runProcesses (.new companySpace) foundlingRun).kernel.executions.get?
      "execution:1" = some foundling := by
    decide +kernel
  have hnone : (runProcesses (.new companySpace) foundlingRun).kernel.agentNameAssignments =
      .empty := by
    decide +kernel
  have hnamed : foundling.agentName = some "Aki" := rfl
  generalize (runProcesses (.new companySpace) foundlingRun).kernel = k at hlaw hexecution hnone
  obtain ⟨assignmentId, ⟨assignment, hget, -⟩, -⟩ := (hlaw.named_iff _ _ hexecution "Aki").mp hnamed
  rw [hnone] at hget
  cases hget

end Nanihold
