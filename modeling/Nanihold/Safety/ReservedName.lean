import Nanihold.Replay.Restart
import Nanihold.Safety.Naming

/-!
# The reserved name

The name of the owner's seat is kept back by its row: a row is not offered when its Japanese name
or its coordinate is the reserved one. The English and the Latin name of a row are not looked at,
so a table may give the reserved name to an agent.

## Main definitions

* `NeverGivenOut` — no run issues the reserved name, and no Kernel records it.
* `ReservesName` — the condition on a table.

## Main results

* `exists_issued` — every name of an offered row is issued in some run.
* `neverGivenOut_iff_reservesName` — the law holds for the tables that meet the condition.
* `english_seat_breaks_neverGivenOut` — a table that gives the name to a registered agent.
-/

namespace Nanihold

/-- The Kernel recorded the reserved name for no agent. -/
structure Kernel.SeatReserved (k : Kernel) : Prop where
  assignments : ∀ id assignment, k.agentNameAssignments.get? id = some assignment →
    assignment.agentName ≠ reservedAgentName
  registrations : ∀ id registration, k.agentNameRegistrations.get? id = some registration →
    registration.agentName ≠ reservedAgentName

/-- The registry that a command shows the Kernel. -/
def ProcessCommand.namingRegistry : ProcessCommand → Option AgentNameRegistry
  | .service (.kernel (.recordAgentNameAssignment _ registry _ _)) => some registry
  | .service (.kernel (.registerAgentIdentity _ registry _ _)) => some registry
  | _ => none

/-- The step shows the Kernel a registry that a run over the table reached. -/
def UsesTable (rows : List AgentNameRow) (_ : MemorySystem) (input : ProcessCommand × Clock) :
    Prop :=
  ∀ registry, input.1.namingRegistry = some registry →
    ∃ h : NamingHistory, h.Reached rows ∧ registry = h.allocator.registry

/-- **The reserved name is never given out**: no run over the table issues it, and no Kernel that
is shown the registries of such runs records it. -/
structure NeverGivenOut [Sha256] (rows : List AgentNameRow) : Prop where
  issued : ∀ h : NamingHistory, h.Reached rows → reservedAgentName ∉ h.names
  recorded : ∀ dataSpace inputs,
    Run.Along ProcessCommand.step (UsesTable rows) (.new dataSpace) inputs →
      (runProcesses (.new dataSpace) inputs).kernel.SeatReserved

/-- **The condition on a table**: no row that names are issued from has the reserved name as its
English or its Latin name. -/
def ReservesName (rows : List AgentNameRow) : Prop :=
  ∀ row ∈ rows, row.isOffered = true →
    row.englishName ≠ reservedAgentName ∧ row.latinName ≠ reservedAgentName

variable {rows : List AgentNameRow}

/-! ### Names that are offered -/

/-- A suffix does not make the reserved name out of another one. -/
theorem suffixedName_ne_reserved {baseName : String} (h : baseName ≠ reservedAgentName)
    (suffix : Nat) : suffixedName baseName suffix ≠ reservedAgentName := by
  by_cases hone : suffix = 1
  · rw [hone, suffixedName_one]
    exact h
  · rw [suffixedName_of_ne _ hone]
    intro heq
    have hlist : baseName.toList ++ Nat.toDigits 10 suffix = "Nagi".toList := by
      rw [← Nat.toList_repr, ← String.toList_append, heq]
      rfl
    -- The reserved name ends in a letter, and a suffix ends in a digit.
    have hlast : (Nat.toDigits 10 suffix).getLast? = some 'i' := by
      rw [← List.getLast?_append_of_ne_nil baseName.toList Nat.toDigits_ne_nil, hlist]
      rfl
    have hdigit := Nat.isDigit_of_mem_toDigits (by omega) (by omega)
      (List.mem_of_getLast? hlast)
    cases hdigit

/-- A name from the rows of such a table is not the reserved one. -/
theorem IssuedName.OfferedBy.ne_reserved {name : IssuedName} (hrows : ReservesName rows)
    (h : name.OfferedBy rows) : name.agentName ≠ reservedAgentName := by
  obtain ⟨row, hrow, hoffered, -, hname⟩ := h
  rw [name.suffix_matches_name, ← hname]
  refine suffixedName_ne_reserved ?_ _
  obtain ⟨henglish, hlatin⟩ := hrows row hrow hoffered
  cases name.nameColumn with
  | english => exact henglish
  | latin => exact hlatin
  | japanese =>
    rw [AgentNameRow.isOffered, AgentNameRow.isReserved, Bool.and_eq_true, Bool.not_eq_true',
      decide_eq_false_iff_not, not_or] at hoffered
    exact hoffered.2.1

theorem NamingHistory.not_reserved {h : NamingHistory} (hrows : ReservesName rows)
    (hreached : h.Reached rows) : reservedAgentName ∉ h.names := by
  have ht := tracked_of_reached hreached
  intro hmem
  rcases List.mem_append.mp hmem with hmem | hmem
  · obtain ⟨assignment, hassignment, heq⟩ := List.mem_map.mp hmem
    exact (ht.issued.assignments_offered assignment hassignment).ne_reserved hrows heq
  · obtain ⟨registration, hregistration, heq⟩ := List.mem_map.mp hmem
    exact (ht.issued.registrations_offered registration hregistration).ne_reserved hrows heq

/-! ### What the Kernel records -/

/-- An assignment of the reserved name. -/
def AssignsReserved : KernelPayload → Prop
  | .agentNameAssigned assignment => assignment.agentName = reservedAgentName
  | _ => False

/-- **Every event but such an assignment** keeps the name back; a registration of it is refused. -/
theorem seatReserved_kept :
    Kernel.KeptExcept (fun _ _ payload => AssignsReserved payload) Kernel.SeatReserved where
  changes := by
    intro k event payload next _ h hpermits hchanges hnot
    have hassignments := hchanges.agent_name_assignments
    have hregistrations := hchanges.agent_name_registrations
    cases payload <;>
      simp only [Kernel.agentNameAssignmentsAfter, Kernel.agentNameRegistrationsAfter]
        at hassignments hregistrations
    case agentNameAssigned assignment =>
      refine ⟨fun id known hget => ?_, hregistrations ▸ h.registrations⟩
      rw [hassignments, OrderedDict.get?_set] at hget
      split_ifs at hget
      · exact Option.some.inj hget ▸ hnot
      · exact h.assignments id known hget
    case agentIdentityRegistered registration =>
      refine ⟨hassignments ▸ h.assignments, fun id known hget => ?_⟩
      rw [hregistrations, OrderedDict.get?_set] at hget
      split_ifs at hget
      · obtain rfl := Option.some.inj hget
        intro heq
        obtain ⟨-, -, hunregistered, -⟩ := hpermits
        rw [Kernel.agentNameIsRegistered, heq] at hunregistered
        cases hunregistered
      · exact h.registrations id known hget
    all_goals exact ⟨hassignments ▸ h.assignments, hregistrations ▸ h.registrations⟩
  collections _ _ h := { h with }
  created _ _ h := h
  promoted _ _ _ h := h

/-- The Kernel refuses an assignment that the registry it is shown did not make. -/
theorem recordAgentNameAssignment_issued {k : Kernel} {assignment : AgentNameAssignment}
    {registry : AgentNameRegistry} {actorId key : String} {clock : Clock} {r : Recording Kernel}
    (h : k.recordAgentNameAssignment assignment registry actorId key clock = .ok r) :
    registry.assignments.get? assignment.assignmentId = some assignment := by
  rw [Kernel.recordAgentNameAssignment, AgentNameRegistry.assignmentForId] at h
  obtain ⟨issued, hissued, h⟩ := Checked.orRaise_bind_eq_ok_iff.mp h
  obtain ⟨rfl, -⟩ := Checked.check_bind_eq_ok_iff.mp h
  exact hissued

variable [Sha256]

/-- A Kernel that is shown the registries of such a table keeps the name back. -/
theorem seatReserved_run (hrows : ReservesName rows) (dataSpace : DataSpace)
    (inputs : List (ProcessCommand × Clock))
    (hc : Run.Along ProcessCommand.step (UsesTable rows) (.new dataSpace) inputs) :
    (runProcesses (.new dataSpace) inputs).kernel.SeatReserved := by
  refine seatReserved_kept.system.run ?_ dataSpace ?_ hc
  · intro s c clock hc streamId payload hrecords hdefect
    cases payload <;> simp only [AssignsReserved] at hdefect
    case agentNameAssigned assignment =>
      obtain ⟨registry, actorId, key, rfl⟩ := hrecords.recordAgentNameAssignment
      obtain ⟨h, hreached, rfl⟩ := hc registry rfl
      rw [KernelCommand.run]
      refine finalState_performKernel_of_not_accepted fun r hr _ => ?_
      have ht := NamingHistory.tracked_of_reached hreached
      have hissued := ht.knows.assigned _ _ (recordAgentNameAssignment_issued hr)
      exact (ht.issued.assignments_offered _ hissued).ne_reserved hrows hdefect
  · constructor
    · intro id assignment hget
      cases hget
    · intro id registration hget
      cases hget

omit [Sha256]

/-! ### Every offered name is issued -/

/-- A provider of the family that a column is for. -/
def NameColumn.provider : NameColumn → String
  | .japanese => "anthropic"
  | .english => "openai"
  | .latin => "other"

theorem NameColumn.isNonBlank_provider (column : NameColumn) :
    isNonBlank column.provider = true := by
  cases column <;> decide

/-- A candidate whose names come from a column and a scale. -/
def candidateFor (column : NameColumn) (scale : Nat) : ModelCandidate where
  key := "candidate"
  provider := column.provider
  modelSnapshot := some (if scale = 1 then "luna" else if scale = 2 then "terra" else "sol")

theorem nameColumn_candidateFor (column : NameColumn) {scale : Nat}
    (hscale : scale = 1 ∨ scale = 2 ∨ scale = 3) :
    nameColumn (candidateFor column scale) = column := by
  rcases hscale with rfl | rfl | rfl <;> cases column <;> decide +kernel

theorem scaleFor_candidateFor (column : NameColumn) {scale : Nat}
    (hscale : scale = 1 ∨ scale = 2 ∨ scale = 3) :
    scaleFor (candidateFor column scale) = .ok scale := by
  rcases hscale with rfl | rfl | rfl <;> cases column <;> decide +kernel

namespace AgentNameAllocator

variable {a : AgentNameAllocator} {candidate : ModelCandidate} {scale n : Nat}

/-- As long as no name is in use, the rotation takes the row at the start. -/
theorem selectRow_of_unused (hused : a.usedNames = ∅) (column : NameColumn)
    {pool : List AgentNameRow} (hpool : pool ≠ []) (hn : n < pool.length) :
    a.selectRow column pool hpool n = (pool.get ⟨n, hn⟩, n) := by
  have hlength : 0 < (pool.zipIdx.rotate n).length := by
    rw [List.length_rotate, List.length_zipIdx]
    omega
  have hhead : (pool.zipIdx.rotate n).head (rotation_ne_nil hpool n) = (pool.get ⟨n, hn⟩, n) := by
    rw [← List.getElem_zero_eq_head hlength, List.getElem_rotate]
    simp only [List.length_zipIdx, Nat.zero_add, Nat.mod_eq_of_lt hn, List.getElem_zipIdx,
      List.get_eq_getElem]
  unfold selectRow
  rw [hused, hhead]
  cases hrotation : pool.zipIdx.rotate n with
  | nil => rfl
  | cons first rest =>
    have hfirst : first = (pool.get ⟨n, hn⟩, n) := by
      rw [← hhead]
      simp only [hrotation, List.head_cons]
    rw [List.find?_cons_of_pos, Option.getD_some, hfirst]
    exact decide_eq_true (Finset.notMem_empty _)

/-- The choice then is the name of the row that the index stands at. -/
theorem issueName_of_unused (checks : AgentNameRegistry → Except VsmError Unit)
    (hused : a.usedNames = ∅) (hscale : scaleFor candidate = .ok scale)
    (hindex : a.nextIndex.getD (scale, nameColumn candidate) 0 = n)
    (hn : n < (a.pool scale).length) (hchecks : checks a.registry = .ok ()) :
    ∃ name, issueName candidate checks a =
        .ok name (a.withIndex (a.nextIndex.set (scale, nameColumn candidate) (n + 1))) ∧
      name.agentName = ((a.pool scale).get ⟨n, hn⟩).nameFor (nameColumn candidate) ∧
      name.baseName = ((a.pool scale).get ⟨n, hn⟩).nameFor (nameColumn candidate) := by
  have hpool : a.pool scale ≠ [] := List.ne_nil_of_length_pos (Nat.zero_lt_of_lt hn)
  have hrow := selectRow_of_unused hused (nameColumn candidate) hpool hn
  have hsuffix (baseName : String) : firstSuffix a.usedNames baseName = 1 :=
    FreshName.firstUnused_of_notMem (hused ▸ Finset.notMem_empty _)
  refine ⟨(a.nextName scale (nameColumn candidate) (a.pool scale) hpool).1, ?_, ?_, ?_⟩
  · rw [issueName, EStateM.run_get_bind, hscale, EStateM.run_ofExcept_ok_bind, dif_neg hpool,
      hchecks, EStateM.run_ofExcept_ok_bind]
    simp only [nextName, hindex, Nat.mod_eq_of_lt hn, hrow]
    rfl
  · simp only [nextName, hindex, Nat.mod_eq_of_lt hn, hrow, hsuffix, suffixedName_one]
  · simp only [nextName, hindex, Nat.mod_eq_of_lt hn, hrow]

end AgentNameAllocator

/-- A call for a candidate, in a data space. -/
def callFor (candidate : ModelCandidate) (dataSpaceId : String) : NamingCall :=
  .allocate "assignment:1" dataSpaceId "work:1" "execution:1" "node:1" "pilot:1" candidate

/-- The check that the call's identifier is new. -/
def isNewAssignment (assignmentId : String) (registry : AgentNameRegistry) :
    Except VsmError Unit :=
  require (registry.assignments.contains assignmentId = false)
    s!"agent-name assignment already exists: {assignmentId}"

/-- The data model refuses an assignment without a data space. -/
theorem AgentNameAssignment.not_isValid {assignment : AgentNameAssignment}
    (h : isIdentifier assignment.dataSpaceId = false) : assignment.isValid = false := by
  simp only [isValid, h, Bool.and_false, Bool.false_and]

section Rotation

variable {a : AgentNameAllocator} {column : NameColumn} {scale n : Nat}

/-- A call that its data model refuses moves the index on. -/
theorem call_refused (hscale : scale = 1 ∨ scale = 2 ∨ scale = 3) (hused : a.usedNames = ∅)
    (hids : a.registry.assignments = .empty) (hindex : a.nextIndex.getD (scale, column) 0 = n)
    (hn : n < (a.pool scale).length) :
    NamingHistory.call ⟨a, [], []⟩ (callFor (candidateFor column scale) "") =
      ⟨a.withIndex (a.nextIndex.set (scale, column) (n + 1)), [], []⟩ := by
  have hcolumn := nameColumn_candidateFor column hscale
  obtain ⟨name, hissued, -, -⟩ := AgentNameAllocator.issueName_of_unused
    (isNewAssignment "assignment:1") hused
    (scaleFor_candidateFor column hscale) (hcolumn.symm ▸ hindex) hn
    (by rw [isNewAssignment, hids]; rfl)
  rw [hcolumn] at hissued
  have hraises : ∃ e, AgentNameAllocator.allocate "assignment:1" "" "work:1" "execution:1" "node:1"
      "pilot:1" (candidateFor column scale) a =
        .error e (a.withIndex (a.nextIndex.set (scale, column) (n + 1))) := by
    refine ⟨.validationError "AgentNameAssignment", (EStateM.run_bind_of_ok hissued).trans ?_⟩
    refine congrFun (if_neg ?_) _
    rw [AgentNameAssignment.not_isValid rfl]
    exact Bool.false_ne_true
  obtain ⟨e, hraises⟩ := hraises
  rw [callFor, NamingHistory.call, hraises]

/-- A call that returns issues the name of the row that the index stands at. -/
theorem call_issues (hscale : scale = 1 ∨ scale = 2 ∨ scale = 3) (hused : a.usedNames = ∅)
    (hids : a.registry.assignments = .empty) (hindex : a.nextIndex.getD (scale, column) 0 = n)
    (hn : n < (a.pool scale).length) :
    ((a.pool scale).get ⟨n, hn⟩).nameFor column ∈
      (NamingHistory.call ⟨a, [], []⟩ (callFor (candidateFor column scale) "space:1")).names := by
  have hcolumn := nameColumn_candidateFor column hscale
  obtain ⟨name, hissued, hname, hbase⟩ := AgentNameAllocator.issueName_of_unused
    (isNewAssignment "assignment:1") hused (scaleFor_candidateFor column hscale)
    (hcolumn.symm ▸ hindex) hn
    (by rw [isNewAssignment, hids]; rfl)
  rw [hcolumn] at hissued hname hbase
  have hnonblank := ((a.pool scale).get ⟨n, hn⟩).isNonBlank_nameFor column
  have hprovider : isNonBlank (candidateFor column scale).provider = true :=
    column.isNonBlank_provider
  let assignment : AgentNameAssignment :=
    { name with
      assignmentId := "assignment:1"
      dataSpaceId := "space:1"
      workItemId := "work:1"
      executionId := "execution:1"
      nodeId := "node:1"
      pilotId := "pilot:1"
      provider := (candidateFor column scale).provider
      modelCandidateKey := "candidate" }
  have hvalid : assignment.isValid = true := by
    simp only [AgentNameAssignment.isValid, assignment, hname, hbase, hnonblank, hprovider,
      Bool.and_true]
    decide
  have hreturns : AgentNameAllocator.allocate "assignment:1" "space:1" "work:1" "execution:1"
      "node:1" "pilot:1" (candidateFor column scale) a =
        .ok assignment ((a.withIndex (a.nextIndex.set (scale, column) (n + 1))).withAssignment
          assignment) :=
    (EStateM.run_bind_of_ok hissued).trans (congrFun (if_pos hvalid) _)
  rw [callFor, NamingHistory.call, hreturns, ← hname]
  exact List.mem_append_left _ (List.mem_singleton.mpr rfl)

end Rotation

/-- **Every name of an offered row is issued** in some run over the table. -/
theorem exists_issued {row : AgentNameRow} (hrow : row ∈ rows) (hoffered : row.isOffered = true)
    (column : NameColumn) : ∃ h : NamingHistory, h.Reached rows ∧ row.nameFor column ∈ h.names := by
  let start : AgentNameAllocator := ⟨rows, .empty, ∅, ⟨.empty, .empty⟩⟩
  have hnew : AgentNameAllocator.new rows = .ok start :=
    Checked.check_bind_of (List.ne_nil_of_mem hrow)
  have hpool : row ∈ start.pool row.scale :=
    List.mem_filter.mpr ⟨hrow, by rw [hoffered, Bool.and_true]; exact decide_eq_true rfl⟩
  obtain ⟨⟨n, hn⟩, hget⟩ := List.get_of_mem hpool
  have hrotated (m : Nat) (hm : m ≤ n) : ∃ nextIndex, nextIndex.getD (row.scale, column) 0 = m ∧
      NamingHistory.Reached rows ⟨start.withIndex nextIndex, [], []⟩ := by
    induction m with
    | zero => exact ⟨.empty, rfl, start, hnew, .refl⟩
    | succ m ih =>
      obtain ⟨nextIndex, hindex, fresh, hfresh, hsteps⟩ := ih (by omega)
      have hcall := call_refused (a := start.withIndex nextIndex) row.scale_allowed rfl rfl hindex
        (Nat.lt_of_lt_of_le hm (Nat.le_of_lt hn))
      refine ⟨nextIndex.set (row.scale, column) (m + 1), OrderedDict.getD_set_self _ _ _ _, fresh,
        hfresh, ?_⟩
      exact hsteps.tail (hcall ▸ .called _)
  obtain ⟨nextIndex, hindex, fresh, hfresh, hsteps⟩ := hrotated n (Nat.le_refl n)
  refine ⟨_, ⟨fresh, hfresh,
    hsteps.tail (.called (callFor (candidateFor column row.scale) "space:1"))⟩,
    ?_⟩
  have hissues := call_issues (a := start.withIndex nextIndex) row.scale_allowed rfl rfl hindex hn
  have hsame : ((start.withIndex nextIndex).pool row.scale).get ⟨n, hn⟩ = row := hget
  rwa [hsame] at hissues

/-! ### The law -/

/-- **The reserved name is never given out** exactly over the tables in which no offered row has it
as its English or its Latin name. -/
theorem neverGivenOut_iff_reservesName [Sha256] (rows : List AgentNameRow) :
    NeverGivenOut rows ↔ ReservesName rows := by
  constructor
  · intro hlaw row hrow hoffered
    constructor
    · intro henglish
      obtain ⟨h, hreached, hmem⟩ := exists_issued hrow hoffered .english
      exact hlaw.issued h hreached (henglish ▸ hmem)
    · intro hlatin
      obtain ⟨h, hreached, hmem⟩ := exists_issued hrow hoffered .latin
      exact hlaw.issued h hreached (hlatin ▸ hmem)
  · exact fun hrows => ⟨fun h => NamingHistory.not_reserved hrows, seatReserved_run hrows⟩

/-! ### A table that gives the name away -/

private theorem scale_two_allowed : 2 = 1 ∨ 2 = 2 ∨ 2 = 3 := by decide

private theorem likes_one_allowed : "1" = "" ∨ "1" = "0" ∨ "1" = "1" := by decide

/-- A row whose English name is the name of the owner's seat. -/
def calmRows : List AgentNameRow :=
  [⟨2, "静", "Shizuka", "Nagi", "Serena", "1", scale_two_allowed, by decide, by decide, by decide,
    by decide, likes_one_allowed⟩]

/-- An agent of another provider asks for a name. -/
def calmHistory : NamingHistory :=
  NamingHistory.call ⟨⟨calmRows, .empty, ∅, ⟨.empty, .empty⟩⟩, [], []⟩
    (.allocateOutOfPipeline "registration:1" "space:1" "node:1" "pilot:1"
      ⟨"candidate", "openai", some "gpt-terra"⟩)

/-- **The law fails**: the agent gets the name of the owner's seat. -/
theorem english_seat_breaks_neverGivenOut :
    letI := Sha256.polynomial
    calmHistory.names = [reservedAgentName] ∧ ¬ NeverGivenOut calmRows := by
  let := Sha256.polynomial
  have hnames : calmHistory.names = [reservedAgentName] := by decide +kernel
  refine ⟨hnames, fun hlaw => hlaw.issued calmHistory ⟨_, rfl, .tail .refl (.called _)⟩ ?_⟩
  rw [hnames]
  exact List.mem_singleton.mpr rfl

end Nanihold
