import Mathlib
import Nanihold.AgentNaming.Table
import Nanihold.Library.FreshName
import Nanihold.Library.Program

/-!
# The agent-name allocator

How `AgentNameRegistry` picks the names it issues: from the rows of its table by a rotating index
for each scale and column, with a number behind a base name that is in use. A new process restores
the names that are on record.

## Main definitions

* `AgentNameAllocator` — the table, the rotating indexes, the used names and the registry.
* `AgentNameAllocator.nextName` — the choice of a name.
* `AgentNameAllocator.allocate`, `AgentNameAllocator.allocateOutOfPipeline` — issue a name.
* `AgentNameAllocator.restore`, `AgentNameAllocator.restoreRegistrations` — restore names.

## Main results

* `suffixedName_injective` — no two suffixes give one name.
* `AgentNameAllocator.allocate_ok`, `AgentNameAllocator.allocate_error` — what a call leaves.
-/

namespace Nanihold

/-! ### Suffixes -/

theorem suffixedName_one (baseName : String) : suffixedName baseName 1 = baseName := rfl

theorem suffixedName_of_ne (baseName : String) {suffix : Nat} (h : suffix ≠ 1) :
    suffixedName baseName suffix = baseName ++ suffix.repr := by
  rw [suffixedName, if_neg h]
  rfl

/-- **No two suffixes give one name.** -/
theorem suffixedName_injective (baseName : String) :
    Function.Injective (suffixedName baseName) := by
  intro m n h
  by_cases hm : m = 1 <;> by_cases hn : n = 1
  · rw [hm, hn]
  · rw [hm, suffixedName_one, suffixedName_of_ne _ hn] at h
    exact absurd (String.append_eq_left_iff.mp h.symm) Nat.repr_ne_empty
  · rw [hn, suffixedName_one, suffixedName_of_ne _ hm] at h
    exact absurd (String.append_eq_left_iff.mp h) Nat.repr_ne_empty
  · rw [suffixedName_of_ne _ hm, suffixedName_of_ne _ hn, String.append_right_inj] at h
    exact Nat.repr_injective h

/-- The first suffix that makes a name out of the base name that is not in use. -/
def firstSuffix (usedNames : Finset String) (baseName : String) : Nat :=
  FreshName.firstUnused usedNames (suffixedName baseName) 1

/-! ### Issued names -/


/-- The name that an assignment gives. -/
def AgentNameAssignment.issued (assignment : AgentNameAssignment) : IssuedName where
  agentName := assignment.agentName
  baseName := assignment.baseName
  suffix := assignment.suffix
  nameColumn := assignment.nameColumn
  scale := assignment.scale
  suffix_pos := assignment.suffix_pos
  suffix_matches_name := assignment.suffix_matches_name

/-- The name that a registration gives. -/
def AgentIdentityRegistration.issued (registration : AgentIdentityRegistration) : IssuedName where
  agentName := registration.agentName
  baseName := registration.baseName
  suffix := registration.suffix
  nameColumn := registration.nameColumn
  scale := registration.scale
  suffix_pos := registration.suffix_pos
  suffix_matches_name := registration.suffix_matches_name

/-- The data model of an assignment accepts its fields. -/
def AgentNameAssignment.isValid (assignment : AgentNameAssignment) : Bool :=
  isIdentifier assignment.assignmentId && isIdentifier assignment.dataSpaceId &&
    isIdentifier assignment.workItemId && isIdentifier assignment.executionId &&
    isIdentifier assignment.nodeId && isIdentifier assignment.pilotId &&
    isNonBlank assignment.agentName && isNonBlank assignment.baseName &&
    isNonBlank assignment.provider && isNonBlank assignment.modelCandidateKey

/-- The data model of a registration accepts its fields. -/
def AgentIdentityRegistration.isValid (registration : AgentIdentityRegistration) : Bool :=
  isIdentifier registration.registrationId && isIdentifier registration.dataSpaceId &&
    isIdentifier registration.nodeId && isIdentifier registration.pilotId &&
    isNonBlank registration.agentName && isNonBlank registration.baseName &&
    isNonBlank registration.provider && isNonBlank registration.modelCandidateKey

/-! ### The allocator -/

/-- The table, and what the process knows of the names that were issued from it. -/
structure AgentNameAllocator where
  rows : List AgentNameRow
  nextIndex : OrderedDict (Nat × NameColumn) Nat
  usedNames : Finset String
  registry : AgentNameRegistry

/-- A program of the allocator. -/
abbrev NamingM (α : Type) := EStateM VsmError AgentNameAllocator α

namespace AgentNameAllocator

/-- An allocator over a table; nothing was issued yet. -/
def new (rows : List AgentNameRow) : Except VsmError AgentNameAllocator := do
  require (rows ≠ []) "Agent_name.csv must contain at least one row"
  return ⟨rows, .empty, ∅, ⟨.empty, .empty⟩⟩

variable (a : AgentNameAllocator)

/-- The rows that names of a scale are issued from. -/
def pool (scale : Nat) : List AgentNameRow :=
  a.rows.filter fun row => decide (row.scale = scale) && row.isOffered

theorem rotation_ne_nil {pool : List AgentNameRow} (hpool : pool ≠ []) (start : Nat) :
    pool.zipIdx.rotate start ≠ [] := by
  simpa only [ne_eq, List.rotate_eq_nil_iff, List.zipIdx_eq_nil_iff] using hpool

/-- The row that the next base name is taken from, and its index: the first one from the start on
whose name is not in use, else the one at the start. -/
def selectRow (column : NameColumn) (pool : List AgentNameRow) (hpool : pool ≠ [])
    (start : Nat) : AgentNameRow × Nat :=
  ((pool.zipIdx.rotate start).find? fun row => row.1.nameFor column ∉ a.usedNames).getD
    ((pool.zipIdx.rotate start).head (rotation_ne_nil hpool start))

/-- `_next_name`. -/
def nextName (scale : Nat) (column : NameColumn) (pool : List AgentNameRow) (hpool : pool ≠ []) :
    IssuedName × AgentNameAllocator :=
  let start := a.nextIndex.getD (scale, column) 0 % pool.length
  let selected := a.selectRow column pool hpool start
  let baseName := selected.1.nameFor column
  let suffix := firstSuffix a.usedNames baseName
  ({ agentName := suffixedName baseName suffix
     baseName := baseName
     suffix := suffix
     nameColumn := column
     scale := scale
     suffix_pos := FreshName.le_firstUnused 1
     suffix_matches_name := rfl },
    { a with nextIndex := a.nextIndex.set (scale, column) (selected.2 + 1) })

/-- What the two ways to issue a name share: the part of the table for the candidate, the checks
of the identifier, and the choice of the name. -/
def issueName (candidate : ModelCandidate) (checks : AgentNameRegistry → Except VsmError Unit) :
    NamingM IssuedName := do
  let a ← get
  let scale ← EStateM.ofExcept (scaleFor candidate)
  let column := nameColumn candidate
  if hpool : a.pool scale = [] then
    throw (.invariantViolation
      s!"Agent_name.csv has no eligible names for scale {scale} and column {column.text}")
  else
    EStateM.ofExcept (checks a.registry)
    let (name, next) := a.nextName scale column (a.pool scale) hpool
    set next
    return name

/-- The allocator after an assignment was made or restored. -/
def withAssignment (assignment : AgentNameAssignment) : AgentNameAllocator :=
  { a with
    usedNames := insert assignment.agentName a.usedNames
    registry := { a.registry with
      assignments := a.registry.assignments.set assignment.assignmentId assignment } }

/-- The allocator after a registration was made or restored. -/
def withRegistration (registration : AgentIdentityRegistration) : AgentNameAllocator :=
  { a with
    usedNames := insert registration.agentName a.usedNames
    registry := { a.registry with
      registrations := a.registry.registrations.set registration.registrationId registration } }

/-! ### Issue a name -/

/-- `allocate`. -/
def allocate (assignmentId dataSpaceId workItemId executionId nodeId pilotId : String)
    (candidate : ModelCandidate) : NamingM AgentNameAssignment := do
  let name ← issueName candidate fun registry =>
    require (registry.assignments.contains assignmentId = false)
      s!"agent-name assignment already exists: {assignmentId}"
  let assignment : AgentNameAssignment :=
    { name with
      assignmentId := assignmentId
      dataSpaceId := dataSpaceId
      workItemId := workItemId
      executionId := executionId
      nodeId := nodeId
      pilotId := pilotId
      provider := candidate.provider
      modelCandidateKey := candidate.key }
  if assignment.isValid then
    modify (·.withAssignment assignment)
    return assignment
  else
    throw (.validationError "AgentNameAssignment")

/-- `allocate_out_of_pipeline`. -/
def allocateOutOfPipeline (registrationId dataSpaceId nodeId pilotId : String)
    (candidate : ModelCandidate) : NamingM AgentIdentityRegistration := do
  let name ← issueName candidate fun registry => do
    require (registry.registrations.contains registrationId = false)
      s!"agent identity registration already exists: {registrationId}"
    require (registry.assignments.contains registrationId = false)
      s!"registration id collides with an agent-name assignment: {registrationId}"
  let registration : AgentIdentityRegistration :=
    { name with
      registrationId := registrationId
      dataSpaceId := dataSpaceId
      nodeId := nodeId
      pilotId := pilotId
      provider := candidate.provider
      modelCandidateKey := candidate.key }
  if registration.isValid then
    modify (·.withRegistration registration)
    return registration
  else
    throw (.validationError "AgentIdentityRegistration")

/-! ### Restore names -/

/-- `_resolve_eligible_row`. -/
def resolveEligibleRow (scale : Nat) (column : NameColumn) (baseName notPresentMessage
    forbiddenMessage : String) : Except VsmError AgentNameRow := do
  let matchingRows := a.rows.filter fun row =>
    decide (row.scale = scale) && decide (row.nameFor column = baseName)
  require (matchingRows ≠ []) notPresentMessage
  found (matchingRows.filter AgentNameRow.isOffered).head? forbiddenMessage

/-- What the two ways to restore a name share: the name is not in use, and its base name stands in
a row that names are issued from. -/
def admitName (kind : String) (name : IssuedName) : Except VsmError Unit := do
  require (name.agentName ∉ a.usedNames)
    s!"agent name is assigned more than once: {name.agentName}"
  let _ ← a.resolveEligibleRow name.scale name.nameColumn name.baseName
    s!"{kind} base name is not present in Agent_name.csv: {name.baseName}"
    s!"{kind} uses a forbidden Agent_name.csv row: {name.baseName}"

/-- One round of the loop of `restore`. -/
def restoreAssignment (assignment : AgentNameAssignment) : NamingM Unit := do
  let a ← get
  match a.registry.assignments.get? assignment.assignmentId with
  | some known =>
    EStateM.ofExcept (require (known = assignment)
      s!"agent-name assignment collision: {assignment.assignmentId}")
  | none =>
    EStateM.ofExcept (a.admitName "assignment" assignment.issued)
    set (a.withAssignment assignment)

/-- `restore`. -/
def restore (assignments : List AgentNameAssignment) : NamingM Unit :=
  assignments.forM restoreAssignment

/-- One round of the loop of `restore_registrations`. -/
def restoreRegistration (registration : AgentIdentityRegistration) : NamingM Unit := do
  let a ← get
  match a.registry.registrations.get? registration.registrationId with
  | some known =>
    EStateM.ofExcept (require (known = registration)
      s!"agent identity registration collision: {registration.registrationId}")
  | none =>
    EStateM.ofExcept (a.admitName "registration" registration.issued)
    set (a.withRegistration registration)

/-- `restore_registrations`. -/
def restoreRegistrations (registrations : List AgentIdentityRegistration) : NamingM Unit :=
  registrations.forM restoreRegistration

/-! ### What a call leaves -/

/-- The allocator with other rotating indexes. -/
def withIndex (nextIndex : OrderedDict (Nat × NameColumn) Nat) : AgentNameAllocator :=
  { a with nextIndex := nextIndex }

variable {a}

theorem selectRow_mem (column : NameColumn) {pool : List AgentNameRow} (hpool : pool ≠ [])
    (start : Nat) : (a.selectRow column pool hpool start).1 ∈ pool := by
  have hmem : a.selectRow column pool hpool start ∈ pool.zipIdx.rotate start := by
    unfold selectRow
    cases hfind : (pool.zipIdx.rotate start).find?
        fun row => decide (row.1.nameFor column ∉ a.usedNames) with
    | none => exact List.head_mem _
    | some row => exact List.mem_of_find?_eq_some hfind
  rw [List.mem_rotate] at hmem
  exact List.fst_mem_of_mem_zipIdx hmem

/-- **A chosen name is not in use**, whatever was chosen before. -/
theorem nextName_unused (scale : Nat) (column : NameColumn) {pool : List AgentNameRow}
    (hpool : pool ≠ []) : (a.nextName scale column pool hpool).1.agentName ∉ a.usedNames :=
  (FreshName.stops_firstUnused (suffixedName_injective _) 1).notMem

end AgentNameAllocator

/-- The base name stands in a row of the table that names are issued from. -/
def IssuedName.OfferedBy (name : IssuedName) (rows : List AgentNameRow) : Prop :=
  ∃ row ∈ rows, row.isOffered = true ∧ row.scale = name.scale ∧
    row.nameFor name.nameColumn = name.baseName

namespace AgentNameAllocator

variable {a next : AgentNameAllocator} {candidate : ModelCandidate} {e : VsmError}
  {checks : AgentNameRegistry → Except VsmError Unit}

/-- A choice that returns passed the checks of the identifier. -/
theorem issueName_ok {name : IssuedName} (h : issueName candidate checks a = .ok name next) :
    checks a.registry = .ok () ∧ name.agentName ∉ a.usedNames ∧ name.OfferedBy a.rows ∧
      ∃ nextIndex, next = a.withIndex nextIndex := by
  rw [issueName, EStateM.run_get_bind] at h
  cases hscale : scaleFor candidate with
  | error e =>
    rw [hscale] at h
    cases h
  | ok scale =>
    rw [hscale, EStateM.run_ofExcept_ok_bind] at h
    split_ifs at h with hpool
    · cases h
    · cases hchecks : checks a.registry with
      | error e =>
        rw [hchecks] at h
        cases h
      | ok =>
        rw [hchecks, EStateM.run_ofExcept_ok_bind] at h
        cases h
        have hrow := selectRow_mem (a := a) (nameColumn candidate) hpool
          (a.nextIndex.getD (scale, nameColumn candidate) 0 % (a.pool scale).length)
        obtain ⟨hmem, hrow⟩ := List.mem_filter.mp hrow
        rw [Bool.and_eq_true, decide_eq_true_eq] at hrow
        exact ⟨rfl, nextName_unused scale _ hpool, ⟨_, hmem, hrow.2, hrow.1, rfl⟩, _, rfl⟩

theorem issueName_error (h : issueName candidate checks a = .error e next) : next = a := by
  rw [issueName, EStateM.run_get_bind] at h
  cases hscale : scaleFor candidate with
  | error e =>
    rw [hscale] at h
    cases h
    rfl
  | ok scale =>
    rw [hscale, EStateM.run_ofExcept_ok_bind] at h
    split_ifs at h with hpool
    · cases h
      rfl
    · cases hchecks : checks a.registry with
      | error e =>
        rw [hchecks] at h
        cases h
        rfl
      | ok =>
        rw [hchecks, EStateM.run_ofExcept_ok_bind] at h
        cases h

/-- What follows a choice of a name and returns started with the chosen name. -/
private theorem issueName_bind_ok {α : Type} {x : α} {f : IssuedName → NamingM α}
    (h : (issueName candidate checks >>= f) a = .ok x next) :
    ∃ name nextIndex, checks a.registry = .ok () ∧ name.agentName ∉ a.usedNames ∧
      name.OfferedBy a.rows ∧ f name (a.withIndex nextIndex) = .ok x next := by
  cases hissued : issueName candidate checks a with
  | error e t =>
    rw [EStateM.run_bind_of_error hissued] at h
    cases h
  | ok name t =>
    obtain ⟨hchecks, hunused, hoffered, nextIndex, rfl⟩ := issueName_ok hissued
    rw [EStateM.run_bind_of_ok hissued] at h
    exact ⟨name, nextIndex, hchecks, hunused, hoffered, h⟩

/-- What raises without a write after a choice of a name moved a rotating index at most. -/
private theorem issueName_bind_error {α : Type} {f : IssuedName → NamingM α}
    (hf : ∀ name b, f name b = .error e next → next = b)
    (h : (issueName candidate checks >>= f) a = .error e next) :
    ∃ nextIndex, next = a.withIndex nextIndex := by
  cases hissued : issueName candidate checks a with
  | error e t =>
    rw [EStateM.run_bind_of_error hissued] at h
    cases h
    exact ⟨a.nextIndex, issueName_error hissued⟩
  | ok name t =>
    obtain ⟨-, -, -, nextIndex, rfl⟩ := issueName_ok hissued
    rw [EStateM.run_bind_of_ok hissued] at h
    exact ⟨nextIndex, hf name _ h⟩

variable {identity dataSpaceId workItemId executionId nodeId pilotId : String}

/-- **An allocation that returns** makes an assignment with a new identifier and an unused name. -/
theorem allocate_ok {assignment : AgentNameAssignment}
    (h : allocate identity dataSpaceId workItemId executionId nodeId pilotId candidate a =
      .ok assignment next) :
    (a.registry.assignments.contains assignment.assignmentId = false ∧
      assignment.agentName ∉ a.usedNames ∧ assignment.issued.OfferedBy a.rows) ∧
      ∃ nextIndex, next = (a.withIndex nextIndex).withAssignment assignment := by
  obtain ⟨name, nextIndex, hchecks, hunused, hoffered, h⟩ := issueName_bind_ok h
  dsimp only at h
  split_ifs at h
  · cases h
    exact ⟨⟨Checked.check_eq_ok_iff.mp hchecks, hunused, hoffered⟩, nextIndex, rfl⟩
  · cases h

/-- The data model accepts an assignment that has been made. -/
theorem isValid_of_allocate {assignment : AgentNameAssignment}
    (h : allocate identity dataSpaceId workItemId executionId nodeId pilotId candidate a =
      .ok assignment next) : assignment.isValid = true := by
  obtain ⟨name, nextIndex, -, -, -, h⟩ := issueName_bind_ok h
  dsimp only at h
  split_ifs at h with hvalid
  · cases h
    exact hvalid
  · cases h

/-- An allocation is one of the registry, with the name that was chosen. -/
theorem allocate_registry {assignment : AgentNameAssignment}
    (h : allocate identity dataSpaceId workItemId executionId nodeId pilotId candidate a =
      .ok assignment next) :
    ∃ name : IssuedName, a.registry.allocate name identity dataSpaceId workItemId executionId nodeId
      pilotId candidate = .ok (assignment, next.registry) := by
  obtain ⟨name, nextIndex, hchecks, -, -, h⟩ := issueName_bind_ok h
  dsimp only at h
  split_ifs at h
  · cases h
    refine ⟨name, ?_⟩
    rw [AgentNameRegistry.allocate, Checked.check_bind_of (Checked.check_eq_ok_iff.mp hchecks)]
    rfl
  · cases h

/-- An allocation that raises moves a rotating index at most. -/
theorem allocate_error
    (h : allocate identity dataSpaceId workItemId executionId nodeId pilotId candidate a =
      .error e next) : ∃ nextIndex, next = a.withIndex nextIndex := by
  refine issueName_bind_error (fun name b h => ?_) h
  split_ifs at h <;> cases h
  rfl

/-- **A registration that returns** has a new identifier and an unused name. -/
theorem allocateOutOfPipeline_ok {registration : AgentIdentityRegistration}
    (h : allocateOutOfPipeline identity dataSpaceId nodeId pilotId candidate a =
      .ok registration next) :
    (a.registry.registrations.contains registration.registrationId = false ∧
      registration.agentName ∉ a.usedNames ∧ registration.issued.OfferedBy a.rows) ∧
      ∃ nextIndex, next = (a.withIndex nextIndex).withRegistration registration := by
  obtain ⟨name, nextIndex, hchecks, hunused, hoffered, h⟩ := issueName_bind_ok h
  dsimp only at h
  split_ifs at h
  · cases h
    exact ⟨⟨(Checked.check_bind_eq_ok_iff.mp hchecks).1, hunused, hoffered⟩, nextIndex, rfl⟩
  · cases h

/-- A registration that raises moves a rotating index at most. -/
theorem allocateOutOfPipeline_error
    (h : allocateOutOfPipeline identity dataSpaceId nodeId pilotId candidate a = .error e next) :
    ∃ nextIndex, next = a.withIndex nextIndex := by
  refine issueName_bind_error (fun name b h => ?_) h
  split_ifs at h <;> cases h
  rfl

/-! ### Restored names -/

/-- A row of the table that names are issued from resolves the base name. -/
theorem resolveEligibleRow_returns {name : IssuedName} (h : name.OfferedBy a.rows)
    (notPresentMessage forbiddenMessage : String) :
    ∃ row, a.resolveEligibleRow name.scale name.nameColumn name.baseName notPresentMessage
      forbiddenMessage = .ok row := by
  obtain ⟨row, hrow, hoffered, hscale, hname⟩ := h
  have hmatching : row ∈ a.rows.filter fun row =>
      decide (row.scale = name.scale) && decide (row.nameFor name.nameColumn = name.baseName) :=
    List.mem_filter.mpr ⟨hrow, by simp only [hscale, hname, decide_true, Bool.and_self]⟩
  have hmem := List.mem_filter.mpr ⟨hmatching, hoffered⟩
  rw [resolveEligibleRow, Checked.check_bind_of (List.ne_nil_of_mem hmatching)]
  cases hhead : (List.filter AgentNameRow.isOffered (a.rows.filter fun row =>
      decide (row.scale = name.scale) &&
        decide (row.nameFor name.nameColumn = name.baseName))).head? with
  | none =>
    rw [List.head?_eq_none_iff.mp hhead] at hmem
    cases hmem
  | some first => exact ⟨first, rfl⟩

/-- An unused name from an offered row is admitted. -/
theorem admitName_returns (name : IssuedName) (kind : String)
    (hunused : name.agentName ∉ a.usedNames) (hoffered : name.OfferedBy a.rows) :
    a.admitName kind name = .ok () := by
  rw [admitName, Checked.check_bind_of hunused]
  obtain ⟨row, hrow⟩ := resolveEligibleRow_returns hoffered
    s!"{kind} base name is not present in Agent_name.csv: {name.baseName}"
    s!"{kind} uses a forbidden Agent_name.csv row: {name.baseName}"
  rw [hrow]
  rfl

theorem restoreAssignment_returns {assignment : AgentNameAssignment}
    (hnew : a.registry.assignments.contains assignment.assignmentId = false)
    (hunused : assignment.agentName ∉ a.usedNames) (hoffered : assignment.issued.OfferedBy a.rows) :
    restoreAssignment assignment a = .ok () (a.withAssignment assignment) := by
  rw [OrderedDict.contains_eq_false_iff] at hnew
  rw [restoreAssignment, EStateM.run_get_bind, hnew,
    admitName_returns assignment.issued _ hunused hoffered]
  rfl

theorem restoreRegistration_returns {registration : AgentIdentityRegistration}
    (hnew : a.registry.registrations.contains registration.registrationId = false)
    (hunused : registration.agentName ∉ a.usedNames)
    (hoffered : registration.issued.OfferedBy a.rows) :
    restoreRegistration registration a = .ok () (a.withRegistration registration) := by
  rw [OrderedDict.contains_eq_false_iff] at hnew
  rw [restoreRegistration, EStateM.run_get_bind, hnew,
    admitName_returns registration.issued _ hunused hoffered]
  rfl

end AgentNameAllocator

end Nanihold
