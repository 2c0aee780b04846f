import Nanihold.AgentNaming.Allocator

/-!
# The names of a run

Names are issued in two ways, and a new process restores what is on record, in whatever order the
records come. No name is issued twice, and no restore is refused.

## Main definitions

* `NamingHistory` — an allocator, and everything that was issued before it and by it.
* `NamingStep` — a call that returns or raises, or a new process.
* `NamingHistory.Law` — the claims about a history.

## Main results

* `NamingHistory.tracked_step` — what one step keeps.
* `namingLaw_run` — the law after every sequence of calls and restarts.
-/

namespace Nanihold

/-- An allocator, with all assignments and registrations that were issued so far. -/
structure NamingHistory where
  allocator : AgentNameAllocator
  assignments : List AgentNameAssignment
  registrations : List AgentIdentityRegistration

/-- The names of assignments and of registrations. -/
def namesOf (assignments : List AgentNameAssignment)
    (registrations : List AgentIdentityRegistration) : List String :=
  assignments.map (·.agentName) ++ registrations.map (·.agentName)

def NamingHistory.names (h : NamingHistory) : List String := namesOf h.assignments h.registrations

/-- Restore the two kinds of records, one kind after the other. -/
def AgentNameAllocator.restoreAll (registrationsFirst : Bool)
    (assignments : List AgentNameAssignment) (registrations : List AgentIdentityRegistration) :
    NamingM Unit :=
  if registrationsFirst then do
    AgentNameAllocator.restoreRegistrations registrations
    AgentNameAllocator.restore assignments
  else do
    AgentNameAllocator.restore assignments
    AgentNameAllocator.restoreRegistrations registrations

/-- A call of the allocator. -/
inductive NamingCall where
  | allocate (assignmentId dataSpaceId workItemId executionId nodeId pilotId : String)
      (candidate : ModelCandidate)
  | allocateOutOfPipeline (registrationId dataSpaceId nodeId pilotId : String)
      (candidate : ModelCandidate)

/-- The history after a call, whether it returns or raises. -/
def NamingHistory.call (h : NamingHistory) : NamingCall → NamingHistory
  | .allocate assignmentId dataSpaceId workItemId executionId nodeId pilotId candidate =>
    match AgentNameAllocator.allocate assignmentId dataSpaceId workItemId executionId nodeId pilotId
        candidate h.allocator with
    | .ok assignment next => ⟨next, h.assignments ++ [assignment], h.registrations⟩
    | .error _ next => ⟨next, h.assignments, h.registrations⟩
  | .allocateOutOfPipeline registrationId dataSpaceId nodeId pilotId candidate =>
    match AgentNameAllocator.allocateOutOfPipeline registrationId dataSpaceId nodeId pilotId
        candidate h.allocator with
    | .ok registration next => ⟨next, h.assignments, h.registrations ++ [registration]⟩
    | .error _ next => ⟨next, h.assignments, h.registrations⟩

/-- The history after a new process restored records. -/
def NamingHistory.restart (h : NamingHistory) (fresh : AgentNameAllocator)
    (registrationsFirst : Bool) (assignments : List AgentNameAssignment)
    (registrations : List AgentIdentityRegistration) : NamingHistory :=
  { h with
    allocator := (AgentNameAllocator.restoreAll registrationsFirst assignments
      registrations).finalState fresh }

/-- **One step of a run**: a call of the allocator, or a new process that restores everything that
was issued, in any order. -/
inductive NamingStep (rows : List AgentNameRow) (h : NamingHistory) : NamingHistory → Prop
  | called (c : NamingCall) : NamingStep rows h (h.call c)
  | restarted {fresh : AgentNameAllocator} {assignments : List AgentNameAssignment}
      {registrations : List AgentIdentityRegistration} (registrationsFirst : Bool)
      (hnew : AgentNameAllocator.new rows = .ok fresh)
      (hassignments : assignments.Perm h.assignments)
      (hregistrations : registrations.Perm h.registrations)
      (hreturns : (AgentNameAllocator.restoreAll registrationsFirst assignments
        registrations).returns fresh = true) :
      NamingStep rows h (h.restart fresh registrationsFirst assignments registrations)

/-- The histories of the runs over a table. -/
def NamingHistory.Reached (rows : List AgentNameRow) (h : NamingHistory) : Prop :=
  ∃ start, AgentNameAllocator.new rows = .ok start ∧
    Relation.ReflTransGen (NamingStep rows) ⟨start, [], []⟩ h

/-- **The law of issued names.** -/
structure NamingHistory.Law (rows : List AgentNameRow) (h : NamingHistory) : Prop where
  /-- The issued names are distinct, across assignments and registrations. -/
  distinct : h.names.Nodup
  /-- A new process accepts everything that was issued, in any order. -/
  restores : ∀ fresh assignments registrations, AgentNameAllocator.new rows = .ok fresh →
    assignments.Perm h.assignments → registrations.Perm h.registrations →
    ∀ registrationsFirst, (AgentNameAllocator.restoreAll registrationsFirst assignments
      registrations).returns fresh = true
  /-- No name is issued again, by whatever process. -/
  new_names : ∀ next, NamingStep rows h next → ∃ issued, next.names.Perm (h.names ++ issued) ∧
    ∀ name ∈ issued, name ∉ h.names
  /-- The loop that looks for a suffix stops, for every base name. -/
  terminates : ∀ baseName, FreshName.Stops h.allocator.usedNames (suffixedName baseName) 1
    (firstSuffix h.allocator.usedNames baseName)

/-! ### The invariant -/

/-- What was issued: identifiers and names are distinct, and the base names stand in rows that
names are issued from. -/
structure Issued (rows : List AgentNameRow) (assignments : List AgentNameAssignment)
    (registrations : List AgentIdentityRegistration) : Prop where
  assignment_ids : (assignments.map (·.assignmentId)).Nodup
  registration_ids : (registrations.map (·.registrationId)).Nodup
  names : (namesOf assignments registrations).Nodup
  assignments_offered : ∀ assignment ∈ assignments, assignment.issued.OfferedBy rows
  registrations_offered : ∀ registration ∈ registrations, registration.issued.OfferedBy rows

/-- What an allocator knows of the issued names. -/
structure AgentNameAllocator.Knows (rows : List AgentNameRow) (a : AgentNameAllocator)
    (assignments : List AgentNameAssignment) (registrations : List AgentIdentityRegistration) :
    Prop where
  rows_eq : a.rows = rows
  assignment_ids : ∀ id, a.registry.assignments.contains id = true ↔
    id ∈ assignments.map (·.assignmentId)
  registration_ids : ∀ id, a.registry.registrations.contains id = true ↔
    id ∈ registrations.map (·.registrationId)
  assigned : ∀ id assignment, a.registry.assignments.get? id = some assignment →
    assignment ∈ assignments
  used : ∀ name, name ∈ a.usedNames ↔ name ∈ namesOf assignments registrations

variable {rows : List AgentNameRow} {a : AgentNameAllocator}
  {assignments assignments' : List AgentNameAssignment} {assignment : AgentNameAssignment}
  {registrations registrations' : List AgentIdentityRegistration}
  {registration : AgentIdentityRegistration}

theorem namesOf_perm (hassignments : assignments'.Perm assignments)
    (hregistrations : registrations'.Perm registrations) :
    (namesOf assignments' registrations').Perm (namesOf assignments registrations) :=
  (hassignments.map _).append (hregistrations.map _)

theorem namesOf_assignment (assignments : List AgentNameAssignment)
    (registrations : List AgentIdentityRegistration) (assignment : AgentNameAssignment) :
    (namesOf (assignments ++ [assignment]) registrations).Perm
      (namesOf assignments registrations ++ [assignment.agentName]) := by
  unfold namesOf
  rw [List.map_append, List.append_assoc, List.append_assoc]
  exact List.perm_append_comm.append_left _

theorem namesOf_registration (assignments : List AgentNameAssignment)
    (registrations : List AgentIdentityRegistration) (registration : AgentIdentityRegistration) :
    namesOf assignments (registrations ++ [registration]) =
      namesOf assignments registrations ++ [registration.agentName] := by
  unfold namesOf
  rw [List.map_append, List.append_assoc]
  rfl

namespace Issued

theorem nil (rows : List AgentNameRow) : Issued rows [] [] where
  assignment_ids := List.nodup_nil
  registration_ids := List.nodup_nil
  names := List.nodup_nil
  assignments_offered _ h := by cases h
  registrations_offered _ h := by cases h

/-- The order of the records does not matter. -/
theorem perm (h : Issued rows assignments registrations)
    (hassignments : assignments'.Perm assignments)
    (hregistrations : registrations'.Perm registrations) :
    Issued rows assignments' registrations' where
  assignment_ids := (hassignments.map _).nodup_iff.mpr h.assignment_ids
  registration_ids := (hregistrations.map _).nodup_iff.mpr h.registration_ids
  names := (namesOf_perm hassignments hregistrations).nodup_iff.mpr h.names
  assignments_offered x hx := h.assignments_offered x (hassignments.mem_iff.mp hx)
  registrations_offered x hx := h.registrations_offered x (hregistrations.mem_iff.mp hx)

theorem only_assignments (h : Issued rows assignments registrations) :
    Issued rows assignments [] where
  assignment_ids := h.assignment_ids
  registration_ids := List.nodup_nil
  names := by
    rw [namesOf, List.map_nil, List.append_nil]
    exact (List.nodup_append.mp h.names).1
  assignments_offered := h.assignments_offered
  registrations_offered _ hmem := by cases hmem

theorem only_registrations (h : Issued rows assignments registrations) :
    Issued rows [] registrations where
  assignment_ids := List.nodup_nil
  registration_ids := h.registration_ids
  names := (List.nodup_append.mp h.names).2.1
  assignments_offered _ hmem := by cases hmem
  registrations_offered := h.registrations_offered

/-- A further assignment, with a new identifier and a new name. -/
theorem assigned (h : Issued rows assignments registrations)
    (hid : assignment.assignmentId ∉ assignments.map (·.assignmentId))
    (hname : assignment.agentName ∉ namesOf assignments registrations)
    (hoffered : assignment.issued.OfferedBy rows) :
    Issued rows (assignments ++ [assignment]) registrations where
  assignment_ids := by
    rw [List.map_append, List.nodup_append_comm]
    exact List.nodup_cons.mpr ⟨hid, h.assignment_ids⟩
  registration_ids := h.registration_ids
  names := by
    rw [(namesOf_assignment _ _ _).nodup_iff, List.nodup_append_comm]
    exact List.nodup_cons.mpr ⟨hname, h.names⟩
  assignments_offered x hx := by
    rcases List.mem_append.mp hx with hx | hx
    · exact h.assignments_offered x hx
    · rwa [List.mem_singleton.mp hx]
  registrations_offered := h.registrations_offered

/-- A further registration, with a new identifier and a new name. -/
theorem registered (h : Issued rows assignments registrations)
    (hid : registration.registrationId ∉ registrations.map (·.registrationId))
    (hname : registration.agentName ∉ namesOf assignments registrations)
    (hoffered : registration.issued.OfferedBy rows) :
    Issued rows assignments (registrations ++ [registration]) where
  assignment_ids := h.assignment_ids
  registration_ids := by
    rw [List.map_append, List.nodup_append_comm]
    exact List.nodup_cons.mpr ⟨hid, h.registration_ids⟩
  names := by
    rw [namesOf_registration, List.nodup_append_comm]
    exact List.nodup_cons.mpr ⟨hname, h.names⟩
  assignments_offered := h.assignments_offered
  registrations_offered x hx := by
    rcases List.mem_append.mp hx with hx | hx
    · exact h.registrations_offered x hx
    · rwa [List.mem_singleton.mp hx]

/-- An assignment further on is not among those before it. -/
theorem next_assignment {more : List AgentNameAssignment}
    (h : Issued rows (assignments ++ assignment :: more) registrations) :
    assignment.assignmentId ∉ assignments.map (·.assignmentId) ∧
      assignment.agentName ∉ namesOf assignments registrations ∧
      assignment.issued.OfferedBy rows := by
  have hfirst := h.perm List.perm_middle.symm (List.Perm.refl _)
  refine ⟨fun hid => ?_, fun hname => ?_, hfirst.assignments_offered _ List.mem_cons_self⟩
  · refine (List.nodup_cons.mp hfirst.assignment_ids).1 ?_
    rw [List.map_append]
    exact List.mem_append_left _ hid
  · refine (List.nodup_cons.mp hfirst.names).1 ?_
    change _ ∈ (assignments ++ more).map (·.agentName) ++ _
    rw [List.map_append, List.append_assoc]
    rcases List.mem_append.mp hname with hname | hname
    · exact List.mem_append_left _ hname
    · exact List.mem_append_right _ (List.mem_append_right _ hname)

/-- A registration further on is not among those before it. -/
theorem next_registration {more : List AgentIdentityRegistration}
    (h : Issued rows assignments (registrations ++ registration :: more)) :
    registration.registrationId ∉ registrations.map (·.registrationId) ∧
      registration.agentName ∉ namesOf assignments registrations ∧
      registration.issued.OfferedBy rows := by
  have hfirst := h.perm (List.Perm.refl _) List.perm_middle.symm
  refine ⟨fun hid => ?_, fun hname => ?_, hfirst.registrations_offered _ List.mem_cons_self⟩
  · refine (List.nodup_cons.mp hfirst.registration_ids).1 ?_
    rw [List.map_append]
    exact List.mem_append_left _ hid
  · have hnames : (assignments.map (·.agentName) ++
        registration.agentName :: (registrations ++ more).map (·.agentName)).Nodup := hfirst.names
    rw [List.nodup_middle] at hnames
    refine (List.nodup_cons.mp hnames).1 ?_
    rw [List.map_append, ← List.append_assoc]
    exact List.mem_append_left _ hname

end Issued

namespace AgentNameAllocator

theorem new_ok {fresh : AgentNameAllocator} (h : new rows = .ok fresh) :
    fresh = ⟨rows, .empty, ∅, ⟨.empty, .empty⟩⟩ := by
  obtain ⟨-, h⟩ := Checked.check_bind_eq_ok_iff.mp h
  exact (Except.ok.inj h).symm

theorem knows_new {fresh : AgentNameAllocator} (h : new rows = .ok fresh) :
    fresh.Knows rows [] [] := by
  obtain rfl := new_ok h
  constructor
  · rfl
  · intro id
    exact iff_of_false (Bool.eq_false_iff.mp (OrderedDict.contains_empty id)) List.not_mem_nil
  · intro id
    exact iff_of_false (Bool.eq_false_iff.mp (OrderedDict.contains_empty id)) List.not_mem_nil
  · intro id assignment hget
    cases hget
  · intro name
    exact iff_of_false (Finset.notMem_empty name) List.not_mem_nil

namespace Knows

/-- The order of the records does not matter. -/
theorem perm (h : a.Knows rows assignments registrations)
    (hassignments : assignments'.Perm assignments)
    (hregistrations : registrations'.Perm registrations) :
    a.Knows rows assignments' registrations' where
  rows_eq := h.rows_eq
  assignment_ids id := (h.assignment_ids id).trans (hassignments.map _).mem_iff.symm
  registration_ids id := (h.registration_ids id).trans (hregistrations.map _).mem_iff.symm
  assigned id x hx := hassignments.mem_iff.mpr (h.assigned id x hx)
  used name := (h.used name).trans (namesOf_perm hassignments hregistrations).mem_iff.symm

/-- The rotating indexes do not matter. -/
theorem withIndex (h : a.Knows rows assignments registrations)
    (nextIndex : OrderedDict (Nat × NameColumn) Nat) :
    (a.withIndex nextIndex).Knows rows assignments registrations :=
  ⟨h.rows_eq, h.assignment_ids, h.registration_ids, h.assigned, h.used⟩

theorem withAssignment (h : a.Knows rows assignments registrations)
    (assignment : AgentNameAssignment) :
    (a.withAssignment assignment).Knows rows (assignments ++ [assignment]) registrations where
  rows_eq := h.rows_eq
  assignment_ids id := by
    rw [AgentNameAllocator.withAssignment, OrderedDict.contains_set, List.map_append,
      List.mem_append, Bool.or_eq_true, h.assignment_ids, decide_eq_true_eq, or_comm, eq_comm]
    exact or_congr_right List.mem_singleton.symm
  registration_ids := h.registration_ids
  assigned id x hx := by
    rw [AgentNameAllocator.withAssignment, OrderedDict.get?_set] at hx
    split_ifs at hx
    · exact List.mem_append_right _ (List.mem_singleton.mpr (Option.some.inj hx).symm)
    · exact List.mem_append_left _ (h.assigned id x hx)
  used name := by
    rw [(namesOf_assignment _ _ _).mem_iff, AgentNameAllocator.withAssignment, Finset.mem_insert,
      List.mem_append, h.used, or_comm]
    exact or_congr_right List.mem_singleton.symm

theorem withRegistration (h : a.Knows rows assignments registrations)
    (registration : AgentIdentityRegistration) :
    (a.withRegistration registration).Knows rows assignments (registrations ++ [registration]) where
  rows_eq := h.rows_eq
  assignment_ids := h.assignment_ids
  registration_ids id := by
    rw [AgentNameAllocator.withRegistration, OrderedDict.contains_set, List.map_append,
      List.mem_append, Bool.or_eq_true, h.registration_ids, decide_eq_true_eq, or_comm, eq_comm]
    exact or_congr_right List.mem_singleton.symm
  assigned := h.assigned
  used name := by
    rw [namesOf_registration, AgentNameAllocator.withRegistration, Finset.mem_insert,
      List.mem_append, h.used, or_comm]
    exact or_congr_right List.mem_singleton.symm

/-- **Assignments are restored** that were issued beside what the allocator knows. -/
theorem restore (ha : a.Knows rows assignments registrations) (more : List AgentNameAssignment)
    (h : Issued rows (assignments ++ more) registrations) :
    ∃ next, AgentNameAllocator.restore more a = .ok () next ∧
      next.Knows rows (assignments ++ more) registrations := by
  induction more generalizing a assignments with
  | nil =>
    rw [List.append_nil]
    exact ⟨a, rfl, ha⟩
  | cons assignment more ih =>
    have hsplit : assignments ++ assignment :: more = (assignments ++ [assignment]) ++ more := by
      rw [List.append_assoc]
      rfl
    obtain ⟨hid, hname, hoffered⟩ := h.next_assignment
    rw [← ha.assignment_ids, Bool.not_eq_true] at hid
    rw [← ha.used] at hname
    rw [← ha.rows_eq] at hoffered
    obtain ⟨next, hrest, hnext⟩ := ih (ha.withAssignment assignment) (hsplit ▸ h)
    refine ⟨next, ?_, hsplit ▸ hnext⟩
    rw [AgentNameAllocator.restore] at hrest ⊢
    exact (EStateM.run_bind_of_ok (restoreAssignment_returns hid hname hoffered)).trans hrest

/-- **Registrations are restored** that were issued beside what the allocator knows. -/
theorem restoreRegistrations (ha : a.Knows rows assignments registrations)
    (more : List AgentIdentityRegistration)
    (h : Issued rows assignments (registrations ++ more)) :
    ∃ next, AgentNameAllocator.restoreRegistrations more a = .ok () next ∧
      next.Knows rows assignments (registrations ++ more) := by
  induction more generalizing a registrations with
  | nil =>
    rw [List.append_nil]
    exact ⟨a, rfl, ha⟩
  | cons registration more ih =>
    have hsplit : registrations ++ registration :: more =
        (registrations ++ [registration]) ++ more := by
      rw [List.append_assoc]
      rfl
    obtain ⟨hid, hname, hoffered⟩ := h.next_registration
    rw [← ha.registration_ids, Bool.not_eq_true] at hid
    rw [← ha.used] at hname
    rw [← ha.rows_eq] at hoffered
    obtain ⟨next, hrest, hnext⟩ := ih (ha.withRegistration registration) (hsplit ▸ h)
    refine ⟨next, ?_, hsplit ▸ hnext⟩
    rw [AgentNameAllocator.restoreRegistrations] at hrest ⊢
    exact (EStateM.run_bind_of_ok (restoreRegistration_returns hid hname hoffered)).trans hrest

end Knows

/-- **A new process restores** everything that was issued, either kind of records first. -/
theorem restoreAll_returns {fresh : AgentNameAllocator} (hnew : new rows = .ok fresh)
    (h : Issued rows assignments registrations) (registrationsFirst : Bool) :
    ∃ next, restoreAll registrationsFirst assignments registrations fresh = .ok () next ∧
      next.Knows rows assignments registrations := by
  cases registrationsFirst with
  | false =>
    obtain ⟨middle, hfirst, hmiddle⟩ := (knows_new hnew).restore assignments h.only_assignments
    obtain ⟨next, hsecond, hnext⟩ := hmiddle.restoreRegistrations registrations h
    exact ⟨next, (EStateM.run_bind_of_ok hfirst).trans hsecond, hnext⟩
  | true =>
    obtain ⟨middle, hfirst, hmiddle⟩ := (knows_new hnew).restoreRegistrations registrations
      h.only_registrations
    obtain ⟨next, hsecond, hnext⟩ := hmiddle.restore assignments h
    exact ⟨next, (EStateM.run_bind_of_ok hfirst).trans hsecond, hnext⟩

end AgentNameAllocator

/-! ### Runs -/

/-- **The invariant of a history**: what was issued is issued once, and the allocator knows it. -/
structure NamingHistory.Tracked (rows : List AgentNameRow) (h : NamingHistory) : Prop where
  issued : Issued rows h.assignments h.registrations
  knows : h.allocator.Knows rows h.assignments h.registrations

namespace NamingHistory

variable {h next : NamingHistory}

theorem tracked_start {start : AgentNameAllocator}
    (hnew : AgentNameAllocator.new rows = .ok start) :
    Tracked rows ⟨start, [], []⟩ :=
  ⟨Issued.nil rows, AgentNameAllocator.knows_new hnew⟩

/-- **One call** keeps the invariant. -/
theorem tracked_call (ht : h.Tracked rows) (c : NamingCall) : (h.call c).Tracked rows := by
  cases c with
  | allocate =>
    rw [call]
    split
    · next hcall =>
      obtain ⟨⟨hid, hname, hoffered⟩, nextIndex, rfl⟩ := AgentNameAllocator.allocate_ok hcall
      rw [← Bool.not_eq_true, ht.knows.assignment_ids] at hid
      rw [ht.knows.used] at hname
      rw [ht.knows.rows_eq] at hoffered
      exact ⟨ht.issued.assigned hid hname hoffered, (ht.knows.withIndex nextIndex).withAssignment _⟩
    · next hcall =>
      obtain ⟨nextIndex, rfl⟩ := AgentNameAllocator.allocate_error hcall
      exact ⟨ht.issued, ht.knows.withIndex nextIndex⟩
  | allocateOutOfPipeline =>
    rw [call]
    split
    · next hcall =>
      obtain ⟨⟨hid, hname, hoffered⟩, nextIndex, rfl⟩ :=
        AgentNameAllocator.allocateOutOfPipeline_ok hcall
      rw [← Bool.not_eq_true, ht.knows.registration_ids] at hid
      rw [ht.knows.used] at hname
      rw [ht.knows.rows_eq] at hoffered
      exact ⟨ht.issued.registered hid hname hoffered,
        (ht.knows.withIndex nextIndex).withRegistration _⟩
    · next hcall =>
      obtain ⟨nextIndex, rfl⟩ := AgentNameAllocator.allocateOutOfPipeline_error hcall
      exact ⟨ht.issued, ht.knows.withIndex nextIndex⟩

/-- **One step** keeps the invariant. -/
theorem tracked_step (ht : h.Tracked rows) (hstep : NamingStep rows h next) :
    next.Tracked rows := by
  cases hstep with
  | called c => exact tracked_call ht c
  | restarted registrationsFirst hnew hassignments hregistrations =>
    obtain ⟨restored, hreturns, hknows⟩ := AgentNameAllocator.restoreAll_returns hnew
      (ht.issued.perm hassignments hregistrations) registrationsFirst
    refine ⟨ht.issued, ?_⟩
    rw [restart, EStateM.finalState_of_ok hreturns]
    exact hknows.perm hassignments.symm hregistrations.symm

theorem tracked_of_reached (hreached : h.Reached rows) : h.Tracked rows := by
  obtain ⟨start, hnew, hsteps⟩ := hreached
  induction hsteps with
  | refl => exact tracked_start hnew
  | tail _ hstep ih => exact tracked_step ih hstep

/-- A step issues names that were not issued before. -/
theorem Tracked.new_names (ht : h.Tracked rows) (hstep : NamingStep rows h next) :
    ∃ issued, next.names.Perm (h.names ++ issued) ∧ ∀ name ∈ issued, name ∉ h.names := by
  have hnone (t : AgentNameAllocator) : ∃ issued,
      (names ⟨t, h.assignments, h.registrations⟩).Perm (h.names ++ issued) ∧
        ∀ name ∈ issued, name ∉ h.names :=
    ⟨[], by rw [List.append_nil]; exact List.Perm.refl _, fun _ hmem => by cases hmem⟩
  cases hstep with
  | restarted => exact hnone _
  | called c =>
    cases c with
    | allocate =>
      rw [call]
      split
      · next hcall =>
        obtain ⟨⟨-, hname, -⟩, -⟩ := AgentNameAllocator.allocate_ok hcall
        rw [ht.knows.used] at hname
        refine ⟨[_], namesOf_assignment _ _ _, fun name hmem => ?_⟩
        rwa [List.mem_singleton.mp hmem]
      · exact hnone _
    | allocateOutOfPipeline =>
      rw [call]
      split
      · next hcall =>
        obtain ⟨⟨-, hname, -⟩, -⟩ := AgentNameAllocator.allocateOutOfPipeline_ok hcall
        rw [ht.knows.used] at hname
        refine ⟨[_], List.Perm.of_eq (namesOf_registration _ _ _), fun name hmem => ?_⟩
        rwa [List.mem_singleton.mp hmem]
      · exact hnone _

end NamingHistory

/-- **Names are issued once.** After every sequence of calls and restarts, the issued names are
distinct, a new process accepts all of them in any order and issues none of them again, and the
search for a name stops. -/
theorem namingLaw_run (rows : List AgentNameRow) (h : NamingHistory) (hreached : h.Reached rows) :
    h.Law rows := by
  have ht := NamingHistory.tracked_of_reached hreached
  constructor
  · exact ht.issued.names
  · intro fresh assignments registrations hnew hassignments hregistrations registrationsFirst
    obtain ⟨restored, hreturns, -⟩ := AgentNameAllocator.restoreAll_returns hnew
      (ht.issued.perm hassignments hregistrations) registrationsFirst
    exact EStateM.returns_of_ok hreturns
  · exact fun next hstep => ht.new_names hstep
  · exact fun baseName => FreshName.stops_firstUnused (suffixedName_injective baseName) 1

/-! ### A table whose names look like suffixes -/

/-- Two rows of one scale; the name of the second is the first one's with a suffix. -/
def cupRows : List AgentNameRow :=
  [⟨2, "器", "Cup", "Cup", "Cup", "1", by decide, by decide, by decide, by decide, by decide,
      by decide⟩,
    ⟨2, "皿", "Cup2", "Cup2", "Cup2", "", by decide, by decide, by decide, by decide, by decide,
      by decide⟩]

def cupCandidate : ModelCandidate := ⟨"candidate", "anthropic", some "claude-opus-4"⟩

/-- An allocator over the table. -/
def cupAllocator : AgentNameAllocator := ⟨cupRows, .empty, ∅, ⟨.empty, .empty⟩⟩

/-- Two rows give two assignments; an agent outside the pipeline comes third. -/
def cupHistory : NamingHistory :=
  (((⟨cupAllocator, [], []⟩ : NamingHistory).call
      (.allocate "assignment:1" "space:1" "work:1" "execution:1" "node:1" "pilot:1"
        cupCandidate)).call
      (.allocate "assignment:2" "space:1" "work:2" "execution:2" "node:1" "pilot:1"
        cupCandidate)).call
      (.allocateOutOfPipeline "registration:1" "space:1" "node:1" "pilot:2" cupCandidate)

/-- A new process restores the records, newest first, and issues one more name. -/
def cupRestarted : NamingHistory :=
  (cupHistory.restart cupAllocator true cupHistory.assignments.reverse
    cupHistory.registrations).call
    (.allocate "assignment:3" "space:1" "work:3" "execution:3" "node:1" "pilot:1" cupCandidate)

/-- The third and the fourth name skip the base name that looks like a suffixed one. -/
theorem namingLaw_cupRestarted :
    cupRestarted.Law cupRows ∧ cupRestarted.names = ["Cup", "Cup2", "Cup4", "Cup3"] := by
  have hissued : cupHistory.Reached cupRows :=
    ⟨cupAllocator, rfl, .tail (.tail (.tail .refl (.called _)) (.called _)) (.called _)⟩
  refine ⟨namingLaw_run cupRows cupRestarted ?_, by decide +kernel⟩
  obtain ⟨start, hnew, hsteps⟩ := hissued
  refine ⟨start, hnew, .tail (.tail hsteps ?_) (.called _)⟩
  exact .restarted true rfl (List.reverse_perm _) (List.Perm.refl _) (by decide +kernel)

end Nanihold
