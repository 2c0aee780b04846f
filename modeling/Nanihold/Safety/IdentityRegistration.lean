import Nanihold.Safety.Naming
import Nanihold.Safety.Settlement

/-!
# Registering an agent outside the pipeline

The endpoint takes a name from the registry before the Kernel looks at the request. A request that
the Kernel refuses then keeps its name and its identifier: the registry has no way to give a name
back, and answers the next request for the identifier with an error.

## Main definitions

* `registerAgentIdentityEndpoint` — the endpoint.
* `RegistersAtomically` — a request that is refused changes nothing.
* `RegistrationRecordable` — the condition on a request and the state.

## Main results

* `registersAtomically_iff` — the exact condition, over every registry and every Kernel.
* `reused_key_breaks_registersAtomically` — a request whose idempotency key has been used.
-/

namespace Nanihold

/-! ### The endpoint -/

/-- What the endpoints of a process share: the name registry, if one is configured, and the
services. -/
structure AppState where
  agentNameRegistry : Option AgentNameAllocator
  system : MemorySystem

/-- A program of the endpoints. -/
abbrev AppM (α : Type) := EStateM VsmError AppState α

instance : Component AppState MemorySystem where
  read s := s.system
  write s system := { s with system := system }
  read_write _ _ := rfl
  write_write _ _ _ := rfl

/-- `RegisterAgentIdentityRequest`. -/
structure RegisterAgentIdentityRequest where
  actorId : String
  idempotencyKey : String
  registrationId : Identifier
  nodeId : Identifier
  pilotId : Identifier
  candidate : ModelCandidate

/-- Run a program of the registry; the state keeps what it wrote. -/
def naming {α : Type} (registry : AgentNameAllocator) (x : NamingM α) :
    AppM (α × AgentNameAllocator) := fun s =>
  match x registry with
  | .ok a next => .ok (a, next) { s with agentNameRegistry := some next }
  | .error e next => .error e { s with agentNameRegistry := some next }

section Endpoint

variable [Sha256]

/-- What follows once the registry has issued the registration. -/
def recordIssued (request : RegisterAgentIdentityRequest) (clock : Clock)
    (issued : AgentIdentityRegistration × AgentNameAllocator) : AppM AgentIdentityRegistration := do
  EStateM.zoom ((KernelCommand.registerAgentIdentity issued.1 issued.2.registry request.actorId
    request.idempotencyKey).run clock : SystemM InMemoryOperationalLedger Unit)
  return issued.1

/-- `register_agent_identity` of the web application. -/
def registerAgentIdentityEndpoint (request : RegisterAgentIdentityRequest) (clock : Clock) :
    AppM AgentIdentityRegistration := do
  let state ← get
  let registry ← EStateM.ofExcept (found state.agentNameRegistry
    "out-of-pipeline agent registration requires the configured name registry")
  EStateM.ofExcept (require (state.system.kernel.nodes.contains request.nodeId = true)
    "agent identity registration Node does not exist")
  let issued ← naming registry (AgentNameAllocator.allocateOutOfPipeline request.registrationId
    state.system.kernel.dataSpace.dataSpaceId request.nodeId request.pilotId request.candidate)
  recordIssued request clock issued

/-- **The endpoint is atomic** on a request: if it raises, then the registry and the registrations
of the Kernel are as they were. -/
def RegistersAtomically (state : AppState) (request : RegisterAgentIdentityRequest)
    (clock : Clock) : Prop :=
  ∀ e next, registerAgentIdentityEndpoint request clock state = .error e next →
    next.agentNameRegistry = state.agentNameRegistry ∧
      next.system.kernel.agentNameRegistrations = state.system.kernel.agentNameRegistrations

end Endpoint

/-! ### The choice of a name -/

namespace AgentNameAllocator

variable {a next : AgentNameAllocator} {candidate : ModelCandidate}
  {checks : AgentNameRegistry → Except VsmError Unit} {name : IssuedName}

/-- The registry goes on to choose a name, and this is the one it chooses. -/
def Picks (a : AgentNameAllocator) (candidate : ModelCandidate) (name : IssuedName)
    (next : AgentNameAllocator) : Prop :=
  ∃ scale, scaleFor candidate = .ok scale ∧ ∃ hpool : a.pool scale ≠ [],
    a.nextName scale (nameColumn candidate) (a.pool scale) hpool = (name, next)

theorem issueName_eq_ok_iff :
    issueName candidate checks a = .ok name next ↔
      checks a.registry = .ok () ∧ a.Picks candidate name next := by
  rw [issueName, EStateM.run_get_bind, Picks]
  cases hscale : scaleFor candidate with
  | error e =>
    refine ⟨fun h => ?_, fun h => ?_⟩
    · cases h
    · obtain ⟨-, scale, hok, -⟩ := h
      cases hok
  | ok scale =>
    rw [EStateM.run_ofExcept_ok_bind]
    by_cases hpool : a.pool scale = []
    · rw [dif_pos hpool]
      refine ⟨fun h => ?_, fun h => ?_⟩
      · cases h
      · obtain ⟨-, _, hok, hne, -⟩ := h
        cases hok
        exact absurd hpool hne
    · rw [dif_neg hpool]
      cases hchecks : checks a.registry with
      | error e =>
        refine ⟨fun h => ?_, fun h => ?_⟩
        · cases h
        · cases h.1
      | ok =>
        rw [EStateM.run_ofExcept_ok_bind]
        constructor
        · intro h
          cases h
          exact ⟨rfl, scale, rfl, hpool, rfl⟩
        · rintro ⟨-, _, hok, _, hname⟩
          cases hok
          cases hname
          rfl

theorem Picks.unique {name' : IssuedName} {next' : AgentNameAllocator}
    (h : a.Picks candidate name next) (h' : a.Picks candidate name' next') :
    name' = name ∧ next' = next := by
  obtain ⟨scale, hscale, _, hname⟩ := h
  obtain ⟨scale', hscale', _, hname'⟩ := h'
  obtain rfl := Except.ok.inj (hscale.symm.trans hscale')
  exact Prod.mk.inj (hname'.symm.trans hname)

/-- A choice moves a rotating index. -/
theorem Picks.eq_withIndex (h : a.Picks candidate name next) :
    next = a.withIndex next.nextIndex := by
  obtain ⟨scale, -, hpool, hname⟩ := h
  cases hname
  rfl

end AgentNameAllocator

/-! ### The condition -/

/-- The registration that the registry makes of a name. -/
def RegisterAgentIdentityRequest.registration (request : RegisterAgentIdentityRequest)
    (dataSpaceId : String) (name : IssuedName) : AgentIdentityRegistration :=
  { name with
    registrationId := request.registrationId
    dataSpaceId := dataSpaceId
    nodeId := request.nodeId
    pilotId := request.pilotId
    provider := request.candidate.provider
    modelCandidateKey := request.candidate.key }

/-- The registry knows the identifier of the request. -/
def AgentNameAllocator.HasIdentity (a : AgentNameAllocator) (identity : String) : Prop :=
  a.registry.registrations.contains identity = true ∨
    a.registry.assignments.contains identity = true

variable [Sha256]

/-- **The condition**: once the registry chooses a name for the request, the Kernel records it; or
the name makes no registration, and its row is the one that the rotation took before. -/
def RegistrationRecordable (state : AppState) (request : RegisterAgentIdentityRequest) : Prop :=
  ∀ registry name next, state.agentNameRegistry = some registry →
    state.system.kernel.nodes.contains request.nodeId = true →
    ¬ registry.HasIdentity request.registrationId → registry.Picks request.candidate name next →
    if (request.registration state.system.kernel.dataSpace.dataSpaceId name).isValid = true then
      state.system.kernel.agentNameRegistrations.contains request.registrationId = false ∧
        state.system.kernel.agentNameIsRegistered name.agentName = false ∧
        KeyRecordable request.registrationId request.nodeId request.actorId request.idempotencyKey
          state.system
    else next.nextIndex = registry.nextIndex

variable {registry next : AgentNameAllocator} {s : MemorySystem}
  {request : RegisterAgentIdentityRequest} {clock : Clock} {name : IssuedName}

omit [Sha256] in
variable (request) in
/-- The registry issues a registration exactly if it chooses a name that makes one. -/
private theorem allocateOutOfPipeline_of_picks (dataSpaceId : String)
    (hknows : ¬ registry.HasIdentity request.registrationId)
    (hpicks : registry.Picks request.candidate name next) :
    AgentNameAllocator.allocateOutOfPipeline request.registrationId dataSpaceId request.nodeId
        request.pilotId request.candidate registry =
      if (request.registration dataSpaceId name).isValid = true then
        .ok (request.registration dataSpaceId name)
          (next.withRegistration (request.registration dataSpaceId name))
      else .error (.validationError "AgentIdentityRegistration") next := by
  rw [AgentNameAllocator.HasIdentity, not_or, Bool.not_eq_true, Bool.not_eq_true] at hknows
  rw [AgentNameAllocator.allocateOutOfPipeline, EStateM.run_bind_of_ok
    (AgentNameAllocator.issueName_eq_ok_iff.mpr ⟨?_, hpicks⟩)]
  · change (if (request.registration dataSpaceId name).isValid = true then _ else _ :
      NamingM AgentIdentityRegistration) next = _
    split_ifs
    · rfl
    · rfl
  · simp only [require]
    rw [Checked.check_bind_of hknows.1]
    exact Checked.check_eq_ok_iff.mpr hknows.2

omit [Sha256] in
variable (request) in
/-- A request for which no name is chosen changes nothing in the registry. -/
private theorem allocateOutOfPipeline_of_not_picks (dataSpaceId : String)
    (hnot : ∀ name next, ¬ registry.HasIdentity request.registrationId →
      ¬ registry.Picks request.candidate name next) :
    ∃ e, AgentNameAllocator.allocateOutOfPipeline request.registrationId dataSpaceId request.nodeId
      request.pilotId request.candidate registry = .error e registry := by
  rw [AgentNameAllocator.allocateOutOfPipeline]
  cases hissued : AgentNameAllocator.issueName request.candidate (fun registry => do
      require (registry.registrations.contains request.registrationId = false)
        s!"agent identity registration already exists: {request.registrationId}"
      require (registry.assignments.contains request.registrationId = false)
        s!"registration id collides with an agent-name assignment: {request.registrationId}")
      registry with
  | error e t =>
    obtain rfl := AgentNameAllocator.issueName_error hissued
    exact ⟨e, EStateM.run_bind_of_error hissued⟩
  | ok name t =>
    obtain ⟨hchecks, hpicks⟩ := AgentNameAllocator.issueName_eq_ok_iff.mp hissued
    obtain ⟨hregistrations, hassignments⟩ := Checked.check_bind_eq_ok_iff.mp hchecks
    have hassignments := Checked.check_eq_ok_iff.mp hassignments
    refine absurd hpicks (hnot name t ?_)
    rintro (hknown | hknown)
    · rw [hregistrations] at hknown
      cases hknown
    · rw [hassignments] at hknown
      cases hknown

/-! ### What the Kernel answers -/

/-- The Kernel records an identity that the registry has issued exactly if it knows neither the
identifier nor the name, and takes the event. -/
private theorem registerAgentIdentity_returns_iff (hs : s.KernelSynced)
    {registration : AgentIdentityRegistration} {names : AgentNameRegistry} {actorId key : String}
    (hissued : names.registrations.get? registration.registrationId = some registration)
    (hspace : registration.dataSpaceId = s.kernel.dataSpace.dataSpaceId)
    (hnode : s.kernel.nodes.contains registration.nodeId = true) :
    ((KernelCommand.registerAgentIdentity registration names actorId key).run clock :
        SystemM InMemoryOperationalLedger Unit).returns s = true ↔
      s.kernel.agentNameRegistrations.contains registration.registrationId = false ∧
        s.kernel.agentNameIsRegistered registration.agentName = false ∧
        KeyRecordable registration.registrationId registration.nodeId actorId key s := by
  rw [KernelCommand.run]
  have hfound : names.registrationForId registration.registrationId = .ok registration := by
    rw [AgentNameRegistry.registrationForId, hissued]
    rfl
  have hchecks : s.kernel.registerAgentIdentity registration names actorId key clock = do
      require (s.kernel.agentNameRegistrations.contains registration.registrationId = false)
        s!"AgentIdentityRegistration already exists: {registration.registrationId}"
      require (s.kernel.agentNameIsRegistered registration.agentName = false)
        s!"AgentIdentityRegistration name is already assigned: {registration.agentName}"
      require (s.kernel.nodes.contains registration.nodeId = true)
        "AgentIdentityRegistration Node does not exist"
      return Kernel.recording registration.registrationId (.agentIdentityRegistered registration)
        "system" (some actorId) key (some registration.nodeId) none (clock 0)
        fun _ k =>
          { k with
            agentNameRegistrations :=
              k.agentNameRegistrations.set registration.registrationId registration } := by
    rw [Kernel.registerAgentIdentity, hfound]
    change (require _ _ >>= fun _ => require _ _ >>= fun _ => _) = _
    rw [require, Checked.check_bind_of rfl, require, Checked.check_bind_of hspace]
  constructor
  · intro hreturns
    cases hplan : s.kernel.registerAgentIdentity registration names actorId key clock with
    | error e =>
      obtain ⟨_, hok⟩ := EStateM.exists_ok_of_returns hreturns
      cases hok.symm.trans (EStateM.run_bind_of_error (perform_of_error hplan))
    | ok r =>
      have haccepted := Recording.accepted_of_returns
        (fun k => k.registerAgentIdentity registration names actorId key clock) hplan hreturns
      rw [hchecks] at hplan
      simp only [require] at hplan
      obtain ⟨hid, hplan⟩ := Checked.check_bind_eq_ok_iff.mp hplan
      obtain ⟨hname, hplan⟩ := Checked.check_bind_eq_ok_iff.mp hplan
      rw [Checked.check_bind_of hnode] at hplan
      cases hplan
      exact ⟨hid, hname, (accepted_iff_keyRecordable hs _ rfl _ _).mp haccepted⟩
  · rintro ⟨hid, hname, hkey⟩
    simp only [require] at hchecks
    rw [Checked.check_bind_of hid, Checked.check_bind_of hname, Checked.check_bind_of hnode]
      at hchecks
    obtain ⟨answer, s', hok⟩ := perform_returns
      (fun s : MemorySystem => s.kernel.registerAgentIdentity registration names actorId key clock)
      hchecks ((accepted_iff_keyRecordable hs _ rfl _ _).mpr hkey) fun _ _ _ => ⟨_, rfl⟩
    exact EStateM.returns_of_ok (EStateM.run_bind_of_ok hok)

/-! ### The exact condition -/

variable {state : AppState}

/-- The endpoint once the registry and the Node have been found. -/
private theorem endpoint_of_found (hregistry : state.agentNameRegistry = some registry)
    (hnode : state.system.kernel.nodes.contains request.nodeId = true) :
    registerAgentIdentityEndpoint request clock state =
      (naming registry (AgentNameAllocator.allocateOutOfPipeline request.registrationId
        state.system.kernel.dataSpace.dataSpaceId request.nodeId request.pilotId
        request.candidate) >>= recordIssued request clock) state := by
  rw [registerAgentIdentityEndpoint, EStateM.run_get_bind, hregistry]
  change (EStateM.ofExcept (require _ _) >>= _) state = _
  rw [require, (Checked.check_eq_ok_iff (u := ())).mpr hnode]
  rfl

variable (clock) in
/-- An endpoint that has no registry, or does not find the Node, raises and changes nothing. -/
private theorem endpoint_of_not_found
    (hnot : ∀ registry, state.agentNameRegistry = some registry →
      ¬ state.system.kernel.nodes.contains request.nodeId = true) :
    ∃ e, registerAgentIdentityEndpoint request clock state = .error e state := by
  rw [registerAgentIdentityEndpoint, EStateM.run_get_bind]
  cases hregistry : state.agentNameRegistry with
  | none => exact ⟨_, rfl⟩
  | some registry =>
    change ∃ e, (EStateM.ofExcept (require _ _) >>= _) state = .error e state
    rw [require, Checked.check, if_neg (hnot registry hregistry)]
    exact ⟨_, rfl⟩

/-- A chosen name decides about the condition. -/
private theorem recordable_iff_of_picks (hregistry : state.agentNameRegistry = some registry)
    (hnode : state.system.kernel.nodes.contains request.nodeId = true)
    (hknows : ¬ registry.HasIdentity request.registrationId)
    (hpicks : registry.Picks request.candidate name next) :
    RegistrationRecordable state request ↔
      if (request.registration state.system.kernel.dataSpace.dataSpaceId name).isValid = true then
        state.system.kernel.agentNameRegistrations.contains request.registrationId = false ∧
          state.system.kernel.agentNameIsRegistered name.agentName = false ∧
          KeyRecordable request.registrationId request.nodeId request.actorId
            request.idempotencyKey state.system
      else next.nextIndex = registry.nextIndex := by
  constructor
  · intro h
    exact h registry name next hregistry hnode hknows hpicks
  · intro h registry' name' next' hregistry' _ _ hpicks'
    obtain rfl := Option.some.inj (hregistry.symm.trans hregistry')
    obtain ⟨rfl, rfl⟩ := hpicks.unique hpicks'
    exact h

/-- A request that raises and leaves everything as it was is atomic. -/
private theorem registersAtomically_of_error {e : VsmError} {after : AppState}
    (h : registerAgentIdentityEndpoint request clock state = .error e after) :
    RegistersAtomically state request clock ↔
      after.agentNameRegistry = state.agentNameRegistry ∧
        after.system.kernel.agentNameRegistrations =
          state.system.kernel.agentNameRegistrations := by
  constructor
  · intro hatomic
    exact hatomic e after h
  · intro hsame e' after' h'
    cases h.symm.trans h'
    exact hsame

/-- **A registration that was issued stays in the registry**, whether or not the Kernel records
it. -/
private theorem registersAtomically_of_issued (hregistry : state.agentNameRegistry = some registry)
    (hnode : state.system.kernel.nodes.contains request.nodeId = true)
    {registration : AgentIdentityRegistration} {after : AgentNameAllocator}
    (hissued : AgentNameAllocator.allocateOutOfPipeline request.registrationId
      state.system.kernel.dataSpace.dataSpaceId request.nodeId request.pilotId request.candidate
      registry = .ok registration after) (hne : after ≠ registry) :
    RegistersAtomically state request clock ↔
      ((KernelCommand.registerAgentIdentity registration after.registry request.actorId
        request.idempotencyKey).run clock : SystemM InMemoryOperationalLedger Unit).returns
          state.system = true := by
  have hendpoint : registerAgentIdentityEndpoint request clock state =
      recordIssued request clock (registration, after)
        { state with agentNameRegistry := some after } := by
    rw [endpoint_of_found hregistry hnode]
    refine EStateM.run_bind_of_ok ?_
    rw [naming, hissued]
  cases hkernel : ((KernelCommand.registerAgentIdentity registration after.registry
      request.actorId request.idempotencyKey).run clock :
        SystemM InMemoryOperationalLedger Unit) state.system with
  | ok _ system =>
    refine iff_of_true ?_ (EStateM.returns_of_ok hkernel)
    intro e next h
    rw [hendpoint, recordIssued, EStateM.run_bind_of_ok
      (EStateM.run_zoom_of_ok (S := AppState) hkernel)] at h
    cases h
  | error e system =>
    refine iff_of_false ?_ ?_
    · intro hatomic
      have hraised : registerAgentIdentityEndpoint request clock state =
          .error e ⟨some after, system⟩ := by
        rw [hendpoint, recordIssued]
        refine EStateM.run_bind_of_error ?_
        exact EStateM.run_zoom_of_error (S := AppState) hkernel
      have hsame := (hatomic _ _ hraised).1
      rw [hregistry] at hsame
      exact hne (Option.some.inj hsame)
    · rw [EStateM.returns, hkernel]
      exact Bool.false_ne_true

/-- **The exact condition**, over every registry and every Kernel of a run. -/
theorem registersAtomically_iff (names : Option AgentNameAllocator) (dataSpace : DataSpace)
    (inputs : List (ProcessCommand × Clock)) (request : RegisterAgentIdentityRequest)
    (clock : Clock) :
    RegistersAtomically ⟨names, runProcesses (.new dataSpace) inputs⟩ request clock ↔
      RegistrationRecordable ⟨names, runProcesses (.new dataSpace) inputs⟩ request := by
  have hs := (syncedIn_runProcesses dataSpace inputs).1.toKernelSynced
  generalize runProcesses (.new dataSpace) inputs = s at *
  let state : AppState := ⟨names, s⟩
  change RegistersAtomically state request clock ↔ RegistrationRecordable state request
  by_cases hfound : ∀ registry, state.agentNameRegistry = some registry →
      ¬ state.system.kernel.nodes.contains request.nodeId = true
  · obtain ⟨e, herror⟩ := endpoint_of_not_found clock hfound
    refine iff_of_true ((registersAtomically_of_error herror).mpr ⟨rfl, rfl⟩) ?_
    intro registry _ _ hregistry hnode
    exact absurd hnode (hfound registry hregistry)
  push Not at hfound
  obtain ⟨registry, hregistry, hnode⟩ := hfound
  by_cases hpicks : ∃ name next, ¬ registry.HasIdentity request.registrationId ∧
      registry.Picks request.candidate name next
  · obtain ⟨name, next, hknows, hpicks⟩ := hpicks
    rw [recordable_iff_of_picks hregistry hnode hknows hpicks]
    have hallocated := allocateOutOfPipeline_of_picks request
      state.system.kernel.dataSpace.dataSpaceId hknows hpicks
    split_ifs with hvalid
    · rw [if_pos hvalid] at hallocated
      rw [registersAtomically_of_issued hregistry hnode hallocated ?_]
      · exact registerAgentIdentity_returns_iff hs (OrderedDict.get?_set_self ..) rfl hnode
      · intro heq
        refine hknows (Or.inl ?_)
        rw [← heq, OrderedDict.contains]
        exact congrArg Option.isSome (OrderedDict.get?_set_self ..)
    · rw [if_neg hvalid] at hallocated
      have herror : registerAgentIdentityEndpoint request clock state =
          .error (.validationError "AgentIdentityRegistration") ⟨some next, s⟩ := by
        rw [endpoint_of_found hregistry hnode]
        refine EStateM.run_bind_of_error ?_
        rw [naming, hallocated]
      rw [registersAtomically_of_error herror, hregistry]
      constructor
      · rintro ⟨hsame, -⟩
        rw [Option.some.inj hsame]
      · intro hindex
        rw [hpicks.eq_withIndex, hindex]
        exact ⟨rfl, rfl⟩
  · obtain ⟨e, hallocated⟩ := allocateOutOfPipeline_of_not_picks request
      state.system.kernel.dataSpace.dataSpaceId fun name next hknows hpicked =>
        hpicks ⟨name, next, hknows, hpicked⟩
    have herror : registerAgentIdentityEndpoint request clock state =
        .error e ⟨some registry, s⟩ := by
      rw [endpoint_of_found hregistry hnode]
      refine EStateM.run_bind_of_error ?_
      rw [naming, hallocated]
    refine iff_of_true ((registersAtomically_of_error herror).mpr ⟨hregistry.symm, rfl⟩) ?_
    intro registry' name next hregistry' _ hknows hpicked
    obtain rfl := Option.some.inj (hregistry.symm.trans hregistry')
    exact absurd ⟨name, next, hknows, hpicked⟩ hpicks

/-! ### A reused idempotency key -/

/-- The owner's Interface Node is registered. -/
def registeredNode : List (ProcessCommand × Clock) :=
  [(.service (.kernel (.registerNode ownerNode "owner:1" "register:1")), fun _ => 0)]

/-- A new process, whose registry has issued no name. -/
def cupState : AppState :=
  letI := Sha256.polynomial
  ⟨some cupAllocator, runProcesses (.new companySpace) registeredNode⟩

/-- A request under the key of the Node's registration. -/
def reusedKeyRequest : RegisterAgentIdentityRequest :=
  ⟨"owner:1", "register:1", "registration:1", "node:owner-interface", "pilot:1", cupCandidate⟩

omit [Sha256] in
/-- **A reused key.** The Kernel refuses the request, and the registry keeps its name. -/
theorem reused_key_breaks_registersAtomically :
    letI := Sha256.polynomial
    ¬ RegistersAtomically cupState reusedKeyRequest fun _ => 1 := by
  let := Sha256.polynomial
  intro h
  have hreturns : (registerAgentIdentityEndpoint reusedKeyRequest fun _ => 1).returns cupState =
      false := by decide +kernel
  have hkept : ((registerAgentIdentityEndpoint reusedKeyRequest fun _ => 1).finalState
      cupState).agentNameRegistry.map (fun names => names.registry.registrations.keys) =
        some ["registration:1"] := by decide +kernel
  obtain ⟨e, herror⟩ := EStateM.exists_error_of_not_returns hreturns
  rw [(h e _ herror).1] at hkept
  cases hkept

end Nanihold
