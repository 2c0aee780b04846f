import Nanihold.Safety.Effects

/-!
# Human intervention over runs

An intervention pauses a work item, its active executions and its open effect leases. Later
commands look at an execution or a lease, not at the paused work item: three of them start work
on it all the same.

## Main definitions

* `Kernel.PausedWork` — the work item is paused.
* `Stopped` — no execution of a work item is new or active, and none of its leases is open.
* `InterventionLaw` — work stays stopped while the work item stays paused.
* `RespectsPause` — no work is started on a paused work item.

## Main results

* `stopped_of_intervened` — an intervention stops the work.
* `interventionLaw_of_respectsPause` — the law in runs that respect the pause.
-/

namespace Nanihold

/-- The work item is paused. -/
def Kernel.PausedWork (k : Kernel) (workItemId : String) : Prop :=
  ∃ work, k.workItems.get? workItemId = some work ∧ work.state = .paused

/-- Every execution of the work item is a known one and is not active, and no lease of the work
item is planned or active. -/
structure Stopped (known : String → Prop) (workItemId : String) (k : Kernel) : Prop where
  executions : ∀ id execution, k.executions.get? id = some execution →
    execution.workItemId = workItemId → known id ∧ execution.state ≠ .active
  leases : ∀ id lease, k.effectLeases.get? id = some lease → lease.workItemId = workItemId →
    lease.state ≠ .planned ∧ lease.state ≠ .active

/-- The events that start work on the work item. -/
def StartsWork (workItemId : String) (k : Kernel) (streamId : String) : KernelPayload → Prop
  | .executionCreated execution => execution.workItemId = workItemId
  | .executionStateChanged state _ =>
    state = .active ∧
      ∃ execution, k.executions.get? streamId = some execution ∧ execution.workItemId = workItemId
  | .effectPlanned lease => lease.workItemId = workItemId
  | _ => False

section Events

variable {k next : Kernel} {event : EventEnvelope} {payload : KernelPayload}
  {known : String → Prop} {workItemId : String}

/-- A rewrite of one execution that keeps its work item and does not activate it. -/
private theorem executions_modify (h : Stopped known workItemId k) {key : String}
    {f : Execution → Execution} {id : String} {execution : Execution}
    (hget : (k.executions.modify key f).get? id = some execution)
    (hid : execution.workItemId = workItemId)
    (hwork : ∀ execution, (f execution).workItemId = execution.workItemId)
    (hactive : ∀ execution, k.executions.get? key = some execution →
      execution.workItemId = workItemId → execution.state ≠ .active →
        (f execution).state ≠ .active) : known id ∧ execution.state ≠ .active := by
  rw [OrderedDict.get?_modify] at hget
  split_ifs at hget with hkey
  · obtain ⟨old, hold, rfl⟩ := Option.map_eq_some_iff.mp hget
    rw [hwork] at hid
    obtain ⟨hknown, hstate⟩ := h.executions id old hold hid
    exact ⟨hknown, hactive old (hkey ▸ hold) hid hstate⟩
  · exact h.executions id execution hget hid

/-- A rewrite of all executions that keeps their work items and activates none. -/
private theorem executions_mapValues (h : Stopped known workItemId k)
    {f : Execution → Execution} {id : String} {execution : Execution}
    (hget : (k.executions.mapValues fun _ => f).get? id = some execution)
    (hid : execution.workItemId = workItemId)
    (hwork : ∀ execution, (f execution).workItemId = execution.workItemId)
    (hactive : ∀ execution, execution.state ≠ .active → (f execution).state ≠ .active) :
    known id ∧ execution.state ≠ .active := by
  rw [OrderedDict.get?_mapValues] at hget
  obtain ⟨old, hold, rfl⟩ := Option.map_eq_some_iff.mp hget
  rw [hwork] at hid
  obtain ⟨hknown, hstate⟩ := h.executions id old hold hid
  exact ⟨hknown, hactive old hstate⟩

private theorem executions_kept (h : Stopped known workItemId k)
    (hpermits : k.Permits event payload)
    (hnot : ¬ StartsWork workItemId k event.streamId payload) (id : String)
    (execution : Execution)
    (hget : (k.executionsAfter event payload).get? id = some execution)
    (hid : execution.workItemId = workItemId) : known id ∧ execution.state ≠ .active := by
  cases payload <;> simp only [Kernel.executionsAfter] at hget
  case executionCreated created =>
    rw [OrderedDict.get?_set] at hget
    split_ifs at hget
    · exact absurd (Option.some.inj hget ▸ hid) hnot
    · exact h.executions id execution hget hid
  case agentNameAssigned =>
    exact executions_modify h hget hid (fun _ => rfl) fun _ _ _ hstate => hstate
  case executionStateChanged state pauseReason =>
    refine executions_modify h hget hid (fun _ => rfl) fun old hold hwork _ hactive => ?_
    exact hnot ⟨hactive, old, hold, hwork⟩
  case pilotExecutionReceiptRecorded receipt =>
    obtain ⟨-, -, -, -, -, -, houtcome⟩ := hpermits
    refine executions_modify h hget hid (fun _ => rfl) fun old _ _ _ => ?_
    change receipt.state ≠ .active
    rcases houtcome with hstate | hstate | ⟨hstate, -⟩ <;> simp [hstate]
  case humanIntervention =>
    refine executions_mapValues h hget hid (fun old => ?_) fun old hstate => ?_
    · rw [Kernel.intervened]
      split_ifs <;> rfl
    · rw [Kernel.intervened]
      split_ifs
      · simp [Kernel.pauseActive]
      · exact hstate
  case pilotHostDisconnected =>
    refine executions_mapValues h hget hid (fun old => ?_) fun old hstate => ?_
    · rw [Kernel.disconnected]
      split_ifs <;> rfl
    · rw [Kernel.disconnected]
      split_ifs
      · simp [Kernel.pauseActive]
      · exact hstate
  all_goals exact h.executions id execution hget hid

/-- A rewrite of one lease that keeps its work item and does not open it. -/
private theorem leases_modify (h : Stopped known workItemId k) {key : String}
    {f : EffectLease → EffectLease} {id : String} {lease : EffectLease}
    (hget : (k.effectLeases.modify key f).get? id = some lease)
    (hid : lease.workItemId = workItemId)
    (hwork : ∀ lease, (f lease).workItemId = lease.workItemId)
    (hclosed : ∀ lease, k.effectLeases.get? key = some lease → lease.workItemId = workItemId →
      (f lease).state ≠ .planned ∧ (f lease).state ≠ .active) :
    lease.state ≠ .planned ∧ lease.state ≠ .active := by
  rw [OrderedDict.get?_modify] at hget
  split_ifs at hget with hkey
  · obtain ⟨old, hold, rfl⟩ := Option.map_eq_some_iff.mp hget
    rw [hwork] at hid
    exact hclosed old (hkey ▸ hold) hid
  · exact h.leases id lease hget hid

private theorem leases_kept (h : Stopped known workItemId k) (hpermits : k.Permits event payload)
    (hnot : ¬ StartsWork workItemId k event.streamId payload) (id : String) (lease : EffectLease)
    (hget : (k.effectLeasesAfter event payload).get? id = some lease)
    (hid : lease.workItemId = workItemId) : lease.state ≠ .planned ∧ lease.state ≠ .active := by
  cases payload <;> simp only [Kernel.effectLeasesAfter] at hget
  case effectPlanned planned =>
    rw [OrderedDict.get?_set] at hget
    split_ifs at hget
    · exact absurd (Option.some.inj hget ▸ hid) hnot
    · exact h.leases id lease hget hid
  case effectActivated state =>
    -- Only a planned lease is activated, and no lease of the work item is planned.
    obtain ⟨-, -, -, activated, hactivated, hplanned⟩ := hpermits
    refine leases_modify h hget hid (fun _ => rfl) fun old hold hwork => ?_
    obtain rfl := Option.some.inj (hactivated.symm.trans hold)
    exact absurd hplanned (h.leases _ _ hactivated hwork).1
  case effectResultUnknown state key =>
    obtain ⟨rfl, -⟩ := hpermits
    exact leases_modify h hget hid (fun _ => rfl) fun _ _ _ => by simp
  case effectReconciled state key =>
    obtain ⟨hstate, -⟩ := hpermits
    refine leases_modify h hget hid (fun _ => rfl) fun _ _ _ => ?_
    rcases hstate with rfl | rfl <;> simp
  case humanIntervention =>
    rw [OrderedDict.get?_mapValues] at hget
    obtain ⟨old, hold, rfl⟩ := Option.map_eq_some_iff.mp hget
    rw [Kernel.revoked] at hid ⊢
    split_ifs at hid ⊢
    · simp
    · exact h.leases id old hold hid
  all_goals exact h.leases id lease hget hid

end Events

/-- **Every event but those that start work** leaves the work item stopped. -/
theorem stopped_kept (known : String → Prop) (workItemId : String) :
    Kernel.KeptExcept (StartsWork workItemId) (Stopped known workItemId) where
  changes := by
    intro k event payload next _ h hpermits hchanges hnot
    constructor
    · rw [hchanges.executions]
      exact executions_kept h hpermits hnot
    · rw [hchanges.effect_leases]
      exact leases_kept h hpermits hnot
  collections _ _ h := ⟨h.executions, h.leases⟩
  created _ _ h := h
  promoted _ _ _ h := h

/-- **An intervention** stops the work: no execution of the work item is created by it or active
after it, and its open leases are revoked. -/
theorem stopped_of_intervened {k next : Kernel} {event : EventEnvelope} {reason : String}
    (hchanges : k.Changes event (.humanIntervention reason) next) :
    Stopped (k.executions.contains · = true) event.streamId next := by
  constructor
  · intro id execution hget hid
    rw [hchanges.executions, Kernel.executionsAfter, OrderedDict.get?_mapValues] at hget
    obtain ⟨old, hold, rfl⟩ := Option.map_eq_some_iff.mp hget
    refine ⟨(OrderedDict.contains_iff _ _).mpr ⟨old, hold⟩, ?_⟩
    rw [Kernel.intervened] at hid ⊢
    split_ifs at hid ⊢ with hactive
    · simp [Kernel.pauseActive]
    · exact fun hstate => hactive ⟨hid, hstate⟩
  · intro id lease hget hid
    rw [hchanges.effect_leases, Kernel.effectLeasesAfter, OrderedDict.get?_mapValues] at hget
    obtain ⟨old, hold, rfl⟩ := Option.map_eq_some_iff.mp hget
    rw [Kernel.revoked] at hid ⊢
    split_ifs at hid ⊢ with hopen
    · simp
    · exact ⟨fun hstate => hopen ⟨hid, Or.inl hstate⟩, fun hstate => hopen ⟨hid, Or.inr hstate⟩⟩

variable [Sha256]

/-- An intervention that returns leaves the work item stopped. -/
theorem stopped_of_intervene {s s' : MemorySystem} (hs : s.KernelSynced)
    {workItemId actorId reason key : String} {clock : Clock}
    (h : (KernelCommand.intervene workItemId actorId reason key).run clock s = .ok () s') :
    Stopped (s.kernel.executions.contains · = true) workItemId s'.kernel := by
  rw [KernelCommand.run] at h
  rcases performKernel_cases hs (·.intervene workItemId actorId reason key clock)
      (fun streamId payload => streamId = workItemId ∧ payload = .humanIntervention reason)
      fun r hr => ⟨_, _, ⟨rfl, rfl⟩, Kernel.replayable_intervene hr⟩ with
    ⟨e, herror⟩ | ⟨event, next, ⟨payload, hpayload, ⟨hstream, rfl⟩, hmirrored⟩, hok⟩
  · cases h.symm.trans herror
  · obtain rfl : next = s' := by injection hok.symm.trans h
    obtain ⟨-, happlied⟩ := hmirrored.stepped.kernel hpayload
    exact hstream ▸ stopped_of_intervened (Kernel.changes_of_applyKernel hs.consistent happlied)

/-- The pause is respected by this command: no `create_execution`, no `set_execution_state` to
active and no `plan_effect` for a paused work item passes its checks and is accepted. -/
structure RespectsPause (s : MemorySystem) (input : ServiceCommand × Clock) : Prop where
  created : ∀ execution actorId key r,
    input.1 = .kernel (.createExecution execution actorId key) →
    s.kernel.createExecution execution actorId key input.2 = .ok r → r.Accepted s →
      ¬ s.kernel.PausedWork execution.workItemId
  activated : ∀ executionId actorType actorId key pauseReason execution r,
    input.1 =
      .kernel (.setExecutionState executionId .active actorType actorId key pauseReason) →
    s.kernel.executions.get? executionId = some execution →
    s.kernel.setExecutionState executionId .active actorType actorId key pauseReason input.2 =
      .ok r → r.Accepted s → ¬ s.kernel.PausedWork execution.workItemId
  planned : ∀ lease actorId key r, input.1 = .kernel (.planEffect lease actorId key) →
    s.kernel.planEffect lease actorId key input.2 = .ok r → r.Accepted s →
      ¬ s.kernel.PausedWork lease.workItemId

/-- A command that respects the pause starts no work on a paused work item. -/
theorem unchanged_of_respectsPause {s : MemorySystem} {c : KernelCommand} {clock : Clock}
    {workItemId streamId : String} {payload : KernelPayload}
    (hpaused : s.kernel.PausedWork workItemId) (hc : RespectsPause s (.kernel c, clock))
    (hrecords : c.Records s.kernel streamId payload)
    (hstarts : StartsWork workItemId s.kernel streamId payload) :
    (c.run clock).finalState s = s := by
  cases payload <;> simp only [StartsWork] at hstarts
  case executionCreated execution =>
    obtain ⟨actorId, key, rfl⟩ := hrecords.createExecution
    rw [KernelCommand.run]
    exact finalState_performKernel_of_not_accepted fun r hr haccepted =>
      hc.created execution actorId key r rfl hr haccepted (hstarts ▸ hpaused)
  case executionStateChanged state pauseReason =>
    obtain ⟨rfl, execution, hget, hwork⟩ := hstarts
    obtain ⟨actorType, actorId, key, rfl⟩ := hrecords.setExecutionState
    rw [KernelCommand.run]
    exact finalState_performKernel_of_not_accepted fun r hr haccepted =>
      hc.activated streamId actorType actorId key pauseReason execution r rfl hget hr haccepted
        (hwork ▸ hpaused)
  case effectPlanned lease =>
    obtain ⟨actorId, key, rfl⟩ := hrecords.planEffect
    rw [KernelCommand.run]
    exact finalState_performKernel_of_not_accepted fun r hr haccepted =>
      hc.planned lease actorId key r rfl hr haccepted (hstarts ▸ hpaused)

/-- The law of intervention in a run: from every intervention that returns, and for as long as
the commands that follow find the work item paused, no execution of the work item is new or
active and none of its leases is open. -/
def InterventionLaw (dataSpace : DataSpace) (inputs : List (ServiceCommand × Clock)) : Prop :=
  ∀ first workItemId actorId reason key clock later rest next,
    inputs = first ++
      (.kernel (.intervene workItemId actorId reason key), clock) :: (later ++ rest) →
    (KernelCommand.intervene workItemId actorId reason key).run clock
      (runCommands (.new dataSpace) first) = .ok () next →
    Run.Along ServiceCommand.step (fun s _ => s.kernel.PausedWork workItemId) next later →
    Stopped ((runCommands (.new dataSpace) first).kernel.executions.contains · = true) workItemId
      (runCommands next later).kernel

/-- **The law of intervention** holds in every run that respects the pause. -/
theorem interventionLaw_of_respectsPause (dataSpace : DataSpace)
    (inputs : List (ServiceCommand × Clock))
    (hc : Run.Along ServiceCommand.step RespectsPause (.new dataSpace) inputs) :
    InterventionLaw dataSpace inputs := by
  rintro first workItemId actorId reason key clock later rest next rfl hreturns hpaused
  obtain ⟨-, -, hlater⟩ := Run.along_append.mp hc
  have hs := kernelSynced_run (System.kernelSynced_new dataSpace) first
  have hstep : ServiceCommand.step (runCommands (.new dataSpace) first)
      (.kernel (.intervene workItemId actorId reason key), clock) = next :=
    EStateM.finalState_of_ok hreturns
  have hnext : next.KernelSynced := hstep ▸ ServiceCommand.invariant_step kernelSynced_kept _ _ hs
  rw [← runCommands, hstep, Run.along_append] at hlater
  have hboth := Run.along_and.mpr ⟨hpaused, hlater.1⟩
  refine (stopped_kept _ workItemId).run ?_ hnext (stopped_of_intervene hs hreturns) hboth
  rintro s c clock ⟨hpaused, hrespects⟩ streamId payload hrecords hstarts
  exact unchanged_of_respectsPause hpaused hrespects hrecords hstarts

/-! ### Work on a paused work item -/

theorem respectsPause_of_ne {s : MemorySystem} {input : ServiceCommand × Clock}
    (hcreated : ∀ execution actorId key,
      input.1 ≠ .kernel (.createExecution execution actorId key))
    (hactivated : ∀ executionId actorType actorId key pauseReason, input.1 ≠
      .kernel (.setExecutionState executionId .active actorType actorId key pauseReason))
    (hplanned : ∀ lease actorId key, input.1 ≠ .kernel (.planEffect lease actorId key)) :
    RespectsPause s input :=
  ⟨fun execution actorId key _ heq => absurd heq (hcreated execution actorId key),
    fun executionId actorType actorId key pauseReason _ _ heq =>
      absurd heq (hactivated executionId actorType actorId key pauseReason),
    fun lease actorId key _ heq => absurd heq (hplanned lease actorId key)⟩

/-- An execution for a work item that is not paused. -/
theorem respectsPause_createExecution {s : MemorySystem} {execution : Execution}
    {actorId key : String} {clock : Clock} (h : ¬ s.kernel.PausedWork execution.workItemId) :
    RespectsPause s (.kernel (.createExecution execution actorId key), clock) where
  created := by
    rintro _ _ _ - heq - -
    injection heq with heq
    injection heq with heq
    exact heq ▸ h
  activated := fun _ _ _ _ _ _ _ heq => nomatch heq
  planned := fun _ _ _ _ heq => nomatch heq

/-- An owner stops the work item. -/
def stopWork : KernelCommand := .intervene "work:1" "owner:1" "stop" "intervene:1"

/-- The execution is requested, the owner stops the work item, and the owner delegates it
again. -/
def delegatedAgainRun : List (ServiceCommand × Clock) :=
  startedRun ++
    [(.kernel stopWork, fun _ => 0),
      (.kernel (.delegateWorkItem "work:1" "node:owner-interface" "owner:1" "delegate:2"),
        fun _ => 0)]

omit [Sha256] in
/-- The work stays stopped until the work item is delegated again. -/
theorem interventionLaw_of_delegatedAgainRun :
    letI := Sha256.polynomial
    InterventionLaw companySpace delegatedAgainRun := by
  let := Sha256.polynomial
  refine interventionLaw_of_respectsPause companySpace _ ?_
  have hstate : ((runCommands (.new companySpace) commissioning).kernel.workItems.get?
      "work:1").map (·.state) = some .proposed := by
    decide +kernel
  have hcommissioning : ∀ input ∈ commissioning,
      (∀ execution actorId key, input.1 ≠ .kernel (.createExecution execution actorId key)) ∧
      (∀ executionId actorType actorId key pauseReason, input.1 ≠
        .kernel (.setExecutionState executionId .active actorType actorId key pauseReason)) ∧
      ∀ lease actorId key, input.1 ≠ .kernel (.planEffect lease actorId key) := by
    simp [commissioning]
  rw [delegatedAgainRun, startedRun, List.append_assoc, Run.along_append]
  refine ⟨?_, ?_, ?_, ?_, trivial⟩
  · refine Run.along_of_forall fun input hinput s => ?_
    obtain ⟨hcreated, hactivated, hplanned⟩ := hcommissioning input hinput
    exact respectsPause_of_ne hcreated hactivated hplanned
  · refine respectsPause_createExecution ?_
    rintro ⟨work, hget, hpaused⟩
    rw [runCommands] at hstate
    rw [show companyExecution.workItemId = "work:1" from rfl] at hget
    rw [hget, Option.map_some, hpaused] at hstate
    cases hstate
  · exact respectsPause_of_ne (by simp [stopWork]) (by simp [stopWork]) (by simp [stopWork])
  · exact respectsPause_of_ne (by simp) (by simp) (by simp)

/-- The requested execution of the stopped work item is activated. -/
def activation : ServiceCommand × Clock :=
  (.kernel (.setExecutionState "execution:1" .active "pilot" "pilot:1" "activate:1" none),
    fun _ => 0)

omit [Sha256] in
/-- An execution that was only requested when the owner stopped the work is activated after
it. -/
theorem activation_breaks_interventionLaw :
    letI := Sha256.polynomial
    ¬ InterventionLaw companySpace
      (startedRun ++ [(.kernel stopWork, fun _ => 0), activation]) := by
  let := Sha256.polynomial
  intro h
  have hreturns : (match stopWork.run (fun _ => 0) (runCommands (.new companySpace) startedRun) with
      | .ok _ _ => true
      | .error _ _ => false) = true := by
    decide +kernel
  have hpaused : ((ServiceCommand.step (runCommands (.new companySpace) startedRun)
      (.kernel stopWork, fun _ => 0)).kernel.workItems.get? "work:1").map (·.state) =
        some .paused := by
    decide +kernel
  have hactive : ((runCommands (ServiceCommand.step (runCommands (.new companySpace) startedRun)
      (.kernel stopWork, fun _ => 0)) [activation]).kernel.executions.get? "execution:1").map
        (fun execution => (execution.workItemId, execution.state)) =
      some ("work:1", .active) := by
    decide +kernel
  split at hreturns
  · next next hnext =>
    have hstep : ServiceCommand.step (runCommands (.new companySpace) startedRun)
        (.kernel stopWork, fun _ => 0) = next := EStateM.finalState_of_ok hnext
    rw [hstep] at hpaused hactive
    have hstopped := h startedRun "work:1" "owner:1" "stop" "intervene:1" (fun _ => 0)
      [activation] [] next rfl hnext ⟨Option.map_eq_some_iff.mp hpaused, trivial⟩
    obtain ⟨execution, hget, hfields⟩ := Option.map_eq_some_iff.mp hactive
    obtain ⟨hwork, hstate⟩ := Prod.mk.inj hfields
    exact (hstopped.executions _ _ hget hwork).2 hstate
  · exact nomatch hreturns

end Nanihold
