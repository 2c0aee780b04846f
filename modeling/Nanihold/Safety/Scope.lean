import Nanihold.Replay.Restart

/-!
# The reach of interventions and host losses

An intervention on a work item and the loss of a PilotHost stop work: each rewrites the executions
and leases it affects and nothing else. Their events name only the work item or the host, and the
handlers compute the affected entities again, from the state at the event.

## Main definitions

* `InterventionScope`, `DisconnectScope` — what such a command may change and must leave.
* `ReplaysAs` — a rebuild makes of the recorded event what the command made.
* `ExactlyScoped` — a command that returns stays in its scope and one that raises changes nothing.

## Main results

* `interventionScope_of_applyKernel`, `disconnectScope_of_applyKernel` — the handlers' scope.
* `exactlyScoped_run` — both commands are exactly scoped in every reachable state.
-/

namespace Nanihold

open OrderedDict (RewritesExactly)

/-- An execution as a stop leaves it. -/
def Execution.pausedFor (reason : String) (execution : Execution) : Execution :=
  { execution with state := .paused, pauseReason := some reason }

/-- A lease as an intervention leaves it. -/
def EffectLease.afterRevocation (lease : EffectLease) : EffectLease :=
  { lease with state := .revoked }

/-- **The scope of an intervention** on a work item: the work item, its active executions and its
planned and active leases; and the version of the stream that the event is recorded on. -/
structure InterventionScope (workItemId : String) (k next : Kernel) : Prop where
  work_item : ∃ work, k.workItems.get? workItemId = some work ∧
    next.workItems.get? workItemId = some { work with state := .paused }
  other_work_items : ∀ id, id ≠ workItemId → next.workItems.get? id = k.workItems.get? id
  executions : RewritesExactly
    (fun execution => execution.workItemId = workItemId ∧ execution.state = .active)
    (Execution.pausedFor "human_intervention") k.executions next.executions
  leases : RewritesExactly
    (fun lease => lease.workItemId = workItemId ∧ (lease.state = .planned ∨ lease.state = .active))
    EffectLease.afterRevocation k.effectLeases next.effectLeases
  none_active : ∀ id execution, next.executions.get? id = some execution →
    execution.workItemId = workItemId → execution.state ≠ .active
  none_open : ∀ id lease, next.effectLeases.get? id = some lease → lease.workItemId = workItemId →
    lease.state ≠ .planned ∧ lease.state ≠ .active
  other_versions : ∀ id, id ≠ workItemId → next.versions.get? id = k.versions.get? id
  elsewhere : next = { k with
    workItems := next.workItems
    executions := next.executions
    effectLeases := next.effectLeases
    versions := next.versions }

/-- **The scope of a host loss**: the active executions of the host; and the version of the stream
that the event is recorded on. -/
structure DisconnectScope (pilotHostId : String) (k next : Kernel) : Prop where
  executions : RewritesExactly
    (fun execution => execution.pilotHostId = pilotHostId ∧ execution.state = .active)
    (Execution.pausedFor "pilot_host_disconnected") k.executions next.executions
  none_active : ∀ id execution, next.executions.get? id = some execution →
    execution.pilotHostId = pilotHostId → execution.state ≠ .active
  other_versions : ∀ id, id ≠ pilotHostId → next.versions.get? id = k.versions.get? id
  elsewhere : next = { k with executions := next.executions, versions := next.versions }

/-! ### The handlers -/

section Handlers

variable {k next : Kernel} {event : EventEnvelope}

/-- Among executions that a stop rewrote, none that it affects is active. -/
private theorem state_ne_active_of_rewritten {Affected : Execution → Prop} {reason : String}
    {before after : OrderedDict String Execution}
    (h : RewritesExactly (fun execution => Affected execution ∧ execution.state = .active)
      (Execution.pausedFor reason) before after)
    {id : String} {execution : Execution} (hget : after.get? id = some execution)
    (haffected : Affected execution) : execution.state ≠ .active := by
  obtain ⟨old, -, ⟨-, rfl⟩ | ⟨hnot, rfl⟩⟩ := h.get?_eq_some hget
  · simp [Execution.pausedFor]
  · exact fun hactive => hnot ⟨haffected, hactive⟩

/-- The handler of an intervention stays in its scope. -/
theorem interventionScope_of_applyKernel {reason : String}
    (h : applyKernel event (.humanIntervention reason) k = .ok next) :
    InterventionScope event.streamId k next := by
  simp only [applyKernel, onKernel, Checked.bind_eq_ok_iff, Checked.orRaise_eq_ok_iff,
    Checked.pure_eq_ok_iff] at h
  obtain ⟨_, ⟨work, hwork, rfl⟩, rfl⟩ := h
  have hexecutions := k.executions.rewritesExactly_mapValues
    (fun execution => execution.workItemId = event.streamId ∧ execution.state = .active)
    (Execution.pausedFor "human_intervention")
  have hleases := k.effectLeases.rewritesExactly_mapValues
    (fun lease => lease.workItemId = event.streamId ∧
      (lease.state = .planned ∨ lease.state = .active)) EffectLease.afterRevocation
  refine
    { work_item := ⟨work, hwork, OrderedDict.get?_set_self _ _ _⟩
      other_work_items := fun id hid => OrderedDict.get?_set_of_ne _ _ (Ne.symm hid)
      executions := hexecutions
      leases := hleases
      none_active := fun id execution hget => state_ne_active_of_rewritten hexecutions hget
      none_open := fun id lease hget hid => ?_
      other_versions := fun id hid => OrderedDict.get?_set_of_ne _ _ (Ne.symm hid)
      elsewhere := rfl }
  obtain ⟨old, -, ⟨-, rfl⟩ | ⟨hnot, rfl⟩⟩ := hleases.get?_eq_some hget
  · simp [EffectLease.afterRevocation]
  · exact ⟨fun hstate => hnot ⟨hid, Or.inl hstate⟩, fun hstate => hnot ⟨hid, Or.inr hstate⟩⟩

/-- The handler of a host loss stays in its scope. -/
theorem disconnectScope_of_applyKernel {pilotHostId : String}
    (hstream : event.streamId = pilotHostId)
    (h : applyKernel event (.pilotHostDisconnected pilotHostId) k = .ok next) :
    DisconnectScope pilotHostId k next := by
  simp only [applyKernel, onKernel, Checked.bind_eq_ok_iff, Checked.pure_eq_ok_iff] at h
  obtain ⟨_, hmid, rfl⟩ := h
  obtain rfl := Except.ok.inj hmid
  have hexecutions := k.executions.rewritesExactly_mapValues
    (fun execution => execution.pilotHostId = pilotHostId ∧ execution.state = .active)
    (Execution.pausedFor "pilot_host_disconnected")
  exact
    { executions := hexecutions
      none_active := fun id execution hget => state_ne_active_of_rewritten hexecutions hget
      other_versions := fun id hid => OrderedDict.get?_set_of_ne _ _ (hstream ▸ Ne.symm hid)
      elsewhere := rfl }

end Handlers

/-! ### The commands -/

variable [Sha256]

/-- **The replay of a command**: it recorded one event, the handler of this event makes the change
that the command made, and a rebuild of the ledger gives the Kernel that the command left. -/
structure ReplaysAs (streamId : String) (payload : KernelPayload) (s s' : MemorySystem) : Prop where
  handled : ∃ event, s'.ledger.events = s.ledger.events ++ [s.ledger.store event] ∧
    event.streamId = streamId ∧ event.payload = .kernel payload ∧
    applyKernel event payload s.kernel = .ok s'.kernel
  rebuilt : ∀ pageSize, 0 < pageSize → ∃ rebuilt,
    (OperationalProjection.fresh s.kernel.dataSpace).rebuild s'.ledger pageSize =
      .ok (some rebuilt) ∧ rebuilt.kernel = s'.kernel

/-- **Exactly scoped**: a command that returns changes the Kernel within its scope and is replayed
as it was, and one that raises changes nothing. -/
def ExactlyScoped (Scope : Kernel → Kernel → Prop) (streamId : String) (payload : KernelPayload)
    (x : SystemM InMemoryOperationalLedger Unit) (s : MemorySystem) : Prop :=
  EStateM.Triple (· = s) x (fun _ s' => Scope s.kernel s'.kernel ∧ ReplaysAs streamId payload s s')
    fun _ s' => s' = s

variable {s : MemorySystem}

omit [Sha256] in
/-- The replay of one recorded event of the Kernel. -/
theorem replaysAs_of_mirrored (hs : s.Synced) {event : EventEnvelope} {s' : MemorySystem}
    {payload : KernelPayload} (hpayload : event.payload = .kernel payload)
    (hmirrored : s.Mirrored event s') : ReplaysAs event.streamId payload s s' where
  handled := ⟨event, hmirrored.stepped.events, rfl, hpayload, (hmirrored.stepped.kernel hpayload).2⟩
  rebuilt pageSize hpos := by
    have hrebuild := System.rebuild_of_synced (System.synced_of_mirrored hs hmirrored) hpos
    rw [hmirrored.stepped.data_space hs.toKernelSynced] at hrebuild
    exact ⟨_, hrebuild, rfl⟩

/-- A Kernel command that records one event is exactly scoped when the handler of this event is. -/
private theorem exactlyScoped_of_handler (hs : s.Synced) {Scope : Kernel → Kernel → Prop}
    {streamId : String} {payload : KernelPayload}
    {plan : Kernel → Except VsmError (Recording Kernel)}
    (hplan : ∀ r, plan s.kernel = .ok r → s.kernel.Replayable streamId payload r)
    (hscope : ∀ event next, event.streamId = streamId →
      applyKernel event payload s.kernel = .ok next → Scope s.kernel next) :
    ExactlyScoped Scope streamId payload (performKernel plan) s := by
  rintro _ rfl
  rcases performKernel_cases hs.toKernelSynced plan
    (fun stream recorded => stream = streamId ∧ recorded = payload)
    (fun r hr => ⟨_, _, ⟨rfl, rfl⟩, hplan r hr⟩) with
    ⟨e, herror⟩ | ⟨event, s', ⟨_, hpayload, ⟨hstream, rfl⟩, hmirrored⟩, hok⟩
  · rw [herror]
  · rw [hok]
    have happlied := (hmirrored.stepped.kernel hpayload).2
    exact ⟨hscope event s'.kernel hstream happlied,
      hstream ▸ replaysAs_of_mirrored hs hpayload hmirrored⟩

/-- An intervention is exactly scoped. -/
theorem exactlyScoped_intervene (hs : s.Synced) (workItemId actorId reason key : String)
    (clock : Clock) :
    ExactlyScoped (InterventionScope workItemId) workItemId (.humanIntervention reason)
      ((KernelCommand.intervene workItemId actorId reason key).run clock) s := by
  rw [KernelCommand.run]
  exact exactlyScoped_of_handler hs (fun _ hr => Kernel.replayable_intervene hr)
    fun _ _ hstream happlied => hstream ▸ interventionScope_of_applyKernel happlied

/-- A host loss is exactly scoped. -/
theorem exactlyScoped_pilotHostDisconnected (hs : s.Synced) (pilotHostId key : String)
    (clock : Clock) :
    ExactlyScoped (DisconnectScope pilotHostId) pilotHostId (.pilotHostDisconnected pilotHostId)
      ((KernelCommand.pilotHostDisconnected pilotHostId key).run clock) s := by
  rw [KernelCommand.run]
  exact exactlyScoped_of_handler hs (fun _ hr => Kernel.replayable_pilotHostDisconnected hr)
    fun _ _ hstream happlied => disconnectScope_of_applyKernel hstream happlied

/-- **Interventions and host losses are exactly scoped** in every state that a run with restarts
reaches, whatever their arguments. -/
theorem exactlyScoped_run (dataSpace : DataSpace) (inputs : List (ProcessCommand × Clock)) :
    (∀ workItemId actorId reason key clock,
      ExactlyScoped (InterventionScope workItemId) workItemId (.humanIntervention reason)
        ((KernelCommand.intervene workItemId actorId reason key).run clock)
        (runProcesses (.new dataSpace) inputs)) ∧
    ∀ pilotHostId key clock,
      ExactlyScoped (DisconnectScope pilotHostId) pilotHostId (.pilotHostDisconnected pilotHostId)
        ((KernelCommand.pilotHostDisconnected pilotHostId key).run clock)
        (runProcesses (.new dataSpace) inputs) := by
  have hs := (syncedIn_runProcesses dataSpace inputs).1
  exact ⟨exactlyScoped_intervene hs, exactlyScoped_pilotHostDisconnected hs⟩

end Nanihold
