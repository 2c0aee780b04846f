import Nanihold.Replay.Runs

/-!
# Effect leases over runs

The lifecycle of an effect lease, and the plan under which an effect was approved. A lease is
planned once, and an effect runs only under an approval of the plan that runs; planning a
lease a second time is the one command that can break both.

## Main definitions

* `LeaseMove` — the moves of a lease.
* `planInForce`, `ApprovedUnder` — the plan of a lease after a list of events, and an approval
  recorded while that plan was in force.
* `Kernel.ReplansInPlace` — a lease is planned again only while it is planned, and only with
  the same plan once it is approved.

## Main results

* `Kernel.leaseStep_of_changes` — what one event does to one lease.
* `effectLaw_of_replansInPlace` — the law of leases in runs that replan in place.
-/

namespace Nanihold

/-! ### The lifecycle -/

/-- A move of a lease in its lifecycle; `none` is a lease that was never planned. -/
inductive LeaseMove : Option EffectLeaseState → Option EffectLeaseState → Prop
  | stay (state : Option EffectLeaseState) : LeaseMove state state
  | plan : LeaseMove none (some .planned)
  | activate : LeaseMove (some .planned) (some .active)
  | lose : LeaseMove (some .active) (some .unknown)
  | reconcile {result : EffectLeaseState} (h : result = .succeeded ∨ result = .failed) :
      LeaseMove (some .unknown) (some result)
  | revoke {state : EffectLeaseState} (h : state = .planned ∨ state = .active) :
      LeaseMove (some state) (some .revoked)

/-- The state of a lease. -/
def Kernel.leaseState (k : Kernel) (leaseId : String) : Option EffectLeaseState :=
  (k.effectLeases.get? leaseId).map (·.state)

/-- What an approval is about: the target and the digest of the plan. -/
structure EffectPlan where
  target : NonBlank
  planSha256 : String
  deriving DecidableEq

def EffectLease.plan (lease : EffectLease) : EffectPlan := ⟨lease.target, lease.planSha256⟩

/-- The plan that an event gives to a lease. -/
def plannedBy (leaseId : String) : EventPayload → Option EffectPlan
  | .kernel (.effectPlanned lease) => if lease.leaseId = leaseId then some lease.plan else none
  | _ => none

/-- The plan of a lease after a list of events: the one it was last planned with. -/
def planInForce (leaseId : String) (events : List StoredEvent) : Option EffectPlan :=
  events.foldl (fun plan stored => (plannedBy leaseId stored.event.payload).or plan) none

theorem planInForce_concat (leaseId : String) (events : List StoredEvent) (stored : StoredEvent) :
    planInForce leaseId (events ++ [stored]) =
      (plannedBy leaseId stored.event.payload).or (planInForce leaseId events) := by
  rw [planInForce, List.foldl_append]
  rfl

/-- The event approves the lease. -/
def approves (leaseId : String) : EventPayload → Bool
  | .kernel (.effectApproved approval) => approval.leaseId = leaseId
  | _ => false

/-- The lease was approved while this plan was in force. -/
def ApprovedUnder (leaseId : String) (plan : EffectPlan) (events : List StoredEvent) : Prop :=
  ∃ earlier approved later, events = earlier ++ approved :: later ∧
    approves leaseId approved.event.payload = true ∧ planInForce leaseId earlier = some plan

theorem approvedUnder_concat {leaseId : String} {plan : EffectPlan} {events : List StoredEvent}
    {stored : StoredEvent} :
    ApprovedUnder leaseId plan (events ++ [stored]) ↔ ApprovedUnder leaseId plan events ∨
      approves leaseId stored.event.payload = true ∧ planInForce leaseId events = some plan := by
  constructor
  · rintro ⟨earlier, approved, later, hsplit, happroves, hplan⟩
    rcases List.eq_nil_or_concat later with rfl | ⟨later, last, rfl⟩
    · obtain ⟨rfl, hlast⟩ := List.append_inj' hsplit rfl
      obtain rfl := (List.cons.inj hlast).1
      exact Or.inr ⟨happroves, hplan⟩
    · have hsplit' : events ++ [stored] = (earlier ++ approved :: later) ++ [last] := by
        rw [hsplit]
        simp
      obtain ⟨rfl, -⟩ := List.append_inj' hsplit' rfl
      exact Or.inl ⟨earlier, approved, later, rfl, happroves, hplan⟩
  · rintro (⟨earlier, approved, later, rfl, hrest⟩ | ⟨happroves, hplan⟩)
    · exact ⟨earlier, approved, later ++ [stored], by simp, hrest⟩
    · exact ⟨events, stored, [], rfl, happroves, hplan⟩

/-- The plans under which the lease was approved, latest first. -/
def approvedPlans (leaseId : String) (events : List StoredEvent) : List EffectPlan :=
  (events.foldl (fun known stored =>
    ((plannedBy leaseId stored.event.payload).or known.1,
      if approves leaseId stored.event.payload then known.1.toList ++ known.2 else known.2))
    (none, [])).2

/-- The plans of the approvals are computed in one pass. -/
theorem approvedUnder_iff_mem (leaseId : String) (plan : EffectPlan) (events : List StoredEvent) :
    ApprovedUnder leaseId plan events ↔ plan ∈ approvedPlans leaseId events := by
  suffices h : (events.foldl (fun known stored =>
      ((plannedBy leaseId stored.event.payload).or known.1,
        if approves leaseId stored.event.payload then known.1.toList ++ known.2 else known.2))
      ((none : Option EffectPlan), ([] : List EffectPlan))).1 = planInForce leaseId events ∧
      (ApprovedUnder leaseId plan events ↔ plan ∈ approvedPlans leaseId events) from h.2
  induction events using List.reverseRecOn with
  | nil => exact ⟨rfl, by simp [ApprovedUnder, approvedPlans]⟩
  | append_singleton events stored ih =>
    obtain ⟨hplan, hmem⟩ := ih
    rw [approvedPlans] at hmem ⊢
    rw [List.foldl_append, approvedUnder_concat, planInForce_concat]
    simp only [List.foldl_cons, List.foldl_nil, hplan, hmem, true_and]
    split_ifs with happroves <;> simp [happroves, or_comm]

instance (leaseId : String) (plan : EffectPlan) (events : List StoredEvent) :
    Decidable (ApprovedUnder leaseId plan events) :=
  decidable_of_iff _ (approvedUnder_iff_mem leaseId plan events).symm

/-- An activation of an effect under an approval of the plan that runs. -/
def ActivationsApproved (events : List StoredEvent) : Prop :=
  ∀ before activated after state, events = before ++ activated :: after →
    activated.event.payload = .kernel (.effectActivated state) →
    ∃ plan, planInForce activated.event.streamId before = some plan ∧
      ApprovedUnder activated.event.streamId plan before

theorem ActivationsApproved.getElem? {events : List StoredEvent} (h : ActivationsApproved events)
    {i : Nat} {activated : StoredEvent} (hget : events[i]? = some activated)
    {state : EffectLeaseState}
    (hpayload : activated.event.payload = .kernel (.effectActivated state)) :
    ∃ plan, planInForce activated.event.streamId (events.take i) = some plan ∧
      ApprovedUnder activated.event.streamId plan (events.take i) := by
  obtain ⟨hi, hget⟩ := List.getElem?_eq_some_iff.mp hget
  refine h _ activated (events.drop (i + 1)) state ?_ hpayload
  rw [← hget, ← List.drop_eq_getElem_cons hi, List.take_append_drop]

/-! ### One event and one lease -/

/-- What an event does to the lease under an identifier: nothing, a plan, or a move. -/
inductive LeaseStep (payload : KernelPayload) (leaseId : String) :
    Option EffectLease → Option EffectLease → Prop
  | kept (known : Option EffectLease) (no_plan : plannedBy leaseId (.kernel payload) = none) :
      LeaseStep payload leaseId known known
  | planned {known : Option EffectLease} (lease : EffectLease)
      (payload_eq : payload = .effectPlanned lease) (lease_id : lease.leaseId = leaseId)
      (state : lease.state = .planned) : LeaseStep payload leaseId known (some lease)
  | moved {lease : EffectLease} {state : EffectLeaseState}
      (no_plan : plannedBy leaseId (.kernel payload) = none)
      (move : LeaseMove (some lease.state) (some state)) :
      LeaseStep payload leaseId (some lease) (some { lease with state := state })

section Steps

variable {k next : Kernel} {event : EventEnvelope} {payload : KernelPayload}

private theorem leaseStep_modify (leaseId : String) {known : EffectLease}
    {state : EffectLeaseState} (hknown : k.effectLeases.get? event.streamId = some known)
    (hmove : LeaseMove (some known.state) (some state))
    (hplan : plannedBy leaseId (.kernel payload) = none) :
    LeaseStep payload leaseId (k.effectLeases.get? leaseId)
      ((k.effectLeases.modify event.streamId fun lease =>
        { lease with state := state }).get? leaseId) := by
  rw [OrderedDict.get?_modify]
  split_ifs with heq
  · subst heq
    rw [hknown]
    exact .moved hplan hmove
  · exact .kept _ hplan

/-- **What an event does to a lease.** -/
theorem Kernel.leaseStep_of_changes (hpermits : k.Permits event payload)
    (hchanges : k.Changes event payload next) (leaseId : String) :
    LeaseStep payload leaseId (k.effectLeases.get? leaseId)
      (next.effectLeases.get? leaseId) := by
  rw [hchanges.effect_leases]
  cases payload <;> simp only [Kernel.effectLeasesAfter]
  case effectPlanned lease =>
    rw [OrderedDict.get?_set]
    split_ifs with heq
    · exact .planned lease rfl heq hpermits.2.2.1
    · exact .kept _ (if_neg heq)
  case effectActivated state =>
    obtain ⟨rfl, -, -, known, hknown, hstate⟩ := hpermits
    exact leaseStep_modify leaseId hknown (hstate ▸ .activate) rfl
  case effectResultUnknown state key =>
    obtain ⟨rfl, known, hknown, hstate⟩ := hpermits
    exact leaseStep_modify leaseId hknown (hstate ▸ .lose) rfl
  case effectReconciled state key =>
    obtain ⟨hresult, known, hknown, hstate⟩ := hpermits
    exact leaseStep_modify leaseId hknown (hstate ▸ .reconcile hresult) rfl
  case humanIntervention reason =>
    rw [OrderedDict.get?_mapValues]
    cases k.effectLeases.get? leaseId with
    | none => exact .kept none rfl
    | some lease =>
      rw [Option.map_some, Kernel.revoked]
      split_ifs with hrevoke
      · exact .moved rfl (.revoke hrevoke.2)
      · exact .kept _ rfl
  all_goals exact .kept _ rfl

/-- A lease that is planned again is still planned, and once it is approved its plan stays. -/
def Kernel.ReplansInPlace (k : Kernel) (lease : EffectLease) : Prop :=
  ∀ known, k.effectLeases.get? lease.leaseId = some known → known.state = .planned ∧
    (k.effectApprovals.contains lease.leaseId = true → known.plan = lease.plan)

theorem LeaseStep.move {leaseId : String} {known : Option EffectLease}
    (h : LeaseStep payload leaseId (k.effectLeases.get? leaseId) known)
    (hplan : ∀ lease, payload = .effectPlanned lease → k.ReplansInPlace lease) :
    LeaseMove (k.leaseState leaseId) (known.map (·.state)) := by
  rw [Kernel.leaseState]
  generalize hold : k.effectLeases.get? leaseId = old at h
  cases h with
  | kept known _ => exact .stay _
  | planned lease hpayload hid hstate =>
    rw [Option.map_some, hstate]
    cases old with
    | none => exact .plan
    | some old =>
      rw [Option.map_some, (hplan lease hpayload old (hid ▸ hold)).1]
      exact .stay _
  | moved _ hmove => exact hmove

end Steps

/-! ### One event and the history of all leases -/

/-- What the events say about the leases and the approvals of the live Kernel. -/
structure LeaseHistory (s : MemorySystem) : Prop where
  synced : s.KernelSynced
  plans : ∀ leaseId lease, s.kernel.effectLeases.get? leaseId = some lease →
    planInForce leaseId s.ledger.events = some lease.plan
  approvals : ∀ leaseId, s.kernel.effectApprovals.contains leaseId = true →
    ∃ lease, s.kernel.effectLeases.get? leaseId = some lease ∧
      ApprovedUnder leaseId lease.plan s.ledger.events
  activations : ActivationsApproved s.ledger.events

theorem leaseHistory_new (dataSpace : DataSpace) : LeaseHistory (.new dataSpace) where
  synced := System.kernelSynced_new dataSpace
  plans _ _ h := nomatch h
  approvals _ h := nomatch h
  activations before activated after _ h := by
    have hlength := congrArg List.length h
    simp [System.new, InMemoryOperationalLedger.new] at hlength

section Events

variable {s s' : MemorySystem} {event : EventEnvelope}

/-- A lease after an event was planned by it, or it was there and keeps its plan. -/
private theorem plan_after {payload : KernelPayload} {leaseId : String}
    {known : Option EffectLease} {lease : EffectLease}
    (h : LeaseStep payload leaseId known (some lease)) :
    plannedBy leaseId (.kernel payload) = some lease.plan ∨
      plannedBy leaseId (.kernel payload) = none ∧
        ∃ old, known = some old ∧ old.plan = lease.plan := by
  cases h with
  | kept _ hno => exact Or.inr ⟨hno, lease, rfl, rfl⟩
  | planned _ hpayload hid _ =>
    left
    rw [hpayload]
    exact if_pos hid
  | moved hno _ => exact Or.inr ⟨hno, _, rfl, rfl⟩

/-- A lease stays; its plan changes only when it is planned again. -/
private theorem plan_before {payload : KernelPayload} {leaseId : String} {old : EffectLease}
    {next : Option EffectLease} (h : LeaseStep payload leaseId (some old) next) :
    ∃ lease, next = some lease ∧
      (old.plan = lease.plan ∨ payload = .effectPlanned lease ∧ lease.leaseId = leaseId) := by
  cases h with
  | kept => exact ⟨old, rfl, Or.inl rfl⟩
  | planned lease hpayload hid _ => exact ⟨lease, rfl, Or.inr ⟨hpayload, hid⟩⟩
  | moved => exact ⟨_, rfl, Or.inl rfl⟩

/-- One more event keeps the activations approved when it is no activation, or an approved
one. -/
private theorem ActivationsApproved.concat {events : List StoredEvent} {stored : StoredEvent}
    (h : ActivationsApproved events)
    (hlast : ∀ state, stored.event.payload = .kernel (.effectActivated state) →
      ∃ plan, planInForce stored.event.streamId events = some plan ∧
        ApprovedUnder stored.event.streamId plan events) :
    ActivationsApproved (events ++ [stored]) := by
  intro before activated after state hsplit hpayload
  rcases List.eq_nil_or_concat after with rfl | ⟨after, last, rfl⟩
  · obtain ⟨rfl, hlasteq⟩ := List.append_inj' hsplit rfl
    obtain rfl := (List.cons.inj hlasteq).1
    exact hlast state hpayload
  · have hsplit' : events ++ [stored] = (before ++ activated :: after) ++ [last] := by
      rw [hsplit]
      simp
    obtain ⟨hevents, -⟩ := List.append_inj' hsplit' rfl
    exact h before activated after state hevents hpayload

/-- **A recorded event** keeps the history, if it plans in place. -/
theorem leaseHistory_of_stepped (hs : LeaseHistory s) (h : s.Stepped event s')
    (hplan : ∀ lease, event.payload = .kernel (.effectPlanned lease) →
      s.kernel.ReplansInPlace lease) : LeaseHistory s' := by
  have hevents := h.events
  have hstored : (s.ledger.store event).event = event := rfl
  rcases h.kernel_cases hs.synced with
    ⟨payload, hpayload, hpermits, hchanges⟩ | ⟨hother, activation, auth, hkernel⟩
  · have hlease := Kernel.leaseStep_of_changes hpermits hchanges
    refine ⟨System.kernelSynced_of_stepped hs.synced h, ?_, ?_, ?_⟩
    · intro leaseId lease hget
      have hstep := hlease leaseId
      rw [hget] at hstep
      rw [hevents, planInForce_concat, hstored, hpayload]
      rcases plan_after hstep with hplanned | ⟨hno, old, hold, hsame⟩
      · rw [hplanned, Option.some_or]
      · rw [hno, Option.none_or, hs.plans leaseId old hold, hsame]
    · intro leaseId hcontains
      have hkept (hold : s.kernel.effectApprovals.contains leaseId = true) :
          ∃ lease, s'.kernel.effectLeases.get? leaseId = some lease ∧
            ApprovedUnder leaseId lease.plan s'.ledger.events := by
        obtain ⟨old, hget, happroved⟩ := hs.approvals leaseId hold
        have hstep := hlease leaseId
        rw [hget] at hstep
        obtain ⟨lease, hnext, hsame⟩ := plan_before hstep
        refine ⟨lease, hnext, ?_⟩
        have hplan_eq : old.plan = lease.plan := by
          rcases hsame with hsame | ⟨rfl, rfl⟩
          · exact hsame
          · exact (hplan lease hpayload old hget).2 hold
        rw [hevents, ← hplan_eq]
        exact approvedUnder_concat.mpr (Or.inl happroved)
      rw [hchanges.effect_approvals] at hcontains
      cases payload
      case effectApproved approval =>
        by_cases hid : approval.leaseId = leaseId
        · obtain ⟨-, -, -, lease, hget, -⟩ := hpermits
          rw [hid] at hget
          have hsame : s'.kernel.effectLeases = s.kernel.effectLeases := hchanges.effect_leases
          have happroves : approves leaseId (s.ledger.store event).event.payload = true := by
            rw [hstored, hpayload]
            exact decide_eq_true hid
          rw [hevents]
          exact ⟨lease, hsame ▸ hget,
            approvedUnder_concat.mpr (Or.inr ⟨happroves, hs.plans leaseId lease hget⟩)⟩
        · rw [Kernel.effectApprovalsAfter, OrderedDict.contains_set, decide_eq_false hid,
            Bool.false_or] at hcontains
          exact hkept hcontains
      all_goals exact hkept hcontains
    · rw [hevents]
      refine hs.activations.concat fun state hactivated => ?_
      obtain rfl := EventPayload.kernel.inj (hpayload.symm.trans hactivated)
      obtain ⟨-, -, hcontains, -⟩ := hpermits
      obtain ⟨lease, hget, happroved⟩ := hs.approvals event.streamId hcontains
      exact ⟨lease.plan, hs.plans _ _ hget, happroved⟩
  · have hno (leaseId : String) : plannedBy leaseId event.payload = none := by
      unfold plannedBy
      split
      · next lease hpayload => exact absurd hpayload (hother _)
      · rfl
    refine ⟨System.kernelSynced_of_stepped hs.synced h, ?_, ?_, ?_⟩
    · intro leaseId lease hget
      rw [hkernel] at hget
      rw [hevents, planInForce_concat, hstored, hno, Option.none_or]
      exact hs.plans leaseId lease hget
    · intro leaseId hcontains
      rw [hkernel] at hcontains ⊢
      obtain ⟨lease, hget, happroved⟩ := hs.approvals leaseId hcontains
      exact ⟨lease, hget, hevents ▸ approvedUnder_concat.mpr (Or.inl happroved)⟩
    · rw [hevents]
      exact hs.activations.concat fun state hactivated => absurd hactivated (hother _)

/-- **A recorded event** moves each lease within its lifecycle, if it plans in place. -/
theorem leaseMove_of_stepped (hs : s.KernelSynced) (h : s.Stepped event s')
    (hplan : ∀ lease, event.payload = .kernel (.effectPlanned lease) →
      s.kernel.ReplansInPlace lease) (leaseId : String) :
    LeaseMove (s.kernel.leaseState leaseId) (s'.kernel.leaseState leaseId) := by
  rcases h.kernel_cases hs with
    ⟨payload, hpayload, hpermits, hchanges⟩ | ⟨-, activation, auth, hkernel⟩
  · exact (Kernel.leaseStep_of_changes hpermits hchanges leaseId).move
      fun lease hlease => hplan lease (hpayload.trans (congrArg _ hlease))
  · rw [hkernel]
    exact .stay _

end Events

/-! ### Runs -/

variable [Sha256]

/-- A lease is planned in place by this command: a `plan_effect` that is recorded finds no
lease, or one that is still planned and, once approved, has the same plan. -/
def ReplansInPlace (s : MemorySystem) (input : ServiceCommand × Clock) : Prop :=
  ∀ lease actorId key, input.1 = .kernel (.planEffect lease actorId key) →
    ∀ r, s.kernel.planEffect lease actorId key input.2 = .ok r → r.Accepted s →
      s.kernel.ReplansInPlace lease

/-- What a step that plans in place does to the history and to the leases. -/
def LeasesKept (s s' : MemorySystem) : Prop :=
  LeaseHistory s' ∧
    ∀ leaseId, LeaseMove (s.kernel.leaseState leaseId) (s'.kernel.leaseState leaseId)

theorem leasesKept_kernel {s : MemorySystem} (hs : LeaseHistory s) (c : KernelCommand)
    (clock : Clock) (hc : ReplansInPlace s (.kernel c, clock)) :
    LeasesKept s ((c.run clock).finalState s) := by
  have hsame : LeasesKept s s := ⟨hs, fun leaseId => .stay _⟩
  generalize hnext : (c.run clock).finalState s = s'
  have hout := c.outcome hs.synced clock
  rw [hnext] at hout
  cases hout with
  | unchanged => exact hsame
  | @recorded _ event _ payload hpayload hrecords hstep =>
    by_cases hplan : ∀ lease, event.payload = .kernel (.effectPlanned lease) →
        s.kernel.ReplansInPlace lease
    · exact ⟨leaseHistory_of_stepped hs hstep.stepped hplan,
        leaseMove_of_stepped hs.synced hstep.stepped hplan⟩
    · -- A recorded `plan_effect` that does not plan in place is ruled out by the condition.
      push Not at hplan
      obtain ⟨lease, hlease, hnot⟩ := hplan
      obtain rfl := EventPayload.kernel.inj (hpayload.symm.trans hlease)
      obtain ⟨actorId, key, rfl⟩ := hrecords.planEffect
      have hrefused : ∀ r, s.kernel.planEffect lease actorId key clock = .ok r → ¬ r.Accepted s :=
        fun r hr haccepted => hnot (hc lease actorId key rfl r hr haccepted)
      have hunchanged : s' = s := by
        rw [← hnext, KernelCommand.run, performKernel, EStateM.finalState_bind_pure]
        exact finalState_perform_of_not_accepted hrefused
      exact hunchanged ▸ hsame
  | @promoted _ _ _ _ _ _ mid _ hcreated _ hfirst hlinked hsecond =>
    have hplan {event : EventEnvelope} {payload : KernelPayload}
        (hpayload : event.payload = .kernel payload)
        (hne : ∀ lease, payload ≠ .effectPlanned lease) (k : Kernel) (lease : EffectLease)
        (hlease : event.payload = .kernel (.effectPlanned lease)) : k.ReplansInPlace lease :=
      absurd (EventPayload.kernel.inj (hpayload.symm.trans hlease)) (hne lease)
    have hplan₁ := hplan hcreated (by simp) s.kernel
    have hmid := leaseHistory_of_stepped hs hfirst.stepped hplan₁
    have hplan₂ := hplan hlinked (by simp) mid.kernel
    refine ⟨leaseHistory_of_stepped hmid hsecond.stepped hplan₂, fun leaseId => ?_⟩
    have hleases := (Kernel.changes_of_applyKernel hmid.synced.consistent
      (hsecond.stepped.kernel hlinked).2).effect_leases
    have hstate : s'.kernel.leaseState leaseId = _ :=
      congrArg (fun leases => (leases.get? leaseId).map (·.state)) hleases
    rw [hstate]
    exact leaseMove_of_stepped hs.synced hfirst.stepped hplan₁ leaseId

/-- Events of other services and blobs leave the leases where they are. -/
theorem leasesKept_of_reaches {s s' : MemorySystem} {P : EventPayload → Prop}
    (hs : LeaseHistory s) (h : System.Reaches P s s')
    (hP : ∀ payload, ¬ P (.kernel payload)) : LeasesKept s s' := by
  refine h.invariant ?_ ?_ ⟨hs, fun leaseId => .stay _⟩
  · intro mid event next ⟨hmid, hmoves⟩ hpayload hmirrored
    have hother (payload : KernelPayload) : event.payload ≠ .kernel payload :=
      fun heq => hP payload (heq ▸ hpayload)
    have hplan : ∀ lease, event.payload = .kernel (.effectPlanned lease) →
        mid.kernel.ReplansInPlace lease := fun lease hlease => absurd hlease (hother _)
    refine ⟨leaseHistory_of_stepped hmid hmirrored.stepped hplan, fun leaseId => ?_⟩
    rcases hmirrored.stepped.kernel_cases hmid.synced with
      ⟨payload, hown, -⟩ | ⟨-, activation, auth, hkernel⟩
    · exact absurd hown (hother payload)
    · rw [hkernel]
      exact hmoves leaseId
  · intro mid data ⟨hmid, hmoves⟩
    exact ⟨{ hmid with synced := System.kernelSynced_putBlob hmid.synced data }, hmoves⟩

/-- **A command** that plans in place keeps the history and moves each lease within its
lifecycle. -/
theorem leasesKept_step (s : MemorySystem) (input : ServiceCommand × Clock)
    (hs : LeaseHistory s) (hc : ReplansInPlace s input) :
    LeasesKept s (ServiceCommand.step s input) := by
  obtain ⟨c, clock⟩ := input
  cases c with
  | kernel c => exact leasesKept_kernel hs c clock hc
  | activation c =>
    exact leasesKept_of_reaches hs (c.outcome hs.synced clock) fun _ ⟨_, h⟩ => nomatch h
  | history c =>
    exact leasesKept_of_reaches hs (c.outcome hs.synced clock) fun _ ⟨_, h⟩ => nomatch h
  | ownerAuth c =>
    exact leasesKept_of_reaches hs (c.outcome hs.synced clock) fun _ ⟨_, h⟩ => nomatch h

/-- The law of effect leases in a run: every command moves every lease within its lifecycle,
and every effect was activated under an approval of the plan that was activated. -/
def EffectLaw (dataSpace : DataSpace) (inputs : List (ServiceCommand × Clock)) : Prop :=
  (∀ first input rest, inputs = first ++ input :: rest → ∀ leaseId,
    LeaseMove ((runCommands (.new dataSpace) first).kernel.leaseState leaseId)
      ((runCommands (.new dataSpace) (first ++ [input])).kernel.leaseState leaseId)) ∧
  ActivationsApproved (runCommands (.new dataSpace) inputs).ledger.events

theorem leaseHistory_run (dataSpace : DataSpace) {inputs : List (ServiceCommand × Clock)}
    (hc : Run.Along ServiceCommand.step ReplansInPlace (.new dataSpace) inputs) :
    LeaseHistory (runCommands (.new dataSpace) inputs) :=
  Run.exec_invariant_along (fun s input hs hc => (leasesKept_step s input hs hc).1) inputs hc
    (leaseHistory_new dataSpace)

/-- **The law of effect leases** holds in every run that plans in place. -/
theorem effectLaw_of_replansInPlace (dataSpace : DataSpace)
    (inputs : List (ServiceCommand × Clock))
    (hc : Run.Along ServiceCommand.step ReplansInPlace (.new dataSpace) inputs) :
    EffectLaw dataSpace inputs := by
  refine ⟨?_, (leaseHistory_run dataSpace hc).activations⟩
  rintro first input rest rfl leaseId
  obtain ⟨hfirst, hinput, -⟩ := Run.along_append.mp hc
  have hstep := (leasesKept_step _ input (leaseHistory_run dataSpace hfirst) hinput).2 leaseId
  rw [runCommands, runCommands, Run.exec_concat]
  exact hstep

/-! ### A plan exchanged after its approval -/

/-- An execution of the company's work item. -/
def companyExecution : Execution where
  executionId := "execution:1"
  dataSpaceId := "space:company-1"
  nodeId := "node:owner-interface"
  workItemId := "work:1"
  pilotId := "pilot:1"
  modelCandidateKey := "candidate"
  state := .requested
  providerSessionId := none
  pilotHostId := "host:1"
  pauseReason := none
  agentName := none

/-- A planned deployment to a target. -/
def deployment (target planSha256 : String) : EffectLease where
  leaseId := "lease:1"
  dataSpaceId := "space:company-1"
  workItemId := "work:1"
  executionId := "execution:1"
  effectKind := "deploy"
  target := target
  idempotencyKey := "deploy:1"
  planSha256 := planSha256
  state := .planned
  expiresAt := 10

/-- Commission the company and start an execution. -/
def startedRun : List (ServiceCommand × Clock) :=
  commissioning ++
    [(.kernel (.createExecution companyExecution "owner:1" "execution:1"), fun _ => 0)]

/-- Plan and approve a deployment. -/
def approvedRun : List (ServiceCommand × Clock) :=
  startedRun ++
    [(.kernel (.planEffect (deployment "staging" "a") "pilot:1" "plan:1"), fun _ => 0),
      (.kernel (.approveEffect "lease:1" "owner:1" "approve-effect:1"), fun _ => 0)]

theorem replansInPlace_of_ne {s : MemorySystem} {input : ServiceCommand × Clock}
    (h : ∀ lease actorId key, input.1 ≠ .kernel (.planEffect lease actorId key)) :
    ReplansInPlace s input :=
  fun lease actorId key heq => absurd heq (h lease actorId key)

theorem replansInPlace_of_none {s : MemorySystem} {lease : EffectLease} {actorId key : String}
    {clock : Clock} (h : s.kernel.effectLeases.get? lease.leaseId = none) :
    ReplansInPlace s (.kernel (.planEffect lease actorId key), clock) := by
  intro planned _ _ heq _ _ _ known hknown
  injection heq with heq
  injection heq with hlease
  rw [← hlease, h] at hknown
  exact nomatch hknown

omit [Sha256] in
/-- An approved deployment is activated. -/
theorem effectLaw_of_activated :
    letI := Sha256.polynomial
    EffectLaw companySpace (approvedRun ++
      [(.kernel (.activateEffect "lease:1" "pilot:1" "activate:1"), fun _ => 0)]) := by
  let := Sha256.polynomial
  refine effectLaw_of_replansInPlace companySpace _ ?_
  rw [approvedRun, List.append_assoc, Run.along_append]
  have hstarted : (Run.exec ServiceCommand.step (.new companySpace)
      startedRun).kernel.effectLeases.get? (deployment "staging" "a").leaseId = none := by
    decide +kernel
  have hno : ∀ input ∈ startedRun, ∀ lease actorId key,
      input.1 ≠ .kernel (.planEffect lease actorId key) := by
    simp [startedRun, commissioning]
  refine ⟨?_, ?_, ?_, ?_, trivial⟩
  · exact Run.along_of_forall fun input hinput s => replansInPlace_of_ne (hno input hinput)
  · exact replansInPlace_of_none hstarted
  · exact replansInPlace_of_ne (by simp)
  · exact replansInPlace_of_ne (by simp)

/-- The approved lease is planned again for another target and then activated; at last it is
planned a third time. -/
def exchangedRun : List (ServiceCommand × Clock) :=
  approvedRun ++
    [(.kernel (.planEffect (deployment "production" "b") "pilot:1" "plan:2"), fun _ => 0),
      (.kernel (.activateEffect "lease:1" "pilot:1" "activate:1"), fun _ => 0),
      (.kernel (.planEffect (deployment "production" "b") "pilot:1" "plan:3"), fun _ => 0)]

/-- The ledger that the run leaves behind. -/
def exchangedEvents : List StoredEvent :=
  (@runCommands Sha256.polynomial (.new companySpace) exchangedRun).ledger.events

omit [Sha256] in
private theorem exchangedEvents_approval :
    exchangedEvents[10]?.map (fun stored => (stored.event.payload, stored.event.streamId)) =
        some (.kernel (.effectActivated .active), "lease:1") ∧
      planInForce "lease:1" (exchangedEvents.take 10) = some ⟨"production", "b"⟩ ∧
      ¬ ApprovedUnder "lease:1" ⟨"production", "b"⟩ (exchangedEvents.take 10) := by
  decide +kernel

omit [Sha256] in
/-- A deployment to production runs under the approval of one to staging. -/
theorem exchangedRun_breaks_effectLaw :
    letI := Sha256.polynomial
    ¬ EffectLaw companySpace exchangedRun := by
  rintro ⟨-, h⟩
  let := Sha256.polynomial
  change ActivationsApproved exchangedEvents at h
  obtain ⟨hactivation, hproduction, hnotApproved⟩ := exchangedEvents_approval
  obtain ⟨activated, hget, hstored⟩ := Option.map_eq_some_iff.mp hactivation
  obtain ⟨hpayload, hstream⟩ := Prod.mk.inj hstored
  obtain ⟨plan, hplan, happroved⟩ := h.getElem? hget hpayload
  rw [hstream] at hplan happroved
  obtain rfl := Option.some.inj (hplan.symm.trans hproduction)
  exact hnotApproved happroved

end Nanihold
