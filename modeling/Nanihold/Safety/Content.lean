import Nanihold.Replay.Runs

/-!
# What is fixed when a record is created

A work item, an execution, a lease, a grant, a reservation, a finding or a route snapshot keeps
the content it was created with: later commands rewrite its state and the marks of its progress
only. Most creations do not look whether their identifier is taken, so a second creation under it
replaces the first.

## Main definitions

* `WorkItem.content`, `Execution.content`, … — a record without what later commands rewrite.
* `Kernel.RetainsContent` — every record is still there with its content.
* `KernelCommand.PresentsOther` — the command presents a taken identifier with other content.
* `ContentLaw` — content is retained over a run, and other content under a taken identifier is
  refused.

## Main results

* `contentLaw_of_keepsContent` — the law in runs where no creation of other content under a taken
  identifier is accepted.
-/

namespace Nanihold

/-! ### Content -/

/-- Owner, parent, acceptance criteria and whatever else of a work item stays. -/
def WorkItem.content (work : WorkItem) : WorkItem :=
  { work with
    delegatedToNodeId := work.ownerNodeId
    state := .proposed
    blockingS3StarFindingIds := []
    completionEvidence := none }

/-- Work item, node, Pilot and whatever else of an execution stays. -/
def Execution.content (execution : Execution) : Execution :=
  { execution with
    state := .requested
    providerSessionId := none
    pauseReason := none
    agentName := none }

/-- Plan hash, target, work item and whatever else of a lease stays. -/
def EffectLease.content (lease : EffectLease) : EffectLease := { lease with state := .planned }

/-- Work item, severity and whatever else of a finding stays. -/
def S3StarFinding.content (finding : S3StarFinding) : S3StarFinding :=
  { finding with acceptedByS5 := false }

/-- Candidates, evidence cursor and whatever else of a route snapshot stays. -/
def RouteSnapshot.content (snapshot : RouteSnapshot) : RouteSnapshot :=
  { snapshot with
    state := .draft
    s3StarApprovalEventId := none
    ownerApprovalEventId := none }

/-- Every record of a Kernel is one of the next Kernel, with the same content. Grants and
reservations are never rewritten. -/
structure Kernel.RetainsContent (k next : Kernel) : Prop where
  work_items : k.workItems.Retains WorkItem.content next.workItems
  executions : k.executions.Retains Execution.content next.executions
  effect_leases : k.effectLeases.Retains EffectLease.content next.effectLeases
  capability_grants : k.capabilityGrants.Retains id next.capabilityGrants
  budget_reservations : k.budgetReservations.Retains id next.budgetReservations
  findings : k.findings.Retains S3StarFinding.content next.findings
  route_snapshots : k.routeSnapshots.Retains RouteSnapshot.content next.routeSnapshots

theorem Kernel.RetainsContent.refl (k : Kernel) : k.RetainsContent k :=
  ⟨.refl _, .refl _, .refl _, .refl _, .refl _, .refl _, .refl _⟩

theorem Kernel.RetainsContent.trans {k mid next : Kernel} (h : k.RetainsContent mid)
    (h' : mid.RetainsContent next) : k.RetainsContent next :=
  ⟨h.work_items.trans h'.work_items, h.executions.trans h'.executions,
    h.effect_leases.trans h'.effect_leases, h.capability_grants.trans h'.capability_grants,
    h.budget_reservations.trans h'.budget_reservations, h.findings.trans h'.findings,
    h.route_snapshots.trans h'.route_snapshots⟩

/-! ### Other content under a taken identifier -/

/-- The dictionary has a record under the identifier whose content is not that of the record
presented. -/
def HasOther {ν γ : Type} (content : ν → γ) (d : OrderedDict String ν) (id : String) (record : ν) :
    Prop :=
  ∃ known, d.get? id = some known ∧ content record ≠ content known

/-- A record put under an identifier that no other content has. -/
theorem retains_set_of_not_hasOther {ν γ : Type} {content : ν → γ} {d : OrderedDict String ν}
    {id : String} {record : ν} (hnot : ¬ HasOther content d id record) :
    d.Retains content (d.set id record) := by
  refine .set _ _ _ fun known hknown => ?_
  by_contra hother
  exact hnot ⟨known, hknown, hother⟩

/-- A record created under a new identifier overwrites nothing. -/
theorem not_hasOther_of_fresh {ν γ : Type} {content : ν → γ} {d : OrderedDict String ν}
    {id : String} {record : ν} (hfresh : d.contains id = false) :
    ¬ HasOther content d id record := by
  rintro ⟨known, hknown, -⟩
  rw [(OrderedDict.contains_eq_false_iff d id).mp hfresh] at hknown
  cases hknown

/-- The events that put other content under a taken identifier. -/
def Overwrites (k : Kernel) (_ : String) : KernelPayload → Prop
  | .workItemCreated work => HasOther WorkItem.content k.workItems work.workItemId work
  | .effectPlanned lease => HasOther EffectLease.content k.effectLeases lease.leaseId lease
  | .capabilityGranted grant => HasOther id k.capabilityGrants grant.grantId grant
  | .budgetReserved reservation =>
    HasOther id k.budgetReservations reservation.reservationId reservation
  | .s3StarFindingRecorded finding =>
    HasOther S3StarFinding.content k.findings finding.findingId finding
  | .routeSnapshotRegistered snapshot =>
    HasOther RouteSnapshot.content k.routeSnapshots snapshot.snapshotId snapshot
  | _ => False

/-- The command presents a record whose identifier is taken by one with other content. -/
def KernelCommand.PresentsOther (k : Kernel) : KernelCommand → Prop
  | .createWorkItem work _ _ | .promoteAgentNotification _ work _ _ =>
    HasOther WorkItem.content k.workItems work.workItemId work
  | .importCurrentWorkGraph snapshot _ _ =>
    ∃ work ∈ snapshot.workItems, HasOther WorkItem.content k.workItems work.workItemId work
  | .createExecution execution _ _ =>
    HasOther Execution.content k.executions execution.executionId execution
  | .planEffect lease _ _ => HasOther EffectLease.content k.effectLeases lease.leaseId lease
  | .grantCapability grant _ _ => HasOther id k.capabilityGrants grant.grantId grant
  | .reserveBudget reservation _ _ =>
    HasOther id k.budgetReservations reservation.reservationId reservation
  | .recordS3StarFinding finding _ _ =>
    HasOther S3StarFinding.content k.findings finding.findingId finding
  | .registerRouteSnapshot snapshot _ _ =>
    HasOther RouteSnapshot.content k.routeSnapshots snapshot.snapshotId snapshot
  | _ => False

/-- The checks of the commands that create one record of the kinds above. -/
def KernelCommand.creation (k : Kernel) (clock : Clock) :
    KernelCommand → Option (Except VsmError (Recording Kernel))
  | .createWorkItem work actorId key => some (k.createWorkItem work actorId key clock)
  | .createExecution execution actorId key => some (k.createExecution execution actorId key clock)
  | .planEffect lease actorId key => some (k.planEffect lease actorId key clock)
  | .grantCapability grant actorId key => some (k.grantCapability grant actorId key clock)
  | .reserveBudget reservation actorId key => some (k.reserveBudget reservation actorId key clock)
  | .recordS3StarFinding finding actorId key =>
    some (k.recordS3StarFinding finding actorId key clock)
  | .registerRouteSnapshot snapshot actorId key =>
    some (k.registerRouteSnapshot snapshot actorId key clock)
  | _ => none

/-! ### Events -/

/-- **An event that overwrites nothing** retains the content of every record. -/
theorem Kernel.retainsContent_of_changes {k next : Kernel} {event : EventEnvelope}
    {payload : KernelPayload} (hpermits : k.Permits event payload)
    (hchanges : k.Changes event payload next) (hnot : ¬ Overwrites k event.streamId payload) :
    k.RetainsContent next where
  work_items := by
    rw [hchanges.work_items]
    cases payload <;> simp only [Kernel.workItemsAfter]
    case workItemCreated work =>
      exact retains_set_of_not_hasOther hnot
    case currentWorkGraphImported snapshot =>
      obtain ⟨-, -, -, -, hfresh, -⟩ := hpermits
      refine .update _ _ fun p hp => ?_
      obtain ⟨work, hwork, rfl⟩ := List.mem_map.mp hp
      exact hfresh work hwork
    case s3StarFindingRecorded finding =>
      split
      · exact .modify _ _ fun _ => rfl
      · exact .refl _
    case workItemDelegated => exact .modify _ _ fun _ => rfl
    case workItemResumePrepared => exact .modify _ _ fun _ => rfl
    case humanIntervention => exact .modify _ _ fun _ => rfl
    case s3StarRiskAccepted => exact .modify _ _ fun _ => rfl
    case workItemCompleted => exact .modify _ _ fun _ => rfl
    all_goals exact .refl _
  executions := by
    rw [hchanges.executions]
    cases payload <;> simp only [Kernel.executionsAfter]
    case executionCreated execution =>
      obtain ⟨-, -, -, hfresh, -⟩ := hpermits
      exact retains_set_of_not_hasOther (not_hasOther_of_fresh hfresh)
    case agentNameAssigned => exact .modify _ _ fun _ => rfl
    case executionStateChanged => exact .modify _ _ fun _ => rfl
    case pilotExecutionReceiptRecorded => exact .modify _ _ fun _ => rfl
    case humanIntervention =>
      refine .mapValues _ fun _ execution => ?_
      simp only [Kernel.intervened]
      split <;> rfl
    case pilotHostDisconnected =>
      refine .mapValues _ fun _ execution => ?_
      simp only [Kernel.disconnected]
      split <;> rfl
    all_goals exact .refl _
  effect_leases := by
    rw [hchanges.effect_leases]
    cases payload <;> simp only [Kernel.effectLeasesAfter]
    case effectPlanned lease =>
      exact retains_set_of_not_hasOther hnot
    case effectActivated => exact .modify _ _ fun _ => rfl
    case effectResultUnknown => exact .modify _ _ fun _ => rfl
    case effectReconciled => exact .modify _ _ fun _ => rfl
    case humanIntervention =>
      refine .mapValues _ fun _ lease => ?_
      simp only [Kernel.revoked]
      split <;> rfl
    all_goals exact .refl _
  capability_grants := by
    rw [hchanges.capability_grants]
    cases payload <;> simp only [Kernel.capabilityGrantsAfter]
    case capabilityGranted grant =>
      exact retains_set_of_not_hasOther hnot
    all_goals exact .refl _
  budget_reservations := by
    rw [hchanges.budget_reservations]
    cases payload <;> simp only [Kernel.budgetReservationsAfter]
    case budgetReserved reservation =>
      exact retains_set_of_not_hasOther hnot
    all_goals exact .refl _
  findings := by
    rw [hchanges.findings]
    cases payload <;> simp only [Kernel.findingsAfter]
    case s3StarFindingRecorded finding =>
      exact retains_set_of_not_hasOther hnot
    case s3StarRiskAccepted => exact .modify _ _ fun _ => rfl
    all_goals exact .refl _
  route_snapshots := by
    rw [hchanges.route_snapshots]
    cases payload <;> simp only [Kernel.routeSnapshotsAfter]
    case routeSnapshotRegistered snapshot =>
      exact retains_set_of_not_hasOther hnot
    case routeSnapshotApproved approval state =>
      refine .modify _ _ fun snapshot => ?_
      simp only [Kernel.approvedSnapshot]
      split <;> rfl
    case routeSnapshotPublished => exact .modify _ _ fun _ => rfl
    case routeSnapshotRetired => exact .modify _ _ fun _ => rfl
    all_goals exact .refl _

/-- **Every event but an overwrite** keeps what a Kernel before it contained. -/
theorem retainsContent_kept (first : Kernel) :
    Kernel.KeptExcept Overwrites (first.RetainsContent ·) where
  changes _ h hpermits hchanges hnot :=
    h.trans (Kernel.retainsContent_of_changes hpermits hchanges hnot)
  collections _ _ h := { h with }
  created _ hfresh := not_hasOther_of_fresh hfresh
  promoted _ _ _ h := h

/-! ### Runs -/

variable [Sha256] {s : MemorySystem} {c : KernelCommand} {clock : Clock}

/-- The step presents a taken identifier with other content, passes the checks of the command and
its event is accepted. -/
def AcceptsOther (s : MemorySystem) (input : ServiceCommand × Clock) : Prop :=
  ∃ c r, input.1 = .kernel c ∧ c.PresentsOther s.kernel ∧
    c.creation s.kernel input.2 = some (.ok r) ∧ r.Accepted s

/-- Content is kept by this step: no other content under a taken identifier is accepted. -/
def KeepsContent (s : MemorySystem) (input : ServiceCommand × Clock) : Prop :=
  ¬ AcceptsOther s input

/-- A creation of other content under a taken identifier is refused by a step that keeps
content. -/
theorem unchanged_of_creation (hcreation : c.creation s.kernel clock ≠ none)
    (hother : c.PresentsOther s.kernel) (hkeeps : KeepsContent s (.kernel c, clock)) :
    (c.run clock).finalState s = s := by
  cases c <;> simp only [KernelCommand.creation, ne_eq, not_true_eq_false] at hcreation
  all_goals
    rw [KernelCommand.run]
    refine finalState_performKernel_of_not_accepted fun r hr haccepted => ?_
    exact hkeeps ⟨_, r, rfl, hother, congrArg some hr, haccepted⟩

/-- **Other content under a taken identifier** is refused by a step that keeps content: the import
and the promotion look for it, and no other creation is accepted. -/
theorem unchanged_of_presentsOther (hs : s.KernelSynced) (hother : c.PresentsOther s.kernel)
    (hkeeps : KeepsContent s (.kernel c, clock)) : (c.run clock).finalState s = s := by
  cases c <;> simp only [KernelCommand.PresentsOther] at hother
  case promoteAgentNotification notificationId work actorId key =>
    have hout := (KernelCommand.promoteAgentNotification notificationId work actorId key).outcome hs
      clock
    generalize (KernelCommand.run clock _).finalState s = s' at hout ⊢
    cases hout with
    | unchanged => rfl
    | recorded payload hpayload hrecords hmirrored =>
      exact absurd hother (not_hasOther_of_fresh hrecords.2)
    | promoted hcreated hfresh hfirst hlinked hsecond =>
      exact absurd hother (not_hasOther_of_fresh hfresh)
  case importCurrentWorkGraph snapshot actorId key =>
    obtain ⟨work, hwork, hother⟩ := hother
    have hout := (KernelCommand.importCurrentWorkGraph snapshot actorId key).outcome hs clock
    generalize (KernelCommand.run clock _).finalState s = s' at hout ⊢
    cases hout with
    | unchanged => rfl
    | recorded payload hpayload hrecords hmirrored =>
      obtain rfl : payload = .currentWorkGraphImported snapshot := hrecords
      obtain ⟨⟨-, -, -, -, hfresh, -⟩, -⟩ := hmirrored.stepped.kernel hpayload
      exact absurd hother (not_hasOther_of_fresh (hfresh work hwork))
  all_goals exact unchanged_of_creation (by simp [KernelCommand.creation]) hother hkeeps

omit [Sha256] in
/-- The command that records an overwriting event is a creation of other content under a taken
identifier. -/
theorem creation_of_records {k : Kernel} {streamId : String} {payload : KernelPayload}
    (hrecords : c.Records k streamId payload) (hover : Overwrites k streamId payload) :
    c.PresentsOther k ∧ c.creation k clock ≠ none := by
  cases payload <;> simp only [Overwrites] at hover
  case workItemCreated work =>
    rcases hrecords.createWorkItem with ⟨actorId, key, rfl⟩ | hfresh
    · exact ⟨hover, by simp [KernelCommand.creation]⟩
    · exact absurd hover (not_hasOther_of_fresh hfresh)
  case effectPlanned =>
    obtain ⟨actorId, key, rfl⟩ := hrecords.planEffect
    exact ⟨hover, by simp [KernelCommand.creation]⟩
  case capabilityGranted =>
    obtain ⟨actorId, key, rfl⟩ := hrecords.grantCapability
    exact ⟨hover, by simp [KernelCommand.creation]⟩
  case budgetReserved =>
    obtain ⟨actorId, key, rfl⟩ := hrecords.reserveBudget
    exact ⟨hover, by simp [KernelCommand.creation]⟩
  case s3StarFindingRecorded =>
    obtain ⟨actorId, key, rfl⟩ := hrecords.recordS3StarFinding
    exact ⟨hover, by simp [KernelCommand.creation]⟩
  case routeSnapshotRegistered =>
    obtain ⟨actorId, key, rfl⟩ := hrecords.registerRouteSnapshot
    exact ⟨hover, by simp [KernelCommand.creation]⟩

/-- The law of content in a run: every record of an earlier Kernel is in the last one with the
content it had, and a command that presents a taken identifier with other content changes
nothing. -/
structure ContentLaw (dataSpace : DataSpace) (inputs : List (ServiceCommand × Clock)) : Prop where
  retained : ∀ earlier later, inputs = earlier ++ later →
    (runCommands (.new dataSpace) earlier).kernel.RetainsContent
      (runCommands (.new dataSpace) inputs).kernel
  refused : ∀ first c clock rest, inputs = first ++ (.kernel c, clock) :: rest →
    c.PresentsOther (runCommands (.new dataSpace) first).kernel →
      runCommands (.new dataSpace) (first ++ [(.kernel c, clock)]) =
        runCommands (.new dataSpace) first

/-- **The law of content** holds in every run in which no other content under a taken identifier
is accepted. -/
theorem contentLaw_of_keepsContent (dataSpace : DataSpace)
    (inputs : List (ServiceCommand × Clock))
    (hkeeps : Run.Along ServiceCommand.step KeepsContent (.new dataSpace) inputs) :
    ContentLaw dataSpace inputs where
  retained := by
    rintro earlier later rfl
    have hs := kernelSynced_run (System.kernelSynced_new dataSpace) earlier
    have hrun : runCommands (.new dataSpace) (earlier ++ later) =
        runCommands (runCommands (.new dataSpace) earlier) later := Run.exec_append ..
    rw [hrun]
    refine (retainsContent_kept _).run ?_ hs (.refl _) (Run.along_append.mp hkeeps).2
    intro s c clock hc streamId payload hrecords hover
    obtain ⟨hother, hcreation⟩ := creation_of_records hrecords hover
    exact unchanged_of_creation hcreation hother hc
  refused := by
    rintro first c clock rest rfl hother
    obtain ⟨-, hinput, -⟩ := Run.along_append.mp hkeeps
    have hs := kernelSynced_run (System.kernelSynced_new dataSpace) first
    rw [runCommands, Run.exec_concat]
    exact unchanged_of_presentsOther hs hother hinput

/-! ### A work item created twice -/

theorem keepsContent_of_not_presentsOther {input : ServiceCommand × Clock}
    (h : ∀ c, input.1 = .kernel c → ¬ c.PresentsOther s.kernel) : KeepsContent s input := by
  rintro ⟨c, r, hc, hother, -⟩
  exact h c hc hother

/-- A work item is created at the owner's node. -/
def createdRun : List (ServiceCommand × Clock) :=
  [(.kernel (.registerNode ownerNode "owner:1" "node:1"), fun _ => 0),
    (.kernel (.createWorkItem proposedWork "owner:1" "work:1"), fun _ => 0)]

omit [Sha256] in
/-- The work item is created under a new identifier. -/
theorem contentLaw_of_createdRun :
    letI := Sha256.polynomial
    ContentLaw companySpace createdRun := by
  let := Sha256.polynomial
  refine contentLaw_of_keepsContent companySpace createdRun ⟨?_, ?_, trivial⟩
  · refine keepsContent_of_not_presentsOther fun c hc => ?_
    obtain rfl := ServiceCommand.kernel.inj hc
    exact id
  · refine keepsContent_of_not_presentsOther fun c hc => ?_
    obtain rfl := ServiceCommand.kernel.inj hc
    exact not_hasOther_of_fresh (by decide +kernel)

/-- The same work item with another acceptance criterion. -/
def amendedWork : WorkItem := { proposedWork with acceptanceCriteria := ["announced"] }

/-- The work item is created again, under a new key. -/
def recreation : ServiceCommand × Clock :=
  (.kernel (.createWorkItem amendedWork "owner:1" "work:again"), fun _ => 0)

omit [Sha256] in
private theorem recreation_state :
    letI := Sha256.polynomial
    ((runCommands (.new companySpace) createdRun).kernel.workItems.get? "work:1") =
        some proposedWork ∧
      ((runCommands (.new companySpace) (createdRun ++ [recreation])).kernel.workItems.get?
        "work:1") = some amendedWork := by
  decide +kernel

omit [Sha256] in
/-- The second creation replaces the acceptance criteria. -/
theorem recreation_breaks_contentLaw :
    letI := Sha256.polynomial
    ¬ ContentLaw companySpace (createdRun ++ [recreation]) := by
  let := Sha256.polynomial
  intro h
  obtain ⟨hbefore, hafter⟩ := recreation_state
  obtain ⟨work, hwork, hcontent⟩ :=
    (h.retained createdRun [recreation] rfl).work_items "work:1" proposedWork hbefore
  obtain rfl := Option.some.inj (hwork.symm.trans hafter)
  exact absurd hcontent (by decide)

end Nanihold
