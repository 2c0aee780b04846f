import Nanihold.Replay.Restart

/-!
# Promotions of notifications

A delivered notification says which work item it was promoted to. The ledger has one promotion
event on the notification's stream exactly if it says so, as long as no notification is delivered
that says so already: the delivery does not look at the field.

## Main definitions

* `promotions` — the work items that the promotion events of a stream name.
* `PromotionLaw` — a notification says what the ledger says.
* `DeliversUnpromoted` — the condition on a step.

## Main results

* `promotionsBacked_kept` — every event but such a delivery keeps the two in step.
* `promotionLaw_of_deliversUnpromoted` — the law holds in every run without such a delivery.
* `promoted_delivery_breaks_promotionLaw` — a notification that is delivered as promoted.
-/

namespace Nanihold

/-- The work item that a promotion event names. -/
def promotedBy (stored : StoredEvent) : Option String :=
  match stored.event.payload with
  | .kernel (.agentNotificationPromoted _ workItemId) => some workItemId
  | _ => none

/-- The work items that the promotion events on the stream of a notification name, in order. -/
def promotions (notificationId : String) (events : List StoredEvent) : List String :=
  (onStream notificationId events).filterMap promotedBy

/-- **The law of promotions**: a delivered notification says that it was promoted to a work item
exactly if one promotion event on its stream names it and it exists, and it was promoted at most
once. -/
structure PromotionLaw (s : MemorySystem) : Prop where
  promoted_iff : ∀ id notification, s.kernel.agentNotifications.get? id = some notification →
    ∀ workItemId, notification.promotedWorkItemId = some workItemId ↔
      (promotions id s.ledger.events).count workItemId = 1 ∧
        s.kernel.workItems.contains workItemId = true
  once : ∀ id notification, s.kernel.agentNotifications.get? id = some notification →
    (promotions id s.ledger.events).length ≤ 1

/-- **The invariant**: the promotion events of a stream name what its notification says, which is
a known work item. -/
structure PromotionsBacked (s : MemorySystem) : Prop where
  backed : ∀ id notification, s.kernel.agentNotifications.get? id = some notification →
    promotions id s.ledger.events = notification.promotedWorkItemId.toList
  undelivered : ∀ id, s.kernel.agentNotifications.get? id = none →
    promotions id s.ledger.events = []
  existing : ∀ id notification workItemId,
    s.kernel.agentNotifications.get? id = some notification →
    notification.promotedWorkItemId = some workItemId →
    s.kernel.workItems.contains workItemId = true

theorem promotionsBacked_new (dataSpace : DataSpace) : PromotionsBacked (.new dataSpace) where
  backed _ _ h := by cases h
  undelivered _ _ := rfl
  existing _ _ _ h := by cases h

variable {s s' : MemorySystem} {event : EventEnvelope}

theorem PromotionsBacked.law (h : PromotionsBacked s) : PromotionLaw s := by
  constructor
  · intro id notification hget workItemId
    rw [h.backed id notification hget]
    constructor
    · intro hpromoted
      rw [hpromoted, Option.toList_some, List.count_singleton_self]
      exact ⟨rfl, h.existing id notification workItemId hget hpromoted⟩
    · rintro ⟨hcount, -⟩
      have hmem : workItemId ∈ notification.promotedWorkItemId.toList :=
        List.count_pos_iff.mp (by omega)
      exact Option.mem_toList.mp hmem
  · intro id notification hget
    rw [h.backed id notification hget]
    cases notification.promotedWorkItemId <;> simp

/-! ### Events -/

theorem promotions_append (id : String) (events : List StoredEvent) (stored : StoredEvent) :
    promotions id (events ++ [stored]) = promotions id events ++
      if stored.event.streamId = id then (promotedBy stored).toList else [] := by
  rw [promotions, InMemoryOperationalLedger.onStream_append, List.filterMap_append, ← promotions]
  congr 1
  split_ifs
  · cases hpromoted : promotedBy stored <;> simp [hpromoted]
  · rfl

/-- An event that is no promotion leaves the promotions of every stream. -/
theorem promotions_of_stepped (h : s.Stepped event s')
    (hnot : ∀ notificationId workItemId,
      event.payload ≠ .kernel (.agentNotificationPromoted notificationId workItemId))
    (id : String) : promotions id s'.ledger.events = promotions id s.ledger.events := by
  have hnone : promotedBy (s.ledger.store event) = none := by
    rw [promotedBy]
    split
    · next notificationId workItemId hpayload => exact absurd hpayload (hnot _ _)
    · rfl
  rw [h.events, promotions_append, hnone, Option.toList_none, ite_self, List.append_nil]

/-- Events that leave promotions and notifications, and lose no work item, keep the invariant. -/
theorem PromotionsBacked.of_kept (h : PromotionsBacked s)
    (hpromotions : ∀ id, promotions id s'.ledger.events = promotions id s.ledger.events)
    (hnotifications : s'.kernel.agentNotifications = s.kernel.agentNotifications)
    (hwork : ∀ id, s.kernel.workItems.contains id = true →
      s'.kernel.workItems.contains id = true) : PromotionsBacked s' := by
  constructor
  · intro id notification hget
    rw [hpromotions]
    exact h.backed id notification (hnotifications ▸ hget)
  · intro id hget
    rw [hpromotions]
    exact h.undelivered id (hnotifications ▸ hget)
  · intro id notification workItemId hget hpromoted
    exact hwork workItemId (h.existing id notification workItemId (hnotifications ▸ hget) hpromoted)

/-- The delivery of a notification that was not promoted yet keeps the invariant. -/
theorem PromotionsBacked.delivered (h : PromotionsBacked s) {notification : AgentNotification}
    (hpromotions : ∀ id, promotions id s'.ledger.events = promotions id s.ledger.events)
    (hnotifications : s'.kernel.agentNotifications =
      s.kernel.agentNotifications.set notification.notificationId notification)
    (hwork : s'.kernel.workItems = s.kernel.workItems)
    (hfresh : s.kernel.agentNotifications.contains notification.notificationId = false)
    (hunpromoted : notification.promotedWorkItemId = none) : PromotionsBacked s' := by
  rw [OrderedDict.contains_eq_false_iff] at hfresh
  constructor
  · intro id known hget
    rw [hnotifications, OrderedDict.get?_set] at hget
    rw [hpromotions]
    split_ifs at hget with hid
    · obtain rfl := Option.some.inj hget
      rw [← hid, h.undelivered _ hfresh, hunpromoted, Option.toList_none]
    · exact h.backed id known hget
  · intro id hget
    rw [hnotifications, OrderedDict.get?_set] at hget
    rw [hpromotions]
    split_ifs at hget
    exact h.undelivered id hget
  · intro id known workItemId hget hpromoted
    rw [hnotifications, OrderedDict.get?_set] at hget
    rw [hwork]
    split_ifs at hget
    · obtain rfl := Option.some.inj hget
      cases hunpromoted.symm.trans hpromoted
    · exact h.existing id known workItemId hget hpromoted

/-- A promotion to a known work item keeps the invariant. -/
theorem PromotionsBacked.promoted (h : PromotionsBacked s) (hstep : s.Stepped event s')
    {notificationId workItemId : String}
    (hpayload : event.payload = .kernel (.agentNotificationPromoted notificationId workItemId))
    (hpermits : s.kernel.Permits event (.agentNotificationPromoted notificationId workItemId))
    (hnotifications : s'.kernel.agentNotifications =
      s.kernel.agentNotifications.modify event.streamId fun notification =>
        { notification with promotedWorkItemId := some workItemId })
    (hwork : s'.kernel.workItems = s.kernel.workItems) : PromotionsBacked s' := by
  obtain ⟨hknown, notification, hget, -, hunpromoted⟩ := hpermits
  have hpromotions (id : String) : promotions id s'.ledger.events =
      promotions id s.ledger.events ++ if event.streamId = id then [workItemId] else [] := by
    have hby : promotedBy (s.ledger.store event) = some workItemId := by
      rw [promotedBy]
      change (match event.payload with
        | .kernel (.agentNotificationPromoted _ workItemId) => some workItemId
        | _ => none) = _
      rw [hpayload]
    rw [hstep.events, promotions_append, hby]
    rfl
  constructor
  · intro id known hknown
    rw [hnotifications, OrderedDict.get?_modify] at hknown
    rw [hpromotions]
    split_ifs at hknown ⊢ with hid
    · rw [← hid, hget, Option.map_some] at hknown
      rw [← Option.some.inj hknown, ← hid, h.backed _ notification hget, hunpromoted]
      rfl
    · rw [List.append_nil]
      exact h.backed id known hknown
  · intro id hnone
    rw [hnotifications, OrderedDict.get?_modify] at hnone
    rw [hpromotions]
    split_ifs at hnone ⊢ with hid
    · rw [← hid, hget] at hnone
      cases hnone
    · rw [List.append_nil]
      exact h.undelivered id hnone
  · intro id known other hknown hpromoted
    rw [hnotifications, OrderedDict.get?_modify] at hknown
    rw [hwork]
    split_ifs at hknown with hid
    · obtain ⟨old, -, rfl⟩ := Option.map_eq_some_iff.mp hknown
      exact Option.some.inj hpromoted ▸ ‹s.kernel.workItems.contains workItemId = true›
    · exact h.existing id known other hknown hpromoted

/-- A notification is delivered that says it was promoted. -/
def DeliversPromoted : KernelPayload → Prop
  | .agentNotificationDelivered notification => notification.promotedWorkItemId ≠ none
  | _ => False

variable [Sha256]

/-- **Every event but such a delivery** keeps notifications and promotions in step. -/
theorem promotionsBacked_kept :
    System.KeptExcept (fun _ _ payload => DeliversPromoted payload) PromotionsBacked where
  mirrored := by
    intro s event s' hs h hmirrored hnot
    have hstep := hmirrored.stepped
    rcases hstep.kernel_cases hs.toKernelSynced with
      ⟨payload, hpayload, hpermits, hchanges⟩ | ⟨hother, activation, auth, hkernel⟩
    · have hnotifications := hchanges.agent_notifications
      have hwork := hchanges.work_items
      have hknown (id : String) (hid : s.kernel.workItems.contains id = true) :
          s'.kernel.workItems.contains id = true := by
        rw [hwork]
        exact Kernel.contains_workItemsAfter hid
      have hpromotions := promotions_of_stepped hstep
      rw [hpayload] at hpromotions
      have hnotdefect := hnot payload hpayload
      cases payload <;>
        simp only [Kernel.agentNotificationsAfter, Kernel.workItemsAfter] at hnotifications hwork
      case agentNotificationDelivered notification =>
        exact h.delivered (hpromotions (by simp)) hnotifications hwork hpermits.2.2
          (not_not.mp hnotdefect)
      case agentNotificationPromoted notificationId workItemId =>
        exact h.promoted hstep hpayload hpermits hnotifications hwork
      all_goals exact h.of_kept (hpromotions (by simp)) hnotifications hknown
    · refine h.of_kept (promotions_of_stepped hstep fun _ _ => hother _) ?_ ?_
      · rw [hkernel]
      · rw [hkernel]
        exact fun _ hid => hid
  stored _ h := { h with }
  restarted h := { h with }
  created _ _ h := h
  promoted _ _ _ h := h

/-! ### Runs -/

/-- The step delivers this notification, passes its checks and its event is accepted. -/
def AcceptsNotification (s : MemorySystem) (input : ProcessCommand × Clock)
    (notification : AgentNotification) : Prop :=
  ∃ actorId key r,
    input.1 = .service (.kernel (.recordAgentNotification notification actorId key)) ∧
      s.kernel.recordAgentNotification notification actorId key input.2 = .ok r ∧ r.Accepted s

/-- **The condition on a step**: a notification that it delivers does not say that it was
promoted. -/
def DeliversUnpromoted (s : MemorySystem) (input : ProcessCommand × Clock) : Prop :=
  ∀ notification, AcceptsNotification s input notification →
    notification.promotedWorkItemId = none

/-- **The law of promotions** holds in every run, with restarts anywhere in it, that delivers
notifications before they are promoted. -/
theorem promotionLaw_of_deliversUnpromoted (dataSpace : DataSpace)
    (inputs : List (ProcessCommand × Clock))
    (hc : Run.Along ProcessCommand.step DeliversUnpromoted (.new dataSpace) inputs) :
    PromotionLaw (runProcesses (.new dataSpace) inputs) := by
  refine (promotionsBacked_kept.run ?_ dataSpace (promotionsBacked_new dataSpace) hc).law
  intro s c clock hc streamId payload hrecords hdefect
  cases payload <;> simp only [DeliversPromoted] at hdefect
  case agentNotificationDelivered notification =>
    obtain ⟨actorId, key, rfl⟩ := hrecords.recordAgentNotification
    rw [KernelCommand.run]
    exact finalState_performKernel_of_not_accepted fun r hr haccepted =>
      hdefect (hc notification ⟨actorId, key, r, rfl, hr, haccepted⟩)

/-! ### A notification that comes as promoted -/

/-- A message from a channel that asks for a work item. -/
def companyNotification : AgentNotification where
  notificationId := "notification:1"
  dataSpaceId := "space:company-1"
  sourceKind := .channelInbound
  sourcePlatform := .slack
  sourceInstanceId := "slack:1"
  sourceChannel := "general"
  sourceMessageId := "message:1"
  sourceObservationSubject := some "subject:1"
  senderActorId := "person:1"
  senderAgentName := none
  recipientAgentName := "Aki"
  body := "Please ship the release."
  resolutionKind := .explicitMention
  requiresWorkItem := true
  relatedWorkItemId := none
  relatedExecutionId := none
  promotedWorkItemId := none

/-- The message is delivered and promoted, and the process restarts. -/
def promotedRun : List (ProcessCommand × Clock) :=
  [(.service (.kernel (.registerNode ownerNode "owner:1" "node:1")), fun _ => 0),
    (.service (.kernel (.recordAgentNotification companyNotification "owner:1" "notify:1")),
      fun _ => 1),
    (.service (.kernel (.promoteAgentNotification "notification:1" proposedWork "owner:1"
      "promote:1")), fun _ => 2),
    (.restart 500, fun _ => 3)]

omit [Sha256] in
/-- The notification says that it was promoted to the work item. -/
theorem promotionLaw_of_promotedRun :
    letI := Sha256.polynomial
    PromotionLaw (runProcesses (.new companySpace) promotedRun) ∧
      ((runProcesses (.new companySpace) promotedRun).kernel.agentNotifications.get?
        "notification:1").map (·.promotedWorkItemId) = some (some "work:1") := by
  let := Sha256.polynomial
  refine ⟨promotionLaw_of_deliversUnpromoted companySpace promotedRun ?_, by decide +kernel⟩
  refine Run.along_of_forall fun input hinput s notification => ?_
  rintro ⟨actorId, key, r, heq, -⟩
  simp only [promotedRun, List.mem_cons, List.not_mem_nil, or_false] at hinput
  rcases hinput with rfl | rfl | rfl | rfl <;>
    simp only [ProcessCommand.service.injEq, ServiceCommand.kernel.injEq, reduceCtorEq,
      KernelCommand.recordAgentNotification.injEq] at heq
  rw [← heq.1]
  rfl

/-- The message is delivered with a claim that it was promoted. -/
def claimedRun : List (ProcessCommand × Clock) :=
  [(.service (.kernel (.recordAgentNotification
    { companyNotification with promotedWorkItemId := some "work:1" } "owner:1" "notify:1")),
      fun _ => 0)]

omit [Sha256] in
/-- **The law fails**: the notification says that it was promoted, and no event says so. -/
theorem promoted_delivery_breaks_promotionLaw :
    letI := Sha256.polynomial
    ¬ PromotionLaw (runProcesses (.new companySpace) claimedRun) := by
  let := Sha256.polynomial
  intro hlaw
  have hget : (runProcesses (.new companySpace) claimedRun).kernel.agentNotifications.get?
      "notification:1" =
        some { companyNotification with promotedWorkItemId := some "work:1" } := by
    decide +kernel
  have hnone : promotions "notification:1" (runProcesses (.new companySpace)
      claimedRun).ledger.events = [] := by
    decide +kernel
  generalize runProcesses (.new companySpace) claimedRun = s at hlaw hget hnone
  obtain ⟨hcount, -⟩ := (hlaw.promoted_iff _ _ hget "work:1").mp rfl
  rw [hnone] at hcount
  cases hcount

end Nanihold
