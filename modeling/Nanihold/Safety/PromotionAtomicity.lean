import Nanihold.Safety.Acceptance
import Nanihold.Safety.Promotions

/-!
# Promotions as a whole

A promotion writes two events on two streams: the work item under a key made from the caller's,
and then the link from the notification under the caller's key itself. The first is stored before
the ledger sees the second. So a promotion is all or nothing exactly if its link can be recorded
whenever its work item is.

## Main definitions

* `PromotionAtomic` — the promotion writes both events, or raises and changes nothing.
* `CreationAccepted` — the first event is accepted.
* `LinkRecordable` — the second one would be, as far as the state before the call shows.

## Main results

* `promotionAtomic_iff` — the exact condition, in every state that processes reach.
* `used_key_breaks_promotionAtomic` — a promotion under the key of the delivery.
-/

namespace Nanihold

variable [Sha256] {s mid : MemorySystem} {clock : Clock}

/-- **A promotion as a whole**: when it returns, the work item exists and the notification names
it; when it raises, the system is as it was. -/
def PromotionAtomic (notificationId : String) (workItem : WorkItem) (actorId key : String)
    (clock : Clock) (s : MemorySystem) : Prop :=
  EStateM.Triple (· = s)
    ((KernelCommand.promoteAgentNotification notificationId workItem actorId key).run clock)
    (fun _ s' => s'.kernel.workItems.get? workItem.workItemId = some workItem ∧
      ∃ notification, s'.kernel.agentNotifications.get? notificationId = some notification ∧
        notification.promotedWorkItemId = some workItem.workItemId)
    (fun _ s' => s' = s)

/-- The promotion passes its checks and those of the creation, and the ledger accepts the event of
the creation. -/
def CreationAccepted (notificationId : String) (workItem : WorkItem) (actorId key : String)
    (clock : Clock) (s : MemorySystem) : Prop :=
  ∃ notification r, s.kernel.requirePromotable notificationId workItem = .ok notification ∧
    s.kernel.createWorkItem workItem actorId s!"{key}:work-item" clock = .ok r ∧ r.Accepted s

/-- **The condition on the link**: its key and its stream are well formed, no event stored and not
that of the creation has its key or its identity, and the Kernel knows where the stream of the
notification stands. -/
structure LinkRecordable (notificationId workItemId key : String) (s : MemorySystem) : Prop where
  key_nonblank : isNonBlank key = true
  identifier : isIdentifier notificationId = true
  fresh_key : s.ledger.idempotency.get? key = none
  fresh_id : s.ledger.eventIds.get?
    (deterministicEventId s.kernel.dataSpace.dataSpaceId notificationId key) = none
  told_apart : deterministicEventId s.kernel.dataSpace.dataSpaceId workItemId
    s!"{key}:work-item" ≠ deterministicEventId s.kernel.dataSpace.dataSpaceId notificationId key
  version : s.kernel.versions.getD notificationId 0 = s.ledger.streamLength notificationId

/-! ### The two events of a promotion -/

omit [Sha256] in
/-- The key of the creation is longer than the caller's. -/
private theorem creationKey_ne (key : String) : s!"{key}:work-item" ≠ key := by
  intro h
  have hlength : (key ++ ":work-item").length = key.length := congrArg String.length h
  rw [String.length_append] at hlength
  change key.length + 10 = key.length at hlength
  omega

omit [Sha256] in
/-- A promotion that passes its checks plans the creation and the link. -/
private theorem planPromotion_eq_ok {k : Kernel} {notificationId : String} {workItem : WorkItem}
    {actorId key : String} {recordings : List (Recording Kernel)}
    (h : k.planPromotion notificationId workItem actorId key clock = .ok recordings) :
    ∃ notification creation, k.requirePromotable notificationId workItem = .ok notification ∧
      k.createWorkItem workItem actorId s!"{key}:work-item" clock = .ok creation ∧
      recordings = [creation, Kernel.promotionRecording notificationId notification
        workItem.workItemId actorId key clock] := by
  obtain ⟨notification, hpromotable, h⟩ := Checked.bind_eq_ok_iff.mp h
  obtain ⟨creation, hcreation, h⟩ := Checked.bind_eq_ok_iff.mp h
  exact ⟨notification, creation, hpromotable, hcreation, (Checked.pure_eq_ok_iff.mp h).symm⟩

omit [Sha256] in
private theorem planPromotion_of_ok {k : Kernel} {notificationId : String} {workItem : WorkItem}
    {actorId key : String} {notification : AgentNotification} {creation : Recording Kernel}
    (hpromotable : k.requirePromotable notificationId workItem = .ok notification)
    (hcreation : k.createWorkItem workItem actorId s!"{key}:work-item" clock = .ok creation) :
    k.planPromotion notificationId workItem actorId key clock =
      .ok [creation, Kernel.promotionRecording notificationId notification workItem.workItemId
        actorId key clock] := by
  rw [Kernel.planPromotion, hpromotable]
  change (k.createWorkItem workItem actorId _ clock >>= _) = _
  rw [hcreation]
  rfl

section Promotion

variable {notificationId actorId key : String} {workItem : WorkItem}

/-- A promotion whose creation is not accepted raises and changes nothing. -/
theorem promotion_of_not_created
    (h : ¬ CreationAccepted notificationId workItem actorId key clock s) :
    ∃ e, (KernelCommand.promoteAgentNotification notificationId workItem actorId key).run clock s =
      .error e s := by
  rw [KernelCommand.run_eq_plan]
  change ∃ e, (EStateM.ofExcept (s.kernel.planPromotion notificationId workItem actorId key clock)
    >>= recordEach) s = .error e s
  cases hplan : s.kernel.planPromotion notificationId workItem actorId key clock with
  | error e => exact ⟨e, rfl⟩
  | ok recordings =>
    obtain ⟨notification, creation, hpromotable, hcreation, rfl⟩ := planPromotion_eq_ok hplan
    obtain ⟨e, herror⟩ := record_of_not_accepted (r := creation) fun haccepted =>
      h ⟨notification, creation, hpromotable, hcreation, haccepted⟩
    refine ⟨e, ?_⟩
    rw [EStateM.run_ofExcept_ok_bind]
    exact EStateM.run_bind_of_error herror

/-- The link as the state after the creation sees it: accepted exactly if it was recordable before
the call. -/
private theorem link_accepted_iff (hs : s.KernelSynced) (hmid : mid.KernelSynced)
    {notification : AgentNotification} {creation : Recording Kernel}
    (hid : notification.notificationId = notificationId)
    (hstreams : notificationId ≠ creation.streamId)
    (hcreation : s.kernel.createWorkItem workItem actorId s!"{key}:work-item" clock = .ok creation)
    (haccepted : creation.Accepted s) (hleaves : creation.Leaves s mid) :
    (Kernel.promotionRecording notificationId notification workItem.workItemId actorId key
        clock).Accepted mid ↔ LinkRecordable notificationId workItem.workItemId key s := by
  obtain rfl := hid
  obtain ⟨event, -, henvelope, -⟩ := haccepted
  have hvalid := Recording.valid_of_envelope henvelope
  simp only [Kernel.createWorkItem, Checked.check_bind_eq_ok_iff, Checked.forM_bind_eq_ok_iff]
    at hcreation
  obtain ⟨-, -, -, -, hcreation⟩ := hcreation
  obtain ⟨_, -, hcreation⟩ := Checked.bind_eq_ok_iff.mp hcreation
  obtain rfl := Checked.pure_eq_ok_iff.mp hcreation
  have hstream : (Kernel.promotionRecording notification.notificationId notification
      workItem.workItemId actorId key clock).streamId = notification.notificationId := rfl
  rw [Recording.accepted_iff hmid rfl, hleaves.isNew_iff hstreams,
    Recording.isNew_iff hs.data_space, hstream, hleaves.versions _ hstreams,
    hleaves.streamLength hstreams]
  constructor
  · rintro ⟨⟨⟨-, htold⟩, hlink, hkey, hid⟩, hversion⟩
    exact ⟨hlink.key, hlink.stream, hkey, hid, htold, hversion⟩
  · rintro ⟨hkey, hstream, hfresh, hid, htold, hversion⟩
    exact ⟨⟨⟨creationKey_ne key, htold⟩,
      ⟨rfl, hvalid.data_space, hstream, hvalid.actor, hvalid.stream, hstream, hkey⟩, hfresh, hid⟩,
      hversion⟩

/-- **A promotion whose creation is accepted** is all or nothing exactly if its link is
recordable. -/
theorem promotionAtomic_of_created (hs : s.KernelSynced)
    (h : CreationAccepted notificationId workItem actorId key clock s) :
    PromotionAtomic notificationId workItem actorId key clock s ↔
      LinkRecordable notificationId workItem.workItemId key s := by
  obtain ⟨notification, creation, hpromotable, hcreation, haccepted⟩ := h
  have hplan := planPromotion_of_ok hpromotable hcreation
  obtain ⟨q, r, hpair, hstreams, hleave⟩ := pair_of_planPromotion hplan
  obtain ⟨rfl, hrest⟩ := List.cons.inj hpair
  obtain ⟨rfl, -⟩ := List.cons.inj hrest
  obtain ⟨answer, mid, hfirst, hleaves⟩ := hleave s haccepted
  simp only [Kernel.requirePromotable, Checked.orRaise_bind_eq_ok_iff,
    Checked.check_bind_eq_ok_iff, Checked.pure_eq_ok_iff] at hpromotable
  obtain ⟨known, hknown, hrequires, hunpromoted, -, -, hfresh, rfl⟩ := hpromotable
  have hid := hs.consistent.notification_keyed _ _ hknown
  rcases record_kernel hs (Kernel.replayable_createWorkItem hcreation) with
    ⟨e, herror⟩ | ⟨created, _, _, -, hcreated, hmirrored, hok⟩
  · cases hfirst.symm.trans herror
  obtain ⟨rfl, rfl⟩ := EStateM.Result.ok.inj (hfirst.symm.trans hok)
  have hmid := System.kernelSynced_of_stepped hs hmirrored.stepped
  have hchanges := Kernel.changes_of_applyKernel hs.consistent
    (hmirrored.stepped.kernel hcreated).2
  rw [← link_accepted_iff hs hmid hid (hid ▸ hstreams) hcreation haccepted hleaves]
  have hrun : (KernelCommand.promoteAgentNotification notificationId workItem actorId key).run clock
      s = (record (Kernel.promotionRecording notificationId known workItem.workItemId actorId key
        clock) >>= fun _ => pure () : SystemM InMemoryOperationalLedger Unit) mid := by
    rw [KernelCommand.run_eq_plan]
    change (EStateM.ofExcept (s.kernel.planPromotion notificationId workItem actorId key clock)
      >>= recordEach) s = _
    rw [hplan, EStateM.run_ofExcept_ok_bind]
    change (record creation >>= fun _ => recordEach [_]) s = _
    rw [EStateM.run_bind_of_ok hfirst, recordEach_singleton]
  have hlink : mid.kernel.Replayable known.notificationId
      (.agentNotificationPromoted notificationId workItem.workItemId)
      (Kernel.promotionRecording notificationId known workItem.workItemId actorId key clock) := by
    refine Kernel.replayable_promotionRecording hmid.consistent ?_ ?_ hrequires hunpromoted
    · rw [hchanges.agent_notifications]
      exact hknown
    · rw [hchanges.work_items, Kernel.workItemsAfter, OrderedDict.contains_set]
      simp
  constructor
  · -- A raise after the creation leaves its event in the ledger.
    intro hatomic
    by_contra hrefused
    obtain ⟨e, herror⟩ := record_of_not_accepted hrefused
    have hsame := hatomic s rfl
    rw [hrun, EStateM.run_bind_of_error herror] at hsame
    have hlength := congrArg (fun t : MemorySystem => t.ledger.events.length) hsame
    simp only [hmirrored.stepped.events, List.length_append, List.length_singleton] at hlength
    omega
  · rintro hlinked _ rfl
    rcases record_kernel hmid hlink with
      ⟨e, herror⟩ | ⟨linked, _, s', hstream, hpayload, hsecond, hok'⟩
    · rw [Kernel.promotionRecording] at hlinked herror
      obtain ⟨_, _, hreturned, -⟩ :=
        leaves_of_accepted (by exact fun _ _ => rfl) (by exact fun _ _ => rfl) hlinked
      cases hreturned.symm.trans herror
    have hafter := Kernel.changes_of_applyKernel hmid.consistent
      (hsecond.stepped.kernel hpayload).2
    have hkept : s'.kernel.workItems = mid.kernel.workItems := hafter.work_items
    have hdelivered : mid.kernel.agentNotifications.get? notificationId = some known := by
      rw [hchanges.agent_notifications]
      exact hknown
    rw [hrun, EStateM.run_bind_of_ok hok']
    constructor
    · rw [hkept, hchanges.work_items, Kernel.workItemsAfter, OrderedDict.get?_set, if_pos rfl]
    · refine ⟨{ known with promotedWorkItemId := some workItem.workItemId }, ?_, rfl⟩
      rw [hafter.agent_notifications, Kernel.agentNotificationsAfter, OrderedDict.get?_modify,
        hstream, if_pos hid, hdelivered]
      rfl

end Promotion

/-- **The exact condition**, in every state that processes reach: a promotion is all or nothing
exactly if its link is recordable whenever its creation is accepted. -/
theorem promotionAtomic_iff (dataSpace : DataSpace) (inputs : List (ProcessCommand × Clock))
    (notificationId : String) (workItem : WorkItem) (actorId key : String) (clock : Clock) :
    PromotionAtomic notificationId workItem actorId key clock
        (runProcesses (.new dataSpace) inputs) ↔
      (CreationAccepted notificationId workItem actorId key clock
          (runProcesses (.new dataSpace) inputs) →
        LinkRecordable notificationId workItem.workItemId key
          (runProcesses (.new dataSpace) inputs)) := by
  have hs := (syncedIn_runProcesses dataSpace inputs).1.toKernelSynced
  generalize runProcesses (.new dataSpace) inputs = s at hs
  by_cases hcreated : CreationAccepted notificationId workItem actorId key clock s
  · rw [promotionAtomic_of_created hs hcreated]
    exact ⟨fun h _ => h, fun h => h hcreated⟩
  · refine iff_of_true ?_ fun h => absurd h hcreated
    obtain ⟨e, herror⟩ := promotion_of_not_created hcreated
    rintro _ rfl
    rw [herror]

/-! ### A key that the delivery used -/

/-- The message is delivered. -/
def deliveredRun : List (ProcessCommand × Clock) :=
  [(.service (.kernel (.registerNode ownerNode "owner:1" "node:1")), fun _ => 0),
    (.service (.kernel (.recordAgentNotification companyNotification "owner:1" "notify:1")),
      fun _ => 1)]

/-- The message is promoted under the key of its delivery. -/
def repeatedKey : KernelCommand :=
  .promoteAgentNotification "notification:1" proposedWork "owner:1" "notify:1"

omit [Sha256] in
/-- **Half a promotion**: the work item is created, and then the key of the link turns out to be
used. -/
theorem used_key_breaks_promotionAtomic :
    letI := Sha256.polynomial
    ¬ PromotionAtomic "notification:1" proposedWork "owner:1" "notify:1" (fun _ => 2)
      (runProcesses (.new companySpace) deliveredRun) := by
  let := Sha256.polynomial
  intro hatomic
  have hraises : (repeatedKey.run fun _ => 2).returns
      (runProcesses (.new companySpace) deliveredRun) = false := by
    decide +kernel
  have hbefore : (runProcesses (.new companySpace) deliveredRun).ledger.events.length = 2 := by
    decide +kernel
  have hafter : ((repeatedKey.run fun _ => 2).finalState
      (runProcesses (.new companySpace) deliveredRun)).ledger.events.length = 3 := by
    decide +kernel
  generalize runProcesses (.new companySpace) deliveredRun = s at hatomic hraises hbefore hafter
  obtain ⟨e, herror⟩ := EStateM.exists_error_of_not_returns hraises
  have hsame : (repeatedKey.run fun _ => 2).finalState s = s := by
    have hraised := hatomic s rfl
    rw [repeatedKey] at herror
    rw [herror] at hraised
    exact hraised
  rw [hsame, hbefore] at hafter
  cases hafter

end Nanihold
