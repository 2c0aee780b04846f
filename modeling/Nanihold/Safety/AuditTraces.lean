import Nanihold.AuditTrace
import Nanihold.Safety.Promotions

/-!
# Traces of replayed notifications

The projection accepts a delivery in either shape, on any stream, more than once, and of a
notification that says it was promoted. The trace reads the events on the notification's stream
again and asks for one nested delivery. So a notification of a rebuilt Kernel has a trace exactly
if it was delivered so; its other checks never fail.

## Main definitions

* `DeliveredOnce` — how the events of a stream must have delivered a notification.
* `NotificationsReplayed` — what a rebuilt Kernel's notifications say of the events.

## Main results

* `notificationsReplayed_of_replay` — the invariant of every rebuild.
* `traceLaw_iff_deliveredOnce` — the notifications that have a trace.
* `legacy_delivery_breaks_traceLaw` — a delivery in the legacy shape has none.
-/

namespace Nanihold

/-- **The condition on the events of a stream**: they deliver the notification once, in the nested
shape and before its promotion, and promote it at most once, to a work item with an identifier. -/
structure DeliveredOnce (isFlat : StoredEvent → Bool) (notificationId : String)
    (events : List StoredEvent) : Prop where
  nested : ∀ stored ∈ events, stored.isDelivery = true → isFlat stored = false
  once : ∃ delivery, events.filterMap (deliveryOf notificationId) = [delivery] ∧
    delivery.2.promotedWorkItemId = none
  promoted : (events.filterMap (promotionOf notificationId)).length ≤ 1
  named : ∀ promotion ∈ events.filterMap (promotionOf notificationId), promotion.2 ≠ ""

/-- The deliveries of a notification, on whatever stream. -/
def deliveries (notificationId : String) (events : List StoredEvent) : List AgentNotification :=
  (events.filterMap (deliveryOf notificationId)).map Prod.snd

/-- **The invariant of a rebuild**: all deliveries of a notification are alike but for its
promotion, and its promotions are what it says. -/
structure NotificationsReplayed (events : List StoredEvent) (k : Kernel) : Prop where
  absent : ∀ id, k.agentNotifications.get? id = none →
    deliveries id events = [] ∧ promotions id events = []
  delivered : ∀ id notification, k.agentNotifications.get? id = some notification →
    ∀ delivered ∈ deliveries id events, delivered.unpromoted = notification.unpromoted
  unpromoted : ∀ id notification, k.agentNotifications.get? id = some notification →
    promotions id events = [] → ∀ delivered ∈ deliveries id events, delivered = notification
  promoted : ∀ id notification, k.agentNotifications.get? id = some notification →
    ∀ workItemId ∈ promotions id events,
      notification.promotedWorkItemId = some workItemId ∧ k.workItems.contains workItemId = true

variable {k next : Kernel} {events : List StoredEvent} {stored : StoredEvent}

/-! ### One event -/

theorem deliveries_append (id : String) (events : List StoredEvent) (stored : StoredEvent) :
    deliveries id (events ++ [stored]) =
      deliveries id events ++ ((deliveryOf id stored).map Prod.snd).toList := by
  rw [deliveries, List.filterMap_append, List.map_append, ← deliveries]
  congr 1
  cases hdelivery : deliveryOf id stored <;> simp [hdelivery]

/-- Events that are no promotion and no delivery keep the invariant. -/
theorem NotificationsReplayed.of_kept (h : NotificationsReplayed events k)
    (hdelivery : ∀ id, deliveryOf id stored = none) (hpromotion : promotedBy stored = none)
    (hnotifications : next.agentNotifications = k.agentNotifications)
    (hwork : ∀ id, k.workItems.contains id = true → next.workItems.contains id = true) :
    NotificationsReplayed (events ++ [stored]) next := by
  have hdeliveries (id : String) : deliveries id (events ++ [stored]) = deliveries id events := by
    rw [deliveries_append, hdelivery, Option.map_none, Option.toList_none, List.append_nil]
  have hpromotions (id : String) : promotions id (events ++ [stored]) = promotions id events := by
    rw [promotions_append, hpromotion, Option.toList_none, ite_self, List.append_nil]
  constructor <;> simp only [hdeliveries, hpromotions, hnotifications]
  · exact h.absent
  · exact h.delivered
  · exact h.unpromoted
  · intro id notification hget workItemId hmem
    obtain ⟨hnamed, hknown⟩ := h.promoted id notification hget workItemId hmem
    exact ⟨hnamed, hwork workItemId hknown⟩

/-- A delivery of a notification that is new or already known keeps the invariant. -/
theorem NotificationsReplayed.redelivered (h : NotificationsReplayed events k)
    {notification : AgentNotification}
    (hpayload : stored.event.payload = .kernel (.agentNotificationDelivered notification))
    (hsame : ∀ known ∈ k.agentNotifications.get? notification.notificationId, known = notification)
    (hnotifications : next.agentNotifications =
      k.agentNotifications.set notification.notificationId notification)
    (hwork : ∀ id, k.workItems.contains id = true → next.workItems.contains id = true) :
    NotificationsReplayed (events ++ [stored]) next := by
  have hdeliveries (id : String) : deliveries id (events ++ [stored]) =
      deliveries id events ++ if notification.notificationId = id then [notification] else [] := by
    rw [deliveries_append, deliveryOf, hpayload]
    dsimp only
    split_ifs <;> rfl
  have hpromotions (id : String) : promotions id (events ++ [stored]) = promotions id events := by
    have hnone : promotedBy stored = none := by rw [promotedBy, hpayload]
    rw [promotions_append, hnone, Option.toList_none, ite_self, List.append_nil]
  -- What the Kernel holds under the identifier, if anything, is the delivered notification.
  have hknown (known : AgentNotification)
      (hget : k.agentNotifications.get? notification.notificationId = some known) :
      known = notification := hsame known hget
  constructor
  · intro id hnone
    rw [hnotifications, OrderedDict.get?_set] at hnone
    rw [hdeliveries, hpromotions]
    split_ifs at hnone ⊢ with hid
    rw [List.append_nil]
    exact h.absent id hnone
  · intro id known hget delivered hmem
    rw [hnotifications, OrderedDict.get?_set] at hget
    rw [hdeliveries] at hmem
    split_ifs at hget hmem with hid
    · obtain rfl := Option.some.inj hget
      rcases List.mem_append.mp hmem with hmem | hmem
      · cases hold : k.agentNotifications.get? id with
        | none =>
          rw [(h.absent id hold).1] at hmem
          cases hmem
        | some old => exact hknown old (hid ▸ hold) ▸ h.delivered id old hold delivered hmem
      · rw [List.mem_singleton.mp hmem]
    · rw [List.append_nil] at hmem
      exact h.delivered id known hget delivered hmem
  · intro id known hget hnone delivered hmem
    rw [hnotifications, OrderedDict.get?_set] at hget
    rw [hpromotions] at hnone
    rw [hdeliveries] at hmem
    split_ifs at hget hmem with hid
    · obtain rfl := Option.some.inj hget
      rcases List.mem_append.mp hmem with hmem | hmem
      · cases hold : k.agentNotifications.get? id with
        | none =>
          rw [(h.absent id hold).1] at hmem
          cases hmem
        | some old => exact hknown old (hid ▸ hold) ▸ h.unpromoted id old hold hnone delivered hmem
      · exact List.mem_singleton.mp hmem
    · rw [List.append_nil] at hmem
      exact h.unpromoted id known hget hnone delivered hmem
  · intro id known hget workItemId hmem
    rw [hnotifications, OrderedDict.get?_set] at hget
    rw [hpromotions] at hmem
    split_ifs at hget with hid
    · obtain rfl := Option.some.inj hget
      cases hold : k.agentNotifications.get? id with
      | none =>
        rw [(h.absent id hold).2] at hmem
        cases hmem
      | some old =>
        obtain ⟨hnamed, hexists⟩ := h.promoted id old hold workItemId hmem
        exact ⟨hknown old (hid ▸ hold) ▸ hnamed, hwork workItemId hexists⟩
    · obtain ⟨hnamed, hexists⟩ := h.promoted id known hget workItemId hmem
      exact ⟨hnamed, hwork workItemId hexists⟩

/-- A promotion of a known notification to a known work item keeps the invariant. -/
theorem NotificationsReplayed.repromoted (h : NotificationsReplayed events k)
    {promotedId workItemId : String} {notification : AgentNotification}
    (hpayload : stored.event.payload = .kernel (.agentNotificationPromoted promotedId workItemId))
    (hget : k.agentNotifications.get? stored.event.streamId = some notification)
    (hsame : ∀ known ∈ notification.promotedWorkItemId, known = workItemId)
    (hexists : k.workItems.contains workItemId = true)
    (hnotifications : next.agentNotifications = k.agentNotifications.set stored.event.streamId
      { notification with promotedWorkItemId := some workItemId })
    (hwork : ∀ id, k.workItems.contains id = true → next.workItems.contains id = true) :
    NotificationsReplayed (events ++ [stored]) next := by
  have hdeliveries (id : String) : deliveries id (events ++ [stored]) = deliveries id events := by
    have hnone : deliveryOf id stored = none := by rw [deliveryOf, hpayload]
    rw [deliveries_append, hnone, Option.map_none, Option.toList_none, List.append_nil]
  have hpromotions (id : String) : promotions id (events ++ [stored]) =
      promotions id events ++ if stored.event.streamId = id then [workItemId] else [] := by
    have hby : promotedBy stored = some workItemId := by rw [promotedBy, hpayload]
    rw [promotions_append, hby, Option.toList_some]
  constructor
  · intro id hnone
    rw [hnotifications, OrderedDict.get?_set] at hnone
    rw [hdeliveries, hpromotions]
    split_ifs at hnone ⊢ with hid
    rw [List.append_nil]
    exact h.absent id hnone
  · intro id known hknown delivered hmem
    rw [hnotifications, OrderedDict.get?_set] at hknown
    rw [hdeliveries] at hmem
    split_ifs at hknown with hid
    · obtain rfl := Option.some.inj hknown
      exact h.delivered id notification (hid ▸ hget) delivered hmem
    · exact h.delivered id known hknown delivered hmem
  · intro id known hknown hnone delivered hmem
    rw [hnotifications, OrderedDict.get?_set] at hknown
    rw [hpromotions] at hnone
    rw [hdeliveries] at hmem
    split_ifs at hknown hnone with hid
    · cases (List.append_eq_nil_iff.mp hnone).2
    · rw [List.append_nil] at hnone
      exact h.unpromoted id known hknown hnone delivered hmem
  · intro id known hknown named hmem
    rw [hnotifications, OrderedDict.get?_set] at hknown
    rw [hpromotions] at hmem
    split_ifs at hknown hmem with hid
    · obtain rfl := Option.some.inj hknown
      rcases List.mem_append.mp hmem with hmem | hmem
      · obtain ⟨hnamed, -⟩ := h.promoted id notification (hid ▸ hget) named hmem
        exact ⟨congrArg some (hsame named hnamed).symm, hwork _ (hsame named hnamed ▸ hexists)⟩
      · rw [List.mem_singleton.mp hmem]
        exact ⟨rfl, hwork workItemId hexists⟩
    · rw [List.append_nil] at hmem
      obtain ⟨hnamed, hknownWork⟩ := h.promoted id known hknown named hmem
      exact ⟨hnamed, hwork named hknownWork⟩

/-- A replayed delivery found nothing else under its identifier. -/
private theorem same_of_delivered {event : EventEnvelope} {notification : AgentNotification}
    (h : applyKernel event (.agentNotificationDelivered notification) k = .ok next) :
    ∀ known ∈ k.agentNotifications.get? notification.notificationId, known = notification := by
  obtain ⟨mid, hmid, -⟩ := Checked.bind_eq_ok_iff.mp h
  obtain ⟨-, -, hmid⟩ := Checked.bind_eq_ok_iff.mp hmid
  exact (Checked.check_bind_eq_ok_iff.mp hmid).1

/-- A replayed promotion found its notification and its work item. -/
private theorem found_of_promoted {event : EventEnvelope} {promotedId workItemId : String}
    (h : applyKernel event (.agentNotificationPromoted promotedId workItemId) k = .ok next) :
    ∃ notification, k.agentNotifications.get? event.streamId = some notification ∧
      k.workItems.contains workItemId = true ∧
      (∀ known ∈ notification.promotedWorkItemId, known = workItemId) ∧
      next.agentNotifications = k.agentNotifications.set event.streamId
        { notification with promotedWorkItemId := some workItemId } := by
  obtain ⟨mid, hmid, hnext⟩ := Checked.bind_eq_ok_iff.mp h
  obtain rfl := Checked.pure_eq_ok_iff.mp hnext
  obtain ⟨notification, hget, hmid⟩ := Checked.orRaise_bind_eq_ok_iff.mp hmid
  obtain ⟨hexists, hmid⟩ := Checked.check_bind_eq_ok_iff.mp hmid
  obtain ⟨-, hmid⟩ := Checked.check_bind_eq_ok_iff.mp hmid
  obtain ⟨hsame, hmid⟩ := Checked.check_bind_eq_ok_iff.mp hmid
  obtain rfl := Checked.pure_eq_ok_iff.mp hmid
  exact ⟨notification, hget, hexists, hsame, rfl⟩

/-- **One replayed event** keeps the invariant. -/
theorem NotificationsReplayed.applied (h : NotificationsReplayed events k)
    (happlied : k.applyStored stored = .ok next) :
    NotificationsReplayed (events ++ [stored]) next := by
  rw [Kernel.applyStored] at happlied
  cases hpayload : stored.event.payload with
  | kernel payload =>
    rw [hpayload] at happlied
    have hnotifications := Kernel.agentNotifications_of_applyKernel happlied
    have hwork (id : String) (hid : k.workItems.contains id = true) :
        next.workItems.contains id = true := Kernel.workItems_of_applyKernel happlied hid
    cases payload <;> simp only [Kernel.agentNotificationsAfter] at hnotifications
    case agentNotificationDelivered notification =>
      exact h.redelivered hpayload (same_of_delivered happlied) hnotifications hwork
    case agentNotificationPromoted promotedId workItemId =>
      obtain ⟨notification, hget, hexists, hsame, hset⟩ := found_of_promoted happlied
      exact h.repromoted hpayload hget hsame hexists hset hwork
    all_goals
      exact h.of_kept (fun id => by rw [deliveryOf, hpayload]) (by rw [promotedBy, hpayload])
        hnotifications hwork
  | activation payload =>
    rw [hpayload] at happlied
    obtain ⟨activation, -, hnext⟩ := Checked.bind_eq_ok_iff.mp happlied
    obtain rfl := Checked.pure_eq_ok_iff.mp hnext
    exact h.of_kept (fun id => by rw [deliveryOf, hpayload]) (by rw [promotedBy, hpayload]) rfl
      fun _ hid => hid
  | ownerAuth payload =>
    rw [hpayload] at happlied
    obtain ⟨auth, -, hnext⟩ := Checked.bind_eq_ok_iff.mp happlied
    obtain rfl := Checked.pure_eq_ok_iff.mp hnext
    exact h.of_kept (fun id => by rw [deliveryOf, hpayload]) (by rw [promotedBy, hpayload]) rfl
      fun _ hid => hid
  | interface | tokenLab | routing | environment | external =>
    rw [hpayload] at happlied
    obtain rfl := Except.ok.inj happlied
    exact h.of_kept (fun id => by rw [deliveryOf, hpayload]) (by rw [promotedBy, hpayload]) rfl
      fun _ hid => hid

theorem notificationsReplayed_new (dataSpace : DataSpace) :
    NotificationsReplayed [] (.new dataSpace) where
  absent _ _ := ⟨rfl, rfl⟩
  delivered _ _ h := by cases h
  unpromoted _ _ h := by cases h
  promoted _ _ h := by cases h

/-- **The invariant of every rebuild.** -/
theorem notificationsReplayed_of_replay {dataSpace : DataSpace}
    (h : EventSourcing.replay Kernel.applyStored (.new dataSpace) events = .ok k) :
    NotificationsReplayed events k :=
  EventSourcing.replay_invariant Kernel.applyStored (I := NotificationsReplayed)
    (fun _ _ _ _ hreached happlied => hreached.applied happlied)
    (notificationsReplayed_new dataSpace) h

/-! ### The trace -/

theorem mem_promotions_iff {id workItemId : String} :
    workItemId ∈ promotions id events ↔
      ∃ promotion ∈ (onStream id events).filterMap (promotionOf id), promotion.2 = workItemId := by
  have hsame (stored : StoredEvent) (hstream : stored.event.streamId = id) :
      (promotionOf id stored).map Prod.snd = promotedBy stored := by
    unfold promotionOf promotedBy
    cases hpayload : stored.event.payload with
    | kernel payload => cases payload <;> simp [hstream]
    | activation | ownerAuth | interface | tokenLab | routing | environment | external => rfl
  rw [promotions]
  simp only [List.mem_filterMap]
  constructor
  · rintro ⟨stored, hmem, hby⟩
    have hstream : stored.event.streamId = id :=
      decide_eq_true_eq.mp (List.mem_filter.mp hmem).2
    rw [← hsame stored hstream, Option.map_eq_some_iff] at hby
    obtain ⟨promotion, hpromotion, rfl⟩ := hby
    exact ⟨promotion, ⟨stored, hmem, hpromotion⟩, rfl⟩
  · rintro ⟨promotion, ⟨stored, hmem, hpromotion⟩, rfl⟩
    have hstream : stored.event.streamId = id :=
      decide_eq_true_eq.mp (List.mem_filter.mp hmem).2
    exact ⟨stored, hmem, by rw [← hsame stored hstream, hpromotion, Option.map_some]⟩

theorem single?_eq_some_iff {α : Type} {l : List α} {a : α} : single? l = some a ↔ l = [a] := by
  constructor
  · intro h
    cases l with
    | nil => cases h
    | cons first rest =>
      cases rest with
      | nil => rw [Option.some.inj h]
      | cons second rest => cases h
  · rintro rfl
    rfl

namespace AuditTraceService

variable {service : AuditTraceService} {id : String} {notification : AgentNotification}

/-- The trace of a known notification is a check of the events on its stream. -/
theorem traceNotification_eq
    (hget : service.kernel.agentNotifications.get? id = some notification) :
    service.traceNotification id =
      (service.validateNotificationTrace id notification (onStream id service.ledger.events) >>=
        fun trace => .ok (some trace)) := by
  rw [traceNotification, hget, streamEvents_eq]
  rfl

/-- A promotion that names what the notification says, a known work item, is accepted. -/
theorem validatePromotion_eq_ok_iff {stored : StoredEvent} {workItemId : String} :
    service.validatePromotion notification (some (stored, workItemId)) = .ok () ↔
      workItemId ≠ "" ∧ notification.promotedWorkItemId = some workItemId ∧
        service.kernel.workItems.contains workItemId = true := by
  rw [validatePromotion, Checked.check_bind_eq_ok_iff, Checked.check_bind_eq_ok_iff,
    Checked.check_eq_ok_iff]

/-- A trace that returns found one unpromoted delivery in the nested shape. -/
theorem deliveredOnce_of_validated {events : List StoredEvent} {trace : NotificationTrace}
    (h : service.validateNotificationTrace id notification events = .ok trace) :
    DeliveredOnce service.isFlat id events := by
  obtain ⟨hnested, h⟩ := Checked.check_bind_eq_ok_iff.mp h
  obtain ⟨⟨delivery, delivered⟩, hsingle, h⟩ := Checked.orRaise_bind_eq_ok_iff.mp h
  obtain ⟨hlength, h⟩ := Checked.check_bind_eq_ok_iff.mp h
  obtain ⟨-, h⟩ := Checked.check_bind_eq_ok_iff.mp h
  obtain ⟨hdelivered, h⟩ := Checked.check_bind_eq_ok_iff.mp h
  obtain ⟨-, h⟩ := Checked.check_bind_eq_ok_iff.mp h
  obtain ⟨-, h⟩ := Checked.check_bind_eq_ok_iff.mp h
  obtain ⟨_, hpromotion, -⟩ := Checked.bind_eq_ok_iff.mp h
  refine ⟨hnested, ⟨_, single?_eq_some_iff.mp hsingle, ?_⟩, hlength, fun promotion hmem => ?_⟩
  · exact congrArg AgentNotification.promotedWorkItemId hdelivered
  · obtain ⟨only, honly⟩ := List.length_eq_one_iff.mp
      (Nat.le_antisymm hlength (List.length_pos_of_mem hmem))
    rw [honly] at hmem hpromotion
    rw [List.mem_singleton.mp hmem]
    exact (validatePromotion_eq_ok_iff.mp hpromotion).1

/-- One unpromoted delivery in the nested shape is enough, after a rebuild: the other checks of the
trace never fail. -/
theorem validated_of_deliveredOnce (service : AuditTraceService)
    (hreplayed : NotificationsReplayed service.ledger.events service.kernel)
    (hget : service.kernel.agentNotifications.get? id = some notification)
    (h : DeliveredOnce service.isFlat id (onStream id service.ledger.events)) :
    ∃ trace, service.validateNotificationTrace id notification
      (onStream id service.ledger.events) = .ok trace := by
  obtain ⟨hnested, ⟨⟨delivery, delivered⟩, honce, hunpromoted⟩, hlength, hnamed⟩ := h
  have hmem : delivered ∈ deliveries id service.ledger.events := by
    have hone := honce ▸ List.mem_singleton.mpr rfl
    obtain ⟨stored, hstored, hdelivery⟩ := List.mem_filterMap.mp hone
    refine List.mem_map.mpr ⟨(delivery, delivered), ?_, rfl⟩
    exact List.mem_filterMap.mpr ⟨stored, List.mem_of_mem_filter hstored, hdelivery⟩
  have hdelivered : delivered = notification.unpromoted := by
    rw [← hreplayed.delivered id notification hget delivered hmem, AgentNotification.unpromoted,
      ← hunpromoted]
  have hrecipient : delivered.recipientAgentName = notification.recipientAgentName := by
    rw [hdelivered, AgentNotification.unpromoted]
  have hsource : delivered.sourceMessageId = notification.sourceMessageId := by
    rw [hdelivered, AgentNotification.unpromoted]
  have hwhole : notification.promotedWorkItemId = none ∨
      (onStream id service.ledger.events).filterMap (promotionOf id) ≠ [] := by
    by_cases hnone : (onStream id service.ledger.events).filterMap (promotionOf id) = []
    · left
      have hpromotions : promotions id service.ledger.events = [] := by
        refine List.eq_nil_iff_forall_not_mem.mpr fun workItemId hworkItem => ?_
        obtain ⟨promotion, hpromotion, -⟩ := mem_promotions_iff.mp hworkItem
        rw [hnone] at hpromotion
        cases hpromotion
      rw [← hreplayed.unpromoted id notification hget hpromotions delivered hmem]
      exact hunpromoted
    · exact Or.inr hnone
  have hpromotion : service.validatePromotion notification
      ((onStream id service.ledger.events).filterMap (promotionOf id)).head? = .ok () := by
    cases hhead : ((onStream id service.ledger.events).filterMap (promotionOf id)).head? with
    | none => rfl
    | some promotion =>
      have hpromotion := List.mem_of_head? hhead
      obtain ⟨hnamed', hexists⟩ := hreplayed.promoted id notification hget promotion.2
        (mem_promotions_iff.mpr ⟨promotion, hpromotion, rfl⟩)
      exact validatePromotion_eq_ok_iff.mpr ⟨hnamed promotion hpromotion, hnamed', hexists⟩
  rw [validateNotificationTrace, Checked.check_bind_of hnested, single?_eq_some_iff.mpr honce,
    Checked.orRaise_some_bind]
  dsimp only
  rw [Checked.check_bind_of hlength, Checked.check_bind_of hwhole, Checked.check_bind_of hdelivered,
    Checked.check_bind_of hrecipient, Checked.check_bind_of hsource, hpromotion]
  exact ⟨_, rfl⟩

end AuditTraceService

/-- **The notifications that have a trace.** Over every ledger that the projection accepts, each
notification of the rebuilt Kernel has a trace exactly if its stream delivers it once, unpromoted
and in the nested shape, and promotes it at most once. -/
theorem traceLaw_iff_deliveredOnce (dataSpace : DataSpace) (start final : OperationalProjection)
    (ledger : InMemoryOperationalLedger) (isFlat : StoredEvent → Bool) (rebuildPageSize : Nat)
    (pageSize : Nat) (hpageSize : 0 < pageSize) (hkernel : start.kernel = .new dataSpace)
    (hcursor : start.cursor = 0)
    (hrebuild : start.rebuild ledger rebuildPageSize = .ok (some final)) :
    (∀ id, final.kernel.agentNotifications.contains id = true →
      ∃ trace,
        (AuditTraceService.mk final.kernel ledger isFlat pageSize hpageSize).traceNotification id =
          .ok (some trace)) ↔
    ∀ id, final.kernel.agentNotifications.contains id = true →
      DeliveredOnce isFlat id (onStream id ledger.events) := by
  have hreplayed : NotificationsReplayed ledger.events final.kernel := by
    have hpos : 0 < rebuildPageSize := (Checked.check_bind_eq_ok_iff.mp hrebuild).1
    rw [start.rebuild_eq_replay ledger hpos, hcursor, List.drop_zero] at hrebuild
    obtain ⟨reached, hreplay, hreached⟩ := Checked.bind_eq_ok_iff.mp hrebuild
    obtain rfl := Option.some.inj (Except.ok.inj hreached)
    exact notificationsReplayed_of_replay (hkernel ▸ kernel_of_replay hreplay)
  refine forall_congr' fun id => forall_congr' fun hknown => ?_
  obtain ⟨notification, hget⟩ := Option.isSome_iff_exists.mp hknown
  rw [AuditTraceService.traceNotification_eq hget]
  constructor
  · rintro ⟨trace, htrace⟩
    obtain ⟨found, hfound, -⟩ := Checked.bind_eq_ok_iff.mp htrace
    exact AuditTraceService.deliveredOnce_of_validated hfound
  · intro honce
    obtain ⟨trace, htrace⟩ := AuditTraceService.validated_of_deliveredOnce
      ⟨final.kernel, ledger, isFlat, pageSize, hpageSize⟩ hreplayed hget honce
    rw [htrace]
    exact ⟨trace, rfl⟩

/-! ### One delivery, in either shape -/

/-- The delivery of the company's message. -/
def companyDelivery : EventEnvelope where
  eventId := "event:1"
  dataSpaceId := "space:company-1"
  streamId := "notification:1"
  streamVersion := 1
  occurredAt := 0
  actorType := .system
  actorId := some "owner:1"
  correlationId := some "notification:1"
  causationId := none
  idempotencyKey := "notify:1"
  payload := .kernel (.agentNotificationDelivered companyNotification)

/-- A ledger with the delivery alone. -/
def deliveryLedger : InMemoryOperationalLedger :=
  (InMemoryOperationalLedger.new "space:company-1").push companyDelivery ⟨rfl, rfl, rfl, rfl⟩

/-- What the projection makes of it. -/
def deliveryProjection : OperationalProjection :=
  { OperationalProjection.fresh companySpace with
    kernel := { Kernel.new companySpace with
      agentNotifications := .ofList [("notification:1", companyNotification)]
      versions := .ofList [("notification:1", 1)] }
    cursor := 1 }

theorem rebuild_deliveryLedger :
    (OperationalProjection.fresh companySpace).rebuild deliveryLedger 500 =
      .ok (some deliveryProjection) := by
  rfl

/-- The notification that the stream delivers once, in the nested shape, has a trace. -/
theorem traceLaw_of_deliveryLedger :
    ∃ trace, (AuditTraceService.mk deliveryProjection.kernel deliveryLedger (fun _ => false) 1000
      (Nat.succ_pos 999)).traceNotification "notification:1" = .ok (some trace) := by
  refine (traceLaw_iff_deliveredOnce companySpace (.fresh companySpace) deliveryProjection
    deliveryLedger (fun _ => false) 500 1000 (Nat.succ_pos 999) rfl rfl
    rebuild_deliveryLedger).mpr (fun id hknown => ?_) "notification:1" (by decide +kernel)
  have hid : id = "notification:1" := by
    change (OrderedDict.empty.set "notification:1" companyNotification).contains id = true at hknown
    rw [OrderedDict.contains_set, OrderedDict.contains_empty, Bool.or_false,
      decide_eq_true_eq] at hknown
    exact hknown.symm
  subst hid
  exact ⟨fun _ _ _ => rfl, ⟨(⟨1, companyDelivery⟩, companyNotification), by decide +kernel, rfl⟩,
    by decide +kernel, by decide +kernel⟩

/-- **The law fails**: the projection accepts the delivery in the legacy shape, and the trace of
its notification raises. -/
theorem legacy_delivery_breaks_traceLaw :
    (OperationalProjection.fresh companySpace).rebuild deliveryLedger 500 =
        .ok (some deliveryProjection) ∧
      deliveryProjection.kernel.agentNotifications.contains "notification:1" = true ∧
      (AuditTraceService.mk deliveryProjection.kernel deliveryLedger (fun _ => true) 1000
        (Nat.succ_pos 999)).traceNotification "notification:1" = .error (.invariantViolation
          "agent_notification_delivered notification payload is malformed") :=
  ⟨rebuild_deliveryLedger, by decide +kernel, by decide +kernel⟩

end Nanihold
