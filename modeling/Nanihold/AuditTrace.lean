import Nanihold.Kernel.State
import Nanihold.Kernel.Ledger
import Nanihold.Library.EventSourcing

/-!
# Audit traces of notifications

The read-only reader of `vsm.audit_trace` that goes back from a notification of the Kernel to the
events on its stream. Unlike the projection, it reads the payload of a delivery only in the nested
shape: the fields of the notification under a key `notification`. In the legacy shape they stand at
the top level of the payload.

## Main definitions

* `AuditTraceService` — the Kernel, its ledger, and which deliveries have the legacy shape.
* `AuditTraceService.streamEvents` — the events of a stream, read page by page.
* `AuditTraceService.traceNotification` — the trace of a notification.

## Main results

* `AuditTraceService.streamEvents_eq` — the reader gets the whole stream.
-/

namespace Nanihold

/-! ### Reading a stream -/

/-- What the reader of a stream has read. -/
structure StreamReader where
  events : List StoredEvent
  streamVersion : Nat
  lastCursor : Nat

/-- One event of a page. -/
def StreamReader.read (streamId : String) (reader : StreamReader) (stored : StoredEvent) :
    Except VsmError StreamReader := do
  require (stored.event.streamId = streamId)
    "audit trace Event stream response has a mismatched stream"
  require (stored.event.streamVersion = reader.streamVersion + 1)
    "audit trace Event stream version is not contiguous"
  require (reader.lastCursor < stored.cursor)
    "audit trace Event Ledger cursor is not increasing"
  return ⟨reader.events ++ [stored], stored.event.streamVersion, stored.cursor⟩

/-- The reader of a Kernel's ledger. -/
structure AuditTraceService where
  kernel : Kernel
  ledger : InMemoryOperationalLedger
  /-- The stored payload has the fields of its notification at the top level. -/
  isFlat : StoredEvent → Bool
  pageSize : Nat
  page_size_pos : 0 < pageSize

/-! ### The trace -/

/-- `_event_ref`. -/
structure EventRef where
  cursor : Nat
  eventId : String
  eventType : String
  streamId : String
  streamVersion : Nat
  occurredAt : DateTime
  deriving DecidableEq

def StoredEvent.ref (stored : StoredEvent) : EventRef where
  cursor := stored.cursor
  eventId := stored.event.eventId
  eventType := stored.event.eventType
  streamId := stored.event.streamId
  streamVersion := stored.event.streamVersion
  occurredAt := stored.event.occurredAt

/-- What came in, what was delivered to whom, and the events that say so. -/
structure NotificationTrace where
  notificationId : String
  sourceObservationSubject : Option String
  sourceInstanceId : String
  sourcePlatform : NotificationPlatform
  sourceChannel : String
  sourceMessageId : String
  senderActorId : String
  recipientAgentName : String
  deliveryKind : String
  ledgerEventId : String
  ledgerCursor : Nat
  workItemId : Option String
  timeline : List EventRef
  deriving DecidableEq

/-- The event is a delivery. -/
def StoredEvent.isDelivery (stored : StoredEvent) : Bool :=
  match stored.event.payload with
  | .kernel (.agentNotificationDelivered _) => true
  | _ => false

/-- The delivery of a notification, with its payload. -/
def deliveryOf (notificationId : String) (stored : StoredEvent) :
    Option (StoredEvent × AgentNotification) :=
  match stored.event.payload with
  | .kernel (.agentNotificationDelivered notification) =>
    if notification.notificationId = notificationId then some (stored, notification) else none
  | _ => none

/-- The promotion of a notification, with the work item it names. -/
def promotionOf (notificationId : String) (stored : StoredEvent) : Option (StoredEvent × String) :=
  match stored.event.payload with
  | .kernel (.agentNotificationPromoted promotedId workItemId) =>
    if stored.event.streamId = notificationId ∨ promotedId = notificationId then
      some (stored, workItemId)
    else none
  | _ => none

/-- The element of a list of length one. -/
def single? {α : Type} : List α → Option α
  | [a] => some a
  | _ => none

/-- The notification before it was promoted. -/
def AgentNotification.unpromoted (notification : AgentNotification) : AgentNotification :=
  { notification with promotedWorkItemId := none }

namespace AuditTraceService

variable (service : AuditTraceService)

/-- `_stream_events`. The bound on the number of pages is never reached. -/
def streamEvents (streamId : String) : Except VsmError (Option (List StoredEvent)) := do
  let reader ← EventSourcing.rebuild (StreamReader.read streamId) StreamReader.streamVersion
    (fun after =>
      ((service.ledger.streams.getD streamId []).drop after).take service.pageSize)
    (service.ledger.streamLength streamId + 1) ⟨[], 0, 0⟩
  return reader.map (·.events)

/-- The reader accepts the events of a stream that follow what it has read. -/
private theorem replay_read (streamId : String) (events : List StoredEvent) (reader : StreamReader)
    (hstream : ∀ stored ∈ events, stored.event.streamId = streamId)
    (hversions : events.map (·.event.streamVersion) =
      List.range' (reader.streamVersion + 1) events.length)
    (hcursors : events.Pairwise (·.cursor < ·.cursor))
    (hlast : ∀ stored ∈ events, reader.lastCursor < stored.cursor) :
    ∃ final, EventSourcing.replay (StreamReader.read streamId) reader events = .ok final ∧
      final.events = reader.events ++ events := by
  induction events generalizing reader with
  | nil => exact ⟨reader, rfl, (List.append_nil _).symm⟩
  | cons stored events ih =>
    rw [List.map_cons, List.length_cons, List.range'_succ, List.cons.injEq] at hversions
    obtain ⟨hversion, hversions⟩ := hversions
    obtain ⟨hnext, hcursors⟩ := List.pairwise_cons.mp hcursors
    have hread : StreamReader.read streamId reader stored =
        .ok ⟨reader.events ++ [stored], stored.event.streamVersion, stored.cursor⟩ := by
      rw [StreamReader.read, Checked.check_bind_of (hstream stored List.mem_cons_self),
        Checked.check_bind_of hversion, Checked.check_bind_of (hlast stored List.mem_cons_self)]
      rfl
    obtain ⟨final, hfinal, hevents⟩ := ih
      ⟨reader.events ++ [stored], stored.event.streamVersion, stored.cursor⟩
      (fun later hlater => hstream later (List.mem_cons_of_mem _ hlater))
      (hversion.symm ▸ hversions) hcursors hnext
    refine ⟨final, ?_, ?_⟩
    · rw [EventSourcing.replay_cons, hread]
      exact hfinal
    · rw [hevents, List.append_assoc]
      rfl

/-- **The reader gets the whole stream**, whatever the page size: none of its checks fails. -/
theorem streamEvents_eq (streamId : String) :
    service.streamEvents streamId = .ok (some (onStream streamId service.ledger.events)) := by
  have hcursors : service.ledger.events.Pairwise (·.cursor < ·.cursor) := by
    have hsorted := List.pairwise_lt_range' (s := 1) (n := service.ledger.events.length)
    rw [← service.ledger.cursors_contiguous, List.pairwise_map] at hsorted
    exact hsorted
  have hpositive (stored : StoredEvent) (hmem : stored ∈ service.ledger.events) :
      0 < stored.cursor := by
    have hcursor := List.mem_map_of_mem (f := (·.cursor)) hmem
    rw [service.ledger.cursors_contiguous, List.mem_range'_1] at hcursor
    exact hcursor.1
  obtain ⟨final, hfinal, hevents⟩ := replay_read streamId
    (onStream streamId service.ledger.events) ⟨[], 0, 0⟩
    (fun stored hmem => decide_eq_true_eq.mp (List.mem_filter.mp hmem).2)
    (service.ledger.versions_contiguous streamId) (hcursors.filter _)
    (fun stored hmem => hpositive stored (List.mem_filter.mp hmem).1)
  have hcursor (view : StreamReader) (stored : StoredEvent) (next : StreamReader)
      (h : StreamReader.read streamId view stored = .ok next) :
      next.streamVersion = view.streamVersion + 1 := by
    obtain ⟨-, h⟩ := Checked.check_bind_eq_ok_iff.mp h
    obtain ⟨hversion, h⟩ := Checked.check_bind_eq_ok_iff.mp h
    obtain ⟨-, h⟩ := Checked.check_bind_eq_ok_iff.mp h
    obtain rfl := Checked.pure_eq_ok_iff.mp h
    exact hversion
  rw [streamEvents, EventSourcing.rebuild_eq_replay (onStream streamId service.ledger.events)
    service.pageSize service.page_size_pos (fun after => by rw [service.ledger.streams_eq]) hcursor
    _ _ (by rw [service.ledger.streamLength_eq]; exact Nat.lt_succ_self _), List.drop_zero, hfinal]
  change Except.ok (some final.events) = _
  rw [hevents]
  rfl

/-- The checks of a promotion, if there is one. -/
def validatePromotion (notification : AgentNotification)
    (promotion : Option (StoredEvent × String)) : Except VsmError Unit :=
  match promotion with
  | none => .ok ()
  | some (_, workItemId) => do
    require (workItemId ≠ "") "notification promotion does not contain a WorkItem ID"
    require (notification.promotedWorkItemId = some workItemId)
      "notification promotion does not match its projection"
    require (service.kernel.workItems.contains workItemId = true)
      s!"notification promotion WorkItem not found: {workItemId}"

/-- `_validate_notification_trace`. A delivery in the legacy shape has no entry `notification`. -/
def validateNotificationTrace (notificationId : String) (notification : AgentNotification)
    (events : List StoredEvent) : Except VsmError NotificationTrace := do
  require (∀ stored ∈ events, stored.isDelivery = true → service.isFlat stored = false)
    "agent_notification_delivered notification payload is malformed"
  let promotions := events.filterMap (promotionOf notificationId)
  let (delivery, delivered) ← found (single? (events.filterMap (deliveryOf notificationId)))
    "notification delivery trace requires exactly one delivery event"
  require (promotions.length ≤ 1) "notification delivery trace has multiple promotion events"
  require (notification.promotedWorkItemId = none ∨ promotions ≠ [])
    "notification projection has a WorkItem promotion without its Event"
  require (delivered = notification.unpromoted)
    "notification delivery payload does not match its projection"
  require (delivered.recipientAgentName = notification.recipientAgentName)
    "notification delivery recipient does not match its projection"
  require (delivered.sourceMessageId = notification.sourceMessageId)
    "notification delivery source message does not match its projection"
  service.validatePromotion notification promotions.head?
  return {
    notificationId := notificationId
    sourceObservationSubject := notification.sourceObservationSubject
    sourceInstanceId := notification.sourceInstanceId
    sourcePlatform := notification.sourcePlatform
    sourceChannel := notification.sourceChannel
    sourceMessageId := notification.sourceMessageId
    senderActorId := notification.senderActorId
    recipientAgentName := notification.recipientAgentName
    deliveryKind := if promotions = [] then "ledger_event" else "ledger_event+work_item"
    ledgerEventId := delivery.event.eventId
    ledgerCursor := delivery.cursor
    workItemId := notification.promotedWorkItemId
    timeline := delivery.ref :: promotions.map (·.1.ref) }

/-- `trace_notification`. -/
def traceNotification (notificationId : String) : Except VsmError (Option NotificationTrace) := do
  let notification ← found (service.kernel.agentNotifications.get? notificationId)
    s!"notification_id not found: {notificationId}"
  match ← service.streamEvents notificationId with
  | none => return none
  | some events =>
    return some (← service.validateNotificationTrace notificationId notification events)

end AuditTraceService

end Nanihold
