import Mathlib
import Nanihold.Replay.Rebuilt

/-!
# Owner turns in a data space that is at work

An owner's action is taken up once. Its message is recorded before the Pilot is called, and from
then on, in this process and in every process that is started after it, a request with the identity
of the action is answered with the receipt of the first one. So the Pilot is called at most once for
an action, whatever other requests are served meanwhile and however often the process is restarted.

The receipt belongs to the conversation in which the message was recorded. It is given to whoever
repeats the action, also to a device of another conversation and to one that is bound to none.

## Main definitions

* `originOf` — the owner message of an action, as the ledger has it.
* `TurnPermits` — what the ledger must hold for an event of a turn to follow.
* `Receipted` — the Interface service keeps the receipts that the ledger calls for.
* `TurnLaw`, `HostLaw` — the invariants of a data space and of a process.

## Main results

* `receipted_of_applyInterface` — a rebuild restores the receipts.
* `begun_beginOwnerAction`, `preserves_finishOwnerAction` — the two parts of a turn.
* `hostLaw_run` — every request, answer and restart keeps the invariant.
* `at_most_once_exec` — the Pilot is called at most once for an action.
* `isolation_exec` — who is given a receipt, and of which conversation.
-/

namespace Nanihold

/-! ### What the ledger says about actions -/

/-- The owner message of an action, with the digest of the request. -/
structure ActionOrigin where
  digest : String
  message : ConversationMessage
  deriving DecidableEq

/-- The owner message that an event records for an action. -/
def originIn (actionId : Identifier) : EventPayload → Option ActionOrigin
  | .interface (.ownerMessageReceived known digest message) =>
    if known = actionId then some ⟨digest, message⟩ else none
  | _ => none

/-- The owner message of an action, as the ledger has it. -/
def originOf (events : List StoredEvent) (actionId : Identifier) : Option ActionOrigin :=
  events.findSome? fun stored => originIn actionId stored.event.payload

/-- The action whose owner message an event records. -/
def ownerActionIn : EventPayload → Option Identifier
  | .interface (.ownerMessageReceived actionId _ _) => some actionId
  | _ => none

/-- The actions whose owner messages the ledger holds, in the order of the events. -/
def ownerActions (events : List StoredEvent) : List Identifier :=
  events.filterMap fun stored => ownerActionIn stored.event.payload

/-- What the ledger must hold for an event of a turn to follow: an owner message is the first of its
action, and a response answers an owner message of its conversation. -/
def TurnPermits (earlier : List StoredEvent) (stored : StoredEvent) : Prop :=
  match stored.event.payload with
  | .interface (.ownerMessageReceived actionId _ _) => originOf earlier actionId = none
  | .interface (.interfaceResponseRecorded response) =>
    ∃ origin, originOf earlier response.actionId = some origin ∧
      origin.digest = response.actionDigest ∧
      origin.message.messageId = response.ownerMessageId ∧
      origin.message.conversationId = response.message.conversationId
  | _ => True

section Origins

variable {events : List StoredEvent} {stored : StoredEvent} {actionId : Identifier}

theorem originIn_eq_none {payload : EventPayload} (h : ownerActionIn payload = none) :
    originIn actionId payload = none := by
  unfold ownerActionIn at h
  split at h
  · cases h
  · next hother =>
    unfold originIn
    split
    · next known digest message => exact absurd rfl (hother known digest message)
    · rfl

theorem originOf_concat : originOf (events ++ [stored]) actionId =
    (originOf events actionId).or (originIn actionId stored.event.payload) := by
  rw [originOf, List.findSome?_append, List.findSome?_singleton]
  rfl

theorem originOf_concat_of_other (h : ownerActionIn stored.event.payload = none) :
    originOf (events ++ [stored]) = originOf events := by
  funext actionId
  rw [originOf_concat, originIn_eq_none h, Option.or_none]

theorem originOf_concat_of_some {origin : ActionOrigin} (h : originOf events actionId = some origin)
    (stored : StoredEvent) : originOf (events ++ [stored]) actionId = some origin := by
  rw [originOf_concat, h, Option.some_or]

/-- An action has an owner message if the ledger holds one. -/
theorem originOf_eq_none_iff :
    originOf events actionId = none ↔ actionId ∉ ownerActions events := by
  rw [originOf, List.findSome?_eq_none_iff, ownerActions]
  simp only [List.mem_filterMap, not_exists, not_and]
  refine forall₂_congr fun stored _ => ?_
  cases hpayload : stored.event.payload with
  | interface payload =>
    cases payload with
    | ownerMessageReceived known digest message =>
      simp only [originIn, ownerActionIn, ite_eq_right_iff, reduceCtorEq, imp_false,
        Option.some.injEq]
    | _ => simp only [originIn, ownerActionIn, reduceCtorEq, not_false_eq_true]
  | _ => simp only [originIn, ownerActionIn, reduceCtorEq, not_false_eq_true]

/-- **No action has two owner messages** in a lawful ledger. -/
theorem nodup_ownerActions (h : EventSourcing.Lawful TurnPermits events) :
    (ownerActions events).Nodup := by
  induction events using List.reverseRecOn with
  | nil => exact List.nodup_nil
  | append_singleton events stored ih =>
    obtain ⟨hevents, hpermits⟩ := EventSourcing.lawful_concat_iff.mp h
    rw [ownerActions, List.filterMap_append]
    change (ownerActions events ++ _).Nodup
    cases haction : ownerActionIn stored.event.payload with
    | none => simpa [haction] using ih hevents
    | some actionId =>
      have hpayload : ∃ digest message,
          stored.event.payload = .interface (.ownerMessageReceived actionId digest message) := by
        unfold ownerActionIn at haction
        split at haction
        · next known digest message hpayload =>
          obtain rfl := Option.some.inj haction
          exact ⟨digest, message, hpayload⟩
        · cases haction
      obtain ⟨digest, message, hpayload⟩ := hpayload
      rw [TurnPermits, hpayload] at hpermits
      have hfresh : actionId ∉ ownerActions events := originOf_eq_none_iff.mp hpermits
      rw [List.nodup_append]
      refine ⟨ih hevents, by simp [haction], ?_⟩
      intro known hknown other hother
      simp only [List.filterMap_cons, haction, List.filterMap_nil, List.mem_singleton] at hother
      rw [hother]
      rintro rfl
      exact hfresh hknown

end Origins

/-! ### What the Interface service keeps -/

/-- What a receipt says about its action. -/
def ConversationActionReceipt.origin (receipt : ConversationActionReceipt) :
    Identifier × Identifier × Identifier :=
  (receipt.actionId, receipt.conversationId, receipt.ownerMessageId)

/-- **The Interface service keeps the receipts that the ledger calls for**: one for each action with
an owner message, of the conversation of that message and with a message of that conversation. -/
structure Receipted (origins : Identifier → Option ActionOrigin) (i : InterfaceService) :
    Prop where
  conversations_keyed : ∀ conversationId conversation,
    i.conversations.get? conversationId = some conversation →
      conversation.conversationId = conversationId
  messages_listed : ∀ conversationId, i.conversations.contains conversationId = true →
    i.messages.contains conversationId = true
  receipts : ∀ actionId, (i.actionReceipts.get? actionId).map (·.origin) =
    (origins actionId).map fun origin =>
      (actionId, origin.message.conversationId, origin.message.messageId)
  digests : ∀ actionId, i.actionDigests.get? actionId = (origins actionId).map (·.digest)
  own_messages : ∀ actionId receipt, i.actionReceipts.get? actionId = some receipt →
    ∀ message ∈ receipt.interfaceMessage, message.conversationId = receipt.conversationId

namespace Receipted

variable {origins : Identifier → Option ActionOrigin} {i t : InterfaceService}

theorem new (dataSpaceId : String) : Receipted (originOf []) (.new dataSpaceId) where
  conversations_keyed _ _ h := by cases h
  messages_listed _ h := by cases h
  receipts _ := rfl
  digests _ := rfl
  own_messages _ _ h := by cases h

/-- The receipts, the digests and the conversations are what is looked at. -/
theorem frame (h : Receipted origins i) (hconversations : t.conversations = i.conversations)
    (hmessages : ∀ conversationId, i.messages.contains conversationId = true →
      t.messages.contains conversationId = true)
    (hreceipts : t.actionReceipts = i.actionReceipts)
    (hdigests : t.actionDigests = i.actionDigests) : Receipted origins t where
  conversations_keyed := by
    rw [hconversations]
    exact h.conversations_keyed
  messages_listed conversationId hcontains := by
    rw [hconversations] at hcontains
    exact hmessages _ (h.messages_listed _ hcontains)
  receipts := by
    rw [hreceipts]
    exact h.receipts
  digests := by
    rw [hdigests]
    exact h.digests
  own_messages := by
    rw [hreceipts]
    exact h.own_messages

theorem appendMessage (h : Receipted origins i) {message : ConversationMessage}
    (happend : i.appendMessage message = .ok t) :
    Receipted origins t ∧ t.versions = i.versions := by
  obtain ⟨messages, -, hnext⟩ := Checked.orRaise_bind_eq_ok_iff.mp happend
  obtain rfl := Checked.pure_eq_ok_iff.mp hnext
  refine ⟨h.frame rfl (fun conversationId hcontains => ?_) rfl rfl, rfl⟩
  rw [OrderedDict.contains_set, hcontains, Bool.or_true]

/-- A new receipt of an action whose owner message is known. -/
theorem setReceipt (h : Receipted origins i) (receipt : ConversationActionReceipt)
    {origin : ActionOrigin} (horigin : origins receipt.actionId = some origin)
    (hreceipt : receipt.origin =
      (receipt.actionId, origin.message.conversationId, origin.message.messageId))
    (hmessage : ∀ message ∈ receipt.interfaceMessage,
      message.conversationId = receipt.conversationId) :
    Receipted origins
      { i with actionReceipts := i.actionReceipts.set receipt.actionId receipt } where
  conversations_keyed := h.conversations_keyed
  messages_listed := h.messages_listed
  digests := h.digests
  receipts actionId := by
    change (OrderedDict.get? (i.actionReceipts.set receipt.actionId receipt) actionId).map _ = _
    by_cases heq : receipt.actionId = actionId
    · subst heq
      rw [OrderedDict.get?_set_self, horigin, Option.map_some, Option.map_some, hreceipt]
    · rw [OrderedDict.get?_set_of_ne _ _ heq]
      exact h.receipts actionId
  own_messages actionId known hknown := by
    change OrderedDict.get? (i.actionReceipts.set receipt.actionId receipt) actionId =
      some known at hknown
    by_cases heq : receipt.actionId = actionId
    · subst heq
      rw [OrderedDict.get?_set_self] at hknown
      obtain rfl := Option.some.inj hknown
      exact hmessage
    · rw [OrderedDict.get?_set_of_ne _ _ heq] at hknown
      exact h.own_messages actionId known hknown

/-- A receipt belongs to the conversation of the owner message of its action. -/
theorem of_get? (h : Receipted origins i) {actionId : Identifier}
    {receipt : ConversationActionReceipt} (hget : i.actionReceipts.get? actionId = some receipt) :
    ∃ origin, origins actionId = some origin ∧ receipt.actionId = actionId ∧
      receipt.conversationId = origin.message.conversationId ∧
      receipt.ownerMessageId = origin.message.messageId := by
  have hreceipt := h.receipts actionId
  rw [hget, Option.map_some] at hreceipt
  cases horigin : origins actionId with
  | none =>
    rw [horigin] at hreceipt
    cases hreceipt
  | some origin =>
    rw [horigin, Option.map_some] at hreceipt
    simp only [ConversationActionReceipt.origin, Option.some.injEq, Prod.mk.injEq] at hreceipt
    exact ⟨origin, rfl, hreceipt⟩

/-- An action without a receipt has no owner message. -/
theorem origin_eq_none (h : Receipted origins i) {actionId : Identifier}
    (hget : i.actionReceipts.get? actionId = none) : origins actionId = none := by
  have hreceipt := h.receipts actionId
  rw [hget, Option.map_none] at hreceipt
  exact Option.map_eq_none_iff.mp hreceipt.symm

/-- A new conversation. -/
theorem setConversation (h : Receipted origins i) (conversation : Conversation)
    (hconversations : t.conversations =
      i.conversations.set conversation.conversationId conversation)
    (hmessages : t.messages = i.messages.set conversation.conversationId [])
    (hreceipts : t.actionReceipts = i.actionReceipts)
    (hdigests : t.actionDigests = i.actionDigests) : Receipted origins t where
  conversations_keyed conversationId known hknown := by
    rw [hconversations, OrderedDict.get?_set] at hknown
    split at hknown
    · next heq =>
      obtain rfl := Option.some.inj hknown
      exact heq
    · exact h.conversations_keyed conversationId known hknown
  messages_listed conversationId hcontains := by
    rw [hconversations, OrderedDict.contains_set, Bool.or_eq_true] at hcontains
    rw [hmessages, OrderedDict.contains_set, Bool.or_eq_true]
    exact hcontains.imp_right (h.messages_listed conversationId)
  receipts := by
    rw [hreceipts]
    exact h.receipts
  digests := by
    rw [hdigests]
    exact h.digests
  own_messages := by
    rw [hreceipts]
    exact h.own_messages

/-- The receipt of an action whose owner message is new. -/
theorem openAction (h : Receipted origins i) {actionId : Identifier} {digest : String}
    {message : ConversationMessage} {receipt : ConversationActionReceipt}
    (hnew : origins actionId = none)
    (hreceipt : receipt.origin = (actionId, message.conversationId, message.messageId))
    (hmessage : receipt.interfaceMessage = none) :
    Receipted (fun known => (origins known).or
        (if actionId = known then some ⟨digest, message⟩ else none))
      { i with
        actionReceipts := i.actionReceipts.set actionId receipt
        actionDigests := i.actionDigests.set actionId digest } where
  conversations_keyed := h.conversations_keyed
  messages_listed := h.messages_listed
  receipts known := by
    change (OrderedDict.get? (i.actionReceipts.set actionId receipt) known).map _ = _
    by_cases heq : actionId = known
    · subst heq
      rw [OrderedDict.get?_set_self, hnew, if_pos rfl, Option.none_or, Option.map_some,
        Option.map_some, hreceipt]
    · rw [OrderedDict.get?_set_of_ne _ _ heq, if_neg heq, Option.or_none]
      exact h.receipts known
  digests known := by
    change OrderedDict.get? (i.actionDigests.set actionId digest) known = _
    by_cases heq : actionId = known
    · subst heq
      rw [OrderedDict.get?_set_self, hnew, if_pos rfl, Option.none_or, Option.map_some]
    · rw [OrderedDict.get?_set_of_ne _ _ heq, if_neg heq, Option.or_none]
      exact h.digests known
  own_messages known other hother := by
    change OrderedDict.get? (i.actionReceipts.set actionId receipt) known = some other at hother
    by_cases heq : actionId = known
    · subst heq
      rw [OrderedDict.get?_set_self] at hother
      obtain rfl := Option.some.inj hother
      rw [hmessage]
      simp
    · rw [OrderedDict.get?_set_of_ne _ _ heq] at hother
      exact h.own_messages known other hother

/-- Writing down the digest that is known changes nothing. -/
theorem setDigest (h : Receipted origins i) {actionId : Identifier} {origin : ActionOrigin}
    (horigin : origins actionId = some origin) :
    Receipted origins
      { i with actionDigests := i.actionDigests.set actionId origin.digest } where
  conversations_keyed := h.conversations_keyed
  messages_listed := h.messages_listed
  receipts := h.receipts
  own_messages := h.own_messages
  digests known := by
    change OrderedDict.get? (i.actionDigests.set actionId origin.digest) known = _
    by_cases heq : actionId = known
    · subst heq
      rw [OrderedDict.get?_set_self, horigin, Option.map_some]
    · rw [OrderedDict.get?_set_of_ne _ _ heq]
      exact h.digests known

end Receipted

/-! ### A rebuild restores the receipts -/

section Rebuild

variable {earlier : List StoredEvent} {stored : StoredEvent} {i t : InterfaceService}
  {origins : Identifier → Option ActionOrigin}

private theorem frame_foldl_projectAction (conversationId : String) :
    ∀ (actions : List InterfaceAction) (i : InterfaceService),
      (actions.foldl (projectAction conversationId) i).conversations = i.conversations ∧
      (actions.foldl (projectAction conversationId) i).messages = i.messages ∧
      (actions.foldl (projectAction conversationId) i).actionReceipts = i.actionReceipts ∧
      (actions.foldl (projectAction conversationId) i).actionDigests = i.actionDigests
  | [], _ => ⟨rfl, rfl, rfl, rfl⟩
  | action :: actions, i => by
    have hrest := frame_foldl_projectAction conversationId actions
      (projectAction conversationId i action)
    have haction : (projectAction conversationId i action).conversations = i.conversations ∧
        (projectAction conversationId i action).messages = i.messages ∧
        (projectAction conversationId i action).actionReceipts = i.actionReceipts ∧
        (projectAction conversationId i action).actionDigests = i.actionDigests := by
      cases action <;> exact ⟨rfl, rfl, rfl, rfl⟩
    exact ⟨hrest.1.trans haction.1, hrest.2.1.trans haction.2.1, hrest.2.2.1.trans haction.2.2.1,
      hrest.2.2.2.trans haction.2.2.2⟩

private theorem frame_foldlM_projectCommitment :
    ∀ {commitments : List Commitment} {i t : InterfaceService},
      commitments.foldlM projectCommitment i = .ok t → Receipted origins i → Receipted origins t
  | [], i, t, h, hi => by
    obtain rfl := Checked.pure_eq_ok_iff.mp h
    exact hi
  | commitment :: commitments, i, t, h, hi => by
    obtain ⟨mid, hmid, hrest⟩ := Checked.bind_eq_ok_iff.mp h
    obtain ⟨-, hmid⟩ := Checked.check_bind_eq_ok_iff.mp hmid
    obtain rfl := Checked.pure_eq_ok_iff.mp hmid
    exact frame_foldlM_projectCommitment hrest (hi.frame rfl (fun _ h => h) rfl rfl)

/-- A recorded response renews the receipt of its action. -/
private theorem receipted_of_response (h : Receipted origins i)
    {response : InterfaceResponsePayload} {origin : ActionOrigin} {cursor : Nat}
    (horigin : origins response.actionId = some origin)
    (hdigest : origin.digest = response.actionDigest)
    (hmessageId : origin.message.messageId = response.ownerMessageId)
    (hconversation : origin.message.conversationId = response.message.conversationId)
    (happly : onInterfaceResponseRecorded response cursor i = .ok t) : Receipted origins t := by
  obtain ⟨appended, happend, happly⟩ := Checked.bind_eq_ok_iff.mp happly
  obtain ⟨session, -, happly⟩ := Checked.bind_eq_ok_iff.mp happly
  obtain rfl := Checked.pure_eq_ok_iff.mp happly
  have hframe := frame_foldl_projectAction response.message.conversationId response.actions
    { appended with
      pilotSessions := appended.pilotSessions.set session.pilotSessionId session }
  have hmid := (h.appendMessage happend).1.frame hframe.1
    (fun _ hcontains => by rw [hframe.2.1]; exact hcontains) hframe.2.2.1 hframe.2.2.2
  let receipt : ConversationActionReceipt :=
    { actionId := response.actionId
      conversationId := response.message.conversationId
      status := .completed
      ownerMessageId := response.ownerMessageId
      interfaceMessage := some response.message
      eventCursor := cursor
      error := none }
  have hreceipt : receipt.origin =
      (receipt.actionId, origin.message.conversationId, origin.message.messageId) := by
    rw [hconversation, hmessageId]
    rfl
  have hown : ∀ message ∈ receipt.interfaceMessage,
      message.conversationId = receipt.conversationId := by
    intro message hmessage
    obtain rfl := Option.some.inj hmessage
    rfl
  have hset := (hmid.setReceipt receipt horigin hreceipt hown).setDigest horigin
  rw [hdigest] at hset
  exact hset.frame rfl (fun _ h => h) rfl rfl

/-- **One event of a rebuild** leaves the service with the receipts that the ledger calls for. -/
theorem receipted_of_applyInterface (h : Receipted (originOf earlier) i)
    (hpermits : TurnPermits earlier stored) {payload : InterfacePayload}
    (hpayload : stored.event.payload = .interface payload)
    (happly : applyInterface stored.event payload stored.cursor i = .ok t) :
    Receipted (originOf (earlier ++ [stored])) t := by
  obtain ⟨mid, hmid, hnext⟩ := Checked.bind_eq_ok_iff.mp happly
  obtain rfl := Checked.pure_eq_ok_iff.mp hnext
  refine Receipted.frame (i := mid) ?_ rfl (fun _ h => h) rfl rfl
  have hsame (hother : ownerActionIn (.interface payload) = none) :
      originOf (earlier ++ [stored]) = originOf earlier :=
    originOf_concat_of_other (by rw [hpayload]; exact hother)
  rw [TurnPermits, hpayload] at hpermits
  cases payload with
  | conversationCreated conversation binding digest =>
    rw [hsame rfl]
    obtain rfl := Except.ok.inj hmid
    exact h.setConversation conversation rfl rfl rfl rfl
  | ownerMessageReceived actionId digest message =>
    obtain ⟨appended, happend, hmid⟩ := Checked.bind_eq_ok_iff.mp hmid
    obtain rfl := Checked.pure_eq_ok_iff.mp hmid
    have horigins : originOf (earlier ++ [stored]) = fun known => (originOf earlier known).or
        (if actionId = known then some ⟨digest, message⟩ else none) := by
      funext known
      rw [originOf_concat, hpayload]
      rfl
    rw [horigins]
    exact ((h.appendMessage happend).1.openAction hpermits rfl rfl).frame rfl (fun _ h => h) rfl rfl
  | interfaceResponseRecorded response =>
    rw [hsame rfl]
    obtain ⟨origin, horigin, hdigest, hmessageId, hconversation⟩ := hpermits
    exact receipted_of_response h horigin hdigest hmessageId hconversation hmid
  | reorientationSessionAdvanced pilotSessionId rootId providerId =>
    rw [hsame rfl]
    obtain ⟨session, -, hmid⟩ := Checked.bind_eq_ok_iff.mp hmid
    obtain ⟨-, hmid⟩ := Checked.check_bind_eq_ok_iff.mp hmid
    obtain rfl := Checked.pure_eq_ok_iff.mp hmid
    exact h.frame rfl (fun _ h => h) rfl rfl
  | historyCommitmentsMaterialized commitments resultEventIds =>
    rw [hsame rfl]
    obtain ⟨-, hmid⟩ := Checked.check_bind_eq_ok_iff.mp hmid
    obtain ⟨materialized, hmaterialized, hmid⟩ := Checked.bind_eq_ok_iff.mp hmid
    obtain rfl := Checked.pure_eq_ok_iff.mp hmid
    exact (frame_foldlM_projectCommitment hmaterialized h).frame rfl (fun _ h => h) rfl rfl
  | conversationActionFailed actionId digest ownerMessageId error =>
    rw [hsame rfl]
    obtain ⟨previous, hprevious, hmid⟩ := Checked.orRaise_bind_eq_ok_iff.mp hmid
    obtain rfl := Checked.pure_eq_ok_iff.mp hmid
    obtain ⟨origin, horigin, rfl, hconversation, hmessageId⟩ := h.of_get? hprevious
    have hown := h.own_messages _ _ hprevious
    let receipt : ConversationActionReceipt :=
      { previous with status := .failed, eventCursor := stored.cursor, error := some error }
    have hset := h.setReceipt receipt horigin
      (by rw [← hconversation, ← hmessageId]; rfl) hown
    exact hset.frame rfl (fun _ h => h) rfl rfl
  | legacyConversationCreated conversation =>
    rw [hsame rfl]
    obtain rfl := Except.ok.inj hmid
    exact h.setConversation conversation rfl rfl rfl rfl
  | legacyConversationMessageImported message rawBlobRef =>
    rw [hsame rfl]
    obtain ⟨-, hmid⟩ := Checked.check_bind_eq_ok_iff.mp hmid
    exact (h.appendMessage hmid).1
  | reorientationAssessmentMaterialized | ownerCorrectionRecorded | legacyDecisionImported
  | legacyCommitmentImported | legacyNodeMemoryImported =>
    rw [hsame rfl]
    obtain rfl := Except.ok.inj hmid
    exact h.frame rfl (fun _ h => h) rfl rfl

/-- **A rebuild restores the receipts** that the ledger calls for. -/
theorem receipted_of_replay {events : List StoredEvent} {dataSpace : DataSpace}
    {p : OperationalProjection} (hlaw : EventSourcing.Lawful TurnPermits events)
    (h : EventSourcing.replay OperationalProjection.applyStored (.fresh dataSpace) events = .ok p) :
    Receipted (originOf events) p.interface := by
  refine EventSourcing.replay_lawful OperationalProjection.applyStored
    (I := fun events view => Receipted (originOf events) view.interface) ?_ hlaw
    (Receipted.new _) h
  intro earlier reached stored next hpermits hreached happly
  rcases interface_of_applyStored happly with ⟨payload, hpayload, happlied⟩ | ⟨hother, hsame⟩
  · exact receipted_of_applyInterface hreached hpermits hpayload happlied
  · rw [hsame, originOf_concat_of_other]
    · exact hreached
    · unfold ownerActionIn
      split
      · next hpayload => exact absurd hpayload (hother _)
      · rfl

end Rebuild

/-! ### The data space -/

variable [Sha256] {s s' : MemorySystem} {event : EventEnvelope}
  {origins : Identifier → Option ActionOrigin}

/-- **The law of owner turns** in a data space: no action has two owner messages, responses answer
them, and the Interface service keeps the receipts that the ledger calls for. -/
structure TurnLaw (s : MemorySystem) : Prop extends s.KernelSynced where
  others_known : s.OthersKnown
  lawful : EventSourcing.Lawful TurnPermits s.ledger.events
  receipted : Receipted (originOf s.ledger.events) s.interface

/-- The law, while no owner message is recorded. -/
structure TurnLawAt (origins : Identifier → Option ActionOrigin) (s : MemorySystem) : Prop
    extends TurnLaw s where
  origins_eq : originOf s.ledger.events = origins

omit [Sha256] in
theorem turnLaw_new (dataSpace : DataSpace) : TurnLaw (.new dataSpace) where
  toKernelSynced := System.kernelSynced_new dataSpace
  others_known _ h := by cases h
  lawful := EventSourcing.lawful_nil _
  receipted := .new _

omit [Sha256] in
theorem TurnLaw.at (h : TurnLaw s) : TurnLawAt (originOf s.ledger.events) s := ⟨h, rfl⟩

namespace TurnLawAt

theorem putBlob (h : TurnLawAt origins s) (data : Document) : TurnLawAt origins (s.putBlob data) :=
  ⟨⟨System.kernelSynced_putBlob h.toKernelSynced data, h.others_known, h.lawful, h.receipted⟩,
    h.origins_eq⟩

omit [Sha256] in
/-- An event of the ledger that opens no action. -/
private theorem lawful_next (h : TurnLawAt origins s) (hstep : s.Stepped event s')
    (hother : ownerActionIn event.payload = none)
    (hpermits : TurnPermits s.ledger.events (s.ledger.store event)) :
    EventSourcing.Lawful TurnPermits s'.ledger.events ∧ originOf s'.ledger.events = origins := by
  rw [hstep.events]
  exact ⟨EventSourcing.lawful_concat_iff.mpr ⟨h.lawful, hpermits⟩,
    (originOf_concat_of_other hother).trans h.origins_eq⟩

omit [Sha256] in
/-- An event of another service. -/
theorem mirrored (h : TurnLawAt origins s) (hpayload : event.payload.NotInterface)
    (hstep : s.Mirrored event s') : TurnLawAt origins s' := by
  have hother : ownerActionIn event.payload = none := by
    unfold ownerActionIn
    split
    · next heq => exact absurd heq (hpayload _)
    · rfl
  have hpermits : TurnPermits s.ledger.events (s.ledger.store event) := by
    unfold TurnPermits
    split
    · next heq => exact absurd heq (hpayload _)
    · next heq => exact absurd heq (hpayload _)
    · trivial
  obtain ⟨hlawful, horigins⟩ := h.lawful_next hstep.stepped hother hpermits
  refine ⟨⟨System.kernelSynced_of_stepped h.toKernelSynced hstep.stepped,
    h.others_known.of_mirrored hstep, hlawful, ?_⟩, horigins⟩
  rw [horigins, ← h.origins_eq, hstep.interface_eq hpayload]
  exact h.receipted

/-- **Requests to other services** keep the law and record no owner message. -/
theorem reaches (h : TurnLawAt origins s) {P : EventPayload → Prop}
    (hP : ∀ payload, P payload → payload.NotInterface) (hreaches : System.Reaches P s s') :
    TurnLawAt origins s' :=
  hreaches.invariant (fun _ _ _ hmid hpayload hstep => hmid.mirrored (hP _ hpayload) hstep)
    (fun _ data hmid => hmid.putBlob data) h

omit [Sha256] in
/-- **An event of the Interface service** that opens no action. -/
theorem interfaceStep (h : TurnLawAt origins s) {payload : InterfacePayload} {i : InterfaceService}
    (happ : s.ledger.Appendable event) (hpayload : event.payload = .interface payload)
    (hnext : event.streamVersion = s.interface.versions.getD event.streamId 0 + 1)
    (hother : ownerActionIn (.interface payload) = none)
    (hpermits : TurnPermits s.ledger.events (s.ledger.store event))
    (hversions : i.versions = (s.interface.advanced s.ledger event).versions)
    (hreceipted : Receipted origins i) : TurnLawAt origins (s.interfaceStep event happ i) := by
  have hstep := System.interfaceStepped happ hpayload hnext hversions
  obtain ⟨hlawful, horigins⟩ := h.lawful_next hstep.stepped (by rw [hpayload]; exact hother)
    hpermits
  exact ⟨⟨hstep.kernelSynced h.toKernelSynced, hstep.othersKnown h.others_known, hlawful,
    horigins.symm ▸ hreceipted⟩, horigins⟩

omit [Sha256] in
/-- A change of the Interface service in memory. -/
theorem write (h : TurnLawAt origins s) {i : InterfaceService}
    (hversions : i.versions = s.interface.versions) (hreceipted : Receipted origins i) :
    TurnLawAt origins { s with interface := i } := by
  refine ⟨⟨{ h.toKernelSynced with kernel_versions := ?_ }, ?_, h.lawful,
    h.origins_eq.symm ▸ hreceipted⟩, h.origins_eq⟩
  · intro stored hstored hown
    have hle := h.kernel_versions stored hstored hown
    revert hle hown
    cases stored.event.payload with
    | kernel | activation | ownerAuth => exact fun _ hle => hle
    | interface | tokenLab | routing | environment | external => exact fun hown => by cases hown
  · intro stored hstored hother
    have hle := h.others_known stored hstored hother
    revert hle hother
    cases stored.event.payload with
    | interface payload =>
      intro _ hle
      simp only [System.writerVersion, hversions] at hle ⊢
      exact hle
    | tokenLab | routing | environment | external => exact fun _ hle => hle
    | kernel | activation | ownerAuth => exact fun hother => by cases hother

end TurnLawAt

/-! ### Programs that record no owner message -/

/-- A program whose every run requests something of another service. -/
theorem preserves_of_reaches {α : Type} {x : SystemM InMemoryOperationalLedger α}
    {P : EventPayload → Prop} (hP : ∀ payload, P payload → payload.NotInterface)
    (hx : ∀ s, TurnLaw s → System.Reaches P s (x.finalState s)) :
    EStateM.Preserves (TurnLawAt origins) x :=
  .of_final fun s hs => hs.reaches hP (hx s hs.toTurnLaw)

/-- **A recording of the Interface service** that opens no action, is permitted and whose
assignments keep the receipts. -/
theorem preserves_turnRecording {r : Recording InterfaceService} {payload : InterfacePayload}
    (hr : r.payload = .interface payload) (hother : ownerActionIn (.interface payload) = none)
    (hpermits : ∀ s, TurnLawAt origins s → ∀ stored : StoredEvent,
      stored.event.payload = .interface payload → TurnPermits s.ledger.events stored)
    (hupdate : ∀ event result versions, EStateM.Preserves
      (fun i => i.versions = versions ∧ Receipted origins i) (r.update event result)) :
    EStateM.Preserves (TurnLawAt origins) (record r) := by
  refine .of_final fun s hs => ?_
  rcases record_interface hs.others_known hr with
    ⟨e, herror⟩ | ⟨event, happ, hdescribes, hnext, hok, herror⟩
  · rw [EStateM.finalState_of_error herror]
    exact hs
  have hpayload := hdescribes.payload.trans hr
  have hstart : Receipted origins (s.interface.advanced s.ledger event) := by
    rw [← hs.origins_eq]
    exact hs.receipted.frame rfl (fun _ h => h) rfl rfl
  have hafter := (hupdate event (appendedResult s.ledger event)
    (s.interface.advanced s.ledger event).versions).final ⟨rfl, hstart⟩
  have hstep (i : InterfaceService)
      (hi : i.versions = (s.interface.advanced s.ledger event).versions ∧ Receipted origins i) :
      TurnLawAt origins (s.interfaceStep event happ i) :=
    hs.interfaceStep happ hpayload hnext hother (hpermits s hs _ hpayload) hi.1 hi.2
  cases hrun : r.update event (appendedResult s.ledger event)
      (s.interface.advanced s.ledger event) with
  | ok _ i =>
    rw [EStateM.finalState_of_ok hrun] at hafter
    rw [EStateM.finalState_of_ok (hok i hrun)]
    exact hstep i hafter
  | error e i =>
    rw [EStateM.finalState_of_error hrun] at hafter
    rw [EStateM.finalState_of_error (herror e i hrun)]
    exact hstep i hafter

/-- A check of the Interface service, followed by a recording. -/
theorem preserves_performTurn
    {plan : MemorySystem → Except VsmError (Recording InterfaceService)}
    (hplan : ∀ s r, plan s = .ok r → EStateM.Preserves (TurnLawAt origins) (record r)) :
    EStateM.Preserves (TurnLawAt origins) (perform plan) := by
  refine .of_final fun s hs => ?_
  rw [perform, EStateM.finalState_get_bind]
  cases h : plan s with
  | error e => exact hs
  | ok r => exact (hplan s r h).final hs

omit [Sha256] in
/-- Assignments to the Interface service that keep the receipts. -/
theorem preserves_assignment {f : InterfaceService → InterfaceService}
    (hversions : ∀ i, (f i).versions = i.versions)
    (hreceipted : ∀ i, Receipted origins i → Receipted origins (f i)) :
    EStateM.Preserves (TurnLawAt origins)
      (EStateM.zoom (modify f) : SystemM InMemoryOperationalLedger Unit) := by
  refine .of_final fun s hs => ?_
  rw [EStateM.finalState_zoom]
  refine hs.write (hversions _) (hreceipted _ ?_)
  rw [← hs.origins_eq]
  exact hs.receipted

omit [Sha256] in
/-- A recording whose assignments leave receipts, conversations and versions alone. -/
private theorem preserves_frame {f : InterfaceService → InterfaceService}
    {versions : OrderedDict String Nat}
    (hframe : ∀ i, (f i).versions = i.versions ∧ (f i).conversations = i.conversations ∧
      (f i).messages = i.messages ∧ (f i).actionReceipts = i.actionReceipts ∧
      (f i).actionDigests = i.actionDigests) :
    EStateM.Preserves (fun i => i.versions = versions ∧ Receipted origins i)
      (modify f : EStateM VsmError InterfaceService Unit) := by
  refine .modify fun i hi => ?_
  obtain ⟨hversions, hconversations, hmessages, hreceipts, hdigests⟩ := hframe i
  exact ⟨hversions.trans hi.1,
    hi.2.frame hconversations (fun _ h => by rw [hmessages]; exact h) hreceipts hdigests⟩

omit [Sha256] in
private theorem preserves_storeCommitment {versions : OrderedDict String Nat}
    (commitment : Commitment) :
    EStateM.Preserves (fun i => i.versions = versions ∧ Receipted origins i)
      (InterfaceService.storeCommitment commitment) :=
  .bind .get fun _ => .bind (.ofExcept _) fun _ =>
    preserves_frame fun _ => ⟨rfl, rfl, rfl, rfl, rfl⟩

omit [Sha256] in
private theorem permits_of_neither {earlier : List StoredEvent} {payload : InterfacePayload}
    (hother : ownerActionIn (.interface payload) = none)
    (hresponse : ∀ response, payload ≠ .interfaceResponseRecorded response) (stored : StoredEvent)
    (hpayload : stored.event.payload = .interface payload) : TurnPermits earlier stored := by
  rw [TurnPermits, hpayload]
  cases payload with
  | ownerMessageReceived => cases hother
  | interfaceResponseRecorded response => exact absurd rfl (hresponse response)
  | _ => trivial

/-- A conversation is created. -/
theorem preserves_createConversation (conversation : Conversation) (surfaceBinding : SurfaceBinding)
    (key : String) (clock : Clock) : EStateM.Preserves (TurnLawAt origins)
      (createConversation conversation surfaceBinding key clock) := by
  refine .of_final fun s hs => ?_
  rw [createConversation, EStateM.finalState_get_bind]
  cases hplan : s.interface.createConversation s.kernel conversation surfaceBinding key clock with
  | error e => exact hs
  | ok answer =>
    rw [EStateM.finalState_ofExcept_ok_bind]
    cases answer with
    | inl prior => exact hs
    | inr r =>
      rw [EStateM.finalState_bind_pure]
      refine EStateM.Preserves.final ?_ hs
      rw [InterfaceService.createConversation_eq_inr hplan]
      refine preserves_turnRecording rfl rfl
        (fun _ _ => permits_of_neither rfl fun _ h => by cases h) fun event result versions => ?_
      exact .modify fun i hi => ⟨hi.1, hi.2.setConversation conversation rfl rfl rfl rfl⟩

/-- **A command of the Interface service** keeps the law and records no owner message. -/
theorem preserves_interfaceCommand (c : InterfaceCommand) (clock : Clock) :
    EStateM.Preserves (TurnLawAt origins) (c.run clock) := by
  cases c with
  | createConversation conversation surfaceBinding key =>
    exact .bind (preserves_createConversation _ _ _ _) fun _ => .pure _
  | recordReorientationSession conversationId providerSessionId actorId key newSessionId =>
    refine .bind (preserves_performTurn fun s r h => ?_) fun _ => .pure _
    obtain ⟨-, h⟩ := Checked.check_bind_eq_ok_iff.mp h
    obtain rfl := Checked.pure_eq_ok_iff.mp h
    exact preserves_turnRecording rfl rfl
      (fun _ _ => permits_of_neither rfl fun _ h => by cases h) fun _ _ _ =>
        .bind (.ofExcept _) fun _ => preserves_frame fun _ => ⟨rfl, rfl, rfl, rfl, rfl⟩
  | materializeHistoryCommitments conversationId commitments eventIds actorId key =>
    refine .bind (preserves_performTurn fun s r h => ?_) fun _ => .pure _
    iterate 3 obtain ⟨-, h⟩ := Checked.check_bind_eq_ok_iff.mp h
    obtain rfl := Checked.pure_eq_ok_iff.mp h
    exact preserves_turnRecording rfl rfl
      (fun _ _ => permits_of_neither rfl fun _ h => by cases h) fun _ _ _ =>
        .forM fun commitment _ => preserves_storeCommitment commitment
  | materializeReorientationAssessment assessment actorId key newMemoryId newDecisionId =>
    refine .bind (preserves_performTurn fun s r h => ?_) fun _ => .pure _
    obtain ⟨conversation, -, h⟩ := Checked.orRaise_bind_eq_ok_iff.mp h
    split at h
    · cases h
    · obtain rfl := Checked.pure_eq_ok_iff.mp h
      exact preserves_turnRecording rfl rfl
        (fun _ _ => permits_of_neither rfl fun _ h => by cases h) fun _ _ _ =>
          preserves_frame fun _ => ⟨rfl, rfl, rfl, rfl, rfl⟩
  | recordOwnerCorrection conversationId statement actorId key newDecisionId =>
    refine .bind (preserves_performTurn fun s r h => ?_) fun _ => .pure _
    obtain ⟨-, h⟩ := Checked.check_bind_eq_ok_iff.mp h
    split at h
    · cases h
    · obtain rfl := Checked.pure_eq_ok_iff.mp h
      exact preserves_turnRecording rfl rfl
        (fun _ _ => permits_of_neither rfl fun _ h => by cases h) fun _ _ _ =>
          preserves_frame fun _ => ⟨rfl, rfl, rfl, rfl, rfl⟩

/-! ### The second part of a turn -/

/-- A command of the Kernel within a turn. -/
private theorem preserves_kernelCommand (c : KernelCommand) (clock : Clock) :
    EStateM.Preserves (TurnLawAt origins)
      (c.run clock : SystemM InMemoryOperationalLedger Unit) :=
  preserves_of_reaches (fun _ => EventPayload.notInterface_of_ofKernel) fun _ hs =>
    c.reaches hs.toKernelSynced clock

/-- **One action of an answer** keeps the law. -/
theorem preserves_applyAction (conversation : Conversation) (clock : Nat → Clock)
    (action : InterfaceAction) :
    EStateM.Preserves (TurnLawAt origins) (applyAction conversation clock action) := by
  cases action with
  | createWorkItem action =>
    exact .bind (preserves_kernelCommand _ _) fun _ => .forM fun _ _ => preserves_kernelCommand _ _
  | delegateWorkItem action =>
    rw [applyAction]
    exact preserves_kernelCommand _ _
  | recordDecision action =>
    rw [applyAction]
    exact preserves_assignment (fun _ => rfl) fun _ hi => hi.frame rfl (fun _ h => h) rfl rfl
  | updateCommitment action =>
    rw [applyAction]
    exact preserves_assignment (fun _ => rfl) fun _ hi => hi.frame rfl (fun _ h => h) rfl rfl
  | readHistory action => exact .throw _
  | submitReorientation action => exact .throw _
  | selectPilot action => exact .bind .get fun _ => .ofExcept _
  | planEffect action =>
    rw [applyAction]
    exact preserves_kernelCommand _ _
  | proposeCompletion action =>
    rw [applyAction]
    exact preserves_kernelCommand _ _

/-- The turn's owner message is recorded. -/
structure OwnerTurn.Opened (origins : Identifier → Option ActionOrigin) (turn : OwnerTurn) :
    Prop where
  recorded : origins turn.action.actionId = some ⟨turn.actionDigest, turn.ownerMessage⟩
  conversation : turn.conversation.conversationId = turn.ownerMessage.conversationId
  accepted : ∃ cursor, turn.accepted = acceptedReceipt turn.action turn.ownerMessage cursor

section Finish

variable {turn : OwnerTurn}

omit [Sha256] in
private theorem preserves_appendMessage {versions : OrderedDict String Nat}
    (message : ConversationMessage) :
    EStateM.Preserves (fun i => i.versions = versions ∧ Receipted origins i)
      (do
        let i ← get
        set (← EStateM.ofExcept (i.appendMessage message)) :
        EStateM VsmError InterfaceService Unit) := by
  refine .of_final fun i hi => ?_
  rw [EStateM.finalState_get_bind]
  cases happend : i.appendMessage message with
  | error e => exact hi
  | ok t =>
    obtain ⟨hreceipted, hversions⟩ := hi.2.appendMessage happend
    exact ⟨hversions.trans hi.1, hreceipted⟩

theorem preserves_responseRecording (hopened : turn.Opened origins)
    (response : StructuredInterfaceResponse) (draws : TurnDraws) (prior : Option PilotSession) :
    EStateM.Preserves (TurnLawAt origins)
      (record (turn.responseRecording response draws prior)) := by
  refine preserves_turnRecording rfl rfl (fun s hs stored hpayload => ?_)
    fun _ _ _ => preserves_appendMessage _
  rw [TurnPermits, hpayload, hs.origins_eq]
  exact ⟨_, hopened.recorded, rfl, rfl, hopened.conversation.symm⟩

theorem preserves_completeAction (hopened : turn.Opened origins)
    (response : StructuredInterfaceResponse) (draws : TurnDraws) :
    EStateM.Preserves (TurnLawAt origins) (turn.completeAction response draws) := by
  refine .bind .get fun s => .bind (preserves_responseRecording hopened response draws _)
    fun answer => .bind ?_ fun _ => .bind (.ofExcept _) fun session => .bind ?_ fun _ => .bind ?_
      fun _ => .bind ?_ fun _ => .pure _
  · refine preserves_of_reaches (P := EventPayload.NotInterface) (fun _ h => h) fun s hs => ?_
    exact reaches_performTokenLab hs.others_known fun r h =>
      ⟨_, TokenLabEventService.replayable_observe h⟩
  · exact preserves_assignment (fun _ => rfl) fun _ hi => hi.frame rfl (fun _ h => h) rfl rfl
  · exact .forM fun _ _ => preserves_applyAction _ _ _
  · refine preserves_assignment (fun _ => rfl) fun i hi => ?_
    refine hi.setReceipt (turn.completedReceipt (turn.interfaceMessage response draws)
      answer.2.cursor) hopened.recorded ?_ ?_
    · rw [← hopened.conversation]
      rfl
    · intro message hmessage
      obtain rfl := Option.some.inj hmessage
      rfl

theorem preserves_failAction (hopened : turn.Opened origins) (e : VsmError) (draws : TurnDraws) :
    EStateM.Preserves (TurnLawAt origins) (turn.failAction e draws) := by
  refine .bind (preserves_turnRecording rfl rfl
    (fun _ _ => permits_of_neither rfl fun _ h => by cases h) fun event result versions => ?_)
    fun _ => .pure _
  refine .modify fun i hi => ⟨hi.1, ?_⟩
  obtain ⟨cursor, haccepted⟩ := hopened.accepted
  have hrecorded : origins (turn.failedReceipt e result.cursor).actionId =
      some ⟨turn.actionDigest, turn.ownerMessage⟩ := by
    rw [OwnerTurn.failedReceipt, haccepted]
    exact hopened.recorded
  have hset := hi.2.setReceipt (turn.failedReceipt e result.cursor) hrecorded ?_ ?_
  · rw [OwnerTurn.failedReceipt, haccepted] at hset ⊢
    exact hset
  · rw [OwnerTurn.failedReceipt, haccepted]
    rfl
  · rw [OwnerTurn.failedReceipt, haccepted]
    exact fun _ h => by cases h

/-- **The second part of a turn** keeps the law and records no owner message, whatever the Pilot
answers and whatever fails. -/
theorem preserves_finishOwnerAction (hopened : turn.Opened origins)
    (answer : Except VsmError StructuredInterfaceResponse) (draws : TurnDraws) :
    EStateM.Preserves (TurnLawAt origins) (finishOwnerAction turn answer draws) := by
  refine .tryCatch ?_ fun e => preserves_failAction hopened e draws
  exact .bind (.ofExcept _) fun response => .bind .get fun _ => .bind (.ofExcept _) fun _ =>
    preserves_completeAction hopened response draws

end Finish

/-! ### The first part of a turn -/

section Begin

variable {conversationId deviceId : String} {conversation : Conversation}
  {action : OwnerMessageAction} {newMessageId : Identifier} {clock : Clock}

/-- The Interface service after an owner message was recorded and written down. -/
def InterfaceService.opened (appended : InterfaceService) (action : OwnerMessageAction)
    (ownerMessage : ConversationMessage) (cursor : Nat) : InterfaceService :=
  { appended with
    actionReceipts := appended.actionReceipts.set action.actionId
      (acceptedReceipt action ownerMessage cursor)
    actionDigests := appended.actionDigests.set action.actionId (hexdigest (.ownerAction action)) }

/-- The turn that waits for the Pilot. -/
def waitingTurn (conversationId : String) (conversation : Conversation)
    (action : OwnerMessageAction) (newMessageId : Identifier) (cursor : Nat)
    (context : InterfaceTurn) : OwnerTurn where
  conversation := conversation
  action := action
  actionDigest := hexdigest (.ownerAction action)
  ownerMessage := ownerMessageOf conversationId action newMessageId
  accepted := acceptedReceipt action (ownerMessageOf conversationId action newMessageId) cursor
  context := context

variable (conversation action newMessageId clock) in
/-- **Opening a turn** is refused with nothing recorded, or the owner message is recorded and
written down, and the turn waits with what the Pilot is told. -/
theorem openTurn_cases (hknown : s.OthersKnown)
    (hlisted : s.interface.messages.contains conversationId = true) :
    (∃ e, openTurn conversationId conversation action newMessageId clock s =
      .error e (s.putBlob (.text action.text))) ∨
    ∃ event appended, ∃ happ : (s.putBlob (.text action.text)).ledger.Appendable event,
      event.payload = .interface (.ownerMessageReceived action.actionId
        (hexdigest (.ownerAction action)) (ownerMessageOf conversationId action newMessageId)) ∧
      event.streamId = conversationId ∧
      event.streamVersion = s.interface.versions.getD event.streamId 0 + 1 ∧
      (s.interface.advanced s.ledger event).appendMessage
        (ownerMessageOf conversationId action newMessageId) = .ok appended ∧
      let s' := (s.putBlob (.text action.text)).interfaceStep event happ
        (appended.opened action (ownerMessageOf conversationId action newMessageId)
          (s.ledger.events.length + 1))
      (∀ context, turnContext s' conversationId conversation (blobRef (.text action.text))
          (s.ledger.events.length + 1) = .ok context →
        openTurn conversationId conversation action newMessageId clock s =
          .ok (waitingTurn conversationId conversation action newMessageId
            (s.ledger.events.length + 1) context) s') ∧
      ∀ e, turnContext s' conversationId conversation (blobRef (.text action.text))
          (s.ledger.events.length + 1) = .error e →
        openTurn conversationId conversation action newMessageId clock s = .error e s' := by
  let stored := s.putBlob (.text action.text)
  let r := ownerMessageRecording conversation action
    (ownerMessageOf conversationId action newMessageId) clock
  have hopen : openTurn conversationId conversation action newMessageId clock s =
      (record r >>= fun answer => get >>= fun s =>
        EStateM.ofExcept (turnContext s conversationId conversation (blobRef (.text action.text))
          answer.2.cursor) >>= fun context => pure (waitingTurn conversationId conversation action
            newMessageId answer.2.cursor context)) stored := rfl
  rcases record_interface (s := stored) hknown (r := r) rfl with
    ⟨e, herror⟩ | ⟨event, happ, hdescribes, hnext, hok, herror⟩
  · left
    rw [hopen, EStateM.run_bind_of_error herror]
    exact ⟨e, rfl⟩
  right
  -- The conversation has a message list, so the message is written down.
  obtain ⟨messages, hmessages⟩ := Option.isSome_iff_exists.mp hlisted
  have hentry : (stored.interface.advanced stored.ledger event).messages.get? conversationId =
      some messages := hmessages
  have happend : (stored.interface.advanced stored.ledger event).appendMessage
      (ownerMessageOf conversationId action newMessageId) = .ok
        { stored.interface.advanced stored.ledger event with
          messages := stored.interface.messages.set conversationId
            (messages ++ [ownerMessageOf conversationId action newMessageId]) } := by
    rw [InterfaceService.appendMessage]
    change (entry ((stored.interface.advanced stored.ledger event).messages.get? conversationId)
      conversationId >>= _) = _
    rw [hentry]
    rfl
  have hrecord := hok
    (InterfaceService.opened { stored.interface.advanced stored.ledger event with
      messages := stored.interface.messages.set conversationId
        (messages ++ [ownerMessageOf conversationId action newMessageId]) } action
        (ownerMessageOf conversationId action newMessageId) (s.ledger.events.length + 1)) (by
      change (EStateM.ofExcept ((stored.interface.advanced stored.ledger event).appendMessage
        (ownerMessageOf conversationId action newMessageId)) >>= _) _ = _
      rw [happend]
      rfl)
  refine ⟨event, _, happ, hdescribes.payload, hdescribes.stream, hnext, happend, ?_, ?_⟩
  · intro context hcontext
    rw [hopen, EStateM.run_bind_of_ok hrecord, EStateM.run_get_bind]
    change (EStateM.ofExcept (turnContext _ _ _ _ (s.ledger.events.length + 1)) >>= _) _ = _
    rw [hcontext]
    rfl
  · intro e hcontext
    rw [hopen, EStateM.run_bind_of_ok hrecord, EStateM.run_get_bind]
    change (EStateM.ofExcept (turnContext _ _ _ _ (s.ledger.events.length + 1)) >>= _) _ = _
    rw [hcontext]
    rfl

/-- **An admitted request** is the first of its action, or is answered with the receipt. -/
theorem admitOwnerAction_eq_ok {admitted : ConversationActionReceipt ⊕ Conversation}
    (h : admitOwnerAction s conversationId action deviceId = .ok admitted) :
    (∃ prior, admitted = .inl prior ∧
      s.interface.actionReceipts.get? action.actionId = some prior ∧
      s.interface.actionDigests.get? action.actionId = some (hexdigest (.ownerAction action))) ∨
    ∃ conversation, admitted = .inr conversation ∧
      s.interface.conversations.get? conversationId = some conversation ∧
      s.interface.actionReceipts.get? action.actionId = none ∧
      s.interface.IsBound conversationId action deviceId := by
  obtain ⟨-, h⟩ := Checked.check_bind_eq_ok_iff.mp h
  obtain ⟨conversation, hconversation, h⟩ := Checked.orRaise_bind_eq_ok_iff.mp h
  cases hprior : s.interface.actionReceipts.get? action.actionId with
  | some prior =>
    simp only [hprior] at h
    obtain ⟨digest, hdigest, h⟩ := Checked.orRaise_bind_eq_ok_iff.mp h
    obtain ⟨hsame, h⟩ := Checked.check_bind_eq_ok_iff.mp h
    obtain rfl := Checked.pure_eq_ok_iff.mp h
    exact Or.inl ⟨prior, rfl, rfl, hsame ▸ hdigest⟩
  | none =>
    simp only [hprior] at h
    obtain ⟨hbound, h⟩ := Checked.check_bind_eq_ok_iff.mp h
    obtain rfl := Checked.pure_eq_ok_iff.mp h
    exact Or.inr ⟨conversation, rfl, hconversation, rfl, hbound⟩

/-- **A recorded owner message** opens its action and keeps the law. -/
theorem TurnLaw.opened (hs : TurnLaw s) {appended : InterfaceService} (cursor : Nat)
    (happ : (s.putBlob (.text action.text)).ledger.Appendable event)
    (hfresh : originOf s.ledger.events action.actionId = none)
    (hpayload : event.payload = .interface (.ownerMessageReceived action.actionId
      (hexdigest (.ownerAction action)) (ownerMessageOf conversationId action newMessageId)))
    (hnext : event.streamVersion = s.interface.versions.getD event.streamId 0 + 1)
    (happend : (s.interface.advanced s.ledger event).appendMessage
      (ownerMessageOf conversationId action newMessageId) = .ok appended) :
    TurnLaw ((s.putBlob (.text action.text)).interfaceStep event happ
      (appended.opened action (ownerMessageOf conversationId action newMessageId) cursor)) := by
  have hstored := (hs.at.putBlob (.text action.text)).toTurnLaw
  have hstart : Receipted (originOf s.ledger.events) (s.interface.advanced s.ledger event) :=
    hs.receipted.frame rfl (fun _ h => h) rfl rfl
  obtain ⟨happended, hversions⟩ := hstart.appendMessage happend
  have hstep := System.interfaceStepped (s := s.putBlob (.text action.text))
    (i := appended.opened action (ownerMessageOf conversationId action newMessageId) cursor)
    happ hpayload hnext hversions
  refine ⟨hstep.kernelSynced hstored.toKernelSynced, hstep.othersKnown hstored.others_known,
    ?_, ?_⟩
  · rw [hstep.stepped.events]
    refine EventSourcing.lawful_concat_iff.mpr ⟨hs.lawful, ?_⟩
    have hpermitted : ((s.putBlob (.text action.text)).ledger.store event).event.payload = _ :=
      hpayload
    rw [TurnPermits, hpermitted]
    exact hfresh
  · rw [hstep.stepped.events]
    have horigins : originOf (s.ledger.events ++ [(s.putBlob (.text action.text)).ledger.store
        event]) = fun known => (originOf s.ledger.events known).or
          (if action.actionId = known then some ⟨hexdigest (.ownerAction action),
            ownerMessageOf conversationId action newMessageId⟩ else none) := by
      funext known
      rw [originOf_concat]
      change (originOf s.ledger.events known).or (originIn known event.payload) = _
      rw [hpayload]
      rfl
    change Receipted (originOf (s.ledger.events ++ _)) _
    rw [horigins]
    exact happended.openAction hfresh rfl rfl

/-- What a request to perform an owner action leaves behind. -/
inductive Begun (s : MemorySystem) (conversationId : String) (action : OwnerMessageAction)
    (deviceId : String) (newMessageId : Identifier) :
    EStateM.Result VsmError MemorySystem (ConversationActionReceipt ⊕ OwnerTurn) → Prop
  | refused (e : VsmError) : Begun s conversationId action deviceId newMessageId (.error e s)
  | repeated (prior : ConversationActionReceipt)
      (known : s.interface.actionReceipts.get? action.actionId = some prior)
      (same : s.interface.actionDigests.get? action.actionId =
        some (hexdigest (.ownerAction action))) :
      Begun s conversationId action deviceId newMessageId (.ok (.inl prior) s)
  | unrecorded (e : VsmError) : Begun s conversationId action deviceId newMessageId
      (.error e (s.putBlob (.text action.text)))
  | unopened (e : VsmError) (s' : MemorySystem) (event : EventEnvelope)
      (events : s'.ledger.events = s.ledger.events ++ [⟨s.ledger.events.length + 1, event⟩])
      (law : TurnLaw s') :
      Begun s conversationId action deviceId newMessageId (.error e s')
  | opened (turn : OwnerTurn) (s' : MemorySystem) (event : EventEnvelope)
      (bound : s.interface.IsBound conversationId action deviceId)
      (digest : turn.actionDigest = hexdigest (.ownerAction action))
      (fresh : originOf s.ledger.events action.actionId = none)
      (events : s'.ledger.events = s.ledger.events ++ [⟨s.ledger.events.length + 1, event⟩])
      (law : TurnLaw s') (action_eq : turn.action = action)
      (message : turn.ownerMessage = ownerMessageOf conversationId action newMessageId)
      (recorded : turn.Opened (originOf s'.ledger.events)) :
      Begun s conversationId action deviceId newMessageId (.ok (.inr turn) s')

/-- **The first part of a turn**, in every case. -/
theorem begun_beginOwnerAction (hs : TurnLaw s) (conversationId : String)
    (action : OwnerMessageAction) (deviceId : String) (newMessageId : Identifier) (clock : Clock) :
    Begun s conversationId action deviceId newMessageId
      (beginOwnerAction conversationId action deviceId newMessageId clock s) := by
  rw [beginOwnerAction, EStateM.run_get_bind]
  cases hadmit : admitOwnerAction s conversationId action deviceId with
  | error e => exact .refused e
  | ok admitted =>
    rw [EStateM.run_ofExcept_ok_bind]
    rcases admitOwnerAction_eq_ok hadmit with
      ⟨prior, rfl, hknown, hsame⟩ | ⟨conversation, rfl, hconversation, hnew, hbound⟩
    · exact .repeated prior hknown hsame
    have hfresh := hs.receipted.origin_eq_none hnew
    have hlisted := hs.receipted.messages_listed conversationId
      (Option.isSome_iff_exists.mpr ⟨conversation, hconversation⟩)
    rcases openTurn_cases conversation action newMessageId clock hs.others_known hlisted with
      ⟨e, herror⟩ | ⟨event, appended, happ, hpayload, -, hnext, happend, hok, herror⟩
    · change Begun _ _ _ _ _ ((openTurn conversationId conversation action newMessageId clock >>=
        fun turn => pure (.inr turn)) s)
      rw [EStateM.run_bind_of_error herror]
      exact .unrecorded e
    have hlaw : TurnLaw _ := hs.opened (s.ledger.events.length + 1) happ hfresh hpayload
      hnext happend
    change Begun _ _ _ _ _ ((openTurn conversationId conversation action newMessageId clock >>=
      fun turn => pure (.inr turn)) s)
    cases hcontext : turnContext ((s.putBlob (.text action.text)).interfaceStep event happ
        (appended.opened action (ownerMessageOf conversationId action newMessageId)
          (s.ledger.events.length + 1))) conversationId conversation
        (blobRef (.text action.text)) (s.ledger.events.length + 1) with
    | error e =>
      rw [EStateM.run_bind_of_error (herror e hcontext)]
      exact .unopened e _ event rfl hlaw
    | ok context =>
      rw [EStateM.run_bind_of_ok (hok context hcontext)]
      refine .opened _ _ event hbound rfl hfresh rfl hlaw rfl rfl ⟨?_, ?_, _, rfl⟩
      · change originOf (s.ledger.events ++ [⟨s.ledger.events.length + 1, event⟩]) action.actionId =
          _
        rw [originOf_concat, hfresh, Option.none_or, hpayload]
        exact if_pos rfl
      · exact hs.receipted.conversations_keyed _ _ hconversation

end Begin

/-! ### A process and its restarts -/

/-- **The law of a process**: its data space obeys the law, every turn it called the Pilot for has
its owner message recorded, and it called the Pilot for no action twice. -/
structure HostLaw (host : TurnHost) : Prop where
  law : TurnLaw host.system
  called : ∀ turn ∈ host.calls, turn.Opened (originOf host.system.ledger.events)
  waiting : ∀ turn ∈ host.waiting, turn ∈ host.calls
  once : (host.calls.map (·.action.actionId)).Nodup

omit [Sha256] in
theorem hostLaw_new (dataSpace : DataSpace) : HostLaw (.new dataSpace) where
  law := turnLaw_new dataSpace
  called _ h := by cases h
  waiting _ h := by cases h
  once := List.nodup_nil

omit [Sha256] in
theorem OwnerTurn.Opened.concat {turn : OwnerTurn} {events : List StoredEvent}
    (h : turn.Opened (originOf events)) (stored : StoredEvent) :
    turn.Opened (originOf (events ++ [stored])) :=
  ⟨originOf_concat_of_some h.recorded stored, h.conversation, h.accepted⟩

namespace HostLaw

variable {host : TurnHost}

omit [Sha256] in
/-- Whatever opens no action and keeps the law of the data space. -/
theorem withSystem (h : HostLaw host)
    (hs : TurnLawAt (originOf host.system.ledger.events) s) :
    HostLaw { host with system := s } where
  law := hs.toTurnLaw
  called turn hturn := by
    change turn.Opened (originOf s.ledger.events)
    rw [hs.origins_eq]
    exact h.called turn hturn
  waiting := h.waiting
  once := h.once

/-- One request for an owner action. -/
theorem start (h : HostLaw host) (conversationId : String) (action : OwnerMessageAction)
    (deviceId : String) (newMessageId : Identifier) (clock : Clock) :
    HostLaw (host.start conversationId action deviceId newMessageId clock) := by
  have hbegun := begun_beginOwnerAction h.law conversationId action deviceId newMessageId clock
  generalize hrun : beginOwnerAction conversationId action deviceId newMessageId clock
    host.system = result at hbegun
  cases hbegun with
  | refused e =>
    rw [TurnHost.start_of_refused hrun]
    exact h
  | repeated prior =>
    rw [TurnHost.start_of_repeated hrun]
    exact h
  | unrecorded e =>
    rw [TurnHost.start_of_refused hrun]
    exact h.withSystem (h.law.at.putBlob _)
  | unopened e s' event hevents hlaw =>
    rw [TurnHost.start_of_refused hrun]
    refine ⟨hlaw, fun turn hturn => ?_, h.waiting, h.once⟩
    change turn.Opened (originOf s'.ledger.events)
    rw [hevents]
    exact (h.called turn hturn).concat _
  | opened turn s' event hbound hdigest hfresh hevents hlaw haction hmessage hopened =>
    rw [TurnHost.start_of_opened hrun]
    refine ⟨hlaw, fun known hknown => ?_, fun known hknown => ?_, ?_⟩
    · rcases List.mem_append.mp hknown with hold | hnew
      · change known.Opened (originOf s'.ledger.events)
        rw [hevents]
        exact (h.called known hold).concat _
      · rw [List.mem_singleton.mp hnew]
        exact hopened
    · rcases List.mem_append.mp hknown with hold | hnew
      · exact List.mem_append_left _ (h.waiting known hold)
      · exact List.mem_append_right _ hnew
    · change ((host.calls ++ [turn]).map _).Nodup
      rw [List.map_append, List.map_singleton, List.nodup_append]
      refine ⟨h.once, List.nodup_singleton _, ?_⟩
      intro actionId hactionId other hother
      rw [List.mem_singleton.mp hother, haction]
      rintro rfl
      obtain ⟨known, hknown, hsame⟩ := List.mem_map.mp hactionId
      have hrecorded := (h.called known hknown).recorded
      rw [hsame, hfresh] at hrecorded
      cases hrecorded

/-- One answer of a Pilot. -/
theorem reply (h : HostLaw host) (position : Nat)
    (answer : Except VsmError StructuredInterfaceResponse) (draws : TurnDraws) :
    HostLaw (host.reply position answer draws) := by
  cases hposition : host.waiting[position]? with
  | none =>
    rw [TurnHost.reply_of_none hposition]
    exact h
  | some turn =>
    rw [TurnHost.reply_of_waiting hposition]
    have hopened := h.called turn (h.waiting turn (List.mem_of_getElem? hposition))
    have hlater := h.withSystem
      ((preserves_finishOwnerAction hopened answer draws).final h.law.at)
    exact ⟨hlater.law, hlater.called,
      fun known hknown => h.waiting known (List.mem_of_mem_eraseIdx hknown), hlater.once⟩

/-- **A restart** restores the receipts, and the waiting turns are lost. -/
theorem restart (h : HostLaw host) (pageSize : Nat) (clock : Clock) :
    HostLaw { host with
      system := (bootstrap pageSize clock).finalState host.system, waiting := [] } := by
  have hlater : HostLaw { host with
      system := (bootstrap pageSize clock).finalState host.system } := by
    refine h.withSystem ?_
    refine bootstrap_invariant h.law.toKernelSynced h.law.at (fun p hreplay => ?_)
      (fun mid s' hmid => hmid.reaches fun _ => EventPayload.notInterface_of_ofKernel)
      pageSize clock
    have hkernel : p.kernel = host.system.kernel := Except.ok.inj <|
      (kernel_of_replay hreplay).symm.trans h.law.kernel_replayed
    exact ⟨⟨kernelSynced_services h.law.toKernelSynced hkernel,
      othersKnown_services h.law.others_known hreplay, h.law.lawful,
      receipted_of_replay h.law.lawful hreplay⟩, rfl⟩
  exact ⟨hlater.law, hlater.called, (fun _ hturn => by cases hturn), hlater.once⟩

end HostLaw

/-- **Step lemma.** Every request, every answer of a Pilot and every restart keeps the law. -/
theorem hostLaw_run (host : TurnHost) (input : TurnInput) (h : HostLaw host) :
    HostLaw (input.run host) := by
  cases input with
  | service c clock =>
    exact h.withSystem <| h.law.at.reaches (fun _ => EventPayload.notInterface_of_ofKernel)
      (c.reaches h.law.toKernelSynced clock)
  | interface c clock =>
    exact h.withSystem ((preserves_interfaceCommand c clock).final h.law.at)
  | tokenLab c clock =>
    exact h.withSystem <| h.law.at.reaches (fun _ h => h) (c.reaches h.law.others_known clock)
  | start conversationId action deviceId newMessageId clock =>
    exact h.start conversationId action deviceId newMessageId clock
  | reply position answer draws => exact h.reply position answer draws
  | restart pageSize clock => exact h.restart pageSize clock

theorem hostLaw_exec (dataSpace : DataSpace) (inputs : List TurnInput) :
    HostLaw (Run.exec TurnInput.run (.new dataSpace) inputs) :=
  Run.exec_invariant hostLaw_run inputs (hostLaw_new dataSpace)

/-- **At most once.** However requests, answers of Pilots and restarts follow each other, no two
calls of the Pilot are for one action, and the owner message of an action it was called for is
recorded exactly once. -/
theorem at_most_once_exec (dataSpace : DataSpace) (inputs : List TurnInput) :
    let host := Run.exec TurnInput.run (.new dataSpace) inputs
    (host.calls.map (·.action.actionId)).Nodup ∧
      ∀ turn ∈ host.calls,
        (ownerActions host.system.ledger.events).count turn.action.actionId = 1 := by
  intro host
  have h : HostLaw host := hostLaw_exec dataSpace inputs
  refine ⟨h.once, fun turn hturn => ?_⟩
  refine List.count_eq_one_of_mem (nodup_ownerActions h.law.lawful) ?_
  by_contra hnot
  have hrecorded := (h.called turn hturn).recorded
  rw [originOf_eq_none_iff.mpr hnot] at hrecorded
  cases hrecorded

/-! ### Whose receipt it is -/

/-- The receipt and the message it carries belong to the conversation of the owner message. -/
def ConversationActionReceipt.BelongsTo (receipt : ConversationActionReceipt)
    (ownerMessage : ConversationMessage) : Prop :=
  receipt.conversationId = ownerMessage.conversationId ∧
    ∀ message ∈ receipt.interfaceMessage, message.conversationId = ownerMessage.conversationId

omit [Sha256] in
/-- Nothing is said about a program that is run on the way. -/
private theorem triple_any {α : Type} (x : SystemM InMemoryOperationalLedger α) :
    EStateM.Triple (fun _ => True) x (fun _ _ => True) fun _ _ => True :=
  .of_final fun _ _ => trivial

/-- **The receipt that a turn ends with** is of its action and belongs to its conversation. -/
theorem receipt_of_finishOwnerAction {turn : OwnerTurn} (hopened : turn.Opened origins)
    {answer : Except VsmError StructuredInterfaceResponse} {draws : TurnDraws}
    {receipt : ConversationActionReceipt}
    (h : finishOwnerAction turn answer draws s = .ok receipt s') :
    receipt.actionId = turn.action.actionId ∧ receipt.BelongsTo turn.ownerMessage := by
  have htriple : EStateM.Triple (fun _ => True) (finishOwnerAction turn answer draws)
      (fun receipt _ => receipt.actionId = turn.action.actionId ∧
        receipt.BelongsTo turn.ownerMessage) fun _ _ => True := by
    refine .tryCatch (R := fun _ _ => True) ?_ fun e => ?_
    · refine .bind (triple_any _) fun response => .bind (triple_any _) fun _ =>
        .bind (triple_any _) fun _ => .bind (triple_any _) fun _ => .bind (triple_any _)
          fun recorded => .bind (triple_any _) fun _ => .bind (triple_any _) fun _ =>
            .bind (triple_any _) fun _ => .bind (triple_any _) fun _ => .bind (triple_any _)
              fun _ => .pure fun _ _ => ⟨rfl, hopened.conversation, ?_⟩
      intro message hmessage
      obtain rfl := Option.some.inj hmessage
      exact hopened.conversation
    · refine .bind (triple_any _) fun recorded => .pure fun _ _ => ?_
      obtain ⟨cursor, haccepted⟩ := hopened.accepted
      rw [OwnerTurn.failedReceipt, haccepted]
      exact ⟨rfl, rfl, fun _ h => by cases h⟩
  have hrun := htriple s trivial
  rw [h] at hrun
  exact hrun

/-- **Whose receipt it is.** In every data space that a process reaches, a request that is answered
is answered with a receipt of the conversation in which the owner message of its action is recorded.
The first request of an action comes from a device that is bound to the conversation it names, and
its message is recorded there. A request that repeats an action changes nothing, and its device and
the conversation it names are not looked at. -/
theorem isolation_exec
    (pilot : String → InterfaceTurn → Except VsmError StructuredInterfaceResponse)
    (dataSpace : DataSpace) (inputs : List TurnInput) :
    let host := Run.exec TurnInput.run (.new dataSpace) inputs
    let recorded := originOf host.system.ledger.events
    (∀ conversationId action deviceId newMessageId clock draws receipt s',
      performOwnerAction pilot conversationId action deviceId newMessageId clock draws
          host.system = .ok receipt s' →
        ∃ origin, originOf s'.ledger.events action.actionId = some origin ∧
          receipt.BelongsTo origin.message ∧ origin.digest = hexdigest (.ownerAction action) ∧
          (recorded action.actionId = none →
            host.system.interface.IsBound conversationId action deviceId ∧
              origin.message.conversationId = conversationId) ∧
          (recorded action.actionId ≠ none → s' = host.system)) ∧
      ∀ turn ∈ host.waiting, ∀ answer draws receipt s',
        finishOwnerAction turn answer draws host.system = .ok receipt s' →
          recorded turn.action.actionId = some ⟨turn.actionDigest, turn.ownerMessage⟩ ∧
            receipt.actionId = turn.action.actionId ∧ receipt.BelongsTo turn.ownerMessage := by
  intro host recorded
  have h : HostLaw host := hostLaw_exec dataSpace inputs
  refine ⟨?_, fun turn hturn answer draws receipt s' hrun => ?_⟩
  · intro conversationId action deviceId newMessageId clock draws receipt s' hrun
    have hbegun := begun_beginOwnerAction h.law conversationId action deviceId newMessageId clock
    rw [performOwnerAction, EStateM.run_bind_eq] at hrun
    cases hbegun' : beginOwnerAction conversationId action deviceId newMessageId clock
        host.system with
    | error e mid =>
      rw [hbegun'] at hrun
      cases hrun
    | ok begun mid =>
      rw [hbegun'] at hrun hbegun
      cases hbegun with
      | repeated prior hknown hsame =>
        cases hrun
        obtain ⟨origin, horigin, -, hconversation, -⟩ := h.law.receipted.of_get? hknown
        have hdigest := h.law.receipted.digests action.actionId
        rw [hsame, horigin] at hdigest
        refine ⟨origin, horigin, ⟨hconversation, ?_⟩, (Option.some.inj hdigest).symm, ?_, ?_⟩
        · rw [← hconversation]
          exact h.law.receipted.own_messages _ _ hknown
        · intro hnone
          change originOf _ _ = none at hnone
          rw [horigin] at hnone
          cases hnone
        · exact fun _ => rfl
      | opened turn _ event hbound hdigest hfresh hevents hlaw haction hmessage hopened =>
        have hfinal : s' = (finishOwnerAction turn (pilot action.text turn.context)
            draws).finalState mid := (EStateM.finalState_of_ok hrun).symm
        have horigins := ((preserves_finishOwnerAction hopened (pilot action.text turn.context)
          draws).final hlaw.at).origins_eq
        rw [← hfinal] at horigins
        have hreceipt := receipt_of_finishOwnerAction hopened hrun
        refine ⟨⟨turn.actionDigest, turn.ownerMessage⟩, ?_, hreceipt.2, ?_, ?_, ?_⟩
        · rw [horigins, ← haction]
          exact hopened.recorded
        · exact hdigest
        · intro _
          rw [hmessage]
          exact ⟨hbound, rfl⟩
        · exact fun hne => absurd hfresh hne
  · have hopened := h.called turn (h.waiting turn hturn)
    exact ⟨hopened.recorded, receipt_of_finishOwnerAction hopened hrun⟩

end Nanihold
