import Nanihold.Interface.Turn
import Nanihold.Replay.Restart

/-!
# Requests while a Pilot is called

The requests of a data space are served in threads of one process. A Pilot call takes long, and any
other request may be served before it returns: other turns of the same conversation, commands of
every service, and a restart of the process, which loses the turns that wait for their Pilot.

## Main definitions

* `InterfaceCommand` — the commands of the Interface service beside owner turns.
* `TurnHost` — the data space, the turns that wait for the Pilot and the calls made so far.
* `TurnInput` — one request, the answer of a Pilot, or a restart.

## Main results

* `TurnHost.exec_perform` — `performOwnerAction` is a turn that no other request interrupts.
-/

namespace Nanihold

/-- The commands of the Interface service beside owner turns. -/
inductive InterfaceCommand where
  | createConversation (conversation : Conversation) (surfaceBinding : SurfaceBinding)
      (idempotencyKey : String)
  | recordReorientationSession (conversationId providerSessionId actorId idempotencyKey : String)
      (newSessionId : Identifier)
  | materializeHistoryCommitments (conversationId : String) (commitments : List Commitment)
      (historyResultEventIds : List String) (actorId idempotencyKey : String)
  | materializeReorientationAssessment (assessment : ReorientationAssessment)
      (actorId idempotencyKey : String) (newMemoryId : Identifier)
      (newDecisionId : Nat → Identifier)
  | recordOwnerCorrection (conversationId statement actorId idempotencyKey : String)
      (newDecisionId : Identifier)

variable [Sha256]

/-- `create_conversation`: a repeated request records nothing. -/
def createConversation (conversation : Conversation) (surfaceBinding : SurfaceBinding)
    (idempotencyKey : String) (clock : Clock) :
    SystemM InMemoryOperationalLedger ConversationCreatedReceipt := do
  let s ← get
  match ← EStateM.ofExcept (s.interface.createConversation s.kernel conversation surfaceBinding
    idempotencyKey clock) with
  | .inl prior => return prior
  | .inr r =>
    let (_, result) ← record r
    return ⟨conversation.conversationId, surfaceBinding.bindingId, result.cursor⟩

/-- An Interface command as a program of the system. -/
def InterfaceCommand.run (clock : Clock) :
    InterfaceCommand → SystemM InMemoryOperationalLedger Unit
  | .createConversation conversation surfaceBinding key => do
    let _ ← Nanihold.createConversation conversation surfaceBinding key clock
  | .recordReorientationSession conversationId providerSessionId actorId key newSessionId => do
    let _ ← perform fun s : MemorySystem => s.interface.recordReorientationSession conversationId
      providerSessionId actorId key newSessionId clock
  | .materializeHistoryCommitments conversationId commitments eventIds actorId key => do
    let _ ← perform fun s : MemorySystem => s.interface.materializeHistoryCommitments
      conversationId commitments eventIds actorId key clock
  | .materializeReorientationAssessment assessment actorId key newMemoryId newDecisionId => do
    let _ ← perform fun s : MemorySystem => s.interface.materializeReorientationAssessment
      assessment actorId key newMemoryId newDecisionId clock
  | .recordOwnerCorrection conversationId statement actorId key newDecisionId => do
    let _ ← perform fun s : MemorySystem => s.interface.recordOwnerCorrection conversationId
      statement actorId key newDecisionId clock

/-- A process with its data space, the turns that wait for their Pilot, and the turns for which a
Pilot was called so far, in the order of the calls. -/
structure TurnHost where
  system : MemorySystem
  waiting : List OwnerTurn
  calls : List OwnerTurn

omit [Sha256] in
/-- A process that has served no request. -/
def TurnHost.new (dataSpace : DataSpace) : TurnHost := ⟨.new dataSpace, [], []⟩

/-- What reaches the process: a request, the answer of a Pilot to a waiting turn, or a restart. -/
inductive TurnInput where
  | service (c : ServiceCommand) (clock : Clock)
  | interface (c : InterfaceCommand) (clock : Clock)
  | tokenLab (c : TokenLabCommand) (clock : Clock)
  | start (conversationId : String) (action : OwnerMessageAction) (deviceId : String)
      (newMessageId : Identifier) (clock : Clock)
  | reply (position : Nat) (answer : Except VsmError StructuredInterfaceResponse)
      (draws : TurnDraws)
  | restart (pageSize : Nat) (clock : Clock)

namespace TurnHost

/-- A request to perform an owner action, up to the Pilot call. -/
def start (conversationId : String) (action : OwnerMessageAction) (deviceId : String)
    (newMessageId : Identifier) (clock : Clock) (host : TurnHost) : TurnHost :=
  match beginOwnerAction conversationId action deviceId newMessageId clock host.system with
  | .ok (.inl _) s => { host with system := s }
  | .ok (.inr turn) s => ⟨s, host.waiting ++ [turn], host.calls ++ [turn]⟩
  | .error _ s => { host with system := s }

/-- The Pilot of a waiting turn answers or raises. -/
def reply (position : Nat) (answer : Except VsmError StructuredInterfaceResponse)
    (draws : TurnDraws) (host : TurnHost) : TurnHost :=
  match host.waiting[position]? with
  | none => host
  | some turn =>
    { host with
      system := (finishOwnerAction turn answer draws).finalState host.system
      waiting := host.waiting.eraseIdx position }

end TurnHost

/-- The process after it was reached. -/
def TurnInput.run (host : TurnHost) : TurnInput → TurnHost
  | .service c clock => { host with system := (c.run clock).finalState host.system }
  | .interface c clock => { host with system := (c.run clock).finalState host.system }
  | .tokenLab c clock => { host with system := (c.run clock).finalState host.system }
  | .start conversationId action deviceId newMessageId clock =>
    host.start conversationId action deviceId newMessageId clock
  | .reply position answer draws => host.reply position answer draws
  | .restart pageSize clock =>
    { host with system := (bootstrap pageSize clock).finalState host.system, waiting := [] }

namespace TurnHost

variable {host : TurnHost} {conversationId deviceId : String} {action : OwnerMessageAction}
  {newMessageId : Identifier} {clock : Clock} {position : Nat}

theorem start_of_repeated {prior : ConversationActionReceipt} {s : MemorySystem}
    (h : beginOwnerAction conversationId action deviceId newMessageId clock host.system =
      .ok (.inl prior) s) :
    host.start conversationId action deviceId newMessageId clock = { host with system := s } := by
  simp only [start, h]

theorem start_of_opened {turn : OwnerTurn} {s : MemorySystem}
    (h : beginOwnerAction conversationId action deviceId newMessageId clock host.system =
      .ok (.inr turn) s) :
    host.start conversationId action deviceId newMessageId clock =
      ⟨s, host.waiting ++ [turn], host.calls ++ [turn]⟩ := by
  simp only [start, h]

theorem start_of_refused {e : VsmError} {s : MemorySystem}
    (h : beginOwnerAction conversationId action deviceId newMessageId clock host.system =
      .error e s) :
    host.start conversationId action deviceId newMessageId clock = { host with system := s } := by
  simp only [start, h]

theorem reply_of_none {answer : Except VsmError StructuredInterfaceResponse} {draws : TurnDraws}
    (h : host.waiting[position]? = none) : host.reply position answer draws = host := by
  simp only [TurnHost.reply, h]

theorem reply_of_waiting {answer : Except VsmError StructuredInterfaceResponse}
    {draws : TurnDraws} {turn : OwnerTurn} (h : host.waiting[position]? = some turn) :
    host.reply position answer draws =
      { host with
        system := (finishOwnerAction turn answer draws).finalState host.system
        waiting := host.waiting.eraseIdx position } := by
  simp only [TurnHost.reply, h]

/-- **`performOwnerAction` is a turn that no other request interrupts**: the request and the answer
of its Pilot in a row leave the data space as it does, and the turns that waited before. -/
theorem exec_perform (pilot : String → InterfaceTurn → Except VsmError StructuredInterfaceResponse)
    (host : TurnHost) (conversationId : String) (action : OwnerMessageAction) (deviceId : String)
    (newMessageId : Identifier) (clock : Clock) (draws : TurnDraws) :
    ∃ answer : Except VsmError StructuredInterfaceResponse,
      let served := Run.exec TurnInput.run host
        [.start conversationId action deviceId newMessageId clock,
          .reply host.waiting.length answer draws]
      served.system = (performOwnerAction pilot conversationId action deviceId newMessageId clock
        draws).finalState host.system ∧ served.waiting = host.waiting := by
  have hnone : host.waiting[host.waiting.length]? = none := by simp
  -- No turn stands at the end of the list unless the request opened it.
  have hidle (s : MemorySystem) (answer : Except VsmError StructuredInterfaceResponse) :
      ({ host with system := s } : TurnHost).reply host.waiting.length answer draws =
        { host with system := s } := reply_of_none hnone
  cases hbegin : beginOwnerAction conversationId action deviceId newMessageId clock
      host.system with
  | error e s =>
    refine ⟨.error e, ?_⟩
    simp only [Run.exec_cons, Run.exec_nil, TurnInput.run, start_of_refused hbegin, hidle,
      performOwnerAction, EStateM.finalState_bind_of_error hbegin, and_self]
  | ok answered s =>
    rw [performOwnerAction, EStateM.finalState_bind_of_ok hbegin]
    cases answered with
    | inl prior =>
      refine ⟨.error (.raised ""), ?_⟩
      simp only [Run.exec_cons, Run.exec_nil, TurnInput.run, start_of_repeated hbegin, hidle,
        EStateM.finalState_pure, and_self]
    | inr turn =>
      refine ⟨pilot action.text turn.context, ?_⟩
      have hlast : (host.waiting ++ [turn])[host.waiting.length]? = some turn := by simp
      have herase : (host.waiting ++ [turn]).eraseIdx host.waiting.length = host.waiting := by
        rw [List.eraseIdx_append_of_length_le (Nat.le_refl _), Nat.sub_self]
        exact List.append_nil host.waiting
      have hopened : (TurnHost.mk s (host.waiting ++ [turn]) (host.calls ++ [turn])).waiting[
          host.waiting.length]? = some turn := hlast
      simp only [Run.exec_cons, Run.exec_nil, TurnInput.run, start_of_opened hbegin,
        reply_of_waiting hopened, herase, and_self]

end TurnHost

end Nanihold
