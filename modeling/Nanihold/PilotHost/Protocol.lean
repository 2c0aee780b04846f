import Nanihold.PilotHost.Client
import Nanihold.PilotHost.Threads
import Nanihold.Safety.Hosts

/-!
# The receipt protocol

A dispatcher and a PilotHost, each with its own durable state, and an unreliable connection between
them. The worker of an execution posts a request and waits; the host serves it in a thread; a post
or a get may arrive late, repeatedly or never, and so may its answer. When the worker gives up or is
answered, the dispatcher records what became of the execution.

The connection keeps every answer that the host has given. A call ends with any of them, or with
none, for its post and for its get: this covers loss, delay and repetition.

## Main definitions

* `OtherCommand` — a command of the data space that reports no execution.
* `ReceiptProtocol` — the two parties and what is between them.
* `ProtocolInput` — what one of them does.
-/

namespace Nanihold

/-- The command neither records a receipt of an execution nor ends one. Only the dispatcher does. -/
def SharedLedgerCommand.ReportsNothing : SharedLedgerCommand → Prop
  | .service (.kernel (.recordPilotExecutionReceipt ..)) => False
  | .service (.kernel (.setExecutionState _ state ..)) => state ≠ .succeeded ∧ state ≠ .failed
  | _ => True

/-- A command of the data space beside the dispatcher. -/
structure OtherCommand where
  command : SharedLedgerCommand
  reports_nothing : command.ReportsNothing

/-- A call that a worker has begun. -/
structure WorkCall where
  request : WorkRequest
  receiptId : String

/-- How a call ends: for the post and for the get, which of the answers of the host arrived, if one
did. -/
structure CallEnd where
  post : Option Nat
  poll : Option Nat
  invalid : String
  requestReprovision : Except VsmError Unit
  ownReceiptId : Identifier

/-- **The two parties**, the calls that workers have begun, and the answers of the host so far. -/
structure ReceiptProtocol where
  dispatcher : Dispatcher
  host : PilotHostProcess
  calls : List WorkCall
  answers : List HttpAnswer

/-- What one of the parties does. -/
inductive ProtocolInput (P : Type) where
  /-- Another command is served on the data space. -/
  | command (c : OtherCommand) (clock : Clock)
  | dispatch (call : DispatchCall) (clock : Clock)
  /-- The worker of the request in a position draws a receipt id and posts. -/
  | post (position : Nat) (receiptId : String)
  /-- A post arrives at the host, a provider is run, an outcome is entered, or the host restarts. -/
  | host (step : ThreadStep P)
  /-- The host answers a get, or ends a post, with the receipt that it has. -/
  | answer (receiptId : String)
  /-- The host answers with an error. -/
  | refuse (status : Nat) (text : String)
  /-- The call of the execution in a position ends, and the dispatcher records how. -/
  | finish (position : Nat) (ending : CallEnd) (clock : Clock)

namespace ReceiptProtocol

/-- A data space without events, and a host without receipts. -/
def new (d : Dispatcher) (dataSpace : DataSpace) (cache : CacheFile) : ReceiptProtocol where
  dispatcher := { d with system := .new dataSpace, futures := [], requests := [] }
  host := .new cache
  calls := []
  answers := []

variable (protocol : ReceiptProtocol)

/-- A worker posts its request once. -/
def post (position : Nat) (receiptId : String) : ReceiptProtocol :=
  match protocol.dispatcher.requests[position]? with
  | none => protocol
  | some request =>
    if ∃ call ∈ protocol.calls, call.request.executionId = request.executionId then protocol
    else { protocol with calls := protocol.calls ++ [⟨request, receiptId⟩] }

/-- `do_GET`, and the end of `do_POST`. -/
def answer (receiptId : String) : ReceiptProtocol :=
  { protocol with
    answers := protocol.answers ++
      match protocol.host.memory.receipts.receipts.get? receiptId with
      | some body => [.receipt body]
      | none => [.refused 404 "receipt not found"] }

/-- What the client got by the end of a call. -/
def exchange (ending : CallEnd) : Exchange where
  post := ending.post.bind fun position => protocol.answers[position]?
  poll := ending.poll.bind fun position => protocol.answers[position]?
  invalid := ending.invalid

variable [Sha256] {P : Type} (client : ProductionPilotHostClient P)

/-- What the future of a call gives. -/
def outcomeOf (call : WorkCall) (ending : CallEnd) : WorkOutcome :=
  client.outcome call.receiptId call.request (protocol.exchange ending) ending.requestReprovision
    ending.ownReceiptId

/-- The call of an execution ends. -/
def finish (position : Nat) (ending : CallEnd) (clock : Clock) : ReceiptProtocol :=
  match protocol.dispatcher.futures[position]? with
  | none => protocol
  | some pending =>
    match protocol.calls.find? fun call =>
        call.request.executionId = pending.execution.executionId with
    | none => protocol
    | some call =>
      { protocol with
        dispatcher := (Dispatcher.finishExecution position (protocol.outcomeOf client call ending)
          clock).finalState protocol.dispatcher }

end ReceiptProtocol

/-- The parties after one of them did something. -/
def ProtocolInput.run [Sha256] {P : Type} (models : RequestModels P)
    (client : ProductionPilotHostClient P) (protocol : ReceiptProtocol) :
    ProtocolInput P → ReceiptProtocol
  | .command c clock =>
    { protocol with
      dispatcher := HostInput.step protocol.dispatcher (.shared c.command, clock) }
  | .dispatch call clock =>
    { protocol with
      dispatcher := HostInput.step protocol.dispatcher (.dispatcher (.dispatch call), clock) }
  | .post position receiptId => protocol.post position receiptId
  | .host step => { protocol with host := step.run models protocol.host }
  | .answer receiptId => protocol.answer receiptId
  | .refuse status text =>
    { protocol with answers := protocol.answers ++ [.refused status text] }
  | .finish position ending clock => protocol.finish client position ending clock

end Nanihold
