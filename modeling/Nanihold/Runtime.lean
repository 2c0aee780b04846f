import Nanihold.Commands
import Nanihold.Projection

/-!
# Starting a process

`bootstrap` of `vsm.runtime`, as far as the services of one data space go. A process that starts
rebuilds its services from the ledger, and then closes the reorientation attempt that the
process before it left unfinished.

## Main definitions

* `interruptLostReorientation` — the attempt that the last process lost is interrupted.
* `bootstrap` — the rebuild, followed by the interruption.
-/

namespace Nanihold

/-- The key of the interruption of the attempt that started at a stream version. -/
def restartInterruptionKey (attemptVersion : Nat) : String :=
  s!"reorientation:runtime-restart-interruption:{attemptVersion}"

/-- The services of a process that starts with the rebuilt projection. -/
def OperationalProjection.services (p : OperationalProjection)
    (ledger : InMemoryOperationalLedger) : System InMemoryOperationalLedger where
  ledger := ledger
  kernel := p.kernel
  interface := p.interface
  tokenLab := p.tokenLab.getD (.new p.kernel.dataSpace.dataSpaceId)
  environments _ := .new p.kernel.dataSpace.dataSpaceId

variable [Sha256]

/-- `_interrupt_reorientation_lost_on_runtime_restart`: was there a lost attempt? -/
def interruptLostReorientation {L : Type} [OperationalLedger L] (clock : Clock) :
    SystemM L Bool := do
  let s ← get
  if s.kernel.activation.reorientationAttemptInProgress = false then
    return false
  let attemptVersion ← EStateM.ofExcept <|
    Checked.orRaise s.kernel.activation.reorientationAttemptStartedStreamVersion
      (.raised "projected reorientation attempt lacks its start stream version")
  (ActivationCommand.interruptReorientationAttempt .processRestartInterruptedAttempt
    "system:runtime-bootstrap" (restartInterruptionKey attemptVersion)).run clock
  return true

/-- `bootstrap`: the services rebuilt from the ledger of the last process, and then the
interruption. A bootstrap that raises starts no process, and what it appended stays. -/
def bootstrap (pageSize : Nat) (clock : Clock) : SystemM InMemoryOperationalLedger Unit := do
  let s ← get
  let rebuilt ← EStateM.ofExcept
    ((OperationalProjection.fresh s.kernel.dataSpace).rebuild s.ledger pageSize)
  -- The loop of `rebuild` ends on every ledger, so there always is a rebuilt projection.
  if let some p := rebuilt then
    set (p.services s.ledger)
    let _ ← interruptLostReorientation clock

end Nanihold
