import Nanihold.Kernel.Models
import Nanihold.Library.OrderedDict

/-!
# Routing evidence

The verified outcomes that `vsm.routing.bayesian.RoutingEvidenceService` keeps for the router.
The posteriors of the router are not modelled: a projection only needs to know whether the
router takes an outcome. Floats are finite and taken as exact rationals.

## Main definitions

* `JudgeObservation`, `VerifiedRouteOutcome` — the records.
* `BayesianRouter.validateVerified` — the checks of an update.
* `RoutingEvidenceService.replay` — a recorded outcome is applied again.
-/

namespace Nanihold

inductive JudgeKind where
  | deterministic | cheapAi | human
  deriving DecidableEq

structure JudgeObservation where
  candidateKey : NonBlank
  kind : JudgeKind
  predictedSuccess : Bool
  verifiedSuccess : Option Bool
  judgeModel : Option NonBlank
  judgeEffort : Option String
  deriving DecidableEq

structure VerifiedRouteOutcome where
  outcomeId : String
  candidateKey : String
  occurredAt : DateTime
  success : Bool
  tokens : Nat
  cost : Rat
  latencyMs : Nat
  judge : Option JudgeObservation
  deriving DecidableEq

/-- A router, by the keys of its registered candidates. -/
structure BayesianRouter where
  candidateKeys : List String
  deriving DecidableEq

/-- `validate_verified`. -/
def BayesianRouter.validateVerified (router : BayesianRouter) (outcome : VerifiedRouteOutcome) :
    Except VsmError Unit := do
  require (outcome.candidateKey ∈ router.candidateKeys)
    s!"unregistered ModelCandidate: {outcome.candidateKey}"
  require (0 < outcome.tokens ∧ 0 < outcome.cost ∧ 0 < outcome.latencyMs)
    "verified metrics must be positive"
  if let some judge := outcome.judge then
    require (judge.candidateKey = outcome.candidateKey) "JudgeObservation candidate mismatch"
    require (judge.verifiedSuccess ≠ none)
      "verified router update requires verified Judge outcome"

structure RoutingEvidenceService where
  router : BayesianRouter
  outcomes : OrderedDict String VerifiedRouteOutcome
  versions : OrderedDict String Nat
  evidenceCursor : Nat
  deriving DecidableEq

namespace RoutingEvidenceService

def new (router : BayesianRouter) : RoutingEvidenceService := ⟨router, .empty, .empty, 0⟩

/-- `replay`. The version is noted under the outcome's identity, whatever the event's stream. -/
def replay (r : RoutingEvidenceService) (outcome : VerifiedRouteOutcome)
    (streamVersion cursor : Nat) : Except VsmError RoutingEvidenceService := do
  require (r.outcomes.contains outcome.outcomeId = false)
    s!"duplicate verified route outcome: {outcome.outcomeId}"
  r.router.validateVerified outcome
  return { r with
    outcomes := r.outcomes.set outcome.outcomeId outcome
    versions := r.versions.set outcome.outcomeId streamVersion
    evidenceCursor := max r.evidenceCursor cursor }

end RoutingEvidenceService

end Nanihold
