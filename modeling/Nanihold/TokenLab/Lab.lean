import Nanihold.Errors
import Mathlib
import Nanihold.Library.OrderedDict

/-!
# Token Efficiency Lab

The deterministic lab of `vsm.token_lab.lab`: it keeps approved baselines and recorded
observations and says which investigations an observation calls for. Floats are finite and
taken as exact rationals.

## Main definitions

* `TokenObservation`, `TokenBaseline`, `InvestigationTrigger` — the lab's records.
* `TokenEfficiencyLab.evaluate` — the investigations an observation calls for.
* `TokenEfficiencyLab.observe`, `TokenEfficiencyLab.markWeeklyReviewed` — the updates.
-/

namespace Nanihold

inductive TokenIncidentKind where
  | callDensity | contextReload | modelCallPolling | permissionClassifier | modelSubstitution
  | reedit | falseComplete
  deriving DecidableEq

/-- The value of the enumeration member. -/
def TokenIncidentKind.value : TokenIncidentKind → String
  | .callDensity => "call_density"
  | .contextReload => "context_reload"
  | .modelCallPolling => "model_call_polling"
  | .permissionClassifier => "permission_classifier"
  | .modelSubstitution => "model_substitution"
  | .reedit => "reedit"
  | .falseComplete => "false_complete"

structure TokenObservation where
  observationId : String
  workType : String
  occurredAt : DateTime
  totalInputTokens : Nat
  interfaceInputTokens : Nat
  incidentKinds : Finset TokenIncidentKind
  fullHistoryResent : Bool
  expensiveInterfaceCalls : Nat
  verifiedComplete : Bool
  deriving DecidableEq

structure TokenBaseline where
  workType : String
  approvedMeanInputTokens : Rat
  approvedMeanInterfaceTokens : Rat
  approvedAt : DateTime
  deriving DecidableEq

structure InvestigationTrigger where
  reason : String
  workType : String
  observationIds : List String
  logicOnly : Bool
  deriving DecidableEq

/-- The baselines, the observations and the last weekly review. -/
structure TokenEfficiencyLab where
  baselines : OrderedDict String TokenBaseline
  observations : List TokenObservation
  lastWeeklyReviewAt : Option DateTime
  deriving DecidableEq

namespace TokenEfficiencyLab

def new : TokenEfficiencyLab := ⟨.empty, [], none⟩

/-- The incident kinds that call for an investigation on their own, in the order of their
values. -/
def singleEventTriggers : List TokenIncidentKind :=
  [.contextReload, .falseComplete, .modelCallPolling, .modelSubstitution,
    .permissionClassifier]

def approveBaseline (lab : TokenEfficiencyLab) (baseline : TokenBaseline) :
    TokenEfficiencyLab :=
  { lab with baselines := lab.baselines.set baseline.workType baseline }

/-- The observations of a work type, the new one last. -/
def comparable (lab : TokenEfficiencyLab) (observation : TokenObservation) :
    List TokenObservation :=
  (lab.observations ++ [observation]).filter (·.workType = observation.workType)

def evaluate (lab : TokenEfficiencyLab) (observation : TokenObservation) :
    List InvestigationTrigger :=
  let direct := singleEventTriggers.filter fun kind =>
    decide (kind ∈ observation.incidentKinds) ||
      (observation.fullHistoryResent && decide (kind = .contextReload))
  let single := direct.map fun incident =>
    { reason := s!"single_event:{incident.value}"
      workType := observation.workType
      observationIds := [observation.observationId]
      logicOnly := true }
  let items := lab.comparable observation
  match lab.baselines.get? observation.workType with
  | none => single
  | some baseline =>
    let mean : Rat := (items.map (·.totalInputTokens)).sum / items.length
    if 20 ≤ items.length ∧ baseline.approvedMeanInputTokens * (11 / 10) ≤ mean then
      single ++
        [{ reason := "twenty_item_mean_degraded_by_ten_percent"
           workType := observation.workType
           observationIds := (items.drop (items.length - 20)).map (·.observationId)
           logicOnly := true }]
    else single

/-- Whether an observation with this identity was recorded. -/
def isObserved (lab : TokenEfficiencyLab) (observationId : String) : Bool :=
  lab.observations.any (·.observationId = observationId)

def observe (lab : TokenEfficiencyLab) (observation : TokenObservation) :
    Except VsmError TokenEfficiencyLab := do
  require (lab.isObserved observation.observationId = false)
    s!"TokenObservation already exists: {observation.observationId}"
  return { lab with observations := lab.observations ++ [observation] }

/-- Seven days, in microseconds. -/
def weekly : Int := 7 * 24 * 3600 * 1000000

/-- The earliest time of a list. -/
def earliest : DateTime → List DateTime → DateTime
  | t, [] => t
  | t, u :: us => earliest (min t u) us

def weeklyDue (lab : TokenEfficiencyLab) (now : DateTime) : Bool :=
  match lab.observations with
  | [] => false
  | first :: rest =>
    let reference := lab.lastWeeklyReviewAt.getD
      (earliest first.occurredAt (rest.map (·.occurredAt)))
    decide (weekly ≤ now - reference)

def markWeeklyReviewed (lab : TokenEfficiencyLab) (reviewedAt : DateTime) :
    Except VsmError TokenEfficiencyLab := do
  require (∀ last, lab.lastWeeklyReviewAt = some last → last < reviewedAt)
    "Token Lab weekly review time must advance"
  return { lab with lastWeeklyReviewAt := some reviewedAt }

end TokenEfficiencyLab

end Nanihold
