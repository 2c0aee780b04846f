import Nanihold.Library.ConjugatePriors
import Nanihold.Routing.Bayesian
import Nanihold.Routing.Evidence

/-!
# The router in exact arithmetic

`vsm.routing.bayesian.BayesianRouter` with its figures in an ordered field instead of floats: the
registration of a candidate with its priors, the update by a verified outcome, the scores and the
choice for production. The logarithm and the exponential are functions of the field.

## Main definitions

* `MathFunctions` — `math.log` and `math.exp`.
* `BenchmarkPrior`, `CandidateEvidence` — a prior, and what is known of a candidate.
* `ExactRouter.register`, `ExactRouter.updateVerified` — the updates of a router.
* `ExactRouter.scores`, `ExactRouter.selectProduction` — the ranking and the choice.
-/

namespace Nanihold

/-- `math.log` and `math.exp`. -/
structure MathFunctions (K : Type) where
  log : K → K
  exp : K → K

/-! ### Priors -/

inductive PriorSource where
  | artificialAnalysis | terminalBench | sweBench | bfcl | localVerification
  deriving DecidableEq

/-- The value of the source. -/
def PriorSource.value : PriorSource → String
  | .artificialAnalysis => "artificial-analysis"
  | .terminalBench => "terminal-bench"
  | .sweBench => "swe-bench"
  | .bfcl => "bfcl"
  | .localVerification => "local-verification"

inductive BenchmarkFamily where
  | coding | toolUse | interface
  deriving DecidableEq

/-- `PRIOR_FAMILIES`. -/
def PriorSource.family : PriorSource → BenchmarkFamily
  | .artificialAnalysis | .terminalBench | .sweBench => .coding
  | .bfcl => .toolUse
  | .localVerification => .interface

/-- A prior; its version and its harness are left out, since nothing reads them. -/
structure BenchmarkPrior (K : Type) where
  source : PriorSource
  benchmarkFamily : BenchmarkFamily
  sampleCount : Nat
  successes : Nat
  failures : Nat
  logTokenSamples : List K
  logCostSamples : List K
  logLatencySamples : List K
  sample_count_pos : 0 < sampleCount
  token_samples_ne_nil : logTokenSamples ≠ []
  cost_samples_ne_nil : logCostSamples ≠ []
  latency_samples_ne_nil : logLatencySamples ≠ []

/-! ### Evidence -/

/-- `ConfusionMatrix`. -/
structure ConfusionMatrix where
  truePositive : Nat
  trueNegative : Nat
  falsePositive : Nat
  falseNegative : Nat
  deriving DecidableEq

def ConfusionMatrix.update (m : ConfusionMatrix) (predicted verified : Bool) : ConfusionMatrix :=
  if predicted && verified then { m with truePositive := m.truePositive + 1 }
  else if !predicted && !verified then { m with trueNegative := m.trueNegative + 1 }
  else if predicted then { m with falsePositive := m.falsePositive + 1 }
  else { m with falseNegative := m.falseNegative + 1 }

/-- The outcome was judged by an AI alone. -/
def VerifiedRouteOutcome.IsAiJudged (outcome : VerifiedRouteOutcome) : Prop :=
  ∃ judge ∈ outcome.judge, judge.kind = .cheapAi

instance (outcome : VerifiedRouteOutcome) : Decidable outcome.IsAiJudged :=
  inferInstanceAs (Decidable (∃ judge ∈ outcome.judge, judge.kind = .cheapAi))

section Exact

variable {K : Type} [Field K] [LinearOrder K] [IsStrictOrderedRing K]

/-- `NormalInverseGamma()`. -/
def initialNormalGamma : NormalGamma K where
  mu := 0
  lam := 1 / 10 ^ 6
  alpha := 1
  beta := 1
  lam_pos := by positivity
  alpha_pos := one_pos
  beta_pos := one_pos

/-- `CandidatePosterior`. -/
structure CandidateEvidence (K : Type) [Field K] [LinearOrder K] where
  candidate : RegisteredCandidate
  success : BetaPrior K
  tokens : NormalGamma K
  cost : NormalGamma K
  latency : NormalGamma K
  judgeConfusion : ConfusionMatrix
  verifiedSamples : Nat
  deterministicOrHumanSamples : Nat
  priorSources : List (BenchmarkPrior K)

namespace CandidateEvidence

/-- The evidence before any prior. -/
def initial (candidate : RegisteredCandidate) : CandidateEvidence K where
  candidate := candidate
  success := ⟨1, 1, one_pos, one_pos⟩
  tokens := initialNormalGamma
  cost := initialNormalGamma
  latency := initialNormalGamma
  judgeConfusion := ⟨0, 0, 0, 0⟩
  verifiedSamples := 0
  deterministicOrHumanSamples := 0
  priorSources := []

variable (evidence : CandidateEvidence K)

/-- The evidence with a prior. -/
def withPrior (prior : BenchmarkPrior K) : CandidateEvidence K :=
  { evidence with
    success := evidence.success.add prior.successes prior.failures
    tokens := prior.logTokenSamples.foldl NormalGamma.observe evidence.tokens
    cost := prior.logCostSamples.foldl NormalGamma.observe evidence.cost
    latency := prior.logLatencySamples.foldl NormalGamma.observe evidence.latency
    priorSources := evidence.priorSources ++ [prior] }

/-- One prior of `register`. -/
def addPrior (prior : BenchmarkPrior K) : Except VsmError (CandidateEvidence K) := do
  require (prior.benchmarkFamily = prior.source.family)
    s!"benchmark source/family mismatch: {prior.source.value}"
  require (prior.successes + prior.failures = prior.sampleCount)
    "benchmark sample_count does not match outcomes"
  return evidence.withPrior prior

/-- The updates of `update_verified`, after its checks. -/
def update (math : MathFunctions K) (outcome : VerifiedRouteOutcome) : CandidateEvidence K :=
  { evidence with
    success := evidence.success.observe outcome.success
    tokens := evidence.tokens.observe (math.log outcome.tokens)
    cost := evidence.cost.observe (math.log outcome.cost)
    latency := evidence.latency.observe (math.log outcome.latencyMs)
    judgeConfusion := outcome.judge.elim evidence.judgeConfusion fun judge =>
      evidence.judgeConfusion.update judge.predictedSuccess (judge.verifiedSuccess.getD false)
    verifiedSamples := evidence.verifiedSamples + 1
    deterministicOrHumanSamples := if outcome.IsAiJudged then evidence.deterministicOrHumanSamples
      else evidence.deterministicOrHumanSamples + 1 }

end CandidateEvidence

/-! ### The router -/

/-- A router with the evidence of its candidates, by their keys. -/
structure ExactRouter (K : Type) [Field K] [LinearOrder K] where
  qualityWeight : K
  costWeight : K
  latencyWeight : K
  posteriors : OrderedDict String (CandidateEvidence K)
  quality_pos : 0 < qualityWeight
  cost_nonneg : 0 ≤ costWeight
  latency_nonneg : 0 ≤ latencyWeight

/-- The figures of one candidate: its reliability, its expected tokens, cost and latency, and its
expected utility. -/
structure ExactFigures (K : Type) where
  candidateKey : String
  reliability : K
  tokens : K
  cost : K
  latency : K
  utility : K

/-- `RouteScore`: the figures, and the place of the candidate in the order of each objective, from
1. -/
structure ExactScore (K : Type) extends ExactFigures K where
  rank : ProductionObjective → Nat

/-- What `sorted` compares for an objective: the tuple of its key function. -/
def ExactFigures.comesBefore (objective : ProductionObjective) (x y : ExactFigures K) : Prop :=
  match objective with
  | .reliabilityThenCost => toLex (-x.reliability, toLex (x.cost, x.candidateKey)) ≤
      toLex (-y.reliability, toLex (y.cost, y.candidateKey))
  | .expectedUtility => toLex (-x.utility, x.candidateKey) ≤ toLex (-y.utility, y.candidateKey)
  | .qualityMax => toLex (-x.reliability, x.candidateKey) ≤ toLex (-y.reliability, y.candidateKey)

instance (objective : ProductionObjective) (x y : ExactFigures K) :
    Decidable (x.comesBefore objective y) :=
  match objective with
  | .reliabilityThenCost => inferInstanceAs (Decidable (toLex _ ≤ toLex _))
  | .expectedUtility => inferInstanceAs (Decidable (toLex _ ≤ toLex _))
  | .qualityMax => inferInstanceAs (Decidable (toLex _ ≤ toLex _))

/-- The order of an objective. -/
def exactOrdering (objective : ProductionObjective) (raw : List (ExactFigures K)) : List String :=
  (raw.insertionSort (ExactFigures.comesBefore objective)).map (·.candidateKey)

namespace ExactRouter

variable (router : ExactRouter K) (math : MathFunctions K)

/-- `register`. -/
def register (candidate : RegisteredCandidate) (priors : List (BenchmarkPrior K)) :
    Except VsmError (ExactRouter K) := do
  require (router.posteriors.contains candidate.key = false) "ModelCandidate is already registered"
  require (priors ≠ []) "ModelCandidate requires an explicit prior"
  let evidence ← priors.foldlM CandidateEvidence.addPrior (.initial candidate)
  return { router with posteriors := router.posteriors.set candidate.key evidence }

/-- `_require`. -/
def posterior (candidateKey : String) : Except VsmError (CandidateEvidence K) :=
  found (router.posteriors.get? candidateKey) s!"unregistered ModelCandidate: {candidateKey}"

/-- `validate_verified`. -/
def validateVerified (outcome : VerifiedRouteOutcome) : Except VsmError Unit := do
  let _ ← router.posterior outcome.candidateKey
  require (0 < outcome.tokens ∧ 0 < outcome.cost ∧ 0 < outcome.latencyMs)
    "verified metrics must be positive"
  require (∀ judge ∈ outcome.judge, judge.candidateKey = outcome.candidateKey)
    "JudgeObservation candidate mismatch"
  require (∀ judge ∈ outcome.judge, judge.verifiedSuccess ≠ none)
    "verified router update requires verified Judge outcome"

/-- The router with the evidence of an outcome. -/
def withOutcome (outcome : VerifiedRouteOutcome) : ExactRouter K :=
  { router with
    posteriors := router.posteriors.mapValues fun key evidence =>
      if key = outcome.candidateKey then evidence.update math outcome else evidence }

/-- `update_verified`. -/
def updateVerified (outcome : VerifiedRouteOutcome) : Except VsmError (ExactRouter K) := do
  router.validateVerified outcome
  return router.withOutcome math outcome

/-- The figures of a candidate with some evidence. -/
def figuresOf (candidateKey : String) (posterior : CandidateEvidence K) : ExactFigures K :=
  let reliability := posterior.success.mean
  let cost := math.exp posterior.cost.mu
  let latency := math.exp posterior.latency.mu
  { candidateKey := candidateKey
    reliability := reliability
    tokens := math.exp posterior.tokens.mu
    cost := cost
    latency := latency
    utility := router.qualityWeight * reliability - router.costWeight * cost -
      router.latencyWeight * latency }

/-- The figures of one candidate. -/
def figures (candidateKey : String) : Except VsmError (ExactFigures K) := do
  let posterior ← router.posterior candidateKey
  return router.figuresOf math candidateKey posterior

/-- `scores`. -/
def scores (candidateKeys : List String) : Except VsmError (List (ExactScore K)) := do
  require (candidateKeys ≠ []) "routing requires at least one candidate"
  let raw ← candidateKeys.mapM (router.figures math)
  return raw.map fun score =>
    ⟨score, fun objective => (exactOrdering objective raw).idxOf score.candidateKey + 1⟩

/-- The score that `select_production` picks: the first of the coding route, else the one of the
lowest rank, the first of several. -/
def pickScore (snapshot : RouteSnapshot) (scores : List (ExactScore K)) : Option (ExactScore K) :=
  if snapshot.routeKey = codingRouteKey then scores.head?
  else scores.argmin fun score => score.rank snapshot.productionObjective

/-- `select_production`. -/
def selectProduction (snapshot : RouteSnapshot) : Except VsmError (ExactScore K) := do
  require (snapshot.state = .published) "production routing requires a published RouteSnapshot"
  requireCodingRouteCandidateKeys snapshot.routeKey snapshot.candidateKeys
    (router.posteriors.values.map (·.candidate))
  let scores ← router.scores math snapshot.candidateKeys
  let selected ← Checked.orRaise (pickScore snapshot scores) (.raised "no score to pick")
  let posterior ← router.posterior selected.candidateKey
  require (posterior.verifiedSamples = 0 ∨ posterior.deterministicOrHumanSamples ≠ 0)
    "AI Judge evidence alone cannot promote a production route"
  return selected

end ExactRouter

end Exact

end Nanihold
