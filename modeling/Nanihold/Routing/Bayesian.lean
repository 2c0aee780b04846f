import Nanihold.Pilot.Models
import Mathlib.Data.List.MinMax
import Mathlib.Data.List.Sort

/-!
# The router's choice

`vsm.routing.bayesian.BayesianRouter` scores the candidates of a route by their posteriors and
picks the one that a production dispatch uses. The posteriors are floats, as in the source; which
candidates can be picked does not depend on their values.

## Main definitions

* `CandidatePosterior`, `ScoringRouter` — what the router knows of each registered candidate.
* `requireCodingRouteCandidateKeys` — the fixed order of the coding route.
* `ScoringRouter.scores`, `ScoringRouter.selectProduction` — the scores and the choice.

## Main results

* `ScoringRouter.selectProduction_spec` — the choice is a registered candidate of a published
  snapshot.
-/

namespace Nanihold

/-! ### Candidates and posteriors -/

inductive ModelSelection where
  | exact | providerConfigured
  deriving DecidableEq

/-- A candidate with the fields that the coding route looks at. -/
structure RegisteredCandidate extends ModelCandidate where
  selection : ModelSelection
  effort : NonBlank
  deriving DecidableEq

structure BetaPosterior where
  alpha : Float
  beta : Float

def BetaPosterior.mean (p : BetaPosterior) : Float := p.alpha / (p.alpha + p.beta)

structure NormalInverseGamma where
  mu : Float
  lam : Float
  alpha : Float
  beta : Float

/-- `geometric_mean`: `math.exp` raises when a finite argument overflows. -/
def NormalInverseGamma.geometricMean (p : NormalInverseGamma) : Except VsmError Float :=
  if p.mu.exp.isInf && p.mu.isFinite then throw (.raised "math range error") else
    return p.mu.exp

structure CandidatePosterior where
  candidate : RegisteredCandidate
  success : BetaPosterior
  tokens : NormalInverseGamma
  cost : NormalInverseGamma
  latency : NormalInverseGamma
  verifiedSamples : Nat
  deterministicOrHumanSamples : Nat

/-- A router with its posteriors, by the keys of the candidates. -/
structure ScoringRouter where
  qualityWeight : Float
  costWeight : Float
  latencyWeight : Float
  posteriors : OrderedDict String CandidatePosterior

/-! ### The coding route -/

def codingRouteKey : String := "coding:personal-production"

def codingRouteCandidateModels : List String := ["gpt-5.6-luna", "gpt-5.6-sol"]

/-- One candidate of `require_coding_escalation_candidates`: a coding model is noted once, if it is
an exact openai/xhigh one. -/
def noteCodingCandidate (byModel : OrderedDict String RegisteredCandidate)
    (candidate : RegisteredCandidate) :
    Except VsmError (OrderedDict String RegisteredCandidate) :=
  match candidate.modelSnapshot with
  | none => return byModel
  | some model =>
    if model ∉ codingRouteCandidateModels then return byModel
    else do
      require (candidate.provider = "openai" ∧ candidate.selection = .exact ∧
          candidate.effort = "xhigh")
        "coding escalation candidates must be exact openai/xhigh models"
      require (byModel.contains model = false)
        s!"coding escalation candidate is registered more than once: {model}"
      return byModel.set model candidate

/-- `require_coding_escalation_candidates`: the two coding candidates, in their order. -/
def requireCodingEscalationCandidates (candidates : List RegisteredCandidate) :
    Except VsmError (List RegisteredCandidate) := do
  let byModel ← candidates.foldlM noteCodingCandidate .empty
  codingRouteCandidateModels.mapM fun model =>
    found (byModel.get? model)
      "production coding route requires exactly gpt-5.6-luna and gpt-5.6-sol candidates"

/-- `require_coding_route_candidate_keys`. -/
def requireCodingRouteCandidateKeys (routeKey : String) (candidateKeys : List String)
    (registry : List RegisteredCandidate) : Except VsmError Unit :=
  if routeKey ≠ codingRouteKey then return
  else do
    let expected ← requireCodingEscalationCandidates registry
    require (candidateKeys = expected.map (·.key))
      ("coding:personal-production requires candidate keys in gpt-5.6-luna/xhigh then " ++
        "gpt-5.6-sol/xhigh order")

/-! ### Scores -/

structure RouteScore where
  candidateKey : String
  reliability : Float
  expectedTokens : Float
  expectedCost : Float
  expectedLatencyMs : Float
  expectedUtility : Float
  /-- The place of the candidate in the order of each objective, from 1. -/
  rank : ProductionObjective → Nat

/-- The figures of one candidate before it is ranked. -/
structure RawScore where
  candidateKey : String
  reliability : Float
  tokens : Float
  cost : Float
  latency : Float
  utility : Float

/-- A tuple of floats that ends in a key comes before another: the first floats that differ
decide, and then the keys. -/
def tupleBefore : List Float × String → List Float × String → Bool
  | (x :: xs, key), (y :: ys, other) =>
    if x == y then tupleBefore (xs, key) (ys, other) else x < y
  | (_, key), (_, other) => key < other

/-- What `sorted` compares for an objective. -/
def RawScore.sortKey (objective : ProductionObjective) (raw : RawScore) : List Float × String :=
  match objective with
  | .reliabilityThenCost => ([-raw.reliability, raw.cost], raw.candidateKey)
  | .expectedUtility => ([-raw.utility], raw.candidateKey)
  | .qualityMax => ([-raw.reliability], raw.candidateKey)

/-- The order of an objective. The sort is stable. -/
def ordering (objective : ProductionObjective) (raw : List RawScore) : List String :=
  (raw.insertionSort fun score other =>
    tupleBefore (other.sortKey objective) (score.sortKey objective) = false).map (·.candidateKey)

namespace ScoringRouter

variable (router : ScoringRouter)

/-- `_require`. -/
def posterior (candidateKey : String) : Except VsmError CandidatePosterior :=
  found (router.posteriors.get? candidateKey) s!"unregistered ModelCandidate: {candidateKey}"

/-- The figures of one candidate. -/
def rawScore (candidateKey : String) : Except VsmError RawScore := do
  let posterior ← router.posterior candidateKey
  let reliability := posterior.success.mean
  let tokens ← posterior.tokens.geometricMean
  let cost ← posterior.cost.geometricMean
  let latency ← posterior.latency.geometricMean
  return {
    candidateKey := candidateKey
    reliability := reliability
    tokens := tokens
    cost := cost
    latency := latency
    utility := router.qualityWeight * reliability - router.costWeight * cost -
      router.latencyWeight * latency }

/-- `scores`. -/
def scores (candidateKeys : List String) : Except VsmError (List RouteScore) := do
  require (candidateKeys ≠ []) "routing requires at least one candidate"
  let raw ← candidateKeys.mapM router.rawScore
  return raw.map fun score =>
    { candidateKey := score.candidateKey
      reliability := score.reliability
      expectedTokens := score.tokens
      expectedCost := score.cost
      expectedLatencyMs := score.latency
      expectedUtility := score.utility
      rank := fun objective => (ordering objective raw).idxOf score.candidateKey + 1 }

/-- The score that `select_production` picks: the first of the coding route, else the one of the
lowest rank, the first of several. -/
def pick (snapshot : RouteSnapshot) (scores : List RouteScore) : Option RouteScore :=
  if snapshot.routeKey = codingRouteKey then scores.head?
  else scores.argmin fun score => score.rank snapshot.productionObjective

/-- The part of `select_production` that scores the candidates and picks one, which must have
evidence from more than AI judges once it has any. -/
def pickProduction (snapshot : RouteSnapshot) : Except VsmError RouteScore := do
  let scores ← router.scores snapshot.candidateKeys
  let selected ← Checked.orRaise (pick snapshot scores) (.raised "no score to pick")
  let posterior ← router.posterior selected.candidateKey
  require (posterior.verifiedSamples = 0 ∨ posterior.deterministicOrHumanSamples ≠ 0)
    "AI Judge evidence alone cannot promote a production route"
  return selected

/-- `select_production`. -/
def selectProduction (snapshot : RouteSnapshot) : Except VsmError RouteScore := do
  require (snapshot.state = .published) "production routing requires a published RouteSnapshot"
  if snapshot.routeKey = codingRouteKey then
    requireCodingRouteCandidateKeys snapshot.routeKey snapshot.candidateKeys
      (router.posteriors.values.map (·.candidate))
  router.pickProduction snapshot

/-! ### What can be picked -/

variable {router}

theorem candidateKey_of_rawScore {candidateKey : String} {raw : RawScore}
    (h : router.rawScore candidateKey = .ok raw) : raw.candidateKey = candidateKey := by
  obtain ⟨_, -, h⟩ := Checked.bind_eq_ok_iff.mp h
  obtain ⟨_, -, h⟩ := Checked.bind_eq_ok_iff.mp h
  obtain ⟨_, -, h⟩ := Checked.bind_eq_ok_iff.mp h
  obtain ⟨_, -, h⟩ := Checked.bind_eq_ok_iff.mp h
  rw [← Checked.pure_eq_ok_iff.mp h]

theorem candidateKeys_of_rawScores {candidateKeys : List String} {raw : List RawScore}
    (h : candidateKeys.mapM router.rawScore = .ok raw) :
    raw.map (·.candidateKey) = candidateKeys := by
  have hall := Checked.mapM_eq_ok h
  clear h
  induction hall with
  | nil => rfl
  | cons hscore _ ih => rw [List.map_cons, ih, candidateKey_of_rawScore hscore]

/-- There is one score for each candidate, in their order. -/
theorem candidateKeys_of_scores {candidateKeys : List String} {scores : List RouteScore}
    (h : router.scores candidateKeys = .ok scores) :
    scores.map (·.candidateKey) = candidateKeys := by
  obtain ⟨-, h⟩ := Checked.check_bind_eq_ok_iff.mp h
  obtain ⟨raw, hraw, h⟩ := Checked.bind_eq_ok_iff.mp h
  rw [← Checked.pure_eq_ok_iff.mp h, List.map_map]
  exact candidateKeys_of_rawScores hraw

theorem mem_of_pick {snapshot : RouteSnapshot} {scores : List RouteScore} {score : RouteScore}
    (h : pick snapshot scores = some score) : score ∈ scores := by
  unfold pick at h
  split_ifs at h
  · exact List.mem_of_mem_head? h
  · exact List.argmin_mem h

theorem pickProduction_spec {snapshot : RouteSnapshot} {selected : RouteScore}
    (h : router.pickProduction snapshot = .ok selected) :
    selected.candidateKey ∈ snapshot.candidateKeys ∧
      router.posteriors.contains selected.candidateKey = true := by
  obtain ⟨scores, hscores, h⟩ := Checked.bind_eq_ok_iff.mp h
  obtain ⟨picked, hpick, h⟩ := Checked.orRaise_bind_eq_ok_iff.mp h
  obtain ⟨posterior, hposterior, h⟩ := Checked.bind_eq_ok_iff.mp h
  obtain ⟨-, h⟩ := Checked.check_bind_eq_ok_iff.mp h
  obtain rfl := Checked.pure_eq_ok_iff.mp h
  constructor
  · rw [← candidateKeys_of_scores hscores]
    exact List.mem_map_of_mem (mem_of_pick hpick)
  · exact (OrderedDict.contains_iff ..).mpr ⟨posterior, Checked.orRaise_eq_ok_iff.mp hposterior⟩

/-- **What the router picks** for production is one of the candidates of a published snapshot, and
is registered. -/
theorem selectProduction_spec {snapshot : RouteSnapshot} {selected : RouteScore}
    (h : router.selectProduction snapshot = .ok selected) :
    snapshot.state = .published ∧ selected.candidateKey ∈ snapshot.candidateKeys ∧
      router.posteriors.contains selected.candidateKey = true := by
  obtain ⟨hpublished, h⟩ := Checked.check_bind_eq_ok_iff.mp h
  refine ⟨hpublished, ?_⟩
  split_ifs at h
  · obtain ⟨_, -, h⟩ := Checked.bind_eq_ok_iff.mp h
    exact pickProduction_spec h
  · exact pickProduction_spec h

end ScoringRouter

end Nanihold
