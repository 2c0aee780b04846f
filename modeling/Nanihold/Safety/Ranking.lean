import Nanihold.Library.Ranking
import Nanihold.Library.Runs
import Nanihold.Safety.PosteriorOrder

/-!
# The ranking of candidates

In exact arithmetic the scores of a router rank the candidates of a route from 1 on, for each
objective by its own key. A further success of a candidate does not cost it a place where the
reliability comes first, a further failure gains it none, and the others keep their order. What is
picked for production is in the first place, or is the first of the coding route, and is not known
from AI judges alone.

## Main definitions

* `EvidenceStep`, `RecordedEvidence` — the registrations and outcomes of a router.
* `RankingLaw` — what holds of the ranking of some candidates.
* `ExactFigures.sortKey` — the keys of the objectives in one order.

## Main results

* `scores_spec` — the place of a candidate is the number of smaller keys, from 1.
* `rankingLaw_exec` — the law in every state that a router reaches.
-/

namespace Nanihold

section Ranking

variable {K : Type} [Field K] [LinearOrder K]

/-! ### The keys of the objectives -/

/-- The key of an objective, with a zero where it has no second figure. -/
def ExactFigures.sortKey (objective : ProductionObjective) (x : ExactFigures K) :
    K ×ₗ (K ×ₗ String) :=
  match objective with
  | .reliabilityThenCost => toLex (-x.reliability, toLex (x.cost, x.candidateKey))
  | .expectedUtility => toLex (-x.utility, toLex (0, x.candidateKey))
  | .qualityMax => toLex (-x.reliability, toLex (0, x.candidateKey))

theorem comesBefore_iff {objective : ProductionObjective} {x y : ExactFigures K} :
    x.comesBefore objective y ↔ x.sortKey objective ≤ y.sortKey objective := by
  cases objective <;>
    simp only [ExactFigures.comesBefore, ExactFigures.sortKey, Prod.Lex.toLex_le_toLex,
      lt_irrefl, false_or, true_and]

omit [LinearOrder K] in
theorem candidateKey_eq_of_sortKey {objective : ProductionObjective} {x y : ExactFigures K}
    (h : x.sortKey objective = y.sortKey objective) : x.candidateKey = y.candidateKey := by
  cases objective <;> exact congrArg (fun key => (ofLex (ofLex key).2).2) h

instance (objective : ProductionObjective) :
    Std.Total (ExactFigures.comesBefore objective : ExactFigures K → ExactFigures K → Prop) :=
  ⟨fun x y => by
    rw [comesBefore_iff, comesBefore_iff]
    exact le_total _ _⟩

instance (objective : ProductionObjective) :
    IsTrans (ExactFigures K) (ExactFigures.comesBefore objective) :=
  ⟨fun x y z hxy hyz => by
    rw [comesBefore_iff] at hxy hyz ⊢
    exact hxy.trans hyz⟩

/-- **The place in the order of an objective** is the number of smaller keys. -/
theorem idxOf_exactOrdering {raw : List (ExactFigures K)}
    (hnodup : (raw.map (·.candidateKey)).Nodup)
    (objective : ProductionObjective) {x : ExactFigures K} (hx : x ∈ raw) :
    (exactOrdering objective raw).idxOf x.candidateKey =
      raw.countP fun y => y.sortKey objective < x.sortKey objective := by
  have hperm := List.perm_insertionSort (ExactFigures.comesBefore objective) raw
  have hsorted : (raw.insertionSort (ExactFigures.comesBefore objective)).Pairwise fun y z =>
      y.sortKey objective ≤ z.sortKey objective :=
    (List.pairwise_insertionSort (ExactFigures.comesBefore objective) raw).imp
      fun h => comesBefore_iff.mp h
  rw [← hperm.countP_eq]
  exact Ranking.idxOf_sorted hsorted ((hperm.map _).nodup_iff.mpr hnodup)
    (fun y _ z _ h => candidateKey_eq_of_sortKey h) (hperm.mem_iff.mpr hx)

/-! ### Scores -/

section Scores

variable {math : MathFunctions K} {router : ExactRouter K} {keys : List String}
  {scores : List (ExactScore K)}

/-- The key of a candidate that may be registered. -/
def ExactRouter.keyOf (math : MathFunctions K) (router : ExactRouter K)
    (objective : ProductionObjective) (candidateKey : String) : K ×ₗ (K ×ₗ String) :=
  ((router.posteriors.get? candidateKey).map fun posterior =>
    (router.figuresOf math candidateKey posterior).sortKey objective).getD
      (toLex (0, toLex (0, candidateKey)))

theorem keyOf_of_get? {candidateKey : String} {evidence : CandidateEvidence K}
    (h : router.posteriors.get? candidateKey = some evidence) (objective : ProductionObjective) :
    router.keyOf math objective candidateKey =
      (router.figuresOf math candidateKey evidence).sortKey objective := by
  rw [ExactRouter.keyOf, h]
  rfl

theorem figures_eq_ok_iff {candidateKey : String} {x : ExactFigures K} :
    router.figures math candidateKey = .ok x ↔ ∃ evidence,
      router.posteriors.get? candidateKey = some evidence ∧
        router.figuresOf math candidateKey evidence = x := by
  rw [ExactRouter.figures]
  refine Checked.bind_eq_ok_iff.trans (exists_congr fun evidence => and_congr ?_ ?_)
  · exact Checked.orRaise_eq_ok_iff
  · exact Checked.pure_eq_ok_iff

/-- **What the scores are**: one for each candidate, in their order, with its figures and the number
of smaller keys as its place. -/
structure ScoresSpec (math : MathFunctions K) (router : ExactRouter K) (keys : List String)
    (scores : List (ExactScore K)) : Prop where
  names : scores.map (·.candidateKey) = keys
  figures : ∀ s ∈ scores, router.figures math s.candidateKey = .ok s.toExactFigures
  rank : ∀ s ∈ scores, ∀ objective, s.rank objective = (keys.countP fun key =>
    router.keyOf math objective key < router.keyOf math objective s.candidateKey) + 1
  places : ∀ objective,
    (scores.map fun score => score.rank objective).Perm (List.range' 1 keys.length)

section Figures

variable {raw : List (ExactFigures K)}

private theorem keyOf_of_figures {candidateKey : String} {x : ExactFigures K}
    (h : router.figures math candidateKey = .ok x) :
    x.candidateKey = candidateKey ∧
      ∀ objective, x.sortKey objective = router.keyOf math objective candidateKey := by
  obtain ⟨evidence, hget, rfl⟩ := figures_eq_ok_iff.mp h
  exact ⟨rfl, fun objective => (keyOf_of_get? hget objective).symm⟩

private theorem names_of_figures
    (hall : List.Forall₂ (fun key x => router.figures math key = .ok x) keys raw) :
    raw.map (·.candidateKey) = keys := by
  induction hall with
  | nil => rfl
  | cons hx _ ih => rw [List.map_cons, ih, (keyOf_of_figures hx).1]

private theorem sortKeys_of_figures
    (hall : List.Forall₂ (fun key x => router.figures math key = .ok x) keys raw)
    (objective : ProductionObjective) :
    raw.map (ExactFigures.sortKey objective) = keys.map (router.keyOf math objective) := by
  induction hall with
  | nil => rfl
  | cons hx _ ih => rw [List.map_cons, List.map_cons, ih, (keyOf_of_figures hx).2]

private theorem figures_of_mem
    (hall : List.Forall₂ (fun key x => router.figures math key = .ok x) keys raw)
    {x : ExactFigures K} (hx : x ∈ raw) : router.figures math x.candidateKey = .ok x := by
  induction hall with
  | nil => cases hx
  | cons hfigures _ ih =>
    rcases List.mem_cons.mp hx with rfl | hx
    · rwa [(keyOf_of_figures hfigures).1]
    · exact ih hx

end Figures

theorem scores_spec (hnodup : keys.Nodup) (h : router.scores math keys = .ok scores) :
    ScoresSpec math router keys scores := by
  obtain ⟨-, h⟩ := Checked.check_bind_eq_ok_iff.mp h
  obtain ⟨raw, hraw, h⟩ := Checked.bind_eq_ok_iff.mp h
  obtain rfl := Checked.pure_eq_ok_iff.mp h
  have hall := Checked.mapM_eq_ok_iff.mp hraw
  have hnames := names_of_figures hall
  refine ⟨?_, fun s hs => ?_, fun s hs objective => ?_, fun objective => ?_⟩
  · rw [List.map_map]
    exact hnames
  · obtain ⟨x, hx, rfl⟩ := List.mem_map.mp hs
    exact figures_of_mem hall hx
  · obtain ⟨x, hx, rfl⟩ := List.mem_map.mp hs
    have hcount : (raw.countP fun y => y.sortKey objective < x.sortKey objective) =
        keys.countP fun key => router.keyOf math objective key < x.sortKey objective := by
      have hmap := congrArg (List.countP fun v => v < x.sortKey objective)
        (sortKeys_of_figures hall objective)
      rw [List.countP_map, List.countP_map] at hmap
      exact hmap
    change (exactOrdering objective raw).idxOf x.candidateKey + 1 = _
    rw [idxOf_exactOrdering (hnames ▸ hnodup) objective hx, hcount,
      (keyOf_of_figures (figures_of_mem hall hx)).2]
  · have hperm : (exactOrdering objective raw).Perm keys := by
      rw [← hnames]
      exact (List.perm_insertionSort (ExactFigures.comesBefore objective) raw).map _
    have hplaces := Ranking.places_perm hnodup hperm
    rw [← hnames, List.map_map, hnames] at hplaces
    rw [List.map_map]
    exact hplaces

theorem exists_scores (hne : keys ≠ [])
    (hregistered : ∀ key ∈ keys, router.posteriors.contains key = true) :
    ∃ scores, router.scores math keys = .ok scores := by
  have hfigures : ∀ key ∈ keys, ∃ x, router.figures math key = .ok x := by
    intro key hkey
    obtain ⟨evidence, hget⟩ := (OrderedDict.contains_iff ..).mp (hregistered key hkey)
    exact ⟨_, figures_eq_ok_iff.mpr ⟨evidence, hget, rfl⟩⟩
  obtain ⟨raw, hraw⟩ := Checked.exists_mapM_eq_ok hfigures
  exact ⟨_, Checked.check_bind_eq_ok_iff.mpr ⟨hne, Checked.bind_eq_ok_iff.mpr ⟨raw, hraw, rfl⟩⟩⟩

end Scores

variable [IsStrictOrderedRing K]

/-! ### Evidence over runs -/

/-- What a router is told. -/
inductive EvidenceStep (K : Type) where
  | register (candidate : RegisteredCandidate) (priors : List (BenchmarkPrior K))
  | record (outcome : VerifiedRouteOutcome)

/-- A router, and the outcomes that it has taken. -/
structure RecordedEvidence (K : Type) [Field K] [LinearOrder K] where
  router : ExactRouter K
  outcomes : List VerifiedRouteOutcome

/-- The state after a step; what is refused changes nothing. -/
def EvidenceStep.run (math : MathFunctions K) (e : RecordedEvidence K) :
    EvidenceStep K → RecordedEvidence K
  | .register candidate priors =>
    match e.router.register candidate priors with
    | .ok router => { e with router := router }
    | .error _ => e
  | .record outcome =>
    match e.router.updateVerified math outcome with
    | .ok router => ⟨router, e.outcomes ++ [outcome]⟩
    | .error _ => e

/-- A router that knows no candidate. -/
def ExactRouter.new (qualityWeight costWeight latencyWeight : K) (hquality : 0 < qualityWeight)
    (hcost : 0 ≤ costWeight) (hlatency : 0 ≤ latencyWeight) : ExactRouter K where
  qualityWeight := qualityWeight
  costWeight := costWeight
  latencyWeight := latencyWeight
  posteriors := .empty
  quality_pos := hquality
  cost_nonneg := hcost
  latency_nonneg := hlatency

/-- All outcomes of a candidate were judged by an AI alone, and there is one. -/
def RecordedEvidence.IsAiJudged (e : RecordedEvidence K) (candidateKey : String) : Prop :=
  (∃ outcome ∈ e.outcomes, outcome.candidateKey = candidateKey) ∧
    ∀ outcome ∈ e.outcomes, outcome.candidateKey = candidateKey → outcome.IsAiJudged

/-- **The ranking law** of some candidates. -/
structure RankingLaw (math : MathFunctions K) (e : RecordedEvidence K) (keys : List String) :
    Prop where
  /-- The candidates are scored. -/
  scored : ∃ scores, e.router.scores math keys = .ok scores
  /-- Each objective gives the places from 1 on. -/
  places : ∀ scores, e.router.scores math keys = .ok scores → ∀ objective,
    (scores.map fun score => score.rank objective).Perm (List.range' 1 keys.length)
  /-- The places follow the key of the objective. -/
  consistent : ∀ scores, e.router.scores math keys = .ok scores → ∀ s ∈ scores, ∀ t ∈ scores,
    ∀ objective, s.rank objective ≤ t.rank objective ↔
      s.toExactFigures.comesBefore objective t.toExactFigures
  /-- One more success does not cost a place, and one more failure gains none. -/
  monotone : ∀ outcome next, e.router.updateVerified math outcome = .ok next →
    ∀ scores scores', e.router.scores math keys = .ok scores → next.scores math keys = .ok scores' →
    ∀ s ∈ scores, ∀ s' ∈ scores', s.candidateKey = outcome.candidateKey →
      s'.candidateKey = outcome.candidateKey →
      ∀ objective, objective = .reliabilityThenCost ∨ objective = .qualityMax →
        if outcome.success = true then s'.rank objective ≤ s.rank objective
        else s.rank objective ≤ s'.rank objective
  /-- The others keep their order. -/
  others : ∀ outcome next, e.router.updateVerified math outcome = .ok next →
    ∀ scores scores', e.router.scores math keys = .ok scores → next.scores math keys = .ok scores' →
    ∀ s ∈ scores, ∀ t ∈ scores, ∀ s' ∈ scores', ∀ t' ∈ scores',
      s.candidateKey = s'.candidateKey → t.candidateKey = t'.candidateKey →
      s.candidateKey ≠ outcome.candidateKey → t.candidateKey ≠ outcome.candidateKey →
      ∀ objective, s'.rank objective < t'.rank objective ↔ s.rank objective < t.rank objective
  /-- What is picked is in the first place, or the first of the coding route. -/
  picked : ∀ snapshot selected, snapshot.candidateKeys = keys →
    e.router.selectProduction math snapshot = .ok selected →
      (∃ scores, e.router.scores math keys = .ok scores ∧ selected ∈ scores) ∧
      (if snapshot.routeKey = codingRouteKey then keys.head? = some selected.candidateKey
        else selected.rank snapshot.productionObjective = 1)
  /-- What is picked is not known from AI judges alone. -/
  judged : ∀ snapshot selected, snapshot.candidateKeys = keys →
    e.router.selectProduction math snapshot = .ok selected → ¬ e.IsAiJudged selected.candidateKey

/-! ### The law -/

section Law

variable {math : MathFunctions K} {router : ExactRouter K} {outcome : VerifiedRouteOutcome}
  {keys : List String} {e : RecordedEvidence K}

theorem updateVerified_eq_ok {next : ExactRouter K}
    (h : router.updateVerified math outcome = .ok next) :
    (∃ evidence, router.posteriors.get? outcome.candidateKey = some evidence) ∧
      router.withOutcome math outcome = next := by
  obtain ⟨_, hvalid, h⟩ := Checked.bind_eq_ok_iff.mp h
  obtain ⟨evidence, hget, -⟩ := Checked.bind_eq_ok_iff.mp hvalid
  exact ⟨⟨evidence, Checked.orRaise_eq_ok_iff.mp hget⟩, Checked.pure_eq_ok_iff.mp h⟩

theorem get?_withOutcome_of_ne {candidateKey : String}
    (hne : candidateKey ≠ outcome.candidateKey) :
    (router.withOutcome math outcome).posteriors.get? candidateKey =
      router.posteriors.get? candidateKey := by
  refine (OrderedDict.get?_mapValues _ _ _).trans ?_
  simp only [if_neg hne]
  exact congrFun Option.map_id _

theorem get?_withOutcome_self {evidence : CandidateEvidence K}
    (hget : router.posteriors.get? outcome.candidateKey = some evidence) :
    (router.withOutcome math outcome).posteriors.get? outcome.candidateKey =
      some (evidence.update math outcome) := by
  refine (OrderedDict.get?_mapValues _ _ _).trans ?_
  rw [hget, Option.map_some, if_pos rfl]

/-- An outcome leaves the keys of the other candidates. -/
theorem keyOf_withOutcome_of_ne {candidateKey : String} (hne : candidateKey ≠ outcome.candidateKey)
    (objective : ProductionObjective) :
    (router.withOutcome math outcome).keyOf math objective candidateKey =
      router.keyOf math objective candidateKey := by
  rw [ExactRouter.keyOf, ExactRouter.keyOf, get?_withOutcome_of_ne hne]
  rfl

theorem keyOf_withOutcome_self {evidence : CandidateEvidence K}
    (hget : router.posteriors.get? outcome.candidateKey = some evidence)
    (objective : ProductionObjective) :
    (router.withOutcome math outcome).keyOf math objective outcome.candidateKey =
      (router.figuresOf math outcome.candidateKey (evidence.update math outcome)).sortKey
        objective := by
  rw [ExactRouter.keyOf, get?_withOutcome_self hget]
  rfl

/-- A larger reliability is a smaller key where the reliability comes first. -/
theorem sortKey_lt_of_reliability {x y : ExactFigures K} (h : y.reliability < x.reliability)
    {objective : ProductionObjective}
    (hobjective : objective = .reliabilityThenCost ∨ objective = .qualityMax) :
    x.sortKey objective < y.sortKey objective := by
  rcases hobjective with rfl | rfl <;>
    exact Prod.Lex.toLex_lt_toLex.mpr (Or.inl (neg_lt_neg h))

variable (math) in
/-- **One more success** makes the key of the candidate smaller, one more failure larger. -/
theorem keyOf_withOutcome {evidence : CandidateEvidence K}
    (hget : router.posteriors.get? outcome.candidateKey = some evidence)
    {objective : ProductionObjective}
    (hobjective : objective = .reliabilityThenCost ∨ objective = .qualityMax) :
    if outcome.success = true then
      (router.withOutcome math outcome).keyOf math objective outcome.candidateKey <
        router.keyOf math objective outcome.candidateKey
    else router.keyOf math objective outcome.candidateKey <
      (router.withOutcome math outcome).keyOf math objective outcome.candidateKey := by
  rw [keyOf_withOutcome_self hget, keyOf_of_get? hget]
  split_ifs with hsuccess
  · refine sortKey_lt_of_reliability ?_ hobjective
    change evidence.success.mean < (evidence.success.observe outcome.success).mean
    rw [hsuccess]
    exact evidence.success.mean_lt_observe_true
  · refine sortKey_lt_of_reliability ?_ hobjective
    change (evidence.success.observe outcome.success).mean < evidence.success.mean
    rw [Bool.not_eq_true] at hsuccess
    rw [hsuccess]
    exact evidence.success.mean_observe_false_lt

omit [IsStrictOrderedRing K] in
/-- What is picked, and what is known of it. -/
theorem selectProduction_eq_ok {snapshot : RouteSnapshot} {selected : ExactScore K}
    (h : router.selectProduction math snapshot = .ok selected) :
    ∃ scores evidence, router.scores math snapshot.candidateKeys = .ok scores ∧
      ExactRouter.pickScore snapshot scores = some selected ∧
      router.posteriors.get? selected.candidateKey = some evidence ∧
      (evidence.verifiedSamples = 0 ∨ evidence.deterministicOrHumanSamples ≠ 0) := by
  obtain ⟨-, h⟩ := Checked.check_bind_eq_ok_iff.mp h
  obtain ⟨_, -, h⟩ := Checked.bind_eq_ok_iff.mp h
  obtain ⟨scores, hscores, h⟩ := Checked.bind_eq_ok_iff.mp h
  obtain ⟨picked, hpicked, h⟩ := Checked.orRaise_bind_eq_ok_iff.mp h
  obtain ⟨evidence, hget, h⟩ := Checked.orRaise_bind_eq_ok_iff.mp h
  obtain ⟨hjudged, h⟩ := Checked.check_bind_eq_ok_iff.mp h
  obtain rfl := Checked.pure_eq_ok_iff.mp h
  exact ⟨scores, evidence, hscores, hpicked, hget, hjudged⟩

omit [IsStrictOrderedRing K] in
/-- What is picked is one of the scores: the first of the coding route, else one in the first
place. -/
theorem pickScore_spec {snapshot : RouteSnapshot} {scores : List (ExactScore K)}
    {selected : ExactScore K} (hspec : ScoresSpec math router keys scores)
    (h : ExactRouter.pickScore snapshot scores = some selected) :
    selected ∈ scores ∧ (if snapshot.routeKey = codingRouteKey then
      keys.head? = some selected.candidateKey
      else selected.rank snapshot.productionObjective = 1) := by
  unfold ExactRouter.pickScore at h
  split_ifs at h ⊢ with hcoding
  · refine ⟨List.mem_of_mem_head? h, ?_⟩
    rw [← hspec.names, List.head?_map, h]
    rfl
  · have hmem : selected ∈ scores := List.argmin_mem h
    refine ⟨hmem, Nat.le_antisymm ?_ ?_⟩
    · have hfirst : 1 ∈ scores.map fun score => score.rank snapshot.productionObjective := by
        rw [(hspec.places snapshot.productionObjective).mem_iff, List.mem_range'_1]
        have : 0 < keys.length := by
          rw [← hspec.names, List.length_map]
          exact List.length_pos_of_mem hmem
        omega
      obtain ⟨best, hbest, hone⟩ := List.mem_map.mp hfirst
      exact hone ▸ List.le_of_mem_argmin hbest h
    · rw [hspec.rank selected hmem]
      exact Nat.succ_pos _

/-! ### Evidence and outcomes -/

/-- **The counters** of a candidate count its outcomes. -/
structure CountsOutcomes (e : RecordedEvidence K) : Prop where
  known : ∀ o ∈ e.outcomes, e.router.posteriors.contains o.candidateKey = true
  verified : ∀ key evidence, e.router.posteriors.get? key = some evidence →
    evidence.verifiedSamples = e.outcomes.countP (·.candidateKey = key)
  judged : ∀ key evidence, e.router.posteriors.get? key = some evidence →
    evidence.deterministicOrHumanSamples =
      e.outcomes.countP fun o => o.candidateKey = key ∧ ¬ o.IsAiJudged

private theorem countsOutcomes_record (h : CountsOutcomes e) {next : ExactRouter K}
    (hnext : e.router.updateVerified math outcome = .ok next) :
    CountsOutcomes ⟨next, e.outcomes ++ [outcome]⟩ := by
  obtain ⟨⟨_, hregistered⟩, rfl⟩ := updateVerified_eq_ok hnext
  have hget {key : String} {evidence : CandidateEvidence K}
      (hget : (e.router.withOutcome math outcome).posteriors.get? key = some evidence) :
      ∃ old, e.router.posteriors.get? key = some old ∧
        (if key = outcome.candidateKey then old.update math outcome else old) = evidence := by
    rwa [ExactRouter.withOutcome, OrderedDict.get?_mapValues, Option.map_eq_some_iff] at hget
  refine ⟨fun o ho => ?_, fun key evidence hkey => ?_, fun key evidence hkey => ?_⟩
  · rw [ExactRouter.withOutcome, OrderedDict.contains_mapValues]
    rcases List.mem_append.mp ho with hold | hnew
    · exact h.known o hold
    · rw [List.mem_singleton.mp hnew]
      exact (OrderedDict.contains_iff ..).mpr ⟨_, hregistered⟩
  · obtain ⟨old, hold, rfl⟩ := hget hkey
    rw [List.countP_append, ← h.verified key old hold, List.countP_singleton]
    by_cases hsame : key = outcome.candidateKey
    · rw [if_pos hsame, if_pos (decide_eq_true hsame.symm)]
      rfl
    · rw [if_neg hsame, if_neg (by rw [decide_eq_true_eq]; exact Ne.symm hsame), Nat.add_zero]
  · obtain ⟨old, hold, rfl⟩ := hget hkey
    rw [List.countP_append, ← h.judged key old hold, List.countP_singleton]
    by_cases hsame : key = outcome.candidateKey
    · rw [if_pos hsame, CandidateEvidence.update]
      by_cases hai : outcome.IsAiJudged
      · rw [if_pos hai, if_neg (by rw [decide_eq_true_eq]; exact fun hand => hand.2 hai)]
        rfl
      · rw [if_neg hai, if_pos (decide_eq_true ⟨hsame.symm, hai⟩)]
    · rw [if_neg hsame, if_neg (by rw [decide_eq_true_eq]; exact fun hand => hsame hand.1.symm),
        Nat.add_zero]

private theorem countsOutcomes_register (h : CountsOutcomes e) {next : ExactRouter K}
    {candidate : RegisteredCandidate} {priors : List (BenchmarkPrior K)}
    (hnext : e.router.register candidate priors = .ok next) :
    CountsOutcomes { e with router := next } := by
  obtain ⟨hnew, -, -, rfl⟩ := register_eq_ok_iff.mp hnext
  have hbatch := isBatchRegistration_foldl candidate priors
  -- No outcome of a candidate that was not registered has been taken.
  have hnone (p : VerifiedRouteOutcome → Bool)
      (hp : ∀ o, p o = true → o.candidateKey = candidate.key) : e.outcomes.countP p = 0 := by
    rw [List.countP_eq_zero]
    intro o ho hkey
    have hknown := h.known o ho
    rw [hp o hkey, hnew] at hknown
    cases hknown
  refine ⟨fun o ho => ?_, fun key evidence hkey => ?_, fun key evidence hkey => ?_⟩
  · rw [ExactRouter.withEvidence, OrderedDict.contains_set, h.known o ho, Bool.or_true]
  · rw [ExactRouter.withEvidence, OrderedDict.get?_set] at hkey
    split_ifs at hkey with hsame
    · rw [← Option.some.inj hkey, hbatch.verifiedSamples, hnone]
      exact fun o ho => (of_decide_eq_true ho).trans hsame.symm
    · exact h.verified key evidence hkey
  · rw [ExactRouter.withEvidence, OrderedDict.get?_set] at hkey
    split_ifs at hkey with hsame
    · rw [← Option.some.inj hkey, hbatch.deterministicOrHumanSamples, hnone]
      exact fun o ho => (of_decide_eq_true ho).1.trans hsame.symm
    · exact h.judged key evidence hkey

/-- **Every run** keeps the counters. -/
theorem countsOutcomes_exec (steps : List (EvidenceStep K)) (h : CountsOutcomes e) :
    CountsOutcomes (Run.exec (EvidenceStep.run math) e steps) := by
  refine Run.exec_invariant (fun e step h => ?_) steps h
  cases step with
  | register candidate priors =>
    cases hnext : e.router.register candidate priors with
    | ok next =>
      simp only [EvidenceStep.run, hnext]
      exact countsOutcomes_register h hnext
    | error failure =>
      simp only [EvidenceStep.run, hnext]
      exact h
  | record outcome =>
    cases hnext : e.router.updateVerified math outcome with
    | ok next =>
      simp only [EvidenceStep.run, hnext]
      exact countsOutcomes_record h hnext
    | error failure =>
      simp only [EvidenceStep.run, hnext]
      exact h

/-- **The ranking law** holds of registered candidates in every state whose counters are right. -/
theorem rankingLaw (hcounts : CountsOutcomes e) (hne : keys ≠ []) (hnodup : keys.Nodup)
    (hregistered : ∀ key ∈ keys, e.router.posteriors.contains key = true) :
    RankingLaw math e keys where
  scored := exists_scores hne hregistered
  places scores h := (scores_spec hnodup h).places
  consistent scores h s hs t ht objective := by
    have hspec := scores_spec hnodup h
    have hmem {s : ExactScore K} (hs : s ∈ scores) : s.candidateKey ∈ keys := by
      rw [← hspec.names]
      exact List.mem_map_of_mem hs
    have hkey {s : ExactScore K} (hs : s ∈ scores) :
        s.toExactFigures.sortKey objective = e.router.keyOf math objective s.candidateKey :=
      (keyOf_of_figures (hspec.figures s hs)).2 objective
    rw [comesBefore_iff, hkey hs, hkey ht, hspec.rank s hs, hspec.rank t ht,
      Nat.add_le_add_iff_right, ← not_lt, ← not_lt, Ranking.countP_lt_iff (hmem ht)]
  monotone outcome next hnext scores scores' h h' s hs s' hs' hkey hkey' objective hobjective := by
    obtain ⟨⟨evidence, hget⟩, rfl⟩ := updateVerified_eq_ok hnext
    have hlt := keyOf_withOutcome math hget hobjective
    rw [(scores_spec hnodup h).rank s hs, (scores_spec hnodup h').rank s' hs', hkey, hkey']
    split_ifs at hlt ⊢ with hsuccess
    · refine Nat.succ_le_succ (Ranking.countP_le_of_le (fun key _ hne => ?_) hlt.le)
      exact keyOf_withOutcome_of_ne hne objective
    · refine Nat.succ_le_succ (Ranking.countP_le_of_le (fun key _ hne => ?_) hlt.le)
      exact (keyOf_withOutcome_of_ne hne objective).symm
  others outcome next hnext scores scores' h h' s hs t ht s' hs' t' ht' hsame hsame' hne hne'
      objective := by
    obtain ⟨-, rfl⟩ := updateVerified_eq_ok hnext
    have hspec := scores_spec hnodup h
    have hspec' := scores_spec hnodup h'
    have hmem {s : ExactScore K} (hs : s ∈ scores) : s.candidateKey ∈ keys := by
      rw [← hspec.names]
      exact List.mem_map_of_mem hs
    rw [hspec.rank s hs, hspec.rank t ht, hspec'.rank s' hs', hspec'.rank t' ht',
      Nat.add_lt_add_iff_right, Nat.add_lt_add_iff_right, ← hsame, ← hsame',
      Ranking.countP_lt_iff (hmem hs), Ranking.countP_lt_iff (hmem hs),
      keyOf_withOutcome_of_ne hne, keyOf_withOutcome_of_ne hne']
  picked snapshot selected hkeys hselected := by
    obtain ⟨scores, _, hscores, hpick, -⟩ := selectProduction_eq_ok hselected
    rw [hkeys] at hscores
    obtain ⟨hmem, hplace⟩ := pickScore_spec (scores_spec hnodup hscores) hpick
    exact ⟨⟨scores, hscores, hmem⟩, hplace⟩
  judged snapshot selected _ hselected := by
    obtain ⟨_, evidence, -, -, hget, hjudged⟩ := selectProduction_eq_ok hselected
    rintro ⟨⟨o, ho, hkey⟩, hall⟩
    rw [hcounts.verified _ _ hget, hcounts.judged _ _ hget] at hjudged
    rcases hjudged with hnone | hsome
    · exact List.countP_eq_zero.mp hnone o ho (decide_eq_true hkey)
    · refine hsome (List.countP_eq_zero.mpr fun o ho hboth => ?_)
      obtain ⟨hkey, hai⟩ := of_decide_eq_true hboth
      exact hai (hall o ho hkey)

end Law

/-- **In every state that a router reaches**, the ranking law holds of distinct registered
candidates. -/
theorem rankingLaw_exec (math : MathFunctions K) (qualityWeight costWeight latencyWeight : K)
    (hquality : 0 < qualityWeight) (hcost : 0 ≤ costWeight) (hlatency : 0 ≤ latencyWeight)
    (steps : List (EvidenceStep K)) {keys : List String} (hne : keys ≠ []) (hnodup : keys.Nodup)
    (hregistered : ∀ key ∈ keys, (Run.exec (EvidenceStep.run math)
      ⟨.new qualityWeight costWeight latencyWeight hquality hcost hlatency, []⟩
        steps).router.posteriors.contains key = true) :
    RankingLaw math (Run.exec (EvidenceStep.run math)
      ⟨.new qualityWeight costWeight latencyWeight hquality hcost hlatency, []⟩ steps) keys := by
  refine rankingLaw (countsOutcomes_exec steps ⟨fun o ho => ?_, fun key evidence h => ?_,
    fun key evidence h => ?_⟩) hne hnodup hregistered
  · cases ho
  · cases h
  · cases h

end Ranking

/-! ### Two candidates -/

/-- A benchmark of one success. -/
def rankingPrior : BenchmarkPrior ℚ where
  source := .terminalBench
  benchmarkFamily := .coding
  sampleCount := 1
  successes := 1
  failures := 0
  logTokenSamples := [4]
  logCostSamples := [0]
  logLatencySamples := [1]
  sample_count_pos := one_pos
  token_samples_ne_nil := by decide
  cost_samples_ne_nil := by decide
  latency_samples_ne_nil := by decide

/-- Two candidates and a success of the second. -/
def rankingSteps : List (EvidenceStep ℚ) :=
  [.register (rankedCandidate "codex@1") [rankingPrior],
    .register (rankedCandidate "codex@2") [rankingPrior],
    .record (rankedOutcome "codex@2" true)]

theorem rankingLaw_exec_pair :
    RankingLaw rationalMath (Run.exec (EvidenceStep.run rationalMath)
      ⟨.new 1 0 0 one_pos le_rfl le_rfl, []⟩ rankingSteps) ["codex@1", "codex@2"] :=
  rankingLaw_exec rationalMath 1 0 0 one_pos le_rfl le_rfl rankingSteps (by decide) (by decide)
    (by decide +kernel)

end Nanihold
