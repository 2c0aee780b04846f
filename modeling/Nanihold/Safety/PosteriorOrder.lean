import Nanihold.Routing.Exact

/-!
# The order of the evidence

In exact arithmetic the posteriors of a candidate do not depend on the order in which its verified
outcomes come in or its priors are registered: they are the closed forms of the observations.

## Main definitions

* `ExactRouter.updateAll` — outcomes one after the other.
* `IsBatchPosterior` — the posteriors are those of the observations, in closed form.
* `SameFigures` — two bodies of evidence differ only in the order of the priors.

## Main results

* `updateAll_eq_ok_iff` — what a list of outcomes makes of a router.
* `posterior_order_independent` — the order does not matter.
-/

namespace Nanihold

section Posteriors

variable {K : Type} [Field K] [LinearOrder K] [IsStrictOrderedRing K]

/-- Outcomes one after the other. -/
def ExactRouter.updateAll (math : MathFunctions K) (router : ExactRouter K)
    (outcomes : List VerifiedRouteOutcome) : Except VsmError (ExactRouter K) :=
  outcomes.foldlM (fun router outcome => router.updateVerified math outcome) router

/-- The parameters of the posteriors are positive. -/
def CandidateEvidence.IsPositive (evidence : CandidateEvidence K) : Prop :=
  (0 < evidence.success.alpha ∧ 0 < evidence.success.beta) ∧
    ∀ p ∈ [evidence.tokens, evidence.cost, evidence.latency], 0 < p.lam ∧ 0 < p.alpha ∧ 0 < p.beta

/-- **The closed form**: the posteriors are those of all the outcomes at once. -/
structure IsBatchPosterior (math : MathFunctions K) (prior : CandidateEvidence K)
    (outcomes : List VerifiedRouteOutcome) (posterior : CandidateEvidence K) : Prop where
  success : posterior.success = prior.success.batch (outcomes.map (·.success))
  tokens : posterior.tokens = prior.tokens.batch (outcomes.map fun o => math.log o.tokens)
  cost : posterior.cost = prior.cost.batch (outcomes.map fun o => math.log o.cost)
  latency : posterior.latency = prior.latency.batch (outcomes.map fun o => math.log o.latencyMs)
  positive : posterior.IsPositive

/-- Two bodies of evidence differ only in the order of the priors. -/
structure SameFigures (evidence other : CandidateEvidence K) : Prop where
  candidate : evidence.candidate = other.candidate
  success : evidence.success = other.success
  tokens : evidence.tokens = other.tokens
  cost : evidence.cost = other.cost
  latency : evidence.latency = other.latency
  judgeConfusion : evidence.judgeConfusion = other.judgeConfusion
  verifiedSamples : evidence.verifiedSamples = other.verifiedSamples
  deterministicOrHumanSamples :
    evidence.deterministicOrHumanSamples = other.deterministicOrHumanSamples
  priorSources : evidence.priorSources.Perm other.priorSources

omit [IsStrictOrderedRing K] in
theorem CandidateEvidence.isPositive (evidence : CandidateEvidence K) : evidence.IsPositive := by
  refine ⟨⟨evidence.success.alpha_pos, evidence.success.beta_pos⟩, fun p _ => ?_⟩
  exact ⟨p.lam_pos, p.alpha_pos, p.beta_pos⟩

/-! ### Outcomes -/

section Outcomes

variable {math : MathFunctions K} {router : ExactRouter K} {outcome : VerifiedRouteOutcome}

private theorem observe_comm (p : NormalGamma K) (x y : K) :
    (p.observe x).observe y = (p.observe y).observe x := by
  have h := p.batch_perm (List.Perm.swap x y [])
  rw [← p.foldl_observe, ← p.foldl_observe] at h
  exact h.symm

private theorem betaObserve_comm (p : BetaPrior K) (x y : Bool) :
    (p.observe x).observe y = (p.observe y).observe x := by
  have h := p.batch_perm (List.Perm.swap x y [])
  rw [← p.foldl_observe, ← p.foldl_observe] at h
  exact h.symm

private theorem confusion_comm (m : ConfusionMatrix) (p v p' v' : Bool) :
    (m.update p v).update p' v' = (m.update p' v').update p v := by
  cases p <;> cases v <;> cases p' <;> cases v' <;> rfl

private theorem judgeConfusion_update (evidence : CandidateEvidence K) :
    (evidence.update math outcome).judgeConfusion =
      outcome.judge.elim evidence.judgeConfusion fun judge => evidence.judgeConfusion.update
        judge.predictedSuccess (judge.verifiedSuccess.getD false) := rfl

/-- **Two updates** may change places. -/
theorem CandidateEvidence.update_comm (evidence : CandidateEvidence K)
    (o o' : VerifiedRouteOutcome) :
    (evidence.update math o).update math o' = (evidence.update math o').update math o := by
  have hconfusion : ((evidence.update math o).update math o').judgeConfusion =
      ((evidence.update math o').update math o).judgeConfusion := by
    rw [judgeConfusion_update, judgeConfusion_update, judgeConfusion_update, judgeConfusion_update]
    cases o.judge with
    | none => rfl
    | some judge =>
      cases o'.judge with
      | none => rfl
      | some judge' => exact confusion_comm ..
  have hsamples : ((evidence.update math o).update math o').deterministicOrHumanSamples =
      ((evidence.update math o').update math o).deterministicOrHumanSamples := by
    change ite _ (ite _ _ _) (ite _ _ _ + 1) = ite _ (ite _ _ _) (ite _ _ _ + 1)
    split_ifs <;> rfl
  have hsuccess := betaObserve_comm evidence.success o.success o'.success
  have htokens := observe_comm evidence.tokens (math.log o.tokens) (math.log o'.tokens)
  have hcost := observe_comm evidence.cost (math.log o.cost) (math.log o'.cost)
  have hlatency := observe_comm evidence.latency (math.log o.latencyMs) (math.log o'.latencyMs)
  rw [CandidateEvidence.mk.injEq]
  exact ⟨rfl, hsuccess, htokens, hcost, hlatency, hconfusion, rfl, hsamples, rfl⟩

/-- The updates by many outcomes. -/
def CandidateEvidence.updateAll (math : MathFunctions K) (evidence : CandidateEvidence K)
    (outcomes : List VerifiedRouteOutcome) : CandidateEvidence K :=
  outcomes.foldl (fun evidence outcome => evidence.update math outcome) evidence

/-- **Many updates** give the closed form. -/
theorem isBatchPosterior_foldl (evidence : CandidateEvidence K)
    (outcomes : List VerifiedRouteOutcome) :
    IsBatchPosterior math evidence outcomes
      (evidence.updateAll math outcomes) where
  success := by
    rw [← BetaPrior.foldl_observe, List.foldl_map]
    exact (List.foldl_hom CandidateEvidence.success fun _ _ => rfl).symm
  tokens := by
    rw [← NormalGamma.foldl_observe, List.foldl_map]
    exact (List.foldl_hom CandidateEvidence.tokens fun _ _ => rfl).symm
  cost := by
    rw [← NormalGamma.foldl_observe, List.foldl_map]
    exact (List.foldl_hom CandidateEvidence.cost fun _ _ => rfl).symm
  latency := by
    rw [← NormalGamma.foldl_observe, List.foldl_map]
    exact (List.foldl_hom CandidateEvidence.latency fun _ _ => rfl).symm
  positive := CandidateEvidence.isPositive _

/-- The router with the evidence of many outcomes. -/
def ExactRouter.withOutcomes (math : MathFunctions K) (router : ExactRouter K)
    (outcomes : List VerifiedRouteOutcome) : ExactRouter K :=
  { router with
    posteriors := router.posteriors.mapValues fun key evidence =>
      evidence.updateAll math (outcomes.filter (·.candidateKey = key)) }

private theorem withOutcomes_cons (outcomes : List VerifiedRouteOutcome) :
    router.withOutcomes math (outcome :: outcomes) =
      (router.withOutcome math outcome).withOutcomes math outcomes := by
  rw [ExactRouter.withOutcomes, ExactRouter.withOutcomes, ExactRouter.withOutcome,
    OrderedDict.mapValues_mapValues]
  congr 2
  funext key evidence
  rw [List.filter_cons]
  by_cases h : outcome.candidateKey = key
  · rw [if_pos (decide_eq_true h), if_pos h.symm]
    rfl
  · rw [if_neg (by rwa [decide_eq_true_eq]), if_neg (Ne.symm h)]

/-- **The order of the outcomes** of a router does not matter. -/
theorem withOutcomes_perm {outcomes outcomes' : List VerifiedRouteOutcome}
    (hperm : outcomes.Perm outcomes') :
    router.withOutcomes math outcomes = router.withOutcomes math outcomes' := by
  have hcomm : RightCommutative fun (evidence : CandidateEvidence K) outcome =>
      evidence.update math outcome := ⟨fun evidence o o' => evidence.update_comm o o'⟩
  rw [ExactRouter.withOutcomes, ExactRouter.withOutcomes]
  congr 2
  funext key evidence
  exact (hperm.filter _).foldl_eq evidence

/-- The checks of an outcome do not look at the evidence. -/
private theorem validateVerified_withOutcome (other : VerifiedRouteOutcome) :
    (router.withOutcome math outcome).validateVerified other = router.validateVerified other := by
  rw [ExactRouter.validateVerified, ExactRouter.validateVerified, ExactRouter.posterior,
    ExactRouter.posterior, ExactRouter.withOutcome, OrderedDict.get?_mapValues]
  cases router.posteriors.get? other.candidateKey <;> rfl

/-- **What a list of outcomes makes of a router**: it is taken exactly if each outcome is valid. -/
theorem updateAll_eq_ok_iff {outcomes : List VerifiedRouteOutcome} {next : ExactRouter K} :
    router.updateAll math outcomes = .ok next ↔
      (∀ o ∈ outcomes, router.validateVerified o = .ok ()) ∧
        router.withOutcomes math outcomes = next := by
  induction outcomes generalizing router with
  | nil =>
    have hsame : router.withOutcomes math [] = router := by
      rw [ExactRouter.withOutcomes]
      exact congrArg (fun d => { router with posteriors := d }) (OrderedDict.mapValues_id _)
    rw [hsame, and_iff_right fun o ho => by cases ho]
    exact Checked.pure_eq_ok_iff
  | cons first rest ih =>
    have hrest : (router.withOutcome math first).updateAll math rest = .ok next ↔
        (∀ o ∈ rest, router.validateVerified o = .ok ()) ∧
          (router.withOutcome math first).withOutcomes math rest = next := by
      rw [ih]
      simp only [validateVerified_withOutcome]
    rw [List.forall_mem_cons, and_assoc, withOutcomes_cons, ← hrest, ExactRouter.updateAll,
      List.foldlM_cons]
    refine Checked.bind_eq_ok_iff.trans ⟨?_, ?_⟩
    · rintro ⟨_, hfirst, hnext⟩
      obtain ⟨_, hvalid, hfirst⟩ := Checked.bind_eq_ok_iff.mp hfirst
      obtain rfl := Checked.pure_eq_ok_iff.mp hfirst
      exact ⟨hvalid, hnext⟩
    · rintro ⟨hvalid, hnext⟩
      exact ⟨_, Checked.bind_eq_ok_iff.mpr ⟨(), hvalid, rfl⟩, hnext⟩

end Outcomes

/-! ### Priors -/

section Priors

/-- A prior is of its source's family, and its samples are its outcomes. -/
def BenchmarkPrior.IsConsistent (prior : BenchmarkPrior K) : Prop :=
  prior.benchmarkFamily = prior.source.family ∧
    prior.successes + prior.failures = prior.sampleCount

/-- **The evidence of many priors**, in closed form. -/
structure IsBatchRegistration (registered : RegisteredCandidate) (priors : List (BenchmarkPrior K))
    (evidence : CandidateEvidence K) : Prop where
  candidate : evidence.candidate = registered
  success : evidence.success = (CandidateEvidence.initial registered).success.add
    (priors.map (·.successes)).sum (priors.map (·.failures)).sum
  tokens : evidence.tokens = initialNormalGamma.batch (priors.flatMap (·.logTokenSamples))
  cost : evidence.cost = initialNormalGamma.batch (priors.flatMap (·.logCostSamples))
  latency : evidence.latency = initialNormalGamma.batch (priors.flatMap (·.logLatencySamples))
  judgeConfusion : evidence.judgeConfusion = ⟨0, 0, 0, 0⟩
  verifiedSamples : evidence.verifiedSamples = 0
  deterministicOrHumanSamples : evidence.deterministicOrHumanSamples = 0
  priorSources : evidence.priorSources = priors

private theorem foldlM_addPrior_iff {priors : List (BenchmarkPrior K)}
    {evidence next : CandidateEvidence K} :
    priors.foldlM CandidateEvidence.addPrior evidence = .ok next ↔
      (∀ prior ∈ priors, prior.IsConsistent) ∧
        priors.foldl CandidateEvidence.withPrior evidence = next := by
  induction priors generalizing evidence with
  | nil =>
    rw [and_iff_right fun prior hprior => by cases hprior]
    exact Checked.pure_eq_ok_iff
  | cons first rest ih =>
    rw [List.foldlM_cons, List.forall_mem_cons, List.foldl_cons, and_assoc, ← ih]
    refine (Checked.bind_eq_ok_iff.trans ?_)
    constructor
    · rintro ⟨_, hfirst, hrest⟩
      obtain ⟨hfamily, hfirst⟩ := Checked.check_bind_eq_ok_iff.mp hfirst
      obtain ⟨hcount, hfirst⟩ := Checked.check_bind_eq_ok_iff.mp hfirst
      obtain rfl := Checked.pure_eq_ok_iff.mp hfirst
      exact ⟨⟨hfamily, hcount⟩, hrest⟩
    · rintro ⟨⟨hfamily, hcount⟩, hrest⟩
      exact ⟨_, Checked.check_bind_eq_ok_iff.mpr ⟨hfamily, Checked.check_bind_eq_ok_iff.mpr
        ⟨hcount, rfl⟩⟩, hrest⟩

private theorem betaAdd_add (p : BetaPrior K) (s f s' f' : ℕ) :
    (p.add s f).add s' f' = p.add (s + s') (f + f') := by
  ext
  · change p.alpha + s + s' = p.alpha + (s + s' : ℕ)
    rw [Nat.cast_add, add_assoc]
  · change p.beta + f + f' = p.beta + (f + f' : ℕ)
    rw [Nat.cast_add, add_assoc]

private theorem success_foldl_withPrior (priors : List (BenchmarkPrior K))
    (evidence : CandidateEvidence K) :
    (priors.foldl CandidateEvidence.withPrior evidence).success =
      evidence.success.add (priors.map (·.successes)).sum (priors.map (·.failures)).sum := by
  induction priors generalizing evidence with
  | nil => ext <;> exact (add_zero _).symm.trans (by rw [← Nat.cast_zero (R := K)]; rfl)
  | cons prior priors ih =>
    rw [List.foldl_cons, ih, List.map_cons, List.map_cons, List.sum_cons, List.sum_cons,
      ← betaAdd_add]
    rfl

private theorem sources_foldl_withPrior (priors : List (BenchmarkPrior K))
    (evidence : CandidateEvidence K) :
    (priors.foldl CandidateEvidence.withPrior evidence).priorSources =
      evidence.priorSources ++ priors := by
  induction priors generalizing evidence with
  | nil => exact (List.append_nil _).symm
  | cons prior priors ih =>
    rw [List.foldl_cons, ih]
    exact List.append_assoc _ _ _

/-- What the priors do not touch. -/
private theorem untouched_foldl_withPrior {γ : Type} (f : CandidateEvidence K → γ)
    (hf : ∀ evidence prior, f (evidence.withPrior prior) = f evidence)
    (priors : List (BenchmarkPrior K)) (evidence : CandidateEvidence K) :
    f (priors.foldl CandidateEvidence.withPrior evidence) = f evidence := by
  induction priors generalizing evidence with
  | nil => rfl
  | cons prior priors ih => rw [List.foldl_cons, ih, hf]

theorem isBatchRegistration_foldl (candidate : RegisteredCandidate)
    (priors : List (BenchmarkPrior K)) :
    IsBatchRegistration candidate priors
      (priors.foldl CandidateEvidence.withPrior (.initial candidate)) where
  candidate := untouched_foldl_withPrior (·.candidate) (fun _ _ => rfl) priors _
  success := success_foldl_withPrior priors _
  tokens := by
    rw [← NormalGamma.foldl_observe, List.foldl_flatMap]
    exact (List.foldl_hom CandidateEvidence.tokens fun _ _ => rfl).symm
  cost := by
    rw [← NormalGamma.foldl_observe, List.foldl_flatMap]
    exact (List.foldl_hom CandidateEvidence.cost fun _ _ => rfl).symm
  latency := by
    rw [← NormalGamma.foldl_observe, List.foldl_flatMap]
    exact (List.foldl_hom CandidateEvidence.latency fun _ _ => rfl).symm
  judgeConfusion := untouched_foldl_withPrior (·.judgeConfusion) (fun _ _ => rfl) priors _
  verifiedSamples := untouched_foldl_withPrior (·.verifiedSamples) (fun _ _ => rfl) priors _
  deterministicOrHumanSamples :=
    untouched_foldl_withPrior (·.deterministicOrHumanSamples) (fun _ _ => rfl) priors _
  priorSources := sources_foldl_withPrior priors _

/-- **The order of the priors** does not matter to the figures. -/
theorem IsBatchRegistration.sameFigures {candidate : RegisteredCandidate}
    {priors priors' : List (BenchmarkPrior K)} {evidence evidence' : CandidateEvidence K}
    (h : IsBatchRegistration candidate priors evidence)
    (h' : IsBatchRegistration candidate priors' evidence') (hperm : priors.Perm priors') :
    SameFigures evidence evidence' where
  candidate := h.candidate.trans h'.candidate.symm
  success := by
    rw [h.success, h'.success, (hperm.map _).sum_eq, (hperm.map _).sum_eq]
  tokens := by
    rw [h.tokens, h'.tokens, NormalGamma.batch_perm _ (hperm.flatMap_right _)]
  cost := by
    rw [h.cost, h'.cost, NormalGamma.batch_perm _ (hperm.flatMap_right _)]
  latency := by
    rw [h.latency, h'.latency, NormalGamma.batch_perm _ (hperm.flatMap_right _)]
  judgeConfusion := h.judgeConfusion.trans h'.judgeConfusion.symm
  verifiedSamples := h.verifiedSamples.trans h'.verifiedSamples.symm
  deterministicOrHumanSamples :=
    h.deterministicOrHumanSamples.trans h'.deterministicOrHumanSamples.symm
  priorSources := by
    rw [h.priorSources, h'.priorSources]
    exact hperm

/-- The router with the evidence of a new candidate. -/
def ExactRouter.withEvidence (router : ExactRouter K) (candidate : RegisteredCandidate)
    (evidence : CandidateEvidence K) : ExactRouter K :=
  { router with posteriors := router.posteriors.set candidate.key evidence }

/-- **What a registration stores.** -/
theorem register_eq_ok_iff {router next : ExactRouter K} {candidate : RegisteredCandidate}
    {priors : List (BenchmarkPrior K)} :
    router.register candidate priors = .ok next ↔
      router.posteriors.contains candidate.key = false ∧ priors ≠ [] ∧
        (∀ prior ∈ priors, prior.IsConsistent) ∧
          router.withEvidence candidate
            (priors.foldl CandidateEvidence.withPrior (.initial candidate)) = next := by
  rw [ExactRouter.register]
  refine Checked.check_bind_eq_ok_iff.trans (and_congr_right fun _ => ?_)
  refine Checked.check_bind_eq_ok_iff.trans (and_congr_right fun _ => ?_)
  refine Checked.bind_eq_ok_iff.trans ?_
  simp only [foldlM_addPrior_iff, Checked.pure_eq_ok_iff]
  constructor
  · rintro ⟨_, ⟨hconsistent, rfl⟩, hnext⟩
    exact ⟨hconsistent, hnext⟩
  · rintro ⟨hconsistent, hnext⟩
    exact ⟨_, ⟨hconsistent, rfl⟩, hnext⟩

end Priors

/-- **The order of the evidence does not matter.** Verified outcomes in any order are taken or not
taken by a router, and leave it in the same state, in which the posteriors of each candidate are in
closed form those of all its outcomes; priors in any order are taken or not taken, and give in
closed form the same posteriors. -/
theorem posterior_order_independent (math : MathFunctions K) (router : ExactRouter K)
    {outcomes outcomes' : List VerifiedRouteOutcome} (houtcomes : outcomes.Perm outcomes')
    (candidate : RegisteredCandidate) {priors priors' : List (BenchmarkPrior K)}
    (hpriors : priors.Perm priors') :
    (∀ next, router.updateAll math outcomes = .ok next ↔
      router.updateAll math outcomes' = .ok next) ∧
    (∀ next, router.updateAll math outcomes = .ok next → ∀ key posterior,
      next.posteriors.get? key = some posterior → ∃ prior,
        router.posteriors.get? key = some prior ∧
          IsBatchPosterior math prior (outcomes.filter (·.candidateKey = key)) posterior) ∧
    (∀ next, router.register candidate priors = .ok next →
      ∃ evidence next' evidence', router.register candidate priors' = .ok next' ∧
        next = router.withEvidence candidate evidence ∧
        next' = router.withEvidence candidate evidence' ∧
        IsBatchRegistration candidate priors evidence ∧ evidence.IsPositive ∧
        SameFigures evidence evidence') := by
  refine ⟨fun next => ?_, fun next hnext key posterior hget => ?_, fun next hnext => ?_⟩
  · rw [updateAll_eq_ok_iff, updateAll_eq_ok_iff, withOutcomes_perm houtcomes]
    exact and_congr_left fun _ => forall_congr' fun o => by rw [houtcomes.mem_iff]
  · obtain ⟨-, rfl⟩ := updateAll_eq_ok_iff.mp hnext
    rw [ExactRouter.withOutcomes, OrderedDict.get?_mapValues, Option.map_eq_some_iff] at hget
    obtain ⟨prior, hprior, rfl⟩ := hget
    exact ⟨prior, hprior, isBatchPosterior_foldl prior _⟩
  · obtain ⟨hnew, hne, hconsistent, rfl⟩ := register_eq_ok_iff.mp hnext
    have hbatch := isBatchRegistration_foldl candidate priors
    have hbatch' := isBatchRegistration_foldl candidate priors'
    refine ⟨_, _, _, register_eq_ok_iff.mpr ⟨hnew, ?_, ?_, rfl⟩, rfl, rfl, hbatch,
      CandidateEvidence.isPositive _, hbatch.sameFigures hbatch' hpriors⟩
    · exact fun hnil => hne (hpriors.trans (.of_eq hnil)).eq_nil
    · exact fun prior hmem => hconsistent prior (hpriors.mem_iff.mpr hmem)

end Posteriors

/-! ### Two outcomes -/

/-- Rational functions in the place of the logarithm and the exponential. -/
def rationalMath : MathFunctions ℚ := ⟨fun x => x - 1, fun x => x + 1⟩

def rankedCandidate (key : String) : RegisteredCandidate where
  key := key
  provider := "openai"
  modelSnapshot := some "gpt-1"
  selection := .exact
  effort := "high"

/-- A router that knows two candidates. -/
def rankingRouter : ExactRouter ℚ where
  qualityWeight := 1
  costWeight := 1
  latencyWeight := 1
  posteriors := (OrderedDict.empty.set "codex@1" (.initial (rankedCandidate "codex@1"))).set
    "codex@2" (.initial (rankedCandidate "codex@2"))
  quality_pos := one_pos
  cost_nonneg := zero_le_one
  latency_nonneg := zero_le_one

def rankedOutcome (candidateKey : String) (success : Bool) : VerifiedRouteOutcome where
  outcomeId := "outcome:1"
  candidateKey := candidateKey
  occurredAt := 0
  success := success
  tokens := 100
  cost := 1
  latencyMs := 10
  judge := none

/-- A success and a failure of two candidates. -/
theorem posterior_order_independent_pair :
    ∃ next, rankingRouter.updateAll rationalMath
        [rankedOutcome "codex@1" true, rankedOutcome "codex@2" false] = .ok next ∧
      rankingRouter.updateAll rationalMath
        [rankedOutcome "codex@2" false, rankedOutcome "codex@1" true] = .ok next := by
  obtain ⟨next, hnext⟩ : ∃ next, rankingRouter.updateAll rationalMath
      [rankedOutcome "codex@1" true, rankedOutcome "codex@2" false] = .ok next :=
    Checked.exists_ok_of_isOk (by decide +kernel)
  exact ⟨next, hnext, ((posterior_order_independent rationalMath rankingRouter
    (List.Perm.swap _ _ []) (rankedCandidate "codex@3") (List.Perm.refl [])).1 next).mp hnext⟩

end Nanihold
