import Nanihold.TokenLab.Lab

/-!
# The degradation trigger of the Token Efficiency Lab

The trigger names the latest twenty observations of a work type, but the mean that is compared with
the baseline is taken over all of them. The two agree as long as the older observations do not tip
the balance.

## Main definitions

* `TokenEfficiencyLab.ReportsDegradation` — the trigger is reported.
* `DegradationLaw` — the mean is the one of the latest twenty observations.
* `OlderTip` — the older observations tip the balance.

## Main results

* `reportsDegradation_iff` — when the trigger is reported.
* `degradationLaw_iff` — the exact condition.
* `old_observations_hide_degradation` — twenty degraded observations that are not reported.
-/

namespace Nanihold

/-- The reason of the trigger. -/
def degradationReason : String := "twenty_item_mean_degraded_by_ten_percent"

/-- A baseline and ten percent. -/
def TokenBaseline.limit (baseline : TokenBaseline) : Rat :=
  baseline.approvedMeanInputTokens * (11 / 10)

/-- The mean of the input tokens of observations. -/
def meanInputTokens (items : List TokenObservation) : Rat :=
  (items.map (·.totalInputTokens)).sum / items.length

/-- The input tokens of observations above the limit. -/
def surplus (baseline : TokenBaseline) (items : List TokenObservation) : Rat :=
  (items.map (·.totalInputTokens)).sum - items.length * baseline.limit

namespace TokenEfficiencyLab

variable (lab : TokenEfficiencyLab) (observation : TokenObservation)

/-- The latest twenty observations of a work type, the new one last. -/
def latestTwenty : List TokenObservation :=
  (lab.comparable observation).drop ((lab.comparable observation).length - 20)

/-- The observations of the work type before these. -/
def older : List TokenObservation :=
  (lab.comparable observation).take ((lab.comparable observation).length - 20)

/-- The degradation is reported. -/
def ReportsDegradation : Prop :=
  ∃ trigger ∈ lab.evaluate observation, trigger.reason = degradationReason

end TokenEfficiencyLab

/-- **The degradation law**: the trigger is reported exactly if there are twenty observations and
the mean of the latest twenty is at the limit; it names these; and other work types have no say. -/
structure DegradationLaw (lab : TokenEfficiencyLab) (baseline : TokenBaseline)
    (observation : TokenObservation) : Prop where
  reported : lab.ReportsDegradation observation ↔ 20 ≤ (lab.comparable observation).length ∧
    baseline.limit ≤ meanInputTokens (lab.latestTwenty observation)
  evidence : ∀ trigger ∈ lab.evaluate observation, trigger.reason = degradationReason →
    trigger.observationIds = (lab.latestTwenty observation).map (·.observationId)
  others : ∀ other : TokenEfficiencyLab,
    other.baselines.get? observation.workType = lab.baselines.get? observation.workType →
    other.observations.filter (·.workType = observation.workType) =
      lab.observations.filter (·.workType = observation.workType) →
    other.evaluate observation = lab.evaluate observation

/-- **The older observations tip the balance**: with them the surplus has another sign than that of
the latest twenty. -/
def OlderTip (lab : TokenEfficiencyLab) (baseline : TokenBaseline)
    (observation : TokenObservation) : Prop :=
  ¬ (0 ≤ surplus baseline (lab.latestTwenty observation) ↔
    0 ≤ surplus baseline (lab.older observation) + surplus baseline (lab.latestTwenty observation))

section Surplus

variable {baseline : TokenBaseline} {items : List TokenObservation}

theorem limit_le_mean_iff (hne : items ≠ []) :
    baseline.limit ≤ meanInputTokens items ↔ 0 ≤ surplus baseline items := by
  have hlength : (0 : Rat) < items.length := by
    exact_mod_cast List.length_pos_of_ne_nil hne
  rw [meanInputTokens, le_div_iff₀ hlength, surplus, sub_nonneg, mul_comm]

theorem surplus_append (more : List TokenObservation) :
    surplus baseline (items ++ more) = surplus baseline items + surplus baseline more := by
  rw [surplus, surplus, surplus, List.map_append, List.sum_append, List.length_append]
  push_cast
  ring

end Surplus

section Evaluate

variable {lab : TokenEfficiencyLab} {baseline : TokenBaseline} {observation : TokenObservation}

theorem older_append_latestTwenty :
    lab.older observation ++ lab.latestTwenty observation = lab.comparable observation :=
  List.take_append_drop _ _

/-- An incident is reported for another reason. -/
private theorem single_event_ne (incident : TokenIncidentKind) :
    s!"single_event:{incident.value}" ≠ degradationReason := by
  cases incident <;> decide

/-- The triggers that have the reason: at most one, of the latest twenty observations. -/
private theorem mem_evaluate_iff
    (hbaseline : lab.baselines.get? observation.workType = some baseline)
    {trigger : InvestigationTrigger} :
    (trigger ∈ lab.evaluate observation ∧ trigger.reason = degradationReason) ↔
      (20 ≤ (lab.comparable observation).length ∧
        baseline.limit ≤ meanInputTokens (lab.comparable observation)) ∧
      trigger = ⟨degradationReason, observation.workType,
        (lab.latestTwenty observation).map (·.observationId), true⟩ := by
  have hsingle (kinds : List TokenIncidentKind) (ids : List String) (hreason : trigger.reason =
      degradationReason) : trigger ∉ kinds.map fun incident =>
        (⟨s!"single_event:{incident.value}", observation.workType, ids, true⟩ :
          InvestigationTrigger) := by
    intro hmem
    obtain ⟨incident, -, rfl⟩ := List.mem_map.mp hmem
    exact single_event_ne incident hreason
  unfold TokenEfficiencyLab.evaluate
  rw [hbaseline]
  dsimp only
  split
  · next hdegraded =>
    rw [List.mem_append, List.mem_singleton]
    constructor
    · rintro ⟨hmem | rfl, hreason⟩
      · exact absurd hmem (hsingle _ _ hreason)
      · exact ⟨hdegraded, rfl⟩
    · rintro ⟨-, rfl⟩
      exact ⟨Or.inr rfl, rfl⟩
  · next hnot =>
    refine iff_of_false ?_ fun h => hnot h.1
    rintro ⟨hmem, hreason⟩
    exact hsingle _ _ hreason hmem

/-- **The trigger is reported** exactly if the mean of all observations is at the limit. -/
theorem reportsDegradation_iff
    (hbaseline : lab.baselines.get? observation.workType = some baseline) :
    lab.ReportsDegradation observation ↔ 20 ≤ (lab.comparable observation).length ∧
      baseline.limit ≤ meanInputTokens (lab.comparable observation) := by
  rw [TokenEfficiencyLab.ReportsDegradation]
  simp only [mem_evaluate_iff hbaseline, exists_and_left, exists_eq, and_true]

theorem evaluate_eq_of_comparable {other : TokenEfficiencyLab}
    (hbaselines : other.baselines.get? observation.workType =
      lab.baselines.get? observation.workType)
    (hcomparable : other.comparable observation = lab.comparable observation) :
    other.evaluate observation = lab.evaluate observation := by
  rw [TokenEfficiencyLab.evaluate, TokenEfficiencyLab.evaluate, hbaselines, hcomparable]

/-- **The exact condition**: the law holds exactly if the older observations do not tip the
balance. -/
theorem degradationLaw_iff
    (hbaseline : lab.baselines.get? observation.workType = some baseline) :
    DegradationLaw lab baseline observation ↔ ¬ OlderTip lab baseline observation := by
  have hevidence : ∀ trigger ∈ lab.evaluate observation, trigger.reason = degradationReason →
      trigger.observationIds = (lab.latestTwenty observation).map (·.observationId) := by
    intro trigger hmem hreason
    rw [((mem_evaluate_iff hbaseline).mp ⟨hmem, hreason⟩).2]
  have hothers : ∀ other : TokenEfficiencyLab,
      other.baselines.get? observation.workType = lab.baselines.get? observation.workType →
      other.observations.filter (·.workType = observation.workType) =
        lab.observations.filter (·.workType = observation.workType) →
      other.evaluate observation = lab.evaluate observation := by
    intro other hbaselines hsame
    refine evaluate_eq_of_comparable hbaselines ?_
    rw [TokenEfficiencyLab.comparable, List.filter_append, hsame, ← List.filter_append]
    rfl
  have hiff : DegradationLaw lab baseline observation ↔ (lab.ReportsDegradation observation ↔
      20 ≤ (lab.comparable observation).length ∧
        baseline.limit ≤ meanInputTokens (lab.latestTwenty observation)) :=
    ⟨fun h => h.reported, fun h => ⟨h, hevidence, hothers⟩⟩
  rw [hiff, reportsDegradation_iff hbaseline, OlderTip, not_not, ← surplus_append,
    older_append_latestTwenty]
  by_cases hlength : 20 ≤ (lab.comparable observation).length
  · have hne : lab.comparable observation ≠ [] := fun hnil => by
      rw [hnil] at hlength
      cases hlength
    have hlatest : lab.latestTwenty observation ≠ [] := fun hnil => by
      have := congrArg List.length hnil
      rw [TokenEfficiencyLab.latestTwenty, List.length_drop, List.length_nil] at this
      omega
    rw [and_iff_right hlength, and_iff_right hlength, limit_le_mean_iff hne,
      limit_le_mean_iff hlatest]
    exact iff_comm
  · -- With fewer than twenty observations there are no older ones.
    have hlatest : lab.latestTwenty observation = lab.comparable observation := by
      rw [TokenEfficiencyLab.latestTwenty, Nat.sub_eq_zero_of_le (by omega), List.drop_zero]
    rw [hlatest]
    exact iff_of_true Iff.rfl Iff.rfl

end Evaluate

/-! ### Old observations that hide a degradation -/

section Example

def codingBaseline : TokenBaseline := ⟨"coding", 100, 50, 0⟩

def codingObservation (observationId : String) (totalInputTokens : Nat) : TokenObservation where
  observationId := observationId
  workType := "coding"
  occurredAt := 0
  totalInputTokens := totalInputTokens
  interfaceInputTokens := 0
  incidentKinds := ∅
  fullHistoryResent := false
  expensiveInterfaceCalls := 0
  verifiedComplete := true

/-- The observations of a history. -/
def observeAll (lab : TokenEfficiencyLab) (history : List TokenObservation) :
    Except VsmError TokenEfficiencyLab :=
  history.foldlM TokenEfficiencyLab.observe lab

/-- Twenty cheap observations, and then nineteen expensive ones. -/
def recoveringHistory : List TokenObservation :=
  (List.range 39).map fun n => codingObservation s!"observation:{n}" (if n < 20 then 0 else 110)

/-- The lab with the baseline. -/
def codingLab : TokenEfficiencyLab := .approveBaseline .new codingBaseline

/-- A first observation. -/
theorem degradationLaw_first :
    DegradationLaw codingLab codingBaseline (codingObservation "observation:0" 100) ↔
      ¬ OlderTip codingLab codingBaseline (codingObservation "observation:0" 100) :=
  degradationLaw_iff (by decide +kernel)

/-- **Twenty expensive observations after twenty cheap ones** are not reported. -/
theorem old_observations_hide_degradation :
    ∃ lab, observeAll codingLab recoveringHistory = .ok lab ∧
      ¬ DegradationLaw lab codingBaseline (codingObservation "observation:39" 110) := by
  refine ⟨{ codingLab with observations := recoveringHistory }, by decide +kernel, fun h => ?_⟩
  have hbaseline : codingLab.baselines.get? "coding" = some codingBaseline := by decide +kernel
  have hreported := h.reported.mpr ⟨by decide +kernel, by decide +kernel⟩
  obtain ⟨-, hmean⟩ := (reportsDegradation_iff hbaseline).mp hreported
  exact absurd hmean (by decide +kernel)

end Example

end Nanihold
