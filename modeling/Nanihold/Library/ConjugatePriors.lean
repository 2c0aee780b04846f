import Mathlib

/-!
# Conjugate priors

Two families of priors that are updated one observation at a time: the beta prior of a success
rate, and the normal-inverse-gamma prior of the mean and variance of a normal variable. In exact
arithmetic the updates may come in any order; the posterior of a list of observations is a function
of their number, their mean and their sum of squared deviations.

## Main definitions

* `BetaPrior`, `BetaPrior.observe`, `BetaPrior.batch` — a success or a failure, and many.
* `NormalGamma`, `NormalGamma.observe` — one observation of a normal variable.
* `NormalGamma.batch` — the posterior of a list of observations, in closed form.

## Main results

* `NormalGamma.foldl_observe`, `BetaPrior.foldl_observe` — the updates give the closed form.
* `NormalGamma.batch_perm`, `BetaPrior.batch_perm` — the order does not matter.
-/

section ConjugatePriors

variable {K : Type} [Field K] [LinearOrder K] [IsStrictOrderedRing K]

/-! ### Success rates -/

/-- A beta prior. -/
@[ext]
structure BetaPrior (K : Type) [Field K] [LinearOrder K] where
  alpha : K
  beta : K
  alpha_pos : 0 < alpha
  beta_pos : 0 < beta

namespace BetaPrior

variable (p : BetaPrior K)

/-- The expected success rate. -/
def mean : K := p.alpha / (p.alpha + p.beta)

/-- One more success or failure. -/
def observe (success : Bool) : BetaPrior K where
  alpha := if success then p.alpha + 1 else p.alpha
  beta := if success then p.beta else p.beta + 1
  alpha_pos := by
    have := p.alpha_pos
    split_ifs <;> positivity
  beta_pos := by
    have := p.beta_pos
    split_ifs <;> positivity

/-- As many more successes and failures. -/
def add (successes failures : ℕ) : BetaPrior K where
  alpha := p.alpha + successes
  beta := p.beta + failures
  alpha_pos := add_pos_of_pos_of_nonneg p.alpha_pos (Nat.cast_nonneg _)
  beta_pos := add_pos_of_pos_of_nonneg p.beta_pos (Nat.cast_nonneg _)

/-- Many successes and failures. -/
def batch (outcomes : List Bool) : BetaPrior K :=
  p.add (outcomes.count true) (outcomes.count false)

/-- **Successes and failures** one after the other. -/
theorem foldl_observe (outcomes : List Bool) : outcomes.foldl observe p = p.batch outcomes := by
  induction outcomes generalizing p with
  | nil => ext <;> simp [batch, add]
  | cons success outcomes ih =>
    rw [List.foldl_cons, ih]
    ext <;> cases success <;> simp [batch, add, observe, add_assoc, add_comm (1 : K)]

theorem batch_perm {outcomes outcomes' : List Bool} (h : outcomes.Perm outcomes') :
    p.batch outcomes = p.batch outcomes' := by
  rw [batch, batch, h.count_eq, h.count_eq]

/-- A success raises the expected success rate. -/
theorem mean_lt_observe_true : p.mean < (p.observe true).mean := by
  have halpha := p.alpha_pos
  have hbeta := p.beta_pos
  change p.alpha / (p.alpha + p.beta) < (p.alpha + 1) / (p.alpha + 1 + p.beta)
  rw [div_lt_div_iff₀ (by positivity) (by positivity)]
  linarith

/-- A failure lowers it. -/
theorem mean_observe_false_lt : (p.observe false).mean < p.mean := by
  have halpha := p.alpha_pos
  have hbeta := p.beta_pos
  change p.alpha / (p.alpha + (p.beta + 1)) < p.alpha / (p.alpha + p.beta)
  exact div_lt_div_of_pos_left halpha (by positivity) (by linarith)

end BetaPrior

/-! ### Normal variables -/

/-- A normal-inverse-gamma prior. -/
@[ext]
structure NormalGamma (K : Type) [Field K] [LinearOrder K] where
  mu : K
  lam : K
  alpha : K
  beta : K
  lam_pos : 0 < lam
  alpha_pos : 0 < alpha
  beta_pos : 0 < beta

/-- The mean of a list. -/
def List.average (xs : List K) : K := xs.sum / xs.length

/-- The sum of the squared deviations from the mean. -/
def List.deviation (xs : List K) : K := (xs.map fun x => (x - xs.average) ^ 2).sum

theorem List.deviation_nonneg (xs : List K) : 0 ≤ xs.deviation := by
  refine List.sum_nonneg fun y hy => ?_
  obtain ⟨x, -, rfl⟩ := List.mem_map.mp hy
  exact sq_nonneg _

omit [LinearOrder K] [IsStrictOrderedRing K] in
private theorem sum_map_sub_sq (m : K) (xs : List K) :
    (xs.map fun x => (x - m) ^ 2).sum =
      (xs.map fun x => x ^ 2).sum - 2 * m * xs.sum + xs.length * m ^ 2 := by
  induction xs with
  | nil => simp
  | cons x xs ih =>
    rw [List.map_cons, List.map_cons, List.sum_cons, List.sum_cons, List.sum_cons, ih,
      List.length_cons]
    push_cast
    ring

theorem List.length_mul_average (xs : List K) : xs.length * xs.average = xs.sum := by
  rw [List.average]
  cases xs with
  | nil => simp
  | cons x xs =>
    have : ((x :: xs).length : K) ≠ 0 := Nat.cast_ne_zero.mpr (Nat.succ_ne_zero _)
    field_simp

/-- The squared deviations by the squares and the mean. -/
theorem List.deviation_eq (xs : List K) :
    xs.deviation = (xs.map fun x => x ^ 2).sum - xs.length * xs.average ^ 2 := by
  rw [List.deviation, sum_map_sub_sq, ← xs.length_mul_average]
  ring

namespace NormalGamma

variable (p : NormalGamma K)

/-- One more observation. -/
def observe (x : K) : NormalGamma K where
  mu := (p.lam * p.mu + x) / (p.lam + 1)
  lam := p.lam + 1
  alpha := p.alpha + 1 / 2
  beta := p.beta + 1 / 2 * p.lam * (x - p.mu) ^ 2 / (p.lam + 1)
  lam_pos := add_pos p.lam_pos one_pos
  alpha_pos := add_pos p.alpha_pos (by norm_num)
  beta_pos := by
    have := p.lam_pos
    have := p.beta_pos
    positivity

/-- **Many observations**, in closed form: the rate is the prior's, half the sum of the squared
deviations, and a term that shrinks the mean to the prior's. -/
def batch (xs : List K) : NormalGamma K where
  mu := (p.lam * p.mu + xs.sum) / (p.lam + xs.length)
  lam := p.lam + xs.length
  alpha := p.alpha + xs.length / 2
  beta := p.beta + xs.deviation / 2 +
    p.lam * xs.length * (xs.average - p.mu) ^ 2 / (2 * (p.lam + xs.length))
  lam_pos := add_pos_of_pos_of_nonneg p.lam_pos (Nat.cast_nonneg _)
  alpha_pos := add_pos_of_pos_of_nonneg p.alpha_pos (by positivity)
  beta_pos := by
    have := p.lam_pos
    have := p.beta_pos
    have := xs.deviation_nonneg
    positivity

/-- What an update adds the square of the observation to. -/
private def energy : K := 2 * p.beta + p.lam * p.mu ^ 2

/-- A prior is known by its counts, its weighted mean and its energy. -/
private theorem eq_of_energy {p q : NormalGamma K} (hlam : p.lam = q.lam)
    (halpha : p.alpha = q.alpha) (hmu : p.lam * p.mu = q.lam * q.mu)
    (henergy : p.energy = q.energy) : p = q := by
  have hmean : p.mu = q.mu := mul_left_cancel₀ p.lam_pos.ne' (hlam ▸ hmu)
  have hrate : p.beta = q.beta := by
    rw [energy, energy, hlam, hmean] at henergy
    linarith
  exact NormalGamma.ext hmean hlam halpha hrate

private theorem lam_mul_mu_observe (x : K) :
    (p.observe x).lam * (p.observe x).mu = p.lam * p.mu + x := by
  have hlam : p.lam + 1 ≠ 0 := (p.observe x).lam_pos.ne'
  exact mul_div_cancel₀ _ hlam

private theorem energy_observe (x : K) : (p.observe x).energy = p.energy + x ^ 2 := by
  have hlam : p.lam + 1 ≠ 0 := (p.observe x).lam_pos.ne'
  change 2 * (p.beta + 1 / 2 * p.lam * (x - p.mu) ^ 2 / (p.lam + 1)) +
    (p.lam + 1) * ((p.lam * p.mu + x) / (p.lam + 1)) ^ 2 = 2 * p.beta + p.lam * p.mu ^ 2 + x ^ 2
  field_simp
  ring

/-- What a list of updates adds up to. -/
private theorem foldl_observe_spec (xs : List K) :
    (xs.foldl observe p).lam = p.lam + xs.length ∧
      (xs.foldl observe p).alpha = p.alpha + xs.length / 2 ∧
      (xs.foldl observe p).lam * (xs.foldl observe p).mu = p.lam * p.mu + xs.sum ∧
      (xs.foldl observe p).energy = p.energy + (xs.map fun x => x ^ 2).sum := by
  induction xs generalizing p with
  | nil => simp
  | cons x xs ih =>
    obtain ⟨hlam, halpha, hmu, henergy⟩ := ih (p.observe x)
    rw [List.foldl_cons]
    refine ⟨hlam.trans ?_, halpha.trans ?_, ?_, ?_⟩
    · change p.lam + 1 + _ = _
      rw [List.length_cons]
      push_cast
      ring
    · change p.alpha + 1 / 2 + _ = _
      rw [List.length_cons]
      push_cast
      ring
    · rw [hmu, lam_mul_mu_observe, List.sum_cons, add_assoc]
    · rw [henergy, energy_observe, List.map_cons, List.sum_cons, add_assoc]

private theorem energy_batch (xs : List K) :
    (p.batch xs).energy = p.energy + (xs.map fun x => x ^ 2).sum := by
  have hlam : p.lam + xs.length ≠ 0 := (p.batch xs).lam_pos.ne'
  change 2 * (p.beta + xs.deviation / 2 +
      p.lam * xs.length * (xs.average - p.mu) ^ 2 / (2 * (p.lam + xs.length))) +
    (p.lam + xs.length) * ((p.lam * p.mu + xs.sum) / (p.lam + xs.length)) ^ 2 =
      2 * p.beta + p.lam * p.mu ^ 2 + _
  rw [xs.deviation_eq, ← xs.length_mul_average]
  field_simp
  ring

/-- **Observations one after the other** give the closed form. -/
theorem foldl_observe (xs : List K) : xs.foldl observe p = p.batch xs := by
  obtain ⟨hlam, halpha, hmu, henergy⟩ := p.foldl_observe_spec xs
  refine eq_of_energy hlam halpha (hmu.trans ?_) (henergy.trans (p.energy_batch xs).symm)
  exact (mul_div_cancel₀ _ (p.batch xs).lam_pos.ne').symm

/-- **The order of the observations** does not matter. -/
theorem batch_perm {xs ys : List K} (h : xs.Perm ys) : p.batch xs = p.batch ys := by
  rw [← foldl_observe, ← foldl_observe]
  refine eq_of_energy ?_ ?_ ?_ ?_
  · rw [(p.foldl_observe_spec xs).1, (p.foldl_observe_spec ys).1, h.length_eq]
  · rw [(p.foldl_observe_spec xs).2.1, (p.foldl_observe_spec ys).2.1, h.length_eq]
  · rw [(p.foldl_observe_spec xs).2.2.1, (p.foldl_observe_spec ys).2.2.1, h.sum_eq]
  · rw [(p.foldl_observe_spec xs).2.2.2, (p.foldl_observe_spec ys).2.2.2,
      (h.map fun x => x ^ 2).sum_eq]

end NormalGamma

end ConjugatePriors
