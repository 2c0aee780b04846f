import Mathlib

/-!
# Traversals by a partial function

A traversal goes from position to position by a partial function and ends where the function is
undefined. Each position carries a label from a finite set. A traversal that does not end comes to
some label again and again; when the function acts on the labels alone, it ends exactly if it comes
to no label twice.

## Main definitions

* `Traversal.position` — the position after a number of steps.
* `Traversal.Ends` — the traversal reaches its end.
* `Traversal.visits` — the steps after which a label is met.

## Main results

* `Traversal.ends_iff_visits_finite` — a traversal ends exactly if it meets each label finitely
  often.
* `Traversal.ends_iff_no_repetition` — a traversal of the labels alone ends exactly if it meets no
  label twice.
-/

namespace Traversal

variable {α γ : Type} (next : α → Option α)

/-- The position after a number of steps, while the traversal goes on. -/
def position (start : α) : Nat → Option α
  | 0 => some start
  | n + 1 => (position start n).bind next

/-- The traversal reaches its end. -/
def Ends (start : α) : Prop := ∃ n, position next start n = none

variable {next} {start : α}

/-- A traversal goes on from its first step. -/
theorem position_succ (start : α) (n : Nat) :
    position next start (n + 1) = (next start).bind fun a => position next a n := by
  induction n with
  | zero =>
    change (some start).bind next = _
    cases h : next start <;> simp [position, h]
  | succ n ih =>
    rw [position, ih]
    cases next start with
    | none => rfl
    | some a => rfl

/-- Once ended, a traversal stays so. -/
theorem position_eq_none_of_le {m n : Nat} (h : position next start m = none) (hle : m ≤ n) :
    position next start n = none := by
  induction hle with
  | refl => exact h
  | step _ ih => rw [position, ih, Option.bind_none]

/-- The steps after which a label is met. -/
def visits (next : α → Option α) (label : α → γ) (start : α) (c : γ) : Set Nat :=
  {n | (position next start n).map label = some c}

/-- **A traversal ends** exactly if it meets each label finitely often, when there are finitely
many labels to meet. -/
theorem ends_iff_visits_finite (label : α → γ)
    (hfinite : {c | ∃ n, (position next start n).map label = some c}.Finite) :
    Ends next start ↔ ∀ c, (visits next label start c).Finite := by
  constructor
  · rintro ⟨bound, hbound⟩ c
    refine (Set.finite_lt_nat bound).subset fun n hn => ?_
    by_contra hle
    have hended := position_eq_none_of_le hbound (not_lt.mp hle)
    change (position next start n).map label = some c at hn
    rw [hended] at hn
    cases hn
  · intro hvisits
    by_contra hendless
    have hsome (n : Nat) : ∃ c, (position next start n).map label = some c := by
      obtain ⟨a, ha⟩ := Option.ne_none_iff_exists'.mp fun hnone => hendless ⟨n, hnone⟩
      exact ⟨label a, by rw [ha, Option.map_some]⟩
    -- Every step meets one of finitely many labels, each of them finitely often.
    have hcover : (Set.univ : Set Nat) ⊆
        ⋃ c ∈ {c | ∃ n, (position next start n).map label = some c},
          visits next label start c := by
      intro n _
      obtain ⟨c, hc⟩ := hsome n
      exact Set.mem_biUnion ⟨n, hc⟩ hc
    exact Set.infinite_univ ((hfinite.biUnion fun c _ => hvisits c).subset hcover)

/-! ### Labels that determine the traversal -/

section Determined

variable {nextLabel : γ → Option γ} {label : α → γ}

/-- A traversal whose labels follow a partial function of their own. -/
theorem position_map_label (hlabel : ∀ a, (next a).map label = nextLabel (label a)) (n : Nat) :
    (position next start n).map label = position nextLabel (label start) n := by
  induction n with
  | zero => rfl
  | succ n ih =>
    rw [position, position, ← ih]
    cases position next start n with
    | none => rfl
    | some a => exact hlabel a

/-- Ending depends on the labels alone. -/
theorem ends_iff_of_label (hlabel : ∀ a, (next a).map label = nextLabel (label a)) :
    Ends next start ↔ Ends nextLabel (label start) := by
  refine exists_congr fun n => ?_
  rw [← position_map_label hlabel, Option.map_eq_none_iff]

/-- A traversal that comes back to a position goes on as before. -/
theorem position_add_period {a : γ} {start : γ} {m n : Nat}
    (hm : position nextLabel start m = some a) (hn : position nextLabel start n = some a)
    (k : Nat) : position nextLabel start (m + k) = position nextLabel start (n + k) := by
  induction k with
  | zero => exact hm.trans hn.symm
  | succ k ih => rw [← Nat.add_assoc, ← Nat.add_assoc, position, position, ih]

/-- **A traversal of the labels alone** ends exactly if it meets no label twice. -/
theorem ends_iff_no_repetition {start : γ}
    (hfinite : {c | ∃ n, position nextLabel start n = some c}.Finite) :
    Ends nextLabel start ↔
      ∀ m n c, position nextLabel start m = some c → position nextLabel start n = some c →
        m = n := by
  constructor
  · rintro ⟨bound, hbound⟩
    -- Between two visits of one label the traversal has a period, so it never ends.
    have hperiod {m n : Nat} {c : γ} (hlt : m < n) (hm : position nextLabel start m = some c)
        (hn : position nextLabel start n = some c) : False := by
      have hgoes (k : Nat) : ∃ a, position nextLabel start (m + k * (n - m)) = some a := by
        induction k with
        | zero => exact ⟨c, by rwa [Nat.zero_mul, Nat.add_zero]⟩
        | succ k ih =>
          obtain ⟨a, ha⟩ := ih
          refine ⟨a, ?_⟩
          rw [show m + (k + 1) * (n - m) = n + k * (n - m) by rw [Nat.succ_mul]; omega,
            ← position_add_period hm hn, ha]
      obtain ⟨a, ha⟩ := hgoes bound
      have hle : bound ≤ m + bound * (n - m) :=
        (Nat.le_mul_of_pos_right bound (Nat.sub_pos_of_lt hlt)).trans (Nat.le_add_left _ _)
      cases (position_eq_none_of_le hbound hle).symm.trans ha
    intro m n c hm hn
    rcases Nat.lt_trichotomy m n with hlt | heq | hgt
    · exact (hperiod hlt hm hn).elim
    · exact heq
    · exact (hperiod hgt hn hm).elim
  · intro honce
    refine (ends_iff_visits_finite id ?_).mpr fun c => ?_
    · simpa only [Option.map_id, id] using hfinite
    · refine Set.Subsingleton.finite fun m hm n hn => ?_
      refine honce m n c ?_ ?_
      · change (position nextLabel start m).map id = some c at hm
        rwa [Option.map_id, id] at hm
      · change (position nextLabel start n).map id = some c at hn
        rwa [Option.map_id, id] at hn

end Determined

end Traversal
