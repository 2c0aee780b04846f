import Mathlib.Data.Finset.Card

/-!
# A fresh name by counting up

A loop that wants a name outside a finite set of used names tries one numbered candidate after
the other, `while candidate n in used: n += 1`. Where no two candidates are equal, the loop stops.

## Main definitions

* `FreshName.Stops` — the loop, started at one number, stops at another.
* `FreshName.firstUnused` — the number at which it stops, found in as many rounds as there are
  used names.

## Main results

* `FreshName.stops_firstUnused` — the loop stops, at that number.
* `FreshName.Stops.notMem` — the candidate it stops at is unused.
-/

namespace FreshName

variable {α : Type} [DecidableEq α] (used : Finset α) (candidate : ℕ → α)

/-- **The loop** `while candidate n in used: n += 1`: started at the first number, it stops at the
second one. -/
inductive Stops : ℕ → ℕ → Prop
  | unused {n : ℕ} (h : candidate n ∉ used) : Stops n n
  | next {n m : ℕ} (h : candidate n ∈ used) (hnext : Stops (n + 1) m) : Stops n m

/-- The loop, broken off after a number of rounds. -/
def search : ℕ → ℕ → ℕ
  | 0, n => n
  | rounds + 1, n => if candidate n ∈ used then search rounds (n + 1) else n

/-- The number at which the loop stops. -/
def firstUnused (n : ℕ) : ℕ := search used candidate used.card n

variable {used candidate}

omit [DecidableEq α] in
theorem Stops.notMem {n m : ℕ} (h : Stops used candidate n m) : candidate m ∉ used := by
  induction h with
  | unused h => exact h
  | next _ _ ih => exact ih

theorem le_search (rounds n : ℕ) : n ≤ search used candidate rounds n := by
  induction rounds generalizing n with
  | zero => exact Nat.le_refl n
  | succ rounds ih =>
    rw [search]
    split_ifs
    · exact (Nat.le_succ n).trans (ih (n + 1))
    · exact Nat.le_refl n

theorem le_firstUnused (n : ℕ) : n ≤ firstUnused used candidate n := le_search _ n

/-- A candidate that is unused is the one the loop stops at. -/
theorem firstUnused_of_notMem {n : ℕ} (h : candidate n ∉ used) :
    firstUnused used candidate n = n := by
  unfold firstUnused
  cases used.card with
  | zero => rfl
  | succ rounds => rw [search, if_neg h]

/-- The loop stops within as many rounds as names remain that a later candidate could hit. -/
theorem stops_search (hinjective : Function.Injective candidate) (rounds n : ℕ)
    (remaining : Finset α) (hcard : remaining.card ≤ rounds)
    (hremaining : ∀ m, n ≤ m → candidate m ∈ used → candidate m ∈ remaining) :
    Stops used candidate n (search used candidate rounds n) := by
  induction rounds generalizing n remaining with
  | zero =>
    refine .unused fun hused => ?_
    have hmem := hremaining n (Nat.le_refl n) hused
    rw [Finset.card_eq_zero.mp (Nat.le_zero.mp hcard)] at hmem
    exact Finset.notMem_empty _ hmem
  | succ rounds ih =>
    by_cases hused : candidate n ∈ used
    · rw [search, if_pos hused]
      refine .next hused (ih (n + 1) (remaining.erase (candidate n)) ?_ ?_)
      · have hmem := hremaining n (Nat.le_refl n) hused
        have := Finset.card_erase_lt_of_mem hmem
        omega
      · intro m hm hmused
        have hne : candidate m ≠ candidate n := fun heq => by
          have := hinjective heq
          omega
        exact Finset.mem_erase.mpr ⟨hne, hremaining m (by omega) hmused⟩
    · rw [search, if_neg hused]
      exact .unused hused

/-- **The loop stops** where no two candidates are equal. -/
theorem stops_firstUnused (hinjective : Function.Injective candidate) (n : ℕ) :
    Stops used candidate n (firstUnused used candidate n) :=
  stops_search hinjective _ n used (Nat.le_refl _) fun _ _ h => h

end FreshName
