import Nanihold.Library.OrderedDict
import Mathlib.Algebra.BigOperators.Group.List.Basic
import Mathlib.Algebra.GroupWithZero.Nat
import Mathlib.Data.List.Sort

/-!
# Counters and sorted dictionaries

A dictionary whose values count how often its keys were seen, and a dictionary whose entries are
put in the order of their keys.

## Main definitions

* `OrderedDict.tally` — count one more key.
* `OrderedDict.sortedByKey` — the entries in the order of their keys.

## Main results

* `OrderedDict.getD_foldl_tally` — after a list of keys each count is the key's number of
  occurrences.
* `OrderedDict.sum_values_foldl_tally` — and the counts add up to the length of the list.
* `OrderedDict.get?_sortedByKey` — sorting changes no read.
-/

namespace OrderedDict

variable {κ ν : Type} [DecidableEq κ]

/-! ### Counting -/

/-- Count one more occurrence of a key. -/
def tally (d : OrderedDict κ Nat) (k : κ) : OrderedDict κ Nat := d.set k (d.getD k 0 + 1)

private theorem sum_values_assign (k : κ) (v : Nat) : ∀ entries : List (κ × Nat),
    ((assign k v entries).map Prod.snd).sum + (lookup k entries).getD 0 =
      (entries.map Prod.snd).sum + v
  | [] => by simp [assign, lookup]
  | e :: entries => by
    have ih := sum_values_assign k v entries
    by_cases h : e.1 = k
    · simp only [assign, lookup, if_pos h, List.map_cons, List.sum_cons, Option.getD_some]
      omega
    · simp only [assign, lookup, if_neg h, List.map_cons, List.sum_cons]
      omega

/-- One more occurrence adds one to the sum of the counts. -/
theorem sum_values_tally (d : OrderedDict κ Nat) (k : κ) :
    (d.tally k).values.sum = d.values.sum + 1 := by
  have h := sum_values_assign k (d.getD k 0 + 1) d.entries
  change (d.tally k).values.sum + d.getD k 0 = d.values.sum + (d.getD k 0 + 1) at h
  omega

theorem getD_tally (d : OrderedDict κ Nat) (k x : κ) :
    (d.tally k).getD x 0 = d.getD x 0 + if k = x then 1 else 0 := by
  rw [tally, getD_set]
  split_ifs with h
  · rw [h]
  · rw [Nat.add_zero]

/-- After a list of keys, a count has grown by the key's number of occurrences. -/
theorem getD_foldl_tally (x : κ) : ∀ (keys : List κ) (d : OrderedDict κ Nat),
    (keys.foldl tally d).getD x 0 = d.getD x 0 + keys.count x
  | [], d => by simp
  | k :: keys, d => by
    rw [List.foldl_cons, getD_foldl_tally x keys, getD_tally, List.count_cons]
    simp only [beq_iff_eq]
    omega

/-- After a list of keys, the counts have grown by its length. -/
theorem sum_values_foldl_tally : ∀ (keys : List κ) (d : OrderedDict κ Nat),
    (keys.foldl tally d).values.sum = d.values.sum + keys.length
  | [], d => by simp
  | k :: keys, d => by
    rw [List.foldl_cons, sum_values_foldl_tally keys, sum_values_tally, List.length_cons]
    omega

/-! ### Sorting -/

section Sorted

variable [LinearOrder κ]

/-- The dictionary whose entries stand in the order of their keys. -/
def sortedByKey (d : OrderedDict κ ν) : OrderedDict κ ν where
  entries := d.entries.insertionSort fun p q => p.1 ≤ q.1
  nodup_keys := (((List.perm_insertionSort _ d.entries).map Prod.fst).nodup_iff).mpr d.nodup_keys

/-- Sorting changes no read. -/
@[simp] theorem get?_sortedByKey (d : OrderedDict κ ν) (k : κ) :
    d.sortedByKey.get? k = d.get? k := by
  refine Option.ext fun v => ?_
  rw [← mem_entries_iff, ← mem_entries_iff]
  exact (List.perm_insertionSort _ d.entries).mem_iff

@[simp] theorem getD_sortedByKey (d : OrderedDict κ ν) (k : κ) (v : ν) :
    d.sortedByKey.getD k v = d.getD k v := by
  rw [getD, getD, get?_sortedByKey]

end Sorted

end OrderedDict
