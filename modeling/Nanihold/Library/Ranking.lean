import Mathlib

/-!
# Places in a sorted list

The place of an element in a list that is sorted by a key is the number of elements with a smaller
key, if no two elements share a key. So an element whose key gets smaller does not lose a place, and
two others keep their order.

## Main results

* `Ranking.idxOf_sorted` — the place is the number of smaller keys.
* `Ranking.places_perm` — the places are the numbers from 1 on.
* `Ranking.countP_le_of_le` — a smaller key is no loss.
* `Ranking.countP_lt_iff` — the order of the places is that of the keys.
-/

namespace Ranking

variable {α β κ : Type} [LinearOrder β] [DecidableEq κ]

/-- **The place of an element** in a list sorted by a key. -/
theorem idxOf_sorted {name : α → κ} {key : α → β} {l : List α} {a : α}
    (hsorted : l.Pairwise fun x y => key x ≤ key y) (hnodup : (l.map name).Nodup)
    (hname : ∀ x ∈ l, ∀ y ∈ l, key x = key y → name x = name y) (ha : a ∈ l) :
    (l.map name).idxOf (name a) = l.countP fun x => key x < key a := by
  induction l with
  | nil => cases ha
  | cons x l ih =>
    obtain ⟨hle, hsorted⟩ := List.pairwise_cons.mp hsorted
    rw [List.map_cons] at hnodup ⊢
    obtain ⟨hfresh, hnodup⟩ := List.nodup_cons.mp hnodup
    rcases List.mem_cons.mp ha with rfl | hmem
    · rw [List.idxOf_cons_self, List.countP_cons_of_neg (by simp), eq_comm, List.countP_eq_zero]
      intro y hy
      rw [decide_eq_true_eq, not_lt]
      exact hle y hy
    · have hne : name x ≠ name a := fun h => hfresh (h ▸ List.mem_map_of_mem hmem)
      have hlt : key x < key a := lt_of_le_of_ne (hle a hmem) fun h =>
        hne (hname x List.mem_cons_self a ha h)
      rw [List.idxOf_cons_ne _ hne,
        List.countP_cons_of_pos (p := fun x => decide (key x < key a)) (decide_eq_true hlt),
      ih hsorted hnodup (fun y hy z hz => hname y (List.mem_cons_of_mem _ hy) z
          (List.mem_cons_of_mem _ hz)) hmem]

/-- The places of the elements of a list without repetitions. -/
private theorem map_idxOf_self {l : List κ} (hnodup : l.Nodup) :
    l.map (fun a => l.idxOf a + 1) = List.range' 1 l.length := by
  refine List.ext_getElem (by rw [List.length_map, List.length_range']) fun n hn _ => ?_
  rw [List.getElem_map, List.getElem_range', hnodup.idxOf_getElem]
  omega

/-- **The places** of the names in a rearrangement are the numbers from 1 on. -/
theorem places_perm {names order : List κ} (hnodup : names.Nodup) (hperm : order.Perm names) :
    (names.map fun a => order.idxOf a + 1).Perm (List.range' 1 names.length) := by
  have hself := map_idxOf_self (hperm.nodup_iff.mpr hnodup)
  rw [← hperm.length_eq, ← hself]
  exact (hperm.map _).symm

/-- **An element whose key gets smaller**, while the others stay where they are, is passed by no
other. -/
theorem countP_le_of_le {names : List κ} {key key' : κ → β} {a : κ}
    (hothers : ∀ b ∈ names, b ≠ a → key' b = key b) (hle : key' a ≤ key a) :
    (names.countP fun b => key' b < key' a) ≤ names.countP fun b => key b < key a := by
  refine List.countP_mono_left fun b hb hlt => ?_
  rw [decide_eq_true_eq] at hlt ⊢
  by_cases hba : b = a
  · rw [hba] at hlt
    exact absurd hlt (lt_irrefl _)
  · rw [hothers b hb hba] at hlt
    exact lt_of_lt_of_le hlt hle

omit [DecidableEq κ] in
/-- **The order of the places** is the order of the keys. -/
theorem countP_lt_iff {names : List κ} {key : κ → β} {a b : κ} (ha : a ∈ names) :
    ((names.countP fun x => key x < key a) < names.countP fun x => key x < key b) ↔
      key a < key b := by
  constructor
  · intro hlt
    by_contra hnot
    refine absurd (List.countP_mono_left fun x _ hx => ?_) (not_le.mpr hlt)
    rw [decide_eq_true_eq] at hx ⊢
    exact lt_of_lt_of_le hx (not_lt.mp hnot)
  · intro hlt
    -- Everything before the first is before the second, and the first itself is.
    obtain ⟨before, after, rfl⟩ := List.append_of_mem ha
    have hmono (l : List κ) : (l.countP fun x => key x < key a) ≤ l.countP fun x => key x < key b :=
      List.countP_mono_left fun x _ hx =>
        decide_eq_true ((of_decide_eq_true hx).trans hlt)
    have hbefore := hmono before
    have hafter := hmono after
    rw [List.countP_append, List.countP_append,
      List.countP_cons_of_neg (p := fun x => decide (key x < key a)) (by simp),
      List.countP_cons_of_pos (p := fun x => decide (key x < key b)) (decide_eq_true hlt)]
    omega

end Ranking
