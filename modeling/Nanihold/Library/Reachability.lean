import Mathlib.Data.List.Basic

/-!
# Reachability by depth-first search

Whether a vertex reaches a goal along a list of directed edges, decided by the usual search
with a stack of pending vertices and a list of visited ones. The search takes a bound on the
number of vertices it takes off the stack; one more than the number of edges and the pending
vertices together is always enough.

## Main definitions

* `Reachability.successors` — the targets of the edges that leave a vertex.
* `Reachability.search` — the search; `none` says that the bound was used up.

## Main results

* `Reachability.search_isSome` — the search ends within the bound.
-/

namespace Reachability

variable {α : Type} [DecidableEq α] (edges : List (α × α))

/-- The targets of the edges that leave a vertex, in the order of the edges. -/
def successors (vertex : α) : List α := (edges.filter (·.1 = vertex)).map Prod.snd

/-- Depth-first search for the goal; the head of `pending` is the top of the stack. -/
def search (goal : α) : Nat → List α → List α → Option Bool
  | 0, _, _ => none
  | _ + 1, [], _ => some false
  | fuel + 1, vertex :: pending, visited =>
    if vertex = goal then some true
    else if vertex ∈ visited then search goal fuel pending visited
    else search goal fuel ((successors edges vertex).reverse ++ pending) (vertex :: visited)

/-- The edges whose source was not visited yet. -/
def unexplored (visited : List α) : List (α × α) := edges.filter (·.1 ∉ visited)

private theorem length_unexplored_cons {vertex : α} {visited : List α} (h : vertex ∉ visited) :
    (unexplored edges visited).length =
      (successors edges vertex).length + (unexplored edges (vertex :: visited)).length := by
  unfold unexplored successors
  rw [List.length_map]
  induction edges with
  | nil => rfl
  | cons e es ih =>
    by_cases hv : e.1 = vertex
    · have hmem : e.1 ∉ visited := hv ▸ h
      rw [List.filter_cons_of_pos (by simpa using hmem),
        List.filter_cons_of_pos (by simpa using hv),
        List.filter_cons_of_neg (by simp [hv]), List.length_cons, List.length_cons, ih]
      omega
    · by_cases hmem : e.1 ∈ visited
      · rw [List.filter_cons_of_neg (by simpa using hmem),
          List.filter_cons_of_neg (by simpa using hv),
          List.filter_cons_of_neg (by simp [hmem]), ih]
      · rw [List.filter_cons_of_pos (by simpa using hmem),
          List.filter_cons_of_neg (by simpa using hv),
          List.filter_cons_of_pos (by simp [hv, hmem]), List.length_cons, List.length_cons, ih]
        omega

/-- **The search ends.** Every vertex taken off the stack was pending at the start or was
pushed for an edge, and the edges of a vertex are pushed once. -/
theorem search_isSome (goal : α) :
    ∀ (fuel : Nat) (pending visited : List α),
      pending.length + (unexplored edges visited).length < fuel →
        (search edges goal fuel pending visited).isSome = true
  | 0, _, _, h => absurd h (Nat.not_lt_zero _)
  | _ + 1, [], _, _ => rfl
  | fuel + 1, vertex :: pending, visited, h => by
    rw [List.length_cons] at h
    unfold search
    split
    · rfl
    · split
      · exact search_isSome goal fuel pending visited (by omega)
      · next hmem =>
        refine search_isSome goal fuel _ _ ?_
        have hcount := length_unexplored_cons edges hmem
        rw [List.length_append, List.length_reverse]
        omega

theorem length_unexplored_le (visited : List α) :
    (unexplored edges visited).length ≤ edges.length :=
  List.length_filter_le _ _

end Reachability
