import Mathlib.Logic.Relation
import Mathlib.Order.WellFoundedSet
import Nanihold.Library.Reachability

/-!
# Acyclic relations

A relation is acyclic when no path of it leads from a vertex back to itself. The lemmas say how
an acyclic relation may grow: by an edge whose target does not reach its source, or by another
acyclic relation on other vertices. A depth-first search that misses its goal certifies the
first condition.

## Main definitions

* `Reachability.Edge` — one edge of a list.
* `Reachability.Acyclic` — no vertex reaches itself along one edge or more.

## Main results

* `Reachability.Acyclic.insert`, `Reachability.Acyclic.union` — growth of an acyclic relation.
* `Reachability.Acyclic.exists_minimal` — a finite set has a vertex with no edge into the set.
* `Reachability.not_reaches_of_search` — a search that misses its goal found no path.
* `Reachability.search_eq_some_false_iff` — it misses its goal exactly if there is no path.
-/

namespace Reachability

open Relation (TransGen ReflTransGen)

variable {α : Type} {r s : α → α → Prop}

/-- One edge of a list. -/
def Edge (edges : List (α × α)) (x y : α) : Prop := (x, y) ∈ edges

/-- No vertex reaches itself along one edge or more. -/
def Acyclic (r : α → α → Prop) : Prop := ∀ x, ¬ TransGen r x x

/-! ### Growth -/

theorem Acyclic.mono (hs : Acyclic s) (h : ∀ x y, r x y → s x y) : Acyclic r :=
  fun x hx => hs x (Relation.TransGen.mono h x x hx)

theorem acyclic_of_forall_not (h : ∀ x y, ¬ r x y) : Acyclic r := by
  intro x hx
  obtain ⟨y, -, hy⟩ := Relation.TransGen.tail'_iff.mp hx
  exact h y x hy

/-- A path that may use the edge from `a` to `b` avoids it, or goes to `a` and on from `b`. -/
private theorem transGen_insert {a b x y : α}
    (h : TransGen (fun x y => r x y ∨ x = a ∧ y = b) x y) :
    TransGen r x y ∨ ReflTransGen r x a ∧ ReflTransGen r b y := by
  induction h with
  | single hxy =>
    rcases hxy with hxy | ⟨rfl, rfl⟩
    · exact Or.inl (.single hxy)
    · exact Or.inr ⟨.refl, .refl⟩
  | tail _ hyz ih =>
    rcases ih with hpath | ⟨hxa, hby⟩ <;> rcases hyz with hyz | ⟨rfl, rfl⟩
    · exact Or.inl (hpath.tail hyz)
    · exact Or.inr ⟨hpath.to_reflTransGen, .refl⟩
    · exact Or.inr ⟨hxa, hby.tail hyz⟩
    · exact Or.inr ⟨hxa, .refl⟩

/-- **A new edge** whose target does not reach its source. -/
theorem Acyclic.insert (hr : Acyclic r) {a b : α} (h : ¬ ReflTransGen r b a) :
    Acyclic fun x y => r x y ∨ x = a ∧ y = b := by
  intro x hx
  rcases transGen_insert hx with hpath | ⟨hxa, hbx⟩
  · exact hr x hpath
  · exact h (hbx.trans hxa)

/-- A vertex that no edge leads to is reached from itself alone. -/
theorem not_reaches_of_unreached {a b : α} (hne : b ≠ a) (h : ∀ x, ¬ r x a) :
    ¬ ReflTransGen r b a := by
  intro hpath
  rcases Relation.ReflTransGen.cases_tail hpath with heq | ⟨x, -, hx⟩
  · exact hne heq.symm
  · exact h x hx

/-- A path of two relations whose edges do not follow one another is a path of one of them. -/
private theorem transGen_union {x y : α} (hrs : ∀ x y z, r x y → ¬ s y z)
    (hsr : ∀ x y z, s x y → ¬ r y z) (h : TransGen (fun x y => r x y ∨ s x y) x y) :
    TransGen r x y ∨ TransGen s x y := by
  induction h with
  | single hxy => exact hxy.imp .single .single
  | tail _ hyz ih =>
    rcases ih with hpath | hpath <;> rcases hyz with hyz | hyz
    · exact Or.inl (hpath.tail hyz)
    · obtain ⟨w, -, hw⟩ := Relation.TransGen.tail'_iff.mp hpath
      exact absurd hyz (hrs w _ _ hw)
    · obtain ⟨w, -, hw⟩ := Relation.TransGen.tail'_iff.mp hpath
      exact absurd hyz (hsr w _ _ hw)
    · exact Or.inr (hpath.tail hyz)

/-- **Two acyclic relations** whose edges do not follow one another. -/
theorem Acyclic.union (hr : Acyclic r) (hs : Acyclic s) (hrs : ∀ x y z, r x y → ¬ s y z)
    (hsr : ∀ x y z, s x y → ¬ r y z) : Acyclic fun x y => r x y ∨ s x y := by
  intro x hx
  rcases transGen_union hrs hsr hx with hpath | hpath
  · exact hr x hpath
  · exact hs x hpath

/-! ### Minimal vertices -/

/-- **A finite set of vertices** holds one with no edge into the set. -/
theorem Acyclic.exists_minimal (hr : Acyclic r) {S : Set α} (hfinite : S.Finite)
    (hS : S.Nonempty) : ∃ x ∈ S, ∀ y ∈ S, ¬ r x y := by
  have horder : IsStrictOrder α fun x y => TransGen r y x :=
    { irrefl := hr, trans := fun _ _ _ hxy hyz => hyz.trans hxy }
  have hwf : S.WellFoundedOn fun x y => TransGen r y x := hfinite.wellFoundedOn
  obtain ⟨a, ha⟩ := hS
  obtain ⟨⟨x, hx⟩, -, hmin⟩ := WellFounded.has_min hwf Set.univ ⟨⟨a, ha⟩, trivial⟩
  exact ⟨x, hx, fun y hy hxy => hmin ⟨y, hy⟩ trivial (.single hxy)⟩

/-! ### The search -/

section Search

variable [DecidableEq α] {edges : List (α × α)}

private theorem mem_successors_iff {vertex x : α} :
    x ∈ successors edges vertex ↔ (vertex, x) ∈ edges := by
  rw [successors, List.mem_map]
  constructor
  · rintro ⟨⟨source, target⟩, hmem, rfl⟩
    obtain ⟨hedge, hsource⟩ := List.mem_filter.mp hmem
    rw [← of_decide_eq_true hsource]
    exact hedge
  · intro hedge
    exact ⟨(vertex, x), List.mem_filter.mpr ⟨hedge, decide_eq_true rfl⟩, rfl⟩

/-- A search that misses its goal ends with a set of vertices that holds all it was given, that
no edge leaves and in which the goal is not. -/
private theorem closed_of_search {goal : α} :
    ∀ {fuel : Nat} {pending visited : List α}, search edges goal fuel pending visited = some false →
      goal ∉ visited →
      (∀ x ∈ visited, ∀ y, (x, y) ∈ edges → y ∈ visited ∨ y ∈ pending) →
      ∃ closed : List α, (∀ x, x ∈ visited ∨ x ∈ pending → x ∈ closed) ∧ goal ∉ closed ∧
        ∀ x ∈ closed, ∀ y, (x, y) ∈ edges → y ∈ closed
  | 0, _, _, h, _, _ => by cases h
  | _ + 1, [], visited, _, hgoal, hclosed =>
    ⟨visited, by simp, hgoal, fun x hx y hy => (hclosed x hx y hy).resolve_right List.not_mem_nil⟩
  | fuel + 1, vertex :: pending, visited, h, hgoal, hclosed => by
    unfold search at h
    split_ifs at h with hne hmem
    · cases h
    · obtain ⟨closed, hin, hout, hedges⟩ := closed_of_search h hgoal fun x hx y hy => by
        rcases hclosed x hx y hy with hvisited | hpending
        · exact Or.inl hvisited
        · rcases List.mem_cons.mp hpending with rfl | hpending
          · exact Or.inl hmem
          · exact Or.inr hpending
      refine ⟨closed, fun x hx => hin x ?_, hout, hedges⟩
      rcases hx with hvisited | hpending
      · exact Or.inl hvisited
      · rcases List.mem_cons.mp hpending with rfl | hpending
        · exact Or.inl hmem
        · exact Or.inr hpending
    · have hgoal' : goal ∉ vertex :: visited := by
        rw [List.mem_cons, not_or]
        exact ⟨Ne.symm hne, hgoal⟩
      obtain ⟨closed, hin, hout, hedges⟩ := closed_of_search h hgoal' fun x hx y hy => by
        rcases List.mem_cons.mp hx with rfl | hvisited
        · refine Or.inr (List.mem_append_left _ (List.mem_reverse.mpr ?_))
          exact mem_successors_iff.mpr hy
        · rcases hclosed x hvisited y hy with hvisited | hpending
          · exact Or.inl (List.mem_cons_of_mem _ hvisited)
          · rcases List.mem_cons.mp hpending with rfl | hpending
            · exact Or.inl List.mem_cons_self
            · exact Or.inr (List.mem_append_right _ hpending)
      refine ⟨closed, fun x hx => hin x ?_, hout, hedges⟩
      rcases hx with hvisited | hpending
      · exact Or.inl (List.mem_cons_of_mem _ hvisited)
      · rcases List.mem_cons.mp hpending with rfl | hpending
        · exact Or.inl List.mem_cons_self
        · exact Or.inr (List.mem_append_right _ hpending)

/-- **A search that misses its goal** found no path to it. -/
theorem not_reaches_of_search {goal start : α} {fuel : Nat}
    (h : search edges goal fuel [start] [] = some false) :
    ¬ ReflTransGen (Edge edges) start goal := by
  obtain ⟨closed, hin, hout, hedges⟩ :=
    closed_of_search h List.not_mem_nil fun _ hx => nomatch hx
  have hreach : ∀ x, ReflTransGen (Edge edges) start x → x ∈ closed := by
    intro x hpath
    induction hpath with
    | refl => exact hin _ (Or.inr List.mem_cons_self)
    | tail _ hedge ih => exact hedges _ ih _ hedge
  exact fun hpath => hout (hreach goal hpath)

/-- What a search finds is reached from a vertex that was pending. -/
private theorem reaches_of_found {goal : α} :
    ∀ {fuel : Nat} {pending visited : List α}, search edges goal fuel pending visited = some true →
      ∃ x ∈ pending, ReflTransGen (Edge edges) x goal
  | 0, _, _, h => by cases h
  | _ + 1, [], _, h => by cases h
  | fuel + 1, vertex :: pending, visited, h => by
    unfold search at h
    split_ifs at h with heq hmem
    · exact ⟨vertex, List.mem_cons_self, heq ▸ .refl⟩
    · obtain ⟨x, hx, hpath⟩ := reaches_of_found h
      exact ⟨x, List.mem_cons_of_mem _ hx, hpath⟩
    · obtain ⟨x, hx, hpath⟩ := reaches_of_found h
      rcases List.mem_append.mp hx with hnext | hpending
      · have hedge := mem_successors_iff.mp (List.mem_reverse.mp hnext)
        exact ⟨vertex, List.mem_cons_self, hpath.head hedge⟩
      · exact ⟨x, List.mem_cons_of_mem _ hpending, hpath⟩

/-- **A search that ends** says whether there is a path. -/
theorem search_eq_some_false_iff {goal start : α} {fuel : Nat}
    (hends : (search edges goal fuel [start] []).isSome = true) :
    search edges goal fuel [start] [] = some false ↔
      ¬ ReflTransGen (Edge edges) start goal := by
  refine ⟨not_reaches_of_search, fun hnot => ?_⟩
  obtain ⟨found, hfound⟩ := Option.isSome_iff_exists.mp hends
  cases found with
  | false => exact hfound
  | true =>
    obtain ⟨x, hx, hpath⟩ := reaches_of_found hfound
    rw [List.mem_singleton.mp hx] at hpath
    exact absurd hpath hnot

end Search

end Reachability
