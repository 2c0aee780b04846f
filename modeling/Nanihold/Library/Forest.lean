import Nanihold.Library.Acyclic

/-!
# Forests of parent references

A map of parents gives `none` for an unknown entity, `some none` for a root and `some (some p)`
for a child of `p`. It is a forest when every parent is known and no entity is its own ancestor.
The lemmas say how a forest may grow: by one entity, or by a whole map of parents.

## Main definitions

* `Forest.ChildOf` — the parent relation of a map.
* `Forest` — parents are known and nothing is its own ancestor.

## Main results

* `Forest.set` — one entity with a parent that is not below it.
* `Forest.extend` — a map of parents that agrees with the forest and closes no cycle itself.
-/

open Reachability (Acyclic)
open Relation (TransGen ReflTransGen)

namespace Forest

/-- The second entity is the parent of the first. -/
def ChildOf {α : Type} (parents : α → Option (Option α)) (x y : α) : Prop :=
  parents x = some (some y)

end Forest

open Forest (ChildOf)

/-- Every parent is known, and no entity is its own ancestor. -/
structure Forest {α : Type} (parents : α → Option (Option α)) : Prop where
  parent_known : ∀ x y, ChildOf parents x y → (parents y).isSome = true
  acyclic : Acyclic (ChildOf parents)

namespace Forest

variable {α : Type} {parents more : α → Option (Option α)}

theorem empty : Forest fun _ : α => none where
  parent_known _ _ h := nomatch h
  acyclic := Reachability.acyclic_of_forall_not fun _ _ h => nomatch h

/-- An unknown entity is no one's parent. -/
theorem not_childOf_unknown (h : Forest parents) {x y : α} (hy : parents y = none) :
    ¬ ChildOf parents x y := by
  intro hxy
  have hknown := h.parent_known x y hxy
  rw [hy] at hknown
  exact nomatch hknown

/-- **One entity** is set as a root or under a known parent that is not below it. -/
theorem set [DecidableEq α] (h : Forest parents) {x : α} {parent : Option α}
    (hparent : ∀ y ∈ parent, (parents y).isSome = true ∧ ¬ ReflTransGen (ChildOf parents) y x) :
    Forest (Function.update parents x (some parent)) := by
  have hchild {a b : α} (hab : ChildOf (Function.update parents x (some parent)) a b) :
      ChildOf parents a b ∨ a = x ∧ parent = some b := by
    by_cases hax : a = x
    · rw [ChildOf, hax, Function.update_self] at hab
      exact Or.inr ⟨hax, Option.some.inj hab⟩
    · rw [ChildOf, Function.update_of_ne hax] at hab
      exact Or.inl hab
  constructor
  · intro a b hab
    by_cases hbx : b = x
    · rw [hbx, Function.update_self]
      rfl
    · rw [Function.update_of_ne hbx]
      rcases hchild hab with hold | ⟨-, hb⟩
      · exact h.parent_known a b hold
      · exact (hparent b hb).1
  · cases parent with
    | none =>
      exact h.acyclic.mono fun a b hab => (hchild hab).resolve_right fun hnew => nomatch hnew.2
    | some y =>
      refine (h.acyclic.insert (hparent y rfl).2).mono fun a b hab => ?_
      exact (hchild hab).imp_right fun ⟨hax, hb⟩ => ⟨hax, (Option.some.inj hb).symm⟩

/-- An unknown entity is set as a root or under a known parent. -/
theorem set_unknown [DecidableEq α] (h : Forest parents) {x : α} {parent : Option α}
    (hx : parents x = none) (hparent : ∀ y ∈ parent, (parents y).isSome = true) :
    Forest (Function.update parents x (some parent)) := by
  refine h.set fun y hy => ⟨hparent y hy, ?_⟩
  refine Reachability.not_reaches_of_unreached ?_ fun a => h.not_childOf_unknown hx
  rintro rfl
  have hknown := hparent y hy
  rw [hx] at hknown
  exact nomatch hknown

/-- **A map of parents** that agrees with the forest where both are defined, whose parents are
known to one of them and that closes no cycle itself. -/
theorem extend (h : Forest parents) (hacyclic : Acyclic (ChildOf more))
    (hknown : ∀ x y, ChildOf more x y → (more y).isSome = true ∨ (parents y).isSome = true)
    (hagree : ∀ x p q, more x = some p → parents x = some q → p = q) :
    Forest fun x => (more x).or (parents x) := by
  have hchild {x y : α} (hxy : ChildOf (fun x => (more x).or (parents x)) x y) :
      ChildOf more x y ∨ ChildOf parents x y := by
    rcases Option.or_eq_some_iff.mp hxy with hmore | ⟨-, hold⟩
    · exact Or.inl hmore
    · exact Or.inr hold
  -- The parent of an entity of the forest is the one the forest gives it.
  have hold {x y : α} (hxy : ChildOf (fun x => (more x).or (parents x)) x y)
      (hx : (parents x).isSome = true) : ChildOf parents x y := by
    rcases hchild hxy with hmore | hparents
    · obtain ⟨q, hq⟩ := Option.isSome_iff_exists.mp hx
      rw [ChildOf, hq, hagree x _ q hmore hq]
    · exact hparents
  constructor
  · intro x y hxy
    rw [Option.isSome_or, Bool.or_eq_true]
    rcases hchild hxy with hmore | hparents
    · exact hknown x y hmore
    · exact Or.inr (h.parent_known x y hparents)
  · intro x hcycle
    by_cases hx : (parents x).isSome = true
    · have hinside {y : α} (hpath : TransGen (ChildOf fun x => (more x).or (parents x)) x y) :
          TransGen (ChildOf parents) x y ∧ (parents y).isSome = true := by
        induction hpath with
        | single hxy =>
          have hchildOf := hold hxy hx
          exact ⟨.single hchildOf, h.parent_known _ _ hchildOf⟩
        | tail _ hyz ih =>
          have hchildOf := hold hyz ih.2
          exact ⟨ih.1.tail hchildOf, h.parent_known _ _ hchildOf⟩
      exact h.acyclic x (hinside hcycle).1
    · have houtside {y : α} (hpath : TransGen (ChildOf fun x => (more x).or (parents x)) y x) :
          TransGen (ChildOf more) y x ∧ ¬ (parents y).isSome = true := by
        induction hpath using Relation.TransGen.head_induction_on with
        | single hyx =>
          have hy : ¬ (parents _).isSome = true := fun hy => hx (h.parent_known _ _ (hold hyx hy))
          refine ⟨.single ((hchild hyx).resolve_right fun hparents => hy ?_), hy⟩
          rw [hparents]
          rfl
        | head hyz _ ih =>
          have hy : ¬ (parents _).isSome = true := fun hy => ih.2 (h.parent_known _ _ (hold hyz hy))
          refine ⟨.head ((hchild hyz).resolve_right fun hparents => hy ?_) ih.1, hy⟩
          rw [hparents]
          rfl
      exact hacyclic x (houtside hcycle).1

end Forest
