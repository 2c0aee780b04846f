import Mathlib.Data.List.Chain
import Mathlib.Data.Set.Pairwise.Basic
import Mathlib.Order.CompletePartialOrder
import Mathlib.Order.Interval.Set.Disjoint

/-!
# Handing out a growing interval piece by piece

A reader of a growing log keeps the point up to which it has handed the log out. Each batch is
handed the stretch from that point to a later one, every member of the batch the same stretch.
The pieces then tile the log: each point lies in exactly one of them.

## Main definitions

* `Handout.Tiles` — the pieces handed out tile the interval between two points.

## Main results

* `Handout.Tiles.extend` — a batch that is handed the next stretch.
* `Handout.Tiles.existsUnique` — each point lies in exactly one piece.
-/

namespace Handout

variable {α β : Type} [LinearOrder α]

/-- The pieces, in the order they were handed out, tile the interval from `start` to `now`. Pieces
that are handed out together are equal. -/
structure Tiles (after through : β → α) (start now : α) (pieces : List β) : Prop where
  ordered : start ≤ now
  union : ⋃ d ∈ pieces, Set.Ioc (after d) (through d) = Set.Ioc start now
  disjoint : Set.PairwiseDisjoint {d | d ∈ pieces} fun d => Set.Ioc (after d) (through d)
  contiguous : pieces.IsChain fun d next => d = next ∨ through d = after next
  first : ∀ d ∈ pieces.head?, after d = start
  last : ∀ d ∈ pieces.getLast?, through d = now

variable {after through : β → α} {start now : α} {pieces : List β}

/-- Nothing was handed out. -/
theorem tiles_nil (start : α) : Tiles after through start start [] where
  ordered := le_rfl
  union := by simp
  disjoint := by simp [Set.PairwiseDisjoint, Set.Pairwise]
  contiguous := .nil
  first _ h := nomatch h
  last _ h := nomatch h

namespace Tiles

/-- Each point of the interval lies in exactly one piece. -/
theorem existsUnique (h : Tiles after through start now pieces) {c : α} (hstart : start < c)
    (hnow : c ≤ now) : ∃! d, d ∈ pieces ∧ after d < c ∧ c ≤ through d := by
  have hmem : c ∈ ⋃ d ∈ pieces, Set.Ioc (after d) (through d) := by
    rw [h.union]
    exact ⟨hstart, hnow⟩
  obtain ⟨d, hd, hc⟩ := Set.mem_iUnion₂.mp hmem
  refine ⟨d, ⟨hd, hc⟩, fun other hother => ?_⟩
  by_contra hne
  exact Set.disjoint_left.mp (h.disjoint hother.1 hd hne) hother.2 hc

/-- Without pieces the interval is empty. -/
theorem eq_of_nil (h : Tiles after through start now []) : now = start := by
  refine le_antisymm (not_lt.mp fun hlt => ?_) h.ordered
  obtain ⟨_, ⟨hd, -⟩, -⟩ := h.existsUnique hlt le_rfl
  exact nomatch hd

/-- A piece lies within the interval. -/
theorem through_le (h : Tiles after through start now pieces) {d : β} (hd : d ∈ pieces)
    (hlt : after d < through d) : through d ≤ now := by
  have hmem : through d ∈ ⋃ d ∈ pieces, Set.Ioc (after d) (through d) :=
    Set.mem_iUnion₂.mpr ⟨d, hd, hlt, le_rfl⟩
  rw [h.union] at hmem
  exact hmem.2

/-- The piece before a batch ends where the batch starts. -/
private theorem isChain_append (h : Tiles after through start now pieces) {batch : List β} {d : β}
    (hbatch : ∀ member ∈ batch, member = d) (hafter : after d = now) :
    (pieces ++ batch).IsChain fun d next => d = next ∨ through d = after next := by
  refine List.isChain_append.mpr ⟨h.contiguous, ?_, ?_⟩
  · exact List.Pairwise.isChain <| List.pairwise_of_forall_mem_list fun a ha b hb =>
      Or.inl ((hbatch a ha).trans (hbatch b hb).symm)
  · intro last hlast first hfirst
    rw [hbatch first (List.mem_of_mem_head? hfirst), hafter]
    exact Or.inr (h.last last hlast)

/-- **The next stretch is handed out**, to each member of a batch that is not empty. -/
theorem extend (h : Tiles after through start now pieces) {batch : List β} {d : β}
    (hbatch : ∀ member ∈ batch, member = d) (hne : batch ≠ []) (hafter : after d = now)
    (hthrough : now ≤ through d) : Tiles after through start (through d) (pieces ++ batch) := by
  have hmem : d ∈ batch := by
    obtain ⟨member, hmember⟩ := List.exists_mem_of_ne_nil batch hne
    exact hbatch member hmember ▸ hmember
  have hearlier {other : β} (hother : other ∈ pieces) :
      Disjoint (Set.Ioc (after other) (through other)) (Set.Ioc (after d) (through d)) := by
    refine Set.disjoint_left.mpr fun c hc hd => ?_
    have hle := h.through_le hother (hc.1.trans_le hc.2)
    exact absurd (hd.1.trans_le (hc.2.trans hle)) (hafter ▸ lt_irrefl _)
  constructor
  · exact h.ordered.trans hthrough
  · rw [← Set.Ioc_union_Ioc_eq_Ioc h.ordered hthrough, ← h.union, ← hafter]
    ext c
    simp only [Set.mem_iUnion, List.mem_append, Set.mem_union, exists_prop]
    constructor
    · rintro ⟨other, hold | hnew, hc⟩
      · exact Or.inl ⟨other, hold, hc⟩
      · exact Or.inr (hbatch other hnew ▸ hc)
    · rintro (⟨other, hold, hc⟩ | hc)
      · exact ⟨other, Or.inl hold, hc⟩
      · exact ⟨d, Or.inr hmem, hc⟩
  · intro a ha b hb hab
    rcases List.mem_append.mp ha with holda | hnewa <;>
      rcases List.mem_append.mp hb with holdb | hnewb
    · exact h.disjoint holda holdb hab
    · rw [hbatch b hnewb]
      exact hearlier holda
    · rw [hbatch a hnewa]
      exact (hearlier holdb).symm
    · exact absurd ((hbatch a hnewa).trans (hbatch b hnewb).symm) hab
  · exact isChain_append h hbatch hafter
  · intro first hfirst
    cases pieces with
    | nil =>
      rw [hbatch first (List.mem_of_mem_head? hfirst), hafter, h.eq_of_nil]
    | cons piece pieces => exact h.first first hfirst
  · intro last hlast
    rw [List.getLast?_append_of_ne_nil _ hne] at hlast
    rw [hbatch last (List.mem_of_mem_getLast? hlast)]

end Tiles

end Handout
