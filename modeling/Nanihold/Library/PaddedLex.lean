import Mathlib.Data.List.Lex
import Mathlib.Order.PiLex

/-!
# Padded lexicographic comparison

Two lists of different lengths are compared entry by entry as if the shorter went on with a default.
Filling both up to a common width and comparing them as lists gives the same order, and a list that
ends in defaults stands where it stands without them.

## Main definitions

* `PaddedLex.entries` — the entries of a list, continued by a default, in lexicographic order.
* `PaddedLex.pad` — a list filled up to a width.

## Main results

* `PaddedLex.pad_lt_pad_iff` — the order of the filled lists is the order of the entries.
* `PaddedLex.entries_append_le_iff` — appended entries do not raise a list only if all are defaults.
-/

namespace PaddedLex

variable {α : Type*} (d : α)

/-- The entries of a list, continued by a default. -/
def entries (l : List α) : Lex (ℕ → α) := toLex fun i => l.getD i d

/-- A list filled up to a width. -/
def pad (width : ℕ) (l : List α) : List α := l ++ List.replicate (width - l.length) d

theorem length_pad {width : ℕ} {l : List α} (h : l.length ≤ width) :
    (pad d width l).length = width := by
  rw [pad, List.length_append, List.length_replicate]
  omega

theorem getD_append_replicate (l : List α) (n i : ℕ) :
    (l ++ List.replicate n d).getD i d = l.getD i d := by
  simp only [List.getD_eq_getElem?_getD]
  by_cases hi : i < l.length
  · rw [List.getElem?_append_left hi]
  · rw [List.getElem?_append_right (by omega), List.getElem?_replicate,
      List.getElem?_eq_none (by omega : l.length ≤ i)]
    split <;> rfl

/-- Defaults at the end change nothing. -/
theorem entries_append_replicate (l : List α) (n : ℕ) :
    entries d (l ++ List.replicate n d) = entries d l := by
  refine congrArg toLex ?_
  funext i
  exact getD_append_replicate d l n i

theorem entries_pad (width : ℕ) (l : List α) : entries d (pad d width l) = entries d l :=
  entries_append_replicate d l _

variable [LinearOrder α]

theorem entries_lt_iff {a b : List α} :
    entries d a < entries d b ↔
      ∃ i, (∀ j < i, a.getD j d = b.getD j d) ∧ a.getD i d < b.getD i d := Iff.rfl

theorem entries_le_iff {a b : List α} :
    entries d a ≤ entries d b ↔ ¬entries d b < entries d a := not_lt.symm

theorem entries_cons_lt_cons_iff {x y : α} {a b : List α} :
    entries d (x :: a) < entries d (y :: b) ↔ x < y ∨ x = y ∧ entries d a < entries d b := by
  rw [entries_lt_iff, entries_lt_iff]
  constructor
  · rintro ⟨i, hbefore, hat⟩
    cases i with
    | zero => exact Or.inl hat
    | succ i =>
      refine Or.inr ⟨hbefore 0 (Nat.succ_pos i), i, fun j hj => ?_, hat⟩
      exact hbefore (j + 1) (Nat.succ_lt_succ hj)
  · rintro (hlt | ⟨rfl, i, hbefore, hat⟩)
    · exact ⟨0, fun j hj => absurd hj (Nat.not_lt_zero j), hlt⟩
    · refine ⟨i + 1, fun j hj => ?_, hat⟩
      cases j with
      | zero => rfl
      | succ j => exact hbefore j (Nat.lt_of_succ_lt_succ hj)

/-- Lists of one length are ordered as their entries are. -/
theorem lt_iff_entries_lt {a b : List α} (h : a.length = b.length) :
    a < b ↔ entries d a < entries d b := by
  induction a generalizing b with
  | nil =>
    obtain rfl := List.length_eq_zero_iff.mp h.symm
    exact iff_of_false (lt_irrefl _) (lt_irrefl (entries d []))
  | cons x a ih =>
    cases b with
    | nil => cases h
    | cons y b =>
      rw [List.cons_lt_cons_iff, entries_cons_lt_cons_iff, ih (Nat.succ.inj h)]

/-- **Filled lists** are ordered as the entries of the lists are. -/
theorem pad_lt_pad_iff {width : ℕ} {a b : List α} (ha : a.length ≤ width)
    (hb : b.length ≤ width) : pad d width a < pad d width b ↔ entries d a < entries d b := by
  rw [lt_iff_entries_lt d (by rw [length_pad d ha, length_pad d hb]), entries_pad, entries_pad]

/-- **Appended entries** do not raise a list only if all of them are the least entry. -/
theorem entries_append_le_iff (hleast : ∀ x, d ≤ x) {a extras : List α} :
    entries d (a ++ extras) ≤ entries d a ↔ ∀ x ∈ extras, x = d := by
  induction a with
  | cons x a ih =>
    rw [← ih, entries_le_iff, entries_le_iff, List.cons_append, entries_cons_lt_cons_iff]
    simp
  | nil =>
    induction extras with
    | nil => simp
    | cons x extras ih =>
      have hnil : entries d ([] : List α) = entries d [d] := by
        refine congrArg toLex ?_
        funext i
        cases i <;> rfl
      rw [List.nil_append, entries_le_iff, hnil, entries_cons_lt_cons_iff, List.forall_mem_cons,
        ← ih, List.nil_append, entries_le_iff]
      constructor
      · intro h
        obtain rfl : d = x := by
          by_contra hne
          exact h (Or.inl (lt_of_le_of_ne (hleast x) hne))
        exact ⟨rfl, fun hlt => h (Or.inr ⟨rfl, hlt⟩)⟩
      · rintro ⟨rfl, hnot⟩ (hlt | ⟨-, hlt⟩)
        · exact lt_irrefl _ hlt
        · exact hnot hlt

end PaddedLex
