import Mathlib.Init

/-!
# Lines

How a text is cut into lines where a carriage return and a line feed that follows it are one
break, and where each of some other characters is a break by itself. A break at the end begins no
new line.

## Main definitions

* `Lines.split` — the lines of a text.

## Main results

* `Lines.split_of_forall` — a text without breaks is one line.
-/

namespace Lines

variable {α : Type} [DecidableEq α] (cr lf : α) (isBreak : α → Bool)

/-- The lines of a text that follows a carriage return or not. -/
def splitFrom (afterCr : Bool) : List α → List (List α)
  | [] => []
  | c :: rest =>
    if c = lf ∧ afterCr = true then splitFrom false rest
    else if c = cr then [] :: splitFrom true rest
    else if isBreak c then [] :: splitFrom false rest
    else
      match splitFrom false rest with
      | [] => [[c]]
      | line :: lines => (c :: line) :: lines

/-- The lines of a text. -/
def split (text : List α) : List (List α) := splitFrom cr lf isBreak false text

variable {cr lf isBreak}

/-- **A text without breaks is one line.** -/
theorem split_of_forall {text : List α} (hne : text ≠ [])
    (h : ∀ c ∈ text, c ≠ cr ∧ isBreak c = false) : split cr lf isBreak text = [text] := by
  rw [split]
  induction text with
  | nil => exact absurd rfl hne
  | cons c rest ih =>
    obtain ⟨⟨hcr, hbreak⟩, hrest⟩ := List.forall_mem_cons.mp h
    rw [splitFrom, if_neg fun hlf => Bool.false_ne_true hlf.2, if_neg hcr, hbreak,
      if_neg Bool.false_ne_true]
    cases rest with
    | nil => rfl
    | cons d rest => rw [ih (List.cons_ne_nil _ _) hrest]

example : split 13 10 (· = 10) [97, 13, 10, 10, 98] = [[97], [], [98]] := by decide

end Lines
