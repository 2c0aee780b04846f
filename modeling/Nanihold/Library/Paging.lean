import Nanihold.Library.Checked
import Mathlib.Data.List.Range

/-!
# Reading a log by pages

A log is read in pages: a reader asks for the elements after a position, and goes on after the
position of the last element it got, until a page is empty. When the elements carry their
positions `1, …, n`, it reads the whole log, whatever the page size and wherever it starts.

## Main definitions

* `Paging.readAll` — read page after page.

## Main results

* `Paging.readAll_eq` — the pages together are what lies after the start.
-/

namespace Paging

variable {ε α : Type} (page : Nat → Except ε (List α)) (position : α → Nat)

/-- Read page after page until one is empty. The first argument bounds the number of pages;
`none` says that it was used up. -/
def readAll : Nat → Nat → Except ε (Option (List α))
  | 0, _ => .ok none
  | fuel + 1, after => do
    let events ← page after
    match events.getLast? with
    | none => return some []
    | some last => do
      let rest ← readAll fuel (position last)
      return rest.map (events ++ ·)

variable {page position} {log : List α} {limit : Nat}

/-- The last element of a page that starts after a position stands at the end of the page. -/
private theorem position_last (hposition : log.map position = List.range' 1 log.length)
    {after : Nat} {last : α} (hlast : ((log.drop after).take limit).getLast? = some last) :
    position last = after + ((log.drop after).take limit).length := by
  have hpage : ((log.drop after).take limit).map position =
      ((List.range' 1 log.length).drop after).take limit := by
    rw [← hposition, List.map_take, List.map_drop]
  have hmap := congrArg List.getLast? hpage
  rw [List.getLast?_map, hlast, Option.map_some, List.getLast?_eq_getElem?, List.length_take,
    List.length_drop, List.length_range'] at hmap
  have hne : (log.drop after).take limit ≠ [] := by
    intro hnil
    rw [hnil] at hlast
    cases hlast
  have hlength := List.length_pos_iff.mpr hne
  rw [List.length_take, List.length_drop] at hlength ⊢
  rw [List.getElem?_take_of_lt (by omega), List.getElem?_drop, List.getElem?_range' (by omega)]
    at hmap
  have := Option.some.inj hmap
  omega

/-- **Reading by pages reads everything.** When the elements stand at the positions `1, …, n` and a
page is a non-empty stretch of the log, the pages together are what lies after the start, and
`log.length + 1` pages are enough. -/
theorem readAll_eq (hpos : 0 < limit)
    (hposition : log.map position = List.range' 1 log.length)
    (hpage : ∀ after, page after = .ok ((log.drop after).take limit)) :
    ∀ (fuel after : Nat), log.length - after < fuel →
      readAll page position fuel after = .ok (some (log.drop after))
  | 0, _, hfuel => absurd hfuel (Nat.not_lt_zero _)
  | fuel + 1, after, hfuel => by
    rw [readAll, hpage]
    change (match ((log.drop after).take limit).getLast? with
      | none => _
      | some last => _) = _
    cases hlast : ((log.drop after).take limit).getLast? with
    | none =>
      rw [List.getLast?_eq_none_iff, List.take_eq_nil_iff] at hlast
      rw [hlast.resolve_left (Nat.pos_iff_ne_zero.mp hpos)]
      rfl
    | some last =>
      have hlength := position_last hposition hlast
      have hne : 0 < ((log.drop after).take limit).length := by
        rw [List.length_pos_iff]
        intro hnil
        rw [hnil] at hlast
        cases hlast
      have hle : ((log.drop after).take limit).length ≤ log.length - after := by
        rw [List.length_take, List.length_drop]
        omega
      have ih := readAll_eq hpos hposition hpage fuel (position last) (by omega)
      simp only [ih]
      have hjoin : (log.drop after).take limit ++ log.drop (position last) = log.drop after := by
        rw [hlength, ← List.drop_drop, List.length_take]
        rcases Nat.le_total limit (log.drop after).length with h | h
        · rw [Nat.min_eq_left h, List.take_append_drop]
        · rw [Nat.min_eq_right h, List.drop_length, List.append_nil, List.take_of_length_le h]
      exact congrArg (fun read => Except.ok (some read)) hjoin

end Paging
