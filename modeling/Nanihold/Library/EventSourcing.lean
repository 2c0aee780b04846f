import Nanihold.Library.Checked
import Mathlib.Data.List.Basic

/-!
# Event sourcing

A view is rebuilt from a log by applying its events one after the other; an event that the
view refuses stops the rebuild. The log is read in pages, each starting after the cursor the
view has reached. Reading by pages gives what one pass over the log gives, for every page
size, and it ends.

## Main definitions

* `EventSourcing.replay` — apply a list of events to a view.
* `EventSourcing.Lawful` — a log whose events are permitted by those before them.
* `EventSourcing.rebuild` — read page after page until a page is empty.

## Main results

* `EventSourcing.replay_append` — replay of a concatenation.
* `EventSourcing.replay_invariant` — what every accepted event keeps, a rebuild keeps.
* `EventSourcing.replay_lawful` — the same for the events of a lawful log.
* `EventSourcing.rebuild_eq_replay` — reading by pages is one replay of what lies after the
  cursor, whatever the page size.
* `EventSourcing.replay_resume` — a replay may stop at the end of a log and go on when it has grown.
-/

namespace EventSourcing

variable {ε α β : Type} (apply : β → α → Except ε β)

/-- Apply the events in order, stopping at the first one that is refused. -/
def replay : β → List α → Except ε β
  | view, [] => .ok view
  | view, event :: events => apply view event >>= fun next => replay next events

@[simp] theorem replay_nil (view : β) : replay apply view [] = .ok view := rfl

theorem replay_cons (view : β) (event : α) (events : List α) :
    replay apply view (event :: events) =
      (apply view event >>= fun next => replay apply next events) := rfl

theorem replay_append (view : β) (first second : List α) :
    replay apply view (first ++ second) =
      (replay apply view first >>= fun next => replay apply next second) := by
  induction first generalizing view with
  | nil => rfl
  | cons event first ih =>
    rw [List.cons_append, replay_cons, replay_cons]
    cases apply view event with
    | ok next => exact ih next
    | error e => rfl

/-- One more accepted event. -/
theorem replay_concat {view reached next : β} {events : List α} {event : α}
    (h : replay apply view events = .ok reached) (hnext : apply reached event = .ok next) :
    replay apply view (events ++ [event]) = .ok next := by
  rw [replay_append, h]
  change apply reached event >>= _ = _
  rw [hnext]
  rfl

/-- A rebuild of a whole log is a rebuild of each of its prefixes. -/
theorem replay_prefix {view final : β} {first second : List α}
    (h : replay apply view (first ++ second) = .ok final) :
    ∃ reached, replay apply view first = .ok reached ∧
      replay apply reached second = .ok final := by
  rw [replay_append] at h
  exact Checked.bind_eq_ok_iff.mp h

/-- **Induction over a rebuild**: what holds of the events before it and of the view it starts with,
and is kept by every accepted event, holds of all events and the view it ends with. -/
theorem replay_invariant {I : List α → β → Prop}
    (hstep : ∀ earlier reached event next, I earlier reached → apply reached event = .ok next →
      I (earlier ++ [event]) next) {earlier events : List α} {view final : β}
    (hstart : I earlier view) (h : replay apply view events = .ok final) :
    I (earlier ++ events) final := by
  induction events generalizing earlier view with
  | nil =>
    rw [List.append_nil]
    exact Except.ok.inj h ▸ hstart
  | cons event events ih =>
    obtain ⟨next, hnext, hrest⟩ := Checked.bind_eq_ok_iff.mp h
    rw [List.append_cons]
    exact ih (hstep earlier view event next hstart hnext) hrest

/-- Every event of the log is permitted by the events before it. -/
def Lawful (permits : List α → α → Prop) (events : List α) : Prop :=
  ∀ earlier event later, events = earlier ++ event :: later → permits earlier event

theorem lawful_nil (permits : List α → α → Prop) : Lawful permits [] := fun _ _ _ h =>
  absurd (congrArg List.length h) (by simp)

theorem lawful_concat_iff {permits : List α → α → Prop} {events : List α} {event : α} :
    Lawful permits (events ++ [event]) ↔ Lawful permits events ∧ permits events event := by
  constructor
  · intro h
    refine ⟨fun earlier known later heq => h earlier known (later ++ [event]) ?_, ?_⟩
    · rw [heq, List.append_assoc, List.cons_append]
    · exact h events event [] rfl
  · rintro ⟨hevents, hevent⟩ earlier known later heq
    rcases List.eq_nil_or_concat later with rfl | ⟨init, last, rfl⟩
    · obtain ⟨rfl, hlast⟩ := List.append_inj' heq rfl
      obtain rfl := List.head_eq_of_cons_eq hlast
      exact hevent
    · rw [List.concat_eq_append, ← List.cons_append, ← List.append_assoc] at heq
      obtain ⟨heq, -⟩ := List.append_inj' heq rfl
      exact hevents earlier known init heq

/-- **Induction over a rebuild of a lawful log.** -/
theorem replay_lawful {I : List α → β → Prop} {permits : List α → α → Prop}
    (hstep : ∀ earlier reached event next, permits earlier event → I earlier reached →
      apply reached event = .ok next → I (earlier ++ [event]) next) {events : List α}
    {view final : β} (hlaw : Lawful permits events) (hstart : I [] view)
    (h : replay apply view events = .ok final) : I events final := by
  have hkept : Lawful permits ([] ++ events) → I ([] ++ events) final := by
    refine replay_invariant apply (I := fun events view => Lawful permits events → I events view)
      ?_ (fun _ => hstart) h
    intro earlier reached event next ih happly hlaw
    obtain ⟨hearlier, hevent⟩ := lawful_concat_iff.mp hlaw
    exact hstep earlier reached event next hevent (ih hearlier) happly
  exact hkept hlaw

/-- An event that every view refuses is refused wherever it stands in the log. -/
theorem replay_ne_ok_of_mem {event : α} (hrefused : ∀ view next, apply view event ≠ .ok next)
    {events : List α} (hmem : event ∈ events) (view final : β) :
    replay apply view events ≠ .ok final := by
  obtain ⟨first, second, rfl⟩ := List.append_of_mem hmem
  intro h
  obtain ⟨reached, -, hsecond⟩ := replay_prefix apply h
  obtain ⟨next, hnext, -⟩ := Checked.bind_eq_ok_iff.mp hsecond
  exact hrefused reached next hnext

/-! ### Reading the log by pages -/

section Pages

variable (cursor : β → Nat) (page : Nat → List α)

/-- Read the page after the view's cursor, apply it, and go on until a page is empty. The
first argument bounds the number of pages; `none` says that it was used up. -/
def rebuild : Nat → β → Except ε (Option β)
  | 0, _ => .ok none
  | fuel + 1, view =>
    match page (cursor view) with
    | [] => .ok (some view)
    | event :: events =>
      replay apply view (event :: events) >>= fun next => rebuild fuel next

variable {apply cursor page}

private theorem take_append_drop_length (n : Nat) (l : List α) :
    l.take n ++ l.drop (l.take n).length = l := by
  rw [List.length_take]
  rcases Nat.le_total n l.length with h | h
  · rw [Nat.min_eq_left h, List.take_append_drop]
  · rw [Nat.min_eq_right h, List.drop_length, List.append_nil, List.take_of_length_le h]

private theorem cursor_replay
    (hcursor : ∀ view event next, apply view event = .ok next → cursor next = cursor view + 1) :
    ∀ {events : List α} {view next : β}, replay apply view events = .ok next →
      cursor next = cursor view + events.length
  | [], view, next, h => by rw [Except.ok.inj h, List.length_nil, Nat.add_zero]
  | event :: events, view, next, h => by
    obtain ⟨mid, hmid, hrest⟩ := Checked.bind_eq_ok_iff.mp h
    rw [cursor_replay hcursor hrest, hcursor _ _ _ hmid, List.length_cons]
    omega

/-- **Going on where a replay stopped.** A replay of a log to its end, and then of what the log has
gained since, is one replay of the longer log. -/
theorem replay_resume
    (hcursor : ∀ view event next, apply view event = .ok next → cursor next = cursor view + 1)
    {events longer : List α} (hgrown : events <+: longer) (view : β) :
    (replay apply view (events.drop (cursor view)) >>= fun next =>
        replay apply next (longer.drop (cursor next))) =
      replay apply view (longer.drop (cursor view)) := by
  obtain ⟨gained, rfl⟩ := hgrown
  rcases Nat.le_total (cursor view) events.length with hle | hle
  · rw [List.drop_append_of_le_length hle, replay_append]
    cases hreplay : replay apply view (events.drop (cursor view)) with
    | error e => rfl
    | ok next =>
      have hreached : cursor next = events.length := by
        rw [cursor_replay hcursor hreplay, List.length_drop]
        omega
      change replay apply next ((events ++ gained).drop (cursor next)) = replay apply next gained
      rw [hreached, List.drop_left]
  · rw [List.drop_eq_nil_of_le hle]
    rfl

/-- **Reading by pages is one replay.** When every accepted event advances the cursor by one
and a page is a non-empty stretch of the log, the loop applies exactly the events after the
cursor, and `events.length + 1` pages are enough. -/
theorem rebuild_eq_replay (events : List α) (pageSize : Nat) (hpos : 0 < pageSize)
    (hpage : ∀ c, page c = (events.drop c).take pageSize)
    (hcursor : ∀ view event next, apply view event = .ok next →
      cursor next = cursor view + 1) :
    ∀ (fuel : Nat) (view : β), events.length - cursor view < fuel →
      rebuild apply cursor page fuel view =
        (replay apply view (events.drop (cursor view)) >>= fun next => .ok (some next))
  | 0, _, hfuel => absurd hfuel (Nat.not_lt_zero _)
  | fuel + 1, view, hfuel => by
    unfold rebuild
    cases hp : page (cursor view) with
    | nil =>
      rw [hpage, List.take_eq_nil_iff] at hp
      have hdrop : events.drop (cursor view) = [] := hp.resolve_left (Nat.pos_iff_ne_zero.mp hpos)
      rw [hdrop]
      rfl
    | cons event rest =>
      have hsplit : events.drop (cursor view) =
          (event :: rest) ++ events.drop (cursor view + (event :: rest).length) := by
        rw [hpage] at hp
        rw [← hp, ← List.drop_drop]
        exact (take_append_drop_length pageSize _).symm
      rw [hsplit, replay_append]
      change (replay apply view (event :: rest) >>= _) = _
      cases hr : replay apply view (event :: rest) with
      | error e => rfl
      | ok next =>
        have hc := cursor_replay hcursor hr
        have hlen : 0 < (event :: rest).length := List.length_pos_iff.mpr (List.cons_ne_nil _ _)
        have hle : (event :: rest).length ≤ (events.drop (cursor view)).length := by
          rw [hsplit, List.length_append]
          omega
        rw [List.length_drop] at hle
        have ih := rebuild_eq_replay events pageSize hpos hpage hcursor fuel next (by omega)
        rw [hc] at ih
        exact ih

end Pages

end EventSourcing
