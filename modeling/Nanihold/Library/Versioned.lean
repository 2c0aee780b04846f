import Mathlib.Data.List.Chain
import Mathlib.Data.List.ReduceOption

/-!
# Writers that follow a versioned log

A log whose entries may carry a state, and writers that remember the version up to which they
know it. A write at a version is accepted when the log has exactly that many entries, or when
the entry at that version is the one to be written already. A writer that is behind can only
write what is there, so the states of the log move as each writer lets its own state move.

## Main definitions

* `VersionedLog.states`, `VersionedLog.stateAt` — the states of a log, and the last one before
  a version.
* `VersionedLog.Wrote` — an accepted write.
* `VersionedLog.Tracks` — a writer's state may follow the state at the version it knows.

## Main results

* `VersionedLog.Tracks.wrote` — a writer that remembers what it wrote keeps following.
* `VersionedLog.Wrote.isChain` — a write that may follow the writer's version extends a chain.
-/

namespace VersionedLog

variable {σ : Type} {log next : List (Option σ)} {version : Nat} {entry : Option σ}

/-- The states that the entries of a log carry. -/
def states (log : List (Option σ)) : List σ := log.reduceOption

/-- The state of a log at a version: the last one that its entries up to there carry. -/
def stateAt (log : List (Option σ)) (version : Nat) : Option σ :=
  (states (log.take version)).getLast?

/-- The last state of a log. -/
def current (log : List (Option σ)) : Option σ := (states log).getLast?

theorem stateAt_length (log : List (Option σ)) : stateAt log log.length = current log := by
  rw [stateAt, List.take_length, current]

theorem stateAt_zero (log : List (Option σ)) : stateAt log 0 = none := rfl

theorem states_append (log more : List (Option σ)) :
    states (log ++ more) = states log ++ states more := List.reduceOption_append log more

theorem states_concat (log : List (Option σ)) (entry : Option σ) :
    states (log ++ [entry]) = states log ++ entry.toList := by
  rw [← List.concat_eq_append]
  exact List.reduceOption_concat log entry

/-- Entries without a state leave the states alone. -/
theorem states_append_of_none {more : List (Option σ)} (h : ∀ e ∈ more, e = none) :
    states (log ++ more) = states log := by
  have hnil : states more = [] :=
    List.filterMap_eq_nil_iff.mpr fun e he => h e he
  rw [states_append, hnil, List.append_nil]

theorem getLast?_states_concat (log : List (Option σ)) (entry : Option σ) :
    (states (log ++ [entry])).getLast? = entry.or (states log).getLast? := by
  rw [states_concat, List.getLast?_append]
  cases entry <;> rfl

/-- The state at a version does not depend on later entries. -/
theorem stateAt_append (hle : version ≤ log.length) (more : List (Option σ)) :
    stateAt (log ++ more) version = stateAt log version := by
  rw [stateAt, List.take_append_of_le_length hle, stateAt]

theorem stateAt_of_isPrefix (h : log <+: next) (hle : version ≤ log.length) :
    stateAt next version = stateAt log version := by
  obtain ⟨more, rfl⟩ := h
  exact stateAt_append hle more

/-! ### Writes -/

/-- An entry was written at a version: it was appended there, or it was found there. -/
inductive Wrote (log : List (Option σ)) (version : Nat) (entry : Option σ) :
    List (Option σ) → Prop
  | appended (up_to_date : log.length = version) : Wrote log version entry (log ++ [entry])
  | found (stored : log[version]? = some entry) : Wrote log version entry log

theorem Wrote.isPrefix (h : Wrote log version entry next) : log <+: next := by
  cases h with
  | appended => exact List.prefix_append _ _
  | found => exact List.prefix_rfl

theorem Wrote.length_le (h : Wrote log version entry next) : version + 1 ≤ next.length := by
  cases h with
  | appended hversion => rw [List.length_append, List.length_singleton, hversion]
  | found hstored =>
    obtain ⟨hlt, -⟩ := List.getElem?_eq_some_iff.mp hstored
    exact hlt

/-- The entries up to a write are those before it and the one that was written. -/
theorem Wrote.take (h : Wrote log version entry next) :
    next.take (version + 1) = log.take version ++ [entry] := by
  cases h with
  | appended hversion =>
    rw [← hversion, List.take_of_length_le (by simp), List.take_length]
  | found hstored => rw [List.take_add_one, hstored, Option.toList_some]

/-- After a write, the state there is the one written, if the entry carries one. -/
theorem Wrote.stateAt (h : Wrote log version entry next) :
    stateAt next (version + 1) = entry.or (stateAt log version) := by
  rw [VersionedLog.stateAt, h.take, getLast?_states_concat, VersionedLog.stateAt]

/-- **A write extends a chain** when it may follow the state at the version of its writer. -/
theorem Wrote.isChain {R : σ → σ → Prop} (h : Wrote log version entry next)
    (hchain : (states log).IsChain R)
    (hmoves : ∀ s ∈ entry, ∀ l ∈ VersionedLog.stateAt log version, R l s) :
    (states next).IsChain R := by
  cases h with
  | appended hversion =>
    rw [states_concat]
    cases entry with
    | none => rwa [Option.toList_none, List.append_nil]
    | some s =>
      rw [Option.toList_some]
      refine hchain.append (List.isChain_singleton s) fun l hl first hfirst => ?_
      obtain rfl := Option.mem_some_iff.mp hfirst
      refine hmoves s rfl l ?_
      rwa [← hversion, stateAt_length]
  | found => exact hchain

/-! ### Writers -/

/-- A writer that knows the log up to a version has a state that may follow the state there; it
has none only when the log has none. -/
structure Tracks (Follows : σ → σ → Prop) (log : List (Option σ)) (version : Nat)
    (memory : Option σ) : Prop where
  version_le : version ≤ log.length
  follows : ∀ l ∈ stateAt log version, ∃ m ∈ memory, Follows l m

variable {Follows : σ → σ → Prop} {memory : Option σ}

theorem tracks_zero (log : List (Option σ)) (memory : Option σ) :
    Tracks Follows log 0 memory where
  version_le := Nat.zero_le _
  follows l hl := by cases hl

/-- A writer keeps following a log that others extend. -/
theorem Tracks.grown (h : Tracks Follows log version memory) (hgrown : log <+: next) :
    Tracks Follows next version memory where
  version_le := h.version_le.trans hgrown.length_le
  follows := by
    rw [stateAt_of_isPrefix hgrown h.version_le]
    exact h.follows

/-- **A writer that remembers what it wrote** keeps following. -/
theorem Tracks.wrote (h : Tracks Follows log version memory) (hrefl : ∀ s, Follows s s)
    (hwrote : Wrote log version entry next) :
    Tracks Follows next (version + 1) (entry.or memory) where
  version_le := hwrote.length_le
  follows := by
    rw [hwrote.stateAt]
    cases entry with
    | none => exact h.follows
    | some s =>
      intro l hl
      exact ⟨s, rfl, Option.mem_some_iff.mp hl ▸ hrefl s⟩

/-- In a chain whose last state is final, a later part of the log shows nothing else. -/
theorem current_of_final {R : σ → σ → Prop} {final : σ} (hfinal : ∀ s, R final s → s = final)
    (hgrown : log <+: next) (hchain : (states next).IsChain R) (hlast : current log = some final) :
    current next = some final := by
  obtain ⟨more, rfl⟩ := hgrown
  rw [current, states_append]
  induction more using List.reverseRecOn with
  | nil => rwa [states, states, List.reduceOption_nil, List.append_nil]
  | append_singleton more entry ih =>
    rw [← List.append_assoc, states_concat] at hchain
    have hmore := ih hchain.left_of_append
    rw [← states_append] at hmore ⊢
    rw [← List.append_assoc, getLast?_states_concat, hmore]
    cases entry with
    | none => rfl
    | some s =>
      have hnext := (List.isChain_append.mp hchain).2.2 final hmore s rfl
      rw [hfinal s hnext]
      rfl

end VersionedLog
