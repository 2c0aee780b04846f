import Mathlib.Data.List.Basic

/-!
# Runs of a machine

A machine is a function from a state and an input to the next state; a run feeds it a list
of inputs. A property of runs is proved once for a single step and lifted here by induction
on the list.

## Main definitions

* `Run.exec` — the state after a list of inputs.
* `Run.Along` — a condition on input and state met at every step of a run.
* `Run.answers` — what the steps of a run answer, in order.

## Main results

* `Run.exec_invariant` — a predicate kept by every step holds after every run.
* `Run.exec_invariant_along` — a predicate kept by the steps that meet a condition holds
  after every run whose steps all meet it.
* `Run.along_append` — a condition met along a run is met along both of its halves.
* `Run.along_iff` — a condition met along a run is met by each of its inputs.
* `Run.answers_append` — a run answers what its halves answer, one after the other.
-/

namespace Run

variable {σ ι : Type} (step : σ → ι → σ)

/-- The state after a list of inputs. -/
def exec (s : σ) (inputs : List ι) : σ := inputs.foldl step s

@[simp] theorem exec_nil (s : σ) : exec step s [] = s := rfl

@[simp] theorem exec_cons (s : σ) (i : ι) (inputs : List ι) :
    exec step s (i :: inputs) = exec step (step s i) inputs := rfl

theorem exec_append (s : σ) (first second : List ι) :
    exec step s (first ++ second) = exec step (exec step s first) second :=
  List.foldl_append

theorem exec_concat (s : σ) (inputs : List ι) (i : ι) :
    exec step s (inputs ++ [i]) = step (exec step s inputs) i := by
  rw [exec_append, exec_cons, exec_nil]

/-- The condition `C` is met by every input of the run in the state it is applied to. -/
def Along (C : σ → ι → Prop) (s : σ) : List ι → Prop
  | [] => True
  | i :: inputs => C s i ∧ Along C (step s i) inputs

variable {step}

theorem along_append {C : σ → ι → Prop} :
    ∀ {s : σ} {first second : List ι}, Along step C s (first ++ second) ↔
      Along step C s first ∧ Along step C (exec step s first) second
  | _, [], _ => by simp [Along]
  | s, i :: first, second => by
    rw [List.cons_append, Along, Along, along_append, exec_cons, and_assoc]

/-- A condition is met along a run when it is met by each input after the inputs before it. -/
theorem along_iff {C : σ → ι → Prop} : ∀ {s : σ} {inputs : List ι}, Along step C s inputs ↔
    ∀ first i rest, inputs = first ++ i :: rest → C (exec step s first) i
  | _, [] => by simp [Along]
  | s, i :: inputs => by
    rw [Along, along_iff]
    constructor
    · rintro ⟨hi, hrest⟩ first j rest heq
      cases first with
      | nil =>
        obtain ⟨rfl, rfl⟩ := List.cons.inj heq
        exact hi
      | cons k first =>
        obtain ⟨rfl, rfl⟩ := List.cons.inj heq
        exact hrest first j rest rfl
    · intro h
      exact ⟨h [] i inputs rfl, fun first j rest heq =>
        h (i :: first) j rest (by rw [heq, List.cons_append])⟩

/-- Two conditions are met along a run when each is. -/
theorem along_and {C D : σ → ι → Prop} : ∀ {s : σ} {inputs : List ι},
    Along step (fun s i => C s i ∧ D s i) s inputs ↔ Along step C s inputs ∧ Along step D s inputs
  | _, [] => by simp [Along]
  | s, i :: inputs => by
    rw [Along, Along, Along, along_and]
    exact and_and_and_comm

/-- **Invariants of runs.** -/
theorem exec_invariant {I : σ → Prop} (hstep : ∀ s i, I s → I (step s i)) :
    ∀ {s : σ} (inputs : List ι), I s → I (exec step s inputs)
  | _, [], hs => hs
  | _, i :: inputs, hs => exec_invariant hstep inputs (hstep _ i hs)

/-- **Invariants of the runs that meet a condition.** -/
theorem exec_invariant_along {I : σ → Prop} {C : σ → ι → Prop}
    (hstep : ∀ s i, I s → C s i → I (step s i)) :
    ∀ {s : σ} (inputs : List ι), Along step C s inputs → I s → I (exec step s inputs)
  | _, [], _, hs => hs
  | _, i :: inputs, hc, hs =>
    exec_invariant_along hstep inputs hc.2 (hstep _ i hs hc.1)

/-- A condition on the inputs alone is met along every run of such inputs. -/
theorem along_of_forall {C : σ → ι → Prop} :
    ∀ {s : σ} {inputs : List ι}, (∀ i ∈ inputs, ∀ s, C s i) → Along step C s inputs
  | _, [], _ => trivial
  | s, i :: _, h =>
    ⟨h i List.mem_cons_self s, along_of_forall fun j hj => h j (List.mem_cons_of_mem i hj)⟩

/-- A condition that every state under the invariant meets is met along every run. -/
theorem along_of_invariant {I : σ → Prop} {C : σ → ι → Prop}
    (hstep : ∀ s i, I s → I (step s i)) (hC : ∀ s i, I s → C s i) :
    ∀ {s : σ} (inputs : List ι), I s → Along step C s inputs
  | _, [], _ => trivial
  | s, i :: inputs, hs => ⟨hC s i hs, along_of_invariant hstep hC inputs (hstep s i hs)⟩

/-! ### The answers of a run -/

section Answers

variable {α : Type} (step) (answer : σ → ι → Option α)

/-- What the steps of a run answer, in order; a step may answer nothing. -/
def answers (s : σ) : List ι → List α
  | [] => []
  | i :: inputs => (answer s i).toList ++ answers (step s i) inputs

theorem answers_append (s : σ) (first second : List ι) :
    answers step answer s (first ++ second) =
      answers step answer s first ++ answers step answer (exec step s first) second := by
  induction first generalizing s with
  | nil => rfl
  | cons i first ih => rw [List.cons_append, answers, ih, answers, exec_cons, List.append_assoc]

theorem answers_concat (s : σ) (inputs : List ι) (i : ι) :
    answers step answer s (inputs ++ [i]) =
      answers step answer s inputs ++ (answer (exec step s inputs) i).toList := by
  rw [answers_append, answers, answers, List.append_nil]

end Answers

end Run
