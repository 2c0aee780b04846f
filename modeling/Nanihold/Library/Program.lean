import Mathlib.Init

/-!
# Programs that raise and keep their state

A program over a state `σ` may return a value or raise an exception; what it wrote before
raising stays written. `EStateM` without backtracking is that monad. This file gives it a
Hoare logic with one postcondition for each outcome, and the special case used for
invariants: a program preserves a predicate when the predicate survives both outcomes.

## Main definitions

* `EStateM.finalState` — the state left behind by a run, whatever its outcome.
* `EStateM.Triple` — precondition, postcondition of a return, postcondition of a raise.
* `EStateM.Preserves` — the triple whose three assertions are one invariant.
* `EStateM.ofExcept` — a check on values that neither reads nor writes the state.
* `Component`, `EStateM.zoom` — a component of a larger state, and a program on the component run
  in the larger state.

## Main results

* `EStateM.Triple.bind`, `EStateM.Triple.tryCatch`, `EStateM.Triple.forM`, `EStateM.Triple.zoom` —
  the rules for sequencing, for an exception handler, for a loop over a list and for a component.
* `EStateM.Preserves.bind`, `EStateM.Preserves.tryCatch`, `EStateM.Preserves.forM` — the same
  for invariants.
-/

/-- A component of a larger state that can be read and replaced. -/
class Component (S σ : Type) where
  read : S → σ
  write : S → σ → S
  read_write : ∀ s t, read (write s t) = t
  write_write : ∀ s t u, write (write s t) u = write s u

namespace EStateM

variable {ε σ α β : Type}

/-- Run a program on a component of the state. -/
def zoom {S : Type} [Component S σ] (x : EStateM ε σ α) : EStateM ε S α := fun s =>
  match x (Component.read s) with
  | .ok a t => .ok a (Component.write s t)
  | .error e t => .error e (Component.write s t)

/-- Run a program and hand its exception on as a value. -/
def attempt (x : EStateM ε σ α) : EStateM ε σ (Except ε α) := fun s =>
  match x s with
  | .ok a t => .ok (.ok a) t
  | .error e t => .ok (.error e) t

/-- The state a run leaves behind, whether it returns or raises. -/
def finalState (x : EStateM ε σ α) (s : σ) : σ :=
  match x s with
  | .ok _ t => t
  | .error _ t => t

/-- Does the run return? -/
def returns (x : EStateM ε σ α) (s : σ) : Bool :=
  match x s with
  | .ok _ _ => true
  | .error _ _ => false

/-- A run from a state satisfying `P` returns into `Q` or raises into `R`. -/
def Triple (P : σ → Prop) (x : EStateM ε σ α) (Q : α → σ → Prop) (R : ε → σ → Prop) : Prop :=
  ∀ s, P s →
    match x s with
    | .ok a t => Q a t
    | .error e t => R e t

/-- Every run keeps the invariant, whether it returns or raises. -/
def Preserves (I : σ → Prop) (x : EStateM ε σ α) : Prop :=
  Triple I x (fun _ => I) (fun _ => I)

/-- A computation on values alone: its failure is raised and no state is written. -/
def ofExcept : Except ε α → EStateM ε σ α
  | .ok a => pure a
  | .error e => throw e

/-! ### Runs of the constructors -/

@[simp] theorem run_pure_eq (a : α) (s : σ) : (pure a : EStateM ε σ α) s = .ok a s := rfl

@[simp] theorem run_throw_eq (e : ε) (s : σ) : (throw e : EStateM ε σ α) s = .error e s := rfl

@[simp] theorem run_get_eq (s : σ) : (get : EStateM ε σ σ) s = .ok s s := rfl

@[simp] theorem run_set_eq (t s : σ) : (set t : EStateM ε σ PUnit) s = .ok ⟨⟩ t := rfl

@[simp] theorem run_modify_eq (f : σ → σ) (s : σ) :
    (modify f : EStateM ε σ PUnit) s = .ok ⟨⟩ (f s) := rfl

theorem run_bind_eq (x : EStateM ε σ α) (f : α → EStateM ε σ β) (s : σ) :
    (x >>= f) s =
      match x s with
      | .ok a t => f a t
      | .error e t => .error e t := rfl

theorem run_tryCatch_eq (x : EStateM ε σ α) (h : ε → EStateM ε σ α) (s : σ) :
    (tryCatch x h : EStateM ε σ α) s =
      match x s with
      | .ok a t => .ok a t
      | .error e t => h e t := by
  change EStateM.tryCatch x h s = _
  unfold EStateM.tryCatch
  cases x s <;> rfl

@[simp] theorem run_ofExcept_ok (a : α) (s : σ) :
    (ofExcept (.ok a) : EStateM ε σ α) s = .ok a s := rfl

@[simp] theorem run_ofExcept_error (e : ε) (s : σ) :
    (ofExcept (.error e) : EStateM ε σ α) s = .error e s := rfl

theorem finalState_of_ok {x : EStateM ε σ α} {s t : σ} {a : α} (h : x s = .ok a t) :
    x.finalState s = t := by
  rw [finalState, h]

theorem finalState_of_error {x : EStateM ε σ α} {s t : σ} {e : ε} (h : x s = .error e t) :
    x.finalState s = t := by
  rw [finalState, h]

theorem returns_of_ok {x : EStateM ε σ α} {s t : σ} {a : α} (h : x s = .ok a t) :
    x.returns s = true := by
  rw [returns, h]

/-- A run that returns does so in its final state. -/
theorem exists_ok_of_returns {x : EStateM ε σ α} {s : σ} (h : x.returns s = true) :
    ∃ a, x s = .ok a (x.finalState s) := by
  unfold returns at h
  unfold finalState
  cases hx : x s with
  | ok a t => exact ⟨a, rfl⟩
  | error e t =>
    rw [hx] at h
    cases h

/-- A run that does not return raises into its final state. -/
theorem exists_error_of_not_returns {x : EStateM ε σ α} {s : σ} (h : x.returns s = false) :
    ∃ e, x s = .error e (x.finalState s) := by
  unfold returns at h
  unfold finalState
  cases hx : x s with
  | ok a t =>
    rw [hx] at h
    cases h
  | error e t => exact ⟨e, rfl⟩

theorem finalState_bind_of_ok {x : EStateM ε σ α} {f : α → EStateM ε σ β} {s t : σ} {a : α}
    (h : x s = .ok a t) : (x >>= f).finalState s = (f a).finalState t := by
  rw [finalState, run_bind_eq, h]
  rfl

theorem finalState_bind_of_error {x : EStateM ε σ α} {f : α → EStateM ε σ β} {s t : σ} {e : ε}
    (h : x s = .error e t) : (x >>= f).finalState s = t := by
  rw [finalState, run_bind_eq, h]

theorem run_bind_of_ok {x : EStateM ε σ α} {f : α → EStateM ε σ β} {s t : σ} {a : α}
    (h : x s = .ok a t) : (x >>= f) s = f a t := by
  rw [run_bind_eq, h]

/-- A sequence returns exactly if both of its programs do. -/
theorem run_bind_eq_ok_iff {x : EStateM ε σ α} {f : α → EStateM ε σ β} {s t : σ} {b : β} :
    (x >>= f) s = .ok b t ↔ ∃ a mid, x s = .ok a mid ∧ f a mid = .ok b t := by
  rw [run_bind_eq]
  cases h : x s with
  | ok a mid =>
    constructor
    · exact fun hf => ⟨a, mid, rfl, hf⟩
    · rintro ⟨_, _, hx, hf⟩
      cases hx
      exact hf
  | error e mid =>
    constructor
    · intro hf
      cases hf
    · rintro ⟨_, _, hx, -⟩
      cases hx

/-- A check returns exactly if its value does. -/
theorem run_ofExcept_eq_ok_iff {r : Except ε α} {s t : σ} {a : α} :
    (ofExcept r : EStateM ε σ α) s = .ok a t ↔ r = .ok a ∧ s = t := by
  cases r with
  | ok b =>
    rw [run_ofExcept_ok]
    constructor
    · intro h
      cases h
      exact ⟨rfl, rfl⟩
    · rintro ⟨h, rfl⟩
      cases h
      rfl
  | error e =>
    rw [run_ofExcept_error]
    constructor
    · intro h
      cases h
    · rintro ⟨h, -⟩
      cases h

theorem run_bind_of_error {x : EStateM ε σ α} {f : α → EStateM ε σ β} {s t : σ} {e : ε}
    (h : x s = .error e t) : (x >>= f) s = .error e t := by
  rw [run_bind_eq, h]

@[simp] theorem run_get_bind (f : σ → EStateM ε σ β) (s : σ) : (get >>= f) s = f s s := rfl

@[simp] theorem run_ofExcept_ok_bind (a : α) (f : α → EStateM ε σ β) (s : σ) :
    (ofExcept (.ok a) >>= f) s = f a s := rfl

@[simp] theorem run_ofExcept_error_bind (e : ε) (f : α → EStateM ε σ β) (s : σ) :
    (ofExcept (.error e) >>= f) s = .error e s := rfl

/-- Forgetting the value changes no state. -/
@[simp] theorem finalState_bind_pure (x : EStateM ε σ α) (b : α → β) (s : σ) :
    (x >>= fun a => pure (b a)).finalState s = x.finalState s := by
  cases h : x s with
  | ok a t => rw [finalState_bind_of_ok h, finalState_of_ok h, finalState_of_ok (run_pure_eq _ t)]
  | error e t => rw [finalState_bind_of_error h, finalState_of_error h]

@[simp] theorem finalState_get_bind (f : σ → EStateM ε σ β) (s : σ) :
    (get >>= f).finalState s = (f s).finalState s :=
  finalState_bind_of_ok (run_get_eq s)

@[simp] theorem finalState_ofExcept_ok_bind (a : α) (f : α → EStateM ε σ β) (s : σ) :
    (ofExcept (.ok a) >>= f).finalState s = (f a).finalState s :=
  finalState_bind_of_ok (run_ofExcept_ok a s)

@[simp] theorem finalState_ofExcept_error_bind (e : ε) (f : α → EStateM ε σ β) (s : σ) :
    (ofExcept (.error e) >>= f).finalState s = s :=
  finalState_bind_of_error (run_ofExcept_error e s)

@[simp] theorem finalState_pure (a : α) (s : σ) :
    (pure a : EStateM ε σ α).finalState s = s := rfl

/-- A program on a component leaves its final state in the component. -/
theorem finalState_zoom {S : Type} [Component S σ] (x : EStateM ε σ α) (s : S) :
    (zoom x).finalState s = Component.write s (x.finalState (Component.read s)) := by
  unfold finalState zoom
  cases x (Component.read s) <;> rfl

theorem run_zoom_of_ok {S : Type} [Component S σ] {x : EStateM ε σ α} {s : S} {a : α} {t : σ}
    (h : x (Component.read s) = .ok a t) : (zoom x) s = .ok a (Component.write s t) := by
  unfold zoom
  rw [h]

theorem run_zoom_of_error {S : Type} [Component S σ] {x : EStateM ε σ α} {s : S} {e : ε} {t : σ}
    (h : x (Component.read s) = .error e t) : (zoom x) s = .error e (Component.write s t) := by
  unfold zoom
  rw [h]

/-! ### Triples -/

namespace Triple

variable {P P' : σ → Prop} {Q Q' : α → σ → Prop} {R R' : ε → σ → Prop}

/-- **Consequence.** -/
theorem conseq {x : EStateM ε σ α} (h : Triple P x Q R) (hP : ∀ s, P' s → P s)
    (hQ : ∀ a s, Q a s → Q' a s) (hR : ∀ e s, R e s → R' e s) : Triple P' x Q' R' := by
  intro s hs
  have hx := h s (hP s hs)
  cases hrun : x s with
  | ok a t =>
    rw [hrun] at hx
    exact hQ a t hx
  | error e t =>
    rw [hrun] at hx
    exact hR e t hx

theorem pure {a : α} (h : ∀ s, P s → Q a s) : Triple P (pure a : EStateM ε σ α) Q R :=
  fun s hs => h s hs

theorem throw {e : ε} (h : ∀ s, P s → R e s) : Triple P (throw e : EStateM ε σ α) Q R :=
  fun s hs => h s hs

/-- **Sequencing.** A raise of the first part is a raise of the whole. -/
theorem bind {x : EStateM ε σ α} {f : α → EStateM ε σ β} {S : β → σ → Prop}
    (hx : Triple P x Q R) (hf : ∀ a, Triple (Q a) (f a) S R) : Triple P (x >>= f) S R := by
  intro s hs
  have h := hx s hs
  rw [run_bind_eq]
  cases hrun : x s with
  | ok a t =>
    rw [hrun] at h
    exact hf a t h
  | error e t =>
    rw [hrun] at h
    exact h

/-- **Exception handler.** The handler starts from the state the raise left behind. -/
theorem tryCatch {x : EStateM ε σ α} {h : ε → EStateM ε σ α} (hx : Triple P x Q R)
    (hh : ∀ e, Triple (R e) (h e) Q R') : Triple P (tryCatch x h : EStateM ε σ α) Q R' := by
  intro s hs
  have hrun := hx s hs
  rw [run_tryCatch_eq]
  cases hx' : x s with
  | ok a t =>
    rw [hx'] at hrun
    exact hrun
  | error e t =>
    rw [hx'] at hrun
    exact hh e t hrun

theorem get : Triple P (get : EStateM ε σ σ) (fun a s => a = s ∧ P s) R :=
  fun _ hs => ⟨rfl, hs⟩

theorem modify {f : σ → σ} {Q : PUnit → σ → Prop} (h : ∀ s, P s → Q ⟨⟩ (f s)) :
    Triple P (modify f : EStateM ε σ PUnit) Q R :=
  fun s hs => h s hs

theorem ofExcept {r : Except ε α} (hok : ∀ a, r = .ok a → ∀ s, P s → Q a s)
    (herror : ∀ e, r = .error e → ∀ s, P s → R e s) :
    Triple P (ofExcept r : EStateM ε σ α) Q R := by
  intro s hs
  cases r with
  | ok a => exact hok a rfl s hs
  | error e => exact herror e rfl s hs

/-- It is enough to know each run. -/
theorem of_run {x : EStateM ε σ α} (h : ∀ s, P s →
    (∃ e t, x s = .error e t ∧ R e t) ∨ ∃ a t, x s = .ok a t ∧ Q a t) : Triple P x Q R := by
  intro s hs
  rcases h s hs with ⟨e, t, hrun, hR⟩ | ⟨a, t, hrun, hQ⟩
  · rw [hrun]
    exact hR
  · rw [hrun]
    exact hQ

/-- A program on a component, seen from the larger state. -/
theorem zoom {S : Type} [Component S σ] {P : S → Prop} {x : EStateM ε σ α} {Q : α → S → Prop}
    {R : ε → S → Prop}
    (h : ∀ s, P s → Triple (fun t => t = Component.read s) x
      (fun a t => Q a (Component.write s t)) (fun e t => R e (Component.write s t))) :
    Triple P (zoom x) Q R := by
  intro s hs
  have hx := h s hs _ rfl
  unfold EStateM.zoom
  cases hrun : x (Component.read s) with
  | ok a t =>
    rw [hrun] at hx
    exact hx
  | error e t =>
    rw [hrun] at hx
    exact hx

/-- What both outcomes satisfy, the state that is left behind satisfies. -/
theorem final {Q : σ → Prop} {x : EStateM ε σ α} (h : Triple P x (fun _ => Q) (fun _ => Q)) {s : σ}
    (hs : P s) : Q (x.finalState s) := by
  have hx := h s hs
  unfold finalState
  cases hrun : x s with
  | ok a t =>
    rw [hrun] at hx
    exact hx
  | error e t =>
    rw [hrun] at hx
    exact hx

/-- It is enough to look at the states that are left behind. -/
theorem of_final {Q : σ → Prop} {x : EStateM ε σ α} (h : ∀ s, P s → Q (x.finalState s)) :
    Triple P x (fun _ => Q) (fun _ => Q) := by
  intro s hs
  have hx := h s hs
  unfold finalState at hx
  cases hrun : x s with
  | ok a t =>
    rw [hrun] at hx
    exact hx
  | error e t =>
    rw [hrun] at hx
    exact hx

/-- **Loop over a list.** What the body keeps, the loop keeps. -/
theorem forM {f : β → EStateM ε σ PUnit} {I : σ → Prop} :
    ∀ {l : List β}, (∀ b ∈ l, Triple I (f b) (fun _ => I) R) →
      Triple I (l.forM f) (fun _ => I) R
  | [], _ => pure fun _ hs => hs
  | b :: l, h => by
    change Triple I (f b >>= fun _ => l.forM f) (fun _ => I) R
    exact bind (h b List.mem_cons_self)
      fun _ => forM fun c hc => h c (List.mem_cons_of_mem b hc)

end Triple

/-! ### Invariants -/

namespace Preserves

variable {I : σ → Prop}

theorem final {x : EStateM ε σ α} (h : Preserves I x) {s : σ} (hs : I s) :
    I (x.finalState s) :=
  Triple.final h hs

/-- It is enough to look at the states that are left behind. -/
theorem of_final {x : EStateM ε σ α} (h : ∀ s, I s → I (x.finalState s)) : Preserves I x :=
  Triple.of_final h

theorem pure (a : α) : Preserves I (pure a : EStateM ε σ α) := Triple.pure fun _ hs => hs

theorem throw (e : ε) : Preserves I (throw e : EStateM ε σ α) := Triple.throw fun _ hs => hs

theorem get : Preserves I (get : EStateM ε σ σ) := fun _ hs => hs

theorem modify {f : σ → σ} (h : ∀ s, I s → I (f s)) :
    Preserves I (modify f : EStateM ε σ PUnit) :=
  Triple.modify h

theorem ofExcept (r : Except ε α) : Preserves I (ofExcept r : EStateM ε σ α) :=
  Triple.ofExcept (fun _ _ _ hs => hs) fun _ _ _ hs => hs

theorem bind {x : EStateM ε σ α} {f : α → EStateM ε σ β} (hx : Preserves I x)
    (hf : ∀ a, Preserves I (f a)) : Preserves I (x >>= f) :=
  Triple.bind hx hf

theorem tryCatch {x : EStateM ε σ α} {h : ε → EStateM ε σ α} (hx : Preserves I x)
    (hh : ∀ e, Preserves I (h e)) : Preserves I (tryCatch x h : EStateM ε σ α) :=
  Triple.tryCatch hx hh

theorem forM {f : β → EStateM ε σ PUnit} {l : List β} (h : ∀ b ∈ l, Preserves I (f b)) :
    Preserves I (l.forM f) :=
  Triple.forM h

end Preserves

end EStateM
