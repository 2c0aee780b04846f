import Mathlib.Data.List.Basic

/-!
# Checked computations

A computation on values that stops at its first failed check. The lemmas read a successful
outcome backwards: which checks it passed and which value each lookup found.

## Main definitions

* `Checked.check` — stop unless a proposition holds.
* `Checked.orRaise` — the value of an option, or stop.
* `Checked.Yields`, `Checked.Refuses` — what every successful outcome and every error satisfies.

## Main results

* `Checked.bind_eq_ok_iff` — a sequence succeeds exactly when both parts do.
* `Checked.check_bind_eq_ok_iff`, `Checked.orRaise_bind_eq_ok_iff` — the same for a check and
  for a lookup followed by the rest.
* `Checked.filterM_eq_ok`, `Checked.mapM_eq_ok`, `Checked.eq_false_of_anyM` — a filter, a map and
  a search with checks.
* `Checked.filterM_of_ok`, `Checked.anyM_of_ok`, `Checked.allM_of_ok` — the same when all checks
  return.
-/

namespace Checked

variable {ε α β : Type}

/-- Stop with an error unless the proposition holds. -/
def check (p : Prop) [Decidable p] (e : ε) : Except ε Unit :=
  if p then .ok () else .error e

/-- The value of an option; stop with an error when there is none. -/
def orRaise : Option α → ε → Except ε α
  | some a, _ => .ok a
  | none, e => .error e

theorem bind_eq_ok_iff {x : Except ε α} {f : α → Except ε β} {b : β} :
    (x >>= f) = .ok b ↔ ∃ a, x = .ok a ∧ f a = .ok b := by
  cases x with
  | ok a =>
    constructor
    · exact fun h => ⟨a, rfl, h⟩
    · rintro ⟨_, ha, h⟩
      rwa [Except.ok.inj ha]
  | error e =>
    constructor
    · rintro ⟨⟩
    · rintro ⟨_, ⟨⟩, _⟩

theorem pure_eq_ok_iff {a b : α} : (pure a : Except ε α) = .ok b ↔ a = b := by
  constructor
  · exact Except.ok.inj
  · rintro rfl
    rfl

/-- A computation on the result succeeds when the computation before it does. -/
theorem map_eq_ok_iff {x : Except ε α} {f : α → β} {b : β} :
    f <$> x = .ok b ↔ ∃ a, x = .ok a ∧ f a = b := by
  cases x with
  | error e => exact ⟨fun h => (by cases h), fun ⟨_, h, _⟩ => (by cases h)⟩
  | ok a =>
    constructor
    · intro h
      exact ⟨a, rfl, Except.ok.inj h⟩
    · rintro ⟨_, h, rfl⟩
      obtain rfl := Except.ok.inj h
      rfl

theorem check_eq_ok_iff {p : Prop} [Decidable p] {e : ε} {u : Unit} :
    check p e = .ok u ↔ p := by
  unfold check
  split <;> simp [*]

theorem check_bind_eq_ok_iff {p : Prop} [Decidable p] {e : ε} {f : Unit → Except ε β} {b : β} :
    (check p e >>= f) = .ok b ↔ p ∧ f () = .ok b := by
  rw [bind_eq_ok_iff]
  constructor
  · rintro ⟨u, hp, hf⟩
    exact ⟨check_eq_ok_iff.mp hp, hf⟩
  · rintro ⟨hp, hf⟩
    exact ⟨(), check_eq_ok_iff.mpr hp, hf⟩

theorem orRaise_eq_ok_iff {o : Option α} {e : ε} {a : α} : orRaise o e = .ok a ↔ o = some a := by
  cases o <;> simp [orRaise]

theorem orRaise_bind_eq_ok_iff {o : Option α} {e : ε} {f : α → Except ε β} {b : β} :
    (orRaise o e >>= f) = .ok b ↔ ∃ a, o = some a ∧ f a = .ok b := by
  simp only [bind_eq_ok_iff, orRaise_eq_ok_iff]

/-- A loop of checks succeeds exactly when every check does. -/
theorem forM_eq_ok_iff {f : α → Except ε Unit} :
    ∀ {l : List α} {u : Unit}, l.forM f = .ok u ↔ ∀ a ∈ l, f a = .ok ()
  | [], _ => ⟨fun _ _ h => (nomatch h), fun _ => rfl⟩
  | a :: l, u => by
    change (f a >>= fun _ => l.forM f) = .ok u ↔ _
    rw [bind_eq_ok_iff, List.forall_mem_cons]
    constructor
    · rintro ⟨_, ha, hl⟩
      exact ⟨ha, forM_eq_ok_iff.mp hl⟩
    · rintro ⟨ha, hl⟩
      exact ⟨(), ha, forM_eq_ok_iff.mpr hl⟩

theorem forM_bind_eq_ok_iff {f : α → Except ε Unit} {l : List α} {g : Unit → Except ε β}
    {b : β} : (l.forM f >>= g) = .ok b ↔ (∀ a ∈ l, f a = .ok ()) ∧ g () = .ok b := by
  rw [bind_eq_ok_iff]
  constructor
  · rintro ⟨_, hl, hg⟩
    exact ⟨forM_eq_ok_iff.mp hl, hg⟩
  · rintro ⟨hl, hg⟩
    exact ⟨(), forM_eq_ok_iff.mpr hl, hg⟩

private theorem filterAuxM_eq_ok {p : α → Except ε Bool} :
    ∀ {l acc kept : List α}, l.filterAuxM p acc = .ok kept →
      ∃ more : List α, kept = more.reverse ++ acc ∧ more.Sublist l ∧ ∀ a ∈ more, p a = .ok true
  | [], acc, kept, h => ⟨[], (Except.ok.inj h).symm, .slnil, fun _ h => nomatch h⟩
  | a :: l, acc, kept, h => by
    obtain ⟨keep, hkeep, hrest⟩ := bind_eq_ok_iff.mp h
    obtain ⟨more, hkept, hsublist, hmore⟩ := filterAuxM_eq_ok hrest
    cases keep with
    | false => exact ⟨more, hkept, hsublist.cons a, hmore⟩
    | true =>
      refine ⟨a :: more, ?_, hsublist.cons_cons a, List.forall_mem_cons.mpr ⟨hkeep, hmore⟩⟩
      rw [hkept, List.reverse_cons, List.append_assoc]
      rfl

/-- A filter with checks keeps, in order, elements that pass. -/
theorem filterM_eq_ok {p : α → Except ε Bool} {l kept : List α} (h : l.filterM p = .ok kept) :
    kept.Sublist l ∧ ∀ a ∈ kept, p a = .ok true := by
  obtain ⟨reversed, haux, hkept⟩ := bind_eq_ok_iff.mp h
  obtain ⟨more, rfl, hsublist, hmore⟩ := filterAuxM_eq_ok haux
  obtain rfl := pure_eq_ok_iff.mp hkept
  rw [List.append_nil, List.reverse_reverse]
  exact ⟨hsublist, hmore⟩

/-- A search with checks that finds nothing has passed over every element. -/
theorem eq_false_of_anyM {f : α → Except ε Bool} :
    ∀ {l : List α}, l.anyM f = .ok false → ∀ a ∈ l, f a = .ok false
  | [], _, _, hmem => by cases hmem
  | a :: l, h, b, hmem => by
    rw [List.anyM] at h
    obtain ⟨found, hfound, h⟩ := bind_eq_ok_iff.mp h
    cases found with
    | true => cases h
    | false =>
      rcases List.mem_cons.mp hmem with rfl | hmem
      · exact hfound
      · exact eq_false_of_anyM h b hmem

/-- A map with checks gives one value for each element. -/
theorem mapM_eq_ok {f : α → Except ε β} :
    ∀ {l : List α} {values : List β}, l.mapM f = .ok values →
      List.Forall₂ (fun a b => f a = .ok b) l values
  | [], values, h => by
    obtain rfl := pure_eq_ok_iff.mp h
    exact .nil
  | a :: l, values, h => by
    rw [List.mapM_cons] at h
    obtain ⟨b, hb, hrest⟩ := bind_eq_ok_iff.mp h
    obtain ⟨rest, hl, hvalues⟩ := bind_eq_ok_iff.mp hrest
    obtain rfl := pure_eq_ok_iff.mp hvalues
    exact .cons hb (mapM_eq_ok hl)

/-- **A map with checks returns** exactly if each of them does. -/
theorem mapM_eq_ok_iff {f : α → Except ε β} {l : List α} {values : List β} :
    l.mapM f = .ok values ↔ List.Forall₂ (fun a b => f a = .ok b) l values := by
  refine ⟨mapM_eq_ok, fun h => ?_⟩
  induction h with
  | nil => rfl
  | cons ha _ ih =>
    rw [List.mapM_cons, ha, ih]
    rfl

/-- **A map with checks raises** what the first check raises that does not return. -/
theorem mapM_eq_error_iff {f : α → Except ε β} {l : List α} {e : ε} :
    l.mapM f = .error e ↔ ∃ before a after, l = before ++ a :: after ∧
      (∀ b ∈ before, ∃ value, f b = .ok value) ∧ f a = .error e := by
  induction l with
  | nil =>
    refine iff_of_false (fun h => by cases h) ?_
    rintro ⟨_, _, _, h, -⟩
    exact List.append_ne_nil_of_right_ne_nil _ (List.cons_ne_nil _ _) h.symm
  | cons a l ih =>
    rw [List.mapM_cons]
    cases ha : f a with
    | error e' =>
      change Except.error e' = Except.error e ↔ _
      constructor
      · intro h
        obtain rfl := Except.error.inj h
        exact ⟨[], a, l, rfl, fun _ hmem => (by cases hmem), ha⟩
      · rintro ⟨before, b, after, hl, hbefore, hb⟩
        cases before with
        | nil =>
          obtain ⟨rfl, -⟩ := List.cons.inj hl
          exact congrArg Except.error (Except.error.inj (ha.symm.trans hb))
        | cons c before =>
          obtain ⟨rfl, -⟩ := List.cons.inj hl
          obtain ⟨value, hvalue⟩ := hbefore a List.mem_cons_self
          cases ha.symm.trans hvalue
    | ok value =>
      have hrest : (Except.ok value >>= fun b => l.mapM f >>= fun rest =>
          (pure (b :: rest) : Except ε (List β))) = .error e ↔ l.mapM f = .error e := by
        cases hl : l.mapM f with
        | error e' => exact ⟨fun h => h, fun h => h⟩
        | ok rest => exact iff_of_false (fun h => by cases h) fun h => by cases h
      rw [hrest, ih]
      constructor
      · rintro ⟨before, b, after, rfl, hbefore, hb⟩
        exact ⟨a :: before, b, after, rfl, List.forall_mem_cons.mpr ⟨⟨value, ha⟩, hbefore⟩, hb⟩
      · rintro ⟨before, b, after, hl, hbefore, hb⟩
        cases before with
        | nil =>
          obtain ⟨rfl, -⟩ := List.cons.inj hl
          cases ha.symm.trans hb
        | cons c before =>
          obtain ⟨rfl, rfl⟩ := List.cons.inj hl
          exact ⟨before, b, after, rfl, (List.forall_mem_cons.mp hbefore).2, hb⟩

/-- A fold that checks each element before it combines it. -/
theorem foldlM_eq_mapM_bind {f : α → Except ε β} {combine : γ → β → γ} {l : List α} {c : γ} :
    (l.foldlM (fun c a => f a >>= fun b => pure (combine c b)) c : Except ε γ) =
      l.mapM f >>= fun values => pure (values.foldl combine c) := by
  induction l generalizing c with
  | nil => rfl
  | cons a l ih =>
    rw [List.foldlM_cons, List.mapM_cons]
    cases f a with
    | error e => rfl
    | ok b =>
      change List.foldlM _ (combine c b) l = _
      rw [ih]
      cases l.mapM f <;> rfl

/-! ### Checks that all return -/

/-- A search whose checks all return finds what a search without checks finds. -/
theorem anyM_of_ok {f : α → Except ε Bool} {q : α → Bool} :
    ∀ {l : List α}, (∀ a ∈ l, f a = .ok (q a)) → l.anyM f = .ok (l.any q)
  | [], _ => rfl
  | a :: l, h => by
    rw [List.anyM, h a List.mem_cons_self, List.any_cons]
    cases q a with
    | true => rfl
    | false => exact anyM_of_ok fun b hb => h b (List.mem_cons_of_mem a hb)

theorem allM_of_ok {f : α → Except ε Bool} {q : α → Bool} :
    ∀ {l : List α}, (∀ a ∈ l, f a = .ok (q a)) → l.allM f = .ok (l.all q)
  | [], _ => rfl
  | a :: l, h => by
    rw [List.allM, h a List.mem_cons_self, List.all_cons]
    cases q a with
    | true => exact allM_of_ok fun b hb => h b (List.mem_cons_of_mem a hb)
    | false => rfl

private theorem filterAuxM_of_ok {p : α → Except ε Bool} {q : α → Bool} :
    ∀ (l acc : List α), (∀ a ∈ l, p a = .ok (q a)) →
      l.filterAuxM p acc = .ok ((l.filter q).reverse ++ acc)
  | [], _, _ => rfl
  | a :: l, acc, h => by
    have hrest (acc : List α) := filterAuxM_of_ok l acc fun b hb =>
      h b (List.mem_cons_of_mem a hb)
    rw [List.filterAuxM, h a List.mem_cons_self]
    change l.filterAuxM p (cond (q a) (a :: acc) acc) = _
    rw [hrest, List.filter_cons]
    cases q a with
    | true => simp
    | false => rfl

/-- A filter whose checks all return keeps what a filter without checks keeps. -/
theorem filterM_of_ok {p : α → Except ε Bool} {q : α → Bool} {l : List α}
    (h : ∀ a ∈ l, p a = .ok (q a)) : l.filterM p = .ok (l.filter q) := by
  rw [List.filterM, filterAuxM_of_ok l [] h, List.append_nil]
  exact congrArg Except.ok (List.reverse_reverse _)

/-- A map whose checks all return has a value. -/
theorem exists_mapM_eq_ok {f : α → Except ε β} :
    ∀ {l : List α}, (∀ a ∈ l, ∃ b, f a = .ok b) → ∃ values, l.mapM f = .ok values
  | [], _ => ⟨[], rfl⟩
  | a :: l, h => by
    obtain ⟨b, hb⟩ := h a List.mem_cons_self
    obtain ⟨values, hvalues⟩ := exists_mapM_eq_ok fun c hc => h c (List.mem_cons_of_mem a hc)
    refine ⟨b :: values, ?_⟩
    rw [List.mapM_cons, hb, hvalues]
    rfl

/-- A passed check leaves the rest of the computation. -/
theorem check_bind_of {p : Prop} [Decidable p] {e : ε} {f : Unit → Except ε β} (h : p) :
    (check p e >>= f) = f () := by
  rw [check, if_pos h]
  rfl

theorem check_bind_of_not {p : Prop} [Decidable p] {e : ε} {f : Unit → Except ε β} (h : ¬ p) :
    (check p e >>= f) = .error e := by
  rw [check, if_neg h]
  rfl

@[simp] theorem orRaise_some_bind {a : α} {e : ε} {f : α → Except ε β} :
    (orRaise (some a) e >>= f) = f a := rfl

@[simp] theorem orRaise_none_bind {e : ε} {f : α → Except ε β} :
    (orRaise none e >>= f) = .error e := rfl

theorem exists_ok_of_isOk {x : Except ε α} (h : x.isOk = true) : ∃ a, x = .ok a := by
  cases x with
  | ok a => exact ⟨a, rfl⟩
  | error e => cases h

/-! ### Successful outcomes -/

/-- Every successful outcome of the computation satisfies the predicate. -/
def Yields (x : Except ε α) (P : α → Prop) : Prop := ∀ a, x = .ok a → P a

variable {P : α → Prop}

instance {x : Except ε α} [DecidablePred P] : Decidable (Yields x P) :=
  match x with
  | .ok a => decidable_of_iff (P a) ⟨fun h _ heq => Except.ok.inj heq ▸ h, fun h => h a rfl⟩
  | .error _ => .isTrue fun _ heq => by cases heq

theorem Yields.of_ok {x : Except ε α} (h : Yields x P) {a : α} (ha : x = .ok a) : P a := h a ha

theorem Yields.imp {x : Except ε α} {Q : α → Prop} (h : Yields x P) (hPQ : ∀ a, P a → Q a) :
    Yields x Q :=
  fun a ha => hPQ a (h a ha)

@[simp] theorem yields_ok {a : α} : Yields (.ok a : Except ε α) P ↔ P a :=
  ⟨fun h => h a rfl, fun h _ ha => Except.ok.inj ha ▸ h⟩

@[simp] theorem yields_pure {a : α} : Yields (pure a : Except ε α) P ↔ P a := yields_ok

@[simp] theorem yields_error {e : ε} : Yields (.error e : Except ε α) P ↔ True :=
  ⟨fun _ => trivial, fun _ _ h => nomatch h⟩

@[simp] theorem yields_throw {e : ε} : Yields (throw e : Except ε α) P ↔ True := yields_error

/-- Whatever the first part returns, the rest yields the predicate. -/
@[simp low] theorem yields_bind {x : Except ε β} {f : β → Except ε α} :
    Yields (x >>= f) P ↔ ∀ b, x = .ok b → Yields (f b) P := by
  constructor
  · exact fun h b hb a ha => h a (bind_eq_ok_iff.mpr ⟨b, hb, ha⟩)
  · rintro h a ha
    obtain ⟨b, hb, hf⟩ := bind_eq_ok_iff.mp ha
    exact h b hb a hf

@[simp] theorem yields_check_bind {p : Prop} [Decidable p] {e : ε} {f : Unit → Except ε α} :
    Yields (check p e >>= f) P ↔ (p → Yields (f ()) P) := by
  rw [yields_bind]
  exact ⟨fun h hp => h () (check_eq_ok_iff.mpr hp), fun h _ hp => h (check_eq_ok_iff.mp hp)⟩

@[simp] theorem yields_ite {p : Prop} [Decidable p] {x y : Except ε α} :
    Yields (if p then x else y) P ↔ (p → Yields x P) ∧ (¬ p → Yields y P) := by
  split <;> simp [*]

@[simp] theorem yields_map {x : Except ε β} {f : β → α} :
    Yields (f <$> x) P ↔ Yields x fun b => P (f b) := by
  rw [← bind_pure_comp, yields_bind]
  exact forall₂_congr fun b _ => yields_pure

@[simp] theorem yields_true {x : Except ε α} : Yields x (fun _ => True) ↔ True :=
  ⟨fun _ => trivial, fun _ _ _ => trivial⟩

@[simp] theorem yields_check {p : Prop} [Decidable p] {e : ε} {P : Unit → Prop} :
    Yields (check p e) P ↔ (p → P ()) :=
  ⟨fun h hp => h () (check_eq_ok_iff.mpr hp), fun h _ hp => h (check_eq_ok_iff.mp hp)⟩

@[simp] theorem yields_orRaise {o : Option α} {e : ε} :
    Yields (orRaise o e) P ↔ ∀ a, o = some a → P a := by
  simp only [Yields, orRaise_eq_ok_iff]

@[simp] theorem yields_orRaise_bind {o : Option β} {e : ε} {f : β → Except ε α} :
    Yields (orRaise o e >>= f) P ↔ ∀ b, o = some b → Yields (f b) P := by
  simp only [yields_bind, orRaise_eq_ok_iff]

/-! ### Failures -/

/-- Every failure of the computation satisfies the predicate. -/
def Refuses (x : Except ε α) (R : ε → Prop) : Prop := ∀ e, x = .error e → R e

variable {R : ε → Prop}

theorem Refuses.of_error {x : Except ε α} (h : Refuses x R) {e : ε} (he : x = .error e) : R e :=
  h e he

@[simp] theorem refuses_ok {a : α} : Refuses (.ok a : Except ε α) R ↔ True :=
  ⟨fun _ => trivial, fun _ _ h => nomatch h⟩

@[simp] theorem refuses_pure {a : α} : Refuses (pure a : Except ε α) R ↔ True := refuses_ok

@[simp] theorem refuses_error {e : ε} : Refuses (.error e : Except ε α) R ↔ R e :=
  ⟨fun h => h e rfl, fun h _ he => Except.error.inj he ▸ h⟩

@[simp] theorem refuses_throw {e : ε} : Refuses (throw e : Except ε α) R ↔ R e := refuses_error

@[simp low] theorem refuses_bind {x : Except ε β} {f : β → Except ε α} :
    Refuses (x >>= f) R ↔ Refuses x R ∧ ∀ b, x = .ok b → Refuses (f b) R := by
  cases x with
  | error e =>
    change Refuses (.error e : Except ε α) R ↔ _
    simp
  | ok b =>
    change Refuses (f b) R ↔ _
    simp

@[simp] theorem refuses_check {p : Prop} [Decidable p] {e : ε} :
    Refuses (check p e) R ↔ (¬ p → R e) := by
  unfold check
  split <;> simp [*]

@[simp] theorem refuses_check_bind {p : Prop} [Decidable p] {e : ε} {f : Unit → Except ε α} :
    Refuses (check p e >>= f) R ↔ (¬ p → R e) ∧ (p → Refuses (f ()) R) := by
  rw [refuses_bind, refuses_check]
  refine and_congr_right fun _ => ?_
  exact ⟨fun h hp => h () (check_eq_ok_iff.mpr hp), fun h _ hp => h (check_eq_ok_iff.mp hp)⟩

@[simp] theorem refuses_orRaise {o : Option α} {e : ε} :
    Refuses (orRaise o e) R ↔ (o = none → R e) := by
  cases o <;> simp [orRaise]

@[simp] theorem refuses_ite {p : Prop} [Decidable p] {x y : Except ε α} :
    Refuses (if p then x else y) R ↔ (p → Refuses x R) ∧ (¬ p → Refuses y R) := by
  split <;> simp [*]

@[simp] theorem refuses_map {x : Except ε β} {f : β → α} : Refuses (f <$> x) R ↔ Refuses x R := by
  rw [← bind_pure_comp, refuses_bind]
  simp

/-- A loop fails only where its body does. -/
theorem refuses_forM {f : α → Except ε Unit} : ∀ {l : List α},
    (∀ a ∈ l, Refuses (f a) R) → Refuses (l.forM f) R
  | [], _ => refuses_pure.mpr trivial
  | a :: l, h => by
    change Refuses (f a >>= fun _ => l.forM f) R
    rw [refuses_bind]
    exact ⟨h a List.mem_cons_self,
      fun _ _ => refuses_forM fun b hb => h b (List.mem_cons_of_mem a hb)⟩

private theorem refuses_filterAuxM {p : α → Except ε Bool} (h : ∀ a, Refuses (p a) R) :
    ∀ (l kept : List α), Refuses (List.filterAuxM p l kept) R
  | [], kept => refuses_pure.mpr trivial
  | a :: l, kept => by
    rw [List.filterAuxM, refuses_bind]
    exact ⟨h a, fun _ _ => refuses_filterAuxM h l _⟩

/-- A filter fails only where its test does. -/
theorem refuses_filterM {p : α → Except ε Bool} (h : ∀ a, Refuses (p a) R) (l : List α) :
    Refuses (l.filterM p) R := by
  rw [List.filterM, refuses_bind]
  exact ⟨refuses_filterAuxM h l [], fun _ _ => refuses_pure.mpr trivial⟩

end Checked
