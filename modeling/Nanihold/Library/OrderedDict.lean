import Mathlib.Data.List.Nodup
import Mathlib.Tactic.SplitIfs
import Mathlib.Data.List.Basic

/-!
# Insertion-ordered dictionaries

A finite map that remembers the order in which its keys were first assigned. Assigning a
present key replaces its value where it stands; assigning a new key appends it. The list of
entries carries the proof that no key occurs twice, so a dictionary with a shadowed entry
cannot be built.

## Main definitions

* `OrderedDict` — the entries together with the proof that the keys are distinct.
* `OrderedDict.set`, `OrderedDict.update` — assignment of one pair and of a list of pairs.
* `OrderedDict.modify`, `OrderedDict.mapValues` — a rewrite of one value and of every value
  in place.
* `OrderedDict.get?`, `OrderedDict.contains`, `OrderedDict.values` — the reads.
* `OrderedDict.RewritesExactly`, `OrderedDict.Retains` — what a rewrite reaches; what it keeps.

## Main results

* `OrderedDict.get?_set` — a read after an assignment.
* `OrderedDict.get?_update` — a read after a list of assignments with distinct keys.
* `OrderedDict.get?_modify`, `OrderedDict.get?_mapValues` — a read after a rewrite in place.
* `OrderedDict.map_get?_modify` — what a rewrite keeps of every value, every read keeps.
* `OrderedDict.mem_entries_iff` — an entry is present exactly when the read returns it.
-/

/-- A finite map in insertion order, without repeated keys. -/
@[ext]
structure OrderedDict (κ ν : Type) where
  /-- The key–value pairs, oldest key first. -/
  entries : List (κ × ν)
  /-- No key is assigned twice. -/
  nodup_keys : (entries.map Prod.fst).Nodup
  deriving DecidableEq

namespace OrderedDict

variable {κ ν : Type}

/-- The dictionary without entries. -/
def empty : OrderedDict κ ν := ⟨[], List.nodup_nil⟩

instance : Inhabited (OrderedDict κ ν) := ⟨empty⟩

/-- The keys in insertion order. -/
def keys (d : OrderedDict κ ν) : List κ := d.entries.map Prod.fst

/-- The values in the insertion order of their keys. -/
def values (d : OrderedDict κ ν) : List ν := d.entries.map Prod.snd

section Read

variable [DecidableEq κ]

/-- The value stored under a key in a list of entries. -/
def lookup (k : κ) : List (κ × ν) → Option ν
  | [] => none
  | e :: es => if e.1 = k then some e.2 else lookup k es

/-- The value stored under a key, if there is one. -/
def get? (d : OrderedDict κ ν) (k : κ) : Option ν := lookup k d.entries

/-- The value stored under a key, or a default. -/
def getD (d : OrderedDict κ ν) (k : κ) (default : ν) : ν := (d.get? k).getD default

/-- Whether a key is assigned. -/
def contains (d : OrderedDict κ ν) (k : κ) : Bool := (d.get? k).isSome

end Read

/-! ### Assignment -/

section Write

variable [DecidableEq κ]

/-- Replace the value of a present key, or append a new entry. -/
def assign (k : κ) (v : ν) : List (κ × ν) → List (κ × ν)
  | [] => [(k, v)]
  | e :: es => if e.1 = k then (k, v) :: es else e :: assign k v es

private theorem mem_keys_assign (k : κ) (v : ν) (x : κ) :
    ∀ es : List (κ × ν), x ∈ (assign k v es).map Prod.fst ↔ x = k ∨ x ∈ es.map Prod.fst
  | [] => by simp [assign]
  | e :: es => by
    by_cases h : e.1 = k
    · simp [assign, h]
    · simp only [assign, if_neg h, List.map_cons, List.mem_cons, mem_keys_assign k v x es]
      tauto

private theorem nodup_assign (k : κ) (v : ν) :
    ∀ es : List (κ × ν), (es.map Prod.fst).Nodup → ((assign k v es).map Prod.fst).Nodup
  | [], _ => by simp [assign]
  | e :: es, h => by
    rw [List.map_cons, List.nodup_cons] at h
    by_cases hk : e.1 = k
    · rw [assign, if_pos hk, List.map_cons, List.nodup_cons]
      exact hk ▸ h
    · rw [assign, if_neg hk, List.map_cons, List.nodup_cons]
      refine ⟨fun hmem => ?_, nodup_assign k v es h.2⟩
      rcases (mem_keys_assign k v e.1 es).mp hmem with hek | hes
      · exact hk hek
      · exact h.1 hes

/-- Assign a value to a key: in place when the key is present, at the end otherwise. -/
def set (d : OrderedDict κ ν) (k : κ) (v : ν) : OrderedDict κ ν :=
  ⟨assign k v d.entries, nodup_assign k v d.entries d.nodup_keys⟩

/-- Assign a list of pairs one after the other. -/
def update (d : OrderedDict κ ν) (pairs : List (κ × ν)) : OrderedDict κ ν :=
  pairs.foldl (fun acc p => acc.set p.1 p.2) d

/-- The dictionary built by assigning a list of pairs to the empty one. -/
def ofList (pairs : List (κ × ν)) : OrderedDict κ ν := empty.update pairs

/-- Rewrite the value of a key where it stands; an absent key stays absent. -/
def modify (d : OrderedDict κ ν) (k : κ) (f : ν → ν) : OrderedDict κ ν :=
  match d.get? k with
  | some v => d.set k (f v)
  | none => d

end Write

/-- Rewrite every value where it stands. -/
def mapValues (d : OrderedDict κ ν) (f : κ → ν → ν) : OrderedDict κ ν :=
  ⟨d.entries.map fun e => (e.1, f e.1 e.2), by
    simpa [List.map_map, Function.comp_def] using d.nodup_keys⟩

/-! ### Reads after writes -/

section Laws

variable [DecidableEq κ]

private theorem lookup_assign (k : κ) (v : ν) (x : κ) :
    ∀ es : List (κ × ν), lookup x (assign k v es) = if k = x then some v else lookup x es
  | [] => rfl
  | e :: es => by
    by_cases h : e.1 = k
    · by_cases hx : k = x
      · simp [assign, lookup, h, hx]
      · simp [assign, lookup, h, hx]
    · simp only [assign, if_neg h, lookup, lookup_assign k v x es]
      by_cases hx : e.1 = x
      · have hk : k ≠ x := fun hk => h (hx.trans hk.symm)
        simp [hx, hk]
      · simp [hx]

@[simp] theorem get?_empty (k : κ) : (empty : OrderedDict κ ν).get? k = none := rfl

/-- **Read after assignment.** -/
theorem get?_set (d : OrderedDict κ ν) (k : κ) (v : ν) (x : κ) :
    (d.set k v).get? x = if k = x then some v else d.get? x :=
  lookup_assign k v x d.entries

@[simp] theorem get?_set_self (d : OrderedDict κ ν) (k : κ) (v : ν) :
    (d.set k v).get? k = some v := by
  rw [get?_set, if_pos rfl]

theorem get?_set_of_ne (d : OrderedDict κ ν) {k x : κ} (v : ν) (h : k ≠ x) :
    (d.set k v).get? x = d.get? x := by
  rw [get?_set, if_neg h]

@[simp] theorem getD_empty (k : κ) (v : ν) : (empty : OrderedDict κ ν).getD k v = v := rfl

theorem getD_set (d : OrderedDict κ ν) (k : κ) (v : ν) (x : κ) (w : ν) :
    (d.set k v).getD x w = if k = x then v else d.getD x w := by
  unfold getD
  rw [get?_set]
  split <;> rfl

@[simp] theorem getD_set_self (d : OrderedDict κ ν) (k : κ) (v w : ν) :
    (d.set k v).getD k w = v := by
  rw [getD_set, if_pos rfl]

theorem getD_set_of_ne (d : OrderedDict κ ν) {k x : κ} (v w : ν) (h : k ≠ x) :
    (d.set k v).getD x w = d.getD x w := by
  rw [getD_set, if_neg h]

/-- Assigning a number that is no smaller lowers no reading. -/
theorem getD_le_getD_set {d : OrderedDict κ Nat} {k : κ} {v : Nat} (h : d.getD k 0 ≤ v)
    (x : κ) : d.getD x 0 ≤ (d.set k v).getD x 0 := by
  rw [getD_set]
  split_ifs with heq
  · rwa [← heq]
  · exact Nat.le_refl _

@[simp] theorem contains_empty (k : κ) : (empty : OrderedDict κ ν).contains k = false := rfl

theorem contains_iff (d : OrderedDict κ ν) (k : κ) :
    d.contains k = true ↔ ∃ v, d.get? k = some v := by
  rw [contains, Option.isSome_iff_exists]

theorem contains_eq_false_iff (d : OrderedDict κ ν) (k : κ) :
    d.contains k = false ↔ d.get? k = none := by
  rw [contains, Option.isSome_eq_false_iff, Option.isNone_iff_eq_none]

theorem contains_set (d : OrderedDict κ ν) (k : κ) (v : ν) (x : κ) :
    (d.set k v).contains x = (decide (k = x) || d.contains x) := by
  unfold contains
  rw [get?_set]
  split <;> simp [*]

private theorem lookup_eq_some_of_mem (k : κ) (v : ν) :
    ∀ es : List (κ × ν), (es.map Prod.fst).Nodup → (k, v) ∈ es → lookup k es = some v
  | e :: es, hd, hmem => by
    rw [List.map_cons, List.nodup_cons] at hd
    rcases List.mem_cons.mp hmem with rfl | hes
    · simp [lookup]
    · have hne : e.1 ≠ k := fun he => hd.1 (he ▸ List.mem_map.mpr ⟨(k, v), hes, rfl⟩)
      rw [lookup, if_neg hne]
      exact lookup_eq_some_of_mem k v es hd.2 hes

private theorem mem_of_lookup_eq_some (k : κ) (v : ν) :
    ∀ es : List (κ × ν), lookup k es = some v → (k, v) ∈ es
  | e :: es, h => by
    by_cases he : e.1 = k
    · rw [lookup, if_pos he] at h
      have : e = (k, v) := Prod.ext he (Option.some.inj h)
      exact this ▸ List.mem_cons_self
    · rw [lookup, if_neg he] at h
      exact List.mem_cons_of_mem e (mem_of_lookup_eq_some k v es h)

/-- An entry is present exactly when the read of its key returns its value. -/
theorem mem_entries_iff (d : OrderedDict κ ν) (k : κ) (v : ν) :
    (k, v) ∈ d.entries ↔ d.get? k = some v :=
  ⟨lookup_eq_some_of_mem k v d.entries d.nodup_keys, mem_of_lookup_eq_some k v d.entries⟩

theorem mem_values_iff (d : OrderedDict κ ν) (v : ν) :
    v ∈ d.values ↔ ∃ k, d.get? k = some v := by
  constructor
  · intro h
    obtain ⟨e, he, rfl⟩ := List.mem_map.mp h
    exact ⟨e.1, (d.mem_entries_iff e.1 e.2).mp he⟩
  · rintro ⟨k, hk⟩
    exact List.mem_map.mpr ⟨(k, v), (d.mem_entries_iff k v).mpr hk, rfl⟩

private theorem assign_of_lookup_eq_none {k : κ} (v : ν) :
    ∀ {es : List (κ × ν)}, lookup k es = none → assign k v es = es ++ [(k, v)]
  | [], _ => rfl
  | e :: es, h => by
    rw [lookup] at h
    split_ifs at h with hk
    rw [assign, if_neg hk, assign_of_lookup_eq_none v h, List.cons_append]

/-- The value of a new key is the last one. -/
theorem values_set_of_get?_eq_none {d : OrderedDict κ ν} {k : κ} (h : d.get? k = none) (v : ν) :
    (d.set k v).values = d.values ++ [v] := by
  refine (congrArg (List.map Prod.snd) (assign_of_lookup_eq_none v h)).trans ?_
  rw [List.map_append]
  rfl

theorem mem_values_of_get? {d : OrderedDict κ ν} {k : κ} {v : ν} (h : d.get? k = some v) :
    v ∈ d.values :=
  (d.mem_values_iff v).mpr ⟨k, h⟩

theorem mem_keys_iff (d : OrderedDict κ ν) (k : κ) : k ∈ d.keys ↔ d.contains k = true := by
  rw [contains_iff]
  constructor
  · intro h
    obtain ⟨e, he, rfl⟩ := List.mem_map.mp h
    exact ⟨e.2, (d.mem_entries_iff e.1 e.2).mp he⟩
  · rintro ⟨v, hv⟩
    exact List.mem_map.mpr ⟨(k, v), (d.mem_entries_iff k v).mpr hv, rfl⟩

theorem modify_of_get? {d : OrderedDict κ ν} {k : κ} {v : ν} (h : d.get? k = some v)
    (f : ν → ν) : d.modify k f = d.set k (f v) := by
  rw [modify, h]

/-- **Read after a rewrite of one key.** -/
theorem get?_modify (d : OrderedDict κ ν) (k : κ) (f : ν → ν) (x : κ) :
    (d.modify k f).get? x = if k = x then (d.get? x).map f else d.get? x := by
  cases h : d.get? k with
  | none =>
    rw [modify, h]
    by_cases hx : k = x
    · subst hx
      simp [h]
    · rw [if_neg hx]
  | some v =>
    rw [modify_of_get? h, get?_set]
    by_cases hx : k = x
    · subst hx
      simp [h]
    · rw [if_neg hx, if_neg hx]

/-- What a rewrite keeps of every value, the rewritten dictionary keeps under every key. -/
theorem map_get?_modify {γ : Type*} (d : OrderedDict κ ν) (k : κ) {f : ν → ν} {content : ν → γ}
    (hf : ∀ v, content (f v) = content v) (x : κ) :
    ((d.modify k f).get? x).map content = (d.get? x).map content := by
  rw [get?_modify]
  split
  · rw [Option.map_map]
    exact congrArg (Option.map · _) (funext hf)
  · rfl

@[simp] theorem contains_modify (d : OrderedDict κ ν) (k : κ) (f : ν → ν) (x : κ) :
    (d.modify k f).contains x = d.contains x := by
  rw [contains, contains, get?_modify]
  by_cases hx : k = x <;> simp [hx]

private theorem lookup_map (f : κ → ν → ν) (k : κ) :
    ∀ es : List (κ × ν),
      lookup k (es.map fun e => (e.1, f e.1 e.2)) = (lookup k es).map (f k)
  | [] => rfl
  | e :: es => by
    by_cases h : e.1 = k
    · simp [lookup, h]
    · simp only [List.map_cons, lookup, if_neg h, lookup_map f k es]

/-- **Read after a rewrite in place.** -/
@[simp] theorem get?_mapValues (d : OrderedDict κ ν) (f : κ → ν → ν) (k : κ) :
    (d.mapValues f).get? k = (d.get? k).map (f k) :=
  lookup_map f k d.entries

theorem map_get?_mapValues {γ : Type*} (d : OrderedDict κ ν) {f : κ → ν → ν} {content : ν → γ}
    (hf : ∀ k v, content (f k v) = content v) (x : κ) :
    ((d.mapValues f).get? x).map content = (d.get? x).map content := by
  rw [get?_mapValues, Option.map_map]
  exact congrArg (Option.map · _) (funext (hf x))

@[simp] theorem contains_mapValues (d : OrderedDict κ ν) (f : κ → ν → ν) (k : κ) :
    (d.mapValues f).contains k = d.contains k := by
  simp [contains]

omit [DecidableEq κ] in
/-- **Two rewrites in place** are one. -/
theorem mapValues_mapValues (d : OrderedDict κ ν) (f g : κ → ν → ν) :
    (d.mapValues f).mapValues g = d.mapValues fun k v => g k (f k v) := by
  refine OrderedDict.ext ?_
  exact List.map_map

omit [DecidableEq κ] in
theorem mapValues_id (d : OrderedDict κ ν) : (d.mapValues fun _ v => v) = d :=
  OrderedDict.ext (List.map_id _)

/-! ### Lists of assignments -/

@[simp] theorem update_nil (d : OrderedDict κ ν) : d.update [] = d := rfl

theorem update_cons (d : OrderedDict κ ν) (p : κ × ν) (ps : List (κ × ν)) :
    d.update (p :: ps) = (d.set p.1 p.2).update ps := rfl

theorem get?_update_of_notMem (x : κ) :
    ∀ (ps : List (κ × ν)) (d : OrderedDict κ ν), x ∉ ps.map Prod.fst →
      (d.update ps).get? x = d.get? x
  | [], _, _ => rfl
  | p :: ps, d, h => by
    rw [List.map_cons, List.mem_cons, not_or] at h
    rw [update_cons, get?_update_of_notMem x ps _ h.2, get?_set_of_ne d p.2 (Ne.symm h.1)]

theorem get?_update_of_mem (x : κ) (v : ν) :
    ∀ (ps : List (κ × ν)) (d : OrderedDict κ ν), (ps.map Prod.fst).Nodup → (x, v) ∈ ps →
      (d.update ps).get? x = some v
  | p :: ps, d, hd, hmem => by
    rw [List.map_cons, List.nodup_cons] at hd
    rw [update_cons]
    rcases List.mem_cons.mp hmem with rfl | hps
    · rw [get?_update_of_notMem _ ps _ hd.1, get?_set_self]
    · exact get?_update_of_mem x v ps _ hd.2 hps

/-- A read after a list of assignments returns an old entry or one of the assigned pairs. -/
theorem get?_update (x : κ) (v : ν) :
    ∀ (ps : List (κ × ν)) (d : OrderedDict κ ν), (d.update ps).get? x = some v →
      d.get? x = some v ∨ (x, v) ∈ ps
  | [], _, h => Or.inl h
  | p :: ps, d, h => by
    rcases get?_update x v ps _ h with hset | hps
    · rw [get?_set] at hset
      split at hset
      · next hk =>
        right
        have : p = (x, v) := Prod.ext hk (Option.some.inj hset)
        exact this ▸ List.mem_cons_self
      · exact Or.inl hset
    · exact Or.inr (List.mem_cons_of_mem p hps)

theorem contains_update (x : κ) :
    ∀ (ps : List (κ × ν)) (d : OrderedDict κ ν),
      (d.update ps).contains x = true ↔ d.contains x = true ∨ x ∈ ps.map Prod.fst
  | [], d => by simp
  | p :: ps, d => by
    rw [update_cons, contains_update x ps, contains_set, List.map_cons, List.mem_cons]
    simp only [Bool.or_eq_true, decide_eq_true_eq]
    constructor
    · rintro ((h | h) | h)
      · exact Or.inr (Or.inl h.symm)
      · exact Or.inl h
      · exact Or.inr (Or.inr h)
    · rintro (h | h | h)
      · exact Or.inl (Or.inr h)
      · exact Or.inl (Or.inl h.symm)
      · exact Or.inr h

/-! ### Rewrites -/

/-- The second dictionary has `f` of the affected values of the first, its other values, and no
other key. -/
structure RewritesExactly (Affected : ν → Prop) (f : ν → ν) (d e : OrderedDict κ ν) : Prop where
  affected : ∀ k v, d.get? k = some v → Affected v → e.get? k = some (f v)
  untouched : ∀ k v, d.get? k = some v → ¬ Affected v → e.get? k = some v
  absent : ∀ k, d.get? k = none → e.get? k = none
  same_order : e.keys = d.keys

theorem rewritesExactly_mapValues (d : OrderedDict κ ν) (Affected : ν → Prop)
    [DecidablePred Affected] (f : ν → ν) :
    RewritesExactly Affected f d (d.mapValues fun _ v => if Affected v then f v else v) where
  affected k v hv h := by rw [get?_mapValues, hv, Option.map_some, if_pos h]
  untouched k v hv h := by rw [get?_mapValues, hv, Option.map_some, if_neg h]
  absent k hk := by rw [get?_mapValues, hk, Option.map_none]
  same_order := by
    rw [keys, keys, mapValues, List.map_map]
    rfl

/-- A value after a rewrite was one before it. -/
theorem RewritesExactly.get?_eq_some {Affected : ν → Prop} {f : ν → ν} {d e : OrderedDict κ ν}
    (h : RewritesExactly Affected f d e) {k : κ} {w : ν} (hw : e.get? k = some w) :
    ∃ v, d.get? k = some v ∧ (Affected v ∧ w = f v ∨ ¬ Affected v ∧ w = v) := by
  cases hv : d.get? k with
  | none => cases (h.absent k hv).symm.trans hw
  | some v =>
    refine ⟨v, rfl, ?_⟩
    by_cases haffected : Affected v
    · exact Or.inl ⟨haffected, Option.some.inj (hw.symm.trans (h.affected k v hv haffected))⟩
    · exact Or.inr ⟨haffected, Option.some.inj (hw.symm.trans (h.untouched k v hv haffected))⟩

/-! ### Retained content -/

/-- Every key of the first dictionary is one of the second, and the values under it agree in
their content. -/
def Retains {γ : Type} (content : ν → γ) (d e : OrderedDict κ ν) : Prop :=
  ∀ k v, d.get? k = some v → ∃ w, e.get? k = some w ∧ content w = content v

variable {γ : Type} {content : ν → γ} {d e : OrderedDict κ ν}

theorem Retains.refl (d : OrderedDict κ ν) : Retains content d d := fun _ v h => ⟨v, h, rfl⟩

theorem Retains.trans {f : OrderedDict κ ν} (hde : Retains content d e)
    (hef : Retains content e f) : Retains content d f := by
  intro k v hv
  obtain ⟨w, hw, hcontent⟩ := hde k v hv
  obtain ⟨u, hu, hsame⟩ := hef k w hw
  exact ⟨u, hu, hsame.trans hcontent⟩

/-- A value assigned to a key with the same content, or to a new key. -/
theorem Retains.set (d : OrderedDict κ ν) (k : κ) (w : ν)
    (h : ∀ v, d.get? k = some v → content w = content v) : Retains content d (d.set k w) := by
  intro x v hv
  by_cases hx : k = x
  · subst hx
    exact ⟨w, get?_set_self d k w, h v hv⟩
  · exact ⟨v, (get?_set_of_ne d w hx).trans hv, rfl⟩

theorem Retains.modify (d : OrderedDict κ ν) (k : κ) {f : ν → ν}
    (h : ∀ v, content (f v) = content v) : Retains content d (d.modify k f) := by
  intro x v hv
  by_cases hx : k = x
  · exact ⟨f v, by rw [get?_modify, if_pos hx, hv, Option.map_some], h v⟩
  · exact ⟨v, by rw [get?_modify, if_neg hx, hv], rfl⟩

theorem Retains.mapValues (d : OrderedDict κ ν) {f : κ → ν → ν}
    (h : ∀ k v, content (f k v) = content v) : Retains content d (d.mapValues f) :=
  fun x v hv => ⟨f x v, by rw [get?_mapValues, hv, Option.map_some], h x v⟩

/-- An update under new keys. -/
theorem Retains.update (d : OrderedDict κ ν) (ps : List (κ × ν))
    (h : ∀ p ∈ ps, d.contains p.1 = false) : Retains content d (d.update ps) := by
  intro x v hv
  refine ⟨v, (get?_update_of_notMem x ps d fun hmem => ?_).trans hv, rfl⟩
  obtain ⟨p, hp, rfl⟩ := List.mem_map.mp hmem
  have hnone := (contains_eq_false_iff d p.1).mp (h p hp)
  rw [hv] at hnone
  cases hnone

end Laws

end OrderedDict
