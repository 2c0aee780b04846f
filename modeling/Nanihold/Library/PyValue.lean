import Mathlib

/-!
# Values and their JSON text

The values that a Python program hands to `json.dump` and those that `json.loads` gives back. JSON
has one kind of list and names only, so a tuple comes back as a list and every key as a string; a
number that is not a number never equals its copy.

## Main definitions

* `PyScalar`, `PyValue` — the values.
* `PyValue.reload` — what a dump and a load make of a value.
* `PyValue.SameAsCopy` — a value equals a separate copy of it.
* `PyValue.isPlain` — the values made of what JSON knows.

## Main results

* `PyValue.isPlain_iff` — a value is plain exactly if it comes back as an equal value.
* `PyValue.reload_reload` — what has been loaded comes back unchanged.
-/

inductive PyScalar where
  | none
  | bool (b : Bool)
  | int (n : Int)
  /-- A float other than NaN, by its `repr`. -/
  | float (repr : String)
  | nan
  | str (text : String)
  /-- An object that JSON does not know. -/
  | other (repr : String)
  deriving DecidableEq

/-- The values. The order in which a dictionary lists its entries is not observed. -/
inductive PyValue where
  | scalar (s : PyScalar)
  | list (items : List PyValue)
  | tuple (items : List PyValue)
  | dict (entries : List (PyScalar × PyValue))

namespace PyScalar

/-- The interpreter writes integers of 4300 digits at most. -/
@[irreducible] def writable (n : Int) : Bool := n.natAbs < 10 ^ 4300

/-- A scalar comes back as it is, unless it is refused. -/
def reload : PyScalar → Option PyScalar
  | .int n => if writable n then some (.int n) else Option.none
  | .other _ => Option.none
  | s => some s

/-- The name that a key becomes. -/
def keyText : PyScalar → Option String
  | .none => some "null"
  | .bool b => some (if b then "true" else "false")
  | .int n => if writable n then some (toString n) else Option.none
  | .float repr => some repr
  | .nan => some "NaN"
  | .str text => some text
  | .other _ => Option.none

def isStr : PyScalar → Bool
  | .str _ => true
  | _ => false

def isNumber : PyScalar → Bool
  | .bool _ | .int _ | .float _ | .nan => true
  | _ => false

/-- Keys are sorted, so they are all strings or all numbers. -/
def sortable (keys : List PyScalar) : Bool :=
  keys.all isStr || keys.all isNumber || keys.length ≤ 1

def isPlain : PyScalar → Bool
  | .int n => writable n
  | .nan | .other _ => false
  | _ => true

theorem isPlain_iff (s : PyScalar) : s.isPlain = true ↔ s.reload = some s ∧ s ≠ .nan := by
  cases s with
  | int n =>
    rw [isPlain, reload]
    by_cases hn : writable n = true
    · rw [if_pos hn]
      exact iff_of_true hn ⟨rfl, PyScalar.noConfusion⟩
    · rw [if_neg hn]
      exact iff_of_false hn fun h => by cases h.1
  | nan => exact iff_of_false Bool.false_ne_true fun h => h.2 rfl
  | other repr => exact iff_of_false Bool.false_ne_true fun h => by cases h.1
  | none | bool b | float repr | str text => exact iff_of_true rfl ⟨rfl, PyScalar.noConfusion⟩

theorem reload_reload {s t : PyScalar} (h : s.reload = some t) : t.reload = some t := by
  have heq : s = t := by
    cases s with
    | int n =>
      rw [reload] at h
      split at h
      · exact Option.some.inj h
      · cases h
    | other repr => cases h
    | none | bool b | float repr | nan | str text => exact Option.some.inj h
  rw [← heq, h, heq]

end PyScalar

namespace PyValue

mutual

/-- `json.loads(json.dumps(value, sort_keys=True))`, if the value is not refused. -/
def reload : PyValue → Option PyValue
  | .scalar s => PyValue.scalar <$> s.reload
  | .list items => PyValue.list <$> reloadItems items
  | .tuple items => PyValue.list <$> reloadItems items
  | .dict entries =>
    if PyScalar.sortable (entries.map Prod.fst) then PyValue.dict <$> reloadEntries entries
    else none

def reloadItems : List PyValue → Option (List PyValue)
  | [] => some []
  | v :: rest => do
    let v ← reload v
    let rest ← reloadItems rest
    return v :: rest

def reloadEntries : List (PyScalar × PyValue) → Option (List (PyScalar × PyValue))
  | [] => some []
  | (key, v) :: rest => do
    let text ← key.keyText
    let v ← reload v
    let rest ← reloadEntries rest
    return (.str text, v) :: rest

end

mutual

/-- A value made of strings, numbers, lists and dictionaries with string keys. -/
def isPlain : PyValue → Bool
  | .scalar s => s.isPlain
  | .list items => arePlain items
  | .tuple _ => false
  | .dict entries => haveNames entries

def arePlain : List PyValue → Bool
  | [] => true
  | v :: rest => isPlain v && arePlain rest

def haveNames : List (PyScalar × PyValue) → Bool
  | [] => true
  | (key, v) :: rest => key.isStr && isPlain v && haveNames rest

end

mutual

def hasNan : PyValue → Bool
  | .scalar s => s = .nan
  | .list items => haveNan items
  | .tuple items => haveNan items
  | .dict entries => entriesHaveNan entries

def haveNan : List PyValue → Bool
  | [] => false
  | v :: rest => hasNan v || haveNan rest

def entriesHaveNan : List (PyScalar × PyValue) → Bool
  | [] => false
  | (_, v) :: rest => hasNan v || entriesHaveNan rest

end

mutual

/-- The value can be put in a set. -/
def isHashable : PyValue → Bool
  | .scalar _ => true
  | .tuple items => areHashable items
  | .list _ | .dict _ => false

def areHashable : List PyValue → Bool
  | [] => true
  | v :: rest => isHashable v && areHashable rest

end

/-- `value == copy` for values of the same types. -/
def SameAsCopy (value copy : PyValue) : Prop := value = copy ∧ value.hasNan = false

/-! ### Induction over values -/

/-- What holds of a value whenever it holds of the values in it holds of every value. -/
theorem induction {P : PyValue → Prop} (scalar : ∀ s, P (.scalar s))
    (list : ∀ items, (∀ v ∈ items, P v) → P (.list items))
    (tuple : ∀ items, (∀ v ∈ items, P v) → P (.tuple items))
    (dict : ∀ entries, (∀ entry ∈ entries, P entry.2) → P (.dict entries)) (value : PyValue) :
    P value :=
  @PyValue.rec P (fun items => ∀ v ∈ items, P v) (fun entries => ∀ entry ∈ entries, P entry.2)
    (fun entry => P entry.2) scalar list tuple dict (List.forall_mem_nil _)
    (fun _ _ hv hrest => List.forall_mem_cons.mpr ⟨hv, hrest⟩) (List.forall_mem_nil _)
    (fun _ _ hentry hrest => List.forall_mem_cons.mpr ⟨hentry, hrest⟩) (fun _ _ hv => hv) value

/-! ### Plain values come back -/

/-- The value comes back as an equal one. -/
def ComesBack (value : PyValue) : Prop := value.reload = some value ∧ value.hasNan = false

private theorem arePlain_iff {items : List PyValue}
    (h : ∀ v ∈ items, v.isPlain = true ↔ v.ComesBack) :
    arePlain items = true ↔ reloadItems items = some items ∧ haveNan items = false := by
  induction items with
  | nil => exact iff_of_true rfl ⟨rfl, rfl⟩
  | cons v rest ih =>
    obtain ⟨hv, hrest⟩ := List.forall_mem_cons.mp h
    rw [arePlain, Bool.and_eq_true, hv, ih hrest, haveNan, Bool.or_eq_false_iff, reloadItems]
    constructor
    · rintro ⟨⟨hreload, hnan⟩, hreloads, hnans⟩
      rw [hreload, hreloads]
      exact ⟨rfl, hnan, hnans⟩
    · rintro ⟨heq, hnan, hnans⟩
      obtain ⟨w, hw, heq⟩ := Option.bind_eq_some_iff.mp heq
      obtain ⟨ws, hws, heq⟩ := Option.bind_eq_some_iff.mp heq
      obtain ⟨rfl, rfl⟩ := List.cons.inj (Option.some.inj heq)
      exact ⟨⟨hw, hnan⟩, hws, hnans⟩

private theorem haveNames_iff {entries : List (PyScalar × PyValue)}
    (h : ∀ entry ∈ entries, entry.2.isPlain = true ↔ entry.2.ComesBack) :
    haveNames entries = true ↔
      reloadEntries entries = some entries ∧ entriesHaveNan entries = false := by
  induction entries with
  | nil => exact iff_of_true rfl ⟨rfl, rfl⟩
  | cons entry rest ih =>
    obtain ⟨key, v⟩ := entry
    obtain ⟨hv, hrest⟩ := List.forall_mem_cons.mp h
    rw [haveNames, Bool.and_eq_true, Bool.and_eq_true, ih hrest, entriesHaveNan,
      Bool.or_eq_false_iff, reloadEntries]
    constructor
    · rintro ⟨⟨hkey, hplain⟩, hreloads, hnans⟩
      obtain ⟨hreload, hnan⟩ := hv.mp hplain
      cases key with
      | str text =>
        rw [hreload, hreloads]
        exact ⟨rfl, hnan, hnans⟩
      | none | bool b | int n | float repr | nan | other repr => cases hkey
    · rintro ⟨heq, hnan, hnans⟩
      obtain ⟨text, -, heq⟩ := Option.bind_eq_some_iff.mp heq
      obtain ⟨w, hw, heq⟩ := Option.bind_eq_some_iff.mp heq
      obtain ⟨ws, hws, heq⟩ := Option.bind_eq_some_iff.mp heq
      obtain ⟨hentry, rfl⟩ := List.cons.inj (Option.some.inj heq)
      obtain ⟨rfl, rfl⟩ := Prod.mk.inj hentry
      exact ⟨⟨rfl, hv.mpr ⟨hw, hnan⟩⟩, hws, hnans⟩

private theorem sortable_of_haveNames {entries : List (PyScalar × PyValue)}
    (h : haveNames entries = true) : PyScalar.sortable (entries.map Prod.fst) = true := by
  have hstr : (entries.map Prod.fst).all PyScalar.isStr = true := by
    induction entries with
    | nil => rfl
    | cons entry rest ih =>
      obtain ⟨key, v⟩ := entry
      rw [haveNames, Bool.and_eq_true, Bool.and_eq_true] at h
      rw [List.map_cons, List.all_cons, Bool.and_eq_true]
      exact ⟨h.1.1, ih h.2⟩
  rw [PyScalar.sortable, hstr]
  rfl

/-- **Plain values come back**, and no others do. -/
theorem isPlain_iff_comesBack (value : PyValue) : value.isPlain = true ↔ value.ComesBack := by
  induction value using PyValue.induction with
  | scalar s =>
    rw [isPlain, ComesBack, reload, hasNan, decide_eq_false_iff_not, s.isPlain_iff]
    refine and_congr_left fun _ => ⟨fun h => by rw [h]; rfl, fun h => ?_⟩
    obtain ⟨t, ht, heq⟩ := Option.map_eq_some_iff.mp h
    rw [ht, PyValue.scalar.inj heq]
  | list items ih =>
    rw [isPlain, arePlain_iff ih, ComesBack, reload, hasNan]
    refine and_congr_left fun _ => ⟨fun h => by rw [h]; rfl, fun h => ?_⟩
    obtain ⟨items', hitems, heq⟩ := Option.map_eq_some_iff.mp h
    rw [hitems, PyValue.list.inj heq]
  | tuple items ih =>
    refine iff_of_false Bool.false_ne_true fun h => ?_
    obtain ⟨_, -, heq⟩ := Option.map_eq_some_iff.mp h.1
    cases heq
  | dict entries ih =>
    rw [isPlain, ComesBack, reload, hasNan]
    constructor
    · intro hnames
      obtain ⟨hreload, hnan⟩ := (haveNames_iff ih).mp hnames
      rw [if_pos (sortable_of_haveNames hnames), hreload]
      exact ⟨rfl, hnan⟩
    · rintro ⟨h, hnan⟩
      split at h
      · obtain ⟨entries', hentries, heq⟩ := Option.map_eq_some_iff.mp h
        rw [PyValue.dict.inj heq] at hentries
        exact (haveNames_iff ih).mpr ⟨hentries, hnan⟩
      · cases h

/-- A value equals what is loaded for it exactly if it is plain. -/
theorem sameAsCopy_iff {value copy : PyValue} (h : value.reload = some copy) :
    value.SameAsCopy copy ↔ value.isPlain = true := by
  rw [isPlain_iff_comesBack, ComesBack, SameAsCopy, h]
  exact and_congr_left fun _ => ⟨fun heq => by rw [heq], fun heq => (Option.some.inj heq).symm⟩

/-! ### What has been loaded -/

private theorem reloadItems_reloadItems {items loaded : List PyValue}
    (h : ∀ v ∈ items, ∀ w, v.reload = some w → w.reload = some w)
    (heq : reloadItems items = some loaded) : reloadItems loaded = some loaded := by
  induction items generalizing loaded with
  | nil =>
    obtain rfl := Option.some.inj heq
    rfl
  | cons v rest ih =>
    obtain ⟨hv, hrest⟩ := List.forall_mem_cons.mp h
    obtain ⟨w, hw, heq⟩ := Option.bind_eq_some_iff.mp heq
    obtain ⟨ws, hws, heq⟩ := Option.bind_eq_some_iff.mp heq
    obtain rfl := Option.some.inj heq
    rw [reloadItems, hv w hw, ih hrest hws]
    rfl

private theorem reloadEntries_reloadEntries {entries loaded : List (PyScalar × PyValue)}
    (h : ∀ entry ∈ entries, ∀ w, entry.2.reload = some w → w.reload = some w)
    (heq : reloadEntries entries = some loaded) :
    reloadEntries loaded = some loaded ∧ (loaded.map Prod.fst).all PyScalar.isStr = true := by
  induction entries generalizing loaded with
  | nil =>
    obtain rfl := Option.some.inj heq
    exact ⟨rfl, rfl⟩
  | cons entry rest ih =>
    obtain ⟨key, v⟩ := entry
    obtain ⟨hv, hrest⟩ := List.forall_mem_cons.mp h
    obtain ⟨text, -, heq⟩ := Option.bind_eq_some_iff.mp heq
    obtain ⟨w, hw, heq⟩ := Option.bind_eq_some_iff.mp heq
    obtain ⟨ws, hws, heq⟩ := Option.bind_eq_some_iff.mp heq
    obtain rfl := Option.some.inj heq
    obtain ⟨hreloads, hkeys⟩ := ih hrest hws
    rw [reloadEntries, hv w hw, hreloads]
    exact ⟨rfl, hkeys⟩

/-- **What has been loaded** comes back unchanged. -/
theorem reload_reload {value copy : PyValue} (h : value.reload = some copy) :
    copy.reload = some copy := by
  induction value using PyValue.induction generalizing copy with
  | scalar s =>
    obtain ⟨t, ht, rfl⟩ := Option.map_eq_some_iff.mp h
    rw [reload, PyScalar.reload_reload ht]
    rfl
  | list items ih =>
    obtain ⟨loaded, hloaded, rfl⟩ := Option.map_eq_some_iff.mp h
    rw [reload, reloadItems_reloadItems (fun v hv _ => ih v hv) hloaded]
    rfl
  | tuple items ih =>
    obtain ⟨loaded, hloaded, rfl⟩ := Option.map_eq_some_iff.mp h
    rw [reload, reloadItems_reloadItems (fun v hv _ => ih v hv) hloaded]
    rfl
  | dict entries ih =>
    rw [reload] at h
    split at h
    · obtain ⟨loaded, hloaded, rfl⟩ := Option.map_eq_some_iff.mp h
      obtain ⟨hreload, hkeys⟩ := reloadEntries_reloadEntries (fun entry hentry _ =>
        ih entry hentry) hloaded
      rw [reload, PyScalar.sortable, hkeys, hreload]
      rfl
    · cases h

end PyValue
