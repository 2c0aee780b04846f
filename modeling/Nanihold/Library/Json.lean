import Mathlib.Data.List.Basic
import Nanihold.Library.PyValue

/-!
# Python text and the values of `json.loads`

A Python string is a sequence of code points. `json.loads` makes lone surrogates of escapes, so a
text that it gives may have no encoding; a value that holds one, or an integer with too many digits,
cannot be written down again.

## Main definitions

* `CodePoint`, `PyText` — Python text, with `PyText.ofString` and `PyText.decode?`.
* `JsonValue` — what `json.loads` gives.
* `JsonValue.isWritable` — the value has an encoded JSON text.

## Main results

* `PyText.decode?_eq_some_iff` — the texts with an encoding are those of strings.
* `JsonValue.fieldsOf_object`, `JsonValue.tupleOf_map` — what data models accept of written values.
-/

/-- A code point, surrogates included. -/
structure CodePoint where
  value : Nat
  value_lt : value < 0x110000
  deriving DecidableEq

namespace CodePoint

theorem valid_toNat (c : Char) : c.toNat.isValidChar := c.valid

def ofChar (c : Char) : CodePoint where
  value := c.toNat
  value_lt := by
    have := valid_toNat c
    unfold Nat.isValidChar at this
    omega

def toChar (p : CodePoint) : Char := Char.ofNat p.value

/-- The code point stands for half of a character in UTF-16. -/
def isSurrogate (p : CodePoint) : Bool := 0xD800 ≤ p.value && p.value ≤ 0xDFFF

theorem toChar_ofChar (c : Char) : (ofChar c).toChar = c := Char.ofNat_toNat c

theorem isSurrogate_ofChar (c : Char) : (ofChar c).isSurrogate = false := by
  have := valid_toNat c
  unfold Nat.isValidChar at this
  rw [isSurrogate, ← Bool.decide_and, decide_eq_false_iff_not]
  change ¬ (0xD800 ≤ c.toNat ∧ c.toNat ≤ 0xDFFF)
  omega

theorem ofChar_toChar {p : CodePoint} (h : p.isSurrogate = false) : ofChar p.toChar = p := by
  rw [isSurrogate, ← Bool.decide_and, decide_eq_false_iff_not] at h
  have hvalid : p.value.isValidChar := by
    have := p.value_lt
    unfold Nat.isValidChar
    omega
  have hvalue : p.toChar.toNat = p.value := by
    rw [toChar, Char.ofNat, dif_pos hvalid]
    rfl
  cases p
  exact (CodePoint.mk.injEq _ _ _ _).mpr hvalue

end CodePoint

/-- Python text. -/
abbrev PyText := List CodePoint

namespace PyText

/-- The code points of a string. -/
def ofString (s : String) : PyText := s.toList.map .ofChar

/-- The text has an encoding. -/
def isEncodable (t : PyText) : Bool := t.all fun p => !p.isSurrogate

/-- The string with the code points of a text, if it has an encoding. -/
def decode? (t : PyText) : Option String :=
  if t.isEncodable then some (String.ofList (t.map CodePoint.toChar)) else none

theorem isEncodable_ofString (s : String) : (ofString s).isEncodable = true := by
  rw [isEncodable, ofString, List.all_map, List.all_eq_true]
  intro c _
  rw [Function.comp_apply, CodePoint.isSurrogate_ofChar, Bool.not_false]

theorem decode?_eq_some_iff {t : PyText} {s : String} : t.decode? = some s ↔ t = ofString s := by
  constructor
  · intro h
    rw [decode?] at h
    split_ifs at h with hencodable
    obtain rfl := Option.some.inj h
    rw [isEncodable, List.all_eq_true] at hencodable
    rw [ofString, String.toList_ofList, List.map_map]
    refine (List.map_id t).symm.trans (List.map_congr_left fun p hp => ?_)
    have hp := hencodable p hp
    rw [Bool.not_eq_true'] at hp
    exact (CodePoint.ofChar_toChar hp).symm
  · rintro rfl
    have hmap : (ofString s).map CodePoint.toChar = s.toList := by
      rw [ofString, List.map_map]
      exact (List.map_congr_left fun c _ => CodePoint.toChar_ofChar c).trans (List.map_id _)
    rw [decode?, if_pos (isEncodable_ofString s), hmap, String.ofList_toList]

theorem ofString_injective : Function.Injective ofString := by
  intro s s' h
  have hs : (ofString s).decode? = some s := decode?_eq_some_iff.mpr rfl
  rw [h, decode?_eq_some_iff.mpr rfl] at hs
  exact (Option.some.inj hs).symm

end PyText

/-- What `json.loads` gives; of two members with one name it keeps the last. -/
inductive JsonValue where
  | null
  | bool (b : Bool)
  | int (n : Int)
  /-- A float, by the integer that it equals, if it equals one. -/
  | float (integral : Option Int)
  | text (t : PyText)
  | list (items : List JsonValue)
  | dict (entries : List (PyText × JsonValue))

/-- The members of a JSON object. -/
abbrev JsonMembers := List (PyText × JsonValue)

namespace JsonValue

/-- The text of a string. -/
def str (s : String) : JsonValue := .text (.ofString s)

/-- An object with the given members. -/
def object (fields : List (String × JsonValue)) : JsonValue :=
  .dict (fields.map fun field => (.ofString field.1, field.2))

/-- `isinstance(value, dict)`. -/
def asObject : JsonValue → Option JsonMembers
  | .dict entries => some entries
  | _ => none

/-- `isinstance(value, str)`. -/
def asText : JsonValue → Option PyText
  | .text t => some t
  | _ => none

/-- `isinstance(value, int) and not isinstance(value, bool)`. -/
def asInteger : JsonValue → Option Int
  | .int n => some n
  | _ => none

theorem asObject_eq_some_iff {v : JsonValue} {entries : JsonMembers} :
    v.asObject = some entries ↔ v = .dict entries := by
  cases v with
  | dict members => exact ⟨fun h => congrArg _ (Option.some.inj h), fun h => by cases h; rfl⟩
  | null | bool _ | int _ | float _ | text _ | list _ =>
    exact iff_of_false (fun h => by cases h) fun h => by cases h

theorem asText_eq_some_iff {v : JsonValue} {t : PyText} : v.asText = some t ↔ v = .text t := by
  cases v with
  | text u => exact ⟨fun h => congrArg _ (Option.some.inj h), fun h => by cases h; rfl⟩
  | null | bool _ | int _ | float _ | dict _ | list _ =>
    exact iff_of_false (fun h => by cases h) fun h => by cases h

theorem asInteger_eq_some_iff {v : JsonValue} {n : Int} : v.asInteger = some n ↔ v = .int n := by
  cases v with
  | int m => exact ⟨fun h => congrArg _ (Option.some.inj h), fun h => by cases h; rfl⟩
  | null | bool _ | text _ | float _ | dict _ | list _ =>
    exact iff_of_false (fun h => by cases h) fun h => by cases h

mutual

/-- The value has an encoded JSON text. -/
def isWritable : JsonValue → Bool
  | .null | .bool _ | .float _ => true
  | .int n => PyScalar.writable n
  | .text t => t.isEncodable
  | .list items => areWritable items
  | .dict entries => haveWritable entries

def areWritable : List JsonValue → Bool
  | [] => true
  | v :: rest => isWritable v && areWritable rest

def haveWritable : List (PyText × JsonValue) → Bool
  | [] => true
  | (name, v) :: rest => name.isEncodable && isWritable v && haveWritable rest

end

theorem areWritable_iff {items : List JsonValue} :
    areWritable items = true ↔ ∀ v ∈ items, v.isWritable = true := by
  induction items with
  | nil => exact iff_of_true rfl fun _ h => by cases h
  | cons v rest ih => rw [areWritable, Bool.and_eq_true, ih, List.forall_mem_cons]

theorem haveWritable_iff {entries : JsonMembers} :
    haveWritable entries = true ↔
      ∀ entry ∈ entries, entry.1.isEncodable = true ∧ entry.2.isWritable = true := by
  induction entries with
  | nil => exact iff_of_true rfl fun _ h => by cases h
  | cons entry rest ih =>
    rw [haveWritable, Bool.and_eq_true, Bool.and_eq_true, ih, List.forall_mem_cons]

end JsonValue

namespace JsonMembers

/-- `value.get(name)`. -/
def get? (entries : JsonMembers) (name : String) : Option JsonValue :=
  entries.lookup (.ofString name)

/-- The object has exactly the given names. -/
def HasExactly (entries : JsonMembers) (names : List String) : Prop :=
  (∀ entry ∈ entries, ∃ name ∈ names, entry.1 = .ofString name) ∧
    ∀ name ∈ names, (entries.get? name).isSome = true

instance (entries : JsonMembers) (names : List String) : Decidable (entries.HasExactly names) :=
  inferInstanceAs (Decidable (_ ∧ _))

/-- A member of a written object. -/
theorem get?_object (fields : List (String × JsonValue)) (name : String) :
    get? (fields.map fun field => (PyText.ofString field.1, field.2)) name =
      fields.lookup name := by
  induction fields with
  | nil => rfl
  | cons field rest ih =>
    obtain ⟨known, value⟩ := field
    by_cases h : name = known
    · subst h
      simp [get?, List.lookup]
    · have hne : PyText.ofString name ≠ PyText.ofString known := fun heq =>
        h (PyText.ofString_injective heq)
      rw [List.map_cons, get?, List.lookup_cons, List.lookup_cons, beq_false_of_ne hne,
        beq_false_of_ne h]
      exact ih

theorem hasExactly_object_iff {fields : List (String × JsonValue)} {names : List String} :
    HasExactly (fields.map fun field => (PyText.ofString field.1, field.2)) names ↔
      (∀ field ∈ fields, field.1 ∈ names) ∧
        ∀ name ∈ names, (fields.lookup name).isSome = true := by
  simp only [HasExactly, get?_object, List.forall_mem_map]
  refine and_congr_left fun _ => forall₂_congr fun field _ => ?_
  constructor
  · rintro ⟨name, hname, heq⟩
    rwa [PyText.ofString_injective heq]
  · exact fun h => ⟨field.1, h, rfl⟩

end JsonMembers

/-! ### What data models accept -/

namespace JsonValue

/-- What the data models accept as a boolean. -/
def laxBool : JsonValue → Option Bool
  | .bool b => some b
  | .int n | .float (some n) => if n = 0 then some false else if n = 1 then some true else none
  | .text t => t.decode?.bind fun s =>
      if s.toLower ∈ ["0", "f", "n", "no", "off", "false"] then some false
      else if s.toLower ∈ ["1", "t", "y", "yes", "on", "true"] then some true
      else none
  | _ => none

/-- What they accept as a string. -/
def modelText (value : JsonValue) : Option String := value.asText.bind PyText.decode?

/-- What they accept as a string of at least one character. -/
def nonEmptyText (value : JsonValue) : Option String := value.modelText.filter (· ≠ "")

/-- What they accept as a tuple. -/
def tupleOf {α : Type} (item : JsonValue → Option α) : JsonValue → Option (List α)
  | .list items => items.mapM item
  | _ => none

/-- An object without other fields than the given ones. -/
def fieldsOf (names : List String) (value : JsonValue) : Option JsonMembers :=
  value.asObject.filter fun entries => entries.HasExactly names

/-! ### What they accept of written values -/

/-- A written object that has exactly the given fields. -/
theorem fieldsOf_object {fields : List (String × JsonValue)} {names : List String}
    (hknown : ∀ field ∈ fields, field.1 ∈ names)
    (hgiven : ∀ name ∈ names, (fields.lookup name).isSome = true) :
    (object fields).fieldsOf names =
      some (fields.map fun field => (PyText.ofString field.1, field.2)) := by
  rw [fieldsOf, Option.filter_eq_some_iff]
  exact ⟨rfl, decide_eq_true (JsonMembers.hasExactly_object_iff.mpr ⟨hknown, hgiven⟩)⟩

@[simp] theorem modelText_str (s : String) : (str s).modelText = some s :=
  PyText.decode?_eq_some_iff.mpr rfl

/-- A written list, of which each item is read back. -/
theorem tupleOf_map {α β : Type} {item : JsonValue → Option α} {write : β → JsonValue}
    {read : β → α} (h : ∀ b, item (write b) = some (read b)) (items : List β) :
    tupleOf item (.list (items.map write)) = some (items.map read) := by
  change (items.map write).mapM item = _
  induction items with
  | nil => rfl
  | cons b rest ih =>
    rw [List.map_cons, List.mapM_cons, h, ih]
    rfl

end JsonValue
