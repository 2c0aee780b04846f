import Mathlib
import Nanihold.Errors
import Nanihold.Library.PaddedLex

/-!
# CLI versions

The version grammar of `vsm.environment.contracts` and `_compare_versions` of `vsm.preflight`. The
comparison splits a version at its dots and reads each item up to its first hyphen, so it knows
neither build metadata nor the identifiers of a pre-release.

## Main definitions

* `isCliVersion` — `_CLI_VERSION.fullmatch`.
* `compareVersions` — `_compare_versions`.
* `VersionLaw` — what a comparison of versions owes to a set of them.
* `Comparable` — the versions that the comparison reads as they are meant.

## Main results

* `versionLaw_iff` — the law holds of a set of versions exactly if all of them are comparable.
-/

namespace Nanihold

/-- The exceptions of `vsm.preflight`, and those that it lets pass. -/
inductive PreflightError where
  /-- `PreflightError` itself: the trial, the clock or a hook failed. -/
  | trial (message : String)
  /-- `VersionReadError`. -/
  | versionRead (message : String)
  /-- `PreflightContractError`. -/
  | contract (message : String)
  /-- `PreflightCacheError`. -/
  | cache (message : String)
  /-- An exception of another class. -/
  | foreign (message : String)
  deriving DecidableEq

/-! ### The grammar -/

/-- The class `[A-Za-z0-9.-]`. -/
def isVersionSuffixChar (c : Char) : Bool := c.isAlphanum || c == '.' || c == '-'

/-- `(?:[-+][A-Za-z0-9.-]+)?` up to the end. -/
def matchesVersionSuffix : List Char → Bool
  | [] => true
  | c :: rest => (c == '-' || c == '+') && !rest.isEmpty && rest.all isVersionSuffixChar

/-- `(?:\.[0-9]+){0,n}`, followed by the suffix. -/
def matchesVersionNumbers : ℕ → List Char → Bool
  | n + 1, '.' :: rest =>
    !(rest.takeWhile Char.isDigit).isEmpty &&
      matchesVersionNumbers n (rest.dropWhile Char.isDigit)
  | _, rest => matchesVersionSuffix rest

/-- `_CLI_VERSION.fullmatch`. -/
def isCliVersion (version : String) : Bool :=
  !(version.toList.takeWhile Char.isDigit).isEmpty &&
    match version.toList.dropWhile Char.isDigit with
    | '.' :: rest => matchesVersionNumbers 3 ('.' :: rest)
    | _ => false

/-! ### The comparison -/

/-- The value of decimal digits. -/
def digitsValue (digits : List Char) : ℕ :=
  digits.foldl (fun value c => 10 * value + (c.toNat - '0'.toNat)) 0

/-- `int(numeric)` of a string of digits; the interpreter converts 4300 of them at most. -/
def pyInt (digits : List Char) : Except PreflightError ℕ := do
  Checked.check (digits.length ≤ 4300)
    (.foreign "Exceeds the limit (4300 digits) for integer string conversion")
  return digitsValue digits

/-- `item.split("-", 1)[0]`. -/
def numericItem (item : List Char) : List Char := item.takeWhile (· ≠ '-')

/-- One item of `parts`; the version is ASCII text. -/
def versionPart (value : String) (item : List Char) : Except PreflightError ℕ := do
  let numeric := numericItem item
  Checked.check (numeric ≠ [] ∧ numeric.all Char.isDigit = true)
    (.contract s!"CLI version is not numeric: {value}")
  pyInt numeric

/-- `parts` of `_compare_versions`. -/
def versionParts (value : String) : Except PreflightError (List ℕ) :=
  (value.toList.splitOn '.').mapM (versionPart value)

/-- `_compare_versions`. -/
def compareVersions (left right : String) : Except PreflightError ℤ := do
  let leftParts ← versionParts left
  let rightParts ← versionParts right
  let width := max leftParts.length rightParts.length
  let paddedLeft := PaddedLex.pad 0 width leftParts
  let paddedRight := PaddedLex.pad 0 width rightParts
  return (if paddedRight < paddedLeft then 1 else 0) - (if paddedLeft < paddedRight then 1 else 0)

/-! ### What a comparison owes -/

/-- The characters before the suffix. -/
def versionCore (version : String) : List Char :=
  version.toList.takeWhile fun c => c ≠ '-' && c ≠ '+'

/-- The suffix, with the character that introduces it. -/
def versionSuffix (version : String) : List Char :=
  version.toList.dropWhile fun c => c ≠ '-' && c ≠ '+'

/-- The version without its suffix. -/
def releaseOf (version : String) : String := String.ofList (versionCore version)

/-- The suffix is that of a pre-release, and no build metadata. -/
def isPreRelease (version : String) : Bool := (versionSuffix version).head? = some '-'

/-- The numbers of the core. -/
def coreNumbers (version : String) : List ℕ :=
  ((versionCore version).splitOn '.').map digitsValue

/-- Where a version stands by its core, component by component. -/
def coreRank (version : String) : Lex (ℕ → ℕ) := PaddedLex.entries 0 (coreNumbers version)

/-- The comparison returns, and does not put the first version above the second. -/
def NotAbove (v w : String) : Prop := ∃ c, compareVersions v w = .ok c ∧ c ≤ 0

/-- **The law of a set of versions**: their comparison is a total preorder in which the cores
decide, build metadata is ignored and no pre-release ranks above a release of its core, its own
release included. A version below a minimum by its core is therefore told apart from it. -/
structure VersionLaw (versions : Set String) : Prop where
  defined : ∀ v ∈ versions, ∀ w ∈ versions, ∃ c, compareVersions v w = .ok c
  total : ∀ v ∈ versions, ∀ w ∈ versions, NotAbove v w ∨ NotAbove w v
  trans : ∀ u ∈ versions, ∀ v ∈ versions, ∀ w ∈ versions,
    NotAbove u v → NotAbove v w → NotAbove u w
  core : ∀ v ∈ versions, ∀ w ∈ versions, coreRank v < coreRank w →
    compareVersions v w = .ok (-1) ∧ compareVersions w v = .ok 1
  build : ∀ v ∈ versions, ∀ w ∈ versions, coreRank v = coreRank w →
    isPreRelease v = false → isPreRelease w = false → compareVersions v w = .ok 0
  pre_release : ∀ v ∈ versions, ∀ w ∈ versions, coreRank v = coreRank w →
    isPreRelease v = true → isPreRelease w = false → NotAbove v w
  own_release : ∀ v ∈ versions, isPreRelease v = true → NotAbove v (releaseOf v)

/-- A version that the comparison reads as it is meant: it carries no build metadata, the
identifiers of its pre-release after the first begin with zeros alone, and no number is too long to
be converted. -/
structure Comparable (version : String) : Prop where
  no_build : '+' ∉ version.toList
  zero_identifiers : ∀ item ∈ ((versionSuffix version).splitOn '.').tail,
    numericItem item ≠ [] ∧ ∀ c ∈ numericItem item, c = '0'
  short : ∀ item ∈ version.toList.splitOn '.', (numericItem item).length ≤ 4300

/-! ### Reading the grammar -/

/-- The item is a non-empty string of digits. -/
def IsNumeral (item : List Char) : Prop := item ≠ [] ∧ ∀ c ∈ item, c.isDigit = true

/-- The shape that the grammar gives to a version. -/
structure VersionShape (version : String) : Prop where
  core : ∀ item ∈ (versionCore version).splitOn '.', IsNumeral item
  suffix : matchesVersionSuffix (versionSuffix version) = true

theorem splitOn_append_of_notMem {xs : List Char} (ys : List Char) (h : '.' ∉ xs) :
    (xs ++ ys).splitOn '.' = (ys.splitOn '.').modifyHead (xs ++ ·) := by
  induction xs with
  | nil => exact (congrFun List.modifyHead_id (ys.splitOn '.')).symm
  | cons x xs ih =>
    have hx : ¬(x == '.') = true := fun heq => h (by
      rw [beq_iff_eq.mp heq]
      exact List.mem_cons_self)
    rw [List.cons_append, List.splitOn_cons_eq_if_modifyHead,
      ih fun hmem => h (List.mem_cons_of_mem x hmem), List.modifyHead_modifyHead, if_neg hx]
    rfl

/-- The characters of a core. -/
private def isCoreChar (c : Char) : Bool := c ≠ '-' && c ≠ '+'

private theorem isCoreChar_of_isDigit {c : Char} (h : c.isDigit = true) :
    isCoreChar c = true ∧ c ≠ '.' := by
  refine ⟨?_, fun heq => ?_⟩
  · rw [isCoreChar, Bool.and_eq_true, decide_eq_true_iff, decide_eq_true_iff]
    constructor <;> rintro rfl <;> cases h
  · rw [heq] at h
    cases h

private theorem matchesVersionSuffix_cases {l : List Char} (h : matchesVersionSuffix l = true) :
    l = [] ∨ ∃ c rest, l = c :: rest ∧ (c = '-' ∨ c = '+') ∧
      ∀ x ∈ rest, isVersionSuffixChar x = true := by
  cases l with
  | nil => exact Or.inl rfl
  | cons c rest =>
    rw [matchesVersionSuffix, Bool.and_eq_true, Bool.and_eq_true, Bool.or_eq_true, beq_iff_eq,
      beq_iff_eq, List.all_eq_true] at h
    exact Or.inr ⟨c, rest, rfl, h.1.1, h.2⟩

/-- A suffix has no core before it. -/
private theorem core_of_matchesVersionSuffix {l : List Char} (h : matchesVersionSuffix l = true) :
    l.takeWhile isCoreChar = [] ∧ l.dropWhile isCoreChar = l := by
  obtain rfl | ⟨c, rest, rfl, rfl | rfl, -⟩ := matchesVersionSuffix_cases h
  · exact ⟨rfl, rfl⟩
  · exact ⟨rfl, rfl⟩
  · exact ⟨rfl, rfl⟩

private theorem core_digits_append (l : List Char) :
    l.takeWhile isCoreChar =
        l.takeWhile Char.isDigit ++ (l.dropWhile Char.isDigit).takeWhile isCoreChar ∧
      l.dropWhile isCoreChar = (l.dropWhile Char.isDigit).dropWhile isCoreChar := by
  induction l with
  | nil => exact ⟨rfl, rfl⟩
  | cons c l ih =>
    by_cases hc : c.isDigit = true
    · have hcore := (isCoreChar_of_isDigit hc).1
      rw [List.takeWhile_cons_of_pos hc, List.dropWhile_cons_of_pos hc,
        List.takeWhile_cons_of_pos hcore, List.dropWhile_cons_of_pos hcore, ih.1, ih.2]
      exact ⟨rfl, rfl⟩
    · rw [List.takeWhile_cons_of_neg hc, List.dropWhile_cons_of_neg hc]
      exact ⟨rfl, rfl⟩

private theorem isNumeral_takeWhile {l : List Char}
    (h : (!(l.takeWhile Char.isDigit).isEmpty) = true) : IsNumeral (l.takeWhile Char.isDigit) := by
  refine ⟨fun hnil => ?_, fun c hc => List.mem_takeWhile_imp hc⟩
  rw [hnil] at h
  cases h

/-- The items of `digits ++ rest` are those of `rest`, with the digits at the first. -/
private theorem splitOn_core_digits {l : List Char} {items : List (List Char)}
    (h : ((l.dropWhile Char.isDigit).takeWhile isCoreChar).splitOn '.' = [] :: items) :
    (l.takeWhile isCoreChar).splitOn '.' = l.takeWhile Char.isDigit :: items := by
  rw [(core_digits_append l).1, splitOn_append_of_notMem _ fun hmem =>
    (isCoreChar_of_isDigit (List.mem_takeWhile_imp hmem)).2 rfl, h, List.modifyHead_cons,
    List.append_nil]

private theorem shape_of_matchesVersionNumbers {n : ℕ} {l : List Char}
    (h : matchesVersionNumbers n l = true) :
    ∃ items, (l.takeWhile isCoreChar).splitOn '.' = [] :: items ∧ (∀ item ∈ items, IsNumeral item) ∧
      matchesVersionSuffix (l.dropWhile isCoreChar) = true := by
  have hsuffix : ∀ {l : List Char}, matchesVersionSuffix l = true →
      ∃ items, (l.takeWhile isCoreChar).splitOn '.' = [] :: items ∧
        (∀ item ∈ items, IsNumeral item) ∧
        matchesVersionSuffix (l.dropWhile isCoreChar) = true := by
    intro l h
    rw [(core_of_matchesVersionSuffix h).1, (core_of_matchesVersionSuffix h).2]
    exact ⟨[], List.splitOn_nil _, List.forall_mem_nil _, h⟩
  induction n generalizing l with
  | zero => exact hsuffix h
  | succ n ih =>
    cases l with
    | nil => exact hsuffix h
    | cons c l =>
      by_cases hdot : c = '.'
      · rw [hdot, matchesVersionNumbers, Bool.and_eq_true] at h
        obtain ⟨items, hsplit, hitems, hrest⟩ := ih h.2
        have hcore : isCoreChar '.' = true := rfl
        refine ⟨l.takeWhile Char.isDigit :: items, ?_,
          List.forall_mem_cons.mpr ⟨isNumeral_takeWhile h.1, hitems⟩, ?_⟩
        · rw [hdot, List.takeWhile_cons_of_pos hcore, List.splitOn_cons_eq_if_modifyHead,
            if_pos (beq_self_eq_true '.'), splitOn_core_digits hsplit]
        · rw [hdot, List.dropWhile_cons_of_pos hcore, (core_digits_append l).2]
          exact hrest
      · rw [matchesVersionNumbers] at h
        · exact hsuffix h
        · exact fun _ _ _ heq => hdot (List.cons.inj heq).1

theorem versionShape_of_isCliVersion {version : String} (h : isCliVersion version = true) :
    VersionShape version := by
  rw [isCliVersion, Bool.and_eq_true] at h
  obtain ⟨hfirst, hrest⟩ := h
  have hnumbers : matchesVersionNumbers 3 (version.toList.dropWhile Char.isDigit) = true := by
    split at hrest
    · next rest heq =>
      rw [heq]
      exact hrest
    · cases hrest
  obtain ⟨items, hsplit, hitems, hsuffix⟩ := shape_of_matchesVersionNumbers hnumbers
  constructor
  · change ∀ item ∈ (version.toList.takeWhile isCoreChar).splitOn '.', IsNumeral item
    rw [splitOn_core_digits hsplit]
    exact List.forall_mem_cons.mpr ⟨isNumeral_takeWhile hfirst, hitems⟩
  · change matchesVersionSuffix (version.toList.dropWhile isCoreChar) = true
    rw [(core_digits_append _).2]
    exact hsuffix

/-! ### What the comparison reads -/

/-- An item that the comparison can read. -/
def IsReadable (item : List Char) : Prop :=
  IsNumeral (numericItem item) ∧ (numericItem item).length ≤ 4300

/-- The number that the comparison reads in an item. -/
def itemNumber (item : List Char) : ℕ := digitsValue (numericItem item)

/-- The items of a version. -/
def versionItems (version : String) : List (List Char) := version.toList.splitOn '.'

theorem versionPart_eq_ok_iff {value : String} {item : List Char} {n : ℕ} :
    versionPart value item = .ok n ↔ IsReadable item ∧ itemNumber item = n := by
  rw [versionPart, Checked.check_bind_eq_ok_iff, pyInt, Checked.check_bind_eq_ok_iff,
    Checked.pure_eq_ok_iff, ← and_assoc, List.all_eq_true]
  rfl

theorem mapM_versionPart_eq_ok_iff {value : String} {items : List (List Char)} {ns : List ℕ} :
    items.mapM (versionPart value) = .ok ns ↔
      (∀ item ∈ items, IsReadable item) ∧ items.map itemNumber = ns := by
  induction items generalizing ns with
  | nil =>
    rw [List.mapM_nil, Checked.pure_eq_ok_iff]
    exact (and_iff_right (List.forall_mem_nil _)).symm
  | cons item items ih =>
    rw [List.mapM_cons, Checked.bind_eq_ok_iff, List.forall_mem_cons, List.map_cons]
    constructor
    · rintro ⟨n, hn, h⟩
      obtain ⟨rest, hrest, h⟩ := Checked.bind_eq_ok_iff.mp h
      obtain ⟨hitem, rfl⟩ := versionPart_eq_ok_iff.mp hn
      obtain ⟨hitems, rfl⟩ := ih.mp hrest
      exact ⟨⟨hitem, hitems⟩, Checked.pure_eq_ok_iff.mp h⟩
    · rintro ⟨⟨hitem, hitems⟩, rfl⟩
      exact ⟨_, versionPart_eq_ok_iff.mpr ⟨hitem, rfl⟩,
        Checked.bind_eq_ok_iff.mpr ⟨_, ih.mpr ⟨hitems, rfl⟩, rfl⟩⟩

/-- **The comparison reads** a version whose items all begin with a short number. -/
theorem versionParts_eq_ok_iff {version : String} {ns : List ℕ} :
    versionParts version = .ok ns ↔
      (∀ item ∈ versionItems version, IsReadable item) ∧
        (versionItems version).map itemNumber = ns :=
  mapM_versionPart_eq_ok_iff

section Compare

variable {v w : String} {a b : List ℕ}

/-- The comparison of two versions that can be read. -/
private theorem compareVersions_of_parts (hv : versionParts v = .ok a)
    (hw : versionParts w = .ok b) (above below : Prop) [Decidable above] [Decidable below]
    (habove : PaddedLex.entries 0 b < PaddedLex.entries 0 a ↔ above)
    (hbelow : PaddedLex.entries 0 a < PaddedLex.entries 0 b ↔ below) :
    compareVersions v w = .ok ((if above then 1 else 0) - (if below then 1 else 0)) := by
  have ha : a.length ≤ max a.length b.length := le_max_left ..
  have hb : b.length ≤ max a.length b.length := le_max_right ..
  rw [compareVersions, hv, hw]
  refine congrArg Except.ok (congrArg₂ (· - ·) ?_ ?_)
  · exact if_congr ((PaddedLex.pad_lt_pad_iff 0 hb ha).trans habove) rfl rfl
  · exact if_congr ((PaddedLex.pad_lt_pad_iff 0 ha hb).trans hbelow) rfl rfl

theorem compareVersions_of_lt (hv : versionParts v = .ok a) (hw : versionParts w = .ok b)
    (h : PaddedLex.entries 0 a < PaddedLex.entries 0 b) :
    compareVersions v w = .ok (-1) ∧ compareVersions w v = .ok 1 := by
  constructor
  · exact compareVersions_of_parts hv hw False True (iff_false_intro h.asymm) (iff_true_intro h)
  · exact compareVersions_of_parts hw hv True False (iff_true_intro h) (iff_false_intro h.asymm)

theorem compareVersions_of_eq (hv : versionParts v = .ok a) (hw : versionParts w = .ok b)
    (h : PaddedLex.entries 0 a = PaddedLex.entries 0 b) : compareVersions v w = .ok 0 :=
  compareVersions_of_parts hv hw False False (iff_false_intro h.not_gt)
    (iff_false_intro h.not_lt)

theorem notAbove_iff (hv : versionParts v = .ok a) (hw : versionParts w = .ok b) :
    NotAbove v w ↔ PaddedLex.entries 0 a ≤ PaddedLex.entries 0 b := by
  rcases lt_trichotomy (PaddedLex.entries 0 a) (PaddedLex.entries 0 b) with hlt | heq | hgt
  · exact iff_of_true ⟨-1, (compareVersions_of_lt hv hw hlt).1, by decide⟩ hlt.le
  · exact iff_of_true ⟨0, compareVersions_of_eq hv hw heq, le_rfl⟩ heq.le
  · refine iff_of_false ?_ hgt.not_ge
    rintro ⟨c, hc, hle⟩
    rw [(compareVersions_of_lt hw hv hgt).2] at hc
    obtain rfl := Except.ok.inj hc
    exact absurd hle (by decide)

/-- Versions that can be read are compared. -/
theorem exists_compareVersions (hv : versionParts v = .ok a) (hw : versionParts w = .ok b) :
    ∃ c, compareVersions v w = .ok c := by
  rcases lt_trichotomy (PaddedLex.entries 0 a) (PaddedLex.entries 0 b) with hlt | heq | hgt
  · exact ⟨-1, (compareVersions_of_lt hv hw hlt).1⟩
  · exact ⟨0, compareVersions_of_eq hv hw heq⟩
  · exact ⟨1, (compareVersions_of_lt hw hv hgt).2⟩

/-- A comparison that returns has read both versions. -/
theorem versionParts_of_compareVersions {c : ℤ} (h : compareVersions v w = .ok c) :
    (∃ a, versionParts v = .ok a) ∧ ∃ b, versionParts w = .ok b := by
  obtain ⟨a, hv, h⟩ := Checked.bind_eq_ok_iff.mp h
  obtain ⟨b, hw, -⟩ := Checked.bind_eq_ok_iff.mp h
  exact ⟨⟨a, hv⟩, b, hw⟩

end Compare

/-! ### Comparable versions -/

theorem digitsValue_eq_zero_iff {digits : List Char} (h : ∀ c ∈ digits, c.isDigit = true) :
    digitsValue digits = 0 ↔ ∀ c ∈ digits, c = '0' := by
  induction digits using List.reverseRecOn with
  | nil => exact iff_of_true rfl (List.forall_mem_nil _)
  | append_singleton digits c ih =>
    rw [List.forall_mem_append] at h
    have hc : c.isDigit = true := h.2 c (List.mem_singleton_self c)
    rw [List.forall_mem_append, List.forall_mem_singleton, ← ih h.1, digitsValue,
      List.foldl_concat]
    change 10 * digitsValue digits + (c.toNat - '0'.toNat) = 0 ↔ _
    have hle : '0'.toNat ≤ c.toNat := (Char.isDigit_iff_toNat.mp hc).1
    have hzero : c.toNat - '0'.toNat = 0 ↔ c = '0' := by
      rw [← Char.toNat_inj]
      omega
    rw [← hzero]
    omega

/-- Text after the last item goes on with that item. -/
theorem exists_splitOn_append (xs : List Char) :
    ∃ front last, xs.splitOn '.' = front ++ [last] ∧
      ∀ ys : List Char, (xs ++ ys).splitOn '.' =
        front ++ (ys.splitOn '.').modifyHead (last ++ ·) := by
  induction xs with
  | nil => exact ⟨[], [], rfl, fun ys => splitOn_append_of_notMem ys List.not_mem_nil⟩
  | cons x xs ih =>
    obtain ⟨front, last, hxs, happend⟩ := ih
    by_cases hx : (x == '.') = true
    · refine ⟨[] :: front, last, ?_, fun ys => ?_⟩
      · rw [List.splitOn_cons_eq_if_modifyHead, if_pos hx, hxs, List.cons_append]
      · rw [List.cons_append, List.splitOn_cons_eq_if_modifyHead, if_pos hx, happend,
          List.cons_append]
    · cases front with
      | nil =>
        refine ⟨[], x :: last, ?_, fun ys => ?_⟩
        · rw [List.splitOn_cons_eq_if_modifyHead, if_neg hx, hxs]
          rfl
        · rw [List.cons_append, List.splitOn_cons_eq_if_modifyHead, if_neg hx, happend,
            List.nil_append, List.modifyHead_modifyHead]
          rfl
      | cons first front =>
        refine ⟨(x :: first) :: front, last, ?_, fun ys => ?_⟩
        · rw [List.splitOn_cons_eq_if_modifyHead, if_neg hx, hxs]
          rfl
        · rw [List.cons_append, List.splitOn_cons_eq_if_modifyHead, if_neg hx, happend]
          rfl

theorem IsNumeral.ne_hyphen {item : List Char} (h : IsNumeral item) :
    ∀ c ∈ item, decide (c ≠ '-') = true := by
  intro c hc
  refine decide_eq_true fun heq => ?_
  have hdigit := h.2 c hc
  rw [heq] at hdigit
  cases hdigit

theorem numericItem_of_isNumeral {item : List Char} (h : IsNumeral item) (rest : List Char) :
    numericItem (item ++ '-' :: rest) = item ∧ numericItem item = item := by
  refine ⟨?_, List.takeWhile_eq_self_iff.mpr h.ne_hyphen⟩
  rw [numericItem, List.takeWhile_append_of_pos h.ne_hyphen]
  exact List.append_nil _

theorem map_numericItem {items : List (List Char)} (h : ∀ item ∈ items, IsNumeral item) :
    items.map numericItem = items :=
  (List.map_congr_left fun item hitem => (numericItem_of_isNumeral (h item hitem) []).2).trans
    (List.map_id items)

section Shape

variable {version : String}

theorem versionCore_append_versionSuffix (version : String) :
    versionCore version ++ versionSuffix version = version.toList :=
  List.takeWhile_append_dropWhile

/-- The identifiers of a suffix after the first. -/
def laterIdentifiers (version : String) : List (List Char) :=
  ((versionSuffix version).splitOn '.').tail

/-- **The numerals read** in a version without build metadata are those of its core and those at
the beginnings of its later identifiers. -/
theorem VersionShape.numericItems_eq (h : VersionShape version) (hbuild : '+' ∉ version.toList) :
    (versionItems version).map numericItem =
      (versionCore version).splitOn '.' ++ (laterIdentifiers version).map numericItem := by
  obtain ⟨front, last, hcore, happend⟩ := exists_splitOn_append (versionCore version)
  have hnumeral := h.core
  rw [hcore, List.forall_mem_append, List.forall_mem_singleton] at hnumeral
  rw [versionItems, ← versionCore_append_versionSuffix, happend, hcore, List.map_append,
    map_numericItem hnumeral.1, List.append_assoc, laterIdentifiers]
  refine congrArg (front ++ ·) ?_
  obtain hnil | ⟨c, rest, hsuffix, rfl | rfl, -⟩ := matchesVersionSuffix_cases h.suffix
  · rw [hnil]
    change [numericItem (last ++ [])] = [last]
    rw [List.append_nil, (numericItem_of_isNumeral hnumeral.2 []).2]
  · rw [hsuffix, List.splitOn_cons_eq_if_modifyHead, if_neg (by decide)]
    obtain ⟨first, later, hrest⟩ := List.exists_cons_of_ne_nil (List.splitOn_ne_nil '.' rest)
    rw [hrest]
    change numericItem (last ++ '-' :: first) :: later.map numericItem = _
    rw [(numericItem_of_isNumeral hnumeral.2 first).1]
    rfl
  · refine absurd ?_ hbuild
    rw [← versionCore_append_versionSuffix, hsuffix]
    exact List.mem_append_right _ List.mem_cons_self

/-- Build metadata stops the comparison. -/
theorem VersionShape.exists_not_isReadable (h : VersionShape version)
    (hbuild : '+' ∈ version.toList) : ∃ item ∈ versionItems version, ¬IsReadable item := by
  obtain ⟨front, last, hcore, happend⟩ := exists_splitOn_append (versionCore version)
  have hnumeral := h.core
  rw [hcore, List.forall_mem_append, List.forall_mem_singleton] at hnumeral
  rw [← versionCore_append_versionSuffix, List.mem_append] at hbuild
  rw [versionItems, ← versionCore_append_versionSuffix, happend]
  have hsuffix : '+' ∈ versionSuffix version := hbuild.resolve_left fun hmem => by
    cases List.mem_takeWhile_imp hmem
  obtain hnil | ⟨c, rest, heq, rfl | rfl, hrest⟩ := matchesVersionSuffix_cases h.suffix
  · rw [hnil] at hsuffix
    cases hsuffix
  · rw [heq, List.mem_cons] at hsuffix
    cases hrest '+' (hsuffix.resolve_left (by decide))
  · obtain ⟨first, later, hsplit⟩ := List.exists_cons_of_ne_nil (List.splitOn_ne_nil '.' rest)
    rw [heq, List.splitOn_cons_eq_if_modifyHead, if_neg (by decide), hsplit]
    refine ⟨last ++ '+' :: first, List.mem_append_right _ List.mem_cons_self, fun hread => ?_⟩
    have hmem : '+' ∈ numericItem (last ++ '+' :: first) := by
      rw [numericItem, List.takeWhile_append_of_pos hnumeral.2.ne_hyphen]
      exact List.mem_append_right _ List.mem_cons_self
    cases hread.1.2 '+' hmem

/-- The comparison reads a version without build metadata as its core, followed by the numbers at
the beginnings of its later identifiers. -/
theorem VersionShape.itemNumbers_eq (h : VersionShape version) (hbuild : '+' ∉ version.toList) :
    (versionItems version).map itemNumber =
      coreNumbers version ++ (laterIdentifiers version).map itemNumber := by
  have hmap (items : List (List Char)) :
      items.map itemNumber = (items.map numericItem).map digitsValue := List.map_map.symm
  rw [hmap, hmap, h.numericItems_eq hbuild, List.map_append]
  rfl

/-- A comparable version is read, and stands where its core does. -/
theorem Comparable.exists_parts (hc : Comparable version) (h : VersionShape version) :
    ∃ ns, versionParts version = .ok ns ∧ PaddedLex.entries 0 ns = coreRank version := by
  have hnumeral : ∀ item ∈ (versionItems version).map numericItem, IsNumeral item := by
    rw [h.numericItems_eq hc.no_build]
    refine List.forall_mem_append.mpr ⟨h.core, ?_⟩
    rw [List.forall_mem_map]
    intro item hitem
    obtain ⟨hne, hzero⟩ := hc.zero_identifiers item hitem
    exact ⟨hne, fun c hmem => by rw [hzero c hmem]; rfl⟩
  have hzero : (laterIdentifiers version).map itemNumber =
      List.replicate (laterIdentifiers version).length 0 := by
    rw [List.eq_replicate_iff, List.length_map]
    refine ⟨rfl, List.forall_mem_map.mpr fun item hitem => ?_⟩
    have hall := (hc.zero_identifiers item hitem).2
    exact (digitsValue_eq_zero_iff fun c hmem => by rw [hall c hmem]; rfl).mpr hall
  refine ⟨_, versionParts_eq_ok_iff.mpr ⟨fun item hitem => ?_, rfl⟩, ?_⟩
  · exact ⟨hnumeral _ (List.mem_map_of_mem hitem), hc.short item hitem⟩
  · rw [h.itemNumbers_eq hc.no_build, hzero, PaddedLex.entries_append_replicate]
    rfl

/-- The release of a version has its core and no suffix. -/
theorem versionCore_releaseOf (version : String) :
    versionCore (releaseOf version) = versionCore version ∧
      versionSuffix (releaseOf version) = [] := by
  have hcore : ∀ c ∈ versionCore version, isCoreChar c = true :=
    fun c hc => List.mem_takeWhile_imp (p := isCoreChar) hc
  constructor
  · change (releaseOf version).toList.takeWhile isCoreChar = versionCore version
    rw [releaseOf, String.toList_ofList, List.takeWhile_eq_self_iff.mpr hcore]
  · change (releaseOf version).toList.dropWhile isCoreChar = []
    rw [releaseOf, String.toList_ofList, List.dropWhile_eq_nil_iff.mpr hcore]

/-- What is read in a version is read in its release too. -/
theorem releaseOf_parts (h : VersionShape version)
    (hread : ∀ item ∈ versionItems version, IsReadable item) (hbuild : '+' ∉ version.toList) :
    versionParts (releaseOf version) = .ok (coreNumbers version) := by
  obtain ⟨hcore, hsuffix⟩ := versionCore_releaseOf version
  have hitems : versionItems (releaseOf version) = (versionCore version).splitOn '.' := by
    rw [versionItems, releaseOf, String.toList_ofList]
  have hnumerals := h.numericItems_eq hbuild
  refine versionParts_eq_ok_iff.mpr ⟨fun item hitem => ?_, ?_⟩
  · rw [hitems] at hitem
    have hmem : item ∈ (versionItems version).map numericItem := by
      rw [hnumerals]
      exact List.mem_append_left _ hitem
    obtain ⟨read, hreadMem, rfl⟩ := List.mem_map.mp hmem
    have hitself := (numericItem_of_isNumeral (h.core _ hitem) []).2
    rw [IsReadable, hitself]
    exact hread read hreadMem
  · rw [hitems]
    change ((versionCore version).splitOn '.').map (digitsValue ∘ numericItem) = _
    rw [← List.map_map, map_numericItem h.core]
    rfl

end Shape

/-! ### The law -/

section Law

variable {versions : Set String} (hgrammar : ∀ v ∈ versions, isCliVersion v = true)

include hgrammar in
/-- Comparable versions are ordered by their cores. -/
theorem versionLaw_of_comparable (hversions : ∀ v ∈ versions, Comparable v) :
    VersionLaw versions := by
  have hparts : ∀ v ∈ versions, ∃ ns, versionParts v = .ok ns ∧
      PaddedLex.entries 0 ns = coreRank v := fun v hv =>
    (hversions v hv).exists_parts (versionShape_of_isCliVersion (hgrammar v hv))
  have habove : ∀ v ∈ versions, ∀ w ∈ versions, (NotAbove v w ↔ coreRank v ≤ coreRank w) := by
    intro v hv w hw
    obtain ⟨a, ha, hrank⟩ := hparts v hv
    obtain ⟨b, hb, hrank'⟩ := hparts w hw
    rw [notAbove_iff ha hb, hrank, hrank']
  have hequal : ∀ v ∈ versions, ∀ w ∈ versions, coreRank v = coreRank w →
      compareVersions v w = .ok 0 := by
    intro v hv w hw hrank
    obtain ⟨a, ha, hranka⟩ := hparts v hv
    obtain ⟨b, hb, hrankb⟩ := hparts w hw
    exact compareVersions_of_eq ha hb (by rw [hranka, hrankb, hrank])
  refine ⟨fun v hv w hw => ?_, fun v hv w hw => ?_, fun u hu v hv w hw huv hvw => ?_,
    fun v hv w hw hlt => ?_, fun v hv w hw hrank _ _ => hequal v hv w hw hrank,
    fun v hv w hw hrank _ _ => ⟨0, hequal v hv w hw hrank, le_rfl⟩, fun v hv _ => ?_⟩
  · obtain ⟨a, ha, -⟩ := hparts v hv
    obtain ⟨b, hb, -⟩ := hparts w hw
    exact exists_compareVersions ha hb
  · rw [habove v hv w hw, habove w hw v hv]
    exact le_total ..
  · rw [habove u hu v hv] at huv
    rw [habove v hv w hw] at hvw
    exact (habove u hu w hw).mpr (huv.trans hvw)
  · obtain ⟨a, ha, hranka⟩ := hparts v hv
    obtain ⟨b, hb, hrankb⟩ := hparts w hw
    exact compareVersions_of_lt ha hb (by rwa [hranka, hrankb])
  · have hshape := versionShape_of_isCliVersion (hgrammar v hv)
    have hc := hversions v hv
    obtain ⟨a, ha, hrank⟩ := hparts v hv
    have hrelease := releaseOf_parts hshape (versionParts_eq_ok_iff.mp ha).1 hc.no_build
    exact (notAbove_iff ha hrelease).mpr hrank.le

include hgrammar in
theorem VersionLaw.comparable (law : VersionLaw versions) {v : String} (hv : v ∈ versions) :
    Comparable v := by
  have hshape := versionShape_of_isCliVersion (hgrammar v hv)
  obtain ⟨c, hdefined⟩ := law.defined v hv v hv
  obtain ⟨⟨ns, hns⟩, -⟩ := versionParts_of_compareVersions hdefined
  obtain ⟨hread, rfl⟩ := versionParts_eq_ok_iff.mp hns
  have hbuild : '+' ∉ v.toList := fun hmem => by
    obtain ⟨item, hitem, hnot⟩ := hshape.exists_not_isReadable hmem
    exact hnot (hread item hitem)
  refine ⟨hbuild, ?_, fun item hitem => (hread item hitem).2⟩
  obtain hnil | ⟨c, rest, hsuffix, hc, -⟩ := matchesVersionSuffix_cases hshape.suffix
  · rw [hnil]
    exact List.forall_mem_nil _
  · have hc : c = '-' := hc.resolve_right fun heq => hbuild (by
      rw [← versionCore_append_versionSuffix, hsuffix, heq]
      exact List.mem_append_right _ List.mem_cons_self)
    have hpre : isPreRelease v = true := by
      rw [isPreRelease, hsuffix, hc]
      rfl
    have hle := (notAbove_iff hns (releaseOf_parts hshape hread hbuild)).mp
      (law.own_release v hv hpre)
    rw [hshape.itemNumbers_eq hbuild, PaddedLex.entries_append_le_iff 0 Nat.zero_le,
      List.forall_mem_map] at hle
    intro item hitem
    have hmem : numericItem item ∈ (versionItems v).map numericItem := by
      rw [hshape.numericItems_eq hbuild]
      exact List.mem_append_right _ (List.mem_map_of_mem hitem)
    obtain ⟨read, hreadMem, heq⟩ := List.mem_map.mp hmem
    have hnumeral : IsNumeral (numericItem item) := heq ▸ (hread read hreadMem).1
    exact ⟨hnumeral.1, (digitsValue_eq_zero_iff hnumeral.2).mp (hle item hitem)⟩

/-- **The comparison keeps the law** of a set of versions exactly if each of them is read as it is
meant. -/
theorem versionLaw_iff (versions : Set String) (hgrammar : ∀ v ∈ versions, isCliVersion v = true) :
    VersionLaw versions ↔ ∀ v ∈ versions, Comparable v :=
  ⟨fun law _ hv => law.comparable hgrammar hv, versionLaw_of_comparable hgrammar⟩

end Law

instance (version : String) : Decidable (Comparable version) :=
  decidable_of_iff ('+' ∉ version.toList ∧
    (∀ item ∈ ((versionSuffix version).splitOn '.').tail,
      numericItem item ≠ [] ∧ ∀ c ∈ numericItem item, c = '0') ∧
    ∀ item ∈ version.toList.splitOn '.', (numericItem item).length ≤ 4300)
    ⟨fun h => ⟨h.1, h.2.1, h.2.2⟩, fun h => ⟨h.1, h.2, h.3⟩⟩

/-- Plain versions and pre-releases of one identifier keep the law. -/
theorem versionLaw_plain : VersionLaw {"1.2.3", "1.10", "1.2.3-rc"} := by
  refine (versionLaw_iff _ ?_).mpr ?_
  · rintro v (rfl | rfl | rfl) <;> decide +kernel
  · rintro v (rfl | rfl | rfl) <;> decide +kernel

/-- The grammar admits versions that the comparison cannot read, and pre-releases that it puts above
their release. -/
theorem not_versionLaw_grammar : ¬VersionLaw {v | isCliVersion v = true} ∧
    compareVersions "1.2.3-rc.1" (releaseOf "1.2.3-rc.1") = .ok 1 := by
  refine ⟨fun law => ?_, by decide +kernel⟩
  have hgrammar : isCliVersion "1.2.3+build" = true := by decide +kernel
  obtain ⟨c, hc⟩ := law.defined "1.2.3+build" hgrammar "1.2.3+build" hgrammar
  have hstops : compareVersions "1.2.3+build" "1.2.3+build" =
      .error (.contract "CLI version is not numeric: 1.2.3+build") := by decide +kernel
  rw [hstops] at hc
  cases hc

end Nanihold
