import Mathlib.Data.List.Infix
import Nanihold.AgentNaming

/-!
# The table of agent names

The rows that agent names are issued from, one column for each family of providers, and the part
of the table that a candidate's names come from.

## Main definitions

* `AgentNameRow` — a row, with the proofs of its data model's checks.
* `AgentNameRow.isOffered` — names are issued from the row.
* `providerFamily`, `scaleFor`, `nameColumn` — what the table is asked for a candidate.
-/

namespace Nanihold

/-! ### The table -/

/-- A row of the table; its category is left out, since nothing reads it. -/
structure AgentNameRow where
  scale : Nat
  semanticCoordinate : NonBlank
  japaneseName : NonBlank
  englishName : NonBlank
  latinName : NonBlank
  likes : String
  scale_allowed : scale = 1 ∨ scale = 2 ∨ scale = 3
  coordinate_nonblank : isNonBlank semanticCoordinate = true
  japanese_nonblank : isNonBlank japaneseName = true
  english_nonblank : isNonBlank englishName = true
  latin_nonblank : isNonBlank latinName = true
  likes_allowed : likes = "" ∨ likes = "0" ∨ likes = "1"

namespace AgentNameRow

variable (row : AgentNameRow)

def isEligible : Bool := row.likes ≠ "0"

def isReserved : Bool :=
  row.japaneseName = reservedAgentName ∨ row.semanticCoordinate = "凪"

def nameFor : NameColumn → NonBlank
  | .japanese => row.japaneseName
  | .english => row.englishName
  | .latin => row.latinName

/-- The rows that names are issued from. -/
def isOffered : Bool := row.isEligible && !row.isReserved

theorem isNonBlank_nameFor (column : NameColumn) : isNonBlank (row.nameFor column) = true := by
  cases column with
  | japanese => exact row.japanese_nonblank
  | english => exact row.english_nonblank
  | latin => exact row.latin_nonblank

end AgentNameRow

/-! ### Candidates -/

/-- The characters that `str.strip` removes. -/
def isSpace (c : Char) : Bool :=
  let n := c.toNat
  (9 ≤ n && n ≤ 13) || (28 ≤ n && n ≤ 32) || n == 0x85 || n == 0xA0 || n == 0x1680 ||
    (0x2000 ≤ n && n ≤ 0x200A) || n == 0x2028 || n == 0x2029 || n == 0x202F || n == 0x205F ||
    n == 0x3000

/-- The ASCII letters of `str.lower`. Two characters outside ASCII have one in their lower case:
the Kelvin sign, and the capital I with a dot, which keeps its dot as a second character. -/
def lowerChar (c : Char) : List Char :=
  if c.toNat = 0x212A then ['k']
  else if c.toNat = 0x130 then ['i', Char.ofNat 0x307]
  else [c.toLower]

/-- `value.strip().lower()`, as far as a comparison with an ASCII word can tell. -/
def normalized (value : String) : List Char :=
  (((value.toList.dropWhile isSpace).reverse.dropWhile isSpace).reverse).flatMap lowerChar

/-- `word in value`. -/
def hasWord (word : String) (value : List Char) : Bool := word.toList <:+: value

inductive ProviderFamily where
  | claude | gpt | other
  deriving DecidableEq

/-- `_provider_family`. -/
def providerFamily (candidate : ModelCandidate) : ProviderFamily :=
  let provider := normalized candidate.provider
  let snapshot := normalized (candidate.modelSnapshot.getD "")
  if provider ∈ ["anthropic".toList, "claude".toList] ∨ hasWord "claude" snapshot then .claude
  else if provider ∈ ["openai".toList, "gpt".toList] ∨ "gpt-".toList <+: snapshot then .gpt
  else .other

/-- `_scale_for`. -/
def scaleFor (candidate : ModelCandidate) : Except VsmError Nat :=
  let model := normalized (candidate.modelSnapshot.getD "")
  if model = [] then
    throw (.invariantViolation
      "agent name assignment requires a model snapshot to determine model scale")
  else if hasWord "sol" model ∨ hasWord "fable" model then return 3
  else if hasWord "terra" model ∨ hasWord "opus" model then return 2
  else if hasWord "luna" model ∨ hasWord "sonnet" model ∨ hasWord "haiku" model then return 1
  else
    throw (.invariantViolation
      ("agent name assignment cannot determine model scale: " ++ candidate.modelSnapshot.getD ""))

def ProviderFamily.column : ProviderFamily → NameColumn
  | .claude => .japanese
  | .gpt => .english
  | .other => .latin

/-- `_name_column`. -/
def nameColumn (candidate : ModelCandidate) : NameColumn := (providerFamily candidate).column

/-- The column's name in the table. -/
def NameColumn.text : NameColumn → String
  | .japanese => "日"
  | .english => "英"
  | .latin => "羅"

example : providerFamily ⟨"key", " OpenAI ", some "terra-1"⟩ = .gpt := by decide +kernel

end Nanihold
