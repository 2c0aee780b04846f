import Mathlib.Data.List.TakeDrop
import Nanihold.Library.Checked

/-!
# Failures and identifiers

The exceptions the services raise, and the two string formats the data models check. A
Python exception is a value of `VsmError`; the text `str(exc)` matters because a failed owner
turn writes it into the ledger.

## Main definitions

* `VsmError` — the exceptions, with `VsmError.text` for `str(exc)`.
* `isIdentifier` — the pattern `^[a-z][a-z0-9_-]{1,31}:[A-Za-z0-9._~-]{1,160}$`.
* `isNonBlank` — a string of 1 to 512 characters.
* `require` — raise `InvariantViolation` unless a condition holds.
-/

namespace Nanihold

/-- A point in time, in microseconds. -/
abbrev DateTime := Int

/-- The readings of the injected clock during one call, in the order they are taken. -/
abbrev Clock := Nat → DateTime

/-- The exceptions raised by the modelled code. -/
inductive VsmError where
  /-- A Kernel invariant would be violated. -/
  | invariantViolation (message : String)
  /-- The expected version of a stream is not its actual version. -/
  | streamConflict (streamId : String) (expected actual : Nat)
  /-- An effect result is unknown and must be reconciled by its idempotency key. -/
  | reconciliationRequired (message : String)
  /-- A data model refused a value; the text names the model. -/
  | validationError (model : String)
  /-- A dictionary has no entry for the key. -/
  | keyError (key : String)
  /-- An exception raised by a collaborator, with its text. -/
  | raised (message : String)
  deriving DecidableEq, Repr

/-- The text `str(exc)` of an exception. -/
def VsmError.text : VsmError → String
  | .invariantViolation message => message
  | .streamConflict streamId expected actual =>
    s!"stream '{streamId}' expected version {expected}, actual version {actual}"
  | .reconciliationRequired message => message
  | .validationError model => s!"validation error for {model}"
  | .keyError key => s!"'{key}'"
  | .raised message => message

/-- The exception reports a stream conflict. -/
def VsmError.isStreamConflict : VsmError → Bool
  | .streamConflict _ _ _ => true
  | .invariantViolation _ | .reconciliationRequired _ | .validationError _ | .keyError _
  | .raised _ => false

@[simp] theorem isStreamConflict_invariantViolation (message : String) :
    (VsmError.invariantViolation message).isStreamConflict = false := rfl

@[simp] theorem isStreamConflict_reconciliationRequired (message : String) :
    (VsmError.reconciliationRequired message).isStreamConflict = false := rfl

@[simp] theorem isStreamConflict_validationError (model : String) :
    (VsmError.validationError model).isStreamConflict = false := rfl

@[simp] theorem isStreamConflict_keyError (key : String) :
    (VsmError.keyError key).isStreamConflict = false := rfl

/-- Raise `InvariantViolation` unless the condition holds. -/
abbrev require (p : Prop) [Decidable p] (message : String) : Except VsmError Unit :=
  Checked.check p (.invariantViolation message)

/-- The entry a dictionary lookup found; raise `InvariantViolation` when there is none. -/
abbrev found {α : Type} (o : Option α) (message : String) : Except VsmError α :=
  Checked.orRaise o (.invariantViolation message)

/-- The entry under a key that the code reads without a check. -/
abbrev entry {α : Type} (o : Option α) (key : String) : Except VsmError α :=
  Checked.orRaise o (.keyError key)

/-! ### String formats -/

private def isKindChar (c : Char) : Bool :=
  c.isLower || c.isDigit || c == '_' || c == '-'

private def isNameChar (c : Char) : Bool :=
  c.isAlphanum || c == '.' || c == '_' || c == '~' || c == '-'

/-- The `Identifier` pattern: a kind of 2 to 32 characters, a colon, and a name of 1 to 160
characters. The kind contains no colon, so the first colon separates the two. -/
def isIdentifier (value : String) : Bool :=
  match value.toList.span (· ≠ ':') with
  | (head :: kind, _ :: name) =>
    head.isLower && kind.all isKindChar && decide (1 ≤ kind.length) &&
      decide (kind.length ≤ 31) && name.all isNameChar && decide (1 ≤ name.length) &&
      decide (name.length ≤ 160)
  | _ => false

/-- The `NonBlank` constraint: 1 to 512 characters. -/
def isNonBlank (value : String) : Bool :=
  decide (1 ≤ value.length) && decide (value.length ≤ 512)

/-- An optional identifier is absent or well formed. -/
def isIdentifierOrNone : Option String → Bool
  | none => true
  | some value => isIdentifier value

/-- The part of an identifier after its first colon (`value.split(":", 1)[-1]`). -/
def afterColon (value : String) : String :=
  match value.toList.span (· ≠ ':') with
  | (_, _ :: name) => String.ofList name
  | (all, []) => String.ofList all

/-- The name of an identifier makes an identifier of another kind. -/
theorem isIdentifier_activation {value : String} (h : isIdentifier value = true) :
    isIdentifier ("activation:" ++ afterColon value) = true := by
  unfold isIdentifier at h
  split at h
  · next head kind colon name hspan =>
    have hname : afterColon value = String.ofList name := by rw [afterColon, hspan]
    have hsplit : ("activation:" ++ String.ofList name).toList.span (· ≠ ':') =
        ('a' :: "ctivation".toList, ':' :: name) := by
      have hlist : (String.ofList name).toList = name := String.toList_ofList
      rw [String.toList_append, hlist]
      rfl
    simp only [Bool.and_eq_true] at h
    obtain ⟨⟨⟨-, hchars⟩, hpos⟩, hlength⟩ := h
    rw [hname, isIdentifier, hsplit]
    simp only [hchars, hpos, hlength, Bool.and_true]
    decide
  · exact nomatch h

/-- An identifier has no slash. -/
theorem slash_notMem_of_isIdentifier {value : String} (h : isIdentifier value = true) :
    '/' ∉ value.toList := by
  unfold isIdentifier at h
  split at h
  · next head kind colon name hspan =>
    simp only [Bool.and_eq_true, List.all_eq_true] at h
    obtain ⟨⟨⟨⟨⟨⟨hhead, hkind⟩, -⟩, -⟩, hname⟩, -⟩, -⟩ := h
    rw [List.span_eq_takeWhile_dropWhile] at hspan
    obtain ⟨htake, hdrop⟩ := Prod.mk.inj hspan
    have hcolon : colon = ':' := by
      have hhead := List.head?_dropWhile_not (· ≠ ':') value.toList
      rw [hdrop] at hhead
      simpa using hhead
    rw [← List.takeWhile_append_dropWhile (p := (· ≠ ':')) (l := value.toList), htake, hdrop]
    simp only [List.cons_append, List.mem_cons, List.mem_append, not_or]
    refine ⟨?_, fun hmem => ?_, ?_, fun hmem => ?_⟩
    · rintro rfl
      exact absurd hhead (by decide)
    · exact absurd (hkind _ hmem) (by decide)
    · rw [hcolon]
      decide
    · exact absurd (hname _ hmem) (by decide)
  · cases h

example : isIdentifier "node:owner-interface" = true := by decide

example : isIdentifier "Node:owner" = false := by decide

example : afterColon "space:company:1" = "company:1" := by decide

end Nanihold
