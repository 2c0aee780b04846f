import Nanihold.Library.Checked
import Nanihold.Library.Json
import Nanihold.Library.OrderedDict

/-!
# The receipts of a PilotHost

`ReceiptStore`: the table in which a PilotHost writes down a request before it runs a provider, and
the outcome after. A receipt is stored as JSON text, so what a provider has reported can be stored
only if it can be written.

## Main definitions

* `ProviderReceipt` — the body of a receipt, with `ProviderReceipt.isWritable`.
* `ReceiptStore` — the table, with the proof that no idempotency key occurs twice.
* `ReceiptStore.begin`, `ReceiptStore.finish`, `ReceiptStore.recover`.
* `ReceiptStore.StoredFor` — the receipt of a request.

## Main results

* `ReceiptStore.begin_eq_ok` — what is found again, and what is new.
* `ReceiptStore.finish_eq_ok_iff` — an outcome is stored if it can be written.
-/

namespace Nanihold

/-- The errors that leave a PilotHost. -/
inductive HostError where
  /-- `ContractError`. -/
  | contract (message : String)
  /-- `ConflictError`. -/
  | conflict (message : String)
  /-- An exception of another class. -/
  | raised (name : String)
  deriving DecidableEq

inductive ProviderReceiptStatus where
  | inProgress | succeeded | failed | transportUnknown
  deriving DecidableEq

/-- The error of a receipt. -/
structure ReceiptError where
  code : String
  message : String
  deriving DecidableEq

/-- What a request is known by. -/
structure ReceiptRequest where
  endpoint : String
  receiptId : String
  idempotencyKey : String
  requestSha256 : String
  candidateKey : String
  requestedModel : Option String
  deriving DecidableEq

/-- The body of a receipt. -/
structure ProviderReceipt where
  request : ReceiptRequest
  status : ProviderReceiptStatus
  actualModel : Option PyText
  providerSessionId : Option PyText
  usage : Option JsonValue
  result : Option JsonValue
  error : Option ReceiptError
  createdAt : String
  updatedAt : String

/-- What `finish` enters in a receipt. -/
structure ReceiptOutcome where
  status : ProviderReceiptStatus
  actualModel : Option PyText
  providerSessionId : Option PyText
  usage : Option JsonValue
  result : Option JsonValue
  error : Option ReceiptError

/-- The outcome has an encoded JSON text: no text in it has a lone surrogate, and no integer too
many digits. -/
def ReceiptOutcome.isWritable (outcome : ReceiptOutcome) : Bool :=
  outcome.actualModel.all PyText.isEncodable && outcome.providerSessionId.all PyText.isEncodable &&
    outcome.usage.all JsonValue.isWritable && outcome.result.all JsonValue.isWritable

/-- The body that `begin` writes. -/
def ReceiptRequest.body (request : ReceiptRequest) (now : String) : ProviderReceipt where
  request := request
  status := .inProgress
  actualModel := none
  providerSessionId := none
  usage := none
  result := none
  error := none
  createdAt := now
  updatedAt := now

/-- The receipt with an outcome. -/
def ProviderReceipt.complete (receipt : ProviderReceipt) (outcome : ReceiptOutcome)
    (now : String) : ProviderReceipt :=
  { receipt with
    status := outcome.status
    actualModel := outcome.actualModel
    providerSessionId := outcome.providerSessionId
    usage := outcome.usage
    result := outcome.result
    error := outcome.error
    updatedAt := now }

/-- What a restart makes of a receipt. -/
def ProviderReceipt.recover (receipt : ProviderReceipt) (now : String) : ProviderReceipt :=
  if receipt.status = .inProgress then
    { receipt with
      status := .transportUnknown
      error := some ⟨"TransportUnknown", "PilotHost restarted before the provider outcome " ++
        "was durably recorded; reconciliation is required"⟩
      updatedAt := now }
  else receipt

@[simp] theorem ProviderReceipt.complete_request (receipt : ProviderReceipt)
    (outcome : ReceiptOutcome) (now : String) :
    (receipt.complete outcome now).request = receipt.request := rfl

@[simp] theorem ProviderReceipt.recover_request (receipt : ProviderReceipt) (now : String) :
    (receipt.recover now).request = receipt.request := by
  rw [recover]
  split_ifs <;> rfl

/-- The table of receipts, by receipt id. -/
structure ReceiptStore where
  receipts : OrderedDict String ProviderReceipt
  /-- A row is stored under its receipt id. -/
  receipt_id_eq : ∀ receiptId receipt, receipts.get? receiptId = some receipt →
    receipt.request.receiptId = receiptId
  /-- No idempotency key occurs twice. -/
  idempotency_key_unique : ∀ receiptId receipt otherId other,
    receipts.get? receiptId = some receipt → receipts.get? otherId = some other →
      receipt.request.idempotencyKey = other.request.idempotencyKey → receiptId = otherId

namespace ReceiptStore

/-- A table without receipts. -/
def new : ReceiptStore where
  receipts := .empty
  receipt_id_eq _ _ h := by cases h
  idempotency_key_unique _ _ _ _ h := by cases h

variable (store : ReceiptStore)

/-- The row that has a receipt id or an idempotency key. -/
def existing (receiptId idempotencyKey : String) : Option ProviderReceipt :=
  (store.receipts.get? receiptId).or
    (store.receipts.values.find? fun receipt => receipt.request.idempotencyKey = idempotencyKey)

variable {store}

theorem existing_eq_none_iff {receiptId idempotencyKey : String} :
    store.existing receiptId idempotencyKey = none ↔
      store.receipts.get? receiptId = none ∧ ∀ otherId other,
        store.receipts.get? otherId = some other →
          other.request.idempotencyKey ≠ idempotencyKey := by
  rw [existing, Option.or_eq_none_iff, List.find?_eq_none]
  refine and_congr_right fun _ => ?_
  constructor
  · intro h otherId other hget hkey
    exact h other (OrderedDict.mem_values_of_get? hget) (decide_eq_true hkey)
  · intro h other hmem hkey
    obtain ⟨otherId, hget⟩ := (OrderedDict.mem_values_iff _ _).mp hmem
    exact h otherId other hget (of_decide_eq_true hkey)

variable (store)

/-- Store a new receipt. -/
def insert (receipt : ProviderReceipt)
    (hnew : store.existing receipt.request.receiptId receipt.request.idempotencyKey = none) :
    ReceiptStore where
  receipts := store.receipts.set receipt.request.receiptId receipt
  receipt_id_eq receiptId other hget := by
    rw [OrderedDict.get?_set] at hget
    split_ifs at hget with heq
    · rw [← Option.some.inj hget, heq]
    · exact store.receipt_id_eq receiptId other hget
  idempotency_key_unique receiptId one otherId other hone hother hkey := by
    have hfresh := (existing_eq_none_iff.mp hnew).2
    rw [OrderedDict.get?_set] at hone hother
    split_ifs at hone hother with h₁ h₂ h₂
    · exact h₁.symm.trans h₂
    · rw [← Option.some.inj hone] at hkey
      exact absurd hkey.symm (hfresh otherId other hother)
    · rw [← Option.some.inj hother] at hkey
      exact absurd hkey (hfresh receiptId one hone)
    · exact store.idempotency_key_unique receiptId one otherId other hone hother hkey

/-- Rewrite receipts where they stand; requests stay what they are. -/
def rewrite (f : String → ProviderReceipt → ProviderReceipt)
    (hf : ∀ receiptId receipt, (f receiptId receipt).request = receipt.request) : ReceiptStore where
  receipts := store.receipts.mapValues f
  receipt_id_eq receiptId receipt hget := by
    rw [OrderedDict.get?_mapValues, Option.map_eq_some_iff] at hget
    obtain ⟨old, hold, rfl⟩ := hget
    rw [hf]
    exact store.receipt_id_eq receiptId old hold
  idempotency_key_unique receiptId receipt otherId other hone hother hkey := by
    rw [OrderedDict.get?_mapValues, Option.map_eq_some_iff] at hone hother
    obtain ⟨old, hold, rfl⟩ := hone
    obtain ⟨old', hold', rfl⟩ := hother
    rw [hf, hf] at hkey
    exact store.idempotency_key_unique receiptId old otherId old' hold hold' hkey

/-- The receipt of a request, and whether it was created. -/
structure Begun where
  receipt : ProviderReceipt
  created : Bool
  store : ReceiptStore

/-- `begin`. -/
def begin (request : ReceiptRequest) (now : String) : Except HostError Begun :=
  match h : store.existing request.receiptId request.idempotencyKey with
  | some receipt =>
    if receipt.request.endpoint = request.endpoint ∧
        receipt.request.receiptId = request.receiptId ∧
        receipt.request.requestSha256 = request.requestSha256 then
      .ok ⟨receipt, false, store⟩
    else .error (.conflict "receipt or idempotency key was reused with a different request")
  | none => .ok ⟨request.body now, true, store.insert (request.body now) h⟩

/-- `finish`; a body without an encoded JSON text raises `ValueError` or `UnicodeEncodeError`. -/
def finish (receiptId : String) (outcome : ReceiptOutcome) (now : String) :
    Except HostError (ProviderReceipt × ReceiptStore) := do
  let receipt ← Checked.orRaise (store.receipts.get? receiptId) (.raised "RuntimeError")
  Checked.check (receipt.status = .inProgress)
    (.conflict "only an in-progress receipt can be completed")
  Checked.check (outcome.isWritable = true) (.raised "ValueError")
  return (receipt.complete outcome now, store.rewrite (fun otherId other =>
    if otherId = receiptId then other.complete outcome now else other) fun otherId other => by
      split_ifs <;> rfl)

/-- The recovery of a store that is opened again. -/
def recover (now : String) : ReceiptStore :=
  store.rewrite (fun _ receipt => receipt.recover now) fun _ receipt => receipt.recover_request now

/-- **The receipt of a request**: it is stored under the receipt id, for the same endpoint and with
the same digest. -/
structure StoredFor (request : ReceiptRequest) (receipt : ProviderReceipt) : Prop where
  get? : store.receipts.get? request.receiptId = some receipt
  endpoint : receipt.request.endpoint = request.endpoint
  sha256 : receipt.request.requestSha256 = request.requestSha256

variable {store} {request : ReceiptRequest} {now : String}

/-- The receipt of a request is found again. -/
theorem begin_of_storedFor {receipt : ProviderReceipt} (h : store.StoredFor request receipt) :
    store.begin request now = .ok ⟨receipt, false, store⟩ := by
  have hexisting : store.existing request.receiptId request.idempotencyKey = some receipt := by
    rw [existing, h.get?]
    rfl
  have hid := store.receipt_id_eq _ _ h.get?
  unfold begin
  split
  · next found hfound =>
    obtain rfl := Option.some.inj (hexisting.symm.trans hfound)
    exact if_pos ⟨h.endpoint, hid, h.sha256⟩
  · next hnone => cases hexisting.symm.trans hnone

theorem begin_of_new (h : store.existing request.receiptId request.idempotencyKey = none) :
    store.begin request now = .ok ⟨request.body now, true, store.insert (request.body now) h⟩ := by
  unfold begin
  split
  · next found hfound => cases h.symm.trans hfound
  · rfl

/-- **What `begin` returns**: a stored receipt of the same request, or a new one. -/
theorem begin_eq_ok {begun : Begun} (h : store.begin request now = .ok begun) :
    (begun.created = false ∧ begun.store = store ∧ store.StoredFor request begun.receipt) ∨
    ∃ hnew : store.existing request.receiptId request.idempotencyKey = none,
      begun = ⟨request.body now, true, store.insert (request.body now) hnew⟩ := by
  unfold begin at h
  split at h
  · next receipt hexisting =>
    split_ifs at h with hsame
    obtain rfl := Except.ok.inj h
    refine Or.inl ⟨rfl, rfl, ?_, hsame.1, hsame.2.2⟩
    rw [existing, Option.or_eq_some_iff] at hexisting
    rcases hexisting with hget | ⟨-, hfind⟩
    · exact hget
    · obtain ⟨receiptId, hget⟩ :=
        (OrderedDict.mem_values_iff _ _).mp (List.mem_of_find?_eq_some hfind)
      rw [← hsame.2.1, store.receipt_id_eq _ _ hget]
      exact hget
  · next hnew =>
    obtain rfl := Except.ok.inj h
    exact Or.inr ⟨hnew, rfl⟩

/-- A new receipt is stored. -/
theorem get?_insert {receipt : ProviderReceipt}
    (hnew : store.existing receipt.request.receiptId receipt.request.idempotencyKey = none)
    (receiptId : String) :
    (store.insert receipt hnew).receipts.get? receiptId =
      if receipt.request.receiptId = receiptId then some receipt
      else store.receipts.get? receiptId :=
  OrderedDict.get?_set _ _ _ _

/-- **An outcome is stored** exactly if its receipt is in progress and it can be written. -/
theorem finish_eq_ok_iff {receiptId : String} {outcome : ReceiptOutcome} :
    (∃ answer, store.finish receiptId outcome now = .ok answer) ↔
      (∃ receipt, store.receipts.get? receiptId = some receipt ∧ receipt.status = .inProgress) ∧
        outcome.isWritable = true := by
  constructor
  · rintro ⟨answer, h⟩
    obtain ⟨receipt, hget, h⟩ := Checked.orRaise_bind_eq_ok_iff.mp h
    obtain ⟨hstatus, h⟩ := Checked.check_bind_eq_ok_iff.mp h
    exact ⟨⟨receipt, hget, hstatus⟩, (Checked.check_bind_eq_ok_iff.mp h).1⟩
  · rintro ⟨⟨receipt, hget, hstatus⟩, hwritable⟩
    rw [finish, hget]
    exact ⟨_, Checked.check_bind_eq_ok_iff.mpr ⟨hstatus, Checked.check_bind_eq_ok_iff.mpr
      ⟨hwritable, rfl⟩⟩⟩

/-- What `finish` leaves. -/
theorem finish_eq_ok {receiptId : String} {outcome : ReceiptOutcome} {receipt : ProviderReceipt}
    {next : ReceiptStore} (h : store.finish receiptId outcome now = .ok (receipt, next)) :
    (∃ old, store.receipts.get? receiptId = some old ∧ receipt = old.complete outcome now) ∧
      ∀ otherId, next.receipts.get? otherId =
        if otherId = receiptId then some receipt else store.receipts.get? otherId := by
  obtain ⟨old, hget, h⟩ := Checked.orRaise_bind_eq_ok_iff.mp h
  obtain ⟨-, h⟩ := Checked.check_bind_eq_ok_iff.mp h
  obtain ⟨-, h⟩ := Checked.check_bind_eq_ok_iff.mp h
  obtain ⟨rfl, rfl⟩ := Prod.mk.inj (Except.ok.inj h)
  refine ⟨⟨old, hget, rfl⟩, fun otherId => ?_⟩
  change (store.receipts.mapValues _).get? otherId = _
  rw [OrderedDict.get?_mapValues]
  split_ifs with heq
  · rw [heq, hget]
    rfl
  · exact Option.map_id'

/-! ### What a store keeps -/

/-- The requests of the receipts of one store are those of another. -/
def Keeps (store next : ReceiptStore) : Prop :=
  OrderedDict.Retains ProviderReceipt.request store.receipts next.receipts

theorem Keeps.storedFor {next : ReceiptStore} (h : store.Keeps next) {receipt : ProviderReceipt}
    (hstored : store.StoredFor request receipt) : ∃ kept, next.StoredFor request kept := by
  obtain ⟨kept, hget, hrequest⟩ := h _ _ hstored.get?
  exact ⟨kept, hget, by rw [hrequest, hstored.endpoint], by rw [hrequest, hstored.sha256]⟩

theorem keeps_insert {receipt : ProviderReceipt}
    (hnew : store.existing receipt.request.receiptId receipt.request.idempotencyKey = none) :
    store.Keeps (store.insert receipt hnew) := by
  refine OrderedDict.Retains.set _ _ _ fun old hget => ?_
  cases (existing_eq_none_iff.mp hnew).1.symm.trans hget

theorem keeps_finish {receiptId : String} {outcome : ReceiptOutcome}
    {answer : ProviderReceipt × ReceiptStore}
    (h : store.finish receiptId outcome now = .ok answer) : store.Keeps answer.2 := by
  obtain ⟨old, hget, h⟩ := Checked.orRaise_bind_eq_ok_iff.mp h
  obtain ⟨-, h⟩ := Checked.check_bind_eq_ok_iff.mp h
  obtain ⟨-, h⟩ := Checked.check_bind_eq_ok_iff.mp h
  obtain rfl := Except.ok.inj h
  refine OrderedDict.Retains.mapValues _ fun otherId other => ?_
  split_ifs <;> rfl

theorem keeps_recover : store.Keeps (store.recover now) :=
  OrderedDict.Retains.mapValues _ fun _ receipt => receipt.recover_request now

theorem get?_recover (receiptId : String) :
    (store.recover now).receipts.get? receiptId =
      (store.receipts.get? receiptId).map fun receipt => receipt.recover now :=
  OrderedDict.get?_mapValues _ _ _

end ReceiptStore

end Nanihold
