import Nanihold.PilotHost.Threads

/-!
# At most one provider call

A PilotHost runs a provider at most once for a receipt and at most once for an idempotency key,
whatever calls overlap and wherever the host is stopped. A receipt with an outcome stays what it is;
one that is in progress when the host is stopped becomes an unknown outcome and is not run again.

## Main definitions

* `PilotHostProcess.Accounted` — every thread has a receipt in progress, and every provider that was
  run has a receipt.
* `ProviderLaw` — the law of provider calls.

## Main results

* `PilotHostProcess.accounted_step` — every step keeps the receipts accounted for.
* `PilotHostProcess.settled_step` — every step keeps a receipt with an outcome.
* `providerLaw_exec` — the law after every run.
-/

namespace Nanihold

namespace PilotHostProcess

/-- **Receipts are accounted for.** Threads have receipts of their own in progress, a provider that
was run has a receipt and was run once, and a thread that has not run its provider is the only one
that will. -/
structure Accounted (process : PilotHostProcess) : Prop where
  distinct : (process.calls.map (·.request.receiptId)).Nodup
  running : ∀ call ∈ process.calls, ∃ receipt,
    process.memory.receipts.receipts.get? call.request.receiptId = some receipt ∧
      receipt.status = .inProgress
  waiting : ∀ call ∈ process.calls, call.invoked = false →
    call.request.receiptId ∉ process.memory.invocations
  entered : ∀ receiptId ∈ process.memory.invocations, ∃ receipt,
    process.memory.receipts.receipts.get? receiptId = some receipt
  once : process.memory.invocations.Nodup

theorem accounted_new (cache : CacheFile) : (new cache).Accounted where
  distinct := List.nodup_nil
  running _ h := by cases h
  waiting _ h := by cases h
  entered _ h := by cases h
  once := List.nodup_nil

/-- A receipt with an outcome. -/
def Settled (process : PilotHostProcess) (receiptId : String) (receipt : ProviderReceipt) : Prop :=
  process.memory.receipts.receipts.get? receiptId = some receipt ∧ receipt.status ≠ .inProgress

variable {process : PilotHostProcess}

/-! ### One outcome -/

/-- The receipts of other requests are left alone. -/
private theorem get?_finished (store : ReceiptStore) {receiptId otherId now : String}
    {outcome : ReceiptOutcome} (hne : otherId ≠ receiptId) :
    (store.finished receiptId outcome now).receipts.get? otherId =
      store.receipts.get? otherId := by
  cases hfinish : store.finish receiptId outcome now with
  | error e => rw [ReceiptStore.finished_of_error hfinish]
  | ok answer =>
    rw [ReceiptStore.finished_of_ok hfinish, (ReceiptStore.finish_eq_ok hfinish).2, if_neg hne]

/-- A receipt stays stored. -/
private theorem exists_get?_finished {store : ReceiptStore} {receiptId otherId now : String}
    {outcome : ReceiptOutcome} {receipt : ProviderReceipt}
    (h : store.receipts.get? otherId = some receipt) :
    ∃ kept, (store.finished receiptId outcome now).receipts.get? otherId = some kept := by
  cases hfinish : store.finish receiptId outcome now with
  | error e => exact ⟨receipt, by rw [ReceiptStore.finished_of_error hfinish, h]⟩
  | ok answer =>
    obtain ⟨kept, hget, -⟩ := ReceiptStore.keeps_finish hfinish _ _ h
    exact ⟨kept, by rw [ReceiptStore.finished_of_ok hfinish, hget]⟩

/-- A receipt with an outcome is not finished again. -/
private theorem get?_finished_of_settled {store : ReceiptStore} {receiptId otherId now : String}
    {outcome : ReceiptOutcome} {receipt : ProviderReceipt}
    (h : store.receipts.get? otherId = some receipt) (hsettled : receipt.status ≠ .inProgress) :
    (store.finished receiptId outcome now).receipts.get? otherId = some receipt := by
  by_cases hid : otherId = receiptId
  · cases hfinish : store.finish receiptId outcome now with
    | error e => rw [ReceiptStore.finished_of_error hfinish, h]
    | ok answer =>
      obtain ⟨⟨old, hold, hstatus⟩, -⟩ := ReceiptStore.finish_eq_ok_iff.mp ⟨answer, hfinish⟩
      rw [← hid, h] at hold
      rw [← Option.some.inj hold] at hstatus
      exact absurd hstatus hsettled
  · rw [get?_finished store hid, h]

/-! ### Steps -/

section Steps

variable [Sha256] {P : Type} {models : RequestModels P}

omit [Sha256] in
/-- A new request is entered beside the receipts that are there, and gets a thread. -/
private theorem accounted_created (h : process.Accounted) {receipt : ProviderReceipt}
    (hnew : process.memory.receipts.existing receipt.request.receiptId
      receipt.request.idempotencyKey = none)
    (hstatus : receipt.status = .inProgress) {call : RunningCall}
    (hid : call.request.receiptId = receipt.request.receiptId) (cache : CacheFile) :
    Accounted
      { memory := { process.memory with
          receipts := process.memory.receipts.insert receipt hnew, cache := cache }
        calls := process.calls ++ [call] } := by
  have habsent := (ReceiptStore.existing_eq_none_iff.mp hnew).1
  have hother {receiptId : String} {other : ProviderReceipt}
      (hget : process.memory.receipts.receipts.get? receiptId = some other) :
      receipt.request.receiptId ≠ receiptId := by
    rintro rfl
    cases habsent.symm.trans hget
  have hkept {receiptId : String} {other : ProviderReceipt}
      (hget : process.memory.receipts.receipts.get? receiptId = some other) :
      (process.memory.receipts.insert receipt hnew).receipts.get? receiptId = some other := by
    rw [ReceiptStore.get?_insert, if_neg (hother hget), hget]
  constructor
  · rw [List.map_append, List.map_singleton, List.nodup_append]
    refine ⟨h.distinct, List.nodup_singleton _, fun receiptId hmem other hlast heq => ?_⟩
    obtain ⟨known, hknown, rfl⟩ := List.mem_map.mp hmem
    obtain ⟨running, hget, -⟩ := h.running known hknown
    rw [List.mem_singleton.mp hlast, hid] at heq
    exact hother hget heq.symm
  · intro known hknown
    rcases List.mem_append.mp hknown with hknown | hlast
    · obtain ⟨running, hget, hrunning⟩ := h.running known hknown
      exact ⟨running, hkept hget, hrunning⟩
    · rw [List.mem_singleton.mp hlast, hid]
      exact ⟨receipt, (ReceiptStore.get?_insert hnew _).trans (if_pos rfl), hstatus⟩
  · intro known hknown hwaiting
    rcases List.mem_append.mp hknown with hknown | hlast
    · exact h.waiting known hknown hwaiting
    · rw [List.mem_singleton.mp hlast, hid]
      intro hinvoked
      obtain ⟨entered, hget⟩ := h.entered _ hinvoked
      exact hother hget rfl
  · intro receiptId hinvoked
    obtain ⟨entered, hget⟩ := h.entered receiptId hinvoked
    exact ⟨entered, hkept hget⟩
  · exact h.once

private theorem accounted_arrive (h : process.Accounted) (host : ProductionPilotHost)
    (endpoint : String) (payload : P) (world : HostWorld) :
    (process.arrive models host endpoint payload world).Accounted := by
  cases hadmission : host.admission models endpoint payload world process.memory.cache with
  | error e => rwa [arrive_of_refused hadmission]
  | ok admitted =>
    cases hbegin : process.memory.receipts.begin (admitted.1.receiptRequest endpoint)
        world.beganAt with
    | error e =>
      rw [arrive_of_conflict hadmission hbegin]
      exact ⟨h.distinct, h.running, h.waiting, h.entered, h.once⟩
    | ok begun =>
      rw [arrive_of_begun hadmission hbegin]
      rcases ReceiptStore.begin_eq_ok hbegin with ⟨hknown, hstore, -⟩ | ⟨hnew, rfl⟩
      · simp only [hknown, Bool.false_eq_true, if_false, List.append_nil, hstore]
        exact ⟨h.distinct, h.running, h.waiting, h.entered, h.once⟩
      · simp only [if_true]
        exact accounted_created h hnew rfl rfl admitted.2

omit [Sha256] in
/-- Two threads with one receipt are one thread. -/
private theorem Accounted.eq_of_receiptId (h : process.Accounted) {i j : Nat}
    {call other : RunningCall} (hi : process.calls[i]? = some call)
    (hj : process.calls[j]? = some other)
    (hid : call.request.receiptId = other.request.receiptId) : i = j := by
  obtain ⟨hlt, -⟩ := List.getElem?_eq_some_iff.mp hi
  refine (List.getElem?_inj (by rwa [List.length_map]) h.distinct).mp ?_
  rw [List.getElem?_map, List.getElem?_map, hi, hj, Option.map_some, Option.map_some, hid]

omit [Sha256] in
private theorem accounted_invoke (h : process.Accounted) (position : Nat) :
    (process.invoke position).Accounted := by
  cases hcall : process.calls[position]? with
  | none => rwa [invoke_of_none hcall]
  | some call =>
    have hmem := List.mem_of_getElem? hcall
    by_cases hwaiting : call.invoked = false
    · rw [invoke_of_waiting hcall hwaiting]
      have hids : (process.calls.set position { call with invoked := true }).map
          (·.request.receiptId) = process.calls.map (·.request.receiptId) := by
        refine List.ext_getElem? fun i => ?_
        rw [List.getElem?_map, List.getElem?_map, List.getElem?_set]
        split_ifs with heq hlt
        · rw [← heq, hcall]
          rfl
        · rw [← heq, hcall]
          obtain ⟨hlt', -⟩ := List.getElem?_eq_some_iff.mp hcall
          exact absurd hlt' hlt
        · rfl
      have hset {known : RunningCall}
          (hknown : known ∈ process.calls.set position { call with invoked := true }) :
          known = { call with invoked := true } ∨
            ∃ i, i ≠ position ∧ process.calls[i]? = some known := by
        obtain ⟨i, hi⟩ := List.mem_iff_getElem?.mp hknown
        rw [List.getElem?_set] at hi
        split_ifs at hi with heq hlt
        · exact Or.inl (Option.some.inj hi).symm
        · exact Or.inr ⟨i, Ne.symm heq, hi⟩
      constructor
      · rw [hids]
        exact h.distinct
      · intro known hknown
        rcases hset hknown with rfl | ⟨i, -, hi⟩
        · exact h.running call hmem
        · exact h.running known (List.mem_of_getElem? hi)
      · intro known hknown hstill hinvoked
        rcases hset hknown with rfl | ⟨i, hne, hi⟩
        · cases hstill
        · rcases List.mem_append.mp hinvoked with hinvoked | hlast
          · exact h.waiting known (List.mem_of_getElem? hi) hstill hinvoked
          · exact hne (h.eq_of_receiptId hi hcall (List.mem_singleton.mp hlast))
      · intro receiptId hinvoked
        rcases List.mem_append.mp hinvoked with hinvoked | hlast
        · exact h.entered receiptId hinvoked
        · obtain ⟨receipt, hget, -⟩ := h.running call hmem
          rw [List.mem_singleton.mp hlast]
          exact ⟨receipt, hget⟩
      · rw [List.nodup_append]
        refine ⟨h.once, List.nodup_singleton _, fun receiptId hinvoked other hlast heq => ?_⟩
        rw [List.mem_singleton.mp hlast] at heq
        exact h.waiting call hmem hwaiting (heq ▸ hinvoked)
    · rw [Bool.not_eq_false] at hwaiting
      simp only [invoke, hcall, hwaiting, if_true]
      exact h

omit [Sha256] in
private theorem accounted_finish (h : process.Accounted) (position : Nat) :
    (process.finish position).Accounted := by
  cases hcall : process.calls[position]? with
  | none => rwa [finish_of_none hcall]
  | some call =>
    by_cases hinvoked : call.invoked = true
    · rw [finish_of_invoked hcall hinvoked]
      have hsub := List.eraseIdx_sublist process.calls position
      have hother {known : RunningCall} (hknown : known ∈ process.calls.eraseIdx position) :
          known.request.receiptId ≠ call.request.receiptId := by
        obtain ⟨i, hi, hget⟩ := List.mem_eraseIdx_iff_getElem?.mp hknown
        exact fun hid => hi (h.eq_of_receiptId hget hcall hid)
      constructor
      · exact h.distinct.sublist (hsub.map _)
      · intro known hknown
        rw [get?_finished _ (hother hknown)]
        exact h.running known (hsub.subset hknown)
      · exact fun known hknown => h.waiting known (hsub.subset hknown)
      · intro receiptId hentered
        obtain ⟨receipt, hget⟩ := h.entered receiptId hentered
        exact exists_get?_finished hget
      · exact h.once
    · rw [Bool.not_eq_true] at hinvoked
      simp only [finish, hcall, hinvoked, Bool.false_eq_true, if_false]
      exact h

/-- **Every step** keeps the receipts accounted for. -/
theorem accounted_step (process : PilotHostProcess) (step : ThreadStep P)
    (h : process.Accounted) : (ThreadStep.run models process step).Accounted := by
  cases step with
  | arrive host endpoint payload world => exact accounted_arrive h host endpoint payload world
  | invoke position => exact accounted_invoke h position
  | finish position => exact accounted_finish h position
  | restart now =>
    refine ⟨List.nodup_nil, (fun _ hcall => by cases hcall), (fun _ hcall => by cases hcall),
      fun receiptId hentered => ?_, h.once⟩
    obtain ⟨receipt, hget⟩ := h.entered receiptId hentered
    exact ⟨receipt.recover now, (ReceiptStore.get?_recover receiptId).trans (by rw [hget]; rfl)⟩

/-- **Every step** keeps a receipt with an outcome. -/
theorem settled_step {receiptId : String} {receipt : ProviderReceipt}
    (process : PilotHostProcess) (step : ThreadStep P) (h : process.Settled receiptId receipt) :
    (ThreadStep.run models process step).Settled receiptId receipt := by
  obtain ⟨hget, hsettled⟩ := h
  refine ⟨?_, hsettled⟩
  cases step with
  | arrive host endpoint payload world =>
    rw [ThreadStep.run]
    cases hadmission : host.admission models endpoint payload world process.memory.cache with
    | error e => rwa [arrive_of_refused hadmission]
    | ok admitted =>
      cases hbegin : process.memory.receipts.begin (admitted.1.receiptRequest endpoint)
          world.beganAt with
      | error e => rwa [arrive_of_conflict hadmission hbegin]
      | ok begun =>
        rw [arrive_of_begun hadmission hbegin]
        rcases ReceiptStore.begin_eq_ok hbegin with ⟨-, hstore, -⟩ | ⟨hnew, rfl⟩
        · rw [hstore]
          exact hget
        · have habsent := (ReceiptStore.existing_eq_none_iff.mp hnew).1
          refine (ReceiptStore.get?_insert hnew receiptId).trans ((if_neg ?_).trans hget)
          rintro rfl
          cases habsent.symm.trans hget
  | invoke position =>
    rw [ThreadStep.run]
    cases hcall : process.calls[position]? with
    | none => rwa [invoke_of_none hcall]
    | some call =>
      simp only [invoke, hcall]
      split_ifs <;> exact hget
  | finish position =>
    rw [ThreadStep.run]
    cases hcall : process.calls[position]? with
    | none => rwa [finish_of_none hcall]
    | some call =>
      simp only [finish, hcall]
      split_ifs
      · exact get?_finished_of_settled hget hsettled
      · exact hget
  | restart now =>
    refine (ReceiptStore.get?_recover receiptId).trans ?_
    rw [hget, Option.map_some, ProviderReceipt.recover, if_neg hsettled]

end Steps

end PilotHostProcess

/-! ### The law -/

section Law

variable [Sha256] {P : Type} (models : RequestModels P)

/-- **The law of provider calls.** No receipt and no idempotency key has had its provider run twice,
a thread that has not run its provider has a receipt that no thread ran, a receipt with an outcome
stays over every further run, and a restart leaves no receipt in progress: it turns them into
unknown outcomes. -/
structure ProviderLaw (process : PilotHostProcess) : Prop where
  once : process.memory.invocations.Nodup
  once_per_key : (process.memory.invocations.map fun receiptId =>
    (process.memory.receipts.receipts.get? receiptId).map (·.request.idempotencyKey)).Nodup
  entered : ∀ receiptId ∈ process.memory.invocations,
    (process.memory.receipts.receipts.get? receiptId).isSome = true
  running : ∀ call ∈ process.calls, ∃ receipt,
    process.memory.receipts.receipts.get? call.request.receiptId = some receipt ∧
      receipt.status = .inProgress
  settled : ∀ receiptId receipt,
    process.memory.receipts.receipts.get? receiptId = some receipt →
      receipt.status ≠ .inProgress → ∀ later,
        (Run.exec (ThreadStep.run models) process later).memory.receipts.receipts.get? receiptId =
          some receipt
  restarted : ∀ now receiptId receipt,
    process.memory.receipts.receipts.get? receiptId = some receipt →
      receipt.status = .inProgress → ∃ unknown, unknown.status = .transportUnknown ∧
        unknown.request = receipt.request ∧
        (process.restart now).memory.receipts.receipts.get? receiptId = some unknown

/-- **At most one provider call.** After every run of overlapping calls and restarts the law of
provider calls holds. -/
theorem providerLaw_exec (cache : CacheFile) (steps : List (ThreadStep P)) :
    ProviderLaw models (Run.exec (ThreadStep.run models) (.new cache) steps) := by
  have h : (Run.exec (ThreadStep.run models) (.new cache) steps).Accounted :=
    Run.exec_invariant PilotHostProcess.accounted_step steps (PilotHostProcess.accounted_new cache)
  generalize Run.exec (ThreadStep.run models) (.new cache) steps = process at h
  refine ⟨h.once, ?_, fun receiptId hinvoked => ?_, h.running, ?_, ?_⟩
  · refine (List.nodup_map_iff_inj_on h.once).mpr fun one hone other hother hkey => ?_
    obtain ⟨receipt, hget⟩ := h.entered one hone
    obtain ⟨receipt', hget'⟩ := h.entered other hother
    rw [hget, hget', Option.map_some, Option.map_some] at hkey
    exact process.memory.receipts.idempotency_key_unique _ _ _ _ hget hget' (Option.some.inj hkey)
  · obtain ⟨receipt, hget⟩ := h.entered receiptId hinvoked
    rw [hget, Option.isSome_some]
  · intro receiptId receipt hget hsettled later
    have hkept : (Run.exec (ThreadStep.run models) process later).Settled receiptId receipt :=
      Run.exec_invariant PilotHostProcess.settled_step later ⟨hget, hsettled⟩
    exact hkept.1
  · intro now receiptId receipt hget hstatus
    refine ⟨receipt.recover now, ?_, receipt.recover_request now, ?_⟩
    · rw [ProviderReceipt.recover, if_pos hstatus]
    · exact (ReceiptStore.get?_recover receiptId).trans (by rw [hget]; rfl)

end Law

end Nanihold
