import Nanihold.Projection

/-!
# Rebuilding in several calls

A process reads the ledger page by page, and it may read it in several calls of `rebuild` while
other processes go on appending. The page size and the places where the calls stop do not show in
what is rebuilt: the calls together are one rebuild of the ledger as it is at the end.

## Main definitions

* `InMemoryOperationalLedger.appendAll` — what the appends of other processes make of a ledger.
* `OperationalProjection.rebuildCalls` — calls of `rebuild` on a ledger that grows in between.
* `OperationalProjection.RebuildLaw` — what page sizes, split rebuilds and idle rebuilds must give.

## Main results

* `OperationalProjection.rebuildCalls_eq_rebuild` — several calls are one call at the end.
* `OperationalProjection.rebuildLaw` — the law holds of every projection and every ledger.
-/

namespace Nanihold

/-! ### A ledger that grows -/

/-- Appends of other processes, each with the version it expects. A refused one leaves the ledger
as it is. -/
def InMemoryOperationalLedger.appendAll :
    InMemoryOperationalLedger → List (EventEnvelope × Nat) → InMemoryOperationalLedger
  | ledger, [] => ledger
  | ledger, (event, expected) :: appends =>
    match ledger.append event expected with
    | .ok (_, next) => next.appendAll appends
    | .error _ => ledger.appendAll appends

/-- Other processes only add to the events of a ledger. -/
theorem InMemoryOperationalLedger.events_appendAll (ledger : InMemoryOperationalLedger)
    (appends : List (EventEnvelope × Nat)) :
    ledger.events <+: (ledger.appendAll appends).events := by
  induction appends generalizing ledger with
  | nil => exact List.prefix_refl _
  | cons append appends ih =>
    obtain ⟨event, expected⟩ := append
    rw [appendAll]
    cases happend : ledger.append event expected with
    | error e => exact ih ledger
    | ok answer =>
      refine List.IsPrefix.trans ?_ (ih answer.2)
      rcases ledger.append_eq_ok happend with ⟨happ, -, -, hnext⟩ | ⟨-, -, -, -, hnext⟩
      · rw [hnext, push_events]
        exact List.prefix_append _ _
      · rw [hnext]

theorem InMemoryOperationalLedger.appendAll_append (ledger : InMemoryOperationalLedger)
    (first second : List (EventEnvelope × Nat)) :
    ledger.appendAll (first ++ second) = (ledger.appendAll first).appendAll second := by
  induction first generalizing ledger with
  | nil => rfl
  | cons append first ih =>
    obtain ⟨event, expected⟩ := append
    rw [List.cons_append, appendAll, appendAll]
    cases ledger.append event expected with
    | error e => exact ih ledger
    | ok answer => exact ih answer.2

namespace OperationalProjection

/-! ### Calls of `rebuild` -/

/-- A call of `rebuild`, and what other processes append to the ledger before it. -/
structure RebuildCall where
  appends : List (EventEnvelope × Nat)
  pageSize : Nat

/-- Calls of `rebuild` one after the other, until one raises. -/
def rebuildCalls : OperationalProjection → InMemoryOperationalLedger → List RebuildCall →
    Except VsmError (Option OperationalProjection)
  | p, _, [] => .ok (some p)
  | p, ledger, call :: calls => do
    match ← p.rebuild (ledger.appendAll call.appends) call.pageSize with
    | none => return none
    | some next => next.rebuildCalls (ledger.appendAll call.appends) calls

/-- What a rebuild must give: the same for all page sizes, always an end, the same in one call as in
several calls between which the ledger grows, and nothing new from a ledger already read. -/
structure RebuildLaw (p : OperationalProjection) (ledger : InMemoryOperationalLedger) : Prop where
  page_size : ∀ first second, 0 < first → 0 < second →
    p.rebuild ledger first = p.rebuild ledger second
  ends : ∀ pageSize, p.rebuild ledger pageSize ≠ .ok none
  split : ∀ (calls : List RebuildCall) (pageSize : Nat), calls ≠ [] →
    (∀ call ∈ calls, 0 < call.pageSize) → 0 < pageSize →
    p.rebuildCalls ledger calls =
      p.rebuild (ledger.appendAll (calls.flatMap (·.appends))) pageSize
  idle : ∀ (first second : Nat) (reached : OperationalProjection), 0 < second →
    p.rebuild ledger first = .ok (some reached) → reached.rebuild ledger second = .ok (some reached)

/-- A call, and a second one after the ledger has grown, are one call at the end. -/
theorem rebuild_resume (p : OperationalProjection) {ledger longer : InMemoryOperationalLedger}
    (hgrown : ledger.events <+: longer.events) {first second : Nat} (hfirst : 0 < first)
    (hsecond : 0 < second) :
    (p.rebuild ledger first >>= fun reached => match reached with
      | none => .ok none
      | some next => next.rebuild longer second) = p.rebuild longer second := by
  rw [rebuild_eq_replay p ledger hfirst, rebuild_eq_replay p longer hsecond,
    ← EventSourcing.replay_resume cursor_of_applyStored hgrown p]
  cases EventSourcing.replay applyStored p (ledger.events.drop p.cursor) with
  | error e => rfl
  | ok next => exact rebuild_eq_replay next longer hsecond

theorem rebuild_ne_none (p : OperationalProjection) (ledger : InMemoryOperationalLedger)
    (pageSize : Nat) : p.rebuild ledger pageSize ≠ .ok none := by
  intro h
  have hpos : 0 < pageSize := (Checked.check_bind_eq_ok_iff.mp h).1
  rw [rebuild_eq_replay p ledger hpos] at h
  obtain ⟨next, -, hnext⟩ := Checked.bind_eq_ok_iff.mp h
  cases hnext

/-- The page size does not show. -/
theorem rebuild_pageSize (p : OperationalProjection) (ledger : InMemoryOperationalLedger)
    {first second : Nat} (hfirst : 0 < first) (hsecond : 0 < second) :
    p.rebuild ledger first = p.rebuild ledger second := by
  rw [rebuild_eq_replay p ledger hfirst, rebuild_eq_replay p ledger hsecond]

/-- A ledger that has been read has nothing more to give. -/
theorem rebuild_idle (p : OperationalProjection) {ledger : InMemoryOperationalLedger}
    {first second : Nat} {reached : OperationalProjection} (hsecond : 0 < second)
    (h : p.rebuild ledger first = .ok (some reached)) :
    reached.rebuild ledger second = .ok (some reached) := by
  have hfirst : 0 < first := (Checked.check_bind_eq_ok_iff.mp h).1
  have hresume := p.rebuild_resume (List.prefix_refl ledger.events) hfirst hsecond
  rw [h] at hresume
  exact hresume.trans ((p.rebuild_pageSize ledger hsecond hfirst).trans h)

/-- **Several calls are one call at the end.** -/
theorem rebuildCalls_eq_rebuild (p : OperationalProjection) (ledger : InMemoryOperationalLedger)
    (calls : List RebuildCall) {pageSize : Nat} (hne : calls ≠ [])
    (hcalls : ∀ call ∈ calls, 0 < call.pageSize) (hpos : 0 < pageSize) :
    p.rebuildCalls ledger calls =
      p.rebuild (ledger.appendAll (calls.flatMap (·.appends))) pageSize := by
  induction calls generalizing p ledger with
  | nil => exact absurd rfl hne
  | cons call calls ih =>
    obtain ⟨hcall, hrest⟩ := List.forall_mem_cons.mp hcalls
    rw [List.flatMap_cons, InMemoryOperationalLedger.appendAll_append,
      ← p.rebuild_resume ((ledger.appendAll call.appends).events_appendAll _) hcall hpos,
      rebuildCalls]
    cases hread : p.rebuild (ledger.appendAll call.appends) call.pageSize with
    | error e => rfl
    | ok reached =>
      cases reached with
      | none => rfl
      | some next =>
        by_cases hlast : calls = []
        · -- The last call has read the whole ledger, so the call at the end reads nothing.
          obtain rfl := hlast
          exact (p.rebuild_idle hpos hread).symm
        · exact ih next _ hlast hrest

/-- **Page sizes, split rebuilds and idle rebuilds.** -/
theorem rebuildLaw (p : OperationalProjection) (ledger : InMemoryOperationalLedger) :
    p.RebuildLaw ledger where
  page_size _ _ := p.rebuild_pageSize ledger
  ends := p.rebuild_ne_none ledger
  split calls _ hne hcalls hpos := p.rebuildCalls_eq_rebuild ledger calls hne hcalls hpos
  idle _ _ _ hsecond h := p.rebuild_idle hsecond h

end OperationalProjection

end Nanihold
