import Nanihold.Replay.Activation
import Nanihold.Replay.Changes
import Nanihold.System

/-!
# The Kernel's part of the ledger

What the ledger says about the Kernel, its activation aggregate and its owner bootstrap. The
events of the other services are passed over, so the Kernel agrees with the ledger whatever
the Interface or the Token Lab made of theirs.

## Main definitions

* `MemorySystem`, `System.new` — a system over the in-memory ledger.
* `Kernel.applyStored` — one stored event, as far as the Kernel is concerned.
* `System.Stepped` — one recorded event and what it did to the Kernel.
* `System.KernelSynced` — the Kernel is what its part of the ledger gives.

## Main results

* `System.Stepped.kernel_cases` — what a recorded event did to the Kernel's collections.
* `System.kernelSynced_of_stepped` — a recorded event keeps the Kernel synced.
* `kernel_of_replay` — a replay for all services replays the Kernel's part.
-/

namespace Nanihold

/-- The event belongs to the Kernel or to one of the two services inside it. -/
def EventPayload.ofKernel : EventPayload → Bool
  | .kernel _ | .activation _ | .ownerAuth _ => true
  | .interface _ | .tokenLab _ | .routing _ | .environment _ | .external _ => false

/-- The Kernel after a stored event; the events of other services are passed over. -/
def Kernel.applyStored (k : Kernel) (stored : StoredEvent) : Except VsmError Kernel :=
  match stored.event.payload with
  | .kernel payload => applyKernel stored.event payload k
  | .activation payload => do
    let activation ← applyActivation stored.event payload stored.cursor k.activation
    return { k with activation := activation }
  | .ownerAuth payload => do
    let auth ← applyOwnerAuth stored.event payload k.ownerBootstrap
    return { k with ownerBootstrap := auth }
  | .interface _ | .tokenLab _ | .routing _ | .environment _ | .external _ => .ok k

/-! ### Replaying all services replays the Kernel -/

private theorem kernel_of_handle {p next : OperationalProjection} {stored : StoredEvent}
    (hcursor : stored.cursor = p.cursor + 1) (h : p.handle stored.event = .ok next) :
    p.kernel.applyStored stored = .ok next.kernel := by
  rw [OperationalProjection.handle] at h
  rw [Kernel.applyStored]
  cases hpayload : stored.event.payload with
  | external payload =>
    simp only [hpayload, reduceCtorEq, throw, throwThe, MonadExceptOf.throw] at h
  | environment payload =>
    simp only [hpayload, reduceCtorEq, throw, throwThe, MonadExceptOf.throw] at h
  | kernel payload =>
    simp only [hpayload, Checked.bind_eq_ok_iff, Checked.pure_eq_ok_iff] at h
    obtain ⟨kernel, hkernel, rfl⟩ := h
    exact hkernel
  | activation payload =>
    simp only [hpayload, Checked.bind_eq_ok_iff, Checked.pure_eq_ok_iff] at h
    obtain ⟨activation, hactivation, rfl⟩ := h
    simp only [hcursor, hactivation]
    rfl
  | ownerAuth payload =>
    simp only [hpayload, Checked.bind_eq_ok_iff, Checked.pure_eq_ok_iff] at h
    obtain ⟨auth, hauth, rfl⟩ := h
    simp only [hauth]
    rfl
  | interface payload =>
    simp only [hpayload, Checked.bind_eq_ok_iff, Checked.pure_eq_ok_iff] at h
    obtain ⟨interface, -, rfl⟩ := h
    rfl
  | tokenLab payload =>
    simp only [hpayload, Checked.orRaise_bind_eq_ok_iff] at h
    obtain ⟨known, -, h⟩ := h
    obtain ⟨tokenLab, -, hnext⟩ := Checked.bind_eq_ok_iff.mp h
    obtain rfl := Checked.pure_eq_ok_iff.mp hnext
    rfl
  | routing payload =>
    simp only [hpayload, Checked.orRaise_bind_eq_ok_iff] at h
    obtain ⟨known, -, h⟩ := h
    obtain ⟨routingEvidence, -, hnext⟩ := Checked.bind_eq_ok_iff.mp h
    obtain rfl := Checked.pure_eq_ok_iff.mp hnext
    rfl

theorem kernel_of_applyStored {p next : OperationalProjection} {stored : StoredEvent}
    (h : p.applyStored stored = .ok next) : p.kernel.applyStored stored = .ok next.kernel := by
  rw [OperationalProjection.applyStored, Checked.check_bind_eq_ok_iff,
    Checked.bind_eq_ok_iff] at h
  obtain ⟨hcursor, mid, happly, hnext⟩ := h
  obtain rfl := Checked.pure_eq_ok_iff.mp hnext
  rw [OperationalProjection.apply, Checked.check_bind_eq_ok_iff] at happly
  obtain ⟨-, happly⟩ := happly
  split at happly
  · next payload hpayload =>
    rw [Checked.check_bind_eq_ok_iff, Checked.pure_eq_ok_iff] at happly
    obtain ⟨-, rfl⟩ := happly
    rw [Kernel.applyStored, hpayload]
  · rw [Checked.check_bind_eq_ok_iff] at happly
    exact (kernel_of_handle hcursor happly.2 :)

/-- A replay for all services replays the Kernel's part. -/
theorem kernel_of_replay {events : List StoredEvent} {p next : OperationalProjection}
    (h : EventSourcing.replay OperationalProjection.applyStored p events = .ok next) :
    EventSourcing.replay Kernel.applyStored p.kernel events = .ok next.kernel := by
  induction events generalizing p with
  | nil =>
    obtain rfl := Except.ok.inj h
    rfl
  | cons stored events ih =>
    obtain ⟨mid, hmid, hrest⟩ := Checked.bind_eq_ok_iff.mp h
    rw [EventSourcing.replay_cons, kernel_of_applyStored hmid]
    exact ih hrest

/-! ### One recorded event -/

/-- A system over the in-memory ledger. -/
abbrev MemorySystem := System InMemoryOperationalLedger

namespace System

/-- A system that has recorded no event. -/
def new (dataSpace : DataSpace) : MemorySystem where
  ledger := .new dataSpace.dataSpaceId
  kernel := .new dataSpace
  interface := .new dataSpace.dataSpaceId
  tokenLab := .new dataSpace.dataSpaceId
  environments _ := .new dataSpace.dataSpaceId

/-- The system after a blob was stored. -/
def putBlob [Sha256] (s : MemorySystem) (data : Document) : MemorySystem :=
  { s with ledger := s.ledger.putBlob data }

variable (s : MemorySystem) {s' : MemorySystem} {event : EventEnvelope}

/-- The version at which the service that writes events of this family knows a stream. -/
def writerVersion (streamId : String) : EventPayload → Nat
  | .kernel _ => s.kernel.versions.getD streamId 0
  | .activation _ => s.kernel.activation.version
  | .ownerAuth _ => s.kernel.ownerBootstrap.version
  | .interface _ => s.interface.versions.getD streamId 0
  | .tokenLab _ => s.tokenLab.versions.getD streamId 0
  | .routing _ | .environment _ | .external _ => 0

variable {s}

/-- What one event did to the Kernel: the service that wrote it permitted it, and its handler
makes the same change; an event of another service did nothing. -/
inductive KernelWrote (s : MemorySystem) (event : EventEnvelope) (s' : MemorySystem) : Prop
  | kernel (payload : KernelPayload) (payload_eq : event.payload = .kernel payload)
      (permitted : s.kernel.Permits event payload)
      (applied : applyKernel event payload s.kernel = .ok s'.kernel)
  | activation (payload : ActivationPayload) (payload_eq : event.payload = .activation payload)
      (stream : event.streamId = s.kernel.activation.streamId)
      (permitted : s.kernel.activation.Permits event payload)
      (applied : applyActivation event payload (s.ledger.events.length + 1)
        s.kernel.activation = .ok s'.kernel.activation)
      (kernel_eq : s'.kernel = { s.kernel with activation := s'.kernel.activation })
  | ownerAuth (payload : OwnerAuthPayload) (payload_eq : event.payload = .ownerAuth payload)
      (stream : event.streamId = s.kernel.ownerBootstrap.streamId)
      (applied : applyOwnerAuth event payload s.kernel.ownerBootstrap =
        .ok s'.kernel.ownerBootstrap)
      (kernel_eq : s'.kernel = { s.kernel with ownerBootstrap := s'.kernel.ownerBootstrap })
  | other (not_kernel : event.payload.ofKernel = false) (kernel_eq : s'.kernel = s.kernel)

/-- One recorded event: appended as the next of its stream, the next that its service knows,
and written by its service. -/
structure Stepped (s : MemorySystem) (event : EventEnvelope) (s' : MemorySystem) : Prop where
  appended : ∃ happ : s.ledger.Appendable event, s'.ledger = s.ledger.push event happ
  next_version : event.streamVersion = s.writerVersion event.streamId event.payload + 1
  wrote : KernelWrote s event s'

/-- A recorded event stands at the end of the ledger. -/
theorem Stepped.events (h : s.Stepped event s') :
    s'.ledger.events = s.ledger.events ++ [s.ledger.store event] := by
  obtain ⟨_, hledger⟩ := h.appended
  rw [hledger, InMemoryOperationalLedger.push_events]

/-- The Kernel passes over an event that is not its own. -/
theorem applyStored_of_not_ofKernel {k : Kernel} {stored : StoredEvent}
    (h : stored.event.payload.ofKernel = false) : k.applyStored stored = .ok k := by
  rw [Kernel.applyStored]
  cases hpayload : stored.event.payload <;> simp_all [EventPayload.ofKernel]

/-- The Kernel's handler of a written event reaches the new Kernel. -/
theorem Stepped.applied (h : s.Stepped event s') :
    s.kernel.applyStored (s.ledger.store event) = .ok s'.kernel := by
  have hcursor : (s.ledger.store event).cursor = s.ledger.events.length + 1 := rfl
  have hevent : (s.ledger.store event).event = event := rfl
  cases h.wrote with
  | kernel payload hpayload _ happlied =>
    simp only [Kernel.applyStored, hevent, hpayload, happlied]
  | activation payload hpayload _ _ happlied hkernel =>
    simp only [Kernel.applyStored, hevent, hpayload, hcursor, happlied]
    rw [hkernel]
    rfl
  | ownerAuth payload hpayload _ happlied hkernel =>
    simp only [Kernel.applyStored, hevent, hpayload, happlied]
    rw [hkernel]
    rfl
  | other hother hkernel =>
    rw [hkernel]
    exact applyStored_of_not_ofKernel hother

/-- What a Kernel event did. -/
theorem Stepped.kernel (h : s.Stepped event s') {payload : KernelPayload}
    (hpayload : event.payload = .kernel payload) :
    s.kernel.Permits event payload ∧ applyKernel event payload s.kernel = .ok s'.kernel := by
  cases h.wrote with
  | kernel known hknown hpermits happlied =>
    obtain rfl := EventPayload.kernel.inj (hknown.symm.trans hpayload)
    exact ⟨hpermits, happlied⟩
  | activation _ hknown => exact nomatch hknown.symm.trans hpayload
  | ownerAuth _ hknown => exact nomatch hknown.symm.trans hpayload
  | other hother =>
    rw [hpayload] at hother
    exact nomatch hother

/-- What an activation event did. -/
theorem Stepped.activation (h : s.Stepped event s') {payload : ActivationPayload}
    (hpayload : event.payload = .activation payload) :
    s.kernel.activation.Permits event payload ∧
      applyActivation event payload (s.ledger.events.length + 1) s.kernel.activation =
        .ok s'.kernel.activation ∧
      s'.kernel = { s.kernel with activation := s'.kernel.activation } := by
  cases h.wrote with
  | kernel _ hknown => exact nomatch hknown.symm.trans hpayload
  | activation known hknown _ hpermits happlied hkernel =>
    obtain rfl := EventPayload.activation.inj (hknown.symm.trans hpayload)
    exact ⟨hpermits, happlied, hkernel⟩
  | ownerAuth _ hknown => exact nomatch hknown.symm.trans hpayload
  | other hother =>
    rw [hpayload] at hother
    exact nomatch hother

/-! ### The invariant -/

/-- **The live Kernel is the replayed one**, with what the argument needs: no stored event of
the Kernel is ahead of the service that wrote it, and the collections are consistent. -/
structure KernelSynced (s : MemorySystem) : Prop where
  kernel_replayed : EventSourcing.replay Kernel.applyStored (.new s.kernel.dataSpace)
    s.ledger.events = .ok s.kernel
  data_space : s.ledger.dataSpaceId = s.kernel.dataSpace.dataSpaceId
  kernel_versions : ∀ stored ∈ s.ledger.events, stored.event.payload.ofKernel = true →
    stored.event.streamVersion ≤ s.writerVersion stored.event.streamId stored.event.payload
  consistent : s.kernel.Consistent
  settled : s.kernel.activation.Settled
  keyed : s.kernel.ownerBootstrap.Keyed

theorem kernelSynced_new (dataSpace : DataSpace) : (System.new dataSpace).KernelSynced where
  kernel_replayed := rfl
  data_space := rfl
  kernel_versions _ h := nomatch h
  consistent := Kernel.consistent_new dataSpace
  settled := ActivationService.settled_new _
  keyed := OwnerBootstrapService.keyed_new _ _

theorem kernelSynced_putBlob [Sha256] (hs : s.KernelSynced) (data : Document) :
    (s.putBlob data).KernelSynced :=
  { hs with }

/-- **What an event did to the Kernel's collections**: a Kernel event changed them as its
handler does, and every other event left them alone. -/
theorem Stepped.kernel_cases (hs : s.KernelSynced) (h : s.Stepped event s') :
    (∃ payload, event.payload = .kernel payload ∧ s.kernel.Permits event payload ∧
      s.kernel.Changes event payload s'.kernel) ∨
    ((∀ payload, event.payload ≠ .kernel payload) ∧
      ∃ activation auth,
        s'.kernel = { s.kernel with activation := activation, ownerBootstrap := auth }) := by
  cases h.wrote with
  | kernel payload hpayload hpermits happlied =>
    exact Or.inl ⟨payload, hpayload, hpermits, Kernel.changes_of_applyKernel hs.consistent happlied⟩
  | activation payload hpayload _ _ _ hkernel =>
    exact Or.inr ⟨by simp [hpayload], s'.kernel.activation, s.kernel.ownerBootstrap, hkernel⟩
  | ownerAuth payload hpayload _ _ hkernel =>
    exact Or.inr ⟨by simp [hpayload], s.kernel.activation, s'.kernel.ownerBootstrap, hkernel⟩
  | other hother hkernel =>
    refine Or.inr ⟨fun payload hpayload => ?_, s.kernel.activation, s.kernel.ownerBootstrap,
      hkernel⟩
    rw [hpayload] at hother
    exact nomatch hother

theorem Stepped.data_space (hs : s.KernelSynced) (h : s.Stepped event s') :
    s'.kernel.dataSpace = s.kernel.dataSpace := by
  rcases h.kernel_cases hs with ⟨payload, -, -, hchanges⟩ | ⟨-, activation, auth, hkernel⟩
  · exact hchanges.data_space
  · rw [hkernel]

/-- A Kernel event leaves the stream and the version of the activation aggregate alone. -/
theorem activation_of_changes {k next : Kernel} {payload : KernelPayload}
    (h : k.Changes event payload next) :
    next.activation.streamId = k.activation.streamId ∧
      next.activation.version = k.activation.version := by
  rw [h.activation]
  cases payload <;> exact ⟨rfl, rfl⟩

/-- A written event does not lower the version of any stream of the Kernel, and its service
knows it. -/
theorem Stepped.writerVersion (hs : s.KernelSynced) (h : s.Stepped event s') (streamId : String)
    {family : EventPayload} (hfamily : family.ofKernel = true) :
    s.writerVersion streamId family ≤ s'.writerVersion streamId family := by
  have hnext := h.next_version
  cases h.wrote with
  | kernel payload hpayload _ happlied =>
    have hchanges := Kernel.changes_of_applyKernel hs.consistent happlied
    have hactivation := (activation_of_changes hchanges).2
    rw [hpayload, System.writerVersion] at hnext
    cases family <;>
      simp only [System.writerVersion, hactivation, hchanges.owner_bootstrap, hchanges.versions,
        le_refl, EventPayload.ofKernel, Bool.false_eq_true] at hfamily ⊢
    exact OrderedDict.getD_le_getD_set (by omega) streamId
  | activation payload hpayload _ _ happlied hkernel =>
    have hraised := (ActivationService.frame_of_applyActivation happlied).2
    have hversions : s'.kernel.versions = s.kernel.versions := by rw [hkernel]
    have howner : s'.kernel.ownerBootstrap = s.kernel.ownerBootstrap := by rw [hkernel]
    rw [hpayload, System.writerVersion] at hnext
    cases family <;>
      simp only [System.writerVersion, hversions, howner, le_refl, EventPayload.ofKernel,
        Bool.false_eq_true] at hfamily ⊢
    omega
  | ownerAuth payload hpayload _ happlied hkernel =>
    have hraised := (OwnerBootstrapService.frame_of_applyOwnerAuth happlied).2
    have hversions : s'.kernel.versions = s.kernel.versions := by rw [hkernel]
    have hactivation : s'.kernel.activation = s.kernel.activation := by rw [hkernel]
    rw [hpayload, System.writerVersion] at hnext
    cases family <;>
      simp only [System.writerVersion, hversions, hactivation, le_refl, EventPayload.ofKernel,
        Bool.false_eq_true] at hfamily ⊢
    omega
  | other _ hkernel =>
    cases family <;>
      simp only [System.writerVersion, hkernel, le_refl, EventPayload.ofKernel,
        Bool.false_eq_true] at hfamily ⊢

/-- After a written event of the Kernel its service knows its version. -/
theorem Stepped.writerVersion_self (hs : s.KernelSynced) (h : s.Stepped event s')
    (hown : event.payload.ofKernel = true) :
    s'.writerVersion event.streamId event.payload = event.streamVersion := by
  cases h.wrote with
  | kernel payload hpayload _ happlied =>
    have hchanges := Kernel.changes_of_applyKernel hs.consistent happlied
    rw [hpayload, System.writerVersion, hchanges.versions, OrderedDict.getD_set_self]
  | activation payload hpayload _ _ happlied _ =>
    rw [hpayload, System.writerVersion, (ActivationService.frame_of_applyActivation happlied).2]
  | ownerAuth payload hpayload _ happlied _ =>
    rw [hpayload, System.writerVersion, (OwnerBootstrapService.frame_of_applyOwnerAuth happlied).2]
  | other hother _ => exact nomatch hown.symm.trans hother

theorem Stepped.consistent (hs : s.KernelSynced) (h : s.Stepped event s') :
    s'.kernel.Consistent := by
  cases h.wrote with
  | kernel payload _ hpermits happlied =>
    exact Kernel.consistent_of_applyKernel hs.consistent hpermits happlied
  | activation _ _ _ _ _ hkernel =>
    rw [hkernel]
    exact { hs.consistent with }
  | ownerAuth _ _ _ _ hkernel =>
    rw [hkernel]
    exact { hs.consistent with }
  | other _ hkernel => exact hkernel ▸ hs.consistent

theorem Stepped.settled (hs : s.KernelSynced) (h : s.Stepped event s') :
    s'.kernel.activation.Settled := by
  cases h.wrote with
  | kernel payload _ hpermits happlied =>
    rw [(Kernel.changes_of_applyKernel hs.consistent happlied).activation]
    cases payload <;> exact { hs.settled with }
  | activation payload _ _ hpermits happlied _ =>
    exact ActivationService.settled_of_applyActivation hs.settled hpermits happlied
  | ownerAuth _ _ _ _ hkernel =>
    rw [hkernel]
    exact hs.settled
  | other _ hkernel => exact hkernel ▸ hs.settled

theorem Stepped.keyed (hs : s.KernelSynced) (h : s.Stepped event s') :
    s'.kernel.ownerBootstrap.Keyed := by
  cases h.wrote with
  | kernel payload _ hpermits happlied =>
    rw [(Kernel.changes_of_applyKernel hs.consistent happlied).owner_bootstrap]
    exact hs.keyed
  | activation payload _ _ hpermits happlied hkernel =>
    rw [hkernel]
    exact hs.keyed
  | ownerAuth _ _ _ happlied _ =>
    exact OwnerBootstrapService.keyed_of_applyOwnerAuth hs.keyed happlied
  | other _ hkernel => exact hkernel ▸ hs.keyed

/-- **A recorded event keeps the Kernel synced.** -/
theorem kernelSynced_of_stepped (hs : s.KernelSynced) (h : s.Stepped event s') :
    s'.KernelSynced := by
  have hspace := h.data_space hs
  constructor
  · rw [hspace, h.events]
    exact EventSourcing.replay_concat _ hs.kernel_replayed h.applied
  · obtain ⟨_, hledger⟩ := h.appended
    rw [hledger, hspace]
    exact hs.data_space
  · intro stored hstored hown
    rw [h.events, List.mem_append, List.mem_singleton] at hstored
    rcases hstored with hold | rfl
    · exact (hs.kernel_versions stored hold hown).trans (h.writerVersion hs _ hown)
    · exact (h.writerVersion_self hs hown).ge
  · exact h.consistent hs
  · exact h.settled hs
  · exact h.keyed hs

end System

end Nanihold
