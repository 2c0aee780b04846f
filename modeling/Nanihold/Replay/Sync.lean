import Nanihold.Replay.Interface
import Nanihold.Replay.KernelSync

/-!
# Live state and replayed state

A system whose services are what a rebuild of the ledger gives. Each recorded event that its
service permits and its handler repeats keeps the system so; the argument is made once for all
services.

## Main definitions

* `System.view` — the live services as a projection that has read the whole ledger.
* `System.Synced` — the invariant.
* `System.OthersWrote`, `System.Mirrored` — one recorded event that every handler repeats.

## Main results

* `System.synced_of_mirrored` — such an event keeps the invariant.
* `System.rebuild_of_synced` — a rebuild with any page size gives the live services.
-/

namespace Nanihold

namespace System

variable (s : MemorySystem) {s' : MemorySystem} {event : EventEnvelope}

/-- The live services as a projection that has read the whole ledger. -/
def view : OperationalProjection where
  kernel := s.kernel
  interface := s.interface
  tokenLab := some s.tokenLab
  cursor := s.ledger.events.length

/-- **The live services are the replayed ones**: the Kernel is, so are the others, the services
know the length of every stream, and no stored event of theirs is ahead of the service that
wrote it. -/
structure Synced : Prop extends s.KernelSynced where
  replayed : EventSourcing.replay OperationalProjection.applyStored
    (.fresh s.kernel.dataSpace) s.ledger.events = .ok s.view
  versions : ∀ streamId, s.view.knownVersion streamId = s.ledger.streamLength streamId
  other_versions : ∀ stored ∈ s.ledger.events, stored.event.payload.ofKernel = false →
    stored.event.streamVersion ≤ s.writerVersion stored.event.streamId stored.event.payload

theorem synced_new (dataSpace : DataSpace) : (System.new dataSpace).Synced where
  toKernelSynced := kernelSynced_new dataSpace
  replayed := rfl
  versions streamId := by
    have hzero (own : String) : OperationalProjection.singleStreamVersion own 0 streamId = 0 :=
      ite_self 0
    change max 0 (max 0 (max 0 (max (OperationalProjection.singleStreamVersion _ 0 streamId)
      (OperationalProjection.singleStreamVersion _ 0 streamId)))) = 0
    rw [hzero, hzero]
    rfl
  other_versions _ h := nomatch h

variable {s}

theorem synced_putBlob [Sha256] (hs : s.Synced) (data : Document) : (s.putBlob data).Synced :=
  { hs with }

/-! ### One recorded event -/

/-- What one event did to the services beside the Kernel: its handler makes the same change. -/
inductive OthersWrote (s : MemorySystem) (event : EventEnvelope) (s' : MemorySystem) : Prop
  | kernel (own : event.payload.ofKernel = true) (interface_eq : s'.interface = s.interface)
      (tokenLab_eq : s'.tokenLab = s.tokenLab)
  | interface (payload : InterfacePayload) (payload_eq : event.payload = .interface payload)
      (applied : applyInterface event payload (s.ledger.events.length + 1) s.interface =
        .ok s'.interface)
      (tokenLab_eq : s'.tokenLab = s.tokenLab)
  | tokenLab (payload : TokenLabPayload) (payload_eq : event.payload = .tokenLab payload)
      (applied : applyTokenLab event payload s.tokenLab = .ok s'.tokenLab)
      (interface_eq : s'.interface = s.interface)

/-- One recorded event whose change every handler repeats. -/
structure Mirrored (s : MemorySystem) (event : EventEnvelope) (s' : MemorySystem) : Prop where
  stepped : s.Stepped event s'
  others : OthersWrote s event s'

private theorem kernel_eq_of_others (h : s.Stepped event s')
    (hother : event.payload.ofKernel = false) : s'.kernel = s.kernel := by
  cases h.wrote with
  | kernel _ hpayload => exact nomatch (hpayload ▸ hother :)
  | activation _ hpayload => exact nomatch (hpayload ▸ hother :)
  | ownerAuth _ hpayload => exact nomatch (hpayload ▸ hother :)
  | other _ hkernel => exact hkernel

/-- The handler of a written event reaches the new services. -/
theorem Mirrored.handled (h : s.Mirrored event s') :
    s.view.handle event = .ok { s'.view with cursor := s.view.cursor } := by
  cases h.others with
  | kernel hown hinterface htokenLab =>
    cases h.stepped.wrote with
    | kernel payload hpayload _ happlied =>
      simp only [OperationalProjection.handle, hpayload, view, happlied, hinterface, htokenLab]
      rfl
    | activation payload hpayload _ _ happlied hkernel =>
      simp only [OperationalProjection.handle, hpayload, view, happlied, hinterface, htokenLab]
      rw [hkernel]
      rfl
    | ownerAuth payload hpayload _ happlied hkernel =>
      simp only [OperationalProjection.handle, hpayload, view, happlied, hinterface, htokenLab]
      rw [hkernel]
      rfl
    | other hother => cases hown.symm.trans hother
  | interface payload hpayload happlied htokenLab =>
    have hkernel := kernel_eq_of_others h.stepped (by rw [hpayload]; rfl)
    simp only [OperationalProjection.handle, hpayload, view, happlied, hkernel, htokenLab]
    rfl
  | tokenLab payload hpayload happlied hinterface =>
    have hkernel := kernel_eq_of_others h.stepped (by rw [hpayload]; rfl)
    simp only [OperationalProjection.handle, hpayload, view, Checked.orRaise_some_bind, happlied,
      hkernel, hinterface]
    rfl

theorem OthersWrote.not_external (h : OthersWrote s event s') (payload : ExternalPayload) :
    event.payload ≠ .external payload := by
  intro hpayload
  cases h with
  | kernel hown => exact nomatch (hpayload ▸ hown :)
  | interface _ hknown => exact nomatch hknown.symm.trans hpayload
  | tokenLab _ hknown => exact nomatch hknown.symm.trans hpayload

/-! ### Versions -/

open OperationalProjection (singleStreamVersion)

private theorem singleStreamVersion_raise (own streamId : String) (version raised : Nat) :
    singleStreamVersion own raised streamId =
      if own = streamId then raised else singleStreamVersion own version streamId := by
  unfold singleStreamVersion
  by_cases h : own = streamId
  · rw [if_pos h, if_pos h.symm]
  · rw [if_neg h, if_neg (Ne.symm h), if_neg (Ne.symm h)]

/-- A written event raises the version known of its own stream and of no other. -/
theorem Mirrored.knownVersion (hs : s.Synced) (h : s.Mirrored event s')
    (hversion : event.streamVersion = s.view.knownVersion event.streamId + 1)
    (streamId : String) :
    s'.view.knownVersion streamId =
      s.view.knownVersion streamId + if event.streamId = streamId then 1 else 0 := by
  simp only [view, OperationalProjection.knownVersion] at hversion ⊢
  cases h.others with
  | kernel hown hinterface htokenLab =>
    cases h.stepped.wrote with
    | kernel payload _ _ happlied =>
      have hchanges := Kernel.changes_of_applyKernel hs.consistent happlied
      obtain ⟨hstream, hactivation⟩ := activation_of_changes hchanges
      rw [hinterface, htokenLab, hstream, hactivation, hchanges.owner_bootstrap,
        hchanges.versions, OrderedDict.getD_set]
      split_ifs with heq
      · rw [← heq]
        omega
      · rw [Nat.add_zero]
    | activation payload _ hown _ happlied hkernel =>
      obtain ⟨hstream, hactivation⟩ := ActivationService.frame_of_applyActivation happlied
      have hversions : s'.kernel.versions = s.kernel.versions := by rw [hkernel]
      have howner : s'.kernel.ownerBootstrap = s.kernel.ownerBootstrap := by rw [hkernel]
      rw [hinterface, htokenLab, hstream, hactivation, hversions, howner,
        singleStreamVersion_raise s.kernel.activation.streamId streamId s.kernel.activation.version]
      rw [← hown] at hversion ⊢
      split_ifs with heq
      · rw [← heq]
        omega
      · rw [Nat.add_zero]
    | ownerAuth payload _ hown happlied hkernel =>
      obtain ⟨hstream, howner⟩ := OwnerBootstrapService.frame_of_applyOwnerAuth happlied
      have hversions : s'.kernel.versions = s.kernel.versions := by rw [hkernel]
      have hactivation : s'.kernel.activation = s.kernel.activation := by rw [hkernel]
      rw [hinterface, htokenLab, hstream, howner, hversions, hactivation,
        singleStreamVersion_raise s.kernel.ownerBootstrap.streamId streamId
          s.kernel.ownerBootstrap.version]
      rw [← hown] at hversion ⊢
      split_ifs with heq
      · rw [← heq]
        omega
      · rw [Nat.add_zero]
    | other hother => cases hown.symm.trans hother
  | interface payload hpayload happlied htokenLab =>
    have hkernel := kernel_eq_of_others h.stepped (by rw [hpayload]; rfl)
    rw [hkernel, htokenLab, versions_of_applyInterface happlied, OrderedDict.getD_set]
    split_ifs with heq
    · rw [← heq]
      omega
    · rw [Nat.add_zero]
  | tokenLab payload hpayload happlied hinterface =>
    have hkernel := kernel_eq_of_others h.stepped (by rw [hpayload]; rfl)
    rw [hkernel, hinterface, versions_of_applyTokenLab happlied, OrderedDict.getD_set]
    split_ifs with heq
    · rw [← heq]
      omega
    · rw [Nat.add_zero]

/-- A written event does not lower a version of the services beside the Kernel. -/
theorem Mirrored.writerVersion (h : s.Mirrored event s') (streamId : String)
    {family : EventPayload} (hfamily : family.ofKernel = false) :
    s.writerVersion streamId family ≤ s'.writerVersion streamId family := by
  have hnext := h.stepped.next_version
  cases h.others with
  | kernel _ hinterface htokenLab =>
    cases family <;>
      simp only [System.writerVersion, hinterface, htokenLab, le_refl, EventPayload.ofKernel,
        Bool.true_eq_false] at hfamily ⊢
  | interface payload hpayload happlied htokenLab =>
    rw [hpayload, System.writerVersion] at hnext
    cases family <;>
      simp only [System.writerVersion, versions_of_applyInterface happlied, htokenLab, le_refl,
        EventPayload.ofKernel, Bool.true_eq_false] at hfamily ⊢
    exact OrderedDict.getD_le_getD_set (by omega) streamId
  | tokenLab payload hpayload happlied hinterface =>
    rw [hpayload, System.writerVersion] at hnext
    cases family <;>
      simp only [System.writerVersion, versions_of_applyTokenLab happlied, hinterface, le_refl,
        EventPayload.ofKernel, Bool.true_eq_false] at hfamily ⊢
    exact OrderedDict.getD_le_getD_set (by omega) streamId

/-- After a written event of a service beside the Kernel, that service knows its version. -/
theorem Mirrored.writerVersion_self (h : s.Mirrored event s')
    (hother : event.payload.ofKernel = false) :
    s'.writerVersion event.streamId event.payload = event.streamVersion := by
  cases h.others with
  | kernel hown => exact nomatch hown.symm.trans hother
  | interface payload hpayload happlied _ =>
    rw [hpayload, System.writerVersion, versions_of_applyInterface happlied,
      OrderedDict.getD_set_self]
  | tokenLab payload hpayload happlied _ =>
    rw [hpayload, System.writerVersion, versions_of_applyTokenLab happlied,
      OrderedDict.getD_set_self]

/-! ### The invariant -/

/-- The projection of the new system accepts the event. -/
private theorem Mirrored.accepted (hs : s.Synced) (h : s.Mirrored event s')
    (hversion : event.streamVersion = s.view.knownVersion event.streamId + 1) :
    s.view.applyStored (s.ledger.store event) = .ok s'.view := by
  obtain ⟨happ, -⟩ := h.stepped.appended
  have hspace : event.dataSpaceId = s.view.kernel.dataSpace.dataSpaceId :=
    happ.data_space.trans hs.data_space
  have happly : s.view.apply event = .ok { s'.view with cursor := s.view.cursor } := by
    rw [OperationalProjection.apply, Checked.check_bind_of hspace]
    split
    · next payload hpayload => exact absurd hpayload (h.others.not_external payload)
    · rw [Checked.check_bind_of hversion]
      exact h.handled
  have hcursor : (s.ledger.store event).cursor = s.view.cursor + 1 := rfl
  have hlength : s'.view.cursor = s.ledger.events.length + 1 := by
    rw [view, h.stepped.events, List.length_append, List.length_singleton]
  rw [OperationalProjection.applyStored, Checked.check_bind_of hcursor]
  change (s.view.apply event >>= _) = _
  rw [happly]
  change Except.ok { s'.view with cursor := s.ledger.events.length + 1 } = _
  rw [← hlength]

/-- **A recorded event that every handler repeats keeps the invariant.** -/
theorem synced_of_mirrored (hs : s.Synced) (h : s.Mirrored event s') : s'.Synced := by
  obtain ⟨happ, hledger⟩ := h.stepped.appended
  have hversion : event.streamVersion = s.view.knownVersion event.streamId + 1 := by
    rw [hs.versions]
    exact happ.next_version
  refine ⟨kernelSynced_of_stepped hs.toKernelSynced h.stepped, ?_, ?_, ?_⟩
  · rw [h.stepped.events, h.stepped.data_space hs.toKernelSynced]
    exact EventSourcing.replay_concat _ hs.replayed (h.accepted hs hversion)
  · intro streamId
    rw [h.knownVersion hs hversion, hledger, hs.versions,
      InMemoryOperationalLedger.push_streamLength]
  · intro stored hstored hother
    rw [h.stepped.events, List.mem_append, List.mem_singleton] at hstored
    rcases hstored with hold | rfl
    · exact (hs.other_versions stored hold hother).trans (h.writerVersion _ hother)
    · exact (h.writerVersion_self hother).ge

/-- **A rebuild gives the live services**, whatever the page size. -/
theorem rebuild_of_synced (hs : s.Synced) {pageSize : Nat} (hpos : 0 < pageSize) :
    (OperationalProjection.fresh s.kernel.dataSpace).rebuild s.ledger pageSize =
      .ok (some s.view) := by
  rw [OperationalProjection.rebuild_eq_replay _ _ hpos]
  change (EventSourcing.replay _ _ (s.ledger.events.drop 0) >>= _) = _
  rw [List.drop_zero, hs.replayed]
  rfl

/-- A rebuild that succeeds gives the live Kernel, whatever the other services did. -/
theorem kernel_of_rebuild (hs : s.KernelSynced) {pageSize : Nat} (hpos : 0 < pageSize)
    {rebuilt : OperationalProjection}
    (h : (OperationalProjection.fresh s.kernel.dataSpace).rebuild s.ledger pageSize =
      .ok (some rebuilt)) : rebuilt.kernel = s.kernel := by
  rw [OperationalProjection.rebuild_eq_replay _ _ hpos] at h
  obtain ⟨final, hreplay, hfinal⟩ := Checked.bind_eq_ok_iff.mp h
  obtain rfl := Option.some.inj (Except.ok.inj hfinal)
  have hkernel := kernel_of_replay hreplay
  exact (Except.ok.inj (hs.kernel_replayed.symm.trans hkernel)).symm

end System

end Nanihold
