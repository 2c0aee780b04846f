import Nanihold.Replay.Requests

/-!
# Rebuilt services

What a rebuild gives when it succeeds, whether or not the live Interface service agreed with the
ledger: the live Kernel, and an Interface service and a Token Lab that know every stored event of
theirs.

## Main definitions

* `OperationalProjection.knows` — the version at which the service that writes events of a family
  is rebuilt.

## Main results

* `interface_of_applyStored` — what one event does to the Interface service being rebuilt.
* `finalState_bootstrap_cases` — a start changes nothing, or it interrupts the lost attempt in the
  rebuilt services.
* `othersKnown_services` — rebuilt services know their events.
-/

namespace Nanihold

/-- The version of a stream that the rebuilt service knows that writes events of this family. -/
def OperationalProjection.knows (p : OperationalProjection) (streamId : String) :
    EventPayload → Nat
  | .interface _ => p.interface.versions.getD streamId 0
  | .tokenLab _ => (p.tokenLab.map (·.versions.getD streamId 0)).getD 0
  | .kernel _ | .activation _ | .ownerAuth _ | .routing _ | .environment _ | .external _ => 0

variable {p next : OperationalProjection} {stored : StoredEvent}

/-- The parts of an accepted event: it is passed over, or it continues its stream and is handled. -/
theorem applied_of_applyStored (h : p.applyStored stored = .ok next) :
    (∃ payload, stored.event.payload = .external payload ∧
      next = { p with cursor := stored.cursor }) ∨
    ∃ mid, p.handle stored.event = .ok mid ∧ next = { mid with cursor := stored.cursor } ∧
      stored.cursor = p.cursor + 1 ∧
      stored.event.streamVersion = p.knownVersion stored.event.streamId + 1 := by
  rw [OperationalProjection.applyStored, Checked.check_bind_eq_ok_iff,
    Checked.bind_eq_ok_iff] at h
  obtain ⟨hcursor, mid, happly, hnext⟩ := h
  obtain rfl := Checked.pure_eq_ok_iff.mp hnext
  rw [OperationalProjection.apply, Checked.check_bind_eq_ok_iff] at happly
  obtain ⟨-, happly⟩ := happly
  split at happly
  · next payload hpayload =>
    rw [Checked.check_bind_eq_ok_iff, Checked.pure_eq_ok_iff] at happly
    obtain ⟨-, rfl⟩ := happly
    exact Or.inl ⟨payload, hpayload, rfl⟩
  · rw [Checked.check_bind_eq_ok_iff] at happly
    exact Or.inr ⟨mid, happly.2, rfl, hcursor, happly.1⟩

/-- **One event of a rebuild**: an event of the Interface service is handled by it, and any other
leaves it alone. -/
theorem interface_of_applyStored (h : p.applyStored stored = .ok next) :
    (∃ payload, stored.event.payload = .interface payload ∧
      applyInterface stored.event payload stored.cursor p.interface = .ok next.interface) ∨
    (stored.event.payload.NotInterface ∧ next.interface = p.interface) := by
  rcases applied_of_applyStored h with ⟨payload, hpayload, rfl⟩ | ⟨mid, hhandle, rfl, hcursor, -⟩
  · rw [hpayload]
    exact Or.inr ⟨fun _ h => (by cases h), rfl⟩
  rw [OperationalProjection.handle] at hhandle
  cases hpayload : stored.event.payload with
  | interface payload =>
    simp only [hpayload, Checked.bind_eq_ok_iff, Checked.pure_eq_ok_iff] at hhandle
    obtain ⟨interface, happlied, rfl⟩ := hhandle
    rw [hcursor]
    exact Or.inl ⟨payload, rfl, happlied⟩
  | kernel payload | activation payload | ownerAuth payload =>
    simp only [hpayload, Checked.bind_eq_ok_iff, Checked.pure_eq_ok_iff] at hhandle
    obtain ⟨_, -, rfl⟩ := hhandle
    exact Or.inr ⟨fun _ h => (by cases h), rfl⟩
  | tokenLab payload | routing payload =>
    simp only [hpayload, Checked.bind_eq_ok_iff, Checked.pure_eq_ok_iff] at hhandle
    obtain ⟨_, -, _, -, rfl⟩ := hhandle
    exact Or.inr ⟨fun _ h => (by cases h), rfl⟩
  | environment payload | external payload =>
    simp only [hpayload, reduceCtorEq, throw, throwThe, MonadExceptOf.throw] at hhandle

/-- A service that is being rebuilt stays level with the events of the other services. -/
private theorem getD_le_knownVersion (p : OperationalProjection) (streamId : String)
    (payload : EventPayload) : p.knows streamId payload ≤ p.knownVersion streamId := by
  unfold OperationalProjection.knownVersion OperationalProjection.knows
  cases payload with
  | interface =>
    exact (le_max_left _ _).trans (le_max_right _ _)
  | tokenLab =>
    cases htokenLab : p.tokenLab with
    | none => exact Nat.zero_le _
    | some t =>
      exact (le_max_left _ _).trans <| (le_max_right _ _).trans <| (le_max_right _ _).trans <|
        le_max_right _ _
  | _ => exact Nat.zero_le _

/-- What a rebuilt service knows grows, and includes the event of its own that it just read. -/
private theorem knows_of_applyStored (h : p.applyStored stored = .ok next) :
    (∀ streamId family, p.knows streamId family ≤ next.knows streamId family) ∧
      ((∃ payload, stored.event.payload = .interface payload) ∨
          (∃ payload, stored.event.payload = .tokenLab payload) →
        next.knows stored.event.streamId stored.event.payload = stored.event.streamVersion) := by
  rcases applied_of_applyStored h with ⟨payload, hpayload, rfl⟩ | ⟨mid, hhandle, rfl, -, hversion⟩
  · rw [hpayload]
    refine ⟨fun streamId family => ?_, ?_⟩
    · cases family <;> exact le_rfl
    · rintro (⟨_, h⟩ | ⟨_, h⟩) <;> cases h
  have hle := getD_le_knownVersion p stored.event.streamId stored.event.payload
  rw [OperationalProjection.handle] at hhandle
  cases hpayload : stored.event.payload with
  | interface payload =>
    simp only [hpayload, Checked.bind_eq_ok_iff, Checked.pure_eq_ok_iff] at hhandle
    obtain ⟨interface, happlied, rfl⟩ := hhandle
    rw [hpayload, OperationalProjection.knows] at hle
    have hversions := versions_of_applyInterface happlied
    refine ⟨fun streamId family => ?_, fun _ => ?_⟩
    · cases family <;> simp only [OperationalProjection.knows, le_refl, hversions]
      exact OrderedDict.getD_le_getD_set (by omega) streamId
    · simp only [OperationalProjection.knows, hversions, OrderedDict.getD_set_self]
  | tokenLab payload =>
    simp only [hpayload, Checked.bind_eq_ok_iff, Checked.pure_eq_ok_iff] at hhandle
    obtain ⟨known, hfound, tokenLab, happlied, rfl⟩ := hhandle
    have hknown : p.tokenLab = some known := Checked.orRaise_eq_ok_iff.mp hfound
    rw [hpayload, OperationalProjection.knows, hknown] at hle
    have hversions := versions_of_applyTokenLab happlied
    refine ⟨fun streamId family => ?_, fun _ => ?_⟩
    · cases family <;> simp only [OperationalProjection.knows, le_refl, hknown, Option.map_some,
        Option.getD_some, hversions]
      exact OrderedDict.getD_le_getD_set (by simp at hle; omega) streamId
    · simp only [OperationalProjection.knows, Option.map_some, Option.getD_some, hversions,
        OrderedDict.getD_set_self]
  | kernel payload | activation payload | ownerAuth payload =>
    simp only [hpayload, Checked.bind_eq_ok_iff, Checked.pure_eq_ok_iff] at hhandle
    obtain ⟨_, -, rfl⟩ := hhandle
    refine ⟨fun streamId family => ?_, ?_⟩
    · cases family <;> exact le_rfl
    · rintro (⟨_, h⟩ | ⟨_, h⟩) <;> cases h
  | routing payload =>
    simp only [hpayload, Checked.bind_eq_ok_iff, Checked.pure_eq_ok_iff] at hhandle
    obtain ⟨_, -, _, -, rfl⟩ := hhandle
    refine ⟨fun streamId family => ?_, ?_⟩
    · cases family <;> exact le_rfl
    · rintro (⟨_, h⟩ | ⟨_, h⟩) <;> cases h
  | environment payload | external payload =>
    simp only [hpayload, reduceCtorEq, throw, throwThe, MonadExceptOf.throw] at hhandle

/-- A rebuilt service knows every event of its own that was replayed. -/
theorem le_knows_of_replay {events : List StoredEvent}
    (h : EventSourcing.replay OperationalProjection.applyStored p events = .ok next) :
    ∀ stored ∈ events, (∃ payload, stored.event.payload = .interface payload) ∨
        (∃ payload, stored.event.payload = .tokenLab payload) →
      stored.event.streamVersion ≤ next.knows stored.event.streamId stored.event.payload := by
  change ∀ stored ∈ [] ++ events, _
  refine EventSourcing.replay_invariant OperationalProjection.applyStored
    (I := fun events view => ∀ stored ∈ events,
      (∃ payload, stored.event.payload = .interface payload) ∨
          (∃ payload, stored.event.payload = .tokenLab payload) →
        stored.event.streamVersion ≤ view.knows stored.event.streamId stored.event.payload)
    ?_ (by simp) h
  intro earlier reached event next ih happly stored hmem hfamily
  obtain ⟨hgrows, hlevel⟩ := knows_of_applyStored happly
  rcases List.mem_append.mp hmem with hold | hnew
  · exact (ih stored hold hfamily).trans (hgrows _ _)
  · obtain rfl := List.mem_singleton.mp hnew
    exact (hlevel hfamily).ge

/-! ### A start of the process -/

section Start

variable [Sha256] {s : MemorySystem}

omit [Sha256] in
/-- The services of a rebuild that succeeds keep the Kernel. -/
theorem kernelSynced_services (hs : s.KernelSynced) (hkernel : p.kernel = s.kernel) :
    (p.services s.ledger).KernelSynced where
  kernel_replayed := by
    change EventSourcing.replay _ (.new p.kernel.dataSpace) s.ledger.events = .ok p.kernel
    rw [hkernel]
    exact hs.kernel_replayed
  data_space := by
    change _ = p.kernel.dataSpace.dataSpaceId
    rw [hkernel]
    exact hs.data_space
  kernel_versions stored hstored hown := by
    have hle := hs.kernel_versions stored hstored hown
    revert hle hown
    cases stored.event.payload with
    | kernel | activation | ownerAuth =>
      intro _ hle
      simpa only [System.writerVersion, OperationalProjection.services, hkernel] using hle
    | interface | tokenLab | routing | environment | external => exact fun hown => by cases hown
  consistent := by
    change p.kernel.Consistent
    rw [hkernel]
    exact hs.consistent
  settled := by
    change p.kernel.activation.Settled
    rw [hkernel]
    exact hs.settled
  keyed := by
    change p.kernel.ownerBootstrap.Keyed
    rw [hkernel]
    exact hs.keyed

omit [Sha256] in
/-- **The services of a rebuild know their events**, if those of the last process did. -/
theorem othersKnown_services {dataSpace : DataSpace} (hknown : s.OthersKnown)
    (h : EventSourcing.replay OperationalProjection.applyStored (.fresh dataSpace)
      s.ledger.events = .ok p) : (p.services s.ledger).OthersKnown := by
  intro stored hstored hother
  have hlive := hknown stored hstored hother
  have hle := le_knows_of_replay h stored hstored
  revert hlive hle hother
  cases stored.event.payload with
  | interface payload => exact fun _ _ hle => hle (Or.inl ⟨payload, rfl⟩)
  | tokenLab payload =>
    intro _ _ hle
    refine (hle (Or.inr ⟨payload, rfl⟩)).trans ?_
    simp only [OperationalProjection.knows, System.writerVersion, OperationalProjection.services]
    cases p.tokenLab <;> simp
  | routing | environment | external => exact fun _ hlive _ => hlive
  | kernel | activation | ownerAuth => exact fun hother => by cases hother

/-- **A start of the process** changes nothing, or it rebuilds the services and then interrupts the
lost attempt. -/
theorem finalState_bootstrap_cases (pageSize : Nat) (clock : Clock) :
    (bootstrap pageSize clock).finalState s = s ∨
      ∃ p, EventSourcing.replay OperationalProjection.applyStored (.fresh s.kernel.dataSpace)
          s.ledger.events = .ok p ∧
        (bootstrap pageSize clock).finalState s =
          (interruptLostReorientation clock).finalState (p.services s.ledger) := by
  rcases Nat.eq_zero_or_pos pageSize with rfl | hpos
  · exact Or.inl rfl
  have hrebuild := OperationalProjection.rebuild_eq_replay (.fresh s.kernel.dataSpace) s.ledger hpos
  change _ = (EventSourcing.replay _ _ (s.ledger.events.drop 0) >>= _) at hrebuild
  rw [List.drop_zero] at hrebuild
  cases hreplay : EventSourcing.replay OperationalProjection.applyStored
      (.fresh s.kernel.dataSpace) s.ledger.events with
  | error e =>
    left
    rw [bootstrap, EStateM.finalState_get_bind, hrebuild, hreplay]
    rfl
  | ok p =>
    refine Or.inr ⟨p, rfl, ?_⟩
    rw [bootstrap, EStateM.finalState_get_bind, hrebuild, hreplay]
    change (set (p.services s.ledger) >>= fun _ =>
      interruptLostReorientation clock >>= fun _ => pure ()).finalState s = _
    rw [EStateM.finalState_bind_of_ok (EStateM.run_set_eq _ _), EStateM.finalState_bind_pure]

/-- **What a start keeps**: what the rebuilt services satisfy and the events of the Activation
service keep. -/
theorem bootstrap_invariant {I : MemorySystem → Prop} (hs : s.KernelSynced) (h : I s)
    (hrebuilt : ∀ p, EventSourcing.replay OperationalProjection.applyStored
      (.fresh s.kernel.dataSpace) s.ledger.events = .ok p → I (p.services s.ledger))
    (hreaches : ∀ mid s' : MemorySystem, I mid →
      System.Reaches (·.ofKernel = true) mid s' → I s') (pageSize : Nat) (clock : Clock) :
    I ((bootstrap pageSize clock).finalState s) := by
  rcases finalState_bootstrap_cases (s := s) pageSize clock with hsame | ⟨p, hreplay, hstart⟩
  · rw [hsame]
    exact h
  · rw [hstart]
    have hkernel : p.kernel = s.kernel := Except.ok.inj <|
      (kernel_of_replay hreplay).symm.trans hs.kernel_replayed
    refine hreaches _ _ (hrebuilt p hreplay) ?_
    refine (interruptLostReorientation_reaches (kernelSynced_services hs hkernel) clock).mono ?_
    rintro _ ⟨payload, rfl⟩
    rfl

end Start

end Nanihold
