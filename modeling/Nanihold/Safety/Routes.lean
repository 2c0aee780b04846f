import Nanihold.Replay.Runs

/-!
# Route snapshots over runs

A route snapshot is registered as a draft, approved at the S3* stage and by the owner, published
and retired. At most one snapshot of a route is published, and the ledger holds the approvals of
every published one, given after its latest registration. Registering a published snapshot id
again is the one command that takes a published snapshot out of service without retiring it.

## Main definitions

* `SinceRegistration` — an event that no later registration of a snapshot follows.
* `OwnerApprovedIn` — the two approvals of a registered snapshot, in order.
* `Retires` — a step that retires a published snapshot as an explicit human decision.
* `KeepsPublished` — a snapshot id is registered again only while it is not published.

## Main results

* `routeLaw_run` — at most one published snapshot a route, each approved in order, in every run.
* `publishedLaw_of_keepsPublished` — a published snapshot stays until it is retired.
-/

namespace Nanihold

/-! ### The events of a snapshot -/

/-- The event registers the snapshot. -/
def StoredEvent.RegistersSnapshot (stored : StoredEvent) (snapshot : RouteSnapshot) : Prop :=
  stored.event.payload = .kernel (.routeSnapshotRegistered snapshot)

/-- The event registers some snapshot under the identifier. -/
def StoredEvent.Registers (stored : StoredEvent) (snapshotId : String) : Prop :=
  ∃ snapshot, stored.RegistersSnapshot snapshot ∧ snapshot.snapshotId = snapshotId

/-- The event is an approval of the snapshot at the named stage. -/
def StoredEvent.Approves (stored : StoredEvent) (snapshotId approval : String) : Prop :=
  stored.event.streamId = snapshotId ∧
    ∃ state, stored.event.payload = .kernel (.routeSnapshotApproved approval state)

/-- Some event is as `P` says, given the events before it, and no later event registers the
snapshot identifier again. -/
def SinceRegistration (snapshotId : String) (P : List StoredEvent → StoredEvent → Prop)
    (events : List StoredEvent) : Prop :=
  ∃ before stored after, events = before ++ stored :: after ∧ P before stored ∧
    ∀ later ∈ after, ¬ later.Registers snapshotId

section SinceRegistration

variable {snapshotId : String} {P : List StoredEvent → StoredEvent → Prop}
  {events : List StoredEvent} {stored : StoredEvent}

theorem SinceRegistration.now (h : P events stored) :
    SinceRegistration snapshotId P (events ++ [stored]) :=
  ⟨events, stored, [], rfl, h, fun _ hlater => by cases hlater⟩

theorem SinceRegistration.later (h : SinceRegistration snapshotId P events)
    (hnot : ¬ stored.Registers snapshotId) :
    SinceRegistration snapshotId P (events ++ [stored]) := by
  obtain ⟨before, found, after, rfl, hP, hafter⟩ := h
  refine ⟨before, found, after ++ [stored], by simp, hP, fun later hlater => ?_⟩
  rcases List.mem_append.mp hlater with hold | hnew
  · exact hafter later hold
  · rw [List.mem_singleton.mp hnew]
    exact hnot

end SinceRegistration

/-- The latest registration of the snapshot's identifier registers this snapshot. -/
def RegisteredIn (registered : RouteSnapshot) : List StoredEvent → Prop :=
  SinceRegistration registered.snapshotId fun _ stored => stored.RegistersSnapshot registered

/-- After its latest registration the snapshot was approved at the S3* stage. -/
def S3StarApprovedIn (registered : RouteSnapshot) (s3Star : Identifier) :
    List StoredEvent → Prop :=
  SinceRegistration registered.snapshotId fun before stored =>
    RegisteredIn registered before ∧ stored.Approves registered.snapshotId "s3_star" ∧
      stored.event.eventId = s3Star

/-- After its latest registration the snapshot was approved at the S3* stage, and later by the
owner. -/
def OwnerApprovedIn (registered : RouteSnapshot) (s3Star owner : Identifier) :
    List StoredEvent → Prop :=
  SinceRegistration registered.snapshotId fun before stored =>
    S3StarApprovedIn registered s3Star before ∧ stored.Approves registered.snapshotId "owner" ∧
      stored.event.eventId = owner

/-- The registered snapshot with its two approvals, in a later state. -/
def approvedAs (registered : RouteSnapshot) (state : RouteSnapshotState)
    (s3Star owner : Identifier) : RouteSnapshot :=
  { registered with
    state := state
    s3StarApprovalEventId := some s3Star
    ownerApprovalEventId := some owner }

/-- What the ledger holds of a snapshot, stage by stage. -/
def StagedIn (events : List StoredEvent) (snapshot : RouteSnapshot) : Prop :=
  match snapshot.state with
  | .draft => RegisteredIn snapshot events
  | .s3StarApproved =>
    ∃ registered s3Star, S3StarApprovedIn registered s3Star events ∧
      snapshot = { registered with
        state := .s3StarApproved
        s3StarApprovalEventId := some s3Star }
  | .ownerApproved | .published =>
    ∃ registered s3Star owner, OwnerApprovedIn registered s3Star owner events ∧
      snapshot = approvedAs registered snapshot.state s3Star owner
  | .retired => True

/-- An event that registers nothing under the snapshot's identifier. -/
theorem StagedIn.later {events : List StoredEvent} {snapshot : RouteSnapshot}
    {stored : StoredEvent} (h : StagedIn events snapshot)
    (hnot : ¬ stored.Registers snapshot.snapshotId) : StagedIn (events ++ [stored]) snapshot := by
  unfold StagedIn at h ⊢
  split at h
  · exact h.later hnot
  · obtain ⟨registered, s3Star, happroved, heq⟩ := h
    have hid : registered.snapshotId = snapshot.snapshotId := by rw [heq]
    exact ⟨registered, s3Star, happroved.later (hid ▸ hnot), heq⟩
  · obtain ⟨registered, s3Star, owner, happroved, heq⟩ := h
    have hid : registered.snapshotId = snapshot.snapshotId := by rw [heq, approvedAs]
    exact ⟨registered, s3Star, owner, happroved.later (hid ▸ hnot), heq⟩
  · obtain ⟨registered, s3Star, owner, happroved, heq⟩ := h
    have hid : registered.snapshotId = snapshot.snapshotId := by rw [heq, approvedAs]
    exact ⟨registered, s3Star, owner, happroved.later (hid ▸ hnot), heq⟩
  · trivial

/-! ### One event -/

/-- The collection of route snapshots against the ledger: snapshots are filed under their own
identifiers, each went through its stages, and one a route is published. -/
structure RoutesOrdered (s : MemorySystem) : Prop where
  synced : s.KernelSynced
  keyed : ∀ id snapshot, s.kernel.routeSnapshots.get? id = some snapshot →
    snapshot.snapshotId = id
  staged : ∀ id snapshot, s.kernel.routeSnapshots.get? id = some snapshot →
    StagedIn s.ledger.events snapshot
  unique : ∀ id snapshot other known, s.kernel.routeSnapshots.get? id = some snapshot →
    s.kernel.routeSnapshots.get? other = some known → snapshot.state = .published →
      known.state = .published → snapshot.routeKey = known.routeKey → id = other

theorem routesOrdered_new (dataSpace : DataSpace) : RoutesOrdered (.new dataSpace) where
  synced := System.kernelSynced_new dataSpace
  keyed _ _ h := nomatch h
  staged _ _ h := nomatch h
  unique _ _ _ _ h := nomatch h

section Events

variable {s s' : MemorySystem} {event : EventEnvelope}

/-- An event that writes one snapshot. -/
private theorem routesOrdered_of_written (hs : RoutesOrdered s) (h : s.Stepped event s')
    {id : String} {written : RouteSnapshot}
    (hget : ∀ x, s'.kernel.routeSnapshots.get? x =
      if id = x then some written else s.kernel.routeSnapshots.get? x)
    (hid : written.snapshotId = id) (hstaged : StagedIn s'.ledger.events written)
    (hothers : ∀ x, id ≠ x → ¬ (s.ledger.store event).Registers x)
    (hunique : written.state = .published → ∀ x known,
      s.kernel.routeSnapshots.get? x = some known → known.state = .published →
        written.routeKey = known.routeKey → id = x) : RoutesOrdered s' := by
  refine ⟨System.kernelSynced_of_stepped hs.synced h, ?_, ?_, ?_⟩
  · intro x snapshot hsnapshot
    rw [hget] at hsnapshot
    split_ifs at hsnapshot with hx
    · rw [← Option.some.inj hsnapshot, hid, hx]
    · exact hs.keyed x snapshot hsnapshot
  · intro x snapshot hsnapshot
    rw [hget] at hsnapshot
    split_ifs at hsnapshot with hx
    · exact Option.some.inj hsnapshot ▸ hstaged
    · rw [h.events]
      refine (hs.staged x snapshot hsnapshot).later ?_
      rw [hs.keyed x snapshot hsnapshot]
      exact hothers x hx
  · intro x snapshot y known hsnapshot hknown hpublished hpublished' hroute
    rw [hget] at hsnapshot hknown
    split_ifs at hsnapshot hknown with hx hy hy
    · exact hx.symm.trans hy
    · obtain rfl := Option.some.inj hsnapshot
      exact hx.symm.trans (hunique hpublished y known hknown hpublished' hroute)
    · obtain rfl := Option.some.inj hknown
      exact (hunique hpublished' x snapshot hsnapshot hpublished hroute.symm).symm.trans hy
    · exact hs.unique x snapshot y known hsnapshot hknown hpublished hpublished' hroute

/-- An event that writes no snapshot. -/
private theorem routesOrdered_of_same (hs : RoutesOrdered s) (h : s.Stepped event s')
    (hsame : s'.kernel.routeSnapshots = s.kernel.routeSnapshots)
    (hnot : ∀ snapshot, event.payload ≠ .kernel (.routeSnapshotRegistered snapshot)) :
    RoutesOrdered s' := by
  refine ⟨System.kernelSynced_of_stepped hs.synced h, ?_, ?_, ?_⟩
  · rw [hsame]
    exact hs.keyed
  · intro x snapshot hsnapshot
    rw [hsame] at hsnapshot
    rw [h.events]
    exact (hs.staged x snapshot hsnapshot).later fun ⟨registered, hpayload, _⟩ =>
      hnot registered hpayload
  · rw [hsame]
    exact hs.unique

/-- A rewrite of a known snapshot, read entry by entry. -/
private theorem get?_modify_of_known {d : OrderedDict String RouteSnapshot} {id : String}
    {snapshot : RouteSnapshot} (h : d.get? id = some snapshot)
    (f : RouteSnapshot → RouteSnapshot) (x : String) :
    (d.modify id f).get? x = if id = x then some (f snapshot) else d.get? x := by
  rw [OrderedDict.get?_modify]
  split_ifs with hx
  · rw [← hx, h, Option.map_some]
  · rfl

private theorem routesOrdered_of_approved (hs : RoutesOrdered s) (h : s.Stepped event s')
    {approval : String} {state : RouteSnapshotState}
    (hpayload : event.payload = .kernel (.routeSnapshotApproved approval state))
    (hpermits : s.kernel.Permits event (.routeSnapshotApproved approval state))
    (hroutes : s'.kernel.routeSnapshots =
      s.kernel.routeSnapshotsAfter event (.routeSnapshotApproved approval state)) :
    RoutesOrdered s' := by
  obtain ⟨snapshot, hget, hnext⟩ := hpermits
  have hkeyed := hs.keyed _ _ hget
  have hstaged := hs.staged _ _ hget
  have hnot (x : String) : ¬ (s.ledger.store event).Registers x := fun ⟨registered, hknown, _⟩ =>
    nomatch hpayload.symm.trans hknown
  have happroves (registered : RouteSnapshot)
      (hid : registered.snapshotId = snapshot.snapshotId) :
      (s.ledger.store event).Approves registered.snapshotId approval :=
    ⟨(hid.trans hkeyed).symm, state, hpayload⟩
  have hwritten (x : String) : s'.kernel.routeSnapshots.get? x =
      if event.streamId = x then
        some (Kernel.approvedSnapshot snapshot approval state event.eventId)
      else s.kernel.routeSnapshots.get? x := by
    rw [hroutes]
    exact get?_modify_of_known hget _ x
  refine routesOrdered_of_written hs h hwritten ?_ ?_ (fun x _ => hnot x) ?_
  · rw [Kernel.approvedSnapshot]
    split_ifs <;> exact hkeyed
  · rw [h.events]
    unfold Kernel.approvalState at hnext
    split_ifs at hnext with hfirst hsecond
    · obtain ⟨rfl, hdraft⟩ := hfirst
      obtain rfl := Except.ok.inj hnext
      rw [StagedIn, hdraft] at hstaged
      exact ⟨snapshot, event.eventId, .now ⟨hstaged, happroves snapshot rfl, rfl⟩, rfl⟩
    · obtain ⟨rfl, hs3Star⟩ := hsecond
      obtain rfl := Except.ok.inj hnext
      rw [StagedIn, hs3Star] at hstaged
      obtain ⟨registered, s3Star, happroved, heq⟩ := hstaged
      have hid : registered.snapshotId = snapshot.snapshotId := by rw [heq]
      refine ⟨registered, s3Star, event.eventId,
        .now ⟨happroved, happroves registered hid, rfl⟩, ?_⟩
      rw [heq]
      rfl
  · unfold Kernel.approvalState at hnext
    rw [Kernel.approvedSnapshot]
    split_ifs at hnext ⊢ <;> obtain rfl := Except.ok.inj hnext <;> exact fun h => nomatch h

private theorem routesOrdered_of_published (hs : RoutesOrdered s) (h : s.Stepped event s')
    {state : RouteSnapshotState}
    (hpayload : event.payload = .kernel (.routeSnapshotPublished state))
    (hpermits : s.kernel.Permits event (.routeSnapshotPublished state))
    (hroutes : s'.kernel.routeSnapshots =
      s.kernel.routeSnapshotsAfter event (.routeSnapshotPublished state)) : RoutesOrdered s' := by
  obtain ⟨snapshot, hget, happroved, hunique⟩ := hpermits
  have hstaged := hs.staged _ _ hget
  have hnot (x : String) : ¬ (s.ledger.store event).Registers x := fun ⟨registered, hknown, _⟩ =>
    nomatch hpayload.symm.trans hknown
  have hwritten (x : String) : s'.kernel.routeSnapshots.get? x =
      if event.streamId = x then some { snapshot with state := .published }
      else s.kernel.routeSnapshots.get? x := by
    rw [hroutes]
    exact get?_modify_of_known hget _ x
  have hkeyed : snapshot.snapshotId = event.streamId := hs.keyed _ _ hget
  refine routesOrdered_of_written hs h hwritten hkeyed ?_ (fun x _ => hnot x) ?_
  · rw [h.events]
    refine StagedIn.later ?_ (hnot _)
    rw [StagedIn, happroved] at hstaged
    obtain ⟨registered, s3Star, owner, hin, heq⟩ := hstaged
    refine ⟨registered, s3Star, owner, hin, ?_⟩
    rw [heq]
    rfl
  · intro _ x known hknown hpublished hroute
    by_contra hne
    have hmem := OrderedDict.mem_values_of_get? hknown
    have hother : known.snapshotId ≠ event.streamId := by
      rw [hs.keyed x known hknown]
      exact Ne.symm hne
    exact hunique known hmem hother hroute.symm hpublished

private theorem routesOrdered_of_registered (hs : RoutesOrdered s) (h : s.Stepped event s')
    {snapshot : RouteSnapshot}
    (hpayload : event.payload = .kernel (.routeSnapshotRegistered snapshot))
    (hpermits : s.kernel.Permits event (.routeSnapshotRegistered snapshot))
    (hroutes : s'.kernel.routeSnapshots =
      s.kernel.routeSnapshotsAfter event (.routeSnapshotRegistered snapshot)) :
    RoutesOrdered s' := by
  obtain ⟨-, hdraft⟩ := hpermits
  have hwritten (x : String) : s'.kernel.routeSnapshots.get? x =
      if snapshot.snapshotId = x then some snapshot else s.kernel.routeSnapshots.get? x := by
    rw [hroutes]
    exact OrderedDict.get?_set _ _ _ x
  refine routesOrdered_of_written hs h hwritten rfl ?_ ?_ ?_
  · rw [h.events, StagedIn, hdraft]
    exact .now hpayload
  · rintro x hne ⟨registered, hknown, hid⟩
    obtain rfl := KernelPayload.routeSnapshotRegistered.inj
      (EventPayload.kernel.inj (hpayload.symm.trans hknown))
    exact hne hid
  · intro hpublished
    exact nomatch hdraft.symm.trans hpublished

private theorem routesOrdered_of_retired (hs : RoutesOrdered s) (h : s.Stepped event s')
    {reason : RouteSnapshotRetirementReason} {replacement : Option String}
    {state : RouteSnapshotState}
    (hpayload : event.payload = .kernel (.routeSnapshotRetired reason replacement state))
    (hpermits : s.kernel.Permits event (.routeSnapshotRetired reason replacement state))
    (hroutes : s'.kernel.routeSnapshots =
      s.kernel.routeSnapshotsAfter event (.routeSnapshotRetired reason replacement state)) :
    RoutesOrdered s' := by
  obtain ⟨-, -, -, snapshot, hget, -, -⟩ := hpermits
  have hwritten (x : String) : s'.kernel.routeSnapshots.get? x =
      if event.streamId = x then some { snapshot with state := .retired }
      else s.kernel.routeSnapshots.get? x := by
    rw [hroutes]
    exact get?_modify_of_known hget _ x
  have hkeyed : snapshot.snapshotId = event.streamId := hs.keyed _ _ hget
  exact routesOrdered_of_written hs h hwritten hkeyed trivial
    (fun x _ ⟨registered, hknown, _⟩ => nomatch hpayload.symm.trans hknown)
    fun hpublished => nomatch hpublished

/-- **Every recorded event** keeps the collection of route snapshots in order. -/
theorem routesOrdered_of_stepped (hs : RoutesOrdered s) (h : s.Stepped event s') :
    RoutesOrdered s' := by
  rcases h.kernel_cases hs.synced with
    ⟨payload, hpayload, hpermits, hchanges⟩ | ⟨hother, activation, auth, hkernel⟩
  · have hroutes := hchanges.route_snapshots
    cases payload
    case routeSnapshotRegistered => exact routesOrdered_of_registered hs h hpayload hpermits hroutes
    case routeSnapshotApproved => exact routesOrdered_of_approved hs h hpayload hpermits hroutes
    case routeSnapshotPublished => exact routesOrdered_of_published hs h hpayload hpermits hroutes
    case routeSnapshotRetired => exact routesOrdered_of_retired hs h hpayload hpermits hroutes
    all_goals
      exact routesOrdered_of_same hs h hroutes fun snapshot hknown =>
        nomatch hpayload.symm.trans hknown
  · exact routesOrdered_of_same hs h (by rw [hkernel]) fun snapshot => hother _

end Events

theorem routesOrdered_kept [Sha256] : KeptByRecording RoutesOrdered where
  synced _ hs := hs.synced
  mirrored _ _ _ hs h := routesOrdered_of_stepped hs h.stepped
  stored _ data hs := ⟨System.kernelSynced_putBlob hs.synced data, hs.keyed, hs.staged, hs.unique⟩

/-! ### The law of publication -/

/-- At most one snapshot of each route is published, and every published snapshot is the one its
latest registration registered, approved at the S3* stage and then by the owner. -/
def RouteLaw (s : MemorySystem) : Prop :=
  (∀ id snapshot other known, s.kernel.routeSnapshots.get? id = some snapshot →
    s.kernel.routeSnapshots.get? other = some known → snapshot.state = .published →
      known.state = .published → snapshot.routeKey = known.routeKey → id = other) ∧
  ∀ id snapshot, s.kernel.routeSnapshots.get? id = some snapshot → snapshot.state = .published →
    ∃ registered s3Star owner, registered.snapshotId = id ∧
      OwnerApprovedIn registered s3Star owner s.ledger.events ∧
      snapshot = approvedAs registered .published s3Star owner

/-- **Publication** is exclusive on a route and follows both approvals, in every run. -/
theorem routeLaw_run [Sha256] (dataSpace : DataSpace) (inputs : List (ServiceCommand × Clock)) :
    RouteLaw (runCommands (.new dataSpace) inputs) := by
  have hs : RoutesOrdered (runCommands (.new dataSpace) inputs) :=
    Run.exec_invariant (ServiceCommand.invariant_step routesOrdered_kept) inputs
      (routesOrdered_new dataSpace)
  refine ⟨hs.unique, fun id snapshot hget hpublished => ?_⟩
  have hstaged := hs.staged id snapshot hget
  rw [StagedIn, hpublished] at hstaged
  obtain ⟨registered, s3Star, owner, happroved, heq⟩ := hstaged
  refine ⟨registered, s3Star, owner, ?_, happroved, heq⟩
  rw [← hs.keyed id snapshot hget, heq]
  rfl

/-! ### Leaving publication -/

/-- The snapshot is the published one under the identifier. -/
def Kernel.Publishes (k : Kernel) (id : String) (snapshot : RouteSnapshot) : Prop :=
  k.routeSnapshots.get? id = some snapshot ∧ snapshot.state = .published

/-- The step retires the published snapshot: the ledger gains the retirement as an explicit
human event with a reason, and a replacement passed the checks that the reason asks for. -/
def Retires (s : MemorySystem) (input : ServiceCommand × Clock) (s' : MemorySystem) (id : String)
    (snapshot : RouteSnapshot) : Prop :=
  ∃ reason replacement actorId key event,
    input.1 = .kernel (.retireRouteSnapshot id (some reason) replacement actorId key) ∧
      s.kernel.validateRetirement snapshot reason replacement = .ok () ∧
      s'.ledger.events = s.ledger.events ++ [s.ledger.store event] ∧
      event.streamId = id ∧
      event.payload = .kernel (.routeSnapshotRetired reason replacement .retired) ∧
      event.actorType = .human ∧ event.actorId ≠ none

/-- The events that take a published snapshot out of service, or replace it. -/
def LeavesPublication (id : String) (_ : Kernel) (streamId : String) : KernelPayload → Prop
  | .routeSnapshotRegistered snapshot => snapshot.snapshotId = id
  | .routeSnapshotRetired _ _ _ => streamId = id
  | _ => False

/-- **Every other event** leaves a published snapshot as it is. -/
theorem publishes_kept (id : String) (snapshot : RouteSnapshot) :
    Kernel.KeptExcept (LeavesPublication id) (·.Publishes id snapshot) where
  changes := by
    rintro k event payload next - ⟨hget, hpublished⟩ hpermits hchanges hnot
    refine ⟨?_, hpublished⟩
    rw [hchanges.route_snapshots]
    cases payload <;> simp only [Kernel.routeSnapshotsAfter]
    case routeSnapshotRegistered registered => rw [OrderedDict.get?_set_of_ne _ _ hnot, hget]
    case routeSnapshotApproved approval state =>
      obtain ⟨approved, happroved, hstate⟩ := hpermits
      rw [OrderedDict.get?_modify, if_neg, hget]
      -- A published snapshot is past both stages of approval.
      rintro rfl
      obtain rfl := Option.some.inj (hget.symm.trans happroved)
      simp [Kernel.approvalState, hpublished] at hstate
    case routeSnapshotPublished state =>
      obtain ⟨approved, happroved, hstate, -⟩ := hpermits
      rw [OrderedDict.get?_modify, if_neg, hget]
      rintro rfl
      obtain rfl := Option.some.inj (hget.symm.trans happroved)
      cases hpublished.symm.trans hstate
    case routeSnapshotRetired =>
      have hother : ¬ event.streamId = id := hnot
      rw [OrderedDict.get?_modify, if_neg hother, hget]
    all_goals exact hget
  collections _ _ h := h
  created _ _ h := h
  promoted _ _ _ h := h

variable [Sha256]

/-- Publications are kept by this command: a `register_route_snapshot` that is recorded names no
published snapshot. -/
def KeepsPublished (s : MemorySystem) (input : ServiceCommand × Clock) : Prop :=
  ∀ snapshot actorId key, input.1 = .kernel (.registerRouteSnapshot snapshot actorId key) →
    ∀ r, s.kernel.registerRouteSnapshot snapshot actorId key input.2 = .ok r → r.Accepted s →
      ∀ known, ¬ s.kernel.Publishes snapshot.snapshotId known

/-- A `retire_route_snapshot` retires the published snapshot, or changes nothing. -/
theorem publishes_retireRouteSnapshot {s : MemorySystem} (hs : s.KernelSynced) {id : String}
    {snapshot : RouteSnapshot} (h : s.kernel.Publishes id snapshot)
    {reasonCode : Option RouteSnapshotRetirementReason} {replacement : Option String}
    {actorId key : String} {c : KernelCommand}
    (hc : c = .retireRouteSnapshot id reasonCode replacement actorId key) (clock : Clock) :
    ((c.run clock).finalState s).kernel.Publishes id snapshot ∨
      Retires s (.kernel c, clock) ((c.run clock).finalState s) id snapshot := by
  generalize hnext : (c.run clock).finalState s = s'
  have hout := c.outcome hs clock
  rw [hnext] at hout
  cases hout with
  | unchanged => exact Or.inl h
  | promoted => exact nomatch hc
  | @recorded _ event _ payload hpayload hrecords hmirrored =>
    subst hc
    obtain ⟨hstream, reason, rfl, rfl⟩ := hrecords
    obtain ⟨-, hhuman, hactor, known, hknown, -, hvalid⟩ :=
      (hmirrored.stepped.kernel hpayload).1
    obtain rfl := Option.some.inj ((hstream ▸ hknown).symm.trans h.1)
    exact Or.inr ⟨reason, replacement, actorId, key, event, rfl, hvalid,
      hmirrored.stepped.events, hstream, hpayload, hhuman, hactor⟩

/-- **A command** that keeps publications. -/
theorem publishes_step {s : MemorySystem} (hs : s.KernelSynced) {id : String}
    {snapshot : RouteSnapshot} (h : s.kernel.Publishes id snapshot)
    (input : ServiceCommand × Clock) (hc : KeepsPublished s input) :
    (ServiceCommand.step s input).kernel.Publishes id snapshot ∨
      Retires s input (ServiceCommand.step s input) id snapshot := by
  by_cases hretire : ∃ reasonCode replacement actorId key,
      input.1 = .kernel (.retireRouteSnapshot id reasonCode replacement actorId key)
  · obtain ⟨reasonCode, replacement, actorId, key, hinput⟩ := hretire
    obtain ⟨command, clock⟩ := input
    obtain rfl : command = _ := hinput
    exact publishes_retireRouteSnapshot hs h rfl clock
  · refine Or.inl ((publishes_kept id snapshot).step hs h input ?_)
    intro c hinput streamId payload hrecords hleaves
    cases payload <;> simp only [LeavesPublication] at hleaves
    case routeSnapshotRegistered registered =>
      obtain ⟨actorId, key, rfl⟩ := hrecords.registerRouteSnapshot
      rw [KernelCommand.run]
      refine finalState_performKernel_of_not_accepted fun r hr haccepted => ?_
      exact hc registered actorId key hinput r hr haccepted snapshot (hleaves ▸ h)
    case routeSnapshotRetired =>
      obtain ⟨actorId, key, rfl⟩ := hrecords.retireRouteSnapshot
      subst hleaves
      exact absurd ⟨_, _, actorId, key, hinput⟩ hretire

/-- The law of published snapshots in a run: every step leaves a published snapshot published
and unchanged, or retires it. -/
def PublishedLaw (dataSpace : DataSpace) (inputs : List (ServiceCommand × Clock)) : Prop :=
  ∀ first input rest, inputs = first ++ input :: rest → ∀ id snapshot,
    (runCommands (.new dataSpace) first).kernel.Publishes id snapshot →
    (runCommands (.new dataSpace) (first ++ [input])).kernel.Publishes id snapshot ∨
      Retires (runCommands (.new dataSpace) first) input
        (runCommands (.new dataSpace) (first ++ [input])) id snapshot

/-- **The law of published snapshots** holds in every run that keeps publications. -/
theorem publishedLaw_of_keepsPublished (dataSpace : DataSpace)
    (inputs : List (ServiceCommand × Clock))
    (hc : Run.Along ServiceCommand.step KeepsPublished (.new dataSpace) inputs) :
    PublishedLaw dataSpace inputs := by
  rintro first input rest rfl id snapshot h
  obtain ⟨-, hinput, -⟩ := Run.along_append.mp hc
  have hs := kernelSynced_run (System.kernelSynced_new dataSpace) first
  have hstep := publishes_step hs h input hinput
  rw [runCommands, Run.exec_concat]
  exact hstep

/-! ### A published snapshot registered again -/

theorem keepsPublished_of_ne {s : MemorySystem} {input : ServiceCommand × Clock}
    (h : ∀ snapshot actorId key, input.1 ≠ .kernel (.registerRouteSnapshot snapshot actorId key)) :
    KeepsPublished s input :=
  fun snapshot actorId key heq => absurd heq (h snapshot actorId key)

/-- A draft for the development route. -/
def draftRoute : RouteSnapshot where
  snapshotId := "route:1"
  dataSpaceId := "space:company-1"
  routeKey := "development"
  evidenceCursor := 0
  candidateKeys := ["candidate-a"]
  productionObjective := .reliabilityThenCost
  state := .draft
  s3StarApprovalEventId := none
  ownerApprovalEventId := none

/-- The draft is registered, approved at both stages and published. -/
def publishedRun : List (ServiceCommand × Clock) :=
  [(.kernel (.registerRouteSnapshot draftRoute "owner:1" "route:register"), fun _ => 0),
    (.kernel (.approveRouteSnapshot "route:1" "s3_star" "auditor:1" "route:s3-star"), fun _ => 0),
    (.kernel (.approveRouteSnapshot "route:1" "owner" "owner:1" "route:owner"), fun _ => 0),
    (.kernel (.publishRouteSnapshot "route:1" "owner:1" "route:publish"), fun _ => 0)]

/-- The published snapshot is retired as the route is decommissioned. -/
def retiredRun : List (ServiceCommand × Clock) :=
  publishedRun ++
    [(.kernel (.retireRouteSnapshot "route:1" (some .routeDecommissioned) none "owner:1"
      "route:retire"), fun _ => 0)]

omit [Sha256] in
/-- The snapshot leaves publication by its retirement alone. -/
theorem publishedLaw_of_retiredRun :
    letI := Sha256.polynomial
    PublishedLaw companySpace retiredRun := by
  let := Sha256.polynomial
  refine publishedLaw_of_keepsPublished companySpace _ ⟨?_, ?_, ?_, ?_, ?_, trivial⟩
  · exact fun _ _ _ _ _ _ _ _ ⟨hget, _⟩ => nomatch hget
  all_goals exact keepsPublished_of_ne (by simp)

/-- The published snapshot is registered again as a draft. -/
def reregistration : ServiceCommand × Clock :=
  (.kernel (.registerRouteSnapshot draftRoute "owner:1" "route:again"), fun _ => 0)

omit [Sha256] in
private theorem publishedRun_state :
    letI := Sha256.polynomial
    ((runCommands (.new companySpace) publishedRun).kernel.routeSnapshots.get? "route:1").map
        (·.state) = some .published ∧
      ((runCommands (.new companySpace)
        (publishedRun ++ [reregistration])).kernel.routeSnapshots.get? "route:1").map (·.state) =
        some .draft := by
  decide +kernel

omit [Sha256] in
/-- The second registration takes the snapshot out of service without a retirement. -/
theorem reregistration_breaks_publishedLaw :
    letI := Sha256.polynomial
    ¬ PublishedLaw companySpace (publishedRun ++ [reregistration]) := by
  let := Sha256.polynomial
  intro h
  obtain ⟨hbefore, hafter⟩ := publishedRun_state
  obtain ⟨snapshot, hget, hpublished⟩ := Option.map_eq_some_iff.mp hbefore
  rcases h publishedRun reregistration [] rfl "route:1" snapshot ⟨hget, hpublished⟩ with
    ⟨hkept, -⟩ | ⟨_, _, _, _, _, hinput, -⟩
  · rw [hkept, Option.map_some, hpublished] at hafter
    exact nomatch hafter
  · simp [reregistration] at hinput

end Nanihold
