import Nanihold.Replay.Record

/-!
# Token Lab commands and their replay

The commands of the Token Lab against the handlers of the events they record: what the lab checks
before it records, its update does not refuse afterwards, and its handler repeats the update.

## Main definitions

* `TokenLabEventService.Replayable` — a recording whose assignments the projection's handler
  repeats.

## Main results

* `TokenLabEventService.replayable_approveBaseline`, `TokenLabEventService.replayable_observe`,
  `TokenLabEventService.replayable_recordWeeklyReview` — one for each command.
* `record_tokenLab` — a replayable recording is refused, or one step of the system.
-/

namespace Nanihold

namespace TokenLabEventService

variable {t : TokenLabEventService} {r : Recording TokenLabEventService} {clock : Clock}

/-- The projection's handler repeats what the recording assigns. -/
def Replayable (t : TokenLabEventService) (payload : TokenLabPayload)
    (r : Recording TokenLabEventService) : Prop :=
  r.payload = .tokenLab payload ∧
    ∀ event result, r.Describes t event → result.streamVersion = event.streamVersion →
      ∃ next, r.update event result (EventWriter.advance t r.streamId result) = .ok () next ∧
        applyTokenLab event payload t = .ok next

/-- A recording is replayable if the lab accepts its update. -/
private theorem replayable_recording {streamId actorType actorId key : String}
    {payload : TokenLabPayload} {occurredAt : DateTime}
    {assign : TokenEfficiencyLab → Except VsmError TokenEfficiencyLab} {lab : TokenEfficiencyLab}
    (hassign : assign t.lab = .ok lab)
    (happly : ∀ event, applyTokenLab event payload t = .ok
      { t with lab := lab, versions := t.versions.set event.streamId event.streamVersion }) :
    t.Replayable payload (recording streamId payload actorType actorId key occurredAt assign) := by
  refine ⟨rfl, fun event result hdescribes hversion => ⟨_, ?_, happly event⟩⟩
  have hstream : event.streamId = streamId := hdescribes.stream
  rw [hstream, ← hversion]
  change (EStateM.ofExcept (assign t.lab) >>= fun lab =>
    set { t with versions := t.versions.set streamId result.streamVersion, lab := lab }) _ = _
  rw [hassign]
  rfl

theorem replayable_approveBaseline [Sha256] {baseline : TokenBaseline} {actorId key : String}
    (h : approveBaseline baseline actorId key clock = .ok r) :
    t.Replayable (.tokenBaselineApproved baseline) r := by
  obtain rfl := Checked.pure_eq_ok_iff.mp h
  exact replayable_recording rfl fun _ => rfl

theorem replayable_observe {observation : TokenObservation} {actorId key : String}
    (h : t.observe observation actorId key clock = .ok r) :
    t.Replayable (.tokenObservationRecorded observation (t.lab.evaluate observation)) r := by
  obtain ⟨hfresh, h⟩ := Checked.check_bind_eq_ok_iff.mp h
  obtain rfl := Checked.pure_eq_ok_iff.mp h
  have hobserve : t.lab.observe observation =
      .ok { t.lab with observations := t.lab.observations ++ [observation] } :=
    Checked.check_bind_of hfresh
  refine replayable_recording hobserve fun event => ?_
  simp only [applyTokenLab, hobserve]
  rfl

/-- A review that is due follows the last one. -/
theorem lt_of_weeklyDue {lab : TokenEfficiencyLab} {now : DateTime}
    (h : lab.weeklyDue now = true) :
    ∀ last, lab.lastWeeklyReviewAt = some last → last < now := by
  intro last hlast
  unfold TokenEfficiencyLab.weeklyDue at h
  cases hobservations : lab.observations with
  | nil =>
    rw [hobservations] at h
    cases h
  | cons first rest =>
    rw [hobservations, hlast] at h
    have hdue : TokenEfficiencyLab.weekly ≤ now - last := of_decide_eq_true h
    have hweek : (0 : Int) < TokenEfficiencyLab.weekly := by decide
    change (last : Int) < now
    exact Int.lt_of_sub_pos (hweek.trans_le hdue)

theorem replayable_recordWeeklyReview {reviewedAt : DateTime} {actorId key : String}
    (h : t.recordWeeklyReview reviewedAt actorId key clock = .ok r) :
    t.Replayable (.tokenWeeklyReviewRecorded reviewedAt) r := by
  obtain ⟨hdue, h⟩ := Checked.check_bind_eq_ok_iff.mp h
  obtain rfl := Checked.pure_eq_ok_iff.mp h
  have hreviewed : t.lab.markWeeklyReviewed reviewedAt =
      .ok { t.lab with lastWeeklyReviewAt := some reviewedAt } :=
    Checked.check_bind_of (lt_of_weeklyDue hdue)
  refine replayable_recording hreviewed fun event => ?_
  simp only [applyTokenLab, hreviewed]
  rfl

end TokenLabEventService

variable [Sha256] {s : MemorySystem}

/-- No stored event of a service beside the Kernel is ahead of the service that wrote it. -/
def System.OthersKnown (s : MemorySystem) : Prop :=
  ∀ stored ∈ s.ledger.events, stored.event.payload.ofKernel = false →
    stored.event.streamVersion ≤ s.writerVersion stored.event.streamId stored.event.payload

/-- **A replayable recording of the Token Lab** is refused, or one step of the system. -/
theorem record_tokenLab (hknown : s.OthersKnown) {r : Recording TokenLabEventService}
    {payload : TokenLabPayload} (hr : s.tokenLab.Replayable payload r) :
    (∃ e, record r s = .error e s) ∨
    ∃ event answer s', event.payload = .tokenLab payload ∧ s.Mirrored event s' ∧
      record r s = .ok answer s' := by
  obtain ⟨hpayload, hreplay⟩ := hr
  have hwriter : s.writerVersion r.streamId r.payload =
      EventWriter.version (Component.read s : TokenLabEventService) r.streamId := by
    rw [hpayload]
    rfl
  have hversions : ∀ stored ∈ s.ledger.events, stored.event.payload = r.payload →
      stored.event.streamVersion ≤
        s.writerVersion stored.event.streamId stored.event.payload := by
    intro stored hstored hsame
    refine hknown stored hstored ?_
    rw [hsame, hpayload]
    rfl
  rcases record_appended r hwriter hversions with
    herror | ⟨event, happ, hdescribes, hnext, hrecord⟩
  · exact Or.inl herror
  obtain ⟨next, hupdate, happlied⟩ :=
    hreplay event (appendedResult s.ledger event) hdescribes rfl
  have hevent := hdescribes.payload.trans hpayload
  have hread : (Component.read s : TokenLabEventService) = s.tokenLab := rfl
  rw [hread, hupdate] at hrecord
  refine Or.inr ⟨event, _, { s with ledger := s.ledger.push event happ, tokenLab := next }, hevent,
    ⟨⟨⟨happ, rfl⟩, hnext, .other ?_ rfl⟩, .tokenLab payload hevent happlied rfl⟩, hrecord⟩
  rw [hevent]
  rfl

end Nanihold
