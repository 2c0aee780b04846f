import Nanihold.Recording

/-!
# Token Lab events

`vsm.token_lab.lab.TokenLabEventService`: it records a baseline, an observation or a weekly
review and then applies it to the lab.

## Main definitions

* `TokenLabEventService` — the lab and the versions of its streams.
* `TokenLabEventService.approveBaseline`, `TokenLabEventService.observe`,
  `TokenLabEventService.recordWeeklyReview` — the commands.
-/

namespace Nanihold

structure TokenLabEventService where
  dataSpaceId : String
  lab : TokenEfficiencyLab
  versions : OrderedDict String Nat
  deriving DecidableEq

namespace TokenLabEventService

def new (dataSpaceId : String) : TokenLabEventService := ⟨dataSpaceId, .new, .empty⟩

instance : EventWriter TokenLabEventService where
  dataSpaceId t := t.dataSpaceId
  version t streamId := t.versions.getD streamId 0
  advance t streamId result :=
    { t with versions := t.versions.set streamId result.streamVersion }

/-- An event of a stream of the lab, followed by an update of the lab that may raise. -/
def recording (streamId : String) (payload : TokenLabPayload) (actorType actorId : String)
    (idempotencyKey : String) (occurredAt : DateTime)
    (assign : TokenEfficiencyLab → Except VsmError TokenEfficiencyLab) :
    Recording TokenLabEventService where
  streamId := streamId
  payload := .tokenLab payload
  actorType := actorType
  actorId := some actorId
  idempotencyKey := idempotencyKey
  correlationId := some streamId
  occurredAt := occurredAt
  update _ _ := do
    let t ← get
    let lab ← EStateM.ofExcept (assign t.lab)
    set { t with lab := lab }

variable [Sha256] (t : TokenLabEventService)

/-- `_baseline_stream`. -/
def baselineStream (workType : String) : String := "tokenlab:" ++ hexdigest (.text workType)

/-- `approve_baseline`. -/
def approveBaseline (baseline : TokenBaseline) (actorId idempotencyKey : String)
    (clock : Clock) : Except VsmError (Recording TokenLabEventService) :=
  return recording (baselineStream baseline.workType) (.tokenBaselineApproved baseline)
    "human" actorId idempotencyKey (clock 0) fun lab => .ok (lab.approveBaseline baseline)

omit [Sha256] in
/-- `observe`. -/
def observe (observation : TokenObservation) (actorId idempotencyKey : String)
    (clock : Clock) : Except VsmError (Recording TokenLabEventService) := do
  require (t.lab.isObserved observation.observationId = false)
    s!"TokenObservation already exists: {observation.observationId}"
  return recording observation.observationId
    (.tokenObservationRecorded observation (t.lab.evaluate observation))
    "system" actorId idempotencyKey (clock 0) fun lab => lab.observe observation

omit [Sha256] in
/-- `record_weekly_review`. -/
def recordWeeklyReview (reviewedAt : DateTime) (actorId idempotencyKey : String)
    (clock : Clock) : Except VsmError (Recording TokenLabEventService) := do
  require (t.lab.weeklyDue reviewedAt = true) "Token Lab weekly review is not due"
  return recording "tokenlab:weekly-review" (.tokenWeeklyReviewRecorded reviewedAt) "system"
    actorId idempotencyKey (clock 0) fun lab => lab.markWeeklyReviewed reviewedAt

end TokenLabEventService

end Nanihold
