import Nanihold.Activation.Service
import Nanihold.Auth

/-!
# Kernel state

The collections a Kernel holds, with the activation aggregate and the owner bootstrap that
belong to it, and the way a Kernel command records its event.

## Main definitions

* `Kernel` — the state, `Kernel.new` the state of a fresh process.
* `Kernel.recording` — the arguments of `Kernel._record` and the assignments after it.
-/

namespace Nanihold

/-- The state of `vsm.kernel.service.Kernel`. -/
structure Kernel where
  dataSpace : DataSpace
  activation : ActivationService
  ownerBootstrap : OwnerBootstrapService
  nodes : OrderedDict String UVSMNode
  workItems : OrderedDict String WorkItem
  workEdges : List WorkEdge
  executions : OrderedDict String Execution
  agentNameAssignments : OrderedDict String AgentNameAssignment
  agentNameRegistrations : OrderedDict String AgentIdentityRegistration
  agentNotifications : OrderedDict String AgentNotification
  capabilityGrants : OrderedDict String CapabilityGrant
  effectLeases : OrderedDict String EffectLease
  effectApprovals : OrderedDict String EffectApproval
  referenceGrants : OrderedDict String ReferenceGrant
  budgetReservations : OrderedDict String BudgetReservation
  findings : OrderedDict String S3StarFinding
  routeSnapshots : OrderedDict String RouteSnapshot
  versions : OrderedDict String Nat
  deriving DecidableEq

namespace Kernel

/-- The Kernel of a process that has read no event. -/
def new (dataSpace : DataSpace) : Kernel where
  dataSpace := dataSpace
  activation := .new dataSpace.dataSpaceId
  ownerBootstrap := .new dataSpace.dataSpaceId dataSpace.ownerId
  nodes := .empty
  workItems := .empty
  workEdges := []
  executions := .empty
  agentNameAssignments := .empty
  agentNameRegistrations := .empty
  agentNotifications := .empty
  capabilityGrants := .empty
  effectLeases := .empty
  effectApprovals := .empty
  referenceGrants := .empty
  budgetReservations := .empty
  findings := .empty
  routeSnapshots := .empty
  versions := .empty

instance : EventWriter Kernel where
  dataSpaceId k := k.dataSpace.dataSpaceId
  version k streamId := k.versions.getD streamId 0
  advance k streamId result :=
    { k with versions := k.versions.set streamId result.streamVersion }

/-- `_record` and the assignments after it, when none of them can raise. -/
def recording (streamId : String) (payload : KernelPayload) (actorType : String)
    (actorId : Option String) (idempotencyKey : String) (correlationId : Option String)
    (causationId : Option String) (occurredAt : DateTime)
    (assign : EventEnvelope → Kernel → Kernel) : Recording Kernel where
  streamId := streamId
  payload := .kernel payload
  actorType := actorType
  actorId := actorId
  idempotencyKey := idempotencyKey
  correlationId := correlationId
  causationId := causationId
  occurredAt := occurredAt
  update event _ := modify (assign event)

/-- The owner's Interface Node exists. -/
def ownerNodeExists (k : Kernel) : Bool :=
  k.nodes.values.any fun node => node.ownerId = k.dataSpace.ownerId && node.kind = .interface

end Kernel

end Nanihold
