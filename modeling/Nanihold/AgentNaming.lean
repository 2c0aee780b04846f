import Nanihold.Pilot.Models

/-!
# Agent names

The identities that the agent-name registry issues, as `vsm.agent_naming` defines them, and
the two reads the Kernel makes of the registry before it records an identity.

## Main definitions

* `AgentNameAssignment`, `AgentIdentityRegistration` — an issued name, with the proof that it
  is its base name followed by its suffix.
* `AgentNameRegistry` — the identities issued so far.
* `AgentNameRegistry.allocate` — issue a name to an execution.
* `reservedAgentName` — the name of the owner's standing seat.
-/

namespace Nanihold

/-- `RESERVED_AGENT_NAME`. -/
def reservedAgentName : String := "Nagi"

inductive NameColumn where
  | japanese | english | latin
  deriving DecidableEq

/-- The name built from a base name and a suffix; the first holder carries no suffix. -/
def suffixedName (baseName : String) (suffix : Nat) : String :=
  if suffix = 1 then baseName else s!"{baseName}{suffix}"

structure AgentNameAssignment where
  assignmentId : Identifier
  dataSpaceId : Identifier
  workItemId : Identifier
  executionId : Identifier
  nodeId : Identifier
  pilotId : Identifier
  agentName : NonBlank
  baseName : NonBlank
  suffix : Nat
  nameColumn : NameColumn
  scale : Nat
  provider : NonBlank
  modelCandidateKey : NonBlank
  suffix_pos : 1 ≤ suffix
  suffix_matches_name : agentName = suffixedName baseName suffix
  deriving DecidableEq

/-- A registry-issued identity for an agent that has no WorkItem yet. -/
structure AgentIdentityRegistration where
  registrationId : Identifier
  dataSpaceId : Identifier
  nodeId : Identifier
  pilotId : Identifier
  agentName : NonBlank
  baseName : NonBlank
  suffix : Nat
  nameColumn : NameColumn
  scale : Nat
  provider : NonBlank
  modelCandidateKey : NonBlank
  suffix_pos : 1 ≤ suffix
  suffix_matches_name : agentName = suffixedName baseName suffix
  deriving DecidableEq

/-- A name that the registry picks from its table for a candidate's provider and scale: the next
base name of the column, with the first suffix that makes it unused. -/
structure IssuedName where
  agentName : NonBlank
  baseName : NonBlank
  suffix : Nat
  nameColumn : NameColumn
  scale : Nat
  suffix_pos : 1 ≤ suffix
  suffix_matches_name : agentName = suffixedName baseName suffix
  deriving DecidableEq

/-- The assignments and registrations the registry holds. -/
structure AgentNameRegistry where
  assignments : OrderedDict String AgentNameAssignment
  registrations : OrderedDict String AgentIdentityRegistration
  deriving DecidableEq

namespace AgentNameRegistry

def assignmentForId (registry : AgentNameRegistry) (assignmentId : String) :
    Except VsmError AgentNameAssignment :=
  found (registry.assignments.get? assignmentId)
    s!"agent-name assignment is not present: {assignmentId}"

def registrationForId (registry : AgentNameRegistry) (registrationId : String) :
    Except VsmError AgentIdentityRegistration :=
  found (registry.registrations.get? registrationId)
    s!"agent identity registration is not present: {registrationId}"

/-- `allocate`, with the name picked from the table. -/
def allocate (registry : AgentNameRegistry) (name : IssuedName) (assignmentId dataSpaceId
    workItemId executionId nodeId pilotId : Identifier) (candidate : ModelCandidate) :
    Except VsmError (AgentNameAssignment × AgentNameRegistry) := do
  require (registry.assignments.contains assignmentId = false)
    s!"agent-name assignment already exists: {assignmentId}"
  let assignment : AgentNameAssignment :=
    { assignmentId := assignmentId
      dataSpaceId := dataSpaceId
      workItemId := workItemId
      executionId := executionId
      nodeId := nodeId
      pilotId := pilotId
      agentName := name.agentName
      baseName := name.baseName
      suffix := name.suffix
      nameColumn := name.nameColumn
      scale := name.scale
      provider := candidate.provider
      modelCandidateKey := candidate.key
      suffix_pos := name.suffix_pos
      suffix_matches_name := name.suffix_matches_name }
  return (assignment,
    { registry with assignments := registry.assignments.set assignmentId assignment })

end AgentNameRegistry

end Nanihold
