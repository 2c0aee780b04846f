import Mathlib.Algebra.Group.Nat.Defs
import Nanihold.Interface.Models

/-!
# Hashed documents

Identifiers of events, digests of requests and references of blobs are SHA-256 digests of
canonical JSON or of text. The hashed contents are kept as values of `Document`; the digest
function is a parameter, so nothing below depends on the algorithm.

## Main definitions

* `Document` — the contents that the services hash.
* `Sha256` — a digest function on documents; `Sha256.polynomial` is one to compute with.
* `deterministicEventId`, `blobRef` — the strings the services build from digests.
-/

namespace Nanihold

/-- The contents that the services hash. -/
inductive Document where
  /-- The key of an event within its data space. -/
  | eventKey (dataSpaceId streamId idempotencyKey : String)
  /-- A current work graph, without its own digest. -/
  | workGraph (snapshotId dataSpaceId : Identifier) (capturedAt : DateTime)
      (nodes : List UVSMNode) (workItems : List WorkItem) (edges : List WorkEdge)
  /-- The request that creates a conversation. -/
  | conversationRequest (conversation : Conversation) (surfaceBinding : SurfaceBinding)
  /-- An owner's message action. -/
  | ownerAction (action : OwnerMessageAction)
  /-- A Pilot's assessment. -/
  | assessment (assessment : ReorientationAssessment)
  /-- A text in UTF-8. -/
  | text (content : String)
  /-- The bytes of a file. -/
  | bytes (content : List UInt8)
  deriving DecidableEq

/-- A digest function: `hashlib.sha256(…).hexdigest()`. -/
class Sha256 where
  hexdigest : Document → String

export Sha256 (hexdigest)

variable [Sha256]

/-- `deterministic_event_id`. -/
def deterministicEventId (dataSpaceId streamId idempotencyKey : String) : Identifier :=
  "event:" ++ hexdigest (.eventKey dataSpaceId streamId idempotencyKey)

/-- The reference under which a ledger stores a blob. -/
def blobRef (data : Document) : String := "blob:sha256:" ++ hexdigest data

/-- The hexadecimal digits of a polynomial in the characters of some texts. -/
private def polynomialHexdigest (texts : List String) : String :=
  let hash := texts.foldl (fun hash content => content.toList.foldl
    (fun hash c => (hash * 1000003 + c.toNat + 1) % 16 ^ 16) hash) 5381
  String.ofList (Nat.toDigits 16 hash)

/-- A digest function for runs on concrete inputs: it tells event keys and texts apart, and
other contents by their identifier. -/
@[reducible]
def Sha256.polynomial : Sha256 where
  hexdigest
    | .eventKey dataSpaceId streamId idempotencyKey =>
      polynomialHexdigest [dataSpaceId, streamId, idempotencyKey]
    | .workGraph snapshotId _ _ _ _ _ => polynomialHexdigest [snapshotId]
    | .conversationRequest conversation _ => polynomialHexdigest [conversation.conversationId]
    | .ownerAction action => polynomialHexdigest [action.actionId]
    | .assessment assessment => polynomialHexdigest [assessment.assessmentId]
    | .text content => polynomialHexdigest [content]
    | .bytes content => polynomialHexdigest [String.ofList (content.map fun b => Char.ofNat b.toNat)]

/-- `CurrentWorkGraphSnapshot.calculated_sha256`. -/
def CurrentWorkGraphSnapshot.calculatedSha256 (snapshot : CurrentWorkGraphSnapshot) : String :=
  hexdigest (.workGraph snapshot.snapshotId snapshot.dataSpaceId snapshot.capturedAt
    snapshot.nodes snapshot.workItems snapshot.edges)

end Nanihold
