import ControlPlaneKit.Rotation.Rotations
import ControlPlaneKit.Topology.Verifiers

/-!
# VerifierProjection — the verifiers of a rotation's two deployments

The overlap gives the target gateway the old key and the new one, the retirement
the new one alone; every other gateway keeps what the current graph has.  Both are
materialized over the authored graph.
-/

namespace ControlPlaneKit.Rotation

open ControlPlaneKit.Library.Ordering (sortedBy)
open ControlPlaneKit.Operations
open ControlPlaneKit.Topology

/-- What core raises of delegation authority, among the errors of the services. -/
def ofAuthority {α : Type} (value : Except DelegationAuthorityError α) :
    Except ServiceError α :=
  value.mapError fun error => .base error.message

/-- The projection the current graph has for one authored binding. -/
def currentProjection (current : DeploymentGraph)
    (binding : DelegationAuthorityBinding) :
    Except ServiceError DelegationVerifierProjection := do
  let node ← found current.nodes[binding.delegateNodeId]? (.notFound "missing node")
  found
    (node.delegationVerifierProjection.filter fun projection =>
      projection.bindingIdentity = binding.identity &&
        projection.issuer = binding.issuer)
    (.conflict "current realized graph does not cover exact authored bindings")

def projectedNodes (graph : DeploymentGraph) : List String :=
  (graph.nodes.toList.filter fun entry =>
    entry.2.delegationVerifierProjection.isSome).map (·.2.nodeId)

/-- `_current_projections(authored, current)`, in the order of the authored bindings. -/
def currentProjections (authored current : DeploymentGraph) :
    Except ServiceError (List DelegationVerifierProjection) := do
  let projections ← authored.delegationAuthorities.mapM (currentProjection current)
  let bound := authored.delegationAuthorities.map (·.delegateNodeId)
  requireThat
    ((projectedNodes current).all (fun nodeId => bound.contains nodeId) &&
      bound.all fun nodeId => (projectedNodes current).contains nodeId)
    (.conflict "current realized graph contains unbound verifier material")
  return projections

/-- `stores.delegation_signing_keys.list_for_verification(...)`. -/
def listForVerification (hash : String → String) (keys : SigningKeyTable)
    (scope : DelegationKeyScope) :
    Except ServiceError (List RegisteredDelegationSigningKey) :=
  (sortedBy (fun row => [row.identity.keyId]) (keys.filter fun row =>
    row.identity.scope = scope && (row.status = .active ||
      row.status = .verifyOnly))).mapM (SigningKeyTable.readRow hash)

/-- The identity of the authority a rotation is about. -/
def rotationIdentity (rotation : GatewayKeyRotation) : String × DelegationKeyPurpose :=
  (rotation.intent.gatewayNodeId, rotation.intent.purpose)

def expectedAudience (rotation : GatewayKeyRotation) : String :=
  "gateway:" ++ rotation.intent.workspaceId ++ ":" ++ rotation.intent.gatewayNodeId

/-- The keys the target is to have in a phase, from those it has. -/
def phaseKeys (phase : GatewayKeyRotationDeploymentPhase)
    (oldKey newKey : RegisteredDelegationSigningKey) (oldKeyId newKeyId : String)
    (currentTarget : DelegationVerifierProjection) :
    Except ServiceError (List DelegationPublicKey) :=
  match phase with
  | .overlap => do
      requireThat (oldKey.status = .active && newKey.status = .verifyOnly &&
          currentTarget.publicKeys.map (·.keyId) = [oldKeyId] &&
          currentTarget.publicKeys.head? = some oldKey.identity.publicKey)
        (.conflict "overlap source is not exact active-A/verify-B projection A")
      return [oldKey.identity.publicKey, newKey.identity.publicKey]
  | .retirement => do
      requireThat (oldKey.status = .verifyOnly && newKey.status = .active &&
          currentTarget.publicKeys.map (·.keyId) = [oldKeyId, newKeyId] &&
          currentTarget.publicKeys =
            [oldKey.identity.publicKey, newKey.identity.publicKey])
        (.conflict "retirement source is not exact verify-A/active-B projection A+B")
      return [newKey.identity.publicKey]

/-- The verification set of the scope is the two keys of the rotation. -/
def requireVerificationKeys (hash : String → String) (keys : SigningKeyTable)
    (rotation : GatewayKeyRotation) (newKeyId : String) : Except ServiceError Unit := do
  let verificationKeys ← listForVerification hash keys (rotationScope rotation)
  let keyIds := verificationKeys.map (·.identity.keyId)
  requireThat
    (keyIds.all (fun keyId => [rotation.intent.oldKeyId, newKeyId].contains keyId) &&
      [rotation.intent.oldKeyId, newKeyId].all (fun keyId => keyIds.contains keyId) &&
      verificationKeys.length = 2)
    (.conflict "rotation verifier scope contains unexpected key truth")

/-- The projections with the target's replaced. -/
def replaceProjection (projections : List DelegationVerifierProjection)
    (replacement : DelegationVerifierProjection) : List DelegationVerifierProjection :=
  sortedBy (fun projection => [projection.delegateNodeId, projection.purpose.value])
    (projections.map fun projection =>
      if projection.bindingIdentity = replacement.bindingIdentity then replacement
      else projection)

/-- `derive_gateway_key_rotation_projection_graph(stores, rotation, authored, current,
phase)`. -/
def deriveGatewayKeyRotationProjectionGraph (hash : String → String)
    (keys : SigningKeyTable) (rotation : GatewayKeyRotation)
    (authored current : DeploymentGraph) (phase : GatewayKeyRotationDeploymentPhase) :
    Except ServiceError DeploymentGraph := do
  let projections ← currentProjections authored current
  requireThat
    (authored.delegationAuthorities.any fun binding =>
      binding.identity = rotationIdentity rotation &&
        binding.issuer = rotation.intent.issuer)
    (.conflict "rotation target does not match an exact authored delegation binding")
  let newKeyId ← found rotation.newKeyId
    (.conflict "rotation lacks generated replacement key identity")
  let oldKey ← keys.get hash (rotationScope rotation) rotation.intent.oldKeyId
  let newKey ← keys.get hash (rotationScope rotation) newKeyId
  requireThat (newKey.identity.privateKeyReference = rotation.intent.newSecretReference)
    (.conflict "rotation replacement key does not match generated custody reference")
  requireVerificationKeys hash keys rotation newKeyId
  let currentTarget ← found
    (projections.find? fun projection =>
      projection.bindingIdentity = rotationIdentity rotation)
    (.base "missing projection")
  requireThat (currentTarget.issuer = rotation.intent.issuer &&
      currentTarget.audience = expectedAudience rotation)
    (.conflict "current realized target does not match rotation authority")
  let targetKeys ← phaseKeys phase oldKey newKey rotation.intent.oldKeyId
    newKeyId currentTarget
  let replacement ← ofAuthority
    (delegationVerifierProjection rotation.intent.gatewayNodeId rotation.intent.purpose
      rotation.intent.issuer (expectedAudience rotation) ("gateway-rotation-" ++
        rotation.rotationId ++ "-" ++ phase.value ++ "-verifier") targetKeys)
  ofAuthority (materializeDelegationVerifiers authored
    (replaceProjection projections replacement))

/-! ## What a derivation accepts, and makes -/

/-- The current graph has a projection for a binding. -/
def CoversBinding (current : DeploymentGraph) (binding : DelegationAuthorityBinding)
    (projection : DelegationVerifierProjection) : Prop :=
  ∃ node, current.nodes[binding.delegateNodeId]? = some node ∧
    node.delegationVerifierProjection = some projection ∧
    projection.bindingIdentity = binding.identity ∧ projection.issuer = binding.issuer

end ControlPlaneKit.Rotation
