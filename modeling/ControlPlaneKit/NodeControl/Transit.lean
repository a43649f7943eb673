import ControlPlaneKit.NodeControl.Grants

/-!
# Transit — unsigned authority to relay one request through a gateway

A transit grant names the gateway and the attempt beside the request.  Its audience
is derived from the workspace and the gateway, so a grant carries none of its own.
-/

namespace ControlPlaneKit.NodeControl

open ControlPlaneKit.Library (PyDict PyError PyValue)
open ControlPlaneKit.Topology (DelegationKeyPurpose)

/-! ## Texts -/

/-- `_raise_wire_violation(violation, name)`. -/
def raiseTransitViolation (name : String) :
    Option NodeControlPublicWireViolation → Except WireError Unit
  | none => .ok ()
  | some .shapeInvalid => .error (.transit (name ++ " is malformed"))
  | some .credentialEnvelope =>
      .error (.transit (name ++ " contains credential material"))
  | some .endpointEnvelope =>
      .error (.transit (name ++ " contains runtime endpoint material"))

def requireTransitIdentifier (value name : String) : Except WireError Unit := do
  let violation ← escaping (identifierViolation value)
  raiseTransitViolation name violation

def requireTransitReference (value name : String) : Except WireError Unit := do
  let violation ← escaping (referenceViolation value)
  raiseTransitViolation name violation

/-- `_derive_audience(workspace_id, gateway_node_id)`. -/
def deriveAudience (workspaceId : NodeControlGraphReference .workspace)
    (gatewayNodeId : NodeControlGraphReference .node) : Except WireError String := do
  let audience := "gateway:" ++ workspaceId.value ++ ":" ++ gatewayNodeId.value
  let violation ← escaping (publicMaterialViolation audience)
  requireWire (audience.length ≤ 265 && violation.isNone)
    (.transit "transit grant audience is malformed")
  return audience

/-! ## Transit grants -/

inductive DelegatedGatewayNodeControlTransitGrantProfile where
  | v1
  deriving DecidableEq, Repr

def DelegatedGatewayNodeControlTransitGrantProfile.value :
    DelegatedGatewayNodeControlTransitGrantProfile → String
  | .v1 => "gateway-node-control-transit-grant.v1"

/-- Unsigned short-lived authority to relay one exact workload request. -/
structure DelegatedGatewayNodeControlTransitGrant extends GrantWindow where
  profile : DelegatedGatewayNodeControlTransitGrantProfile
  canonicalization : NodeControlCanonicalization
  purpose : DelegationKeyPurpose
  issuer : String
  keyId : String
  attemptId : String
  workspaceId : NodeControlGraphReference .workspace
  graphRevision : NodeControlGraphReference .graphRevision
  gatewayNodeId : NodeControlGraphReference .node
  target : NodeControlTarget
  variableName : NodeControlGraphReference .variable
  operation : NodeControlOperation
  commandCodec : Option ControlPlaneCommandCodec
  requestId : String
  idempotencyKey : String
  requestDigest : NodeControlRequestDigest
  jti : String
  deriving DecidableEq

def transitWindowTexts : WindowTexts where
  raise := .transit
  name := "transit grant"
  epoch := " must be a nonnegative interoperable integer"
  notBefore := " not_before precedes issued_at"
  lifetime := " lifetime exceeds 300 seconds"

/-- `grant.descriptor()`, under the audience it derives. -/
def DelegatedGatewayNodeControlTransitGrant.descriptor
    (grant : DelegatedGatewayNodeControlTransitGrant) (audience : String) : PyValue :=
  .dict ([
    ("profile", .str grant.profile.value),
    ("canonicalization", .str grant.canonicalization.value),
    ("purpose", .str grant.purpose.value),
    ("issuer", .str grant.issuer),
    ("key_id", .str grant.keyId),
    ("audience", .str audience),
    ("attempt_id", .str grant.attemptId),
    ("workspace_id", .str grant.workspaceId.value),
    ("graph_revision", .str grant.graphRevision.value),
    ("gateway_node_id", .str grant.gatewayNodeId.value),
    ("target", grant.target.descriptor),
    ("variable_name", .str grant.variableName.value),
    ("operation", .str grant.operation.value),
    ("command_codec", codecOrNone grant.commandCodec),
    ("request_id", .str grant.requestId),
    ("idempotency_key", .str grant.idempotencyKey),
    ("request_digest", .str grant.requestDigest.value)] ++
    grant.toGrantWindow.entries ++
    [("jti", .str grant.jti)])

section Canonical

variable (dumps : CanonicalJson)

/-- `_bounded_canonical_bytes(value, maximum, name)`. -/
def transitBytes (descriptor : PyValue) (maximum : Nat) (name : String) :
    Except WireError Bytes :=
  boundedCanonicalBytes dumps .transit " aggregate exceeds the public bound"
    descriptor maximum name

/-- `MAX_DELEGATED_GATEWAY_NODE_CONTROL_TRANSIT_GRANT_BYTES`. -/
def maxTransitGrantBytes : Nat := 2834

/-- `grant.canonical_bytes()`. -/
def DelegatedGatewayNodeControlTransitGrant.canonicalBytes
    (grant : DelegatedGatewayNodeControlTransitGrant) : Except WireError Bytes := do
  let audience ← deriveAudience grant.workspaceId grant.gatewayNodeId
  transitBytes dumps (grant.descriptor audience) maxTransitGrantBytes "transit grant"

/-- What `DelegatedGatewayNodeControlTransitGrant` checks. -/
def DelegatedGatewayNodeControlTransitGrant.check
    (grant : DelegatedGatewayNodeControlTransitGrant) : Except WireError Unit := do
  requireTransitReference grant.issuer "transit grant issuer"
  requireTransitIdentifier grant.keyId "transit grant key_id"
  requireTransitIdentifier grant.attemptId "transit grant attempt_id"
  requireTransitIdentifier grant.requestId "transit grant request_id"
  requireTransitIdentifier grant.idempotencyKey "transit grant idempotency_key"
  requireTransitIdentifier grant.jti "transit grant jti"
  requireWire (grant.workspaceId = grant.target.workspaceId)
    (.transit "transit grant workspace_id must match target")
  requireWire (grant.graphRevision = grant.target.graphRevision)
    (.transit "transit grant graph_revision must match target")
  checkCodec .transit "transit" grant.operation grant.commandCodec
  grant.toGrantWindow.check transitWindowTexts
  let _ ← deriveAudience grant.workspaceId grant.gatewayNodeId
  let _ ← grant.canonicalBytes dumps
  return ()

inductive GatewayNodeControlTransitGrantVerificationCode where
  | grantTypeMismatch
  | purposeMismatch
  | issuerMismatch
  | keyMismatch
  | temporallyInvalid
  | attemptMismatch
  | workspaceMismatch
  | revisionMismatch
  | gatewayMismatch
  | nodeMismatch
  | socketMismatch
  | variableMismatch
  | commandMismatch
  | requestMismatch
  deriving DecidableEq, Repr

/-- What a transit verifier expects, and when. -/
structure TransitGrantContext where
  expectedIssuer : String
  expectedKeyId : String
  expectedAttemptId : String
  expectedGatewayNodeId : NodeControlGraphReference .node
  now : Int

/-- The texts and the time of a transit verifier. -/
def TransitGrantContext.check (context : TransitGrantContext) :
    Except WireError Unit := do
  requireTransitReference context.expectedIssuer "expected transit issuer"
  requireTransitIdentifier context.expectedKeyId "expected transit key_id"
  requireTransitIdentifier context.expectedAttemptId "expected transit attempt_id"
  requireWire (isEpoch context.now)
    (.transit "transit verification time must be a nonnegative interoperable integer")

/-- The claims of a transit grant, but for the digest. -/
def transitClaims (context : TransitGrantContext)
    (request : NodeControlCommandRequest) :
    Option DelegatedGatewayNodeControlTransitGrant →
      Except GatewayNodeControlTransitGrantVerificationCode Unit
  | none => .error .grantTypeMismatch
  | some grant => do
      requireClaim (grant.purpose = .gatewayNodeControlTransit) .purposeMismatch
      requireClaim (grant.issuer = context.expectedIssuer) .issuerMismatch
      requireClaim (grant.keyId = context.expectedKeyId) .keyMismatch
      requireClaim (grant.toGrantWindow.holdsAt context.now) .temporallyInvalid
      requireClaim (grant.attemptId = context.expectedAttemptId) .attemptMismatch
      requireClaim (grant.workspaceId = request.target.workspaceId) .workspaceMismatch
      requireClaim (grant.graphRevision = request.target.graphRevision)
        .revisionMismatch
      requireClaim (grant.gatewayNodeId = context.expectedGatewayNodeId)
        .gatewayMismatch
      requireClaim (grant.target.nodeId = request.target.nodeId) .nodeMismatch
      requireClaim (grant.target.providerSocketName = request.target.providerSocketName)
        .socketMismatch
      requireClaim (grant.variableName = request.variableName) .variableMismatch
      requireClaim (grant.operation = request.operation &&
        grant.commandCodec = request.commandCodec) .commandMismatch
      requireClaim (grant.requestId = request.requestId &&
        grant.idempotencyKey = request.idempotencyKey) .requestMismatch

/-- `verify_gateway_node_control_transit_grant(grant, request, ...)`. -/
def verifyGatewayNodeControlTransitGrant (context : TransitGrantContext)
    (grant : Option DelegatedGatewayNodeControlTransitGrant)
    (request : NodeControlCommandRequest) :
    Except WireError
      (GrantVerification GatewayNodeControlTransitGrantVerificationCode) := do
  context.check
  verifyClaims (transitClaims context request grant) .requestMismatch
    ((grant.map (·.requestDigest.value)).getD "") (request.canonicalDigest dumps)

end Canonical

end ControlPlaneKit.NodeControl
