import ControlPlaneKit.NodeControl.Grants

/-!
# SurfaceReads — unsigned authority for one read of a declared surface

A surface-read request names the declaration it reads by its identity.  Its grant
carries the same claims, the key and the digest of the request.
-/

namespace ControlPlaneKit.NodeControl

open ControlPlaneKit.Library (PyDict PyError PyValue)
open ControlPlaneKit.Topology (DelegationKeyPurpose)

/-! ## Requests -/

/-- SHA-256 identity of one complete versioned surface declaration. -/
structure WorkloadNodeControlSurfaceDeclarationIdentity where
  value : String
  accepted : isDigest value = true

instance : DecidableEq WorkloadNodeControlSurfaceDeclarationIdentity := fun a b =>
  decidable_of_iff (a.value = b.value)
    ⟨fun h => by cases a; cases b; cases h; rfl, fun h =>
      congrArg WorkloadNodeControlSurfaceDeclarationIdentity.value h⟩

/-- SHA-256 identity of one complete canonical surface-read request. -/
structure NodeControlSurfaceReadRequestDigest where
  value : String
  accepted : isDigest value = true

instance : DecidableEq NodeControlSurfaceReadRequestDigest := fun a b =>
  decidable_of_iff (a.value = b.value)
    ⟨fun h => by cases a; cases b; cases h; rfl, fun h =>
      congrArg NodeControlSurfaceReadRequestDigest.value h⟩

inductive NodeControlSurfaceReadKind where
  | capabilities
  | status
  deriving DecidableEq, Repr

def NodeControlSurfaceReadKind.value : NodeControlSurfaceReadKind → String
  | .capabilities => "capabilities"
  | .status => "status"

inductive NodeControlSurfaceReadRequestProfile where
  | v1
  deriving DecidableEq, Repr

def NodeControlSurfaceReadRequestProfile.value :
    NodeControlSurfaceReadRequestProfile → String
  | .v1 => "workload-node-control-surface-read-request.v1"

/-- One exact capabilities or status request for a declared surface. -/
structure NodeControlSurfaceReadRequest where
  target : NodeControlTarget
  kind : NodeControlSurfaceReadKind
  declarationIdentity : WorkloadNodeControlSurfaceDeclarationIdentity
  requestId : String
  profile : NodeControlSurfaceReadRequestProfile
  canonicalization : NodeControlCanonicalization
  deriving DecidableEq

def NodeControlSurfaceReadRequest.descriptor
    (request : NodeControlSurfaceReadRequest) : PyValue :=
  .dict [
    ("profile", .str request.profile.value),
    ("canonicalization", .str request.canonicalization.value),
    ("target", request.target.descriptor),
    ("kind", .str request.kind.value),
    ("declaration_identity", .str request.declarationIdentity.value),
    ("request_id", .str request.requestId)]

section Canonical

variable (dumps : CanonicalJson)

/-- `_bounded_canonical_bytes(value, maximum, name)`. -/
def surfaceReadBytes (descriptor : PyValue) (maximum : Nat) (name : String) :
    Except WireError Bytes :=
  boundedCanonicalBytes dumps .surfaceRead " aggregate exceeds the public bound"
    descriptor maximum name

/-- `request.canonical_bytes()`. -/
def NodeControlSurfaceReadRequest.canonicalBytes
    (request : NodeControlSurfaceReadRequest) : Except WireError Bytes :=
  surfaceReadBytes dumps request.descriptor 951 "surface-read request"

/-- What `NodeControlSurfaceReadRequest` checks. -/
def NodeControlSurfaceReadRequest.check (request : NodeControlSurfaceReadRequest) :
    Except WireError Unit := do
  requireIdentifierAs .surfaceRead request.requestId "surface-read request_id"
  let _ ← request.canonicalBytes dumps
  return ()

/-- `request.canonical_digest()`, by its value. -/
def NodeControlSurfaceReadRequest.canonicalDigest
    (request : NodeControlSurfaceReadRequest) : Except WireError String :=
  (request.canonicalBytes dumps).map sha256OfBytes

/-! ## Grants -/

inductive DelegatedWorkloadNodeControlSurfaceReadGrantProfile where
  | v1
  deriving DecidableEq, Repr

/-- Unsigned exact end-to-end authority for one surface-read request. -/
structure DelegatedWorkloadNodeControlSurfaceReadGrant extends GrantWindow where
  profile : DelegatedWorkloadNodeControlSurfaceReadGrantProfile
  canonicalization : NodeControlCanonicalization
  purpose : DelegationKeyPurpose
  issuer : String
  keyId : String
  audience : String
  target : NodeControlTarget
  kind : NodeControlSurfaceReadKind
  declarationIdentity : WorkloadNodeControlSurfaceDeclarationIdentity
  requestId : String
  requestDigest : NodeControlSurfaceReadRequestDigest
  jti : String
  deriving DecidableEq

def DelegatedWorkloadNodeControlSurfaceReadGrantProfile.value :
    DelegatedWorkloadNodeControlSurfaceReadGrantProfile → String
  | .v1 => "workload-node-control-surface-read-grant.v1"

def DelegatedWorkloadNodeControlSurfaceReadGrant.descriptor
    (grant : DelegatedWorkloadNodeControlSurfaceReadGrant) : PyValue :=
  .dict ([
    ("profile", .str grant.profile.value),
    ("canonicalization", .str grant.canonicalization.value),
    ("purpose", .str grant.purpose.value),
    ("issuer", .str grant.issuer),
    ("key_id", .str grant.keyId),
    ("audience", .str grant.audience),
    ("target", grant.target.descriptor),
    ("kind", .str grant.kind.value),
    ("declaration_identity", .str grant.declarationIdentity.value),
    ("request_id", .str grant.requestId),
    ("request_digest", .str grant.requestDigest.value)] ++
    grant.toGrantWindow.entries ++
    [("jti", .str grant.jti)])

def surfaceReadWindowTexts : WindowTexts where
  raise := .surfaceRead
  name := "surface-read grant"
  epoch := " must be a bounded nonnegative integer epoch second"
  notBefore := " not_before precedes issued_at"
  lifetime := " lifetime exceeds 300 seconds"

/-- `MAX_DELEGATED_NODE_CONTROL_SURFACE_READ_GRANT_BYTES`. -/
def maxSurfaceReadGrantBytes : Nat := 1984

/-- The size of a surface-read grant, as its constructor checks it. -/
def DelegatedWorkloadNodeControlSurfaceReadGrant.canonicalBytes
    (grant : DelegatedWorkloadNodeControlSurfaceReadGrant) : Except WireError Bytes :=
  surfaceReadBytes dumps grant.descriptor maxSurfaceReadGrantBytes "surface-read grant"

/-- What `DelegatedWorkloadNodeControlSurfaceReadGrant` checks. -/
def DelegatedWorkloadNodeControlSurfaceReadGrant.check
    (grant : DelegatedWorkloadNodeControlSurfaceReadGrant) : Except WireError Unit := do
  requireReferenceAs .surfaceRead grant.issuer "surface-read grant issuer"
  requireIdentifierAs .surfaceRead grant.keyId "surface-read grant key_id"
  requireReferenceAs .surfaceRead grant.audience "surface-read grant audience"
  requireIdentifierAs .surfaceRead grant.requestId "surface-read grant request_id"
  grant.toGrantWindow.check surfaceReadWindowTexts
  requireIdentifierAs .surfaceRead grant.jti "surface-read grant jti"
  let _ ← grant.canonicalBytes dumps
  return ()

inductive WorkloadNodeControlSurfaceReadGrantVerificationCode where
  | grantTypeMismatch
  | purposeMismatch
  | issuerMismatch
  | keyMismatch
  | audienceMismatch
  | temporallyInvalid
  | workspaceMismatch
  | revisionMismatch
  | nodeMismatch
  | socketMismatch
  | kindMismatch
  | declarationMismatch
  | requestMismatch
  deriving DecidableEq, Repr

/-- What a surface-read verifier expects, and when. -/
structure SurfaceReadGrantContext where
  expectedIssuer : String
  expectedKeyId : String
  expectedAudience : String
  now : Int

/-- The texts and the time of a surface-read verifier. -/
def SurfaceReadGrantContext.check (context : SurfaceReadGrantContext) :
    Except WireError Unit := do
  requireReferenceAs .surfaceRead context.expectedIssuer "expected surface-read issuer"
  requireIdentifierAs .surfaceRead context.expectedKeyId "expected surface-read key_id"
  requireReferenceAs .surfaceRead context.expectedAudience
    "expected surface-read audience"
  requireWire (isEpoch context.now) (.surfaceRead
    "surface-read verification time must be a bounded nonnegative integer epoch second")

/-- The claims of a surface-read grant, but for the digest. -/
def surfaceReadClaims (context : SurfaceReadGrantContext)
    (request : NodeControlSurfaceReadRequest) :
    Option DelegatedWorkloadNodeControlSurfaceReadGrant →
      Except WorkloadNodeControlSurfaceReadGrantVerificationCode Unit
  | none => .error .grantTypeMismatch
  | some grant => do
      requireClaim (grant.purpose = .workloadNodeControlSurfaceRead) .purposeMismatch
      requireClaim (grant.issuer = context.expectedIssuer) .issuerMismatch
      requireClaim (grant.keyId = context.expectedKeyId) .keyMismatch
      requireClaim (grant.audience = context.expectedAudience) .audienceMismatch
      requireClaim (grant.toGrantWindow.holdsAt context.now) .temporallyInvalid
      requireClaim (grant.target.workspaceId = request.target.workspaceId)
        .workspaceMismatch
      requireClaim (grant.target.graphRevision = request.target.graphRevision)
        .revisionMismatch
      requireClaim (grant.target.nodeId = request.target.nodeId) .nodeMismatch
      requireClaim (grant.target.providerSocketName = request.target.providerSocketName)
        .socketMismatch
      requireClaim (grant.kind = request.kind) .kindMismatch
      requireClaim (grant.declarationIdentity = request.declarationIdentity)
        .declarationMismatch
      requireClaim (grant.requestId = request.requestId) .requestMismatch

/-- `verify_workload_node_control_surface_read_grant(grant, request, ...)`. -/
def verifyWorkloadNodeControlSurfaceReadGrant (context : SurfaceReadGrantContext)
    (grant : Option DelegatedWorkloadNodeControlSurfaceReadGrant)
    (request : NodeControlSurfaceReadRequest) :
    Except WireError
      (GrantVerification WorkloadNodeControlSurfaceReadGrantVerificationCode) := do
  context.check
  verifyClaims (surfaceReadClaims context request grant) .requestMismatch
    ((grant.map (·.requestDigest.value)).getD "") (request.canonicalDigest dumps)

end Canonical

end ControlPlaneKit.NodeControl
