import ControlPlaneKit.NodeControl.Values
import ControlPlaneKit.Topology.Material

/-!
# Grants — unsigned authority for one request, and what verifies it

A workload grant, a gateway transit grant and a surface-read grant each carry the
claims of one request.  Verification compares them, one after the other, with the
request and with what the verifier expects; every comparison has its own reason for
a rejection.
-/

namespace ControlPlaneKit.NodeControl

open ControlPlaneKit.Library (PyDict PyError PyValue)
open ControlPlaneKit.Topology (DelegationKeyPurpose)

/-! ## Windows -/

/-- When a grant was issued and when it holds. -/
structure GrantWindow where
  issuedAt : Int
  notBefore : Int
  expiresAt : Int
  deriving DecidableEq

/-- The texts one module checks a window with. -/
structure WindowTexts where
  raise : String → WireError
  name : String
  epoch : String
  notBefore : String
  lifetime : String

/-- The checks of a window. -/
def GrantWindow.check (texts : WindowTexts) (window : GrantWindow) :
    Except WireError Unit := do
  requireWire (isEpoch window.issuedAt)
    (texts.raise (texts.name ++ " issued_at" ++ texts.epoch))
  requireWire (isEpoch window.notBefore)
    (texts.raise (texts.name ++ " not_before" ++ texts.epoch))
  requireWire (isEpoch window.expiresAt)
    (texts.raise (texts.name ++ " expires_at" ++ texts.epoch))
  requireWire (window.issuedAt ≤ window.notBefore)
    (texts.raise (texts.name ++ texts.notBefore))
  requireWire (window.notBefore < window.expiresAt)
    (texts.raise (texts.name ++ " expires_at must follow not_before"))
  requireWire (window.expiresAt - window.issuedAt ≤ 300)
    (texts.raise (texts.name ++ texts.lifetime))

/-- The window at a time. -/
def GrantWindow.holdsAt (window : GrantWindow) (now : Int) : Bool :=
  window.notBefore ≤ now && now < window.expiresAt

def GrantWindow.entries (window : GrantWindow) : PyDict :=
  [("issued_at", .int window.issuedAt), ("not_before", .int window.notBefore),
    ("expires_at", .int window.expiresAt)]

/-! ## Verification -/

/-- The answer of a verification: accepted, or rejected for one bounded reason. -/
inductive GrantVerification (κ : Type) where
  | accepted
  | rejected (code : κ)
  deriving DecidableEq, Repr

/-- A claim is compared, or is the reason of the rejection. -/
def requireClaim {κ : Type} (holds : Bool) (code : κ) : Except κ Unit :=
  if holds then .ok () else .error code

@[simp] theorem requireClaim_eq_ok {κ : Type} {holds : Bool} {code : κ} :
    requireClaim holds code = .ok () ↔ holds = true := by
  unfold requireClaim
  split <;> simp_all

/-- The claims are compared before the digest, which is only made once they hold. -/
def verifyClaims {κ : Type} (claims : Except κ Unit) (code : κ) (claimed : String)
    (digest : Except WireError String) : Except WireError (GrantVerification κ) :=
  match claims with
  | .error rejection => .ok (.rejected rejection)
  | .ok () =>
      match digest with
      | .error e => .error e
      | .ok value => .ok (if claimed = value then .accepted else .rejected code)

theorem verifyClaims_accepted {κ : Type} {claims : Except κ Unit} {code : κ}
    {claimed : String} {digest : Except WireError String} :
    verifyClaims claims code claimed digest = .ok .accepted ↔
      claims = .ok () ∧ digest = .ok claimed := by
  unfold verifyClaims
  split
  · simp
  · split
    · simp
    · rename_i value
      by_cases h : claimed = value <;> simp [h, eq_comm]

/-! ## Workload grants -/

/-- Unsigned exact end-to-end authority for one workload request. -/
structure DelegatedWorkloadNodeControlGrant extends GrantWindow where
  issuer : String
  keyId : String
  audience : String
  target : NodeControlTarget
  variableName : NodeControlGraphReference .variable
  operation : NodeControlOperation
  commandCodec : Option ControlPlaneCommandCodec
  requestId : String
  idempotencyKey : String
  requestDigest : NodeControlRequestDigest
  jti : String
  deriving DecidableEq

def DelegatedWorkloadNodeControlGrant.descriptor
    (grant : DelegatedWorkloadNodeControlGrant) : PyValue :=
  .dict ([
    ("issuer", .str grant.issuer),
    ("key_id", .str grant.keyId),
    ("audience", .str grant.audience),
    ("target", grant.target.descriptor),
    ("variable_name", .str grant.variableName.value),
    ("operation", .str grant.operation.value),
    ("command_codec", codecOrNone grant.commandCodec),
    ("request_id", .str grant.requestId),
    ("idempotency_key", .str grant.idempotencyKey),
    ("request_digest", .str grant.requestDigest.value)] ++
    grant.toGrantWindow.entries ++
    [("jti", .str grant.jti)])

def workloadWindowTexts : WindowTexts where
  raise := .contract
  name := "workload grant"
  epoch := " must be a bounded nonnegative integer epoch second"
  notBefore := " not_before must not precede issued_at"
  lifetime := " lifetime must not exceed 300 seconds"

/-- A read carries no codec, a command carries one. -/
def checkCodec (raise : String → WireError) (name : String)
    (operation : NodeControlOperation)
    (commandCodec : Option ControlPlaneCommandCodec) : Except WireError Unit :=
  match operation, commandCodec with
  | .readState, some _ =>
      .error (raise ("read-state " ++ name ++ " grant must not carry command codec"))
  | .applyCommand, none =>
      .error (raise ("apply-command " ++ name ++ " grant requires command codec"))
  | _, _ => .ok ()

section Canonical

variable (dumps : CanonicalJson)

/-- `MAX_DELEGATED_WORKLOAD_NODE_CONTROL_GRANT_BYTES`. -/
def maxWorkloadGrantBytes : Nat := 2111

/-- `grant.canonical_bytes()`. -/
def DelegatedWorkloadNodeControlGrant.canonicalBytes
    (grant : DelegatedWorkloadNodeControlGrant) : Except WireError Bytes :=
  wireBytes dumps grant.descriptor maxWorkloadGrantBytes "workload node-control grant"

/-- What `DelegatedWorkloadNodeControlGrant` checks. -/
def DelegatedWorkloadNodeControlGrant.check
    (grant : DelegatedWorkloadNodeControlGrant) : Except WireError Unit := do
  requireReference grant.issuer "workload grant issuer"
  requireIdentifier grant.keyId "workload grant key_id"
  requireReference grant.audience "workload grant audience"
  checkCodec .contract "workload" grant.operation grant.commandCodec
  requireIdentifier grant.requestId "workload grant request_id"
  requireIdentifier grant.idempotencyKey "workload grant idempotency_key"
  grant.toGrantWindow.check workloadWindowTexts
  requireIdentifier grant.jti "workload grant jti"
  let _ ← grant.canonicalBytes dumps
  return ()

inductive WorkloadNodeControlGrantVerificationCode where
  | grantTypeMismatch
  | issuerMismatch
  | audienceMismatch
  | workspaceMismatch
  | revisionMismatch
  | nodeMismatch
  | socketMismatch
  | variableMismatch
  | commandMismatch
  | requestMismatch
  | temporallyInvalid
  deriving DecidableEq, Repr

/-- What a workload verifier expects, and when. -/
structure WorkloadGrantContext where
  expectedIssuer : String
  expectedAudience : String
  now : Int

/-- The texts and the time of a workload verifier. -/
def WorkloadGrantContext.check (context : WorkloadGrantContext) :
    Except WireError Unit := do
  requireReference context.expectedIssuer "expected workload grant issuer"
  requireReference context.expectedAudience "expected workload grant audience"
  requireEpoch context.now "workload grant verification time"

/-- The claims of a workload grant, but for the digest; no grant stands for a value
of another type. -/
def workloadClaims (context : WorkloadGrantContext)
    (request : NodeControlCommandRequest) : Option DelegatedWorkloadNodeControlGrant →
      Except WorkloadNodeControlGrantVerificationCode Unit
  | none => .error .grantTypeMismatch
  | some grant => do
      requireClaim (grant.issuer = context.expectedIssuer) .issuerMismatch
      requireClaim (grant.audience = context.expectedAudience) .audienceMismatch
      requireClaim (grant.toGrantWindow.holdsAt context.now) .temporallyInvalid
      requireClaim (grant.target.workspaceId = request.target.workspaceId)
        .workspaceMismatch
      requireClaim (grant.target.graphRevision = request.target.graphRevision)
        .revisionMismatch
      requireClaim (grant.target.nodeId = request.target.nodeId) .nodeMismatch
      requireClaim (grant.target.providerSocketName = request.target.providerSocketName)
        .socketMismatch
      requireClaim (grant.variableName = request.variableName) .variableMismatch
      requireClaim (grant.operation = request.operation &&
        grant.commandCodec = request.commandCodec) .commandMismatch
      requireClaim (grant.requestId = request.requestId &&
        grant.idempotencyKey = request.idempotencyKey) .requestMismatch

/-- `verify_workload_node_control_grant(grant, request, ...)`. -/
def verifyWorkloadNodeControlGrant (context : WorkloadGrantContext)
    (grant : Option DelegatedWorkloadNodeControlGrant)
    (request : NodeControlCommandRequest) :
    Except WireError (GrantVerification WorkloadNodeControlGrantVerificationCode) := do
  context.check
  verifyClaims (workloadClaims context request grant) .requestMismatch
    ((grant.map (·.requestDigest.value)).getD "") (request.canonicalDigest dumps)

end Canonical

end ControlPlaneKit.NodeControl
