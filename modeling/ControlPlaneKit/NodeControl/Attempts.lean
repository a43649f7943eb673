import ControlPlaneKit.NodeControl.Transit
import ControlPlaneKit.Operations.SecretUses
import ControlPlaneKit.Rotation.SigningKeys

/-!
# Attempts — intended node-control attempts

An intended attempt holds one request, the two unsigned grants made for it, and the
identities of the keys and of the authorised secret uses that will sign them.  Its
constructor checks every identity by a pattern of its own, and that the grants carry
the claims of the request.
-/

namespace ControlPlaneKit.NodeControl

open ControlPlaneKit.Library (PyValue)
open ControlPlaneKit.Library.Text (isCanonicalIdentity)
open ControlPlaneKit.Operations
open ControlPlaneKit.Topology (DelegationKeyPurpose SecretUseIntent)

/-! ## Errors -/

/-- `NodeControlAttemptError` and its subclasses. -/
inductive NodeControlAttemptError where
  | malformed (message : String)
  | conflict
  | corrupt
  deriving DecidableEq, Repr

/-! ## Patterns -/

/-- `_ACTOR_SUBJECT` and `_ISSUER`: `[a-z][a-z0-9._-]{0,127}`. -/
def isActorSubject (value : String) : Bool := Library.Text.isReference value

/-- A tag and 64 lowercase hexadecimal digits. -/
def isNamedDigest (tag value : String) : Bool :=
  let text := value.toList
  text.take tag.length = tag.toList && (text.drop tag.length).length = 64 &&
    (text.drop tag.length).all Library.Sha256.isHexDigit

/-- `_KEY_REGISTRATION`. -/
def isKeyRegistration (value : String) : Bool := isNamedDigest "dkey_" value

/-- `_AUTHORIZATION`. -/
def isAuthorization (value : String) : Bool := isNamedDigest "suse_" value

/-! ## Attempts -/

/-- One exact command intent and the public authority values supporting it. -/
structure NodeControlIntendedAttempt where
  attemptId : String
  actorSubject : String
  currentGraphId : String
  currentRealizedProjectionId : String
  gatewayRuntimeId : String
  transitKeyRegistrationId : String
  workloadKeyRegistrationId : String
  transitAuthorizationId : String
  workloadAuthorizationId : String
  transitCorrelationId : String
  workloadCorrelationId : String
  intendedAt : String
  request : NodeControlCommandRequest
  transitGrant : DelegatedGatewayNodeControlTransitGrant
  workloadGrant : DelegatedWorkloadNodeControlGrant

/-- A length between one and a maximum. -/
def isBoundedBytes (maximum : Nat) : Except WireError Bytes → Bool
  | .ok encoded => 1 ≤ encoded.length && encoded.length ≤ maximum
  | .error _ => false

namespace NodeControlIntendedAttempt

def workspaceId (attempt : NodeControlIntendedAttempt) : String :=
  attempt.request.target.workspaceId.value

def requestId (attempt : NodeControlIntendedAttempt) : String :=
  attempt.request.requestId

/-- What the constructor checks by `_IDENTIFIER`. -/
def identifiers (attempt : NodeControlIntendedAttempt) : List String :=
  [ attempt.attemptId, attempt.currentGraphId, attempt.currentRealizedProjectionId
  , attempt.gatewayRuntimeId, attempt.transitCorrelationId,
    attempt.workloadCorrelationId
  , attempt.workspaceId, attempt.requestId, attempt.transitGrant.keyId,
    attempt.transitGrant.jti
  , attempt.workloadGrant.keyId, attempt.workloadGrant.jti ]

/-- Every identity has its pattern. -/
def patternsHold (attempt : NodeControlIntendedAttempt) : Bool :=
  attempt.identifiers.all isCanonicalIdentity && isActorSubject attempt.actorSubject &&
    isKeyRegistration attempt.transitKeyRegistrationId &&
    isKeyRegistration attempt.workloadKeyRegistrationId &&
    isAuthorization attempt.transitAuthorizationId &&
    isAuthorization attempt.workloadAuthorizationId &&
    isActorSubject attempt.transitGrant.issuer &&
      isActorSubject attempt.workloadGrant.issuer

section Canonical

variable (dumps : CanonicalJson)

def bytesBounded (attempt : NodeControlIntendedAttempt) : Bool :=
  isBoundedBytes 16384 (attempt.request.canonicalBytes dumps) &&
    isBoundedBytes 2834 (attempt.transitGrant.canonicalBytes dumps) &&
    isBoundedBytes 2111 (attempt.workloadGrant.canonicalBytes dumps)

/-- The grants carry the claims of the request. -/
def grantsMatch (attempt : NodeControlIntendedAttempt) : Bool :=
  let request := attempt.request
  let transit := attempt.transitGrant
  let workload := attempt.workloadGrant
  transit.attemptId = attempt.attemptId &&
    transit.workspaceId = request.target.workspaceId &&
    transit.graphRevision = request.target.graphRevision &&
    attempt.currentGraphId = request.target.graphRevision.value &&
    (transit.target = request.target && transit.variableName = request.variableName &&
      transit.operation = request.operation &&
        transit.commandCodec = request.commandCodec &&
      transit.requestId = request.requestId &&
        transit.idempotencyKey = request.idempotencyKey &&
      request.canonicalDigest dumps = .ok transit.requestDigest.value) &&
    (workload.target = request.target && workload.variableName = request.variableName &&
      workload.operation = request.operation &&
        workload.commandCodec = request.commandCodec &&
      workload.requestId = request.requestId &&
        workload.idempotencyKey = request.idempotencyKey &&
      request.canonicalDigest dumps = .ok workload.requestDigest.value)

/-- What `NodeControlIntendedAttempt` checks. -/
def check (attempt : NodeControlIntendedAttempt) :
    Except NodeControlAttemptError Unit :=
  if (canonicalInstant attempt.intendedAt).isSome && attempt.patternsHold &&
      attempt.bytesBounded dumps && attempt.grantsMatch dumps then .ok ()
  else .error (.malformed "node-control intended attempt is incoherent")

end Canonical

end NodeControlIntendedAttempt

/-! ## Fingerprints -/

section Fingerprint

variable (dumps : CanonicalJson)

def intentProfile : String := "node-control-intent.v1"

/-- The document of an intent. -/
def intentDocument (actorSubject gatewayNodeId requestDigest : String) : PyValue :=
  .dict [
    ("profile", .str intentProfile),
    ("actor_subject", .str actorSubject),
    ("gateway_node_id", .str gatewayNodeId),
    ("request_digest", .str requestDigest)]

/-- `node_control_intent_fingerprint(...)`. -/
def nodeControlIntentFingerprint (actorSubject : String)
    (gatewayNodeId : NodeControlGraphReference .node)
    (request : NodeControlCommandRequest) : Except NodeControlAttemptError String :=
  if isActorSubject actorSubject then
    match request.canonicalDigest dumps with
    | .ok digest =>
        match dumps (intentDocument actorSubject gatewayNodeId.value digest) with
        | some encoded => .ok (sha256OfBytes encoded)
        | none =>
            .error (.malformed "node-control intent fingerprint input is malformed")
    | .error _ =>
        .error (.malformed "node-control intent fingerprint input is malformed")
  else .error (.malformed "node-control intent fingerprint input is malformed")

/-- `attempt.intent_fingerprint`. -/
def NodeControlIntendedAttempt.intentFingerprint
    (attempt : NodeControlIntendedAttempt) : Except NodeControlAttemptError String :=
  nodeControlIntentFingerprint dumps attempt.actorSubject
    attempt.transitGrant.gatewayNodeId attempt.request

end Fingerprint

/-! ## The store -/

/-- A row of `cpk_node_control_attempts`: the attempt it was written from, and whether
its bytes and digests are still the ones written. -/
structure NodeControlAttemptRow where
  attempt : NodeControlIntendedAttempt
  intact : Bool

namespace NodeControlAttemptStore

/-- `_require_node_control_identifier(value)`. -/
def requireNodeControlIdentifier (value : String) :
    Except NodeControlAttemptError Unit :=
  if isCanonicalIdentity value then .ok ()
  else .error (.malformed "node-control attempt selector is malformed")

/-- `lock_request_id(workspace_id, request_id)`. -/
def lockRequestId (workspaceId requestId : String) :
    Except NodeControlAttemptError Unit := do
  requireNodeControlIdentifier workspaceId
  requireNodeControlIdentifier requestId

/-- The key and the authorisation a row is joined with. -/
def isJoined (keys : Rotation.SigningKeyTable) (uses : List AuthorizedSecretUse)
    (workspaceId registrationId authorizationId issuer keyId actorSubject
      correlationId : String)
    (purpose : DelegationKeyPurpose) (intent : SecretUseIntent) : Bool :=
  keys.any fun key => key.identity.registrationId = registrationId &&
    key.identity.scope.workspaceId = workspaceId &&
      key.identity.scope.purpose = purpose &&
    key.identity.scope.issuer = issuer && key.identity.keyId = keyId &&
    uses.any fun use => use.authorizationId = authorizationId &&
      use.workspaceId = workspaceId &&
      use.intent = intent && use.actorSubject = actorSubject &&
      use.correlationId = correlationId &&
        use.reference = key.identity.privateKeyReference

/-- The comparisons of `_SELECT`, row by row. -/
def joins (keys : Rotation.SigningKeyTable) (uses : List AuthorizedSecretUse)
    (attempt : NodeControlIntendedAttempt) : Bool :=
  isJoined keys uses attempt.workspaceId attempt.transitKeyRegistrationId
      attempt.transitAuthorizationId attempt.transitGrant.issuer
      attempt.transitGrant.keyId
      attempt.actorSubject attempt.transitCorrelationId .gatewayNodeControlTransit
      .gatewayNodeControlTransitSigningKey &&
    isJoined keys uses attempt.workspaceId attempt.workloadKeyRegistrationId
      attempt.workloadAuthorizationId attempt.workloadGrant.issuer
      attempt.workloadGrant.keyId
      attempt.actorSubject attempt.workloadCorrelationId .workloadNodeControl
      .workloadNodeControlSigningKey

/-- `_decode_row(row)`. -/
def decodeRow (dumps : CanonicalJson) (keys : Rotation.SigningKeyTable)
    (uses : List AuthorizedSecretUse) (row : NodeControlAttemptRow) :
    Except NodeControlAttemptError NodeControlIntendedAttempt :=
  if row.intact && joins keys uses row.attempt && row.attempt.check dumps = .ok () then
    .ok row.attempt
  else .error .corrupt

/-- The row of a request. -/
def selectRequest (rows : List NodeControlAttemptRow) (workspaceId requestId : String) :
    Option NodeControlAttemptRow :=
  rows.find? fun row => row.attempt.workspaceId = workspaceId &&
    row.attempt.requestId = requestId

/-- `get_by_request_id(workspace_id, request_id)`. -/
def getByRequestId (dumps : CanonicalJson) (keys : Rotation.SigningKeyTable)
    (uses : List AuthorizedSecretUse) (rows : List NodeControlAttemptRow)
    (workspaceId requestId : String) :
    Except NodeControlAttemptError (Option NodeControlIntendedAttempt) := do
  requireNodeControlIdentifier workspaceId
  requireNodeControlIdentifier requestId
  match selectRequest rows workspaceId requestId with
  | none => .ok none
  | some row => (decodeRow dumps keys uses row).map some

/-- Two attempts that a unique key of the table keeps apart. -/
def collides (attempt other : NodeControlIntendedAttempt) : Bool :=
  other.attemptId = attempt.attemptId ||
    (other.workspaceId = attempt.workspaceId && other.requestId = attempt.requestId) ||
    (other.transitGrant.issuer = attempt.transitGrant.issuer &&
      other.transitGrant.jti = attempt.transitGrant.jti) ||
    (other.workloadGrant.issuer = attempt.workloadGrant.issuer &&
      other.workloadGrant.jti = attempt.workloadGrant.jti)

/-- `add(value)`, under the unique keys of the table. -/
def add (rows : List NodeControlAttemptRow) (attempt : NodeControlIntendedAttempt) :
    Except NodeControlAttemptError (List NodeControlAttemptRow) :=
  if rows.any fun row => collides attempt row.attempt then .error .conflict
  else .ok (rows ++ [⟨attempt, true⟩])

end NodeControlAttemptStore

end ControlPlaneKit.NodeControl
