import ControlPlaneKit.Library.Transactions
import ControlPlaneKit.NodeControl.IntentLaws
import ControlPlaneKit.NodeControl.OneEncoding

/-!
# IntentRuns — intents among other commands

An intent runs among commands that advance the graph, change the signing keys, and
register, revoke and use secrets.  Each is one transaction: the lock on the request's
identity, the row of the workspace and the locks on the keys' purposes keep two of them
apart until one commits.
-/

namespace ControlPlaneKit.NodeControl

open ControlPlaneKit.Library (PyFloat)
open ControlPlaneKit.Library.Transactions (run)
open ControlPlaneKit.Operations
open ControlPlaneKit.Rotation
  (RegisteredDelegationSigningKey SigningKeyCall SigningKeyRow perform)
open ControlPlaneKit.Topology
  (DelegationKeyPurpose Node SecretUseIntent sha256Hexdigest)

/-! ## Steps -/

section Steps

variable (dumps : CanonicalJson) (lifetime : GrantLifetime)

/-- The transaction of `execute`: the attempt it answers with, whether it was stored
before, and what is committed. -/
def commitIntent (command : RequestNodeControlIntent dumps) (draws : Option IntentDraws)
    (stores : NodeControlStores) :
    Except NodeControlIntentFault
      ((NodeControlIntendedAttempt × Bool) × NodeControlStores) := do
  requireScopes command
  let fingerprint ← translated (.base "node-control intent identity is malformed")
    (nodeControlIntentFingerprint dumps command.actorId command.gatewayNodeId
      command.request)
  (NodeControlAttemptStore.lockRequestId command.workspaceId
    command.request.requestId).mapError .attempt
  let existing ← existingAttempt dumps stores command.workspaceId
    command.request.requestId
  match existing with
  | some attempt => do
      let stored ← (attempt.intentFingerprint dumps).mapError .attempt
      NodeControlIntentFault.guard (stored = fingerprint)
        (.conflict "node-control request identity conflicts with durable intent")
      return ((attempt, true), stores)
  | none => do
      let (attempt, secrets) ← prepareNew dumps lifetime stores command draws
      let after ← addAttempt stores attempt secrets
      return ((attempt, false), after)

/-- A command on the stores that an intent reads. -/
inductive IntentStep where
  | intent (command : RequestNodeControlIntent dumps) (draws : Option IntentDraws)
  | advanceGraph (workspaces : List WorkspaceRow)
      (projections : List RealizedProjection)
  | signingKey (call : SigningKeyCall)
  | secret (command : SecretCommand)

/-- One step as a transaction; advancing the graph may leave any graph truth. -/
def NodeControlStores.transaction : IntentStep dumps → NodeControlStores →
    Except NodeControlIntentFault (Unit × NodeControlStores)
  | .intent command draws, stores => do
      let (_, after) ← commitIntent dumps lifetime command draws stores
      return ((), after)
  | .advanceGraph workspaces projections, stores =>
      .ok ((), { stores with workspaces, projections })
  | .signingKey call, stores => do
      let (_, keys) ← (perform sha256Hexdigest call stores.keys).mapError .secrets
      return ((), { stores with keys })
  | .secret command, stores => do
      let (_, secrets) ← (SecretState.execute command stores.secrets).mapError .secrets
      return ((), { stores with secrets })

/-- The stores after any steps. -/
def NodeControlStores.afterSteps (start : NodeControlStores)
    (steps : List (IntentStep dumps)) : NodeControlStores :=
  run (NodeControlStores.transaction dumps lifetime) start steps

end Steps

/-! ## What the stores keep -/

/-- The identity of a request, which its row is stored under. -/
def NodeControlAttemptRow.requestIdentity (row : NodeControlAttemptRow) :
    String × String :=
  (row.attempt.workspaceId, row.attempt.requestId)

structure NodeControlStores.Sound (stores : NodeControlStores) : Prop where
  secrets : stores.secrets.Sound
  requests : (stores.attempts.map (·.requestIdentity)).Nodup

/-! ## What a new attempt is -/

section NewAttempts

variable {dumps : CanonicalJson} (lifetime : GrantLifetime)
  (stores after : NodeControlStores) (command : RequestNodeControlIntent dumps)
  (attempt : NodeControlIntendedAttempt)

/-- The attempt targets the workspace's current graph, and a variable declared there. -/
def TargetsCurrent (dumps : CanonicalJson) : Prop :=
  ∃ row lineage projection node surface declared contract,
    stores.workspaces.find? (fun row => row.workspaceId = attempt.workspaceId) =
      some row ∧
    row.currentLineage = some lineage ∧
    lineage.authoredGraphId = attempt.request.target.graphRevision.value ∧
    attempt.currentGraphId = lineage.authoredGraphId ∧
    attempt.currentRealizedProjectionId = lineage.realizedProjectionId ∧
    stores.projections.find? (fun row => row.projectionId =
      lineage.realizedProjectionId) =
      some projection ∧
    projection.workspaceId = attempt.workspaceId ∧
    projection.sourceAuthoredGraphId = lineage.authoredGraphId ∧
    projection.graph.nodes[attempt.request.target.nodeId.value]? = some node ∧
    surface ∈ declaredSurfaces dumps node ∧
    surface.providerSocketName = attempt.request.target.providerSocketName ∧
    declared ∈ surface.declaredVariables ∧
    declared.variableName = attempt.request.variableName ∧
    declared.contractFor attempt.request.operation = .ok contract ∧
    contract.commandCodec = attempt.request.commandCodec

/-- The one active key of a purpose signs the grant that names it. -/
structure ActiveKey (purpose : DelegationKeyPurpose)
    (registrationId issuer keyId : String) (row : SigningKeyRow) : Prop where
  stored : row ∈ stores.keys
  active : row.status = .active
  registered : row.identity.registrationId = registrationId
  workspace : row.identity.scope.workspaceId = attempt.workspaceId
  purpose : row.identity.scope.purpose = purpose
  issuer : row.identity.scope.issuer = issuer
  keyId : row.identity.keyId = keyId

/-- A stored use of a key's reference, for the attempt and its actor, whose
registrations are active. -/
structure AuthorisedUse (intent : SecretUseIntent)
    (authorizationId correlationId : String) (row : SigningKeyRow)
    (use : AuthorizedSecretUse) : Prop where
  stored : use ∈ after.secrets.uses
  named : use.authorizationId = authorizationId
  correlated : use.correlationId = correlationId
  workspace : use.workspaceId = attempt.workspaceId
  reference : use.reference = row.identity.privateKeyReference
  intent : use.intent = intent
  actor : use.actorSubject = attempt.actorSubject
  operation : use.operationId = some attempt.attemptId
  covered : after.secrets.toSecretRegistrations.Covered use.toSecretUse
    use.referenceRegistrationId use.providerRegistrationId

/-- Two distinct active keys, each with an authorised use of its private reference. -/
def KeysAuthorised : Prop :=
  ∃ transitRow workloadRow transitUse workloadUse,
    ActiveKey stores attempt .gatewayNodeControlTransit attempt.transitKeyRegistrationId
        attempt.transitGrant.issuer attempt.transitGrant.keyId transitRow ∧
      ActiveKey stores attempt .workloadNodeControl attempt.workloadKeyRegistrationId
        attempt.workloadGrant.issuer attempt.workloadGrant.keyId workloadRow ∧
      attempt.transitKeyRegistrationId ≠ attempt.workloadKeyRegistrationId ∧
      AuthorisedUse after attempt .gatewayNodeControlTransitSigningKey
        attempt.transitAuthorizationId attempt.transitCorrelationId
        transitRow transitUse ∧
      AuthorisedUse after attempt .workloadNodeControlSigningKey
        attempt.workloadAuthorizationId attempt.workloadCorrelationId
        workloadRow workloadUse

/-- What the verifiers of an attempt's grants expect at a time. -/
def transitContext (now : Int) : TransitGrantContext :=
  ⟨attempt.transitGrant.issuer, attempt.transitGrant.keyId, attempt.attemptId,
    attempt.transitGrant.gatewayNodeId, now⟩

def workloadContext (now : Int) : WorkloadGrantContext :=
  ⟨attempt.workloadGrant.issuer, attempt.workloadGrant.audience, now⟩

/-- Both grants are accepted for the request of the attempt throughout one window, and
by no verifier outside the window or for another request. -/
structure GrantsAccepted (dumps : CanonicalJson) : Prop where
  window : attempt.transitGrant.toGrantWindow = attempt.workloadGrant.toGrantWindow
  transit : ∀ now, attempt.transitGrant.issuedAt ≤ now →
    now < attempt.transitGrant.expiresAt →
    verifyGatewayNodeControlTransitGrant dumps (transitContext attempt now)
      (some attempt.transitGrant) attempt.request = .ok .accepted
  workload : ∀ now, attempt.workloadGrant.issuedAt ≤ now →
    now < attempt.workloadGrant.expiresAt →
    verifyWorkloadNodeControlGrant dumps (workloadContext attempt now)
      (some attempt.workloadGrant) attempt.request = .ok .accepted
  transitOnly : ∀ (context : TransitGrantContext) other,
    verifyGatewayNodeControlTransitGrant dumps context
      (some attempt.transitGrant) other =
        .ok .accepted →
      attempt.transitGrant.issuedAt ≤ context.now ∧
        context.now < attempt.transitGrant.expiresAt ∧
        (DigestsApart (attempt.request.canonicalBytes dumps)
          (other.canonicalBytes dumps) →
          attempt.request.Same other)
  workloadOnly : ∀ (context : WorkloadGrantContext) other,
    verifyWorkloadNodeControlGrant dumps context (some attempt.workloadGrant) other =
        .ok .accepted →
      attempt.workloadGrant.issuedAt ≤ context.now ∧
        context.now < attempt.workloadGrant.expiresAt ∧
        (DigestsApart (attempt.request.canonicalBytes dumps)
          (other.canonicalBytes dumps) →
          attempt.request.Same other)

/-- The bytes a row is written with are read back as the request and the grants that the
row stands for. -/
structure DecodesBack (dumps : CanonicalJson) (float : String → PyFloat) : Prop where
  request : ∃ encoded decoded, attempt.request.canonicalBytes dumps = .ok encoded ∧
    decodeRequestBytes dumps float encoded = .ok decoded ∧ attempt.request.Same decoded
  transit : ∃ encoded, attempt.transitGrant.canonicalBytes dumps = .ok encoded ∧
    decodeTransitGrantBytes dumps float encoded = .ok attempt.transitGrant
  workload : ∃ encoded, attempt.workloadGrant.canonicalBytes dumps = .ok encoded ∧
    decodeGrantBytes dumps float encoded = .ok attempt.workloadGrant

/-- An attempt that a command has just committed. -/
structure NewAttempt (float : String → PyFloat) : Prop where
  stored : after.attempts = stores.attempts ++ [⟨attempt, true⟩]
  request : attempt.request = command.request
  actor : attempt.actorSubject = command.actorId
  gateway : attempt.transitGrant.gatewayNodeId = command.gatewayNodeId
  workspace : attempt.workspaceId = command.workspaceId
  current : TargetsCurrent stores attempt dumps
  authorised : KeysAuthorised stores after attempt
  accepted : GrantsAccepted attempt dumps
  decodes : DecodesBack attempt dumps float

end NewAttempts

/-- SHA-256 tells the documents of a use of a key, under the correlation derived for it,
from those of the stored uses. -/
def KeyUseApart {dumps : CanonicalJson} (command : RequestNodeControlIntent dumps)
    (drawn : IntentDraws) (key : RegisteredDelegationSigningKey)
    (intent : SecretUseIntent) (secrets : SecretState) : Prop :=
  ∀ correlationId, secretUseCorrelationFor (keyUse command drawn.attemptId key intent) =
      .ok correlationId →
    secrets.DigestsApart (keyUseCommand command drawn key intent correlationId)

/-- SHA-256 tells the documents of the two uses from those of the stored uses. -/
def UsesApart {dumps : CanonicalJson} (lifetime : GrantLifetime)
    (stores : NodeControlStores) (command : RequestNodeControlIntent dumps)
    (draws : Option IntentDraws) : Prop :=
  ∀ selected, selectAuthority dumps lifetime stores command draws = .ok selected →
    KeyUseApart command selected.draws selected.transitKey
      .gatewayNodeControlTransitSigningKey stores.secrets ∧
      ∀ transitUse afterTransit,
        authorizeKeyUse command selected.draws selected.transitKey
            .gatewayNodeControlTransitSigningKey stores.secrets =
              .ok (transitUse, afterTransit) →
          KeyUseApart command selected.draws selected.workloadKey
            .workloadNodeControlSigningKey afterTransit

/-- The same actor asks the same of the same gateway. -/
structure Repeats {dumps : CanonicalJson}
    (command other : RequestNodeControlIntent dumps) : Prop where
  workspace : other.workspaceId = command.workspaceId
  actor : other.actorId = command.actorId
  gateway : other.gatewayNodeId = command.gatewayNodeId
  request : other.request = command.request
  scopes : requireScopes other = .ok ()

end ControlPlaneKit.NodeControl
