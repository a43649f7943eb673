import ControlPlaneKit.Library.PyValue
import ControlPlaneKit.Rotation.SigningKeys

/-!
# RotationRecords — the durable record of a gateway key rotation

A rotation names one gateway authority and the key it replaces; what its steps
establish is kept in columns that are empty until then.  A deployment checkpoint
is prepared, and then accepted under the same identity.
-/

namespace ControlPlaneKit.Rotation

open ControlPlaneKit.Library (PyValue)
open ControlPlaneKit.Library.Text (isCanonicalIdentity)
open ControlPlaneKit.Operations
open ControlPlaneKit.Topology

/-! ## Vocabularies -/

inductive GatewayKeyRotationStatus where
  | requested
  | awaitingApproval
  | approved
  | generationPrepared
  | keyGenerated
  | overlapDeploying
  | overlapReady
  | newKeyActive
  | drainingOldGrants
  | retirementDeploying
  | retirementReady
  | oldKeyRetired
  | revocationPrepared
  | completed
  | blocked
  | rejected
  deriving DecidableEq, Repr

def GatewayKeyRotationStatus.value : GatewayKeyRotationStatus → String
  | .requested => "requested"
  | .awaitingApproval => "awaiting-approval"
  | .approved => "approved"
  | .generationPrepared => "generation-prepared"
  | .keyGenerated => "key-generated"
  | .overlapDeploying => "overlap-deploying"
  | .overlapReady => "overlap-ready"
  | .newKeyActive => "new-key-active"
  | .drainingOldGrants => "draining-old-grants"
  | .retirementDeploying => "retirement-deploying"
  | .retirementReady => "retirement-ready"
  | .oldKeyRetired => "old-key-retired"
  | .revocationPrepared => "revocation-prepared"
  | .completed => "completed"
  | .blocked => "blocked"
  | .rejected => "rejected"

/-- `_TERMINAL`. -/
def GatewayKeyRotationStatus.isTerminal : GatewayKeyRotationStatus → Bool
  | .completed | .blocked | .rejected => true
  | _ => false

inductive GatewayKeyRotationDeploymentPhase where
  | overlap
  | retirement
  deriving DecidableEq, Repr

def GatewayKeyRotationDeploymentPhase.value : GatewayKeyRotationDeploymentPhase → String
  | .overlap => "overlap"
  | .retirement => "retirement"

inductive GatewayKeyRotationDeploymentStatus where
  | prepared
  | accepted
  deriving DecidableEq, Repr

def GatewayKeyRotationDeploymentStatus.value :
    GatewayKeyRotationDeploymentStatus → String
  | .prepared => "prepared"
  | .accepted => "accepted"

/-! ## Checkpoints -/

/-- Secret-free identity for one prepared exact-version revocation. -/
structure GatewayKeyRotationRevocationCheckpoint where
  providerRegistrationId : String
  secretReference : SecretReference
  providerVersionId : String
  providerVersionNumber : Nat
  revocationId : String
  correlationId : String
  actionDigest : String
  preparedAt : String
  deriving DecidableEq

/-- What a deployment checkpoint is about: the records of one deployment and the
graphs it goes between. -/
structure GatewayKeyRotationDeploymentIdentity where
  sessionId : String
  planId : String
  approvalRequestId : String
  approvalDecisionId : String
  executionRequestId : String
  runId : String
  baseAuthoredGraphId : String
  baseRealizedProjectionId : String
  desiredAuthoredGraphId : String
  desiredRealizedProjectionId : String
  desiredRevision : Nat
  preparedAt : String
  deriving DecidableEq

structure GatewayKeyRotationDeploymentAcceptance where
  currentGraphId : String
  currentProjectionId : String
  acceptedAt : String
  deriving DecidableEq

/-- `GatewayKeyRotationDeploymentCheckpoint`: accepted exactly with its acceptance
evidence. -/
structure GatewayKeyRotationDeploymentCheckpoint where
  phase : GatewayKeyRotationDeploymentPhase
  identity : GatewayKeyRotationDeploymentIdentity
  acceptance : Option GatewayKeyRotationDeploymentAcceptance := none
  deriving DecidableEq

namespace GatewayKeyRotationDeploymentCheckpoint

variable (checkpoint : GatewayKeyRotationDeploymentCheckpoint)

def status : GatewayKeyRotationDeploymentStatus :=
  if checkpoint.acceptance.isSome then .accepted else .prepared

end GatewayKeyRotationDeploymentCheckpoint

/-- `_same_deployment_identity(left, right)`. -/
def sameDeploymentIdentity
    (left right : GatewayKeyRotationDeploymentCheckpoint) : Bool :=
  left.phase = right.phase && left.identity = right.identity

/-! ## Rotations -/

/-- The columns no transition writes. -/
structure GatewayKeyRotationIntent where
  rotationId : String
  workspaceId : String
  gatewayNodeId : String
  purpose : DelegationKeyPurpose
  issuer : String
  oldKeyId : String
  newSecretReference : SecretReference
  keyGenerationCorrelation : String
  maximumGrantLifetimeSeconds : Nat
  clockSkewSeconds : Nat
  correlationId : String
  requestedBy : String
  requestedAt : String
  intentFingerprint : String
  deriving DecidableEq

/-- The gateway authority a rotation owns while it is not final. -/
structure GatewayKeyBinding where
  workspaceId : String
  gatewayNodeId : String
  purpose : DelegationKeyPurpose
  issuer : String
  deriving DecidableEq

def GatewayKeyRotationIntent.binding (intent : GatewayKeyRotationIntent) :
    GatewayKeyBinding :=
  ⟨intent.workspaceId, intent.gatewayNodeId, intent.purpose, intent.issuer⟩

/-- What the steps of a rotation establish. -/
structure GatewayKeyRotationColumns where
  intent : GatewayKeyRotationIntent
  status : GatewayKeyRotationStatus := .requested
  version : Nat := 1
  approvalRequestId : Option String := none
  approvalDecisionId : Option String := none
  generationProviderRegistrationId : Option String := none
  generationActionDigest : Option String := none
  newKeyId : Option String := none
  newSecretVersionId : Option String := none
  newSecretVersionNumber : Option Nat := none
  overlapDeployment : Option GatewayKeyRotationDeploymentCheckpoint := none
  newKeyActivatedAt : Option String := none
  drainDeadlineEpoch : Option Int := none
  retirementDeployment : Option GatewayKeyRotationDeploymentCheckpoint := none
  revocation : Option GatewayKeyRotationRevocationCheckpoint := none
  oldKeyRetiredAt : Option String := none
  oldSecretRevokedAt : Option String := none
  failureCode : Option String := none
  updatedBy : Option String := none
  updatedAt : Option String := none
  deriving DecidableEq

/-- `_identifier(value, name)` of a rotation. -/
def rotationIdentifier (value name : String) : Except ServiceError Unit :=
  requireThat (isCanonicalIdentity value) (.base (name ++ " is malformed"))

def optionalIdentifier (value : Option String) (name : String) :
    Except ServiceError Unit :=
  requireThat (value.all isCanonicalIdentity) (.base (name ++ " is malformed"))

def optionalText (value : Option String) (name : String) : Except ServiceError Unit :=
  requireThat (value.all fun text => text ≠ "" && text.length ≤ 128)
    (.base (name ++ " is malformed"))

/-- Sixty-four lowercase hexadecimal digits. -/
def isDigest (value : String) : Bool :=
  value.length = 64 && value.toList.all Library.Sha256.isHexDigit

/-- What the constructor checks of the immutable columns. -/
def checkIntent (intent : GatewayKeyRotationIntent) : Except ServiceError Unit := do
  [ (intent.rotationId, "rotation_id"), (intent.workspaceId, "workspace_id")
  , (intent.gatewayNodeId, "gateway_node_id"), (intent.issuer, "issuer")
  , (intent.oldKeyId, "old_key_id")
  , (intent.keyGenerationCorrelation, "key_generation_correlation")
  , (intent.correlationId, "correlation_id"), (intent.requestedBy, "requested_by")
    ].forM fun entry => rotationIdentifier entry.1 entry.2
  requireThat
    (1 ≤ intent.maximumGrantLifetimeSeconds && intent.maximumGrantLifetimeSeconds ≤ 300)
    (.base "maximum grant lifetime is out of bounds")
  requireThat (intent.clockSkewSeconds ≤ 60) (.base "clock skew is out of bounds")
  boundedText intent.requestedAt "requested_at"
  requireThat (isDigest intent.intentFingerprint)
    (.base "intent fingerprint is malformed")

/-- What the constructor checks of a revocation checkpoint. -/
def checkRevocation (value : GatewayKeyRotationRevocationCheckpoint) :
    Except ServiceError Unit := do
  [ (value.providerRegistrationId, "provider_registration_id")
  , (value.providerVersionId, "provider_version_id")
  , (value.revocationId, "revocation_id")
  , (value.correlationId, "correlation_id") ].forM fun entry =>
    rotationIdentifier entry.1 entry.2
  requireThat (1 ≤ value.providerVersionNumber)
    (.base "revocation checkpoint version number is malformed")
  requireThat (isDigest value.actionDigest)
    (.base "revocation checkpoint action digest is malformed")
  boundedText value.preparedAt "prepared_at"

/-- What the constructor checks of a deployment checkpoint. -/
def checkDeployment (value : GatewayKeyRotationDeploymentCheckpoint) :
    Except ServiceError Unit := do
  [ (value.identity.sessionId, "session_id"), (value.identity.planId, "plan_id")
  , (value.identity.approvalRequestId, "approval_request_id")
  , (value.identity.approvalDecisionId, "approval_decision_id")
  , (value.identity.executionRequestId, "execution_request_id")
  , (value.identity.baseAuthoredGraphId, "base_authored_graph_id")
  , (value.identity.baseRealizedProjectionId, "base_realized_projection_id")
  , (value.identity.desiredAuthoredGraphId, "desired_authored_graph_id")
  , (value.identity.desiredRealizedProjectionId, "desired_realized_projection_id")
  , (value.identity.runId, "run_id") ].forM fun entry =>
    rotationIdentifier entry.1 entry.2
  boundedText value.identity.preparedAt "prepared_at"
  match value.acceptance with
  | none => return ()
  | some acceptance => do
      rotationIdentifier acceptance.currentGraphId "accepted_current_graph_id"
      rotationIdentifier acceptance.currentProjectionId "accepted_current_projection_id"
      boundedText acceptance.acceptedAt "accepted_at"

/-- `GatewayKeyRotation.__post_init__`. -/
def checkRotation (rotation : GatewayKeyRotationColumns) :
    Except ServiceError Unit := do
  checkIntent rotation.intent
  requireThat (1 ≤ rotation.version) (.base "rotation version is malformed")
  [ (rotation.approvalRequestId, "approval_request_id")
  , (rotation.approvalDecisionId, "approval_decision_id")
  , (rotation.generationProviderRegistrationId, "generation_provider_registration_id")
  , (rotation.newKeyId, "new_key_id")
  , (rotation.newSecretVersionId, "new_secret_version_id")
  , (rotation.failureCode, "failure_code"), (rotation.updatedBy, "updated_by") ].forM
    fun entry => optionalIdentifier entry.1 entry.2
  requireThat (rotation.generationProviderRegistrationId.isSome ==
    rotation.generationActionDigest.isSome)
    (.base "generation checkpoint evidence is incomplete")
  requireThat (rotation.generationActionDigest.all isDigest)
    (.base "generation action digest is malformed")
  requireThat (rotation.newSecretVersionNumber.all (1 ≤ ·))
    (.base "secret version number is malformed")
  requireThat (rotation.newKeyId.isSome == rotation.newSecretVersionId.isSome &&
      rotation.newSecretVersionId.isSome == rotation.newSecretVersionNumber.isSome)
    (.base "generated key evidence is incomplete")
  requireThat (rotation.newKeyActivatedAt.isSome == rotation.drainDeadlineEpoch.isSome)
    (.base "key activation evidence is incomplete")
  requireThat (rotation.oldSecretRevokedAt.isNone || rotation.oldKeyRetiredAt.isSome)
    (.base "secret revocation requires prior public-key retirement")
  requireThat (rotation.overlapDeployment.all fun checkpoint => checkpoint.phase =
    .overlap) (.base "overlap deployment evidence is malformed")
  requireThat (rotation.retirementDeployment.all fun checkpoint => checkpoint.phase =
    .retirement) (.base "retirement deployment evidence is malformed")
  requireThat (rotation.revocation.isNone || rotation.oldKeyRetiredAt.isSome)
    (.base "revocation checkpoint requires prior public-key retirement")
  requireThat (rotation.oldSecretRevokedAt.isNone || rotation.revocation.isSome)
    (.base "secret revocation requires prepared exact-version evidence")
  requireThat (rotation.status ≠ .completed ||
      (rotation.revocation.isSome && rotation.oldSecretRevokedAt.isSome))
    (.base "completed rotation requires exact revocation evidence")
  [ (rotation.newKeyActivatedAt, "new_key_activated_at")
  , (rotation.oldKeyRetiredAt, "old_key_retired_at")
  , (rotation.oldSecretRevokedAt, "old_secret_revoked_at")
  , (rotation.updatedAt, "updated_at") ].forM fun entry => optionalText entry.1 entry.2
  requireThat (rotation.drainDeadlineEpoch.all (0 ≤ ·))
    (.base "drain deadline is malformed")

structure GatewayKeyRotation extends GatewayKeyRotationColumns where
  checked : checkRotation toGatewayKeyRotationColumns = .ok ()

instance : DecidableEq GatewayKeyRotation := fun a b =>
  decidable_of_iff (a.toGatewayKeyRotationColumns = b.toGatewayKeyRotationColumns)
    ⟨by cases a; cases b; simp, by rintro rfl; rfl⟩

/-- The constructor of `GatewayKeyRotation`. -/
def gatewayKeyRotation (columns : GatewayKeyRotationColumns) :
    Except ServiceError GatewayKeyRotation :=
  match checked : checkRotation columns with
  | .ok () => .ok ⟨columns, checked⟩
  | .error error => .error error

theorem gatewayKeyRotation_columns {columns : GatewayKeyRotationColumns}
    {rotation : GatewayKeyRotation} (h : gatewayKeyRotation columns = .ok rotation) :
    rotation.toGatewayKeyRotationColumns = columns := by
  unfold gatewayKeyRotation at h
  split at h <;> cases h
  rfl

def GatewayKeyRotation.rotationId (rotation : GatewayKeyRotation) : String :=
  rotation.intent.rotationId

/-- The scope of the two keys of a rotation. -/
def rotationScope (rotation : GatewayKeyRotation) : DelegationKeyScope where
  workspaceId := rotation.intent.workspaceId
  purpose := rotation.intent.purpose
  issuer := rotation.intent.issuer

/-- One recorded step of a rotation. -/
structure GatewayKeyRotationTransition where
  rotationId : String
  transitionId : String
  fromStatus : GatewayKeyRotationStatus
  toStatus : GatewayKeyRotationStatus
  fromVersion : Nat
  toVersion : Nat
  transitionFingerprint : String
  advancedBy : String
  advancedAt : String
  failureCode : Option String := none
  deriving DecidableEq

/-! ## Commands -/

structure RequestGatewayKeyRotation where
  workspaceId : String
  gatewayNodeId : String
  purpose : DelegationKeyPurpose
  issuer : String
  oldKeyId : String
  newSecretReference : SecretReference
  keyGenerationCorrelation : String
  maximumGrantLifetimeSeconds : Nat
  clockSkewSeconds : Nat
  correlationId : String
  requestedBy : String
  requestedAt : String
  actorScopes : List PolicyScope

structure AdvanceGatewayKeyRotation where
  rotationId : String
  transitionId : String
  expectedStatus : GatewayKeyRotationStatus
  expectedVersion : Nat
  targetStatus : GatewayKeyRotationStatus
  advancedBy : String
  advancedAt : String
  actorScopes : List PolicyScope
  approvalRequestId : Option String := none
  approvalDecisionId : Option String := none
  generationProviderRegistrationId : Option String := none
  generationActionDigest : Option String := none
  newKeyId : Option String := none
  newSecretVersionId : Option String := none
  newSecretVersionNumber : Option Nat := none
  deployment : Option GatewayKeyRotationDeploymentCheckpoint := none
  newKeyActivatedAt : Option String := none
  revocation : Option GatewayKeyRotationRevocationCheckpoint := none
  oldKeyRetiredAt : Option String := none
  oldSecretRevokedAt : Option String := none
  failureCode : Option String := none

/-- Authenticated restart snapshot; the request claim remains authority. -/
structure GatewayKeyRotationDeploymentHandoff where
  rotationId : String
  checkpoint : GatewayKeyRotationDeploymentCheckpoint
  fence : ExecutionLeaseFence

structure AdvanceGatewayKeyRotationDeployment where
  transition : AdvanceGatewayKeyRotation
  handoff : GatewayKeyRotationDeploymentHandoff

/-! ## What a transition is fingerprinted by -/

def optionalStr (value : Option String) : PyValue := value.elim .none .str

def optionalNat (value : Option Nat) : PyValue :=
  value.elim .none fun number => .int number

/-- `_checkpoint_semantics(value)`. -/
def checkpointSemantics (value : GatewayKeyRotationDeploymentCheckpoint) : PyValue :=
  .dict
    [ ("phase", .str value.phase.value), ("status", .str value.status.value)
    , ("session_id", .str value.identity.sessionId)
    , ("plan_id", .str value.identity.planId)
    , ("approval_request_id", .str value.identity.approvalRequestId)
    , ("approval_decision_id", .str value.identity.approvalDecisionId)
    , ("execution_request_id", .str value.identity.executionRequestId)
    , ("run_id", .str value.identity.runId)
    , ("base_authored_graph_id", .str value.identity.baseAuthoredGraphId)
    , ("base_realized_projection_id", .str value.identity.baseRealizedProjectionId)
    , ("desired_authored_graph_id", .str value.identity.desiredAuthoredGraphId)
    , ("desired_realized_projection_id",
        .str value.identity.desiredRealizedProjectionId)
    , ("desired_revision", .int value.identity.desiredRevision)
    , ("prepared_at", .str value.identity.preparedAt)
    , ("accepted_current_graph_id",
        optionalStr (value.acceptance.map (·.currentGraphId)))
    , ("accepted_current_projection_id",
        optionalStr (value.acceptance.map (·.currentProjectionId)))
    , ("accepted_at", optionalStr (value.acceptance.map (·.acceptedAt))) ]

/-- `_revocation_semantics(value)`. -/
def revocationSemantics (value : GatewayKeyRotationRevocationCheckpoint) : PyValue :=
  .dict
    [ ("provider_registration_id", .str value.providerRegistrationId)
    , ("secret_reference", .str value.secretReference.referenceId)
    , ("provider_version_id", .str value.providerVersionId)
    , ("provider_version_number", .int value.providerVersionNumber)
    , ("revocation_id", .str value.revocationId)
    , ("correlation_id", .str value.correlationId)
    , ("action_digest", .str value.actionDigest)
    , ("prepared_at", .str value.preparedAt) ]

/-- The document of `_transition_fingerprint(command)`. -/
def transitionSemantics (command : AdvanceGatewayKeyRotation) : PyValue :=
  .dict
    [ ("rotation_id", .str command.rotationId)
    , ("transition_id", .str command.transitionId)
    , ("expected_status", .str command.expectedStatus.value)
    , ("expected_version", .int command.expectedVersion)
    , ("target_status", .str command.targetStatus.value)
    , ("advanced_by", .str command.advancedBy), ("advanced_at", .str command.advancedAt)
    , ("approval_request_id", optionalStr command.approvalRequestId)
    , ("approval_decision_id", optionalStr command.approvalDecisionId)
    , ("generation_provider_registration_id",
        optionalStr command.generationProviderRegistrationId)
    , ("generation_action_digest", optionalStr command.generationActionDigest)
    , ("new_key_id", optionalStr command.newKeyId)
    , ("new_secret_version_id", optionalStr command.newSecretVersionId)
    , ("new_secret_version_number", optionalNat command.newSecretVersionNumber)
    , ("deployment", command.deployment.elim .none checkpointSemantics)
    , ("new_key_activated_at", optionalStr command.newKeyActivatedAt)
    , ("revocation", command.revocation.elim .none revocationSemantics)
    , ("old_key_retired_at", optionalStr command.oldKeyRetiredAt)
    , ("old_secret_revoked_at", optionalStr command.oldSecretRevokedAt)
    , ("failure_code", optionalStr command.failureCode) ]

end ControlPlaneKit.Rotation
