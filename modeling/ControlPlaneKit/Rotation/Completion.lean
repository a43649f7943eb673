import ControlPlaneKit.Library.Interleaved
import ControlPlaneKit.Rotation.Rotations

/-!
# Completion — retiring the old key and revoking its provider version

The program goes through four durable steps: the public key is retired, the exact
revocation is prepared, the provider is asked for it, and the rotation is folded
from the provider's answer.  Between any two of its transactions others may write,
and the process may stop; a new execution starts from what is stored.
-/

namespace ControlPlaneKit.Rotation

open ControlPlaneKit.Library (PyValue)
open ControlPlaneKit.Library.Interleaved (Program)
open ControlPlaneKit.Library.Text (isCanonicalIdentity)
open ControlPlaneKit.Operations
open ControlPlaneKit.Topology

/-! ## Revocation of a provider version -/

/-- Reference-only authority to revoke one exact provider secret version. -/
structure SecretVersionRevocationGrant where
  revocationId : String
  workspaceId : String
  providerRegistrationId : String
  endpointReference : String
  credentialReference : SecretReference
  reference : SecretReference
  versionId : String
  versionNumber : Nat
  actorSubject : String
  correlationId : String
  revocationFingerprint : String
  operationId : String
  deriving DecidableEq

/-- Secret-free identity returned after exact provider-version revocation. -/
structure SecretVersionRevocationReceipt where
  revocationId : String
  providerRegistrationId : String
  reference : SecretReference
  versionId : String
  versionNumber : Nat
  deriving DecidableEq

/-- `receipt.matches(grant)`. -/
def SecretVersionRevocationReceipt.matchesGrant
    (receipt : SecretVersionRevocationReceipt)
    (grant : SecretVersionRevocationGrant) : Bool :=
  receipt.revocationId = grant.revocationId &&
    receipt.providerRegistrationId = grant.providerRegistrationId &&
    receipt.reference = grant.reference && receipt.versionId = grant.versionId &&
    receipt.versionNumber = grant.versionNumber

/-- What the adapter makes of the provider: one of the three outcomes, another value,
or an exception. -/
inductive RevocationAnswer where
  | revoked (receipt : SecretVersionRevocationReceipt)
  | definiteFailure (failureCode : String)
  | uncertain (failureCode : String)
  | malformed
  | raised
  deriving DecidableEq

def grantIdentifier (value label : String) : Except ServiceError Unit :=
  requireThat (isCanonicalIdentity value)
    (.base ("secret resolution grant " ++ label ++ " is malformed"))

/-- The constructor of `SecretVersionRevocationGrant`. -/
def checkGrant (grant : SecretVersionRevocationGrant) : Except ServiceError Unit := do
  [ (grant.revocationId, "revocation_id"), (grant.workspaceId, "workspace_id")
  , (grant.providerRegistrationId, "provider_registration_id")
  , (grant.versionId, "version_id")
  , (grant.actorSubject, "actor_subject"), (grant.correlationId, "correlation_id")
    ].forM fun entry => grantIdentifier entry.1 entry.2
  requireThat (1 ≤ grant.versionNumber)
    (.base "secret version revocation version number is malformed")
  requireThat (isDigest grant.revocationFingerprint)
    (.base "secret version revocation fingerprint is malformed")
  grantIdentifier grant.operationId "operation_id"

/-- The constructor of `SecretVersionRevocationReceipt`. -/
def checkReceipt (receipt : SecretVersionRevocationReceipt) :
    Except ServiceError Unit := do
  [ (receipt.revocationId, "revocation_id")
  , (receipt.providerRegistrationId, "provider_registration_id")
  , (receipt.versionId, "version_id") ].forM fun entry =>
    grantIdentifier entry.1 entry.2
  requireThat (1 ≤ receipt.versionNumber)
    (.base "secret version revocation receipt version number is malformed")

/-! ## What the program shares with others -/

/-- The tables the program writes, and the calls its provider has had. -/
structure CompletionState where
  rotations : RotationStores := {}
  keys : SigningKeyTable := []
  revocations : List (SecretVersionRevocationGrant × RevocationAnswer) := []

structure WorkspaceTruth where
  currentGraphId : Option String
  currentRealizedProjectionId : Option String
  deriving DecidableEq

/-- An active secret reference; its metadata is what its provider said of it. -/
structure AdmittedSecretReference where
  providerRegistrationId : String
  allowedIntents : List SecretUseIntent
  metadata : String → Option PyValue

structure ActiveProviderRegistration where
  registrationId : String
  endpointReference : String
  credentialReference : SecretReference

/-- What a step reads besides: the two clocks, the tables that others write, and the
provider's answer. -/
structure CompletionInput where
  clock : String
  trustedEpoch : Int
  evidence : RotationEvidence := {}
  workspace : String → Option WorkspaceTruth := fun _ => none
  secretReference : String → SecretReference → Option AdmittedSecretReference :=
    fun _ _ => none
  providerRegistration : String → String → Option ActiveProviderRegistration :=
    fun _ _ => none
  answer : RevocationAnswer := .raised

abbrev CompletionStep (α : Type) : Type 1 :=
  Program CompletionState CompletionInput ServiceError α

/-! ## Commands and results -/

structure CompleteGatewayKeyRotation where
  rotationId : String
  expectedRetirementReadyVersion : Nat
  actorId : String
  actorScopes : List PolicyScope

structure GatewayKeyRotationRevocationAction where
  rotationId : String
  retirementReadyVersion : Nat
  revocationPreparedVersion : Nat
  checkpoint : GatewayKeyRotationRevocationCheckpoint
  grant : SecretVersionRevocationGrant

inductive GatewayKeyRotationCompletionOutcome where
  | completed
  | completedReplay
  | retryable
  | blocked
  deriving DecidableEq, Repr

structure GatewayKeyRotationCompletionResult where
  rotation : GatewayKeyRotation
  outcome : GatewayKeyRotationCompletionOutcome
  action : Option GatewayKeyRotationRevocationAction := none
  receipt : Option SecretVersionRevocationReceipt := none
  failureCode : Option String := none

/-- The constructor of `CompleteGatewayKeyRotation`. -/
def checkCompletion (command : CompleteGatewayKeyRotation) :
    Except ServiceError Unit := do
  rotationIdentifier command.rotationId "rotation_id"
  requireThat (1 ≤ command.expectedRetirementReadyVersion)
    (.base "expected retirement-ready version is malformed")
  rotationIdentifier command.actorId "actor_id"
  requireThat (command.actorScopes ≠ []) (.base "actor scopes are malformed")

/-- The constructor of `GatewayKeyRotationRevocationAction`. -/
def revocationAction (action : GatewayKeyRotationRevocationAction) :
    Except ServiceError GatewayKeyRotationRevocationAction := do
  rotationIdentifier action.rotationId "rotation_id"
  requireThat (1 ≤ action.retirementReadyVersion &&
      action.revocationPreparedVersion = action.retirementReadyVersion + 2)
    (.base "revocation action rotation lineage is malformed")
  requireThat (action.grant.revocationId = action.checkpoint.revocationId &&
      action.grant.providerRegistrationId = action.checkpoint.providerRegistrationId &&
      action.grant.reference = action.checkpoint.secretReference &&
      action.grant.versionId = action.checkpoint.providerVersionId &&
      action.grant.versionNumber = action.checkpoint.providerVersionNumber &&
      action.grant.correlationId = action.checkpoint.correlationId &&
      action.grant.revocationFingerprint = action.checkpoint.actionDigest)
    (.base "revocation action changed from its durable checkpoint")
  return action

/-- The constructor of `GatewayKeyRotationCompletionResult`. -/
def completionResult (result : GatewayKeyRotationCompletionResult) :
    Except ServiceError GatewayKeyRotationCompletionResult := do
  let completed : Bool :=
    result.outcome = .completed || result.outcome = .completedReplay
  requireThat (completed == (result.rotation.status = .completed))
    (.base "completion result and rotation status disagree")
  requireThat (completed == result.receipt.isSome)
    (.base "completion receipt does not match outcome")
  match result.outcome with
  | .retryable =>
      requireThat (result.action.isSome && result.failureCode.isSome)
        (.base "retryable result requires action and bounded failure")
  | .blocked =>
      requireThat result.failureCode.isSome
        (.base "blocked result requires bounded failure")
  | .completed | .completedReplay =>
      requireThat result.failureCode.isNone
        (.base "successful completion cannot carry failure")
  return result

/-- `_authorize(scopes)`. -/
def authorizeCompletion (scopes : List PolicyScope) : Except ServiceError Unit :=
  requireThat
    ([.delegationKeyRotate, .delegationKeyRetire, .delegationKeyRevoke,
      .secretProviderRevoke].all fun required => scopes.contains required)
    (.denied "gateway key rotation completion lacks focused authority")

/-- `_require_version(rotation, command, offset)`. -/
def requireCompletionVersion (rotation : GatewayKeyRotation)
    (command : CompleteGatewayKeyRotation) (offset : Nat) : Except ServiceError Unit :=
  requireThat (rotation.version = command.expectedRetirementReadyVersion + offset)
    (.conflict "rotation completion lineage is stale")

/-- `_receipt_from_completed(rotation)`. -/
def receiptFromCompleted (rotation : GatewayKeyRotation) :
    Except ServiceError SecretVersionRevocationReceipt := do
  let checkpoint ← found rotation.revocation
    (.conflict "completed rotation lacks revocation checkpoint")
  let receipt : SecretVersionRevocationReceipt :=
    { revocationId := checkpoint.revocationId
      providerRegistrationId := checkpoint.providerRegistrationId
      reference := checkpoint.secretReference
      versionId := checkpoint.providerVersionId
      versionNumber := checkpoint.providerVersionNumber }
  checkReceipt receipt
  return receipt

/-! ## The program -/

section Program

variable (hash : String → String) (digest : PyValue → String)

/-- `stores.delegation_signing_keys.require_active(workspace_id, purpose, issuer)`. -/
def requireActive (keys : SigningKeyTable) (scope : DelegationKeyScope) :
    Except ServiceError RegisteredDelegationSigningKey := do
  let row ← found (keys.find? fun row => row.identity.scope = scope &&
    row.status = .active) (.notFound "active delegation signing key was not found")
  SigningKeyTable.readRow hash row

/-- `_time()`. -/
def completionTime : CompletionStep String :=
  .read fun input _ => do
    requireThat (input.clock ≠ "" && input.clock.length ≤ 128)
      (.base "trusted clock returned malformed time")
    return input.clock

/-- `_rotation(rotation_id)`. -/
def rotationOf (rotationId : String) : CompletionStep GatewayKeyRotation :=
  .read fun _ state =>
    found state.rotations.rotations[rotationId]?
      (.conflict "gateway key rotation was not found")

/-- `_old_key(rotation)`. -/
def oldKeyOf (rotation : GatewayKeyRotation) :
    CompletionStep RegisteredDelegationSigningKey :=
  .read fun _ state =>
    state.keys.get hash (rotationScope rotation) rotation.intent.oldKeyId

/-- `self._rotations.advance(command)`. -/
def advanceStep (command : AdvanceGatewayKeyRotation) :
    CompletionStep GatewayKeyRotation :=
  .write fun input state =>
    (rotate digest ⟨.advance command, input.evidence, input.trustedEpoch⟩
      state.rotations).map fun out => (out.1, { state with rotations := out.2 })

/-- `self._keys.retire(command)` and `self._keys.revoke(command)`. -/
def keyStep (command : SigningKeyCommand) :
    CompletionStep RegisteredDelegationSigningKey :=
  .write fun _ state =>
    (perform hash ⟨fun _ _ => none, command⟩ state.keys).map
      fun out => (out.1, { state with keys := out.2 })

/-- `self._adapter.revoke_version(grant)`. -/
def revokeVersion (grant : SecretVersionRevocationGrant) :
    CompletionStep RevocationAnswer :=
  .write fun input state =>
    .ok (input.answer, { state with
      revocations := state.revocations ++ [(grant, input.answer)] })

/-- `_validate_retirement_truth(rotation)`. -/
def validateRetirementTruth (rotation : GatewayKeyRotation) : CompletionStep Unit := do
  let acceptance ← Program.ofExcept
    (found (rotation.retirementDeployment.bind (·.acceptance))
      (.conflict "accepted B-only retirement evidence is missing"))
  let truth ← Program.read fun input state => do
    let workspace ← found (input.workspace rotation.intent.workspaceId)
      (.notFound "workspace")
    let active ← requireActive hash state.keys (rotationScope rotation)
    return (workspace, active)
  Program.ofExcept
    (requireThat (truth.1.currentGraphId = some acceptance.currentGraphId &&
        truth.1.currentRealizedProjectionId = some acceptance.currentProjectionId &&
        rotation.newKeyId = some truth.2.identity.keyId)
      (.conflict "accepted B-only retirement truth changed"))

/-- The provider version in a reference's metadata. -/
def providerVersion (reference : AdmittedSecretReference) :
    Except ServiceError (String × Nat) :=
  let malformed :=
    ServiceError.conflict "old key reference lacks exact provider version metadata"
  match reference.metadata "provider_version_id",
      reference.metadata "provider_version_number" with
  | some (.str versionId), some (.int versionNumber) => do
      requireThat
        (isCanonicalIdentity versionId && decide (1 ≤ versionNumber)) malformed
      return (versionId, versionNumber.toNat)
  | _, _ => .error malformed

/-- What `_derive_revocation` reads in its transaction. -/
structure RevocationCustody where
  privateKeyReference : SecretReference
  provider : ActiveProviderRegistration
  versionId : String
  versionNumber : Nat

def revocationCustody (rotation : GatewayKeyRotation) :
    CompletionStep RevocationCustody :=
  .read fun input state => do
    let unadmitted :=
      ServiceError.conflict "old key custody truth is not actively admitted"
    let oldKey ← state.keys.get hash (rotationScope rotation) rotation.intent.oldKeyId
    let privateKeyReference := oldKey.identity.privateKeyReference
    let reference ← found
      (input.secretReference rotation.intent.workspaceId privateKeyReference) unadmitted
    let provider ← found
      (input.providerRegistration rotation.intent.workspaceId
        reference.providerRegistrationId)
      unadmitted
    requireThat (reference.allowedIntents.contains .gatewayProbeSigningKey)
      (.conflict "old key reference is not admitted for delegation signing")
    let version ← providerVersion reference
    return ⟨privateKeyReference, provider, version.1, version.2⟩

/-- The document of a revocation's digest. -/
def revocationActionSemantics (grant : SecretVersionRevocationGrant) : PyValue :=
  .dict
    [ ("rotation_id", .str grant.operationId), ("workspace_id", .str grant.workspaceId)
    , ("provider_registration_id", .str grant.providerRegistrationId)
    , ("endpoint_reference", .str grant.endpointReference)
    , ("credential_reference", .str grant.credentialReference.referenceId)
    , ("reference", .str grant.reference.referenceId)
    , ("version_id", .str grant.versionId)
    , ("version_number", .int grant.versionNumber)
    , ("actor_subject", .str grant.actorSubject)
    , ("correlation_id", .str grant.correlationId) ]

/-- The grant of a custody, for one actor; its identity is the digest of the rest. -/
def revocationGrant (rotation : GatewayKeyRotation) (actorId : String)
    (custody : RevocationCustody) : SecretVersionRevocationGrant :=
  let unnamed : SecretVersionRevocationGrant :=
    { revocationId := ""
      workspaceId := rotation.intent.workspaceId
      providerRegistrationId := custody.provider.registrationId
      endpointReference := custody.provider.endpointReference
      credentialReference := custody.provider.credentialReference
      reference := custody.privateKeyReference
      versionId := custody.versionId
      versionNumber := custody.versionNumber
      actorSubject := actorId
      correlationId := rotation.intent.correlationId ++ ":revoke-old-version"
      revocationFingerprint := ""
      operationId := rotation.rotationId }
  let fingerprint := digest (revocationActionSemantics unnamed)
  { unnamed with
      revocationId := "srevoke_" ++ fingerprint, revocationFingerprint := fingerprint }

/-- The checkpoint of a grant. -/
def revocationCheckpoint (grant : SecretVersionRevocationGrant) (preparedAt : String) :
    GatewayKeyRotationRevocationCheckpoint where
  providerRegistrationId := grant.providerRegistrationId
  secretReference := grant.reference
  providerVersionId := grant.versionId
  providerVersionNumber := grant.versionNumber
  revocationId := grant.revocationId
  correlationId := grant.correlationId
  actionDigest := grant.revocationFingerprint
  preparedAt := preparedAt

/-- `prepared_at or self._time()`. -/
def preparedInstant (preparedAt : Option String) : CompletionStep String :=
  match preparedAt.filter (· ≠ "") with
  | some preparedAt => pure preparedAt
  | none => completionTime

/-- `_derive_revocation(rotation, actor_id, prepared_at)`. -/
def deriveRevocation (rotation : GatewayKeyRotation) (actorId : String)
    (preparedAt : Option String) :
    CompletionStep
      (GatewayKeyRotationRevocationCheckpoint × SecretVersionRevocationGrant) := do
  validateRetirementTruth hash rotation
  let custody ← revocationCustody hash rotation
  let grant := revocationGrant digest rotation actorId custody
  Program.ofExcept (checkGrant grant)
  let preparedAt ← preparedInstant preparedAt
  let checkpoint := revocationCheckpoint grant preparedAt
  Program.ofExcept (checkRevocation checkpoint)
  return (checkpoint, grant)

/-- The step the program takes to a status, with the evidence given. -/
def completionAdvance (rotation : GatewayKeyRotation)
    (command : CompleteGatewayKeyRotation) (suffix : String)
    (expectedStatus targetStatus : GatewayKeyRotationStatus) (advancedAt : String) :
    AdvanceGatewayKeyRotation where
  rotationId := rotation.rotationId
  transitionId := rotation.rotationId ++ suffix
  expectedStatus := expectedStatus
  expectedVersion := rotation.version
  targetStatus := targetStatus
  advancedBy := command.actorId
  advancedAt := advancedAt
  actorScopes := [.delegationKeyRotate]

/-- A key command of the program. -/
def completionKeyCommand (rotation : GatewayKeyRotation)
    (command : CompleteGatewayKeyRotation) (at' : String) (scope : PolicyScope) :
    SigningKeyLifecycleCommand where
  scope := rotationScope rotation
  keyId := rotation.intent.oldKeyId
  by' := command.actorId
  at' := at'
  actorScopes := [scope]

/-- The public key is retired, unless an earlier execution did. -/
def retirePublicKey (command : CompleteGatewayKeyRotation)
    (rotation : GatewayKeyRotation) : CompletionStep Unit := do
  let oldKey ← oldKeyOf hash rotation
  if oldKey.status = .verifyOnly then
    let retiredAt ← completionTime
    let _ ← keyStep hash
      (.retire (completionKeyCommand rotation command retiredAt .delegationKeyRetire))
  else
    Program.ofExcept (requireThat (oldKey.status = .retired)
      (.conflict "old delegation key is not eligible for retirement"))

/-- What `_prepare` does from `RETIREMENT_READY`. -/
def retireOldKey (command : CompleteGatewayKeyRotation)
    (rotation : GatewayKeyRotation) : CompletionStep GatewayKeyRotation := do
  Program.ofExcept (requireCompletionVersion rotation command 0)
  let _ ← deriveRevocation hash digest rotation command.actorId none
  retirePublicKey hash command rotation
  let advancedAt ← completionTime
  let retired ← oldKeyOf hash rotation
  advanceStep digest
    { completionAdvance rotation command ":old-key-retired" .retirementReady
        .oldKeyRetired advancedAt with
        oldKeyRetiredAt := retired.retiredAt }

/-- What `_prepare` does from `OLD_KEY_RETIRED`: the exact revocation is stored. -/
def prepareRevocation (command : CompleteGatewayKeyRotation)
    (rotation : GatewayKeyRotation) : CompletionStep GatewayKeyRotation := do
  Program.ofExcept (requireCompletionVersion rotation command 1)
  let derived ← deriveRevocation hash digest rotation command.actorId none
  advanceStep digest
    { completionAdvance rotation command ":prepare-revocation" .oldKeyRetired
        .revocationPrepared derived.1.preparedAt with
      revocation := some derived.1 }

/-- A part of `_prepare` that only runs from its own status. -/
def whenStatus (status : GatewayKeyRotationStatus) (rotation : GatewayKeyRotation)
    (part : CompletionStep GatewayKeyRotation) : CompletionStep GatewayKeyRotation :=
  if rotation.status = status then part else pure rotation

/-- `_prepare(command, rotation)`. -/
def prepareCompletion (command : CompleteGatewayKeyRotation)
    (rotation : GatewayKeyRotation) :
    CompletionStep GatewayKeyRotationRevocationAction := do
  let rotation ← whenStatus .retirementReady rotation
    (retireOldKey hash digest command rotation)
  let rotation ← whenStatus .oldKeyRetired rotation
    (prepareRevocation hash digest command rotation)
  Program.ofExcept (requireThat (rotation.status = .revocationPrepared)
    (.conflict "rotation is not ready for exact secret-version revocation"))
  Program.ofExcept (requireCompletionVersion rotation command 2)
  let derived ← deriveRevocation hash digest rotation command.actorId
    (rotation.revocation.map (·.preparedAt))
  Program.ofExcept (requireThat (rotation.revocation = some derived.1)
    (.conflict "prepared revocation action changed after restart"))
  Program.ofExcept (revocationAction
    { rotationId := rotation.rotationId
      retirementReadyVersion := command.expectedRetirementReadyVersion
      revocationPreparedVersion := rotation.version
      checkpoint := derived.1
      grant := derived.2 })

/-- `_match_action(rotation, action)`. -/
def matchAction (rotation : GatewayKeyRotation)
    (action : GatewayKeyRotationRevocationAction) : CompletionStep Unit := do
  Program.ofExcept (requireThat
    (rotation.status = .revocationPrepared &&
      rotation.version = action.revocationPreparedVersion &&
      rotation.revocation = some action.checkpoint)
    (.conflict "prepared revocation action is stale"))
  validateRetirementTruth hash rotation

/-- `_block(command, action, failure_code)`. -/
def blockCompletion (command : CompleteGatewayKeyRotation)
    (action : GatewayKeyRotationRevocationAction) (failureCode : String) :
    CompletionStep GatewayKeyRotationCompletionResult := do
  Program.ofExcept (rotationIdentifier failureCode "failure_code")
  let rotation ← rotationOf command.rotationId
  matchAction hash rotation action
  let advancedAt ← completionTime
  let blocked ← advanceStep digest
    { completionAdvance rotation command ":revocation-uncertain" .revocationPrepared
        .blocked advancedAt with
      failureCode := some failureCode }
  Program.ofExcept (completionResult
    { rotation := blocked, outcome := .blocked, failureCode := some failureCode })

/-- The old key is revoked before the rotation is completed. -/
def revokeOldKey (command : CompleteGatewayKeyRotation)
    (rotation : GatewayKeyRotation) : CompletionStep Unit := do
  let oldKey ← oldKeyOf hash rotation
  if oldKey.status = .retired then
    let revokedAt ← completionTime
    let _ ← keyStep hash
      (.revoke (completionKeyCommand rotation command revokedAt .delegationKeyRevoke))
  else
    Program.ofExcept (requireThat (oldKey.status = .revoked)
      (.conflict "old delegation key changed before completion"))

/-- `_fold_success(command, action, receipt)`. -/
def foldSuccess (command : CompleteGatewayKeyRotation)
    (action : GatewayKeyRotationRevocationAction) :
    CompletionStep GatewayKeyRotation := do
  let rotation ← rotationOf command.rotationId
  matchAction hash rotation action
  revokeOldKey hash command rotation
  let current ← rotationOf command.rotationId
  let advancedAt ← completionTime
  let revokedAt ← completionTime
  advanceStep digest
    { completionAdvance current command ":complete-revocation" .revocationPrepared
        .completed advancedAt with
      oldSecretRevokedAt := some revokedAt }

/-- What `progress` does with the provider's answer. -/
def foldAnswer (command : CompleteGatewayKeyRotation)
    (action : GatewayKeyRotationRevocationAction) :
    RevocationAnswer → CompletionStep GatewayKeyRotationCompletionResult
  | .raised => .raised (.base "revocation adapter raised")
  | .malformed =>
      blockCompletion hash digest command action "revocation-malformed-result"
  | .definiteFailure failureCode => do
      let rotation ← rotationOf command.rotationId
      Program.ofExcept (completionResult
        { rotation := rotation, outcome := .retryable, action := some action
          failureCode := some failureCode })
  | .uncertain failureCode => blockCompletion hash digest command action failureCode
  | .revoked receipt =>
      if receipt.matchesGrant action.grant then do
        let completed ← foldSuccess hash digest command action
        Program.ofExcept (completionResult
          { rotation := completed, outcome := .completed, receipt := some receipt })
      else blockCompletion hash digest command action "revocation-receipt-mismatch"

/-- `progress(command)`. -/
def progressCompletion (command : CompleteGatewayKeyRotation) :
    CompletionStep GatewayKeyRotationCompletionResult := do
  Program.ofExcept (checkCompletion command)
  Program.ofExcept (authorizeCompletion command.actorScopes)
  let rotation ← rotationOf command.rotationId
  if rotation.status = .completed then
    Program.ofExcept (requireCompletionVersion rotation command 3)
    let receipt ← Program.ofExcept (receiptFromCompleted rotation)
    Program.ofExcept (completionResult
      { rotation := rotation, outcome := .completedReplay, receipt := some receipt })
  else if rotation.status = .blocked then
    Program.ofExcept (completionResult
      { rotation := rotation, outcome := .blocked,
        failureCode := rotation.failureCode })
  else
    let action ← prepareCompletion hash digest command rotation
    let answer ← revokeVersion action.grant
    foldAnswer hash digest command action answer

end Program

end ControlPlaneKit.Rotation
