import ControlPlaneKit.Operations.SecretUses

/-!
# SecretCustody — authority to write one generated secret

A generated secret is handed to an admitted provider under a custody grant, and
the provider answers with a receipt.  A receipt that matches its grant is admitted
as a secret reference of the grant's workspace.
-/

namespace ControlPlaneKit.Operations

open ControlPlaneKit.Library.Text (isCanonicalIdentity)
open ControlPlaneKit.Topology

/-! ## The words of a grant and of a receipt -/

/-- Reference-only authority to write one generated value into one provider. -/
structure SecretCustodyGrant where
  custodyId : String
  workspaceId : String
  providerRegistrationId : String
  endpointReference : String
  credentialReference : SecretReference
  reference : SecretReference
  intent : SecretUseIntent
  actorSubject : String
  correlationId : String
  custodyFingerprint : String
  operationId : Option String
  sessionId : Option String
  runId : Option String
  activityId : Option String
  effectId : Option String

/-- Secret-free identity returned after one provider custody mutation. -/
structure SecretCustodyReceipt where
  custodyId : String
  providerRegistrationId : String
  reference : SecretReference
  versionId : String
  versionNumber : Nat
  positive : 1 ≤ versionNumber

/-- `receipt.matches(grant)`. -/
def SecretCustodyReceipt.matchesGrant (receipt : SecretCustodyReceipt)
    (grant : SecretCustodyGrant) : Bool :=
  receipt.custodyId = grant.custodyId &&
    receipt.providerRegistrationId = grant.providerRegistrationId &&
    receipt.reference = grant.reference

/-- `_digest(semantics)`, of keys in order. -/
def custodyDigest (semantics : List (String × Option String)) : String :=
  sha256Hexdigest (String.ofList ('\x7b' :: objectTail semantics))

/-! ## The grant -/

/-- The course of work a secret is generated in. -/
structure CustodyCourse where
  workspaceId : String
  actorSubject : String
  actorScopes : List PolicyScope
  operationId : String
  sessionId : String
  runId : String
  activityId : String
  effectId : String

/-- What a custody correlation is derived from, its keys in order. -/
def CustodyCourse.correlationSemantics (course : CustodyCourse)
    (providerRegistrationId : String) (reference : SecretReference)
    (intent : SecretUseIntent) : List (String × Option String) :=
  [ ("activity_id", some course.activityId)
  , ("actor_subject", some course.actorSubject)
  , ("effect_id", some course.effectId)
  , ("intent", some intent.value)
  , ("operation_id", some course.operationId)
  , ("provider_registration_id", some providerRegistrationId)
  , ("reference_id", some reference.referenceId)
  , ("run_id", some course.runId)
  , ("session_id", some course.sessionId)
  , ("workspace_id", some course.workspaceId) ]

/-- What a custody grant says, its keys in order. -/
def CustodyCourse.grantSemantics (course : CustodyCourse)
    (providerRegistrationId : String) (reference : SecretReference)
    (intent : SecretUseIntent) (correlationId : String) :
    List (String × Option String) :=
  [ ("activity_id", some course.activityId)
  , ("actor_subject", some course.actorSubject)
  , ("correlation_id", some correlationId)
  , ("effect_id", some course.effectId)
  , ("intent", some intent.value)
  , ("operation_id", some course.operationId)
  , ("provider_registration_id", some providerRegistrationId)
  , ("reference_id", some reference.referenceId)
  , ("run_id", some course.runId)
  , ("session_id", some course.sessionId)
  , ("workspace_id", some course.workspaceId) ]

/-- What names the custody of a reference, its keys in order. -/
def custodySemantics (workspaceId providerRegistrationId : String)
    (reference : SecretReference) (intent : SecretUseIntent) :
    List (String × Option String) :=
  [ ("intent", some intent.value)
  , ("provider_registration_id", some providerRegistrationId)
  , ("reference_id", some reference.referenceId)
  , ("workspace_id", some workspaceId) ]

/-- `secret_custody_correlation_for(...)`. -/
def secretCustodyCorrelationFor (course : CustodyCourse)
    (providerRegistrationId : String) (reference : SecretReference)
    (intent : SecretUseIntent) : Except ServiceError String := do
  requireIdentifier course.workspaceId "workspace_id"
  requireIdentifier providerRegistrationId "provider_registration_id"
  requireIdentifier course.actorSubject "actor_subject"
  requireThat (isCanonicalIdentity course.runId) (.base "run_id is malformed")
  return "secret-custody:" ++
    custodyDigest (course.correlationSemantics providerRegistrationId reference intent)

/-- The candidate whose admission a grant presupposes. -/
def custodyCandidate (provider : RegisteredSecretProvider) (course : CustodyCourse)
    (reference : SecretReference) (intent : SecretUseIntent) :
    RegisteredSecretReference :=
  newRegistration "sref_candidate" course.workspaceId reference
    { providerRegistrationId := provider.registrationId, allowedIntents := [intent],
      metadata := [] }
    none course.actorSubject "candidate"

/-- `secret_custody_grant_for(...)`, up to the checks of the grant's own record on the
course. -/
def secretCustodyGrantFor (provider : RegisteredSecretProvider) (course : CustodyCourse)
    (reference : SecretReference) (intent : SecretUseIntent) (correlationId : String) :
    Except ServiceError SecretCustodyGrant := do
  requireSecretScope course.actorScopes .secretProviderUse
  requireIdentifier course.workspaceId "workspace_id"
  requireIdentifier course.actorSubject "actor_subject"
  requireThat (isCanonicalIdentity correlationId) (.base "correlation_id is malformed")
  requireThat (provider.scope = course.workspaceId)
    (.base "secret custody provider belongs to a different workspace")
  requireIdentifier provider.registrationId "provider_registration_id"
  validateReferenceAdmission
    (custodyCandidate provider course reference intent) provider
  return {
    custodyId := "scust_" ++ custodyDigest
      (custodySemantics course.workspaceId provider.registrationId reference intent)
    workspaceId := course.workspaceId
    providerRegistrationId := provider.registrationId
    endpointReference := provider.material.endpointReference
    credentialReference := provider.material.credentialReference
    reference := reference
    intent := intent
    actorSubject := course.actorSubject
    correlationId := correlationId
    custodyFingerprint := custodyDigest
      (course.grantSemantics provider.registrationId reference intent correlationId)
    operationId := some course.operationId
    sessionId := some course.sessionId
    runId := some course.runId
    activityId := some course.activityId
    effectId := some course.effectId }

/-! ## Admission of what was generated -/

/-- `generated_secret_reference_candidate(grant=..., receipt=..., admitted_at=...)`. -/
def generatedSecretReferenceCandidate (grant : SecretCustodyGrant)
    (receipt : SecretCustodyReceipt) (admittedAt : String) :
    Except ServiceError RegisteredSecretReference := do
  requireThat (receipt.matchesGrant grant)
    (.base "secret custody receipt does not match its grant")
  RegisterSecretReferenceCommand.candidate
    { workspaceId := grant.workspaceId
      reference := grant.reference
      material :=
        { providerRegistrationId := grant.providerRegistrationId
          allowedIntents := [grant.intent]
          metadata :=
            [ ("custody_id", .str receipt.custodyId)
            , ("provider_version_id", .str receipt.versionId)
            , ("provider_version_number", .int receipt.versionNumber) ] }
      admittedBy := grant.actorSubject
      admittedAt := admittedAt
      actorScopes := [.secretProviderRegister]
      supersedesRegistrationId := none }

end ControlPlaneKit.Operations
