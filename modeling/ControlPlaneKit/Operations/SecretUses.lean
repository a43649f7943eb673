import ControlPlaneKit.Library.QuotedText
import ControlPlaneKit.Operations.SecretProviders

/-!
# SecretUses — authorising one use of a secret

A use is authorised under the active registration of its reference and the active
registration of that reference's provider, both locked until the commit.  The
authorisation is named by a digest of what it allows, and answers every later
command of its correlation.
-/

namespace ControlPlaneKit.Operations

open ControlPlaneKit.Library.PyValue (quoted)
open ControlPlaneKit.Library.Supersession
open ControlPlaneKit.Library.Text (isCanonicalIdentity)
open ControlPlaneKit.Topology

/-! ## A use -/

/-- What is to be used, by whom and in which course of work. -/
structure SecretUse where
  workspaceId : String
  reference : SecretReference
  intent : SecretUseIntent
  actorSubject : String
  correlationId : String
  operationId : Option String
  sessionId : Option String
  runId : Option String
  activityId : Option String
  effectId : Option String
  probeId : Option String
  deriving DecidableEq

/-- Request one exact, workspace-admitted secret use before provider IO. -/
structure AuthorizeSecretUse extends SecretUse where
  requestedAt : String
  actorScopes : List PolicyScope

/-- Durable operations evidence for one bounded use, never secret material. -/
structure AuthorizedSecretUse extends SecretUse where
  authorizationId : String
  referenceRegistrationId : String
  providerRegistrationId : String
  requestedAt : String
  intentFingerprint : String
  deriving DecidableEq

/-- Committed, reference-only authority for one exact provider resolution. -/
structure SecretResolutionGrant extends SecretUse where
  authorizationId : String
  referenceRegistrationId : String
  providerRegistrationId : String
  endpointReference : String
  credentialReference : SecretReference
  intentFingerprint : String
  deriving DecidableEq

/-! ## The digest of a use -/

/-- A text or `null`. -/
def textOrNull : Option String → List Char
  | some value => quoted value
  | none => ['n', 'u', 'l', 'l']

/-- The entries of a JSON object after its opening brace. -/
def objectTail : List (String × Option String) → List Char
  | [] => ['\x7d']
  | [entry] => quoted entry.1 ++ ':' :: (textOrNull entry.2 ++ ['\x7d'])
  | entry :: rest =>
      quoted entry.1 ++ ':' :: (textOrNull entry.2 ++ ',' :: objectTail rest)

/-- What a use and the registrations it stands under say, its keys in order. -/
def SecretUse.semantics (use : SecretUse)
    (referenceRegistrationId providerRegistrationId : String) :
    List (String × Option String) :=
  [ ("activity_id", use.activityId)
  , ("actor_subject", some use.actorSubject)
  , ("correlation_id", some use.correlationId)
  , ("effect_id", use.effectId)
  , ("intent", some use.intent.value)
  , ("operation_id", use.operationId)
  , ("probe_id", use.probeId)
  , ("provider_registration_id", some providerRegistrationId)
  , ("reference_id", some use.reference.referenceId)
  , ("reference_registration_id", some referenceRegistrationId)
  , ("run_id", use.runId)
  , ("session_id", use.sessionId)
  , ("workspace_id", some use.workspaceId) ]

/-- `json.dumps(semantics, sort_keys=True, separators=(",", ":"))`. -/
def SecretUse.document (use : SecretUse)
    (referenceRegistrationId providerRegistrationId : String) : String :=
  String.ofList ('\x7b' :: objectTail (use.semantics referenceRegistrationId
    providerRegistrationId))

/-- The document an authorisation was named by. -/
def AuthorizedSecretUse.document (use : AuthorizedSecretUse) : String :=
  use.toSecretUse.document use.referenceRegistrationId use.providerRegistrationId

/-- What a correlation is derived from, its keys in order. -/
def SecretUse.correlationSemantics (use : SecretUse) : List (String × Option String) :=
  [ ("activity_id", use.activityId)
  , ("actor_subject", some use.actorSubject)
  , ("effect_id", use.effectId)
  , ("intent", some use.intent.value)
  , ("operation_id", use.operationId)
  , ("probe_id", use.probeId)
  , ("reference_id", some use.reference.referenceId)
  , ("run_id", use.runId)
  , ("session_id", use.sessionId)
  , ("workspace_id", some use.workspaceId) ]

/-- `secret_use_correlation_for(...)`, of a use but for its correlation. -/
def secretUseCorrelationFor (use : SecretUse) : Except ServiceError String := do
  requireIdentifier use.workspaceId "workspace_id"
  requireIdentifier use.actorSubject "actor_subject"
  requireThat (use.runId.all isCanonicalIdentity) (.base "run_id is malformed")
  return "secret-use:" ++ sha256Hexdigest
    (String.ofList ('\x7b' :: objectTail use.correlationSemantics))

/-- `authorized_secret_use_for(command, reference=reference, provider=provider)`. -/
def authorizedSecretUseFor (command : AuthorizeSecretUse)
    (reference : RegisteredSecretReference) (provider : RegisteredSecretProvider) :
    AuthorizedSecretUse :=
  let fingerprint := sha256Hexdigest
    (command.toSecretUse.document reference.registrationId provider.registrationId)
  { command.toSecretUse with
    authorizationId := "suse_" ++ fingerprint
    referenceRegistrationId := reference.registrationId
    providerRegistrationId := provider.registrationId
    requestedAt := command.requestedAt
    intentFingerprint := fingerprint }

/-! ## The store -/

namespace SecretUseAuthorizationStore

/-- `for_correlation(workspace_id, correlation_id)`. -/
def forCorrelation (uses : List AuthorizedSecretUse)
    (workspaceId correlationId : String) : Option AuthorizedSecretUse :=
  uses.find? fun use => use.workspaceId = workspaceId &&
    use.correlationId = correlationId

/-- `add(authorized)`, with the keys of the table. -/
def add (uses : List AuthorizedSecretUse) (authorized : AuthorizedSecretUse) :
    Except ServiceError (List AuthorizedSecretUse) :=
  if uses.any fun use => use.authorizationId = authorized.authorizationId ||
      (use.workspaceId = authorized.workspaceId &&
        use.correlationId = authorized.correlationId) then
    .error (.integrity "cpk_secret_use_authorizations")
  else .ok (uses ++ [authorized])

end SecretUseAuthorizationStore

/-! ## The service -/

structure SecretState extends SecretRegistrations where
  uses : List AuthorizedSecretUse

/-- `_require_optional_correlation_identifier(value, field_name)`. -/
def requireOptionalIdentity (value : Option String) (field : String) :
    Except ServiceError Unit :=
  requireThat (value.all isCanonicalIdentity) (.base (field ++ " is malformed"))

/-- What a command is checked by before its transaction: the record's own checks,
the scope and the timestamp. -/
def AuthorizeSecretUse.check (command : AuthorizeSecretUse) :
    Except ServiceError Unit := do
  requireIdentifier command.workspaceId "workspace_id"
  requireIdentifier command.actorSubject "actor_subject"
  requireThat (isCanonicalIdentity command.correlationId)
    (.base "correlation_id is malformed")
  requireBoundedText command.requestedAt "requested_at" 128
  requireOptionalIdentity command.operationId "operation_id"
  requireOptionalIdentity command.sessionId "session_id"
  requireOptionalIdentity command.effectId "effect_id"
  requireOptionalIdentity command.probeId "probe_id"
  requireOptionalIdentity command.runId "run_id"
  requireOptionalIdentity command.activityId "activity_id"
  requireSecretScope command.actorScopes .secretProviderUse
  requireThat (canonicalInstant command.requestedAt).isSome
    (.base "timestamp must be canonical UTC text")

/-- The registrations a use stands under, both active and locked. -/
def coveringRegistrations (command : AuthorizeSecretUse) (state : SecretRegistrations) :
    Except ServiceError (RegisteredSecretReference × RegisteredSecretProvider) := do
  let reference ← SecretReferenceStore.getActiveForUpdate state.references
    command.workspaceId command.reference
  let provider ← SecretProviderStore.requireActiveRegistration state.providers
    command.workspaceId reference.material.providerRegistrationId
  validateReferenceAdmission reference provider
  requireThat (reference.material.allowedIntents.contains command.intent)
    (.base "secret use intent is outside reference admission")
  return (reference, provider)

/-- The authorisation of the correlation, or the candidate, stored. -/
def authorizedOrAdded (uses : List AuthorizedSecretUse)
    (candidate : AuthorizedSecretUse) :
    Except ServiceError (AuthorizedSecretUse × List AuthorizedSecretUse) :=
  match SecretUseAuthorizationStore.forCorrelation uses candidate.workspaceId
      candidate.correlationId with
  | some existing =>
      if existing.intentFingerprint ≠ candidate.intentFingerprint then
        .error (.idempotencyConflict
          "secret use correlation was reused with different intent")
      else .ok (existing, uses)
  | none => do
      let stored ← SecretUseAuthorizationStore.add uses candidate
      return (candidate, stored)

/-- `authorize_secret_use_in_unit_of_work(unit_of_work, command)`. -/
def authorizeSecretUseInUnitOfWork (command : AuthorizeSecretUse)
    (state : SecretState) :
    Except ServiceError
      ((AuthorizedSecretUse × RegisteredSecretProvider) × SecretState) := do
  command.check
  let (reference, provider) ← coveringRegistrations command state.toSecretRegistrations
  let (authorized, uses) ← authorizedOrAdded state.uses
    (authorizedSecretUseFor command reference provider)
  return ((authorized, provider), { state with uses := uses })

/-- `SecretUseAuthorizationService.authorize(command)`. -/
def authorizeSecretUse (command : AuthorizeSecretUse) (state : SecretState) :
    Except ServiceError (AuthorizedSecretUse × SecretState) := do
  let ((authorized, _), after) ← authorizeSecretUseInUnitOfWork command state
  return (authorized, after)

/-- `secret_resolution_grant_for(authorized, provider=provider)`. -/
def secretResolutionGrantFor (authorized : AuthorizedSecretUse)
    (provider : RegisteredSecretProvider) : Except ServiceError SecretResolutionGrant :=
  if authorized.workspaceId ≠ provider.scope ∨
      authorized.providerRegistrationId ≠ provider.registrationId then
    .error (.base
      "secret resolution grant provider identity does not match authorization")
  else .ok
    { authorized.toSecretUse with
      authorizationId := authorized.authorizationId
      referenceRegistrationId := authorized.referenceRegistrationId
      providerRegistrationId := authorized.providerRegistrationId
      endpointReference := provider.material.endpointReference
      credentialReference := provider.material.credentialReference
      intentFingerprint := authorized.intentFingerprint }

/-- `authorize_resolution(command)`. -/
def authorizeResolution (command : AuthorizeSecretUse) (state : SecretState) :
    Except ServiceError (SecretResolutionGrant × SecretState) := do
  let ((authorized, provider), after) ← authorizeSecretUseInUnitOfWork command state
  let grant ← secretResolutionGrantFor authorized provider
  return (grant, after)

/-! ## Histories -/

inductive SecretCommand where
  | registration (command : SecretRegistrationCommand)
  | authorize (command : AuthorizeSecretUse)
  | authorizeResolution (command : AuthorizeSecretUse)

def SecretState.empty : SecretState := { SecretRegistrations.empty with uses := [] }

/-- One command as a transaction. -/
def SecretState.execute :
    SecretCommand → SecretState → Except ServiceError (Unit × SecretState)
  | .registration command, state => do
      let ((), registrations) ←
        SecretRegistrations.execute command state.toSecretRegistrations
      return ((), { registrations with uses := state.uses })
  | .authorize command, state => do
      let (_, after) ← authorizeSecretUse command state
      return ((), after)
  | .authorizeResolution command, state => do
      let (_, after) ← Operations.authorizeResolution command state
      return ((), after)

/-- The state after a history of commands. -/
def SecretState.after (history : List SecretCommand) : SecretState :=
  Library.Transactions.run SecretState.execute .empty history

end ControlPlaneKit.Operations
