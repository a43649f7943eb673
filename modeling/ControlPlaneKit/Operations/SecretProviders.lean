import ControlPlaneKit.Library.PyJson
import ControlPlaneKit.Library.Supersession
import ControlPlaneKit.Library.Transactions
import ControlPlaneKit.Operations.Temporal
import ControlPlaneKit.Topology.Material
import Mathlib.Data.List.Dedup
import Mathlib.Data.List.Infix

/-!
# SecretProviders — secret providers and references admitted into a workspace

A provider is admitted with the prefixes and intents it may serve; a reference is
admitted under one provider registration.  Both registrations are named by a
digest of what they say, supersede one another, and are revoked but never
deleted.
-/

namespace ControlPlaneKit.Operations

open ControlPlaneKit.Library (PyDict PyValue)
open ControlPlaneKit.Library.PyValue (pyEq dumps JsonStyle)
open ControlPlaneKit.Library.Supersession
open ControlPlaneKit.Library.Text (isReference)
open ControlPlaneKit.Topology

/-! ## Texts and references -/

/-- `_require_identifier(value, field_name)`. -/
def requireIdentifier (value field : String) : Except ServiceError Unit :=
  requireThat (isReference value) (.base (field ++ " is malformed"))

/-- `_require_bounded_text(value, field_name, maximum=maximum)`. -/
def requireBoundedText (value field : String) (maximum : Nat) :
    Except ServiceError Unit :=
  requireThat (value ≠ "" && value.length ≤ maximum &&
      value.toList.all fun character => 32 ≤ character.toNat)
    (.base (field ++ " must be nonempty bounded text"))

/-- `_SECRET_VALUE_MARKERS`. -/
def secretValueMarkers : List String :=
  ["://", "bearer ", "-----begin", "ciphertext", "plaintext"]

/-- Some marker stands in the lowered text. -/
def hasSecretMarker (value : String) : Bool :=
  secretValueMarkers.any fun marker => decide (marker.toList <:+: value.toLower.toList)

/-- `_require_public_text(value, field_name, maximum=maximum)`. -/
def requirePublicText (value field : String) (maximum : Nat) :
    Except ServiceError Unit := do
  requireBoundedText value field maximum
  requireThat (!hasSecretMarker value)
    (.base (field ++ " must not contain endpoint or secret material"))

/-- The pieces of `secret://provider/path...` between its slashes. -/
def referencePieces (reference : SecretReference) : List (List Char) :=
  reference.referenceId.toList.splitOn '/'

/-- `reference.provider_id`. -/
def referenceProviderId (reference : SecretReference) : String :=
  String.ofList ((referencePieces reference).getD 2 [])

/-- `reference.path`. -/
def referencePath (reference : SecretReference) : List (List Char) :=
  (referencePieces reference).drop 3

/-- `_reference_is_within(reference, prefix)`. -/
def referenceIsWithin (reference within : SecretReference) : Bool :=
  referenceProviderId reference = referenceProviderId within &&
    (referencePath reference).take (referencePath within).length = referencePath within

/-! ## What a registration says -/

inductive SecretProviderKind where
  | controlPlaneKitSecrets
  deriving DecidableEq, Repr

def SecretProviderKind.value : SecretProviderKind → String
  | .controlPlaneKitSecrets => "control-plane-kit-secrets"

structure SecretProviderMaterial where
  providerKind : SecretProviderKind
  displayName : String
  endpointReference : String
  credentialReference : SecretReference
  allowedReferencePrefixes : List SecretReference
  allowedIntents : List SecretUseIntent
  metadata : PyDict

structure SecretReferenceMaterial where
  providerRegistrationId : String
  allowedIntents : List SecretUseIntent
  metadata : PyDict

/-- One workspace's admitted provider metadata, never provider material. -/
abbrev RegisteredSecretProvider := Registration String SecretProviderMaterial

/-- One pre-existing provider handle admitted for bounded use. -/
abbrev RegisteredSecretReference := Registration SecretReference SecretReferenceMaterial

/-- A text or `None`. -/
def strOrNone : Option String → PyValue
  | some value => .str value
  | none => .none

def strings (values : List String) : PyValue := .list (values.map .str)

/-- `_provider_semantics(provider)`. -/
def providerSemantics (workspaceId providerId : String) (supersedes : Option String)
    (material : SecretProviderMaterial) : PyValue :=
  .dict [
    ("workspace_id", .str workspaceId),
    ("provider_id", .str providerId),
    ("provider_kind", .str material.providerKind.value),
    ("display_name", .str material.displayName),
    ("endpoint_reference", .str material.endpointReference),
    ("credential_reference", .str material.credentialReference.referenceId),
    ("allowed_reference_prefixes", strings
      (material.allowedReferencePrefixes.map (·.referenceId))),
    ("allowed_intents", strings (material.allowedIntents.map (·.value))),
    ("supersedes_registration_id", strOrNone supersedes),
    ("metadata", .dict material.metadata)]

/-- `_reference_semantics(reference)`. -/
def referenceSemantics (workspaceId : String) (reference : SecretReference)
    (supersedes : Option String) (material : SecretReferenceMaterial) : PyValue :=
  .dict [
    ("workspace_id", .str workspaceId),
    ("reference_id", .str reference.referenceId),
    ("provider_registration_id", .str material.providerRegistrationId),
    ("allowed_intents", strings (material.allowedIntents.map (·.value))),
    ("supersedes_registration_id", strOrNone supersedes),
    ("metadata", .dict material.metadata)]

/-- `provider.same_admission_as(other)`. -/
def sameProviderAdmission (provider other : RegisteredSecretProvider) : Bool :=
  pyEq (providerSemantics provider.scope provider.subject
    provider.supersedes provider.material)
    (providerSemantics other.scope other.subject other.supersedes other.material)

/-- `reference.same_admission_as(other)`. -/
def sameReferenceAdmission (reference other : RegisteredSecretReference) : Bool :=
  pyEq (referenceSemantics reference.scope reference.subject reference.supersedes
      reference.material)
    (referenceSemantics other.scope other.subject other.supersedes other.material)

/-- `_digest(value)`: an integer too long to print is a `ValueError`. -/
def semanticsDigest (value : PyValue) : Except ServiceError String :=
  match dumps JsonStyle.compact value with
  | .ok text => .ok (sha256Hexdigest (String.ofList text))
  | .error _ =>
      .error (.base "Exceeds the limit (4300 digits) for integer string conversion")

/-! ## The checks of a record -/

/-- `_reference_prefixes(values, provider_id)`. -/
def referencePrefixes (values : List SecretReference) (providerId : String) :
    Except ServiceError (List SecretReference) := do
  requireThat (!values.isEmpty)
    (.base "allowed_reference_prefixes must be a nonempty tuple")
  let ordered := values.dedup.mergeSort fun a b => a.referenceId ≤ b.referenceId
  requireThat (ordered.all fun value => referenceProviderId value = providerId)
    (.base "provider prefix identity does not match provider_id")
  return ordered

/-- `_intents(values)`. -/
def secretIntents (values : List SecretUseIntent) :
    Except ServiceError (List SecretUseIntent) := do
  requireThat (!values.isEmpty) (.base "allowed_intents must be a nonempty tuple")
  return values.dedup.mergeSort fun a b => a.value ≤ b.value

/-- `_SECRET_SHAPED_METADATA_KEYS`. -/
def secretShapedMetadataKeys : List String :=
  ["access_token", "api_key", "api_token", "ciphertext", "credential",
    "credential_value", "master_key", "password", "plaintext", "private_key", "secret",
    "secret_value", "token"]

/-- One entry of `_metadata(value)`. -/
def metadataEntry (key : String) (item : PyValue) : Except ServiceError Unit := do
  requireThat (isReference key) (.base "metadata key is malformed")
  requireThat (!secretShapedMetadataKeys.contains
      (key.toLower.map fun character => if character = '-' then '_' else character))
    (.base "metadata must not contain secret-bearing fields")
  match item with
  | .none | .bool _ | .int _ => .ok ()
  | .float x =>
      requireThat (!(["NaN", "Infinity", "-Infinity"].contains x.text))
        (.base "metadata numeric values must be finite")
  | .str text => do
      requireBoundedText text ("metadata." ++ key) 512
      requireThat (!hasSecretMarker text)
        (.base "metadata must not contain endpoint or secret material")
  | _ => .error (.base "metadata values must be bounded scalars")

/-- `_metadata(value)`. -/
def checkMetadata (metadata : PyDict) : Except ServiceError Unit := do
  requireThat (metadata.length ≤ 32) (.base "metadata must be a bounded mapping")
  metadata.forM fun entry => metadataEntry entry.1 entry.2

/-- A registration that supersedes another names it by a well formed identity, and
is not the one it supersedes. -/
def checkSupersedes (registrationId : String) (supersedes : Option String)
    (itself : String) : Except ServiceError Unit :=
  match supersedes with
  | none => .ok ()
  | some target => do
      requireIdentifier target "supersedes_registration_id"
      requireThat (target ≠ registrationId) (.base itself)

/-- A new registration. -/
def newRegistration {κ μ : Type} (registrationId workspaceId : String) (subject : κ)
    (material : μ) (supersedes : Option String) (admittedBy admittedAt : String) :
    Registration κ μ where
  registrationId := registrationId
  scope := workspaceId
  subject := subject
  supersedes := supersedes
  material := material
  admittedBy := admittedBy
  admittedAt := admittedAt
  status := .active
  revokedBy := none
  revokedAt := none

structure RegisterSecretProviderCommand where
  workspaceId : String
  providerId : String
  material : SecretProviderMaterial
  admittedBy : String
  admittedAt : String
  actorScopes : List PolicyScope
  supersedesRegistrationId : Option String

structure RegisterSecretReferenceCommand where
  workspaceId : String
  reference : SecretReference
  material : SecretReferenceMaterial
  admittedBy : String
  admittedAt : String
  actorScopes : List PolicyScope
  supersedesRegistrationId : Option String

/-- `candidate()`: the identity is a digest of the ordered prefixes and intents. -/
def RegisterSecretProviderCommand.candidate (command : RegisterSecretProviderCommand) :
    Except ServiceError RegisteredSecretProvider := do
  requireIdentifier command.workspaceId "workspace_id"
  requirePublicText command.material.displayName "display_name" 128
  let prefixes ← referencePrefixes command.material.allowedReferencePrefixes
    command.providerId
  let intents ← secretIntents command.material.allowedIntents
  checkMetadata command.material.metadata
  let material := { command.material with
    allowedReferencePrefixes := prefixes, allowedIntents := intents }
  let digest ← semanticsDigest (providerSemantics command.workspaceId command.providerId
    command.supersedesRegistrationId material)
  requireIdentifier command.admittedBy "admitted_by"
  requireBoundedText command.admittedAt "admitted_at" 128
  checkSupersedes ("sprov_" ++ digest) command.supersedesRegistrationId
    "provider registration cannot supersede itself"
  return newRegistration ("sprov_" ++ digest) command.workspaceId command.providerId
    material command.supersedesRegistrationId command.admittedBy command.admittedAt

/-- `candidate()`. -/
def RegisterSecretReferenceCommand.candidate
    (command : RegisterSecretReferenceCommand) :
    Except ServiceError RegisteredSecretReference := do
  requireIdentifier command.workspaceId "workspace_id"
  requireIdentifier command.material.providerRegistrationId "provider_registration_id"
  let intents ← secretIntents command.material.allowedIntents
  checkMetadata command.material.metadata
  let material := { command.material with allowedIntents := intents }
  let digest ← semanticsDigest (referenceSemantics command.workspaceId command.reference
    command.supersedesRegistrationId material)
  requireIdentifier command.admittedBy "admitted_by"
  requireBoundedText command.admittedAt "admitted_at" 128
  checkSupersedes ("sref_" ++ digest) command.supersedesRegistrationId
    "secret reference registration cannot supersede itself"
  return newRegistration ("sref_" ++ digest) command.workspaceId command.reference
    material command.supersedesRegistrationId command.admittedBy command.admittedAt

/-! ## The stores -/

/-- The instant a row is ordered by. -/
def instantOfText (value : String) : Timestamp := (canonicalInstant value).getD 0

def secretProviderRefusals : Refusals ServiceError where
  unnamed := .conflict "provider replacement requires explicit supersession"
  invalidTarget := .conflict "provider supersession target is invalid"
  stale := .conflict "provider supersession evidence is stale"
  taken := .integrity "cpk_secret_providers"
  missing := .notFound "active registered secret provider was not found"
  notActive := .conflict "only an active secret provider may be revoked"
  lost := .notFound "registered secret provider was not found"

def secretReferenceRefusals : Refusals ServiceError where
  unnamed := .conflict "secret reference replacement requires explicit supersession"
  invalidTarget := .conflict "secret reference supersession target is invalid"
  stale := .conflict "secret reference supersession evidence is stale"
  taken := .integrity "cpk_secret_references"
  missing := .notFound "registered secret reference was not found"
  notActive := .conflict "only an active secret reference may be revoked"
  lost := .notFound "registered secret reference was not found"

namespace SecretProviderStore

/-- `register(candidate)`. -/
def register (rows : List RegisteredSecretProvider)
    (candidate : RegisteredSecretProvider) :
    Except ServiceError (RegisteredSecretProvider × List RegisteredSecretProvider) := do
  requireThat (candidate.status = .active)
    (.conflict "new provider registration must be active")
  encodePostgresTimestamp candidate.admittedAt
  Library.Supersession.register secretProviderRefusals sameProviderAdmission
    rows candidate

/-- `revoke_active(workspace_id, provider_id, revoked_by=..., revoked_at=...)`. -/
def revokeActive (workspaceId providerId revokedBy revokedAt : String)
    (rows : List RegisteredSecretProvider) :
    Except ServiceError (RegisteredSecretProvider × List RegisteredSecretProvider) := do
  encodePostgresTimestamp revokedAt
  Library.Supersession.revokeActive secretProviderRefusals instantOfText workspaceId
    providerId revokedBy revokedAt rows

/-- `require_active_registration(workspace_id, registration_id)`. -/
def requireActiveRegistration (rows : List RegisteredSecretProvider)
    (workspaceId registrationId : String) :
    Except ServiceError RegisteredSecretProvider := do
  let provider ← found (byId rows workspaceId registrationId)
    (.notFound "active registered secret provider was not found")
  requireThat (provider.status = .active)
    (.notFound "active registered secret provider was not found")
  return provider

end SecretProviderStore

namespace SecretReferenceStore

/-- `register(candidate)`. -/
def register (rows : List RegisteredSecretReference)
    (candidate : RegisteredSecretReference) :
    Except ServiceError
      (RegisteredSecretReference × List RegisteredSecretReference) := do
  requireThat (candidate.status = .active)
    (.conflict "new secret reference registration must be active")
  encodePostgresTimestamp candidate.admittedAt
  Library.Supersession.register secretReferenceRefusals sameReferenceAdmission
    rows candidate

/-- `revoke(workspace_id, registration_id, revoked_by=..., revoked_at=...)`. -/
def revoke (workspaceId registrationId revokedBy revokedAt : String)
    (rows : List RegisteredSecretReference) :
    Except ServiceError
      (RegisteredSecretReference × List RegisteredSecretReference) := do
  encodePostgresTimestamp revokedAt
  Library.Supersession.revokeById secretReferenceRefusals workspaceId registrationId
    revokedBy revokedAt rows

/-- `get_active_for_update(workspace_id, reference)`. -/
def getActiveForUpdate (rows : List RegisteredSecretReference) (workspaceId : String)
    (reference : SecretReference) : Except ServiceError RegisteredSecretReference :=
  found (activeOf rows workspaceId reference)
    (.notFound "active registered secret reference was not found")

end SecretReferenceStore

/-! ## The services -/

/-- `_require_scope(scopes, required)`. -/
def requireSecretScope (scopes : List PolicyScope) (required : PolicyScope) :
    Except ServiceError Unit :=
  requireThat (scopes.contains required)
    (.denied ("secret provider operation requires " ++ required.value))

/-- `_validate_reference_admission(candidate, provider)`. -/
def validateReferenceAdmission (candidate : RegisteredSecretReference)
    (provider : RegisteredSecretProvider) : Except ServiceError Unit := do
  requireThat (candidate.scope = provider.scope)
    (.base "secret reference provider must belong to the same workspace")
  requireThat (referenceProviderId candidate.subject = provider.subject)
    (.base "secret reference provider identity does not match registration")
  requireThat (candidate.material.allowedIntents.all fun intent =>
      provider.material.allowedIntents.contains intent)
    (.base "secret reference intents exceed provider admission")
  requireThat (provider.material.allowedReferencePrefixes.any fun within =>
      referenceIsWithin candidate.subject within)
    (.base "secret reference is outside provider admission prefixes")

structure RevokeSecretProviderCommand where
  workspaceId : String
  providerId : String
  revokedBy : String
  revokedAt : String
  actorScopes : List PolicyScope

structure RevokeSecretReferenceCommand where
  workspaceId : String
  registrationId : String
  revokedBy : String
  revokedAt : String
  actorScopes : List PolicyScope

/-- `SecretProviderRegistrationService.register_provider(command)`. -/
def registerProvider (command : RegisterSecretProviderCommand)
    (rows : List RegisteredSecretProvider) :
    Except ServiceError (RegisteredSecretProvider × List RegisteredSecretProvider) := do
  requireSecretScope command.actorScopes .secretProviderRegister
  let candidate ← command.candidate
  SecretProviderStore.register rows candidate

/-- `revoke_provider(command)`. -/
def revokeProvider (command : RevokeSecretProviderCommand)
    (rows : List RegisteredSecretProvider) :
    Except ServiceError (RegisteredSecretProvider × List RegisteredSecretProvider) := do
  requireIdentifier command.workspaceId "workspace_id"
  requireIdentifier command.revokedBy "revoked_by"
  requireBoundedText command.revokedAt "revoked_at" 128
  requireSecretScope command.actorScopes .secretProviderRevoke
  SecretProviderStore.revokeActive command.workspaceId command.providerId
    command.revokedBy command.revokedAt rows

/-- `register_reference(command)`. -/
def registerReference (command : RegisterSecretReferenceCommand)
    (providers : List RegisteredSecretProvider)
    (rows : List RegisteredSecretReference) :
    Except ServiceError
      (RegisteredSecretReference × List RegisteredSecretReference) := do
  requireSecretScope command.actorScopes .secretProviderRegister
  let provider ← SecretProviderStore.requireActiveRegistration providers
    command.workspaceId command.material.providerRegistrationId
  let candidate ← command.candidate
  validateReferenceAdmission candidate provider
  SecretReferenceStore.register rows candidate

/-- `revoke_reference(command)`. -/
def revokeReference (command : RevokeSecretReferenceCommand)
    (rows : List RegisteredSecretReference) :
    Except ServiceError
      (RegisteredSecretReference × List RegisteredSecretReference) := do
  requireIdentifier command.workspaceId "workspace_id"
  requireIdentifier command.registrationId "registration_id"
  requireIdentifier command.revokedBy "revoked_by"
  requireBoundedText command.revokedAt "revoked_at" 128
  requireSecretScope command.actorScopes .secretProviderRevoke
  SecretReferenceStore.revoke command.workspaceId command.registrationId
    command.revokedBy command.revokedAt rows

/-! ## The two tables -/

structure SecretRegistrations where
  providers : List RegisteredSecretProvider
  references : List RegisteredSecretReference

def SecretRegistrations.empty : SecretRegistrations := ⟨[], []⟩

inductive SecretRegistrationCommand where
  | registerProvider (command : RegisterSecretProviderCommand)
  | revokeProvider (command : RevokeSecretProviderCommand)
  | registerReference (command : RegisterSecretReferenceCommand)
  | revokeReference (command : RevokeSecretReferenceCommand)

/-- One command as a transaction; it holds its rows locked until it commits. -/
def SecretRegistrations.execute :
    SecretRegistrationCommand → SecretRegistrations →
    Except ServiceError (Unit × SecretRegistrations)
  | .registerProvider command, state => do
      let (_, rows) ← Operations.registerProvider command state.providers
      return ((), { state with providers := rows })
  | .revokeProvider command, state => do
      let (_, rows) ← Operations.revokeProvider command state.providers
      return ((), { state with providers := rows })
  | .registerReference command, state => do
      let (_, rows) ← Operations.registerReference command state.providers
        state.references
      return ((), { state with references := rows })
  | .revokeReference command, state => do
      let (_, rows) ← Operations.revokeReference command state.references
      return ((), { state with references := rows })

/-- The tables after a history of commands. -/
def SecretRegistrations.after (history : List SecretRegistrationCommand) :
    SecretRegistrations :=
  Library.Transactions.run SecretRegistrations.execute .empty history

end ControlPlaneKit.Operations
