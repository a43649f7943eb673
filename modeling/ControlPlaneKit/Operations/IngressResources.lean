import ControlPlaneKit.Operations.Registries
import ControlPlaneKit.Operations.SecretCustody
import Mathlib.Data.List.MinMax

/-!
# IngressResources — what the workspace owns at the ingress provider

An ingress authority lets a workspace allocate hostnames of one zone.  Each
allocation of an ingress is a row with an epoch of its own; rows are never
deleted, and the store lets an ingress be allocated again only when no row of it
blocks.  The token the provider generates is kept as a reference, under the run,
the activity and the event it was generated by.
-/

namespace ControlPlaneKit.Operations

open ControlPlaneKit.Library (PyValue)
open ControlPlaneKit.Library.Text (isAsciiLower isCanonicalIdentity)
open ControlPlaneKit.Topology

/-! ## What is raised -/

/-- The classes the adapter's handlers tell apart. -/
inductive IngressErrorKind where
  | keyError
  | secretRegistration
  | valueError
  | invalidCommand
  | other
  deriving DecidableEq, Repr

/-- An exception: its class as far as a handler sees it, its type's name and its
text. -/
structure IngressError where
  kind : IngressErrorKind
  typeName : String
  text : String
  deriving DecidableEq, Repr

/-- What the secret registrations raise; the table's constraint is the driver's
error. -/
def IngressError.ofService : ServiceError → IngressError
  | .base text => ⟨.secretRegistration, "SecretProviderRegistrationError", text⟩
  | .conflict text => ⟨.secretRegistration, "SecretProviderRegistrationConflict", text⟩
  | .denied text => ⟨.secretRegistration, "SecretProviderAuthorizationDenied", text⟩
  | .idempotencyConflict text =>
      ⟨.secretRegistration, "SecretUseAuthorizationConflict", text⟩
  | .notFound text => ⟨.secretRegistration, "SecretProviderNotFound", text⟩
  | .invalidCommand text => ⟨.invalidCommand, "InvalidOperationCommand", text⟩
  | .record text => ⟨.valueError, "OperationsRecordError", text⟩
  | .integrity table => ⟨.other, "UniqueViolation", table⟩

def malformedIngress (text : String) : IngressError :=
  ⟨.valueError, "IngressAuthorityRegistrationError", text⟩

def ingressNotFound (text : String) : IngressError :=
  ⟨.valueError, "IngressAuthorityNotFound", text⟩

def invalidOperation (text : String) : IngressError :=
  ⟨.invalidCommand, "InvalidOperationCommand", text⟩

/-- A check of the ingress records. -/
def requireIngress (condition : Bool) (error : IngressError) :
    Except IngressError Unit :=
  if condition then .ok () else .error error

theorem requireIngress_eq_ok {condition : Bool} {error : IngressError}
    {checked : Unit} :
    requireIngress condition error = .ok checked ↔ condition = true := by
  cases condition <;> simp [requireIngress]

/-- The ingress records check their texts as the registries do. -/
def IngressError.ofRegistry : RegistryError → IngressError
  | .registration text => malformedIngress text
  | .conflict text => ⟨.valueError, "IngressAuthorityRegistrationConflict", text⟩
  | .notFound text => ingressNotFound text
  | .value text => ⟨.valueError, "ValueError", text⟩
  | .integrity table => ⟨.other, "UniqueViolation", table⟩

/-- `encode_postgres_timestamp(value)`. -/
def encodeIngressTimestamp (value : String) : Except IngressError Unit :=
  (encodeAdmittedAt value).mapError .ofRegistry

/-! ## Hostnames -/

/-- `[a-z0-9-]`. -/
def isHostCharacter (character : Char) : Bool :=
  isAsciiLower character || (48 ≤ character.toNat && character.toNat ≤ 57) ||
    character = '-'

/-- `_HOST_LABEL`. -/
def isHostLabel (label : List Char) : Bool :=
  !label.isEmpty && label.length ≤ 63 && label.all isHostCharacter &&
    label.head? ≠ some '-' && label.getLast? ≠ some '-'

/-- `_validate_hostname(value)`. -/
def isHostname (value : String) : Bool :=
  let labels := value.toList.splitOn '.'
  value ≠ "" && value.length ≤ 253 && 2 ≤ labels.length && labels.all isHostLabel

/-- The pattern's one wildcard stands for some host characters. -/
def matchesWildcard (pattern text : List Char) : Bool :=
  let before := pattern.takeWhile (· ≠ '*')
  let after := (pattern.dropWhile (· ≠ '*')).drop 1
  before.isPrefixOf text && after.isSuffixOf text &&
    before.length + after.length < text.length &&
    ((text.drop before.length).take (text.length - before.length - after.length)).all
      isHostCharacter

/-! ## Authorities -/

/-- `authority.allows_hostname(hostname)`; pattern and hostname are in lower case. -/
def CloudflareZoneIngressAuthority.allowsHostname
    (authority : CloudflareZoneIngressAuthority) (hostname : String) : Bool :=
  isHostname hostname &&
    matchesWildcard authority.allowedHostnamePattern.toList hostname.toList

/-- `require_active_for_hostname(workspace_id, authority_ref, hostname)`. -/
def requireActiveForHostname (rows : List RegisteredIngressAuthority)
    (workspaceId authorityRef hostname : String) :
    Except IngressError RegisteredIngressAuthority :=
  match rows.find? fun row => row.entry.workspaceId = workspaceId &&
      row.entry.authorityRef.referenceId = authorityRef && row.status = .active with
  | none => .error (ingressNotFound "active ingress authority does not allow hostname")
  | some row =>
      if row.entry.authority.allowsHostname hostname then .ok row
      else .error (ingressNotFound "active ingress authority does not allow hostname")

/-! ## Owned resources -/

inductive OwnedIngressResourceStatus where
  | allocating
  | active
  | removing
  | removed
  | uncertain
  | orphaned
  deriving DecidableEq, Repr

def OwnedIngressResourceStatus.value : OwnedIngressResourceStatus → String
  | .allocating => "allocating"
  | .active => "active"
  | .removing => "removing"
  | .removed => "removed"
  | .uncertain => "uncertain"
  | .orphaned => "orphaned"

/-- `_BLOCKING_INGRESS_RESOURCE_STATUSES`. -/
def blockingStatuses : List OwnedIngressResourceStatus :=
  [.allocating, .active, .removing, .uncertain, .orphaned]

theorem mem_blockingStatuses {status : OwnedIngressResourceStatus} :
    status ∈ blockingStatuses ↔ status ≠ .removed := by
  cases status <;> decide

/-- Exactly the removed carry removal evidence. -/
def RemovalEvidence (status : OwnedIngressResourceStatus)
    (removedAt removedByRunId : Option String) : Prop :=
  (status = .removed → removedAt.isSome = true ∧ removedByRunId.isSome = true) ∧
    (status ≠ .removed → removedAt = none ∧ removedByRunId = none)

instance (status : OwnedIngressResourceStatus)
    (removedAt removedByRunId : Option String) :
    Decidable (RemovalEvidence status removedAt removedByRunId) :=
  inferInstanceAs (Decidable (_ ∧ _))

/-- Bounded evidence for Cloudflare resources allocated by one activity. -/
structure CloudflareOwnedIngressResource where
  workspaceId : String
  runtimeId : String
  ingressId : String
  authorityRef : String
  tunnelName : String
  tunnelId : String
  dnsRecordId : String
  hostname : String
  zoneId : String
  lifecycle : PublicIngressLifecycle
  createdAt : String
  observedAt : String
  sourceRunId : String
  sourceActivityId : String
  sourceEventId : String
  epoch : Nat
  status : OwnedIngressResourceStatus
  removedAt : Option String
  removedByRunId : Option String
  removal : RemovalEvidence status removedAt removedByRunId
  deriving DecidableEq

/-- An ingress of a workspace. -/
abbrev IngressKey := String × String

def CloudflareOwnedIngressResource.key
    (resource : CloudflareOwnedIngressResource) : IngressKey :=
  (resource.workspaceId, resource.ingressId)

/-- `_validate_identifier(value, field)`. -/
def requireIngressText (value field : String) : Except IngressError Unit :=
  (validateIdentifier value field).mapError .ofRegistry

/-- `_validate_run_id(value, field)` and `_validate_activity_id(value)`. -/
def requireIngressIdentity (value field : String) : Except IngressError Unit :=
  requireIngress (isCanonicalIdentity value)
    (malformedIngress (field ++ " is malformed"))

/-- The checks of a new resource's texts. -/
def CloudflareOwnedIngressResource.check (resource : CloudflareOwnedIngressResource) :
    Except IngressError Unit := do
  requireIngressText resource.workspaceId "workspace_id"
  requireIngressText resource.runtimeId "runtime_id"
  requireIngressText resource.ingressId "ingress_id"
  requireIngressText resource.tunnelName "tunnel_name"
  requireIngressText resource.tunnelId "tunnel_id"
  requireIngressText resource.dnsRecordId "dns_record_id"
  requireIngress (isHostname resource.hostname)
    (malformedIngress "hostname is malformed")
  requireIngressText resource.zoneId "zone_id"
  requireIngressText resource.createdAt "created_at"
  requireIngressText resource.observedAt "observed_at"
  requireIngressIdentity resource.sourceRunId "source_run_id"
  requireIngressIdentity resource.sourceActivityId "source_activity_id"
  requireIngressText resource.sourceEventId "source_event_id"

/-- `replace(resource, status=..., source_run_id=..., removed_at=...,
removed_by_run_id=...)`, which makes the record again. -/
def CloudflareOwnedIngressResource.replaced (resource : CloudflareOwnedIngressResource)
    (status : OwnedIngressResourceStatus) (sourceRunId : String)
    (removedAt removedByRunId : Option String) :
    Except IngressError CloudflareOwnedIngressResource :=
  if h : RemovalEvidence status removedAt removedByRunId then
    .ok { resource with
      status := status, sourceRunId := sourceRunId
      removedAt := removedAt, removedByRunId := removedByRunId, removal := h }
  else if status = .removed then
    .error (malformedIngress "removed ingress resources require removal evidence")
  else .error (malformedIngress
    "only removed ingress resources may carry removal evidence")

/-- The columns that an update sets. -/
def CloudflareOwnedIngressResource.withStatusOf
    (row updated : CloudflareOwnedIngressResource) : CloudflareOwnedIngressResource :=
  { row with
    status := updated.status, sourceRunId := updated.sourceRunId
    removedAt := updated.removedAt, removedByRunId := updated.removedByRunId
    removal := updated.removal }

namespace IngressResourceStore

/-- The rows of an ingress, in the order they were inserted. -/
def rowsOf (rows : List CloudflareOwnedIngressResource) (key : IngressKey) :
    List CloudflareOwnedIngressResource :=
  rows.filter fun row => row.key = key

/-- `_get_cloudflare_by_status(workspace_id, ingress_id, statuses)`: the newest
epoch. -/
def getCloudflareByStatus (rows : List CloudflareOwnedIngressResource)
    (key : IngressKey) (statuses : List OwnedIngressResourceStatus) :
    Option CloudflareOwnedIngressResource :=
  ((rowsOf rows key).filter fun row => statuses.contains row.status).argmax (·.epoch)

/-- `_get_blocking_cloudflare(workspace_id, ingress_id)`. -/
def getBlockingCloudflare (rows : List CloudflareOwnedIngressResource)
    (key : IngressKey) : Option CloudflareOwnedIngressResource :=
  getCloudflareByStatus rows key blockingStatuses

/-- `_next_cloudflare_epoch(workspace_id, ingress_id)`. -/
def nextCloudflareEpoch (rows : List CloudflareOwnedIngressResource)
    (key : IngressKey) : Nat :=
  ((rowsOf rows key).map (·.epoch)).max?.getD 0 + 1

/-- `record_cloudflare(resource)`.  No row is in the way of the insertion: a row that
the table's keys would clash with blocks, or has a smaller epoch. -/
def recordCloudflare (rows : List CloudflareOwnedIngressResource)
    (resource : CloudflareOwnedIngressResource) :
    Except IngressError
      (CloudflareOwnedIngressResource × List CloudflareOwnedIngressResource) := do
  encodeIngressTimestamp resource.createdAt
  encodeIngressTimestamp resource.observedAt
  match getBlockingCloudflare rows resource.key with
  | some existing =>
      if existing = resource then .ok (existing, rows)
      else .error ⟨.valueError, "OwnedIngressResourceConflict",
        "owned ingress resource replacement requires explicit policy"⟩
  | none =>
      let recorded := { resource with epoch := nextCloudflareEpoch rows resource.key }
      .ok (recorded, rows ++ [recorded])

/-- `_update_cloudflare_status(resource)`. -/
def updateCloudflareStatus (rows : List CloudflareOwnedIngressResource)
    (updated : CloudflareOwnedIngressResource) : List CloudflareOwnedIngressResource :=
  rows.map fun row =>
    if row.key = updated.key ∧ row.epoch = updated.epoch then row.withStatusOf updated
    else row

/-- `get_cloudflare(workspace_id, ingress_id)`. -/
def getCloudflare (rows : List CloudflareOwnedIngressResource) (key : IngressKey) :
    Except IngressError CloudflareOwnedIngressResource :=
  match getBlockingCloudflare rows key with
  | some resource => .ok resource
  | none => .error (ingressNotFound "owned ingress resource was not found")

/-- `require_active_cloudflare(workspace_id, ingress_id)`. -/
def requireActiveCloudflare (rows : List CloudflareOwnedIngressResource)
    (key : IngressKey) : Except IngressError CloudflareOwnedIngressResource :=
  match getCloudflareByStatus rows key [.active] with
  | some resource => .ok resource
  | none => .error (ingressNotFound "active owned ingress resource was not found")

/-- `mark_removing(workspace_id, ingress_id, source_run_id=...)`. -/
def markRemoving (rows : List CloudflareOwnedIngressResource) (key : IngressKey)
    (sourceRunId : String) :
    Except IngressError
      (CloudflareOwnedIngressResource × List CloudflareOwnedIngressResource) := do
  requireIngressIdentity sourceRunId "source_run_id"
  let resource ← requireActiveCloudflare rows key
  let updated ← resource.replaced .removing sourceRunId resource.removedAt
    resource.removedByRunId
  return (updated, updateCloudflareStatus rows updated)

/-- `mark_removed(workspace_id, ingress_id, removed_at=..., removed_by_run_id=...)`. -/
def markRemoved (rows : List CloudflareOwnedIngressResource) (key : IngressKey)
    (removedAt removedByRunId : String) :
    Except IngressError
      (CloudflareOwnedIngressResource × List CloudflareOwnedIngressResource) := do
  requireIngressIdentity removedByRunId "removed_by_run_id"
  encodeIngressTimestamp removedAt
  match getCloudflareByStatus rows key [.active, .removing] with
  | none => .error (ingressNotFound "removable owned ingress resource was not found")
  | some resource => do
      let updated ← resource.replaced .removed resource.sourceRunId (some removedAt)
        (some removedByRunId)
      return (updated, updateCloudflareStatus rows updated)

/-- `mark_uncertain(workspace_id, ingress_id, source_run_id=...)`. -/
def markUncertain (rows : List CloudflareOwnedIngressResource) (key : IngressKey)
    (sourceRunId : String) :
    Except IngressError
      (CloudflareOwnedIngressResource × List CloudflareOwnedIngressResource) := do
  requireIngressIdentity sourceRunId "source_run_id"
  let resource ← getCloudflare rows key
  let updated ← resource.replaced .uncertain sourceRunId resource.removedAt
    resource.removedByRunId
  return (updated, updateCloudflareStatus rows updated)

end IngressResourceStore

/-! ## Generated secrets -/

/-- Durable secret-reference evidence for a provider-generated ingress secret; the
purpose is always the tunnel token. -/
structure GeneratedIngressSecretReference where
  workspaceId : String
  secretRef : SecretReference
  providerRegistrationId : String
  referenceRegistrationId : String
  custodyId : String
  providerVersionId : String
  providerVersionNumber : Nat
  recordedAt : String
  sourceRunId : String
  sourceActivityId : String
  sourceEventId : String
  deriving DecidableEq

def GeneratedIngressSecretReference.check (evidence : GeneratedIngressSecretReference) :
    Except IngressError Unit := do
  requireIngressText evidence.workspaceId "workspace_id"
  requireIngressText evidence.providerRegistrationId "provider_registration_id"
  requireIngressText evidence.referenceRegistrationId "reference_registration_id"
  requireIngressText evidence.custodyId "custody_id"
  requireIngressText evidence.providerVersionId "provider_version_id"
  requireIngress (1 ≤ evidence.providerVersionNumber)
    (malformedIngress "provider_version_number must be a positive integer")
  requireIngressText evidence.recordedAt "recorded_at"
  requireIngressIdentity evidence.sourceRunId "source_run_id"
  requireIngressIdentity evidence.sourceActivityId "source_activity_id"
  requireIngressText evidence.sourceEventId "source_event_id"

/-- What generated a secret: workspace, run, activity and event. -/
structure IngressSource where
  workspaceId : String
  runId : String
  activityId : String
  eventId : String
  deriving DecidableEq

def GeneratedIngressSecretReference.source
    (evidence : GeneratedIngressSecretReference) : IngressSource :=
  ⟨evidence.workspaceId, evidence.sourceRunId, evidence.sourceActivityId,
    evidence.sourceEventId⟩

def CloudflareOwnedIngressResource.source (resource : CloudflareOwnedIngressResource) :
    IngressSource :=
  ⟨resource.workspaceId, resource.sourceRunId, resource.sourceActivityId,
    resource.sourceEventId⟩

namespace GeneratedIngressSecretStore

/-- `_get_by_source(...)`, after its check of the run. -/
def bySource (rows : List GeneratedIngressSecretReference) (source : IngressSource) :
    Option GeneratedIngressSecretReference :=
  rows.find? fun row => row.source = source

/-- `get_by_source(...)`. -/
def getBySource (rows : List GeneratedIngressSecretReference) (source : IngressSource) :
    Except IngressError GeneratedIngressSecretReference := do
  requireIngressIdentity source.runId "source_run_id"
  match bySource rows source with
  | some evidence => .ok evidence
  | none => .error (ingressNotFound "generated ingress secret reference was not found")

/-- `record(evidence)`, with the table's index on the reference. -/
def record (rows : List GeneratedIngressSecretReference)
    (evidence : GeneratedIngressSecretReference) :
    Except IngressError (List GeneratedIngressSecretReference) := do
  encodeIngressTimestamp evidence.recordedAt
  requireIngressIdentity evidence.sourceRunId "source_run_id"
  match bySource rows evidence.source with
  | some existing =>
      if existing = evidence then .ok rows
      else .error ⟨.valueError, "GeneratedSecretRecordingConflict",
        "generated secret reference replacement requires explicit policy"⟩
  | none =>
      if rows.any fun row =>
          row.workspaceId = evidence.workspaceId &&
              row.secretRef = evidence.secretRef then
        .error ⟨.other, "UniqueViolation", "cpk_generated_ingress_secret_references"⟩
      else .ok (rows ++ [evidence])

end GeneratedIngressSecretStore

/-! ## Teardown plans -/

inductive CloudflareIngressTeardownActionKind where
  | deleteDnsRecord
  | deleteTunnel
  | skipRetainedOrExternal
  deriving DecidableEq, Repr

def CloudflareIngressTeardownActionKind.value :
    CloudflareIngressTeardownActionKind → String
  | .deleteDnsRecord => "delete-dns-record"
  | .deleteTunnel => "delete-tunnel"
  | .skipRetainedOrExternal => "skip-retained-or-external"

/-- One bounded cleanup action derived from recorded ids. -/
structure CloudflareIngressTeardownAction where
  kind : CloudflareIngressTeardownActionKind
  resourceId : Option String
  hostname : String

structure CloudflareIngressTeardownPlan where
  resource : CloudflareOwnedIngressResource
  actions : List CloudflareIngressTeardownAction

/-- `cloudflare_ingress_teardown_plan(authority=..., resource=...)`. -/
def cloudflareIngressTeardownPlan (authority : CloudflareZoneIngressAuthority)
    (resource : CloudflareOwnedIngressResource) :
    Except IngressError CloudflareIngressTeardownPlan := do
  requireIngress (resource.zoneId = authority.zoneId)
    (malformedIngress "Cloudflare ingress ownership zone does not match authority")
  requireIngress (authority.allowsHostname resource.hostname)
    (malformedIngress
      "Cloudflare ingress ownership hostname is outside authority policy")
  requireIngress ("cpk-".toList.isPrefixOf resource.tunnelName.toList)
    (malformedIngress "Cloudflare ingress tunnel ownership is ambiguous")
  if resource.lifecycle ≠ .ephemeral then
    return ⟨resource, [⟨.skipRetainedOrExternal, none, resource.hostname⟩]⟩
  return ⟨resource,
    [ ⟨.deleteDnsRecord, some resource.dnsRecordId, resource.hostname⟩
    , ⟨.deleteTunnel, some resource.tunnelId, resource.hostname⟩ ]⟩

/-- The plan leaves a retained or external ingress as it is. -/
def CloudflareIngressTeardownPlan.skips (plan : CloudflareIngressTeardownPlan) : Bool :=
  plan.actions.map (·.kind) = [.skipRetainedOrExternal]

def CloudflareOwnedIngressResource.descriptor
    (resource : CloudflareOwnedIngressResource) : PyValue :=
  .dict
    [ ("workspace_id", .str resource.workspaceId)
    , ("runtime_id", .str resource.runtimeId)
    , ("ingress_id", .str resource.ingressId)
    , ("epoch", .int resource.epoch)
    , ("status", .str resource.status.value)
    , ("authority_ref", .str resource.authorityRef)
    , ("provider_kind", .str "cloudflare")
    , ("tunnel_name", .str resource.tunnelName)
    , ("tunnel_id", .str resource.tunnelId)
    , ("dns_record_id", .str resource.dnsRecordId)
    , ("hostname", .str resource.hostname)
    , ("zone_id", .str resource.zoneId)
    , ("lifecycle", .str resource.lifecycle.value)
    , ("created_at", .str resource.createdAt)
    , ("observed_at", .str resource.observedAt)
    , ("source_run_id", .str resource.sourceRunId)
    , ("source_activity_id", .str resource.sourceActivityId)
    , ("source_event_id", .str resource.sourceEventId)
    , ("removed_at", strOrNone resource.removedAt)
    , ("removed_by_run_id", strOrNone resource.removedByRunId) ]

def CloudflareIngressTeardownPlan.descriptor (plan : CloudflareIngressTeardownPlan) :
    Library.PyDict :=
  [ ("resource", plan.resource.descriptor)
  , ("actions", .list (plan.actions.map fun action => .dict
      [ ("kind", .str action.kind.value)
      , ("resource_id", strOrNone action.resourceId)
      , ("hostname", .str action.hostname) ])) ]

end ControlPlaneKit.Operations
