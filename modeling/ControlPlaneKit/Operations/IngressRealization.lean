import ControlPlaneKit.Library.Lanes
import ControlPlaneKit.Operations.IngressResources
import ControlPlaneKit.Topology.Codec

/-!
# IngressRealization — allocating and removing a public ingress

The adapter works in transactions and provider calls, one after the other, and
may stop between any two of them.  Whatever the database, the clock, the secret
authorizer and the provider answer is the input of a step; what was asked of the
provider is kept in a log beside the tables.
-/

namespace ControlPlaneKit.Operations

open ControlPlaneKit.Library (PyDict PyError PyValue)
open ControlPlaneKit.Library.Interleaved (Program)
open ControlPlaneKit.Library.Lanes (World Turn)
open ControlPlaneKit.Library.Text (isAsciiAlnum isCanonicalIdentity)
open ControlPlaneKit.Topology

/-! ## Outcomes -/

/-- The kinds an adapter may report. -/
inductive EffectResultKind where
  | succeeded
  | failed
  | unsupported
  | uncertain
  deriving DecidableEq, Repr

structure ActivityExecutionOutcome where
  kind : EffectResultKind
  evidence : BoundedEvidence
  failure : Option FailureEvidence
  deriving DecidableEq, Repr

/-- What the coordinator records for an activity: an adapter that raised is
uncertain. -/
def recordedKind : Except IngressError ActivityExecutionOutcome → EffectResultKind
  | .ok outcome => outcome.kind
  | .error _ => .uncertain

/-! ## What the adapter is given -/

/-- What the adapter reads of `ActivityRealizationContext`; each pinned graph is what
its descriptor decodes to. -/
structure IngressContext where
  workspaceId : String
  requestId : String
  sessionId : String
  runId : String
  activityId : String
  eventId : String
  occurredAt : String
  workerId : String
  scopes : List PolicyScope
  baseGraph : Except IngressError DeploymentGraph
  desiredGraph : Except IngressError DeploymentGraph

def IngressContext.source (context : IngressContext) : IngressSource :=
  ⟨context.workspaceId, context.runId, context.activityId, context.eventId⟩

/-- `IngressAllocationResult`. -/
structure IngressAllocationResult where
  tunnelId : String
  tunnelName : String
  secretCustodyReceipt : Option SecretCustodyReceipt
  dnsRecordId : String
  hostname : String
  endpointUrl : String

/-- Exact provider coordinates accepted by provider teardown. -/
structure IngressOwnedResourceCoordinates where
  tunnelId : String
  tunnelName : String
  dnsRecordId : String
  hostname : String
  deriving DecidableEq

def IngressAllocationResult.coordinates (allocation : IngressAllocationResult) :
    IngressOwnedResourceCoordinates :=
  ⟨allocation.tunnelId, allocation.tunnelName, allocation.dnsRecordId,
    allocation.hostname⟩

def CloudflareOwnedIngressResource.coordinates
    (resource : CloudflareOwnedIngressResource) : IngressOwnedResourceCoordinates :=
  ⟨resource.tunnelId, resource.tunnelName, resource.dnsRecordId, resource.hostname⟩

/-- What `create` is asked. -/
structure IngressCreation where
  ingress : NamedPublicIngress
  authority : CloudflareZoneIngressAuthority
  allocationName : String
  originServiceUrl : String
  secretResolutionGrant : SecretResolutionGrant
  secretCustodyGrant : SecretCustodyGrant

/-- One call of the provider, with what became of it. -/
inductive ProviderCall where
  | created (request : IngressCreation) (allocation : IngressAllocationResult)
  | creationRaised (request : IngressCreation)
  | tornDown (resources : IngressOwnedResourceCoordinates)
  | teardownRaised (resources : IngressOwnedResourceCoordinates)

/-- The tables the adapter uses, and the calls of the provider. -/
structure IngressStores where
  authorities : List RegisteredIngressAuthority
  secrets : SecretRegistrations
  resources : List CloudflareOwnedIngressResource
  generated : List GeneratedIngressSecretReference
  calls : List (IngressKey × ProviderCall)

/-- How a transaction ends: it commits, or something is raised and it rolls back, or
something is raised after it committed. -/
inductive TransactionAnswer where
  | committed
  | rolledBack (error : IngressError)
  | lost (error : IngressError)

/-- What the surroundings answer to one step.  A provider error comes with the fields
that its own evidence adds to the outcome's. -/
structure IngressAnswers where
  transaction : TransactionAnswer
  clock : Except IngressError String
  resolution : Except IngressError (Option SecretResolutionGrant)
  creation : Except (IngressError × PyDict) IngressAllocationResult
  teardown : Except IngressError Unit

abbrev IngressProgram := Program IngressStores IngressAnswers Empty

/-- A program that may raise and be caught. -/
abbrev IngressCode := ExceptT IngressError IngressProgram

/-! ## Steps -/

def transacted {α : Type} (answer : TransactionAnswer)
    (act : IngressStores → Except IngressError (α × IngressStores))
    (s : IngressStores) : Except IngressError α × IngressStores :=
  match answer, act s with
  | .rolledBack error, _ => (.error error, s)
  | _, .error error => (.error error, s)
  | .lost error, .ok (_, t) => (.error error, t)
  | .committed, .ok (value, t) => (.ok value, t)

/-- `with self.unit_of_work_factory() as unit_of_work: ...; unit_of_work.commit()`. -/
def transaction {α : Type}
    (act : IngressStores → Except IngressError (α × IngressStores)) : IngressCode α :=
  ExceptT.mk (Program.write fun answers s => .ok (transacted answers.transaction act s))

/-- A transaction that only reads. -/
def reading {α : Type} (view : IngressStores → Except IngressError α) : IngressCode α :=
  transaction fun s => (view s).map fun value => (value, s)

/-- A call of something that is not the database. -/
def asking {α ε : Type} (answer : IngressAnswers → Except ε α)
    (log : Except ε α → IngressStores → IngressStores) : ExceptT ε IngressProgram α :=
  ExceptT.mk (Program.write fun answers s =>
    .ok (answer answers, log (answer answers) s))

/-- What the program computes between its steps. -/
def computed {α : Type} (value : Except IngressError α) : IngressCode α :=
  ExceptT.mk (pure value)

theorem computed_ok_bind {α β : Type} (value : α) (f : α → IngressCode β) :
    (computed (.ok value) >>= f) = f value := rfl

def IngressStores.logged (key : IngressKey) (call : ProviderCall) (s : IngressStores) :
    IngressStores :=
  { s with calls := s.calls ++ [(key, call)] }

/-- `interpreter.create(...)`. -/
def createIngress (key : IngressKey) (request : IngressCreation) :
    ExceptT (IngressError × PyDict) IngressProgram IngressAllocationResult :=
  asking (·.creation) fun
    | .ok allocation => IngressStores.logged key (.created request allocation)
    | .error _ => IngressStores.logged key (.creationRaised request)

/-- `interpreter.teardown(...)`. -/
def tearDownIngress (key : IngressKey) (resources : IngressOwnedResourceCoordinates) :
    IngressCode Unit :=
  asking (·.teardown) fun
    | .ok () => IngressStores.logged key (.tornDown resources)
    | .error _ => IngressStores.logged key (.teardownRaised resources)

/-- `validate_canonical_utc_timestamp(self.clock())`. -/
def readClock : IngressCode String := do
  let now ← asking (·.clock) fun _ s => s
  computed (requireIngress (canonicalInstant now).isSome
    ⟨.valueError, "ValueError", "timestamp must be canonical UTC text"⟩)
  return now

/-! ## The adapter -/

/-- The adapter, with what it is composed of: whether an interpreter and an authorizer
are configured, `repr` of a text, and `BoundedEvidence.from_mapping`. -/
structure IngressRealizationAdapter where
  hasInterpreter : Bool
  hasAuthorizer : Bool
  repr : String → String
  evidence : PyDict → Except IngressError BoundedEvidence

/-- An exception of the host language. -/
def IngressError.ofPython (repr : String → String) (error : PyError) : IngressError :=
  match error with
  | .typeError _ => ⟨.other, "TypeError", pyErrorText repr error⟩
  | .valueError _ => ⟨.valueError, "ValueError", pyErrorText repr error⟩
  | .keyError _ => ⟨.keyError, "KeyError", pyErrorText repr error⟩

/-- `except (KeyError, ValueError, InvalidOperationCommand)`. -/
def IngressError.isRefusal (error : IngressError) : Bool :=
  match error.kind with
  | .keyError | .secretRegistration | .valueError | .invalidCommand => true
  | .other => false

/-- `except ValueError`. -/
def IngressError.isValueError (error : IngressError) : Bool :=
  match error.kind with
  | .secretRegistration | .valueError => true
  | .keyError | .invalidCommand | .other => false

namespace IngressRealizationAdapter

variable (adapter : IngressRealizationAdapter) (context : IngressContext)

/-! ### Outcomes of the adapter -/

/-- An outcome that carries failure evidence, which checks its texts. -/
def failing (kind : EffectResultKind) (category : FailureCategory)
    (code message : String) (details : PyDict) :
    Except IngressError ActivityExecutionOutcome := do
  let details ← adapter.evidence details
  requireIngress (validText code && validText message)
    ⟨.valueError, "OperationsRecordError",
      "failure message must be nonempty bounded text"⟩
  return ⟨kind, {}, some ⟨category, code, message, details⟩⟩

/-- `_unsupported(context, code, message)`. -/
def unsupported (operation code message : String) :
    Except IngressError ActivityExecutionOutcome :=
  adapter.failing .unsupported .operatorReview code message
    [("activity_id", .str context.activityId), ("operation", .str operation)]

/-- `_uncertain(code, exception_type, provider_failure=...)`. -/
def uncertain (code exceptionType : String) (providerFailure : PyDict) :
    Except IngressError ActivityExecutionOutcome :=
  adapter.failing .uncertain .uncertain code "ingress provider result is uncertain"
    (("exception_type", .str exceptionType) :: providerFailure)

/-- `_failed_after_compensation(exception_type)`. -/
def failedAfterCompensation (exceptionType : String) :
    Except IngressError ActivityExecutionOutcome :=
  adapter.failing .failed .retryable "ingress.record-failed-compensated"
    "ingress allocation was compensated after durable recording failed"
    [("exception_type", .str exceptionType)]

/-- `_compensation_uncertain(allocation, ...)`. -/
def compensationUncertain (resources : IngressOwnedResourceCoordinates)
    (foldExceptionType compensationExceptionType : String) :
    Except IngressError ActivityExecutionOutcome :=
  adapter.failing .uncertain .uncertain "ingress.compensation-uncertain"
    "ingress allocation compensation is uncertain"
    [ ("fold_exception_type", .str foldExceptionType)
    , ("compensation_exception_type", .str compensationExceptionType)
    , ("tunnel_id", .str resources.tunnelId)
    , ("tunnel_name", .str resources.tunnelName)
    , ("dns_record_id", .str resources.dnsRecordId)
    , ("hostname", .str resources.hostname) ]

/-- `ActivityExecutionOutcome.succeeded(BoundedEvidence.from_mapping(details))`. -/
def succeeded (details : PyDict) : Except IngressError ActivityExecutionOutcome := do
  let evidence ← adapter.evidence details
  return ⟨.succeeded, evidence, none⟩

/-! ### Reading the pinned graph -/

/-- `_ingress_by_id(graph, ingress_id)`. -/
def ingressById (graph : DeploymentGraph) (ingressId : String) :
    Except IngressError NamedPublicIngress :=
  match graph.publicIngresses.find? fun ingress => ingress.ingressId = ingressId with
  | some ingress => .ok ingress
  | none => .error (invalidOperation "public ingress is missing from pinned graph")

/-- `node.endpoint(name)`. -/
def endpoint (node : Node) (name : String) : Except PyError Endpoint :=
  match node.endpoints[name]? with
  | some found => .ok found
  | none =>
      let available := ", ".intercalate node.endpoints.keys
      .error (.keyError ("node " ++ adapter.repr node.nodeId ++ " has no endpoint " ++
        adapter.repr name ++ "; available: " ++ if available = "" then "<none>"
          else available))

/-- `graph.node(node_id)`, with the adapter's exceptions. -/
def pinnedNode (graph : DeploymentGraph) (nodeId : String) : Except IngressError Node :=
  (graph.node adapter.repr nodeId).mapError (.ofPython adapter.repr)

/-- `_origin_service_url(graph, ingress)`. -/
def originServiceUrl (graph : DeploymentGraph) (ingress : NamedPublicIngress) :
    Except IngressError String := do
  let node ← adapter.pinnedNode graph ingress.target.nodeId
  let origin ← (adapter.endpoint node ingress.target.providerSocket).mapError
    (.ofPython adapter.repr)
  requireIngress (origin.protocol = .http)
    (invalidOperation "public ingress target must provide HTTP")
  requireIngress ("http://".toList.isPrefixOf origin.url.toList)
    (invalidOperation "public ingress origin must be an internal HTTP URL")
  return origin.url

/-! ### Names derived from the activity -/

/-- The texts of the activity that a name is derived from, between bars. -/
def barred (texts : List String) : String :=
  sha256Hexdigest ("|".intercalate texts)

/-- `_allocation_name(context, ingress)`. -/
def allocationName (ingress : NamedPublicIngress) : String :=
  let digest := (barred [context.workspaceId, ingress.ingressId, context.runId,
    context.activityId, context.eventId]).toList.take 12
  let named := ingress.ingressId.toList.map fun character =>
    if isAsciiAlnum character || "._:-".toList.contains character then character
    else '-'
  let isMark := fun character => ".:-_".toList.contains character
  let stripped := ((named.dropWhile isMark).reverse.dropWhile isMark).reverse
  let part := if stripped.isEmpty then "ingress".toList else stripped
  String.ofList
    (("cpk-".toList ++ part).take (128 - 1 - digest.length) ++ '-' :: digest)

/-- A reference below another is not blank. -/
theorem reference_below_nonempty (reference : SecretReference) (below : String) :
    Library.Text.isBlank (reference.referenceId ++ below) = false := by
  have hnonempty := reference.nonempty
  rw [Library.Text.isBlank, List.all_eq_false] at hnonempty ⊢
  obtain ⟨character, hmem, hspace⟩ := hnonempty
  exact ⟨character,
    by rw [String.toList_append]; exact List.mem_append_left _ hmem, hspace⟩

/-- `_generated_secret_reference(context, authority)`; no reference ends in a slash. -/
def generatedSecretReference (authority : CloudflareZoneIngressAuthority) :
    SecretReference where
  referenceId := authority.generatedSecretReferencePrefix.referenceId ++
    ("/cloudflared-tunnel-token/" ++ barred [context.workspaceId,
      "cloudflared-tunnel-token", context.runId, context.activityId, context.eventId])
  nonempty := reference_below_nonempty _ _

/-! ### Grants -/

/-- `AuthorizeSecretUse.__post_init__`. -/
def checkSecretUse (use : SecretUse) (requestedAt : String) :
    Except ServiceError Unit := do
  requireIdentifier use.workspaceId "workspace_id"
  requireIdentifier use.actorSubject "actor_subject"
  requireThat (isCanonicalIdentity use.correlationId)
    (.base "correlation_id is malformed")
  requireBoundedText requestedAt "requested_at" 128
  requireOptionalIdentity use.operationId "operation_id"
  requireOptionalIdentity use.sessionId "session_id"
  requireOptionalIdentity use.effectId "effect_id"
  requireOptionalIdentity use.probeId "probe_id"
  requireOptionalIdentity use.runId "run_id"
  requireOptionalIdentity use.activityId "activity_id"

/-- The use of the provider's token by this activity, but for its correlation. -/
def apiTokenUse (authority : CloudflareZoneIngressAuthority) : SecretUse where
  workspaceId := context.workspaceId
  reference := authority.apiTokenRef
  intent := .cloudflareApiToken
  actorSubject := context.workerId
  correlationId := ""
  operationId := some context.requestId
  sessionId := some context.sessionId
  runId := some context.runId
  activityId := some context.activityId
  effectId := some context.eventId
  probeId := none

/-- The command that asks for the token. -/
def apiTokenCommand (authority : CloudflareZoneIngressAuthority) :
    Except ServiceError AuthorizeSecretUse := do
  let correlationId ← secretUseCorrelationFor (apiTokenUse context authority)
  let use := { apiTokenUse context authority with correlationId := correlationId }
  checkSecretUse use context.occurredAt
  return { use with requestedAt := context.occurredAt, actorScopes := context.scopes }

/-- Whether the authorizer's answer is a grant of exactly this use. -/
def grantsApiToken (authority : CloudflareZoneIngressAuthority)
    (grant : SecretResolutionGrant) : Bool :=
  grant.workspaceId = context.workspaceId && grant.effectId = some context.eventId &&
    grant.reference = authority.apiTokenRef && grant.intent = .cloudflareApiToken

/-- `_authorize_api_token(context, authority)`. -/
def authorizeApiToken (authority : CloudflareZoneIngressAuthority) :
    IngressCode SecretResolutionGrant := do
  computed (requireIngress adapter.hasAuthorizer
    (invalidOperation "ingress secret resolution requires an operations authorizer"))
  let _ ← computed ((apiTokenCommand context authority).mapError .ofService)
  match ← asking (·.resolution) fun _ s => s with
  | some grant =>
      if grantsApiToken context authority grant then return grant
      else computed (.error
        (invalidOperation "secret use authorizer returned an invalid ingress grant"))
  | none =>
      computed (.error (invalidOperation
        "secret use authorizer returned an invalid ingress grant"))

/-- The course of work of this activity. -/
def course : CustodyCourse where
  workspaceId := context.workspaceId
  actorSubject := context.workerId
  actorScopes := context.scopes
  operationId := context.requestId
  sessionId := context.sessionId
  runId := context.runId
  activityId := context.activityId
  effectId := context.eventId

/-- An identity of a grant's record. -/
def requireGrantIdentity (value label : String) : Except IngressError Unit :=
  requireIngress (isCanonicalIdentity value)
    ⟨.valueError, "SecretProviderContractError",
    "secret resolution grant " ++ label ++ " is malformed"⟩

/-- What `SecretCustodyGrant.__post_init__` has left to check. -/
def checkCustodyGrant : Except IngressError Unit := do
  requireGrantIdentity context.requestId "operation_id"
  requireGrantIdentity context.sessionId "session_id"
  requireGrantIdentity context.eventId "effect_id"
  requireGrantIdentity context.runId "run_id"
  requireGrantIdentity context.activityId "activity_id"

/-- The grant for a reference under the provider's registration. -/
def custodyGrantFor (provider : RegisteredSecretProvider)
    (reference : SecretReference) : Except IngressError SecretCustodyGrant := do
  let correlationId ← (secretCustodyCorrelationFor (course context)
    provider.registrationId reference .cloudflareTunnelToken).mapError .ofService
  let grant ← (secretCustodyGrantFor provider
    (course context) reference .cloudflareTunnelToken correlationId).mapError .ofService
  checkCustodyGrant context
  return grant

/-- `_secret_custody_grant(context, authority, reference)`. -/
def secretCustodyGrant (authority : CloudflareZoneIngressAuthority)
    (reference : SecretReference) : IngressCode SecretCustodyGrant := do
  let provider ← reading fun s =>
    (SecretProviderStore.requireActiveRegistration s.secrets.providers
      context.workspaceId authority.generatedSecretProviderRegistrationId).mapError
      .ofService
  computed (custodyGrantFor context provider reference)

/-- `_active_authority(context, ingress)`. -/
def activeAuthority (ingress : NamedPublicIngress) :
    IngressCode RegisteredIngressAuthority :=
  reading fun s => requireActiveForHostname s.authorities context.workspaceId
    ingress.authorityRef ingress.hostname

/-- `_interpreter(provider_kind)`. -/
def interpreter : IngressCode Unit :=
  computed (requireIngress adapter.hasInterpreter
    (invalidOperation "no ingress interpreter is configured for 'cloudflare'"))

/-! ### Allocation -/

/-- What an allocation was decided on. -/
structure PlannedAllocation where
  graph : DeploymentGraph
  ingress : NamedPublicIngress
  originServiceUrl : String
  authority : CloudflareZoneIngressAuthority
  taken : Bool

/-- The first `try` of `_allocate`. -/
def planAllocation (ingressId : String) : IngressCode PlannedAllocation := do
  let graph ← computed context.desiredGraph
  let ingress ← computed (ingressById graph ingressId)
  let originServiceUrl ← computed (adapter.originServiceUrl graph ingress)
  let authority ← activeAuthority context ingress
  adapter.interpreter
  let taken ← reading fun s =>
    .ok (IngressResourceStore.getCloudflare s.resources
      (context.workspaceId, ingressId)).isOk
  return ⟨graph, ingress, originServiceUrl, authority.entry.authority, taken⟩

/-- The second `try` of `_allocate`. -/
def authorizeAllocation (authority : CloudflareZoneIngressAuthority) :
    IngressCode (SecretResolutionGrant × SecretCustodyGrant) := do
  let grant ← adapter.authorizeApiToken context authority
  let custodyGrant ← secretCustodyGrant context authority
    (generatedSecretReference context authority)
  return (grant, custodyGrant)

/-- The resource an allocation is to be recorded as. -/
def allocatedResource (plan : PlannedAllocation) (runtimeId recordedAt : String)
    (allocation : IngressAllocationResult) : CloudflareOwnedIngressResource where
  workspaceId := context.workspaceId
  runtimeId := runtimeId
  ingressId := plan.ingress.ingressId
  authorityRef := plan.ingress.authorityRef
  tunnelName := allocation.tunnelName
  tunnelId := allocation.tunnelId
  dnsRecordId := allocation.dnsRecordId
  hostname := allocation.hostname
  zoneId := plan.authority.zoneId
  lifecycle := plan.ingress.lifecycle
  createdAt := recordedAt
  observedAt := recordedAt
  sourceRunId := context.runId
  sourceActivityId := context.activityId
  sourceEventId := context.eventId
  epoch := 1
  status := .active
  removedAt := none
  removedByRunId := none
  removal := ⟨nofun, fun _ => ⟨rfl, rfl⟩⟩

/-- `record_generated_ingress_secret(...)`. -/
def generatedEvidence (receipt : SecretCustodyReceipt)
    (referenceRegistrationId recordedAt : String) :
    GeneratedIngressSecretReference where
  workspaceId := context.workspaceId
  secretRef := receipt.reference
  providerRegistrationId := receipt.providerRegistrationId
  referenceRegistrationId := referenceRegistrationId
  custodyId := receipt.custodyId
  providerVersionId := receipt.versionId
  providerVersionNumber := receipt.versionNumber
  recordedAt := recordedAt
  sourceRunId := context.runId
  sourceActivityId := context.activityId
  sourceEventId := context.eventId

/-- What one allocation writes. -/
structure AllocationRecords where
  resource : CloudflareOwnedIngressResource
  reference : RegisteredSecretReference
  evidence : GeneratedIngressSecretReference

/-- The records of an allocation, before its transaction. -/
def allocationRecords (plan : PlannedAllocation) (custodyGrant : SecretCustodyGrant)
    (recordedAt : String) (allocation : IngressAllocationResult) :
    Except IngressError AllocationRecords := do
  let connector ← adapter.pinnedNode plan.graph plan.ingress.connectorNodeId
  let resource :=
    allocatedResource context plan connector.runtimeId recordedAt allocation
  resource.check
  match allocation.secretCustodyReceipt with
  | none => .error (invalidOperation
      "ingress provider returned mismatched secret custody evidence")
  | some receipt => do
      requireIngress (receipt.matchesGrant custodyGrant)
        (invalidOperation
          "ingress provider returned mismatched secret custody evidence")
      let reference ← (generatedSecretReferenceCandidate custodyGrant receipt
        recordedAt).mapError .ofService
      let evidence :=
        generatedEvidence context receipt reference.registrationId recordedAt
      evidence.check
      return ⟨resource, reference, evidence⟩

/-- The one transaction of an allocation: the provider is still as it was granted, and
the reference, the resource and the evidence are written. -/
def foldAllocation (custodyGrant : SecretCustodyGrant) (records : AllocationRecords)
    (s : IngressStores) : Except IngressError (Unit × IngressStores) := do
  let provider ← (SecretProviderStore.requireActiveRegistration s.secrets.providers
    custodyGrant.workspaceId custodyGrant.providerRegistrationId).mapError .ofService
  requireIngress
      (provider.material.endpointReference = custodyGrant.endpointReference &&
      provider.material.credentialReference = custodyGrant.credentialReference)
    (invalidOperation "secret custody provider changed before durable fold")
  let (_, references) ← (SecretReferenceStore.register s.secrets.references
    records.reference).mapError .ofService
  let (_, resources) ← IngressResourceStore.recordCloudflare s.resources
    records.resource
  let generated ← GeneratedIngressSecretStore.record s.generated records.evidence
  return ((), { s with
    secrets := { s.secrets with references := references }
    resources := resources
    generated := generated })

/-- The records of an allocation, built and committed. -/
def recordAllocation (plan : PlannedAllocation) (custodyGrant : SecretCustodyGrant)
    (recordedAt : String) (allocation : IngressAllocationResult) :
    IngressCode CloudflareOwnedIngressResource := do
  let records ← computed
    (adapter.allocationRecords context plan custodyGrant recordedAt allocation)
  transaction (foldAllocation custodyGrant records)
  return records.resource

/-- What a successful allocation reports. -/
def allocationEvidence (plan : PlannedAllocation)
    (resource : CloudflareOwnedIngressResource)
    (allocation : IngressAllocationResult) : PyDict :=
  [ ("provider_kind", .str "cloudflare")
  , ("ingress_id", .str plan.ingress.ingressId)
  , ("runtime_id", .str resource.runtimeId)
  , ("hostname", .str allocation.hostname)
  , ("endpoint_url", .str allocation.endpointUrl)
  , ("tunnel_name", .str allocation.tunnelName)
  , ("tunnel_id", .str allocation.tunnelId)
  , ("dns_record_id", .str allocation.dnsRecordId)
  , ("lifecycle", .str plan.ingress.lifecycle.value)
  , ("connector_material_recorded", .bool true) ]

abbrev IngressAnswer := Except IngressError ActivityExecutionOutcome

/-- The end of `_allocate`: what was created is recorded, or torn down again. -/
def settleAllocation (key : IngressKey) (plan : PlannedAllocation)
    (custodyGrant : SecretCustodyGrant) (recordedAt : String)
    (allocation : IngressAllocationResult) : IngressProgram IngressAnswer := do
  match ← (adapter.recordAllocation context plan custodyGrant recordedAt
      allocation).run with
  | .ok resource =>
      return adapter.succeeded (allocationEvidence plan resource allocation)
  | .error error =>
      match ← (tearDownIngress key allocation.coordinates).run with
      | .ok () => return adapter.failedAfterCompensation error.typeName
      | .error compensation =>
          return adapter.compensationUncertain allocation.coordinates error.typeName
            compensation.typeName

/-- What an allocation asks of the provider. -/
def creationOf (plan : PlannedAllocation) (grant : SecretResolutionGrant)
    (custodyGrant : SecretCustodyGrant) : IngressCreation where
  ingress := plan.ingress
  authority := plan.authority
  allocationName := allocationName context plan.ingress
  originServiceUrl := plan.originServiceUrl
  secretResolutionGrant := grant
  secretCustodyGrant := custodyGrant

/-- `_allocate` once it holds its grants. -/
def createAllocation (key : IngressKey) (plan : PlannedAllocation)
    (grant : SecretResolutionGrant) (custodyGrant : SecretCustodyGrant) :
    IngressProgram IngressAnswer := do
  match ← readClock.run with
  | .error error =>
      return if error.isValueError then
          adapter.unsupported context "AllocatePublicIngress"
            "ingress.allocate-unsupported"
            "ingress allocation timestamp is not canonical UTC"
        else adapter.uncertain "ingress.allocate-uncertain" error.typeName []
  | .ok recordedAt =>
      match ← (createIngress key (creationOf context plan grant custodyGrant)).run with
      | .error raised =>
          return adapter.uncertain "ingress.allocate-uncertain"
            raised.1.typeName raised.2
      | .ok allocation =>
          adapter.settleAllocation context key plan custodyGrant recordedAt allocation

/-- What `_allocate` reports where it was not authorized. -/
def allocationRefused (error : IngressError) : IngressAnswer :=
  match error.kind with
  | .secretRegistration => adapter.unsupported context "AllocatePublicIngress"
      "secret.use-not-authorized" "ingress authority secret use was not authorized"
  | .invalidCommand => adapter.unsupported context "AllocatePublicIngress"
      "secret.resolution-authorizer-invalid"
      "ingress secret authorization could not be established"
  | .keyError | .valueError | .other =>
      adapter.uncertain "ingress.allocate-uncertain" error.typeName []

/-- `_allocate(context, operation)`. -/
def allocate (ingressId : String) : IngressProgram IngressAnswer := do
  match ← (adapter.planAllocation context ingressId).run with
  | .error error =>
      return if error.isRefusal then
          adapter.unsupported context "AllocatePublicIngress"
            "ingress.allocate-unsupported" error.text
        else .error error
  | .ok plan =>
      if plan.taken then
        return adapter.unsupported context "AllocatePublicIngress"
          "ingress.allocate-conflict" "owned ingress resource already exists"
      else
        match ← (adapter.authorizeAllocation context plan.authority).run with
        | .error error => return adapter.allocationRefused context error
        | .ok (grant, custodyGrant) =>
            adapter.createAllocation context
              (context.workspaceId, ingressId) plan grant custodyGrant

/-! ### Removal -/

/-- What a removal was decided on. -/
structure PlannedRemoval where
  plan : CloudflareIngressTeardownPlan
  grant : SecretResolutionGrant
  custodyGrant : SecretCustodyGrant

/-- The first `try` of `_remove`. -/
def planRemoval (ingressId : String) : IngressCode PlannedRemoval := do
  let graph ← computed context.baseGraph
  let ingress ← computed (ingressById graph ingressId)
  let authority ← activeAuthority context ingress
  let resource ← reading fun s =>
    IngressResourceStore.requireActiveCloudflare s.resources
      (context.workspaceId, ingressId)
  let plan ← computed (cloudflareIngressTeardownPlan authority.entry.authority resource)
  adapter.interpreter
  let grant ← adapter.authorizeApiToken context authority.entry.authority
  let generated ← reading fun s =>
    GeneratedIngressSecretStore.getBySource s.generated
      ⟨context.workspaceId, resource.sourceRunId, resource.sourceActivityId,
        resource.sourceEventId⟩
  let custodyGrant ← secretCustodyGrant context authority.entry.authority
    generated.secretRef
  return ⟨plan, grant, custodyGrant⟩

/-- A transaction that changes the resources. -/
def marking
    (mark : List CloudflareOwnedIngressResource →
      Except IngressError
        (CloudflareOwnedIngressResource × List CloudflareOwnedIngressResource)) :
    IngressCode CloudflareOwnedIngressResource :=
  transaction fun s => (mark s.resources).map fun marked =>
    (marked.1, { s with resources := marked.2 })

/-- The end of `_remove`: the provider's resources are gone, and the row says so. -/
def finishRemoval (key : IngressKey) (plan : CloudflareIngressTeardownPlan) :
    IngressProgram IngressAnswer := do
  match ← readClock.run with
  | .error error =>
      return adapter.uncertain "ingress.remove-uncertain" error.typeName []
  | .ok removedAt =>
      match ← (marking fun rows =>
          IngressResourceStore.markRemoved rows key removedAt context.runId).run with
      | .error error => return .error error
      | .ok _ => return adapter.succeeded plan.descriptor

/-- `_remove` once the row says that it is being removed. -/
def tearDownRemoval (key : IngressKey) (plan : CloudflareIngressTeardownPlan)
    (resource : CloudflareOwnedIngressResource) : IngressProgram IngressAnswer := do
  match ← (tearDownIngress key resource.coordinates).run with
  | .ok () => adapter.finishRemoval context key plan
  | .error error =>
      match ← (marking fun rows => IngressResourceStore.markUncertain rows key
          context.runId).run with
      | .error marked => return .error marked
      | .ok _ => return adapter.uncertain "ingress.remove-uncertain" error.typeName []

/-- `_remove` where the provider's resources are the activity's to remove. -/
def carryOutRemoval (key : IngressKey) (plan : CloudflareIngressTeardownPlan) :
    IngressProgram IngressAnswer := do
  match ← (marking fun rows => IngressResourceStore.markRemoving rows key
      context.runId).run with
  | .error error => return .error error
  | .ok resource => adapter.tearDownRemoval context key plan resource

/-- What `_remove` reports where it could not be planned. -/
def removalRefused (error : IngressError) : IngressAnswer :=
  if error.kind = .secretRegistration then
    adapter.unsupported context "RemovePublicIngress" "secret.use-not-authorized"
      "ingress authority secret use was not authorized"
  else if error.isRefusal then
    adapter.unsupported context "RemovePublicIngress"
      "ingress.remove-unsupported" error.text
  else .error error

/-- `_remove(context, operation)`. -/
def remove (ingressId : String) : IngressProgram IngressAnswer := do
  match ← (adapter.planRemoval context ingressId).run with
  | .error error => return adapter.removalRefused context error
  | .ok removal =>
      if removal.plan.skips then return adapter.succeeded removal.plan.descriptor
      else adapter.carryOutRemoval context (context.workspaceId, ingressId) removal.plan

end IngressRealizationAdapter

/-! ## Runs -/

inductive IngressOperation where
  | allocate
  | remove
  deriving DecidableEq, Repr

/-- An `AllocatePublicIngress` or `RemovePublicIngress` activity. -/
structure IngressActivity where
  context : IngressContext
  operation : IngressOperation
  ingressId : String

def IngressActivity.key (activity : IngressActivity) : IngressKey :=
  (activity.context.workspaceId, activity.ingressId)

/-- `execute(context)`. -/
def IngressRealizationAdapter.execute (adapter : IngressRealizationAdapter)
    (activity : IngressActivity) :
    IngressProgram (Except IngressError ActivityExecutionOutcome) :=
  match activity.operation with
  | .allocate => adapter.allocate activity.context activity.ingressId
  | .remove => adapter.remove activity.context activity.ingressId

/-- What others write meanwhile. -/
inductive IngressSurroundings where
  | authorities (rows : List RegisteredIngressAuthority)
  | secrets (command : SecretRegistrationCommand)

def IngressSurroundings.apply : IngressSurroundings → IngressStores → IngressStores
  | .authorities rows, s => { s with authorities := rows }
  | .secrets command, s =>
      { s with
          secrets := Library.Transactions.settle SecretRegistrations.execute
            s.secrets command }

def IngressStores.empty : IngressStores :=
  { authorities := [], secrets := .empty, resources := [],
    generated := [], calls := [] }

/-- The ingresses of all workspaces, each with the activity it runs. -/
abbrev IngressWorld :=
  World IngressStores IngressAnswers Empty IngressKey IngressActivity
    (Except IngressError ActivityExecutionOutcome)

abbrev IngressTurn := Turn IngressKey IngressActivity IngressSurroundings IngressAnswers

/-- A run from empty tables. -/
def IngressRealizationAdapter.run (adapter : IngressRealizationAdapter)
    (turns : List IngressTurn) : IngressWorld :=
  (World.idle IngressStores.empty : IngressWorld).run IngressActivity.key
    adapter.execute IngressSurroundings.apply turns

end ControlPlaneKit.Operations
