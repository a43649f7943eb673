import ControlPlaneKit.NodeControl.Attempts
import ControlPlaneKit.NodeControl.Codec
import ControlPlaneKit.NodeControl.Declarations
import ControlPlaneKit.Topology.Codec

/-!
# Intents — preparing a node-control command

A request is prepared in one transaction: the graph, the keys and the secret uses it
needs are read and checked, two unsigned grants are made, and the intended attempt is
stored under the request's identity.  A request that is already stored is answered by
its attempt.
-/

namespace ControlPlaneKit.NodeControl

open ControlPlaneKit.Operations
open ControlPlaneKit.Rotation (RegisteredDelegationSigningKey SigningKeyTable)
open ControlPlaneKit.Topology
  (DelegationKeyPurpose DeploymentGraph Node Protocol SecretUseIntent
  sha256Hexdigest)

/-! ## Commands and state -/

/-- What leaves the service as an error: the bounded errors of node-control intents, and
those of inner layers. -/
inductive NodeControlIntentFault where
  | base (message : String)
  | denied (message : String)
  | conflict (message : String)
  | notFound (message : String)
  | attempt (error : NodeControlAttemptError)
  | secrets (error : ServiceError)
  deriving DecidableEq, Repr

/-- `NodeControlIntentError` and its subclasses. -/
def NodeControlIntentFault.IsIntentError : NodeControlIntentFault → Prop
  | .base _ | .denied _ | .conflict _ | .notFound _ => True
  | .attempt _ | .secrets _ => False

/-- Trusted request to prepare one graph-bound command for later signing. -/
structure RequestNodeControlIntent (dumps : CanonicalJson) where
  workspaceId : String
  actorId : String
  grantedScopes : List PolicyScope
  gatewayNodeId : NodeControlGraphReference .node
  request : NodeControlCommandRequest
  constructible : request.Constructible dumps

/-- The graph a workspace points at, and the projection it is realized by. -/
structure GraphLineage where
  authoredGraphId : String
  realizedProjectionId : String
  deriving DecidableEq

structure WorkspaceRow where
  workspaceId : String
  currentLineage : Option GraphLineage

/-- A realized projection, by the graph its descriptor decodes to. -/
structure RealizedProjection where
  projectionId : String
  workspaceId : String
  sourceAuthoredGraphId : String
  graph : DeploymentGraph

/-- What the service reads and writes. -/
structure NodeControlStores where
  workspaces : List WorkspaceRow
  projections : List RealizedProjection
  keys : SigningKeyTable
  secrets : SecretState
  attempts : List NodeControlAttemptRow

/-- What the clocks and the id factory give to one command. -/
structure IntentDraws where
  issuedAt : Int
  requestedAt : String
  attemptId : String
  transitJti : String
  workloadJti : String

/-- The lifetime of the grants of a service. -/
structure GrantLifetime where
  seconds : Int
  bounded : 1 ≤ seconds ∧ seconds ≤ 300

def NodeControlIntentFault.guard (condition : Bool) (fault : NodeControlIntentFault) :
    Except NodeControlIntentFault Unit :=
  if condition then .ok () else .error fault

/-- What an inner layer answers, or the fault its error becomes. -/
def translated {ε α : Type} (fault : NodeControlIntentFault) (x : Except ε α) :
    Except NodeControlIntentFault α :=
  x.mapError fun _ => fault

/-- What a lookup finds, or the fault its `KeyError` becomes. -/
def present {α : Type} (fault : NodeControlIntentFault) :
    Option α → Except NodeControlIntentFault α
  | some a => .ok a
  | none => .error fault

open NodeControlIntentFault (guard)

/-! ## Authority -/

section Authority

variable {dumps : CanonicalJson}

/-- The scope of an operation. -/
def operationScope : NodeControlOperation → PolicyScope
  | .readState => .nodeControlRead
  | .applyCommand => .nodeControlApply

def requiredScopes (command : RequestNodeControlIntent dumps) : List PolicyScope :=
  [operationScope command.request.operation, .nodeControlExecute, .delegationKeyUse,
    .secretProviderUse]

/-- `_require_scopes(command)`. -/
def requireScopes (command : RequestNodeControlIntent dumps) :
    Except NodeControlIntentFault Unit :=
  guard ((requiredScopes command).all command.grantedScopes.contains)
    (.denied "node-control command authority is incomplete")

end Authority

/-! ## Targets -/

section Targets

variable (dumps : CanonicalJson)

/-- The surfaces a node declares, as the codec of the graph read them. -/
def declaredSurfaces (node : Node) : List WorkloadNodeControlSurfaceDescriptor :=
  node.blockSpec.controlSurfaces.filterMap fun surface =>
    (decodeSurface dumps surface.descriptor).toOption

/-- The sockets of the gateway and of the target, over HTTP in one runtime. -/
def gatewayAndTarget (graph : DeploymentGraph)
    (gatewayNodeId : NodeControlGraphReference .node)
    (request : NodeControlCommandRequest) :
    Except NodeControlIntentFault (Node × Node) := do
  let missing :=
    NodeControlIntentFault.notFound "node-control gateway target is not declared"
  let gatewayNode ← present missing graph.nodes[gatewayNodeId.value]?
  let gatewayControl ← present missing (gatewayNode.sockets.provider "control")
  let targetNode ← present missing graph.nodes[request.target.nodeId.value]?
  let targetSocket ← present missing
    (targetNode.sockets.provider request.target.providerSocketName.value)
  guard (gatewayControl.protocol = .http && targetSocket.protocol = .http &&
    gatewayNode.runtimeId = targetNode.runtimeId) missing
  return (gatewayNode, targetNode)

/-- `target_in_map`. -/
def isInMap (graph : DeploymentGraph) (request : NodeControlCommandRequest) : Bool :=
  graph.edges.toList.any fun entry =>
    entry.2.providerRole = request.target.nodeId.value &&
      entry.2.providerSocket = request.target.providerSocketName.value &&
      entry.2.protocol = .http

/-- The variable a request names, on the first surface of its socket. -/
def declaredVariable (node : Node) (request : NodeControlCommandRequest) :
    Option ControlPlaneVariableDescriptor := do
  let surface ← (declaredSurfaces dumps node).find? fun surface =>
    surface.providerSocketName = request.target.providerSocketName
  surface.declaredVariables.find? fun declared =>
    declared.variableName = request.variableName

/-- `_authorize_graph_target(graph, gateway_node_id, request)`. -/
def authorizeGraphTarget (graph : DeploymentGraph)
    (gatewayNodeId : NodeControlGraphReference .node)
    (request : NodeControlCommandRequest) : Except NodeControlIntentFault Node := do
  let (gatewayNode, targetNode) ← gatewayAndTarget graph gatewayNodeId request
  guard (isInMap graph request)
    (.notFound "node-control target is absent from the gateway map")
  match declaredVariable dumps targetNode request with
  | none => .error (.notFound "node-control variable is not declared")
  | some declared => do
      let contract ← translated
        (.notFound "node-control operation contract is not declared")
        (declared.contractFor request.operation)
      guard (contract.commandCodec = request.commandCodec)
        (.notFound "node-control operation contract is not declared")
      return gatewayNode

end Targets

/-! ## Keys and grants -/

/-- What one command is to be signed with, and for which graph. -/
structure SelectedAuthority where
  lineage : GraphLineage
  gatewayRuntimeId : String
  transitKey : RegisteredDelegationSigningKey
  workloadKey : RegisteredDelegationSigningKey
  draws : IntentDraws
  transitGrant : DelegatedGatewayNodeControlTransitGrant
  workloadGrant : DelegatedWorkloadNodeControlGrant

section Selection

variable (dumps : CanonicalJson)

/-- `_select_key(stores, workspace_id, purpose)`. -/
def selectKey (keys : SigningKeyTable) (workspaceId : String)
    (purpose : DelegationKeyPurpose) :
    Except NodeControlIntentFault RegisteredDelegationSigningKey := do
  let unavailable :=
    NodeControlIntentFault.conflict "node-control signing authority is unavailable"
  let selected ← translated unavailable
    (keys.requireUnambiguousActive sha256Hexdigest workspaceId purpose)
  guard (selected.identity.scope.purpose = purpose) unavailable
  return selected

/-- The projection of the workspace's current graph, which the request targets. -/
def currentProjection (stores : NodeControlStores)
    (command : RequestNodeControlIntent dumps) :
    Except NodeControlIntentFault (GraphLineage × RealizedProjection) := do
  let workspace ← present (.notFound "node-control workspace was not found")
    (stores.workspaces.find? fun row => row.workspaceId = command.workspaceId)
  let unaccepted := NodeControlIntentFault.conflict
    "node-control request does not target accepted current graph truth"
  let lineage ← present unaccepted workspace.currentLineage
  guard
    (lineage.authoredGraphId = command.request.target.graphRevision.value) unaccepted
  let unavailable :=
    NodeControlIntentFault.conflict "accepted realized graph truth is unavailable"
  let projection ← present unavailable
    (stores.projections.find? fun row =>
      row.projectionId = lineage.realizedProjectionId)
  guard (projection.workspaceId = command.workspaceId &&
    projection.sourceAuthoredGraphId = lineage.authoredGraphId) unavailable
  return (lineage, projection)

/-- The two signing keys, of distinct authorities. -/
def selectKeys (keys : SigningKeyTable) (workspaceId : String) :
    Except NodeControlIntentFault
      (RegisteredDelegationSigningKey × RegisteredDelegationSigningKey) := do
  let transitKey ← selectKey keys workspaceId .gatewayNodeControlTransit
  let workloadKey ← selectKey keys workspaceId .workloadNodeControl
  guard (!(transitKey.identity.registrationId = workloadKey.identity.registrationId ||
      sha256Hexdigest transitKey.identity.publicKey.publicKeyPem =
        sha256Hexdigest workloadKey.identity.publicKey.publicKeyPem ||
      transitKey.identity.privateKeyReference =
        workloadKey.identity.privateKeyReference))
    (.conflict "node-control signing authorities must be distinct")
  return (transitKey, workloadKey)

def transitGrantOf (command : RequestNodeControlIntent dumps)
    (key : RegisteredDelegationSigningKey) (window : GrantWindow)
    (digest : NodeControlRequestDigest) (draws : IntentDraws) :
    DelegatedGatewayNodeControlTransitGrant :=
  { window with
    profile := .v1
    canonicalization := .jcsRfc8785V1
    purpose := .gatewayNodeControlTransit
    issuer := key.identity.scope.issuer
    keyId := key.identity.keyId
    attemptId := draws.attemptId
    workspaceId := command.request.target.workspaceId
    graphRevision := command.request.target.graphRevision
    gatewayNodeId := command.gatewayNodeId
    target := command.request.target
    variableName := command.request.variableName
    operation := command.request.operation
    commandCodec := command.request.commandCodec
    requestId := command.request.requestId
    idempotencyKey := command.request.idempotencyKey
    requestDigest := digest
    jti := draws.transitJti }

def workloadGrantOf (command : RequestNodeControlIntent dumps)
    (key : RegisteredDelegationSigningKey) (window : GrantWindow)
    (digest : NodeControlRequestDigest) (audience : String) (draws : IntentDraws) :
    DelegatedWorkloadNodeControlGrant :=
  { window with
    issuer := key.identity.scope.issuer
    keyId := key.identity.keyId
    audience := audience
    target := command.request.target
    variableName := command.request.variableName
    operation := command.request.operation
    commandCodec := command.request.commandCodec
    requestId := command.request.requestId
    idempotencyKey := command.request.idempotencyKey
    requestDigest := digest
    jti := draws.workloadJti }

/-- Both unsigned grants, as their constructors accept them. -/
def unsignedGrants (lifetime : GrantLifetime) (command : RequestNodeControlIntent dumps)
    (transitKey workloadKey : RegisteredDelegationSigningKey) (draws : IntentDraws) :
    Except WireError (DelegatedGatewayNodeControlTransitGrant ×
      DelegatedWorkloadNodeControlGrant) := do
  let window : GrantWindow :=
    ⟨draws.issuedAt, draws.issuedAt, draws.issuedAt + lifetime.seconds⟩
  let value ← command.request.canonicalDigest dumps
  let digest ← NodeControlRequestDigest.of value
  let transitGrant := transitGrantOf dumps command transitKey window digest draws
  transitGrant.check dumps
  let audience ← workloadNodeControlAudience command.request.target
  let workloadGrant :=
    workloadGrantOf dumps command workloadKey window digest audience draws
  workloadGrant.check dumps
  return (transitGrant, workloadGrant)

/-- Everything up to the secret uses: the graph, the keys and the grants.  No draws
stand for a clock or a factory that raised. -/
def selectAuthority (lifetime : GrantLifetime) (stores : NodeControlStores)
    (command : RequestNodeControlIntent dumps) (draws : Option IntentDraws) :
    Except NodeControlIntentFault SelectedAuthority := do
  guard (command.request.target.workspaceId.value = command.workspaceId)
    (.conflict "node-control workspace authority conflicts with target")
  let (lineage, projection) ← currentProjection dumps stores command
  let gatewayNode ← authorizeGraphTarget dumps projection.graph command.gatewayNodeId
    command.request
  let (transitKey, workloadKey) ← selectKeys stores.keys command.workspaceId
  let failed :=
    NodeControlIntentFault.base "node-control unsigned grant construction failed"
  let drawn ← present failed draws
  let (transitGrant, workloadGrant) ← translated failed
    (unsignedGrants dumps lifetime command transitKey workloadKey drawn)
  return ⟨lineage, gatewayNode.runtimeId, transitKey, workloadKey, drawn, transitGrant,
    workloadGrant⟩

end Selection

/-! ## Secret uses -/

section Uses

variable {dumps : CanonicalJson}

/-- The use of a key's private reference in the course of an attempt, before it is
correlated. -/
def keyUse (command : RequestNodeControlIntent dumps) (attemptId : String)
    (key : RegisteredDelegationSigningKey) (intent : SecretUseIntent) : SecretUse where
  workspaceId := command.workspaceId
  reference := key.identity.privateKeyReference
  intent := intent
  actorSubject := command.actorId
  correlationId := ""
  operationId := some attemptId
  sessionId := none
  runId := none
  activityId := none
  effectId := none
  probeId := none

/-- `AuthorizeSecretUse(...)` of a key under its correlation. -/
def keyUseCommand (command : RequestNodeControlIntent dumps) (draws : IntentDraws)
    (key : RegisteredDelegationSigningKey) (intent : SecretUseIntent)
    (correlationId : String) : AuthorizeSecretUse :=
  { keyUse command draws.attemptId key intent with
    correlationId := correlationId
    requestedAt := draws.requestedAt
    actorScopes := command.grantedScopes }

/-- What `except (SecretProviderRegistrationError, ValueError)` makes of an error: a
violated key of a table is an error of the database driver. -/
def caughtUse {α : Type} : Except ServiceError α → Except NodeControlIntentFault α
  | .ok a => .ok a
  | .error (.integrity table) => .error (.secrets (.integrity table))
  | .error _ => .error (.conflict "node-control signing reference is unavailable")

/-- `_authorize_key_use(...)`; the correlation is derived before the `try`. -/
def authorizeKeyUse (command : RequestNodeControlIntent dumps) (draws : IntentDraws)
    (key : RegisteredDelegationSigningKey) (intent : SecretUseIntent)
    (secrets : SecretState) :
    Except NodeControlIntentFault (AuthorizedSecretUse × SecretState) := do
  let correlationId ←
    (secretUseCorrelationFor (keyUse command draws.attemptId key intent)).mapError
    .secrets
  let ((authorized, _), after) ← caughtUse
    (authorizeSecretUseInUnitOfWork
      (keyUseCommand command draws key intent correlationId) secrets)
  return (authorized, after)

/-- The attempt of an authority, with its two authorised uses. -/
def attemptOf (command : RequestNodeControlIntent dumps) (selected : SelectedAuthority)
    (transitUse workloadUse : AuthorizedSecretUse) : NodeControlIntendedAttempt where
  attemptId := selected.draws.attemptId
  actorSubject := command.actorId
  currentGraphId := selected.lineage.authoredGraphId
  currentRealizedProjectionId := selected.lineage.realizedProjectionId
  gatewayRuntimeId := selected.gatewayRuntimeId
  transitKeyRegistrationId := selected.transitKey.identity.registrationId
  workloadKeyRegistrationId := selected.workloadKey.identity.registrationId
  transitAuthorizationId := transitUse.authorizationId
  workloadAuthorizationId := workloadUse.authorizationId
  transitCorrelationId := transitUse.correlationId
  workloadCorrelationId := workloadUse.correlationId
  intendedAt := selected.draws.requestedAt
  request := command.request
  transitGrant := selected.transitGrant
  workloadGrant := selected.workloadGrant

end Uses

/-! ## The service -/

/-- Committed identities and the exact unsigned payload of a later signature. -/
structure DeferredSigningRequest (γ : Type) where
  keyRegistrationId : String
  authorizationId : String
  grant : γ

/-- `DeferredGatewayNodeControlTransitSigningRequest`,
`DeferredWorkloadNodeControlSigningRequest`. -/
def deferredSigningRequest {γ : Type}
    (message keyRegistrationId authorizationId : String) (grant : γ) :
    Except NodeControlIntentFault (DeferredSigningRequest γ) := do
  guard (isKeyRegistration keyRegistrationId && isAuthorization authorizationId)
    (.base message)
  return ⟨keyRegistrationId, authorizationId, grant⟩

/-- One committed attempt and its two post-commit signing requests. -/
structure NodeControlIntentPreparation where
  attempt : NodeControlIntendedAttempt
  replayed : Bool
  transitSigning : DeferredSigningRequest DelegatedGatewayNodeControlTransitGrant
  workloadSigning : DeferredSigningRequest DelegatedWorkloadNodeControlGrant

/-- `_preparation(attempt, replayed=replayed)`. -/
def preparation (attempt : NodeControlIntendedAttempt) (replayed : Bool) :
    Except NodeControlIntentFault NodeControlIntentPreparation := do
  let transitSigning ← deferredSigningRequest
    "deferred transit signing request is malformed" attempt.transitKeyRegistrationId
    attempt.transitAuthorizationId attempt.transitGrant
  let workloadSigning ← deferredSigningRequest
    "deferred workload signing request is malformed" attempt.workloadKeyRegistrationId
    attempt.workloadAuthorizationId attempt.workloadGrant
  return ⟨attempt, replayed, transitSigning, workloadSigning⟩

section Service

variable (dumps : CanonicalJson) (lifetime : GrantLifetime)

/-- `_prepare_new(unit_of_work, command)`. -/
def prepareNew (stores : NodeControlStores) (command : RequestNodeControlIntent dumps)
    (draws : Option IntentDraws) :
    Except NodeControlIntentFault (NodeControlIntendedAttempt × SecretState) := do
  let selected ← selectAuthority dumps lifetime stores command draws
  let (transitUse, afterTransit) ← authorizeKeyUse command selected.draws
    selected.transitKey .gatewayNodeControlTransitSigningKey stores.secrets
  let (workloadUse, afterWorkload) ← authorizeKeyUse command selected.draws
    selected.workloadKey .workloadNodeControlSigningKey afterTransit
  let attempt := attemptOf command selected transitUse workloadUse
  (attempt.check dumps).mapError .attempt
  return (attempt, afterWorkload)

/-- `_existing_attempt(stores, workspace_id, request_id)`. -/
def existingAttempt (stores : NodeControlStores) (workspaceId requestId : String) :
    Except NodeControlIntentFault (Option NodeControlIntendedAttempt) :=
  match NodeControlAttemptStore.getByRequestId dumps stores.keys stores.secrets.uses
      stores.attempts workspaceId requestId with
  | .ok existing => .ok existing
  | .error .corrupt => .error (.base "durable node-control intent is corrupt")
  | .error error => .error (.attempt error)

/-- The insertion of a new attempt. -/
def addAttempt (stores : NodeControlStores) (attempt : NodeControlIntendedAttempt)
    (secrets : SecretState) : Except NodeControlIntentFault NodeControlStores :=
  match NodeControlAttemptStore.add stores.attempts attempt with
  | .ok attempts => .ok { stores with secrets, attempts }
  | .error .conflict =>
      .error (.conflict "node-control request identity conflicts with durable intent")
  | .error _ => .error (.base "node-control intent could not be retained")

/-- `NodeControlIntentAuthorizationService.execute(command)`. -/
def executeIntent (command : RequestNodeControlIntent dumps)
    (draws : Option IntentDraws) (stores : NodeControlStores) :
    Except NodeControlIntentFault
      (NodeControlIntentPreparation × NodeControlStores) := do
  requireScopes command
  let fingerprint ← translated (.base "node-control intent identity is malformed")
    (nodeControlIntentFingerprint dumps command.actorId command.gatewayNodeId
      command.request)
  (NodeControlAttemptStore.lockRequestId command.workspaceId
    command.request.requestId).mapError .attempt
  let existing ← existingAttempt dumps stores command.workspaceId
    command.request.requestId
  match existing with
  | some attempt => do
      let stored ← (attempt.intentFingerprint dumps).mapError .attempt
      guard (stored = fingerprint)
        (.conflict "node-control request identity conflicts with durable intent")
      let prepared ← preparation attempt true
      return (prepared, stores)
  | none => do
      let (attempt, secrets) ← prepareNew dumps lifetime stores command draws
      let after ← addAttempt stores attempt secrets
      let prepared ← preparation attempt false
      return (prepared, after)

end Service

/-! ## Before any command -/

/-- The default of `grant_lifetime_seconds`. -/
def minuteLifetime : GrantLifetime := ⟨60, by decide⟩

def emptyStores : NodeControlStores where
  workspaces := []
  projections := []
  keys := []
  secrets := .empty
  attempts := []

end ControlPlaneKit.NodeControl
