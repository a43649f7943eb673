import ControlPlaneKit.Operations.IngressResources
import ControlPlaneKit.Operations.SecretUses
import ControlPlaneKit.Planning.Activity
import ControlPlaneKit.Topology.Changes

/-!
# RuntimeEffects — what a runtime is asked to do, and with which secrets

What a run has pinned makes an intent of each activity, and the event that starts the
work makes a request of the intent.  Two modules then list the secrets of a request: one
those that must be authorised before the work, the other those that a grant given to an
observer may be for.
-/

namespace ControlPlaneKit.Operations

open ControlPlaneKit.Library (PyDict PyValue)
open ControlPlaneKit.Library.Ordering (sortedBy)
open ControlPlaneKit.Library.Registry (Registration)
open ControlPlaneKit.Library.Text (isBlank isCanonicalIdentity isSpace)
open ControlPlaneKit.Planning (ActivityId ActivityOperation)
open ControlPlaneKit.Topology

/-! ## What can be raised -/

/-- `RuntimeEffectContractError`, `InvalidOperationCommand`,
`ProductRuntimeContractError`, the ingress module's own error, and what a pinned graph
raises when it is decoded. -/
inductive RuntimeEffectError where
  | contract (message : String)
  | invalidOperation (message : String)
  | productContract (message : String)
  | ingress (message : String)
  | graph (message : String)
  deriving DecidableEq, Repr

def requireEffect (condition : Bool) (error : RuntimeEffectError) :
    Except RuntimeEffectError Unit :=
  if condition then .ok () else .error error

/-- `marker in value.lower()` of one of three markers. -/
def isSecretShaped (value : String) : Bool :=
  ["password=", "token=", "secret="].any fun marker =>
    marker.toList <:+: value.toList.flatMap lowerChar

/-- `_exact_text(value, label)`. -/
def exactText (value label : String) : Except RuntimeEffectError Unit := do
  requireEffect (value ≠ "" && value.length ≤ 512 && !value.toList.contains '\x00')
    (.contract (label ++ " must be bounded text"))
  requireEffect (!isSecretShaped value)
    (.contract (label ++ " contains secret-shaped text"))

/-- `_required_text(value, name)`. -/
def requiredText (value name : String) : Except RuntimeEffectError Unit := do
  requireEffect (!isBlank value && value.length ≤ 512)
    (.contract (name ++ " must be bounded nonempty text"))
  requireEffect (!isSecretShaped value)
    (.contract (name ++ " contains secret-shaped text"))

/-! ## Deliveries of an authority -/

/-- Closed ways a process can receive access material for an authority. -/
inductive RuntimeAuthorityAccessDeliveryKind where
  | localDockerSocketMount
  | remoteDockerTlsSecretFiles
  | cloudCredentialSecretSession
  deriving DecidableEq, Repr

/-- Secret-free label for one secret needed to deliver authority access. -/
structure RuntimeAuthorityDeliverySecretReference where
  label : String
  reference : SecretReference
  deriving DecidableEq

/-- Pure statement that a process should receive authority access material. -/
structure RuntimeAuthorityAccessDelivery where
  authorityRef : RuntimeAuthorityReference
  deliveryKind : RuntimeAuthorityAccessDeliveryKind
  secretReferences : List RuntimeAuthorityDeliverySecretReference
  labelsUnique : (secretReferences.map (·.label)).Nodup
  socketBare : deliveryKind = .localDockerSocketMount → secretReferences = []
  deriving DecidableEq

structure RuntimeAuthorityDeliveryMaterial where
  workspaceId : String
  delivery : RuntimeAuthorityAccessDelivery
  deriving DecidableEq

/-- Its identity is `delivery_id`. -/
abbrev RegisteredRuntimeAuthorityDelivery :=
  Registration RuntimeAuthorityDeliveryMaterial Admission

/-! ## Products -/

structure OciImageReference where
  registry : String
  repository : String
  deriving DecidableEq

/-- `authority.permits(image)`. -/
def ImagePullAuthority.permits (authority : ImagePullAuthority)
    (image : OciImageReference) : Bool :=
  image.registry = authority.registry &&
    match authority.repository with
    | none => true
    | some repository => image.repository = repository ||
        (repository ++ "/").toList.isPrefixOf image.repository.toList

structure ProductRuntimeContract where
  sockets : BlockSockets
  secretDeliveries : List SecretDelivery
  verification : List VerificationCheck

structure ContainerServerProduct where
  identity : ProductIdentity
  image : OciImageReference
  runtimeContract : ProductRuntimeContract

/-- A registered product, with the product its canonical document decodes to. -/
structure PinnedProduct where
  registered : RegisteredProduct
  product : ContainerServerProduct

def PinnedProduct.reference (pinned : PinnedProduct) : ProductReference :=
  pinned.registered.entry.reference

/-- Pure product material selected from registered descriptor truth. -/
structure RuntimeProductMaterial where
  nodeId : String
  runtimeId : String
  reference : ProductReference
  product : ContainerServerProduct
  pullAuthority : Option ImagePullAuthority

/-! ## Intents and requests -/

/-- Pre-start durable coordinates that exclude the generated start event. -/
structure RuntimeEffectIntentSource where
  workspaceId : String
  requestId : String
  runId : String
  planId : String
  baseGraphId : String
  desiredGraphId : String
  deriving DecidableEq

/-- What `RuntimeEffectIntentSource` checks. -/
def RuntimeEffectIntentSource.check (source : RuntimeEffectIntentSource) :
    Except RuntimeEffectError Unit := do
  exactText source.workspaceId "workspace identity"
  exactText source.requestId "request identity"
  exactText source.planId "plan identity"
  exactText source.baseGraphId "base graph identity"
  exactText source.desiredGraphId "desired graph identity"

/-- What `RuntimeEffectSource` checks, with the event that started the work. -/
def RuntimeEffectIntentSource.checkStarted (source : RuntimeEffectIntentSource)
    (intentEventId : String) : Except RuntimeEffectError Unit := do
  requiredText source.workspaceId "workspace_id"
  requiredText source.requestId "request_id"
  requiredText source.planId "plan_id"
  requiredText source.baseGraphId "base_graph_id"
  requiredText source.desiredGraphId "desired_graph_id"
  requiredText intentEventId "intent_event_id"

/-- Canonical runtime intent available before a start event is allocated. -/
structure RuntimeEffectIntent where
  runtimeKind : RuntimeKind
  source : RuntimeEffectIntentSource
  activityId : ActivityId
  operation : ActivityOperation
  authorityRef : Option RuntimeAuthorityReference
  authorityDeliveries : List RuntimeAuthorityAccessDelivery
  products : List RuntimeProductMaterial

/-- Pure request operations hands to a runtime interpreter; its event is its effect. -/
structure RuntimeEffectRequest extends RuntimeEffectIntent where
  effectId : String
  secretResolutionGrants : List SecretResolutionGrant

/-- One reference, for one purpose. -/
abbrev ReferenceUse := SecretReference × SecretUseIntent

def SecretResolutionGrant.referenceUse (grant : SecretResolutionGrant) : ReferenceUse :=
  (grant.reference, grant.intent)

/-- The order of grants in a request. -/
def grantSortKey (grant : SecretResolutionGrant) : List String :=
  [grant.reference.referenceId, grant.intent.value, grant.authorizationId]

/-- What a request checks of its authority and of the deliveries of it. -/
def checkDeliveries (authorityRef : Option RuntimeAuthorityReference)
    (deliveries : List RuntimeAuthorityAccessDelivery) :
    Except RuntimeEffectError Unit := do
  requireEffect (decide (deliveries.map (·.authorityRef)).Nodup)
    (.contract "runtime authority deliveries must be unique by authority reference")
  requireEffect (authorityRef.isSome || deliveries.isEmpty)
    (.contract "runtime authority deliveries require runtime authority reference")
  requireEffect
    (deliveries.all fun delivery => some delivery.authorityRef = authorityRef)
    (.contract "runtime authority delivery reference must match request authority")

/-- What a request checks of one of its grants. -/
def checkGrant (workspaceId effectId : String) (grant : SecretResolutionGrant) :
    Except RuntimeEffectError Unit := do
  requireEffect (grant.workspaceId = workspaceId)
    (.contract "runtime secret resolution grant workspace must match request")
  requireEffect (grant.effectId.all fun granted => granted = effectId)
    (.contract "runtime secret resolution grant effect must match request")

/-- `RuntimeEffectRequest(...)` of an intent, its effect and its grants. -/
def RuntimeEffectRequest.of (intent : RuntimeEffectIntent) (effectId : String)
    (grants : List SecretResolutionGrant) :
    Except RuntimeEffectError RuntimeEffectRequest := do
  requiredText effectId "effect_id"
  requireEffect (!effectId.toList.contains '\x00')
    (.contract "runtime effect identity must match intent event identity")
  checkDeliveries intent.authorityRef intent.authorityDeliveries
  let granted := sortedBy grantSortKey grants
  requireEffect (decide (granted.map (·.referenceUse)).Nodup)
    (.contract
      "runtime secret resolution grants must be unique by reference and intent")
  granted.forM (checkGrant intent.source.workspaceId effectId)
  requireEffect (!intent.operation.isReviewChange)
    (.contract "review work cannot cross the runtime effect boundary")
  let products := sortedBy (fun material : RuntimeProductMaterial => [material.nodeId])
    intent.products
  requireEffect (decide (products.map (·.nodeId)).Nodup)
    (.contract "runtime product node ids must be unique")
  return { intent with products, effectId, secretResolutionGrants := granted }

/-- `runtime_effect_request_for_intent(intent, effect_id=...,
secret_resolution_grants=...)`. -/
def runtimeEffectRequestForIntent (intent : RuntimeEffectIntent) (effectId : String)
    (grants : List SecretResolutionGrant) :
    Except RuntimeEffectError RuntimeEffectRequest := do
  exactText effectId "runtime effect event identity"
  intent.source.checkStarted effectId
  RuntimeEffectRequest.of intent effectId grants

/-! ## From a run to its intents -/

/-- What the translation reads of `ActivityRealizationContext`; each pinned graph is
what its descriptor decodes to. -/
structure ActivityRealizationContext where
  workspaceId : String
  requestId : String
  runId : String
  planId : String
  baseGraphId : String
  desiredGraphId : String
  baseGraph : Except RuntimeEffectError DeploymentGraph
  desiredGraph : Except RuntimeEffectError DeploymentGraph
  registeredProducts : List PinnedProduct
  imagePullAuthorities : List RegisteredImagePullAuthority
  runtimeAuthorities : List RegisteredRuntimeAuthority
  runtimeAuthorityDeliveries : List RegisteredRuntimeAuthorityDelivery
  ingressAuthorities : List RegisteredIngressAuthority
  ingressResources : List CloudflareOwnedIngressResource
  generatedIngressSecrets : List GeneratedIngressSecretReference

/-- `_node_target(operation)`. -/
def nodeTarget : ActivityOperation → Option String
  | .startNode target => some target.nodeId
  | .stopNode target => some target.nodeId
  | .removeNodeResource target => some target.nodeId
  | .waitForHealthy target => some target.nodeId
  | .reconcileNode target => some target.nodeId
  | _ => none

/-- `getattr(operation.target, "runtime_id", None)`. -/
def runtimeTarget : ActivityOperation → Option String
  | .reconcileRuntime target => some target.runtimeId
  | .startRuntime target => some target.runtimeId
  | .stopRuntime target => some target.runtimeId
  | .removeRuntimeResource target => some target.runtimeId
  | _ => none

/-- Work that takes something away reads the graph it is taken from. -/
def readsBaseGraph : ActivityOperation → Bool
  | .stopNode _ => true
  | .removeNodeResource _ => true
  | .removeSocketConnection _ => true
  | .stopRuntime _ => true
  | .removeRuntimeResource _ => true
  | _ => false

/-- `_material_graph(context, operation)`. -/
def ActivityRealizationContext.materialGraph (context : ActivityRealizationContext)
    (operation : ActivityOperation) : Except RuntimeEffectError DeploymentGraph :=
  if readsBaseGraph operation then context.baseGraph else context.desiredGraph

/-- A node a runtime effect is about. -/
def effectNode (graph : DeploymentGraph) (nodeId : String) :
    Except RuntimeEffectError Node :=
  match graph.nodes[nodeId]? with
  | some node => .ok node
  | none => .error (.invalidOperation "runtime effect node target is missing")

/-- `_runtime_id_for_context(context, graph, operation)`. -/
def runtimeIdForContext (graph : DeploymentGraph) (operation : ActivityOperation) :
    Except RuntimeEffectError String :=
  match nodeTarget operation with
  | some nodeId => (effectNode graph nodeId).map (·.runtimeId)
  | none =>
      match runtimeTarget operation with
      | some runtimeId =>
          if runtimeId ≠ "" then .ok runtimeId
          else .error (.invalidOperation
            "runtime effect target is not a runtime operation")
      | none =>
          .error (.invalidOperation "runtime effect target is not a runtime operation")

/-- The runtime whose kind and authority an intent carries. -/
def effectRuntime (graph : DeploymentGraph) (runtimeId : String) :
    Except RuntimeEffectError RuntimeRecord :=
  match graph.runtimes[runtimeId]? with
  | some runtime => .ok runtime
  | none => .error (.invalidOperation "runtime effect runtime target is missing")

/-- `_runtime_authority_deliveries_for_context(deliveries, authority_ref)`. -/
def runtimeAuthorityDeliveriesForContext
    (deliveries : List RegisteredRuntimeAuthorityDelivery)
    (authorityRef : Option RuntimeAuthorityReference) :
    List RuntimeAuthorityAccessDelivery :=
  match authorityRef with
  | none => []
  | some reference =>
      ((sortedBy (fun row : RegisteredRuntimeAuthorityDelivery => [row.registrationId])
        deliveries).filter fun row => row.entry.delivery.authorityRef = reference).map
          (·.entry.delivery)

/-- `int(text)` of a revision, in ASCII digits. -/
def revisionOf (text : String) : Option Int :=
  let stripped := ((text.toList.dropWhile isSpace).reverse.dropWhile isSpace).reverse
  let (negative, digits) := match stripped with
    | '-' :: rest => (true, rest)
    | '+' :: rest => (false, rest)
    | rest => (false, rest)
  let groups := digits.splitOn '_'
  if groups.all fun group => !group.isEmpty && group.all Char.isDigit then
    let value := Nat.ofDigitChars 10 groups.flatten 0
    some (if negative then -(value : Int) else value)
  else none

/-- `_product_identity(value)`. -/
def productIdentity (value : PyValue) :
    Except RuntimeEffectError (String × String × Int) :=
  match value with
  | .str text =>
      match text.toList.splitOn '/' with
      | [productNamespace, name, revision] =>
          match revisionOf (String.ofList revision) with
          | some revision =>
              .ok (String.ofList productNamespace, String.ofList name, revision)
          | none =>
              .error (.invalidOperation "runtime effect product identity is malformed")
      | _ => .error (.invalidOperation "runtime effect product identity is malformed")
  | _ => .error (.invalidOperation "runtime effect product identity is malformed")

/-- `_descriptor_digest(value)`. -/
def descriptorDigest : PyValue → Except RuntimeEffectError String
  | .str text => .ok text
  | _ => .error (.invalidOperation "runtime effect product descriptor is malformed")

/-- `_registered_product_for_node(products, metadata)`. -/
def registeredProductForNode (products : List PinnedProduct) (metadata : PyDict) :
    Except RuntimeEffectError PinnedProduct := do
  let (productNamespace, name, revision) ←
    productIdentity ((metadata.lookup "product_identity").getD .none)
  let digest ← descriptorDigest
    ((metadata.lookup "product_descriptor_digest").getD .none)
  match products.find? fun pinned =>
      pinned.reference.identity.productNamespace = productNamespace &&
        pinned.reference.identity.name = name &&
        (pinned.reference.identity.contractRevision : Int) = revision &&
        pinned.reference.descriptorSha256 = digest with
  | some pinned => .ok pinned
  | none =>
      .error (.invalidOperation "runtime effect product reference is not registered")

/-- `_pull_authority_for_product(authorities, image)`: the one with the greatest key. -/
def pullAuthorityForProduct (authorities : List RegisteredImagePullAuthority)
    (image : OciImageReference) : Option ImagePullAuthority :=
  let matching := (authorities.map (·.entry.authority)).filter (·.permits image)
  let after (a b : ImagePullAuthority) : Bool :=
    let lengthOf (authority : ImagePullAuthority) : Nat :=
      (authority.repository.map (·.length)).getD 0
    let texts (authority : ImagePullAuthority) : List String :=
      [authority.registry, authority.repository.getD "",
        authority.credentialReference.referenceId]
    if lengthOf a ≠ lengthOf b then lengthOf b < lengthOf a else texts b ≤ texts a
  (matching.mergeSort after).head?

/-! ### The tunnel token of a connector -/

/-- `_has_tunnel_token_delivery(deliveries)`. -/
def hasTunnelTokenDelivery (deliveries : List SecretDelivery) : Bool :=
  deliveries.any fun
    | .environment environmentName _ _ => environmentName = "TUNNEL_TOKEN"
    | _ => false

/-- The one row there must be. -/
def onlyRow {α : Type} (rows : List α) (message : String) :
    Except RuntimeEffectError α :=
  match rows with
  | [row] => .ok row
  | _ => .error (.invalidOperation message)

/-- `_connector_ingress_for_node(graph, node_id)`. -/
def connectorIngressForNode (graph : DeploymentGraph) (nodeId : String) :
    Except RuntimeEffectError (Option NamedPublicIngress) :=
  match graph.publicIngresses.filter fun ingress =>
      ingress.connectorNodeId = nodeId with
  | [] => .ok none
  | [ingress] => .ok (some ingress)
  | _ =>
      .error (.invalidOperation "public ingress connector token delivery is ambiguous")

/-- `_validate_ingress_resource_against_authority(authority, resource)`. -/
def checkOwnership (authority : CloudflareZoneIngressAuthority)
    (resource : CloudflareOwnedIngressResource) : Except RuntimeEffectError Unit := do
  requireEffect (resource.zoneId = authority.zoneId)
    (.ingress "Cloudflare ingress ownership zone does not match authority")
  requireEffect (authority.allowsHostname resource.hostname)
    (.ingress "Cloudflare ingress ownership hostname is outside authority policy")

/-- `cloudflare_tunnel_token_delivery_plan(...)`, by the delivery it plans. -/
def cloudflareTunnelTokenDeliveryPlan (authority : CloudflareZoneIngressAuthority)
    (resource : CloudflareOwnedIngressResource) (connectorNodeId : String)
    (tunnelTokenRef : SecretReference) : Except RuntimeEffectError SecretDelivery := do
  checkOwnership authority resource
  match validateIdentifier connectorNodeId "connector_node_id" with
  | .error (.registration message) => .error (.ingress message)
  | .error _ => .error (.ingress "connector_node_id")
  | .ok () => .ok (.environment "TUNNEL_TOKEN" tunnelTokenRef .cloudflareTunnelToken)

variable (context : ActivityRealizationContext)

/-- The delivery of the token that was generated for the ingress of a connector. -/
def tunnelTokenDelivery (ingress : NamedPublicIngress) (node : Node) :
    Except RuntimeEffectError SecretDelivery := do
  let resource ← onlyRow (context.ingressResources.filter fun resource =>
      resource.ingressId = ingress.ingressId && resource.status = .active)
    "public ingress connector token delivery requires owned resource evidence"
  let generated ← onlyRow (context.generatedIngressSecrets.filter fun evidence =>
      evidence.sourceRunId = resource.sourceRunId &&
        evidence.sourceActivityId = resource.sourceActivityId &&
        evidence.sourceEventId = resource.sourceEventId)
    "public ingress connector token delivery requires generated token evidence"
  let authority ← onlyRow (context.ingressAuthorities.filter fun row =>
      row.entry.authorityRef.referenceId = resource.authorityRef)
    "public ingress connector token delivery requires active authority evidence"
  cloudflareTunnelTokenDeliveryPlan authority.entry.authority resource node.nodeId
    generated.secretRef

/-- `_secret_deliveries_for_node(...)`. -/
def secretDeliveriesForNode (graph : DeploymentGraph) (node : Node)
    (descriptorDeliveries : List SecretDelivery) :
    Except RuntimeEffectError (List SecretDelivery) := do
  let deliveries := descriptorDeliveries ++ node.secretDeliveries
  if hasTunnelTokenDelivery deliveries then
    return sortedBy secretDeliverySortKey deliveries
  let ingress ← connectorIngressForNode graph node.nodeId
  match ingress with
  | none => return sortedBy secretDeliverySortKey deliveries
  | some ingress => do
      let delivery ← tunnelTokenDelivery context ingress node
      return sortedBy secretDeliverySortKey (deliveries ++ [delivery])

/-! ### Products and intents -/

section Built

variable (repr : String → String)

/-- `_validate_verification(sockets, verification)`. -/
def checkVerification (sockets : BlockSockets) (verification : List VerificationCheck) :
    Except RuntimeEffectError Unit :=
  verification.forM fun check =>
    match sockets.provider check.providerSocket with
    | none => .error (.productContract ("verification check " ++ repr check.checkId ++
        " references unknown provider socket"))
    | some provider =>
        requireEffect ((expectedProtocols check).contains provider.protocol)
          (.productContract ("verification check " ++ repr check.checkId ++
            " is incompatible with provider protocol"))

/-- `_product_material_for_node(context, graph, product, node)`. -/
def productMaterialForNode (graph : DeploymentGraph) (product : ContainerServerProduct)
    (node : Node) : Except RuntimeEffectError ContainerServerProduct := do
  let contract := product.runtimeContract
  let secretDeliveries ←
    secretDeliveriesForNode context graph node contract.secretDeliveries
  checkVerification repr contract.sockets node.blockSpec.verification
  return { product with
    runtimeContract :=
      { contract with verification := node.blockSpec.verification, secretDeliveries } }

/-- `_products_for_context(context, graph, runtime_id, operation)`. -/
def productsForContext (graph : DeploymentGraph) (runtimeId : String)
    (operation : ActivityOperation) :
    Except RuntimeEffectError (List RuntimeProductMaterial) :=
  match nodeTarget operation with
  | none => .ok []
  | some nodeId => do
      let node ← effectNode graph nodeId
      let pinned ← registeredProductForNode context.registeredProducts node.metadata
      let product ← productMaterialForNode context repr graph pinned.product node
      requiredText nodeId "node_id"
      requiredText runtimeId "runtime_id"
      let pullAuthority :=
        pullAuthorityForProduct context.imagePullAuthorities pinned.product.image
      return [⟨nodeId, runtimeId, pinned.reference, product, pullAuthority⟩]

/-- `_runtime_effect_intent_for_context(context, activity)`. -/
def runtimeEffectIntentForContext (activityId : ActivityId)
    (operation : ActivityOperation) :
    Except RuntimeEffectError RuntimeEffectIntent := do
  requireEffect (isCanonicalIdentity context.runId)
    (.invalidOperation "runtime effect run_id is malformed")
  let graph ← context.materialGraph operation
  let runtimeId ← runtimeIdForContext graph operation
  let runtime ← effectRuntime graph runtimeId
  let source : RuntimeEffectIntentSource :=
    ⟨context.workspaceId, context.requestId, context.runId, context.planId,
      context.baseGraphId, context.desiredGraphId⟩
  source.check
  let products ← productsForContext context repr graph runtimeId operation
  let authorityDeliveries := runtimeAuthorityDeliveriesForContext
    context.runtimeAuthorityDeliveries runtime.authorityRef
  return ⟨runtime.kind, source, activityId, operation, runtime.authorityRef,
    authorityDeliveries, products⟩

end Built

/-- `_runtime_authority_for_request(context, request)`: nothing when it is missing, and
no authority when the request names none. -/
def runtimeAuthorityForRequest (request : RuntimeEffectRequest) :
    Option (Option RegisteredRuntimeAuthority) :=
  match request.authorityRef with
  | none => some none
  | some reference =>
      (context.runtimeAuthorities.find? fun row => row.entry.authorityRef = reference &&
        row.entry.runtimeKind = request.runtimeKind).map some

/-! ## The secrets of a request -/

/-- `check.authentication.password_reference`, where there is one: of all the checks
only a Postgres query has the attribute. -/
def passwordReference (check : VerificationCheck) : Option SecretReference :=
  match check.kind, check.details.lookup "authentication" with
  | .postgresQuery, some (.dict authentication) =>
      match authentication.lookup "password_reference_id" with
      | some (.str referenceId) =>
          if nonempty : isBlank referenceId = false then some ⟨referenceId, nonempty⟩
          else none
      | _ => none
  | _, _ => none

/-- The order of the uses that are required. -/
def useSortKey (use : ReferenceUse) : List String := [use.1.referenceId, use.2.value]

/-- What a product is required for: deliveries that resolve a secret, its image, and its
Postgres queries. -/
def requiredUsesOfProduct (material : RuntimeProductMaterial) : List ReferenceUse :=
  let contract := material.product.runtimeContract
  (contract.secretDeliveries.filterMap fun
    | .environment _ reference intent => some (reference, intent)
    | .file _ reference intent _ => some (reference, intent)
    | .environmentReference _ _ => none) ++
  (material.pullAuthority.map fun authority =>
    (authority.credentialReference, SecretUseIntent.ociPullCredential)).toList ++
  (contract.verification.filter fun check => check.kind =
    .postgresQuery).filterMap fun check =>
    (passwordReference check).map fun reference => (reference, .postgresPassword)

/-- What an authority is required for: the certificates and the key of a remote
daemon. -/
def requiredUsesOfAuthority : Option RegisteredRuntimeAuthority → List ReferenceUse
  | none => []
  | some row =>
      match row.entry.authority with
      | .localDockerSocket => []
      | .remoteDockerTls _ caCertificate clientCertificate clientKey =>
          [(caCertificate, .dockerRemoteTlsCaCertificate),
            (clientCertificate, .dockerRemoteTlsClientCertificate),
            (clientKey, .dockerRemoteTlsClientKey)]

/-- `required_secret_uses_for_runtime_effect(request, authority)`. -/
def requiredSecretUsesForRuntimeEffect (request : RuntimeEffectRequest)
    (authority : Option RegisteredRuntimeAuthority) : List ReferenceUse :=
  sortedBy useSortKey
    (request.products.flatMap requiredUsesOfProduct ++
      requiredUsesOfAuthority authority).dedup

/-- `delivery_intents`. -/
def deliveryIntents : List (String × SecretUseIntent) :=
  [("ca-cert", .dockerRemoteTlsCaCertificate), ("client-cert",
    .dockerRemoteTlsClientCertificate), ("client-key", .dockerRemoteTlsClientKey)]

/-- What a delivery of an authority allows. -/
def allowedUsesOfDelivery (delivery : RuntimeAuthorityAccessDelivery) :
    List ReferenceUse :=
  if delivery.deliveryKind = .remoteDockerTlsSecretFiles then
    delivery.secretReferences.filterMap fun labelled =>
      (deliveryIntents.lookup labelled.label).map fun intent =>
        (labelled.reference, intent)
  else []

/-- `getattr(delivery, "intent", None)`. -/
def deliveryIntent : SecretDelivery → Option SecretUseIntent
  | .environment _ _ intent => some intent
  | .environmentReference _ _ => none
  | .file _ _ intent _ => some intent

/-- What a product allows. -/
def allowedUsesOfProduct (material : RuntimeProductMaterial) : List ReferenceUse :=
  let contract := material.product.runtimeContract
  (contract.secretDeliveries.filterMap fun delivery =>
    (deliveryIntent delivery).map fun intent => (delivery.reference, intent)) ++
  (material.pullAuthority.map fun authority =>
    (authority.credentialReference, SecretUseIntent.ociPullCredential)).toList ++
  contract.verification.filterMap fun check =>
    (passwordReference check).map fun reference => (reference, .postgresPassword)

/-- `_allowed_grant_uses(request)`. -/
def allowedGrantUses (request : RuntimeEffectRequest) : List ReferenceUse :=
  request.authorityDeliveries.flatMap allowedUsesOfDelivery ++
    request.products.flatMap allowedUsesOfProduct

/-- A grant is for this request and no other. -/
def SecretResolutionGrant.isFor (grant : SecretResolutionGrant)
    (request : RuntimeEffectRequest) : Bool :=
  grant.workspaceId = request.source.workspaceId &&
    grant.effectId = some request.effectId &&
    grant.runId = some request.source.runId &&
      grant.activityId = some request.activityId.value

/-- `_validate_grants(request)`. -/
def validateGrants (request : RuntimeEffectRequest) :
    Except RuntimeEffectError Unit := do
  let grants := request.secretResolutionGrants
  requireEffect (decide (grants.map (·.referenceUse)).Nodup)
    (.contract "runtime observation grants are duplicated")
  requireEffect (grants.all fun grant =>
      (allowedGrantUses request).contains grant.referenceUse && grant.isFor request)
    (.contract "runtime observation grant is not admitted")

end ControlPlaneKit.Operations
