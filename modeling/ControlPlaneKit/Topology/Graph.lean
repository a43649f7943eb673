import ControlPlaneKit.Library.KeyedMap
import ControlPlaneKit.Topology.Material
import ControlPlaneKit.Topology.Types
import Mathlib.Data.List.Nodup

/-!
# Graph — the compiled topology

Nodes, edges, runtimes and public ingresses of one deployment graph.  A mapping
of the source keyed by identity is an ordered map, so `sorted(mapping.items())`
is its list of entries; metadata of arbitrary shape stays a dynamic value.
Values that hold metadata are compared with the host language's `==`.
-/

namespace ControlPlaneKit.Topology

open ControlPlaneKit.Library
open ControlPlaneKit.Library.Text (isBlank)
open Std (ExtTreeMap)

def textEntries (values : TextMap String) : PyDict :=
  values.toList.map fun entry => (entry.1, .str entry.2)

/-! ## Endpoints and sockets -/

/-- `LiteralAddress | SecretReferenceAddress`. -/
inductive EndpointAddress where
  | literal (value : String) (nonempty : isBlank value = false)
  | secretReference (reference : SecretReference)

instance : DecidableEq EndpointAddress
  | .literal v _, .literal w _ => decidable_of_iff (v = w) (by simp)
  | .secretReference r, .secretReference s => decidable_of_iff (r = s) (by simp)
  | .literal _ _, .secretReference _ => .isFalse (by simp)
  | .secretReference _, .literal _ _ => .isFalse (by simp)

structure Endpoint where
  address : EndpointAddress
  protocol : Protocol
  scope : EndpointScope
  deriving DecidableEq

/-- The literal address, or the unresolved secret-reference token. -/
def Endpoint.url (endpoint : Endpoint) : String :=
  match endpoint.address with
  | .literal value _ => value
  | .secretReference reference => reference.referenceId

/-- `RequirementSocket`: environment bindings exactly when bound through the
environment. -/
structure RequirementSocket where
  name : String
  protocol : Protocol
  envBindings : List String
  required : Bool
  binding : SocketBinding
  secretDeliveries : List SecretDelivery
  bound : binding = .environment ↔ envBindings ≠ []

instance : DecidableEq RequirementSocket := fun a b =>
  decidable_of_iff
    (a.name = b.name ∧ a.protocol = b.protocol ∧ a.envBindings = b.envBindings ∧
      a.required = b.required ∧ a.binding = b.binding ∧
      a.secretDeliveries = b.secretDeliveries)
    ⟨by cases a; cases b; simp_all, by rintro rfl; simp⟩

structure ProviderSocket where
  name : String
  protocol : Protocol
  deriving DecidableEq

structure BlockSockets where
  requirements : List RequirementSocket
  providers : List ProviderSocket
  deriving DecidableEq

def BlockSockets.requirement (sockets : BlockSockets) (name : String) :
    Option RequirementSocket :=
  sockets.requirements.find? fun socket => socket.name = name

def BlockSockets.provider (sockets : BlockSockets) (name : String) :
    Option ProviderSocket :=
  sockets.providers.find? fun socket => socket.name = name

/-! ## Block specifications -/

inductive CapabilityName where
  | healthCheckable
  | logReadable
  | targetMutable
  | switchable
  | drainable
  | observerMutable
  | metricsReadable
  | restartable
  | circuitStateReadable
  | circuitResettable
  | trafficEvidenceReadable
  | faultStateReadable
  | faultMutable
  | cacheStateReadable
  | cachePurgeable
  | loadStateReadable
  | loadMutable
  | discoveryReadable
  | discoveryMutable
  | nodeControllable
  deriving DecidableEq, Repr

def CapabilityName.value : CapabilityName → String
  | .healthCheckable => "health-checkable"
  | .logReadable => "log-readable"
  | .targetMutable => "target-mutable"
  | .switchable => "switchable"
  | .drainable => "drainable"
  | .observerMutable => "observer-mutable"
  | .metricsReadable => "metrics-readable"
  | .restartable => "restartable"
  | .circuitStateReadable => "circuit-state-readable"
  | .circuitResettable => "circuit-resettable"
  | .trafficEvidenceReadable => "traffic-evidence-readable"
  | .faultStateReadable => "fault-state-readable"
  | .faultMutable => "fault-mutable"
  | .cacheStateReadable => "cache-state-readable"
  | .cachePurgeable => "cache-purgeable"
  | .loadStateReadable => "load-state-readable"
  | .loadMutable => "load-mutable"
  | .discoveryReadable => "discovery-readable"
  | .discoveryMutable => "discovery-mutable"
  | .nodeControllable => "node-controllable"

inductive VerificationKind where
  | http
  | dnsResolve
  | postgresQuery
  | redis
  | brokerRoundTrip
  | objectStorageRoundTrip
  | smtpAcceptance
  deriving DecidableEq, Repr

def VerificationKind.value : VerificationKind → String
  | .http => "http"
  | .dnsResolve => "dns-resolve"
  | .postgresQuery => "postgres-query"
  | .redis => "redis"
  | .brokerRoundTrip => "broker-round-trip"
  | .objectStorageRoundTrip => "object-storage-round-trip"
  | .smtpAcceptance => "smtp-acceptance"

/-- A verification check: the parts validation reads, and the rest of its
descriptor (policy and kind-specific fields). -/
structure VerificationCheck where
  kind : VerificationKind
  checkId : String
  providerSocket : String
  details : PyDict
  detailsKeyed : PyValue.wellKeyed (.dict
    (("kind", .none) :: ("check_id", .none) :: ("provider_socket", .none) :: details)) =
      true

def VerificationCheck.descriptor (check : VerificationCheck) : PyValue :=
  .dict
    ([ ("kind", .str check.kind.value), ("check_id", .str check.checkId)
     , ("provider_socket", .str check.providerSocket) ] ++ check.details)

/-- The exact provider protocols accepted by one check variant. -/
def expectedProtocols (check : VerificationCheck) : List Protocol :=
  match check.kind with
  | .http => [.http]
  | .dnsResolve => [.dnsTcp, .dnsUdp]
  | .postgresQuery => [.postgres]
  | .redis => [.redis]
  | .brokerRoundTrip => [.nats, .amqp, .kafka]
  | .objectStorageRoundTrip => [.s3]
  | .smtpAcceptance => [.smtp]

/-- A node-control surface: its provider socket and its encoded variables. -/
structure ControlSurface where
  providerSocketName : String
  controlVariables : List PyValue
  variablesKeyed : PyValue.wellKeyed (.list controlVariables) = true

def ControlSurface.descriptor (surface : ControlSurface) : PyValue :=
  .dict
    [ ("provider_socket_name", .str surface.providerSocketName)
    , ("variables", .list surface.controlVariables) ]

/-- `BlockSpec` or a subclass of it: `specType` is the class and `extra` the
subclass's own fields. -/
structure BlockSpec where
  specType : String
  roleId : String
  displayName : Option String
  healthPath : Option String
  capabilities : List CapabilityName
  verification : List VerificationCheck
  metadata : TextMap String
  controlSurfaces : List ControlSurface
  extra : PyDict
  extraKeyed : PyValue.wellKeyed (.dict extra) = true

def optionalText : Option String → PyValue
  | none => .none
  | some text => .str text

/-- Every field of a specification as one dynamic value. -/
def BlockSpec.fields (spec : BlockSpec) : PyValue :=
  .tuple
    [ .str spec.specType, .str spec.roleId, optionalText spec.displayName
    , optionalText spec.healthPath, .list (spec.capabilities.map (.str ·.value))
    , .list (spec.verification.map (·.descriptor)), .dict (textEntries spec.metadata)
    , .list (spec.controlSurfaces.map (·.descriptor)), .dict spec.extra ]

/-- `left == right` on specifications: same class, equal fields. -/
def BlockSpec.pyEq (left right : BlockSpec) : Bool :=
  PyValue.pyEq left.fields right.fields

/-! ## Nodes, edges, runtimes -/

/-- `Node`, with the uniqueness laws of its constructor. -/
structure Node where
  nodeId : String
  blockFamily : BlockFamily
  blockSpec : BlockSpec
  kind : String
  runtimeId : String
  sockets : BlockSockets
  endpoints : TextMap Endpoint
  publicEnvironment : List PublicStaticEnvironmentBinding
  socketEnvironment : List SocketDerivedEnvironmentBinding
  metadata : PyDict
  lifecycle : ResourceLifecycle
  configurationArtifacts : List ConfigurationArtifact
  secretDeliveries : List SecretDelivery
  delegationVerifierProjection : Option DelegationVerifierProjection
  metadataKeyed : PyValue.wellKeyed (.dict metadata) = true
  metadataEnvironmentFree : "environment" ∉ metadata.map (·.1)
  artifactsUnique : (configurationArtifacts.map (·.artifactId)).Nodup ∧
    (configurationArtifacts.map (·.targetPath)).Nodup
  deliveriesUnique : secretDeliveries.Nodup
  environmentNamesUnique : (publicEnvironment.map (·.name) ++
    socketEnvironment.map (·.name) ++
    secretDeliveries.filterMap (·.environmentName)).Nodup

structure Edge where
  edgeId : String
  providerRole : String
  providerSocket : String
  consumerRole : String
  requirementSocket : String
  protocol : Protocol
  binding : SocketBinding
  envAssignments : TextMap String
  deriving DecidableEq

structure RuntimeRecord where
  runtimeId : String
  kind : RuntimeKind
  children : List String
  metadata : TextMap String
  lifecycle : ResourceLifecycle
  authorityRef : Option RuntimeAuthorityReference
  deriving DecidableEq

/-! ## Graphs -/

/-- The key `DeploymentGraph` sorts its delegation authorities by. -/
def authoritySortKey (binding : DelegationAuthorityBinding) : List String :=
  [binding.delegateNodeId, binding.purpose.value, binding.issuer]

/-- **Deployment graph**: identities of public ingresses and of delegation
authorities are unique, and the authorities are sorted. -/
structure DeploymentGraph where
  name : String
  nodes : TextMap Node
  edges : TextMap Edge
  runtimes : TextMap RuntimeRecord
  publicIngresses : List NamedPublicIngress
  delegationAuthorities : List DelegationAuthorityBinding
  ingressesUnique : (publicIngresses.map (·.ingressId)).Nodup
  authoritiesUnique : (delegationAuthorities.map (·.identity)).Nodup
  authoritiesSorted : delegationAuthorities.Pairwise fun a b =>
    authoritySortKey a ≤ authoritySortKey b

namespace DeploymentGraph

/-- `{ingress.ingress_id: ingress for ingress in graph.public_ingresses}`. -/
def ingressById (graph : DeploymentGraph) : TextMap NamedPublicIngress :=
  ExtTreeMap.ofList (graph.publicIngresses.map fun ingress =>
    (ingress.ingressId, ingress))

theorem ingressById_eq_some {graph : DeploymentGraph} {ingressId : String}
    {ingress : NamedPublicIngress} :
    graph.ingressById[ingressId]? = some ingress ↔
      ingress ∈ graph.publicIngresses ∧ ingress.ingressId = ingressId := by
  rw [ingressById, KeyedMap.getElem?_ofList
    (by simpa [Function.comp_def] using graph.ingressesUnique)]
  simp [and_comm, Prod.ext_iff]

end DeploymentGraph

end ControlPlaneKit.Topology
