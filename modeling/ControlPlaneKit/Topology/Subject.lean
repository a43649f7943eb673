import Mathlib.Logic.Basic

/-!
# Subject — what a structural change is about

The closed subjects of the graph diff: the graph itself, one runtime, node,
edge or public ingress, or one structural field of an owner.  Activity plans
carry these subjects in their review activities, so they sit below both the
topology and the planning modules.
-/

namespace ControlPlaneKit.Topology

/-- The structural fields two graphs are compared on. -/
inductive StructuralField where
  | graphName
  | runtimeKind
  | runtimeContainment
  | runtimeAuthority
  | runtimeMetadata
  | blockFamily
  | blockSpecification
  | implementationKind
  | runtimeMembership
  | socketContract
  | endpoint
  | publicEnvironment
  | socketEnvironment
  | nodeMetadata
  | configurationArtifacts
  | secretDeliveries
  | delegationAuthorities
  | delegationVerifierProjection
  | resourceLifecycle
  deriving DecidableEq, Repr

def StructuralField.value : StructuralField → String
  | .graphName => "graph-name"
  | .runtimeKind => "runtime-kind"
  | .runtimeContainment => "runtime-containment"
  | .runtimeAuthority => "runtime-authority"
  | .runtimeMetadata => "runtime-metadata"
  | .blockFamily => "block-family"
  | .blockSpecification => "block-specification"
  | .implementationKind => "implementation-kind"
  | .runtimeMembership => "runtime-membership"
  | .socketContract => "socket-contract"
  | .endpoint => "endpoint"
  | .publicEnvironment => "public-environment"
  | .socketEnvironment => "socket-environment"
  | .nodeMetadata => "node-metadata"
  | .configurationArtifacts => "configuration-artifacts"
  | .secretDeliveries => "secret-deliveries"
  | .delegationAuthorities => "delegation-authorities"
  | .delegationVerifierProjection => "delegation-verifier-projection"
  | .resourceLifecycle => "resource-lifecycle"

/-- `GraphSubject | RuntimeSubject | NodeSubject | PublicIngressSubject`. -/
inductive DiffOwner where
  | graph
  | runtime (runtimeId : String)
  | node (nodeId : String)
  | publicIngress (ingressId : String)
  deriving DecidableEq, Repr

/-- `DiffOwner`, an edge, or a `FieldSubject` of an owner. -/
inductive DiffSubject where
  | graph
  | runtime (runtimeId : String)
  | node (nodeId : String)
  | edge (edgeId : String)
  | publicIngress (ingressId : String)
  | field (owner : DiffOwner) (field : StructuralField) (key : Option String)
  deriving DecidableEq, Repr

end ControlPlaneKit.Topology
