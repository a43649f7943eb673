import ControlPlaneKit.Topology.Changes
import ControlPlaneKit.Topology.Validation

/-!
# Diff — from two validated graphs to structural changes

Runtimes, nodes, edges and public ingresses are compared by identity; what both
graphs have is compared field by field.  The changes are then sorted by form,
subject and descriptor, which needs the JSON text of every descriptor.
-/

namespace ControlPlaneKit.Topology

open ControlPlaneKit.Library
open ControlPlaneKit.Library.KeyedMap (compareKeyed)
open ControlPlaneKit.Library.Outcome (Succeeds collect)

/-! ## Field comparisons -/

/-- A modified field of an owner, when it did change. -/
def fieldModified (changed : Bool) (owner : DiffOwner) (field : StructuralField)
    (before after : DiffValue) : List StructuralChange :=
  if changed then [.modified (.field owner field none) before after] else []

/-- A field is changed where it differs. -/
theorem mem_fieldModified {changed : Bool} {owner : DiffOwner} {field : StructuralField}
    {before after : DiffValue} {change : StructuralChange} :
    change ∈ fieldModified changed owner field before after ↔
      changed = true ∧ change = .modified (.field owner field none) before after := by
  unfold fieldModified
  split <;> simp_all

def runtimeAuthorityValue (runtime : RuntimeRecord) : PyDict :=
  [("authority_ref", match runtime.authorityRef with
    | none => .none
    | some reference => reference.descriptor)]

/-- What differs in a runtime, field by field. -/
def runtimeChanges (runtimeId : String) (before after : RuntimeRecord) :
    List StructuralChange :=
  let owner := DiffOwner.runtime runtimeId
  (if before.kind ≠ after.kind then
    [.unsupported (.field owner .runtimeKind none) (.text before.kind.value)
      (.text after.kind.value) .runtimeKindTransition]
  else []) ++
  fieldModified (before.children ≠ after.children) owner .runtimeContainment
    (.stringTuple before.children) (.stringTuple after.children) ++
  fieldModified (before.authorityRef ≠ after.authorityRef) owner .runtimeAuthority
    (.metadata (runtimeAuthorityValue before))
    (.metadata (runtimeAuthorityValue after)) ++
  fieldModified (before.metadata ≠ after.metadata) owner .runtimeMetadata
    (.metadata (textEntries before.metadata))
    (.metadata (textEntries after.metadata)) ++
  fieldModified (before.lifecycle ≠ after.lifecycle) owner .resourceLifecycle
    (.metadata before.lifecycle.entries) (.metadata after.lifecycle.entries)

section Nodes

variable (codec : GraphDescriptorCodec)

/-- `_node_value(node, codec)`. -/
def nodeValue (node : Node) : Except GraphError DiffValue :=
  (codec.encodeBlockSpec node.blockSpec).map (.node node)

/-- `_block_spec_value(spec, codec)`. -/
def blockSpecValue (spec : BlockSpec) : Except GraphError DiffValue :=
  (codec.encodeBlockSpec spec).map (.blockSpec spec)

/-- A block that differs, shown by its descriptors. -/
def blockSpecChanges (nodeId : String) (before after : Node) :
    Except GraphError (List StructuralChange) :=
  if before.blockSpec.pyEq after.blockSpec then .ok []
  else do
    let old ← blockSpecValue codec before.blockSpec
    let new ← blockSpecValue codec after.blockSpec
    return fieldModified true (.node nodeId) .blockSpecification old new

def endpointSubject (nodeId name : String) : DiffSubject :=
  .field (.node nodeId) .endpoint (some name)

/-- `_diff_endpoints`. -/
def endpointChanges (nodeId : String) (before after : Node) :
    Except GraphError (List StructuralChange) :=
  compareKeyed
    (fun name endpoint =>
      .ok [.added (endpointSubject nodeId name) (.endpoint endpoint)])
    (fun name endpoint =>
      .ok [.removed (endpointSubject nodeId name) (.endpoint endpoint)])
    (fun name old new => .ok
      (if old ≠ new then
        [.modified (endpointSubject nodeId name) (.endpoint old) (.endpoint new)]
      else []))
    before.endpoints after.endpoints

def Node.publicBindings (node : Node) : DiffValue :=
  .environmentBindings (node.publicEnvironment.map .publicStatic)

def Node.socketBindings (node : Node) : DiffValue :=
  .environmentBindings (node.socketEnvironment.map .socketDerived)

/-- `before.metadata != after.metadata`. -/
def metadataDiffers (before after : Node) : Bool :=
  !PyValue.pyEq (.dict before.metadata) (.dict after.metadata)

def artifactsDiffer (before after : Node) : Bool :=
  before.configurationArtifacts.map (·.comparisonKey) ≠
    after.configurationArtifacts.map (·.comparisonKey)

/-- The fields compared after the endpoints, short of the lifecycle. -/
def materialChanges (nodeId : String) (before after : Node) : List StructuralChange :=
  let owner := DiffOwner.node nodeId
  fieldModified (before.publicEnvironment ≠ after.publicEnvironment) owner
    .publicEnvironment before.publicBindings after.publicBindings ++
  fieldModified (before.socketEnvironment ≠ after.socketEnvironment) owner
    .socketEnvironment before.socketBindings after.socketBindings ++
  fieldModified (metadataDiffers before after) owner .nodeMetadata
    (.metadata before.metadata) (.metadata after.metadata) ++
  fieldModified (artifactsDiffer before after) owner .configurationArtifacts
    (.configurationArtifacts before.configurationArtifacts)
    (.configurationArtifacts after.configurationArtifacts) ++
  fieldModified (before.secretDeliveries ≠ after.secretDeliveries) owner
    .secretDeliveries (.secretDeliveries before.secretDeliveries)
    (.secretDeliveries after.secretDeliveries) ++
  fieldModified (before.delegationVerifierProjection ≠
    after.delegationVerifierProjection) owner .delegationVerifierProjection
    (.delegationVerifierProjection before.delegationVerifierProjection)
    (.delegationVerifierProjection after.delegationVerifierProjection)

/-- What changed of a node both graphs have; a reused identity is compared no
further. -/
def nodeChanges (nodeId : String) (before after : Node) :
    Except GraphError (List StructuralChange) :=
  let owner := DiffOwner.node nodeId
  if before.blockFamily ≠ after.blockFamily then do
    let old ← nodeValue codec before
    let new ← nodeValue codec after
    return [.ambiguous (.node nodeId) .nodeIdentityReused (some old) (some new)]
  else do
    let spec ← blockSpecChanges codec nodeId before after
    let endpoints ← endpointChanges nodeId before after
    return (if before.kind ≠ after.kind then
        [.unsupported (.field owner .implementationKind none) (.text before.kind)
          (.text after.kind) .implementationKindTransition]
      else []) ++
      fieldModified (before.runtimeId ≠ after.runtimeId) owner .runtimeMembership
        (.text before.runtimeId) (.text after.runtimeId) ++
      spec ++
      fieldModified (before.sockets ≠ after.sockets) owner .socketContract
        (.socketContract before.sockets) (.socketContract after.sockets) ++
      endpoints ++ materialChanges nodeId before after ++
      fieldModified (before.lifecycle ≠ after.lifecycle) owner .resourceLifecycle
        (.metadata before.lifecycle.entries) (.metadata after.lifecycle.entries)

end Nodes

/-! ## The comparison of two graphs -/

section Graphs

variable (codec : GraphDescriptorCodec) (current desired : DeploymentGraph)

/-- Runtimes that one graph has, and the changes of those that both have. -/
def diffRuntimes : Except GraphError (List StructuralChange) :=
  compareKeyed
    (fun runtimeId runtime => .ok [.added (.runtime runtimeId) (.runtime runtime)])
    (fun runtimeId runtime => .ok [.removed (.runtime runtimeId) (.runtime runtime)])
    (fun runtimeId before after => .ok (runtimeChanges runtimeId before after))
    current.runtimes desired.runtimes

/-- The same for nodes. -/
def diffNodes : Except GraphError (List StructuralChange) :=
  compareKeyed
    (fun nodeId node => (nodeValue codec node).map fun value =>
      [.added (.node nodeId) value])
    (fun nodeId node => (nodeValue codec node).map fun value =>
      [.removed (.node nodeId) value])
    (nodeChanges codec)
    current.nodes desired.nodes

/-- The same for edges, which change as a whole. -/
def diffEdges : Except GraphError (List StructuralChange) :=
  compareKeyed
    (fun edgeId edge => .ok [.added (.edge edgeId) (.edge edge)])
    (fun edgeId edge => .ok [.removed (.edge edgeId) (.edge edge)])
    (fun edgeId before after => .ok
      (if before ≠ after then [.modified (.edge edgeId) (.edge before) (.edge after)]
        else []))
    current.edges desired.edges

/-- The same for ingresses. -/
def diffPublicIngresses : Except GraphError (List StructuralChange) :=
  compareKeyed
    (fun ingressId ingress =>
      .ok [.added (.publicIngress ingressId) (.publicIngress ingress)])
    (fun ingressId ingress =>
      .ok [.removed (.publicIngress ingressId) (.publicIngress ingress)])
    (fun ingressId before after => .ok
      (if before ≠ after then
        [.modified (.publicIngress ingressId) (.publicIngress before)
          (.publicIngress after)]
      else []))
    current.ingressById desired.ingressById

def authorityEntries (graph : DeploymentGraph) : PyDict :=
  [("bindings", .list (graph.delegationAuthorities.map (·.descriptor)))]

def diffDelegationAuthorities : List StructuralChange :=
  fieldModified (current.delegationAuthorities ≠ desired.delegationAuthorities) .graph
    .delegationAuthorities (.metadata (authorityEntries current))
    (.metadata (authorityEntries desired))

/-- The graphs' names. -/
def diffGraphName : List StructuralChange :=
  fieldModified (current.name ≠ desired.name) .graph .graphName (.text current.name)
    (.text desired.name)

/-- The changes in the order they are found. -/
def structuralChanges : Except GraphError (List StructuralChange) := do
  let runtimes ← diffRuntimes current desired
  let nodes ← diffNodes codec current desired
  let edges ← diffEdges current desired
  let ingresses ← diffPublicIngresses current desired
  return diffGraphName current desired ++ runtimes ++ nodes ++ edges ++ ingresses ++
    diffDelegationAuthorities current desired

end Graphs

/-! ## The order of changes -/

/-- `_change_key(change)`. -/
structure ChangeKey where
  rank : Nat
  subject : List Char
  descriptor : List Char

def ChangeKey.le (a b : ChangeKey) : Bool :=
  a.rank < b.rank ||
    (a.rank = b.rank && (a.subject < b.subject ||
      (a.subject = b.subject && !(b.descriptor < a.descriptor : Bool))))

/-- What changes are sorted by. -/
def changeKey (change : StructuralChange) : Except PyError ChangeKey := do
  let subject ← PyValue.dumps .standard change.subject.descriptor
  let descriptor ← PyValue.dumps .standard change.descriptor
  return ⟨change.rank, subject, descriptor⟩

/-- `sorted(changes, key=_change_key)`. -/
def sortChanges (changes : List StructuralChange) :
    Except PyError (List StructuralChange) :=
  (collect (changes.map fun change => (changeKey change).map fun key => (key,
    change))).map fun keyed => (keyed.insertionSort fun a b => a.1.le b.1).map (·.2)

/-- What comparing two validated graphs can raise. -/
inductive DiffError where
  | graphValidation (graphName : String) (errors : Nat)
  | graph (error : GraphError)
  deriving DecidableEq, Repr

/-- A graph with errors is not compared. -/
def ValidatedGraph.requireValid (validated : ValidatedGraph) :
    Except DiffError DeploymentGraph :=
  if validated.valid then .ok validated.graph
  else .error (.graphValidation validated.graph.name validated.errors.length)

/-- `diff_graphs(current, desired)`. -/
def diffGraphs (current desired : ValidatedGraph) : Except DiffError GraphDiff := do
  let currentGraph ← current.requireValid
  let desiredGraph ← desired.requireValid
  if !current.codec.supportsSameBlockSpecsAs desired.codec then
    return ⟨currentGraph.name, desiredGraph.name,
      [.ambiguous .graph .blockSpecLanguageMismatch none none]⟩
  let changes ←
    (structuralChanges current.codec currentGraph desiredGraph).mapError .graph
  let sorted ← (sortChanges changes).mapError fun error => .graph (.other error)
  return ⟨currentGraph.name, desiredGraph.name, sorted⟩

end ControlPlaneKit.Topology
