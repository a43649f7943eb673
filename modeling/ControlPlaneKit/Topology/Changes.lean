import ControlPlaneKit.Library.Ordering
import ControlPlaneKit.Topology.Codec
import ControlPlaneKit.Topology.Subject
import Mathlib.Data.List.Infix

/-!
# Changes — structural change data

The values a change carries, the five forms of change, and their descriptors
with secret-shaped material redacted.  A descriptor is what a change is sorted
and identified by, so which descriptors have a JSON text is settled here: only
free-form metadata and an encoded specification can lack one.
-/

namespace ControlPlaneKit.Topology

open ControlPlaneKit.Library
open ControlPlaneKit.Library.Ordering (sortedBy)

/-! ## Redaction -/

/-- What stands for a secret in a descriptor. -/
def redacted : PyValue := .str "<redacted>"

/-- `SECRET_MARKERS`: a key with one of these in it names a secret. -/
def secretMarkers : List String :=
  ["secret", "token", "password", "private_key", "credential", "api_key"]

/-- `c.lower()`, as far as an ASCII letter can come out of it. -/
def lowerChar (c : Char) : List Char :=
  if 65 ≤ c.toNat ∧ c.toNat ≤ 90 then [Char.ofNat (c.toNat + 32)]
  else if c.toNat = 0x212a then ['k']
  else if c.toNat = 0x130 then ['i', Char.ofNat 0x307]
  else [c]

/-- `any(marker in key.lower() for marker in _SECRET_MARKERS)`. -/
def isSecretKey (key : String) : Bool :=
  secretMarkers.any fun marker => marker.toList <:+: key.toList.flatMap lowerChar

mutual

/-- `_redact_value(key, value)`. -/
def redactValue (key : String) : PyValue → PyValue
  | .dict entries => if isSecretKey key then redacted else .dict (redactMapping entries)
  | .list items => if isSecretKey key then redacted else .list (redactItems key items)
  | .tuple items => if isSecretKey key then redacted else .list (redactItems key items)
  | value => if isSecretKey key then redacted else value

def redactItems (key : String) : List PyValue → List PyValue
  | [] => []
  | v :: vs => redactValue key v :: redactItems key vs

/-- `_redact_mapping(mapping)`. -/
def redactMapping : List (String × PyValue) → List (String × PyValue)
  | [] => []
  | (k, v) :: es => (k, redactValue k v) :: redactMapping es

end

/-! ## Values -/

/-- `DiffValue`: the data before or after a change. -/
inductive DiffValue where
  | text (value : String)
  | stringTuple (values : List String)
  | metadata (values : PyDict)
  | environmentBindings (values : List EnvironmentBinding)
  | configurationArtifacts (values : List ConfigurationArtifact)
  | secretDeliveries (values : List SecretDelivery)
  | delegationVerifierProjection (value : Option DelegationVerifierProjection)
  | endpoint (endpoint : Endpoint)
  | socketContract (sockets : BlockSockets)
  | blockSpec (spec : BlockSpec) (encoded : PyDict)
  | runtime (runtime : RuntimeRecord)
  | node (node : Node) (encoded : PyDict)
  | edge (edge : Edge)
  | publicIngress (ingress : NamedPublicIngress)

def texts (values : List String) : PyValue := .list (values.map .str)

/-- A binding is shown without its value. -/
def environmentBindingDescriptor : EnvironmentBinding → PyValue
  | .publicStatic binding =>
      .dict [("kind", .str "public-static"), ("name", .str binding.name),
        ("value", redacted)]
  | .socketDerived binding =>
      .dict
        [ ("kind", .str "socket-derived"), ("name", .str binding.name)
        , ("value", redacted)
        , ("edge_id", .str binding.edgeId) ]

def environmentBindingsDescriptor (values : List EnvironmentBinding) : PyValue :=
  .list
    ((sortedBy (fun binding => [binding.name]) values).map environmentBindingDescriptor)

/-- Artifacts are shown in the order of what is compared of them. -/
def configurationArtifactsDescriptor (values : List ConfigurationArtifact) : PyValue :=
  .list ((sortedBy (·.comparisonKey) values).map (·.descriptor))

/-- A delivery shows the fingerprint of its reference instead of the reference. -/
def secretDeliveryDiffDescriptor (delivery : SecretDelivery) : PyValue :=
  .dict (delivery.entries redacted ++
    [("reference_fingerprint", .str (sha256Hexdigest delivery.reference.referenceId))])

/-- Deliveries are shown with their references redacted. -/
def secretDeliveriesDescriptor (values : List SecretDelivery) : PyValue :=
  .list ((sortedBy secretDeliverySortKey values).map secretDeliveryDiffDescriptor)

/-- A projection, or `None`. -/
def verifierProjectionDescriptor : Option DelegationVerifierProjection → PyValue
  | none => .none
  | some projection =>
      .dict
        [ ("delegate_node_id", .str projection.delegateNodeId)
        , ("purpose", .str projection.purpose.value)
        , ("issuer", .str projection.issuer)
        , ("audience", .str projection.audience)
        , ("projection_id", .str projection.projectionId)
        , ("public_keys", .list (projection.publicKeys.map (·.descriptor))) ]

def endpointDescriptor (endpoint : Endpoint) : PyValue :=
  .dict
    [ ("address", match endpoint.address with
        | .literal value _ => .dict [("kind", .str "literal"), ("value", .str value)]
        | .secretReference _ =>
            .dict [("kind", .str "secret-reference"), ("secret_ref", redacted)])
    , ("protocol", endpoint.protocol.descriptor)
    , ("scope", .str endpoint.scope.value) ]

def providersDescriptor (sockets : BlockSockets) : PyValue :=
  .list ((sortedBy (fun socket => [socket.name]) sockets.providers).map fun socket =>
    .dict [("name", .str socket.name), ("protocol", socket.protocol.descriptor)])

def requirementDescriptor (socket : RequirementSocket) : PyValue :=
  .dict
    ([ ("name", .str socket.name)
     , ("protocol", socket.protocol.descriptor)
     , ("binding", .str socket.binding.value)
     , ("env_bindings", texts socket.envBindings)
     , ("required", .bool socket.required) ] ++
     (if socket.secretDeliveries.isEmpty then []
      else [("secret_deliveries", .list (socket.secretDeliveries.map (·.descriptor)))]))

def requirementsDescriptor (sockets : BlockSockets) : PyValue :=
  .list ((sortedBy (fun socket => [socket.name]) sockets.requirements).map
    requirementDescriptor)

def runtimeDescriptor (runtime : RuntimeRecord) : PyValue :=
  .dict
    [ ("runtime_id", .str runtime.runtimeId)
    , ("kind", .str runtime.kind.value)
    , ("children", texts runtime.children)
    , ("metadata", .dict (redactMapping (textEntries runtime.metadata)))
    , ("lifecycle", .dict runtime.lifecycle.entries) ]

def nodeDescriptor (node : Node) (encoded : PyDict) : PyValue :=
  .dict
    [ ("node_id", .str node.nodeId)
    , ("block_family", .str node.blockFamily.value)
    , ("block_spec", .dict (redactMapping encoded))
    , ("kind", .str node.kind)
    , ("runtime_id", .str node.runtimeId)
    , ("providers", providersDescriptor node.sockets)
    , ("requirements", requirementsDescriptor node.sockets)
    , ("endpoints", .dict (node.endpoints.toList.map fun entry =>
        (entry.1, endpointDescriptor entry.2)))
    , ("environment_bindings", environmentBindingsDescriptor
        (node.publicEnvironment.map .publicStatic ++
          node.socketEnvironment.map .socketDerived))
    , ("metadata", .dict (redactMapping node.metadata))
    , ("lifecycle", .dict node.lifecycle.entries)
    , ("configuration_artifacts", configurationArtifactsDescriptor
      node.configurationArtifacts)
    , ("secret_deliveries", secretDeliveriesDescriptor node.secretDeliveries)
    , ("delegation_verifier_projection",
        verifierProjectionDescriptor node.delegationVerifierProjection) ]

def edgeDescriptor (edge : Edge) : PyValue :=
  .dict
    [ ("edge_id", .str edge.edgeId)
    , ("provider", .dict
        [("node_id", .str edge.providerRole), ("socket", .str edge.providerSocket)])
    , ("consumer", .dict
        [("node_id", .str edge.consumerRole), ("socket", .str edge.requirementSocket)])
    , ("protocol", edge.protocol.descriptor)
    , ("binding", .str edge.binding.value)
    , ("env_assignments", .dict
      (edge.envAssignments.keys.map fun name => (name, redacted))) ]

/-- `descriptor()` of a value of a change. -/
def DiffValue.descriptor : DiffValue → PyValue
  | .text value => .str value
  | .stringTuple values => texts values
  | .metadata values => .dict (redactMapping values)
  | .environmentBindings values => environmentBindingsDescriptor values
  | .configurationArtifacts values => configurationArtifactsDescriptor values
  | .secretDeliveries values => secretDeliveriesDescriptor values
  | .delegationVerifierProjection value => verifierProjectionDescriptor value
  | .endpoint value => endpointDescriptor value
  | .socketContract sockets =>
      .dict [ ("providers", providersDescriptor sockets)
            , ("requirements", requirementsDescriptor sockets) ]
  | .blockSpec _ encoded => .dict (redactMapping encoded)
  | .runtime record => runtimeDescriptor record
  | .node value encoded => nodeDescriptor value encoded
  | .edge value => edgeDescriptor value
  | .publicIngress ingress => ingress.descriptor

/-! ## Changes -/

/-- Why the compiler has no activity for a change. -/
inductive UnsupportedReason where
  | runtimeKindTransition
  | implementationKindTransition
  deriving DecidableEq, Repr

def UnsupportedReason.value : UnsupportedReason → String
  | .runtimeKindTransition => "runtime-kind-transition"
  | .implementationKindTransition => "implementation-kind-transition"

/-- Why the compiler does not choose an activity for a change. -/
inductive AmbiguityReason where
  | blockSpecLanguageMismatch
  | nodeIdentityReused
  deriving DecidableEq, Repr

def AmbiguityReason.value : AmbiguityReason → String
  | .blockSpecLanguageMismatch => "block-spec-language-mismatch"
  | .nodeIdentityReused => "node-identity-reused"

/-- **One difference of two graphs.** -/
inductive StructuralChange where
  | added (subject : DiffSubject) (after : DiffValue)
  | removed (subject : DiffSubject) (before : DiffValue)
  | modified (subject : DiffSubject) (before after : DiffValue)
  | unsupported (subject : DiffSubject) (before after : DiffValue)
      (reason : UnsupportedReason)
  | ambiguous (subject : DiffSubject) (reason : AmbiguityReason)
      (before after : Option DiffValue)

def DiffOwner.descriptor : DiffOwner → PyValue
  | .graph => .dict [("kind", .str "graph")]
  | .runtime runtimeId =>
      .dict [("kind", .str "runtime"), ("runtime_id", .str runtimeId)]
  | .node nodeId => .dict [("kind", .str "node"), ("node_id", .str nodeId)]
  | .publicIngress ingressId =>
      .dict [("kind", .str "public-ingress"), ("ingress_id", .str ingressId)]

/-- `DiffSubject.descriptor()`. -/
def DiffSubject.descriptor : DiffSubject → PyValue
  | .graph => DiffOwner.graph.descriptor
  | .runtime runtimeId => (DiffOwner.runtime runtimeId).descriptor
  | .node nodeId => (DiffOwner.node nodeId).descriptor
  | .edge edgeId => .dict [("kind", .str "edge"), ("edge_id", .str edgeId)]
  | .publicIngress ingressId => (DiffOwner.publicIngress ingressId).descriptor
  | .field owner structuralField key =>
      .dict ([("owner", owner.descriptor), ("field", .str structuralField.value)] ++
        match key with
          | none => []
          | some text => [("key", .str text)])

namespace StructuralChange

/-- What a change is about. -/
def subject : StructuralChange → DiffSubject
  | .added subject _ => subject
  | .removed subject _ => subject
  | .modified subject _ _ => subject
  | .unsupported subject _ _ _ => subject
  | .ambiguous subject _ _ _ => subject

/-- The values a change carries. -/
def values : StructuralChange → List DiffValue
  | .added _ after => [after]
  | .removed _ before => [before]
  | .modified _ before after => [before, after]
  | .unsupported _ before after _ => [before, after]
  | .ambiguous _ _ before after => before.toList ++ after.toList

def optionalEntry (key : String) : Option DiffValue → PyDict
  | none => []
  | some value => [(key, value.descriptor)]

/-- `descriptor()` of a change. -/
def descriptor : StructuralChange → PyValue
  | .added subject after =>
      .dict [ ("form", .str "added"), ("subject", subject.descriptor)
            , ("after", after.descriptor) ]
  | .removed subject before =>
      .dict [ ("form", .str "removed"), ("subject", subject.descriptor)
            , ("before", before.descriptor) ]
  | .modified subject before after =>
      .dict [ ("form", .str "modified"), ("subject", subject.descriptor)
            , ("before", before.descriptor), ("after", after.descriptor) ]
  | .unsupported subject before after reason =>
      .dict [ ("form", .str "unsupported"), ("subject", subject.descriptor)
            , ("reason", .str reason.value)
            , ("before", before.descriptor), ("after", after.descriptor) ]
  | .ambiguous subject reason before after =>
      .dict ([ ("form", .str "ambiguous"), ("subject", subject.descriptor)
             , ("reason", .str reason.value) ] ++
        optionalEntry "before" before ++ optionalEntry "after" after)

/-- The rank of a form in the order of changes. -/
def rank : StructuralChange → Nat
  | .added _ _ => 0
  | .modified _ _ _ => 1
  | .unsupported _ _ _ _ => 2
  | .ambiguous _ _ _ _ => 3
  | .removed _ _ => 4

end StructuralChange

/-- Structural data from a current topology to a desired one. -/
structure GraphDiff where
  currentGraphName : String
  desiredGraphName : String
  changes : List StructuralChange

/-! ## Which descriptors have a JSON text -/

/-- What of a value can lack a JSON text: its redacted metadata and its redacted
encoded specification. -/
def DiffValue.isRenderable : DiffValue → Bool
  | .metadata values => PyValue.isRenderableEntries (redactMapping values)
  | .blockSpec _ encoded => PyValue.isRenderableEntries (redactMapping encoded)
  | .node value encoded =>
      PyValue.isRenderableEntries (redactMapping encoded) &&
        PyValue.isRenderableEntries (redactMapping value.metadata)
  | _ => true

/-- Whether `json.dumps` has a text for the change's descriptor. -/
def StructuralChange.isRenderable (change : StructuralChange) : Bool :=
  change.values.all (·.isRenderable)

section Renderable

open PyValue (isRenderable isRenderableEntries isRenderableEntries_iff isRenderableItems
  isRenderableItems_iff)

/-- A list of renderable descriptors is renderable. -/
theorem isRenderable_list_map {α : Type} {f : α → PyValue} {values : List α}
    (h : ∀ a ∈ values, isRenderable (f a) = true) :
    isRenderable (.list (values.map f)) = true := by
  rw [isRenderable, isRenderableItems_iff, List.forall_mem_map]
  exact h

/-- Texts are rendered. -/
theorem isRenderable_texts (values : List String) :
    isRenderable (texts values) = true :=
  isRenderable_list_map fun _ _ => by simp [isRenderable]

/-- So are lifecycles. -/
theorem isRenderable_lifecycle (lifecycle : ResourceLifecycle) :
    isRenderableEntries lifecycle.entries = true := by
  have hdata : isRenderable (.list (lifecycle.data.map (·.descriptor))) = true :=
    isRenderable_list_map fun _ _ => by
      simp [DataResourceSpec.descriptor, isRenderable, isRenderableEntries]
  simp only [ResourceLifecycle.entries, isRenderableEntries, hdata]
  simp [isRenderable]

theorem isRenderable_protocol (protocol : Protocol) :
    isRenderable protocol.descriptor = true := by
  simp [Protocol.descriptor, isRenderable, isRenderableEntries]

theorem isRenderable_environmentBindings (values : List EnvironmentBinding) :
    isRenderable (environmentBindingsDescriptor values) = true := by
  apply isRenderable_list_map
  intro binding _
  cases binding <;>
    simp [environmentBindingDescriptor, isRenderable, isRenderableEntries, redacted]

theorem isRenderable_configurationArtifacts (values : List ConfigurationArtifact) :
    isRenderable (configurationArtifactsDescriptor values) = true := by
  apply isRenderable_list_map
  intro artifact _
  simp [ConfigurationArtifact.descriptor, isRenderable, isRenderableEntries]

/-- A delivery is rendered when its reference is. -/
theorem isRenderable_deliveryEntries {referenceId : PyValue}
    (h : isRenderable referenceId = true) (delivery : SecretDelivery) :
    isRenderableEntries (delivery.entries referenceId) = true := by
  cases delivery with
  | environment name reference intent =>
      simp [SecretDelivery.entries, isRenderable, isRenderableEntries, h]
  | environmentReference name reference =>
      simp [SecretDelivery.entries, isRenderable, isRenderableEntries, h]
  | file path reference intent pathBinding =>
      cases pathBinding <;>
        simp [SecretDelivery.entries, isRenderable, isRenderableEntries, h]

theorem isRenderable_secretDeliveries (values : List SecretDelivery) :
    isRenderable (secretDeliveriesDescriptor values) = true := by
  apply isRenderable_list_map
  intro delivery _
  have hentries := @isRenderable_deliveryEntries redacted (by rfl) delivery
  rw [secretDeliveryDiffDescriptor, isRenderable, isRenderableEntries_iff]
  intro entry hentry
  rcases List.mem_append.mp hentry with h | h
  · exact isRenderableEntries_iff.mp hentries entry h
  · rw [List.mem_singleton.mp h]
    simp [isRenderable]

theorem isRenderable_verifierProjection (value : Option DelegationVerifierProjection) :
    isRenderable (verifierProjectionDescriptor value) = true := by
  cases value with
  | none => rfl
  | some projection =>
      have hkeys : isRenderable (.list (projection.publicKeys.map (·.descriptor))) =
          true :=
        isRenderable_list_map fun _ _ => by
          simp [DelegationPublicKey.descriptor, isRenderable, isRenderableEntries]
      rw [verifierProjectionDescriptor, isRenderable]
      simp only [isRenderableEntries, hkeys]
      simp [isRenderable]

theorem isRenderable_endpoint (endpoint : Endpoint) :
    isRenderable (endpointDescriptor endpoint) = true := by
  rw [endpointDescriptor, isRenderable]
  simp only [isRenderableEntries, isRenderable_protocol]
  cases endpoint.address <;> simp [isRenderable, isRenderableEntries, redacted]

theorem isRenderable_providers (sockets : BlockSockets) :
    isRenderable (providersDescriptor sockets) = true := by
  apply isRenderable_list_map
  intro socket _
  simp [isRenderable, isRenderableEntries, isRenderable_protocol]

theorem isRenderable_requirements (sockets : BlockSockets) :
    isRenderable (requirementsDescriptor sockets) = true := by
  apply isRenderable_list_map
  intro socket _
  have hdeliveries :
      isRenderableItems (socket.secretDeliveries.map (·.descriptor)) = true := by
    rw [isRenderableItems_iff, List.forall_mem_map]
    intro delivery _
    rw [SecretDelivery.descriptor, isRenderable]
    exact isRenderable_deliveryEntries (by simp [isRenderable]) delivery
  rw [requirementDescriptor, isRenderable]
  split <;>
    simp [isRenderable, isRenderableEntries, isRenderable_protocol, isRenderable_texts,
      hdeliveries]

mutual

/-- Redaction never introduces a value without a JSON text. -/
theorem isRenderable_redactValue (key : String) :
    ∀ value : PyValue, isRenderable value =
      true → isRenderable (redactValue key value) = true
  | .dict entries, h => by
      rw [redactValue]
      split
      · rfl
      · simp only [isRenderable] at h ⊢
        exact isRenderable_redactMapping entries h
  | .list items, h => by
      rw [redactValue]
      split
      · rfl
      · simp only [isRenderable] at h ⊢
        exact isRenderable_redactItems key items h
  | .tuple items, h => by
      rw [redactValue]
      split
      · rfl
      · simp only [isRenderable] at h ⊢
        exact isRenderable_redactItems key items h
  | .none, h | .bool _, h | .int _, h | .float _, h | .str _, h | .object _ _, h => by
      simp only [redactValue]
      split
      · rfl
      · exact h

/-- Redaction makes nothing unrenderable, item by item. -/
theorem isRenderable_redactItems (key : String) :
    ∀ items : List PyValue, isRenderableItems items = true →
      isRenderableItems (redactItems key items) = true
  | [], _ => rfl
  | v :: vs, h => by
      rw [isRenderableItems, Bool.and_eq_true] at h
      rw [redactItems, isRenderableItems, isRenderable_redactValue key v h.1,
        isRenderable_redactItems key vs h.2, Bool.and_self]

/-- **Redaction makes nothing unrenderable.** -/
theorem isRenderable_redactMapping :
    ∀ entries : PyDict, isRenderableEntries entries = true →
      isRenderableEntries (redactMapping entries) = true
  | [], _ => rfl
  | (k, v) :: es, h => by
      rw [isRenderableEntries, Bool.and_eq_true] at h
      rw [redactMapping, isRenderableEntries, isRenderable_redactValue k v h.1,
        isRenderable_redactMapping es h.2, Bool.and_self]

end

theorem isRenderable_textEntries (values : TextMap String) :
    isRenderableEntries (textEntries values) = true := by
  rw [textEntries, isRenderableEntries_iff, List.forall_mem_map]
  exact fun _ _ => by simp [isRenderable]

/-- Whatever a runtime holds is rendered. -/
theorem isRenderable_runtime (runtime : RuntimeRecord) :
    isRenderable (runtimeDescriptor runtime) = true := by
  have hmetadata :=
    isRenderable_redactMapping _ (isRenderable_textEntries runtime.metadata)
  rw [runtimeDescriptor, isRenderable]
  simp only [isRenderableEntries, isRenderable, isRenderable_texts, hmetadata,
    isRenderable_lifecycle, Bool.and_self]

/-- Whatever an edge holds is rendered. -/
theorem isRenderable_edge (edge : Edge) :
    isRenderable (edgeDescriptor edge) = true := by
  have hassignments : isRenderableEntries
      (edge.envAssignments.keys.map fun name => (name, redacted)) = true := by
    rw [isRenderableEntries_iff, List.forall_mem_map]
    exact fun _ _ => rfl
  rw [edgeDescriptor, isRenderable]
  simp only [isRenderableEntries, isRenderable, isRenderable_protocol, hassignments,
    Bool.and_self]

/-- **A node is rendered when its block and its metadata are**: the rest of it always
is. -/
theorem isRenderable_node (node : Node) (encoded : PyDict) :
    isRenderable (nodeDescriptor node encoded) =
      (isRenderableEntries (redactMapping encoded) &&
        isRenderableEntries (redactMapping node.metadata)) := by
  have hendpoints : isRenderableEntries (node.endpoints.toList.map fun entry =>
      (entry.1, endpointDescriptor entry.2)) = true := by
    rw [isRenderableEntries_iff, List.forall_mem_map]
    exact fun entry _ => isRenderable_endpoint entry.2
  rw [nodeDescriptor, isRenderable]
  simp only [isRenderableEntries, isRenderable, isRenderable_providers,
    isRenderable_requirements, hendpoints, isRenderable_environmentBindings,
    isRenderable_lifecycle, isRenderable_configurationArtifacts,
    isRenderable_secretDeliveries, isRenderable_verifierProjection, Bool.true_and,
    Bool.and_true]

/-- A value is rendered just when its open parts are. -/
theorem DiffValue.isRenderable_descriptor (value : DiffValue) :
    PyValue.isRenderable value.descriptor = value.isRenderable := by
  cases value with
  | text value => rfl
  | stringTuple values => exact isRenderable_texts values
  | metadata values => rfl
  | environmentBindings values => exact isRenderable_environmentBindings values
  | configurationArtifacts values => exact isRenderable_configurationArtifacts values
  | secretDeliveries values => exact isRenderable_secretDeliveries values
  | delegationVerifierProjection value => exact isRenderable_verifierProjection value
  | endpoint endpoint => exact isRenderable_endpoint endpoint
  | socketContract sockets =>
      simp [DiffValue.descriptor, PyValue.isRenderable, isRenderableEntries,
        isRenderable_providers, isRenderable_requirements, DiffValue.isRenderable]
  | blockSpec spec encoded => rfl
  | runtime runtime => exact isRenderable_runtime runtime
  | node node encoded => exact isRenderable_node node encoded
  | edge edge => exact isRenderable_edge edge
  | publicIngress ingress =>
      simp [DiffValue.descriptor, NamedPublicIngress.descriptor, PyValue.isRenderable,
        isRenderableEntries, DiffValue.isRenderable]

/-- What a change is about is always rendered. -/
theorem DiffSubject.isRenderable_descriptor (subject : DiffSubject) :
    PyValue.isRenderable subject.descriptor = true := by
  have howner : ∀ owner : DiffOwner, PyValue.isRenderable owner.descriptor = true := by
    intro owner
    cases owner <;> simp [DiffOwner.descriptor, PyValue.isRenderable,
      isRenderableEntries]
  cases subject with
  | graph => exact howner .graph
  | runtime runtimeId => exact howner (.runtime runtimeId)
  | node nodeId => exact howner (.node nodeId)
  | edge edgeId =>
      simp [DiffSubject.descriptor, PyValue.isRenderable, isRenderableEntries]
  | publicIngress ingressId => exact howner (.publicIngress ingressId)
  | field owner field key =>
      cases key <;>
        simp [DiffSubject.descriptor, PyValue.isRenderable, isRenderableEntries, howner]

/-- **A change has a JSON text** exactly when its free-form values do. -/
theorem StructuralChange.isRenderable_descriptor (change : StructuralChange) :
    PyValue.isRenderable change.descriptor = change.isRenderable := by
  cases change with
  | ambiguous subject reason before after =>
      cases before <;> cases after <;>
        simp [StructuralChange.descriptor, StructuralChange.optionalEntry,
          StructuralChange.isRenderable, StructuralChange.values, PyValue.isRenderable,
          isRenderableEntries, DiffSubject.isRenderable_descriptor,
          DiffValue.isRenderable_descriptor]
  | _ =>
      simp [StructuralChange.descriptor, StructuralChange.isRenderable,
        StructuralChange.values, PyValue.isRenderable, isRenderableEntries,
        DiffSubject.isRenderable_descriptor, DiffValue.isRenderable_descriptor]

end Renderable

end ControlPlaneKit.Topology
