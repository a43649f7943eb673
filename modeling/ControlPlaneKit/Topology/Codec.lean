import ControlPlaneKit.Topology.Graph

/-!
# Codec — what a graph must satisfy to be encoded and read back

A codec registers one variant for each class of block specifications.  Encoding
checks the references between graph members; decoding the encoded graph rereads
every text and rebuilds the graph, and must lose nothing.  `decodeEncoded` is
that composition, with the leaf values, which read back as themselves, left in
place.

`repr` is the host language's `repr` of a text, whose escapes depend on the
interpreter's character tables; it only reaches error messages.
-/

namespace ControlPlaneKit.Topology

open ControlPlaneKit.Library
open ControlPlaneKit.Library.Outcome (Succeeds collect succeeds_collect)
open ControlPlaneKit.Library.Text (isBlank)
open Std (ExtTreeMap)

/-! ## Errors -/

/-- `GraphDescriptorError` by subclass, or another exception. -/
inductive GraphError where
  | malformed (message : String)
  | unknownVariant (message : String)
  | invalidReference (message : String)
  | lossy (message : String)
  | other (error : PyError)
  deriving DecidableEq, Repr

/-- `str(error)`: a `KeyError` prints the `repr` of its argument. -/
def pyErrorText (repr : String → String) : PyError → String
  | .typeError message => message
  | .valueError message => message
  | .keyError message => repr message

def GraphError.text (repr : String → String) : GraphError → String
  | .malformed message => message
  | .unknownVariant message => message
  | .invalidReference message => message
  | .lossy message => message
  | .other error => pyErrorText repr error

/-- Whether `except (GraphDescriptorError, KeyError)` catches the error. -/
def GraphError.caught : GraphError → Bool
  | .other (.keyError _) => true
  | .other _ => false
  | _ => true

/-! ## Block specification codecs -/

/-- A registered variant.  `reread` is what decoding an encoded specification
gives back. -/
structure BlockSpecVariantCodec where
  variant : String
  specType : String
  codecType : String
  encode : BlockSpec → Except GraphError PyDict
  reread : BlockSpec → Except GraphError BlockSpec

def genericSpecDescriptor (spec : BlockSpec) : PyDict :=
  [ ("variant", .str "block")
  , ("role_id", .str spec.roleId)
  , ("display_name", optionalText spec.displayName)
  , ("health_path", optionalText spec.healthPath)
  , ("capabilities", .list (spec.capabilities.map (.str ·.value)))
  , ("verification", .dict [("checks", .list (spec.verification.map (·.descriptor)))])
  , ("metadata", PyValue.dict (textEntries spec.metadata)) ] ++
  (if spec.controlSurfaces.isEmpty then []
   else [("control_surfaces", .list (spec.controlSurfaces.map (·.descriptor)))])

/-- `GenericBlockSpecCodec`: reading back asks for a nonblank role. -/
def genericBlockSpecCodec : BlockSpecVariantCodec where
  variant := "block"
  specType := "BlockSpec"
  codecType := "GenericBlockSpecCodec"
  encode spec := .ok (genericSpecDescriptor spec)
  reread spec :=
    if isBlank spec.roleId then .error (.malformed "role_id must be a non-empty string")
    else .ok spec

/-- `GraphDescriptorCodec`: the generic variant and the registered ones, with
distinct variants and distinct classes. -/
structure GraphDescriptorCodec where
  registered : List BlockSpecVariantCodec
  variantsUnique : ((genericBlockSpecCodec :: registered).map (·.variant)).Nodup
  typesUnique : ((genericBlockSpecCodec :: registered).map (·.specType)).Nodup

def GraphDescriptorCodec.codecs (codec : GraphDescriptorCodec) :
    List BlockSpecVariantCodec :=
  genericBlockSpecCodec :: codec.registered

/-- `DEFAULT_GRAPH_CODEC`. -/
def defaultGraphCodec : GraphDescriptorCodec where
  registered := []
  variantsUnique := by simp
  typesUnique := by simp

namespace GraphDescriptorCodec

variable (codec : GraphDescriptorCodec)

/-- `self._by_type[type(spec)]`. -/
def specCodec (spec : BlockSpec) : Except GraphError BlockSpecVariantCodec :=
  match codec.codecs.find? fun entry => entry.specType = spec.specType with
  | some entry => .ok entry
  | none => .error (.unknownVariant ("unregistered block spec type " ++ spec.specType))

/-- `encode_block_spec(spec)`. -/
def encodeBlockSpec (spec : BlockSpec) : Except GraphError PyDict :=
  codec.specCodec spec >>= fun entry => entry.encode spec

/-- Whether two codecs admit the same closed specification variants and types. -/
def supportsSameBlockSpecsAs (other : GraphDescriptorCodec) : Bool :=
  let table (c : GraphDescriptorCodec) : TextMap (String × String) :=
    ExtTreeMap.ofList (c.codecs.map fun entry =>
      (entry.variant, entry.specType, entry.codecType))
  table codec = table other

theorem supportsSameBlockSpecsAs_self :
    codec.supportsSameBlockSpecsAs codec = true := by
  simp [supportsSameBlockSpecsAs]

end GraphDescriptorCodec

/-! ## References between graph members -/

section References

variable (repr : String → String)

/-- The `repr` of a tuple of texts. -/
def reprTuple : List String → String
  | [] => "()"
  | [value] => "(" ++ repr value ++ ",)"
  | values => "(" ++ ", ".intercalate (values.map repr) ++ ")"

/-- `graph.node(node_id)`. -/
def DeploymentGraph.node (graph : DeploymentGraph) (nodeId : String) :
    Except PyError Node :=
  match graph.nodes[nodeId]? with
  | some node => .ok node
  | none =>
      let available := ", ".intercalate graph.nodes.keys
      .error (.keyError ("missing node " ++ repr nodeId ++ "; available: " ++
        if available = "" then "<none>" else available))

/-- `node.provider_socket(name)`. -/
def Node.providerSocket (node : Node) (name : String) : Except PyError ProviderSocket :=
  match node.sockets.provider name with
  | some socket => .ok socket
  | none =>
      .error (.keyError ("no provider socket " ++ repr name ++ "; available: " ++
        reprTuple repr (node.sockets.providers.map (·.name))))

/-- `node.requirement_socket(name)`. -/
def Node.requirementSocket (node : Node) (name : String) :
    Except PyError RequirementSocket :=
  match node.sockets.requirement name with
  | some socket => .ok socket
  | none =>
      .error (.keyError ("no requirement socket " ++ repr name ++ "; available: " ++
        reprTuple repr (node.sockets.requirements.map (·.name))))

def guardGraph (condition : Bool) (error : GraphError) : Except GraphError Unit :=
  if condition then .error error else .ok ()

/-- An exception of a helper that the codec does not translate. -/
def uncaught {α : Type} (x : Except PyError α) : Except GraphError α :=
  x.mapError .other

/-- `except KeyError as error: raise InvalidGraphReference(str(error))`. -/
def asReference {α : Type} (x : Except PyError α) : Except GraphError α :=
  x.mapError fun error => .invalidReference (pyErrorText repr error)

/-- One runtime claims its children. -/
def claimChildren (graph : DeploymentGraph) (owners : TextMap String)
    (entry : String × RuntimeRecord) : Except GraphError (TextMap String) := do
  guardGraph (entry.1 ≠ entry.2.runtimeId)
    (.invalidReference "runtime map key does not match runtime_id")
  entry.2.children.foldlM (fun owners child => do
    guardGraph (graph.nodes[child]?.isNone)
      (.invalidReference
        ("runtime " ++ repr entry.1 ++ " references missing node " ++ repr child))
    guardGraph (owners[child]?.isSome)
      (.invalidReference ("node " ++ repr child ++ " belongs to multiple runtimes"))
    return owners.insert child entry.1) owners

def checkNodeReferences (graph : DeploymentGraph) (owners : TextMap String)
    (entry : String × Node) : Except GraphError Unit := do
  let (nodeId, node) := entry
  guardGraph (nodeId ≠ node.nodeId || node.blockSpec.roleId ≠ nodeId)
    (.invalidReference ("node identity mismatch for " ++ repr nodeId))
  guardGraph (graph.runtimes[node.runtimeId]?.isNone)
    (.invalidReference
      ("node " ++ repr nodeId ++ " references missing runtime " ++ repr node.runtimeId))
  guardGraph (owners[nodeId]? ≠ some node.runtimeId)
    (.invalidReference
      ("node " ++ repr nodeId ++ " is not owned by runtime " ++ repr node.runtimeId))
  node.endpoints.toList.forM fun (name, endpoint) => do
    let provider ← uncaught (node.providerSocket repr name)
    guardGraph (provider.protocol ≠ endpoint.protocol)
      (.invalidReference
        ("endpoint " ++ nodeId ++ "." ++ name ++ " protocol does not match provider"))

def checkEdgeReferences (graph : DeploymentGraph) (entry : String × Edge) :
    Except GraphError Unit := do
  let (edgeId, edge) := entry
  guardGraph (edgeId ≠ edge.edgeId)
    (.invalidReference ("edge key does not match edge_id " ++ repr edgeId))
  let providerNode ← asReference repr (graph.node repr edge.providerRole)
  let provider ← asReference repr (providerNode.providerSocket repr edge.providerSocket)
  let consumerNode ← asReference repr (graph.node repr edge.consumerRole)
  let requirement ← asReference repr
    (consumerNode.requirementSocket repr edge.requirementSocket)
  guardGraph (provider.protocol ≠ edge.protocol || requirement.protocol ≠ edge.protocol)
    (.invalidReference ("edge " ++ repr edgeId ++ " has incompatible protocol"))

def checkIngressReferences (graph : DeploymentGraph) (ingress : NamedPublicIngress) :
    Except GraphError Unit := do
  let target ← asReference repr (graph.node repr ingress.target.nodeId)
  let _ ← asReference repr (target.providerSocket repr ingress.target.providerSocket)
  let connector ← asReference repr (graph.node repr ingress.connectorNodeId)
  guardGraph (connector.runtimeId ≠ target.runtimeId)
    (.invalidReference
      ("public ingress " ++ repr ingress.ingressId ++
        " connector must share target runtime"))

def checkAuthority (graph : DeploymentGraph) (binding : DelegationAuthorityBinding) :
    Except GraphError Unit := do
  let node ← asReference repr (graph.node repr binding.delegateNodeId)
  guardGraph
    (node.delegationVerifierProjection.any fun projection =>
      projection.bindingIdentity ≠ binding.identity ||
        projection.issuer ≠ binding.issuer)
    (.invalidReference "delegation verifier projection does not match authored binding")

def checkProjection (graph : DeploymentGraph) (node : Node) : Except GraphError Unit :=
  guardGraph
    (node.delegationVerifierProjection.any fun projection =>
      projection.bindingIdentity ∉ graph.delegationAuthorities.map (·.identity))
    (.invalidReference "delegation verifier projection requires an authored binding")

/-- `GraphDescriptorCodec._validate(graph)`. -/
def checkGraph (graph : DeploymentGraph) : Except GraphError Unit := do
  guardGraph (isBlank graph.name) (.malformed "graph name must not be empty")
  let owners ← graph.runtimes.toList.foldlM (claimChildren repr graph) ∅
  graph.nodes.toList.forM (checkNodeReferences repr graph owners)
  graph.edges.toList.forM (checkEdgeReferences repr graph)
  graph.publicIngresses.forM (checkIngressReferences repr graph)
  graph.delegationAuthorities.forM (checkAuthority repr graph)
  graph.nodes.toList.forM fun entry => checkProjection graph entry.2

end References

/-! ## Reading an encoded graph back -/

/-- `_text(descriptor, key)` on a text. -/
def requireText (key text : String) : Except GraphError Unit :=
  guardGraph (isBlank text) (.malformed (key ++ " must be a non-empty string"))

/-- A mapping by name keeps the last socket of a name, and reads them back in
name order. -/
def socketsByName {α : Type} (name : α → String) (sockets : List α) : List α :=
  (ExtTreeMap.ofList (sockets.map fun socket => (name socket, socket)) : TextMap
    α).toList.map (·.2)

section Reread

variable (repr : String → String) (codec : GraphDescriptorCodec)

def decodeNode (entry : String × Node) : Except GraphError (String × Node) := do
  let (nodeId, node) := entry
  let specCodec ← codec.specCodec node.blockSpec
  let spec ← specCodec.reread node.blockSpec
  guardGraph (spec.roleId ≠ nodeId)
    (.invalidReference
      ("node key " ++ repr nodeId ++ " does not match block spec role " ++
      repr spec.roleId))
  requireText "kind" node.kind
  requireText "runtime_id" node.runtimeId
  return (nodeId, { node with
    blockSpec := spec
    sockets :=
      { requirements := socketsByName (·.name) node.sockets.requirements
        providers := socketsByName (·.name) node.sockets.providers } })

def decodeEdge (edge : Edge) : Except GraphError Unit := do
  requireText "role" edge.providerRole
  requireText "socket" edge.providerSocket
  requireText "role" edge.consumerRole
  requireText "requirement" edge.requirementSocket

/-- The encoded specifications, in node order. -/
def encodeSpecs (graph : DeploymentGraph) : Except GraphError (List PyDict) :=
  collect (graph.nodes.toList.map fun entry => codec.encodeBlockSpec entry.2.blockSpec)

/-- Only tuples inside metadata or an extension's descriptor read back as
something else. -/
def sameDescriptors (encoded reencoded : List PyDict)
    (graph : DeploymentGraph) : Bool :=
  (encoded.zip reencoded).all (fun pair =>
      PyValue.pyEq (.dict pair.2) (PyValue.jsonValue (.dict pair.1))) &&
    graph.nodes.toList.all fun entry =>
      PyValue.pyEq (.dict entry.2.metadata) (PyValue.jsonValue (.dict entry.2.metadata))

/-- `codec.decode(codec.encode(graph))`: the first error, if any. -/
def decodeEncoded (graph : DeploymentGraph) : Except GraphError Unit := do
  let encoded ← encodeSpecs codec graph
  checkGraph repr graph
  let nodes ← collect (graph.nodes.toList.map (decodeNode repr codec))
  graph.edges.toList.forM fun entry => decodeEdge entry.2
  let decoded := { graph with nodes := ExtTreeMap.ofList nodes }
  checkGraph repr decoded
  let reencoded ← encodeSpecs codec decoded
  checkGraph repr decoded
  guardGraph (!sameDescriptors encoded reencoded graph)
    (.lossy "descriptor does not round-trip through the typed graph codec")

end Reread

variable {repr : String → String} {codec : GraphDescriptorCodec}
  {graph : DeploymentGraph}

/-- A graph that reads back has encodable specifications. -/
theorem encodable_of_decodeEncoded (h : decodeEncoded repr codec graph = .ok ())
    {nodeId : String} {node : Node} (hnode : graph.nodes[nodeId]? = some node) :
    Succeeds (codec.encodeBlockSpec node.blockSpec) := by
  obtain ⟨encoded, hencoded, -⟩ := EventFold.bind_ok.mp h
  have hall := succeeds_collect.mp ⟨encoded, hencoded⟩
  apply hall
  exact List.mem_map.mpr ⟨(nodeId, node), KeyedMap.mem_toList.mpr hnode, rfl⟩

/-! ## What the references guarantee -/

theorem guardGraph_eq_ok {condition : Bool} {error : GraphError} :
    guardGraph condition error = .ok () ↔ condition = false := by
  cases condition <;> simp [guardGraph]

/-- Every member of the graph is filed under its own identity. -/
structure Keyed (graph : DeploymentGraph) : Prop where
  runtimes : ∀ (runtimeId : String) (runtime : RuntimeRecord),
    graph.runtimes[runtimeId]? = some runtime → runtime.runtimeId = runtimeId
  nodes : ∀ (nodeId : String) (node : Node),
    graph.nodes[nodeId]? = some node → node.nodeId = nodeId
  edges : ∀ (edgeId : String) (edge : Edge),
    graph.edges[edgeId]? = some edge → edge.edgeId = edgeId

/-- Claiming the children of runtimes asks each for its identity first. -/
theorem keyed_of_claimChildren {entries : List (String × RuntimeRecord)}
    {owners owners' : TextMap String}
    (h : entries.foldlM (claimChildren repr graph) owners = .ok owners') :
    ∀ entry ∈ entries, entry.2.runtimeId = entry.1 := by
  induction entries generalizing owners with
  | nil => simp
  | cons entry entries ih =>
      rw [List.foldlM_cons, EventFold.bind_ok] at h
      obtain ⟨_, hentry, hrest⟩ := h
      obtain ⟨_, hkey, -⟩ := EventFold.bind_ok.mp hentry
      have hkey : entry.1 = entry.2.runtimeId := by simpa using guardGraph_eq_ok.mp hkey
      exact List.forall_mem_cons.mpr ⟨hkey.symm, ih hrest⟩

theorem keyed_of_checkGraph (h : checkGraph repr graph = .ok ()) : Keyed graph := by
  simp only [checkGraph, EventFold.bind_ok] at h
  obtain ⟨_, -, owners, howners, _, hnodes, _, hedges, -⟩ := h
  refine ⟨fun runtimeId runtime hruntime => ?_, fun nodeId node hnode => ?_,
    fun edgeId edge hedge => ?_⟩
  · exact keyed_of_claimChildren howners (runtimeId, runtime)
      (KeyedMap.mem_toList.mpr hruntime)
  · have := Outcome.forM_eq_ok.mp hnodes (nodeId, node) (KeyedMap.mem_toList.mpr hnode)
    obtain ⟨_, hkey, -⟩ := EventFold.bind_ok.mp this
    have hkey := guardGraph_eq_ok.mp hkey
    simp only [Bool.or_eq_false_iff, decide_eq_false_iff_not, not_not] at hkey
    exact hkey.1.symm
  · have := Outcome.forM_eq_ok.mp hedges (edgeId, edge) (KeyedMap.mem_toList.mpr hedge)
    obtain ⟨_, hkey, -⟩ := EventFold.bind_ok.mp this
    have hkey : edgeId = edge.edgeId := by simpa using guardGraph_eq_ok.mp hkey
    exact hkey.symm

/-- A graph that reads back is filed by identity. -/
theorem keyed_of_decodeEncoded (h : decodeEncoded repr codec graph = .ok ()) :
    Keyed graph := by
  obtain ⟨_, -, hrest⟩ := EventFold.bind_ok.mp h
  obtain ⟨_, hcheck, -⟩ := EventFold.bind_ok.mp hrest
  exact keyed_of_checkGraph hcheck

end ControlPlaneKit.Topology
