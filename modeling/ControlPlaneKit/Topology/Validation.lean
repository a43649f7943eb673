import ControlPlaneKit.Library.Ordering
import ControlPlaneKit.Topology.Codec

/-!
# Validation — the findings on a compiled graph

`validate_graph` looks at runtimes, edges and nodes in identity order, then
asks whether the graph survives encoding and decoding.  A graph is valid when no
finding is an error.
-/

namespace ControlPlaneKit.Topology

open ControlPlaneKit.Library
open ControlPlaneKit.Library.Outcome (Succeeds)
open ControlPlaneKit.Library.Ordering (sorted sortedBy)
open ControlPlaneKit.Library.Text (isBlank)

/-! ## Findings -/

/-- Errors make a graph invalid. -/
inductive ValidationSeverity where
  | error
  | warning
  deriving DecidableEq, Repr

def ValidationSeverity.value : ValidationSeverity → String
  | .error => "error"
  | .warning => "warning"

/-- What a finding is about. -/
inductive ValidationCode where
  | invalidDescriptor
  | missingRuntime
  | runtimeOwnership
  | missingProviderEndpoint
  | undeclaredProviderEndpoint
  | endpointProtocol
  | missingRequiredConnection
  | unconnectedOptionalSocket
  | multipleRequirementConnections
  | edgeReference
  | edgeProtocol
  | edgeBinding
  | nodeControlSurface
  | duplicateProviderSocket
  | duplicateRequirementSocket
  | edgeEnvBindings
  | consumerEnvironment
  | verificationProvider
  | verificationProtocol
  | selfConnection
  deriving DecidableEq, Repr

def ValidationCode.value : ValidationCode → String
  | .invalidDescriptor => "invalid-descriptor"
  | .missingRuntime => "missing-runtime"
  | .runtimeOwnership => "runtime-ownership"
  | .missingProviderEndpoint => "missing-provider-endpoint"
  | .undeclaredProviderEndpoint => "undeclared-provider-endpoint"
  | .endpointProtocol => "endpoint-protocol"
  | .missingRequiredConnection => "missing-required-connection"
  | .unconnectedOptionalSocket => "unconnected-optional-socket"
  | .multipleRequirementConnections => "multiple-requirement-connections"
  | .edgeReference => "edge-reference"
  | .edgeProtocol => "edge-protocol"
  | .edgeBinding => "edge-binding"
  | .nodeControlSurface => "node-control-surface"
  | .duplicateProviderSocket => "duplicate-provider-socket"
  | .duplicateRequirementSocket => "duplicate-requirement-socket"
  | .edgeEnvBindings => "edge-env-bindings"
  | .consumerEnvironment => "consumer-environment"
  | .verificationProvider => "verification-provider"
  | .verificationProtocol => "verification-protocol"
  | .selfConnection => "self-connection"

/-- The two kinds of sockets of a node. -/
inductive SocketDirection where
  | provider
  | requirement
  deriving DecidableEq, Repr

def SocketDirection.value : SocketDirection → String
  | .provider => "provider"
  | .requirement => "requirement"

/-- Where a finding stands. -/
inductive ValidationSubject where
  | graph
  | runtime (runtimeId : String)
  | node (nodeId : String)
  | edge (edgeId : String)
  | socket (nodeId socketName : String) (direction : SocketDirection)
  deriving DecidableEq, Repr

/-- `sorted(subject.descriptor().items())`. -/
def ValidationSubject.items : ValidationSubject → List (String × String)
  | .graph => [("kind", "graph")]
  | .runtime runtimeId => [("kind", "runtime"), ("runtime_id", runtimeId)]
  | .node nodeId => [("kind", "node"), ("node_id", nodeId)]
  | .edge edgeId => [("edge_id", edgeId), ("kind", "edge")]
  | .socket nodeId socketName direction =>
      [ ("direction", direction.value), ("kind", "socket"), ("node_id", nodeId)
      , ("socket_name", socketName) ]

/-- One finding of a validation. -/
structure ValidationFinding where
  code : ValidationCode
  severity : ValidationSeverity
  subject : ValidationSubject
  message : String
  deriving DecidableEq, Repr

/-- **A graph with what was found in it.** -/
structure ValidatedGraph where
  graph : DeploymentGraph
  findings : List ValidationFinding
  codec : GraphDescriptorCodec

/-- The findings that are errors. -/
def ValidatedGraph.errors (validated : ValidatedGraph) : List ValidationFinding :=
  validated.findings.filter fun finding => finding.severity = .error

/-- Nothing that was found is an error. -/
def ValidatedGraph.valid (validated : ValidatedGraph) : Bool :=
  validated.errors.isEmpty

def errorFinding (code : ValidationCode) (subject : ValidationSubject)
    (message : String) : ValidationFinding :=
  ⟨code, .error, subject, message⟩

/-- An error finding when the condition holds. -/
def findingIf (condition : Bool) (code : ValidationCode) (subject : ValidationSubject)
    (message : String) : List ValidationFinding :=
  if condition then [errorFinding code subject message] else []

/-! ## The checks -/

section Checks

variable (repr : String → String) (graph : DeploymentGraph)

/-- A runtime names no node that is missing. -/
def runtimeFindings (entry : String × RuntimeRecord) : List ValidationFinding :=
  entry.2.children.flatMap fun child =>
    findingIf graph.nodes[child]?.isNone .runtimeOwnership (.runtime entry.1)
      ("runtime references missing node " ++ repr child)

/-- `owners.get(node_id, [])`. -/
def ownersOf (nodeId : String) : List String :=
  graph.runtimes.toList.flatMap fun entry =>
    (entry.2.children.filter (· = nodeId)).map fun _ => entry.1

/-- `requirement_edges.get((node_id, name), [])`. -/
def connectedEdges (nodeId name : String) : List String :=
  (graph.edges.toList.filter fun entry =>
    entry.2.consumerRole = nodeId && entry.2.requirementSocket = name).map (·.1)

/-- The nodes and sockets of an edge, each looked up in turn. -/
def edgeSockets (edge : Edge) :
    Except PyError (Node × Node × ProviderSocket × RequirementSocket) := do
  let providerNode ← graph.node repr edge.providerRole
  let consumerNode ← graph.node repr edge.consumerRole
  let provider ← providerNode.providerSocket repr edge.providerSocket
  let requirement ← consumerNode.requirementSocket repr edge.requirementSocket
  return (providerNode, consumerNode, provider, requirement)

/-- The same texts occur, in any order and any number. -/
def sameTexts (xs ys : List String) : Bool :=
  xs.all (fun x => decide (x ∈ ys)) && ys.all fun y => decide (y ∈ xs)

/-- An edge joins sockets that fit. -/
def edgeFindings (entry : String × Edge) : List ValidationFinding :=
  let (edgeId, edge) := entry
  match edgeSockets repr graph edge with
  | .error error =>
      [errorFinding .edgeReference (.edge edgeId) (pyErrorText repr error)]
  | .ok (providerNode, consumerNode, provider, requirement) =>
      findingIf (edge.providerRole = edge.consumerRole) .selfConnection (.edge edgeId)
        "a node cannot satisfy its own requirement socket" ++
      findingIf (provider.protocol ≠ edge.protocol ||
        requirement.protocol ≠ edge.protocol) .edgeProtocol
        (.edge edgeId) "edge protocol does not match both connected sockets" ++
      findingIf (requirement.binding ≠ edge.binding) .edgeBinding (.edge edgeId)
        "edge binding does not match the consumer requirement contract" ++
      findingIf (!sameTexts edge.envAssignments.keys requirement.envBindings)
        .edgeEnvBindings (.edge edgeId)
        "edge assignments must exactly cover requirement environment bindings" ++
      findingIf (providerNode.endpoints[provider.name]?.any fun endpoint =>
          edge.envAssignments.toList.any fun assignment => assignment.2 ≠ endpoint.url)
        .edgeEnvBindings (.edge edgeId)
        "edge assignment values must equal the provider endpoint address" ++
      findingIf (edge.envAssignments.toList.any fun assignment =>
          (consumerNode.socketEnvironment.find? fun binding =>
            binding.name = assignment.1).map (·.value) ≠ some assignment.2)
        .consumerEnvironment (.edge edgeId)
        "consumer environment must contain the edge assignments" ++
      findingIf (consumerNode.socketEnvironment.any fun binding =>
          edge.envAssignments[binding.name]?.isSome && binding.edgeId ≠ edgeId)
        .consumerEnvironment (.edge edgeId)
        "consumer socket environment must retain its producing edge"

/-- A binding from a socket names the edge that produced it. -/
def environmentFindings (nodeId : String) (node : Node) : List ValidationFinding :=
  node.socketEnvironment.flatMap fun binding =>
    findingIf
      (match graph.edges[binding.edgeId]? with
        | none => true
        | some source =>
            source.consumerRole ≠ nodeId ||
              source.envAssignments[binding.name]? ≠ some binding.value)
      .consumerEnvironment (.node nodeId)
      "socket environment binding must identify its exact producing edge"

/-- The names that occur more than once, sorted. -/
def repeatedNames (names : List String) : List String :=
  sorted ((names.filter fun name => 1 < names.count name).dedup)

def socketNameFindings (nodeId : String) (node : Node) : List ValidationFinding :=
  let providers := node.sockets.providers.map (·.name)
  let requirements := node.sockets.requirements.map (·.name)
  ((repeatedNames providers).map fun name =>
    errorFinding .duplicateProviderSocket (.socket nodeId name .provider)
      "provider socket name must be unique within its node") ++
  ((repeatedNames requirements).map fun name =>
    errorFinding .duplicateRequirementSocket (.socket nodeId name .requirement)
      "requirement socket name must be unique within its node") ++
  ((node.endpoints.keys.filter fun name => name ∉ providers).map fun name =>
    errorFinding .undeclaredProviderEndpoint (.socket nodeId name .provider)
      "compiled endpoint has no declared provider socket")

def endpointFindings (nodeId : String) (node : Node) : List ValidationFinding :=
  node.sockets.providers.flatMap fun provider =>
    match node.endpoints[provider.name]? with
    | none =>
        [errorFinding .missingProviderEndpoint (.socket nodeId provider.name .provider)
          "provider socket has no compiled endpoint"]
    | some endpoint =>
        findingIf (endpoint.protocol ≠ provider.protocol) .endpointProtocol
          (.socket nodeId provider.name .provider)
          "endpoint protocol does not match provider socket"

def connectionFindings (nodeId : String) (node : Node) : List ValidationFinding :=
  node.sockets.requirements.flatMap fun requirement =>
    let subject := ValidationSubject.socket nodeId requirement.name .requirement
    match connectedEdges graph nodeId requirement.name with
    | _ :: _ :: _ =>
        [errorFinding .multipleRequirementConnections subject
          "requirement socket has multiple provider connections"]
    | [_] => []
    | [] =>
        if requirement.required then
          [errorFinding .missingRequiredConnection subject
            "required socket is not connected"]
        else
          [⟨.unconnectedOptionalSocket, .warning, subject,
            "optional socket is not connected"⟩]

def surfaceFindings (nodeId : String) (node : Node) : List ValidationFinding :=
  node.blockSpec.controlSurfaces.flatMap fun surface =>
    let subject := ValidationSubject.socket nodeId surface.providerSocketName .provider
    match node.sockets.provider surface.providerSocketName with
    | none =>
        [errorFinding .nodeControlSurface subject
          "node-control surface references a missing provider socket"]
    | some provider =>
        findingIf (provider.protocol ≠ .http) .nodeControlSurface subject
          "node-control surface provider socket must use HTTP"

/-- A check names a provider socket that speaks one of its protocols. -/
def verificationFindings (nodeId : String) (node : Node) : List ValidationFinding :=
  node.blockSpec.verification.flatMap fun check =>
    let subject := ValidationSubject.socket nodeId check.providerSocket .provider
    match node.sockets.provider check.providerSocket with
    | none =>
        [errorFinding .verificationProvider subject
          ("verification check " ++ repr check.checkId ++
            " references a missing provider socket")]
    | some provider =>
        findingIf (provider.protocol ∉ expectedProtocols check) .verificationProtocol
            subject ("verification check " ++ repr check.checkId ++
            " is incompatible with the provider protocol")

/-- All findings of a node, in the source's order. -/
def nodeFindings (entry : String × Node) : List ValidationFinding :=
  let (nodeId, node) := entry
  environmentFindings graph nodeId node ++
  findingIf graph.runtimes[node.runtimeId]?.isNone .missingRuntime (.node nodeId)
    ("node references missing runtime " ++ repr node.runtimeId) ++
  findingIf (ownersOf graph nodeId ≠ [node.runtimeId]) .runtimeOwnership (.node nodeId)
    "node must belong to exactly its declared runtime" ++
  socketNameFindings nodeId node ++ endpointFindings nodeId node ++
  connectionFindings graph nodeId node ++ surfaceFindings nodeId node ++
  verificationFindings repr nodeId node

/-- `_finding_key`. -/
def findingKey (finding : ValidationFinding) : List String :=
  [ finding.severity.value, finding.code.value
  , "[" ++ ", ".intercalate (finding.subject.items.map fun item =>
      "(" ++ repr item.1 ++ ", " ++ repr item.2 ++ ")") ++ "]"
  , finding.message ]

/-- The finding of the encoding round trip; an error that is no descriptor
error escapes. -/
def descriptorFindings (codec : GraphDescriptorCodec) :
    Except GraphError (List ValidationFinding) :=
  match decodeEncoded repr codec graph with
  | .ok () => .ok []
  | .error error =>
      if error.caught then
        .ok [errorFinding .invalidDescriptor .graph (error.text repr)]
      else .error error

/-- `validate_graph(graph, codec=codec)`. -/
def validateGraph (codec : GraphDescriptorCodec) :
    Except GraphError ValidatedGraph := do
  let findings := graph.runtimes.toList.flatMap (runtimeFindings repr graph) ++
    graph.edges.toList.flatMap (edgeFindings repr graph) ++
    graph.nodes.toList.flatMap (nodeFindings repr graph)
  let descriptor ← descriptorFindings repr graph codec
  return { graph, findings := sortedBy (findingKey repr) (findings ++
    descriptor), codec }

end Checks

/-! ## What a valid graph guarantees -/

/-- `validate_graph(graph, codec=codec).valid`. -/
def IsValid (repr : String → String) (codec : GraphDescriptorCodec)
    (graph : DeploymentGraph) (validated : ValidatedGraph) : Prop :=
  validateGraph repr graph codec = .ok validated ∧ validated.valid = true

variable {repr : String → String} {codec : GraphDescriptorCodec}
  {graph : DeploymentGraph} {validated : ValidatedGraph}

/-- What `validate_graph` returns: the graph, the codec, and among the findings
those of the encoding round trip. -/
theorem validateGraph_eq_ok (h : validateGraph repr graph codec = .ok validated) :
    validated.graph = graph ∧ validated.codec = codec ∧
      ∃ descriptor, descriptorFindings repr graph codec = .ok descriptor ∧
        ∀ finding ∈ descriptor, finding ∈ validated.findings := by
  obtain ⟨descriptor, hdescriptor, hrest⟩ := EventFold.bind_ok.mp h
  cases hrest
  refine ⟨rfl, rfl, descriptor, hdescriptor, fun finding hfinding => ?_⟩
  rw [Ordering.mem_sortedBy]
  exact List.mem_append_right _ hfinding

/-- A validation keeps its graph. -/
theorem IsValid.graph_eq (h : IsValid repr codec graph validated) :
    validated.graph = graph :=
  (validateGraph_eq_ok h.1).1

theorem IsValid.codec_eq (h : IsValid repr codec graph validated) :
    validated.codec = codec :=
  (validateGraph_eq_ok h.1).2.1

/-- A valid graph has no error finding. -/
theorem ValidatedGraph.severity_of_valid (h : validated.valid = true)
    {finding : ValidationFinding} (hmem : finding ∈ validated.findings) :
    finding.severity ≠ .error := by
  intro herror
  rw [valid, List.isEmpty_iff, errors, List.filter_eq_nil_iff] at h
  exact h finding hmem (by simp [herror])

/-- A valid graph reads back. -/
theorem IsValid.decodeEncoded (h : IsValid repr codec graph validated) :
    decodeEncoded repr codec graph = .ok () := by
  obtain ⟨-, -, descriptor, hdescriptor, hsub⟩ := validateGraph_eq_ok h.1
  unfold descriptorFindings at hdescriptor
  split at hdescriptor
  · assumption
  · rename_i error _
    split at hdescriptor
    · cases hdescriptor
      have := ValidatedGraph.severity_of_valid h.2 (hsub _ (List.mem_singleton_self _))
      simp [errorFinding] at this
    · cases hdescriptor

/-- The nodes of a valid graph have descriptors. -/
theorem IsValid.encodable (h : IsValid repr codec graph validated) {nodeId : String}
    {node : Node} (hnode : graph.nodes[nodeId]? = some node) :
    Succeeds (codec.encodeBlockSpec node.blockSpec) :=
  encodable_of_decodeEncoded h.decodeEncoded hnode

/-- A valid graph has its members under their own names. -/
theorem IsValid.keyed (h : IsValid repr codec graph validated) : Keyed graph :=
  keyed_of_decodeEncoded h.decodeEncoded

/-! ## Small graphs

Graphs to evaluate on: a node has neither sockets nor material unless given, and
the `repr` of a text is the one of texts without escapes. -/

def sampleNode (nodeId runtimeId : String) (lifecycle : ResourceLifecycle) : Node where
  nodeId := nodeId
  blockFamily := .application
  blockSpec := ⟨"BlockSpec", nodeId, none, none, [], [], ∅, [], [], rfl⟩
  kind := "process"
  runtimeId := runtimeId
  sockets := ⟨[], []⟩
  endpoints := ∅
  publicEnvironment := []
  socketEnvironment := []
  metadata := []
  lifecycle := lifecycle
  configurationArtifacts := []
  secretDeliveries := []
  delegationVerifierProjection := none
  metadataKeyed := rfl
  metadataEnvironmentFree := by simp
  artifactsUnique := by simp
  deliveriesUnique := by simp
  environmentNamesUnique := by simp

/-- A node with one provider socket, at a literal address. -/
def sampleProvider (nodeId runtimeId socket url : String)
    (nonempty : isBlank url = false) : Node :=
  { sampleNode nodeId runtimeId .ownedEphemeral with
    sockets := ⟨[], [⟨socket, .http⟩]⟩
    endpoints := Std.ExtTreeMap.ofList
      [(socket, (⟨.literal url nonempty, .http, .privateScope⟩ : Endpoint))] }

/-- A node with one requirement socket, bound through its environment. -/
def sampleConsumer (nodeId runtimeId url edgeId : String) : Node :=
  { sampleNode nodeId runtimeId .ownedEphemeral with
    sockets := ⟨[⟨"api", .http, ["API_URL"], true, .environment, [], by simp⟩], []⟩
    socketEnvironment := [⟨"API_URL", url, edgeId⟩]
    environmentNamesUnique := by simp [sampleNode] }

/-- The edge from a sample provider to a sample consumer. -/
def sampleEdge (edgeId provider socket consumer url : String) : Edge :=
  ⟨edgeId, provider, socket, consumer, "api", .http, .environment,
    Std.ExtTreeMap.ofList [("API_URL", url)]⟩

def sampleRuntime (runtimeId : String) (children : List String)
    (lifecycle : ResourceLifecycle) : RuntimeRecord :=
  ⟨runtimeId, .docker, children, ∅, lifecycle, none⟩

/-- A graph of members with distinct identities. -/
def sampleGraph (nodes : List Node) (edges : List Edge)
    (runtimes : List RuntimeRecord) : DeploymentGraph where
  name := "sample"
  nodes := Std.ExtTreeMap.ofList (nodes.map fun node => (node.nodeId, node))
  edges := Std.ExtTreeMap.ofList (edges.map fun edge => (edge.edgeId, edge))
  runtimes :=
    Std.ExtTreeMap.ofList (runtimes.map fun runtime => (runtime.runtimeId, runtime))
  publicIngresses := []
  delegationAuthorities := []
  ingressesUnique := by simp
  authoritiesUnique := by simp
  authoritiesSorted := by simp

/-- The nodes of a small graph. -/
theorem sampleGraph_node {nodes : List Node} {edges : List Edge}
    {runtimes : List RuntimeRecord} (hids : (nodes.map (·.nodeId)).Nodup)
    {nodeId : String} {node : Node} :
    (sampleGraph nodes edges runtimes).nodes[nodeId]? = some node ↔
      node ∈ nodes ∧ node.nodeId = nodeId := by
  rw [sampleGraph, KeyedMap.getElem?_ofList
    (by rw [List.map_map]; exact hids), List.mem_map]
  simp [Prod.ext_iff, and_comm]

theorem sampleGraph_edge {nodes : List Node} {edges : List Edge}
    {runtimes : List RuntimeRecord} (hids : (edges.map (·.edgeId)).Nodup)
    {edgeId : String} {edge : Edge} :
    (sampleGraph nodes edges runtimes).edges[edgeId]? = some edge ↔
      edge ∈ edges ∧ edge.edgeId = edgeId := by
  rw [sampleGraph, KeyedMap.getElem?_ofList
    (by rw [List.map_map]; exact hids), List.mem_map]
  simp [Prod.ext_iff, and_comm]

theorem sampleGraph_runtime {nodes : List Node} {edges : List Edge}
    {runtimes : List RuntimeRecord} (hids : (runtimes.map (·.runtimeId)).Nodup)
    {runtimeId : String} {runtime : RuntimeRecord} :
    (sampleGraph nodes edges runtimes).runtimes[runtimeId]? = some runtime ↔
      runtime ∈ runtimes ∧ runtime.runtimeId = runtimeId := by
  rw [sampleGraph, KeyedMap.getElem?_ofList
    (by rw [List.map_map]; exact hids), List.mem_map]
  simp [Prod.ext_iff, and_comm]

/-- Both graphs validate under the default codec, and the check holds of them. -/
def checkValidated (current desired : DeploymentGraph)
    (check : ValidatedGraph → ValidatedGraph → Bool) : Bool :=
  match validateGraph plainRepr current defaultGraphCodec,
    validateGraph plainRepr desired defaultGraphCodec with
  | .ok currentValid, .ok desiredValid =>
      currentValid.valid && desiredValid.valid && check currentValid desiredValid
  | _, _ => false

/-- Two small graphs that evaluate to valid ones are valid. -/
theorem exists_validated {current desired : DeploymentGraph}
    {check : ValidatedGraph → ValidatedGraph → Bool}
    (h : checkValidated current desired check = true) :
    ∃ currentValid desiredValid,
      IsValid plainRepr defaultGraphCodec current currentValid ∧
      IsValid plainRepr defaultGraphCodec desired desiredValid ∧
      check currentValid desiredValid = true := by
  unfold checkValidated at h
  split at h
  · rename_i hcurrent hdesired
    rw [Bool.and_eq_true, Bool.and_eq_true] at h
    exact ⟨_, _, ⟨hcurrent, h.1.1⟩, ⟨hdesired, h.1.2⟩, h.2⟩
  · cases h

end ControlPlaneKit.Topology
