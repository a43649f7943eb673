import ControlPlaneKit.Topology.Validation

/-!
# Fitting — what the findings on an edge say

An edge without a finding joins two sockets of its protocol and binding, its
assignments cover the environment bindings of the requirement, and the consumer
carries each of them with the edge as its producer.
-/

namespace ControlPlaneKit.Topology

open ControlPlaneKit.Library
open ControlPlaneKit.Library.EventFold (bind_ok)

/-- **An edge that fits** the sockets and the environment at its two ends. -/
structure Fits (graph : DeploymentGraph) (edgeId : String) (edge : Edge)
    (providerNode consumerNode : Node) (provider : ProviderSocket)
    (requirement : RequirementSocket) : Prop where
  atProvider : graph.nodes[edge.providerRole]? = some providerNode
  atConsumer : graph.nodes[edge.consumerRole]? = some consumerNode
  provides : providerNode.sockets.provider edge.providerSocket = some provider
  requires : consumerNode.sockets.requirement edge.requirementSocket = some requirement
  protocols : provider.protocol = edge.protocol ∧ requirement.protocol = edge.protocol
  binding : requirement.binding = edge.binding
  names : ∀ name, name ∈ edge.envAssignments ↔ name ∈ requirement.envBindings
  addresses : ∀ endpoint, providerNode.endpoints[provider.name]? = some endpoint →
    ∀ (name value : String), edge.envAssignments[name]? = some value →
    value = endpoint.url
  carried : ∀ (name value : String), edge.envAssignments[name]? = some value →
    (consumerNode.socketEnvironment.find? fun binding => binding.name =
      name).map (·.value) =
      some value
  produced : ∀ binding ∈ consumerNode.socketEnvironment,
    binding.name ∈ edge.envAssignments → binding.edgeId = edgeId

section Findings

variable {repr : String → String} {graph : DeploymentGraph}
  {edgeId : String} {edge : Edge}

theorem mem_findingIf {condition : Bool} {code : ValidationCode}
    {subject : ValidationSubject} {message : String} {finding : ValidationFinding} :
    finding ∈ findingIf condition code subject message ↔
      condition = true ∧ finding = errorFinding code subject message := by
  unfold findingIf
  split <;> simp_all

theorem sameTexts_iff {xs ys : List String} :
    sameTexts xs ys = true ↔ ∀ text, text ∈ xs ↔ text ∈ ys := by
  simp only [sameTexts, Bool.and_eq_true, List.all_eq_true, decide_eq_true_eq]
  exact ⟨fun h text => ⟨h.1 text, h.2 text⟩, fun h =>
    ⟨fun x => (h x).mp, fun x => (h x).mpr⟩⟩

/-- The four lookups of an edge. -/
theorem edgeSockets_eq_ok {providerNode consumerNode : Node} {provider : ProviderSocket}
    {requirement : RequirementSocket} :
    edgeSockets repr graph edge =
      .ok (providerNode, consumerNode, provider, requirement) ↔
      graph.nodes[edge.providerRole]? = some providerNode ∧
        graph.nodes[edge.consumerRole]? = some consumerNode ∧
        providerNode.sockets.provider edge.providerSocket = some provider ∧
        consumerNode.sockets.requirement edge.requirementSocket = some requirement := by
  have hnode : ∀ {nodeId : String} {node : Node},
      graph.node repr nodeId = .ok node ↔ graph.nodes[nodeId]? = some node := by
    intro nodeId node
    unfold DeploymentGraph.node
    split <;> simp_all
  have hprovider : ∀ {node : Node} {name : String} {socket : ProviderSocket},
      node.providerSocket repr name = .ok socket ↔
        node.sockets.provider name = some socket := by
    intro node name socket
    unfold Node.providerSocket
    split <;> simp_all
  have hrequirement : ∀ {node : Node} {name : String} {socket : RequirementSocket},
      node.requirementSocket repr name = .ok socket ↔
        node.sockets.requirement name = some socket := by
    intro node name socket
    unfold Node.requirementSocket
    split <;> simp_all
  simp only [edgeSockets, bind_ok, hnode, hprovider, hrequirement, pure, Except.pure,
    Except.ok.injEq, Prod.mk.injEq]
  constructor
  · rintro ⟨_, h₁, _, h₂, _, h₃, _, h₄, rfl, rfl, rfl, rfl⟩
    exact ⟨h₁, h₂, h₃, h₄⟩
  · rintro ⟨h₁, h₂, h₃, h₄⟩
    exact ⟨_, h₁, _, h₂, _, h₃, _, h₄, rfl, rfl, rfl, rfl⟩

/-- Whatever is found on an edge is an error. -/
theorem severity_of_mem_edgeFindings {finding : ValidationFinding}
    (h : finding ∈ edgeFindings repr graph (edgeId, edge)) :
    finding.severity = .error := by
  unfold edgeFindings at h
  dsimp only at h
  split at h
  · rw [List.mem_singleton.mp h]
    rfl
  · simp only [List.mem_append, mem_findingIf] at h
    rcases h with (((((⟨-, rfl⟩ | ⟨-, rfl⟩) | ⟨-, rfl⟩) | ⟨-, rfl⟩) | ⟨-, rfl⟩) |
      ⟨-, rfl⟩) | ⟨-, rfl⟩ <;> rfl

theorem forall_mem_findingIf {P : ValidationFinding → Prop} {condition : Bool}
    {code : ValidationCode} {subject : ValidationSubject} {message : String} :
    (∀ finding ∈ findingIf condition code subject message, P finding) ↔
      (condition = true → P (errorFinding code subject message)) := by
  simp only [mem_findingIf]
  exact ⟨fun h hcondition => h _ ⟨hcondition, rfl⟩, fun h _ hfinding =>
    hfinding.2 ▸ h hfinding.1⟩

/-- What is found on an edge whose sockets are there. -/
theorem fits_iff {providerNode consumerNode : Node} {provider : ProviderSocket}
    {requirement : RequirementSocket} (h : edgeSockets repr graph edge =
      .ok (providerNode, consumerNode, provider, requirement)) :
    Fits graph edgeId edge providerNode consumerNode provider requirement ↔
      ∀ finding ∈ edgeFindings repr graph (edgeId, edge),
        finding.code = .selfConnection := by
  obtain ⟨hprovider, hconsumer, hprovides, hrequires⟩ := edgeSockets_eq_ok.mp h
  simp only [edgeFindings, h, List.forall_mem_append, forall_mem_findingIf,
    errorFinding, reduceCtorEq, imp_false, implies_true, true_and, Bool.or_eq_true,
    decide_eq_true_eq, Bool.not_eq_true', Bool.not_eq_false, sameTexts_iff,
    Option.any_eq_true, List.any_eq_true, Bool.and_eq_true, Prod.exists,
    KeyedMap.mem_toList, not_or, not_not, not_exists, not_and, Std.ExtTreeMap.mem_keys,
    Std.ExtTreeMap.isSome_getElem?_iff_mem]
  constructor
  · intro hfits
    refine ⟨⟨⟨⟨⟨hfits.protocols, hfits.binding⟩, hfits.names⟩, ?_⟩, hfits.carried⟩,
      hfits.produced⟩
    intro endpoint hendpoint name value hvalue
    exact hfits.addresses endpoint hendpoint name value hvalue
  · rintro ⟨⟨⟨⟨⟨hprotocols, hbinding⟩, hnames⟩, haddresses⟩, hcarried⟩, hproduced⟩
    exact ⟨hprovider, hconsumer, hprovides, hrequires, hprotocols, hbinding,
      hnames, haddresses, hcarried, hproduced⟩

variable {codec : GraphDescriptorCodec} {validated : ValidatedGraph}

/-- Nothing is found on an edge of a valid graph. -/
theorem IsValid.edgeFindings_eq_nil (h : IsValid repr codec graph validated)
    (hedge : graph.edges[edgeId]? = some edge) :
    edgeFindings repr graph (edgeId, edge) = [] := by
  rw [List.eq_nil_iff_forall_not_mem]
  intro finding hfinding
  obtain ⟨descriptor, -, hrest⟩ := bind_ok.mp h.1
  refine ValidatedGraph.severity_of_valid h.2 ?_ (severity_of_mem_edgeFindings hfinding)
  cases hrest
  rw [Ordering.mem_sortedBy]
  exact List.mem_append_left _ (List.mem_append_left _ (List.mem_append_right _
    (List.mem_flatMap.mpr ⟨_, KeyedMap.mem_toList.mpr hedge, hfinding⟩)))

/-- **Every edge of a valid graph fits.** -/
theorem IsValid.exists_fits (h : IsValid repr codec graph validated)
    (hedge : graph.edges[edgeId]? = some edge) :
    ∃ providerNode consumerNode provider requirement,
      Fits graph edgeId edge providerNode consumerNode provider requirement := by
  have hnil := h.edgeFindings_eq_nil hedge
  cases hsockets : edgeSockets repr graph edge with
  | error error => simp [edgeFindings, hsockets] at hnil
  | ok sockets =>
      refine ⟨_, _, _, _, (fits_iff hsockets).mpr fun finding hfinding => ?_⟩
      rw [hnil] at hfinding
      cases hfinding

end Findings

end ControlPlaneKit.Topology
