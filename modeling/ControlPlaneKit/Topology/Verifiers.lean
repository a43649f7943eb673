import ControlPlaneKit.Library.Ordering
import ControlPlaneKit.Topology.Graph

/-!
# Verifiers — public verifier material on the nodes of a graph

A projection holds the public keys of one authored binding, in the order of their
identities.  Materializing projections for exactly the authored bindings puts
each on its delegate node, and leaves the rest of the graph alone.
-/

namespace ControlPlaneKit.Topology

open ControlPlaneKit.Library
open ControlPlaneKit.Library.EventFold (bind_ok run_nil run_cons)
open ControlPlaneKit.Library.KeyedMap (getElem?_insert)
open ControlPlaneKit.Library.Ordering (sortedBy mem_sortedBy sortedBy_perm)

structure DelegationAuthorityError where
  message : String
  deriving DecidableEq, Repr

def requireAuthority (condition : Bool) (message : String) :
    Except DelegationAuthorityError Unit :=
  if condition then .ok () else .error ⟨message⟩

theorem requireAuthority_eq_ok {condition : Bool} {message : String} {u : Unit} :
    requireAuthority condition message = .ok u ↔ condition = true := by
  cases condition <;> simp [requireAuthority]

/-- A letter, a digit, or one of `.`, `_`, `:`, `/` and `-`. -/
def isAuthorityTail (c : Char) : Bool :=
  Text.isIdentityTail c || c = '/'

/-- `_REFERENCE.fullmatch(value)`: an alphanumeric head and at most 255 more. -/
def isAuthorityReference (value : String) : Bool :=
  match value.toList with
  | [] => false
  | c :: cs => Text.isAsciiAlnum c && cs.all isAuthorityTail && decide (cs.length ≤ 255)

/-- Gluing tail characters to a reference keeps it one while the budget lasts. -/
theorem isAuthorityReference_append {head tail : String}
    (hhead : isAuthorityReference head = true)
    (htail : tail.toList.all isAuthorityTail = true)
    (hlength : head.length + tail.length ≤ 256) :
    isAuthorityReference (head ++ tail) = true := by
  rw [← String.length_toList, ← String.length_toList] at hlength
  rw [isAuthorityReference] at hhead ⊢
  rw [String.toList_append]
  cases hchars : head.toList with
  | nil => simp [hchars] at hhead
  | cons c cs =>
      simp only [hchars, Bool.and_eq_true, decide_eq_true_eq,
        List.length_cons] at hhead hlength
      simp only [List.cons_append, List.all_append, List.length_append, hhead.1, htail,
        Bool.and_true, decide_eq_true_eq, Bool.true_and]
      omega

theorem isAuthorityTail_of_isCanonicalIdentity {value : String}
    (h : Text.isCanonicalIdentity value = true) :
    value.toList.all isAuthorityTail = true := by
  rw [List.all_eq_true]
  intro c hc
  rw [isAuthorityTail, (Text.isCanonicalIdentity_chars h).1 c hc]
  rfl

/-- `_reference(value, name)`. -/
def authorityReference (value name : String) : Except DelegationAuthorityError Unit :=
  requireAuthority (isAuthorityReference value)
    ("delegation authority " ++ name ++ " must be a bounded reference")

/-- The constructor of `DelegationVerifierProjection`; its keys are all Ed25519. -/
def delegationVerifierProjection (delegateNodeId : String)
    (purpose : DelegationKeyPurpose) (issuer audience projectionId : String)
    (publicKeys : List DelegationPublicKey) :
    Except DelegationAuthorityError DelegationVerifierProjection := do
  authorityReference delegateNodeId "delegate_node_id"
  authorityReference issuer "issuer"
  authorityReference audience "audience"
  authorityReference projectionId "projection_id"
  let keys := sortedBy (fun key => [key.keyId]) publicKeys
  requireAuthority (keys ≠ [] && keys.length ≤ 16)
    "delegation verifier projection requires one to sixteen public keys"
  requireAuthority (keys.map (·.keyId)).Nodup
    "delegation verifier projection key ids must be unique"
  return {
    delegateNodeId := delegateNodeId
    purpose := purpose
    issuer := issuer
    audience := audience
    projectionId := projectionId
    publicKeys := keys }

/-- **What the constructor accepts, and builds.** -/
theorem delegationVerifierProjection_eq_ok
    {delegateNodeId issuer audience projectionId : String}
    {purpose : DelegationKeyPurpose} {publicKeys : List DelegationPublicKey}
    {projection : DelegationVerifierProjection} :
    delegationVerifierProjection delegateNodeId purpose issuer audience
      projectionId publicKeys =
        .ok projection ↔
      (isAuthorityReference delegateNodeId ∧ isAuthorityReference issuer ∧
        isAuthorityReference audience ∧ isAuthorityReference projectionId) ∧
      (publicKeys ≠ [] ∧ publicKeys.length ≤ 16) ∧ (publicKeys.map (·.keyId)).Nodup ∧
      projection = ⟨delegateNodeId, purpose, issuer, audience, projectionId,
        sortedBy (fun key => [key.keyId]) publicKeys⟩ := by
  have hperm := sortedBy_perm (fun key : DelegationPublicKey => [key.keyId]) publicKeys
  have hnil : sortedBy (fun key : DelegationPublicKey => [key.keyId]) publicKeys ≠ [] ↔
      publicKeys ≠ [] := not_congr Ordering.sortedBy_eq_nil
  simp only [delegationVerifierProjection, authorityReference, bind_ok,
    requireAuthority_eq_ok, Bool.and_eq_true, decide_eq_true_eq, exists_const, hnil,
    hperm.length_eq, (hperm.map (·.keyId)).nodup_iff]
  constructor
  · rintro ⟨hnode, hissuer, haudience, hprojection, hkeys, hnodup, h⟩
    cases h
    exact ⟨⟨hnode, hissuer, haudience, hprojection⟩, hkeys, hnodup, rfl⟩
  · rintro ⟨⟨hnode, hissuer, haudience, hprojection⟩, hkeys, hnodup, rfl⟩
    exact ⟨hnode, hissuer, haudience, hprojection, hkeys, hnodup, rfl⟩

/-- `_VERIFIER_ENVIRONMENT_NAMES`. -/
def verifierEnvironmentNames : List String :=
  [ "CPK_GATEWAY_PROBE_AUDIENCE", "CPK_GATEWAY_PROBE_ISSUER",
    "CPK_GATEWAY_PROBE_NODE_ID"
  , "CPK_GATEWAY_PROBE_PROJECTION_ID", "CPK_GATEWAY_PROBE_VERIFICATION_KEYS_JSON"
  , "CPK_GATEWAY_PROBE_VERIFIER" ]

/-- `replace(node, delegation_verifier_projection=projection)`. -/
def Node.withVerifier (node : Node)
    (projection : Option DelegationVerifierProjection) : Node :=
  { node with delegationVerifierProjection := projection }

def DeploymentGraph.withNode (graph : DeploymentGraph) (nodeId : String) (node : Node) :
    DeploymentGraph :=
  { graph with nodes := graph.nodes.insert nodeId node }

/-- `graph.update_node(node)`. -/
def DeploymentGraph.updateNode (graph : DeploymentGraph) (node : Node) :
    Except DelegationAuthorityError DeploymentGraph :=
  if graph.nodes[node.nodeId]?.isSome then .ok (graph.withNode node.nodeId node)
  else .error ⟨"cannot update missing node"⟩

/-- One authored binding of `materialize_delegation_verifiers`. -/
def materializeBinding (projections : List DelegationVerifierProjection)
    (realized : DeploymentGraph) (binding : DelegationAuthorityBinding) :
    Except DelegationAuthorityError DeploymentGraph :=
  match projections.find? fun projection =>
      projection.bindingIdentity = binding.identity with
  | none =>
      .error ⟨"delegation verifier projections must cover exact authored bindings"⟩
  | some projection => do
      requireAuthority (binding.issuer = projection.issuer)
        "delegation verifier projection issuer does not match authored binding"
      match realized.nodes[binding.delegateNodeId]? with
      | none => .error ⟨"delegation authority references a missing delegate node"⟩
      | some node => do
          requireAuthority
            (node.publicEnvironment.all fun value =>
              !verifierEnvironmentNames.contains value.name)
            "authored node environment conflicts with generated verifier material"
          if node.delegationVerifierProjection = some projection then return realized
          requireAuthority node.delegationVerifierProjection.isNone
            "realized graph already contains another verifier projection"
          realized.updateNode (node.withVerifier (some projection))

/-- `materialize_delegation_verifiers(authored_graph, projections)`. -/
def materializeDelegationVerifiers (authored : DeploymentGraph)
    (projections : List DelegationVerifierProjection) :
    Except DelegationAuthorityError DeploymentGraph := do
  requireAuthority (projections.map (·.bindingIdentity)).Nodup
    "delegation verifier projections must have unique binding identities"
  requireAuthority
    ((authored.delegationAuthorities.all fun binding =>
        (projections.map (·.bindingIdentity)).contains binding.identity) &&
      projections.all fun projection =>
        (authored.delegationAuthorities.map (·.identity)).contains
          projection.bindingIdentity)
    "delegation verifier projections must cover exact authored bindings"
  (sortedBy (fun binding => [binding.delegateNodeId, binding.purpose.value])
    authored.delegationAuthorities).foldlM (materializeBinding projections) authored

/-! ## What materializing makes of a graph -/

/-- Every node is filed under its own identity. -/
def NodesKeyed (graph : DeploymentGraph) : Prop :=
  ∀ (nodeId : String) (node : Node), graph.nodes[nodeId]? = some node →
    node.nodeId = nodeId

/-- A binding's node takes the projection: it has none yet, or this one, and its
environment leaves the names free. -/
structure TakesProjection (graph : DeploymentGraph)
    (binding : DelegationAuthorityBinding) (projection : DelegationVerifierProjection)
    (node : Node) : Prop where
  identity : projection.bindingIdentity = binding.identity
  issuer : projection.issuer = binding.issuer
  found : graph.nodes[binding.delegateNodeId]? = some node
  environment : ∀ value ∈ node.publicEnvironment, value.name ∉ verifierEnvironmentNames
  projected : node.delegationVerifierProjection = none ∨
    node.delegationVerifierProjection = some projection

/-- **What materializing makes of a graph**, for some of its bindings. -/
structure Materialized (projections : List DelegationVerifierProjection)
    (bindings : List DelegationAuthorityBinding)
    (graph result : DeploymentGraph) : Prop where
  rest : result = { graph with nodes := result.nodes }
  bound : ∀ binding ∈ bindings, ∃ projection ∈ projections, ∃ node,
    TakesProjection graph binding projection node ∧
      result.nodes[binding.delegateNodeId]? = some (node.withVerifier (some projection))
  unbound : ∀ nodeId : String, nodeId ∉ bindings.map (·.delegateNodeId) →
    result.nodes[nodeId]? = graph.nodes[nodeId]?

/-- Looking an identity up among values of distinct identities. -/
theorem find?_eq_some_iff_of_nodup {β γ : Type} [DecidableEq γ] {key : β → γ}
    {values : List β} (hnodup : (values.map key).Nodup) {k : γ} {value : β} :
    values.find? (fun value => key value = k) = some value ↔
      value ∈ values ∧ key value = k := by
  constructor
  · intro h
    have hkey := List.find?_some h
    exact ⟨List.mem_of_find?_eq_some h, of_decide_eq_true hkey⟩
  · rintro ⟨hmem, hkey⟩
    cases hfound : values.find? fun value => key value = k with
    | none => exact absurd hkey (by simpa using List.find?_eq_none.mp hfound value hmem)
    | some other =>
        have hother := List.find?_some hfound
        rw [List.inj_on_of_nodup_map hnodup (List.mem_of_find?_eq_some hfound) hmem
          ((of_decide_eq_true hother).trans hkey.symm)]

theorem Node.withVerifier_self {node : Node}
    {projection : Option DelegationVerifierProjection}
    (h : node.delegationVerifierProjection = projection) :
    node.withVerifier projection = node := by
  rw [Node.withVerifier, ← h]

theorem DeploymentGraph.withNode_self {graph : DeploymentGraph}
    {nodeId : String} {node : Node} (h : graph.nodes[nodeId]? = some node) :
    graph.withNode nodeId node = graph := by
  have hnodes : graph.nodes.insert nodeId node = graph.nodes := by
    refine Std.ExtTreeMap.ext_getElem? fun other => ?_
    rw [getElem?_insert]
    split
    · rename_i heq
      rw [← heq, h]
    · rfl
  rw [DeploymentGraph.withNode, hnodes]

theorem updateNode_withVerifier {graph : DeploymentGraph}
    {nodeId : String} {node : Node} (hkeyed : NodesKeyed graph)
    (h : graph.nodes[nodeId]? = some node)
    (projection : Option DelegationVerifierProjection) :
    graph.updateNode (node.withVerifier projection) =
      .ok (graph.withNode nodeId (node.withVerifier projection)) := by
  have hid : (node.withVerifier projection).nodeId = nodeId :=
    show node.nodeId = nodeId from hkeyed _ _ h
  rw [DeploymentGraph.updateNode, hid, h]
  rfl

/-- One binding puts its projection on its node. -/
theorem materializeBinding_eq_ok {projections : List DelegationVerifierProjection}
    {graph result : DeploymentGraph} {binding : DelegationAuthorityBinding}
    (hnodup : (projections.map (·.bindingIdentity)).Nodup) (hkeyed : NodesKeyed graph) :
    materializeBinding projections graph binding = .ok result ↔
      ∃ projection ∈ projections, ∃ node,
        TakesProjection graph binding projection node ∧
        result = graph.withNode binding.delegateNodeId
          (node.withVerifier (some projection)) := by
  constructor
  · intro h
    unfold materializeBinding at h
    split at h
    · cases h
    · rename_i projection hprojection
      obtain ⟨hmem, hidentity⟩ := (find?_eq_some_iff_of_nodup hnodup).mp hprojection
      simp only [bind_ok, requireAuthority_eq_ok, decide_eq_true_eq] at h
      obtain ⟨-, hissuer, h⟩ := h
      split at h
      · cases h
      · rename_i node hnode
        simp only [bind_ok, requireAuthority_eq_ok] at h
        obtain ⟨-, henvironment, h⟩ := h
        have hfree : ∀ value ∈ node.publicEnvironment,
            value.name ∉ verifierEnvironmentNames := by
          simpa using henvironment
        split at h
        · rename_i hsame
          cases h
          refine ⟨projection, hmem, node,
            ⟨hidentity, hissuer.symm, hnode, hfree, .inr hsame⟩, ?_⟩
          rw [Node.withVerifier_self hsame, DeploymentGraph.withNode_self hnode]
        · simp only [bind_ok, requireAuthority_eq_ok, Option.isNone_iff_eq_none,
            updateNode_withVerifier hkeyed hnode, Except.ok.injEq] at h
          obtain ⟨-, hnone, rfl⟩ := h
          exact ⟨projection, hmem, node,
            ⟨hidentity, hissuer.symm, hnode, hfree, .inl hnone⟩, rfl⟩
  · rintro ⟨projection, hmem, node, htakes, rfl⟩
    have hprojection := (find?_eq_some_iff_of_nodup hnodup).mpr ⟨hmem, htakes.identity⟩
    have henvironment : (node.publicEnvironment.all fun value =>
        !verifierEnvironmentNames.contains value.name) = true := by
      simpa using htakes.environment
    rw [materializeBinding, hprojection]
    simp only [bind_ok, requireAuthority_eq_ok, decide_eq_true_eq, htakes.issuer,
      htakes.found, henvironment, exists_const, true_and]
    split
    · rename_i hsame
      rw [Node.withVerifier_self hsame, DeploymentGraph.withNode_self htakes.found]
      rfl
    · rename_i hother
      have hnone := htakes.projected.resolve_right hother
      simp [bind_ok, requireAuthority_eq_ok, hnone,
        updateNode_withVerifier hkeyed htakes.found]

theorem DeploymentGraph.withNode_nodes {graph : DeploymentGraph} {nodeId other : String}
    {node : Node} : (graph.withNode nodeId node).nodes[other]? =
      if nodeId = other then some node else graph.nodes[other]? :=
  getElem?_insert

theorem NodesKeyed.withVerifier {graph : DeploymentGraph}
    (h : NodesKeyed graph) {node : Node} {nodeId : String}
    (hnode : graph.nodes[nodeId]? = some node)
    (projection : Option DelegationVerifierProjection) :
    NodesKeyed (graph.withNode nodeId (node.withVerifier projection)) := by
  intro other found hfound
  rw [DeploymentGraph.withNode_nodes] at hfound
  split at hfound
  · rename_i heq
    cases hfound
    exact (show node.nodeId = nodeId from h _ _ hnode).trans heq
  · exact h other found hfound

/-- Graphs that agree but for their nodes are equal where the nodes are. -/
theorem DeploymentGraph.eq_of_nodes {graph result other : DeploymentGraph}
    (hresult : result = { graph with nodes := result.nodes })
    (hother : other = { graph with nodes := other.nodes })
    (hnodes : ∀ nodeId : String, result.nodes[nodeId]? = other.nodes[nodeId]?) :
    result = other := by
  have heq : result.nodes = other.nodes := Std.ExtTreeMap.ext_getElem? hnodes
  rw [hresult, hother, heq]

/-- The loop over bindings of distinct nodes. -/
theorem foldlM_materializeBinding {projections : List DelegationVerifierProjection}
    (hnodup : (projections.map (·.bindingIdentity)).Nodup)
    {bindings : List DelegationAuthorityBinding} :
    ∀ {graph result : DeploymentGraph}, NodesKeyed graph →
      (bindings.map (·.delegateNodeId)).Nodup →
      (bindings.foldlM (materializeBinding projections) graph = .ok result ↔
        Materialized projections bindings graph result) := by
  induction bindings with
  | nil =>
      intro graph result _ _
      rw [run_nil]
      constructor
      · rintro rfl
        exact ⟨rfl, by simp, fun _ _ => rfl⟩
      · intro h
        exact DeploymentGraph.eq_of_nodes rfl h.rest fun nodeId =>
          (h.unbound nodeId (by simp)).symm
  | cons binding bindings ih =>
      intro graph result hkeyed hdistinct
      rw [List.map_cons, List.nodup_cons] at hdistinct
      obtain ⟨hfresh, hdistinct⟩ := hdistinct
      rw [run_cons]
      have hother : ∀ other ∈ bindings, binding.delegateNodeId ≠ other.delegateNodeId :=
        fun other hmem heq => hfresh (List.mem_map.mpr ⟨other, hmem, heq.symm⟩)
      constructor
      · rintro ⟨middle, hmiddle, hrest⟩
        obtain ⟨projection, hmem, node, htakes, rfl⟩ :=
          (materializeBinding_eq_ok hnodup hkeyed).mp hmiddle
        have hmid := (ih (hkeyed.withVerifier htakes.found _) hdistinct).mp hrest
        refine ⟨hmid.rest, ?_, ?_⟩
        · rintro other hother'
          rcases List.mem_cons.mp hother' with rfl | hother'
          · refine ⟨projection, hmem, node, htakes, ?_⟩
            rw [hmid.unbound _ hfresh, DeploymentGraph.withNode_nodes, if_pos rfl]
          · obtain ⟨projection', hmem', node', htakes', hresult⟩ :=
              hmid.bound other hother'
            refine ⟨projection', hmem', node', { htakes' with found := ?_ }, hresult⟩
            rw [← htakes'.found, DeploymentGraph.withNode_nodes,
              if_neg (hother other hother')]
        · intro nodeId hunbound
          rw [List.map_cons, List.mem_cons, not_or] at hunbound
          rw [hmid.unbound nodeId hunbound.2, DeploymentGraph.withNode_nodes,
            if_neg (Ne.symm hunbound.1)]
      · intro h
        obtain ⟨projection, hmem, node, htakes, hresult⟩ :=
          h.bound binding List.mem_cons_self
        refine ⟨_, (materializeBinding_eq_ok hnodup hkeyed).mpr
          ⟨projection, hmem, node, htakes, rfl⟩,
          (ih (hkeyed.withVerifier htakes.found _) hdistinct).mpr ⟨h.rest, ?_, ?_⟩⟩
        · intro other hother'
          obtain ⟨projection', hmem', node', htakes', hresult'⟩ :=
            h.bound other (List.mem_cons_of_mem _ hother')
          refine ⟨projection', hmem', node', { htakes' with found := ?_ }, hresult'⟩
          rw [DeploymentGraph.withNode_nodes, if_neg (hother other hother'),
            htakes'.found]
        · intro nodeId hunbound
          rw [DeploymentGraph.withNode_nodes]
          split
          · rename_i heq
            rw [← heq, hresult]
          · rename_i hne
            exact h.unbound nodeId (by simpa [Ne.symm hne] using hunbound)

theorem Materialized.of_mem_iff {projections : List DelegationVerifierProjection}
    {bindings bindings' : List DelegationAuthorityBinding}
    {graph result : DeploymentGraph}
    (hmem : ∀ binding, binding ∈ bindings ↔ binding ∈ bindings')
    (h : Materialized projections bindings graph result) :
    Materialized projections bindings' graph result := by
  refine ⟨h.rest, fun binding hbinding => h.bound binding ((hmem binding).mpr hbinding),
    fun nodeId hunbound => h.unbound nodeId fun hbound => hunbound ?_⟩
  obtain ⟨binding, hbinding, rfl⟩ := List.mem_map.mp hbound
  exact List.mem_map.mpr ⟨binding, (hmem binding).mp hbinding, rfl⟩

/-- **What `materialize_delegation_verifiers` accepts, and makes**, where no node has
two bindings. -/
theorem materializeDelegationVerifiers_eq_ok {authored result : DeploymentGraph}
    {projections : List DelegationVerifierProjection} (hkeyed : NodesKeyed authored)
    (hdistinct : (authored.delegationAuthorities.map (·.delegateNodeId)).Nodup) :
    materializeDelegationVerifiers authored projections = .ok result ↔
      (projections.map (·.bindingIdentity)).Nodup ∧
        (∀ projection ∈ projections, ∃ binding ∈ authored.delegationAuthorities,
          binding.identity = projection.bindingIdentity) ∧
        Materialized projections authored.delegationAuthorities authored result := by
  have hperm := sortedBy_perm (fun binding : DelegationAuthorityBinding =>
    [binding.delegateNodeId, binding.purpose.value]) authored.delegationAuthorities
  have hsorted := (hperm.map (·.delegateNodeId)).nodup_iff.mpr hdistinct
  simp only [materializeDelegationVerifiers, bind_ok, requireAuthority_eq_ok,
    decide_eq_true_eq, Bool.and_eq_true, List.all_eq_true,
    List.contains_iff_mem, exists_const]
  constructor
  · rintro ⟨hnodup, ⟨-, hauthored⟩, h⟩
    refine ⟨hnodup, fun projection hmem => ?_,
      ((foldlM_materializeBinding hnodup hkeyed hsorted).mp h).of_mem_iff fun _ =>
        mem_sortedBy⟩
    simpa using hauthored projection hmem
  · rintro ⟨hnodup, hauthored, h⟩
    refine ⟨hnodup, ⟨fun binding hbinding => ?_, fun projection hmem => ?_⟩,
      (foldlM_materializeBinding hnodup hkeyed hsorted).mpr
        (h.of_mem_iff fun _ => mem_sortedBy.symm)⟩
    · obtain ⟨projection, hmem, node, htakes, -⟩ := h.bound binding hbinding
      exact List.mem_map.mpr ⟨projection, hmem, htakes.identity⟩
    · simpa using hauthored projection hmem

end ControlPlaneKit.Topology
