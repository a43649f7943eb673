import ControlPlaneKit.Topology.Diff

/-!
# DiffLaws — which changes a diff contains, and when there is one

`ChangeOf` lists the ways a change arises between two graphs.  The diff of two
valid graphs contains exactly these changes, and exists exactly when each of
them has a JSON text, which is a condition on the metadata and the encoded
specifications of the nodes that changed.
-/

namespace ControlPlaneKit.Topology

open ControlPlaneKit.Library
open ControlPlaneKit.Library.KeyedMap (mem_compareKeyed succeeds_compareKeyed)
open ControlPlaneKit.Library.Outcome
  (Succeeds collect succeeds_collect succeeds_map succeeds_ok)

/-! ## Which changes arise -/

/-- **The changes of two graphs**, one constructor for each way one arises. -/
inductive ChangeOf (codec : GraphDescriptorCodec) (current desired : DeploymentGraph) :
    StructuralChange → Prop where
  | graphChanged {change : StructuralChange}
      (hmem : change ∈ diffGraphName current desired ++
        diffDelegationAuthorities current desired) :
      ChangeOf codec current desired change
  | runtimeAdded {runtimeId : String} {runtime : RuntimeRecord}
      (hafter : desired.runtimes[runtimeId]? = some runtime)
      (hbefore : current.runtimes[runtimeId]? = none) :
      ChangeOf codec current desired (.added (.runtime runtimeId) (.runtime runtime))
  | runtimeRemoved {runtimeId : String} {runtime : RuntimeRecord}
      (hbefore : current.runtimes[runtimeId]? = some runtime)
      (hafter : desired.runtimes[runtimeId]? = none) :
      ChangeOf codec current desired (.removed (.runtime runtimeId) (.runtime runtime))
  | runtimeChanged {runtimeId : String} {before after : RuntimeRecord}
      {change : StructuralChange}
      (hbefore : current.runtimes[runtimeId]? = some before)
      (hafter : desired.runtimes[runtimeId]? = some after)
      (hmem : change ∈ runtimeChanges runtimeId before after) :
      ChangeOf codec current desired change
  | nodeAdded {nodeId : String} {node : Node} {encoded : PyDict}
      (hafter : desired.nodes[nodeId]? = some node)
      (hbefore : current.nodes[nodeId]? = none)
      (hencoded : codec.encodeBlockSpec node.blockSpec = .ok encoded) :
      ChangeOf codec current desired (.added (.node nodeId) (.node node encoded))
  | nodeRemoved {nodeId : String} {node : Node} {encoded : PyDict}
      (hbefore : current.nodes[nodeId]? = some node)
      (hafter : desired.nodes[nodeId]? = none)
      (hencoded : codec.encodeBlockSpec node.blockSpec = .ok encoded) :
      ChangeOf codec current desired (.removed (.node nodeId) (.node node encoded))
  | nodeChanged {nodeId : String} {before after : Node}
      {changes : List StructuralChange} {change : StructuralChange}
      (hbefore : current.nodes[nodeId]? = some before)
      (hafter : desired.nodes[nodeId]? = some after) (hchanges : nodeChanges codec
        nodeId before after = .ok changes) (hmem : change ∈ changes) :
      ChangeOf codec current desired change
  | edgeAdded {edgeId : String} {edge : Edge}
      (hafter : desired.edges[edgeId]? = some edge)
      (hbefore : current.edges[edgeId]? = none) :
      ChangeOf codec current desired (.added (.edge edgeId) (.edge edge))
  | edgeRemoved {edgeId : String} {edge : Edge}
      (hbefore : current.edges[edgeId]? = some edge)
      (hafter : desired.edges[edgeId]? = none) :
      ChangeOf codec current desired (.removed (.edge edgeId) (.edge edge))
  | edgeModified {edgeId : String} {before after : Edge}
      (hbefore : current.edges[edgeId]? = some before)
      (hafter : desired.edges[edgeId]? = some after) (hne : before ≠ after) :
      ChangeOf codec current desired
        (.modified (.edge edgeId) (.edge before) (.edge after))
  | ingressAdded {ingressId : String} {ingress : NamedPublicIngress}
      (hafter : desired.ingressById[ingressId]? = some ingress)
      (hbefore : current.ingressById[ingressId]? = none) :
      ChangeOf codec current desired
        (.added (.publicIngress ingressId) (.publicIngress ingress))
  | ingressRemoved {ingressId : String} {ingress : NamedPublicIngress}
      (hbefore : current.ingressById[ingressId]? = some ingress)
      (hafter : desired.ingressById[ingressId]? = none) :
      ChangeOf codec current desired
        (.removed (.publicIngress ingressId) (.publicIngress ingress))
  | ingressModified {ingressId : String} {before after : NamedPublicIngress}
      (hbefore : current.ingressById[ingressId]? = some before)
      (hafter : desired.ingressById[ingressId]? = some after) (hne : before ≠ after) :
      ChangeOf codec current desired
        (.modified (.publicIngress ingressId) (.publicIngress before)
          (.publicIngress after))


/-- **The changes of a node both graphs have.** -/
inductive NodeChange (codec : GraphDescriptorCodec) (nodeId : String)
    (before after : Node) : StructuralChange → Prop where
  | reused {old new : PyDict} (hfamily : before.blockFamily ≠ after.blockFamily)
      (hold : codec.encodeBlockSpec before.blockSpec = .ok old)
      (hnew : codec.encodeBlockSpec after.blockSpec = .ok new) :
      NodeChange codec nodeId before after (.ambiguous (.node nodeId)
        .nodeIdentityReused (some (.node before old)) (some (.node after new)))
  | kind (hfamily : before.blockFamily = after.blockFamily)
      (hne : before.kind ≠ after.kind) : NodeChange codec nodeId before after
      (.unsupported (.field (.node nodeId) .implementationKind none) (.text before.kind)
        (.text after.kind) .implementationKindTransition)
  | membership (hfamily : before.blockFamily = after.blockFamily)
      (hne : before.runtimeId ≠ after.runtimeId) :
      NodeChange codec nodeId before after
        (.modified (.field (.node nodeId) .runtimeMembership none)
          (.text before.runtimeId) (.text after.runtimeId))
  | spec {old new : PyDict} (hfamily : before.blockFamily = after.blockFamily)
      (hne : before.blockSpec.pyEq after.blockSpec = false)
      (hold : codec.encodeBlockSpec before.blockSpec = .ok old)
      (hnew : codec.encodeBlockSpec after.blockSpec = .ok new) :
      NodeChange codec nodeId before after
        (.modified (.field (.node nodeId) .blockSpecification none)
          (.blockSpec before.blockSpec old) (.blockSpec after.blockSpec new))
  | sockets (hfamily : before.blockFamily = after.blockFamily)
      (hne : before.sockets ≠ after.sockets) :
      NodeChange codec nodeId before after
        (.modified (.field (.node nodeId) .socketContract none)
          (.socketContract before.sockets) (.socketContract after.sockets))
  | endpointAdded {name : String} {endpoint : Endpoint}
      (hfamily : before.blockFamily = after.blockFamily)
      (hnew : after.endpoints[name]? = some endpoint)
        (hold : before.endpoints[name]? = none) :
      NodeChange codec nodeId before after
        (.added (endpointSubject nodeId name) (.endpoint endpoint))
  | endpointRemoved {name : String} {endpoint : Endpoint}
      (hfamily : before.blockFamily = after.blockFamily)
      (hold : before.endpoints[name]? = some endpoint)
        (hnew : after.endpoints[name]? = none) :
      NodeChange codec nodeId before after
        (.removed (endpointSubject nodeId name) (.endpoint endpoint))
  | endpointModified {name : String} {old new : Endpoint}
      (hfamily : before.blockFamily = after.blockFamily)
      (hold : before.endpoints[name]? = some old)
        (hnew : after.endpoints[name]? = some new)
      (hne : old ≠ new) :
      NodeChange codec nodeId before after
        (.modified (endpointSubject nodeId name) (.endpoint old)
          (.endpoint new))
  | material {change : StructuralChange} (hfamily : before.blockFamily =
      after.blockFamily) (hmem : change ∈ materialChanges nodeId before after) :
      NodeChange codec nodeId before after change
  | lifecycle (hfamily : before.blockFamily = after.blockFamily)
      (hne : before.lifecycle ≠ after.lifecycle) :
      NodeChange codec nodeId before after
        (.modified (.field (.node nodeId) .resourceLifecycle none)
          (.metadata before.lifecycle.entries) (.metadata after.lifecycle.entries))

section Membership

variable {codec : GraphDescriptorCodec} {current desired : DeploymentGraph}
  {changes : List StructuralChange} {change : StructuralChange}

theorem mem_diffRuntimes (h : diffRuntimes current desired = .ok changes) :
    change ∈ changes ↔
      (∃ runtimeId runtime, desired.runtimes[runtimeId]? = some runtime ∧
        current.runtimes[runtimeId]? = none ∧
        change = .added (.runtime runtimeId) (.runtime runtime)) ∨
      (∃ runtimeId runtime, current.runtimes[runtimeId]? = some runtime ∧
        desired.runtimes[runtimeId]? = none ∧
        change = .removed (.runtime runtimeId) (.runtime runtime)) ∨
      ∃ runtimeId before after, current.runtimes[runtimeId]? = some before ∧
        desired.runtimes[runtimeId]? = some after ∧
        change ∈ runtimeChanges runtimeId before after := by
  rw [mem_compareKeyed h]
  simp only [Except.ok.injEq, exists_eq_left', List.mem_singleton]

theorem mem_diffNodes (h : diffNodes codec current desired = .ok changes) :
    change ∈ changes ↔
      (∃ nodeId node encoded, desired.nodes[nodeId]? = some node ∧
        current.nodes[nodeId]? = none ∧
        codec.encodeBlockSpec node.blockSpec = .ok encoded ∧
        change = .added (.node nodeId) (.node node encoded)) ∨
      (∃ nodeId node encoded, current.nodes[nodeId]? = some node ∧
        desired.nodes[nodeId]? = none ∧
        codec.encodeBlockSpec node.blockSpec = .ok encoded ∧
        change = .removed (.node nodeId) (.node node encoded)) ∨
      ∃ nodeId before after found, current.nodes[nodeId]? = some before ∧
        desired.nodes[nodeId]? = some after ∧
        nodeChanges codec nodeId before after = .ok found ∧ change ∈ found := by
  rw [mem_compareKeyed h]
  simp only [nodeValue, Outcome.map_eq_ok]
  constructor
  · rintro (⟨id, node, ha, hb, _, ⟨_, ⟨e, he, rfl⟩, rfl⟩, hm⟩ |
      ⟨id, node, hb, ha, _, ⟨_, ⟨e, he, rfl⟩, rfl⟩, hm⟩ |
        ⟨id, b, a, hb, ha, found, hf, hm⟩)
    · exact .inl ⟨id, node, e, ha, hb, he, List.mem_singleton.mp hm⟩
    · exact .inr (.inl ⟨id, node, e, hb, ha, he, List.mem_singleton.mp hm⟩)
    · exact .inr (.inr ⟨id, b, a, found, hb, ha, hf, hm⟩)
  · rintro (⟨id, node, e, ha, hb, he, rfl⟩ | ⟨id, node, e, hb, ha, he, rfl⟩ |
      ⟨id, b, a, found, hb, ha, hf, hm⟩)
    · exact .inl ⟨id, node, ha, hb, _, ⟨_, ⟨e, he, rfl⟩, rfl⟩,
        List.mem_singleton_self _⟩
    · exact .inr (.inl ⟨id, node, hb, ha, _, ⟨_, ⟨e, he, rfl⟩, rfl⟩,
        List.mem_singleton_self _⟩)
    · exact .inr (.inr ⟨id, b, a, hb, ha, found, hf, hm⟩)

theorem mem_diffEdges (h : diffEdges current desired = .ok changes) :
    change ∈ changes ↔
      (∃ edgeId edge, desired.edges[edgeId]? = some edge ∧
        current.edges[edgeId]? = none ∧
        change = .added (.edge edgeId) (.edge edge)) ∨
      (∃ edgeId edge, current.edges[edgeId]? = some edge ∧
        desired.edges[edgeId]? = none ∧
        change = .removed (.edge edgeId) (.edge edge)) ∨
      ∃ edgeId before after, current.edges[edgeId]? = some before ∧
        desired.edges[edgeId]? = some after ∧ before ≠ after ∧
        change = .modified (.edge edgeId) (.edge before) (.edge after) := by
  rw [mem_compareKeyed h]
  simp only [Except.ok.injEq, exists_eq_left', List.mem_singleton,
    List.mem_ite_nil_right]

theorem mem_diffPublicIngresses
    (h : diffPublicIngresses current desired = .ok changes) : change ∈ changes ↔
      (∃ ingressId ingress, desired.ingressById[ingressId]? = some ingress ∧
        current.ingressById[ingressId]? = none ∧
        change = .added (.publicIngress ingressId) (.publicIngress ingress)) ∨
      (∃ ingressId ingress, current.ingressById[ingressId]? = some ingress ∧
        desired.ingressById[ingressId]? = none ∧
        change = .removed (.publicIngress ingressId) (.publicIngress ingress)) ∨
      ∃ ingressId before after, current.ingressById[ingressId]? = some before ∧
        desired.ingressById[ingressId]? = some after ∧ before ≠ after ∧
        change = .modified (.publicIngress ingressId) (.publicIngress before)
          (.publicIngress after) := by
  rw [mem_compareKeyed h]
  simp only [Except.ok.injEq, exists_eq_left', List.mem_singleton,
    List.mem_ite_nil_right]

theorem structuralChanges_eq_ok :
    structuralChanges codec current desired = .ok changes ↔
      ∃ runtimes nodes edges ingresses, diffRuntimes current desired = .ok runtimes ∧
        diffNodes codec current desired = .ok nodes ∧
        diffEdges current desired = .ok edges ∧
        diffPublicIngresses current desired = .ok ingresses ∧
        changes = diffGraphName current desired ++ runtimes ++ nodes ++
        edges ++ ingresses ++
          diffDelegationAuthorities current desired := by
  simp only [structuralChanges, EventFold.bind_ok, pure, Except.pure, Except.ok.injEq]
  constructor
  · rintro ⟨runtimes, hr, nodes, hn, edges, he, ingresses, hi, rfl⟩
    exact ⟨runtimes, nodes, edges, ingresses, hr, hn, he, hi, rfl⟩
  · rintro ⟨runtimes, nodes, edges, ingresses, hr, hn, he, hi, rfl⟩
    exact ⟨runtimes, hr, nodes, hn, edges, he, ingresses, hi, rfl⟩

/-- **What the structural changes of two graphs are.** -/
theorem mem_structuralChanges
    (h : structuralChanges codec current desired = .ok changes) :
    change ∈ changes ↔ ChangeOf codec current desired change := by
  obtain ⟨runtimes, nodes, edges, ingresses, hr, hn, he, hi, rfl⟩ :=
    structuralChanges_eq_ok.mp h
  simp only [List.mem_append, mem_diffRuntimes hr, mem_diffNodes hn, mem_diffEdges he,
    mem_diffPublicIngresses hi]
  constructor
  · rintro (((((hname | ⟨_, _, ha, hb, rfl⟩ | ⟨_, _, hb, ha, rfl⟩ |
      ⟨_, _, _, hb, ha, hm⟩) | ⟨_, _, _, ha, hb, henc, rfl⟩ |
      ⟨_, _, _, hb, ha, henc, rfl⟩ | ⟨_, _, _, _, hb, ha, hf, hm⟩) |
      ⟨_, _, ha, hb, rfl⟩ | ⟨_, _, hb, ha, rfl⟩ | ⟨_, _, _, hb, ha, hne, rfl⟩) |
      ⟨_, _, ha, hb, rfl⟩ | ⟨_, _, hb, ha, rfl⟩ | ⟨_, _, _, hb, ha, hne, rfl⟩) | hauth)
    · exact .graphChanged (List.mem_append_left _ hname)
    · exact .runtimeAdded ha hb
    · exact .runtimeRemoved hb ha
    · exact .runtimeChanged hb ha hm
    · exact .nodeAdded ha hb henc
    · exact .nodeRemoved hb ha henc
    · exact .nodeChanged hb ha hf hm
    · exact .edgeAdded ha hb
    · exact .edgeRemoved hb ha
    · exact .edgeModified hb ha hne
    · exact .ingressAdded ha hb
    · exact .ingressRemoved hb ha
    · exact .ingressModified hb ha hne
    · exact .graphChanged (List.mem_append_right _ hauth)
  · intro hchange
    cases hchange with
    | graphChanged hmem =>
        rcases List.mem_append.mp hmem with hname | hauth
        · simp [hname]
        · simp [hauth]
    | runtimeAdded ha hb =>
        exact .inl (.inl (.inl (.inl (.inr (.inl ⟨_, _, ha, hb, rfl⟩)))))
    | runtimeRemoved hb ha =>
        exact .inl (.inl (.inl (.inl (.inr (.inr (.inl ⟨_, _, hb, ha, rfl⟩))))))
    | runtimeChanged hb ha hm =>
        exact .inl (.inl (.inl (.inl (.inr (.inr (.inr ⟨_, _, _, hb, ha, hm⟩))))))
    | nodeAdded ha hb henc =>
        exact .inl (.inl (.inl (.inr (.inl ⟨_, _, _, ha, hb, henc, rfl⟩))))
    | nodeRemoved hb ha henc =>
        exact .inl (.inl (.inl (.inr (.inr (.inl ⟨_, _, _, hb, ha, henc, rfl⟩)))))
    | nodeChanged hb ha hf hm =>
        exact .inl (.inl (.inl (.inr (.inr (.inr ⟨_, _, _, _, hb, ha, hf, hm⟩)))))
    | edgeAdded ha hb => exact .inl (.inl (.inr (.inl ⟨_, _, ha, hb, rfl⟩)))
    | edgeRemoved hb ha => exact .inl (.inl (.inr (.inr (.inl ⟨_, _, hb, ha, rfl⟩))))
    | edgeModified hb ha hne =>
        exact .inl (.inl (.inr (.inr (.inr ⟨_, _, _, hb, ha, hne, rfl⟩))))
    | ingressAdded ha hb => exact .inl (.inr (.inl ⟨_, _, ha, hb, rfl⟩))
    | ingressRemoved hb ha => exact .inl (.inr (.inr (.inl ⟨_, _, hb, ha, rfl⟩)))
    | ingressModified hb ha hne =>
        exact .inl (.inr (.inr (.inr ⟨_, _, _, hb, ha, hne, rfl⟩)))

theorem mem_blockSpecChanges {nodeId : String} {before after : Node}
    (h : blockSpecChanges codec nodeId before after = .ok changes) :
    change ∈ changes ↔ before.blockSpec.pyEq after.blockSpec = false ∧
      ∃ old new, codec.encodeBlockSpec before.blockSpec = .ok old ∧
        codec.encodeBlockSpec after.blockSpec = .ok new ∧
        change = .modified (.field (.node nodeId) .blockSpecification none)
          (.blockSpec before.blockSpec old) (.blockSpec after.blockSpec new) := by
  unfold blockSpecChanges at h
  split at h
  · rename_i heq
    cases h
    simp [heq]
  · rename_i hne
    simp only [EventFold.bind_ok, blockSpecValue, Outcome.map_eq_ok] at h
    obtain ⟨_, ⟨old, hold, rfl⟩, _, ⟨new, hnew, rfl⟩, hrest⟩ := h
    cases hrest
    simp [hne, hold, hnew, mem_fieldModified]

theorem mem_endpointChanges {nodeId : String} {before after : Node}
    (h : endpointChanges nodeId before after = .ok changes) :
    change ∈ changes ↔
      (∃ name endpoint, after.endpoints[name]? = some endpoint ∧
        before.endpoints[name]? = none ∧
        change = .added (endpointSubject nodeId name) (.endpoint endpoint)) ∨
      (∃ name endpoint, before.endpoints[name]? = some endpoint ∧
        after.endpoints[name]? = none ∧
        change = .removed (endpointSubject nodeId name) (.endpoint endpoint)) ∨
      ∃ name old new, before.endpoints[name]? = some old ∧
      after.endpoints[name]? = some new ∧
        old ≠ new ∧ change = .modified (endpointSubject nodeId name)
          (.endpoint old) (.endpoint new) := by
  rw [mem_compareKeyed h]
  simp only [Except.ok.injEq, exists_eq_left', List.mem_singleton,
    List.mem_ite_nil_right]

/-- **What changed of a shared node.** -/
theorem mem_nodeChanges {nodeId : String} {before after : Node}
    (h : nodeChanges codec nodeId before after = .ok changes) :
    change ∈ changes ↔ NodeChange codec nodeId before after change := by
  unfold nodeChanges at h
  dsimp only at h
  split at h
  · rename_i hfamily
    simp only [EventFold.bind_ok, nodeValue, Outcome.map_eq_ok] at h
    obtain ⟨_, ⟨old, hold, rfl⟩, _, ⟨new, hnew, rfl⟩, hrest⟩ := h
    cases hrest
    rw [List.mem_singleton]
    constructor
    · rintro rfl
      exact .reused hfamily hold hnew
    · intro hchange
      cases hchange with
      | reused _ hold' hnew' =>
          rw [hold] at hold'
          rw [hnew] at hnew'
          cases hold'
          cases hnew'
          rfl
      | kind hsame | membership hsame | spec hsame | sockets hsame | endpointAdded hsame
      | endpointRemoved hsame | endpointModified hsame | material hsame
      | lifecycle hsame =>
          exact absurd hsame hfamily
  · rename_i hfamily
    have hsame : before.blockFamily = after.blockFamily := by simpa using hfamily
    simp only [EventFold.bind_ok] at h
    obtain ⟨spec, hspec, endpoints, hendpoints, hrest⟩ := h
    cases hrest
    simp only [List.mem_append, mem_fieldModified, decide_eq_true_eq,
      List.mem_ite_nil_right, List.mem_singleton, mem_blockSpecChanges hspec,
      mem_endpointChanges hendpoints]
    constructor
    · rintro ((((((⟨hne, rfl⟩ | ⟨hne, rfl⟩) | ⟨hne, old, new, hold, hnew, rfl⟩) |
        ⟨hne, rfl⟩) | ⟨_, _, hnew, hold, rfl⟩ | ⟨_, _, hold, hnew, rfl⟩ |
        ⟨_, _, _, hold, hnew, hne, rfl⟩) | hmaterial) | ⟨hne, rfl⟩)
      · exact .kind hsame hne
      · exact .membership hsame hne
      · exact .spec hsame hne hold hnew
      · exact .sockets hsame hne
      · exact .endpointAdded hsame hnew hold
      · exact .endpointRemoved hsame hold hnew
      · exact .endpointModified hsame hold hnew hne
      · exact .material hsame hmaterial
      · exact .lifecycle hsame hne
    · intro hchange
      cases hchange with
      | reused hne _ _ => exact absurd hsame hne
      | kind _ hne => exact .inl (.inl (.inl (.inl (.inl (.inl ⟨hne, rfl⟩)))))
      | membership _ hne => exact .inl (.inl (.inl (.inl (.inl (.inr ⟨hne, rfl⟩)))))
      | spec _ hne hold hnew =>
          exact .inl (.inl (.inl (.inl (.inr ⟨hne, _, _, hold, hnew, rfl⟩))))
      | sockets _ hne => exact .inl (.inl (.inl (.inr ⟨hne, rfl⟩)))
      | endpointAdded _ hnew hold =>
          exact .inl (.inl (.inr (.inl ⟨_, _, hnew, hold, rfl⟩)))
      | endpointRemoved _ hold hnew =>
          exact .inl (.inl (.inr (.inr (.inl ⟨_, _, hold, hnew, rfl⟩))))
      | endpointModified _ hold hnew hne =>
          exact .inl (.inl (.inr (.inr (.inr ⟨_, _, _, hold, hnew, hne, rfl⟩))))
      | material _ hmem => exact .inl (.inr hmem)
      | lifecycle _ hne => exact .inr ⟨hne, rfl⟩

end Membership

/-! ## When a diff exists -/

section Existence

variable {codec : GraphDescriptorCodec} {current desired : DeploymentGraph}

/-- Every node's specification can be encoded. -/
def Encodable (codec : GraphDescriptorCodec) (graph : DeploymentGraph) : Prop :=
  ∀ (nodeId : String) (node : Node), graph.nodes[nodeId]? = some node →
    Succeeds (codec.encodeBlockSpec node.blockSpec)

theorem succeeds_nodeChanges {nodeId : String} {before after : Node}
    (hbefore : Succeeds (codec.encodeBlockSpec before.blockSpec))
    (hafter : Succeeds (codec.encodeBlockSpec after.blockSpec)) :
    Succeeds (nodeChanges codec nodeId before after) := by
  obtain ⟨old, hold⟩ := hbefore
  obtain ⟨new, hnew⟩ := hafter
  have hendpoints : Succeeds (endpointChanges nodeId before after) :=
    succeeds_compareKeyed.mpr
      ⟨fun _ _ _ _ => succeeds_ok _, fun _ _ _ _ => succeeds_ok _, fun _ _ _ _ _ =>
        succeeds_ok _⟩
  have hspec : Succeeds (blockSpecChanges codec nodeId before after) := by
    unfold blockSpecChanges
    split
    · exact succeeds_ok _
    · simp only [blockSpecValue, hold, hnew]
      exact succeeds_ok _
  obtain ⟨endpoints, hendpoints⟩ := hendpoints
  obtain ⟨spec, hspec⟩ := hspec
  unfold nodeChanges
  dsimp only
  split
  · simp only [nodeValue, hold, hnew]
    exact succeeds_ok _
  · simp only [hspec, hendpoints]
    exact succeeds_ok _

theorem succeeds_structuralChanges (hcurrent : Encodable codec current)
    (hdesired : Encodable codec desired) :
    Succeeds (structuralChanges codec current desired) := by
  have hnodes : Succeeds (diffNodes codec current desired) := by
    refine succeeds_compareKeyed.mpr ⟨fun id node ha _ => ?_, fun id node hb _ => ?_,
      fun id before after hb ha => succeeds_nodeChanges (hcurrent id before hb)
        (hdesired id after ha)⟩
    · exact succeeds_map.mpr (succeeds_map.mpr (hdesired id node ha))
    · exact succeeds_map.mpr (succeeds_map.mpr (hcurrent id node hb))
  have hruntimes : Succeeds (diffRuntimes current desired) := succeeds_compareKeyed.mpr
    ⟨fun _ _ _ _ => succeeds_ok _, fun _ _ _ _ => succeeds_ok _, fun _ _ _ _ _ =>
      succeeds_ok _⟩
  have hedges : Succeeds (diffEdges current desired) := succeeds_compareKeyed.mpr
    ⟨fun _ _ _ _ => succeeds_ok _, fun _ _ _ _ => succeeds_ok _, fun _ _ _ _ _ =>
      succeeds_ok _⟩
  have hingresses : Succeeds (diffPublicIngresses current desired) :=
    succeeds_compareKeyed.mpr ⟨fun _ _ _ _ => succeeds_ok _,
      fun _ _ _ _ => succeeds_ok _, fun _ _ _ _ _ => succeeds_ok _⟩
  obtain ⟨runtimes, hr⟩ := hruntimes
  obtain ⟨nodes, hn⟩ := hnodes
  obtain ⟨edges, he⟩ := hedges
  obtain ⟨ingresses, hi⟩ := hingresses
  exact ⟨_, structuralChanges_eq_ok.mpr
    ⟨runtimes, nodes, edges, ingresses, hr, hn, he, hi, rfl⟩⟩

theorem succeeds_changeKey (change : StructuralChange) :
    Succeeds (changeKey change) ↔ change.isRenderable = true := by
  have hsubject : Succeeds (PyValue.dumps .standard change.subject.descriptor) :=
    (PyValue.succeeds_dumps .standard _).mpr (DiffSubject.isRenderable_descriptor _)
  obtain ⟨subject, hsubject⟩ := hsubject
  rw [← StructuralChange.isRenderable_descriptor, ← PyValue.succeeds_dumps .standard,
    changeKey, Outcome.succeeds_bind]
  simp only [hsubject, Except.ok.injEq, exists_eq_left', Outcome.succeeds_bind]
  constructor
  · rintro ⟨descriptor, hdescriptor, -⟩
    exact ⟨descriptor, hdescriptor⟩
  · rintro ⟨descriptor, hdescriptor⟩
    exact ⟨descriptor, hdescriptor, succeeds_ok _⟩

/-- Sorting loses and repeats nothing. -/
theorem sortChanges_perm {changes sorted : List StructuralChange}
    (h : sortChanges changes = .ok sorted) : sorted.Perm changes := by
  obtain ⟨keyed, hkeyed, rfl⟩ := Outcome.map_eq_ok.mp h
  have hvalues : keyed.map (·.2) = changes := by
    clear h
    induction changes generalizing keyed with
    | nil =>
        cases hkeyed
        rfl
    | cons change rest ih =>
        rw [List.map_cons] at hkeyed
        cases hkey : changeKey change with
        | error e => rw [hkey] at hkeyed; cases hkeyed
        | ok key =>
            rw [hkey] at hkeyed
            obtain ⟨tail, htail, rfl⟩ := Outcome.map_eq_ok.mp hkeyed
            rw [List.map_cons, ih tail htail]
  rw [← hvalues]
  exact (List.perm_insertionSort _ keyed).map _

/-- Sorting asks for the JSON text of every change, and for nothing else. -/
theorem succeeds_sortChanges (changes : List StructuralChange) :
    Succeeds (sortChanges changes) ↔
      ∀ change ∈ changes, change.isRenderable = true := by
  rw [sortChanges, succeeds_map, succeeds_collect, List.forall_mem_map]
  simp only [succeeds_map, succeeds_changeKey]

variable {repr : String → String} {currentValid desiredValid : ValidatedGraph}
  {diff : GraphDiff}

/-- The diff of two valid graphs under one codec, step by step. -/
theorem diffGraphs_eq_ok (hcurrent : IsValid repr codec current currentValid)
    (hdesired : IsValid repr codec desired desiredValid) :
    diffGraphs currentValid desiredValid = .ok diff ↔
      ∃ changes sorted, structuralChanges codec current desired = .ok changes ∧
        sortChanges changes = .ok sorted ∧
        diff = ⟨current.name, desired.name, sorted⟩ := by
  simp only [diffGraphs, ValidatedGraph.requireValid, hcurrent.2, hdesired.2, if_true,
    hcurrent.graph_eq, hdesired.graph_eq, hcurrent.codec_eq, hdesired.codec_eq,
    GraphDescriptorCodec.supportsSameBlockSpecsAs_self, EventFold.bind_ok,
    pure, Except.pure, Except.ok.injEq, exists_eq_left', Bool.not_true,
    Bool.false_eq_true, if_false]
  constructor
  · rintro ⟨changes, hchanges, sorted, hsorted, rfl⟩
    cases hraw : structuralChanges codec current desired with
    | error e => rw [hraw] at hchanges; cases hchanges
    | ok raw =>
        rw [hraw] at hchanges
        cases hchanges
        cases hkeyed : sortChanges changes with
        | error e => rw [hkeyed] at hsorted; cases hsorted
        | ok keyed =>
            rw [hkeyed] at hsorted
            cases hsorted
            exact ⟨_, _, rfl, hkeyed, rfl⟩
  · rintro ⟨changes, sorted, hchanges, hsorted, rfl⟩
    exact ⟨changes, by rw [hchanges]; rfl, sorted, by rw [hsorted]; rfl, rfl⟩

/-- **The diff contains exactly the changes that arise.** -/
theorem mem_diffGraphs (hcurrent : IsValid repr codec current currentValid)
    (hdesired : IsValid repr codec desired desiredValid)
    (h : diffGraphs currentValid desiredValid = .ok diff) (change : StructuralChange) :
    change ∈ diff.changes ↔ ChangeOf codec current desired change := by
  obtain ⟨changes, sorted, hchanges, hsorted, rfl⟩ :=
    (diffGraphs_eq_ok hcurrent hdesired).mp h
  rw [(sortChanges_perm hsorted).mem_iff, mem_structuralChanges hchanges]

theorem IsValid.encodable_all (h : IsValid repr codec current currentValid) :
    Encodable codec current :=
  fun _ _ hnode => h.encodable hnode

theorem succeeds_diffGraphs (hcurrent : IsValid repr codec current currentValid)
    (hdesired : IsValid repr codec desired desiredValid) :
    Succeeds (diffGraphs currentValid desiredValid) ↔
      ∀ change, ChangeOf codec current desired change → change.isRenderable = true := by
  obtain ⟨changes, hchanges⟩ :=
    succeeds_structuralChanges hcurrent.encodable_all hdesired.encodable_all
  have hsorted : Succeeds (diffGraphs currentValid desiredValid) ↔
      Succeeds (sortChanges changes) := by
    constructor
    · rintro ⟨diff, hdiff⟩
      obtain ⟨changes', sorted, hchanges', hsorted, -⟩ :=
        (diffGraphs_eq_ok hcurrent hdesired).mp hdiff
      rw [hchanges] at hchanges'
      cases hchanges'
      exact ⟨sorted, hsorted⟩
    · rintro ⟨sorted, hsorted⟩
      exact ⟨_, (diffGraphs_eq_ok hcurrent hdesired).mpr
        ⟨changes, sorted, hchanges, hsorted, rfl⟩⟩
  rw [hsorted, succeeds_sortChanges]
  simp only [mem_structuralChanges hchanges]

end Existence

/-! ## Which graphs have a diff -/

section Describable

/-- The metadata of a node has a JSON text once redacted. -/
def MetadataDescribable (node : Node) : Prop :=
  PyValue.isRenderableEntries (redactMapping node.metadata) = true

/-- The encoded specification of a node has a JSON text once redacted. -/
def SpecDescribable (codec : GraphDescriptorCodec) (node : Node) : Prop :=
  ∀ encoded, codec.encodeBlockSpec node.blockSpec = .ok encoded →
    PyValue.isRenderableEntries (redactMapping encoded) = true

/-- **Describable changes**: the metadata and the specifications that the changes
between the two graphs show have JSON texts.  A node only one graph has, or
whose identity was reused by another family, shows both; a shared node shows
each of the two where the graphs disagree on it. -/
structure Describable (codec : GraphDescriptorCodec)
    (current desired : DeploymentGraph) : Prop where
  added : ∀ (nodeId : String) (node : Node), desired.nodes[nodeId]? = some node →
    current.nodes[nodeId]? = none →
    MetadataDescribable node ∧ SpecDescribable codec node
  removed : ∀ (nodeId : String) (node : Node), current.nodes[nodeId]? = some node →
    desired.nodes[nodeId]? = none →
    MetadataDescribable node ∧ SpecDescribable codec node
  reused : ∀ (nodeId : String) (before after : Node),
    current.nodes[nodeId]? = some before →
    desired.nodes[nodeId]? = some after → before.blockFamily ≠ after.blockFamily →
    (MetadataDescribable before ∧ SpecDescribable codec before) ∧
      MetadataDescribable after ∧ SpecDescribable codec after
  spec : ∀ (nodeId : String) (before after : Node),
    current.nodes[nodeId]? = some before →
    desired.nodes[nodeId]? = some after → before.blockFamily = after.blockFamily →
    before.blockSpec.pyEq after.blockSpec = false →
    SpecDescribable codec before ∧ SpecDescribable codec after
  metadata : ∀ (nodeId : String) (before after : Node),
    current.nodes[nodeId]? = some before →
    desired.nodes[nodeId]? = some after → before.blockFamily = after.blockFamily →
    metadataDiffers before after = true →
    MetadataDescribable before ∧ MetadataDescribable after

variable {codec : GraphDescriptorCodec} {current desired : DeploymentGraph}

theorem DiffValue.isRenderable_metadata {values : PyDict}
    (h : PyValue.isRenderableEntries values = true) :
    (DiffValue.metadata values).isRenderable = true :=
  isRenderable_redactMapping values h

theorem isRenderable_of_runtimeChanges {runtimeId : String}
    {before after : RuntimeRecord} {change : StructuralChange}
    (h : change ∈ runtimeChanges runtimeId before after) :
    change.isRenderable = true := by
  have hauthority : ∀ runtime : RuntimeRecord,
      (DiffValue.metadata (runtimeAuthorityValue runtime)).isRenderable = true := by
    intro runtime
    apply DiffValue.isRenderable_metadata
    cases hreference : runtime.authorityRef <;>
      simp [runtimeAuthorityValue, hreference, PyValue.isRenderableEntries,
        PyValue.isRenderable, RuntimeAuthorityReference.descriptor]
  have hmetadata : ∀ runtime : RuntimeRecord,
      (DiffValue.metadata (textEntries runtime.metadata)).isRenderable = true :=
    fun runtime => DiffValue.isRenderable_metadata (isRenderable_textEntries _)
  have hlifecycle : ∀ runtime : RuntimeRecord,
      (DiffValue.metadata runtime.lifecycle.entries).isRenderable = true :=
    fun runtime => DiffValue.isRenderable_metadata (isRenderable_lifecycle _)
  simp only [runtimeChanges, List.mem_append, mem_fieldModified, List.mem_ite_nil_right,
    List.mem_singleton] at h
  rcases h with (((⟨-, rfl⟩ | ⟨-, rfl⟩) | ⟨-, rfl⟩) | ⟨-, rfl⟩) | ⟨-, rfl⟩
  · rfl
  · rfl
  · simp [StructuralChange.isRenderable, StructuralChange.values, hauthority]
  · simp [StructuralChange.isRenderable, StructuralChange.values, hmetadata]
  · simp [StructuralChange.isRenderable, StructuralChange.values, hlifecycle]

theorem isRenderable_of_graphChanges {change : StructuralChange}
    (h : change ∈ diffGraphName current desired ++
      diffDelegationAuthorities current desired) :
    change.isRenderable = true := by
  have hauthorities : ∀ graph : DeploymentGraph,
      (DiffValue.metadata (authorityEntries graph)).isRenderable = true := by
    intro graph
    apply DiffValue.isRenderable_metadata
    have hlist : PyValue.isRenderable
        (.list (graph.delegationAuthorities.map (·.descriptor))) = true :=
      isRenderable_list_map fun _ _ => by
        simp [DelegationAuthorityBinding.descriptor, PyValue.isRenderable,
          PyValue.isRenderableEntries]
    simp only [authorityEntries, PyValue.isRenderableEntries, hlist, Bool.and_self]
  rcases List.mem_append.mp h with h | h
  · rw [(mem_fieldModified.mp h).2]
    rfl
  · rw [(mem_fieldModified.mp h).2]
    simp [StructuralChange.isRenderable, StructuralChange.values, hauthorities]

/-- **The changes have JSON texts** exactly when the two graphs are describable. -/
theorem describable_iff (hcurrent : Encodable codec current)
    (hdesired : Encodable codec desired) :
    (∀ change, ChangeOf codec current desired change → change.isRenderable = true) ↔
      Describable codec current desired := by
  have hnode : ∀ {node : Node} {encoded : PyDict},
      (DiffValue.node node encoded).isRenderable = true ↔
        PyValue.isRenderableEntries (redactMapping encoded) = true ∧
          MetadataDescribable node := by
    intro node encoded
    rw [DiffValue.isRenderable, Bool.and_eq_true, MetadataDescribable]
  constructor
  · intro h
    refine ⟨fun id node ha hb => ?_, fun id node hb ha => ?_,
      fun id before after hb ha hne => ?_, fun id before after hb ha hsame hne => ?_,
      fun id before after hb ha hsame hne => ?_⟩
    · obtain ⟨encoded, hencoded⟩ := hdesired id node ha
      have := h _ (.nodeAdded ha hb hencoded)
      simp only [StructuralChange.isRenderable, StructuralChange.values, List.all_cons,
        List.all_nil, Bool.and_true, hnode] at this
      exact ⟨this.2, fun e he => by rw [hencoded] at he; cases he; exact this.1⟩
    · obtain ⟨encoded, hencoded⟩ := hcurrent id node hb
      have := h _ (.nodeRemoved hb ha hencoded)
      simp only [StructuralChange.isRenderable, StructuralChange.values, List.all_cons,
        List.all_nil, Bool.and_true, hnode] at this
      exact ⟨this.2, fun e he => by rw [hencoded] at he; cases he; exact this.1⟩
    · obtain ⟨old, hold⟩ := hcurrent id before hb
      obtain ⟨new, hnew⟩ := hdesired id after ha
      obtain ⟨changes, hchanges⟩ :=
        @succeeds_nodeChanges codec id _ _ (hcurrent id before hb)
          (hdesired id after ha)
      have := h _ (.nodeChanged hb ha hchanges
        ((mem_nodeChanges hchanges).mpr (.reused hne hold hnew)))
      simp only [StructuralChange.isRenderable, StructuralChange.values,
        Option.toList_some, List.cons_append, List.nil_append, List.all_cons,
        List.all_nil, Bool.and_true, Bool.and_eq_true, hnode] at this
      exact ⟨⟨this.1.2, fun e he => by rw [hold] at he; cases he; exact this.1.1⟩,
        this.2.2, fun e he => by rw [hnew] at he; cases he; exact this.2.1⟩
    · obtain ⟨old, hold⟩ := hcurrent id before hb
      obtain ⟨new, hnew⟩ := hdesired id after ha
      obtain ⟨changes, hchanges⟩ :=
        @succeeds_nodeChanges codec id _ _ (hcurrent id before hb)
          (hdesired id after ha)
      have := h _ (.nodeChanged hb ha hchanges
        ((mem_nodeChanges hchanges).mpr (.spec hsame hne hold hnew)))
      simp only [StructuralChange.isRenderable, StructuralChange.values, List.all_cons,
        List.all_nil, Bool.and_true, Bool.and_eq_true, DiffValue.isRenderable] at this
      exact ⟨fun e he => by rw [hold] at he; cases he; exact this.1,
        fun e he => by rw [hnew] at he; cases he; exact this.2⟩
    · obtain ⟨changes, hchanges⟩ :=
        @succeeds_nodeChanges codec id _ _ (hcurrent id before hb)
          (hdesired id after ha)
      have hmem : StructuralChange.modified (.field (.node id) .nodeMetadata none)
          (.metadata before.metadata) (.metadata after.metadata) ∈
            materialChanges id before after := by
        simp [materialChanges, mem_fieldModified, hne]
      have := h _ (.nodeChanged hb ha hchanges
        ((mem_nodeChanges hchanges).mpr (.material hsame hmem)))
      simp only [StructuralChange.isRenderable, StructuralChange.values, List.all_cons,
        List.all_nil, Bool.and_true, Bool.and_eq_true, DiffValue.isRenderable] at this
      exact this
  · intro h change hchange
    cases hchange with
    | graphChanged hmem => exact isRenderable_of_graphChanges hmem
    | runtimeChanged _ _ hmem => exact isRenderable_of_runtimeChanges hmem
    | nodeAdded ha hb hencoded =>
        obtain ⟨hmetadata, hspec⟩ := h.added _ _ ha hb
        simp [StructuralChange.isRenderable, StructuralChange.values, hnode, hmetadata,
          hspec _ hencoded]
    | nodeRemoved hb ha hencoded =>
        obtain ⟨hmetadata, hspec⟩ := h.removed _ _ hb ha
        simp [StructuralChange.isRenderable, StructuralChange.values, hnode, hmetadata,
          hspec _ hencoded]
    | nodeChanged hb ha hchanges hmem =>
        cases (mem_nodeChanges hchanges).mp hmem with
        | reused hne hold hnew =>
            obtain ⟨⟨hm, hs⟩, hm', hs'⟩ := h.reused _ _ _ hb ha hne
            simp [StructuralChange.isRenderable, StructuralChange.values, hnode, hm,
              hm', hs _ hold, hs' _ hnew]
        | spec hsame hne hold hnew =>
            obtain ⟨hs, hs'⟩ := h.spec _ _ _ hb ha hsame hne
            simp [StructuralChange.isRenderable, StructuralChange.values,
              DiffValue.isRenderable, hs _ hold, hs' _ hnew]
        | material hsame hmem =>
            simp only [materialChanges, List.mem_append, mem_fieldModified] at hmem
            rcases hmem with ((((⟨-, rfl⟩ | ⟨-, rfl⟩) | ⟨hne, rfl⟩) | ⟨-, rfl⟩) |
              ⟨-, rfl⟩) | ⟨-, rfl⟩
            · rfl
            · rfl
            · obtain ⟨hm, hm'⟩ := h.metadata _ _ _ hb ha hsame hne
              simp only [StructuralChange.isRenderable, StructuralChange.values,
                List.all_cons, List.all_nil, Bool.and_true, Bool.and_eq_true,
                DiffValue.isRenderable]
              exact ⟨hm, hm'⟩
            · rfl
            · rfl
            · rfl
        | lifecycle hsame hne =>
            simp [StructuralChange.isRenderable, StructuralChange.values,
              DiffValue.isRenderable_metadata (isRenderable_lifecycle _)]
        | kind | membership | sockets | endpointAdded | endpointRemoved
        | endpointModified => rfl
    | runtimeAdded | runtimeRemoved | edgeAdded | edgeRemoved | edgeModified
    | ingressAdded
    | ingressRemoved | ingressModified => rfl

end Describable

end ControlPlaneKit.Topology
