import ControlPlaneKit.Planning.Tokens

/-!
# Precedence — which operation waits for which, read off the two graphs

The second pass adds dependencies in a dozen places.  `Arranged` are the ones it
finds through the tables of the compilation, `Connected` those it finds through
the token of an edge.  A link between two drafts is one of the two, and every
one of them between drafted operations becomes a link.
-/

namespace ControlPlaneKit.Planning

open ControlPlaneKit.Library
open ControlPlaneKit.Library.Outcome (Succeeds collectMap)
open ControlPlaneKit.Topology
open Compilation (Link)

/-- The node is one of the two ends. -/
def Joins (edge : Edge) (nodeId : String) : Prop :=
  nodeId = edge.providerRole ∨ nodeId = edge.consumerRole

/-- An edge that leaves a node has changed. -/
theorem ne_of_leaves {before after : Edge} {nodeId : String}
    (hjoins : Joins before nodeId) (hleaves : ¬ Joins after nodeId) :
    before ≠ after := by
  rintro rfl
  exact hleaves hjoins

/-! ## The rules -/

/-- **What is arranged through the tables**: the second operation waits for the
first. -/
inductive Arranged (current desired : DeploymentGraph) :
    ActivityOperation → ActivityOperation → Prop where
  | runtimeStarted {runtime : RuntimeTarget} {target : NodeTarget} {node : Node}
      (hafter : desired.nodes[target.nodeId]? = some node)
      (hruntime : node.runtimeId = runtime.runtimeId) :
      Arranged current desired (.startRuntime runtime) (.startNode target)
  | ingressAllocated {ingress : PublicIngressActivityTarget} {target : NodeTarget}
      {value : NamedPublicIngress}
      (hafter : desired.ingressById[ingress.ingressId]? = some value)
      (hconnector : value.connectorNodeId = target.nodeId) :
      Arranged current desired (.allocatePublicIngress ingress) (.startNode target)
  | targetHealthy {ingress : PublicIngressActivityTarget} {target : NodeTarget}
      {value : NamedPublicIngress}
      (hafter : desired.ingressById[ingress.ingressId]? = some value)
      (htarget : value.target.nodeId = target.nodeId) :
      Arranged current desired (.waitForHealthy target) (.allocatePublicIngress ingress)
  | targetReconciled {ingress : PublicIngressActivityTarget} {target : NodeTarget}
      {value : NamedPublicIngress}
      (hafter : desired.ingressById[ingress.ingressId]? = some value)
      (htarget : value.target.nodeId = target.nodeId) :
      Arranged current desired (.reconcileNode target) (.allocatePublicIngress ingress)
  | connectorStopped {ingress : PublicIngressActivityTarget} {target : NodeTarget}
      {value : NamedPublicIngress}
      (hbefore : current.ingressById[ingress.ingressId]? = some value)
      (hconnector : value.connectorNodeId = target.nodeId) :
      Arranged current desired (.stopNode target) (.removePublicIngress ingress)
  | ingressRemoved {ingress : PublicIngressActivityTarget} {target : NodeTarget}
      {value : NamedPublicIngress}
      (hbefore : current.ingressById[ingress.ingressId]? = some value)
      (htarget : value.target.nodeId = target.nodeId)
      (hother : value.connectorNodeId ≠ target.nodeId) :
      Arranged current desired (.removePublicIngress ingress) (.stopNode target)
  | connectionRemoved {connection : SocketConnectionTarget} {target : NodeTarget}
      {edge : Edge} (hbefore : current.edges[connection.edgeId]? = some edge)
      (hjoins : Joins edge target.nodeId) :
      Arranged current desired (.removeSocketConnection connection) (.stopNode target)
  | consumerReleased {edgeId : String} {consumer provider : NodeTarget} {edge : Edge}
      (hbefore : current.edges[edgeId]? = some edge)
      (hafter : desired.edges[edgeId]? = none)
      (hbinding : edge.binding = .environment)
      (hprovider : edge.providerRole = provider.nodeId)
      (hconsumer : edge.consumerRole = consumer.nodeId) :
      Arranged current desired (.reconcileNode consumer) (.stopNode provider)
  | connectionSwitched {connection : SocketConnectionTarget} {target : NodeTarget}
      {before after : Edge} (hbefore : current.edges[connection.edgeId]? = some before)
      (hafter : desired.edges[connection.edgeId]? = some after)
      (hjoins : Joins before target.nodeId) (hleaves : ¬ Joins after target.nodeId) :
      Arranged current desired (.switchSocketConnection connection) (.stopNode target)
  | consumerSwitched {edgeId : String} {consumer provider : NodeTarget}
      {before after : Edge} (hbefore : current.edges[edgeId]? = some before)
      (hafter : desired.edges[edgeId]? = some after) (hbinding : throughEnvironment
        before after = true) (hprovider : before.providerRole = provider.nodeId)
      (hleaves : ¬ Joins after provider.nodeId)
      (hconsumer : after.consumerRole = consumer.nodeId) :
      Arranged current desired (.reconcileNode consumer) (.stopNode provider)
  | nodeRemoved {target : NodeTarget} {runtime : RuntimeTarget} {node : Node}
      (hbefore : current.nodes[target.nodeId]? = some node)
      (hruntime : node.runtimeId = runtime.runtimeId) :
      Arranged current desired (.removeNodeResource target) (.stopRuntime runtime)
  | nodeStopped {target : NodeTarget} {runtime : RuntimeTarget} {node : Node}
      (hbefore : current.nodes[target.nodeId]? = some node)
      (hcompute : node.lifecycle.compute = .retained)
      (hruntime : node.runtimeId = runtime.runtimeId) :
      Arranged current desired (.stopNode target) (.stopRuntime runtime)
  | movedIn {runtime : RuntimeTarget} {target : NodeTarget} {before after : Node}
      (hbefore : current.nodes[target.nodeId]? = some before)
      (hafter : desired.nodes[target.nodeId]? = some after)
      (hmoved : before.runtimeId ≠ after.runtimeId)
      (hruntime : after.runtimeId = runtime.runtimeId) :
      Arranged current desired (.startRuntime runtime) (.reconcileNode target)
  | movedOut {runtime : RuntimeTarget} {target : NodeTarget} {before after : Node}
      (hbefore : current.nodes[target.nodeId]? = some before)
      (hafter : desired.nodes[target.nodeId]? = some after)
      (hmoved : before.runtimeId ≠ after.runtimeId)
      (hruntime : before.runtimeId = runtime.runtimeId) :
      Arranged current desired (.reconcileNode target) (.stopRuntime runtime)

/-- **What is arranged through the token of an edge.** -/
inductive Connected (current desired : DeploymentGraph) :
    ActivityOperation → ActivityOperation → Prop where
  | consumerStarted {edgeId : String} {provider consumer : NodeTarget} {edge : Edge}
      (hafter : desired.edges[edgeId]? = some edge)
      (hbefore : current.edges[edgeId]? = none)
      (hbinding : edge.binding = .environment)
      (hprovider : edge.providerRole = provider.nodeId)
      (hconsumer : edge.consumerRole = consumer.nodeId) :
      Connected current desired (.waitForHealthy provider) (.startNode consumer)
  | consumerBound {edgeId : String} {provider consumer : NodeTarget} {edge : Edge}
      (hafter : desired.edges[edgeId]? = some edge)
      (hbefore : current.edges[edgeId]? = none)
      (hbinding : edge.binding = .environment)
      (hprovider : edge.providerRole = provider.nodeId)
      (hconsumer : edge.consumerRole = consumer.nodeId) :
      Connected current desired (.waitForHealthy provider) (.reconcileNode consumer)
  | endAdded {connection : SocketConnectionTarget} {target : NodeTarget} {edge : Edge}
      (hafter : desired.edges[connection.edgeId]? = some edge)
      (hjoins : Joins edge target.nodeId) :
      Connected current desired (.waitForHealthy target)
        (.addSocketConnection connection)
  | consumerRebound {edgeId : String} {provider consumer : NodeTarget}
      {before after : Edge} (hbefore : current.edges[edgeId]? = some before)
      (hafter : desired.edges[edgeId]? = some after) (hne : before ≠ after)
      (hbinding : throughEnvironment before after = true)
      (hprovider : after.providerRole = provider.nodeId)
      (hconsumer : after.consumerRole = consumer.nodeId) :
      Connected current desired (.waitForHealthy provider) (.reconcileNode consumer)
  | endSwitched {connection : SocketConnectionTarget} {target : NodeTarget}
      {after : Edge} (hafter : desired.edges[connection.edgeId]? = some after)
      (hjoins : Joins after target.nodeId) : Connected current desired
      (.waitForHealthy target) (.switchSocketConnection connection)

/-- **Precedence**: the second operation waits for the first. -/
inductive Precedes (current desired : DeploymentGraph)
    (first second : ActivityOperation) : Prop where
  | follows (h : Follows first second)
  | arranged (h : Arranged current desired first second)
  | connected (h : Connected current desired first second)

/-! ## Links between drafts -/

section Links

variable {codec : GraphDescriptorCodec} {current desired : DeploymentGraph}
  {changes : List StructuralChange} {c : Compilation} {ls : List Link} {s p : Nat}

/-- Two drafts are linked when both are there. -/
theorem mem_linked {successor predecessor : Option DraftRef} :
    ⟨s, p⟩ ∈ Compilation.linked successor predecessor ↔
      successor = some s ∧ predecessor = some p := by
  unfold Compilation.linked
  split
  · simp [eq_comm]
  · rename_i hnone
    simp only [List.not_mem_nil, false_iff]
    rintro ⟨rfl, rfl⟩
    exact hnone s p rfl rfl

/-- A node's start is linked to what comes before it. -/
theorem mem_startAfter {nodeId : String} {predecessor : Option DraftRef}
    (h : c.startAfter nodeId predecessor = .ok ls) :
    ⟨s, p⟩ ∈ ls ↔ c.lookup .startNode nodeId = some s ∧ predecessor = some p := by
  unfold Compilation.startAfter at h
  split at h
  · cases h
    simp
  · split at h
    · rename_i hstart
      cases h
      simp [hstart, eq_comm]
    · cases h

/-- A connection is linked to the health of its ends. -/
theorem mem_endsHealthy {connection : Nat} {edge : Edge} :
    ⟨s, p⟩ ∈ c.endsHealthy connection edge ↔ s = connection ∧
      ∃ nodeId, Joins edge nodeId ∧ c.lookup .healthyNode nodeId = some p := by
  simp only [Compilation.endsHealthy, List.mem_append, mem_linked, Option.some.injEq,
    Joins, or_and_right, exists_or, exists_eq_left]
  rw [← and_or_left, eq_comm]

/-- **What an ingress is linked to** when a node stops. -/
theorem mem_ingressTeardown {nodeId : String} {stop : Nat} :
    ⟨s, p⟩ ∈ c.ingressTeardown nodeId stop ↔
      ∃ ingressId ingress, c.removedPublicIngresses[ingressId]? = some ingress ∧
        ((ingress.connectorNodeId = nodeId ∧
          c.lookup .removeIngress ingressId = some s ∧
            p = stop) ∨
          (ingress.connectorNodeId ≠ nodeId ∧
            ingress.target.nodeId = nodeId ∧ s = stop ∧
            c.lookup .removeIngress ingressId = some p)) := by
  simp only [Compilation.ingressTeardown, List.mem_flatMap, Prod.exists,
    KeyedMap.mem_toList]
  refine exists_congr fun ingressId => exists_congr fun ingress =>
    and_congr_right fun _ => ?_
  by_cases hconnector : ingress.connectorNodeId = nodeId
  · simp [hconnector, mem_linked, eq_comm]
  · by_cases htarget : ingress.target.nodeId = nodeId
    · simp [hconnector, Ne.symm hconnector, htarget, mem_linked, eq_comm]
    · simp [hconnector, Ne.symm hconnector, htarget, Ne.symm htarget]

/-- What a stopped node waits for at the connections it loses. -/
theorem mem_edgeTeardown {nodeId : String} {stop : Nat} :
    ⟨s, p⟩ ∈ c.edgeTeardown nodeId stop ↔ s = stop ∧
      ∃ (edgeId : String) (ref : Option DraftRef) (edge : Edge),
        c.removedEdges[edgeId]? = some (ref, edge) ∧ Joins edge nodeId ∧
        (ref = some p ∨ (ref = none ∧ nodeId = edge.providerRole ∧
          c.lookup .reconcileNode edge.consumerRole = some p)) := by
  simp only [Compilation.edgeTeardown, List.mem_flatMap, Prod.exists,
    KeyedMap.mem_toList, ← exists_and_left]
  refine exists_congr fun edgeId => exists_congr fun ref => exists_congr fun edge => ?_
  rw [← and_left_comm]
  refine and_congr_right fun _ => ?_
  by_cases hjoins : nodeId = edge.providerRole ∨ nodeId = edge.consumerRole
  · rw [if_pos hjoins]
    cases ref with
    | some remove => simp [Joins, hjoins, eq_comm]
    | none =>
        by_cases hprovider : nodeId = edge.providerRole
        · simp [Joins, hprovider, mem_linked, eq_comm]
        · simp [hprovider]
  · rw [if_neg hjoins]
    simp [Joins, hjoins]

/-- What a stopped node waits for at the connections that leave it. -/
theorem mem_edgeSwitchover {nodeId : String} {stop : Nat} :
    ⟨s, p⟩ ∈ c.edgeSwitchover nodeId stop ↔ s = stop ∧
      ∃ (edgeId : String) (ref : Option DraftRef) (before after : Edge),
        c.modifiedEdges[edgeId]? = some (ref, before, after) ∧ Joins before nodeId ∧
        ¬ Joins after nodeId ∧
        (ref = some p ∨ (ref = none ∧ nodeId = before.providerRole ∧
          c.lookup .reconcileNode after.consumerRole = some p)) := by
  simp only [Compilation.edgeSwitchover, List.mem_flatMap, Prod.exists,
    KeyedMap.mem_toList, ← exists_and_left]
  refine exists_congr fun edgeId => exists_congr fun ref => exists_congr fun before =>
    exists_congr fun after => ?_
  rw [← and_left_comm]
  refine and_congr_right fun _ => ?_
  by_cases hleaves : (nodeId = before.providerRole ∨ nodeId = before.consumerRole) ∧
      ¬(nodeId = after.providerRole ∨ nodeId = after.consumerRole)
  · have hjoins : Joins before nodeId := hleaves.1
    have hnot : ¬ Joins after nodeId := hleaves.2
    rw [if_pos hleaves]
    cases ref with
    | some switch => simp [hjoins, hnot, eq_comm]
    | none =>
        by_cases hprovider : nodeId = before.providerRole
        · simp [hprovider ▸ hjoins, hprovider ▸ hnot, hprovider, mem_linked, eq_comm]
        · simp [hprovider]
  · rw [if_neg hleaves]
    rw [not_and] at hleaves
    simp only [List.not_mem_nil, false_iff]
    rintro ⟨-, hjoins, hnot, -⟩
    exact hleaves hjoins hnot

/-! ## The lost and the switched connections -/

namespace Compiled

/-- An entry for a removed edge is of one that only the current graph has. -/
theorem removedEdge_of_entry (h : Compiled codec current desired changes c)
    {edgeId : String} {ref : Option DraftRef} {edge : Edge}
    (hentry : c.removedEdges[edgeId]? = some (ref, edge)) :
    current.edges[edgeId]? = some edge ∧ desired.edges[edgeId]? = none ∧
      c.ConnectionRef (edge.binding = .environment) .removeSocketConnection
        edgeId ref := by
  have hmem := (h.mem _).mp (h.gathered.removedEdges.sound hentry)
  obtain ⟨_, heq, hbefore, hafter⟩ := hmem.whole
  cases heq
  exact ⟨hbefore, hafter, h.gathered.removedRefs hentry⟩

/-- Every such edge has an entry. -/
theorem entry_of_removedEdge (h : Compiled codec current desired changes c)
    {edgeId : String} {edge : Edge} (hbefore : current.edges[edgeId]? = some edge)
    (hafter : desired.edges[edgeId]? = none) :
    ∃ ref, c.removedEdges[edgeId]? = some (ref, edge) := by
  have hmem := (h.mem _).mpr (.edgeRemoved hbefore hafter)
  obtain ⟨⟨ref, edge'⟩, hentry⟩ :=
    @h.gathered.removedEdges.present edgeId (none, edge) hmem
  obtain ⟨hbefore', -⟩ := h.removedEdge_of_entry hentry
  rw [hbefore] at hbefore'
  cases hbefore'
  exact ⟨ref, hentry⟩

/-- An entry for a changed edge is of one that both graphs have. -/
theorem modifiedEdge_of_entry (h : Compiled codec current desired changes c)
    {edgeId : String} {ref : Option DraftRef} {before after : Edge}
    (hentry : c.modifiedEdges[edgeId]? = some (ref, before, after)) :
    current.edges[edgeId]? = some before ∧ desired.edges[edgeId]? = some after ∧
      c.ConnectionRef (throughEnvironment before after = true) .switchSocketConnection
        edgeId ref := by
  have hmem := (h.mem _).mp (h.gathered.modifiedEdges.sound hentry)
  obtain ⟨_, _, heq, heq', hbefore, hafter, -⟩ := hmem.whole
  cases heq
  cases heq'
  exact ⟨hbefore, hafter, h.gathered.modifiedRefs hentry⟩

/-- Every such edge has an entry. -/
theorem entry_of_modifiedEdge (h : Compiled codec current desired changes c)
    {edgeId : String} {before after : Edge}
    (hbefore : current.edges[edgeId]? = some before)
    (hafter : desired.edges[edgeId]? = some after) (hne : before ≠ after) :
    ∃ ref, c.modifiedEdges[edgeId]? = some (ref, before, after) := by
  have hmem := (h.mem _).mpr (.edgeModified hbefore hafter hne)
  obtain ⟨⟨ref, before', after'⟩, hentry⟩ :=
    @h.gathered.modifiedEdges.present edgeId (none, before, after) hmem
  obtain ⟨hbefore', hafter', -⟩ := h.modifiedEdge_of_entry hentry
  rw [hbefore] at hbefore'
  rw [hafter] at hafter'
  cases hbefore'
  cases hafter'
  exact ⟨ref, hentry⟩

end Compiled

end Links

end ControlPlaneKit.Planning
