import ControlPlaneKit.Planning.Precedence

/-!
# LinkCompleteness — every rule between two drafts is a link

A rule names members of the two graphs; the change that shows them is in the
diff, and the second pass adds the link when it comes to that change.
-/

namespace ControlPlaneKit.Planning

open ControlPlaneKit.Library
open ControlPlaneKit.Library.Outcome (Succeeds collectMap)
open ControlPlaneKit.Topology
open Compilation (Link)

variable {codec : GraphDescriptorCodec} {current desired : DeploymentGraph}
  {changes : List StructuralChange} {c : Compilation} {ls : List Link} {s p : Nat}

namespace Compiled

/-- What one change adds is added. -/
theorem mem_links_of_change (hlinks : c.links changes = .ok ls)
    {change : StructuralChange} (hmem : change ∈ changes) {bs : List Link}
    (hbs : c.addDependencies change = .ok bs) (hlink : ⟨s, p⟩ ∈ bs) : ⟨s, p⟩ ∈ ls := by
  simp only [Compilation.links, EventFold.bind_ok] at hlinks
  obtain ⟨structural, hstructural, membership, hmembership, hrest⟩ := hlinks
  cases hrest
  exact List.mem_append_left _
    ((Outcome.mem_collectMap hstructural).mpr ⟨change, hmem, bs, hbs, hlink⟩)

/-- A change of the diff has its dependencies added. -/
theorem addDependencies_ok (hlinks : c.links changes = .ok ls)
    {change : StructuralChange} (hmem : change ∈ changes) :
    ∃ bs, c.addDependencies change = .ok bs := by
  simp only [Compilation.links, EventFold.bind_ok] at hlinks
  obtain ⟨structural, hstructural, -⟩ := hlinks
  exact Outcome.succeeds_collectMap.mp ⟨structural, hstructural⟩ change hmem

theorem mem_of_nodeAdded (hlinks : c.links changes = .ok ls)
    {nodeId : String} {node : Node} {encoded : PyDict}
    (hmem : .added (.node nodeId) (.node node encoded) ∈ changes)
    (hs : c.lookup .startNode nodeId = some s)
    (hp : c.lookup .startRuntime node.runtimeId = some p ∨ ∃ ingressId ingress,
      c.addedPublicIngresses[ingressId]? = some ingress ∧
      ingress.connectorNodeId = nodeId ∧
        c.lookup .allocateIngress ingressId = some p) : ⟨s, p⟩ ∈ ls := by
  obtain ⟨bs, hbs⟩ := addDependencies_ok hlinks hmem
  refine mem_links_of_change hlinks hmem hbs ?_
  obtain ⟨_, -, hbody⟩ := EventFold.bind_ok.mp hbs
  simp only [EventFold.bind_ok] at hbody
  obtain ⟨runtime, hruntime, ingresses, hingresses, hrest⟩ := hbody
  cases hrest
  rcases hp with hp | ⟨ingressId, ingress, hentry, hconnector, hp⟩
  · exact List.mem_append_left _ ((mem_startAfter hruntime).mpr ⟨hs, hp⟩)
  · refine List.mem_append_right _ ((Outcome.mem_collectMap hingresses).mpr
      ⟨(ingressId, ingress), KeyedMap.mem_toList.mpr hentry, [⟨s, p⟩], ?_, by simp⟩)
    simp [hconnector, Compilation.startAfter, hp, hs]

theorem mem_of_ingressAdded (hlinks : c.links changes = .ok ls) {ingressId : String}
    {ingress : NamedPublicIngress}
    (hmem : .added (.publicIngress ingressId) (.publicIngress ingress) ∈ changes)
    (hs : c.lookup .allocateIngress ingressId = some s)
    (hp : c.lookup .healthyNode ingress.target.nodeId = some p ∨
      c.lookup .reconcileNode ingress.target.nodeId = some p) : ⟨s, p⟩ ∈ ls := by
  obtain ⟨bs, hbs⟩ := addDependencies_ok hlinks hmem
  refine mem_links_of_change hlinks hmem hbs ?_
  obtain ⟨_, -, hbody⟩ := EventFold.bind_ok.mp hbs
  cases hbody
  refine List.mem_append_left _ (List.mem_append.mpr ?_)
  exact hp.imp (fun hp => mem_linked.mpr ⟨hs, hp⟩) fun hp => mem_linked.mpr ⟨hs, hp⟩

theorem mem_of_nodeRemoved (hlinks : c.links changes = .ok ls)
    {nodeId : String} {node : Node} {encoded : PyDict}
    (hmem : .removed (.node nodeId) (.node node encoded) ∈ changes) {stop : Nat}
    (hstop : c.lookup .stopNode nodeId = some stop)
    (hlink : ⟨s, p⟩ ∈ c.ingressTeardown nodeId stop ++ c.edgeTeardown nodeId stop ++
      c.edgeSwitchover nodeId stop) : ⟨s, p⟩ ∈ ls := by
  obtain ⟨bs, hbs⟩ := addDependencies_ok hlinks hmem
  refine mem_links_of_change hlinks hmem hbs ?_
  obtain ⟨_, -, hbody⟩ := EventFold.bind_ok.mp hbs
  simp only [hstop] at hbody
  cases hbody
  exact hlink

theorem mem_of_runtimeRemoved (hlinks : c.links changes = .ok ls)
    {runtimeId nodeId : String} {value : DiffValue}
    (hmem : .removed (.runtime runtimeId) value ∈ changes)
    (hs : c.lookup .stopRuntime runtimeId = some s)
    (hentry : c.removedNodeRuntime[nodeId]? = some runtimeId)
    (hp : c.nodeGone nodeId = some p) : ⟨s, p⟩ ∈ ls := by
  obtain ⟨bs, hbs⟩ := addDependencies_ok hlinks hmem
  refine mem_links_of_change hlinks hmem hbs ?_
  obtain ⟨_, -, hbody⟩ := EventFold.bind_ok.mp hbs
  simp only [hs] at hbody
  cases hbody
  refine List.mem_append_left _ (List.mem_flatMap.mpr
    ⟨(nodeId, runtimeId), KeyedMap.mem_toList.mpr hentry, ?_⟩)
  rw [if_pos rfl]
  exact mem_linked.mpr ⟨rfl, hp⟩

theorem mem_of_moved (h : Compiled codec current desired changes c)
    (hlinks : c.links changes = .ok ls) {nodeId : String} {before after : Node}
    (hbefore : current.nodes[nodeId]? = some before)
    (hafter : desired.nodes[nodeId]? = some after)
    (hfamily : before.blockFamily = after.blockFamily)
    (hmoved : before.runtimeId ≠ after.runtimeId) {reconcile : Nat}
    (hreconcile : c.lookup .reconcileNode nodeId = some reconcile)
    (hlink : ⟨s, p⟩ ∈ c.membershipLinks reconcile (.modified
      (.field (.node nodeId) .runtimeMembership none) (.text before.runtimeId)
      (.text after.runtimeId))) : ⟨s, p⟩ ∈ ls := by
  have hmem := (h.mem _).mpr
    (membership_of_moved h.encodable.1 h.encodable.2 hbefore hafter hfamily hmoved)
  obtain ⟨group, hgroup⟩ :=
    (@foundGroup_isSome changes (.node nodeId)).mpr ⟨_, hmem, rfl⟩
  have hentry := h.gathered.nodeGroups nodeId
  rw [hgroup] at hentry
  simp only [Compilation.links, EventFold.bind_ok] at hlinks
  obtain ⟨structural, -, membership, hmembership, hrest⟩ := hlinks
  cases hrest
  refine List.mem_append_right _ ((Outcome.mem_collectMap hmembership).mpr
    ⟨(nodeId, group), KeyedMap.mem_toList.mpr hentry,
      group.flatMap (c.membershipLinks reconcile), ?_, ?_⟩)
  · simp [Compilation.groupLinks, hreconcile]
  · exact List.mem_flatMap.mpr ⟨_, (mem_of_foundGroup hgroup).mpr ⟨hmem, rfl⟩, hlink⟩

theorem lookup_of_holds (h : Compiled codec current desired changes c) (table : Table)
    {key : String} {hblank : Text.isBlank key = false} {ref : Nat}
    (hop : c.Holds ref (table.operation key hblank)) : c.lookup table key = some ref :=
  h.lookup_eq_some.mpr ⟨hblank, hop⟩

theorem nodeAdded_mem (h : Compiled codec current desired changes c)
    {target : NodeTarget}
    (hop : Drafted codec current desired (.startNode target)) {node : Node}
    (hafter : desired.nodes[target.nodeId]? = some node) :
    ∃ encoded, .added (.node target.nodeId) (.node node encoded) ∈ changes := by
  cases hop with
  | startNode hafter' hbefore howned =>
      rw [hafter] at hafter'
      cases hafter'
      obtain ⟨encoded, hencoded⟩ := h.encodable.2 _ _ hafter
      exact ⟨encoded, (h.mem _).mpr (.nodeAdded hafter hbefore hencoded)⟩

theorem nodeRemoved_mem (h : Compiled codec current desired changes c)
    {target : NodeTarget} (hop : Drafted codec current desired (.stopNode target)) :
    ∃ node encoded, .removed (.node target.nodeId) (.node node encoded) ∈ changes ∧
      current.nodes[target.nodeId]? = some node ∧ desired.nodes[target.nodeId]? = none ∧
      node.lifecycle.ownership = .owned := by
  cases hop with
  | stopNode hbefore hafter howned =>
      obtain ⟨encoded, hencoded⟩ := h.encodable.1 _ _ hbefore
      exact ⟨_, encoded, (h.mem _).mpr (.nodeRemoved hbefore hafter hencoded),
        hbefore, hafter, howned⟩

theorem ingressAdded_entry (h : Compiled codec current desired changes c)
    {target : PublicIngressActivityTarget}
    (hop : Drafted codec current desired (.allocatePublicIngress target))
    {ingress : NamedPublicIngress}
    (hafter : desired.ingressById[target.ingressId]? = some ingress) :
    .added (.publicIngress target.ingressId) (.publicIngress ingress) ∈ changes ∧
      c.addedPublicIngresses[target.ingressId]? = some ingress := by
  cases hop with
  | allocateIngress hafter' hbefore =>
      exact ⟨(h.mem _).mpr (.ingressAdded hafter hbefore),
        h.addedPublicIngresses_eq_some.mpr ⟨hafter, hbefore⟩⟩

theorem ingressRemoved_entry (h : Compiled codec current desired changes c)
    {target : PublicIngressActivityTarget}
    (hop : Drafted codec current desired (.removePublicIngress target))
    {ingress : NamedPublicIngress}
    (hbefore : current.ingressById[target.ingressId]? = some ingress) :
    c.removedPublicIngresses[target.ingressId]? = some ingress := by
  cases hop with
  | removeIngress hbefore' hafter =>
      exact h.removedPublicIngresses_eq_some.mpr ⟨hbefore, hafter⟩

theorem runtimeRemoved_mem (h : Compiled codec current desired changes c)
    {target : RuntimeTarget}
    (hop : Drafted codec current desired (.stopRuntime target)) :
    ∃ value, .removed (.runtime target.runtimeId) value ∈ changes := by
  cases hop with
  | stopRuntime hbefore hafter howned =>
      exact ⟨_, (h.mem _).mpr (.runtimeRemoved hbefore hafter)⟩

/-- A reconciled node keeps its family. -/
theorem family_of_reconciled {target : NodeTarget}
    (hop : Drafted codec current desired (.reconcileNode target)) {before after : Node}
    (hbefore : current.nodes[target.nodeId]? = some before)
    (hafter : desired.nodes[target.nodeId]? = some after) :
    before.blockFamily = after.blockFamily := by
  cases hop with
  | reconcileNode hreconciled =>
      obtain ⟨before', after', hbefore', hafter', hfamily, -⟩ := hreconciled
      rw [hbefore] at hbefore'
      rw [hafter] at hafter'
      cases hbefore'
      cases hafter'
      exact hfamily

/-- What is reconciled is not started. -/
theorem not_started (h : Compiled codec current desired changes c) {target : NodeTarget}
    (hop : Drafted codec current desired (.reconcileNode target)) :
    c.lookup .startNode target.nodeId = none := by
  refine Option.eq_none_iff_forall_ne_some.mpr fun ref href => ?_
  obtain ⟨hblank, hstart⟩ := h.lookup_eq_some.mp href
  cases hop with
  | reconcileNode hreconciled =>
      obtain ⟨before, after, hbefore, -⟩ := hreconciled
      cases h.drafted_of_holds hstart with
      | startNode hafter hnone howned =>
          rw [hbefore] at hnone
          cases hnone

theorem not_drafts_edgeAdded {edgeId : String} {edge : Edge}
    (hbinding : edge.binding = .environment) (operation : ActivityOperation) :
    ¬ Drafts (.added (.edge edgeId) (.edge edge)) operation := by
  intro hdrafts
  cases hdrafts with
  | addConnection hother => exact hother hbinding
  | review hreason => cases hreason

theorem not_drafts_edgeModified {edgeId : String} {before after : Edge}
    (hbinding : throughEnvironment before after = true)
    (operation : ActivityOperation) :
    ¬ Drafts (.modified (.edge edgeId) (.edge before) (.edge after)) operation := by
  intro hdrafts
  cases hdrafts with
  | switchConnection hother =>
      rw [hbinding] at hother
      cases hother
  | review hreason => cases hreason

theorem drafts_edgeAdded_unique {target : SocketConnectionTarget} {edge : Edge}
    (other : ActivityOperation)
    (hdrafts : Drafts (.added (.edge target.edgeId) (.edge edge)) other) :
    other = .addSocketConnection target := by
  obtain ⟨edgeId, hblank⟩ := target
  cases hdrafts with
  | addConnection => rfl
  | review hreason => cases hreason

theorem drafts_edgeModified_unique {target : SocketConnectionTarget}
    {before after : Edge} (other : ActivityOperation)
    (hdrafts : Drafts
      (.modified (.edge target.edgeId) (.edge before) (.edge after)) other) :
    other = .switchSocketConnection target := by
  obtain ⟨edgeId, hblank⟩ := target
  cases hdrafts with
  | switchConnection => rfl
  | review hreason => cases hreason

/-- The draft remembered for a lost connection is its own. -/
theorem ref_of_connection (h : Compiled codec current desired changes c)
    {environment : Prop} {operation : SocketConnectionTarget → ActivityOperation}
    {target : SocketConnectionTarget} {ref : Option DraftRef}
    (href : c.ConnectionRef environment operation target.edgeId ref)
    (henvironment : ¬ environment) (hop : c.Holds p (operation target)) :
    ref = some p := by
  cases ref with
  | none => exact absurd href henvironment
  | some ref =>
      obtain ⟨-, ⟨edgeId, hblank⟩, heq, hop'⟩ := href
      cases heq
      rw [h.holds_unique hop hop']

/-- What was arranged through the environment has no draft of its own. -/
theorem ref_of_environment {environment : Prop}
    {operation : SocketConnectionTarget → ActivityOperation} {edgeId : String}
    {ref : Option DraftRef} (href : c.ConnectionRef environment operation edgeId ref)
    (henvironment : environment) : ref = none := by
  cases ref with
  | none => rfl
  | some ref => exact absurd henvironment href.1

/-! ### What is arranged -/

/-- The links of a stopped node are links. -/
theorem mem_of_stopped (h : Compiled codec current desired changes c)
    (hlinks : c.links changes = .ok ls) {target : NodeTarget} {stop : Nat}
    (hstop : c.Holds stop (.stopNode target))
    (hlink : ⟨s, p⟩ ∈ c.ingressTeardown target.nodeId stop ++
      c.edgeTeardown target.nodeId stop ++
      c.edgeSwitchover target.nodeId stop) : ⟨s, p⟩ ∈ ls := by
  obtain ⟨node, encoded, hmem, -⟩ := h.nodeRemoved_mem (h.drafted_of_holds hstop)
  exact mem_of_nodeRemoved hlinks hmem (h.lookup_of_holds .stopNode hstop) hlink

/-- A connector starts after its ingress is allocated. -/
theorem mem_of_ingressAllocated (h : Compiled codec current desired changes c)
    (hlinks : c.links changes = .ok ls) {allocated : PublicIngressActivityTarget}
    {target : NodeTarget} {ingress : NamedPublicIngress}
    (hp : c.Holds p (.allocatePublicIngress allocated))
    (hs : c.Holds s (.startNode target))
    (hingress : desired.ingressById[allocated.ingressId]? = some ingress)
    (hconnector : ingress.connectorNodeId = target.nodeId) : ⟨s, p⟩ ∈ ls := by
  obtain ⟨-, hentry⟩ := h.ingressAdded_entry (h.drafted_of_holds hp) hingress
  obtain ⟨node, hafter⟩ : ∃ node, desired.nodes[target.nodeId]? = some node := by
    cases h.drafted_of_holds hs with
    | startNode hafter => exact ⟨_, hafter⟩
  obtain ⟨encoded, hmem⟩ := h.nodeAdded_mem (h.drafted_of_holds hs) hafter
  exact mem_of_nodeAdded hlinks hmem (h.lookup_of_holds .startNode hs)
    (.inr ⟨_, _, hentry, hconnector, h.lookup_of_holds .allocateIngress hp⟩)

/-- A removed connection is torn down at its ends. -/
theorem edgeTeardown_of_removed (h : Compiled codec current desired changes c)
    {connection : SocketConnectionTarget} {nodeId : String} {edge : Edge}
    (hp : c.Holds p (.removeSocketConnection connection))
    (hedge : current.edges[connection.edgeId]? = some edge)
    (hjoins : Joins edge nodeId) : ⟨s, p⟩ ∈ c.edgeTeardown nodeId s := by
  cases h.drafted_of_holds hp with
  | removeConnection hbefore hafter hbinding =>
      rw [hedge] at hbefore
      cases hbefore
      obtain ⟨ref, hentry⟩ := h.entry_of_removedEdge hedge hafter
      obtain ⟨-, -, href⟩ := h.removedEdge_of_entry hentry
      exact mem_edgeTeardown.mpr
        ⟨rfl, _, ref, _, hentry, hjoins, .inl (h.ref_of_connection href hbinding hp)⟩

/-- A consumer that is released is reconciled before its provider stops. -/
theorem edgeTeardown_of_released (h : Compiled codec current desired changes c)
    {edgeId : String} {consumer : NodeTarget} {nodeId : String} {edge : Edge}
    (hp : c.Holds p (.reconcileNode consumer))
    (hedge : current.edges[edgeId]? = some edge) (hgone : desired.edges[edgeId]? = none)
    (hbinding : edge.binding = .environment) (hprovider : edge.providerRole = nodeId)
    (hconsumer : edge.consumerRole = consumer.nodeId) :
    ⟨s, p⟩ ∈ c.edgeTeardown nodeId s := by
  obtain ⟨ref, hentry⟩ := h.entry_of_removedEdge hedge hgone
  obtain ⟨-, -, href⟩ := h.removedEdge_of_entry hentry
  refine mem_edgeTeardown.mpr ⟨rfl, _, ref, _, hentry, .inl hprovider.symm,
    .inr ⟨ref_of_environment href hbinding, hprovider.symm, ?_⟩⟩
  rw [hconsumer]
  exact h.lookup_of_holds .reconcileNode hp

/-- A connection is switched before an end that it leaves stops. -/
theorem edgeSwitchover_of_switched (h : Compiled codec current desired changes c)
    {connection : SocketConnectionTarget} {nodeId : String} {before after : Edge}
    (hp : c.Holds p (.switchSocketConnection connection))
    (hbefore : current.edges[connection.edgeId]? = some before)
    (hafter : desired.edges[connection.edgeId]? = some after)
    (hjoins : Joins before nodeId) (hleaves : ¬ Joins after nodeId) :
    ⟨s, p⟩ ∈ c.edgeSwitchover nodeId s := by
  cases h.drafted_of_holds hp with
  | switchConnection hbefore' hafter' hne hbinding =>
      rw [hbefore] at hbefore'
      rw [hafter] at hafter'
      cases hbefore'
      cases hafter'
      obtain ⟨ref, hentry⟩ := h.entry_of_modifiedEdge hbefore hafter hne
      obtain ⟨-, -, href⟩ := h.modifiedEdge_of_entry hentry
      exact mem_edgeSwitchover.mpr ⟨rfl, _, ref, _, _, hentry, hjoins, hleaves,
        .inl (h.ref_of_connection href (by simp [hbinding]) hp)⟩

/-- A consumer that is switched is reconciled before the provider it leaves stops. -/
theorem edgeSwitchover_of_rebound (h : Compiled codec current desired changes c)
    {edgeId : String} {consumer : NodeTarget} {nodeId : String} {before after : Edge}
    (hp : c.Holds p (.reconcileNode consumer))
    (hbefore : current.edges[edgeId]? = some before)
    (hafter : desired.edges[edgeId]? = some after)
    (hbinding : throughEnvironment before after = true)
    (hprovider : before.providerRole = nodeId) (hleaves : ¬ Joins after nodeId)
    (hconsumer : after.consumerRole = consumer.nodeId) :
    ⟨s, p⟩ ∈ c.edgeSwitchover nodeId s := by
  obtain ⟨ref, hentry⟩ := h.entry_of_modifiedEdge hbefore hafter
    (ne_of_leaves (.inl hprovider.symm) hleaves)
  obtain ⟨-, -, href⟩ := h.modifiedEdge_of_entry hentry
  refine mem_edgeSwitchover.mpr
    ⟨rfl, _, ref, _, _, hentry, .inl hprovider.symm, hleaves,
    .inr ⟨ref_of_environment href hbinding, hprovider.symm, ?_⟩⟩
  rw [hconsumer]
  exact h.lookup_of_holds .reconcileNode hp

/-- A runtime stops after the removal of a node it ran. -/
theorem mem_of_removedNode (h : Compiled codec current desired changes c)
    (hlinks : c.links changes = .ok ls) {target : NodeTarget} {runtime : RuntimeTarget}
    {node : Node} (hp : c.Holds p (.removeNodeResource target))
    (hs : c.Holds s (.stopRuntime runtime))
    (hbefore : current.nodes[target.nodeId]? = some node)
    (hruntime : node.runtimeId = runtime.runtimeId) : ⟨s, p⟩ ∈ ls := by
  obtain ⟨value, hmem⟩ := h.runtimeRemoved_mem (h.drafted_of_holds hs)
  cases h.drafted_of_holds hp with
  | removeNode hbefore' hafter howned hcompute =>
      rw [hbefore] at hbefore'
      cases hbefore'
      have hentry :=
        h.removedNodeRuntime_eq_some.mpr ⟨node, hbefore, hafter, howned, hruntime⟩
      exact mem_of_runtimeRemoved hlinks hmem (h.lookup_of_holds .stopRuntime hs) hentry
        (Option.or_eq_some_iff.mpr (.inl (h.lookup_of_holds .removeNode hp)))

/-- What keeps its compute has no removal. -/
theorem not_removed (h : Compiled codec current desired changes c)
    {nodeId : String} {node : Node} (hbefore : current.nodes[nodeId]? = some node)
    (hcompute : node.lifecycle.compute = .retained) :
    c.lookup .removeNode nodeId = none := by
  refine Option.eq_none_iff_forall_ne_some.mpr fun ref href => ?_
  obtain ⟨hblank, hop⟩ := h.lookup_eq_some.mp href
  cases h.drafted_of_holds hop with
  | removeNode hbefore' hafter' howned' hcompute' =>
      rw [hbefore] at hbefore'
      cases hbefore'
      exact hcompute' hcompute

/-- A runtime stops after a node that keeps its compute has stopped. -/
theorem mem_of_stoppedNode (h : Compiled codec current desired changes c)
    (hlinks : c.links changes = .ok ls) {target : NodeTarget} {runtime : RuntimeTarget}
    {node : Node} (hp : c.Holds p (.stopNode target))
    (hs : c.Holds s (.stopRuntime runtime))
    (hbefore : current.nodes[target.nodeId]? = some node)
    (hcompute : node.lifecycle.compute = .retained)
    (hruntime : node.runtimeId = runtime.runtimeId) : ⟨s, p⟩ ∈ ls := by
  obtain ⟨value, hmem⟩ := h.runtimeRemoved_mem (h.drafted_of_holds hs)
  obtain ⟨node', -, -, hbefore', hafter, howned⟩ :=
    h.nodeRemoved_mem (h.drafted_of_holds hp)
  rw [hbefore] at hbefore'
  cases hbefore'
  have hentry :=
    h.removedNodeRuntime_eq_some.mpr ⟨node, hbefore, hafter, howned, hruntime⟩
  exact mem_of_runtimeRemoved hlinks hmem (h.lookup_of_holds .stopRuntime hs) hentry
    (Option.or_eq_some_iff.mpr
      (.inr ⟨h.not_removed hbefore hcompute, h.lookup_of_holds .stopNode hp⟩))

/-- **Completeness of the tables**: what is arranged is linked. -/
theorem mem_of_arranged (h : Compiled codec current desired changes c)
    (hlinks : c.links changes = .ok ls) {first second : ActivityOperation}
    (hp : c.Holds p first) (hs : c.Holds s second)
    (hrule : Arranged current desired first second) : ⟨s, p⟩ ∈ ls := by
  have hfirst := h.drafted_of_holds hp
  have hsecond := h.drafted_of_holds hs
  cases hrule with
  | runtimeStarted hafter hruntime =>
      obtain ⟨encoded, hmem⟩ := h.nodeAdded_mem hsecond hafter
      refine mem_of_nodeAdded hlinks hmem (h.lookup_of_holds .startNode hs) (.inl ?_)
      rw [hruntime]
      exact h.lookup_of_holds .startRuntime hp
  | ingressAllocated hingress hconnector =>
      exact h.mem_of_ingressAllocated hlinks hp hs hingress hconnector
  | targetHealthy hingress htarget =>
      obtain ⟨hmem, -⟩ := h.ingressAdded_entry hsecond hingress
      refine mem_of_ingressAdded hlinks hmem
        (h.lookup_of_holds .allocateIngress hs) (.inl ?_)
      rw [htarget]
      exact h.lookup_of_holds .healthyNode hp
  | targetReconciled hingress htarget =>
      obtain ⟨hmem, -⟩ := h.ingressAdded_entry hsecond hingress
      refine mem_of_ingressAdded hlinks hmem
        (h.lookup_of_holds .allocateIngress hs) (.inr ?_)
      rw [htarget]
      exact h.lookup_of_holds .reconcileNode hp
  | connectorStopped hingress hconnector =>
      have hentry := h.ingressRemoved_entry hsecond hingress
      exact h.mem_of_stopped hlinks hp (List.mem_append_left _ (List.mem_append_left _
        (mem_ingressTeardown.mpr
          ⟨_, _, hentry, .inl ⟨hconnector, h.lookup_of_holds .removeIngress hs, rfl⟩⟩)))
  | ingressRemoved hingress htarget hother =>
      have hentry := h.ingressRemoved_entry hfirst hingress
      exact h.mem_of_stopped hlinks hs (List.mem_append_left _ (List.mem_append_left _
        (mem_ingressTeardown.mpr
          ⟨_, _, hentry,
            .inr ⟨hother, htarget, rfl, h.lookup_of_holds .removeIngress hp⟩⟩)))
  | connectionRemoved hedge hjoins =>
      exact h.mem_of_stopped hlinks hs (List.mem_append_left _ (List.mem_append_right _
        (h.edgeTeardown_of_removed hp hedge hjoins)))
  | consumerReleased hedge hgone hbinding hprovider hconsumer =>
      exact h.mem_of_stopped hlinks hs (List.mem_append_left _ (List.mem_append_right _
        (h.edgeTeardown_of_released hp hedge hgone hbinding hprovider hconsumer)))
  | connectionSwitched hbefore hafter hjoins hleaves =>
      exact h.mem_of_stopped hlinks hs (List.mem_append_right _
        (h.edgeSwitchover_of_switched hp hbefore hafter hjoins hleaves))
  | consumerSwitched hbefore hafter hbinding hprovider hleaves hconsumer =>
      exact h.mem_of_stopped hlinks hs (List.mem_append_right _
        (h.edgeSwitchover_of_rebound hp hbefore hafter hbinding hprovider
          hleaves hconsumer))
  | nodeRemoved hbefore hruntime =>
      exact h.mem_of_removedNode hlinks hp hs hbefore hruntime
  | nodeStopped hbefore hcompute hruntime =>
      exact h.mem_of_stoppedNode hlinks hp hs hbefore hcompute hruntime
  | movedIn hbefore hafter hmoved hruntime =>
      have hfamily := family_of_reconciled hsecond hbefore hafter
      refine h.mem_of_moved hlinks hbefore hafter hfamily hmoved
        (h.lookup_of_holds .reconcileNode hs)
        (List.mem_append_left _ (mem_linked.mpr ⟨rfl, ?_⟩))
      rw [hruntime]
      exact h.lookup_of_holds .startRuntime hp
  | movedOut hbefore hafter hmoved hruntime =>
      have hfamily := family_of_reconciled hfirst hbefore hafter
      refine h.mem_of_moved hlinks hbefore hafter hfamily hmoved
        (h.lookup_of_holds .reconcileNode hp)
        (List.mem_append_right _ (mem_linked.mpr ⟨?_, rfl⟩))
      rw [hruntime]
      exact h.lookup_of_holds .stopRuntime hs

/-- The token of an edge of the diff, when its dependencies were added. -/
theorem matchingRef_ok (hlinks : c.links changes = .ok ls) {change : StructuralChange}
    (hmem : change ∈ changes) : ∃ found, c.matchingRef change = .ok found := by
  obtain ⟨bs, hbs⟩ := addDependencies_ok hlinks hmem
  obtain ⟨found, hfound, -⟩ := EventFold.bind_ok.mp hbs
  exact ⟨found, hfound⟩

/-- An edge without an activity of its own is found by no token. -/
theorem matchingRef_of_undrafted (h : Compiled codec current desired changes c)
    (hdistinct : TokensDistinct changes) (hlinks : c.links changes = .ok ls)
    {change : StructuralChange} (hmem : change ∈ changes)
    (hnone : reconciliationOwner change = none)
    (hundrafted : ∀ operation, ¬ Drafts change operation) :
    c.matchingRef change = .ok none := by
  obtain ⟨found, hfound⟩ := matchingRef_ok hlinks hmem
  cases found with
  | none => exact hfound
  | some ref =>
      obtain ⟨operation, -, hdrafts⟩ := h.matchingRef_some hdistinct hmem hnone hfound
      exact absurd hdrafts (hundrafted operation)

/-- An edge with one activity is found as that activity. -/
theorem matchingRef_of_drafted (h : Compiled codec current desired changes c)
    (hdistinct : TokensDistinct changes) (hlinks : c.links changes = .ok ls)
    {change : StructuralChange} (hmem : change ∈ changes)
    (hnone : reconciliationOwner change = none) {operation : ActivityOperation}
    (hdrafts : Drafts change operation)
    (hunique : ∀ other, Drafts change other → other = operation)
    (hs : c.Holds s operation) : c.matchingRef change = .ok (some s) := by
  obtain ⟨found, hfound⟩ := matchingRef_ok hlinks hmem
  cases found with
  | none => exact absurd hdrafts (h.matchingRef_none hmem hnone hfound)
  | some ref =>
      obtain ⟨other, hop, hdrafts'⟩ := h.matchingRef_some hdistinct hmem hnone hfound
      rw [hunique other hdrafts'] at hop
      rw [hfound, h.holds_unique hop hs]

theorem mem_of_edgeAdded (hlinks : c.links changes = .ok ls)
    {edgeId : String} {edge : Edge}
    (hmem : .added (.edge edgeId) (.edge edge) ∈ changes)
    (hfound : c.matchingRef (.added (.edge edgeId) (.edge edge)) = .ok none)
    (hs : (c.lookup .startNode edge.consumerRole).or
      (c.lookup .reconcileNode edge.consumerRole) =
      some s) (hp : c.lookup .healthyNode edge.providerRole = some p) :
      ⟨s, p⟩ ∈ ls := by
  obtain ⟨bs, hbs⟩ := addDependencies_ok hlinks hmem
  refine mem_links_of_change hlinks hmem hbs ?_
  simp only [Compilation.addDependencies, hfound] at hbs
  cases hbs
  exact mem_linked.mpr ⟨hs, hp⟩

/-- **Completeness of the tokens**: where they are distinct, what is connected is
linked. -/
theorem mem_of_connected (h : Compiled codec current desired changes c)
    (hdistinct : TokensDistinct changes) (hlinks : c.links changes = .ok ls)
    {first second : ActivityOperation} (hp : c.Holds p first) (hs : c.Holds s second)
    (hrule : Connected current desired first second) : ⟨s, p⟩ ∈ ls := by
  have hsecond := h.drafted_of_holds hs
  cases hrule with
  | @consumerStarted edgeId provider consumer edge hafter hbefore hbinding
      hprovider hconsumer =>
      have hmem := (h.mem _).mpr (.edgeAdded hafter hbefore)
      have hfound := h.matchingRef_of_undrafted hdistinct hlinks hmem rfl
        (not_drafts_edgeAdded hbinding)
      refine mem_of_edgeAdded hlinks hmem hfound ?_ ?_
      · rw [hconsumer, h.lookup_of_holds .startNode hs]
        rfl
      · rw [hprovider]
        exact h.lookup_of_holds .healthyNode hp
  | @consumerBound edgeId provider consumer edge hafter hbefore hbinding
      hprovider hconsumer =>
      have hmem := (h.mem _).mpr (.edgeAdded hafter hbefore)
      have hfound := h.matchingRef_of_undrafted hdistinct hlinks hmem rfl
        (not_drafts_edgeAdded hbinding)
      refine mem_of_edgeAdded hlinks hmem hfound ?_ ?_
      · rw [hconsumer, h.lookup_of_holds .reconcileNode hs, h.not_started hsecond]
        rfl
      · rw [hprovider]
        exact h.lookup_of_holds .healthyNode hp
  | endAdded hafter hjoins =>
      cases hsecond with
      | addConnection hafter' hbefore hbinding =>
          rw [hafter] at hafter'
          cases hafter'
          have hmem := (h.mem _).mpr (.edgeAdded hafter hbefore)
          have hfound := h.matchingRef_of_drafted hdistinct hlinks hmem rfl
            (.addConnection hbinding) drafts_edgeAdded_unique hs
          obtain ⟨bs, hbs⟩ := addDependencies_ok hlinks hmem
          refine mem_links_of_change hlinks hmem hbs ?_
          simp only [Compilation.addDependencies, hfound] at hbs
          cases hbs
          exact mem_endsHealthy.mpr ⟨rfl, _, hjoins, h.lookup_of_holds .healthyNode hp⟩
  | consumerRebound hbefore hafter hne hbinding hprovider hconsumer =>
      have hmem := (h.mem _).mpr (.edgeModified hbefore hafter hne)
      have hfound := h.matchingRef_of_undrafted hdistinct hlinks hmem rfl
        (not_drafts_edgeModified hbinding)
      obtain ⟨bs, hbs⟩ := addDependencies_ok hlinks hmem
      refine mem_links_of_change hlinks hmem hbs ?_
      simp only [Compilation.addDependencies, hfound] at hbs
      cases hbs
      refine mem_linked.mpr ⟨?_, ?_⟩
      · rw [hconsumer]
        exact h.lookup_of_holds .reconcileNode hs
      · rw [hprovider]
        exact h.lookup_of_holds .healthyNode hp
  | endSwitched hafter hjoins =>
      cases hsecond with
      | switchConnection hbefore hafter' hne hbinding =>
          rw [hafter] at hafter'
          cases hafter'
          have hmem := (h.mem _).mpr (.edgeModified hbefore hafter hne)
          have hfound := h.matchingRef_of_drafted hdistinct hlinks hmem rfl
            (.switchConnection hbinding) drafts_edgeModified_unique hs
          obtain ⟨bs, hbs⟩ := addDependencies_ok hlinks hmem
          refine mem_links_of_change hlinks hmem hbs ?_
          simp only [Compilation.addDependencies, hfound] at hbs
          cases hbs
          exact mem_endsHealthy.mpr ⟨rfl, _, hjoins, h.lookup_of_holds .healthyNode hp⟩

end Compiled

end ControlPlaneKit.Planning
