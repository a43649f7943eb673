import ControlPlaneKit.Planning.CompiledPlan

/-!
# PlanConditions — when two graphs have a plan

The compiler builds targets from identities of the graphs, renders the changes,
and looks up the start of every added node that has something to wait for.  Each
of the three can fail; what is then composed can only be rejected.
-/

namespace ControlPlaneKit.Planning

open ControlPlaneKit.Library
open ControlPlaneKit.Library.Outcome
  (Succeeds collectMap mapError_eq_ok mapError_eq_error)
open ControlPlaneKit.Library.Text (isBlank)
open ControlPlaneKit.Topology
open Compilation (Link)

/-! ## The conditions -/

/-- **Named targets**: no identity that becomes a target is blank. -/
structure TargetsNamed (current desired : DeploymentGraph) : Prop where
  runtimeAdded : ∀ (runtimeId : String) (runtime : RuntimeRecord),
    desired.runtimes[runtimeId]? = some runtime → current.runtimes[runtimeId]? = none →
    runtime.lifecycle.ownership = .owned → isBlank runtimeId = false
  runtimeRemoved : ∀ (runtimeId : String) (runtime : RuntimeRecord),
    current.runtimes[runtimeId]? = some runtime → desired.runtimes[runtimeId]? = none →
    runtime.lifecycle.ownership = .owned → isBlank runtimeId = false
  runtimeReconciled : ∀ runtimeId, RuntimeReconciled current desired runtimeId →
    isBlank runtimeId = false
  nodeAdded : ∀ (nodeId : String) (node : Node),
    desired.nodes[nodeId]? = some node → current.nodes[nodeId]? = none →
    node.lifecycle.ownership = .owned → isBlank nodeId = false
  nodeRemoved : ∀ (nodeId : String) (node : Node),
    current.nodes[nodeId]? = some node → desired.nodes[nodeId]? = none →
    node.lifecycle.ownership = .owned → isBlank nodeId = false
  nodeReconciled : ∀ nodeId, NodeReconciled current desired nodeId →
    isBlank nodeId = false
  edgeAdded : ∀ (edgeId : String) (edge : Edge),
    desired.edges[edgeId]? = some edge → current.edges[edgeId]? = none →
    edge.binding ≠ .environment → isBlank edgeId = false
  edgeRemoved : ∀ (edgeId : String) (edge : Edge),
    current.edges[edgeId]? = some edge → desired.edges[edgeId]? = none →
    edge.binding ≠ .environment → isBlank edgeId = false
  edgeModified : ∀ (edgeId : String) (before after : Edge),
    current.edges[edgeId]? = some before → desired.edges[edgeId]? = some after →
    before ≠ after → throughEnvironment before after = false → isBlank edgeId = false

/-- **Idle starts**: an added node that is not owned, so not started, has nothing
that its start would wait for. -/
def UnownedStartsIdle (current desired : DeploymentGraph) : Prop :=
  ∀ (nodeId : String) (node : Node), desired.nodes[nodeId]? = some node →
    current.nodes[nodeId]? = none → node.lifecycle.ownership ≠ .owned →
    (∀ runtime, desired.runtimes[node.runtimeId]? = some runtime →
      current.runtimes[node.runtimeId]? = none → runtime.lifecycle.ownership ≠ .owned) ∧
    ∀ (ingressId : String) (ingress : NamedPublicIngress),
      desired.ingressById[ingressId]? = some ingress →
      current.ingressById[ingressId]? = none → ingress.connectorNodeId ≠ nodeId

/-- Every node and every runtime is owned. -/
def AllOwned (graph : DeploymentGraph) : Prop :=
  (∀ (nodeId : String) (node : Node), graph.nodes[nodeId]? = some node →
    node.lifecycle.ownership = .owned) ∧
  ∀ (runtimeId : String) (runtime : RuntimeRecord),
    graph.runtimes[runtimeId]? = some runtime →
    runtime.lifecycle.ownership = .owned

theorem AllOwned.idle {current desired : DeploymentGraph} (h : AllOwned desired) :
    UnownedStartsIdle current desired :=
  fun nodeId node hafter _ hunowned => absurd (h.1 nodeId node hafter) hunowned

/-- No node, runtime or edge has a blank identity. -/
structure MembersNamed (graph : DeploymentGraph) : Prop where
  nodes : ∀ (nodeId : String) (node : Node), graph.nodes[nodeId]? = some node →
    isBlank nodeId = false
  runtimes : ∀ (runtimeId : String) (runtime : RuntimeRecord),
    graph.runtimes[runtimeId]? = some runtime → isBlank runtimeId = false
  edges : ∀ (edgeId : String) (edge : Edge), graph.edges[edgeId]? = some edge →
    isBlank edgeId = false

/-- Where no member is blank, neither is a target. -/
theorem MembersNamed.targets {current desired : DeploymentGraph}
    (hcurrent : MembersNamed current) (hdesired : MembersNamed desired) :
    TargetsNamed current desired where
  runtimeAdded runtimeId runtime hafter _ _ :=
    hdesired.runtimes runtimeId runtime hafter
  runtimeRemoved runtimeId runtime hbefore _ _ :=
    hcurrent.runtimes runtimeId runtime hbefore
  runtimeReconciled runtimeId h := by
    obtain ⟨before, -, hbefore, -⟩ := h
    exact hcurrent.runtimes runtimeId before hbefore
  nodeAdded nodeId node hafter _ _ := hdesired.nodes nodeId node hafter
  nodeRemoved nodeId node hbefore _ _ := hcurrent.nodes nodeId node hbefore
  nodeReconciled nodeId h := by
    obtain ⟨before, -, hbefore, -⟩ := h
    exact hcurrent.nodes nodeId before hbefore
  edgeAdded edgeId edge hafter _ _ := hdesired.edges edgeId edge hafter
  edgeRemoved edgeId edge hbefore _ _ := hcurrent.edges edgeId edge hbefore
  edgeModified edgeId before _ hbefore _ _ _ := hcurrent.edges edgeId before hbefore

/-- **Plannable graphs.** -/
structure Plannable (codec : GraphDescriptorCodec) (current desired : DeploymentGraph) :
    Prop where
  describable : Describable codec current desired
  named : TargetsNamed current desired
  idle : UnownedStartsIdle current desired

/-! ## Blank targets -/

section Named

variable {codec : GraphDescriptorCodec} {current desired : DeploymentGraph}
  {changes : List StructuralChange}

/-- A change with a blank target breaks one of the naming conditions. -/
theorem TargetsNamed.of_change (h : TargetsNamed current desired)
    {change : StructuralChange} (hof : ChangeOf codec current desired change)
    {identity : String} (htarget : targetId change = some identity) :
    isBlank identity = false := by
  have hwhole := hof.whole
  cases change with
  | added subject value =>
      have htarget : memberTargetId subject value = some identity := htarget
      unfold memberTargetId at htarget
      split at htarget
      · split at htarget <;> cases htarget
        rename_i hown
        obtain ⟨_, heq, hafter, hbefore⟩ := hwhole
        cases heq
        exact h.runtimeAdded _ _ hafter hbefore (not_not.mp hown)
      · split at htarget <;> cases htarget
        rename_i hown
        obtain ⟨_, _, heq, hafter, hbefore, -⟩ := hwhole
        cases heq
        exact h.nodeAdded _ _ hafter hbefore (not_not.mp hown)
      · split at htarget <;> cases htarget
        rename_i hbinding
        obtain ⟨_, heq, hafter, hbefore⟩ := hwhole
        cases heq
        exact h.edgeAdded _ _ hafter hbefore hbinding
      · cases htarget
        obtain ⟨_, heq, hafter, -⟩ := hwhole
        cases heq
        obtain ⟨-, rfl⟩ := DeploymentGraph.ingressById_eq_some.mp hafter
        exact NamedPublicIngress.not_blank _
      · cases htarget
  | removed subject value =>
      have htarget : memberTargetId subject value = some identity := htarget
      unfold memberTargetId at htarget
      split at htarget
      · split at htarget <;> cases htarget
        rename_i hown
        obtain ⟨_, heq, hbefore, hafter⟩ := hwhole
        cases heq
        exact h.runtimeRemoved _ _ hbefore hafter (not_not.mp hown)
      · split at htarget <;> cases htarget
        rename_i hown
        obtain ⟨_, _, heq, hbefore, hafter, -⟩ := hwhole
        cases heq
        exact h.nodeRemoved _ _ hbefore hafter (not_not.mp hown)
      · split at htarget <;> cases htarget
        rename_i hbinding
        obtain ⟨_, heq, hbefore, hafter⟩ := hwhole
        cases heq
        exact h.edgeRemoved _ _ hbefore hafter hbinding
      · cases htarget
        obtain ⟨_, heq, hbefore, -⟩ := hwhole
        cases heq
        obtain ⟨-, rfl⟩ := DeploymentGraph.ingressById_eq_some.mp hbefore
        exact NamedPublicIngress.not_blank _
      · cases htarget
  | modified subject before after =>
      have htarget : modifiedTargetId subject before after = some identity := htarget
      unfold modifiedTargetId at htarget
      split at htarget
      · split at htarget <;> cases htarget
        rename_i hbinding
        obtain ⟨_, _, heq, heq', hbefore, hafter, hne⟩ := hwhole
        cases heq
        cases heq'
        exact h.edgeModified _ _ _ hbefore hafter hne (by simpa using hbinding)
      · cases htarget
  | unsupported => cases htarget
  | ambiguous => cases htarget

variable (hencodable : Encodable codec current ∧ Encodable codec desired)
  (hmem : ∀ change, change ∈ changes ↔ ChangeOf codec current desired change)

include hencodable hmem

/-- **The sources of a diff have nonblank targets** exactly when the targets are
named. -/
theorem targetsNamed_iff : (∀ source, IsSource changes source →
      ∀ identity, source.targetId = some identity → isBlank identity = false) ↔
    TargetsNamed current desired := by
  constructor
  · intro h
    have hsingle : ∀ {change : StructuralChange} {identity : String},
        ChangeOf codec current desired change → reconciliationOwner change = none →
        targetId change = some identity → isBlank identity = false :=
      fun hof hnone htarget => h _ (.single ((hmem _).mpr hof) hnone) _ htarget
    refine ⟨fun id runtime ha hb howned => ?_, fun id runtime hb ha howned => ?_,
      fun id hreconciled => ?_, fun id node ha hb howned => ?_,
      fun id node hb ha howned => ?_, fun id hreconciled => ?_,
      fun id edge ha hb hbinding => ?_, fun id edge hb ha hbinding => ?_,
      fun id before after hb ha hne hbinding => ?_⟩
    · exact hsingle (.runtimeAdded ha hb) rfl
        (by simp [targetId, memberTargetId, howned])
    · exact hsingle (.runtimeRemoved hb ha) rfl
        (by simp [targetId, memberTargetId, howned])
    · obtain ⟨group, hgroup⟩ := (foundGroup_runtime hmem).mpr hreconciled
      exact h _ (.runtimeGroup hgroup) _ rfl
    · obtain ⟨encoded, hencoded⟩ := hencodable.2 _ _ ha
      exact hsingle (.nodeAdded ha hb hencoded) rfl
        (by simp [targetId, memberTargetId, howned])
    · obtain ⟨encoded, hencoded⟩ := hencodable.1 _ _ hb
      exact hsingle (.nodeRemoved hb ha hencoded) rfl
        (by simp [targetId, memberTargetId, howned])
    · obtain ⟨group, hgroup⟩ := (foundGroup_node hencodable hmem).mpr hreconciled
      exact h _ (.nodeGroup hgroup) _ rfl
    · exact hsingle (.edgeAdded ha hb) rfl
        (by simp [targetId, memberTargetId, hbinding])
    · exact hsingle (.edgeRemoved hb ha) rfl
        (by simp [targetId, memberTargetId, hbinding])
    · exact hsingle (.edgeModified hb ha hne) rfl
        (by simp [targetId, modifiedTargetId, hbinding])
  · intro h source hs identity htarget
    cases hs with
    | single hchange hnone => exact h.of_change ((hmem _).mp hchange) htarget
    | nodeGroup hgroup =>
        cases htarget
        exact h.nodeReconciled _ ((foundGroup_node hencodable hmem).mp ⟨_, hgroup⟩)
    | runtimeGroup hgroup =>
        cases htarget
        exact h.runtimeReconciled _ ((foundGroup_runtime hmem).mp ⟨_, hgroup⟩)

end Named

/-! ## Starts that have something to wait for -/

section Starts

variable {codec : GraphDescriptorCodec} {current desired : DeploymentGraph}
  {changes : List StructuralChange} {c : Compilation}

theorem succeeds_startAfter {nodeId : String} {predecessor : Option DraftRef} :
    Succeeds (c.startAfter nodeId predecessor) ↔
      (predecessor = none ∨ ∃ ref, c.lookup .startNode nodeId = some ref) := by
  cases predecessor with
  | none => simp [Compilation.startAfter, Outcome.succeeds_ok]
  | some p =>
      cases hstart : c.lookup .startNode nodeId <;>
        simp [Compilation.startAfter, hstart, Outcome.succeeds_ok,
          Outcome.not_succeeds_error]

namespace Compiled

theorem lookup_startNode (h : Compiled codec current desired changes c)
    {nodeId : String} {node : Node} (hafter : desired.nodes[nodeId]? = some node)
    (hbefore : current.nodes[nodeId]? = none) :
    (∃ ref, c.lookup .startNode nodeId = some ref) ↔
      node.lifecycle.ownership = .owned := by
  constructor
  · rintro ⟨ref, href⟩
    obtain ⟨hblank, hop⟩ := h.lookup_eq_some.mp href
    cases h.drafted_of_holds hop with
    | startNode hafter' hbefore' howned =>
        rw [hafter] at hafter'
        cases hafter'
        exact howned
  · intro howned
    obtain ⟨encoded, hencoded⟩ := h.encodable.2 _ _ hafter
    have hblank := h.nonblank_target
      (.single ((h.mem _).mpr (.nodeAdded hafter hbefore hencoded)) rfl)
      (show memberTargetId (.node nodeId) (.node node encoded) = some nodeId by
        simp [memberTargetId, howned])
    obtain ⟨ref, hop⟩ := h.exists_holds.mpr
      (@Drafted.startNode codec current desired
        ⟨nodeId, hblank⟩ node hafter hbefore howned)
    exact ⟨ref, h.lookup_of_holds .startNode hop⟩

theorem lookup_startRuntime (h : Compiled codec current desired changes c)
    {runtimeId : String} : (∃ ref, c.lookup .startRuntime runtimeId = some ref) ↔
      ∃ runtime, desired.runtimes[runtimeId]? = some runtime ∧
        current.runtimes[runtimeId]? = none ∧ runtime.lifecycle.ownership = .owned := by
  constructor
  · rintro ⟨ref, href⟩
    obtain ⟨hblank, hop⟩ := h.lookup_eq_some.mp href
    cases h.drafted_of_holds hop with
    | startRuntime hafter hbefore howned => exact ⟨_, hafter, hbefore, howned⟩
  · rintro ⟨runtime, hafter, hbefore, howned⟩
    have hblank := h.nonblank_target
      (.single ((h.mem _).mpr (.runtimeAdded hafter hbefore)) rfl)
      (show memberTargetId (.runtime runtimeId) (.runtime runtime) = some runtimeId by
        simp [memberTargetId, howned])
    obtain ⟨ref, hop⟩ := h.exists_holds.mpr
      (@Drafted.startRuntime codec current desired
        ⟨runtimeId, hblank⟩ runtime hafter hbefore howned)
    exact ⟨ref, h.lookup_of_holds .startRuntime hop⟩

theorem lookup_allocateIngress (h : Compiled codec current desired changes c)
    {ingressId : String} :
    (∃ ref, c.lookup .allocateIngress ingressId = some ref) ↔
      ∃ ingress, desired.ingressById[ingressId]? = some ingress ∧
        current.ingressById[ingressId]? = none := by
  constructor
  · rintro ⟨ref, href⟩
    obtain ⟨hblank, hop⟩ := h.lookup_eq_some.mp href
    cases h.drafted_of_holds hop with
    | allocateIngress hafter hbefore => exact ⟨_, hafter, hbefore⟩
  · rintro ⟨ingress, hafter, hbefore⟩
    have hblank := h.nonblank_target
      (.single ((h.mem _).mpr (.ingressAdded hafter hbefore)) rfl)
      (show memberTargetId (.publicIngress ingressId) (.publicIngress ingress) =
        some ingressId from rfl)
    obtain ⟨ref, hop⟩ := h.exists_holds.mpr
      (@Drafted.allocateIngress codec current desired
        ⟨ingressId, hblank⟩ ingress hafter hbefore)
    exact ⟨ref, h.lookup_of_holds .allocateIngress hop⟩

/-- When the dependencies of an added node can be added. -/
theorem succeeds_nodeAdded (h : Compiled codec current desired changes c)
    {nodeId : String} {node : Node} {encoded : PyDict}
    (hmem : .added (.node nodeId) (.node node encoded) ∈ changes) :
    Succeeds (c.addDependencies (.added (.node nodeId) (.node node encoded))) ↔
      (∃ ref, c.lookup .startNode nodeId = some ref) ∨
        (c.lookup .startRuntime node.runtimeId = none ∧ ∀ ingressId ingress,
          c.addedPublicIngresses[ingressId]? = some ingress →
          ingress.connectorNodeId = nodeId →
            c.lookup .allocateIngress ingressId = none) := by
  obtain ⟨found, hfound⟩ := h.succeeds_matchingRef hmem
  have hingresses : Succeeds (collectMap (fun entry : String × NamedPublicIngress =>
      if entry.2.connectorNodeId ≠ nodeId then .ok []
      else c.startAfter nodeId (c.lookup .allocateIngress entry.1))
        c.addedPublicIngresses.toList) ↔ ∀ ingressId ingress,
      c.addedPublicIngresses[ingressId]? = some ingress →
      ingress.connectorNodeId = nodeId →
        (c.lookup .allocateIngress ingressId = none ∨
          ∃ ref, c.lookup .startNode nodeId = some ref) := by
    rw [Outcome.succeeds_collectMap]
    simp only [Prod.forall, KeyedMap.mem_toList]
    refine forall_congr' fun ingressId => forall_congr' fun ingress =>
      imp_congr_right fun _ => ?_
    by_cases hconnector : ingress.connectorNodeId = nodeId
    · simp [hconnector, succeeds_startAfter]
    · simp [hconnector, Outcome.succeeds_ok]
  have hboth :
      Succeeds (c.addDependencies (.added (.node nodeId) (.node node encoded))) ↔
      Succeeds (c.startAfter nodeId (c.lookup .startRuntime node.runtimeId)) ∧
      Succeeds (collectMap (fun entry : String × NamedPublicIngress =>
        if entry.2.connectorNodeId ≠ nodeId then .ok []
        else c.startAfter nodeId (c.lookup .allocateIngress entry.1))
          c.addedPublicIngresses.toList) := by
    simp only [Compilation.addDependencies, Outcome.succeeds_bind, hfound,
      Except.ok.injEq, exists_eq_left']
    constructor
    · rintro ⟨runtime, hruntime, ingresses, hingresses, -⟩
      exact ⟨⟨runtime, hruntime⟩, ⟨ingresses, hingresses⟩⟩
    · rintro ⟨⟨runtime, hruntime⟩, ⟨ingresses, hingresses⟩⟩
      exact ⟨runtime, hruntime, ingresses, hingresses, Outcome.succeeds_ok _⟩
  rw [hboth, hingresses, succeeds_startAfter]
  constructor
  · rintro ⟨hruntime | hstart, hall⟩
    · by_cases hstart : ∃ ref, c.lookup .startNode nodeId = some ref
      · exact .inl hstart
      · exact .inr ⟨hruntime, fun id ingress hentry hconnector =>
          (hall id ingress hentry hconnector).resolve_right hstart⟩
    · exact .inl hstart
  · rintro (hstart | ⟨hruntime, hall⟩)
    · exact ⟨.inr hstart, fun _ _ _ _ => .inr hstart⟩
    · exact ⟨.inl hruntime, fun id ingress hentry hconnector =>
        .inl (hall id ingress hentry hconnector)⟩

/-- Every other change has its dependencies added. -/
theorem succeeds_addDependencies (h : Compiled codec current desired changes c)
    {change : StructuralChange} (hmem : change ∈ changes)
    (hother : ∀ nodeId node encoded,
      change ≠ .added (.node nodeId) (.node node encoded)) :
    Succeeds (c.addDependencies change) := by
  obtain ⟨found, hfound⟩ := h.succeeds_matchingRef hmem
  refine Outcome.succeeds_bind.mpr ⟨found, hfound, ?_⟩
  split
  · exact absurd rfl (hother _ _ _)
  · exact Outcome.succeeds_ok _
  · split <;> exact Outcome.succeeds_ok _
  · split <;> exact Outcome.succeeds_ok _
  · split <;> exact Outcome.succeeds_ok _
  · split <;> exact Outcome.succeeds_ok _
  · exact Outcome.succeeds_ok _

/-- Every reconciled node has its reconciliation in the table. -/
theorem succeeds_groupLinks (h : Compiled codec current desired changes c)
    {group : String × List StructuralChange}
    (hgroup : c.nodeReconciliations[group.1]? = some group.2) :
    Succeeds (c.groupLinks group) := by
  rw [h.gathered.nodeGroups] at hgroup
  have hblank := h.nonblank_target (.nodeGroup hgroup) rfl
  have hreconciled := (foundGroup_node h.encodable h.mem).mp ⟨_, hgroup⟩
  obtain ⟨ref, hop⟩ := h.exists_holds.mpr
    (@Drafted.reconcileNode codec current desired ⟨group.1, hblank⟩ hreconciled)
  rw [Compilation.groupLinks, h.lookup_of_holds .reconcileNode hop]
  exact Outcome.succeeds_ok _

/-- **When the second pass succeeds**: what is not started has nothing to wait
for. -/
theorem succeeds_links (h : Compiled codec current desired changes c) :
    Succeeds (c.links changes) ↔ UnownedStartsIdle current desired := by
  have hstructural : Succeeds (c.links changes) ↔
      ∀ change ∈ changes, Succeeds (c.addDependencies change) := by
    rw [← Outcome.succeeds_collectMap]
    simp only [Compilation.links, Outcome.succeeds_bind]
    constructor
    · rintro ⟨structural, hstructural, -⟩
      exact ⟨structural, hstructural⟩
    · rintro ⟨structural, hstructural⟩
      obtain ⟨membership, hmembership⟩ :
          Succeeds (collectMap c.groupLinks c.nodeReconciliations.toList) :=
        Outcome.succeeds_collectMap.mpr fun group hgroup =>
          h.succeeds_groupLinks (KeyedMap.mem_toList.mp hgroup)
      exact ⟨structural, hstructural, membership, hmembership, Outcome.succeeds_ok _⟩
  rw [hstructural]
  constructor
  · intro hall nodeId node hafter hbefore hunowned
    obtain ⟨encoded, hencoded⟩ := h.encodable.2 _ _ hafter
    have hmem := (h.mem _).mpr (.nodeAdded hafter hbefore hencoded)
    have hidle := (h.succeeds_nodeAdded hmem).mp (hall _ hmem)
    rw [h.lookup_startNode hafter hbefore] at hidle
    obtain ⟨hruntime, hingress⟩ := hidle.resolve_left hunowned
    constructor
    · intro runtime hruntimeAfter hruntimeBefore howned
      obtain ⟨ref, href⟩ :=
        h.lookup_startRuntime.mpr ⟨runtime, hruntimeAfter, hruntimeBefore, howned⟩
      rw [hruntime] at href
      cases href
    · intro ingressId ingress hingressAfter hingressBefore hconnector
      obtain ⟨ref, href⟩ :=
        h.lookup_allocateIngress.mpr ⟨ingress, hingressAfter, hingressBefore⟩
      rw [hingress ingressId ingress (h.addedPublicIngresses_eq_some.mpr
        ⟨hingressAfter, hingressBefore⟩) hconnector] at href
      cases href
  · intro hidle change hmem
    by_cases hadded : ∃ nodeId node encoded,
      change = .added (.node nodeId) (.node node encoded)
    · obtain ⟨nodeId, node, encoded, rfl⟩ := hadded
      obtain ⟨_, _, heq, hafter, hbefore, -⟩ := ((h.mem _).mp hmem).whole
      cases heq
      rw [h.succeeds_nodeAdded hmem, h.lookup_startNode hafter hbefore]
      by_cases howned : node.lifecycle.ownership = .owned
      · exact .inl howned
      · obtain ⟨hruntime, hingress⟩ := hidle nodeId node hafter hbefore howned
        refine .inr ⟨?_, fun ingressId ingress hentry hconnector => ?_⟩
        · refine Option.eq_none_iff_forall_ne_some.mpr fun ref href => ?_
          obtain ⟨runtime, ha, hb, hruntimeOwned⟩ :=
            h.lookup_startRuntime.mp ⟨ref, href⟩
          exact hruntime runtime ha hb hruntimeOwned
        · obtain ⟨ha, hb⟩ := h.addedPublicIngresses_eq_some.mp hentry
          exact absurd hconnector (hingress ingressId ingress ha hb)
    · exact h.succeeds_addDependencies hmem fun nodeId node encoded heq =>
        hadded ⟨nodeId, node, encoded, heq⟩

end Compiled

end Starts

/-! ## The outcome of planning -/

/-- The tokens in the diff of two graphs are distinct. -/
def DistinctTokens (current desired : ValidatedGraph) : Prop :=
  ∀ diff, diffGraphs current desired = .ok diff → TokensDistinct diff.changes

/-! ### Evaluating plans

The digests of `tokenOf` are what planning costs when the kernel evaluates it, so
both functions are evaluated over the unrolled digest. -/

/-- `tokenOf`, over the unrolled digest. -/
def unrolledTokenOf (rendered : List Char) : ChangeToken where
  digits := (Sha256.unrolledHexdigestChars (Text.utf8 rendered)).take 16
  length_eq := by simp [Sha256.unrolledHexdigestChars_eq, Sha256.hexdigestChars_length]
  hexadecimal _ hc := Sha256.isHexDigit_of_mem_hexdigest
    (Sha256.unrolledHexdigestChars_eq ▸ List.mem_of_mem_take hc)

theorem tokenOf_eq_unrolled : tokenOf = unrolledTokenOf := by
  funext rendered
  exact ChangeToken.ext_digits
    (congrArg (fun hexdigest => (hexdigest (Text.utf8 rendered)).take 16)
      Sha256.unrolledHexdigestChars_eq.symm)

/-- The digits of a source, over the unrolled digest. -/
def unrolledDigits : { digits // DraftSource.digits = digits } :=
  ⟨_, by
    delta DraftSource.digits DraftSource.token changesToken changeToken
    rw [tokenOf_eq_unrolled]⟩

open Compilation in
/-- `planGraphs`, over the unrolled digest. -/
def unrolledPlans : { plans // planGraphs = plans } :=
  ⟨_, by
    delta planGraphs compileActivityPlan gather record recordNodeGroup
      recordRuntimeGroup reconcileNodeDrafts reconcileRuntimeDrafts compileChange
      compileAdded compileRemoved compileModified review draftOf draftMany changesToken
      links addDependencies matchingRef changeToken
    rw [tokenOf_eq_unrolled]⟩

/-- The digits of the sources are distinct. -/
def distinctDigits (current desired : ValidatedGraph) : Bool :=
  match diffGraphs current desired with
  | .ok diff => decide ((sourcesOf diff.changes).map unrolledDigits.1).Nodup
  | .error _ => false

/-- The tokens of a diff are evaluated to see that they are distinct. -/
theorem distinctTokens_of_digits {current desired : ValidatedGraph}
    (h : distinctDigits current desired = true) : DistinctTokens current desired := by
  intro diff hdiff
  rw [distinctDigits, hdiff, ← unrolledDigits.2] at h
  exact tokensDistinct_of_digits (by simpa using h)

/-- No change of the diff is handed to a review. -/
def reviewFree (current desired : ValidatedGraph) : Bool :=
  match diffGraphs current desired with
  | .ok diff => diff.changes.all fun change =>
      (reconciliationOwner change).isSome || (reviewReason change).isNone
  | .error _ => false

/-- The graphs have a plan that passes a check. -/
def plansTo (check : ActivityPlan → Bool) (current desired : ValidatedGraph) : Bool :=
  match unrolledPlans.1 current desired with
  | .ok plan => check plan
  | .error _ => false

theorem plansTo_eq_true {check : ActivityPlan → Bool}
    {current desired : ValidatedGraph} : plansTo check current desired = true ↔
      ∃ plan, planGraphs current desired = .ok plan ∧ check plan = true := by
  rw [plansTo, ← unrolledPlans.2]
  cases planGraphs current desired <;> simp

theorem exists_plan_of_plansTo {check : ActivityPlan → Bool}
    {current desired : ValidatedGraph} (h : plansTo check current desired = true) :
    ∃ plan, planGraphs current desired = .ok plan ∧ check plan = true :=
  plansTo_eq_true.mp h

/-- A plan, or activities that do not compose. -/
def PlansOrRejects (outcome : Except PlanningError ActivityPlan) : Prop :=
  (∃ plan, outcome = .ok plan) ∨
    ∃ violations, outcome = .error (.plan (.invalidActivityPlan violations))

/-- A plan, or activities with a dependency cycle. -/
def PlansOrCycles (outcome : Except PlanningError ActivityPlan) : Prop :=
  (∃ plan, outcome = .ok plan) ∨ outcome = .error (.plan (.invalidActivityPlan
    [⟨.dependencyCycle, "activity dependencies contain a cycle", none⟩]))

theorem PlansOrCycles.rejects {outcome : Except PlanningError ActivityPlan}
    (h : PlansOrCycles outcome) : PlansOrRejects outcome :=
  h.imp_right fun h => ⟨_, h⟩

theorem make_eq_error {given : List PlannedActivity} {error : PlanError} :
    ActivityPlan.make given = .error error ↔
      composeActivities given = .error error := by
  unfold ActivityPlan.make
  split
  · rename_i h
    simp [h]
  · rename_i h
    simp [h]

/-- Composing gives a plan or a list of violations. -/
theorem make_outcome (given : List PlannedActivity) :
    (∃ plan, ActivityPlan.make given = .ok plan) ∨
      ∃ violations, ActivityPlan.make given =
        .error (.invalidActivityPlan violations) := by
  by_cases hvalid : validateComposition given = []
  · obtain ⟨hcomp, hcycle⟩ := (validateComposition_eq_nil_iff given).mp hvalid
    obtain ⟨ordered, horder⟩ := topologicalOrder_isSome hcomp hcycle
    have hcomposed := composeActivities_eq_ok.mpr ⟨hcomp, hcycle, horder⟩
    exact .inl ⟨⟨ordered, given, hcomposed⟩, make_eq_ok.mpr hcomposed⟩
  · exact .inr ⟨_, make_eq_error.mpr (by rw [composeActivities, if_neg hvalid])⟩

/-- Composing well-formed activities gives a plan or the cycle. -/
theorem make_of_composable {given : List PlannedActivity} (h : Composable given) :
    (hasCycle given = false ∧ ∃ plan, ActivityPlan.make given = .ok plan) ∨
      ActivityPlan.make given = .error (.invalidActivityPlan
        [⟨.dependencyCycle, "activity dependencies contain a cycle", none⟩]) := by
  rcases composeActivities_of_composable h with
    ⟨hcycle, ordered, hordered⟩ | ⟨-, herror⟩
  · exact .inl ⟨hcycle, ⟨ordered, given, hordered⟩, make_eq_ok.mpr hordered⟩
  · exact .inr (make_eq_error.mpr herror)

section Outcome

variable {repr : String → String} {codec : GraphDescriptorCodec}
  {current desired : DeploymentGraph} {currentValid desiredValid : ValidatedGraph}

/-- What comes before the composition is done. -/
structure Composes (currentValid desiredValid : ValidatedGraph) (diff : GraphDiff)
    (c : Compilation) (ls : List Link) : Prop where
  diffed : diffGraphs currentValid desiredValid = .ok diff
  gathered : Compilation.gather diff.changes = .ok c
  linked : c.links diff.changes = .ok ls

theorem Composes.outcome {diff : GraphDiff} {c : Compilation} {ls : List Link}
    (h : Composes currentValid desiredValid diff c ls) :
    planGraphs currentValid desiredValid =
      (ActivityPlan.make (c.finish ls)).mapError .plan := by
  simp only [planGraphs, compileActivityPlan, h.diffed, h.gathered, h.linked,
    Except.mapError, bind, Except.bind]

/-- A plan or a rejection comes out of a composition. -/
theorem composes_of_rejects
    (h : PlansOrRejects (planGraphs currentValid desiredValid)) :
    ∃ diff c ls, Composes currentValid desiredValid diff c ls := by
  cases hdiff : diffGraphs currentValid desiredValid with
  | error e =>
      simp [PlansOrRejects, planGraphs, hdiff, Except.mapError, bind, Except.bind] at h
  | ok diff =>
      cases hgather : Compilation.gather diff.changes with
      | error e =>
          simp [PlansOrRejects, planGraphs, compileActivityPlan, hdiff, hgather,
            Except.mapError, bind, Except.bind] at h
      | ok c =>
          cases hlinks : c.links diff.changes with
          | error e =>
              simp [PlansOrRejects, planGraphs, compileActivityPlan, hdiff, hgather,
                hlinks, Except.mapError, bind, Except.bind] at h
          | ok ls => exact ⟨diff, c, ls, hdiff, hgather, hlinks⟩

variable (hcurrent : IsValid repr codec current currentValid)
  (hdesired : IsValid repr codec desired desiredValid)

include hcurrent hdesired

theorem Composes.compiled {diff : GraphDiff} {c : Compilation} {ls : List Link}
    (h : Composes currentValid desiredValid diff c ls) :
    Compiled codec current desired diff.changes c :=
  compiled_of_gather hcurrent hdesired h.diffed h.gathered

/-- **Plannable graphs** are the ones whose activities reach the composition. -/
theorem composes_iff : (∃ diff c ls, Composes currentValid desiredValid diff c ls) ↔
    Plannable codec current desired := by
  have hencodable : Encodable codec current ∧ Encodable codec desired :=
    ⟨hcurrent.encodable_all, hdesired.encodable_all⟩
  have hdescribable := describable_iff hencodable.1 hencodable.2
  constructor
  · rintro ⟨diff, c, ls, h⟩
    have hcompiled := h.compiled hcurrent hdesired
    refine ⟨hdescribable.mp
      ((succeeds_diffGraphs hcurrent hdesired).mp ⟨diff, h.diffed⟩), ?_,
      hcompiled.succeeds_links.mp ⟨ls, h.linked⟩⟩
    exact (targetsNamed_iff hencodable hcompiled.mem).mp
      ((succeeds_gather hcompiled.renderable).mp ⟨c, h.gathered⟩)
  · intro h
    obtain ⟨diff, hdiff⟩ :=
      (succeeds_diffGraphs hcurrent hdesired).mpr (hdescribable.mpr h.describable)
    have hmem := mem_diffGraphs hcurrent hdesired hdiff
    have hrender : ∀ change ∈ diff.changes, change.isRenderable = true :=
      fun change hchange =>
        hdescribable.mpr h.describable change ((hmem change).mp hchange)
    obtain ⟨c, hgather⟩ :=
      (succeeds_gather hrender).mpr ((targetsNamed_iff hencodable hmem).mpr h.named)
    have hcompiled := compiled_of_gather hcurrent hdesired hdiff hgather
    obtain ⟨ls, hlinks⟩ := hcompiled.succeeds_links.mpr h.idle
    exact ⟨diff, c, ls, hdiff, hgather, hlinks⟩

/-- **When planning fails neither with a lookup nor with a blank target**: exactly
on plannable graphs; and where tokens are distinct, what is rejected is a cycle. -/
theorem plansOrCycles_iff :
    (PlansOrRejects (planGraphs currentValid desiredValid) ↔
      Plannable codec current desired) ∧
    (DistinctTokens currentValid desiredValid →
      (PlansOrCycles (planGraphs currentValid desiredValid) ↔
        Plannable codec current desired)) := by
  have honly : PlansOrRejects (planGraphs currentValid desiredValid) →
      Plannable codec current desired := fun h =>
    (composes_iff hcurrent hdesired).mp (composes_of_rejects h)
  refine ⟨⟨honly, fun h => ?_⟩, fun hdistinct =>
    ⟨fun h => honly h.rejects, fun h => ?_⟩⟩
  · obtain ⟨diff, c, ls, hcomposes⟩ := (composes_iff hcurrent hdesired).mpr h
    rw [hcomposes.outcome]
    rcases make_outcome (c.finish ls) with ⟨plan, hplan⟩ | ⟨violations, herror⟩
    · exact .inl ⟨plan, mapError_eq_ok.mpr hplan⟩
    · exact .inr ⟨violations, mapError_eq_error.mpr ⟨_, herror, rfl⟩⟩
  · obtain ⟨diff, c, ls, hcomposes⟩ := (composes_iff hcurrent hdesired).mpr h
    rw [hcomposes.outcome]
    have hcomposable := composable_finish (hcomposes.compiled hcurrent hdesired)
      (hdistinct diff hcomposes.diffed) hcomposes.linked
    rcases make_of_composable hcomposable with ⟨-, plan, hplan⟩ | herror
    · exact .inl ⟨plan, mapError_eq_ok.mpr hplan⟩
    · exact .inr (mapError_eq_error.mpr ⟨_, herror, rfl⟩)

/-- A diff whose tokens are evaluated can be described. -/
theorem describable_of_digits (h : distinctDigits currentValid desiredValid = true) :
    Describable codec current desired := by
  refine (describable_iff hcurrent.encodable_all hdesired.encodable_all).mp
    ((succeeds_diffGraphs hcurrent hdesired).mp ?_)
  unfold distinctDigits at h
  split at h
  · rename_i diff hdiff
    exact ⟨diff, hdiff⟩
  · cases h

/-- A plan of a diff without reviews is ready. -/
theorem ready_of_reviewFree (h : reviewFree currentValid desiredValid = true)
    {plan : ActivityPlan} (hplan : planGraphs currentValid desiredValid = .ok plan) :
    plan.readyForExecution = true := by
  obtain ⟨diff, c, ls, hdiff, hplanned⟩ := planned_of_plan hcurrent hdesired hplan
  rw [reviewFree, hdiff] at h
  simp only [ActivityPlan.readyForExecution, Bool.not_eq_true', List.any_eq_false]
  intro activity hactivity hreview
  have hdrafted := hplanned.drafted hactivity
  cases hop : activity.operation with
  | reviewChange target reason =>
      rw [hop] at hdrafted
      cases hdrafted with
      | review hchange hnone hreason =>
          have hfree := List.all_eq_true.mp h _ ((hplanned.compiled.mem _).mpr hchange)
          rw [hnone, hreason] at hfree
          cases hfree
  | _ =>
      rw [hop] at hreview
      cases hreview

end Outcome

/-! ### An external node on a started runtime -/

/-- A runtime that is owned, and on it a node that is not. -/
def externalGuest : DeploymentGraph :=
  sampleGraph [sampleNode "guest" "host" .external] []
    [sampleRuntime "host" ["guest"] .ownedEphemeral]

/-- The start of the runtime is to be awaited by a node that is not started. -/
theorem externalGuest_raises : ∃ currentValid desiredValid,
    IsValid plainRepr defaultGraphCodec (sampleGraph [] [] []) currentValid ∧
      IsValid plainRepr defaultGraphCodec externalGuest desiredValid ∧
      planGraphs currentValid desiredValid = .error (.python (.keyError "guest")) ∧
      ¬ PlansOrCycles (planGraphs currentValid desiredValid) := by
  obtain ⟨currentValid, desiredValid, hcurrent, hdesired, h⟩ :=
    @exists_validated (sampleGraph [] [] []) externalGuest
      (fun current desired =>
        Outcome.fails (.python (.keyError "guest")) (unrolledPlans.1 current desired))
      (by decide)
  rw [← unrolledPlans.2] at h
  have herror := Outcome.eq_error_of_fails h
  exact ⟨currentValid, desiredValid, hcurrent, hdesired, herror, by
    simp [PlansOrCycles, herror]⟩

/-! ### A provider, its consumer and a public ingress -/

theorem emptyGraph_named : MembersNamed (sampleGraph [] [] []) where
  nodes _ _ hnode := absurd ((sampleGraph_node (by simp)).mp hnode).1 List.not_mem_nil
  runtimes _ _ hruntime :=
    absurd ((sampleGraph_runtime (by simp)).mp hruntime).1 List.not_mem_nil
  edges _ _ hedge := absurd ((sampleGraph_edge (by simp)).mp hedge).1 List.not_mem_nil

/-- A consumer of one provider, at an address. -/
def servedBy (provider url : String) (nonempty : isBlank url = false) :
    DeploymentGraph :=
  sampleGraph
    [ sampleProvider provider "host" "http" url nonempty
    , sampleConsumer "web" "host" url "link" ]
    [sampleEdge "link" provider "http" "web" url]
    [sampleRuntime "host" [provider, "web"] .ownedEphemeral]

/-- The provider is reached through its consumer from outside. -/
def exposedBy (provider url ingressId : String) (nonempty : isBlank url = false)
    (named : Text.isReference ingressId = true) : DeploymentGraph :=
  { servedBy provider url nonempty with
    publicIngresses :=
      [⟨ingressId, "zone", ⟨provider, "http"⟩, "web", "api.example", .ephemeral, named⟩]
    ingressesUnique := List.nodup_singleton _ }

section Served

variable {provider url : String} {nonempty : isBlank url = false}

theorem servedBy_node (hprovider : provider ≠ "web") {nodeId : String} {node : Node} :
    (servedBy provider url nonempty).nodes[nodeId]? = some node ↔
      node ∈ [ sampleProvider provider "host" "http" url nonempty
        , sampleConsumer "web" "host" url "link" ] ∧ node.nodeId = nodeId :=
  sampleGraph_node
    (by simpa [sampleProvider, sampleConsumer, sampleNode] using hprovider)

theorem servedBy_edges {edgeId : String} {edge : Edge} :
    (servedBy provider url nonempty).edges[edgeId]? = some edge ↔
      edge = sampleEdge "link" provider "http" "web" url ∧ edge.edgeId = edgeId :=
  (sampleGraph_edge (by simp)).trans (by rw [List.mem_singleton])

theorem servedBy_edge : (servedBy provider url nonempty).edges["link"]? =
    some (sampleEdge "link" provider "http" "web" url) :=
  servedBy_edges.mpr ⟨rfl, rfl⟩

theorem servedBy_runtime {runtimeId : String} {runtime : RuntimeRecord} :
    (servedBy provider url nonempty).runtimes[runtimeId]? = some runtime ↔
      runtime = sampleRuntime "host" [provider, "web"] .ownedEphemeral ∧
        runtime.runtimeId = runtimeId :=
  (sampleGraph_runtime (by simp)).trans (by rw [List.mem_singleton])

theorem servedBy_allOwned (hprovider : provider ≠ "web") :
    AllOwned (servedBy provider url nonempty) := by
  constructor
  · intro nodeId node hnode
    obtain ⟨hmem, -⟩ := (servedBy_node hprovider).mp hnode
    rcases List.mem_pair.mp hmem with rfl | rfl <;> rfl
  · intro runtimeId runtime hruntime
    obtain ⟨rfl, -⟩ := servedBy_runtime.mp hruntime
    rfl

theorem servedBy_named (hprovider : provider ≠ "web")
    (hblank : isBlank provider = false) :
    MembersNamed (servedBy provider url nonempty) where
  nodes nodeId node hnode := by
    obtain ⟨hmem, rfl⟩ := (servedBy_node hprovider).mp hnode
    rcases List.mem_pair.mp hmem with rfl | rfl
    · exact hblank
    · exact show isBlank "web" = false by decide
  runtimes runtimeId runtime hruntime := by
    obtain ⟨rfl, rfl⟩ := servedBy_runtime.mp hruntime
    exact show isBlank "host" = false by decide
  edges edgeId edge hedge := by
    obtain ⟨rfl, rfl⟩ := servedBy_edges.mp hedge
    exact show isBlank "link" = false by decide

end Served

theorem blueUrl_nonempty : isBlank "http://blue" = false := by decide

theorem greenUrl_nonempty : isBlank "http://green" = false := by decide

theorem blueDoor_named : Text.isReference "blue-door" = true := by decide

theorem greenDoor_named : Text.isReference "green-door" = true := by decide

/-- The blue provider, behind its ingress. -/
def behindBlue : DeploymentGraph :=
  exposedBy "blue" "http://blue" "blue-door" blueUrl_nonempty blueDoor_named

/-- The green provider, at another address and behind another ingress. -/
def behindGreen : DeploymentGraph :=
  exposedBy "green" "http://green" "green-door" greenUrl_nonempty greenDoor_named

theorem behindBlue_named : MembersNamed behindBlue :=
  have h :=
    @servedBy_named "blue" "http://blue" blueUrl_nonempty (by decide) (by decide)
  ⟨h.nodes, h.runtimes, h.edges⟩

theorem behindGreen_named : MembersNamed behindGreen :=
  have h :=
    @servedBy_named "green" "http://green" greenUrl_nonempty (by decide) (by decide)
  ⟨h.nodes, h.runtimes, h.edges⟩

theorem behindGreen_allOwned : AllOwned behindGreen :=
  have h := @servedBy_allOwned "green" "http://green" greenUrl_nonempty (by decide)
  ⟨h.1, h.2⟩

/-- The consumer moves from the blue provider to the green one: the tokens are distinct
and nothing asks for a review. -/
theorem behindGreen_differs : ∃ currentValid desiredValid,
    IsValid plainRepr defaultGraphCodec behindBlue currentValid ∧
      IsValid plainRepr defaultGraphCodec behindGreen desiredValid ∧
      distinctDigits currentValid desiredValid = true ∧
      reviewFree currentValid desiredValid = true := by
  obtain ⟨currentValid, desiredValid, hcurrent, hdesired, h⟩ :=
    @exists_validated behindBlue behindGreen
      (fun current desired =>
        distinctDigits current desired && reviewFree current desired)
      (by decide +kernel)
  exact ⟨currentValid, desiredValid, hcurrent, hdesired, Bool.and_eq_true .. |>.mp h⟩

/-- The replacement of the provider is planned. -/
theorem behindGreen_plans : ∃ currentValid desiredValid,
    IsValid plainRepr defaultGraphCodec behindBlue currentValid ∧
      IsValid plainRepr defaultGraphCodec behindGreen desiredValid ∧
      DistinctTokens currentValid desiredValid ∧
      Plannable defaultGraphCodec behindBlue behindGreen ∧
      PlansOrCycles (planGraphs currentValid desiredValid) := by
  obtain ⟨currentValid, desiredValid, hcurrent, hdesired, hdigits, -⟩ :=
    behindGreen_differs
  have hdistinct := distinctTokens_of_digits hdigits
  have hplannable : Plannable defaultGraphCodec behindBlue behindGreen :=
    ⟨describable_of_digits hcurrent hdesired hdigits,
      behindBlue_named.targets behindGreen_named, behindGreen_allOwned.idle⟩
  exact ⟨currentValid, desiredValid, hcurrent, hdesired, hdistinct, hplannable,
    ((plansOrCycles_iff hcurrent hdesired).2 hdistinct).mpr hplannable⟩

end ControlPlaneKit.Planning
