import ControlPlaneKit.Planning.Gathering
import ControlPlaneKit.Topology.DiffSubjects

/-!
# Drafted — the operations of a plan, read off the two graphs

`Drafted current desired` is the set of operations that the differences between
two graphs are compiled to.  No two drafts have the same operation, so a table
of the compilation is a function of the two graphs.
-/

namespace ControlPlaneKit.Planning

open ControlPlaneKit.Library
open ControlPlaneKit.Library.Outcome (Succeeds)
open ControlPlaneKit.Topology

/-! ## Reconciled members -/

/-- A field that is reconciled in place differs. -/
def ReconciledFields (before after : Node) : Prop :=
  before.runtimeId ≠ after.runtimeId ∨ before.blockSpec.pyEq after.blockSpec = false ∨
    before.sockets ≠ after.sockets ∨ before.endpoints ≠ after.endpoints ∨
    before.publicEnvironment ≠ after.publicEnvironment ∨
    before.socketEnvironment ≠ after.socketEnvironment ∨
    metadataDiffers before after = true ∨ artifactsDiffer before after = true ∨
    before.secretDeliveries ≠ after.secretDeliveries ∨
    before.delegationVerifierProjection ≠ after.delegationVerifierProjection

/-- A node of both graphs, of one family, whose fields are reconciled. -/
def NodeReconciled (current desired : DeploymentGraph) (nodeId : String) : Prop :=
  ∃ before after, current.nodes[nodeId]? = some before ∧
    desired.nodes[nodeId]? = some after ∧
    before.blockFamily = after.blockFamily ∧ ReconciledFields before after

/-- A runtime of both graphs whose fields are reconciled. -/
def RuntimeReconciled (current desired : DeploymentGraph) (runtimeId : String) : Prop :=
  ∃ before after, current.runtimes[runtimeId]? = some before ∧
    desired.runtimes[runtimeId]? = some after ∧
    (before.children ≠ after.children ∨ before.authorityRef ≠ after.authorityRef ∨
      before.metadata ≠ after.metadata)

section Reconciled

variable {codec : GraphDescriptorCodec} {current desired : DeploymentGraph}

/-- A change grouped under a node is a reconciled difference of that node. -/
theorem nodeReconciled_of_owner {change : StructuralChange} {nodeId : String}
    (h : ChangeOf codec current desired change)
    (howner : reconciliationOwner change = some (.node nodeId)) :
    NodeReconciled current desired nodeId := by
  cases h with
  | graphChanged hmem =>
      rcases List.mem_append.mp hmem with h | h
      · rw [(mem_fieldModified.mp h).2] at howner
        cases howner
      · rw [(mem_fieldModified.mp h).2] at howner
        cases howner
  | runtimeChanged hbefore hafter hmem =>
      simp only [runtimeChanges, List.mem_append, mem_fieldModified,
        List.mem_ite_nil_right, List.mem_singleton] at hmem
      rcases hmem with (((⟨-, rfl⟩ | ⟨-, rfl⟩) | ⟨-, rfl⟩) | ⟨-, rfl⟩) | ⟨-, rfl⟩ <;>
        cases howner
  | nodeChanged hbefore hafter hchanges hmem =>
      cases (mem_nodeChanges hchanges).mp hmem with
      | reused | kind | lifecycle => cases howner
      | membership hfamily hne =>
          cases howner
          exact ⟨_, _, hbefore, hafter, hfamily, .inl hne⟩
      | spec hfamily hne =>
          cases howner
          exact ⟨_, _, hbefore, hafter, hfamily, .inr (.inl hne)⟩
      | sockets hfamily hne =>
          cases howner
          exact ⟨_, _, hbefore, hafter, hfamily, .inr (.inr (.inl hne))⟩
      | endpointAdded hfamily hnew hold =>
          cases howner
          refine ⟨_, _, hbefore, hafter, hfamily, .inr (.inr (.inr (.inl ?_)))⟩
          intro heq
          rw [heq, hnew] at hold
          cases hold
      | endpointRemoved hfamily hold hnew =>
          cases howner
          refine ⟨_, _, hbefore, hafter, hfamily, .inr (.inr (.inr (.inl ?_)))⟩
          intro heq
          rw [heq, hnew] at hold
          cases hold
      | endpointModified hfamily hold hnew hne =>
          cases howner
          refine ⟨_, _, hbefore, hafter, hfamily, .inr (.inr (.inr (.inl ?_)))⟩
          intro heq
          rw [heq, hnew] at hold
          exact hne (Option.some.inj hold).symm
      | material hfamily hmaterial =>
          simp only [materialChanges, List.mem_append, mem_fieldModified,
            decide_eq_true_eq] at hmaterial
          rcases hmaterial with ((((⟨hne, rfl⟩ | ⟨hne, rfl⟩) | ⟨hne, rfl⟩) |
            ⟨hne, rfl⟩) | ⟨hne, rfl⟩) | ⟨hne, rfl⟩ <;> cases howner
          all_goals
            refine ⟨_, _, hbefore, hafter, hfamily, ?_⟩
            simp only [ReconciledFields, hne, ne_eq, not_false_eq_true,
              true_or, or_true]
  | _ => cases howner

/-- Every reconciled difference of a node is grouped under it. -/
theorem exists_owner_of_nodeReconciled (hcurrent : Encodable codec current)
    (hdesired : Encodable codec desired) {nodeId : String}
    (h : NodeReconciled current desired nodeId) :
    ∃ change, ChangeOf codec current desired change ∧
      reconciliationOwner change = some (.node nodeId) := by
  obtain ⟨before, after, hbefore, hafter, hfamily, hfields⟩ := h
  obtain ⟨changes, hchanges⟩ := @succeeds_nodeChanges codec nodeId _ _
    (hcurrent _ _ hbefore) (hdesired _ _ hafter)
  have hof : ∀ {change}, NodeChange codec nodeId before after change →
      ChangeOf codec current desired change := fun h =>
    .nodeChanged hbefore hafter hchanges ((mem_nodeChanges hchanges).mpr h)
  have hfield : ∀ field old new, field ≠ .resourceLifecycle →
      StructuralChange.modified (.field (.node nodeId) field none) old new ∈
        materialChanges nodeId before after →
      ∃ change, ChangeOf codec current desired change ∧
        reconciliationOwner change = some (.node nodeId) := by
    intro field old new hfield hmem
    exact ⟨_, hof (.material hfamily hmem), by simp [reconciliationOwner, hfield]⟩
  rcases hfields with hne | hne | hne | hne | hne | hne | hne | hne | hne | hne
  · exact ⟨_, hof (.membership hfamily hne), rfl⟩
  · obtain ⟨old, hold⟩ := hcurrent _ _ hbefore
    obtain ⟨new, hnew⟩ := hdesired _ _ hafter
    exact ⟨_, hof (.spec hfamily hne hold hnew), rfl⟩
  · exact ⟨_, hof (.sockets hfamily hne), rfl⟩
  · obtain ⟨name, hname⟩ := KeyedMap.exists_getElem?_ne hne
    cases hold : before.endpoints[name]? with
    | none =>
        cases hnew : after.endpoints[name]? with
        | none => exact absurd (hold.trans hnew.symm) hname
        | some endpoint => exact ⟨_, hof (.endpointAdded hfamily hnew hold), rfl⟩
    | some old =>
        cases hnew : after.endpoints[name]? with
        | none => exact ⟨_, hof (.endpointRemoved hfamily hold hnew), rfl⟩
        | some new =>
            refine ⟨_, hof (.endpointModified hfamily hold hnew ?_), rfl⟩
            rintro rfl
            exact hname (hold.trans hnew.symm)
  · exact hfield .publicEnvironment before.publicBindings
      after.publicBindings (by decide)
      (by simp [materialChanges, mem_fieldModified, hne])
  · exact hfield .socketEnvironment before.socketBindings
      after.socketBindings (by decide)
      (by simp [materialChanges, mem_fieldModified, hne])
  · exact hfield .nodeMetadata (.metadata before.metadata)
      (.metadata after.metadata) (by decide)
      (by simp [materialChanges, mem_fieldModified, hne])
  · exact hfield .configurationArtifacts _ _ (by decide)
      (by simp only [materialChanges, List.mem_append, mem_fieldModified]
          exact .inl (.inl (.inr ⟨hne, rfl⟩)))
  · exact hfield .secretDeliveries (.secretDeliveries before.secretDeliveries)
      (.secretDeliveries after.secretDeliveries) (by decide)
      (by simp [materialChanges, mem_fieldModified, hne])
  · exact hfield .delegationVerifierProjection
      (.delegationVerifierProjection before.delegationVerifierProjection)
      (.delegationVerifierProjection after.delegationVerifierProjection) (by decide)
      (by simp [materialChanges, mem_fieldModified, hne])

theorem runtimeReconciled_of_owner {change : StructuralChange} {runtimeId : String}
    (h : ChangeOf codec current desired change)
    (howner : reconciliationOwner change = some (.runtime runtimeId)) :
    RuntimeReconciled current desired runtimeId := by
  cases h with
  | graphChanged hmem =>
      rcases List.mem_append.mp hmem with h | h
      · rw [(mem_fieldModified.mp h).2] at howner
        cases howner
      · rw [(mem_fieldModified.mp h).2] at howner
        cases howner
  | runtimeChanged hbefore hafter hmem =>
      simp only [runtimeChanges, List.mem_append, mem_fieldModified,
        List.mem_ite_nil_right, List.mem_singleton, decide_eq_true_eq] at hmem
      rcases hmem with (((⟨-, rfl⟩ | ⟨hne, rfl⟩) | ⟨hne, rfl⟩) | ⟨hne, rfl⟩) | ⟨-, rfl⟩
        <;> cases howner
      · exact ⟨_, _, hbefore, hafter, .inl hne⟩
      · exact ⟨_, _, hbefore, hafter, .inr (.inl hne)⟩
      · exact ⟨_, _, hbefore, hafter, .inr (.inr hne)⟩
  | nodeChanged hbefore hafter hchanges hmem =>
      cases (mem_nodeChanges hchanges).mp hmem with
      | material hfamily hmaterial =>
          simp only [materialChanges, List.mem_append, mem_fieldModified] at hmaterial
          rcases hmaterial with ((((⟨-, rfl⟩ | ⟨-, rfl⟩) | ⟨-, rfl⟩) | ⟨-, rfl⟩) |
            ⟨-, rfl⟩) | ⟨-, rfl⟩ <;> cases howner
      | _ => cases howner
  | _ => cases howner

theorem exists_owner_of_runtimeReconciled {runtimeId : String}
    (h : RuntimeReconciled current desired runtimeId) :
    ∃ change, ChangeOf codec current desired change ∧
      reconciliationOwner change = some (.runtime runtimeId) := by
  obtain ⟨before, after, hbefore, hafter, hfields⟩ := h
  have hfield : ∀ field old new, field ≠ .resourceLifecycle →
      StructuralChange.modified (.field (.runtime runtimeId) field none) old new ∈
        runtimeChanges runtimeId before after →
      ∃ change, ChangeOf codec current desired change ∧
        reconciliationOwner change = some (.runtime runtimeId) := by
    intro field old new hfield hmem
    exact ⟨_, .runtimeChanged hbefore hafter hmem,
      by simp [reconciliationOwner, hfield]⟩
  rcases hfields with hne | hne | hne
  · exact hfield .runtimeContainment (.stringTuple before.children)
      (.stringTuple after.children) (by decide)
      (by simp [runtimeChanges, mem_fieldModified, hne])
  · exact hfield .runtimeAuthority (.metadata (runtimeAuthorityValue before))
      (.metadata (runtimeAuthorityValue after)) (by decide)
      (by simp [runtimeChanges, mem_fieldModified, hne])
  · exact hfield .runtimeMetadata (.metadata (textEntries before.metadata))
      (.metadata (textEntries after.metadata)) (by decide)
      (by simp [runtimeChanges, mem_fieldModified, hne])

/-- A change of membership is that of a node both graphs have. -/
theorem moved_of_membership {owner : DiffOwner} {key : Option String} {old new : String}
    (h : ChangeOf codec current desired
      (.modified (.field owner .runtimeMembership key) (.text old) (.text new))) :
    ∃ nodeId before after, owner = .node nodeId ∧ current.nodes[nodeId]? = some before ∧
      desired.nodes[nodeId]? = some after ∧ before.runtimeId ≠ after.runtimeId ∧
      before.runtimeId = old ∧ after.runtimeId = new := by
  cases h with
  | graphChanged hmem =>
      rcases List.mem_append.mp hmem with h | h <;> cases (mem_fieldModified.mp h).2
  | runtimeChanged hbefore hafter hmem =>
      simp [runtimeChanges, mem_fieldModified] at hmem
  | nodeChanged hbefore hafter hchanges hmem =>
      cases (mem_nodeChanges hchanges).mp hmem with
      | membership hfamily hne => exact ⟨_, _, _, rfl, hbefore, hafter, hne, rfl, rfl⟩
      | material hfamily hmaterial =>
          simp [materialChanges, mem_fieldModified] at hmaterial

/-- A moved node that keeps its family has such a change. -/
theorem membership_of_moved (hcurrent : Encodable codec current)
    (hdesired : Encodable codec desired) {nodeId : String} {before after : Node}
    (hbefore : current.nodes[nodeId]? = some before)
    (hafter : desired.nodes[nodeId]? = some after)
    (hfamily : before.blockFamily = after.blockFamily)
    (hmoved : before.runtimeId ≠ after.runtimeId) :
    ChangeOf codec current desired
      (.modified (.field (.node nodeId) .runtimeMembership none)
        (.text before.runtimeId) (.text after.runtimeId)) := by
  obtain ⟨changes, hchanges⟩ := @succeeds_nodeChanges codec nodeId _ _
    (hcurrent _ _ hbefore) (hdesired _ _ hafter)
  exact .nodeChanged hbefore hafter hchanges
    ((mem_nodeChanges hchanges).mpr (.membership hfamily hmoved))

end Reconciled

/-! ## The operations of two graphs -/

/-- **The operations the differences of two graphs are compiled to.** -/
inductive Drafted (codec : GraphDescriptorCodec) (current desired : DeploymentGraph) :
    ActivityOperation → Prop where
  | startRuntime {target : RuntimeTarget} {runtime : RuntimeRecord}
      (hafter : desired.runtimes[target.runtimeId]? = some runtime)
      (hbefore : current.runtimes[target.runtimeId]? = none)
      (howned : runtime.lifecycle.ownership = .owned) :
      Drafted codec current desired (.startRuntime target)
  | stopRuntime {target : RuntimeTarget} {runtime : RuntimeRecord}
      (hbefore : current.runtimes[target.runtimeId]? = some runtime)
      (hafter : desired.runtimes[target.runtimeId]? = none)
      (howned : runtime.lifecycle.ownership = .owned) :
      Drafted codec current desired (.stopRuntime target)
  | removeRuntime {target : RuntimeTarget} {runtime : RuntimeRecord}
      (hbefore : current.runtimes[target.runtimeId]? = some runtime)
      (hafter : desired.runtimes[target.runtimeId]? = none)
      (howned : runtime.lifecycle.ownership = .owned)
      (hcompute : runtime.lifecycle.compute ≠ .retained) :
      Drafted codec current desired (.removeRuntimeResource target)
  | reconcileRuntime {target : RuntimeTarget}
      (h : RuntimeReconciled current desired target.runtimeId) :
      Drafted codec current desired (.reconcileRuntime target)
  | startNode {target : NodeTarget} {node : Node}
      (hafter : desired.nodes[target.nodeId]? = some node)
      (hbefore : current.nodes[target.nodeId]? = none)
      (howned : node.lifecycle.ownership = .owned) :
      Drafted codec current desired (.startNode target)
  | healthy {target : NodeTarget} {node : Node}
      (hafter : desired.nodes[target.nodeId]? = some node)
      (hbefore : current.nodes[target.nodeId]? = none)
      (howned : node.lifecycle.ownership = .owned) :
      Drafted codec current desired (.waitForHealthy target)
  | stopNode {target : NodeTarget} {node : Node}
      (hbefore : current.nodes[target.nodeId]? = some node)
      (hafter : desired.nodes[target.nodeId]? = none)
      (howned : node.lifecycle.ownership = .owned) :
      Drafted codec current desired (.stopNode target)
  | removeNode {target : NodeTarget} {node : Node}
      (hbefore : current.nodes[target.nodeId]? = some node)
      (hafter : desired.nodes[target.nodeId]? = none)
      (howned : node.lifecycle.ownership = .owned)
      (hcompute : node.lifecycle.compute ≠ .retained) :
      Drafted codec current desired (.removeNodeResource target)
  | reconcileNode {target : NodeTarget} (h : NodeReconciled current desired
      target.nodeId) : Drafted codec current desired (.reconcileNode target)
  | reconciledHealthy {target : NodeTarget}
      (h : NodeReconciled current desired target.nodeId) :
      Drafted codec current desired (.waitForHealthy target)
  | addConnection {target : SocketConnectionTarget} {edge : Edge}
      (hafter : desired.edges[target.edgeId]? = some edge)
      (hbefore : current.edges[target.edgeId]? = none)
        (hbinding : edge.binding ≠ .environment) :
      Drafted codec current desired (.addSocketConnection target)
  | switchConnection {target : SocketConnectionTarget} {before after : Edge}
      (hbefore : current.edges[target.edgeId]? = some before)
      (hafter : desired.edges[target.edgeId]? = some after) (hne : before ≠ after)
      (hbinding : throughEnvironment before after = false) :
      Drafted codec current desired (.switchSocketConnection target)
  | removeConnection {target : SocketConnectionTarget} {edge : Edge}
      (hbefore : current.edges[target.edgeId]? = some edge)
      (hafter : desired.edges[target.edgeId]? = none)
        (hbinding : edge.binding ≠ .environment) :
      Drafted codec current desired (.removeSocketConnection target)
  | allocateIngress {target : PublicIngressActivityTarget}
      {ingress : NamedPublicIngress} (hafter : desired.ingressById[target.ingressId]? =
        some ingress) (hbefore : current.ingressById[target.ingressId]? = none) :
      Drafted codec current desired (.allocatePublicIngress target)
  | removeIngress {target : PublicIngressActivityTarget} {ingress : NamedPublicIngress}
      (hbefore : current.ingressById[target.ingressId]? = some ingress)
      (hafter : desired.ingressById[target.ingressId]? = none) :
      Drafted codec current desired (.removePublicIngress target)
  | review {change : StructuralChange} {reason : ReviewReason}
      (hchange : ChangeOf codec current desired change)
      (hnone : reconciliationOwner change = none)
      (hreason : reviewReason change = some reason) :
      Drafted codec current desired (.reviewChange ⟨change.subject⟩ reason)

/-- **A compilation of the differences of two graphs.** -/
structure Compiled (codec : GraphDescriptorCodec) (current desired : DeploymentGraph)
    (changes : List StructuralChange) (c : Compilation) : Prop where
  encodable : Encodable codec current ∧ Encodable codec desired
  mem : ∀ change, change ∈ changes ↔ ChangeOf codec current desired change
  subjects : (changes.map (·.subject)).Nodup
  renderable : ∀ change ∈ changes, change.isRenderable = true
  gathered : Gathered changes c

section Sources

variable {codec : GraphDescriptorCodec} {current desired : DeploymentGraph}
  {changes : List StructuralChange} {c : Compilation}

theorem foundGroup_isSome {owner : ReconciledOwner} :
    (∃ group, foundGroup owner changes = some group) ↔
      ∃ change ∈ changes, reconciliationOwner change = some owner := by
  rw [foundGroup]
  split
  · rename_i hempty
    simp only [reduceCtorEq, exists_false, false_iff, not_exists, not_and]
    intro change hchange howner
    have : change ∈ groupOf owner changes := by simp [groupOf, hchange, howner]
    rw [List.isEmpty_iff.mp hempty] at this
    cases this
  · rename_i hsome
    simp only [Option.some.injEq, exists_eq', true_iff]
    obtain ⟨change, hchange⟩ := List.exists_mem_of_ne_nil _
      (fun hnil => hsome (List.isEmpty_iff.mpr hnil))
    simp only [groupOf, List.mem_filter, decide_eq_true_eq] at hchange
    exact ⟨change, hchange⟩

/-- What a change of its own drafts is drafted of the two graphs. -/
theorem drafted_of_change {change : StructuralChange} {operation : ActivityOperation}
    (hof : ChangeOf codec current desired change)
    (hnone : reconciliationOwner change = none) (hdrafts : Drafts change operation) :
    Drafted codec current desired operation := by
  cases hdrafts with
  | startRuntime howned =>
      obtain ⟨_, heq, hafter, hbefore⟩ := hof.whole
      cases heq
      exact .startRuntime hafter hbefore howned
  | stopRuntime howned =>
      obtain ⟨_, heq, hbefore, hafter⟩ := hof.whole
      cases heq
      exact .stopRuntime hbefore hafter howned
  | removeRuntime howned hcompute =>
      obtain ⟨_, heq, hbefore, hafter⟩ := hof.whole
      cases heq
      exact .removeRuntime hbefore hafter howned hcompute
  | startNode howned =>
      obtain ⟨_, _, heq, hafter, hbefore, -⟩ := hof.whole
      cases heq
      exact .startNode hafter hbefore howned
  | waitForHealthy howned =>
      obtain ⟨_, _, heq, hafter, hbefore, -⟩ := hof.whole
      cases heq
      exact .healthy hafter hbefore howned
  | stopNode howned =>
      obtain ⟨_, _, heq, hbefore, hafter, -⟩ := hof.whole
      cases heq
      exact .stopNode hbefore hafter howned
  | removeNode howned hcompute =>
      obtain ⟨_, _, heq, hbefore, hafter, -⟩ := hof.whole
      cases heq
      exact .removeNode hbefore hafter howned hcompute
  | addConnection hbinding =>
      obtain ⟨_, heq, hafter, hbefore⟩ := hof.whole
      cases heq
      exact .addConnection hafter hbefore hbinding
  | switchConnection hbinding =>
      obtain ⟨_, _, heq, heq', hbefore, hafter, hne⟩ := hof.whole
      cases heq
      cases heq'
      exact .switchConnection hbefore hafter hne hbinding
  | removeConnection hbinding =>
      obtain ⟨_, heq, hbefore, hafter⟩ := hof.whole
      cases heq
      exact .removeConnection hbefore hafter hbinding
  | allocateIngress =>
      obtain ⟨_, heq, hafter, hbefore⟩ := hof.whole
      cases heq
      exact .allocateIngress hafter hbefore
  | removeIngress =>
      obtain ⟨_, heq, hbefore, hafter⟩ := hof.whole
      cases heq
      exact .removeIngress hbefore hafter
  | review hreason => exact .review hof hnone hreason

section Differences

variable (hencodable : Encodable codec current ∧ Encodable codec desired)
  (hmem : ∀ change, change ∈ changes ↔ ChangeOf codec current desired change)

include hencodable hmem

theorem foundGroup_node {nodeId : String} :
    (∃ group, foundGroup (.node nodeId) changes = some group) ↔
      NodeReconciled current desired nodeId := by
  rw [foundGroup_isSome]
  constructor
  · rintro ⟨change, hchange, howner⟩
    exact nodeReconciled_of_owner ((hmem change).mp hchange) howner
  · intro h
    obtain ⟨change, hchange, howner⟩ :=
      exists_owner_of_nodeReconciled hencodable.1 hencodable.2 h
    exact ⟨change, (hmem change).mpr hchange, howner⟩

omit hencodable in
theorem foundGroup_runtime {runtimeId : String} :
    (∃ group, foundGroup (.runtime runtimeId) changes = some group) ↔
      RuntimeReconciled current desired runtimeId := by
  rw [foundGroup_isSome]
  constructor
  · rintro ⟨change, hchange, howner⟩
    exact runtimeReconciled_of_owner ((hmem change).mp hchange) howner
  · intro h
    obtain ⟨change, hchange, howner⟩ := @exists_owner_of_runtimeReconciled codec _ _ _ h
    exact ⟨change, (hmem change).mpr hchange, howner⟩

/-- **The operations of the sources** are drafted of the two graphs. -/
theorem drafted_of_source {source : DraftSource} {operation : ActivityOperation}
    (hsource : IsSource changes source) (hop : source.Operations operation) :
    Drafted codec current desired operation := by
  cases hsource with
  | single hchange hnone => exact drafted_of_change ((hmem _).mp hchange) hnone hop
  | nodeGroup hgroup =>
      have hreconciled := (foundGroup_node hencodable hmem).mp ⟨_, hgroup⟩
      have hdrafts : ReconcilesNode _ operation := hop
      cases hdrafts with
      | reconcile htarget => exact .reconcileNode (htarget ▸ hreconciled)
      | health htarget => exact .reconciledHealthy (htarget ▸ hreconciled)
  | runtimeGroup hgroup =>
      have hreconciled := (foundGroup_runtime hmem).mp ⟨_, hgroup⟩
      have hdrafts : ReconcilesRuntime _ operation := hop
      cases hdrafts with
      | reconcile htarget => exact .reconcileRuntime (htarget ▸ hreconciled)

/-- **Whatever is drafted of the two graphs** has a source. -/
theorem source_of_drafted {operation : ActivityOperation}
    (hdrafted : Drafted codec current desired operation) :
    ∃ source, IsSource changes source ∧ source.Operations operation := by
  have hsingle : ∀ {change : StructuralChange}, ChangeOf codec current desired change →
      reconciliationOwner change = none → Drafts change operation →
      ∃ source, IsSource changes source ∧ source.Operations operation :=
    fun hof hnone hdrafts => ⟨_, .single ((hmem _).mpr hof) hnone, hdrafts⟩
  cases hdrafted with
  | startRuntime hafter hbefore howned =>
      exact hsingle (.runtimeAdded hafter hbefore) rfl (.startRuntime howned)
  | stopRuntime hbefore hafter howned =>
      exact hsingle (.runtimeRemoved hbefore hafter) rfl (.stopRuntime howned)
  | removeRuntime hbefore hafter howned hcompute =>
      exact hsingle (.runtimeRemoved hbefore hafter) rfl
        (.removeRuntime howned hcompute)
  | reconcileRuntime h =>
      obtain ⟨group, hgroup⟩ := (foundGroup_runtime hmem).mpr h
      exact ⟨_, .runtimeGroup hgroup, .reconcile rfl⟩
  | startNode hafter hbefore howned =>
      obtain ⟨encoded, hencoded⟩ := hencodable.2 _ _ hafter
      exact hsingle (.nodeAdded hafter hbefore hencoded) rfl (.startNode howned)
  | healthy hafter hbefore howned =>
      obtain ⟨encoded, hencoded⟩ := hencodable.2 _ _ hafter
      exact hsingle (.nodeAdded hafter hbefore hencoded) rfl (.waitForHealthy howned)
  | stopNode hbefore hafter howned =>
      obtain ⟨encoded, hencoded⟩ := hencodable.1 _ _ hbefore
      exact hsingle (.nodeRemoved hbefore hafter hencoded) rfl (.stopNode howned)
  | removeNode hbefore hafter howned hcompute =>
      obtain ⟨encoded, hencoded⟩ := hencodable.1 _ _ hbefore
      exact hsingle (.nodeRemoved hbefore hafter hencoded) rfl
        (.removeNode howned hcompute)
  | reconcileNode h =>
      obtain ⟨group, hgroup⟩ := (foundGroup_node hencodable hmem).mpr h
      exact ⟨_, .nodeGroup hgroup, .reconcile rfl⟩
  | reconciledHealthy h =>
      obtain ⟨group, hgroup⟩ := (foundGroup_node hencodable hmem).mpr h
      exact ⟨_, .nodeGroup hgroup, .health rfl⟩
  | addConnection hafter hbefore hbinding =>
      exact hsingle (.edgeAdded hafter hbefore) rfl (.addConnection hbinding)
  | switchConnection hbefore hafter hne hbinding =>
      exact hsingle (.edgeModified hbefore hafter hne) rfl (.switchConnection hbinding)
  | removeConnection hbefore hafter hbinding =>
      exact hsingle (.edgeRemoved hbefore hafter) rfl (.removeConnection hbinding)
  | allocateIngress hafter hbefore =>
      exact hsingle (.ingressAdded hafter hbefore) rfl .allocateIngress
  | removeIngress hbefore hafter =>
      exact hsingle (.ingressRemoved hbefore hafter) rfl .removeIngress
  | review hchange hnone hreason => exact hsingle hchange hnone (.review hreason)

theorem operations_iff {operation : ActivityOperation} :
    (∃ source, IsSource changes source ∧ source.Operations operation) ↔
      Drafted codec current desired operation :=
  ⟨fun ⟨_, hsource, hop⟩ => drafted_of_source hencodable hmem hsource hop,
    source_of_drafted hencodable hmem⟩

end Differences

end Sources

end ControlPlaneKit.Planning
