import ControlPlaneKit.Planning.Precedence

/-!
# LinkSoundness — every link between two drafts is a rule

The second pass goes through the changes, and then through the reconciled nodes.
Each case adds links between drafts whose operations one of the rules relates.
-/

namespace ControlPlaneKit.Planning

open ControlPlaneKit.Library
open ControlPlaneKit.Library.Outcome (Succeeds collectMap)
open ControlPlaneKit.Topology
open Compilation (Link)

variable {codec : GraphDescriptorCodec} {current desired : DeploymentGraph}
  {changes : List StructuralChange} {c : Compilation} {ls : List Link} {s p : Nat}

/-- The link joins drafts of related operations. -/
def LinkOf (c : Compilation) (related : ActivityOperation → ActivityOperation → Prop)
    (link : Link) : Prop :=
  ∃ first second, c.Holds link.predecessor first ∧ c.Holds link.successor second ∧
    related first second

namespace Compiled

/-- Two lookups make a link of the operations looked up. -/
theorem linkOf_lookups (h : Compiled codec current desired changes c)
    {related : ActivityOperation → ActivityOperation → Prop} {table table' : Table}
    {key key' : String} (hs : c.lookup table key = some s)
    (hp : c.lookup table' key' = some p)
    (hrelated : ∀ hblank hblank',
      related (table'.operation key' hblank') (table.operation key hblank)) :
    LinkOf c related ⟨s, p⟩ := by
  obtain ⟨hblank, hs⟩ := h.lookup_eq_some.mp hs
  obtain ⟨hblank', hp⟩ := h.lookup_eq_some.mp hp
  exact ⟨_, _, hp, hs, hrelated hblank hblank'⟩

theorem sound_nodeAdded (h : Compiled codec current desired changes c) {nodeId : String}
    {node : Node} (hafter : desired.nodes[nodeId]? = some node)
    {runtime ingresses : List Link} (hruntime : c.startAfter nodeId
      (c.lookup .startRuntime node.runtimeId) = .ok runtime)
    (hingresses : collectMap (fun entry : String × NamedPublicIngress =>
      if entry.2.connectorNodeId ≠ nodeId then .ok []
      else c.startAfter nodeId (c.lookup .allocateIngress entry.1))
        c.addedPublicIngresses.toList = .ok ingresses)
    (hlink : ⟨s, p⟩ ∈ runtime ++ ingresses) :
    LinkOf c (Precedes current desired) ⟨s, p⟩ := by
  rcases List.mem_append.mp hlink with hlink | hlink
  · obtain ⟨hs, hp⟩ := (mem_startAfter hruntime).mp hlink
    exact h.linkOf_lookups hs hp fun _ _ => .arranged (.runtimeStarted hafter rfl)
  · obtain ⟨⟨ingressId, ingress⟩, hentry, bs, hbs, hlink⟩ :=
      (Outcome.mem_collectMap hingresses).mp hlink
    dsimp only at hbs
    split at hbs
    · cases hbs
      cases hlink
    · rename_i hconnector
      rw [not_not] at hconnector
      obtain ⟨hs, hp⟩ := (mem_startAfter hbs).mp hlink
      have hadded := h.addedPublicIngresses_eq_some.mp (KeyedMap.mem_toList.mp hentry)
      exact h.linkOf_lookups hs hp fun _ _ =>
        .arranged (.ingressAllocated hadded.1 hconnector)

theorem sound_nodeRemoved (h : Compiled codec current desired changes c)
    {nodeId : String} {stop : Nat} (hstop : c.lookup .stopNode nodeId = some stop)
    (hlink : ⟨s, p⟩ ∈ c.ingressTeardown nodeId stop ++ c.edgeTeardown nodeId stop ++
      c.edgeSwitchover nodeId stop) : LinkOf c (Precedes current desired) ⟨s, p⟩ := by
  rcases List.mem_append.mp hlink with hlink | hlink
  · rcases List.mem_append.mp hlink with hlink | hlink
    · obtain ⟨ingressId, ingress, hentry, ⟨hconnector, hs, rfl⟩ |
          ⟨hother, htarget, rfl, hp⟩⟩ :=
        mem_ingressTeardown.mp hlink
      · have hremoved := h.removedPublicIngresses_eq_some.mp hentry
        exact h.linkOf_lookups hs hstop fun _ _ =>
          .arranged (.connectorStopped hremoved.1 hconnector)
      · have hremoved := h.removedPublicIngresses_eq_some.mp hentry
        exact h.linkOf_lookups hstop hp fun _ _ =>
          .arranged (.ingressRemoved hremoved.1 htarget hother)
    · obtain ⟨rfl, edgeId, ref, edge, hentry, hjoins, hp⟩ := mem_edgeTeardown.mp hlink
      obtain ⟨hbefore, hafter, href⟩ := h.removedEdge_of_entry hentry
      obtain ⟨hblank, hs⟩ := h.lookup_eq_some.mp hstop
      rcases hp with rfl | ⟨rfl, hprovider, hp⟩
      · obtain ⟨-, target, rfl, hp⟩ := href
        exact ⟨_, _, hp, hs, .arranged (.connectionRemoved hbefore hjoins)⟩
      · exact h.linkOf_lookups hstop hp fun _ _ =>
          .arranged (.consumerReleased hbefore hafter href hprovider.symm rfl)
  · obtain ⟨rfl, edgeId, ref, before, after, hentry, hjoins, hleaves, hp⟩ :=
      mem_edgeSwitchover.mp hlink
    obtain ⟨hbefore, hafter, href⟩ := h.modifiedEdge_of_entry hentry
    obtain ⟨hblank, hs⟩ := h.lookup_eq_some.mp hstop
    rcases hp with rfl | ⟨rfl, hprovider, hp⟩
    · obtain ⟨-, target, rfl, hp⟩ := href
      exact ⟨_, _, hp, hs,
        .arranged (.connectionSwitched hbefore hafter hjoins hleaves)⟩
    · exact h.linkOf_lookups hstop hp fun _ _ =>
        .arranged (.consumerSwitched hbefore hafter href hprovider.symm hleaves rfl)

/-- What a stopped runtime waits for is the last of a removed node. -/
theorem sound_nodeGone (h : Compiled codec current desired changes c)
    {runtimeId nodeId : String} {stop : Nat}
    (hstop : c.lookup .stopRuntime runtimeId = some stop)
    (hentry : c.removedNodeRuntime[nodeId]? = some runtimeId)
    (hgone : c.nodeGone nodeId = some p) :
    LinkOf c (Precedes current desired) ⟨stop, p⟩ := by
  obtain ⟨node, hbefore, hafter, howned, hruntime⟩ :=
    h.removedNodeRuntime_eq_some.mp hentry
  rcases Option.or_eq_some_iff.mp hgone with hp | ⟨hnone, hp⟩
  · exact h.linkOf_lookups hstop hp fun _ _ => .arranged (.nodeRemoved hbefore hruntime)
  · refine h.linkOf_lookups hstop hp fun _ hblank =>
      .arranged (.nodeStopped hbefore ?_ hruntime)
    by_contra hcompute
    obtain ⟨ref, href⟩ := h.exists_holds.mpr
      (@Drafted.removeNode codec _ _ ⟨nodeId, hblank⟩ _ hbefore hafter howned hcompute)
    rw [h.lookup_eq_some.mpr ⟨hblank, href⟩] at hnone
    cases hnone

theorem sound_runtimeRemoved (h : Compiled codec current desired changes c)
    {runtimeId : String} {stop : Nat}
    (hstop : c.lookup .stopRuntime runtimeId = some stop)
    (hlink : ⟨s, p⟩ ∈ c.removedNodeRuntime.toList.flatMap (fun entry =>
        if entry.2 = runtimeId then Compilation.linked (some stop) (c.nodeGone entry.1)
        else []) ++
      Compilation.linked (c.lookup .removeRuntime runtimeId) (some stop)) :
    LinkOf c (Precedes current desired) ⟨s, p⟩ := by
  rcases List.mem_append.mp hlink with hlink | hlink
  · obtain ⟨⟨nodeId, other⟩, hentry, hgone⟩ := List.mem_flatMap.mp hlink
    dsimp only at hgone
    split at hgone
    · rename_i hruntime
      subst hruntime
      obtain ⟨heq, hp⟩ := mem_linked.mp hgone
      cases heq
      exact h.sound_nodeGone hstop (KeyedMap.mem_toList.mp hentry) hp
    · cases hgone
  · obtain ⟨hs, heq⟩ := mem_linked.mp hlink
    cases heq
    exact h.linkOf_lookups hs hstop fun _ _ => .follows (.runtimeStopped _)

theorem sound_endsHealthy (h : Compiled codec current desired changes c)
    {connection : Nat} {edge : Edge} {operation : ActivityOperation}
    (hop : c.Holds connection operation)
    (hrelated : ∀ target : NodeTarget, Joins edge target.nodeId →
      Connected current desired (.waitForHealthy target) operation)
    (hlink : ⟨s, p⟩ ∈ c.endsHealthy connection edge) :
    LinkOf c (Precedes current desired) ⟨s, p⟩ := by
  obtain ⟨rfl, nodeId, hjoins, hp⟩ := mem_endsHealthy.mp hlink
  obtain ⟨hblank, hp⟩ := h.lookup_eq_some.mp hp
  exact ⟨_, _, hp, hop, .connected (hrelated ⟨nodeId, hblank⟩ hjoins)⟩

theorem sound_edgeAdded (h : Compiled codec current desired changes c)
    (hdistinct : TokensDistinct changes) {edgeId : String} {edge : Edge}
    (hmem : .added (.edge edgeId) (.edge edge) ∈ changes) {found : Option DraftRef}
    (hfound : c.matchingRef (.added (.edge edgeId) (.edge edge)) = .ok found)
    (hlink : ⟨s, p⟩ ∈ match found with
      | none => Compilation.linked
          ((c.lookup .startNode edge.consumerRole).or
            (c.lookup .reconcileNode edge.consumerRole))
          (c.lookup .healthyNode edge.providerRole)
      | some connection => c.endsHealthy connection edge) :
    LinkOf c (Precedes current desired) ⟨s, p⟩ := by
  obtain ⟨_, heq, hafter, hbefore⟩ := ((h.mem _).mp hmem).whole
  cases heq
  cases found with
  | none =>
      have hbinding : edge.binding = .environment := by
        by_contra hbinding
        have hblank := h.nonblank_target (.single hmem rfl)
          (show memberTargetId (.edge edgeId) (.edge edge) = some edgeId by
            simp [memberTargetId, hbinding])
        exact h.matchingRef_none hmem rfl hfound
          (@Drafts.addConnection ⟨edgeId, hblank⟩ _ hbinding)
      obtain ⟨hs, hp⟩ := mem_linked.mp hlink
      rcases Option.or_eq_some_iff.mp hs with hs | ⟨-, hs⟩
      · exact h.linkOf_lookups hs hp fun _ _ =>
          .connected (.consumerStarted hafter hbefore hbinding rfl rfl)
      · exact h.linkOf_lookups hs hp fun _ _ =>
          .connected (.consumerBound hafter hbefore hbinding rfl rfl)
  | some connection =>
      obtain ⟨operation, hop, hdrafts⟩ := h.matchingRef_some hdistinct hmem rfl hfound
      cases hdrafts with
      | addConnection hbinding =>
          exact h.sound_endsHealthy hop (fun _ hjoins => .endAdded hafter hjoins) hlink
      | review hreason => cases hreason

theorem sound_edgeModified (h : Compiled codec current desired changes c)
    (hdistinct : TokensDistinct changes) {edgeId : String}
    {old : DiffValue} {edge : Edge} (hmem : .modified (.edge edgeId) old (.edge edge) ∈
      changes) {found : Option DraftRef}
    (hfound : c.matchingRef (.modified (.edge edgeId) old (.edge edge)) = .ok found)
    (hlink : ⟨s, p⟩ ∈ match found with
      | none => Compilation.linked (c.lookup .reconcileNode edge.consumerRole)
          (c.lookup .healthyNode edge.providerRole)
      | some connection => c.endsHealthy connection edge) :
    LinkOf c (Precedes current desired) ⟨s, p⟩ := by
  obtain ⟨before, _, rfl, heq, hbefore, hafter, hne⟩ := ((h.mem _).mp hmem).whole
  cases heq
  cases found with
  | none =>
      have hbinding : throughEnvironment before edge = true := by
        by_contra hbinding
        rw [Bool.not_eq_true] at hbinding
        have hblank := h.nonblank_target (.single hmem rfl)
          (show modifiedTargetId (.edge edgeId) (.edge before) (.edge edge) =
            some edgeId by
            simp [modifiedTargetId, hbinding])
        exact h.matchingRef_none hmem rfl hfound
          (@Drafts.switchConnection ⟨edgeId, hblank⟩ _ _ hbinding)
      obtain ⟨hs, hp⟩ := mem_linked.mp hlink
      exact h.linkOf_lookups hs hp fun _ _ =>
        .connected (.consumerRebound hbefore hafter hne hbinding rfl rfl)
  | some connection =>
      obtain ⟨operation, hop, hdrafts⟩ := h.matchingRef_some hdistinct hmem rfl hfound
      cases hdrafts with
      | switchConnection hbinding =>
          exact h.sound_endsHealthy hop
            (fun _ hjoins => .endSwitched hafter hjoins) hlink
      | review hreason => cases hreason

/-- **Every link of a change** is a rule. -/
theorem sound_change (h : Compiled codec current desired changes c)
    (hdistinct : TokensDistinct changes) {change : StructuralChange}
    (hmem : change ∈ changes) (hadd : c.addDependencies change = .ok ls)
    (hlink : ⟨s, p⟩ ∈ ls) : LinkOf c (Precedes current desired) ⟨s, p⟩ := by
  obtain ⟨found, hfound, hbody⟩ := EventFold.bind_ok.mp hadd
  have hwhole := ((h.mem change).mp hmem).whole
  split at hbody
  · obtain ⟨_, _, heq, hafter, -⟩ := hwhole
    cases heq
    obtain ⟨runtime, hruntime, ingresses, hingresses, hrest⟩ := by
      simpa only [EventFold.bind_ok] using hbody
    cases hrest
    exact h.sound_nodeAdded hafter hruntime hingresses hlink
  · obtain ⟨_, heq, hafter, -⟩ := hwhole
    cases heq
    cases hbody
    rcases List.mem_append.mp hlink with hlink | hlink
    · rcases List.mem_append.mp hlink with hlink | hlink
      · obtain ⟨hs, hp⟩ := mem_linked.mp hlink
        exact h.linkOf_lookups hs hp fun _ _ => .arranged (.targetHealthy hafter rfl)
      · obtain ⟨hs, hp⟩ := mem_linked.mp hlink
        exact h.linkOf_lookups hs hp fun _ _ => .arranged (.targetReconciled hafter rfl)
    · obtain ⟨hs, hp⟩ := mem_linked.mp hlink
      exact h.linkOf_lookups hs hp fun _ _ => .arranged (.ingressAllocated hafter rfl)
  · refine h.sound_edgeAdded hdistinct hmem hfound ?_
    split at hbody <;> cases hbody <;> exact hlink
  · refine h.sound_edgeModified hdistinct hmem hfound ?_
    split at hbody <;> cases hbody <;> exact hlink
  · split at hbody
    · cases hbody
      cases hlink
    · rename_i hstop
      cases hbody
      exact h.sound_nodeRemoved hstop hlink
  · split at hbody
    · cases hbody
      cases hlink
    · rename_i hstop
      cases hbody
      exact h.sound_runtimeRemoved hstop hlink
  · cases hbody
    cases hlink

/-- **Every link of a reconciled node** is a rule. -/
theorem sound_group (h : Compiled codec current desired changes c)
    {group : String × List StructuralChange}
    (hgroup : c.nodeReconciliations[group.1]? = some group.2)
    (hadd : c.groupLinks group = .ok ls) (hlink : ⟨s, p⟩ ∈ ls) :
    LinkOf c (Precedes current desired) ⟨s, p⟩ := by
  unfold Compilation.groupLinks at hadd
  split at hadd
  · rename_i reconcile hreconcile
    cases hadd
    obtain ⟨change, hchange, hlink⟩ := List.mem_flatMap.mp hlink
    rw [h.gathered.nodeGroups] at hgroup
    obtain ⟨hmem, howner⟩ := (mem_of_foundGroup hgroup).mp hchange
    unfold Compilation.membershipLinks at hlink
    split at hlink
    · obtain ⟨nodeId, before, after, rfl, hbefore, hafter, hmoved, rfl, rfl⟩ :=
        moved_of_membership ((h.mem _).mp hmem)
      cases howner
      rcases List.mem_append.mp hlink with hlink | hlink
      · obtain ⟨heq, hp⟩ := mem_linked.mp hlink
        cases heq
        exact h.linkOf_lookups hreconcile hp fun _ _ =>
          .arranged (.movedIn hbefore hafter hmoved rfl)
      · obtain ⟨hs, heq⟩ := mem_linked.mp hlink
        cases heq
        exact h.linkOf_lookups hs hreconcile fun _ _ =>
          .arranged (.movedOut hbefore hafter hmoved rfl)
    · cases hlink
  · cases hadd

/-- **Soundness of the links**: where tokens are distinct, every link is a rule. -/
theorem sound_links (h : Compiled codec current desired changes c)
    (hdistinct : TokensDistinct changes) (hlinks : c.links changes = .ok ls)
    (hlink : ⟨s, p⟩ ∈ ls) : LinkOf c (Precedes current desired) ⟨s, p⟩ := by
  simp only [Compilation.links, EventFold.bind_ok] at hlinks
  obtain ⟨structural, hstructural, membership, hmembership, hrest⟩ := hlinks
  cases hrest
  rcases List.mem_append.mp hlink with hlink | hlink
  · obtain ⟨change, hchange, bs, hbs, hlink⟩ :=
      (Outcome.mem_collectMap hstructural).mp hlink
    exact h.sound_change hdistinct hchange hbs hlink
  · obtain ⟨group, hgroup, bs, hbs, hlink⟩ :=
      (Outcome.mem_collectMap hmembership).mp hlink
    exact h.sound_group (KeyedMap.mem_toList.mp hgroup) hbs hlink

end Compiled

end ControlPlaneKit.Planning
