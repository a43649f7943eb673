import ControlPlaneKit.Planning.PlanConditions
import Mathlib.Data.Prod.Lex

/-!
# PlanAcyclic — the compiler adds no cycle of its own

Starts follow the connections of the desired graph, stops the ingresses of the
current one backwards.  Where both are acyclic, every operation has a rank: a
phase of the transition, and a place within it that comes from the number of
ancestors of a node.
-/

namespace ControlPlaneKit.Planning

open ControlPlaneKit.Library
open ControlPlaneKit.Library.DependencyGraph (ancestorCount ancestorCount_lt)
open ControlPlaneKit.Library.Outcome (Succeeds mapError_eq_ok)
open ControlPlaneKit.Topology
open Compilation (Link)
open Relation (TransGen)

/-! ## What flows through a graph -/

/-- From the provider to the consumer of an edge, from the target to the
connector of a public ingress. -/
inductive Feeds (graph : DeploymentGraph) (first second : String) : Prop where
  | edge {edgeId : String} {edge : Edge} (hedge : graph.edges[edgeId]? = some edge)
      (hprovider : edge.providerRole = first) (hconsumer : edge.consumerRole = second)
  | ingress {ingress : NamedPublicIngress} (hingress : ingress ∈ graph.publicIngresses)
      (htarget : ingress.target.nodeId = first)
      (hconnector : ingress.connectorNodeId = second)

/-- From the connector to the target of a public ingress. -/
def Exposes (graph : DeploymentGraph) (first second : String) : Prop :=
  ∃ ingress ∈ graph.publicIngresses, ingress.connectorNodeId = first ∧
    ingress.target.nodeId = second ∧ first ≠ second

def Acyclic (related : String → String → Prop) : Prop :=
  ∀ nodeId, ¬ TransGen related nodeId nodeId

/-- What flows up a rank flows in no circle. -/
theorem acyclic_feeds_of_rank {graph : DeploymentGraph} (rank : String → Nat)
    (hedges : ∀ (edgeId : String) (edge : Edge), graph.edges[edgeId]? = some edge →
      rank edge.providerRole < rank edge.consumerRole)
    (hingresses : ∀ ingress ∈ graph.publicIngresses,
      rank ingress.target.nodeId < rank ingress.connectorNodeId) :
    Acyclic (Feeds graph) := by
  refine fun nodeId =>
    DependencyGraph.not_loop_of_rank rank (fun first second hfeeds => ?_) nodeId
  cases hfeeds with
  | edge hedge hprovider hconsumer =>
      subst hprovider hconsumer
      exact hedges _ _ hedge
  | ingress hingress htarget hconnector =>
      subst htarget hconnector
      exact hingresses _ hingress

theorem acyclic_exposes_of_rank {graph : DeploymentGraph} (rank : String → Nat)
    (hingresses : ∀ ingress ∈ graph.publicIngresses,
      rank ingress.connectorNodeId < rank ingress.target.nodeId) :
    Acyclic (Exposes graph) := by
  refine fun nodeId =>
    DependencyGraph.not_loop_of_rank rank (fun first second hexposes => ?_) nodeId
  obtain ⟨ingress, hingress, rfl, rfl, -⟩ := hexposes
  exact hingresses ingress hingress

/-! ## Ranks -/

section Ranks

variable (current desired : DeploymentGraph)

/-- The members of a graph something flows from. -/
def feeders (graph : DeploymentGraph) : Finset String :=
  (graph.edges.toList.map (·.2.providerRole) ++
    graph.publicIngresses.map (·.target.nodeId)).toFinset

def exposers (graph : DeploymentGraph) : Finset String :=
  (graph.publicIngresses.map (·.connectorNodeId)).toFinset

noncomputable def feedRank (nodeId : String) : Nat :=
  ancestorCount (Feeds desired) (feeders desired) nodeId

noncomputable def exposeRank (nodeId : String) : Nat :=
  ancestorCount (Exposes current) (exposers current) nodeId

variable {current desired}

theorem feedRank_lt (hacyclic : Acyclic (Feeds desired)) {first second : String}
    (h : Feeds desired first second) :
    feedRank desired first < feedRank desired second := by
  refine ancestorCount_lt hacyclic ?_ h
  rw [feeders, List.mem_toFinset, List.mem_append, List.mem_map, List.mem_map]
  cases h with
  | edge hedge hprovider _ => exact .inl ⟨_, KeyedMap.mem_toList.mpr hedge, hprovider⟩
  | ingress hingress htarget _ => exact .inr ⟨_, hingress, htarget⟩

/-- Ranks grow along exposures that have no cycle. -/
theorem exposeRank_lt (hacyclic : Acyclic (Exposes current)) {first second : String}
    (h : Exposes current first second) :
    exposeRank current first < exposeRank current second := by
  refine ancestorCount_lt hacyclic ?_ h
  obtain ⟨ingress, hingress, hconnector, -⟩ := h
  rw [exposers, List.mem_toFinset, List.mem_map]
  exact ⟨ingress, hingress, hconnector⟩

variable (current desired)

/-- The node a public ingress points at, and the node it comes in through. -/
def targetOf (graph : DeploymentGraph) (ingressId : String) : String :=
  (graph.ingressById[ingressId]?.map (·.target.nodeId)).getD ""

def connectorOf (graph : DeploymentGraph) (ingressId : String) : String :=
  (graph.ingressById[ingressId]?.map (·.connectorNodeId)).getD ""

/-- **The rank of an operation**: the phase, and the place within it. -/
noncomputable def operationRank : ActivityOperation → Nat ×ₗ Nat
  | .startNode target | .reconcileNode target =>
      toLex (1, 3 * feedRank desired target.nodeId)
  | .waitForHealthy target => toLex (1, 3 * feedRank desired target.nodeId + 1)
  | .allocatePublicIngress target =>
      toLex (1, 3 * feedRank desired (targetOf desired target.ingressId) + 2)
  | .addSocketConnection _ | .switchSocketConnection _
  | .removeSocketConnection _ => toLex (2, 0)
  | .stopNode target => toLex (3, 2 * exposeRank current target.nodeId)
  | .removePublicIngress target =>
      toLex (3, 2 * exposeRank current (connectorOf current target.ingressId) + 1)
  | .removeNodeResource _ => toLex (4, 0)
  | .stopRuntime _ => toLex (5, 0)
  | .removeRuntimeResource _ => toLex (6, 0)
  | _ => toLex (0, 0)

variable {current desired}

/-- An earlier phase comes first. -/
theorem lex_of_phase {a b x y : Nat} (h : a < b) :
    (toLex (a, x) : Nat ×ₗ Nat) < toLex (b, y) :=
  Prod.Lex.toLex_lt_toLex.mpr (.inl h)

/-- Within a phase the place decides. -/
theorem lex_of_place {a x y : Nat} (h : x < y) :
    (toLex (a, x) : Nat ×ₗ Nat) < toLex (a, y) :=
  Prod.Lex.toLex_lt_toLex.mpr (.inr ⟨rfl, h⟩)

theorem mem_of_ingressById {graph : DeploymentGraph} {ingressId : String}
    {ingress : NamedPublicIngress} (h : graph.ingressById[ingressId]? = some ingress) :
    ingress ∈ graph.publicIngresses :=
  (DeploymentGraph.ingressById_eq_some.mp h).1

/-- **What precedes has the lower rank.** -/
theorem Precedes.rank_lt (hdesired : Acyclic (Feeds desired))
    (hcurrent : Acyclic (Exposes current)) {first second : ActivityOperation}
    (h : Precedes current desired first second) :
    operationRank current desired first < operationRank current desired second := by
  cases h with
  | follows h =>
      cases h with
      | started target => exact lex_of_place (Nat.lt_succ_self _)
      | reconciled target => exact lex_of_place (Nat.lt_succ_self _)
      | nodeStopped target => exact lex_of_phase (by decide)
      | runtimeStopped target => exact lex_of_phase (by decide)
  | arranged h =>
      cases h with
      | runtimeStarted => exact lex_of_phase (by decide)
      | ingressAllocated hafter hconnector =>
          have :=
            feedRank_lt hdesired (.ingress (mem_of_ingressById hafter) rfl hconnector)
          refine lex_of_place ?_
          rw [targetOf, hafter, Option.map_some, Option.getD_some]
          omega
      | targetHealthy hafter htarget =>
          refine lex_of_place ?_
          rw [targetOf, hafter, Option.map_some, Option.getD_some, htarget]
          omega
      | targetReconciled hafter htarget =>
          refine lex_of_place ?_
          rw [targetOf, hafter, Option.map_some, Option.getD_some, htarget]
          omega
      | connectorStopped hbefore hconnector =>
          refine lex_of_place ?_
          rw [connectorOf, hbefore, Option.map_some, Option.getD_some, hconnector]
          omega
      | ingressRemoved hbefore htarget hother =>
          have := exposeRank_lt hcurrent
            ⟨_, mem_of_ingressById hbefore, rfl, htarget, hother⟩
          refine lex_of_place ?_
          rw [connectorOf, hbefore, Option.map_some, Option.getD_some]
          omega
      | connectionRemoved | consumerReleased | connectionSwitched | consumerSwitched |
          nodeRemoved | nodeStopped | movedIn | movedOut =>
            exact lex_of_phase (by decide)
  | connected h =>
      cases h with
      | consumerStarted hafter _ _ hprovider hconsumer =>
          have := feedRank_lt hdesired (.edge hafter hprovider hconsumer)
          exact lex_of_place (by omega)
      | consumerBound hafter _ _ hprovider hconsumer =>
          have := feedRank_lt hdesired (.edge hafter hprovider hconsumer)
          exact lex_of_place (by omega)
      | endAdded => exact lex_of_phase (by decide)
      | consumerRebound _ hafter _ _ hprovider hconsumer =>
          have := feedRank_lt hdesired (.edge hafter hprovider hconsumer)
          exact lex_of_place (by omega)
      | endSwitched => exact lex_of_phase (by decide)

end Ranks

/-! ## No cycle -/

section Composition

variable {codec : GraphDescriptorCodec} {current desired : DeploymentGraph}
  {changes : List StructuralChange} {c : Compilation} {ls : List Link}

/-- The rank of the activity with an identity. -/
noncomputable def activityRank (current desired : DeploymentGraph)
    (activities : List PlannedActivity) (activityId : ActivityId) : Nat ×ₗ Nat :=
  match activities.find? (·.activityId = activityId) with
  | some activity => operationRank current desired activity.operation
  | none => toLex (0, 0)

/-- An activity has the rank of its operation. -/
theorem activityRank_self {activities : List PlannedActivity}
    (hids : (activityIds activities).Nodup) {activity : PlannedActivity}
    (hmem : activity ∈ activities) :
    activityRank current desired activities activity.activityId =
      operationRank current desired activity.operation := by
  unfold activityRank
  split
  · rename_i found hfound
    have hid : found.activityId = activity.activityId := by
      simpa using List.find?_some hfound
    rw [List.inj_on_of_nodup_map hids (List.mem_of_find?_eq_some hfound) hmem hid]
  · rename_i hnone
    simpa using List.find?_eq_none.mp hnone activity hmem

/-- **What the compiler composes has no cycle.** -/
theorem not_hasCycle_finish (h : Compiled codec current desired changes c)
    (hdistinct : TokensDistinct changes) (hlinks : c.links changes = .ok ls)
    (hdesired : Acyclic (Feeds desired)) (hcurrent : Acyclic (Exposes current)) :
    hasCycle (c.finish ls) = false := by
  have hcomposable := composable_finish h hdistinct hlinks
  refine DependencyGraph.not_hasCycle_of_rank
    (activityRank current desired (c.finish ls)) ?_ _
  intro a p hp
  obtain ⟨second, hsecond, rfl, hpred⟩ := exists_of_mem_predecessorsOf hp
  obtain ⟨first, hfirst, rfl⟩ :=
    List.mem_map.mp (hcomposable.known second hsecond p hpred)
  rw [activityRank_self hcomposable.ids_nodup hfirst,
    activityRank_self hcomposable.ids_nodup hsecond]
  exact (h.precedes_of_predecessor hdistinct hlinks hfirst hsecond hpred).rank_lt
    hdesired hcurrent

end Composition

/-! ## Owned acyclic graphs -/

section Outcome

variable {repr : String → String} {codec : GraphDescriptorCodec}
  {current desired : DeploymentGraph} {currentValid desiredValid : ValidatedGraph}

/-- **When owned acyclic graphs have a plan**: where their changes can be rendered
and no target is blank.  Of the current graph nothing has to be owned. -/
theorem plansAcyclic_iff (hcurrent : IsValid repr codec current currentValid)
    (hdesired : IsValid repr codec desired desiredValid)
    (hdesiredOwned : AllOwned desired) (hfeeds : Acyclic (Feeds desired))
    (hexposes : Acyclic (Exposes current))
    (hdistinct : DistinctTokens currentValid desiredValid) :
    (∃ plan, planGraphs currentValid desiredValid = .ok plan) ↔
      Describable codec current desired ∧ TargetsNamed current desired := by
  constructor
  · rintro ⟨plan, hplan⟩
    have hplannable :=
      (composes_iff hcurrent hdesired).mp (composes_of_rejects (.inl ⟨plan, hplan⟩))
    exact ⟨hplannable.describable, hplannable.named⟩
  · rintro ⟨hdescribable, hnamed⟩
    obtain ⟨diff, c, ls, h⟩ :=
      (composes_iff hcurrent hdesired).mpr ⟨hdescribable, hnamed, hdesiredOwned.idle⟩
    have hcompiled := h.compiled hcurrent hdesired
    have htokens := hdistinct diff h.diffed
    have hcycle := not_hasCycle_finish hcompiled htokens h.linked hfeeds hexposes
    rw [h.outcome]
    rcases composeActivities_of_composable
        (composable_finish hcompiled htokens h.linked) with
      ⟨-, ordered, hordered⟩ | ⟨hcycle', -⟩
    · exact ⟨⟨ordered, _, hordered⟩, mapError_eq_ok.mpr (make_eq_ok.mpr hordered)⟩
    · rw [hcycle] at hcycle'
      cases hcycle'

end Outcome

/-! ### A runtime without a name -/

def namelessHost : DeploymentGraph :=
  sampleGraph [] [] [sampleRuntime "" [] .ownedEphemeral]

theorem emptyGraph_allOwned : AllOwned (sampleGraph [] [] []) :=
  ⟨fun _ _ hnode => absurd ((sampleGraph_node (by simp)).mp hnode).1 List.not_mem_nil,
    fun _ _ hruntime =>
      absurd ((sampleGraph_runtime (by simp)).mp hruntime).1 List.not_mem_nil⟩

theorem emptyGraph_exposes_acyclic : Acyclic (Exposes (sampleGraph [] [] [])) :=
  acyclic_exposes_of_rank (fun _ => 0) (fun _ hingress =>
    absurd hingress List.not_mem_nil)

theorem namelessHost_allOwned : AllOwned namelessHost := by
  constructor
  · intro nodeId node hnode
    exact absurd ((sampleGraph_node (by simp)).mp hnode).1 List.not_mem_nil
  · intro runtimeId runtime hruntime
    obtain ⟨hmem, -⟩ := (sampleGraph_runtime (by simp)).mp hruntime
    obtain rfl := List.mem_singleton.mp hmem
    rfl

/-- The identity of a runtime may be empty, the target of its start may not. -/
theorem namelessHost_raises : ∃ currentValid desiredValid,
    IsValid plainRepr defaultGraphCodec (sampleGraph [] [] []) currentValid ∧
      IsValid plainRepr defaultGraphCodec namelessHost desiredValid ∧
      AllOwned (sampleGraph [] [] []) ∧ AllOwned namelessHost ∧
      Acyclic (Feeds namelessHost) ∧ Acyclic (Exposes (sampleGraph [] [] [])) ∧
      DistinctTokens currentValid desiredValid ∧
      ¬ ∃ plan, planGraphs currentValid desiredValid = .ok plan := by
  obtain ⟨currentValid, desiredValid, hcurrent, hdesired, h⟩ :=
    @exists_validated (sampleGraph [] [] []) namelessHost distinctDigits (by decide)
  have hacyclic : Acyclic (Feeds namelessHost) ∧
      Acyclic (Exposes (sampleGraph [] [] [])) :=
    ⟨acyclic_feeds_of_rank (fun _ => 0) (fun edgeId edge hedge =>
        absurd ((sampleGraph_edge (by simp)).mp hedge).1 List.not_mem_nil)
        (fun _ hingress => absurd hingress List.not_mem_nil),
      emptyGraph_exposes_acyclic⟩
  refine ⟨currentValid, desiredValid, hcurrent, hdesired, emptyGraph_allOwned,
    namelessHost_allOwned, hacyclic.1, hacyclic.2, distinctTokens_of_digits h, ?_⟩
  rintro ⟨plan, hplan⟩
  -- the composition is reached only where the target of the start has a name
  have hnamed := ((composes_iff hcurrent hdesired).mp
    (composes_of_rejects (.inl ⟨plan, hplan⟩))).named
  have hadded := hnamed.runtimeAdded "" (sampleRuntime "" [] .ownedEphemeral)
    ((sampleGraph_runtime (by simp)).mpr ⟨List.mem_singleton_self _, rfl⟩)
    (Option.eq_none_iff_forall_ne_some.mpr fun runtime hruntime =>
      absurd ((sampleGraph_runtime (by simp)).mp hruntime).1 List.not_mem_nil) rfl
  exact absurd hadded (by decide)

/-! ### A provider that is replaced behind an ingress -/

/-- The consumer comes after its provider. -/
def servedRank (nodeId : String) : Nat := if nodeId = "web" then 1 else 0

theorem servedBy_ranked {provider url : String} {nonempty : Text.isBlank url = false}
    (hprovider : provider ≠ "web") {edgeId : String} {edge : Edge}
    (hedge : (servedBy provider url nonempty).edges[edgeId]? = some edge) :
    servedRank edge.providerRole < servedRank edge.consumerRole := by
  obtain ⟨rfl, -⟩ := servedBy_edges.mp hedge
  simp [sampleEdge, servedRank, hprovider]

theorem servedBy_acyclic {provider url : String} {nonempty : Text.isBlank url = false}
    (hprovider : provider ≠ "web") : Acyclic (Feeds (servedBy provider url nonempty)) :=
  acyclic_feeds_of_rank servedRank (fun _ _ => servedBy_ranked hprovider)
    (fun _ hingress => absurd hingress List.not_mem_nil)

/-- In the graph that a plan leads to, nothing feeds itself. -/
theorem behindGreen_feeds_acyclic : Acyclic (Feeds behindGreen) := by
  refine acyclic_feeds_of_rank servedRank (fun _ _ hedge => ?_) ?_
  · exact @servedBy_ranked "green" "http://green" greenUrl_nonempty
      (by decide) _ _ hedge
  · intro ingress hingress
    obtain rfl := List.mem_singleton.mp hingress
    exact show servedRank "green" < servedRank "web" by decide

theorem behindBlue_exposes_acyclic : Acyclic (Exposes behindBlue) := by
  refine acyclic_exposes_of_rank (fun nodeId => 1 - servedRank nodeId) ?_
  intro ingress hingress
  obtain rfl := List.mem_singleton.mp hingress
  exact show 1 - servedRank "web" < 1 - servedRank "blue" by decide

/-- The consumer and both ingresses are fed and exposed, and the replacement is
planned. -/
theorem behindGreen_acyclic : ∃ currentValid desiredValid,
    IsValid plainRepr defaultGraphCodec behindBlue currentValid ∧
      IsValid plainRepr defaultGraphCodec behindGreen desiredValid ∧
      Feeds behindGreen "green" "web" ∧ Exposes behindBlue "web" "blue" ∧
      Describable defaultGraphCodec behindBlue behindGreen ∧
      TargetsNamed behindBlue behindGreen ∧
      ∃ plan, planGraphs currentValid desiredValid = .ok plan := by
  obtain ⟨currentValid, desiredValid, hcurrent, hdesired, hdigits, -⟩ :=
    behindGreen_differs
  have hdescribable := describable_of_digits hcurrent hdesired hdigits
  have hnamed := behindBlue_named.targets behindGreen_named
  exact ⟨currentValid, desiredValid, hcurrent, hdesired,
    .edge (@servedBy_edge "green" "http://green" greenUrl_nonempty) rfl rfl,
    ⟨_, List.mem_singleton_self _, rfl, rfl, by decide⟩, hdescribable, hnamed,
    (plansAcyclic_iff hcurrent hdesired behindGreen_allOwned behindGreen_feeds_acyclic
      behindBlue_exposes_acyclic (distinctTokens_of_digits hdigits)).mpr
      ⟨hdescribable, hnamed⟩⟩

end ControlPlaneKit.Planning
