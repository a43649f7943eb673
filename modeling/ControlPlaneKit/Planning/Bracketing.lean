import ControlPlaneKit.Planning.PlanAcyclic
import ControlPlaneKit.Planning.PlanSafety

/-!
# Bracketing — a plan works on a node while its runtime is up

Starts and moves come after the start of the runtime, the stop of a runtime after
everything that leaves it, and a node is waited for after its start or
reconciliation.  These orders come from the tables of the compilation.  That a
consumer starts after its new providers comes from the token of the edge.
-/

namespace ControlPlaneKit.Planning

open ControlPlaneKit.Library
open ControlPlaneKit.Topology
open Compilation (Link)
open Relation (TransGen)

/-! ## Transitive predecessors -/

/-- One activity of the plan is a predecessor of another. -/
def Prior (plan : ActivityPlan) (first second : PlannedActivity) : Prop :=
  first ∈ plan.activities ∧ second ∈ plan.activities ∧
    first.activityId ∈ second.predecessors

/-- One activity is among the transitive predecessors of another. -/
def Before (plan : ActivityPlan) : PlannedActivity → PlannedActivity → Prop :=
  TransGen (Prior plan)

/-- Whatever performs the first operation comes before whatever performs the
second. -/
def Ordered (plan : ActivityPlan) (first second : ActivityOperation) : Prop :=
  ∀ a ∈ plan.activities, a.operation = first → ∀ b ∈ plan.activities,
    b.operation = second →
    Before plan a b

/-- The plan performs the first operation, and before the second. -/
def Preceded (plan : ActivityPlan) (first second : ActivityOperation) : Prop :=
  (∃ a ∈ plan.activities, a.operation = first) ∧ Ordered plan first second

/-- What is performed in between carries an order over. -/
theorem Ordered.trans {plan : ActivityPlan} {first second third : ActivityOperation}
    (h : Ordered plan first second) (h' : Preceded plan second third) :
    Ordered plan first third := by
  intro a ha haOp b hb hbOp
  obtain ⟨⟨m, hm, hmOp⟩, hordered⟩ := h'
  exact (h a ha haOp m hm hmOp).trans (hordered m hm hmOp b hb hbOp)

/-- An activity that nothing precedes is not after anything. -/
theorem not_before_of_nil {plan : ActivityPlan} {first second : PlannedActivity}
    (h : second.predecessors = []) : ¬ Before plan first second := by
  intro hbefore
  obtain ⟨_, -, hprior⟩ := TransGen.tail'_iff.mp hbefore
  rw [Prior, h] at hprior
  cases hprior.2.2

/-! ## What bracketing says -/

/-- **A node is worked on while its runtime is up.** -/
structure BracketsRuntimes (current desired : DeploymentGraph)
    (plan : ActivityPlan) : Prop where
  starts : ∀ (target : NodeTarget) (runtime : RuntimeTarget) (node : Node),
    desired.nodes[target.nodeId]? = some node → node.runtimeId = runtime.runtimeId →
    Ordered plan (.startRuntime runtime) (.startNode target)
  moves : ∀ (target : NodeTarget) (runtime : RuntimeTarget) (before after : Node),
    current.nodes[target.nodeId]? = some before →
    desired.nodes[target.nodeId]? = some after →
    before.runtimeId ≠ after.runtimeId → after.runtimeId = runtime.runtimeId →
    Ordered plan (.startRuntime runtime) (.reconcileNode target)
  drops : ∀ (runtime : RuntimeTarget) (nodeId : String) (node : Node),
    current.nodes[nodeId]? = some node → desired.nodes[nodeId]? = none →
    node.lifecycle.ownership = .owned → node.runtimeId = runtime.runtimeId →
    ∃ target : NodeTarget, target.nodeId = nodeId ∧
      Preceded plan (.stopNode target) (.stopRuntime runtime) ∧
      Ordered plan (.removeNodeResource target) (.stopRuntime runtime)
  leaves : ∀ (runtime : RuntimeTarget) (nodeId : String) (before after : Node),
    current.nodes[nodeId]? = some before → desired.nodes[nodeId]? = some after →
    before.runtimeId ≠ after.runtimeId → before.runtimeId = runtime.runtimeId →
    ∃ target : NodeTarget, target.nodeId = nodeId ∧
      Preceded plan (.reconcileNode target) (.stopRuntime runtime)
  waits : ∀ activity ∈ plan.activities, ∀ target,
    activity.operation = .waitForHealthy target →
    Preceded plan (.startNode target) (.waitForHealthy target) ∨
      Preceded plan (.reconcileNode target) (.waitForHealthy target)

/-- **A consumer starts after its new providers are healthy.** -/
def StartsAfterProviders (current desired : DeploymentGraph)
    (plan : ActivityPlan) : Prop :=
  ∀ (edgeId : String) (edge : Edge) (provider consumer : NodeTarget),
    desired.edges[edgeId]? = some edge → current.edges[edgeId]? = none →
    edge.binding = .environment → edge.providerRole = provider.nodeId →
    edge.consumerRole = consumer.nodeId →
    Ordered plan (.waitForHealthy provider) (.startNode consumer)

/-! ## Every plan brackets -/

section Brackets

variable {codec : GraphDescriptorCodec} {current desired : DeploymentGraph}
  {changes : List StructuralChange} {plan : ActivityPlan} {c : Compilation}
  {ls : List Link}

namespace Planned

/-- The rules that need no token order a plan. -/
theorem ordered (h : Planned codec current desired changes plan c ls)
    {first second : ActivityOperation}
    (hrule : Follows first second ∨ Arranged current desired first second) :
    Ordered plan first second := by
  rintro a ha rfl b hb rfl
  exact .single ⟨ha, hb, h.mem_predecessors ha hb hrule⟩

theorem preceded (h : Planned codec current desired changes plan c ls)
    {first second : ActivityOperation} (hfirst : Drafted codec current desired first)
    (hrule : Follows first second ∨ Arranged current desired first second) :
    Preceded plan first second :=
  ⟨h.exists_activity.mpr hfirst, h.ordered hrule⟩

/-- Where tokens are distinct, every rule orders a plan. -/
theorem ordered_of_precedes (h : Planned codec current desired changes plan c ls)
    (hdistinct : TokensDistinct changes) {first second : ActivityOperation}
    (hrule : Precedes current desired first second) : Ordered plan first second := by
  rintro a ha rfl b hb rfl
  exact .single ⟨ha, hb, (h.predecessor_iff hdistinct ha hb).mpr hrule⟩

/-- A dropped node is stopped before its runtime, directly where its compute is
retained and otherwise through its removal. -/
theorem dropped (h : Planned codec current desired changes plan c ls)
    {target : NodeTarget} {runtime : RuntimeTarget} {node : Node}
    (hbefore : current.nodes[target.nodeId]? = some node)
    (hafter : desired.nodes[target.nodeId]? = none)
    (howned : node.lifecycle.ownership = .owned)
    (hruntime : node.runtimeId = runtime.runtimeId) :
    Preceded plan (.stopNode target) (.stopRuntime runtime) := by
  have hstop : Drafted codec current desired (.stopNode target) :=
    .stopNode hbefore hafter howned
  by_cases hcompute : node.lifecycle.compute = .retained
  · exact h.preceded hstop (.inr (.nodeStopped hbefore hcompute hruntime))
  · have hremove : Preceded plan (.removeNodeResource target) (.stopRuntime runtime) :=
      h.preceded (.removeNode hbefore hafter howned hcompute)
        (.inr (.nodeRemoved hbefore hruntime))
    exact ⟨h.exists_activity.mpr hstop,
      (h.ordered (.inl (.nodeStopped target))).trans hremove⟩

/-- A plan without a review keeps the family of every node. -/
theorem family_eq (h : Planned codec current desired changes plan c ls)
    (hready : plan.readyForExecution = true) {nodeId : String} {before after : Node}
    (hbefore : current.nodes[nodeId]? = some before)
    (hafter : desired.nodes[nodeId]? = some after) :
    before.blockFamily = after.blockFamily := by
  by_contra hfamily
  obtain ⟨old, hold⟩ := h.compiled.encodable.1 _ _ hbefore
  obtain ⟨new, hnew⟩ := h.compiled.encodable.2 _ _ hafter
  obtain ⟨found, hfound⟩ :=
    @succeeds_nodeChanges codec nodeId _ _ ⟨old, hold⟩ ⟨new, hnew⟩
  have hchange : ChangeOf codec current desired (.ambiguous (.node nodeId)
      .nodeIdentityReused (some (.node before old)) (some (.node after new))) :=
    .nodeChanged hbefore hafter hfound
      ((mem_nodeChanges hfound).mpr (.reused hfamily hold hnew))
  obtain ⟨activity, hactivity, hop⟩ := h.exists_activity.mpr (.review hchange rfl rfl)
  rw [ActivityPlan.readyForExecution, Bool.not_eq_true', List.any_eq_false] at hready
  exact hready activity hactivity (by rw [hop]; rfl)

end Planned

variable {repr : String → String} {currentValid desiredValid : ValidatedGraph}

/-- **Runtime bracketing**: a plan that is ready works on nodes while their runtimes
are up; and where tokens are distinct, it starts consumers after their new
providers. -/
theorem bracketsRuntimes (hcurrent : IsValid repr codec current currentValid)
    (hdesired : IsValid repr codec desired desiredValid)
    (hplan : planGraphs currentValid desiredValid = .ok plan)
    (hready : plan.readyForExecution = true) :
    BracketsRuntimes current desired plan ∧
      (DistinctTokens currentValid desiredValid →
        StartsAfterProviders current desired plan) := by
  obtain ⟨diff, c, ls, hdiff, h⟩ := planned_of_plan hcurrent hdesired hplan
  have hnamed := ((composes_iff hcurrent hdesired).mp
    (composes_of_rejects (.inl ⟨plan, hplan⟩))).named
  refine ⟨⟨?_, ?_, ?_, ?_, ?_⟩, ?_⟩
  · intro target runtime node hafter hruntime
    exact h.ordered (.inr (.runtimeStarted hafter hruntime))
  · intro target runtime before after hbefore hafter hmoved hruntime
    exact h.ordered (.inr (.movedIn hbefore hafter hmoved hruntime))
  · intro runtime nodeId node hbefore hafter howned hruntime
    exact ⟨⟨nodeId, hnamed.nodeRemoved nodeId node hbefore hafter howned⟩, rfl,
      h.dropped hbefore hafter howned hruntime,
      h.ordered (.inr (.nodeRemoved hbefore hruntime))⟩
  · intro runtime nodeId before after hbefore hafter hmoved hruntime
    have hreconciled : NodeReconciled current desired nodeId :=
      ⟨before, after, hbefore, hafter, h.family_eq hready hbefore hafter, .inl hmoved⟩
    exact ⟨⟨nodeId, hnamed.nodeReconciled nodeId hreconciled⟩, rfl,
      h.preceded (.reconcileNode hreconciled)
        (.inr (.movedOut hbefore hafter hmoved hruntime))⟩
  · intro activity hactivity target hop
    have hdrafted := h.drafted hactivity
    rw [hop] at hdrafted
    cases hdrafted with
    | healthy hafter hbefore howned =>
        exact .inl (h.preceded (.startNode hafter hbefore howned)
          (.inl (.started target)))
    | reconciledHealthy hreconciled =>
        exact .inr (h.preceded (.reconcileNode hreconciled) (.inl (.reconciled target)))
  · intro hdistinct edgeId edge provider consumer hafter hbefore hbinding
      hprovider hconsumer
    exact h.ordered_of_precedes (hdistinct diff hdiff)
      (.connected (.consumerStarted hafter hbefore hbinding hprovider hconsumer))

end Brackets

/-! ### A consumer that is started with its provider -/

theorem emptyGraph_gone {edgeId : String} :
    (sampleGraph [] [] []).edges[edgeId]? = none := by
  refine Option.eq_none_iff_forall_ne_some.mpr fun edge hedge => ?_
  exact absurd ((sampleGraph_edge (by simp)).mp hedge).1 List.not_mem_nil

def blueTarget : NodeTarget := ⟨"blue", by decide⟩

def webTarget : NodeTarget := ⟨"web", by decide⟩

/-- The consumer is started after its provider, and both while their runtime is up. -/
theorem servedBlue_bracketed : ∃ currentValid desiredValid plan,
    IsValid plainRepr defaultGraphCodec (sampleGraph [] [] []) currentValid ∧
      IsValid plainRepr defaultGraphCodec
        (servedBy "blue" "http://blue" blueUrl_nonempty)
        desiredValid ∧
      planGraphs currentValid desiredValid = .ok plan ∧
      BracketsRuntimes (sampleGraph [] [] [])
        (servedBy "blue" "http://blue" blueUrl_nonempty)
        plan ∧
      Ordered plan (.waitForHealthy blueTarget) (.startNode webTarget) := by
  obtain ⟨currentValid, desiredValid, hcurrent, hdesired, h⟩ :=
    @exists_validated (sampleGraph [] [] [])
      (servedBy "blue" "http://blue" blueUrl_nonempty) (fun current desired =>
        distinctDigits current desired && reviewFree current desired)
      (by decide +kernel)
  obtain ⟨hdigits, hfree⟩ := Bool.and_eq_true .. |>.mp h
  have hdistinct := distinctTokens_of_digits hdigits
  obtain ⟨plan, hplan⟩ :=
    (plansAcyclic_iff hcurrent hdesired (servedBy_allOwned (by decide))
    (servedBy_acyclic (by decide)) emptyGraph_exposes_acyclic hdistinct).mpr
      ⟨describable_of_digits hcurrent hdesired hdigits,
        emptyGraph_named.targets (servedBy_named (by decide) (by decide))⟩
  obtain ⟨hbrackets, hstarts⟩ :=
    bracketsRuntimes hcurrent hdesired hplan
      (ready_of_reviewFree hcurrent hdesired hfree hplan)
  exact ⟨currentValid, desiredValid, plan, hcurrent, hdesired, hplan, hbrackets,
    hstarts hdistinct "link" _ blueTarget webTarget servedBy_edge
      emptyGraph_gone rfl rfl rfl⟩

/-! ### Two changes with one token

The digests of the added runtime and of the added edge begin with the same
sixteen digits, so the dependency of the edge lands on the start of the runtime. -/

theorem api_named : Text.isBlank "api" = false := by decide

def apiTarget : NodeTarget := ⟨"api", api_named⟩

theorem tierMetadata_environmentFree (tier : String) :
    "environment" ∉ [("tier", PyValue.str tier)].map (·.1) := by simp

theorem tierMetadata_keyed (tier : String) :
    PyValue.wellKeyed (.dict [("tier", .str tier)]) = true := rfl

def apiOfTier (tier : String) : Node :=
  { sampleProvider "api" "host" "5ce7eba623475077" "http://api" (by decide) with
    metadata := [("tier", .str tier)]
    metadataKeyed := tierMetadata_keyed tier
    metadataEnvironmentFree := tierMetadata_environmentFree tier }

def beforeCollision : DeploymentGraph :=
  sampleGraph [apiOfTier "gold"] [] [sampleRuntime "host" ["api"] .ownedEphemeral]

def linkEdge : Edge := sampleEdge "link" "api" "5ce7eba623475077" "web" "http://api"

def afterCollision : DeploymentGraph :=
  sampleGraph [apiOfTier "silver", sampleConsumer "web" "host" "http://api" "link"]
    [linkEdge]
    [ sampleRuntime "host" ["api", "web"] .ownedEphemeral
    , sampleRuntime "3b1e1493a4a22cee" [] .ownedEphemeral ]

theorem collision_unordered : ∃ currentValid desiredValid plan,
    IsValid plainRepr defaultGraphCodec beforeCollision currentValid ∧
      IsValid plainRepr defaultGraphCodec afterCollision desiredValid ∧
      planGraphs currentValid desiredValid = .ok plan ∧ plan.readyForExecution = true ∧
      ¬ (BracketsRuntimes beforeCollision afterCollision plan ∧
        StartsAfterProviders beforeCollision afterCollision plan) := by
  obtain ⟨currentValid, desiredValid, hcurrent, hdesired, h⟩ :=
    @exists_validated beforeCollision afterCollision
      (plansTo fun plan => plan.readyForExecution &&
        (plan.activities.any fun activity => activity.operation =
          .waitForHealthy apiTarget) &&
        plan.activities.any fun activity =>
          activity.operation = .startNode webTarget ∧ activity.predecessors = [])
      (by decide +kernel)
  obtain ⟨plan, hplan, h⟩ := exists_plan_of_plansTo h
  rw [Bool.and_eq_true, Bool.and_eq_true, List.any_eq_true, List.any_eq_true] at h
  obtain ⟨⟨hready, wait, hwait, hwaitOp⟩, start, hstart, hstartOp⟩ := h
  rw [decide_eq_true_eq] at hwaitOp hstartOp
  refine ⟨currentValid, desiredValid, plan, hcurrent, hdesired, hplan, hready,
    fun hall => ?_⟩
  have hafter : afterCollision.edges["link"]? = some linkEdge := by decide
  have hbefore : beforeCollision.edges["link"]? = none := by decide
  exact not_before_of_nil hstartOp.2
    (hall.2 "link" linkEdge apiTarget webTarget hafter hbefore rfl rfl rfl wait hwait
      hwaitOp start hstart hstartOp.1)

end ControlPlaneKit.Planning
