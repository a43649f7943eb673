import ControlPlaneKit.Planning.PlanConditions

/-!
# PlanSafety — what a plan does to the resources of two graphs

Starts, stops and removals only touch owned members that one of the graphs
lacks.  A reconciliation touches a member of both graphs, and does not ask who
owns it.
-/

namespace ControlPlaneKit.Planning

open ControlPlaneKit.Library
open ControlPlaneKit.Topology

/-! ## Ownership -/

def NodeOwned (graph : DeploymentGraph) (nodeId : String) : Prop :=
  ∃ node, graph.nodes[nodeId]? = some node ∧ node.lifecycle.ownership = .owned

def RuntimeOwned (graph : DeploymentGraph) (runtimeId : String) : Prop :=
  ∃ runtime, graph.runtimes[runtimeId]? = some runtime ∧
    runtime.lifecycle.ownership = .owned

/-- The target of an operation on a resource is owned: in the desired graph for a
start, in the current one for a stop, a removal or a reconciliation. -/
def TargetOwned (current desired : DeploymentGraph) : ActivityOperation → Prop
  | .startNode target => NodeOwned desired target.nodeId
  | .stopNode target | .removeNodeResource target | .reconcileNode target =>
      NodeOwned current target.nodeId
  | .startRuntime target => RuntimeOwned desired target.runtimeId
  | .stopRuntime target | .removeRuntimeResource target | .reconcileRuntime target =>
      RuntimeOwned current target.runtimeId
  | _ => True

/-- **Lifecycle work on owned resources only.** -/
def MutatesOnlyOwned (current desired : DeploymentGraph) (plan : ActivityPlan) : Prop :=
  ∀ activity ∈ plan.activities, TargetOwned current desired activity.operation

/-- What the two graphs disagree on, and is reconciled, is owned. -/
def ReconcilesOnlyOwned (current desired : DeploymentGraph) : Prop :=
  (∀ nodeId, NodeReconciled current desired nodeId → NodeOwned current nodeId) ∧
    ∀ runtimeId, RuntimeReconciled current desired runtimeId →
    RuntimeOwned current runtimeId

section Safety

variable {codec : GraphDescriptorCodec} {current desired : DeploymentGraph}

/-- Whatever is not a reconciliation asks who owns its target. -/
theorem Drafted.targetOwned {operation : ActivityOperation}
    (h : Drafted codec current desired operation)
    (hreconciles : ReconcilesOnlyOwned current desired) :
    TargetOwned current desired operation := by
  cases h with
  | startRuntime hafter _ howned => exact ⟨_, hafter, howned⟩
  | stopRuntime hbefore _ howned => exact ⟨_, hbefore, howned⟩
  | removeRuntime hbefore _ howned => exact ⟨_, hbefore, howned⟩
  | reconcileRuntime hreconciled => exact hreconciles.2 _ hreconciled
  | startNode hafter _ howned => exact ⟨_, hafter, howned⟩
  | stopNode hbefore _ howned => exact ⟨_, hbefore, howned⟩
  | removeNode hbefore _ howned => exact ⟨_, hbefore, howned⟩
  | reconcileNode hreconciled => exact hreconciles.1 _ hreconciled
  | _ => trivial

variable {repr : String → String} {currentValid desiredValid : ValidatedGraph}
  {plan : ActivityPlan} (hcurrent : IsValid repr codec current currentValid)
  (hdesired : IsValid repr codec desired desiredValid)
  (hplan : planGraphs currentValid desiredValid = .ok plan)

include hcurrent hdesired hplan

/-- **Who receives lifecycle work**: a plan leaves what is not owned alone exactly
when the graphs agree on every reconciled field of what is not owned. -/
theorem mutatesOnlyOwned_iff :
    MutatesOnlyOwned current desired plan ↔ ReconcilesOnlyOwned current desired := by
  obtain ⟨diff, c, ls, hdiff, hplanned⟩ := planned_of_plan hcurrent hdesired hplan
  obtain ⟨hdiff', c', ls', hcomposes⟩ := composes_of_rejects (.inl ⟨plan, hplan⟩)
  have hnamed := ((composes_iff hcurrent hdesired).mp ⟨_, _, _, hcomposes⟩).named
  constructor
  · intro h
    constructor
    · intro nodeId hreconciled
      have hdrafted : Drafted codec current desired
          (.reconcileNode ⟨nodeId, hnamed.nodeReconciled nodeId hreconciled⟩) :=
        .reconcileNode hreconciled
      obtain ⟨activity, hactivity, hop⟩ := hplanned.exists_activity.mpr hdrafted
      have := h activity hactivity
      rwa [hop] at this
    · intro runtimeId hreconciled
      have hdrafted : Drafted codec current desired
          (.reconcileRuntime
            ⟨runtimeId, hnamed.runtimeReconciled runtimeId hreconciled⟩) :=
        .reconcileRuntime hreconciled
      obtain ⟨activity, hactivity, hop⟩ := hplanned.exists_activity.mpr hdrafted
      have := h activity hactivity
      rwa [hop] at this
  · intro h activity hactivity
    exact (hplanned.exists_activity.mp ⟨activity, hactivity, rfl⟩).targetOwned h

end Safety

/-! ## Removals -/

/-- A node that ordinary removal stops: owned, and no longer desired. -/
def NodeLeaves (current desired : DeploymentGraph) (nodeId : String)
    (compute : ResourcePersistence → Prop) : Prop :=
  ∃ node, current.nodes[nodeId]? = some node ∧ node.lifecycle.ownership = .owned ∧
    desired.nodes[nodeId]? = none ∧ compute node.lifecycle.compute

def RuntimeLeaves (current desired : DeploymentGraph) (runtimeId : String)
    (compute : ResourcePersistence → Prop) : Prop :=
  ∃ runtime, current.runtimes[runtimeId]? = some runtime ∧
    runtime.lifecycle.ownership = .owned ∧ desired.runtimes[runtimeId]? = none ∧
    compute runtime.lifecycle.compute

/-- The only activity of an operation, with the only one of another among its
predecessors. -/
def OnlyAfter (plan : ActivityPlan) (first second : ActivityOperation) : Prop :=
  ∃! activity, activity ∈ plan.activities ∧ activity.operation = second ∧
    ∃ stop ∈ plan.activities, stop.operation = first ∧
    stop.activityId ∈ activity.predecessors

/-- **Removal safety** of a plan. -/
structure RemovesSafely (current desired : DeploymentGraph)
    (plan : ActivityPlan) : Prop where
  stopNode : ∀ activity ∈ plan.activities, ∀ target,
    activity.operation = .stopNode target →
    NodeLeaves current desired target.nodeId fun _ => True
  stopRuntime : ∀ activity ∈ plan.activities, ∀ target,
    activity.operation = .stopRuntime target →
    RuntimeLeaves current desired target.runtimeId fun _ => True
  removeNode : ∀ activity ∈ plan.activities, ∀ target,
    activity.operation = .removeNodeResource target →
    NodeLeaves current desired target.nodeId (· = .ephemeral) ∧
      OnlyAfter plan (.stopNode target) (.removeNodeResource target)
  removeRuntime : ∀ activity ∈ plan.activities, ∀ target,
    activity.operation = .removeRuntimeResource target →
    RuntimeLeaves current desired target.runtimeId (· = .ephemeral) ∧
      OnlyAfter plan (.stopRuntime target) (.removeRuntimeResource target)
  nodeRemoved : ∀ target : NodeTarget,
    NodeLeaves current desired target.nodeId (· = .ephemeral) →
    OnlyAfter plan (.stopNode target) (.removeNodeResource target)
  runtimeRemoved : ∀ target : RuntimeTarget,
    RuntimeLeaves current desired target.runtimeId (· = .ephemeral) →
    OnlyAfter plan (.stopRuntime target) (.removeRuntimeResource target)
  startNode : ∀ activity ∈ plan.activities, ∀ target,
    activity.operation = .startNode target →
    current.nodes[target.nodeId]? = none
  startRuntime : ∀ activity ∈ plan.activities, ∀ target,
    activity.operation = .startRuntime target →
    current.runtimes[target.runtimeId]? = none
  keepsData : ∀ activity ∈ plan.activities,
    activity.operation.isDestroyDataResource = false
  unique : (plan.activities.map fun activity =>
    (labelOf activity.operation, operationSubject activity.operation)).Nodup

section Removals

variable {codec : GraphDescriptorCodec} {current desired : DeploymentGraph}
  {changes : List StructuralChange} {plan : ActivityPlan} {c : Compilation}
  {ls : List Compilation.Link}

/-- What is not retained is ephemeral. -/
theorem ephemeral_of_ne_retained {compute : ResourcePersistence}
    (h : compute ≠ .retained) : compute = .ephemeral := by
  cases compute with
  | ephemeral => rfl
  | retained => exact absurd rfl h

namespace Planned

/-- No two activities of the plan do the same to the same member. -/
theorem labels_nodup (h : Planned codec current desired changes plan c ls) :
    (plan.activities.map fun activity =>
      (labelOf activity.operation, operationSubject activity.operation)).Nodup := by
  refine List.Nodup.map_on ?_ (List.Nodup.of_map _ h.operations_nodup)
  intro a ha b hb heq
  rw [Prod.mk.injEq] at heq
  refine List.inj_on_of_nodup_map h.operations_nodup ha hb ?_
  obtain ⟨ref, draft, hdraft, rfl⟩ := h.mem_activities.mp ha
  obtain ⟨ref', draft', hdraft', rfl⟩ := h.mem_activities.mp hb
  obtain ⟨source, _, hs, -, hgroup, hin⟩ := h.compiled.source_of_holds hdraft
  obtain ⟨source', _, hs', -, hgroup', hin'⟩ := h.compiled.source_of_holds hdraft'
  refine operation_eq_of_label (hgroup.label_eq draft hin)
    ((show labelOf draft'.operation = labelOf draft.operation from heq.1.symm).trans
      (hgroup.label_eq draft hin)) heq.2 ?_
  -- Two reviews of one subject are of one change, which has one reason.
  intro target reason target' reason' hop hop'
  have hreview := h.drafted ha
  have hreview' := h.drafted hb
  have hsubjects := heq.2
  rw [show (draft.finish _).operation = _ from hop] at hreview hsubjects
  rw [show (draft'.finish _).operation = _ from hop'] at hreview' hsubjects
  cases hreview with
  | review hchange _ hreason =>
      cases hreview' with
      | review hchange' _ hreason' =>
          have hsame := List.inj_on_of_nodup_map h.compiled.subjects
            ((h.compiled.mem _).mpr hchange) ((h.compiled.mem _).mpr hchange') hsubjects
          rw [hsame, hreason'] at hreason
          exact (Option.some.inj hreason).symm

/-- A removal is the only one of its member, and comes after the stop. -/
theorem onlyAfter (h : Planned codec current desired changes plan c ls)
    {first second : ActivityOperation} (hfollows : Follows first second)
    (hfirst : Drafted codec current desired first) {activity : PlannedActivity}
    (hactivity : activity ∈ plan.activities) (hop : activity.operation = second) :
    OnlyAfter plan first second := by
  obtain ⟨stop, hstop, hstopOp⟩ := h.exists_activity.mpr hfirst
  refine ⟨activity, ⟨hactivity, hop, stop, hstop, hstopOp, ?_⟩, ?_⟩
  · refine h.mem_predecessors hstop hactivity (.inl ?_)
    rw [hstopOp, hop]
    exact hfollows
  · rintro other ⟨hother, hotherOp, -⟩
    exact List.inj_on_of_nodup_map h.operations_nodup hother hactivity
      (hotherOp.trans hop.symm)

end Planned

variable {repr : String → String} {currentValid desiredValid : ValidatedGraph}

/-- **Removal safety**: every plan of two valid graphs removes safely. -/
theorem removesSafely (hcurrent : IsValid repr codec current currentValid)
    (hdesired : IsValid repr codec desired desiredValid)
    (hplan : planGraphs currentValid desiredValid = .ok plan) :
    RemovesSafely current desired plan := by
  obtain ⟨diff, c, ls, hdiff, h⟩ := planned_of_plan hcurrent hdesired hplan
  refine ⟨?_, ?_, ?_, ?_, ?_, ?_, ?_, ?_, ?_, h.labels_nodup⟩
  · intro activity hactivity target hop
    have hdrafted := h.drafted hactivity
    rw [hop] at hdrafted
    cases hdrafted with
    | stopNode hbefore hafter howned => exact ⟨_, hbefore, howned, hafter, trivial⟩
  · intro activity hactivity target hop
    have hdrafted := h.drafted hactivity
    rw [hop] at hdrafted
    cases hdrafted with
    | stopRuntime hbefore hafter howned => exact ⟨_, hbefore, howned, hafter, trivial⟩
  · intro activity hactivity target hop
    have hdrafted := h.drafted hactivity
    rw [hop] at hdrafted
    cases hdrafted with
    | removeNode hbefore hafter howned hcompute =>
        exact ⟨⟨_, hbefore, howned, hafter, ephemeral_of_ne_retained hcompute⟩,
          h.onlyAfter (.nodeStopped target)
            (.stopNode hbefore hafter howned) hactivity hop⟩
  · intro activity hactivity target hop
    have hdrafted := h.drafted hactivity
    rw [hop] at hdrafted
    cases hdrafted with
    | removeRuntime hbefore hafter howned hcompute =>
        exact ⟨⟨_, hbefore, howned, hafter, ephemeral_of_ne_retained hcompute⟩,
          h.onlyAfter (.runtimeStopped target)
            (.stopRuntime hbefore hafter howned) hactivity hop⟩
  · rintro target ⟨node, hbefore, howned, hafter, hcompute⟩
    obtain ⟨activity, hactivity, hop⟩ := h.exists_activity.mpr
      (@Drafted.removeNode codec _ _ _ _ hbefore hafter howned (by simp [hcompute]))
    exact h.onlyAfter (.nodeStopped target)
      (.stopNode hbefore hafter howned) hactivity hop
  · rintro target ⟨runtime, hbefore, howned, hafter, hcompute⟩
    obtain ⟨activity, hactivity, hop⟩ := h.exists_activity.mpr
      (@Drafted.removeRuntime codec _ _ _ _ hbefore hafter howned (by simp [hcompute]))
    exact h.onlyAfter (.runtimeStopped target)
      (.stopRuntime hbefore hafter howned) hactivity hop
  · intro activity hactivity target hop
    have hdrafted := h.drafted hactivity
    rw [hop] at hdrafted
    cases hdrafted with
    | startNode hafter hbefore howned => exact hbefore
  · intro activity hactivity target hop
    have hdrafted := h.drafted hactivity
    rw [hop] at hdrafted
    cases hdrafted with
    | startRuntime hafter hbefore howned => exact hbefore
  · intro activity hactivity
    have hdrafted := h.drafted hactivity
    cases hop : activity.operation with
    | destroyDataResource target =>
        rw [hop] at hdrafted
        cases hdrafted
    | _ => rfl

end Removals

/-! ### An external node whose metadata changes -/

def guestTarget : NodeTarget := ⟨"guest", by decide⟩

/-- An owned runtime with one node on it. -/
def guestGraph (guest : Node) : DeploymentGraph :=
  sampleGraph [guest] [] [sampleRuntime "host" ["guest"] .ownedEphemeral]

/-- A node whose metadata says which tier it serves. -/
def guestOfTier (lifecycle : ResourceLifecycle) (tier : String) : Node :=
  { sampleNode "guest" "host" lifecycle with
    metadata := [("tier", .str tier)]
    metadataKeyed := rfl
    metadataEnvironmentFree := by simp }

/-- A change of its metadata has an external node reconciled. -/
theorem externalGuest_reconciled : ∃ currentValid desiredValid plan,
    IsValid plainRepr defaultGraphCodec (guestGraph (guestOfTier .external "gold"))
        currentValid ∧
      IsValid plainRepr defaultGraphCodec (guestGraph (guestOfTier .external "silver"))
        desiredValid ∧
      planGraphs currentValid desiredValid = .ok plan ∧
      (∃ activity ∈ plan.activities, activity.operation = .reconcileNode guestTarget) ∧
      ¬ MutatesOnlyOwned (guestGraph (guestOfTier .external "gold"))
        (guestGraph (guestOfTier .external "silver")) plan := by
  obtain ⟨currentValid, desiredValid, hcurrent, hdesired, h⟩ :=
    @exists_validated (guestGraph (guestOfTier .external "gold"))
      (guestGraph (guestOfTier .external "silver"))
      (plansTo fun plan => plan.activities.any fun activity =>
        activity.operation = .reconcileNode guestTarget)
      (by decide +kernel)
  obtain ⟨plan, hplan, h⟩ := exists_plan_of_plansTo h
  obtain ⟨activity, hactivity, hop⟩ := List.any_eq_true.mp h
  have hop : activity.operation = .reconcileNode guestTarget := by simpa using hop
  refine ⟨currentValid, desiredValid, plan, hcurrent, hdesired, hplan,
    ⟨activity, hactivity, hop⟩, fun howned => ?_⟩
  have hguest := howned activity hactivity
  rw [hop] at hguest
  obtain ⟨node, hnode, hnodeOwned⟩ := hguest
  have hexternal : ((guestGraph (guestOfTier .external "gold")).nodes["guest"]?).map
      (·.lifecycle.ownership) = some .external := by decide
  rw [show (guestGraph (guestOfTier .external "gold")).nodes["guest"]? = some node
    from hnode, Option.map_some, hnodeOwned] at hexternal
  cases hexternal

/-- The same change of an owned node is reconciled like any other. -/
theorem ownedGuest_reconciled : ∃ currentValid desiredValid plan,
    IsValid plainRepr defaultGraphCodec
      (guestGraph (guestOfTier .ownedEphemeral "gold"))
        currentValid ∧
      IsValid plainRepr defaultGraphCodec
        (guestGraph (guestOfTier .ownedEphemeral "silver"))
        desiredValid ∧
      planGraphs currentValid desiredValid = .ok plan ∧
      ReconcilesOnlyOwned (guestGraph (guestOfTier .ownedEphemeral "gold"))
        (guestGraph (guestOfTier .ownedEphemeral "silver")) := by
  obtain ⟨currentValid, desiredValid, hcurrent, hdesired, h⟩ :=
    @exists_validated (guestGraph (guestOfTier .ownedEphemeral "gold"))
      (guestGraph (guestOfTier .ownedEphemeral "silver"))
      (plansTo fun plan => plan.activities.all fun activity =>
        activity.operation = .reconcileNode guestTarget ∨
          activity.operation = .waitForHealthy guestTarget)
      (by decide +kernel)
  obtain ⟨plan, hplan, h⟩ := exists_plan_of_plansTo h
  refine ⟨currentValid, desiredValid, plan, hcurrent, hdesired, hplan,
    (mutatesOnlyOwned_iff hcurrent hdesired hplan).mp fun activity hactivity => ?_⟩
  have hop := List.all_eq_true.mp h activity hactivity
  have howned : ((guestGraph (guestOfTier .ownedEphemeral "gold")).nodes["guest"]?).map
      (·.lifecycle.ownership) = some .owned := by decide
  obtain ⟨node, hnode, hnodeOwned⟩ := Option.map_eq_some_iff.mp howned
  rw [decide_eq_true_eq] at hop
  rcases hop with hop | hop
  · rw [hop]
    exact ⟨node, hnode, hnodeOwned⟩
  · rw [hop]
    trivial

/-! ### A runtime that is taken down with its node -/

theorem ownedGuest_removed : ∃ currentValid desiredValid plan,
    IsValid plainRepr defaultGraphCodec
      (guestGraph (guestOfTier .ownedEphemeral "gold"))
        currentValid ∧
      IsValid plainRepr defaultGraphCodec (sampleGraph [] [] []) desiredValid ∧
      planGraphs currentValid desiredValid = .ok plan ∧
      (∃ activity ∈ plan.activities,
        activity.operation = .removeNodeResource guestTarget) ∧
      RemovesSafely (guestGraph (guestOfTier .ownedEphemeral "gold"))
        (sampleGraph [] [] [])
        plan := by
  obtain ⟨currentValid, desiredValid, hcurrent, hdesired, h⟩ :=
    @exists_validated (guestGraph (guestOfTier .ownedEphemeral "gold"))
      (sampleGraph [] [] [])
      (plansTo fun plan => plan.activities.any fun activity =>
        activity.operation = .removeNodeResource guestTarget)
      (by decide +kernel)
  obtain ⟨plan, hplan, h⟩ := exists_plan_of_plansTo h
  obtain ⟨activity, hactivity, hop⟩ := List.any_eq_true.mp h
  exact ⟨currentValid, desiredValid, plan, hcurrent, hdesired, hplan,
    ⟨activity, hactivity, by simpa using hop⟩, removesSafely hcurrent hdesired hplan⟩

end ControlPlaneKit.Planning
