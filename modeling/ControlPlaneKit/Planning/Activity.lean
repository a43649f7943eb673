import ControlPlaneKit.Library.Ordering
import ControlPlaneKit.Library.Text
import ControlPlaneKit.Topology.Subject

/-!
# Activity — identities, operations and planned activities

Operations over typed targets, their compensation, and the planned activity
that carries one operation with its dependencies.  A constructor of the source
that rejects some values has its check as a field of the structure, so the
rejected values cannot be built.
-/

namespace ControlPlaneKit.Planning

open ControlPlaneKit.Library.Text (isBlank isCanonicalIdentity)
open ControlPlaneKit.Topology (DiffSubject)

/-! ## Identities and targets -/

/-- `ActivityId`: a text in the canonical identity grammar. -/
structure ActivityId where
  value : String
  canonical : isCanonicalIdentity value = true
  deriving DecidableEq

/-- Two identities with one text are one. -/
theorem ActivityId.ext_value {a b : ActivityId} (h : a.value = b.value) : a = b := by
  cases a; cases b; cases h; rfl

/-- What must have succeeded before. -/
structure ActivityDependency where
  predecessor : ActivityId
  deriving DecidableEq

/-- A node by its name, which is not blank. -/
structure NodeTarget where
  nodeId : String
  nonempty : isBlank nodeId = false
  deriving DecidableEq

/-- A runtime by its name. -/
structure RuntimeTarget where
  runtimeId : String
  nonempty : isBlank runtimeId = false
  deriving DecidableEq

/-- A data resource of a node, by both names. -/
structure DataResourceTarget where
  nodeId : String
  resourceId : String
  nonempty : isBlank nodeId = false ∧ isBlank resourceId = false
  deriving DecidableEq

/-- A connection by the name of its edge. -/
structure SocketConnectionTarget where
  edgeId : String
  nonempty : isBlank edgeId = false
  deriving DecidableEq

/-- A public ingress by its name. -/
structure PublicIngressActivityTarget where
  ingressId : String
  nonempty : isBlank ingressId = false
  deriving DecidableEq

/-- `ChangeTarget` only checks that its subject is typed. -/
structure ChangeTarget where
  subject : DiffSubject
  deriving DecidableEq

/-! ## Operations -/

/-- Why a change is left to a reviewer. -/
inductive ReviewReason where
  | unsupportedChange
  | ambiguousChange
  deriving DecidableEq

/-- What an activity does to its target. -/
inductive ActivityOperation where
  | startNode (target : NodeTarget)
  | stopNode (target : NodeTarget)
  | removeNodeResource (target : NodeTarget)
  | waitForHealthy (target : NodeTarget)
  | addSocketConnection (target : SocketConnectionTarget)
  | switchSocketConnection (target : SocketConnectionTarget)
  | removeSocketConnection (target : SocketConnectionTarget)
  | allocatePublicIngress (target : PublicIngressActivityTarget)
  | removePublicIngress (target : PublicIngressActivityTarget)
  | reconcileNode (target : NodeTarget)
  | reconcileRuntime (target : RuntimeTarget)
  | startRuntime (target : RuntimeTarget)
  | stopRuntime (target : RuntimeTarget)
  | removeRuntimeResource (target : RuntimeTarget)
  | destroyDataResource (target : DataResourceTarget)
  | reviewChange (target : ChangeTarget) (reason : ReviewReason)
  deriving DecidableEq

def ActivityOperation.isReviewChange : ActivityOperation → Bool
  | .reviewChange _ _ => true
  | _ => false

def ActivityOperation.isDestroyDataResource : ActivityOperation → Bool
  | .destroyDataResource _ => true
  | _ => false

/-- Which immutable plan-pinned graph defines compensation material. -/
inductive CompensationMaterialSource where
  | baseGraph
  | desiredGraph
  deriving DecidableEq

/-- Why an operation is not undone. -/
inductive NonCompensatableReason where
  | resourceRemoval
  | dataDestruction
  deriving DecidableEq

/-- How an operation is undone, or that it is not. -/
inductive CompensationSpec where
  | compensate (operation : ActivityOperation)
      (materialSource : CompensationMaterialSource)
  | noCompensationRequired
  | nonCompensatable (reason : NonCompensatableReason)
  deriving DecidableEq

/-- `isinstance(compensation, Compensate)`. -/
def CompensationSpec.isCompensate : CompensationSpec → Bool
  | .compensate _ _ => true
  | _ => false

/-- The deterministic recovery meaning of one forward operation. -/
def compensationForOperation : ActivityOperation → CompensationSpec
  | .startNode target => .compensate (.stopNode target) .desiredGraph
  | .stopNode target => .compensate (.startNode target) .baseGraph
  | .startRuntime target => .compensate (.stopRuntime target) .desiredGraph
  | .stopRuntime target => .compensate (.startRuntime target) .baseGraph
  | .addSocketConnection target =>
      .compensate (.removeSocketConnection target) .desiredGraph
  | .removeSocketConnection target =>
      .compensate (.addSocketConnection target) .baseGraph
  | .switchSocketConnection target =>
      .compensate (.switchSocketConnection target) .baseGraph
  | .allocatePublicIngress target =>
      .compensate (.removePublicIngress target) .desiredGraph
  | .removePublicIngress target =>
      .compensate (.allocatePublicIngress target) .baseGraph
  | .reconcileNode target => .compensate (.reconcileNode target) .baseGraph
  | .reconcileRuntime target => .compensate (.reconcileRuntime target) .baseGraph
  | .waitForHealthy _ => .noCompensationRequired
  | .reviewChange _ _ => .noCompensationRequired
  | .removeNodeResource _ => .nonCompensatable .resourceRemoval
  | .removeRuntimeResource _ => .nonCompensatable .resourceRemoval
  | .destroyDataResource _ => .nonCompensatable .dataDestruction

/-! ## Planned activities -/

/-- How risky an activity is. -/
inductive RiskLevel where
  | informational
  | low
  | medium
  | high
  | critical
  deriving DecidableEq

def riskRank : RiskLevel → Nat
  | .informational => 0
  | .low => 1
  | .medium => 2
  | .high => 3
  | .critical => 4

/-- Whether an activity disrupts or destroys. -/
inductive ActivityImpact where
  | nonDestructive
  | disruptive
  | destructive
  deriving DecidableEq

/-- `PlannedActivity`: its constructor sorts the dependencies by predecessor. -/
structure PlannedActivity where
  activityId : ActivityId
  operation : ActivityOperation
  dependencies : List ActivityDependency
  risk : RiskLevel
  impact : ActivityImpact
  ordered : dependencies.Pairwise fun a b => a.predecessor.value ≤ b.predecessor.value
  deriving DecidableEq

/-- `tuple(sorted(dependencies, key=...))`: by the predecessor's text. -/
def sortDependencies (dependencies : List ActivityDependency) :
    List ActivityDependency :=
  dependencies.insertionSort fun a b => a.predecessor.value ≤ b.predecessor.value

/-- The dependencies of an activity stand in the order of their texts. -/
theorem sortDependencies_ordered (dependencies : List ActivityDependency) :
    (sortDependencies dependencies).Pairwise
      fun a b => a.predecessor.value ≤ b.predecessor.value := by
  have htrans : IsTrans ActivityDependency
      fun a b => a.predecessor.value ≤ b.predecessor.value := ⟨fun _ _ _ => le_trans⟩
  have htotal : Std.Total fun a b : ActivityDependency =>
      a.predecessor.value ≤ b.predecessor.value := ⟨fun _ _ => le_total _ _⟩
  exact List.pairwise_insertionSort _ dependencies

/-- An activity as its constructor leaves it: its dependencies sorted, its compensation
that of its operation. -/
def PlannedActivity.make (activityId : ActivityId) (operation : ActivityOperation)
    (dependencies : List ActivityDependency) (risk : RiskLevel)
    (impact : ActivityImpact) : PlannedActivity where
  activityId := activityId
  operation := operation
  dependencies := sortDependencies dependencies
  risk := risk
  impact := impact
  ordered := sortDependencies_ordered dependencies

def PlannedActivity.compensation (activity : PlannedActivity) : CompensationSpec :=
  compensationForOperation activity.operation

def PlannedActivity.predecessors (activity : PlannedActivity) : List ActivityId :=
  activity.dependencies.map (·.predecessor)

/-- The constructor keeps the predecessors, in another order. -/
theorem PlannedActivity.make_predecessors_perm (activityId : ActivityId)
    (operation : ActivityOperation) (dependencies : List ActivityDependency)
    (risk : RiskLevel) (impact : ActivityImpact) :
    (make activityId operation dependencies risk impact).predecessors.Perm
      (dependencies.map (·.predecessor)) :=
  (List.perm_insertionSort _ dependencies).map _

/-- An activity waits for what it was made to wait for. -/
theorem PlannedActivity.mem_make_predecessors {activityId : ActivityId}
    {operation : ActivityOperation} {dependencies : List ActivityDependency}
    {risk : RiskLevel} {impact : ActivityImpact} {p : ActivityId} :
    p ∈ (make activityId operation dependencies risk impact).predecessors ↔
      ⟨p⟩ ∈ dependencies := by
  have hperm : (sortDependencies dependencies).Perm dependencies :=
    List.perm_insertionSort _ _
  simp only [predecessors, make, List.mem_map, hperm.mem_iff]
  constructor
  · rintro ⟨d, hd, rfl⟩
    exact hd
  · exact fun h => ⟨⟨p⟩, h, rfl⟩

end ControlPlaneKit.Planning
