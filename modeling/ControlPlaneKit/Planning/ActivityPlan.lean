import ControlPlaneKit.Library.LayeredOrder
import ControlPlaneKit.Planning.Activity

/-!
# ActivityPlan — composing planned activities

`_validate_composition` collects every violation of a tuple of activities,
`_has_cycle` searches its dependency graph, `_topological_order` stores it layer
by layer, and the plan constructor runs the three.  An `ActivityPlan` carries
that it came out of that constructor; the facts a scheduler needs of a plan
(distinct identities, known predecessors, predecessors first) are read off it.

The search of `_has_cycle` recurses along a chain of activities.  The interpreter's
recursion limit, which a long enough chain meets, is not modelled.
-/

namespace ControlPlaneKit.Planning

open ControlPlaneKit.Library
open ControlPlaneKit.Library.Ordering (sortedBy sortedBy_perm)

/-! ## Violations -/

inductive PlanViolationCode where
  | duplicateActivityId
  | missingDependency
  | selfDependency
  | duplicateDependency
  | dependencyCycle
  | destructiveRisk
  | dataDestructionSafety
  | reviewRisk
  deriving DecidableEq

def PlanViolationCode.value : PlanViolationCode → String
  | .duplicateActivityId => "duplicate-activity-id"
  | .missingDependency => "missing-dependency"
  | .selfDependency => "self-dependency"
  | .duplicateDependency => "duplicate-dependency"
  | .dependencyCycle => "dependency-cycle"
  | .destructiveRisk => "destructive-risk"
  | .dataDestructionSafety => "data-destruction-safety"
  | .reviewRisk => "review-risk"

structure PlanViolation where
  code : PlanViolationCode
  message : String
  activityId : Option ActivityId
  deriving DecidableEq

/-- `f"{activity_id.value!r}"`: a canonical identity has nothing to escape. -/
def ActivityId.repr (activityId : ActivityId) : String :=
  "'" ++ activityId.value ++ "'"

/-- The activities whose identity an earlier one already has. -/
def duplicateIds (seen : List ActivityId) : List PlannedActivity → List PlanViolation
  | [] => []
  | activity :: rest =>
      if activity.activityId ∈ seen then
        ⟨.duplicateActivityId,
          "duplicate activity id " ++ activity.activityId.repr,
          some activity.activityId⟩ :: duplicateIds seen rest
      else duplicateIds (activity.activityId :: seen) rest

/-- The violation, if any, of one dependency edge. -/
def dependencyViolation (known : List ActivityId) (activity : PlannedActivity)
    (dependency : ActivityDependency) : List PlanViolation :=
  if dependency.predecessor = activity.activityId then
    [⟨.selfDependency,
      "activity " ++ activity.activityId.repr ++ " depends on itself",
      some activity.activityId⟩]
  else if dependency.predecessor ∉ known then
    [⟨.missingDependency,
      "activity " ++ activity.activityId.repr ++ " depends on missing activity " ++
        dependency.predecessor.repr,
      some activity.activityId⟩]
  else []

def repeatedDependency (activity : PlannedActivity) : List PlanViolation :=
  if activity.predecessors.Nodup then []
  else
    [⟨.duplicateDependency,
      "activity " ++ activity.activityId.repr ++ " repeats a dependency edge",
      some activity.activityId⟩]

/-- The three risk rules: destructive impact, data destruction, review. -/
def riskViolations (activity : PlannedActivity) : List PlanViolation :=
  (if activity.impact = .destructive ∧ riskRank activity.risk < riskRank .high then
    [⟨.destructiveRisk,
      "destructive activity " ++ activity.activityId.repr ++
        " must be high or critical risk",
      some activity.activityId⟩]
  else []) ++
  (if activity.operation.isDestroyDataResource ∧
      (activity.risk ≠ .critical ∨ activity.impact ≠ .destructive) then
    [⟨.dataDestructionSafety,
      "data destruction activity " ++ activity.activityId.repr ++
        " must be critical risk and destructive",
      some activity.activityId⟩]
  else []) ++
  (if activity.operation.isReviewChange ∧ riskRank activity.risk < riskRank .high then
    [⟨.reviewRisk,
      "review activity " ++ activity.activityId.repr ++
        " must be high or critical risk",
      some activity.activityId⟩]
  else [])

def activityViolations (known : List ActivityId) (activity : PlannedActivity) :
    List PlanViolation :=
  repeatedDependency activity ++
    activity.dependencies.flatMap (dependencyViolation known activity) ++
    riskViolations activity

/-! ## The dependency graph of a tuple of activities -/

def activityIds (activities : List PlannedActivity) : List ActivityId :=
  activities.map (·.activityId)

/-- `by_id[activity_id].dependencies`, the first activity of an identity being
the one in the table. -/
def predecessorsOf (activities : List PlannedActivity) (activityId : ActivityId) :
    List ActivityId :=
  match activities.find?
      (fun activity => decide (activity.activityId = activityId)) with
  | some activity => activity.predecessors
  | none => []

/-- `_has_cycle(by_id)`, the roots in identity order. -/
def hasCycle (activities : List PlannedActivity) : Bool :=
  DependencyGraph.hasCycle (predecessorsOf activities)
    (sortedBy (fun activityId => [activityId.value]) (activityIds activities))

/-- The codes after which no cycle is searched for. -/
def PlanViolationCode.blocksCycleSearch : PlanViolationCode → Bool
  | .duplicateActivityId | .missingDependency | .selfDependency => true
  | _ => false

def structuralViolations (activities : List PlannedActivity) : List PlanViolation :=
  duplicateIds [] activities ++
    activities.flatMap (activityViolations (activityIds activities))

def cycleViolations (activities : List PlannedActivity) : List PlanViolation :=
  if (structuralViolations activities).all (fun violation =>
      !violation.code.blocksCycleSearch) ∧ hasCycle activities then
    [⟨.dependencyCycle, "activity dependencies contain a cycle", none⟩]
  else []

/-- `_validate_composition(activities)`. -/
def validateComposition (activities : List PlannedActivity) : List PlanViolation :=
  sortedBy (fun violation =>
      [violation.code.value,
        (violation.activityId.map (·.value)).getD "", violation.message])
    (structuralViolations activities ++ cycleViolations activities)

/-- `_topological_order(activities)`; `none` is the `RuntimeError` of a round
in which nothing is ready. -/
def topologicalOrder (activities : List PlannedActivity) :
    Option (List PlannedActivity) :=
  LayeredOrder.layered (·.activityId) (·.predecessors)
    (sortedBy fun activity => [activity.activityId.value])
    activities.length [] activities

/-- What building a plan can raise. -/
inductive PlanError where
  | invalidActivityPlan (violations : List PlanViolation)
  | noReadyActivity
  deriving DecidableEq

/-- The `str` of the exception. -/
def PlanError.message : PlanError → String
  | .invalidActivityPlan violations => "; ".intercalate (violations.map (·.message))
  | .noReadyActivity => "validated activity plan unexpectedly has no ready activity"

/-- `ActivityPlan.__post_init__`: the stored activities. -/
def composeActivities (activities : List PlannedActivity) :
    Except PlanError (List PlannedActivity) :=
  if validateComposition activities = [] then
    match topologicalOrder activities with
    | some ordered => .ok ordered
    | none => .error .noReadyActivity
  else .error (.invalidActivityPlan (validateComposition activities))

/-! ## What composing checks -/

/-- Everything `_validate_composition` asks for short of acyclicity. -/
structure Composable (activities : List PlannedActivity) : Prop where
  ids_nodup : (activityIds activities).Nodup
  known : ∀ activity ∈ activities, ∀ p ∈ activity.predecessors,
    p ∈ activityIds activities
  not_self : ∀ activity ∈ activities, activity.activityId ∉ activity.predecessors
  predecessors_nodup : ∀ activity ∈ activities, activity.predecessors.Nodup
  risk : ∀ activity ∈ activities, riskViolations activity = []

theorem duplicateIds_eq_nil_iff (seen : List ActivityId)
    (activities : List PlannedActivity) : duplicateIds seen activities = [] ↔
      (activityIds activities).Nodup ∧ ∀ id ∈ activityIds activities, id ∉ seen := by
  induction activities generalizing seen with
  | nil => simp [duplicateIds, activityIds]
  | cons activity rest ih =>
      rw [duplicateIds]
      split
      · rename_i hmem
        simp only [List.cons_ne_nil, activityIds, List.map_cons, false_iff, not_and]
        intro _ hall
        exact hall activity.activityId (by simp) hmem
      · rename_i hfresh
        rw [ih]
        simp only [activityIds, List.map_cons, List.nodup_cons, List.mem_cons, not_or,
          forall_eq_or_imp]
        constructor
        · rintro ⟨hnd, hall⟩
          exact ⟨⟨fun hmem => (hall _ hmem).1 rfl, hnd⟩, hfresh, fun id hid =>
            (hall id hid).2⟩
        · rintro ⟨⟨hnot, hnd⟩, -, hall⟩
          exact ⟨hnd, fun id hid => ⟨fun heq => hnot (heq ▸ hid), hall id hid⟩⟩

theorem dependencyViolation_eq_nil_iff {known : List ActivityId}
    {activity : PlannedActivity} {dependency : ActivityDependency} :
    dependencyViolation known activity dependency = [] ↔
      dependency.predecessor ≠ activity.activityId ∧
      dependency.predecessor ∈ known := by
  unfold dependencyViolation
  split
  · simp_all
  · split <;> simp_all

theorem structuralViolations_eq_nil_iff (activities : List PlannedActivity) :
    structuralViolations activities = [] ↔ Composable activities := by
  simp only [structuralViolations, List.append_eq_nil_iff, duplicateIds_eq_nil_iff,
    List.flatMap_eq_nil_iff, activityViolations, dependencyViolation_eq_nil_iff]
  constructor
  · rintro ⟨⟨hnd, -⟩, hall⟩
    refine ⟨hnd, fun a ha p hp => ?_, fun a ha hself => ?_, fun a ha => ?_,
      fun a ha => ?_⟩
    · obtain ⟨d, hd, rfl⟩ := List.mem_map.mp hp
      exact ((hall a ha).1.2 d hd).2
    · obtain ⟨d, hd, hda⟩ := List.mem_map.mp hself
      exact ((hall a ha).1.2 d hd).1 hda
    · by_contra hrep
      have := (hall a ha).1.1
      simp [repeatedDependency, hrep] at this
    · exact (hall a ha).2
  · rintro ⟨hnd, hknown, hself, hpreds, hrisk⟩
    refine ⟨⟨hnd, by simp⟩, fun a ha => ⟨⟨?_, fun d hd => ⟨?_, ?_⟩⟩, hrisk a ha⟩⟩
    · simp [repeatedDependency, hpreds a ha]
    · exact fun heq => hself a ha (List.mem_map.mpr ⟨d, hd, heq⟩)
    · exact hknown a ha _ (List.mem_map_of_mem hd)

/-- **What `_validate_composition` accepts**: a composable tuple with no cycle. -/
theorem validateComposition_eq_nil_iff (activities : List PlannedActivity) :
    validateComposition activities = [] ↔
      Composable activities ∧ hasCycle activities = false := by
  rw [validateComposition, Ordering.sortedBy_eq_nil, List.append_eq_nil_iff,
    structuralViolations_eq_nil_iff]
  constructor
  · rintro ⟨hcomp, hcycle⟩
    refine ⟨hcomp, ?_⟩
    have hnil := (structuralViolations_eq_nil_iff activities).mpr hcomp
    simpa [cycleViolations, hnil] using hcycle
  · rintro ⟨hcomp, hcycle⟩
    exact ⟨hcomp, by simp [cycleViolations, hcycle]⟩

/-- A composable tuple with a cycle has that one violation. -/
theorem validateComposition_of_cycle {activities : List PlannedActivity}
    (hcomp : Composable activities) (hcycle : hasCycle activities = true) :
    validateComposition activities =
      [⟨.dependencyCycle, "activity dependencies contain a cycle", none⟩] := by
  have hnil := (structuralViolations_eq_nil_iff activities).mpr hcomp
  simp [validateComposition, hnil, cycleViolations, hcycle, sortedBy]

theorem predecessorsOf_self {activities : List PlannedActivity}
    (hnd : (activityIds activities).Nodup) {activity : PlannedActivity}
    (hmem : activity ∈ activities) :
    predecessorsOf activities activity.activityId = activity.predecessors := by
  cases hfind : activities.find?
      (fun other => decide (other.activityId = activity.activityId)) with
  | none =>
      have := List.find?_eq_none.mp hfind activity hmem
      simp at this
  | some other =>
      have hid : other.activityId = activity.activityId := by
        simpa using List.find?_some hfind
      have := List.inj_on_of_nodup_map hnd (List.mem_of_find?_eq_some hfind) hmem hid
      simp [predecessorsOf, hfind, this]

theorem exists_of_mem_predecessorsOf {activities : List PlannedActivity}
    {p a : ActivityId} (h : p ∈ predecessorsOf activities a) :
    ∃ activity ∈ activities, activity.activityId = a ∧ p ∈ activity.predecessors := by
  unfold predecessorsOf at h
  split at h
  · rename_i activity hfind
    exact ⟨activity, List.mem_of_find?_eq_some hfind,
      by simpa using List.find?_some hfind, h⟩
  · simp at h

/-- **The ordering never runs dry** on what the validation let through: the
`RuntimeError` of `_topological_order` is unreachable. -/
theorem topologicalOrder_isSome {activities : List PlannedActivity}
    (hcomp : Composable activities) (hcycle : hasCycle activities = false) :
    ∃ ordered, topologicalOrder activities = some ordered := by
  have hclosed : ∀ a ∈ sortedBy (fun activityId => [activityId.value])
      (activityIds activities), ∀ p ∈ predecessorsOf activities a,
      p ∈ sortedBy (fun activityId => [activityId.value]) (activityIds activities) := by
    intro a _ p hp
    obtain ⟨activity, hmem, -, hpred⟩ := exists_of_mem_predecessorsOf hp
    simpa using hcomp.known activity hmem p hpred
  have hacc := DependencyGraph.acc_of_not_hasCycle hclosed hcycle
  refine LayeredOrder.layered_isSome (sortedBy_perm _) le_rfl hcomp.ids_nodup
    (fun a ha => predecessorsOf_self hcomp.ids_nodup ha)
    (fun a ha p hp => .inr (hcomp.known a ha p hp)) (fun a ha => hacc _ ?_)
  rw [Ordering.mem_sortedBy]
  exact List.mem_map_of_mem ha

theorem composeActivities_eq_ok {given ordered : List PlannedActivity} :
    composeActivities given = .ok ordered ↔
      Composable given ∧ hasCycle given = false ∧
      topologicalOrder given = some ordered := by
  unfold composeActivities
  split
  · rename_i hvalid
    obtain ⟨hcomp, hcycle⟩ := (validateComposition_eq_nil_iff given).mp hvalid
    cases horder : topologicalOrder given with
    | none => simp
    | some l => simp [hcomp, hcycle]
  · rename_i hinvalid
    rw [validateComposition_eq_nil_iff] at hinvalid
    simp only [reduceCtorEq, false_iff]
    exact fun h => hinvalid ⟨h.1, h.2.1⟩

/-- **Composable activities** give a plan, or exactly the cycle violation. -/
theorem composeActivities_of_composable {given : List PlannedActivity}
    (hcomp : Composable given) :
    (hasCycle given = false ∧ ∃ ordered, composeActivities given = .ok ordered) ∨
    (hasCycle given = true ∧ composeActivities given = .error (.invalidActivityPlan
      [⟨.dependencyCycle, "activity dependencies contain a cycle", none⟩])) := by
  cases hcycle : hasCycle given with
  | false =>
      obtain ⟨ordered, horder⟩ := topologicalOrder_isSome hcomp hcycle
      exact .inl ⟨rfl, ordered, composeActivities_eq_ok.mpr ⟨hcomp, hcycle, horder⟩⟩
  | true =>
      refine .inr ⟨rfl, ?_⟩
      simp [composeActivities, validateComposition_of_cycle hcomp hcycle]

/-! ## Plans -/

/-- **Activity plan**: activities as its constructor stores them. -/
structure ActivityPlan where
  activities : List PlannedActivity
  composed : ∃ given, composeActivities given = .ok activities

def ActivityPlan.make (given : List PlannedActivity) : Except PlanError ActivityPlan :=
  match h : composeActivities given with
  | .ok activities => .ok ⟨activities, given, h⟩
  | .error error => .error error

theorem composeActivities_perm {given ordered : List PlannedActivity}
    (h : composeActivities given = .ok ordered) : ordered.Perm given := by
  obtain ⟨hcomp, -, horder⟩ := composeActivities_eq_ok.mp h
  exact LayeredOrder.layered_perm (sortedBy_perm _) hcomp.ids_nodup horder

/-! ## The order of the given activities does not matter -/

section Permuted

variable {given given' : List PlannedActivity}

theorem Composable.perm (h : Composable given) (hperm : given.Perm given') :
    Composable given' where
  ids_nodup := (hperm.map _).nodup_iff.mp h.ids_nodup
  known activity ha p hp :=
    (hperm.map _).mem_iff.mp (h.known activity (hperm.mem_iff.mpr ha) p hp)
  not_self activity ha := h.not_self activity (hperm.mem_iff.mpr ha)
  predecessors_nodup activity ha := h.predecessors_nodup activity (hperm.mem_iff.mpr ha)
  risk activity ha := h.risk activity (hperm.mem_iff.mpr ha)

theorem predecessorsOf_eq_of_perm (hperm : given.Perm given')
    (hnd : (activityIds given).Nodup) :
    predecessorsOf given = predecessorsOf given' := by
  funext activityId
  have hnd' : (activityIds given').Nodup := (hperm.map _).nodup_iff.mp hnd
  by_cases hmem : activityId ∈ activityIds given
  · obtain ⟨activity, hactivity, rfl⟩ := List.mem_map.mp hmem
    rw [predecessorsOf_self hnd hactivity,
      predecessorsOf_self hnd' (hperm.mem_iff.mp hactivity)]
  · have hnone : ∀ l : List PlannedActivity, activityId ∉ activityIds l →
        predecessorsOf l activityId = [] := by
      intro l hl
      refine List.eq_nil_iff_forall_not_mem.mpr fun p hp => ?_
      obtain ⟨activity, hactivity, rfl, -⟩ := exists_of_mem_predecessorsOf hp
      exact hl (List.mem_map_of_mem hactivity)
    rw [hnone given hmem, hnone given' fun h => hmem ((hperm.map _).mem_iff.mpr h)]

theorem nodup_idKeys (hnd : (activityIds given).Nodup) :
    ((activityIds given).map fun activityId => [activityId.value]).Nodup :=
  hnd.map fun _ _ h => ActivityId.ext_value (List.cons.inj h).1

theorem hasCycle_eq_of_perm (hperm : given.Perm given')
    (hnd : (activityIds given).Nodup) : hasCycle given = hasCycle given' := by
  have hids : (activityIds given).Perm (activityIds given') := hperm.map _
  rw [hasCycle, hasCycle, predecessorsOf_eq_of_perm hperm hnd,
    Ordering.sortedBy_eq_of_perm hids (nodup_idKeys hnd)]

theorem topologicalOrder_eq_of_perm (hperm : given.Perm given')
    (hnd : (activityIds given).Nodup) :
    topologicalOrder given = topologicalOrder given' := by
  rw [topologicalOrder, topologicalOrder, hperm.length_eq]
  refine LayeredOrder.layered_eq_of_perm (fun l l' hl hkeys => ?_) hperm hnd
  refine Ordering.sortedBy_eq_of_perm hl ?_
  have := nodup_idKeys hkeys
  rwa [activityIds, List.map_map] at this

end Permuted

namespace ActivityPlan

variable (plan : ActivityPlan)

theorem ids_nodup : (activityIds plan.activities).Nodup := by
  obtain ⟨given, h⟩ := plan.composed
  obtain ⟨hcomp, -, -⟩ := composeActivities_eq_ok.mp h
  exact ((composeActivities_perm h).map _).nodup_iff.mpr hcomp.ids_nodup

/-- Every predecessor of a plan's activity is an activity of the plan. -/
theorem predecessor_mem {activity : PlannedActivity} (hmem : activity ∈ plan.activities)
    {p : ActivityId} (hp : p ∈ activity.predecessors) :
    p ∈ activityIds plan.activities := by
  obtain ⟨given, h⟩ := plan.composed
  obtain ⟨hcomp, -, -⟩ := composeActivities_eq_ok.mp h
  have hperm := composeActivities_perm h
  exact (hperm.map _).mem_iff.mpr (hcomp.known activity (hperm.mem_iff.mp hmem) p hp)

/-- **Plan order**: an activity's predecessors all stand before it. -/
theorem predecessor_before {pre post : List PlannedActivity}
    {activity : PlannedActivity} (hsplit : plan.activities = pre ++ activity :: post)
    {p : ActivityId} (hp : p ∈ activity.predecessors) : p ∈ activityIds pre := by
  obtain ⟨given, h⟩ := plan.composed
  obtain ⟨-, -, horder⟩ := composeActivities_eq_ok.mp h
  have htop := LayeredOrder.layered_topological (sortedBy_perm _) horder
  rcases htop pre activity post hsplit p hp with hnil | hpre
  · simp at hnil
  · exact hpre

/-- **A plan composes to itself**: the order it is stored in is canonical. -/
theorem composeActivities_self :
    composeActivities plan.activities = .ok plan.activities := by
  obtain ⟨given, h⟩ := plan.composed
  have hperm := composeActivities_perm h
  obtain ⟨hcomp, hcycle, horder⟩ := composeActivities_eq_ok.mp h
  refine composeActivities_eq_ok.mpr ⟨hcomp.perm hperm.symm, ?_, ?_⟩
  · rw [hasCycle_eq_of_perm hperm plan.ids_nodup]
    exact hcycle
  · rw [topologicalOrder_eq_of_perm hperm plan.ids_nodup]
    exact horder

theorem make_self : make plan.activities = .ok plan := by
  have h := plan.composeActivities_self
  unfold make
  split
  · rename_i activities heq
    rw [h] at heq
    cases plan
    cases heq
    rfl
  · rename_i error heq
    rw [h] at heq
    cases heq

end ActivityPlan

def ActivityPlan.readyForExecution (plan : ActivityPlan) : Bool :=
  !plan.activities.any (·.operation.isReviewChange)

end ControlPlaneKit.Planning
