import ControlPlaneKit.Planning.Blocking
import ControlPlaneKit.Planning.Composition
import ControlPlaneKit.Planning.ScheduleLaws
import Mathlib.Order.FixedPoints
import Mathlib.Order.CompletePartialOrder

/-!
# LeastBlocking — the blocking loop as a least fixpoint

Which activities are structurally blocked is the least set closed under three rules.
The loop computes it by visiting activities in plan order until a round adds nothing,
and records a reason at the visit.  Because the plan stores predecessors first, every
predecessor has been decided by then, so the recorded reasons name all of them.
-/

namespace ControlPlaneKit.Planning

open ControlPlaneKit.Library.Fixpoint

/-! ## The rules -/

section Rules

variable (statusOf : ActivityId → SagaStepStatus) (activities : List PlannedActivity)

/-- What the activities in `blocked` let one conclude to be blocked. -/
def BlocksNext (blocked : Set ActivityId) (activityId : ActivityId) : Prop :=
  ∃ activity ∈ activities, activity.activityId = activityId ∧
    statusOf activityId = .pending ∧
    (activity.operation.isReviewChange = true ∨
      ∃ p ∈ activity.predecessors, (statusOf p).failsSuccessors = true ∨ p ∈ blocked)

/-- The rules as a monotone operator. -/
def blockingRules : Set ActivityId →o Set ActivityId where
  toFun blocked := {activityId | BlocksNext statusOf activities blocked activityId}
  monotone' := by
    rintro blocked blocked' hle activityId ⟨activity, hmem, hid, hpending, hwhy⟩
    exact ⟨activity, hmem, hid, hpending,
      hwhy.imp_right fun ⟨p, hp, hreason⟩ => ⟨p, hp, hreason.imp_right (@hle p)⟩⟩

/-- The structurally blocked activities. -/
def leastBlocked : Set ActivityId := (blockingRules statusOf activities).lfp

/-- A dependency path from an activity down to `target`, pending in between. -/
inductive PendingPath : ActivityId → ActivityId → Prop where
  | edge {activityId target : ActivityId} :
      NamesPredecessor activities target activityId → PendingPath activityId target
  | through {activityId next target : ActivityId} :
      NamesPredecessor activities next activityId → statusOf next = .pending →
      PendingPath next target → PendingPath activityId target

/-- A pending activity of the plan that asks for review. -/
def IsPendingReview (activityId : ActivityId) : Prop :=
  ∃ activity ∈ activities, activity.activityId = activityId ∧
    statusOf activityId = .pending ∧
    activity.operation.isReviewChange = true

/-- What blocks every pending activity above it. -/
def Blocks (target : ActivityId) : Prop :=
  (statusOf target).failsSuccessors = true ∨ IsPendingReview statusOf activities target

end Rules

section Loop

variable {statusOf : ActivityId → SagaStepStatus} {activities : List PlannedActivity}

theorem mem_leastBlocked {activityId : ActivityId} :
    activityId ∈ leastBlocked statusOf activities ↔
      BlocksNext statusOf activities (leastBlocked statusOf activities) activityId := by
  have hfix : blockingRules statusOf activities (leastBlocked statusOf activities) =
      leastBlocked statusOf activities := OrderHom.map_lfp _
  exact (Set.ext_iff.mp hfix activityId).symm

/-- Whatever is closed under the rules holds of every blocked activity. -/
theorem leastBlocked_subset {closed : Set ActivityId}
    (hclosed : ∀ activityId, BlocksNext statusOf activities closed activityId →
      activityId ∈ closed) : leastBlocked statusOf activities ⊆ closed :=
  OrderHom.lfp_le _ hclosed

/-- **Blocked by a path**: the least fixpoint, read along the dependencies. -/
theorem mem_leastBlocked_iff {activityId : ActivityId} :
    activityId ∈ leastBlocked statusOf activities ↔
      activityId ∈ activityIds activities ∧ statusOf activityId = .pending ∧
        (IsPendingReview statusOf activities activityId ∨
          ∃ target, PendingPath statusOf activities activityId target ∧
            Blocks statusOf activities target) := by
  constructor
  · intro hblocked
    refine (leastBlocked_subset ?_ : _ ⊆
      {activityId | activityId ∈ activityIds activities ∧
      statusOf activityId = .pending ∧ (IsPendingReview statusOf activities activityId ∨
        ∃ target, PendingPath statusOf activities activityId target ∧
          Blocks statusOf activities target)}) hblocked
    rintro activityId ⟨activity, hmem, rfl, hpending, hreview |
      ⟨p, hp, hfails | hclosed⟩⟩
    · exact ⟨List.mem_map_of_mem hmem, hpending,
        .inl ⟨activity, hmem, rfl, hpending, hreview⟩⟩
    · exact ⟨List.mem_map_of_mem hmem, hpending,
        .inr ⟨p, .edge ⟨activity, hmem, rfl, hp⟩, .inl hfails⟩⟩
    · refine ⟨List.mem_map_of_mem hmem, hpending, .inr ?_⟩
      obtain ⟨-, hpendingp, hreview | ⟨target, hpath, htarget⟩⟩ := hclosed
      · exact ⟨p, .edge ⟨activity, hmem, rfl, hp⟩, .inr hreview⟩
      · exact ⟨target, .through ⟨activity, hmem, rfl, hp⟩ hpendingp hpath, htarget⟩
  · rintro ⟨hid, hpending, ⟨activity, hmem, rfl, -, hreview⟩ | ⟨target, hpath, htarget⟩⟩
    · exact mem_leastBlocked.mpr ⟨activity, hmem, rfl, hpending, .inl hreview⟩
    · clear hid
      have hedge : ∀ {activityId next : ActivityId},
          NamesPredecessor activities next activityId → statusOf activityId = .pending →
          ((statusOf next).failsSuccessors = true ∨
            next ∈ leastBlocked statusOf activities) →
          activityId ∈ leastBlocked statusOf activities := by
        rintro activityId next ⟨activity, hmem, rfl, hp⟩ hpending hreason
        exact mem_leastBlocked.mpr
          ⟨activity, hmem, rfl, hpending, .inr ⟨next, hp, hreason⟩⟩
      induction hpath with
      | edge hnames =>
          refine hedge hnames hpending (htarget.imp_right ?_)
          rintro ⟨activity, hmem, rfl, hpendingp, hreview⟩
          exact mem_leastBlocked.mpr ⟨activity, hmem, rfl, hpendingp, .inl hreview⟩
      | through hnames hpendingp _ ih =>
          exact hedge hnames hpending (.inr (ih hpendingp htarget))

/-! ## The table against the rules -/

/-- Every entry is blocked by the rules, and its recorded predecessors are all there
are. -/
structure TableExact (statusOf : ActivityId → SagaStepStatus)
    (activities : List PlannedActivity) (blocked : List BlockedActivity) : Prop where
  least : ∀ value ∈ blocked, value.activity.activityId ∈
    leastBlocked statusOf activities
  failed : ∀ value ∈ blocked, value.reason = .failedPredecessor →
    value.predecessors = failedPredecessors statusOf value.activity
  behind : ∀ value ∈ blocked, value.reason = .blockedPredecessor → ∀ p,
    p ∈ value.predecessors ↔
      p ∈ value.activity.predecessors ∧ p ∈ leastBlocked statusOf activities

/-- Of these activities the table already has all that are blocked. -/
def Decided (statusOf : ActivityId → SagaStepStatus)
    (activities visited : List PlannedActivity)
    (blocked : List BlockedActivity) : Prop :=
  ∀ activityId ∈ activityIds visited, activityId ∈ leastBlocked statusOf activities →
    isBlocked blocked activityId = true

theorem TableExact.least_of_isBlocked {blocked : List BlockedActivity}
    (h : TableExact statusOf activities blocked) {activityId : ActivityId}
    (hblocked : isBlocked blocked activityId = true) :
    activityId ∈ leastBlocked statusOf activities := by
  obtain ⟨value, hvalue, rfl⟩ := isBlocked_iff.mp hblocked
  exact h.least value hvalue

theorem tableExact_reviewBlocked : TableExact statusOf activities
    (reviewBlocked statusOf activities) := by
  have hreview : ∀ value ∈ reviewBlocked statusOf activities,
      value.reason = .reviewRequired ∧
        value.activity.activityId ∈ leastBlocked statusOf activities := by
    intro value hvalue
    obtain ⟨activity, hmem, rfl⟩ := List.mem_map.mp hvalue
    obtain ⟨hplan, hkept⟩ := List.mem_filter.mp hmem
    simp only [decide_eq_true_eq] at hkept
    exact ⟨rfl, mem_leastBlocked.mpr ⟨activity, hplan, rfl, hkept.1, .inl hkept.2⟩⟩
  refine ⟨fun value hvalue => (hreview value hvalue).2, fun value hvalue hreason => ?_,
    fun value hvalue hreason => ?_⟩
  all_goals
    rw [(hreview value hvalue).1] at hreason
    cases hreason

/-- Visiting keeps what is in the table. -/
theorem isBlocked_blockStep {found : Bool × List BlockedActivity}
    {activity : PlannedActivity} {activityId : ActivityId}
    (h : isBlocked found.2 activityId = true) :
    isBlocked (blockStep statusOf found activity).2 activityId = true := by
  unfold blockStep
  split
  · rw [isBlocked_append, h, Bool.true_or]
  · exact h

/-- The reason an entry is added with, and the predecessors that go with it. -/
theorem newlyBlocked_reason {blocked : List BlockedActivity}
    {activity : PlannedActivity} {value : BlockedActivity}
    (h : newlyBlocked statusOf blocked activity = some value) :
    (value.reason = .failedPredecessor ∧
      value.predecessors = failedPredecessors statusOf activity) ∨
    (value.reason = .blockedPredecessor ∧
      value.predecessors = blockedPredecessors blocked activity) := by
  unfold newlyBlocked at h
  split at h
  · cases h
  · split at h
    · cases h
      exact .inl ⟨rfl, rfl⟩
    · split at h
      · cases h
        exact .inr ⟨rfl, rfl⟩
      · cases h

/-- **One visit**, once the predecessors are decided: the table stays exact, and the
activity is decided too. -/
theorem blockStep_exact {found : Bool × List BlockedActivity}
    {activity : PlannedActivity} (hmem : activity ∈ activities)
    (hexact : TableExact statusOf activities found.2)
    (hdecided : ∀ p ∈ activity.predecessors, p ∈ leastBlocked statusOf activities →
      isBlocked found.2 p = true)
    (hreview : Decided statusOf activities
      (activities.filter (·.operation.isReviewChange)) found.2)
    (hunique : (activityIds activities).Nodup) :
    TableExact statusOf activities (blockStep statusOf found activity).2 ∧
      (activity.activityId ∈ leastBlocked statusOf activities →
        isBlocked (blockStep statusOf found activity).2 activity.activityId =
          true) := by
  cases hnew : newlyBlocked statusOf found.2 activity with
  | none =>
      have hstep : blockStep statusOf found activity = found := by
        simp [blockStep, hnew]
      rw [hstep]
      refine ⟨hexact, fun hleast => ?_⟩
      by_contra hfresh
      rw [Bool.not_eq_true] at hfresh
      obtain ⟨other, hother, hid, hpending, hwhy⟩ := mem_leastBlocked.mp hleast
      obtain rfl : other = activity := List.inj_on_of_nodup_map hunique hother hmem hid
      rcases hwhy with hchange | ⟨p, hp, hreason⟩
      · have hblocked := hreview other.activityId
          (List.mem_map_of_mem (List.mem_filter.mpr ⟨hmem, hchange⟩)) hleast
        rw [hfresh] at hblocked
        cases hblocked
      · have hnone := predecessors_of_newlyBlocked_eq_none hnew hpending hfresh p hp
        rcases hreason with hfails | hbehind
        · rw [hnone.1] at hfails
          cases hfails
        · rw [hdecided p hp hbehind] at hnone
          cases hnone.2
  | some value =>
      have hstep : blockStep statusOf found activity = (true, found.2 ++ [value]) := by
        simp [blockStep, hnew]
      rw [hstep]
      obtain ⟨hactivity, hpending, -, p, hp, hreason⟩ := newlyBlocked_eq_some hnew
      have hrecorded := newlyBlocked_reason hnew
      have hleast : value.activity.activityId ∈ leastBlocked statusOf activities := by
        rw [hactivity]
        exact mem_leastBlocked.mpr ⟨activity, hmem, rfl, hpending,
          .inr ⟨p, hp, hreason.imp_right hexact.least_of_isBlocked⟩⟩
      refine ⟨⟨fun other hother => ?_, fun other hother => ?_, fun other hother => ?_⟩,
        fun _ => ?_⟩
      · rcases List.mem_append.mp hother with hother | hother
        · exact hexact.least other hother
        · exact List.mem_singleton.mp hother ▸ hleast
      · rcases List.mem_append.mp hother with hother | hother
        · exact hexact.failed other hother
        · obtain rfl := List.mem_singleton.mp hother
          intro hfailed
          rcases hrecorded with ⟨-, hlist⟩ | ⟨hbehind, -⟩
          · rw [hlist, hactivity]
          · rw [hbehind] at hfailed
            cases hfailed
      · rcases List.mem_append.mp hother with hother | hother
        · exact hexact.behind other hother
        · obtain rfl := List.mem_singleton.mp hother
          intro hbehind q
          rcases hrecorded with ⟨hfailed, -⟩ | ⟨-, hlist⟩
          · rw [hfailed] at hbehind
            cases hbehind
          · rw [hlist, hactivity, blockedPredecessors, List.mem_filter]
            exact and_congr_right fun hq =>
              ⟨hexact.least_of_isBlocked, hdecided q hq⟩
      · rw [isBlocked_append, Bool.or_eq_true]
        exact .inr (by simp [isBlocked, hactivity])

/-- What holds of the table after the activities in `visited` have been visited. -/
structure VisitedTable (statusOf : ActivityId → SagaStepStatus)
    (activities visited : List PlannedActivity)
    (blocked : List BlockedActivity) : Prop where
  exact : TableExact statusOf activities blocked
  decided : Decided statusOf activities visited blocked
  reviews : Decided statusOf activities
    (activities.filter (·.operation.isReviewChange)) blocked

theorem visitedTable_reviewBlocked :
    VisitedTable statusOf activities [] (reviewBlocked statusOf activities) := by
  refine ⟨tableExact_reviewBlocked, fun _ hid => absurd hid (List.not_mem_nil), ?_⟩
  intro activityId hid hleast
  obtain ⟨activity, hmem, rfl⟩ := List.mem_map.mp hid
  obtain ⟨hplan, hchange⟩ := List.mem_filter.mp hmem
  obtain ⟨-, -, -, hpending, -⟩ := mem_leastBlocked.mp hleast
  exact isBlocked_iff.mpr ⟨⟨activity, .reviewRequired, []⟩, List.mem_map.mpr ⟨activity,
    List.mem_filter.mpr ⟨hplan, decide_eq_true ⟨hpending, hchange⟩⟩, rfl⟩, rfl⟩

/-- **A round in plan order** decides every activity: the induction is on what is still
to be visited, and predecessors are among what already was. -/
theorem visitedTable_fold (hunique : (activityIds activities).Nodup)
    (horder : PredecessorsFirst activities) :
    ∀ (post pre : List PlannedActivity) (found : Bool × List BlockedActivity),
      activities = pre ++ post → VisitedTable statusOf activities pre found.2 →
      VisitedTable statusOf activities activities
        (post.foldl (blockStep statusOf) found).2
  | [], pre, found, hsplit, h => by
      rw [List.append_nil] at hsplit
      rw [← hsplit] at h
      exact h
  | activity :: post, pre, found, hsplit, h => by
      have hmem : activity ∈ activities := by rw [hsplit]; simp
      obtain ⟨hexact, hdecided⟩ := blockStep_exact hmem h.exact
        (fun p hp => h.decided p (horder pre activity post hsplit p hp))
        h.reviews hunique
      rw [List.foldl_cons]
      refine visitedTable_fold hunique horder post
        (pre ++ [activity]) _ (by simp [hsplit])
        ⟨hexact, fun activityId hid hleast => ?_,
          fun activityId hid hleast =>
            isBlocked_blockStep (h.reviews activityId hid hleast)⟩
      rw [activityIds, List.map_append, List.mem_append] at hid
      rcases hid with hid | hid
      · exact isBlocked_blockStep (h.decided activityId hid hleast)
      · obtain rfl : activityId = activity.activityId := by simpa using hid
        exact hdecided hleast

/-- Once everything is decided, further visits keep it so. -/
theorem visitedTable_blockPass (hunique : (activityIds activities).Nodup)
    (horder : PredecessorsFirst activities) {visited : List PlannedActivity}
    {blocked : List BlockedActivity}
    (h : VisitedTable statusOf activities visited blocked) :
    VisitedTable statusOf activities activities
      (blockPass statusOf activities blocked).2 :=
  visitedTable_fold hunique horder activities [] (false, blocked) rfl
    ⟨h.exact, fun _ hid => absurd hid (List.not_mem_nil), h.reviews⟩

theorem visitedTable_structurallyBlocked (hunique : (activityIds activities).Nodup)
    (horder : PredecessorsFirst activities) :
    VisitedTable statusOf activities activities
      (structurallyBlocked statusOf activities) := by
  have hfirst : VisitedTable statusOf activities activities
      (blockPass statusOf activities (reviewBlocked statusOf activities)).2 :=
    visitedTable_blockPass hunique horder visitedTable_reviewBlocked
  rw [structurallyBlocked, repeatUntilStable]
  split
  · exact repeatUntilStable_invariant
      (fun _ h => visitedTable_blockPass hunique horder h) _ _ hfirst
  · exact hfirst

/-- The `while changed` loop ends in the table. -/
theorem ends_structurallyBlocked : Ends (blockPass statusOf activities)
    (reviewBlocked statusOf activities) (structurallyBlocked statusOf activities) := by
  refine ends_repeatUntilStable (m := unblockedCount activities)
    (fun blocked hchanged => ?_) _ _ (Nat.lt_succ_of_le List.countP_le_length)
  rcases blockPass_cases statusOf activities blocked with ⟨hsame, -⟩ | ⟨-, hlt⟩
  · rw [hsame] at hchanged
    cases hchanged
  · exact hlt

end Loop

/-! ## The blocked activities of a plan -/

/-- A structural entry of the returned tuple is one of the loop's. -/
theorem structural_of_deriveBlocked {plan : ActivityPlan} {status : SagaStatus}
    {statusOf : ActivityId → SagaStepStatus} {value : BlockedActivity}
    (h : value ∈ deriveBlocked plan status statusOf)
    (hreason : value.reason = .failedPredecessor ∨ value.reason = .blockedPredecessor) :
    value ∈ structurallyBlocked statusOf plan.activities := by
  rcases List.mem_append.mp (deriveBlocked_mem h) with h | h
  · exact h
  · unfold globallyBlocked at h
    split at h
    · rename_i reason hglobal
      obtain ⟨activity, -, rfl⟩ := List.mem_map.mp h
      unfold globalBlockReason at hglobal
      split at hglobal
      · cases hglobal
        rcases hreason with hreason | hreason <;> cases hreason
      · split at hglobal <;> cases hglobal <;> rcases hreason with hreason | hreason <;>
          cases hreason
    · cases h

/-- **The blocking loop computes the least fixpoint.**  It ends; an activity is in its
table exactly when it is pending and asks for review, or a path through pending
activities leads from it to one that failed or asks for review; and the recorded
predecessors are exactly the failed ones, or the blocked ones. -/
theorem blocksLeast (plan : ActivityPlan) (status : SagaStatus)
    (statusOf : ActivityId → SagaStepStatus) :
    Ends (blockPass statusOf plan.activities) (reviewBlocked statusOf plan.activities)
      (structurallyBlocked statusOf plan.activities) ∧
    {activityId |
      isBlocked (structurallyBlocked statusOf plan.activities) activityId = true} =
      leastBlocked statusOf plan.activities ∧
    (∀ activity ∈ plan.activities,
      isBlocked (structurallyBlocked statusOf plan.activities) activity.activityId =
        true ↔
        statusOf activity.activityId = .pending ∧
          (activity.operation.isReviewChange = true ∨
            ∃ target, PendingPath statusOf plan.activities activity.activityId target ∧
              Blocks statusOf plan.activities target)) ∧
    (∀ value ∈ deriveBlocked plan status statusOf,
      value.reason = .failedPredecessor → ∀ p,
      p ∈ value.predecessors ↔
        p ∈ value.activity.predecessors ∧ (statusOf p).failsSuccessors = true) ∧
    (∀ value ∈ deriveBlocked plan status statusOf,
      value.reason = .blockedPredecessor → ∀ p,
      p ∈ value.predecessors ↔ p ∈ value.activity.predecessors ∧
        isBlocked (structurallyBlocked statusOf plan.activities) p = true) := by
  obtain ⟨given, hcompose⟩ := plan.composed
  have horder := predecessorsFirst_of_compose hcompose
  have htable : VisitedTable statusOf plan.activities plan.activities
      (structurallyBlocked statusOf plan.activities) :=
    visitedTable_structurallyBlocked plan.ids_nodup horder
  have hleast : ∀ activityId,
      isBlocked (structurallyBlocked statusOf plan.activities) activityId = true ↔
        activityId ∈ leastBlocked statusOf plan.activities := by
    refine fun activityId => ⟨htable.exact.least_of_isBlocked, fun hmem => ?_⟩
    exact htable.decided activityId (mem_leastBlocked_iff.mp hmem).1 hmem
  refine ⟨ends_structurallyBlocked, Set.ext hleast, fun activity hmem => ?_,
    fun value hvalue hreason p => ?_, fun value hvalue hreason p => ?_⟩
  · rw [hleast, mem_leastBlocked_iff]
    constructor
    · rintro ⟨-, hpending, ⟨other, hother, hid, -, hreview⟩ | hpath⟩
      · obtain rfl := List.inj_on_of_nodup_map plan.ids_nodup hother hmem hid
        exact ⟨hpending, .inl hreview⟩
      · exact ⟨hpending, .inr hpath⟩
    · rintro ⟨hpending, hwhy⟩
      exact ⟨List.mem_map_of_mem hmem, hpending,
        hwhy.imp_left fun hreview => ⟨activity, hmem, rfl, hpending, hreview⟩⟩
  · rw [htable.exact.failed value (structural_of_deriveBlocked hvalue (.inl hreason))
      hreason, failedPredecessors, List.mem_filter]
  · rw [htable.exact.behind value
      (structural_of_deriveBlocked hvalue (.inr hreason)) hreason, hleast]

end ControlPlaneKit.Planning
