import ControlPlaneKit.Planning.SagaFinality
import ControlPlaneKit.Planning.ScheduleEvidence

/-!
# ScheduleLaws — the scheduler against the saga decider

On evidence reconstructed for its plan, the schedule puts every activity in one
place, offers exactly the starts and the compensation that `decide` accepts, and
never leaves an activity waiting with nothing to wait for.
-/

namespace ControlPlaneKit.Planning

open ControlPlaneKit.Library.EventFold

/-! ## A saga asked to compensate starts nothing -/

/-- A request is backed by completed work, to be compensated or already so. -/
def RequestBacked (state : SagaState) : Prop :=
  state.compensationRequested = true →
    (∃ stepId, state.inCompensationAt stepId = true) ∨ state.candidates ≠ []

theorem RequestBacked.after {state : SagaState} (h : RequestBacked state)
    {event : SagaEvent} (hadm : Admits state event) :
    RequestBacked (state.after event) := by
  intro hreq
  have hkept : (∃ stepId, state.inCompensationAt stepId = true) ∨
      state.candidates ≠ [] →
      event.expects ≠ .succeeded →
      (∃ stepId, (state.after event).inCompensationAt stepId = true) ∨
        (state.after event).candidates ≠ [] := by
    rintro (⟨stepId, hin⟩ | hcand) hne
    · exact .inl ⟨stepId, by rw [hadm.inCompensationAt_after, hin, Bool.true_or]⟩
    · obtain ⟨stepId, hmem⟩ := List.exists_mem_of_ne_nil _ hcand
      exact .inr (List.ne_nil_of_mem (hadm.candidates_kept hmem hne))
  cases event with
  | compensationRequested => exact hkept (.inr hadm.2.2) (by simp [SagaEvent.expects])
  | compensationStarted stepId =>
      refine .inl ⟨stepId, ?_⟩
      rw [hadm.inCompensationAt_after]
      simp [SagaEvent.begins]
  | _ => exact hkept (h hreq) (by simp [SagaEvent.expects])

theorem requestBacked_run {init state : SagaState} (hfresh : Fresh init)
    {events : List SagaEvent} (hrun : evolveAll init events = .ok state) :
    RequestBacked state := by
  refine (run_invariant (I := fun s => Coherent s ∧ RequestBacked s) ?_
    ⟨hfresh.coherent, fun hreq => ?_⟩ hrun).2
  · rintro s event t ⟨hcoh, hbacked⟩ hstep
    obtain ⟨hadm, rfl⟩ := hcoh.evolve_eq_ok.mp hstep
    exact ⟨hcoh.after hadm, hbacked.after hadm⟩
  · rw [hfresh.compensationRequested] at hreq
    cases hreq

/-- An ACTIVE saga has not been asked to compensate. -/
theorem not_requested_of_active {state : SagaState} (hcoh : Coherent state)
    (hbacked : RequestBacked state) (hactive : state.currentStatus = .active) :
    state.compensationRequested = false := by
  rw [Bool.eq_false_iff]
  intro hreq
  rcases hbacked hreq with ⟨stepId, hin⟩ | hcand
  · exact (SagaState.currentStatus_of_keepsClosed hcoh.ids_nodup hin
      (.inr (.inr (.inl hreq)))).2 hactive
  · unfold SagaState.currentStatus at hactive
    rw [if_pos hreq, if_pos hcand] at hactive
    split at hactive
    · cases hactive
    · split at hactive <;> cases hactive

/-- A saga with a pending step has not succeeded. -/
theorem currentStatus_ne_succeeded {state : SagaState} {value : SagaStepState}
    (hmem : value ∈ state.steps) (hpending : value.status = .pending) :
    state.currentStatus ≠ .succeeded := by
  have hforward : state.forwardStatus ≠ .succeeded := by
    unfold SagaState.forwardStatus
    split
    · simp
    · split
      · simp
      · split
        · rename_i hall
          have := hall.2 value hmem
          rw [hpending] at this
          cases this
        · simp
  have hhalted : state.currentHalted ≠ .succeeded := by
    unfold SagaState.currentHalted
    split
    · simp
    · exact hforward
  unfold SagaState.currentStatus
  split
  · simp
  · split
    · simp
    · split
      · split
        · simp
        · split
          · simp
          · exact hhalted
      · exact hhalted

/-! ## The blocked activities of a schedule -/

section Blocked

variable {plan : ActivityPlan} {status : SagaStatus}
  {statusOf : ActivityId → SagaStepStatus}

/-- The whole blocked table, structural and saga-wide. -/
def blockedTable (plan : ActivityPlan) (status : SagaStatus)
    (statusOf : ActivityId → SagaStepStatus) : List BlockedActivity :=
  structurallyBlocked statusOf plan.activities ++
    globallyBlocked statusOf status plan.activities
      (structurallyBlocked statusOf plan.activities)

theorem globallyBlocked_mem {activities : List PlannedActivity}
    {blocked : List BlockedActivity} {value : BlockedActivity}
    (h : value ∈ globallyBlocked statusOf status activities blocked) :
    value.activity ∈ activities ∧ statusOf value.activity.activityId = .pending ∧
      globalBlockReason status (activities.any (·.operation.isReviewChange)) ≠
        none := by
  unfold globallyBlocked at h
  split at h
  · rename_i reason hreason
    obtain ⟨activity, hmem, rfl⟩ := List.mem_map.mp h
    obtain ⟨hplan, hpending⟩ := List.mem_filter.mp hmem
    simp only [decide_eq_true_eq] at hpending
    exact ⟨hplan, hpending.1, by simp [hreason]⟩
  · cases h

theorem blockedTable_mem {value : BlockedActivity}
    (h : value ∈ blockedTable plan status statusOf) :
    value.activity ∈ plan.activities ∧
    statusOf value.activity.activityId = .pending := by
  rcases List.mem_append.mp h with h | h
  · exact ⟨(structurallyBlocked_sound value h).1,
      (structurallyBlocked_sound value h).2.1⟩
  · exact ⟨(globallyBlocked_mem h).1, (globallyBlocked_mem h).2.1⟩

theorem deriveBlocked_mem {value : BlockedActivity}
    (h : value ∈ deriveBlocked plan status statusOf) :
    value ∈ blockedTable plan status statusOf := by
  obtain ⟨activity, -, hfind⟩ := List.mem_filterMap.mp h
  exact List.mem_of_find?_eq_some hfind

theorem filterMap_map_eq_filter {α β : Type} {f : α → Option β} {g : β → α} :
    ∀ {l : List α}, (∀ a ∈ l, ∀ b, f a = some b → g b = a) →
      (l.filterMap f).map g = l.filter fun a => (f a).isSome
  | [], _ => rfl
  | a :: l, h => by
      have hrest := filterMap_map_eq_filter fun a' ha' =>
        h a' (List.mem_cons_of_mem a ha')
      cases hfa : f a with
      | none => simp [hfa, hrest]
      | some b => simp [hfa, hrest, h a (by simp) b hfa]

/-- The reported blocked activities are those the table has, in plan order. -/
theorem deriveBlocked_activities :
    (deriveBlocked plan status statusOf).map (·.activity) =
      plan.activities.filter fun activity =>
        isBlocked (blockedTable plan status statusOf) activity.activityId := by
  have hsome : ∀ activityId, ((blockedTable plan status statusOf).find? fun value =>
      decide (value.activity.activityId = activityId)).isSome =
        isBlocked (blockedTable plan status statusOf) activityId := by
    intro activityId
    rw [Bool.eq_iff_iff, List.find?_isSome, isBlocked_iff]
    simp
  refine (filterMap_map_eq_filter fun activity hmem value hfind => ?_).trans
    (List.filter_congr fun activity _ => hsome activity.activityId)
  have hvalue := blockedTable_mem (List.mem_of_find?_eq_some hfind)
  exact List.inj_on_of_nodup_map plan.ids_nodup hvalue.1 hmem
    (by simpa using List.find?_some hfind)

/-- An activity of the plan is reported blocked exactly when the table has it. -/
theorem isBlocked_deriveBlocked {activity : PlannedActivity}
    (hmem : activity ∈ plan.activities) :
    isBlocked (deriveBlocked plan status statusOf) activity.activityId =
      isBlocked (blockedTable plan status statusOf) activity.activityId := by
  rw [Bool.eq_iff_iff, isBlocked_iff]
  constructor
  · rintro ⟨value, hvalue, hid⟩
    exact isBlocked_iff.mpr ⟨value, deriveBlocked_mem hvalue, hid⟩
  · intro hblocked
    have : activity ∈ (deriveBlocked plan status statusOf).map (·.activity) := by
      rw [deriveBlocked_activities]
      exact List.mem_filter.mpr ⟨hmem, hblocked⟩
    obtain ⟨value, hvalue, rfl⟩ := List.mem_map.mp this
    exact ⟨value, hvalue, rfl⟩

/-- **What keeps an activity off the blocked list**: no saga-wide reason, and no
failed or blocked predecessor. -/
theorem of_not_blocked {activity : PlannedActivity} (hmem : activity ∈ plan.activities)
    (hpending : statusOf activity.activityId = .pending)
    (hfree : isBlocked (blockedTable plan status statusOf) activity.activityId =
      false) :
    globalBlockReason status (plan.activities.any (·.operation.isReviewChange)) = none ∧
      ∀ p ∈ activity.predecessors, (statusOf p).failsSuccessors = false ∧
        isBlocked (blockedTable plan status statusOf) p = false := by
  rw [blockedTable, isBlocked_append, Bool.or_eq_false_iff] at hfree
  have hglobal : globalBlockReason status
      (plan.activities.any (·.operation.isReviewChange)) =
      none := by
    by_contra hne
    obtain ⟨reason, hreason⟩ := Option.ne_none_iff_exists'.mp hne
    have : isBlocked (globallyBlocked statusOf status plan.activities
        (structurallyBlocked statusOf plan.activities)) activity.activityId = true := by
      rw [globallyBlocked, hreason, isBlocked_iff]
      exact ⟨⟨activity, reason, []⟩,
        List.mem_map.mpr
          ⟨activity, List.mem_filter.mpr ⟨hmem, by simp [hpending, hfree.1]⟩, rfl⟩, rfl⟩
    rw [hfree.2] at this
    cases this
  refine ⟨hglobal, fun p hp => ?_⟩
  obtain ⟨hfails, hp⟩ := predecessors_of_newlyBlocked_eq_none
    (structurallyBlocked_stable hmem) hpending hfree.1 p hp
  refine ⟨hfails, ?_⟩
  rw [blockedTable, isBlocked_append, hp, Bool.false_or, globallyBlocked, hglobal]
  rfl

end Blocked

/-! ## One place for every activity -/

/-- The nine places a schedule puts activities in. -/
inductive ScheduleBucket where
  | ready
  | running
  | waiting
  | blocked
  | succeeded
  | failed
  | compensating
  | compensated
  | compensationFailed
  deriving DecidableEq

def ExecutionSchedule.members (schedule : ExecutionSchedule) :
    ScheduleBucket → List PlannedActivity
  | .ready => schedule.ready
  | .running => schedule.running
  | .waiting => schedule.waiting
  | .blocked => schedule.blocked.map (·.activity)
  | .succeeded => schedule.succeeded
  | .failed => schedule.failed
  | .compensating => schedule.compensating
  | .compensated => schedule.compensated
  | .compensationFailed => schedule.compensationFailed

/-- Where a pending activity goes. -/
def pendingBucket (blocked succeeded : Bool) : ScheduleBucket :=
  if blocked then .blocked else if succeeded then .ready else .waiting

def SagaStepStatus.bucket (pending : ScheduleBucket) : SagaStepStatus → ScheduleBucket
  | .pending => pending
  | .running => .running
  | .succeeded => .succeeded
  | .failed => .failed
  | .compensating => .compensating
  | .compensated => .compensated
  | .compensationFailed => .compensationFailed

/-- Where an activity goes. -/
def bucketOf (statusOf : ActivityId → SagaStepStatus) (blocked : List BlockedActivity)
    (activity : PlannedActivity) : ScheduleBucket :=
  (statusOf activity.activityId).bucket
    (pendingBucket (isBlocked blocked activity.activityId)
      (predecessorsSucceeded statusOf activity))

theorem bucket_pending_iff {status : SagaStepStatus} {blocked succeeded : Bool} :
    (status.bucket (pendingBucket blocked succeeded) = .blocked ↔
      status = .pending ∧ blocked = true) ∧
    (status.bucket (pendingBucket blocked succeeded) = .ready ↔
      status = .pending ∧ blocked = false ∧ succeeded = true) ∧
    (status.bucket (pendingBucket blocked succeeded) = .waiting ↔
      status = .pending ∧ blocked = false ∧ succeeded = false) := by
  cases status <;> cases blocked <;> cases succeeded <;> decide

theorem bucket_settled_iff {status : SagaStepStatus} {blocked succeeded : Bool} :
    (status.bucket (pendingBucket blocked succeeded) = .running ↔ status = .running) ∧
    (status.bucket (pendingBucket blocked succeeded) = .succeeded ↔
      status = .succeeded) ∧
    (status.bucket (pendingBucket blocked succeeded) = .failed ↔ status = .failed) ∧
    (status.bucket (pendingBucket blocked succeeded) = .compensating ↔
      status = .compensating) ∧
    (status.bucket (pendingBucket blocked succeeded) = .compensated ↔
      status = .compensated) ∧
    (status.bucket (pendingBucket blocked succeeded) = .compensationFailed ↔
      status = .compensationFailed) := by
  cases status <;> cases blocked <;> cases succeeded <;> decide

/-- **Each place is a class of the plan's activities**, in plan order. -/
theorem members_buildSchedule {plan : ActivityPlan} {status : SagaStatus}
    {statusOf : ActivityId → SagaStepStatus} {compensationReady : List PlannedActivity}
    (place : ScheduleBucket) :
    (buildSchedule plan statusOf
      (deriveBlocked plan status statusOf) compensationReady).members
        place =
      plan.activities.filter fun activity =>
        bucketOf statusOf (blockedTable plan status statusOf) activity = place := by
  have hpending : ∀ succeeded : Bool,
      (((plan.withStatus statusOf .pending).filter fun activity =>
          isBlocked (deriveBlocked plan status statusOf) activity.activityId =
            false).filter
        fun activity => predecessorsSucceeded statusOf activity = succeeded) =
      plan.activities.filter fun activity => statusOf activity.activityId = .pending ∧
        isBlocked (blockedTable plan status statusOf) activity.activityId = false ∧
        predecessorsSucceeded statusOf activity = succeeded := by
    intro succeeded
    rw [ActivityPlan.withStatus, List.filter_filter, List.filter_filter]
    refine List.filter_congr fun activity hmem => ?_
    rw [isBlocked_deriveBlocked hmem]
    simp only [Bool.decide_and]
    grind
  have hblocked : ∀ activity ∈ plan.activities,
      isBlocked (blockedTable plan status statusOf) activity.activityId = true →
      statusOf activity.activityId = .pending := by
    intro activity _ hblocked
    obtain ⟨value, hvalue, hid⟩ := isBlocked_iff.mp hblocked
    rw [← hid]
    exact (blockedTable_mem hvalue).2
  cases place with
  | ready =>
      refine Eq.trans ?_ ((hpending true).trans ?_)
      · simp [buildSchedule, ExecutionSchedule.members]
      · simp only [bucketOf, bucket_pending_iff.2.1]
  | waiting =>
      refine Eq.trans ?_ ((hpending false).trans ?_)
      · simp [buildSchedule, ExecutionSchedule.members]
      · simp only [bucketOf, bucket_pending_iff.2.2]
  | blocked =>
      refine deriveBlocked_activities.trans (List.filter_congr fun activity hmem => ?_)
      rw [Bool.eq_iff_iff, decide_eq_true_eq, bucketOf, bucket_pending_iff.1]
      exact ⟨fun h => ⟨hblocked activity hmem h, h⟩, And.right⟩
  | running => simp only [bucketOf, bucket_settled_iff.1]; rfl
  | succeeded => simp only [bucketOf, bucket_settled_iff.2.1]; rfl
  | failed => simp only [bucketOf, bucket_settled_iff.2.2.1]; rfl
  | compensating => simp only [bucketOf, bucket_settled_iff.2.2.2.1]; rfl
  | compensated => simp only [bucketOf, bucket_settled_iff.2.2.2.2.1]; rfl
  | compensationFailed => simp only [bucketOf, bucket_settled_iff.2.2.2.2.2]; rfl

/-! ## Agreement with the decider -/

/-- `decide` lets a command through. -/
def Accepts (state : SagaState) (command : SagaCommand) : Prop :=
  ∃ events, decideCommand state command = .ok events

theorem accepts_iff {state : SagaState} (hcoh : Coherent state)
    {command : SagaCommand} : Accepts state command ↔ Admits state command.event := by
  simp only [Accepts, hcoh.tabled.decideCommand_eq_ok, exists_and_left,
    exists_eq, and_true]

theorem globalBlockReason_eq_none {status : SagaStatus} {reviewRequired : Bool} :
    globalBlockReason status reviewRequired = none ↔
      reviewRequired = false ∧ (status = .active ∨ status = .succeeded) := by
  cases reviewRequired <;> cases status <;> simp [globalBlockReason]

/-- Nothing blocks an activity of an active, review-free plan whose predecessors
have all succeeded. -/
theorem not_blocked_of_succeeded {plan : ActivityPlan}
    {statusOf : ActivityId → SagaStepStatus}
    (hreview : plan.activities.any (·.operation.isReviewChange) = false)
    {activity : PlannedActivity} (hmem : activity ∈ plan.activities)
    (hdone : ∀ p ∈ activity.predecessors, statusOf p = .succeeded) :
    isBlocked (blockedTable plan .active statusOf) activity.activityId = false := by
  have hnone : globallyBlocked statusOf .active plan.activities
      (structurallyBlocked statusOf plan.activities) = [] := by
    rw [globallyBlocked, globalBlockReason_eq_none.mpr ⟨hreview, .inl rfl⟩]
  rw [Bool.eq_false_iff]
  intro hblocked
  rw [blockedTable, hnone, List.append_nil] at hblocked
  obtain ⟨value, hvalue, hid⟩ := isBlocked_iff.mp hblocked
  obtain ⟨hplan, -, hreason⟩ := structurallyBlocked_sound value hvalue
  obtain rfl : value.activity = activity :=
    List.inj_on_of_nodup_map plan.ids_nodup hplan hmem hid
  rcases hreason with hisreview | ⟨p, hp, hfails | hpblocked⟩
  · exact absurd hisreview (by simpa using List.any_eq_false.mp hreview _ hplan)
  · rw [hdone p hp] at hfails
    cases hfails
  · obtain ⟨other, hother, rfl⟩ := isBlocked_iff.mp hpblocked
    have hpending := (structurallyBlocked_sound other hother).2.1
    rw [hdone _ hp] at hpending
    cases hpending

/-- **Agreement** of a schedule with the decider on one state of the evidence. -/
structure AgreesWithDecider (plan : ActivityPlan) (evidence : SagaState)
    (schedule : ExecutionSchedule) : Prop where
  planned : ∀ place, ∀ activity ∈ schedule.members place, activity ∈ plan.activities
  one_place : ∀ activity ∈ plan.activities, ∃! place, activity ∈ schedule.members place
  no_repetition : ∀ place, (schedule.members place).Nodup
  ready_startable : ∀ activity ∈ schedule.ready,
    (∀ p ∈ activity.predecessors, evidence.statusOf p.stepId = some .succeeded) ∧
      Accepts evidence (.startStep activity.activityId.stepId)
  startable_ready : plan.activities.any (·.operation.isReviewChange) = false →
    ∀ activity ∈ plan.activities,
      evidence.statusOf activity.activityId.stepId = some .pending →
      (∀ p ∈ activity.predecessors, evidence.statusOf p.stepId = some .succeeded) →
      Accepts evidence (.startStep activity.activityId.stepId) →
      activity ∈ schedule.ready
  compensation_acceptable : ∀ first rest, schedule.compensationReady = first :: rest →
    Accepts evidence (.beginCompensation first.activityId.stepId)

section Reconstructed

variable {plan : ActivityPlan} {evidence : SagaState} {events : List SagaEvent}
  {statusOf : ActivityId → SagaStepStatus}

/-- An activity's status, where the schedule reads it and in the evidence. -/
theorem ReadsStatuses.statusOf_iff (hreads : ReadsStatuses plan evidence statusOf)
    {activityId : ActivityId} (hmem : activityId ∈ activityIds plan.activities)
    {status : SagaStepStatus} :
    evidence.statusOf activityId.stepId = some status ↔
      statusOf activityId = status := by
  rw [hreads activityId hmem, Option.some_inj]

/-- A free pending activity means an active saga that was not asked to
compensate. -/
theorem active_of_not_blocked
    (hrun : evolveAll (SagaState.initialForPlan plan) events = .ok evidence)
    (hreads : ReadsStatuses plan evidence statusOf) {activity : PlannedActivity}
    (hmem : activity ∈ plan.activities)
    (hpending : statusOf activity.activityId = .pending)
    (hfree : isBlocked (blockedTable plan evidence.currentStatus statusOf)
      activity.activityId = false) :
    evidence.currentStatus = .active ∧ evidence.compensationRequested = false := by
  have hcoh := coherent_of_plan_run hrun
  obtain ⟨-, hstatus⟩ :=
    globalBlockReason_eq_none.mp (of_not_blocked hmem hpending hfree).1
  have hstep := (hreads.statusOf_iff (List.mem_map_of_mem hmem)).mpr hpending
  obtain ⟨value, hvalue, -, hvpending⟩ :=
    (SagaState.statusOf_eq_some hcoh.ids_nodup).mp hstep
  have hactive := hstatus.resolve_right (currentStatus_ne_succeeded hvalue hvpending)
  exact ⟨hactive, not_requested_of_active hcoh
    (requestBacked_run (initialForPlan_fresh plan) hrun) hactive⟩

/-- **The scheduler agrees with the decider** on every evidence state
reconstructed for its plan. -/
theorem schedule_agrees_with_decider
    (hrun : evolveAll (SagaState.initialForPlan plan) events = .ok evidence) :
    ∃ schedule, deriveSchedule plan evidence = .ok schedule ∧
      AgreesWithDecider plan evidence schedule := by
  obtain ⟨statusOf, compensationReady, hreads, hderive, hcomp⟩ :=
    deriveSchedule_reconstructed hrun
  have hcoh := coherent_of_plan_run hrun
  refine ⟨_, hderive, ?_⟩
  constructor
  case planned =>
    intro place activity hactivity
    rw [members_buildSchedule] at hactivity
    exact (List.mem_filter.mp hactivity).1
  case one_place =>
    intro activity hmem
    simp only [members_buildSchedule, List.mem_filter, hmem, true_and,
      decide_eq_true_eq]
    exact ⟨_, rfl, fun _ heq => heq.symm⟩
  case no_repetition =>
    intro place
    rw [members_buildSchedule]
    exact plan.ids_nodup.of_map.filter _
  case ready_startable =>
    intro activity hready
    change activity ∈ ExecutionSchedule.members _ .ready at hready
    rw [members_buildSchedule, List.mem_filter, decide_eq_true_eq, bucketOf,
      bucket_pending_iff.2.1] at hready
    obtain ⟨hmem, hpending, hfree, hdone⟩ := hready
    obtain ⟨hactive, hreq⟩ := active_of_not_blocked hrun hreads hmem hpending hfree
    refine ⟨fun p hp => ?_, (accepts_iff hcoh).mpr ⟨hactive, hreq, ?_⟩⟩
    · rw [hreads.statusOf_iff (plan.predecessor_mem hmem hp)]
      simpa using List.all_eq_true.mp hdone p hp
    · exact (hreads.statusOf_iff (List.mem_map_of_mem hmem)).mpr hpending
  case startable_ready =>
    intro hreview activity hmem hpending hdone haccepts
    have hdone' : ∀ p ∈ activity.predecessors, statusOf p = .succeeded := fun p hp =>
      (hreads.statusOf_iff (plan.predecessor_mem hmem hp)).mp (hdone p hp)
    change activity ∈ ExecutionSchedule.members _ .ready
    rw [members_buildSchedule, List.mem_filter, decide_eq_true_eq, bucketOf,
      bucket_pending_iff.2.1, ((accepts_iff hcoh).mp haccepts).1]
    refine ⟨hmem, (hreads.statusOf_iff (List.mem_map_of_mem hmem)).mp hpending,
      not_blocked_of_succeeded hreview hmem hdone', ?_⟩
    exact List.all_eq_true.mpr fun p hp => by simpa using hdone' p hp
  case compensation_acceptable =>
    intro first rest hready
    rw [accepts_iff hcoh]
    change compensationReady = first :: rest at hready
    rw [hready] at hcomp
    rcases hcomp with hnil | hmap
    · cases hnil
    · change evidence.candidates.head? = _
      rw [← hmap]
      rfl

end Reconstructed

/-- With the runtime started, its node is on offer. -/
theorem schedule_agrees_with_decider_host :
    ∃ schedule,
      deriveSchedule hostPlan (hostState .succeeded [startHost.activityId.stepId]) =
        .ok schedule ∧
      AgreesWithDecider hostPlan (hostState .succeeded [startHost.activityId.stepId])
        schedule := by
  have hrun : evolveAll (SagaState.initialForPlan hostPlan)
      [.stepStarted startHost.activityId.stepId, .stepSucceeded
        startHost.activityId.stepId] =
      .ok (hostState .succeeded [startHost.activityId.stepId]) := by decide
  exact schedule_agrees_with_decider hrun

/-! ## No deadlock -/

section Reconstructed

variable {plan : ActivityPlan} {evidence : SagaState} {events : List SagaEvent}
  {statusOf : ActivityId → SagaStepStatus}

/-- What an unfinished predecessor of a free activity can be doing. -/
theorem predecessor_pending_or_running
    (hrun : evolveAll (SagaState.initialForPlan plan) events = .ok evidence)
    (hreads : ReadsStatuses plan evidence statusOf) {activity : PlannedActivity}
    (hmem : activity ∈ plan.activities)
    (hpending : statusOf activity.activityId = .pending)
    (hfree : isBlocked (blockedTable plan evidence.currentStatus statusOf)
      activity.activityId = false)
    {p : ActivityId} (hp : p ∈ activity.predecessors)
    (hundone : statusOf p ≠ .succeeded) :
    statusOf p = .pending ∨ statusOf p = .running := by
  have hfails := ((of_not_blocked hmem hpending hfree).2 p hp).1
  have hactive := (active_of_not_blocked hrun hreads hmem hpending hfree).1
  have hcompensating : statusOf p ≠ .compensating := by
    intro hcomp
    have hsome := (hreads.statusOf_iff (plan.predecessor_mem hmem hp)).mpr hcomp
    have hhas := (SagaState.hasStatus_iff (coherent_of_plan_run hrun).ids_nodup).mpr
      ⟨_, hsome⟩
    rw [SagaState.currentStatus, if_pos hhas] at hactive
    cases hactive
  cases hstatus : statusOf p with
  | pending => exact .inl rfl
  | running => exact .inr rfl
  | succeeded => exact absurd hstatus hundone
  | compensating => exact absurd hstatus hcompensating
  | failed | compensated | compensationFailed =>
      rw [hstatus] at hfails
      cases hfails

/-- **Scheduling never deadlocks**: the first waiting activity in plan order
waits for one that is ready or running, so a schedule with no work in progress
or on offer is terminal. -/
theorem scheduling_never_deadlocks
    (hrun : evolveAll (SagaState.initialForPlan plan) events = .ok evidence) :
    ∃ schedule, deriveSchedule plan evidence = .ok schedule ∧
      (schedule.waiting ≠ [] → schedule.ready ≠ [] ∨ schedule.running ≠ []) ∧
      (schedule.ready = [] → schedule.running = [] → schedule.compensating = [] →
        schedule.compensationReady = [] → schedule.terminal = true) := by
  obtain ⟨statusOf, compensationReady, hreads, hderive, -⟩ :=
    deriveSchedule_reconstructed hrun
  have hprogress : ∀ schedule, schedule = buildSchedule plan statusOf
      (deriveBlocked plan evidence.currentStatus statusOf) compensationReady →
      schedule.waiting ≠ [] → schedule.ready ≠ [] ∨ schedule.running ≠ [] := by
    rintro schedule rfl hwaiting
    have hplace : ∀ place, (buildSchedule plan statusOf
        (deriveBlocked plan evidence.currentStatus statusOf)
        compensationReady).members place =
          plan.activities.filter fun activity => bucketOf statusOf
            (blockedTable plan evidence.currentStatus statusOf) activity = place :=
      members_buildSchedule
    -- the first waiting activity has only settled, ready or running work before it
    obtain ⟨some_waiting, hsome⟩ := List.exists_mem_of_ne_nil _ hwaiting
    change some_waiting ∈ ExecutionSchedule.members _ .waiting at hsome
    rw [hplace .waiting, List.mem_filter] at hsome
    cases hfind : plan.activities.find? (fun activity => decide (bucketOf statusOf
        (blockedTable plan evidence.currentStatus statusOf) activity = .waiting)) with
    | none => exact absurd hsome.2 (List.find?_eq_none.mp hfind _ hsome.1)
    | some activity =>
        obtain ⟨hbucket, pre, post, hsplit, hpre⟩ :=
          List.find?_eq_some_iff_append.mp hfind
        rw [decide_eq_true_eq, bucketOf, bucket_pending_iff.2.2] at hbucket
        obtain ⟨hpending, hfree, hundone⟩ := hbucket
        have hmem : activity ∈ plan.activities := by simp [hsplit]
        obtain ⟨p, hp, hne⟩ := List.all_eq_false.mp hundone
        obtain ⟨earlier, hearlier, rfl⟩ :=
          List.mem_map.mp (plan.predecessor_before hsplit hp)
        have hplanned : earlier ∈ plan.activities := by simp [hsplit, hearlier]
        rcases predecessor_pending_or_running hrun hreads hmem hpending hfree hp
            (by simpa using hne) with hwait | hrunning
        · have hfree' := ((of_not_blocked hmem hpending hfree).2 _ hp).2
          have hnot := hpre earlier hearlier
          simp only [Bool.not_eq_true', decide_eq_false_iff_not, bucketOf,
            bucket_pending_iff.2.2, not_and, Bool.not_eq_false] at hnot
          refine .inl (List.ne_nil_of_mem (a := earlier) ?_)
          change earlier ∈ ExecutionSchedule.members _ .ready
          rw [hplace .ready, List.mem_filter, decide_eq_true_eq, bucketOf,
            bucket_pending_iff.2.1]
          exact ⟨hplanned, hwait, hfree', hnot hwait hfree'⟩
        · refine .inr (List.ne_nil_of_mem (a := earlier) ?_)
          change earlier ∈ ExecutionSchedule.members _ .running
          rw [hplace .running, List.mem_filter, decide_eq_true_eq, bucketOf,
            bucket_settled_iff.1]
          exact ⟨hplanned, hrunning⟩
  refine ⟨_, hderive, hprogress _ rfl,
    fun hready hrunning hcompensating hcompReady => ?_⟩
  have hwaiting : (buildSchedule plan statusOf
      (deriveBlocked plan evidence.currentStatus statusOf)
      compensationReady).waiting = [] := by
    by_contra hne
    rcases hprogress _ rfl hne with h | h
    · exact h hready
    · exact h hrunning
  simp [ExecutionSchedule.terminal, hready, hrunning, hwaiting,
    hcompensating, hcompReady]

end Reconstructed

/-- While the runtime is starting, its node waits and the runtime runs. -/
theorem scheduling_never_deadlocks_host :
    ∃ schedule, deriveSchedule hostPlan (hostState .running []) = .ok schedule ∧
      (schedule.waiting ≠ [] → schedule.ready ≠ [] ∨ schedule.running ≠ []) ∧
      (schedule.ready = [] → schedule.running = [] → schedule.compensating = [] →
        schedule.compensationReady = [] → schedule.terminal = true) := by
  have hrun : evolveAll (SagaState.initialForPlan hostPlan)
      [.stepStarted startHost.activityId.stepId] =
        .ok (hostState .running []) := by decide
  exact scheduling_never_deadlocks hrun

end ControlPlaneKit.Planning
