import ControlPlaneKit.Library.Fixpoint
import ControlPlaneKit.Planning.SagaEvidence

/-!
# Schedule — interpreting a plan and its evidence

`derive_schedule` checks that the evidence describes the plan, derives the
blocked activities (review, then failed or blocked predecessors to a fixpoint,
then the saga-wide reasons) and sorts every activity by its status.
-/

namespace ControlPlaneKit.Planning

open ControlPlaneKit.Library.Text (isBlank_of_canonical isCanonicalIdentity)
open ControlPlaneKit.Library.Ordering (sorted)
open ControlPlaneKit.Library.Fixpoint

/-! ## Schedules -/

inductive BlockReason where
  | reviewRequired
  | failedPredecessor
  | blockedPredecessor
  | planReviewRequired
  | sagaFailed
  | sagaCancelled
  | sagaCompensating
  | sagaCompensated
  | sagaCompensationFailed
  deriving DecidableEq

/-- One pending activity plus bounded structural blocking evidence. -/
structure BlockedActivity where
  activity : PlannedActivity
  reason : BlockReason
  predecessors : List ActivityId
  deriving DecidableEq

structure ExecutionSchedule where
  ready : List PlannedActivity
  running : List PlannedActivity
  waiting : List PlannedActivity
  blocked : List BlockedActivity
  succeeded : List PlannedActivity
  failed : List PlannedActivity
  compensating : List PlannedActivity
  compensated : List PlannedActivity
  compensationFailed : List PlannedActivity
  compensationReady : List PlannedActivity
  deriving DecidableEq

/-- Whether no forward or compensating work remains schedulable. -/
def ExecutionSchedule.terminal (schedule : ExecutionSchedule) : Bool :=
  schedule.ready.isEmpty && schedule.running.isEmpty && schedule.waiting.isEmpty &&
    schedule.compensating.isEmpty && schedule.compensationReady.isEmpty

/-- Whether every planned activity completed forward successfully. -/
def ExecutionSchedule.successful (schedule : ExecutionSchedule) : Bool :=
  schedule.terminal && schedule.blocked.isEmpty && schedule.failed.isEmpty &&
    schedule.compensated.isEmpty && schedule.compensationFailed.isEmpty

/-! ## Evidence checks -/

inductive ScheduleEvidenceError where
  | repeatedIdentity
  | identityMismatch (missing foreign : List String)
  | repeatedCompletion
  | repeatedFailure
  | unknownCompletion
  | unknownFailure
  | completionMismatch
  | failureMismatch
  deriving DecidableEq

/-- The text of the error; `repr` is the host's `repr` of a list of texts. -/
def ScheduleEvidenceError.message (repr : List String → String) :
    ScheduleEvidenceError → String
  | .repeatedIdentity => "saga evidence repeats a step identity"
  | .identityMismatch missing foreign =>
      "plan/evidence identity mismatch: missing=" ++ repr missing ++ ", foreign=" ++
        repr foreign
  | .repeatedCompletion => "saga completion evidence repeats a step identity"
  | .repeatedFailure => "saga failure evidence repeats a step identity"
  | .unknownCompletion => "saga completion evidence names an unknown step"
  | .unknownFailure => "saga failure evidence names an unknown step"
  | .completionMismatch =>
      "saga completion order must exactly describe completed step evidence"
  | .failureMismatch => "saga failed steps must exactly describe failed step evidence"

/-- What deriving a schedule can raise. -/
inductive ScheduleError where
  | evidence (error : ScheduleEvidenceError)
  | malformedActivityId
  | state (error : SagaStateError)
  | keyError (stepId : SagaStepId)
  deriving DecidableEq

/-- `SagaStepId(activity_id.value)`. -/
def ActivityId.stepId (activityId : ActivityId) : SagaStepId :=
  ⟨activityId.value, isBlank_of_canonical activityId.canonical⟩

/-- `ActivityId(step_id.value)`. -/
def SagaStepId.activityId (stepId : SagaStepId) : Except ScheduleError ActivityId :=
  if h : isCanonicalIdentity stepId.value = true then .ok ⟨stepId.value, h⟩
  else .error .malformedActivityId

/-- The step identities of a plan, in plan order. -/
def ActivityPlan.stepIds (plan : ActivityPlan) : List SagaStepId :=
  plan.activities.map (·.activityId.stepId)

/-- `set(values) == set(others)`. -/
def sameMembers {α : Type} [DecidableEq α] (values others : List α) : Bool :=
  values.all (fun value => decide (value ∈ others)) &&
    others.all (fun value => decide (value ∈ values))

/-- `_validate_evidence(evidence, evidence_ids)`. -/
def validateEvidence (evidence : SagaState) (evidenceIds : List SagaStepId) :
    Except ScheduleEvidenceError Unit :=
  if ¬ evidence.completionOrder.Nodup then .error .repeatedCompletion
  else if ¬ evidence.failedSteps.Nodup then .error .repeatedFailure
  else if ¬ ∀ stepId ∈ evidence.completionOrder, stepId ∈ evidenceIds then
    .error .unknownCompletion
  else if ¬ ∀ stepId ∈ evidence.failedSteps, stepId ∈ evidenceIds then
    .error .unknownFailure
  else if sameMembers evidence.completionOrder
      ((evidence.steps.filter fun value => value.status.isCompleted).map (·.stepId)) =
        false then
    .error .completionMismatch
  else if sameMembers evidence.failedSteps
      ((evidence.steps.filter fun value => value.status = .failed).map (·.stepId)) =
        false then
    .error .failureMismatch
  else .ok ()

/-- The checks of `derive_schedule` on the two identity sets. -/
def validateIdentities (plan : ActivityPlan) (evidenceIds : List SagaStepId) :
    Except ScheduleEvidenceError Unit :=
  if ¬ evidenceIds.Nodup then .error .repeatedIdentity
  else if sameMembers plan.stepIds evidenceIds = false then
    .error (.identityMismatch
      (sorted ((plan.stepIds.filter (· ∉ evidenceIds)).map (·.value)))
      (sorted ((evidenceIds.filter (· ∉ plan.stepIds)).map (·.value))))
  else .ok ()

/-- `status_by_id`. -/
def statusById :
    List SagaStepState → Except ScheduleError (List (ActivityId × SagaStepStatus))
  | [] => .ok []
  | value :: values => do
      let activityId ← value.stepId.activityId
      let table ← statusById values
      return (activityId, value.status) :: table

/-- Reading `status_by_id`.  Once the identity checks have passed, every key read
is in the table (`statusById_lookup`), so the default is never taken. -/
def statusIn (table : List (ActivityId × SagaStepStatus)) (activityId : ActivityId) :
    SagaStepStatus :=
  match table.find? (fun entry => decide (entry.1 = activityId)) with
  | some entry => entry.2
  | none => .pending

/-! ## Blocked activities -/

def isBlocked (blocked : List BlockedActivity) (activityId : ActivityId) : Bool :=
  blocked.any fun value => value.activity.activityId = activityId

/-- The statuses of a predecessor that will never succeed again. -/
def SagaStepStatus.failsSuccessors : SagaStepStatus → Bool
  | .failed | .compensated | .compensationFailed => true
  | .pending | .running | .succeeded | .compensating => false

section Blocking

variable (statusOf : ActivityId → SagaStepStatus)

def failedPredecessors (activity : PlannedActivity) : List ActivityId :=
  activity.predecessors.filter fun p => (statusOf p).failsSuccessors

def blockedPredecessors (blocked : List BlockedActivity) (activity : PlannedActivity) :
    List ActivityId :=
  activity.predecessors.filter fun p => isBlocked blocked p

/-- What one visit of the blocking loop adds for an activity. -/
def newlyBlocked (blocked : List BlockedActivity) (activity : PlannedActivity) :
    Option BlockedActivity :=
  if statusOf activity.activityId ≠ .pending ∨
      isBlocked blocked activity.activityId = true then
    none
  else if failedPredecessors statusOf activity ≠ [] then
    some ⟨activity, .failedPredecessor, failedPredecessors statusOf activity⟩
  else if blockedPredecessors blocked activity ≠ [] then
    some ⟨activity, .blockedPredecessor, blockedPredecessors blocked activity⟩
  else none

/-- One visit: `changed` and the blocked table. -/
def blockStep (found : Bool × List BlockedActivity) (activity : PlannedActivity) :
    Bool × List BlockedActivity :=
  match newlyBlocked statusOf found.2 activity with
  | some value => (true, found.2 ++ [value])
  | none => found

/-- One round of `while changed`. -/
def blockPass (activities : List PlannedActivity) (blocked : List BlockedActivity) :
    Bool × List BlockedActivity :=
  activities.foldl (blockStep statusOf) (false, blocked)

/-- The pending review activities. -/
def reviewBlocked (activities : List PlannedActivity) : List BlockedActivity :=
  (activities.filter fun activity =>
      statusOf activity.activityId = .pending ∧ activity.operation.isReviewChange).map
    fun activity => ⟨activity, .reviewRequired, []⟩

/-- The blocked table when the blocking loop ends. -/
def structurallyBlocked (activities : List PlannedActivity) : List BlockedActivity :=
  repeatUntilStable (blockPass statusOf activities) (activities.length + 1)
    (reviewBlocked statusOf activities)

end Blocking

/-- `_global_block_reason(status, review_required)`. -/
def globalBlockReason (status : SagaStatus) (reviewRequired : Bool) :
    Option BlockReason :=
  if reviewRequired then some .planReviewRequired
  else
    match status with
    | .failed => some .sagaFailed
    | .cancelled => some .sagaCancelled
    | .compensating => some .sagaCompensating
    | .compensated => some .sagaCompensated
    | .partiallyCompensated => some .sagaCompensationFailed
    | .active | .succeeded => none

/-- The saga-wide blocks of the pending activities left. -/
def globallyBlocked (statusOf : ActivityId → SagaStepStatus) (status : SagaStatus)
    (activities : List PlannedActivity) (blocked : List BlockedActivity) :
    List BlockedActivity :=
  match globalBlockReason status (activities.any (·.operation.isReviewChange)) with
  | some reason =>
      (activities.filter fun activity =>
          statusOf activity.activityId = .pending ∧
            isBlocked blocked activity.activityId = false).map
        fun activity => ⟨activity, reason, []⟩
  | none => []

/-- `_derive_blocked(plan, evidence, status_by_id)`, in plan order. -/
def deriveBlocked (plan : ActivityPlan) (status : SagaStatus)
    (statusOf : ActivityId → SagaStepStatus) : List BlockedActivity :=
  let structural := structurallyBlocked statusOf plan.activities
  let blocked :=
    structural ++ globallyBlocked statusOf status plan.activities structural
  plan.activities.filterMap fun activity =>
    blocked.find? fun value => decide (value.activity.activityId = activity.activityId)

/-! ## The schedule -/

/-- The saga statuses in which compensation may be scheduled. -/
def SagaStatus.schedulesCompensation : SagaStatus → Bool
  | .failed | .cancelled | .compensating | .partiallyCompensated => true
  | .active | .succeeded | .compensated => false

/-- `plan_by_step[step_id]`. -/
def ActivityPlan.byStep (plan : ActivityPlan) (stepId : SagaStepId) :
    Except ScheduleError PlannedActivity :=
  match plan.activities.find?
      (fun activity => decide (activity.activityId.stepId = stepId)) with
  | some activity => .ok activity
  | none => .error (.keyError stepId)

/-- `compensation_ready`. -/
def deriveCompensationReady (plan : ActivityPlan) (evidence : SagaState)
    (status : SagaStatus) (idle : Bool) : Except ScheduleError (List PlannedActivity) :=
  if idle ∧ status.schedulesCompensation then do
    let candidates ← (compensationCandidates evidence).mapError .state
    candidates.mapM plan.byStep
  else .ok []

/-- The activities with one status, in plan order. -/
def ActivityPlan.withStatus (plan : ActivityPlan)
    (statusOf : ActivityId → SagaStepStatus) (wanted : SagaStepStatus) :
    List PlannedActivity :=
  plan.activities.filter fun activity => statusOf activity.activityId = wanted

/-- All predecessors of a pending activity have succeeded. -/
def predecessorsSucceeded (statusOf : ActivityId → SagaStepStatus)
    (activity : PlannedActivity) : Bool :=
  activity.predecessors.all fun p => statusOf p = .succeeded

/-- Sort the plan's activities by status, given the blocked ones. -/
def buildSchedule (plan : ActivityPlan) (statusOf : ActivityId → SagaStepStatus)
    (blocked : List BlockedActivity) (compensationReady : List PlannedActivity) :
    ExecutionSchedule :=
  let pending := (plan.withStatus statusOf .pending).filter fun activity =>
    isBlocked blocked activity.activityId = false
  { ready := pending.filter fun activity => predecessorsSucceeded statusOf activity
    running := plan.withStatus statusOf .running
    waiting := pending.filter fun activity => !predecessorsSucceeded statusOf activity
    blocked := blocked
    succeeded := plan.withStatus statusOf .succeeded
    failed := plan.withStatus statusOf .failed
    compensating := plan.withStatus statusOf .compensating
    compensated := plan.withStatus statusOf .compensated
    compensationFailed := plan.withStatus statusOf .compensationFailed
    compensationReady := compensationReady }

/-- `derive_schedule(plan, evidence)`. -/
def deriveSchedule (plan : ActivityPlan) (evidence : SagaState) :
    Except ScheduleError ExecutionSchedule := do
  (validateIdentities plan evidence.ids).mapError .evidence
  (validateEvidence evidence evidence.ids).mapError .evidence
  let table ← statusById evidence.steps
  let statusOf := statusIn table
  let status ← evidence.status.mapError .state
  let idle := (plan.withStatus statusOf .running).isEmpty &&
    (plan.withStatus statusOf .compensating).isEmpty
  let compensationReady ← deriveCompensationReady plan evidence status idle
  return buildSchedule plan statusOf
    (deriveBlocked plan status statusOf) compensationReady

end ControlPlaneKit.Planning
