import ControlPlaneKit.Library.KeyedMap
import ControlPlaneKit.Library.Text
import Mathlib.Algebra.Group.Nat.Defs

/-!
# Records — the durable rows of an execution request and its runs

An execution request is claimed by one worker under a fence; its runs carry a
status and the times it implies; events and session actions are appended.  A
timestamp is an instant in microseconds, and bounded evidence is its canonical
JSON text, as in the source.
-/

namespace ControlPlaneKit.Operations

/-- Instants, in the order of the database's clock. -/
abbrev Timestamp := Nat

/-- The text `_validate_text` lets into a record. -/
def validText (value : String) : Bool :=
  value ≠ "" && value.length ≤ 512 && value.toList.all fun character =>
    32 ≤ character.toNat

/-! ## Closed vocabularies -/

inductive ExecutionRequestStatus where
  | queued
  | claimed
  | cancelled
  | abandoned
  deriving DecidableEq, Repr

/-- Where a run stands. -/
inductive ActivityRunStatus where
  | claimed
  | running
  | paused
  | succeeded
  | failed
  | compensating
  | compensated
  | partiallyFailed
  | uncompensatedFailure
  | cancelled
  deriving DecidableEq, Repr

def ActivityRunStatus.value : ActivityRunStatus → String
  | .claimed => "claimed"
  | .running => "running"
  | .paused => "paused"
  | .succeeded => "succeeded"
  | .failed => "failed"
  | .compensating => "compensating"
  | .compensated => "compensated"
  | .partiallyFailed => "partially_failed"
  | .uncompensatedFailure => "uncompensated_failure"
  | .cancelled => "cancelled"

/-- `_SETTLED_RUN_STATUSES`. -/
def ActivityRunStatus.isSettled : ActivityRunStatus → Bool
  | .succeeded | .compensated | .partiallyFailed | .uncompensatedFailure
  | .cancelled => true
  | _ => false

/-- What an event tells of a run or a step. -/
inductive ActivityEventKind where
  | requestAdmitted
  | requestClaimed
  | requestClaimRenewed
  | requestClaimTakenOver
  | requestClaimAbandoned
  | runOpened
  | runStarted
  | runPaused
  | runResumed
  | stepStarted
  | stepSucceeded
  | stepFailed
  | stepUnsupported
  | stepUncertain
  | stepUncertaintyResolvedSucceeded
  | stepUncertaintyResolvedFailed
  | stepUncertaintyAbandoned
  | stepCompensationStarted
  | stepCompensationSucceeded
  | stepCompensationFailed
  | stepCompensationUnsupported
  | stepCompensationUncertain
  | stepCompensationUncertaintyResolvedSucceeded
  | stepCompensationUncertaintyResolvedFailed
  | stepCompensationUncertaintyAbandoned
  | recoveryDecisionRecorded
  | runCompensationStarted
  | runCompensationSucceeded
  | runCompensationFailed
  | runUncompensatedFailureAccepted
  | runSucceeded
  | runFailed
  | runCancelled
  | currentGraphAdvanced
  deriving DecidableEq, Repr

def ActivityEventKind.value : ActivityEventKind → String
  | .requestAdmitted => "request_admitted"
  | .requestClaimed => "request_claimed"
  | .requestClaimRenewed => "request_claim_renewed"
  | .requestClaimTakenOver => "request_claim_taken_over"
  | .requestClaimAbandoned => "request_claim_abandoned"
  | .runOpened => "run_opened"
  | .runStarted => "run_started"
  | .runPaused => "run_paused"
  | .runResumed => "run_resumed"
  | .stepStarted => "step_started"
  | .stepSucceeded => "step_succeeded"
  | .stepFailed => "step_failed"
  | .stepUnsupported => "step_unsupported"
  | .stepUncertain => "step_uncertain"
  | .stepUncertaintyResolvedSucceeded => "step_uncertainty_resolved_succeeded"
  | .stepUncertaintyResolvedFailed => "step_uncertainty_resolved_failed"
  | .stepUncertaintyAbandoned => "step_uncertainty_abandoned"
  | .stepCompensationStarted => "step_compensation_started"
  | .stepCompensationSucceeded => "step_compensation_succeeded"
  | .stepCompensationFailed => "step_compensation_failed"
  | .stepCompensationUnsupported => "step_compensation_unsupported"
  | .stepCompensationUncertain => "step_compensation_uncertain"
  | .stepCompensationUncertaintyResolvedSucceeded =>
      "step_compensation_uncertainty_resolved_succeeded"
  | .stepCompensationUncertaintyResolvedFailed =>
      "step_compensation_uncertainty_resolved_failed"
  | .stepCompensationUncertaintyAbandoned => "step_compensation_uncertainty_abandoned"
  | .recoveryDecisionRecorded => "recovery_decision_recorded"
  | .runCompensationStarted => "run_compensation_started"
  | .runCompensationSucceeded => "run_compensation_succeeded"
  | .runCompensationFailed => "run_compensation_failed"
  | .runUncompensatedFailureAccepted => "run_uncompensated_failure_accepted"
  | .runSucceeded => "run_succeeded"
  | .runFailed => "run_failed"
  | .runCancelled => "run_cancelled"
  | .currentGraphAdvanced => "current_graph_advanced"

/-- Why an activity failed. -/
inductive FailureCategory where
  | retryable
  | terminal
  | uncertain
  | operatorReview
  deriving DecidableEq, Repr

def FailureCategory.value : FailureCategory → String
  | .retryable => "retryable"
  | .terminal => "terminal"
  | .uncertain => "uncertain"
  | .operatorReview => "operator_review"

/-- What an operator decides about a run. -/
inductive RecoveryDecisionKind where
  | confirmEffectSucceeded
  | confirmEffectFailed
  | resumeSameIntent
  | retryAsNewRun
  | beginCompensation
  | acceptUncompensatedFailure
  | remainPaused
  | renewActiveClaim
  | renewExpiredClaim
  | takeOverExpiredClaim
  | abandonExpiredClaim
  deriving DecidableEq, Repr

def RecoveryDecisionKind.value : RecoveryDecisionKind → String
  | .confirmEffectSucceeded => "confirm-effect-succeeded"
  | .confirmEffectFailed => "confirm-effect-failed"
  | .resumeSameIntent => "resume-same-intent"
  | .retryAsNewRun => "retry-as-new-run"
  | .beginCompensation => "begin-compensation"
  | .acceptUncompensatedFailure => "accept-uncompensated-failure"
  | .remainPaused => "remain-paused"
  | .renewActiveClaim => "renew-active-claim"
  | .renewExpiredClaim => "renew-expired-claim"
  | .takeOverExpiredClaim => "take-over-expired-claim"
  | .abandonExpiredClaim => "abandon-expired-claim"

/-- The commands of a run's lifecycle. -/
inductive LifecycleOperationKind where
  | admitExecution
  | claimRun
  | startRun
  | pauseRun
  | resumeRun
  | completeRun
  | failRun
  | beginCompensation
  | completeCompensation
  | failCompensation
  | cancelRun
  | recordRecoveryDecision
  | advanceCurrentGraph
  deriving DecidableEq, Repr

def LifecycleOperationKind.value : LifecycleOperationKind → String
  | .admitExecution => "admit-execution"
  | .claimRun => "claim-run"
  | .startRun => "start-run"
  | .pauseRun => "pause-run"
  | .resumeRun => "resume-run"
  | .completeRun => "complete-run"
  | .failRun => "fail-run"
  | .beginCompensation => "begin-compensation"
  | .completeCompensation => "complete-compensation"
  | .failCompensation => "fail-compensation"
  | .cancelRun => "cancel-run"
  | .recordRecoveryDecision => "record-recovery-decision"
  | .advanceCurrentGraph => "advance-current-graph"

/-! ## Fences, claims and requests -/

/-- Worker identity plus the exact active request-claim generation. -/
structure ExecutionLeaseFence where
  workerId : String
  generation : Nat
  deriving DecidableEq, Repr

/-- The largest generation a claim may have. -/
def maxGeneration : Nat := 2 ^ 63 - 1

/-- What the constructor of a fence checks. -/
def ExecutionLeaseFence.Valid (fence : ExecutionLeaseFence) : Prop :=
  validText fence.workerId = true ∧ 1 ≤ fence.generation ∧
    fence.generation ≤ maxGeneration

instance (fence : ExecutionLeaseFence) : Decidable fence.Valid :=
  inferInstanceAs (Decidable (_ ∧ _ ∧ _))

/-- Who claimed a request, and how often it was claimed before. -/
structure ClaimIdentity where
  workerId : String
  generation : Nat
  claimedAt : Timestamp
  leaseExpiresAt : Timestamp
  deriving DecidableEq, Repr

/-- What a worker shows to act on its claim. -/
def ClaimIdentity.fence (claim : ClaimIdentity) : ExecutionLeaseFence :=
  ⟨claim.workerId, claim.generation⟩

/-- Stable ownership coordinates for one execution request. -/
structure ExecutionRequestIdentity where
  requestId : String
  workspaceId : String
  sessionId : String
  planId : String
  texts : validText requestId = true ∧ validText workspaceId = true ∧
    validText sessionId = true ∧ validText planId = true
  deriving DecidableEq, Repr

/-- `ExecutionRequestRecord`: a claim exactly while claimed. -/
structure ExecutionRequestRecord where
  identity : ExecutionRequestIdentity
  status : ExecutionRequestStatus
  claim : Option ClaimIdentity
  claimedExactly : claim.isSome = true ↔ status = .claimed

instance : DecidableEq ExecutionRequestRecord := fun a b =>
  decidable_of_iff (a.identity = b.identity ∧ a.status = b.status ∧ a.claim = b.claim)
    ⟨by cases a; cases b; simp_all, by rintro rfl; simp⟩

/-! ## Evidence -/

/-- `BoundedEvidence`, by its canonical JSON. -/
structure BoundedEvidence where
  canonicalJson : String := "\x7b\x7d"
  deriving DecidableEq, Repr

/-- What is kept of a failure. -/
structure FailureEvidence where
  category : FailureCategory
  code : String
  message : String
  details : BoundedEvidence
  deriving DecidableEq, Repr

/-- Bounded durable evidence for one accepted recovery decision. -/
structure ExecutionLeaseRecoveryEvidence where
  decisionKind : RecoveryDecisionKind
  retainedRunId : String
  priorFence : ExecutionLeaseFence
  replacementFence : Option ExecutionLeaseFence
  deriving DecidableEq, Repr

/-! ## Runs, events and actions -/

/-- `_validate_run_timing`, with the table's check that a cancelled run has
started too. -/
structure RunTiming (status : ActivityRunStatus)
    (startedAt settledAt : Option Timestamp) : Prop where
  started : startedAt.isSome = true ↔ status ≠ .claimed
  settled : settledAt.isSome = true ↔ status.isSettled = true

instance (status : ActivityRunStatus) (startedAt settledAt : Option Timestamp) :
    Decidable (RunTiming status startedAt settledAt) :=
  decidable_of_iff
    ((startedAt.isSome = true ↔ status ≠ .claimed) ∧
      (settledAt.isSome = true ↔ status.isSettled = true))
    ⟨fun h => ⟨h.1, h.2⟩, fun h => ⟨h.1, h.2⟩⟩

/-- `RetryIdentity`, against the run's own identity. -/
def RetryLineage (runId : String) (attempt : Nat) (priorRunId : Option String) : Prop :=
  1 ≤ attempt ∧ (attempt = 1 ↔ priorRunId = none) ∧ priorRunId ≠ some runId

instance (runId : String) (attempt : Nat) (priorRunId : Option String) :
    Decidable (RetryLineage runId attempt priorRunId) :=
  inferInstanceAs (Decidable (_ ∧ _ ∧ _))

/-- Current projection of one run over its authoritative event history. -/
structure ActivityRunRecord where
  runId : String
  planId : String
  requestId : String
  attempt : Nat
  priorRunId : Option String
  status : ActivityRunStatus
  createdAt : Timestamp
  startedAt : Option Timestamp
  settledAt : Option Timestamp
  metadata : BoundedEvidence
  timing : RunTiming status startedAt settledAt
  lineage : RetryLineage runId attempt priorRunId

instance : DecidableEq ActivityRunRecord := fun a b =>
  decidable_of_iff
    ((a.runId = b.runId ∧ a.planId = b.planId ∧ a.requestId = b.requestId ∧
        a.attempt = b.attempt ∧ a.priorRunId = b.priorRunId) ∧
      a.status = b.status ∧ a.createdAt = b.createdAt ∧ a.startedAt = b.startedAt ∧
        a.settledAt = b.settledAt ∧ a.metadata = b.metadata)
    ⟨by cases a; cases b; simp_all, by rintro rfl; simp⟩

/-- One ordered canonical event used for history reconstruction. -/
structure ActivityEventRecord where
  eventId : String
  runId : String
  ordinal : Nat
  kind : ActivityEventKind
  occurredAt : Timestamp
  activityId : Option String
  evidence : BoundedEvidence
  failure : Option FailureEvidence
  recovery : Option ExecutionLeaseRecoveryEvidence
  deriving DecidableEq, Repr

/-- A payload field: text or a number. -/
inductive PayloadValue where
  | text (value : String)
  | number (value : Nat)
  deriving DecidableEq, Repr

/-- One ordered action inside a session; other services' actions have their own
operator kinds. -/
structure OperationActionRecord where
  actionId : String
  sessionId : String
  ordinal : Nat
  actionType : LifecycleOperationKind ⊕ String
  actorId : String
  payload : List (String × PayloadValue)
  createdAt : Timestamp
  idempotencyKey : Option String
  intentFingerprint : Option String
  deriving DecidableEq, Repr

/-- Whether a session is open. -/
inductive OperationSessionStatus where
  | opened
  | closed
  | cancelled
  deriving DecidableEq, Repr

end ControlPlaneKit.Operations
