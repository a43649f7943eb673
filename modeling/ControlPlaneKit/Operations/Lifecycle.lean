import ControlPlaneKit.Library.PyValue
import ControlPlaneKit.Operations.Authority
import ControlPlaneKit.Operations.Tables

/-!
# Lifecycle — the run lifecycle command service

One command is one transaction: it replays the action recorded under its
idempotency key, or moves the run along one edge, appending one event and one
session action.  Values drawn from outside (the clocks, fresh identities) come
with the command, and so does the digest of intents.
-/

namespace ControlPlaneKit.Operations

open ControlPlaneKit.Library (PyValue TextMap)
open ControlPlaneKit.Library.Text (isCanonicalIdentity)

/-! ## Commands -/

/-- The fields every command on a run has. -/
structure RunCommand where
  runId : String
  authority : ExecutionWorkerAuthority
  fence : ExecutionLeaseFence
  idempotencyKey : String
  runId_canonical : isCanonicalIdentity runId = true
  fence_valid : fence.Valid
  agrees : authority.workerId = fence.workerId

inductive LifecycleCommand where
  | claimAndOpen (requestId : String) (authority : ExecutionWorkerAuthority)
      (leaseDuration : Nat) (idempotencyKey : String)
  | start (target : RunCommand)
  | pause (target : RunCommand) (evidence : BoundedEvidence)
  | resume (target : RunCommand)
  | complete (target : RunCommand) (evidence : BoundedEvidence)
  | fail (target : RunCommand) (failure : FailureEvidence)
  | cancel (target : RunCommand) (evidence : BoundedEvidence)

def LifecycleCommand.authority : LifecycleCommand → ExecutionWorkerAuthority
  | .claimAndOpen _ authority _ _ => authority
  | .start target | .pause target _ | .resume target | .complete target _
  | .fail target _
  | .cancel target _ => target.authority

def LifecycleCommand.idempotencyKey : LifecycleCommand → String
  | .claimAndOpen _ _ _ key => key
  | .start target | .pause target _ | .resume target | .complete target _
  | .fail target _
  | .cancel target _ => target.idempotencyKey

/-! ## Intents -/

def jsonText (value : String) : String := String.ofList (PyValue.quoted value)

/-- What a command on a run adds to the entries of `_run_intent`. -/
inductive IntentDetail where
  | plain
  | evidence (evidence : BoundedEvidence)
  | failure (failure : FailureEvidence)
  deriving DecidableEq, Repr

/-- The mapping `_fingerprint` makes of a command. -/
inductive LifecycleIntent where
  | claim (requestId workerId : String) (leaseDuration : Nat)
  | run (kind : LifecycleOperationKind) (runId : String) (fence : ExecutionLeaseFence)
      (detail : IntentDetail)
  deriving DecidableEq, Repr

/-- `_run_intent(command, kind)`; worker and fence agree. -/
def runIntent (target : RunCommand) (kind : LifecycleOperationKind)
    (detail : IntentDetail) : LifecycleIntent :=
  .run kind target.runId target.fence detail

def LifecycleCommand.described : LifecycleCommand → LifecycleIntent
  | .claimAndOpen requestId authority leaseDuration _ =>
      .claim requestId authority.workerId leaseDuration
  | .start target => runIntent target .startRun .plain
  | .pause target evidence => runIntent target .pauseRun (.evidence evidence)
  | .resume target => runIntent target .resumeRun .plain
  | .complete target evidence => runIntent target .completeRun (.evidence evidence)
  | .fail target failure => runIntent target .failRun (.failure failure)
  | .cancel target evidence => runIntent target .cancelRun (.evidence evidence)

/-- The entry of a detail, between `command` and `run_id` in key order. -/
def IntentDetail.json : IntentDetail → String
  | .plain => ""
  | .evidence given => ",\"evidence\":" ++ given.canonicalJson
  | .failure given =>
      ",\"failure\":\x7b\"category\":" ++ jsonText given.category.value ++
        ",\"code\":" ++ jsonText given.code ++
        ",\"details\":" ++ given.details.canonicalJson ++
        ",\"message\":" ++ jsonText given.message ++ "\x7d"

/-- `json.dumps(value, sort_keys=True, separators=(",", ":"))`. -/
def LifecycleIntent.json : LifecycleIntent → String
  | .claim requestId workerId leaseDuration =>
      "\x7b\"command\":" ++ jsonText LifecycleOperationKind.claimRun.value ++
        ",\"lease_duration_seconds\":" ++ toString leaseDuration ++
        ",\"request_id\":" ++ jsonText requestId ++
        ",\"worker_id\":" ++ jsonText workerId ++ "\x7d"
  | .run kind runId fence detail =>
      "\x7b\"claim_generation\":" ++ toString fence.generation ++
        ",\"command\":" ++ jsonText kind.value ++ detail.json ++
        ",\"run_id\":" ++ jsonText runId ++
        ",\"worker_id\":" ++ jsonText fence.workerId ++ "\x7d"

/-! ## Transitions -/

/-- The arguments `execute` gives `_transition`. -/
structure Transition where
  actionType : LifecycleOperationKind
  expected : List ActivityRunStatus
  replacement : ActivityRunStatus
  eventKind : ActivityEventKind
  started : Bool := false
  settled : Bool := false
  evidence : BoundedEvidence := {}
  failure : Option FailureEvidence := none

def startTransition : Transition where
  actionType := .startRun
  expected := [.claimed]
  replacement := .running
  eventKind := .runStarted
  started := true

def pauseTransition (evidence : BoundedEvidence) : Transition where
  actionType := .pauseRun
  expected := [.running]
  replacement := .paused
  eventKind := .runPaused
  evidence := evidence

def resumeTransition : Transition where
  actionType := .resumeRun
  expected := [.paused]
  replacement := .running
  eventKind := .runResumed

def completeTransition (evidence : BoundedEvidence) : Transition where
  actionType := .completeRun
  expected := [.running]
  replacement := .succeeded
  eventKind := .runSucceeded
  settled := true
  evidence := evidence

def failTransition (failure : FailureEvidence) : Transition where
  actionType := .failRun
  expected := [.running, .paused]
  replacement := .failed
  eventKind := .runFailed
  failure := some failure

def cancelTransition (evidence : BoundedEvidence) : Transition where
  actionType := .cancelRun
  expected := [.claimed, .paused]
  replacement := .cancelled
  eventKind := .runCancelled
  started := true
  settled := true
  evidence := evidence

/-! ## Writing the tables -/

namespace Stores

variable (stores : Stores)

/-- `add_event`: the identity is the key, and ordinals are unique in a run. -/
def addEvent (event : ActivityEventRecord) : Except ServiceError Stores := do
  requireThat
    (!stores.events.any fun other => other.eventId = event.eventId ||
      (other.runId = event.runId && other.ordinal = event.ordinal))
    (.integrity "cpk_activity_events")
  return { stores with events := stores.events ++ [event] }

/-- `add_action`: the identity is the key; ordinals and idempotency keys are
unique in a session. -/
def addAction (action : OperationActionRecord) : Except ServiceError Stores := do
  requireThat
    (!stores.actions.any fun other => other.actionId = action.actionId ||
      (other.sessionId = action.sessionId &&
        (other.ordinal = action.ordinal ||
          (other.idempotencyKey.isSome &&
            other.idempotencyKey = action.idempotencyKey))))
    (.integrity "cpk_operation_actions")
  return { stores with actions := stores.actions ++ [action] }

/-- `WHERE status = ANY (claimed, running, paused, compensating)`. -/
def isActive : ActivityRunStatus → Bool
  | .claimed | .running | .paused | .compensating => true
  | _ => false

/-- `add_run`: one active run and one run of an attempt in a request. -/
def addRun (run : ActivityRunRecord) : Except ServiceError Stores := do
  requireThat
    (stores.runs[run.runId]?.isNone &&
      !(stores.runsForRequest run.requestId).any fun other =>
        other.attempt = run.attempt || (isActive other.status && isActive run.status))
    (.integrity "cpk_activity_runs")
  return { stores with runs := stores.runs.insert run.runId run }

/-- `claim_request`, or nothing when the request is not queued. -/
def claimRequest (requestId workerId : String) (leaseDuration : Nat)
    (observedAt : Timestamp) : Option (ExecutionRequestRecord × Stores) :=
  match stores.requests[requestId]? with
  | none => none
  | some current =>
      if current.status = .queued then
        let claimed : ExecutionRequestRecord :=
          { identity := current.identity
            status := .claimed
            claim :=
              some ⟨workerId, 1, observedAt, observedAt + leaseDuration * 1000000⟩
            claimedExactly := by simp }
        some (claimed, { stores with
          requests := stores.requests.insert requestId claimed })
      else none

/-- The row after the `UPDATE`. -/
def movedRun (run : ActivityRunRecord) (replacement : ActivityRunStatus)
    (startedAt settledAt : Option Timestamp)
    (timing : RunTiming replacement (startedAt.or run.startedAt)
      (run.settledAt.or settledAt)) : ActivityRunRecord :=
  { run with
    status := replacement
    startedAt := startedAt.or run.startedAt
    settledAt := run.settledAt.or settledAt
    timing := timing }

/-- `compare_and_set_run_status`: nothing when the row is not as expected, an
error when the new row breaks the timing law. -/
def compareAndSetRunStatus (runId : String) (expected replacement : ActivityRunStatus)
    (startedAt settledAt : Option Timestamp) :
    Except ServiceError (Option (ActivityRunRecord × Stores)) :=
  match stores.runs[runId]? with
  | none => .ok none
  | some run =>
      if run.status = expected ∧ run.settledAt = none then
        if timing : RunTiming replacement (startedAt.or run.startedAt)
            (run.settledAt.or settledAt) then
          let row := movedRun run replacement startedAt settledAt timing
          .ok (some (row, { stores with runs := stores.runs.insert runId row }))
        else .error (.integrity "cpk_activity_runs")
      else .ok none

/-- The loop over the expected statuses. -/
def compareAndSetAny (runId : String) (replacement : ActivityRunStatus)
    (startedAt settledAt : Option Timestamp) :
    List ActivityRunStatus → Except ServiceError (Option (ActivityRunRecord × Stores))
  | [] => .ok none
  | expected :: rest => do
      match ← stores.compareAndSetRunStatus runId expected replacement startedAt
          settledAt with
      | some transitioned => return some transitioned
      | none => compareAndSetAny runId replacement startedAt settledAt rest

end Stores

/-! ## Payloads and replay -/

/-- Values a command draws from outside: the service's clock, the database's, and
the identities the factory hands out. -/
structure Draws where
  now : Timestamp
  observedAt : Timestamp
  runId : String
  eventId : String
  actionId : String

structure RunLifecycleResult where
  request : ExecutionRequestRecord
  run : ActivityRunRecord
  event : ActivityEventRecord
  action : OperationActionRecord
  replayed : Bool := false

/-- `_payload(request, run, event)`. -/
def lifecyclePayload (request : ExecutionRequestRecord) (run : ActivityRunRecord)
    (event : ActivityEventRecord) : List (String × PayloadValue) :=
  [ ("execution_request_id", .text request.identity.requestId)
  , ("plan_id", .text request.identity.planId)
  , ("run_id", .text run.runId)
  , ("run_status", .text run.status.value)
  , ("event_id", .text event.eventId)
  , ("event_type", .text event.kind.value)
  , ("event_ordinal", .number event.ordinal) ] ++
  (match request.claim with
    | none => []
    | some claim => [("claim_generation", .number claim.generation)])

def payloadText (payload : List (String × PayloadValue)) (key : String) :
    Except ServiceError String :=
  match payload.lookup key with
  | some (.text value) =>
      if value = "" then .error (.base ("lifecycle action payload lacks " ++ key))
      else .ok value
  | _ => .error (.base ("lifecycle action payload lacks " ++ key))

def payloadPositiveInteger (payload : List (String × PayloadValue)) (key : String) :
    Except ServiceError Nat :=
  match payload.lookup key with
  | some (.number value) =>
      if value < 1 then .error (.base ("lifecycle action payload lacks valid " ++ key))
      else .ok value
  | _ => .error (.base ("lifecycle action payload lacks valid " ++ key))

def payloadRunId (payload : List (String × PayloadValue)) :
    Except ServiceError String :=
  match payload.lookup "run_id" with
  | some (.text value) =>
      if isCanonicalIdentity value then .ok value
      else .error (.base "lifecycle action run identity is malformed")
  | _ => .error (.base "lifecycle action run identity is malformed")

/-- `_lifecycle_result_for_action`. -/
def lifecycleResultForAction :
    LifecycleOperationKind ⊕ String →
    Except ServiceError (ActivityRunStatus × ActivityEventKind)
  | .inl .claimRun => .ok (.claimed, .runOpened)
  | .inl .startRun => .ok (.running, .runStarted)
  | .inl .pauseRun => .ok (.paused, .runPaused)
  | .inl .resumeRun => .ok (.running, .runResumed)
  | .inl .completeRun => .ok (.succeeded, .runSucceeded)
  | .inl .failRun => .ok (.failed, .runFailed)
  | .inl .cancelRun => .ok (.cancelled, .runCancelled)
  | _ => .error (.base "lifecycle action type is incongruent")

/-- A claim replays while its worker still holds the generation it recorded. -/
def requireActiveClaim (request : ExecutionRequestRecord)
    (action : OperationActionRecord) : Except ServiceError Unit :=
  if action.actionType = .inl .claimRun then do
    let generation ← payloadPositiveInteger action.payload "claim_generation"
    requireThat
      (request.status = .claimed &&
        request.claim.any fun claim =>
          claim.workerId = action.actorId && claim.generation = generation)
      (.conflict "claim replay no longer has active authority")
  else .ok ()

def incongruent : ServiceError :=
  .base "lifecycle action run/event evidence is incongruent"

/-- What a command on a run gives its replay: the locked run, the type of its
action and its fence. -/
structure ReplayGuard where
  run : ActivityRunRecord
  actionType : LifecycleOperationKind
  fence : ExecutionLeaseFence

def missingEvidence : ServiceError :=
  .base "lifecycle action is missing run/event evidence"

/-- `locked_run if locked_run is not None else stores.execution.get_run(run_id)`. -/
def replayedRun (stores : Stores) (runId : String) :
    Option ReplayGuard → Except ServiceError ActivityRunRecord
  | some expected => .ok expected.run
  | none => found stores.runs[runId]? missingEvidence

/-- The evidence of the action against the rows it names. -/
def requireCongruent (request : ExecutionRequestRecord) (action : OperationActionRecord)
    (run : ActivityRunRecord) (event : ActivityEventRecord) (runId : String)
    (expected : Option ReplayGuard) : Except ServiceError Unit := do
  let recorded ← lifecycleResultForAction action.actionType
  requireThat (action.sessionId = request.identity.sessionId) incongruent
  let requestId ← payloadText action.payload "execution_request_id"
  requireThat (requestId = request.identity.requestId) incongruent
  let planId ← payloadText action.payload "plan_id"
  requireThat
    (planId = request.identity.planId && run.planId = request.identity.planId &&
    run.runId = runId) incongruent
  let status ← payloadText action.payload "run_status"
  requireThat (status = recorded.1.value) incongruent
  requireThat (expected.all fun given =>
    action.actorId = given.fence.workerId && action.actionType = .inl given.actionType)
    incongruent
  requireThat (run.requestId = request.identity.requestId && event.runId = run.runId &&
    event.kind = recorded.2) incongruent
  let eventType ← payloadText action.payload "event_type"
  requireThat (eventType = event.kind.value) incongruent
  let ordinal ← payloadPositiveInteger action.payload "event_ordinal"
  requireThat (ordinal = event.ordinal) incongruent

def requireGeneration (action : OperationActionRecord) :
    Option ReplayGuard → Except ServiceError Unit
  | none => .ok ()
  | some expected => do
      let generation ← payloadPositiveInteger action.payload "claim_generation"
      requireThat (generation = expected.fence.generation)
        (.base "lifecycle action generation evidence is incongruent")

/-- `_replay`. -/
def replay (stores : Stores) (request : ExecutionRequestRecord)
    (action : OperationActionRecord) (fingerprint : String)
    (expected : Option ReplayGuard) : Except ServiceError RunLifecycleResult := do
  requireThat (action.intentFingerprint = some fingerprint)
    (.idempotencyConflict "idempotency key was reused with different lifecycle intent")
  requireActiveClaim request action
  let runId ← payloadRunId action.payload
  let eventId ← payloadText action.payload "event_id"
  let run ← replayedRun stores runId expected
  let event ← found (stores.getEvent eventId) missingEvidence
  requireCongruent request action run event runId expected
  requireGeneration action expected
  return ⟨request, run, event, action, true⟩

/-! ## The service -/

/-- `_require_worker_owns`. -/
def requireWorkerOwns (request : ExecutionRequestRecord)
    (authority : ExecutionWorkerAuthority) (fence : ExecutionLeaseFence) :
    Except ServiceError Unit :=
  requireThat
    (request.status = .claimed &&
      request.claim.any (fun claim => claim.fence = fence) &&
      authority.workerId = fence.workerId)
    (.denied "worker does not own the execution request claim")

def requireOpenSession (stores : Stores) (sessionId : String) :
    Except ServiceError Unit := do
  let status ← found stores.sessions[sessionId]?
    (.notFound "operation session was not found")
  requireThat (status = .opened) (.conflict "run lifecycle requires an open session")

def requestNotFound : ServiceError := .notFound "execution request was not found"

def runNotFound : ServiceError := .notFound "activity run was not found"

section Service

variable (digest : String → String) (draws : Draws)

/-- The event and the action of a newly accepted command. -/
def record (stores : Stores) (request : ExecutionRequestRecord)
    (run : ActivityRunRecord) (eventKind : ActivityEventKind)
    (actionType : LifecycleOperationKind) (now : Timestamp) (evidence : BoundedEvidence)
    (failure : Option FailureEvidence) (authority : ExecutionWorkerAuthority)
    (idempotencyKey fingerprint : String) :
    Except ServiceError (RunLifecycleResult × Stores) := do
  validateText draws.eventId "event_id"
  let event : ActivityEventRecord :=
    { eventId := draws.eventId
      runId := run.runId
      ordinal := stores.nextEventOrdinal run.runId
      kind := eventKind
      occurredAt := now
      activityId := none
      evidence := evidence
      failure := failure
      recovery := none }
  let stores ← stores.addEvent event
  validateText draws.actionId "action_id"
  validateText authority.workerId "actor_id"
  validateText idempotencyKey "idempotency_key"
  let action : OperationActionRecord :=
    { actionId := draws.actionId
      sessionId := request.identity.sessionId
      ordinal := stores.nextActionOrdinal request.identity.sessionId
      actionType := .inl actionType
      actorId := authority.workerId
      payload := lifecyclePayload request run event
      createdAt := now
      idempotencyKey := some idempotencyKey
      intentFingerprint := some fingerprint }
  let stores ← stores.addAction action
  return (⟨request, run, event, action, false⟩, stores)

/-- The run `_claim` opens. -/
def openedRun (request : ExecutionRequestRecord) (now : Timestamp) :
    ActivityRunRecord where
  runId := draws.runId
  planId := request.identity.planId
  requestId := request.identity.requestId
  attempt := 1
  priorRunId := none
  status := .claimed
  createdAt := now
  startedAt := none
  settledAt := none
  metadata := ⟨"\x7b\"attempt\":1\x7d"⟩
  timing := ⟨by simp, by simp [ActivityRunStatus.isSettled]⟩
  lineage := ⟨le_rfl, by simp, by simp⟩

/-- `_claim(command)`. -/
def claim (requestId : String) (authority : ExecutionWorkerAuthority)
    (leaseDuration : Nat) (idempotencyKey fingerprint : String) (stores : Stores) :
    Except ServiceError (RunLifecycleResult × Stores) := do
  let request ← found stores.requests[requestId]? requestNotFound
  match stores.actionForIdempotency request.identity.sessionId idempotencyKey with
  | some existing => do
      let result ← replay stores request existing fingerprint none
      return (result, stores)
  | none => do
      requireOpenSession stores request.identity.sessionId
      requireThat (request.status = .queued && request.claim.isNone)
        (.conflict "execution request is not claimable")
      requireThat (stores.runsForRequest requestId).isEmpty
        (.conflict "execution request already has a run")
      requireThat (isCanonicalIdentity draws.runId)
        (.base "generated run identity is malformed")
      let (claimed, stores) ← found
        (stores.claimRequest requestId authority.workerId leaseDuration
          draws.observedAt)
        (.conflict "execution request is not claimable")
      validateText authority.workerId "worker_id"
      let run := openedRun draws claimed draws.observedAt
      let stores ← stores.addRun run
      record draws stores claimed run .runOpened .claimRun draws.observedAt
        ⟨"\x7b\"attempt\":1\x7d"⟩ none authority idempotencyKey fingerprint

/-- `_transition(command, ...)`. -/
def transition (target : RunCommand) (spec : Transition) (fingerprint : String)
    (stores : Stores) : Except ServiceError (RunLifecycleResult × Stores) := do
  let run ← found stores.runs[target.runId]? runNotFound
  let request ← found stores.requests[run.requestId]? requestNotFound
  match stores.actionForIdempotency request.identity.sessionId
      target.idempotencyKey with
  | some existing => do
      requireThat (existing.intentFingerprint = some fingerprint)
        (.idempotencyConflict
          "idempotency key was reused with different lifecycle intent")
      requireWorkerOwns request target.authority target.fence
      let result ← replay stores request existing fingerprint
        (some ⟨run, spec.actionType, target.fence⟩)
      return (result, stores)
  | none => do
      requireOpenSession stores request.identity.sessionId
      requireWorkerOwns request target.authority target.fence
      let outcome ← stores.compareAndSetAny run.runId spec.replacement
        (if spec.started && run.startedAt.isNone then some draws.now else none)
        (if spec.settled then some draws.now else none) spec.expected
      let (transitioned, stores) ← found outcome
        (.conflict "activity run state rejected transition")
      record draws stores request transitioned spec.eventKind spec.actionType draws.now
        spec.evidence spec.failure target.authority target.idempotencyKey fingerprint

/-- `RunLifecycleCommandService.execute(command)`. -/
def executeLifecycle (command : LifecycleCommand) (stores : Stores) :
    Except ServiceError (RunLifecycleResult × Stores) := do
  requireThat (PolicyScope.executionOperate ∈ command.authority.scopes)
    (.denied "scope execution:operate is missing")
  let fingerprint := digest command.described.json
  match command with
  | .claimAndOpen requestId authority leaseDuration key =>
      claim draws requestId authority leaseDuration key fingerprint stores
  | .start target => transition draws target startTransition fingerprint stores
  | .pause target evidence =>
      transition draws target (pauseTransition evidence) fingerprint stores
  | .resume target => transition draws target resumeTransition fingerprint stores
  | .complete target evidence =>
      transition draws target (completeTransition evidence) fingerprint stores
  | .fail target failure =>
      transition draws target (failTransition failure) fingerprint stores
  | .cancel target evidence =>
      transition draws target (cancelTransition evidence) fingerprint stores

end Service

end ControlPlaneKit.Operations
