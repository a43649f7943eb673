import ControlPlaneKit.Operations.EffectAttempt
import ControlPlaneKit.Planning.PlanCodec
import ControlPlaneKit.Topology.Material

/-!
# Compensation — the programs that compensate a failed run

A program pins the failed run by its lineage, lists the effects that succeeded, the
last one first, and has one step for each of them.  Programs are written as closed
descriptors and read back through their constructors; the operation of a step has the
descriptor the plan codec gives it.
-/

namespace ControlPlaneKit.Operations.Compensation

open ControlPlaneKit.Library (PyDict PyError PyValue)
open ControlPlaneKit.Library.Text (isCanonicalIdentity)
open ControlPlaneKit.Planning
  (ActivityOperation CompensationMaterialSource PlanCodecError
  decodeOperation encodeOperation getValue materialSources)

/-- `InvalidFailedRunCompensationContract`, or an exception that is neither a
`TypeError` nor a `ValueError`. -/
inductive CompensationError where
  | invalidContract (message : String)
  | uncaught (message : String)
  deriving DecidableEq, Repr

def requireContract (condition : Bool) (message : String) :
    Except CompensationError Unit :=
  if condition then .ok () else .error (.invalidContract message)

/-- `except (TypeError, ValueError) as error: raise` the contract error of this
message. -/
def caughtAs {α : Type} (message : String) (x : Except CompensationError α) :
    Except CompensationError α :=
  x.mapError fun error => match error with
    | .invalidContract _ => .invalidContract message
    | .uncaught escaped => .uncaught escaped

/-! ## Primitive values -/

/-- `_closed_mapping(value, keys, name)`. -/
def closedMapping (value : PyValue) (keys : List String) (name : String) :
    Except CompensationError PyDict :=
  match value with
  | .dict entries =>
      if entries.all (fun entry => keys.contains entry.1) &&
          keys.all (fun key => (entries.map (·.1)).contains key) then .ok entries
      else .error (.invalidContract (name ++ " shape is invalid"))
  | _ => .error (.invalidContract (name ++ " shape is invalid"))

/-- A text that passes a check, with the fact that it does. -/
def requireAccepted (accepts : String → Bool) (value : PyValue) (name : String) :
    Except CompensationError {text : String // accepts text = true} :=
  match value with
  | .str text =>
      if h : accepts text = true then .ok ⟨text, h⟩
      else .error (.invalidContract (name ++ " is invalid"))
  | _ => .error (.invalidContract (name ++ " is invalid"))

/-- `_require_identifier(value, name)`, with the text it accepts. -/
def requireIdentifier (value : PyValue) (name : String) :
    Except CompensationError {text : String // isCanonicalIdentity text = true} :=
  requireAccepted isCanonicalIdentity value name

/-- `_require_fingerprint(value, name)`, with the text it accepts. -/
def requireFingerprint (value : PyValue) (name : String) :
    Except CompensationError {text : String // isSha256Fingerprint text = true} :=
  requireAccepted isSha256Fingerprint value name

/-- An integer, and no boolean, from `least` on. -/
def requireInteger (least : Nat) (value : PyValue) (message : String) :
    Except CompensationError {n : Nat // least ≤ n} :=
  match value with
  | .int (.ofNat n) =>
      if h : least ≤ n then .ok ⟨n, h⟩ else .error (.invalidContract message)
  | _ => .error (.invalidContract message)

/-- A list, and no tuple. -/
def requireList (value : PyValue) (name : String) :
    Except CompensationError (List PyValue) :=
  match value with
  | .list items => .ok items
  | _ => .error (.invalidContract (name ++ " must be a list"))

/-! ## Lineage -/

/-- `FailedRunCompensationLineage`. -/
structure FailedRunCompensationLineage where
  workspaceId : String
  requestId : String
  runId : String
  planId : String
  currentGraphId : String
  desiredGraphId : String
  desiredGraphRevision : Nat
  executionIntentFingerprint : String
  workspace_valid : isCanonicalIdentity workspaceId = true
  request_valid : isCanonicalIdentity requestId = true
  run_canonical : isCanonicalIdentity runId = true
  plan_valid : isCanonicalIdentity planId = true
  current_valid : isCanonicalIdentity currentGraphId = true
  desired_valid : isCanonicalIdentity desiredGraphId = true
  intent_valid : isSha256Fingerprint executionIntentFingerprint = true

def FailedRunCompensationLineage.descriptor
    (lineage : FailedRunCompensationLineage) : PyValue :=
  .dict [
    ("workspace_id", .str lineage.workspaceId),
    ("request_id", .str lineage.requestId),
    ("run_id", .str lineage.runId),
    ("plan_id", .str lineage.planId),
    ("current_graph_id", .str lineage.currentGraphId),
    ("desired_graph_id", .str lineage.desiredGraphId),
    ("desired_graph_revision", .int lineage.desiredGraphRevision),
    ("execution_intent_fingerprint", .str lineage.executionIntentFingerprint)]

def lineageKeys : List String :=
  ["workspace_id", "request_id", "run_id", "plan_id", "current_graph_id",
    "desired_graph_id", "desired_graph_revision", "execution_intent_fingerprint"]

/-- The constructor, on the values of a descriptor. -/
def FailedRunCompensationLineage.ofEntries (value : PyDict) :
    Except CompensationError FailedRunCompensationLineage := do
  let runId ← requireIdentifier (getValue value "run_id") "run id"
  let workspaceId ← requireIdentifier (getValue value "workspace_id") "workspace_id"
  let requestId ← requireIdentifier (getValue value "request_id") "request_id"
  let planId ← requireIdentifier (getValue value "plan_id") "plan_id"
  let currentGraphId ← requireIdentifier
    (getValue value "current_graph_id") "current_graph_id"
  let desiredGraphId ← requireIdentifier
    (getValue value "desired_graph_id") "desired_graph_id"
  let revision ← requireInteger 0 (getValue value "desired_graph_revision")
    "desired_graph_revision must be non-negative"
  let intent ← requireFingerprint (getValue value "execution_intent_fingerprint")
    "execution_intent_fingerprint"
  return ⟨workspaceId.1, requestId.1, runId.1, planId.1, currentGraphId.1,
    desiredGraphId.1, revision.1, intent.1, workspaceId.2, requestId.2, runId.2,
    planId.2, currentGraphId.2, desiredGraphId.2, intent.2⟩

/-- `FailedRunCompensationLineage.from_descriptor(descriptor)`. -/
def FailedRunCompensationLineage.fromDescriptor (descriptor : PyValue) :
    Except CompensationError FailedRunCompensationLineage := do
  let value ← closedMapping descriptor lineageKeys "lineage"
  caughtAs "lineage is invalid" (FailedRunCompensationLineage.ofEntries value)

/-! ## Effects -/

/-- `SuccessfulEffectEvidence`. -/
structure SuccessfulEffectEvidence where
  attemptIdentity : EffectAttemptIdentity
  requestFingerprint : String
  outcomeFingerprint : String
  completionEventId : String
  completionOrdinal : Nat
  request_valid : isSha256Fingerprint requestFingerprint = true
  outcome_valid : isSha256Fingerprint outcomeFingerprint = true
  event_valid : isCanonicalIdentity completionEventId = true
  positive : 1 ≤ completionOrdinal

instance : DecidableEq SuccessfulEffectEvidence := fun a b =>
  decidable_of_iff
    (a.attemptIdentity = b.attemptIdentity ∧
      a.requestFingerprint = b.requestFingerprint ∧
      a.outcomeFingerprint = b.outcomeFingerprint ∧
      a.completionEventId = b.completionEventId ∧
      a.completionOrdinal = b.completionOrdinal)
    ⟨by cases a; cases b; simp_all, by rintro rfl; simp⟩

def identityDescriptor (identity : EffectAttemptIdentity) : PyValue :=
  .dict [
    ("run_id", .str identity.runId),
    ("activity_id", .str identity.activityId),
    ("attempt", .int identity.attempt)]

def SuccessfulEffectEvidence.descriptor (effect : SuccessfulEffectEvidence) : PyValue :=
  .dict [
    ("attempt_identity", identityDescriptor effect.attemptIdentity),
    ("request_fingerprint", .str effect.requestFingerprint),
    ("outcome_fingerprint", .str effect.outcomeFingerprint),
    ("completion_event_id", .str effect.completionEventId),
    ("completion_ordinal", .int effect.completionOrdinal)]

/-- `EffectAttemptIdentity(...)`, on the values of a descriptor. -/
def identityOfEntries (identity : PyDict) :
    Except CompensationError EffectAttemptIdentity := do
  let runId ← requireIdentifier (getValue identity "run_id") "run id"
  let activityId ← requireIdentifier (getValue identity "activity_id") "activity_id"
  let attempt ← requireInteger 1
    (getValue identity "attempt") "attempt must be an integer"
  if h : attempt.1 ≤ maxEffectAttempt then
    return ⟨runId.1, activityId.1, attempt.1, runId.2, activityId.2, attempt.2, h⟩
  else .error (.invalidContract "attempt must be an integer")

/-- The constructor, on the values of a descriptor. -/
def SuccessfulEffectEvidence.ofEntries (value identity : PyDict) :
    Except CompensationError SuccessfulEffectEvidence := do
  let attemptIdentity ← identityOfEntries identity
  let request ← requireFingerprint
    (getValue value "request_fingerprint") "request_fingerprint"
  let outcome ← requireFingerprint
    (getValue value "outcome_fingerprint") "outcome_fingerprint"
  let event ← requireIdentifier
    (getValue value "completion_event_id") "completion_event_id"
  let ordinal ← requireInteger 1 (getValue value "completion_ordinal")
    "completion_ordinal must be positive"
  return ⟨attemptIdentity, request.1, outcome.1, event.1, ordinal.1, request.2,
    outcome.2, event.2, ordinal.2⟩

def effectKeys : List String :=
  ["attempt_identity", "request_fingerprint", "outcome_fingerprint",
    "completion_event_id", "completion_ordinal"]

def identityKeys : List String := ["run_id", "activity_id", "attempt"]

/-- `SuccessfulEffectEvidence.from_descriptor(descriptor)`. -/
def SuccessfulEffectEvidence.fromDescriptor (descriptor : PyValue) :
    Except CompensationError SuccessfulEffectEvidence := do
  let value ← closedMapping descriptor effectKeys "successful effect"
  let identity ← closedMapping
    (getValue value "attempt_identity") identityKeys "attempt identity"
  caughtAs "successful effect is invalid"
    (SuccessfulEffectEvidence.ofEntries value identity)

/-! ## Evidence -/

inductive FailedRunCompensationReason where
  | postEffectFailure
  deriving DecidableEq, Repr

def FailedRunCompensationReason.value : FailedRunCompensationReason → String
  | .postEffectFailure => "post-effect-failure"

/-- `FailedRunCompensationReason(value)`. -/
def reasonOf : PyValue → Except CompensationError FailedRunCompensationReason
  | .str "post-effect-failure" => .ok .postEffectFailure
  | _ => .error (.invalidContract "reason is invalid")

/-- `tuple(sorted(ordinals, reverse=True))`. -/
def sortedReverse (ordinals : List Nat) : List Nat := ordinals.insertionSort (· ≥ ·)

/-- What the evidence asks of its effects. -/
def checkEffects (runId : String) (effects : List SuccessfulEffectEvidence) :
    Except CompensationError Unit := do
  requireContract (!effects.isEmpty) "successful_effects must be a non-empty tuple"
  requireContract (effects.all fun effect => effect.attemptIdentity.runId = runId)
    "successful effects must belong to the failed run"
  let ordinals := effects.map (·.completionOrdinal)
  requireContract (ordinals = sortedReverse ordinals && decide ordinals.Nodup)
    "successful effects must be in reverse completion order"
  requireContract (decide (effects.map (·.attemptIdentity)).Nodup)
    "successful effect identities must be unique"

/-- `FailedRunCompensationEvidence`. -/
structure FailedRunCompensationEvidence where
  lineage : FailedRunCompensationLineage
  reason : FailedRunCompensationReason
  sourceFailureFingerprint : String
  successfulEffects : List SuccessfulEffectEvidence
  source_valid : isSha256Fingerprint sourceFailureFingerprint = true
  effects_valid : checkEffects lineage.runId successfulEffects = .ok ()

def FailedRunCompensationEvidence.descriptor
    (evidence : FailedRunCompensationEvidence) : PyValue :=
  .dict [
    ("lineage", evidence.lineage.descriptor),
    ("reason", .str evidence.reason.value),
    ("source_failure_fingerprint", .str evidence.sourceFailureFingerprint),
    ("successful_effects",
      .list (evidence.successfulEffects.map SuccessfulEffectEvidence.descriptor))]

def evidenceKeys : List String :=
  ["lineage", "reason", "source_failure_fingerprint", "successful_effects"]

/-- The constructor, on its arguments. -/
def FailedRunCompensationEvidence.make (lineage : FailedRunCompensationLineage)
    (reason : FailedRunCompensationReason) (source : PyValue)
    (effects : List SuccessfulEffectEvidence) :
    Except CompensationError FailedRunCompensationEvidence := do
  let source ← requireFingerprint source "source_failure_fingerprint"
  match h : checkEffects lineage.runId effects with
  | .ok () => .ok ⟨lineage, reason, source.1, effects, source.2, h⟩
  | .error e => .error e

/-- `FailedRunCompensationEvidence.from_descriptor(descriptor)`. -/
def FailedRunCompensationEvidence.fromDescriptor (descriptor : PyValue) :
    Except CompensationError FailedRunCompensationEvidence := do
  let value ← closedMapping descriptor evidenceKeys "evidence"
  let effects ← requireList (getValue value "successful_effects") "successful_effects"
  caughtAs "evidence is invalid" do
    let lineage ← FailedRunCompensationLineage.fromDescriptor (getValue value "lineage")
    let reason ← reasonOf (getValue value "reason")
    let effects ← effects.mapM SuccessfulEffectEvidence.fromDescriptor
    FailedRunCompensationEvidence.make lineage reason
      (getValue value "source_failure_fingerprint") effects

/-! ## Steps -/

/-- `FailedRunCompensationStep`. -/
structure FailedRunCompensationStep where
  position : Nat
  sourceEffect : SuccessfulEffectEvidence
  operation : ActivityOperation
  materialSource : CompensationMaterialSource
  positive : 1 ≤ position

def FailedRunCompensationStep.descriptor (step : FailedRunCompensationStep) : PyValue :=
  .dict [
    ("position", .int step.position),
    ("source_effect", step.sourceEffect.descriptor),
    ("operation", encodeOperation step.operation),
    ("material_source", .str step.materialSource.value)]

def stepKeys : List String :=
  ["position", "source_effect", "operation", "material_source"]

/-- `CompensationMaterialSource(value)`. -/
def materialSourceOf : PyValue → Except CompensationError CompensationMaterialSource
  | .str "base-graph" => .ok .baseGraph
  | .str "desired-graph" => .ok .desiredGraph
  | _ => .error (.invalidContract "material_source is invalid")

/-- An error of the plan codec is a `ValueError`, but for its `RuntimeError`. -/
def ofCodecError : PlanCodecError → CompensationError
  | .runtimeError message => .uncaught message
  | error => .invalidContract error.message

section Decoding

variable (repr : PyValue → String)

/-- `activity_operation_from_descriptor(descriptor)`, which asks the descriptor for a
key before anything else. -/
def operationFromDescriptor : PyValue → Except CompensationError ActivityOperation
  | .dict entries => (decodeOperation repr entries).mapError ofCodecError
  | _ => .error (.uncaught "object has no attribute 'get'")

/-- `FailedRunCompensationStep.from_descriptor(descriptor)`. -/
def FailedRunCompensationStep.fromDescriptor (descriptor : PyValue) :
    Except CompensationError FailedRunCompensationStep := do
  let value ← closedMapping descriptor stepKeys "step"
  caughtAs "step is invalid" do
    let sourceEffect ← SuccessfulEffectEvidence.fromDescriptor
      (getValue value "source_effect")
    let operation ← operationFromDescriptor repr (getValue value "operation")
    let materialSource ← materialSourceOf (getValue value "material_source")
    let position ← requireInteger 1
      (getValue value "position") "position must be positive"
    return ⟨position.1, sourceEffect, operation, materialSource, position.2⟩

end Decoding

/-! ## Programs -/

/-- `FAILED_RUN_COMPENSATION_SCHEMA`. -/
def failedRunCompensationSchema : String := "cpk.failed-run-compensation-program"

/-- `FAILED_RUN_COMPENSATION_VERSION`. -/
def failedRunCompensationVersion : Int := 1

/-- What a program asks of its steps. -/
def checkSteps (evidence : FailedRunCompensationEvidence)
    (steps : List FailedRunCompensationStep) : Except CompensationError Unit := do
  requireContract (!steps.isEmpty) "steps must be non-empty"
  requireContract (steps.map (·.position) = List.range' 1 steps.length)
    "step positions must be contiguous"
  requireContract (steps.map (·.sourceEffect) = evidence.successfulEffects)
    "steps must exactly cover successful effects"

/-- `FailedRunCompensationProgram`. -/
structure FailedRunCompensationProgram where
  programId : String
  evidence : FailedRunCompensationEvidence
  steps : List FailedRunCompensationStep
  program_valid : isCanonicalIdentity programId = true
  steps_valid : checkSteps evidence steps = .ok ()

namespace FailedRunCompensationProgram

def descriptor (program : FailedRunCompensationProgram) : PyValue :=
  .dict [
    ("schema", .str failedRunCompensationSchema),
    ("version", .int failedRunCompensationVersion),
    ("program_id", .str program.programId),
    ("evidence", program.evidence.descriptor),
    ("steps", .list (program.steps.map FailedRunCompensationStep.descriptor))]

/-- `program.fingerprint()`, of the canonical text, which an integer that is too long
has not. -/
def fingerprint (program : FailedRunCompensationProgram) : Except PyError String :=
  (PyValue.dumps .compact program.descriptor).map fun text =>
    Topology.sha256Hexdigest (String.ofList text)

def programKeys : List String :=
  ["schema", "version", "program_id", "evidence", "steps"]

/-- The constructor, on its arguments. -/
def make (programId : PyValue) (evidence : FailedRunCompensationEvidence)
    (steps : List FailedRunCompensationStep) :
    Except CompensationError FailedRunCompensationProgram := do
  let programId ← requireIdentifier programId "program_id"
  match h : checkSteps evidence steps with
  | .ok () => .ok ⟨programId.1, evidence, steps, programId.2, h⟩
  | .error e => .error e

/-- `FailedRunCompensationProgram.from_descriptor(descriptor)`. -/
def fromDescriptor (repr : PyValue → String) (descriptor : PyValue) :
    Except CompensationError FailedRunCompensationProgram := do
  let value ← closedMapping descriptor programKeys "program"
  requireContract
    (PyValue.pyEq (getValue value "schema") (.str failedRunCompensationSchema) &&
      PyValue.pyEq (getValue value "version") (.int failedRunCompensationVersion))
    "program schema or version is invalid"
  let steps ← requireList (getValue value "steps") "steps"
  caughtAs "program is invalid" do
    let evidence ← FailedRunCompensationEvidence.fromDescriptor
      (getValue value "evidence")
    let steps ← steps.mapM (FailedRunCompensationStep.fromDescriptor repr)
    make (getValue value "program_id") evidence steps

end FailedRunCompensationProgram

end ControlPlaneKit.Operations.Compensation
