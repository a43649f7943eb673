import ControlPlaneKit.Planning.ActivityPlan
import ControlPlaneKit.Planning.SagaProgram

/-!
# Saga — the pure saga state machine

The projection reconstructed from a program and its events, the decider that
turns commands into events and the evolver that applies one event, with every
guard and every error of the source.  A table lookup that can raise `KeyError`
stays fallible here (`valueFor`), so `status` and `compensationCandidates` are
`Except`-valued; the evidence module shows when they cannot fail.
-/

namespace ControlPlaneKit.Planning

/-! ## Projection -/

inductive SagaStepStatus where
  | pending
  | running
  | succeeded
  | failed
  | compensating
  | compensated
  | compensationFailed
  deriving DecidableEq, Repr

def SagaStepStatus.value : SagaStepStatus → String
  | .pending => "pending"
  | .running => "running"
  | .succeeded => "succeeded"
  | .failed => "failed"
  | .compensating => "compensating"
  | .compensated => "compensated"
  | .compensationFailed => "compensation_failed"

inductive SagaStatus where
  | active
  | succeeded
  | failed
  | cancelled
  | compensating
  | compensated
  | partiallyCompensated
  deriving DecidableEq, Repr

def SagaStatus.value : SagaStatus → String
  | .active => "active"
  | .succeeded => "succeeded"
  | .failed => "failed"
  | .cancelled => "cancelled"
  | .compensating => "compensating"
  | .compensated => "compensated"
  | .partiallyCompensated => "partially_compensated"

structure SagaStepState where
  stepId : SagaStepId
  status : SagaStepStatus
  compensationAvailable : Bool
  deriving DecidableEq

/-- Projection reconstructed entirely from one program and its events. -/
structure SagaState where
  steps : List SagaStepState
  completionOrder : List SagaStepId
  failedSteps : List SagaStepId
  cancelled : Bool
  compensationRequested : Bool
  deriving DecidableEq

/-- What the saga functions raise: the `SagaStateError`s, and the `KeyError` of
a completion that no step entry backs. -/
inductive SagaStateError where
  | unknownStep (stepId : SagaStepId)
  | stepStatus (stepId : SagaStepId) (required actual : SagaStepStatus)
  | notActive (status : SagaStatus)
  | alreadyRequested
  | cannotCancel (status : SagaStatus)
  | cannotRequest (status : SagaStatus)
  | noCompletedWork
  | notReverseOrder
  | keyError (stepId : SagaStepId)
  deriving DecidableEq

/-- The text of the error; `repr` is the host's `repr` of a text. -/
def SagaStateError.message (repr : String → String) : SagaStateError → String
  | .unknownStep stepId => "unknown saga step " ++ repr stepId.value
  | .stepStatus stepId required actual =>
      "saga step " ++ repr stepId.value ++ " must be " ++ required.value ++ ", not " ++
        actual.value
  | .notActive status => "saga is not active: " ++ status.value
  | .alreadyRequested => "saga compensation already requested"
  | .cannotCancel status => "cannot cancel saga in " ++ status.value ++ " state"
  | .cannotRequest status => "cannot request compensation from " ++ status.value
  | .noCompletedWork => "compensation requires completed compensatable work"
  | .notReverseOrder => "compensation must follow reverse durable completion order"
  | .keyError stepId => "SagaStepId(value=" ++ repr stepId.value ++ ")"

namespace SagaState

/-- `step(step_id)`: the first entry of that identity. -/
def step (state : SagaState) (stepId : SagaStepId) :
    Except SagaStateError SagaStepState :=
  match state.steps.find? (fun value => decide (value.stepId = stepId)) with
  | some value => .ok value
  | none => .error (.unknownStep stepId)

/-- `{value.step_id: value for value in state.steps}[step_id]`: the last entry
of that identity. -/
def valueFor (state : SagaState) (stepId : SagaStepId) :
    Except SagaStateError SagaStepState :=
  match state.steps.reverse.find? (fun value => decide (value.stepId = stepId)) with
  | some value => .ok value
  | none => .error (.keyError stepId)

def hasStatus (state : SagaState) (status : SagaStepStatus) : Bool :=
  state.steps.any fun value => value.status = status

end SagaState

/-- Keep the compensatable succeeded steps of a list of identities. -/
def keepCandidates (state : SagaState) : List SagaStepId →
    Except SagaStateError (List SagaStepId)
  | [] => .ok []
  | stepId :: stepIds => do
      let stepState ← state.valueFor stepId
      let candidates ← keepCandidates state stepIds
      if stepState.compensationAvailable ∧ stepState.status = .succeeded then
        return stepId :: candidates
      else return candidates

/-- Completed compensatable steps in reverse durable completion order. -/
def compensationCandidates (state : SagaState) :
    Except SagaStateError (List SagaStepId) :=
  keepCandidates state state.completionOrder.reverse

namespace SagaState

/-- The last rules of `status`: nothing of the compensation half applies. -/
def forwardStatus (state : SagaState) : SagaStatus :=
  if state.failedSteps ≠ [] then .failed
  else if state.cancelled then .cancelled
  else if state.steps ≠ [] ∧ ∀ value ∈ state.steps,
    value.status = .succeeded then .succeeded
  else .active

/-- The rule for a failed or cancelled saga with nothing left to compensate. -/
def haltedStatus (state : SagaState) : Except SagaStateError SagaStatus :=
  if state.failedSteps ≠ [] ∨ state.cancelled then do
    let candidates ← compensationCandidates state
    if candidates = [] ∧ state.hasStatus .compensated then return .compensated
    else return state.forwardStatus
  else .ok state.forwardStatus

/-- The `status` property. -/
def status (state : SagaState) : Except SagaStateError SagaStatus :=
  if state.hasStatus .compensating then .ok .compensating
  else if state.hasStatus .compensationFailed then .ok .partiallyCompensated
  else if state.compensationRequested then do
    let candidates ← compensationCandidates state
    if candidates ≠ [] then return .compensating
    else if state.hasStatus .compensated then return .compensated
    else state.haltedStatus
  else state.haltedStatus

/-- `SagaState.initial_for_plan(plan)`; an activity identity is never blank. -/
def initialForPlan (plan : ActivityPlan) : SagaState where
  steps := plan.activities.map fun activity =>
    { stepId := ⟨activity.activityId.value,
        Library.Text.isBlank_of_canonical activity.activityId.canonical⟩
      status := .pending
      compensationAvailable := activity.compensation.isCompensate }
  completionOrder := []
  failedSteps := []
  cancelled := false
  compensationRequested := false

end SagaState

/-! ## Commands and events -/

inductive SagaCommand where
  | startStep (stepId : SagaStepId)
  | succeedStep (stepId : SagaStepId)
  | failStep (stepId : SagaStepId)
  | cancel
  | requestCompensation
  | beginCompensation (stepId : SagaStepId)
  | succeedCompensation (stepId : SagaStepId)
  | failCompensation (stepId : SagaStepId)
  deriving DecidableEq

inductive SagaEvent where
  | stepStarted (stepId : SagaStepId)
  | stepSucceeded (stepId : SagaStepId)
  | stepFailed (stepId : SagaStepId)
  | cancelled
  | compensationRequested
  | compensationStarted (stepId : SagaStepId)
  | compensationSucceeded (stepId : SagaStepId)
  | compensationFailed (stepId : SagaStepId)
  deriving DecidableEq

/-- `initial_state(program)`. -/
def initialState {Effect : Type} (program : SagaProgram Effect) :
    Except SagaProgramError SagaState := do
  let steps ← program.programSteps
  return {
    steps := steps.map fun value =>
      { stepId := value.stepId
        status := .pending
        compensationAvailable := value.compensation.isSome }
    completionOrder := []
    failedSteps := []
    cancelled := false
    compensationRequested := false }

/-! ## Guards -/

def requireStepStatus (state : SagaState) (stepId : SagaStepId)
    (status : SagaStepStatus) : Except SagaStateError Unit := do
  let actual ← state.step stepId
  if actual.status = status then return ()
  else .error (.stepStatus stepId status actual.status)

def requireActive (state : SagaState) : Except SagaStateError Unit := do
  let status ← state.status
  if status ≠ .active then .error (.notActive status)
  else if state.compensationRequested then .error .alreadyRequested
  else return ()

def requireCancellable (state : SagaState) : Except SagaStateError Unit := do
  let status ← state.status
  if status ≠ .active then .error (.cannotCancel status) else return ()

/-- The saga statuses from which compensation may be requested. -/
def SagaStatus.admitsRequest : SagaStatus → Bool
  | .active | .succeeded | .failed | .cancelled => true
  | _ => false

def requireCompensationAdmission (state : SagaState) : Except SagaStateError Unit := do
  if state.compensationRequested then .error .alreadyRequested
  else
    let status ← state.status
    if status.admitsRequest = false then .error (.cannotRequest status)
    else
      let candidates ← compensationCandidates state
      if candidates = [] then .error .noCompletedWork else return ()

/-- Only the current head of the candidates may begin compensating. -/
def requireNextCandidate (state : SagaState) (stepId : SagaStepId) :
    Except SagaStateError Unit := do
  let candidates ← compensationCandidates state
  if candidates.head? = some stepId then return () else .error .notReverseOrder

/-! ## Decide and evolve -/

/-- `decide(state, command)`: validate one transition and emit its facts. -/
def decideCommand (state : SagaState) :
    SagaCommand → Except SagaStateError (List SagaEvent)
  | .startStep stepId => do
      requireActive state
      requireStepStatus state stepId .pending
      return [.stepStarted stepId]
  | .succeedStep stepId => do
      requireStepStatus state stepId .running
      return [.stepSucceeded stepId]
  | .failStep stepId => do
      requireStepStatus state stepId .running
      return [.stepFailed stepId]
  | .cancel => do
      requireCancellable state
      return [.cancelled]
  | .requestCompensation => do
      requireCompensationAdmission state
      return [.compensationRequested]
  | .beginCompensation stepId => do
      requireNextCandidate state stepId
      return [.compensationStarted stepId]
  | .succeedCompensation stepId => do
      requireStepStatus state stepId .compensating
      return [.compensationSucceeded stepId]
  | .failCompensation stepId => do
      requireStepStatus state stepId .compensating
      return [.compensationFailed stepId]

/-- Every entry of the identity takes the new status. -/
def SagaState.setStatus (state : SagaState) (stepId : SagaStepId)
    (status : SagaStepStatus) : SagaState :=
  { state with
    steps := state.steps.map fun value =>
      if value.stepId = stepId then { value with status := status } else value }

/-- `_replace_step(state, step_id, status)`. -/
def replaceStep (state : SagaState) (stepId : SagaStepId) (status : SagaStepStatus) :
    Except SagaStateError SagaState := do
  let _ ← state.step stepId
  return state.setStatus stepId status

/-- `evolve(state, event)`: apply one event to a current projection. -/
def evolve (state : SagaState) : SagaEvent → Except SagaStateError SagaState
  | .stepStarted stepId => do
      requireActive state
      requireStepStatus state stepId .pending
      replaceStep state stepId .running
  | .stepSucceeded stepId => do
      requireStepStatus state stepId .running
      let changed ← replaceStep state stepId .succeeded
      return { changed with completionOrder := changed.completionOrder ++ [stepId] }
  | .stepFailed stepId => do
      requireStepStatus state stepId .running
      let changed ← replaceStep state stepId .failed
      return { changed with failedSteps := changed.failedSteps ++ [stepId] }
  | .cancelled => do
      requireCancellable state
      return { state with cancelled := true }
  | .compensationRequested => do
      requireCompensationAdmission state
      return { state with compensationRequested := true }
  | .compensationStarted stepId => do
      requireNextCandidate state stepId
      replaceStep state stepId .compensating
  | .compensationSucceeded stepId => do
      requireStepStatus state stepId .compensating
      replaceStep state stepId .compensated
  | .compensationFailed stepId => do
      requireStepStatus state stepId .compensating
      replaceStep state stepId .compensationFailed

def evolveAll (state : SagaState) (events : List SagaEvent) :
    Except SagaStateError SagaState :=
  events.foldlM evolve state

/-- What rebuilding a projection can raise. -/
inductive SagaError where
  | program (error : SagaProgramError)
  | state (error : SagaStateError)
  deriving DecidableEq

/-- `reconstruct(program, events)`. -/
def reconstruct {Effect : Type} (program : SagaProgram Effect)
    (events : List SagaEvent) : Except SagaError SagaState := do
  let state ← (initialState program).mapError .program
  (evolveAll state events).mapError .state

end ControlPlaneKit.Planning
