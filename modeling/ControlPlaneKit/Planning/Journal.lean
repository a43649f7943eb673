import ControlPlaneKit.Planning.Schedule
import Mathlib.Data.List.AList
import Mathlib.Data.List.Dedup

/-!
# Journal — projecting the activity journal

The canonical journal records attempts; `project_activity_journal` folds it into
saga events and, beside them, into tables of the attempts in flight and of the
attempts whose outcome is unknown.  The saga state is folded separately, once
the journal has been read.
-/

namespace ControlPlaneKit.Planning

open ControlPlaneKit.Library.Text (isBlank isCanonicalIdentity)
open ControlPlaneKit.Library.Ordering (sortedBy)

/-! ## Journal events -/

/-- Closed pure event vocabulary projected into saga evidence. -/
inductive ActivityJournalEventKind where
  | stepStarted
  | stepSucceeded
  | stepFailed
  | stepUnsupported
  | stepUncertain
  | stepUncertaintyResolvedSucceeded
  | stepUncertaintyResolvedFailed
  | stepUncertaintyAbandoned
  | runCompensationStarted
  | stepCompensationStarted
  | stepCompensationSucceeded
  | stepCompensationFailed
  | stepCompensationUnsupported
  | stepCompensationUncertain
  | stepCompensationUncertaintyResolvedSucceeded
  | stepCompensationUncertaintyResolvedFailed
  | stepCompensationUncertaintyAbandoned
  deriving DecidableEq

/-- One bounded event from a canonical activity journal.  Its constructor checks
a given `activity_id` as `SagaStepId` does, so that identity is a step identity
here. -/
structure ActivityJournalEvent where
  eventId : String
  runId : String
  ordinal : Nat
  kind : ActivityJournalEventKind
  activityId : Option SagaStepId
  eventId_nonempty : isBlank eventId = false
  runId_canonical : isCanonicalIdentity runId = true
  ordinal_pos : 1 ≤ ordinal

/-- The fields the constructor is given. -/
def ActivityJournalEvent.given (event : ActivityJournalEvent) :
    String × String × Nat × ActivityJournalEventKind × Option SagaStepId :=
  (event.eventId, event.runId, event.ordinal, event.kind, event.activityId)

theorem ActivityJournalEvent.ext_given {a b : ActivityJournalEvent}
    (h : a.given = b.given) : a = b := by
  cases a; cases b; cases h; rfl

instance : DecidableEq ActivityJournalEvent := fun a b =>
  decidable_of_iff (a.given = b.given)
    ⟨ActivityJournalEvent.ext_given, congrArg ActivityJournalEvent.given⟩

inductive SagaJournalError where
  | ordinals
  | mixedRuns
  | foreignStep (stepId : SagaStepId)
  | successResolution
  | failureResolution
  | abandonment
  | compensationSuccessResolution
  | compensationFailureResolution
  | compensationAbandonment
  deriving DecidableEq

/-- The text of the error; `repr` is the host's `repr` of a text. -/
def SagaJournalError.message (repr : String → String) : SagaJournalError → String
  | .ordinals => "activity journal ordinals must be unique and increasing"
  | .mixedRuns => "activity journal cannot mix run identities"
  | .foreignStep stepId =>
      "activity event references foreign step " ++ repr stepId.value
  | .successResolution => "success resolution requires prior uncertain evidence"
  | .failureResolution => "failure resolution requires prior uncertain evidence"
  | .abandonment => "abandonment requires prior uncertain evidence"
  | .compensationSuccessResolution =>
      "compensation success resolution requires prior uncertain evidence"
  | .compensationFailureResolution =>
      "compensation failure resolution requires prior uncertain evidence"
  | .compensationAbandonment =>
      "compensation abandonment requires prior uncertain evidence"

/-! ## The fold -/

/-- A `dict` from step identity to the event recorded for it. -/
abbrev EventTable := AList fun _ : SagaStepId => ActivityJournalEvent

/-- The local variables of the loop. -/
structure JournalFold where
  sagaEvents : List SagaEvent
  uncertainByStep : EventTable
  eventByStep : EventTable
  compensationUncertainByStep : EventTable
  compensationEventByStep : EventTable
  startedSteps : List SagaStepId

def JournalFold.empty : JournalFold := ⟨[], ∅, ∅, ∅, ∅, []⟩

def JournalFold.emit (fold : JournalFold) (events : List SagaEvent) : JournalFold :=
  { fold with sagaEvents := fold.sagaEvents ++ events }

/-- `if event.activity_id not in table: raise`. -/
def requireUncertain (table : EventTable) (stepId : SagaStepId)
    (error : SagaJournalError) : Except SagaJournalError Unit :=
  if stepId ∈ table then .ok () else .error error

/-- The `match event.kind` of the loop. -/
def foldStep (fold : JournalFold) (event : ActivityJournalEvent) (stepId : SagaStepId) :
    Except SagaJournalError JournalFold :=
  match event.kind with
  | .stepStarted => .ok { fold.emit [.stepStarted stepId] with
      eventByStep := fold.eventByStep.insert stepId event
      startedSteps := stepId :: fold.startedSteps }
  | .stepSucceeded => .ok { fold.emit [.stepSucceeded stepId] with
      eventByStep := fold.eventByStep.erase stepId }
  | .stepFailed => .ok { fold.emit [.stepFailed stepId] with
      eventByStep := fold.eventByStep.erase stepId }
  | .stepUnsupported => .ok
      { fold.emit (if stepId ∈ fold.startedSteps then [.stepFailed stepId]
          else [.stepStarted stepId, .stepFailed stepId]) with
        eventByStep := fold.eventByStep.erase stepId }
  | .stepUncertain => .ok { fold with
      uncertainByStep := fold.uncertainByStep.insert stepId event
      eventByStep := fold.eventByStep.erase stepId }
  | .stepUncertaintyResolvedSucceeded => do
      requireUncertain fold.uncertainByStep stepId .successResolution
      return { fold.emit [.stepSucceeded stepId] with
        uncertainByStep := fold.uncertainByStep.erase stepId }
  | .stepUncertaintyResolvedFailed => do
      requireUncertain fold.uncertainByStep stepId .failureResolution
      return { fold.emit [.stepFailed stepId] with
        uncertainByStep := fold.uncertainByStep.erase stepId }
  | .stepUncertaintyAbandoned => do
      requireUncertain fold.uncertainByStep stepId .abandonment
      return { fold.emit [.stepFailed stepId] with
        uncertainByStep := fold.uncertainByStep.erase stepId }
  | .stepCompensationStarted => .ok { fold.emit [.compensationStarted stepId] with
      compensationEventByStep := fold.compensationEventByStep.insert stepId event }
  | .stepCompensationSucceeded => .ok { fold.emit [.compensationSucceeded stepId] with
      compensationEventByStep := fold.compensationEventByStep.erase stepId }
  | .stepCompensationFailed => .ok { fold.emit [.compensationFailed stepId] with
      compensationEventByStep := fold.compensationEventByStep.erase stepId }
  | .stepCompensationUnsupported => .ok
      -- unlike the forward half, which asks `started_steps`
      { fold.emit (if stepId ∈ fold.compensationEventByStep then
          [.compensationFailed stepId]
          else [.compensationStarted stepId, .compensationFailed stepId]) with
        compensationEventByStep := fold.compensationEventByStep.erase stepId }
  | .stepCompensationUncertain => .ok { fold with
      compensationUncertainByStep :=
        fold.compensationUncertainByStep.insert stepId event
      compensationEventByStep := fold.compensationEventByStep.erase stepId }
  | .stepCompensationUncertaintyResolvedSucceeded => do
      requireUncertain fold.compensationUncertainByStep stepId
        .compensationSuccessResolution
      return { fold.emit [.compensationSucceeded stepId] with
        compensationUncertainByStep := fold.compensationUncertainByStep.erase stepId }
  | .stepCompensationUncertaintyResolvedFailed => do
      requireUncertain fold.compensationUncertainByStep stepId
        .compensationFailureResolution
      return { fold.emit [.compensationFailed stepId] with
        compensationUncertainByStep := fold.compensationUncertainByStep.erase stepId }
  | .stepCompensationUncertaintyAbandoned => do
      requireUncertain fold.compensationUncertainByStep stepId .compensationAbandonment
      return { fold.emit [.compensationFailed stepId] with
        compensationUncertainByStep := fold.compensationUncertainByStep.erase stepId }
  -- taken before the `match`
  | .runCompensationStarted => .ok fold

/-- One turn of the loop over the journal. -/
def foldEvent (planIds : List SagaStepId) (fold : JournalFold)
    (event : ActivityJournalEvent) : Except SagaJournalError JournalFold :=
  match event.activityId with
  | none =>
      if event.kind = .runCompensationStarted then
        .ok (fold.emit [.compensationRequested])
      else .ok fold
  | some stepId =>
      if stepId ∉ planIds then .error (.foreignStep stepId)
      else if event.kind = .runCompensationStarted then
        .ok (fold.emit [.compensationRequested])
      else foldStep fold event stepId

/-! ## The projection -/

/-- Pure saga state plus operational conditions requiring coordination. -/
structure SagaJournalProjection where
  state : SagaState
  inFlight : List ActivityJournalEvent
  uncertain : List ActivityJournalEvent
  compensationInFlight : List ActivityJournalEvent
  compensationUncertain : List ActivityJournalEvent
  deriving DecidableEq

/-- What projecting a journal can raise. -/
inductive JournalError where
  | journal (error : SagaJournalError)
  | state (error : SagaStateError)
  deriving DecidableEq

/-- The checks on the journal as a whole. -/
def validateJournal (events : List ActivityJournalEvent) :
    Except SagaJournalError Unit :=
  let ordinals := events.map (·.ordinal)
  if ordinals ≠ ordinals.insertionSort (· ≤ ·) ∨
      ordinals.dedup.length ≠ events.length then
    .error .ordinals
  else if 1 < (events.map (·.runId)).dedup.length then .error .mixedRuns
  else .ok ()

/-- `table[key] for key in sorted(keys) if key in table`. -/
def eventsFor (table : EventTable) (keys : List SagaStepId) :
    List ActivityJournalEvent :=
  (sortedBy (fun stepId => [stepId.value]) keys).filterMap table.lookup

/-- `{value.step_id.value for value in state.steps if value.status is RUNNING}`. -/
def runningIds (state : SagaState) : List SagaStepId :=
  ((state.steps.filter fun value => value.status = .running).map (·.stepId)).dedup

def projectFold (fold : JournalFold) (state : SagaState) : SagaJournalProjection where
  state := state
  inFlight := eventsFor fold.eventByStep (runningIds state)
  uncertain := eventsFor fold.uncertainByStep fold.uncertainByStep.keys
  compensationInFlight :=
    eventsFor fold.compensationEventByStep fold.compensationEventByStep.keys
  compensationUncertain :=
    eventsFor fold.compensationUncertainByStep fold.compensationUncertainByStep.keys

/-- `project_activity_journal(plan, events)`. -/
def projectActivityJournal (plan : ActivityPlan) (events : List ActivityJournalEvent) :
    Except JournalError SagaJournalProjection := do
  (validateJournal events).mapError .journal
  let fold ← (events.foldlM (foldEvent plan.stepIds) .empty).mapError .journal
  let state ←
    (evolveAll (SagaState.initialForPlan plan) fold.sagaEvents).mapError .state
  return projectFold fold state

end ControlPlaneKit.Planning
