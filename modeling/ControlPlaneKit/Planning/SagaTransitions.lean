import ControlPlaneKit.Library.EventFold
import ControlPlaneKit.Planning.Saga

/-!
# SagaTransitions — what one accepted event does

On states whose step identities are distinct and whose completions are all
backed by a step entry (`Tabled`), none of the table lookups can fail, so the
fallible `status` and `compensationCandidates` are the pure `currentStatus` and
`candidates`.  There `evolve` splits into a guard (`Admits`) and a total effect
(`SagaState.after`): `evolve_eq_ok` is the one inversion lemma from which every
invariant of the saga is proved, and `after_statusOf` says what an event does to
each step.
-/

namespace ControlPlaneKit.Planning

open ControlPlaneKit.Library.EventFold

/-! ## Looking a step up -/

namespace SagaState

/-- The steps of a state, in its order. -/
def ids (state : SagaState) : List SagaStepId :=
  state.steps.map (·.stepId)

/-- The step of an identity, if it is one of the state's. -/
def step? (state : SagaState) (stepId : SagaStepId) : Option SagaStepState :=
  state.steps.find? fun value => decide (value.stepId = stepId)

/-- The status of a step, `none` for an unknown identity. -/
def statusOf (state : SagaState) (stepId : SagaStepId) : Option SagaStepStatus :=
  (state.step? stepId).map (·.status)

/-- Whether a step can be compensated. -/
def availableOf (state : SagaState) (stepId : SagaStepId) : Bool :=
  ((state.step? stepId).map (·.compensationAvailable)).getD false

/-- The candidates rule of `compensation_candidates` for one identity. -/
def isCandidate (state : SagaState) (stepId : SagaStepId) : Bool :=
  state.availableOf stepId && decide (state.statusOf stepId = some .succeeded)

/-- `compensation_candidates` where no lookup fails. -/
def candidates (state : SagaState) : List SagaStepId :=
  state.completionOrder.reverse.filter state.isCandidate

/-- `state.step(step_id)` finds the step or raises. -/
theorem step_eq_ok {state : SagaState} {stepId : SagaStepId} {value : SagaStepState} :
    state.step stepId = .ok value ↔ state.step? stepId = some value := by
  unfold step step?
  cases state.steps.find? (fun value => decide (value.stepId = stepId)) with
  | none => simp
  | some other => simp

theorem mem_ids {state : SagaState} {stepId : SagaStepId} :
    stepId ∈ state.ids ↔ ∃ value ∈ state.steps, value.stepId = stepId := by
  simp [ids]

theorem step?_some {state : SagaState} {stepId : SagaStepId} {value : SagaStepState}
    (h : state.step? stepId = some value) :
    value ∈ state.steps ∧ value.stepId = stepId :=
  ⟨List.mem_of_find?_eq_some h, by simpa using List.find?_some h⟩

/-- With distinct identities, an entry is the one its identity finds. -/
theorem step?_of_mem {state : SagaState} (hnd : state.ids.Nodup) {value : SagaStepState}
    (hmem : value ∈ state.steps) : state.step? value.stepId = some value := by
  cases hfind : state.step? value.stepId with
  | none =>
      have := List.find?_eq_none.mp hfind value hmem
      simp at this
  | some other =>
      obtain ⟨hother, hid⟩ := step?_some hfind
      rw [List.inj_on_of_nodup_map hnd hother hmem hid]

theorem statusOf_of_mem {state : SagaState} (hnd : state.ids.Nodup)
    {value : SagaStepState} (hmem : value ∈ state.steps) :
    state.statusOf value.stepId = some value.status := by
  rw [statusOf, step?_of_mem hnd hmem, Option.map_some]

/-- The status of an identity is that of the step under it, where identities are
unique. -/
theorem statusOf_eq_some {state : SagaState} (hnd : state.ids.Nodup)
    {stepId : SagaStepId} {status : SagaStepStatus} :
    state.statusOf stepId = some status ↔
      ∃ value ∈ state.steps, value.stepId = stepId ∧ value.status = status := by
  constructor
  · intro h
    obtain ⟨value, hvalue, hstatus⟩ := Option.map_eq_some_iff.mp h
    obtain ⟨hmem, hid⟩ := step?_some hvalue
    exact ⟨value, hmem, hid, hstatus⟩
  · rintro ⟨value, hmem, rfl, rfl⟩
    exact statusOf_of_mem hnd hmem

theorem mem_ids_of_statusOf {state : SagaState} {stepId : SagaStepId}
    {status : SagaStepStatus} (h : state.statusOf stepId = some status) :
    stepId ∈ state.ids := by
  obtain ⟨value, hvalue, -⟩ := Option.map_eq_some_iff.mp h
  obtain ⟨hmem, hid⟩ := step?_some hvalue
  exact mem_ids.mpr ⟨value, hmem, hid⟩

/-- Every step has a status. -/
theorem statusOf_isSome_of_mem_ids {state : SagaState} (hnd : state.ids.Nodup)
    {stepId : SagaStepId} (h : stepId ∈ state.ids) :
    ∃ status, state.statusOf stepId = some status := by
  obtain ⟨value, hmem, rfl⟩ := mem_ids.mp h
  exact ⟨value.status, statusOf_of_mem hnd hmem⟩

/-- A status occurs when a step has it. -/
theorem hasStatus_iff {state : SagaState} (hnd : state.ids.Nodup)
    {status : SagaStepStatus} :
    state.hasStatus status = true ↔ ∃ stepId, state.statusOf stepId = some status := by
  simp only [hasStatus, List.any_eq_true, decide_eq_true_eq, statusOf_eq_some hnd]
  constructor
  · rintro ⟨value, hmem, hstatus⟩
    exact ⟨value.stepId, value, hmem, rfl, hstatus⟩
  · rintro ⟨-, value, hmem, -, hstatus⟩
    exact ⟨value, hmem, hstatus⟩

/-- Search from the back finds the same entry when identities are distinct. -/
theorem valueFor_eq {state : SagaState} (hnd : state.ids.Nodup) (stepId : SagaStepId) :
    state.valueFor stepId = match state.step? stepId with
      | some value => .ok value
      | none => .error (.keyError stepId) := by
  have hfind : state.steps.reverse.find? (fun value => decide (value.stepId = stepId)) =
      state.step? stepId := by
    cases hrev : state.steps.reverse.find?
        (fun value => decide (value.stepId = stepId)) with
    | none =>
        symm
        rw [step?, List.find?_eq_none]
        intro value hmem
        exact List.find?_eq_none.mp hrev value (List.mem_reverse.mpr hmem)
    | some value =>
        have hmem := List.mem_reverse.mp (List.mem_of_find?_eq_some hrev)
        have hid : value.stepId = stepId := by simpa using List.find?_some hrev
        rw [← hid, step?_of_mem hnd hmem]
  cases hstep : state.step? stepId <;> simp [valueFor, hfind, hstep]

end SagaState

/-! ## States whose tables are complete -/

/-- Distinct step identities, and an entry for every completion. -/
structure Tabled (state : SagaState) : Prop where
  ids_nodup : state.ids.Nodup
  completion_mem : ∀ stepId ∈ state.completionOrder, stepId ∈ state.ids

/-- The loop over the completed steps keeps the candidates. -/
theorem keepCandidates_eq {state : SagaState} (hnd : state.ids.Nodup) :
    ∀ {stepIds : List SagaStepId}, (∀ stepId ∈ stepIds, stepId ∈ state.ids) →
      keepCandidates state stepIds = .ok (stepIds.filter state.isCandidate)
  | [], _ => rfl
  | stepId :: stepIds, hmem => by
      obtain ⟨value, hvalue, hid⟩ := SagaState.mem_ids.mp (hmem stepId (by simp))
      have hstep : state.step? stepId = some value := by
        rw [← hid]
        exact SagaState.step?_of_mem hnd hvalue
      have hrest :=
        keepCandidates_eq hnd (fun id h => hmem id (List.mem_cons_of_mem _ h))
      simp only [keepCandidates, SagaState.valueFor_eq hnd, hstep, hrest, bind,
        Except.bind, List.filter_cons, SagaState.isCandidate, SagaState.availableOf,
        SagaState.statusOf, Option.map_some, Option.getD_some, Option.some.injEq,
        Bool.and_eq_true, decide_eq_true_eq]
      split <;> rfl

/-- **The candidates** that the source computes are those of the table. -/
theorem Tabled.candidates_eq {state : SagaState} (h : Tabled state) :
    compensationCandidates state = .ok state.candidates :=
  keepCandidates_eq h.ids_nodup fun stepId hmem =>
    h.completion_mem stepId (List.mem_reverse.mp hmem)

namespace SagaState

/-- `haltedStatus` where no lookup fails. -/
def currentHalted (state : SagaState) : SagaStatus :=
  if (state.failedSteps ≠ [] ∨ state.cancelled) ∧ state.candidates = [] ∧
      state.hasStatus .compensated then .compensated
  else state.forwardStatus

/-- `status` where no lookup fails. -/
def currentStatus (state : SagaState) : SagaStatus :=
  if state.hasStatus .compensating then .compensating
  else if state.hasStatus .compensationFailed then .partiallyCompensated
  else if state.compensationRequested then
    if state.candidates ≠ [] then .compensating
    else if state.hasStatus .compensated then .compensated
    else state.currentHalted
  else state.currentHalted

end SagaState

/-- The same for the status of a halted run. -/
theorem Tabled.haltedStatus_eq {state : SagaState} (h : Tabled state) :
    state.haltedStatus = .ok state.currentHalted := by
  unfold SagaState.haltedStatus SagaState.currentHalted
  split
  · rename_i hstop
    simp only [h.candidates_eq, bind, Except.bind, hstop, true_and]
    split <;> rfl
  · rename_i hstop
    simp [hstop]

/-- **The status** that the source computes is that of the table. -/
theorem Tabled.status_eq {state : SagaState} (h : Tabled state) :
    state.status = .ok state.currentStatus := by
  unfold SagaState.status SagaState.currentStatus
  split
  · rfl
  · split
    · rfl
    · split
      · simp only [h.candidates_eq, bind, Except.bind]
        split
        · rfl
        · split
          · rfl
          · exact h.haltedStatus_eq
      · exact h.haltedStatus_eq

/-! ## Guard and effect of an event -/

/-- **Guard**: what `evolve` checks of the state before an event. -/
def Admits (state : SagaState) : SagaEvent → Prop
  | .stepStarted stepId =>
      state.currentStatus = .active ∧ state.compensationRequested = false ∧
        state.statusOf stepId = some .pending
  | .stepSucceeded stepId => state.statusOf stepId = some .running
  | .stepFailed stepId => state.statusOf stepId = some .running
  | .cancelled => state.currentStatus = .active
  | .compensationRequested =>
      state.compensationRequested = false ∧ state.currentStatus.admitsRequest = true ∧
        state.candidates ≠ []
  | .compensationStarted stepId => state.candidates.head? = some stepId
  | .compensationSucceeded stepId => state.statusOf stepId = some .compensating
  | .compensationFailed stepId => state.statusOf stepId = some .compensating

/-- The fact a command asks for. -/
def SagaCommand.event : SagaCommand → SagaEvent
  | .startStep stepId => .stepStarted stepId
  | .succeedStep stepId => .stepSucceeded stepId
  | .failStep stepId => .stepFailed stepId
  | .cancel => .cancelled
  | .requestCompensation => .compensationRequested
  | .beginCompensation stepId => .compensationStarted stepId
  | .succeedCompensation stepId => .compensationSucceeded stepId
  | .failCompensation stepId => .compensationFailed stepId

/-- **Effect**: the projection after an accepted event. -/
def SagaState.after (state : SagaState) : SagaEvent → SagaState
  | .stepStarted stepId => state.setStatus stepId .running
  | .stepSucceeded stepId =>
      { state.setStatus stepId .succeeded with
        completionOrder := state.completionOrder ++ [stepId] }
  | .stepFailed stepId =>
      { state.setStatus stepId .failed with
        failedSteps := state.failedSteps ++ [stepId] }
  | .cancelled => { state with cancelled := true }
  | .compensationRequested => { state with compensationRequested := true }
  | .compensationStarted stepId => state.setStatus stepId .compensating
  | .compensationSucceeded stepId => state.setStatus stepId .compensated
  | .compensationFailed stepId => state.setStatus stepId .compensationFailed

/-- The step an event moves, with the status it moves it to. -/
def SagaEvent.moves : SagaEvent → Option (SagaStepId × SagaStepStatus)
  | .stepStarted stepId => some (stepId, .running)
  | .stepSucceeded stepId => some (stepId, .succeeded)
  | .stepFailed stepId => some (stepId, .failed)
  | .cancelled => none
  | .compensationRequested => none
  | .compensationStarted stepId => some (stepId, .compensating)
  | .compensationSucceeded stepId => some (stepId, .compensated)
  | .compensationFailed stepId => some (stepId, .compensationFailed)

/-- A step is required to have a status. -/
theorem requireStepStatus_eq_ok {state : SagaState} {stepId : SagaStepId}
    {status : SagaStepStatus} {u : Unit} :
    requireStepStatus state stepId status = .ok u ↔
      state.statusOf stepId = some status := by
  unfold requireStepStatus
  rw [bind_ok]
  simp only [SagaState.step_eq_ok, SagaState.statusOf, Option.map_eq_some_iff]
  constructor
  · rintro ⟨value, hvalue, hguard⟩
    split at hguard
    · exact ⟨value, hvalue, by assumption⟩
    · cases hguard
  · rintro ⟨value, hvalue, hstatus⟩
    exact ⟨value, hvalue, by simp [hstatus, pure, Except.pure]⟩

/-- A step is replaced where there is one. -/
theorem replaceStep_eq_ok {state state' : SagaState} {stepId : SagaStepId}
    {status : SagaStepStatus} :
    replaceStep state stepId status = .ok state' ↔
      (∃ value, state.step? stepId = some value) ∧
      state.setStatus stepId status = state' := by
  unfold replaceStep
  rw [bind_ok]
  simp only [SagaState.step_eq_ok, pure, Except.pure, Except.ok.injEq, exists_and_right]

theorem step?_of_statusOf {state : SagaState} {stepId : SagaStepId}
    {status : SagaStepStatus} (h : state.statusOf stepId = some status) :
    ∃ value, state.step? stepId = some value := by
  obtain ⟨value, hvalue, -⟩ := Option.map_eq_some_iff.mp h
  exact ⟨value, hvalue⟩

/-- A candidate has succeeded. -/
theorem SagaState.statusOf_of_mem_candidates {state : SagaState} {stepId : SagaStepId}
    (hmem : stepId ∈ state.candidates) : state.statusOf stepId = some .succeeded := by
  have := (List.mem_filter.mp hmem).2
  simp only [SagaState.isCandidate, Bool.and_eq_true, decide_eq_true_eq] at this
  exact this.2

section Guards

variable {state : SagaState} (h : Tabled state)
include h

/-- The run is active, and no compensation is requested. -/
theorem Tabled.requireActive_eq_ok {u : Unit} :
    requireActive state = .ok u ↔
      state.currentStatus = .active ∧ state.compensationRequested = false := by
  unfold requireActive
  simp only [h.status_eq, bind, Except.bind]
  by_cases hactive : state.currentStatus = .active
  · cases hreq : state.compensationRequested <;> simp [hactive, pure, Except.pure]
  · simp [hactive]

theorem Tabled.requireCancellable_eq_ok {u : Unit} :
    requireCancellable state = .ok u ↔ state.currentStatus = .active := by
  unfold requireCancellable
  simp only [h.status_eq, bind, Except.bind]
  by_cases hactive : state.currentStatus = .active
  · simp [hactive, pure, Except.pure]
  · simp [hactive]

/-- A compensation is admitted once, in a status that admits it, where there is
something to compensate. -/
theorem Tabled.requireCompensationAdmission_eq_ok {u : Unit} :
    requireCompensationAdmission state = .ok u ↔
      state.compensationRequested = false ∧ state.currentStatus.admitsRequest = true ∧
        state.candidates ≠ [] := by
  unfold requireCompensationAdmission
  simp only [h.status_eq, h.candidates_eq, bind, Except.bind]
  cases hreq : state.compensationRequested <;>
    cases hadmit : state.currentStatus.admitsRequest <;>
    by_cases hcand : state.candidates = [] <;> simp [hcand, pure, Except.pure]

/-- Compensation takes the first candidate. -/
theorem Tabled.requireNextCandidate_eq_ok {stepId : SagaStepId} {u : Unit} :
    requireNextCandidate state stepId = .ok u ↔
      state.candidates.head? = some stepId := by
  unfold requireNextCandidate
  simp only [h.candidates_eq, bind, Except.bind]
  by_cases hhead : state.candidates.head? = some stepId
  · simp [hhead, pure, Except.pure]
  · simp [hhead]

/-- **Inversion**: an event is accepted exactly when its guard holds, and the
new projection is then its effect. -/
theorem Tabled.evolve_eq_ok {event : SagaEvent} {state' : SagaState} :
    evolve state event = .ok state' ↔
      Admits state event ∧ state.after event = state' := by
  cases event with
  | stepStarted stepId =>
      simp only [evolve, bind_ok, h.requireActive_eq_ok, requireStepStatus_eq_ok,
        replaceStep_eq_ok, Admits, SagaState.after]
      constructor
      · rintro ⟨_, hactive, _, hpending, -, heq⟩
        exact ⟨⟨hactive.1, hactive.2, hpending⟩, heq⟩
      · rintro ⟨⟨hactive, hreq, hpending⟩, heq⟩
        exact ⟨(), ⟨hactive, hreq⟩, (), hpending, step?_of_statusOf hpending, heq⟩
  | stepSucceeded stepId =>
      simp only [evolve, bind_ok, requireStepStatus_eq_ok, replaceStep_eq_ok, Admits,
        SagaState.after, pure, Except.pure, Except.ok.injEq]
      constructor
      · rintro ⟨_, hrunning, _, ⟨-, rfl⟩, heq⟩
        exact ⟨hrunning, heq⟩
      · rintro ⟨hrunning, heq⟩
        exact ⟨(), hrunning, _, ⟨step?_of_statusOf hrunning, rfl⟩, heq⟩
  | stepFailed stepId =>
      simp only [evolve, bind_ok, requireStepStatus_eq_ok, replaceStep_eq_ok, Admits,
        SagaState.after, pure, Except.pure, Except.ok.injEq]
      constructor
      · rintro ⟨_, hrunning, _, ⟨-, rfl⟩, heq⟩
        exact ⟨hrunning, heq⟩
      · rintro ⟨hrunning, heq⟩
        exact ⟨(), hrunning, _, ⟨step?_of_statusOf hrunning, rfl⟩, heq⟩
  | cancelled =>
      simp only [evolve, bind_ok, h.requireCancellable_eq_ok, Admits, SagaState.after,
        pure, Except.pure, Except.ok.injEq, exists_const]
  | compensationRequested =>
      simp only [evolve, bind_ok, h.requireCompensationAdmission_eq_ok, Admits,
        SagaState.after, pure, Except.pure, Except.ok.injEq, exists_const]
  | compensationStarted stepId =>
      simp only [evolve, bind_ok, h.requireNextCandidate_eq_ok, replaceStep_eq_ok,
        Admits, SagaState.after]
      constructor
      · rintro ⟨_, hhead, -, heq⟩
        exact ⟨hhead, heq⟩
      · rintro ⟨hhead, heq⟩
        have hmem := List.mem_of_mem_head? hhead
        exact ⟨(), hhead, step?_of_statusOf
          (SagaState.statusOf_of_mem_candidates hmem), heq⟩
  | compensationSucceeded stepId =>
      simp only [evolve, bind_ok, requireStepStatus_eq_ok, replaceStep_eq_ok, Admits,
        SagaState.after]
      constructor
      · rintro ⟨_, hstatus, -, heq⟩
        exact ⟨hstatus, heq⟩
      · rintro ⟨hstatus, heq⟩
        exact ⟨(), hstatus, step?_of_statusOf hstatus, heq⟩
  | compensationFailed stepId =>
      simp only [evolve, bind_ok, requireStepStatus_eq_ok, replaceStep_eq_ok, Admits,
        SagaState.after]
      constructor
      · rintro ⟨_, hstatus, -, heq⟩
        exact ⟨hstatus, heq⟩
      · rintro ⟨hstatus, heq⟩
        exact ⟨(), hstatus, step?_of_statusOf hstatus, heq⟩

/-- **Decide and evolve agree**: a command is accepted exactly when its event is
admitted, and emits that one event. -/
theorem Tabled.decideCommand_eq_ok {command : SagaCommand} {events : List SagaEvent} :
    decideCommand state command = .ok events ↔
      Admits state command.event ∧ events = [command.event] := by
  cases command <;>
    simp only [decideCommand, bind_ok, h.requireActive_eq_ok,
      h.requireCancellable_eq_ok, h.requireCompensationAdmission_eq_ok,
      h.requireNextCandidate_eq_ok, requireStepStatus_eq_ok, Admits, SagaCommand.event,
      pure, Except.pure, Except.ok.injEq, exists_const, and_assoc, @eq_comm _ events]

end Guards

/-! ## Reading the state after an event -/

namespace SagaState

theorem step?_setStatus (state : SagaState) (stepId j : SagaStepId)
    (status : SagaStepStatus) : (state.setStatus stepId status).step? j =
      (state.step? j).map fun value =>
        if value.stepId = stepId then { value with status := status } else value := by
  simp only [step?, setStatus, List.find?_map]
  congr 2
  funext value
  simp only [Function.comp]
  split <;> rfl

/-- Setting a status changes that step's only. -/
theorem statusOf_setStatus (state : SagaState) (stepId j : SagaStepId)
    (status : SagaStepStatus) : (state.setStatus stepId status).statusOf j =
      if j = stepId then (state.statusOf j).map fun _ => status
      else state.statusOf j := by
  simp only [statusOf, step?_setStatus]
  cases hfind : state.step? j with
  | none => simp
  | some value =>
      obtain ⟨-, rfl⟩ := step?_some hfind
      simp only [Option.map_some]
      split <;> rfl

/-- An event keeps the steps. -/
@[simp] theorem ids_after (state : SagaState) (event : SagaEvent) :
    (state.after event).ids = state.ids := by
  cases event <;> simp only [after, ids, setStatus, List.map_map] <;>
    exact List.map_congr_left fun value _ => by simp only [Function.comp]; split <;> rfl

@[simp] theorem availableOf_after (state : SagaState) (event : SagaEvent)
    (j : SagaStepId) : (state.after event).availableOf j = state.availableOf j := by
  have hset : ∀ stepId status, (state.setStatus stepId status).availableOf j =
      state.availableOf j := by
    intro stepId status
    simp only [availableOf, step?_setStatus]
    cases state.step? j with
    | none => rfl
    | some value => simp only [Option.map_some]; split <;> rfl
  cases event <;> first | exact hset _ _ | rfl

end SagaState

/-- **One step moves**: an accepted event gives the step it names its new status
and leaves every other step alone. -/
theorem statusOf_after {state : SagaState} {event : SagaEvent} (j : SagaStepId) :
    (state.after event).statusOf j =
      match event.moves with
      | some (stepId, status) =>
          if j = stepId then (state.statusOf j).map fun _ => status
          else state.statusOf j
      | none => state.statusOf j := by
  have hset : ∀ stepId status,
      (state.setStatus stepId status).statusOf j =
        if j = stepId then (state.statusOf j).map fun _ => status
        else state.statusOf j :=
    fun stepId status => state.statusOf_setStatus stepId j status
  cases event <;> first | exact hset _ _ | rfl

end ControlPlaneKit.Planning
