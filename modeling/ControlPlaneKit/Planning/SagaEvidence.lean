import ControlPlaneKit.Planning.SagaTransitions

/-!
# SagaEvidence — the invariant of reconstructed evidence

`Coherent` ties the two history lists to the step statuses: the completion order
lists exactly the completed steps, the failed list exactly the failed ones, each
once.  It holds of a fresh projection, every accepted event keeps it, and so it
holds of everything `reconstruct` returns.
-/

namespace ControlPlaneKit.Planning

open ControlPlaneKit.Library.EventFold

/-- The statuses a step has once its forward half is durably complete. -/
def SagaStepStatus.isCompleted : SagaStepStatus → Bool
  | .succeeded | .compensating | .compensated | .compensationFailed => true
  | .pending | .running | .failed => false

/-- The step exists and its forward half is complete. -/
def SagaState.isCompletedAt (state : SagaState) (stepId : SagaStepId) : Bool :=
  (state.statusOf stepId).any SagaStepStatus.isCompleted

theorem SagaState.isCompletedAt_iff {state : SagaState} {stepId : SagaStepId} :
    state.isCompletedAt stepId = true ↔
      ∃ status, state.statusOf stepId = some status ∧ status.isCompleted = true := by
  simp [SagaState.isCompletedAt, Option.any_eq_true]

/-- **Coherent evidence**: the histories describe the statuses. -/
structure Coherent (state : SagaState) : Prop where
  ids_nodup : state.ids.Nodup
  completion_nodup : state.completionOrder.Nodup
  mem_completion : ∀ stepId, stepId ∈ state.completionOrder ↔
    state.isCompletedAt stepId = true
  failed_nodup : state.failedSteps.Nodup
  mem_failed : ∀ stepId, stepId ∈ state.failedSteps ↔
    state.statusOf stepId = some .failed

theorem Coherent.tabled {state : SagaState} (h : Coherent state) : Tabled state where
  ids_nodup := h.ids_nodup
  completion_mem stepId hmem := by
    obtain ⟨status, hstatus, -⟩ :=
      SagaState.isCompletedAt_iff.mp ((h.mem_completion stepId).mp hmem)
    exact SagaState.mem_ids_of_statusOf hstatus

theorem Coherent.evolve_eq_ok {state state' : SagaState} (h : Coherent state)
    {event : SagaEvent} :
    evolve state event = .ok state' ↔ Admits state event ∧ state.after event = state' :=
  h.tabled.evolve_eq_ok

/-! ## A fresh projection -/

/-- Every step pending, nothing recorded. -/
structure Fresh (state : SagaState) : Prop where
  ids_nodup : state.ids.Nodup
  pending : ∀ value ∈ state.steps, value.status = .pending
  completionOrder : state.completionOrder = []
  failedSteps : state.failedSteps = []
  cancelled : state.cancelled = false
  compensationRequested : state.compensationRequested = false

theorem Fresh.statusOf {state : SagaState} (h : Fresh state) {stepId : SagaStepId}
    {status : SagaStepStatus} (hstatus : state.statusOf stepId = some status) :
    status = .pending := by
  obtain ⟨value, hmem, -, rfl⟩ := (SagaState.statusOf_eq_some h.ids_nodup).mp hstatus
  exact h.pending value hmem

theorem Fresh.coherent {state : SagaState} (h : Fresh state) : Coherent state where
  ids_nodup := h.ids_nodup
  completion_nodup := by rw [h.completionOrder]; exact List.nodup_nil
  mem_completion stepId := by
    rw [h.completionOrder, SagaState.isCompletedAt_iff]
    constructor
    · simp
    · rintro ⟨status, hstatus, hdone⟩
      rw [h.statusOf hstatus] at hdone
      cases hdone
  failed_nodup := by rw [h.failedSteps]; exact List.nodup_nil
  mem_failed stepId := by
    rw [h.failedSteps]
    constructor
    · simp
    · exact fun hstatus => absurd (h.statusOf hstatus) (by simp)

/-- The initial projection of a program is fresh. -/
theorem initialState_fresh {Effect : Type} {program : SagaProgram Effect}
    {init : SagaState} (h : initialState program = .ok init) : Fresh init := by
  obtain ⟨steps, hsteps, hinit⟩ := bind_ok.mp h
  obtain ⟨-, hnd⟩ := SagaProgram.programSteps_eq_ok.mp hsteps
  simp only [pure, Except.pure, Except.ok.injEq] at hinit
  subst hinit
  refine ⟨?_, ?_, rfl, rfl, rfl, rfl⟩
  · simpa [SagaState.ids, Function.comp_def] using hnd
  · intro value hmem
    obtain ⟨step, -, rfl⟩ := List.mem_map.mp hmem
    rfl

/-- The initial projection of a plan is fresh. -/
theorem initialForPlan_fresh (plan : ActivityPlan) :
    Fresh (SagaState.initialForPlan plan) := by
  refine ⟨?_, ?_, rfl, rfl, rfl, rfl⟩
  · have hnd := plan.ids_nodup
    simp only [SagaState.ids, SagaState.initialForPlan, List.map_map]
    refine (List.nodup_map_iff_inj_on (List.Nodup.of_map _ hnd)).mpr ?_
    intro a ha b hb hab
    refine List.inj_on_of_nodup_map hnd ha hb (ActivityId.ext_value ?_)
    simpa [Function.comp] using hab
  · intro value hmem
    obtain ⟨activity, -, rfl⟩ := List.mem_map.mp hmem
    rfl

/-! ## Preservation -/

/-- The completion an event records. -/
def SagaEvent.completes : SagaEvent → List SagaStepId
  | .stepSucceeded stepId => [stepId]
  | _ => []

/-- The failure an event records. -/
def SagaEvent.fails : SagaEvent → List SagaStepId
  | .stepFailed stepId => [stepId]
  | _ => []

/-- The status a step must have for an event to move it. -/
def SagaEvent.expects : SagaEvent → SagaStepStatus
  | .stepStarted _ => .pending
  | .stepSucceeded _ => .running
  | .stepFailed _ => .running
  | .cancelled => .pending
  | .compensationRequested => .pending
  | .compensationStarted _ => .succeeded
  | .compensationSucceeded _ => .compensating
  | .compensationFailed _ => .compensating

theorem SagaState.completionOrder_after (state : SagaState) (event : SagaEvent) :
    (state.after event).completionOrder = state.completionOrder ++ event.completes := by
  cases event <;> simp [SagaState.after, SagaEvent.completes, SagaState.setStatus]

theorem SagaState.failedSteps_after (state : SagaState) (event : SagaEvent) :
    (state.after event).failedSteps = state.failedSteps ++ event.fails := by
  cases event <;> simp [SagaState.after, SagaEvent.fails, SagaState.setStatus]

/-- An admitted event finds the step it moves in the status it expects. -/
theorem Admits.expects {state : SagaState} {event : SagaEvent} (h : Admits state event)
    {stepId : SagaStepId} {status : SagaStepStatus}
    (hmoves : event.moves = some (stepId, status)) :
    state.statusOf stepId = some event.expects := by
  cases event with
  | stepStarted j => cases hmoves; exact h.2.2
  | stepSucceeded j => cases hmoves; exact h
  | stepFailed j => cases hmoves; exact h
  | cancelled => cases hmoves
  | compensationRequested => cases hmoves
  | compensationStarted j =>
      cases hmoves
      exact SagaState.statusOf_of_mem_candidates (List.mem_of_mem_head? h)
  | compensationSucceeded j => cases hmoves; exact h
  | compensationFailed j => cases hmoves; exact h

theorem SagaEvent.moves_of_mem_completes {event : SagaEvent} {j : SagaStepId}
    (h : j ∈ event.completes) : event.moves = some (j, .succeeded) := by
  cases event <;> simp_all [SagaEvent.completes, SagaEvent.moves]

theorem SagaEvent.moves_of_mem_fails {event : SagaEvent} {j : SagaStepId}
    (h : j ∈ event.fails) : event.moves = some (j, .failed) := by
  cases event <;> simp_all [SagaEvent.fails, SagaEvent.moves]

/-- A move completes a step only where the event records the completion. -/
theorem SagaEvent.isCompleted_of_moves {event : SagaEvent} {stepId : SagaStepId}
    {status : SagaStepStatus} (h : event.moves = some (stepId, status)) :
    status.isCompleted =
      (event.expects.isCompleted || decide (stepId ∈ event.completes)) := by
  cases event <;> cases h <;>
    simp [SagaEvent.expects, SagaEvent.completes, SagaStepStatus.isCompleted]

/-- A move fails a step exactly where the event records the failure, and no
failed step is ever moved. -/
theorem SagaEvent.failed_of_moves {event : SagaEvent} {stepId : SagaStepId}
    {status : SagaStepStatus} (h : event.moves = some (stepId, status)) :
    (status = .failed ↔ stepId ∈ event.fails) ∧ event.expects ≠ .failed := by
  cases event <;> cases h <;> simp [SagaEvent.expects, SagaEvent.fails]

/-- **Step rule for statuses.** After an admitted event a step has a status
either because it was moved there or because it had it before and was not moved. -/
theorem Admits.statusOf_after_eq_some {state : SagaState} {event : SagaEvent}
    (h : Admits state event) {j : SagaStepId} {status : SagaStepStatus} :
    (state.after event).statusOf j = some status ↔
      event.moves = some (j, status) ∨
        state.statusOf j = some status ∧ ∀ other, event.moves ≠ some (j, other) := by
  rw [statusOf_after]
  cases hmoves : event.moves with
  | none => simp
  | some move =>
      obtain ⟨stepId, moved⟩ := move
      have hexp := h.expects hmoves
      by_cases hj : j = stepId
      · subst hj
        simp [hexp]
      · simp [hj, Ne.symm hj]

/-- Completed before, or completed by this event. -/
theorem Admits.isCompletedAt_after {state : SagaState} {event : SagaEvent}
    (h : Admits state event) (j : SagaStepId) :
    (state.after event).isCompletedAt j =
      (state.isCompletedAt j || decide (j ∈ event.completes)) := by
  rw [SagaState.isCompletedAt, SagaState.isCompletedAt, statusOf_after]
  have hother : ∀ status, event.moves ≠ some (j, status) →
      decide (j ∈ event.completes) = false ∨
      status ≠ .succeeded := by
    intro status hne
    by_cases hs : status = .succeeded
    · subst hs
      exact .inl (by
        simpa using fun hmem => hne (SagaEvent.moves_of_mem_completes hmem))
    · exact .inr hs
  cases hmoves : event.moves with
  | none =>
      have := (hother .succeeded (by simp [hmoves])).resolve_right (by simp)
      simp [this]
  | some move =>
      obtain ⟨stepId, moved⟩ := move
      by_cases hj : j = stepId
      · subst hj
        simp [h.expects hmoves, SagaEvent.isCompleted_of_moves hmoves]
      · have :=
          (hother .succeeded (by simp [hmoves, Ne.symm hj])).resolve_right (by simp)
        simp [hj, this]

/-- Failed before, or failed by this event. -/
theorem Admits.failed_after {state : SagaState} {event : SagaEvent}
    (h : Admits state event) (j : SagaStepId) :
    (state.after event).statusOf j = some .failed ↔
      state.statusOf j = some .failed ∨ j ∈ event.fails := by
  rw [h.statusOf_after_eq_some]
  constructor
  · rintro (hmoved | ⟨hbefore, -⟩)
    · exact .inr ((SagaEvent.failed_of_moves hmoved).1.mp rfl)
    · exact .inl hbefore
  · rintro (hbefore | hfails)
    · refine .inr ⟨hbefore, fun other hmoved => ?_⟩
      have hexp := h.expects hmoved
      rw [hbefore, Option.some.injEq] at hexp
      exact (SagaEvent.failed_of_moves hmoved).2 hexp.symm
    · exact .inl (SagaEvent.moves_of_mem_fails hfails)

/-- **Step lemma.** An admitted event keeps the evidence coherent. -/
theorem Coherent.after {state : SagaState} (h : Coherent state) {event : SagaEvent}
    (hadm : Admits state event) : Coherent (state.after event) where
  ids_nodup := by rw [SagaState.ids_after]; exact h.ids_nodup
  completion_nodup := by
    rw [SagaState.completionOrder_after, List.nodup_append]
    refine ⟨h.completion_nodup, ?_, ?_⟩
    · cases event <;> simp [SagaEvent.completes]
    · intro a ha b hb heq
      subst heq
      have hrunning := hadm.expects (SagaEvent.moves_of_mem_completes hb)
      obtain ⟨status, hstatus, hdone⟩ :=
        SagaState.isCompletedAt_iff.mp ((h.mem_completion a).mp ha)
      rw [hrunning, Option.some.injEq] at hstatus
      subst hstatus
      cases event <;> simp_all [SagaEvent.completes, SagaEvent.expects,
        SagaStepStatus.isCompleted]
  mem_completion stepId := by
    rw [SagaState.completionOrder_after, List.mem_append, hadm.isCompletedAt_after,
      h.mem_completion]
    simp
  failed_nodup := by
    rw [SagaState.failedSteps_after, List.nodup_append]
    refine ⟨h.failed_nodup, ?_, ?_⟩
    · cases event <;> simp [SagaEvent.fails]
    · intro a ha b hb heq
      subst heq
      have hmoves := SagaEvent.moves_of_mem_fails hb
      have hexp := hadm.expects hmoves
      rw [(h.mem_failed a).mp ha, Option.some.injEq] at hexp
      exact (SagaEvent.failed_of_moves hmoves).2 hexp.symm
  mem_failed stepId := by
    rw [SagaState.failedSteps_after, List.mem_append, hadm.failed_after, h.mem_failed]

theorem Coherent.step {state state' : SagaState} (h : Coherent state)
    {event : SagaEvent} (hstep : evolve state event = .ok state') :
    Coherent state' := by
  obtain ⟨hadm, rfl⟩ := h.evolve_eq_ok.mp hstep
  exact h.after hadm

/-- **Run lemma.** Whatever a coherent projection evolves into is coherent. -/
theorem Coherent.run {state state' : SagaState} (h : Coherent state)
    {events : List SagaEvent} (hrun : evolveAll state events = .ok state') :
    Coherent state' :=
  run_invariant (fun _ _ _ hs hstep => Coherent.step hs hstep) h hrun

/-! ## What a run never changes -/

/-- Identities with their compensation flags, in program order. -/
def SagaState.shape (state : SagaState) : List (SagaStepId × Bool) :=
  state.steps.map fun value => (value.stepId, value.compensationAvailable)

theorem SagaState.shape_after (state : SagaState) (event : SagaEvent) :
    (state.after event).shape = state.shape := by
  have hset : ∀ stepId status, (state.setStatus stepId status).shape = state.shape := by
    intro stepId status
    simp only [SagaState.shape, SagaState.setStatus, List.map_map]
    exact List.map_congr_left fun value _ => by simp only [Function.comp]; split <;> rfl
  cases event <;> first | exact hset _ _ | rfl

/-- A run keeps the step table's identities, order and compensation flags. -/
theorem shape_run {init state : SagaState} (h : Coherent init) {events : List SagaEvent}
    (hrun : evolveAll init events = .ok state) : state.shape = init.shape := by
  refine (run_invariant (I := fun s => Coherent s ∧ s.shape = init.shape) ?_
    ⟨h, rfl⟩ hrun).2
  rintro s event t ⟨hs, hshape⟩ hstep
  obtain ⟨hadm, rfl⟩ := hs.evolve_eq_ok.mp hstep
  exact ⟨hs.after hadm, (s.shape_after event).trans hshape⟩

end ControlPlaneKit.Planning
