import ControlPlaneKit.Planning.SagaEvidence

/-!
# SagaHistory — what a run knows of its own journal

Runs are read forwards: the completion order is the journal's successes in
order, and a step is in its compensation half exactly when the journal began its
compensation, which happens at most once.  `History` packages both with
coherence; every run from a fresh projection has it.
-/

namespace ControlPlaneKit.Planning

open ControlPlaneKit.Library.EventFold

/-! ## Statuses that an event leaves alone -/

/-- A step keeps its status under any event that does not expect that status. -/
theorem Admits.statusOf_kept {state : SagaState} {event : SagaEvent}
    (h : Admits state event) {j : SagaStepId} {status : SagaStepStatus}
    (hstatus : state.statusOf j = some status) (hne : event.expects ≠ status) :
    (state.after event).statusOf j = some status := by
  refine h.statusOf_after_eq_some.mpr (.inr ⟨hstatus, fun other hmoved => hne ?_⟩)
  have hexp := h.expects hmoved
  rw [hstatus, Option.some.injEq] at hexp
  exact hexp.symm

/-- The compensation half of a step's life. -/
def SagaStepStatus.inCompensation : SagaStepStatus → Bool
  | .compensating | .compensated | .compensationFailed => true
  | .pending | .running | .succeeded | .failed => false

/-- The step whose compensation an event begins. -/
def SagaEvent.begins : SagaEvent → List SagaStepId
  | .compensationStarted stepId => [stepId]
  | _ => []

def SagaState.inCompensationAt (state : SagaState) (stepId : SagaStepId) : Bool :=
  (state.statusOf stepId).any SagaStepStatus.inCompensation

theorem SagaState.inCompensationAt_iff {state : SagaState} {stepId : SagaStepId} :
    state.inCompensationAt stepId = true ↔
      state.statusOf stepId = some .compensating ∨
      state.statusOf stepId = some .compensated ∨
        state.statusOf stepId = some .compensationFailed := by
  cases h : state.statusOf stepId with
  | none => simp [SagaState.inCompensationAt, h]
  | some status =>
      cases status <;> simp [SagaState.inCompensationAt, h,
        SagaStepStatus.inCompensation]

theorem SagaEvent.inCompensation_of_moves {event : SagaEvent} {stepId : SagaStepId}
    {status : SagaStepStatus} (h : event.moves = some (stepId, status)) :
    status.inCompensation =
      (event.expects.inCompensation || decide (stepId ∈ event.begins)) := by
  cases event <;> cases h <;>
    simp [SagaEvent.expects, SagaEvent.begins, SagaStepStatus.inCompensation]

theorem SagaEvent.moves_of_mem_begins {event : SagaEvent} {j : SagaStepId}
    (h : j ∈ event.begins) : event.moves = some (j, .compensating) := by
  cases event <;> simp_all [SagaEvent.begins, SagaEvent.moves]

/-- In compensation before, or taken there by this event. -/
theorem Admits.inCompensationAt_after {state : SagaState} {event : SagaEvent}
    (h : Admits state event) (j : SagaStepId) :
    (state.after event).inCompensationAt j =
      (state.inCompensationAt j || decide (j ∈ event.begins)) := by
  rw [SagaState.inCompensationAt, SagaState.inCompensationAt, statusOf_after]
  cases hmoves : event.moves with
  | none =>
      have : j ∉ event.begins := fun hmem => by
        simp [SagaEvent.moves_of_mem_begins hmem] at hmoves
      simp [this]
  | some move =>
      obtain ⟨stepId, moved⟩ := move
      by_cases hj : j = stepId
      · subst hj
        simp [h.expects hmoves, SagaEvent.inCompensation_of_moves hmoves]
      · have : j ∉ event.begins := fun hmem => by
          simp [SagaEvent.moves_of_mem_begins hmem, hj] at hmoves
        simp [hj, this]

/-! ## History: which compensations have begun -/

/-- The steps whose compensation a journal begins, in order. -/
def begun (events : List SagaEvent) : List SagaStepId :=
  events.flatMap SagaEvent.begins

theorem mem_begun {events : List SagaEvent} {stepId : SagaStepId} :
    stepId ∈ begun events ↔ .compensationStarted stepId ∈ events := by
  simp only [begun, List.mem_flatMap]
  constructor
  · rintro ⟨event, hmem, hbegins⟩
    cases event <;> simp_all [SagaEvent.begins]
  · exact fun h => ⟨_, h, by simp [SagaEvent.begins]⟩

/-- **History of compensation.** A step is in its compensation half exactly when
the journal began it, and it is begun at most once. -/
structure BegunInStep (events : List SagaEvent) (state : SagaState) : Prop where
  mem_iff : ∀ stepId, stepId ∈ begun events ↔ state.inCompensationAt stepId = true
  nodup : (begun events).Nodup

/-- **History of completion.** The completion order is the journal's successes. -/
def CompletedInOrder (events : List SagaEvent) (state : SagaState) : Prop :=
  state.completionOrder = events.flatMap SagaEvent.completes

theorem Fresh.inCompensationAt {state : SagaState} (h : Fresh state)
    (stepId : SagaStepId) : state.inCompensationAt stepId = false := by
  rw [Bool.eq_false_iff]
  intro hcomp
  rcases SagaState.inCompensationAt_iff.mp hcomp with hs | hs | hs <;>
    exact absurd (h.statusOf hs) (by simp)

/-- What a run from a fresh projection knows of its own journal. -/
structure History (events : List SagaEvent) (state : SagaState) : Prop where
  coherent : Coherent state
  begunInStep : BegunInStep events state
  completed : CompletedInOrder events state

theorem Fresh.history {state : SagaState} (h : Fresh state) : History [] state where
  coherent := h.coherent
  begunInStep := ⟨fun stepId => by simp [begun, h.inCompensationAt], List.nodup_nil⟩
  completed := by simp [CompletedInOrder, h.completionOrder]

theorem History.step {events : List SagaEvent} {state state' : SagaState}
    (h : History events state) {event : SagaEvent}
    (hstep : evolve state event = .ok state') : History (events ++ [event]) state' := by
  obtain ⟨hadm, rfl⟩ := h.coherent.evolve_eq_ok.mp hstep
  refine ⟨h.coherent.after hadm, ⟨fun stepId => ?_, ?_⟩, ?_⟩
  · simp only [begun, List.flatMap_append, List.mem_append, hadm.inCompensationAt_after,
      Bool.or_eq_true, decide_eq_true_eq, List.flatMap_singleton]
    rw [← h.begunInStep.mem_iff, begun]
  · simp only [begun, List.flatMap_append, List.flatMap_singleton]
    refine List.nodup_append.mpr ⟨h.begunInStep.nodup, ?_, ?_⟩
    · cases event <;> simp [SagaEvent.begins]
    · rintro a ha b hb rfl
      have hexp := hadm.expects (SagaEvent.moves_of_mem_begins hb)
      have hcomp := (h.begunInStep.mem_iff a).mp ha
      cases event <;> simp_all [SagaEvent.begins, SagaEvent.expects,
        SagaState.inCompensationAt, SagaStepStatus.inCompensation]
  · rw [CompletedInOrder, SagaState.completionOrder_after, h.completed]
    simp

/-- **Run lemma.** Every run from a fresh projection has its history. -/
theorem Fresh.history_run {init state : SagaState} (h : Fresh init)
    {events : List SagaEvent} (hrun : evolveAll init events = .ok state) :
    History events state :=
  run_history h.history (fun _ _ _ _ _ hhist hstep => hhist.step hstep) hrun

/-! ## A concrete program: two compensatable steps side by side -/

def stepA : SagaStepId := ⟨"a", by decide⟩

def stepB : SagaStepId := ⟨"b", by decide⟩

def pairProgram : SagaProgram String :=
  .parallelNode
    [.step ⟨stepA, "create a", some "delete a"⟩, .step
      ⟨stepB, "create b", some "delete b"⟩]
    .done

/-- A projection of the pair with no flag set. -/
def pairState (a b : SagaStepStatus) (completionOrder : List SagaStepId) :
    SagaState where
  steps := [⟨stepA, a, true⟩, ⟨stepB, b, true⟩]
  completionOrder := completionOrder
  failedSteps := []
  cancelled := false
  compensationRequested := false

theorem pairProgram_initial :
    initialState pairProgram = .ok (pairState .pending .pending []) := rfl

end ControlPlaneKit.Planning
