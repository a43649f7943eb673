import ControlPlaneKit.Planning.SagaHistory

/-!
# SagaClosure — when compensation closes the forward half

The guard of `SagaCompensationStarted` looks at the candidates alone, not at the
saga's status, so a compensation can begin in a saga that never failed, was never
cancelled and never asked for it.  While the step is compensating the saga is
closed; once that compensation succeeds nothing may hold it closed any more.
`closesForward_iff` says exactly which runs stay closed: those in which every
compensation success leaves some other reason behind.
-/

namespace ControlPlaneKit.Planning

open ControlPlaneKit.Library.EventFold

/-! ## Reading the saga status -/

namespace SagaState

/-- Some reason to keep the forward half closed outlives the compensations
already settled. -/
def KeepsClosed (state : SagaState) : Prop :=
  state.hasStatus .compensating = true ∨ state.hasStatus .compensationFailed = true ∨
    state.compensationRequested = true ∨ state.failedSteps ≠ [] ∨ state.cancelled = true

theorem forwardStatus_of_halted {state : SagaState}
    (h : state.failedSteps ≠ [] ∨ state.cancelled = true) :
    state.forwardStatus = .failed ∨ state.forwardStatus = .cancelled := by
  unfold forwardStatus
  by_cases hfailed : state.failedSteps ≠ []
  · simp [hfailed]
  · simp [hfailed, h.resolve_left hfailed]

theorem forwardStatus_of_not_halted {state : SagaState}
    (h : ¬ (state.failedSteps ≠ [] ∨ state.cancelled = true)) :
    state.forwardStatus = .succeeded ∨ state.forwardStatus = .active := by
  obtain ⟨hfailed, hcancel⟩ : state.failedSteps = [] ∧ state.cancelled = false := by
    simpa using h
  rw [forwardStatus, if_neg (by simp [hfailed]), if_neg (by simp [hcancel])]
  split <;> simp

/-- A saga with no reason to stay closed reports its forward status. -/
theorem currentStatus_of_not_keepsClosed {state : SagaState} (h : ¬ state.KeepsClosed) :
    state.currentStatus = .succeeded ∨ state.currentStatus = .active := by
  simp only [KeepsClosed, not_or, Bool.not_eq_true] at h
  obtain ⟨hcomp, hfail, hreq, hhalt⟩ := h
  have hnot : ¬ (state.failedSteps ≠ [] ∨ state.cancelled = true) := by
    simpa using hhalt
  simp only [currentStatus, hcomp, hfail, hreq, currentHalted, hnot, false_and,
    Bool.false_eq_true, if_false]
  exact forwardStatus_of_not_halted hnot

/-- Where a step is in its compensation half, any reason to stay closed shows in
the reported status. -/
theorem currentStatus_of_keepsClosed {state : SagaState} (hnd : state.ids.Nodup)
    {stepId : SagaStepId} (hin : state.inCompensationAt stepId = true)
    (h : state.KeepsClosed) :
    state.currentStatus ≠ .succeeded ∧ state.currentStatus ≠ .active := by
  unfold currentStatus
  cases hcomp : state.hasStatus .compensating with
  | true => simp
  | false =>
      cases hfail : state.hasStatus .compensationFailed with
      | true => simp
      | false =>
          have hdone : state.hasStatus .compensated = true := by
            have hnone : ∀ status, state.hasStatus status = false →
                state.statusOf stepId ≠ some status := fun status hno hstatus => by
              rw [(hasStatus_iff hnd).mpr ⟨stepId, hstatus⟩] at hno
              cases hno
            refine (hasStatus_iff hnd).mpr ⟨stepId, ?_⟩
            rcases inCompensationAt_iff.mp hin with hs | hs | hs
            · exact absurd hs (hnone _ hcomp)
            · exact hs
            · exact absurd hs (hnone _ hfail)
          cases hreq : state.compensationRequested with
          | true =>
              simp only [Bool.false_eq_true, if_false, if_true, hdone]
              split <;> simp
          | false =>
              have hhalt : state.failedSteps ≠ [] ∨ state.cancelled = true := by
                simpa [KeepsClosed, hcomp, hfail, hreq] using h
              simp only [Bool.false_eq_true, if_false, currentHalted, hhalt, true_and,
                hdone, and_true]
              split
              · simp
              · rcases forwardStatus_of_halted hhalt with hs | hs <;> simp [hs]

end SagaState

/-! ## A begun compensation closes the forward half -/

/-- The property: from the first `SagaCompensationStarted` on, no start is
accepted and the saga never reports ACTIVE or SUCCEEDED. -/
def ClosesForward (init : SagaState) (events : List SagaEvent) : Prop :=
  ∀ pre post state, events = pre ++ post →
    (∃ stepId, .compensationStarted stepId ∈ pre) → evolveAll init pre = .ok state →
    (∀ stepId state', evolve state (.stepStarted stepId) ≠ .ok state') ∧
      state.status ≠ .ok .active ∧ state.status ≠ .ok .succeeded

/-- A compensation success leaves some other reason to stay closed: a request, a
failure, a cancellation, another step compensating or failed to compensate. -/
def OutlivesCompensation (state : SagaState) : SagaEvent → Prop
  | .compensationSucceeded stepId =>
      state.compensationRequested = true ∨ state.failedSteps ≠ [] ∨
        state.cancelled = true ∨
        (∃ value ∈ state.steps, value.stepId ≠ stepId ∧ value.status = .compensating) ∨
        ∃ value ∈ state.steps, value.status = .compensationFailed
  | _ => True

/-- Every reason but the compensation that just succeeded survives an event. -/
theorem keepsClosed_after {state : SagaState} (hcoh : Coherent state)
    {event : SagaEvent} (hadm : Admits state event) (hkeeps : state.KeepsClosed)
    (hout : OutlivesCompensation state event) : (state.after event).KeepsClosed := by
  have hnd' : (state.after event).ids.Nodup := by
    rw [SagaState.ids_after]; exact hcoh.ids_nodup
  have hstatus : ∀ status, event.expects ≠ status → state.hasStatus status = true →
      (state.after event).hasStatus status = true := by
    intro status hne hhas
    obtain ⟨j, hj⟩ := (SagaState.hasStatus_iff hcoh.ids_nodup).mp hhas
    exact (SagaState.hasStatus_iff hnd').mpr ⟨j, hadm.statusOf_kept hj hne⟩
  have hfailed : event.expects ≠ .compensationFailed := by
    cases event <;> simp [SagaEvent.expects]
  have hreq : state.compensationRequested = true →
      (state.after event).compensationRequested = true := by
    cases event <;> simp [SagaState.after, SagaState.setStatus]
  have hcancel : state.cancelled = true → (state.after event).cancelled = true := by
    cases event <;> simp [SagaState.after, SagaState.setStatus]
  have hfail : state.failedSteps ≠ [] → (state.after event).failedSteps ≠ [] := by
    rw [SagaState.failedSteps_after]; simp +contextual
  rcases hkeeps with h | h | h | h | h
  · cases event with
    | compensationSucceeded stepId =>
        rcases hout with h | h | h | ⟨value, hmem, hne, hvalue⟩ | ⟨value, hmem, hvalue⟩
        · exact .inr (.inr (.inl (hreq h)))
        · exact .inr (.inr (.inr (.inl (hfail h))))
        · exact .inr (.inr (.inr (.inr (hcancel h))))
        · refine .inl ((SagaState.hasStatus_iff hnd').mpr ⟨value.stepId, ?_⟩)
          rw [hadm.statusOf_after_eq_some,
            SagaState.statusOf_of_mem hcoh.ids_nodup hmem]
          exact .inr ⟨by rw [hvalue], by simp [SagaEvent.moves, Ne.symm hne]⟩
        · refine .inr (.inl (hstatus _ hfailed ?_))
          exact (SagaState.hasStatus_iff hcoh.ids_nodup).mpr
            ⟨value.stepId,
              by rw [SagaState.statusOf_of_mem hcoh.ids_nodup hmem, hvalue]⟩
    | compensationFailed stepId =>
        refine .inr (.inl ((SagaState.hasStatus_iff hnd').mpr ⟨stepId, ?_⟩))
        exact hadm.statusOf_after_eq_some.mpr (.inl rfl)
    | _ => exact .inl (hstatus _ (by simp [SagaEvent.expects]) h)
  · exact .inr (.inl (hstatus _ hfailed h))
  · exact .inr (.inr (.inl (hreq h)))
  · exact .inr (.inr (.inr (.inl (hfail h))))
  · exact .inr (.inr (.inr (.inr (hcancel h))))

/-- A success that outlives nothing leaves no reason to stay closed. -/
theorem outlives_of_keepsClosed {state : SagaState} (hcoh : Coherent state)
    {event : SagaEvent} (hadm : Admits state event)
    (hkeeps : (state.after event).KeepsClosed) : OutlivesCompensation state event := by
  cases event with
  | compensationSucceeded stepId =>
      have hnd' : (state.after (.compensationSucceeded stepId)).ids.Nodup := by
        rw [SagaState.ids_after]; exact hcoh.ids_nodup
      have hback : ∀ status, status ≠ .compensated →
          (state.after (.compensationSucceeded stepId)).hasStatus status = true →
          ∃ value ∈ state.steps, value.stepId ≠ stepId ∧ value.status = status := by
        intro status hne hhas
        obtain ⟨j, hj⟩ := (SagaState.hasStatus_iff hnd').mp hhas
        rcases hadm.statusOf_after_eq_some.mp hj with hmoved | ⟨hj, hother⟩
        · simp [SagaEvent.moves] at hmoved
          exact absurd hmoved.2.symm hne
        · obtain ⟨value, hmem, rfl, hvalue⟩ :=
            (SagaState.statusOf_eq_some hcoh.ids_nodup).mp hj
          exact ⟨value, hmem, by simpa [SagaEvent.moves, eq_comm] using hother, hvalue⟩
      rcases hkeeps with h | h | h | h | h
      · exact .inr (.inr (.inr (.inl (hback _ (by simp) h))))
      · obtain ⟨value, hmem, -, hvalue⟩ := hback _ (by simp) h
        exact .inr (.inr (.inr (.inr ⟨value, hmem, hvalue⟩)))
      · exact .inl h
      · exact .inr (.inl h)
      · exact .inr (.inr (.inl h))
  | _ => trivial

/-- Under the guard, a run that has begun a compensation keeps a reason to stay
closed: the event either begins one or keeps the reason there was. -/
theorem keepsClosed_run {init state : SagaState} (hfresh : Fresh init)
    {events : List SagaEvent} (hguard : Guarded evolve OutlivesCompensation init events)
    (hrun : evolveAll init events = .ok state) (hbegun : begun events ≠ []) :
    state.KeepsClosed := by
  refine (run_guarded (I := fun h s => History h s ∧ (begun h ≠ [] → s.KeepsClosed))
    ⟨hfresh.history, by simp [begun]⟩ ?_ hguard hrun).2 hbegun
  rintro h m event t - ⟨hhist, hkeeps⟩ hout hstep
  refine ⟨hhist.step hstep, fun hne => ?_⟩
  obtain ⟨hadm, rfl⟩ := hhist.coherent.evolve_eq_ok.mp hstep
  by_cases hpast : begun h = []
  · -- the first begun compensation is this event's own, and is still running
    have hown : begun (h ++ [event]) = event.begins := by
      rw [begun, List.flatMap_append, ← begun, hpast]
      simp
    obtain ⟨stepId, hmem⟩ := List.exists_mem_of_ne_nil _ (hown ▸ hne)
    have hnd' : (m.after event).ids.Nodup := by
      rw [SagaState.ids_after]; exact hhist.coherent.ids_nodup
    exact .inl ((SagaState.hasStatus_iff hnd').mpr
      ⟨stepId, hadm.statusOf_after_eq_some.mpr
        (.inl (SagaEvent.moves_of_mem_begins hmem))⟩)
  · exact keepsClosed_after hhist.coherent hadm (hkeeps hpast) hout

/-- **Which runs stay closed.** A run of a saga program closes its forward half
at its first `SagaCompensationStarted` exactly when every compensation success
it contains outlives some other reason to stay closed. -/
theorem closesForward_iff {Effect : Type} {program : SagaProgram Effect}
    {init state : SagaState} {events : List SagaEvent}
    (hinit : initialState program = .ok init)
    (hrun : evolveAll init events = .ok state) :
    ClosesForward init events ↔ Guarded evolve OutlivesCompensation init events := by
  have hfresh := initialState_fresh hinit
  constructor
  · intro hclose pre event post m hsplit hpre
    cases event with
    | compensationSucceeded stepId =>
        subst hsplit
        obtain ⟨m', t, hm', hstep, -⟩ := run_at hrun
        rw [hpre, Except.ok.injEq] at hm'
        subst hm'
        have hhist := hfresh.history_run hpre
        obtain ⟨hadm, rfl⟩ := hhist.coherent.evolve_eq_ok.mp hstep
        have hbegun : stepId ∈ begun pre := by
          rw [hhist.begunInStep.mem_iff, SagaState.inCompensationAt_iff]
          exact .inl hadm
        have hnext : evolveAll init (pre ++ [.compensationSucceeded stepId]) = .ok _ :=
          run_concat.mpr ⟨m, hpre, hstep⟩
        have hopen := hclose (pre ++ [.compensationSucceeded stepId]) post _ (by simp)
          ⟨stepId, List.mem_append_left _ (mem_begun.mp hbegun)⟩ hnext
        rw [(hhist.coherent.after hadm).tabled.status_eq] at hopen
        refine outlives_of_keepsClosed hhist.coherent hadm (by_contra fun hnot => ?_)
        rcases SagaState.currentStatus_of_not_keepsClosed hnot with h | h <;>
          simp [h] at hopen
    | _ => trivial
  · intro hguard pre post m hsplit hbegun hpre
    subst hsplit
    obtain ⟨stepId, hmem⟩ := hbegun
    have hhist := hfresh.history_run hpre
    have hin := (hhist.begunInStep.mem_iff stepId).mp (mem_begun.mpr hmem)
    have hkeeps := keepsClosed_run hfresh hguard.of_append hpre
      (List.ne_nil_of_mem (mem_begun.mpr hmem))
    obtain ⟨hsucc, hactive⟩ :=
      SagaState.currentStatus_of_keepsClosed hhist.coherent.ids_nodup hin hkeeps
    rw [hhist.coherent.tabled.status_eq]
    refine ⟨fun j m' hstep => ?_, by simpa using hactive, by simpa using hsucc⟩
    exact hactive (hhist.coherent.evolve_eq_ok.mp hstep).1.1

/-- The journal of a compensation nobody asked for. -/
def reopeningEvents : List SagaEvent :=
  [.stepStarted stepA, .stepSucceeded stepA, .compensationStarted stepA,
    .compensationSucceeded stepA]

/-- **The forward half reopens.** The pair compensates its first step without a
request, failure or cancellation, is ACTIVE again, and may start the second. -/
theorem not_closesForward_pair :
    ∃ init state, initialState pairProgram = .ok init ∧
      evolveAll init (reopeningEvents ++ [.stepStarted stepB]) = .ok state ∧
      ¬ ClosesForward init (reopeningEvents ++ [.stepStarted stepB]) := by
  refine ⟨_, pairState .compensated .running [stepA], pairProgram_initial,
    by decide, ?_⟩
  intro hclose
  have hactive := (hclose reopeningEvents [.stepStarted stepB]
    (pairState .compensated .pending [stepA]) rfl ⟨stepA, by decide⟩ (by decide)).2.1
  exact hactive (by decide)

/-- The same compensation after a request stays closed. -/
theorem closesForward_requested_pair :
    ClosesForward (pairState .pending .pending [])
      ([.stepStarted stepA, .stepSucceeded stepA, .compensationRequested,
        .compensationStarted stepA] ++ [.compensationSucceeded stepA]) := by
  have hbefore : evolveAll (pairState .pending .pending [])
      [.stepStarted stepA, .stepSucceeded stepA, .compensationRequested,
        .compensationStarted stepA] =
      .ok { pairState .compensating .pending [stepA] with
        compensationRequested := true } := by
    decide
  have hrun : evolveAll (pairState .pending .pending [])
      ([.stepStarted stepA, .stepSucceeded stepA, .compensationRequested,
        .compensationStarted stepA] ++ [.compensationSucceeded stepA]) =
      .ok { pairState .compensated .pending [stepA] with
        compensationRequested := true } := by
    decide
  refine (closesForward_iff pairProgram_initial hrun).mpr (guarded_concat.mpr
    ⟨guarded_of_forall (by simp [OutlivesCompensation]), fun m hm => ?_⟩)
  obtain rfl := Except.ok.inj (hbefore.symm.trans hm)
  simp [OutlivesCompensation]

end ControlPlaneKit.Planning
