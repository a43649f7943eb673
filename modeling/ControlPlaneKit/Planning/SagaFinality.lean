import ControlPlaneKit.Planning.SagaClosure

/-!
# SagaFinality — when a COMPENSATED saga is final

The status rule never looks at running steps, so a saga can report COMPENSATED
while a step is still running; that step's success then takes the report back.
With no step running, COMPENSATED admits no event at all.
`compensatedIsFinal_iff` says which runs are final once compensated: those in
which the event that settles the saga leaves no step running.
-/

namespace ControlPlaneKit.Planning

open ControlPlaneKit.Library.EventFold

/-- The property: a state reporting COMPENSATED has no step running or
compensating, and every later state of the run reports COMPENSATED. -/
def CompensatedIsFinal (init : SagaState) (events : List SagaEvent) : Prop :=
  ∀ pre post state, events = pre ++ post → evolveAll init pre = .ok state →
    state.status = .ok .compensated →
    (∀ value ∈ state.steps, value.status ≠ .running ∧ value.status ≠ .compensating) ∧
      ∀ mid rest later, post = mid ++ rest → evolveAll state mid = .ok later →
        later.status = .ok .compensated

/-- A compensation success, a step failure or a cancellation that leaves nothing
to compensate leaves no step running either. -/
def SettlesWithNoneRunning (state : SagaState) : SagaEvent → Prop
  | .compensationSucceeded stepId =>
      state.compensationRequested = true ∨ state.failedSteps ≠ [] ∨
        state.cancelled = true →
      compensationCandidates state = .ok [] →
      (∀ value ∈ state.steps, value.stepId ≠ stepId →
        value.status ≠ .compensating ∧ value.status ≠ .compensationFailed) →
      ∀ value ∈ state.steps, value.status ≠ .running
  | .stepFailed stepId =>
      (∃ value ∈ state.steps, value.status = .compensated) →
      compensationCandidates state = .ok [] →
      (∀ value ∈ state.steps,
        value.status ≠ .compensating ∧ value.status ≠ .compensationFailed) →
      ∀ value ∈ state.steps, value.stepId ≠ stepId → value.status ≠ .running
  | .cancelled =>
      (∃ value ∈ state.steps, value.status = .compensated) →
      compensationCandidates state = .ok [] →
      ∀ value ∈ state.steps, value.status ≠ .running
  | _ => True

/-! ## Settled states -/

namespace SagaState

theorem hasStatus_eq_true {state : SagaState} {status : SagaStepStatus} :
    state.hasStatus status = true ↔ ∃ value ∈ state.steps, value.status = status := by
  simp [hasStatus]

theorem hasStatus_eq_false {state : SagaState} {status : SagaStepStatus} :
    state.hasStatus status = false ↔ ∀ value ∈ state.steps, value.status ≠ status := by
  simp [hasStatus]

/-- Nothing left to compensate in a saga that was asked to stop. -/
structure Settled (state : SagaState) : Prop where
  compensating : state.hasStatus .compensating = false
  compensationFailed : state.hasStatus .compensationFailed = false
  compensated : state.hasStatus .compensated = true
  candidates : state.candidates = []
  stopped : state.compensationRequested = true ∨ state.failedSteps ≠ [] ∨
    state.cancelled = true

theorem forwardStatus_ne_compensated (state : SagaState) :
    state.forwardStatus ≠ .compensated := by
  unfold forwardStatus
  split <;> [simp; (split <;> [simp; (split <;> simp)])]

/-- **COMPENSATED** is reported exactly in the settled states. -/
theorem currentStatus_eq_compensated_iff {state : SagaState} :
    state.currentStatus = .compensated ↔ state.Settled := by
  have hforward := state.forwardStatus_ne_compensated
  constructor
  · intro h
    unfold currentStatus currentHalted at h
    split at h
    · cases h
    · split at h
      · cases h
      · rename_i hcomp hfail
        split at h
        · rename_i hreq
          split at h
          · cases h
          · rename_i hcand
            have hnil : state.candidates = [] := by simpa using hcand
            split at h
            · exact ⟨by simpa using hcomp, by simpa using hfail, by assumption,
                hnil, .inl hreq⟩
            · split at h
              · rename_i hhalt
                exact ⟨by simpa using hcomp, by simpa using hfail, hhalt.2.2,
                  hnil, .inl hreq⟩
              · exact absurd h hforward
        · split at h
          · rename_i hhalt
            exact ⟨by simpa using hcomp, by simpa using hfail, hhalt.2.2, hhalt.2.1,
              .inr hhalt.1⟩
          · exact absurd h hforward
  · rintro ⟨hcomp, hfail, hdone, hcand, hstop⟩
    simp only [currentStatus, hcomp, hfail, hcand, hdone, currentHalted,
      Bool.false_eq_true, if_false, ne_eq, not_true_eq_false, if_true, and_true]
    by_cases hreq : state.compensationRequested = true
    · simp [hreq]
    · simp [hreq, hstop.resolve_left hreq]

/-- A settled saga in which some step is still running. -/
def Stranded (state : SagaState) : Prop :=
  state.Settled ∧ state.hasStatus .running = true

end SagaState

/-- With no step running, a settled saga admits no event. -/
theorem SagaState.Settled.not_admits {state : SagaState} (h : state.Settled)
    (hnd : state.ids.Nodup) (hidle : state.hasStatus .running = false)
    (event : SagaEvent) : ¬ Admits state event := by
  have hstatus := SagaState.currentStatus_eq_compensated_iff.mpr h
  have habsent : ∀ {status stepId}, state.hasStatus status = false →
      state.statusOf stepId ≠ some status := by
    intro status stepId hno hsome
    rw [(SagaState.hasStatus_iff hnd).mpr ⟨stepId, hsome⟩] at hno
    cases hno
  intro hadm
  cases event with
  | stepStarted stepId => rw [Admits, hstatus] at hadm; cases hadm.1
  | stepSucceeded stepId => exact habsent hidle hadm
  | stepFailed stepId => exact habsent hidle hadm
  | cancelled => rw [Admits, hstatus] at hadm; cases hadm
  | compensationRequested => rw [Admits, hstatus] at hadm; cases hadm.2.1
  | compensationStarted stepId => rw [Admits, h.candidates] at hadm; cases hadm
  | compensationSucceeded stepId => exact habsent h.compensating hadm
  | compensationFailed stepId => exact habsent h.compensating hadm

/-! ## What an event does to the statuses present -/

/-- After a move, the statuses present are the new one and those of the others. -/
theorem Admits.hasStatus_after {state : SagaState} {event : SagaEvent}
    (hnd : state.ids.Nodup) (h : Admits state event) {stepId : SagaStepId}
    {moved status : SagaStepStatus} (hmoves : event.moves = some (stepId, moved)) :
    (state.after event).hasStatus status = true ↔
      status = moved ∨ ∃ value ∈ state.steps,
        value.stepId ≠ stepId ∧ value.status = status := by
  have hnd' : (state.after event).ids.Nodup := by rw [SagaState.ids_after]; exact hnd
  simp only [SagaState.hasStatus_iff hnd', h.statusOf_after_eq_some, hmoves,
    ne_eq, Option.some.injEq, Prod.mk.injEq]
  constructor
  · rintro ⟨j, ⟨rfl, rfl⟩ | ⟨hj, hother⟩⟩
    · exact .inl rfl
    · obtain ⟨value, hmem, rfl, hvalue⟩ := (SagaState.statusOf_eq_some hnd).mp hj
      exact .inr ⟨value, hmem, fun heq => hother moved ⟨heq.symm, rfl⟩, hvalue⟩
  · rintro (rfl | ⟨value, hmem, hne, rfl⟩)
    · exact ⟨stepId, .inl ⟨rfl, rfl⟩⟩
    · exact ⟨value.stepId, .inr ⟨SagaState.statusOf_of_mem hnd hmem,
        fun other hmoved => hne hmoved.1.symm⟩⟩

/-- Candidates only grow by completions and shrink by begun compensations. -/
theorem Admits.candidates_kept {state : SagaState} {event : SagaEvent}
    (h : Admits state event) {stepId : SagaStepId} (hmem : stepId ∈ state.candidates)
    (hbegin : event.expects ≠ .succeeded) :
    stepId ∈ (state.after event).candidates := by
  obtain ⟨hdone, hcandidate⟩ := List.mem_filter.mp hmem
  simp only [SagaState.isCandidate, Bool.and_eq_true, decide_eq_true_eq] at hcandidate
  refine List.mem_filter.mpr ⟨?_, ?_⟩
  · rw [SagaState.completionOrder_after, List.mem_reverse, List.mem_append]
    exact .inl (List.mem_reverse.mp hdone)
  · simp [SagaState.isCandidate, hcandidate.1, h.statusOf_kept hcandidate.2 hbegin]

theorem Admits.candidates_after {state : SagaState} {event : SagaEvent}
    (h : Admits state event) (hcompletes : event.completes = [])
    (hbegin : event.expects ≠ .succeeded) :
    (state.after event).candidates = state.candidates := by
  rw [SagaState.candidates, SagaState.candidates, SagaState.completionOrder_after,
    hcompletes, List.append_nil]
  refine List.filter_congr fun j _ => ?_
  have hstatus : (state.after event).statusOf j = some .succeeded ↔
      state.statusOf j = some .succeeded := by
    refine ⟨fun hj => ?_, fun hj => h.statusOf_kept hj hbegin⟩
    rcases h.statusOf_after_eq_some.mp hj with hmoved | ⟨hj, -⟩
    · cases event <;> simp_all [SagaEvent.moves, SagaEvent.completes]
    · exact hj
  simp [SagaState.isCandidate, hstatus]

/-! ## Which events strand a running step -/

/-- Events that neither settle nor unsettle: whatever is settled after them was
settled before. -/
theorem settled_before {state : SagaState} (hcoh : Coherent state) {event : SagaEvent}
    (hadm : Admits state event) {stepId : SagaStepId} {moved : SagaStepStatus}
    (hmoves : event.moves = some (stepId, moved))
    (hplain : moved.inCompensation = false)
    (hbefore : event.expects.inCompensation = false ∧ event.expects ≠ .succeeded)
    (hfails : event.fails = []) (h : (state.after event).Settled) : state.Settled := by
  have hpresent : ∀ status : SagaStepStatus, status.inCompensation = true →
      ((state.after event).hasStatus status = true ↔
        state.hasStatus status = true) := by
    intro status hin
    rw [hadm.hasStatus_after hcoh.ids_nodup hmoves, SagaState.hasStatus_eq_true]
    constructor
    · rintro (rfl | ⟨value, hmem, -, hvalue⟩)
      · rw [hplain] at hin; cases hin
      · exact ⟨value, hmem, hvalue⟩
    · rintro ⟨value, hmem, rfl⟩
      refine .inr ⟨value, hmem, fun heq => ?_, rfl⟩
      have hexp := hadm.expects hmoves
      rw [← heq, SagaState.statusOf_of_mem hcoh.ids_nodup hmem,
        Option.some.injEq] at hexp
      rw [hexp, hbefore.1] at hin
      cases hin
  have habsent : ∀ status : SagaStepStatus, status.inCompensation = true →
      (state.after event).hasStatus status = false →
      state.hasStatus status = false := by
    intro status hin hno
    rw [Bool.eq_false_iff] at hno ⊢
    exact fun hhas => hno ((hpresent status hin).mpr hhas)
  refine ⟨habsent _ rfl h.compensating, habsent _ rfl h.compensationFailed,
    (hpresent _ rfl).mp h.compensated, ?_, ?_⟩
  · refine List.eq_nil_iff_forall_not_mem.mpr fun j hj => ?_
    have := hadm.candidates_kept hj hbefore.2
    rw [h.candidates] at this
    cases this
  · have hstop := h.stopped
    rw [SagaState.failedSteps_after, hfails, List.append_nil] at hstop
    cases event <;> first | exact hstop | cases hmoves

theorem Tabled.candidates_eq_nil {state : SagaState} (h : Tabled state) :
    compensationCandidates state = .ok [] ↔ state.candidates = [] := by
  rw [h.candidates_eq, Except.ok.injEq]

/-- A compensation success strands a step exactly when it was the last one open. -/
theorem stranded_after_compensationSucceeded {state : SagaState} (hcoh : Coherent state)
    {stepId : SagaStepId} (hadm : Admits state (.compensationSucceeded stepId)) :
    (state.after (.compensationSucceeded stepId)).Stranded ↔
      ¬ SettlesWithNoneRunning state (.compensationSucceeded stepId) := by
  have hcand : (state.after (.compensationSucceeded stepId)).candidates =
      state.candidates :=
    hadm.candidates_after rfl (by simp [SagaEvent.expects])
  have hpresent : ∀ status,
      (state.after (.compensationSucceeded stepId)).hasStatus status = true ↔
        status = .compensated ∨
          ∃ value ∈ state.steps, value.stepId ≠ stepId ∧ value.status = status :=
    fun _ => hadm.hasStatus_after hcoh.ids_nodup rfl
  simp only [SettlesWithNoneRunning, hcoh.tabled.candidates_eq_nil]
  constructor
  · rintro ⟨hset, hrun⟩ hguard
    obtain ⟨value, hmem, -, hvalue⟩ := ((hpresent _).mp hrun).resolve_left (by simp)
    refine hguard hset.stopped (hcand ▸ hset.candidates)
      (fun other hother hne => ⟨?_, ?_⟩) value hmem hvalue
    · intro hstatus
      have := (hpresent _).mpr (.inr ⟨other, hother, hne, hstatus⟩)
      rw [hset.compensating] at this
      cases this
    · intro hstatus
      have := (hpresent _).mpr (.inr ⟨other, hother, hne, hstatus⟩)
      rw [hset.compensationFailed] at this
      cases this
  · intro hguard
    push Not at hguard
    obtain ⟨hstop, hnil, hothers, value, hmem, hvalue⟩ := hguard
    have habsent : ∀ status : SagaStepStatus, status ≠ .compensated →
        (∀ other ∈ state.steps, other.stepId ≠ stepId → other.status ≠ status) →
        (state.after (.compensationSucceeded stepId)).hasStatus status = false := by
      intro status hne hnone
      rw [Bool.eq_false_iff, ne_eq, hpresent]
      rintro (heq | ⟨other, hother, hid, hstatus⟩)
      · exact hne heq
      · exact hnone other hother hid hstatus
    refine ⟨⟨habsent _ (by simp) fun other hother hid => (hothers other hother hid).1,
      habsent _ (by simp) fun other hother hid => (hothers other hother hid).2,
      (hpresent _).mpr (.inl rfl), hcand.trans hnil, hstop⟩, (hpresent _).mpr (.inr ?_)⟩
    refine ⟨value, hmem, fun heq => ?_, hvalue⟩
    have hexp : state.statusOf stepId = some .compensating := hadm
    rw [← heq, SagaState.statusOf_of_mem hcoh.ids_nodup hmem, hvalue] at hexp
    cases hexp

/-- A failure strands a step exactly when nothing was left to compensate. -/
theorem stranded_after_stepFailed {state : SagaState} (hcoh : Coherent state)
    {stepId : SagaStepId} (hadm : Admits state (.stepFailed stepId)) :
    (state.after (.stepFailed stepId)).Stranded ↔
      ¬ SettlesWithNoneRunning state (.stepFailed stepId) := by
  have hcand : (state.after (.stepFailed stepId)).candidates = state.candidates :=
    hadm.candidates_after rfl (by simp [SagaEvent.expects])
  have hpresent : ∀ status, (state.after (.stepFailed stepId)).hasStatus status = true ↔
      status = .failed ∨
        ∃ value ∈ state.steps, value.stepId ≠ stepId ∧ value.status = status :=
    fun _ => hadm.hasStatus_after hcoh.ids_nodup rfl
  have hrunning : ∀ value ∈ state.steps, value.stepId = stepId →
      value.status = .running := by
    intro value hmem heq
    have hexp : state.statusOf stepId = some .running := hadm
    rw [← heq, SagaState.statusOf_of_mem hcoh.ids_nodup hmem, Option.some.injEq] at hexp
    exact hexp
  have hother : ∀ status : SagaStepStatus, status ≠ .running → status ≠ .failed →
      ((state.after (.stepFailed stepId)).hasStatus status = true ↔
        ∃ value ∈ state.steps, value.status = status) := by
    intro status hnr hnf
    rw [hpresent]
    constructor
    · rintro (heq | ⟨value, hmem, -, hvalue⟩)
      · exact absurd heq hnf
      · exact ⟨value, hmem, hvalue⟩
    · rintro ⟨value, hmem, hvalue⟩
      refine .inr ⟨value, hmem, fun heq => hnr ?_, hvalue⟩
      rw [← hvalue, hrunning value hmem heq]
  simp only [SettlesWithNoneRunning, hcoh.tabled.candidates_eq_nil]
  constructor
  · rintro ⟨hset, hrun⟩ hguard
    obtain ⟨value, hmem, hne, hvalue⟩ := ((hpresent _).mp hrun).resolve_left (by simp)
    refine hguard ((hother _ (by simp) (by simp)).mp hset.compensated)
      (hcand ▸ hset.candidates)
      (fun other hmem' => ⟨fun hstatus => ?_, fun hstatus => ?_⟩) value hmem hne hvalue
    · have := (hother _ (by simp) (by simp)).mpr ⟨other, hmem', hstatus⟩
      rw [hset.compensating] at this
      cases this
    · have := (hother _ (by simp) (by simp)).mpr ⟨other, hmem', hstatus⟩
      rw [hset.compensationFailed] at this
      cases this
  · intro hguard
    push Not at hguard
    obtain ⟨hdone, hnil, hothers, value, hmem, hne, hvalue⟩ := hguard
    refine ⟨⟨?_, ?_, (hother _ (by simp) (by simp)).mpr hdone, hcand.trans hnil,
      .inr (.inl (by simp [SagaState.failedSteps_after, SagaEvent.fails]))⟩,
      (hpresent _).mpr (.inr ⟨value, hmem, hne, hvalue⟩)⟩
    · rw [Bool.eq_false_iff, ne_eq, hother _ (by simp) (by simp)]
      rintro ⟨other, hmem', hstatus⟩
      exact (hothers other hmem').1 hstatus
    · rw [Bool.eq_false_iff, ne_eq, hother _ (by simp) (by simp)]
      rintro ⟨other, hmem', hstatus⟩
      exact (hothers other hmem').2 hstatus

/-- A cancellation strands a step exactly when everything completed is already
compensated. -/
theorem stranded_after_cancelled {state : SagaState} (hcoh : Coherent state)
    (hadm : Admits state .cancelled) :
    (state.after .cancelled).Stranded ↔ ¬ SettlesWithNoneRunning state .cancelled := by
  have hcand : (state.after .cancelled).candidates = state.candidates :=
    hadm.candidates_after rfl (by simp [SagaEvent.expects])
  have hsame : ∀ status, (state.after .cancelled).hasStatus status =
      state.hasStatus status :=
    fun _ => rfl
  have hactive : state.currentStatus = .active := hadm
  simp only [SettlesWithNoneRunning, hcoh.tabled.candidates_eq_nil]
  constructor
  · rintro ⟨hset, hrun⟩ hguard
    obtain ⟨value, hmem, hvalue⟩ := SagaState.hasStatus_eq_true.mp hrun
    exact hguard (SagaState.hasStatus_eq_true.mp hset.compensated)
      (hcand ▸ hset.candidates) value hmem hvalue
  · intro hguard
    push Not at hguard
    obtain ⟨hdone, hnil, hrun⟩ := hguard
    have hopen : state.hasStatus .compensating = false ∧
        state.hasStatus .compensationFailed = false := by
      unfold SagaState.currentStatus at hactive
      split at hactive
      · cases hactive
      · split at hactive
        · cases hactive
        · exact ⟨by simp_all, by simp_all⟩
    refine ⟨⟨(hsame _).trans hopen.1, (hsame _).trans hopen.2,
      (hsame _).trans (SagaState.hasStatus_eq_true.mpr hdone), hcand.trans hnil,
      .inr (.inr rfl)⟩, (hsame _).trans (SagaState.hasStatus_eq_true.mpr hrun)⟩

/-- **Step lemma.** From a state that strands no step, an event strands one
exactly when it settles the saga with a step still running. -/
theorem stranded_after_iff {state : SagaState} (hcoh : Coherent state)
    {event : SagaEvent} (hadm : Admits state event) (hsafe : ¬ state.Stranded) :
    (state.after event).Stranded ↔ ¬ SettlesWithNoneRunning state event := by
  have hpresent : ∀ {stepId moved}, event.moves = some (stepId, moved) →
      (state.after event).hasStatus moved = true := fun hmoves =>
    (hadm.hasStatus_after hcoh.ids_nodup hmoves).mpr (.inl rfl)
  cases event with
  | stepStarted stepId =>
      refine iff_of_false (fun h => ?_) (not_not.mpr trivial)
      have hsettled :=
        settled_before hcoh hadm rfl rfl ⟨rfl, by simp [SagaEvent.expects]⟩ rfl h.1
      have hactive := hadm.1
      rw [SagaState.currentStatus_eq_compensated_iff.mpr hsettled] at hactive
      cases hactive
  | stepSucceeded stepId =>
      refine iff_of_false (fun h => hsafe ?_) (not_not.mpr trivial)
      exact ⟨settled_before hcoh hadm rfl rfl
        ⟨rfl, by simp [SagaEvent.expects]⟩ rfl h.1,
        (SagaState.hasStatus_iff hcoh.ids_nodup).mpr ⟨stepId, hadm⟩⟩
  | stepFailed stepId => exact stranded_after_stepFailed hcoh hadm
  | cancelled => exact stranded_after_cancelled hcoh hadm
  | compensationRequested =>
      refine iff_of_false (fun h => hadm.2.2 ?_) (not_not.mpr trivial)
      exact (hadm.candidates_after rfl (by simp [SagaEvent.expects])).symm.trans
        h.1.candidates
  | compensationStarted stepId =>
      refine iff_of_false (fun h => ?_) (not_not.mpr trivial)
      have := h.1.compensating
      rw [hpresent rfl] at this
      cases this
  | compensationSucceeded stepId => exact stranded_after_compensationSucceeded hcoh hadm
  | compensationFailed stepId =>
      refine iff_of_false (fun h => ?_) (not_not.mpr trivial)
      have := h.1.compensationFailed
      rw [hpresent rfl] at this
      cases this

/-- An event outside the guard strands a step, whatever the state. -/
theorem stranded_of_not_settles {state : SagaState} (hcoh : Coherent state)
    {event : SagaEvent} (hadm : Admits state event)
    (h : ¬ SettlesWithNoneRunning state event) : (state.after event).Stranded := by
  cases event with
  | stepFailed stepId => exact (stranded_after_stepFailed hcoh hadm).mpr h
  | cancelled => exact (stranded_after_cancelled hcoh hadm).mpr h
  | compensationSucceeded stepId =>
      exact (stranded_after_compensationSucceeded hcoh hadm).mpr h
  | _ => exact absurd trivial h

/-- **Run lemma.** A guarded run strands no step. -/
theorem not_stranded_run {init state : SagaState} (hfresh : Fresh init)
    {events : List SagaEvent}
    (hguard : Guarded evolve SettlesWithNoneRunning init events)
    (hrun : evolveAll init events = .ok state) : ¬ state.Stranded := by
  refine (run_guarded (I := fun _ s => Coherent s ∧ ¬ s.Stranded)
    ⟨hfresh.coherent, ?_⟩ ?_ hguard hrun).2
  · rintro ⟨hset, -⟩
    obtain ⟨stepId, hdone⟩ :=
      (SagaState.hasStatus_iff hfresh.ids_nodup).mp hset.compensated
    exact absurd (hfresh.statusOf hdone) (by simp)
  · rintro - m event t - ⟨hcoh, hsafe⟩ hsettles hstep
    obtain ⟨hadm, rfl⟩ := hcoh.evolve_eq_ok.mp hstep
    exact ⟨hcoh.after hadm, fun h => (stranded_after_iff hcoh hadm hsafe).mp h hsettles⟩

/-- **Which compensated sagas are final.** Exactly in the runs where every event
that settles the saga leaves no step running. -/
theorem compensatedIsFinal_iff {Effect : Type} {program : SagaProgram Effect}
    {init state : SagaState} {events : List SagaEvent}
    (hinit : initialState program = .ok init)
    (hrun : evolveAll init events = .ok state) :
    CompensatedIsFinal init events ↔
      Guarded evolve SettlesWithNoneRunning init events := by
  have hfresh := initialState_fresh hinit
  constructor
  · intro hfinal pre event post m hsplit hpre
    subst hsplit
    obtain ⟨m', t, hm', hstep, -⟩ := run_at hrun
    rw [hpre, Except.ok.injEq] at hm'
    subst hm'
    have hcoh := hfresh.coherent.run hpre
    obtain ⟨hadm, rfl⟩ := hcoh.evolve_eq_ok.mp hstep
    by_contra hnot
    obtain ⟨hset, hrunning⟩ := stranded_of_not_settles hcoh hadm hnot
    have hnext : evolveAll init (pre ++ [event]) = .ok _ :=
      run_concat.mpr ⟨m, hpre, hstep⟩
    have hidle := (hfinal (pre ++ [event]) post _ (by simp) hnext (by
      rw [(hcoh.after hadm).tabled.status_eq,
        SagaState.currentStatus_eq_compensated_iff.mpr hset])).1
    obtain ⟨value, hmem, hvalue⟩ := SagaState.hasStatus_eq_true.mp hrunning
    exact (hidle value hmem).1 hvalue
  · intro hguard pre post m hsplit hpre hstatus
    subst hsplit
    have hcoh := hfresh.coherent.run hpre
    rw [hcoh.tabled.status_eq, Except.ok.injEq,
      SagaState.currentStatus_eq_compensated_iff] at hstatus
    have hidle : m.hasStatus .running = false := by
      rw [Bool.eq_false_iff]
      exact fun hrunning =>
        not_stranded_run hfresh hguard.of_append hpre ⟨hstatus, hrunning⟩
    refine ⟨fun value hmem => ⟨SagaState.hasStatus_eq_false.mp hidle value hmem,
      SagaState.hasStatus_eq_false.mp hstatus.compensating value hmem⟩, ?_⟩
    intro mid rest later _ hmid
    cases mid with
    | nil =>
        rw [← run_nil.mp hmid, hcoh.tabled.status_eq,
          SagaState.currentStatus_eq_compensated_iff.mpr hstatus]
    | cons event mid =>
        obtain ⟨t, hstep, -⟩ := run_cons.mp hmid
        exact absurd (hcoh.evolve_eq_ok.mp hstep).1
          (hstatus.not_admits hcoh.ids_nodup hidle event)

/-- The journal of a saga compensated while a sibling still runs. -/
def strandingEvents : List SagaEvent :=
  [.stepStarted stepA, .stepStarted stepB, .stepSucceeded stepA, .compensationRequested,
    .compensationStarted stepA, .compensationSucceeded stepA]

/-- **COMPENSATED is taken back.** With `b` running, the pair reports
COMPENSATED; once `b` succeeds it reports COMPENSATING. -/
theorem not_compensatedIsFinal_pair :
    ∃ init state, initialState pairProgram = .ok init ∧
      evolveAll init (strandingEvents ++ [.stepSucceeded stepB]) = .ok state ∧
      state.status = .ok .compensating ∧
      ¬ CompensatedIsFinal init (strandingEvents ++ [.stepSucceeded stepB]) := by
  refine ⟨_, { pairState .compensated .succeeded [stepA, stepB] with
    compensationRequested := true }, pairProgram_initial,
      by decide, by decide, fun hfinal => ?_⟩
  have hidle := (hfinal strandingEvents [.stepSucceeded stepB]
    { pairState .compensated .running [stepA] with compensationRequested := true } rfl
    (by decide) (by decide)).1
  exact (hidle ⟨stepB, .running, true⟩ (by decide)).1 rfl

/-- The same compensation with the sibling not started is final. -/
theorem compensatedIsFinal_idle_pair :
    CompensatedIsFinal (pairState .pending .pending [])
      ([.stepStarted stepA, .stepSucceeded stepA, .compensationRequested,
        .compensationStarted stepA] ++ [.compensationSucceeded stepA]) := by
  have hbefore : evolveAll (pairState .pending .pending [])
      [.stepStarted stepA, .stepSucceeded stepA, .compensationRequested,
        .compensationStarted stepA] =
      .ok { pairState .compensating .pending [stepA] with
        compensationRequested := true } := by
    decide
  have hrun : evolveAll (pairState .pending .pending [])
      ([.stepStarted stepA, .stepSucceeded stepA, .compensationRequested,
        .compensationStarted stepA] ++ [.compensationSucceeded stepA]) =
      .ok { pairState .compensated .pending [stepA] with
        compensationRequested := true } := by
    decide
  refine (compensatedIsFinal_iff pairProgram_initial hrun).mpr (guarded_concat.mpr
    ⟨guarded_of_forall (by simp [SettlesWithNoneRunning]), fun m hm => ?_⟩)
  obtain rfl := Except.ok.inj (hbefore.symm.trans hm)
  simp [SettlesWithNoneRunning, pairState]

end ControlPlaneKit.Planning
