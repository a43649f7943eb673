import ControlPlaneKit.Library.ListOrder
import ControlPlaneKit.Planning.SagaHistory

/-!
# SagaOrder — compensations follow reverse completion order

At one state only the last completed candidate may begin compensating.  Over a
run that is not enough: a step still running when compensation begins can
complete afterwards and begin compensating after a step completed before it.
`reverseCompletionOrder_iff` says that these late compensations are the only
exceptions.
-/

namespace ControlPlaneKit.Planning

open ControlPlaneKit.Library.EventFold
open ControlPlaneKit.Library.ListOrder

/-- The property: of two steps that both begin compensating, the one completed
first begins last. -/
def ReverseCompletionOrder (events : List SagaEvent) (state : SagaState) : Prop :=
  ∀ a b, [a, b].Sublist state.completionOrder →
    .compensationStarted a ∈ events → .compensationStarted b ∈ events →
    [SagaEvent.compensationStarted b, .compensationStarted a].Sublist events

/-- No step that completes after some compensation has begun begins compensating
itself. -/
def NoLateCompensation (events : List SagaEvent) : Prop :=
  ∀ a b, ¬ [SagaEvent.compensationStarted a, .stepSucceeded b, .compensationStarted
    b].Sublist events

/-- Where the candidates have a head, anything else completed, compensatable and
still SUCCEEDED was completed before it. -/
theorem not_after_head {state : SagaState} (hcoh : Coherent state) {a b : SagaStepId}
    (hhead : state.candidates.head? = some a) (hb : b ∈ state.candidates) :
    ¬ [a, b].Sublist state.completionOrder := by
  intro hab
  have hrev : [b, a].Sublist state.candidates := by
    have h := (List.reverse_sublist.mpr hab).filter state.isCandidate
    have ha := (List.mem_filter.mp (List.mem_of_mem_head? hhead)).2
    have hb' := (List.mem_filter.mp hb).2
    simpa [SagaState.candidates, ha, hb'] using h
  have hnd : state.candidates.Nodup :=
    ((List.nodup_reverse).mpr hcoh.completion_nodup).filter _
  cases hcand : state.candidates with
  | nil => simp [hcand] at hhead
  | cons c cs =>
      obtain rfl : c = a := by simpa [hcand] using hhead
      rw [hcand] at hrev hnd
      have hc : c ∈ cs := by
        rcases List.sublist_cons_iff.mp hrev with h | ⟨r, hr, hsub⟩
        · exact h.subset (by simp)
        · obtain ⟨-, rfl⟩ := List.cons.inj hr
          exact hsub.subset (by simp)
      exact (List.nodup_cons.mp hnd).1 hc

/-! ## Events of a run as members of its histories -/

theorem mem_completed {events : List SagaEvent} {stepId : SagaStepId} :
    stepId ∈ events.flatMap SagaEvent.completes ↔ .stepSucceeded stepId ∈ events := by
  simp only [List.mem_flatMap]
  constructor
  · rintro ⟨event, hmem, hdone⟩
    cases event <;> simp_all [SagaEvent.completes]
  · exact fun h => ⟨_, h, by simp [SagaEvent.completes]⟩

/-- Two begun compensations stand in one order only. -/
theorem History.begun_asymm {events : List SagaEvent} {state : SagaState}
    (h : History events state) {a b : SagaStepId}
    (hab : [SagaEvent.compensationStarted a, .compensationStarted b].Sublist events) :
    ¬ [SagaEvent.compensationStarted b, .compensationStarted a].Sublist events := by
  intro hba
  exact pair_sublist_asymm h.begunInStep.nodup (hab.flatMap SagaEvent.begins)
    (hba.flatMap SagaEvent.begins)

/-- A step begun after a prefix had not begun inside it. -/
theorem History.not_begun_before {pre post : List SagaEvent} {state : SagaState}
    (h : History (pre ++ post) state) {b : SagaStepId}
    (hb : .compensationStarted b ∈ post) : b ∉ begun pre := by
  intro hpre
  have hnd := h.begunInStep.nodup
  rw [begun, List.flatMap_append] at hnd
  exact (List.nodup_append.mp hnd).2.2 b hpre b (mem_begun.mpr hb) rfl

/-- A completed step whose compensation has not begun is SUCCEEDED. -/
theorem SagaState.succeeded_of_completed {state : SagaState} {stepId : SagaStepId}
    (hdone : state.isCompletedAt stepId = true)
    (hnot : state.inCompensationAt stepId = false) :
    state.statusOf stepId = some .succeeded := by
  obtain ⟨status, hstatus, hcompleted⟩ := SagaState.isCompletedAt_iff.mp hdone
  simp only [SagaState.inCompensationAt, hstatus] at hnot
  cases status <;> simp_all [SagaStepStatus.isCompleted, SagaStepStatus.inCompensation]

theorem availableOf_run {init state : SagaState} (h : Coherent init)
    {events : List SagaEvent} (hrun : evolveAll init events = .ok state)
    (stepId : SagaStepId) : state.availableOf stepId = init.availableOf stepId := by
  refine (run_invariant (I := fun s => Coherent s ∧ s.availableOf stepId =
    init.availableOf stepId) ?_ ⟨h, rfl⟩ hrun).2
  rintro s event t ⟨hs, hsame⟩ hstep
  obtain ⟨hadm, rfl⟩ := hs.evolve_eq_ok.mp hstep
  exact ⟨hs.after hadm, (s.availableOf_after event stepId).trans hsame⟩

/-- Where a run begins a compensation, the step is the head of the candidates. -/
theorem Fresh.run_begin {init state : SagaState} (hfresh : Fresh init)
    {pre post : List SagaEvent} {stepId : SagaStepId}
    (hrun : evolveAll init (pre ++ .compensationStarted stepId :: post) = .ok state) :
    ∃ m, evolveAll init pre = .ok m ∧ History pre m ∧
    m.candidates.head? = some stepId := by
  obtain ⟨m, m', hpre, hstep, -⟩ := run_at hrun
  have hm := hfresh.history_run hpre
  exact ⟨m, hpre, hm, (hm.coherent.evolve_eq_ok.mp hstep).1⟩

theorem History.completed_of_candidate {events : List SagaEvent} {state : SagaState}
    (h : History events state) {stepId : SagaStepId}
    (hmem : stepId ∈ state.candidates) :
    stepId ∈ events.flatMap SagaEvent.completes := by
  rw [← h.completed, h.coherent.mem_completion, SagaState.isCompletedAt_iff]
  exact ⟨_, SagaState.statusOf_of_mem_candidates hmem, rfl⟩

theorem SagaState.available_of_mem_candidates {state : SagaState} {stepId : SagaStepId}
    (hmem : stepId ∈ state.candidates) : state.availableOf stepId = true := by
  have := (List.mem_filter.mp hmem).2
  simp only [SagaState.isCandidate, Bool.and_eq_true] at this
  exact this.1

/-- Beginning a compensation completes nothing. -/
theorem completes_begin (pre post : List SagaEvent) (stepId : SagaStepId) :
    (pre ++ .compensationStarted stepId :: post).flatMap SagaEvent.completes =
      pre.flatMap SagaEvent.completes ++ post.flatMap SagaEvent.completes := by
  rw [List.flatMap_append, List.flatMap_cons]
  rfl

/-! ## The two directions -/

/-- A late compensation breaks the order: its step completed last but begins
last too. -/
theorem late_breaks_order {init state : SagaState} (hfresh : Fresh init)
    {events : List SagaEvent} (hrun : evolveAll init events = .ok state)
    {a b : SagaStepId}
    (hlate : [SagaEvent.compensationStarted a, .stepSucceeded b,
      .compensationStarted b].Sublist events) :
    ¬ ReverseCompletionOrder events state := by
  intro horder
  have hhist := hfresh.history_run hrun
  have hpair :
      [SagaEvent.compensationStarted a, .compensationStarted b].Sublist events :=
    List.Sublist.trans (by simp) hlate
  refine hhist.begun_asymm hpair
    (horder a b ?_ (hlate.subset (by simp)) (hlate.subset (by simp)))
  obtain ⟨pre, post, rfl, hrest⟩ := cons_sublist_split.mp hlate
  obtain ⟨m, -, hm, hhead⟩ := hfresh.run_begin hrun
  have ha := hm.completed_of_candidate (List.mem_of_mem_head? hhead)
  have hb : b ∈ post.flatMap SagaEvent.completes :=
    mem_completed.mpr (hrest.subset (by simp))
  rw [hhist.completed, completes_begin]
  exact (List.singleton_sublist.mpr ha).append (List.singleton_sublist.mpr hb)

/-- Without late compensations, whatever begins first had completed last: at
that moment the other step was a candidate that completed before it. -/
theorem order_of_noLate {init state : SagaState} (hfresh : Fresh init)
    {events : List SagaEvent} (hrun : evolveAll init events = .ok state)
    (hno : NoLateCompensation events) : ReverseCompletionOrder events state := by
  intro a b hab ha hb
  have hhist := hfresh.history_run hrun
  have hne : a ≠ b := by
    rintro rfl
    exact pair_sublist_asymm hhist.coherent.completion_nodup hab hab
  refine (pair_sublist_total (by simpa using hne.symm) hb ha).resolve_right
    fun hwrong => ?_
  obtain ⟨pre, rest, rfl, hbrest⟩ := pair_sublist_split.mp hwrong
  obtain ⟨m, hpre, hm, hhead⟩ := hfresh.run_begin hrun
  obtain ⟨mid, tail, rfl⟩ := List.append_of_mem hbrest
  have hrun₂ : evolveAll init ((pre ++ .compensationStarted a :: mid) ++
      .compensationStarted b :: tail) = .ok state := by simpa using hrun
  obtain ⟨m₂, hpre₂, hm₂, hhead₂⟩ := hfresh.run_begin hrun₂
  have hcandidate₂ := List.mem_of_mem_head? hhead₂
  -- `b` completed before `a` began, or else its own compensation is a late one
  have hbpre : b ∈ m.completionOrder := by
    have hdone := hm₂.completed_of_candidate hcandidate₂
    rw [completes_begin, List.mem_append] at hdone
    rw [hm.completed]
    refine hdone.resolve_right fun hmid =>
      hno a b (cons_sublist_split.mpr ⟨pre, _, rfl, ?_⟩)
    obtain ⟨s, t, rfl⟩ := List.append_of_mem (mem_completed.mp hmid)
    exact pair_sublist_split.mpr
      ⟨s, t ++ .compensationStarted b :: tail, by simp, by simp⟩
  have hnotbegun : m.inCompensationAt b = false := by
    rw [Bool.eq_false_iff, ne_eq, ← hm.begunInStep.mem_iff]
    exact History.not_begun_before hhist (List.mem_cons_of_mem _ hbrest)
  have havailable : m.availableOf b = true := by
    rw [availableOf_run hfresh.coherent hpre, ← availableOf_run hfresh.coherent hpre₂]
    exact SagaState.available_of_mem_candidates hcandidate₂
  have hsucceeded := SagaState.succeeded_of_completed
    ((hm.coherent.mem_completion b).mp hbpre) hnotbegun
  have hcandidate : b ∈ m.candidates :=
    List.mem_filter.mpr ⟨List.mem_reverse.mpr hbpre, by
      simp [SagaState.isCandidate, havailable, hsucceeded]⟩
  refine not_after_head hm.coherent hhead hcandidate ?_
  have hnd := hhist.coherent.completion_nodup
  rw [hhist.completed, completes_begin, ← hm.completed] at hnd hab
  exact pair_sublist_of_append hnd hab hbpre

/-- **Which runs compensate in reverse order.** Exactly those in which no step
completed after a compensation had begun begins compensating itself. -/
theorem reverseCompletionOrder_iff {Effect : Type} {program : SagaProgram Effect}
    {init state : SagaState} {events : List SagaEvent}
    (hinit : initialState program = .ok init)
    (hrun : evolveAll init events = .ok state) :
    ReverseCompletionOrder events state ↔ NoLateCompensation events := by
  have hfresh := initialState_fresh hinit
  exact ⟨fun horder a b hlate => late_breaks_order hfresh hrun hlate horder,
    order_of_noLate hfresh hrun⟩

/-- The journal of a sibling that succeeds while the first compensation runs. -/
def lateSiblingEvents : List SagaEvent :=
  [.stepStarted stepA, .stepStarted stepB, .stepSucceeded stepA, .compensationRequested,
    .compensationStarted stepA, .stepSucceeded stepB, .compensationStarted stepB]

/-- **A late sibling compensates last.** The pair completes `a` then `b` and
begins compensating `a` then `b`. -/
theorem not_reverseCompletionOrder_pair :
    ∃ init state, initialState pairProgram = .ok init ∧
      evolveAll init lateSiblingEvents = .ok state ∧
      ¬ ReverseCompletionOrder lateSiblingEvents state := by
  refine ⟨_, { pairState .compensating .compensating [stepA, stepB] with
    compensationRequested := true }, pairProgram_initial, by decide, fun horder => ?_⟩
  have := horder stepA stepB (by decide) (by decide) (by decide)
  exact absurd this (by decide)

/-- With both steps complete before the request, the order is reversed. -/
theorem reverseCompletionOrder_settled_pair :
    ReverseCompletionOrder
      [.stepStarted stepA, .stepStarted stepB, .stepSucceeded stepA,
        .stepSucceeded stepB, .compensationRequested, .compensationStarted stepB,
        .compensationStarted stepA]
      { pairState .compensating .compensating [stepA, stepB] with
        compensationRequested := true } :=
  (reverseCompletionOrder_iff pairProgram_initial (by decide)).mpr (by
    intro a b h
    have hb := h.subset (show SagaEvent.stepSucceeded b ∈ _ by simp)
    have ha := h.subset (show SagaEvent.compensationStarted a ∈ _ by simp)
    simp only [List.mem_cons, reduceCtorEq, SagaEvent.stepSucceeded.injEq,
      SagaEvent.compensationStarted.injEq, List.not_mem_nil, or_false,
      false_or] at ha hb
    rcases ha with rfl | rfl <;> rcases hb with rfl | rfl
      <;> exact absurd h (by decide))

end ControlPlaneKit.Planning
