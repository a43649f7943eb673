import ControlPlaneKit.Planning.Blocking
import ControlPlaneKit.Planning.SagaHistory

/-!
# ScheduleEvidence — reconstructed evidence always describes its plan

On evidence reconstructed for a plan every check of `derive_schedule` passes and
every table lookup hits, so the schedule is `buildSchedule` of the plan with the
statuses of the evidence (`deriveSchedule_reconstructed`).
-/

namespace ControlPlaneKit.Planning

open ControlPlaneKit.Library.EventFold
open ControlPlaneKit.Library.Text (isCanonicalIdentity)

/-! ## Coherence in the claims of the evidence itself -/

/-- **Coherent evidence**, as read off the projection: its table is the initial
one up to statuses, and its histories describe exactly those statuses. -/
structure CoherentEvidence (init state : SagaState) : Prop where
  identities : state.steps.map (·.stepId) = init.steps.map (·.stepId)
  availability : state.steps.map (·.compensationAvailable) =
    init.steps.map (·.compensationAvailable)
  completion_nodup : state.completionOrder.Nodup
  mem_completion : ∀ stepId, stepId ∈ state.completionOrder ↔
    ∃ value ∈ state.steps, value.stepId = stepId ∧
      (value.status = .succeeded ∨ value.status = .compensating ∨
        value.status = .compensated ∨ value.status = .compensationFailed)
  failed_nodup : state.failedSteps.Nodup
  mem_failed : ∀ stepId, stepId ∈ state.failedSteps ↔
    ∃ value ∈ state.steps, value.stepId = stepId ∧ value.status = .failed

theorem SagaStepStatus.isCompleted_iff {status : SagaStepStatus} :
    status.isCompleted = true ↔ status = .succeeded ∨ status = .compensating ∨
      status = .compensated ∨ status = .compensationFailed := by
  cases status <;> simp [SagaStepStatus.isCompleted]

theorem coherentEvidence_run {init state : SagaState} (hfresh : Fresh init)
    {events : List SagaEvent} (hrun : evolveAll init events = .ok state) :
    CoherentEvidence init state := by
  have hcoh := hfresh.coherent.run hrun
  have hshape := shape_run hfresh.coherent hrun
  refine ⟨?_, ?_, hcoh.completion_nodup, fun stepId => ?_, hcoh.failed_nodup,
    fun stepId => ?_⟩
  · simpa [SagaState.shape, Function.comp_def] using congrArg (List.map Prod.fst) hshape
  · simpa [SagaState.shape, Function.comp_def] using congrArg (List.map Prod.snd) hshape
  · rw [hcoh.mem_completion, SagaState.isCompletedAt_iff]
    simp only [SagaState.statusOf_eq_some hcoh.ids_nodup,
      SagaStepStatus.isCompleted_iff]
    constructor
    · rintro ⟨-, ⟨value, hmem, hid, rfl⟩, hdone⟩
      exact ⟨value, hmem, hid, hdone⟩
    · rintro ⟨value, hmem, hid, hdone⟩
      exact ⟨value.status, ⟨value, hmem, hid, rfl⟩, hdone⟩
  · rw [hcoh.mem_failed, SagaState.statusOf_eq_some hcoh.ids_nodup]

/-! ## The checks pass -/

theorem sameMembers_eq_true {α : Type} [DecidableEq α] {values others : List α} :
    sameMembers values others = true ↔ ∀ a, a ∈ values ↔ a ∈ others := by
  simp only [sameMembers, Bool.and_eq_true, List.all_eq_true, decide_eq_true_eq]
  exact ⟨fun h a => ⟨h.1 a, h.2 a⟩, fun h => ⟨fun a => (h a).mp, fun a => (h a).mpr⟩⟩

theorem validateEvidence_of_coherent {state : SagaState} (hcoh : Coherent state) :
    validateEvidence state state.ids = .ok () := by
  have hstatus : ∀ stepId (p : SagaStepStatus → Bool),
      stepId ∈ (state.steps.filter fun value => p value.status).map (·.stepId) ↔
        ∃ status, state.statusOf stepId = some status ∧ p status = true := by
    intro stepId p
    simp only [List.mem_map, List.mem_filter, SagaState.statusOf_eq_some hcoh.ids_nodup]
    constructor
    · rintro ⟨value, ⟨hmem, hp⟩, rfl⟩
      exact ⟨value.status, ⟨value, hmem, rfl, rfl⟩, hp⟩
    · rintro ⟨-, ⟨value, hmem, rfl, rfl⟩, hp⟩
      exact ⟨value, ⟨hmem, hp⟩, rfl⟩
  have hcompleted : sameMembers state.completionOrder
      ((state.steps.filter fun value => value.status.isCompleted).map (·.stepId)) =
        true := by
    rw [sameMembers_eq_true]
    intro stepId
    rw [hcoh.mem_completion, SagaState.isCompletedAt_iff,
      hstatus stepId SagaStepStatus.isCompleted]
  have hfailed : sameMembers state.failedSteps
      ((state.steps.filter fun value => value.status = .failed).map (·.stepId)) =
        true := by
    rw [sameMembers_eq_true]
    intro stepId
    rw [hcoh.mem_failed, hstatus stepId fun status => decide (status = .failed)]
    simp
  have hknown : ∀ stepId ∈ state.failedSteps, stepId ∈ state.ids := fun stepId hmem =>
    SagaState.mem_ids_of_statusOf ((hcoh.mem_failed stepId).mp hmem)
  rw [validateEvidence, if_neg (not_not.mpr hcoh.completion_nodup),
    if_neg (not_not.mpr hcoh.failed_nodup),
    if_neg (not_not.mpr hcoh.tabled.completion_mem), if_neg (not_not.mpr hknown),
    if_neg (by simp [hcompleted]), if_neg (by simp [hfailed])]

section Reconstructed

variable {plan : ActivityPlan} {evidence : SagaState} {events : List SagaEvent}
  (hrun : evolveAll (SagaState.initialForPlan plan) events = .ok evidence)
include hrun

theorem coherent_of_plan_run : Coherent evidence :=
  (initialForPlan_fresh plan).coherent.run hrun

/-- The evidence's identities are the plan's, in plan order. -/
theorem ids_of_plan_run : evidence.ids = plan.stepIds := by
  have h := (coherentEvidence_run (initialForPlan_fresh plan) hrun).identities
  rw [SagaState.ids, h]
  simp only [SagaState.initialForPlan, List.map_map, ActivityPlan.stepIds]
  rfl

theorem validateIdentities_of_plan_run :
    validateIdentities plan evidence.ids = .ok () := by
  have hnd := (coherent_of_plan_run hrun).ids_nodup
  have hsame : sameMembers plan.stepIds evidence.ids = true := by
    rw [sameMembers_eq_true, ids_of_plan_run hrun]
    exact fun _ => Iff.rfl
  simp [validateIdentities, hnd, hsame]

end Reconstructed

/-! ## Reading the status table -/

/-- On canonical identities the table is the step list. -/
theorem statusById_eq : ∀ {values : List SagaStepState},
    (∀ value ∈ values, isCanonicalIdentity value.stepId.value = true) →
    ∃ table, statusById values = .ok table ∧ ∀ activityId : ActivityId,
      (table.find? fun entry => decide (entry.1 = activityId)).map (·.2) =
        (values.find? fun value => decide (value.stepId = activityId.stepId)).map
        (·.status)
  | [], _ => ⟨[], rfl, fun _ => rfl⟩
  | value :: values, h => by
      obtain ⟨table, htable, hfind⟩ :=
        statusById_eq fun other hother => h other (List.mem_cons_of_mem _ hother)
      have hcanonical := h value (by simp)
      refine ⟨(⟨value.stepId.value, hcanonical⟩, value.status) :: table, ?_,
        fun activityId => ?_⟩
      · simp [statusById, SagaStepId.activityId, hcanonical, htable, bind, Except.bind,
          pure, Except.pure]
      · have hkey : (⟨value.stepId.value, hcanonical⟩ : ActivityId) = activityId ↔
            value.stepId = activityId.stepId := by
          constructor
          · rintro rfl; rfl
          · exact fun heq => ActivityId.ext_value (congrArg SagaStepId.value heq)
        by_cases hhere : value.stepId = activityId.stepId
        · rw [List.find?_cons_of_pos (by simpa using hkey.mpr hhere),
            List.find?_cons_of_pos (by simpa using hhere)]
          rfl
        · rw [List.find?_cons_of_neg (by simpa using fun heq => hhere (hkey.mp heq)),
            List.find?_cons_of_neg (by simpa using hhere)]
          exact hfind activityId

/-- `f` found a value for each, and reading `g` off the values gives them back. -/
theorem mapM_ok_map {α β ε : Type} {f : α → Except ε β} {g : β → α} :
    ∀ {as : List α}, (∀ a ∈ as, ∃ b, f a = .ok b ∧ g b = a) →
      ∃ bs, as.mapM f = .ok bs ∧ bs.map g = as
  | [], _ => ⟨[], rfl, rfl⟩
  | a :: as, h => by
      obtain ⟨b, hb, hgb⟩ := h a (by simp)
      obtain ⟨bs, hbs, hgbs⟩ := mapM_ok_map fun a' ha' =>
        h a' (List.mem_cons_of_mem _ ha')
      exact ⟨b :: bs, by simp [List.mapM_cons, hb, hbs, bind, Except.bind,
        pure, Except.pure], by simp [hgb, hgbs]⟩

theorem ActivityPlan.byStep_of_mem (plan : ActivityPlan) {stepId : SagaStepId}
    (hmem : stepId ∈ plan.stepIds) :
    ∃ activity, plan.byStep stepId = .ok activity ∧
    activity.activityId.stepId = stepId := by
  unfold ActivityPlan.byStep
  cases hfind : plan.activities.find?
      (fun activity => decide (activity.activityId.stepId = stepId)) with
  | none =>
      obtain ⟨activity, hactivity, rfl⟩ := List.mem_map.mp hmem
      have := List.find?_eq_none.mp hfind activity hactivity
      simp at this
  | some activity => exact ⟨activity, rfl, by simpa using List.find?_some hfind⟩

/-- The statuses `derive_schedule` reads are the evidence's. -/
def ReadsStatuses (plan : ActivityPlan) (evidence : SagaState)
    (statusOf : ActivityId → SagaStepStatus) : Prop :=
  ∀ activityId ∈ activityIds plan.activities,
    evidence.statusOf activityId.stepId = some (statusOf activityId)

/-- **No evidence error.** On evidence reconstructed for its own plan
`derive_schedule` returns the schedule built from the evidence's statuses. -/
theorem deriveSchedule_reconstructed {plan : ActivityPlan} {evidence : SagaState}
    {events : List SagaEvent}
    (hrun : evolveAll (SagaState.initialForPlan plan) events = .ok evidence) :
    ∃ statusOf compensationReady, ReadsStatuses plan evidence statusOf ∧
      deriveSchedule plan evidence = .ok (buildSchedule plan statusOf
        (deriveBlocked plan evidence.currentStatus statusOf) compensationReady) ∧
      (compensationReady = [] ∨ compensationReady.map (·.activityId.stepId) =
        evidence.candidates) := by
  have hcoh := coherent_of_plan_run hrun
  have hids := ids_of_plan_run hrun
  have hcanonical : ∀ value ∈ evidence.steps,
      isCanonicalIdentity value.stepId.value = true := by
    intro value hmem
    have : value.stepId ∈ plan.stepIds := hids ▸ List.mem_map_of_mem hmem
    obtain ⟨activity, -, heq⟩ := List.mem_map.mp this
    rw [← heq]
    exact activity.activityId.canonical
  obtain ⟨table, htable, hfind⟩ := statusById_eq hcanonical
  have hreads : ReadsStatuses plan evidence (statusIn table) := by
    intro activityId hmem
    have hstep : activityId.stepId ∈ evidence.ids := by
      obtain ⟨activity, hactivity, rfl⟩ := List.mem_map.mp hmem
      rw [hids]
      exact List.mem_map_of_mem hactivity
    obtain ⟨status, hstatus⟩ :=
      SagaState.statusOf_isSome_of_mem_ids hcoh.ids_nodup hstep
    have hentry := hfind activityId
    rw [← SagaState.step?, ← SagaState.statusOf, hstatus] at hentry
    obtain ⟨entry, hsome, hvalue⟩ := Option.map_eq_some_iff.mp hentry
    simp only [hstatus, statusIn, hsome, hvalue]
  have hready : ∀ idle, ∃ ready,
      deriveCompensationReady plan evidence evidence.currentStatus idle =
      .ok ready ∧
      (ready = [] ∨ ready.map (·.activityId.stepId) = evidence.candidates) := by
    intro idle
    unfold deriveCompensationReady
    split
    · have hplanned : ∀ stepId ∈ evidence.candidates, ∃ activity,
          plan.byStep stepId = .ok activity ∧ activity.activityId.stepId = stepId := by
        intro stepId hmem
        refine plan.byStep_of_mem (hids ▸ ?_)
        exact SagaState.mem_ids_of_statusOf (SagaState.statusOf_of_mem_candidates hmem)
      obtain ⟨ready, hmap, hback⟩ := mapM_ok_map hplanned
      refine ⟨ready, ?_, .inr hback⟩
      simp only [hcoh.tabled.candidates_eq, Except.mapError, bind, Except.bind]
      exact hmap
    · exact ⟨[], rfl, .inl rfl⟩
  obtain ⟨ready, hderive, hshape⟩ := hready
    ((plan.withStatus (statusIn table) .running).isEmpty &&
      (plan.withStatus (statusIn table) .compensating).isEmpty)
  refine ⟨statusIn table, ready, hreads, ?_, hshape⟩
  simp [deriveSchedule, validateIdentities_of_plan_run hrun,
    validateEvidence_of_coherent hcoh, htable, hcoh.tabled.status_eq, hderive,
    Except.mapError, bind, Except.bind, pure, Except.pure]

/-- **Reconstructed evidence is coherent**, for programs and for plans, and the
scheduler never rejects the evidence of its own plan. -/
theorem reconstructed_evidence_coherent {Effect : Type} :
    (∀ (program : SagaProgram Effect) (init state : SagaState)
      (events : List SagaEvent),
      initialState program = .ok init → evolveAll init events = .ok state →
      CoherentEvidence init state) ∧
    (∀ (plan : ActivityPlan) (state : SagaState) (events : List SagaEvent),
      evolveAll (SagaState.initialForPlan plan) events = .ok state →
      CoherentEvidence (SagaState.initialForPlan plan) state ∧
        ∃ schedule, deriveSchedule plan state = .ok schedule) := by
  refine ⟨fun program init state events hinit hrun =>
    coherentEvidence_run (initialState_fresh hinit) hrun,
      fun plan state events hrun => ?_⟩
  obtain ⟨statusOf, ready, -, hderive, -⟩ := deriveSchedule_reconstructed hrun
  exact ⟨coherentEvidence_run (initialForPlan_fresh plan) hrun, _, hderive⟩

/-! ## A concrete plan: a runtime, then a node on it -/

def startHost : PlannedActivity :=
  .make ⟨"start-host", by decide⟩ (.startRuntime ⟨"host", by decide⟩)
    [] .medium .nonDestructive

def startApi : PlannedActivity :=
  .make ⟨"start-api", by decide⟩ (.startNode ⟨"api", by decide⟩)
    [⟨⟨"start-host", by decide⟩⟩] .medium .nonDestructive

def hostPlan : ActivityPlan := ⟨[startHost, startApi], [startApi, startHost], by decide⟩

/-- The evidence of the plan once its runtime is started. -/
def hostState (host : SagaStepStatus) (completionOrder : List SagaStepId) :
    SagaState where
  steps := [⟨startHost.activityId.stepId, host, true⟩,
    ⟨startApi.activityId.stepId, .pending, true⟩]
  completionOrder := completionOrder
  failedSteps := []
  cancelled := false
  compensationRequested := false

/-- A compensated step of the pair, and the plan with its runtime started. -/
theorem reconstructed_evidence_coherent_pair_host :
    CoherentEvidence (pairState .pending .pending [])
      (pairState .compensated .pending [stepA]) ∧
      CoherentEvidence (SagaState.initialForPlan hostPlan)
        (hostState .succeeded [startHost.activityId.stepId]) :=
  ⟨reconstructed_evidence_coherent.1 pairProgram _ _
      [.stepStarted stepA, .stepSucceeded stepA, .compensationStarted stepA,
        .compensationSucceeded stepA] pairProgram_initial (by decide),
    ((@reconstructed_evidence_coherent String).2 hostPlan _
      [.stepStarted startHost.activityId.stepId, .stepSucceeded
        startHost.activityId.stepId]
      (by decide)).1⟩

end ControlPlaneKit.Planning
