import ControlPlaneKit.Planning.Schedule

/-!
# Blocking — what the blocking loop computes

Each entry of the blocked table has a reason in the plan (`BlockedSound`), and
when the loop ends no further pending activity has a failed or blocked
predecessor (`structurallyBlocked_stable`): every round that reports a change
blocks one more activity, so a round more than there are activities is enough.
-/

namespace ControlPlaneKit.Planning

open ControlPlaneKit.Library.Fixpoint

theorem isBlocked_iff {blocked : List BlockedActivity} {activityId : ActivityId} :
    isBlocked blocked activityId = true ↔
      ∃ value ∈ blocked, value.activity.activityId = activityId := by
  simp [isBlocked]

theorem isBlocked_append {blocked more : List BlockedActivity}
    {activityId : ActivityId} : isBlocked (blocked ++ more) activityId =
      (isBlocked blocked activityId || isBlocked more activityId) := by
  simp [isBlocked]

section Loop

variable {statusOf : ActivityId → SagaStepStatus} {activities : List PlannedActivity}

/-! ## One visit -/

theorem failedPredecessors_eq_nil {activity : PlannedActivity} :
    failedPredecessors statusOf activity = [] ↔
      ∀ p ∈ activity.predecessors, (statusOf p).failsSuccessors = false := by
  simp [failedPredecessors]

theorem blockedPredecessors_eq_nil {blocked : List BlockedActivity}
    {activity : PlannedActivity} :
    blockedPredecessors blocked activity = [] ↔
      ∀ p ∈ activity.predecessors, isBlocked blocked p = false := by
  simp [blockedPredecessors]

/-- What an added entry says: a pending activity, not yet blocked, with a failed
or a blocked predecessor. -/
theorem newlyBlocked_eq_some {blocked : List BlockedActivity}
    {activity : PlannedActivity} {value : BlockedActivity}
    (h : newlyBlocked statusOf blocked activity = some value) :
    value.activity = activity ∧ statusOf activity.activityId = .pending ∧
      isBlocked blocked activity.activityId = false ∧
      ∃ p ∈ activity.predecessors,
        (statusOf p).failsSuccessors = true ∨ isBlocked blocked p = true := by
  unfold newlyBlocked at h
  split at h
  · cases h
  · rename_i hvisit
    obtain ⟨hpending, hfresh⟩ := not_or.mp hvisit
    rw [Decidable.not_not] at hpending
    rw [Bool.not_eq_true] at hfresh
    split at h
    · rename_i hfailed
      obtain ⟨p, hp⟩ := List.exists_mem_of_ne_nil _ hfailed
      obtain ⟨hmem, hfails⟩ := List.mem_filter.mp hp
      cases h
      exact ⟨rfl, hpending, hfresh, p, hmem, .inl hfails⟩
    · split at h
      · rename_i hblocked
        obtain ⟨p, hp⟩ := List.exists_mem_of_ne_nil _ hblocked
        obtain ⟨hmem, hisblocked⟩ := List.mem_filter.mp hp
        cases h
        exact ⟨rfl, hpending, hfresh, p, hmem, .inr hisblocked⟩
      · cases h

/-- A pending activity that is left alone has no failed or blocked predecessor. -/
theorem predecessors_of_newlyBlocked_eq_none {blocked : List BlockedActivity}
    {activity : PlannedActivity} (h : newlyBlocked statusOf blocked activity = none)
    (hpending : statusOf activity.activityId = .pending)
    (hfresh : isBlocked blocked activity.activityId = false) :
    ∀ p ∈ activity.predecessors,
      (statusOf p).failsSuccessors = false ∧ isBlocked blocked p = false := by
  unfold newlyBlocked at h
  rw [if_neg (by simp [hpending, hfresh])] at h
  split at h
  · cases h
  · rename_i hfailed
    split at h
    · cases h
    · rename_i hblocked
      rw [Decidable.not_not] at hfailed hblocked
      exact fun p hp => ⟨failedPredecessors_eq_nil.mp hfailed p hp,
        blockedPredecessors_eq_nil.mp hblocked p hp⟩

/-! ## Soundness of the table -/

/-- Every entry is a pending activity of the plan with a reason. -/
def BlockedSound (statusOf : ActivityId → SagaStepStatus)
    (activities : List PlannedActivity) (blocked : List BlockedActivity) : Prop :=
  ∀ value ∈ blocked, value.activity ∈ activities ∧
    statusOf value.activity.activityId = .pending ∧
    (value.activity.operation.isReviewChange = true ∨
      ∃ p ∈ value.activity.predecessors,
        (statusOf p).failsSuccessors = true ∨ isBlocked blocked p = true)

theorem blockStep_sound {found : Bool × List BlockedActivity}
    {activity : PlannedActivity} (hmem : activity ∈ activities)
    (h : BlockedSound statusOf activities found.2) :
    BlockedSound statusOf activities (blockStep statusOf found activity).2 := by
  unfold blockStep
  split
  · rename_i value hvalue
    obtain ⟨rfl, hpending, -, p, hp, hreason⟩ := newlyBlocked_eq_some hvalue
    intro other hother
    rw [List.mem_append, List.mem_singleton] at hother
    rcases hother with hother | rfl
    · obtain ⟨hplan, hstatus, hwhy⟩ := h other hother
      refine ⟨hplan, hstatus, hwhy.imp_right fun ⟨q, hq, hqr⟩ =>
        ⟨q, hq, hqr.imp_right ?_⟩⟩
      intro hblocked
      rw [isBlocked_append, hblocked, Bool.true_or]
    · refine ⟨hmem, hpending, .inr ⟨p, hp, hreason.imp_right fun hblocked => ?_⟩⟩
      rw [isBlocked_append, hblocked, Bool.true_or]
  · exact h

theorem blockPass_sound {blocked : List BlockedActivity}
    (h : BlockedSound statusOf activities blocked) :
    BlockedSound statusOf activities (blockPass statusOf activities blocked).2 := by
  have hfold : ∀ (visits : List PlannedActivity) (found : Bool × List BlockedActivity),
      (∀ activity ∈ visits, activity ∈ activities) →
      BlockedSound statusOf activities found.2 →
      BlockedSound statusOf activities (visits.foldl (blockStep statusOf) found).2 := by
    intro visits
    induction visits with
    | nil => exact fun _ _ h => h
    | cons activity rest ih =>
        intro found hvisits hfound
        exact ih _ (fun other hother => hvisits other (List.mem_cons_of_mem _ hother))
          (blockStep_sound (hvisits activity (by simp)) hfound)
  exact hfold activities (false, blocked) (fun _ h => h) h

theorem reviewBlocked_sound :
    BlockedSound statusOf activities (reviewBlocked statusOf activities) := by
  intro value hvalue
  obtain ⟨activity, hmem, rfl⟩ := List.mem_map.mp hvalue
  obtain ⟨hplan, hreview⟩ := List.mem_filter.mp hmem
  simp only [decide_eq_true_eq] at hreview
  exact ⟨hplan, hreview.1, .inl hreview.2⟩

theorem structurallyBlocked_sound :
    BlockedSound statusOf activities (structurallyBlocked statusOf activities) :=
  repeatUntilStable_invariant (fun _ h => blockPass_sound h) _ _ reviewBlocked_sound

/-! ## The loop ends at a fixpoint -/

/-- How many activities of the plan are not blocked yet. -/
def unblockedCount (activities : List PlannedActivity)
    (blocked : List BlockedActivity) : Nat :=
  activities.countP fun activity => !isBlocked blocked activity.activityId

theorem unblockedCount_append_le (blocked more : List BlockedActivity) :
    unblockedCount activities (blocked ++ more) ≤
      unblockedCount activities blocked := by
  refine List.countP_mono_left fun activity _ h => ?_
  rw [isBlocked_append] at h
  simp_all

/-- Blocking an activity that was not blocked lowers the count. -/
theorem unblockedCount_lt {blocked : List BlockedActivity} {value : BlockedActivity}
    (hmem : value.activity ∈ activities)
    (hfresh : isBlocked blocked value.activity.activityId = false) :
    unblockedCount activities (blocked ++ [value]) <
      unblockedCount activities blocked := by
  obtain ⟨pre, post, rfl⟩ := List.append_of_mem hmem
  have hpre : unblockedCount pre (blocked ++ [value]) ≤ unblockedCount pre blocked :=
    unblockedCount_append_le blocked [value]
  have hpost : unblockedCount post (blocked ++ [value]) ≤ unblockedCount post blocked :=
    unblockedCount_append_le blocked [value]
  simp only [unblockedCount, List.countP_append, List.countP_cons] at hpre hpost ⊢
  have hnow : isBlocked (blocked ++ [value]) value.activity.activityId = true := by
    simp [isBlocked]
  simp only [hfresh, hnow]
  simp
  omega

variable (statusOf activities) in
/-- One round either changes nothing and finds nothing to add, or reports a
change and blocks some activity more. -/
theorem blockPass_cases (blocked : List BlockedActivity) :
    ((blockPass statusOf activities blocked).1 = false ∧
      (blockPass statusOf activities blocked).2 = blocked ∧
      ∀ activity ∈ activities, newlyBlocked statusOf blocked activity = none) ∨
    ((blockPass statusOf activities blocked).1 = true ∧
      unblockedCount activities (blockPass statusOf activities blocked).2 <
        unblockedCount activities blocked) := by
  have hchanged : ∀ (visits : List PlannedActivity)
      (found : Bool × List BlockedActivity),
      (∀ activity ∈ visits, activity ∈ activities) → found.1 = true →
      unblockedCount activities found.2 < unblockedCount activities blocked →
      (visits.foldl (blockStep statusOf) found).1 = true ∧
        unblockedCount activities (visits.foldl (blockStep statusOf) found).2 <
          unblockedCount activities blocked := by
    intro visits
    induction visits with
    | nil => exact fun _ _ hc hlt => ⟨hc, hlt⟩
    | cons activity rest ih =>
        intro found hvisits hc hlt
        refine ih _ (fun other hother => hvisits other
          (List.mem_cons_of_mem _ hother)) ?_ ?_
        · unfold blockStep
          split
          · rfl
          · exact hc
        · unfold blockStep
          split
          · exact lt_of_le_of_lt (unblockedCount_append_le _ _) hlt
          · exact hlt
  have hscan : ∀ visits : List PlannedActivity,
      (∀ activity ∈ visits, activity ∈ activities) →
      (visits.foldl (blockStep statusOf) (false, blocked) = (false, blocked) ∧
        ∀ activity ∈ visits, newlyBlocked statusOf blocked activity = none) ∨
      ((visits.foldl (blockStep statusOf) (false, blocked)).1 = true ∧
        unblockedCount activities (visits.foldl (blockStep statusOf)
          (false, blocked)).2 <
          unblockedCount activities blocked) := by
    intro visits
    induction visits with
    | nil => exact fun _ => .inl ⟨rfl, by simp⟩
    | cons activity rest ih =>
        intro hvisits
        have hrest := fun other hother =>
          hvisits other (List.mem_cons_of_mem activity hother)
        cases hnew : newlyBlocked statusOf blocked activity with
        | none =>
            have hstep : blockStep statusOf (false, blocked) activity =
                (false, blocked) := by
              simp [blockStep, hnew]
            rw [List.foldl_cons, hstep]
            refine (ih hrest).imp_left fun ⟨hsame, hnone⟩ => ⟨hsame, ?_⟩
            simpa [hnew] using hnone
        | some value =>
            have hstep : blockStep statusOf (false, blocked) activity =
                (true, blocked ++ [value]) := by simp [blockStep, hnew]
            obtain ⟨rfl, -, hfresh, -⟩ := newlyBlocked_eq_some hnew
            rw [List.foldl_cons, hstep]
            exact .inr (hchanged rest _ hrest rfl
              (unblockedCount_lt (hvisits value.activity (by simp)) hfresh))
  rcases hscan activities (fun _ h => h) with ⟨hsame, hnone⟩ | hmore
  · exact .inl ⟨congrArg Prod.fst hsame, congrArg Prod.snd hsame, hnone⟩
  · exact .inr hmore

/-- **The blocking loop is complete**: when it ends, no pending activity outside
the table has a failed or a blocked predecessor. -/
theorem structurallyBlocked_stable {activity : PlannedActivity}
    (hmem : activity ∈ activities) :
    newlyBlocked statusOf (structurallyBlocked statusOf activities) activity =
      none := by
  have hstable :
      (blockPass statusOf activities (structurallyBlocked statusOf activities)).1 =
      false := by
    refine repeatUntilStable_stable (I := fun _ => True)
      (m := unblockedCount activities) (fun _ _ => trivial)
      (fun blocked _ hchanged => ?_) (fun blocked _ hsame => ?_)
      _ _ trivial (Nat.lt_succ_of_le List.countP_le_length)
    · rcases blockPass_cases statusOf activities blocked with
        ⟨hsame, -⟩ | ⟨-, hlt⟩
      · rw [hsame] at hchanged; cases hchanged
      · exact hlt
    · rcases blockPass_cases statusOf activities blocked with
        ⟨-, heq, -⟩ | ⟨hchanged, -⟩
      · exact heq
      · rw [hsame] at hchanged; cases hchanged
  rcases blockPass_cases statusOf activities
      (structurallyBlocked statusOf activities) with ⟨-, -, hnone⟩ | ⟨hchanged, -⟩
  · exact hnone activity hmem
  · rw [hstable] at hchanged; cases hchanged

end Loop

end ControlPlaneKit.Planning
