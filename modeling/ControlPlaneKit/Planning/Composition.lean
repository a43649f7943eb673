import ControlPlaneKit.Planning.ActivityPlan

/-!
# Composition — which activities make a plan, and in which order

The constructor of a plan rejects a tuple by a list of violations, one of them found
by a depth-first search.  Here that list is read as conditions on the tuple: distinct
identities, dependencies that name other activities once, no loop among them, and the
risk rules.  What passes is stored in an order that depends on the set of activities
only.
-/

namespace ControlPlaneKit.Planning

open ControlPlaneKit.Library
open DependencyGraph (Precedes)
open Relation (TransGen)

/-! ## Conditions on a tuple -/

/-- What the three risk rules ask of an activity. -/
structure RisksDeclared (activity : PlannedActivity) : Prop where
  destructive : activity.impact = .destructive → riskRank .high ≤ riskRank activity.risk
  dataDestruction : activity.operation.isDestroyDataResource = true →
    activity.risk = .critical ∧ activity.impact = .destructive
  review : activity.operation.isReviewChange = true →
    riskRank .high ≤ riskRank activity.risk

/-- `p` is named as a predecessor by an activity of that identity. -/
def NamesPredecessor (activities : List PlannedActivity) (p a : ActivityId) : Prop :=
  ∃ activity ∈ activities, activity.activityId = a ∧ p ∈ activity.predecessors

/-- The tuples a plan can be made of. -/
structure FormsPlan (activities : List PlannedActivity) : Prop where
  unique : (activityIds activities).Nodup
  named : ∀ activity ∈ activities, ∀ p ∈ activity.predecessors,
    p ≠ activity.activityId ∧ p ∈ activityIds activities
  once : ∀ activity ∈ activities, activity.predecessors.Nodup
  acyclic : ∀ activityId, ¬ TransGen (NamesPredecessor activities) activityId activityId
  risks : ∀ activity ∈ activities, RisksDeclared activity

theorem riskViolations_eq_nil_iff {activity : PlannedActivity} :
    riskViolations activity = [] ↔ RisksDeclared activity := by
  simp only [riskViolations, List.append_eq_nil_iff, ite_eq_right_iff, List.cons_ne_nil,
    imp_false, not_and, not_or, Decidable.not_not, not_lt]
  constructor
  · rintro ⟨⟨hdestructive, hdata⟩, hreview⟩
    exact ⟨hdestructive, hdata, hreview⟩
  · rintro ⟨hdestructive, hdata, hreview⟩
    exact ⟨⟨hdestructive, hdata⟩, hreview⟩

/-! ## The search and the loops -/

section Search

variable {activities : List PlannedActivity}

/-- Under distinct identities the table of predecessors says what the activities say. -/
theorem precedes_predecessorsOf (hunique : (activityIds activities).Nodup) :
    Precedes (predecessorsOf activities) = NamesPredecessor activities := by
  funext p a
  refine propext ⟨fun hp => ?_, ?_⟩
  · obtain ⟨activity, hmem, hid, hpred⟩ := exists_of_mem_predecessorsOf hp
    exact ⟨activity, hmem, hid, hpred⟩
  · rintro ⟨activity, hmem, rfl, hpred⟩
    rw [Precedes, predecessorsOf_self hunique hmem]
    exact hpred

theorem not_loop_of_acc {r : ActivityId → ActivityId → Prop} {a : ActivityId}
    (h : Acc r a) : ¬ TransGen r a a := by
  have hacc := h.transGen
  clear h
  induction hacc with
  | intro a _ ih => exact fun hloop => ih a hloop hloop

/-- **The search finds a cycle exactly when there is one.** -/
theorem hasCycle_eq_false_iff (hcomp : Composable activities) :
    hasCycle activities = false ↔
      ∀ activityId, ¬ TransGen (NamesPredecessor activities) activityId activityId := by
  rw [← precedes_predecessorsOf hcomp.ids_nodup]
  constructor
  · intro hclear activityId hloop
    obtain ⟨next, -, hfirst⟩ := Relation.TransGen.tail'_iff.mp hloop
    obtain ⟨activity, hmem, rfl, -⟩ := exists_of_mem_predecessorsOf hfirst
    have hclosed : ∀ a ∈ Ordering.sortedBy (fun activityId => [activityId.value])
        (activityIds activities), ∀ p ∈ predecessorsOf activities a,
        p ∈ Ordering.sortedBy (fun activityId => [activityId.value])
          (activityIds activities) := by
      intro a _ p hp
      obtain ⟨other, hother, -, hpred⟩ := exists_of_mem_predecessorsOf hp
      simpa using hcomp.known other hother p hpred
    have hacc := DependencyGraph.acc_of_not_hasCycle hclosed hclear activity.activityId
      (by
        rw [Ordering.mem_sortedBy]
        exact List.mem_map_of_mem hmem)
    exact not_loop_of_acc hacc hloop
  · intro hacyclic
    cases hfound : hasCycle activities with
    | false => rfl
    | true =>
        obtain ⟨activityId, hloop⟩ := DependencyGraph.loop_of_hasCycle hfound
        exact absurd hloop (hacyclic activityId)

theorem formsPlan_iff : FormsPlan activities ↔
    Composable activities ∧ hasCycle activities = false := by
  constructor
  · intro h
    have hcomp : Composable activities :=
      { ids_nodup := h.unique
        known := fun activity ha p hp => (h.named activity ha p hp).2
        not_self := fun activity ha hself => (h.named activity ha _ hself).1 rfl
        predecessors_nodup := h.once
        risk := fun activity ha => riskViolations_eq_nil_iff.mpr (h.risks activity ha) }
    exact ⟨hcomp, (hasCycle_eq_false_iff hcomp).mpr h.acyclic⟩
  · rintro ⟨hcomp, hclear⟩
    exact
      { unique := hcomp.ids_nodup
        named := fun activity ha p hp =>
          ⟨fun heq => hcomp.not_self activity ha (heq ▸ hp),
            hcomp.known activity ha p hp⟩
        once := hcomp.predecessors_nodup
        acyclic := (hasCycle_eq_false_iff hcomp).mp hclear
        risks := fun activity ha =>
          riskViolations_eq_nil_iff.mp (hcomp.risk activity ha) }

end Search

/-! ## Composing -/

/-- The stored order: every activity after all its predecessors. -/
def PredecessorsFirst (stored : List PlannedActivity) : Prop :=
  ∀ pre activity post, stored = pre ++ activity :: post →
    ∀ p ∈ activity.predecessors, p ∈ activityIds pre

theorem composes_iff_formsPlan {given : List PlannedActivity} :
    (∃ stored, composeActivities given = .ok stored) ↔ FormsPlan given := by
  rw [formsPlan_iff]
  constructor
  · rintro ⟨stored, h⟩
    obtain ⟨hcomp, hclear, -⟩ := composeActivities_eq_ok.mp h
    exact ⟨hcomp, hclear⟩
  · rintro ⟨hcomp, hclear⟩
    obtain ⟨stored, horder⟩ := topologicalOrder_isSome hcomp hclear
    exact ⟨stored, composeActivities_eq_ok.mpr ⟨hcomp, hclear, horder⟩⟩

theorem composeActivities_eq_of_perm {given other stored : List PlannedActivity}
    (h : composeActivities given = .ok stored) (hperm : given.Perm other) :
    composeActivities other = .ok stored := by
  obtain ⟨hcomp, hclear, horder⟩ := composeActivities_eq_ok.mp h
  refine composeActivities_eq_ok.mpr ⟨hcomp.perm hperm, ?_, ?_⟩
  · rw [← hasCycle_eq_of_perm hperm hcomp.ids_nodup]
    exact hclear
  · rw [← topologicalOrder_eq_of_perm hperm hcomp.ids_nodup]
    exact horder

theorem predecessorsFirst_of_compose {given stored : List PlannedActivity}
    (h : composeActivities given = .ok stored) : PredecessorsFirst stored :=
  fun _ _ _ hsplit _ hp => ActivityPlan.predecessor_before ⟨stored, given, h⟩ hsplit hp

/-- **Plans are canonical.**  A tuple makes a plan exactly when its activities form one,
and never fails for want of a ready activity; what is stored is a permutation of it with
predecessors first, the same for every permutation and for the stored order itself. -/
theorem composes_canonically (given : List PlannedActivity) :
    ((∃ stored, composeActivities given = .ok stored) ↔ FormsPlan given) ∧
    composeActivities given ≠ .error .noReadyActivity ∧
    ∀ stored, composeActivities given = .ok stored →
      stored.Perm given ∧ PredecessorsFirst stored ∧
        (∀ other, other.Perm given → composeActivities other = .ok stored) ∧
        composeActivities stored = .ok stored := by
  refine ⟨composes_iff_formsPlan, fun hdry => ?_, fun stored h => ?_⟩
  · unfold composeActivities at hdry
    split at hdry
    · rename_i hvalid
      obtain ⟨hcomp, hclear⟩ := (validateComposition_eq_nil_iff given).mp hvalid
      obtain ⟨stored, horder⟩ := topologicalOrder_isSome hcomp hclear
      rw [horder] at hdry
      cases hdry
    · cases hdry
  · have hperm := composeActivities_perm h
    exact ⟨hperm, predecessorsFirst_of_compose h,
      fun other hother => composeActivities_eq_of_perm h hother.symm,
      composeActivities_eq_of_perm h hperm.symm⟩

end ControlPlaneKit.Planning
