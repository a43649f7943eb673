import ControlPlaneKit.Planning.PlanConditions
import ControlPlaneKit.Topology.Sameness

/-!
# Unchanged — what an empty diff means, and the plan it makes

The diff of two valid graphs leaves nothing out: it is empty exactly when the
graphs are equal value by value, and whatever differs is named by a change.
Deploying a graph onto itself plans nothing.
-/

namespace ControlPlaneKit.Planning

open ControlPlaneKit.Library
open ControlPlaneKit.Topology

/-- An empty diff compiles to the empty plan. -/
theorem compileActivityPlan_nil (currentName desiredName : String) :
    ∃ plan, compileActivityPlan ⟨currentName, desiredName, []⟩ = .ok plan ∧
      plan.activities = [] :=
  ⟨_, rfl, rfl⟩

variable {repr : String → String} {codec : GraphDescriptorCodec}
  {current desired : DeploymentGraph} {currentValid desiredValid : ValidatedGraph}

/-- **The diff is complete**: it is empty exactly for graphs that are the same, a
graph deployed onto itself plans nothing, and every member that is not the same
is named by a change. -/
theorem diffsCompletely (hcurrent : IsValid repr codec current currentValid)
    (hdesired : IsValid repr codec desired desiredValid) :
    ((∃ diff, diffGraphs currentValid desiredValid = .ok diff ∧ diff.changes = []) ↔
      SameGraph current desired) ∧
    (∃ plan, planGraphs currentValid currentValid = .ok plan ∧ plan.activities = []) ∧
    ∀ diff, diffGraphs currentValid desiredValid = .ok diff →
      Covers current desired diff.changes := by
  refine ⟨⟨?_, fun hsame => ⟨_, hsame.diff_eq hcurrent hdesired, rfl⟩⟩, ?_,
    fun diff hdiff => covers_of_diff hcurrent hdesired hdiff⟩
  · rintro ⟨diff, hdiff, hnil⟩
    have hcovers := covers_of_diff hcurrent hdesired hdiff
    rw [hnil] at hcovers
    exact hcovers.same
  · obtain ⟨plan, hplan, hnil⟩ := compileActivityPlan_nil current.name current.name
    refine ⟨plan, ?_, hnil⟩
    rw [planGraphs, (SameGraph.refl current).diff_eq hcurrent hcurrent]
    exact hplan

/-- A guest that comes with its host is named, and the two graphs are not the same. -/
theorem guest_named : ∃ currentValid desiredValid diff,
    IsValid plainRepr defaultGraphCodec (sampleGraph [] [] []) currentValid ∧
      IsValid plainRepr defaultGraphCodec externalGuest desiredValid ∧
      diffGraphs currentValid desiredValid = .ok diff ∧
      NamesOwner diff.changes .node "guest" ∧
      ¬ SameGraph (sampleGraph [] [] []) externalGuest := by
  obtain ⟨currentValid, desiredValid, hcurrent, hdesired, h⟩ :=
    @exists_validated (sampleGraph [] [] []) externalGuest
      (fun current desired => (diffGraphs current desired).toBool) (by decide +kernel)
  cases hdiff : diffGraphs currentValid desiredValid with
  | error error =>
      rw [hdiff] at h
      cases h
  | ok diff =>
      obtain ⟨hempty, -, hcovers⟩ := diffsCompletely hcurrent hdesired
      have hguest : ¬ Option.Rel SameNode (sampleGraph [] [] []).nodes["guest"]?
          externalGuest.nodes["guest"]? := by
        have hnode := (@sampleGraph_node [sampleNode "guest" "host" .external] []
          [sampleRuntime "host" ["guest"] .ownedEphemeral] (by decide) "guest" _).mpr
          ⟨List.mem_singleton_self _, rfl⟩
        rw [externalGuest, hnode]
        intro hrel
        cases hrel
      have hnamed := (hcovers diff hdiff).nodes "guest" hguest
      refine ⟨currentValid, desiredValid, diff, hcurrent, hdesired, hdiff, hnamed,
        fun hsame => ?_⟩
      obtain ⟨diff', hdiff', hnil⟩ := hempty.mpr hsame
      rw [hdiff] at hdiff'
      cases hdiff'
      obtain ⟨change, hchange, -⟩ := hnamed
      rw [hnil] at hchange
      cases hchange

end ControlPlaneKit.Planning
