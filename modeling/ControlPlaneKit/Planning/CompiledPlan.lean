import ControlPlaneKit.Planning.LinkCompleteness
import ControlPlaneKit.Planning.LinkSoundness

/-!
# CompiledPlan — the plan of two graphs, read off the two graphs

An activity of the plan is a finished draft.  The operations of the plan are the
drafted ones, each once, and an activity has the activities of the operations
that precede its own as predecessors.
-/

namespace ControlPlaneKit.Planning

open ControlPlaneKit.Library
open ControlPlaneKit.Library.Outcome (Succeeds mapError_eq_ok)
open ControlPlaneKit.Topology
open Compilation (Link)

/-! ## What precedes what -/

theorem Precedes.ne {current desired : DeploymentGraph}
    {first second : ActivityOperation} (h : Precedes current desired first second) :
    first ≠ second := by
  cases h with
  | follows h => exact h.ne
  | arranged h => cases h <;> simp
  | connected h => cases h <;> simp

/-- What follows is created together. -/
theorem Follows.source_eq {codec : GraphDescriptorCodec}
    {current desired : DeploymentGraph} {changes : List StructuralChange}
    {c : Compilation} (h : Compiled codec current desired changes c)
    {first second : ActivityOperation} (hfollows : Follows first second)
    {source source' : DraftSource} (hs : IsSource changes source)
    (hs' : IsSource changes source') (hfirst : source.Operations first)
    (hsecond : source'.Operations second) : source = source' := by
  cases hfollows with
  | started target =>
      refine h.source_unique hs hs' ?_ hsecond
      cases source with
      | single change =>
          have hfirst : Drafts change _ := hfirst
          cases hfirst with
          | startNode howned => exact .waitForHealthy howned
      | nodeGroup nodeId group => cases (show ReconcilesNode nodeId _ from hfirst)
      | runtimeGroup runtimeId group =>
          cases (show ReconcilesRuntime runtimeId _ from hfirst)
  | reconciled target =>
      refine h.source_unique hs hs' ?_ hsecond
      cases source with
      | single change => cases (show Drafts change _ from hfirst)
      | nodeGroup nodeId group =>
          cases (show ReconcilesNode nodeId _ from hfirst) with
          | reconcile htarget => exact .health htarget
      | runtimeGroup runtimeId group =>
          cases (show ReconcilesRuntime runtimeId _ from hfirst)
  | nodeStopped target =>
      refine h.source_unique hs hs' hfirst ?_
      cases source' with
      | single change =>
          cases (show Drafts change _ from hsecond) with
          | removeNode howned hcompute => exact .stopNode howned
      | nodeGroup nodeId group => cases (show ReconcilesNode nodeId _ from hsecond)
      | runtimeGroup runtimeId group =>
          cases (show ReconcilesRuntime runtimeId _ from hsecond)
  | runtimeStopped target =>
      refine h.source_unique hs hs' hfirst ?_
      cases source' with
      | single change =>
          cases (show Drafts change _ from hsecond) with
          | removeRuntime howned hcompute => exact .stopRuntime howned
      | nodeGroup nodeId group => cases (show ReconcilesNode nodeId _ from hsecond)
      | runtimeGroup runtimeId group =>
          cases (show ReconcilesRuntime runtimeId _ from hsecond)

/-! ## Finished drafts -/

section Finish

variable {codec : GraphDescriptorCodec} {current desired : DeploymentGraph}
  {changes : List StructuralChange} {c : Compilation} {ls : List Link}

theorem mem_finish {activity : PlannedActivity} :
    activity ∈ c.finish ls ↔
      ∃ (ref : Nat) (draft : Draft), c.drafts[ref]? = some draft ∧
      draft.finish (c.addedTo ls ref) = activity := by
  simp only [Compilation.finish, List.mem_map, Prod.exists,
    List.mem_zipIdx_iff_getElem?]
  constructor
  · rintro ⟨draft, ref, hdraft, rfl⟩
    exact ⟨ref, draft, hdraft, rfl⟩
  · rintro ⟨ref, draft, hdraft, rfl⟩
    exact ⟨draft, ref, hdraft, rfl⟩

theorem map_finish {α : Type} {get : PlannedActivity → α} {of : Draft → α}
    (h : ∀ draft added, get (Draft.finish draft added) = of draft) :
    (c.finish ls).map get = c.drafts.map of := by
  rw [Compilation.finish, List.map_map]
  conv_rhs => rw [← List.zipIdx_map_fst 0 c.drafts, List.map_map]
  exact List.map_congr_left fun entry _ => h entry.1 _

/-- The predecessors of a finished draft: those it was created with, and those
added by links. -/
theorem mem_finish_predecessors {ref : Nat} {draft : Draft} {id : ActivityId} :
    id ∈ (draft.finish (c.addedTo ls ref)).predecessors ↔ id ∈ draft.dependencies ∨
      ∃ p other, ⟨ref, p⟩ ∈ ls ∧ c.drafts[p]? = some other ∧ other.activityId = id := by
  rw [Draft.finish, PlannedActivity.mem_make_predecessors]
  simp only [List.mem_map, ActivityDependency.mk.injEq, exists_eq_right, List.mem_dedup,
    List.mem_append]
  refine or_congr_right ?_
  simp only [Compilation.addedTo, List.mem_filterMap, Option.ite_none_right_eq_some,
    Option.map_eq_some_iff]
  constructor
  · rintro ⟨⟨s, p⟩, hlink, rfl, other, hother, rfl⟩
    exact ⟨p, other, hlink, hother, rfl⟩
  · rintro ⟨p, other, hlink, hother, rfl⟩
    exact ⟨⟨ref, p⟩, hlink, rfl, other, hother, rfl⟩

/-! ## The activities that are composed -/

namespace Compiled

/-- Where tokens are distinct, so are the identities of the drafts. -/
theorem ids_nodup (h : Compiled codec current desired changes c)
    (hdistinct : TokensDistinct changes) : (c.drafts.map (·.activityId)).Nodup := by
  refine List.Nodup.map_on ?_ (List.Nodup.of_map _ h.operations_nodup)
  intro draft hdraft draft' hdraft' heq
  obtain ⟨hlabel, htoken⟩ := labelledId_inj.mp heq
  obtain ⟨ref, href⟩ := List.getElem?_of_mem hdraft
  obtain ⟨ref', href'⟩ := List.getElem?_of_mem hdraft'
  obtain ⟨source, token, hs, hsource, hgroup, hin⟩ := h.source_of_holds href
  obtain ⟨source', token', hs', hsource', hgroup', hin'⟩ := h.source_of_holds href'
  have htokens : token = token' := by
    rw [← hgroup.token_eq draft hin, ← hgroup'.token_eq draft' hin', htoken]
  subst htokens
  obtain rfl := hdistinct source source' hs hs' token hsource hsource'
  refine List.inj_on_of_nodup_map h.operations_nodup hdraft hdraft'
    (DraftSource.operations_label (hgroup.sound draft hin)
      (hgroup'.sound draft' hin') ?_)
  rw [hgroup.label_eq draft hin, hgroup'.label_eq draft' hin', hlabel]

/-- **What a draft is created depending on.** -/
theorem mem_dependencies (h : Compiled codec current desired changes c) {ref : Nat}
    {draft : Draft} (hdraft : c.drafts[ref]? = some draft) {id : ActivityId} :
    id ∈ draft.dependencies ↔ ∃ (p : Nat) (other : Draft), c.drafts[p]? = some other ∧
      Follows other.operation draft.operation ∧ other.activityId = id := by
  obtain ⟨source, token, hs, htoken, hgroup, hin⟩ := h.source_of_holds hdraft
  rw [hgroup.dependencies draft hin]
  constructor
  · rintro ⟨other, hother, hfollows, rfl⟩
    obtain ⟨p, hp⟩ := h.holds_of_source hs hother
    exact ⟨p, other, hp, hfollows, rfl⟩
  · rintro ⟨p, other, hp, hfollows, rfl⟩
    obtain ⟨source', token', hs', htoken', hgroup', hin'⟩ := h.source_of_holds hp
    obtain rfl :=
      hfollows.source_eq h hs' hs (hgroup'.sound other hin') (hgroup.sound draft hin)
    exact ⟨other, hin', hfollows, rfl⟩

theorem safe (h : Compiled codec current desired changes c) {draft : Draft}
    (hdraft : draft ∈ c.drafts) : draft.Safe := by
  obtain ⟨ref, href⟩ := List.getElem?_of_mem hdraft
  obtain ⟨source, token, -, -, hgroup, hin⟩ := h.source_of_holds href
  exact hgroup.safe draft hin

end Compiled

theorem riskViolations_of_safe {draft : Draft} {added : List ActivityId}
    (h : draft.Safe) : riskViolations (draft.finish added) = [] := by
  obtain ⟨himpact, hreview, hdata⟩ := h
  have hfields : (draft.finish added).impact = draft.impact ∧
      (draft.finish added).risk = draft.risk ∧
      (draft.finish added).operation = draft.operation := ⟨rfl, rfl, rfl⟩
  simp only [riskViolations, hfields, hdata, List.append_eq_nil_iff]
  refine ⟨⟨if_neg ?_, if_neg (by simp)⟩, if_neg ?_⟩
  · rintro ⟨hdestructive, hrisk⟩
    rw [himpact hdestructive] at hrisk
    exact lt_irrefl _ hrisk
  · rintro ⟨hchange, hrisk⟩
    rw [hreview hchange] at hrisk
    exact lt_irrefl _ hrisk

/-- **What the compiler composes** is well formed, where tokens are distinct. -/
theorem composable_finish (h : Compiled codec current desired changes c)
    (hdistinct : TokensDistinct changes) (hlinks : c.links changes = .ok ls) :
    Composable (c.finish ls) where
  ids_nodup := by
    rw [activityIds, map_finish fun _ _ => rfl]
    exact h.ids_nodup hdistinct
  known := by
    intro activity hactivity p hp
    obtain ⟨ref, draft, hdraft, rfl⟩ := mem_finish.mp hactivity
    rw [activityIds, map_finish fun _ _ => rfl]
    rcases mem_finish_predecessors.mp hp with hp | ⟨q, other, -, hother, rfl⟩
    · obtain ⟨q, other, hother, -, rfl⟩ := (h.mem_dependencies hdraft).mp hp
      exact List.mem_map_of_mem (List.mem_of_getElem? hother)
    · exact List.mem_map_of_mem (List.mem_of_getElem? hother)
  not_self := by
    intro activity hactivity hself
    obtain ⟨ref, draft, hdraft, rfl⟩ := mem_finish.mp hactivity
    have hid : ∀ {q : Nat} {other : Draft}, c.drafts[q]? = some other →
        other.activityId = draft.activityId → other = draft := fun hother heq =>
      List.inj_on_of_nodup_map (h.ids_nodup hdistinct) (List.mem_of_getElem? hother)
        (List.mem_of_getElem? hdraft) heq
    rcases mem_finish_predecessors.mp hself with hp | ⟨q, other, hlink, hother, heq⟩
    · obtain ⟨q, other, hother, hfollows, heq⟩ := (h.mem_dependencies hdraft).mp hp
      rw [hid hother heq] at hfollows
      exact hfollows.ne rfl
    · obtain ⟨first, second, ⟨_, hp, rfl⟩, ⟨_, hs, rfl⟩, hprecedes⟩ :=
        h.sound_links hdistinct hlinks hlink
      rw [hother] at hp
      rw [hdraft] at hs
      cases hp
      cases hs
      rw [hid hother heq] at hprecedes
      exact hprecedes.ne rfl
  predecessors_nodup := by
    intro activity hactivity
    obtain ⟨ref, draft, hdraft, rfl⟩ := mem_finish.mp hactivity
    rw [Draft.finish,
      (PlannedActivity.make_predecessors_perm ..).nodup_iff, List.map_map]
    simpa [Function.comp_def] using List.nodup_dedup _
  risk := by
    intro activity hactivity
    obtain ⟨ref, draft, hdraft, rfl⟩ := mem_finish.mp hactivity
    exact riskViolations_of_safe (h.safe (List.mem_of_getElem? hdraft))

/-- **A predecessor precedes**, where tokens are distinct. -/
theorem Compiled.precedes_of_predecessor (h : Compiled codec current desired changes c)
    (hdistinct : TokensDistinct changes) (hlinks : c.links changes = .ok ls)
    {first second : PlannedActivity} (hfirst : first ∈ c.finish ls)
    (hsecond : second ∈ c.finish ls) (hpred : first.activityId ∈ second.predecessors) :
    Precedes current desired first.operation second.operation := by
  obtain ⟨p, other, hother, rfl⟩ := mem_finish.mp hfirst
  obtain ⟨ref, draft, hdraft, rfl⟩ := mem_finish.mp hsecond
  have hid : ∀ {q : Nat} {third : Draft}, c.drafts[q]? = some third →
      third.activityId = other.activityId → third = other := fun hthird heq =>
    List.inj_on_of_nodup_map (h.ids_nodup hdistinct) (List.mem_of_getElem? hthird)
      (List.mem_of_getElem? hother) heq
  rcases mem_finish_predecessors.mp hpred with hpred | ⟨q, third, hlink, hthird, heq⟩
  · obtain ⟨q, third, hthird, hfollows, heq⟩ := (h.mem_dependencies hdraft).mp hpred
    rw [hid hthird heq] at hfollows
    exact .follows hfollows
  · obtain ⟨_, _, ⟨_, hp, rfl⟩, ⟨_, hs, rfl⟩, hprecedes⟩ :=
      h.sound_links hdistinct hlinks hlink
    rw [hthird] at hp
    rw [hdraft] at hs
    cases hp
    cases hs
    rw [hid hthird heq] at hprecedes
    exact hprecedes

end Finish

/-! ## The plan of two graphs -/

/-- **A plan of two graphs**, with the compilation and the links it was made of. -/
structure Planned (codec : GraphDescriptorCodec) (current desired : DeploymentGraph)
    (changes : List StructuralChange) (plan : ActivityPlan) (c : Compilation)
    (ls : List Link) : Prop where
  compiled : Compiled codec current desired changes c
  links : c.links changes = .ok ls
  composed : composeActivities (c.finish ls) = .ok plan.activities

namespace Planned

variable {codec : GraphDescriptorCodec} {current desired : DeploymentGraph}
  {changes : List StructuralChange} {plan : ActivityPlan} {c : Compilation}
  {ls : List Link}

theorem mem_finish (h : Planned codec current desired changes plan c ls)
    {activity : PlannedActivity} :
    activity ∈ plan.activities ↔ activity ∈ c.finish ls :=
  (composeActivities_perm h.composed).mem_iff

theorem mem_activities (h : Planned codec current desired changes plan c ls)
    {activity : PlannedActivity} : activity ∈ plan.activities ↔
      ∃ (ref : Nat) (draft : Draft), c.drafts[ref]? = some draft ∧
        draft.finish (c.addedTo ls ref) = activity := by
  rw [h.mem_finish, Planning.mem_finish]

/-- **The operations of the plan** are those of the two graphs. -/
theorem exists_activity (h : Planned codec current desired changes plan c ls)
    {operation : ActivityOperation} :
    (∃ activity ∈ plan.activities, activity.operation = operation) ↔
      Drafted codec current desired operation := by
  rw [← h.compiled.exists_holds]
  constructor
  · rintro ⟨activity, hactivity, rfl⟩
    obtain ⟨ref, draft, hdraft, rfl⟩ := h.mem_activities.mp hactivity
    exact ⟨ref, draft, hdraft, rfl⟩
  · rintro ⟨ref, draft, hdraft, rfl⟩
    exact ⟨_, h.mem_activities.mpr ⟨ref, draft, hdraft, rfl⟩, rfl⟩

theorem drafted (h : Planned codec current desired changes plan c ls)
    {activity : PlannedActivity} (hactivity : activity ∈ plan.activities) :
    Drafted codec current desired activity.operation :=
  h.exists_activity.mp ⟨activity, hactivity, rfl⟩

/-- **No two activities of the plan have the same operation.** -/
theorem operations_nodup (h : Planned codec current desired changes plan c ls) :
    (plan.activities.map (·.operation)).Nodup := by
  rw [((composeActivities_perm h.composed).map _).nodup_iff, map_finish fun _ _ => rfl]
  exact h.compiled.operations_nodup

/-- The rules that need no token make predecessors. -/
theorem mem_predecessors (h : Planned codec current desired changes plan c ls)
    {first second : PlannedActivity} (hfirst : first ∈ plan.activities)
    (hsecond : second ∈ plan.activities)
    (hrule : Follows first.operation second.operation ∨
      Arranged current desired first.operation second.operation) :
    first.activityId ∈ second.predecessors := by
  obtain ⟨p, other, hother, rfl⟩ := h.mem_activities.mp hfirst
  obtain ⟨ref, draft, hdraft, rfl⟩ := h.mem_activities.mp hsecond
  rw [mem_finish_predecessors]
  rcases hrule with hfollows | harranged
  · exact .inl ((h.compiled.mem_dependencies hdraft).mpr
      ⟨p, other, hother, hfollows, rfl⟩)
  · exact .inr ⟨p, other, h.compiled.mem_of_arranged h.links ⟨other, hother, rfl⟩
      ⟨draft, hdraft, rfl⟩ harranged, hother, rfl⟩

/-- **Predecessors of the plan**: where tokens are distinct, they are the
activities of the operations that precede. -/
theorem predecessor_iff (h : Planned codec current desired changes plan c ls)
    (hdistinct : TokensDistinct changes) {first second : PlannedActivity}
    (hfirst : first ∈ plan.activities) (hsecond : second ∈ plan.activities) :
    first.activityId ∈ second.predecessors ↔
      Precedes current desired first.operation second.operation := by
  constructor
  · intro hpred
    exact h.compiled.precedes_of_predecessor hdistinct h.links (h.mem_finish.mp hfirst)
      (h.mem_finish.mp hsecond) hpred
  · rintro (hfollows | harranged | hconnected)
    · exact h.mem_predecessors hfirst hsecond (.inl hfollows)
    · exact h.mem_predecessors hfirst hsecond (.inr harranged)
    · obtain ⟨p, other, hother, rfl⟩ := h.mem_activities.mp hfirst
      obtain ⟨ref, draft, hdraft, rfl⟩ := h.mem_activities.mp hsecond
      exact mem_finish_predecessors.mpr
        (.inr ⟨p, other, h.compiled.mem_of_connected hdistinct h.links
          ⟨other, hother, rfl⟩ ⟨draft, hdraft, rfl⟩ hconnected, hother, rfl⟩)

end Planned

section Graphs

variable {repr : String → String} {codec : GraphDescriptorCodec}
  {current desired : DeploymentGraph} {currentValid desiredValid : ValidatedGraph}
  {diff : GraphDiff} {plan : ActivityPlan} {c : Compilation}

/-- The first pass over the diff of two valid graphs. -/
theorem compiled_of_gather (hcurrent : IsValid repr codec current currentValid)
    (hdesired : IsValid repr codec desired desiredValid)
    (hdiff : diffGraphs currentValid desiredValid = .ok diff)
    (h : Compilation.gather diff.changes = .ok c) :
    Compiled codec current desired diff.changes c := by
  have hmem := mem_diffGraphs hcurrent hdesired hdiff
  have hrender : ∀ change ∈ diff.changes, change.isRenderable = true :=
      fun change hchange =>
    (succeeds_diffGraphs hcurrent hdesired).mp
      ⟨diff, hdiff⟩ change ((hmem change).mp hchange)
  exact ⟨⟨hcurrent.encodable_all, hdesired.encodable_all⟩, hmem,
    diffGraphs_subjects hcurrent hdesired hdiff, hrender,
    gathered_of_gather
      (fun change hchange => (succeeds_changeToken change).mpr
        (hrender change hchange)) h⟩

theorem make_eq_ok {given : List PlannedActivity} :
    ActivityPlan.make given = .ok plan ↔
      composeActivities given = .ok plan.activities := by
  unfold ActivityPlan.make
  split
  · rename_i activities h
    constructor
    · rintro heq
      cases heq
      exact h
    · intro heq
      rw [h] at heq
      cases plan
      cases heq
      rfl
  · rename_i h
    simp [h]

/-- **Where a plan comes from.** -/
theorem planned_of_plan (hcurrent : IsValid repr codec current currentValid)
    (hdesired : IsValid repr codec desired desiredValid)
    (h : planGraphs currentValid desiredValid = .ok plan) :
    ∃ diff c ls, diffGraphs currentValid desiredValid = .ok diff ∧
      Planned codec current desired diff.changes plan c ls := by
  simp only [planGraphs, compileActivityPlan, EventFold.bind_ok, mapError_eq_ok,
    make_eq_ok] at h
  obtain ⟨diff, hdiff, c, hgather, ls, hlinks, hcomposed⟩ := h
  exact ⟨diff, c, ls, hdiff, compiled_of_gather hcurrent hdesired hdiff hgather, hlinks,
    hcomposed⟩

end Graphs

end ControlPlaneKit.Planning
