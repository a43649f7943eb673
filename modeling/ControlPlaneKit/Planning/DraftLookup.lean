import ControlPlaneKit.Planning.Drafted

/-!
# DraftLookup — the tables of a compilation, read off the two graphs

Every operation belongs to one source of the diff, and a source drafts it once,
so no two drafts have the same operation.  A table of the compilation is then a
function of the two graphs.
-/

namespace ControlPlaneKit.Planning

open ControlPlaneKit.Library
open ControlPlaneKit.Library.Outcome (Succeeds)
open ControlPlaneKit.Topology

/-! ## One source for each operation -/

/-- What an operation is about. -/
def operationSubject : ActivityOperation → DiffSubject
  | .startNode target | .stopNode target | .removeNodeResource target
  | .waitForHealthy target | .reconcileNode target => .node target.nodeId
  | .addSocketConnection target | .switchSocketConnection target
  | .removeSocketConnection target => .edge target.edgeId
  | .allocatePublicIngress target | .removePublicIngress target =>
      .publicIngress target.ingressId
  | .reconcileRuntime target | .startRuntime target | .stopRuntime target
  | .removeRuntimeResource target => .runtime target.runtimeId
  | .destroyDataResource target => .node target.nodeId
  | .reviewChange target _ => target.subject

theorem Drafts.subject_eq {change : StructuralChange} {operation : ActivityOperation}
    (h : Drafts change operation) : operationSubject operation = change.subject := by
  cases h <;> rfl

/-- The operations of one label and subject differ by their review reason alone. -/
theorem operation_eq_of_label {a b : ActivityOperation} {label : DraftLabel}
    (ha : labelOf a = some label) (hb : labelOf b = some label)
    (hsubject : operationSubject a = operationSubject b)
    (hreason : ∀ target reason target' reason', a = .reviewChange target reason →
      b = .reviewChange target' reason' → reason = reason') : a = b := by
  cases a <;> cases ha <;> cases b <;> cases hb
  case reviewChange.refl.reviewChange.refl target reason target' reason' =>
    cases hreason target reason target' reason' rfl rfl
    obtain ⟨subject⟩ := target
    obtain ⟨subject'⟩ := target'
    cases hsubject
    rfl
  all_goals
    rename_i target target'
    cases target
    cases target'
    cases hsubject
    rfl

/-- What every operation of a source is about. -/
def DraftSource.subject : DraftSource → DiffSubject
  | .single change => change.subject
  | .nodeGroup nodeId _ => .node nodeId
  | .runtimeGroup runtimeId _ => .runtime runtimeId

namespace DraftSource

variable {source : DraftSource} {a b : ActivityOperation}

theorem subject_eq (h : source.Operations a) : operationSubject a = source.subject := by
  cases source with
  | single change => exact Drafts.subject_eq h
  | nodeGroup nodeId changes =>
      obtain ⟨rfl⟩ | ⟨rfl⟩ : ReconcilesNode nodeId a := h <;> rfl
  | runtimeGroup runtimeId changes =>
      obtain ⟨rfl⟩ : ReconcilesRuntime runtimeId a := h
      rfl

theorem labelOf_isSome (h : source.Operations a) : ∃ label, labelOf a = some label := by
  cases source with
  | single change =>
      have h : Drafts change a := h
      cases h <;> exact ⟨_, rfl⟩
  | nodeGroup nodeId changes =>
      have h : ReconcilesNode nodeId a := h
      cases h <;> exact ⟨_, rfl⟩
  | runtimeGroup runtimeId changes =>
      have h : ReconcilesRuntime runtimeId a := h
      cases h
      exact ⟨_, rfl⟩

/-- A source has one operation for each label. -/
theorem operations_label (ha : source.Operations a) (hb : source.Operations b)
    (h : labelOf a = labelOf b) : a = b := by
  obtain ⟨label, hlabel⟩ := labelOf_isSome ha
  refine operation_eq_of_label hlabel (h ▸ hlabel)
    ((subject_eq ha).trans (subject_eq hb).symm) ?_
  rintro target reason target' reason' rfl rfl
  cases source with
  | single change =>
      have ha : Drafts change _ := ha
      have hb : Drafts change _ := hb
      generalize hoperation : ActivityOperation.reviewChange target reason =
        operation at ha
      generalize hoperation' : ActivityOperation.reviewChange target' reason' =
        operation' at hb
      cases ha <;> cases hoperation
      cases hb <;> cases hoperation'
      simp_all
  | nodeGroup nodeId changes =>
      have ha : ReconcilesNode nodeId _ := ha
      cases ha
  | runtimeGroup runtimeId changes =>
      have ha : ReconcilesRuntime runtimeId _ := ha
      cases ha

end DraftSource

section Compiled

variable {codec : GraphDescriptorCodec} {current desired : DeploymentGraph}
  {changes : List StructuralChange} {c : Compilation}

/-- **Each operation has one source.** -/
theorem Compiled.source_unique (h : Compiled codec current desired changes c)
    {source source' : DraftSource} {operation : ActivityOperation}
    (hs : IsSource changes source) (hs' : IsSource changes source')
    (hop : source.Operations operation) (hop' : source'.Operations operation) :
    source = source' := by
  have hsubject := (DraftSource.subject_eq hop).symm.trans (DraftSource.subject_eq hop')
  -- A health check is the only operation of a group that a change can have too.
  have hnode : ∀ {change : StructuralChange} {nodeId : String}
      {group : List StructuralChange} {operation : ActivityOperation},
      change ∈ changes →
      foundGroup (.node nodeId) changes = some group → Drafts change operation →
      ReconcilesNode nodeId operation → False := by
    intro change nodeId group operation hmem hgroup hdrafts hreconciles
    obtain ⟨before, _, hbefore, -⟩ :=
      (foundGroup_node h.encodable h.mem).mp ⟨group, hgroup⟩
    have hwhole := ((h.mem change).mp hmem).whole
    cases hdrafts <;> cases hreconciles
    case waitForHealthy.health howned htarget =>
      subst htarget
      obtain ⟨_, _, _, _, hnone, -⟩ := hwhole
      rw [hbefore] at hnone
      cases hnone
  have hruntime : ∀ {change : StructuralChange} {runtimeId : String}
      {operation : ActivityOperation}, Drafts change operation →
      ReconcilesRuntime runtimeId operation → False := by
    intro change runtimeId operation hdrafts hreconciles
    cases hdrafts <;> cases hreconciles
  cases hs with
  | single hmem hnone =>
      cases hs' with
      | single hmem' hnone' =>
          rw [List.inj_on_of_nodup_map h.subjects hmem hmem' hsubject]
      | nodeGroup hgroup => exact (hnode hmem hgroup hop hop').elim
      | runtimeGroup hgroup => exact (hruntime hop hop').elim
  | nodeGroup hgroup =>
      cases hs' with
      | single hmem' hnone' => exact (hnode hmem' hgroup hop' hop).elim
      | nodeGroup hgroup' =>
          cases hsubject
          rw [hgroup] at hgroup'
          cases hgroup'
          rfl
      | runtimeGroup hgroup' => cases hsubject
  | runtimeGroup hgroup =>
      cases hs' with
      | single hmem' hnone' => exact (hruntime hop' hop).elim
      | nodeGroup hgroup' => cases hsubject
      | runtimeGroup hgroup' =>
          cases hsubject
          rw [hgroup] at hgroup'
          cases hgroup'
          rfl

namespace Compiled

/-- The drafts of every source, and every draft of one. -/
theorem group_of_mem (h : Compiled codec current desired changes c)
    {source : DraftSource} (hs : IsSource changes source) :
    ∃ token, source.token = .ok token ∧
      DraftGroup token source.Operations source.drafts := by
  obtain ⟨sources, -, hmem, hcreated, -⟩ := h.gathered.sources
  obtain ⟨token, htoken⟩ := hs.succeeds_token h.renderable
  exact ⟨token, htoken, DraftSource.group htoken
    (hcreated source ((hmem source).mpr hs))⟩

/-- What was compiled has no blank target. -/
theorem nonblank_target (h : Compiled codec current desired changes c)
    {source : DraftSource} (hs : IsSource changes source) {identity : String}
    (htarget : source.targetId = some identity) : Text.isBlank identity = false := by
  obtain ⟨sources, -, hmem, hcreated, -⟩ := h.gathered.sources
  exact (DraftSource.succeeds_created (hs.succeeds_token h.renderable)).mp
    (hcreated source ((hmem source).mpr hs)) identity htarget

/-- **No two drafts have the same operation.** -/
theorem operations_nodup (h : Compiled codec current desired changes c) :
    (c.drafts.map (·.operation)).Nodup := by
  obtain ⟨sources, hdrafts, hmem, -, hnodup⟩ := h.gathered.sources
  have hgroup : ∀ source ∈ sources, ∃ token,
      DraftGroup token source.Operations source.drafts := fun source hsource =>
    (h.group_of_mem ((hmem source).mp hsource)).imp fun _ hgroup => hgroup.2
  rw [hdrafts, List.map_flatMap, List.nodup_flatMap]
  constructor
  · intro source hsource
    obtain ⟨token, hgroup⟩ := hgroup source hsource
    exact hgroup.nodup
  · refine (hnodup (List.Nodup.of_map _ h.subjects)).imp_of_mem ?_
    intro source source' hsource hsource' hne operation hop hop'
    obtain ⟨token, hg⟩ := hgroup source hsource
    obtain ⟨token', hg'⟩ := hgroup source' hsource'
    obtain ⟨draft, hdraft, rfl⟩ := List.mem_map.mp hop
    obtain ⟨draft', hdraft', heq⟩ := List.mem_map.mp hop'
    exact hne (h.source_unique ((hmem source).mp hsource) ((hmem source').mp hsource')
      (hg.sound draft hdraft) (heq ▸ hg'.sound draft' hdraft'))

/-- A draft was created for a source, and stands among the drafts of that source. -/
theorem source_of_holds (h : Compiled codec current desired changes c) {ref : Nat}
    {draft : Draft} (hdraft : c.drafts[ref]? = some draft) :
    ∃ source token, IsSource changes source ∧ source.token = .ok token ∧
      DraftGroup token source.Operations source.drafts ∧ draft ∈ source.drafts := by
  obtain ⟨sources, hdrafts, hmem, -, -⟩ := h.gathered.sources
  have hin := List.mem_of_getElem? hdraft
  rw [hdrafts] at hin
  obtain ⟨source, hsource, hin⟩ := List.mem_flatMap.mp hin
  have hs := (hmem source).mp hsource
  obtain ⟨token, htoken, hgroup⟩ := h.group_of_mem hs
  exact ⟨source, token, hs, htoken, hgroup, hin⟩

theorem holds_of_source (h : Compiled codec current desired changes c)
    {source : DraftSource} (hs : IsSource changes source) {draft : Draft}
    (hdraft : draft ∈ source.drafts) : ∃ ref : Nat, c.drafts[ref]? = some draft := by
  obtain ⟨sources, hdrafts, hmem, -, -⟩ := h.gathered.sources
  refine List.getElem?_of_mem ?_
  rw [hdrafts]
  exact List.mem_flatMap.mpr ⟨source, (hmem source).mpr hs, hdraft⟩

theorem holds_unique (h : Compiled codec current desired changes c) {ref ref' : Nat}
    {operation : ActivityOperation} (hop : c.Holds ref operation)
    (hop' : c.Holds ref' operation) : ref = ref' := by
  obtain ⟨draft, hdraft, rfl⟩ := hop
  obtain ⟨draft', hdraft', heq⟩ := hop'
  have hget : (c.drafts.map (·.operation))[ref]? =
      (c.drafts.map (·.operation))[ref']? := by
    simp [hdraft, hdraft', heq]
  refine (List.getElem?_inj ?_ h.operations_nodup).mp hget
  simpa using (List.getElem?_eq_some_iff.mp hdraft).1

/-- **The operations of the drafts** are those of the two graphs. -/
theorem exists_holds (h : Compiled codec current desired changes c)
    {operation : ActivityOperation} :
    (∃ ref, c.Holds ref operation) ↔ Drafted codec current desired operation := by
  rw [← operations_iff h.encodable h.mem]
  constructor
  · rintro ⟨ref, draft, hdraft, rfl⟩
    obtain ⟨source, token, hs, -, hgroup, hin⟩ := h.source_of_holds hdraft
    exact ⟨source, hs, hgroup.sound draft hin⟩
  · rintro ⟨source, hs, hop⟩
    obtain ⟨token, -, hgroup⟩ := h.group_of_mem hs
    obtain ⟨draft, hin, rfl⟩ := hgroup.complete operation hop
    obtain ⟨ref, href⟩ := h.holds_of_source hs hin
    exact ⟨ref, draft, href, rfl⟩

theorem drafted_of_holds (h : Compiled codec current desired changes c) {ref : Nat}
    {operation : ActivityOperation} (hop : c.Holds ref operation) :
    Drafted codec current desired operation :=
  h.exists_holds.mp ⟨ref, hop⟩

end Compiled

end Compiled

/-! ## Looking a draft up -/

/-- The operation filed in a table under a key. -/
def Table.operation (table : Table) (key : String) (h : Text.isBlank key = false) :
    ActivityOperation :=
  match table with
  | .startRuntime => .startRuntime ⟨key, h⟩
  | .stopRuntime => .stopRuntime ⟨key, h⟩
  | .removeRuntime => .removeRuntimeResource ⟨key, h⟩
  | .startNode => .startNode ⟨key, h⟩
  | .healthyNode => .waitForHealthy ⟨key, h⟩
  | .stopNode => .stopNode ⟨key, h⟩
  | .removeNode => .removeNodeResource ⟨key, h⟩
  | .allocateIngress => .allocatePublicIngress ⟨key, h⟩
  | .removeIngress => .removePublicIngress ⟨key, h⟩
  | .reconcileNode => .reconcileNode ⟨key, h⟩

theorem filing_eq_some {operation : ActivityOperation} {table : Table} {key : String} :
    filing operation = some (table, key) ↔ ∃ h, operation = table.operation key h := by
  constructor
  · intro h
    cases operation <;> cases h
    all_goals
      rename_i target
      exact ⟨target.nonempty, rfl⟩
  · rintro ⟨h, rfl⟩
    cases table <;> rfl

section Lookup

variable {codec : GraphDescriptorCodec} {current desired : DeploymentGraph}
  {changes : List StructuralChange} {c : Compilation}

namespace Compiled

/-- **A lookup** finds the draft of the operation it is for. -/
theorem lookup_eq_some (h : Compiled codec current desired changes c) {table : Table}
    {key : String} {ref : Nat} :
    c.lookup table key = some ref ↔
      ∃ hblank, c.Holds ref (table.operation key hblank) := by
  have hunique : ∀ other, c.Files table key ref → c.Files table key other →
      ref = other := by
    rintro other ⟨operation, hop, hfiling⟩ ⟨operation', hop', hfiling'⟩
    obtain ⟨_, rfl⟩ := filing_eq_some.mp hfiling
    obtain ⟨_, rfl⟩ := filing_eq_some.mp hfiling'
    exact h.holds_unique hop hop'
  rw [Compilation.lookup, (h.gathered.tables table).eq_some_iff hunique]
  constructor
  · rintro ⟨operation, hop, hfiling⟩
    obtain ⟨hblank, rfl⟩ := filing_eq_some.mp hfiling
    exact ⟨hblank, hop⟩
  · rintro ⟨hblank, hop⟩
    exact ⟨_, hop, filing_eq_some.mpr ⟨hblank, rfl⟩⟩

theorem addedPublicIngresses_eq_some (h : Compiled codec current desired changes c)
    {key : String} {ingress : NamedPublicIngress} :
    c.addedPublicIngresses[key]? = some ingress ↔
      desired.ingressById[key]? = some ingress ∧ current.ingressById[key]? = none := by
  refine h.gathered.addedIngresses.eq_some_iff_of_lookup fun ingress => ?_
  rw [h.mem]
  constructor
  · intro hof
    obtain ⟨_, heq, hafter, hbefore⟩ := hof.whole
    cases heq
    exact ⟨hafter, hbefore⟩
  · exact fun ⟨hafter, hbefore⟩ => .ingressAdded hafter hbefore

theorem removedPublicIngresses_eq_some (h : Compiled codec current desired changes c)
    {key : String} {ingress : NamedPublicIngress} :
    c.removedPublicIngresses[key]? = some ingress ↔
      current.ingressById[key]? = some ingress ∧ desired.ingressById[key]? = none := by
  refine h.gathered.removedIngresses.eq_some_iff_of_lookup fun ingress => ?_
  rw [h.mem]
  constructor
  · intro hof
    obtain ⟨_, heq, hbefore, hafter⟩ := hof.whole
    cases heq
    exact ⟨hbefore, hafter⟩
  · exact fun ⟨hbefore, hafter⟩ => .ingressRemoved hbefore hafter

/-- The runtimes remembered are those of the removed nodes that are stopped. -/
theorem removedNodeRuntime_eq_some (h : Compiled codec current desired changes c)
    {key runtimeId : String} :
    c.removedNodeRuntime[key]? = some runtimeId ↔
      ∃ node, current.nodes[key]? = some node ∧
      desired.nodes[key]? = none ∧ node.lifecycle.ownership = .owned ∧
      node.runtimeId = runtimeId := by
  have hiff : ∀ runtimeId,
      (∃ node encoded, .removed (.node key) (.node node encoded) ∈ changes ∧
      node.lifecycle.ownership = .owned ∧ node.runtimeId = runtimeId) ↔
      ∃ node, current.nodes[key]? = some node ∧ desired.nodes[key]? = none ∧
        node.lifecycle.ownership = .owned ∧ node.runtimeId = runtimeId := by
    intro runtimeId
    constructor
    · rintro ⟨node, encoded, hmem, hrest⟩
      obtain ⟨_, _, heq, hbefore, hafter, -⟩ := ((h.mem _).mp hmem).whole
      cases heq
      exact ⟨node, hbefore, hafter, hrest⟩
    · rintro ⟨node, hbefore, hafter, hrest⟩
      obtain ⟨encoded, hencoded⟩ := h.encodable.1 _ _ hbefore
      exact ⟨node, encoded, (h.mem _).mpr (.nodeRemoved hbefore hafter hencoded), hrest⟩
  rw [h.gathered.nodeRuntimes.eq_some_iff, hiff]
  intro other hone hother
  obtain ⟨node, hbefore, -, -, rfl⟩ := (hiff _).mp hone
  obtain ⟨node', hbefore', -, -, rfl⟩ := (hiff _).mp hother
  rw [hbefore] at hbefore'
  cases hbefore'
  rfl

end Compiled

end Lookup

end ControlPlaneKit.Planning
