import ControlPlaneKit.Topology.DiffSubjects

/-!
# Sameness — graphs that are equal value by value

Two nodes are the same when every field is, as the host language compares the
field's values; two graphs are the same when their members are, identity by
identity.  The diff of two valid graphs is empty exactly then, and whatever is
not the same has a change that names its owner.
-/

namespace ControlPlaneKit.Topology

open ControlPlaneKit.Library
open Std (ExtTreeMap)

/-! ## Equal values -/

/-- **The same node**, field by field. -/
structure SameNode (left right : Node) : Prop where
  nodeId : left.nodeId = right.nodeId
  blockFamily : left.blockFamily = right.blockFamily
  blockSpec : left.blockSpec.pyEq right.blockSpec = true
  kind : left.kind = right.kind
  runtimeId : left.runtimeId = right.runtimeId
  sockets : left.sockets = right.sockets
  endpoints : left.endpoints = right.endpoints
  publicEnvironment : left.publicEnvironment = right.publicEnvironment
  socketEnvironment : left.socketEnvironment = right.socketEnvironment
  metadata : PyValue.pyEq (.dict left.metadata) (.dict right.metadata) = true
  lifecycle : left.lifecycle = right.lifecycle
  configurationArtifacts : left.configurationArtifacts.map (·.comparisonKey) =
    right.configurationArtifacts.map (·.comparisonKey)
  secretDeliveries : left.secretDeliveries = right.secretDeliveries
  delegationVerifierProjection :
    left.delegationVerifierProjection = right.delegationVerifierProjection

/-- **The same graph**: public ingresses are compared by identity. -/
structure SameGraph (left right : DeploymentGraph) : Prop where
  name : left.name = right.name
  runtimes : left.runtimes = right.runtimes
  nodes : ∀ nodeId : String,
    Option.Rel SameNode left.nodes[nodeId]? right.nodes[nodeId]?
  edges : left.edges = right.edges
  ingresses : left.ingressById = right.ingressById
  delegationAuthorities : left.delegationAuthorities = right.delegationAuthorities

/-- The fields of a specification hold no dictionary with a repeated key. -/
theorem BlockSpec.wellKeyed_fields (spec : BlockSpec) :
    PyValue.wellKeyed spec.fields = true := by
  have htext : ∀ text : Option String,
      PyValue.wellKeyed (optionalText text) = true := by
    intro text
    cases text <;> rfl
  have hmetadata : PyValue.wellKeyed (.dict (textEntries spec.metadata)) = true := by
    rw [PyValue.wellKeyed_dict_iff, textEntries, List.map_map, List.forall_mem_map]
    exact ⟨KeyedMap.nodup_keys_toList spec.metadata, fun _ _ => rfl⟩
  have hcheck : ∀ check : VerificationCheck,
      PyValue.wellKeyed check.descriptor = true := by
    intro check
    have hdetails := PyValue.wellKeyed_dict_iff.mp check.detailsKeyed
    rw [VerificationCheck.descriptor, PyValue.wellKeyed_dict_iff]
    refine ⟨hdetails.1, ?_⟩
    intro entry hentry
    rcases List.mem_append.mp hentry with hfixed | hentry
    · simp only [List.mem_cons, List.not_mem_nil, or_false] at hfixed
      rcases hfixed with rfl | rfl | rfl <;> rfl
    · exact hdetails.2 entry (by simp [hentry])
  have hsurface : ∀ surface : ControlSurface,
      PyValue.wellKeyed surface.descriptor = true := by
    intro surface
    rw [ControlSurface.descriptor, PyValue.wellKeyed_dict_iff]
    refine ⟨by simp, ?_⟩
    intro entry hentry
    simp only [List.mem_cons, List.not_mem_nil, or_false] at hentry
    rcases hentry with rfl | rfl
    · rfl
    · exact surface.variablesKeyed
  rw [BlockSpec.fields, PyValue.wellKeyed, PyValue.wellKeyedItems_iff]
  intro value hvalue
  simp only [List.mem_cons, List.not_mem_nil, or_false] at hvalue
  rcases hvalue with rfl | rfl | rfl | rfl | rfl | rfl | rfl | rfl | rfl
  · rfl
  · rfl
  · exact htext _
  · exact htext _
  · rw [PyValue.wellKeyed, PyValue.wellKeyedItems_iff, List.forall_mem_map]
    exact fun _ _ => rfl
  · rw [PyValue.wellKeyed, PyValue.wellKeyedItems_iff, List.forall_mem_map]
    exact fun check _ => hcheck check
  · exact hmetadata
  · rw [PyValue.wellKeyed, PyValue.wellKeyedItems_iff, List.forall_mem_map]
    exact fun surface _ => hsurface surface
  · exact spec.extraKeyed

@[simp] theorem BlockSpec.pyEq_self (spec : BlockSpec) : spec.pyEq spec = true :=
  PyValue.pyEq_self _ spec.wellKeyed_fields

theorem SameNode.refl (node : Node) : SameNode node node where
  nodeId := rfl
  blockFamily := rfl
  blockSpec := node.blockSpec.pyEq_self
  kind := rfl
  runtimeId := rfl
  sockets := rfl
  endpoints := rfl
  publicEnvironment := rfl
  socketEnvironment := rfl
  metadata := PyValue.pyEq_self _ node.metadataKeyed
  lifecycle := rfl
  configurationArtifacts := rfl
  secretDeliveries := rfl
  delegationVerifierProjection := rfl

theorem SameGraph.refl (graph : DeploymentGraph) : SameGraph graph graph where
  name := rfl
  runtimes := rfl
  nodes nodeId := by
    cases graph.nodes[nodeId]? with
    | none => exact .none
    | some node => exact .some (SameNode.refl node)
  edges := rfl
  ingresses := rfl
  delegationAuthorities := rfl

/-! ## What is not the same has a change -/

/-- Some change is about the member of this kind and identity. -/
def NamesOwner (changes : List StructuralChange) (kind : MemberKind)
    (member : String) : Prop :=
  ∃ change ∈ changes, change.subject.kind = kind ∧ change.subject.member = member

/-- **Complete changes**: every member that is not the same is named by one. -/
structure Covers (current desired : DeploymentGraph) (changes : List StructuralChange) :
    Prop where
  graph : current.name ≠ desired.name ∨
    current.delegationAuthorities ≠ desired.delegationAuthorities →
    NamesOwner changes .graph ""
  runtimes : ∀ runtimeId : String,
    current.runtimes[runtimeId]? ≠ desired.runtimes[runtimeId]? →
      NamesOwner changes .runtime runtimeId
  nodes : ∀ nodeId : String,
    ¬ Option.Rel SameNode current.nodes[nodeId]? desired.nodes[nodeId]? →
      NamesOwner changes .node nodeId
  edges : ∀ edgeId : String, current.edges[edgeId]? ≠ desired.edges[edgeId]? →
    NamesOwner changes .edge edgeId
  ingresses : ∀ ingressId : String,
    current.ingressById[ingressId]? ≠ desired.ingressById[ingressId]? →
      NamesOwner changes .publicIngress ingressId

variable {codec : GraphDescriptorCodec} {current desired : DeploymentGraph}
  {changes : List StructuralChange}

theorem fieldModified_eq_nil {changed : Bool} {owner : DiffOwner}
    {field : StructuralField} {old new : DiffValue} :
    fieldModified changed owner field old new = [] ↔ changed = false := by
  cases changed <;> simp [fieldModified]

theorem runtimeChanges_eq_nil {runtimeId : String} {before after : RuntimeRecord}
    (hid : before.runtimeId = after.runtimeId) :
    runtimeChanges runtimeId before after = [] ↔ before = after := by
  cases before
  cases after
  simp only [runtimeChanges, List.append_eq_nil_iff, fieldModified_eq_nil,
    ite_eq_right_iff, reduceCtorEq, imp_false, not_not, decide_eq_false_iff_not,
    RuntimeRecord.mk.injEq] at hid ⊢
  tauto

/-- What differs between two nodes of one identity is a change of that node. -/
theorem sameNode_of_forall {nodeId : String} {before after : Node}
    (hid : before.nodeId = after.nodeId)
    (hold : Outcome.Succeeds (codec.encodeBlockSpec before.blockSpec))
    (hnew : Outcome.Succeeds (codec.encodeBlockSpec after.blockSpec))
    (h : ∀ change, ¬ NodeChange codec nodeId before after change) :
    SameNode before after := by
  obtain ⟨old, hold⟩ := hold
  obtain ⟨new, hnew⟩ := hnew
  have hfamily : before.blockFamily = after.blockFamily := by
    by_contra hne
    exact h _ (.reused hne hold hnew)
  have hmaterial : ∀ change, change ∉ materialChanges nodeId before after :=
    fun change hmem => h change (.material hfamily hmem)
  simp only [materialChanges, List.mem_append, mem_fieldModified, not_or, not_and,
    decide_eq_true_eq] at hmaterial
  refine ⟨hid, hfamily, ?_, ?_, ?_, ?_, ?_, ?_, ?_, ?_, ?_, ?_, ?_, ?_⟩
  · by_contra hne
    exact h _ (.spec hfamily (Bool.eq_false_iff.mpr hne) hold hnew)
  · by_contra hne
    exact h _ (.kind hfamily hne)
  · by_contra hne
    exact h _ (.membership hfamily hne)
  · by_contra hne
    exact h _ (.sockets hfamily hne)
  · by_contra hne
    obtain ⟨name, hname⟩ := KeyedMap.exists_getElem?_ne hne
    cases hbefore : before.endpoints[name]? with
    | none =>
        cases hafter : after.endpoints[name]? with
        | none => exact hname (hbefore.trans hafter.symm)
        | some endpoint => exact h _ (.endpointAdded hfamily hafter hbefore)
    | some endpoint =>
        cases hafter : after.endpoints[name]? with
        | none => exact h _ (.endpointRemoved hfamily hbefore hafter)
        | some endpoint' =>
            refine h _ (.endpointModified hfamily hbefore hafter ?_)
            rintro rfl
            exact hname (hbefore.trans hafter.symm)
  · by_contra hne
    exact (hmaterial _).1.1.1.1.1 hne rfl
  · by_contra hne
    exact (hmaterial _).1.1.1.1.2 hne rfl
  · by_contra hne
    exact (hmaterial _).1.1.1.2 (by simpa [metadataDiffers] using hne) rfl
  · by_contra hne
    exact h _ (.lifecycle hfamily hne)
  · by_contra hne
    exact (hmaterial _).1.1.2 (by simpa [artifactsDiffer] using hne) rfl
  · by_contra hne
    exact (hmaterial _).1.2 hne rfl
  · by_contra hne
    exact (hmaterial _).2 hne rfl

/-- **The changes of two graphs are complete.** -/
theorem covers_of_changeOf (hcurrent : Keyed current) (hdesired : Keyed desired)
    (hencodable : Encodable codec current) (hencodable' : Encodable codec desired)
    (h : ∀ change, ChangeOf codec current desired change → change ∈ changes) :
    Covers current desired changes := by
  refine ⟨?_, fun runtimeId hne => ?_, fun nodeId hne => ?_, fun edgeId hne => ?_,
    fun ingressId hne => ?_⟩
  · rintro (hne | hne)
    · exact ⟨_, h _ (.graphChanged (List.mem_append_left _
        (mem_fieldModified.mpr ⟨decide_eq_true hne, rfl⟩))), rfl, rfl⟩
    · exact ⟨_, h _ (.graphChanged (List.mem_append_right _
        (mem_fieldModified.mpr ⟨decide_eq_true hne, rfl⟩))), rfl, rfl⟩
  · cases hbefore : current.runtimes[runtimeId]? with
    | none =>
        cases hafter : desired.runtimes[runtimeId]? with
        | none => exact absurd (hbefore.trans hafter.symm) hne
        | some runtime => exact ⟨_, h _ (.runtimeAdded hafter hbefore), rfl, rfl⟩
    | some before =>
        cases hafter : desired.runtimes[runtimeId]? with
        | none => exact ⟨_, h _ (.runtimeRemoved hbefore hafter), rfl, rfl⟩
        | some after =>
            have hid := (hcurrent.runtimes _ _ hbefore).trans
              (hdesired.runtimes _ _ hafter).symm
            have hsome : runtimeChanges runtimeId before after ≠ [] := by
              rw [Ne, runtimeChanges_eq_nil hid]
              rintro rfl
              exact hne (hbefore.trans hafter.symm)
            obtain ⟨change, hchange⟩ := List.exists_mem_of_ne_nil _ hsome
            obtain ⟨field, -, hsubject⟩ := List.mem_map.mp
              ((runtimeChanges_subjects runtimeId before after).subset
                (List.mem_map_of_mem hchange))
            refine ⟨change, h _ (.runtimeChanged hbefore hafter hchange), ?_, ?_⟩
            · rw [← hsubject]
              rfl
            · rw [← hsubject]
              rfl
  · cases hbefore : current.nodes[nodeId]? with
    | none =>
        cases hafter : desired.nodes[nodeId]? with
        | none =>
            rw [hbefore, hafter] at hne
            exact absurd .none hne
        | some node =>
            obtain ⟨encoded, hencoded⟩ := hencodable' nodeId node hafter
            exact ⟨_, h _ (.nodeAdded hafter hbefore hencoded), rfl, rfl⟩
    | some before =>
        cases hafter : desired.nodes[nodeId]? with
        | none =>
            obtain ⟨encoded, hencoded⟩ := hencodable nodeId before hbefore
            exact ⟨_, h _ (.nodeRemoved hbefore hafter hencoded), rfl, rfl⟩
        | some after =>
            have hid :=
              (hcurrent.nodes _ _ hbefore).trans (hdesired.nodes _ _ hafter).symm
            have hold := hencodable nodeId before hbefore
            have hnew := hencodable' nodeId after hafter
            obtain ⟨found, hfound⟩ := @succeeds_nodeChanges codec nodeId _ _ hold hnew
            by_contra hnone
            rw [hbefore, hafter] at hne
            refine hne (.some (@sameNode_of_forall codec nodeId _ _ hid hold hnew
              fun change hchange => hnone ?_))
            have hmem := (mem_nodeChanges hfound).mpr hchange
            exact ⟨change, h _ (.nodeChanged hbefore hafter hfound hmem),
              (nodeChanges_subjects hfound).2 change hmem⟩
  · cases hbefore : current.edges[edgeId]? with
    | none =>
        cases hafter : desired.edges[edgeId]? with
        | none => exact absurd (hbefore.trans hafter.symm) hne
        | some edge => exact ⟨_, h _ (.edgeAdded hafter hbefore), rfl, rfl⟩
    | some before =>
        cases hafter : desired.edges[edgeId]? with
        | none => exact ⟨_, h _ (.edgeRemoved hbefore hafter), rfl, rfl⟩
        | some after =>
            refine ⟨_, h _ (.edgeModified hbefore hafter ?_), rfl, rfl⟩
            rintro rfl
            exact hne (hbefore.trans hafter.symm)
  · cases hbefore : current.ingressById[ingressId]? with
    | none =>
        cases hafter : desired.ingressById[ingressId]? with
        | none => exact absurd (hbefore.trans hafter.symm) hne
        | some ingress => exact ⟨_, h _ (.ingressAdded hafter hbefore), rfl, rfl⟩
    | some before =>
        cases hafter : desired.ingressById[ingressId]? with
        | none => exact ⟨_, h _ (.ingressRemoved hbefore hafter), rfl, rfl⟩
        | some after =>
            refine ⟨_, h _ (.ingressModified hbefore hafter ?_), rfl, rfl⟩
            rintro rfl
            exact hne (hbefore.trans hafter.symm)

/-- Complete changes that are none leave the graph the same. -/
theorem Covers.same (h : Covers current desired []) : SameGraph current desired := by
  have hnone : ∀ kind member, ¬ NamesOwner [] kind member := by
    rintro kind member ⟨change, hchange, -⟩
    cases hchange
  refine ⟨?_, ?_, fun nodeId => ?_, ?_, ?_, ?_⟩
  · by_contra hne
    exact hnone _ _ (h.graph (.inl hne))
  · refine ExtTreeMap.ext_getElem? fun runtimeId => ?_
    by_contra hne
    exact hnone _ _ (h.runtimes runtimeId hne)
  · by_contra hne
    exact hnone _ _ (h.nodes nodeId hne)
  · refine ExtTreeMap.ext_getElem? fun edgeId => ?_
    by_contra hne
    exact hnone _ _ (h.edges edgeId hne)
  · refine ExtTreeMap.ext_getElem? fun ingressId => ?_
    by_contra hne
    exact hnone _ _ (h.ingresses ingressId hne)
  · by_contra hne
    exact hnone _ _ (h.graph (.inr hne))

/-! ## The same graph has no change -/

theorem SameNode.not_nodeChange {nodeId : String} {before after : Node}
    (h : SameNode before after) {change : StructuralChange} :
    ¬ NodeChange codec nodeId before after change := by
  intro hchange
  cases hchange with
  | reused hne => exact hne h.blockFamily
  | kind _ hne => exact hne h.kind
  | membership _ hne => exact hne h.runtimeId
  | spec _ hne =>
      rw [h.blockSpec] at hne
      cases hne
  | sockets _ hne => exact hne h.sockets
  | endpointAdded _ hnew hold =>
      rw [h.endpoints, hnew] at hold
      cases hold
  | endpointRemoved _ hold hnew =>
      rw [h.endpoints, hnew] at hold
      cases hold
  | endpointModified _ hold hnew hne =>
      rw [h.endpoints, hnew] at hold
      cases hold
      exact hne rfl
  | material _ hmem =>
      simp [materialChanges, mem_fieldModified, h.publicEnvironment,
        h.socketEnvironment, metadataDiffers, h.metadata, artifactsDiffer,
        h.configurationArtifacts, h.secretDeliveries,
        h.delegationVerifierProjection] at hmem
  | lifecycle _ hne => exact hne h.lifecycle

theorem SameGraph.not_changeOf (h : SameGraph current desired)
    {change : StructuralChange} : ¬ ChangeOf codec current desired change := by
  intro hchange
  cases hchange with
  | graphChanged hmem =>
      simp [diffGraphName, diffDelegationAuthorities, mem_fieldModified, h.name,
        h.delegationAuthorities] at hmem
  | runtimeAdded hafter hbefore | runtimeRemoved hbefore hafter =>
      rw [h.runtimes, hafter] at hbefore
      cases hbefore
  | runtimeChanged hbefore hafter hmem =>
      rw [h.runtimes, hafter] at hbefore
      cases hbefore
      rw [(runtimeChanges_eq_nil rfl).mpr rfl] at hmem
      cases hmem
  | @nodeAdded nodeId _ _ hafter hbefore | @nodeRemoved nodeId _ _ hbefore hafter =>
      have hsame := h.nodes nodeId
      rw [hafter, hbefore] at hsame
      cases hsame
  | @nodeChanged nodeId _ _ _ _ hbefore hafter hchanges hmem =>
      have hsame := h.nodes nodeId
      rw [hafter, hbefore] at hsame
      cases hsame with
      | some hnode => exact hnode.not_nodeChange ((mem_nodeChanges hchanges).mp hmem)
  | edgeAdded hafter hbefore | edgeRemoved hbefore hafter =>
      rw [h.edges, hafter] at hbefore
      cases hbefore
  | edgeModified hbefore hafter hne =>
      rw [h.edges, hafter] at hbefore
      cases hbefore
      exact hne rfl
  | ingressAdded hafter hbefore | ingressRemoved hbefore hafter =>
      rw [h.ingresses, hafter] at hbefore
      cases hbefore
  | ingressModified hbefore hafter hne =>
      rw [h.ingresses, hafter] at hbefore
      cases hbefore
      exact hne rfl

section Valid

variable {repr : String → String} {currentValid desiredValid : ValidatedGraph}
  {diff : GraphDiff}

theorem covers_of_diff (hcurrent : IsValid repr codec current currentValid)
    (hdesired : IsValid repr codec desired desiredValid)
    (h : diffGraphs currentValid desiredValid = .ok diff) :
    Covers current desired diff.changes :=
  covers_of_changeOf hcurrent.keyed hdesired.keyed hcurrent.encodable_all
    hdesired.encodable_all fun change hchange =>
    (mem_diffGraphs hcurrent hdesired h change).mpr hchange

/-- Graphs that are the same have the empty diff. -/
theorem SameGraph.diff_eq (h : SameGraph current desired)
    (hcurrent : IsValid repr codec current currentValid)
    (hdesired : IsValid repr codec desired desiredValid) :
    diffGraphs currentValid desiredValid = .ok ⟨current.name, desired.name, []⟩ := by
  obtain ⟨diff, hdiff⟩ :=
      (succeeds_diffGraphs hcurrent hdesired).mpr fun change hchange =>
    absurd hchange h.not_changeOf
  have hnil : diff.changes = [] :=
      List.eq_nil_iff_forall_not_mem.mpr fun change hchange =>
    h.not_changeOf ((mem_diffGraphs hcurrent hdesired hdiff change).mp hchange)
  obtain ⟨_, _, -, -, rfl⟩ := (diffGraphs_eq_ok hcurrent hdesired).mp hdiff
  dsimp only at hnil
  rw [hdiff, hnil]

end Valid

end ControlPlaneKit.Topology
