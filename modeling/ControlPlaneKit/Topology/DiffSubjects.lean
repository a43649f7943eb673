import ControlPlaneKit.Topology.DiffLaws

/-!
# DiffSubjects — no two changes of a diff have the same subject

Every change is about a member of one kind and identity; the changes of one
member are about different fields, or about different endpoints of a node.
-/

namespace ControlPlaneKit.Topology

open ControlPlaneKit.Library
open ControlPlaneKit.Library.KeyedMap (compareKeyed mem_compareKeyed nodup_compareKeyed)

inductive MemberKind where
  | graph
  | runtime
  | node
  | edge
  | publicIngress
  deriving DecidableEq

/-- What kind of member a subject is, or is a field of. -/
def DiffSubject.kind : DiffSubject → MemberKind
  | .graph | .field .graph _ _ => .graph
  | .runtime _ | .field (.runtime _) _ _ => .runtime
  | .node _ | .field (.node _) _ _ => .node
  | .edge _ => .edge
  | .publicIngress _ | .field (.publicIngress _) _ _ => .publicIngress

def DiffOwner.member : DiffOwner → String
  | .graph => ""
  | .runtime runtimeId => runtimeId
  | .node nodeId => nodeId
  | .publicIngress ingressId => ingressId

/-- The identity of that member. -/
def DiffSubject.member : DiffSubject → String
  | .graph => ""
  | .runtime runtimeId => runtimeId
  | .node nodeId => nodeId
  | .edge edgeId => edgeId
  | .publicIngress ingressId => ingressId
  | .field owner _ _ => owner.member

/-- The key of a keyed field. -/
def DiffSubject.key : DiffSubject → String
  | .field _ _ (some key) => key
  | _ => ""

variable {codec : GraphDescriptorCodec} {current desired : DeploymentGraph}

theorem fieldModified_subjects (changed : Bool) (owner : DiffOwner)
    (field : StructuralField) (before after : DiffValue) :
    ((fieldModified changed owner field before after).map (·.subject)).Sublist
      [.field owner field none] := by
  unfold fieldModified
  split
  · exact List.Sublist.refl _
  · exact List.nil_sublist _

/-- The changes of a shared runtime are about different fields of it. -/
theorem runtimeChanges_subjects (runtimeId : String) (before after : RuntimeRecord) :
    ((runtimeChanges runtimeId before after).map (·.subject)).Sublist
      ([.runtimeKind, .runtimeContainment, .runtimeAuthority, .runtimeMetadata,
        .resourceLifecycle].map fun field =>
          .field (.runtime runtimeId) field none) := by
  simp only [runtimeChanges, List.map_append]
  refine ((((?_ : List.Sublist _ [_]).append (fieldModified_subjects ..)).append
    (fieldModified_subjects ..)).append (fieldModified_subjects ..)).append
    (fieldModified_subjects ..)
  split
  · exact List.Sublist.refl _
  · exact List.nil_sublist _

theorem materialChanges_subjects (nodeId : String) (before after : Node) :
    ((materialChanges nodeId before after).map (·.subject)).Sublist
      ([.publicEnvironment, .socketEnvironment, .nodeMetadata, .configurationArtifacts,
        .secretDeliveries, .delegationVerifierProjection].map fun field =>
          .field (.node nodeId) field none) := by
  simp only [materialChanges, List.map_append]
  exact (((((fieldModified_subjects ..).append (fieldModified_subjects ..)).append
    (fieldModified_subjects ..)).append (fieldModified_subjects ..)).append
    (fieldModified_subjects ..)).append (fieldModified_subjects ..)

/-- The endpoint changes of a node are about different endpoints. -/
theorem endpointChanges_subjects {nodeId : String} {before after : Node}
    {changes : List StructuralChange}
    (h : endpointChanges nodeId before after = .ok changes) :
    (changes.map (·.subject)).Nodup ∧
      ∀ change ∈ changes, ∃ name, change.subject = endpointSubject nodeId name := by
  constructor
  · have hone : ∀ (name : String) (change : StructuralChange),
        change.subject = endpointSubject nodeId name →
        (([change] : List StructuralChange).map (·.subject)).Nodup ∧
          ∀ b ∈ [change], b.subject.key = name := by
      intro name change hsubject
      simp [hsubject, endpointSubject, DiffSubject.key]
    refine nodup_compareKeyed DiffSubject.key h ?_ ?_ ?_
    · rintro name endpoint _ ⟨⟩
      exact hone name _ rfl
    · rintro name endpoint _ ⟨⟩
      exact hone name _ rfl
    · intro name old new bs hbs
      cases hbs
      split
      · exact hone name _ rfl
      · simp
  · intro change hchange
    rcases (mem_endpointChanges h).mp hchange with ⟨name, _, _, _, rfl⟩ |
      ⟨name, _, _, _, rfl⟩ | ⟨name, _, _, _, _, _, rfl⟩
    · exact ⟨name, rfl⟩
    · exact ⟨name, rfl⟩
    · exact ⟨name, rfl⟩

/-- Around the endpoints of a node stand fields without a key. -/
theorem nodup_around {nodeId : String} {front middle back : List DiffSubject}
    {fs gs : List StructuralField}
    (hfront : front.Sublist (fs.map fun field => .field (.node nodeId) field none))
    (hback : back.Sublist (gs.map fun field => .field (.node nodeId) field none))
    (hfields : (fs ++ gs).Nodup) (hmiddle : middle.Nodup)
    (hkeyed : ∀ subject ∈ middle, ∃ name, subject = endpointSubject nodeId name) :
    (front ++ middle ++ back).Nodup := by
  have hinjective : Function.Injective
      fun field : StructuralField => DiffSubject.field (.node nodeId) field none :=
    fun a b h => by cases h; rfl
  have hends : (front ++ back).Nodup :=
    ((hfields.map hinjective).sublist ((hfront.append hback).trans (by simp)))
  have hkey : ∀ {subject}, subject ∈ front ++ back → subject ∉ middle := by
    intro subject hsubject hmem
    obtain ⟨name, rfl⟩ := hkeyed subject hmem
    rcases List.mem_append.mp hsubject with h | h
    · obtain ⟨field, -, hfield⟩ := List.mem_map.mp (hfront.subset h)
      cases hfield
    · obtain ⟨field, -, hfield⟩ := List.mem_map.mp (hback.subset h)
      cases hfield
  rw [List.append_assoc, List.perm_append_comm.append_left front |>.nodup_iff,
    ← List.append_assoc, List.nodup_append]
  exact ⟨hends, hmiddle, fun a ha b hb hab => hkey ha (hab ▸ hb)⟩

/-- The changes of a shared node are about different fields or endpoints of it. -/
theorem nodeChanges_subjects {nodeId : String} {before after : Node}
    {changes : List StructuralChange}
    (h : nodeChanges codec nodeId before after = .ok changes) :
    (changes.map (·.subject)).Nodup ∧
      ∀ change ∈ changes, change.subject.kind = .node ∧
      change.subject.member = nodeId := by
  constructor
  · unfold nodeChanges at h
    dsimp only at h
    split at h
    · simp only [EventFold.bind_ok, nodeValue, Outcome.map_eq_ok] at h
      obtain ⟨_, ⟨old, hold, rfl⟩, _, ⟨new, hnew, rfl⟩, hrest⟩ := h
      cases hrest
      simp
    · simp only [EventFold.bind_ok] at h
      obtain ⟨spec, hspec, endpoints, hendpoints, hrest⟩ := h
      cases hrest
      obtain ⟨hnodup, hsubjects⟩ := endpointChanges_subjects hendpoints
      have hspecs : (spec.map (·.subject)).Sublist
          [.field (.node nodeId) .blockSpecification none] := by
        unfold blockSpecChanges at hspec
        split at hspec
        · cases hspec
          exact List.nil_sublist _
        · simp only [EventFold.bind_ok, blockSpecValue, Outcome.map_eq_ok] at hspec
          obtain ⟨_, ⟨old, hold, rfl⟩, _, ⟨new, hnew, rfl⟩, hrest⟩ := hspec
          cases hrest
          exact fieldModified_subjects ..
      have hkind : ((if before.kind ≠ after.kind then
          [StructuralChange.unsupported (.field (.node nodeId) .implementationKind none)
            (.text before.kind) (.text after.kind) .implementationKindTransition]
          else []).map (·.subject)).Sublist
            [.field (.node nodeId) .implementationKind none] := by
        split
        · exact List.Sublist.refl _
        · exact List.nil_sublist _
      have hfront := ((hkind.append (fieldModified_subjects (before.runtimeId ≠
          after.runtimeId) (.node nodeId) .runtimeMembership (.text before.runtimeId)
          (.text after.runtimeId))).append hspecs).append (fieldModified_subjects
          (before.sockets ≠ after.sockets) (.node nodeId) .socketContract
          (.socketContract before.sockets) (.socketContract after.sockets))
      have hback := (materialChanges_subjects nodeId before after).append
        (fieldModified_subjects (before.lifecycle ≠ after.lifecycle) (.node nodeId)
          .resourceLifecycle (.metadata before.lifecycle.entries)
          (.metadata after.lifecycle.entries))
      simp only [List.map_append]
      rw [List.append_assoc]
      refine @nodup_around nodeId _ _ _ [.implementationKind, .runtimeMembership,
        .blockSpecification, .socketContract] [.publicEnvironment, .socketEnvironment,
        .nodeMetadata, .configurationArtifacts, .secretDeliveries,
        .delegationVerifierProjection,
        .resourceLifecycle] hfront hback (by decide) hnodup ?_
      intro subject hsubject
      obtain ⟨change, hchange, rfl⟩ := List.mem_map.mp hsubject
      exact hsubjects change hchange
  · intro change hchange
    have hmaterial : change ∈ materialChanges nodeId before after →
        change.subject.kind = .node ∧ change.subject.member = nodeId := by
      intro hmem
      have :=
        (materialChanges_subjects nodeId before after).subset (List.mem_map_of_mem hmem)
      obtain ⟨field, -, hfield⟩ := List.mem_map.mp this
      rw [← hfield]
      exact ⟨rfl, rfl⟩
    cases (mem_nodeChanges h).mp hchange with
    | material _ hmem => exact hmaterial hmem
    | _ => exact ⟨rfl, rfl⟩

/-! ## The whole diff -/

section Diffs

variable {changes : List StructuralChange}

/-- Changes of one kind, no two of the same subject. -/
def OfKind (kind : MemberKind) (changes : List StructuralChange) : Prop :=
  (changes.map (·.subject)).Nodup ∧ ∀ change ∈ changes, change.subject.kind = kind

/-- Changes of one member, no two of the same subject. -/
def OfMember (kind : MemberKind) (member : String) (changes : List StructuralChange) :
    Prop :=
  (changes.map (·.subject)).Nodup ∧
    ∀ change ∈ changes, change.subject.kind = kind ∧ change.subject.member = member

/-- A single change is about the member its subject names. -/
theorem ofMember_singleton (change : StructuralChange) :
    OfMember change.subject.kind change.subject.member [change] :=
  ⟨List.nodup_singleton _, fun _ h => by rw [List.mem_singleton.mp h]; exact ⟨rfl, rfl⟩⟩

theorem ofMember_nil {kind : MemberKind} {member : String} : OfMember kind member [] :=
  ⟨List.nodup_nil, fun _ h => absurd h List.not_mem_nil⟩

/-- What changes members of one kind, each by changes of its own, is of that kind. -/
theorem ofKind_compareKeyed {α : Type} {kind : MemberKind}
    {onAdded onRemoved : String → α → Except GraphError (List StructuralChange)}
    {onShared : String → α → α → Except GraphError (List StructuralChange)}
    {before after : TextMap α}
    (h : compareKeyed onAdded onRemoved onShared before after = .ok changes)
    (hadded : ∀ k v bs, onAdded k v = .ok bs → OfMember kind k bs)
    (hremoved : ∀ k v bs, onRemoved k v = .ok bs → OfMember kind k bs)
    (hshared : ∀ k v w bs, onShared k v w = .ok bs → OfMember kind k bs) :
    OfKind kind changes := by
  have hlabel : ∀ {k bs}, OfMember kind k bs →
      (bs.map (·.subject)).Nodup ∧ ∀ b ∈ bs, b.subject.member = k :=
    fun hof => ⟨hof.1, fun b hb => (hof.2 b hb).2⟩
  constructor
  · exact nodup_compareKeyed DiffSubject.member h
      (fun k v bs hbs => hlabel (hadded k v bs hbs))
      (fun k v bs hbs => hlabel (hremoved k v bs hbs))
      (fun k v w bs hbs => hlabel (hshared k v w bs hbs))
  · intro change hchange
    rcases (mem_compareKeyed h).mp hchange with ⟨_, _, _, _, _, hbs, hmem⟩ |
      ⟨_, _, _, _, _, hbs, hmem⟩ | ⟨_, _, _, _, _, _, hbs, hmem⟩
    · exact ((hadded _ _ _ hbs).2 change hmem).1
    · exact ((hremoved _ _ _ hbs).2 change hmem).1
    · exact ((hshared _ _ _ _ hbs).2 change hmem).1

theorem ofMember_runtimeChanges (runtimeId : String) (before after : RuntimeRecord) :
    OfMember .runtime runtimeId (runtimeChanges runtimeId before after) := by
  have hsub := runtimeChanges_subjects runtimeId before after
  constructor
  · have hinjective : Function.Injective
        fun field : StructuralField =>
          DiffSubject.field (.runtime runtimeId) field none :=
      fun a b h => by cases h; rfl
    exact (List.Nodup.map hinjective (by decide)).sublist hsub
  · intro change hchange
    obtain ⟨field, -, hfield⟩ :=
      List.mem_map.mp (hsub.subset (List.mem_map_of_mem hchange))
    rw [← hfield]
    exact ⟨rfl, rfl⟩

theorem ofKind_diffRuntimes (h : diffRuntimes current desired = .ok changes) :
    OfKind .runtime changes := by
  refine ofKind_compareKeyed h ?_ ?_ ?_
  · rintro runtimeId runtime _ ⟨⟩
    exact ofMember_singleton (.added (.runtime runtimeId) (.runtime runtime))
  · rintro runtimeId runtime _ ⟨⟩
    exact ofMember_singleton (.removed (.runtime runtimeId) (.runtime runtime))
  · rintro runtimeId before after _ ⟨⟩
    exact ofMember_runtimeChanges runtimeId before after

theorem ofKind_diffNodes (h : diffNodes codec current desired = .ok changes) :
    OfKind .node changes := by
  refine ofKind_compareKeyed h ?_ ?_ ?_
  · intro nodeId node bs hbs
    obtain ⟨value, -, rfl⟩ := Outcome.map_eq_ok.mp hbs
    exact ofMember_singleton (.added (.node nodeId) value)
  · intro nodeId node bs hbs
    obtain ⟨value, -, rfl⟩ := Outcome.map_eq_ok.mp hbs
    exact ofMember_singleton (.removed (.node nodeId) value)
  · exact fun nodeId before after bs hbs => nodeChanges_subjects hbs

theorem ofKind_diffEdges (h : diffEdges current desired = .ok changes) :
    OfKind .edge changes := by
  refine ofKind_compareKeyed h ?_ ?_ ?_
  · rintro edgeId edge _ ⟨⟩
    exact ofMember_singleton (.added (.edge edgeId) (.edge edge))
  · rintro edgeId edge _ ⟨⟩
    exact ofMember_singleton (.removed (.edge edgeId) (.edge edge))
  · rintro edgeId before after _ ⟨⟩
    split
    · exact ofMember_singleton (.modified (.edge edgeId) (.edge before) (.edge after))
    · exact ofMember_nil

theorem ofKind_diffPublicIngresses
    (h : diffPublicIngresses current desired = .ok changes) :
    OfKind .publicIngress changes := by
  refine ofKind_compareKeyed h ?_ ?_ ?_
  · rintro ingressId ingress _ ⟨⟩
    exact ofMember_singleton (.added (.publicIngress ingressId) (.publicIngress ingress))
  · rintro ingressId ingress _ ⟨⟩
    exact ofMember_singleton
      (.removed (.publicIngress ingressId) (.publicIngress ingress))
  · rintro ingressId before after _ ⟨⟩
    split
    · exact ofMember_singleton (.modified (.publicIngress ingressId)
        (.publicIngress before) (.publicIngress after))
    · exact ofMember_nil

/-- Changes of different kinds have different subjects. -/
theorem nodup_subjects_append {first second : List StructuralChange} {kind : MemberKind}
    (hfirst : (first.map (·.subject)).Nodup) (hsecond : OfKind kind second)
    (hkind : ∀ change ∈ first, change.subject.kind ≠ kind) :
    ((first ++ second).map (·.subject)).Nodup := by
  rw [List.map_append, List.nodup_append]
  refine ⟨hfirst, hsecond.1, ?_⟩
  simp only [List.mem_map]
  rintro _ ⟨change, hchange, rfl⟩ _ ⟨other, hother, rfl⟩ heq
  exact hkind change hchange (heq ▸ hsecond.2 other hother)

/-- **No two structural changes have the same subject.** -/
theorem structuralChanges_subjects
    (h : structuralChanges codec current desired = .ok changes) :
    (changes.map (·.subject)).Nodup := by
  obtain ⟨runtimes, nodes, edges, ingresses, hr, hn, he, hi, rfl⟩ :=
    structuralChanges_eq_ok.mp h
  have hruntimes := ofKind_diffRuntimes hr
  have hnodes := ofKind_diffNodes hn
  have hedges := ofKind_diffEdges he
  have hingresses := ofKind_diffPublicIngresses hi
  have hname : ((diffGraphName current desired).map (·.subject)).Sublist
      [.field .graph .graphName none] := fieldModified_subjects ..
  have hauthorities : ((diffDelegationAuthorities current desired).map
    (·.subject)).Sublist [.field .graph .delegationAuthorities none] :=
    fieldModified_subjects ..
  have hnameSubject : ∀ change ∈ diffGraphName current desired,
      change.subject = .field .graph .graphName none := fun change hchange =>
    List.mem_singleton.mp (hname.subset (List.mem_map_of_mem hchange))
  have hgraph : ∀ change ∈ diffGraphName current desired,
      change.subject.kind = .graph :=
    fun change hchange => by rw [hnameSubject change hchange]; rfl
  have hmembers : ((diffGraphName current desired ++ runtimes ++ nodes ++ edges ++
      ingresses).map (·.subject)).Nodup := by
    refine nodup_subjects_append (nodup_subjects_append (nodup_subjects_append
      (nodup_subjects_append ((List.nodup_singleton _).sublist hname) hruntimes ?_)
      hnodes ?_)
      hedges ?_) hingresses ?_
    · intro change hchange
      simp [hgraph change hchange]
    · simp only [List.mem_append]
      rintro change (hchange | hchange)
      · simp [hgraph change hchange]
      · simp [hruntimes.2 change hchange]
    · simp only [List.mem_append]
      rintro change ((hchange | hchange) | hchange)
      · simp [hgraph change hchange]
      · simp [hruntimes.2 change hchange]
      · simp [hnodes.2 change hchange]
    · simp only [List.mem_append]
      rintro change (((hchange | hchange) | hchange) | hchange)
      · simp [hgraph change hchange]
      · simp [hruntimes.2 change hchange]
      · simp [hnodes.2 change hchange]
      · simp [hedges.2 change hchange]
  rw [List.map_append, List.nodup_append]
  refine ⟨hmembers, (List.nodup_singleton _).sublist hauthorities, ?_⟩
  simp only [List.map_append, List.mem_append]
  rintro subject hsubject _ hauthority rfl
  have heq := List.mem_singleton.mp (hauthorities.subset hauthority)
  subst heq
  have hkinds : ∀ {kind : MemberKind} {changes : List StructuralChange},
      OfKind kind changes →
      kind ≠ .graph →
      DiffSubject.field .graph .delegationAuthorities none ∉
        changes.map (·.subject) := by
    intro kind changes hkind hne hmem
    obtain ⟨change, hchange, hsubject⟩ := List.mem_map.mp hmem
    have := hkind.2 change hchange
    rw [hsubject] at this
    exact hne this.symm
  rcases hsubject with (((hsubject | hsubject) | hsubject) | hsubject) | hsubject
  · have := List.mem_singleton.mp (hname.subset hsubject)
    cases this
  · exact hkinds hruntimes (by simp) hsubject
  · exact hkinds hnodes (by simp) hsubject
  · exact hkinds hedges (by simp) hsubject
  · exact hkinds hingresses (by simp) hsubject

variable {repr : String → String} {currentValid desiredValid : ValidatedGraph}
  {diff : GraphDiff}

/-- **No two changes of a diff have the same subject.** -/
theorem diffGraphs_subjects (hcurrent : IsValid repr codec current currentValid)
    (hdesired : IsValid repr codec desired desiredValid)
    (h : diffGraphs currentValid desiredValid = .ok diff) :
    (diff.changes.map (·.subject)).Nodup := by
  obtain ⟨changes, sorted, hchanges, hsorted, rfl⟩ :=
    (diffGraphs_eq_ok hcurrent hdesired).mp h
  exact ((sortChanges_perm hsorted).map _).nodup_iff.mpr
    (structuralChanges_subjects hchanges)

end Diffs

/-! ## Reading a change of a whole member back -/

/-- What a change of a whole member says of the two graphs. -/
def WholeChange (codec : GraphDescriptorCodec) (current desired : DeploymentGraph) :
    StructuralChange → Prop
  | .added (.runtime runtimeId) value => ∃ runtime, value = .runtime runtime ∧
      desired.runtimes[runtimeId]? = some runtime ∧ current.runtimes[runtimeId]? = none
  | .removed (.runtime runtimeId) value => ∃ runtime, value = .runtime runtime ∧
      current.runtimes[runtimeId]? = some runtime ∧ desired.runtimes[runtimeId]? = none
  | .added (.node nodeId) value => ∃ node encoded, value = .node node encoded ∧
      desired.nodes[nodeId]? = some node ∧ current.nodes[nodeId]? = none ∧
      codec.encodeBlockSpec node.blockSpec = .ok encoded
  | .removed (.node nodeId) value => ∃ node encoded, value = .node node encoded ∧
      current.nodes[nodeId]? = some node ∧ desired.nodes[nodeId]? = none ∧
      codec.encodeBlockSpec node.blockSpec = .ok encoded
  | .added (.edge edgeId) value => ∃ edge, value = .edge edge ∧
      desired.edges[edgeId]? = some edge ∧ current.edges[edgeId]? = none
  | .removed (.edge edgeId) value => ∃ edge, value = .edge edge ∧
      current.edges[edgeId]? = some edge ∧ desired.edges[edgeId]? = none
  | .modified (.edge edgeId) old new => ∃ before after, old = .edge before ∧
      new = .edge after ∧ current.edges[edgeId]? = some before ∧
      desired.edges[edgeId]? = some after ∧ before ≠ after
  | .added (.publicIngress ingressId) value =>
      ∃ ingress, value = .publicIngress ingress ∧
      desired.ingressById[ingressId]? = some ingress ∧
      current.ingressById[ingressId]? = none
  | .removed (.publicIngress ingressId) value =>
      ∃ ingress, value = .publicIngress ingress ∧
      current.ingressById[ingressId]? = some ingress ∧
      desired.ingressById[ingressId]? = none
  | _ => True

/-- **Every change of a whole member** is what the two graphs say of it. -/
theorem ChangeOf.whole {change : StructuralChange}
    (h : ChangeOf codec current desired change) :
    WholeChange codec current desired change := by
  cases h with
  | graphChanged hmem =>
      rcases List.mem_append.mp hmem with h | h
      · rw [(mem_fieldModified.mp h).2]
        trivial
      · rw [(mem_fieldModified.mp h).2]
        trivial
  | runtimeAdded hafter hbefore => exact ⟨_, rfl, hafter, hbefore⟩
  | runtimeRemoved hbefore hafter => exact ⟨_, rfl, hbefore, hafter⟩
  | runtimeChanged hbefore hafter hmem =>
      simp only [runtimeChanges, List.mem_append, mem_fieldModified,
        List.mem_ite_nil_right, List.mem_singleton] at hmem
      rcases hmem with (((⟨-, rfl⟩ | ⟨-, rfl⟩) | ⟨-, rfl⟩) | ⟨-, rfl⟩) |
        ⟨-, rfl⟩ <;> trivial
  | nodeAdded hafter hbefore hencoded => exact ⟨_, _, rfl, hafter, hbefore, hencoded⟩
  | nodeRemoved hbefore hafter hencoded => exact ⟨_, _, rfl, hbefore, hafter, hencoded⟩
  | nodeChanged hbefore hafter hchanges hmem =>
      cases (mem_nodeChanges hchanges).mp hmem with
      | material _ hmaterial =>
          simp only [materialChanges, List.mem_append, mem_fieldModified] at hmaterial
          rcases hmaterial with ((((⟨-, rfl⟩ | ⟨-, rfl⟩) | ⟨-, rfl⟩) | ⟨-, rfl⟩) |
            ⟨-, rfl⟩) | ⟨-, rfl⟩ <;> trivial
      | _ => trivial
  | edgeAdded hafter hbefore => exact ⟨_, rfl, hafter, hbefore⟩
  | edgeRemoved hbefore hafter => exact ⟨_, rfl, hbefore, hafter⟩
  | edgeModified hbefore hafter hne => exact ⟨_, _, rfl, rfl, hbefore, hafter, hne⟩
  | ingressAdded hafter hbefore => exact ⟨_, rfl, hafter, hbefore⟩
  | ingressRemoved hbefore hafter => exact ⟨_, rfl, hbefore, hafter⟩
  | ingressModified hbefore hafter hne => trivial

end ControlPlaneKit.Topology
