import ControlPlaneKit.Rotation.SigningKeyLaws
import ControlPlaneKit.Rotation.VerifierProjection

/-!
# VerifierProjectionLaws — when a rotation that overlapped can also retire

The overlap stores its two keys in the order of their identities, and the
retirement compares them in the order old, new; and both put their projections on
the authored graph, not on the current one.
-/

namespace ControlPlaneKit.Rotation

open ControlPlaneKit.Library
open ControlPlaneKit.Library.EventFold (bind_ok)
open ControlPlaneKit.Library.KeyedMap (mem_toList)
open ControlPlaneKit.Library.Ordering (sortedBy mem_sortedBy sortedBy_perm)
open ControlPlaneKit.Library.Outcome (mapM_eq_ok mapError_eq_ok)
open ControlPlaneKit.Operations
open ControlPlaneKit.Topology
open SigningKeyTable (readRow select)

variable {hash : String → String} {keys : SigningKeyTable}
  {rotation : GatewayKeyRotation} {authored current result : DeploymentGraph}

/-! ## The projections of the current graph -/

/-- **The projection of a binding** is the one that its delegate carries. -/
theorem currentProjection_eq_ok {binding : DelegationAuthorityBinding}
    {projection : DelegationVerifierProjection} :
    currentProjection current binding = .ok projection ↔
      CoversBinding current binding projection := by
  simp only [currentProjection, bind_ok, found_eq_ok, Option.filter_eq_some_iff,
    Bool.and_eq_true, decide_eq_true_eq, CoversBinding]

/-- The nodes that carry a projection. -/
theorem mem_projectedNodes (hkeyed : NodesKeyed current) {nodeId : String} :
    nodeId ∈ projectedNodes current ↔
      ∃ node, current.nodes[nodeId]? = some node ∧
      node.delegationVerifierProjection.isSome := by
  simp only [projectedNodes, List.mem_map, List.mem_filter, Prod.exists, mem_toList]
  constructor
  · rintro ⟨other, node, ⟨hnode, hsome⟩, rfl⟩
    exact ⟨node, (hkeyed _ _ hnode).symm ▸ hnode, hsome⟩
  · rintro ⟨node, hnode, hsome⟩
    exact ⟨nodeId, node, ⟨hnode, hsome⟩, hkeyed _ _ hnode⟩

/-- The current graph has projections for exactly the authored bindings. -/
structure CoversExactly (authored current : DeploymentGraph)
    (projections : List DelegationVerifierProjection) : Prop where
  covers : List.Forall₂ (CoversBinding current)
    authored.delegationAuthorities projections
  only : ∀ (nodeId : String) (node : Node), current.nodes[nodeId]? = some node →
    node.delegationVerifierProjection.isSome →
    nodeId ∈ authored.delegationAuthorities.map (·.delegateNodeId)

/-- What stands on the left is related to something on the right. -/
theorem forall₂_mem_left {α β : Type} {R : α → β → Prop} {as : List α} {bs : List β}
    (h : List.Forall₂ R as bs) {a : α} (ha : a ∈ as) : ∃ b ∈ bs, R a b := by
  induction h with
  | nil => cases ha
  | cons hab _ ih =>
      rcases List.mem_cons.mp ha with rfl | ha
      · exact ⟨_, List.mem_cons_self, hab⟩
      · obtain ⟨b, hb, hrel⟩ := ih ha
        exact ⟨b, List.mem_cons_of_mem _ hb, hrel⟩

/-- Where each has a partner there is a list of partners. -/
theorem forall₂_exists {α β : Type} {R : α → β → Prop} {as : List α}
    (h : ∀ a ∈ as, ∃ b, R a b) : ∃ bs, List.Forall₂ R as bs := by
  induction as with
  | nil => exact ⟨[], .nil⟩
  | cons a as ih =>
      obtain ⟨b, hb⟩ := h a List.mem_cons_self
      obtain ⟨bs, hbs⟩ := ih fun a' ha' => h a' (List.mem_cons_of_mem _ ha')
      exact ⟨b :: bs, .cons hb hbs⟩

/-- **The projections of a graph** are one for each authored binding, and no node
carries another. -/
theorem currentProjections_eq_ok (hkeyed : NodesKeyed current)
    {projections : List DelegationVerifierProjection} :
    currentProjections authored current = .ok projections ↔
      CoversExactly authored current projections := by
  have hcovered : ∀ {projections}, List.Forall₂ (CoversBinding current)
      authored.delegationAuthorities projections → ∀ nodeId,
        nodeId ∈ authored.delegationAuthorities.map (·.delegateNodeId) →
        nodeId ∈ projectedNodes current := by
    intro projections hcovers nodeId hmem
    obtain ⟨binding, hbinding, rfl⟩ := List.mem_map.mp hmem
    obtain ⟨projection, -, node, hnode, hprojection, -⟩ :=
      forall₂_mem_left hcovers hbinding
    exact (mem_projectedNodes hkeyed).mpr ⟨node, hnode, by rw [hprojection]; rfl⟩
  simp only [currentProjections, bind_ok, mapM_eq_ok, currentProjection_eq_ok,
    requireThat_eq_ok, Bool.and_eq_true, List.all_eq_true,
    List.contains_iff_mem, exists_const]
  constructor
  · rintro ⟨projections', hcovers, ⟨honly, -⟩, h⟩
    cases h
    exact ⟨hcovers, fun nodeId node hnode hsome =>
      honly nodeId ((mem_projectedNodes hkeyed).mpr ⟨node, hnode, hsome⟩)⟩
  · intro h
    refine ⟨projections, h.covers, ⟨fun nodeId hmem => ?_, hcovered h.covers⟩, rfl⟩
    obtain ⟨node, hnode, hsome⟩ := (mem_projectedNodes hkeyed).mp hmem
    exact h.only nodeId node hnode hsome

namespace CoversExactly

variable {projections : List DelegationVerifierProjection}

/-- They stand in the order of the bindings. -/
theorem identities (h : CoversExactly authored current projections) :
    projections.map (·.bindingIdentity) =
      authored.delegationAuthorities.map (·.identity) := by
  obtain ⟨hcovers, -⟩ := h
  generalize authored.delegationAuthorities = bindings at hcovers
  induction hcovers with
  | nil => rfl
  | cons hcover _ ih =>
      obtain ⟨-, -, -, hidentity, -⟩ := hcover
      rw [List.map_cons, List.map_cons, ih, hidentity]

/-- So there is one projection for each binding. -/
theorem nodup (h : CoversExactly authored current projections) :
    (projections.map (·.bindingIdentity)).Nodup := by
  rw [h.identities]
  exact authored.authoritiesUnique

/-- A node has one projection, so no two bindings are of one node. -/
theorem distinct (h : CoversExactly authored current projections) :
    (authored.delegationAuthorities.map (·.delegateNodeId)).Nodup := by
  refine List.Nodup.map_on (fun binding hbinding other hother hsame => ?_)
    (List.Nodup.of_map _ authored.authoritiesUnique)
  obtain ⟨projection, -, node, hnode, hprojection, hidentity, -⟩ :=
    forall₂_mem_left h.covers hbinding
  obtain ⟨projection', -, node', hnode', hprojection', hidentity', -⟩ :=
    forall₂_mem_left h.covers hother
  rw [hsame] at hnode
  cases hnode.symm.trans hnode'
  cases hprojection.symm.trans hprojection'
  exact List.inj_on_of_nodup_map authored.authoritiesUnique hbinding hother
    (hidentity.symm.trans hidentity')

/-- Every projection is that of a binding. -/
theorem mem (h : CoversExactly authored current projections)
    {projection : DelegationVerifierProjection} (hmem : projection ∈ projections) :
    ∃ binding ∈ authored.delegationAuthorities,
      CoversBinding current binding projection := by
  obtain ⟨binding, hbinding, hcover⟩ := forall₂_mem_left (R := fun projection binding =>
    CoversBinding current binding projection) h.covers.flip hmem
  exact ⟨binding, hbinding, hcover⟩

end CoversExactly

/-! ## The projections of a derivation -/

/-- The projection a binding gets: the replacement, or the one it has. -/
def replacedBy (replacement projection : DelegationVerifierProjection) :
    DelegationVerifierProjection :=
  if projection.bindingIdentity = replacement.bindingIdentity then replacement
  else projection

/-- What replaces a projection is of the same binding. -/
theorem replacedBy_identity (replacement projection : DelegationVerifierProjection) :
    (replacedBy replacement projection).bindingIdentity =
      projection.bindingIdentity := by
  unfold replacedBy
  split
  · rename_i hsame
    exact hsame.symm
  · rfl

/-- The projections after one was replaced. -/
theorem mem_replaceProjection {projections : List DelegationVerifierProjection}
    {replacement projection : DelegationVerifierProjection} :
    projection ∈ replaceProjection projections replacement ↔
      ∃ stored ∈ projections, replacedBy replacement stored = projection := by
  rw [replaceProjection, mem_sortedBy, List.mem_map]
  rfl

/-- There is still one projection for each binding. -/
theorem nodup_replaceProjection {projections : List DelegationVerifierProjection}
    (hnodup : (projections.map (·.bindingIdentity)).Nodup)
    (replacement : DelegationVerifierProjection) :
    ((replaceProjection projections replacement).map (·.bindingIdentity)).Nodup := by
  rw [replaceProjection, ((sortedBy_perm _ _).map _).nodup_iff, List.map_map]
  have hsame :
      ((fun projection : DelegationVerifierProjection => projection.bindingIdentity) ∘
      fun projection : DelegationVerifierProjection =>
        if projection.bindingIdentity = replacement.bindingIdentity then replacement
        else projection) = (·.bindingIdentity) :=
    funext fun projection => replacedBy_identity replacement projection
  rwa [hsame]

/-- **What a derivation makes of the authored graph**: every bound node gets the
projection it has in the current graph, and the target its replacement. -/
structure Reprojected (authored current : DeploymentGraph)
    (replacement : DelegationVerifierProjection) (result : DeploymentGraph) : Prop where
  rest : result = { authored with nodes := result.nodes }
  bound : ∀ binding ∈ authored.delegationAuthorities, ∃ projection node,
    CoversBinding current binding projection ∧
      TakesProjection authored binding (replacedBy replacement projection) node ∧
      result.nodes[binding.delegateNodeId]? =
        some (node.withVerifier (some (replacedBy replacement projection)))
  unbound : ∀ nodeId : String,
    nodeId ∉ authored.delegationAuthorities.map (·.delegateNodeId) →
    result.nodes[nodeId]? = authored.nodes[nodeId]?

/-- A binding has one projection at most. -/
theorem CoversBinding.unique {binding : DelegationAuthorityBinding}
    {projection projection' : DelegationVerifierProjection}
    (h : CoversBinding current binding projection)
    (h' : CoversBinding current binding projection') : projection = projection' := by
  obtain ⟨node, hnode, hprojection, -⟩ := h
  obtain ⟨node', hnode', hprojection', -⟩ := h'
  cases hnode.symm.trans hnode'
  exact Option.some.inj (hprojection.symm.trans hprojection')

/-- **Materializing with one projection replaced** changes the nodes of its binding
only. -/
theorem materialize_replaceProjection {projections : List DelegationVerifierProjection}
    {replacement : DelegationVerifierProjection} (hkeyed : NodesKeyed authored)
    (hcovers : CoversExactly authored current projections) :
    materializeDelegationVerifiers authored
      (replaceProjection projections replacement) = .ok result ↔
      Reprojected authored current replacement result := by
  rw [materializeDelegationVerifiers_eq_ok hkeyed hcovers.distinct]
  constructor
  · rintro ⟨-, -, h⟩
    refine ⟨h.rest, fun binding hbinding => ?_, h.unbound⟩
    obtain ⟨projection, hmem, node, htakes, hresult⟩ := h.bound binding hbinding
    obtain ⟨stored, hstored, rfl⟩ := mem_replaceProjection.mp hmem
    obtain ⟨other, hother, hcover⟩ := hcovers.mem hstored
    have hsame : other = binding := by
      refine List.inj_on_of_nodup_map authored.authoritiesUnique hother hbinding ?_
      obtain ⟨-, -, -, hidentity, -⟩ := hcover
      rw [← hidentity, ← htakes.identity, replacedBy_identity]
    exact ⟨stored, node, hsame ▸ hcover, htakes, hresult⟩
  · intro h
    refine ⟨nodup_replaceProjection hcovers.nodup replacement,
      fun projection hmem => ?_, h.rest, fun binding hbinding => ?_, h.unbound⟩
    · obtain ⟨stored, hstored, rfl⟩ := mem_replaceProjection.mp hmem
      obtain ⟨binding, hbinding, -, -, -, hidentity, -⟩ := hcovers.mem hstored
      exact ⟨binding, hbinding, by rw [replacedBy_identity, hidentity]⟩
    · obtain ⟨projection, node, hcover, htakes, hresult⟩ := h.bound binding hbinding
      obtain ⟨stored, hstored, hcover'⟩ := forall₂_mem_left hcovers.covers hbinding
      cases hcover.unique hcover'
      exact ⟨_, mem_replaceProjection.mpr ⟨projection, hstored, rfl⟩, node,
        htakes, hresult⟩

/-! ## Derivations -/

def phaseProjectionId (rotation : GatewayKeyRotation)
    (phase : GatewayKeyRotationDeploymentPhase) : String :=
  "gateway-rotation-" ++ rotation.rotationId ++ "-" ++ phase.value ++ "-verifier"

/-- **What a derivation reads, and makes**, of one phase. -/
structure Derives (hash : String → String) (keys : SigningKeyTable)
    (rotation : GatewayKeyRotation) (authored current : DeploymentGraph)
    (phase : GatewayKeyRotationDeploymentPhase) (newKeyId : String)
    (oldKey newKey : RegisteredDelegationSigningKey)
    (target replacement : DelegationVerifierProjection)
    (targetKeys : List DelegationPublicKey) (result : DeploymentGraph) : Prop where
  covers : ∀ binding ∈ authored.delegationAuthorities, ∃ projection,
    CoversBinding current binding projection
  only : ∀ (nodeId : String) (node : Node), current.nodes[nodeId]? = some node →
    node.delegationVerifierProjection.isSome →
    nodeId ∈ authored.delegationAuthorities.map (·.delegateNodeId)
  binding : ∃ binding ∈ authored.delegationAuthorities,
    binding.identity = rotationIdentity rotation ∧
    binding.issuer = rotation.intent.issuer ∧
      CoversBinding current binding target
  names : rotation.newKeyId = some newKeyId
  readsOld : keys.get hash (rotationScope rotation) rotation.intent.oldKeyId =
    .ok oldKey
  readsNew : keys.get hash (rotationScope rotation) newKeyId = .ok newKey
  custody : newKey.identity.privateKeyReference = rotation.intent.newSecretReference
  verification : requireVerificationKeys hash keys rotation newKeyId = .ok ()
  issuer : target.issuer = rotation.intent.issuer
  audience : target.audience = expectedAudience rotation
  chooses : phaseKeys phase oldKey newKey rotation.intent.oldKeyId newKeyId target =
    .ok targetKeys
  builds : delegationVerifierProjection rotation.intent.gatewayNodeId
      rotation.intent.purpose rotation.intent.issuer (expectedAudience rotation)
      (phaseProjectionId rotation phase) targetKeys =
      .ok replacement
  reprojected : Reprojected authored current replacement result

/-- **When a phase's graph is derived**: the rotation, the keys and both graphs fit, and
the result is the current graph with one projection replaced. -/
theorem derive_eq_ok (hauthored : NodesKeyed authored) (hcurrent : NodesKeyed current)
    {phase : GatewayKeyRotationDeploymentPhase} :
    deriveGatewayKeyRotationProjectionGraph hash keys rotation authored current phase =
      .ok result ↔
      ∃ newKeyId oldKey newKey target replacement targetKeys,
        Derives hash keys rotation authored current phase newKeyId oldKey newKey
          target replacement
          targetKeys result := by
  simp only [deriveGatewayKeyRotationProjectionGraph, bind_ok,
    currentProjections_eq_ok hcurrent, requireThat_eq_ok, List.any_eq_true,
    Bool.and_eq_true, decide_eq_true_eq, found_eq_ok, ofAuthority, mapError_eq_ok]
  constructor
  · rintro ⟨projections, hcovers, -, ⟨binding, hbinding, hidentity, hissuer⟩,
      newKeyId, hnewKeyId, oldKey, holdKey, newKey, hnewKey, -, hcustody, ⟨⟩,
      hverification, target, htarget, -, ⟨hissuer', haudience⟩, targetKeys, hphase,
      replacement, hreplacement, hresult⟩
    obtain ⟨hmem, htargetIdentity⟩ :=
      (find?_eq_some_iff_of_nodup hcovers.nodup).mp htarget
    obtain ⟨other, hother, hcover⟩ := hcovers.mem hmem
    have hsame : other = binding := by
      refine List.inj_on_of_nodup_map authored.authoritiesUnique hother hbinding ?_
      obtain ⟨-, -, -, hcovered, -⟩ := hcover
      rw [← hcovered, htargetIdentity, hidentity]
    subst hsame
    refine ⟨newKeyId, oldKey, newKey, target, replacement, targetKeys,
      fun binding hbinding => ?_, hcovers.only,
      ⟨other, hother, hidentity, hissuer, hcover⟩, hnewKeyId, holdKey, hnewKey,
      hcustody, hverification, hissuer', haudience, hphase, hreplacement,
      (materialize_replaceProjection hauthored hcovers).mp hresult⟩
    obtain ⟨projection, -, hcover⟩ := forall₂_mem_left hcovers.covers hbinding
    exact ⟨projection, hcover⟩
  · rintro ⟨newKeyId, oldKey, newKey, target, replacement, targetKeys, h⟩
    obtain ⟨projections, hprojections⟩ := forall₂_exists h.covers
    have hcovers : CoversExactly authored current projections := ⟨hprojections, h.only⟩
    obtain ⟨binding, hbinding, hidentity, hissuer, hcover⟩ := h.binding
    obtain ⟨stored, hstored, hcover'⟩ := forall₂_mem_left hprojections hbinding
    cases hcover.unique hcover'
    have htarget : target.bindingIdentity = rotationIdentity rotation := by
      obtain ⟨-, -, -, hcovered, -⟩ := hcover
      exact hcovered.trans hidentity
    exact ⟨projections, hcovers, (), ⟨binding, hbinding, hidentity, hissuer⟩,
      newKeyId, h.names, oldKey, h.readsOld, newKey, h.readsNew, (), h.custody, (),
      h.verification, target, (find?_eq_some_iff_of_nodup hcovers.nodup).mpr
        ⟨hstored, htarget⟩, (), ⟨h.issuer, h.audience⟩,
      targetKeys, h.chooses, replacement, h.builds,
      (materialize_replaceProjection hauthored hcovers).mpr h.reprojected⟩

end ControlPlaneKit.Rotation
