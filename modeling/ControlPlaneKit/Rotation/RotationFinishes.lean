import ControlPlaneKit.Rotation.KeySwitch
import ControlPlaneKit.Rotation.VerifierProjectionLaws
import ControlPlaneKit.Topology.Validation

/-!
# RotationFinishes — when a rotation that overlapped can retire

After the switch of the keys, the retirement wants the two keys of the overlap in
the order old, new; the projection holds them in the order of their identities.
-/

namespace ControlPlaneKit.Rotation

open ControlPlaneKit.Library
open ControlPlaneKit.Library.EventFold (bind_ok)
open ControlPlaneKit.Library.Ordering (sortedBy sortedBy_pair sortedBy_perm)
open ControlPlaneKit.Operations
open ControlPlaneKit.Topology

variable {hash : String → String} {keys after : SigningKeyTable}
  {rotation : GatewayKeyRotation}
  {authored current overlapped retired : DeploymentGraph} {newKeyId : String}

/-! ## Two graphs but for their nodes -/

/-- Two graphs agree but for their nodes. -/
def SameRest (graph other : DeploymentGraph) : Prop :=
  graph = { other with nodes := graph.nodes }

theorem SameRest.symm {graph other : DeploymentGraph} (h : SameRest graph other) :
    SameRest other graph :=
  calc other = { ({ other with nodes := graph.nodes } : DeploymentGraph) with
      nodes := other.nodes } :=
        rfl
    _ = { graph with nodes := other.nodes } :=
        congrArg (fun middle : DeploymentGraph => { middle with nodes := other.nodes })
          (Eq.symm h)

theorem SameRest.trans {graph middle other : DeploymentGraph}
    (h : SameRest graph middle) (h' : SameRest middle other) : SameRest graph other :=
  calc graph = { middle with nodes := graph.nodes } := h
    _ = { ({ other with nodes := middle.nodes } : DeploymentGraph) with
      nodes := graph.nodes } :=
        congrArg (fun value : DeploymentGraph => { value with nodes := graph.nodes }) h'
    _ = { other with nodes := graph.nodes } := rfl

/-! ## What is to hold of the two deployments -/

/-- A graph comes from another by replacing the verifier material of one node. -/
structure ReplacesVerifier (before after : DeploymentGraph) (nodeId : String)
    (publicKeys : List DelegationPublicKey) : Prop where
  rest : SameRest after before
  others : ∀ other : String, other ≠ nodeId → after.nodes[other]? = before.nodes[other]?
  target : ∃ node projection, before.nodes[nodeId]? = some node ∧
    after.nodes[nodeId]? = some (node.withVerifier (some projection)) ∧
    projection.publicKeys.Perm publicKeys

/-- **The deployments of a rotation finish**: the retirement is derived from the
overlap, it leaves the target the new key alone, and the overlap gave it both; the
rest of either graph is as it was. -/
structure FinishesDeployments (hash : String → String) (after : SigningKeyTable)
    (rotation : GatewayKeyRotation) (authored current overlapped : DeploymentGraph)
    (oldKey newKey : DelegationPublicKey) : Prop where
  retires : ∃ retired,
    deriveGatewayKeyRotationProjectionGraph hash after rotation authored
      overlapped .retirement =
      .ok retired ∧
    ReplacesVerifier overlapped retired rotation.intent.gatewayNodeId [newKey]
  overlaps : ReplacesVerifier current overlapped rotation.intent.gatewayNodeId
    [oldKey, newKey]

/-- The current graph is the authored one, but for verifier material. -/
structure RealizesAuthored (authored current : DeploymentGraph) : Prop where
  rest : SameRest current authored
  nodes : ∀ nodeId : String,
    (current.nodes[nodeId]?.map fun node => node.withVerifier none) =
    authored.nodes[nodeId]?.map fun node => node.withVerifier none

/-- No authored node has verifier material, but those of other bindings. -/
def FreeOfVerifiers (authored : DeploymentGraph) (nodeId : String) : Prop :=
  ∀ node, authored.nodes[nodeId]? = some node → node.delegationVerifierProjection = none

def UnboundFree (authored : DeploymentGraph) : Prop :=
  ∀ nodeId, nodeId ∉ authored.delegationAuthorities.map (·.delegateNodeId) →
    FreeOfVerifiers authored nodeId

/-- **When the deployments finish**: the identity of the new key comes after that of
the old one, the authored target and unbound nodes have no verifier material, and
the current graph realizes the authored one. -/
structure CanFinish (rotation : GatewayKeyRotation) (authored current : DeploymentGraph)
    (newKeyId : String) : Prop where
  ordered : rotation.intent.oldKeyId < newKeyId
  target : FreeOfVerifiers authored rotation.intent.gatewayNodeId
  unbound : UnboundFree authored
  realizes : RealizesAuthored authored current

/-! ## Deriving from a derived graph -/

section Reprojected

variable {replacement replacement' : DelegationVerifierProjection}
  {binding : DelegationAuthorityBinding}

theorem Reprojected.keyed (h : Reprojected authored current replacement overlapped)
    (hkeyed : NodesKeyed authored) : NodesKeyed overlapped := by
  intro nodeId node hnode
  by_cases hbound : nodeId ∈ authored.delegationAuthorities.map (·.delegateNodeId)
  · obtain ⟨binding, hbinding, rfl⟩ := List.mem_map.mp hbound
    obtain ⟨projection, authoredNode, -, htakes, hresult⟩ := h.bound binding hbinding
    cases hresult.symm.trans hnode
    exact show authoredNode.nodeId = _ from hkeyed _ _ htakes.found
  · rw [h.unbound nodeId hbound] at hnode
    exact hkeyed nodeId node hnode

/-- A derived graph has the projections it was given. -/
theorem Reprojected.covers (h : Reprojected authored current replacement overlapped)
    (hbinding : binding ∈ authored.delegationAuthorities)
    {projection : DelegationVerifierProjection}
    (hcover : CoversBinding current binding projection) :
    CoversBinding overlapped binding (replacedBy replacement projection) := by
  obtain ⟨stored, node, hstored, htakes, hresult⟩ := h.bound binding hbinding
  cases hcover.unique hstored
  exact ⟨_, hresult, rfl, htakes.identity, htakes.issuer⟩

/-- The bound nodes of a derived graph, and what was authored of them. -/
theorem Reprojected.node (h : Reprojected authored current replacement overlapped)
    (hbinding : binding ∈ authored.delegationAuthorities)
    {projection : DelegationVerifierProjection}
    (hcover : CoversBinding current binding projection) :
    ∃ node, TakesProjection authored binding (replacedBy replacement projection) node ∧
      overlapped.nodes[binding.delegateNodeId]? =
        some (node.withVerifier (some (replacedBy replacement projection))) := by
  obtain ⟨stored, node, hstored, htakes, hresult⟩ := h.bound binding hbinding
  cases hcover.unique hstored
  exact ⟨node, htakes, hresult⟩

theorem replacedBy_other {projection : DelegationVerifierProjection}
    (h : projection.bindingIdentity ≠ replacement.bindingIdentity) :
    replacedBy replacement projection = projection := by
  rw [replacedBy, if_neg h]

theorem replacedBy_same {projection : DelegationVerifierProjection}
    (h : projection.bindingIdentity = replacement.bindingIdentity) :
    replacedBy replacement projection = replacement := by
  rw [replacedBy, if_pos h]

/-- A binding of another node keeps its projection. -/
theorem CoversBinding.kept {other : DelegationAuthorityBinding}
    {projection : DelegationVerifierProjection}
    (hcover : CoversBinding current other projection)
    (hsame : replacement.bindingIdentity = binding.identity)
    (hne : other.delegateNodeId ≠ binding.delegateNodeId) :
    replacedBy replacement projection = projection := by
  obtain ⟨-, -, -, hidentity, -⟩ := hcover
  refine replacedBy_other fun heq => hne ?_
  rw [hidentity, hsame] at heq
  exact congrArg Prod.fst heq

/-- A second derivation for the same target replaces its verifier again, and nothing
else. -/
theorem Reprojected.again (h : Reprojected authored current replacement overlapped)
    (h' : Reprojected authored overlapped replacement' retired)
    (hbinding : binding ∈ authored.delegationAuthorities)
    {target : DelegationVerifierProjection}
    (hcover : CoversBinding current binding target)
    (hsame : replacement.bindingIdentity = binding.identity)
    (hsame' : replacement'.bindingIdentity = binding.identity) :
    ReplacesVerifier overlapped retired binding.delegateNodeId
      replacement'.publicKeys := by
  have hrest : SameRest overlapped authored := h.rest
  refine ⟨SameRest.trans h'.rest hrest.symm, fun other hother => ?_, ?_⟩
  · by_cases hbound : other ∈ authored.delegationAuthorities.map (·.delegateNodeId)
    · obtain ⟨binding', hbinding', rfl⟩ := List.mem_map.mp hbound
      obtain ⟨projection, node, hcover', htakes, hresult⟩ := h.bound binding' hbinding'
      rw [hcover'.kept hsame hother] at htakes hresult
      obtain ⟨node', htakes', hresult'⟩ :=
        h'.node hbinding' (h.covers hbinding' hcover')
      rw [hcover'.kept hsame hother, hcover'.kept hsame' hother] at htakes' hresult'
      cases htakes.found.symm.trans htakes'.found
      rw [hresult', hresult]
    · rw [h'.unbound other hbound, h.unbound other hbound]
  · obtain ⟨node, htakes, hresult⟩ := h.node hbinding hcover
    obtain ⟨-, -, -, hidentity, -⟩ := hcover
    have hfirst : replacedBy replacement target = replacement :=
      replacedBy_same (hidentity.trans hsame.symm)
    obtain ⟨node', htakes', hresult'⟩ :=
      h'.node hbinding ⟨_, hresult, rfl, htakes.identity, htakes.issuer⟩
    rw [hfirst, replacedBy_same (hsame.trans hsame'.symm)] at htakes' hresult'
    cases htakes.found.symm.trans htakes'.found
    exact ⟨_, replacement', hresult, hresult', List.Perm.refl _⟩

/-- **A derivation replaces the target's verifier in the current graph alone** exactly
when the current graph realizes the authored one, whose unbound nodes have no
verifier. -/
theorem Reprojected.replaces_iff
    (h : Reprojected authored current replacement overlapped)
    (honly : ∀ (nodeId : String) (node : Node), current.nodes[nodeId]? = some node →
      node.delegationVerifierProjection.isSome →
      nodeId ∈ authored.delegationAuthorities.map (·.delegateNodeId))
    (hbinding : binding ∈ authored.delegationAuthorities)
    {target : DelegationVerifierProjection}
    (hcover : CoversBinding current binding target)
    (hsame : replacement.bindingIdentity = binding.identity)
    {publicKeys : List DelegationPublicKey}
    (hkeys : replacement.publicKeys.Perm publicKeys) :
    ReplacesVerifier current overlapped binding.delegateNodeId publicKeys ↔
      RealizesAuthored authored current ∧ UnboundFree authored := by
  have hrest : SameRest overlapped authored := h.rest
  have hfirst : replacedBy replacement target = replacement := by
    obtain ⟨-, -, -, hidentity, -⟩ := hcover
    exact replacedBy_same (hidentity.trans hsame.symm)
  obtain ⟨targetNode, htakes, hresult⟩ := h.node hbinding hcover
  rw [hfirst] at hresult
  have hfree : ∀ {nodeId : String} {node : Node},
      nodeId ∉ authored.delegationAuthorities.map (·.delegateNodeId) →
      current.nodes[nodeId]? = some node →
      node.delegationVerifierProjection = none := by
    intro nodeId node hunbound hnode
    by_contra hprojected
    exact hunbound (honly nodeId node hnode (Option.isSome_iff_ne_none.mpr hprojected))
  constructor
  · intro hreplaces
    have hkept : ∀ nodeId : String,
        nodeId ∉ authored.delegationAuthorities.map (·.delegateNodeId) →
        current.nodes[nodeId]? = authored.nodes[nodeId]? := by
      intro nodeId hunbound
      rw [← h.unbound nodeId hunbound]
      refine (hreplaces.others nodeId ?_).symm
      rintro rfl
      exact hunbound (List.mem_map.mpr ⟨binding, hbinding, rfl⟩)
    refine ⟨⟨hreplaces.rest.symm.trans hrest, fun nodeId => ?_⟩,
      fun nodeId hunbound node hnode => ?_⟩
    · by_cases hbound : nodeId ∈ authored.delegationAuthorities.map (·.delegateNodeId)
      · obtain ⟨binding', hbinding', rfl⟩ := List.mem_map.mp hbound
        by_cases htarget : binding'.delegateNodeId = binding.delegateNodeId
        · obtain ⟨node, projection, hnode, hafter, -⟩ := hreplaces.target
          rw [htarget, hnode, htakes.found]
          rw [hresult] at hafter
          have hnodes := congrArg (fun value : Node => value.withVerifier none)
            (Option.some.inj hafter)
          exact congrArg some hnodes.symm
        · obtain ⟨projection, node, -, htakes', hresult'⟩ := h.bound binding' hbinding'
          rw [← hreplaces.others _ htarget, hresult', htakes'.found]
          rfl
      · rw [hkept nodeId hbound]
    · rw [← hkept nodeId hunbound] at hnode
      exact hfree hunbound hnode
  · rintro ⟨hrealizes, hunboundFree⟩
    refine ⟨hrest.trans hrealizes.rest.symm, fun other hother => ?_, ?_⟩
    · have hnodes := hrealizes.nodes other
      by_cases hbound : other ∈ authored.delegationAuthorities.map (·.delegateNodeId)
      · obtain ⟨binding', hbinding', rfl⟩ := List.mem_map.mp hbound
        obtain ⟨projection, node, hcover', htakes', hresult'⟩ :=
          h.bound binding' hbinding'
        rw [hcover'.kept hsame hother] at hresult'
        obtain ⟨currentNode, hcurrent, hprojection, -⟩ := hcover'
        rw [hcurrent, htakes'.found] at hnodes
        have hnode := congrArg (fun value : Node => value.withVerifier
          (some projection)) (Option.some.inj hnodes)
        rw [hresult', hcurrent]
        refine congrArg some (Eq.trans hnode.symm ?_)
        exact Node.withVerifier_self hprojection
      · rw [h.unbound other hbound]
        cases hcurrent : current.nodes[other]? with
        | none =>
            rw [hcurrent] at hnodes
            exact Option.map_eq_none_iff.mp hnodes.symm
        | some currentNode =>
            rw [hcurrent] at hnodes
            obtain ⟨node, hnode, hbare⟩ := Option.map_eq_some_iff.mp hnodes.symm
            have hbare : node.withVerifier none = currentNode.withVerifier none := hbare
            rw [Node.withVerifier_self (hunboundFree other hbound node hnode),
              Node.withVerifier_self (hfree hbound hcurrent)] at hbare
            rw [hnode, hbare]
    · obtain ⟨currentNode, hcurrent, -⟩ := id hcover
      have hnodes := hrealizes.nodes binding.delegateNodeId
      rw [hcurrent, htakes.found] at hnodes
      have hnode := congrArg (fun value : Node => value.withVerifier (some replacement))
        (Option.some.inj hnodes)
      refine ⟨currentNode, replacement, hcurrent, ?_, hkeys⟩
      rw [hresult]
      exact congrArg some hnode.symm

/-- A second derivation goes through where the target was authored without a
verifier. -/
theorem Reprojected.next (h : Reprojected authored current replacement overlapped)
    (hbinding : binding ∈ authored.delegationAuthorities)
    {target : DelegationVerifierProjection}
    (hcover : CoversBinding current binding target)
    (hsame : replacement.bindingIdentity = binding.identity)
    (hsame' : replacement'.bindingIdentity = binding.identity)
    (hissuer : replacement'.issuer = binding.issuer)
    (hfree : FreeOfVerifiers authored binding.delegateNodeId) {node : Node}
    (hnode : authored.nodes[binding.delegateNodeId]? = some node) :
    Reprojected authored overlapped replacement'
      (overlapped.withNode binding.delegateNodeId
        (node.withVerifier (some replacement'))) := by
  have hrest : SameRest overlapped authored := h.rest
  refine ⟨SameRest.trans rfl hrest, fun binding' hbinding' => ?_,
    fun nodeId hunbound => ?_⟩
  · obtain ⟨projection, node', hcover', htakes', hresult'⟩ := h.bound binding' hbinding'
    refine ⟨replacedBy replacement projection, node', h.covers hbinding' hcover', ?_⟩
    rw [DeploymentGraph.withNode_nodes]
    by_cases hother : binding'.delegateNodeId = binding.delegateNodeId
    · have hprojection : projection = target := by
        obtain ⟨current', hcurrent, hprojected, -⟩ := hcover
        obtain ⟨current'', hcurrent', hprojected', -⟩ := hcover'
        rw [hother, hcurrent] at hcurrent'
        cases hcurrent'
        exact Option.some.inj (hprojected'.symm.trans hprojected)
      subst hprojection
      have hidentity : binding'.identity = binding.identity := by
        obtain ⟨-, -, -, hcovered, -⟩ := hcover
        obtain ⟨-, -, -, hcovered', -⟩ := hcover'
        exact hcovered'.symm.trans hcovered
      cases List.inj_on_of_nodup_map authored.authoritiesUnique hbinding'
        hbinding hidentity
      have hfirst : replacedBy replacement projection = replacement := by
        obtain ⟨-, -, -, hcovered, -⟩ := hcover
        exact replacedBy_same (hcovered.trans hsame.symm)
      cases htakes'.found.symm.trans hnode
      rw [hfirst, replacedBy_same (hsame.trans hsame'.symm), if_pos rfl]
      exact ⟨⟨hsame', hissuer, hnode, htakes'.environment, .inl (hfree _ hnode)⟩, rfl⟩
    · rw [hcover'.kept hsame hother] at htakes' hresult' ⊢
      rw [hcover'.kept hsame' hother, if_neg (Ne.symm hother)]
      exact ⟨htakes', hresult'⟩
  · rw [DeploymentGraph.withNode_nodes, if_neg, h.unbound nodeId hunbound]
    rintro rfl
    exact hunbound (List.mem_map.mpr ⟨binding, hbinding, rfl⟩)

end Reprojected

/-! ## The keys of the phases -/

section Phases

variable {oldKey newKey : RegisteredDelegationSigningKey} {oldKeyId : String}
  {target : DelegationVerifierProjection} {targetKeys : List DelegationPublicKey}

theorem phaseKeys_overlap :
    phaseKeys .overlap oldKey newKey oldKeyId newKeyId target = .ok targetKeys ↔
      (oldKey.status = .active ∧ newKey.status = .verifyOnly ∧
        target.publicKeys.map (·.keyId) = [oldKeyId] ∧
        target.publicKeys.head? = some oldKey.identity.publicKey) ∧
      [oldKey.identity.publicKey, newKey.identity.publicKey] = targetKeys := by
  simp only [phaseKeys, bind_ok, requireThat_eq_ok, Bool.and_eq_true, decide_eq_true_eq,
    exists_const, and_assoc]
  simp [pure, Except.pure]

theorem phaseKeys_retirement :
    phaseKeys .retirement oldKey newKey oldKeyId newKeyId target = .ok targetKeys ↔
      (oldKey.status = .verifyOnly ∧ newKey.status = .active ∧
        target.publicKeys.map (·.keyId) = [oldKeyId, newKeyId] ∧
        target.publicKeys = [oldKey.identity.publicKey, newKey.identity.publicKey]) ∧
      [newKey.identity.publicKey] = targetKeys := by
  simp only [phaseKeys, bind_ok, requireThat_eq_ok, Bool.and_eq_true, decide_eq_true_eq,
    exists_const, and_assoc]
  simp [pure, Except.pure]

theorem requireVerificationKeys_eq_ok :
    requireVerificationKeys hash keys rotation newKeyId = .ok () ↔
      ∃ listed, listForVerification hash keys (rotationScope rotation) = .ok listed ∧
        (∀ keyId ∈ listed.map (·.identity.keyId),
          keyId ∈ [rotation.intent.oldKeyId, newKeyId]) ∧
        (∀ keyId ∈ [rotation.intent.oldKeyId, newKeyId],
          keyId ∈ listed.map (·.identity.keyId)) ∧
        listed.length = 2 := by
  simp only [requireVerificationKeys, bind_ok, requireThat_eq_ok, Bool.and_eq_true,
    List.all_eq_true, List.contains_iff_mem, decide_eq_true_eq, and_assoc]

/-- The verification set is the two keys still, where it is of the same keys. -/
theorem Switches.requireVerificationKeys
    (hswitch : Switches hash keys after
      (rotationScope rotation) rotation.intent.oldKeyId newKeyId)
    (h : requireVerificationKeys hash keys rotation newKeyId = .ok ()) :
    requireVerificationKeys hash after rotation newKeyId = .ok () := by
  obtain ⟨listed, hlisted, honly, hall, hlength⟩ := requireVerificationKeys_eq_ok.mp h
  obtain ⟨listed', hlisted', hidentities⟩ := hswitch.verification listed hlisted
  have hkeyIds : listed'.map (·.identity.keyId) = listed.map (·.identity.keyId) := by
    have hmapped := congrArg (List.map SigningKeyIdentity.keyId) hidentities
    rwa [List.map_map, List.map_map] at hmapped
  refine requireVerificationKeys_eq_ok.mpr ⟨listed', hlisted', ?_, ?_, ?_⟩
  · rwa [hkeyIds]
  · rwa [hkeyIds]
  · rw [← hlength, ← List.length_map (f := fun key : RegisteredDelegationSigningKey =>
      key.identity), hidentities, List.length_map]

/-- Two distinct keys make a verification set of two rows of distinct keys. -/
theorem liveRows_nodup (hne : rotation.intent.oldKeyId ≠ newKeyId)
    (h : requireVerificationKeys hash keys rotation newKeyId = .ok ()) :
    ((liveRows keys (rotationScope rotation)).map (·.identity.keyId)).Nodup := by
  obtain ⟨listed, hlisted, -, hall, hlength⟩ := requireVerificationKeys_eq_ok.mp h
  have hkeyIds : (liveRows keys (rotationScope rotation)).map (·.identity.keyId) =
      listed.map (·.identity.keyId) := by
    have hrows := listForVerification_eq_ok.mp hlisted
    clear hlisted hall hlength
    generalize liveRows keys (rotationScope rotation) = rows at hrows
    induction hrows with
    | nil => rfl
    | cons hread _ ih =>
        rw [List.map_cons, List.map_cons, ih, ← readRow_keyId hread]; rfl
  rw [hkeyIds]
  obtain ⟨first, second, rfl⟩ := List.length_eq_two.mp hlength
  have hold := hall rotation.intent.oldKeyId (by simp)
  have hnew := hall newKeyId (by simp)
  simp only [List.map_cons, List.map_nil, List.mem_cons, List.not_mem_nil,
    or_false] at hold hnew
  simp only [List.map_cons, List.map_nil, List.nodup_cons, List.mem_cons,
    List.not_mem_nil, or_false, not_false_eq_true, List.nodup_nil, and_true]
  intro hsame
  rcases hold with hold | hold <;> rcases hnew with hnew | hnew
  · exact hne (hold.trans hnew.symm)
  · exact hne (hold.trans (hsame.trans hnew.symm))
  · exact hne (hold.trans (hsame.symm.trans hnew.symm))
  · exact hne (hold.trans hnew.symm)

end Phases

theorem isCanonicalIdentity_rotationId (rotation : GatewayKeyRotation) :
    Text.isCanonicalIdentity rotation.rotationId = true := by
  obtain ⟨_, hintent, -⟩ := bind_ok.mp rotation.checked
  obtain ⟨_, hentries, -⟩ := bind_ok.mp hintent
  have hentry := Outcome.forM_eq_ok.mp hentries
    (rotation.intent.rotationId, "rotation_id") List.mem_cons_self
  exact requireThat_eq_ok.mp hentry

/-- The identity of a projection is a bounded reference in either phase: the identity of
the rotation is canonical. -/
theorem isAuthorityReference_phaseProjectionId (rotation : GatewayKeyRotation)
    (phase : GatewayKeyRotationDeploymentPhase) :
    isAuthorityReference (phaseProjectionId rotation phase) = true := by
  have hcanonical := isCanonicalIdentity_rotationId rotation
  have hlength : rotation.rotationId.length ≤ 200 :=
    (Text.isCanonicalIdentity_chars hcanonical).2
  have hphase : phase.value.toList.all isAuthorityTail = true ∧
      phase.value.length ≤ 10 := by
    cases phase <;> decide
  have htexts : isAuthorityReference "gateway-rotation-" = true ∧
      "-".toList.all isAuthorityTail = true ∧
      "-verifier".toList.all isAuthorityTail = true := by
    decide
  have hlengths : "gateway-rotation-".length = 17 ∧ "-".length = 1 ∧
      "-verifier".length = 9 := by
    decide
  unfold phaseProjectionId
  refine isAuthorityReference_append (isAuthorityReference_append
    (isAuthorityReference_append (isAuthorityReference_append htexts.1 ?_ ?_) htexts.2.1
      ?_) hphase.1 ?_) htexts.2.2 ?_
  · exact isAuthorityTail_of_isCanonicalIdentity hcanonical
  all_goals
    simp only [String.length_append, hlengths]
    omega

/-! ## The retirement of an overlapped rotation -/

section Retirement

variable {oldKey newKey : RegisteredDelegationSigningKey}
  {target replacement : DelegationVerifierProjection}
  {targetKeys : List DelegationPublicKey} {phase : GatewayKeyRotationDeploymentPhase}

/-- The replacement of a derivation is of its target, with the keys of its phase in the
order of their identities. -/
theorem Derives.replaces
    (h : Derives hash keys rotation authored current phase newKeyId oldKey newKey
    target replacement targetKeys overlapped) :
    replacement.bindingIdentity = rotationIdentity rotation ∧
      replacement.publicKeys = sortedBy (fun key => [key.keyId]) targetKeys ∧
      (targetKeys.map (·.keyId)).Nodup := by
  obtain ⟨-, -, hnodup, rfl⟩ := delegationVerifierProjection_eq_ok.mp h.builds
  exact ⟨rfl, rfl, hnodup⟩

theorem Derives.keyIds
    (h : Derives hash keys rotation authored current phase newKeyId oldKey newKey
    target replacement targetKeys overlapped) :
    oldKey.identity.publicKey.keyId = rotation.intent.oldKeyId ∧
      newKey.identity.publicKey.keyId = newKeyId :=
  ⟨get_keyId h.readsOld, get_keyId h.readsNew⟩

/-- An overlap holds two distinct keys. -/
theorem Derives.distinct
    (h : Derives hash keys rotation authored current .overlap newKeyId oldKey newKey
    target replacement targetKeys overlapped) :
    rotation.intent.oldKeyId ≠ newKeyId := by
  obtain ⟨-, -, hnodup⟩ := h.replaces
  obtain ⟨hold, hnew⟩ := h.keyIds
  obtain ⟨-, rfl⟩ := phaseKeys_overlap.mp h.chooses
  simpa [hold, hnew] using hnodup

/-- The keys of an overlap are in the order old, new when their identities are. -/
theorem Derives.ordered_iff
    (h : Derives hash keys rotation authored current .overlap newKeyId oldKey
    newKey target replacement targetKeys overlapped) :
    replacement.publicKeys = [oldKey.identity.publicKey, newKey.identity.publicKey] ↔
      rotation.intent.oldKeyId < newKeyId := by
  obtain ⟨-, hkeys, -⟩ := h.replaces
  have hne := h.distinct
  obtain ⟨hold, hnew⟩ := h.keyIds
  obtain ⟨-, rfl⟩ := phaseKeys_overlap.mp h.chooses
  rw [hkeys, sortedBy_pair, hold, hnew]
  split
  · rename_i hle
    exact ⟨fun _ => lt_of_le_of_ne hle hne, fun _ => rfl⟩
  · rename_i hle
    refine ⟨fun heq => absurd ?_ hne, fun hlt => absurd (le_of_lt hlt) hle⟩
    rw [← hold, ← hnew, (List.cons.inj heq).1]

/-- **The retirement is derived** exactly when the keys are ordered, and the authored
target and unbound nodes have no verifier. -/
theorem Derives.retires_iff
    (h : Derives hash keys rotation authored current .overlap newKeyId oldKey
    newKey target replacement targetKeys overlapped) (hauthored : NodesKeyed authored)
    (hswitch : Switches hash keys after
      (rotationScope rotation) rotation.intent.oldKeyId newKeyId) :
    (∃ retired,
      deriveGatewayKeyRotationProjectionGraph hash after rotation authored overlapped
      .retirement = .ok retired) ↔
      rotation.intent.oldKeyId < newKeyId ∧
        FreeOfVerifiers authored rotation.intent.gatewayNodeId ∧
        UnboundFree authored := by
  obtain ⟨oldKey', hold, holdIdentity, holdStatus⟩ := hswitch.old oldKey h.readsOld
  obtain ⟨newKey', hnew, hnewIdentity, hnewStatus⟩ := hswitch.new newKey h.readsNew
  obtain ⟨binding, hbinding, hidentity, hissuer, hcover⟩ := h.binding
  obtain ⟨hsame, hsorted, -⟩ := h.replaces
  have hnode : binding.delegateNodeId = rotation.intent.gatewayNodeId :=
    congrArg Prod.fst hidentity
  have hfirst : replacedBy replacement target = replacement := by
    obtain ⟨-, -, -, hcovered, -⟩ := hcover
    exact replacedBy_same (hcovered.trans (hidentity.trans hsame.symm))
  obtain ⟨authoredNode, htakes, hresult⟩ := h.reprojected.node hbinding hcover
  rw [hfirst] at htakes hresult
  have hoverlapped := h.reprojected.keyed hauthored
  have hcoverAfter : CoversBinding overlapped binding replacement :=
    ⟨_, hresult, rfl, hsame.trans hidentity.symm, htakes.issuer⟩
  constructor
  · rintro ⟨retired, hretired⟩
    obtain ⟨newKeyId', oldKey'', newKey'', target', replacement', targetKeys', h'⟩ :=
      (derive_eq_ok hauthored hoverlapped).mp hretired
    cases h.names.symm.trans h'.names
    cases hold.symm.trans h'.readsOld
    cases hnew.symm.trans h'.readsNew
    obtain ⟨binding', hbinding', hidentity', -, hcover'⟩ := h'.binding
    cases List.inj_on_of_nodup_map authored.authoritiesUnique hbinding hbinding'
      (hidentity.trans hidentity'.symm)
    cases hcover'.unique hcoverAfter
    obtain ⟨⟨-, -, -, htargetKeys⟩, rfl⟩ := phaseKeys_retirement.mp h'.chooses
    rw [holdIdentity, hnewIdentity] at htargetKeys
    obtain ⟨hsame', hsorted', -⟩ := h'.replaces
    refine ⟨h.ordered_iff.mp htargetKeys, fun node hfound => ?_,
      fun nodeId hunbound node hfound => ?_⟩
    · obtain ⟨node', htakes', -⟩ := h'.reprojected.node hbinding hcover'
      rw [replacedBy_same (hsame.trans hsame'.symm)] at htakes'
      rw [← hnode, htakes.found] at hfound
      cases hfound
      cases htakes.found.symm.trans htakes'.found
      rcases htakes.projected with hnone | hsome
      · exact hnone
      · rcases htakes'.projected with hnone | hsome'
        · exact hnone
        · -- one projection has two keys, the other one
          cases hsome.symm.trans hsome'
          have hlength := congrArg List.length hsorted'
          rw [htargetKeys, (sortedBy_perm _ _).length_eq] at hlength
          exact absurd hlength (by simp)
    · by_contra hprojected
      rw [← h.reprojected.unbound nodeId hunbound] at hfound
      exact hunbound
        (h'.only nodeId node hfound (Option.isSome_iff_ne_none.mpr hprojected))
  · rintro ⟨hordered, hfree, hunboundFree⟩
    obtain ⟨⟨hgateway, hissuerRef, haudience, -⟩, -, -, hreplacement⟩ :=
      delegationVerifierProjection_eq_ok.mp h.builds
    obtain ⟨holdKeyId, hnewKeyId⟩ := h.keyIds
    have hkeys := h.ordered_iff.mpr hordered
    let replacement' : DelegationVerifierProjection :=
      ⟨rotation.intent.gatewayNodeId, rotation.intent.purpose, rotation.intent.issuer,
        expectedAudience rotation, phaseProjectionId rotation .retirement,
        [newKey'.identity.publicKey]⟩
    have hsame' : replacement'.bindingIdentity = binding.identity := hidentity.symm
    have hbuilds : delegationVerifierProjection rotation.intent.gatewayNodeId
        rotation.intent.purpose rotation.intent.issuer (expectedAudience rotation)
        (phaseProjectionId rotation .retirement) [newKey'.identity.publicKey] =
        .ok replacement' :=
      delegationVerifierProjection_eq_ok.mpr ⟨⟨hgateway, hissuerRef, haudience,
        isAuthorityReference_phaseProjectionId rotation .retirement⟩,
        by simp, by simp, rfl⟩
    refine ⟨overlapped.withNode binding.delegateNodeId
      (authoredNode.withVerifier (some replacement')),
      (derive_eq_ok hauthored hoverlapped).mpr
        ⟨newKeyId, oldKey', newKey', replacement, replacement', _,
        { covers := fun binding' hbinding' => ?_
          only := fun nodeId node hnode hprojected => ?_
          binding := ⟨binding, hbinding, hidentity, hissuer, hcoverAfter⟩
          names := h.names
          readsOld := hold
          readsNew := hnew
          custody := by rw [hnewIdentity, h.custody]
          verification := hswitch.requireVerificationKeys h.verification
          issuer := htakes.issuer.trans hissuer
          audience := by rw [hreplacement]
          chooses := phaseKeys_retirement.mpr ⟨⟨holdStatus, hnewStatus, ?_, ?_⟩, rfl⟩
          builds := hbuilds
          reprojected := h.reprojected.next hbinding hcover (hsame.trans hidentity.symm)
            hsame' hissuer.symm (hnode ▸ hfree) htakes.found }⟩⟩
    · obtain ⟨projection, hcover'⟩ := h.covers binding' hbinding'
      exact ⟨_, h.reprojected.covers hbinding' hcover'⟩
    · by_contra hunbound
      rw [h.reprojected.unbound nodeId hunbound] at hnode
      simp [hunboundFree nodeId hunbound node hnode] at hprojected
    · rw [hkeys, List.map_cons, List.map_cons, List.map_nil, holdKeyId, hnewKeyId]
    · rw [hkeys, holdIdentity, hnewIdentity]

/-- **When the deployments of a rotation that overlapped finish**, after any switch of
its keys. -/
theorem finishesDeployments_iff (hauthored : NodesKeyed authored)
    (hcurrent : NodesKeyed current) {oldKey newKey : RegisteredDelegationSigningKey}
    (hnewKeyId : rotation.newKeyId = some newKeyId) (hold : keys.get hash
      (rotationScope rotation) rotation.intent.oldKeyId = .ok oldKey)
    (hnew : keys.get hash (rotationScope rotation) newKeyId = .ok newKey)
    (hoverlap : deriveGatewayKeyRotationProjectionGraph hash keys rotation authored
      current .overlap =
      .ok overlapped)
    (hswitch : Switches hash keys after
      (rotationScope rotation) rotation.intent.oldKeyId newKeyId) :
    FinishesDeployments hash after rotation authored current overlapped
      oldKey.identity.publicKey
        newKey.identity.publicKey ↔
      CanFinish rotation authored current newKeyId := by
  obtain ⟨newKeyId', oldKey', newKey', target, replacement, targetKeys, h⟩ :=
    (derive_eq_ok hauthored hcurrent).mp hoverlap
  cases hnewKeyId.symm.trans h.names
  cases hold.symm.trans h.readsOld
  cases hnew.symm.trans h.readsNew
  obtain ⟨binding, hbinding, hidentity, -, hcover⟩ := id h.binding
  obtain ⟨hsame, hsorted, -⟩ := h.replaces
  have hnode : binding.delegateNodeId = rotation.intent.gatewayNodeId :=
    congrArg Prod.fst hidentity
  have hperm : replacement.publicKeys.Perm
      [oldKey.identity.publicKey, newKey.identity.publicKey] := by
    obtain ⟨-, rfl⟩ := phaseKeys_overlap.mp h.chooses
    rw [hsorted]
    exact sortedBy_perm _ _
  have hoverlaps :=
    h.reprojected.replaces_iff h.only hbinding hcover (hsame.trans hidentity.symm) hperm
  rw [hnode] at hoverlaps
  have hretires := h.retires_iff hauthored hswitch
  constructor
  · rintro ⟨⟨retired, hretired, -⟩, hreplaces⟩
    obtain ⟨hordered, hfree, hunbound⟩ := hretires.mp ⟨retired, hretired⟩
    exact ⟨hordered, hfree, hunbound, (hoverlaps.mp hreplaces).1⟩
  · rintro ⟨hordered, hfree, hunbound, hrealizes⟩
    obtain ⟨retired, hretired⟩ := hretires.mpr ⟨hordered, hfree, hunbound⟩
    refine ⟨⟨retired, hretired, ?_⟩, hoverlaps.mpr ⟨hrealizes, hunbound⟩⟩
    obtain ⟨newKeyId', oldKey', newKey', target', replacement', targetKeys', h'⟩ :=
      (derive_eq_ok hauthored (h.reprojected.keyed hauthored)).mp hretired
    cases hnewKeyId.symm.trans h'.names
    obtain ⟨newAfter, hnewAfter, hnewIdentity, -⟩ := hswitch.new newKey hnew
    cases hnewAfter.symm.trans h'.readsNew
    obtain ⟨hsame', hsorted', -⟩ := h'.replaces
    obtain ⟨-, rfl⟩ := phaseKeys_retirement.mp h'.chooses
    have hagain := h.reprojected.again h'.reprojected hbinding hcover
      (hsame.trans hidentity.symm) (hsame'.trans hidentity.symm)
    rw [hsorted', hnode] at hagain
    rwa [← hnewIdentity]

/-- The activation of the new key after an overlap is such a switch. -/
theorem switches_of_overlap (hauthored : NodesKeyed authored)
    (hcurrent : NodesKeyed current) (hnewKeyId : rotation.newKeyId = some newKeyId)
    (hoverlap : deriveGatewayKeyRotationProjectionGraph hash keys rotation authored
      current .overlap =
      .ok overlapped) {call : SigningKeyCall} {command :
      ActivateDelegationSigningKeyCommand}
    {key : RegisteredDelegationSigningKey} (hcommand : call.command = .activate command)
    (hscope : command.scope = rotationScope rotation)
    (hkeyId : command.keyId = newKeyId)
    (h : perform hash call keys = .ok (key, after)) :
    Switches hash keys after (rotationScope rotation) rotation.intent.oldKeyId
      newKeyId := by
  obtain ⟨newKeyId', oldKey, newKey, target, replacement, targetKeys, hderives⟩ :=
    (derive_eq_ok hauthored hcurrent).mp hoverlap
  cases hnewKeyId.symm.trans hderives.names
  obtain ⟨⟨hactive, hverify, -⟩, -⟩ := phaseKeys_overlap.mp hderives.chooses
  exact switches_of_activate hcommand hscope hkeyId hderives.distinct
    hderives.readsOld hactive hderives.readsNew hverify
    (liveRows_nodup hderives.distinct hderives.verification) h

end Retirement

/-! One gateway, whose key is replaced: the keys `k` and `l` come in either order. -/

def gatewayNode : Node := sampleNode "g" "r" .ownedEphemeral

theorem noIngress_unique :
    (([] : List NamedPublicIngress).map fun ingress => ingress.ingressId).Nodup :=
      List.nodup_nil

def gatewayGraph (projection : Option DelegationVerifierProjection) :
    DeploymentGraph where
  name := "sample"
  nodes := (∅ : TextMap Node).insert "g" (gatewayNode.withVerifier projection)
  edges := ∅
  runtimes := ∅
  publicIngresses := []
  delegationAuthorities := [⟨"g", .gatewayProbe, "i"⟩]
  ingressesUnique := noIngress_unique
  authoritiesUnique := by simp
  authoritiesSorted := by simp

def gatewayVerifier (projectionId : String) (keyIds : List String) :
    DelegationVerifierProjection where
  delegateNodeId := "g"
  purpose := .gatewayProbe
  issuer := "i"
  audience := "gateway:w:g"
  projectionId := projectionId
  publicKeys := keyIds.map fun keyId => ⟨keyId, signingPem⟩

def gatewayRotationColumns (oldKeyId newKeyId : String) :
    GatewayKeyRotationColumns where
  intent :=
    { rotationId := "r", workspaceId := "w", gatewayNodeId := "g",
      purpose := .gatewayProbe
      issuer := "i", oldKeyId := oldKeyId
      newSecretReference := ⟨"secret://p/k", signingReference_nonempty⟩
      keyGenerationCorrelation := "c", maximumGrantLifetimeSeconds :=
        60, clockSkewSeconds := 0
      correlationId := "c", requestedBy := "a", requestedAt := "2024-01-01T00:00:00Z"
      intentFingerprint :=
        "0000000000000000000000000000000000000000000000000000000000000000" }
  status := .keyGenerated
  newKeyId := some newKeyId
  newSecretVersionId := some "v"
  newSecretVersionNumber := some 1

/-- The two keys, in the order in which they are to be replaced. -/
def keyOrders : List (String × String) := [("k", "l"), ("l", "k")]

theorem gatewayRotation_checked : ∀ keyIds ∈ keyOrders,
    checkRotation (gatewayRotationColumns keyIds.1 keyIds.2) = .ok () := by
  decide

theorem gatewayRotation_texts :
    isAuthorityReference "g" = true ∧ isAuthorityReference "i" = true ∧
    isAuthorityReference "gateway:w:g" = true ∧
    "gateway:" ++ "w" ++ ":" ++ "g" = "gateway:w:g" := by
  decide

def keyTable (oldKeyId newKeyId : String) : SigningKeyTable :=
  [signingRow oldKeyId .active true, signingRow newKeyId .verifyOnly false]

theorem signingRow_read {keyId : String} (hkey : keyId ∈ ["k", "l"])
    {status : RegisteredDelegationSigningKeyStatus} (activated : Bool)
    (hstatus : status = .verifyOnly ∨ status = .active ∧ activated = true) :
    ∃ key, SigningKeyTable.readRow sha256Hexdigest (signingRow keyId status activated) =
      .ok key ∧
      key.identity = signingIdentity keyId ∧ key.status = status := by
  obtain ⟨key, hread, hkeyStatus, -⟩ := signingRow_readable hkey hstatus
  obtain ⟨publicKey, hpublicKey, -, hcolumns⟩ := readRow_eq_ok.mp hread
  have hbuilt : delegationPublicKey keyId signingPem = .ok ⟨keyId, signingPem⟩ := by
    simp only [delegationPublicKey, requireThat, (signingTexts keyId hkey).1,
      signingPem_normal, if_true, Outcome.ok_bind]
    rfl
  cases hbuilt.symm.trans hpublicKey
  exact ⟨key, hread, by rw [hcolumns]; rfl, hkeyStatus⟩

section Example

variable {oldKeyId : String} (horder : (oldKeyId, newKeyId) ∈ keyOrders)

include horder in
theorem keyOrders_mem :
    oldKeyId ∈ ["k", "l"] ∧ newKeyId ∈ ["k", "l"] ∧ oldKeyId ≠ newKeyId := by
  simp only [keyOrders, List.mem_cons, Prod.mk.injEq, List.not_mem_nil,
    or_false] at horder
  rcases horder with ⟨rfl, rfl⟩ | ⟨rfl, rfl⟩ <;> simp

/-- The rotation of the one key to the other. -/
def gatewayRotation : GatewayKeyRotation :=
  ⟨gatewayRotationColumns oldKeyId newKeyId,
    gatewayRotation_checked (oldKeyId, newKeyId) horder⟩

include horder in
theorem keyTable_select :
    SigningKeyTable.select (keyTable oldKeyId newKeyId) signingScope oldKeyId =
        some (signingRow oldKeyId .active true) ∧
      SigningKeyTable.select (keyTable oldKeyId newKeyId) signingScope newKeyId =
        some (signingRow newKeyId .verifyOnly false) := by
  obtain ⟨-, -, hne⟩ := keyOrders_mem horder
  simp [SigningKeyTable.select, keyTable, signingRow, signingIdentity,
    SigningKeyIdentity.keyId, hne]

include horder in
/-- The verification set of the table is its two keys. -/
theorem keyTable_verification :
    requireVerificationKeys sha256Hexdigest (keyTable oldKeyId newKeyId)
      (gatewayRotation horder)
      newKeyId = .ok () := by
  obtain ⟨hold, hnew, hne⟩ := keyOrders_mem horder
  obtain ⟨oldKey, holdRead, holdIdentity, -⟩ := signingRow_read hold true
    (.inr ⟨rfl, rfl⟩)
  obtain ⟨newKey, hnewRead, hnewIdentity, -⟩ := signingRow_read hnew false
    (.inl rfl)
  have hrows : liveRows (keyTable oldKeyId newKeyId)
      (rotationScope (gatewayRotation horder)) =
      if oldKeyId ≤ newKeyId then keyTable oldKeyId newKeyId
      else (keyTable oldKeyId newKeyId).reverse := by
    have hfilter : (keyTable oldKeyId newKeyId).filter
        (isLive (rotationScope (gatewayRotation horder))) =
          keyTable oldKeyId newKeyId := by
      simp [keyTable, isLive, signingRow, signingIdentity, signingScope, rotationScope,
        gatewayRotation, gatewayRotationColumns]
    rw [liveRows, hfilter, keyTable, sortedBy_pair]
    rfl
  have hread : ∃ listed, List.Forall₂
      (fun row key => SigningKeyTable.readRow sha256Hexdigest row = .ok key) (liveRows
        (keyTable oldKeyId newKeyId) (rotationScope (gatewayRotation horder))) listed ∧
      (listed = [oldKey, newKey] ∨ listed = [newKey, oldKey]) := by
    rw [hrows]
    split
    · exact ⟨[oldKey, newKey], .cons holdRead (.cons hnewRead .nil), .inl rfl⟩
    · exact ⟨[newKey, oldKey], .cons hnewRead (.cons holdRead .nil), .inr rfl⟩
  obtain ⟨listed, hlisted, hkeys⟩ := hread
  refine requireVerificationKeys_eq_ok.mpr
    ⟨listed, listForVerification_eq_ok.mpr hlisted, ?_⟩
  have holdKeyId : oldKey.identity.keyId = oldKeyId := by rw [holdIdentity]; rfl
  have hnewKeyId : newKey.identity.keyId = newKeyId := by rw [hnewIdentity]; rfl
  rcases hkeys with rfl | rfl <;>
    simp [holdKeyId, hnewKeyId, gatewayRotation, gatewayRotationColumns]

theorem gatewayGraph_node (projection : Option DelegationVerifierProjection)
    {nodeId : String} : (gatewayGraph projection).nodes[nodeId]? =
      if "g" = nodeId then some (gatewayNode.withVerifier projection) else none := by
  rw [gatewayGraph, KeyedMap.getElem?_insert, Std.ExtTreeMap.getElem?_empty]

theorem gatewayGraph_keyed (projection : Option DelegationVerifierProjection) :
    NodesKeyed (gatewayGraph projection) := by
  intro nodeId node hnode
  rw [gatewayGraph_node] at hnode
  split at hnode
  · rename_i heq
    cases hnode
    exact heq
  · cases hnode

/-- The verifier of the overlap. -/
def overlapVerifier : DelegationVerifierProjection where
  delegateNodeId := "g"
  purpose := .gatewayProbe
  issuer := "i"
  audience := expectedAudience (gatewayRotation horder)
  projectionId := phaseProjectionId (gatewayRotation horder) .overlap
  publicKeys :=
    sortedBy (fun key => [key.keyId]) [⟨oldKeyId, signingPem⟩, ⟨newKeyId, signingPem⟩]

/-- The overlap is derived, for either order of the keys. -/
theorem overlapVerifier_derived :
    deriveGatewayKeyRotationProjectionGraph sha256Hexdigest (keyTable oldKeyId newKeyId)
        (gatewayRotation horder) (gatewayGraph none)
        (gatewayGraph (some (gatewayVerifier "p" [oldKeyId]))) .overlap =
      .ok (gatewayGraph (some (overlapVerifier horder))) := by
  obtain ⟨hold, hnew, hne⟩ := keyOrders_mem horder
  obtain ⟨holdRow, hnewRow⟩ := keyTable_select horder
  obtain ⟨oldKey, holdRead, holdIdentity, holdStatus⟩ := signingRow_read hold true
    (.inr ⟨rfl, rfl⟩)
  obtain ⟨newKey, hnewRead, hnewIdentity, hnewStatus⟩ := signingRow_read hnew false
    (.inl rfl)
  obtain ⟨hgateway, hissuer, haudience, hexpected⟩ := gatewayRotation_texts
  have hcover : CoversBinding (gatewayGraph (some (gatewayVerifier "p" [oldKeyId])))
      ⟨"g", .gatewayProbe, "i"⟩ (gatewayVerifier "p" [oldKeyId]) :=
    ⟨_, by rw [gatewayGraph_node, if_pos rfl], rfl, rfl, rfl⟩
  have hreplaced : replacedBy (overlapVerifier horder)
      (gatewayVerifier "p" [oldKeyId]) =
      overlapVerifier horder := replacedBy_same rfl
  refine (derive_eq_ok (gatewayGraph_keyed _) (gatewayGraph_keyed _)).mpr
    ⟨newKeyId, oldKey, newKey, gatewayVerifier "p" [oldKeyId], overlapVerifier horder,
      [⟨oldKeyId, signingPem⟩, ⟨newKeyId, signingPem⟩],
      { covers := fun binding hbinding => ?_
        only := fun nodeId node hnode _ => ?_
        binding := ⟨_, List.mem_singleton_self _, rfl, rfl, hcover⟩
        names := rfl
        readsOld := get_eq_ok_iff.mpr ⟨_, holdRow, holdRead⟩
        readsNew := get_eq_ok_iff.mpr ⟨_, hnewRow, hnewRead⟩
        custody := by rw [hnewIdentity]; rfl
        verification := keyTable_verification horder
        issuer := rfl
        audience := hexpected.symm
        chooses := phaseKeys_overlap.mpr ⟨⟨holdStatus, hnewStatus, rfl, ?_⟩, ?_⟩
        builds := delegationVerifierProjection_eq_ok.mpr
          ⟨⟨hgateway, hissuer, ?_, isAuthorityReference_phaseProjectionId _ _⟩, by simp,
            by simpa using hne, rfl⟩
        reprojected := ⟨rfl, fun binding hbinding => ?_, fun nodeId hunbound => ?_⟩ }⟩
  · cases List.mem_singleton.mp hbinding
    exact ⟨_, hcover⟩
  · rw [gatewayGraph_node] at hnode
    split at hnode
    · rename_i heq
      exact List.mem_singleton.mpr heq.symm
    · cases hnode
  · rw [holdIdentity]
    rfl
  · rw [holdIdentity, hnewIdentity]
    rfl
  · rw [← hexpected] at haudience
    exact haudience
  · cases List.mem_singleton.mp hbinding
    refine ⟨gatewayVerifier "p" [oldKeyId], gatewayNode.withVerifier none,
      hcover, ?_, ?_⟩
    · rw [hreplaced]
      refine ⟨rfl, rfl, ?_, ?_, .inl rfl⟩
      · rw [gatewayGraph_node, if_pos rfl]
      · simp [gatewayNode, sampleNode, Node.withVerifier]
    · rw [hreplaced, gatewayGraph_node, if_pos rfl]
      rfl
  · have hother : "g" ≠ nodeId := fun heq => hunbound (List.mem_singleton.mpr heq.symm)
    rw [gatewayGraph_node, gatewayGraph_node, if_neg hother, if_neg hother]

include horder in
/-- The activation of the new key after the overlap. -/
theorem keyTable_activates : ∃ key after,
    perform sha256Hexdigest (activateCall newKeyId) (keyTable oldKeyId newKeyId) =
      .ok (key, after) := by
  obtain ⟨-, hnew, -⟩ := keyOrders_mem horder
  obtain ⟨key, hkey⟩ := activateCall_accepted _ hnew false (keyTable_select horder).2
  exact ⟨key, _, hkey⟩

end Example

theorem keyOrders_forwards : ("k", "l") ∈ keyOrders := List.mem_cons_self

theorem keyOrders_backwards : ("l", "k") ∈ keyOrders :=
  List.mem_cons_of_mem _ List.mem_cons_self

/-- The authored gateway has no verifier, and the current graph realizes it. -/
theorem gatewayGraph_realizes (projection : Option DelegationVerifierProjection) :
    (∀ nodeId, FreeOfVerifiers (gatewayGraph none) nodeId) ∧
      RealizesAuthored (gatewayGraph none) (gatewayGraph projection) := by
  refine ⟨fun nodeId node hnode => ?_, ⟨rfl, fun nodeId => ?_⟩⟩
  · rw [gatewayGraph_node] at hnode
    split at hnode
    · cases hnode
      rfl
    · cases hnode
  · rw [gatewayGraph_node, gatewayGraph_node]
    split <;> rfl

theorem finishesDeployments_forwards : ∃ key after,
    perform sha256Hexdigest (activateCall "l") (keyTable "k" "l") = .ok (key, after) ∧
      FinishesDeployments sha256Hexdigest after (gatewayRotation keyOrders_forwards)
        (gatewayGraph none) (gatewayGraph (some (gatewayVerifier "p" ["k"])))
        (gatewayGraph (some (overlapVerifier keyOrders_forwards))) ⟨"k", signingPem⟩
        ⟨"l", signingPem⟩ := by
  obtain ⟨key, after, hperform⟩ := keyTable_activates keyOrders_forwards
  obtain ⟨holdRow, hnewRow⟩ := keyTable_select keyOrders_forwards
  obtain ⟨oldKey, holdRead, holdIdentity, -⟩ :=
    signingRow_read (show "k" ∈ ["k", "l"] by simp)
    true (.inr ⟨rfl, rfl⟩)
  obtain ⟨newKey, hnewRead, hnewIdentity, -⟩ :=
    signingRow_read (show "l" ∈ ["k", "l"] by simp)
    false (.inl rfl)
  have hoverlap := overlapVerifier_derived keyOrders_forwards
  have hswitch := switches_of_overlap (gatewayGraph_keyed _)
    (gatewayGraph_keyed _) rfl hoverlap rfl rfl rfl hperform
  obtain ⟨hfree, hrealizes⟩ := gatewayGraph_realizes (some (gatewayVerifier "p" ["k"]))
  have hfinishes := (finishesDeployments_iff (gatewayGraph_keyed _)
    (gatewayGraph_keyed _) rfl (get_eq_ok_iff.mpr ⟨_, holdRow, holdRead⟩)
    (get_eq_ok_iff.mpr ⟨_, hnewRow, hnewRead⟩) hoverlap
    hswitch).mpr ⟨show "k" < "l" by
      decide, hfree _, fun nodeId _ => hfree nodeId, hrealizes⟩
  rw [holdIdentity, hnewIdentity] at hfinishes
  exact ⟨key, after, hperform, hfinishes⟩

/-- Keys replaced against the order of their identities: the overlap is derived, its key
is activated, and no retirement is derived from it. -/
theorem retirement_refused : ∃ key after,
    deriveGatewayKeyRotationProjectionGraph sha256Hexdigest (keyTable "l" "k")
        (gatewayRotation keyOrders_backwards) (gatewayGraph none)
        (gatewayGraph (some (gatewayVerifier "p" ["l"]))) .overlap =
      .ok (gatewayGraph (some (overlapVerifier keyOrders_backwards))) ∧
    perform sha256Hexdigest (activateCall "k") (keyTable "l" "k") = .ok (key, after) ∧
    ¬ ∃ retired, deriveGatewayKeyRotationProjectionGraph sha256Hexdigest after
      (gatewayRotation keyOrders_backwards) (gatewayGraph none)
      (gatewayGraph (some (overlapVerifier keyOrders_backwards))) .retirement =
        .ok retired := by
  obtain ⟨key, after, hperform⟩ := keyTable_activates keyOrders_backwards
  have hoverlap := overlapVerifier_derived keyOrders_backwards
  have hswitch := switches_of_overlap (gatewayGraph_keyed _)
    (gatewayGraph_keyed _) rfl hoverlap rfl rfl rfl hperform
  refine ⟨key, after, hoverlap, hperform, fun hretired => ?_⟩
  obtain ⟨newKeyId, oldKey, newKey, target, replacement, targetKeys, h⟩ :=
    (derive_eq_ok (gatewayGraph_keyed _) (gatewayGraph_keyed _)).mp hoverlap
  cases h.names
  have hordered : "l" < "k" :=
    ((h.retires_iff (gatewayGraph_keyed _) hswitch).mp hretired).1
  exact absurd hordered (by decide)

end ControlPlaneKit.Rotation
