import ControlPlaneKit.NodeControl.IntentLaws
import ControlPlaneKit.NodeControl.OneEncoding
import ControlPlaneKit.NodeControl.SurfaceReadResultLaws
import ControlPlaneKit.Topology.Validation

/-!
# IntentRows — the stored rows of an intent

An intent is prepared from a few rows: the lineage of its workspace and the projection
of it, the gateway there, the signing keys of two purposes, and the registrations of
their private references.  Where the stores hold them, the identities of both uses are
free, and nothing of the attempt is taken, the command is answered with a new attempt.
-/

namespace ControlPlaneKit.NodeControl

open ControlPlaneKit.Library.CanonicalText (FollowsRfc8785)
open ControlPlaneKit.Library.EventFold (bind_ok check_bind_ok)
open ControlPlaneKit.Library.Outcome (ok_bind)
open ControlPlaneKit.Library.Text (isCanonicalIdentity)
open ControlPlaneKit.Operations
open ControlPlaneKit.Rotation
  (RegisteredDelegationSigningKey SigningKeyRow SigningKeyTable
  checkColumns readRow_of signingPem)
open ControlPlaneKit.Topology (DelegationKeyPurpose DeploymentGraph Node SecretReference
  SecretUseIntent sha256Hexdigest sampleConsumer sampleEdge
  sampleGraph sampleGraph_edge sampleGraph_node sampleNode sampleProvider sampleRuntime)

section Rows

variable {dumps : CanonicalJson} {lifetime : GrantLifetime} {stores : NodeControlStores}
  {command : RequestNodeControlIntent dumps} {draws : Option IntentDraws}

/-! ## Held rows -/

/-- The rows a command is prepared from: the lineage of its workspace and the projection
of it, the gateway there, and the two signing keys. -/
structure IntentRows where
  lineage : GraphLineage
  projection : RealizedProjection
  gateway : Node
  transitKey : RegisteredDelegationSigningKey
  workloadKey : RegisteredDelegationSigningKey

/-- The stores hold the rows, the graph lets the gateway reach the target of the
command, and its two grants can be made. -/
structure IntentRows.Held (rows : IntentRows) (lifetime : GrantLifetime)
    (stores : NodeControlStores) (command : RequestNodeControlIntent dumps)
    (drawn : IntentDraws) : Prop where
  workspace : command.request.target.workspaceId.value = command.workspaceId
  lineage : ∃ row,
    stores.workspaces.find? (fun row => row.workspaceId = command.workspaceId) =
    some row ∧ row.currentLineage = some rows.lineage
  revision : rows.lineage.authoredGraphId = command.request.target.graphRevision.value
  projection : stores.projections.find? (fun row => row.projectionId =
    rows.lineage.realizedProjectionId) = some rows.projection
  owner : rows.projection.workspaceId = command.workspaceId
  source : rows.projection.sourceAuthoredGraphId = rows.lineage.authoredGraphId
  gateway : rows.projection.graph.nodes[command.gatewayNodeId.value]? =
    some rows.gateway
  reaches : (authorizeGraphTarget dumps rows.projection.graph command.gatewayNodeId
    command.request).isOk = true
  transitKey : SelectsKey stores.keys command.workspaceId .gatewayNodeControlTransit
    rows.transitKey
  workloadKey : SelectsKey stores.keys command.workspaceId .workloadNodeControl
    rows.workloadKey
  distinct : AuthoritiesDistinct rows.transitKey rows.workloadKey
  grants : (unsignedGrants dumps lifetime command rows.transitKey rows.workloadKey
    drawn).isOk = true

/-- The gateway of a target is the node its request names. -/
theorem authorizeGraphTarget_node {graph : DeploymentGraph}
    {gatewayNodeId : NodeControlGraphReference .node}
    {request : NodeControlCommandRequest} {gateway : Node}
    (h : authorizeGraphTarget dumps graph gatewayNodeId request = .ok gateway) :
    graph.nodes[gatewayNodeId.value]? = some gateway := by
  unfold authorizeGraphTarget gatewayAndTarget at h
  simp only [bind_ok, present_eq_ok, Prod.exists] at h
  obtain ⟨node, target,
    ⟨named, hnamed, socket, -, other, -, otherSocket, -, u, -, hpair⟩, u', -, h⟩ := h
  cases hpair
  split at h
  · cases h
  · simp only [bind_ok] at h
    obtain ⟨contract, -, u'', -, hpure⟩ := h
    cases hpure
    exact hnamed

/-- The rows that a selection found. -/
theorem Selects.held {selected : SelectedAuthority}
    (h : Selects lifetime stores command draws selected) :
    ∃ rows : IntentRows, rows.Held lifetime stores command selected.draws ∧
      rows.lineage = selected.lineage ∧
      rows.gateway.runtimeId = selected.gatewayRuntimeId ∧
      rows.transitKey = selected.transitKey ∧
      rows.workloadKey = selected.workloadKey := by
  obtain ⟨projection, hcurrent, gateway, hgateway, hruntime⟩ := h.current
  obtain ⟨hlineage, hrevision, hprojection, howner, hsource⟩ :=
    currentProjection_eq_ok.mp hcurrent
  obtain ⟨htransit, hworkload, hdistinct⟩ := selectKeys_eq_ok.mp h.keys
  refine ⟨⟨selected.lineage, projection, gateway, selected.transitKey,
    selected.workloadKey⟩, ⟨h.workspace, hlineage, hrevision, hprojection,
    howner, hsource,
      authorizeGraphTarget_node hgateway, ?_, htransit, hworkload, hdistinct, ?_⟩,
    rfl, hruntime.symm, rfl, rfl⟩
  · rw [hgateway]
    rfl
  · rw [h.grants]
    rfl

theorem isOk_iff {ε α : Type} {x : Except ε α} : x.isOk = true ↔ ∃ a, x = .ok a := by
  cases x <;> simp [Except.isOk, Except.toBool]

/-- Rows that are held are selected. -/
theorem IntentRows.Held.selects {rows : IntentRows} {drawn : IntentDraws}
    (h : rows.Held lifetime stores command drawn) :
    ∃ selected, Selects lifetime stores command (some drawn) selected ∧
    selected.draws = drawn ∧
      selected.lineage = rows.lineage ∧
      selected.gatewayRuntimeId = rows.gateway.runtimeId ∧
      selected.transitKey = rows.transitKey ∧
      selected.workloadKey = rows.workloadKey := by
  obtain ⟨gateway, hgateway⟩ := isOk_iff.mp h.reaches
  obtain ⟨⟨transitGrant, workloadGrant⟩, hgrants⟩ := isOk_iff.mp h.grants
  obtain rfl : rows.gateway = gateway :=
    Option.some.inj (h.gateway.symm.trans (authorizeGraphTarget_node hgateway))
  refine ⟨⟨rows.lineage, rows.gateway.runtimeId, rows.transitKey,
    rows.workloadKey, drawn, transitGrant, workloadGrant⟩, ⟨h.workspace,
    ⟨rows.projection, ?_, rows.gateway, hgateway, rfl⟩,
      ?_, rfl, hgrants⟩, rfl, rfl, rfl, rfl, rfl⟩
  · exact currentProjection_eq_ok.mpr
      ⟨h.lineage, h.revision, h.projection, h.owner, h.source⟩
  · exact selectKeys_eq_ok.mpr ⟨h.transitKey, h.workloadKey, h.distinct⟩

/-- The stores hold one selection of rows for a command. -/
theorem IntentRows.Held.unique {rows other : IntentRows} {drawn : IntentDraws}
    (h : rows.Held lifetime stores command drawn)
    (h' : other.Held lifetime stores command drawn) : rows = other := by
  obtain ⟨row, hrow, hlineage⟩ := h.lineage
  obtain ⟨row', hrow', hlineage'⟩ := h'.lineage
  obtain rfl : row = row' := Option.some.inj (hrow.symm.trans hrow')
  have hsame : rows.lineage = other.lineage :=
    Option.some.inj (hlineage.symm.trans hlineage')
  have hprojection := h.projection
  rw [hsame] at hprojection
  have hsameProjection : rows.projection = other.projection :=
    Option.some.inj (hprojection.symm.trans h'.projection)
  have hgateway := h.gateway
  rw [hsameProjection] at hgateway
  have hsameGateway : rows.gateway = other.gateway :=
    Option.some.inj (hgateway.symm.trans h'.gateway)
  have htransit : rows.transitKey = other.transitKey := Except.ok.inj
    ((selectKey_eq_ok.mpr h.transitKey).symm.trans (selectKey_eq_ok.mpr h'.transitKey))
  have hworkload : rows.workloadKey = other.workloadKey := Except.ok.inj
    ((selectKey_eq_ok.mpr h.workloadKey).symm.trans
      (selectKey_eq_ok.mpr h'.workloadKey))
  cases rows
  cases other
  cases hsame
  cases hsameProjection
  cases hsameGateway
  cases htransit
  cases hworkload
  rfl

/-! ## Grants of accepted identities -/

/-- **Both grants can be made** where their fields are accepted: neither is too long. -/
theorem unsignedGrants_isOk (hdumps : FollowsRfc8785 dumps)
    (htexts : CanonicalTexts dumps)
    {transitKey workloadKey : RegisteredDelegationSigningKey}
    {drawn : IntentDraws} {audience : String}
    (haudience : workloadNodeControlAudience command.request.target = .ok audience)
    (htransit : ∀ digest, (transitGrantOf dumps command transitKey
      ⟨drawn.issuedAt, drawn.issuedAt, drawn.issuedAt + lifetime.seconds⟩ digest
      drawn).checkFields =
        .ok ())
    (hworkload : ∀ digest, (workloadGrantOf dumps command workloadKey
      ⟨drawn.issuedAt, drawn.issuedAt, drawn.issuedAt + lifetime.seconds⟩
      digest audience
        drawn).checkFields = .ok ()) :
    (unsignedGrants dumps lifetime command transitKey workloadKey drawn).isOk =
      true := by
  obtain ⟨encoded, hencoded⟩ :=
    bytes_of_bounded (request_bounded htexts command.constructible).1
  have hdigest : command.request.canonicalDigest dumps =
      .ok (sha256OfBytes encoded) := by
    rw [NodeControlCommandRequest.canonicalDigest, hencoded]
    rfl
  have hof : NodeControlRequestDigest.of (sha256OfBytes encoded) =
      .ok (digestOf encoded) :=
    dif_pos (isDigest_sha256OfBytes encoded)
  have htransitFields := htransit (digestOf encoded)
  have htransitCheck := DelegatedGatewayNodeControlTransitGrant.check_eq_ok.mpr
    ⟨htransitFields,
      (transitGrant_within_iff hdumps (fields_of_transit htransitFields)).mpr
      (.inl (by simp [transitGrantOf]))⟩
  have hworkloadFields := hworkload (digestOf encoded)
  have hworkloadCheck := DelegatedWorkloadNodeControlGrant.check_eq_ok.mpr
    ⟨hworkloadFields, (within_iff hdumps (encodable_workloadGrant hworkloadFields)).mpr
      (width_workloadGrant hworkloadFields)⟩
  unfold unsignedGrants
  rw [hdigest, ok_bind, hof, ok_bind]
  dsimp only
  rw [htransitCheck, ok_bind, haudience, ok_bind, hworkloadCheck]
  rfl

/-! ## Answers -/

/-- The identities of a new attempt are those of no stored one. -/
def DrawsFresh (stores : NodeControlStores) (drawn : IntentDraws) : Prop :=
  ∀ row ∈ stores.attempts, row.attempt.attemptId ≠ drawn.attemptId ∧
    row.attempt.transitGrant.jti ≠ drawn.transitJti ∧
    row.attempt.workloadGrant.jti ≠ drawn.workloadJti

/-- A use of a key that is authorised: its identity is free, and it fits its
correlation. -/
structure UseGranted (command : RequestNodeControlIntent dumps) (drawn : IntentDraws)
    (key : RegisteredDelegationSigningKey) (intent : SecretUseIntent)
    (secrets : SecretState) (candidate : AuthorizedSecretUse) : Prop where
  asked : KeyCandidate command drawn key intent secrets.toSecretRegistrations candidate
  free : ¬ IdentityTaken secrets.uses candidate
  fits : CorrelationFits secrets.uses candidate

/-- **A new attempt is prepared** from rows that are held, once both uses are granted
one after the other. -/
theorem IntentRows.Held.prepared {rows : IntentRows} {drawn : IntentDraws}
    {transit workload : AuthorizedSecretUse} (htexts : CanonicalTexts dumps)
    (htables : TableChecks stores) (hheld : rows.Held lifetime stores command drawn)
    (hactor : isActorSubject command.actorId = true)
    (hprojection : isCanonicalIdentity rows.lineage.realizedProjectionId = true)
    (hruntime : isCanonicalIdentity rows.gateway.runtimeId = true)
    (htransit : UseGranted command drawn rows.transitKey
      .gatewayNodeControlTransitSigningKey
      stores.secrets transit)
    (hworkload : UseGranted command drawn rows.workloadKey
      .workloadNodeControlSigningKey
      { stores.secrets with uses := usesWith stores.secrets.uses transit } workload) :
    ∃ attempt secrets, prepareNew dumps lifetime stores command (some drawn) =
        .ok (attempt, secrets) ∧ attempt.check dumps = .ok () ∧
      attempt.workspaceId = command.workspaceId ∧
      attempt.requestId = command.request.requestId ∧
      attempt.attemptId = drawn.attemptId ∧
      attempt.transitGrant.jti = drawn.transitJti ∧
      attempt.workloadGrant.jti = drawn.workloadJti := by
  obtain ⟨selected, hselects, rfl, hlineage, hgateway, htransitKey, hworkloadKey⟩ :=
    hheld.selects
  rw [← htransitKey] at htransit
  rw [← hworkloadKey] at hworkload
  rw [← hlineage] at hprojection
  rw [← hgateway] at hruntime
  obtain ⟨transitUse, htransitUse⟩ :=
    authorizeKeyUse_of_candidate htransit.asked htransit.free htransit.fits
  obtain ⟨workloadUse, hworkloadUse⟩ :=
    authorizeKeyUse_of_candidate hworkload.asked hworkload.free hworkload.fits
  obtain ⟨htransitNamed, hnamed⟩ := authorizeKeyUse_identified htables.uses htransitUse
  obtain ⟨hworkloadNamed, -⟩ := authorizeKeyUse_identified hnamed hworkloadUse
  have hcheck := (attempt_check_iff htexts htables hselects hactor htransitNamed
    hworkloadNamed).mpr ⟨hprojection, hruntime⟩
  obtain ⟨digest, audience, hgrants⟩ := unsignedGrants_ok hselects.grants
  refine ⟨attemptOf command selected transitUse workloadUse, { stores.secrets with
    uses := usesWith (usesWith stores.secrets.uses transit) workload }, ?_, hcheck,
      hselects.workspace,
    rfl, rfl, congrArg (·.jti) hgrants.transit, congrArg (·.jti) hgrants.workload⟩
  unfold prepareNew
  rw [selectAuthority_eq_ok.mpr hselects, ok_bind, htransitUse, ok_bind]
  dsimp only
  rw [hworkloadUse, ok_bind]
  dsimp only
  rw [hcheck]
  rfl

/-- **A command is answered with a new attempt** where its rows are held, both uses are
granted, no attempt is stored for its request and what the draws name is not taken. -/
theorem IntentRows.Held.answered {rows : IntentRows} {drawn : IntentDraws}
    {transit workload : AuthorizedSecretUse} (htexts : CanonicalTexts dumps)
    (htables : TableChecks stores) (hheld : rows.Held lifetime stores command drawn)
    (hscopes : requireScopes command = .ok ())
    (hactor : isActorSubject command.actorId = true)
    (hworkspace : isCanonicalIdentity command.workspaceId = true)
    (hprojection : isCanonicalIdentity rows.lineage.realizedProjectionId = true)
    (hruntime : isCanonicalIdentity rows.gateway.runtimeId = true) (htransit :
      UseGranted command drawn rows.transitKey .gatewayNodeControlTransitSigningKey
      stores.secrets transit)
    (hworkload : UseGranted command drawn rows.workloadKey
      .workloadNodeControlSigningKey
      { stores.secrets with uses := usesWith stores.secrets.uses transit } workload)
    (hnew : NodeControlAttemptStore.selectRequest stores.attempts command.workspaceId
      command.request.requestId = none)
    (hfresh : DrawsFresh stores drawn) :
    ∃ prepared after, executeIntent dumps lifetime command (some drawn) stores =
      .ok (prepared, after) ∧ prepared.replayed = false := by
  obtain ⟨attempt, secrets, hprepared, hcheck, hsame, hrequestId,
    hattemptId, htransitJti, hworkloadJti⟩ :=
      hheld.prepared htexts htables hactor hprojection hruntime htransit hworkload
  have hrequest := canonicalIdentity_of_isIdentifier
    (request_bounded htexts command.constructible).2.1
  obtain ⟨fingerprint, hfingerprint⟩ := (command_fingerprint htexts).mpr hactor
  have hfree : (stores.attempts.any fun row =>
      NodeControlAttemptStore.collides attempt row.attempt) = false := by
    rw [List.any_eq_false]
    intro row hrow
    obtain ⟨hotherId, hotherTransit, hotherWorkload⟩ := hfresh row hrow
    have hother := List.find?_eq_none.mp hnew row hrow
    simp only [Bool.and_eq_true, decide_eq_true_eq] at hother
    simp [NodeControlAttemptStore.collides, hattemptId, hsame, hrequestId, htransitJti,
      hworkloadJti, hotherId, hotherTransit, hotherWorkload, hother]
  have hadded : addAttempt stores attempt secrets =
      .ok { stores with
        secrets, attempts := stores.attempts ++ [⟨attempt, true⟩] } := by
    rw [addAttempt, NodeControlAttemptStore.add, hfree]
    rfl
  refine ⟨preparationOf attempt false,
    { stores with secrets, attempts := stores.attempts ++ [⟨attempt, true⟩] }, ?_, rfl⟩
  unfold executeIntent
  rw [hscopes, ok_bind, translated_eq_ok.mpr hfingerprint, ok_bind,
    NodeControlAttemptStore.lockRequestId,
    requireNodeControlIdentifier_iff.mpr hworkspace, ok_bind,
    requireNodeControlIdentifier_iff.mpr hrequest, Except.mapError, ok_bind,
    existingAttempt_eq hworkspace hrequest, hnew]
  dsimp only
  rw [ok_bind]
  dsimp only
  rw [hprepared, ok_bind]
  dsimp only
  rw [hadded, ok_bind, preparation_eq hcheck]
  rfl

end Rows

/-! ## A routed workspace

The workspace `a` has one graph: a gateway `b` in front of a target `a`, which declares
a variable of routing weights.  The key of each purpose has a private reference of its
own, both registered under one provider. -/

/-- The encoder writes ASCII texts as they are. -/
theorem jcsJson_texts : CanonicalTexts jcsJson where
  documents actorSubject gatewayNodeId requestDigest := by
    have hencodable : Library.CanonicalText.encodable
        (intentDocument actorSubject gatewayNodeId requestDigest) = true := rfl
    obtain ⟨encoded, hencoded, -⟩ :=
      Library.IntegralFloats.integralBytes_follows.dumps_eq hencodable
    rw [jcsJson, hencoded]
    rfl
  nonempty _ _ h := Library.IntegralFloats.integralBytes_ne_nil h

/-- One variable, which can be read. -/
def routedVariable : ControlPlaneVariableDescriptor where
  variableName := shortReference _
  kind := .weightedRouting
  stateCodec := .weightedRoutingV1
  operationContracts := [⟨.readState, none, .stateV1⟩,
    ⟨.applyCommand, some .replaceWeightedRoutingV1, .transitionV1⟩]
  description := none

theorem routedVariable_bounded : [routedVariable].length ≤ 128 := by decide

/-- A surface that declares it. -/
def routedSurface : WorkloadNodeControlSurfaceDescriptor where
  providerSocketName := shortReference _
  declaredVariables := [routedVariable]
  nonempty := List.cons_ne_nil _ _
  bounded := routedVariable_bounded
  ordered := List.pairwise_singleton _ _

theorem routedSurface_keyed :
    Library.PyValue.wellKeyed (.list [routedVariable.descriptor]) = true := by
  decide

theorem routedUrl_nonempty : Library.Text.isBlank "http://a" = false := by decide

/-- A node with the surface, served over HTTP. -/
def routedTarget (runtimeId : String) : Node :=
  { sampleProvider "a" runtimeId "a" "http://a" routedUrl_nonempty with
    blockSpec := { (sampleNode "a" runtimeId .ownedEphemeral).blockSpec with
      controlSurfaces := [⟨"a", [routedVariable.descriptor], routedSurface_keyed⟩] } }

/-- The gateway in front of it. -/
def routedGateway (runtimeId : String) : Node :=
  { sampleConsumer "b" runtimeId "http://a" "link" with
    sockets := ⟨(sampleConsumer "b" runtimeId "http://a" "link").sockets.requirements,
      [⟨"control", .http⟩]⟩ }

/-- Both, in one runtime. -/
def routedGraph (runtimeId : String) : DeploymentGraph :=
  sampleGraph [routedTarget runtimeId, routedGateway runtimeId]
    [sampleEdge "link" "a" "a" "b" "http://a"]
    [sampleRuntime runtimeId ["a", "b"] .ownedEphemeral]

theorem routedGraph_node {runtimeId nodeId : String} {node : Node} :
    (routedGraph runtimeId).nodes[nodeId]? = some node ↔
      node ∈ [routedTarget runtimeId, routedGateway runtimeId] ∧ node.nodeId = nodeId :=
  sampleGraph_node
    (by simp [routedTarget, routedGateway, sampleProvider, sampleConsumer, sampleNode])

theorem routedGraph_target (runtimeId : String) :
    (routedGraph runtimeId).nodes["a"]? = some (routedTarget runtimeId) :=
  routedGraph_node.mpr ⟨List.mem_cons_self .., rfl⟩

theorem routedGraph_gateway (runtimeId : String) :
    (routedGraph runtimeId).nodes["b"]? = some (routedGateway runtimeId) :=
  routedGraph_node.mpr ⟨List.mem_cons_of_mem _ (List.mem_singleton_self _), rfl⟩

theorem routedSurface_width :
    Library.CanonicalText.width routedSurface.descriptor ≤
      maxNodeControlPayloadBytes := by
  simp only [WorkloadNodeControlSurfaceDescriptor.descriptor, routedSurface,
    routedVariable, ControlPlaneVariableDescriptor.descriptor,
    ControlPlaneVariableOperationContract.descriptor, codecOrNone,
    Library.CanonicalText.width_dict (List.cons_ne_nil _ _),
    Library.CanonicalText.width_list, Library.CanonicalText.width_str,
    Library.CanonicalText.width_none, List.map_cons, List.map_nil, Option.map_none,
    Option.getD_none]
  decide

theorem routedVariable_check : routedVariable.check = .ok () := by decide

/-- The node declares its surface. -/
theorem declaredSurfaces_routed (runtimeId : String) :
    declaredSurfaces jcsJson (routedTarget runtimeId) = [routedSurface] := by
  have hsize : validateDescriptorSize jcsJson routedSurface.descriptor
      "node-control surface descriptor" = .ok () :=
    validateDescriptorSize_eq_ok.mpr
      ((within_iff Library.IntegralFloats.integralBytes_follows
        (encodable_surface _)).mpr routedSurface_width)
  have hchecks : ∀ declared ∈ routedSurface.declaredVariables,
      declared.check = .ok () := by
    intro declared hdeclared
    obtain rfl := List.mem_singleton.mp hdeclared
    exact routedVariable_check
  have hdecoded :=
    decodeSurface_reread hsize hchecks (reread_surface_self routedSurface)
  have hsurfaces : declaredSurfaces jcsJson (routedTarget runtimeId) =
      [routedSurface.descriptor].filterMap fun descriptor =>
        (decodeSurface jcsJson descriptor).toOption := rfl
  rw [hsurfaces, List.filterMap_cons, hdecoded]
  rfl

/-- The gateway reaches the target, whose variable takes the weights. -/
theorem routedGraph_reaches (runtimeId : String) :
    authorizeGraphTarget jcsJson (routedGraph runtimeId)
      (otherReference _) routeRequest =
      .ok (routedGateway runtimeId) := by
  have hmap : isInMap (routedGraph runtimeId) routeRequest = true :=
    List.any_eq_true.mpr ⟨("link", sampleEdge "link" "a" "a" "b" "http://a"),
      Library.KeyedMap.mem_toList.mpr
        ((sampleGraph_edge (by simp)).mpr ⟨List.mem_singleton_self _, rfl⟩), rfl⟩
  have hpair : gatewayAndTarget (routedGraph runtimeId)
      (otherReference _) routeRequest =
      .ok (routedGateway runtimeId, routedTarget runtimeId) := by
    have hcontrol : (routedGateway runtimeId).sockets.provider "control" =
        some ⟨"control", .http⟩ := rfl
    have hsocket : (routedTarget runtimeId).sockets.provider "a" =
      some ⟨"a", .http⟩ := rfl
    have hrequest : routeRequest.target.nodeId.value = "a" ∧
        routeRequest.target.providerSocketName.value = "a" := ⟨rfl, rfl⟩
    have hgateway : (otherReference .node).value = "b" := rfl
    have hruntimes : (routedGateway runtimeId).runtimeId =
      (routedTarget runtimeId).runtimeId := rfl
    simp only [gatewayAndTarget, hgateway, hrequest, routedGraph_gateway,
      routedGraph_target, hcontrol, hsocket, present, ok_bind,
      NodeControlIntentFault.guard, hruntimes, decide_true, Bool.and_self, if_true]
    rfl
  have hdeclared : declaredVariable jcsJson (routedTarget runtimeId) routeRequest =
      some routedVariable := by
    rw [declaredVariable, declaredSurfaces_routed]
    rfl
  have hcontract : routedVariable.contractFor routeRequest.operation =
      .ok ⟨.applyCommand, some .replaceWeightedRoutingV1, .transitionV1⟩ := rfl
  simp only [authorizeGraphTarget, hpair, ok_bind, NodeControlIntentFault.guard, hmap,
    if_true, hdeclared, hcontract]
  rfl

/-! ### Its keys and registrations -/

def otherPem : String :=
  "-----BEGIN PUBLIC KEY-----\nQg\n-----END PUBLIC KEY-----\n"

theorem otherReference_nonempty :
    Library.Text.isBlank "secret://p/l" = false := by decide

def otherHeldReference : SecretReference := ⟨"secret://p/l", otherReference_nonempty⟩

/-- An active key of the workspace. -/
def routedRow (purpose : DelegationKeyPurpose) (registrationId keyId pem : String)
    (reference : SecretReference) : SigningKeyRow where
  identity :=
    { registrationId := registrationId
      scope := ⟨"a", purpose, "i"⟩
      publicKey := ⟨keyId, pem⟩
      privateKeyReference := reference
      admittedBy := "a"
      admittedAt := "2025-01-01T00:00:00Z" }
  status := .active
  activatedBy := some "a"
  activatedAt := some "2025-01-01T00:00:00Z"
  publicFingerprintSha256 := sha256Hexdigest pem

/-- The active key for transit grants. -/
def transitRow : SigningKeyRow :=
  routedRow .gatewayNodeControlTransit
    "dkey_d39d8736050beb718d0eb93af9dbe6aad3aab31aec2c6f8456392750da435f79"
    "k" signingPem
    heldReference

/-- The active key for workload grants. -/
def workloadRow : SigningKeyRow :=
  routedRow .workloadNodeControl
    "dkey_c116725ec8ccdf6084494234821c94dc40272a9e40f1a50bfbf635fca8ec75ae" "l" otherPem
    otherHeldReference

theorem transitRow_checked : checkColumns transitRow.toSigningKeyColumns = .ok () := by
  decide

theorem workloadRow_checked :
    checkColumns workloadRow.toSigningKeyColumns = .ok () := by
  decide

def transitKey : RegisteredDelegationSigningKey :=
  ⟨transitRow.toSigningKeyColumns, transitRow_checked⟩

def workloadKey : RegisteredDelegationSigningKey :=
  ⟨workloadRow.toSigningKeyColumns, workloadRow_checked⟩

/-- It is read as it was written. -/
theorem transitRow_read :
    SigningKeyTable.readRow sha256Hexdigest transitRow = .ok transitKey :=
  readRow_of (by decide) rfl transitRow_checked

theorem workloadRow_read :
    SigningKeyTable.readRow sha256Hexdigest workloadRow = .ok workloadKey :=
  readRow_of (by decide) rfl workloadRow_checked

/-- **The key for transit grants is selected.** -/
theorem transitKey_selected :
    SelectsKey [transitRow, workloadRow] "a" .gatewayNodeControlTransit transitKey :=
  ⟨transitRow_read, rfl⟩

/-- **The key for workload grants is selected.** -/
theorem workloadKey_selected :
    SelectsKey [transitRow, workloadRow] "a" .workloadNodeControl workloadKey :=
  ⟨workloadRow_read, rfl⟩

/-- Texts of different digests, the rounds unrolled. -/
theorem sha256Hexdigest_ne {first second : List Char}
    (h : Library.Sha256.unrolledHexdigestChars (Library.Text.utf8 first) ≠
      Library.Sha256.unrolledHexdigestChars (Library.Text.utf8 second)) :
    sha256Hexdigest (String.ofList first) ≠ sha256Hexdigest (String.ofList second) := by
  rw [Library.Sha256.unrolledHexdigestChars_eq] at h
  intro hsame
  have htexts := congrArg String.toList hsame
  rw [sha256Hexdigest, sha256Hexdigest] at htexts
  simp only [String.toList_ofList] at htexts
  exact h htexts

/-- A digest, by its words. -/
def digestText (words : List Nat) : String :=
  String.ofList (words.flatMap Library.Sha256.hexDigits)

/-- A digest is known from its words. -/
theorem sha256Hexdigest_eq_of {text : List Char} {words : List Nat}
    (h : (Library.Sha256.unrolledDigest (Library.Text.utf8 text)).words = words) :
    sha256Hexdigest (String.ofList text) = digestText words := by
  rw [sha256Hexdigest, String.toList_ofList, ← Library.Sha256.unrolledHexdigestChars_eq,
    Library.Sha256.unrolledHexdigestChars, h, digestText]

/-- The two keys differ in all that authority is told apart by. -/
theorem routedKeys_distinct : AuthoritiesDistinct transitKey workloadKey where
  registration := by decide
  publicKey := by
    have hdigests := @sha256Hexdigest_ne signingPem.toList otherPem.toList (by decide)
    rw [String.ofList_toList, String.ofList_toList] at hdigests
    exact hdigests
  reference := by decide

/-- The provider of both private references. -/
def routedProvider : RegisteredSecretProvider :=
  newRegistration ("sprov_" ++ digestText [0, 0, 0, 0, 0, 0, 0, 1]) "a" "p"
    { heldMaterial with
      allowedReferencePrefixes := [heldReference, otherHeldReference]
      allowedIntents :=
        [.gatewayNodeControlTransitSigningKey, .workloadNodeControlSigningKey] }
    none "a" "2025-01-01T00:00:00Z"

/-- A reference to a key's secret, admitted for one intent. -/
def routedReference (number : Nat) (reference : SecretReference)
    (intent : SecretUseIntent) : RegisteredSecretReference :=
  newRegistration ("sref_" ++ digestText [0, 0, 0, 0, 0, 0, 0, number]) "a" reference
    ⟨routedProvider.registrationId, [intent], []⟩ none "a" "2025-01-01T00:00:00Z"

/-- Each private reference is admitted for the signatures of its key. -/
def routedReferences : List RegisteredSecretReference :=
  [ routedReference 1 heldReference .gatewayNodeControlTransitSigningKey
  , routedReference 2 otherHeldReference .workloadNodeControlSigningKey ]

/-- The tables, with the uses that are stored. -/
def routedStores (runtimeId : String) (uses : List AuthorizedSecretUse) :
    NodeControlStores where
  workspaces := [⟨"a", some ⟨"a", "p"⟩⟩]
  projections := [⟨"p", "a", "a", routedGraph runtimeId⟩]
  keys := [transitRow, workloadRow]
  secrets := ⟨⟨[routedProvider], routedReferences⟩, uses⟩
  attempts := []

/-- Set the weights of the target, by an actor of every scope. -/
def routeIntent : RequestNodeControlIntent jcsJson where
  workspaceId := "a"
  actorId := "a"
  grantedScopes :=
    [.nodeControlApply, .nodeControlExecute, .delegationKeyUse, .secretProviderUse]
  gatewayNodeId := otherReference _
  request := routeRequest
  constructible := routeRequest_constructible

/-- The clock and the identities of the command. -/
def routeDraws : IntentDraws where
  issuedAt := 1735689600
  requestedAt := "2025-01-01T00:00:00Z"
  attemptId := "t"
  transitJti := "j"
  workloadJti := "l"

/-- The rows that the command reads. -/
def routedRows (runtimeId : String) : IntentRows :=
  ⟨⟨"a", "p"⟩, ⟨"p", "a", "a", routedGraph runtimeId⟩,
    routedGateway runtimeId, transitKey, workloadKey⟩

theorem routeTransitGrant_fields (digest : NodeControlRequestDigest) :
    (transitGrantOf jcsJson routeIntent transitKey
      ⟨routeDraws.issuedAt, routeDraws.issuedAt,
      routeDraws.issuedAt +
        minuteLifetime.seconds⟩ digest routeDraws).checkFields = .ok () := by
  simp only [DelegatedGatewayNodeControlTransitGrant.checkFields, transitGrantOf]
  decide

theorem routeWorkloadGrant_fields (digest : NodeControlRequestDigest) :
    (workloadGrantOf jcsJson routeIntent workloadKey
      ⟨routeDraws.issuedAt, routeDraws.issuedAt,
      routeDraws.issuedAt +
        minuteLifetime.seconds⟩ digest "workload:a:a" routeDraws).checkFields =
        .ok () := by
  simp only [DelegatedWorkloadNodeControlGrant.checkFields, workloadGrantOf]
  decide

/-- The command's grants can be made. -/
theorem routeGrants_isOk :
    (unsignedGrants jcsJson minuteLifetime routeIntent transitKey workloadKey
    routeDraws).isOk = true :=
  unsignedGrants_isOk Library.IntegralFloats.integralBytes_follows jcsJson_texts
    (by decide) routeTransitGrant_fields routeWorkloadGrant_fields

/-- **The tables hold the rows**, whatever uses are stored. -/
theorem routedRows_held (runtimeId : String) (uses : List AuthorizedSecretUse) :
    (routedRows runtimeId).Held minuteLifetime (routedStores runtimeId uses) routeIntent
      routeDraws where
  workspace := rfl
  lineage := ⟨_, rfl, rfl⟩
  revision := rfl
  projection := rfl
  owner := rfl
  source := rfl
  gateway := routedGraph_gateway runtimeId
  reaches := isOk_iff.mpr ⟨_, routedGraph_reaches runtimeId⟩
  transitKey := transitKey_selected
  workloadKey := workloadKey_selected
  distinct := routedKeys_distinct
  grants := routeGrants_isOk

/-! ### Its secret uses -/

theorem routedReference_ids : (routedReference 1 heldReference
      .gatewayNodeControlTransitSigningKey).registrationId ≠
    (routedReference 2 otherHeldReference
      .workloadNodeControlSigningKey).registrationId := by
  intro hsame
  have hchars := congrArg String.toList hsame
  simp only [routedReference, newRegistration, digestText, String.toList_append,
    String.toList_ofList] at hchars
  exact absurd (List.append_cancel_left hchars) (by decide)

/-- The registrations are sound. -/
theorem routedRegistrations_sound :
    SecretRegistrations.Sound ⟨[routedProvider], routedReferences⟩ where
  providers := ⟨List.nodup_singleton _, List.pairwise_singleton _ _⟩
  references := by
    have hids := routedReference_ids
    have hsubjects : heldReference ≠ otherHeldReference := by decide
    refine ⟨?_, ?_⟩
    · simpa [routedReferences] using hids
    · simp [routedReferences, routedReference, newRegistration, hsubjects]

/-- The correlation that a digest derives. -/
def routedCorrelation (words : List Nat) : String :=
  "secret-use:" ++ digestText words

/-- The use of a key is correlated by the digest of what it is for. -/
theorem routeUse_correlated {key : RegisteredDelegationSigningKey}
    {intent : SecretUseIntent} {words : List Nat}
    (hdigest : (Library.Sha256.unrolledDigest (Library.Text.utf8
      ('\x7b' :: objectTail (keyUse routeIntent routeDraws.attemptId key
        intent).correlationSemantics))).words = words) :
    secretUseCorrelationFor (keyUse routeIntent routeDraws.attemptId key intent) =
      .ok (routedCorrelation words) := by
  have hnames : Operations.requireIdentifier "a" "workspace_id" = .ok () ∧
      Operations.requireIdentifier "a" "actor_subject" = .ok () := by decide
  have hworkspace : (keyUse routeIntent routeDraws.attemptId key intent).workspaceId =
    "a" := rfl
  have hactor : (keyUse routeIntent routeDraws.attemptId key intent).actorSubject =
    "a" := rfl
  rw [secretUseCorrelationFor, hworkspace, hactor, hnames.1, ok_bind, hnames.2, ok_bind,
    sha256Hexdigest_eq_of hdigest]
  rfl

def transitWords : List Nat :=
  [0x30fe6f40, 0xb9adf966, 0x84e30356, 0x0c547b62, 0x347cf098, 0x27ad0955,
    0xb95a50b5, 0x725bb101]

def workloadWords : List Nat :=
  [0x5dfd8d17, 0xcfe31a0b, 0xa5d00a9b, 0x6a3d98d9, 0x01f49b67, 0xbdaaa2fe,
    0xe3be9fa2, 0x2a589585]

/-- The correlation of the transit key's use. -/
theorem routeTransit_correlated :
    secretUseCorrelationFor (keyUse routeIntent routeDraws.attemptId
    transitKey .gatewayNodeControlTransitSigningKey) =
      .ok (routedCorrelation transitWords) := by
  have hdigest : (Library.Sha256.unrolledDigest (Library.Text.utf8 ('\x7b' :: objectTail
      (keyUse routeIntent routeDraws.attemptId transitKey
        .gatewayNodeControlTransitSigningKey).correlationSemantics))).words =
          transitWords := by
    decide +kernel
  exact routeUse_correlated hdigest

/-- The correlation of the workload key's use. -/
theorem routeWorkload_correlated : secretUseCorrelationFor (keyUse routeIntent
    routeDraws.attemptId workloadKey .workloadNodeControlSigningKey) =
      .ok (routedCorrelation workloadWords) := by
  have hdigest : (Library.Sha256.unrolledDigest (Library.Text.utf8 ('\x7b' :: objectTail
      (keyUse routeIntent routeDraws.attemptId workloadKey
        .workloadNodeControlSigningKey).correlationSemantics))).words =
          workloadWords := by
    decide +kernel
  exact routeUse_correlated hdigest

/-- The authorisation of a use of a key under its registration. -/
def routedUse (key : RegisteredDelegationSigningKey) (intent : SecretUseIntent)
    (words : List Nat) (number : Nat) : AuthorizedSecretUse :=
  authorizedSecretUseFor
    (keyUseCommand routeIntent routeDraws key intent (routedCorrelation words))
    (routedReference number key.identity.privateKeyReference intent) routedProvider

/-- The use of the transit key, authorized before. -/
def transitUse : AuthorizedSecretUse :=
  routedUse transitKey .gatewayNodeControlTransitSigningKey transitWords 1

/-- The use of the workload key, authorized before. -/
def workloadUse : AuthorizedSecretUse :=
  routedUse workloadKey .workloadNodeControlSigningKey workloadWords 2

theorem routedReferences_within : ∀ reference ∈ [heldReference, otherHeldReference],
    referenceProviderId reference = "p" ∧
    referenceIsWithin reference reference = true := by
  decide

/-- A registered reference of a key admits its uses. -/
theorem routedReference_admits {key : RegisteredDelegationSigningKey}
    {intent : SecretUseIntent} {correlationId : String} {number : Nat}
    (hmem : routedReference number key.identity.privateKeyReference intent ∈
      routedReferences)
    (hreference : key.identity.privateKeyReference ∈
      [heldReference, otherHeldReference])
    (hintent : intent ∈ routedProvider.material.allowedIntents) :
    Admits ⟨[routedProvider], routedReferences⟩
      (keyUseCommand routeIntent routeDraws key intent correlationId).toSecretUse
      (routedReference number key.identity.privateKeyReference intent)
      routedProvider where
  reference_mem := hmem
  provider_mem := List.mem_singleton_self _
  reference_scope := rfl
  provider_scope := rfl
  subject := rfl
  registered := rfl
  identity := (routedReferences_within _ hreference).1
  narrower _ hother := List.mem_singleton.mp hother ▸ hintent
  within := ⟨_, hreference, (routedReferences_within _ hreference).2⟩
  intent := List.mem_singleton_self _

/-- The texts that a use of the attempt is checked by. -/
theorem routeDraws_texts : isCanonicalIdentity routeDraws.attemptId = true ∧
    requireSecretScope routeIntent.grantedScopes .secretProviderUse = .ok () ∧
    requireBoundedText routeDraws.requestedAt "requested_at" 128 = .ok () ∧
    (canonicalInstant routeDraws.requestedAt).isSome = true := by
  decide

/-- A use that is correlated and admitted is the candidate of its key. -/
theorem routedUse_candidate {key : RegisteredDelegationSigningKey}
    {intent : SecretUseIntent} {words : List Nat} {number : Nat}
    (hcorrelated : secretUseCorrelationFor
      (keyUse routeIntent routeDraws.attemptId key intent) =
      .ok (routedCorrelation words))
    (hmem : routedReference number key.identity.privateKeyReference intent ∈
      routedReferences)
    (hreference : key.identity.privateKeyReference ∈
      [heldReference, otherHeldReference])
    (hintent : intent ∈ routedProvider.material.allowedIntents) :
    KeyCandidate routeIntent routeDraws key intent ⟨[routedProvider], routedReferences⟩
      (routedUse key intent words number) := by
  obtain ⟨hattempt, hscope, hbounded, hinstant⟩ := routeDraws_texts
  exact ⟨_, hcorrelated,
    keyUseCommand_check hcorrelated hattempt hscope hbounded hinstant,
    routedReference number key.identity.privateKeyReference intent, routedProvider,
    (coveringRegistrations_ok routedRegistrations_sound).mpr
      ⟨routedReference_admits hmem hreference hintent, rfl, rfl⟩, rfl⟩

/-- It is what is authorized again. -/
theorem transitUse_candidate : KeyCandidate routeIntent routeDraws transitKey
    .gatewayNodeControlTransitSigningKey
      ⟨[routedProvider], routedReferences⟩ transitUse := by
  have hmem : routedReference 1 heldReference .gatewayNodeControlTransitSigningKey ∈
      routedReferences := List.mem_cons_self ..
  exact routedUse_candidate routeTransit_correlated hmem (List.mem_cons_self ..)
    (List.mem_cons_self ..)

theorem workloadUse_candidate : KeyCandidate routeIntent routeDraws workloadKey
    .workloadNodeControlSigningKey
      ⟨[routedProvider], routedReferences⟩ workloadUse := by
  have hmem : routedReference 2 otherHeldReference .workloadNodeControlSigningKey ∈
      routedReferences := List.mem_cons_of_mem _ (List.mem_singleton_self _)
  exact routedUse_candidate routeWorkload_correlated hmem
    (List.mem_cons_of_mem _ (List.mem_singleton_self _))
    (List.mem_cons_of_mem _ (List.mem_singleton_self _))

/-- A digest under a tag, quoted. -/
theorem quoted_tagged (tag : String) (words : List Nat) :
    Library.PyValue.quoted (tag ++ digestText words) = '"' :: (tag.toList ++
      words.flatMap Library.Sha256.hexDigits).flatMap Library.PyValue.escapeChar ++
      ['"'] := by
  rw [Library.PyValue.quoted, digestText, String.toList_append, String.toList_ofList]

/-- What the use of a key is named by, under a correlation and two registrations. -/
def routedEntries (key : RegisteredDelegationSigningKey) (intent : SecretUseIntent)
    (words registrationWords : List Nat) : List (String × Option String) :=
  [ ("activity_id", none)
  , ("actor_subject", some "a")
  , ("correlation_id", some (routedCorrelation words))
  , ("effect_id", none)
  , ("intent", some intent.value)
  , ("operation_id", some "t")
  , ("probe_id", none)
  , ("provider_registration_id", some ("sprov_" ++ digestText [0, 0, 0, 0, 0, 0, 0, 1]))
  , ("reference_id", some key.identity.privateKeyReference.referenceId)
  , ("reference_registration_id", some ("sref_" ++ digestText registrationWords))
  , ("run_id", none)
  , ("session_id", none)
  , ("workspace_id", some "a") ]

theorem routedUse_document (key : RegisteredDelegationSigningKey)
    (intent : SecretUseIntent) (words : List Nat) (number other : Nat)
    (reference : SecretReference) (admitted : SecretUseIntent) :
    (routedUse key intent words number).toSecretUse.document
        (routedReference other reference admitted).registrationId
        routedProvider.registrationId =
      String.ofList ('\x7b' :: objectTail
        (routedEntries key intent words [0, 0, 0, 0, 0, 0, 0, other])) :=
  rfl

/-- The document of the transit use, and those the use of the workload's key may
have. -/
theorem routedDocuments_apart : ∀ number ∈ [1, 2], sha256Hexdigest transitUse.document ≠
    sha256Hexdigest
      (workloadUse.toSecretUse.document (routedReference number heldReference
      .gatewayNodeControlTransitSigningKey).registrationId
      routedProvider.registrationId) := by
  intro number hmem
  have htransit : transitUse.document =
      String.ofList ('\x7b' :: objectTail (routedEntries transitKey
        .gatewayNodeControlTransitSigningKey transitWords [0, 0, 0, 0, 0, 0, 0, 1])) :=
    routedUse_document transitKey .gatewayNodeControlTransitSigningKey transitWords 1 1
      heldReference .gatewayNodeControlTransitSigningKey
  rw [htransit, workloadUse, routedUse_document]
  refine sha256Hexdigest_ne ?_
  simp only [routedEntries, routedCorrelation, objectTail, textOrNull, quoted_tagged]
  revert number
  decide +kernel

/-- A stored use has its correlation. -/
theorem routedUse_correlation (key : RegisteredDelegationSigningKey)
    (intent : SecretUseIntent) (words : List Nat) (number : Nat) :
    (routedUse key intent words number).correlationId = routedCorrelation words :=
  rfl

/-- The two digests differ. -/
theorem routedWords_apart : transitWords.flatMap Library.Sha256.hexDigits ≠
    workloadWords.flatMap Library.Sha256.hexDigits := by
  decide

/-- The two uses are correlated apart. -/
theorem routedCorrelations_apart :
    transitUse.correlationId ≠ workloadUse.correlationId := by
  rw [transitUse, workloadUse, routedUse_correlation, routedUse_correlation,
    routedCorrelation, routedCorrelation, digestText, digestText]
  intro hsame
  have hchars := congrArg String.toList hsame
  rw [String.toList_append, String.toList_append, String.toList_ofList,
    String.toList_ofList] at hchars
  exact routedWords_apart (List.append_cancel_left hchars)

/-- The two uses have identities apart. -/
theorem routedIdentities_apart :
    transitUse.authorizationId ≠ workloadUse.authorizationId := by
  intro hsame
  have hdigest : "suse_" ++ sha256Hexdigest transitUse.document =
      "suse_" ++ sha256Hexdigest (workloadUse.toSecretUse.document
        (routedReference 2 heldReference
          .gatewayNodeControlTransitSigningKey).registrationId
        routedProvider.registrationId) := hsame
  have hchars := congrArg String.toList hdigest
  rw [String.toList_append, String.toList_append] at hchars
  exact routedDocuments_apart 2 (List.mem_cons_of_mem _ (List.mem_singleton_self _))
    (String.toList_injective (List.append_cancel_left hchars))

/-- The use of the transit key is granted where no use is stored, or that use itself. -/
theorem transitUse_granted (runtimeId : String) (uses : List AuthorizedSecretUse)
    (huses : uses = [] ∨ uses = [transitUse]) :
    UseGranted routeIntent routeDraws transitKey
      .gatewayNodeControlTransitSigningKey
      (routedStores runtimeId uses).secrets transitUse ∧
      usesWith uses transitUse = [transitUse] := by
  have hstored : SecretUseAuthorizationStore.forCorrelation [transitUse]
      transitUse.workspaceId transitUse.correlationId = some transitUse := by
    simp [SecretUseAuthorizationStore.forCorrelation]
  rcases huses with rfl | rfl
  · refine ⟨⟨transitUse_candidate, ?_, ?_⟩, rfl⟩
    · rintro ⟨-, use, huse, -⟩
      cases huse
    · rintro existing ⟨⟩
  · refine ⟨⟨transitUse_candidate, ?_, ?_⟩, ?_⟩
    · rintro ⟨hnone, -⟩
      rw [show (routedStores runtimeId [transitUse]).secrets.uses = [transitUse]
        from rfl, hstored] at hnone
      cases hnone
    · intro existing hexisting
      rw [show (routedStores runtimeId [transitUse]).secrets.uses = [transitUse]
        from rfl, hstored] at hexisting
      cases hexisting
      rfl
    · rw [usesWith, hstored]

/-- The use of the workload's key is granted after that of the transit key. -/
theorem workloadUse_granted (runtimeId : String) :
    UseGranted routeIntent routeDraws workloadKey
    .workloadNodeControlSigningKey
    (routedStores runtimeId [transitUse]).secrets workloadUse := by
  have hnone : SecretUseAuthorizationStore.forCorrelation
      [transitUse] workloadUse.workspaceId workloadUse.correlationId = none := by
    simp [SecretUseAuthorizationStore.forCorrelation, routedCorrelations_apart]
  refine ⟨workloadUse_candidate, ?_, ?_⟩
  · rintro ⟨-, use, huse, hid⟩
    obtain rfl := List.mem_singleton.mp huse
    exact routedIdentities_apart hid
  · intro existing hexisting
    rw [show (routedStores runtimeId [transitUse]).secrets.uses = [transitUse] from rfl,
      hnone] at hexisting
    cases hexisting

/-- Both uses are granted, one after the other. -/
theorem routedUses_granted (runtimeId : String) (uses : List AuthorizedSecretUse)
    (huses : uses = [] ∨ uses = [transitUse]) :
    UseGranted routeIntent routeDraws transitKey .gatewayNodeControlTransitSigningKey
        (routedStores runtimeId uses).secrets transitUse ∧
      UseGranted routeIntent routeDraws workloadKey .workloadNodeControlSigningKey
        { (routedStores runtimeId uses).secrets with
          uses := usesWith (routedStores runtimeId uses).secrets.uses transitUse }
        workloadUse := by
  obtain ⟨htransit, hstored⟩ := transitUse_granted runtimeId uses huses
  refine ⟨htransit, ?_⟩
  rw [show (routedStores runtimeId uses).secrets.uses = uses from rfl, hstored]
  exact workloadUse_granted runtimeId

/-- The stored rows have the identities that the tables check. -/
theorem routedStores_checked (runtimeId : String) (uses : List AuthorizedSecretUse)
    (huses : uses = [] ∨ uses = [transitUse]) :
    TableChecks (routedStores runtimeId uses) where
  keys := by
    rintro row hrow
    rcases List.mem_cons.mp hrow with rfl | hrow
    · decide
    · obtain rfl := List.mem_singleton.mp hrow
      decide
  uses := by
    rintro use huse
    rcases huses with rfl | rfl
    · cases huse
    · obtain rfl := List.mem_singleton.mp huse
      exact isNamedDigest_sha256 "suse_" transitUse.document

end ControlPlaneKit.NodeControl
