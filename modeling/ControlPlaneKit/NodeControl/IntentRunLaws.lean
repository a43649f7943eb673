import ControlPlaneKit.NodeControl.IntentRows
import ControlPlaneKit.NodeControl.IntentRuns

/-!
# IntentRunLaws — an intent is retained once

Whatever runs in between, a request has one attempt; a repeated command finds it, since
the rows it is joined with are never taken away; and a new attempt is read off the
graph, the keys and the registrations of the moment it is committed.
-/

namespace ControlPlaneKit.NodeControl

open ControlPlaneKit.Library (PyFloat)
open ControlPlaneKit.Library.EventFold (bind_ok check_bind_ok)
open ControlPlaneKit.Library.Outcome (mapError_eq_ok ok_bind)
open ControlPlaneKit.Library.Text (isCanonicalIdentity)
open ControlPlaneKit.Library.Transactions
  (run run_invariant run_relation settle settle_error
  settle_ok)
open ControlPlaneKit.Operations
open ControlPlaneKit.Rotation
  (RegisteredDelegationSigningKey SigningKeyEffect SigningKeyRow
  SigningKeyTable perform_effect)
open ControlPlaneKit.Topology (DelegationKeyPurpose DeploymentGraph Node SecretUseIntent
  sha256Hexdigest)

section Steps

variable {dumps : CanonicalJson} {lifetime : GrantLifetime}
  {stores after : NodeControlStores} {command : RequestNodeControlIntent dumps}
  {draws : Option IntentDraws} {attempt : NodeControlIntendedAttempt} {replayed : Bool}

/-! ## One command -/

/-- The service commits, and answers with what it committed. -/
theorem executeIntent_eq : executeIntent dumps lifetime command draws stores = (do
    let ((attempt, replayed), after) ← commitIntent dumps lifetime command draws stores
    let prepared ← preparation attempt replayed
    return (prepared, after)) := by
  unfold executeIntent commitIntent
  simp only [bind_assoc]
  refine bind_congr fun _ => bind_congr fun fingerprint => bind_congr fun _ =>
    bind_congr fun existing => ?_
  cases existing with
  | none => simp only [bind_assoc, pure_bind]
  | some attempt => simp only [bind_assoc, pure_bind]

/-- What a committed command found under its request, or stored there. -/
theorem commitIntent_ok
    (h : commitIntent dumps lifetime command draws stores =
      .ok ((attempt, replayed), after)) :
    requireScopes command = .ok () ∧ isCanonicalIdentity command.workspaceId = true ∧
      isCanonicalIdentity command.request.requestId = true ∧
      ∃ fingerprint,
        nodeControlIntentFingerprint dumps command.actorId command.gatewayNodeId
          command.request = .ok fingerprint ∧
        ((replayed = true ∧ after = stores ∧
            existingAttempt dumps stores command.workspaceId command.request.requestId =
              .ok (some attempt) ∧ attempt.intentFingerprint dumps = .ok fingerprint) ∨
          (replayed = false ∧
            existingAttempt dumps stores command.workspaceId command.request.requestId =
              .ok none ∧
            ∃ secrets, prepareNew dumps lifetime stores command draws =
              .ok (attempt, secrets) ∧
              addAttempt stores attempt secrets = .ok after)) := by
  unfold commitIntent at h
  simp only [bind_ok, translated_eq_ok, mapError_eq_ok,
    NodeControlAttemptStore.lockRequestId] at h
  obtain ⟨⟨⟩, hscopes, fingerprint, hfingerprint, ⟨⟩, ⟨⟨⟩, hworkspace, hrequest⟩,
    existing, hexisting, h⟩ := h
  refine ⟨hscopes, requireNodeControlIdentifier_iff.mp hworkspace,
    requireNodeControlIdentifier_iff.mp hrequest, fingerprint, hfingerprint, ?_⟩
  cases existing with
  | some stored =>
      simp only [bind_ok, mapError_eq_ok, guard_eq_ok, decide_eq_true_eq] at h
      obtain ⟨text, htext, ⟨⟩, rfl, hpure⟩ := h
      cases hpure
      exact .inl ⟨rfl, rfl, hexisting, htext⟩
  | none =>
      simp only [bind_ok, Prod.exists] at h
      obtain ⟨new, secrets, hnew, written, hadded, hpure⟩ := h
      cases hpure
      exact .inr ⟨rfl, hexisting, secrets, hnew, hadded⟩

theorem addAttempt_ok {secrets : SecretState}
    (h : addAttempt stores attempt secrets = .ok after) :
    after = { stores with secrets, attempts := stores.attempts ++ [⟨attempt, true⟩] } ∧
      ∀ row ∈ stores.attempts,
        NodeControlAttemptStore.collides attempt row.attempt = false := by
  unfold addAttempt NodeControlAttemptStore.add at h
  split at h
  · rename_i attempts hadded
    split at hadded
    · cases hadded
    · rename_i hfree
      cases hadded
      cases h
      refine ⟨rfl, fun row hrow => ?_⟩
      by_contra hcollides
      exact hfree (List.any_eq_true.mpr ⟨row, hrow, by simpa using hcollides⟩)
  · cases h
  · cases h

/-- What a new attempt was prepared from. -/
theorem prepareNew_ok {secrets : SecretState}
    (h : prepareNew dumps lifetime stores command draws = .ok (attempt, secrets)) :
    ∃ selected transitUse afterTransit workloadUse,
      selectAuthority dumps lifetime stores command draws = .ok selected ∧
      authorizeKeyUse command selected.draws selected.transitKey
        .gatewayNodeControlTransitSigningKey stores.secrets =
          .ok (transitUse, afterTransit) ∧
      authorizeKeyUse command selected.draws selected.workloadKey
        .workloadNodeControlSigningKey afterTransit = .ok (workloadUse, secrets) ∧
      attempt = attemptOf command selected transitUse workloadUse ∧
      attempt.check dumps = .ok () := by
  unfold prepareNew at h
  simp only [bind_ok, Prod.exists, mapError_eq_ok] at h
  obtain ⟨selected, hselected, transitUse, afterTransit, htransit, workloadUse,
    afterWorkload, hworkload, ⟨⟩, hcheck, hpure⟩ := h
  cases hpure
  exact ⟨selected, transitUse, afterTransit, workloadUse, hselected, htransit,
    hworkload, rfl, hcheck⟩

theorem commitIntent_checked
    (h : commitIntent dumps lifetime command draws stores =
      .ok ((attempt, replayed), after)) :
    attempt.check dumps = .ok () := by
  obtain ⟨-, hworkspace, hrequest, fingerprint, -, ⟨-, -, hexisting, -⟩ |
      ⟨-, -, secrets, hnew, -⟩⟩ :=
    commitIntent_ok h
  · obtain ⟨row, -, rfl, hread⟩ :=
      (existingAttempt_eq_some hworkspace hrequest).mp hexisting
    exact hread.checked
  · obtain ⟨-, -, -, -, -, -, -, -, hcheck⟩ := prepareNew_ok hnew
    exact hcheck

/-- The service answers exactly when it commits. -/
theorem executeIntent_ok {prepared : NodeControlIntentPreparation} :
    executeIntent dumps lifetime command draws stores = .ok (prepared, after) ↔
      ∃ attempt replayed,
        commitIntent dumps lifetime command draws stores =
          .ok ((attempt, replayed), after) ∧
          prepared = preparationOf attempt replayed := by
  rw [executeIntent_eq, bind_ok]
  constructor
  · rintro ⟨⟨⟨attempt, replayed⟩, written⟩, hcommit, h⟩
    dsimp only at h
    rw [preparation_eq (commitIntent_checked hcommit), ok_bind] at h
    cases h
    exact ⟨attempt, replayed, hcommit, rfl⟩
  · rintro ⟨attempt, replayed, hcommit, rfl⟩
    refine ⟨((attempt, replayed), after), hcommit, ?_⟩
    dsimp only
    rw [preparation_eq (commitIntent_checked hcommit)]
    rfl

theorem executeIntent_error {fault : NodeControlIntentFault}
    (h : executeIntent dumps lifetime command draws stores = .error fault) :
    commitIntent dumps lifetime command draws stores = .error fault := by
  cases hcommit : commitIntent dumps lifetime command draws stores with
  | error e =>
      rw [executeIntent_eq, hcommit] at h
      cases h
      rfl
  | ok answer =>
      obtain ⟨⟨attempt, replayed⟩, written⟩ := answer
      rw [executeIntent_ok.mpr ⟨attempt, replayed, hcommit, rfl⟩] at h
      cases h

/-! ## What a step keeps -/

theorem authorizeKeyUse_grows {draws : IntentDraws}
    {key : RegisteredDelegationSigningKey} {intent : SecretUseIntent}
    {secrets later : SecretState} {authorized : AuthorizedSecretUse}
    (hsound : secrets.Sound)
    (h : authorizeKeyUse command draws key intent secrets = .ok (authorized, later)) :
    later.Sound ∧ later.toSecretRegistrations = secrets.toSecretRegistrations ∧
      secrets.uses <+: later.uses ∧ authorized ∈ later.uses := by
  obtain ⟨correlationId, provider, -, hauthorized⟩ := authorizeKeyUse_ok h
  exact hsound.authorize hauthorized

theorem prepareNew_grows {secrets : SecretState} (hsound : stores.secrets.Sound)
    (h : prepareNew dumps lifetime stores command draws = .ok (attempt, secrets)) :
    secrets.Sound ∧ stores.secrets.uses <+: secrets.uses := by
  obtain ⟨selected, transitUse, afterTransit, workloadUse, -, htransit,
      hworkload, -, -⟩ :=
    prepareNew_ok h
  obtain ⟨hafter, -, hgrown, -⟩ := authorizeKeyUse_grows hsound htransit
  obtain ⟨hlater, -, hgrown', -⟩ := authorizeKeyUse_grows hafter hworkload
  exact ⟨hlater, hgrown.trans hgrown'⟩

/-- Nothing an attempt is joined with is taken away, and no attempt is. -/
structure Grows (stores later : NodeControlStores) : Prop where
  attempts : stores.attempts <+: later.attempts
  uses : stores.secrets.uses <+: later.secrets.uses
  keys : ∀ row ∈ stores.keys, ∃ row' ∈ later.keys, row'.identity = row.identity

theorem Grows.refl (stores : NodeControlStores) : Grows stores stores :=
  ⟨List.prefix_refl _, List.prefix_refl _, fun row hrow => ⟨row, hrow, rfl⟩⟩

theorem Grows.trans {first second third : NodeControlStores} (h : Grows first second)
    (h' : Grows second third) : Grows first third where
  attempts := h.attempts.trans h'.attempts
  uses := h.uses.trans h'.uses
  keys row hrow := by
    obtain ⟨row', hrow', hsame⟩ := h.keys row hrow
    obtain ⟨row'', hrow'', hsame'⟩ := h'.keys row' hrow'
    exact ⟨row'', hrow'', hsame'.trans hsame⟩

/-- A command keeps the identity of every key. -/
theorem keys_kept {keys later : SigningKeyTable} {command : Rotation.SigningKeyCommand}
    (h : SigningKeyEffect keys command later) :
    ∀ row ∈ keys, ∃ row' ∈ later, row'.identity = row.identity := by
  intro row hrow
  have hmap {update : SigningKeyRow → SigningKeyRow}
      (hidentity : ∀ row, (update row).identity = row.identity) :
      ∃ row' ∈ keys.map update, row'.identity = row.identity :=
    ⟨update row, List.mem_map_of_mem hrow, hidentity row⟩
  have hupdate {scope : Rotation.DelegationKeyScope} {keyId : String}
      {update : SigningKeyRow → SigningKeyRow}
      (hidentity : ∀ row, (update row).identity = row.identity) :
      ∃ row' ∈ SigningKeyTable.updateWhere keys
        (SigningKeyTable.isKey scope keyId) update,
        row'.identity = row.identity := by
    refine hmap fun row => ?_
    split
    · exact hidentity row
    · rfl
  cases h with
  | unchanged => exact ⟨row, hrow, rfl⟩
  | registered => exact ⟨row, List.mem_append_left _ hrow, rfl⟩
  | activated =>
      rw [Rotation.activatedTable_eq]
      exact hmap fun row => (Rotation.persists_activatedRow _ _ _ _ row).identity
  | retired => exact hupdate (Rotation.retiredRow_identity _ _)
  | revoked => exact hupdate (Rotation.revokedRow_identity _ _)

/-- **One step** keeps what the stores keep, and grows them. -/
theorem transaction_keeps {step : IntentStep dumps} (hsound : stores.Sound)
    (h : NodeControlStores.transaction dumps lifetime step stores = .ok ((), after)) :
    after.Sound ∧ Grows stores after := by
  cases step with
  | intent command draws =>
      simp only [NodeControlStores.transaction, bind_ok, Prod.exists] at h
      obtain ⟨attempt, replayed, written, hcommit, hpure⟩ := h
      cases hpure
      obtain ⟨-, hworkspace, hrequest, fingerprint, -, ⟨-, rfl, -⟩ |
        ⟨-, hnone, secrets, hnew, hadded⟩⟩ := commitIntent_ok hcommit
      · exact ⟨hsound, .refl _⟩
      · obtain ⟨hsecrets, hgrown⟩ := prepareNew_grows hsound.secrets hnew
        obtain ⟨rfl, hfree⟩ := addAttempt_ok hadded
        refine ⟨⟨hsecrets, ?_⟩, List.prefix_append _ _, hgrown, fun row hrow =>
          ⟨row, hrow, rfl⟩⟩
        rw [List.map_append, List.map_singleton]
        refine List.nodup_append_comm.mp
          (List.nodup_cons.mpr ⟨fun hmem => ?_, hsound.requests⟩)
        obtain ⟨row, hrow, hsame⟩ := List.mem_map.mp hmem
        obtain ⟨hworkspace', hrequest'⟩ := Prod.mk.inj hsame
        have hcollides := hfree row hrow
        simp [NodeControlAttemptStore.collides, hworkspace', hrequest'] at hcollides
  | advanceGraph workspaces projections =>
      cases h
      exact ⟨⟨hsound.secrets, hsound.requests⟩, List.prefix_refl _, List.prefix_refl _,
        fun row hrow => ⟨row, hrow, rfl⟩⟩
  | signingKey call =>
      simp only [NodeControlStores.transaction, bind_ok, Prod.exists,
        mapError_eq_ok] at h
      obtain ⟨key, keys, hperform, hpure⟩ := h
      cases hpure
      exact ⟨⟨hsound.secrets, hsound.requests⟩, List.prefix_refl _, List.prefix_refl _,
        keys_kept (perform_effect hperform)⟩
  | secret command =>
      simp only [NodeControlStores.transaction, bind_ok, Prod.exists,
        mapError_eq_ok] at h
      obtain ⟨⟨⟩, secrets, hexecute, hpure⟩ := h
      cases hpure
      obtain ⟨hsecrets, hgrown⟩ := hsound.secrets.step hexecute
      exact ⟨⟨hsecrets, hsound.requests⟩, List.prefix_refl _, hgrown,
        fun row hrow => ⟨row, hrow, rfl⟩⟩

theorem sound_afterSteps (hsound : stores.Sound) (steps : List (IntentStep dumps)) :
    (stores.afterSteps dumps lifetime steps).Sound :=
  run_invariant (fun _ _ _ _ hsound h => (transaction_keeps hsound h).1) hsound steps

theorem grows_afterSteps (hsound : stores.Sound) (steps : List (IntentStep dumps)) :
    Grows stores (stores.afterSteps dumps lifetime steps) :=
  run_relation Grows.refl (fun _ _ _ => Grows.trans)
    (fun _ _ _ _ hsound h => (transaction_keeps hsound h).1)
    (fun _ _ _ _ hsound h => (transaction_keeps hsound h).2) hsound steps

/-! ## Repetitions -/

theorem isJoined_grows
    {workspaceId registrationId authorizationId issuer keyId actorSubject
    correlationId : String} {purpose : DelegationKeyPurpose} {intent : SecretUseIntent}
    (hgrows : Grows stores after)
    (h : NodeControlAttemptStore.isJoined stores.keys stores.secrets.uses workspaceId
      registrationId
      authorizationId issuer keyId actorSubject correlationId purpose intent = true) :
    NodeControlAttemptStore.isJoined after.keys after.secrets.uses workspaceId
      registrationId
      authorizationId issuer keyId actorSubject correlationId purpose intent =
        true := by
  unfold NodeControlAttemptStore.isJoined at h ⊢
  obtain ⟨row, hrow, hjoined⟩ := List.any_eq_true.mp h
  obtain ⟨row', hrow', hsame⟩ := hgrows.keys row hrow
  simp only [Bool.and_eq_true] at hjoined
  obtain ⟨hkey, huses⟩ := hjoined
  obtain ⟨use, huse, hmatches⟩ := List.any_eq_true.mp huses
  refine List.any_eq_true.mpr ⟨row', hrow', ?_⟩
  rw [hsame]
  simp only [Bool.and_eq_true]
  exact ⟨hkey, List.any_eq_true.mpr ⟨use, hgrows.uses.subset huse, hmatches⟩⟩

theorem ReadsBack.grows {row : NodeControlAttemptRow} (h : ReadsBack dumps stores row)
    (hgrows : Grows stores after) : ReadsBack dumps after row := by
  have hjoined := h.joined
  simp only [NodeControlAttemptStore.joins, Bool.and_eq_true] at hjoined
  refine ⟨h.intact, ?_, h.checked⟩
  simp only [NodeControlAttemptStore.joins, Bool.and_eq_true]
  exact ⟨isJoined_grows hgrows hjoined.1, isJoined_grows hgrows hjoined.2⟩

theorem selectRequest_grows {workspaceId requestId : String}
    {row : NodeControlAttemptRow} (hgrows : Grows stores after)
    (h : NodeControlAttemptStore.selectRequest stores.attempts workspaceId requestId =
      some row) :
    NodeControlAttemptStore.selectRequest after.attempts workspaceId requestId =
      some row := by
  obtain ⟨rest, hrest⟩ := hgrows.attempts
  rw [NodeControlAttemptStore.selectRequest] at h ⊢
  rw [← hrest, List.find?_append, h]
  rfl

/-- **A stored attempt answers every repetition**, and nothing is written. -/
theorem commitIntent_again {other : RequestNodeControlIntent dumps}
    {draws' : Option IntentDraws} {fingerprint : String}
    (hrepeats : Repeats command other)
    (hworkspace : isCanonicalIdentity command.workspaceId = true)
    (hrequest : isCanonicalIdentity command.request.requestId = true) (hfingerprint :
      nodeControlIntentFingerprint dumps command.actorId command.gatewayNodeId
      command.request = .ok fingerprint)
    (hexisting : existingAttempt dumps stores command.workspaceId
      command.request.requestId =
      .ok (some attempt))
    (hstored : attempt.intentFingerprint dumps = .ok fingerprint) :
    commitIntent dumps lifetime other draws' stores =
      .ok ((attempt, true), stores) := by
  unfold commitIntent
  rw [hrepeats.scopes, ok_bind, hrepeats.actor, hrepeats.gateway, hrepeats.request,
    hrepeats.workspace, translated_eq_ok.mpr hfingerprint, ok_bind,
    NodeControlAttemptStore.lockRequestId,
    requireNodeControlIdentifier_iff.mpr hworkspace, ok_bind,
    requireNodeControlIdentifier_iff.mpr hrequest, Except.mapError, ok_bind,
    hexisting, ok_bind]
  dsimp only
  rw [hstored, Except.mapError, ok_bind, NodeControlIntentFault.guard, if_pos (by simp)]
  rfl

/-! ## A new attempt -/

/-- What a target needs to be authorised: a node that declares the variable. -/
theorem authorizeGraphTarget_declares {graph : DeploymentGraph}
    {gatewayNodeId : NodeControlGraphReference .node}
    {request : NodeControlCommandRequest} {gateway : Node}
    (h : authorizeGraphTarget dumps graph gatewayNodeId request = .ok gateway) :
    ∃ node surface declared contract,
      graph.nodes[request.target.nodeId.value]? = some node ∧
      surface ∈ declaredSurfaces dumps node ∧
      surface.providerSocketName = request.target.providerSocketName ∧
      declared ∈ surface.declaredVariables ∧
      declared.variableName = request.variableName ∧
      declared.contractFor request.operation = .ok contract ∧
      contract.commandCodec = request.commandCodec := by
  unfold authorizeGraphTarget gatewayAndTarget at h
  simp only [bind_ok, present_eq_ok, Prod.exists] at h
  obtain ⟨named, node,
    ⟨gatewayNode, -, socket, -, target, htarget, targetSocket, -, u, -, hpair⟩,
    u', -, h⟩ := h
  cases hpair
  split at h
  · cases h
  · rename_i declared hdeclared
    simp only [bind_ok, translated_eq_ok, guard_eq_ok, decide_eq_true_eq] at h
    obtain ⟨contract, hcontract, u'', hcodec, -⟩ := h
    obtain ⟨surface, hsurface, hvariable⟩ := Option.bind_eq_some_iff.mp hdeclared
    have hsocket := List.find?_some hsurface
    have hname := List.find?_some hvariable
    exact ⟨node, surface, declared, contract, htarget,
      List.mem_of_find?_eq_some hsurface, of_decide_eq_true hsocket,
      List.mem_of_find?_eq_some hvariable, of_decide_eq_true hname, hcontract, hcodec⟩

/-- A key is read with the identity of its row. -/
theorem readRow_identity {row : SigningKeyRow} {key : RegisteredDelegationSigningKey}
    (h : SigningKeyTable.readRow sha256Hexdigest row = .ok key) :
    key.identity.registrationId = row.identity.registrationId ∧
      key.identity.scope = row.identity.scope ∧
      key.identity.privateKeyReference = row.identity.privateKeyReference ∧
      key.identity.keyId = row.identity.keyId := by
  unfold SigningKeyTable.readRow Rotation.delegationPublicKey at h
  simp only [bind_ok] at h
  obtain ⟨publicKey, ⟨⟨⟩, -, pem, -, hpure⟩, ⟨⟩, -, hkey⟩ := h
  cases hpure
  have hidentity := congrArg Rotation.SigningKeyColumns.identity
    (Rotation.registeredDelegationSigningKey_columns hkey)
  rw [hidentity]
  exact ⟨rfl, rfl, rfl, rfl⟩

/-- A selected key is an active row of its workspace. -/
theorem SelectsKey.row {workspaceId : String} {purpose : DelegationKeyPurpose}
    {key : RegisteredDelegationSigningKey}
    (h : SelectsKey stores.keys workspaceId purpose key)
    (hworkspace : attempt.workspaceId = workspaceId) :
    ∃ row, ActiveKey stores attempt purpose key.identity.registrationId
      key.identity.scope.issuer
        key.identity.keyId row ∧
      row.identity.privateKeyReference = key.identity.privateKeyReference := by
  obtain ⟨row, hmem, -, hscope, hpurpose, hactive, hread⟩ :=
    requireUnambiguousActive_ok h.active
  obtain ⟨hregistration, hsame, hreference, hkeyId⟩ := readRow_identity hread
  rw [hregistration, hsame, hkeyId]
  exact ⟨row, ⟨hmem, hactive, rfl, hscope.trans hworkspace.symm, hpurpose, rfl, rfl⟩,
    hreference.symm⟩

/-- An authorised use of a key is the one that was asked for, and is covered. -/
theorem authorizeKeyUse_covered {draws : IntentDraws}
    {key : RegisteredDelegationSigningKey} {intent : SecretUseIntent}
    {secrets later : SecretState} {authorized : AuthorizedSecretUse}
    (hsound : secrets.Sound) (hapart : KeyUseApart command draws key intent secrets)
    (h : authorizeKeyUse command draws key intent secrets = .ok (authorized, later)) :
    (∃ correlationId, authorized.toSecretUse =
        (keyUseCommand command draws key intent correlationId).toSecretUse) ∧
      later.toSecretRegistrations.Covered authorized.toSecretUse
        authorized.referenceRegistrationId
        authorized.providerRegistrationId := by
  obtain ⟨correlationId, provider, hcorrelation, hauthorized⟩ := authorizeKeyUse_ok h
  obtain ⟨huse, hcovered⟩ :=
    hsound.covered (hapart correlationId hcorrelation) hauthorized
  exact ⟨⟨correlationId, huse⟩, hcovered⟩

theorem requireTransitReference_named {value name : String} (other : String)
    (h : requireTransitReference value name = .ok ()) :
    requireTransitReference value other = .ok () := by
  unfold requireTransitReference at h ⊢
  rw [bind_ok] at h
  obtain ⟨violation, hviolation, h⟩ := h
  rw [hviolation, ok_bind]
  cases violation with
  | none => rfl
  | some violation => cases violation <;> cases h

theorem requireTransitIdentifier_named {value name : String} (other : String)
    (h : requireTransitIdentifier value name = .ok ()) :
    requireTransitIdentifier value other = .ok () := by
  unfold requireTransitIdentifier at h ⊢
  rw [bind_ok] at h
  obtain ⟨violation, hviolation, h⟩ := h
  rw [hviolation, ok_bind]
  cases violation with
  | none => rfl
  | some violation => cases violation <;> cases h

theorem requireReference_named {value name : String} (other : String)
    (h : requireReference value name = .ok ()) :
    requireReference value other = .ok () := by
  unfold requireReference requireReferenceAs at h ⊢
  rw [bind_ok] at h
  obtain ⟨violation, hviolation, h⟩ := h
  rw [hviolation, ok_bind]
  cases violation with
  | none => rfl
  | some violation => cases violation <;> cases h

theorem isEpoch_within {texts : WindowTexts} {window : GrantWindow} {now : Int}
    (h : window.check texts = .ok ()) (hissued : window.issuedAt ≤ now)
    (hexpires : now < window.expiresAt) : isEpoch now = true := by
  unfold GrantWindow.check at h
  simp only [check_bind_ok, requireWire_eq_ok, isEpoch, Bool.and_eq_true,
    decide_eq_true_eq] at h ⊢
  omega

section Grants

variable {transitKey workloadKey : RegisteredDelegationSigningKey} {drawn : IntentDraws}
  {digest : NodeControlRequestDigest} {audience : String}
  {transitGrant : DelegatedGatewayNodeControlTransitGrant}
  {workloadGrant : DelegatedWorkloadNodeControlGrant}

theorem UnsignedGrants.transitAccepted
    (h : UnsignedGrants lifetime command transitKey workloadKey
      drawn digest audience transitGrant workloadGrant) {now : Int}
    (hissued : transitGrant.issuedAt ≤ now) (hexpires : now < transitGrant.expiresAt) :
    verifyGatewayNodeControlTransitGrant dumps ⟨transitGrant.issuer, transitGrant.keyId,
      drawn.attemptId, transitGrant.gatewayNodeId,
      now⟩ (some transitGrant) command.request =
        .ok .accepted := by
  have hcheck := h.transitCheck
  obtain rfl := h.transit
  refine (verifyTransit_accepted hcheck).mpr ⟨?_, ?_, h.digested⟩
  · unfold DelegatedGatewayNodeControlTransitGrant.check at hcheck
    simp only [check_bind_ok] at hcheck
    obtain ⟨hissuer, hkeyId, hattempt, -, -, -, -, -, -, hwindow, -⟩ := hcheck
    unfold TransitGrantContext.check
    simp only [check_bind_ok, requireWire_eq_ok]
    exact ⟨requireTransitReference_named _ hissuer,
      requireTransitIdentifier_named _ hkeyId, requireTransitIdentifier_named
        _ hattempt, isEpoch_within hwindow hissued hexpires⟩
  · exact ⟨rfl, rfl, rfl, rfl, rfl, hissued, hexpires, rfl, rfl, rfl, rfl, rfl, rfl⟩

theorem UnsignedGrants.workloadAccepted
    (h : UnsignedGrants lifetime command transitKey workloadKey
      drawn digest audience transitGrant workloadGrant) {now : Int}
    (hissued : workloadGrant.issuedAt ≤ now)
    (hexpires : now < workloadGrant.expiresAt) :
    verifyWorkloadNodeControlGrant dumps
      ⟨workloadGrant.issuer, workloadGrant.audience, now⟩
      (some workloadGrant) command.request = .ok .accepted := by
  have hcheck := h.workloadCheck
  obtain rfl := h.workload
  refine verifyWorkload_accepted.mpr ⟨?_, ?_, h.digested⟩
  · unfold DelegatedWorkloadNodeControlGrant.check at hcheck
    simp only [check_bind_ok] at hcheck
    obtain ⟨hissuer, -, haudience, -, -, -, hwindow, -⟩ := hcheck
    unfold WorkloadGrantContext.check requireEpoch
    simp only [check_bind_ok, requireWire_eq_ok]
    exact ⟨requireReference_named _ hissuer, requireReference_named _ haudience,
      isEpoch_within hwindow hissued hexpires⟩
  · exact ⟨rfl, rfl, hissued, hexpires, rfl, rfl, rfl, rfl, rfl, rfl⟩

end Grants

variable {selected : SelectedAuthority} {transitUse workloadUse : AuthorizedSecretUse}

/-- **The grants of a new attempt are accepted** for its request in its window, and for
nothing else. -/
theorem Selects.accepted (hcanonical : Canonical dumps)
    (hselects : Selects lifetime stores command draws selected) :
    GrantsAccepted (attemptOf command selected transitUse workloadUse) dumps := by
  obtain ⟨digest, audience, hgrants⟩ := unsignedGrants_ok hselects.grants
  have htransit := hgrants.transit
  have hworkload := hgrants.workload
  refine ⟨?_, fun now => hgrants.transitAccepted,
    fun now => hgrants.workloadAccepted, ?_, ?_⟩
  · show selected.transitGrant.toGrantWindow = selected.workloadGrant.toGrantWindow
    rw [htransit, hworkload]
    rfl
  · intro context other h
    have hissued : selected.transitGrant.issuedAt =
        selected.transitGrant.notBefore := by
      rw [htransit]
      rfl
    have hdigest : selected.transitGrant.requestDigest = digest := by
      rw [htransit]
      rfl
    obtain ⟨-, hbound, hother⟩ := (verifyTransit_accepted hgrants.transitCheck).mp h
    refine ⟨hissued ▸ hbound.notBefore, hbound.expiresAt, fun hapart => ?_⟩
    exact NodeControlCommandRequest.same_of_digest hcanonical hapart hgrants.digested
      (hdigest ▸ hother)
  · intro context other h
    have hissued : selected.workloadGrant.issuedAt =
        selected.workloadGrant.notBefore := by
      rw [hworkload]
      rfl
    have hdigest : selected.workloadGrant.requestDigest = digest := by
      rw [hworkload]
      rfl
    obtain ⟨-, hbound, hother⟩ := verifyWorkload_accepted.mp h
    refine ⟨hissued ▸ hbound.notBefore, hbound.expiresAt, fun hapart => ?_⟩
    exact NodeControlCommandRequest.same_of_digest hcanonical hapart hgrants.digested
      (hdigest ▸ hother)

theorem Selects.targetsCurrent
    (hselects : Selects lifetime stores command draws selected) :
    TargetsCurrent stores
      (attemptOf command selected transitUse workloadUse) dumps := by
  obtain ⟨projection, hcurrent, gateway, hgateway, -⟩ := hselects.current
  obtain ⟨⟨row, hrow, hlineage⟩, hrevision, hprojection, hworkspace, hsource⟩ :=
    currentProjection_eq_ok.mp hcurrent
  obtain ⟨node, surface, declared, contract, hnode, hsurface, hsocket, hdeclared,
    hname, hcontract, hcodec⟩ := authorizeGraphTarget_declares hgateway
  have hsame : (attemptOf command selected transitUse workloadUse).workspaceId =
      command.workspaceId := hselects.workspace
  refine ⟨row, selected.lineage, projection, node, surface, declared,
    contract, ?_, hlineage, hrevision, rfl, rfl, hprojection,
    hworkspace.trans hsame.symm, hsource, hnode, hsurface, hsocket, hdeclared, hname,
    hcontract, hcodec⟩
  rw [hsame]
  exact hrow

/-- **Both keys of a new attempt are active, distinct and authorised.** -/
theorem Selects.keysAuthorised {afterTransit secrets : SecretState}
    (hsound : stores.secrets.Sound)
    (hselects : Selects lifetime stores command draws selected)
    (hselected : selectAuthority dumps lifetime stores command draws = .ok selected)
    (hapart : UsesApart lifetime stores command draws)
    (htransit : authorizeKeyUse command selected.draws selected.transitKey
      .gatewayNodeControlTransitSigningKey stores.secrets =
        .ok (transitUse, afterTransit))
    (hworkload : authorizeKeyUse command selected.draws selected.workloadKey
      .workloadNodeControlSigningKey afterTransit = .ok (workloadUse, secrets))
    (hafter : after.secrets = secrets) :
    KeysAuthorised stores after
      (attemptOf command selected transitUse workloadUse) := by
  obtain ⟨digest, audience, hgrants⟩ := unsignedGrants_ok hselects.grants
  obtain ⟨htransitKey, hworkloadKey, hdistinct⟩ := selectKeys_eq_ok.mp hselects.keys
  have hsame : (attemptOf command selected transitUse workloadUse).workspaceId =
      command.workspaceId := hselects.workspace
  obtain ⟨transitRow, htransitRow, htransitReference⟩ := htransitKey.row hsame
  obtain ⟨workloadRow, hworkloadRow, hworkloadReference⟩ := hworkloadKey.row hsame
  obtain ⟨hapartTransit, hapartWorkload⟩ := hapart selected hselected
  obtain ⟨hmid, -, -, htransitMem⟩ := authorizeKeyUse_grows hsound htransit
  obtain ⟨-, hregistrations, hgrown, hworkloadMem⟩ :=
    authorizeKeyUse_grows hmid hworkload
  obtain ⟨⟨correlation, htransitUse⟩, htransitCovered⟩ :=
    authorizeKeyUse_covered hsound hapartTransit htransit
  obtain ⟨⟨correlation', hworkloadUse⟩, hworkloadCovered⟩ :=
    authorizeKeyUse_covered hmid (hapartWorkload _ _ htransit) hworkload
  have htransitField {α : Type} (field : SecretUse → α) := congrArg field htransitUse
  have hworkloadField {α : Type} (field : SecretUse → α) := congrArg field hworkloadUse
  have hissuer : selected.transitGrant.issuer =
      selected.transitKey.identity.scope.issuer ∧
      selected.transitGrant.keyId = selected.transitKey.identity.keyId := by
    rw [hgrants.transit]
    exact ⟨rfl, rfl⟩
  have hissuer' : selected.workloadGrant.issuer =
      selected.workloadKey.identity.scope.issuer ∧
      selected.workloadGrant.keyId = selected.workloadKey.identity.keyId := by
    rw [hgrants.workload]
    exact ⟨rfl, rfl⟩
  refine ⟨transitRow, workloadRow, transitUse, workloadUse, ?_, ?_,
    hdistinct.registration, ?_, ?_⟩
  · rw [← hissuer.1, ← hissuer.2] at htransitRow
    exact htransitRow
  · rw [← hissuer'.1, ← hissuer'.2] at hworkloadRow
    exact hworkloadRow
  · refine ⟨hafter ▸ hgrown.subset htransitMem, rfl, rfl, ?_, ?_,
      htransitField (·.intent), htransitField (·.actorSubject),
      htransitField (·.operationId), ?_⟩
    · exact (htransitField (·.workspaceId)).trans hsame.symm
    · exact (htransitField (·.reference)).trans htransitReference.symm
    · rw [hafter, hregistrations]
      exact htransitCovered
  · refine ⟨hafter ▸ hworkloadMem, rfl, rfl, ?_, ?_, hworkloadField (·.intent),
      hworkloadField (·.actorSubject), hworkloadField (·.operationId), ?_⟩
    · exact (hworkloadField (·.workspaceId)).trans hsame.symm
    · exact (hworkloadField (·.reference)).trans hworkloadReference.symm
    · rw [hafter]
      exact hworkloadCovered

/-- What is written of a new attempt is what is read of it. -/
theorem Selects.decodesBack {float : String → PyFloat}
    (hlib : CanonicalLibrary dumps float)
    (hselects : Selects lifetime stores command draws selected) :
    DecodesBack (attemptOf command selected transitUse workloadUse) dumps float := by
  obtain ⟨digest, audience, hgrants⟩ := unsignedGrants_ok hselects.grants
  obtain ⟨encoded, decoded, hencoded, hdecoded, hsame, -⟩ :=
    decodeRequestBytes_canonicalBytes hlib command.constructible
  exact ⟨⟨encoded, decoded, hencoded, hdecoded, hsame⟩,
    decodeTransitGrantBytes_canonicalBytes hlib hgrants.transitCheck,
    decodeGrantBytes_canonicalBytes hlib hgrants.workloadCheck⟩

/-- **A command that commits a new attempt** leaves one of the moment. -/
theorem newAttempt_of_commit {float : String → PyFloat}
    (hlib : CanonicalLibrary dumps float) (hsound : stores.secrets.Sound)
    (hapart : UsesApart lifetime stores command draws)
    (h : commitIntent dumps lifetime command draws stores =
      .ok ((attempt, false), after)) :
    NewAttempt stores after command attempt float := by
  obtain ⟨-, -, -, fingerprint, -, ⟨⟨⟩, -⟩ | ⟨-, -, secrets, hnew, hadded⟩⟩ :=
    commitIntent_ok h
  obtain ⟨selected, transitUse, afterTransit, workloadUse, hselected, htransit,
      hworkload, rfl, -⟩ :=
    prepareNew_ok hnew
  obtain ⟨rfl, -⟩ := addAttempt_ok hadded
  have hselects := selectAuthority_eq_ok.mp hselected
  obtain ⟨digest, audience, hgrants⟩ := unsignedGrants_ok hselects.grants
  have hgateway : selected.transitGrant.gatewayNodeId = command.gatewayNodeId := by
    rw [hgrants.transit]
    rfl
  exact ⟨rfl, rfl, rfl, hgateway, hselects.workspace, hselects.targetsCurrent,
    hselects.keysAuthorised hsound hselected hapart htransit hworkload rfl,
    hselects.accepted hlib.canonical, hselects.decodesBack hlib⟩

/-- An active key and its authorised use are what a row is joined with. -/
theorem isJoined_of {purpose : DelegationKeyPurpose} {intent : SecretUseIntent}
    {registrationId issuer keyId authorizationId correlationId : String}
    {row : SigningKeyRow} {use : AuthorizedSecretUse}
    (hkey : ActiveKey stores attempt purpose registrationId issuer keyId row)
    (huse : AuthorisedUse after attempt intent authorizationId correlationId row use) :
    NodeControlAttemptStore.isJoined stores.keys after.secrets.uses attempt.workspaceId
      registrationId authorizationId issuer keyId attempt.actorSubject correlationId
      purpose intent =
        true := by
  refine List.any_eq_true.mpr ⟨row, hkey.stored, ?_⟩
  simp only [hkey.registered, hkey.workspace, hkey.purpose, hkey.issuer, hkey.keyId,
    decide_true, Bool.true_and]
  refine List.any_eq_true.mpr ⟨use, huse.stored, ?_⟩
  simp only [huse.named, huse.workspace, huse.intent, huse.actor, huse.correlated,
    huse.reference, decide_true, Bool.and_self]

theorem KeysAuthorised.joins (h : KeysAuthorised stores after attempt) :
    NodeControlAttemptStore.joins stores.keys after.secrets.uses attempt = true := by
  obtain ⟨transitRow, workloadRow, transitUse, workloadUse, htransitKey,
    hworkloadKey, -, htransitUse, hworkloadUse⟩ := h
  rw [NodeControlAttemptStore.joins, isJoined_of htransitKey htransitUse,
    isJoined_of hworkloadKey hworkloadUse]
  rfl

/-- **What a command has answered is stored**, and read back under its request. -/
theorem commitIntent_stored (hsound : stores.secrets.Sound)
    (hapart : replayed = false → UsesApart lifetime stores command draws)
    (h : commitIntent dumps lifetime command draws stores =
      .ok ((attempt, replayed), after)) :
    existingAttempt dumps after command.workspaceId command.request.requestId =
      .ok (some attempt) ∧
      attempt.intentFingerprint dumps =
        nodeControlIntentFingerprint dumps command.actorId command.gatewayNodeId
          command.request := by
  have hcheck := commitIntent_checked h
  obtain ⟨-, hworkspace, hrequest, fingerprint, hfingerprint, ⟨-, rfl, hexisting,
    hstored⟩ | ⟨rfl, hnone, secrets, hnew, hadded⟩⟩ := commitIntent_ok h
  · exact ⟨hexisting, hstored.trans hfingerprint.symm⟩
  · obtain ⟨selected, transitUse, afterTransit, workloadUse, hselected, htransit,
        hworkload, rfl, -⟩ :=
      prepareNew_ok hnew
    obtain ⟨rfl, -⟩ := addAttempt_ok hadded
    have hselects := selectAuthority_eq_ok.mp hselected
    obtain ⟨digest, audience, hgrants⟩ := unsignedGrants_ok hselects.grants
    have hkeys : KeysAuthorised stores { stores with secrets }
        (attemptOf command selected transitUse workloadUse) :=
      hselects.keysAuthorised hsound hselected (hapart rfl) htransit hworkload rfl
    have hjoins := hkeys.joins
    have hsame : (attemptOf command selected transitUse workloadUse).workspaceId =
        command.workspaceId := hselects.workspace
    have hfree := existingAttempt_eq_none hworkspace hrequest hnone
    refine ⟨(existingAttempt_eq_some hworkspace hrequest).mpr
      ⟨⟨_, true⟩, ?_, rfl, rfl, hjoins, hcheck⟩, ?_⟩
    · rw [NodeControlAttemptStore.selectRequest] at hfree ⊢
      rw [List.find?_append, hfree, Option.none_or, List.find?_singleton]
      refine if_pos ?_
      rw [Bool.and_eq_true, decide_eq_true_eq, decide_eq_true_eq]
      exact ⟨hsame, rfl⟩
    · have hgateway : selected.transitGrant.gatewayNodeId = command.gatewayNodeId := by
        rw [hgrants.transit]
        rfl
      exact congrArg
        (nodeControlIntentFingerprint dumps command.actorId · command.request) hgateway

end Steps

/-! ## Runs -/

/-- **A node-control intent is retained once.**  After any steps from a sound start, a
request has at most one attempt; a refused command leaves the stores as they were; a
command that is answered either found its attempt and wrote nothing, or committed one
that targets the current graph under two distinct active keys, with grants for exactly
its request in one window and both uses authorised; and whatever runs afterwards, the
same actor who asks the same again is answered with the same attempt, and nothing is
written. -/
theorem intents_retained_once (dumps : CanonicalJson) (float : String → PyFloat)
    (hlib : CanonicalLibrary dumps float) (lifetime : GrantLifetime)
    (start : NodeControlStores) (hstart : start.Sound)
    (steps : List (IntentStep dumps)) :
    ((start.afterSteps dumps lifetime steps).attempts.map (·.requestIdentity)).Nodup ∧
      ∀ (command : RequestNodeControlIntent dumps) (draws : Option IntentDraws),
        let stores := start.afterSteps dumps lifetime steps
        (∀ fault, executeIntent dumps lifetime command draws stores = .error fault →
          settle (NodeControlStores.transaction dumps lifetime) stores
            (.intent command draws) =
            stores) ∧
        ∀ prepared after,
          executeIntent dumps lifetime command draws stores = .ok (prepared, after) →
            settle (NodeControlStores.transaction dumps lifetime) stores
              (.intent command draws) =
                after ∧
              (prepared.replayed = true → after = stores) ∧
              ((prepared.replayed = false → UsesApart lifetime stores command draws) →
                (prepared.replayed = false →
                  NewAttempt stores after command prepared.attempt float) ∧
                  ∀ (between : List (IntentStep dumps))
                    (other : RequestNodeControlIntent dumps)
                    (draws' : Option IntentDraws), Repeats command other →
                    executeIntent dumps lifetime other draws'
                        (after.afterSteps dumps lifetime between) =
                      .ok ({ prepared with replayed := true },
                        after.afterSteps dumps lifetime between)) := by
  have hsound := @sound_afterSteps dumps lifetime _ hstart steps
  refine ⟨hsound.requests, fun command draws =>
    ⟨fun fault h => ?_, fun prepared after h => ?_⟩⟩
  · refine settle_error (e := fault) ?_
    rw [NodeControlStores.transaction, executeIntent_error h]
    rfl
  · obtain ⟨attempt, replayed, hcommit, rfl⟩ := executeIntent_ok.mp h
    have htransaction : NodeControlStores.transaction dumps lifetime (.intent command
        draws) (start.afterSteps dumps lifetime steps) = .ok ((), after) := by
      rw [NodeControlStores.transaction, hcommit]
      rfl
    refine ⟨settle_ok htransaction, fun hreplayed => ?_, fun hapart =>
      ⟨fun hnew => ?_, ?_⟩⟩
    · obtain ⟨-, -, -, -, -, ⟨-, rfl, -⟩ | ⟨hfresh, -⟩⟩ := commitIntent_ok hcommit
      · rfl
      · rw [preparationOf, hfresh] at hreplayed
        cases hreplayed
    · obtain rfl : replayed = false := hnew
      exact newAttempt_of_commit hlib hsound.secrets (hapart rfl) hcommit
    · intro between other draws' hrepeats
      obtain ⟨hexisting, hstored⟩ := commitIntent_stored hsound.secrets hapart hcommit
      obtain ⟨-, hworkspace, hrequest, fingerprint, hfingerprint, -⟩ :=
        commitIntent_ok hcommit
      have hgrows := @grows_afterSteps dumps lifetime
        _ (transaction_keeps hsound htransaction).1 between
      obtain ⟨row, hrow, rfl, hread⟩ :=
        (existingAttempt_eq_some hworkspace hrequest).mp hexisting
      have hlater := (existingAttempt_eq_some hworkspace hrequest).mpr
        ⟨row, selectRequest_grows hgrows hrow, rfl, hread.grows hgrows⟩
      exact executeIntent_ok.mpr ⟨row.attempt, true, commitIntent_again hrepeats
        hworkspace hrequest hfingerprint hlater (hstored.trans hfingerprint), rfl⟩

/-! ## A route that is asked for twice

The graph is there only after a step.  The intent to set its weights is committed, the
graph is withdrawn again and the provider of its keys revoked; the repetition is
answered all the same. -/

/-- The stores of the route before its graph is there. -/
def unroutedStores : NodeControlStores :=
  { routedStores "host-1" [] with workspaces := [], projections := [] }

theorem unroutedStores_sound : unroutedStores.Sound where
  secrets := {
    registrations := routedRegistrations_sound
    correlations := List.nodup_nil
    named _ huse := absurd huse List.not_mem_nil
    admitted _ huse := absurd huse List.not_mem_nil }
  requests := List.nodup_nil

/-- The graph arrives. -/
def routeArrives : IntentStep jcsJson :=
  .advanceGraph (routedStores "host-1" []).workspaces
    (routedStores "host-1" []).projections

/-- The graph goes, and the provider of both keys is revoked. -/
def routeWithdrawn : List (IntentStep jcsJson) :=
  [ .advanceGraph [] []
  , .secret (.registration (.revokeProvider
      ⟨"a", "p", "a", "2025-01-02T00:00:00Z", [.secretProviderRevoke]⟩)) ]

theorem routeArrives_eq :
    unroutedStores.afterSteps jcsJson minuteLifetime
      [routeArrives] = routedStores "host-1" [] :=
  rfl

/-- SHA-256 tells the use of the workload's key from the stored use of the transit
key. -/
theorem workloadUse_apart (runtimeId : String) :
    KeyUseApart routeIntent routeDraws workloadKey .workloadNodeControlSigningKey
      (routedStores runtimeId [transitUse]).secrets := by
  intro correlationId hcorrelated use huse reference hreference provider hprovider hsame
  rw [routeWorkload_correlated] at hcorrelated
  cases hcorrelated
  obtain rfl := List.mem_singleton.mp huse
  obtain rfl := List.mem_singleton.mp hprovider
  rcases List.mem_cons.mp hreference with rfl | hreference
  · exact absurd hsame (routedDocuments_apart 1 (List.mem_cons_self ..))
  · obtain rfl := List.mem_singleton.mp hreference
    exact absurd hsame
      (routedDocuments_apart 2 (List.mem_cons_of_mem _ (List.mem_singleton_self _)))

/-- SHA-256 tells the uses of the route apart. -/
theorem routeUses_apart (runtimeId : String) :
    UsesApart minuteLifetime (routedStores runtimeId []) routeIntent
      (some routeDraws) := by
  intro selected hselected
  obtain ⟨rows, hrows, -, -, htransitKey, hworkloadKey⟩ :=
    (selectAuthority_eq_ok.mp hselected).held
  have hdrawn : selected.draws = routeDraws :=
    (Option.some.inj (selectAuthority_eq_ok.mp hselected).drawn).symm
  rw [hdrawn] at hrows ⊢
  obtain rfl := hrows.unique (routedRows_held runtimeId [])
  rw [← htransitKey, ← hworkloadKey]
  refine ⟨fun _ _ use huse => absurd huse List.not_mem_nil,
    fun authorized after hauthorized => ?_⟩
  obtain ⟨hgranted, hstored⟩ := transitUse_granted runtimeId [] (.inl rfl)
  obtain ⟨authorized', hauthorized'⟩ :=
    authorizeKeyUse_of_candidate hgranted.asked hgranted.free hgranted.fits
  have hafter : after = (routedStores runtimeId [transitUse]).secrets := by
    rw [show (routedStores runtimeId []).secrets.uses = [] from rfl,
      hstored] at hauthorized'
    exact (Prod.mk.inj (Except.ok.inj (hauthorized.symm.trans hauthorized'))).2
  rw [hafter]
  exact workloadUse_apart runtimeId

/-- The route is answered with a new attempt. -/
theorem routeIntent_answered :
    ∃ prepared after, executeIntent jcsJson minuteLifetime routeIntent
    (some routeDraws) (routedStores "host-1" []) = .ok (prepared, after) ∧
      prepared.replayed = false := by
  obtain ⟨htransit, hworkload⟩ := routedUses_granted "host-1" [] (.inl rfl)
  have hscopes : requireScopes routeIntent = .ok () := by decide
  have hactor : isActorSubject routeIntent.actorId = true := by decide
  have hnamed : isCanonicalIdentity "a" = true ∧ isCanonicalIdentity "p" = true ∧
      isCanonicalIdentity "host-1" = true := by decide
  exact (routedRows_held "host-1" []).answered jcsJson_texts
    (routedStores_checked "host-1" [] (.inl rfl)) hscopes hactor hnamed.1
    hnamed.2.1 hnamed.2.2
    htransit hworkload rfl (fun row hrow => absurd hrow List.not_mem_nil)

/-- **The route is committed once**, of the moment, and its repetition by the same actor
is answered with the same attempt after the graph and the provider are gone. -/
theorem intents_retained_once_route : ∃ prepared after,
    executeIntent jcsJson minuteLifetime routeIntent (some routeDraws)
        (unroutedStores.afterSteps jcsJson minuteLifetime [routeArrives]) =
      .ok (prepared, after) ∧ prepared.replayed = false ∧
    NewAttempt (routedStores "host-1" []) after routeIntent
      prepared.attempt tokenFloat ∧
    executeIntent jcsJson minuteLifetime routeIntent none
        (after.afterSteps jcsJson minuteLifetime routeWithdrawn) =
      .ok ({ prepared with replayed := true },
        after.afterSteps jcsJson minuteLifetime routeWithdrawn) := by
  obtain ⟨prepared, after, hanswered, hnew⟩ := routeIntent_answered
  have hscopes : requireScopes routeIntent = .ok () := by decide
  rw [← routeArrives_eq] at hanswered
  obtain ⟨-, hcommands⟩ := intents_retained_once jcsJson tokenFloat jcsJson_canonical
    minuteLifetime unroutedStores unroutedStores_sound [routeArrives]
  obtain ⟨-, -, hretained⟩ :=
    (hcommands routeIntent (some routeDraws)).2 prepared after hanswered
  obtain ⟨hattempt, hagain⟩ := hretained fun _ => routeUses_apart "host-1"
  exact ⟨prepared, after, hanswered, hnew, hattempt hnew,
    hagain routeWithdrawn routeIntent none ⟨rfl, rfl, rfl, rfl, hscopes⟩⟩

end ControlPlaneKit.NodeControl
