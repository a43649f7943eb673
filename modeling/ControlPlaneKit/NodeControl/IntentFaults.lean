import ControlPlaneKit.NodeControl.IntentRows

/-!
# IntentFaults — when an intent fails with an error of its own

The service lets an error of an inner layer through in three places.  A command whose
workspace is no canonical identity meets the lock; a use whose identity is taken meets
the key of its table; and an attempt is refused by its own constructor when the
gateway's runtime or the realized projection has a name that no other layer checks.
-/

namespace ControlPlaneKit.NodeControl

open ControlPlaneKit.Library (PyValue)
open ControlPlaneKit.Library.EventFold (bind_ok)
open ControlPlaneKit.Library.Outcome (ErrorsIn map_eq_ok ok_bind)
open ControlPlaneKit.Library.Text (isCanonicalIdentity)
open ControlPlaneKit.Operations
open ControlPlaneKit.Rotation (RegisteredDelegationSigningKey)
open ControlPlaneKit.Topology (DeploymentGraph Node SecretUseIntent)
open NodeControlIntentFault (IsIntentError)

section Service

variable {dumps : CanonicalJson} {lifetime : GrantLifetime} {stores : NodeControlStores}
  {command : RequestNodeControlIntent dumps} {draws : Option IntentDraws}

/-! ## The store of attempts -/

theorem command_requestId (htexts : CanonicalTexts dumps) :
    isCanonicalIdentity command.request.requestId = true :=
  canonicalIdentity_of_isIdentifier (request_bounded htexts command.constructible).2.1

/-- **The lock refuses a workspace that is no canonical identity**, by its own error. -/
theorem lock_errors_iff (htexts : CanonicalTexts dumps) :
    ErrorsIn IsIntentError ((NodeControlAttemptStore.lockRequestId command.workspaceId
        command.request.requestId).mapError .attempt) ↔
      isCanonicalIdentity command.workspaceId = true := by
  have hrequest := @command_requestId dumps command htexts
  by_cases hworkspace : isCanonicalIdentity command.workspaceId = true
  · refine iff_of_true ?_ hworkspace
    rw [NodeControlAttemptStore.lockRequestId,
      requireNodeControlIdentifier_iff.mpr hworkspace, ok_bind,
      requireNodeControlIdentifier_iff.mpr hrequest]
    exact ErrorsIn.ok ()
  · refine iff_of_false (fun h => ?_) hworkspace
    rw [NodeControlAttemptStore.lockRequestId,
      NodeControlAttemptStore.requireNodeControlIdentifier, if_neg hworkspace] at h
    exact h _ rfl

/-! ## Replays -/

theorem preparation_errors {attempt : NodeControlIntendedAttempt} {replayed : Bool} :
    ErrorsIn IsIntentError (preparation attempt replayed) := by
  refine ErrorsIn.bind
    (ErrorsIn.bind (guard_errors trivial) fun _ _ => ErrorsIn.ok _) fun _ _ => ?_
  refine ErrorsIn.bind
    (ErrorsIn.bind (guard_errors trivial) fun _ _ => ErrorsIn.ok _) fun _ _ => ?_
  exact ErrorsIn.ok _

theorem addAttempt_errors {attempt : NodeControlIntendedAttempt}
    {secrets : SecretState} :
    ErrorsIn IsIntentError (addAttempt stores attempt secrets) := by
  unfold addAttempt
  split
  · exact ErrorsIn.ok _
  · exact ErrorsIn.error trivial
  · exact ErrorsIn.error trivial

/-- An attempt that is read back answers the command, or conflicts with it. -/
theorem replay_errors (htexts : CanonicalTexts dumps)
    {attempt : NodeControlIntendedAttempt} (hcheck : attempt.check dumps = .ok ())
    {fingerprint : String} : ErrorsIn IsIntentError (do
      let stored ← (attempt.intentFingerprint dumps).mapError .attempt
      NodeControlIntentFault.guard (stored = fingerprint)
        (.conflict "node-control request identity conflicts with durable intent")
      let prepared ← preparation attempt true
      return (prepared, stores)) := by
  obtain ⟨stored, hstored⟩ := attempt_fingerprint htexts hcheck
  rw [hstored]
  refine ErrorsIn.bind (ErrorsIn.ok stored) fun _ _ => ?_
  refine ErrorsIn.bind (guard_errors trivial) fun _ _ => ?_
  exact ErrorsIn.bind preparation_errors fun _ _ => ErrorsIn.ok _

/-! ## New attempts -/

/-- The identity of neither use is taken, and where both fit their correlations, the
projection and the gateway's runtime have canonical identities. -/
def IntentRows.UsesBounded (rows : IntentRows) (stores : NodeControlStores)
    (command : RequestNodeControlIntent dumps) (drawn : IntentDraws) : Prop :=
  ∀ transit, KeyCandidate command drawn rows.transitKey
    .gatewayNodeControlTransitSigningKey stores.secrets.toSecretRegistrations transit →
    ¬ IdentityTaken stores.secrets.uses transit ∧
    (CorrelationFits stores.secrets.uses transit →
      ∀ workload, KeyCandidate command drawn rows.workloadKey
        .workloadNodeControlSigningKey stores.secrets.toSecretRegistrations workload →
        ¬ IdentityTaken (usesWith stores.secrets.uses transit) workload ∧
          (CorrelationFits (usesWith stores.secrets.uses transit) workload →
            isCanonicalIdentity rows.lineage.realizedProjectionId = true ∧
              isCanonicalIdentity rows.gateway.runtimeId = true))

/-- Whatever rows the stores hold for the command, its uses are bounded. -/
def PreparesBounded (lifetime : GrantLifetime) (stores : NodeControlStores)
    (command : RequestNodeControlIntent dumps) (draws : Option IntentDraws) : Prop :=
  ∀ (rows : IntentRows) (drawn : IntentDraws), draws = some drawn →
    rows.Held lifetime stores command drawn → rows.UsesBounded stores command drawn

theorem attemptFault_errors_iff {α : Type} {x : Except NodeControlAttemptError α} :
    ErrorsIn IsIntentError (x.mapError .attempt) ↔ ∃ a, x = .ok a := by
  cases x with
  | ok a => exact iff_of_true (ErrorsIn.ok a) ⟨a, rfl⟩
  | error e =>
      refine iff_of_false (fun h => h _ rfl) ?_
      rintro ⟨a, ⟨⟩⟩

/-- **After the selection** the service fails with its own errors only exactly when the
uses of the selected rows are bounded. -/
theorem selected_errors_iff (htexts : CanonicalTexts dumps)
    (htables : TableChecks stores) (hactor : isActorSubject command.actorId = true)
    {selected : SelectedAuthority}
    (hselects : Selects lifetime stores command draws selected) {rows : IntentRows}
    (hlineage : rows.lineage = selected.lineage)
    (hruntime : rows.gateway.runtimeId = selected.gatewayRuntimeId)
    (htransitKey : rows.transitKey = selected.transitKey)
    (hworkloadKey : rows.workloadKey = selected.workloadKey) :
    ErrorsIn IsIntentError (do
        let (transitUse, afterTransit) ← authorizeKeyUse command selected.draws
          selected.transitKey .gatewayNodeControlTransitSigningKey stores.secrets
        let (workloadUse, afterWorkload) ← authorizeKeyUse command selected.draws
          selected.workloadKey .workloadNodeControlSigningKey afterTransit
        let attempt := attemptOf command selected transitUse workloadUse
        (attempt.check dumps).mapError .attempt
        return (attempt, afterWorkload)) ↔
      rows.UsesBounded stores command selected.draws := by
  have hworkspace :=
    ((selectKeys_eq_ok.mp hselects.keys).1.identified htables.keys).workspace
  unfold IntentRows.UsesBounded
  rw [hlineage, hruntime, htransitKey, hworkloadKey]
  refine keyUse_errors_iff (P := fun secrets => ∀ workload,
      KeyCandidate command selected.draws selected.workloadKey
        .workloadNodeControlSigningKey secrets.toSecretRegistrations workload →
      ¬ IdentityTaken secrets.uses workload ∧ (CorrelationFits secrets.uses workload →
        isCanonicalIdentity selected.lineage.realizedProjectionId = true ∧
          isCanonicalIdentity selected.gatewayRuntimeId = true))
    (keyUse_correlated hworkspace hactor) fun transitUse afterTransit htransit => ?_
  obtain ⟨htransitUse, hnamed⟩ := authorizeKeyUse_identified htables.uses htransit
  refine keyUse_errors_iff (P := fun _ =>
      isCanonicalIdentity selected.lineage.realizedProjectionId = true ∧
        isCanonicalIdentity selected.gatewayRuntimeId = true)
    (keyUse_correlated hworkspace hactor) fun workloadUse afterWorkload hworkload => ?_
  obtain ⟨hworkloadUse, -⟩ := authorizeKeyUse_identified hnamed hworkload
  dsimp only
  rw [ErrorsIn.bind_iff, attemptFault_errors_iff,
    ← attempt_check_iff htexts htables hselects hactor htransitUse hworkloadUse]
  constructor
  · rintro ⟨⟨⟨⟩, hcheck⟩, -⟩
    exact hcheck
  · exact fun hcheck => ⟨⟨(), hcheck⟩, fun _ _ => ErrorsIn.ok _⟩

/-- **Preparing a new attempt lets an inner error through** exactly when the identity of
a use is taken, or an identity of the stored graph is not canonical. -/
theorem prepareNew_errors_iff (htexts : CanonicalTexts dumps)
    (htables : TableChecks stores) (hactor : isActorSubject command.actorId = true) :
    ErrorsIn IsIntentError (prepareNew dumps lifetime stores command draws) ↔
      PreparesBounded lifetime stores command draws := by
  unfold prepareNew PreparesBounded
  rw [ErrorsIn.bind_iff, and_iff_right selectAuthority_errors]
  simp only [selectAuthority_eq_ok]
  constructor
  · rintro h rows drawn rfl hheld
    obtain ⟨selected, hselects, rfl, hlineage, hruntime, htransit, hworkload⟩ :=
      hheld.selects
    exact (selected_errors_iff htexts htables hactor hselects hlineage.symm
      hruntime.symm htransit.symm hworkload.symm).mp (h selected hselects)
  · intro h selected hselects
    obtain ⟨rows, hheld, hlineage, hruntime, htransit, hworkload⟩ := hselects.held
    exact (selected_errors_iff htexts htables hactor hselects hlineage hruntime htransit
      hworkload).mpr (h rows selected.draws hselects.drawn hheld)

/-! ## The service -/

/-- The workspace is a canonical identity, and a request that is not stored yet is
prepared without an inner error; both only where the command gets that far. -/
def IntentBounded (lifetime : GrantLifetime) (stores : NodeControlStores)
    (command : RequestNodeControlIntent dumps) (draws : Option IntentDraws) : Prop :=
  requireScopes command = .ok () → isActorSubject command.actorId = true →
    isCanonicalIdentity command.workspaceId = true ∧
      (NodeControlAttemptStore.selectRequest stores.attempts command.workspaceId
          command.request.requestId = none →
        PreparesBounded lifetime stores command draws)

/-- A check, and what follows where it passes. -/
theorem check_errors_iff {α ε : Type} {P : ε → Prop} {x : Except ε Unit}
    {y : Except ε α} :
    ErrorsIn P (x >>= fun _ => y) ↔ ErrorsIn P x ∧ (x = .ok () → ErrorsIn P y) :=
  ErrorsIn.bind_iff.trans (and_congr_right fun _ => ⟨fun h => h (), fun h _ => h⟩)

/-- After the fingerprint, whatever it is. -/
theorem locked_errors_iff (htexts : CanonicalTexts dumps) (htables : TableChecks stores)
    (hactor : isActorSubject command.actorId = true) {fingerprint : String} :
    ErrorsIn IsIntentError (do
        (NodeControlAttemptStore.lockRequestId command.workspaceId
          command.request.requestId).mapError .attempt
        let existing ← existingAttempt dumps stores command.workspaceId
          command.request.requestId
        match existing with
        | some attempt => do
            let stored ← (attempt.intentFingerprint dumps).mapError .attempt
            NodeControlIntentFault.guard (stored = fingerprint)
              (.conflict "node-control request identity conflicts with durable intent")
            let prepared ← preparation attempt true
            return (prepared, stores)
        | none => do
            let (attempt, secrets) ← prepareNew dumps lifetime stores command draws
            let after ← addAttempt stores attempt secrets
            let prepared ← preparation attempt false
            return (prepared, after)) ↔
      isCanonicalIdentity command.workspaceId = true ∧
        (NodeControlAttemptStore.selectRequest stores.attempts command.workspaceId
            command.request.requestId = none →
          PreparesBounded lifetime stores command draws) := by
  rw [check_errors_iff, lock_errors_iff htexts]
  refine and_congr_right fun hworkspace => ?_
  rw [existingAttempt_eq hworkspace (command_requestId htexts)]
  have hlocked : (NodeControlAttemptStore.lockRequestId command.workspaceId
      command.request.requestId).mapError NodeControlIntentFault.attempt = .ok () := by
    rw [NodeControlAttemptStore.lockRequestId,
      requireNodeControlIdentifier_iff.mpr hworkspace, ok_bind,
      requireNodeControlIdentifier_iff.mpr (command_requestId htexts)]
    rfl
  rw [forall_prop_of_true hlocked]
  cases hrow : NodeControlAttemptStore.selectRequest stores.attempts command.workspaceId
      command.request.requestId with
  | some row =>
      refine iff_of_true ?_ fun hnone => absurd hnone (Option.some_ne_none row)
      dsimp only
      split
      · rename_i hread
        simp only [Bool.and_eq_true, decide_eq_true_eq] at hread
        exact replay_errors htexts hread.2
      · exact ErrorsIn.error trivial
  | none =>
      rw [forall_prop_of_true rfl, ← prepareNew_errors_iff htexts htables hactor]
      dsimp only
      rw [ok_bind]
      dsimp only
      rw [ErrorsIn.bind_iff]
      refine and_iff_left fun prepared _ =>
        ErrorsIn.bind addAttempt_errors fun _ _ => ?_
      exact ErrorsIn.bind preparation_errors fun _ _ => ErrorsIn.ok _

/-- Where both uses are granted, they are bounded exactly when the projection and the
gateway's runtime have canonical identities. -/
theorem IntentRows.usesBounded_iff_of_granted {rows : IntentRows} {drawn : IntentDraws}
    {transit workload : AuthorizedSecretUse}
    (htransit : UseGranted command drawn rows.transitKey
      .gatewayNodeControlTransitSigningKey
      stores.secrets transit)
    (hworkload : UseGranted command drawn rows.workloadKey
      .workloadNodeControlSigningKey
      { stores.secrets with uses := usesWith stores.secrets.uses transit } workload) :
    rows.UsesBounded stores command drawn ↔
      isCanonicalIdentity rows.lineage.realizedProjectionId = true ∧
        isCanonicalIdentity rows.gateway.runtimeId = true := by
  constructor
  · intro h
    exact ((h transit htransit.asked).2 htransit.fits workload hworkload.asked).2
      hworkload.fits
  · intro hcanonical use huse
    obtain rfl := htransit.asked.unique huse
    refine ⟨htransit.free, fun _ use' huse' => ?_⟩
    obtain rfl := hworkload.asked.unique huse'
    exact ⟨hworkload.free, fun _ => hcanonical⟩

/-- A command whose rows are held and whose uses are granted meets an inner error
exactly when its workspace, the projection or the gateway's runtime has no canonical
identity. -/
theorem IntentRows.Held.bounded_iff {rows : IntentRows} {drawn : IntentDraws}
    {transit workload : AuthorizedSecretUse}
    (hheld : rows.Held lifetime stores command drawn)
    (hscopes : requireScopes command = .ok ())
    (hactor : isActorSubject command.actorId = true)
    (hnew : NodeControlAttemptStore.selectRequest stores.attempts command.workspaceId
      command.request.requestId = none)
    (htransit : UseGranted command drawn rows.transitKey
      .gatewayNodeControlTransitSigningKey
      stores.secrets transit)
    (hworkload : UseGranted command drawn rows.workloadKey
      .workloadNodeControlSigningKey
      { stores.secrets with uses := usesWith stores.secrets.uses transit } workload) :
    IntentBounded lifetime stores command (some drawn) ↔
      isCanonicalIdentity command.workspaceId = true ∧
        isCanonicalIdentity rows.lineage.realizedProjectionId = true ∧
          isCanonicalIdentity rows.gateway.runtimeId = true := by
  rw [IntentBounded, forall_prop_of_true hscopes, forall_prop_of_true hactor,
    forall_prop_of_true hnew, ← IntentRows.usesBounded_iff_of_granted
      htransit hworkload]
  refine and_congr_right fun _ => ⟨fun h => h rows drawn rfl hheld, ?_⟩
  rintro hbounded other _ ⟨⟩ hother
  exact hheld.unique hother ▸ hbounded

/-- **Preparing an intent fails closed but for three inner errors**: exactly when the
command's workspace is a canonical identity, the identity of no use is taken, and the
gateway's runtime and the realized projection have canonical identities, every error is
the service's own. -/
theorem executeIntent_bounded_iff (dumps : CanonicalJson) (lifetime : GrantLifetime)
    (stores : NodeControlStores) (command : RequestNodeControlIntent dumps)
    (draws : Option IntentDraws) (htexts : CanonicalTexts dumps)
    (htables : TableChecks stores) :
    (∀ fault, executeIntent dumps lifetime command draws stores = .error fault →
        fault.IsIntentError) ↔
      IntentBounded lifetime stores command draws := by
  change ErrorsIn IsIntentError _ ↔ _
  unfold executeIntent IntentBounded
  rw [check_errors_iff, and_iff_right requireScopes_errors]
  refine forall_congr' fun _ => ?_
  have hidentity : NodeControlIntentFault.IsIntentError
      (.base "node-control intent identity is malformed") := trivial
  have hfingerprints := @command_fingerprint dumps command htexts
  rw [ErrorsIn.bind_iff, and_iff_right (translated_errors hidentity), ← hfingerprints]
  constructor
  · rintro h ⟨fingerprint, hfingerprint⟩
    have hactor := (command_fingerprint htexts).mp ⟨fingerprint, hfingerprint⟩
    exact (locked_errors_iff htexts htables hactor).mp
      (h fingerprint (translated_eq_ok.mpr hfingerprint))
  · intro h fingerprint hfingerprint
    have hfound := translated_eq_ok.mp hfingerprint
    have hactor := (command_fingerprint htexts).mp ⟨fingerprint, hfound⟩
    exact (locked_errors_iff htexts htables hactor).mpr (h ⟨fingerprint, hfound⟩)

end Service

/-! ## Runtimes of one word and of two

One workspace, its stores filled for the command and the transit use among them: the
runtime of the gateway decides whether the attempt is refused by its own constructor. -/

theorem routedIntent_bounded_iff (runtimeId : String) :
    IntentBounded minuteLifetime (routedStores runtimeId [transitUse]) routeIntent
        (some routeDraws) ↔ isCanonicalIdentity runtimeId = true := by
  have hscopes : requireScopes routeIntent = .ok () := by decide
  have hactor : isActorSubject routeIntent.actorId = true := by decide
  have hnamed : isCanonicalIdentity routeIntent.workspaceId = true ∧
      isCanonicalIdentity "p" = true := by
    decide
  obtain ⟨htransit, hworkload⟩ := routedUses_granted runtimeId [transitUse] (.inr rfl)
  rw [(routedRows_held runtimeId [transitUse]).bounded_iff hscopes hactor rfl htransit
    hworkload, and_iff_right hnamed.1]
  exact and_iff_right hnamed.2

/-- Every error is the service's own where the runtime is a canonical identity, and one
is not where it is two words. -/
theorem executeIntent_bounded_routed :
    (∀ fault, executeIntent jcsJson minuteLifetime routeIntent (some routeDraws)
        (routedStores "host-1" [transitUse]) = .error fault → fault.IsIntentError) ∧
      ¬ ∀ fault, executeIntent jcsJson minuteLifetime routeIntent (some routeDraws)
        (routedStores "host one" [transitUse]) = .error fault →
        fault.IsIntentError := by
  have hiff := fun runtimeId => executeIntent_bounded_iff jcsJson minuteLifetime
    (routedStores runtimeId [transitUse]) routeIntent (some routeDraws) jcsJson_texts
    (routedStores_checked runtimeId [transitUse] (.inr rfl))
  constructor
  · exact (hiff "host-1").mpr ((routedIntent_bounded_iff "host-1").mpr (by decide))
  · rw [hiff "host one", routedIntent_bounded_iff "host one"]
    decide

/-! ## A workspace of two words

The commands' context asks of a workspace that it is not blank.  The lock on the
request's identity asks for more, and raises before the workspace is looked up. -/

/-- The route, asked for in a workspace of two words. -/
def twoWordsIntent : RequestNodeControlIntent jcsJson :=
  { routeIntent with workspaceId := "team one" }

/-- **The lock's own error leaves the service.** -/
theorem twoWords_escape :
    executeIntent jcsJson minuteLifetime twoWordsIntent none emptyStores =
        .error (.attempt (.malformed "node-control attempt selector is malformed")) ∧
      ¬ NodeControlIntentFault.IsIntentError
        (.attempt (.malformed "node-control attempt selector is malformed")) := by
  refine ⟨?_, id⟩
  obtain ⟨fingerprint, hfingerprint⟩ := (command_fingerprint jcsJson_texts).mpr
    (show isActorSubject twoWordsIntent.actorId = true by decide)
  have hscopes : requireScopes twoWordsIntent = .ok () := by decide
  rw [executeIntent, hscopes, ok_bind, translated_eq_ok.mpr hfingerprint, ok_bind]
  have hlock : NodeControlAttemptStore.lockRequestId twoWordsIntent.workspaceId
      twoWordsIntent.request.requestId =
        .error (.malformed "node-control attempt selector is malformed") := by decide
  rw [hlock]
  rfl

end ControlPlaneKit.NodeControl
