import ControlPlaneKit.NodeControl.BoundaryLaws
import ControlPlaneKit.NodeControl.Intents
import ControlPlaneKit.Operations.SecretUseLaws
import ControlPlaneKit.Rotation.SigningKeyLaws

/-!
# IntentLaws — what a node-control intent raises

Most of the service translates the errors of its layers.  Three places do not: the lock
on the request's identity, the insertion of a secret use, and the constructor of the
attempt.  What each of them refuses says when the service fails with one of its own
errors only.
-/

namespace ControlPlaneKit.NodeControl

open ControlPlaneKit.Library (PyDict)
open ControlPlaneKit.Library.EventFold (bind_ok)
open ControlPlaneKit.Library.Outcome (ErrorsIn mapError_eq_ok ok_bind)
open ControlPlaneKit.Library.Text
  (isAsciiAlnum isCanonicalIdentity isIdentityChars isIdentityTail
  isReferenceTail)
open ControlPlaneKit.Operations
open ControlPlaneKit.Rotation (RegisteredDelegationSigningKey SigningKeyTable)
open ControlPlaneKit.Topology (DelegationKeyPurpose DeploymentGraph SecretUseIntent
  isCanonicalIdentity_tagged sha256Hexdigest sha256Hexdigest_chars)
open NodeControlIntentFault (IsIntentError)

/-! ## Secret uses that collide -/

/-- No key of a table is violated. -/
def NoIntegrity (error : ServiceError) : Prop := ∀ table, error ≠ .integrity table

/-- A check raises what it was given to raise. -/
theorem requireThat_errors {condition : Bool} {error : ServiceError}
    (h : NoIntegrity error) : ErrorsIn NoIntegrity (requireThat condition error) := by
  unfold requireThat
  split
  · exact ErrorsIn.ok ()
  · exact ErrorsIn.error h

theorem found_errors {α : Type} {row : Option α} {error : ServiceError}
    (h : NoIntegrity error) : ErrorsIn NoIntegrity (Operations.found row error) := by
  cases row with
  | none => exact ErrorsIn.error h
  | some value => exact ErrorsIn.ok value

/-- Checking a use raises no error of the tables. -/
theorem useCheck_errors (command : AuthorizeSecretUse) :
    ErrorsIn NoIntegrity command.check := by
  unfold AuthorizeSecretUse.check
  repeat' refine ErrorsIn.bind (requireThat_errors nofun) fun _ _ => ?_
  exact requireThat_errors nofun

/-- Nor does looking for its registrations. -/
theorem covering_errors (command : AuthorizeSecretUse) (state : SecretRegistrations) :
    ErrorsIn NoIntegrity (coveringRegistrations command state) := by
  refine ErrorsIn.bind (found_errors nofun) fun reference _ => ?_
  refine ErrorsIn.bind ?_ fun provider _ => ?_
  · refine ErrorsIn.bind (found_errors nofun) fun provider _ => ?_
    refine ErrorsIn.bind (requireThat_errors nofun) fun _ _ => ErrorsIn.ok provider
  refine ErrorsIn.bind ?_ fun _ _ => ?_
  · unfold validateReferenceAdmission
    repeat' refine ErrorsIn.bind (requireThat_errors nofun) fun _ _ => ?_
    exact requireThat_errors nofun
  exact ErrorsIn.bind (requireThat_errors nofun) fun _ _ => ErrorsIn.ok _

/-- The authorisation a command asks for, under the active registrations. -/
def IsCandidate (command : AuthorizeSecretUse) (registrations : SecretRegistrations)
    (candidate : AuthorizedSecretUse) : Prop :=
  command.check = .ok () ∧ ∃ reference provider,
    coveringRegistrations command registrations = .ok (reference, provider) ∧
      candidate = authorizedSecretUseFor command reference provider

/-- No use of the correlation is stored, but one of the same identity is. -/
def IdentityTaken (uses : List AuthorizedSecretUse)
    (candidate : AuthorizedSecretUse) : Prop :=
  SecretUseAuthorizationStore.forCorrelation uses candidate.workspaceId
      candidate.correlationId = none ∧
    ∃ use ∈ uses, use.authorizationId = candidate.authorizationId

/-- A stored use of the correlation is of the same intent. -/
def CorrelationFits (uses : List AuthorizedSecretUse)
    (candidate : AuthorizedSecretUse) : Prop :=
  ∀ existing ∈ SecretUseAuthorizationStore.forCorrelation uses candidate.workspaceId
      candidate.correlationId, existing.intentFingerprint = candidate.intentFingerprint

/-- The stored uses, among them one of the candidate's correlation. -/
def usesWith (uses : List AuthorizedSecretUse) (candidate : AuthorizedSecretUse) :
    List AuthorizedSecretUse :=
  match SecretUseAuthorizationStore.forCorrelation uses candidate.workspaceId
      candidate.correlationId with
  | some _ => uses
  | none => uses ++ [candidate]

/-- No row of a correlation is found among rows of other correlations. -/
theorem not_correlated {uses : List AuthorizedSecretUse}
    {workspaceId correlationId : String} (h : SecretUseAuthorizationStore.forCorrelation
      uses workspaceId correlationId = none) :
    ∀ use ∈ uses,
      ¬ (use.workspaceId = workspaceId ∧ use.correlationId = correlationId) := by
  intro use huse hsame
  have := List.find?_eq_none.mp h use huse
  simp [hsame.1, hsame.2] at this

/-- **The three ends of storing a candidate**: its identity is taken, its correlation is
that of another intent, or the stored uses are those with the candidate. -/
theorem authorizedOrAdded_cases (uses : List AuthorizedSecretUse)
    (candidate : AuthorizedSecretUse) :
    (IdentityTaken uses candidate ∧
        ∃ table, authorizedOrAdded uses candidate = .error (.integrity table)) ∨
      (¬ IdentityTaken uses candidate ∧ ¬ CorrelationFits uses candidate ∧
        ∃ message, authorizedOrAdded uses candidate =
          .error (.idempotencyConflict message)) ∨
      (¬ IdentityTaken uses candidate ∧ CorrelationFits uses candidate ∧
        ∃ authorized, authorizedOrAdded uses candidate =
          .ok (authorized, usesWith uses candidate)) := by
  unfold authorizedOrAdded IdentityTaken CorrelationFits usesWith
  cases hfound : SecretUseAuthorizationStore.forCorrelation uses candidate.workspaceId
      candidate.correlationId with
  | some existing =>
      dsimp only
      by_cases hsame : existing.intentFingerprint = candidate.intentFingerprint
      · rw [if_neg (not_not.mpr hsame)]
        exact .inr (.inr ⟨by simp, by simpa using hsame, existing, rfl⟩)
      · rw [if_pos hsame]
        exact .inr (.inl ⟨by simp, by simpa using hsame, _, rfl⟩)
  | none =>
      have hapart := not_correlated hfound
      have hany : (uses.any fun use =>
          use.authorizationId = candidate.authorizationId ||
          (use.workspaceId = candidate.workspaceId &&
            use.correlationId = candidate.correlationId)) =
          true ↔ ∃ use ∈ uses, use.authorizationId = candidate.authorizationId := by
        simp only [List.any_eq_true, Bool.or_eq_true, decide_eq_true_eq,
          Bool.and_eq_true]
        constructor
        · rintro ⟨use, huse, hid | hsame⟩
          · exact ⟨use, huse, hid⟩
          · exact absurd hsame (hapart use huse)
        · rintro ⟨use, huse, hid⟩
          exact ⟨use, huse, .inl hid⟩
      dsimp only
      unfold SecretUseAuthorizationStore.add
      by_cases htaken : ∃ use ∈ uses, use.authorizationId = candidate.authorizationId
      · rw [if_pos (hany.mpr htaken)]
        exact .inl ⟨⟨rfl, htaken⟩, _, rfl⟩
      · rw [if_neg fun h => htaken (hany.mp h)]
        exact .inr (.inr ⟨fun h => htaken h.2, by simp, candidate, rfl⟩)

/-- A command asks for one authorisation, or is refused before any key is looked at. -/
theorem authorizeInUnitOfWork_cases (command : AuthorizeSecretUse)
    (state : SecretState) : (∃ candidate provider,
        (∀ other, IsCandidate command state.toSecretRegistrations other ↔
          other = candidate) ∧
          authorizeSecretUseInUnitOfWork command state =
            (authorizedOrAdded state.uses candidate).map fun answer =>
              ((answer.1, provider), { state with uses := answer.2 })) ∨
      ((∀ other, ¬ IsCandidate command state.toSecretRegistrations other) ∧
        ∃ error, NoIntegrity error ∧
          authorizeSecretUseInUnitOfWork command state = .error error) := by
  unfold authorizeSecretUseInUnitOfWork IsCandidate
  cases hcheck : command.check with
  | error e =>
      refine .inr ⟨?_, e, useCheck_errors command _ hcheck, rfl⟩
      rintro other ⟨⟨⟩, -⟩
  | ok checked =>
      rw [ok_bind]
      cases hcovering : coveringRegistrations command state.toSecretRegistrations with
      | error e =>
          refine .inr ⟨?_, e, covering_errors command _ _ hcovering, rfl⟩
          rintro other ⟨-, reference, provider, ⟨⟩, -⟩
      | ok pair =>
          obtain ⟨reference, provider⟩ := pair
          refine .inl ⟨authorizedSecretUseFor command reference provider, provider,
            fun other => ⟨?_, ?_⟩, ?_⟩
          · rintro ⟨-, reference', provider', ⟨⟩, rfl⟩
            rfl
          · rintro rfl
            exact ⟨rfl, reference, provider, rfl, rfl⟩
          · rw [ok_bind]
            dsimp only
            cases authorizedOrAdded state.uses
                (authorizedSecretUseFor command reference provider) <;> rfl

/-! ## Identities -/

/-- Identifiers are canonical. -/
theorem canonicalIdentity_of_isIdentifier {value : String}
    (h : isIdentifier value = true) : isCanonicalIdentity value = true := by
  unfold isIdentifier at h
  unfold isCanonicalIdentity isIdentityChars
  cases hvalue : value.toList with
  | nil => simp [hvalue] at h
  | cons c rest =>
      simp only [hvalue, Bool.and_eq_true, List.all_eq_true, decide_eq_true_eq] at h ⊢
      obtain ⟨⟨hhead, htail⟩, hlength⟩ := h
      refine ⟨⟨hhead, fun d hd => ?_⟩, by omega⟩
      have hpart := htail d hd
      simp only [isIdentifierTail, isIdentityTail, Bool.or_eq_true] at hpart ⊢
      tauto

/-- So are references. -/
theorem canonicalIdentity_of_reference {value : String}
    (h : Library.Text.isReference value = true) : isCanonicalIdentity value = true := by
  unfold Library.Text.isReference at h
  unfold isCanonicalIdentity isIdentityChars
  cases hvalue : value.toList with
  | nil => simp [hvalue] at h
  | cons c rest =>
      simp only [hvalue, Bool.and_eq_true, List.all_eq_true, decide_eq_true_eq] at h ⊢
      obtain ⟨⟨hhead, htail⟩, hlength⟩ := h
      have hlower {d : Char} (hd : Library.Text.isAsciiLower d = true) :
          isAsciiAlnum d = true := by
        simp only [Library.Text.isAsciiLower, isAsciiAlnum, Bool.and_eq_true,
          Bool.or_eq_true, decide_eq_true_eq] at hd ⊢
        omega
      refine ⟨⟨hlower hhead, fun d hd => ?_⟩, by omega⟩
      have hpart := htail d hd
      simp only [isReferenceTail, Bool.or_eq_true, isIdentityTail] at hpart ⊢
      rcases hpart with (((hd | hd) | hd) | hd) | hd
      · simp [hlower hd]
      · simp only [isAsciiAlnum, Bool.or_eq_true, Bool.and_eq_true,
          decide_eq_true_eq] at hd ⊢
        omega
      all_goals simp [hd]

/-- A digest under a tag has the form of its table. -/
theorem isNamedDigest_sha256 (tag text : String) :
    isNamedDigest tag (tag ++ sha256Hexdigest text) = true := by
  obtain ⟨hlength, hdigits⟩ := sha256Hexdigest_chars text
  have hdrop : (tag ++ sha256Hexdigest text).toList.drop tag.length =
      (sha256Hexdigest text).toList := by
    rw [String.toList_append, ← String.length_toList, List.drop_left]
  have htake : (tag ++ sha256Hexdigest text).toList.take tag.length = tag.toList := by
    rw [String.toList_append, ← String.length_toList, List.take_left]
  simp only [isNamedDigest, hdrop, htake, hlength, decide_true, Bool.true_and,
    Bool.and_self, List.all_eq_true]
  exact hdigits

/-! ## Steps of the service -/

section Steps

variable {α ε : Type} {fault : NodeControlIntentFault}

/-- A guard passes when its condition holds. -/
theorem guard_eq_ok {condition : Bool} {u : Unit} :
    NodeControlIntentFault.guard condition fault = .ok u ↔ condition = true := by
  cases condition <;> simp [NodeControlIntentFault.guard]

/-- A row is asked to be there. -/
theorem present_eq_ok {row : Option α} {value : α} :
    present fault row = .ok value ↔ row = some value := by
  cases row <;> simp [present]

/-- Translating errors keeps values. -/
theorem translated_eq_ok {x : Except ε α} {value : α} :
    translated fault x = .ok value ↔ x = .ok value := mapError_eq_ok

theorem guard_errors {condition : Bool} (h : fault.IsIntentError) :
    ErrorsIn IsIntentError (NodeControlIntentFault.guard condition fault) := by
  cases condition with
  | true => exact ErrorsIn.ok ()
  | false => exact ErrorsIn.error h

theorem present_errors {row : Option α} (h : fault.IsIntentError) :
    ErrorsIn IsIntentError (present fault row) := by
  cases row with
  | none => exact ErrorsIn.error h
  | some value => exact ErrorsIn.ok value

theorem translated_errors {x : Except ε α} (h : fault.IsIntentError) :
    ErrorsIn IsIntentError (translated fault x) := ErrorsIn.mapError fun _ => h

end Steps

/-! ## Authorising the uses -/

/-- The authorisation of a use of a key, under the correlation derived for it. -/
def KeyCandidate {dumps : CanonicalJson} (command : RequestNodeControlIntent dumps)
    (draws : IntentDraws) (key : RegisteredDelegationSigningKey)
    (intent : SecretUseIntent) (registrations : SecretRegistrations)
    (candidate : AuthorizedSecretUse) : Prop :=
  ∃ correlationId,
    secretUseCorrelationFor (keyUse command draws.attemptId key intent) =
      .ok correlationId ∧
      IsCandidate (keyUseCommand command draws key intent correlationId)
        registrations candidate

/-- **A key has one authorization**: what is drawn for the same use is the same. -/
theorem KeyCandidate.unique {dumps : CanonicalJson}
    {command : RequestNodeControlIntent dumps} {draws : IntentDraws}
    {key : RegisteredDelegationSigningKey} {intent : SecretUseIntent}
    {registrations : SecretRegistrations} {first second : AuthorizedSecretUse}
    (h : KeyCandidate command draws key intent registrations first)
    (h' : KeyCandidate command draws key intent registrations second) :
    first = second := by
  obtain ⟨correlationId, hcorrelation, -, reference, provider, hcovering, rfl⟩ := h
  obtain ⟨correlationId', hcorrelation', -, reference', provider', hcovering', rfl⟩ :=
    h'
  rw [hcorrelation] at hcorrelation'
  cases hcorrelation'
  rw [hcovering] at hcovering'
  cases hcovering'
  rfl

section Uses

variable {dumps : CanonicalJson} {command : RequestNodeControlIntent dumps}
  {draws : IntentDraws} {key : RegisteredDelegationSigningKey}
  {intent : SecretUseIntent} {secrets after : SecretState}
  {authorized : AuthorizedSecretUse}

theorem caughtUse_eq_ok {α : Type} {x : Except ServiceError α} {a : α} :
    caughtUse x = .ok a ↔ x = .ok a := by
  cases x with
  | ok a' => simp [caughtUse]
  | error e => cases e <;> simp [caughtUse]

/-- The correlation of a use is canonical. -/
theorem secretUseCorrelationFor_ok {use : SecretUse} {correlationId : String}
    (h : secretUseCorrelationFor use = .ok correlationId) :
    isCanonicalIdentity correlationId = true := by
  unfold secretUseCorrelationFor at h
  simp only [bind_ok] at h
  obtain ⟨⟨⟩, -, ⟨⟩, -, ⟨⟩, -, hpure⟩ := h
  cases hpure
  exact isCanonicalIdentity_tagged (by decide) (by decide) _

theorem keyUse_correlated
    (hworkspace : Library.Text.isReference command.workspaceId = true)
    (hactor : isActorSubject command.actorId = true) : ∃ correlationId,
      secretUseCorrelationFor (keyUse command draws.attemptId key intent) =
        .ok correlationId := by
  unfold secretUseCorrelationFor Operations.requireIdentifier keyUse
  simp only [isActorSubject] at hactor
  simp only [hworkspace, hactor]
  exact ⟨_, rfl⟩

/-- What the use of a key is checked by holds of every derived correlation. -/
theorem keyUseCommand_check {correlationId : String}
    (hcorrelation : secretUseCorrelationFor
      (keyUse command draws.attemptId key intent) =
      .ok correlationId)
    (hattempt : isCanonicalIdentity draws.attemptId = true)
    (hscope : requireSecretScope command.grantedScopes .secretProviderUse = .ok ())
    (hbounded : requireBoundedText draws.requestedAt "requested_at" 128 = .ok ())
    (hinstant : (canonicalInstant draws.requestedAt).isSome = true) :
    (keyUseCommand command draws key intent correlationId).check = .ok () := by
  have hcanonical := secretUseCorrelationFor_ok hcorrelation
  unfold secretUseCorrelationFor at hcorrelation
  simp only [bind_ok] at hcorrelation
  obtain ⟨⟨⟩, hworkspace, ⟨⟩, hactor, -⟩ := hcorrelation
  simp only [keyUse] at hworkspace hactor
  simp only [AuthorizeSecretUse.check, keyUseCommand, keyUse, hworkspace, hactor,
    ok_bind, hcanonical, requireThat, hbounded, requireOptionalIdentity,
    Option.all_some, Option.all_none, hattempt, hscope, hinstant, if_true]

/-- **The three ends of authorising a use of a key**, of one candidate; without one, the
use is refused by an error of the service. -/
theorem authorizeKeyUse_cases {correlationId : String}
    (hcorrelation : secretUseCorrelationFor
      (keyUse command draws.attemptId key intent) =
      .ok correlationId) :
    (∃ candidate,
      (∀ other, KeyCandidate command draws key intent secrets.toSecretRegistrations
        other ↔ other = candidate) ∧
      ((IdentityTaken secrets.uses candidate ∧ ∃ table,
          authorizeKeyUse command draws key intent secrets =
            .error (.secrets (.integrity table))) ∨
        (¬ IdentityTaken secrets.uses candidate ∧
          ¬ CorrelationFits secrets.uses candidate ∧
          ∃ message, authorizeKeyUse command draws key intent secrets =
            .error (.conflict message)) ∨
        (¬ IdentityTaken secrets.uses candidate ∧
          CorrelationFits secrets.uses candidate ∧
          ∃ authorized, authorizeKeyUse command draws key intent secrets =
            .ok (authorized, { secrets with
              uses := usesWith secrets.uses candidate })))) ∨
      ((∀ other,
        ¬ KeyCandidate command draws key intent secrets.toSecretRegistrations other) ∧
        ∃ message, authorizeKeyUse command draws key intent secrets =
          .error (.conflict message)) := by
  have hkey (candidate : AuthorizedSecretUse) :
      KeyCandidate command draws key intent secrets.toSecretRegistrations candidate ↔
        IsCandidate (keyUseCommand command draws key intent correlationId)
          secrets.toSecretRegistrations candidate := by
    constructor
    · rintro ⟨other, hother, hcandidate⟩
      rw [hcorrelation] at hother
      cases hother
      exact hcandidate
    · exact fun h => ⟨correlationId, hcorrelation, h⟩
  simp only [hkey]
  have huse : authorizeKeyUse command draws key intent secrets =
      (caughtUse (authorizeSecretUseInUnitOfWork
        (keyUseCommand command draws key intent correlationId) secrets)).map
          fun answer => (answer.1.1, answer.2) := by
    unfold authorizeKeyUse
    rw [hcorrelation, Except.mapError, ok_bind]
    cases caughtUse (authorizeSecretUseInUnitOfWork
      (keyUseCommand command draws key intent correlationId) secrets) <;> rfl
  rw [huse]
  rcases authorizeInUnitOfWork_cases
    (keyUseCommand command draws key intent correlationId) secrets with
    ⟨candidate, provider, hcandidate, h⟩ | ⟨hnone, error, herror, h⟩
  · refine .inl ⟨candidate, hcandidate, ?_⟩
    rw [h]
    rcases authorizedOrAdded_cases secrets.uses candidate with
      ⟨htaken, table, hadded⟩ | ⟨hfree, hother, message, hadded⟩ |
      ⟨hfree, hfits, authorized, hadded⟩
    · rw [hadded]
      exact .inl ⟨htaken, table, rfl⟩
    · rw [hadded]
      exact .inr (.inl ⟨hfree, hother, _, rfl⟩)
    · rw [hadded]
      exact .inr (.inr ⟨hfree, hfits, authorized, rfl⟩)
  · refine .inr ⟨hnone, ?_⟩
    rw [h]
    cases error with
    | integrity table => exact absurd rfl (herror table)
    | _ => exact ⟨_, rfl⟩

/-- **A use, and what follows it**: the service fails with its own errors only, unless
the identity of the use is taken, or what follows the stored use fails otherwise. -/
theorem keyUse_errors_iff {α : Type} {P : SecretState → Prop}
    {next : AuthorizedSecretUse × SecretState → Except NodeControlIntentFault α}
    (hcorrelated : ∃ correlationId,
      secretUseCorrelationFor (keyUse command draws.attemptId key intent) =
        .ok correlationId)
    (hnext : ∀ authorized after, authorizeKeyUse command draws key intent secrets =
      .ok (authorized, after) →
      (ErrorsIn IsIntentError (next (authorized, after)) ↔ P after)) :
    ErrorsIn IsIntentError (authorizeKeyUse command draws key intent secrets >>= next) ↔
      ∀ candidate,
        KeyCandidate command draws key intent secrets.toSecretRegistrations candidate →
          ¬ IdentityTaken secrets.uses candidate ∧
          (CorrelationFits secrets.uses candidate →
            P { secrets with uses := usesWith secrets.uses candidate }) := by
  obtain ⟨correlationId, hcorrelation⟩ := hcorrelated
  rcases @authorizeKeyUse_cases dumps command draws key intent secrets
      _ hcorrelation with
    ⟨candidate, hcandidate, hend⟩ | ⟨hnone, message, h⟩
  · simp only [hcandidate, forall_eq]
    rcases hend with ⟨htaken, table, h⟩ | ⟨hfree, hother, message, h⟩ |
      ⟨hfree, hfits, authorized, h⟩
    · rw [h]
      refine iff_of_false (fun herrors => ?_) fun hbounded => hbounded.1 htaken
      exact herrors _ rfl
    · rw [h]
      exact iff_of_true (ErrorsIn.error trivial)
        ⟨hfree, fun hfits => absurd hfits hother⟩
    · rw [and_iff_right hfree, forall_prop_of_true hfits, h]
      exact hnext authorized _ h
  · rw [h]
    exact iff_of_true (ErrorsIn.error trivial) fun candidate hcandidate =>
      absurd hcandidate (hnone candidate)

/-- A candidate whose identity is free, and that fits its correlation, is authorised. -/
theorem authorizeKeyUse_of_candidate {candidate : AuthorizedSecretUse}
    (h : KeyCandidate command draws key intent secrets.toSecretRegistrations candidate)
    (hfree : ¬ IdentityTaken secrets.uses candidate)
    (hfits : CorrelationFits secrets.uses candidate) :
    ∃ authorized, authorizeKeyUse command draws key intent secrets =
      .ok (authorized, { secrets with uses := usesWith secrets.uses candidate }) := by
  obtain ⟨correlationId, hcorrelation, -⟩ := id h
  rcases @authorizeKeyUse_cases dumps command draws key intent secrets
      _ hcorrelation with
    ⟨found, hfound, hend⟩ | ⟨hnone, -⟩
  · obtain rfl : candidate = found := (hfound candidate).mp h
    rcases hend with ⟨htaken, -⟩ | ⟨-, hother, -⟩ | ⟨-, -, hauthorized⟩
    · exact absurd htaken hfree
    · exact absurd hfits hother
    · exact hauthorized
  · exact absurd h (hnone candidate)

/-- **An authorized key use** is the stored one of its correlation, or is stored now. -/
theorem authorizeKeyUse_ok (h : authorizeKeyUse command draws key intent secrets =
      .ok (authorized, after)) :
    ∃ correlationId provider,
      secretUseCorrelationFor (keyUse command draws.attemptId key intent) =
        .ok correlationId ∧
        authorizeSecretUseInUnitOfWork
          (keyUseCommand command draws key intent correlationId)
          secrets = .ok ((authorized, provider), after) := by
  unfold authorizeKeyUse at h
  simp only [bind_ok, mapError_eq_ok, Prod.exists, caughtUse_eq_ok] at h
  obtain ⟨correlationId, hcorrelation, use, provider, rest, hauthorized, hpure⟩ := h
  cases hpure
  exact ⟨correlationId, provider, hcorrelation, hauthorized⟩

/-- Every stored authorisation has an identity of its kind. -/
def UsesNamed (secrets : SecretState) : Prop :=
  ∀ use ∈ secrets.uses, isAuthorization use.authorizationId = true

/-- What the attempt relies on about an authorised use. -/
structure UseIdentified (draws : IntentDraws)
    (authorized : AuthorizedSecretUse) : Prop where
  authorization : isAuthorization authorized.authorizationId = true
  correlation : isCanonicalIdentity authorized.correlationId = true
  instant : (canonicalInstant draws.requestedAt).isSome = true

theorem useCheck_instant {use : AuthorizeSecretUse} (h : use.check = .ok ()) :
    (canonicalInstant use.requestedAt).isSome = true := by
  unfold AuthorizeSecretUse.check at h
  simp only [bind_ok, requireThat_eq_ok] at h
  obtain ⟨⟨⟩, -, ⟨⟩, -, ⟨⟩, -, ⟨⟩, -, ⟨⟩, -, ⟨⟩, -, ⟨⟩, -, ⟨⟩, -, ⟨⟩, -, ⟨⟩, -,
    ⟨⟩, -, h⟩ := h
  exact h

/-- It is named by its digest, and so are all that are stored. -/
theorem authorizeKeyUse_identified (hnamed : UsesNamed secrets)
    (h : authorizeKeyUse command draws key intent secrets = .ok (authorized, after)) :
    UseIdentified draws authorized ∧ UsesNamed after := by
  obtain ⟨correlationId, provider, hcorrelation, hauthorized⟩ := authorizeKeyUse_ok h
  have hcanonical := secretUseCorrelationFor_ok hcorrelation
  obtain ⟨hcheck, reference, uses, -, hadded, rfl⟩ :=
    authorizeSecretUseInUnitOfWork_ok.mp hauthorized
  have hinstant := useCheck_instant hcheck
  rcases authorizedOrAdded_ok hadded with ⟨hexisting, -, rfl⟩ | ⟨-, rfl, rfl⟩
  · obtain ⟨hmem, -, hsame⟩ := forCorrelation_eq_some hexisting
    exact ⟨⟨hnamed authorized hmem, hsame ▸ hcanonical, hinstant⟩, hnamed⟩
  · have hauthorization := isNamedDigest_sha256 "suse_"
      ((keyUseCommand command draws key intent correlationId).toSecretUse.document
        reference.registrationId provider.registrationId)
    refine ⟨⟨hauthorization, hcanonical, hinstant⟩, fun use huse => ?_⟩
    rcases List.mem_append.mp huse with hold | hnew
    · exact hnamed use hold
    · rw [List.mem_singleton.mp hnew]
      exact hauthorization

end Uses

section Service

variable {dumps : CanonicalJson} {lifetime : GrantLifetime} {stores : NodeControlStores}
  {command : RequestNodeControlIntent dumps} {draws : Option IntentDraws}
  {selected : SelectedAuthority}

/-! ## Selecting the authority -/

theorem requireScopes_errors : ErrorsIn IsIntentError (requireScopes command) :=
  guard_errors trivial

theorem currentProjection_errors :
    ErrorsIn IsIntentError (currentProjection dumps stores command) := by
  refine ErrorsIn.bind (present_errors trivial) fun workspace _ => ?_
  refine ErrorsIn.bind (present_errors trivial) fun lineage _ => ?_
  refine ErrorsIn.bind (guard_errors trivial) fun _ _ => ?_
  refine ErrorsIn.bind (present_errors trivial) fun projection _ => ?_
  exact ErrorsIn.bind (guard_errors trivial) fun _ _ => ErrorsIn.ok _

theorem authorizeGraphTarget_errors {graph : DeploymentGraph}
    {gatewayNodeId : NodeControlGraphReference .node}
    {request : NodeControlCommandRequest} :
    ErrorsIn IsIntentError
      (authorizeGraphTarget dumps graph gatewayNodeId request) := by
  refine ErrorsIn.bind ?_ fun nodes _ => ?_
  · refine ErrorsIn.bind (present_errors trivial) fun _ _ => ?_
    refine ErrorsIn.bind (present_errors trivial) fun _ _ => ?_
    refine ErrorsIn.bind (present_errors trivial) fun _ _ => ?_
    refine ErrorsIn.bind (present_errors trivial) fun _ _ => ?_
    exact ErrorsIn.bind (guard_errors trivial) fun _ _ => ErrorsIn.ok _
  refine ErrorsIn.bind (guard_errors trivial) fun _ _ => ?_
  cases declaredVariable dumps nodes.2 request with
  | none => exact ErrorsIn.error trivial
  | some declared =>
      refine ErrorsIn.bind (translated_errors trivial) fun _ _ => ?_
      exact ErrorsIn.bind (guard_errors trivial) fun _ _ => ErrorsIn.ok _

theorem selectKeys_errors {keys : SigningKeyTable} {workspaceId : String} :
    ErrorsIn IsIntentError (selectKeys keys workspaceId) := by
  have hkey (purpose : DelegationKeyPurpose) :
      ErrorsIn IsIntentError (selectKey keys workspaceId purpose) :=
    ErrorsIn.bind (translated_errors trivial) fun _ _ =>
      ErrorsIn.bind (guard_errors trivial) fun _ _ => ErrorsIn.ok _
  refine ErrorsIn.bind (hkey _) fun _ _ => ErrorsIn.bind (hkey _) fun _ _ => ?_
  exact ErrorsIn.bind (guard_errors trivial) fun _ _ => ErrorsIn.ok _

/-- **Up to the secret uses every error is the service's own.** -/
theorem selectAuthority_errors :
    ErrorsIn IsIntentError (selectAuthority dumps lifetime stores command draws) := by
  refine ErrorsIn.bind (guard_errors trivial) fun _ _ => ?_
  refine ErrorsIn.bind currentProjection_errors fun _ _ => ?_
  refine ErrorsIn.bind authorizeGraphTarget_errors fun _ _ => ?_
  refine ErrorsIn.bind selectKeys_errors fun _ _ => ?_
  refine ErrorsIn.bind (present_errors trivial) fun _ _ => ?_
  exact ErrorsIn.bind (translated_errors trivial) fun _ _ => ErrorsIn.ok _

/-- The one key of a purpose that is active, as it is read. -/
structure SelectsKey (keys : SigningKeyTable) (workspaceId : String)
    (purpose : DelegationKeyPurpose) (key : RegisteredDelegationSigningKey) : Prop where
  active : keys.requireUnambiguousActive sha256Hexdigest workspaceId purpose = .ok key
  purpose : key.identity.scope.purpose = purpose

/-- What the selection of an authority found. -/
structure Selects (lifetime : GrantLifetime) (stores : NodeControlStores)
    (command : RequestNodeControlIntent dumps) (draws : Option IntentDraws)
    (selected : SelectedAuthority) : Prop where
  workspace : command.request.target.workspaceId.value = command.workspaceId
  current : ∃ projection, currentProjection dumps stores command =
    .ok (selected.lineage, projection) ∧
    ∃ gateway, authorizeGraphTarget dumps projection.graph command.gatewayNodeId
      command.request =
      .ok gateway ∧ selected.gatewayRuntimeId = gateway.runtimeId
  keys : selectKeys stores.keys command.workspaceId =
    .ok (selected.transitKey, selected.workloadKey)
  drawn : draws = some selected.draws
  grants : unsignedGrants dumps lifetime command
    selected.transitKey selected.workloadKey selected.draws =
    .ok (selected.transitGrant, selected.workloadGrant)

/-- **The authority is selected** exactly under the conditions of `Selects`. -/
theorem selectAuthority_eq_ok :
    selectAuthority dumps lifetime stores command draws = .ok selected ↔
      Selects lifetime stores command draws selected := by
  unfold selectAuthority
  simp only [bind_ok, Prod.exists, guard_eq_ok, decide_eq_true_eq, present_eq_ok,
    translated_eq_ok]
  constructor
  · rintro ⟨⟨⟩, hworkspace, lineage, projection, hcurrent, gateway,
      hgateway, transitKey, workloadKey, hkeys, drawn, hdrawn, transitGrant,
      workloadGrant, hgrants, hpure⟩
    cases hpure
    exact ⟨hworkspace, ⟨projection, hcurrent, gateway, hgateway, rfl⟩, hkeys,
      hdrawn, hgrants⟩
  · rintro ⟨hworkspace, ⟨projection, hcurrent, gateway, hgateway, hruntime⟩,
      hkeys, hdrawn, hgrants⟩
    refine ⟨(), hworkspace, _, projection, hcurrent, gateway, hgateway, _, _,
      hkeys, _, hdrawn, _, _, hgrants, ?_⟩
    rw [← hruntime]
    rfl

/-- One active key is selected. -/
theorem selectKey_eq_ok {keys : SigningKeyTable} {workspaceId : String}
    {purpose : DelegationKeyPurpose} {key : RegisteredDelegationSigningKey} :
    selectKey keys workspaceId purpose = .ok key ↔
      SelectsKey keys workspaceId purpose key := by
  unfold selectKey
  simp only [bind_ok, guard_eq_ok, decide_eq_true_eq, translated_eq_ok]
  constructor
  · rintro ⟨_, hactive, ⟨⟩, hpurpose, hpure⟩
    cases hpure
    exact ⟨hactive, hpurpose⟩
  · exact fun h => ⟨key, h.active, (), h.purpose, rfl⟩

/-- Two keys of distinct registrations, public keys and private references. -/
structure AuthoritiesDistinct
    (first second : RegisteredDelegationSigningKey) : Prop where
  registration : first.identity.registrationId ≠ second.identity.registrationId
  publicKey : sha256Hexdigest first.identity.publicKey.publicKeyPem ≠
    sha256Hexdigest second.identity.publicKey.publicKeyPem
  reference : first.identity.privateKeyReference ≠ second.identity.privateKeyReference

/-- One for each purpose. -/
theorem selectKeys_eq_ok {keys : SigningKeyTable} {workspaceId : String}
    {transitKey workloadKey : RegisteredDelegationSigningKey} :
    selectKeys keys workspaceId = .ok (transitKey, workloadKey) ↔
      SelectsKey keys workspaceId .gatewayNodeControlTransit transitKey ∧
        SelectsKey keys workspaceId .workloadNodeControl workloadKey ∧
        AuthoritiesDistinct transitKey workloadKey := by
  unfold selectKeys
  simp only [bind_ok, guard_eq_ok, selectKey_eq_ok, Bool.not_eq_true',
    Bool.or_eq_false_iff, decide_eq_false_iff_not]
  constructor
  · rintro ⟨transit, htransit, workload, hworkload, ⟨⟩,
      ⟨⟨hregistration, hpublic⟩, hreference⟩, hpure⟩
    cases hpure
    exact ⟨htransit, hworkload, hregistration, hpublic, hreference⟩
  · rintro ⟨htransit, hworkload, hregistration, hpublic, hreference⟩
    exact ⟨_, htransit, _, hworkload, (), ⟨⟨hregistration, hpublic⟩, hreference⟩, rfl⟩

/-- **The current projection** is that of the lineage the workspace stands at. -/
theorem currentProjection_eq_ok {lineage : GraphLineage}
    {projection : RealizedProjection} :
    currentProjection dumps stores command = .ok (lineage, projection) ↔
      (∃ row, stores.workspaces.find?
        (fun row => row.workspaceId = command.workspaceId) = some row ∧
          row.currentLineage = some lineage) ∧
        lineage.authoredGraphId = command.request.target.graphRevision.value ∧
        stores.projections.find? (fun row => row.projectionId =
          lineage.realizedProjectionId) =
          some projection ∧
        projection.workspaceId = command.workspaceId ∧
        projection.sourceAuthoredGraphId = lineage.authoredGraphId := by
  unfold currentProjection
  simp only [bind_ok, guard_eq_ok, decide_eq_true_eq, present_eq_ok, Bool.and_eq_true]
  constructor
  · rintro ⟨row, hrow, found, hlineage, ⟨⟩, hrevision, read, hread, ⟨⟩, hsame, hpure⟩
    cases hpure
    exact ⟨⟨row, hrow, hlineage⟩, hrevision, hread, hsame⟩
  · rintro ⟨⟨row, hrow, hlineage⟩, hrevision, hread, hsame⟩
    exact ⟨row, hrow, _, hlineage, (), hrevision, _, hread, (), hsame, rfl⟩

/-- What two unsigned grants of a request are. -/
structure UnsignedGrants (lifetime : GrantLifetime)
    (command : RequestNodeControlIntent dumps)
    (transitKey workloadKey : RegisteredDelegationSigningKey) (draws : IntentDraws)
    (digest : NodeControlRequestDigest) (audience : String)
    (transitGrant : DelegatedGatewayNodeControlTransitGrant)
    (workloadGrant : DelegatedWorkloadNodeControlGrant) : Prop where
  digested : command.request.canonicalDigest dumps = .ok digest.value
  heard : workloadNodeControlAudience command.request.target = .ok audience
  transit : transitGrant = transitGrantOf dumps command transitKey
    ⟨draws.issuedAt, draws.issuedAt, draws.issuedAt + lifetime.seconds⟩ digest draws
  workload : workloadGrant = workloadGrantOf dumps command workloadKey
    ⟨draws.issuedAt, draws.issuedAt, draws.issuedAt + lifetime.seconds⟩ digest
    audience draws
  transitCheck : transitGrant.check dumps = .ok ()
  workloadCheck : workloadGrant.check dumps = .ok ()

theorem NodeControlRequestDigest.of_ok {value : String}
    {digest : NodeControlRequestDigest}
    (h : NodeControlRequestDigest.of value = .ok digest) : digest.value = value := by
  unfold NodeControlRequestDigest.of at h
  split at h <;> cases h
  rfl

/-- Both grants are checked, for one request digest. -/
theorem unsignedGrants_ok {transitKey workloadKey : RegisteredDelegationSigningKey}
    {draws : IntentDraws} {transitGrant : DelegatedGatewayNodeControlTransitGrant}
    {workloadGrant : DelegatedWorkloadNodeControlGrant}
    (h : unsignedGrants dumps lifetime command transitKey workloadKey draws =
      .ok (transitGrant, workloadGrant)) :
    ∃ digest audience,
      UnsignedGrants lifetime command transitKey workloadKey draws digest audience
      transitGrant workloadGrant := by
  unfold unsignedGrants at h
  simp only [bind_ok] at h
  obtain ⟨value, hvalue, digest, hdigest, ⟨⟩, htransit, audience, haudience, ⟨⟩,
    hworkload, hpure⟩ := h
  cases hpure
  rw [← NodeControlRequestDigest.of_ok hdigest] at hvalue
  exact ⟨digest, audience, hvalue, haudience, rfl, rfl, htransit, hworkload⟩

end Service

/-! ## Reading an attempt -/

section Reading

variable {dumps : CanonicalJson} {stores : NodeControlStores}
  {workspaceId requestId : String} {attempt : NodeControlIntendedAttempt}

theorem requireNodeControlIdentifier_iff {value : String} :
    NodeControlAttemptStore.requireNodeControlIdentifier value = .ok () ↔
      isCanonicalIdentity value = true := by
  unfold NodeControlAttemptStore.requireNodeControlIdentifier
  split <;> simp_all

/-- What the store answers under canonical identities. -/
theorem existingAttempt_eq (hworkspace : isCanonicalIdentity workspaceId = true)
    (hrequest : isCanonicalIdentity requestId = true) :
    existingAttempt dumps stores workspaceId requestId =
      match NodeControlAttemptStore.selectRequest stores.attempts workspaceId
          requestId with
      | none => .ok none
      | some row =>
          if row.intact && NodeControlAttemptStore.joins stores.keys stores.secrets.uses
              row.attempt &&
              row.attempt.check dumps = .ok () then .ok (some row.attempt)
          else .error (.base "durable node-control intent is corrupt") := by
  rw [existingAttempt, NodeControlAttemptStore.getByRequestId,
    requireNodeControlIdentifier_iff.mpr hworkspace, ok_bind,
    requireNodeControlIdentifier_iff.mpr hrequest, ok_bind]
  cases NodeControlAttemptStore.selectRequest stores.attempts workspaceId requestId with
  | none => rfl
  | some row =>
      dsimp only
      unfold NodeControlAttemptStore.decodeRow
      cases hread : (row.intact && NodeControlAttemptStore.joins stores.keys
        stores.secrets.uses row.attempt && decide (row.attempt.check dumps = .ok ()))
        <;> rfl

/-- A row that is read back: nothing of it changed, and the rows it is joined with are
still there. -/
structure ReadsBack (dumps : CanonicalJson) (stores : NodeControlStores)
    (row : NodeControlAttemptRow) : Prop where
  intact : row.intact = true
  joined : NodeControlAttemptStore.joins stores.keys stores.secrets.uses row.attempt =
    true
  checked : row.attempt.check dumps = .ok ()

/-- An attempt exists when its request is stored. -/
theorem existingAttempt_eq_some (hworkspace : isCanonicalIdentity workspaceId = true)
    (hrequest : isCanonicalIdentity requestId = true) :
    existingAttempt dumps stores workspaceId requestId = .ok (some attempt) ↔
      ∃ row, NodeControlAttemptStore.selectRequest stores.attempts workspaceId
        requestId = some row ∧
        row.attempt = attempt ∧ ReadsBack dumps stores row := by
  rw [existingAttempt_eq hworkspace hrequest]
  cases NodeControlAttemptStore.selectRequest stores.attempts workspaceId requestId with
  | none =>
      refine iff_of_false nofun ?_
      rintro ⟨row, ⟨⟩, -⟩
  | some row =>
      dsimp only
      constructor
      · intro h
        split at h
        · rename_i hread
          simp only [Bool.and_eq_true, decide_eq_true_eq] at hread
          cases h
          exact ⟨row, rfl, rfl, hread.1.1, hread.1.2, hread.2⟩
        · cases h
      · rintro ⟨row, ⟨⟩, rfl, hread⟩
        rw [if_pos (by simp [hread.intact, hread.joined, hread.checked])]

theorem existingAttempt_eq_none (hworkspace : isCanonicalIdentity workspaceId = true)
    (hrequest : isCanonicalIdentity requestId = true)
    (h : existingAttempt dumps stores workspaceId requestId = .ok none) :
    NodeControlAttemptStore.selectRequest stores.attempts workspaceId requestId =
      none := by
  rw [existingAttempt_eq hworkspace hrequest] at h
  split at h
  · assumption
  · split at h <;> cases h

end Reading

/-! ## The attempt -/

/-- The library of canonical JSON writes a document of texts, and every document has an
opening brace. -/
structure CanonicalTexts (dumps : CanonicalJson) : Prop where
  documents : ∀ actorSubject gatewayNodeId requestDigest,
    (dumps (intentDocument actorSubject gatewayNodeId requestDigest)).isSome = true
  nonempty : ∀ entries encoded, dumps (.dict entries) = some encoded → encoded ≠ []

/-- The identities that the tables check. -/
structure TableChecks (stores : NodeControlStores) : Prop where
  keys : ∀ row ∈ stores.keys, isKeyRegistration row.identity.registrationId = true
  uses : UsesNamed stores.secrets

/-- What the attempt relies on about a key. -/
structure KeyIdentified (workspaceId : String)
    (key : RegisteredDelegationSigningKey) : Prop where
  registration : isKeyRegistration key.identity.registrationId = true
  workspace : Library.Text.isReference workspaceId = true
  issuer : Library.Text.isReference key.identity.scope.issuer = true
  keyId : Library.Text.isReference key.identity.keyId = true

theorem readRow_identified {row : Rotation.SigningKeyRow}
    {key : RegisteredDelegationSigningKey}
    (hrow : isKeyRegistration row.identity.registrationId = true)
    (h : SigningKeyTable.readRow sha256Hexdigest row = .ok key) :
    KeyIdentified row.identity.scope.workspaceId key := by
  unfold SigningKeyTable.readRow at h
  simp only [bind_ok, requireThat_eq_ok] at h
  obtain ⟨publicKey, hpublic, ⟨⟩, -, hkey⟩ := h
  have hcolumns := Rotation.registeredDelegationSigningKey_columns hkey
  have hchecked := key.checked
  rw [hcolumns] at hchecked
  unfold Rotation.checkColumns Rotation.identifier at hchecked
  simp only [bind_ok, requireThat_eq_ok] at hchecked
  obtain ⟨⟨⟩, -, ⟨⟩, hworkspace, ⟨⟩, hissuer, -⟩ := hchecked
  unfold Rotation.delegationPublicKey at hpublic
  simp only [bind_ok, requireThat_eq_ok] at hpublic
  obtain ⟨⟨⟩, hkeyId, pem, -, hpure⟩ := hpublic
  cases hpure
  have hidentity := congrArg Rotation.SigningKeyColumns.identity hcolumns
  exact ⟨hidentity ▸ hrow, hworkspace, hidentity ▸ hissuer, hidentity ▸ hkeyId⟩

/-- An unambiguous active key is a row that is read. -/
theorem requireUnambiguousActive_ok {keys : SigningKeyTable} {workspaceId : String}
    {purpose : DelegationKeyPurpose} {key : RegisteredDelegationSigningKey}
    (h : keys.requireUnambiguousActive sha256Hexdigest workspaceId purpose = .ok key) :
    ∃ row ∈ keys,
      (keys.filter fun row => row.identity.scope.workspaceId = workspaceId &&
          row.identity.scope.purpose = purpose && row.status = .active) = [row] ∧
      row.identity.scope.workspaceId = workspaceId ∧
      row.identity.scope.purpose = purpose ∧
      row.status = .active ∧ SigningKeyTable.readRow sha256Hexdigest row = .ok key := by
  unfold SigningKeyTable.requireUnambiguousActive at h
  split at h
  · rename_i row hrows
    have hmem : row ∈ keys.filter _ := hrows ▸ List.mem_singleton_self row
    rw [List.mem_filter] at hmem
    simp only [Bool.and_eq_true, decide_eq_true_eq] at hmem
    exact ⟨row, hmem.1, hrows, hmem.2.1.1, hmem.2.1.2, hmem.2.2, h⟩
  · cases h

theorem SelectsKey.identified {keys : SigningKeyTable} {workspaceId : String}
    {purpose : DelegationKeyPurpose} {key : RegisteredDelegationSigningKey}
    (hkeys : ∀ row ∈ keys, isKeyRegistration row.identity.registrationId = true)
    (h : SelectsKey keys workspaceId purpose key) : KeyIdentified workspaceId key := by
  obtain ⟨row, hmem, -, rfl, -, -, hread⟩ := requireUnambiguousActive_ok h.active
  exact readRow_identified (hkeys row hmem) hread

/-- What was bounded is within its bound as bytes. -/
theorem isBoundedBytes_of {dumps : CanonicalJson} (htexts : CanonicalTexts dumps)
    {raise : String → WireError} {exceeds name : String} {entries : PyDict}
    {maximum : Nat} {encoded : Bytes}
    (h : boundedCanonicalBytes dumps raise exceeds (.dict entries) maximum name =
      .ok encoded) :
    dumps (.dict entries) = some encoded ∧
    isBoundedBytes maximum (.ok encoded) = true := by
  unfold boundedCanonicalBytes at h
  split at h
  · cases h
  · rename_i bytes hbytes
    split at h
    · rename_i hlength
      cases h
      have hne := List.length_pos_of_ne_nil (htexts.nonempty _ _ hbytes)
      refine ⟨hbytes, ?_⟩
      simp only [isBoundedBytes, Bool.and_eq_true, decide_eq_true_eq]
      exact ⟨hne, hlength⟩
    · cases h

theorem bytes_of_bounded {maximum : Nat} {bytes : Except WireError Bytes}
    (h : isBoundedBytes maximum bytes = true) : ∃ encoded, bytes = .ok encoded := by
  cases bytes with
  | ok encoded => exact ⟨encoded, rfl⟩
  | error e => cases h

/-- A request is within its bound. -/
theorem request_bounded {dumps : CanonicalJson} (htexts : CanonicalTexts dumps)
    {request : NodeControlCommandRequest} (h : request.Constructible dumps) :
    isBoundedBytes 16384 (request.canonicalBytes dumps) = true ∧
      isIdentifier request.requestId = true ∧
      isIdentifier request.idempotencyKey = true := by
  have hcheck := h.1
  unfold NodeControlCommandRequest.check validateDescriptorSize at hcheck
  simp only [bind_ok] at hcheck
  obtain ⟨⟨⟩, hrequest, ⟨⟩, hkey, ⟨⟩, -, encoded, hencoded, -⟩ := hcheck
  have hbounded := isBoundedBytes_of htexts hencoded
  have hbytes : dumps request.descriptor = some encoded := hbounded.1
  refine ⟨?_, isIdentifier_of_accepted hrequest, isIdentifier_of_accepted hkey⟩
  rw [NodeControlCommandRequest.canonicalBytes, hbytes]
  exact hbounded.2

/-- The identities of a checked transit grant. -/
theorem transitCheck_identified {dumps : CanonicalJson} (htexts : CanonicalTexts dumps)
    {grant : DelegatedGatewayNodeControlTransitGrant} (h : grant.check dumps = .ok ()) :
    isBoundedBytes 2834 (grant.canonicalBytes dumps) = true ∧
      isIdentifier grant.attemptId = true ∧ isIdentifier grant.jti = true := by
  unfold DelegatedGatewayNodeControlTransitGrant.check at h
  simp only [bind_ok] at h
  obtain ⟨⟨⟩, -, ⟨⟩, -, ⟨⟩, hattempt, ⟨⟩, -, ⟨⟩, -, ⟨⟩, hjti, ⟨⟩, -, ⟨⟩, -, ⟨⟩,
    -, ⟨⟩, -, -, -, encoded, hencoded, -⟩ := h
  refine ⟨?_, isIdentifier_of_transit hattempt, isIdentifier_of_transit hjti⟩
  rw [hencoded]
  unfold DelegatedGatewayNodeControlTransitGrant.canonicalBytes at hencoded
  rw [bind_ok] at hencoded
  obtain ⟨audience, -, hbytes⟩ := hencoded
  exact (isBoundedBytes_of htexts hbytes).2

theorem workloadCheck_identified {dumps : CanonicalJson} (htexts : CanonicalTexts dumps)
    {grant : DelegatedWorkloadNodeControlGrant} (h : grant.check dumps = .ok ()) :
    isBoundedBytes 2111 (grant.canonicalBytes dumps) = true ∧
    isIdentifier grant.jti = true := by
  unfold DelegatedWorkloadNodeControlGrant.check at h
  simp only [bind_ok] at h
  obtain ⟨⟨⟩, -, ⟨⟩, -, ⟨⟩, -, ⟨⟩, -, ⟨⟩, -, ⟨⟩, -, ⟨⟩, -, ⟨⟩, hjti, encoded,
    hencoded, -⟩ := h
  refine ⟨?_, isIdentifier_of_accepted hjti⟩
  rw [hencoded]
  exact (isBoundedBytes_of htexts hencoded).2

section Attempt

variable {dumps : CanonicalJson} {lifetime : GrantLifetime} {stores : NodeControlStores}
  {command : RequestNodeControlIntent dumps} {draws : Option IntentDraws}
  {selected : SelectedAuthority} {transitUse workloadUse : AuthorizedSecretUse}

/-- **What a stored attempt is checked for.** -/
theorem attempt_check_eq_ok {attempt : NodeControlIntendedAttempt} :
    attempt.check dumps = .ok () ↔ (canonicalInstant attempt.intendedAt).isSome = true ∧
      attempt.patternsHold = true ∧ attempt.bytesBounded dumps = true ∧
        attempt.grantsMatch dumps = true := by
  unfold NodeControlIntendedAttempt.check
  simp [and_assoc]

/-- The bytes of a new attempt are within their bounds. -/
theorem attempt_bytesBounded (htexts : CanonicalTexts dumps)
    (hselects : Selects lifetime stores command draws selected) :
    (attemptOf command selected transitUse workloadUse).bytesBounded dumps = true := by
  obtain ⟨digest, audience, hgrants⟩ := unsignedGrants_ok hselects.grants
  have hrequest := (request_bounded htexts command.constructible).1
  have htransit := (transitCheck_identified htexts hgrants.transitCheck).1
  have hworkload := (workloadCheck_identified htexts hgrants.workloadCheck).1
  simp only [NodeControlIntendedAttempt.bytesBounded, attemptOf, hrequest, htransit,
    hworkload, Bool.and_self]

theorem Selects.revision (hselects : Selects lifetime stores command draws selected) :
    selected.lineage.authoredGraphId = command.request.target.graphRevision.value := by
  obtain ⟨projection, hcurrent, -⟩ := hselects.current
  exact (currentProjection_eq_ok.mp hcurrent).2.1

/-- Its grants match its request and its keys. -/
theorem attempt_grantsMatch
    (hselects : Selects lifetime stores command draws selected) :
    (attemptOf command selected transitUse workloadUse).grantsMatch dumps = true := by
  obtain ⟨digest, audience, hgrants⟩ := unsignedGrants_ok hselects.grants
  have htransit := hgrants.transit
  have hworkload := hgrants.workload
  simp only [NodeControlIntendedAttempt.grantsMatch, attemptOf, htransit, hworkload,
    transitGrantOf, workloadGrantOf, hselects.revision, hgrants.digested, decide_true,
    Bool.and_self]

/-- The identities of a key and of its use that an attempt checks. -/
theorem attempt_patterns (htexts : CanonicalTexts dumps) (htables : TableChecks stores)
    (hselects : Selects lifetime stores command draws selected)
    (hactor : isActorSubject command.actorId = true)
    (htransit : UseIdentified selected.draws transitUse)
    (hworkload : UseIdentified selected.draws workloadUse) :
    (attemptOf command selected transitUse workloadUse).patternsHold = true ↔
      isCanonicalIdentity selected.lineage.realizedProjectionId = true ∧
        isCanonicalIdentity selected.gatewayRuntimeId = true := by
  obtain ⟨digest, audience, hgrants⟩ := unsignedGrants_ok hselects.grants
  obtain ⟨htransitKey, hworkloadKey, -⟩ := selectKeys_eq_ok.mp hselects.keys
  have htransitKey := htransitKey.identified htables.keys
  have hworkloadKey := hworkloadKey.identified htables.keys
  obtain ⟨-, hattempt, hjti⟩ := transitCheck_identified htexts hgrants.transitCheck
  obtain ⟨-, hjti'⟩ := workloadCheck_identified htexts hgrants.workloadCheck
  obtain ⟨-, hrequest, -⟩ := request_bounded htexts command.constructible
  have htarget := isIdentifier_of_accepted command.request.target.workspaceId.accepted
  have hrevision :=
    isIdentifier_of_accepted command.request.target.graphRevision.accepted
  have hgraph := canonicalIdentity_of_isIdentifier hrevision
  rw [← hselects.revision] at hgraph
  rw [hgrants.transit] at hattempt hjti
  rw [hgrants.workload] at hjti'
  simp only [transitGrantOf, workloadGrantOf] at hattempt hjti hjti'
  simp only [NodeControlIntendedAttempt.patternsHold,
    NodeControlIntendedAttempt.identifiers, NodeControlIntendedAttempt.workspaceId,
    NodeControlIntendedAttempt.requestId, attemptOf, hgrants.transit, hgrants.workload,
    transitGrantOf, workloadGrantOf, isActorSubject, List.all_cons, List.all_nil,
    hgraph, canonicalIdentity_of_isIdentifier hattempt,
    canonicalIdentity_of_isIdentifier hjti, canonicalIdentity_of_isIdentifier hjti',
    canonicalIdentity_of_isIdentifier hrequest,
    canonicalIdentity_of_isIdentifier htarget,
    canonicalIdentity_of_reference htransitKey.keyId, canonicalIdentity_of_reference
      hworkloadKey.keyId, htransitKey.issuer, hworkloadKey.issuer,
    htransitKey.registration, hworkloadKey.registration, htransit.authorization,
    hworkload.authorization, htransit.correlation, hworkload.correlation,
    Bool.and_true, Bool.true_and, Bool.and_eq_true]
  exact and_iff_left (by simpa only [isActorSubject] using hactor)

/-- **Only two identities can keep the attempt from being built.** -/
theorem attempt_check_iff (htexts : CanonicalTexts dumps) (htables : TableChecks stores)
    (hselects : Selects lifetime stores command draws selected)
    (hactor : isActorSubject command.actorId = true)
    (htransit : UseIdentified selected.draws transitUse)
    (hworkload : UseIdentified selected.draws workloadUse) :
    (attemptOf command selected transitUse workloadUse).check dumps = .ok () ↔
      isCanonicalIdentity selected.lineage.realizedProjectionId = true ∧
        isCanonicalIdentity selected.gatewayRuntimeId = true := by
  rw [attempt_check_eq_ok, attempt_bytesBounded htexts hselects, attempt_grantsMatch
    hselects, attempt_patterns htexts htables hselects hactor htransit hworkload]
  simp only [and_true]
  exact and_iff_right htransit.instant

/-! ## What a checked attempt answers -/

variable {attempt : NodeControlIntendedAttempt} {replayed : Bool}

/-- The identities of a checked attempt have their forms. -/
theorem check_registrations (h : attempt.check dumps = .ok ()) :
    isKeyRegistration attempt.transitKeyRegistrationId = true ∧
      isKeyRegistration attempt.workloadKeyRegistrationId = true ∧
      isAuthorization attempt.transitAuthorizationId = true ∧
      isAuthorization attempt.workloadAuthorizationId = true := by
  obtain ⟨-, hpatterns, -, -⟩ := attempt_check_eq_ok.mp h
  simp only [NodeControlIntendedAttempt.patternsHold, Bool.and_eq_true] at hpatterns
  obtain ⟨⟨⟨⟨⟨⟨⟨-, -⟩, htransit⟩, hworkload⟩, htransitUse⟩, hworkloadUse⟩, -⟩, -⟩ :=
    hpatterns
  exact ⟨htransit, hworkload, htransitUse, hworkloadUse⟩

/-- The answer to an attempt: its own, and the signatures it waits for. -/
def preparationOf (attempt : NodeControlIntendedAttempt) (replayed : Bool) :
    NodeControlIntentPreparation where
  attempt := attempt
  replayed := replayed
  transitSigning := ⟨attempt.transitKeyRegistrationId, attempt.transitAuthorizationId,
    attempt.transitGrant⟩
  workloadSigning :=
    ⟨attempt.workloadKeyRegistrationId, attempt.workloadAuthorizationId,
    attempt.workloadGrant⟩

/-- **What was committed is answered**: nothing is refused after the commit. -/
theorem preparation_eq (h : attempt.check dumps = .ok ()) :
    preparation attempt replayed = .ok (preparationOf attempt replayed) := by
  obtain ⟨htransit, hworkload, htransitUse, hworkloadUse⟩ := check_registrations h
  simp only [preparation, deferredSigningRequest, NodeControlIntentFault.guard,
    htransit, hworkload, htransitUse, hworkloadUse]
  rfl

/-! ## Fingerprints -/

theorem intentFingerprint_of (htexts : CanonicalTexts dumps)
    {actorSubject digest : String} {gatewayNodeId : NodeControlGraphReference .node}
    {request : NodeControlCommandRequest}
    (hdigest : request.canonicalDigest dumps = .ok digest) :
    (∃ fingerprint,
      nodeControlIntentFingerprint dumps actorSubject gatewayNodeId request =
      .ok fingerprint) ↔ isActorSubject actorSubject = true := by
  obtain ⟨encoded, hencoded⟩ := Option.isSome_iff_exists.mp
    (htexts.documents actorSubject gatewayNodeId.value digest)
  unfold nodeControlIntentFingerprint
  rw [hdigest]
  dsimp only
  rw [hencoded]
  by_cases hactor : isActorSubject actorSubject = true
  · rw [if_pos hactor]
    exact iff_of_true ⟨_, rfl⟩ hactor
  · rw [if_neg hactor]
    refine iff_of_false ?_ hactor
    rintro ⟨fingerprint, ⟨⟩⟩

theorem digest_of_bounded {request : NodeControlCommandRequest} {maximum : Nat}
    (h : isBoundedBytes maximum (request.canonicalBytes dumps) = true) :
    ∃ digest, request.canonicalDigest dumps = .ok digest := by
  obtain ⟨encoded, hencoded⟩ := bytes_of_bounded h
  rw [NodeControlCommandRequest.canonicalDigest, hencoded]
  exact ⟨_, rfl⟩

/-- A command has a fingerprint exactly when its actor is a subject. -/
theorem command_fingerprint (htexts : CanonicalTexts dumps) :
    (∃ fingerprint,
      nodeControlIntentFingerprint dumps command.actorId command.gatewayNodeId
      command.request = .ok fingerprint) ↔ isActorSubject command.actorId = true := by
  obtain ⟨digest, hdigest⟩ :=
    digest_of_bounded (request_bounded htexts command.constructible).1
  exact intentFingerprint_of htexts hdigest

/-- A checked attempt has one. -/
theorem attempt_fingerprint (htexts : CanonicalTexts dumps)
    {attempt : NodeControlIntendedAttempt} (h : attempt.check dumps = .ok ()) :
    ∃ fingerprint, attempt.intentFingerprint dumps = .ok fingerprint := by
  obtain ⟨-, hpatterns, hbounded, -⟩ := attempt_check_eq_ok.mp h
  simp only [NodeControlIntendedAttempt.bytesBounded, Bool.and_eq_true] at hbounded
  simp only [NodeControlIntendedAttempt.patternsHold, Bool.and_eq_true] at hpatterns
  obtain ⟨digest, hdigest⟩ := digest_of_bounded hbounded.1.1
  exact (intentFingerprint_of htexts hdigest).mpr hpatterns.1.1.1.1.1.1.2

end Attempt

end ControlPlaneKit.NodeControl
