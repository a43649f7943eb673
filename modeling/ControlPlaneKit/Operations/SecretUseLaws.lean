import ControlPlaneKit.Operations.SecretProviderLaws
import ControlPlaneKit.Operations.SecretUses

/-!
# SecretUseLaws — every use stands under two active registrations

The document of a use determines it, so a stored authorisation answers the use it
was made for and no other.  Registrations keep what they say, so a use that was
covered once is covered again exactly while both of its registrations are active.
-/

namespace ControlPlaneKit.Operations

open ControlPlaneKit.Library
open ControlPlaneKit.Library.EventFold (bind_ok)
open ControlPlaneKit.Library.PyValue (quoted)
open ControlPlaneKit.Library.QuotedText (quoted_append_inj)
open ControlPlaneKit.Library.Supersession
open ControlPlaneKit.Library.Transactions
  (settle run run_invariant run_relation run_cons run_nil
  run_append run_concat settle_ok settle_error settle_cases)
open ControlPlaneKit.Topology

/-! ## The document of a use -/

/-- A text or `null` ends where the next character stands. -/
theorem textOrNull_append_inj {a b : Option String} {rest rest' : List Char}
    (h : textOrNull a ++ rest = textOrNull b ++ rest') : a = b ∧ rest = rest' := by
  cases a with
  | some value =>
      cases b with
      | some other =>
          obtain ⟨rfl, hrest⟩ := quoted_append_inj h
          exact ⟨rfl, hrest⟩
      | none => simp [textOrNull, quoted] at h
  | none =>
      cases b with
      | some other => simp [textOrNull, quoted] at h
      | none => exact ⟨rfl, List.append_cancel_left h⟩

/-- An object determines its values. -/
theorem objectTail_inj : ∀ {a b : List (String × Option String)},
    a.map (·.1) = b.map (·.1) → objectTail a = objectTail b → a = b
  | [], [], _, _ => rfl
  | [(key, value)], [(key', value')], hkeys, h => by
      obtain ⟨rfl, hrest⟩ := quoted_append_inj h
      obtain ⟨rfl, -⟩ := textOrNull_append_inj (List.cons.inj hrest).2
      rfl
  | (key, value) :: second :: rest, (key', value') :: second' :: rest', hkeys, h => by
      obtain ⟨rfl, hvalue⟩ := quoted_append_inj h
      obtain ⟨rfl, htail⟩ := textOrNull_append_inj (List.cons.inj hvalue).2
      rw [objectTail_inj (List.cons.inj hkeys).2 (List.cons.inj htail).2]
  | [], _ :: _, hkeys, _ => by simp at hkeys
  | _ :: _, [], hkeys, _ => by simp at hkeys
  | [_], _ :: _ :: _, hkeys, _ => by simp at hkeys
  | _ :: _ :: _, [_], hkeys, _ => by simp at hkeys

theorem secretUseIntent_value_inj {intent other : SecretUseIntent}
    (h : intent.value = other.value) : intent = other := by
  cases intent <;> cases other <;> first | rfl | exact absurd h (by decide)

/-- **A document determines its use** and the registrations it stands under. -/
theorem SecretUse.document_inj {use other : SecretUse}
    {reference reference' provider provider' : String}
    (h : use.document reference provider = other.document reference' provider') :
    use = other ∧ reference = reference' ∧ provider = provider' := by
  have hkeys : (use.semantics reference provider).map (·.1) =
      (other.semantics reference' provider').map (·.1) := rfl
  have hentries := objectTail_inj hkeys (List.cons.inj (String.ofList_injective h)).2
  simp only [SecretUse.semantics, List.cons.injEq, Prod.mk.injEq, Option.some.injEq,
    true_and, and_true] at hentries
  obtain ⟨hactivity, hactor, hcorrelation, heffect, hintent, hoperation,
    hprobe, hprovider, hreference, hregistration, hrun, hsession,
    hworkspace⟩ := hentries
  refine ⟨?_, hregistration, hprovider⟩
  cases use with | mk _ subject =>
  cases other with | mk _ subject' =>
  cases subject
  cases subject'
  cases hreference
  cases secretUseIntent_value_inj hintent
  cases hactivity; cases hactor; cases hcorrelation; cases heffect; cases hoperation
  cases hprobe; cases hrun; cases hsession; cases hworkspace
  rfl

/-! ## The registrations of a use -/

/-- The rows admit the use, whatever their status. -/
structure Admits (state : SecretRegistrations) (use : SecretUse)
    (reference : RegisteredSecretReference)
    (provider : RegisteredSecretProvider) : Prop where
  reference_mem : reference ∈ state.references
  provider_mem : provider ∈ state.providers
  reference_scope : reference.scope = use.workspaceId
  provider_scope : provider.scope = use.workspaceId
  subject : reference.subject = use.reference
  registered : reference.material.providerRegistrationId = provider.registrationId
  identity : referenceProviderId use.reference = provider.subject
  narrower : ∀ intent ∈ reference.material.allowedIntents,
    intent ∈ provider.material.allowedIntents
  within : ∃ within ∈ provider.material.allowedReferencePrefixes,
    referenceIsWithin use.reference within = true
  intent : use.intent ∈ reference.material.allowedIntents

/-- At this state the named registrations are active and admit the use. -/
def SecretRegistrations.Covered (state : SecretRegistrations) (use : SecretUse)
    (referenceRegistrationId providerRegistrationId : String) : Prop :=
  ∃ reference provider, Admits state use reference provider ∧
    use.intent ∈ provider.material.allowedIntents ∧
    reference.registrationId = referenceRegistrationId ∧ reference.status = .active ∧
    provider.registrationId = providerRegistrationId ∧ provider.status = .active

/-- The registrations of a use are active. -/
def SecretRegistrations.StillActive (state : SecretRegistrations)
    (use : AuthorizedSecretUse) : Prop :=
  (∃ reference ∈ state.references,
      reference.registrationId = use.referenceRegistrationId ∧
      reference.status = .active) ∧
    ∃ provider ∈ state.providers,
      provider.registrationId = use.providerRegistrationId ∧ provider.status = .active

theorem requireActiveRegistration_ok {rows : List RegisteredSecretProvider}
    {workspaceId registrationId : String} {provider : RegisteredSecretProvider}
    (hsound : Supersession.Sound rows) :
    SecretProviderStore.requireActiveRegistration rows workspaceId registrationId =
      .ok provider ↔
      provider ∈ rows ∧ provider.scope = workspaceId ∧
      provider.registrationId = registrationId ∧
        provider.status = .active := by
  rw [SecretProviderStore.requireActiveRegistration]
  constructor
  · intro h
    cases hrow : byId rows workspaceId registrationId with
    | none => simp [hrow, found, bind_ok] at h
    | some row =>
        simp only [hrow, found, Outcome.ok_bind, bind_ok, requireThat_eq_ok,
          decide_eq_true_eq] at h
        obtain ⟨-, hactive, hpure⟩ := h
        cases hpure
        obtain ⟨hmem, hscope, hid⟩ := byId_eq_some hrow
        exact ⟨hmem, hscope, hid, hactive⟩
  · rintro ⟨hmem, rfl, rfl, hactive⟩
    rw [hsound.byId_eq hmem]
    simp only [found, hactive, requireThat, decide_true, Outcome.ok_bind, if_true]
    rfl

theorem getActiveForUpdate_ok {rows : List RegisteredSecretReference}
    {workspaceId : String} {subject : SecretReference}
    {reference : RegisteredSecretReference} (hsound : Supersession.Sound rows) :
    SecretReferenceStore.getActiveForUpdate rows workspaceId subject = .ok reference ↔
      reference ∈ rows ∧ reference.scope = workspaceId ∧ reference.subject = subject ∧
        reference.status = .active := by
  rw [SecretReferenceStore.getActiveForUpdate]
  constructor
  · intro h
    cases hrow : activeOf rows workspaceId subject with
    | none => simp [hrow, found] at h
    | some row =>
        simp only [hrow, found, Except.ok.injEq] at h
        subst h
        obtain ⟨hchain, hactive⟩ := activeOf_eq_some hrow
        obtain ⟨hmem, hscope, hsubject⟩ := mem_chain.mp hchain
        exact ⟨hmem, hscope, hsubject, hactive⟩
  · rintro ⟨hmem, hscope, hsubject, hactive⟩
    cases hrow : activeOf rows workspaceId subject with
    | none =>
        exact absurd hactive (activeOf_eq_none.mp hrow reference hmem hscope hsubject)
    | some row =>
        obtain ⟨hchain, hrowActive⟩ := activeOf_eq_some hrow
        obtain ⟨hrowMem, hrowScope, hrowSubject⟩ := mem_chain.mp hchain
        rw [hsound.active_unique hrowMem hmem (hrowScope.trans hscope.symm)
          (hrowSubject.trans hsubject.symm) hrowActive hactive]
        rfl

/-- **A use finds its registrations** exactly while they are active and admit it. -/
theorem coveringRegistrations_ok {command : AuthorizeSecretUse}
    {state : SecretRegistrations} {reference : RegisteredSecretReference}
    {provider : RegisteredSecretProvider} (hsound : state.Sound) :
    coveringRegistrations command state = .ok (reference, provider) ↔
      Admits state command.toSecretUse reference provider ∧ reference.status = .active ∧
        provider.status = .active := by
  simp only [coveringRegistrations, validateReferenceAdmission, bind_ok,
    requireThat_eq_ok, getActiveForUpdate_ok hsound.references,
    requireActiveRegistration_ok hsound.providers, decide_eq_true_eq, List.all_eq_true,
    List.any_eq_true, List.contains_iff_mem]
  constructor
  · rintro ⟨row, ⟨hreference, hscope, hsubject, hactive⟩, holder,
      ⟨hprovider, hheld, hid, hholder⟩, ⟨⟩,
      ⟨⟨⟩, hsame, ⟨⟩, hidentity, ⟨⟩, hnarrower, hwithin⟩, ⟨⟩, hintent, hpure⟩
    cases hpure
    rw [hsubject] at hidentity
    simp only [hsubject] at hwithin
    exact ⟨⟨hreference, hprovider, hscope, hheld, hsubject, hid.symm,
      hidentity, hnarrower, hwithin, hintent⟩, hactive, hholder⟩
  · rintro ⟨⟨hreference, hprovider, hscope, hheld, hsubject, hregistered,
      hidentity, hnarrower, hwithin, hintent⟩, hactive, hholder⟩
    refine ⟨reference, ⟨hreference, hscope, hsubject, hactive⟩, provider,
      ⟨hprovider, hheld, hregistered.symm, hholder⟩, (),
      ⟨(), hscope.trans hheld.symm, (), ?_, (),
        hnarrower, ?_⟩, (), hintent, rfl⟩
    · rw [hsubject, hidentity]
    · simpa only [hsubject] using hwithin

/-! ## One authorisation -/

variable {state after : SecretState} {command : AuthorizeSecretUse}
  {authorized : AuthorizedSecretUse}

theorem forCorrelation_eq_some {uses : List AuthorizedSecretUse}
    {workspaceId correlationId : String}
    (h : SecretUseAuthorizationStore.forCorrelation uses workspaceId correlationId =
      some authorized) :
    authorized ∈ uses ∧ authorized.workspaceId = workspaceId ∧
      authorized.correlationId = correlationId := by
  have hrow := List.find?_some h
  simp only [Bool.and_eq_true, decide_eq_true_eq] at hrow
  exact ⟨List.mem_of_find?_eq_some h, hrow⟩

/-- The correlation of an authorisation, in its workspace. -/
def AuthorizedSecretUse.correlation (use : AuthorizedSecretUse) : String × String :=
  (use.workspaceId, use.correlationId)

/-- What the stored authorisations keep. -/
structure SecretState.Sound (state : SecretState) : Prop where
  registrations : state.toSecretRegistrations.Sound
  correlations : (state.uses.map (·.correlation)).Nodup
  named : ∀ use ∈ state.uses, use.intentFingerprint = sha256Hexdigest use.document
  admitted : ∀ use ∈ state.uses, ∃ reference provider,
    Admits state.toSecretRegistrations use.toSecretUse reference provider ∧
      reference.registrationId = use.referenceRegistrationId ∧
      provider.registrationId = use.providerRegistrationId

theorem SecretState.Sound.forCorrelation_eq (hsound : state.Sound)
    (hmem : authorized ∈ state.uses) :
    SecretUseAuthorizationStore.forCorrelation state.uses authorized.workspaceId
      authorized.correlationId = some authorized := by
  cases hfound : SecretUseAuthorizationStore.forCorrelation state.uses
      authorized.workspaceId
      authorized.correlationId with
  | none =>
      have hnone := List.find?_eq_none.mp hfound authorized hmem
      simp at hnone
  | some other =>
      obtain ⟨hother, hworkspace, hcorrelation⟩ := forCorrelation_eq_some hfound
      rw [List.inj_on_of_nodup_map hsound.correlations hother hmem
        (Prod.ext hworkspace hcorrelation)]

/-- The authorisation answers for its correlation, or it is new. -/
theorem authorizedOrAdded_ok {uses remaining : List AuthorizedSecretUse}
    {candidate : AuthorizedSecretUse}
    (h : authorizedOrAdded uses candidate = .ok (authorized, remaining)) :
    (SecretUseAuthorizationStore.forCorrelation uses candidate.workspaceId
          candidate.correlationId = some authorized ∧
        authorized.intentFingerprint = candidate.intentFingerprint ∧ remaining = uses) ∨
      (candidate.correlation ∉ uses.map (·.correlation) ∧ authorized = candidate ∧
        remaining = uses ++ [candidate]) := by
  unfold authorizedOrAdded at h
  split at h
  · rename_i existing hexisting
    split at h
    · cases h
    · rename_i hsame
      cases h
      exact .inl ⟨hexisting, not_not.mp hsame, rfl⟩
  · rw [bind_ok] at h
    obtain ⟨stored, hadd, hpure⟩ := h
    cases hpure
    unfold SecretUseAuthorizationStore.add at hadd
    split at hadd
    · cases hadd
    · rename_i hfree
      cases hadd
      refine .inr ⟨fun hmem => hfree ?_, rfl, rfl⟩
      obtain ⟨use, huse, hcorrelation⟩ := List.mem_map.mp hmem
      obtain ⟨hworkspace, hcorrelated⟩ := Prod.mk.inj hcorrelation
      exact List.any_eq_true.mpr ⟨use, huse, by simp [hworkspace, hcorrelated]⟩

/-- What one authorisation asks and leaves. -/
theorem authorizeSecretUseInUnitOfWork_ok {provider : RegisteredSecretProvider} :
    authorizeSecretUseInUnitOfWork command state = .ok ((authorized, provider), after) ↔
      command.check = .ok () ∧ ∃ reference uses,
        coveringRegistrations command state.toSecretRegistrations =
          .ok (reference, provider) ∧
          authorizedOrAdded state.uses
            (authorizedSecretUseFor command reference provider) =
            .ok (authorized, uses) ∧
          after = { state with uses := uses } := by
  simp only [authorizeSecretUseInUnitOfWork, bind_ok, Prod.exists]
  constructor
  · rintro ⟨⟨⟩, hcheck, reference, holder, hcovering, use, uses, hadded, hpure⟩
    cases hpure
    exact ⟨hcheck, reference, uses, hcovering, hadded, rfl⟩
  · rintro ⟨hcheck, reference, uses, hcovering, hadded, rfl⟩
    exact ⟨(), hcheck, reference, provider, hcovering, authorized, uses, hadded, rfl⟩

/-- The new authorisation stands under the registrations that were found. -/
theorem authorizedSecretUseFor_named (command : AuthorizeSecretUse)
    (reference : RegisteredSecretReference) (provider : RegisteredSecretProvider) :
    (authorizedSecretUseFor command reference provider).intentFingerprint =
      sha256Hexdigest (authorizedSecretUseFor command reference provider).document :=
        rfl

theorem Admits.kept {registrations later : SecretRegistrations} {use : SecretUse}
    {reference : RegisteredSecretReference} {provider : RegisteredSecretProvider}
    (hadmits : Admits registrations use reference provider)
    (hreferences : Kept registrations.references later.references)
    (hproviders : Kept registrations.providers later.providers) :
    ∃ reference' provider', Admits later use reference' provider' ∧
      reference'.registrationId = reference.registrationId ∧
      provider'.registrationId = provider.registrationId := by
  obtain ⟨reference', hreference, hlink, hmaterial⟩ :=
    hreferences _ hadmits.reference_mem
  obtain ⟨provider', hprovider, hlink', hmaterial'⟩ := hproviders _ hadmits.provider_mem
  have hid := congrArg Link.registrationId hlink
  have hid' := congrArg Link.registrationId hlink'
  refine ⟨reference', provider',
    ⟨hreference, hprovider, ?_, ?_, ?_, ?_, ?_, ?_, ?_, ?_⟩, hid, hid'⟩
  · exact (congrArg Link.scope hlink).trans hadmits.reference_scope
  · exact (congrArg Link.scope hlink').trans hadmits.provider_scope
  · exact (congrArg Link.subject hlink).trans hadmits.subject
  · rw [hmaterial, hid', hadmits.registered]
  · rw [hadmits.identity, congrArg Link.subject hlink']
  · rw [hmaterial, hmaterial']
    exact hadmits.narrower
  · rw [hmaterial']
    exact hadmits.within
  · rw [hmaterial]
    exact hadmits.intent

/-- **One authorisation keeps the invariant**, and its answer is stored. -/
theorem SecretState.Sound.authorize {provider : RegisteredSecretProvider}
    (hsound : state.Sound) (h : authorizeSecretUseInUnitOfWork command state =
      .ok ((authorized, provider), after)) :
    after.Sound ∧ after.toSecretRegistrations = state.toSecretRegistrations ∧
      state.uses <+: after.uses ∧ authorized ∈ after.uses := by
  obtain ⟨-, reference, uses, hcovering, hadded, rfl⟩ :=
    authorizeSecretUseInUnitOfWork_ok.mp h
  obtain ⟨hadmits, -, -⟩ := (coveringRegistrations_ok hsound.registrations).mp hcovering
  rcases authorizedOrAdded_ok hadded with ⟨hexisting, -, rfl⟩ | ⟨hfree, rfl, rfl⟩
  · exact ⟨hsound, rfl, List.prefix_refl _, (forCorrelation_eq_some hexisting).1⟩
  · refine ⟨⟨hsound.registrations, ?_, ?_, ?_⟩, rfl, List.prefix_append _ _, by simp⟩
    · rw [List.map_append, List.map_singleton]
      exact List.nodup_append_comm.mp (List.nodup_cons.mpr ⟨hfree, hsound.correlations⟩)
    · intro use huse
      rcases List.mem_append.mp huse with huse | huse
      · exact hsound.named use huse
      · rw [List.mem_singleton.mp huse]
        exact authorizedSecretUseFor_named command reference provider
    · intro use huse
      rcases List.mem_append.mp huse with huse | huse
      · exact hsound.admitted use huse
      · rw [List.mem_singleton.mp huse]
        exact ⟨reference, provider, hadmits, rfl, rfl⟩

/-! ## Along a history -/

/-- A command changes the registrations, or authorises one use. -/
theorem SecretState.execute_ok {command : SecretCommand}
    (h : SecretState.execute command state = .ok ((), after)) :
    (∃ registration,
      SecretRegistrations.execute registration state.toSecretRegistrations =
          .ok ((), after.toSecretRegistrations) ∧ after.uses = state.uses) ∨
      ∃ command authorized provider,
        authorizeSecretUseInUnitOfWork command state =
          .ok ((authorized, provider), after) := by
  cases command with
  | registration command =>
      simp only [SecretState.execute, bind_ok] at h
      obtain ⟨⟨⟨⟩, registrations⟩, hexecute, hpure⟩ := h
      cases hpure
      exact .inl ⟨command, hexecute, rfl⟩
  | authorize command =>
      simp only [SecretState.execute, authorizeSecretUse, bind_ok] at h
      obtain ⟨_, ⟨⟨⟨authorized, provider⟩, _⟩, hauthorize, hanswer⟩, hpure⟩ := h
      cases hanswer
      cases hpure
      exact .inr ⟨command, authorized, provider, hauthorize⟩
  | authorizeResolution command =>
      simp only [SecretState.execute, Operations.authorizeResolution, bind_ok] at h
      obtain ⟨⟨grant, _⟩,
        ⟨⟨⟨authorized, provider⟩, _⟩, hauthorize, _, _, hanswer⟩, hpure⟩ := h
      cases hanswer
      cases hpure
      exact .inr ⟨command, authorized, provider, hauthorize⟩

theorem SecretState.Sound.step {command : SecretCommand} (hsound : state.Sound)
    (h : SecretState.execute command state = .ok ((), after)) :
    after.Sound ∧ state.uses <+: after.uses := by
  rcases SecretState.execute_ok h with ⟨registration, hexecute, huses⟩ |
    ⟨command, authorized, provider, hauthorize⟩
  · have ⟨hproviders, hreferences⟩ :=
      SecretRegistrations.execute_moves hsound.registrations hexecute
    refine ⟨⟨SecretRegistrations.sound_step hsound.registrations hexecute, ?_, ?_, ?_⟩,
      ?_⟩
    · rw [huses]
      exact hsound.correlations
    · rw [huses]
      exact hsound.named
    · rw [huses]
      intro use huse
      obtain ⟨reference, provider, hadmits, hid, hid'⟩ := hsound.admitted use huse
      obtain ⟨reference', provider', hkept, hsame, hsame'⟩ :=
        hadmits.kept hreferences.kept hproviders.kept
      exact ⟨reference', provider', hkept, hsame.trans hid, hsame'.trans hid'⟩
    · exact huses.symm ▸ List.prefix_refl _
  · obtain ⟨hafter, -, hgrown, -⟩ := hsound.authorize hauthorize
    exact ⟨hafter, hgrown⟩

theorem SecretState.sound_empty : SecretState.empty.Sound where
  registrations := ⟨sound_nil, sound_nil⟩
  correlations := List.nodup_nil
  named _ huse := absurd huse List.not_mem_nil
  admitted _ huse := absurd huse List.not_mem_nil

theorem SecretState.sound_run (hsound : state.Sound) (history : List SecretCommand) :
    (run SecretState.execute state history).Sound :=
  run_invariant (fun _ _ _ _ hsound h => (hsound.step h).1) hsound history

theorem SecretState.sound_after (history : List SecretCommand) :
    (SecretState.after history).Sound :=
  SecretState.sound_run sound_empty history

/-- **No authorisation is lost**, along every run. -/
theorem SecretState.uses_run (hsound : state.Sound) (history : List SecretCommand) :
    state.uses <+: (run SecretState.execute state history).uses :=
  run_relation (R := fun s t => s.uses <+: t.uses) (fun _ => List.prefix_refl _)
    (fun _ _ _ => List.IsPrefix.trans) (fun _ _ _ _ hsound h => (hsound.step h).1)
    (fun _ _ _ _ hsound h => (hsound.step h).2) hsound history

/-! ## A correlation answers for one use -/

/-- The digests of the stored uses tell them from what the command may be authorised
for. -/
def SecretState.DigestsApart (state : SecretState)
    (command : AuthorizeSecretUse) : Prop :=
  ∀ use ∈ state.uses, ∀ reference ∈ state.references, ∀ provider ∈ state.providers,
    sha256Hexdigest use.document = sha256Hexdigest (command.toSecretUse.document
        reference.registrationId provider.registrationId) →
      use.document =
        command.toSecretUse.document reference.registrationId provider.registrationId

/-- A stored use with the digest of a candidate is the candidate's. -/
theorem SecretState.Sound.eq_candidate {reference : RegisteredSecretReference}
    {provider : RegisteredSecretProvider} (hsound : state.Sound)
    (hapart : state.DigestsApart command) (hmem : authorized ∈ state.uses)
    (hadmits : Admits state.toSecretRegistrations command.toSecretUse
      reference provider)
    (hsame : authorized.intentFingerprint =
      (authorizedSecretUseFor command reference provider).intentFingerprint) :
    authorized.toSecretUse = command.toSecretUse ∧
      authorized.referenceRegistrationId = reference.registrationId ∧
      authorized.providerRegistrationId = provider.registrationId := by
  rw [hsound.named authorized hmem, authorizedSecretUseFor_named] at hsame
  exact SecretUse.document_inj (hapart authorized hmem reference hadmits.reference_mem
    provider hadmits.provider_mem hsame)

/-- **An answer is covered** when it commits. -/
theorem SecretState.Sound.covered {provider : RegisteredSecretProvider}
    (hsound : state.Sound) (hapart : state.DigestsApart command)
    (h : authorizeSecretUseInUnitOfWork command state =
      .ok ((authorized, provider), after)) :
    authorized.toSecretUse = command.toSecretUse ∧
      after.toSecretRegistrations.Covered authorized.toSecretUse
        authorized.referenceRegistrationId authorized.providerRegistrationId := by
  obtain ⟨-, reference, uses, hcovering, hadded, rfl⟩ :=
    authorizeSecretUseInUnitOfWork_ok.mp h
  obtain ⟨hadmits, hactive, hholder⟩ :=
    (coveringRegistrations_ok hsound.registrations).mp hcovering
  have hanswer : authorized.toSecretUse = command.toSecretUse ∧
      authorized.referenceRegistrationId = reference.registrationId ∧
      authorized.providerRegistrationId = provider.registrationId := by
    rcases authorizedOrAdded_ok hadded with ⟨hexisting, hsame, -⟩ | ⟨-, rfl, -⟩
    · exact hsound.eq_candidate hapart
        (forCorrelation_eq_some hexisting).1 hadmits hsame
    · exact ⟨rfl, rfl, rfl⟩
  obtain ⟨huse, hreference, hprovider⟩ := hanswer
  rw [huse, hreference, hprovider]
  exact ⟨rfl, reference, provider, hadmits, hadmits.narrower _ hadmits.intent,
    rfl, hactive, rfl, hholder⟩

/-- **A repetition** is answered by the stored authorisation, or refused. -/
theorem SecretState.Sound.again {answer : AuthorizedSecretUse}
    {provider : RegisteredSecretProvider} (hsound : state.Sound)
    (hmem : authorized ∈ state.uses)
    (hsame : command.toSecretUse = authorized.toSecretUse) (h :
      authorizeSecretUseInUnitOfWork command state = .ok ((answer, provider), after)) :
    answer = authorized ∧ after = state := by
  obtain ⟨-, reference, uses, -, hadded, rfl⟩ := authorizeSecretUseInUnitOfWork_ok.mp h
  have hcorrelation : (authorizedSecretUseFor command reference provider).correlation =
      authorized.correlation := by
    rw [AuthorizedSecretUse.correlation, AuthorizedSecretUse.correlation, ← hsame]
    rfl
  obtain ⟨hworkspace, hcorrelated⟩ := Prod.mk.inj hcorrelation
  rcases authorizedOrAdded_ok hadded with ⟨hexisting, -, rfl⟩ | ⟨hfree, -, -⟩
  · rw [hworkspace, hcorrelated, hsound.forCorrelation_eq hmem] at hexisting
    exact ⟨(Option.some.inj hexisting).symm, rfl⟩
  · rw [hcorrelation] at hfree
    exact absurd (List.mem_map_of_mem hmem) hfree

/-- **A repetition is answered** exactly while its registrations are active. -/
theorem SecretState.Sound.answered (hsound : state.Sound)
    (hmem : authorized ∈ state.uses) (hsame : command.toSecretUse =
      authorized.toSecretUse) (hcheck : command.check = .ok ())
    (hapart : state.DigestsApart command) :
    (∃ provider, authorizeSecretUseInUnitOfWork command state =
        .ok ((authorized, provider), state) ∧ provider.scope = authorized.workspaceId ∧
          provider.registrationId = authorized.providerRegistrationId) ↔
      state.toSecretRegistrations.StillActive authorized := by
  constructor
  · rintro ⟨provider, h, -, -⟩
    obtain ⟨-, reference, holder, hadmits, -, hid, hactive, hid', hholder⟩ :=
      hsound.covered hapart h
    exact ⟨⟨reference, hadmits.reference_mem, hid, hactive⟩,
      holder, hadmits.provider_mem, hid', hholder⟩
  · rintro ⟨⟨row, hrow, hrowId, hactive⟩, holder, hholder, hholderId, hheld⟩
    obtain ⟨reference, provider, hadmits, hid, hid'⟩ := hsound.admitted authorized hmem
    rw [hsound.registrations.references.eq_of_id hrow hadmits.reference_mem
      (hrowId.trans hid.symm)] at hactive
    rw [hsound.registrations.providers.eq_of_id hholder hadmits.provider_mem
      (hholderId.trans hid'.symm)] at hheld
    have hfingerprint : authorized.intentFingerprint =
        (authorizedSecretUseFor command reference provider).intentFingerprint := by
      rw [hsound.named authorized hmem, authorizedSecretUseFor_named,
        AuthorizedSecretUse.document, ← hsame, ← hid, ← hid']
      rfl
    have hexisting : SecretUseAuthorizationStore.forCorrelation state.uses
        (authorizedSecretUseFor command reference provider).workspaceId
        (authorizedSecretUseFor command reference provider).correlationId =
          some authorized := by
      rw [← hsound.forCorrelation_eq hmem, ← hsame]
      rfl
    refine ⟨provider, authorizeSecretUseInUnitOfWork_ok.mpr
      ⟨hcheck, reference, state.uses,
      (coveringRegistrations_ok hsound.registrations).mpr
        ⟨?_, hactive, hheld⟩, ?_, rfl⟩,
      hadmits.provider_scope, hid'⟩
    · rw [hsame]
      exact hadmits
    · rw [authorizedOrAdded, hexisting]
      exact if_neg (not_not.mpr hfingerprint)

/-- **Another use of the correlation is refused.** -/
theorem SecretState.Sound.other_refused (hsound : state.Sound)
    (hmem : authorized ∈ state.uses)
    (hworkspace : command.workspaceId = authorized.workspaceId)
    (hcorrelation : command.correlationId = authorized.correlationId)
    (hother : command.toSecretUse ≠ authorized.toSecretUse)
    (hapart : state.DigestsApart command) :
    ∃ refusal, authorizeSecretUseInUnitOfWork command state = .error refusal := by
  cases h : authorizeSecretUseInUnitOfWork command state with
  | error refusal => exact ⟨refusal, rfl⟩
  | ok answer =>
      obtain ⟨⟨answer, provider⟩, after⟩ := answer
      obtain ⟨-, reference, uses, hcovering, hadded, rfl⟩ :=
        authorizeSecretUseInUnitOfWork_ok.mp h
      obtain ⟨hadmits, -, -⟩ :=
        (coveringRegistrations_ok hsound.registrations).mp hcovering
      have hsame : (authorizedSecretUseFor command reference provider).correlation =
          authorized.correlation := Prod.ext hworkspace hcorrelation
      rcases authorizedOrAdded_ok hadded with
        ⟨hexisting, hfingerprint, -⟩ | ⟨hfree, -, -⟩
      · obtain ⟨hscope, hcorrelated⟩ := Prod.mk.inj hsame
        rw [hscope, hcorrelated, hsound.forCorrelation_eq hmem] at hexisting
        cases hexisting
        exact absurd
          (hsound.eq_candidate hapart hmem hadmits hfingerprint).1.symm hother
      · rw [hsame] at hfree
        exact absurd (List.mem_map_of_mem hmem) hfree

/-! ## The services' answers -/

theorem authorizeSecretUse_ok :
    authorizeSecretUse command state = .ok (authorized, after) ↔
    ∃ provider, authorizeSecretUseInUnitOfWork command state =
      .ok ((authorized, provider), after) := by
  simp only [authorizeSecretUse, bind_ok]
  constructor
  · rintro ⟨⟨⟨_, provider⟩, _⟩, h, hpure⟩
    cases hpure
    exact ⟨provider, h⟩
  · rintro ⟨provider, h⟩
    exact ⟨_, h, rfl⟩

/-- The grant carries the authorisation. -/
structure SecretResolutionGrant.Carries (grant : SecretResolutionGrant)
    (authorized : AuthorizedSecretUse) : Prop where
  use : grant.toSecretUse = authorized.toSecretUse
  authorization : grant.authorizationId = authorized.authorizationId
  reference : grant.referenceRegistrationId = authorized.referenceRegistrationId
  provider : grant.providerRegistrationId = authorized.providerRegistrationId

theorem secretResolutionGrantFor_carries {grant : SecretResolutionGrant}
    {provider : RegisteredSecretProvider}
    (h : secretResolutionGrantFor authorized provider = .ok grant) :
    grant.Carries authorized := by
  unfold secretResolutionGrantFor at h
  split at h
  · cases h
  · cases h
    exact ⟨rfl, rfl, rfl, rfl⟩

theorem authorizeResolution_ok {grant : SecretResolutionGrant} :
    authorizeResolution command state = .ok (grant, after) ↔
      ∃ authorized provider, authorizeSecretUseInUnitOfWork command state =
          .ok ((authorized, provider), after) ∧
        secretResolutionGrantFor authorized provider = .ok grant := by
  simp only [authorizeResolution, bind_ok]
  constructor
  · rintro ⟨⟨⟨authorized, provider⟩, _⟩, h, _, hgrant, hpure⟩
    cases hpure
    exact ⟨authorized, provider, h, hgrant⟩
  · rintro ⟨authorized, provider, h, hgrant⟩
    exact ⟨_, h, grant, hgrant, rfl⟩

/-- What the command is answered with is stored and covered when it commits. -/
def AnswersCovered (command : AuthorizeSecretUse) (state : SecretState) : Prop :=
  (∀ authorized after, authorizeSecretUse command state = .ok (authorized, after) →
      authorized ∈ after.uses ∧ authorized.toSecretUse = command.toSecretUse ∧
        after.toSecretRegistrations.Covered command.toSecretUse
          authorized.referenceRegistrationId authorized.providerRegistrationId) ∧
    ∀ grant after, authorizeResolution command state = .ok (grant, after) →
      (∃ authorized ∈ after.uses, grant.Carries authorized) ∧
        grant.toSecretUse = command.toSecretUse ∧
        after.toSecretRegistrations.Covered command.toSecretUse
          grant.referenceRegistrationId grant.providerRegistrationId

/-- The command is refused and leaves nothing written. -/
def UseRefused (command : AuthorizeSecretUse) (state : SecretState) : Prop :=
  (∃ refusal, authorizeSecretUse command state = .error refusal) ∧
    (∃ refusal, authorizeResolution command state = .error refusal) ∧
    settle SecretState.execute state (.authorize command) = state ∧
    settle SecretState.execute state (.authorizeResolution command) = state

/-- The command is answered by the authorisation and writes nothing. -/
def AnsweredBy (authorized : AuthorizedSecretUse) (command : AuthorizeSecretUse)
    (state : SecretState) : Prop :=
  authorizeSecretUse command state = .ok (authorized, state) ∧
    ∃ grant, grant.Carries authorized ∧
    authorizeResolution command state = .ok (grant, state)

theorem refused_of_error {refusal : ServiceError}
    (h : authorizeSecretUseInUnitOfWork command state = .error refusal) :
    UseRefused command state := by
  have hauthorize : authorizeSecretUse command state = .error refusal := by
    simp only [authorizeSecretUse, h]
    rfl
  have hresolution : authorizeResolution command state = .error refusal := by
    simp only [authorizeResolution, h]
    rfl
  refine ⟨⟨refusal, hauthorize⟩, ⟨refusal, hresolution⟩, settle_error (e := refusal) ?_,
    settle_error (e := refusal) ?_⟩
  · simp only [SecretState.execute, hauthorize]
    rfl
  · simp only [SecretState.execute, hresolution]
    rfl

theorem answersCovered (hsound : state.Sound) (hapart : state.DigestsApart command) :
    AnswersCovered command state := by
  constructor
  · intro authorized after h
    obtain ⟨provider, h⟩ := authorizeSecretUse_ok.mp h
    obtain ⟨hsame, hcovered⟩ := hsound.covered hapart h
    rw [hsame] at hcovered
    exact ⟨(hsound.authorize h).2.2.2, hsame, hcovered⟩
  · intro grant after h
    obtain ⟨authorized, provider, h, hgrant⟩ := authorizeResolution_ok.mp h
    have hcarries := secretResolutionGrantFor_carries hgrant
    obtain ⟨hsame, hcovered⟩ := hsound.covered hapart h
    rw [hsame, ← hcarries.reference, ← hcarries.provider] at hcovered
    exact ⟨⟨authorized, (hsound.authorize h).2.2.2, hcarries⟩,
      hcarries.use.trans hsame, hcovered⟩

theorem answeredBy (hsound : state.Sound) (hmem : authorized ∈ state.uses)
    (hsame : command.toSecretUse = authorized.toSecretUse)
    (hcheck : command.check = .ok ()) (hapart : state.DigestsApart command)
    (hactive : state.toSecretRegistrations.StillActive authorized) :
    AnsweredBy authorized command state := by
  obtain ⟨provider, h, hscope, hid⟩ :=
    (hsound.answered hmem hsame hcheck hapart).mpr hactive
  refine ⟨authorizeSecretUse_ok.mpr ⟨provider, h⟩, ?_⟩
  have hgrant : ∃ grant, secretResolutionGrantFor authorized provider = .ok grant := by
    refine ⟨_, if_neg ?_⟩
    simp [hscope, hid]
  obtain ⟨grant, hgrant⟩ := hgrant
  exact ⟨grant, secretResolutionGrantFor_carries hgrant,
    authorizeResolution_ok.mpr ⟨authorized, provider, h, hgrant⟩⟩

/-- A repetition under a registration that is active no longer is refused. -/
theorem refused_of_not_active (hsound : state.Sound) (hmem : authorized ∈ state.uses)
    (hsame : command.toSecretUse = authorized.toSecretUse)
    (hapart : state.DigestsApart command)
    (hactive : ¬ state.toSecretRegistrations.StillActive authorized) :
    UseRefused command state := by
  cases h : authorizeSecretUseInUnitOfWork command state with
  | error refusal => exact refused_of_error h
  | ok answer =>
      obtain ⟨⟨answer, provider⟩, after⟩ := answer
      obtain ⟨rfl, rfl⟩ := hsound.again hmem hsame h
      obtain ⟨-, reference, holder, hadmits, -, hid, hreference, hid', hholder⟩ :=
        hsound.covered hapart h
      exact absurd ⟨⟨reference, hadmits.reference_mem, hid, hreference⟩, holder,
        hadmits.provider_mem, hid', hholder⟩ hactive

/-- **Uses of secrets.**  Along every history a correlation has one authorisation.
What a use is answered with is covered, when it commits, by two active
registrations.  From then on the same use is answered by the same authorisation
while both are active, and refused when they are not; another use of the
correlation is refused.  The digests are taken to tell the documents apart. -/
theorem secret_uses_covered (history : List SecretCommand) :
    ((SecretState.after history).uses.map (·.correlation)).Nodup ∧
      ∀ command, (SecretState.after history).DigestsApart command →
        AnswersCovered command (SecretState.after history) ∧
          ∀ authorized after,
            authorizeSecretUse command (SecretState.after history) =
              .ok (authorized, after) →
              ∀ later again, (run SecretState.execute after later).DigestsApart again →
                (again.toSecretUse = command.toSecretUse → again.check = .ok () →
                    (run SecretState.execute after later).StillActive authorized →
                      AnsweredBy authorized again
                        (run SecretState.execute after later)) ∧
                  (again.toSecretUse = command.toSecretUse →
                    ¬ (run SecretState.execute after later).StillActive authorized →
                      UseRefused again (run SecretState.execute after later)) ∧
                  (again.workspaceId = command.workspaceId →
                    again.correlationId = command.correlationId →
                    again.toSecretUse ≠ command.toSecretUse →
                      UseRefused again (run SecretState.execute after later)) := by
  have hsound := SecretState.sound_after history
  refine ⟨hsound.correlations, fun command hapart => ⟨answersCovered hsound hapart,
    fun authorized after h later again hlater => ?_⟩⟩
  obtain ⟨provider, h⟩ := authorizeSecretUse_ok.mp h
  obtain ⟨hafter, -, -, hstored⟩ := hsound.authorize h
  obtain ⟨hsame, -⟩ := hsound.covered hapart h
  have hrun := SecretState.sound_run hafter later
  have hmem := (SecretState.uses_run hafter later).subset hstored
  refine ⟨fun huse hcheck => answeredBy hrun hmem (huse.trans hsame.symm) hcheck hlater,
    fun huse => refused_of_not_active hrun hmem (huse.trans hsame.symm) hlater,
    fun hworkspace hcorrelation hother => ?_⟩
  rw [← hsame] at hworkspace hcorrelation hother
  obtain ⟨refusal, hrefused⟩ :=
    hrun.other_refused hmem hworkspace hcorrelation hother hlater
  exact refused_of_error hrefused

/-! ## A use that is not answered again

A use is authorised, its provider revoked, and the use repeated. -/

def registerHeldReference : RegisterSecretReferenceCommand where
  workspaceId := "w"
  reference := heldReference
  material := ⟨"sprov_" ++ firstDigest, [.postgresPassword], []⟩
  admittedBy := "a"
  admittedAt := "2025-01-01T00:00:00Z"
  actorScopes := [.secretProviderRegister]
  supersedesRegistrationId := none

/-- Use the reference as a password of a database. -/
def useHeld : AuthorizeSecretUse where
  workspaceId := "w"
  reference := heldReference
  intent := .postgresPassword
  actorSubject := "a"
  correlationId := "c"
  operationId := none
  sessionId := none
  runId := none
  activityId := none
  effectId := none
  probeId := none
  requestedAt := "2025-01-01T00:00:00Z"
  actorScopes := [.secretProviderUse]

def heldReferenceRow (registrationId : String) : RegisteredSecretReference :=
  newRegistration registrationId "w" heldReference registerHeldReference.material none
    "a" "2025-01-01T00:00:00Z"

theorem registerHeldReference_ok : ∃ registrationId,
    registerReference registerHeldReference [firstHeld .active] [] =
      .ok (heldReferenceRow registrationId, [heldReferenceRow registrationId]) := by
  have hdigest : ∃ digest, semanticsDigest (referenceSemantics "w" heldReference none
      registerHeldReference.material) = .ok digest := by
    have hdumps : (PyValue.dumps PyValue.JsonStyle.compact
        (referenceSemantics "w" heldReference none
        registerHeldReference.material)).isOk = true := by decide
    unfold semanticsDigest
    cases hd : PyValue.dumps PyValue.JsonStyle.compact
        (referenceSemantics "w" heldReference none
        registerHeldReference.material) with
    | ok text => exact ⟨_, rfl⟩
    | error e => simp [hd, Except.isOk, Except.toBool] at hdumps
  obtain ⟨digest, hdigest⟩ := hdigest
  refine ⟨"sref_" ++ digest, ?_⟩
  have htexts : requireIdentifier "w" "workspace_id" = .ok () ∧
      requireIdentifier ("sprov_" ++ firstDigest) "provider_registration_id" = .ok () ∧
      requireIdentifier "a" "admitted_by" = .ok () ∧
      requireBoundedText "2025-01-01T00:00:00Z" "admitted_at" 128 = .ok () ∧
      encodePostgresTimestamp "2025-01-01T00:00:00Z" = .ok () := by
    decide
  obtain ⟨hworkspace, hprovider, hby, hat, hinstant⟩ := htexts
  have hintents : secretIntents [.postgresPassword] = .ok [.postgresPassword] := by
    simp [secretIntents, requireThat]
  have hmetadata : checkMetadata [] = .ok () := rfl
  have hcandidate : registerHeldReference.candidate =
      .ok (heldReferenceRow ("sref_" ++ digest)) := by
    simp only [registerHeldReference] at hdigest
    simp only [RegisterSecretReferenceCommand.candidate, registerHeldReference,
      hworkspace, hprovider, hintents, hmetadata, hby, hat, hdigest, Outcome.ok_bind,
      checkSupersedes]
    rfl
  have hrequired : SecretProviderStore.requireActiveRegistration [firstHeld .active] "w"
      ("sprov_" ++ firstDigest) = .ok (firstHeld .active) := by
    simp [SecretProviderStore.requireActiveRegistration, byId, firstHeld, heldRow,
      newRegistration, found, requireThat, bind, Except.bind, pure, Except.pure]
  have hadmission : validateReferenceAdmission (heldReferenceRow ("sref_" ++ digest))
      (firstHeld .active) = .ok () := by
    have hwithin : referenceIsWithin heldReference heldReference = true := by decide
    simp [validateReferenceAdmission, heldReferenceRow, firstHeld, heldRow,
      newRegistration, registerHeldReference, heldMaterial, requireThat, hwithin,
      heldTexts.2.2.2.1, bind, Except.bind]
  have hscope : requireSecretScope [.secretProviderRegister] .secretProviderRegister =
    .ok () := rfl
  simp only [registerReference, hcandidate, Outcome.ok_bind, hadmission,
    show registerHeldReference.actorScopes = [.secretProviderRegister] from rfl, hscope,
    show registerHeldReference.workspaceId = "w" from rfl,
    show registerHeldReference.material.providerRegistrationId =
      "sprov_" ++ firstDigest from rfl,
    hrequired, SecretReferenceStore.register]
  simp [heldReferenceRow, newRegistration, requireThat, hinstant, Supersession.register,
    byId, activeOf, chain, validateSupersession, insertRow, bind, Except.bind]

theorem useHeld_check : useHeld.check = .ok () := by decide

/-- The use, authorised under the two registrations. -/
def heldUse (registrationId : String) : AuthorizedSecretUse :=
  authorizedSecretUseFor useHeld (heldReferenceRow registrationId) (firstHeld .active)

def heldUseHistory : List SecretCommand :=
  [ .registration (.registerProvider (registerHeld none "2025-01-01T00:00:00Z"))
  , .registration (.registerReference registerHeldReference) ]

theorem heldUseHistory_after : ∃ registrationId, SecretState.after heldUseHistory =
    ⟨⟨[firstHeld .active], [heldReferenceRow registrationId]⟩, []⟩ := by
  obtain ⟨registrationId, hreference⟩ := registerHeldReference_ok
  refine ⟨registrationId, ?_⟩
  have hfirst : SecretState.execute (.registration (.registerProvider
      (registerHeld none "2025-01-01T00:00:00Z"))) .empty =
        .ok ((), ⟨⟨[firstHeld .active], []⟩, []⟩) := by
    simp only [SecretState.execute, SecretRegistrations.execute, SecretState.empty,
      SecretRegistrations.empty, registerFirst_ok]
    rfl
  have hsecond : SecretState.execute (.registration
        (.registerReference registerHeldReference)) ⟨⟨[firstHeld .active], []⟩, []⟩ =
        .ok ((), ⟨⟨[firstHeld .active], [heldReferenceRow registrationId]⟩, []⟩) := by
    simp only [SecretState.execute, SecretRegistrations.execute, hreference]
    rfl
  rw [SecretState.after, heldUseHistory, run_cons, run_cons, run_nil, settle_ok hfirst,
    settle_ok hsecond]

/-- The two rows admit the use. -/
theorem heldReferenceRow_admits (registrationId : String) :
    Admits ⟨[firstHeld .active], [heldReferenceRow registrationId]⟩ useHeld.toSecretUse
      (heldReferenceRow registrationId) (firstHeld .active) where
  reference_mem := List.mem_singleton_self _
  provider_mem := List.mem_singleton_self _
  reference_scope := rfl
  provider_scope := rfl
  subject := rfl
  registered := rfl
  identity := heldTexts.2.2.2.1
  narrower _ hintent := hintent
  within := ⟨heldReference, List.mem_singleton_self _, by decide⟩
  intent := List.mem_singleton_self _

/-- The use is authorised under the two registrations. -/
theorem useHeld_authorized : ∃ registrationId,
    SecretState.after heldUseHistory =
        ⟨⟨[firstHeld .active], [heldReferenceRow registrationId]⟩, []⟩ ∧
      authorizeSecretUseInUnitOfWork useHeld (SecretState.after heldUseHistory) =
        .ok ((heldUse registrationId, firstHeld .active),
          ⟨⟨[firstHeld .active], [heldReferenceRow registrationId]⟩,
            [heldUse registrationId]⟩) := by
  have hsound := SecretState.sound_after heldUseHistory
  obtain ⟨registrationId, hstate⟩ := heldUseHistory_after
  rw [hstate] at hsound ⊢
  exact ⟨registrationId, rfl, authorizeSecretUseInUnitOfWork_ok.mpr
    ⟨useHeld_check, _, _,
    (coveringRegistrations_ok hsound.registrations).mpr
      ⟨heldReferenceRow_admits registrationId, rfl, rfl⟩, rfl, rfl⟩⟩

/-- The use is authorised, and answered again by the same authorisation. -/
theorem useHeld_answered : ∃ authorized after,
    authorizeSecretUse useHeld (SecretState.after heldUseHistory) =
      .ok (authorized, after) ∧
      AnsweredBy authorized useHeld after := by
  obtain ⟨registrationId, hstate, hauthorized⟩ := useHeld_authorized
  have hfirst : (SecretState.after heldUseHistory).DigestsApart useHeld := by
    rw [hstate]
    exact fun use huse => absurd huse List.not_mem_nil
  have hagain : SecretState.DigestsApart
      ⟨⟨[firstHeld .active], [heldReferenceRow registrationId]⟩,
        [heldUse registrationId]⟩
        useHeld := by
    intro use huse reference hreference provider hprovider _
    obtain rfl := List.mem_singleton.mp huse
    obtain rfl := List.mem_singleton.mp hreference
    obtain rfl := List.mem_singleton.mp hprovider
    rfl
  have hanswer := authorizeSecretUse_ok.mpr ⟨_, hauthorized⟩
  exact ⟨_, _, hanswer, (((secret_uses_covered heldUseHistory).2 useHeld hfirst).2
    _ _ hanswer [] useHeld hagain).1 rfl useHeld_check ⟨⟨_, List.mem_singleton_self _,
      rfl, rfl⟩, ⟨_, List.mem_singleton_self _, rfl, rfl⟩⟩⟩

/-- The use is authorised, and refused once its provider is revoked. -/
theorem useHeld_refused : ∃ authorized after,
    authorizeSecretUse useHeld (SecretState.after heldUseHistory) =
      .ok (authorized, after) ∧
      UseRefused useHeld (run SecretState.execute after
        [.registration (.revokeProvider revokeHeld)]) := by
  have hsound := SecretState.sound_after heldUseHistory
  obtain ⟨registrationId, hstate, hauthorized⟩ := useHeld_authorized
  rw [hstate] at hsound hauthorized ⊢
  refine ⟨_, _, authorizeSecretUse_ok.mpr ⟨_, hauthorized⟩, ?_⟩
  have hafter := (hsound.authorize hauthorized).1
  have hactive : activeOf [firstHeld .active] "w" "p" = some (firstHeld .active) := by
    simp [activeOf, chain, Link.isOf, firstHeld, heldRow, newRegistration]
  have hrevoked : SecretState.execute (.registration (.revokeProvider revokeHeld))
      ⟨⟨[firstHeld .active], [heldReferenceRow registrationId]⟩,
        [heldUse registrationId]⟩ =
        .ok ((), ⟨⟨updateActive (hasId "w" (firstHeld .active).registrationId)
          (revokedRow "a" "2025-01-01T00:00:00Z") [firstHeld .active],
            [heldReferenceRow registrationId]⟩, [heldUse registrationId]⟩) := by
    simp only [SecretState.execute, SecretRegistrations.execute,
      revokeHeld_active hsound.registrations.providers hactive]
    rfl
  have hrun := (hafter.step hrevoked).1
  rw [run_cons, run_nil, settle_ok hrevoked]
  cases hagain : authorizeSecretUseInUnitOfWork useHeld _ with
  | error refusal => exact refused_of_error hagain
  | ok answer =>
      -- it would stand under the provider that is revoked
      obtain ⟨⟨answer, provider⟩, later⟩ := answer
      obtain ⟨-, reference, uses, hcovering, -⟩ :=
        authorizeSecretUseInUnitOfWork_ok.mp hagain
      obtain ⟨hcovers, -, hholder⟩ :=
        (coveringRegistrations_ok hrun.registrations).mp hcovering
      obtain ⟨old, hold, -, hkept⟩ :=
        mem_updateActive (retires_revokedRow _ _) hcovers.provider_mem
      have hselected := (hkept hholder).2
      rw [List.mem_singleton.mp hold] at hselected
      simp [hasId, firstHeld, heldRow, newRegistration] at hselected

end ControlPlaneKit.Operations
