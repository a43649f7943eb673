import ControlPlaneKit.Operations.SecretProviders

/-!
# SecretProviderLaws — what supersession and revocation leave behind

Every command moves the two tables as the library of supersession allows.  From
its rules follow what holds along every history, and when the registrations of a
subject are one chain.
-/

namespace ControlPlaneKit.Operations

open ControlPlaneKit.Library
open ControlPlaneKit.Library.EventFold (bind_ok)
open ControlPlaneKit.Library.Supersession
open ControlPlaneKit.Library.Transactions
  (settle run run_invariant run_relation run_cons run_nil
  run_append run_concat settle_ok settle_error settle_cases)
open ControlPlaneKit.Topology

/-! ## The candidate a command brings -/

/-- What a provider registration brings to its table, after every check before it. -/
def RegisterSecretProviderCommand.brings (command : RegisterSecretProviderCommand) :
    Except ServiceError RegisteredSecretProvider := do
  requireSecretScope command.actorScopes .secretProviderRegister
  let candidate ← command.candidate
  requireThat (candidate.status = .active)
    (.conflict "new provider registration must be active")
  encodePostgresTimestamp candidate.admittedAt
  return candidate

/-- What a reference registration brings to its table. -/
def RegisterSecretReferenceCommand.brings (command : RegisterSecretReferenceCommand)
    (providers : List RegisteredSecretProvider) :
    Except ServiceError RegisteredSecretReference := do
  requireSecretScope command.actorScopes .secretProviderRegister
  let provider ← SecretProviderStore.requireActiveRegistration providers
    command.workspaceId command.material.providerRegistrationId
  let candidate ← command.candidate
  validateReferenceAdmission candidate provider
  requireThat (candidate.status = .active)
    (.conflict "new secret reference registration must be active")
  encodePostgresTimestamp candidate.admittedAt
  return candidate

theorem registerProvider_eq (command : RegisterSecretProviderCommand)
    (rows : List RegisteredSecretProvider) :
    registerProvider command rows = command.brings >>= fun candidate =>
      Library.Supersession.register secretProviderRefusals sameProviderAdmission rows
        candidate := by
  simp only [registerProvider, SecretProviderStore.register,
    RegisterSecretProviderCommand.brings, bind_assoc, pure_bind]

theorem registerReference_eq (command : RegisterSecretReferenceCommand)
    (providers : List RegisteredSecretProvider)
    (rows : List RegisteredSecretReference) :
    registerReference command providers rows =
      command.brings providers >>= fun candidate =>
      Library.Supersession.register secretReferenceRefusals sameReferenceAdmission rows
        candidate := by
  simp only [registerReference, SecretReferenceStore.register,
    RegisterSecretReferenceCommand.brings, bind_assoc, pure_bind]

theorem RegisterSecretProviderCommand.brings_active
    {command : RegisterSecretProviderCommand} {candidate : RegisteredSecretProvider}
    (h : command.brings = .ok candidate) : candidate.status = .active := by
  simp only [RegisterSecretProviderCommand.brings, bind_ok, requireThat_eq_ok,
    decide_eq_true_eq] at h
  obtain ⟨-, -, brought, -, -, hactive, -, -, hpure⟩ := h
  cases hpure
  exact hactive

theorem RegisterSecretReferenceCommand.brings_active
    {command : RegisterSecretReferenceCommand}
    {providers : List RegisteredSecretProvider} {candidate : RegisteredSecretReference}
    (h : command.brings providers = .ok candidate) : candidate.status = .active := by
  simp only [RegisterSecretReferenceCommand.brings, bind_ok, requireThat_eq_ok,
    decide_eq_true_eq] at h
  obtain ⟨-, -, -, -, brought, -, -, -, -, hactive, -, -, hpure⟩ := h
  cases hpure
  exact hactive

/-! ## What the services make of the tables -/

section Services

variable {providers rows after : List RegisteredSecretProvider}
  {references remaining : List RegisteredSecretReference}

theorem registerProvider_move {command : RegisterSecretProviderCommand}
    {row : RegisteredSecretProvider} (hsound : Supersession.Sound rows)
    (h : registerProvider command rows = .ok (row, after)) : Move rows after := by
  rw [registerProvider_eq, bind_ok] at h
  obtain ⟨candidate, hcandidate, hregister⟩ := h
  exact register_move hsound
    (RegisterSecretProviderCommand.brings_active hcandidate) hregister

theorem registerReference_move {command : RegisterSecretReferenceCommand}
    {row : RegisteredSecretReference} (hsound : Supersession.Sound references)
    (h : registerReference command providers references = .ok (row, remaining)) :
    Move references remaining := by
  rw [registerReference_eq, bind_ok] at h
  obtain ⟨candidate, hcandidate, hregister⟩ := h
  exact register_move hsound
    (RegisterSecretReferenceCommand.brings_active hcandidate) hregister

/-- What a provider's revocation asks of its table. -/
theorem revokeProvider_ok {command : RevokeSecretProviderCommand}
    {row : RegisteredSecretProvider}
    (h : revokeProvider command rows = .ok (row, after)) :
    Library.Supersession.revokeActive secretProviderRefusals instantOfText
      command.workspaceId
      command.providerId command.revokedBy command.revokedAt rows = .ok (row, after) ∧
      ∀ later, revokeProvider command later =
        Library.Supersession.revokeActive secretProviderRefusals instantOfText
          command.workspaceId
          command.providerId command.revokedBy command.revokedAt later := by
  simp only [revokeProvider, SecretProviderStore.revokeActive, bind_ok] at h
  obtain ⟨⟨⟩, hworkspace, ⟨⟩, hby, ⟨⟩, hat, ⟨⟩, hscope, ⟨⟩, hinstant, hrevoke⟩ := h
  refine ⟨hrevoke, fun later => ?_⟩
  simp only [revokeProvider, SecretProviderStore.revokeActive, hworkspace, hby, hat,
    hscope, hinstant]
  rfl

/-- What a reference's revocation asks of its table. -/
theorem revokeReference_ok {command : RevokeSecretReferenceCommand}
    {row : RegisteredSecretReference}
    (h : revokeReference command references = .ok (row, remaining)) :
    Library.Supersession.revokeById secretReferenceRefusals command.workspaceId
      command.registrationId command.revokedBy command.revokedAt references =
        .ok (row, remaining) ∧
      ∀ later, revokeReference command later =
        Library.Supersession.revokeById secretReferenceRefusals command.workspaceId
          command.registrationId command.revokedBy command.revokedAt later := by
  simp only [revokeReference, SecretReferenceStore.revoke, bind_ok] at h
  obtain ⟨⟨⟩, hworkspace, ⟨⟩, hid, ⟨⟩, hby, ⟨⟩, hat, ⟨⟩, hscope, ⟨⟩,
    hinstant, hrevoke⟩ := h
  refine ⟨hrevoke, fun later => ?_⟩
  simp only [revokeReference, SecretReferenceStore.revoke, hworkspace, hid, hby, hat,
    hscope, hinstant]
  rfl

end Services

/-! ## Histories -/

/-- What both tables keep. -/
structure SecretRegistrations.Sound (state : SecretRegistrations) : Prop where
  providers : Supersession.Sound state.providers
  references : Supersession.Sound state.references

variable {state after : SecretRegistrations} {command : SecretRegistrationCommand}

/-- A command moves both tables; one of them stays as it is. -/
theorem SecretRegistrations.execute_moves (hsound : state.Sound)
    (h : SecretRegistrations.execute command state = .ok ((), after)) :
    Move state.providers after.providers ∧ Move state.references after.references := by
  cases command with
  | registerProvider command =>
      simp only [SecretRegistrations.execute, bind_ok] at h
      obtain ⟨⟨row, rows⟩, hregister, h⟩ := h
      cases h
      exact ⟨registerProvider_move hsound.providers hregister, .keep⟩
  | revokeProvider command =>
      simp only [SecretRegistrations.execute, bind_ok] at h
      obtain ⟨⟨row, rows⟩, hrevoke, h⟩ := h
      cases h
      obtain ⟨selected, rfl⟩ := revokeActive_retires (revokeProvider_ok hrevoke).1
      exact ⟨.retire selected _ (retires_revokedRow _ _), .keep⟩
  | registerReference command =>
      simp only [SecretRegistrations.execute, bind_ok] at h
      obtain ⟨⟨row, rows⟩, hregister, h⟩ := h
      cases h
      exact ⟨.keep, registerReference_move hsound.references hregister⟩
  | revokeReference command =>
      simp only [SecretRegistrations.execute, bind_ok] at h
      obtain ⟨⟨row, rows⟩, hrevoke, h⟩ := h
      cases h
      obtain ⟨selected, rfl⟩ := revokeById_retires (revokeReference_ok hrevoke).1
      exact ⟨.keep, .retire selected _ (retires_revokedRow _ _)⟩

theorem SecretRegistrations.sound_step (hsound : state.Sound)
    (h : SecretRegistrations.execute command state = .ok ((), after)) : after.Sound :=
  have ⟨hproviders, hreferences⟩ := SecretRegistrations.execute_moves hsound h
  ⟨hproviders.sound hsound.providers, hreferences.sound hsound.references⟩

theorem SecretRegistrations.sound_run (hsound : state.Sound)
    (history : List SecretRegistrationCommand) :
    (run SecretRegistrations.execute state history).Sound :=
  run_invariant (fun _ _ _ _ hsound h => SecretRegistrations.sound_step hsound h)
    hsound history

theorem SecretRegistrations.sound_after (history : List SecretRegistrationCommand) :
    (SecretRegistrations.after history).Sound :=
  SecretRegistrations.sound_run ⟨sound_nil, sound_nil⟩ history

/-- **What is not active never changes**, along every run. -/
theorem SecretRegistrations.settled_run (hsound : state.Sound)
    (history : List SecretRegistrationCommand) :
    Settled state.providers (run SecretRegistrations.execute state history).providers ∧
      Settled state.references
        (run SecretRegistrations.execute state history).references := by
  refine run_relation (R := fun s t => Settled s.providers t.providers ∧
      Settled s.references t.references)
    (fun s => ⟨fun row hrow _ => hrow, fun row hrow _ => hrow⟩)
      (fun s t u hst htu => ?_)
    (fun _ _ _ _ hsound h => SecretRegistrations.sound_step hsound h)
    (fun s command answer t hsound h => ?_) hsound history
  · exact ⟨fun row hrow hstatus => htu.1 row (hst.1 row hrow hstatus) hstatus,
      fun row hrow hstatus => htu.2 row (hst.2 row hrow hstatus) hstatus⟩
  · have ⟨hproviders, hreferences⟩ := SecretRegistrations.execute_moves hsound h
    exact ⟨hproviders.settled, hreferences.settled⟩

/-! ## One chain for each subject -/

def SecretRegistrations.Chained (state : SecretRegistrations) : Prop :=
  Supersession.Chained state.providers ∧ Supersession.Chained state.references

/-- A registration of the command names, while none of its subject is active, the
newest one. -/
def SecretRegistrationCommand.NamesNewest (state : SecretRegistrations) :
    SecretRegistrationCommand → Prop
  | .registerProvider command => ∀ candidate, command.brings = .ok candidate →
      Supersession.NamesNewest state.providers candidate
  | .registerReference command =>
      ∀ candidate, command.brings state.providers = .ok candidate →
      Supersession.NamesNewest state.references candidate
  | .revokeProvider _ | .revokeReference _ => True

/-- What a service leaves of the table it registers in. -/
theorem settleRows_bind {κ μ : Type} {rows : List (Registration κ μ)}
    {brings : Except ServiceError (Registration κ μ)}
    {register : Registration κ μ →
      Except ServiceError (Registration κ μ × List (Registration κ μ))} :
    settleRows rows (brings >>= register) =
      match brings with
      | .ok candidate => settleRows rows (register candidate)
      | .error _ => rows := by
  cases brings <;> rfl

theorem settle_registerProvider (state : SecretRegistrations)
    (command : RegisterSecretProviderCommand) :
    settle SecretRegistrations.execute state (.registerProvider command) =
      { state with
        providers :=
          settleRows state.providers (registerProvider command state.providers) } := by
  cases h : registerProvider command state.providers with
  | error e =>
      rw [settle_error (e := e) (by simp only [SecretRegistrations.execute, h]; rfl)]
      rfl
  | ok answer =>
      exact settle_ok (r := ()) (by simp only [SecretRegistrations.execute, h]; rfl)

theorem settle_registerReference (state : SecretRegistrations)
    (command : RegisterSecretReferenceCommand) :
    settle SecretRegistrations.execute state (.registerReference command) =
      { state with
        references := settleRows state.references
          (registerReference command state.providers state.references) } := by
  cases h : registerReference command state.providers state.references with
  | error e =>
      rw [settle_error (e := e) (by simp only [SecretRegistrations.execute, h]; rfl)]
      rfl
  | ok answer =>
      exact settle_ok (r := ()) (by simp only [SecretRegistrations.execute, h]; rfl)

/-- **A command keeps the chains** exactly when it names the newest registration. -/
theorem SecretRegistrations.chained_step (hsound : state.Sound)
    (command : SecretRegistrationCommand) :
    (settle SecretRegistrations.execute state command).Chained ↔
      state.Chained ∧ command.NamesNewest state := by
  cases command with
  | registerProvider command =>
      rw [settle_registerProvider, registerProvider_eq, settleRows_bind]
      cases hbrings : command.brings with
      | error e =>
          exact ⟨fun h =>
            ⟨h, fun _ hbrought => absurd (hbrings.symm.trans hbrought) nofun⟩,
            fun h => h.1⟩
      | ok candidate =>
          have hchained := register_chained hsound.providers secretProviderRefusals
            sameProviderAdmission candidate
          constructor
          · rintro ⟨hproviders, hreferences⟩
            obtain ⟨hbefore, hnames⟩ := hchained.mp hproviders
            refine ⟨⟨hbefore, hreferences⟩, fun brought hbrought => ?_⟩
            rw [hbrings] at hbrought
            cases hbrought
            exact hnames
          · rintro ⟨⟨hproviders, hreferences⟩, hnames⟩
            exact ⟨hchained.mpr ⟨hproviders, hnames candidate hbrings⟩, hreferences⟩
  | registerReference command =>
      rw [settle_registerReference, registerReference_eq, settleRows_bind]
      cases hbrings : command.brings state.providers with
      | error e =>
          exact ⟨fun h =>
            ⟨h, fun _ hbrought => absurd (hbrings.symm.trans hbrought) nofun⟩,
            fun h => h.1⟩
      | ok candidate =>
          have hchained := register_chained hsound.references secretReferenceRefusals
            sameReferenceAdmission candidate
          constructor
          · rintro ⟨hproviders, hreferences⟩
            obtain ⟨hbefore, hnames⟩ := hchained.mp hreferences
            refine ⟨⟨hproviders, hbefore⟩, fun brought hbrought => ?_⟩
            rw [hbrings] at hbrought
            cases hbrought
            exact hnames
          · rintro ⟨⟨hproviders, hreferences⟩, hnames⟩
            exact ⟨hproviders, hchained.mpr ⟨hreferences, hnames candidate hbrings⟩⟩
  | revokeProvider command =>
      refine Iff.trans ?_ (and_iff_left trivial).symm
      rcases settle_cases SecretRegistrations.execute state
          (.revokeProvider command) with
        h | ⟨⟨⟩, h⟩
      · rw [h]
      · simp only [SecretRegistrations.execute, bind_ok] at h
        obtain ⟨⟨row, rows⟩, hrevoke, h⟩ := h
        obtain ⟨selected, rfl⟩ := revokeActive_retires (revokeProvider_ok hrevoke).1
        rw [← (Prod.mk.inj (Except.ok.inj h)).2]
        exact and_congr_left fun _ => chained_of_toLink (updateActive_toLink
          (retires_revokedRow _ _))
  | revokeReference command =>
      refine Iff.trans ?_ (and_iff_left trivial).symm
      rcases settle_cases SecretRegistrations.execute state
          (.revokeReference command) with
        h | ⟨⟨⟩, h⟩
      · rw [h]
      · simp only [SecretRegistrations.execute, bind_ok] at h
        obtain ⟨⟨row, rows⟩, hrevoke, h⟩ := h
        obtain ⟨selected, rfl⟩ := revokeById_retires (revokeReference_ok hrevoke).1
        rw [← (Prod.mk.inj (Except.ok.inj h)).2]
        exact and_congr_right fun _ => chained_of_toLink (updateActive_toLink
          (retires_revokedRow _ _))

/-- Every command of a history named the newest registration when it was given. -/
def NamedNewest (history : List SecretRegistrationCommand) : Prop :=
  ∀ earlier command, (earlier ++ [command]) <+: history →
    command.NamesNewest (SecretRegistrations.after earlier)

theorem namedNewest_concat {history : List SecretRegistrationCommand} :
    NamedNewest (history ++ [command]) ↔
      NamedNewest history ∧
      command.NamesNewest (SecretRegistrations.after history) := by
  constructor
  · exact fun h =>
      ⟨fun earlier last hlast => h earlier last (hlast.trans (List.prefix_append _ _)),
      h history command (List.prefix_refl _)⟩
  · rintro ⟨hearlier, hlast⟩ earlier last hprefixed
    rcases List.prefix_concat_iff.mp hprefixed with heq | hprefixed
    · obtain ⟨rfl, h⟩ := List.append_inj' heq rfl
      cases h
      exact hlast
    · exact hearlier earlier last hprefixed

/-- **One chain**, along every history. -/
theorem SecretRegistrations.chained_after (history : List SecretRegistrationCommand) :
    (SecretRegistrations.after history).Chained ↔ NamedNewest history := by
  induction history using List.reverseRecOn with
  | nil =>
      refine ⟨fun _ earlier command h => ?_, fun _ =>
        ⟨fun _ _ => trivial, fun _ _ => trivial⟩⟩
      exact absurd (List.prefix_nil.mp h) (by simp)
  | append_singleton history command ih =>
      rw [SecretRegistrations.after, run_concat, namedNewest_concat, ← ih]
      exact SecretRegistrations.chained_step
        (SecretRegistrations.sound_after history) command

/-- No registration of a table is superseded twice. -/
def SupersededOnce {κ μ : Type} (rows : List (Registration κ μ)) : Prop :=
  ∀ a ∈ rows, ∀ b ∈ rows, ∀ target, a.supersedes = some target →
    b.supersedes = some target → a = b

/-! ## Revoking again -/

/-- The provider's active registration is the last of its history by the instants. -/
def RevokeSecretProviderCommand.LastByInstant (command : RevokeSecretProviderCommand)
    (rows : List RegisteredSecretProvider) : Prop :=
  ∀ active, activeOf rows command.workspaceId command.providerId = some active →
    (listHistory instantOfText rows command.workspaceId command.providerId).getLast? =
      some active

/-- An accepted revocation, repeated on a table that holds the same registrations
of the provider, answers alike and writes nothing. -/
def RevokeSecretProviderCommand.Repeats (command : RevokeSecretProviderCommand)
    (row : RegisteredSecretProvider) (after : List RegisteredSecretProvider) : Prop :=
  ∀ later, chain later command.workspaceId command.providerId =
      chain after command.workspaceId command.providerId →
    revokeProvider command later = .ok (row, later)

theorem revokeProvider_repeats {command : RevokeSecretProviderCommand}
    {rows after : List RegisteredSecretProvider} {row : RegisteredSecretProvider}
    (hsound : Supersession.Sound rows)
    (h : revokeProvider command rows = .ok (row, after)) :
    command.Repeats row after ↔ command.LastByInstant rows := by
  obtain ⟨hrevoke, hlater⟩ := revokeProvider_ok h
  constructor
  · intro hrepeats
    have hagain := hrepeats after rfl
    rw [hlater] at hagain
    exact (revokeActive_again hsound hrevoke rfl).mp hagain
  · intro hlast later hchain
    rw [hlater]
    exact (revokeActive_again hsound hrevoke hchain).mpr hlast

theorem revokeReference_repeats {command : RevokeSecretReferenceCommand}
    {after : List RegisteredSecretReference} {row : RegisteredSecretReference}
    (hsound : state.Sound)
    (h : revokeReference command state.references = .ok (row, after))
    (history : List SecretRegistrationCommand) :
    let later :=
      run SecretRegistrations.execute { state with references := after } history
    revokeReference command later.references = .ok (row, later.references) := by
  obtain ⟨hrevoke, hlater⟩ := revokeReference_ok h
  have hafter : SecretRegistrations.Sound { state with references := after } := by
    obtain ⟨selected, rfl⟩ := revokeById_retires hrevoke
    exact ⟨hsound.providers, hsound.references.updateActive (retires_revokedRow _ _)⟩
  intro later
  rw [hlater]
  exact revokeById_again hafter.references hrevoke
    (SecretRegistrations.sound_run hafter history).references
    (SecretRegistrations.settled_run hafter history).2

/-- Rows that are not active never become active again. -/
def NeverActiveAgain {κ μ : Type} (rows later : List (Registration κ μ)) : Prop :=
  ∀ row ∈ rows, row.status ≠ .active →
    ∀ other ∈ later, other.registrationId = row.registrationId → other.status ≠ .active

theorem neverActiveAgain_of_settled {κ μ : Type} {rows later : List (Registration κ μ)}
    (hsettled : Settled rows later) (hsound : Supersession.Sound later) :
    NeverActiveAgain rows later := by
  intro row hrow hstatus other hother hid
  rw [hsound.eq_of_id hother (hsettled row hrow hstatus) hid]
  exact hstatus

/-- **Registrations of secrets.**  Along every history one registration of a
provider and of a reference is active and none becomes active again; they are one
chain exactly when those made over a revoked one named the newest; and a repeated
revocation answers alike, for a provider exactly when its active registration is
the last by the instants. -/
theorem secret_registrations_chain (history : List SecretRegistrationCommand) :
    (OneActive (SecretRegistrations.after history).providers ∧
        OneActive (SecretRegistrations.after history).references) ∧
      (∀ later : List SecretRegistrationCommand,
        NeverActiveAgain (SecretRegistrations.after history).providers
            (SecretRegistrations.after (history ++ later)).providers ∧
          NeverActiveAgain (SecretRegistrations.after history).references
            (SecretRegistrations.after (history ++ later)).references) ∧
      ((SecretRegistrations.after history).Chained ↔ NamedNewest history) ∧
      (NamedNewest history →
        SupersededOnce (SecretRegistrations.after history).providers ∧
          SupersededOnce (SecretRegistrations.after history).references) ∧
      (∀ (command : RevokeSecretProviderCommand) (row : RegisteredSecretProvider)
          (after : List RegisteredSecretProvider),
        revokeProvider command (SecretRegistrations.after history).providers =
          .ok (row, after) →
          (command.Repeats row after ↔
            command.LastByInstant (SecretRegistrations.after history).providers)) ∧
      ∀ (command : RevokeSecretReferenceCommand) (row : RegisteredSecretReference)
          (after : List RegisteredSecretReference),
        revokeReference command (SecretRegistrations.after history).references =
            .ok (row, after) →
          ∀ later : List SecretRegistrationCommand,
            revokeReference command (run SecretRegistrations.execute
                { SecretRegistrations.after history with
                    references := after } later).references =
              .ok (row, (run SecretRegistrations.execute
                { SecretRegistrations.after history with references := after }
                  later).references) := by
  have hsound := SecretRegistrations.sound_after history
  refine ⟨⟨hsound.providers.one_active, hsound.references.one_active⟩, fun later => ?_,
    SecretRegistrations.chained_after history, fun hnamed => ?_,
    fun command row after h => revokeProvider_repeats hsound.providers h,
    fun command row after h later => revokeReference_repeats hsound h later⟩
  · have hlater := SecretRegistrations.sound_after (history ++ later)
    have hsettled := SecretRegistrations.settled_run hsound later
    have hrun : run SecretRegistrations.execute
        (SecretRegistrations.after history) later =
        SecretRegistrations.after (history ++ later) := run_append.symm
    rw [hrun] at hsettled
    exact ⟨neverActiveAgain_of_settled hsettled.1 hlater.providers,
      neverActiveAgain_of_settled hsettled.2 hlater.references⟩
  · obtain ⟨hproviders, hreferences⟩ :=
      (SecretRegistrations.chained_after history).mpr hnamed
    exact ⟨fun a ha b hb target htarget hsame =>
        hproviders.superseded_once hsound.providers ha hb htarget hsame,
      fun a ha b hb target htarget hsame =>
        hreferences.superseded_once hsound.references ha hb htarget hsame⟩

/-! ## A revocation that is not repeated

A provider is admitted at a late instant, superseded by a registration of an early
one, and revoked. -/

theorem heldReference_nonempty :
    Library.Text.isBlank "secret://p/k" = false := by decide

def heldReference : SecretReference := ⟨"secret://p/k", heldReference_nonempty⟩

def heldMaterial : SecretProviderMaterial where
  providerKind := .controlPlaneKitSecrets
  displayName := "d"
  endpointReference := "e"
  credentialReference := heldReference
  allowedReferencePrefixes := [heldReference]
  allowedIntents := [.postgresPassword]
  metadata := []

def registerHeld (supersedes : Option String) (admittedAt : String) :
    RegisterSecretProviderCommand where
  workspaceId := "w"
  providerId := "p"
  material := heldMaterial
  admittedBy := "a"
  admittedAt := admittedAt
  actorScopes := [.secretProviderRegister]
  supersedesRegistrationId := supersedes

def heldRow (registrationId : String) (supersedes : Option String)
    (admittedAt : String) : RegisteredSecretProvider :=
  newRegistration registrationId "w" "p" heldMaterial supersedes "a" admittedAt

/-- The digest of a text, its rounds unrolled. -/
def hasDigest (value : PyValue) (hex : String) : Bool :=
  match PyValue.dumps PyValue.JsonStyle.compact value with
  | .ok text => decide (Sha256.unrolledHexdigestChars (Text.utf8 text) = hex.toList)
  | .error _ => false

theorem semanticsDigest_of_hasDigest {value : PyValue} {hex : String}
    (h : hasDigest value hex = true) : semanticsDigest value = .ok hex := by
  unfold hasDigest at h
  unfold semanticsDigest
  cases htext : PyValue.dumps PyValue.JsonStyle.compact value with
  | error _ => simp only [htext, Bool.false_eq_true] at h
  | ok text =>
      simp only [htext, decide_eq_true_eq, Sha256.unrolledHexdigestChars_eq] at h
      simp only [sha256Hexdigest, String.toList_ofList, h, String.ofList_toList]

def firstDigest : String :=
  "d39d8736050beb718d0eb93af9dbe6aad3aab31aec2c6f8456392750da435f79"

def secondDigest : String :=
  "c116725ec8ccdf6084494234821c94dc40272a9e40f1a50bfbf635fca8ec75ae"

theorem heldDigests :
    semanticsDigest (providerSemantics "w" "p" none heldMaterial) = .ok firstDigest ∧
      semanticsDigest (providerSemantics "w" "p"
        (some ("sprov_" ++ firstDigest)) heldMaterial) =
        .ok secondDigest :=
  ⟨semanticsDigest_of_hasDigest (by decide +kernel),
    semanticsDigest_of_hasDigest (by decide +kernel)⟩

/-- The texts a registration of the provider is checked by. -/
theorem heldTexts :
    requireIdentifier "w" "workspace_id" = .ok () ∧
    requirePublicText "d" "display_name" 128 = .ok () ∧
      requireIdentifier "a" "admitted_by" = .ok () ∧
      referenceProviderId heldReference = "p" ∧
      ∀ admittedAt ∈ ["2025-01-01T00:00:00Z", "2024-01-01T00:00:00Z"],
        requireBoundedText admittedAt "admitted_at" 128 = .ok () ∧
          encodePostgresTimestamp admittedAt = .ok () := by
  decide +kernel

theorem held_brings {supersedes : Option String} {admittedAt digest : String}
    (hinstant : admittedAt ∈ ["2025-01-01T00:00:00Z", "2024-01-01T00:00:00Z"])
    (hdigest : semanticsDigest (providerSemantics "w" "p" supersedes heldMaterial) =
      .ok digest)
    (hsupersedes : checkSupersedes ("sprov_" ++ digest) supersedes
      "provider registration cannot supersede itself" = .ok ()) :
    (registerHeld supersedes admittedAt).brings =
      .ok (heldRow ("sprov_" ++ digest) supersedes admittedAt) := by
  obtain ⟨hworkspace, hname, hactor, hprovider, htexts⟩ := heldTexts
  obtain ⟨hbounded, hencoded⟩ := htexts admittedAt hinstant
  have hprefixes : referencePrefixes [heldReference] "p" = .ok [heldReference] := by
    simp [referencePrefixes, requireThat, hprovider]
    rfl
  have hintents : secretIntents [.postgresPassword] = .ok [.postgresPassword] := by
    simp [secretIntents, requireThat]
  have hmetadata : checkMetadata [] = .ok () := rfl
  have hcandidate : (registerHeld supersedes admittedAt).candidate =
      .ok (heldRow ("sprov_" ++ digest) supersedes admittedAt) := by
    simp only [heldMaterial] at hdigest
    simp only [RegisterSecretProviderCommand.candidate, registerHeld, heldMaterial,
      hworkspace, hname, hactor, hbounded, hprefixes, hintents, hmetadata,
      Outcome.ok_bind, hdigest, hsupersedes]
    rfl
  have hscope : requireSecretScope [.secretProviderRegister] .secretProviderRegister =
    .ok () := rfl
  have hactive : requireThat
      (decide ((heldRow ("sprov_" ++ digest) supersedes admittedAt).status =
      .active)) (.conflict "new provider registration must be active") = .ok () := rfl
  have hadmitted : encodePostgresTimestamp
      (heldRow ("sprov_" ++ digest) supersedes admittedAt).admittedAt =
        .ok () := hencoded
  simp only [RegisterSecretProviderCommand.brings, hcandidate, Outcome.ok_bind, hactive,
    hadmitted, show (registerHeld supersedes admittedAt).actorScopes =
    [.secretProviderRegister] from rfl, hscope]
  rfl

/-- The first registration, as it is admitted and once it is superseded. -/
def firstHeld (status : RegistrationStatus) : RegisteredSecretProvider :=
  { heldRow ("sprov_" ++ firstDigest) none "2025-01-01T00:00:00Z" with
      status := status }

def secondHeld : RegisteredSecretProvider :=
  heldRow ("sprov_" ++ secondDigest)
    (some ("sprov_" ++ firstDigest)) "2024-01-01T00:00:00Z"

theorem heldDigests_ne : firstDigest ≠ secondDigest := by decide

theorem registerFirst_ok :
    registerProvider (registerHeld none "2025-01-01T00:00:00Z") [] =
    .ok (firstHeld .active, [firstHeld .active]) := by
  rw [registerProvider_eq, held_brings (by simp) heldDigests.1 rfl, Outcome.ok_bind]
  rfl

theorem registerSecond_ok :
    registerProvider
      (registerHeld (some ("sprov_" ++ firstDigest)) "2024-01-01T00:00:00Z")
        [firstHeld .active] =
      .ok (secondHeld, [firstHeld .superseded, secondHeld]) := by
  have hsupersedes : checkSupersedes ("sprov_" ++ secondDigest) (some ("sprov_" ++
      firstDigest)) "provider registration cannot supersede itself" = .ok () := by
    decide
  rw [registerProvider_eq, held_brings (by simp) heldDigests.2 hsupersedes,
    Outcome.ok_bind]
  change Supersession.register _ _ _ secondHeld = _
  have hsame : sameProviderAdmission (firstHeld .active) secondHeld = false := by decide
  have hbyId : byId [firstHeld .active] "w" secondHeld.registrationId = none := by
    simp [byId, secondHeld, firstHeld, heldRow, newRegistration, heldDigests_ne]
  have hactive : activeOf [firstHeld .active] "w" "p" = some (firstHeld .active) := by
    simp [activeOf, chain, Link.isOf, firstHeld, heldRow, newRegistration]
  have hvalid : validateSupersession secretProviderRefusals
      [firstHeld .active] secondHeld (some (firstHeld .active)) = .ok () := by
    simp [validateSupersession, byId, secondHeld, heldRow, newRegistration, firstHeld]
  have hupdated : updateActive (hasId "w" (firstHeld .active).registrationId)
      supersededRow [firstHeld .active] = [firstHeld .superseded] := by
    simp [updateActive, hasId, supersededRow, firstHeld, heldRow, newRegistration]
  have hinserted : insertRow secretProviderRefusals.taken
      [firstHeld .superseded] secondHeld =
      .ok (secondHeld, [firstHeld .superseded, secondHeld]) := by
    simp [insertRow, secondHeld, firstHeld, heldRow, newRegistration, heldDigests_ne]
  unfold Supersession.register
  simp only [show secondHeld.scope = "w" from rfl, show secondHeld.subject = "p"
    from rfl, hbyId, hactive, hsame, hvalid, hupdated, hinserted, Outcome.ok_bind]
  rfl

/-- Revoke the provider. -/
def revokeHeld : RevokeSecretProviderCommand where
  workspaceId := "w"
  providerId := "p"
  revokedBy := "a"
  revokedAt := "2025-01-01T00:00:00Z"
  actorScopes := [.secretProviderRevoke]

/-- The revocation retires the active registration. -/
theorem revokeHeld_active {rows : List RegisteredSecretProvider}
    {active : RegisteredSecretProvider} (hsound : Supersession.Sound rows)
    (hactive : activeOf rows "w" "p" = some active) :
    revokeProvider revokeHeld rows = .ok (revokedRow "a" "2025-01-01T00:00:00Z" active,
      updateActive (hasId "w" active.registrationId)
        (revokedRow "a" "2025-01-01T00:00:00Z")
        rows) := by
  have hchecks : requireIdentifier "w" "workspace_id" = .ok () ∧
      requireIdentifier "a" "revoked_by" = .ok () ∧
      requireBoundedText "2025-01-01T00:00:00Z" "revoked_at" 128 = .ok () ∧
      encodePostgresTimestamp "2025-01-01T00:00:00Z" = .ok () := by
    decide
  obtain ⟨hworkspace, hby, hat, hinstant⟩ := hchecks
  have hscope : requireSecretScope [.secretProviderRevoke] .secretProviderRevoke =
    .ok () := rfl
  simp only [revokeProvider, revokeHeld, hworkspace, hby, hat, hscope, Outcome.ok_bind,
    SecretProviderStore.revokeActive, hinstant, revokeActive_active hsound hactive]

def heldHistory : List SecretRegistrationCommand :=
  [ .registerProvider (registerHeld none "2025-01-01T00:00:00Z")
  , .registerProvider
    (registerHeld (some ("sprov_" ++ firstDigest)) "2024-01-01T00:00:00Z") ]

/-- The providers after two registrations. -/
theorem providers_after_two {first second : RegisterSecretProviderCommand}
    {admitted admitted' : RegisteredSecretProvider}
    {rows rows' : List RegisteredSecretProvider}
    (hfirst : registerProvider first [] = .ok (admitted, rows))
    (hsecond : registerProvider second rows = .ok (admitted', rows')) :
    (SecretRegistrations.after
      [.registerProvider first, .registerProvider second]).providers =
      rows' := by
  rw [SecretRegistrations.after, run_cons, run_cons, run_nil, settle_registerProvider,
    settle_registerProvider]
  simp only [SecretRegistrations.empty, hfirst, settleRows, hsecond]

theorem heldHistory_providers :
    (SecretRegistrations.after heldHistory).providers =
      [firstHeld .superseded, secondHeld] :=
  providers_after_two registerFirst_ok registerSecond_ok

/-- The revocation is accepted, and refused when it is repeated. -/
theorem revokeHeld_not_repeated :
    revokeProvider revokeHeld (SecretRegistrations.after heldHistory).providers =
        .ok (revokedRow "a" "2025-01-01T00:00:00Z" secondHeld,
          [firstHeld .superseded, revokedRow "a" "2025-01-01T00:00:00Z" secondHeld]) ∧
      ¬ revokeHeld.Repeats (revokedRow "a" "2025-01-01T00:00:00Z" secondHeld)
          [firstHeld .superseded, revokedRow "a" "2025-01-01T00:00:00Z"
            secondHeld] := by
  have hsound := (SecretRegistrations.sound_after heldHistory).providers
  rw [heldHistory_providers] at hsound ⊢
  have hactive : activeOf [firstHeld .superseded, secondHeld] "w" "p" =
      some secondHeld := by
    simp [activeOf, chain, Link.isOf, firstHeld, secondHeld, heldRow, newRegistration]
  have hrevoke : revokeProvider revokeHeld [firstHeld .superseded, secondHeld] =
      .ok (revokedRow "a" "2025-01-01T00:00:00Z" secondHeld,
        [firstHeld .superseded, revokedRow "a" "2025-01-01T00:00:00Z" secondHeld]) := by
    have hupdated : updateActive (hasId "w" secondHeld.registrationId)
        (revokedRow "a" "2025-01-01T00:00:00Z") [firstHeld .superseded, secondHeld] =
          [firstHeld .superseded, revokedRow "a" "2025-01-01T00:00:00Z"
            secondHeld] := by
      simp [updateActive, hasId, firstHeld, secondHeld, heldRow, newRegistration]
    rw [revokeHeld_active hsound hactive, hupdated]
  refine ⟨hrevoke, fun hrepeats => ?_⟩
  -- the superseded registration is the last by the instants
  have hlast := (revokeProvider_repeats hsound hrevoke).mp hrepeats secondHeld hactive
  have hinstants : instantOfText "2024-01-01T00:00:00Z" <
      instantOfText "2025-01-01T00:00:00Z" := by
    decide
  have hhistory : listHistory instantOfText
      [firstHeld .superseded, secondHeld] "w" "p" =
      [secondHeld, firstHeld .superseded] := by
    have hchain : chain [firstHeld .superseded, secondHeld] "w" "p" =
        [firstHeld .superseded, secondHeld] := by
      simp [chain, Link.isOf, firstHeld, secondHeld, heldRow, newRegistration]
    rw [listHistory, hchain]
    simp [List.mergeSort, firstHeld, secondHeld, heldRow, newRegistration,
      hinstants.not_gt, hinstants.ne']
  simp only [revokeHeld, hhistory] at hlast
  exact absurd (congrArg Registration.status (Option.some.inj hlast)) (by decide)

end ControlPlaneKit.Operations
