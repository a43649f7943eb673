import ControlPlaneKit.Operations.Registries

/-!
# RegistryLaws — what the registers of a workspace answer

Every command moves one of the four tables as the registries' library allows, so
a key has one active registration along every history.  A register is truthful
exactly when nothing revoked stands in its way.
-/

namespace ControlPlaneKit.Operations

open ControlPlaneKit.Library.EventFold (bind_ok)
open ControlPlaneKit.Library
open ControlPlaneKit.Library.Registry
open ControlPlaneKit.Library.Transactions
  (settle run run_invariant run_cons run_nil settle_ok
  settle_error)
open ControlPlaneKit.Topology

variable {reprText : String → String}

/-! ## The checks of a record -/

theorem validateIdentifier_digest {tag document field : String}
    (htag : tag.length ≤ 448) (hclean : ∀ c ∈ tag.toList, 32 ≤ c.toNat) :
    validateIdentifier (tag ++ sha256Hexdigest document) field = .ok () := by
  have hlength : (sha256Hexdigest document).length = 64 := by
    rw [sha256Hexdigest, String.length_ofList, Library.Sha256.hexdigestChars_length]
  have hdigits : ∀ c ∈ (sha256Hexdigest document).toList, 32 ≤ c.toNat := by
    intro c hc
    rw [sha256Hexdigest, String.toList_ofList] at hc
    have hdigit := Library.Sha256.isHexDigit_of_mem_hexdigest hc
    simp only [Library.Sha256.isHexDigit, Bool.or_eq_true, Bool.and_eq_true,
      decide_eq_true_eq] at hdigit
    omega
  have hne : tag ++ sha256Hexdigest document ≠ "" := by
    intro hempty
    have h := congrArg String.length hempty
    rw [String.length_append, hlength, String.length_empty] at h
    omega
  unfold validateIdentifier
  rw [if_neg (by
    rintro (hempty | hlong)
    · exact hne hempty
    · rw [String.length_append, hlength] at hlong
      omega)]
  rw [if_neg]
  simp only [String.toList_append, List.any_append, Bool.or_eq_true, List.any_eq_true,
    decide_eq_true_eq, not_or, not_exists, not_and, not_lt]
  exact ⟨hclean, hdigits⟩

/-- A timestamp that is refused is not refused as the registry's own error. -/
theorem truthful_encode {μ α : Type} {rows : List (Registration μ α)} {entry : μ}
    {value : String}
    {rest : Except RegistryError (Registration μ α × List (Registration μ α))} :
    Truthful (fun error => error.isOwn = true) rows entry
        (encodeAdmittedAt value >>= fun _ => rest) ↔
      (canonicalInstant value).isSome = true ∧
        Truthful (fun error => error.isOwn = true) rows entry rest := by
  unfold encodeAdmittedAt
  split
  · rename_i hcanonical
    exact ⟨fun h => ⟨hcanonical, h⟩, fun h => h.2⟩
  · rename_i hcanonical
    exact ⟨fun h => absurd h.1 (by simp [RegistryError.isOwn]), fun h =>
      absurd h.1 hcanonical⟩

/-! ## A checked command -/

section Checked

variable {admission : Admission}

theorem registeredRuntimeAuthority_checked {material : RuntimeAuthorityMaterial}
    (h : (registeredRuntimeAuthority reprText material admission).isOk = true) :
    registeredRuntimeAuthority reprText material admission =
      .ok ((runtimeAuthorityScheme reprText).candidate material admission) := by
  cases hrecord : registeredRuntimeAuthority reprText material admission with
  | error e => rw [hrecord] at h; cases h
  | ok candidate =>
      simp only [registeredRuntimeAuthority, bind_ok] at hrecord
      obtain ⟨-, -, hrecord⟩ := hrecord
      split at hrecord <;> cases hrecord
      rfl

theorem registeredIngressAuthority_checked {material : IngressAuthorityMaterial}
    (h : (registeredIngressAuthority reprText material admission).isOk = true) :
    registeredIngressAuthority reprText material admission =
      .ok ((ingressAuthorityScheme reprText).candidate material admission) := by
  cases hrecord : registeredIngressAuthority reprText material admission with
  | error e => rw [hrecord] at h; cases h
  | ok candidate =>
      simp only [registeredIngressAuthority, bind_ok] at hrecord
      obtain ⟨-, -, hrecord⟩ := hrecord
      cases hrecord
      rfl

theorem registeredProduct_checked {material : ProductMaterial}
    {admission : ProductAdmission}
    (h : (registeredProduct material admission).isOk = true) :
    registeredProduct material admission =
      .ok (productScheme.candidate material admission) := by
  cases hrecord : registeredProduct material admission with
  | error e => rw [hrecord] at h; cases h
  | ok candidate =>
      simp only [registeredProduct, bind_ok] at hrecord
      obtain ⟨-, -, hrecord⟩ := hrecord
      cases hrecord
      rfl

theorem registeredImagePullAuthority_checked {material : ImagePullMaterial}
    (h : (registeredImagePullAuthority material admission).isOk = true) :
    registeredImagePullAuthority material admission =
      .ok (imagePullScheme.candidate material admission) := by
  cases hrecord : registeredImagePullAuthority material admission with
  | error e => rw [hrecord] at h; cases h
  | ok candidate =>
      simp only [registeredImagePullAuthority, bind_ok] at hrecord
      obtain ⟨-, -, hrecord⟩ := hrecord
      cases hrecord
      rfl

end Checked

/-! ## What a command makes of the tables -/

/-- What the four tables keep. -/
structure Registries.Sound (reprText : String → String)
    (state : Registries) : Prop where
  runtimeAuthorities : Registry.Sound
    (runtimeAuthorityScheme reprText) state.runtimeAuthorities
  ingressAuthorities : Registry.Sound
    (ingressAuthorityScheme reprText) state.ingressAuthorities
  registeredProducts : Registry.Sound productScheme state.registeredProducts
  imagePullAuthorities : Registry.Sound imagePullScheme state.imagePullAuthorities

/-- One registration of each key is active, in each of the tables. -/
structure Registries.OneActive (state : Registries) : Prop where
  runtimeAuthorities : Registry.OneActive
    (fun material => (material.workspaceId, material.authorityRef))
    state.runtimeAuthorities
  ingressAuthorities : Registry.OneActive
    (fun material => (material.workspaceId, material.authorityRef))
    state.ingressAuthorities
  registeredProducts : Registry.OneActive
    (fun material => (material.workspaceId, material.reference.identity))
    state.registeredProducts
  imagePullAuthorities : Registry.OneActive
    (fun material => (material.workspaceId, material.authority.registry,
      material.authority.repository)) state.imagePullAuthorities

theorem Registries.Sound.one_active {state : Registries} (h : state.Sound reprText) :
    state.OneActive where
  runtimeAuthorities := h.runtimeAuthorities.oneActive
  ingressAuthorities := h.ingressAuthorities.oneActive
  registeredProducts := h.registeredProducts.oneActive
  imagePullAuthorities := h.imagePullAuthorities.oneActive

/-- A command on one table moves that table. -/
theorem RegisterCommand.sound {state after : Registries}
    {command : RegisterCommand reprText} (hsound : state.Sound reprText)
    (h : command.apply state = .ok ((), after)) : after.Sound reprText := by
  cases command with
  | runtimeAuthority material admission checked =>
      simp only [RegisterCommand.apply, RuntimeAuthorityStore.register,
        registeredRuntimeAuthority_checked checked, bind_ok] at h
      obtain ⟨⟨row, rows⟩, ⟨candidate, hcandidate, -, -, hregister⟩, h⟩ := h
      cases hcandidate
      cases h
      exact { hsound with
        runtimeAuthorities :=
          (registerByKey_move hregister).sound hsound.runtimeAuthorities }
  | ingressAuthority material admission checked =>
      simp only [RegisterCommand.apply, IngressAuthorityStore.register,
        registeredIngressAuthority_checked checked, bind_ok] at h
      obtain ⟨⟨row, rows⟩, ⟨candidate, hcandidate, -, -, hregister⟩, h⟩ := h
      cases hcandidate
      cases h
      exact { hsound with
        ingressAuthorities :=
          (registerByKey_move hregister).sound hsound.ingressAuthorities }
  | product material admission checked =>
      simp only [RegisterCommand.apply, RegisteredProductStore.register,
        registeredProduct_checked checked, bind_ok] at h
      obtain ⟨⟨row, rows⟩, ⟨candidate, hcandidate, -, -, hregister⟩, h⟩ := h
      cases hcandidate
      cases h
      exact { hsound with
        registeredProducts :=
          (registerByIdentity_move hregister).sound hsound.registeredProducts }
  | imagePullAuthority material admission checked =>
      simp only [RegisterCommand.apply, ImagePullAuthorityStore.register,
        registeredImagePullAuthority_checked checked, bind_ok] at h
      obtain ⟨⟨row, rows⟩, ⟨candidate, hcandidate, -, -, hregister⟩, h⟩ := h
      cases hcandidate
      cases h
      exact { hsound with
        imagePullAuthorities :=
          (registerByIdentity_move hregister).sound hsound.imagePullAuthorities }

theorem RevokeCommand.sound {state after : Registries} {command : RevokeCommand}
    (hsound : state.Sound reprText) (h : command.apply state = .ok ((), after)) :
    after.Sound reprText := by
  cases command with
  | runtimeAuthority workspaceId authorityRef =>
      simp only [RevokeCommand.apply, bind_ok] at h
      obtain ⟨⟨row, rows⟩, hrevoke, h⟩ := h
      cases h
      exact { hsound with
        runtimeAuthorities :=
          (revokeRead_move hrevoke).sound hsound.runtimeAuthorities }
  | ingressAuthority workspaceId authorityRef =>
      simp only [RevokeCommand.apply, bind_ok] at h
      obtain ⟨⟨row, rows⟩, hrevoke, h⟩ := h
      cases h
      exact { hsound with
        ingressAuthorities :=
          (revokeRead_move hrevoke).sound hsound.ingressAuthorities }
  | product workspaceId reference =>
      simp only [RevokeCommand.apply, bind_ok] at h
      obtain ⟨⟨row, rows⟩, hrevoke, h⟩ := h
      cases h
      exact { hsound with
        registeredProducts :=
          (revokeRead_move hrevoke).sound hsound.registeredProducts }
  | imagePullAuthority workspaceId authorityId =>
      simp only [RevokeCommand.apply, bind_ok] at h
      obtain ⟨⟨row, rows⟩, hrevoke, h⟩ := h
      cases h
      exact { hsound with
        imagePullAuthorities :=
          (revokeRead_move hrevoke).sound hsound.imagePullAuthorities }

/-- **The tables' invariant**, along every history. -/
theorem Registries.sound_after (history : List (RegistryCommand reprText)) :
    (Registries.after history).Sound reprText := by
  refine run_invariant (fun state command answer after hsound h => ?_)
    ⟨sound_nil, sound_nil, sound_nil, sound_nil⟩ history
  cases command with
  | inl command => exact command.sound hsound h
  | inr command => exact RevokeCommand.sound hsound h

/-! ## When a register tells the truth -/

/-- What a register command must do of a state: return an active registration of
exactly its material, or refuse by the registry's own error, and never refuse what
was revoked.  A refusal carries no tables: its transaction is rolled back. -/
def RegisterCommand.Truthful (state : Registries) : RegisterCommand reprText → Prop
  | .runtimeAuthority material admission _ =>
      Registry.Truthful (fun error => error.isOwn = true) state.runtimeAuthorities
        material (RuntimeAuthorityStore.register reprText state.runtimeAuthorities
          material admission)
  | .ingressAuthority material admission _ =>
      Registry.Truthful (fun error => error.isOwn = true) state.ingressAuthorities
        material (IngressAuthorityStore.register reprText state.ingressAuthorities
          material admission)
  | .product material admission _ =>
      Registry.Truthful (fun error => error.isOwn = true)
        state.registeredProducts material
        (RegisteredProductStore.register state.registeredProducts material admission)
  | .imagePullAuthority material admission _ =>
      Registry.Truthful (fun error => error.isOwn = true)
        state.imagePullAuthorities material
        (ImagePullAuthorityStore.register state.imagePullAuthorities material admission)

/-- When it does: the timestamp is canonical, what was revoked does not hold the
same, and the identity to be inserted is free. -/
def RegisterCommand.Unhindered (state : Registries) : RegisterCommand reprText → Prop
  | .runtimeAuthority material admission _ =>
      (canonicalInstant admission.admittedAt).isSome = true ∧
        NeverRevoked state.runtimeAuthorities material ∧
        (KeyHeld (runtimeAuthorityScheme reprText) state.runtimeAuthorities material ∨
          IdentityFree (runtimeAuthorityScheme reprText)
            state.runtimeAuthorities material)
  | .ingressAuthority material admission _ =>
      (canonicalInstant admission.admittedAt).isSome = true ∧
        NeverRevoked state.ingressAuthorities material ∧
        (KeyHeld (ingressAuthorityScheme reprText) state.ingressAuthorities material ∨
          IdentityFree (ingressAuthorityScheme reprText)
            state.ingressAuthorities material)
  | .product material admission _ =>
      let candidate := productScheme.candidate material admission
      (canonicalInstant admission.importedAt).isSome = true ∧
        FoundSame RegisteredProductStore.digestOf state.registeredProducts candidate ∧
        (Found RegisteredProductStore.digestOf state.registeredProducts candidate ∨
          KeyHeld productScheme state.registeredProducts material ∨
          IdentityFree productScheme state.registeredProducts material)
  | .imagePullAuthority material admission _ =>
      let candidate := imagePullScheme.candidate material admission
      (canonicalInstant admission.admittedAt).isSome = true ∧
        FoundSame ImagePullAuthorityStore.idOf state.imagePullAuthorities candidate ∧
        (Found ImagePullAuthorityStore.idOf state.imagePullAuthorities candidate ∨
          KeyHeld imagePullScheme state.imagePullAuthorities material ∨
          IdentityFree imagePullScheme state.imagePullAuthorities material)

theorem runtimeAuthority_same {a b : RuntimeAuthorityMaterial}
    (hkey : (runtimeAuthorityScheme reprText).key a =
      (runtimeAuthorityScheme reprText).key b) :
    (decide (a.runtimeKind = b.runtimeKind) && decide (a.authority = b.authority)) =
      true ↔
      a = b := by
  simp only [runtimeAuthorityScheme, Prod.mk.injEq] at hkey
  cases a
  cases b
  simp_all

theorem ingressAuthority_same {a b : IngressAuthorityMaterial}
    (hkey : (ingressAuthorityScheme reprText).key a =
      (ingressAuthorityScheme reprText).key b) :
    decide (a.authority = b.authority) = true ↔ a = b := by
  simp only [ingressAuthorityScheme, Prod.mk.injEq] at hkey
  cases a
  cases b
  simp_all

/-- Products of one digest have one identity. -/
theorem product_digest {state : Registries} (hsound : state.Sound reprText) :
    ∀ a ∈ state.registeredProducts, ∀ b ∈ state.registeredProducts,
      RegisteredProductStore.digestOf a = RegisteredProductStore.digestOf b →
        a.registrationId = b.registrationId := by
  intro a ha b hb hdigest
  obtain ⟨hworkspace, hsha⟩ := Prod.mk.inj hdigest
  rw [hsound.registeredProducts.identified a ha,
    hsound.registeredProducts.identified b hb]
  simp only [productScheme, registrationIdFor, hworkspace, hsha]

/-- **When a register tells the truth.** -/
theorem RegisterCommand.truthful_iff {state : Registries}
    (hsound : state.Sound reprText) (command : RegisterCommand reprText) :
    command.Truthful state ↔ command.Unhindered state := by
  cases command with
  | runtimeAuthority material admission checked =>
      simp only [RegisterCommand.Truthful, RegisterCommand.Unhindered,
        RuntimeAuthorityStore.register, registeredRuntimeAuthority_checked checked]
      refine truthful_encode.trans (and_congr_right fun _ => ?_)
      exact registerByKey_truthful hsound.runtimeAuthorities rfl
        (by simp [RegistryError.isOwn])
        fun a b hkey => runtimeAuthority_same hkey
  | ingressAuthority material admission checked =>
      simp only [RegisterCommand.Truthful, RegisterCommand.Unhindered,
        IngressAuthorityStore.register, registeredIngressAuthority_checked checked]
      refine truthful_encode.trans (and_congr_right fun _ => ?_)
      exact registerByKey_truthful hsound.ingressAuthorities rfl
        (by simp [RegistryError.isOwn])
        fun a b hkey => ingressAuthority_same hkey
  | product material admission checked =>
      simp only [RegisterCommand.Truthful, RegisterCommand.Unhindered,
        RegisteredProductStore.register, registeredProduct_checked checked]
      refine truthful_encode.trans (and_congr_right fun _ => ?_)
      refine registerByIdentity_truthful hsound.registeredProducts rfl
        (by simp [RegistryError.isOwn]) (product_digest hsound) fun row _ hentry => ?_
      simp only [RegisteredProductStore.digestOf, hentry, Scheme.candidate]
  | imagePullAuthority material admission checked =>
      simp only [RegisterCommand.Truthful, RegisterCommand.Unhindered,
        ImagePullAuthorityStore.register, registeredImagePullAuthority_checked checked]
      refine truthful_encode.trans (and_congr_right fun _ => ?_)
      refine registerByIdentity_truthful hsound.imagePullAuthorities rfl
        (by simp [RegistryError.isOwn]) (fun a _ b _ hid => (Prod.mk.inj hid).2)
        fun row hrow hentry => ?_
      simp only [ImagePullAuthorityStore.idOf, hentry, Scheme.candidate,
        hsound.imagePullAuthorities.identified row hrow]

/-- **Registration.**  Along every history one registration of a key is active, and
a register is truthful exactly when nothing hinders it. -/
theorem registers_truthfully_iff (reprText : String → String)
    (history : List (RegistryCommand reprText)) :
    (Registries.after history).OneActive ∧
      ∀ command : RegisterCommand reprText,
        command.Truthful (Registries.after history) ↔
          command.Unhindered (Registries.after history) :=
  ⟨(Registries.sound_after history).one_active,
    fun command => command.truthful_iff (Registries.sound_after history)⟩

/-! ## A registration that was revoked -/

/-- A revoked registration of the command's material. -/
def RegisterCommand.WasRevoked (state : Registries) : RegisterCommand reprText → Prop
  | .runtimeAuthority material _ _ =>
      ∃ row ∈ state.runtimeAuthorities, row.entry = material ∧ row.status = .revoked
  | .ingressAuthority material _ _ =>
      ∃ row ∈ state.ingressAuthorities, row.entry = material ∧ row.status = .revoked
  | .product material _ _ =>
      ∃ row ∈ state.registeredProducts, row.entry = material ∧ row.status = .revoked
  | .imagePullAuthority material _ _ =>
      ∃ row ∈ state.imagePullAuthorities, row.entry = material ∧ row.status = .revoked

/-- What was revoked is never registered again. -/
theorem RegisterCommand.not_truthful_of_revoked {state : Registries}
    (hsound : state.Sound reprText) {command : RegisterCommand reprText}
    (hrevoked : command.WasRevoked state) : ¬ command.Truthful state := by
  rw [command.truthful_iff hsound]
  cases command with
  | runtimeAuthority material admission checked =>
      obtain ⟨row, hrow, hentry, hstatus⟩ := hrevoked
      rintro ⟨-, hnever, -⟩
      exact absurd ((hnever row hrow hentry).symm.trans hstatus) (by decide)
  | ingressAuthority material admission checked =>
      obtain ⟨row, hrow, hentry, hstatus⟩ := hrevoked
      rintro ⟨-, hnever, -⟩
      exact absurd ((hnever row hrow hentry).symm.trans hstatus) (by decide)
  | product material admission checked =>
      obtain ⟨row, hrow, hentry, hstatus⟩ := hrevoked
      rintro ⟨-, hsame, -⟩
      have hdigest : RegisteredProductStore.digestOf row =
          RegisteredProductStore.digestOf
            (productScheme.candidate material admission) := by
        simp only [RegisteredProductStore.digestOf, hentry, Scheme.candidate]
      exact absurd ((hsame row hrow hdigest).1.symm.trans hstatus) (by decide)
  | imagePullAuthority material admission checked =>
      obtain ⟨row, hrow, hentry, hstatus⟩ := hrevoked
      rintro ⟨-, hsame, -⟩
      have hid : ImagePullAuthorityStore.idOf row =
          ImagePullAuthorityStore.idOf
            (imagePullScheme.candidate material admission) := by
        simp only [ImagePullAuthorityStore.idOf, hentry, Scheme.candidate,
          hsound.imagePullAuthorities.identified row hrow]
      exact absurd ((hsame row hrow hid).1.symm.trans hstatus) (by decide)

def localDocker : RuntimeAuthorityMaterial where
  workspaceId := "w"
  authorityRef := ⟨"docker"⟩
  runtimeKind := .docker
  authority := .localDockerSocket

def newYear : Admission where
  admittedBy := "a"
  admittedAt := "2024-01-01T00:00:00Z"

theorem localDocker_checked :
    (registeredRuntimeAuthority plainRepr localDocker newYear).isOk = true := by
  have hid : validateIdentifier
      (runtimeAuthorityRegistrationIdFor plainRepr localDocker)
      "registration_id" = .ok () := validateIdentifier_digest (by decide)
        (Text.forall_mem_of_all (by decide))
  have hworkspace : validateIdentifier localDocker.workspaceId "workspace_id" =
      .ok () := by
    decide
  have hactor : validateIdentifier newYear.admittedBy "admitted_by" =
    .ok () := by decide
  have hinstant : validateIdentifier newYear.admittedAt "admitted_at" = .ok () := by
    decide
  simp only [registeredRuntimeAuthority, validateAdmission, runtimeAuthorityScheme,
    Scheme.candidate, hid, hworkspace, hactor, hinstant]
  rfl

def registerLocalDocker : RegisterCommand plainRepr :=
  .runtimeAuthority localDocker newYear localDocker_checked

/-- Register the local socket and revoke it. -/
def localDockerRevoked : List (RegistryCommand plainRepr) :=
  [.inl registerLocalDocker, .inr (.runtimeAuthority "w" ⟨"docker"⟩)]

def localDockerRow : RegisteredRuntimeAuthority :=
  (runtimeAuthorityScheme plainRepr).candidate localDocker newYear

theorem registerLocalDocker_ok : Registries.execute (.inl registerLocalDocker) .empty =
    .ok ((), { Registries.empty with runtimeAuthorities := [localDockerRow] }) := by
  have hcanonical : encodeAdmittedAt newYear.admittedAt = .ok () := by decide
  have hregister : RuntimeAuthorityStore.register plainRepr [] localDocker newYear =
      .ok (localDockerRow, [localDockerRow]) := by
    rw [RuntimeAuthorityStore.register,
      registeredRuntimeAuthority_checked localDocker_checked, hcanonical]
    rfl
  simp only [Registries.execute, registerLocalDocker, RegisterCommand.apply,
    Registries.empty, hregister]
  rfl

theorem revokeLocalDocker_ok :
    Registries.execute
      (.inr (.runtimeAuthority "w" ⟨"docker"⟩) : RegistryCommand plainRepr)
        { Registries.empty with runtimeAuthorities := [localDockerRow] } =
      .ok ((), { Registries.empty with
        runtimeAuthorities := [{ localDockerRow with status := .revoked }] }) := by
  have hget : ∀ status, RuntimeAuthorityStore.get "w" ⟨"docker"⟩
      [{ localDockerRow with status := status }] =
        .ok { localDockerRow with status := status } := by
    intro status
    simp [RuntimeAuthorityStore.get, preferredRow, localDockerRow, Scheme.candidate,
      localDocker, requireRow]
  have hrevoke : RuntimeAuthorityStore.revoke "w" ⟨"docker"⟩ [localDockerRow] =
      .ok ({ localDockerRow with status := .revoked },
        [{ localDockerRow with status := .revoked }]) := by
    rw [RuntimeAuthorityStore.revoke, revokeRead, show RuntimeAuthorityStore.get "w"
      ⟨"docker"⟩ [localDockerRow] = .ok localDockerRow from hget .active]
    exact congrArg (· >>= fun row =>
      .ok (row, [{ localDockerRow with status := .revoked }])) (hget .revoked)
  simp only [Registries.execute, RevokeCommand.apply, hrevoke]
  rfl

/-- The local socket, revoked, cannot be registered again. -/
theorem localDocker_not_registered_again :
    ¬ registerLocalDocker.Truthful (Registries.after localDockerRevoked) := by
  refine RegisterCommand.not_truthful_of_revoked
    (Registries.sound_after localDockerRevoked) ?_
  have hstate : Registries.after localDockerRevoked =
      { Registries.empty with
        runtimeAuthorities := [{ localDockerRow with status := .revoked }] } := by
    rw [Registries.after, localDockerRevoked, run_cons, run_cons, run_nil,
      settle_ok registerLocalDocker_ok, settle_ok revokeLocalDocker_ok]
  rw [hstate]
  exact ⟨_, List.mem_singleton.mpr rfl, rfl, rfl⟩

end ControlPlaneKit.Operations
