import ControlPlaneKit.Rotation.Completion
import ControlPlaneKit.Rotation.RotationLifecycle
import ControlPlaneKit.Rotation.SigningKeyLaws

/-!
# CompletionLaws — a completion that may crash, and be executed again

Whatever is interleaved and wherever an execution stops, a provider is asked for
the one revocation that is stored, and a rotation completes over a confirmed
revocation and a revoked key.
-/

namespace ControlPlaneKit.Rotation

open ControlPlaneKit.Library (PyValue)
open ControlPlaneKit.Library.EventFold (bind_ok)
open ControlPlaneKit.Library.Interleaved
open ControlPlaneKit.Library.Interleaved.Program
open ControlPlaneKit.Library.Transactions (settle settle_cases)
open ControlPlaneKit.Operations
open ControlPlaneKit.Topology
open SigningKeyTable (select)

variable {hash : String → String} {digest : PyValue → String}
  {state after : CompletionState} {rotation : GatewayKeyRotation}
  {command : CompleteGatewayKeyRotation}

/-! ## Vocabulary -/

/-- The provider said that it revoked the version the grant names. -/
def IsConfirmed (grant : SecretVersionRevocationGrant)
    (answer : RevocationAnswer) : Prop :=
  ∃ receipt, answer = .revoked receipt ∧ receipt.matchesGrant grant = true

/-- The key a rotation replaces is revoked. -/
def OldKeyRevoked (keys : SigningKeyTable) (rotation : GatewayKeyRotation) : Prop :=
  ∃ row, select keys (rotationScope rotation) rotation.intent.oldKeyId = some row ∧
    row.status = .revoked

/-- A grant is made out for a rotation, under the digest of its content. -/
structure GrantFor (digest : PyValue → String) (intent : GatewayKeyRotationIntent)
    (grant : SecretVersionRevocationGrant) : Prop where
  operation : grant.operationId = intent.rotationId
  workspace : grant.workspaceId = intent.workspaceId
  revocation : grant.revocationId = "srevoke_" ++ grant.revocationFingerprint
  fingerprint : grant.revocationFingerprint = digest (revocationActionSemantics grant)

/-- The revocation a grant asks for is the one that the rotation has stored. -/
def IsStored (digest : PyValue → String) (rotations : RotationStores)
    (grant : SecretVersionRevocationGrant) : Prop :=
  ∃ rotation checkpoint, rotations.rotations[grant.operationId]? = some rotation ∧
    rotation.revocation = some checkpoint ∧
    checkpoint = revocationCheckpoint grant checkpoint.preparedAt ∧
    GrantFor digest rotation.intent grant

/-- A provider confirmed the revocation of a rotation. -/
def RevocationConfirmed (state : CompletionState) (rotationId : String) : Prop :=
  ∃ grant answer, (grant, answer) ∈ state.revocations ∧ grant.operationId = rotationId ∧
    IsConfirmed grant answer

/-- The rotations that are completed in the one table were so in the other. -/
def CompletesNone (before after : RotationStores) : Prop :=
  ∀ (rotationId : String) (rotation : GatewayKeyRotation),
    after.rotations[rotationId]? = some rotation → rotation.status = .completed →
    before.rotations[rotationId]? = some rotation

/-! ## The protocol of the program -/

/-- What holds of the shared state: every request was for the stored revocation, and a
completed rotation has a confirmed one and its old key revoked. -/
structure CompletionInv (digest : PyValue → String)
    (state : CompletionState) : Prop where
  sound : RotationsSound state.rotations
  requested : ∀ grant answer, (grant, answer) ∈ state.revocations →
    IsStored digest state.rotations grant
  completed : ∀ (rotationId : String) (rotation : GatewayKeyRotation),
    state.rotations.rotations[rotationId]? = some rotation →
    rotation.status = .completed →
    RevocationConfirmed state rotationId ∧ OldKeyRevoked state.keys rotation

/-- What every program leaves in place. -/
structure CompletionKept (before after : CompletionState) : Prop where
  rotations : RotationsKept before.rotations after.rotations
  keys : Follows before.keys after.keys
  revocations : before.revocations ⊆ after.revocations

/-- **What one step of the program does.** -/
inductive CompletionMove (digest : PyValue → String) (state : CompletionState) :
    CompletionState → Prop where
  | same : CompletionMove digest state state
  | keys (keys : SigningKeyTable) (hkept : Follows state.keys keys) :
      CompletionMove digest state { state with keys := keys }
  | rotations (rotations : RotationStores) (hkept : RotationsKept state.rotations
      rotations) (hnone : CompletesNone state.rotations rotations) :
      CompletionMove digest state { state with rotations := rotations }
  | completes (rotations : RotationStores) (rotationId : String)
      (hkept : RotationsKept state.rotations rotations)
      (hothers : ∀ (otherId : String) (rotation : GatewayKeyRotation),
        otherId ≠ rotationId →
        rotations.rotations[otherId]? = some rotation → rotation.status = .completed →
        state.rotations.rotations[otherId]? = some rotation)
      (hconfirmed : RevocationConfirmed state rotationId)
      (hrevoked : ∀ rotation : GatewayKeyRotation,
        rotations.rotations[rotationId]? = some rotation →
        OldKeyRevoked state.keys rotation) :
      CompletionMove digest state { state with rotations := rotations }
  | requests (grant : SecretVersionRevocationGrant) (answer : RevocationAnswer)
      (hstored : IsStored digest state.rotations grant) :
      CompletionMove digest state
        { state with revocations := state.revocations ++ [(grant, answer)] }

theorem CompletionKept.refl (state : CompletionState) : CompletionKept state state :=
  ⟨.refl _, .refl _, List.Subset.refl _⟩

theorem CompletionKept.trans {a b c : CompletionState} (h : CompletionKept a b)
    (h' : CompletionKept b c) : CompletionKept a c :=
  ⟨h.rotations.trans h'.rotations, h.keys.trans h'.keys, fun _ hmem =>
    h'.revocations (h.revocations hmem)⟩

theorem CompletionMove.kept (h : CompletionMove digest state after) :
    CompletionKept state after := by
  cases h with
  | same => exact .refl _
  | keys keys hkept => exact ⟨.refl _, hkept, List.Subset.refl _⟩
  | rotations rotations hkept => exact ⟨hkept, .refl _, List.Subset.refl _⟩
  | completes rotations rotationId hkept => exact ⟨hkept, .refl _, List.Subset.refl _⟩
  | requests grant answer => exact ⟨.refl _, .refl _, List.subset_append_left _ _⟩

/-! ### What is kept of a rotation's evidence -/

theorem IsStored.kept {rotations rotations' : RotationStores}
    {grant : SecretVersionRevocationGrant} (h : IsStored digest rotations grant)
    (hkept : RotationsKept rotations rotations') :
    IsStored digest rotations' grant := by
  obtain ⟨rotation, checkpoint, hrotation, hrevocation, hcheckpoint, hgrant⟩ := h
  obtain ⟨rotation', hrotation', hevidence, -⟩ := hkept _ _ hrotation
  exact ⟨rotation', checkpoint, hrotation',
    hevidence.revocation _ hrevocation, hcheckpoint, hevidence.intent ▸ hgrant⟩

theorem RevocationConfirmed.kept {rotationId : String}
    (h : RevocationConfirmed state rotationId) (hkept : CompletionKept state after) :
    RevocationConfirmed after rotationId := by
  obtain ⟨grant, answer, hmem, hrest⟩ := h
  exact ⟨grant, answer, hkept.revocations hmem, hrest⟩

theorem OldKeyRevoked.kept {keys keys' : SigningKeyTable}
    (h : OldKeyRevoked keys rotation) (hkept : Follows keys keys') :
    OldKeyRevoked keys' rotation := by
  obtain ⟨row, hrow, hrevoked⟩ := h
  obtain ⟨row', hrow', hpersists⟩ := hkept _ _ _ hrow
  exact ⟨row', hrow', hpersists.revoked hrevoked⟩

theorem OldKeyRevoked.of_intent {keys : SigningKeyTable} {other : GatewayKeyRotation}
    (h : OldKeyRevoked keys rotation) (hintent : other.intent = rotation.intent) :
    OldKeyRevoked keys other := by
  rwa [OldKeyRevoked, rotationScope, hintent]

/-- The invariant goes on where what is stored is kept and nothing new is completed. -/
theorem CompletionInv.kept (h : CompletionInv digest state)
    (hkept : CompletionKept state after) (hsound : RotationsSound after.rotations)
    (hrequested : ∀ grant answer, (grant, answer) ∈ after.revocations →
      (grant, answer) ∈ state.revocations ∨ IsStored digest after.rotations grant)
    (hcompleted : ∀ (rotationId : String) (rotation : GatewayKeyRotation),
      after.rotations.rotations[rotationId]? = some rotation →
      rotation.status = .completed →
      state.rotations.rotations[rotationId]? = some rotation ∨
        RevocationConfirmed state rotationId ∧ OldKeyRevoked state.keys rotation) :
    CompletionInv digest after where
  sound := hsound
  requested grant answer hmem := by
    rcases hrequested grant answer hmem with hmem | hstored
    · exact (h.requested grant answer hmem).kept hkept.rotations
    · exact hstored
  completed rotationId rotation hrotation hstatus := by
    have hbefore : RevocationConfirmed state rotationId ∧
        OldKeyRevoked state.keys rotation := by
      rcases hcompleted rotationId rotation hrotation hstatus with hbefore | hbefore
      · exact h.completed rotationId rotation hbefore hstatus
      · exact hbefore
    exact ⟨hbefore.1.kept hkept, hbefore.2.kept hkept.keys⟩

theorem CompletionMove.inv (h : CompletionMove digest state after)
    (hinv : CompletionInv digest state) (hsound : RotationsSound after.rotations) :
    CompletionInv digest after := by
  refine hinv.kept h.kept hsound ?_ ?_
  · cases h with
    | requests grant answer hstored =>
        intro grant' answer' hmem
        rcases List.mem_append.mp hmem with hmem | hmem
        · exact .inl hmem
        · cases List.mem_singleton.mp hmem
          exact .inr hstored
    | _ => exact fun _ _ hmem => .inl hmem
  · cases h with
    | rotations rotations hkept hnone =>
        exact fun _ _ hrotation hstatus => .inl (hnone _ _ hrotation hstatus)
    | completes rotations rotationId hkept hothers hconfirmed hrevoked =>
        intro otherId rotation hrotation hstatus
        by_cases heq : otherId = rotationId
        · subst heq
          exact .inr ⟨hconfirmed, hrevoked rotation hrotation⟩
        · exact .inl (hothers otherId rotation heq hrotation hstatus)
    | _ => exact fun _ _ hrotation _ => .inl hrotation

/-- What the executions owe each other, where each step is in `Guarantee`. -/
def completionProtocol (digest : PyValue → String)
    (Guarantee : CompletionState → CompletionState → Prop)
    (hrefl : ∀ state, Guarantee state state)
    (hmove : ∀ state after, Guarantee state after → CompletionMove digest state after) :
    Protocol CompletionState where
  Inv := CompletionInv digest
  Rely := CompletionKept
  Guarantee := Guarantee
  rely_refl := .refl
  rely_trans _ _ _ := .trans
  guarantee_refl := hrefl
  guarantee_rely state after _ h := (hmove state after h).kept

/-- Every step is one that the program may take. -/
def completing (digest : PyValue → String) : Protocol CompletionState :=
  completionProtocol digest (CompletionMove digest) (fun _ => .same) fun _ _ => id

/-- And completes no rotation. -/
def uncompleting (digest : PyValue → String) : Protocol CompletionState :=
  completionProtocol digest
    (fun state after => CompletionMove digest state after ∧
      CompletesNone state.rotations after.rotations)
    (fun _ => ⟨.same, fun _ _ h _ => h⟩) fun _ _ => And.left

/-- No step writes, or calls the provider. -/
def silent (digest : PyValue → String) : Protocol CompletionState :=
  completionProtocol digest Eq (fun _ => rfl) fun _ _ h => h ▸ .same

theorem keeps_of_uncompleting {α : Type} {p : CompletionStep α}
    {post : α → CompletionState → Prop} (h : p.Keeps (uncompleting digest) post state) :
    p.Keeps (completing digest) post state :=
  keeps_weaken (P := uncompleting digest) rfl rfl (fun _ _ => And.left) h

/-! ## What single steps do -/

/-- A program has read the rotation of this identity, and what it saw is kept. -/
def Known (rotationId : String) (rotation : GatewayKeyRotation)
    (state : CompletionState) : Prop :=
  rotation.rotationId = rotationId ∧
    ∃ current, state.rotations.rotations[rotationId]? = some current ∧
      EvidenceKept rotation.toGatewayKeyRotationColumns
        current.toGatewayKeyRotationColumns

theorem Known.kept {rotationId : String} (h : Known rotationId rotation state)
    (hkept : CompletionKept state after) : Known rotationId rotation after := by
  obtain ⟨hid, current, hcurrent, hevidence⟩ := h
  obtain ⟨current', hcurrent', hevidence', -⟩ := hkept.rotations _ _ hcurrent
  exact ⟨hid, current', hcurrent', hevidence.trans hevidence'⟩

theorem known_of_stored {rotationId : String} (hsound : RotationsSound state.rotations)
    (h : state.rotations.rotations[rotationId]? = some rotation) :
    Known rotationId rotation state :=
  ⟨hsound.keyed _ _ h, rotation, h, .refl _⟩

section Steps

variable {P : Protocol CompletionState}

/-- A condition that is checked holds from then on. -/
theorem keeps_require {condition : Prop} [Decidable condition] {error : ServiceError} :
    (Program.ofExcept (requireThat (decide condition) error) :
      Program CompletionState CompletionInput ServiceError Unit).Keeps P
        (fun _ _ => condition) state :=
  keeps_ofExcept fun _ hsame => of_decide_eq_true (requireThat_eq_ok.mp hsame)

theorem completionTime_keeps {post : String → CompletionState → Prop}
    (h : ∀ text t, P.Rely state t → post text t) : completionTime.Keeps P post state :=
  keeps_read fun t hrely _ _ text _ => h text t hrely

theorem rotationOf_keeps {rotationId : String} :
    (rotationOf rotationId).Keeps P
      (fun rotation t => P.Inv t ∧
        t.rotations.rotations[rotationId]? = some rotation) state :=
  keeps_read fun _ _ hinv _ _ hview => ⟨hinv, found_eq_ok.mp hview⟩

theorem oldKeyOf_keeps : (oldKeyOf hash rotation).Keeps P
    (fun key t => ∃ row,
      select t.keys (rotationScope rotation) rotation.intent.oldKeyId = some row ∧
      key.status = row.status) state :=
  keeps_read fun _ _ _ _ _ hview => get_eq_ok hview

theorem validateRetirementTruth_keeps {post : Unit → CompletionState → Prop}
    (h : ∀ t, P.Rely state t → post () t) :
    (validateRetirementTruth hash rotation).Keeps P post state := by
  refine keeps_then (keeps_ofExcept fun _ _ => trivial) fun _ t₁ h₁ => ?_
  refine keeps_then (keeps_read fun _ _ _ _ _ _ => trivial) fun _ t₂ h₂ => ?_
  exact keeps_ofExcept fun _ _ => h t₂ (P.rely_trans _ _ _ h₁ h₂)

theorem grantFor_revocationGrant (rotation : GatewayKeyRotation) (actorId : String)
    (custody : RevocationCustody) :
    GrantFor digest rotation.intent (revocationGrant digest rotation actorId custody) :=
  ⟨rfl, rfl, rfl, rfl⟩

theorem preparedInstant_keeps {preparedAt : Option String} :
    (preparedInstant preparedAt).Keeps P (fun _ _ => True) state := by
  unfold preparedInstant
  split
  · exact keeps_pure trivial
  · exact completionTime_keeps fun _ _ _ => trivial

/-- A derivation writes nothing, and what it derives is made out for the rotation. -/
theorem deriveRevocation_keeps {actorId : String} {preparedAt : Option String} :
    (deriveRevocation hash digest rotation actorId preparedAt).Keeps P
      (fun derived _ =>
        derived.1 = revocationCheckpoint derived.2 derived.1.preparedAt ∧
        GrantFor digest rotation.intent derived.2) state := by
  refine keeps_then (validateRetirementTruth_keeps fun _ _ => trivial)
    fun _ _ _ => ?_
  refine keeps_then (keeps_read fun _ _ _ _ _ _ => trivial) fun custody _ _ => ?_
  refine keeps_then (keeps_ofExcept fun _ _ => trivial) fun _ _ _ => ?_
  refine keeps_then preparedInstant_keeps fun prepared _ _ => ?_
  refine keeps_then (keeps_ofExcept fun _ _ => trivial) fun _ _ _ => ?_
  exact keeps_pure ⟨rfl, grantFor_revocationGrant rotation actorId custody⟩

end Steps

/-- Only a step to the last status completes a rotation, and only its own. -/
theorem completed_of_effect {stores after : RotationStores} {call : RotationCall}
    (h : RotationEffect digest stores call after) (hsound : RotationsSound stores)
    {rotationId : String}
    (hforeign : ∀ command, call.command.step = some command →
      command.targetStatus = .completed →
      command.rotationId ≠ rotationId)
    (hrotation : after.rotations[rotationId]? = some rotation)
    (hstatus : rotation.status = .completed) :
    stores.rotations[rotationId]? = some rotation := by
  cases h with
  | unchanged => exact hrotation
  | opened opened hfresh hcolumns =>
      rcases getElem?_insert_eq_some hrotation with ⟨rfl, rfl⟩ | ⟨-, hrotation⟩
      · rw [hcolumns] at hstatus
        cases hstatus
      · exact hrotation
  | moved command current next hcommand hcurrent hfresh hmove =>
      rcases getElem?_insert_eq_some hrotation with ⟨rfl, rfl⟩ | ⟨-, hrotation⟩
      · have htarget := (transition_moved (hsound.staged _ _ hcurrent) hmove).status
        exact absurd rfl (hforeign command hcommand (htarget.symm.trans hstatus))
      · exact hrotation

/-- A step of the program that is not the last. -/
theorem advanceStep_keeps {advance : AdvanceGatewayKeyRotation}
    (htarget : advance.targetStatus ≠ .completed) :
    (advanceStep digest advance).Keeps (uncompleting digest)
    (Known advance.rotationId) state := by
  refine keeps_write fun t _ hinv input rotation u hact => ?_
  obtain ⟨⟨rotation', rotations⟩, hok, heq⟩ := Library.Outcome.map_eq_ok.mp hact
  cases heq
  have heffect := rotate_effect hinv.sound hok
  have hnone : CompletesNone t.rotations rotations := fun _ _ hrotation hstatus =>
    completed_of_effect heffect hinv.sound (fun command hcommand hcompleted => by
      cases hcommand
      exact absurd hcompleted htarget) hrotation hstatus
  have hmove : CompletionMove digest t { t with rotations := rotations } :=
    .rotations rotations (heffect.kept hinv.sound) hnone
  have hsound := heffect.sound hinv.sound
  exact ⟨⟨hmove, hnone⟩, hmove.inv hinv hsound,
    ⟨hsound.keyed _ _ (rotate_answer hinv.sound rfl hok), _,
      rotate_answer hinv.sound rfl hok, .refl _⟩⟩

/-- The last step of the program, over a confirmed revocation and a revoked key. -/
theorem completeStep_keeps {advance : AdvanceGatewayKeyRotation}
    (hconfirmed : RevocationConfirmed state advance.rotationId)
    (hrotation : state.rotations.rotations[advance.rotationId]? = some rotation)
    (hrevoked : OldKeyRevoked state.keys rotation) :
    (advanceStep digest advance).Keeps (completing digest) (fun _ _ => True) state := by
  refine keeps_write fun t hrely hinv input answer u hact => ?_
  obtain ⟨⟨answer', rotations⟩, hok, heq⟩ := Library.Outcome.map_eq_ok.mp hact
  cases heq
  have heffect := rotate_effect hinv.sound hok
  have hkept := heffect.kept hinv.sound
  have hmove : CompletionMove digest t { t with rotations := rotations } := by
    refine .completes rotations advance.rotationId hkept ?_ (hconfirmed.kept hrely) ?_
    · intro otherId other hne hother hstatus
      refine completed_of_effect heffect hinv.sound
        (fun command hcommand _ => ?_) hother hstatus
      cases hcommand
      exact Ne.symm hne
    · intro last hlast
      obtain ⟨current, hcurrent, hevidence, -⟩ := hrely.rotations _ _ hrotation
      obtain ⟨next, hnext, hevidence', -⟩ := hkept _ _ hcurrent
      cases hnext.symm.trans hlast
      exact (hrevoked.kept hrely.keys).of_intent
        (hevidence'.intent.trans hevidence.intent)
  exact ⟨hmove, hmove.inv hinv (heffect.sound hinv.sound), trivial⟩

/-- A key command of the program. -/
theorem keyStep_keeps {key : SigningKeyCommand} :
    (keyStep hash key).Keeps (uncompleting digest)
      (fun _ t => ∃ row, select t.keys key.scope key.keyId = some row ∧
        key.CarriedOut row) state := by
  refine keeps_write fun t _ hinv input answer u hact => ?_
  obtain ⟨⟨answer', keys⟩, hok, heq⟩ := Library.Outcome.map_eq_ok.mp hact
  cases heq
  have heffect := perform_effect hok
  have hmove : CompletionMove digest t { t with keys := keys } :=
    .keys keys heffect.follows
  exact ⟨⟨hmove, fun _ _ h _ => h⟩, hmove.inv hinv hinv.sound, heffect.carriedOut⟩

/-! ## What the parts of the program do -/

theorem retirePublicKey_keeps :
    (retirePublicKey hash command rotation).Keeps (uncompleting digest)
    (fun _ _ => True) state := by
  refine keeps_seq oldKeyOf_keeps fun oldKey _ _ _ => ?_
  split
  · refine keeps_then (completionTime_keeps fun _ _ _ => trivial) fun _ _ _ => ?_
    exact keeps_seq keyStep_keeps fun _ _ _ _ => keeps_pure trivial
  · exact keeps_ofExcept fun _ _ => trivial

theorem retireOldKey_keeps :
    (retireOldKey hash digest command rotation).Keeps (uncompleting digest)
      (Known rotation.rotationId) state := by
  refine keeps_then (keeps_ofExcept fun _ _ => trivial) fun _ _ _ => ?_
  refine keeps_seq deriveRevocation_keeps fun _ _ _ _ => ?_
  refine keeps_then retirePublicKey_keeps fun _ _ _ => ?_
  refine keeps_then (completionTime_keeps fun _ _ _ => trivial) fun _ _ _ => ?_
  refine keeps_seq oldKeyOf_keeps fun _ _ _ _ => ?_
  exact advanceStep_keeps nofun

theorem prepareRevocation_keeps :
    (prepareRevocation hash digest command rotation).Keeps (uncompleting digest)
      (Known rotation.rotationId) state := by
  refine keeps_then (keeps_ofExcept fun _ _ => trivial) fun _ _ _ => ?_
  refine keeps_seq deriveRevocation_keeps fun _ _ _ _ => ?_
  exact advanceStep_keeps nofun

theorem whenStatus_keeps {P : Protocol CompletionState}
    {status : GatewayKeyRotationStatus} {part : CompletionStep GatewayKeyRotation}
    {rotationId : String} (hrotation : Known rotationId rotation state)
    (hpart : part.Keeps P (Known rotationId) state) :
    (whenStatus status rotation part).Keeps P (Known rotationId) state := by
  unfold whenStatus
  split
  · exact hpart
  · exact keeps_pure hrotation

/-- What a prepared action asks for is stored. -/
theorem prepareCompletion_keeps {rotationId : String}
    (hrotation : Known rotationId rotation state) :
    (prepareCompletion hash digest command rotation).Keeps (uncompleting digest)
      (fun action t => action.grant.operationId = rotationId ∧
        IsStored digest t.rotations action.grant) state := by
  obtain rfl := hrotation.1
  refine keeps_seq (whenStatus_keeps hrotation retireOldKey_keeps)
    fun retired t₁ _ hretired => ?_
  have hprepare : (prepareRevocation hash digest command retired).Keeps (uncompleting
    digest) (Known rotation.rotationId) t₁ := hretired.1 ▸ prepareRevocation_keeps
  refine keeps_seq (whenStatus_keeps hretired hprepare) fun prepared t₂ _ hprepared =>
    ?_
  refine keeps_then (keeps_ofExcept fun _ _ => trivial) fun _ t₃ h₃ => ?_
  refine keeps_then (keeps_ofExcept fun _ _ => trivial) fun _ t₄ h₄ => ?_
  refine keeps_seq deriveRevocation_keeps fun derived t₅ h₅ hderived => ?_
  refine keeps_seq keeps_require fun _ t₆ h₆ hsame => ?_
  refine keeps_ofExcept fun action haction => ?_
  simp only [revocationAction, bind_ok] at haction
  obtain ⟨-, -, -, -, -, -, haction⟩ := haction
  cases haction
  obtain ⟨hid, current, hcurrent, hevidence⟩ :=
    (((hprepared.kept h₃).kept h₄).kept h₅).kept h₆
  have hgrant : GrantFor digest current.intent derived.2 :=
    hevidence.intent ▸ hderived.2
  have hoperation : derived.2.operationId = rotation.rotationId :=
    hderived.2.operation.trans hid
  exact ⟨hoperation, current, derived.1, hoperation ▸ hcurrent,
    hevidence.revocation _ hsame, hderived.1, hgrant⟩

theorem matchAction_keeps {P : Protocol CompletionState}
    {action : GatewayKeyRotationRevocationAction} :
    (matchAction hash rotation action).Keeps P (fun _ _ => True) state :=
  keeps_then (keeps_ofExcept fun _ _ => trivial) fun _ _ _ =>
    validateRetirementTruth_keeps fun _ _ => trivial

theorem blockCompletion_keeps {action : GatewayKeyRotationRevocationAction}
    {failureCode : String} :
    (blockCompletion hash digest command action failureCode).Keeps (uncompleting digest)
      (fun _ _ => True) state := by
  refine keeps_then (keeps_ofExcept fun _ _ => trivial) fun _ _ _ => ?_
  refine keeps_seq rotationOf_keeps fun rotation _ _ _ => ?_
  refine keeps_then matchAction_keeps fun _ _ _ => ?_
  refine keeps_then (completionTime_keeps fun _ _ _ => trivial) fun _ _ _ => ?_
  refine keeps_seq (advanceStep_keeps nofun) fun _ _ _ _ => ?_
  exact keeps_ofExcept fun _ _ => trivial

theorem revokeOldKey_keeps :
    (revokeOldKey hash command rotation).Keeps (uncompleting digest)
      (fun _ t => OldKeyRevoked t.keys rotation) state := by
  refine keeps_seq oldKeyOf_keeps fun oldKey t₁ _ holdKey => ?_
  obtain ⟨row, hrow, hstatus⟩ := holdKey
  split
  · refine keeps_then (completionTime_keeps fun _ _ _ => trivial) fun _ _ _ => ?_
    exact keeps_seq keyStep_keeps fun _ _ _ hrevoked => keeps_pure hrevoked
  · refine keeps_ofExcept fun _ hrevoked => ?_
    exact ⟨row, hrow, hstatus.symm.trans
      (of_decide_eq_true (requireThat_eq_ok.mp hrevoked))⟩

theorem foldSuccess_keeps {action : GatewayKeyRotationRevocationAction}
    (hconfirmed : RevocationConfirmed state command.rotationId) :
    (foldSuccess hash digest command action).Keeps (completing digest)
    (fun _ _ => True) state := by
  refine keeps_seq rotationOf_keeps fun rotation t₁ h₁ hrotation => ?_
  refine keeps_then matchAction_keeps fun _ t₂ h₂ => ?_
  refine keeps_seq (keeps_of_uncompleting revokeOldKey_keeps) fun _ t₃ h₃ hrevoked => ?_
  refine keeps_seq rotationOf_keeps fun current t₄ h₄ hcurrent => ?_
  refine keeps_then (completionTime_keeps fun _ _ _ => trivial) fun _ t₅ h₅ => ?_
  refine keeps_then (completionTime_keeps fun _ _ _ => trivial) fun _ t₆ h₆ => ?_
  have hid : current.rotationId = command.rotationId :=
    hcurrent.1.sound.keyed _ _ hcurrent.2
  have hlater : CompletionKept t₄ t₆ := CompletionKept.trans h₅ h₆
  obtain ⟨found, hfound, hevidence, -⟩ :=
    (CompletionKept.trans (CompletionKept.trans h₂ h₃) h₄).rotations _ _ hrotation.2
  cases hfound.symm.trans hcurrent.2
  obtain ⟨last, hlast, hevidence', -⟩ := hlater.rotations _ _ hcurrent.2
  have hlastRevoked : OldKeyRevoked t₆.keys last :=
    (hrevoked.kept (CompletionKept.trans h₄ hlater).keys).of_intent
      (hevidence'.intent.trans hevidence.intent)
  have hsince : CompletionKept state t₆ :=
    .trans h₁ (.trans h₂ (.trans h₃ (.trans h₄ hlater)))
  refine completeStep_keeps ?_ ?_ hlastRevoked
  · show RevocationConfirmed t₆ current.rotationId
    rw [hid]
    exact hconfirmed.kept hsince
  · show t₆.rotations.rotations[current.rotationId]? = some last
    rw [hid]
    exact hlast

/-- An answer that confirms nothing completes nothing. -/
theorem foldAnswer_uncompleting {action : GatewayKeyRotationRevocationAction}
    {answer : RevocationAnswer} (hanswer : ¬ IsConfirmed action.grant answer) :
    (foldAnswer hash digest command action answer).Keeps (uncompleting digest)
    (fun _ _ => True)
      state := by
  cases answer with
  | raised => trivial
  | malformed => exact blockCompletion_keeps
  | definiteFailure failureCode =>
      exact keeps_seq rotationOf_keeps fun _ _ _ _ => keeps_ofExcept fun _ _ => trivial
  | uncertain failureCode => exact blockCompletion_keeps
  | revoked receipt =>
      rw [foldAnswer, if_neg fun hmatches => hanswer ⟨receipt, rfl, hmatches⟩]
      exact blockCompletion_keeps

theorem foldAnswer_keeps {action : GatewayKeyRotationRevocationAction}
    {answer : RevocationAnswer}
    (hoperation : action.grant.operationId = command.rotationId)
    (hmem : (action.grant, answer) ∈ state.revocations) :
    (foldAnswer hash digest command action answer).Keeps (completing digest)
    (fun _ _ => True) state := by
  by_cases hanswer : IsConfirmed action.grant answer
  · obtain ⟨receipt, rfl, hmatches⟩ := hanswer
    rw [foldAnswer, if_pos hmatches]
    refine keeps_then (foldSuccess_keeps
      ⟨action.grant, _, hmem, hoperation, receipt, rfl, hmatches⟩) fun _ _ _ => ?_
    exact keeps_ofExcept fun _ _ => trivial
  · exact keeps_of_uncompleting (foldAnswer_uncompleting hanswer)

/-- A provider is only asked for what is stored. -/
theorem revokeVersion_keeps {grant : SecretVersionRevocationGrant}
    (hstored : IsStored digest state.rotations grant) :
    (revokeVersion grant).Keeps (completing digest)
      (fun answer t => (grant, answer) ∈ t.revocations) state := by
  refine keeps_write fun t hrely hinv input answer u hact => ?_
  cases hact
  have hmove : CompletionMove digest t
      { t with revocations := t.revocations ++ [(grant, input.answer)] } :=
    .requests grant input.answer (hstored.kept hrely.rotations)
  exact ⟨hmove, hmove.inv hinv hinv.sound,
    List.mem_append_right _ (List.mem_singleton_self _)⟩

/-- **The program keeps to its protocol.** -/
theorem progressCompletion_keeps (command : CompleteGatewayKeyRotation)
    (state : CompletionState) :
    (progressCompletion hash digest command).Keeps (completing digest)
    (fun _ _ => True) state := by
  refine keeps_then (keeps_ofExcept fun _ _ => trivial) fun _ _ _ => ?_
  refine keeps_then (keeps_ofExcept fun _ _ => trivial) fun _ _ _ => ?_
  refine keeps_seq rotationOf_keeps fun rotation t₁ h₁ hrotation => ?_
  split
  · refine keeps_then (keeps_ofExcept fun _ _ => trivial) fun _ _ _ => ?_
    refine keeps_then (keeps_ofExcept fun _ _ => trivial) fun _ _ _ => ?_
    exact keeps_ofExcept fun _ _ => trivial
  · split
    · exact keeps_ofExcept fun _ _ => trivial
    · refine keeps_seq (keeps_of_uncompleting (prepareCompletion_keeps
        (known_of_stored hrotation.1.sound hrotation.2))) fun action t₂ _ haction => ?_
      refine keeps_seq (revokeVersion_keeps haction.2) fun answer t₃ _ hmem => ?_
      exact foldAnswer_keeps haction.1 hmem

/-- An execution that finds its rotation at an end only reads. -/
theorem progressCompletion_silent {command : CompleteGatewayKeyRotation}
    {state : CompletionState}
    (hrotation : state.rotations.rotations[command.rotationId]? = some rotation)
    (hended : rotation.status = .completed ∨ rotation.status = .blocked) :
    (progressCompletion hash digest command).Keeps (silent digest)
    (fun _ _ => True) state := by
  refine keeps_then (keeps_ofExcept fun _ _ => trivial) fun _ t₁ h₁ => ?_
  refine keeps_then (keeps_ofExcept fun _ _ => trivial) fun _ t₂ h₂ => ?_
  refine keeps_bind (keeps_read fun t₃ h₃ _ _ stored hview => ?_)
  have hterminal : rotation.status.isTerminal = true := by
    rcases hended with h | h <;> rw [h] <;> rfl
  have hsince : CompletionKept state t₃ := .trans h₁ (.trans h₂ h₃)
  obtain ⟨same, hsame, -, hfinal⟩ := hsince.rotations _ _ hrotation
  cases (found_eq_ok.mp hview).symm.trans hsame
  cases hfinal hterminal
  split
  · refine keeps_then (keeps_ofExcept fun _ _ => trivial) fun _ _ _ => ?_
    refine keeps_then (keeps_ofExcept fun _ _ => trivial) fun _ _ _ => ?_
    exact keeps_ofExcept fun _ _ => trivial
  · rename_i hne
    rw [if_pos (hended.resolve_left hne)]
    exact keeps_ofExcept fun _ _ => trivial

/-! ## Every run -/

/-- What others write meanwhile: the key service anything, the rotation service anything
but the last step, which is this program's. -/
inductive OtherWrite where
  | keys (call : SigningKeyCall)
  | rotations (call : RotationCall)
      (hforeign : ∀ command, call.command.step = some command →
        command.targetStatus ≠ .completed)

def OtherWrite.apply (hash : String → String) (digest : PyValue → String) :
    OtherWrite → CompletionState → CompletionState
  | .keys call, state => { state with keys := settle (perform hash) state.keys call }
  | .rotations call _, state =>
      { state with rotations := settle (rotate digest) state.rotations call }

abbrev CompletionTurn : Type :=
  Turn CompleteGatewayKeyRotation OtherWrite CompletionInput

/-- The executions of the program, and its tables, after any turns. -/
def completionsAfter (hash : String → String) (digest : PyValue → String)
    (turns : List CompletionTurn) :
    Pool CompletionState CompletionInput ServiceError
      GatewayKeyRotationCompletionResult :=
  Pool.run (progressCompletion hash digest) (OtherWrite.apply hash digest)
    ⟨{}, []⟩ turns

theorem otherWrite_keeps (write : OtherWrite) (state : CompletionState)
    (hinv : CompletionInv digest state) :
    CompletionInv digest (write.apply hash digest state) ∧
      CompletionKept state (write.apply hash digest state) := by
  have hsame : CompletionInv digest state ∧ CompletionKept state state :=
    ⟨hinv, .refl _⟩
  cases write with
  | keys call =>
      rw [OtherWrite.apply]
      rcases settle_cases (perform hash) state.keys call with h | ⟨key, h⟩
      · rw [h]
        exact hsame
      · have hmove : CompletionMove digest state
            { state with keys := settle (perform hash) state.keys call } :=
          .keys _ (perform_effect h).follows
        exact ⟨hmove.inv hinv hinv.sound, hmove.kept⟩
  | rotations call hforeign =>
      rw [OtherWrite.apply]
      rcases settle_cases (rotate digest) state.rotations call with h | ⟨rotation, h⟩
      · rw [h]
        exact hsame
      · have heffect := rotate_effect hinv.sound h
        have hmove : CompletionMove digest state
            { state with rotations := settle (rotate digest) state.rotations call } :=
          .rotations _ (heffect.kept hinv.sound) fun _ _ hrotation hstatus =>
            completed_of_effect heffect hinv.sound
              (fun command hcommand hcompleted =>
                absurd hcompleted (hforeign command hcommand))
              hrotation hstatus
        exact ⟨hmove.inv hinv (heffect.sound hinv.sound), hmove.kept⟩

theorem completionInv_empty : CompletionInv digest {} :=
  ⟨rotationsSound_empty, by simp, by simp⟩

theorem orderly_completionsAfter (hash : String → String) (digest : PyValue → String)
    (turns : List CompletionTurn) :
    (completionsAfter hash digest turns).Orderly (completing digest) :=
  Pool.Orderly.run (progressCompletion hash digest) (OtherWrite.apply hash digest)
    ⟨completionInv_empty, by simp⟩ (fun command state _ =>
      progressCompletion_keeps command state)
    otherWrite_keeps turns

theorem completionsAfter_append (turns later : List CompletionTurn) :
    completionsAfter hash digest (turns ++ later) =
      (completionsAfter hash digest turns).run (progressCompletion hash digest)
        (OtherWrite.apply hash digest) later :=
  List.foldl_append

theorem grant_ext {grant grant' : SecretVersionRevocationGrant}
    (hsemantics : revocationActionSemantics grant = revocationActionSemantics grant')
    (hrevocation : grant.revocationId = grant'.revocationId)
    (hfingerprint : grant.revocationFingerprint = grant'.revocationFingerprint) :
    grant = grant' := by
  obtain ⟨_, _, _, _, ⟨_, _⟩, ⟨_, _⟩, _, _, _, _, _, _⟩ := grant
  obtain ⟨_, _, _, _, ⟨_, _⟩, ⟨_, _⟩, _, _, _, _, _, _⟩ := grant'
  simp only [revocationActionSemantics, PyValue.dict.injEq, List.cons.injEq,
    Prod.mk.injEq, true_and, PyValue.str.injEq, PyValue.int.injEq, Int.natCast_inj,
    and_true] at hsemantics
  obtain ⟨rfl, rfl, rfl, rfl, rfl, rfl, rfl, rfl, rfl, rfl⟩ := hsemantics
  cases hrevocation
  cases hfingerprint
  rfl

/-- Two grants of one rotation's stored revocation are one grant, or their documents
collide under the digest. -/
theorem grant_unique {rotations : RotationStores}
    {grant grant' : SecretVersionRevocationGrant} (h : IsStored digest rotations grant)
    (h' : IsStored digest rotations grant')
    (hoperation : grant.operationId = grant'.operationId) : grant = grant' ∨
      revocationActionSemantics grant ≠ revocationActionSemantics grant' ∧
        digest (revocationActionSemantics grant) =
          digest (revocationActionSemantics grant') := by
  obtain ⟨rotation, checkpoint, hrotation, hrevocation, hcheckpoint, hgrant⟩ := h
  obtain ⟨rotation', checkpoint', hrotation', hrevocation', hcheckpoint', hgrant'⟩ := h'
  rw [hoperation] at hrotation
  cases hrotation.symm.trans hrotation'
  cases hrevocation.symm.trans hrevocation'
  have hsame := hcheckpoint.symm.trans hcheckpoint'
  simp only [revocationCheckpoint,
    GatewayKeyRotationRevocationCheckpoint.mk.injEq] at hsame
  have hfingerprint : grant.revocationFingerprint = grant'.revocationFingerprint :=
    hsame.2.2.2.2.2.2.1
  by_cases hsemantics : revocationActionSemantics grant =
    revocationActionSemantics grant'
  · refine .inl ?_
    have hrevocationId : grant.revocationId = grant'.revocationId := by
      rw [hgrant.revocation, hgrant'.revocation, hfingerprint]
    exact grant_ext hsemantics hrevocationId hfingerprint
  · exact .inr ⟨hsemantics,
      by rw [← hgrant.fingerprint, ← hgrant'.fingerprint, hfingerprint]⟩

/-- **A completion is crash-safe**: what holds after any turns, and of the next step of
any execution. -/
structure CompletionSafety (hash : String → String) (digest : PyValue → String)
    (turns later : List CompletionTurn) (index : Nat)
    (input : CompletionInput) : Prop where
  /-- The provider is asked for what is stored, and the last step is over a confirmed
  revocation and a revoked key. -/
  moves : CompletionMove digest (completionsAfter hash digest turns).shared
    (completionsAfter hash digest (turns ++ [.step index input])).shared
  /-- A stored checkpoint, a revoked key and the provider's answers stay. -/
  kept : CompletionKept (completionsAfter hash digest turns).shared
    (completionsAfter hash digest (turns ++ later)).shared
  requested : ∀ grant answer,
    (grant, answer) ∈ (completionsAfter hash digest turns).shared.revocations →
    IsStored digest (completionsAfter hash digest turns).shared.rotations grant
  identical : ∀ grant answer grant' answer',
    (grant, answer) ∈ (completionsAfter hash digest turns).shared.revocations →
    (grant', answer') ∈ (completionsAfter hash digest turns).shared.revocations →
    grant.operationId = grant'.operationId →
    grant = grant' ∨ revocationActionSemantics grant ≠
      revocationActionSemantics grant' ∧
      digest (revocationActionSemantics grant) =
        digest (revocationActionSemantics grant')
  completed : ∀ (rotationId : String) (rotation : GatewayKeyRotation),
    (completionsAfter hash digest turns).shared.rotations.rotations[rotationId]? =
      some rotation →
    rotation.status = .completed →
    RevocationConfirmed (completionsAfter hash digest turns).shared rotationId ∧
      OldKeyRevoked (completionsAfter hash digest turns).shared.keys rotation
  /-- After an answer that confirms nothing, an execution completes nothing. -/
  indefinite : ∀ command action answer, ¬ IsConfirmed action.grant answer →
    (foldAnswer hash digest command action answer).Keeps (uncompleting digest)
      (fun _ _ => True) (completionsAfter hash digest turns).shared
  /-- An execution started at the end of its rotation leaves everything as it is,
  whatever the others do meanwhile. -/
  ended : ∀ (command : CompleteGatewayKeyRotation) (rotation : GatewayKeyRotation),
    (completionsAfter hash digest
      turns).shared.rotations.rotations[command.rotationId]? =
      some rotation →
    rotation.status = .completed ∨ rotation.status = .blocked →
    (completionsAfter hash digest (turns ++ .start command :: later ++
        [.step (completionsAfter hash digest turns).running.length input])).shared =
      (completionsAfter hash digest (turns ++ .start command :: later)).shared

theorem completionSafety (hash : String → String) (digest : PyValue → String)
    (turns later : List CompletionTurn) (index : Nat) (input : CompletionInput) :
    CompletionSafety hash digest turns later index input := by
  have horderly := orderly_completionsAfter hash digest turns
  refine ⟨?_, ?_, horderly.inv.requested, ?_, horderly.inv.completed, ?_, ?_⟩
  · rw [completionsAfter_append]
    exact (horderly.proceed index input).2
  · rw [completionsAfter_append]
    exact horderly.rely_run _ _ (fun command state _ => progressCompletion_keeps command
      state) otherWrite_keeps later
  · intro grant answer grant' answer' hmem hmem' hoperation
    exact grant_unique (horderly.inv.requested grant answer hmem)
      (horderly.inv.requested grant' answer' hmem') hoperation
  · intro command action answer hanswer
    exact foldAnswer_uncompleting hanswer
  · intro command rotation hrotation hended
    have hstart := orderly_completionsAfter hash digest (turns ++ [.start command])
    have hfollows : (completionsAfter hash digest (turns ++ [.start command])).Follows
        (silent digest) (completionsAfter hash digest turns).running.length := by
      rw [completionsAfter_append]
      exact ⟨progressCompletion hash digest command, List.getElem?_concat_length,
        progressCompletion_silent hrotation hended⟩
    have hlater := hfollows.run (progressCompletion hash digest)
      (OtherWrite.apply hash digest) hstart rfl rfl (fun command state _ =>
        progressCompletion_keeps command state) otherWrite_keeps later
    have horderly' := orderly_completionsAfter hash digest
      (turns ++ .start command :: later)
    rw [← completionsAfter_append, List.append_assoc, List.singleton_append] at hlater
    rw [completionsAfter_append]
    exact (hlater.proceed horderly'.inv input).2.symm

end ControlPlaneKit.Rotation
