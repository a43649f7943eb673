import ControlPlaneKit.Rotation.Rotations

/-!
# RotationMoves — what one command makes of the rotations

Every accepted step of a rotation adds the evidence of its target and nothing
else.  `Staged` says which evidence a status has, and what evidence a step finds
is what it leaves.  An accepted command changes nothing, opens one rotation, or
moves one.
-/

namespace ControlPlaneKit.Rotation

open ControlPlaneKit.Library (PyValue TextMap)
open ControlPlaneKit.Library.EventFold (bind_ok)
open ControlPlaneKit.Library.KeyedMap (getElem?_insert)
open ControlPlaneKit.Operations
open ControlPlaneKit.Topology

variable {current next : GatewayKeyRotation}
  {command : AdvanceGatewayKeyRotation} {now : Int}

/-! ## One step -/

/-- The columns every step writes. -/
def advancedColumns (current : GatewayKeyRotation)
    (command : AdvanceGatewayKeyRotation) : GatewayKeyRotationColumns :=
  { current.toGatewayKeyRotationColumns with
      status := command.targetStatus
      version := current.version + 1
      updatedBy := some command.advancedBy
      updatedAt := some command.advancedAt }

def IsPrepared (checkpoint : Option GatewayKeyRotationDeploymentCheckpoint) : Prop :=
  ∃ value, checkpoint = some value ∧ value.acceptance = none

def IsAccepted (checkpoint : Option GatewayKeyRotationDeploymentCheckpoint) : Prop :=
  ∃ value, checkpoint = some value ∧ value.acceptance.isSome

/-- The accepted checkpoint is the stored one, accepted. -/
def Accepts (stored given : Option GatewayKeyRotationDeploymentCheckpoint) : Prop :=
  ∃ prepared accepted, stored = some prepared ∧ given = some accepted ∧
    accepted.phase = prepared.phase ∧ accepted.identity = prepared.identity ∧
      accepted.acceptance.isSome

/-- **The evidence a step adds**, by its target. -/
inductive RotationChange (current : GatewayKeyRotation)
    (command : AdvanceGatewayKeyRotation) (now : Int)
    (advanced : GatewayKeyRotationColumns) :
    GatewayKeyRotationStatus → GatewayKeyRotationColumns → Prop where
  | awaitingApproval : RotationChange current command now advanced .awaitingApproval
      { advanced with approvalRequestId := command.approvalRequestId }
  | approved : RotationChange current command now advanced .approved
      { advanced with approvalDecisionId := command.approvalDecisionId }
  | rejected : RotationChange current command now advanced .rejected
      { advanced with
        approvalDecisionId := command.approvalDecisionId, failureCode :=
          command.failureCode }
  | generationPrepared : RotationChange current command now advanced .generationPrepared
      { advanced with
        generationProviderRegistrationId := command.generationProviderRegistrationId
        generationActionDigest := command.generationActionDigest }
  | keyGenerated : RotationChange current command now advanced .keyGenerated
      { advanced with
        newKeyId := command.newKeyId
        newSecretVersionId := command.newSecretVersionId
        newSecretVersionNumber := command.newSecretVersionNumber }
  | overlapDeploying (hprepared : IsPrepared command.deployment) :
      RotationChange current command now advanced .overlapDeploying
        { advanced with overlapDeployment := command.deployment }
  | overlapReady (haccepts : Accepts current.overlapDeployment command.deployment) :
      RotationChange current command now advanced .overlapReady
        { advanced with overlapDeployment := command.deployment }
  | newKeyActive (hactivated : command.newKeyActivatedAt.isSome) :
      RotationChange current command now advanced .newKeyActive
      { advanced with
        newKeyActivatedAt := command.newKeyActivatedAt
        drainDeadlineEpoch :=
          some (now + current.intent.maximumGrantLifetimeSeconds +
            current.intent.clockSkewSeconds) }
  | retirementDeploying (deadline : Int)
      (hdeadline : current.drainDeadlineEpoch = some deadline)
      (hdrained : deadline ≤ now) (hprepared : IsPrepared command.deployment) :
      RotationChange current command now advanced .retirementDeploying
        { advanced with retirementDeployment := command.deployment }
  | retirementReady (haccepts : Accepts current.retirementDeployment
      command.deployment) : RotationChange current command now advanced .retirementReady
        { advanced with retirementDeployment := command.deployment }
  | oldKeyRetired : RotationChange current command now advanced .oldKeyRetired
      { advanced with oldKeyRetiredAt := command.oldKeyRetiredAt }
  | revocationPrepared (hrevocation : command.revocation.isSome) :
      RotationChange current command now advanced .revocationPrepared
        { advanced with revocation := command.revocation }
  | completed (haccepted : IsAccepted current.retirementDeployment)
      (hrevocation : current.revocation.isSome) :
      RotationChange current command now advanced .completed
        { advanced with oldSecretRevokedAt := command.oldSecretRevokedAt }
  | blocked : RotationChange current command now advanced .blocked
      { advanced with failureCode := command.failureCode }
  | requested : RotationChange current command now advanced .requested advanced
  | drainingOldGrants : RotationChange current command now advanced
      .drainingOldGrants advanced

theorem status_eq_prepared {checkpoint : GatewayKeyRotationDeploymentCheckpoint} :
    checkpoint.status = .prepared ↔ checkpoint.acceptance = none := by
  unfold GatewayKeyRotationDeploymentCheckpoint.status
  cases checkpoint.acceptance <;> simp

theorem status_eq_accepted {checkpoint : GatewayKeyRotationDeploymentCheckpoint} :
    checkpoint.status = .accepted ↔ checkpoint.acceptance.isSome := by
  unfold GatewayKeyRotationDeploymentCheckpoint.status
  cases checkpoint.acceptance <;> simp

/-- A required checkpoint is there, with the status asked for. -/
theorem requireCheckpoint_status
    {value : Option GatewayKeyRotationDeploymentCheckpoint}
    {phase : GatewayKeyRotationDeploymentPhase}
    {status : GatewayKeyRotationDeploymentStatus} {u : Unit}
    (h : requireCheckpoint value phase status = .ok u) :
    ∃ checkpoint, value = some checkpoint ∧ checkpoint.status = status := by
  simp only [requireCheckpoint, requireThat_eq_ok, Option.any_eq_true, Bool.and_eq_true,
    decide_eq_true_eq] at h
  obtain ⟨checkpoint, hvalue, -, hstatus⟩ := h
  exact ⟨checkpoint, hvalue, hstatus⟩

theorem requireCheckpoint_prepared
    {value : Option GatewayKeyRotationDeploymentCheckpoint}
    {phase : GatewayKeyRotationDeploymentPhase} {u : Unit}
    (h : requireCheckpoint value phase .prepared = .ok u) : IsPrepared value :=
  (requireCheckpoint_status h).imp fun _ found =>
    ⟨found.1, status_eq_prepared.mp found.2⟩

theorem requireCheckpoint_accepted
    {value : Option GatewayKeyRotationDeploymentCheckpoint}
    {phase : GatewayKeyRotationDeploymentPhase} {u : Unit}
    (h : requireCheckpoint value phase .accepted = .ok u) : IsAccepted value :=
  (requireCheckpoint_status h).imp fun _ found =>
    ⟨found.1, status_eq_accepted.mp found.2⟩

theorem requireSameDeployment_accepts
    {stored value : Option GatewayKeyRotationDeploymentCheckpoint} {message : String}
    {u : Unit} (haccepted : IsAccepted value)
    (h : requireSameDeployment stored value message = .ok u) :
    Accepts stored value := by
  simp only [requireSameDeployment, requireThat_eq_ok, Option.any_eq_true,
    sameDeploymentIdentity, Bool.and_eq_true, decide_eq_true_eq] at h
  obtain ⟨prepared, hstored, given, hvalue, hphase, hidentity⟩ := h
  obtain ⟨value, rfl, hacceptance⟩ := haccepted
  cases hvalue
  exact ⟨prepared, given, hstored, rfl, hphase.symm, hidentity.symm, hacceptance⟩

theorem required_isSome {value : Option String} {name : String} {u : Unit}
    (h : required value name = .ok u) : value.isSome := by
  simp only [required, bind_ok, found_eq_ok] at h
  obtain ⟨text, rfl, -⟩ := h
  rfl

theorem transitionChanges_change {advanced changed : GatewayKeyRotationColumns}
    (h : transitionChanges current command now advanced = .ok changed) :
    RotationChange current command now advanced command.targetStatus changed := by
  unfold transitionChanges at h
  split at h <;> rename_i htarget <;> rw [htarget] <;> try simp only [bind_ok] at h
  · obtain ⟨-, -, h⟩ := h
    cases h
    exact .awaitingApproval
  · obtain ⟨-, -, h⟩ := h
    cases h
    exact .approved
  · obtain ⟨-, -, -, -, h⟩ := h
    cases h
    exact .rejected
  · obtain ⟨-, -, -, -, h⟩ := h
    cases h
    exact .generationPrepared
  · obtain ⟨-, -, -, -, -, -, h⟩ := h
    cases h
    exact .keyGenerated
  · obtain ⟨_, hprepared, h⟩ := h
    cases h
    exact .overlapDeploying (requireCheckpoint_prepared hprepared)
  · obtain ⟨_, haccepted, _, hsame, h⟩ := h
    cases h
    exact .overlapReady
      (requireSameDeployment_accepts (requireCheckpoint_accepted haccepted) hsame)
  · obtain ⟨_, hactivated, h⟩ := h
    cases h
    exact .newKeyActive (required_isSome hactivated)
  · obtain ⟨_, hdrained, _, hprepared, h⟩ := h
    cases h
    simp only [requireThat_eq_ok, Option.any_eq_true, decide_eq_true_eq] at hdrained
    obtain ⟨deadline, hdeadline, hdrained⟩ := hdrained
    exact .retirementDeploying deadline hdeadline hdrained
      (requireCheckpoint_prepared hprepared)
  · obtain ⟨_, haccepted, _, hsame, h⟩ := h
    cases h
    exact .retirementReady
      (requireSameDeployment_accepts (requireCheckpoint_accepted haccepted) hsame)
  · obtain ⟨-, -, h⟩ := h
    cases h
    exact .oldKeyRetired
  · obtain ⟨_, hrevocation, h⟩ := h
    cases h
    exact .revocationPrepared (requireThat_eq_ok.mp hrevocation)
  · obtain ⟨_, haccepted, _, hrevocation, _, -, h⟩ := h
    cases h
    exact .completed (requireCheckpoint_accepted haccepted)
      (requireThat_eq_ok.mp hrevocation)
  · obtain ⟨-, -, h⟩ := h
    cases h
    exact .blocked
  · cases h
    exact .requested
  · cases h
    exact .drainingOldGrants

/-- **What a step does**: a legal edge, and the evidence of its target. -/
theorem transition_change (h : transition current command now = .ok next) :
    command.targetStatus ∈ legalTargets current.status ∧
      RotationChange current command now
        (advancedColumns current command) command.targetStatus
        next.toGatewayKeyRotationColumns := by
  simp only [transition, bind_ok, requireThat_eq_ok, List.contains_iff_mem] at h
  obtain ⟨-, hlegal, changed, hchanged, hnext⟩ := h
  rw [gatewayKeyRotation_columns hnext]
  exact ⟨hlegal, transitionChanges_change hchanged⟩

/-! ## What a status says of the evidence -/

/-- How far along its path a status is; a rotation that ended early has no
evidence to come. -/
def GatewayKeyRotationStatus.rank : GatewayKeyRotationStatus → Nat
  | .requested => 0
  | .awaitingApproval => 1
  | .approved => 2
  | .generationPrepared => 3
  | .keyGenerated => 4
  | .overlapDeploying => 5
  | .overlapReady => 6
  | .newKeyActive => 7
  | .drainingOldGrants => 8
  | .retirementDeploying => 9
  | .retirementReady => 10
  | .oldKeyRetired => 11
  | .revocationPrepared => 12
  | .completed => 13
  | .blocked | .rejected => 14

/-- A legal edge goes one step along the path, or ends it. -/
theorem rank_of_legal {source target : GatewayKeyRotationStatus}
    (h : target ∈ legalTargets source) :
    source.rank ≤ 12 ∧ (target.rank = source.rank + 1 ∨ target.rank = 14) := by
  cases source <;> simp only [legalTargets, List.mem_cons, List.not_mem_nil,
    or_false] at h
  all_goals rcases h with rfl | rfl <;> decide

theorem legalTargets_of_terminal {status : GatewayKeyRotationStatus}
    (h : status.isTerminal = true) : legalTargets status = [] := by
  cases status <;> first | rfl | simp [GatewayKeyRotationStatus.isTerminal] at h

/-- **Which evidence a status has**: none before its step, and a deployment that is
prepared while it is being made and accepted after. -/
structure Staged (rotation : GatewayKeyRotationColumns) : Prop where
  approvalRequest : rotation.status.rank < 1 → rotation.approvalRequestId = none
  approvalDecision : rotation.status.rank < 2 → rotation.approvalDecisionId = none
  generation : rotation.status.rank < 3 →
    rotation.generationProviderRegistrationId = none ∧
    rotation.generationActionDigest = none
  key : rotation.status.rank < 4 → rotation.newKeyId = none ∧
    rotation.newSecretVersionId = none ∧
    rotation.newSecretVersionNumber = none
  overlap : rotation.status.rank < 5 → rotation.overlapDeployment = none
  overlapPrepared : rotation.status.rank = 5 → IsPrepared rotation.overlapDeployment
  overlapAccepted : 6 ≤ rotation.status.rank → rotation.status.rank ≤ 13 →
    IsAccepted rotation.overlapDeployment
  activation : rotation.status.rank < 7 → rotation.newKeyActivatedAt = none ∧
    rotation.drainDeadlineEpoch = none
  retirement : rotation.status.rank < 9 → rotation.retirementDeployment = none
  retirementPrepared : rotation.status.rank = 9 →
    IsPrepared rotation.retirementDeployment
  retirementAccepted : 10 ≤ rotation.status.rank → rotation.status.rank ≤ 13 →
    IsAccepted rotation.retirementDeployment
  keyRetired : rotation.status.rank < 11 → rotation.oldKeyRetiredAt = none
  revocation : rotation.status.rank < 12 → rotation.revocation = none
  secretRevoked : rotation.status.rank < 13 → rotation.oldSecretRevokedAt = none
  failure : rotation.status.rank < 14 → rotation.failureCode = none

theorem staged_requested (intent : GatewayKeyRotationIntent) :
    Staged { intent := intent } := by
  constructor <;> simp [GatewayKeyRotationStatus.rank]

/-- What a checkpoint becomes: itself, or its acceptance. -/
def CheckpointKept (before after : Option GatewayKeyRotationDeploymentCheckpoint) :
    Prop :=
  ∀ checkpoint, before = some checkpoint → ∃ checkpoint', after = some checkpoint' ∧
    checkpoint'.phase = checkpoint.phase ∧ checkpoint'.identity = checkpoint.identity ∧
      (checkpoint.acceptance.isSome → checkpoint' = checkpoint)

/-- An evidence column that is set keeps its value. -/
def Kept {α : Type} (before after : Option α) : Prop :=
  ∀ value, before = some value → after = some value

/-- **What stays of a rotation**: its intent and every piece of evidence. -/
structure EvidenceKept (before after : GatewayKeyRotationColumns) : Prop where
  intent : after.intent = before.intent
  approvalRequest : Kept before.approvalRequestId after.approvalRequestId
  approvalDecision : Kept before.approvalDecisionId after.approvalDecisionId
  generationProvider :
    Kept before.generationProviderRegistrationId after.generationProviderRegistrationId
  generationDigest : Kept before.generationActionDigest after.generationActionDigest
  newKey : Kept before.newKeyId after.newKeyId
  newSecretVersion : Kept before.newSecretVersionId after.newSecretVersionId
  newSecretNumber : Kept before.newSecretVersionNumber after.newSecretVersionNumber
  overlap : CheckpointKept before.overlapDeployment after.overlapDeployment
  activatedAt : Kept before.newKeyActivatedAt after.newKeyActivatedAt
  drainDeadline : Kept before.drainDeadlineEpoch after.drainDeadlineEpoch
  retirement : CheckpointKept before.retirementDeployment after.retirementDeployment
  revocation : Kept before.revocation after.revocation
  retiredAt : Kept before.oldKeyRetiredAt after.oldKeyRetiredAt
  revokedAt : Kept before.oldSecretRevokedAt after.oldSecretRevokedAt
  failure : Kept before.failureCode after.failureCode

theorem Kept.refl {α : Type} (value : Option α) : Kept value value := fun _ h => h

theorem Kept.trans {α : Type} {a b c : Option α} (h : Kept a b)
    (h' : Kept b c) : Kept a c :=
  fun value hvalue => h' value (h value hvalue)

theorem CheckpointKept.refl
    (checkpoint : Option GatewayKeyRotationDeploymentCheckpoint) :
    CheckpointKept checkpoint checkpoint :=
  fun value h => ⟨value, h, rfl, rfl, fun _ => rfl⟩

theorem CheckpointKept.trans {a b c : Option GatewayKeyRotationDeploymentCheckpoint}
    (h : CheckpointKept a b) (h' : CheckpointKept b c) : CheckpointKept a c := by
  intro value hvalue
  obtain ⟨value', hvalue', hphase, hidentity, hsame⟩ := h value hvalue
  obtain ⟨value'', hvalue'', hphase', hidentity', hsame'⟩ := h' value' hvalue'
  refine ⟨value'', hvalue'', hphase'.trans hphase, hidentity'.trans hidentity,
    fun haccepted => ?_⟩
  have heq := hsame haccepted
  rw [heq] at hsame'
  exact hsame' haccepted

theorem EvidenceKept.refl (rotation : GatewayKeyRotationColumns) :
    EvidenceKept rotation rotation := by
  constructor <;> first | rfl | exact .refl _

theorem EvidenceKept.trans {a b c : GatewayKeyRotationColumns} (h : EvidenceKept a b)
    (h' : EvidenceKept b c) : EvidenceKept a c where
  intent := h'.intent.trans h.intent
  approvalRequest := h.approvalRequest.trans h'.approvalRequest
  approvalDecision := h.approvalDecision.trans h'.approvalDecision
  generationProvider := h.generationProvider.trans h'.generationProvider
  generationDigest := h.generationDigest.trans h'.generationDigest
  newKey := h.newKey.trans h'.newKey
  newSecretVersion := h.newSecretVersion.trans h'.newSecretVersion
  newSecretNumber := h.newSecretNumber.trans h'.newSecretNumber
  overlap := h.overlap.trans h'.overlap
  activatedAt := h.activatedAt.trans h'.activatedAt
  drainDeadline := h.drainDeadline.trans h'.drainDeadline
  retirement := h.retirement.trans h'.retirement
  revocation := h.revocation.trans h'.revocation
  retiredAt := h.retiredAt.trans h'.retiredAt
  revokedAt := h.revokedAt.trans h'.revokedAt
  failure := h.failure.trans h'.failure

/-! ## A step fills columns of its own rank -/

/-- A column of stage `k` across a step between two ranks: it is kept, or the step
reaches its stage. -/
def Filled {α : Type} (k rank rank' : Nat) (before after : Option α) : Prop :=
  after = before ∨ rank < k ∧ k ≤ rank'

theorem Filled.unset {α : Type} {k rank rank' : Nat} {before after : Option α}
    (h : Filled k rank rank' before after) (hrank : rank ≤ rank')
    (hunset : rank < k → before = none) (hlt : rank' < k) : after = none := by
  rcases h with rfl | ⟨-, hreached⟩
  · exact hunset (by omega)
  · omega

theorem Filled.kept {α : Type} {k rank rank' : Nat} {before after : Option α}
    (h : Filled k rank rank' before after) (hunset : rank < k → before = none) :
    Kept before after := by
  intro value hvalue
  rcases h with rfl | ⟨hlt, -⟩
  · exact hvalue
  · rw [hunset hlt] at hvalue
    cases hvalue

/-- The columns of every stage across a step. -/
structure FilledColumns (before after : GatewayKeyRotationColumns) : Prop where
  intent : after.intent = before.intent
  approvalRequest : Filled 1 before.status.rank after.status.rank
    before.approvalRequestId after.approvalRequestId
  approvalDecision : Filled 2 before.status.rank after.status.rank
    before.approvalDecisionId after.approvalDecisionId
  generationProvider : Filled 3 before.status.rank after.status.rank
    before.generationProviderRegistrationId after.generationProviderRegistrationId
  generationDigest : Filled 3 before.status.rank after.status.rank
    before.generationActionDigest after.generationActionDigest
  newKey : Filled 4 before.status.rank after.status.rank before.newKeyId after.newKeyId
  newSecretVersion : Filled 4 before.status.rank after.status.rank
    before.newSecretVersionId after.newSecretVersionId
  newSecretNumber : Filled 4 before.status.rank after.status.rank
    before.newSecretVersionNumber after.newSecretVersionNumber
  activatedAt : Filled 7 before.status.rank after.status.rank
    before.newKeyActivatedAt after.newKeyActivatedAt
  drainDeadline : Filled 7 before.status.rank after.status.rank
    before.drainDeadlineEpoch after.drainDeadlineEpoch
  revocation : Filled 12 before.status.rank after.status.rank before.revocation
    after.revocation
  retiredAt : Filled 11 before.status.rank after.status.rank
    before.oldKeyRetiredAt after.oldKeyRetiredAt
  revokedAt : Filled 13 before.status.rank after.status.rank
    before.oldSecretRevokedAt after.oldSecretRevokedAt
  failure : Filled 14 before.status.rank after.status.rank before.failureCode
    after.failureCode

/-- The rank a step starts from, by its target. -/
theorem rank_of_rejected {source : GatewayKeyRotationStatus}
    (h : GatewayKeyRotationStatus.rejected ∈ legalTargets source) :
    source.rank = 1 := by
  cases source <;> simp [legalTargets] at h
  rfl

theorem filledColumns_of_change {target : GatewayKeyRotationStatus}
    {advanced : GatewayKeyRotationColumns} {changed : GatewayKeyRotationColumns}
    (hlegal : target ∈ legalTargets current.status)
    (hadvanced : advanced = { advancedColumns current command with status := target })
    (h : RotationChange current command now advanced target changed) :
    FilledColumns current.toGatewayKeyRotationColumns changed := by
  obtain ⟨hle, hrank⟩ := rank_of_legal hlegal
  generalize hsource : current.status.rank = source at hle hrank
  subst hadvanced
  cases h
  case rejected =>
    have hrejected := rank_of_rejected hlegal
    constructor <;> first
      | rfl
      | exact .inl rfl
      | exact .inr ⟨by omega, Nat.le_of_ble_eq_true rfl⟩
  all_goals
    simp only [GatewayKeyRotationStatus.rank] at hrank
    constructor <;> first
      | rfl
      | exact .inl rfl
      | exact .inr ⟨by omega, Nat.le_of_ble_eq_true rfl⟩

/-- What a step makes of the two checkpoints. -/
structure CheckpointSteps (before after : GatewayKeyRotationColumns) : Prop where
  overlap : after.overlapDeployment = before.overlapDeployment ∧ after.status.rank ≠ 5 ∧
      after.status.rank ≠ 6 ∨
    after.status.rank = 5 ∧ IsPrepared after.overlapDeployment ∨
    after.status.rank = 6 ∧ Accepts before.overlapDeployment after.overlapDeployment
  retirement : after.retirementDeployment = before.retirementDeployment ∧
      after.status.rank ≠ 9 ∧
      after.status.rank ≠ 10 ∨
    after.status.rank = 9 ∧ IsPrepared after.retirementDeployment ∨
    after.status.rank = 10 ∧
    Accepts before.retirementDeployment after.retirementDeployment

theorem checkpointSteps_of_change {target : GatewayKeyRotationStatus}
    {advanced : GatewayKeyRotationColumns} {changed : GatewayKeyRotationColumns}
    (hadvanced : advanced = { advancedColumns current command with status := target })
    (h : RotationChange current command now advanced target changed) :
    CheckpointSteps current.toGatewayKeyRotationColumns changed := by
  subst hadvanced
  cases h
  case overlapDeploying hprepared =>
    exact ⟨.inr (.inl ⟨rfl, hprepared⟩), .inl ⟨rfl, nofun, nofun⟩⟩
  case overlapReady haccepts =>
    exact ⟨.inr (.inr ⟨rfl, haccepts⟩), .inl ⟨rfl, nofun, nofun⟩⟩
  case retirementDeploying hprepared =>
    exact ⟨.inl ⟨rfl, nofun, nofun⟩, .inr (.inl ⟨rfl, hprepared⟩)⟩
  case retirementReady haccepts =>
    exact ⟨.inl ⟨rfl, nofun, nofun⟩, .inr (.inr ⟨rfl, haccepts⟩)⟩
  all_goals exact ⟨.inl ⟨rfl, nofun, nofun⟩, .inl ⟨rfl, nofun, nofun⟩⟩

theorem Accepts.accepted {stored given : Option GatewayKeyRotationDeploymentCheckpoint}
    (h : Accepts stored given) : IsAccepted given := by
  obtain ⟨-, accepted, -, hgiven, -, -, hacceptance⟩ := h
  exact ⟨accepted, hgiven, hacceptance⟩

/-- The prepared checkpoint is kept by its acceptance. -/
theorem Accepts.kept {stored given : Option GatewayKeyRotationDeploymentCheckpoint}
    (h : Accepts stored given) (hstored : IsPrepared stored) :
    CheckpointKept stored given := by
  obtain ⟨prepared, accepted, hprepared, hgiven, hphase, hidentity, -⟩ := h
  obtain ⟨value, hvalue, hunaccepted⟩ := hstored
  intro checkpoint hcheckpoint
  cases hprepared.symm.trans hcheckpoint
  cases hvalue.symm.trans hcheckpoint
  exact ⟨accepted, hgiven, hphase, hidentity,
    fun hacceptance => by simp [hunaccepted] at hacceptance⟩

/-- **A step keeps what a status says of the evidence.** -/
theorem Staged.step {before after : GatewayKeyRotationColumns} (h : Staged before)
    (hlegal : after.status ∈ legalTargets before.status)
    (hfilled : FilledColumns before after) (hsteps : CheckpointSteps before after) :
    Staged after := by
  obtain ⟨hle, hrank⟩ := rank_of_legal hlegal
  have hup : before.status.rank ≤ after.status.rank := by omega
  constructor
  · exact hfilled.approvalRequest.unset hup h.approvalRequest
  · exact hfilled.approvalDecision.unset hup h.approvalDecision
  · exact fun hlt =>
      ⟨hfilled.generationProvider.unset hup (fun hlt => (h.generation hlt).1) hlt,
      hfilled.generationDigest.unset hup (fun hlt => (h.generation hlt).2) hlt⟩
  · exact fun hlt => ⟨hfilled.newKey.unset hup (fun hlt => (h.key hlt).1) hlt,
      hfilled.newSecretVersion.unset hup (fun hlt => (h.key hlt).2.1) hlt,
      hfilled.newSecretNumber.unset hup (fun hlt => (h.key hlt).2.2) hlt⟩
  · intro hlt
    rcases hsteps.overlap with ⟨heq, -⟩ | ⟨hfive, -⟩ | ⟨hsix, -⟩
    · rw [heq]
      exact h.overlap (by omega)
    · omega
    · omega
  · intro hfive
    rcases hsteps.overlap with ⟨-, hne, -⟩ | ⟨-, hprepared⟩ | ⟨hsix, -⟩
    · exact absurd hfive hne
    · exact hprepared
    · omega
  · intro hsix hlast
    rcases hsteps.overlap with ⟨heq, -, hne⟩ | ⟨hfive, -⟩ | ⟨-, haccepts⟩
    · rw [heq]
      exact h.overlapAccepted (by omega) (by omega)
    · omega
    · exact haccepts.accepted
  · exact fun hlt =>
      ⟨hfilled.activatedAt.unset hup (fun hlt => (h.activation hlt).1) hlt,
      hfilled.drainDeadline.unset hup (fun hlt => (h.activation hlt).2) hlt⟩
  · intro hlt
    rcases hsteps.retirement with ⟨heq, -⟩ | ⟨hnine, -⟩ | ⟨hten, -⟩
    · rw [heq]
      exact h.retirement (by omega)
    · omega
    · omega
  · intro hnine
    rcases hsteps.retirement with ⟨-, hne, -⟩ | ⟨-, hprepared⟩ | ⟨hten, -⟩
    · exact absurd hnine hne
    · exact hprepared
    · omega
  · intro hten hlast
    rcases hsteps.retirement with ⟨heq, -, hne⟩ | ⟨hnine, -⟩ | ⟨-, haccepts⟩
    · rw [heq]
      exact h.retirementAccepted (by omega) (by omega)
    · omega
    · exact haccepts.accepted
  · exact hfilled.retiredAt.unset hup h.keyRetired
  · exact hfilled.revocation.unset hup h.revocation
  · exact hfilled.revokedAt.unset hup h.secretRevoked
  · exact hfilled.failure.unset hup h.failure

/-- **A step keeps the evidence it finds.** -/
theorem Staged.kept {before after : GatewayKeyRotationColumns} (h : Staged before)
    (hlegal : after.status ∈ legalTargets before.status)
    (hfilled : FilledColumns before after) (hsteps : CheckpointSteps before after) :
    EvidenceKept before after := by
  obtain ⟨hle, hrank⟩ := rank_of_legal hlegal
  constructor
  · exact hfilled.intent
  · exact hfilled.approvalRequest.kept h.approvalRequest
  · exact hfilled.approvalDecision.kept h.approvalDecision
  · exact hfilled.generationProvider.kept fun hlt => (h.generation hlt).1
  · exact hfilled.generationDigest.kept fun hlt => (h.generation hlt).2
  · exact hfilled.newKey.kept fun hlt => (h.key hlt).1
  · exact hfilled.newSecretVersion.kept fun hlt => (h.key hlt).2.1
  · exact hfilled.newSecretNumber.kept fun hlt => (h.key hlt).2.2
  · rcases hsteps.overlap with ⟨heq, -⟩ | ⟨hfive, -⟩ | ⟨hsix, haccepts⟩
    · rw [heq]
      exact .refl _
    · rw [h.overlap (by omega)]
      exact nofun
    · exact haccepts.kept (h.overlapPrepared (by omega))
  · exact hfilled.activatedAt.kept fun hlt => (h.activation hlt).1
  · exact hfilled.drainDeadline.kept fun hlt => (h.activation hlt).2
  · rcases hsteps.retirement with ⟨heq, -⟩ | ⟨hnine, -⟩ | ⟨hten, haccepts⟩
    · rw [heq]
      exact .refl _
    · rw [h.retirement (by omega)]
      exact nofun
    · exact haccepts.kept (h.retirementPrepared (by omega))
  · exact hfilled.revocation.kept h.revocation
  · exact hfilled.retiredAt.kept h.keyRetired
  · exact hfilled.revokedAt.kept h.secretRevoked
  · exact hfilled.failure.kept h.failure

theorem RotationChange.status {target : GatewayKeyRotationStatus}
    {advanced changed : GatewayKeyRotationColumns}
    (h : RotationChange current command now advanced target changed) :
    changed.status = advanced.status ∧ changed.version = advanced.version := by
  cases h <;> exact ⟨rfl, rfl⟩

/-- **What one step of a rotation does**, to a rotation that has the evidence of its
status. -/
structure Moved (current : GatewayKeyRotation) (command : AdvanceGatewayKeyRotation)
    (next : GatewayKeyRotation) : Prop where
  status : next.status = command.targetStatus
  version : next.version = current.version + 1
  legal : next.status ∈ legalTargets current.status
  staged : Staged next.toGatewayKeyRotationColumns
  kept : EvidenceKept current.toGatewayKeyRotationColumns
    next.toGatewayKeyRotationColumns

theorem transition_moved (hstaged : Staged current.toGatewayKeyRotationColumns)
    (h : transition current command now = .ok next) : Moved current command next := by
  obtain ⟨hlegal, hchange⟩ := transition_change h
  obtain ⟨hstatus, hversion⟩ := hchange.status
  have hsame : advancedColumns current command =
      { advancedColumns current command with status := command.targetStatus } := rfl
  have hfilled := filledColumns_of_change hlegal hsame hchange
  have hsteps := checkpointSteps_of_change hsame hchange
  have hnext : next.status ∈ legalTargets current.status := by
    rw [hstatus]
    exact hlegal
  exact ⟨hstatus, hversion, hnext, hstaged.step hnext hfilled hsteps,
    hstaged.kept hnext hfilled hsteps⟩

end ControlPlaneKit.Rotation
