import ControlPlaneKit.Rotation.RotationLaws

/-!
# RotationLifecycle — what holds of a rotation at every point of every run

A step is taken only where the earlier steps left its evidence: the new key is
activated over an accepted overlap, the old one leaves the gateway after the
drain that its own activation started, and is retired and revoked after an
accepted retirement.  A transition identity is spent on the command that used it.
-/

namespace ControlPlaneKit.Rotation

open ControlPlaneKit.Library (PyValue)
open ControlPlaneKit.Library.EventFold (bind_ok)
open ControlPlaneKit.Library.Transactions
  (run settle settle_ok settle_error settle_cases
  run_history run_relation run_append run_concat)
open ControlPlaneKit.Operations

variable {digest : PyValue → String} {stores after : RotationStores}
  {call : RotationCall} {current next : GatewayKeyRotation}
  {command : AdvanceGatewayKeyRotation} {now : Int}

/-! ## What single columns do across a step -/

/-- Only the activation sets the drain deadline, from the clock it reads. -/
theorem transition_deadline (h : transition current command now = .ok next) :
    next.drainDeadlineEpoch = current.drainDeadlineEpoch ∨
      command.targetStatus = .newKeyActive ∧ next.drainDeadlineEpoch =
        some (now + current.intent.maximumGrantLifetimeSeconds +
          current.intent.clockSkewSeconds) := by
  obtain ⟨-, hchange⟩ := transition_change h
  generalize next.toGatewayKeyRotationColumns = changed at hchange ⊢
  generalize command.targetStatus = target at hchange ⊢
  cases hchange
  case newKeyActive => exact .inr ⟨rfl, rfl⟩
  all_goals exact .inl rfl

/-- The old key is recorded retired by one step, and revoked by another. -/
theorem transition_retired (h : transition current command now = .ok next) :
    (next.oldKeyRetiredAt = current.oldKeyRetiredAt ∨
      command.targetStatus = .oldKeyRetired) ∧
      (next.oldSecretRevokedAt = current.oldSecretRevokedAt ∨
        command.targetStatus = .completed) := by
  obtain ⟨-, hchange⟩ := transition_change h
  generalize next.toGatewayKeyRotationColumns = changed at hchange ⊢
  generalize command.targetStatus = target at hchange ⊢
  cases hchange
  case oldKeyRetired => exact ⟨.inr rfl, .inl rfl⟩
  case completed => exact ⟨.inl rfl, .inr rfl⟩
  all_goals exact ⟨.inl rfl, .inl rfl⟩

/-- A change of the retirement or the revocation of the old key is a step to it. -/
theorem retires_move {answer rotation rotation' : GatewayKeyRotation}
    {rotationId : String} (hsound : RotationsSound stores)
    (h : rotate digest call stores = .ok (answer, after))
    (hrotation : stores.rotations[rotationId]? = some rotation)
    (hrotation' : after.rotations[rotationId]? = some rotation')
    (hretires : rotation'.status = .oldKeyRetired ∧ rotation.status ≠ .oldKeyRetired ∨
      rotation'.status = .completed ∧ rotation.status ≠ .completed ∨
      rotation'.oldKeyRetiredAt ≠ rotation.oldKeyRetiredAt ∨
      rotation'.oldSecretRevokedAt ≠ rotation.oldSecretRevokedAt) :
    ∃ command, transition rotation command call.clock = .ok rotation' ∧
      (command.targetStatus = .oldKeyRetired ∨ command.targetStatus = .completed) := by
  have hchanged : rotation' ≠ rotation := by
    rintro rfl
    rcases hretires with ⟨h, hne⟩ | ⟨h, hne⟩ | hne | hne
    · exact absurd h hne
    · exact absurd h hne
    · exact absurd rfl hne
    · exact absurd rfl hne
  cases rotate_effect hsound h with
  | unchanged =>
      cases hrotation.symm.trans hrotation'
      exact absurd rfl hchanged
  | opened opened hfresh =>
      rcases getElem?_insert_eq_some hrotation' with ⟨rfl, rfl⟩ | ⟨-, hsame⟩
      · cases hfresh.symm.trans hrotation
      · cases hrotation.symm.trans hsame
        exact absurd rfl hchanged
  | moved command current next hcommand hcurrent hfresh hmove =>
      rcases getElem?_insert_eq_some hrotation' with ⟨rfl, rfl⟩ | ⟨-, hsame⟩
      · cases hrotation.symm.trans hcurrent
        have hstatus := (transition_moved (hsound.staged _ _ hcurrent) hmove).status
        obtain ⟨hretired, hrevoked⟩ := transition_retired hmove
        refine ⟨command, hmove, ?_⟩
        rcases hretires with ⟨h, -⟩ | ⟨h, -⟩ | hne | hne
        · exact .inl (hstatus.symm.trans h)
        · exact .inr (hstatus.symm.trans h)
        · exact .inl (hretired.resolve_left hne)
        · exact .inr (hrevoked.resolve_left hne)
      · cases hrotation.symm.trans hsame
        exact absurd rfl hchanged

/-- A retirement that draws on the old key's end follows an accepted deployment. -/
theorem retirementAccepted_of_legal {target : GatewayKeyRotationStatus}
    (hstaged : Staged current.toGatewayKeyRotationColumns)
    (hlegal : target ∈ legalTargets current.status)
    (htarget : target = .oldKeyRetired ∨ target = .completed) :
    IsAccepted current.retirementDeployment := by
  obtain ⟨hle, hrank⟩ := rank_of_legal hlegal
  refine hstaged.retirementAccepted ?_ (by omega)
  rcases htarget with rfl | rfl
  all_goals
    generalize current.status.rank = source at hle hrank
    simp only [GatewayKeyRotationStatus.rank] at hrank
    omega

/-- The new key becomes active where the overlap is accepted. -/
theorem overlapAccepted_of_legal (hstaged : Staged current.toGatewayKeyRotationColumns)
    (hlegal : GatewayKeyRotationStatus.newKeyActive ∈ legalTargets current.status) :
    IsAccepted current.overlapDeployment := by
  obtain ⟨hle, hrank⟩ := rank_of_legal hlegal
  refine hstaged.overlapAccepted ?_ (by omega)
  generalize current.status.rank = source at hle hrank
  simp only [GatewayKeyRotationStatus.rank] at hrank
  omega

/-! ## Where the deadline and the recorded steps come from -/

/-- Every drain deadline was set by an activation of the run, from its clock. -/
def DrainsFromActivation (digest : PyValue → String) (history : List RotationCall)
    (stores : RotationStores) : Prop :=
  ∀ (rotationId : String) (rotation : GatewayKeyRotation) (deadline : Int),
    stores.rotations[rotationId]? = some rotation →
    rotation.drainDeadlineEpoch = some deadline →
    ∃ before activation rest, history = before ++ activation :: rest ∧
      (∃ overlapped activated, Enters (rotationsAfter digest before)
        (rotationsAfter digest (before ++ [activation])) rotationId .newKeyActive
        overlapped activated) ∧
      deadline = activation.clock + rotation.intent.maximumGrantLifetimeSeconds +
        rotation.intent.clockSkewSeconds

/-- Every recorded step is one that a command of the run asked for. -/
def RecordedFrom (digest : PyValue → String) (history : List RotationCall)
    (stores : RotationStores) : Prop :=
  ∀ step ∈ stores.transitions, ∃ call ∈ history, ∃ command,
    call.command.step = some command ∧
    step.rotationId = command.rotationId ∧ step.transitionId = command.transitionId ∧
    step.transitionFingerprint = digest (transitionSemantics command)

/-- A drain that was allowed stays allowed. -/
theorem DrainsFromActivation.later {history : List RotationCall}
    (h : DrainsFromActivation digest history stores) (call : RotationCall) :
    DrainsFromActivation digest (history ++ [call]) stores := by
  intro rotationId rotation deadline hrotation hdeadline
  obtain ⟨before, activation, rest, rfl, henters, heq⟩ :=
    h rotationId rotation deadline hrotation hdeadline
  exact ⟨before, activation, rest ++ [call], by simp, henters, heq⟩

theorem RecordedFrom.later {history : List RotationCall}
    (h : RecordedFrom digest history stores) (call : RotationCall) :
    RecordedFrom digest (history ++ [call]) stores := by
  intro step hstep
  obtain ⟨earlier, hearlier, hrecorded⟩ := h step hstep
  exact ⟨earlier, List.mem_append_left _ hearlier, hrecorded⟩

/-- **Tables are sound after every history.** -/
theorem rotationsSound_after (digest : PyValue → String) (history : List RotationCall) :
    RotationsSound (rotationsAfter digest history) :=
  rotationsSound_run rotationsSound_empty history

/-- A history and one call more. -/
theorem rotationsAfter_concat (digest : PyValue → String) (history : List RotationCall)
    (call : RotationCall) : rotationsAfter digest (history ++ [call]) =
      settle (rotate digest) (rotationsAfter digest history) call :=
  run_concat

/-- A history and a later one. -/
theorem rotationsAfter_append (digest : PyValue → String)
    (history later : List RotationCall) : rotationsAfter digest (history ++ later) =
      run (rotate digest) (rotationsAfter digest history) later :=
  run_append

theorem DrainsFromActivation.step {history : List RotationCall}
    (h : DrainsFromActivation digest history (rotationsAfter digest history))
    (heffect : RotationEffect digest (rotationsAfter digest history) call after)
    (hafter : rotationsAfter digest (history ++ [call]) = after) :
    DrainsFromActivation digest (history ++ [call]) after := by
  have hsound := rotationsSound_after digest history
  intro rotationId rotation deadline hrotation hdeadline
  cases heffect with
  | unchanged => exact h.later call rotationId rotation deadline hrotation hdeadline
  | opened opened hfresh hcolumns =>
      rcases getElem?_insert_eq_some hrotation with ⟨rfl, rfl⟩ | ⟨-, hrotation⟩
      · rw [hcolumns] at hdeadline
        cases hdeadline
      · exact h.later call rotationId rotation deadline hrotation hdeadline
  | moved command current next hcommand hcurrent hfresh hmove =>
      rcases getElem?_insert_eq_some hrotation with ⟨rfl, rfl⟩ | ⟨-, hother⟩
      · have hmoved := transition_moved (hsound.staged _ _ hcurrent) hmove
        rcases transition_deadline hmove with hsame | ⟨htarget, hset⟩
        · rw [hsame] at hdeadline
          obtain ⟨before, activation, rest, hhistory, henters, heq⟩ :=
            h.later call _ current deadline hcurrent hdeadline
          rw [← hmoved.kept.intent] at heq
          exact ⟨before, activation, rest, hhistory, henters, heq⟩
        · rw [hset] at hdeadline
          have hlegal := hmoved.legal
          rw [hmoved.status, htarget] at hlegal
          refine ⟨history, call, [], rfl, ⟨current, rotation, hcurrent, ?_, ?_, ?_⟩, ?_⟩
          · rw [hafter]
            exact hrotation
          · intro hactive
            rw [hactive] at hlegal
            simp [legalTargets] at hlegal
          · rw [hmoved.status, htarget]
          · rw [hmoved.kept.intent]
            exact (Option.some.inj hdeadline).symm
      · exact h.later call rotationId rotation deadline hother hdeadline

/-- **Every drain is counted from its activation**, after every history. -/
theorem drainsFromActivation_run (digest : PyValue → String)
    (history : List RotationCall) :
    DrainsFromActivation digest history (rotationsAfter digest history) := by
  refine run_history (fun _ _ _ hrotation => by simp at hrotation)
    (fun history call h => ?_) history
  rcases settle_cases (rotate digest)
    (run (rotate digest) {} history) call with heq | ⟨answer, hok⟩
  · rw [heq]
    exact h.later call
  · exact h.step (rotate_effect (rotationsSound_after digest history) hok)
      (rotationsAfter_concat digest history call)

theorem RecordedFrom.step {history : List RotationCall}
    (h : RecordedFrom digest history stores) (hkeyed : RotationsSound stores)
    (heffect : RotationEffect digest stores call after) :
    RecordedFrom digest (history ++ [call]) after := by
  cases heffect with
  | unchanged => exact h.later call
  | opened => exact h.later call
  | moved command current next hcommand hcurrent =>
      intro step hstep
      rcases List.mem_append.mp hstep with hstep | hstep
      · exact h.later call step hstep
      · rw [List.mem_singleton.mp hstep]
        exact ⟨call, by simp, command, hcommand, hkeyed.keyed _ _ hcurrent, rfl, rfl⟩

/-- **Every transition was recorded by a call**, after every history. -/
theorem recordedFrom_run (digest : PyValue → String) (history : List RotationCall) :
    RecordedFrom digest history (rotationsAfter digest history) := by
  refine run_history (fun _ hstep => by simp at hstep)
    (fun history call h => ?_) history
  rcases settle_cases (rotate digest)
    (run (rotate digest) {} history) call with heq | ⟨answer, hok⟩
  · rw [heq]
    exact h.later call
  · exact h.step (rotationsSound_after digest history)
      (rotate_effect (rotationsSound_after digest history) hok)

/-! ## What a transition identity stands for -/

theorem optionalStr_inj {a b : Option String} :
    optionalStr a = optionalStr b ↔ a = b := by
  cases a <;> cases b <;> simp [optionalStr]

theorem optionalNat_inj {a b : Option Nat} : optionalNat a = optionalNat b ↔ a = b := by
  cases a <;> cases b <;> simp [optionalNat]

theorem GatewayKeyRotationStatus.value_inj {a b : GatewayKeyRotationStatus} :
    a.value = b.value ↔ a = b := by
  constructor
  · intro h
    cases a <;> cases b <;> first | rfl | simp [GatewayKeyRotationStatus.value] at h
  · rintro rfl
    rfl

theorem GatewayKeyRotationDeploymentPhase.value_inj
    {a b : GatewayKeyRotationDeploymentPhase} : a.value = b.value ↔ a = b := by
  cases a <;> cases b <;> simp [GatewayKeyRotationDeploymentPhase.value]

/-- An acceptance is its three columns. -/
theorem acceptance_ext {a b : Option GatewayKeyRotationDeploymentAcceptance}
    (hgraph : a.map (·.currentGraphId) = b.map (·.currentGraphId))
    (hprojection : a.map (·.currentProjectionId) = b.map (·.currentProjectionId))
    (hat : a.map (·.acceptedAt) = b.map (·.acceptedAt)) : a = b := by
  cases a with
  | none =>
      cases b with
      | none => rfl
      | some _ => simp at hgraph
  | some a =>
      cases b with
      | none => simp at hgraph
      | some b =>
          cases a
          cases b
          simp at hgraph hprojection hat
          simp [hgraph, hprojection, hat]

/-- What is digested determines a checkpoint. -/
theorem checkpointSemantics_inj {a b : GatewayKeyRotationDeploymentCheckpoint}
    (h : checkpointSemantics a = checkpointSemantics b) : a = b := by
  obtain ⟨phase, identity, acceptance⟩ := a
  obtain ⟨phase', identity', acceptance'⟩ := b
  simp only [checkpointSemantics, PyValue.dict.injEq, List.cons.injEq, Prod.mk.injEq,
    true_and, PyValue.str.injEq, PyValue.int.injEq, optionalStr_inj, and_true,
    GatewayKeyRotationDeploymentPhase.value_inj, Int.natCast_inj] at h
  obtain ⟨rfl, -, h₁, h₂, h₃, h₄, h₅, h₆, h₇, h₈, h₉, h₁₀, h₁₁, h₁₂, hgraph,
    hprojection, hat⟩ := h
  obtain rfl := acceptance_ext hgraph hprojection hat
  cases identity
  cases identity'
  simp_all

/-- And a revocation. -/
theorem revocationSemantics_inj {a b : GatewayKeyRotationRevocationCheckpoint}
    (h : revocationSemantics a = revocationSemantics b) : a = b := by
  obtain ⟨registration, ⟨reference⟩, version, number, revocation, correlation, action,
    prepared⟩ := a
  obtain ⟨registration', ⟨reference'⟩, version', number', revocation',
    correlation', action', prepared'⟩ := b
  simpa [revocationSemantics] using h

/-- Two commands that ask for the same step with the same evidence, whoever's
scopes they are asked under. -/
def SameContent (command command' : AdvanceGatewayKeyRotation) : Prop :=
  command' = { command with actorScopes := command'.actorScopes }

/-- The fingerprinted document has all of a command's content. -/
theorem sameContent_of_semantics {command command' : AdvanceGatewayKeyRotation}
    (h : transitionSemantics command = transitionSemantics command') :
    SameContent command command' := by
  have helim : ∀ {α : Type} {f : α → PyValue} {a b : Option α},
      (∀ x y, f x = f y → x = y) → (∀ x, f x ≠ .none) →
      a.elim .none f = b.elim .none f → a = b := by
    intro α f a b hinj hnone heq
    cases a <;> cases b
    · rfl
    · exact absurd heq.symm (hnone _)
    · exact absurd heq (hnone _)
    · exact congrArg some (hinj _ _ heq)
  simp only [transitionSemantics, PyValue.dict.injEq, List.cons.injEq, Prod.mk.injEq,
    true_and, PyValue.str.injEq, PyValue.int.injEq, optionalStr_inj, optionalNat_inj,
    and_true, GatewayKeyRotationStatus.value_inj, Int.natCast_inj] at h
  obtain ⟨h₁, h₂, h₃, h₄, h₅, h₆, h₇, h₈, h₉, h₁₀, h₁₁, h₁₂, h₁₃, h₁₄, hdeployment,
    h₁₅, hrevocation, h₁₆, h₁₇, h₁₈⟩ := h
  have hdeployment :=
    helim (fun _ _ => checkpointSemantics_inj) (fun _ => nofun) hdeployment
  have hrevocation :=
    helim (fun _ _ => revocationSemantics_inj) (fun _ => nofun) hrevocation
  obtain ⟨⟩ := command
  obtain ⟨⟩ := command'
  simp_all [SameContent]

/-- A command under a spent transition identity is answered only when its content
has the recorded fingerprint, and it writes nothing. -/
theorem rotate_repeated {existing : GatewayKeyRotationTransition}
    {answer : GatewayKeyRotation} (hsound : RotationsSound stores)
    (hcommand : call.command.step = some command) (hexisting : stores.transitionForId
      command.rotationId command.transitionId = some existing)
    (h : rotate digest call stores = .ok (answer, after)) :
    after = stores ∧ existing.transitionFingerprint =
      digest (transitionSemantics command) := by
  obtain ⟨current, hcurrent, hadvance⟩ := rotate_locked hcommand h
  rcases advanceLocked_effect hcurrent (hsound.keyed _ _ hcurrent)
    (hsound.staged _ _ hcurrent) hadvance with
    ⟨-, ⟨⟨recorded, hrecorded, hfingerprint⟩, rfl⟩ | ⟨hnone, -⟩⟩
  · cases hrecorded.symm.trans hexisting
    exact ⟨rfl, hfingerprint⟩
  · rw [hexisting] at hnone
    cases hnone

/-- A transition that is found has the identity that was asked for. -/
theorem transitionForId_eq_some {rotationId transitionId : String}
    {step : GatewayKeyRotationTransition}
    (h : stores.transitionForId rotationId transitionId = some step) :
    step ∈ stores.transitions ∧ step.rotationId = rotationId ∧
    step.transitionId = transitionId := by
  have hfound := List.find?_some h
  simp only [Bool.and_eq_true, decide_eq_true_eq] at hfound
  exact ⟨List.mem_of_find?_eq_some h, hfound⟩

theorem transitionForId_isSome {rotationId transitionId : String}
    {step : GatewayKeyRotationTransition} (hstep : step ∈ stores.transitions)
    (hrotation : step.rotationId = rotationId)
    (htransition : step.transitionId = transitionId) :
    (stores.transitionForId rotationId transitionId).isSome :=
  List.find?_isSome.mpr ⟨step, hstep, by simp [hrotation, htransition]⟩

/-- An accepted command spends its transition identity. -/
theorem rotate_spends {answer : GatewayKeyRotation} (hsound : RotationsSound stores)
    (hcommand : call.command.step = some command)
    (h : rotate digest call stores = .ok (answer, after)) :
    (after.transitionForId command.rotationId command.transitionId).isSome := by
  obtain ⟨current, hcurrent, hadvance⟩ := rotate_locked hcommand h
  have hkeyed := hsound.keyed _ _ hcurrent
  rcases advanceLocked_effect hcurrent hkeyed (hsound.staged _ _ hcurrent) hadvance
    with ⟨-, ⟨⟨recorded, hrecorded, -⟩, rfl⟩ | ⟨-, next, -, rfl⟩⟩
  · rw [hrecorded]
    rfl
  · exact transitionForId_isSome
      (List.mem_append_right _ (List.mem_singleton_self _)) hkeyed rfl

/-- The log only grows. -/
theorem transitions_prefix_run (hsound : RotationsSound stores)
    (calls : List RotationCall) :
    stores.transitions <+: (run (rotate digest) stores calls).transitions := by
  refine run_relation (R := fun before after => before.transitions <+:
    after.transitions) (fun _ => List.prefix_refl _) (fun _ _ _ => List.IsPrefix.trans)
    (fun _ _ _ _ hs h => (rotate_effect hs h).sound hs)
    (fun _ _ _ _ hs h => ?_) hsound calls
  cases rotate_effect hs h with
  | unchanged => exact List.prefix_refl _
  | opened => exact List.prefix_refl _
  | moved => exact List.prefix_append _ _

/-! ## The lifecycle -/

/-- **The lifecycle of every rotation**, at a command after any others. -/
structure RotationLifecycle (digest : PyValue → String)
    (history later : List RotationCall) (call : RotationCall) : Prop where
  version : ∀ (rotationId : String) (rotation : GatewayKeyRotation),
    (rotationsAfter digest history).rotations[rotationId]? = some rotation →
    rotation.version =
      1 + ((rotationsAfter digest history).transitionsOf rotationId).length
  path : ∀ (rotationId : String) (rotation : GatewayKeyRotation),
    (rotationsAfter digest history).rotations[rotationId]? = some rotation →
    LogPath .requested 1 ((rotationsAfter digest history).transitionsOf rotationId)
      rotation.status rotation.version
  /-- Evidence stays, an accepted deployment has the prepared one's identity, and a
  final rotation stays as it is. -/
  kept : RotationsKept (rotationsAfter digest history)
    (rotationsAfter digest (history ++ later))
  activates : ∀ (rotationId : String) (rotation rotation' : GatewayKeyRotation),
    Enters (rotationsAfter digest history) (rotationsAfter digest
      (history ++ [call])) rotationId .newKeyActive rotation rotation' →
    IsAccepted rotation.overlapDeployment
  /-- The old key leaves after the drain that the activation of this rotation set. -/
  drains : ∀ (rotationId : String) (rotation rotation' : GatewayKeyRotation),
    Enters (rotationsAfter digest history) (rotationsAfter digest
      (history ++ [call])) rotationId .retirementDeploying rotation rotation' →
    ∃ before activation rest, history = before ++ activation :: rest ∧
      (∃ overlapped activated, Enters (rotationsAfter digest before)
        (rotationsAfter digest (before ++ [activation])) rotationId .newKeyActive
        overlapped activated) ∧
      activation.clock + rotation.intent.maximumGrantLifetimeSeconds +
        rotation.intent.clockSkewSeconds ≤ call.clock
  retires : ∀ (rotationId : String) (rotation rotation' : GatewayKeyRotation),
    (rotationsAfter digest history).rotations[rotationId]? = some rotation →
    (rotationsAfter digest (history ++ [call])).rotations[rotationId]? =
      some rotation' →
    rotation'.status = .oldKeyRetired ∧ rotation.status ≠ .oldKeyRetired ∨
      rotation'.status = .completed ∧ rotation.status ≠ .completed ∨
      rotation'.oldKeyRetiredAt ≠ rotation.oldKeyRetiredAt ∨
      rotation'.oldSecretRevokedAt ≠ rotation.oldSecretRevokedAt →
    IsAccepted rotation.retirementDeployment
  /-- The transition identity of an accepted command stays in the log. -/
  spends : ∀ (command : AdvanceGatewayKeyRotation) (answer : GatewayKeyRotation)
    (after : RotationStores), call.command.step = some command →
    rotate digest call (rotationsAfter digest history) = .ok (answer, after) →
    ((rotationsAfter digest (history ++ [call] ++ later)).transitionForId
      command.rotationId command.transitionId).isSome
  /-- A transition identity in the log was spent by one command of the run.  The same
  content under it writes nothing, and any other raises unless the digests collide. -/
  replays : ∀ (command : AdvanceGatewayKeyRotation)
    (existing : GatewayKeyRotationTransition),
    call.command.step = some command →
    (rotationsAfter digest history).transitionForId command.rotationId
      command.transitionId =
      some existing →
    rotationsAfter digest (history ++ [call]) = rotationsAfter digest history ∧
      ∃ earlier ∈ history, ∃ spent, earlier.command.step = some spent ∧
        spent.rotationId = command.rotationId ∧
        spent.transitionId = command.transitionId ∧
        existing.transitionFingerprint = digest (transitionSemantics spent) ∧
        (¬ SameContent spent command →
          (∃ error, rotate digest call (rotationsAfter digest history) = .error error) ∨
            transitionSemantics spent ≠ transitionSemantics command ∧
              digest (transitionSemantics spent) = digest (transitionSemantics command))
  single : ∀ (rotationId rotationId' : String)
    (rotation rotation' : GatewayKeyRotation),
    (rotationsAfter digest history).rotations[rotationId]? = some rotation →
    (rotationsAfter digest history).rotations[rotationId']? = some rotation' →
    rotation.intent.binding = rotation'.intent.binding →
    rotation.status.isTerminal = false → rotation'.status.isTerminal = false →
    rotationId = rotationId'

/-- What entering a status says of the command that entered it. -/
theorem enters_after {history : List RotationCall} {rotationId : String}
    {status : GatewayKeyRotationStatus} {rotation rotation' : GatewayKeyRotation}
    (h : Enters (rotationsAfter digest history)
      (rotationsAfter digest (history ++ [call])) rotationId
      status rotation rotation') :
    ∃ command, command.targetStatus = status ∧
      transition rotation command call.clock = .ok rotation' ∧
      status ∈ legalTargets rotation.status := by
  rw [rotationsAfter_concat] at h
  have hsound := rotationsSound_after digest history
  rcases settle_cases (rotate digest)
    (rotationsAfter digest history) call with heq | ⟨answer, hok⟩
  · rw [heq] at h
    obtain ⟨hbefore, hafter, hne, hstatus⟩ := h
    cases hbefore.symm.trans hafter
    exact absurd hstatus hne
  · obtain ⟨command, -, -, htarget, hmove⟩ := enters_move hsound hok h
    exact ⟨command, htarget, hmove, htarget ▸ (transition_change hmove).1⟩

/-- **The lifecycle of rotations**, after every history and one call more. -/
theorem rotationLifecycle (digest : PyValue → String)
    (history later : List RotationCall) (call : RotationCall) :
    RotationLifecycle digest history later call where
  version := by
    intro rotationId rotation hrotation
    exact ((rotationsSound_after digest history).path _ _ hrotation).version
  path := (rotationsSound_after digest history).path
  kept := by
    rw [rotationsAfter_append]
    exact rotationsKept_run (rotationsSound_after digest history) later
  activates := by
    intro rotationId rotation rotation' henters
    obtain ⟨command, -, -, hlegal⟩ := enters_after henters
    exact overlapAccepted_of_legal
      ((rotationsSound_after digest history).staged _ _ henters.1) hlegal
  drains := by
    intro rotationId rotation rotation' henters
    obtain ⟨command, htarget, hmove, -⟩ := enters_after henters
    obtain ⟨-, hchange⟩ := transition_change hmove
    rw [htarget] at hchange
    generalize rotation'.toGatewayKeyRotationColumns = changed at hchange
    cases hchange with
    | retirementDeploying deadline hdeadline hdrained =>
        obtain ⟨before, activation, rest, hhistory, hactivation, heq⟩ :=
          drainsFromActivation_run digest history _ _ _ henters.1 hdeadline
        exact ⟨before, activation, rest, hhistory, hactivation, heq ▸ hdrained⟩
  retires := by
    intro rotationId rotation rotation' hrotation hrotation' hretires
    have hsound := rotationsSound_after digest history
    rw [rotationsAfter_concat] at hrotation'
    rcases settle_cases (rotate digest)
      (rotationsAfter digest history) call with heq | ⟨answer, hok⟩
    · rw [heq] at hrotation'
      cases hrotation.symm.trans hrotation'
      rcases hretires with ⟨h, hne⟩ | ⟨h, hne⟩ | hne | hne
      · exact absurd h hne
      · exact absurd h hne
      · exact absurd rfl hne
      · exact absurd rfl hne
    · obtain ⟨command, hmove, htarget⟩ :=
        retires_move hsound hok hrotation hrotation' hretires
      exact retirementAccepted_of_legal (hsound.staged _ _ hrotation)
        (transition_change hmove).1 htarget
  spends := by
    intro command answer after hcommand hok
    have hsome := rotate_spends (rotationsSound_after digest history) hcommand hok
    obtain ⟨step, hstep⟩ := Option.isSome_iff_exists.mp hsome
    obtain ⟨hmem, hrotation, htransition⟩ := transitionForId_eq_some hstep
    rw [← settle_ok hok, ← rotationsAfter_concat] at hmem
    rw [rotationsAfter_append]
    exact transitionForId_isSome ((transitions_prefix_run
      (rotationsSound_after digest _) later).subset hmem) hrotation htransition
  replays := by
    intro command existing hcommand hexisting
    have hsound := rotationsSound_after digest history
    obtain ⟨hmem, hrotation, htransition⟩ := transitionForId_eq_some hexisting
    obtain ⟨earlier, hearlier, spent, hspent, hspentRotation, hspentTransition,
        hfingerprint⟩ :=
      recordedFrom_run digest history existing hmem
    refine ⟨?_, earlier, hearlier, spent, hspent, hspentRotation.symm.trans hrotation,
      hspentTransition.symm.trans htransition, hfingerprint, fun hother => ?_⟩
    · rw [rotationsAfter_concat]
      rcases settle_cases (rotate digest)
        (rotationsAfter digest history) call with heq | ⟨answer, hok⟩
      · exact heq
      · exact (rotate_repeated hsound hcommand hexisting hok).1
    · cases hout : rotate digest call (rotationsAfter digest history) with
      | error error => exact .inl ⟨error, rfl⟩
      | ok out =>
          obtain ⟨answer, left⟩ := out
          have hsame := (rotate_repeated hsound hcommand hexisting hout).2
          exact .inr ⟨fun heq => hother (sameContent_of_semantics heq),
            hfingerprint.symm.trans hsame⟩
  single := (rotationsSound_after digest history).single

end ControlPlaneKit.Rotation
