import ControlPlaneKit.Rotation.RotationMoves

/-!
# RotationLaws — the lifecycle of every rotation, along every run

An accepted command changes nothing, opens a rotation whose authority is free, or
moves one rotation and records the step.  The tables stay sound, a rotation keeps
its evidence, and what a step needs was established by an earlier one.
-/

namespace ControlPlaneKit.Rotation

open ControlPlaneKit.Library (PyValue TextMap)
open ControlPlaneKit.Library.EventFold (bind_ok)
open ControlPlaneKit.Library.KeyedMap (getElem?_insert mem_toList)
open ControlPlaneKit.Library.Transactions
  (run settle settle_ok settle_error settle_cases
  run_history run_relation run_invariant run_append run_concat)
open ControlPlaneKit.Operations
open ControlPlaneKit.Topology

variable {digest : PyValue → String} {stores after : RotationStores}
  {call : RotationCall} {current next : GatewayKeyRotation}
  {command : AdvanceGatewayKeyRotation} {now : Int}

/-! ## What a command makes of the tables -/

theorem GatewayKeyRotation.ext_columns {a b : GatewayKeyRotation}
    (h : a.toGatewayKeyRotationColumns = b.toGatewayKeyRotationColumns) : a = b := by
  cases a
  cases b
  simpa using h

/-- An upsert leaves the new checkpoint, where a checkpoint is never dropped. -/
theorem putCheckpoint_eq
    {stored value result : Option GatewayKeyRotationDeploymentCheckpoint}
    (hdropped : value = none → stored = none)
    (h : putCheckpoint stored value = .ok result) : result = value := by
  cases value with
  | none =>
      rw [hdropped rfl, putCheckpoint] at h
      exact (Except.ok.inj h).symm
  | some value =>
      cases stored with
      | none => exact (Except.ok.inj h).symm
      | some current =>
          simp only [putCheckpoint, bind_ok] at h
          obtain ⟨-, -, h⟩ := h
          exact (Except.ok.inj h).symm

theorem putRevocation_eq
    {stored value result : Option GatewayKeyRotationRevocationCheckpoint}
    (hdropped : value = none → stored = none)
    (h : putRevocation stored value = .ok result) : result = value := by
  cases value with
  | none =>
      rw [hdropped rfl, putRevocation] at h
      exact (Except.ok.inj h).symm
  | some value =>
      cases stored with
      | none => exact (Except.ok.inj h).symm
      | some current =>
          simp only [putRevocation, bind_ok] at h
          obtain ⟨-, -, h⟩ := h
          exact (Except.ok.inj h).symm

/-- A replacement that drops nothing of its row is what the row becomes. -/
theorem compareAndSet_eq {replacement : GatewayKeyRotation}
    {updated : GatewayKeyRotation × RotationStores}
    (hrow : stores.rotations[current.rotationId]? = some current)
    (hkept : EvidenceKept current.toGatewayKeyRotationColumns
      replacement.toGatewayKeyRotationColumns)
    (h : compareAndSet stores current replacement = .ok (some updated)) :
    updated = (replacement,
      { stores with
          rotations := stores.rotations.insert current.rotationId replacement }) := by
  simp only [compareAndSet, bind_ok, hrow] at h
  obtain ⟨-, -, h⟩ := h
  split at h
  · simp only [bind_ok] at h
    obtain ⟨overlap, hoverlap, retirement, hretirement, revocation, hrevocation,
      written, hwritten, h⟩ := h
    have hoverlap := putCheckpoint_eq (fun hnone => by
      cases hstored : current.overlapDeployment with
      | none => rfl
      | some checkpoint =>
          obtain ⟨_, hsome, -⟩ := hkept.overlap checkpoint hstored
          rw [hnone] at hsome
          cases hsome) hoverlap
    have hretirement := putCheckpoint_eq (fun hnone => by
      cases hstored : current.retirementDeployment with
      | none => rfl
      | some checkpoint =>
          obtain ⟨_, hsome, -⟩ := hkept.retirement checkpoint hstored
          rw [hnone] at hsome
          cases hsome) hretirement
    have hrevocation := putRevocation_eq (fun hnone => by
      cases hstored : current.revocation with
      | none => rfl
      | some checkpoint =>
          have hsome := hkept.revocation checkpoint hstored
          rw [hnone] at hsome
          cases hsome) hrevocation
    have heq : written = replacement := by
      refine GatewayKeyRotation.ext_columns
        ((gatewayKeyRotation_columns hwritten).trans ?_)
      rw [hoverlap, hretirement, hrevocation, ← hkept.intent]
    cases h
    rw [heq]
  · cases h

/-- The step a command asks for, if any. -/
def RotationCommand.step : RotationCommand → Option AdvanceGatewayKeyRotation
  | .request _ => none
  | .advance command => some command
  | .advanceDeployment command => some command.transition

/-- **What an accepted command makes of the tables.** -/
inductive RotationEffect (digest : PyValue → String) (stores : RotationStores)
    (call : RotationCall) : RotationStores → Prop where
  | unchanged : RotationEffect digest stores call stores
  | opened (rotation : GatewayKeyRotation)
      (hfresh : stores.rotations[rotation.rotationId]? = none)
      (hcolumns : rotation.toGatewayKeyRotationColumns = { intent := rotation.intent })
      (hfree : stores.nonterminalForBinding rotation.intent.binding = none) :
      RotationEffect digest stores call
        { stores with
            rotations := stores.rotations.insert rotation.rotationId rotation }
  | moved (command : AdvanceGatewayKeyRotation) (current next : GatewayKeyRotation)
      (hcommand : call.command.step = some command)
      (hcurrent : stores.rotations[command.rotationId]? = some current)
      (hfresh : stores.transitionForId command.rotationId command.transitionId = none)
      (hmove : transition current command call.clock = .ok next) :
      RotationEffect digest stores call
        { rotations := stores.rotations.insert command.rotationId next
          transitions :=
            stores.transitions ++ [recordedTransition digest current next command] }

theorem advanceLocked_effect {evidence : RotationEvidence} {answer : GatewayKeyRotation}
    (hcurrent : stores.rotations[command.rotationId]? = some current)
    (hkeyed : current.rotationId = command.rotationId)
    (hstaged : Staged current.toGatewayKeyRotationColumns)
    (h : advanceLocked digest evidence now current command stores =
      .ok (answer, after)) :
    after.rotations[command.rotationId]? = some answer ∧
      (((∃ existing,
        stores.transitionForId command.rotationId command.transitionId = some existing ∧
          existing.transitionFingerprint = digest (transitionSemantics command)) ∧
          after = stores) ∨
        (stores.transitionForId command.rotationId command.transitionId = none ∧
          ∃ next, transition current command now = .ok next ∧
            after =
              { rotations := stores.rotations.insert command.rotationId next
                transitions := stores.transitions ++
                  [recordedTransition digest current next command] })) := by
  unfold advanceLocked at h
  split at h
  · rename_i existing hexisting
    split at h
    · rename_i hfingerprint
      cases h
      exact ⟨hcurrent, .inl ⟨⟨existing, hexisting, hfingerprint⟩, rfl⟩⟩
    · cases h
  · rename_i hnone
    simp only [bind_ok, found_eq_ok] at h
    obtain ⟨-, -, -, -, -, -, replacement, hreplacement, _, hupdated, written,
      rfl, recorded, hrecorded, h⟩ := h
    have hkept := (transition_moved hstaged hreplacement).kept
    rw [← hkeyed] at hcurrent
    have hwritten := compareAndSet_eq hcurrent hkept hupdated
    subst hwritten
    simp only [RotationStores.addTransition, bind_ok] at hrecorded
    obtain ⟨-, -, -, -, hrecorded⟩ := hrecorded
    cases hrecorded
    cases h
    refine ⟨?_, .inr ⟨hnone, replacement, hreplacement, by rw [hkeyed]⟩⟩
    show (stores.rotations.insert current.rotationId replacement)[command.rotationId]? =
      _
    rw [hkeyed, getElem?_insert, if_pos rfl]

theorem requestRotation_effect {command : RequestGatewayKeyRotation}
    {answer : GatewayKeyRotation}
    (h : requestRotation digest command stores = .ok (answer, after)) :
    RotationEffect digest stores call after := by
  simp only [requestRotation, bind_ok] at h
  obtain ⟨-, -, -, -, candidate, hcandidate, h⟩ := h
  split at h
  · split at h
    · cases h
      exact .unchanged
    · cases h
  · simp only [bind_ok, requireThat_eq_ok, RotationStores.add,
      Option.isNone_iff_eq_none] at h
    obtain ⟨-, hfree, stored, ⟨-, -, -, hfresh, hstored⟩, h⟩ := h
    cases hstored
    cases h
    have hcolumns := gatewayKeyRotation_columns hcandidate
    exact .opened _ hfresh (by rw [hcolumns]) hfree

/-! ## Sound tables -/

/-- A recorded path from one status and version to another. -/
def LogPath (status : GatewayKeyRotationStatus) (version : Nat) :
    List GatewayKeyRotationTransition → GatewayKeyRotationStatus → Nat → Prop
  | [], status', version' => status' = status ∧ version' = version
  | step :: steps, status', version' =>
      step.fromStatus = status ∧ step.fromVersion = version ∧
        step.toVersion = version + 1 ∧
        step.toStatus ∈ legalTargets status ∧
        LogPath step.toStatus step.toVersion steps status' version'

theorem LogPath.concat {steps : List GatewayKeyRotationTransition}
    {step : GatewayKeyRotationTransition} :
    ∀ {status : GatewayKeyRotationStatus} {version : Nat} {status' :
      GatewayKeyRotationStatus}
      {version' : Nat}, LogPath status version steps status' version' →
      step.fromStatus = status' → step.fromVersion = version' →
      step.toVersion = version' + 1 →
      step.toStatus ∈ legalTargets status' →
      LogPath status version (steps ++ [step]) step.toStatus step.toVersion := by
  induction steps with
  | nil =>
      rintro status version _ _ ⟨rfl, rfl⟩ hfrom hversion hto hlegal
      exact ⟨hfrom, hversion, hto, hlegal, rfl, rfl⟩
  | cons first steps ih =>
      rintro status version status' version'
        ⟨hfirst, hone, htwo, hedge, hrest⟩ hfrom hversion hto hlegal
      exact ⟨hfirst, hone, htwo, hedge, ih hrest hfrom hversion hto hlegal⟩

theorem LogPath.version {steps : List GatewayKeyRotationTransition} :
    ∀ {status : GatewayKeyRotationStatus} {version : Nat} {status' :
      GatewayKeyRotationStatus}
      {version' : Nat}, LogPath status version steps status' version' →
      version' = version + steps.length := by
  induction steps with
  | nil =>
      rintro _ _ _ _ ⟨-, rfl⟩
      rfl
  | cons step steps ih =>
      rintro _ _ _ _ ⟨-, -, hto, -, hrest⟩
      rw [ih hrest, hto, List.length_cons]
      omega

/-- **What the tables say of every rotation**: it is kept under its identity, has the
evidence of its status, and its recorded steps lead there; no two rotations that
are not final share an authority. -/
structure RotationsSound (stores : RotationStores) : Prop where
  keyed : ∀ (rotationId : String) (rotation : GatewayKeyRotation),
    stores.rotations[rotationId]? = some rotation →
    rotation.rotationId = rotationId
  staged : ∀ (rotationId : String) (rotation : GatewayKeyRotation),
    stores.rotations[rotationId]? = some rotation →
    Staged rotation.toGatewayKeyRotationColumns
  path : ∀ (rotationId : String) (rotation : GatewayKeyRotation),
    stores.rotations[rotationId]? = some rotation →
    LogPath .requested 1 (stores.transitionsOf rotationId) rotation.status
      rotation.version
  logged : ∀ step ∈ stores.transitions, ∃ rotation : GatewayKeyRotation,
    stores.rotations[step.rotationId]? = some rotation
  single : ∀ (rotationId rotationId' : String)
    (rotation rotation' : GatewayKeyRotation),
    stores.rotations[rotationId]? = some rotation →
    stores.rotations[rotationId']? = some rotation' →
    rotation.intent.binding = rotation'.intent.binding →
    rotation.status.isTerminal = false → rotation'.status.isTerminal = false →
    rotationId = rotationId'

theorem rotationsSound_empty : RotationsSound {} := by
  constructor <;> simp

/-- A command that asks for a step takes it from the stored rotation. -/
theorem rotate_locked {answer : GatewayKeyRotation}
    (hcommand : call.command.step = some command)
    (h : rotate digest call stores = .ok (answer, after)) :
    ∃ current, stores.rotations[command.rotationId]? = some current ∧
      advanceLocked digest call.evidence call.clock current command stores =
        .ok (answer, after) := by
  obtain ⟨request, evidence, clock⟩ := call
  cases request with
  | request => cases hcommand
  | advance asked =>
      cases hcommand
      simp only [rotate, advanceRotation, RotationStores.get, bind_ok, found_eq_ok] at h
      obtain ⟨-, -, -, -, -, -, current, hcurrent, h⟩ := h
      exact ⟨current, hcurrent, h⟩
  | advanceDeployment asked =>
      cases hcommand
      simp only [rotate, advanceDeployment, bind_ok, found_eq_ok] at h
      obtain ⟨-, -, -, -, -, -, -, -, -, -, request, -, run, -, plan, -, current,
        hcurrent, -, -, -, -, -, -, -, -, h⟩ := h
      exact ⟨current, hcurrent, h⟩

theorem rotate_effect {answer : GatewayKeyRotation} (hsound : RotationsSound stores)
    (h : rotate digest call stores = .ok (answer, after)) :
    RotationEffect digest stores call after := by
  cases hcommand : call.command.step with
  | none =>
      obtain ⟨request, evidence, clock⟩ := call
      cases request <;> try cases hcommand
      exact requestRotation_effect h
  | some command =>
      obtain ⟨current, hcurrent, hadvance⟩ := rotate_locked hcommand h
      rcases advanceLocked_effect hcurrent (hsound.keyed _ _ hcurrent) (hsound.staged
        _ _ hcurrent) hadvance with ⟨-, ⟨-, rfl⟩ | ⟨hfresh, next, hmove, rfl⟩⟩
      · exact .unchanged
      · exact .moved command current next hcommand hcurrent hfresh hmove

/-- The answer of a step is the rotation as it is stored. -/
theorem rotate_answer {answer : GatewayKeyRotation} (hsound : RotationsSound stores)
    (hcommand : call.command.step = some command)
    (h : rotate digest call stores = .ok (answer, after)) :
    after.rotations[command.rotationId]? = some answer := by
  obtain ⟨current, hcurrent, hadvance⟩ := rotate_locked hcommand h
  exact (advanceLocked_effect hcurrent (hsound.keyed _ _ hcurrent)
    (hsound.staged _ _ hcurrent) hadvance).1

/-- A rotation of the table after an insertion is the inserted one, or another. -/
theorem getElem?_insert_eq_some {rotations : TextMap GatewayKeyRotation}
    {key rotationId : String} {inserted rotation : GatewayKeyRotation}
    (h : (rotations.insert key inserted)[rotationId]? = some rotation) :
    rotationId = key ∧ rotation = inserted ∨
      rotationId ≠ key ∧ rotations[rotationId]? = some rotation := by
  rw [getElem?_insert] at h
  split at h
  · rename_i heq
    exact .inl ⟨heq.symm, (Option.some.inj h).symm⟩
  · rename_i hne
    exact .inr ⟨Ne.symm hne, h⟩

theorem nonterminalForBinding_eq_none {binding : GatewayKeyBinding}
    (h : stores.nonterminalForBinding binding = none) {rotationId : String}
    {rotation : GatewayKeyRotation}
    (hrotation : stores.rotations[rotationId]? = some rotation)
    (hbinding : rotation.intent.binding = binding) :
    rotation.status.isTerminal = true := by
  have hmem : rotation ∈ stores.rotations.toList.map (·.2) :=
    List.mem_map.mpr ⟨(rotationId, rotation), mem_toList.mpr hrotation, rfl⟩
  simpa [hbinding] using List.find?_eq_none.mp h rotation hmem

/-- A rotation that moved was not final. -/
theorem not_isTerminal_of_legal {source target : GatewayKeyRotationStatus}
    (h : target ∈ legalTargets source) : source.isTerminal = false := by
  by_contra hterminal
  rw [legalTargets_of_terminal (by simpa using hterminal)] at h
  cases h

theorem transitionsOf_concat (rotations : TextMap GatewayKeyRotation)
    (transitions : List GatewayKeyRotationTransition)
    (step : GatewayKeyRotationTransition) (rotationId : String) :
    RotationStores.transitionsOf ⟨rotations, transitions ++ [step]⟩ rotationId =
      RotationStores.transitionsOf ⟨rotations, transitions⟩ rotationId ++
        if step.rotationId = rotationId then [step] else [] := by
  simp only [RotationStores.transitionsOf, List.filter_append, List.filter_singleton]
  by_cases heq : step.rotationId = rotationId <;> simp [heq]

theorem RotationEffect.sound (h : RotationEffect digest stores call after)
    (hsound : RotationsSound stores) : RotationsSound after := by
  cases h with
  | unchanged => exact hsound
  | opened rotation hfresh hcolumns hfree =>
      have hstatus : rotation.status = .requested := by rw [hcolumns]
      have hversion : rotation.version = 1 := by rw [hcolumns]
      have hunlogged : stores.transitionsOf rotation.rotationId = [] := by
        refine List.filter_eq_nil_iff.mpr fun step hstep hrotation => ?_
        obtain ⟨other, hother⟩ := hsound.logged step hstep
        rw [of_decide_eq_true hrotation, hfresh] at hother
        cases hother
      constructor
      · intro rotationId other hother
        rcases getElem?_insert_eq_some hother with ⟨rfl, rfl⟩ | ⟨-, hother⟩
        · rfl
        · exact hsound.keyed _ _ hother
      · intro rotationId other hother
        rcases getElem?_insert_eq_some hother with ⟨rfl, rfl⟩ | ⟨-, hother⟩
        · rw [hcolumns]
          exact staged_requested _
        · exact hsound.staged _ _ hother
      · intro rotationId other hother
        rcases getElem?_insert_eq_some hother with ⟨rfl, rfl⟩ | ⟨-, hother⟩
        · show LogPath _ _ (stores.transitionsOf other.rotationId) _ _
          rw [hunlogged]
          exact ⟨hstatus, hversion⟩
        · exact hsound.path _ _ hother
      · intro step hstep
        show ∃ other, (stores.rotations.insert rotation.rotationId
          rotation)[step.rotationId]? = some other
        rw [getElem?_insert]
        split
        · exact ⟨rotation, rfl⟩
        · exact hsound.logged step hstep
      · intro rotationId rotationId' other other' hother hother' hbinding hlive hlive'
        rcases getElem?_insert_eq_some hother with ⟨rfl, rfl⟩ | ⟨-, hold⟩ <;>
          rcases getElem?_insert_eq_some hother' with ⟨rfl, rfl⟩ | ⟨-, hold'⟩
        · rfl
        · have := nonterminalForBinding_eq_none hfree hold' hbinding.symm
          simp [hlive'] at this
        · have := nonterminalForBinding_eq_none hfree hold hbinding
          simp [hlive] at this
        · exact hsound.single _ _ _ _ hold hold' hbinding hlive hlive'
  | moved command current next hcommand hcurrent hfresh hmove =>
      have hmoved := transition_moved (hsound.staged _ _ hcurrent) hmove
      have hkey : current.rotationId = command.rotationId := hsound.keyed _ _ hcurrent
      have hintent : next.intent = current.intent := hmoved.kept.intent
      constructor
      · intro rotationId other hother
        rcases getElem?_insert_eq_some hother with ⟨rfl, rfl⟩ | ⟨-, hother⟩
        · rw [GatewayKeyRotation.rotationId, hintent]
          exact hkey
        · exact hsound.keyed _ _ hother
      · intro rotationId other hother
        rcases getElem?_insert_eq_some hother with ⟨rfl, rfl⟩ | ⟨-, hother⟩
        · exact hmoved.staged
        · exact hsound.staged _ _ hother
      · intro rotationId other hother
        rcases getElem?_insert_eq_some hother with ⟨rfl, rfl⟩ | ⟨hne, hother⟩
        · rw [transitionsOf_concat, if_pos (show (recordedTransition digest current
            other command).rotationId = command.rotationId from hkey)]
          exact (hsound.path _ _ hcurrent).concat rfl rfl hmoved.version hmoved.legal
        · rw [transitionsOf_concat,
            if_neg (show ¬ (recordedTransition digest current next command).rotationId =
              rotationId from fun heq => hne (heq.symm.trans hkey)), List.append_nil]
          exact hsound.path _ _ hother
      · intro step hstep
        show ∃ other, (stores.rotations.insert command.rotationId
          next)[step.rotationId]? = some other
        rw [getElem?_insert]
        split
        · exact ⟨next, rfl⟩
        · rename_i hne
          rcases List.mem_append.mp hstep with hstep | hstep
          · exact hsound.logged step hstep
          · rw [List.mem_singleton.mp hstep] at hne
            exact absurd hkey.symm hne
      · intro rotationId rotationId' other other' hother hother' hbinding hlive hlive'
        have hlegal := not_isTerminal_of_legal hmoved.legal
        rcases getElem?_insert_eq_some hother with ⟨rfl, rfl⟩ | ⟨-, hold⟩ <;>
          rcases getElem?_insert_eq_some hother' with ⟨rfl, rfl⟩ | ⟨-, hold'⟩
        · rfl
        · rw [hintent] at hbinding
          exact hsound.single _ _ _ _ hcurrent hold' hbinding hlegal hlive'
        · rw [hintent] at hbinding
          exact hsound.single _ _ _ _ hold hcurrent hbinding hlive hlegal
        · exact hsound.single _ _ _ _ hold hold' hbinding hlive hlive'

/-- Every rotation of the one table is in the other with its evidence, and untouched
once it is final. -/
def RotationsKept (stores after : RotationStores) : Prop :=
  ∀ (rotationId : String) (rotation : GatewayKeyRotation),
    stores.rotations[rotationId]? = some rotation →
    ∃ rotation' : GatewayKeyRotation, after.rotations[rotationId]? = some rotation' ∧
      EvidenceKept rotation.toGatewayKeyRotationColumns
        rotation'.toGatewayKeyRotationColumns ∧
      (rotation.status.isTerminal = true → rotation' = rotation)

theorem RotationsKept.refl (stores : RotationStores) : RotationsKept stores stores :=
  fun _ rotation h => ⟨rotation, h, .refl _, fun _ => rfl⟩

theorem RotationsKept.trans {a b c : RotationStores} (h : RotationsKept a b)
    (h' : RotationsKept b c) : RotationsKept a c := by
  intro rotationId rotation hrotation
  obtain ⟨rotation₂, hrotation₂, hkept, hfinal⟩ := h rotationId rotation hrotation
  obtain ⟨rotation₃, hrotation₃, hkept', hfinal'⟩ := h' rotationId rotation₂ hrotation₂
  refine ⟨rotation₃, hrotation₃, hkept.trans hkept', fun hterminal => ?_⟩
  have heq := hfinal hterminal
  rw [heq] at hfinal'
  exact hfinal' hterminal

theorem RotationEffect.kept (h : RotationEffect digest stores call after)
    (hsound : RotationsSound stores) : RotationsKept stores after := by
  cases h with
  | unchanged => exact .refl _
  | opened rotation hfresh =>
      intro rotationId other hother
      refine ⟨other, ?_, .refl _, fun _ => rfl⟩
      show (stores.rotations.insert rotation.rotationId rotation)[rotationId]? =
        some other
      rw [getElem?_insert, if_neg, hother]
      rintro rfl
      rw [hfresh] at hother
      cases hother
  | moved command current next hcommand hcurrent hfresh hmove =>
      intro rotationId other hother
      show ∃ rotation',
        (stores.rotations.insert command.rotationId next)[rotationId]? = _ ∧ _
      rw [getElem?_insert]
      split
      · rename_i heq
        have hmoved := transition_moved (hsound.staged _ _ hcurrent) hmove
        rw [← heq, hcurrent] at hother
        cases hother
        refine ⟨next, rfl, hmoved.kept, fun hterminal => ?_⟩
        rw [not_isTerminal_of_legal hmoved.legal] at hterminal
        cases hterminal
      · exact ⟨other, hother, .refl _, fun _ => rfl⟩

theorem rotationsSound_run (hsound : RotationsSound stores)
    (calls : List RotationCall) : RotationsSound (run (rotate digest) stores calls) :=
  run_invariant (fun _ _ _ _ hs h => (rotate_effect hs h).sound hs) hsound calls

theorem rotationsKept_run (hsound : RotationsSound stores) (calls : List RotationCall) :
    RotationsKept stores (run (rotate digest) stores calls) :=
  run_relation RotationsKept.refl (fun _ _ _ => RotationsKept.trans)
    (fun _ _ _ _ hs h => (rotate_effect hs h).sound hs)
    (fun _ _ _ _ hs h => (rotate_effect hs h).kept hs) hsound calls

/-! ## Entering a status -/

/-- A rotation goes from another status to this one. -/
def Enters (before after : RotationStores) (rotationId : String)
    (status : GatewayKeyRotationStatus)
    (rotation rotation' : GatewayKeyRotation) : Prop :=
  before.rotations[rotationId]? = some rotation ∧
    after.rotations[rotationId]? = some rotation' ∧
    rotation.status ≠ status ∧ rotation'.status = status

/-- A status is entered by a step that the command asks for. -/
theorem enters_move {answer rotation rotation' : GatewayKeyRotation}
    {rotationId : String} {status : GatewayKeyRotationStatus}
    (hsound : RotationsSound stores)
    (h : rotate digest call stores = .ok (answer, after))
    (henters : Enters stores after rotationId status rotation rotation') :
    ∃ command, call.command.step = some command ∧ command.rotationId = rotationId ∧
      command.targetStatus = status ∧
      transition rotation command call.clock = .ok rotation' := by
  obtain ⟨hbefore, hafter, hne, hstatus⟩ := henters
  cases rotate_effect hsound h with
  | unchanged =>
      rw [hbefore] at hafter
      cases hafter
      exact absurd hstatus hne
  | opened opened hfresh =>
      rcases getElem?_insert_eq_some hafter with ⟨rfl, rfl⟩ | ⟨-, hafter⟩
      · rw [hfresh] at hbefore
        cases hbefore
      · rw [hbefore] at hafter
        cases hafter
        exact absurd hstatus hne
  | moved command current next hcommand hcurrent hfresh hmove =>
      rcases getElem?_insert_eq_some hafter with ⟨rfl, rfl⟩ | ⟨-, hafter⟩
      · rw [hcurrent] at hbefore
        cases hbefore
        have hmoved := transition_moved (hsound.staged _ _ hcurrent) hmove
        exact ⟨command, hcommand, rfl, hmoved.status.symm.trans hstatus, hmove⟩
      · rw [hbefore] at hafter
        cases hafter
        exact absurd hstatus hne

end ControlPlaneKit.Rotation
