import ControlPlaneKit.Operations.Compensation
import ControlPlaneKit.Planning.OperationCodec

/-!
# CompensationLaws — compensation programs and their descriptors

Each part of a descriptor is read to a value exactly when it has the value's fields
and no others; only two comparisons are looser.  The version is compared by value, so
it may be `true`, and the operation of a step may have more fields than its kind.  An
operation that is no object is asked for a key all the same.
-/

namespace ControlPlaneKit.Operations.Compensation

open ControlPlaneKit.Library (PyDict PyError PyValue)
open ControlPlaneKit.Library.EventFold (bind_ok)
open ControlPlaneKit.Library.JsonText (reread rereadItems reread_dict_iff reread_int
  reread_list reread_str)
open ControlPlaneKit.Library.Outcome
  (ErrorsIn Succeeds mapError_eq_ok mapM_eq_ok ok_bind)
open ControlPlaneKit.Library.PyValue
  (mem_of_lookup wellKeyed wellKeyed_dict_iff wellKeyedItems_iff)
open ControlPlaneKit.Library.Text (isCanonicalIdentity)
open ControlPlaneKit.Planning
  (ActivityOperation PlanCodecError closedOperation decodeOperation
  encodeOperation getValue operationNamed)

/-! ## Primitive values -/

theorem requireContract_eq_ok {condition : Bool} {message : String} :
    requireContract condition message = .ok () ↔ condition = true := by
  unfold requireContract
  split <;> simp_all

theorem requireAccepted_eq_ok {accepts : String → Bool} {value : PyValue}
    {name : String} {text : {text : String // accepts text = true}} :
    requireAccepted accepts value name = .ok text ↔ value = .str text.1 := by
  constructor
  · intro h
    unfold requireAccepted at h
    split at h
    · split at h <;> cases h
      rfl
    · cases h
  · rintro rfl
    rw [requireAccepted, dif_pos text.2]

theorem requireInteger_eq_ok {least : Nat} {value : PyValue} {message : String}
    {n : {n : Nat // least ≤ n}} :
    requireInteger least value message = .ok n ↔ value = .int n.1 := by
  constructor
  · intro h
    unfold requireInteger at h
    split at h
    · split at h <;> cases h
      rfl
    · cases h
  · rintro rfl
    show (if h : least ≤ n.1 then _ else _) = _
    rw [dif_pos n.2]

theorem requireList_eq_ok {value : PyValue} {name : String} {items : List PyValue} :
    requireList value name = .ok items ↔ value = .list items := by
  unfold requireList
  split
  · simp
  · rename_i hlist
    exact ⟨nofun, fun h => absurd h (hlist items)⟩

theorem closedMapping_eq_ok {value : PyValue} {keys : List String} {name : String}
    {entries : PyDict} : closedMapping value keys name = .ok entries ↔
      value = .dict entries ∧ (∀ entry ∈ entries, entry.1 ∈ keys) ∧
        ∀ key ∈ keys, key ∈ entries.map (·.1) := by
  unfold closedMapping
  split
  · rename_i found
    split
    · rename_i h
      simp only [Bool.and_eq_true, List.all_eq_true, List.contains_iff_mem] at h
      constructor
      · rintro ⟨⟩
        exact ⟨rfl, h⟩
      · rintro ⟨⟨⟩, -⟩
        rfl
    · rename_i h
      simp only [Bool.and_eq_true, List.all_eq_true, List.contains_iff_mem] at h
      constructor
      · rintro ⟨⟩
      · rintro ⟨⟨⟩, hkeys⟩
        exact absurd hkeys h
  · rename_i hdict
    exact ⟨(fun h => by cases h), fun h => absurd h.1 (hdict entries)⟩

/-- A dictionary written with just these keys. -/
theorem closedMapping_of {keys : List String} {name : String} {entries : PyDict}
    (h : entries.map (·.1) = keys) :
    closedMapping (.dict entries) keys name = .ok entries := by
  subst h
  exact closedMapping_eq_ok.mpr ⟨rfl, fun entry hentry => List.mem_map_of_mem hentry,
    fun _ hkey => hkey⟩

theorem wellKeyed_getValue {value : PyDict} (h : wellKeyed (.dict value) = true)
    (key : String) : wellKeyed (getValue value key) = true := by
  rw [getValue]
  cases hlookup : value.lookup key with
  | none => rfl
  | some found => exact (wellKeyed_dict_iff.mp h).2 _ (mem_of_lookup hlookup)

/-- A closed dictionary is another, as a JSON value, when its values are. -/
theorem reread_closed {expected value : PyDict} (keys : List String) {name : String}
    (hkeys : expected.map (·.1) = keys) (hnodup : keys.Nodup)
    (hvalue : (value.map (·.1)).Nodup)
    (hclosed : closedMapping (.dict value) keys name = .ok value) :
    reread (.dict expected) (.dict value) = true ↔
      ∀ entry ∈ expected, reread entry.2 (getValue value entry.1) = true := by
  obtain ⟨-, honly, hall⟩ := closedMapping_eq_ok.mp hclosed
  have hfound : ∀ entry ∈ expected,
      value.lookup entry.1 = some (getValue value entry.1) := by
    intro entry hentry
    have hmem := hall entry.1 (hkeys ▸ List.mem_map_of_mem hentry)
    cases hlookup : value.lookup entry.1 with
    | none =>
        obtain ⟨other, hother, hkey⟩ := List.mem_map.mp hmem
        simpa [hkey] using List.lookup_eq_none_iff.mp hlookup other hother
    | some found => rw [getValue, hlookup, Option.getD_some]
  rw [reread_dict_iff (hkeys ▸ hnodup) hvalue
    fun entry hentry => ⟨_, hfound entry hentry⟩, hkeys]
  constructor
  · rintro ⟨-, h⟩ entry hentry
    obtain ⟨other, hother, hsame⟩ := h entry hentry
    rw [hfound entry hentry] at hother
    cases hother
    exact hsame
  · exact fun h => ⟨honly, fun entry hentry => ⟨_, hfound entry hentry, h entry hentry⟩⟩

/-! ## Lineage -/

section Lineage

variable {lineage : FailedRunCompensationLineage} {value : PyDict}
  {descriptor : PyValue}

/-- A lineage is read from a dictionary just when its fields stand there. -/
theorem lineageOfEntries_eq_ok :
    FailedRunCompensationLineage.ofEntries value = .ok lineage ↔
    getValue value "run_id" = .str lineage.runId ∧
    getValue value "workspace_id" = .str lineage.workspaceId ∧
    getValue value "request_id" = .str lineage.requestId ∧
    getValue value "plan_id" = .str lineage.planId ∧
    getValue value "current_graph_id" = .str lineage.currentGraphId ∧
    getValue value "desired_graph_id" = .str lineage.desiredGraphId ∧
    getValue value "desired_graph_revision" = .int lineage.desiredGraphRevision ∧
    getValue value "execution_intent_fingerprint" =
      .str lineage.executionIntentFingerprint := by
  simp only [FailedRunCompensationLineage.ofEntries, bind_ok, requireIdentifier,
    requireFingerprint, requireAccepted_eq_ok, requireInteger_eq_ok]
  constructor
  · rintro ⟨_, hrun, _, hworkspace, _, hrequest, _, hplan, _, hcurrent, _,
      hdesired, _, hrevision, _, hintent, ⟨⟩⟩
    exact ⟨hrun, hworkspace, hrequest, hplan, hcurrent, hdesired, hrevision, hintent⟩
  · rintro ⟨hrun, hworkspace, hrequest, hplan, hcurrent, hdesired, hrevision, hintent⟩
    exact ⟨⟨_, lineage.run_canonical⟩, hrun, ⟨_, lineage.workspace_valid⟩, hworkspace,
      ⟨_, lineage.request_valid⟩, hrequest, ⟨_, lineage.plan_valid⟩, hplan,
      ⟨_, lineage.current_valid⟩, hcurrent, ⟨_, lineage.desired_valid⟩, hdesired,
      ⟨_, Nat.zero_le _⟩, hrevision, ⟨_, lineage.intent_valid⟩, hintent, rfl⟩

theorem lineage_roundTrip (lineage : FailedRunCompensationLineage) :
    FailedRunCompensationLineage.fromDescriptor lineage.descriptor = .ok lineage := by
  refine bind_ok.mpr ⟨_, closedMapping_of rfl, mapError_eq_ok.mpr ?_⟩
  exact lineageOfEntries_eq_ok.mpr ⟨rfl, rfl, rfl, rfl, rfl, rfl, rfl, rfl⟩

/-- A lineage has one descriptor. -/
theorem lineage_reread (hkeyed : wellKeyed descriptor = true)
    (h : FailedRunCompensationLineage.fromDescriptor descriptor = .ok lineage) :
    reread lineage.descriptor descriptor = true := by
  obtain ⟨value, hclosed, hread⟩ := bind_ok.mp h
  obtain ⟨rfl, -⟩ := closedMapping_eq_ok.mp hclosed
  obtain ⟨hrun, hworkspace, hrequest, hplan, hcurrent, hdesired, hrevision, hintent⟩ :=
    lineageOfEntries_eq_ok.mp (mapError_eq_ok.mp hread)
  rw [FailedRunCompensationLineage.descriptor,
    reread_closed lineageKeys rfl (by decide) (wellKeyed_dict_iff.mp hkeyed).1 hclosed]
  simp [reread_str, reread_int, hrun, hworkspace, hrequest, hplan, hcurrent, hdesired,
    hrevision, hintent]

end Lineage

/-! ## Effects -/

section Effects

variable {effect : SuccessfulEffectEvidence} {identity : EffectAttemptIdentity}
  {value entries : PyDict} {descriptor : PyValue}

theorem identityOfEntries_eq_ok : identityOfEntries value = .ok identity ↔
    getValue value "run_id" = .str identity.runId ∧
    getValue value "activity_id" = .str identity.activityId ∧
    getValue value "attempt" = .int identity.attempt := by
  simp only [identityOfEntries, bind_ok, requireIdentifier, requireAccepted_eq_ok,
    requireInteger_eq_ok]
  constructor
  · rintro ⟨_, hrun, _, hactivity, _, hattempt, h⟩
    split at h <;> cases h
    exact ⟨hrun, hactivity, hattempt⟩
  · rintro ⟨hrun, hactivity, hattempt⟩
    exact ⟨⟨_, identity.run_canonical⟩, hrun,
      ⟨_, identity.activity_canonical⟩, hactivity, ⟨_, identity.bounded.1⟩, hattempt,
      dif_pos identity.bounded.2⟩

/-- An effect is read from two dictionaries just when its fields stand there. -/
theorem effectOfEntries_eq_ok :
    SuccessfulEffectEvidence.ofEntries value entries = .ok effect ↔
    identityOfEntries entries = .ok effect.attemptIdentity ∧
    getValue value "request_fingerprint" = .str effect.requestFingerprint ∧
    getValue value "outcome_fingerprint" = .str effect.outcomeFingerprint ∧
    getValue value "completion_event_id" = .str effect.completionEventId ∧
    getValue value "completion_ordinal" = .int effect.completionOrdinal := by
  simp only [SuccessfulEffectEvidence.ofEntries, bind_ok, requireIdentifier,
    requireFingerprint, requireAccepted_eq_ok, requireInteger_eq_ok]
  constructor
  · rintro ⟨_, hidentity, _, hrequest, _, houtcome, _, hevent, _, hordinal, ⟨⟩⟩
    exact ⟨hidentity, hrequest, houtcome, hevent, hordinal⟩
  · rintro ⟨hidentity, hrequest, houtcome, hevent, hordinal⟩
    exact ⟨_, hidentity, ⟨_, effect.request_valid⟩, hrequest,
      ⟨_, effect.outcome_valid⟩, houtcome, ⟨_, effect.event_valid⟩, hevent,
      ⟨_, effect.positive⟩, hordinal, rfl⟩

theorem effect_roundTrip (effect : SuccessfulEffectEvidence) :
    SuccessfulEffectEvidence.fromDescriptor effect.descriptor = .ok effect := by
  have hidentity : identityOfEntries [("run_id", .str effect.attemptIdentity.runId),
      ("activity_id", .str effect.attemptIdentity.activityId),
      ("attempt", .int effect.attemptIdentity.attempt)] = .ok effect.attemptIdentity :=
    identityOfEntries_eq_ok.mpr ⟨rfl, rfl, rfl⟩
  refine bind_ok.mpr ⟨_, closedMapping_of rfl,
    bind_ok.mpr ⟨_, closedMapping_of rfl, ?_⟩⟩
  exact mapError_eq_ok.mpr (effectOfEntries_eq_ok.mpr ⟨hidentity, rfl, rfl, rfl, rfl⟩)

/-- An effect has one descriptor. -/
theorem effect_reread (hkeyed : wellKeyed descriptor = true)
    (h : SuccessfulEffectEvidence.fromDescriptor descriptor = .ok effect) :
    reread effect.descriptor descriptor = true := by
  obtain ⟨value, hclosed, hread⟩ := bind_ok.mp h
  obtain ⟨entries, hinner, hread⟩ := bind_ok.mp hread
  obtain ⟨rfl, -⟩ := closedMapping_eq_ok.mp hclosed
  obtain ⟨hidentity, hrequest, houtcome, hevent, hordinal⟩ :=
    effectOfEntries_eq_ok.mp (mapError_eq_ok.mp hread)
  obtain ⟨hrun, hactivity, hattempt⟩ := identityOfEntries_eq_ok.mp hidentity
  obtain ⟨hkeys, hvalues⟩ := wellKeyed_dict_iff.mp hkeyed
  have hsame : reread (identityDescriptor effect.attemptIdentity)
      (getValue value "attempt_identity") = true := by
    obtain ⟨hvalue, -⟩ := closedMapping_eq_ok.mp hinner
    have hidentityKeyed := hvalues _ (mem_of_lookup (Planning.lookup_of_dict hvalue))
    rw [hvalue] at hinner ⊢
    rw [identityDescriptor,
      reread_closed identityKeys rfl (by decide)
        (wellKeyed_dict_iff.mp hidentityKeyed).1 hinner]
    simp [reread_str, reread_int, hrun, hactivity, hattempt]
  rw [SuccessfulEffectEvidence.descriptor,
    reread_closed effectKeys rfl (by decide) hkeys hclosed]
  simp [reread_str, reread_int, hsame, hrequest, houtcome, hevent, hordinal]

end Effects

/-! ## Lists -/

section Lists

variable {α : Type} {decode : PyValue → Except CompensationError α}
  {encode : α → PyValue}

theorem mapM_roundTrip {values : List α} (h : ∀ a ∈ values, decode (encode a) = .ok a) :
    (values.map encode).mapM decode = .ok values := by
  rw [mapM_eq_ok, List.forall₂_map_left_iff]
  exact List.forall₂_same.mpr h

/-- Values are the items they were read from when each of them is. -/
theorem rereadItems_iff (exact : PyValue → Bool) {items : List PyValue}
    {values : List α} (h : ∀ item ∈ items, ∀ a, decode item = .ok a →
      (reread (encode a) item = true ↔ exact item = true))
    (hread : items.mapM decode = .ok values) :
    rereadItems (values.map encode) items = true ↔ items.all exact = true := by
  rw [mapM_eq_ok] at hread
  induction hread with
  | nil => simp [rereadItems]
  | cons hitem _ ih =>
      rw [List.map_cons, rereadItems, List.all_cons, Bool.and_eq_true, Bool.and_eq_true,
        h _ (List.mem_cons_self ..) _ hitem, ih fun item hmem =>
          h item (List.mem_cons_of_mem _ hmem)]

end Lists

/-! ## Evidence -/

section Evidence

variable {evidence : FailedRunCompensationEvidence} {descriptor : PyValue}

theorem reasonOf_eq_ok {value : PyValue} {reason : FailedRunCompensationReason} :
    reasonOf value = .ok reason ↔ value = .str reason.value := by
  cases reason
  unfold reasonOf
  split
  · exact ⟨fun _ => rfl, fun _ => rfl⟩
  · rename_i hother
    exact ⟨nofun, fun h => absurd h hother⟩

theorem evidenceMake_eq_ok {lineage : FailedRunCompensationLineage}
    {reason : FailedRunCompensationReason} {source : PyValue}
    {effects : List SuccessfulEffectEvidence} :
    FailedRunCompensationEvidence.make lineage reason source effects = .ok evidence ↔
      source = .str evidence.sourceFailureFingerprint ∧ evidence.lineage = lineage ∧
        evidence.reason = reason ∧ evidence.successfulEffects = effects := by
  rw [FailedRunCompensationEvidence.make, bind_ok]
  constructor
  · rintro ⟨source, hsource, h⟩
    split at h <;> cases h
    exact ⟨requireAccepted_eq_ok.mp hsource, rfl, rfl, rfl⟩
  · rintro ⟨hsource, rfl, rfl, rfl⟩
    refine ⟨⟨_, evidence.source_valid⟩, requireAccepted_eq_ok.mpr hsource, ?_⟩
    split
    · rfl
    · rename_i e herror
      rw [evidence.effects_valid] at herror
      cases herror

theorem evidence_roundTrip (evidence : FailedRunCompensationEvidence) :
    FailedRunCompensationEvidence.fromDescriptor evidence.descriptor =
      .ok evidence := by
  refine bind_ok.mpr ⟨_, closedMapping_of rfl,
    bind_ok.mpr ⟨_, rfl, mapError_eq_ok.mpr ?_⟩⟩
  refine bind_ok.mpr ⟨_, lineage_roundTrip _,
    bind_ok.mpr ⟨_, reasonOf_eq_ok.mpr rfl, ?_⟩⟩
  refine bind_ok.mpr ⟨_, mapM_roundTrip fun effect _ => effect_roundTrip effect, ?_⟩
  exact evidenceMake_eq_ok.mpr ⟨rfl, rfl, rfl, rfl⟩

/-- Evidence has one descriptor. -/
theorem evidence_reread (hkeyed : wellKeyed descriptor = true)
    (h : FailedRunCompensationEvidence.fromDescriptor descriptor = .ok evidence) :
    reread evidence.descriptor descriptor = true := by
  obtain ⟨value, hclosed, hread⟩ := bind_ok.mp h
  obtain ⟨items, hitems, hread⟩ := bind_ok.mp hread
  obtain ⟨rfl, -⟩ := closedMapping_eq_ok.mp hclosed
  obtain ⟨lineage, hlineage, hread⟩ := bind_ok.mp (mapError_eq_ok.mp hread)
  obtain ⟨reason, hreason, hread⟩ := bind_ok.mp hread
  obtain ⟨effects, heffects, hread⟩ := bind_ok.mp hread
  obtain ⟨hsource, rfl, rfl, rfl⟩ := evidenceMake_eq_ok.mp hread
  obtain ⟨hkeys, hvalues⟩ := wellKeyed_dict_iff.mp hkeyed
  have hitems := requireList_eq_ok.mp hitems
  have hreason := reasonOf_eq_ok.mp hreason
  have hlineageSame := lineage_reread (wellKeyed_getValue hkeyed "lineage") hlineage
  have hitemsKeyed : ∀ item ∈ items, wellKeyed item = true := by
    have := wellKeyed_getValue hkeyed "successful_effects"
    rw [hitems] at this
    exact wellKeyedItems_iff.mp this
  have heffectsSame : rereadItems (evidence.successfulEffects.map
      SuccessfulEffectEvidence.descriptor) items = true :=
    (rereadItems_iff (fun _ => true) (fun item hmem _ heffect =>
      iff_of_true (effect_reread (hitemsKeyed item hmem) heffect) rfl) heffects).mpr (by
        simp)
  rw [FailedRunCompensationEvidence.descriptor,
    reread_closed evidenceKeys rfl (by decide) hkeys hclosed]
  simp [reread_str, reread_list, hlineageSame, hreason, hsource, hitems, heffectsSame]

end Evidence

/-! ## Steps -/

section Steps

variable {repr : PyValue → String} {step : FailedRunCompensationStep}
  {descriptor : PyValue}

theorem materialSourceOf_eq_ok {value : PyValue}
    {source : Planning.CompensationMaterialSource} :
    materialSourceOf value = .ok source ↔ value = .str source.value := by
  constructor
  · intro h
    unfold materialSourceOf at h
    split at h <;> cases h <;> rfl
  · rintro rfl
    cases source <;> rfl

theorem operationFromDescriptor_eq_ok {value : PyValue}
    {operation : ActivityOperation} :
    operationFromDescriptor repr value = .ok operation ↔
      ∃ entries, value = .dict entries ∧
      decodeOperation repr entries = .ok operation := by
  cases value with
  | dict entries =>
      rw [operationFromDescriptor, mapError_eq_ok]
      exact ⟨fun h => ⟨entries, rfl, h⟩, by rintro ⟨_, ⟨⟩, h⟩; exact h⟩
  | _ => exact ⟨(fun h => by cases h), by rintro ⟨_, ⟨⟩, -⟩⟩

/-- **A step is read back** exactly when the subject it reviews, if any, has a name. -/
theorem step_roundTrip_iff :
    FailedRunCompensationStep.fromDescriptor repr step.descriptor = .ok step ↔
    operationNamed step.operation = true := by
  obtain ⟨entries, hencode, hdecode, honly⟩ :=
    Planning.decodeOperation_encode repr step.operation
  constructor
  · intro h
    obtain ⟨value, hclosed, h⟩ := bind_ok.mp h
    obtain ⟨⟨⟩, -⟩ := closedMapping_eq_ok.mp hclosed
    obtain ⟨_, -, h⟩ := bind_ok.mp (mapError_eq_ok.mp h)
    obtain ⟨found, hfound, -⟩ := bind_ok.mp h
    obtain ⟨others, hothers, hfound⟩ := operationFromDescriptor_eq_ok.mp hfound
    have hothers : encodeOperation step.operation = .dict others := hothers
    rw [hencode] at hothers
    cases hothers
    exact honly found hfound
  · intro hnamed
    refine bind_ok.mpr ⟨_, closedMapping_of rfl, mapError_eq_ok.mpr ?_⟩
    refine bind_ok.mpr ⟨_, effect_roundTrip step.sourceEffect, ?_⟩
    refine bind_ok.mpr
      ⟨_, operationFromDescriptor_eq_ok.mpr ⟨_, hencode, hdecode hnamed⟩, ?_⟩
    refine bind_ok.mpr ⟨_, materialSourceOf_eq_ok.mpr rfl, ?_⟩
    exact bind_ok.mpr ⟨⟨_, step.positive⟩, requireInteger_eq_ok.mpr rfl, rfl⟩

/-- No field of the step's operation is beyond its kind. -/
def exactStep : PyValue → Bool
  | .dict fields =>
      match getValue fields "operation" with
      | .dict operation => closedOperation operation
      | _ => true
  | _ => true

/-- **A step** is what it was read from when its operation has no other field. -/
theorem step_reread (hkeyed : wellKeyed descriptor = true)
    (h : FailedRunCompensationStep.fromDescriptor repr descriptor = .ok step) :
    reread step.descriptor descriptor = true ↔ exactStep descriptor = true := by
  obtain ⟨value, hclosed, hread⟩ := bind_ok.mp h
  obtain ⟨rfl, -⟩ := closedMapping_eq_ok.mp hclosed
  obtain ⟨effect, heffect, hread⟩ := bind_ok.mp (mapError_eq_ok.mp hread)
  obtain ⟨operation, hoperation, hread⟩ := bind_ok.mp hread
  obtain ⟨source, hsource, hread⟩ := bind_ok.mp hread
  obtain ⟨position, hposition, hread⟩ := bind_ok.mp hread
  cases hread
  obtain ⟨entries, hentries, hoperation⟩ := operationFromDescriptor_eq_ok.mp hoperation
  have heffectSame := effect_reread (wellKeyed_getValue hkeyed "source_effect") heffect
  have hoperationSame := Planning.operation_reread
    (hentries ▸ wellKeyed_getValue hkeyed "operation") hoperation
  have hsource := materialSourceOf_eq_ok.mp hsource
  have hposition := requireInteger_eq_ok.mp hposition
  rw [FailedRunCompensationStep.descriptor,
    reread_closed stepKeys rfl (by decide)
      (wellKeyed_dict_iff.mp hkeyed).1 hclosed, exactStep]
  simp [reread_str, reread_int, heffectSame, hentries, hoperationSame,
    hsource, hposition]

end Steps

/-! ## Programs -/

section Programs

variable {repr : PyValue → String} {program : FailedRunCompensationProgram}
  {descriptor : PyValue}

theorem programMake_eq_ok {programId : PyValue}
    {evidence : FailedRunCompensationEvidence}
    {steps : List FailedRunCompensationStep} :
    FailedRunCompensationProgram.make programId evidence steps = .ok program ↔
      programId = .str program.programId ∧ program.evidence = evidence ∧
      program.steps = steps := by
  rw [FailedRunCompensationProgram.make, bind_ok]
  constructor
  · rintro ⟨programId, hprogram, h⟩
    split at h <;> cases h
    exact ⟨requireAccepted_eq_ok.mp hprogram, rfl, rfl⟩
  · rintro ⟨hprogram, rfl, rfl⟩
    refine ⟨⟨_, program.program_valid⟩, requireAccepted_eq_ok.mpr hprogram, ?_⟩
    split
    · rfl
    · rename_i e herror
      rw [program.steps_valid] at herror
      cases herror

/-- Every subject a step reviews has a name. -/
def StepsNamed (program : FailedRunCompensationProgram) : Prop :=
  ∀ step ∈ program.steps, operationNamed step.operation = true

/-- The descriptor of a program, with some version. -/
def versioned (program : FailedRunCompensationProgram) (version : PyValue) : PyValue :=
  .dict [
    ("schema", .str failedRunCompensationSchema),
    ("version", version),
    ("program_id", .str program.programId),
    ("evidence", program.evidence.descriptor),
    ("steps", .list (program.steps.map FailedRunCompensationStep.descriptor))]

/-- Any version that is equal to the one there is will do. -/
theorem versioned_read (repr : PyValue → String) {version : PyValue}
    (hversion : PyValue.pyEq version (.int failedRunCompensationVersion) = true)
    (hnamed : StepsNamed program) :
    FailedRunCompensationProgram.fromDescriptor repr (versioned program version) =
      .ok program := by
  have hchecked : (PyValue.pyEq (.str failedRunCompensationSchema)
      (.str failedRunCompensationSchema) &&
      PyValue.pyEq version (.int failedRunCompensationVersion)) = true := by
    rw [hversion, Bool.and_true]
    decide
  refine bind_ok.mpr ⟨_, closedMapping_of rfl,
    bind_ok.mpr ⟨(), requireContract_eq_ok.mpr hchecked, ?_⟩⟩
  refine bind_ok.mpr ⟨_, rfl, mapError_eq_ok.mpr ?_⟩
  refine bind_ok.mpr ⟨_, evidence_roundTrip _, ?_⟩
  refine bind_ok.mpr
    ⟨_, mapM_roundTrip fun step hstep => step_roundTrip_iff.mpr (hnamed step hstep), ?_⟩
  exact programMake_eq_ok.mpr ⟨rfl, rfl, rfl⟩

/-- **A program is read back** exactly when the subjects its steps review have names. -/
theorem program_roundTrip_iff :
    FailedRunCompensationProgram.fromDescriptor repr program.descriptor = .ok program ↔
      StepsNamed program := by
  constructor
  · intro h step hstep
    obtain ⟨value, hclosed, h⟩ := bind_ok.mp h
    obtain ⟨⟨⟩, -⟩ := closedMapping_eq_ok.mp hclosed
    obtain ⟨_, -, h⟩ := bind_ok.mp h
    obtain ⟨items, hitems, h⟩ := bind_ok.mp h
    obtain ⟨_, -, h⟩ := bind_ok.mp (mapError_eq_ok.mp h)
    obtain ⟨steps, hsteps, h⟩ := bind_ok.mp h
    obtain ⟨-, -, rfl⟩ := programMake_eq_ok.mp h
    cases requireList_eq_ok.mp hitems
    rw [mapM_eq_ok, List.forall₂_map_left_iff] at hsteps
    exact step_roundTrip_iff.mp (List.forall₂_same.mp hsteps step hstep)
  · intro hnamed
    exact versioned_read repr (by decide) hnamed

/-- Only a text is equal to a text. -/
theorem eq_str_of_pyEq {value : PyValue} {text : String}
    (h : PyValue.pyEq value (.str text) = true) : value = .str text := by
  cases value <;> simp [PyValue.pyEq, PyValue.number] at h
  rw [h]

/-- `type(value) is int`. -/
def isInteger : PyValue → Bool
  | .int _ => true
  | _ => false

/-- Of the values that are equal to an integer only the integer is written as it is. -/
theorem reread_version_iff {value : PyValue} {n : Int}
    (h : PyValue.pyEq value (.int n) = true) :
    reread (.int n) value = true ↔ isInteger value = true := by
  cases value with
  | int m =>
      rw [PyValue.pyEq] at h
      have hnumber : m = n := eq_of_beq (show (m == n) = true from h)
      simp [reread_int, hnumber, isInteger]
  | _ => simp [reread_int, isInteger]

/-- The version is an integer, and no operation has a field beyond its kind. -/
def isExact : PyValue → Bool
  | .dict value =>
      isInteger (getValue value "version") &&
        match getValue value "steps" with
        | .list steps => steps.all exactStep
        | _ => true
  | _ => true

/-- **A program** is what it was read from exactly when the version was an integer and
no operation had a field beyond its kind. -/
theorem program_reread (hkeyed : wellKeyed descriptor = true)
    (h : FailedRunCompensationProgram.fromDescriptor repr descriptor = .ok program) :
    reread program.descriptor descriptor = true ↔ isExact descriptor = true := by
  obtain ⟨value, hclosed, hread⟩ := bind_ok.mp h
  obtain ⟨_, hversion, hread⟩ := bind_ok.mp hread
  obtain ⟨items, hitems, hread⟩ := bind_ok.mp hread
  obtain ⟨rfl, -⟩ := closedMapping_eq_ok.mp hclosed
  obtain ⟨evidence, hevidence, hread⟩ := bind_ok.mp (mapError_eq_ok.mp hread)
  obtain ⟨steps, hsteps, hread⟩ := bind_ok.mp hread
  obtain ⟨hprogram, rfl, rfl⟩ := programMake_eq_ok.mp hread
  rw [requireContract_eq_ok, Bool.and_eq_true] at hversion
  have hitems := requireList_eq_ok.mp hitems
  have hitemsKeyed : ∀ item ∈ items, wellKeyed item = true := by
    have := wellKeyed_getValue hkeyed "steps"
    rw [hitems] at this
    exact wellKeyedItems_iff.mp this
  have hevidenceSame := evidence_reread (wellKeyed_getValue hkeyed "evidence") hevidence
  have hstepsSame := rereadItems_iff exactStep
    (fun item hmem step hstep => step_reread (hitemsKeyed item hmem) hstep) hsteps
  have hschema := eq_str_of_pyEq hversion.1
  have hversionSame := reread_version_iff hversion.2
  rw [FailedRunCompensationProgram.descriptor, reread_closed
    FailedRunCompensationProgram.programKeys rfl (by decide)
    (wellKeyed_dict_iff.mp hkeyed).1 hclosed,
    isExact]
  simp [reread_str, reread_list, hevidenceSame, hschema, hprogram, hitems,
    hversionSame, hstepsSame]

end Programs

/-! ## Errors -/

/-- `isinstance(error, InvalidFailedRunCompensationContract)`. -/
def CompensationError.IsContract : CompensationError → Prop
  | .invalidContract _ => True
  | .uncaught _ => False

section Errors

variable {repr : PyValue → String} {α : Type}

theorem requireContract_errors {condition : Bool} {message : String} :
    ErrorsIn CompensationError.IsContract (requireContract condition message) := by
  unfold requireContract
  split
  · exact .ok ()
  · exact .error trivial

theorem closedMapping_errors {value : PyValue} {keys : List String} {name : String} :
    ErrorsIn CompensationError.IsContract (closedMapping value keys name) := by
  unfold closedMapping
  split
  · split
    · exact .ok _
    · exact .error trivial
  · exact .error trivial

theorem requireAccepted_errors {accepts : String → Bool} {value : PyValue}
    {name : String} :
    ErrorsIn CompensationError.IsContract (requireAccepted accepts value name) := by
  unfold requireAccepted
  split
  · split
    · exact .ok _
    · exact .error trivial
  · exact .error trivial

theorem requireInteger_errors {least : Nat} {value : PyValue} {message : String} :
    ErrorsIn CompensationError.IsContract (requireInteger least value message) := by
  unfold requireInteger
  split
  · split
    · exact .ok _
    · exact .error trivial
  · exact .error trivial

theorem requireList_errors {value : PyValue} {name : String} :
    ErrorsIn CompensationError.IsContract (requireList value name) := by
  unfold requireList
  split
  · exact .ok _
  · exact .error trivial

/-- What is caught was an error of the contract just when it is one afterwards. -/
theorem caughtAs_errors_iff {message : String} {x : Except CompensationError α} :
    ErrorsIn CompensationError.IsContract (caughtAs message x) ↔
      ErrorsIn CompensationError.IsContract x := by
  cases x with
  | ok a => exact iff_of_true (.ok a) (.ok a)
  | error e =>
      cases e with
      | invalidContract found => exact iff_of_true (.error trivial) (.error trivial)
      | uncaught found => exact iff_of_false (fun h => h _ rfl) (fun h => h _ rfl)

theorem lineage_errors (descriptor : PyValue) :
    ErrorsIn CompensationError.IsContract
      (FailedRunCompensationLineage.fromDescriptor descriptor) :=
  .bind closedMapping_errors fun _ _ => caughtAs_errors_iff.mpr <|
    .bind requireAccepted_errors fun _ _ => .bind requireAccepted_errors fun _ _ =>
    .bind requireAccepted_errors fun _ _ => .bind requireAccepted_errors fun _ _ =>
    .bind requireAccepted_errors fun _ _ => .bind requireAccepted_errors fun _ _ =>
    .bind requireInteger_errors fun _ _ => .bind requireAccepted_errors fun _ _ =>
    .ok _

theorem identity_errors (identity : PyDict) :
    ErrorsIn CompensationError.IsContract (identityOfEntries identity) := by
  refine .bind requireAccepted_errors fun _ _ =>
    .bind requireAccepted_errors fun _ _ =>
    .bind requireInteger_errors fun attempt _ => ?_
  split
  · exact .ok _
  · exact .error trivial

theorem effect_errors (descriptor : PyValue) :
    ErrorsIn CompensationError.IsContract
      (SuccessfulEffectEvidence.fromDescriptor descriptor) :=
  .bind closedMapping_errors fun _ _ => .bind closedMapping_errors fun _ _ =>
    caughtAs_errors_iff.mpr <| .bind (identity_errors _) fun _ _ =>
    .bind requireAccepted_errors fun _ _ => .bind requireAccepted_errors fun _ _ =>
    .bind requireAccepted_errors fun _ _ => .bind requireInteger_errors fun _ _ => .ok _

theorem checkEffects_errors (runId : String) (effects : List SuccessfulEffectEvidence) :
    ErrorsIn CompensationError.IsContract (checkEffects runId effects) :=
  .bind requireContract_errors fun _ _ => .bind requireContract_errors fun _ _ =>
    .bind requireContract_errors fun _ _ => requireContract_errors

theorem evidence_errors (descriptor : PyValue) :
    ErrorsIn CompensationError.IsContract
      (FailedRunCompensationEvidence.fromDescriptor descriptor) := by
  refine .bind closedMapping_errors fun _ _ => .bind requireList_errors fun _ _ =>
    caughtAs_errors_iff.mpr <| .bind (lineage_errors _) fun lineage _ =>
        .bind ?_ fun reason _ =>
    .bind (.mapM fun effect _ => effect_errors effect) fun effects _ =>
    .bind requireAccepted_errors fun _ _ => ?_
  · unfold reasonOf
    split
    · exact .ok _
    · exact .error trivial
  · split
    · exact .ok _
    · rename_i error herror
      exact .error (checkEffects_errors _ _ _ herror)

/-- Only an operation that is no object is asked for a key it cannot have. -/
theorem operation_errors_iff {value : PyValue} :
    ErrorsIn CompensationError.IsContract (operationFromDescriptor repr value) ↔
      ∃ entries, value = .dict entries := by
  cases value with
  | dict entries =>
      refine iff_of_true ?_ ⟨entries, rfl⟩
      rw [operationFromDescriptor]
      intro error herror
      obtain ⟨found, hfound, rfl⟩ := Library.Outcome.mapError_eq_error.mp herror
      have hvalue := Planning.decodeOperation_errors found hfound
      cases found with
      | runtimeError message => exact hvalue.elim
      | _ => trivial
  | _ => exact iff_of_false (fun h => h _ rfl) (by rintro ⟨_, ⟨⟩⟩)

/-- The step is read as far as its operation, which is no object. -/
def AsksNoObject (descriptor : PyValue) : Prop :=
  ∃ fields, closedMapping descriptor stepKeys "step" = .ok fields ∧
    Succeeds (SuccessfulEffectEvidence.fromDescriptor
      (getValue fields "source_effect")) ∧
    ∀ entries, getValue fields "operation" ≠ .dict entries

theorem step_errors_iff {descriptor : PyValue} :
    ErrorsIn CompensationError.IsContract
      (FailedRunCompensationStep.fromDescriptor repr descriptor) ↔
        ¬ AsksNoObject descriptor := by
  have hsource : ∀ value,
      ErrorsIn CompensationError.IsContract (materialSourceOf value) := by
    intro value
    unfold materialSourceOf
    split
    · exact .ok _
    · exact .ok _
    · exact .error trivial
  rw [FailedRunCompensationStep.fromDescriptor, ErrorsIn.bind_iff]
  constructor
  · rintro ⟨-, h⟩ ⟨fields, hclosed, ⟨effect, heffect⟩, hoperation⟩
    have h := (ErrorsIn.bind_iff.mp (caughtAs_errors_iff.mp (h fields hclosed))).2
      effect heffect
    obtain ⟨entries, hentries⟩ := operation_errors_iff.mp (ErrorsIn.bind_iff.mp h).1
    exact hoperation entries hentries
  · intro h
    refine ⟨closedMapping_errors, fun fields hclosed => caughtAs_errors_iff.mpr ?_⟩
    refine .bind (effect_errors _) fun effect heffect => ?_
    refine .bind (operation_errors_iff.mpr ?_) fun _ _ => .bind (hsource _) fun _ _ =>
      .bind requireInteger_errors fun _ _ => .ok _
    by_contra hnone
    exact h ⟨fields, hclosed, ⟨effect, heffect⟩, fun entries hentries =>
      hnone ⟨entries, hentries⟩⟩

/-- The program is read as far as a step whose operation is no object: the steps before
it can be read. -/
def ReachesNoObject (repr : PyValue → String) (descriptor : PyValue) : Prop :=
  ∃ value before step after,
    closedMapping descriptor FailedRunCompensationProgram.programKeys "program" =
      .ok value ∧
    PyValue.pyEq (getValue value "schema") (.str failedRunCompensationSchema) = true ∧
    PyValue.pyEq (getValue value "version") (.int failedRunCompensationVersion) = true ∧
    getValue value "steps" = .list (before ++ step :: after) ∧
    Succeeds (FailedRunCompensationEvidence.fromDescriptor
      (getValue value "evidence")) ∧
    (∀ other ∈ before, Succeeds (FailedRunCompensationStep.fromDescriptor repr other)) ∧
    AsksNoObject step

/-- **What reading a program raises**: the error of the contract, but for an operation
that is no object. -/
theorem program_errors_iff {descriptor : PyValue} :
    ErrorsIn CompensationError.IsContract
      (FailedRunCompensationProgram.fromDescriptor repr descriptor) ↔
      ¬ ReachesNoObject repr descriptor := by
  rw [FailedRunCompensationProgram.fromDescriptor, ErrorsIn.bind_iff]
  constructor
  · rintro ⟨-, h⟩ ⟨value, before, step, after, hclosed, hschema, hversion,
      hsteps, ⟨evidence, hevidence⟩, hbefore, hstep⟩
    have h := (ErrorsIn.bind_iff.mp (h value hclosed)).2 ()
      (requireContract_eq_ok.mpr (by rw [hschema, hversion]; rfl))
    have h := (ErrorsIn.bind_iff.mp h).2 _ (requireList_eq_ok.mpr hsteps)
    have h := (ErrorsIn.bind_iff.mp (caughtAs_errors_iff.mp h)).2 evidence hevidence
    have h :=
      ErrorsIn.mapM_iff.mp (ErrorsIn.bind_iff.mp h).1 before step after rfl hbefore
    exact step_errors_iff.mp h hstep
  · intro h
    refine ⟨closedMapping_errors, fun value hclosed => ?_⟩
    refine .bind requireContract_errors fun _ hversion => ?_
    refine .bind requireList_errors fun steps hsteps => caughtAs_errors_iff.mpr ?_
    rw [requireContract_eq_ok, Bool.and_eq_true] at hversion
    refine .bind (evidence_errors _) fun evidence hevidence =>
      .bind ?_ fun found _ => ?_
    · refine ErrorsIn.mapM_iff.mpr fun before step after heq hbefore =>
        step_errors_iff.mpr ?_
      intro hstep
      exact h ⟨value, before, step, after, hclosed, hversion.1, hversion.2,
        heq ▸ requireList_eq_ok.mp hsteps, ⟨evidence, hevidence⟩, hbefore, hstep⟩
    · refine .bind requireAccepted_errors fun _ _ => ?_
      split
      · exact .ok _
      · rename_i error herror
        have hcheck : ErrorsIn CompensationError.IsContract
            (checkSteps evidence found) :=
          .bind requireContract_errors fun _ _ =>
              .bind requireContract_errors fun _ _ =>
            requireContract_errors
        exact .error (hcheck _ herror)

end Errors

/-! ## The codec -/

/-- **The codec of compensation programs.**  A program is read back from its descriptor,
with its fingerprint, exactly when the subjects its steps review have names.  A
descriptor that is read to a program is, as a JSON value, the program's own exactly when
its version is an integer and no operation has a field beyond its kind.  Every other
value raises the error of the contract, exactly when no step is reached whose operation
is no object. -/
theorem codec_exact_iff (repr : PyValue → String) :
    (∀ program : FailedRunCompensationProgram,
      (∃ found, FailedRunCompensationProgram.fromDescriptor repr program.descriptor =
        .ok found ∧
        found = program ∧ found.fingerprint = program.fingerprint) ↔
          StepsNamed program) ∧
    (∀ descriptor program, wellKeyed descriptor = true →
      FailedRunCompensationProgram.fromDescriptor repr descriptor = .ok program →
        (reread program.descriptor descriptor = true ↔ isExact descriptor = true)) ∧
    ∀ descriptor,
      (∀ error, FailedRunCompensationProgram.fromDescriptor repr descriptor =
        .error error →
        error.IsContract) ↔ ¬ ReachesNoObject repr descriptor := by
  refine ⟨fun program => ⟨?_, fun h => ?_⟩, fun _ _ hkeyed h => program_reread hkeyed h,
    fun _ => program_errors_iff⟩
  · rintro ⟨found, hfound, rfl, -⟩
    exact program_roundTrip_iff.mp hfound
  · exact ⟨program, program_roundTrip_iff.mpr h, rfl, rfl⟩

/-! ## A program read from other descriptors -/

/-- A fingerprint of zeros. -/
def zeros : String := String.ofList (List.replicate 64 '0')

theorem fingerprint_zeros : isSha256Fingerprint zeros = true := by decide

def sampleLineage : FailedRunCompensationLineage where
  workspaceId := "w"
  requestId := "q"
  runId := "r"
  planId := "p"
  currentGraphId := "c"
  desiredGraphId := "d"
  desiredGraphRevision := 1
  executionIntentFingerprint := zeros
  workspace_valid := by decide
  request_valid := by decide
  run_canonical := by decide
  plan_valid := by decide
  current_valid := by decide
  desired_valid := by decide
  intent_valid := fingerprint_zeros

theorem sampleEffect_run : isCanonicalIdentity "r" = true := by decide

theorem sampleEffect_activity : isCanonicalIdentity "a" = true := by decide

theorem sampleEffect_attempt : 1 ≤ 1 ∧ 1 ≤ maxEffectAttempt := by decide

theorem sampleEffect_event : isCanonicalIdentity "e" = true := by decide

def sampleEffect : SuccessfulEffectEvidence where
  attemptIdentity :=
    ⟨"r", "a", 1, sampleEffect_run, sampleEffect_activity, sampleEffect_attempt⟩
  requestFingerprint := zeros
  outcomeFingerprint := zeros
  completionEventId := "e"
  completionOrdinal := 1
  request_valid := fingerprint_zeros
  outcome_valid := fingerprint_zeros
  event_valid := sampleEffect_event
  positive := Nat.one_pos

def sampleEvidence : FailedRunCompensationEvidence where
  lineage := sampleLineage
  reason := .postEffectFailure
  sourceFailureFingerprint := zeros
  successfulEffects := [sampleEffect]
  source_valid := fingerprint_zeros
  effects_valid := by decide

def sampleStep (operation : ActivityOperation) : FailedRunCompensationStep where
  position := 1
  sourceEffect := sampleEffect
  operation := operation
  materialSource := .desiredGraph
  positive := Nat.one_pos

theorem sampleSteps_valid (operation : ActivityOperation) :
    checkSteps sampleEvidence [sampleStep operation] = .ok () := by
  have hpositions : [sampleStep operation].map (·.position) =
      List.range' 1 [sampleStep operation].length := rfl
  have heffects : [sampleStep operation].map (·.sourceEffect) =
      sampleEvidence.successfulEffects := rfl
  simp [checkSteps, requireContract, hpositions, heffects, bind, Except.bind]

def sampleProgram (operation : ActivityOperation) : FailedRunCompensationProgram where
  programId := "g"
  evidence := sampleEvidence
  steps := [sampleStep operation]
  program_valid := by decide
  steps_valid := sampleSteps_valid operation

/-- Its one step stops a node. -/
def stopsNode : FailedRunCompensationProgram :=
  sampleProgram (.stopNode ⟨"n", by decide⟩)

theorem stopsNode_named : StepsNamed stopsNode := by
  intro step hstep
  rw [List.mem_singleton.mp hstep]
  rfl

/-- A `repr` that shows nothing. -/
def plainRepr : PyValue → String := fun _ => ""

/-- The program and its own descriptor. -/
theorem stopsNode_exact :
    FailedRunCompensationProgram.fromDescriptor plainRepr stopsNode.descriptor =
      .ok stopsNode ∧
      reread stopsNode.descriptor stopsNode.descriptor = true := by
  obtain ⟨found, hfound, rfl, -⟩ :=
    ((codec_exact_iff plainRepr).1 stopsNode).mpr stopsNode_named
  have hkeyed : wellKeyed stopsNode.descriptor = true := by decide
  exact ⟨hfound, ((codec_exact_iff plainRepr).2.1 _ _ hkeyed hfound).mpr (by decide)⟩

/-- Its one step reviews a runtime without a name. -/
def reviewsNameless : FailedRunCompensationProgram :=
  sampleProgram (.reviewChange ⟨.runtime ""⟩ .ambiguousChange)

/-- The descriptor of the program, with another operation in its step. -/
def operationDescriptor (operation : PyValue) : PyValue :=
  .dict [
    ("schema", .str failedRunCompensationSchema),
    ("version", .int failedRunCompensationVersion),
    ("program_id", .str "g"),
    ("evidence", sampleEvidence.descriptor),
    ("steps", .list [.dict [
      ("position", .int 1),
      ("source_effect", sampleEffect.descriptor),
      ("operation", operation),
      ("material_source", .str "desired-graph")]])]

/-- The version `true` is read to a program that is written with the version 1, an
operation that is null raises no error of the contract, and a program that reviews a
runtime without a name is not read back. -/
theorem codec_inexact :
    (wellKeyed (versioned stopsNode (.bool true)) = true ∧
      FailedRunCompensationProgram.fromDescriptor plainRepr
        (versioned stopsNode (.bool true)) =
        .ok stopsNode ∧
      reread stopsNode.descriptor (versioned stopsNode (.bool true)) = false) ∧
    (∃ message, FailedRunCompensationProgram.fromDescriptor plainRepr
      (operationDescriptor .none) = .error (.uncaught message)) ∧
    FailedRunCompensationProgram.fromDescriptor plainRepr reviewsNameless.descriptor ≠
      .ok reviewsNameless := by
  have hkeyed : wellKeyed (versioned stopsNode (.bool true)) = true := by decide
  have hread : FailedRunCompensationProgram.fromDescriptor plainRepr
      (versioned stopsNode (.bool true)) = .ok stopsNode :=
    versioned_read plainRepr (by decide) stopsNode_named
  refine ⟨⟨hkeyed, hread, ?_⟩, ?_, ?_⟩
  · rw [Bool.eq_false_iff, ne_eq, program_reread hkeyed hread]
    exact Bool.false_ne_true
  · have hreaches : ReachesNoObject plainRepr (operationDescriptor .none) :=
      ⟨_, [], _, [], closedMapping_of rfl, by decide, by decide, rfl,
        ⟨_, evidence_roundTrip _⟩,
        fun other hother => (by cases hother), _,
        closedMapping_of rfl, ⟨_, effect_roundTrip _⟩,
        fun entries hentries => by cases hentries⟩
    by_contra hnone
    refine program_errors_iff.mp (fun error herror => ?_) hreaches
    cases error with
    | invalidContract message => trivial
    | uncaught message => exact hnone ⟨message, herror⟩
  · intro h
    exact absurd (program_roundTrip_iff.mp h _ (List.mem_singleton_self _)) (by decide)

end ControlPlaneKit.Operations.Compensation
