import ControlPlaneKit.Library.PyJson
import ControlPlaneKit.Planning.Compiler
import ControlPlaneKit.Planning.PlanCodec
import ControlPlaneKit.Planning.PlanConditions

/-!
# PlanCodecLaws — plans and their canonical descriptors

Reading back what was written gives the plan again, as long as the subjects under
review have names; and writing back what was read gives the descriptor again, as
JSON.  So a descriptor is accepted in one form only: the canonical one.
-/

namespace ControlPlaneKit.Planning

open ControlPlaneKit.Library
open ControlPlaneKit.Library.EventFold (bind_ok)
open ControlPlaneKit.Library.Outcome (collect ok_bind)
open ControlPlaneKit.Library.PyValue (textual wellKeyed)
open ControlPlaneKit.Library.Text (isBlank isBlank_of_canonical)
open ControlPlaneKit.Topology (DiffOwner DiffSubject StructuralField)

/-! ## Named subjects -/

/-- Whether an owner has a name, where it needs one. -/
def ownerNamed : DiffOwner → Bool
  | .graph => true
  | .runtime runtimeId => !isBlank runtimeId
  | .node nodeId => !isBlank nodeId
  | .publicIngress ingressId => !isBlank ingressId

def subjectNamed : DiffSubject → Bool
  | .graph => true
  | .runtime runtimeId => !isBlank runtimeId
  | .node nodeId => !isBlank nodeId
  | .edge edgeId => !isBlank edgeId
  | .publicIngress ingressId => !isBlank ingressId
  | .field owner _ _ => ownerNamed owner

def operationNamed : ActivityOperation → Bool
  | .reviewChange target _ => subjectNamed target.subject
  | _ => true

/-- **Every subject under review has a name.** -/
def ReviewsNamed (plan : ActivityPlan) : Prop :=
  ∀ activity ∈ plan.activities, operationNamed activity.operation = true

/-! ## Reading texts -/

section Reading

variable {repr : PyValue → String} {entries : PyDict} {key text expected : String}

theorem primitiveText_of {name : String} (h : isBlank text = false) :
    primitiveText name (.str text) = .ok text := by
  simp [primitiveText, h]

theorem textAt_of (hvalue : getValue entries key = .str text)
    (h : isBlank text = false) : textAt entries key = .ok text := by
  rw [textAt, hvalue, primitiveText_of h]

theorem nonemptyAt_of (hvalue : getValue entries key = .str text)
    (h : isBlank text = false) : nonemptyAt entries key = .ok ⟨text, h⟩ := by
  simp [nonemptyAt, hvalue, h]

theorem requireKind_of (hvalue : getValue entries "kind" = .str expected)
    (h : isBlank expected = false) : requireKind repr entries expected = .ok () := by
  simp [requireKind, textAt_of hvalue h, requirePlan, bind, Except.bind]

theorem memberAt_of {α : Type} {members : List α} {value : α → String}
    {className : String} {member : α}
    (hfind : members.find? (fun other => value other = value member) = some member)
    (hvalue : getValue entries key = .str (value member))
    (h : isBlank (value member) = false) :
    memberAt repr members value className entries key = .ok member := by
  simp [memberAt, asUnknown, textAt_of hvalue h, memberOf, hfind, bind, Except.bind,
    Except.mapError]

end Reading

/-! ## Targets -/

section Targets

variable (repr : PyValue → String)

/-- What was written of a target with one name is read back. -/
theorem decodeNamedTarget_encode {α : Type} {kind key text : String}
    (make : ∀ text : String, isBlank text = false → α) (hkind : isBlank kind = false)
    (hkey : key ≠ "kind") (h : isBlank text = false) :
    decodeNamedTarget repr kind key make
      [("kind", .str kind), (key, .str text)] = .ok (make text h) := by
  have hvalue : getValue [("kind", .str kind), (key, .str text)] key = .str text := by
    rw [getValue, List.lookup_cons, beq_false_of_ne hkey, List.lookup_cons,
      beq_self_eq_true]
    rfl
  have hrequired :=
    @requireKind_of repr [("kind", .str kind), (key, .str text)] kind rfl hkind
  rw [decodeNamedTarget, hrequired, ok_bind, nonemptyAt_of hvalue h]
  rfl

theorem decodeDataResourceTarget_encode (target : DataResourceTarget) :
    decodeDataResourceTarget repr
      [ ("kind", .str "data-resource"), ("node_id", .str target.nodeId)
      , ("resource_id", .str target.resourceId) ] = .ok target := by
  have hkind := @requireKind_of repr
    [ ("kind", .str "data-resource"), ("node_id", .str target.nodeId)
    , ("resource_id", .str target.resourceId) ] "data-resource" rfl (by decide)
  have hnode := @nonemptyAt_of
    [ ("kind", .str "data-resource"), ("node_id", .str target.nodeId)
    , ("resource_id", .str target.resourceId) ] "node_id" _ rfl target.nonempty.1
  have hresource := @nonemptyAt_of
    [ ("kind", .str "data-resource"), ("node_id", .str target.nodeId)
    , ("resource_id", .str target.resourceId) ] "resource_id" _ rfl target.nonempty.2
  rw [decodeDataResourceTarget, hkind]
  show (nonemptyAt _ _ >>= _) = _
  rw [hnode]
  show (nonemptyAt _ _ >>= _) = _
  rw [hresource]
  rfl

/-! ## Subjects -/

def ownerSubject : DiffOwner → DiffSubject
  | .graph => .graph
  | .runtime runtimeId => .runtime runtimeId
  | .node nodeId => .node nodeId
  | .publicIngress ingressId => .publicIngress ingressId

/-- A subject known by one text is read back exactly when the text is not blank. -/
theorem map_textAt_iff {entries : PyDict} {key text : String} {f : String → DiffSubject}
    (hvalue : getValue entries key = .str text) :
    ((textAt entries key).map f = .ok (f text) ↔ isBlank text = false) ∧
      ∀ subject, (textAt entries key).map f = .ok subject → isBlank text = false := by
  cases hblank : isBlank text with
  | true => simp [textAt, hvalue, primitiveText, hblank, Except.map]
  | false => simp [textAt_of hvalue hblank, Except.map]

theorem decodeSubject_owner (name : String) (owner : DiffOwner) :
    (decodeSubject repr name owner.descriptor = .ok (ownerSubject owner) ↔
      ownerNamed owner = true) ∧
    ∀ subject, decodeSubject repr name owner.descriptor = .ok subject →
      ownerNamed owner = true := by
  cases owner with
  | graph => exact ⟨⟨fun _ => rfl, fun _ => rfl⟩, fun _ _ => rfl⟩
  | runtime runtimeId =>
      rw [ownerNamed, Bool.not_eq_true']
      exact @map_textAt_iff [("kind", .str "runtime"), ("runtime_id", .str runtimeId)]
        "runtime_id" _ .runtime rfl
  | node nodeId =>
      rw [ownerNamed, Bool.not_eq_true']
      exact @map_textAt_iff [("kind", .str "node"), ("node_id", .str nodeId)]
        "node_id" _ .node rfl
  | publicIngress ingressId =>
      rw [ownerNamed, Bool.not_eq_true']
      exact @map_textAt_iff [("kind", .str "public-ingress"),
        ("ingress_id", .str ingressId)] "ingress_id" _ .publicIngress rfl

/-- The entry of a key that a field subject has. -/
def keyEntry : Option String → PyDict
  | none => []
  | some key => [("key", .str key)]

theorem field_descriptor (owner : DiffOwner) (structuralField : StructuralField)
    (key : Option String) : (DiffSubject.field owner structuralField key).descriptor =
      .dict ([("owner", owner.descriptor), ("field", .str structuralField.value)] ++
        keyEntry key) := by
  cases key <;> rfl

theorem decodeSubject_field (name : String) (owner : DiffOwner)
    (structuralField : StructuralField) (key : Option String) :
    decodeSubject repr name (DiffSubject.field owner structuralField key).descriptor =
      (decodeSubject repr "field owner" owner.descriptor >>= ownerOf).map fun owner =>
        .field owner structuralField key := by
  have hfield : memberAt repr structuralFields StructuralField.value "StructuralField"
      ([("owner", owner.descriptor), ("field", .str structuralField.value)] ++
        keyEntry key)
      "field" = .ok structuralField :=
    memberAt_of (by cases structuralField <;> rfl) rfl
      (by cases structuralField <;> decide)
  have hkey : fieldKeyOf (getValue
      ([("owner", owner.descriptor), ("field", .str structuralField.value)] ++
        keyEntry key)
      "key") = .ok key := by
    cases key <;> rfl
  have hkind : getValue
      ([("owner", owner.descriptor), ("field", .str structuralField.value)] ++
        keyEntry key)
      "kind" = .none := by
    cases key <;> rfl
  rw [field_descriptor, decodeSubject]
  simp only [subjectOf, hkind, hfield, hkey]
  rw [if_pos (by simp)]
  show ((decodeSubject repr "field owner" owner.descriptor >>= ownerOf) >>= _) = _
  cases decodeSubject repr "field owner" owner.descriptor >>= ownerOf <;> rfl

/-- **Subjects** are read back exactly when they have a name. -/
theorem decodeSubject_descriptor (name : String) (subject : DiffSubject) :
    (decodeSubject repr name subject.descriptor = .ok subject ↔
      subjectNamed subject = true) ∧
    ∀ found, decodeSubject repr name subject.descriptor = .ok found →
      subjectNamed subject = true := by
  cases subject with
  | graph => exact decodeSubject_owner repr name .graph
  | runtime runtimeId => exact decodeSubject_owner repr name (.runtime runtimeId)
  | node nodeId => exact decodeSubject_owner repr name (.node nodeId)
  | publicIngress ingressId =>
      exact decodeSubject_owner repr name (.publicIngress ingressId)
  | edge edgeId =>
      rw [subjectNamed, Bool.not_eq_true']
      exact @map_textAt_iff [("kind", .str "edge"), ("edge_id", .str edgeId)]
        "edge_id" _ .edge rfl
  | field owner structuralField key =>
      obtain ⟨hiff, honly⟩ := decodeSubject_owner repr "field owner" owner
      rw [decodeSubject_field]
      have hnamed : ∀ found,
            (decodeSubject repr "field owner" owner.descriptor >>= ownerOf).map
            (fun owner => DiffSubject.field owner structuralField key) = .ok found →
            ownerNamed owner = true := by
        intro found hfound
        obtain ⟨_, hbind, -⟩ := Outcome.map_eq_ok.mp hfound
        obtain ⟨subject, hsubject, -⟩ := bind_ok.mp hbind
        exact honly subject hsubject
      refine ⟨⟨hnamed _, fun h => ?_⟩, hnamed⟩
      rw [hiff.mpr h]
      cases owner <;> rfl

/-! ## Operations and compensations -/

theorem operationOf_review (entries target : PyDict) :
    operationOf repr entries target "review-change" = (do
      requireKind repr target "change"
      let reason ← memberAt repr reviewReasons ReviewReason.value "ReviewReason"
        entries "reason"
      let subject ← decodeSubject repr "change subject" (getValue target "subject")
      return .reviewChange ⟨subject⟩ reason) :=
  rfl

theorem decodeReview_encode (target : ChangeTarget) (reason : ReviewReason) :
    decodeOperation repr
      [ ("kind", .str "review-change")
      , ("target", .dict
        [("kind", .str "change"), ("subject", target.subject.descriptor)])
      , ("reason", .str reason.value) ] =
      (decodeSubject repr "change subject" target.subject.descriptor).map fun subject =>
        .reviewChange ⟨subject⟩ reason := by
  have hkind := @requireKind_of repr
    [("kind", .str "change"), ("subject", target.subject.descriptor)] "change"
    rfl (by decide)
  have hreason : memberAt repr reviewReasons ReviewReason.value "ReviewReason"
      [ ("kind", .str "review-change")
      , ("target", .dict
        [("kind", .str "change"), ("subject", target.subject.descriptor)])
      , ("reason", .str reason.value) ] "reason" = .ok reason :=
    memberAt_of (by cases reason <;> rfl) rfl (by cases reason <;> decide)
  show operationOf repr
    [ ("kind", .str "review-change")
    , ("target",
        .dict [("kind", .str "change"), ("subject", target.subject.descriptor)])
    , ("reason", .str reason.value) ]
    [("kind", .str "change"), ("subject", target.subject.descriptor)] "review-change" =
      _
  rw [operationOf_review, hkind]
  show (memberAt _ _ _ _ _ _ >>= _) = _
  rw [hreason]
  show (decodeSubject repr "change subject" target.subject.descriptor >>= _) = _
  cases decodeSubject repr "change subject" target.subject.descriptor <;> rfl

/-- **Operations** are read back exactly when their subject has a name. -/
theorem decodeOperation_encode (operation : ActivityOperation) : ∃ entries,
    encodeOperation operation = .dict entries ∧
      (operationNamed operation = true → decodeOperation repr entries = .ok operation) ∧
      ∀ found, decodeOperation repr entries = .ok found →
      operationNamed operation = true := by
  cases operation with
  | startNode target | stopNode target | removeNodeResource target
  | waitForHealthy target
  | reconcileNode target =>
      refine ⟨_, rfl, fun _ => ?_, fun _ _ => rfl⟩
      show (decodeNamedTarget repr "node" "node_id" NodeTarget.mk _).map _ = _
      rw [decodeNamedTarget_encode repr NodeTarget.mk (by decide)
        (by decide) target.nonempty]
      rfl
  | addSocketConnection target | switchSocketConnection target
  | removeSocketConnection target =>
      refine ⟨_, rfl, fun _ => ?_, fun _ _ => rfl⟩
      show (decodeNamedTarget repr "socket-connection" "edge_id"
        SocketConnectionTarget.mk _).map _ = _
      rw [decodeNamedTarget_encode repr SocketConnectionTarget.mk (by decide)
        (by decide) target.nonempty]
      rfl
  | allocatePublicIngress target | removePublicIngress target =>
      refine ⟨_, rfl, fun _ => ?_, fun _ _ => rfl⟩
      show (decodeNamedTarget repr "public-ingress" "ingress_id"
        PublicIngressActivityTarget.mk _).map _ = _
      rw [decodeNamedTarget_encode repr PublicIngressActivityTarget.mk (by decide)
        (by decide) target.nonempty]
      rfl
  | reconcileRuntime target | startRuntime target | stopRuntime target
  | removeRuntimeResource target =>
      refine ⟨_, rfl, fun _ => ?_, fun _ _ => rfl⟩
      show (decodeNamedTarget repr "runtime" "runtime_id" RuntimeTarget.mk _).map _ = _
      rw [decodeNamedTarget_encode repr RuntimeTarget.mk (by decide)
        (by decide) target.nonempty]
      rfl
  | destroyDataResource target =>
      refine ⟨_, rfl, fun _ => ?_, fun _ _ => rfl⟩
      show (decodeDataResourceTarget repr _).map _ = _
      rw [decodeDataResourceTarget_encode]
      rfl
  | reviewChange target reason =>
      obtain ⟨hiff, honly⟩ :=
        decodeSubject_descriptor repr "change subject" target.subject
      refine ⟨_, rfl, fun hnamed => ?_, fun found hfound => ?_⟩
      · rw [decodeReview_encode, hiff.mpr hnamed]
        rfl
      · rw [decodeReview_encode] at hfound
        obtain ⟨subject, hsubject, -⟩ := Outcome.map_eq_ok.mp hfound
        exact honly subject hsubject

/-- The inverse of an operation has no subject. -/
theorem operationNamed_of_compensation {operation inverse : ActivityOperation}
    {source : CompensationMaterialSource}
    (h : compensationForOperation operation = .compensate inverse source) :
    operationNamed inverse = true := by
  cases operation <;> cases h <;> rfl

theorem decodeCompensation_encode (operation : ActivityOperation) : ∃ entries,
    encodeCompensation (compensationForOperation operation) = .dict entries ∧
      decodeCompensation repr entries = .ok (compensationForOperation operation) := by
  cases hcompensation : compensationForOperation operation with
  | compensate inverse source =>
      obtain ⟨entries, hentries, hdecode, -⟩ := decodeOperation_encode repr inverse
      have hsource : memberAt repr materialSources CompensationMaterialSource.value
          "CompensationMaterialSource"
          [ ("kind", .str "compensate"), ("operation", encodeOperation inverse)
          , ("material_source", .str source.value) ] "material_source" = .ok source :=
        memberAt_of (by cases source <;> rfl) rfl (by cases source <;> decide)
      refine ⟨_, rfl, ?_⟩
      show (memberAt _ _ _ _ _ _ >>= _) = _
      rw [hsource]
      show (mappingOf _ (encodeOperation inverse) >>= _) = _
      rw [hentries]
      show (decodeOperation repr entries >>= _) = _
      rw [hdecode (operationNamed_of_compensation hcompensation)]
      rfl
  | noCompensationRequired => exact ⟨_, rfl, rfl⟩
  | nonCompensatable reason =>
      have hreason : memberAt repr nonCompensatableReasons NonCompensatableReason.value
          "NonCompensatableReason"
          [("kind", .str "non-compensatable"), ("reason", .str reason.value)] "reason" =
            .ok reason :=
        memberAt_of (by cases reason <;> rfl) rfl (by cases reason <;> decide)
      refine ⟨_, rfl, ?_⟩
      show (memberAt _ _ _ _ _ _ >>= _) = _
      rw [hreason]
      rfl

/-! ## Activities -/

theorem decodeActivityId_value (activityId : ActivityId) :
    decodeActivityId activityId.value = .ok activityId := by
  simp [decodeActivityId, activityId.canonical]

theorem decodeDependency_value (activityId : ActivityId) :
    decodeDependency (.str activityId.value) = .ok ⟨activityId⟩ := by
  rw [decodeDependency, primitiveText_of (isBlank_of_canonical activityId.canonical)]
  show (decodeActivityId activityId.value >>= _) = _
  rw [decodeActivityId_value]
  rfl

/-- The outcomes of a list that all succeed. -/
theorem collect_map_ok {α β ε : Type} {f : α → Except ε β} {g : α → β} {as : List α}
    (h : ∀ a ∈ as, f a = .ok (g a)) : collect (as.map f) = .ok (as.map g) := by
  induction as with
  | nil => rfl
  | cons a as ih =>
      obtain ⟨ha, has⟩ := List.forall_mem_cons.mp h
      rw [List.map_cons, ha, List.map_cons, collect, ih has]
      rfl

theorem decodeDependencies_encode (activity : PlannedActivity) :
    collect ((activity.predecessors.map fun p : ActivityId => PyValue.str p.value).map
      decodeDependency) = .ok activity.dependencies := by
  rw [List.map_map, PlannedActivity.predecessors, List.map_map]
  have hall := @collect_map_ok _ _ PlanCodecError
    ((decodeDependency ∘ fun p : ActivityId => PyValue.str p.value) ∘
      fun d : ActivityDependency => d.predecessor) id activity.dependencies
    fun d _ => decodeDependency_value d.predecessor
  rw [hall, List.map_id]

/-- An activity is what its constructor makes of its own dependencies. -/
theorem make_dependencies (activity : PlannedActivity) :
    PlannedActivity.make activity.activityId activity.operation activity.dependencies
      activity.risk activity.impact = activity := by
  have hsorted : sortDependencies activity.dependencies = activity.dependencies :=
    List.Pairwise.insertionSort_eq activity.ordered
  cases activity
  simp only [PlannedActivity.make] at hsorted ⊢
  simp only [hsorted]

/-- The entries of an encoded activity. -/
def activityEntries (activity : PlannedActivity) : PyDict :=
  [ ("activity_id", .str activity.activityId.value)
  , ("operation", encodeOperation activity.operation)
  , ("dependencies", .list (activity.predecessors.map (.str ·.value)))
  , ("risk", .str activity.risk.value)
  , ("impact", .str activity.impact.value)
  , ("compensation", encodeCompensation activity.compensation) ]

/-- Reading an activity back comes down to reading its operation back. -/
theorem decodeActivity_entries (activity : PlannedActivity) :
    decodeActivity repr (activityEntries activity) =
      (mappingOf "operation" (encodeOperation activity.operation) >>=
        decodeOperation repr) >>=
        fun operation => do
          let made :=
            PlannedActivity.make activity.activityId operation activity.dependencies
            activity.risk activity.impact
          requirePlan (made.compensation = activity.compensation)
            (.lossy "activity compensation does not match its canonical operation")
          return made := by
  have hkeys : requireKeys (activityEntries activity)
      ["activity_id", "operation", "dependencies", "risk", "impact",
        "compensation"] "activity" =
        .ok () := by
    simp [requireKeys, requirePlan, activityEntries]
  have hrisk : memberAt repr riskLevels RiskLevel.value "RiskLevel"
      (activityEntries activity) "risk" = .ok activity.risk :=
    memberAt_of (by cases activity.risk <;> rfl) rfl (by cases activity.risk <;> decide)
  have himpact : memberAt repr activityImpacts ActivityImpact.value "ActivityImpact"
      (activityEntries activity) "impact" = .ok activity.impact :=
    memberAt_of (by cases activity.impact <;> rfl) rfl
      (by cases activity.impact <;> decide)
  have hid : textAt (activityEntries activity) "activity_id" =
      .ok activity.activityId.value :=
    textAt_of rfl (isBlank_of_canonical activity.activityId.canonical)
  obtain ⟨entries, hentries, hcompensation⟩ :=
    decodeCompensation_encode repr activity.operation
  rw [decodeActivity, hkeys]
  show (memberAt _ _ _ _ _ _ >>= _) = _
  rw [hrisk]
  show (memberAt _ _ _ _ _ _ >>= _) = _
  rw [himpact]
  show (mappingOf _ (encodeCompensation
    (compensationForOperation activity.operation)) >>= _) = _
  rw [hentries]
  show (decodeCompensation repr entries >>= _) = _
  rw [hcompensation]
  show ((textAt (activityEntries activity) "activity_id" >>= decodeActivityId) >>= _) =
    _
  rw [hid]
  show (decodeActivityId activity.activityId.value >>= _) = _
  rw [decodeActivityId_value]
  show (mappingOf _ (encodeOperation activity.operation) >>= _) = _
  cases mappingOf "operation" (encodeOperation activity.operation) with
  | error error => rfl
  | ok operationEntries =>
      show (decodeOperation repr operationEntries >>= _) =
        (decodeOperation repr operationEntries >>= _)
      refine congrArg _ (funext fun operation => ?_)
      show (collect ((activity.predecessors.map fun p : ActivityId =>
        PyValue.str p.value).map decodeDependency) >>= _) = _
      rw [decodeDependencies_encode]
      rfl

/-- **Activities** are read back exactly when their subject has a name. -/
theorem decodeActivity_encode (activity : PlannedActivity) :
    (operationNamed activity.operation = true →
      decodeActivity repr (activityEntries activity) = .ok activity) ∧
    ∀ found, decodeActivity repr (activityEntries activity) = .ok found →
      operationNamed activity.operation = true := by
  obtain ⟨entries, hentries, hdecode, honly⟩ :=
    decodeOperation_encode repr activity.operation
  rw [decodeActivity_entries, hentries]
  constructor
  · intro hnamed
    show ((decodeOperation repr entries) >>= _) = _
    rw [hdecode hnamed]
    show (requirePlan _ _ >>= _) = _
    rw [make_dependencies]
    simp [requirePlan, bind, Except.bind, pure, Except.pure]
  · intro found hfound
    obtain ⟨operation, hoperation, -⟩ := bind_ok.mp hfound
    exact honly operation hoperation

/-! ## Encodings are JSON values -/

theorem subject_textual (subject : DiffSubject) :
    textual subject.descriptor = true ∧ wellKeyed subject.descriptor = true := by
  have howner : ∀ owner : DiffOwner,
      textual owner.descriptor = true ∧ wellKeyed owner.descriptor = true := by
    intro owner
    cases owner <;>
      simp [DiffOwner.descriptor, textual, PyValue.textualEntries, wellKeyed,
        PyValue.wellKeyedEntries]
  cases subject with
  | graph => exact howner .graph
  | runtime runtimeId => exact howner (.runtime runtimeId)
  | node nodeId => exact howner (.node nodeId)
  | publicIngress ingressId => exact howner (.publicIngress ingressId)
  | edge edgeId =>
      simp [DiffSubject.descriptor, textual, PyValue.textualEntries, wellKeyed,
        PyValue.wellKeyedEntries]
  | field owner structuralField key =>
      rw [field_descriptor]
      cases key <;>
        simp [keyEntry, howner owner, textual, PyValue.textualEntries, wellKeyed,
          PyValue.wellKeyedEntries]

theorem operation_textual (operation : ActivityOperation) :
    textual (encodeOperation operation) = true ∧
    wellKeyed (encodeOperation operation) = true := by
  cases operation with
  | reviewChange target reason =>
      simp [encodeOperation, subject_textual target.subject, textual,
        PyValue.textualEntries, wellKeyed, PyValue.wellKeyedEntries]
  | _ =>
      simp [encodeOperation, targeted, encodeNodeTarget, encodeRuntimeTarget,
        encodeSocketTarget, encodeDataResourceTarget, encodePublicIngressTarget,
        encodeNamedTarget, textual, PyValue.textualEntries, wellKeyed,
        PyValue.wellKeyedEntries]

theorem activity_textual (activity : PlannedActivity) :
    textual (encodeActivity activity) = true ∧
    wellKeyed (encodeActivity activity) = true := by
  have hcompensation : textual (encodeCompensation activity.compensation) = true ∧
      wellKeyed (encodeCompensation activity.compensation) = true := by
    cases activity.compensation <;>
      simp [encodeCompensation, operation_textual, textual, PyValue.textualEntries,
        wellKeyed, PyValue.wellKeyedEntries]
  have hdependencies :
      PyValue.textualItems (activity.predecessors.map (.str ·.value)) = true ∧
        PyValue.wellKeyedItems (activity.predecessors.map (.str ·.value)) = true := by
    rw [PyValue.textualItems_iff, PyValue.wellKeyedItems_iff, List.forall_mem_map,
      List.forall_mem_map]
    exact ⟨fun _ _ => rfl, fun _ _ => rfl⟩
  obtain ⟨hoperation, hoperation'⟩ := operation_textual activity.operation
  simp [encodeActivity, hcompensation, hdependencies, hoperation, hoperation', textual,
    PyValue.textualEntries, wellKeyed, PyValue.wellKeyedEntries]

theorem activities_textual (plan : ActivityPlan) :
    PyValue.textualItems (plan.activities.map encodeActivity) = true ∧
      PyValue.wellKeyedItems (plan.activities.map encodeActivity) = true := by
  rw [PyValue.textualItems_iff, PyValue.wellKeyedItems_iff, List.forall_mem_map,
    List.forall_mem_map]
  exact ⟨fun activity _ => (activity_textual activity).1,
    fun activity _ => (activity_textual activity).2⟩

/-! ## Plans -/

/-- The entries of an encoded plan. -/
def planEntries (plan : ActivityPlan) : PyDict :=
  [ ("schema", .str activityPlanSchema)
  , ("version", .int activityPlanVersion)
  , ("activities", .list (plan.activities.map encodeActivity)) ]

theorem wellKeyed_encode (plan : ActivityPlan) : wellKeyed (encode plan) = true := by
  have hactivities := (activities_textual plan).2
  simp [encode, hactivities, wellKeyed, PyValue.wellKeyedEntries]

/-- An encoded plan is a JSON value, and equal to itself. -/
theorem encode_json (plan : ActivityPlan) : PyValue.isRenderable (encode plan) = true ∧
    PyValue.pyEq (encode plan) (PyValue.jsonValue (encode plan)) = true := by
  obtain ⟨hjson, hrender⟩ := PyValue.jsonItems_of_textual _ (activities_textual plan).1
  have hversion : PyValue.printable activityPlanVersion = true := by
    unfold PyValue.printable
    rw [decide_eq_true_eq]
    exact Nat.one_lt_pow (by decide) (by decide)
  have hself : PyValue.jsonValue (encode plan) = encode plan := by
    simp [encode, PyValue.jsonValue, PyValue.jsonEntries, hjson]
  refine ⟨?_, ?_⟩
  · simp [encode, PyValue.isRenderable, PyValue.isRenderableEntries, hversion, hrender]
  · rw [hself]
    exact PyValue.pyEq_self _ (wellKeyed_encode plan)

/-- Reading a plan back comes down to reading its activities back. -/
theorem decode_encode (plan : ActivityPlan) :
    decode repr (encode plan) =
      collect (plan.activities.map fun activity =>
        decodeActivity repr (activityEntries activity)) >>= fun activities => do
          let found ← asInvalidPlan (ActivityPlan.make activities)
          requirePlan (PyValue.pyEq (encode found) (PyValue.jsonValue (encode plan)))
            (.lossy
              "activity plan descriptor does not round-trip through the typed codec")
          return found := by
  have hkeys : requireKeys (planEntries plan) ["schema", "version", "activities"]
      "activity plan" = .ok () := by
    simp [requireKeys, requirePlan, planEntries]
  have hschema : textAt (planEntries plan) "schema" = .ok activityPlanSchema :=
    textAt_of rfl (by decide)
  have hrender : requirePlan (PyValue.isRenderable (encode plan))
      (.malformed "descriptor must contain JSON values") = .ok () := by
    rw [(encode_json plan).1]
    rfl
  have hversion : requireVersion repr (getValue (planEntries plan) "version") =
    .ok () := rfl
  have hactivities : listOf "activities" (getValue (planEntries plan) "activities") =
      .ok (plan.activities.map encodeActivity) := rfl
  have hmapping : mappingOf "activity plan" (encode plan) =
    .ok (planEntries plan) := rfl
  rw [decode, hmapping, ok_bind, hrender, ok_bind, hschema, ok_bind]
  rw [show requirePlan (activityPlanSchema = activityPlanSchema) _ = .ok () from rfl,
    ok_bind, hversion, ok_bind, hkeys, ok_bind, hactivities, ok_bind, List.map_map]
  rfl

/-- **A plan is read back** exactly when the subjects under review have names. -/
theorem decode_encode_iff (plan : ActivityPlan) :
    decode repr (encode plan) = .ok plan ↔ ReviewsNamed plan := by
  rw [decode_encode]
  constructor
  · intro h activity hactivity
    obtain ⟨activities, hactivities, -⟩ := bind_ok.mp h
    obtain ⟨found, hfound⟩ := Outcome.succeeds_collect.mp ⟨activities, hactivities⟩ _
      (List.mem_map_of_mem hactivity)
    exact (decodeActivity_encode repr activity).2 found hfound
  · intro hnamed
    have hall : collect (plan.activities.map fun activity =>
        decodeActivity repr (activityEntries activity)) =
            .ok (plan.activities.map id) :=
      collect_map_ok fun activity hactivity =>
        (decodeActivity_encode repr activity).1 (hnamed activity hactivity)
    rw [hall, List.map_id]
    show (asInvalidPlan (ActivityPlan.make plan.activities) >>= _) = _
    rw [plan.make_self]
    show (requirePlan (PyValue.pyEq (encode plan) _) _ >>= _) = _
    rw [(encode_json plan).2]
    rfl

/-- **What is read is written back** as the same JSON text. -/
theorem encode_of_decode {descriptor : PyValue} {plan : ActivityPlan}
    (hkeyed : wellKeyed descriptor = true) (h : decode repr descriptor = .ok plan)
    (style : PyValue.JsonStyle) :
    PyValue.dumps style (encode plan) = PyValue.dumps style descriptor := by
  obtain ⟨top, htop, h⟩ := bind_ok.mp h
  obtain ⟨_, -, h⟩ := bind_ok.mp h
  obtain ⟨schema, -, h⟩ := bind_ok.mp h
  obtain ⟨_, -, h⟩ := bind_ok.mp h
  obtain ⟨_, hversion, h⟩ := bind_ok.mp h
  obtain ⟨_, -, h⟩ := bind_ok.mp h
  obtain ⟨values, -, h⟩ := bind_ok.mp h
  obtain ⟨activities, -, h⟩ := bind_ok.mp h
  obtain ⟨found, -, h⟩ := bind_ok.mp h
  obtain ⟨_, hequal, h⟩ := bind_ok.mp h
  cases h
  have hdict : descriptor = .dict top := by
    cases descriptor <;> cases htop
    rfl
  subst hdict
  have hequal : PyValue.pyEq (.dict (planEntries plan))
      (.dict (PyValue.jsonEntries top)) =
      true := by
    unfold requirePlan at hequal
    split at hequal
    · rename_i hpy
      rw [PyValue.jsonValue] at hpy
      exact hpy
    · cases hequal
  have hversion : PyValue.jsonValue (getValue top "version") =
      .int activityPlanVersion := by
    unfold requireVersion at hversion
    split at hversion
    · rename_i version hvalue
      unfold requirePlan at hversion
      split at hversion
      · rename_i heq
        rw [hvalue, of_decide_eq_true heq]
        simp [PyValue.jsonValue]
      · cases hversion
    · cases hversion
  have hjsonKeyed := PyValue.wellKeyed_jsonValue _ hkeyed
  rw [PyValue.jsonValue, PyValue.wellKeyed_dict_iff] at hjsonKeyed
  rw [← PyValue.dumps_jsonValue style (.dict top), PyValue.jsonValue]
  rw [PyValue.pyEq, Bool.and_eq_true, beq_iff_eq] at hequal
  have hlookup := PyValue.pyEqEntries_iff.mp hequal.2
  have hplan := PyValue.wellKeyed_dict_iff.mp (wellKeyed_encode plan)
  refine PyValue.dumps_dict_eq style hplan.1 hequal.1 fun entry hentry => ?_
  obtain ⟨w, hw, hpy⟩ := hlookup entry hentry
  refine ⟨w, hw, ?_⟩
  have hwKeyed : wellKeyed w = true := hjsonKeyed.2 _ (PyValue.mem_of_lookup hw)
  simp only [List.mem_cons, List.not_mem_nil, or_false] at hentry
  rcases hentry with rfl | rfl | rfl
  · exact PyValue.dumps_eq_of_pyEq style _ w rfl rfl hwKeyed hpy
  · rw [PyValue.lookup_jsonEntries] at hw
    obtain ⟨v, hv, rfl⟩ := Option.map_eq_some_iff.mp hw
    rw [getValue, hv, Option.getD_some] at hversion
    rw [hversion]
  · have hactivities := activities_textual plan
    exact PyValue.dumps_eq_of_pyEq style _ w hactivities.1 hactivities.2 hwKeyed hpy

end Targets

/-- **The codec of plans**: a plan is read back from its descriptor exactly when the
subjects under review have names, and a descriptor that is read is written back
as the same JSON text.  A descriptor is a value whose dictionaries have each key
once. -/
theorem plansRoundTrip (repr : PyValue → String) :
    (∀ plan : ActivityPlan, decode repr (encode plan) = .ok plan ↔ ReviewsNamed plan) ∧
    ∀ (descriptor : PyValue) (plan : ActivityPlan), wellKeyed descriptor = true →
      decode repr descriptor = .ok plan → ∀ style : PyValue.JsonStyle,
        PyValue.dumps style (encode plan) = PyValue.dumps style descriptor :=
  ⟨decode_encode_iff repr, fun _ _ hkeyed h style =>
    encode_of_decode repr hkeyed h style⟩

/-! ## A plan that is not read back -/

section Nameless

open ControlPlaneKit.Topology

/-- A runtime without a name, of the given kind. -/
def namelessRuntime (kind : RuntimeKind) : DeploymentGraph :=
  sampleGraph [] [] [{ sampleRuntime "" [] .ownedEphemeral with kind := kind }]

/-- Its change of kind is put under review, and the plan cannot be read back. -/
theorem namelessReview_malformed : ∃ currentValid desiredValid plan,
    IsValid plainRepr defaultGraphCodec (namelessRuntime .docker) currentValid ∧
      IsValid plainRepr defaultGraphCodec (namelessRuntime .external) desiredValid ∧
      planGraphs currentValid desiredValid = .ok plan ∧
      decode (fun _ => "") (encode plan) =
        .error (.malformed "runtime_id must be non-empty text") := by
  obtain ⟨currentValid, desiredValid, hcurrent, hdesired, h⟩ :=
    @exists_validated (namelessRuntime .docker) (namelessRuntime .external)
      (plansTo fun plan =>
        Outcome.fails (.malformed "runtime_id must be non-empty text")
        (decode (fun _ => "") (encode plan))) (by decide +kernel)
  obtain ⟨plan, hplan, h⟩ := exists_plan_of_plansTo h
  exact ⟨currentValid, desiredValid, plan, hcurrent, hdesired, hplan,
    Outcome.eq_error_of_fails h⟩

end Nameless

end ControlPlaneKit.Planning
