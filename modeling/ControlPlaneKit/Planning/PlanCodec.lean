import ControlPlaneKit.Planning.ActivityPlan
import ControlPlaneKit.Topology.Changes

/-!
# PlanCodec — durable descriptors of activity plans

`encode` writes a plan as one versioned descriptor; `decode` reads a descriptor
through the constructors of the plan algebra and accepts it only if encoding the
result gives the same JSON value again.  `repr` is the host language's `repr` of
a value, which only reaches error messages.
-/

namespace ControlPlaneKit.Planning

open ControlPlaneKit.Library
open ControlPlaneKit.Library.Outcome (collect)
open ControlPlaneKit.Library.Text (isBlank isCanonicalIdentity)
open ControlPlaneKit.Topology (DiffOwner DiffSubject StructuralField)

/-! ## The texts of the closed values -/

def ReviewReason.value : ReviewReason → String
  | .unsupportedChange => "unsupported-change"
  | .ambiguousChange => "ambiguous-change"

def CompensationMaterialSource.value : CompensationMaterialSource → String
  | .baseGraph => "base-graph"
  | .desiredGraph => "desired-graph"

def NonCompensatableReason.value : NonCompensatableReason → String
  | .resourceRemoval => "resource-removal"
  | .dataDestruction => "data-destruction"

def RiskLevel.value : RiskLevel → String
  | .informational => "informational"
  | .low => "low"
  | .medium => "medium"
  | .high => "high"
  | .critical => "critical"

def ActivityImpact.value : ActivityImpact → String
  | .nonDestructive => "non-destructive"
  | .disruptive => "disruptive"
  | .destructive => "destructive"

def reviewReasons : List ReviewReason := [.unsupportedChange, .ambiguousChange]

def materialSources : List CompensationMaterialSource := [.baseGraph, .desiredGraph]

def nonCompensatableReasons : List NonCompensatableReason :=
  [.resourceRemoval, .dataDestruction]

def riskLevels : List RiskLevel := [.informational, .low, .medium, .high, .critical]

def activityImpacts : List ActivityImpact :=
  [.nonDestructive, .disruptive, .destructive]

def structuralFields : List StructuralField :=
  [ .graphName, .runtimeKind, .runtimeContainment, .runtimeAuthority, .runtimeMetadata
  , .blockFamily, .blockSpecification, .implementationKind, .runtimeMembership
  , .socketContract, .endpoint, .publicEnvironment, .socketEnvironment, .nodeMetadata
  , .configurationArtifacts, .secretDeliveries, .delegationAuthorities
  , .delegationVerifierProjection, .resourceLifecycle ]

/-! ## Encoding -/

def activityPlanSchema : String := "control-plane-kit.activity-plan"

def activityPlanVersion : Int := 1

/-- The descriptor of a target that is known by one name. -/
def encodeNamedTarget (kind key name : String) : PyValue :=
  .dict [("kind", .str kind), (key, .str name)]

def encodeNodeTarget (target : NodeTarget) : PyValue :=
  encodeNamedTarget "node" "node_id" target.nodeId

def encodeRuntimeTarget (target : RuntimeTarget) : PyValue :=
  encodeNamedTarget "runtime" "runtime_id" target.runtimeId

def encodeSocketTarget (target : SocketConnectionTarget) : PyValue :=
  encodeNamedTarget "socket-connection" "edge_id" target.edgeId

def encodeDataResourceTarget (target : DataResourceTarget) : PyValue :=
  .dict [ ("kind", .str "data-resource"), ("node_id", .str target.nodeId)
        , ("resource_id", .str target.resourceId) ]

def encodePublicIngressTarget (target : PublicIngressActivityTarget) : PyValue :=
  encodeNamedTarget "public-ingress" "ingress_id" target.ingressId

/-- `_targeted(kind, target)`. -/
def targeted (kind : String) (target : PyValue) : PyValue :=
  .dict [("kind", .str kind), ("target", target)]

def encodeOperation : ActivityOperation → PyValue
  | .startNode target => targeted "start-node" (encodeNodeTarget target)
  | .stopNode target => targeted "stop-node" (encodeNodeTarget target)
  | .removeNodeResource target =>
      targeted "remove-node-resource" (encodeNodeTarget target)
  | .waitForHealthy target => targeted "wait-for-healthy" (encodeNodeTarget target)
  | .addSocketConnection target =>
      targeted "add-socket-connection" (encodeSocketTarget target)
  | .switchSocketConnection target =>
      targeted "switch-socket-connection" (encodeSocketTarget target)
  | .removeSocketConnection target =>
      targeted "remove-socket-connection" (encodeSocketTarget target)
  | .allocatePublicIngress target =>
      targeted "allocate-public-ingress" (encodePublicIngressTarget target)
  | .removePublicIngress target =>
      targeted "remove-public-ingress" (encodePublicIngressTarget target)
  | .reconcileNode target => targeted "reconcile-node" (encodeNodeTarget target)
  | .reconcileRuntime target =>
      targeted "reconcile-runtime" (encodeRuntimeTarget target)
  | .startRuntime target => targeted "start-runtime" (encodeRuntimeTarget target)
  | .stopRuntime target => targeted "stop-runtime" (encodeRuntimeTarget target)
  | .removeRuntimeResource target =>
      targeted "remove-runtime-resource" (encodeRuntimeTarget target)
  | .destroyDataResource target =>
      targeted "destroy-data-resource" (encodeDataResourceTarget target)
  | .reviewChange target reason =>
      .dict
        [ ("kind", .str "review-change")
        , ("target", .dict
            [("kind", .str "change"), ("subject", target.subject.descriptor)])
        , ("reason", .str reason.value) ]

def encodeCompensation : CompensationSpec → PyValue
  | .compensate operation source =>
      .dict
        [ ("kind", .str "compensate"), ("operation", encodeOperation operation)
        , ("material_source", .str source.value) ]
  | .noCompensationRequired => .dict [("kind", .str "not-required")]
  | .nonCompensatable reason =>
      .dict [("kind", .str "non-compensatable"), ("reason", .str reason.value)]

def encodeActivity (activity : PlannedActivity) : PyValue :=
  .dict
    [ ("activity_id", .str activity.activityId.value)
    , ("operation", encodeOperation activity.operation)
    , ("dependencies", .list (activity.predecessors.map (.str ·.value)))
    , ("risk", .str activity.risk.value)
    , ("impact", .str activity.impact.value)
    , ("compensation", encodeCompensation activity.compensation) ]

/-- `ActivityPlanDescriptorCodec.encode(plan)`. -/
def encode (plan : ActivityPlan) : PyValue :=
  .dict
    [ ("schema", .str activityPlanSchema)
    , ("version", .int activityPlanVersion)
    , ("activities", .list (plan.activities.map encodeActivity)) ]

/-! ## Errors and primitive values -/

/-- `ActivityPlanDescriptorError` by subclass, or a `RuntimeError`. -/
inductive PlanCodecError where
  | malformed (message : String)
  | unknownVariant (message : String)
  | lossy (message : String)
  | runtimeError (message : String)
  deriving DecidableEq, Repr

def PlanCodecError.message : PlanCodecError → String
  | .malformed message => message
  | .unknownVariant message => message
  | .lossy message => message
  | .runtimeError message => message

def requirePlan (condition : Bool) (error : PlanCodecError) :
    Except PlanCodecError Unit :=
  if condition then .ok () else .error error

/-- `value.get(key)`. -/
def getValue (entries : PyDict) (key : String) : PyValue :=
  (entries.lookup key).getD .none

def notMapping (name : String) : PlanCodecError :=
  .malformed (name ++ " must be an object with text keys")

/-- `_mapping(value, name)`. -/
def mappingOf (name : String) : PyValue → Except PlanCodecError PyDict
  | .dict entries => .ok entries
  | _ => .error (notMapping name)

/-- `_list(value, name)`. -/
def listOf (name : String) : PyValue → Except PlanCodecError (List PyValue)
  | .list items => .ok items
  | _ => .error (.malformed (name ++ " must be a list"))

/-- `_primitive_text(value, name)`. -/
def primitiveText (name : String) : PyValue → Except PlanCodecError String
  | .str text =>
      if isBlank text then .error (.malformed (name ++ " must be non-empty text"))
      else .ok text
  | _ => .error (.malformed (name ++ " must be non-empty text"))

/-- `_text(value, key)`. -/
def textAt (entries : PyDict) (key : String) : Except PlanCodecError String :=
  primitiveText key (getValue entries key)

/-- `_require_keys(value, expected, name)`. -/
def requireKeys (entries : PyDict) (expected : List String) (name : String) :
    Except PlanCodecError Unit :=
  requirePlan
    ((entries.map (·.1)).all (fun key => decide (key ∈ expected)) &&
      expected.all fun key => decide (key ∈ entries.map (·.1)))
    (.lossy (name ++ " fields do not match activity-plan version"))

/-- `except ValueError as error: raise UnknownActivityPlanVariant(str(error))`,
which also catches the codec's own errors. -/
def asUnknown {α : Type} (x : Except PlanCodecError α) : Except PlanCodecError α :=
  x.mapError fun error => .unknownVariant error.message

section Decoding

variable (repr : PyValue → String)

/-- A member of a closed enumeration, by its text. -/
def memberOf {α : Type} (members : List α) (value : α → String)
    (className text : String) : Except PlanCodecError α :=
  match members.find? fun member => value member = text with
  | some member => .ok member
  | none => .error (.malformed (repr (.str text) ++ " is not a valid " ++ className))

/-- `Class(_text(value, key))` under the translation of its error. -/
def memberAt {α : Type} (members : List α) (value : α → String) (className : String)
    (entries : PyDict) (key : String) : Except PlanCodecError α :=
  asUnknown (textAt entries key >>= memberOf repr members value className)

/-! ## Decoding -/

/-- `_activity_id(value)`. -/
def decodeActivityId (value : String) : Except PlanCodecError ActivityId :=
  if h : isCanonicalIdentity value = true then .ok ⟨value, h⟩
  else .error (.malformed "activity identity is malformed")

/-- A subject that may own a field. -/
def ownerOf : DiffSubject → Except PlanCodecError DiffOwner
  | .graph => .ok .graph
  | .runtime runtimeId => .ok (.runtime runtimeId)
  | .node nodeId => .ok (.node nodeId)
  | .publicIngress ingressId => .ok (.publicIngress ingressId)
  | _ =>
      .error (.malformed "field owner must be graph, runtime, node, or public ingress")

/-- The key of a field subject: text or nothing. -/
def fieldKeyOf : PyValue → Except PlanCodecError (Option String)
  | .none => .ok none
  | .str key => .ok (some key)
  | _ => .error (.malformed "field key must be text")

/-- `_decode_subject(value)`, given what its owner decodes to. -/
def subjectOf (entries : PyDict) (owner : Except PlanCodecError DiffSubject) :
    Except PlanCodecError DiffSubject :=
  match getValue entries "kind" with
  | .str "graph" => .ok .graph
  | .str "runtime" => (textAt entries "runtime_id").map .runtime
  | .str "node" => (textAt entries "node_id").map .node
  | .str "edge" => (textAt entries "edge_id").map .edge
  | .str "public-ingress" => (textAt entries "ingress_id").map .publicIngress
  | kind =>
      if "field" ∈ entries.map (·.1) then do
        let structuralField ←
          memberAt repr structuralFields StructuralField.value "StructuralField"
          entries "field"
        let owner ← owner >>= ownerOf
        let key ← fieldKeyOf (getValue entries "key")
        return .field owner structuralField key
      else .error (.unknownVariant ("unknown change subject " ++ repr kind))

mutual

/-- `_decode_subject(_mapping(value, name))`. -/
def decodeSubject (name : String) : PyValue → Except PlanCodecError DiffSubject
  | .dict entries => subjectOf repr entries (decodeOwner entries)
  | _ => .error (notMapping name)

/-- The subject under the key `owner`. -/
def decodeOwner : List (String × PyValue) → Except PlanCodecError DiffSubject
  | [] => .error (notMapping "field owner")
  | (key, value) :: entries =>
      if key = "owner" then decodeSubject "field owner" value else decodeOwner entries

end

/-- `_require_kind(value, expected)`. -/
def requireKind (entries : PyDict) (expected : String) :
    Except PlanCodecError Unit := do
  let actual ← textAt entries "kind"
  requirePlan (actual = expected)
    (.malformed
      ("expected " ++ repr (.str expected) ++ " target, got " ++ repr (.str actual)))

/-- A text that a target asks for, with the fact that it is not blank. -/
def nonemptyAt (entries : PyDict) (key : String) :
    Except PlanCodecError {text : String // isBlank text = false} :=
  match getValue entries key with
  | .str text =>
      if h : isBlank text = false then .ok ⟨text, h⟩
      else .error (.malformed (key ++ " must be non-empty text"))
  | _ => .error (.malformed (key ++ " must be non-empty text"))

/-- A target of one kind that is known by one name. -/
def decodeNamedTarget {α : Type} (kind key : String)
    (make : ∀ text : String, isBlank text = false → α) (entries : PyDict) :
    Except PlanCodecError α := do
  requireKind repr entries kind
  let name ← nonemptyAt entries key
  return make name.1 name.2

def decodeNodeTarget (entries : PyDict) : Except PlanCodecError NodeTarget :=
  decodeNamedTarget repr "node" "node_id" NodeTarget.mk entries

def decodeRuntimeTarget (entries : PyDict) : Except PlanCodecError RuntimeTarget :=
  decodeNamedTarget repr "runtime" "runtime_id" RuntimeTarget.mk entries

def decodeSocketTarget (entries : PyDict) :
    Except PlanCodecError SocketConnectionTarget :=
  decodeNamedTarget repr "socket-connection" "edge_id" SocketConnectionTarget.mk entries

def decodeDataResourceTarget (entries : PyDict) :
    Except PlanCodecError DataResourceTarget := do
  requireKind repr entries "data-resource"
  let nodeId ← nonemptyAt entries "node_id"
  let resourceId ← nonemptyAt entries "resource_id"
  return ⟨nodeId.1, resourceId.1, nodeId.2, resourceId.2⟩

def decodePublicIngressTarget (entries : PyDict) :
    Except PlanCodecError PublicIngressActivityTarget :=
  decodeNamedTarget repr "public-ingress" "ingress_id"
    PublicIngressActivityTarget.mk entries

/-- The operation of one kind, with its target. -/
def operationOf (entries target : PyDict) :
    String → Except PlanCodecError ActivityOperation
  | "start-node" => (decodeNodeTarget repr target).map .startNode
  | "stop-node" => (decodeNodeTarget repr target).map .stopNode
  | "remove-node-resource" => (decodeNodeTarget repr target).map .removeNodeResource
  | "wait-for-healthy" => (decodeNodeTarget repr target).map .waitForHealthy
  | "add-socket-connection" => (decodeSocketTarget repr target).map .addSocketConnection
  | "switch-socket-connection" =>
      (decodeSocketTarget repr target).map .switchSocketConnection
  | "remove-socket-connection" =>
      (decodeSocketTarget repr target).map .removeSocketConnection
  | "allocate-public-ingress" =>
      (decodePublicIngressTarget repr target).map .allocatePublicIngress
  | "remove-public-ingress" =>
      (decodePublicIngressTarget repr target).map .removePublicIngress
  | "reconcile-node" => (decodeNodeTarget repr target).map .reconcileNode
  | "reconcile-runtime" => (decodeRuntimeTarget repr target).map .reconcileRuntime
  | "start-runtime" => (decodeRuntimeTarget repr target).map .startRuntime
  | "stop-runtime" => (decodeRuntimeTarget repr target).map .stopRuntime
  | "remove-runtime-resource" =>
      (decodeRuntimeTarget repr target).map .removeRuntimeResource
  | "destroy-data-resource" =>
      (decodeDataResourceTarget repr target).map .destroyDataResource
  | "review-change" => do
      requireKind repr target "change"
      let reason ← memberAt repr reviewReasons ReviewReason.value "ReviewReason"
        entries "reason"
      let subject ← decodeSubject repr "change subject" (getValue target "subject")
      return .reviewChange ⟨subject⟩ reason
  | other =>
      .error (.unknownVariant ("unknown activity operation " ++ repr (.str other)))

/-- `_decode_operation(descriptor)`. -/
def decodeOperation (entries : PyDict) : Except PlanCodecError ActivityOperation := do
  let kind ← textAt entries "kind"
  let target ← mappingOf "operation.target" (getValue entries "target")
  operationOf repr entries target kind

/-- The compensation of one kind. -/
def compensationOf (entries : PyDict) : String → Except PlanCodecError CompensationSpec
  | "compensate" => do
      let source ← memberAt repr materialSources CompensationMaterialSource.value
        "CompensationMaterialSource" entries "material_source"
      let operation ← mappingOf "compensation.operation" (getValue entries "operation")
      let operation ← decodeOperation repr operation
      return .compensate operation source
  | "not-required" => return .noCompensationRequired
  | "non-compensatable" => do
      let reason ← memberAt repr nonCompensatableReasons NonCompensatableReason.value
        "NonCompensatableReason" entries "reason"
      return .nonCompensatable reason
  | other =>
      .error (.unknownVariant ("unknown compensation variant " ++ repr (.str other)))

/-- `_decode_compensation(value)`. -/
def decodeCompensation (entries : PyDict) : Except PlanCodecError CompensationSpec := do
  let kind ← textAt entries "kind"
  compensationOf repr entries kind

def decodeDependency (value : PyValue) : Except PlanCodecError ActivityDependency := do
  let text ← primitiveText "dependency" value
  let predecessor ← decodeActivityId text
  return ⟨predecessor⟩

/-- `_decode_activity(descriptor)`. -/
def decodeActivity (entries : PyDict) : Except PlanCodecError PlannedActivity := do
  requireKeys entries
    ["activity_id", "operation", "dependencies", "risk", "impact", "compensation"]
    "activity"
  let risk ← memberAt repr riskLevels RiskLevel.value "RiskLevel" entries "risk"
  let impact ← memberAt repr activityImpacts ActivityImpact.value "ActivityImpact"
    entries "impact"
  let compensation ← mappingOf "compensation" (getValue entries "compensation")
  let compensation ← decodeCompensation repr compensation
  let activityId ← textAt entries "activity_id" >>= decodeActivityId
  let operation ← mappingOf "operation" (getValue entries "operation")
  let operation ← decodeOperation repr operation
  let dependencies ← listOf "dependencies" (getValue entries "dependencies")
  let dependencies ← collect (dependencies.map decodeDependency)
  let activity := PlannedActivity.make activityId operation dependencies risk impact
  requirePlan (activity.compensation = compensation)
    (.lossy "activity compensation does not match its canonical operation")
  return activity

/-- An exception of the plan constructor, as `decode` passes it on. -/
def asInvalidPlan {α : Type} (x : Except PlanError α) : Except PlanCodecError α :=
  x.mapError fun error => match error with
    | .invalidActivityPlan _ =>
        .malformed ("invalid typed activity plan: " ++ error.message)
    | .noReadyActivity => .runtimeError error.message

/-- `type(version) is int`, and this version. -/
def requireVersion : PyValue → Except PlanCodecError Unit
  | .int version =>
      requirePlan (version = activityPlanVersion)
        (.unknownVariant ("unsupported activity plan version " ++ repr (.int version)))
  | _ => .error (.malformed "activity plan version must be an integer")

/-- `ActivityPlanDescriptorCodec.decode(descriptor)`. -/
def decode (descriptor : PyValue) : Except PlanCodecError ActivityPlan := do
  let top ← mappingOf "activity plan" descriptor
  requirePlan (PyValue.isRenderable descriptor)
    (.malformed "descriptor must contain JSON values")
  let schema ← textAt top "schema"
  requirePlan (schema = activityPlanSchema)
    (.unknownVariant "unknown activity plan schema")
  requireVersion repr (getValue top "version")
  requireKeys top ["schema", "version", "activities"] "activity plan"
  let activities ← listOf "activities" (getValue top "activities")
  let activities ← collect (activities.map fun value =>
    mappingOf "activity" value >>= decodeActivity repr)
  let plan ← asInvalidPlan (ActivityPlan.make activities)
  requirePlan (PyValue.pyEq (encode plan) (PyValue.jsonValue descriptor))
    (.lossy "activity plan descriptor does not round-trip through the typed codec")
  return plan

end Decoding

end ControlPlaneKit.Planning
