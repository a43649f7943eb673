import ControlPlaneKit.NodeControl.Codec

/-!
# Declarations — variables, surfaces and results of the node-control boundary

A variable declares its kind, the codecs of its operations, and perhaps a
description, the only free text of the boundary.  A surface declares the variables
of one provider socket; a result answers one request about a declared variable.
-/

namespace ControlPlaneKit.NodeControl

open ControlPlaneKit.Library (PyDict PyError PyValue)

/-! ## Enumerations -/

inductive ControlPlaneStateCodec where
  | scalarV1
  | mapV1
  | weightedRoutingV1
  deriving DecidableEq, Repr

def ControlPlaneStateCodec.value : ControlPlaneStateCodec → String
  | .scalarV1 => "control.scalar.v1"
  | .mapV1 => "control.map.v1"
  | .weightedRoutingV1 => "control.weighted-routing.v1"

def stateCodecs : List ControlPlaneStateCodec := [.scalarV1, .mapV1, .weightedRoutingV1]

/-- `_STATE_CODEC_TYPES`, by the kind of the state. -/
def ControlPlaneStateCodec.stateKind : ControlPlaneStateCodec → ControlPlaneVariableKind
  | .scalarV1 => .scalar
  | .mapV1 => .map
  | .weightedRoutingV1 => .weightedRouting

inductive ControlPlaneResultCodec where
  | stateV1
  | transitionV1
  deriving DecidableEq, Repr

def ControlPlaneResultCodec.value : ControlPlaneResultCodec → String
  | .stateV1 => "control.state.v1"
  | .transitionV1 => "control.transition.v1"

def resultCodecs : List ControlPlaneResultCodec := [.stateV1, .transitionV1]

/-- `_RESULT_CODECS`. -/
def NodeControlOperation.resultCodec : NodeControlOperation → ControlPlaneResultCodec
  | .readState => .stateV1
  | .applyCommand => .transitionV1

inductive NodeControlResultStatus where
  | succeeded
  | rejected
  | failed
  deriving DecidableEq, Repr

def NodeControlResultStatus.value : NodeControlResultStatus → String
  | .succeeded => "succeeded"
  | .rejected => "rejected"
  | .failed => "failed"

def resultStatuses : List NodeControlResultStatus := [.succeeded, .rejected, .failed]

inductive NodeControlEvidenceCode where
  | applied
  | noChange
  | preconditionFailed
  | invalidCommand
  | notAuthorized
  | internalFailure
  deriving DecidableEq, Repr

def NodeControlEvidenceCode.value : NodeControlEvidenceCode → String
  | .applied => "applied"
  | .noChange => "no-change"
  | .preconditionFailed => "precondition-failed"
  | .invalidCommand => "invalid-command"
  | .notAuthorized => "not-authorized"
  | .internalFailure => "internal-failure"

def evidenceCodes : List NodeControlEvidenceCode :=
  [.applied, .noChange, .preconditionFailed, .invalidCommand, .notAuthorized,
    .internalFailure]

/-- `_REJECTION_EVIDENCE_CODES`. -/
def NodeControlOperation.rejectionEvidenceCodes :
    NodeControlOperation → List NodeControlEvidenceCode
  | .readState => [.notAuthorized]
  | .applyCommand => [.preconditionFailed, .invalidCommand, .notAuthorized]

/-! ## Variables -/

/-- Codec contract for one closed operation on a control-plane variable. -/
structure ControlPlaneVariableOperationContract where
  operation : NodeControlOperation
  commandCodec : Option ControlPlaneCommandCodec
  resultCodec : ControlPlaneResultCodec
  deriving DecidableEq

/-- What `ControlPlaneVariableOperationContract` checks. -/
def ControlPlaneVariableOperationContract.check
    (contract : ControlPlaneVariableOperationContract) : Except WireError Unit :=
  match contract.operation, contract.commandCodec with
  | .readState, some _ =>
      .error (.contract "read-state operation cannot declare a command codec")
  | .readState, none => requireWire (contract.resultCodec = .stateV1)
      (.contract "read-state operation requires the state result codec")
  | .applyCommand, none =>
      .error (.contract "apply-command operation requires a command codec")
  | .applyCommand, some _ => requireWire (contract.resultCodec = .transitionV1)
      (.contract "apply-command operation requires the transition result codec")

def ControlPlaneVariableOperationContract.descriptor
    (contract : ControlPlaneVariableOperationContract) : PyValue :=
  .dict [
    ("operation", .str contract.operation.value),
    ("command_codec", codecOrNone contract.commandCodec),
    ("result_codec", .str contract.resultCodec.value)]

/-- Closed public contract for one typed workload control variable. -/
structure ControlPlaneVariableDescriptor where
  variableName : NodeControlGraphReference .variable
  kind : ControlPlaneVariableKind
  stateCodec : ControlPlaneStateCodec
  operationContracts : List ControlPlaneVariableOperationContract
  description : Option String
  deriving DecidableEq

/-- `_VARIABLE_CODECS`. -/
def ControlPlaneVariableKind.codecs :
    ControlPlaneVariableKind → ControlPlaneStateCodec × ControlPlaneCommandCodec
  | .scalar => (.scalarV1, .replaceScalarV1)
  | .map => (.mapV1, .replaceMapV1)
  | .weightedRouting => (.weightedRoutingV1, .replaceWeightedRoutingV1)

/-- The bounds of `_validate_public_text` at `_MAX_DESCRIPTION`. -/
def isBoundedText (text : String) : Bool :=
  !Library.Text.isBlank text && text.length ≤ 512 && !text.toList.contains '\x00'

/-- `_validate_public_text(value, name, max_length=_MAX_DESCRIPTION)`. -/
def validatePublicText (value name : String) : Except WireError Unit := do
  requireWire (isBoundedText value) (.contract (name ++ " must be bounded public text"))
  let violation ← escaping (publicMaterialViolation value)
  raiseViolation .contract name " violates public-material law" violation

namespace ControlPlaneVariableDescriptor

/-- What a variable checks before its description. -/
def checkContracts (declared : ControlPlaneVariableDescriptor) :
    Except WireError Unit := do
  requireWire
    (declared.operationContracts.map (·.operation) = [.readState, .applyCommand])
    (.contract "control-plane operation contracts must be total and canonical")
  let applyCodec := (declared.operationContracts[1]?).bind (·.commandCodec)
  requireWire (declared.stateCodec = declared.kind.codecs.1 &&
      applyCodec = some declared.kind.codecs.2)
    (.contract "control-plane variable kind and codecs do not match")

/-- What a variable checks of its description. -/
def checkDescription (declared : ControlPlaneVariableDescriptor) :
    Except WireError Unit :=
  match declared.description with
  | none => .ok ()
  | some text => validatePublicText text "control-plane variable description"

/-- What `ControlPlaneVariableDescriptor` checks, with its operation contracts. -/
def check (declared : ControlPlaneVariableDescriptor) : Except WireError Unit := do
  declared.operationContracts.forM (·.check)
  declared.checkContracts
  declared.checkDescription

/-- `variable.contract_for(operation)`. -/
def contractFor (declared : ControlPlaneVariableDescriptor)
    (operation : NodeControlOperation) :
    Except WireError ControlPlaneVariableOperationContract :=
  match declared.operationContracts.find? fun contract =>
      contract.operation = operation with
  | some contract => .ok contract
  | none => .error (.contract "control-plane variable does not declare the operation")

def descriptor (declared : ControlPlaneVariableDescriptor) : PyValue :=
  .dict [
    ("variable_name", .str declared.variableName.value),
    ("kind", .str declared.kind.value),
    ("state_codec", .str declared.stateCodec.value),
    ("operation_contracts", .list (declared.operationContracts.map (·.descriptor))),
    ("route_set", .str "node-control"),
    ("capability", .str "node-controllable"),
    ("description", (declared.description.map PyValue.str).getD .none)]

end ControlPlaneVariableDescriptor

/-- The value is one text. -/
def isText (text : String) : PyValue → Bool
  | .str value => value = text
  | _ => false

/-- A text or `None`. -/
def textOrNone (error : WireError) : PyValue → Except WireError (Option String)
  | .none => .ok none
  | .str text => .ok (some text)
  | _ => .error error

/-- A list, or the module's error. -/
def listOf (error : WireError) : PyValue → Except WireError (List PyValue)
  | .list items => .ok items
  | _ => .error error

def variableKeys : List String :=
  ["variable_name", "kind", "state_codec", "operation_contracts", "route_set",
    "capability", "description"]

/-- One operation contract of a variable. -/
def decodeOperationContract (value : PyValue) :
    Except WireError ControlPlaneVariableOperationContract := do
  let entries ← mapping value "control-plane variable operation contract"
  requireKeys entries ["operation", "command_codec", "result_codec"]
    "control-plane variable operation contract"
  let commandCodec ← optionalOf (getValue entries "command_codec")
    (commandCodecOf "control-plane variable command codec")
  let operation ← enumOf operations (·.value) (getValue entries "operation")
    "control-plane variable operation"
  let resultCodec ← enumOf resultCodecs (·.value) (getValue entries "result_codec")
    "control-plane variable result codec"
  let contract : ControlPlaneVariableOperationContract :=
    ⟨operation, commandCodec, resultCodec⟩
  contract.check
  return contract

/-- `ControlPlaneVariableDescriptorCodec.decode(descriptor)`, up to the description. -/
def readVariable (descriptor : PyValue) :
    Except WireError ControlPlaneVariableDescriptor := do
  let entries ← mapping descriptor "control-plane variable descriptor"
  requireKeys entries variableKeys "control-plane variable descriptor"
  requireWire (isText "node-control" (getValue entries "route_set"))
    (.contract "control-plane variable route_set is not canonical")
  requireWire (isText "node-controllable" (getValue entries "capability"))
    (.contract "control-plane variable capability is not canonical")
  let description ← textOrNone
    (.contract "control-plane variable description must be text or null")
    (getValue entries "description")
  let values ← listOf (.contract "control-plane operation_contracts must be a list")
    (getValue entries "operation_contracts")
  let operationContracts ← values.mapM decodeOperationContract
  let variableName ← decodeGraphReference entries "variable_name" .variable
  let kind ← enumOf variableKinds (·.value)
    (getValue entries "kind") "control-plane variable kind"
  let stateCodec ← enumOf stateCodecs (·.value) (getValue entries "state_codec")
    "control-plane state codec"
  let declared : ControlPlaneVariableDescriptor :=
    ⟨variableName, kind, stateCodec, operationContracts, description⟩
  declared.checkContracts
  return declared

/-- `ControlPlaneVariableDescriptorCodec.decode(descriptor)`. -/
def decodeVariable (descriptor : PyValue) :
    Except WireError ControlPlaneVariableDescriptor := do
  let declared ← readVariable descriptor
  declared.checkDescription
  return declared

/-- One variable of a surface. -/
def decodeSurfaceVariable (value : PyValue) :
    Except WireError ControlPlaneVariableDescriptor := do
  let entries ← mapping value "node-control surface variable"
  decodeVariable (.dict entries)

/-! ## Surfaces -/

/-- Static graph-visible variables exposed through one provider socket, in the order
of their names. -/
structure WorkloadNodeControlSurfaceDescriptor where
  providerSocketName : NodeControlGraphReference .providerSocket
  declaredVariables : List ControlPlaneVariableDescriptor
  nonempty : declaredVariables ≠ []
  bounded : declaredVariables.length ≤ 128
  ordered : declaredVariables.Pairwise fun a b =>
    a.variableName.value < b.variableName.value

namespace WorkloadNodeControlSurfaceDescriptor

def descriptor (surface : WorkloadNodeControlSurfaceDescriptor) : PyValue :=
  .dict [
    ("provider_socket_name", .str surface.providerSocketName.value),
    ("variables", .list (surface.declaredVariables.map (·.descriptor)))]

/-- The variables of a surface, in order, before the size of the surface is known. -/
def ofVariables (providerSocketName : NodeControlGraphReference .providerSocket)
    (declaredVariables : List ControlPlaneVariableDescriptor) :
    Except WireError WorkloadNodeControlSurfaceDescriptor :=
  if hnonempty : declaredVariables = [] then
    .error (.contract "node-control surface requires at least one variable")
  else if hbounded : 128 < declaredVariables.length then
    .error (.contract "node-control surface contains too many variables")
  else if hnames : (declaredVariables.map (·.variableName.value)).Nodup then
    .ok
      { providerSocketName
        declaredVariables :=
          declaredVariables.mergeSort fun a b =>
            a.variableName.value ≤ b.variableName.value
        nonempty := by
          intro hnil
          have hempty := congrArg List.length hnil
          rw [List.length_mergeSort] at hempty
          exact hnonempty (List.eq_nil_of_length_eq_zero hempty)
        bounded := by rw [List.length_mergeSort]; omega
        ordered := ordered_mergeSort hnames }
  else .error (.contract "node-control surface variable names must be unique")

end WorkloadNodeControlSurfaceDescriptor

/-- `WorkloadNodeControlSurfaceDescriptorCodec.decode(descriptor)`, up to the
variables. -/
def readSurface (descriptor : PyValue) :
    Except WireError (NodeControlGraphReference .providerSocket × List PyValue) := do
  let entries ← mapping descriptor "node-control surface descriptor"
  requireKeys entries ["provider_socket_name", "variables"]
    "node-control surface descriptor"
  let values ← listOf (.contract "node-control surface variables must be a list")
    (getValue entries "variables")
  requireWire (values.length ≤ 128)
    (.contract "node-control surface contains too many variables")
  let providerSocketName ←
    decodeGraphReference entries "provider_socket_name" .providerSocket
  return (providerSocketName, values)

section Canonical

variable (dumps : CanonicalJson)

/-- `WorkloadNodeControlSurfaceDescriptor(provider_socket_name, variables)`. -/
def WorkloadNodeControlSurfaceDescriptor.of
    (providerSocketName : NodeControlGraphReference .providerSocket)
    (declaredVariables : List ControlPlaneVariableDescriptor) :
    Except WireError WorkloadNodeControlSurfaceDescriptor := do
  let surface ← ofVariables providerSocketName declaredVariables
  validateDescriptorSize dumps surface.descriptor "node-control surface descriptor"
  return surface

/-- `WorkloadNodeControlSurfaceDescriptorCodec.decode(descriptor)`. -/
def decodeSurface (descriptor : PyValue) :
    Except WireError WorkloadNodeControlSurfaceDescriptor := do
  let (providerSocketName, values) ← readSurface descriptor
  let declaredVariables ← values.mapM decodeSurfaceVariable
  let surface ← WorkloadNodeControlSurfaceDescriptor.of dumps providerSocketName
    declaredVariables
  validateDescriptorSize dumps surface.descriptor "node-control surface descriptor"
  return surface

/-! ## Versioned declarations -/

inductive WorkloadNodeControlSurfaceDeclarationProfile where
  | v1
  deriving DecidableEq, Repr

def WorkloadNodeControlSurfaceDeclarationProfile.value :
    WorkloadNodeControlSurfaceDeclarationProfile → String
  | .v1 => "workload-node-control-surface-declaration.v1"

/-- One versioned static surface declaration and its identity preimage. -/
structure WorkloadNodeControlSurfaceDeclaration where
  surface : WorkloadNodeControlSurfaceDescriptor
  profile : WorkloadNodeControlSurfaceDeclarationProfile

def WorkloadNodeControlSurfaceDeclaration.descriptor
    (declaration : WorkloadNodeControlSurfaceDeclaration) : PyValue :=
  .dict [("profile", .str declaration.profile.value),
    ("surface", declaration.surface.descriptor)]

/-- `MAX_NODE_CONTROL_SURFACE_DECLARATION_BYTES`. -/
def maxSurfaceDeclarationBytes : Nat := 16453

/-- `declaration.canonical_bytes()`. -/
def WorkloadNodeControlSurfaceDeclaration.canonicalBytes
    (declaration : WorkloadNodeControlSurfaceDeclaration) : Except WireError Bytes :=
  surfaceReadBytes dumps declaration.descriptor maxSurfaceDeclarationBytes
    "surface declaration"

/-- `declaration.identity()`, by its value. -/
def WorkloadNodeControlSurfaceDeclaration.identity
    (declaration : WorkloadNodeControlSurfaceDeclaration) : Except WireError String :=
  (declaration.canonicalBytes dumps).map sha256OfBytes

/-- The declaration can be built: it passes its own check, and so do its surface and
its variables. -/
def WorkloadNodeControlSurfaceDeclaration.Constructible
    (declaration : WorkloadNodeControlSurfaceDeclaration) : Prop :=
  (∃ encoded, declaration.canonicalBytes dumps = .ok encoded) ∧
    validateDescriptorSize dumps declaration.surface.descriptor
      "node-control surface descriptor" =
      .ok () ∧
    ∀ declared ∈ declaration.surface.declaredVariables, declared.check = .ok ()

/-- `_mapping(value, name)` of the module of surface reads. -/
def surfaceReadMapping (value : PyValue) (name : String) : Except WireError PyDict :=
  mappingOf value (.surfaceRead (name ++ " must be an object"))

/-- `_require_exact_keys(mapping, expected, name)` of the module of surface reads. -/
def requireSurfaceReadKeys (entries : PyDict) (expected : List String) (name : String) :
    Except WireError Unit :=
  requireWire ((entries.all fun entry => expected.contains entry.1) &&
      expected.all fun key => (entries.map (·.1)).contains key)
    (.surfaceRead (name ++ " must contain the exact public fields"))

/-- `_enum(enum_type, value, name)` of the module of surface reads. -/
def surfaceReadEnumOf {α : Type} (members : List α) (value : α → String) (name : String)
    (found : PyValue) : Except WireError α :=
  memberIn (.surfaceRead (name ++ " must be text"))
    (.surfaceRead (name ++ " is unknown")) members value found

/-- `except NodeControlContractError`: the errors of the module become another; what
else is raised goes on. -/
def caughtContract {α : Type} (error : WireError) (x : Except WireError α) :
    Except WireError α :=
  x.mapError fun
    | .contract _ => error
    | .surfaceRead _ => error
    | raised => raised

/-- `WorkloadNodeControlSurfaceDeclarationCodec.decode(descriptor)`, up to the body. -/
def readDeclaration (descriptor : PyValue) :
    Except WireError (WorkloadNodeControlSurfaceDeclarationProfile × PyDict) := do
  let entries ← surfaceReadMapping descriptor "surface declaration"
  let _ ← surfaceReadBytes dumps descriptor maxSurfaceDeclarationBytes
    "surface declaration"
  requireSurfaceReadKeys entries ["profile", "surface"] "surface declaration"
  let profile ← surfaceReadEnumOf [WorkloadNodeControlSurfaceDeclarationProfile.v1]
    (·.value) "surface declaration profile" (getValue entries "profile")
  let body ← surfaceReadMapping (getValue entries "surface") "surface declaration body"
  return (profile, body)

/-- `WorkloadNodeControlSurfaceDeclarationCodec.decode(descriptor)`. -/
def decodeSurfaceDeclaration (descriptor : PyValue) :
    Except WireError WorkloadNodeControlSurfaceDeclaration := do
  let (profile, body) ← readDeclaration dumps descriptor
  let surface ← caughtContract (.surfaceRead "surface declaration body is malformed")
    (decodeSurface dumps (.dict body))
  let declaration : WorkloadNodeControlSurfaceDeclaration := ⟨surface, profile⟩
  let _ ← declaration.canonicalBytes dumps
  return declaration

/-! ## Results -/

/-- One closed evidence code with no free-form provider diagnostics. -/
structure NodeControlEvidence where
  code : NodeControlEvidenceCode
  deriving DecidableEq

def NodeControlEvidence.descriptor (evidence : NodeControlEvidence) : PyValue :=
  .dict [("code", .str evidence.code.value)]

/-- The outcome of one request: a state read, a transition made, a reason against
it, or a failure of the workload. -/
inductive NodeControlResult where
  | readStateSucceeded (requestId : String) (stateCodec : ControlPlaneStateCodec)
      (version : Int) (state : ControlStateValue)
  | transitionSucceeded (requestId : String) (version : Int)
      (evidence : NodeControlEvidence)
  | rejected (requestId : String) (operation : NodeControlOperation)
      (evidence : NodeControlEvidence)
  | failed (requestId : String) (operation : NodeControlOperation)

namespace NodeControlResult

def requestId : NodeControlResult → String
  | readStateSucceeded requestId .. => requestId
  | transitionSucceeded requestId .. => requestId
  | rejected requestId .. => requestId
  | failed requestId _ => requestId

def operation : NodeControlResult → NodeControlOperation
  | readStateSucceeded .. => .readState
  | transitionSucceeded .. => .applyCommand
  | rejected _ operation _ => operation
  | failed _ operation => operation

def status : NodeControlResult → NodeControlResultStatus
  | readStateSucceeded .. => .succeeded
  | transitionSucceeded .. => .succeeded
  | rejected .. => .rejected
  | failed .. => .failed

def codec (result : NodeControlResult) : ControlPlaneResultCodec :=
  result.operation.resultCodec

/-- The codec of the state a read carries. -/
def readCodec : NodeControlResult → Option ControlPlaneStateCodec
  | readStateSucceeded _ stateCodec .. => some stateCodec
  | _ => none

/-- What a result carries beside its request, operation, status and codec. -/
def outcome : NodeControlResult → PyDict
  | readStateSucceeded _ stateCodec version state =>
      [("state_codec", .str stateCodec.value), ("version", .int version),
        ("state", state.descriptor)]
  | transitionSucceeded _ version evidence =>
      [("version", .int version), ("evidence", evidence.descriptor)]
  | rejected _ _ evidence => [("evidence", evidence.descriptor)]
  | failed .. => [("evidence", (NodeControlEvidence.mk .internalFailure).descriptor)]

def descriptor (result : NodeControlResult) : PyValue :=
  .dict ([
    ("request_id", .str result.requestId),
    ("operation", .str result.operation.value),
    ("status", .str result.status.value),
    ("codec", .str result.codec.value)] ++ result.outcome)

/-- `_validate_version(value, "node-control result version")`. -/
def checkVersion (version : Int) : Except WireError Unit :=
  requireWire (isEpoch version)
    (.contract "node-control result version must be a bounded nonnegative integer")

/-- What a result checks of its outcome. -/
def checkOutcome : NodeControlResult → Except WireError Unit
  | readStateSucceeded _ stateCodec version state => do
      checkVersion version
      requireWire (state.kind = stateCodec.stateKind)
        (.contract "node-control read result state does not match state codec")
  | transitionSucceeded _ version evidence => do
      checkVersion version
      requireWire (evidence.code = .applied || evidence.code = .noChange)
        (.contract "successful transition evidence is contradictory")
  | rejected _ operation evidence =>
      requireWire (operation.rejectionEvidenceCodes.contains evidence.code)
        (.contract "node-control rejection evidence is contradictory")
  | failed .. => .ok ()

/-- What a result checks. -/
def check (result : NodeControlResult) : Except WireError Unit := do
  requireIdentifier result.requestId "node-control result request_id"
  result.checkOutcome
  validateDescriptorSize dumps result.descriptor "node-control result"

/-- `_validate_variable_contract(result)`. -/
def checkVariable (declared : ControlPlaneVariableDescriptor)
    (result : NodeControlResult) : Except WireError Unit := do
  let contract ← declared.contractFor result.operation
  requireWire (result.codec = contract.resultCodec)
    (.contract "node-control result codec does not match variable operation")
  requireWire (result.readCodec.all fun stateCodec => stateCodec = declared.stateCodec)
    (.contract "node-control read state codec does not match variable")

end NodeControlResult

/-- `_decode_result_evidence(value)`. -/
def decodeResultEvidence (value : PyValue) : Except WireError NodeControlEvidence := do
  let entries ← mapping value "node-control evidence"
  requireKeys entries ["code"] "node-control evidence"
  let code ← enumOf evidenceCodes (·.value)
    (getValue entries "code") "node-control evidence code"
  return ⟨code⟩

/-- A successful result of an operation. -/
def decodeSucceeded (entries : PyDict) :
    NodeControlOperation → Except WireError NodeControlResult
  | .readState => do
      requireKeys entries
        ["request_id", "operation", "status", "codec", "state_codec",
          "version", "state"]
        "node-control read success"
      let requestId ← textAt entries "request_id"
      let stateCodec ← enumOf stateCodecs (·.value) (getValue entries "state_codec")
        "node-control result state codec"
      let version ← integerAt entries "version"
      let state ← decodeState (getValue entries "state")
      return .readStateSucceeded requestId stateCodec version state
  | .applyCommand => do
      requireKeys entries ["request_id", "operation", "status", "codec", "version",
        "evidence"] "node-control transition success"
      let requestId ← textAt entries "request_id"
      let version ← integerAt entries "version"
      let evidence ← decodeResultEvidence (getValue entries "evidence")
      return .transitionSucceeded requestId version evidence

/-- A result of an operation by its status, before its own checks. -/
def decodeOutcome (entries : PyDict) (operation : NodeControlOperation) :
    NodeControlResultStatus → Except WireError NodeControlResult
  | .succeeded => decodeSucceeded entries operation
  | .rejected => do
      requireKeys entries ["request_id", "operation", "status", "codec", "evidence"]
        "node-control rejection"
      let requestId ← textAt entries "request_id"
      let evidence ← decodeResultEvidence (getValue entries "evidence")
      return .rejected requestId operation evidence
  | .failed => do
      requireKeys entries ["request_id", "operation", "status", "codec", "evidence"]
        "node-control failure"
      let evidence ← decodeResultEvidence (getValue entries "evidence")
      requireWire (evidence.code = .internalFailure)
        (.contract "node-control failure evidence is contradictory")
      let requestId ← textAt entries "request_id"
      return .failed requestId operation

/-- `NodeControlResultCodec(variable).decode(descriptor)`. -/
def decodeResult (declared : ControlPlaneVariableDescriptor) (descriptor : PyValue) :
    Except WireError NodeControlResult := do
  let entries ← mapping descriptor "node-control result"
  let operation ← enumOf operations (·.value) (getValue entries "operation")
    "node-control result operation"
  let status ← enumOf resultStatuses (·.value) (getValue entries "status")
    "node-control result status"
  let codec ← enumOf resultCodecs (·.value)
    (getValue entries "codec") "node-control result codec"
  let contract ← declared.contractFor operation
  requireWire (codec = contract.resultCodec)
    (.contract "node-control result codec does not match variable operation")
  let result ← decodeOutcome entries operation status
  result.check dumps
  result.checkVariable declared
  return result

end Canonical

end ControlPlaneKit.NodeControl
