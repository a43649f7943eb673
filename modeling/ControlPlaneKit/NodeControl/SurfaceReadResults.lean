import ControlPlaneKit.NodeControl.Declarations

/-!
# SurfaceReadResults — what answers one read of a declared surface

A capabilities result carries the declaration, a status result the names that are
installed and how far they cover it.  A codec is bound to one request and one
declaration: it reads only what answers them, and nothing wider than the widest answer
in its context.
-/

namespace ControlPlaneKit.NodeControl

open ControlPlaneKit.Library (PyDict PyError PyValue)

deriving instance DecidableEq for WorkloadNodeControlSurfaceDescriptor

deriving instance DecidableEq for WorkloadNodeControlSurfaceDeclaration

/-! ## Enumerations -/

inductive NodeControlSurfaceReadResultProfile where
  | v1
  deriving DecidableEq, Repr

def NodeControlSurfaceReadResultProfile.value :
    NodeControlSurfaceReadResultProfile → String
  | .v1 => "workload-node-control-surface-read-result.v1"

/-- How much of a declared surface is installed: nothing, a part, or all of it. -/
inductive NodeControlSurfaceRegistryCoverage where
  | nothing
  | part
  | complete
  deriving DecidableEq, Repr

def NodeControlSurfaceRegistryCoverage.value :
    NodeControlSurfaceRegistryCoverage → String
  | .nothing => "none"
  | .part => "partial"
  | .complete => "complete"

def coverages : List NodeControlSurfaceRegistryCoverage := [.nothing, .part, .complete]

def surfaceReadKinds : List NodeControlSurfaceReadKind := [.capabilities, .status]

/-! ## Installed names -/

/-- `_declared_variable_names(declaration)`. -/
def declaredVariableNames (declaration : WorkloadNodeControlSurfaceDeclaration) :
    List (NodeControlGraphReference .variable) :=
  declaration.surface.declaredVariables.map (·.variableName)

/-- `_validate_installed_variable_names(declaration, installed)`. -/
def validateInstalledVariableNames (declaration : WorkloadNodeControlSurfaceDeclaration)
    (installed : List (NodeControlGraphReference .variable)) :
    Except WireError Unit := do
  requireWire (installed.length ≤ 128)
    (.surfaceRead "surface-read result contains too many installed variable names")
  requireWire (installed = installed.mergeSort fun a b => a.value ≤ b.value)
    (.surfaceRead "surface-read installed variable names must be canonical")
  requireWire (decide (installed.map (·.value)).Nodup)
    (.surfaceRead "surface-read installed variable names must be unique")
  requireWire (installed.all fun name => (declaredVariableNames declaration).contains
    name) (.surfaceRead "surface-read installed variable name is undeclared")

/-- `_derive_registry_coverage(declaration, installed)`. -/
def deriveRegistryCoverage (declaration : WorkloadNodeControlSurfaceDeclaration)
    (installed : List (NodeControlGraphReference .variable)) :
    NodeControlSurfaceRegistryCoverage :=
  if installed = [] then .nothing
  else if installed = declaredVariableNames declaration then .complete
  else .part

/-! ## Results -/

/-- `NodeControlSurfaceCapabilitiesResult` and `NodeControlSurfaceStatusResult`. -/
inductive NodeControlSurfaceReadResult where
  | capabilities (request : NodeControlSurfaceReadRequest)
      (declaration : WorkloadNodeControlSurfaceDeclaration)
  | status (request : NodeControlSurfaceReadRequest)
      (declaration : WorkloadNodeControlSurfaceDeclaration)
      (installedVariableNames : List (NodeControlGraphReference .variable))
  deriving DecidableEq

namespace NodeControlSurfaceReadResult

def request : NodeControlSurfaceReadResult → NodeControlSurfaceReadRequest
  | capabilities request _ => request
  | status request _ _ => request

def declaration : NodeControlSurfaceReadResult → WorkloadNodeControlSurfaceDeclaration
  | capabilities _ declaration => declaration
  | status _ declaration _ => declaration

def kind : NodeControlSurfaceReadResult → NodeControlSurfaceReadKind
  | capabilities .. => .capabilities
  | status .. => .status

end NodeControlSurfaceReadResult

def resultMessage (kind : NodeControlSurfaceReadKind) : String :=
  match kind with
  | .capabilities => "surface-read capability result"
  | .status => "surface-read status result"

/-- `MAX_NODE_CONTROL_SURFACE_CAPABILITIES_RESULT_BYTES` and
`MAX_NODE_CONTROL_SURFACE_STATUS_RESULT_BYTES`. -/
def maxResultBytes : NodeControlSurfaceReadKind → Nat
  | .capabilities => 16902
  | .status => 4811

section Canonical

variable (dumps : CanonicalJson)

/-- `_validate_context(request, declaration)`. -/
def validateContext (request : NodeControlSurfaceReadRequest)
    (declaration : WorkloadNodeControlSurfaceDeclaration) : Except WireError Unit := do
  let identity ← declaration.identity dumps
  requireWire (request.declarationIdentity.value = identity)
    (.surfaceRead "surface-read result declaration does not match request")
  requireWire (request.target.providerSocketName =
    declaration.surface.providerSocketName)
    (.surfaceRead "surface-read result declaration socket does not match request")

namespace NodeControlSurfaceReadResult

/-- What a result carries beside its claims. -/
def outcome : NodeControlSurfaceReadResult → PyDict
  | capabilities _ declaration => [("declaration", declaration.descriptor)]
  | status _ declaration installed =>
      [("installed_variable_names", .list (installed.map (.str ·.value))),
        ("registry_coverage",
          .str (deriveRegistryCoverage declaration installed).value)]

/-- The descriptor under the digest of the request and the identity of the
declaration. -/
def descriptorOf (result : NodeControlSurfaceReadResult)
    (requestDigest identity : String) : PyValue :=
  .dict ([
    ("profile", .str NodeControlSurfaceReadResultProfile.v1.value),
    ("canonicalization", .str NodeControlCanonicalization.jcsRfc8785V1.value),
    ("request_id", .str result.request.requestId),
    ("request_digest", .str requestDigest),
    ("kind", .str result.kind.value),
    ("declaration_identity", .str identity)] ++ result.outcome)

/-- `result.descriptor()`. -/
def descriptor (result : NodeControlSurfaceReadResult) : Except WireError PyValue := do
  let requestDigest ← result.request.canonicalDigest dumps
  let identity ← result.declaration.identity dumps
  return result.descriptorOf requestDigest identity

/-- `result.canonical_bytes()`. -/
def canonicalBytes (result : NodeControlSurfaceReadResult) :
    Except WireError Bytes := do
  let descriptor ← result.descriptor dumps
  surfaceReadBytes dumps descriptor (maxResultBytes result.kind)
    (resultMessage result.kind)

/-- What a result checks of the request's kind and of the installed names. -/
def checkOutcome : NodeControlSurfaceReadResult → Except WireError Unit
  | capabilities request _ => requireWire (request.kind = .capabilities)
      (.surfaceRead
        "surface-read capability result kind requires a capabilities request")
  | status request declaration installed => do
      requireWire (request.kind = .status)
        (.surfaceRead "surface-read status result kind requires a status request")
      validateInstalledVariableNames declaration installed

/-- What a result checks before its size. -/
def checkFields (result : NodeControlSurfaceReadResult) : Except WireError Unit := do
  validateContext dumps result.request result.declaration
  result.checkOutcome

/-- What a result checks. -/
def check (result : NodeControlSurfaceReadResult) : Except WireError Unit := do
  result.checkFields dumps
  let _ ← result.canonicalBytes dumps
  return ()

end NodeControlSurfaceReadResult

/-! ## The codec of a context -/

/-- `NodeControlSurfaceReadResultCodec`. -/
structure NodeControlSurfaceReadResultCodec where
  request : NodeControlSurfaceReadRequest
  declaration : WorkloadNodeControlSurfaceDeclaration
  contextMaximum : Nat

/-- A result once it is built. -/
def built (result : NodeControlSurfaceReadResult) :
    Except WireError NodeControlSurfaceReadResult := do
  result.check dumps
  return result

/-- The widest result of a context. -/
def widestResult (request : NodeControlSurfaceReadRequest)
    (declaration : WorkloadNodeControlSurfaceDeclaration) :
    NodeControlSurfaceReadResult :=
  match request.kind with
  | .capabilities => .capabilities request declaration
  | .status => .status request declaration (declaredVariableNames declaration)

/-- `self._derive_context_maximum()`. -/
def deriveContextMaximum (request : NodeControlSurfaceReadRequest)
    (declaration : WorkloadNodeControlSurfaceDeclaration) : Except WireError Nat := do
  let result ← built dumps (widestResult request declaration)
  let encoded ← result.canonicalBytes dumps
  return encoded.length

/-- `_enum(enum_type, value, name)` of the module of results. -/
def resultEnumOf {α : Type} (members : List α) (value : α → String) (name : String)
    (found : PyValue) : Except WireError α :=
  memberIn (.surfaceRead (name ++ " is unknown"))
    (.surfaceRead (name ++ " is unknown")) members value found

/-- `_text(mapping, key)` of the module of results. -/
def resultText (entries : PyDict) (key : String) : Except WireError String :=
  textOf (.surfaceRead "surface-read result field must be text") (getValue entries key)

/-- One installed variable name. -/
def decodeInstalledName (value : PyValue) :
    Except WireError (NodeControlGraphReference .variable) := do
  let text ← textOf
    (.surfaceRead "surface-read result installed variable name must be text") value
  NodeControlGraphReference.of .variable text

namespace NodeControlSurfaceReadResultCodec

/-- `NodeControlSurfaceReadResultCodec(request, declaration)`. -/
def of (request : NodeControlSurfaceReadRequest)
    (declaration : WorkloadNodeControlSurfaceDeclaration) :
    Except WireError NodeControlSurfaceReadResultCodec := do
  validateContext dumps request declaration
  let contextMaximum ← deriveContextMaximum dumps request declaration
  return ⟨request, declaration, contextMaximum⟩

variable (codec : NodeControlSurfaceReadResultCodec)

/-- `self._validate_result_context(result)`. -/
def validateResultContext (result : NodeControlSurfaceReadResult) :
    Except WireError Unit := do
  requireWire (result.kind = codec.request.kind)
    (.surfaceRead "surface-read result kind does not match expected request")
  requireWire (result.request = codec.request)
    (.surfaceRead "surface-read result request does not match expected request")
  requireWire (result.declaration = codec.declaration)
    (.surfaceRead "surface-read result declaration does not match expected declaration")

/-- `codec.encode(result)`. -/
def encode (result : NodeControlSurfaceReadResult) : Except WireError PyValue := do
  codec.validateResultContext result
  result.descriptor dumps

/-- The fields of a result of a kind. -/
def resultKeys : NodeControlSurfaceReadKind → List String
  | .capabilities =>
      ["profile", "canonicalization", "request_id", "request_digest", "kind",
      "declaration_identity", "declaration"]
  | .status => ["profile", "canonicalization", "request_id", "request_digest", "kind",
      "declaration_identity", "installed_variable_names", "registry_coverage"]

/-- `self._validate_common_claims(mapping)`. -/
def validateCommonClaims (entries : PyDict) : Except WireError Unit := do
  let _ ← resultEnumOf [NodeControlSurfaceReadResultProfile.v1] (·.value)
    "surface-read result profile" (getValue entries "profile")
  let _ ← resultEnumOf [NodeControlCanonicalization.jcsRfc8785V1] (·.value)
    "surface-read result canonicalization" (getValue entries "canonicalization")
  let kind ← resultEnumOf surfaceReadKinds (·.value) "surface-read result kind"
    (getValue entries "kind")
  requireWire (kind = codec.request.kind)
    (.surfaceRead "surface-read result kind does not match expected request")
  let requestId ← resultText entries "request_id"
  requireWire (requestId = codec.request.requestId)
    (.surfaceRead "surface-read result request does not match expected request")
  let requestDigest ← resultText entries "request_digest"
  let expectedDigest ← codec.request.canonicalDigest dumps
  requireWire (requestDigest = expectedDigest)
    (.surfaceRead "surface-read result request does not match expected request")
  let identity ← resultText entries "declaration_identity"
  let expectedIdentity ← codec.declaration.identity dumps
  requireWire (identity = expectedIdentity)
    (.surfaceRead "surface-read result declaration does not match expected declaration")

/-- What a capabilities result carries. -/
def decodeCapabilities (entries : PyDict) :
    Except WireError NodeControlSurfaceReadResult := do
  let raw ← surfaceReadMapping
    (getValue entries "declaration") "surface-read result declaration"
  let decoded ← caughtContract
    (.surfaceRead "surface-read result declaration is malformed")
    (decodeSurfaceDeclaration dumps (.dict raw))
  requireWire (decoded = codec.declaration)
    (.surfaceRead "surface-read result declaration does not match expected declaration")
  built dumps (.capabilities codec.request codec.declaration)

/-- What a status result carries. -/
def decodeStatus (entries : PyDict) :
    Except WireError NodeControlSurfaceReadResult := do
  let names ← listOf
    (.surfaceRead "surface-read result installed variable names must be a list")
    (getValue entries "installed_variable_names")
  requireWire (names.length ≤ 128)
    (.surfaceRead "surface-read result contains too many installed variable names")
  let installed ← caughtContract
    (.surfaceRead "surface-read result installed variable names are malformed")
    (names.mapM decodeInstalledName)
  validateInstalledVariableNames codec.declaration installed
  let coverage ← resultEnumOf coverages (·.value)
    "surface-read result registry coverage" (getValue entries "registry_coverage")
  requireWire (coverage = deriveRegistryCoverage codec.declaration installed)
    (.surfaceRead "surface-read result registry coverage is contradictory")
  built dumps (.status codec.request codec.declaration installed)

/-- What `codec.decode(descriptor)` checks before it reads what a result carries. -/
def readResult (descriptor : PyValue) : Except WireError PyDict := do
  let entries ← surfaceReadMapping descriptor "surface-read result"
  let encoded ← surfaceReadBytes dumps (.dict entries)
    (maxResultBytes codec.request.kind) "surface-read result"
  requireWire (encoded.length ≤ codec.contextMaximum)
    (.surfaceRead "surface-read result context aggregate exceeds the bound")
  requireSurfaceReadKeys entries (resultKeys codec.request.kind)
    (resultMessage codec.request.kind)
  codec.validateCommonClaims dumps entries
  return entries

/-- `codec.decode(descriptor)`. -/
def decode (descriptor : PyValue) : Except WireError NodeControlSurfaceReadResult := do
  let entries ← codec.readResult dumps descriptor
  match codec.request.kind with
  | .capabilities => codec.decodeCapabilities dumps entries
  | .status => codec.decodeStatus dumps entries

end NodeControlSurfaceReadResultCodec

end Canonical

end ControlPlaneKit.NodeControl
