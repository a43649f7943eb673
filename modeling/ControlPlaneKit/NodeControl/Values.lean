import ControlPlaneKit.Library.Outcome
import ControlPlaneKit.Library.Sha256
import ControlPlaneKit.NodeControl.PublicWire

/-!
# Values — targets, states and requests of the node-control boundary

A reference, a digest and a state can only be built when the language admits them.
A request is checked as a whole: what an operation carries, and the size of its
canonical bytes, which the library of canonical JSON makes.
-/

namespace ControlPlaneKit.NodeControl

open ControlPlaneKit.Library (PyDict PyError PyFloat PyValue)

/-- The exceptions of the three modules, and those of the host language that
escape from them. -/
inductive WireError where
  | contract (message : String)
  | transit (message : String)
  | surfaceRead (message : String)
  | escaped (error : PyError)
  deriving DecidableEq, Repr

/-- The exception is one that no module declares. -/
def WireError.Escapes : WireError → Prop
  | .escaped _ => True
  | _ => False

/-- Raise unless the condition holds. -/
def requireWire (condition : Bool) (error : WireError) : Except WireError Unit :=
  if condition then .ok () else .error error

@[simp] theorem requireWire_eq_ok {condition : Bool} {error : WireError} :
    requireWire condition error = .ok () ↔ condition = true := by
  unfold requireWire
  split <;> simp_all

/-! ## Texts -/

/-- The violation of a public text, raised under its name. -/
def raiseViolation (raise : String → WireError) (name shape : String) :
    Option NodeControlPublicWireViolation → Except WireError Unit
  | none => .ok ()
  | some .shapeInvalid => .error (raise (name ++ shape))
  | some .credentialEnvelope =>
      .error (raise (name ++ " violates credential-envelope public-material law"))
  | some .endpointEnvelope =>
      .error (raise (name ++ " violates endpoint-envelope public-material law"))

/-- What a text check of the wire raises itself is none of the module's errors. -/
def escaping {α : Type} : Except PyError α → Except WireError α
  | .ok a => .ok a
  | .error e => .error (.escaped e)

/-- `_require_identifier(value, name)` of a module. -/
def requireIdentifierAs (raise : String → WireError) (value name : String) :
    Except WireError Unit := do
  let violation ← escaping (identifierViolation value)
  raiseViolation raise name " must be a bounded identifier" violation

/-- `_require_reference(value, name)` of a module. -/
def requireReferenceAs (raise : String → WireError) (value name : String) :
    Except WireError Unit := do
  let violation ← escaping (referenceViolation value)
  raiseViolation raise name " must be a bounded reference" violation

def requireIdentifier (value name : String) : Except WireError Unit :=
  requireIdentifierAs .contract value name

def requireReference (value name : String) : Except WireError Unit :=
  requireReferenceAs .contract value name

/-- `_require_epoch(value, name)`. -/
def requireEpoch (value : Int) (name : String) : Except WireError Unit :=
  requireWire (isEpoch value)
    (.contract (name ++ " must be a bounded nonnegative integer epoch second"))

/-! ## Enumerations -/

inductive NodeControlOperation where
  | readState
  | applyCommand
  deriving DecidableEq, Repr

def NodeControlOperation.value : NodeControlOperation → String
  | .readState => "read-state"
  | .applyCommand => "apply-command"

inductive NodeControlCanonicalization where
  | jcsRfc8785V1
  deriving DecidableEq, Repr

def NodeControlCanonicalization.value : NodeControlCanonicalization → String
  | .jcsRfc8785V1 => "jcs-rfc8785.v1"

inductive NodeControlGraphReferenceRole where
  | workspace
  | graphRevision
  | node
  | providerSocket
  | variable
  | target
  deriving DecidableEq, Repr

inductive ControlPlaneVariableKind where
  | scalar
  | map
  | weightedRouting
  deriving DecidableEq, Repr

def ControlPlaneVariableKind.value : ControlPlaneVariableKind → String
  | .scalar => "scalar"
  | .map => "map"
  | .weightedRouting => "weighted-routing"

inductive ControlPlaneCommandCodec where
  | replaceScalarV1
  | replaceMapV1
  | replaceWeightedRoutingV1
  deriving DecidableEq, Repr

def ControlPlaneCommandCodec.value : ControlPlaneCommandCodec → String
  | .replaceScalarV1 => "control.replace-scalar.v1"
  | .replaceMapV1 => "control.replace-map.v1"
  | .replaceWeightedRoutingV1 => "control.replace-weighted-routing.v1"

/-- `_COMMAND_STATE_TYPES`, by the kind of the state. -/
def ControlPlaneCommandCodec.stateKind :
    ControlPlaneCommandCodec → ControlPlaneVariableKind
  | .replaceScalarV1 => .scalar
  | .replaceMapV1 => .map
  | .replaceWeightedRoutingV1 => .weightedRouting

/-! ## References -/

/-- Producer-attested graph reference in its nominal role. -/
structure NodeControlGraphReference (role : NodeControlGraphReferenceRole) where
  value : String
  accepted : requireIdentifier value "node-control graph reference" = .ok ()

namespace NodeControlGraphReference

variable {role : NodeControlGraphReferenceRole}

theorem eq_of_value {a b : NodeControlGraphReference role}
    (h : a.value = b.value) : a = b := by
  cases a
  cases b
  cases h
  rfl

instance : DecidableEq (NodeControlGraphReference role) := fun a b =>
  decidable_of_iff (a.value = b.value) ⟨eq_of_value, congrArg _⟩

/-- `NodeControlGraphReference(role, value)`. -/
def of (role : NodeControlGraphReferenceRole) (value : String) :
    Except WireError (NodeControlGraphReference role) :=
  match h : requireIdentifier value "node-control graph reference" with
  | .ok () => .ok ⟨value, h⟩
  | .error e => .error e

theorem of_value (reference : NodeControlGraphReference role) :
    of role reference.value = .ok reference := by
  unfold of
  split
  · rfl
  · rename_i e h
    rw [reference.accepted] at h
    cases h

end NodeControlGraphReference

/-- Graph-bound workload control destination without an endpoint value. -/
structure NodeControlTarget where
  workspaceId : NodeControlGraphReference .workspace
  graphRevision : NodeControlGraphReference .graphRevision
  nodeId : NodeControlGraphReference .node
  providerSocketName : NodeControlGraphReference .providerSocket
  deriving DecidableEq

def NodeControlTarget.descriptor (target : NodeControlTarget) : PyValue :=
  .dict [
    ("workspace_id", .str target.workspaceId.value),
    ("graph_revision", .str target.graphRevision.value),
    ("node_id", .str target.nodeId.value),
    ("provider_socket_name", .str target.providerSocketName.value)]

/-- `workload_node_control_audience(target)`. -/
def workloadNodeControlAudience (target : NodeControlTarget) :
    Except WireError String := do
  let audience :=
    "workload:" ++ target.nodeId.value ++ ":" ++ target.providerSocketName.value
  requireReference audience "workload grant audience"
  return audience

/-! ## States -/

/-- A number that is zero with a minus sign. -/
def isNegativeZero (x : PyFloat) : Bool :=
  x.integral = some 0 && x.text.toList.head? = some '-'

def isFinite (x : PyFloat) : Bool :=
  !(["NaN", "Infinity", "-Infinity"].contains x.text)

/-- `float(n)` of an integer in the interoperable range. -/
def floatOfInt (n : Int) : PyFloat where
  text := toString n ++ ".0"
  integral := some n
  plain _ hm _ := .inl (Option.some.inj hm ▸ rfl)

/-- `abs(value) <= _MAX_SAFE_INTEGER`. -/
def isSafeInteger (n : Int) : Bool := n.natAbs ≤ maxSafeInteger

/-- `_validate_scalar(value, name)`. -/
def validateScalar (value : PyValue) (name : String) : Except WireError Unit :=
  match value with
  | .none | .bool _ => .ok ()
  | .int n =>
      requireWire (isSafeInteger n) (.contract (name ++ " integer is out of bounds"))
  | .float x => requireWire (isFinite x && !isNegativeZero x)
      (.contract (name ++ " number must be finite and not negative zero"))
  | .str text => requireIdentifier text name
  | _ => .error (.contract (name ++ " must be a public scalar"))

/-- One bounded public scalar state value. -/
structure ScalarControlState where
  value : PyValue
  accepted : validateScalar value "scalar state" = .ok ()

/-- One immutable bounded map of public scalar state values, its keys in order. -/
structure MapControlState where
  entries : PyDict
  bounded : entries.length ≤ 128
  keys : ∀ entry ∈ entries, requireIdentifier entry.1 "map state key" = .ok ()
  values : ∀ entry ∈ entries, validateScalar entry.2 "map state value" = .ok ()
  ordered : entries.Pairwise fun a b => a.1 < b.1

/-- A weight once it is a number: finite, not negative and not negative zero. -/
def isWeight (x : PyFloat) : Bool :=
  isFinite x && x.text.toList.head? ≠ some '-' && x.integral.all (0 ≤ ·)

def isPositive (x : PyFloat) : Bool :=
  x.integral ≠ some 0 && x.text.toList.head? ≠ some '-'

/-- One atomic graph-target set and corresponding finite weight snapshot, both in
the order of the targets. -/
structure WeightedRoutingControlState where
  weights : List (NodeControlGraphReference .target × PyFloat)
  nonempty : weights ≠ []
  bounded : weights.length ≤ 128
  valid : ∀ entry ∈ weights, isWeight entry.2 = true
  positive : ∃ entry ∈ weights, isPositive entry.2 = true
  ordered : weights.Pairwise fun a b => a.1.value < b.1.value

def WeightedRoutingControlState.targets (state : WeightedRoutingControlState) :
    List (NodeControlGraphReference .target) :=
  state.weights.map (·.1)

inductive ControlStateValue where
  | scalar (state : ScalarControlState)
  | map (state : MapControlState)
  | weightedRouting (state : WeightedRoutingControlState)

def ControlStateValue.kind : ControlStateValue → ControlPlaneVariableKind
  | .scalar _ => .scalar
  | .map _ => .map
  | .weightedRouting _ => .weightedRouting

def ControlStateValue.descriptor : ControlStateValue → PyValue
  | .scalar state => .dict [("kind", .str ControlPlaneVariableKind.scalar.value),
      ("value", state.value)]
  | .map state => .dict [("kind", .str ControlPlaneVariableKind.map.value),
      ("entries", .dict state.entries)]
  | .weightedRouting state =>
      .dict [("kind", .str ControlPlaneVariableKind.weightedRouting.value), ("targets",
        .list (state.targets.map fun target => .str target.value)), ("weights", .dict
        (state.weights.map fun entry => (entry.1.value, .float entry.2)))]

/-! ## Canonical bytes -/

abbrev Bytes := List UInt8

/-- `rfc8785.dumps`: the canonical bytes of a value, or none outside the domain. -/
abbrev CanonicalJson := PyValue → Option Bytes

/-- `hashlib.sha256(encoded).hexdigest()`. -/
def sha256OfBytes (encoded : Bytes) : String :=
  String.ofList (Library.Sha256.hexdigestChars (encoded.map UInt8.toNat))

section Canonical

variable (dumps : CanonicalJson)

/-- The canonical bytes of a descriptor within a bound; each module raises its own. -/
def boundedCanonicalBytes (raise : String → WireError) (exceeds : String)
    (descriptor : PyValue) (maximum : Nat) (name : String) : Except WireError Bytes :=
  match dumps descriptor with
  | none => .error (raise (name ++ " is outside the canonical JSON domain"))
  | some encoded =>
      if encoded.length ≤ maximum then .ok encoded else .error (raise (name ++ exceeds))

/-- `_bounded_canonical_bytes(descriptor, maximum, name)`. -/
def wireBytes (descriptor : PyValue) (maximum : Nat) (name : String) :
    Except WireError Bytes :=
  boundedCanonicalBytes dumps .contract " exceeds the public size bound"
    descriptor maximum name

/-- `MAX_NODE_CONTROL_PAYLOAD_BYTES`. -/
def maxNodeControlPayloadBytes : Nat := 16384

/-- `_validate_descriptor_size(descriptor, name)`. -/
def validateDescriptorSize (descriptor : PyValue) (name : String) :
    Except WireError Unit := do
  let _ ← wireBytes dumps descriptor maxNodeControlPayloadBytes name
  return ()

/-! ## Requests -/

/-- Expected complete-state version for one atomic transition. -/
structure ControlPlaneTransitionPrecondition where
  expectedVersion : Int
  accepted : isEpoch expectedVersion = true
  deriving DecidableEq

def ControlPlaneTransitionPrecondition.descriptor
    (precondition : ControlPlaneTransitionPrecondition) : PyValue :=
  .dict [("expected_version", .int precondition.expectedVersion)]

/-- Bounded typed command payload; never arbitrary HTTP request material. -/
structure NodeControlPayload where
  codec : ControlPlaneCommandCodec
  state : ControlStateValue

def NodeControlPayload.descriptor (payload : NodeControlPayload) : PyValue :=
  .dict [("codec", .str payload.codec.value), ("state", payload.state.descriptor)]

/-- What `NodeControlPayload` checks. -/
def NodeControlPayload.check (payload : NodeControlPayload) :
    Except WireError Unit := do
  requireWire (payload.state.kind = payload.codec.stateKind)
    (.contract "node-control payload state does not match command codec")
  validateDescriptorSize dumps payload.descriptor "node-control payload"

/-- Canonical digest of one complete bounded node-control request. -/
structure NodeControlRequestDigest where
  value : String
  accepted : isDigest value = true
  deriving DecidableEq

/-- One exact semantic read or state-transition request. -/
structure NodeControlCommandRequest where
  target : NodeControlTarget
  variableName : NodeControlGraphReference .variable
  operation : NodeControlOperation
  requestId : String
  idempotencyKey : String
  commandCodec : Option ControlPlaneCommandCodec
  precondition : Option ControlPlaneTransitionPrecondition
  payload : Option NodeControlPayload
  canonicalization : NodeControlCanonicalization

/-- A codec or `None`. -/
def codecOrNone : Option ControlPlaneCommandCodec → PyValue
  | some codec => .str codec.value
  | none => .none

def NodeControlCommandRequest.descriptor
    (request : NodeControlCommandRequest) : PyValue :=
  .dict [
    ("target", request.target.descriptor),
    ("variable_name", .str request.variableName.value),
    ("operation", .str request.operation.value),
    ("request_id", .str request.requestId),
    ("idempotency_key", .str request.idempotencyKey),
    ("canonicalization", .str request.canonicalization.value),
    ("command_codec", codecOrNone request.commandCodec),
    ("precondition", (request.precondition.map (·.descriptor)).getD .none),
    ("payload", (request.payload.map (·.descriptor)).getD .none)]

/-- What an operation carries: nothing, or a codec, a precondition and its payload. -/
def NodeControlCommandRequest.checkOperation (request : NodeControlCommandRequest) :
    Except WireError Unit :=
  match request.operation, request.commandCodec, request.precondition,
      request.payload with
  | .readState, none, none, none => .ok ()
  | .readState, _, _, _ =>
      .error (.contract "read-state request must not carry command material")
  | .applyCommand, some codec, some _, some payload =>
      requireWire (payload.codec = codec)
        (.contract "request command codec must match payload codec")
  | .applyCommand, _, _, _ =>
      .error (.contract
        "apply-command request requires codec, precondition, and payload")

/-- What `NodeControlCommandRequest` checks. -/
def NodeControlCommandRequest.check (request : NodeControlCommandRequest) :
    Except WireError Unit := do
  requireIdentifier request.requestId "node-control request_id"
  requireIdentifier request.idempotencyKey "node-control idempotency_key"
  request.checkOperation
  validateDescriptorSize dumps request.descriptor "node-control request"

/-- The request can be built: it passes its own checks, and so does its payload. -/
def NodeControlCommandRequest.Constructible
    (request : NodeControlCommandRequest) : Prop :=
  request.check dumps = .ok () ∧ ∀ payload ∈ request.payload,
    payload.check dumps = .ok ()

/-- `request.canonical_bytes()`. -/
def NodeControlCommandRequest.canonicalBytes (request : NodeControlCommandRequest) :
    Except WireError Bytes :=
  match dumps request.descriptor with
  | none =>
      .error (.contract "node-control request is outside the canonical JSON domain")
  | some encoded => .ok encoded

/-- `request.canonical_digest()`, by its value. -/
def NodeControlCommandRequest.canonicalDigest (request : NodeControlCommandRequest) :
    Except WireError String :=
  (request.canonicalBytes dumps).map sha256OfBytes

end Canonical

end ControlPlaneKit.NodeControl
