import ControlPlaneKit.Library.EventFold
import ControlPlaneKit.Library.JsonText
import ControlPlaneKit.NodeControl.SurfaceReads
import ControlPlaneKit.NodeControl.Transit
import Mathlib.Data.List.Dedup
import Mathlib.Data.List.Sort

/-!
# Codec — decoding requests and grants

Decoding reads dynamic values key by key, in the order of the source, and builds the
values the language admits.  Canonical bytes are parsed, decoded, and accepted only
if encoding the result gives the same bytes.  A text with half a surrogate pair, which
`json.loads` keeps, is read with U+FFFD in its place: neither encodes to the bytes that
were read, so both are refused.
-/

namespace ControlPlaneKit.NodeControl

open ControlPlaneKit.Library (PyDict PyError PyFloat PyValue)
open ControlPlaneKit.Library.EventFold (check_bind_ok)
open ControlPlaneKit.Library.JsonText (built intOfToken parse)
open ControlPlaneKit.Topology (DelegationKeyPurpose)

/-! ## Reading dictionaries -/

/-- `mapping.get(key)`. -/
def getValue (entries : PyDict) (key : String) : PyValue :=
  (entries.lookup key).getD .none

/-- `_mapping(value, name)`; keys are texts. -/
def mappingOf (value : PyValue) (error : WireError) : Except WireError PyDict :=
  match value with
  | .dict entries => .ok entries
  | _ => .error error

def mapping (value : PyValue) (name : String) : Except WireError PyDict :=
  mappingOf value (.contract (name ++ " must be an object"))

/-- `_require_keys(mapping, expected, name)`. -/
def requireKeys (entries : PyDict) (expected : List String) (name : String) :
    Except WireError Unit := do
  requireWire (entries.all fun entry => expected.contains entry.1)
    (.contract (name ++ " has unknown fields"))
  requireWire (expected.all fun key => (entries.map (·.1)).contains key)
    (.contract (name ++ " is missing required fields"))

/-- A text, or the module's error. -/
def textOf (error : WireError) : PyValue → Except WireError String
  | .str text => .ok text
  | _ => .error error

/-- `_text(mapping, key)`. -/
def textAt (entries : PyDict) (key : String) : Except WireError String :=
  textOf (.contract (key ++ " must be text")) (getValue entries key)

/-- An integer, or the module's error. -/
def integerOf (error : WireError) : PyValue → Except WireError Int
  | .int n => .ok n
  | _ => .error error

/-- `_integer(mapping, key)`. -/
def integerAt (entries : PyDict) (key : String) : Except WireError Int :=
  integerOf (.contract (key ++ " must be an integer")) (getValue entries key)

/-- A member of a closed enumeration by its text. -/
def memberOf {α : Type} (members : List α) (value : α → String) (unknown : WireError)
    (text : String) : Except WireError α :=
  match members.find? fun member => value member = text with
  | some member => .ok member
  | none => .error unknown

/-- A member of a closed enumeration, which a text names. -/
def memberIn {α : Type} (malformed unknown : WireError) (members : List α)
    (value : α → String) (found : PyValue) : Except WireError α := do
  let text ← textOf malformed found
  memberOf members value unknown text

/-- `_enum(enum_type, value, name)`. -/
def enumOf {α : Type} (members : List α) (value : α → String) (found : PyValue)
    (name : String) : Except WireError α :=
  memberIn (.contract (name ++ " must be text"))
    (.contract (name ++ " is unknown")) members value found

/-- A value that may be `None`. -/
def optionalOf {α : Type} (found : PyValue) (decode : PyValue → Except WireError α) :
    Except WireError (Option α) :=
  match found with
  | .none => .ok none
  | _ => (decode found).map some

def operations : List NodeControlOperation := [.readState, .applyCommand]

def commandCodecs : List ControlPlaneCommandCodec :=
  [.replaceScalarV1, .replaceMapV1, .replaceWeightedRoutingV1]

def variableKinds : List ControlPlaneVariableKind := [.scalar, .map, .weightedRouting]

def commandCodecOf (name : String) (found : PyValue) :
    Except WireError ControlPlaneCommandCodec :=
  enumOf commandCodecs (·.value) found name

/-! ## Targets -/

/-- `_decode_graph_reference(mapping, key, role)`. -/
def decodeGraphReference (entries : PyDict) (key : String)
    (role : NodeControlGraphReferenceRole) :
    Except WireError (NodeControlGraphReference role) := do
  let text ← textAt entries key
  NodeControlGraphReference.of role text

def targetKeys : List String :=
  ["workspace_id", "graph_revision", "node_id", "provider_socket_name"]

/-- `_decode_target(value)`. -/
def decodeTarget (value : PyValue) : Except WireError NodeControlTarget := do
  let entries ← mapping value "node-control target"
  requireKeys entries targetKeys "node-control target"
  let workspaceId ← decodeGraphReference entries "workspace_id" .workspace
  let graphRevision ← decodeGraphReference entries "graph_revision" .graphRevision
  let nodeId ← decodeGraphReference entries "node_id" .node
  let providerSocketName ←
    decodeGraphReference entries "provider_socket_name" .providerSocket
  return ⟨workspaceId, graphRevision, nodeId, providerSocketName⟩

/-! ## States -/

/-- `ScalarControlState(value)`. -/
def ScalarControlState.of (value : PyValue) : Except WireError ScalarControlState :=
  match h : validateScalar value "scalar state" with
  | .ok () => .ok ⟨value, h⟩
  | .error e => .error e

/-- Entries in the order of their keys, each key once. -/
theorem ordered_mergeSort {α : Type} {l : List α} {key : α → String}
    (h : (l.map key).Nodup) :
    (l.mergeSort fun a b => key a ≤ key b).Pairwise fun a b => key a < key b := by
  have hsorted : (l.mergeSort fun a b => key a ≤ key b).Pairwise
      fun a b => decide (key a ≤ key b) = true := List.pairwise_mergeSort
    (fun a b c hab hbc =>
      decide_eq_true ((of_decide_eq_true hab).trans (of_decide_eq_true hbc)))
    (fun a b => by simpa using le_total (key a) (key b)) l
  have hnodup : ((l.mergeSort fun a b => key a ≤ key b).map key).Nodup :=
    ((List.mergeSort_perm l _).map key).nodup_iff.mpr h
  have hboth := hsorted.and (List.pairwise_map.mp hnodup)
  exact hboth.imp fun hab => lt_of_le_of_ne (of_decide_eq_true hab.1) hab.2

/-- One entry of a map: its key, then its value. -/
def checkMapEntry (entry : String × PyValue) : Except WireError Unit := do
  requireIdentifier entry.1 "map state key"
  validateScalar entry.2 "map state value"

/-- `MapControlState(entries)`. -/
def MapControlState.of (entries : PyDict) : Except WireError MapControlState :=
  if hbounded : 128 < entries.length then
    .error (.contract "map state has too many entries")
  else match hchecked : entries.forM checkMapEntry with
    | .error e => .error e
    | .ok () =>
        if hkeys : (entries.map (·.1)).Nodup then
          have hentry : ∀ entry ∈ entries.mergeSort fun a b => a.1 ≤ b.1,
              checkMapEntry entry = .ok () := fun entry hentry =>
            Library.Outcome.forM_eq_ok.mp hchecked entry (List.mem_mergeSort.mp hentry)
          .ok
            { entries := entries.mergeSort fun a b => a.1 ≤ b.1
              bounded := by rw [List.length_mergeSort]; omega
              keys := fun entry h => (check_bind_ok.mp (hentry entry h)).1
              values := fun entry h => (check_bind_ok.mp (hentry entry h)).2
              ordered := ordered_mergeSort hkeys }
        else .error (.contract "map state keys must be unique")

/-- One weight, as the number it is kept as. -/
def weightOf : PyValue → Except WireError PyFloat
  | .int n =>
      if n < 0 || !isSafeInteger n then
        .error (.contract
          "weighted routing weight integer is negative or out of bounds")
      else .ok (floatOfInt n)
  | .float x =>
      if isWeight x then .ok x
      else .error (.contract
        ("weighted routing weights must be finite, nonnegative, " ++
        "and not negative zero"))
  | _ => .error (.contract "weighted routing weights must be finite and nonnegative")

/-- A nonnegative integer is a weight as a number. -/
theorem isWeight_floatOfInt {n : Int} (h : 0 ≤ n) : isWeight (floatOfInt n) = true := by
  obtain ⟨m, rfl⟩ := Int.eq_ofNat_of_zero_le h
  have htext : (floatOfInt m).text.toList = Nat.toDigits 10 m ++ ['.', '0'] := by
    simp [floatOfInt, String.toList_append,
      show toString (m : Int) = Nat.repr m from rfl, Nat.toList_repr]
  have hdigit : ∀ c, (floatOfInt m).text.toList.head? = some c → c.isDigit = true := by
    intro c hc
    rw [htext] at hc
    cases hdigits : Nat.toDigits 10 m with
    | nil => exact absurd hdigits (Nat.toDigits_ne_nil)
    | cons d rest =>
        rw [hdigits] at hc
        simp only [List.cons_append, List.head?_cons, Option.some.injEq] at hc
        subst hc
        exact Nat.isDigit_of_mem_toDigits (by omega) (by omega)
          (hdigits ▸ List.mem_cons_self ..)
  have hne (text : String) (c : Char) (hhead : text.toList.head? = some c)
      (hc : c.isDigit = false) : (floatOfInt m).text ≠ text := by
    rintro rfl
    rw [hdigit c hhead] at hc
    cases hc
  simp only [isWeight, isFinite, Bool.and_eq_true, Bool.not_eq_true', decide_eq_true_eq]
  refine ⟨⟨?_, ?_⟩, by simp [floatOfInt]⟩
  · have hnan := hne "NaN" 'N' (by decide) (by decide)
    have hinf := hne "Infinity" 'I' (by decide) (by decide)
    have hneg := hne "-Infinity" '-' (by decide) (by decide)
    simp [hnan, hinf, hneg]
  · intro hminus
    have := hdigit '-' hminus
    revert this
    decide

theorem isWeight_of_weightOf {value : PyValue} {x : PyFloat}
    (h : weightOf value = .ok x) : isWeight x = true := by
  cases value with
  | int n =>
      simp only [weightOf] at h
      split at h
      · cases h
      · rename_i hn
        simp only [Bool.or_eq_true, decide_eq_true_eq, not_or] at hn
        cases h
        exact isWeight_floatOfInt (by omega)
  | float y =>
      simp only [weightOf] at h
      split at h
      · rename_i hy
        cases h
        exact hy
      · cases h
  | none | bool | str | list | tuple | dict | object => cases h

/-- A target with its weight. -/
def weighted (entry : NodeControlGraphReference .target × PyValue) :
    Except WireError (NodeControlGraphReference .target × PyFloat) :=
  (weightOf entry.2).map fun weight => (entry.1, weight)

/-- The targets of the weights are the targets. -/
def sameTargets (targets weighted : List (NodeControlGraphReference .target)) : Bool :=
  (targets.all weighted.contains) && weighted.all targets.contains

/-- What is left to check of the targets once the weights are numbers. -/
def WeightedRoutingControlState.ofWeights
    (targets : List (NodeControlGraphReference .target)) (hnonempty : targets ≠ [])
    (hbounded : targets.length ≤ 128) (hunique : targets.Nodup)
    (weights : List (NodeControlGraphReference .target × PyFloat))
    (hvalid : ∀ entry ∈ weights, isWeight entry.2 = true) :
    Except WireError WeightedRoutingControlState :=
  if hkeys : (weights.map (·.1)).Nodup then
    if hsame : sameTargets targets (weights.map (·.1)) = true then
      if hpositive : weights.any (fun entry => isPositive entry.2) = true then
        have hperm : (weights.map (·.1)).Perm targets := by
          simp only [sameTargets, Bool.and_eq_true, List.all_eq_true,
            List.contains_iff_mem] at hsame
          exact (List.perm_ext_iff_of_nodup hkeys hunique).mpr fun target =>
            ⟨hsame.2 target, hsame.1 target⟩
        have hlength : weights.length = targets.length := by simpa using hperm.length_eq
        have hvalues : (weights.map fun entry => entry.1.value).Nodup := by
          rw [show (fun entry : NodeControlGraphReference .target × PyFloat =>
            entry.1.value) =
            (·.value) ∘ (·.1) from rfl, ← List.map_map]
          exact hkeys.map fun _ _ => NodeControlGraphReference.eq_of_value
        .ok
          { weights := weights.mergeSort fun a b => a.1.value ≤ b.1.value
            nonempty := by
              intro hnil
              have hempty := congrArg List.length hnil
              rw [List.length_mergeSort, hlength] at hempty
              exact hnonempty (List.eq_nil_of_length_eq_zero hempty)
            bounded := by rw [List.length_mergeSort, hlength]; exact hbounded
            valid := fun entry hentry => hvalid entry (List.mem_mergeSort.mp hentry)
            positive := by
              obtain ⟨entry, hentry, h⟩ := List.any_eq_true.mp hpositive
              exact ⟨entry, List.mem_mergeSort.mpr hentry, h⟩
            ordered := ordered_mergeSort hvalues }
      else .error (.contract "weighted routing state requires a positive weight")
    else .error (.contract "weighted routing targets and weight targets must match")
  else .error (.contract "weighted routing weight targets must be unique")

/-- Whatever stands on the right was put there for something on the left. -/
theorem exists_of_forall₂ {α β : Type} {R : α → β → Prop} {as : List α} {bs : List β}
    (h : List.Forall₂ R as bs) : ∀ b ∈ bs, ∃ a ∈ as, R a b := by
  induction h with
  | nil => exact fun b hb => absurd hb List.not_mem_nil
  | cons hab _ ih =>
      intro b hb
      rcases List.mem_cons.mp hb with rfl | hb
      · exact ⟨_, List.mem_cons_self .., hab⟩
      · obtain ⟨a, ha, hR⟩ := ih b hb
        exact ⟨a, List.mem_cons_of_mem _ ha, hR⟩

theorem isWeight_of_mapM {entries : List (NodeControlGraphReference .target × PyValue)}
    {weights : List (NodeControlGraphReference .target × PyFloat)}
    (h : entries.mapM weighted = .ok weights) :
    ∀ entry ∈ weights, isWeight entry.2 = true := by
  intro entry hentry
  obtain ⟨source, -, hsource⟩ :=
    exists_of_forall₂ (Library.Outcome.mapM_eq_ok.mp h) entry hentry
  obtain ⟨weight, hweight, rfl⟩ := Library.Outcome.map_eq_ok.mp hsource
  exact isWeight_of_weightOf hweight

/-- `WeightedRoutingControlState(targets, weights)`. -/
def WeightedRoutingControlState.of (targets : List (NodeControlGraphReference .target))
    (entries : List (NodeControlGraphReference .target × PyValue)) :
    Except WireError WeightedRoutingControlState :=
  if hnonempty : targets = [] then
    .error (.contract "weighted routing targets must be a nonempty tuple")
  else if hbounded : 128 < targets.length then
    .error (.contract "weighted routing state has too many targets")
  else if hunique : targets.Nodup then
    match hweights : entries.mapM weighted with
    | .error e => .error e
    | .ok weights =>
        ofWeights targets hnonempty (Nat.le_of_not_lt hbounded) hunique weights
          (isWeight_of_mapM hweights)
  else .error (.contract "weighted routing targets must be unique")

/-- A text of a list, or the module's error. -/
def targetTexts : PyValue → Option (List String)
  | .list items => items.mapM fun
      | .str text => some text
      | _ => none
  | _ => none

/-- The targets and weights of a state. -/
def decodeWeighted (texts : List String) (weights : PyDict) :
    Except WireError WeightedRoutingControlState := do
  let targets ← texts.mapM (NodeControlGraphReference.of .target)
  let pairs ← weights.mapM fun entry =>
    (NodeControlGraphReference.of .target entry.1).map fun target => (target, entry.2)
  WeightedRoutingControlState.of targets pairs

/-- A state of a kind. -/
def decodeKind (entries : PyDict) :
    ControlPlaneVariableKind → Except WireError ControlStateValue
  | .scalar => do
      requireKeys entries ["kind", "value"] "scalar control state"
      let state ← ScalarControlState.of (getValue entries "value")
      return .scalar state
  | .map => do
      requireKeys entries ["kind", "entries"] "map control state"
      let items ← mapping (getValue entries "entries") "map control state entries"
      let state ← MapControlState.of items
      return .map state
  | .weightedRouting => do
      requireKeys entries ["kind", "targets", "weights"]
        "weighted routing control state"
      match targetTexts (getValue entries "targets") with
      | none => .error (.contract "weighted routing targets must be a list of text")
      | some texts => do
          let weights ← mapping
            (getValue entries "weights") "weighted routing control weights"
          let state ← decodeWeighted texts weights
          return .weightedRouting state

/-- `_decode_state(value)`. -/
def decodeState (value : PyValue) : Except WireError ControlStateValue := do
  let entries ← mapping value "node-control state"
  requireWire ((entries.map (·.1)).contains "kind")
    (.contract "node-control state is missing kind")
  let kind ← enumOf variableKinds (·.value)
    (getValue entries "kind") "node-control state kind"
  decodeKind entries kind

/-! ## Requests -/

/-- `_decode_precondition(value)`. -/
def decodePrecondition (value : PyValue) :
    Except WireError ControlPlaneTransitionPrecondition := do
  let entries ← mapping value "node-control transition precondition"
  requireKeys entries ["expected_version"] "node-control transition precondition"
  let expectedVersion ← integerAt entries "expected_version"
  if h : isEpoch expectedVersion = true then return ⟨expectedVersion, h⟩
  else .error (.contract "expected_version must be a bounded nonnegative integer")

/-- `NodeControlRequestDigest(value)`. -/
def NodeControlRequestDigest.of (value : String) :
    Except WireError NodeControlRequestDigest :=
  if h : isDigest value = true then .ok ⟨value, h⟩
  else .error (.contract
    "node-control request digest must be 64 lowercase hex characters")

def requestKeys : List String :=
  ["target", "variable_name", "operation", "request_id", "idempotency_key",
    "canonicalization", "command_codec", "precondition", "payload"]

def grantKeys : List String :=
  ["issuer", "key_id", "audience", "target", "variable_name", "operation",
    "command_codec", "request_id", "idempotency_key", "request_digest", "issued_at",
    "not_before", "expires_at", "jti"]

section Canonical

variable (dumps : CanonicalJson)

/-- `_decode_payload(value)`. -/
def decodePayload (value : PyValue) : Except WireError NodeControlPayload := do
  let entries ← mapping value "node-control payload"
  requireKeys entries ["codec", "state"] "node-control payload"
  let codec ← commandCodecOf "node-control payload codec" (getValue entries "codec")
  let state ← decodeState (getValue entries "state")
  let payload : NodeControlPayload := ⟨codec, state⟩
  payload.check dumps
  return payload

/-- `NodeControlCommandRequestCodec.decode(descriptor)`. -/
def decodeRequest (descriptor : PyValue) :
    Except WireError NodeControlCommandRequest := do
  let entries ← mapping descriptor "node-control request"
  requireKeys entries requestKeys "node-control request"
  let target ← decodeTarget (getValue entries "target")
  let operation ← enumOf operations (·.value) (getValue entries "operation")
    "node-control operation"
  let commandCodec ← optionalOf (getValue entries "command_codec")
    (commandCodecOf "node-control command codec")
  let precondition ← optionalOf (getValue entries "precondition") decodePrecondition
  let payload ← optionalOf (getValue entries "payload") (decodePayload dumps)
  let variableName ← decodeGraphReference entries "variable_name" .variable
  let requestId ← textAt entries "request_id"
  let idempotencyKey ← textAt entries "idempotency_key"
  let canonicalization ← enumOf [NodeControlCanonicalization.jcsRfc8785V1] (·.value)
    (getValue entries "canonicalization") "node-control canonicalization"
  let request : NodeControlCommandRequest :=
    ⟨target, variableName, operation, requestId, idempotencyKey,
      commandCodec, precondition, payload, canonicalization⟩
  request.check dumps
  return request

/-- `DelegatedWorkloadNodeControlGrantCodec.decode(descriptor)`. -/
def decodeGrant (descriptor : PyValue) :
    Except WireError DelegatedWorkloadNodeControlGrant := do
  let entries ← mapping descriptor "delegated workload node-control grant"
  requireKeys entries grantKeys "delegated workload node-control grant"
  let issuer ← textAt entries "issuer"
  let keyId ← textAt entries "key_id"
  let audience ← textAt entries "audience"
  let target ← decodeTarget (getValue entries "target")
  let variableName ← decodeGraphReference entries "variable_name" .variable
  let operation ← enumOf operations (·.value) (getValue entries "operation")
    "workload grant operation"
  let commandCodec ← optionalOf (getValue entries "command_codec")
    (commandCodecOf "workload grant command codec")
  let requestId ← textAt entries "request_id"
  let idempotencyKey ← textAt entries "idempotency_key"
  let digest ← textAt entries "request_digest"
  let requestDigest ← NodeControlRequestDigest.of digest
  let issuedAt ← integerAt entries "issued_at"
  let notBefore ← integerAt entries "not_before"
  let expiresAt ← integerAt entries "expires_at"
  let jti ← textAt entries "jti"
  let grant : DelegatedWorkloadNodeControlGrant :=
    { issuedAt, notBefore, expiresAt, issuer, keyId, audience, target,
      variableName, operation, commandCodec, requestId, idempotencyKey,
      requestDigest, jti }
  grant.check dumps
  return grant

/-! ## Transit grants -/

/-- `except (TypeError, ValueError)`: whatever is raised becomes the module's error. -/
def caughtAs {α : Type} (error : WireError) (x : Except WireError α) :
    Except WireError α :=
  x.mapError fun _ => error

/-- `_mapping(value, name)`. -/
def transitMapping (value : PyValue) (name : String) : Except WireError PyDict :=
  mappingOf value (.transit (name ++ " must be an object"))

/-- `_require_exact_keys(mapping, expected, name)`. -/
def requireTransitKeys (entries : PyDict) (expected : List String) (name : String) :
    Except WireError Unit :=
  requireWire ((entries.all fun entry => expected.contains entry.1) &&
      expected.all fun key => (entries.map (·.1)).contains key)
    (.transit (name ++ " must contain the exact public fields"))

/-- `_text(mapping, key)`. -/
def transitTextAt (entries : PyDict) (key : String) : Except WireError String :=
  textOf (.transit ("transit grant " ++ key ++ " must be text")) (getValue entries key)

/-- `_integer(mapping, key)`. -/
def transitIntegerAt (entries : PyDict) (key : String) : Except WireError Int :=
  integerOf (.transit ("transit grant " ++ key ++ " must be an integer"))
    (getValue entries key)

/-- `_enum(enum_type, value, name)`. -/
def transitEnumOf {α : Type} (members : List α) (value : α → String) (name : String)
    (found : PyValue) : Except WireError α :=
  memberIn (.transit (name ++ " is unknown"))
    (.transit (name ++ " is unknown")) members value found

/-- `_decode_graph_reference(mapping, key, role)`. -/
def decodeTransitReference (entries : PyDict) (key : String)
    (role : NodeControlGraphReferenceRole) :
    Except WireError (NodeControlGraphReference role) :=
  caughtAs (.transit ("transit grant " ++ key ++ " is malformed")) do
    let text ← transitTextAt entries key
    NodeControlGraphReference.of role text

/-- `_decode_target(value)`. -/
def decodeTransitTarget (value : PyValue) : Except WireError NodeControlTarget := do
  let entries ← transitMapping value "transit grant target"
  requireTransitKeys entries targetKeys "transit grant target"
  let workspaceId ← decodeTransitReference entries "workspace_id" .workspace
  let graphRevision ← decodeTransitReference entries "graph_revision" .graphRevision
  let nodeId ← decodeTransitReference entries "node_id" .node
  let providerSocketName ←
    decodeTransitReference entries "provider_socket_name" .providerSocket
  return ⟨workspaceId, graphRevision, nodeId, providerSocketName⟩

/-- `_decode_request_digest(mapping)`. -/
def decodeTransitDigest (entries : PyDict) :
    Except WireError NodeControlRequestDigest :=
  caughtAs (.transit "transit grant request_digest is malformed") do
    let text ← transitTextAt entries "request_digest"
    NodeControlRequestDigest.of text

def delegationKeyPurposes : List DelegationKeyPurpose :=
  [.gatewayProbe, .workloadNodeControl, .workloadNodeControlSurfaceRead,
    .gatewayNodeControlTransit]

def transitGrantKeys : List String :=
  ["profile", "canonicalization", "purpose", "issuer", "key_id", "audience",
    "attempt_id", "workspace_id", "graph_revision", "gateway_node_id", "target",
    "variable_name", "operation", "command_codec", "request_id", "idempotency_key",
    "request_digest", "issued_at", "not_before", "expires_at", "jti"]

/-- The coordinates of a transit grant: its target, workspace, revision and gateway,
under the audience they derive. -/
def decodeTransitCoordinates (entries : PyDict) : Except WireError
    (NodeControlTarget × NodeControlGraphReference .workspace ×
      NodeControlGraphReference .graphRevision × NodeControlGraphReference .node) := do
  let target ← decodeTransitTarget (getValue entries "target")
  let workspaceId ← decodeTransitReference entries "workspace_id" .workspace
  let graphRevision ← decodeTransitReference entries "graph_revision" .graphRevision
  let gatewayNodeId ← decodeTransitReference entries "gateway_node_id" .node
  let expected ← deriveAudience workspaceId gatewayNodeId
  let audience ← transitTextAt entries "audience"
  requireWire (audience = expected)
    (.transit "transit grant audience must match graph coordinates")
  return (target, workspaceId, graphRevision, gatewayNodeId)

/-- `DelegatedGatewayNodeControlTransitGrantCodec.decode(descriptor)`. -/
def decodeTransitGrant (descriptor : PyValue) :
    Except WireError DelegatedGatewayNodeControlTransitGrant := do
  let entries ← transitMapping descriptor "transit grant"
  let _ ← transitBytes dumps descriptor maxTransitGrantBytes "transit grant"
  requireTransitKeys entries transitGrantKeys "transit grant"
  let (target, workspaceId, graphRevision, gatewayNodeId) ←
    decodeTransitCoordinates entries
  let profile ← transitEnumOf [DelegatedGatewayNodeControlTransitGrantProfile.v1]
    (·.value) "transit grant profile" (getValue entries "profile")
  let canonicalization ← transitEnumOf [NodeControlCanonicalization.jcsRfc8785V1]
    (·.value) "transit grant canonicalization" (getValue entries "canonicalization")
  let purpose ← transitEnumOf delegationKeyPurposes (·.value) "transit grant purpose"
    (getValue entries "purpose")
  let issuer ← transitTextAt entries "issuer"
  let keyId ← transitTextAt entries "key_id"
  let attemptId ← transitTextAt entries "attempt_id"
  let variableName ← decodeTransitReference entries "variable_name" .variable
  let operation ← transitEnumOf operations (·.value) "transit grant operation"
    (getValue entries "operation")
  let commandCodec ← optionalOf (getValue entries "command_codec")
    (transitEnumOf commandCodecs (·.value) "transit grant command codec")
  let requestId ← transitTextAt entries "request_id"
  let idempotencyKey ← transitTextAt entries "idempotency_key"
  let requestDigest ← decodeTransitDigest entries
  let issuedAt ← transitIntegerAt entries "issued_at"
  let notBefore ← transitIntegerAt entries "not_before"
  let expiresAt ← transitIntegerAt entries "expires_at"
  let jti ← transitTextAt entries "jti"
  let grant : DelegatedGatewayNodeControlTransitGrant :=
    { issuedAt, notBefore, expiresAt, profile, canonicalization, purpose, issuer,
      keyId, attemptId, workspaceId, graphRevision, gatewayNodeId, target, variableName,
      operation, commandCodec, requestId, idempotencyKey, requestDigest, jti }
  grant.check dumps
  return grant

end Canonical

/-! ## Canonical bytes -/

section Hooks

variable (float : String → PyFloat)

/-- `_parse_jcs_integer_token(token)`: beyond the safe integers a float. -/
def jcsInteger (token : String) : Option PyValue :=
  (intOfToken token).map fun n => if isSafeInteger n then .int n
    else .float (float token)

/-- What the module of node control reads from bytes; `float` is `float(token)`. -/
def readBytes (encoded : Bytes) : Option PyValue := do
  let parsed ← parse encoded
  built float (jcsInteger float) parsed

/-- What the module of transit reads from bytes: it has no hook for integers. -/
def readPlainBytes (encoded : Bytes) : Option PyValue := do
  let parsed ← parse encoded
  built float (fun token => (intOfToken token).map .int) parsed

end Hooks

/-- The texts of one module's `decode_canonical_bytes`. -/
structure BytesTexts where
  malformed : WireError
  exceeds : WireError
  notCanonical : WireError
  notObject : WireError

/-- `decode_canonical_bytes(encoded)`: parse, decode, and encode again. -/
def decodeCanonicalBytes {α : Type} (texts : BytesTexts) (maximum : Nat)
    (read : Bytes → Option PyValue) (decode : PyValue → Except WireError α)
    (canonicalBytes : α → Except WireError Bytes) (encoded : Bytes) :
    Except WireError α := do
  requireWire (encoded.length ≤ maximum) texts.exceeds
  match read encoded with
  | none => .error texts.malformed
  | some parsed => do
      let _ ← mappingOf parsed texts.notObject
      let value ← decode parsed
      let again ← canonicalBytes value
      requireWire (again = encoded) texts.notCanonical
      return value

def wireTexts (name : String) : BytesTexts where
  malformed := .contract (name ++ " bytes are malformed")
  exceeds := .contract (name ++ " exceeds the public size bound")
  notCanonical := .contract (name ++ " bytes are not canonical")
  notObject := .contract (name ++ " must be an object")

def transitTexts : BytesTexts where
  malformed := .transit "transit grant bytes are malformed"
  exceeds := .transit "transit grant aggregate exceeds the public bound"
  notCanonical := .transit "transit grant bytes are not canonical"
  notObject := .transit "transit grant must be an object"

section Canonical

variable (dumps : CanonicalJson) (float : String → PyFloat)

/-- `NodeControlCommandRequestCodec.decode_canonical_bytes(encoded)`. -/
def decodeRequestBytes : Bytes → Except WireError NodeControlCommandRequest :=
  decodeCanonicalBytes (wireTexts "node-control request") maxNodeControlPayloadBytes
    (readBytes float) (decodeRequest dumps) (·.canonicalBytes dumps)

/-- `DelegatedWorkloadNodeControlGrantCodec.decode_canonical_bytes(encoded)`. -/
def decodeGrantBytes : Bytes → Except WireError DelegatedWorkloadNodeControlGrant :=
  decodeCanonicalBytes (wireTexts "workload node-control grant") maxWorkloadGrantBytes
    (readBytes float) (decodeGrant dumps) (·.canonicalBytes dumps)

/-- `DelegatedGatewayNodeControlTransitGrantCodec.decode_canonical_bytes(encoded)`. -/
def decodeTransitGrantBytes :
    Bytes → Except WireError DelegatedGatewayNodeControlTransitGrant :=
  decodeCanonicalBytes transitTexts maxTransitGrantBytes (readPlainBytes float)
    (decodeTransitGrant dumps) (·.canonicalBytes dumps)

end Canonical

end ControlPlaneKit.NodeControl
