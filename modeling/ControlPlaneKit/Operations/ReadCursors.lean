import ControlPlaneKit.Library.EventFold
import ControlPlaneKit.Library.PyValue
import ControlPlaneKit.Operations.PostgresTime
import ControlPlaneKit.Topology.Material

/-!
# ReadCursors — the closed language of page cursors

A cursor names a collection, the scope it is read in, and the position of a row.
Scopes and positions hold only texts and numbers that passed their checks.  A cursor
leaves as a mapping, its descriptor, and is read back from one with exactly the fields
of its kind.
-/

namespace ControlPlaneKit.Operations

open ControlPlaneKit.Library (PyDict PyValue)
open ControlPlaneKit.Library.PyValue (intText)
open ControlPlaneKit.Library.Text (isCanonicalIdentity isIdentityTail isReference)
open ControlPlaneKit.Topology (DelegationKeyPurpose)

/-! ## Checked texts -/

/-- Raised when bounded read-page data is malformed or incongruent. -/
structure ReadPageError where
  message : String
  deriving DecidableEq, Repr

/-- What `unicodedata` tells of a character: whether its category is one of `C`
(control, format, surrogate, private use, unassigned). -/
structure UnicodeCategories where
  isOther : Char → Bool
  identity : ∀ c, isIdentityTail c = true → isOther c = false

/-- A text that passes a check. -/
structure Checked (accepts : String → Bool) where
  text : String
  accepted : accepts text = true
  deriving DecidableEq

/-- `type(value) is str` and the check, or the error. -/
def requireText (accepts : String → Bool) (message : String) :
    PyValue → Except ReadPageError (Checked accepts)
  | .str text => if h : accepts text = true then .ok ⟨text, h⟩ else .error ⟨message⟩
  | _ => .error ⟨message⟩

theorem requireText_self {accepts : String → Bool} (message : String)
    (checked : Checked accepts) :
    requireText accepts message (.str checked.text) = .ok checked := by
  rw [requireText, dif_pos checked.accepted]

theorem requireText_eq_ok {accepts : String → Bool} {message : String} {value : PyValue}
    {checked : Checked accepts} (h : requireText accepts message value = .ok checked) :
    value = .str checked.text := by
  cases value with
  | str text =>
      rw [requireText] at h
      split at h
      · cases h
        rfl
      · cases h
  | _ => cases h

/-- `_GENERAL_IDENTIFIER_LIMIT`. -/
def generalIdentifierLimit : Nat := 512

def isGeneralIdentifier (categories : UnicodeCategories) (value : String) : Bool :=
  !value.isEmpty && value.length ≤ generalIdentifierLimit &&
    !value.toList.any categories.isOther

/-- A run's identity is a general identifier. -/
theorem isGeneralIdentifier_of_identity (categories : UnicodeCategories)
    {value : String} (h : isCanonicalIdentity value = true) :
    isGeneralIdentifier categories value = true := by
  obtain ⟨hchars, hlength⟩ := Library.Text.isCanonicalIdentity_chars h
  have hempty : value.isEmpty = false := by
    cases hval : value.isEmpty with
    | false => rfl
    | true =>
        rw [String.isEmpty_iff] at hval
        rw [hval] at h
        exact absurd h (by decide)
  have hother : value.toList.any categories.isOther = false := by
    rw [List.any_eq_false]
    intro c hc
    rw [categories.identity c (hchars c hc)]
    decide
  have hbound : value.length ≤ generalIdentifierLimit := hlength.trans (by decide)
  simp [isGeneralIdentifier, hempty, hother, hbound]

section Checks

variable (categories : UnicodeCategories)

/-- `_general_identifier(value)`. -/
def generalIdentifier :
    PyValue → Except ReadPageError (Checked (isGeneralIdentifier categories)) :=
  requireText (isGeneralIdentifier categories) "read identifier is malformed"

end Checks

/-- `_run_identifier(value)`. -/
def runIdentifier : PyValue → Except ReadPageError (Checked isCanonicalIdentity) :=
  requireText isCanonicalIdentity "read run identity is malformed"

/-- `_delegation_identifier(value)`. -/
def delegationIdentifier : PyValue → Except ReadPageError (Checked isReference) :=
  requireText isReference "delegation cursor identifier is malformed"

/-- The layout, and a date and time that exist. -/
def isCanonicalInstant (value : String) : Bool := (parseInstant value).isSome

/-- `_canonical_instant(value)`. -/
def canonicalCursorInstant :
    PyValue → Except ReadPageError (Checked isCanonicalInstant) :=
  requireText isCanonicalInstant "temporal cursor instant is malformed"

/-- `_POSTGRES_INT8_MAX`. -/
def postgresInt8Max : Int := 9223372036854775807

/-- An integer that passes a check. -/
abbrev Ordinal := { ordinal : Int // 0 < ordinal }
abbrev EpochSecond := { second : Int // 0 ≤ second ∧ second ≤ postgresInt8Max }

/-- `type(value) is int` and `value > 0`. -/
def cursorOrdinal : PyValue → Except ReadPageError Ordinal
  | .int ordinal =>
      if h : 0 < ordinal then .ok ⟨ordinal, h⟩
      else .error ⟨"ordinal cursor position is malformed"⟩
  | _ => .error ⟨"ordinal cursor position is malformed"⟩

/-- `_epoch_second(value)`. -/
def epochSecond (value : Int) : Except ReadPageError EpochSecond :=
  if h : 0 ≤ value ∧ value ≤ postgresInt8Max then .ok ⟨value, h⟩
  else .error ⟨"epoch cursor position is malformed"⟩

/-- `^(?:0|[1-9][0-9]{0,18})$`. -/
def isCanonicalEpochSecond (value : List Char) : Bool :=
  match value with
  | [] => false
  | ['0'] => true
  | head :: tail =>
      (head.isDigit && head != '0') && tail.all Char.isDigit && tail.length ≤ 18

/-- `_epoch_second_from_wire(value)`. -/
def epochSecondFromWire : PyValue → Except ReadPageError EpochSecond
  | .str text =>
      if isCanonicalEpochSecond text.toList then
        epochSecond (Nat.ofDigitChars 10 text.toList 0)
      else .error ⟨"epoch cursor position is malformed"⟩
  | _ => .error ⟨"epoch cursor position is malformed"⟩

/-! ## Collections and scopes -/

/-- Finite Operations-owned collection vocabulary. -/
inductive ReadCollection where
  | activitySessions
  | openSessions
  | sessionActions
  | sessionPlans
  | sessionApprovals
  | pendingApprovals
  | planRuns
  | runEvents
  | latestObservations
  | runtimeAuthorities
  | runtimeAuthorityDeliveries
  | ingressAuthorities
  | secretProviders
  | secretReferences
  | delegationSigningKeys
  | gatewayProbes
  deriving DecidableEq, Repr

namespace ReadCollection

def value : ReadCollection → String
  | activitySessions => "activity-sessions"
  | openSessions => "open-sessions"
  | sessionActions => "session-actions"
  | sessionPlans => "session-plans"
  | sessionApprovals => "session-approvals"
  | pendingApprovals => "pending-approvals"
  | planRuns => "plan-runs"
  | runEvents => "run-events"
  | latestObservations => "latest-observations"
  | runtimeAuthorities => "runtime-authorities"
  | runtimeAuthorityDeliveries => "runtime-authority-deliveries"
  | ingressAuthorities => "ingress-authorities"
  | secretProviders => "secret-providers"
  | secretReferences => "secret-references"
  | delegationSigningKeys => "delegation-signing-keys"
  | gatewayProbes => "gateway-probes"

def all : List ReadCollection :=
  [activitySessions, openSessions, sessionActions, sessionPlans, sessionApprovals,
    pendingApprovals, planRuns, runEvents, latestObservations, runtimeAuthorities,
    runtimeAuthorityDeliveries, ingressAuthorities, secretProviders, secretReferences,
    delegationSigningKeys, gatewayProbes]

/-- `_COLLECTION_BY_VALUE.get(text)`. -/
def ofValue (text : String) : Option ReadCollection :=
  all.find? fun collection => collection.value == text

theorem ofValue_value (collection : ReadCollection) :
    ofValue collection.value = some collection := by
  cases collection <;> decide

theorem value_of_ofValue {text : String} {collection : ReadCollection}
    (h : ofValue text = some collection) : collection.value = text := by
  have := List.find?_some h
  simpa using this

end ReadCollection

inductive ScopeType where
  | workspace
  | session
  | plan
  | run
  deriving DecidableEq, Repr

inductive CursorType where
  | ordinal
  | temporal
  | epoch
  | identity
  | delegationKey
  deriving DecidableEq, Repr

/-- What a cursor of a collection is made of. -/
structure ReadCollectionSpec where
  scopeType : ScopeType
  cursorType : CursorType
  deriving DecidableEq, Repr

/-- `READ_COLLECTION_SPECS`. -/
def readCollectionSpec : ReadCollection → ReadCollectionSpec
  | .activitySessions => ⟨.workspace, .temporal⟩
  | .openSessions => ⟨.workspace, .temporal⟩
  | .sessionActions => ⟨.session, .ordinal⟩
  | .sessionPlans => ⟨.session, .temporal⟩
  | .sessionApprovals => ⟨.session, .temporal⟩
  | .pendingApprovals => ⟨.workspace, .temporal⟩
  | .planRuns => ⟨.plan, .temporal⟩
  | .runEvents => ⟨.run, .ordinal⟩
  | .latestObservations => ⟨.workspace, .identity⟩
  | .runtimeAuthorities => ⟨.workspace, .identity⟩
  | .runtimeAuthorityDeliveries => ⟨.workspace, .identity⟩
  | .ingressAuthorities => ⟨.workspace, .identity⟩
  | .secretProviders => ⟨.workspace, .identity⟩
  | .secretReferences => ⟨.workspace, .identity⟩
  | .delegationSigningKeys => ⟨.workspace, .delegationKey⟩
  | .gatewayProbes => ⟨.workspace, .epoch⟩

/-- `WorkspaceReadScope | SessionReadScope | PlanReadScope | RunReadScope`. -/
inductive ReadScope (categories : UnicodeCategories) where
  | workspace (workspaceId : Checked (isGeneralIdentifier categories))
  | session (workspaceId sessionId : Checked (isGeneralIdentifier categories))
  | plan (workspaceId planId : Checked (isGeneralIdentifier categories))
  | run (workspaceId : Checked (isGeneralIdentifier categories))
      (runId : Checked isCanonicalIdentity)
  deriving DecidableEq

/-- The position of the five kinds of cursors. -/
inductive ReadPosition (categories : UnicodeCategories) where
  | ordinal (number : Ordinal) (itemId : Checked (isGeneralIdentifier categories))
  | temporal (instant : Checked isCanonicalInstant)
      (itemId : Checked (isGeneralIdentifier categories))
  | epoch (epochSecond : EpochSecond)
      (itemId : Checked (isGeneralIdentifier categories))
  | identity (itemId : Checked (isGeneralIdentifier categories))
  | delegationKey (purpose : DelegationKeyPurpose) (issuer keyId : Checked isReference)
  deriving DecidableEq

section Cursors

variable {categories : UnicodeCategories}

namespace ReadScope

/-- `type(scope)`. -/
def scopeType : ReadScope categories → ScopeType
  | workspace _ => .workspace
  | session _ _ => .session
  | plan _ _ => .plan
  | run _ _ => .run

def descriptor : ReadScope categories → PyValue
  | workspace workspaceId => .dict [("workspace_id", .str workspaceId.text)]
  | session workspaceId sessionId =>
      .dict
        [("workspace_id", .str workspaceId.text), ("session_id", .str sessionId.text)]
  | plan workspaceId planId =>
      .dict [("workspace_id", .str workspaceId.text), ("plan_id", .str planId.text)]
  | run workspaceId runId =>
      .dict [("workspace_id", .str workspaceId.text), ("run_id", .str runId.text)]

end ReadScope

namespace ReadPosition

/-- `type(cursor)`. -/
def cursorType : ReadPosition categories → CursorType
  | ordinal _ _ => .ordinal
  | temporal _ _ => .temporal
  | epoch _ _ => .epoch
  | identity _ => .identity
  | delegationKey _ _ _ => .delegationKey

def descriptor : ReadPosition categories → PyValue
  | .ordinal number itemId =>
      .dict [("ordinal", .int number.1), ("item_id", .str itemId.text)]
  | temporal instant itemId =>
      .dict [("instant", .str instant.text), ("item_id", .str itemId.text)]
  | epoch epochSecond itemId =>
      .dict [("epoch_second", .str (String.ofList (intText epochSecond.1))),
        ("item_id", .str itemId.text)]
  | identity itemId => .dict [("item_id", .str itemId.text)]
  | delegationKey purpose issuer keyId =>
      .dict [("purpose", .str purpose.value), ("issuer", .str issuer.text),
        ("key_id", .str keyId.text)]

end ReadPosition

/-- A scope and a position of the types that the collection has. -/
structure ReadCursor (categories : UnicodeCategories) where
  collection : ReadCollection
  scope : ReadScope categories
  position : ReadPosition categories
  congruent : readCollectionSpec collection = ⟨scope.scopeType, position.cursorType⟩
  deriving DecidableEq

/-- `cursor.descriptor()`. -/
def ReadCursor.descriptor (cursor : ReadCursor categories) : PyValue :=
  .dict [("format_version", .int 1), ("collection", .str cursor.collection.value),
    ("scope", cursor.scope.descriptor), ("position", cursor.position.descriptor)]

/-- `_cursor_header(collection, scope, type(self))`. -/
def cursorHeader (collection : ReadCollection) (scope : ReadScope categories)
    (cursorType : CursorType) :
    Except ReadPageError
      (PLift (readCollectionSpec collection = ⟨scope.scopeType, cursorType⟩)) :=
  if h : readCollectionSpec collection = ⟨scope.scopeType, cursorType⟩ then .ok ⟨h⟩
  else .error ⟨"read cursor profile is incongruent"⟩

theorem cursorHeader_ok {collection : ReadCollection} {scope : ReadScope categories}
    {cursorType : CursorType}
    (h : readCollectionSpec collection = ⟨scope.scopeType, cursorType⟩) :
    cursorHeader collection scope cursorType = .ok ⟨h⟩ :=
  dif_pos h

def ordinalReadCursor (collection : ReadCollection) (scope : ReadScope categories)
    (ordinal itemId : PyValue) : Except ReadPageError (ReadCursor categories) := do
  let header ← cursorHeader collection scope .ordinal
  let ordinal ← cursorOrdinal ordinal
  let itemId ← generalIdentifier categories itemId
  .ok ⟨collection, scope, .ordinal ordinal itemId, header.down⟩

def temporalReadCursor (collection : ReadCollection) (scope : ReadScope categories)
    (instant itemId : PyValue) : Except ReadPageError (ReadCursor categories) := do
  let header ← cursorHeader collection scope .temporal
  let instant ← canonicalCursorInstant instant
  let itemId ← generalIdentifier categories itemId
  .ok ⟨collection, scope, .temporal instant itemId, header.down⟩

def epochReadCursor (collection : ReadCollection) (scope : ReadScope categories)
    (second : EpochSecond) (itemId : PyValue) :
    Except ReadPageError (ReadCursor categories) := do
  let header ← cursorHeader collection scope .epoch
  let second ← epochSecond second.1
  let itemId ← generalIdentifier categories itemId
  .ok ⟨collection, scope, .epoch second itemId, header.down⟩

def identityReadCursor (collection : ReadCollection) (scope : ReadScope categories)
    (itemId : PyValue) : Except ReadPageError (ReadCursor categories) := do
  let header ← cursorHeader collection scope .identity
  let itemId ← generalIdentifier categories itemId
  .ok ⟨collection, scope, .identity itemId, header.down⟩

def delegationKeyReadCursor (collection : ReadCollection) (scope : ReadScope categories)
    (purpose : DelegationKeyPurpose) (issuer keyId : PyValue) :
    Except ReadPageError (ReadCursor categories) := do
  let header ← cursorHeader collection scope .delegationKey
  let issuer ← delegationIdentifier issuer
  let keyId ← delegationIdentifier keyId
  .ok ⟨collection, scope, .delegationKey purpose issuer keyId, header.down⟩

/-! ## Reading a cursor -/

/-- The value under a key that is there. -/
def valueAt (entries : PyDict) (key : String) : PyValue :=
  (entries.lookup key).getD .none

/-- `_exact_keys(value, expected, label)`. -/
def exactKeys (entries : PyDict) (expected : List String) (label : String) :
    Except ReadPageError Unit :=
  if entries.length = expected.length ∧ (∀ entry ∈ entries, entry.1 ∈ expected) ∧
      ∀ key ∈ expected, key ∈ entries.map (·.1) then .ok ()
  else .error ⟨label ++ " fields are malformed"⟩

/-- `type(value) is dict`. -/
def requireDict (message : String) : PyValue → Except ReadPageError PyDict
  | .dict entries => .ok entries
  | _ => .error ⟨message⟩

/-- `_scope_from_mapping(scope_type, value)`. -/
def scopeFromMapping (scopeType : ScopeType) (value : PyValue) :
    Except ReadPageError (ReadScope categories) := do
  let entries ← requireDict "read cursor scope is malformed" value
  match scopeType with
  | .workspace => do
      exactKeys entries ["workspace_id"] "workspace scope"
      let workspaceId ← generalIdentifier categories (valueAt entries "workspace_id")
      .ok (.workspace workspaceId)
  | .session => do
      exactKeys entries ["workspace_id", "session_id"] "session scope"
      let workspaceId ← generalIdentifier categories (valueAt entries "workspace_id")
      let sessionId ← generalIdentifier categories (valueAt entries "session_id")
      .ok (.session workspaceId sessionId)
  | .plan => do
      exactKeys entries ["workspace_id", "plan_id"] "plan scope"
      let workspaceId ← generalIdentifier categories (valueAt entries "workspace_id")
      let planId ← generalIdentifier categories (valueAt entries "plan_id")
      .ok (.plan workspaceId planId)
  | .run => do
      exactKeys entries ["workspace_id", "run_id"] "run scope"
      let workspaceId ← generalIdentifier categories (valueAt entries "workspace_id")
      let runId ← runIdentifier (valueAt entries "run_id")
      .ok (.run workspaceId runId)

/-- `_PURPOSE_BY_VALUE.get(raw_purpose)`. -/
def purposeOfValue (text : String) : Option DelegationKeyPurpose :=
  [DelegationKeyPurpose.gatewayProbe, .workloadNodeControl,
    .workloadNodeControlSurfaceRead, .gatewayNodeControlTransit].find? fun purpose =>
    purpose.value == text

theorem purposeOfValue_value (purpose : DelegationKeyPurpose) :
    purposeOfValue purpose.value = some purpose := by
  cases purpose <;> decide

theorem value_of_purposeOfValue {text : String} {purpose : DelegationKeyPurpose}
    (h : purposeOfValue text = some purpose) : purpose.value = text := by
  have := List.find?_some h
  simpa using this

def cursorPurpose : PyValue → Except ReadPageError DelegationKeyPurpose
  | .str text =>
      match purposeOfValue text with
      | some purpose => .ok purpose
      | none => .error ⟨"delegation cursor purpose is unsupported"⟩
  | _ => .error ⟨"delegation cursor purpose is malformed"⟩

/-- `_position_from_mapping(spec, scope, value)`. -/
def positionFromMapping (collection : ReadCollection) (scope : ReadScope categories)
    (value : PyValue) : Except ReadPageError (ReadCursor categories) := do
  let entries ← requireDict "read cursor position is malformed" value
  match (readCollectionSpec collection).cursorType with
  | .ordinal => do
      exactKeys entries ["ordinal", "item_id"] "ordinal position"
      ordinalReadCursor collection scope (valueAt entries "ordinal")
        (valueAt entries "item_id")
  | .temporal => do
      exactKeys entries ["instant", "item_id"] "temporal position"
      temporalReadCursor collection scope (valueAt entries "instant")
        (valueAt entries "item_id")
  | .epoch => do
      exactKeys entries ["epoch_second", "item_id"] "epoch position"
      let second ← epochSecondFromWire (valueAt entries "epoch_second")
      epochReadCursor collection scope second (valueAt entries "item_id")
  | .identity => do
      exactKeys entries ["item_id"] "identity position"
      identityReadCursor collection scope (valueAt entries "item_id")
  | .delegationKey => do
      exactKeys entries ["purpose", "issuer", "key_id"] "delegation-key position"
      let purpose ← cursorPurpose (valueAt entries "purpose")
      delegationKeyReadCursor collection scope purpose (valueAt entries "issuer")
        (valueAt entries "key_id")

def cursorCollection : PyValue → Except ReadPageError ReadCollection
  | .str text =>
      match ReadCollection.ofValue text with
      | some collection => .ok collection
      | none => .error ⟨"read cursor collection is unsupported"⟩
  | _ => .error ⟨"read cursor collection is malformed"⟩

/-- `type(value) is int` and `value == 1`. -/
def cursorFormat : PyValue → Except ReadPageError Unit
  | .int version =>
      if version = 1 then .ok () else .error ⟨"read cursor format is unsupported"⟩
  | _ => .error ⟨"read cursor format is unsupported"⟩

/-- `read_cursor_from_mapping(value)`. -/
def readCursorFromMapping (value : PyValue) :
    Except ReadPageError (ReadCursor categories) := do
  let entries ← requireDict "read cursor mapping is malformed" value
  exactKeys entries ["format_version", "collection", "scope", "position"] "read cursor"
  cursorFormat (valueAt entries "format_version")
  let collection ← cursorCollection (valueAt entries "collection")
  let scope ← scopeFromMapping (readCollectionSpec collection).scopeType
    (valueAt entries "scope")
  positionFromMapping collection scope (valueAt entries "position")

end Cursors

end ControlPlaneKit.Operations
