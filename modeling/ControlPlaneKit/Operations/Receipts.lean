import ControlPlaneKit.Library.QuotedText
import ControlPlaneKit.Operations.Authority

/-!
# Receipts — the durable receipt of an execution command

A receipt keeps the canonical intent of a command, the run it was admitted on
and, once the command is complete, its exact result.  A row holds the run and
the result as objects; reading it back runs every check of the record again.
-/

namespace ControlPlaneKit.Operations

open ControlPlaneKit.Library (PyValue)
open ControlPlaneKit.Library.EventFold (bind_ok)
open ControlPlaneKit.Library.QuotedText (digits_append_inj quoted_append_inj)
open ControlPlaneKit.Library.Text (isCanonicalIdentity)

/-! ## Results -/

/-- Closed coordinator result statuses at the durable command boundary. -/
inductive CoordinatorStatus where
  | completed
  | failed
  | progressed
  | inFlight
  | uncertain
  | unsupported
  | blocked
  deriving DecidableEq, Repr

def CoordinatorStatus.value : CoordinatorStatus → String
  | .completed => "completed"
  | .failed => "failed"
  | .progressed => "progressed"
  | .inFlight => "in-flight"
  | .uncertain => "uncertain"
  | .unsupported => "unsupported"
  | .blocked => "blocked"

/-- The texts and bounds `ActivityRunRecord` checks beside its timing and its
lineage. -/
def ActivityRunRecord.Checked (run : ActivityRunRecord) : Prop :=
  isCanonicalIdentity run.runId = true ∧ validText run.planId = true ∧
    validText run.requestId = true ∧ run.attempt ≤ 2147483647 ∧
    run.priorRunId.all isCanonicalIdentity = true

instance (run : ActivityRunRecord) : Decidable run.Checked :=
  inferInstanceAs (Decidable (_ ∧ _ ∧ _ ∧ _ ∧ _))

/-- Visible result of one coordinator command. -/
structure ExecutionCoordinatorResult where
  run : ActivityRunRecord
  status : CoordinatorStatus
  effectsAttempted : Nat
  activityId : Option String
  deriving DecidableEq

def ExecutionCoordinatorResult.Checked (result : ExecutionCoordinatorResult) : Prop :=
  result.run.Checked ∧ result.activityId.all isCanonicalIdentity = true

instance (result : ExecutionCoordinatorResult) : Decidable result.Checked :=
  inferInstanceAs (Decidable (_ ∧ _))

/-- Exact bounded result retained for command replay. -/
structure ExecutionCommandResultRecord extends ExecutionCoordinatorResult where
  checked : toExecutionCoordinatorResult.Checked

/-- `_command_result_record(result)`; the run of a result is a record already. -/
def commandResultRecord (result : ExecutionCoordinatorResult) :
    Except ServiceError ExecutionCommandResultRecord :=
  if checked : result.Checked then .ok ⟨result, checked⟩
  else .error (.record "activity_id is malformed")

theorem commandResultRecord_eq_ok {result : ExecutionCoordinatorResult}
    {record : ExecutionCommandResultRecord}
    (h : commandResultRecord result = .ok record) :
    record.toExecutionCoordinatorResult = result := by
  unfold commandResultRecord at h
  split at h <;> cases h
  rfl

/-! ## Intents -/

/-- What `execution_command_intent_fingerprint` describes. -/
structure ExecutionIntent where
  runId : String
  workerId : String
  authorityScopes : List PolicyScope
  claimGeneration : Nat
  maxEffects : Nat
  deriving DecidableEq

/-- The texts of a JSON array, after its first. -/
def scopesTail : List PolicyScope → List Char
  | [] => [']']
  | scope :: rest => ',' :: PyValue.quoted scope.value ++ scopesTail rest

def scopesText : List PolicyScope → List Char
  | [] => ['[', ']']
  | scope :: rest => '[' :: PyValue.quoted scope.value ++ scopesTail rest

/-- `json.dumps(descriptor, ensure_ascii=True, sort_keys=True, ...)`. -/
def ExecutionIntent.json (intent : ExecutionIntent) : List Char :=
  "\x7b\"authority_scopes\":".toList ++ (scopesText intent.authorityScopes ++
    (",\"claim_generation\":".toList ++ ((toString intent.claimGeneration).toList ++
    ',' :: ("\"command\":\"deployment.execute\"".toList ++
    (",\"domain\":\"control-plane-kit.operations.execution-command.v1\"".toList ++
    (",\"max_effects\":\"".toList ++ ((toString intent.maxEffects).toList ++
    '"' :: (",\"run_id\":".toList ++ (PyValue.quoted intent.runId ++
    (",\"worker_id\":".toList ++ (PyValue.quoted intent.workerId ++ ['\x7d'])))))))))))

/-! ## Values of the vocabularies -/

/-- `Vocabulary(value)`: the member with a value. -/
def memberOf {α : Type} (members : List α) (value : α → String)
    (text : String) : Option α :=
  members.find? fun member => value member = text

theorem memberOf_value {α : Type} {members : List α} {value : α → String}
    (hvalue : (members.map value).Nodup) {member : α} (hmem : member ∈ members) :
    memberOf members value (value member) = some member := by
  have hfound : (memberOf members value (value member)).isSome := by
    rw [memberOf, List.find?_isSome]
    exact ⟨member, hmem, decide_eq_true rfl⟩
  obtain ⟨first, hfirst⟩ := Option.isSome_iff_exists.mp hfound
  have hsame := List.find?_some hfirst
  rw [decide_eq_true_eq] at hsame
  rw [hfirst, List.inj_on_of_nodup_map hvalue
    (List.mem_of_find?_eq_some hfirst) hmem hsame]

def CoordinatorStatus.members : List CoordinatorStatus :=
  [.completed, .failed, .progressed, .inFlight, .uncertain, .unsupported, .blocked]

def ActivityRunStatus.members : List ActivityRunStatus :=
  [.claimed, .running, .paused, .succeeded, .failed, .compensating, .compensated,
    .partiallyFailed, .uncompensatedFailure, .cancelled]

def PolicyScope.members : List PolicyScope :=
  [ .hubInstanceCreate, .hubInstanceRead, .instanceWorkspaceRead, .instanceWorkspaceEdit
  , .planRequest, .planApprove, .planApproveDestructive, .planExecute, .executionOperate
  , .runtimeAuthorityRegister, .runtimeAuthorityRead, .runtimeAuthorityRevoke
  , .runtimeAuthorityUse, .runtimeAuthorityDeliveryRegister,
    .runtimeAuthorityDeliveryRead
  , .runtimeAuthorityDeliveryRevoke, .ingressAuthorityRegister, .ingressAuthorityRead
  , .ingressAuthorityRevoke, .ingressAuthorityUse, .secretProviderRegister
  , .secretProviderRead, .secretProviderUse, .secretProviderRevoke,
    .delegationKeyGenerate
  , .delegationKeyRegister, .delegationKeyRead, .delegationKeyActivate,
    .delegationKeyRetire
  , .delegationKeyRevoke, .delegationKeyUse, .delegationKeyRotate
  , .delegationKeyRotateApprove, .gatewayProbeUse, .nodeControlRead, .nodeControlApply
  , .nodeControlExecute ]

theorem CoordinatorStatus.memberOf_value (status : CoordinatorStatus) :
    memberOf members value status.value = some status :=
  Operations.memberOf_value (by decide) (by cases status <;> decide)

theorem ActivityRunStatus.memberOf_value (status : ActivityRunStatus) :
    memberOf members value status.value = some status :=
  Operations.memberOf_value (by decide) (by cases status <;> decide)

theorem PolicyScope.memberOf_value (scope : PolicyScope) :
    memberOf members value scope.value = some scope :=
  Operations.memberOf_value (by simp [members, value]) (by cases scope <;> decide)

theorem PolicyScope.value_inj {a b : PolicyScope} (h : a.value = b.value) : a = b :=
  Option.some.inj (a.memberOf_value.symm.trans (h ▸ b.memberOf_value))

/-! ## Intents are told apart -/

theorem scopesTail_append_inj : ∀ {a b : List PolicyScope} {rest rest' : List Char},
    scopesTail a ++ rest = scopesTail b ++ rest' → a = b ∧ rest = rest'
  | [], [], _, _, h => ⟨rfl, List.cons.inj h |>.2⟩
  | [], _ :: _, _, _, h => absurd (List.cons.inj h).1 (by decide)
  | _ :: _, [], _, _, h => absurd (List.cons.inj h).1 (by decide)
  | a :: as, b :: bs, _, _, h => by
      simp only [scopesTail, List.cons_append, List.append_assoc, List.cons.injEq,
        true_and] at h
      obtain ⟨hvalue, htail⟩ := quoted_append_inj h
      obtain ⟨rfl, hrest⟩ := scopesTail_append_inj htail
      exact ⟨by rw [PolicyScope.value_inj hvalue], hrest⟩

theorem scopesText_append_inj {a b : List PolicyScope} {rest rest' : List Char}
    (h : scopesText a ++ rest = scopesText b ++ rest') : a = b ∧ rest = rest' := by
  cases a <;> cases b
  case nil.nil => exact ⟨rfl, (List.cons.inj (List.cons.inj h).2).2⟩
  case nil.cons => exact absurd (List.cons.inj (List.cons.inj h).2).1 (by decide)
  case cons.nil => exact absurd (List.cons.inj (List.cons.inj h).2).1 (by decide)
  case cons.cons a as b bs =>
    simp only [scopesText, List.cons_append, List.append_assoc, List.cons.injEq,
      true_and] at h
    obtain ⟨hvalue, htail⟩ := quoted_append_inj h
    obtain ⟨rfl, hrest⟩ := scopesTail_append_inj htail
    exact ⟨by rw [PolicyScope.value_inj hvalue], hrest⟩

/-- **The descriptor separates all intents.** -/
theorem ExecutionIntent.json_inj {a b : ExecutionIntent}
    (h : a.json = b.json) : a = b := by
  unfold ExecutionIntent.json at h
  obtain ⟨hscopes, h⟩ := scopesText_append_inj (List.append_cancel_left h)
  have h := List.append_cancel_left h
  obtain ⟨hgeneration, h⟩ := digits_append_inj (by decide) (by decide) h
  have h := List.append_cancel_left (List.append_cancel_left
    (List.append_cancel_left (List.cons.inj h).2))
  obtain ⟨hmax, h⟩ := digits_append_inj (by decide) (by decide) h
  obtain ⟨hrun, h⟩ := quoted_append_inj (List.append_cancel_left (List.cons.inj h).2)
  obtain ⟨hworker, -⟩ := quoted_append_inj (List.append_cancel_left h)
  clear h
  cases a
  cases b
  simp_all

/-! ## Objects -/

/-- What the object columns of a row hold; evidence by its canonical JSON. -/
inductive ReceiptValue where
  | null
  | text (value : String)
  | number (value : Nat)
  | time (value : Timestamp)
  | evidence (value : BoundedEvidence)
  | object (fields : List (String × ReceiptValue))

namespace ReceiptValue

def text? : ReceiptValue → Option String
  | .text value => some value
  | _ => none

def number? : ReceiptValue → Option Nat
  | .number value => some value
  | _ => none

def time? : ReceiptValue → Option Timestamp
  | .time value => some value
  | _ => none

/-- A value or `null`. -/
def optional {α : Type} (read : ReceiptValue → Option α) :
    ReceiptValue → Option (Option α)
  | .null => some none
  | value => (read value).map some

end ReceiptValue

def optionalText : Option String → ReceiptValue
  | none => .null
  | some value => .text value

def optionalTime : Option Timestamp → ReceiptValue
  | none => .null
  | some value => .time value

@[simp] theorem optional_optionalText (value : Option String) :
    (optionalText value).optional ReceiptValue.text? = some value := by
  cases value <;> rfl

@[simp] theorem optional_optionalTime (value : Option Timestamp) :
    (optionalTime value).optional ReceiptValue.time? = some value := by
  cases value <;> rfl

/-- `frozenset(value) != keys`. -/
def hasKeys (fields : List (String × ReceiptValue)) (keys : List String) : Bool :=
  keys.all (fun key => key ∈ fields.map (·.1)) && fields.all fun field => field.1 ∈ keys

def runDescriptorKeys : List String :=
  ["run_id", "plan_id", "request_id", "attempt", "prior_run_id", "status", "created_at",
    "started_at", "settled_at", "metadata"]

def resultDescriptorKeys : List String :=
  ["run", "status", "effects_attempted", "activity_id"]

def runFields (run : ActivityRunRecord) : List (String × ReceiptValue) :=
  [ ("run_id", .text run.runId)
  , ("plan_id", .text run.planId)
  , ("request_id", .text run.requestId)
  , ("attempt", .number run.attempt)
  , ("prior_run_id", optionalText run.priorRunId)
  , ("status", .text run.status.value)
  , ("created_at", .time run.createdAt)
  , ("started_at", optionalTime run.startedAt)
  , ("settled_at", optionalTime run.settledAt)
  , ("metadata", .evidence run.metadata) ]

/-- `_run_descriptor(record)`. -/
def runDescriptor (run : ActivityRunRecord) : ReceiptValue := .object (runFields run)

/-- The constructor of a run applied to the values of an object. -/
def runFromFields (fields : List (String × ReceiptValue)) (metadata : BoundedEvidence) :
    Option { run : ActivityRunRecord // run.Checked } := do
  let runId ← (← fields.lookup "run_id").text?
  let planId ← (← fields.lookup "plan_id").text?
  let requestId ← (← fields.lookup "request_id").text?
  let attempt ← (← fields.lookup "attempt").number?
  let priorRunId ← (← fields.lookup "prior_run_id").optional ReceiptValue.text?
  let status ← memberOf ActivityRunStatus.members ActivityRunStatus.value
    (← (← fields.lookup "status").text?)
  let createdAt ← (← fields.lookup "created_at").time?
  let startedAt ← (← fields.lookup "started_at").optional ReceiptValue.time?
  let settledAt ← (← fields.lookup "settled_at").optional ReceiptValue.time?
  if timing : RunTiming status startedAt settledAt then
    if lineage : RetryLineage runId attempt priorRunId then
      let run : ActivityRunRecord :=
        ⟨runId, planId, requestId, attempt, priorRunId, status, createdAt,
          startedAt, settledAt, metadata, timing, lineage⟩
      if checked : run.Checked then some ⟨run, checked⟩ else none
    else none
  else none

/-- `_run_from_descriptor(value)`. -/
def runFromDescriptor (value : ReceiptValue) :
    Except ServiceError { run : ActivityRunRecord // run.Checked } :=
  match value with
  | .object fields => do
      requireThat (hasKeys fields runDescriptorKeys)
        (.record "persisted execution command run is malformed")
      match fields.lookup "metadata" with
      | some (.evidence metadata) =>
          found (runFromFields fields metadata)
            (.record "persisted execution command run is malformed")
      | _ => .error (.record "persisted execution command metadata is malformed")
  | _ => .error (.record "persisted execution command run is malformed")

/-- `_result_descriptor(record)`. -/
def resultDescriptor (result : ExecutionCommandResultRecord) : ReceiptValue :=
  .object
    [ ("run", runDescriptor result.run)
    , ("status", .text result.status.value)
    , ("effects_attempted", .number result.effectsAttempted)
    , ("activity_id", optionalText result.activityId) ]

/-- The constructor of a result applied to the values of an object. -/
def resultFromFields (fields : List (String × ReceiptValue))
    (run : { run : ActivityRunRecord // run.Checked }) :
    Option ExecutionCommandResultRecord := do
  let status ← memberOf CoordinatorStatus.members CoordinatorStatus.value
    (← (← fields.lookup "status").text?)
  let effectsAttempted ← (← fields.lookup "effects_attempted").number?
  let activityId ← (← fields.lookup "activity_id").optional ReceiptValue.text?
  if canonical : activityId.all isCanonicalIdentity = true then
    some ⟨⟨run.1, status, effectsAttempted, activityId⟩, run.2, canonical⟩
  else none

/-- `_result_from_descriptor(value)`. -/
def resultFromDescriptor (value : ReceiptValue) :
    Except ServiceError ExecutionCommandResultRecord :=
  match value with
  | .object fields => do
      requireThat (hasKeys fields resultDescriptorKeys)
        (.record "persisted execution command result is malformed")
      let stored ← found (fields.lookup "run")
        (.record "persisted execution command result is malformed")
      let run ← runFromDescriptor stored
      found (resultFromFields fields run)
        (.record "persisted execution command result is malformed")
  | _ => .error (.record "persisted execution command result is malformed")

theorem runFromFields_runFields {run : ActivityRunRecord} (checked : run.Checked) :
    runFromFields (runFields run) run.metadata = some ⟨run, checked⟩ := by
  simp [runFromFields, runFields, List.lookup_cons, ReceiptValue.text?,
    ReceiptValue.number?, ReceiptValue.time?, run.status.memberOf_value, run.timing,
    run.lineage, checked]

/-- **The stored run is the run.** -/
theorem runFromDescriptor_runDescriptor {run : ActivityRunRecord}
    (checked : run.Checked) :
    runFromDescriptor (runDescriptor run) = .ok ⟨run, checked⟩ := by
  refine requireThat_bind.mpr ⟨by simp [hasKeys, runDescriptorKeys, runFields], ?_⟩
  have hmetadata : (runFields run).lookup "metadata" =
      some (.evidence run.metadata) := by
    simp [runFields, List.lookup_cons]
  rw [hmetadata]
  exact found_eq_ok.mpr (runFromFields_runFields checked)

/-- **The stored result is the result**, for every result. -/
theorem resultFromDescriptor_resultDescriptor (result : ExecutionCommandResultRecord) :
    resultFromDescriptor (resultDescriptor result) = .ok result := by
  refine requireThat_bind.mpr ⟨by simp [hasKeys, resultDescriptorKeys], ?_⟩
  refine found_bind.mpr ⟨runDescriptor result.run, by simp, ?_⟩
  refine bind_ok.mpr ⟨_, runFromDescriptor_runDescriptor result.checked.1, ?_⟩
  refine found_eq_ok.mpr ?_
  have hcanonical := result.checked.2
  simp [resultFromFields, List.lookup_cons, ReceiptValue.text?, ReceiptValue.number?,
    result.status.memberOf_value, hcanonical]

/-! ## Receipts -/

/-- Durable admission and optional completion of one coordinator command. -/
structure ExecutionCommandReceiptRecord where
  runId : String
  idempotencyKey : String
  intentFingerprint : String
  workerId : String
  authorityScopes : List PolicyScope
  claimGeneration : Nat
  maxEffects : Nat
  admittedAt : Timestamp
  initialRun : { run : ActivityRunRecord // run.Checked }
  completion : Option (Timestamp × ExecutionCommandResultRecord)

def ExecutionCommandReceiptRecord.intent (receipt : ExecutionCommandReceiptRecord) :
    ExecutionIntent :=
  ⟨receipt.runId, receipt.workerId, receipt.authorityScopes, receipt.claimGeneration,
    receipt.maxEffects⟩

/-- `_execution_run_lineage(record)`. -/
def executionRunLineage (run : ActivityRunRecord) :
    String × String × String × Nat × Option String × Timestamp :=
  (run.runId, run.planId, run.requestId, run.attempt, run.priorRunId, run.createdAt)

section Fingerprint

variable (digest : List Char → String)

/-- `execution_command_intent_fingerprint(...)`, after its checks. -/
def ExecutionIntent.fingerprint (intent : ExecutionIntent) : String :=
  digest intent.json

/-- The completion of a receipt against its admission. -/
def checkCompletion (receipt : ExecutionCommandReceiptRecord) :
    Option (Timestamp × ExecutionCommandResultRecord) → Except ServiceError Unit
  | none => .ok ()
  | some (completedAt, result) => do
      requireThat (result.run.runId = receipt.runId)
        (.record "completed execution command requires a congruent result")
      requireThat (receipt.admittedAt ≤ completedAt)
        (.record "execution command completion precedes admission")
      requireThat (result.effectsAttempted ≤ receipt.maxEffects)
        (.record "execution command result exceeds its effect bound")
      requireThat
        (executionRunLineage result.run = executionRunLineage receipt.initialRun.1)
        (.record "execution command result run lineage is incongruent")

/-- `ExecutionCommandReceiptRecord.__post_init__`. -/
def checkReceipt (receipt : ExecutionCommandReceiptRecord) :
    Except ServiceError Unit := do
  requireThat (isCanonicalIdentity receipt.runId) (.record "run_id is malformed")
  validateText receipt.idempotencyKey "idempotency_key"
  requireThat (receipt.idempotencyKey.length ≤ 200)
    (.record "execution command key is too long")
  validateText receipt.workerId "worker_id"
  requireThat
    (receipt.authorityScopes ≠ [] &&
      decide (receipt.authorityScopes.Pairwise fun a b => a.value < b.value))
    (.record "execution command scopes are not canonical")
  requireThat (1 ≤ receipt.claimGeneration && receipt.claimGeneration ≤ maxGeneration)
    (.record "execution command generation is invalid")
  requireThat (1 ≤ receipt.maxEffects)
    (.record "execution command effect bound is invalid")
  requireThat (receipt.intentFingerprint = receipt.intent.fingerprint digest)
    (.record "execution command fingerprint is invalid")
  requireThat (receipt.initialRun.1.runId = receipt.runId)
    (.record "execution command initial run is incongruent")
  checkCompletion receipt receipt.completion

/-! ## Rows -/

/-- A row of `cpk_execution_command_receipts`; complete with time and result, or
with neither. -/
structure CommandReceiptRow where
  runId : String
  idempotencyKey : String
  intentFingerprint : String
  workerId : String
  authorityScopes : List String
  claimGeneration : Nat
  maxEffects : String
  admittedAt : Timestamp
  initialRun : ReceiptValue
  completion : Option (Timestamp × ReceiptValue)

/-- The values `add_command_receipt` inserts. -/
def receiptRow (receipt : ExecutionCommandReceiptRecord) : CommandReceiptRow where
  runId := receipt.runId
  idempotencyKey := receipt.idempotencyKey
  intentFingerprint := receipt.intentFingerprint
  workerId := receipt.workerId
  authorityScopes := receipt.authorityScopes.map PolicyScope.value
  claimGeneration := receipt.claimGeneration
  maxEffects := toString receipt.maxEffects
  admittedAt := receipt.admittedAt
  initialRun := runDescriptor receipt.initialRun.1
  completion := receipt.completion.map fun given => (given.1, resultDescriptor given.2)

/-- `positive_int_from_canonical_decimal(value)`. -/
def positiveIntFromCanonicalDecimal (value : String) : Except ServiceError Nat := do
  let parsed ← found value.toNat?
    (.record "execution command effect bound is malformed")
  requireThat (1 ≤ parsed && toString parsed = value)
    (.record "execution command effect bound is malformed")
  return parsed

def malformedReceipt : ServiceError :=
  .record "persisted execution command receipt is malformed"

def completionFromRow : Option (Timestamp × ReceiptValue) →
    Except ServiceError (Option (Timestamp × ExecutionCommandResultRecord))
  | none => .ok none
  | some (completedAt, stored) => do
      let result ← resultFromDescriptor stored
      return some (completedAt, result)

/-- The values of a row, with the checks of the record. -/
def receiptFromRow (row : CommandReceiptRow) :
    Except ServiceError ExecutionCommandReceiptRecord := do
  let authorityScopes ← found
    (row.authorityScopes.mapM fun value =>
      memberOf PolicyScope.members PolicyScope.value value)
    malformedReceipt
  let maxEffects ← positiveIntFromCanonicalDecimal row.maxEffects
  let initialRun ← runFromDescriptor row.initialRun
  let completion ← completionFromRow row.completion
  let receipt : ExecutionCommandReceiptRecord :=
    ⟨row.runId, row.idempotencyKey, row.intentFingerprint, row.workerId,
      authorityScopes, row.claimGeneration, maxEffects, row.admittedAt,
      initialRun, completion⟩
  checkReceipt digest receipt
  return receipt

/-- `_command_receipt(row)`: whatever a check says, the row is malformed. -/
def commandReceipt (row : CommandReceiptRow) :
    Except ServiceError ExecutionCommandReceiptRecord :=
  (receiptFromRow digest row).mapError fun _ => malformedReceipt

theorem mapM_memberOf_value : ∀ scopes : List PolicyScope,
    (scopes.map PolicyScope.value).mapM
    (memberOf PolicyScope.members PolicyScope.value) =
      some scopes
  | [] => rfl
  | scope :: rest => by
      rw [List.map_cons, List.mapM_cons, scope.memberOf_value, mapM_memberOf_value rest]
      rfl

theorem positiveIntFromCanonicalDecimal_toString {value : Nat} (h : 1 ≤ value) :
    positiveIntFromCanonicalDecimal (toString value) = .ok value := by
  refine found_bind.mpr ⟨value, ?_, requireThat_bind.mpr ⟨by simp [h], rfl⟩⟩
  exact Nat.toNat?_repr value

theorem completionFromRow_receiptRow (receipt : ExecutionCommandReceiptRecord) :
    completionFromRow (receiptRow receipt).completion = .ok receipt.completion := by
  show completionFromRow (receipt.completion.map _) = _
  cases receipt.completion with
  | none => rfl
  | some given =>
      exact bind_ok.mpr ⟨_, resultFromDescriptor_resultDescriptor given.2, rfl⟩

theorem checkReceipt_key {receipt : ExecutionCommandReceiptRecord}
    (h : checkReceipt digest receipt = .ok ()) :
    (validText receipt.idempotencyKey && receipt.idempotencyKey.length ≤ 200) =
      true := by
  obtain ⟨-, h⟩ := requireThat_bind.mp h
  obtain ⟨_, htext, h⟩ := bind_ok.mp h
  obtain ⟨hlength, -⟩ := requireThat_bind.mp h
  rw [validateText_eq_ok.mp htext, Bool.true_and]
  exact hlength

theorem checkReceipt_maxEffects {receipt : ExecutionCommandReceiptRecord}
    (h : checkReceipt digest receipt = .ok ()) : 1 ≤ receipt.maxEffects := by
  obtain ⟨-, h⟩ := requireThat_bind.mp h
  obtain ⟨_, -, h⟩ := bind_ok.mp h
  obtain ⟨-, h⟩ := requireThat_bind.mp h
  obtain ⟨_, -, h⟩ := bind_ok.mp h
  obtain ⟨-, h⟩ := requireThat_bind.mp h
  obtain ⟨-, h⟩ := requireThat_bind.mp h
  obtain ⟨hmax, -⟩ := requireThat_bind.mp h
  exact of_decide_eq_true hmax

theorem checkReceipt_fingerprint {receipt : ExecutionCommandReceiptRecord}
    (h : checkReceipt digest receipt = .ok ()) :
    receipt.intentFingerprint = receipt.intent.fingerprint digest := by
  obtain ⟨-, h⟩ := requireThat_bind.mp h
  obtain ⟨_, -, h⟩ := bind_ok.mp h
  obtain ⟨-, h⟩ := requireThat_bind.mp h
  obtain ⟨_, -, h⟩ := bind_ok.mp h
  obtain ⟨-, h⟩ := requireThat_bind.mp h
  obtain ⟨-, h⟩ := requireThat_bind.mp h
  obtain ⟨-, h⟩ := requireThat_bind.mp h
  obtain ⟨hfingerprint, -⟩ := requireThat_bind.mp h
  exact of_decide_eq_true hfingerprint

/-- **The stored receipt is the receipt.** -/
theorem commandReceipt_receiptRow {receipt : ExecutionCommandReceiptRecord}
    (h : checkReceipt digest receipt = .ok ()) :
    commandReceipt digest (receiptRow receipt) = .ok receipt := by
  have hread : receiptFromRow digest (receiptRow receipt) = .ok receipt := by
    refine found_bind.mpr ⟨_, mapM_memberOf_value _, ?_⟩
    refine bind_ok.mpr
      ⟨_, positiveIntFromCanonicalDecimal_toString
        (checkReceipt_maxEffects digest h), ?_⟩
    refine bind_ok.mpr ⟨_, runFromDescriptor_runDescriptor receipt.initialRun.2, ?_⟩
    exact bind_ok.mpr ⟨_, completionFromRow_receiptRow receipt,
      bind_ok.mpr ⟨(), h, rfl⟩⟩
  rw [commandReceipt, hread]
  rfl

/-- A row that is read back passes the checks of its record. -/
theorem commandReceipt_checked {receipt read : ExecutionCommandReceiptRecord}
    (h : commandReceipt digest (receiptRow receipt) = .ok read) :
    checkReceipt digest receipt = .ok () := by
  have hread : receiptFromRow digest (receiptRow receipt) = .ok read := by
    unfold commandReceipt at h
    cases hrow : receiptFromRow digest (receiptRow receipt) with
    | error error => rw [hrow] at h; cases h
    | ok row => rw [hrow] at h; cases h; rfl
  obtain ⟨scopes, hscopes, hread⟩ := found_bind.mp hread
  obtain ⟨maxEffects, hmax, hread⟩ := bind_ok.mp hread
  obtain ⟨run, hrun, hread⟩ := bind_ok.mp hread
  obtain ⟨completion, hcompletion, hread⟩ := bind_ok.mp hread
  obtain ⟨_, hcheck, -⟩ := bind_ok.mp hread
  obtain rfl : receipt.authorityScopes = scopes :=
    Option.some.inj ((mapM_memberOf_value receipt.authorityScopes).symm.trans hscopes)
  obtain rfl : receipt.maxEffects = maxEffects := by
    obtain ⟨parsed, hparsed, hmax⟩ := found_bind.mp hmax
    obtain ⟨-, hreturn⟩ := requireThat_bind.mp hmax
    cases hreturn
    exact Option.some.inj ((Nat.toNat?_repr receipt.maxEffects).symm.trans hparsed)
  obtain rfl : receipt.initialRun = run :=
    Except.ok.inj
      ((runFromDescriptor_runDescriptor receipt.initialRun.2).symm.trans hrun)
  obtain rfl : receipt.completion = completion :=
    Except.ok.inj ((completionFromRow_receiptRow receipt).symm.trans hcompletion)
  exact hcheck

end Fingerprint

end ControlPlaneKit.Operations
