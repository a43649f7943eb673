import ControlPlaneKit.Operations.Lifecycle

/-!
# CommandReceipts — the transactions around an execution command

`execute` admits a command under its idempotency key, works in an arbitrarily
long loop of other transactions, and completes the receipt it has written.
Admission reads the receipt under the lock of the claim; completion updates an
incomplete receipt of the same intent.
-/

namespace ControlPlaneKit.Operations

open ControlPlaneKit.Library (TextMap)
open ControlPlaneKit.Library.EventFold (bind_ok)
open ControlPlaneKit.Library.Text (isBlank)

/-! ## Commands -/

/-- Advance one claimed, running activity run by at most `maxEffects` steps. -/
structure ExecuteActivityRun extends RunCommand where
  maxEffects : Nat
  maxEffects_pos : 1 ≤ maxEffects
  key_bounded : isBlank idempotencyKey = false ∧ idempotencyKey.length ≤ 200

/-- What `_execution_command_fingerprint` describes. -/
def ExecuteActivityRun.intent (command : ExecuteActivityRun) : ExecutionIntent :=
  ⟨command.runId, command.authority.workerId, command.authority.scopes,
    command.fence.generation, command.maxEffects⟩

/-- `_require_command_key(value)`. -/
def requireCommandKey (value : String) : Except ServiceError Unit :=
  requireThat (validText value && value.length ≤ 200)
    (.record "execution command key is malformed")

/-- `_get_run_for_update(stores, run_id)`; reading a row runs the checks of the
record. -/
def runForUpdate (stores : Stores) (runId : String) :
    Except ServiceError { run : ActivityRunRecord // run.Checked } := do
  let run ← found stores.runs[runId]? runNotFound
  if checked : run.Checked then return ⟨run, checked⟩
  else .error (.integrity "cpk_activity_runs")

/-- `_require_worker_owns` of the coordinator. -/
def requireCoordinatorOwns (request : ExecutionRequestRecord)
    (authority : ExecutionWorkerAuthority) (fence : ExecutionLeaseFence) :
    Except ServiceError Unit := do
  requireThat (PolicyScope.executionOperate ∈ authority.scopes)
    (.denied "scope execution:operate is missing")
  requireWorkerOwns request authority fence

/-- `_locked_request_and_run(stores, command)`. -/
def lockedRequestAndRun (stores : Stores) (command : RunCommand) :
    Except ServiceError
      (ExecutionRequestRecord × { run : ActivityRunRecord // run.Checked }) := do
  let run ← runForUpdate stores command.runId
  let request ← found stores.requests[run.1.requestId]? requestNotFound
  requireThat (run.1.requestId = request.identity.requestId)
    (.conflict "activity run request linkage changed")
  requireCoordinatorOwns request command.authority command.fence
  return (request, run)

/-! ## The table of receipts -/

def CommandReceiptRow.Under (row : CommandReceiptRow) (runId key : String) : Prop :=
  row.runId = runId ∧ row.idempotencyKey = key

instance (row : CommandReceiptRow) (runId key : String) :
    Decidable (row.Under runId key) :=
  inferInstanceAs (Decidable (_ ∧ _))

def receiptsBroken : ServiceError := .integrity "cpk_execution_command_receipts"

namespace Stores

variable (stores : Stores)

def receiptRowFor (runId key : String) : Option CommandReceiptRow :=
  stores.receipts.find? fun row => row.Under runId key

section Fingerprint

variable (digest : List Char → String) (fits : ReceiptValue → Bool)

/-- `command_receipt_for_idempotency(run_id, idempotency_key)`. -/
def commandReceiptForIdempotency (runId key : String) :
    Except ServiceError (Option ExecutionCommandReceiptRecord) :=
  match stores.receiptRowFor runId key with
  | none => .ok none
  | some row => (commandReceipt digest row).map some

/-- `add_command_receipt`: run and key are the key, and an object fits its
column. -/
def addCommandReceipt (receipt : ExecutionCommandReceiptRecord) :
    Except ServiceError Stores := do
  requireThat
    (!stores.receipts.any fun row => row.Under receipt.runId receipt.idempotencyKey)
    receiptsBroken
  requireThat (fits (runDescriptor receipt.initialRun.1)) receiptsBroken
  return { stores with receipts := stores.receipts ++ [receiptRow receipt] }

/-- The row after the `UPDATE`. -/
def completedRow (row : CommandReceiptRow) (completedAt : Timestamp)
    (result : ExecutionCommandResultRecord) : CommandReceiptRow :=
  { row with completion := some (completedAt, resultDescriptor result) }

def replaceReceipt (runId key : String) (row : CommandReceiptRow) : Stores :=
  { stores with
    receipts := stores.receipts.map fun other => if other.Under runId key then row
      else other }

/-- `complete_command_receipt`: only an incomplete row of the same intent; the
returned row is read back. -/
def completeCommandReceipt (runId key fingerprint : String) (completedAt : Timestamp)
    (result : ExecutionCommandResultRecord) :
    Except ServiceError (Option (ExecutionCommandReceiptRecord × Stores)) :=
  match stores.receiptRowFor runId key with
  | none => .ok none
  | some row =>
      if row.intentFingerprint = fingerprint ∧ row.completion.isNone then do
        requireThat (fits (resultDescriptor result)) receiptsBroken
        let completed := completedRow row completedAt result
        let receipt ← commandReceipt digest completed
        return some (receipt, stores.replaceReceipt runId key completed)
      else .ok none

end Fingerprint

end Stores

/-! ## Admission and completion -/

section Service

variable (digest : List Char → String) (fits : ReceiptValue → Bool)

/-- The receipt `_admit_command` adds. -/
def admissionReceipt (command : ExecuteActivityRun) (now : Timestamp)
    (run : { run : ActivityRunRecord // run.Checked }) :
    ExecutionCommandReceiptRecord where
  runId := command.runId
  idempotencyKey := command.idempotencyKey
  intentFingerprint := command.intent.fingerprint digest
  workerId := command.authority.workerId
  authorityScopes := command.authority.scopes
  claimGeneration := command.fence.generation
  maxEffects := command.maxEffects
  admittedAt := now
  initialRun := run
  completion := none

/-- What a repeated command is answered with. -/
def receiptAnswer (run : ActivityRunRecord) (receipt : ExecutionCommandReceiptRecord) :
    ExecutionCoordinatorResult :=
  match receipt.completion with
  | some (_, result) => result.toExecutionCoordinatorResult
  | none => ⟨run, .uncertain, 0, none⟩

/-- `_require_operate_scope` and `_admit_command(command)`: the answer to a
repeated command, or nothing when the command is admitted. -/
def admitCommand (now : Timestamp) (command : ExecuteActivityRun) (stores : Stores) :
    Except ServiceError (Option ExecutionCoordinatorResult × Stores) := do
  requireThat (PolicyScope.executionOperate ∈ command.authority.scopes)
    (.denied "scope execution:operate is missing")
  requireCommandKey command.idempotencyKey
  let (_, run) ← lockedRequestAndRun stores command.toRunCommand
  match ← stores.commandReceiptForIdempotency digest command.runId
      command.idempotencyKey with
  | some receipt => do
      requireThat (receipt.intentFingerprint = command.intent.fingerprint digest)
        (.conflict "execution command idempotency key conflicts with prior intent")
      return (some (receiptAnswer run.1 receipt), stores)
  | none => do
      let receipt := admissionReceipt digest command now run
      checkReceipt digest receipt
      let stores ← stores.addCommandReceipt fits receipt
      return (none, stores)

/-- `_complete_command(command, result)`. -/
def completeCommand (now : Timestamp) (command : ExecuteActivityRun)
    (result : ExecutionCoordinatorResult) (stores : Stores) :
    Except ServiceError Stores := do
  requireCommandKey command.idempotencyKey
  let record ← commandResultRecord result
  let completed ← stores.completeCommandReceipt digest fits command.runId
    command.idempotencyKey (command.intent.fingerprint digest) now record
  let (_, stores) ← found completed
    (.conflict "execution command completion receipt is invalid")
  return stores

end Service

/-! ## Calls -/

/-- Where a call of `execute` stands. -/
inductive CallStage where
  | sent
  | admitted
  | finished (result : ExecutionCoordinatorResult)
  | completed (result : ExecutionCoordinatorResult)
  | returned (result : ExecutionCoordinatorResult)
  | raised (error : ServiceError)
  | interrupted
  deriving DecidableEq

/-- A call, with what it has done: whether it passed admission, how often it
dispatched an effect, and the result its completion committed. -/
structure Call where
  command : ExecuteActivityRun
  stage : CallStage := .sent
  passed : Bool := false
  dispatches : Nat := 0
  committed : Option ExecutionCoordinatorResult := none

/-- What can happen to a call.  The loop of `_execute_admitted` commits other
transactions and dispatches effects, then returns or raises; it writes no
receipt. -/
inductive CallMove where
  | admission (now : Timestamp)
  | work (after : Stores) (dispatches : Nat)
  | finish (result : ExecutionCoordinatorResult)
  | fail (error : ServiceError)
  | complete (now : Timestamp)
  | deliver
  | interrupt

/-- Tables written by a transaction that writes no receipt. -/
def Stores.writing (stores after : Stores) : Stores :=
  { after with receipts := stores.receipts }

section Calls

variable (digest : List Char → String) (fits : ReceiptValue → Bool)

/-- One move of a call; a move that does not fit its stage does nothing. -/
def Call.move (stores : Stores) (call : Call) (move : CallMove) : Call × Stores :=
  match call.stage, move with
  | .sent, .admission now =>
      match admitCommand digest fits now call.command stores with
      | .error error => ({ call with stage := .raised error }, stores)
      | .ok (some result, after) => ({ call with stage := .returned result }, after)
      | .ok (none, after) => ({ call with stage := .admitted, passed := true }, after)
  | .admitted, .work after dispatches =>
      ({ call with dispatches := call.dispatches + dispatches }, stores.writing after)
  | .admitted, .finish result => ({ call with stage := .finished result }, stores)
  | .admitted, .fail error => ({ call with stage := .raised error }, stores)
  | .finished result, .complete now =>
      match completeCommand digest fits now call.command result stores with
      | .error error => ({ call with stage := .raised error }, stores)
      | .ok after =>
          ({ call with stage := .completed result, committed := some result }, after)
  | .completed result, .deliver => ({ call with stage := .returned result }, stores)
  | .sent, .interrupt | .admitted, .interrupt | .finished _, .interrupt
  | .completed _, .interrupt => ({ call with stage := .interrupted }, stores)
  | _, _ => (call, stores)

/-- The database and the calls made so far. -/
structure CallSystem where
  stores : Stores
  calls : List Call

inductive CallStep where
  | send (command : ExecuteActivityRun)
  | move (index : Nat) (move : CallMove)
  | other (after : Stores)

def callStep (system : CallSystem) : CallStep → CallSystem
  | .send command => { system with calls := system.calls ++ [{ command := command }] }
  | .move index move =>
      match system.calls[index]? with
      | none => system
      | some call =>
          let moved := call.move digest fits system.stores move
          ⟨moved.2, system.calls.set index moved.1⟩
  | .other after => { system with stores := system.stores.writing after }

/-- The system after a list of steps. -/
def callRun (system : CallSystem) (steps : List CallStep) : CallSystem :=
  steps.foldl (callStep digest fits) system

end Calls

end ControlPlaneKit.Operations
