import ControlPlaneKit.Library.QuotedText
import ControlPlaneKit.Operations.Lifecycle

/-!
# LifecycleLaws — the history a run's lifecycle commands leave

Every accepted command is a replay, which writes nothing, or moves one run along
one edge of the lifecycle and appends one event and one action.  From this one
inversion follow the laws of a run's history: contiguous ordinals, a status that
the events determine, a settlement that stays, and exact replay.
-/

namespace ControlPlaneKit.Operations

open ControlPlaneKit.Library (TextMap)
open ControlPlaneKit.Library.EventFold (bind_ok)
open ControlPlaneKit.Library.KeyedMap (getElem?_insert)
open ControlPlaneKit.Library.PyValue (quoted)
open ControlPlaneKit.Library.QuotedText
  (digits_append_inj hasMark hasMark_cons hasMark_quote
  hasMark_text mark_append_inj quoted_append_inj)
open ControlPlaneKit.Library.Text (isCanonicalIdentity)

/-! ## Intents are told apart

Evidence is written into an intent as it stands.  Whatever it is, the names of the run
and of the worker come after it and do not come again. -/

theorem toList_failureName :
    ",\"failure\":\x7b\"category\":".toList = [',', '"', 'f', 'a', 'i',
    'l', 'u', 'r', 'e', '"', ':', '\x7b', '"', 'c', 'a', 't', 'e', 'g', 'o', 'r',
    'y', '"', ':'] :=
  String.toList_ofList

theorem toList_evidenceName :
    ",\"evidence\":".toList = [',', '"', 'e', 'v', 'i', 'd', 'e', 'n', 'c',
    'e', '"', ':'] :=
  String.toList_ofList

theorem toList_messageName :
    ",\"message\":".toList = [',', '"', 'm', 'e', 's', 's', 'a', 'g', 'e',
    '"', ':'] :=
  String.toList_ofList

theorem toList_runName :
    ",\"run_id\":".toList = [',', '"', 'r', 'u', 'n', '_', 'i', 'd', '"', ':'] :=
  String.toList_ofList

theorem toList_workerName :
    ",\"worker_id\":".toList = [',', '"', 'w', 'o', 'r', 'k', 'e', 'r', '_',
    'i', 'd', '"', ':'] :=
  String.toList_ofList

theorem toList_close : "\x7d".toList = ['\x7d'] :=
  String.toList_ofList

/-- What follows the mark of the worker. -/
def workerTail (workerId : String) : List Char :=
  'o' :: 'r' :: 'k' :: 'e' :: 'r' :: '_' :: 'i' :: 'd' :: '"' :: ':' ::
    (quoted workerId ++ ['\x7d'])

/-- What follows the mark of the run. -/
def runTail (runId workerId : String) : List Char :=
  'u' :: 'n' :: '_' :: 'i' :: 'd' :: '"' :: ':' ::
    (quoted runId ++ ',' :: '"' :: 'w' :: workerTail workerId)

/-- What follows the mark of a message. -/
def messageTail (message : String) : List Char :=
  'e' :: 's' :: 's' :: 'a' :: 'g' :: 'e' :: '"' :: ':' :: (quoted message ++ ['\x7d'])

/-- The names at the end of an intent are not the key that comes after evidence. -/
theorem runTail_unmarked (runId workerId : String) :
    hasMark 'r' ('"' :: 'r' :: runTail runId workerId) = false := by
  simp [runTail, workerTail, hasMark_cons, hasMark_quote, hasMark_text, hasMark]

/-- The message at the end of a failure is not either. -/
theorem messageTail_unmarked (message : String) :
    hasMark 'm' ('"' :: 'm' :: messageTail message) = false := by
  simp [messageTail, hasMark_cons, hasMark_text, hasMark]

/-- The end of an intent determines its run and its worker. -/
theorem runTail_inj {runId workerId runId' workerId' : String}
    (h : runTail runId workerId = runTail runId' workerId') :
    runId = runId' ∧ workerId = workerId' := by
  simp only [runTail, List.cons.injEq, true_and] at h
  obtain ⟨hrun, h⟩ := quoted_append_inj h
  simp only [workerTail, List.cons.injEq, true_and] at h
  exact ⟨hrun, (quoted_append_inj h).1⟩

/-- The end of a failure determines its message. -/
theorem messageTail_inj {message message' : String}
    (h : messageTail message = messageTail message') : message = message' := by
  simp only [messageTail, List.cons.injEq, true_and] at h
  exact (quoted_append_inj h).1

/-- Categories have different texts. -/
theorem FailureCategory.value_inj {a b : FailureCategory}
    (h : a.value = b.value) : a = b := by
  cases a <;> cases b <;> first | rfl | exact absurd h (by decide)

/-- So have operations. -/
theorem LifecycleOperationKind.value_inj {a b : LifecycleOperationKind}
    (h : a.value = b.value) : a = b := by
  cases a <;> cases b <;> first | rfl | exact absurd h (by decide)

/-- A failure's entry, up to the mark of its message. -/
def failureHead (given : FailureEvidence) : List Char :=
  quoted given.category.value ++ (",\"code\":".toList ++ (quoted given.code ++
    (",\"details\":".toList ++ given.details.canonicalJson.toList)))

theorem IntentDetail.json_evidence (given : BoundedEvidence) :
    (IntentDetail.evidence given).json = ",\"evidence\":" ++ given.canonicalJson := rfl

theorem IntentDetail.json_failure (given : FailureEvidence) :
    (IntentDetail.failure given).json =
    ",\"failure\":\x7b\"category\":" ++ jsonText given.category.value ++
      ",\"code\":" ++ jsonText given.code ++
      ",\"details\":" ++ given.details.canonicalJson ++
      ",\"message\":" ++ jsonText given.message ++ "\x7d" := rfl

theorem LifecycleIntent.json_claim (requestId workerId : String) (leaseDuration : Nat) :
    (LifecycleIntent.claim requestId workerId leaseDuration).json =
      "\x7b\"command\":" ++ jsonText LifecycleOperationKind.claimRun.value ++
        ",\"lease_duration_seconds\":" ++ toString leaseDuration ++
        ",\"request_id\":" ++ jsonText requestId ++
        ",\"worker_id\":" ++ jsonText workerId ++ "\x7d" := rfl

theorem LifecycleIntent.json_run (kind : LifecycleOperationKind) (runId : String)
    (fence : ExecutionLeaseFence) (detail : IntentDetail) :
    (LifecycleIntent.run kind runId fence detail).json =
      "\x7b\"claim_generation\":" ++ toString fence.generation ++
        ",\"command\":" ++ jsonText kind.value ++ detail.json ++
        ",\"run_id\":" ++ jsonText runId ++
        ",\"worker_id\":" ++ jsonText fence.workerId ++ "\x7d" := rfl

theorem toList_requestName :
    ",\"request_id\":".toList = ',' :: "\"request_id\":".toList := rfl

theorem toList_commandName :
    ",\"command\":".toList = ',' :: "\"command\":".toList := rfl

theorem toList_failure (given : FailureEvidence) :
    (IntentDetail.failure given).json.toList =
    ",\"failure\":\x7b\"category\":".toList ++
      (failureHead given ++ ',' :: '"' :: 'm' :: messageTail given.message) := by
  simp only [IntentDetail.json_failure, jsonText, failureHead, messageTail,
    String.toList_append, String.toList_ofList, List.append_assoc, toList_messageName,
    toList_close, List.cons_append, List.nil_append]

theorem toList_evidence (given : BoundedEvidence) :
    (IntentDetail.evidence given).json.toList =
    ",\"evidence\":".toList ++ given.canonicalJson.toList := by
  simp only [IntentDetail.json_evidence, String.toList_append]

/-- Evidence is its text. -/
theorem evidence_inj {given given' : BoundedEvidence}
    (h : given.canonicalJson.toList = given'.canonicalJson.toList) :
    given = given' := by
  cases given
  cases given'
  exact congrArg BoundedEvidence.mk (String.toList_inj.mp h)

/-- **A detail is determined by its JSON.** -/
theorem IntentDetail.json_inj {a b : IntentDetail}
    (h : a.json.toList = b.json.toList) : a = b := by
  cases a with
  | plain =>
      cases b with
      | plain => rfl
      | evidence given =>
          rw [toList_evidence, toList_evidenceName] at h
          cases h
      | failure given =>
          rw [toList_failure, toList_failureName] at h
          cases h
  | evidence given =>
      cases b with
      | plain =>
          rw [toList_evidence, toList_evidenceName] at h
          cases h
      | evidence given' =>
          rw [toList_evidence, toList_evidence] at h
          rw [evidence_inj (List.append_cancel_left h)]
      | failure given' =>
          rw [toList_evidence, toList_failure, toList_evidenceName,
            toList_failureName] at h
          cases h
  | failure given =>
      cases b with
      | plain =>
          rw [toList_failure, toList_failureName] at h
          cases h
      | evidence given' =>
          rw [toList_evidence, toList_failure, toList_evidenceName,
            toList_failureName] at h
          cases h
      | failure given' =>
          rw [toList_failure, toList_failure] at h
          obtain ⟨hhead, hmessage⟩ := mark_append_inj (messageTail_unmarked _)
            (messageTail_unmarked _) (List.append_cancel_left h)
          obtain ⟨hcategory, hhead⟩ := quoted_append_inj hhead
          obtain ⟨hcode, hdetails⟩ := quoted_append_inj (List.append_cancel_left hhead)
          have hdetails := evidence_inj (List.append_cancel_left hdetails)
          have hcategory := FailureCategory.value_inj hcategory
          have hmessage := messageTail_inj hmessage
          cases given
          cases given'
          simp_all

theorem toList_run (kind : LifecycleOperationKind) (runId : String)
    (fence : ExecutionLeaseFence) (detail : IntentDetail) :
    (LifecycleIntent.run kind runId fence detail).json.toList =
      "\x7b\"claim_generation\":".toList ++
      ((toString fence.generation).toList ++ ',' ::
        ("\"command\":".toList ++
          (quoted kind.value ++ (detail.json.toList ++ ',' :: '"' :: 'r' ::
          runTail runId fence.workerId)))) := by
  simp only [LifecycleIntent.json_run, toList_commandName, jsonText, runTail,
    workerTail, String.toList_append, String.toList_ofList, List.append_assoc,
    toList_runName, toList_workerName, toList_close, List.cons_append, List.nil_append]

theorem toList_claim (requestId workerId : String) (leaseDuration : Nat) :
    (LifecycleIntent.claim requestId workerId leaseDuration).json.toList =
      "\x7b\"command\":".toList ++ (quoted LifecycleOperationKind.claimRun.value ++
        (",\"lease_duration_seconds\":".toList ++
          ((toString leaseDuration).toList ++ ',' ::
          ("\"request_id\":".toList ++ (quoted requestId ++ ',' :: '"' :: 'w' ::
            workerTail workerId))))) := by
  simp only [LifecycleIntent.json_claim, toList_requestName, jsonText, workerTail,
    String.toList_append, String.toList_ofList, List.append_assoc, toList_workerName,
    toList_close, List.cons_append, List.nil_append]

/-- **The document separates all intents.** -/
theorem LifecycleIntent.json_inj {a b : LifecycleIntent}
    (h : a.json = b.json) : a = b := by
  have h := congrArg String.toList h
  cases a with
  | claim requestId workerId leaseDuration =>
      cases b with
      | claim requestId' workerId' leaseDuration' =>
          rw [toList_claim, toList_claim] at h
          obtain ⟨-, h⟩ := quoted_append_inj (List.append_cancel_left h)
          obtain ⟨hlease, h⟩ :=
            digits_append_inj (by decide) (by decide) (List.append_cancel_left h)
          obtain ⟨hrequest, h⟩ :=
            quoted_append_inj (List.append_cancel_left (List.cons.inj h).2)
          simp only [workerTail, List.cons.injEq, true_and] at h
          obtain ⟨hworker, -⟩ := quoted_append_inj h
          rw [hlease, hrequest, hworker]
      | run kind runId fence detail => simp [toList_claim, toList_run] at h
  | run kind runId fence detail =>
      cases b with
      | claim requestId workerId leaseDuration => simp [toList_claim, toList_run] at h
      | run kind' runId' fence' detail' =>
          rw [toList_run, toList_run] at h
          obtain ⟨hgeneration, h⟩ :=
            digits_append_inj (by decide) (by decide) (List.append_cancel_left h)
          obtain ⟨hkind, h⟩ :=
            quoted_append_inj (List.append_cancel_left (List.cons.inj h).2)
          obtain ⟨hdetail, h⟩ :=
            mark_append_inj (runTail_unmarked ..) (runTail_unmarked ..) h
          obtain ⟨hrun, hworker⟩ := runTail_inj h
          have hkind := LifecycleOperationKind.value_inj hkind
          have hdetail := IntentDetail.json_inj hdetail
          cases fence
          cases fence'
          simp_all

/-! ## Edges -/

/-- The lifecycle of a run, edge by edge. -/
def runEdge : ActivityRunStatus → ActivityEventKind → Option ActivityRunStatus
  | .claimed, .runStarted => some .running
  | .running, .runPaused => some .paused
  | .paused, .runResumed => some .running
  | .running, .runSucceeded => some .succeeded
  | .running, .runFailed => some .failed
  | .paused, .runFailed => some .failed
  | .claimed, .runCancelled => some .cancelled
  | .paused, .runCancelled => some .cancelled
  | _, _ => none

/-- The status a sequence of run-level events leads to. -/
def statusAfter : List ActivityEventKind → Option ActivityRunStatus
  | .runOpened :: rest => rest.foldlM runEdge .claimed
  | _ => none

/-- One more event moves the status along its edge. -/
theorem statusAfter_concat {kinds : List ActivityEventKind} {kind : ActivityEventKind}
    {status : ActivityRunStatus} (h : statusAfter kinds = some status) :
    statusAfter (kinds ++ [kind]) = runEdge status kind := by
  match kinds with
  | [] => cases h
  | first :: rest =>
      cases first
      case runOpened =>
        have h : rest.foldlM runEdge .claimed = some status := h
        show (rest ++ [kind]).foldlM runEdge .claimed = runEdge status kind
        rw [List.foldlM_append, h]
        simp
      all_goals cases h

/-! ## Reading the tables -/

/-- After `n` events comes the ordinal `n + 1`. -/
theorem nextOrdinal_range (n : Nat) : Stores.nextOrdinal (List.range' 1 n) = n + 1 := by
  have : ∀ n : Nat, (List.range' 1 n).foldl max 0 = n := by
    intro n
    induction n with
    | zero => rfl
    | succ n ih =>
        rw [List.range'_concat, List.foldl_append, ih]
        simp
        omega
  rw [Stores.nextOrdinal, this]

namespace Stores

/-- **An event is stored** unless its identity or its ordinal is taken. -/
theorem addEvent_eq_ok {stores after : Stores} {event : ActivityEventRecord} :
    stores.addEvent event = .ok after ↔
      (∀ other ∈ stores.events, other.eventId ≠ event.eventId ∧
        ¬ (other.runId = event.runId ∧ other.ordinal = event.ordinal)) ∧
      { stores with events := stores.events ++ [event] } = after := by
  rw [addEvent, requireThat_bind]
  simp only [pure, Except.pure, Except.ok.injEq, Bool.not_eq_true', List.any_eq_false,
    Bool.or_eq_true, Bool.and_eq_true, decide_eq_true_eq, not_or, ne_eq]

/-- **An action is stored** unless its identity, its ordinal or its key is taken. -/
theorem addAction_eq_ok {stores after : Stores} {action : OperationActionRecord} :
    stores.addAction action = .ok after ↔
      (∀ other ∈ stores.actions, other.actionId ≠ action.actionId ∧
        ¬ (other.sessionId = action.sessionId ∧ (other.ordinal = action.ordinal ∨
          other.idempotencyKey.isSome = true ∧
          other.idempotencyKey = action.idempotencyKey))) ∧
      { stores with actions := stores.actions ++ [action] } = after := by
  rw [addAction, requireThat_bind]
  simp only [pure, Except.pure, Except.ok.injEq, Bool.not_eq_true', List.any_eq_false,
    Bool.or_eq_true, Bool.and_eq_true, decide_eq_true_eq, not_or, ne_eq]

/-- A run is stored where there is none of its name. -/
theorem addRun_eq_ok {stores after : Stores} {run : ActivityRunRecord}
    (h : stores.addRun run = .ok after) : stores.runs[run.runId]? = none ∧
      { stores with runs := stores.runs.insert run.runId run } = after := by
  obtain ⟨_, hnew, hrest⟩ := bind_ok.mp h
  cases hrest
  rw [requireThat_eq_ok, Bool.and_eq_true, Option.isNone_iff_eq_none] at hnew
  exact ⟨hnew.1, rfl⟩

/-- What `claim_request` does to a queued request. -/
theorem claimRequest_eq_some {stores after : Stores} {requestId workerId : String}
    {leaseDuration : Nat} {observedAt : Timestamp} {claimed : ExecutionRequestRecord}
    (h : stores.claimRequest requestId workerId leaseDuration observedAt =
      some (claimed, after)) :
    ∃ current, stores.requests[requestId]? = some current ∧ current.status = .queued ∧
      claimed.identity = current.identity ∧ claimed.status = .claimed ∧
      claimed.claim =
        some ⟨workerId, 1, observedAt, observedAt + leaseDuration * 1000000⟩ ∧
      { stores with requests := stores.requests.insert requestId claimed } = after := by
  unfold claimRequest at h
  split at h
  · cases h
  · rename_i current hcurrent
    split at h
    · rename_i hqueued
      cases h
      exact ⟨current, hcurrent, hqueued, rfl, rfl, rfl, rfl⟩
    · cases h

/-- A row that moved: its status, its times, and nothing else. -/
structure Moved (stores : Stores) (runId : String) (replacement : ActivityRunStatus)
    (settledAt : Option Timestamp) (prior moved : ActivityRunRecord)
    (after : Stores) : Prop where
  row : stores.runs[runId]? = some prior
  unsettled : prior.settledAt = none
  identity : moved.runId = prior.runId ∧ moved.planId = prior.planId ∧
    moved.requestId = prior.requestId
  status : moved.status = replacement
  settled : moved.settledAt = settledAt
  tables : { stores with runs := stores.runs.insert runId moved } = after

/-- **A status is set** only where the expected one stands. -/
theorem compareAndSetRunStatus_eq_some {stores after : Stores} {runId : String}
    {expected replacement : ActivityRunStatus} {startedAt settledAt : Option Timestamp}
    {row : ActivityRunRecord}
    (h : stores.compareAndSetRunStatus runId expected replacement startedAt settledAt =
      .ok (some (row, after))) :
    ∃ prior, Moved stores runId replacement settledAt prior row after ∧
      prior.status = expected := by
  cases hprior : stores.runs[runId]? with
  | none => simp [compareAndSetRunStatus, hprior] at h
  | some prior =>
      simp only [compareAndSetRunStatus, hprior] at h
      split at h
      · rename_i hexpected
        split at h
        · cases h
          exact ⟨prior, ⟨hprior, hexpected.2, ⟨rfl, rfl, rfl⟩, rfl,
            by simp [movedRun, hexpected.2], rfl⟩, hexpected.1⟩
        · cases h
      · cases h

/-- Of several expected statuses one stood there. -/
theorem compareAndSetAny_eq_some {stores after : Stores} {runId : String}
    {replacement : ActivityRunStatus} {startedAt settledAt : Option Timestamp}
    {expected : List ActivityRunStatus} {row : ActivityRunRecord}
    (h : stores.compareAndSetAny runId replacement startedAt settledAt expected =
      .ok (some (row, after))) :
    ∃ prior, Moved stores runId replacement settledAt prior row after ∧
      prior.status ∈ expected := by
  induction expected with
  | nil => cases h
  | cons first rest ih =>
      obtain ⟨outcome, houtcome, hrest⟩ := bind_ok.mp h
      cases outcome with
      | none =>
          obtain ⟨prior, hmoved, hmem⟩ := ih hrest
          exact ⟨prior, hmoved, List.mem_cons_of_mem _ hmem⟩
      | some transitioned =>
          cases hrest
          obtain ⟨prior, hmoved, hstatus⟩ := compareAndSetRunStatus_eq_some houtcome
          exact ⟨prior, hmoved, hstatus ▸ List.mem_cons_self ..⟩

end Stores

/-! ## What a command does -/

/-- **A new record**: one event and one action, appended. -/
structure Appends (before : Stores) (request : ExecutionRequestRecord)
    (run : ActivityRunRecord) (eventKind : ActivityEventKind)
    (actionType : LifecycleOperationKind) (actorId idempotencyKey fingerprint : String)
    (result : RunLifecycleResult) (after : Stores) : Prop where
  fresh : result.replayed = false
  reported : result.request = request ∧ result.run = run
  event : result.event.runId = run.runId ∧ result.event.kind = eventKind ∧
    result.event.ordinal = before.nextEventOrdinal run.runId
  eventId : validText result.event.eventId = true
  action : result.action.sessionId = request.identity.sessionId ∧
    result.action.actionType = .inl actionType ∧ result.action.actorId = actorId ∧
    result.action.payload = lifecyclePayload request run result.event
  keyed : result.action.idempotencyKey = some idempotencyKey ∧
    result.action.intentFingerprint = some fingerprint
  newEvent : ∀ other ∈ before.events, other.eventId ≠ result.event.eventId
  newKey : ∀ other ∈ before.actions, other.sessionId = request.identity.sessionId →
    other.idempotencyKey ≠ some idempotencyKey
  tables : after = { before with
    events := before.events ++ [result.event]
    actions := before.actions ++ [result.action] }

section Service

variable {digest : String → String} {draws : Draws} {stores after : Stores}
  {result : RunLifecycleResult}

theorem record_eq_ok {request : ExecutionRequestRecord} {run : ActivityRunRecord}
    {eventKind : ActivityEventKind} {actionType : LifecycleOperationKind}
    {now : Timestamp} {evidence : BoundedEvidence} {failure : Option FailureEvidence}
    {authority : ExecutionWorkerAuthority} {idempotencyKey fingerprint : String}
    (h : record draws stores request run eventKind actionType now evidence
      failure authority
      idempotencyKey fingerprint = .ok (result, after)) :
    Appends stores request run eventKind actionType authority.workerId
      idempotencyKey fingerprint
      result after := by
  obtain ⟨_, htext, h⟩ := bind_ok.mp h
  obtain ⟨withEvent, hevent, h⟩ := bind_ok.mp h
  obtain ⟨_, -, h⟩ := bind_ok.mp h
  obtain ⟨_, -, h⟩ := bind_ok.mp h
  obtain ⟨_, -, h⟩ := bind_ok.mp h
  obtain ⟨withAction, haction, hreturn⟩ := bind_ok.mp h
  obtain ⟨hfreshEvent, rfl⟩ := Stores.addEvent_eq_ok.mp hevent
  obtain ⟨hfreshAction, rfl⟩ := Stores.addAction_eq_ok.mp haction
  cases hreturn
  refine ⟨rfl, ⟨rfl, rfl⟩, ⟨rfl, rfl, rfl⟩, validateText_eq_ok.mp htext,
    ⟨rfl, rfl, rfl, rfl⟩, ⟨rfl, rfl⟩, fun other hother => (hfreshEvent other hother).1,
    fun other hother hsession hkey => ?_, rfl⟩
  exact (hfreshAction other hother).2 ⟨hsession, .inr ⟨by simp [hkey], hkey⟩⟩

/-- A replay answers to the intent it was recorded with. -/
theorem replay_eq_ok {request : ExecutionRequestRecord} {action : OperationActionRecord}
    {fingerprint : String} {expected : Option ReplayGuard}
    (h : replay stores request action fingerprint expected = .ok result) :
    action.intentFingerprint = some fingerprint ∧ result.replayed = true ∧
      result.request = request ∧ result.action = action := by
  obtain ⟨hfingerprint, h⟩ := requireThat_bind.mp h
  obtain ⟨_, -, h⟩ := bind_ok.mp h
  obtain ⟨_, -, h⟩ := bind_ok.mp h
  obtain ⟨_, -, h⟩ := bind_ok.mp h
  obtain ⟨_, -, h⟩ := bind_ok.mp h
  obtain ⟨_, -, h⟩ := bind_ok.mp h
  obtain ⟨_, -, h⟩ := bind_ok.mp h
  obtain ⟨_, -, h⟩ := bind_ok.mp h
  cases h
  exact ⟨by simpa using hfingerprint, rfl, rfl, rfl⟩

/-- The claim that opens a run. -/
structure Opens (draws : Draws) (before : Stores) (requestId : String)
    (authority : ExecutionWorkerAuthority) (idempotencyKey fingerprint : String)
    (result : RunLifecycleResult) (after : Stores) : Prop where
  queued : ∃ current, before.requests[requestId]? = some current ∧
    current.status = .queued ∧
    result.request.identity = current.identity
  unopened : before.runsForRequest requestId = [] ∧ before.runs[draws.runId]? = none
  canonical : isCanonicalIdentity draws.runId = true
  claimed : result.request.status = .claimed ∧
    result.request.claim.map (·.fence) = some ⟨authority.workerId, 1⟩
  run : result.run = openedRun draws result.request draws.observedAt
  appends : Appends
    { before with
      requests := before.requests.insert requestId result.request
      runs := before.runs.insert draws.runId result.run }
    result.request result.run .runOpened .claimRun authority.workerId
      idempotencyKey fingerprint
    result after

/-- A command that moves a run along an edge. -/
structure Moves (draws : Draws) (before : Stores) (target : RunCommand)
    (spec : Transition) (fingerprint : String) (result : RunLifecycleResult)
    (after : Stores) : Prop where
  owned : requireWorkerOwns result.request target.authority target.fence = .ok ()
  moved : ∃ prior, Stores.Moved before target.runId spec.replacement
    (if spec.settled then some draws.now else none) prior result.run
    { before with runs := before.runs.insert target.runId result.run } ∧
      prior.status ∈ spec.expected ∧ prior.runId = target.runId ∧
      before.requests[prior.requestId]? = some result.request
  appends : Appends { before with runs := before.runs.insert target.runId result.run }
    result.request result.run spec.eventKind spec.actionType target.authority.workerId
    target.idempotencyKey fingerprint result after

/-- **A replay**: the record under the key, found through the located request,
and nothing written. -/
structure Replays (before : Stores) (request : Option ExecutionRequestRecord)
    (idempotencyKey fingerprint : String) (result : RunLifecycleResult)
    (after : Stores) : Prop where
  replayed : result.replayed = true
  unchanged : after = before
  request : request = some result.request
  action :
    before.actionForIdempotency result.request.identity.sessionId idempotencyKey =
    some result.action
  fingerprint : result.action.intentFingerprint = some fingerprint

/-- **A claim** is a repetition, or opens a run. -/
theorem claim_eq_ok {requestId : String} {authority : ExecutionWorkerAuthority}
    {leaseDuration : Nat} {idempotencyKey fingerprint : String}
    (h : claim draws requestId authority leaseDuration idempotencyKey
      fingerprint stores =
      .ok (result, after)) :
    Replays stores stores.requests[requestId]? idempotencyKey fingerprint result after ∨
      Opens draws stores requestId authority idempotencyKey fingerprint
        result after := by
  obtain ⟨request, hrequest, h⟩ := found_bind.mp h
  dsimp only at h
  split at h
  · rename_i existing hexisting
    obtain ⟨replayed, hreplay, hreturn⟩ := bind_ok.mp h
    cases hreturn
    obtain ⟨hfingerprint, hreplayed, rfl, rfl⟩ := replay_eq_ok hreplay
    exact .inl ⟨hreplayed, rfl, hrequest, hexisting, hfingerprint⟩
  · obtain ⟨_, -, h⟩ := bind_ok.mp h
    obtain ⟨hqueued, h⟩ := requireThat_bind.mp h
    obtain ⟨hunopened, h⟩ := requireThat_bind.mp h
    obtain ⟨hcanonical, h⟩ := requireThat_bind.mp h
    obtain ⟨⟨claimed, withClaim⟩, hclaim, h⟩ := found_bind.mp h
    obtain ⟨_, -, h⟩ := bind_ok.mp h
    obtain ⟨withRun, hrun, h⟩ := bind_ok.mp h
    obtain ⟨current, hcurrent, hstatus, hidentity, hclaimed, hfence, rfl⟩ :=
      Stores.claimRequest_eq_some hclaim
    obtain ⟨hnew, rfl⟩ := Stores.addRun_eq_ok hrun
    have happends := record_eq_ok h
    obtain ⟨hrequestEq, hrunEq⟩ := happends.reported
    refine .inr ⟨⟨current, hcurrent, hstatus, hrequestEq ▸ hidentity⟩,
      ⟨?_, hnew⟩, hcanonical, ⟨hrequestEq ▸ hclaimed, ?_⟩, ?_, ?_⟩
    · simpa using hunopened
    · rw [hrequestEq, hfence]
      rfl
    · rw [hrunEq, hrequestEq]
    · rw [hrequestEq, hrunEq]
      exact happends

/-- **A transition** is a repetition, or moves its run along an edge. -/
theorem transition_eq_ok {target : RunCommand} {spec : Transition}
    {fingerprint : String}
    (hkeyed : ∀ run, stores.runs[target.runId]? = some run → run.runId = target.runId)
    (h : transition draws target spec fingerprint stores = .ok (result, after)) :
    (Replays stores (stores.runs[target.runId]?.bind fun run =>
      stores.requests[run.requestId]?)
        target.idempotencyKey fingerprint result after ∧
        requireWorkerOwns result.request target.authority target.fence = .ok ()) ∨
      Moves draws stores target spec fingerprint result after := by
  obtain ⟨run, hrun, h⟩ := found_bind.mp h
  obtain ⟨request, hrequest, h⟩ := found_bind.mp h
  have hid := hkeyed run hrun
  dsimp only at h
  split at h
  · rename_i existing hexisting
    obtain ⟨-, h⟩ := requireThat_bind.mp h
    obtain ⟨_, howned, h⟩ := bind_ok.mp h
    obtain ⟨replayed, hreplay, hreturn⟩ := bind_ok.mp h
    cases hreturn
    obtain ⟨hfingerprint, hreplayed, rfl, rfl⟩ := replay_eq_ok hreplay
    exact .inl ⟨⟨hreplayed, rfl, by rw [hrun, Option.bind_some, hrequest], hexisting,
      hfingerprint⟩, howned⟩
  · obtain ⟨_, -, h⟩ := bind_ok.mp h
    obtain ⟨_, howned, h⟩ := bind_ok.mp h
    obtain ⟨outcome, houtcome, h⟩ := bind_ok.mp h
    obtain ⟨⟨transitioned, moved⟩, rfl, h⟩ := found_bind.mp h
    obtain ⟨prior, hmoved, hmem⟩ := Stores.compareAndSetAny_eq_some houtcome
    have happends := record_eq_ok h
    obtain ⟨hrequestEq, hrunEq⟩ := happends.reported
    rw [hid] at hmoved
    obtain rfl : prior = run := Option.some.inj (hmoved.row.symm.trans hrun)
    cases hmoved.tables
    refine .inr ⟨hrequestEq ▸ howned, ⟨prior, ?_, hmem, hid, hrequestEq ▸ hrequest⟩, ?_⟩
    · rw [hrunEq]
      exact hmoved
    · rw [hrequestEq, hrunEq]
      exact happends

end Service

/-! ## One accepted command -/

/-- The row a run had before, and the edge it took. -/
def EdgeFrom : Option ActivityRunRecord → ActivityEventKind → ActivityRunRecord → Prop
  | none, kind, run => kind = .runOpened ∧ run.status = .claimed
  | some prior, kind, run => runEdge prior.status kind = some run.status ∧
      prior.settledAt = none ∧ run.planId = prior.planId ∧
      run.requestId = prior.requestId

/-- **What a newly accepted command changes**: one run, along one edge, one
event with the next ordinal and one action; a request only by claiming it. -/
structure Advances (before : Stores) (result : RunLifecycleResult)
    (after : Stores) : Prop where
  fresh : result.replayed = false
  edge : EdgeFrom before.runs[result.run.runId]? result.event.kind result.run
  runs : after.runs = before.runs.insert result.run.runId result.run
  requests : ∀ key : String, key ≠ result.run.requestId →
    after.requests[key]? = before.requests[key]?
  request : ∃ current, before.requests[result.run.requestId]? = some current ∧
    result.request.identity = current.identity ∧
    (current.status = .claimed → result.request = current) ∧
    after.requests[result.run.requestId]? = some result.request
  planned : before.runs[result.run.runId]? = none →
    result.run.planId = result.request.identity.planId
  event : result.event.runId = result.run.runId ∧
    result.event.ordinal = before.nextEventOrdinal result.run.runId
  events : after.events = before.events ++ [result.event]
  newEvent : ∀ other ∈ before.events, other.eventId ≠ result.event.eventId
  actions : after.actions = before.actions ++ [result.action]
  newKey : ∀ other ∈ before.actions, other.sessionId = result.action.sessionId →
    other.idempotencyKey ≠ result.action.idempotencyKey
  session : result.action.sessionId = result.request.identity.sessionId

/-- The expected statuses of a transition are the sources of its edge. -/
def Transition.Legal (spec : Transition) : Prop :=
  ∀ status ∈ spec.expected, runEdge status spec.eventKind = some spec.replacement

/-- The command on a run and the transition it asks for; a claim has neither. -/
def LifecycleCommand.move : LifecycleCommand → Option (RunCommand × Transition)
  | .claimAndOpen _ _ _ _ => none
  | .start target => some (target, startTransition)
  | .pause target evidence => some (target, pauseTransition evidence)
  | .resume target => some (target, resumeTransition)
  | .complete target evidence => some (target, completeTransition evidence)
  | .fail target failure => some (target, failTransition failure)
  | .cancel target evidence => some (target, cancelTransition evidence)

/-- Every command moves along a legal edge. -/
theorem LifecycleCommand.move_legal {command : LifecycleCommand} {target : RunCommand}
    {spec : Transition} (h : command.move = some (target, spec)) : spec.Legal := by
  cases command <;> cases h <;>
    simp [Transition.Legal, startTransition, pauseTransition, resumeTransition,
      completeTransition, failTransition, cancelTransition, runEdge]

section Accepted

variable {draws : Draws} {before after : Stores} {result : RunLifecycleResult}

/-- Opening a run advances the stores. -/
theorem Opens.advances {requestId idempotencyKey fingerprint : String}
    {authority : ExecutionWorkerAuthority}
    (hkeyed : ∀ (key : String) (request : ExecutionRequestRecord),
      before.requests[key]? = some request → request.identity.requestId = key)
    (h : Opens draws before requestId authority idempotencyKey fingerprint
      result after) :
    Advances before result after := by
  obtain ⟨current, hcurrent, hqueued, hidentity⟩ := h.queued
  have hrun : result.run.runId = draws.runId := by rw [h.run]; rfl
  have hrequest : result.run.requestId = requestId := by
    rw [h.run]
    show result.request.identity.requestId = requestId
    rw [hidentity, hkeyed _ _ hcurrent]
  have htables := h.appends.tables
  refine ⟨h.appends.fresh, ?_, ?_, ?_,
    ⟨current, ?_, hidentity, by simp [hqueued], ?_⟩, ?_, ?_, ?_, h.appends.newEvent, ?_,
    ?_, h.appends.action.1⟩
  · rw [hrun, h.unopened.2]
    exact ⟨h.appends.event.2.1, by rw [h.run]; rfl⟩
  · rw [htables, hrun]
  · intro key hkey
    rw [htables]
    show (before.requests.insert requestId result.request)[key]? = _
    rw [getElem?_insert, if_neg fun heq => hkey (hrequest.trans heq).symm]
  · rw [hrequest, hcurrent]
  · rw [htables, hrequest]
    show (before.requests.insert requestId result.request)[requestId]? = _
    rw [getElem?_insert, if_pos rfl]
  · intro _
    rw [h.run]
    rfl
  · exact ⟨h.appends.event.1, h.appends.event.2.2⟩
  · rw [htables]
  · rw [htables]
  · intro other hother hsession
    rw [h.appends.keyed.1]
    exact h.appends.newKey other hother (hsession.trans h.appends.action.1)

/-- Moving one does as well. -/
theorem Moves.advances {target : RunCommand} {spec : Transition} {fingerprint : String}
    (hlegal : spec.Legal)
    (h : Moves draws before target spec fingerprint result after) :
    Advances before result after := by
  obtain ⟨prior, hmoved, hmem, hprior, hrequest⟩ := h.moved
  obtain ⟨hrun, hplan, hsame⟩ := hmoved.identity
  have hid : result.run.runId = target.runId := hrun.trans hprior
  have htables := h.appends.tables
  refine ⟨h.appends.fresh, ?_, ?_, ?_,
    ⟨result.request, ?_, rfl, fun _ => rfl, ?_⟩, ?_, ?_, ?_, h.appends.newEvent, ?_, ?_,
    h.appends.action.1⟩
  · rw [hid, hmoved.row]
    refine ⟨?_, hmoved.unsettled, hplan, hsame⟩
    rw [h.appends.event.2.1, hmoved.status]
    exact hlegal prior.status hmem
  · rw [htables, hid]
  · intro key _
    rw [htables]
  · rw [hsame, hrequest]
  · rw [htables, hsame]
    exact hrequest
  · intro hnone
    rw [hid, hmoved.row] at hnone
    cases hnone
  · exact ⟨h.appends.event.1, h.appends.event.2.2⟩
  · rw [htables]
  · rw [htables]
  · intro other hother hsession
    rw [h.appends.keyed.1]
    exact h.appends.newKey other hother (hsession.trans h.appends.action.1)

end Accepted

end ControlPlaneKit.Operations
