import ControlPlaneKit.Library.KeysetPages
import ControlPlaneKit.Operations.Records
import ControlPlaneKit.Operations.ReadCursorLaws

/-!
# ReadPages — bounded pages of runs and events

A page is requested with a limit and, after the first one, with the cursor of the page
before.  One row more than the limit is fetched; only when it is there does the page
name a next cursor, that of its last row.
-/

namespace ControlPlaneKit.Operations

open ControlPlaneKit.Library (PyValue)
open ControlPlaneKit.Library.KeysetPages (seek)
open ControlPlaneKit.Library.Text (isCanonicalIdentity)

/-! ## Pages -/

section Pages

variable {categories : UnicodeCategories}

/-- A request whose scope has the collection's type, and whose cursor is one of it. -/
structure ReadPageRequest (categories : UnicodeCategories) where
  collection : ReadCollection
  scope : ReadScope categories
  limit : Nat
  cursor : Option (ReadCursor categories)
  congruent : scope.scopeType = (readCollectionSpec collection).scopeType
  bounded : 1 ≤ limit ∧ limit ≤ 100
  continued : ∀ found ∈ cursor, found.collection = collection ∧ found.scope = scope

/-- The constructor's checks. -/
def readPageRequest (collection : ReadCollection)
    (scope : ReadScope categories) (limit : Nat)
    (cursor : Option (ReadCursor categories)) :
    Except ReadPageError (ReadPageRequest categories) :=
  if hscope : scope.scopeType = (readCollectionSpec collection).scopeType then
    if hlimit : 1 ≤ limit ∧ limit ≤ 100 then
      if hcursor : ∀ found ∈ cursor, found.collection = collection ∧
          found.scope = scope then
        .ok ⟨collection, scope, limit, cursor, hscope, hlimit, hcursor⟩
      else .error ⟨"read request cursor is incongruent"⟩
    else .error ⟨"read page limit is malformed"⟩
  else .error ⟨"read request scope is incongruent"⟩

/-- `_matching_cursor(request, cursor)`. -/
def MatchesCursor (request : ReadPageRequest categories)
    (cursor : ReadCursor categories) : Prop :=
  cursor.position.cursorType = (readCollectionSpec request.collection).cursorType ∧
    cursor.collection = request.collection ∧ cursor.scope = request.scope

instance (request : ReadPageRequest categories) (cursor : ReadCursor categories) :
    Decidable (MatchesCursor request cursor) :=
  inferInstanceAs (Decidable (_ ∧ _))

def matchingCursor (request : ReadPageRequest categories)
    (cursor : ReadCursor categories) : Except ReadPageError Unit :=
  if MatchesCursor request cursor then .ok ()
  else .error ⟨"read page cursor is incongruent"⟩

structure ReadPageCandidate (categories : UnicodeCategories) (T : Type) where
  item : T
  cursorAfterItem : ReadCursor categories

structure ReadPage (categories : UnicodeCategories) (T : Type) where
  request : ReadPageRequest categories
  items : List T
  nextCursor : Option (ReadCursor categories)

/-- `ReadPage._from_parts(request, items, next_cursor)`. -/
def fromParts {T : Type} (request : ReadPageRequest categories) (items : List T)
    (nextCursor : Option (ReadCursor categories)) :
    Except ReadPageError (ReadPage categories T) :=
  if request.limit < items.length then .error ⟨"read page items are malformed"⟩
  else do
    nextCursor.toList.forM (matchingCursor request)
    .ok ⟨request, items, nextCursor⟩

/-- `ReadPage.from_candidates(request, candidates)`. -/
def fromCandidates {T : Type} (request : ReadPageRequest categories)
    (candidates : List (ReadPageCandidate categories T)) :
    Except ReadPageError (ReadPage categories T) :=
  if request.limit + 1 < candidates.length then
    .error ⟨"read page candidate count is malformed"⟩
  else do
    candidates.forM fun candidate => matchingCursor request candidate.cursorAfterItem
    let exposed := candidates.take request.limit
    fromParts request (exposed.map (·.item))
      (if candidates.length = request.limit + 1 then
        exposed.getLast?.map (·.cursorAfterItem)
        else none)

end Pages

/-! ## Stored rows -/

/-- The order of text columns: the database's collation. -/
structure Collation where
  order : LinearOrder String

/-- A text, compared in a collation. -/
structure Collated (collation : Collation) where
  text : String

theorem Collated.text_injective (collation : Collation) :
    Function.Injective (Collated.text : Collated collation → String) := by
  rintro ⟨a⟩ ⟨b⟩ h
  exact congrArg _ h

instance (collation : Collation) : LinearOrder (Collated collation) :=
  @LinearOrder.lift' _ _ collation.order Collated.text
    (Collated.text_injective collation)

/-- One row of `cpk_activity_runs`. -/
structure ActivityRunRow where
  runId : String
  planId : String
  requestId : String
  attempt : Nat
  priorRunId : Option String
  status : ActivityRunStatus
  createdAt : UtcDatetime
  startedAt : Option UtcDatetime
  settledAt : Option UtcDatetime
  metadata : BoundedEvidence
  -- `cpk_activity_runs_run_id_check` and the checks of the record it was stored from
  identity : isCanonicalIdentity runId = true
  timing : RunTiming status (startedAt.map UtcDatetime.timestamp)
    (settledAt.map UtcDatetime.timestamp)
  lineage : RetryLineage runId attempt priorRunId

/-- `_activity_run(row)`. -/
def activityRun (row : ActivityRunRow) : ActivityRunRecord where
  runId := row.runId
  planId := row.planId
  requestId := row.requestId
  attempt := row.attempt
  priorRunId := row.priorRunId
  status := row.status
  createdAt := row.createdAt.timestamp
  startedAt := row.startedAt.map UtcDatetime.timestamp
  settledAt := row.settledAt.map UtcDatetime.timestamp
  metadata := row.metadata
  timing := row.timing
  lineage := row.lineage

structure ExecutionRequestRow where
  requestId : String
  workspaceId : String
  sessionId : String
  planId : String

structure ActivityPlanRow where
  planId : String
  sessionId : String

structure OperationSessionRow where
  sessionId : String
  workspaceId : String

/-- The tables that runs and events are read from, each with its primary key. -/
structure ExecutionTables where
  runs : List ActivityRunRow
  requests : List ExecutionRequestRow
  plans : List ActivityPlanRow
  sessions : List OperationSessionRow
  events : List ActivityEventRecord
  runIds : (runs.map (·.runId)).Nodup
  requestIds : (requests.map (·.requestId)).Nodup
  planIds : (plans.map (·.planId)).Nodup
  sessionIds : (sessions.map (·.sessionId)).Nodup
  eventIds : (events.map (·.eventId)).Nodup
  -- `cpk_activity_events_ordinal_check`
  ordinals : ∀ event ∈ events, 0 < event.ordinal

/-- The runs of a plan, joined with its requests, plan and session. -/
def planRunRows (tables : ExecutionTables) (workspaceId planId : String) :
    List ActivityRunRow :=
  tables.runs.flatMap fun run =>
    (tables.requests.filter fun request =>
      request.requestId = run.requestId ∧
          request.planId = run.planId).flatMap fun request =>
    (tables.plans.filter fun plan =>
      plan.planId = run.planId ∧ plan.sessionId = request.sessionId).flatMap fun plan =>
    (tables.sessions.filter fun session =>
      session.sessionId = plan.sessionId ∧
        session.workspaceId = request.workspaceId).flatMap fun _ =>
        if request.workspaceId = workspaceId ∧ run.planId = planId then [run] else []

def runEventRows (tables : ExecutionTables) (runId : String) :
    List ActivityEventRecord :=
  tables.events.filter fun event => event.runId = runId

/-! ## The two page reads -/

section Reads

variable {categories : UnicodeCategories} (collation : Collation)

/-- `(run.created_at, run.run_id)`. -/
def runKey (row : ActivityRunRow) : UtcDatetime ×ₗ Collated collation :=
  toLex (row.createdAt, ⟨row.runId⟩)

/-- `(ordinal, event_id)`. -/
def eventKey (row : ActivityEventRecord) : Int ×ₗ Collated collation :=
  toLex ((row.ordinal : Int), ⟨row.eventId⟩)

/-- The candidates of the rows, as a page. -/
def pageOfRows {ρ T : Type} (request : ReadPageRequest categories) (item : ρ → T)
    (cursorAfter : ρ → Except ReadPageError (ReadCursor categories)) (rows : List ρ) :
    Except ReadPageError (ReadPage categories T) := do
  let candidates ← rows.mapM fun row =>
    (cursorAfter row).map (ReadPageCandidate.mk (item row))
  fromCandidates request candidates

/-- `_require_page_run_id(value)`. -/
def requirePageRunId (value : String) : Except ReadPageError Unit :=
  if isCanonicalIdentity value then .ok ()
  else .error ⟨"run page identity is malformed"⟩

/-- The position a cursor of runs is at, with its parameters encoded. -/
def runPosition : Option (ReadCursor categories) →
    Except ReadPageError (Option (UtcDatetime ×ₗ Collated collation))
  | none => .ok none
  | some cursor =>
      match cursor.position with
      | .temporal instant itemId => do
          requirePageRunId itemId.text
          match encodePostgresCursorTimestamp instant.text with
          | some createdAt => .ok (some (toLex (createdAt, ⟨itemId.text⟩)))
          | none => .error ⟨"postgres cursor timestamp must be canonical UTC text"⟩
      -- a request for runs has a temporal cursor
      | _ => .error ⟨"run page request is incongruent"⟩

def runCursorAfter (scope : ReadScope categories) (row : ActivityRunRow) :
    Except ReadPageError (ReadCursor categories) :=
  temporalReadCursor .planRuns scope
    (.str (decodePostgresCursorTimestamp row.createdAt)) (.str row.runId)

/-- `run_page(request)`. -/
def runPage (tables : ExecutionTables) (request : ReadPageRequest categories) :
    Except ReadPageError (ReadPage categories ActivityRunRecord) :=
  if request.collection = .planRuns then do
    let position ← runPosition collation request.cursor
    match request.scope with
    | .plan workspaceId planId =>
        pageOfRows request activityRun (runCursorAfter request.scope)
          (seek (runKey collation) (planRunRows tables workspaceId.text planId.text)
            position (request.limit + 1))
    -- a request for runs has the scope of a plan
    | _ => .error ⟨"run page request is incongruent"⟩
  else .error ⟨"run page request is incongruent"⟩

/-- The position a cursor of events is at. -/
def eventPosition : Option (ReadCursor categories) →
    Except ReadPageError (Option (Int ×ₗ Collated collation))
  | none => .ok none
  | some cursor =>
      match cursor.position with
      | .ordinal number itemId => .ok (some (toLex (number.1, ⟨itemId.text⟩)))
      -- a request for events has an ordinal cursor
      | _ => .error ⟨"event page request is incongruent"⟩

def eventCursorAfter (scope : ReadScope categories) (row : ActivityEventRecord) :
    Except ReadPageError (ReadCursor categories) :=
  ordinalReadCursor .runEvents scope (.int row.ordinal) (.str row.eventId)

/-- `event_page(request)`. -/
def eventPage (tables : ExecutionTables) (request : ReadPageRequest categories) :
    Except ReadPageError (ReadPage categories ActivityEventRecord) :=
  if request.collection = .runEvents then
    match request.scope with
    | .run _ runId => do
        requirePageRunId runId.text
        let position ← eventPosition collation request.cursor
        pageOfRows request id (eventCursorAfter request.scope)
          (seek (eventKey collation) (runEventRows tables runId.text) position
            (request.limit + 1))
    -- a request for events has the scope of a run
    | _ => .error ⟨"event page request is incongruent"⟩
  else .error ⟨"event page request is incongruent"⟩

/-! ## Following the cursors -/

/-- A cursor sent through its descriptor. -/
def resent : Option (ReadCursor categories) →
    Except ReadPageError (Option (ReadCursor categories))
  | none => .ok none
  | some cursor => (readCursorFromMapping cursor.descriptor).map some

/-- One page on from a cursor: its items and its next cursor. -/
def pageFrom {T : Type}
    (page : ReadPageRequest categories → Except ReadPageError (ReadPage categories T))
    (collection : ReadCollection) (scope : ReadScope categories) (limit : Nat)
    (cursor : Option (ReadCursor categories)) :
    Except ReadPageError (List T × Option (ReadCursor categories)) := do
  let cursor ← resent cursor
  let request ← readPageRequest collection scope limit cursor
  let page ← page request
  .ok (page.items, page.nextCursor)

end Reads

end ControlPlaneKit.Operations
