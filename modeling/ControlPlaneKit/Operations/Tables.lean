import ControlPlaneKit.Library.KeyedMap
import ControlPlaneKit.Operations.Receipts

/-!
# Tables — the database the services share

Rows with a key of their own are kept by it; events, actions and receipts are
appended, in the order of their transactions.
-/

namespace ControlPlaneKit.Operations

open ControlPlaneKit.Library (TextMap)

/-! ## The tables -/

/-- The tables of the services, events, actions and receipts in the order they
were inserted. -/
structure Stores where
  sessions : TextMap OperationSessionStatus
  requests : TextMap ExecutionRequestRecord
  runs : TextMap ActivityRunRecord
  events : List ActivityEventRecord
  actions : List OperationActionRecord
  receipts : List CommandReceiptRow := []

namespace Stores

variable (stores : Stores)

/-- `events_for_run(run_id)`: ordinals are handed out in insertion order. -/
def eventsForRun (runId : String) : List ActivityEventRecord :=
  stores.events.filter fun event => event.runId = runId

/-- `COALESCE(MAX(ordinal), 0) + 1`. -/
def nextOrdinal (ordinals : List Nat) : Nat := ordinals.foldl max 0 + 1

def nextEventOrdinal (runId : String) : Nat :=
  nextOrdinal ((stores.eventsForRun runId).map (·.ordinal))

def nextActionOrdinal (sessionId : String) : Nat :=
  nextOrdinal
    ((stores.actions.filter fun action => action.sessionId = sessionId).map (·.ordinal))

def actionForIdempotency (sessionId key : String) : Option OperationActionRecord :=
  stores.actions.find? fun action =>
    action.sessionId = sessionId && action.idempotencyKey = some key

def getEvent (eventId : String) : Option ActivityEventRecord :=
  stores.events.find? fun event => event.eventId = eventId

def runsForRequest (requestId : String) : List ActivityRunRecord :=
  (stores.runs.toList.map (·.2)).filter fun run => run.requestId = requestId

end Stores

end ControlPlaneKit.Operations
