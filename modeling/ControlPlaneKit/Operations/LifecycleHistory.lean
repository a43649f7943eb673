import ControlPlaneKit.Operations.LifecycleLaws
import Mathlib.Data.List.Pairwise

/-!
# LifecycleHistory — every run of the lifecycle commands keeps its history

A run of the service takes commands one after another; a command that raises
leaves the tables as they were.  `History` ties requests, runs, events and
actions together, and every accepted command keeps it.
-/

namespace ControlPlaneKit.Operations

open ControlPlaneKit.Library (TextMap)
open ControlPlaneKit.Library.EventFold (bind_ok)
open ControlPlaneKit.Library.KeyedMap (getElem?_insert)
open ControlPlaneKit.Library.Text (isCanonicalIdentity)

/-! ## What a command asks for -/

def LifecycleCommand.kind : LifecycleCommand → LifecycleOperationKind
  | .claimAndOpen _ _ _ _ => .claimRun
  | .start _ => .startRun
  | .pause _ _ => .pauseRun
  | .resume _ => .resumeRun
  | .complete _ _ => .completeRun
  | .fail _ _ => .failRun
  | .cancel _ _ => .cancelRun

/-- The fence a command holds; a claim is granted the first generation. -/
def LifecycleCommand.fence : LifecycleCommand → ExecutionLeaseFence
  | .claimAndOpen _ authority _ _ => ⟨authority.workerId, 1⟩
  | .start target | .pause target _ | .resume target | .complete target _
  | .fail target _
  | .cancel target _ => target.fence

/-- The request a command locates, by its own identity or through its run. -/
def Stores.requestOf (stores : Stores) :
    LifecycleCommand → Option ExecutionRequestRecord
  | .claimAndOpen requestId _ _ _ => stores.requests[requestId]?
  | .start target | .pause target _ | .resume target | .complete target _
  | .fail target _
  | .cancel target _ =>
      stores.runs[target.runId]?.bind fun run => stores.requests[run.requestId]?

section Asked

variable {command other : LifecycleCommand} {target : RunCommand} {spec : Transition}

/-- What a command on a run gives its transition. -/
theorem LifecycleCommand.move_eq (h : command.move = some (target, spec)) :
    spec.actionType = command.kind ∧ target.idempotencyKey = command.idempotencyKey ∧
      target.authority = command.authority ∧ target.fence = command.fence ∧
      lifecycleResultForAction (.inl command.kind) =
        .ok (spec.replacement, spec.eventKind) := by
  cases command <;> cases h <;> exact ⟨rfl, rfl, rfl, rfl, rfl⟩

theorem Stores.requestOf_move {stores : Stores}
    (h : command.move = some (target, spec)) : stores.requestOf command =
      stores.runs[target.runId]?.bind fun run => stores.requests[run.requestId]? := by
  cases command <;> cases h <;> rfl

theorem LifecycleCommand.described_move (h : command.move = some (target, spec)) :
    ∃ detail, command.described =
      .run command.kind target.runId command.fence detail := by
  cases command <;> cases h <;> exact ⟨_, rfl⟩

/-- The intent of a claim is another claim's only. -/
theorem LifecycleCommand.claim_described {requestId workerId : String}
    {leaseDuration : Nat}
    (h : command.described = .claim requestId workerId leaseDuration) :
    ∃ authority key, command = .claimAndOpen requestId authority leaseDuration key := by
  cases command
  case claimAndOpen =>
    injection h with hrequest _ hlease
    subst hrequest hlease
    exact ⟨_, _, rfl⟩
  all_goals cases h

/-- The intent of a command on a run is another such command's only. -/
theorem LifecycleCommand.move_described {kind : LifecycleOperationKind} {runId : String}
    {fence : ExecutionLeaseFence} {detail : IntentDetail}
    (h : command.described = .run kind runId fence detail) :
    ∃ target spec, command.move = some (target, spec) ∧ target.runId = runId ∧
      command.kind = kind ∧ command.fence = fence := by
  cases command <;> cases h <;> exact ⟨_, _, rfl, rfl, rfl, rfl⟩

end Asked

/-! ## What an accepted command records -/

/-- **The record of a command**: whose it is, what it asked for and what it led
to. -/
structure Answers (digest : String → String) (command : LifecycleCommand)
    (result : RunLifecycleResult) : Prop where
  key : result.action.idempotencyKey = some command.idempotencyKey
  fingerprint : result.action.intentFingerprint = some (digest command.described.json)
  actor : result.action.actorId = command.fence.workerId
  kind : result.action.actionType = .inl command.kind
  outcome : lifecycleResultForAction (.inl command.kind) =
    .ok (result.run.status, result.event.kind)
  payload : result.action.payload =
    lifecyclePayload result.request result.run result.event
  owned : result.request.status = .claimed ∧
    result.request.claim.map (·.fence) = some command.fence
  subject : ∀ target spec, command.move = some (target, spec) →
    result.run.runId = target.runId
  claimed : ∀ requestId authority leaseDuration key,
    command = .claimAndOpen requestId authority leaseDuration key →
    result.run.requestId = requestId
  texts : isCanonicalIdentity result.run.runId = true ∧
    validText result.event.eventId = true

section Service

variable {digest : String → String} {draws : Draws} {stores after : Stores}
  {result : RunLifecycleResult} {command : LifecycleCommand}

theorem requireWorkerOwns_eq_ok {request : ExecutionRequestRecord}
    {authority : ExecutionWorkerAuthority} {fence : ExecutionLeaseFence} :
    requireWorkerOwns request authority fence = .ok () ↔
      request.status = .claimed ∧ request.claim.map (·.fence) = some fence ∧
        authority.workerId = fence.workerId := by
  rw [requireWorkerOwns, requireThat_eq_ok]
  simp only [Bool.and_eq_true, decide_eq_true_eq, Option.any_eq_true,
    Option.map_eq_some_iff, and_assoc]

theorem Opens.answers {requestId key : String} {authority : ExecutionWorkerAuthority}
    {leaseDuration : Nat}
    (hkeyed : ∀ (key : String) (request : ExecutionRequestRecord),
      stores.requests[key]? = some request → request.identity.requestId = key)
    (h : Opens draws stores requestId authority key
      (digest (LifecycleCommand.claimAndOpen requestId authority leaseDuration
        key).described.json)
      result after) :
    Answers digest (.claimAndOpen requestId authority leaseDuration key) result := by
  obtain ⟨current, hcurrent, -, hidentity⟩ := h.queued
  refine ⟨h.appends.keyed.1, h.appends.keyed.2, h.appends.action.2.2.1,
    h.appends.action.2.1, ?_, h.appends.action.2.2.2, h.claimed,
    fun target spec hmove => (by cases hmove), ?_, ?_, ?_⟩
  · rw [h.appends.event.2.1, h.run]
    rfl
  · rintro _ _ _ _ ⟨⟩
    rw [h.run]
    show result.request.identity.requestId = requestId
    rw [hidentity, hkeyed _ _ hcurrent]
  · rw [h.run]
    exact h.canonical
  · exact h.appends.eventId

theorem Moves.answers {target : RunCommand} {spec : Transition}
    (hmove : command.move = some (target, spec))
    (h : Moves draws stores target spec (digest command.described.json) result after) :
    Answers digest command result := by
  obtain ⟨hkind, hkey, hauthority, hfence, houtcome⟩ := command.move_eq hmove
  obtain ⟨prior, hmoved, -, hprior, -⟩ := h.moved
  obtain ⟨hclaimed, hholds, hagrees⟩ := requireWorkerOwns_eq_ok.mp h.owned
  have hrun : result.run.runId = target.runId := hmoved.identity.1.trans hprior
  refine ⟨?_, h.appends.keyed.2, ?_, ?_, ?_, h.appends.action.2.2.2,
    ⟨hclaimed, hfence ▸ hholds⟩, ?_, ?_, ?_, h.appends.eventId⟩
  · rw [h.appends.keyed.1, hkey]
  · rw [h.appends.action.2.2.1, hagrees, hfence]
  · rw [h.appends.action.2.1, hkind]
  · rw [houtcome, hmoved.status, h.appends.event.2.1]
  · intro other _ hother
    rw [hmove] at hother
    cases hother
    exact hrun
  · rintro _ _ _ _ rfl
    cases hmove
  · rw [hrun]
    exact target.runId_canonical

/-- Commands on a run share one path. -/
theorem executeLifecycle_move {target : RunCommand} {spec : Transition}
    (h : command.move = some (target, spec)) :
    executeLifecycle digest draws command stores =
      requireThat (PolicyScope.executionOperate ∈ command.authority.scopes)
          (.denied "scope execution:operate is missing") >>= fun _ =>
        transition draws target spec (digest command.described.json) stores := by
  cases command <;> cases h <;> rfl

/-- The identities the tables are keyed by. -/
structure Keyed (stores : Stores) : Prop where
  requests : ∀ (key : String) (request : ExecutionRequestRecord),
    stores.requests[key]? = some request → request.identity.requestId = key
  runs : ∀ (key : String) (run : ActivityRunRecord),
    stores.runs[key]? = some run → run.runId = key

/-- A claim takes a queued request; any other command takes an edge of its run,
under the fence of the request's claim. -/
def Stores.Permits (stores : Stores) (command : LifecycleCommand) : Prop :=
  match command.move with
  | none =>
      ∃ request, stores.requestOf command = some request ∧ request.status = .queued
  | some (target, spec) => ∃ run request, stores.runs[target.runId]? = some run ∧
      stores.requests[run.requestId]? = some request ∧
      request.claim.map (·.fence) = some target.fence ∧
      (runEdge run.status spec.eventKind).isSome

/-- **A new acceptance.** -/
structure Accepted (digest : String → String) (before : Stores)
    (command : LifecycleCommand) (result : RunLifecycleResult)
    (after : Stores) : Prop where
  permitted : before.Permits command
  advances : Advances before result after
  answers : Answers digest command result
  located : ∃ request, before.requestOf command = some request ∧
    request.identity = result.request.identity

/-- **An accepted command** replays the record under its key and writes nothing,
or moves one run. -/
theorem executeLifecycle_eq_ok (hkeyed : Keyed stores)
    (h : executeLifecycle digest draws command stores = .ok (result, after)) :
    (Replays stores (stores.requestOf command) command.idempotencyKey
        (digest command.described.json) result after ∧
        (command.move ≠ none →
          result.request.claim.map (·.fence) = some command.fence)) ∨
      Accepted digest stores command result after := by
  cases hmove : command.move with
  | none =>
      cases command
      case claimAndOpen requestId authority leaseDuration key =>
        obtain ⟨-, h⟩ := requireThat_bind.mp h
        rcases claim_eq_ok h with hreplays | hopens
        · exact .inl ⟨hreplays, by simp⟩
        · obtain ⟨current, hcurrent, hqueued, hidentity⟩ := hopens.queued
          exact .inr ⟨⟨current, hcurrent, hqueued⟩, hopens.advances hkeyed.requests,
            hopens.answers hkeyed.requests, current, hcurrent, hidentity.symm⟩
      all_goals cases hmove
  | some move =>
      obtain ⟨target, spec⟩ := move
      obtain ⟨-, hkey, -, hfence, -⟩ := command.move_eq hmove
      rw [executeLifecycle_move hmove] at h
      obtain ⟨-, h⟩ := requireThat_bind.mp h
      rw [Stores.requestOf_move hmove, ← hkey, ← hfence]
      rcases transition_eq_ok (hkeyed.runs target.runId) h with
        ⟨hreplays, howned⟩ | hmoves
      · exact .inl ⟨hreplays, fun _ => (requireWorkerOwns_eq_ok.mp howned).2.1⟩
      · obtain ⟨prior, hmoved, hmem, -, hrequest⟩ := hmoves.moved
        have hlegal := command.move_legal hmove
        refine .inr ⟨?_, hmoves.advances hlegal, hmoves.answers hmove,
          result.request, ?_, rfl⟩
        · rw [Stores.Permits, hmove]
          exact ⟨prior, result.request, hmoved.row, hrequest,
            (requireWorkerOwns_eq_ok.mp hmoves.owned).2.1,
            by simp [hlegal prior.status hmem]⟩
        · rw [Stores.requestOf_move hmove, hmoved.row, Option.bind_some, hrequest]

end Service

/-! ## The history of the runs -/

/-- In one session, two actions have different keys. -/
def KeyedApart (a b : OperationActionRecord) : Prop :=
  a.sessionId = b.sessionId → a.idempotencyKey.isSome →
    a.idempotencyKey ≠ b.idempotencyKey

instance : Std.Symm KeyedApart where
  symm _ _ h hsession hsome heq := h hsession.symm (heq ▸ hsome) heq.symm

/-- No run has been opened yet; a session has one action under each key. -/
structure Unopened (stores : Stores) : Prop where
  keyed : ∀ (key : String) (request : ExecutionRequestRecord),
    stores.requests[key]? = some request → request.identity.requestId = key
  runs : stores.runs = ∅
  events : stores.events = []
  actionKeys : stores.actions.Pairwise KeyedApart

/-- The kinds of the events of a run, in order. -/
def Stores.kindsOf (stores : Stores) (runId : String) : List ActivityEventKind :=
  (stores.eventsForRun runId).map (·.kind)

/-- The ordinals of the events of a run, in order. -/
def Stores.ordinalsOf (stores : Stores) (runId : String) : List Nat :=
  (stores.eventsForRun runId).map (·.ordinal)

/-- **The history of the runs**: contiguous ordinals, a status the events
determine, a settlement exactly at success and cancellation. -/
structure History (stores : Stores) : Prop where
  keyed : Keyed stores
  admitted : ∀ (key : String) (run : ActivityRunRecord), stores.runs[key]? = some run →
    ∃ request, stores.requests[run.requestId]? = some request ∧
      run.planId = request.identity.planId
  owned : ∀ event ∈ stores.events, stores.runs[event.runId]? ≠ none
  ordinals : ∀ runId : String,
    stores.ordinalsOf runId = List.range' 1 (stores.ordinalsOf runId).length
  status : ∀ (key : String) (run : ActivityRunRecord), stores.runs[key]? = some run →
    statusAfter (stores.kindsOf key) = some run.status
  settled : ∀ (key : String) (run : ActivityRunRecord), stores.runs[key]? = some run →
    (run.settledAt.isSome ↔ run.status = .succeeded ∨ run.status = .cancelled)
  eventIds : (stores.events.map (·.eventId)).Nodup
  actionKeys : stores.actions.Pairwise KeyedApart

theorem Unopened.history {stores : Stores} (h : Unopened stores) : History stores where
  keyed := ⟨h.keyed, by simp [h.runs]⟩
  admitted := by simp [h.runs]
  owned := by simp [h.events]
  ordinals := by simp [Stores.ordinalsOf, Stores.eventsForRun, h.events]
  status := by simp [h.runs]
  settled := by simp [h.runs]
  eventIds := by simp [h.events]
  actionKeys := h.actionKeys

/-- The statuses the lifecycle commands reach. -/
theorem runEdge_reaches {status reached : ActivityRunStatus} {kind : ActivityEventKind}
    (h : runEdge status kind = some reached) :
    reached.isSettled = true ↔ reached = .succeeded ∨ reached = .cancelled := by
  unfold runEdge at h
  split at h <;> cases h <;> simp [ActivityRunStatus.isSettled]

section Advancing

variable {before after : Stores} {result : RunLifecycleResult}

theorem Advances.eventsForRun (h : Advances before result after) (runId : String) :
    after.eventsForRun runId =
      before.eventsForRun runId ++ if result.run.runId = runId then [result.event]
        else [] := by
  rw [Stores.eventsForRun, h.events, List.filter_append]
  by_cases hrun : result.run.runId = runId
  · simp [Stores.eventsForRun, h.event.1, hrun]
  · simp [Stores.eventsForRun, h.event.1, hrun]

theorem Advances.getRun (h : Advances before result after) (key : String) :
    after.runs[key]? = if result.run.runId = key then some result.run
      else before.runs[key]? := by
  rw [h.runs, getElem?_insert]

/-- A request keeps its identity, and its claim once it is claimed. -/
theorem Advances.getRequest (h : Advances before result after) {key : String}
    {request : ExecutionRequestRecord}
    (hrequest : before.requests[key]? = some request) :
    ∃ kept, after.requests[key]? = some kept ∧ kept.identity = request.identity ∧
      (request.status = .claimed → kept = request) := by
  by_cases hkey : key = result.run.requestId
  · obtain ⟨current, hcurrent, hidentity, hkept, hafter⟩ := h.request
    subst hkey
    obtain rfl : current = request := Option.some.inj (hcurrent.symm.trans hrequest)
    exact ⟨result.request, hafter, hidentity, hkept⟩
  · exact ⟨request, (h.requests key hkey).trans hrequest, rfl, fun _ => rfl⟩

/-- A run keeps its lineage, and everything once it is settled. -/
theorem Advances.keepsRun (h : Advances before result after) {key : String}
    {prior : ActivityRunRecord} (hprior : before.runs[key]? = some prior) :
    ∃ run, after.runs[key]? = some run ∧ run.planId = prior.planId ∧
      run.requestId = prior.requestId ∧ (prior.settledAt.isSome → run = prior) := by
  rw [h.getRun]
  split
  · rename_i hkey
    have hedge := h.edge
    rw [hkey, hprior] at hedge
    obtain ⟨-, hunsettled, hplan, hrequest⟩ := hedge
    exact ⟨_, rfl, hplan, hrequest, by simp [hunsettled]⟩
  · exact ⟨prior, hprior, rfl, rfl, fun _ => rfl⟩

/-- The event of the run that moved extends its history by one edge. -/
theorem Advances.statusAfter (h : Advances before result after)
    (hist : History before) :
    statusAfter (after.kindsOf result.run.runId) = some result.run.status ∧
      (result.run.status.isSettled = true ↔
        result.run.status = .succeeded ∨ result.run.status = .cancelled) := by
  have hedge := h.edge
  have hkinds : after.kindsOf result.run.runId =
      before.kindsOf result.run.runId ++ [result.event.kind] := by
    rw [Stores.kindsOf, h.eventsForRun, if_pos rfl, List.map_append]
    rfl
  cases hprior : before.runs[result.run.runId]? with
  | none =>
      rw [hprior] at hedge
      obtain ⟨hopened, hclaimed⟩ := hedge
      have hempty : before.eventsForRun result.run.runId = [] := by
        rw [Stores.eventsForRun, List.filter_eq_nil_iff]
        intro event hevent hrun
        exact hist.owned event hevent (by rw [of_decide_eq_true hrun, hprior])
      rw [hkinds, Stores.kindsOf, hempty, hopened, hclaimed]
      exact ⟨rfl, by simp [ActivityRunStatus.isSettled]⟩
  | some prior =>
      rw [hprior] at hedge
      rw [hkinds, statusAfter_concat (hist.status _ prior hprior)]
      exact ⟨hedge.1, runEdge_reaches hedge.1⟩

theorem Advances.ordinalsOf (h : Advances before result after) (hist : History before)
    (runId : String) :
    after.ordinalsOf runId = List.range' 1 (after.ordinalsOf runId).length := by
  have hbefore := hist.ordinals runId
  rw [Stores.ordinalsOf, h.eventsForRun]
  split
  · rename_i hrun
    have hnext : result.event.ordinal = (before.ordinalsOf runId).length + 1 := by
      rw [h.event.2, hrun, Stores.nextEventOrdinal]
      show Stores.nextOrdinal (before.ordinalsOf runId) = _
      rw [hbefore, nextOrdinal_range, List.length_range']
    rw [List.map_append, List.length_append]
    show before.ordinalsOf runId ++ [result.event.ordinal] =
      List.range' 1 ((before.ordinalsOf runId).length + 1)
    rw [List.range'_concat, ← hbefore, hnext]
    simp [Nat.add_comm]
  · rw [List.append_nil]
    exact hbefore

/-- **The step**: an accepted command keeps the history. -/
theorem Advances.history (h : Advances before result after) (hist : History before) :
    History after := by
  obtain ⟨current, hcurrent, hidentity, -, hclaimed⟩ := h.request
  obtain ⟨hstatus, hreached⟩ := h.statusAfter hist
  refine ⟨⟨?_, ?_⟩, ?_, ?_, h.ordinalsOf hist, ?_, ?_, ?_, ?_⟩
  · intro key request hrequest
    by_cases hkey : key = result.run.requestId
    · subst hkey
      rw [hclaimed] at hrequest
      cases hrequest
      rw [hidentity, hist.keyed.requests _ _ hcurrent]
    · exact hist.keyed.requests key request ((h.requests key hkey).symm.trans hrequest)
  · intro key run hrun
    rw [h.getRun] at hrun
    split at hrun
    · cases hrun
      assumption
    · exact hist.keyed.runs key run hrun
  · intro key run hrun
    rw [h.getRun] at hrun
    split at hrun
    · cases hrun
      refine ⟨result.request, hclaimed, ?_⟩
      cases hprior : before.runs[result.run.runId]? with
      | none => exact h.planned hprior
      | some prior =>
          have hedge := h.edge
          rw [hprior] at hedge
          obtain ⟨-, -, hplan, hrequest⟩ := hedge
          obtain ⟨request, hfound, hadmitted⟩ := hist.admitted _ _ hprior
          rw [← hrequest, hcurrent] at hfound
          cases hfound
          rw [hplan, hadmitted, hidentity]
    · obtain ⟨request, hfound, hplan⟩ := hist.admitted key run hrun
      obtain ⟨kept, hkept, hsame, -⟩ := h.getRequest hfound
      exact ⟨kept, hkept, hsame ▸ hplan⟩
  · intro event hevent
    rw [h.events, List.mem_append, List.mem_singleton] at hevent
    rw [h.getRun]
    split
    · simp
    · rename_i hrun
      rcases hevent with hevent | rfl
      · exact hist.owned event hevent
      · exact absurd h.event.1.symm hrun
  · intro key run hrun
    rw [h.getRun] at hrun
    split at hrun
    · rename_i hkey
      cases hrun
      exact hkey ▸ hstatus
    · rename_i hkey
      rw [Stores.kindsOf, h.eventsForRun, if_neg hkey, List.append_nil]
      exact hist.status key run hrun
  · intro key run hrun
    rw [h.getRun] at hrun
    split at hrun
    · cases hrun
      exact result.run.timing.settled.trans hreached
    · exact hist.settled key run hrun
  · rw [h.events, List.map_append, List.nodup_append]
    refine ⟨hist.eventIds, List.nodup_singleton _, ?_⟩
    intro eventId hid other hother
    obtain ⟨event, hevent, rfl⟩ := List.mem_map.mp hid
    rw [List.map_singleton, List.mem_singleton] at hother
    exact hother ▸ h.newEvent event hevent
  · rw [h.actions, List.pairwise_append]
    refine ⟨hist.actionKeys, List.pairwise_singleton _ _, ?_⟩
    intro action haction other hother hsession _
    rw [List.mem_singleton] at hother
    subst hother
    exact h.newKey action haction hsession

end Advancing

/-! ## Runs of the service -/

section Runs

variable (digest : String → String)

/-- A command that raises is rolled back. -/
def lifecycleStep (stores : Stores) (attempt : Draws × LifecycleCommand) : Stores :=
  match executeLifecycle digest attempt.1 attempt.2 stores with
  | .ok (_, after) => after
  | .error _ => stores

/-- One command after another. -/
def lifecycleRun (stores : Stores)
    (commands : List (Draws × LifecycleCommand)) : Stores :=
  commands.foldl (lifecycleStep digest) stores

variable {digest} {stores : Stores}

/-- A step leaves the tables alone or advances them. -/
theorem lifecycleStep_cases (hist : History stores)
    (attempt : Draws × LifecycleCommand) :
    lifecycleStep digest stores attempt = stores ∨
      ∃ result, Advances stores result (lifecycleStep digest stores attempt) := by
  rw [lifecycleStep]
  split
  · rename_i result after haccepted
    rcases executeLifecycle_eq_ok hist.keyed haccepted with ⟨hreplays, -⟩ | hnew
    · exact .inl hreplays.unchanged
    · exact .inr ⟨result, hnew.advances⟩
  · exact .inl rfl

theorem lifecycleStep_history (hist : History stores)
    (attempt : Draws × LifecycleCommand) :
    History (lifecycleStep digest stores attempt) := by
  rcases @lifecycleStep_cases digest stores hist attempt with hsame |
    ⟨result, hadvances⟩
  · rw [hsame]
    exact hist
  · exact hadvances.history hist

/-- What every advance keeps, every run keeps. -/
theorem lifecycleRun_keeps (kept : Stores → Prop)
    (commands : List (Draws × LifecycleCommand))
    (hstep : ∀ before result after, History before → Advances before result after →
      kept before → kept after)
    (hist : History stores) (h : kept stores) :
    History (lifecycleRun digest stores commands) ∧
    kept (lifecycleRun digest stores commands) := by
  induction commands generalizing stores with
  | nil => exact ⟨hist, h⟩
  | cons attempt rest ih =>
      refine ih (lifecycleStep_history hist attempt) ?_
      rcases @lifecycleStep_cases digest stores hist attempt with hsame |
        ⟨result, hadvances⟩
      · rw [hsame]
        exact h
      · exact hstep _ _ _ hist hadvances h

theorem lifecycleRun_history (commands : List (Draws × LifecycleCommand))
    (hist : History stores) : History (lifecycleRun digest stores commands) :=
  (lifecycleRun_keeps (fun _ => True) commands (fun _ _ _ _ _ h => h) hist trivial).1

/-- A settled run stays as it is. -/
theorem lifecycleRun_settled (commands : List (Draws × LifecycleCommand))
    (hist : History stores) {key : String} {run : ActivityRunRecord}
    (hrun : stores.runs[key]? = some run) (hsettled : run.settledAt.isSome) :
    (lifecycleRun digest stores commands).runs[key]? = some run := by
  refine (lifecycleRun_keeps (fun s => s.runs[key]? = some run) commands ?_ hist hrun).2
  intro before result after _ hadvances hbefore
  obtain ⟨moved, hmoved, -, -, hsame⟩ := hadvances.keepsRun hbefore
  rw [hmoved, hsame hsettled]

theorem lifecycleRun_append (earlier later : List (Draws × LifecycleCommand)) :
    lifecycleRun digest stores (earlier ++ later) =
      lifecycleRun digest (lifecycleRun digest stores earlier) later := by
  simp [lifecycleRun]

end Runs

/-! ## Replay -/

/-- **An accepted command that the tables remember**, with the rows its replay
reads. -/
structure Remembered (digest : String → String) (command : LifecycleCommand)
    (result : RunLifecycleResult) (stores : Stores) : Prop where
  answers : Answers digest command result
  action : result.action ∈ stores.actions
  event : result.event ∈ stores.events
  session : result.action.sessionId = result.request.identity.sessionId
  request : stores.requests[result.run.requestId]? = some result.request
  run : ∃ run, stores.runs[result.run.runId]? = some run ∧
    run.planId = result.request.identity.planId ∧ run.requestId = result.run.requestId
  ran : result.event.runId = result.run.runId ∧ 1 ≤ result.event.ordinal

section Replay

variable {digest : String → String} {draws : Draws} {stores : Stores}
  {result : RunLifecycleResult} {command : LifecycleCommand}

theorem Advances.remembered {before : Stores} (hist : History before)
    (h : Advances before result stores) (hanswers : Answers digest command result) :
    Remembered digest command result stores := by
  obtain ⟨current, hcurrent, hidentity, -, hclaimed⟩ := h.request
  have hrun := (h.getRun result.run.runId).trans (if_pos rfl)
  obtain ⟨request, hrequest, hplan⟩ := (h.history hist).admitted _ _ hrun
  obtain rfl : result.request = request :=
    Option.some.inj (hclaimed.symm.trans hrequest)
  refine ⟨hanswers, by simp [h.actions], by simp [h.events], h.session, hclaimed,
    ⟨result.run, hrun, hplan, rfl⟩, h.event.1, ?_⟩
  rw [h.event.2, Stores.nextEventOrdinal, Stores.nextOrdinal]
  omega

/-- Later commands leave what is remembered. -/
theorem Remembered.advances {after : Stores} {other : RunLifecycleResult}
    (h : Remembered digest command result stores)
    (hadvances : Advances stores other after) :
    Remembered digest command result after := by
  obtain ⟨run, hrun, hplan, hrequest⟩ := h.run
  obtain ⟨kept, hkept, hkeptPlan, hkeptRequest, -⟩ := hadvances.keepsRun hrun
  obtain ⟨claimed, hclaimed, -, hsame⟩ := hadvances.getRequest h.request
  refine ⟨h.answers, by simp [hadvances.actions, h.action],
    by simp [hadvances.events, h.event], h.session, ?_, ⟨kept, hkept,
      hkeptPlan.trans hplan, hkeptRequest.trans hrequest⟩, h.ran⟩
  rw [hclaimed, hsame h.answers.owned.1]

theorem Remembered.run_later (h : Remembered digest command result stores)
    (hist : History stores) (later : List (Draws × LifecycleCommand)) :
    Remembered digest command result (lifecycleRun digest stores later) :=
  (lifecycleRun_keeps (Remembered digest command result) later
    (fun _ _ _ _ hadvances hbefore => hbefore.advances hadvances) hist h).2

/-- A session has one action under a key. -/
theorem History.actionForIdempotency (hist : History stores)
    {action : OperationActionRecord} {sessionId key : String}
    (hmem : action ∈ stores.actions) (hsession : action.sessionId = sessionId)
    (hkey : action.idempotencyKey = some key) :
    stores.actionForIdempotency sessionId key = some action := by
  rw [Stores.actionForIdempotency]
  have hfound : (stores.actions.find? fun action =>
      decide (action.sessionId = sessionId) &&
          decide (action.idempotencyKey = some key)).isSome := by
    rw [List.find?_isSome]
    exact ⟨action, hmem, by simp [hsession, hkey]⟩
  obtain ⟨first, hfirst⟩ := Option.isSome_iff_exists.mp hfound
  have hmatches := List.find?_some hfirst
  rw [Bool.and_eq_true, decide_eq_true_eq, decide_eq_true_eq] at hmatches
  rw [hfirst]
  by_contra hne
  have hdistinct := hist.actionKeys.forall (List.mem_of_find?_eq_some hfirst) hmem
    (fun heq => hne (congrArg some heq))
  exact hdistinct (hmatches.1.trans hsession.symm) (by simp [hmatches.2])
    (hmatches.2.trans hkey.symm)

theorem History.getEvent (hist : History stores) {event : ActivityEventRecord}
    (hmem : event ∈ stores.events) : stores.getEvent event.eventId = some event := by
  rw [Stores.getEvent]
  have hfound : (stores.events.find? fun other =>
      decide (other.eventId = event.eventId)).isSome := by
    rw [List.find?_isSome]
    exact ⟨event, hmem, decide_eq_true rfl⟩
  obtain ⟨first, hfirst⟩ := Option.isSome_iff_exists.mp hfound
  have hsame := List.find?_some hfirst
  rw [decide_eq_true_eq] at hsame
  rw [hfirst, List.inj_on_of_nodup_map hist.eventIds
    (List.mem_of_find?_eq_some hfirst) hmem hsame]

/-- A command's fence has a positive generation. -/
theorem LifecycleCommand.fence_pos : 1 ≤ command.fence.generation := by
  cases command
  case claimAndOpen => exact le_rfl
  all_goals exact (RunCommand.fence_valid _).2.1

/-- The fields a replay reads back from a payload. -/
structure ReadsBack (payload : List (String × PayloadValue))
    (request : ExecutionRequestRecord) (run : ActivityRunRecord)
    (event : ActivityEventRecord) (generation : Nat) : Prop where
  requestId : payloadText payload "execution_request_id" =
    .ok request.identity.requestId
  planId : payloadText payload "plan_id" = .ok request.identity.planId
  runId : payloadRunId payload = .ok run.runId
  status : payloadText payload "run_status" = .ok run.status.value
  eventId : payloadText payload "event_id" = .ok event.eventId
  eventType : payloadText payload "event_type" = .ok event.kind.value
  ordinal : payloadPositiveInteger payload "event_ordinal" = .ok event.ordinal
  generation : payloadPositiveInteger payload "claim_generation" = .ok generation

theorem validText_ne_empty {value : String} (h : validText value = true) :
    value ≠ "" := by
  simp only [validText, Bool.and_eq_true, decide_eq_true_eq] at h
  exact h.1.1

theorem readsBack_lifecyclePayload {request : ExecutionRequestRecord}
    {run : ActivityRunRecord} {event : ActivityEventRecord}
    {fence : ExecutionLeaseFence} (hclaim : request.claim.map (·.fence) = some fence)
    (hpos : 1 ≤ fence.generation) (hrun : isCanonicalIdentity run.runId = true)
    (hevent : validText event.eventId = true) (hordinal : 1 ≤ event.ordinal) :
    ReadsBack (lifecyclePayload request run event) request run event
      fence.generation := by
  obtain ⟨claim, hclaimed, rfl⟩ := Option.map_eq_some_iff.mp hclaim
  have hrequestId := validText_ne_empty request.identity.texts.1
  have hplanId := validText_ne_empty request.identity.texts.2.2.2
  have heventId := validText_ne_empty hevent
  have hgeneration : ¬ claim.generation < 1 := by
    have : 1 ≤ claim.generation := hpos
    omega
  refine ⟨?_, ?_, ?_, ?_, ?_, ?_, ?_, ?_⟩
  · simp [payloadText, lifecyclePayload, hrequestId]
  · simp [payloadText, lifecyclePayload, List.lookup_cons, hplanId]
  · simp [payloadRunId, lifecyclePayload, List.lookup_cons, hrun]
  · cases hstatus : run.status <;>
      simp [payloadText, lifecyclePayload, List.lookup_cons, hstatus,
        ActivityRunStatus.value]
  · simp [payloadText, lifecyclePayload, List.lookup_cons, heventId]
  · cases hkind : event.kind <;>
      simp [payloadText, lifecyclePayload, List.lookup_cons, hkind,
        ActivityEventKind.value]
  · simp [payloadPositiveInteger, lifecyclePayload, List.lookup_cons,
      Nat.not_lt.mpr hordinal]
  · simp [payloadPositiveInteger, lifecyclePayload, List.lookup_cons, hclaimed,
      hgeneration, ClaimIdentity.fence]

/-- The command a remembered action replays for. -/
theorem Remembered.replay (h : Remembered digest command result stores)
    (hist : History stores) (expected : Option ReplayGuard)
    (hguard : ∀ guard, expected = some guard →
      stores.runs[result.run.runId]? = some guard.run ∧
      guard.actionType = command.kind ∧
        guard.fence = command.fence) :
    ∃ run, replay stores result.request result.action
      (digest command.described.json) expected =
      .ok ⟨result.request, run, result.event, result.action, true⟩ := by
  obtain ⟨run, hrun, hplan, hrequest⟩ := h.run
  have hreads := @readsBack_lifecyclePayload _ result.run _ _ h.answers.owned.2
    command.fence_pos h.answers.texts.1 h.answers.texts.2 h.ran.2
  rw [← h.answers.payload] at hreads
  have hrequestId : result.run.requestId = result.request.identity.requestId :=
    (hist.keyed.requests _ _ h.request).symm
  have hrunId : run.runId = result.run.runId := hist.keyed.runs _ _ hrun
  have hreplayed : replayedRun stores result.run.runId expected = .ok run := by
    cases expected with
    | none => exact found_eq_ok.mpr hrun
    | some guard =>
        obtain ⟨hlocked, -⟩ := hguard guard rfl
        exact congrArg Except.ok (Option.some.inj (hlocked.symm.trans hrun))
  have hcongruent : requireCongruent result.request result.action run result.event
      result.run.runId expected = .ok () := by
    rw [requireCongruent, h.answers.kind]
    refine bind_ok.mpr ⟨_, h.answers.outcome,
      requireThat_bind.mpr ⟨by simp [h.session], ?_⟩⟩
    refine bind_ok.mpr ⟨_, hreads.requestId, requireThat_bind.mpr ⟨by simp, ?_⟩⟩
    refine bind_ok.mpr ⟨_, hreads.planId,
      requireThat_bind.mpr ⟨by simp [hplan, hrunId], ?_⟩⟩
    refine bind_ok.mpr ⟨_, hreads.status, requireThat_bind.mpr ⟨by simp, ?_⟩⟩
    refine requireThat_bind.mpr ⟨?_, requireThat_bind.mpr
      ⟨by simp [hrequest, hrequestId, h.ran.1, hrunId], ?_⟩⟩
    rotate_left
    · exact bind_ok.mpr ⟨_, hreads.eventType, requireThat_bind.mpr ⟨by simp,
        bind_ok.mpr ⟨_, hreads.ordinal, requireThat_eq_ok.mpr (by simp)⟩⟩⟩
    cases expected with
    | none => rfl
    | some guard =>
        obtain ⟨-, hkind, hfence⟩ := hguard guard rfl
        simp [h.answers.actor, hkind, hfence]
  have hactive : requireActiveClaim result.request result.action = .ok () := by
    rw [requireActiveClaim]
    split
    · obtain ⟨claim, hclaim, hfence⟩ := Option.map_eq_some_iff.mp h.answers.owned.2
      rw [hreads.generation]
      exact requireThat_eq_ok.mpr (by
        simp [h.answers.owned.1, hclaim, h.answers.actor, ← hfence,
          ClaimIdentity.fence])
    · rfl
  have hgeneration : requireGeneration result.action expected = .ok () := by
    cases expected with
    | none => rfl
    | some guard =>
        obtain ⟨-, -, hfence⟩ := hguard guard rfl
        rw [requireGeneration, hreads.generation]
        exact requireThat_eq_ok.mpr (by simp [hfence])
  refine ⟨run, ?_⟩
  refine requireThat_bind.mpr ⟨by simp [h.answers.fingerprint],
    bind_ok.mpr ⟨(), hactive, ?_⟩⟩
  refine bind_ok.mpr ⟨_, hreads.runId, bind_ok.mpr ⟨_, hreads.eventId, ?_⟩⟩
  refine bind_ok.mpr ⟨run, hreplayed, found_bind.mpr ⟨_, hist.getEvent h.event, ?_⟩⟩
  exact bind_ok.mpr ⟨(), hcongruent, bind_ok.mpr ⟨(), hgeneration, rfl⟩⟩

/-- The request of a command with a remembered intent is the remembered one. -/
theorem Remembered.requestOf (h : Remembered digest command result stores)
    {other : LifecycleCommand} (hintent : other.described = command.described) :
    stores.requestOf other = some result.request := by
  cases hmove : command.move with
  | none =>
      cases command
      case claimAndOpen requestId authority leaseDuration key =>
        obtain ⟨authority', key', rfl⟩ := other.claim_described hintent
        rw [← h.answers.claimed _ _ _ _ rfl]
        exact h.request
      all_goals cases hmove
  | some move =>
      obtain ⟨target, spec⟩ := move
      obtain ⟨detail, hdescribed⟩ := command.described_move hmove
      obtain ⟨target', spec', hmove', hrunId, -⟩ :=
        other.move_described (hintent.trans hdescribed)
      obtain ⟨run, hrun, -, hrequest⟩ := h.run
      rw [Stores.requestOf_move hmove', hrunId, ← h.answers.subject _ _ hmove, hrun,
        Option.bind_some, hrequest]
      exact h.request

/-- **Exact replay**: a command with the key and intent of a remembered one is
answered with its event and action, and writes nothing. -/
theorem Remembered.repeats (h : Remembered digest command result stores)
    (hist : History stores) {other : LifecycleCommand}
    (hkey : other.idempotencyKey = command.idempotencyKey)
    (hintent : other.described = command.described)
    (hscope : PolicyScope.executionOperate ∈ other.authority.scopes) :
    ∃ run, executeLifecycle digest draws other stores =
      .ok (⟨result.request, run, result.event, result.action, true⟩, stores) := by
  have haction := hist.actionForIdempotency h.action h.session h.answers.key
  rw [← hkey] at haction
  cases hmove : command.move with
  | none =>
      cases command
      case claimAndOpen requestId authority leaseDuration key =>
        obtain ⟨authority', key', rfl⟩ := other.claim_described hintent
        obtain ⟨run, hreplay⟩ := h.replay hist none (by simp)
        rw [← hintent] at hreplay
        refine ⟨run, requireThat_bind.mpr ⟨decide_eq_true hscope, found_bind.mpr
          ⟨_, h.requestOf hintent, ?_⟩⟩⟩
        simp only [LifecycleCommand.idempotencyKey] at haction
        rw [haction]
        exact bind_ok.mpr ⟨_, hreplay, rfl⟩
      all_goals cases hmove
  | some move =>
      obtain ⟨target, spec⟩ := move
      obtain ⟨detail, hdescribed⟩ := command.described_move hmove
      obtain ⟨target', spec', hmove', hrunId, hkind, hfence⟩ :=
        other.move_described (hintent.trans hdescribed)
      obtain ⟨hspec, hkey', hauthority, hfence', -⟩ := other.move_eq hmove'
      obtain ⟨row, hrow, -, hrequest⟩ := h.run
      have hlocated : stores.runs[target'.runId]? = some row := by
        rw [hrunId, ← h.answers.subject _ _ hmove, hrow]
      obtain ⟨run, hreplay⟩ :=
        h.replay hist (some ⟨row, spec'.actionType, target'.fence⟩) (by
        rintro _ ⟨⟩
        exact ⟨hrow, hspec.trans hkind, hfence'.trans hfence⟩)
      have howned : requireWorkerOwns result.request target'.authority target'.fence =
          .ok () :=
        requireWorkerOwns_eq_ok.mpr ⟨h.answers.owned.1,
          h.answers.owned.2.trans (congrArg some (hfence'.trans hfence).symm),
          target'.agrees⟩
      refine ⟨run, ?_⟩
      rw [executeLifecycle_move hmove', hintent]
      refine requireThat_bind.mpr ⟨decide_eq_true hscope, found_bind.mpr ⟨_, hlocated,
        found_bind.mpr ⟨_, hrequest ▸ h.request, ?_⟩⟩⟩
      dsimp only
      rw [hkey', haction]
      exact requireThat_bind.mpr
        ⟨by simp [h.answers.fingerprint], bind_ok.mpr ⟨_, howned,
        bind_ok.mpr ⟨_, hreplay, rfl⟩⟩⟩

end Replay

/-! ## Refusals -/

section Refusals

variable {digest : String → String} {draws : Draws} {stores : Stores}
  {command : LifecycleCommand}

/-- **What the service refuses**: a key that is recorded for another intent, a stale
fence, or, under an unused key, a step that is no edge.  The digest is taken to tell the
documents of the two intents apart. -/
inductive Refused (digest : String → String) (stores : Stores)
    (command : LifecycleCommand) : Prop
  | otherIntent (request : ExecutionRequestRecord) (action : OperationActionRecord)
      (intent : LifecycleIntent)
      (located : stores.requestOf command = some request)
        (recorded : action ∈ stores.actions)
      (session : action.sessionId = request.identity.sessionId)
      (key : action.idempotencyKey = some command.idempotencyKey)
      (fingerprint : action.intentFingerprint = some (digest intent.json))
      (other : intent ≠ command.described)
      (apart : digest intent.json = digest command.described.json →
        intent.json = command.described.json)
  | staleFence (request : ExecutionRequestRecord) (moves : command.move ≠ none)
      (located : stores.requestOf command = some request)
      (fence : request.claim.map (·.fence) ≠ some command.fence)
  | noEdge (request : ExecutionRequestRecord) (located : stores.requestOf command =
      some request) (unused : stores.actionForIdempotency request.identity.sessionId
      command.idempotencyKey = none) (edge : ¬ stores.Permits command)

theorem Refused.raises (hist : History stores) (h : Refused digest stores command) :
    ∃ error, executeLifecycle digest draws command stores = .error error := by
  cases hresult : executeLifecycle digest draws command stores with
  | error error => exact ⟨error, rfl⟩
  | ok accepted =>
      exfalso
      obtain ⟨result, after⟩ := accepted
      rcases executeLifecycle_eq_ok hist.keyed hresult with ⟨hreplays, howned⟩ | hnew
      · cases h with
        | otherIntent request action intent located recorded session key fingerprint
            other apart =>
            obtain rfl : request = result.request :=
              Option.some.inj (located.symm.trans hreplays.request)
            have hfound := hist.actionForIdempotency recorded session key
            rw [hreplays.action] at hfound
            cases hfound
            have hdigests := fingerprint.symm.trans hreplays.fingerprint
            exact other (LifecycleIntent.json_inj (apart (Option.some.inj hdigests)))
        | staleFence request moves located fence =>
            obtain rfl : request = result.request :=
              Option.some.inj (located.symm.trans hreplays.request)
            exact fence (howned moves)
        | noEdge request located unused edge =>
            obtain rfl : request = result.request :=
              Option.some.inj (located.symm.trans hreplays.request)
            rw [hreplays.action] at unused
            cases unused
      · obtain ⟨current, hcurrent, hidentity⟩ := hnew.located
        cases h with
        | otherIntent request action intent located recorded session key fingerprint
            other apart =>
            obtain rfl : request = current :=
              Option.some.inj (located.symm.trans hcurrent)
            refine hnew.advances.newKey action recorded ?_ ?_
            · rw [session, hidentity, hnew.advances.session]
            · rw [key, hnew.answers.key]
        | staleFence request moves located fence =>
            obtain ⟨move, hmove⟩ := Option.ne_none_iff_exists'.mp moves
            obtain ⟨target, spec⟩ := move
            have hpermitted := hnew.permitted
            rw [Stores.Permits, hmove] at hpermitted
            obtain ⟨run, claimed, hrun, hclaimed, hfence, -⟩ := hpermitted
            rw [Stores.requestOf_move hmove, hrun, Option.bind_some,
              hclaimed] at located
            cases located
            rw [(command.move_eq hmove).2.2.2.1] at hfence
            exact fence hfence
        | noEdge request located unused edge => exact edge hnew.permitted

end Refusals

/-! ## Every run -/

/-- **The laws of the lifecycle commands** over a run of them. -/
structure KeepsHistory (digest : String → String) (start : Stores)
    (commands : List (Draws × LifecycleCommand)) : Prop where
  history : History (lifecycleRun digest start commands)
  accepted : ∀ draws command result after,
    executeLifecycle digest draws command (lifecycleRun digest start commands) =
      .ok (result, after) →
    (result.replayed = true ∧ after = lifecycleRun digest start commands) ∨
      (Advances (lifecycleRun digest start commands) result after ∧
        Answers digest command result)
  settlement : ∀ (later : List (Draws × LifecycleCommand)) (key : String) run,
    (lifecycleRun digest start commands).runs[key]? = some run → run.settledAt.isSome →
      (lifecycleRun digest start (commands ++ later)).runs[key]? = some run
  repeats : ∀ earlier later draws command result after,
    commands = earlier ++ (draws, command) :: later →
    executeLifecycle digest draws command (lifecycleRun digest start earlier) =
      .ok (result, after) → result.replayed = false →
    ∀ (fresh : Draws) (other : LifecycleCommand),
      other.idempotencyKey = command.idempotencyKey →
      other.described = command.described →
      PolicyScope.executionOperate ∈ other.authority.scopes →
      ∃ run, executeLifecycle digest fresh other (lifecycleRun digest start commands) =
        .ok (⟨result.request, run, result.event, result.action, true⟩,
          lifecycleRun digest start commands)
  conflicts : ∀ earlier later draws command result after,
    commands = earlier ++ (draws, command) :: later →
    executeLifecycle digest draws command (lifecycleRun digest start earlier) =
      .ok (result, after) → result.replayed = false →
    ∀ (fresh : Draws) (other : LifecycleCommand) request,
      (lifecycleRun digest start commands).requestOf other = some request →
      request.identity.sessionId = result.request.identity.sessionId →
      other.idempotencyKey = command.idempotencyKey →
      other.described ≠ command.described →
      (digest command.described.json = digest other.described.json →
        command.described.json = other.described.json) →
      (∃ error,
        executeLifecycle digest fresh other (lifecycleRun digest start commands) =
        .error error) ∧
        lifecycleStep digest (lifecycleRun digest start commands) (fresh, other) =
          lifecycleRun digest start commands
  raises : ∀ draws command,
    Refused digest (lifecycleRun digest start commands) command →
    (∃ error,
      executeLifecycle digest draws command (lifecycleRun digest start commands) =
      .error error) ∧
      lifecycleStep digest (lifecycleRun digest start commands) (draws, command) =
        lifecycleRun digest start commands

/-- An accepted command is remembered after any further ones. -/
theorem remembered_of_accepted {digest : String → String} {start : Stores}
    (hstart : Unopened start) {earlier : List (Draws × LifecycleCommand)}
    {draws : Draws} {command : LifecycleCommand} {result : RunLifecycleResult}
    {after : Stores}
    (h : executeLifecycle digest draws command (lifecycleRun digest start earlier) =
      .ok (result, after)) (hfresh : result.replayed = false)
    (later : List (Draws × LifecycleCommand)) :
    Remembered digest command result
      (lifecycleRun digest start (earlier ++ (draws, command) :: later)) := by
  have hbefore : History (lifecycleRun digest start earlier) :=
    lifecycleRun_history earlier hstart.history
  rcases executeLifecycle_eq_ok hbefore.keyed h with ⟨hreplays, -⟩ | hnew
  · exact absurd hreplays.replayed (by simp [hfresh])
  · have hlater : lifecycleRun digest (lifecycleRun digest start earlier)
        ((draws, command) :: later) = lifecycleRun digest after later := by
      rw [lifecycleRun, List.foldl_cons, lifecycleStep, h]
      rfl
    rw [lifecycleRun_append, hlater]
    exact (hnew.advances.remembered hbefore hnew.answers).run_later
      (hnew.advances.history hbefore) later

/-- **The run lifecycle commands keep the history of the runs**, whatever is sent
and in whatever order. -/
theorem lifecycleKeepsHistory (digest : String → String) (start : Stores)
    (hstart : Unopened start) (commands : List (Draws × LifecycleCommand)) :
    KeepsHistory digest start commands := by
  have hist : History (lifecycleRun digest start commands) :=
    lifecycleRun_history commands hstart.history
  have hraises (draws : Draws) (command : LifecycleCommand)
      (hrefused : Refused digest (lifecycleRun digest start commands) command) :
      (∃ error,
        executeLifecycle digest draws command (lifecycleRun digest start commands) =
        .error error) ∧
        lifecycleStep digest (lifecycleRun digest start commands) (draws, command) =
          lifecycleRun digest start commands := by
    obtain ⟨error, herror⟩ := @Refused.raises digest draws _ command hist hrefused
    exact ⟨⟨error, herror⟩, by rw [lifecycleStep, herror]⟩
  refine ⟨hist, ?_, ?_, ?_, ?_, hraises⟩
  · intro draws command result after hresult
    rcases executeLifecycle_eq_ok hist.keyed hresult with ⟨hreplays, -⟩ | hnew
    · exact .inl ⟨hreplays.replayed, hreplays.unchanged⟩
    · exact .inr ⟨hnew.advances, hnew.answers⟩
  · intro later key run hrun hsettled
    rw [lifecycleRun_append]
    exact lifecycleRun_settled later hist hrun hsettled
  · rintro earlier later draws command result after rfl hresult hfresh fresh other hkey
      hintent hscope
    exact (remembered_of_accepted hstart hresult hfresh later).repeats hist hkey
      hintent hscope
  · rintro earlier later draws command result after rfl hresult hfresh fresh other
      request hlocated hsession hkey hintent hapart
    have hremembered := remembered_of_accepted hstart hresult hfresh later
    exact hraises fresh other (.otherIntent request result.action command.described
      hlocated hremembered.action (hremembered.session.trans hsession.symm)
      (hremembered.answers.key.trans (congrArg some hkey.symm))
      hremembered.answers.fingerprint (Ne.symm hintent) hapart)

/-- A queued request of an open session. -/
def queuedStores : Stores where
  sessions := (∅ : TextMap _).insert "session-a" .opened
  requests := (∅ : TextMap _).insert "request-a"
    { identity := ⟨"request-a", "workspace-a", "session-a", "plan-a", by decide⟩
      status := .queued
      claim := none
      claimedExactly := by simp }
  runs := ∅
  events := []
  actions := []

def operator : ExecutionWorkerAuthority := ⟨"worker-a", [.executionOperate], by simp⟩

/-- A claim, a start, and a start under a stale generation. -/
def claimThenStart : List (Draws × LifecycleCommand) :=
  [ (⟨5, 6, "run-a", "event-a", "action-a"⟩,
    .claimAndOpen "request-a" operator 60 "claim")
  , (⟨7, 8, "", "event-b", "action-b"⟩,
      .start ⟨"run-a", operator, ⟨"worker-a", 1⟩, "start", by decide, by decide, rfl⟩)
  , (⟨9, 10, "", "event-c", "action-c"⟩,
      .pause
        ⟨"run-a", operator, ⟨"worker-a", 2⟩, "pause", by decide, by decide, rfl⟩ {}) ]

example : (lifecycleRun id queuedStores claimThenStart).kindsOf "run-a" =
    [.runOpened, .runStarted] := by decide

theorem queuedStores_unopened : Unopened queuedStores := by
  refine ⟨?_, rfl, rfl, List.Pairwise.nil⟩
  intro key request hrequest
  simp only [queuedStores, getElem?_insert] at hrequest
  split at hrequest
  · cases hrequest
    assumption
  · simp at hrequest

theorem lifecycleKeepsHistory_claimThenStart :
    KeepsHistory id queuedStores claimThenStart :=
  lifecycleKeepsHistory id queuedStores queuedStores_unopened claimThenStart

/-- The same worker, whose scopes are gone. -/
def unscoped : ExecutionWorkerAuthority := ⟨"worker-a", [], List.Pairwise.nil⟩

def claimBy (authority : ExecutionWorkerAuthority) : LifecycleCommand :=
  .claimAndOpen "request-a" authority 60 "claim"

/-- **A repetition needs its scope**: the claim is accepted, and asked for again with
the same key and intent by a worker without the scope it is denied. -/
theorem repetition_denied : ∃ result after,
    executeLifecycle id ⟨5, 6, "run-a", "event-a", "action-a"⟩
      (claimBy operator) queuedStores =
        .ok (result, after) ∧
      result.replayed = false ∧
      (claimBy unscoped).idempotencyKey = (claimBy operator).idempotencyKey ∧
      (claimBy unscoped).described = (claimBy operator).described ∧
      ∀ draws, executeLifecycle id draws (claimBy unscoped) after =
        .error (.denied "scope execution:operate is missing") := by
  have haccepted :
      (executeLifecycle id ⟨5, 6, "run-a", "event-a", "action-a"⟩ (claimBy operator)
      queuedStores).toOption.any (fun answer => !answer.1.replayed) = true := by decide
  cases hresult : executeLifecycle id ⟨5, 6, "run-a", "event-a", "action-a"⟩
      (claimBy operator)
      queuedStores with
  | error error =>
      rw [hresult] at haccepted
      cases haccepted
  | ok answer =>
      obtain ⟨result, after⟩ := answer
      rw [hresult] at haccepted
      have hfresh : (!result.replayed) = true := haccepted
      exact ⟨result, after, rfl, by simpa using hfresh, rfl, rfl, fun _ => rfl⟩

end ControlPlaneKit.Operations
