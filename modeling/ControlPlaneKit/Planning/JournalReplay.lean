import ControlPlaneKit.Planning.Journal
import ControlPlaneKit.Planning.SagaHistory

/-!
# JournalReplay — one journal event, in the tables and in the saga

The forward half and the compensation half of a step keep the same records: an
attempt is started, gets a result, becomes uncertain, or is resolved.  One
accepted journal event makes one such record, and this module says what it does
to the tables of the fold and to the status of the step.
-/

namespace ControlPlaneKit.Planning

open ControlPlaneKit.Library.EventFold

/-! ## Records of an attempt -/

/-- The two halves of a step's life. -/
inductive Half where
  | forward
  | compensation
  deriving DecidableEq

/-- The status of a step whose attempt has no outcome yet. -/
def Half.live : Half → SagaStepStatus
  | .forward => .running
  | .compensation => .compensating

/-- The other half of a step's life. -/
def Half.other : Half → Half
  | .forward => .compensation
  | .compensation => .forward

theorem Half.eq_other_of_ne {h half : Half} (hne : h ≠ half) : h = half.other := by
  cases h <;> cases half <;> first | rfl | exact absurd rfl hne

def Half.hasBegun : Half → SagaStepStatus → Bool
  | .forward, status => status ≠ .pending
  | .compensation, status => status.inCompensation

/-- What a journal event records of an attempt.  An unsupported step is a result. -/
inductive AttemptRecord where
  | started
  | result
  | uncertain
  | resolved
  deriving DecidableEq

/-- What an event records of an attempt, and of which half. -/
def ActivityJournalEventKind.record :
    ActivityJournalEventKind → Option (Half × AttemptRecord)
  | .stepStarted => some (.forward, .started)
  | .stepSucceeded | .stepFailed | .stepUnsupported => some (.forward, .result)
  | .stepUncertain => some (.forward, .uncertain)
  | .stepUncertaintyResolvedSucceeded | .stepUncertaintyResolvedFailed
  | .stepUncertaintyAbandoned => some (.forward, .resolved)
  | .stepCompensationStarted => some (.compensation, .started)
  | .stepCompensationSucceeded | .stepCompensationFailed
  | .stepCompensationUnsupported => some (.compensation, .result)
  | .stepCompensationUncertain => some (.compensation, .uncertain)
  | .stepCompensationUncertaintyResolvedSucceeded
  | .stepCompensationUncertaintyResolvedFailed
  | .stepCompensationUncertaintyAbandoned => some (.compensation, .resolved)
  | .runCompensationStarted => none

/-- The record an event makes, and of which step; none without a step. -/
def ActivityJournalEvent.records (event : ActivityJournalEvent) :
    Option (Half × AttemptRecord × SagaStepId) :=
  match event.kind.record, event.activityId with
  | some (half, record), some stepId => some (half, record, stepId)
  | _, _ => none

/-- The journal holds such a record of the step. -/
def Recorded (journal : List ActivityJournalEvent) (half : Half)
    (record : AttemptRecord) (stepId : SagaStepId) : Prop :=
  ∃ event ∈ journal, event.records = some (half, record, stepId)

/-- An event records one thing more. -/
theorem recorded_concat {journal : List ActivityJournalEvent}
    {event : ActivityJournalEvent} {half : Half} {record : AttemptRecord}
    {stepId : SagaStepId} : Recorded (journal ++ [event]) half record stepId ↔
      Recorded journal half record stepId ∨
      event.records = some (half, record, stepId) := by
  simp only [Recorded, List.mem_append, List.mem_singleton]
  constructor
  · rintro ⟨other, hother | rfl, hrec⟩
    · exact .inl ⟨other, hother, hrec⟩
    · exact .inr hrec
  · rintro (⟨other, hother, hrec⟩ | hrec)
    · exact ⟨other, .inl hother, hrec⟩
    · exact ⟨event, .inr rfl, hrec⟩

/-! ## Saga events by half -/

/-- The attempt that an event starts. -/
def SagaEvent.starts : SagaEvent → Option (Half × SagaStepId)
  | .stepStarted stepId => some (.forward, stepId)
  | .compensationStarted stepId => some (.compensation, stepId)
  | _ => none

/-- The attempt that an event settles. -/
def SagaEvent.settles : SagaEvent → Option (Half × SagaStepId)
  | .stepSucceeded stepId | .stepFailed stepId => some (.forward, stepId)
  | .compensationSucceeded stepId | .compensationFailed stepId =>
      some (.compensation, stepId)
  | _ => none

namespace SagaState

def liveAt (state : SagaState) (half : Half) (stepId : SagaStepId) : Bool :=
  (state.statusOf stepId).any fun status => status = half.live

def begunAt (state : SagaState) (half : Half) (stepId : SagaStepId) : Bool :=
  (state.statusOf stepId).any half.hasBegun

/-- An attempt is live when the step has the live status of its half. -/
theorem liveAt_iff {state : SagaState} {half : Half} {stepId : SagaStepId} :
    state.liveAt half stepId = true ↔ state.statusOf stepId = some half.live := by
  cases h : state.statusOf stepId <;> simp [liveAt, h]

/-- A live attempt has begun. -/
theorem begunAt_of_liveAt {state : SagaState} {half : Half} {stepId : SagaStepId}
    (h : state.liveAt half stepId = true) : state.begunAt half stepId = true := by
  rw [begunAt, liveAt_iff.mp h]
  cases half <;> rfl

end SagaState

section Admitted

variable {state : SagaState} {event : SagaEvent} (hadm : Admits state event)
include hadm

/-- **After an event** an attempt is live when the event starts it, or when it was live
and the event does not settle it. -/
theorem Admits.liveAt_after (half : Half) (j : SagaStepId) :
    (state.after event).liveAt half j = true ↔
      event.starts = some (half, j) ∨
        state.liveAt half j = true ∧ event.settles ≠ some (half, j) := by
  have hexp : ∀ status, event.moves = some (j, status) →
      state.statusOf j = some event.expects :=
    fun _ hmoves => hadm.expects hmoves
  rw [SagaState.liveAt, SagaState.liveAt, statusOf_after]
  cases event with
  | cancelled | compensationRequested =>
      simp [SagaEvent.moves, SagaEvent.starts, SagaEvent.settles]
  | stepStarted stepId | stepSucceeded stepId | stepFailed stepId
  | compensationStarted stepId
  | compensationSucceeded stepId | compensationFailed stepId =>
      simp only [SagaEvent.moves, SagaEvent.starts, SagaEvent.settles]
      by_cases hj : j = stepId
      · subst hj
        rw [hexp _ rfl]
        cases half <;> simp [SagaEvent.expects, Half.live]
      · simp [hj, Ne.symm hj]

/-- **After an event** an attempt has begun when the event starts it or it had begun. -/
theorem Admits.begunAt_after (half : Half) (j : SagaStepId) :
    (state.after event).begunAt half j = true ↔
      event.starts = some (half, j) ∨ state.begunAt half j = true := by
  have hexp : ∀ status, event.moves = some (j, status) →
      state.statusOf j = some event.expects :=
    fun _ hmoves => hadm.expects hmoves
  rw [SagaState.begunAt, SagaState.begunAt, statusOf_after]
  cases event with
  | cancelled | compensationRequested => simp [SagaEvent.moves, SagaEvent.starts]
  | stepStarted stepId | stepSucceeded stepId | stepFailed stepId
  | compensationStarted stepId
  | compensationSucceeded stepId | compensationFailed stepId =>
      simp only [SagaEvent.moves, SagaEvent.starts]
      by_cases hj : j = stepId
      · subst hj
        rw [hexp _ rfl]
        cases half <;> simp [SagaEvent.expects, Half.hasBegun,
          SagaStepStatus.inCompensation]
      · simp [hj, Ne.symm hj]

/-- No attempt is started twice. -/
theorem Admits.begunAt_of_starts {half : Half} {j : SagaStepId}
    (h : event.starts = some (half, j)) : state.begunAt half j = false := by
  cases event <;> cases h <;>
    simp [SagaState.begunAt, hadm.expects rfl, SagaEvent.expects, Half.hasBegun,
      SagaStepStatus.inCompensation]

/-- Only a live attempt is settled. -/
theorem Admits.liveAt_of_settles {half : Half} {j : SagaStepId}
    (h : event.settles = some (half, j)) : state.liveAt half j = true := by
  cases event <;> cases h <;>
    simp [SagaState.liveAt_iff, hadm.expects rfl, SagaEvent.expects, Half.live]

end Admitted

/-- What starts an attempt settles none. -/
theorem SagaEvent.settles_of_starts {event : SagaEvent} {move : Half × SagaStepId}
    (h : event.starts = some move) : event.settles = none := by
  cases event <;> first | rfl | cases h

theorem SagaEvent.starts_of_settles {event : SagaEvent} {move : Half × SagaStepId}
    (h : event.settles = some move) : event.starts = none := by
  cases event <;> first | rfl | cases h

/-! ## What a record does to the saga -/

/-- The saga events a record may emit. -/
inductive Emits (half : Half) (stepId : SagaStepId) :
    AttemptRecord → List SagaEvent → Prop where
  | started {event : SagaEvent} (h : event.starts = some (half, stepId)) :
      Emits half stepId .started [event]
  | result {event : SagaEvent} (h : event.settles = some (half, stepId)) :
      Emits half stepId .result [event]
  | unsupported {start event : SagaEvent} (hstart : start.starts = some (half, stepId))
      (h : event.settles = some (half, stepId)) :
        Emits half stepId .result [start, event]
  | uncertain : Emits half stepId .uncertain []
  | resolved {event : SagaEvent} (h : event.settles = some (half, stepId)) :
      Emits half stepId .resolved [event]

/-- Whether the attempt may be recorded so, and whether it is live afterwards. -/
def AttemptRecord.Moves :
    AttemptRecord → (liveBefore begunBefore liveAfter : Prop) → Prop
  | .started, _, begunBefore, liveAfter => ¬ begunBefore ∧ liveAfter
  | .result, liveBefore, begunBefore, liveAfter =>
      (liveBefore ∨ ¬ begunBefore) ∧ ¬ liveAfter
  | .uncertain, liveBefore, _, liveAfter => liveAfter ↔ liveBefore
  | .resolved, liveBefore, _, liveAfter => liveBefore ∧ ¬ liveAfter

/-- **One record in the saga.** It moves the attempt it is about and no other. -/
structure Attempt (half : Half) (stepId : SagaStepId) (record : AttemptRecord)
    (state state' : SagaState) : Prop where
  live_other : ∀ h j, ¬ (h = half ∧ j = stepId) →
    (state'.liveAt h j = true ↔ state.liveAt h j = true)
  begun : ∀ h j, state'.begunAt h j = true ↔
    state.begunAt h j = true ∨ (h = half ∧ j = stepId ∧ record ≠ .uncertain)
  moves : record.Moves (state.liveAt half stepId = true)
    (state.begunAt half stepId = true) (state'.liveAt half stepId = true)

theorem Emits.attempt {half : Half} {stepId : SagaStepId} {record : AttemptRecord}
    {emitted : List SagaEvent} (h : Emits half stepId record emitted)
    {state state' : SagaState} (hcoh : Coherent state)
    (hrun : evolveAll state emitted = .ok state') :
    Attempt half stepId record state state' := by
  have hsettle : ∀ {event : SagaEvent} {s s' : SagaState}, Coherent s →
      evolve s event = .ok s' → event.settles = some (half, stepId) →
      (∀ h j, s'.liveAt h j = true ↔ s.liveAt h j = true ∧ ¬ (h = half ∧ j = stepId)) ∧
      (∀ h j, s'.begunAt h j = true ↔ s.begunAt h j = true) ∧
      s.liveAt half stepId = true := by
    intro event s s' hs hstep hset
    obtain ⟨hadm, rfl⟩ := hs.evolve_eq_ok.mp hstep
    refine ⟨fun h j => ?_, fun h j => ?_, hadm.liveAt_of_settles hset⟩
    · simp [hadm.liveAt_after, hset, SagaEvent.starts_of_settles hset, @eq_comm _ half,
        @eq_comm _ stepId]
    · simp [hadm.begunAt_after, SagaEvent.starts_of_settles hset]
  have hstart : ∀ {event : SagaEvent} {s s' : SagaState}, Coherent s →
      evolve s event = .ok s' → event.starts = some (half, stepId) →
      (∀ h j, s'.liveAt h j = true ↔ s.liveAt h j = true ∨ (h = half ∧ j = stepId)) ∧
      (∀ h j, s'.begunAt h j = true ↔ s.begunAt h j = true ∨ (h = half ∧ j = stepId)) ∧
      ¬ s.begunAt half stepId = true := by
    intro event s s' hs hstep hset
    obtain ⟨hadm, rfl⟩ := hs.evolve_eq_ok.mp hstep
    refine ⟨fun h j => ?_, fun h j => ?_, by simp [hadm.begunAt_of_starts hset]⟩
    · simp [hadm.liveAt_after, hset, SagaEvent.settles_of_starts hset, @eq_comm _ half,
        @eq_comm _ stepId, or_comm]
    · simp [hadm.begunAt_after, hset, @eq_comm _ half, @eq_comm _ stepId, or_comm]
  cases h with
  | started hset =>
      obtain ⟨m, hstep, hnil⟩ := run_cons.mp hrun
      obtain rfl := run_nil.mp hnil
      obtain ⟨hlive, hbegun, hfresh⟩ := hstart hcoh hstep hset
      refine ⟨fun h j hne => by simp [hlive, hne],
        fun h j => by simp [hbegun], hfresh, ?_⟩
      simp [hlive]
  | result hset =>
      obtain ⟨m, hstep, hnil⟩ := run_cons.mp hrun
      obtain rfl := run_nil.mp hnil
      obtain ⟨hlive, hbegun, hwas⟩ := hsettle hcoh hstep hset
      refine ⟨fun h j hne => by simp [hlive, hne], fun h j => ?_, .inl hwas,
        by simp [hlive]⟩
      rw [hbegun]
      refine ⟨.inl, ?_⟩
      rintro (hb | ⟨rfl, rfl, -⟩)
      · exact hb
      · exact SagaState.begunAt_of_liveAt hwas
  | unsupported hs hset =>
      obtain ⟨m, hstep, hrest⟩ := run_cons.mp hrun
      obtain ⟨m', hstep', hnil⟩ := run_cons.mp hrest
      obtain rfl := run_nil.mp hnil
      obtain ⟨hlive, hbegun, hfresh⟩ := hstart hcoh hstep hs
      obtain ⟨hlive', hbegun', -⟩ := hsettle (hcoh.step hstep) hstep' hset
      exact ⟨fun h j hne => by simp [hlive', hlive, hne],
        fun h j => by simp [hbegun', hbegun], .inr hfresh, by simp [hlive']⟩
  | uncertain =>
      obtain rfl := run_nil.mp hrun
      exact ⟨fun _ _ _ => Iff.rfl, fun h j => by simp, Iff.rfl⟩
  | resolved hset =>
      obtain ⟨m, hstep, hnil⟩ := run_cons.mp hrun
      obtain rfl := run_nil.mp hnil
      obtain ⟨hlive, hbegun, hwas⟩ := hsettle hcoh hstep hset
      refine ⟨fun h j hne => by simp [hlive, hne], fun h j => ?_, hwas, by simp [hlive]⟩
      rw [hbegun]
      refine ⟨.inl, ?_⟩
      rintro (hb | ⟨rfl, rfl, -⟩)
      · exact hb
      · exact SagaState.begunAt_of_liveAt hwas

/-! ## What a record does to the tables -/

namespace JournalFold

def events (fold : JournalFold) : Half → EventTable
  | .forward => fold.eventByStep
  | .compensation => fold.compensationEventByStep

def uncertain (fold : JournalFold) : Half → EventTable
  | .forward => fold.uncertainByStep
  | .compensation => fold.compensationUncertainByStep

end JournalFold

namespace AttemptRecord

/-- The table of attempts in flight after a record. -/
def inFlightTable (table : EventTable) (stepId : SagaStepId)
    (event : ActivityJournalEvent) : AttemptRecord → EventTable
  | .started => table.insert stepId event
  | .result | .uncertain => table.erase stepId
  | .resolved => table

/-- The table of uncertain attempts after a record. -/
def uncertainTable (table : EventTable) (stepId : SagaStepId)
    (event : ActivityJournalEvent) : AttemptRecord → EventTable
  | .started | .result => table
  | .uncertain => table.insert stepId event
  | .resolved => table.erase stepId

end AttemptRecord

/-- **One record in the tables.** -/
structure Tabulates (half : Half) (stepId : SagaStepId) (record : AttemptRecord)
    (event : ActivityJournalEvent) (fold fold' : JournalFold) : Prop where
  events_other : fold'.events half.other = fold.events half.other
  uncertain_other : fold'.uncertain half.other = fold.uncertain half.other
  events : fold'.events half = record.inFlightTable (fold.events half) stepId event
  uncertain : fold'.uncertain half =
    record.uncertainTable (fold.uncertain half) stepId event
  resolved : record = .resolved → stepId ∈ fold.uncertain half
  emits : ∃ emitted, Emits half stepId record emitted ∧
    fold'.sagaEvents = fold.sagaEvents ++ emitted

/-- A resolution is accepted for steps in the table of uncertain ones. -/
theorem requireUncertain_eq_ok {table : EventTable} {stepId : SagaStepId}
    {error : SagaJournalError} {u : Unit} :
    requireUncertain table stepId error = .ok u ↔ stepId ∈ table := by
  unfold requireUncertain
  split <;> simp_all

/-- **A recorded event is entered in the tables of its half.** -/
theorem foldStep_tabulates {fold fold' : JournalFold} {event : ActivityJournalEvent}
    {stepId : SagaStepId} {half : Half} {record : AttemptRecord}
    (hrecord : event.kind.record = some (half, record))
    (h : foldStep fold event stepId = .ok fold') :
    Tabulates half stepId record event fold fold' := by
  unfold foldStep at h
  cases hkind : event.kind <;> rw [hkind] at h hrecord <;> cases hrecord
  case stepUnsupported =>
    cases h
    refine ⟨rfl, rfl, rfl, rfl, by simp, _, ?_, rfl⟩
    split
    · exact .result rfl
    · exact .unsupported rfl rfl
  case stepCompensationUnsupported =>
    cases h
    refine ⟨rfl, rfl, rfl, rfl, by simp, _, ?_, rfl⟩
    split
    · exact .result rfl
    · exact .unsupported rfl rfl
  case stepStarted | stepCompensationStarted =>
    cases h
    exact ⟨rfl, rfl, rfl, rfl, by simp, _, .started rfl, rfl⟩
  case stepSucceeded | stepFailed | stepCompensationSucceeded |
      stepCompensationFailed =>
    cases h
    exact ⟨rfl, rfl, rfl, rfl, by simp, _, .result rfl, rfl⟩
  case stepUncertain | stepCompensationUncertain =>
    cases h
    exact ⟨rfl, rfl, rfl, rfl, by simp, _, .uncertain, by simp⟩
  case stepUncertaintyResolvedSucceeded | stepUncertaintyResolvedFailed |
      stepUncertaintyAbandoned | stepCompensationUncertaintyResolvedSucceeded |
      stepCompensationUncertaintyResolvedFailed |
        stepCompensationUncertaintyAbandoned =>
    obtain ⟨_, hguard, hok⟩ := bind_ok.mp h
    cases hok
    exact ⟨rfl, rfl, rfl, rfl, fun _ => requireUncertain_eq_ok.mp hguard, _,
      .resolved rfl, rfl⟩

/-- **Inversion** of one turn of the loop: a record, or an event that leaves the
tables alone. -/
theorem foldEvent_ok {planIds : List SagaStepId} {fold fold' : JournalFold}
    {event : ActivityJournalEvent} (h : foldEvent planIds fold event = .ok fold') :
    (∃ half record stepId, event.records = some (half, record, stepId) ∧
      event.activityId = some stepId ∧ Tabulates half stepId record event fold fold') ∨
    (event.records = none ∧ (∀ half, fold'.events half = fold.events half ∧
        fold'.uncertain half = fold.uncertain half) ∧
      (fold'.sagaEvents = fold.sagaEvents ∨
        fold'.sagaEvents = fold.sagaEvents ++ [.compensationRequested])) := by
  unfold foldEvent at h
  cases hid : event.activityId with
  | none =>
      refine .inr ⟨?_, ?_⟩
      · unfold ActivityJournalEvent.records
        rw [hid]
        split <;> simp_all
      · rw [hid] at h
        dsimp only at h
        split at h <;> cases h
        · exact ⟨by rintro ⟨⟩ <;> exact ⟨rfl, rfl⟩, .inr rfl⟩
        · exact ⟨fun _ => ⟨rfl, rfl⟩, .inl rfl⟩
  | some stepId =>
      rw [hid] at h
      dsimp only at h
      split at h
      · cases h
      · cases hrecord : event.kind.record with
        | none =>
            have hkind : event.kind = .runCompensationStarted := by
              cases hk : event.kind <;> rw [hk] at hrecord
                <;> first | rfl | cases hrecord
            rw [if_pos hkind] at h
            cases h
            exact .inr ⟨by simp [ActivityJournalEvent.records, hrecord],
              by rintro ⟨⟩ <;> exact ⟨rfl, rfl⟩, .inr rfl⟩
        | some entry =>
            obtain ⟨half, record⟩ := entry
            have hkind : event.kind ≠ .runCompensationStarted := by
              intro hk
              rw [hk] at hrecord
              cases hrecord
            rw [if_neg hkind] at h
            exact .inl ⟨half, record, stepId,
              by simp [ActivityJournalEvent.records, hrecord, hid], rfl,
              foldStep_tabulates hrecord h⟩

end ControlPlaneKit.Planning
