import ControlPlaneKit.Library.Outcome
import ControlPlaneKit.Planning.JournalReplay
import ControlPlaneKit.Planning.ScheduleEvidence
import Mathlib.Data.List.Perm.Subperm

/-!
# JournalConditions — operational conditions against the projected saga

The conditions a projection reports describe its unresolved steps as long as the
journal is orderly: only a live attempt becomes uncertain, and an uncertain one
is closed by a resolution, never by a direct result.  Nothing in the fold checks
either, and each disorderly event is visible in the very next projection.
-/

namespace ControlPlaneKit.Planning

open ControlPlaneKit.Library.EventFold
open ControlPlaneKit.Library.Ordering (mem_sortedBy)
open ControlPlaneKit.Library.Outcome (mapError_eq_ok)

/-! ## What the conditions should say -/

/-- Some event of the list names the step. -/
def Names (events : List ActivityJournalEvent) (stepId : SagaStepId) : Prop :=
  ∃ event ∈ events, event.activityId = some stepId

/-- **The conditions describe the unresolved steps** of the projected state. -/
structure DescribesUnresolved (projection : SagaJournalProjection) : Prop where
  running : ∀ stepId, projection.state.statusOf stepId = some .running ↔
    Names projection.inFlight stepId ∨ Names projection.uncertain stepId
  running_disjoint : ∀ stepId,
    ¬ (Names projection.inFlight stepId ∧ Names projection.uncertain stepId)
  compensating : ∀ stepId, projection.state.statusOf stepId = some .compensating ↔
    Names projection.compensationInFlight stepId ∨
      Names projection.compensationUncertain stepId
  compensating_disjoint : ∀ stepId,
    ¬ (Names projection.compensationInFlight stepId ∧
      Names projection.compensationUncertain stepId)

/-- **Orderly event**: what becomes uncertain was started and has no outcome yet,
and what has become uncertain gets no direct result. -/
def Orderly (earlier : List ActivityJournalEvent)
    (event : ActivityJournalEvent) : Prop :=
  ∀ half stepId,
    (event.records = some (half, .uncertain, stepId) →
      Recorded earlier half .started stepId ∧ ¬ Recorded earlier half .result stepId ∧
        ¬ Recorded earlier half .resolved stepId) ∧
    (event.records = some (half, .result, stepId) →
      ¬ Recorded earlier half .uncertain stepId)

/-- At every point of the journal the conditions describe the unresolved steps. -/
def DescribesThroughout (plan : ActivityPlan)
    (journal : List ActivityJournalEvent) : Prop :=
  ∀ earlier later, journal = earlier ++ later → ∃ current,
    projectActivityJournal plan earlier = .ok current ∧ DescribesUnresolved current

def OrderlyJournal (journal : List ActivityJournalEvent) : Prop :=
  ∀ earlier event later, journal = earlier ++ event :: later → Orderly earlier event

/-! ## Replaying a journal -/

/-- The fold of a journal and the saga state it projects to. -/
structure Replayed (plan : ActivityPlan) (journal : List ActivityJournalEvent)
    (fold : JournalFold) (state : SagaState) : Prop where
  folded : journal.foldlM (foldEvent plan.stepIds) .empty = .ok fold
  evolved : evolveAll (SagaState.initialForPlan plan) fold.sagaEvents = .ok state

/-- What one more event does to a replay. -/
def JournalStep (event : ActivityJournalEvent) (fold : JournalFold) (state : SagaState)
    (fold' : JournalFold) (state' : SagaState) : Prop :=
  (∃ half record stepId, event.records = some (half, record, stepId) ∧
    event.activityId = some stepId ∧ Tabulates half stepId record event fold fold' ∧
    Attempt half stepId record state state') ∨
  (event.records = none ∧ ∀ half, fold'.events half = fold.events half ∧
    fold'.uncertain half = fold.uncertain half ∧ ∀ j,
      (state'.liveAt half j = true ↔ state.liveAt half j = true) ∧
      (state'.begunAt half j = true ↔ state.begunAt half j = true))

section Replay

variable {plan : ActivityPlan} {journal : List ActivityJournalEvent}
  {fold : JournalFold} {state : SagaState}

theorem Replayed.coherent (h : Replayed plan journal fold state) : Coherent state :=
  (initialForPlan_fresh plan).coherent.run h.evolved

theorem Replayed.concat_inv {event : ActivityJournalEvent} {fold' : JournalFold}
    {state' : SagaState} (h : Replayed plan (journal ++ [event]) fold' state') :
    ∃ fold state, Replayed plan journal fold state ∧
      JournalStep event fold state fold' state' := by
  obtain ⟨fold, hfold, hstep⟩ := run_concat.mp h.folded
  have hevolved := h.evolved
  rcases foldEvent_ok hstep with ⟨half, record, stepId, hrec, hid, htab⟩ |
    ⟨hrec, htab, hsaga⟩
  · obtain ⟨emitted, hemits, happend⟩ := htab.emits
    rw [happend] at hevolved
    obtain ⟨state, hstate, hemitted⟩ := run_append.mp hevolved
    have hreplayed : Replayed plan journal fold state := ⟨hfold, hstate⟩
    exact ⟨fold, state, hreplayed, .inl ⟨half, record, stepId, hrec, hid, htab,
      hemits.attempt hreplayed.coherent hemitted⟩⟩
  · rcases hsaga with hsame | happend
    · rw [hsame] at hevolved
      exact ⟨fold, state', ⟨hfold, hevolved⟩, .inr ⟨hrec, fun half =>
        ⟨(htab half).1, (htab half).2, fun _ => ⟨Iff.rfl, Iff.rfl⟩⟩⟩⟩
    · rw [happend] at hevolved
      obtain ⟨state, hstate, hrequest⟩ := run_concat.mp hevolved
      have hreplayed : Replayed plan journal fold state := ⟨hfold, hstate⟩
      obtain ⟨hadm, rfl⟩ := hreplayed.coherent.evolve_eq_ok.mp hrequest
      refine ⟨fold, state, hreplayed, .inr ⟨hrec, fun half =>
        ⟨(htab half).1, (htab half).2, fun j => ⟨?_, ?_⟩⟩⟩⟩
      · simp [hadm.liveAt_after, SagaEvent.starts, SagaEvent.settles]
      · simp [hadm.begunAt_after, SagaEvent.starts]

theorem replayed_nil : Replayed plan [] fold state ↔
    fold = .empty ∧ state = SagaState.initialForPlan plan := by
  constructor
  · rintro ⟨hfold, hstate⟩
    obtain rfl := run_nil.mp hfold
    obtain rfl := run_nil.mp hstate
    exact ⟨rfl, rfl⟩
  · rintro ⟨rfl, rfl⟩
    exact ⟨rfl, rfl⟩

/-- **Replay rule**: what holds of the empty journal and is kept by every event
holds of every replay; the induction is on the journal's end. -/
theorem Replayed.invariant
    {I : List ActivityJournalEvent → JournalFold → SagaState → Prop}
    (hnil : I [] .empty (SagaState.initialForPlan plan))
    (hstep : ∀ earlier event f s f' s', (∃ later, journal = earlier ++ event :: later) →
      Replayed plan earlier f s → I earlier f s → JournalStep event f s f' s' →
      I (earlier ++ [event]) f' s')
    (h : Replayed plan journal fold state) : I journal fold state := by
  have hprefix : ∀ earlier later f s, journal = earlier ++ later →
      Replayed plan earlier f s → I earlier f s := by
    intro earlier
    induction earlier using List.reverseRecOn with
    | nil =>
        intro later f s _ hreplayed
        obtain ⟨rfl, rfl⟩ := replayed_nil.mp hreplayed
        exact hnil
    | append_singleton earlier event ih =>
        intro later f' s' hsplit hreplayed
        obtain ⟨f, s, hearlier, hmove⟩ := hreplayed.concat_inv
        have hsplit' : journal = earlier ++ event :: later := by simpa using hsplit
        exact hstep earlier event f s f' s' ⟨later, hsplit'⟩ hearlier
          (ih _ f s hsplit' hearlier) hmove
  exact hprefix journal [] fold state (by simp) h

/-- Every prefix of a replayed journal replays. -/
theorem Replayed.of_append {earlier later : List ActivityJournalEvent}
    (h : Replayed plan (earlier ++ later) fold state) :
    ∃ fold state, Replayed plan earlier fold state := by
  induction later using List.reverseRecOn generalizing fold state with
  | nil => exact ⟨fold, state, by simpa using h⟩
  | append_singleton later event ih =>
      rw [← List.append_assoc] at h
      obtain ⟨fold, state, hreplayed, -⟩ := h.concat_inv
      exact ih hreplayed

end Replay

/-! ## What the tables and the statuses remember -/

section Tables

variable {half : Half} {stepId : SagaStepId} {record : AttemptRecord}
  {event : ActivityJournalEvent} {fold fold' : JournalFold}

theorem Tabulates.mem_events (h : Tabulates half stepId record event fold fold')
    (half' : Half) (j : SagaStepId) : j ∈ fold'.events half' ↔
      if half' = half ∧ j = stepId then
        record = .started ∨ (record = .resolved ∧ j ∈ fold.events half')
      else j ∈ fold.events half' := by
  by_cases hhalf : half' = half
  · subst hhalf
    rw [h.events]
    cases record <;> by_cases hj : j = stepId <;>
      simp [AttemptRecord.inFlightTable, AList.mem_insert, AList.mem_erase, hj]
  · rw [Half.eq_other_of_ne hhalf, h.events_other, ← Half.eq_other_of_ne hhalf]
    simp [hhalf]

theorem Tabulates.mem_uncertain (h : Tabulates half stepId record event fold fold')
    (half' : Half) (j : SagaStepId) : j ∈ fold'.uncertain half' ↔
      if half' = half ∧ j = stepId then
        record = .uncertain ∨ (record ≠ .resolved ∧ j ∈ fold.uncertain half')
      else j ∈ fold.uncertain half' := by
  by_cases hhalf : half' = half
  · subst hhalf
    rw [h.uncertain]
    cases record <;> by_cases hj : j = stepId <;>
      simp [AttemptRecord.uncertainTable, AList.mem_insert, AList.mem_erase, hj]
  · rw [Half.eq_other_of_ne hhalf, h.uncertain_other, ← Half.eq_other_of_ne hhalf]
    simp [hhalf]

/-- Every entry of a table names its key. -/
def Keyed (table : EventTable) : Prop :=
  ∀ j event, table.lookup j = some event → event.activityId = some j

theorem Keyed.insert {table : EventTable} (h : Keyed table)
    (hid : event.activityId = some stepId) : Keyed (table.insert stepId event) := by
  intro j other hlookup
  by_cases hj : j = stepId
  · subst hj
    rw [AList.lookup_insert, Option.some_inj] at hlookup
    exact hlookup ▸ hid
  · rw [AList.lookup_insert_ne hj] at hlookup
    exact h j other hlookup

theorem Keyed.erase {table : EventTable} (h : Keyed table) :
    Keyed (table.erase stepId) := by
  intro j other hlookup
  by_cases hj : j = stepId
  · subst hj
    rw [AList.lookup_erase] at hlookup
    cases hlookup
  · rw [AList.lookup_erase_ne hj] at hlookup
    exact h j other hlookup

theorem Tabulates.keyed (h : Tabulates half stepId record event fold fold')
    (hid : event.activityId = some stepId)
    (hkeyed : ∀ half', Keyed (fold.events half') ∧ Keyed (fold.uncertain half'))
    (half' : Half) : Keyed (fold'.events half') ∧ Keyed (fold'.uncertain half') := by
  by_cases hhalf : half' = half
  · subst hhalf
    obtain ⟨hevents, huncertain⟩ := hkeyed half'
    rw [h.events, h.uncertain]
    cases record with
    | started => exact ⟨hevents.insert hid, huncertain⟩
    | result => exact ⟨hevents.erase, huncertain⟩
    | uncertain => exact ⟨hevents.erase, huncertain.insert hid⟩
    | resolved => exact ⟨hevents, huncertain.erase⟩
  · rw [Half.eq_other_of_ne hhalf, h.events_other, h.uncertain_other]
    exact hkeyed half.other

end Tables

/-- Recording one more event. -/
theorem recorded_concat_iff {journal : List ActivityJournalEvent}
    {event : ActivityJournalEvent} {half : Half} {record : AttemptRecord}
    {stepId : SagaStepId} (hrec : event.records = some (half, record, stepId))
    {half' : Half} {record' : AttemptRecord} {j : SagaStepId} :
    Recorded (journal ++ [event]) half' record' j ↔
      Recorded journal half' record' j ∨
      (half' = half ∧ j = stepId ∧ record' = record) := by
  rw [recorded_concat, hrec]
  simp only [Option.some.injEq, Prod.mk.injEq, @eq_comm _ half, @eq_comm _ record,
    @eq_comm _ stepId]
  tauto

/-- **History of a replay.** Statuses and tables in terms of the journal alone. -/
structure JournalHistory (journal : List ActivityJournalEvent) (fold : JournalFold)
    (state : SagaState) : Prop where
  begun : ∀ half j, state.begunAt half j = true ↔
    ∃ record, record ≠ .uncertain ∧ Recorded journal half record j
  live : ∀ half j, state.liveAt half j = true ↔ Recorded journal half .started j ∧
    ¬ Recorded journal half .result j ∧ ¬ Recorded journal half .resolved j
  keyed : ∀ half, Keyed (fold.events half) ∧ Keyed (fold.uncertain half)
  unresolved : ∀ half j, Recorded journal half .uncertain j →
    ¬ Recorded journal half .resolved j → j ∈ fold.uncertain half

theorem JournalHistory.step {journal : List ActivityJournalEvent}
    {fold fold' : JournalFold} {state state' : SagaState}
    (h : JournalHistory journal fold state) {event : ActivityJournalEvent}
    (hstep : JournalStep event fold state fold' state') :
    JournalHistory (journal ++ [event]) fold' state' := by
  rcases hstep with ⟨half, record, stepId, hrec, hid, htab, hattempt⟩ | ⟨hrec, hsame⟩
  · refine ⟨fun half' j => ?_, fun half' j => ?_, htab.keyed hid h.keyed,
      fun half' j => ?_⟩
    · rw [hattempt.begun, h.begun]
      simp only [recorded_concat_iff hrec]
      constructor
      · rintro (⟨other, hne, hother⟩ | ⟨rfl, rfl, hne⟩)
        · exact ⟨other, hne, .inl hother⟩
        · exact ⟨record, hne, .inr ⟨rfl, rfl, rfl⟩⟩
      · rintro ⟨other, hne, hother | ⟨rfl, rfl, rfl⟩⟩
        · exact .inl ⟨other, hne, hother⟩
        · exact .inr ⟨rfl, rfl, hne⟩
    · simp only [recorded_concat_iff hrec]
      by_cases hhere : half' = half ∧ j = stepId
      · obtain ⟨rfl, rfl⟩ := hhere
        have hmoves := hattempt.moves
        cases record with
        | started =>
            have hnone : ∀ r, r ≠ .uncertain → ¬ Recorded journal half' r j :=
                fun r hr hrecorded =>
              hmoves.1 ((h.begun half' j).mpr ⟨r, hr, hrecorded⟩)
            simp [hmoves.2, hnone]
        | result => simp [hmoves.2]
        | uncertain => simpa using hmoves.trans (h.live half' j)
        | resolved => simp [hmoves.2]
      · have hno : ∀ r, ¬ (half' = half ∧ j = stepId ∧ r = record) :=
          fun r heq => hhere ⟨heq.1, heq.2.1⟩
        simp only [hno, or_false, hattempt.live_other half' j hhere, h.live]
    · simp only [recorded_concat_iff hrec, htab.mem_uncertain]
      by_cases hhere : half' = half ∧ j = stepId
      · obtain ⟨rfl, rfl⟩ := hhere
        intro hunc hres
        rw [if_pos ⟨rfl, rfl⟩]
        by_cases hrecord : record = .uncertain
        · exact .inl hrecord
        · have hpast := hunc.resolve_right fun heq => hrecord heq.2.2.symm
          exact .inr ⟨fun heq => hres (.inr ⟨rfl, rfl, heq.symm⟩),
            h.unresolved half' j hpast fun hr => hres (.inl hr)⟩
      · rw [if_neg hhere]
        intro hunc hres
        exact h.unresolved half' j (hunc.resolve_right fun heq => hhere
          ⟨heq.1, heq.2.1⟩) fun hr => hres (.inl hr)
  · have hkeep : ∀ half' record' j, Recorded (journal ++ [event]) half' record' j ↔
        Recorded journal half' record' j := by
      intro half' record' j
      simp [recorded_concat, hrec]
    refine ⟨fun half' j => ?_, fun half' j => ?_, fun half' => ?_, fun half' j => ?_⟩
    · simp only [((hsame half').2.2 j).2, hkeep, h.begun]
    · simp only [((hsame half').2.2 j).1, hkeep, h.live]
    · rw [(hsame half').1, (hsame half').2.1]
      exact h.keyed half'
    · rw [hkeep, hkeep, (hsame half').2.1]
      exact h.unresolved half' j

theorem Replayed.history {plan : ActivityPlan} {journal : List ActivityJournalEvent}
    {fold : JournalFold} {state : SagaState} (h : Replayed plan journal fold state) :
    JournalHistory journal fold state := by
  refine h.invariant ⟨fun half j => ?_, fun half j => ?_, fun half => ?_, ?_⟩
    fun _ _ _ _ _ _ _ _ hhist hstep => hhist.step hstep
  · have hpending : ∀ status, (SagaState.initialForPlan plan).statusOf j = some status →
        status = .pending := fun status => (initialForPlan_fresh plan).statusOf
    simp only [Recorded, List.not_mem_nil, false_and, exists_false, and_false,
      iff_false, SagaState.begunAt]
    cases hstatus : (SagaState.initialForPlan plan).statusOf j with
    | none => simp
    | some status =>
        rw [hpending status hstatus]
        cases half <;> simp [Half.hasBegun, SagaStepStatus.inCompensation]
  · simp only [Recorded, List.not_mem_nil, false_and, exists_false, iff_false,
      SagaState.liveAt_iff]
    intro hlive
    have := (initialForPlan_fresh plan).statusOf hlive
    cases half <;> cases this
  · have hempty : Keyed ∅ := fun j event hlookup => by simp at hlookup
    cases half <;> exact ⟨hempty, hempty⟩
  · rintro half j ⟨event, hmem, -⟩
    cases hmem

/-! ## Orderly journals -/

/-- **Invariant of orderly journals**: the tables are the live attempts, split by
whether they have become uncertain. -/
structure Tracked (journal : List ActivityJournalEvent) (fold : JournalFold)
    (state : SagaState) : Prop where
  uncertain : ∀ half j, j ∈ fold.uncertain half ↔
    state.liveAt half j = true ∧ Recorded journal half .uncertain j
  events : ∀ half j, j ∈ fold.events half ↔
    state.liveAt half j = true ∧ ¬ Recorded journal half .uncertain j
  begun : ∀ half j, Recorded journal half .uncertain j → state.begunAt half j = true

theorem Tracked.step {journal : List ActivityJournalEvent} {fold fold' : JournalFold}
    {state state' : SagaState} (h : Tracked journal fold state)
    (hhist : JournalHistory journal fold state) {event : ActivityJournalEvent}
    (horderly : Orderly journal event)
    (hstep : JournalStep event fold state fold' state') :
    Tracked (journal ++ [event]) fold' state' := by
  rcases hstep with ⟨half, record, stepId, hrec, -, htab, hattempt⟩ | ⟨hrec, hsame⟩
  · have hmoves := hattempt.moves
    have hbegun : ∀ half' j, Recorded (journal ++ [event]) half' .uncertain j →
        state'.begunAt half' j = true := by
      intro half' j hrecorded
      rw [hattempt.begun]
      rcases (recorded_concat_iff hrec).mp hrecorded with hpast | ⟨rfl, rfl, rfl⟩
      · exact .inl (h.begun half' j hpast)
      · exact .inl (SagaState.begunAt_of_liveAt
          ((hhist.live half' j).mpr ((horderly half' j).1 hrec)))
    -- away from the recorded attempt nothing changes
    have haway : ∀ half' j, ¬ (half' = half ∧ j = stepId) →
        ((state'.liveAt half' j = true ↔ state.liveAt half' j = true) ∧
          (Recorded (journal ++ [event]) half' .uncertain j ↔
            Recorded journal half' .uncertain j)) := by
      intro half' j hne
      refine ⟨hattempt.live_other half' j hne, ?_⟩
      rw [recorded_concat_iff hrec]
      exact or_iff_left fun heq => hne ⟨heq.1, heq.2.1⟩
    refine ⟨fun half' j => ?_, fun half' j => ?_, hbegun⟩
    · rw [htab.mem_uncertain]
      by_cases hhere : half' = half ∧ j = stepId
      · rw [if_pos hhere, recorded_concat_iff hrec]
        obtain ⟨rfl, rfl⟩ := hhere
        cases record with
        | started =>
            have hpast : ¬ Recorded journal half' .uncertain j :=
              fun hr => hmoves.1 (h.begun half' j hr)
            simp [h.uncertain, hpast]
        | result => simp [h.uncertain, hmoves.2, (horderly half' j).2 hrec]
        | uncertain =>
            have hlive :=
              hmoves.mpr ((hhist.live half' j).mpr ((horderly half' j).1 hrec))
            simp [hlive]
        | resolved => simp [hmoves.2]
      · rw [if_neg hhere, h.uncertain, (haway half' j hhere).1, (haway half' j hhere).2]
    · rw [htab.mem_events]
      by_cases hhere : half' = half ∧ j = stepId
      · rw [if_pos hhere, recorded_concat_iff hrec]
        obtain ⟨rfl, rfl⟩ := hhere
        cases record with
        | started =>
            have hpast : ¬ Recorded journal half' .uncertain j :=
              fun hr => hmoves.1 (h.begun half' j hr)
            simp [hmoves.2, hpast]
        | result => simp [hmoves.2]
        | uncertain => simp
        | resolved =>
            have hpast := ((h.uncertain half' j).mp (htab.resolved rfl)).2
            simp [hmoves.2, h.events, hpast]
      · rw [if_neg hhere, h.events, (haway half' j hhere).1, (haway half' j hhere).2]
  · have hkeep : ∀ half' j, Recorded (journal ++ [event]) half' .uncertain j ↔
        Recorded journal half' .uncertain j := by
      intro half' j
      simp [recorded_concat, hrec]
    refine ⟨fun half' j => ?_, fun half' j => ?_, fun half' j => ?_⟩
    · rw [(hsame half').2.1, ((hsame half').2.2 j).1, hkeep, h.uncertain]
    · rw [(hsame half').1, ((hsame half').2.2 j).1, hkeep, h.events]
    · rw [hkeep, ((hsame half').2.2 j).2]
      exact h.begun half' j

theorem Replayed.tracked {plan : ActivityPlan} {journal : List ActivityJournalEvent}
    {fold : JournalFold} {state : SagaState} (h : Replayed plan journal fold state)
    (horderly : OrderlyJournal journal) : Tracked journal fold state := by
  have hnil : Replayed plan [] .empty (SagaState.initialForPlan plan) :=
    replayed_nil.mpr ⟨rfl, rfl⟩
  refine h.invariant ⟨fun half j => ?_, fun half j => ?_, ?_⟩ ?_
  · have := hnil.history.live half j
    cases half <;> simp_all [Recorded, JournalFold.empty, JournalFold.uncertain]
  · have := hnil.history.live half j
    cases half <;> simp_all [Recorded, JournalFold.empty, JournalFold.events]
  · rintro half j ⟨event, hmem, -⟩
    cases hmem
  · rintro earlier event f s f' s' ⟨later, hsplit⟩ hreplayed htracked hstep
    exact htracked.step hreplayed.history (horderly earlier event later hsplit) hstep

/-- An event that leaves only live attempts uncertain is orderly. -/
theorem Replayed.orderly {plan : ActivityPlan} {earlier : List ActivityJournalEvent}
    {event : ActivityJournalEvent} {fold fold' : JournalFold} {state state' : SagaState}
    (h : Replayed plan earlier fold state)
    (hstep : JournalStep event fold state fold' state')
    (hlive : ∀ half j, j ∈ fold'.uncertain half → state'.liveAt half j = true) :
    Orderly earlier event := by
  have hhist := h.history
  intro half stepId
  rcases hstep with ⟨half', record, stepId', hrec, -, htab, hattempt⟩ | ⟨hrec, -⟩
  · have hmoves := hattempt.moves
    constructor
    · intro heq
      obtain ⟨rfl, rfl, rfl⟩ : half' = half ∧ record = .uncertain ∧
          stepId' = stepId := by
        simpa using hrec.symm.trans heq
      refine (hhist.live half' stepId').mp (hmoves.mp (hlive half' stepId' ?_))
      rw [htab.mem_uncertain, if_pos ⟨rfl, rfl⟩]
      exact .inl rfl
    · intro heq hunc
      obtain ⟨rfl, rfl, rfl⟩ : half' = half ∧ record = .result ∧ stepId' = stepId := by
        simpa using hrec.symm.trans heq
      -- an uncertainty already resolved would leave no room for another result
      have hopen : ¬ Recorded earlier half' .resolved stepId' := by
        intro hresolved
        rcases hmoves.1 with hwas | hfresh
        · exact ((hhist.live half' stepId').mp hwas).2.2 hresolved
        · exact hfresh ((hhist.begun half' stepId').mpr ⟨.resolved, by simp, hresolved⟩)
      refine hmoves.2 (hlive half' stepId' ?_)
      rw [htab.mem_uncertain, if_pos ⟨rfl, rfl⟩]
      exact .inr ⟨by simp, hhist.unresolved half' stepId' hunc hopen⟩
  · simp [hrec]

/-! ## The conditions of a projection -/

theorem names_eventsFor {table : EventTable} (hkeyed : Keyed table)
    {keys : List SagaStepId} {stepId : SagaStepId} :
    Names (eventsFor table keys) stepId ↔ stepId ∈ keys ∧ stepId ∈ table := by
  simp only [Names, eventsFor, List.mem_filterMap, mem_sortedBy]
  constructor
  · rintro ⟨event, ⟨key, hkey, hlookup⟩, hid⟩
    obtain rfl : key = stepId := by
      simpa using (hkeyed key event hlookup).symm.trans hid
    exact ⟨hkey, AList.lookup_isSome.mp (by simp [hlookup])⟩
  · rintro ⟨hkey, hmem⟩
    obtain ⟨event, hlookup⟩ :=
      Option.isSome_iff_exists.mp (AList.lookup_isSome.mpr hmem)
    exact ⟨event, ⟨stepId, hkey, hlookup⟩, hkeyed stepId event hlookup⟩

theorem mem_runningIds {state : SagaState} (hnd : state.ids.Nodup)
    {stepId : SagaStepId} :
    stepId ∈ runningIds state ↔ state.liveAt .forward stepId = true := by
  simp only [runningIds, List.mem_dedup, List.mem_map, List.mem_filter,
    decide_eq_true_eq, SagaState.liveAt_iff, SagaState.statusOf_eq_some hnd, Half.live]
  constructor
  · rintro ⟨value, ⟨hmem, hstatus⟩, hid⟩
    exact ⟨value, hmem, hid, hstatus⟩
  · rintro ⟨value, hmem, hid, hstatus⟩
    exact ⟨value, ⟨hmem, hstatus⟩, hid⟩

/-- The conditions describe the unresolved steps when the tables split the live
attempts. -/
theorem describesUnresolved_of_tracked {journal : List ActivityJournalEvent}
    {fold : JournalFold} {state : SagaState} (hnd : state.ids.Nodup)
    (hkeyed : ∀ half, Keyed (fold.events half) ∧ Keyed (fold.uncertain half))
    (h : Tracked journal fold state) :
    DescribesUnresolved (projectFold fold state) := by
  have hsplit : ∀ half j, (state.liveAt half j = true ↔
      j ∈ fold.events half ∨ j ∈ fold.uncertain half) ∧
      ¬ (j ∈ fold.events half ∧ j ∈ fold.uncertain half) := by
    intro half j
    rw [h.events, h.uncertain]
    tauto
  have hinFlight : ∀ j, Names (projectFold fold state).inFlight j ↔
      j ∈ fold.events .forward := by
    intro j
    refine (names_eventsFor (hkeyed .forward).1).trans ?_
    rw [mem_runningIds hnd]
    exact and_iff_right_of_imp fun hmem => ((h.events .forward j).mp hmem).1
  have htable : ∀ {table : EventTable}, Keyed table → ∀ j,
      Names (eventsFor table table.keys) j ↔ j ∈ table := by
    intro table hk j
    rw [names_eventsFor hk, ← AList.mem_keys, and_self]
  have huncertain : ∀ j, Names (projectFold fold state).uncertain j ↔
      j ∈ fold.uncertain .forward := htable (hkeyed .forward).2
  have hcompInFlight : ∀ j, Names (projectFold fold state).compensationInFlight j ↔
      j ∈ fold.events .compensation := htable (hkeyed .compensation).1
  have hcompUncertain : ∀ j, Names (projectFold fold state).compensationUncertain j ↔
      j ∈ fold.uncertain .compensation := htable (hkeyed .compensation).2
  constructor
  · intro j
    rw [hinFlight, huncertain]
    exact SagaState.liveAt_iff.symm.trans (hsplit .forward j).1
  · intro j
    rw [hinFlight, huncertain]
    exact (hsplit .forward j).2
  · intro j
    rw [hcompInFlight, hcompUncertain]
    exact SagaState.liveAt_iff.symm.trans (hsplit .compensation j).1
  · intro j
    rw [hcompInFlight, hcompUncertain]
    exact (hsplit .compensation j).2

/-- Only live attempts are uncertain in a projection that describes its steps. -/
theorem live_of_describesUnresolved {fold : JournalFold} {state : SagaState}
    (hkeyed : ∀ half, Keyed (fold.events half) ∧ Keyed (fold.uncertain half))
    (h : DescribesUnresolved (projectFold fold state)) (half : Half) (j : SagaStepId)
    (hmem : j ∈ fold.uncertain half) : state.liveAt half j = true := by
  rw [SagaState.liveAt_iff]
  have hnamed : Names (eventsFor (fold.uncertain half) (fold.uncertain half).keys) j :=
    (names_eventsFor (hkeyed half).2).mpr ⟨AList.mem_keys.mp hmem, hmem⟩
  cases half with
  | forward => exact (h.running j).mpr (.inr hnamed)
  | compensation => exact (h.compensating j).mpr (.inr hnamed)

/-! ## Accepted journals -/

theorem projectActivityJournal_eq_ok {plan : ActivityPlan}
    {journal : List ActivityJournalEvent} {projection : SagaJournalProjection} :
    projectActivityJournal plan journal = .ok projection ↔
      validateJournal journal = .ok () ∧ ∃ fold state,
        Replayed plan journal fold state ∧
        projectFold fold state = projection := by
  unfold projectActivityJournal
  simp only [bind_ok, mapError_eq_ok, pure, Except.pure, Except.ok.injEq]
  constructor
  · rintro ⟨_, hvalid, fold, hfold, state, hstate, rfl⟩
    exact ⟨hvalid, fold, state, ⟨hfold, hstate⟩, rfl⟩
  · rintro ⟨hvalid, fold, state, ⟨hfold, hstate⟩, rfl⟩
    exact ⟨(), hvalid, fold, hfold, state, hstate, rfl⟩

theorem validateJournal_eq_ok {journal : List ActivityJournalEvent} :
    validateJournal journal = .ok () ↔
      (journal.map (·.ordinal)).Pairwise (· ≤ ·) ∧ (journal.map (·.ordinal)).Nodup ∧
        (journal.map (·.runId)).dedup.length ≤ 1 := by
  have hsorted : journal.map (·.ordinal) =
      (journal.map (·.ordinal)).insertionSort (· ≤ ·) ↔
      (journal.map (·.ordinal)).Pairwise (· ≤ ·) := by
    constructor
    · intro heq
      rw [heq]
      exact List.pairwise_insertionSort _ _
    · exact fun hpair => (hpair.insertionSort_eq).symm
  have hnodup : (journal.map (·.ordinal)).dedup.length = journal.length ↔
      (journal.map (·.ordinal)).Nodup := by
    have hlength : (journal.map (·.ordinal)).length = journal.length :=
      List.length_map _
    rw [← List.dedup_eq_self, ← hlength]
    exact ⟨fun heq => (List.dedup_sublist _).eq_of_length heq, fun heq => by rw [heq]⟩
  unfold validateJournal
  rw [← hsorted, ← hnodup]
  dsimp only
  split
  · rename_i hbad
    simp only [reduceCtorEq, false_iff]
    rintro ⟨heq, hlen, -⟩
    rcases hbad with hbad | hbad
    · exact hbad heq
    · exact hbad hlen
  · rename_i hgood
    obtain ⟨heq, hlen⟩ := not_or.mp hgood
    rw [not_not] at heq hlen
    split
    · simp; omega
    · simp only [true_iff]
      exact ⟨heq, hlen, by omega⟩

theorem validateJournal_of_append {earlier later : List ActivityJournalEvent}
    (h : validateJournal (earlier ++ later) = .ok ()) :
    validateJournal earlier = .ok () := by
  rw [validateJournal_eq_ok] at h ⊢
  simp only [List.map_append] at h
  obtain ⟨hsorted, hnodup, hruns⟩ := h
  refine ⟨(List.pairwise_append.mp hsorted).1, (List.nodup_append.mp hnodup).1,
    le_trans ?_ hruns⟩
  refine ((List.nodup_dedup _).subperm fun runId hmem => ?_).length_le
  exact List.mem_dedup.mpr (List.mem_append_left _ (List.mem_dedup.mp hmem))

/-- **The conditions are right exactly for orderly journals**: at every point of
an accepted journal they describe the unresolved steps if and only if every
event is orderly. -/
theorem describesUnresolved_iff {plan : ActivityPlan}
    {journal : List ActivityJournalEvent} {projection : SagaJournalProjection}
    (h : projectActivityJournal plan journal = .ok projection) :
    DescribesThroughout plan journal ↔ OrderlyJournal journal := by
  obtain ⟨hvalid, fold, state, hreplayed, -⟩ := projectActivityJournal_eq_ok.mp h
  constructor
  · rintro hdescribes earlier event later rfl
    obtain ⟨current, hcurrent, hright⟩ :=
      hdescribes (earlier ++ [event]) later (by simp)
    obtain ⟨-, fold', state', hafter, rfl⟩ := projectActivityJournal_eq_ok.mp hcurrent
    obtain ⟨fold, state, hbefore, hstep⟩ := hafter.concat_inv
    exact hbefore.orderly hstep
      (live_of_describesUnresolved hafter.history.keyed hright)
  · rintro horderly earlier later rfl
    obtain ⟨fold', state', hearlier⟩ := hreplayed.of_append
    refine ⟨_, projectActivityJournal_eq_ok.mpr
      ⟨validateJournal_of_append hvalid, fold', state', hearlier, rfl⟩, ?_⟩
    have htracked := hearlier.tracked fun pre event post hsplit =>
      horderly pre event (post ++ later) (by simp [hsplit])
    exact describesUnresolved_of_tracked hearlier.coherent.ids_nodup
      hearlier.history.keyed htracked

/-! ## A concrete journal: an attempt whose outcome is unknown for a while -/

def hostEvent (ordinal : Nat) (hpos : 1 ≤ ordinal) (kind : ActivityJournalEventKind) :
    ActivityJournalEvent where
  eventId := "event"
  runId := "run"
  ordinal := ordinal
  kind := kind
  activityId := some startHost.activityId.stepId
  eventId_nonempty := by decide
  runId_canonical := by decide
  ordinal_pos := hpos

/-- A direct success after the attempt became uncertain. -/
def lateSuccessJournal : List ActivityJournalEvent :=
  [hostEvent 1 (by decide) .stepStarted, hostEvent 2 (by decide) .stepUncertain,
    hostEvent 3 (by decide) .stepSucceeded]

/-- **A settled step stays uncertain.** The journal is accepted, the step has
succeeded, and the projection still reports its attempt as uncertain. -/
theorem not_describesUnresolved_lateSuccess :
    ∃ projection, projectActivityJournal hostPlan lateSuccessJournal = .ok projection ∧
      projection.state.statusOf startHost.activityId.stepId = some .succeeded ∧
      projection.uncertain = [hostEvent 2 (by decide) .stepUncertain] ∧
      ¬ DescribesUnresolved projection := by
  refine ⟨⟨hostState .succeeded [startHost.activityId.stepId], [],
    [hostEvent 2 (by decide) .stepUncertain], [], []⟩,
    by decide, by decide, rfl, fun h => ?_⟩
  have hrunning := (h.running startHost.activityId.stepId).mpr
    (.inr ⟨hostEvent 2 (by decide) .stepUncertain, by decide, rfl⟩)
  exact absurd hrunning (by decide)

/-- Settled by a resolution instead, the conditions are right throughout. -/
theorem describesUnresolved_resolved_host :
    DescribesThroughout hostPlan
      [hostEvent 1 (by decide) .stepStarted, hostEvent 2 (by decide) .stepUncertain,
        hostEvent 3 (by decide) .stepUncertaintyResolvedSucceeded] := by
  have haccepted : projectActivityJournal hostPlan
      [hostEvent 1 (by decide) .stepStarted, hostEvent 2 (by decide) .stepUncertain,
        hostEvent 3 (by decide) .stepUncertaintyResolvedSucceeded] =
      .ok ⟨hostState .succeeded [startHost.activityId.stepId], [], [], [], []⟩ := by
        decide
  refine (describesUnresolved_iff haccepted).mpr ?_
  intro earlier event later hsplit half stepId
  have hstarted : (hostEvent 1 (by decide) .stepStarted).records =
      some (.forward, .started, startHost.activityId.stepId) := rfl
  have huncertain : (hostEvent 2 (by decide) .stepUncertain).records =
      some (.forward, .uncertain, startHost.activityId.stepId) := rfl
  have hresolved : (hostEvent 3 (by decide) .stepUncertaintyResolvedSucceeded).records =
      some (.forward, .resolved, startHost.activityId.stepId) := rfl
  rcases earlier with _ | ⟨first, _ | ⟨second, _ | ⟨third, rest⟩⟩⟩ <;>
    simp only [List.nil_append, List.cons_append, List.cons.injEq] at hsplit
  · obtain ⟨rfl, -⟩ := hsplit
    simp [hstarted]
  · obtain ⟨rfl, rfl, -⟩ := hsplit
    simp only [huncertain, Recorded, List.mem_singleton, exists_eq_left, hstarted]
    simp +contextual
  · obtain ⟨-, -, rfl, -⟩ := hsplit
    simp [hresolved]
  · simp at hsplit

end ControlPlaneKit.Planning
