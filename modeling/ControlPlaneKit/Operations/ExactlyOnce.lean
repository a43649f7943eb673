import ControlPlaneKit.Operations.CommandReceipts
import Mathlib.Data.List.Pairwise

/-!
# ExactlyOnce — one admission for a key

A call that passes admission leaves a receipt of its intent, and only its own
completion changes it.  So the receipt decides what every later call with the
key is told, whatever else is written in between and wherever calls are cut off.
-/

namespace ControlPlaneKit.Operations

open ControlPlaneKit.Library (TextMap)
open ControlPlaneKit.Library.EventFold (bind_ok)
open ControlPlaneKit.Library.Text (isCanonicalIdentity)

/-! ## One admission -/

/-- **A command in force**: its worker has the scope and its fence is that of the
claim on the run. -/
structure InForce (stores : Stores) (command : RunCommand)
    (run : ActivityRunRecord) : Prop where
  scope : PolicyScope.executionOperate ∈ command.authority.scopes
  row : stores.runs[command.runId]? = some run
  checked : run.Checked
  owned : ∃ request, stores.requests[run.requestId]? = some request ∧
    request.identity.requestId = run.requestId ∧ request.status = .claimed ∧
    request.claim.any (fun claim => claim.fence = command.fence) = true

/-- The rows a command reads are there, whoever holds the claim. -/
structure Located (stores : Stores) (command : RunCommand) : Prop where
  rows : ∃ run, stores.runs[command.runId]? = some run ∧ run.Checked ∧
    ∃ request, stores.requests[run.requestId]? = some request ∧
      request.identity.requestId = run.requestId

section Admission

variable {digest : List Char → String} {fits : ReceiptValue → Bool} {now : Timestamp}
  {stores after : Stores}

theorem runForUpdate_eq_ok {runId : String}
    {run : { run : ActivityRunRecord // run.Checked }} :
    runForUpdate stores runId = .ok run ↔ stores.runs[runId]? = some run.1 := by
  rw [runForUpdate, found_bind]
  constructor
  · rintro ⟨row, hrow, h⟩
    split at h
    · cases h
      exact hrow
    · cases h
  · intro hrow
    exact ⟨run.1, hrow, by rw [dif_pos run.2]; rfl⟩

theorem lockedRequestAndRun_eq_ok {command : RunCommand}
    {request : ExecutionRequestRecord}
    {run : { run : ActivityRunRecord // run.Checked }} :
    lockedRequestAndRun stores command = .ok (request, run) ↔
      stores.runs[command.runId]? = some run.1 ∧
      stores.requests[run.1.requestId]? = some request ∧
        run.1.requestId = request.identity.requestId ∧
        PolicyScope.executionOperate ∈ command.authority.scopes ∧
        request.status = .claimed ∧
        request.claim.any (fun claim => claim.fence = command.fence) = true := by
  rw [lockedRequestAndRun, bind_ok]
  constructor
  · rintro ⟨row, hrow, h⟩
    obtain ⟨found, hfound, h⟩ := found_bind.mp h
    obtain ⟨hlinked, h⟩ := requireThat_bind.mp h
    obtain ⟨_, howns, hreturn⟩ := bind_ok.mp h
    cases hreturn
    obtain ⟨hscope, howns⟩ := requireThat_bind.mp howns
    rw [requireWorkerOwns, requireThat_eq_ok, Bool.and_eq_true, Bool.and_eq_true,
      decide_eq_true_eq] at howns
    exact ⟨runForUpdate_eq_ok.mp hrow, hfound, of_decide_eq_true hlinked,
      of_decide_eq_true hscope, howns.1.1, howns.1.2⟩
  · rintro ⟨hrow, hrequest, hlinked, hscope, hstatus, hclaim⟩
    refine ⟨run, runForUpdate_eq_ok.mpr hrow, found_bind.mpr ⟨request, hrequest, ?_⟩⟩
    refine requireThat_bind.mpr ⟨decide_eq_true hlinked, bind_ok.mpr ⟨(), ?_, rfl⟩⟩
    refine requireThat_bind.mpr ⟨decide_eq_true hscope, requireThat_eq_ok.mpr ?_⟩
    simp [hstatus, hclaim, command.agrees]

theorem inForce_iff {command : RunCommand} {run : ActivityRunRecord} :
    InForce stores command run ↔ ∃ request checked,
      lockedRequestAndRun stores command = .ok (request, ⟨run, checked⟩) := by
  simp only [lockedRequestAndRun_eq_ok]
  constructor
  · rintro ⟨hscope, hrow, hchecked, request, hrequest, hlinked, hstatus, hclaim⟩
    exact ⟨request, hchecked, hrow, hrequest, hlinked.symm, hscope, hstatus, hclaim⟩
  · rintro ⟨request, hchecked, hrow, hrequest, hlinked, hscope, hstatus, hclaim⟩
    exact ⟨hscope, hrow, hchecked, request, hrequest, hlinked.symm, hstatus, hclaim⟩

/-- What an accepted admission has read, and what it has done. -/
inductive Admitted (digest : List Char → String) (now : Timestamp)
    (command : ExecuteActivityRun) (stores : Stores) (run : ActivityRunRecord) :
    Option ExecutionCoordinatorResult → Stores → Prop
  | repeated (receipt : ExecutionCommandReceiptRecord)
      (read : stores.commandReceiptForIdempotency digest command.runId
        command.idempotencyKey =
        .ok (some receipt))
      (intent : receipt.intentFingerprint = command.intent.fingerprint digest) :
      Admitted digest now command stores run (some (receiptAnswer run receipt)) stores
  | passed (checked : run.Checked)
      (unused : stores.receiptRowFor command.runId command.idempotencyKey = none)
      (valid : checkReceipt digest (admissionReceipt digest command now
        ⟨run, checked⟩) = .ok ()) :
      Admitted digest now command stores run none
        { stores with receipts := stores.receipts ++
            [receiptRow (admissionReceipt digest command now ⟨run, checked⟩)] }

theorem commandReceiptForIdempotency_eq_none {runId key : String}
    (h : stores.commandReceiptForIdempotency digest runId key = .ok none) :
    stores.receiptRowFor runId key = none := by
  unfold Stores.commandReceiptForIdempotency at h
  split at h
  · assumption
  · rename_i row _
    cases hread : commandReceipt digest row <;> simp [hread, Except.map] at h

theorem admitCommand_eq_ok {command : ExecuteActivityRun}
    {answer : Option ExecutionCoordinatorResult}
    (h : admitCommand digest fits now command stores = .ok (answer, after)) :
    ∃ run, InForce stores command.toRunCommand run ∧
      Admitted digest now command stores run answer after := by
  obtain ⟨-, h⟩ := requireThat_bind.mp h
  obtain ⟨_, -, h⟩ := bind_ok.mp h
  obtain ⟨⟨request, run⟩, hlocked, h⟩ := bind_ok.mp h
  obtain ⟨prior, hprior, h⟩ := bind_ok.mp h
  refine ⟨run.1, inForce_iff.mpr ⟨request, run.2, hlocked⟩, ?_⟩
  cases prior with
  | some receipt =>
      obtain ⟨hintent, hreturn⟩ := requireThat_bind.mp h
      cases hreturn
      exact .repeated receipt hprior (of_decide_eq_true hintent)
  | none =>
      obtain ⟨_, hvalid, h⟩ := bind_ok.mp h
      obtain ⟨written, hwritten, hreturn⟩ := bind_ok.mp h
      cases hreturn
      obtain ⟨-, hwritten⟩ := requireThat_bind.mp hwritten
      obtain ⟨-, hwritten⟩ := requireThat_bind.mp hwritten
      cases hwritten
      exact .passed run.2 (commandReceiptForIdempotency_eq_none hprior) hvalid

end Admission

/-! ## The rows of the receipts -/

/-- Rows of different commands. -/
def CommandReceiptRow.Apart (a b : CommandReceiptRow) : Prop :=
  ¬ b.Under a.runId a.idempotencyKey

instance : Std.Symm CommandReceiptRow.Apart :=
  ⟨fun _ _ h hunder => h ⟨hunder.1.symm, hunder.2.symm⟩⟩

section Rows

variable {stores : Stores}

theorem receiptRowFor_eq_some (keyed : stores.receipts.Pairwise CommandReceiptRow.Apart)
    {row : CommandReceiptRow} (hmem : row ∈ stores.receipts) {runId key : String}
    (hunder : row.Under runId key) : stores.receiptRowFor runId key = some row := by
  have hfound : (stores.receiptRowFor runId key).isSome := by
    rw [Stores.receiptRowFor, List.find?_isSome]
    exact ⟨row, hmem, decide_eq_true hunder⟩
  obtain ⟨first, hfirst⟩ := Option.isSome_iff_exists.mp hfound
  have hsame := List.find?_some hfirst
  rw [decide_eq_true_eq] at hsame
  rw [hfirst]
  by_contra hne
  refine keyed.forall (List.mem_of_find?_eq_some hfirst) hmem
    (fun heq => hne (congrArg some heq)) ?_
  rw [hsame.1, hsame.2]
  exact hunder

theorem not_under_of_receiptRowFor {runId key : String}
    (h : stores.receiptRowFor runId key = none) {row : CommandReceiptRow}
    (hmem : row ∈ stores.receipts) : ¬ row.Under runId key := by
  have := List.find?_eq_none.mp h row hmem
  simpa using this

end Rows

/-! ## Receipts of calls -/

/-- The receipt of a call that passed admission. -/
structure Receives (digest : List Char → String) (call : Call)
    (receipt : ExecutionCommandReceiptRecord) : Prop where
  run : receipt.runId = call.command.runId
  key : receipt.idempotencyKey = call.command.idempotencyKey
  intent : receipt.intent = call.command.intent
  checked : checkReceipt digest receipt = .ok ()
  committed :
    receipt.completion.map (fun given => given.2.toExecutionCoordinatorResult) =
    call.committed

/-- What the stage of a call says about what it has done. -/
structure Call.Staged (call : Call) : Prop where
  idle : call.passed = false → call.dispatches = 0
  sent : call.stage = .sent → call.passed = false ∧ call.committed = none
  admitted : call.stage = .admitted → call.passed = true ∧ call.committed = none
  finished : ∀ result, call.stage = .finished result →
    call.passed = true ∧ call.committed = none
  completed : ∀ result, call.stage = .completed result →
    call.passed = true ∧ call.committed = some result
  returned : ∀ result, call.stage = .returned result → call.passed = true →
    call.committed = some result

/-- **What holds of the calls and their receipts**: rows of different commands,
one passed call for a command, and its receipt in the table. -/
structure Consistent (digest : List Char → String) (system : CallSystem) : Prop where
  keyed : system.stores.receipts.Pairwise CommandReceiptRow.Apart
  kept : ∀ (index : Nat) (call : Call), system.calls[index]? = some call →
    call.passed = true →
    ∃ receipt, Receives digest call receipt ∧
    receiptRow receipt ∈ system.stores.receipts
  single : ∀ (i j : Nat) (a b : Call), system.calls[i]? = some a →
    system.calls[j]? = some b →
    a.passed = true → b.passed = true → a.command.runId = b.command.runId →
    a.command.idempotencyKey = b.command.idempotencyKey → i = j
  staged : ∀ (index : Nat) (call : Call), system.calls[index]? = some call → call.Staged

/-- What one move changes. -/
inductive MoveCase (digest : List Char → String) (fits : ReceiptValue → Bool)
    (stores : Stores) (call : Call) : Call × Stores → Prop
  | keeps (next : Call) (after : Stores) (receipts : after.receipts = stores.receipts)
      (command : next.command = call.command) (passed : next.passed = call.passed)
      (committed : next.committed = call.committed)
        (staged : call.Staged → next.Staged) :
      MoveCase digest fits stores call (next, after)
  | passes (run : ActivityRunRecord) (now : Timestamp) (after : Stores)
      (sent : call.stage = .sent)
      (admitted : Admitted digest now call.command stores run none after) :
      MoveCase digest fits stores call
        ({ call with stage := .admitted, passed := true }, after)
  | completes (result : ExecutionCoordinatorResult) (now : Timestamp) (after : Stores)
      (finished : call.stage = .finished result)
      (completion : completeCommand digest fits now call.command result stores =
        .ok after) :
      MoveCase digest fits stores call
        ({ call with stage := .completed result, committed := some result }, after)

section Moves

variable {digest : List Char → String} {fits : ReceiptValue → Bool} {stores : Stores}
  {call : Call}

theorem Call.move_cases (move : CallMove) :
    MoveCase digest fits stores call (call.move digest fits stores move) := by
  unfold Call.move
  split
  · rename_i now hstage
    split
    · exact .keeps _ _ rfl rfl rfl rfl fun h =>
        ⟨h.idle, by simp, by simp, by simp, by simp, by simp⟩
    · rename_i result after haccept
      obtain ⟨run, -, hadmitted⟩ := admitCommand_eq_ok haccept
      cases hadmitted
      refine .keeps _ _ rfl rfl rfl rfl fun h =>
        ⟨h.idle, by simp, by simp, by simp, by simp, ?_⟩
      intro _ _ hpassed
      rw [show ({ call with stage := _ } : Call).passed = call.passed from rfl,
        (h.sent hstage).1] at hpassed
      cases hpassed
    · rename_i after haccept
      obtain ⟨run, -, hadmitted⟩ := admitCommand_eq_ok haccept
      exact .passes run now after hstage hadmitted
  · rename_i after dispatches hstage
    refine .keeps _ _ rfl rfl rfl rfl fun h =>
      ⟨?_, by simp [hstage], fun _ => h.admitted hstage,
      by simp [hstage], by simp [hstage], by simp [hstage]⟩
    intro hpassed
    rw [show ({ call with dispatches := _ } : Call).passed = call.passed from rfl,
      (h.admitted hstage).1] at hpassed
    cases hpassed
  · rename_i result hstage
    exact .keeps _ _ rfl rfl rfl rfl fun h => ⟨h.idle, by simp, by simp,
      fun _ _ => h.admitted hstage, by simp, by simp⟩
  · exact .keeps _ _ rfl rfl rfl rfl fun h =>
      ⟨h.idle, by simp, by simp, by simp, by simp, by simp⟩
  · rename_i result now hstage
    split
    · exact .keeps _ _ rfl rfl rfl rfl fun h =>
        ⟨h.idle, by simp, by simp, by simp, by simp, by simp⟩
    · rename_i after hcomplete
      exact .completes result now after hstage hcomplete
  · rename_i result hstage
    refine .keeps _ _ rfl rfl rfl rfl fun h =>
      ⟨h.idle, by simp, by simp, by simp, by simp, ?_⟩
    rintro _ ⟨⟩ _
    exact (h.completed result hstage).2
  all_goals
    exact .keeps _ _ rfl rfl rfl rfl fun h => by
      first
      | exact h
      | exact ⟨h.idle, by simp, by simp, by simp, by simp, by simp⟩

end Moves

/-! ## One step -/

section Preservation

variable {digest : List Char → String} {fits : ReceiptValue → Bool}
  {system : CallSystem}

/-- The call at an index after one call has been replaced. -/
theorem getElem?_set_cases {calls : List Call} {index i : Nat} {call next a : Call}
    (hcall : calls[index]? = some call) (h : (calls.set index next)[i]? = some a) :
    (i = index ∧ a = next) ∨ (i ≠ index ∧ calls[i]? = some a) := by
  rw [List.getElem?_set] at h
  by_cases hi : index = i
  · subst hi
    obtain ⟨hlt, -⟩ := List.getElem?_eq_some_iff.mp hcall
    rw [if_pos rfl, if_pos hlt] at h
    exact .inl ⟨rfl, (Option.some.inj h).symm⟩
  · rw [if_neg hi] at h
    exact .inr ⟨fun heq => hi heq.symm, h⟩

/-- A replaced call with the command and the admission of the old one. -/
theorem getElem?_set_prior {calls : List Call} {index i : Nat} {call next a : Call}
    (hcall : calls[index]? = some call) (command : next.command = call.command)
    (passed : next.passed = call.passed) (h : (calls.set index next)[i]? = some a) :
    ∃ prior, calls[i]? = some prior ∧ a.command = prior.command ∧
    a.passed = prior.passed := by
  rcases getElem?_set_cases hcall h with ⟨rfl, rfl⟩ | ⟨-, hold⟩
  · exact ⟨call, hcall, command, passed⟩
  · exact ⟨a, hold, rfl, rfl⟩

theorem Consistent.single_set (h : Consistent digest system) {index : Nat}
    {call next : Call} (hcall : system.calls[index]? = some call)
    (command : next.command = call.command) (passed : next.passed = call.passed)
    (i j : Nat) (a b : Call) (ha : (system.calls.set index next)[i]? = some a)
    (hb : (system.calls.set index next)[j]? = some b) (hpassedA : a.passed = true)
    (hpassedB : b.passed = true) (hrun : a.command.runId = b.command.runId)
    (hkey : a.command.idempotencyKey = b.command.idempotencyKey) : i = j := by
  obtain ⟨priorA, hpriorA, hcommandA, hsameA⟩ :=
    getElem?_set_prior hcall command passed ha
  obtain ⟨priorB, hpriorB, hcommandB, hsameB⟩ :=
    getElem?_set_prior hcall command passed hb
  rw [hcommandA, hcommandB] at hrun hkey
  exact h.single i j priorA priorB hpriorA hpriorB (hsameA ▸ hpassedA)
    (hsameB ▸ hpassedB) hrun hkey

theorem Consistent.keeps (h : Consistent digest system) {index : Nat} {call next : Call}
    {after : Stores} (hcall : system.calls[index]? = some call)
    (receipts : after.receipts = system.stores.receipts)
    (command : next.command = call.command) (passed : next.passed = call.passed)
    (committed : next.committed = call.committed) (staged : call.Staged → next.Staged) :
    Consistent digest ⟨after, system.calls.set index next⟩ := by
  refine ⟨receipts ▸ h.keyed, ?_, ?_, ?_⟩
  · intro i a ha hpassed
    show ∃ receipt, _ ∧ receiptRow receipt ∈ after.receipts
    rw [receipts]
    rcases getElem?_set_cases hcall ha with ⟨rfl, rfl⟩ | ⟨-, ha⟩
    · obtain ⟨receipt, hreceives, hmem⟩ := h.kept i call hcall (passed ▸ hpassed)
      exact ⟨receipt, ⟨command ▸ hreceives.run, command ▸ hreceives.key,
        command ▸ hreceives.intent, hreceives.checked,
        committed ▸ hreceives.committed⟩, hmem⟩
    · exact h.kept i a ha hpassed
  · exact h.single_set hcall command passed
  · intro i a ha
    rcases getElem?_set_cases hcall ha with ⟨-, rfl⟩ | ⟨-, ha⟩
    · exact staged (h.staged index call hcall)
    · exact h.staged i a ha

/-- A passed call has a row under its run and key. -/
theorem Consistent.used (h : Consistent digest system) {index : Nat} {call : Call}
    (hcall : system.calls[index]? = some call) (hpassed : call.passed = true) :
    system.stores.receiptRowFor call.command.runId call.command.idempotencyKey ≠
      none := by
  obtain ⟨receipt, hreceives, hmem⟩ := h.kept index call hcall hpassed
  intro hnone
  exact not_under_of_receiptRowFor hnone hmem ⟨hreceives.run, hreceives.key⟩

theorem Consistent.passes (h : Consistent digest system) {index : Nat} {call : Call}
    {now : Timestamp} {run : ActivityRunRecord} {after : Stores}
    (hcall : system.calls[index]? = some call) (sent : call.stage = .sent)
    (admitted : Admitted digest now call.command system.stores run none after) :
    Consistent digest
      ⟨after, system.calls.set index { call with
        stage := .admitted, passed := true }⟩ := by
  have huncommitted := ((h.staged index call hcall).sent sent).2
  cases admitted with
  | passed checked unused valid =>
      have hother : ∀ (i : Nat) (a : Call), system.calls[i]? = some a →
          a.passed = true →
          a.command.runId = call.command.runId →
          a.command.idempotencyKey = call.command.idempotencyKey → False := by
        intro i a ha hpassed hrun hkey
        refine h.used ha hpassed ?_
        rw [hrun, hkey]
        exact unused
      refine ⟨?_, ?_, ?_, ?_⟩
      · refine List.pairwise_append.mpr ⟨h.keyed, List.pairwise_singleton .., ?_⟩
        intro row hrow other hother
        rw [List.mem_singleton.mp hother]
        exact fun hunder =>
          not_under_of_receiptRowFor unused hrow ⟨hunder.1.symm, hunder.2.symm⟩
      · intro i a ha hpassed
        rcases getElem?_set_cases hcall ha with ⟨-, rfl⟩ | ⟨-, ha⟩
        · refine ⟨admissionReceipt digest call.command now ⟨run, checked⟩,
            ⟨rfl, rfl, rfl, valid, ?_⟩,
            List.mem_append_right _ (List.mem_singleton.mpr rfl)⟩
          exact huncommitted.symm
        · obtain ⟨receipt, hreceives, hmem⟩ := h.kept i a ha hpassed
          exact ⟨receipt, hreceives, List.mem_append_left _ hmem⟩
      · intro i j a b ha hb hpassedA hpassedB hrun hkey
        rcases getElem?_set_cases hcall ha with ⟨hi, rfl⟩ | ⟨-, holdA⟩ <;>
          rcases getElem?_set_cases hcall hb with ⟨hj, rfl⟩ | ⟨-, holdB⟩
        · exact hi.trans hj.symm
        · exact (hother j b holdB hpassedB hrun.symm hkey.symm).elim
        · exact (hother i a holdA hpassedA hrun hkey).elim
        · exact h.single i j a b holdA holdB hpassedA hpassedB hrun hkey
      · intro i a ha
        rcases getElem?_set_cases hcall ha with ⟨-, rfl⟩ | ⟨-, ha⟩
        · exact ⟨by simp, by simp, fun _ => ⟨rfl, huncommitted⟩, by simp,
            by simp, by simp⟩
        · exact h.staged i a ha

theorem Receives.other {call : Call} {receipt : ExecutionCommandReceiptRecord}
    (h : Receives digest call receipt) {runId key : String}
    (hother : ¬ (call.command.runId = runId ∧ call.command.idempotencyKey = key)) :
    ¬ (receiptRow receipt).Under runId key :=
  fun hunder => hother ⟨h.run.symm.trans hunder.1, h.key.symm.trans hunder.2⟩

theorem completeCommand_eq_ok {command : ExecuteActivityRun} {now : Timestamp}
    {result : ExecutionCoordinatorResult} {stores after : Stores}
    (h : completeCommand digest fits now command result stores = .ok after) :
    ∃ record row read, record.toExecutionCoordinatorResult = result ∧
      stores.receiptRowFor command.runId command.idempotencyKey = some row ∧
      commandReceipt digest (Stores.completedRow row now record) = .ok read ∧
      after = stores.replaceReceipt command.runId command.idempotencyKey
        (Stores.completedRow row now record) := by
  obtain ⟨_, -, h⟩ := bind_ok.mp h
  obtain ⟨record, hrecord, h⟩ := bind_ok.mp h
  obtain ⟨completed, hcompleted, h⟩ := bind_ok.mp h
  obtain ⟨⟨receipt, written⟩, rfl, hreturn⟩ := found_bind.mp h
  cases hreturn
  unfold Stores.completeCommandReceipt at hcompleted
  split at hcompleted
  · cases hcompleted
  · rename_i row hrow
    split at hcompleted
    · obtain ⟨-, hcompleted⟩ := requireThat_bind.mp hcompleted
      obtain ⟨read, hread, hreturn⟩ := bind_ok.mp hcompleted
      cases hreturn
      exact ⟨record, row, _, commandResultRecord_eq_ok hrecord, hrow, hread, rfl⟩
    · cases hcompleted

theorem Consistent.completes (h : Consistent digest system) {index : Nat} {call : Call}
    {now : Timestamp} {result : ExecutionCoordinatorResult} {after : Stores}
    (hcall : system.calls[index]? = some call)
    (finished : call.stage = .finished result) (completion : completeCommand digest fits
      now call.command result system.stores = .ok after) :
    Consistent digest
      ⟨after, system.calls.set index
        { call with stage := .completed result, committed := some result }⟩ := by
  have hpassed := ((h.staged index call hcall).finished result finished).1
  obtain ⟨receipt, hreceives, hmem⟩ := h.kept index call hcall hpassed
  obtain ⟨record, row, read, rfl, hrow, hread, rfl⟩ := completeCommand_eq_ok completion
  obtain rfl : receiptRow receipt = row :=
    Option.some.inj ((receiptRowFor_eq_some h.keyed hmem
      ⟨hreceives.run, hreceives.key⟩).symm.trans hrow)
  have hnew : Receives digest
      { call with
        stage := .completed record.toExecutionCoordinatorResult
        committed := some record.toExecutionCoordinatorResult }
      { receipt with completion := some (now, record) } :=
    ⟨hreceives.run, hreceives.key, hreceives.intent,
      commandReceipt_checked digest hread, rfl⟩
  refine ⟨?_, ?_, ?_, ?_⟩
  · refine List.pairwise_map.mpr (h.keyed.imp ?_)
    intro a b hapart hunder
    refine hapart ?_
    have hsame : ∀ other : CommandReceiptRow,
        (if other.Under call.command.runId call.command.idempotencyKey then
          Stores.completedRow (receiptRow receipt) now record
            else other).runId = other.runId ∧
        (if other.Under call.command.runId call.command.idempotencyKey then
          Stores.completedRow (receiptRow receipt) now record
            else other).idempotencyKey =
            other.idempotencyKey := by
      intro other
      split
      · rename_i hother
        exact ⟨hreceives.run.trans hother.1.symm, hreceives.key.trans hother.2.symm⟩
      · exact ⟨rfl, rfl⟩
    rw [(hsame a).1, (hsame a).2] at hunder
    exact ⟨(hsame b).1.symm.trans hunder.1, (hsame b).2.symm.trans hunder.2⟩
  · intro i a ha hpassedA
    rcases getElem?_set_cases hcall ha with ⟨-, rfl⟩ | ⟨hne, ha⟩
    · refine ⟨_, hnew, List.mem_map.mpr ⟨receiptRow receipt, hmem, ?_⟩⟩
      rw [if_pos ⟨hreceives.run, hreceives.key⟩]
      rfl
    · obtain ⟨kept, hkept, hkeptMem⟩ := h.kept i a ha hpassedA
      refine ⟨kept, hkept, List.mem_map.mpr
        ⟨receiptRow kept, hkeptMem, if_neg (hkept.other ?_)⟩⟩
      rintro ⟨hrun, hkey⟩
      exact hne (h.single i index a call ha hcall hpassedA hpassed hrun hkey)
  · exact h.single_set hcall rfl rfl
  · intro i a ha
    rcases getElem?_set_cases hcall ha with ⟨-, rfl⟩ | ⟨-, ha⟩
    · refine ⟨fun hidle => ?_, by simp, by simp, by simp, fun _ hstage => ?_, by simp⟩
      · rw [show ({ call with stage := _, committed := _ } : Call).passed = call.passed
          from rfl, hpassed] at hidle
        cases hidle
      · cases hstage
        exact ⟨hpassed, rfl⟩
    · exact h.staged i a ha

theorem getElem?_concat_cases {calls : List Call} {new a : Call} {i : Nat}
    (h : (calls ++ [new])[i]? = some a) : calls[i]? = some a ∨ a = new := by
  rw [List.getElem?_append] at h
  split at h
  · exact .inl h
  · exact .inr (List.mem_singleton.mp (List.mem_of_getElem? h))

theorem Consistent.send (h : Consistent digest system) (command : ExecuteActivityRun) :
    Consistent digest { system with
      calls := system.calls ++ [{ command := command }] } := by
  refine ⟨h.keyed, ?_, ?_, ?_⟩
  · intro i a ha hpassed
    rcases getElem?_concat_cases ha with hold | rfl
    · exact h.kept i a hold hpassed
    · cases hpassed
  · intro i j a b ha hb hpassedA hpassedB
    rcases getElem?_concat_cases ha with holdA | rfl
    · rcases getElem?_concat_cases hb with holdB | rfl
      · exact h.single i j a b holdA holdB hpassedA hpassedB
      · cases hpassedB
    · cases hpassedA
  · intro i a ha
    rcases getElem?_concat_cases ha with hold | rfl
    · exact h.staged i a hold
    · exact ⟨by simp, by simp, by simp, by simp, by simp, by simp⟩

theorem Consistent.step (h : Consistent digest system) (step : CallStep) :
    Consistent digest (callStep digest fits system step) := by
  cases step with
  | send command => exact h.send command
  | other after => exact ⟨h.keyed, h.kept, h.single, h.staged⟩
  | move index move =>
      cases hcall : system.calls[index]? with
      | none =>
          simp only [callStep, hcall]
          exact h
      | some call =>
          simp only [callStep, hcall]
          have hcases := @Call.move_cases digest fits system.stores call move
          generalize call.move digest fits system.stores move = moved at hcases
          cases hcases with
          | keeps next after receipts command passed committed staged =>
              exact h.keeps hcall receipts command passed committed staged
          | passes run now after sent admitted => exact h.passes hcall sent admitted
          | completes result now after finished completion =>
              exact h.completes hcall finished completion

/-- **Every run of calls keeps the receipts consistent.** -/
theorem Consistent.run (h : Consistent digest system) (steps : List CallStep) :
    Consistent digest (callRun digest fits system steps) := by
  induction steps generalizing system with
  | nil => exact h
  | cons step rest ih => exact ih (h.step step)

end Preservation

/-! ## What later calls are told -/

section Answers

variable {digest : List Char → String} {fits : ReceiptValue → Bool}
  {system : CallSystem} {index : Nat} {call : Call} {now : Timestamp}

/-- The answer a receipt gives: the committed result, or that nothing is known. -/
def Call.answer (call : Call) (run : ActivityRunRecord) : ExecutionCoordinatorResult :=
  call.committed.getD ⟨run, .uncertain, 0, none⟩

theorem Receives.answer {receipt : ExecutionCommandReceiptRecord}
    (h : Receives digest call receipt) (run : ActivityRunRecord) :
    receiptAnswer run receipt = call.answer run := by
  rw [Call.answer, ← h.committed, receiptAnswer]
  cases receipt.completion <;> rfl

/-- The receipt a later call reads is that of the passed call. -/
theorem Consistent.reads (h : Consistent digest system)
    (hcall : system.calls[index]? = some call) (hpassed : call.passed = true)
    {runId key : String} (hrun : runId = call.command.runId)
    (hkey : key = call.command.idempotencyKey) :
    ∃ receipt, Receives digest call receipt ∧
      system.stores.commandReceiptForIdempotency digest runId key =
        .ok (some receipt) := by
  obtain ⟨receipt, hreceives, hmem⟩ := h.kept index call hcall hpassed
  refine ⟨receipt, hreceives, ?_⟩
  rw [Stores.commandReceiptForIdempotency, hrun, hkey,
    receiptRowFor_eq_some h.keyed hmem ⟨hreceives.run, hreceives.key⟩]
  show (commandReceipt digest (receiptRow receipt)).map some = _
  rw [commandReceipt_receiptRow digest hreceives.checked]
  rfl

/-- What a call in force with the key of a passed one is told. -/
theorem Consistent.told (h : Consistent digest system)
    (hcall : system.calls[index]? = some call) (hpassed : call.passed = true)
    {later : ExecuteActivityRun} {run : ActivityRunRecord}
    (hrun : later.runId = call.command.runId)
    (hkey : later.idempotencyKey = call.command.idempotencyKey)
    (hforce : InForce system.stores later.toRunCommand run) :
    admitCommand digest fits now later system.stores =
      if call.command.intent.fingerprint digest = later.intent.fingerprint digest then
        .ok (some (call.answer run), system.stores)
      else .error (.conflict
        "execution command idempotency key conflicts with prior intent") := by
  obtain ⟨receipt, hreceives, hread⟩ := h.reads hcall hpassed hrun hkey
  obtain ⟨request, checked, hlocked⟩ := inForce_iff.mp hforce
  have hvalid : requireCommandKey later.idempotencyKey = .ok () := by
    rw [requireCommandKey, requireThat_eq_ok, hkey, ← hreceives.key]
    exact checkReceipt_key digest hreceives.checked
  have hfingerprint : receipt.intentFingerprint =
      call.command.intent.fingerprint digest := by
    rw [checkReceipt_fingerprint digest hreceives.checked, hreceives.intent]
  have haccept : admitCommand digest fits now later system.stores =
      (do
        requireThat (receipt.intentFingerprint = later.intent.fingerprint digest)
          (.conflict "execution command idempotency key conflicts with prior intent")
        return (some (receiptAnswer run receipt), system.stores)) := by
    rw [admitCommand, requireThat, if_pos (decide_eq_true hforce.scope)]
    show (requireCommandKey later.idempotencyKey >>= _) = _
    rw [hvalid]
    show (lockedRequestAndRun system.stores later.toRunCommand >>= _) = _
    rw [hlocked]
    show (system.stores.commandReceiptForIdempotency digest later.runId
      later.idempotencyKey >>=
      _) = _
    rw [hread]
    rfl
  rw [haccept, hfingerprint, hreceives.answer]
  by_cases hsame : call.command.intent.fingerprint digest =
    later.intent.fingerprint digest
  · rw [if_pos hsame, requireThat, if_pos (decide_eq_true hsame)]
    rfl
  · rw [if_neg hsame, requireThat, if_neg (by simpa using hsame)]
    rfl

/-- A command whose rows are there and that is not in force is denied. -/
theorem admission_denied {stores : Stores} {later : ExecuteActivityRun}
    (hkey : requireCommandKey later.idempotencyKey = .ok ())
    (hlocated : Located stores later.toRunCommand)
    (hforce : ∀ run, ¬ InForce stores later.toRunCommand run) :
    ∃ message, admitCommand digest fits now later stores =
      .error (.denied message) := by
  obtain ⟨run, hrow, checked, request, hrequest, hlinked⟩ := hlocated.rows
  by_cases hscope : PolicyScope.executionOperate ∈ later.authority.scopes
  · have hdenied : requireCoordinatorOwns request later.authority later.fence =
        .error (.denied "worker does not own the execution request claim") := by
      rw [requireCoordinatorOwns, requireThat, if_pos (decide_eq_true hscope)]
      show requireWorkerOwns request later.authority later.fence = _
      rw [requireWorkerOwns, requireThat, if_neg]
      intro howns
      rw [Bool.and_eq_true, Bool.and_eq_true, decide_eq_true_eq] at howns
      exact hforce run ⟨hscope, hrow, checked, request, hrequest, hlinked,
        howns.1.1, howns.1.2⟩
    refine ⟨"worker does not own the execution request claim", ?_⟩
    rw [admitCommand, requireThat, if_pos (decide_eq_true hscope)]
    show (requireCommandKey later.idempotencyKey >>= _) = _
    rw [hkey]
    show (lockedRequestAndRun stores later.toRunCommand >>= _) = _
    have hread : runForUpdate stores later.runId = .ok ⟨run, checked⟩ :=
      runForUpdate_eq_ok.mpr hrow
    rw [lockedRequestAndRun, hread]
    show ((found stores.requests[run.requestId]? requestNotFound >>= _) >>= _) = _
    rw [found_eq_ok.mpr hrequest]
    show ((requireThat (run.requestId = request.identity.requestId) _ >>= _) >>= _) = _
    rw [requireThat, if_pos (decide_eq_true hlinked.symm)]
    show ((requireCoordinatorOwns request later.authority later.fence >>= _) >>= _) = _
    rw [hdenied]
    rfl
  · refine ⟨"scope execution:operate is missing", ?_⟩
    rw [admitCommand, requireThat, if_neg (by simpa using hscope)]
    rfl

end Answers

/-! ## Every run of calls -/

section Quiet

variable {digest : List Char → String} {fits : ReceiptValue → Bool}
  {stores : Stores} {call : Call}

/-- A call that has not passed admission writes nothing. -/
theorem Call.move_quiet (staged : call.Staged) (move : CallMove)
    (h : (call.move digest fits stores move).1.passed = false) :
    (call.move digest fits stores move).2 = stores := by
  unfold Call.move at h ⊢
  split at h
  · split at h
    · rfl
    · rename_i result after haccept
      obtain ⟨run, -, hadmitted⟩ := admitCommand_eq_ok haccept
      cases hadmitted
      rfl
    · cases h
  · rename_i hstage
    rw [show ({ call with dispatches := _ } : Call).passed = call.passed from rfl,
      (staged.admitted hstage).1] at h
    cases h
  · rfl
  · rfl
  · rename_i result now hstage
    split at h
    · rfl
    · rw [show ({ call with stage := _, committed := _ } : Call).passed = call.passed
        from rfl, (staged.finished result hstage).1] at h
      cases h
  all_goals rfl

end Quiet

/-- **Execution commands are exactly-once per key**: intents and results survive
their encoding, one call passes admission, and its receipt is what every other
call with its run and key is answered with, or refused over. -/
structure ExactlyOnce (digest : List Char → String) (fits : ReceiptValue → Bool)
    (system : CallSystem) : Prop where
  separates : ∀ a b : ExecutionIntent, a.json = b.json → a = b
  encodes : ∀ result : ExecutionCommandResultRecord,
    resultFromDescriptor (resultDescriptor result) = .ok result
  single : ∀ (i j : Nat) (a b : Call), system.calls[i]? = some a →
    system.calls[j]? = some b →
    a.passed = true → b.passed = true → a.command.runId = b.command.runId →
    a.command.idempotencyKey = b.command.idempotencyKey → i = j
  dispatches : ∀ (index : Nat) (call : Call), system.calls[index]? = some call →
    0 < call.dispatches → call.passed = true
  quiet : ∀ (index : Nat) (call : Call) (move : CallMove),
    system.calls[index]? = some call →
    (call.move digest fits system.stores move).1.passed = false →
      (call.move digest fits system.stores move).2 = system.stores
  returned : ∀ (index : Nat) (call : Call) (result : ExecutionCoordinatorResult),
    system.calls[index]? = some call → call.passed = true →
    call.stage = .returned result →
      ∀ run, call.answer run = result
  pending : ∀ (index : Nat) (call : Call), system.calls[index]? = some call →
    call.passed = true →
    call.stage = .admitted ∨ (∃ result, call.stage = .finished result) →
      ∀ run, call.answer run = ⟨run, .uncertain, 0, none⟩
  answers : ∀ (index : Nat) (call : Call), system.calls[index]? = some call →
    call.passed = true →
    ∀ (now : Timestamp) (later : ExecuteActivityRun) (run : ActivityRunRecord),
      later.intent = call.command.intent →
      later.idempotencyKey = call.command.idempotencyKey →
      InForce system.stores later.toRunCommand run →
        admitCommand digest fits now later system.stores =
          .ok (some (call.answer run), system.stores)
  conflicts : ∀ (index : Nat) (call : Call), system.calls[index]? = some call →
    call.passed = true → ∀ (now : Timestamp) (later : ExecuteActivityRun)
      (run : ActivityRunRecord),
      later.runId = call.command.runId →
      later.idempotencyKey = call.command.idempotencyKey →
      digest later.intent.json ≠ digest call.command.intent.json →
      InForce system.stores later.toRunCommand run →
        admitCommand digest fits now later system.stores =
          .error (.conflict
            "execution command idempotency key conflicts with prior intent")
  denies : ∀ (index : Nat) (call : Call), system.calls[index]? = some call →
    call.passed = true → ∀ (now : Timestamp) (later : ExecuteActivityRun),
      later.idempotencyKey = call.command.idempotencyKey →
      Located system.stores later.toRunCommand →
      (∀ run, ¬ InForce system.stores later.toRunCommand run) →
        ∃ message, admitCommand digest fits now later system.stores =
          .error (.denied message)

/-- **One admission for a run and a key**, in every run of calls that are
interleaved, repeated and cut off at will, beside anything else that is written. -/
theorem executesExactlyOnce (digest : List Char → String) (fits : ReceiptValue → Bool)
    (start : Stores) (hstart : start.receipts = []) (steps : List CallStep) :
    ExactlyOnce digest fits (callRun digest fits ⟨start, []⟩ steps) := by
  have hinitial : Consistent digest ⟨start, []⟩ := by
    refine ⟨?_, by simp, by simp, by simp⟩
    show start.receipts.Pairwise CommandReceiptRow.Apart
    rw [hstart]
    exact List.Pairwise.nil
  have h : Consistent digest (callRun digest fits ⟨start, []⟩ steps) :=
    hinitial.run steps
  refine ⟨fun _ _ => ExecutionIntent.json_inj,
    resultFromDescriptor_resultDescriptor, h.single, ?_, ?_, ?_, ?_, ?_, ?_, ?_⟩
  · intro index call hcall hdispatches
    by_contra hpassed
    have := (h.staged index call hcall).idle (by simpa using hpassed)
    omega
  · intro index call move hcall hquiet
    exact call.move_quiet (h.staged index call hcall) move hquiet
  · intro index call result hcall hpassed hreturned run
    rw [Call.answer, (h.staged index call hcall).returned result hreturned hpassed]
    rfl
  · intro index call hcall hpassed hpending run
    have huncommitted : call.committed = none := by
      rcases hpending with hadmitted | ⟨result, hfinished⟩
      · exact ((h.staged index call hcall).admitted hadmitted).2
      · exact ((h.staged index call hcall).finished result hfinished).2
    rw [Call.answer, huncommitted]
    rfl
  · intro index call hcall hpassed now later run hintent hkey hforce
    have hrun : later.runId = call.command.runId :=
      congrArg ExecutionIntent.runId hintent
    rw [h.told hcall hpassed hrun hkey hforce, hintent, if_pos rfl]
  · intro index call hcall hpassed now later run hrun hkey hdigest hforce
    rw [h.told hcall hpassed hrun hkey hforce, if_neg fun heq => hdigest heq.symm]
  · intro index call hcall hpassed now later hkey hlocated hforce
    obtain ⟨receipt, hreceives, -⟩ := h.kept index call hcall hpassed
    refine admission_denied ?_ hlocated hforce
    rw [requireCommandKey, requireThat_eq_ok, hkey, ← hreceives.key]
    exact checkReceipt_key digest hreceives.checked

theorem claimedTexts : validText "request-a" = true ∧ validText "workspace-a" = true ∧
    validText "session-a" = true ∧ validText "plan-a" = true := by decide

theorem claimedRun_canonical : isCanonicalIdentity "run-a" = true := by decide

theorem operateOnly_canonical :
    [PolicyScope.executionOperate].Pairwise fun a b => a.value < b.value := by simp

theorem one_le_three : 1 ≤ 3 := by decide

/-- A run in progress under the claim of one worker. -/
def claimedStores : Stores where
  sessions := (∅ : TextMap _).insert "session-a" .opened
  requests := (∅ : TextMap _).insert "request-a"
    { identity := ⟨"request-a", "workspace-a", "session-a", "plan-a", claimedTexts⟩
      status := .claimed
      claim := some ⟨"worker-a", 1, 5, 500⟩
      claimedExactly := by simp }
  runs := (∅ : TextMap _).insert "run-a"
    ⟨"run-a", "plan-a", "request-a", 1, none, .running, 5, some 6, none, {},
      by decide, by decide⟩
  events := []
  actions := []

def executeAs (worker : String) (hworker : validText worker = true) :
    ExecuteActivityRun where
  runId := "run-a"
  authority := ⟨worker, [.executionOperate], operateOnly_canonical⟩
  fence := ⟨worker, 1⟩
  idempotencyKey := "execute"
  runId_canonical := claimedRun_canonical
  fence_valid := ⟨hworker, le_rfl, by simp [maxGeneration]⟩
  agrees := rfl
  maxEffects := 3
  maxEffects_pos := one_le_three
  key_bounded := by decide

/-- A call that is admitted, works, and is cut off before it completes. -/
def cutOffCall : List CallStep :=
  [ .send (executeAs "worker-a" (by decide))
  , .move 0 (.admission 7)
  , .move 0 (.work claimedStores 2)
  , .move 0 .interrupt ]

/-- What a call is refused with. -/
def refusal {α : Type} : Except ServiceError α → Option ServiceError
  | .error error => some error
  | .ok _ => none

theorem executesExactlyOnce_cutOffCall :
    ExactlyOnce String.ofList (fun _ => true)
      (callRun String.ofList (fun _ => true) ⟨claimedStores, []⟩ cutOffCall) :=
  executesExactlyOnce String.ofList (fun _ => true) claimedStores rfl cutOffCall

/-- Another worker's call with the key of an admitted one is denied: it raises no
conflict. -/
theorem otherWorker_denied :
    ((callRun String.ofList (fun _ => true) ⟨claimedStores, []⟩ cutOffCall).calls.map
      (·.passed)) =
      [true] ∧
    refusal
      (admitCommand String.ofList (fun _ => true) 9 (executeAs "worker-b" (by decide))
        (callRun String.ofList (fun _ => true) ⟨claimedStores, []⟩ cutOffCall).stores) =
        some (.denied "worker does not own the execution request claim") := by
  decide +kernel

end ControlPlaneKit.Operations
