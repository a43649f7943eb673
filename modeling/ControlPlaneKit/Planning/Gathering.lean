import ControlPlaneKit.Planning.Filing

/-!
# Gathering — what the first pass leaves in its tables

`RecordedChanges` says what the compilation holds after the loop over the changes, in
terms of the changes alone; `Gathered` says it after the reconciliations too.
Every table points at drafts of its own operation, and every draft that belongs
in a table is reachable through it.
-/

namespace ControlPlaneKit.Planning

open ControlPlaneKit.Library
open ControlPlaneKit.Library.KeyedMap (Records)
open ControlPlaneKit.Library.Outcome (Succeeds)
open ControlPlaneKit.Topology

namespace Compilation

variable (c : Compilation)

/-! ## What the first loop records -/

/-- The draft at that position belongs in that table under that key. -/
def Files (table : Table) (key : String) (ref : DraftRef) : Prop :=
  ∃ operation, c.Holds ref operation ∧ filing operation = some (table, key)

/-- What is remembered of a lost connection: nothing when it went through the
environment, else the draft of its activity. -/
def ConnectionRef (environment : Prop)
    (operation : SocketConnectionTarget → ActivityOperation) (edgeId : String) :
    Option DraftRef → Prop
  | none => environment
  | some ref =>
      ¬ environment ∧ ∃ target, target.edgeId = edgeId ∧ c.Holds ref (operation target)

end Compilation

/-- The changes reconciled for one owner. -/
def groupOf (owner : ReconciledOwner) (changes : List StructuralChange) :
    List StructuralChange :=
  changes.filter fun change => reconciliationOwner change = some owner

/-- The group of an owner, if it has one. -/
def foundGroup (owner : ReconciledOwner) (changes : List StructuralChange) :
    Option (List StructuralChange) :=
  if (groupOf owner changes).isEmpty then none else some (groupOf owner changes)

/-- The drafts of a change that is not reconciled. -/
def createdBy (change : StructuralChange) : List Draft :=
  match reconciliationOwner change, compileChange change with
  | none, .ok created => created
  | _, _ => []

/-- **What the tables of a compilation say** of the changes seen. -/
structure RecordedTables (history : List StructuralChange)
    (c : Compilation) : Prop where
  tables : ∀ table, Records (c.tables table) (c.Files table)
  addedIngresses : Records c.addedPublicIngresses fun key ingress =>
    .added (.publicIngress key) (.publicIngress ingress) ∈ history
  removedIngresses : Records c.removedPublicIngresses fun key ingress =>
    .removed (.publicIngress key) (.publicIngress ingress) ∈ history
  nodeRuntimes : Records c.removedNodeRuntime fun key runtimeId => ∃ node encoded,
    .removed (.node key) (.node node encoded) ∈ history ∧
      node.lifecycle.ownership = .owned ∧ node.runtimeId = runtimeId
  removedEdges : Records c.removedEdges fun key value =>
    .removed (.edge key) (.edge value.2) ∈ history
  removedRefs : ∀ {key value}, c.removedEdges[key]? = some value →
    c.ConnectionRef (value.2.binding = .environment) .removeSocketConnection key value.1
  modifiedEdges : Records c.modifiedEdges fun key value =>
    .modified (.edge key) (.edge value.2.1) (.edge value.2.2) ∈ history
  modifiedRefs : ∀ {key value}, c.modifiedEdges[key]? = some value →
    c.ConnectionRef (throughEnvironment value.2.1 value.2.2 = true)
      .switchSocketConnection key value.1
  nodeGroups : ∀ nodeId, c.nodeReconciliations[nodeId]? =
    foundGroup (.node nodeId) history
  runtimeGroups : ∀ runtimeId,
    c.runtimeReconciliations[runtimeId]? = foundGroup (.runtime runtimeId) history

/-- **What the loop over the changes has recorded.** -/
structure RecordedChanges (history : List StructuralChange) (c : Compilation) : Prop
    extends RecordedTables history c where
  compiled : ∀ change ∈ history, reconciliationOwner change = none →
    Succeeds (compileChange change)
  drafts_eq : c.drafts = history.flatMap createdBy

section Groups

variable {history : List StructuralChange} {change : StructuralChange}

theorem groupOf_concat (owner : ReconciledOwner) :
    groupOf owner (history ++ [change]) =
      groupOf owner history ++ if reconciliationOwner change = some owner then [change]
        else [] := by
  rw [groupOf, List.filter_append, groupOf]
  congr 1
  split <;> simp_all

theorem foundGroup_concat_of_ne {owner : ReconciledOwner}
    (h : reconciliationOwner change ≠ some owner) :
    foundGroup owner (history ++ [change]) = foundGroup owner history := by
  rw [foundGroup, groupOf_concat, if_neg h, List.append_nil, foundGroup]

theorem foundGroup_concat_self {owner : ReconciledOwner}
    (h : reconciliationOwner change = some owner) :
    foundGroup owner (history ++ [change]) =
      some ((foundGroup owner history).getD [] ++ [change]) := by
  rw [foundGroup, groupOf_concat, if_pos h, foundGroup]
  cases groupOf owner history <;> simp

theorem getElem?_appendGroup {groups : TextMap (List StructuralChange)}
    {key other : String} : (Compilation.appendGroup groups key change)[other]? =
      if key = other then some (groups[key]?.getD [] ++ [change]) else groups[other]? :=
  KeyedMap.getElem?_insert

theorem createdBy_of_reconciled {owner : ReconciledOwner}
    (h : reconciliationOwner change = some owner) : createdBy change = [] := by
  rw [createdBy, h]

theorem createdBy_of_compiled (h : reconciliationOwner change = none)
    {created : List Draft} (hcreated : compileChange change = .ok created) :
    createdBy change = created := by
  rw [createdBy, h, hcreated]

/-- A change about a whole member is not in the history by a reconciled one. -/
theorem mem_concat_reconciled {owner : ReconciledOwner} {other : StructuralChange}
    (h : reconciliationOwner change = some owner)
    (hother : reconciliationOwner other = none) :
    other ∈ history ++ [change] ↔ other ∈ history := by
  rw [List.mem_append, List.mem_singleton, or_iff_left]
  rintro rfl
  rw [hother] at h
  cases h

end Groups

namespace Compilation

variable {step : Compilation → Draft → Compilation}

theorem holds_append {c c' : Compilation} {created : List Draft}
    (h : c'.drafts = c.drafts ++ created) {ref : Nat} {operation : ActivityOperation} :
    c'.Holds ref operation ↔ c.Holds ref operation ∨
      ∃ i draft, created[i]? = some draft ∧ draft.operation = operation ∧
        ref = c.drafts.length + i := by
  simp only [Holds, h, List.getElem?_append]
  by_cases hlt : ref < c.drafts.length
  · simp only [hlt, if_true]
    constructor
    · exact .inl
    · rintro (h | ⟨i, _, _, _, rfl⟩)
      · exact h
      · omega
  · simp only [hlt, if_false, List.getElem?_eq_none (Nat.le_of_not_lt hlt),
      reduceCtorEq, false_and, exists_false, false_or]
    constructor
    · rintro ⟨draft, hdraft, hop⟩
      exact ⟨_, draft, hdraft, hop, by omega⟩
    · rintro ⟨i, draft, hdraft, hop, rfl⟩
      exact ⟨draft, by simpa using hdraft, hop⟩

/-- Filing drafts keeps the tables exact. -/
theorem foldl_tables (hdrafts : ∀ c draft, (step c draft).drafts = c.drafts ++ [draft])
    (htables : ∀ c draft, (step c draft).tables = (c.append draft).tables)
    {c : Compilation} (h : ∀ table, Records (c.tables table) (c.Files table))
    (created : List Draft) (table : Table) :
    Records ((created.foldl step c).tables table)
      ((created.foldl step c).Files table) := by
  have hget : ∀ (c : Compilation) (draft : Draft), (step c draft).tables table =
      insertEntry (c.tables table) (tableEntry table c.drafts.length draft) := by
    intro c draft
    rw [htables, append_tables]
  have hentry : ∀ (ref : DraftRef) (draft : Draft) (key : String) (value : DraftRef),
      tableEntry table ref draft = some (key, value) ↔
        filing draft.operation = some (table, key) ∧ value = ref := by
    intro ref draft key value
    unfold tableEntry
    split
    · rename_i other key' hfiling
      by_cases hother : other = table
      · simp [hother, hfiling, eq_comm]
      · simp [hother, hfiling]
    · rename_i hfiling
      simp [hfiling]
  have hholds :=
    @holds_append c (created.foldl step c) created (foldl_drafts hdrafts created c)
  refine (foldl_records (fun c => c.tables table) (tableEntry table) hdrafts hget
    (h table) created).weaken ?_ ?_
  · rintro key ref (⟨operation, hop, hfiling⟩ | ⟨i, draft, hdraft, hk⟩)
    · exact ⟨operation, hholds.mpr (.inl hop), hfiling⟩
    · obtain ⟨hfiling, rfl⟩ := (hentry ..).mp hk
      exact ⟨_, hholds.mpr (.inr ⟨i, draft, hdraft, rfl, rfl⟩), hfiling⟩
  · rintro key ref ⟨operation, hop, hfiling⟩
    rcases hholds.mp hop with hop | ⟨i, draft, hdraft, rfl, rfl⟩
    · exact ⟨ref, .inl ⟨operation, hop, hfiling⟩⟩
    · exact ⟨_, .inr ⟨i, draft, hdraft, (hentry ..).mpr ⟨hfiling, rfl⟩⟩⟩

end Compilation

/-! ## One round of the loop -/

section Round

variable {history : List StructuralChange} {change : StructuralChange}
  {c c' : Compilation} {token : ChangeToken} {created : List Draft}

theorem RecordedChanges.start : RecordedChanges [] Compilation.start where
  compiled := by simp
  drafts_eq := rfl
  tables table := Records.empty fun key ref => by
    simp [Compilation.Files, Compilation.Holds,
    Compilation.start]
  addedIngresses := Records.empty (by simp)
  removedIngresses := Records.empty (by simp)
  nodeRuntimes := Records.empty (by simp)
  removedEdges := Records.empty (by simp)
  removedRefs h := by simp [Compilation.start] at h
  modifiedEdges := Records.empty (by simp)
  modifiedRefs h := by simp [Compilation.start] at h
  nodeGroups nodeId := by simp [Compilation.start, foundGroup, groupOf]
  runtimeGroups runtimeId := by simp [Compilation.start, foundGroup, groupOf]

/-- A reconciled change only joins its group. -/
theorem RecordedChanges.reconciled {owner : ReconciledOwner}
    (h : RecordedChanges history c) (howner : reconciliationOwner change = some owner)
    (hdrafts : c'.drafts = c.drafts) (htables : c'.tables = c.tables)
    (hadded : c'.addedPublicIngresses = c.addedPublicIngresses)
    (hremoved : c'.removedPublicIngresses = c.removedPublicIngresses)
    (hruntimes : c'.removedNodeRuntime = c.removedNodeRuntime)
    (hremovedEdges : c'.removedEdges = c.removedEdges)
    (hmodifiedEdges : c'.modifiedEdges = c.modifiedEdges)
    (hnodes : ∀ nodeId, c'.nodeReconciliations[nodeId]? =
      foundGroup (.node nodeId) (history ++ [change]))
    (hgroups : ∀ runtimeId, c'.runtimeReconciliations[runtimeId]? =
      foundGroup (.runtime runtimeId) (history ++ [change])) :
    RecordedChanges (history ++ [change]) c' := by
  have hmem : ∀ {other : StructuralChange}, reconciliationOwner other = none →
      (other ∈ history ++ [change] ↔ other ∈ history) := mem_concat_reconciled howner
  have hholds : ∀ {ref operation}, c'.Holds ref operation ↔ c.Holds ref operation := by
    intro ref operation
    rw [Compilation.Holds, hdrafts, Compilation.Holds]
  have href : ∀ {environment operation edgeId ref},
      c'.ConnectionRef environment operation edgeId ref ↔
        c.ConnectionRef environment operation edgeId ref := by
    intro environment operation edgeId ref
    cases ref with
    | none => rfl
    | some ref => simp only [Compilation.ConnectionRef, hholds]
  refine ⟨⟨?_, ?_, ?_, ?_, ?_, ?_, ?_, ?_, hnodes, hgroups⟩, ?_, ?_⟩
  rotate_right 2
  · intro other hother hnone
    exact h.compiled other ((hmem hnone).mp hother) hnone
  · rw [hdrafts, h.drafts_eq, List.flatMap_append, List.flatMap_singleton,
      createdBy_of_reconciled howner, List.append_nil]
  · intro table
    have hfiles : ∀ key ref, c'.Files table key ref ↔ c.Files table key ref := by
      intro key ref
      simp only [Compilation.Files, hholds]
    rw [htables]
    exact (h.tables table).weaken (fun key ref hf => (hfiles key ref).mpr hf)
      fun key ref hf => ⟨ref, (hfiles key ref).mp hf⟩
  · rw [hadded]
    exact h.addedIngresses.weaken (fun _ _ hm => (hmem rfl).mpr hm)
      fun _ v hm => ⟨v, (hmem rfl).mp hm⟩
  · rw [hremoved]
    exact h.removedIngresses.weaken (fun _ _ hm => (hmem rfl).mpr hm)
      fun _ v hm => ⟨v, (hmem rfl).mp hm⟩
  · rw [hruntimes]
    refine h.nodeRuntimes.weaken ?_ ?_
    · rintro key value ⟨node, encoded, hm, hrest⟩
      exact ⟨node, encoded, (hmem rfl).mpr hm, hrest⟩
    · rintro key value ⟨node, encoded, hm, hrest⟩
      exact ⟨value, node, encoded, (hmem rfl).mp hm, hrest⟩
  · rw [hremovedEdges]
    exact h.removedEdges.weaken (fun _ _ hm => (hmem rfl).mpr hm)
      fun _ v hm => ⟨v, (hmem rfl).mp hm⟩
  · intro key value hvalue
    rw [hremovedEdges] at hvalue
    exact href.mpr (h.removedRefs hvalue)
  · rw [hmodifiedEdges]
    exact h.modifiedEdges.weaken (fun _ _ hm => (hmem rfl).mpr hm)
      fun _ v hm => ⟨v, (hmem rfl).mp hm⟩
  · intro key value hvalue
    rw [hmodifiedEdges] at hvalue
    exact href.mpr (h.modifiedRefs hvalue)

/-- What remembers a connection still does once more drafts are there. -/
theorem connectionRef_mono {environment : Prop}
    {operation : SocketConnectionTarget → ActivityOperation} {edgeId : String}
    {ref : Option DraftRef} (hholds : ∀ {ref operation}, c.Holds ref operation →
      c'.Holds ref operation) (h : c.ConnectionRef environment operation edgeId ref) :
    c'.ConnectionRef environment operation edgeId ref := by
  cases ref with
  | none => exact h
  | some ref =>
      obtain ⟨hbinding, target, htarget, hop⟩ := h
      exact ⟨hbinding, target, htarget, hholds hop⟩

section Filed

variable (hgroup : DraftGroup token (Drafts change) created)
  (hnamed : ∀ identity, targetId change = some identity → Text.isBlank identity = false)

include hgroup

/-- A draft of the group at its position. -/
theorem DraftGroup.at {operation : ActivityOperation} (hop : Drafts change operation) :
    ∃ (i : Nat) (draft : Draft), created[i]? = some draft ∧
    draft.operation = operation := by
  obtain ⟨draft, hdraft, rfl⟩ := hgroup.complete operation hop
  obtain ⟨i, hi⟩ := List.getElem?_of_mem hdraft
  exact ⟨i, draft, hi, rfl⟩

theorem DraftGroup.drafts_of_get {i : Nat} {draft : Draft}
    (h : created[i]? = some draft) : Drafts change draft.operation :=
  hgroup.sound draft (List.mem_of_getElem? h)

include hnamed

/-- What the group adds to the runtimes of removed nodes. -/
theorem filed_removedNodeRuntime (h : RecordedChanges history c) :
    Records (created.foldl (Compilation.file change)
      (c.noteConnection change)).removedNodeRuntime
      fun key runtimeId => ∃ node encoded,
        .removed (.node key) (.node node encoded) ∈ history ++ [change] ∧
          node.lifecycle.ownership = .owned ∧ node.runtimeId = runtimeId := by
  have hnoted := h.nodeRuntimes
  rw [← (Compilation.noted_noteConnection change c).removedNodeRuntime] at hnoted
  refine (Compilation.foldl_records (·.removedNodeRuntime)
    (fun _ draft => Compilation.runtimeEntry change draft)
    (Compilation.file_drafts change)
    (Compilation.file_removedNodeRuntime change) hnoted created).weaken ?_ ?_
  · rintro key value (⟨node, encoded, hold, hrest⟩ | ⟨i, draft, hdraft, hentry⟩)
    · exact ⟨node, encoded, List.mem_append_left _ hold, hrest⟩
    · obtain ⟨target, subject, node, encoded, hop, rfl, rfl, rfl⟩ :=
        (Compilation.runtimeEntry_eq_some change draft).mp hentry
      have hdrafts := hgroup.drafts_of_get hdraft
      rw [hop] at hdrafts
      cases hdrafts with
      | stopNode howned => exact ⟨node, encoded, by simp, howned, rfl⟩
  · rintro key value ⟨node, encoded, hm, howned, hruntime⟩
    rcases List.mem_append.mp hm with hold | hnew
    · exact ⟨value, .inl ⟨node, encoded, hold, howned, hruntime⟩⟩
    · obtain rfl := List.mem_singleton.mp hnew
      have hblank := hnamed key (by simp [targetId, memberTargetId, howned])
      obtain ⟨i, draft, hdraft, hop⟩ := hgroup.at
        (@Drafts.stopNode ⟨key, hblank⟩ _ encoded howned)
      exact ⟨node.runtimeId, .inr ⟨i, draft, hdraft,
        (Compilation.runtimeEntry_eq_some _ draft).mpr
          ⟨⟨key, hblank⟩, _, node, encoded, hop, rfl, rfl, rfl⟩⟩⟩

/-- What the group adds to the removed edges. -/
theorem filed_removedEdges (h : RecordedChanges history c) :
    Records (created.foldl (Compilation.file change)
      (c.noteConnection change)).removedEdges
      fun key value => .removed (.edge key) (.edge value.2) ∈ history ++ [change] := by
  have hnoted := Compilation.records_insertEntry h.removedEdges
    (Compilation.notedRemovedEdge change)
  rw [← Compilation.noteConnection_removedEdges] at hnoted
  refine (Compilation.foldl_records (·.removedEdges) (Compilation.removedEntry change)
    (Compilation.file_drafts change) (Compilation.file_removedEdges change) hnoted
    created).weaken ?_ ?_
  · rintro key value ((hold | hnew) | ⟨i, draft, hdraft, hentry⟩)
    · exact List.mem_append_left _ hold
    · obtain ⟨rfl, -⟩ := (Compilation.notedRemovedEdge_eq_some change).mp hnew
      simp
    · obtain ⟨target, subject, hop, rfl, rfl, -⟩ :=
        (Compilation.removedEntry_eq_some change draft).mp hentry
      have hdrafts := hgroup.drafts_of_get hdraft
      rw [hop] at hdrafts
      cases hdrafts with
      | removeConnection => simp
  · intro key value hm
    rcases List.mem_append.mp hm with hold | hnew
    · exact ⟨value, .inl (.inl hold)⟩
    · obtain rfl := List.mem_singleton.mp hnew
      by_cases henvironment : value.2.binding = .environment
      · exact ⟨(none, value.2), .inl (.inr
          ((Compilation.notedRemovedEdge_eq_some _).mpr ⟨rfl, rfl, henvironment⟩))⟩
      · have hblank := hnamed key (by simp [targetId, memberTargetId, henvironment])
        obtain ⟨i, draft, hdraft, hop⟩ := hgroup.at
          (@Drafts.removeConnection ⟨key, hblank⟩ _ henvironment)
        exact ⟨(some _, value.2), .inr ⟨i, draft, hdraft,
          (Compilation.removedEntry_eq_some _ draft).mpr ⟨_, _, hop, rfl, rfl, rfl⟩⟩⟩

/-- What the group adds to the modified edges. -/
theorem filed_modifiedEdges (h : RecordedChanges history c) :
    Records (created.foldl (Compilation.file change)
      (c.noteConnection change)).modifiedEdges
      fun key value =>
        .modified (.edge key) (.edge value.2.1) (.edge value.2.2) ∈
          history ++ [change] := by
  have hnoted := Compilation.records_insertEntry h.modifiedEdges
    (Compilation.notedModifiedEdge change)
  rw [← Compilation.noteConnection_modifiedEdges] at hnoted
  refine (Compilation.foldl_records (·.modifiedEdges) (Compilation.modifiedEntry change)
    (Compilation.file_drafts change) (Compilation.file_modifiedEdges change) hnoted
    created).weaken ?_ ?_
  · rintro key value ((hold | hnew) | ⟨i, draft, hdraft, hentry⟩)
    · exact List.mem_append_left _ hold
    · obtain ⟨rfl, -⟩ := (Compilation.notedModifiedEdge_eq_some change).mp hnew
      simp
    · obtain ⟨target, subject, hop, rfl, rfl, -⟩ :=
        (Compilation.modifiedEntry_eq_some change draft).mp hentry
      have hdrafts := hgroup.drafts_of_get hdraft
      rw [hop] at hdrafts
      cases hdrafts with
      | switchConnection => simp
  · intro key value hm
    rcases List.mem_append.mp hm with hold | hnew
    · exact ⟨value, .inl (.inl hold)⟩
    · obtain rfl := List.mem_singleton.mp hnew
      cases henvironment : throughEnvironment value.2.1 value.2.2 with
      | true =>
          exact ⟨(none, value.2), .inl (.inr
            ((Compilation.notedModifiedEdge_eq_some _).mpr ⟨rfl, rfl, henvironment⟩))⟩
      | false =>
          have hblank := hnamed key (by simp [targetId, modifiedTargetId, henvironment])
          obtain ⟨i, draft, hdraft, hop⟩ := hgroup.at
            (@Drafts.switchConnection ⟨key, hblank⟩ _ _ henvironment)
          exact ⟨(some _, value.2), .inr ⟨i, draft, hdraft,
            (Compilation.modifiedEntry_eq_some _ draft).mpr ⟨_, _, hop, rfl, rfl, rfl⟩⟩⟩

/-- Every removed edge remembers its own activity. -/
theorem filed_removedRefs (h : RecordedChanges history c)
    (hdrafts : (created.foldl (Compilation.file change)
      (c.noteConnection change)).drafts =
      c.drafts ++ created)
    {key : String} {value : Option DraftRef × Edge}
    (hvalue : (created.foldl (Compilation.file change)
      (c.noteConnection change)).removedEdges[key]? = some value) :
    (created.foldl (Compilation.file change) (c.noteConnection change)).ConnectionRef
      (value.2.binding = .environment) .removeSocketConnection key value.1 := by
  have hkept : Records c.removedEdges fun key value =>
      c.removedEdges[key]? = some value :=
    ⟨id, fun h => ⟨_, h⟩⟩
  have hnoted :=
    Compilation.records_insertEntry hkept (Compilation.notedRemovedEdge change)
  rw [← Compilation.noteConnection_removedEdges] at hnoted
  rcases (Compilation.foldl_records (·.removedEdges) (Compilation.removedEntry change)
    (Compilation.file_drafts change) (Compilation.file_removedEdges change) hnoted
    created).sound hvalue with (hold | hnew) | ⟨i, draft, hdraft, hentry⟩
  · exact connectionRef_mono (fun h => (Compilation.holds_append hdrafts).mpr (.inl h))
      (h.removedRefs hold)
  · obtain ⟨-, hnone, henvironment⟩ :=
      (Compilation.notedRemovedEdge_eq_some change).mp hnew
    rw [hnone]
    exact henvironment
  · obtain ⟨target, subject, hop, rfl, rfl, href⟩ :=
      (Compilation.removedEntry_eq_some change draft).mp hentry
    have hdrafted := hgroup.drafts_of_get hdraft
    rw [hop] at hdrafted
    rw [href, (Compilation.noted_noteConnection _ c).drafts]
    cases hdrafted with
    | removeConnection hbinding =>
        exact ⟨hbinding, target, rfl,
          (Compilation.holds_append hdrafts).mpr (.inr ⟨i, draft, hdraft, hop, rfl⟩)⟩

/-- Every modified edge remembers its own activity. -/
theorem filed_modifiedRefs (h : RecordedChanges history c)
    (hdrafts : (created.foldl (Compilation.file change)
      (c.noteConnection change)).drafts =
      c.drafts ++ created)
    {key : String} {value : Option DraftRef × Edge × Edge}
    (hvalue : (created.foldl (Compilation.file change)
      (c.noteConnection change)).modifiedEdges[key]? = some value) :
    (created.foldl (Compilation.file change) (c.noteConnection change)).ConnectionRef
      (throughEnvironment value.2.1 value.2.2 = true) .switchSocketConnection
      key value.1 := by
  have hkept : Records c.modifiedEdges fun key value =>
      c.modifiedEdges[key]? = some value :=
    ⟨id, fun h => ⟨_, h⟩⟩
  have hnoted :=
    Compilation.records_insertEntry hkept (Compilation.notedModifiedEdge change)
  rw [← Compilation.noteConnection_modifiedEdges] at hnoted
  rcases (Compilation.foldl_records (·.modifiedEdges) (Compilation.modifiedEntry change)
    (Compilation.file_drafts change) (Compilation.file_modifiedEdges change) hnoted
    created).sound hvalue with (hold | hnew) | ⟨i, draft, hdraft, hentry⟩
  · exact connectionRef_mono (fun h => (Compilation.holds_append hdrafts).mpr (.inl h))
      (h.modifiedRefs hold)
  · obtain ⟨-, hnone, henvironment⟩ :=
      (Compilation.notedModifiedEdge_eq_some change).mp hnew
    rw [hnone]
    exact henvironment
  · obtain ⟨target, subject, hop, rfl, rfl, href⟩ :=
      (Compilation.modifiedEntry_eq_some change draft).mp hentry
    have hdrafted := hgroup.drafts_of_get hdraft
    rw [hop] at hdrafted
    rw [href, (Compilation.noted_noteConnection _ c).drafts]
    cases hdrafted with
    | switchConnection hbinding =>
        exact ⟨by simp [hbinding], target, rfl,
          (Compilation.holds_append hdrafts).mpr (.inr ⟨i, draft, hdraft, hop, rfl⟩)⟩

end Filed

/-- A change that is not reconciled has its drafts filed. -/
theorem RecordedChanges.filed (h : RecordedChanges history c)
    (htoken : changeToken change = .ok token)
    (hnone : reconciliationOwner change = none)
    (hcreated : compileChange change = .ok created) :
    RecordedChanges (history ++ [change])
      (created.foldl (Compilation.file change) (c.noteConnection change)) := by
  have hgroup := compileChange_group htoken hcreated
  have hnamed := (succeeds_compileChange htoken).mp ⟨created, hcreated⟩
  set c₀ := c.noteConnection change with hc₀
  set c' := created.foldl (Compilation.file change) c₀ with hc'
  have hdrafts₀ : c₀.drafts = c.drafts :=
    (Compilation.noted_noteConnection change c).drafts
  have hdrafts : c'.drafts = c.drafts ++ created := by
    rw [hc', Compilation.foldl_drafts (Compilation.file_drafts change), hdrafts₀]
  have hholds : ∀ {ref operation}, c.Holds ref operation → c'.Holds ref operation :=
    fun h => (Compilation.holds_append hdrafts).mpr (.inl h)
  have hmem : ∀ {other}, other ∈ history ++ [change] ↔
      other ∈ history ∨ other = change := by
    simp
  have hcreatedMem : ∀ {i : Nat} {draft : Draft}, created[i]? = some draft →
      draft ∈ created :=
    fun h => List.mem_of_getElem? h
  refine ⟨⟨?_, ?_, ?_, ?_, ?_, ?_, ?_, ?_, ?_, ?_⟩, ?_, ?_⟩
  rotate_right 2
  · intro other hother hother'
    rcases hmem.mp hother with hold | rfl
    · exact h.compiled other hold hother'
    · exact ⟨created, hcreated⟩
  · rw [hdrafts, h.drafts_eq, List.flatMap_append, List.flatMap_singleton,
      createdBy_of_compiled hnone hcreated]
  · refine Compilation.foldl_tables (Compilation.file_drafts change)
      (fun c draft => (Compilation.filed_file change c draft).tables)
      (fun table => ?_) created
    have hfiles : ∀ key ref, c₀.Files table key ref ↔ c.Files table key ref := by
      intro key ref
      simp only [Compilation.Files, Compilation.Holds, hdrafts₀]
    rw [hc₀, (Compilation.noted_noteConnection change c).tables]
    exact (h.tables table).weaken (fun key ref hf => (hfiles key ref).mpr hf)
      fun key ref hf => ⟨ref, (hfiles key ref).mp hf⟩
  · rw [hc', Compilation.foldl_frame fun c draft =>
        (Compilation.filed_file change c draft).addedPublicIngresses, hc₀,
      Compilation.noteConnection_addedPublicIngresses]
    refine (Compilation.records_insertEntry h.addedIngresses _).weaken ?_ ?_
    · rintro key ingress (hold | hnew)
      · exact hmem.mpr (.inl hold)
      · exact hmem.mpr (.inr ((Compilation.notedAdded_eq_some change).mp hnew).symm)
    · intro key ingress hm
      refine ⟨ingress, (hmem.mp hm).imp_right fun heq => ?_⟩
      exact (Compilation.notedAdded_eq_some change).mpr heq.symm
  · rw [hc', Compilation.foldl_frame fun c draft =>
        (Compilation.filed_file change c draft).removedPublicIngresses, hc₀,
      Compilation.noteConnection_removedPublicIngresses]
    refine (Compilation.records_insertEntry h.removedIngresses _).weaken ?_ ?_
    · rintro key ingress (hold | hnew)
      · exact hmem.mpr (.inl hold)
      · exact hmem.mpr (.inr ((Compilation.notedRemoved_eq_some change).mp hnew).symm)
    · intro key ingress hm
      refine ⟨ingress, (hmem.mp hm).imp_right fun heq => ?_⟩
      exact (Compilation.notedRemoved_eq_some change).mpr heq.symm
  · exact filed_removedNodeRuntime hgroup hnamed h
  · exact filed_removedEdges hgroup hnamed h
  · exact filed_removedRefs hgroup hnamed h hdrafts
  · exact filed_modifiedEdges hgroup hnamed h
  · exact filed_modifiedRefs hgroup hnamed h hdrafts
  · intro nodeId
    rw [hc', Compilation.foldl_frame fun c draft =>
        (Compilation.filed_file change c draft).nodeReconciliations, hc₀,
      (Compilation.noted_noteConnection change c).nodeReconciliations, h.nodeGroups,
      foundGroup_concat_of_ne (by simp [hnone])]
  · intro runtimeId
    rw [hc', Compilation.foldl_frame fun c draft =>
        (Compilation.filed_file change c draft).runtimeReconciliations, hc₀,
      (Compilation.noted_noteConnection change c).runtimeReconciliations,
      h.runtimeGroups, foundGroup_concat_of_ne (by simp [hnone])]

theorem RecordedChanges.record (h : RecordedChanges history c)
    (htoken : Succeeds (changeToken change)) (hstep : c.record change = .ok c') :
    RecordedChanges (history ++ [change]) c' := by
  obtain ⟨token, htoken⟩ := htoken
  unfold Compilation.record at hstep
  split at hstep
  · rename_i nodeId howner
    cases hstep
    rw [c.noteConnection_of_reconciled change howner]
    refine h.reconciled howner rfl rfl rfl rfl rfl rfl rfl
      (fun other => ?_) fun other => ?_
    · rw [getElem?_appendGroup]
      split
      · rename_i heq
        subst heq
        rw [foundGroup_concat_self howner, h.nodeGroups]
      · rename_i hne
        rw [foundGroup_concat_of_ne (by simp [howner, hne]), h.nodeGroups]
    · rw [foundGroup_concat_of_ne (by simp [howner]), h.runtimeGroups]
  · rename_i runtimeId howner
    cases hstep
    rw [c.noteConnection_of_reconciled change howner]
    refine h.reconciled howner rfl rfl rfl rfl rfl rfl rfl
      (fun other => ?_) fun other => ?_
    · rw [foundGroup_concat_of_ne (by simp [howner]), h.nodeGroups]
    · rw [getElem?_appendGroup]
      split
      · rename_i heq
        subst heq
        rw [foundGroup_concat_self howner, h.runtimeGroups]
      · rename_i hne
        rw [foundGroup_concat_of_ne (by simp [howner, hne]), h.runtimeGroups]
  · rename_i hnone
    obtain ⟨created, hcreated, rfl⟩ := Outcome.map_eq_ok.mp hstep
    exact h.filed htoken hnone hcreated

/-- **The loop over the changes** records them. -/
theorem recorded_of_run {changes : List StructuralChange}
    (htokens : ∀ change ∈ changes, Succeeds (changeToken change))
    (h : changes.foldlM Compilation.record Compilation.start = .ok c) :
    RecordedChanges changes c := by
  refine EventFold.run_history (I := fun history c =>
    (∀ change ∈ history, Succeeds (changeToken change)) → RecordedChanges history c)
    (fun _ => RecordedChanges.start) ?_ h htokens
  intro history c change c' _ hrecorded hstep htokens
  exact (hrecorded fun other hother => htokens other (by simp [hother])).record
    (htokens change (by simp)) hstep

theorem succeeds_record (c : Compilation) (change : StructuralChange) :
    Succeeds (c.record change) ↔
      (reconciliationOwner change = none → Succeeds (compileChange change)) := by
  unfold Compilation.record
  split
  · rename_i howner
    simp [howner, Outcome.succeeds_ok]
  · rename_i howner
    simp [howner, Outcome.succeeds_ok]
  · rename_i hnone
    simp [hnone, Outcome.succeeds_map]

end Round

/-! ## What drafts are created for -/

/-- A change on its own, or the reconciled changes of one owner. -/
inductive DraftSource where
  | single (change : StructuralChange)
  | nodeGroup (nodeId : String) (changes : List StructuralChange)
  | runtimeGroup (runtimeId : String) (changes : List StructuralChange)

namespace DraftSource

def token : DraftSource → Except PyError ChangeToken
  | .single change => changeToken change
  | .nodeGroup _ changes => changesToken changes
  | .runtimeGroup _ changes => changesToken changes

def created : DraftSource → Except PyError (List Draft)
  | .single change => compileChange change
  | .nodeGroup nodeId changes => reconcileNodeDrafts changes nodeId
  | .runtimeGroup runtimeId changes => reconcileRuntimeDrafts changes runtimeId

def drafts (source : DraftSource) : List Draft :=
  match source.created with
  | .ok created => created
  | .error _ => []

/-- The operations a source is drafted as. -/
def Operations : DraftSource → ActivityOperation → Prop
  | .single change => Drafts change
  | .nodeGroup nodeId _ => ReconcilesNode nodeId
  | .runtimeGroup runtimeId _ => ReconcilesRuntime runtimeId

/-- The identity that becomes a target. -/
def targetId : DraftSource → Option String
  | .single change => Planning.targetId change
  | .nodeGroup nodeId _ => some nodeId
  | .runtimeGroup runtimeId _ => some runtimeId

theorem drafts_eq {source : DraftSource} {created : List Draft}
    (h : source.created = .ok created) : source.drafts = created := by
  rw [drafts, h]

/-- **The drafts of one source.** -/
theorem group {source : DraftSource} {token : ChangeToken}
    (htoken : source.token = .ok token) (hcreated : Succeeds source.created) :
    DraftGroup token source.Operations source.drafts := by
  obtain ⟨created, hcreated⟩ := hcreated
  rw [drafts_eq hcreated]
  cases source with
  | single change => exact compileChange_group htoken hcreated
  | nodeGroup nodeId changes => exact reconcileNodeDrafts_group htoken hcreated
  | runtimeGroup runtimeId changes => exact reconcileRuntimeDrafts_group htoken hcreated

theorem succeeds_created {source : DraftSource} (htoken : Succeeds source.token) :
    Succeeds source.created ↔
      ∀ identity, source.targetId = some identity → Text.isBlank identity = false := by
  obtain ⟨token, htoken⟩ := htoken
  cases source with
  | single change => exact succeeds_compileChange htoken
  | nodeGroup nodeId changes =>
      rw [created, succeeds_reconcileNodeDrafts htoken]
      simp [targetId]
  | runtimeGroup runtimeId changes =>
      rw [created, succeeds_reconcileRuntimeDrafts htoken]
      simp [targetId]

end DraftSource

/-- **The sources of a diff**: every change that is not reconciled, and every
owner's group of changes that are. -/
inductive IsSource (changes : List StructuralChange) : DraftSource → Prop where
  | single {change : StructuralChange} (hmem : change ∈ changes)
      (hnone : reconciliationOwner change = none) : IsSource changes (.single change)
  | nodeGroup {nodeId : String} {group : List StructuralChange}
      (hgroup : foundGroup (.node nodeId) changes = some group) :
      IsSource changes (.nodeGroup nodeId group)
  | runtimeGroup {runtimeId : String} {group : List StructuralChange}
      (hgroup : foundGroup (.runtime runtimeId) changes = some group) :
      IsSource changes (.runtimeGroup runtimeId group)

/-- **What the whole first pass leaves.** -/
structure Gathered (changes : List StructuralChange) (c : Compilation) : Prop
    extends RecordedTables changes c where
  sources : ∃ sources : List DraftSource,
    c.drafts = sources.flatMap DraftSource.drafts ∧
    (∀ source, source ∈ sources ↔ IsSource changes source) ∧
    (∀ source ∈ sources, Succeeds source.created) ∧ (changes.Nodup → sources.Nodup)

section Reconciliations

variable {changes history : List StructuralChange} {c c' : Compilation}

/-- Appending drafts adds to the tables alone. -/
theorem RecordedTables.append (h : RecordedTables history c) (created : List Draft) :
    RecordedTables history (created.foldl Compilation.append c) := by
  have hdrafts : (created.foldl Compilation.append c).drafts = c.drafts ++ created :=
    Compilation.foldl_drafts (fun _ _ => rfl) created c
  have hframe : ∀ {β : Type} (get : Compilation → β),
      (∀ c draft, get (Compilation.append c draft) = get c) →
      get (created.foldl Compilation.append c) = get c :=
    fun get hget => Compilation.foldl_frame hget created c
  have hmono : ∀ {ref operation}, c.Holds ref operation →
      (created.foldl Compilation.append c).Holds ref operation :=
    fun h => (Compilation.holds_append hdrafts).mpr (.inl h)
  refine ⟨Compilation.foldl_tables (fun _ _ => rfl) (fun _ _ => rfl) h.tables created,
    ?_, ?_, ?_, ?_, ?_, ?_, ?_, ?_, ?_⟩
  · rw [hframe (·.addedPublicIngresses) fun _ _ => rfl]
    exact h.addedIngresses
  · rw [hframe (·.removedPublicIngresses) fun _ _ => rfl]
    exact h.removedIngresses
  · rw [hframe (·.removedNodeRuntime) fun _ _ => rfl]
    exact h.nodeRuntimes
  · rw [hframe (·.removedEdges) fun _ _ => rfl]
    exact h.removedEdges
  · rw [hframe (·.removedEdges) fun _ _ => rfl]
    exact fun hvalue => connectionRef_mono hmono (h.removedRefs hvalue)
  · rw [hframe (·.modifiedEdges) fun _ _ => rfl]
    exact h.modifiedEdges
  · rw [hframe (·.modifiedEdges) fun _ _ => rfl]
    exact fun hvalue => connectionRef_mono hmono (h.modifiedRefs hvalue)
  · rw [hframe (·.nodeReconciliations) fun _ _ => rfl]
    exact h.nodeGroups
  · rw [hframe (·.runtimeReconciliations) fun _ _ => rfl]
    exact h.runtimeGroups

/-- Appending the drafts of sources in turn. -/
theorem foldlM_groups {α : Type} {step : Compilation → α → Except PyError Compilation}
    (source : α → DraftSource)
    (hstep : ∀ c a, step c a = (source a).created.map fun created =>
      created.foldl Compilation.append c)
    {entries : List α} (h : RecordedTables history c)
    (hrun : entries.foldlM step c = .ok c') : RecordedTables history c' ∧
      c'.drafts = c.drafts ++ (entries.map source).flatMap DraftSource.drafts ∧
      ∀ a ∈ entries, Succeeds (source a).created := by
  induction entries generalizing c with
  | nil =>
      rw [EventFold.run_nil] at hrun
      subst hrun
      exact ⟨h, by simp, by simp⟩
  | cons a rest ih =>
      obtain ⟨m, hm, hrest⟩ := EventFold.run_cons.mp hrun
      rw [hstep] at hm
      obtain ⟨created, hcreated, rfl⟩ := Outcome.map_eq_ok.mp hm
      obtain ⟨htables, hdrafts, hall⟩ := ih (h.append created) hrest
      refine ⟨htables, ?_, List.forall_mem_cons.mpr ⟨⟨created, hcreated⟩, hall⟩⟩
      rw [hdrafts, Compilation.foldl_drafts (fun _ _ => rfl), List.map_cons,
        List.flatMap_cons, DraftSource.drafts_eq hcreated, List.append_assoc]

theorem succeeds_recordNodeGroup (c : Compilation)
    (group : String × List StructuralChange) :
    Succeeds (c.recordNodeGroup group) ↔
      Succeeds (reconcileNodeDrafts group.2 group.1) :=
  Outcome.succeeds_map

theorem succeeds_recordRuntimeGroup (c : Compilation)
    (group : String × List StructuralChange) :
    Succeeds (c.recordRuntimeGroup group) ↔
      Succeeds (reconcileRuntimeDrafts group.2 group.1) :=
  Outcome.succeeds_map

/-- The drafts of the loop, source by source. -/
theorem flatMap_createdBy (changes : List StructuralChange) :
    changes.flatMap createdBy =
      ((changes.filter fun change => reconciliationOwner change = none).map
        DraftSource.single).flatMap DraftSource.drafts := by
  induction changes with
  | nil => rfl
  | cons change rest ih =>
      rw [List.flatMap_cons, ih, List.filter_cons]
      cases howner : reconciliationOwner change with
      | some owner => simp [createdBy_of_reconciled howner]
      | none =>
          simp only [decide_true, if_true, List.map_cons, List.flatMap_cons]
          congr 1
          rw [createdBy, howner, DraftSource.drafts, DraftSource.created]
          cases compileChange change <;> rfl

theorem nodup_entries {α : Type} (t : TextMap α) : t.toList.Nodup := by
  have hkeys := Std.ExtTreeMap.distinct_keys_toList (t := t)
  refine hkeys.imp fun h heq => h ?_
  rw [heq]
  exact Std.ReflCmp.compare_self

/-- **The first pass** gathers the drafts of every source. -/
theorem gathered_of_gather (htokens : ∀ change ∈ changes, Succeeds (changeToken change))
    (h : Compilation.gather changes = .ok c) : Gathered changes c := by
  simp only [Compilation.gather, EventFold.bind_ok] at h
  obtain ⟨recorded, hrecorded, nodes, hnodes, hruntimes⟩ := h
  have hr := recorded_of_run htokens hrecorded
  obtain ⟨htables, hdrafts, hcreated⟩ := foldlM_groups
    (fun group : String × List StructuralChange => .nodeGroup group.1 group.2)
    (fun _ _ => rfl) hr.toRecordedTables hnodes
  obtain ⟨htables', hdrafts', hcreated'⟩ := foldlM_groups
    (fun group : String × List StructuralChange => .runtimeGroup group.1 group.2)
    (fun _ _ => rfl) htables hruntimes
  refine ⟨htables', (changes.filter fun change => reconciliationOwner change = none).map
    DraftSource.single ++ recorded.nodeReconciliations.toList.map
      (fun group => .nodeGroup group.1 group.2) ++
      recorded.runtimeReconciliations.toList.map
      (fun group => .runtimeGroup group.1 group.2), ?_, ?_, ?_, ?_⟩
  · rw [hdrafts', hdrafts, hr.drafts_eq, flatMap_createdBy, List.flatMap_append,
      List.flatMap_append]
  · intro source
    simp only [List.mem_append, List.mem_map, List.mem_filter, decide_eq_true_eq,
      Prod.exists, KeyedMap.mem_toList, hr.nodeGroups, hr.runtimeGroups]
    constructor
    · rintro ((⟨change, ⟨hmem, hnone⟩, rfl⟩ | ⟨nodeId, group, hgroup, rfl⟩) |
        ⟨runtimeId, group, hgroup, rfl⟩)
      · exact .single hmem hnone
      · exact .nodeGroup hgroup
      · exact .runtimeGroup hgroup
    · intro hsource
      cases hsource with
      | single hmem hnone => exact .inl (.inl ⟨_, ⟨hmem, hnone⟩, rfl⟩)
      | nodeGroup hgroup => exact .inl (.inr ⟨_, _, hgroup, rfl⟩)
      | runtimeGroup hgroup => exact .inr ⟨_, _, hgroup, rfl⟩
  · intro source hsource
    simp only [List.mem_append, List.mem_map, List.mem_filter,
      decide_eq_true_eq] at hsource
    rcases hsource with (⟨change, ⟨hmem, hnone⟩, rfl⟩ | ⟨group, hgroup, rfl⟩) |
      ⟨group, hgroup, rfl⟩
    · exact hr.compiled change hmem hnone
    · exact hcreated group hgroup
    · exact hcreated' group hgroup
  · intro hnodup
    have hsingle : Function.Injective DraftSource.single := fun a b h => by cases h; rfl
    have hnode : Function.Injective
        fun group : String × List StructuralChange =>
          DraftSource.nodeGroup group.1 group.2 :=
      fun a b h => by cases a; cases b; cases h; rfl
    have hruntime : Function.Injective
        fun group : String × List StructuralChange =>
          DraftSource.runtimeGroup group.1 group.2 :=
      fun a b h => by cases a; cases b; cases h; rfl
    rw [List.nodup_append, List.nodup_append]
    refine ⟨⟨(hnodup.filter _).map hsingle, (nodup_entries _).map hnode, ?_⟩,
      (nodup_entries _).map hruntime, ?_⟩
    · simp only [List.mem_map]
      rintro _ ⟨change, -, rfl⟩ _ ⟨group, -, rfl⟩ h
      cases h
    · simp only [List.mem_append, List.mem_map]
      rintro _ (⟨change, -, rfl⟩ | ⟨group, -, rfl⟩) _ ⟨other, -, rfl⟩ h
      · cases h
      · cases h

theorem succeeds_changeToken (change : StructuralChange) :
    Succeeds (changeToken change) ↔ change.isRenderable = true := by
  rw [changeToken, Outcome.succeeds_map, PyValue.succeeds_dumps,
    StructuralChange.isRenderable_descriptor]

theorem succeeds_changesToken {group : List StructuralChange}
    (h : ∀ change ∈ group, change.isRenderable = true) :
    Succeeds (changesToken group) := by
  rw [changesToken, Outcome.succeeds_map, PyValue.succeeds_dumps]
  exact isRenderable_list_map fun change hchange => by
    rw [StructuralChange.isRenderable_descriptor, h change hchange]

theorem mem_of_foundGroup {owner : ReconciledOwner} {group : List StructuralChange}
    (h : foundGroup owner changes = some group) {change : StructuralChange} :
    change ∈ group ↔ change ∈ changes ∧ reconciliationOwner change = some owner := by
  unfold foundGroup at h
  split at h
  · cases h
  · cases h
    simp [groupOf]

/-- Where every change has a JSON text, so has every source. -/
theorem IsSource.succeeds_token
    (hrender : ∀ change ∈ changes, change.isRenderable = true) {source : DraftSource}
    (h : IsSource changes source) : Succeeds source.token := by
  cases h with
  | single hmem hnone => exact (succeeds_changeToken _).mpr (hrender _ hmem)
  | nodeGroup hgroup =>
      exact succeeds_changesToken fun change hchange =>
        hrender change ((mem_of_foundGroup hgroup).mp hchange).1
  | runtimeGroup hgroup =>
      exact succeeds_changesToken fun change hchange =>
        hrender change ((mem_of_foundGroup hgroup).mp hchange).1

/-- **When the first pass succeeds**: no source has a blank target. -/
theorem succeeds_gather (hrender : ∀ change ∈ changes, change.isRenderable = true) :
    Succeeds (Compilation.gather changes) ↔ ∀ source, IsSource changes source →
      ∀ identity, source.targetId = some identity → Text.isBlank identity = false := by
  have htokens : ∀ change ∈ changes, Succeeds (changeToken change) :=
      fun change hchange =>
    (succeeds_changeToken change).mpr (hrender change hchange)
  constructor
  · rintro ⟨c, hc⟩ source hsource
    obtain ⟨sources, -, hmem, hcreated, -⟩ := (gathered_of_gather htokens hc).sources
    exact (DraftSource.succeeds_created (hsource.succeeds_token hrender)).mp
      (hcreated source ((hmem source).mpr hsource))
  · intro h
    have hcreated : ∀ source, IsSource changes source → Succeeds source.created :=
      fun source hsource =>
        (DraftSource.succeeds_created (hsource.succeeds_token hrender)).mpr
          (h source hsource)
    obtain ⟨recorded, hrun⟩ : Succeeds
        (changes.foldlM Compilation.record Compilation.start) :=
      (Outcome.succeeds_foldlM succeeds_record).mpr fun change hchange hnone =>
        hcreated (.single change) (.single hchange hnone)
    have hr := recorded_of_run htokens hrun
    obtain ⟨nodes, hnodes⟩ :
        Succeeds (recorded.nodeReconciliations.toList.foldlM
          Compilation.recordNodeGroup recorded) :=
      (Outcome.succeeds_foldlM succeeds_recordNodeGroup).mpr
          fun (nodeId, group) hgroup => by
        have hfound := KeyedMap.mem_toList.mp hgroup
        rw [hr.nodeGroups] at hfound
        exact hcreated (.nodeGroup nodeId group) (.nodeGroup hfound)
    obtain ⟨c, hc⟩ :
        Succeeds (recorded.runtimeReconciliations.toList.foldlM
          Compilation.recordRuntimeGroup nodes) :=
      (Outcome.succeeds_foldlM succeeds_recordRuntimeGroup).mpr
          fun (runtimeId, group) hgroup => by
        have hfound := KeyedMap.mem_toList.mp hgroup
        rw [hr.runtimeGroups] at hfound
        exact hcreated (.runtimeGroup runtimeId group) (.runtimeGroup hfound)
    refine ⟨c, ?_⟩
    simp only [Compilation.gather, EventFold.bind_ok]
    exact ⟨recorded, hrun, nodes, hnodes, hc⟩

end Reconciliations

end ControlPlaneKit.Planning
