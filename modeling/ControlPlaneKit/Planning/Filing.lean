import ControlPlaneKit.Planning.Compiler
import ControlPlaneKit.Planning.DraftLaws

/-!
# Filing — how one draft, and one change, moves the tables

Each component of a compilation is either left alone by a step or receives the
one entry the step makes.  `foldl_records` carries this over all the drafts of a
change.
-/

namespace ControlPlaneKit.Planning

open ControlPlaneKit.Library
open ControlPlaneKit.Library.KeyedMap (Records)
open ControlPlaneKit.Library.Outcome (Succeeds)
open ControlPlaneKit.Topology

namespace Compilation

/-! ## Appending drafts -/

/-- The draft at a position. -/
def Holds (c : Compilation) (ref : DraftRef) (operation : ActivityOperation) : Prop :=
  ∃ draft, c.drafts[ref]? = some draft ∧ draft.operation = operation

/-- A later compilation has the drafts of an earlier one where they were. -/
def Extends (c c' : Compilation) : Prop := c.drafts <+: c'.drafts

section Folds

variable {step : Compilation → Draft → Compilation}

/-- Filing the drafts of one change one after the other appends them. -/
theorem foldl_drafts (hdrafts : ∀ c draft, (step c draft).drafts = c.drafts ++ [draft])
    (created : List Draft) (c : Compilation) :
    (created.foldl step c).drafts = c.drafts ++ created := by
  induction created generalizing c with
  | nil => simp
  | cons draft rest ih => rw [List.foldl_cons, ih, hdrafts, List.append_assoc]; rfl

/-- A component that no step touches. -/
theorem foldl_frame {β : Type} {get : Compilation → β}
    (hget : ∀ c draft, get (step c draft) = get c) (created : List Draft)
    (c : Compilation) : get (created.foldl step c) = get c := by
  induction created generalizing c with
  | nil => rfl
  | cons draft rest ih => rw [List.foldl_cons, ih, hget]

/-- What stands in a list that grew by one stood there before, or is the last. -/
theorem getElem?_concat_eq_some {β : Type} {l : List β} {last b : β} {i : Nat} :
    (l ++ [last])[i]? = some b ↔ l[i]? = some b ∨ (i = l.length ∧ b = last) := by
  rw [List.getElem?_append]
  split
  · rename_i hlt
    simp [Nat.ne_of_lt hlt]
  · rename_i hge
    rw [List.getElem?_eq_none (Nat.le_of_not_lt hge), List.getElem?_singleton]
    split
    · rename_i hzero
      have hlast : i = l.length := by omega
      simp [hlast, eq_comm]
    · rename_i hpos
      have hne : i ≠ l.length := by omega
      simp [hne]

/-- Insert an entry, if there is one. -/
def insertEntry {β : Type} (t : TextMap β) : Option (String × β) → TextMap β
  | some (key, value) => t.insert key value
  | none => t

/-- A table that records some entries records one more. -/
theorem records_insertEntry {β : Type} {t : TextMap β} {entries : String → β → Prop}
    (h : Records t entries) (entry : Option (String × β)) :
    Records (insertEntry t entry) fun key value =>
      entries key value ∨ entry = some (key, value) := by
  cases entry with
  | none => exact h.weaken (fun _ _ h => .inl h) fun _ v h => ⟨v, by simpa using h⟩
  | some entry =>
      refine h.insert.weaken ?_ ?_
      · rintro k v (h | ⟨rfl, rfl⟩)
        · exact .inl h
        · exact .inr rfl
      · rintro k v (h | h)
        · exact ⟨v, .inl h⟩
        · cases h
          exact ⟨v, .inr ⟨rfl, rfl⟩⟩

/-- **Filing rule.** Where each step files its draft under the entry it makes at
its position, the whole fold adds the entries of all its drafts. -/
theorem foldl_records {β : Type} (get : Compilation → TextMap β)
    (entry : DraftRef → Draft → Option (String × β)) {entries : String → β → Prop}
    (hdrafts : ∀ c draft, (step c draft).drafts = c.drafts ++ [draft])
    (hget : ∀ c draft,
      get (step c draft) = insertEntry (get c) (entry c.drafts.length draft))
    {c : Compilation} (h : Records (get c) entries) (created : List Draft) :
    Records (get (created.foldl step c)) fun key value => entries key value ∨
      ∃ ref draft, created[ref]? = some draft ∧
        entry (c.drafts.length + ref) draft = some (key, value) := by
  induction created using List.reverseRecOn with
  | nil => exact h.weaken (fun _ _ h => .inl h) fun _ v h => ⟨v, by simpa using h⟩
  | append_singleton created draft ih =>
      rw [List.foldl_append, List.foldl_cons, List.foldl_nil, hget,
        foldl_drafts hdrafts, List.length_append]
      simp only [getElem?_concat_eq_some]
      cases hentry : entry (c.drafts.length + created.length) draft with
      | some keyed =>
        obtain ⟨key, value⟩ := keyed
        refine (ih.insert (k := key) (v := value)).weaken ?_ ?_
        · rintro k v ((h | ⟨ref, other, hother, hk⟩) | ⟨rfl, rfl⟩)
          · exact .inl h
          · exact .inr ⟨ref, other, .inl hother, hk⟩
          · exact .inr ⟨created.length, draft, .inr ⟨rfl, rfl⟩, hentry⟩
        · rintro k v (h | ⟨ref, other, hother | ⟨rfl, rfl⟩, hk⟩)
          · exact ⟨v, .inl (.inl h)⟩
          · exact ⟨v, .inl (.inr ⟨ref, other, hother, hk⟩)⟩
          · rw [hentry] at hk
            cases hk
            exact ⟨_, .inr ⟨rfl, rfl⟩⟩
      | none =>
        refine ih.weaken ?_ ?_
        · rintro k v (h | ⟨ref, other, hother, hk⟩)
          · exact .inl h
          · exact .inr ⟨ref, other, .inl hother, hk⟩
        · rintro k v (h | ⟨ref, other, hother | ⟨rfl, rfl⟩, hk⟩)
          · exact ⟨v, .inl h⟩
          · exact ⟨v, .inr ⟨ref, other, hother, hk⟩⟩
          · rw [hentry] at hk
            cases hk

end Folds

/-! ## Filing one draft -/

/-- The entry a draft makes in a table. -/
def tableEntry (table : Table) (ref : DraftRef) (draft : Draft) :
    Option (String × DraftRef) :=
  match filing draft.operation with
  | some (other, key) => if other = table then some (key, ref) else none
  | none => none

/-- The runtime of a removed node, entered when the node's stop is drafted. -/
def runtimeEntry (change : StructuralChange) (draft : Draft) :
    Option (String × String) :=
  match draft.operation, change with
  | .stopNode target, .removed _ (.node node _) => some (target.nodeId, node.runtimeId)
  | _, _ => none

/-- The edge of a removed connection, with its draft. -/
def removedEntry (change : StructuralChange) (ref : DraftRef) (draft : Draft) :
    Option (String × Option DraftRef × Edge) :=
  match draft.operation, change with
  | .removeSocketConnection target, .removed _ (.edge edge) =>
      some (target.edgeId, some ref, edge)
  | _, _ => none

/-- Both edges of a switched connection, with its draft. -/
def modifiedEntry (change : StructuralChange) (ref : DraftRef) (draft : Draft) :
    Option (String × Option DraftRef × Edge × Edge) :=
  match draft.operation, change with
  | .switchSocketConnection target, .modified _ (.edge before) (.edge after) =>
      some (target.edgeId, some ref, before, after)
  | _, _ => none

variable (change : StructuralChange) (c : Compilation) (draft : Draft)

/-- A draft is entered in the table of its operation. -/
theorem append_tables (table : Table) :
    (c.append draft).tables table =
      insertEntry (c.tables table) (tableEntry table c.drafts.length draft) := by
  unfold append tableEntry insertEntry
  cases filing draft.operation with
  | none => rfl
  | some entry =>
      obtain ⟨other, key⟩ := entry
      by_cases h : other = table
      · subst h
        simp
      · simp [h, Function.update_of_ne (Ne.symm h)]

/-- What filing a draft appends to, and what it leaves alone. -/
structure Filed (before after : Compilation) (draft : Draft) : Prop where
  drafts : after.drafts = before.drafts ++ [draft]
  tables : after.tables = (before.append draft).tables
  addedPublicIngresses : after.addedPublicIngresses = before.addedPublicIngresses
  removedPublicIngresses : after.removedPublicIngresses = before.removedPublicIngresses
  nodeReconciliations : after.nodeReconciliations = before.nodeReconciliations
  runtimeReconciliations : after.runtimeReconciliations = before.runtimeReconciliations

/-- **Filing a draft** enters it wherever the compiler looks for it later. -/
theorem filed_file : Filed c (file change c draft) draft := by
  unfold file
  split <;> exact ⟨rfl, rfl, rfl, rfl, rfl, rfl⟩

theorem file_drafts : (file change c draft).drafts = c.drafts ++ [draft] :=
  (filed_file change c draft).drafts

theorem file_removedNodeRuntime :
    (file change c draft).removedNodeRuntime =
      insertEntry c.removedNodeRuntime (runtimeEntry change draft) := by
  unfold file runtimeEntry
  split <;> simp_all [append, insertEntry]

theorem file_removedEdges :
    (file change c draft).removedEdges =
      insertEntry c.removedEdges (removedEntry change c.drafts.length draft) := by
  unfold file removedEntry
  split <;> simp_all [append, insertEntry]

theorem file_modifiedEdges :
    (file change c draft).modifiedEdges =
      insertEntry c.modifiedEdges (modifiedEntry change c.drafts.length draft) := by
  unfold file modifiedEntry
  split <;> simp_all [append, insertEntry]

/-- An added ingress. -/
def notedAdded : StructuralChange → Option (String × NamedPublicIngress)
  | .added (.publicIngress ingressId) (.publicIngress ingress) =>
      some (ingressId, ingress)
  | _ => none

/-- A removed ingress. -/
def notedRemoved : StructuralChange → Option (String × NamedPublicIngress)
  | .removed (.publicIngress ingressId) (.publicIngress ingress) =>
      some (ingressId, ingress)
  | _ => none

/-- A removed edge that no draft takes away: it was bound through the environment. -/
def notedRemovedEdge : StructuralChange → Option (String × Option DraftRef × Edge)
  | .removed (.edge edgeId) (.edge edge) =>
      if edge.binding = .environment then some (edgeId, none, edge) else none
  | _ => none

/-- A changed edge that no draft switches. -/
def notedModifiedEdge :
    StructuralChange → Option (String × Option DraftRef × Edge × Edge)
  | .modified (.edge edgeId) (.edge before) (.edge after) =>
      if throughEnvironment before after then some (edgeId, none, before, after)
      else none
  | _ => none

/-- A change adds at most one ingress to those that are noted as added. -/
theorem noteConnection_addedPublicIngresses :
    (c.noteConnection change).addedPublicIngresses =
    insertEntry c.addedPublicIngresses (notedAdded change) := by
  unfold noteConnection notedAdded
  split <;> (try split) <;> simp_all [insertEntry]

theorem noteConnection_removedPublicIngresses :
    (c.noteConnection change).removedPublicIngresses =
      insertEntry c.removedPublicIngresses (notedRemoved change) := by
  unfold noteConnection notedRemoved
  split <;> (try split) <;> simp_all [insertEntry]

/-- It notes at most one edge as removed. -/
theorem noteConnection_removedEdges : (c.noteConnection change).removedEdges =
    insertEntry c.removedEdges (notedRemovedEdge change) := by
  unfold noteConnection notedRemovedEdge
  split <;> (try split) <;> simp_all [insertEntry]

theorem noteConnection_modifiedEdges : (c.noteConnection change).modifiedEdges =
    insertEntry c.modifiedEdges (notedModifiedEdge change) := by
  unfold noteConnection notedModifiedEdge
  split <;> (try split) <;> simp_all [insertEntry]

theorem notedAdded_eq_some {key : String} {ingress : NamedPublicIngress} :
    notedAdded change = some (key, ingress) ↔
      change = .added (.publicIngress key) (.publicIngress ingress) := by
  unfold notedAdded
  split <;> simp_all

theorem notedRemoved_eq_some {key : String} {ingress : NamedPublicIngress} :
    notedRemoved change = some (key, ingress) ↔
      change = .removed (.publicIngress key) (.publicIngress ingress) := by
  unfold notedRemoved
  split <;> simp_all

/-- Such an edge is noted without a draft. -/
theorem notedRemovedEdge_eq_some {key : String} {value : Option DraftRef × Edge} :
    notedRemovedEdge change = some (key, value) ↔
      change = .removed (.edge key) (.edge value.2) ∧ value.1 = none ∧
        value.2.binding = .environment := by
  unfold notedRemovedEdge
  split
  · obtain ⟨ref, edge⟩ := value
    split <;> simp_all <;> grind
  · simp_all

theorem notedModifiedEdge_eq_some {key : String}
    {value : Option DraftRef × Edge × Edge} :
    notedModifiedEdge change = some (key, value) ↔
      change = .modified (.edge key) (.edge value.2.1) (.edge value.2.2) ∧
      value.1 = none ∧
        throughEnvironment value.2.1 value.2.2 = true := by
  unfold notedModifiedEdge
  split
  · obtain ⟨ref, before, after⟩ := value
    split <;> simp_all <;> grind
  · simp_all

/-- The entry is that of a draft that stops a node of a removal. -/
theorem runtimeEntry_eq_some {key value : String} :
    runtimeEntry change draft = some (key, value) ↔
      ∃ target subject node encoded, draft.operation = .stopNode target ∧
        change = .removed subject (.node node encoded) ∧ target.nodeId = key ∧
        node.runtimeId = value := by
  unfold runtimeEntry
  split
  · rename_i hop
    simp [hop]
  · rename_i hother
    simp only [reduceCtorEq, false_iff]
    rintro ⟨target, subject, node, encoded, hop, rfl, -⟩
    exact hother _ _ _ _ hop rfl

/-- The entry is that of a draft that removes a connection. -/
theorem removedEntry_eq_some {ref : DraftRef} {key : String}
    {value : Option DraftRef × Edge} :
    removedEntry change ref draft = some (key, value) ↔
      ∃ target subject, draft.operation = .removeSocketConnection target ∧
        change = .removed subject (.edge value.2) ∧ target.edgeId = key ∧
        value.1 = some ref := by
  unfold removedEntry
  obtain ⟨ref', edge⟩ := value
  split
  · rename_i hop
    simp [hop, and_comm, and_left_comm, eq_comm]
  · rename_i hother
    simp only [reduceCtorEq, false_iff]
    rintro ⟨target, subject, hop, rfl, -⟩
    exact hother _ _ _ hop rfl

/-- The entry is that of a draft that switches a connection. -/
theorem modifiedEntry_eq_some {ref : DraftRef} {key : String}
    {value : Option DraftRef × Edge × Edge} :
    modifiedEntry change ref draft = some (key, value) ↔
      ∃ target subject, draft.operation = .switchSocketConnection target ∧
        change = .modified subject (.edge value.2.1) (.edge value.2.2) ∧
        target.edgeId = key ∧ value.1 = some ref := by
  unfold modifiedEntry
  obtain ⟨ref', before, after⟩ := value
  split
  · rename_i hop
    simp [hop, and_comm, and_left_comm, eq_comm]
  · rename_i hother
    simp only [reduceCtorEq, false_iff]
    rintro ⟨target, subject, hop, rfl, -⟩
    exact hother _ _ _ _ hop rfl

/-- What noting a connection leaves alone. -/
structure Noted (before after : Compilation) : Prop where
  drafts : after.drafts = before.drafts
  tables : after.tables = before.tables
  removedNodeRuntime : after.removedNodeRuntime = before.removedNodeRuntime
  nodeReconciliations : after.nodeReconciliations = before.nodeReconciliations
  runtimeReconciliations : after.runtimeReconciliations = before.runtimeReconciliations

/-- **What a change notes** beside its drafts. -/
theorem noted_noteConnection : Noted c (c.noteConnection change) := by
  unfold noteConnection
  split
  case h_1 => split <;> exact ⟨rfl, rfl, rfl, rfl, rfl⟩
  case h_2 => split <;> exact ⟨rfl, rfl, rfl, rfl, rfl⟩
  all_goals exact ⟨rfl, rfl, rfl, rfl, rfl⟩

/-- A reconciled change is about a field, and fields are not noted. -/
theorem noteConnection_of_reconciled {owner : ReconciledOwner}
    (h : reconciliationOwner change = some owner) : c.noteConnection change = c := by
  unfold noteConnection
  split <;> first | rfl | cases h

end Compilation

end ControlPlaneKit.Planning
