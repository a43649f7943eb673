import ControlPlaneKit.Planning.Activity
import ControlPlaneKit.Topology.Changes

/-!
# Draft — from one structural change to activity drafts

A draft is an activity whose dependencies are still being collected.  Its
identity is a label followed by sixteen digits of the hash of the change, or of
the group of changes, it was made for.
-/

namespace ControlPlaneKit.Planning

open ControlPlaneKit.Library
open ControlPlaneKit.Library.Text
  (isBlank isCanonicalIdentity isIdentityChars isIdentityTail)
open ControlPlaneKit.Topology

/-! ## Tokens and identities -/

/-- `hexdigest()[:16]`. -/
structure ChangeToken where
  digits : List Char
  length_eq : digits.length = 16
  hexadecimal : ∀ c ∈ digits, Sha256.isHexDigit c = true

theorem ChangeToken.ext_digits {a b : ChangeToken}
    (h : a.digits = b.digits) : a = b := by
  cases a; cases b; cases h; rfl

def tokenOf (rendered : List Char) : ChangeToken where
  digits := (Sha256.hexdigestChars (Text.utf8 rendered)).take 16
  length_eq := by simp [Sha256.hexdigestChars_length]
  hexadecimal _ hc := Sha256.isHexDigit_of_mem_hexdigest (List.mem_of_mem_take hc)

/-- `_change_token(change)`. -/
def changeToken (change : StructuralChange) : Except PyError ChangeToken :=
  (PyValue.dumps .compact change.descriptor).map tokenOf

/-- `_changes_token(changes)`. -/
def changesToken (changes : List StructuralChange) : Except PyError ChangeToken :=
  (PyValue.dumps .compact (.list (changes.map (·.descriptor)))).map tokenOf

inductive DraftLabel where
  | startRuntime
  | stopRuntime
  | removeRuntimeResource
  | startNode
  | waitHealthy
  | stopNode
  | removeNodeResource
  | addConnection
  | switchConnection
  | removeConnection
  | allocatePublicIngress
  | removePublicIngress
  | reconcileNode
  | reconcileRuntime
  | reviewChange
  deriving DecidableEq

def DraftLabel.value : DraftLabel → String
  | .startRuntime => "start-runtime"
  | .stopRuntime => "stop-runtime"
  | .removeRuntimeResource => "remove-runtime-resource"
  | .startNode => "start-node"
  | .waitHealthy => "wait-healthy"
  | .stopNode => "stop-node"
  | .removeNodeResource => "remove-node-resource"
  | .addConnection => "add-connection"
  | .switchConnection => "switch-connection"
  | .removeConnection => "remove-connection"
  | .allocatePublicIngress => "allocate-public-ingress"
  | .removePublicIngress => "remove-public-ingress"
  | .reconcileNode => "reconcile-node"
  | .reconcileRuntime => "reconcile-runtime"
  | .reviewChange => "review-change"

def DraftLabel.all : List DraftLabel :=
  [ .startRuntime, .stopRuntime, .removeRuntimeResource, .startNode,
    .waitHealthy, .stopNode
  , .removeNodeResource, .addConnection, .switchConnection, .removeConnection
  , .allocatePublicIngress, .removePublicIngress, .reconcileNode, .reconcileRuntime
  , .reviewChange ]

theorem DraftLabel.find?_value (label : DraftLabel) :
    DraftLabel.all.find? (fun other => other.value.toList = label.value.toList) =
      some label := by
  cases label <;> decide

theorem DraftLabel.eq_of_value {l m : DraftLabel}
    (h : l.value.toList = m.value.toList) : l = m := by
  have hl := find?_value l
  rw [h, find?_value m] at hl
  exact (Option.some.inj hl).symm

theorem isIdentityTail_of_hexDigit {c : Char} (h : Sha256.isHexDigit c = true) :
    isIdentityTail c = true := by
  simp only [Sha256.isHexDigit, isIdentityTail, Text.isAsciiAlnum, Bool.or_eq_true,
    Bool.and_eq_true, decide_eq_true_eq] at *
  omega

/-- A label and a token always make an identity. -/
theorem isCanonicalIdentity_label (label : DraftLabel) (token : ChangeToken) :
    isCanonicalIdentity (String.ofList (label.value.toList ++ ':' :: token.digits)) =
      true := by
  rw [isCanonicalIdentity, String.toList_ofList]
  apply Text.isIdentityChars_append
  · cases label <;> decide
  · rw [List.all_cons, List.all_eq_true.mpr fun c hc =>
      isIdentityTail_of_hexDigit (token.hexadecimal c hc)]
    rfl
  · rw [List.length_cons, token.length_eq]
    cases label <;> decide

/-- `ActivityId(f"{label}:{token}")`. -/
def labelledId (label : DraftLabel) (token : ChangeToken) : ActivityId :=
  ⟨String.ofList (label.value.toList ++ ':' :: token.digits),
    isCanonicalIdentity_label label token⟩

theorem labelledId_toList (label : DraftLabel) (token : ChangeToken) :
    (labelledId label token).value.toList = label.value.toList ++ ':' :: token.digits :=
  String.toList_ofList

/-- An identity gives its label and its token back. -/
theorem labelledId_inj {l m : DraftLabel} {s t : ChangeToken} :
    labelledId l s = labelledId m t ↔ l = m ∧ s = t := by
  constructor
  · intro h
    have hchars : l.value.toList ++ ':' :: s.digits =
        m.value.toList ++ ':' :: t.digits := by
      rw [← labelledId_toList, ← labelledId_toList, h]
    have hlen : (':' :: s.digits).length = (':' :: t.digits).length := by
      rw [List.length_cons, List.length_cons, s.length_eq, t.length_eq]
    obtain ⟨hlabel, hdigits⟩ := List.append_inj' hchars hlen
    exact ⟨DraftLabel.eq_of_value hlabel,
      ChangeToken.ext_digits (List.cons.inj hdigits).2⟩
  · rintro ⟨rfl, rfl⟩
    rfl

/-! ## Drafts -/

structure Draft where
  label : DraftLabel
  token : ChangeToken
  operation : ActivityOperation
  risk : RiskLevel
  impact : ActivityImpact
  dependencies : List ActivityId

def Draft.activityId (draft : Draft) : ActivityId := labelledId draft.label draft.token

def Draft.dependingOn (draft predecessor : Draft) : Draft :=
  { draft with dependencies := draft.dependencies ++ [predecessor.activityId] }

/-- `draft.finish()`, with the dependencies added since it was created. -/
def Draft.finish (draft : Draft) (added : List ActivityId) : PlannedActivity :=
  PlannedActivity.make draft.activityId draft.operation
    ((draft.dependencies ++ added).dedup.map ActivityDependency.mk)
    draft.risk draft.impact

/-- `_draft(change, label, operation, risk, impact)`. -/
def draftOf (change : StructuralChange) (label : DraftLabel)
    (operation : ActivityOperation) (risk : RiskLevel) (impact : ActivityImpact) :
    Except PyError Draft :=
  (changeToken change).map fun token => ⟨label, token, operation, risk, impact, []⟩

/-- `_draft_many(changes, label, operation, risk, impact)`. -/
def draftMany (changes : List StructuralChange) (label : DraftLabel)
    (operation : ActivityOperation) (risk : RiskLevel) (impact : ActivityImpact) :
    Except PyError Draft :=
  (changesToken changes).map fun token => ⟨label, token, operation, risk, impact, []⟩

/-! ## Targets -/

/-- A target constructor: it rejects a blank identity. -/
def namedTarget {α : Type} (build : (identity : String) → isBlank identity = false → α)
    (message identity : String) : Except PyError α :=
  if h : isBlank identity = false then .ok (build identity h)
  else .error (.valueError message)

def nodeTarget : String → Except PyError NodeTarget :=
  namedTarget NodeTarget.mk "node target must not be empty"

def runtimeTarget : String → Except PyError RuntimeTarget :=
  namedTarget RuntimeTarget.mk "runtime target must not be empty"

def socketConnectionTarget : String → Except PyError SocketConnectionTarget :=
  namedTarget SocketConnectionTarget.mk "socket connection target must not be empty"

def publicIngressTarget : String → Except PyError PublicIngressActivityTarget :=
  namedTarget PublicIngressActivityTarget.mk
    "public ingress activity target must not be empty"

/-! ## The drafts of one change -/

/-- `_review(change, subject, reason)`. -/
def review (change : StructuralChange) (subject : DiffSubject) (reason : ReviewReason) :
    Except PyError (List Draft) :=
  (draftOf change .reviewChange
    (.reviewChange ⟨subject⟩ reason) .high .nonDestructive).map fun draft => [draft]

/-- A start and what waits for it. -/
def chained (first second : Except PyError Draft) : Except PyError (List Draft) := do
  let first ← first
  let second ← second
  return [first, second.dependingOn first]

/-- A stop, and the removal that follows it unless the compute is retained. -/
def stopThenRemove (lifecycle : ResourceLifecycle)
    (stop remove : Except PyError Draft) : Except PyError (List Draft) :=
  if lifecycle.compute = .retained then stop.map fun stop => [stop]
  else chained stop remove

/-- Either binding is derived through the environment. -/
def throughEnvironment (before after : Edge) : Bool :=
  before.binding = .environment || after.binding = .environment

section Forms

variable (change : StructuralChange)

/-- The `AddedChange` cases of `_compile_change`. -/
def compileAdded (subject : DiffSubject) (after : DiffValue) :
    Except PyError (List Draft) :=
  match subject, after with
  | .runtime runtimeId, .runtime runtime =>
      if runtime.lifecycle.ownership ≠ .owned then .ok []
      else runtimeTarget runtimeId >>= fun target =>
        (draftOf change .startRuntime (.startRuntime target) .low .nonDestructive).map
          fun start => [start]
  | .node nodeId, .node node _ =>
      if node.lifecycle.ownership ≠ .owned then .ok []
      else nodeTarget nodeId >>= fun target =>
        chained (draftOf change .startNode (.startNode target) .low .nonDestructive)
          (draftOf change .waitHealthy (.waitForHealthy target) .medium .nonDestructive)
  | .edge edgeId, .edge edge =>
      if edge.binding = .environment then .ok []
      else socketConnectionTarget edgeId >>= fun target =>
        (draftOf change .addConnection (.addSocketConnection target) .medium
          .nonDestructive).map fun add => [add]
  | .publicIngress ingressId, .publicIngress _ =>
      publicIngressTarget ingressId >>= fun target =>
        (draftOf change .allocatePublicIngress (.allocatePublicIngress target) .medium
          .nonDestructive).map fun allocate => [allocate]
  | _, _ => review change subject .unsupportedChange

/-- The `RemovedChange` cases. -/
def compileRemoved (subject : DiffSubject) (before : DiffValue) :
    Except PyError (List Draft) :=
  match subject, before with
  | .runtime runtimeId, .runtime runtime =>
      if runtime.lifecycle.ownership ≠ .owned then .ok []
      else runtimeTarget runtimeId >>= fun target =>
        stopThenRemove runtime.lifecycle
          (draftOf change .stopRuntime (.stopRuntime target) .high .disruptive)
          (draftOf change .removeRuntimeResource (.removeRuntimeResource target) .high
            .destructive)
  | .node nodeId, .node node _ =>
      if node.lifecycle.ownership ≠ .owned then .ok []
      else nodeTarget nodeId >>= fun target =>
        stopThenRemove node.lifecycle
          (draftOf change .stopNode (.stopNode target) .high .disruptive)
          (draftOf change .removeNodeResource
            (.removeNodeResource target) .high .destructive)
  | .edge edgeId, .edge edge =>
      if edge.binding = .environment then .ok []
      else socketConnectionTarget edgeId >>= fun target =>
        (draftOf change .removeConnection (.removeSocketConnection target) .high
          .disruptive).map fun remove => [remove]
  | .publicIngress ingressId, .publicIngress _ =>
      publicIngressTarget ingressId >>= fun target =>
        (draftOf change .removePublicIngress (.removePublicIngress target) .high
          .disruptive).map fun remove => [remove]
  | _, _ => review change subject .unsupportedChange

/-- The `ModifiedChange` cases. -/
def compileModified (subject : DiffSubject) (before after : DiffValue) :
    Except PyError (List Draft) :=
  match subject, before, after with
  | .edge edgeId, .edge before, .edge after =>
      if throughEnvironment before after then .ok []
      else socketConnectionTarget edgeId >>= fun target =>
        (draftOf change .switchConnection (.switchSocketConnection target) .high
          .disruptive).map fun switch => [switch]
  | .field .graph _ _, _, _ => .ok []
  | _, _, _ => review change subject .unsupportedChange

end Forms

/-- `_compile_change(change)`. -/
def compileChange (change : StructuralChange) : Except PyError (List Draft) :=
  match change with
  | .added subject after => compileAdded change subject after
  | .removed subject before => compileRemoved change subject before
  | .modified subject before after => compileModified change subject before after
  | .unsupported subject _ _ _ => review change subject .unsupportedChange
  | .ambiguous subject _ _ _ => review change subject .ambiguousChange

/-! ## Field changes that are reconciled -/

/-- `NodeSubject | RuntimeSubject`, the owner whose field changes are grouped. -/
inductive ReconciledOwner where
  | node (nodeId : String)
  | runtime (runtimeId : String)
  deriving DecidableEq

/-- `_reconciliation_owner(change)`. -/
def reconciliationOwner : StructuralChange → Option ReconciledOwner
  | .added (.field (.node nodeId) field _) _
  | .removed (.field (.node nodeId) field _) _
  | .modified (.field (.node nodeId) field _) _ _ =>
      if field = .resourceLifecycle then none else some (.node nodeId)
  | .added (.field (.runtime runtimeId) field _) _
  | .removed (.field (.runtime runtimeId) field _) _
  | .modified (.field (.runtime runtimeId) field _) _ _ =>
      if field = .resourceLifecycle then none else some (.runtime runtimeId)
  | _ => none

/-- `_reconcile_node`, then `_reconciled_node_health` waiting for it. -/
def reconcileNodeDrafts (changes : List StructuralChange) (nodeId : String) :
    Except PyError (List Draft) :=
  nodeTarget nodeId >>= fun target =>
    chained (draftMany changes .reconcileNode
      (.reconcileNode target) .medium .disruptive)
      (draftMany changes .waitHealthy (.waitForHealthy target) .medium .nonDestructive)

/-- `_reconcile_runtime`. -/
def reconcileRuntimeDrafts (changes : List StructuralChange) (runtimeId : String) :
    Except PyError (List Draft) :=
  runtimeTarget runtimeId >>= fun target =>
    (draftMany changes .reconcileRuntime
      (.reconcileRuntime target) .medium .disruptive).map fun reconcile => [reconcile]

end ControlPlaneKit.Planning
