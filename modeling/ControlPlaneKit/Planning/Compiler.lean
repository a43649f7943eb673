import ControlPlaneKit.Planning.ActivityPlan
import ControlPlaneKit.Planning.Draft
import ControlPlaneKit.Topology.Diff

/-!
# Compiler — from a graph diff to an activity plan

A first pass creates the drafts of every change and files them in tables by
operation and target; field changes are grouped by owner and reconciled.  A
second pass reads the tables and adds dependencies.  Drafts are mutable objects
in the source; here a table holds the position of a draft, and the second pass
yields links between positions, which `finish` turns into dependencies.
-/

namespace ControlPlaneKit.Planning

open ControlPlaneKit.Library
open ControlPlaneKit.Library.Outcome (collectMap)
open ControlPlaneKit.Topology

/-! ## Tables -/

/-- The position of a draft in the order of creation. -/
abbrev DraftRef := Nat

inductive Table where
  | startRuntime
  | stopRuntime
  | removeRuntime
  | startNode
  | healthyNode
  | stopNode
  | removeNode
  | allocateIngress
  | removeIngress
  | reconcileNode
  deriving DecidableEq

/-- The table a draft is filed in, and under which key. -/
def filing : ActivityOperation → Option (Table × String)
  | .startRuntime target => some (.startRuntime, target.runtimeId)
  | .stopRuntime target => some (.stopRuntime, target.runtimeId)
  | .removeRuntimeResource target => some (.removeRuntime, target.runtimeId)
  | .startNode target => some (.startNode, target.nodeId)
  | .waitForHealthy target => some (.healthyNode, target.nodeId)
  | .stopNode target => some (.stopNode, target.nodeId)
  | .removeNodeResource target => some (.removeNode, target.nodeId)
  | .allocatePublicIngress target => some (.allocateIngress, target.ingressId)
  | .removePublicIngress target => some (.removeIngress, target.ingressId)
  | .reconcileNode target => some (.reconcileNode, target.nodeId)
  | _ => none

structure Compilation where
  drafts : List Draft
  tables : Table → TextMap DraftRef
  addedPublicIngresses : TextMap NamedPublicIngress
  removedPublicIngresses : TextMap NamedPublicIngress
  removedNodeRuntime : TextMap String
  removedEdges : TextMap (Option DraftRef × Edge)
  modifiedEdges : TextMap (Option DraftRef × Edge × Edge)
  nodeReconciliations : TextMap (List StructuralChange)
  runtimeReconciliations : TextMap (List StructuralChange)

namespace Compilation

def start : Compilation where
  drafts := []
  tables := fun _ => ∅
  addedPublicIngresses := ∅
  removedPublicIngresses := ∅
  removedNodeRuntime := ∅
  removedEdges := ∅
  modifiedEdges := ∅
  nodeReconciliations := ∅
  runtimeReconciliations := ∅

/-! ## The first pass -/

/-- Environment edges have no activity of their own, and public ingresses are
looked up by the nodes they involve: both are noted before any draft. -/
def noteConnection (c : Compilation) : StructuralChange → Compilation
  | .removed (.edge edgeId) (.edge edge) =>
      if edge.binding = .environment then
        { c with removedEdges := c.removedEdges.insert edgeId (none, edge) }
      else c
  | .modified (.edge edgeId) (.edge before) (.edge after) =>
      if throughEnvironment before after then
        { c with modifiedEdges := c.modifiedEdges.insert edgeId (none, before, after) }
      else c
  | .added (.publicIngress ingressId) (.publicIngress ingress) =>
      { c with addedPublicIngresses := c.addedPublicIngresses.insert ingressId ingress }
  | .removed (.publicIngress ingressId) (.publicIngress ingress) =>
      { c with
          removedPublicIngresses := c.removedPublicIngresses.insert ingressId ingress }
  | _ => c

/-- Append a draft and file it. -/
def append (c : Compilation) (draft : Draft) : Compilation :=
  { c with
    drafts := c.drafts ++ [draft]
    tables := match filing draft.operation with
      | some (table, key) =>
          Function.update c.tables table ((c.tables table).insert key c.drafts.length)
      | none => c.tables }

/-- Append a draft of a change, with what is remembered of that change. -/
def file (change : StructuralChange) (c : Compilation) (draft : Draft) : Compilation :=
  match draft.operation, change with
  | .stopNode target, .removed _ (.node node _) =>
      { c.append draft with
        removedNodeRuntime := c.removedNodeRuntime.insert target.nodeId node.runtimeId }
  | .removeSocketConnection target, .removed _ (.edge edge) =>
      { c.append draft with
        removedEdges :=
          c.removedEdges.insert target.edgeId (some c.drafts.length, edge) }
  | .switchSocketConnection target, .modified _ (.edge before) (.edge after) =>
      { c.append draft with
        modifiedEdges :=
          c.modifiedEdges.insert target.edgeId (some c.drafts.length, before, after) }
  | _, _ => c.append draft

/-- `groups.setdefault(key, []).append(change)`. -/
def appendGroup (groups : TextMap (List StructuralChange)) (key : String)
    (change : StructuralChange) : TextMap (List StructuralChange) :=
  groups.insert key (groups[key]?.getD [] ++ [change])

/-- One round of the first loop over the changes. -/
def record (c : Compilation) (change : StructuralChange) : Except PyError Compilation :=
  match reconciliationOwner change with
  | some (.node nodeId) =>
      .ok { c.noteConnection change with
        nodeReconciliations := appendGroup c.nodeReconciliations nodeId change }
  | some (.runtime runtimeId) =>
      .ok { c.noteConnection change with
        runtimeReconciliations :=
          appendGroup c.runtimeReconciliations runtimeId change }
  | none => (compileChange change).map fun created =>
      created.foldl (file change) (c.noteConnection change)

def recordNodeGroup (c : Compilation) (group : String × List StructuralChange) :
    Except PyError Compilation :=
  (reconcileNodeDrafts group.2 group.1).map fun created => created.foldl append c

def recordRuntimeGroup (c : Compilation) (group : String × List StructuralChange) :
    Except PyError Compilation :=
  (reconcileRuntimeDrafts group.2 group.1).map fun created => created.foldl append c

/-- Every draft of the changes, filed. -/
def gather (changes : List StructuralChange) : Except PyError Compilation := do
  let recorded ← changes.foldlM record start
  let nodes ← recorded.nodeReconciliations.toList.foldlM recordNodeGroup recorded
  recorded.runtimeReconciliations.toList.foldlM recordRuntimeGroup nodes

/-! ## The second pass -/

/-- `successor.dependencies.add(predecessor.activity_id)`. -/
structure Link where
  successor : DraftRef
  predecessor : DraftRef
  deriving DecidableEq

variable (c : Compilation)

/-- A link, when both drafts were found. -/
def linked (successor predecessor : Option DraftRef) : List Link :=
  match successor, predecessor with
  | some successor, some predecessor => [⟨successor, predecessor⟩]
  | _, _ => []

/-- `table.get(key)`. -/
def lookup (table : Table) (key : String) : Option DraftRef := (c.tables table)[key]?

/-- `start_node[node_id].dependencies.add(...)`, when there is something to add. -/
def startAfter (nodeId : String) : Option DraftRef → Except PyError (List Link)
  | none => .ok []
  | some predecessor =>
      match c.lookup .startNode nodeId with
      | some start => .ok [⟨start, predecessor⟩]
      | none => .error (.keyError nodeId)

/-- `token in draft.activity_id.value`. -/
def matchesToken (token : ChangeToken) (draft : Draft) : Bool :=
  token.digits <:+: draft.activityId.value.toList

/-- `matching[0]`, if there is one; without drafts no token is computed. -/
def matchingRef (change : StructuralChange) : Except PyError (Option DraftRef) :=
  if c.drafts.isEmpty then .ok none
  else (changeToken change).map fun token => c.drafts.findIdx? (matchesToken token)

/-- The connection draft waits for both of its ends. -/
def endsHealthy (connection : DraftRef) (edge : Edge) : List Link :=
  linked (some connection) (c.lookup .healthyNode edge.providerRole) ++
    linked (some connection) (c.lookup .healthyNode edge.consumerRole)

/-- The dependencies between a removed node and the removed ingresses. -/
def ingressTeardown (nodeId : String) (stop : DraftRef) : List Link :=
  c.removedPublicIngresses.toList.flatMap fun entry =>
    if nodeId = entry.2.connectorNodeId then
      linked (c.lookup .removeIngress entry.1) (some stop)
    else if nodeId = entry.2.target.nodeId then
      linked (some stop) (c.lookup .removeIngress entry.1)
    else []

/-- A removed node stops after the connections it loses: after the activity of
the connection, or after the reconciliation of the consumer it provided for. -/
def edgeTeardown (nodeId : String) (stop : DraftRef) : List Link :=
  c.removedEdges.toList.flatMap fun entry =>
    let edge := entry.2.2
    if nodeId = edge.providerRole ∨ nodeId = edge.consumerRole then
      match entry.2.1 with
      | some remove => [⟨stop, remove⟩]
      | none =>
          if nodeId = edge.providerRole then
            linked (some stop) (c.lookup .reconcileNode edge.consumerRole)
          else []
    else []

def edgeSwitchover (nodeId : String) (stop : DraftRef) : List Link :=
  c.modifiedEdges.toList.flatMap fun entry =>
    let before := entry.2.2.1
    let after := entry.2.2.2
    if (nodeId = before.providerRole ∨ nodeId = before.consumerRole) ∧
        ¬(nodeId = after.providerRole ∨ nodeId = after.consumerRole) then
      match entry.2.1 with
      | some switch => [⟨stop, switch⟩]
      | none =>
          if nodeId = before.providerRole then
            linked (some stop) (c.lookup .reconcileNode after.consumerRole)
          else []
    else []

/-- `remove_node.get(node_id) or stop_node.get(node_id)`. -/
def nodeGone (nodeId : String) : Option DraftRef :=
  (c.lookup .removeNode nodeId).or (c.lookup .stopNode nodeId)

/-- `_add_dependencies(change, drafts, ...)`. -/
def addDependencies (change : StructuralChange) : Except PyError (List Link) :=
  c.matchingRef change >>= fun found =>
    match change with
    | .added (.node nodeId) (.node node _) => do
        let runtime ← c.startAfter nodeId (c.lookup .startRuntime node.runtimeId)
        let ingresses ← collectMap (fun entry =>
            if entry.2.connectorNodeId ≠ nodeId then .ok []
            else c.startAfter nodeId (c.lookup .allocateIngress entry.1))
          c.addedPublicIngresses.toList
        return runtime ++ ingresses
    | .added (.publicIngress ingressId) (.publicIngress ingress) =>
        let allocate := c.lookup .allocateIngress ingressId
        .ok (linked allocate (c.lookup .healthyNode ingress.target.nodeId) ++
          linked allocate (c.lookup .reconcileNode ingress.target.nodeId) ++
          linked (c.lookup .startNode ingress.connectorNodeId) allocate)
    | .added (.edge _) (.edge edge) =>
        match found with
        | none => .ok (linked
            ((c.lookup .startNode edge.consumerRole).or
              (c.lookup .reconcileNode edge.consumerRole))
            (c.lookup .healthyNode edge.providerRole))
        | some connection => .ok (c.endsHealthy connection edge)
    | .modified (.edge _) _ (.edge edge) =>
        match found with
        | none => .ok (linked (c.lookup .reconcileNode edge.consumerRole)
            (c.lookup .healthyNode edge.providerRole))
        | some connection => .ok (c.endsHealthy connection edge)
    | .removed (.node nodeId) (.node _ _) =>
        match c.lookup .stopNode nodeId with
        | none => .ok []
        | some stop =>
            .ok (c.ingressTeardown nodeId stop ++ c.edgeTeardown nodeId stop ++
            c.edgeSwitchover nodeId stop)
    | .removed (.runtime runtimeId) _ =>
        match c.lookup .stopRuntime runtimeId with
        | none => .ok []
        | some stop => .ok (
            c.removedNodeRuntime.toList.flatMap (fun entry =>
              if entry.2 = runtimeId then linked (some stop) (c.nodeGone entry.1)
              else []) ++
            linked (c.lookup .removeRuntime runtimeId) (some stop))
    | _ => .ok []

/-- What a moved node waits for, and what waits for it. -/
def membershipLinks (reconcile : DraftRef) : StructuralChange → List Link
  | .modified (.field _ .runtimeMembership _) (.text beforeRuntime)
      (.text afterRuntime) =>
      linked (some reconcile) (c.lookup .startRuntime afterRuntime) ++
        linked (c.lookup .stopRuntime beforeRuntime) (some reconcile)
  | _ => []

/-- The last loop, over the reconciled nodes. -/
def groupLinks (group : String × List StructuralChange) : Except PyError (List Link) :=
  match c.lookup .reconcileNode group.1 with
  | some reconcile => .ok (group.2.flatMap (c.membershipLinks reconcile))
  | none => .error (.keyError group.1)

def links (changes : List StructuralChange) : Except PyError (List Link) := do
  let structural ← collectMap c.addDependencies changes
  let membership ← collectMap c.groupLinks c.nodeReconciliations.toList
  return structural ++ membership

/-! ## The plan -/

/-- What was added to the dependencies of one draft. -/
def addedTo (links : List Link) (ref : DraftRef) : List ActivityId :=
  links.filterMap fun link =>
    if link.successor = ref then c.drafts[link.predecessor]?.map (·.activityId)
    else none

def finish (links : List Link) : List PlannedActivity :=
  c.drafts.zipIdx.map fun entry => entry.1.finish (c.addedTo links entry.2)

end Compilation

/-- What planning can raise. -/
inductive PlanningError where
  | diff (error : DiffError)
  | python (error : PyError)
  | plan (error : PlanError)
  deriving DecidableEq

/-- `compile_activity_plan(diff)`. -/
def compileActivityPlan (diff : GraphDiff) : Except PlanningError ActivityPlan := do
  let c ← (Compilation.gather diff.changes).mapError .python
  let links ← (c.links diff.changes).mapError .python
  (ActivityPlan.make (c.finish links)).mapError .plan

/-- `compile_activity_plan(diff_graphs(current, desired))`. -/
def planGraphs (current desired : ValidatedGraph) :
    Except PlanningError ActivityPlan := do
  let diff ← (diffGraphs current desired).mapError .diff
  compileActivityPlan diff

end ControlPlaneKit.Planning
