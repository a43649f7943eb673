import ControlPlaneKit.Planning.ActivityPlan
import ControlPlaneKit.Planning.Draft

/-!
# DraftLaws — the drafts of one change, and of one group of changes

What is created together is a `DraftGroup`: one token, distinct operations, and
no dependency but the one of a health check on its start and of a removal on its
stop.  `Drafts` says which operations a change is drafted as.
-/

namespace ControlPlaneKit.Planning

open ControlPlaneKit.Library
open ControlPlaneKit.Library.Outcome (Succeeds)
open ControlPlaneKit.Library.Text (isBlank)
open ControlPlaneKit.Topology

/-! ## Groups of drafts -/

/-- The label of the drafts of an operation. -/
def labelOf : ActivityOperation → Option DraftLabel
  | .startNode _ => some .startNode
  | .stopNode _ => some .stopNode
  | .removeNodeResource _ => some .removeNodeResource
  | .waitForHealthy _ => some .waitHealthy
  | .addSocketConnection _ => some .addConnection
  | .switchSocketConnection _ => some .switchConnection
  | .removeSocketConnection _ => some .removeConnection
  | .allocatePublicIngress _ => some .allocatePublicIngress
  | .removePublicIngress _ => some .removePublicIngress
  | .reconcileNode _ => some .reconcileNode
  | .reconcileRuntime _ => some .reconcileRuntime
  | .startRuntime _ => some .startRuntime
  | .stopRuntime _ => some .stopRuntime
  | .removeRuntimeResource _ => some .removeRuntimeResource
  | .destroyDataResource _ => none
  | .reviewChange _ _ => some .reviewChange

/-- The second operation is created depending on the first. -/
inductive Follows : ActivityOperation → ActivityOperation → Prop where
  | started (target : NodeTarget) : Follows (.startNode target) (.waitForHealthy target)
  | reconciled (target : NodeTarget) : Follows (.reconcileNode target)
      (.waitForHealthy target)
  | nodeStopped (target : NodeTarget) : Follows (.stopNode target)
      (.removeNodeResource target)
  | runtimeStopped (target : RuntimeTarget) :
      Follows (.stopRuntime target) (.removeRuntimeResource target)

theorem Follows.ne {first second : ActivityOperation} (h : Follows first second) :
    first ≠ second := by
  cases h <;> simp

theorem Follows.asymm {first second : ActivityOperation} (h : Follows first second) :
    ¬ Follows second first := by
  cases h <;> intro h' <;> cases h'

/-- A draft whose risk and impact a plan accepts. -/
def Draft.Safe (draft : Draft) : Prop :=
  (draft.impact = .destructive → draft.risk = .high) ∧
    (draft.operation.isReviewChange = true → draft.risk = .high) ∧
    draft.operation.isDestroyDataResource = false

/-- **Drafts created together**, for the given operations. -/
structure DraftGroup (token : ChangeToken) (operations : ActivityOperation → Prop)
    (created : List Draft) : Prop where
  token_eq : ∀ draft ∈ created, draft.token = token
  sound : ∀ draft ∈ created, operations draft.operation
  complete : ∀ operation, operations operation →
    ∃ draft ∈ created, draft.operation = operation
  nodup : (created.map (·.operation)).Nodup
  label_eq : ∀ draft ∈ created, labelOf draft.operation = some draft.label
  safe : ∀ draft ∈ created, draft.Safe
  dependencies : ∀ draft ∈ created, ∀ p, p ∈ draft.dependencies ↔
    ∃ other ∈ created, Follows other.operation draft.operation ∧ other.activityId = p

section Groups

variable {token : ChangeToken} {operations : ActivityOperation → Prop}

theorem draftGroup_nil (h : ∀ operation, ¬ operations operation) :
    DraftGroup token operations [] where
  token_eq := by simp
  sound := by simp
  complete operation hop := absurd hop (h operation)
  nodup := by simp
  label_eq := by simp
  safe := by simp
  dependencies := by simp

theorem draftGroup_single {draft : Draft} (htoken : draft.token = token)
    (hops : ∀ operation, operations operation ↔ operation = draft.operation)
    (hlabel : labelOf draft.operation = some draft.label) (hsafe : draft.Safe)
    (hnil : draft.dependencies = []) : DraftGroup token operations [draft] where
  token_eq := by simpa using htoken
  sound := by simp [hops]
  complete operation hop := ⟨draft, by simp, ((hops operation).mp hop).symm⟩
  nodup := by simp
  label_eq := by simpa using hlabel
  safe := by simpa using hsafe
  dependencies := by
    have hself : ¬ Follows draft.operation draft.operation := fun h => h.ne rfl
    simp [hnil, hself]

/-- Two drafts, the second depending on the first. -/
theorem draftGroup_pair {first second : Draft} (htoken : first.token = token)
    (htoken' : second.token = token)
    (hops : ∀ operation, operations operation ↔
      operation = first.operation ∨ operation = second.operation)
    (hlabel : labelOf first.operation = some first.label)
    (hlabel' : labelOf second.operation = some second.label) (hsafe : first.Safe)
    (hsafe' : second.Safe) (hnil : first.dependencies = [])
    (hnil' : second.dependencies = [])
    (hfollows : Follows first.operation second.operation) :
    DraftGroup token operations [first, second.dependingOn first] where
  token_eq := by simp [htoken, htoken', Draft.dependingOn]
  sound := by simp [hops, Draft.dependingOn]
  complete operation hop := by
    rcases (hops operation).mp hop with rfl | rfl
    · exact ⟨first, by simp, rfl⟩
    · exact ⟨second.dependingOn first, by simp, rfl⟩
  nodup := by simpa [Draft.dependingOn] using hfollows.ne
  label_eq := by simp [hlabel, hlabel', Draft.dependingOn]
  safe := by
    have : (second.dependingOn first).Safe := hsafe'
    simp [hsafe, this]
  dependencies := by
    have hself : ¬ Follows first.operation first.operation := fun h => h.ne rfl
    have hself' : ¬ Follows second.operation second.operation := fun h => h.ne rfl
    simp only [List.mem_cons, List.not_mem_nil, or_false, forall_eq_or_imp, forall_eq,
      exists_eq_or_imp, exists_eq_left, Draft.dependingOn, hnil, hnil',
      List.nil_append, hself, hself', hfollows, hfollows.asymm, false_and, true_and,
      or_false, implies_true]
    exact fun p => eq_comm

end Groups

/-! ## The operations a change is drafted as -/

/-- The value is a whole member of the kind the subject names. -/
def isWholeMember : DiffSubject → DiffValue → Bool
  | .runtime _, .runtime _ | .node _, .node _ _ | .edge _, .edge _
  | .publicIngress _, .publicIngress _ => true
  | _, _ => false

/-- A modification that needs no review: of an edge, or of a field of the graph. -/
def isPlainModification : DiffSubject → DiffValue → DiffValue → Bool
  | .edge _, .edge _, .edge _ | .field .graph _ _, _, _ => true
  | _, _, _ => false

/-- The reason a change is put up for review, if it is. -/
def reviewReason : StructuralChange → Option ReviewReason
  | .added subject value | .removed subject value =>
      if isWholeMember subject value then none else some .unsupportedChange
  | .modified subject before after =>
      if isPlainModification subject before after then none else some .unsupportedChange
  | .unsupported _ _ _ _ => some .unsupportedChange
  | .ambiguous _ _ _ _ => some .ambiguousChange

/-- **The operations of one change.** -/
inductive Drafts : StructuralChange → ActivityOperation → Prop where
  | startRuntime {target : RuntimeTarget} {runtime : RuntimeRecord}
      (howned : runtime.lifecycle.ownership = .owned) :
      Drafts (.added (.runtime target.runtimeId) (.runtime runtime))
        (.startRuntime target)
  | stopRuntime {target : RuntimeTarget} {runtime : RuntimeRecord}
      (howned : runtime.lifecycle.ownership = .owned) :
      Drafts (.removed (.runtime target.runtimeId) (.runtime runtime))
        (.stopRuntime target)
  | removeRuntime {target : RuntimeTarget} {runtime : RuntimeRecord}
      (howned : runtime.lifecycle.ownership = .owned)
      (hcompute : runtime.lifecycle.compute ≠ .retained) :
      Drafts (.removed (.runtime target.runtimeId) (.runtime runtime))
        (.removeRuntimeResource target)
  | startNode {target : NodeTarget} {node : Node} {encoded : PyDict}
      (howned : node.lifecycle.ownership = .owned) :
      Drafts (.added (.node target.nodeId) (.node node encoded)) (.startNode target)
  | waitForHealthy {target : NodeTarget} {node : Node} {encoded : PyDict}
      (howned : node.lifecycle.ownership = .owned) :
      Drafts (.added (.node target.nodeId) (.node node encoded))
        (.waitForHealthy target)
  | stopNode {target : NodeTarget} {node : Node} {encoded : PyDict}
      (howned : node.lifecycle.ownership = .owned) :
      Drafts (.removed (.node target.nodeId) (.node node encoded)) (.stopNode target)
  | removeNode {target : NodeTarget} {node : Node} {encoded : PyDict}
      (howned : node.lifecycle.ownership = .owned)
      (hcompute : node.lifecycle.compute ≠ .retained) :
      Drafts (.removed (.node target.nodeId) (.node node encoded))
        (.removeNodeResource target)
  | addConnection {target : SocketConnectionTarget} {edge : Edge}
      (hbinding : edge.binding ≠ .environment) :
      Drafts (.added (.edge target.edgeId) (.edge edge)) (.addSocketConnection target)
  | switchConnection {target : SocketConnectionTarget} {before after : Edge}
      (hbinding : throughEnvironment before after = false) :
      Drafts (.modified (.edge target.edgeId) (.edge before) (.edge after))
        (.switchSocketConnection target)
  | removeConnection {target : SocketConnectionTarget} {edge : Edge}
      (hbinding : edge.binding ≠ .environment) :
      Drafts (.removed (.edge target.edgeId) (.edge edge))
        (.removeSocketConnection target)
  | allocateIngress {target : PublicIngressActivityTarget}
      {ingress : NamedPublicIngress} : Drafts (.added (.publicIngress target.ingressId)
        (.publicIngress ingress)) (.allocatePublicIngress target)
  | removeIngress {target : PublicIngressActivityTarget}
      {ingress : NamedPublicIngress} : Drafts (.removed (.publicIngress
        target.ingressId) (.publicIngress ingress)) (.removePublicIngress target)
  | review {change : StructuralChange} {reason : ReviewReason}
      (hreason : reviewReason change = some reason) :
      Drafts change (.reviewChange ⟨change.subject⟩ reason)

/-- The identity that becomes a target when a whole member is drafted. -/
def memberTargetId : DiffSubject → DiffValue → Option String
  | .runtime runtimeId, .runtime runtime =>
      if runtime.lifecycle.ownership ≠ .owned then none else some runtimeId
  | .node nodeId, .node node _ =>
      if node.lifecycle.ownership ≠ .owned then none else some nodeId
  | .edge edgeId, .edge edge =>
      if edge.binding = .environment then none else some edgeId
  | .publicIngress ingressId, .publicIngress _ => some ingressId
  | _, _ => none

def modifiedTargetId : DiffSubject → DiffValue → DiffValue → Option String
  | .edge edgeId, .edge before, .edge after =>
      if throughEnvironment before after then none else some edgeId
  | _, _, _ => none

def targetId : StructuralChange → Option String
  | .added subject value | .removed subject value => memberTargetId subject value
  | .modified subject before after => modifiedTargetId subject before after
  | _ => none

section Targets

variable {token : ChangeToken} {change : StructuralChange}
  {changes : List StructuralChange} {created : List Draft}

theorem namedTarget_eq_ok {α : Type}
    {build : (identity : String) → isBlank identity = false → α}
    {message identity : String} {target : α} :
    namedTarget build message identity = .ok target ↔
      ∃ h, build identity h = target := by
  unfold namedTarget
  split
  · rename_i h
    simp [h]
  · rename_i h
    simp [h]

theorem succeeds_namedTarget {α : Type}
    {build : (identity : String) → isBlank identity = false → α}
    {message identity : String} :
    Succeeds (namedTarget build message identity) ↔ isBlank identity = false := by
  simp only [Succeeds, namedTarget_eq_ok]
  constructor
  · rintro ⟨_, h, -⟩
    exact h
  · exact fun h => ⟨_, h, rfl⟩

theorem draftOf_eq (htoken : changeToken change = .ok token) (label : DraftLabel)
    (operation : ActivityOperation) (risk : RiskLevel) (impact : ActivityImpact) :
    draftOf change label operation risk impact =
      .ok ⟨label, token, operation, risk, impact, []⟩ := by
  rw [draftOf, htoken]
  rfl

theorem draftMany_eq (htoken : changesToken changes = .ok token) (label : DraftLabel)
    (operation : ActivityOperation) (risk : RiskLevel) (impact : ActivityImpact) :
    draftMany changes label operation risk impact =
      .ok ⟨label, token, operation, risk, impact, []⟩ := by
  rw [draftMany, htoken]
  rfl

theorem chained_ok (first second : Draft) :
    chained (.ok first) (.ok second) = .ok [first, second.dependingOn first] := rfl

/-- What a stop and a removal make, by the compute they leave. -/
theorem stopThenRemove_group {lifecycle : ResourceLifecycle} {stop remove : Draft}
    {operations : ActivityOperation → Prop}
    (h : stopThenRemove lifecycle (.ok stop) (.ok remove) = .ok created)
    (htoken : stop.token = token) (htoken' : remove.token = token)
    (hops : ∀ operation, operations operation ↔ operation = stop.operation ∨
      lifecycle.compute ≠ .retained ∧ operation = remove.operation)
    (hlabel : labelOf stop.operation = some stop.label)
    (hlabel' : labelOf remove.operation = some remove.label) (hsafe : stop.Safe)
    (hsafe' : remove.Safe) (hnil : stop.dependencies = [])
    (hnil' : remove.dependencies = [])
    (hfollows : Follows stop.operation remove.operation) :
    DraftGroup token operations created := by
  unfold stopThenRemove at h
  split at h
  · rename_i hretained
    cases h
    exact draftGroup_single htoken (by simpa [hretained] using hops) hlabel hsafe hnil
  · rename_i hremoved
    rw [chained_ok] at h
    cases h
    exact draftGroup_pair htoken htoken'
      (by simpa [hremoved] using hops) hlabel hlabel' hsafe
      hsafe' hnil hnil' hfollows

theorem review_group (htoken : changeToken change = .ok token) {reason : ReviewReason}
    (hreason : reviewReason change = some reason)
    (hops : ∀ operation, Drafts change operation → operation.isReviewChange = true)
    (h : review change change.subject reason = .ok created) :
    DraftGroup token (Drafts change) created := by
  rw [review, draftOf_eq htoken] at h
  cases h
  refine draftGroup_single rfl (fun operation => ⟨fun hop => ?_, ?_⟩) rfl
    (by simp [Draft.Safe, ActivityOperation.isDestroyDataResource]) rfl
  · have hreview := hops operation hop
    cases hop with
    | review hreason' =>
        rw [hreason] at hreason'
        cases hreason'
        rfl
    | _ => cases hreview
  · rintro rfl
    exact .review hreason

/-- One draft for one target. -/
theorem single_group {α : Type}
    {build : (identity : String) → isBlank identity = false → α}
    {message identity : String} {operation : α → ActivityOperation} {label : DraftLabel}
    {risk : RiskLevel} {impact : ActivityImpact}
    (htoken : changeToken change = .ok token)
    (h : (namedTarget build message identity >>= fun target =>
      (draftOf change label (operation target) risk impact).map fun draft => [draft]) =
        .ok created)
    (hops : ∀ hblank other, Drafts change other ↔
      other = operation (build identity hblank))
    (hlabel : ∀ target, labelOf (operation target) = some label)
    (hsafe : ∀ target,
      (⟨label, token, operation target, risk, impact, []⟩ : Draft).Safe) :
    DraftGroup token (Drafts change) created := by
  obtain ⟨target, htarget, h⟩ := EventFold.bind_ok.mp h
  obtain ⟨hblank, rfl⟩ := namedTarget_eq_ok.mp htarget
  rw [draftOf_eq htoken] at h
  cases h
  exact draftGroup_single rfl (hops hblank) (hlabel _) (hsafe _) rfl

theorem safe_of_plain {label : DraftLabel} {operation : ActivityOperation}
    {risk : RiskLevel} {impact : ActivityImpact}
    (hreview : operation.isReviewChange = false)
    (hdata : operation.isDestroyDataResource = false)
    (hrisk : impact = .destructive → risk = .high) :
    (⟨label, token, operation, risk, impact, []⟩ : Draft).Safe :=
  ⟨hrisk, by simp [hreview], hdata⟩

/-- The drafts of an addition. -/
theorem compileAdded_group {subject : DiffSubject} {after : DiffValue}
    (htoken : changeToken (.added subject after) = .ok token)
    (h : compileAdded (.added subject after) subject after = .ok created) :
    DraftGroup token (Drafts (.added subject after)) created := by
  unfold compileAdded at h
  split at h
  · split at h
    · rename_i hunowned
      cases h
      refine draftGroup_nil fun operation hop => ?_
      cases hop with
      | startRuntime howned => exact hunowned howned
      | review hreason => cases hreason
    · rename_i howned
      refine single_group htoken h (fun hblank other => ⟨fun hop => ?_, ?_⟩)
        (fun _ => rfl)
        fun _ => safe_of_plain rfl rfl (by simp)
      · cases hop with
        | startRuntime => rfl
        | review hreason => cases hreason
      · rintro rfl
        exact @Drafts.startRuntime ⟨_, hblank⟩ _ (by simpa using howned)
  · split at h
    · rename_i hunowned
      cases h
      refine draftGroup_nil fun operation hop => ?_
      cases hop with
      | startNode howned | waitForHealthy howned => exact hunowned howned
      | review hreason => cases hreason
    · rename_i howned
      obtain ⟨target, htarget, h⟩ := EventFold.bind_ok.mp h
      obtain ⟨hblank, rfl⟩ := namedTarget_eq_ok.mp htarget
      rw [draftOf_eq htoken, draftOf_eq htoken, chained_ok] at h
      cases h
      refine draftGroup_pair rfl rfl (fun operation => ⟨fun hop => ?_, ?_⟩) rfl rfl
        (safe_of_plain rfl rfl (by simp)) (safe_of_plain rfl rfl (by simp)) rfl rfl
        (.started ⟨_, hblank⟩)
      · cases hop with
        | startNode => exact .inl rfl
        | waitForHealthy => exact .inr rfl
        | review hreason => cases hreason
      · rintro (rfl | rfl)
        · exact @Drafts.startNode ⟨_, hblank⟩ _ _ (by simpa using howned)
        · exact @Drafts.waitForHealthy ⟨_, hblank⟩ _ _ (by simpa using howned)
  · split at h
    · rename_i henvironment
      cases h
      refine draftGroup_nil fun operation hop => ?_
      cases hop with
      | addConnection hbinding => exact hbinding henvironment
      | review hreason => cases hreason
    · rename_i hbinding
      refine single_group htoken h (fun hblank other => ⟨fun hop => ?_, ?_⟩)
        (fun _ => rfl)
        fun _ => safe_of_plain rfl rfl (by simp)
      · cases hop with
        | addConnection => rfl
        | review hreason => cases hreason
      · rintro rfl
        exact @Drafts.addConnection ⟨_, hblank⟩ _ hbinding
  · refine single_group htoken h (fun hblank other => ⟨fun hop => ?_, ?_⟩)
      (fun _ => rfl)
      fun _ => safe_of_plain rfl rfl (by simp)
    · cases hop with
      | allocateIngress => rfl
      | review hreason => cases hreason
    · rintro rfl
      exact @Drafts.allocateIngress ⟨_, hblank⟩ _
  · rename_i hruntime hnode hedge hingress
    have hmember : isWholeMember subject after = false := by
      unfold isWholeMember
      split <;> simp_all
    refine review_group htoken (by simp [reviewReason, hmember])
      (fun operation hop => ?_) h
    cases hop with
    | review => rfl
    | startRuntime => exact absurd rfl (hruntime _ _ rfl)
    | startNode | waitForHealthy => exact absurd rfl (hnode _ _ _ rfl)
    | addConnection => exact absurd rfl (hedge _ _ rfl)
    | allocateIngress => exact absurd rfl (hingress _ _ rfl)

/-- The drafts of a removal. -/
theorem compileRemoved_group {subject : DiffSubject} {before : DiffValue}
    (htoken : changeToken (.removed subject before) = .ok token)
    (h : compileRemoved (.removed subject before) subject before = .ok created) :
    DraftGroup token (Drafts (.removed subject before)) created := by
  unfold compileRemoved at h
  split at h
  · split at h
    · rename_i hunowned
      cases h
      refine draftGroup_nil fun operation hop => ?_
      cases hop with
      | stopRuntime howned | removeRuntime howned => exact hunowned howned
      | review hreason => cases hreason
    · rename_i howned
      obtain ⟨target, htarget, h⟩ := EventFold.bind_ok.mp h
      obtain ⟨hblank, rfl⟩ := namedTarget_eq_ok.mp htarget
      rw [draftOf_eq htoken, draftOf_eq htoken] at h
      refine stopThenRemove_group h rfl rfl
        (fun operation => ⟨fun hop => ?_, ?_⟩) rfl rfl
        (safe_of_plain rfl rfl (by simp)) (safe_of_plain rfl rfl (by simp)) rfl rfl
        (.runtimeStopped ⟨_, hblank⟩)
      · cases hop with
        | stopRuntime => exact .inl rfl
        | removeRuntime _ hcompute => exact .inr ⟨hcompute, rfl⟩
        | review hreason => cases hreason
      · rintro (rfl | ⟨hcompute, rfl⟩)
        · exact @Drafts.stopRuntime ⟨_, hblank⟩ _ (by simpa using howned)
        · exact @Drafts.removeRuntime ⟨_, hblank⟩ _ (by simpa using howned) hcompute
  · split at h
    · rename_i hunowned
      cases h
      refine draftGroup_nil fun operation hop => ?_
      cases hop with
      | stopNode howned | removeNode howned => exact hunowned howned
      | review hreason => cases hreason
    · rename_i howned
      obtain ⟨target, htarget, h⟩ := EventFold.bind_ok.mp h
      obtain ⟨hblank, rfl⟩ := namedTarget_eq_ok.mp htarget
      rw [draftOf_eq htoken, draftOf_eq htoken] at h
      refine stopThenRemove_group h rfl rfl
        (fun operation => ⟨fun hop => ?_, ?_⟩) rfl rfl
        (safe_of_plain rfl rfl (by simp)) (safe_of_plain rfl rfl (by simp)) rfl rfl
        (.nodeStopped ⟨_, hblank⟩)
      · cases hop with
        | stopNode => exact .inl rfl
        | removeNode _ hcompute => exact .inr ⟨hcompute, rfl⟩
        | review hreason => cases hreason
      · rintro (rfl | ⟨hcompute, rfl⟩)
        · exact @Drafts.stopNode ⟨_, hblank⟩ _ _ (by simpa using howned)
        · exact @Drafts.removeNode ⟨_, hblank⟩ _ _ (by simpa using howned) hcompute
  · split at h
    · rename_i henvironment
      cases h
      refine draftGroup_nil fun operation hop => ?_
      cases hop with
      | removeConnection hbinding => exact hbinding henvironment
      | review hreason => cases hreason
    · rename_i hbinding
      refine single_group htoken h (fun hblank other => ⟨fun hop => ?_, ?_⟩)
        (fun _ => rfl)
        fun _ => safe_of_plain rfl rfl (by simp)
      · cases hop with
        | removeConnection => rfl
        | review hreason => cases hreason
      · rintro rfl
        exact @Drafts.removeConnection ⟨_, hblank⟩ _ hbinding
  · refine single_group htoken h (fun hblank other => ⟨fun hop => ?_, ?_⟩)
      (fun _ => rfl)
      fun _ => safe_of_plain rfl rfl (by simp)
    · cases hop with
      | removeIngress => rfl
      | review hreason => cases hreason
    · rintro rfl
      exact @Drafts.removeIngress ⟨_, hblank⟩ _
  · rename_i hruntime hnode hedge hingress
    have hmember : isWholeMember subject before = false := by
      unfold isWholeMember
      split <;> simp_all
    refine review_group htoken (by simp [reviewReason, hmember])
      (fun operation hop => ?_) h
    cases hop with
    | review => rfl
    | stopRuntime | removeRuntime => exact absurd rfl (hruntime _ _ rfl)
    | stopNode | removeNode => exact absurd rfl (hnode _ _ _ rfl)
    | removeConnection => exact absurd rfl (hedge _ _ rfl)
    | removeIngress => exact absurd rfl (hingress _ _ rfl)

/-- The drafts of a modification. -/
theorem compileModified_group {subject : DiffSubject} {before after : DiffValue}
    (htoken : changeToken (.modified subject before after) = .ok token)
    (h : compileModified (.modified subject before after) subject before after =
      .ok created) :
    DraftGroup token (Drafts (.modified subject before after)) created := by
  unfold compileModified at h
  split at h
  · split at h
    · rename_i henvironment
      cases h
      refine draftGroup_nil fun operation hop => ?_
      cases hop with
      | switchConnection hbinding => simp [henvironment] at hbinding
      | review hreason => cases hreason
    · rename_i hbinding
      refine single_group htoken h (fun hblank other => ⟨fun hop => ?_, ?_⟩)
        (fun _ => rfl)
        fun _ => safe_of_plain rfl rfl (by simp)
      · cases hop with
        | switchConnection => rfl
        | review hreason => cases hreason
      · rintro rfl
        exact @Drafts.switchConnection ⟨_, hblank⟩ _ _ (by simpa using hbinding)
  · cases h
    refine draftGroup_nil fun operation hop => ?_
    cases hop with
    | review hreason => cases hreason
  · rename_i hgraph hedge
    have hplain : isPlainModification subject before after = false := by
      unfold isPlainModification
      split <;> simp_all
    refine review_group htoken (by simp [reviewReason, hplain])
      (fun operation hop => ?_) h
    cases hop with
    | review => rfl
    | switchConnection => exact (hedge _ _ _ rfl rfl rfl).elim

/-- **The drafts of one change** are those of its operations. -/
theorem compileChange_group (htoken : changeToken change = .ok token)
    (h : compileChange change = .ok created) :
    DraftGroup token (Drafts change) created := by
  cases change with
  | added subject after => exact compileAdded_group htoken h
  | removed subject before => exact compileRemoved_group htoken h
  | modified subject before after => exact compileModified_group htoken h
  | unsupported subject before after reason =>
      exact review_group htoken rfl (fun operation hop => by cases hop; rfl) h
  | ambiguous subject reason before after =>
      exact review_group htoken rfl (fun operation hop => by cases hop; rfl) h

/-- Once its target is named, the drafting cannot fail. -/
theorem succeeds_targeted {α β : Type}
    {build : (identity : String) → isBlank identity = false → α}
    {message identity : String} {f : α → Except PyError β}
    (hf : ∀ target, Succeeds (f target)) :
    Succeeds (namedTarget build message identity >>= f) ↔ isBlank identity = false := by
  rw [Outcome.succeeds_bind, ← @succeeds_namedTarget _ build message]
  exact ⟨fun ⟨target, h, _⟩ => ⟨target, h⟩, fun ⟨target, h⟩ => ⟨target, h, hf target⟩⟩

section Success

variable (htoken : changeToken change = .ok token)

include htoken

theorem succeeds_draftOf (label : DraftLabel) (operation : ActivityOperation)
    (risk : RiskLevel) (impact : ActivityImpact) :
    Succeeds (draftOf change label operation risk impact) :=
  ⟨_, draftOf_eq htoken ..⟩

theorem succeeds_single (label : DraftLabel) (operation : ActivityOperation)
    (risk : RiskLevel) (impact : ActivityImpact) :
    Succeeds ((draftOf change label operation risk impact).map fun draft => [draft]) :=
  Outcome.succeeds_map.mpr (succeeds_draftOf htoken ..)

end Success

theorem succeeds_chained {first second : Except PyError Draft} (h : Succeeds first)
    (h' : Succeeds second) : Succeeds (chained first second) := by
  obtain ⟨first, rfl⟩ := h
  obtain ⟨second, rfl⟩ := h'
  exact Outcome.succeeds_ok _

theorem succeeds_stopThenRemove {lifecycle : ResourceLifecycle}
    {stop remove : Except PyError Draft} (h : Succeeds stop) (h' : Succeeds remove) :
    Succeeds (stopThenRemove lifecycle stop remove) := by
  unfold stopThenRemove
  split
  · exact Outcome.succeeds_map.mpr h
  · exact succeeds_chained h h'

/-- Work on the target, if there is one, fails on a blank one alone. -/
def FailsOnBlank (target : Option String) (work : Except PyError (List Draft)) : Prop :=
  Succeeds work ↔ ∀ identity, target = some identity → isBlank identity = false

theorem failsOnBlank_none {work : Except PyError (List Draft)} (h : Succeeds work) :
    FailsOnBlank none work := by
  simp [FailsOnBlank, h]

theorem failsOnBlank_some {work : Except PyError (List Draft)} {identity : String}
    (h : Succeeds work ↔ isBlank identity = false) :
    FailsOnBlank (some identity) work := by
  simp [FailsOnBlank, h]

theorem failsOnBlank_guarded {p : Prop} [Decidable p]
    {work : Except PyError (List Draft)} {identity : String}
    (h : Succeeds work ↔ isBlank identity = false) :
    FailsOnBlank (if p then none else some identity) (if p then .ok [] else work) := by
  split
  · exact failsOnBlank_none (Outcome.succeeds_ok _)
  · exact failsOnBlank_some h

/-- **Drafting a change** whose token exists fails only on a blank target. -/
theorem succeeds_compileChange (htoken : changeToken change = .ok token) :
    FailsOnBlank (targetId change) (compileChange change) := by
  have hdraft := succeeds_draftOf htoken
  have hsingle := succeeds_single htoken
  have hreview : ∀ subject reason, Succeeds (review change subject reason) :=
    fun _ _ => hsingle ..
  cases change with
  | added subject after =>
      simp only [targetId, compileChange, compileAdded]
      split
      · exact failsOnBlank_guarded (succeeds_targeted fun _ => hsingle ..)
      · exact failsOnBlank_guarded
          (succeeds_targeted fun _ => succeeds_chained (hdraft ..) (hdraft ..))
      · exact failsOnBlank_guarded (succeeds_targeted fun _ => hsingle ..)
      · exact failsOnBlank_some (succeeds_targeted fun _ => hsingle ..)
      · rename_i hruntime hnode hedge hingress
        have hnone : memberTargetId subject after = none := by
          unfold memberTargetId
          split <;> simp_all
        rw [hnone]
        exact failsOnBlank_none (hreview ..)
  | removed subject before =>
      simp only [targetId, compileChange, compileRemoved]
      split
      · exact failsOnBlank_guarded
          (succeeds_targeted fun _ => succeeds_stopThenRemove (hdraft ..) (hdraft ..))
      · exact failsOnBlank_guarded
          (succeeds_targeted fun _ => succeeds_stopThenRemove (hdraft ..) (hdraft ..))
      · exact failsOnBlank_guarded (succeeds_targeted fun _ => hsingle ..)
      · exact failsOnBlank_some (succeeds_targeted fun _ => hsingle ..)
      · rename_i hruntime hnode hedge hingress
        have hnone : memberTargetId subject before = none := by
          unfold memberTargetId
          split <;> simp_all
        rw [hnone]
        exact failsOnBlank_none (hreview ..)
  | modified subject before after =>
      simp only [targetId, compileChange, compileModified]
      split
      · exact failsOnBlank_guarded (succeeds_targeted fun _ => hsingle ..)
      · exact failsOnBlank_none (Outcome.succeeds_ok _)
      · rename_i hgraph hedge
        have hnone : modifiedTargetId subject before after = none := by
          unfold modifiedTargetId
          split <;> simp_all
        rw [hnone]
        exact failsOnBlank_none (hreview ..)
  | unsupported subject before after reason => exact failsOnBlank_none (hreview ..)
  | ambiguous subject reason before after => exact failsOnBlank_none (hreview ..)

/-! ## Groups of reconciled changes -/

/-- The two operations of a reconciled node. -/
inductive ReconcilesNode (nodeId : String) : ActivityOperation → Prop where
  | reconcile {target : NodeTarget} (h : target.nodeId = nodeId) :
      ReconcilesNode nodeId (.reconcileNode target)
  | health {target : NodeTarget} (h : target.nodeId = nodeId) :
      ReconcilesNode nodeId (.waitForHealthy target)

inductive ReconcilesRuntime (runtimeId : String) : ActivityOperation → Prop where
  | reconcile {target : RuntimeTarget} (h : target.runtimeId = runtimeId) :
      ReconcilesRuntime runtimeId (.reconcileRuntime target)

theorem reconcileNodeDrafts_group (htoken : changesToken changes = .ok token)
    {nodeId : String} (h : reconcileNodeDrafts changes nodeId = .ok created) :
    DraftGroup token (ReconcilesNode nodeId) created := by
  obtain ⟨target, htarget, h⟩ := EventFold.bind_ok.mp h
  obtain ⟨hblank, rfl⟩ := namedTarget_eq_ok.mp htarget
  rw [draftMany_eq htoken, draftMany_eq htoken, chained_ok] at h
  cases h
  refine draftGroup_pair rfl rfl (fun operation => ⟨fun hop => ?_, ?_⟩) rfl rfl
    (by simp [Draft.Safe, ActivityOperation.isReviewChange,
      ActivityOperation.isDestroyDataResource])
    (by simp [Draft.Safe, ActivityOperation.isReviewChange,
      ActivityOperation.isDestroyDataResource]) rfl rfl (.reconciled ⟨_, hblank⟩)
  · cases hop with
    | reconcile heq =>
        subst heq
        exact .inl rfl
    | health heq =>
        subst heq
        exact .inr rfl
  · rintro (rfl | rfl)
    · exact .reconcile rfl
    · exact .health rfl

theorem reconcileRuntimeDrafts_group (htoken : changesToken changes = .ok token)
    {runtimeId : String} (h : reconcileRuntimeDrafts changes runtimeId = .ok created) :
    DraftGroup token (ReconcilesRuntime runtimeId) created := by
  obtain ⟨target, htarget, h⟩ := EventFold.bind_ok.mp h
  obtain ⟨hblank, rfl⟩ := namedTarget_eq_ok.mp htarget
  rw [draftMany_eq htoken] at h
  cases h
  refine draftGroup_single rfl (fun operation => ⟨fun hop => ?_, ?_⟩) rfl
    (by simp [Draft.Safe, ActivityOperation.isReviewChange,
      ActivityOperation.isDestroyDataResource]) rfl
  · cases hop with
    | reconcile heq =>
        subst heq
        rfl
  · rintro rfl
    exact .reconcile rfl

theorem succeeds_reconcileNodeDrafts (htoken : changesToken changes = .ok token)
    {nodeId : String} :
    Succeeds (reconcileNodeDrafts changes nodeId) ↔ isBlank nodeId = false :=
  succeeds_targeted fun _ => by
    rw [draftMany_eq htoken, draftMany_eq htoken, chained_ok]
    exact Outcome.succeeds_ok _

theorem succeeds_reconcileRuntimeDrafts (htoken : changesToken changes = .ok token)
    {runtimeId : String} :
    Succeeds (reconcileRuntimeDrafts changes runtimeId) ↔ isBlank runtimeId = false :=
  succeeds_targeted fun _ => by
    rw [draftMany_eq htoken]
    exact Outcome.succeeds_ok _

end Targets

end ControlPlaneKit.Planning
