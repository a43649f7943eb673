import ControlPlaneKit.Library.EventFold
import ControlPlaneKit.Operations.EffectAttempt

/-!
# EffectFolding — what folding transitions into an attempt can do

`Folds` lists the ways a transition is accepted.  From it: an attempt keeps its
identity, request, lineage and fence along every run; a settled attempt keeps
everything; only a decision about the exact uncertain evidence resolves an
uncertain attempt; and an accepted transition is accepted again without effect.
-/

namespace ControlPlaneKit.Operations

open ControlPlaneKit.Library.EventFold (bind_ok)

/-! ## Contract errors -/

/-- The only error is that of the contract. -/
def Contractual {α : Type} (x : Except RecoveryError α) : Prop :=
  ∀ error, x = .error error → ∃ message, error = .invalidEffectRecoveryContract message

theorem contractual_ok {α : Type} (a : α) :
    Contractual (.ok a : Except RecoveryError α) := by
  rintro error ⟨⟩

theorem contractual_error {α : Type} (message : String) :
    Contractual
      (.error (.invalidEffectRecoveryContract message) : Except RecoveryError α) := by
  rintro error ⟨⟩
  exact ⟨message, rfl⟩

theorem contractual_requireContract (condition : Bool) (message : String) :
    Contractual (requireContract condition message) := by
  unfold requireContract
  split
  · exact contractual_ok ()
  · exact contractual_error message

theorem contractual_bind {α β : Type} {x : Except RecoveryError α}
    {f : α → Except RecoveryError β} (hx : Contractual x)
    (hf : ∀ a, x = .ok a → Contractual (f a)) : Contractual (x >>= f) := by
  cases x with
  | error e =>
      intro error herror
      cases herror
      exact hx e rfl
  | ok a => exact hf a rfl

theorem requireContract_eq_ok {condition : Bool} {message : String} :
    requireContract condition message = .ok () ↔ condition = true := by
  cases condition <;> simp [requireContract]

/-! ## Constructed states -/

section Make

variable {identity : EffectAttemptIdentity} {request outcome : Option String}
  {fence : EffectAttemptFence} {status : EffectAttemptStatus}
  {prior : Option EffectAttemptIdentity} {decision : Option EffectRecoveryDecision}

/-- A constructed state has the given fields. -/
structure IsState (identity : EffectAttemptIdentity) (request : Option String)
    (fence : EffectAttemptFence) (status : EffectAttemptStatus)
    (outcome : Option String) (prior : Option EffectAttemptIdentity)
    (decision : Option EffectRecoveryDecision) (state : EffectAttemptState) : Prop where
  identity_eq : state.identity = identity
  request_eq : state.requestFingerprint = request
  fence_eq : state.fence = fence
  status_eq : state.status = status
  outcome_eq : state.outcomeFingerprint = outcome
  prior_eq : state.priorAttempt = prior
  decision_eq : state.recoveryDecision = decision

theorem isState_of_make {state : EffectAttemptState}
    (h : EffectAttemptState.make identity request fence status outcome prior decision =
      .ok state) :
      IsState identity request fence status outcome prior decision state := by
  unfold EffectAttemptState.make at h
  split at h
  · cases h
    exact ⟨rfl, rfl, rfl, rfl, rfl, rfl, rfl⟩
  · cases h

/-- What passes the check is constructed. -/
theorem contractual_make
    (h : checkState identity request status outcome prior decision = .ok ()) :
    Contractual (EffectAttemptState.make identity request fence status outcome prior
      decision) := by
  unfold EffectAttemptState.make
  split
  · exact contractual_ok _
  · rename_i error herror
    rw [h] at herror
    cases herror

end Make

/-! ## What the constructors guarantee -/

namespace EffectAttemptTransition

variable {transition : EffectAttemptTransition}

theorem started_valid (h : transition.kind = .started) :
    requireFingerprint transition.requestFingerprint "request_fingerprint" = .ok () ∧
      validateRetryLineage transition.identity transition.priorAttempt = .ok () := by
  have hchecked := transition.checked
  unfold checkTransition at hchecked
  rw [if_pos h] at hchecked
  obtain ⟨_, hrequest, hrest⟩ := bind_ok.mp hchecked
  obtain ⟨_, hlineage, -⟩ := bind_ok.mp hrest
  exact ⟨hrequest, hlineage⟩

theorem result_valid (h : transition.kind ∈ directResultTransitions) :
    requireFingerprint transition.outcomeFingerprint "outcome_fingerprint" =
      .ok () := by
  have hstarted : transition.kind ≠ .started := by
    rintro heq
    simp [heq, directResultTransitions] at h
  have hchecked := transition.checked
  unfold checkTransition at hchecked
  rw [if_neg hstarted] at hchecked
  obtain ⟨_, -, hrest⟩ := bind_ok.mp hchecked
  obtain ⟨_, -, hrest⟩ := bind_ok.mp hrest
  rw [if_pos h] at hrest
  obtain ⟨_, houtcome, -⟩ := bind_ok.mp hrest
  exact houtcome

/-- A recovery transition carries a decision about its own attempt. -/
theorem recovery_valid (h : transition.kind ∈ recoveryTransitions) :
    ∃ decision, transition.recoveryDecision = some decision ∧
      decision.attemptIdentity = transition.identity := by
  have hkind : transition.kind ≠ .started ∧
      transition.kind ∉ directResultTransitions := by
    constructor
    · rintro heq
      simp [heq, recoveryTransitions] at h
    · simp only [recoveryTransitions, List.mem_cons, List.not_mem_nil, or_false] at h
      rcases h with h | h <;> simp [h, directResultTransitions]
  have hchecked := transition.checked
  unfold checkTransition at hchecked
  rw [if_neg hkind.1] at hchecked
  obtain ⟨_, -, hrest⟩ := bind_ok.mp hchecked
  obtain ⟨_, -, hrest⟩ := bind_ok.mp hrest
  rw [if_neg hkind.2] at hrest
  obtain ⟨_, -, hrest⟩ := bind_ok.mp hrest
  split at hrest
  · cases hrest
  · rename_i decision hdecision
    obtain ⟨_, hidentity, -⟩ := bind_ok.mp hrest
    exact ⟨decision, hdecision, by simpa using requireContract_eq_ok.mp hidentity⟩

/-- Every kind starts, results or recovers. -/
theorem kind_cases (transition : EffectAttemptTransition) :
    transition.kind = .started ∨ transition.kind ∈ directResultTransitions ∨
      transition.kind ∈ recoveryTransitions := by
  cases transition.kind <;> simp [directResultTransitions, recoveryTransitions]

end EffectAttemptTransition

/-- The request and the lineage of a state are valid. -/
theorem EffectAttemptState.valid (state : EffectAttemptState) :
    requireFingerprint state.requestFingerprint "request_fingerprint" = .ok () ∧
      validateRetryLineage state.identity state.priorAttempt = .ok () := by
  obtain ⟨_, hrequest, hrest⟩ := bind_ok.mp state.checked
  obtain ⟨_, hlineage, -⟩ := bind_ok.mp hrest
  exact ⟨hrequest, hlineage⟩

/-! ## How a transition is accepted -/

/-- The same attempt, whatever its status: identity, request, lineage and fence. -/
structure SameAttempt (before after : EffectAttemptState) : Prop where
  identity : after.identity = before.identity
  request : after.requestFingerprint = before.requestFingerprint
  prior : after.priorAttempt = before.priorAttempt
  fence : after.fence = before.fence

/-- **A decision resolves an uncertain attempt** when it names the attempt and the
exact evidence of its uncertainty. -/
structure Resolves (state : EffectAttemptState)
    (decision : EffectRecoveryDecision) : Prop where
  attempt : decision.attemptIdentity = state.identity
  evidence : state.outcomeFingerprint = some decision.uncertainFingerprint

/-- **Accepted transitions**, one constructor for each way of accepting. -/
inductive Folds :
    Option EffectAttemptState → EffectAttemptTransition → EffectAttemptFence →
    EffectAttemptState → Prop where
  | started {transition : EffectAttemptTransition} {fence : EffectAttemptFence}
      {after : EffectAttemptState} (hkind : transition.kind = .started)
      (hafter : IsState transition.identity transition.requestFingerprint fence .started
        none transition.priorAttempt none after) :
      Folds none transition fence after
  | duplicate {state : EffectAttemptState} {transition : EffectAttemptTransition}
      {fence : EffectAttemptFence} (hidentity : transition.identity = state.identity)
      (hfence : fence = state.fence)
        (hduplicate : isExactDuplicate state transition = .ok true) :
      Folds (some state) transition fence state
  | recovered {state after : EffectAttemptState} {transition : EffectAttemptTransition}
      {fence : EffectAttemptFence} {decision : EffectRecoveryDecision}
      (hidentity : transition.identity = state.identity) (hfence : fence = state.fence)
      (hkind : transition.kind ∈ recoveryTransitions)
        (hstatus : state.status = .uncertain)
      (hdecision : transition.recoveryDecision = some decision)
      (hresolves : Resolves state decision)
      (hafter : IsState state.identity state.requestFingerprint state.fence
        (statusByRecoveryResolution decision.resolution)
        (some decision.evidenceFingerprint)
        state.priorAttempt (some decision) after) :
      Folds (some state) transition fence after
  | resulted {state after : EffectAttemptState} {transition : EffectAttemptTransition}
      {fence : EffectAttemptFence} {status : EffectAttemptStatus}
      (hidentity : transition.identity = state.identity) (hfence : fence = state.fence)
      (hkind : transition.kind ∈ directResultTransitions)
        (hstatus : state.status = .started)
      (hresult : statusByDirectTransition transition.kind = .ok status)
      (hafter : IsState state.identity state.requestFingerprint state.fence status
        transition.outcomeFingerprint state.priorAttempt none after) :
      Folds (some state) transition fence after

section Folding

variable {state after : EffectAttemptState} {transition : EffectAttemptTransition}
  {fence : EffectAttemptFence}

/-- A recovery is no start and no direct result. -/
theorem not_direct_of_recovery {kind : EffectAttemptTransitionKind}
    (h : kind ∈ recoveryTransitions) :
    kind ≠ .started ∧ kind ∉ directResultTransitions := by
  simp only [recoveryTransitions, List.mem_cons, List.not_mem_nil, or_false] at h
  rcases h with rfl | rfl <;> decide

theorem not_recovery_of_direct {kind : EffectAttemptTransitionKind}
    (h : kind ∈ directResultTransitions) :
    kind ≠ .started ∧ kind ∉ recoveryTransitions := by
  simp only [directResultTransitions, List.mem_cons, List.not_mem_nil, or_false] at h
  rcases h with rfl | rfl | rfl | rfl <;> decide

theorem folds_of_foldNew (hidentity : transition.identity = state.identity)
    (hfence : fence = state.fence) (h : foldNew state transition = .ok after) :
    Folds (some state) transition fence after := by
  obtain ⟨_, hstarted, hrest⟩ := bind_ok.mp h
  have hstarted : transition.kind ≠ .started := by
    simpa using requireContract_eq_ok.mp hstarted
  split at hrest
  · rename_i hkind
    obtain ⟨_, hstatus, hrest⟩ := bind_ok.mp hrest
    obtain ⟨decision, hattribute, hrest⟩ := bind_ok.mp hrest
    obtain ⟨_, hevidence, hmake⟩ := bind_ok.mp hrest
    obtain ⟨decision', hdecision, hattempt⟩ := transition.recovery_valid hkind
    rw [hdecision] at hattribute
    cases hattribute
    exact .recovered hidentity hfence hkind
      (by simpa using requireContract_eq_ok.mp hstatus)
      hdecision ⟨hattempt.trans hidentity,
        by simpa using requireContract_eq_ok.mp hevidence⟩
      (isState_of_make hmake)
  · rename_i hkind
    obtain ⟨_, hstatus, hrest⟩ := bind_ok.mp hrest
    obtain ⟨status, hresult, hmake⟩ := bind_ok.mp hrest
    have hdirect : transition.kind ∈ directResultTransitions := by
      rcases transition.kind_cases with h | h | h
      · exact absurd h hstarted
      · exact h
      · exact absurd h hkind
    exact .resulted hidentity hfence hdirect
      (by simpa using requireContract_eq_ok.mp hstatus)
      hresult (isState_of_make hmake)

/-- **How a transition is accepted.** -/
theorem folds_of_fold {current : Option EffectAttemptState}
    (h : foldEffectAttempt current transition fence = .ok after) :
    Folds current transition fence after := by
  cases current with
  | none =>
      obtain ⟨_, hkind, hmake⟩ := bind_ok.mp h
      exact .started (by simpa using requireContract_eq_ok.mp hkind)
        (isState_of_make hmake)
  | some state =>
      obtain ⟨_, hidentity, hrest⟩ := bind_ok.mp h
      obtain ⟨_, hfence, hrest⟩ := bind_ok.mp hrest
      obtain ⟨duplicate, hduplicate, hrest⟩ := bind_ok.mp hrest
      have hidentity : transition.identity = state.identity := by
        simpa using requireContract_eq_ok.mp hidentity
      have hfence : fence = state.fence := by
        simpa using requireContract_eq_ok.mp hfence
      cases duplicate with
      | true =>
          cases hrest
          exact .duplicate hidentity hfence hduplicate
      | false => exact folds_of_foldNew hidentity hfence hrest

/-- An exact duplicate of the last accepted transition is accepted without effect. -/
theorem fold_duplicate (hidentity : transition.identity = state.identity)
    (hfence : fence = state.fence)
    (hduplicate : isExactDuplicate state transition = .ok true) :
    foldEffectAttempt (some state) transition fence = .ok state := by
  simp only [foldEffectAttempt, hidentity, hfence, hduplicate, decide_true]
  rfl

/-- **Folding again changes nothing.** -/
theorem Folds.again {current : Option EffectAttemptState}
    (h : Folds current transition fence after) :
    foldEffectAttempt (some after) transition fence = .ok after := by
  cases h with
  | started hkind hafter =>
      refine fold_duplicate hafter.identity_eq.symm hafter.fence_eq.symm ?_
      simp [isExactDuplicate, hkind, hafter.status_eq, hafter.request_eq,
        hafter.prior_eq]
  | duplicate hidentity hfence hduplicate =>
      exact fold_duplicate hidentity hfence hduplicate
  | recovered hidentity hfence hkind _ hdecision _ hafter =>
      refine fold_duplicate (hidentity.trans hafter.identity_eq.symm)
        (hfence.trans hafter.fence_eq.symm) ?_
      rw [isExactDuplicate, if_neg (not_direct_of_recovery hkind).1,
        if_neg (not_direct_of_recovery hkind).2, hdecision]
      simp [decisionWith, hafter.status_eq, hafter.outcome_eq, hafter.decision_eq, bind,
        Except.bind, pure, Except.pure]
  | resulted hidentity hfence hkind _ hresult hafter =>
      refine fold_duplicate (hidentity.trans hafter.identity_eq.symm)
        (hfence.trans hafter.fence_eq.symm) ?_
      rw [isExactDuplicate, if_neg (not_recovery_of_direct hkind).1,
        if_pos hkind, hresult]
      simp [hafter.status_eq, hafter.outcome_eq, hafter.decision_eq, bind, Except.bind,
        pure, Except.pure]

/-- An accepted transition keeps the attempt. -/
theorem Folds.same (h : Folds (some state) transition fence after) :
    SameAttempt state after := by
  cases h with
  | duplicate => exact ⟨rfl, rfl, rfl, rfl⟩
  | recovered _ _ _ _ _ _ hafter | resulted _ _ _ _ _ hafter =>
      exact ⟨hafter.identity_eq, hafter.request_eq, hafter.prior_eq, hafter.fence_eq⟩

/-- Only an attempt that is started or uncertain changes. -/
theorem Folds.eq_of_settled (h : Folds (some state) transition fence after)
    (hstarted : state.status ≠ .started) (huncertain : state.status ≠ .uncertain) :
    after = state := by
  cases h with
  | duplicate => rfl
  | recovered _ _ _ hstatus => exact absurd hstatus huncertain
  | resulted _ _ _ hstatus => exact absurd hstatus hstarted

/-! ## Rejections -/

/-- A direct result has a status, which is neither started nor abandoned. -/
theorem statusByDirectTransition_of_mem {kind : EffectAttemptTransitionKind}
    (h : kind ∈ directResultTransitions) : ∃ status,
      statusByDirectTransition kind = .ok status ∧ status ≠ .started ∧
      status ≠ .abandoned := by
  simp only [directResultTransitions, List.mem_cons, List.not_mem_nil, or_false] at h
  rcases h with rfl | rfl | rfl | rfl <;> exact ⟨_, rfl, by decide, by decide⟩

theorem contractual_isExactDuplicate (state : EffectAttemptState)
    (transition : EffectAttemptTransition) :
    Contractual (isExactDuplicate state transition) := by
  unfold isExactDuplicate
  split
  · exact contractual_ok _
  · rename_i hstarted
    split
    · rename_i hdirect
      obtain ⟨status, hstatus, -⟩ := statusByDirectTransition_of_mem hdirect
      rw [hstatus]
      exact contractual_ok _
    · rename_i hdirect
      have hrecovery : transition.kind ∈ recoveryTransitions := by
        rcases transition.kind_cases with h | h | h
        · exact absurd h hstarted
        · exact absurd h hdirect
        · exact h
      obtain ⟨decision, hdecision, -⟩ := transition.recovery_valid hrecovery
      rw [hdecision]
      exact contractual_ok _

section Checked

variable {identity : EffectAttemptIdentity} {request outcome : Option String}
  {status : EffectAttemptStatus} {prior : Option EffectAttemptIdentity}

theorem checkState_started
    (hrequest : requireFingerprint request "request_fingerprint" = .ok ())
    (hlineage : validateRetryLineage identity prior = .ok ()) :
    checkState identity request .started none prior none = .ok () := by
  unfold checkState
  rw [hrequest, hlineage]
  rfl

theorem checkState_resulted
    (hrequest : requireFingerprint request "request_fingerprint" = .ok ())
    (hlineage : validateRetryLineage identity prior = .ok ())
    (houtcome : requireFingerprint outcome "outcome_fingerprint" = .ok ())
    (hstarted : status ≠ .started) (habandoned : status ≠ .abandoned) :
    checkState identity request status outcome prior none = .ok () := by
  unfold checkState
  rw [hrequest, hlineage, if_neg hstarted, houtcome]
  simp [habandoned, requireContract, bind, Except.bind]

theorem checkState_recovered {decision : EffectRecoveryDecision}
    (hrequest : requireFingerprint request "request_fingerprint" = .ok ())
    (hlineage : validateRetryLineage identity prior = .ok ())
    (hattempt : decision.attemptIdentity = identity) :
    checkState identity request (statusByRecoveryResolution decision.resolution)
      (some decision.evidenceFingerprint) prior (some decision) = .ok () := by
  have hstarted : statusByRecoveryResolution decision.resolution ≠ .started := by
    cases decision.resolution <;> decide
  unfold checkState
  rw [hrequest, hlineage, if_neg hstarted]
  simp [hattempt, requireFingerprint, decision.evidence_valid, requireContract,
    bind, Except.bind]

end Checked

theorem contractual_foldNew (hidentity : transition.identity = state.identity) :
    Contractual (foldNew state transition) := by
  refine contractual_bind (contractual_requireContract _ _) fun _ hkind => ?_
  have hstarted : transition.kind ≠ .started := by
    simpa using requireContract_eq_ok.mp hkind
  split
  · rename_i hrecovery
    refine contractual_bind (contractual_requireContract _ _) fun _ _ => ?_
    obtain ⟨decision, hdecision, hattempt⟩ := transition.recovery_valid hrecovery
    rw [hdecision]
    refine contractual_bind (contractual_ok _) fun found hfound => ?_
    cases hfound
    refine contractual_bind (contractual_requireContract _ _) fun _ _ => ?_
    exact contractual_make (checkState_recovered state.valid.1 state.valid.2
      (hattempt.trans hidentity))
  · rename_i hrecovery
    have hdirect : transition.kind ∈ directResultTransitions := by
      rcases transition.kind_cases with h | h | h
      · exact absurd h hstarted
      · exact h
      · exact absurd h hrecovery
    refine contractual_bind (contractual_requireContract _ _) fun _ _ => ?_
    obtain ⟨status, hresult, hne⟩ := statusByDirectTransition_of_mem hdirect
    rw [hresult]
    refine contractual_bind (contractual_ok _) fun found hfound => ?_
    cases hfound
    exact contractual_make (checkState_resulted state.valid.1 state.valid.2
      (transition.result_valid hdirect) hne.1 hne.2)

/-- **A rejection is a contract error.** -/
theorem contractual_fold (current : Option EffectAttemptState)
    (transition : EffectAttemptTransition) (fence : EffectAttemptFence) :
    Contractual (foldEffectAttempt current transition fence) := by
  cases current with
  | none =>
      refine contractual_bind (contractual_requireContract _ _) fun _ hkind => ?_
      have hstarted : transition.kind = .started := by
        simpa using requireContract_eq_ok.mp hkind
      obtain ⟨hrequest, hlineage⟩ := transition.started_valid hstarted
      exact contractual_make (checkState_started hrequest hlineage)
  | some state =>
      refine contractual_bind (contractual_requireContract _ _) fun _ hidentity => ?_
      refine contractual_bind (contractual_requireContract _ _) fun _ _ => ?_
      refine contractual_bind (contractual_isExactDuplicate _ _) fun duplicate _ => ?_
      cases duplicate with
      | true => exact contractual_ok state
      | false =>
          exact contractual_foldNew (by simpa using requireContract_eq_ok.mp hidentity)

end Folding

/-! ## Runs -/

/-- One attempt to fold: a rejected transition leaves the state. -/
def foldOrKeep (current : Option EffectAttemptState)
    (step : EffectAttemptTransition × EffectAttemptFence) : Option EffectAttemptState :=
  match foldEffectAttempt current step.1 step.2 with
  | .ok after => some after
  | .error _ => current

/-- Folding a sequence of transitions, each under a fence. -/
def foldEffectAttempts (current : Option EffectAttemptState)
    (steps : List (EffectAttemptTransition × EffectAttemptFence)) :
    Option EffectAttemptState :=
  steps.foldl foldOrKeep current

/-- The statuses that nothing follows. -/
def settledStatuses : List EffectAttemptStatus :=
  [.succeeded, .failed, .unsupported, .abandoned]

/-- **An uncertain attempt is resolved** somewhere along the steps, by an accepted
transition with a decision about this attempt and its evidence. -/
def ResolvedAlong (state after : EffectAttemptState)
    (steps : List (EffectAttemptTransition × EffectAttemptFence)) : Prop :=
  ∃ (before later : List (EffectAttemptTransition × EffectAttemptFence))
    (transition : EffectAttemptTransition) (fence : EffectAttemptFence)
    (decision : EffectRecoveryDecision),
    steps = before ++ (transition, fence) :: later ∧
      foldEffectAttempts (some state) before = some state ∧
      foldEffectAttempt (some state) transition fence = .ok after ∧
      transition.recoveryDecision = some decision ∧ Resolves state decision

section Runs

variable {state : EffectAttemptState}
  {steps : List (EffectAttemptTransition × EffectAttemptFence)}

theorem foldOrKeep_some (state : EffectAttemptState)
    (step : EffectAttemptTransition × EffectAttemptFence) :
    (∃ after, foldEffectAttempt (some state) step.1 step.2 = .ok after ∧
      foldOrKeep (some state) step = some after) ∨
      foldOrKeep (some state) step = some state := by
  cases hfold : foldEffectAttempt (some state) step.1 step.2 with
  | ok after => exact .inl ⟨after, rfl, by rw [foldOrKeep, hfold]⟩
  | error error => exact .inr (by rw [foldOrKeep, hfold])

theorem SameAttempt.trans {first second third : EffectAttemptState}
    (h : SameAttempt first second) (h' : SameAttempt second third) :
    SameAttempt first third :=
  ⟨h'.identity.trans h.identity, h'.request.trans h.request, h'.prior.trans h.prior,
    h'.fence.trans h.fence⟩

/-- **A run keeps the attempt.** -/
theorem run_same (state : EffectAttemptState)
    (steps : List (EffectAttemptTransition × EffectAttemptFence)) :
    ∃ after, foldEffectAttempts (some state) steps = some after ∧
    SameAttempt state after := by
  induction steps generalizing state with
  | nil => exact ⟨state, rfl, rfl, rfl, rfl, rfl⟩
  | cons step steps ih =>
      rw [foldEffectAttempts, List.foldl_cons]
      rcases foldOrKeep_some state step with ⟨next, hfold, hstep⟩ | hstep
      · rw [hstep]
        obtain ⟨after, hafter, hsame⟩ := ih next
        exact ⟨after, hafter, (folds_of_fold hfold).same.trans hsame⟩
      · rw [hstep]
        exact ih state

/-- **A settled attempt stays as it is** along every run. -/
theorem run_settled (hsettled : state.status ∈ settledStatuses)
    (steps : List (EffectAttemptTransition × EffectAttemptFence)) :
    foldEffectAttempts (some state) steps = some state := by
  have hstatus : state.status ≠ .started ∧ state.status ≠ .uncertain := by
    constructor <;> intro heq <;> simp [heq, settledStatuses] at hsettled
  induction steps with
  | nil => rfl
  | cons step steps ih =>
      rw [foldEffectAttempts, List.foldl_cons]
      rcases foldOrKeep_some state step with ⟨next, hfold, hstep⟩ | hstep
      · rw [hstep, (folds_of_fold hfold).eq_of_settled hstatus.1 hstatus.2]
        exact ih
      · rw [hstep]
        exact ih

/-- A recovery settles the attempt. -/
theorem settled_of_resolution {decision : EffectRecoveryDecision}
    {after : EffectAttemptState}
    (h : after.status = statusByRecoveryResolution decision.resolution) :
    after.status ∈ settledStatuses := by
  rw [h]
  cases decision.resolution <;> decide

/-- **An uncertain attempt is left by a decision alone**, and stays where the
decision leads. -/
theorem run_uncertain (huncertain : state.status = .uncertain)
    {after : EffectAttemptState}
    (h : foldEffectAttempts (some state) steps = some after) :
    after = state ∨ ResolvedAlong state after steps := by
  induction steps with
  | nil => exact .inl (Option.some.inj h).symm
  | cons step steps ih =>
      have hkept : foldOrKeep (some state) step = some state →
          after = state ∨ ResolvedAlong state after (step :: steps) := by
        intro hstep
        rw [foldEffectAttempts, List.foldl_cons, hstep] at h
        refine (ih h).imp_right ?_
        rintro ⟨before, later, transition, fence, decision, rfl, hbefore, hrest⟩
        refine ⟨step :: before, later, transition, fence, decision, rfl, ?_, hrest⟩
        rw [foldEffectAttempts, List.foldl_cons, hstep]
        exact hbefore
      rcases foldOrKeep_some state step with ⟨next, hfold, hstep⟩ | hstep
      · cases folds_of_fold hfold with
        | duplicate => exact hkept hstep
        | recovered _ _ _ _ hdecision hresolves hafter =>
            have hsettled := run_settled (settled_of_resolution hafter.status_eq) steps
            rw [foldEffectAttempts, List.foldl_cons, hstep] at h
            have heq : next = after := Option.some.inj (hsettled.symm.trans h)
            subst heq
            exact .inr ⟨[], steps, step.1, step.2, _, rfl, rfl, hfold,
              hdecision, hresolves⟩
        | resulted _ _ _ hstatus =>
            rw [huncertain] at hstatus
            cases hstatus
      · exact hkept hstep

end Runs

/-- **Folding effect attempts.**  From any state of an attempt, along any sequence
of transitions and fences: the identity, the request, the lineage and the fence
stay; a settled attempt stays as it is; an uncertain one is left only through a
decision about its exact evidence.  Whatever is accepted is accepted again
without effect, and whatever is rejected is rejected by the contract. -/
theorem foldsCoherently :
    (∀ (state : EffectAttemptState)
      (steps : List (EffectAttemptTransition × EffectAttemptFence)),
      ∃ after, foldEffectAttempts (some state) steps = some after ∧
      SameAttempt state after) ∧
    (∀ state : EffectAttemptState, state.status ∈ settledStatuses →
      (∀ steps, foldEffectAttempts (some state) steps = some state) ∧
      ∀ transition fence after,
        foldEffectAttempt (some state) transition fence = .ok after →
        after = state) ∧
    (∀ (state after : EffectAttemptState)
      (steps : List (EffectAttemptTransition × EffectAttemptFence)),
      state.status = .uncertain → foldEffectAttempts (some state) steps = some after →
        after = state ∨ ResolvedAlong state after steps) ∧
    (∀ (current : Option EffectAttemptState) (transition : EffectAttemptTransition)
      (fence : EffectAttemptFence) (after : EffectAttemptState),
      foldEffectAttempt current transition fence = .ok after →
        foldEffectAttempt (some after) transition fence = .ok after) ∧
    ∀ (current : Option EffectAttemptState) (transition : EffectAttemptTransition)
      (fence : EffectAttemptFence) (error : RecoveryError),
      foldEffectAttempt current transition fence = .error error →
        ∃ message, error = .invalidEffectRecoveryContract message := by
  refine ⟨run_same, fun state hsettled => ⟨run_settled hsettled, ?_⟩,
    fun state after steps huncertain h => run_uncertain huncertain h,
    fun current transition fence after h => (folds_of_fold h).again, contractual_fold⟩
  intro transition fence after h
  have hstatus : state.status ≠ .started ∧ state.status ≠ .uncertain := by
    constructor <;> intro heq <;> simp [heq, settledStatuses] at hsettled
  exact (folds_of_fold h).eq_of_settled hstatus.1 hstatus.2

/-! ## A reconciled attempt -/

def sampleFingerprint (digit : Char) : String := String.ofList (List.replicate 64 digit)

def sampleAttempt : EffectAttemptIdentity :=
  ⟨"run-1", "activity-1", 1, by decide, by decide, by decide⟩

def sampleFence : EffectAttemptFence := ⟨"worker-1", 1, by decide, by decide⟩

def uncertainAttempt : EffectAttemptState :=
  ⟨sampleAttempt, some (sampleFingerprint 'a'), sampleFence, .uncertain,
    some (sampleFingerprint 'b'), none, none, by decide +kernel⟩

def reconcileAttempt : EffectAttemptTransition :=
  ⟨.reconciled, sampleAttempt, none, none, none,
    some ⟨"decision-1", sampleAttempt, .succeeded, sampleFingerprint 'b',
      sampleFingerprint 'c', by decide, by decide +kernel, by decide +kernel⟩,
      by decide +kernel⟩

/-- Reconciling twice: the first time resolves, the second changes nothing. -/
theorem uncertainAttempt_resolved : ∃ after : EffectAttemptState,
    foldEffectAttempts (some uncertainAttempt)
        [(reconcileAttempt, sampleFence), (reconcileAttempt, sampleFence)] =
          some after ∧
      after.status = .succeeded ∧
      ResolvedAlong uncertainAttempt after
        [(reconcileAttempt, sampleFence), (reconcileAttempt, sampleFence)] := by
  obtain ⟨hrun, -, hresolved, -⟩ := foldsCoherently
  obtain ⟨after, hafter, -⟩ := hrun uncertainAttempt
    [(reconcileAttempt, sampleFence), (reconcileAttempt, sampleFence)]
  have hstatus : (foldEffectAttempts (some uncertainAttempt)
      [(reconcileAttempt, sampleFence), (reconcileAttempt, sampleFence)]).map
      (·.status) =
        some .succeeded := by
    decide +kernel
  rw [hafter, Option.map_some, Option.some.injEq] at hstatus
  refine ⟨after, hafter, hstatus, ?_⟩
  rcases hresolved uncertainAttempt after _ rfl hafter with heq | h
  · rw [heq] at hstatus
    cases hstatus
  · exact h

end ControlPlaneKit.Operations
