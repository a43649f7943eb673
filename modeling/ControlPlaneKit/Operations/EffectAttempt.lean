import ControlPlaneKit.Library.Text

/-!
# EffectAttempt — the state machine of one external effect

An attempt starts under the fence of one worker, ends in a direct result, or is
uncertain until an explicit recovery decision resolves it.  Transitions and
states carry the checks of their constructors.  Beside the contract error, the
errors here are the ones the host language raises at a missing table entry and
at an attribute of nothing.
-/

namespace ControlPlaneKit.Operations

open ControlPlaneKit.Library.Text (isBlank isCanonicalIdentity)

/-! ## Closed vocabularies -/

inductive EffectAttemptStatus where
  | started
  | succeeded
  | failed
  | unsupported
  | uncertain
  | abandoned
  deriving DecidableEq, Repr

def EffectAttemptStatus.value : EffectAttemptStatus → String
  | .started => "started"
  | .succeeded => "succeeded"
  | .failed => "failed"
  | .unsupported => "unsupported"
  | .uncertain => "uncertain"
  | .abandoned => "abandoned"

inductive EffectAttemptTransitionKind where
  | started
  | succeeded
  | failed
  | unsupported
  | uncertain
  | reconciled
  | abandoned
  deriving DecidableEq, Repr

def EffectAttemptTransitionKind.value : EffectAttemptTransitionKind → String
  | .started => "started"
  | .succeeded => "succeeded"
  | .failed => "failed"
  | .unsupported => "unsupported"
  | .uncertain => "uncertain"
  | .reconciled => "reconciled"
  | .abandoned => "abandoned"

inductive EffectRecoveryResolution where
  | succeeded
  | failed
  | abandoned
  deriving DecidableEq, Repr

def directResultTransitions : List EffectAttemptTransitionKind :=
  [.succeeded, .failed, .unsupported, .uncertain]

def recoveryTransitions : List EffectAttemptTransitionKind := [.reconciled, .abandoned]

def statusByRecoveryResolution : EffectRecoveryResolution → EffectAttemptStatus
  | .succeeded => .succeeded
  | .failed => .failed
  | .abandoned => .abandoned

/-! ## Checks -/

inductive RecoveryError where
  | invalidEffectRecoveryContract (message : String)
  | keyError (key : String)
  | attributeError (message : String)
  deriving DecidableEq, Repr

def requireContract (condition : Bool) (message : String) : Except RecoveryError Unit :=
  if condition then .ok () else .error (.invalidEffectRecoveryContract message)

/-- `_STATUS_BY_DIRECT_TRANSITION[kind]`. -/
def statusByDirectTransition :
    EffectAttemptTransitionKind → Except RecoveryError EffectAttemptStatus
  | .succeeded => .ok .succeeded
  | .failed => .ok .failed
  | .unsupported => .ok .unsupported
  | .uncertain => .ok .uncertain
  | kind => .error (.keyError kind.value)

def maxPublicTextLength : Nat := 256

def maxEffectAttempt : Nat := 2147483647

def maxEffectFenceGeneration : Nat := 9223372036854775807

/-- `_bounded_text`. -/
def isBoundedText (value : String) : Bool :=
  !isBlank value && value.length ≤ maxPublicTextLength &&
    !value.toList.contains (Char.ofNat 0)

/-- `re.fullmatch(r"[0-9a-f]{64}", value)`. -/
def isSha256Fingerprint (value : String) : Bool :=
  value.length = 64 && value.toList.all fun c =>
    (48 ≤ c.toNat && c.toNat ≤ 57) || (97 ≤ c.toNat && c.toNat ≤ 102)

/-- `_sha256_fingerprint(value, field)`. -/
def requireFingerprint (value : Option String) (field : String) :
    Except RecoveryError Unit :=
  requireContract (value.any isSha256Fingerprint)
    (field ++ " must be a lowercase sha256 fingerprint")

def requireNone {α : Type} (value : Option α) (field : String) :
    Except RecoveryError Unit :=
  requireContract value.isNone (field ++ " is not allowed")

/-! ## Identities, fences and decisions -/

/-- `EffectAttemptIdentity`: one activity's attempt within a run. -/
structure EffectAttemptIdentity where
  runId : String
  activityId : String
  attempt : Nat
  run_canonical : isCanonicalIdentity runId = true
  activity_canonical : isCanonicalIdentity activityId = true
  bounded : 1 ≤ attempt ∧ attempt ≤ maxEffectAttempt

instance : DecidableEq EffectAttemptIdentity := fun a b =>
  decidable_of_iff
    (a.runId = b.runId ∧ a.activityId = b.activityId ∧ a.attempt = b.attempt)
    ⟨by cases a; cases b; simp_all, by rintro rfl; simp⟩

/-- `EffectAttemptFence`: worker ownership and its lease generation. -/
structure EffectAttemptFence where
  workerId : String
  generation : Nat
  worker_bounded : isBoundedText workerId = true
  bounded : 1 ≤ generation ∧ generation ≤ maxEffectFenceGeneration

instance : DecidableEq EffectAttemptFence := fun a b =>
  decidable_of_iff (a.workerId = b.workerId ∧ a.generation = b.generation)
    ⟨by cases a; cases b; simp_all, by rintro rfl; simp⟩

/-- `EffectRecoveryDecision`: evidence that resolves or abandons one uncertain
attempt. -/
structure EffectRecoveryDecision where
  decisionId : String
  attemptIdentity : EffectAttemptIdentity
  resolution : EffectRecoveryResolution
  uncertainFingerprint : String
  evidenceFingerprint : String
  decision_bounded : isBoundedText decisionId = true
  uncertain_valid : isSha256Fingerprint uncertainFingerprint = true
  evidence_valid : isSha256Fingerprint evidenceFingerprint = true

instance : DecidableEq EffectRecoveryDecision := fun a b =>
  decidable_of_iff
    (a.decisionId = b.decisionId ∧ a.attemptIdentity = b.attemptIdentity ∧
      a.resolution = b.resolution ∧ a.uncertainFingerprint = b.uncertainFingerprint ∧
      a.evidenceFingerprint = b.evidenceFingerprint)
    ⟨by cases a; cases b; simp_all, by rintro rfl; simp⟩

/-- `_validate_retry_lineage`. -/
def validateRetryLineage (identity : EffectAttemptIdentity) :
    Option EffectAttemptIdentity → Except RecoveryError Unit
  | none =>
      requireContract (identity.attempt = 1) "retry attempt requires prior attempt"
  | some prior => do
      requireContract (identity.attempt ≠ 1)
        "first attempt cannot declare prior attempt"
      requireContract
        (prior.runId = identity.runId && prior.activityId = identity.activityId &&
          prior.attempt = identity.attempt - 1)
        "retry lineage must reference the immediately prior attempt"

/-! ## Transitions -/

/-- `EffectAttemptTransition.__post_init__`. -/
def checkTransition (kind : EffectAttemptTransitionKind)
    (identity : EffectAttemptIdentity)
    (requestFingerprint outcomeFingerprint : Option String)
    (priorAttempt : Option EffectAttemptIdentity)
    (recoveryDecision : Option EffectRecoveryDecision) : Except RecoveryError Unit :=
  if kind = .started then do
    requireFingerprint requestFingerprint "request_fingerprint"
    validateRetryLineage identity priorAttempt
    requireNone outcomeFingerprint "outcome_fingerprint"
    requireNone recoveryDecision "recovery_decision"
  else do
    requireNone requestFingerprint "request_fingerprint"
    requireNone priorAttempt "prior_attempt"
    if kind ∈ directResultTransitions then do
      requireFingerprint outcomeFingerprint "outcome_fingerprint"
      requireNone recoveryDecision "recovery_decision"
    else do
      requireNone outcomeFingerprint "outcome_fingerprint"
      match recoveryDecision with
      | none =>
          .error (.invalidEffectRecoveryContract
            "recovery transition requires EffectRecoveryDecision")
      | some decision => do
          requireContract (decision.attemptIdentity = identity)
            "recovery decision must identify the transitioned attempt"
          requireContract (!(kind = .abandoned && decision.resolution ≠ .abandoned))
            "abandoned transition requires abandoned resolution"
          requireContract (!(kind = .reconciled && decision.resolution = .abandoned))
            "reconciled transition requires succeeded or failed resolution"

/-- `EffectAttemptTransition`, with the checks of its constructor. -/
structure EffectAttemptTransition where
  kind : EffectAttemptTransitionKind
  identity : EffectAttemptIdentity
  requestFingerprint : Option String
  outcomeFingerprint : Option String
  priorAttempt : Option EffectAttemptIdentity
  recoveryDecision : Option EffectRecoveryDecision
  checked : checkTransition kind identity requestFingerprint outcomeFingerprint
    priorAttempt recoveryDecision = .ok ()

/-! ## States -/

/-- `EffectAttemptState.__post_init__`. -/
def checkState (identity : EffectAttemptIdentity) (requestFingerprint : Option String)
    (status : EffectAttemptStatus) (outcomeFingerprint : Option String)
    (priorAttempt : Option EffectAttemptIdentity)
    (recoveryDecision : Option EffectRecoveryDecision) : Except RecoveryError Unit := do
  requireFingerprint requestFingerprint "request_fingerprint"
  validateRetryLineage identity priorAttempt
  if status = .started then do
    requireNone outcomeFingerprint "outcome_fingerprint"
    requireNone recoveryDecision "recovery_decision"
  else do
    requireFingerprint outcomeFingerprint "outcome_fingerprint"
    match recoveryDecision with
    | none => requireContract (status ≠
        .abandoned) "abandoned state requires recovery decision"
    | some decision => do
        requireContract (decision.attemptIdentity = identity)
          "recovery decision must identify the state attempt"
        requireContract (status = statusByRecoveryResolution decision.resolution)
          "recovery resolution does not match attempt status"
        requireContract (outcomeFingerprint = some decision.evidenceFingerprint)
          "recovered outcome must retain the decision evidence fingerprint"

/-- `EffectAttemptState`, with the checks of its constructor; they rule out that
there is no request fingerprint. -/
structure EffectAttemptState where
  identity : EffectAttemptIdentity
  requestFingerprint : Option String
  fence : EffectAttemptFence
  status : EffectAttemptStatus
  outcomeFingerprint : Option String
  priorAttempt : Option EffectAttemptIdentity
  recoveryDecision : Option EffectRecoveryDecision
  checked : checkState identity requestFingerprint status outcomeFingerprint
    priorAttempt recoveryDecision = .ok ()

/-- `EffectAttemptState(...)`. -/
def EffectAttemptState.make (identity : EffectAttemptIdentity)
    (requestFingerprint : Option String) (fence : EffectAttemptFence)
    (status : EffectAttemptStatus) (outcomeFingerprint : Option String)
    (priorAttempt : Option EffectAttemptIdentity)
    (recoveryDecision : Option EffectRecoveryDecision) :
    Except RecoveryError EffectAttemptState :=
  match h : checkState identity requestFingerprint status
      outcomeFingerprint priorAttempt
      recoveryDecision with
  | .ok () =>
      .ok ⟨identity, requestFingerprint, fence, status,
        outcomeFingerprint, priorAttempt, recoveryDecision, h⟩
  | .error error => .error error

/-! ## Folding -/

/-- `transition.recovery_decision`, where an attribute of it is read next. -/
def decisionWith (name : String) :
    Option EffectRecoveryDecision → Except RecoveryError EffectRecoveryDecision
  | some decision => .ok decision
  | none =>
      .error (.attributeError ("'NoneType' object has no attribute '" ++ name ++ "'"))

/-- `_is_exact_duplicate(state, transition)`. -/
def isExactDuplicate (state : EffectAttemptState)
    (transition : EffectAttemptTransition) : Except RecoveryError Bool :=
  if transition.kind = .started then
    .ok (state.status = .started &&
      state.requestFingerprint = transition.requestFingerprint &&
      state.priorAttempt = transition.priorAttempt)
  else if transition.kind ∈ directResultTransitions then do
    let status ← statusByDirectTransition transition.kind
    return state.status = status &&
      state.outcomeFingerprint = transition.outcomeFingerprint &&
        state.recoveryDecision.isNone
  else do
    let decision ← decisionWith "resolution" transition.recoveryDecision
    return state.status = statusByRecoveryResolution decision.resolution &&
      state.outcomeFingerprint = some decision.evidenceFingerprint &&
      state.recoveryDecision = some decision

/-- A new transition, folded into an attempt that has started. -/
def foldNew (state : EffectAttemptState) (transition : EffectAttemptTransition) :
    Except RecoveryError EffectAttemptState := do
  requireContract (transition.kind ≠ .started) "attempt has already started"
  if transition.kind ∈ recoveryTransitions then do
    requireContract (state.status = .uncertain) "recovery requires an uncertain attempt"
    let decision ← decisionWith "uncertain_fingerprint" transition.recoveryDecision
    requireContract (state.outcomeFingerprint = some decision.uncertainFingerprint)
      "recovery decision does not identify the uncertain evidence"
    EffectAttemptState.make state.identity state.requestFingerprint state.fence
      (statusByRecoveryResolution decision.resolution)
      (some decision.evidenceFingerprint)
      state.priorAttempt (some decision)
  else do
    requireContract (state.status = .started)
      ("cannot fold " ++ transition.kind.value ++ " from " ++ state.status.value)
    let status ← statusByDirectTransition transition.kind
    EffectAttemptState.make state.identity state.requestFingerprint state.fence status
      transition.outcomeFingerprint state.priorAttempt none

/-- `fold_effect_attempt(state, transition, fence=fence)`. -/
def foldEffectAttempt (state : Option EffectAttemptState)
    (transition : EffectAttemptTransition) (fence : EffectAttemptFence) :
    Except RecoveryError EffectAttemptState :=
  match state with
  | none => do
      requireContract (transition.kind = .started)
        "first effect-attempt transition must be started"
      EffectAttemptState.make transition.identity transition.requestFingerprint fence
        .started none transition.priorAttempt none
  | some state => do
      requireContract (transition.identity = state.identity)
        "transition identity does not match attempt state"
      requireContract (fence = state.fence)
        "effect-attempt transition rejected by active fence"
      let duplicate ← isExactDuplicate state transition
      if duplicate then return state
      foldNew state transition

end ControlPlaneKit.Operations
