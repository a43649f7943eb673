import ControlPlaneKit.Rotation.RotationRecords

/-!
# Rotations — the service that moves gateway key rotations

`request` opens a rotation when no other owns its gateway authority; `advance`
takes one legal step and records it; the steps that a deployment owns go through
`advance_deployment`, which reads the deployment's own records first.  What a
command reads of other tables comes with the call, as does the trusted clock.
-/

namespace ControlPlaneKit.Rotation

open ControlPlaneKit.Library (PyValue TextMap)
open ControlPlaneKit.Library.Transactions (run)
open ControlPlaneKit.Operations
open ControlPlaneKit.Topology

/-! ## What the service reads of other tables -/

structure GatewayKeyRotationApprovalSubject where
  rotationId : String
  workspaceId : String
  gatewayNodeId : String
  purpose : DelegationKeyPurpose
  issuer : String
  oldKeyId : String
  maximumGrantLifetimeSeconds : Nat
  clockSkewSeconds : Nat
  rotationIntentDigest : String
  deriving DecidableEq

/-- An approval request of a rotation; those of a plan have no such subject. -/
structure RotationApprovalRequest where
  requestId : String
  subject : Option GatewayKeyRotationApprovalSubject
  requiredScope : PolicyScope
  deriving DecidableEq

inductive ApprovalDecisionKind where
  | approved
  | rejected
  deriving DecidableEq, Repr

structure RotationApprovalDecision where
  decisionId : String
  decision : ApprovalDecisionKind
  scope : PolicyScope
  deriving DecidableEq

/-- The columns of an activity plan that a deployment is linked by. -/
structure DeploymentPlan where
  planId : String
  sessionId : String
  baseGraphId : String
  baseRealizedProjectionId : Option String
  desiredGraphId : String
  desiredRealizedProjectionId : Option String
  desiredGraphRevision : Nat
  deriving DecidableEq

/-- An execution request with the approval it was admitted under. -/
structure DeploymentRequest where
  record : ExecutionRequestRecord
  approvalRequestId : String
  approvalDecisionId : String

/-- The other tables as a command finds them. -/
structure RotationEvidence where
  approvalRequest : String → Option RotationApprovalRequest := fun _ => none
  approvalDecision : String → Option RotationApprovalDecision := fun _ => none
  plan : String → Option DeploymentPlan := fun _ => none
  request : String → Option DeploymentRequest := fun _ => none
  run : String → Option ActivityRunRecord := fun _ => none
  action : String → String → Option OperationActionRecord := fun _ _ => none
  event : String → Option ActivityEventRecord := fun _ => none

/-! ## The tables of the rotations -/

/-- Rotations with their checkpoints by `rotation_id`, and the recorded steps in
the order they were taken. -/
structure RotationStores where
  rotations : TextMap GatewayKeyRotation := ∅
  transitions : List GatewayKeyRotationTransition := []

namespace RotationStores

variable (stores : RotationStores)

def forCorrelation (workspaceId correlationId : String) : Option GatewayKeyRotation :=
  (stores.rotations.toList.map (·.2)).find? fun rotation =>
    rotation.intent.workspaceId = workspaceId &&
      rotation.intent.correlationId = correlationId

def nonterminalForBinding (binding : GatewayKeyBinding) : Option GatewayKeyRotation :=
  (stores.rotations.toList.map (·.2)).find? fun rotation =>
    rotation.intent.binding = binding && !rotation.status.isTerminal

def get (rotationId : String) : Except ServiceError GatewayKeyRotation :=
  found stores.rotations[rotationId]? (.notFound "gateway key rotation was not found")

/-- `add(value)`. -/
def add (value : GatewayKeyRotation) : Except ServiceError RotationStores := do
  encodePostgresTimestamp value.intent.requestedAt
  requireThat stores.rotations[value.rotationId]?.isNone
    (.integrity "cpk_gateway_key_rotations")
  return { stores with rotations := stores.rotations.insert value.rotationId value }

def transitionForId (rotationId transitionId : String) :
    Option GatewayKeyRotationTransition :=
  stores.transitions.find? fun transition =>
    transition.rotationId = rotationId && transition.transitionId = transitionId

/-- `transitions(rotation_id)`: a rotation's steps, which are taken in the order of
their versions. -/
def transitionsOf (rotationId : String) : List GatewayKeyRotationTransition :=
  stores.transitions.filter fun transition => transition.rotationId = rotationId

/-- `add_transition(value)`, under the two unique keys of the table. -/
def addTransition (value : GatewayKeyRotationTransition) :
    Except ServiceError RotationStores := do
  encodePostgresTimestamp value.advancedAt
  requireThat ((stores.transitionsOf value.rotationId).all fun other =>
      other.transitionId ≠ value.transitionId && other.toVersion ≠ value.toVersion)
    (.integrity "cpk_gateway_key_rotation_transitions")
  return { stores with transitions := stores.transitions ++ [value] }

end RotationStores

/-- `_put_checkpoint`: the stored checkpoint of a phase after an upsert. -/
def putCheckpoint (stored value : Option GatewayKeyRotationDeploymentCheckpoint) :
    Except ServiceError (Option GatewayKeyRotationDeploymentCheckpoint) :=
  match stored, value with
  | _, none => return stored
  | none, some value => return some value
  | some current, some value => do
      requireThat (sameDeploymentIdentity current value &&
          (current.status = .prepared || current.status = value.status))
        (.conflict "deployment checkpoint identity changed concurrently")
      return some value

/-- `_put_revocation`. -/
def putRevocation (stored value : Option GatewayKeyRotationRevocationCheckpoint) :
    Except ServiceError (Option GatewayKeyRotationRevocationCheckpoint) :=
  match stored, value with
  | _, none => return stored
  | none, some value => return some value
  | some current, some value => do
      requireThat (current = value)
        (.conflict "revocation checkpoint identity changed concurrently")
      return some value

/-- The instants `compare_and_set` encodes. -/
def encodeTimestamps (replacement : GatewayKeyRotation) : Except ServiceError Unit :=
  ([ replacement.newKeyActivatedAt, replacement.oldKeyRetiredAt
   , replacement.oldSecretRevokedAt, replacement.updatedAt
   , replacement.overlapDeployment.map (·.identity.preparedAt)
   , replacement.overlapDeployment.bind fun value => value.acceptance.map (·.acceptedAt)
   , replacement.retirementDeployment.map (·.identity.preparedAt)
   , replacement.retirementDeployment.bind fun value =>
       value.acceptance.map (·.acceptedAt)
   , replacement.revocation.map (·.preparedAt) ].filterMap id).forM
    encodePostgresTimestamp

/-- `compare_and_set(current, replacement)`: nothing when the row has moved on. -/
def compareAndSet (stores : RotationStores) (current replacement : GatewayKeyRotation) :
    Except ServiceError (Option (GatewayKeyRotation × RotationStores)) := do
  encodeTimestamps replacement
  match stores.rotations[current.rotationId]? with
  | none => return none
  | some row =>
      if row.status = current.status ∧ row.version = current.version then do
        let overlap ← putCheckpoint row.overlapDeployment replacement.overlapDeployment
        let retirement ← putCheckpoint row.retirementDeployment
          replacement.retirementDeployment
        let revocation ← putRevocation row.revocation replacement.revocation
        let updated ← gatewayKeyRotation
          { replacement.toGatewayKeyRotationColumns with
              intent := row.intent
              overlapDeployment := overlap
              retirementDeployment := retirement
              revocation := revocation }
        return some (updated,
          { stores with
              rotations := stores.rotations.insert current.rotationId updated })
      else return none

/-! ## Legal steps -/

/-- `_LEGAL`. -/
def legalTargets : GatewayKeyRotationStatus → List GatewayKeyRotationStatus
  | .requested => [.awaitingApproval]
  | .awaitingApproval => [.approved, .rejected]
  | .approved => [.generationPrepared, .blocked]
  | .generationPrepared => [.keyGenerated, .blocked]
  | .keyGenerated => [.overlapDeploying, .blocked]
  | .overlapDeploying => [.overlapReady, .blocked]
  | .overlapReady => [.newKeyActive, .blocked]
  | .newKeyActive => [.drainingOldGrants, .blocked]
  | .drainingOldGrants => [.retirementDeploying, .blocked]
  | .retirementDeploying => [.retirementReady, .blocked]
  | .retirementReady => [.oldKeyRetired, .blocked]
  | .oldKeyRetired => [.revocationPrepared, .blocked]
  | .revocationPrepared => [.completed, .blocked]
  | .completed | .blocked | .rejected => []

/-- `_required(value, name)`. -/
def required (value : Option String) (name : String) : Except ServiceError Unit := do
  let value ← found value (.conflict (name ++ " is required"))
  rotationIdentifier value name

/-- `_checkpoint(value, phase, status)`. -/
def requireCheckpoint (value : Option GatewayKeyRotationDeploymentCheckpoint)
    (phase : GatewayKeyRotationDeploymentPhase)
    (status : GatewayKeyRotationDeploymentStatus) : Except ServiceError Unit :=
  requireThat (value.any fun checkpoint => checkpoint.phase = phase &&
    checkpoint.status = status) (.conflict "deployment checkpoint is incomplete")

/-- The accepted deployment is the one that was prepared. -/
def requireSameDeployment (stored value : Option GatewayKeyRotationDeploymentCheckpoint)
    (message : String) : Except ServiceError Unit :=
  requireThat (stored.any fun current => value.any fun given => sameDeploymentIdentity
    current given) (.conflict message)

/-- The evidence a step adds to the columns, by its target. -/
def transitionChanges (current : GatewayKeyRotation)
    (command : AdvanceGatewayKeyRotation) (now : Int)
    (advanced : GatewayKeyRotationColumns) :
    Except ServiceError GatewayKeyRotationColumns :=
  match command.targetStatus with
  | .awaitingApproval => do
      required command.approvalRequestId "approval_request_id"
      return { advanced with approvalRequestId := command.approvalRequestId }
  | .approved => do
      required command.approvalDecisionId "approval_decision_id"
      return { advanced with approvalDecisionId := command.approvalDecisionId }
  | .rejected => do
      required command.approvalDecisionId "approval_decision_id"
      required command.failureCode "failure_code"
      return { advanced with
        approvalDecisionId := command.approvalDecisionId, failureCode :=
          command.failureCode }
  | .generationPrepared => do
      required command.generationProviderRegistrationId
        "generation_provider_registration_id"
      requireThat command.generationActionDigest.isSome
        (.conflict "generation_action_digest is required")
      return { advanced with
        generationProviderRegistrationId := command.generationProviderRegistrationId
        generationActionDigest := command.generationActionDigest }
  | .keyGenerated => do
      required command.newKeyId "new_key_id"
      required command.newSecretVersionId "new_secret_version_id"
      requireThat (command.newSecretVersionNumber.any (1 ≤ ·))
        (.conflict "generated key version is required")
      return { advanced with
        newKeyId := command.newKeyId
        newSecretVersionId := command.newSecretVersionId
        newSecretVersionNumber := command.newSecretVersionNumber }
  | .overlapDeploying => do
      requireCheckpoint command.deployment .overlap .prepared
      return { advanced with overlapDeployment := command.deployment }
  | .overlapReady => do
      requireCheckpoint command.deployment .overlap .accepted
      requireSameDeployment current.overlapDeployment command.deployment
        "overlap acceptance identity changed"
      return { advanced with overlapDeployment := command.deployment }
  | .newKeyActive => do
      required command.newKeyActivatedAt "new_key_activated_at"
      return { advanced with
        newKeyActivatedAt := command.newKeyActivatedAt
        drainDeadlineEpoch :=
          some (now + current.intent.maximumGrantLifetimeSeconds +
            current.intent.clockSkewSeconds) }
  | .retirementDeploying => do
      requireThat (current.drainDeadlineEpoch.any (· ≤ now))
        (.conflict "old capability grants have not drained")
      requireCheckpoint command.deployment .retirement .prepared
      return { advanced with retirementDeployment := command.deployment }
  | .retirementReady => do
      requireCheckpoint command.deployment .retirement .accepted
      requireSameDeployment current.retirementDeployment command.deployment
        "retirement acceptance identity changed"
      return { advanced with retirementDeployment := command.deployment }
  | .oldKeyRetired => do
      required command.oldKeyRetiredAt "old_key_retired_at"
      return { advanced with oldKeyRetiredAt := command.oldKeyRetiredAt }
  | .revocationPrepared => do
      requireThat command.revocation.isSome
        (.conflict "exact revocation checkpoint is required")
      return { advanced with revocation := command.revocation }
  | .completed => do
      requireCheckpoint current.retirementDeployment .retirement .accepted
      requireThat current.revocation.isSome
        (.conflict "exact revocation checkpoint is missing")
      required command.oldSecretRevokedAt "old_secret_revoked_at"
      return { advanced with oldSecretRevokedAt := command.oldSecretRevokedAt }
  | .blocked => do
      required command.failureCode "failure_code"
      return { advanced with failureCode := command.failureCode }
  | .requested | .drainingOldGrants => return advanced

/-- `_transition(current, command, now)`. -/
def transition (current : GatewayKeyRotation)
    (command : AdvanceGatewayKeyRotation) (now : Int) :
    Except ServiceError GatewayKeyRotation := do
  requireThat ((legalTargets current.status).contains command.targetStatus)
    (.conflict "rotation transition is not legal")
  let changed ← transitionChanges current command now
    { current.toGatewayKeyRotationColumns with
        status := command.targetStatus
        version := current.version + 1
        updatedBy := some command.advancedBy
        updatedAt := some command.advancedAt }
  gatewayKeyRotation changed

/-! ## Approval and deployment evidence -/

def gatewayKeyRotationApprovalSubject (rotation : GatewayKeyRotation) :
    GatewayKeyRotationApprovalSubject where
  rotationId := rotation.intent.rotationId
  workspaceId := rotation.intent.workspaceId
  gatewayNodeId := rotation.intent.gatewayNodeId
  purpose := rotation.intent.purpose
  issuer := rotation.intent.issuer
  oldKeyId := rotation.intent.oldKeyId
  maximumGrantLifetimeSeconds := rotation.intent.maximumGrantLifetimeSeconds
  clockSkewSeconds := rotation.intent.clockSkewSeconds
  rotationIntentDigest := rotation.intent.intentFingerprint

/-- `_validate_approval_evidence`: the request reviews this rotation. -/
def requireReviewed (current : GatewayKeyRotation) (request : RotationApprovalRequest) :
    Except ServiceError Unit :=
  requireThat (request.subject = some (gatewayKeyRotationApprovalSubject current))
    (.conflict "rotation approval request reviews different intent")

def validateDecision (evidence : RotationEvidence) (current : GatewayKeyRotation)
    (command : AdvanceGatewayKeyRotation) (expected : ApprovalDecisionKind) :
    Except ServiceError Unit := do
  let requestId ← found current.approvalRequestId
    (.conflict "rotation approval request is missing")
  let request ← found (evidence.approvalRequest requestId)
    (.conflict "rotation approval request was not found")
  requireReviewed current request
  let decision ← found
    ((evidence.approvalDecision request.requestId).filter fun decision =>
      command.approvalDecisionId = some decision.decisionId)
    (.conflict "rotation approval decision is missing")
  requireThat (decision.decision = expected)
    (.conflict "rotation approval decision does not authorize target state")
  requireThat (decision.scope = .delegationKeyRotateApprove)
    (.conflict "rotation approval decision has insufficient authority")

/-- `_validate_approval_evidence(uow, current, command)`. -/
def validateApprovalEvidence (evidence : RotationEvidence)
    (current : GatewayKeyRotation) (command : AdvanceGatewayKeyRotation) :
    Except ServiceError Unit :=
  match command.targetStatus with
  | .awaitingApproval =>
      match command.approvalRequestId with
      | none => return ()
      | some requestId => do
          let request ← found (evidence.approvalRequest requestId)
            (.conflict "rotation approval request was not found")
          requireReviewed current request
          requireThat (request.requiredScope = .delegationKeyRotateApprove)
            (.conflict "rotation approval request has insufficient review authority")
          requireThat (evidence.approvalDecision requestId).isNone
            (.conflict "rotation approval request was already decided")
  | .approved => validateDecision evidence current command .approved
  | .rejected => validateDecision evidence current command .rejected
  | _ => return ()

/-- `_optional_deployment_checkpoint(rotation, phase)`. -/
def optionalDeploymentCheckpoint (rotation : GatewayKeyRotationColumns)
    (phase : GatewayKeyRotationDeploymentPhase) :
    Option GatewayKeyRotationDeploymentCheckpoint :=
  match phase with
  | .overlap => rotation.overlapDeployment
  | .retirement => rotation.retirementDeployment

/-- `_gateway_key_rotation_deployment_prefix(rotation_id, phase)`. -/
def gatewayKeyRotationDeploymentPrefix (rotationId : String)
    (phase : GatewayKeyRotationDeploymentPhase) : String :=
  "gkrot-" ++ phase.value ++ ":" ++ sha256Hexdigest rotationId

/-- The statuses a phase of deployment goes through. -/
def deployingStatus : GatewayKeyRotationDeploymentPhase → GatewayKeyRotationStatus
  | .overlap => .overlapDeploying
  | .retirement => .retirementDeploying

def readyStatus : GatewayKeyRotationDeploymentPhase → GatewayKeyRotationStatus
  | .overlap => .overlapReady
  | .retirement => .retirementReady

def preparationSource : GatewayKeyRotationDeploymentPhase → GatewayKeyRotationStatus
  | .overlap => .keyGenerated
  | .retirement => .drainingOldGrants

/-- `_validate_deployment_transition_shape(command)`. -/
def validateDeploymentTransitionShape (command : AdvanceGatewayKeyRotationDeployment) :
    Except ServiceError Unit :=
  let checkpoint := command.handoff.checkpoint
  let shape := (command.transition.expectedStatus, command.transition.targetStatus)
  if shape =
      (preparationSource checkpoint.phase, deployingStatus checkpoint.phase) then do
    requireThat (command.transition.deployment = some checkpoint)
      (.conflict "prepared deployment transition changed checkpoint")
    requireThat (checkpoint.status = .prepared)
      (.conflict "deployment checkpoint status is stale")
  else if shape =
      (deployingStatus checkpoint.phase, readyStatus checkpoint.phase) then do
    requireThat (command.transition.deployment = some checkpoint)
      (.conflict "accepted deployment transition changed checkpoint")
    requireThat (checkpoint.status = .accepted)
      (.conflict "deployment checkpoint status is stale")
  else if shape = (deployingStatus checkpoint.phase, .blocked) then do
    requireThat command.transition.deployment.isNone
      (.conflict "blocked deployment transition cannot replace checkpoint")
    requireThat (checkpoint.status = .prepared)
      (.conflict "deployment checkpoint status is stale")
  else .error (.conflict "gateway rotation transition is not deployment-owned")

/-- `_is_deployment_owned_transition(command)`. -/
def isDeploymentOwnedTransition (command : AdvanceGatewayKeyRotation) : Bool :=
  [ (GatewayKeyRotationStatus.keyGenerated, GatewayKeyRotationStatus.overlapDeploying)
  , (.overlapDeploying, .overlapReady), (.overlapDeploying, .blocked)
  , (.drainingOldGrants, .retirementDeploying), (.retirementDeploying, .retirementReady)
  , (.retirementDeploying, .blocked) ].contains (command.expectedStatus,
    command.targetStatus)

/-- `_validate_deployment_linkage(rotation, checkpoint, plan, request, run)`. -/
def validateDeploymentLinkage (rotation : GatewayKeyRotation)
    (checkpoint : GatewayKeyRotationDeploymentCheckpoint) (plan : DeploymentPlan)
    (request : DeploymentRequest) (run : ActivityRunRecord) :
    Except ServiceError Unit := do
  let identity := checkpoint.identity
  requireThat (request.record.identity.requestId = identity.executionRequestId &&
      request.record.identity.workspaceId = rotation.intent.workspaceId &&
      request.record.identity.sessionId = identity.sessionId &&
      request.record.identity.planId = identity.planId &&
      request.approvalRequestId = identity.approvalRequestId &&
      request.approvalDecisionId = identity.approvalDecisionId &&
      run.runId = identity.runId && run.planId = identity.planId &&
      run.requestId = identity.executionRequestId)
    (.conflict "gateway deployment execution linkage changed")
  requireThat (rotation.approvalRequestId = some identity.approvalRequestId &&
      rotation.approvalDecisionId = some identity.approvalDecisionId)
    (.conflict "gateway deployment approval does not match rotation truth")
  requireThat (plan.planId = identity.planId && plan.sessionId = identity.sessionId &&
      plan.baseGraphId = identity.baseAuthoredGraphId &&
      plan.baseRealizedProjectionId = some identity.baseRealizedProjectionId &&
      plan.desiredGraphId = identity.desiredAuthoredGraphId &&
      plan.desiredRealizedProjectionId = some identity.desiredRealizedProjectionId &&
      plan.desiredGraphRevision = identity.desiredRevision)
    (.conflict "gateway deployment plan linkage changed")

/-- `_validate_deployment_current(command, current)`. -/
def validateDeploymentCurrent (command : AdvanceGatewayKeyRotationDeployment)
    (current : GatewayKeyRotation) : Except ServiceError Unit := do
  let checkpoint := command.handoff.checkpoint
  requireThat (current.rotationId = command.handoff.rotationId)
    (.conflict "deployment rotation identity changed")
  match optionalDeploymentCheckpoint current.toGatewayKeyRotationColumns
      checkpoint.phase with
  | none =>
      requireThat (command.transition.targetStatus = .overlapDeploying ||
          command.transition.targetStatus = .retirementDeploying)
        (.conflict "deployment checkpoint is missing")
  | some stored =>
      requireThat (sameDeploymentIdentity stored checkpoint)
        (.conflict "deployment checkpoint identity changed")

/-- The transition a `CurrentGraphAdvancementResult` claims, as its JSON. -/
def advancementJson (rotation : GatewayKeyRotation)
    (identity : GatewayKeyRotationDeploymentIdentity)
    (acceptance : GatewayKeyRotationDeploymentAcceptance)
    (projectionDigest : String) : String :=
  "\x7b\"desired_graph_revision\":" ++ toString identity.desiredRevision ++
    ",\"from_authored_graph_id\":" ++ jsonText identity.baseAuthoredGraphId ++
    ",\"from_realized_projection_id\":" ++ jsonText identity.baseRealizedProjectionId ++
    ",\"plan_id\":" ++ jsonText identity.planId ++
    ",\"run_id\":" ++ jsonText identity.runId ++
    ",\"to_authored_graph_id\":" ++ jsonText acceptance.currentGraphId ++
    ",\"to_realized_projection_digest\":" ++ jsonText projectionDigest ++
    ",\"to_realized_projection_id\":" ++ jsonText acceptance.currentProjectionId ++
    ",\"workspace_id\":" ++ jsonText rotation.intent.workspaceId ++ "\x7d"

/-- `action.payload.get(key)`, when it is text. -/
def payloadText (action : OperationActionRecord) (key : String) : Option String :=
  match action.payload.lookup key with
  | some (.text value) => some value
  | _ => none

def payloadNumber (action : OperationActionRecord) (key : String) : Option Nat :=
  match action.payload.lookup key with
  | some (.number value) => some value
  | _ => none

/-- What `CurrentGraphAdvancementResult` and the caller check of the recorded
advancement. -/
def isAdvancement (rotation : GatewayKeyRotation)
    (identity : GatewayKeyRotationDeploymentIdentity)
    (acceptance : GatewayKeyRotationDeploymentAcceptance)
    (advancedAt projectionDigest : String) (action : OperationActionRecord)
    (event : ActivityEventRecord) : Bool :=
  isDigest projectionDigest && event.kind = .currentGraphAdvanced &&
    event.failure.isNone &&
    action.actionType = .inl .advanceCurrentGraph &&
    payloadText action "event_id" = some event.eventId &&
    payloadText action "workspace_id" = some rotation.intent.workspaceId &&
    payloadText action "plan_id" = some identity.planId &&
    payloadText action "run_id" = some identity.runId &&
    payloadText action "from_authored_graph_id" = some identity.baseAuthoredGraphId &&
    payloadText action "from_realized_projection_id" =
      some identity.baseRealizedProjectionId &&
    payloadText action "to_authored_graph_id" = some acceptance.currentGraphId &&
    payloadText action "to_realized_projection_id" =
      some acceptance.currentProjectionId &&
    payloadText action "to_realized_projection_digest" = some projectionDigest &&
    payloadNumber action "desired_graph_revision" = some identity.desiredRevision &&
    (payloadNumber action "claim_generation").any (1 ≤ ·) &&
    event.runId = identity.runId &&
    event.evidence.canonicalJson =
      advancementJson rotation identity acceptance projectionDigest &&
    action.sessionId = identity.sessionId &&
    payloadText action "execution_request_id" = some identity.executionRequestId &&
    canonicalInstant acceptance.acceptedAt = some action.createdAt &&
    canonicalInstant acceptance.acceptedAt = some event.occurredAt &&
    advancedAt = acceptance.acceptedAt

/-- `_validate_deployment_acceptance(stores, rotation, checkpoint, transition)`. -/
def validateDeploymentAcceptance (evidence : RotationEvidence)
    (rotation : GatewayKeyRotation)
    (checkpoint : GatewayKeyRotationDeploymentCheckpoint)
    (command : AdvanceGatewayKeyRotation) : Except ServiceError Unit :=
  if command.targetStatus = .overlapReady ∨ command.targetStatus = .retirementReady then
    requireThat
      ((evidence.action checkpoint.identity.sessionId
          (gatewayKeyRotationDeploymentPrefix rotation.rotationId checkpoint.phase ++
            ":advance")).any
        fun action =>
          (payloadText action "event_id").any fun eventId =>
            (evidence.event eventId).any fun event =>
              (payloadText action "to_realized_projection_digest").any
                  fun projectionDigest =>
                checkpoint.acceptance.any fun acceptance =>
                  isAdvancement rotation checkpoint.identity acceptance
                    command.advancedAt projectionDigest action event)
      (.conflict "gateway deployment acceptance evidence is incongruent")
  else .ok ()

/-! ## The service -/

/-- `_scope(scopes)`. -/
def requireRotationScope (scopes : List PolicyScope) : Except ServiceError Unit :=
  requireThat (scopes.contains .delegationKeyRotate)
    (.denied "gateway key rotation requires delegation-key:rotate")

/-- What the constructor of the command checks, and `_validate_advance_timestamps`. -/
def checkAdvance (command : AdvanceGatewayKeyRotation) : Except ServiceError Unit := do
  [ (command.rotationId, "rotation_id"), (command.transitionId, "transition_id")
  , (command.advancedBy, "advanced_by") ].forM fun entry =>
    rotationIdentifier entry.1 entry.2
  requireThat (1 ≤ command.expectedVersion)
    (.base "expected rotation version is malformed")
  optionalIdentifier command.generationProviderRegistrationId
    "generation_provider_registration_id"
  requireThat (command.generationActionDigest.all isDigest)
    (.base "generation action digest is malformed")
  boundedText command.advancedAt "advanced_at"
  command.deployment.toList.forM checkDeployment
  command.revocation.toList.forM checkRevocation
  ([ some command.advancedAt, command.newKeyActivatedAt, command.oldKeyRetiredAt
   , command.oldSecretRevokedAt, command.deployment.map (·.identity.preparedAt)
   , command.deployment.bind fun value => value.acceptance.map (·.acceptedAt)
   , command.revocation.map (·.preparedAt) ].filterMap id).forM encodePostgresTimestamp

section Service

variable (digest : PyValue → String)

/-- `_candidate(command)`; `digest` is `_digest`, the SHA-256 of the canonical JSON. -/
def rotationCandidate (command : RequestGatewayKeyRotation) :
    Except ServiceError GatewayKeyRotation :=
  let fingerprint := digest (.dict
    [ ("workspace_id", .str command.workspaceId)
    , ("gateway_node_id", .str command.gatewayNodeId)
    , ("purpose", .str command.purpose.value), ("issuer", .str command.issuer)
    , ("old_key_id", .str command.oldKeyId)
    , ("new_secret_reference", .str command.newSecretReference.referenceId)
    , ("key_generation_correlation", .str command.keyGenerationCorrelation)
    , ("maximum_grant_lifetime_seconds", .int command.maximumGrantLifetimeSeconds)
    , ("clock_skew_seconds", .int command.clockSkewSeconds)
    , ("correlation_id", .str command.correlationId) ])
  gatewayKeyRotation
    { intent :=
        { rotationId := "gkrot_" ++ fingerprint
          workspaceId := command.workspaceId
          gatewayNodeId := command.gatewayNodeId
          purpose := command.purpose
          issuer := command.issuer
          oldKeyId := command.oldKeyId
          newSecretReference := command.newSecretReference
          keyGenerationCorrelation := command.keyGenerationCorrelation
          maximumGrantLifetimeSeconds := command.maximumGrantLifetimeSeconds
          clockSkewSeconds := command.clockSkewSeconds
          correlationId := command.correlationId
          requestedBy := command.requestedBy
          requestedAt := command.requestedAt
          intentFingerprint := fingerprint } }

/-- `request(command)`. -/
def requestRotation (command : RequestGatewayKeyRotation) (stores : RotationStores) :
    Except ServiceError (GatewayKeyRotation × RotationStores) := do
  requireRotationScope command.actorScopes
  encodePostgresTimestamp command.requestedAt
  let candidate ← rotationCandidate digest command
  match stores.forCorrelation command.workspaceId command.correlationId with
  | some existing =>
      if existing.intent.intentFingerprint = candidate.intent.intentFingerprint then
        return (existing, stores)
      else .error (.conflict "rotation correlation was reused with different intent")
  | none => do
      requireThat (stores.nonterminalForBinding candidate.intent.binding).isNone
        (.conflict "another nonterminal rotation owns this gateway authority")
      let stored ← stores.add candidate
      return (candidate, stored)

/-- The step `_advance_locked` records. -/
def recordedTransition (current updated : GatewayKeyRotation)
    (command : AdvanceGatewayKeyRotation) : GatewayKeyRotationTransition where
  rotationId := current.rotationId
  transitionId := command.transitionId
  fromStatus := current.status
  toStatus := updated.status
  fromVersion := current.version
  toVersion := updated.version
  transitionFingerprint := digest (transitionSemantics command)
  advancedBy := command.advancedBy
  advancedAt := command.advancedAt
  failureCode := command.failureCode

/-- `_advance_locked(uow, current, command, fingerprint)`. -/
def advanceLocked (evidence : RotationEvidence) (clock : Int)
    (current : GatewayKeyRotation) (command : AdvanceGatewayKeyRotation)
    (stores : RotationStores) :
    Except ServiceError (GatewayKeyRotation × RotationStores) := do
  match stores.transitionForId command.rotationId command.transitionId with
  | some existing =>
      if existing.transitionFingerprint = digest (transitionSemantics command) then
        return (current, stores)
      else .error (.conflict "rotation transition id was reused with different intent")
  | none => do
      requireThat (current.status = command.expectedStatus && current.version =
        command.expectedVersion) (.conflict "rotation expected state is stale")
      validateApprovalEvidence evidence current command
      requireThat (0 ≤ clock) (.base "trusted clock returned malformed time")
      let replacement ← transition current command clock
      let updated ← compareAndSet stores current replacement
      let written ← found updated (.conflict "rotation advanced concurrently")
      let recorded ← written.2.addTransition
        (recordedTransition digest current written.1 command)
      return (written.1, recorded)

/-- `advance(command)`. -/
def advanceRotation (evidence : RotationEvidence) (clock : Int)
    (command : AdvanceGatewayKeyRotation) (stores : RotationStores) :
    Except ServiceError (GatewayKeyRotation × RotationStores) := do
  requireRotationScope command.actorScopes
  checkAdvance command
  requireThat (!isDeploymentOwnedTransition command)
    (.conflict "deployment-owned rotation transition requires fenced writer")
  let current ← stores.get command.rotationId
  advanceLocked digest evidence clock current command stores

/-- `advance_deployment(command)`. -/
def advanceDeployment (evidence : RotationEvidence) (clock : Int)
    (command : AdvanceGatewayKeyRotationDeployment) (stores : RotationStores) :
    Except ServiceError (GatewayKeyRotation × RotationStores) := do
  let checkpoint := command.handoff.checkpoint
  requireThat (command.transition.rotationId = command.handoff.rotationId)
    (.conflict "deployment rotation identity changed")
  checkDeployment checkpoint
  validateDeploymentTransitionShape command
  requireRotationScope command.transition.actorScopes
  checkAdvance command.transition
  let unavailable := ServiceError.conflict "gateway deployment truth is unavailable"
  let request ← found
    (evidence.request checkpoint.identity.executionRequestId) unavailable
  let run ← found (evidence.run checkpoint.identity.runId) unavailable
  let plan ← found (evidence.plan checkpoint.identity.planId) unavailable
  let current ← found stores.rotations[command.transition.rotationId]? unavailable
  validateDeploymentLinkage current checkpoint plan request run
  requireThat (request.record.claim.any fun claim => claim.fence =
    command.handoff.fence) (.denied "gateway deployment execution authority is stale")
  validateDeploymentCurrent command current
  validateDeploymentAcceptance evidence current checkpoint command.transition
  advanceLocked digest evidence clock current command.transition stores

/-- The commands of `GatewayKeyRotationService` that write. -/
inductive RotationCommand where
  | request (command : RequestGatewayKeyRotation)
  | advance (command : AdvanceGatewayKeyRotation)
  | advanceDeployment (command : AdvanceGatewayKeyRotationDeployment)

/-- A command, with the other tables and the trusted clock when it runs. -/
structure RotationCall where
  command : RotationCommand
  evidence : RotationEvidence := {}
  clock : Int

/-- One command in its transaction. -/
def rotate (call : RotationCall) (stores : RotationStores) :
    Except ServiceError (GatewayKeyRotation × RotationStores) :=
  match call.command with
  | .request command => requestRotation digest command stores
  | .advance command => advanceRotation digest call.evidence call.clock command stores
  | .advanceDeployment command =>
      advanceDeployment digest call.evidence call.clock command stores

/-- The tables after any commands, from empty ones. -/
def rotationsAfter (calls : List RotationCall) : RotationStores :=
  run (rotate digest) {} calls

end Service

end ControlPlaneKit.Rotation
