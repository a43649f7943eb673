import ControlPlaneKit.Library.EventFold
import ControlPlaneKit.NodeControl.DescriptorLaws
import ControlPlaneKit.NodeControl.Transit

/-!
# VerificationLaws — a grant authorizes one request

A verification accepts exactly when every claim it compares holds.  The digest then
binds the rest of the request: two requests with one digest have one canonical
text, hence equal descriptors, and the descriptor determines the request.
-/

namespace ControlPlaneKit.NodeControl

open ControlPlaneKit.Library (PyDict PyError PyValue)
open ControlPlaneKit.Library.EventFold (check_bind_ok)
open ControlPlaneKit.Library.PyValue (pyEq)
open ControlPlaneKit.Topology (DelegationKeyPurpose)

/-! ## The claims of a grant -/

/-- A workload grant is bound to the request, the verifier and the time. -/
structure WorkloadBound (context : WorkloadGrantContext)
    (grant : DelegatedWorkloadNodeControlGrant)
    (request : NodeControlCommandRequest) : Prop where
  issuer : grant.issuer = context.expectedIssuer
  audience : grant.audience = context.expectedAudience
  notBefore : grant.notBefore ≤ context.now
  expiresAt : context.now < grant.expiresAt
  target : grant.target = request.target
  variableName : grant.variableName = request.variableName
  operation : grant.operation = request.operation
  commandCodec : grant.commandCodec = request.commandCodec
  requestId : grant.requestId = request.requestId
  idempotencyKey : grant.idempotencyKey = request.idempotencyKey

/-- A transit grant is bound to the request, the gateway, the attempt, the key and
the time. -/
structure TransitBound (context : TransitGrantContext)
    (grant : DelegatedGatewayNodeControlTransitGrant)
    (request : NodeControlCommandRequest) : Prop where
  purpose : grant.purpose = .gatewayNodeControlTransit
  issuer : grant.issuer = context.expectedIssuer
  keyId : grant.keyId = context.expectedKeyId
  attemptId : grant.attemptId = context.expectedAttemptId
  gatewayNodeId : grant.gatewayNodeId = context.expectedGatewayNodeId
  notBefore : grant.notBefore ≤ context.now
  expiresAt : context.now < grant.expiresAt
  target : grant.target = request.target
  variableName : grant.variableName = request.variableName
  operation : grant.operation = request.operation
  commandCodec : grant.commandCodec = request.commandCodec
  requestId : grant.requestId = request.requestId
  idempotencyKey : grant.idempotencyKey = request.idempotencyKey

/-- A surface-read grant is bound to the request, the audience, the key and the time. -/
structure SurfaceReadBound (context : SurfaceReadGrantContext)
    (grant : DelegatedWorkloadNodeControlSurfaceReadGrant)
    (request : NodeControlSurfaceReadRequest) : Prop where
  purpose : grant.purpose = .workloadNodeControlSurfaceRead
  issuer : grant.issuer = context.expectedIssuer
  keyId : grant.keyId = context.expectedKeyId
  audience : grant.audience = context.expectedAudience
  notBefore : grant.notBefore ≤ context.now
  expiresAt : context.now < grant.expiresAt
  target : grant.target = request.target
  kind : grant.kind = request.kind
  declarationIdentity : grant.declarationIdentity = request.declarationIdentity
  requestId : grant.requestId = request.requestId

theorem GrantWindow.holdsAt_iff {window : GrantWindow} {now : Int} :
    window.holdsAt now = true ↔ window.notBefore ≤ now ∧ now < window.expiresAt := by
  simp [GrantWindow.holdsAt]

/-- Targets are equal part by part. -/
theorem NodeControlTarget.eq_iff {a b : NodeControlTarget} : a = b ↔
    a.workspaceId = b.workspaceId ∧ a.graphRevision = b.graphRevision ∧
    a.nodeId = b.nodeId ∧
      a.providerSocketName = b.providerSocketName := by
  cases a
  cases b
  simp

variable {dumps : CanonicalJson} {request other : NodeControlCommandRequest}

theorem workloadClaims_ok {context : WorkloadGrantContext}
    {grant : DelegatedWorkloadNodeControlGrant} :
    workloadClaims context request (some grant) = .ok () ↔
      WorkloadBound context grant request := by
  simp only [workloadClaims, check_bind_ok, requireClaim_eq_ok, decide_eq_true_eq,
    Bool.and_eq_true, GrantWindow.holdsAt_iff]
  constructor
  · rintro ⟨hissuer, haudience, hwindow, hworkspace, hrevision, hnode,
      hsocket, hvariable, hcommand, hrequest⟩
    exact ⟨hissuer, haudience, hwindow.1, hwindow.2,
      NodeControlTarget.eq_iff.mpr ⟨hworkspace, hrevision, hnode, hsocket⟩,
      hvariable, hcommand.1, hcommand.2, hrequest.1, hrequest.2⟩
  · intro h
    obtain ⟨hworkspace, hrevision, hnode, hsocket⟩ :=
      NodeControlTarget.eq_iff.mp h.target
    exact ⟨h.issuer, h.audience, ⟨h.notBefore, h.expiresAt⟩, hworkspace, hrevision,
      hnode, hsocket, h.variableName, ⟨h.operation, h.commandCodec⟩, h.requestId,
      h.idempotencyKey⟩

/-- **A workload grant is accepted** exactly when it is bound, by its digest too. -/
theorem verifyWorkload_accepted {context : WorkloadGrantContext}
    {grant : DelegatedWorkloadNodeControlGrant} :
    verifyWorkloadNodeControlGrant dumps context (some grant) request = .ok .accepted ↔
      context.check = .ok () ∧ WorkloadBound context grant request ∧
        request.canonicalDigest dumps = .ok grant.requestDigest.value := by
  simp only [verifyWorkloadNodeControlGrant, check_bind_ok, verifyClaims_accepted,
    workloadClaims_ok, Option.map_some, Option.getD_some]

theorem DelegatedGatewayNodeControlTransitGrant.coordinates
    {grant : DelegatedGatewayNodeControlTransitGrant} (h : grant.check dumps = .ok ()) :
    grant.workspaceId = grant.target.workspaceId ∧
      grant.graphRevision = grant.target.graphRevision := by
  simp only [check, check_bind_ok, requireWire_eq_ok, decide_eq_true_eq] at h
  obtain ⟨-, -, -, -, -, -, hworkspace, hrevision, -⟩ := h
  exact ⟨hworkspace, hrevision⟩

/-- The workspace and the revision of a transit grant are those of its target. -/
theorem transitClaims_ok {context : TransitGrantContext}
    {grant : DelegatedGatewayNodeControlTransitGrant}
    (hgrant : grant.check dumps = .ok ()) :
    transitClaims context request (some grant) = .ok () ↔
      TransitBound context grant request := by
  obtain ⟨hworkspaceId, hgraphRevision⟩ := grant.coordinates hgrant
  simp only [transitClaims, check_bind_ok, requireClaim_eq_ok, decide_eq_true_eq,
    Bool.and_eq_true, GrantWindow.holdsAt_iff, hworkspaceId, hgraphRevision]
  constructor
  · rintro ⟨hpurpose, hissuer, hkey, hwindow, hattempt, hworkspace, hrevision,
      hgateway, hnode, hsocket, hvariable, hcommand, hrequest⟩
    exact ⟨hpurpose, hissuer, hkey, hattempt, hgateway, hwindow.1, hwindow.2,
      NodeControlTarget.eq_iff.mpr ⟨hworkspace, hrevision, hnode, hsocket⟩,
      hvariable, hcommand.1, hcommand.2, hrequest.1, hrequest.2⟩
  · intro h
    obtain ⟨hworkspace, hrevision, hnode, hsocket⟩ :=
      NodeControlTarget.eq_iff.mp h.target
    exact ⟨h.purpose, h.issuer, h.keyId, ⟨h.notBefore, h.expiresAt⟩,
      h.attemptId, hworkspace, hrevision, h.gatewayNodeId, hnode, hsocket,
      h.variableName, ⟨h.operation, h.commandCodec⟩, h.requestId, h.idempotencyKey⟩

/-- **A transit grant is accepted** exactly when it is bound, by its digest too. -/
theorem verifyTransit_accepted {context : TransitGrantContext}
    {grant : DelegatedGatewayNodeControlTransitGrant}
    (hgrant : grant.check dumps = .ok ()) :
    verifyGatewayNodeControlTransitGrant dumps context (some grant) request =
      .ok .accepted ↔
      context.check = .ok () ∧ TransitBound context grant request ∧
        request.canonicalDigest dumps = .ok grant.requestDigest.value := by
  simp only [verifyGatewayNodeControlTransitGrant, check_bind_ok, verifyClaims_accepted,
    transitClaims_ok hgrant, Option.map_some, Option.getD_some]

theorem surfaceReadClaims_ok {context : SurfaceReadGrantContext}
    {grant : DelegatedWorkloadNodeControlSurfaceReadGrant}
    {read : NodeControlSurfaceReadRequest} :
    surfaceReadClaims context read (some grant) = .ok () ↔
      SurfaceReadBound context grant read := by
  simp only [surfaceReadClaims, check_bind_ok, requireClaim_eq_ok, decide_eq_true_eq,
    GrantWindow.holdsAt_iff]
  constructor
  · rintro ⟨hpurpose, hissuer, hkey, haudience, hwindow, hworkspace, hrevision,
      hnode, hsocket, hkind, hdeclaration, hrequest⟩
    exact ⟨hpurpose, hissuer, hkey, haudience, hwindow.1, hwindow.2,
      NodeControlTarget.eq_iff.mpr ⟨hworkspace, hrevision, hnode, hsocket⟩,
      hkind, hdeclaration, hrequest⟩
  · intro h
    obtain ⟨hworkspace, hrevision, hnode, hsocket⟩ :=
      NodeControlTarget.eq_iff.mp h.target
    exact ⟨h.purpose, h.issuer, h.keyId, h.audience,
      ⟨h.notBefore, h.expiresAt⟩, hworkspace, hrevision, hnode, hsocket, h.kind,
      h.declarationIdentity, h.requestId⟩

/-- **A surface-read grant is accepted** exactly when it is bound, by its digest too. -/
theorem verifySurfaceRead_accepted {context : SurfaceReadGrantContext}
    {grant : DelegatedWorkloadNodeControlSurfaceReadGrant}
    {read : NodeControlSurfaceReadRequest} :
    verifyWorkloadNodeControlSurfaceReadGrant dumps context (some grant) read =
      .ok .accepted ↔
      context.check = .ok () ∧ SurfaceReadBound context grant read ∧
        read.canonicalDigest dumps = .ok grant.requestDigest.value := by
  simp only [verifyWorkloadNodeControlSurfaceReadGrant, check_bind_ok,
    verifyClaims_accepted, surfaceReadClaims_ok, Option.map_some, Option.getD_some]

/-! ## One digest, one request -/

/-- The digest tells the bytes of two requests apart. -/
def DigestsApart (first second : Except WireError Bytes) : Prop :=
  ∀ encoded encoded', first = .ok encoded → second = .ok encoded' →
    sha256OfBytes encoded = sha256OfBytes encoded' → encoded = encoded'

/-- Requests of one digest have one canonical text. -/
theorem bytes_of_digest {first second : Except WireError Bytes} {digest : String}
    (hapart : DigestsApart first second) (h : first.map sha256OfBytes = .ok digest)
    (h' : second.map sha256OfBytes = .ok digest) : ∃ encoded, first = .ok encoded ∧
      second = .ok encoded := by
  obtain ⟨encoded, hfirst, hdigest⟩ := Library.Outcome.map_eq_ok.mp h
  obtain ⟨encoded', hsecond, hdigest'⟩ := Library.Outcome.map_eq_ok.mp h'
  have hsame := hapart encoded encoded' hfirst hsecond (hdigest.trans hdigest'.symm)
  exact ⟨encoded, hfirst, hsame ▸ hsecond⟩

theorem NodeControlCommandRequest.dumps_of_bytes {encoded : Bytes}
    (h : request.canonicalBytes dumps = .ok encoded) :
    dumps request.descriptor = some encoded := by
  unfold canonicalBytes at h
  split at h
  · cases h
  · rename_i hdumps
    cases h
    exact hdumps

theorem NodeControlSurfaceReadRequest.dumps_of_bytes
    {read : NodeControlSurfaceReadRequest} {encoded : Bytes}
    (h : read.canonicalBytes dumps = .ok encoded) :
    dumps read.descriptor = some encoded := by
  unfold canonicalBytes surfaceReadBytes boundedCanonicalBytes at h
  split at h
  · cases h
  · rename_i hdumps
    split at h
    · cases h
      exact hdumps
    · cases h

/-- **One digest, one request.** -/
theorem NodeControlCommandRequest.same_of_digest {digest : String}
    (hcanonical : Canonical dumps)
    (hapart : DigestsApart (request.canonicalBytes dumps) (other.canonicalBytes dumps))
    (h : request.canonicalDigest dumps = .ok digest)
    (h' : other.canonicalDigest dumps = .ok digest) : request.Same other := by
  obtain ⟨encoded, hrequest, hother⟩ := bytes_of_digest hapart h h'
  exact same_of_pyEq (hcanonical _ _ encoded request.isJson_descriptor
    other.isJson_descriptor (dumps_of_bytes hrequest) (dumps_of_bytes hother))

theorem NodeControlSurfaceReadRequest.eq_of_digest
    {read other : NodeControlSurfaceReadRequest} {digest : String}
    (hcanonical : Canonical dumps)
    (hapart : DigestsApart (read.canonicalBytes dumps) (other.canonicalBytes dumps))
    (h : read.canonicalDigest dumps = .ok digest)
    (h' : other.canonicalDigest dumps = .ok digest) : read = other := by
  obtain ⟨encoded, hread, hother⟩ := bytes_of_digest hapart h h'
  exact eq_of_pyEq (hcanonical _ _ encoded read.isJson_descriptor
    other.isJson_descriptor (dumps_of_bytes hread) (dumps_of_bytes hother))

/-- **Grants.**  Each verification accepts a grant exactly when the verifier's own
texts and time are admitted, every claim is bound and the digest is the request's;
and one grant is accepted for one request only. -/
theorem grants_authorize_one_request (dumps : CanonicalJson) :
    (∀ context grant request,
        verifyWorkloadNodeControlGrant dumps context (some grant) request =
          .ok .accepted ↔
          context.check = .ok () ∧ WorkloadBound context grant request ∧
            request.canonicalDigest dumps = .ok grant.requestDigest.value) ∧
      (∀ context grant request, grant.check dumps = .ok () →
        (verifyGatewayNodeControlTransitGrant dumps context (some grant) request =
          .ok .accepted ↔
          context.check = .ok () ∧ TransitBound context grant request ∧
            request.canonicalDigest dumps = .ok grant.requestDigest.value)) ∧
      (∀ context grant read,
        verifyWorkloadNodeControlSurfaceReadGrant dumps context (some grant) read =
          .ok .accepted ↔
          context.check = .ok () ∧ SurfaceReadBound context grant read ∧
            read.canonicalDigest dumps = .ok grant.requestDigest.value) ∧
      (Canonical dumps →
        (∀ grant context context' request other,
            DigestsApart (request.canonicalBytes dumps) (other.canonicalBytes dumps) →
            verifyWorkloadNodeControlGrant dumps context (some grant) request =
              .ok .accepted →
            verifyWorkloadNodeControlGrant dumps context' (some grant) other =
              .ok .accepted →
              request.Same other) ∧
          (∀ grant context context' request other, grant.check dumps = .ok () →
            DigestsApart (request.canonicalBytes dumps) (other.canonicalBytes dumps) →
            verifyGatewayNodeControlTransitGrant dumps context (some grant) request =
              .ok .accepted →
            verifyGatewayNodeControlTransitGrant dumps context' (some grant) other =
              .ok .accepted →
              request.Same other) ∧
          ∀ grant context context' read other,
            DigestsApart (read.canonicalBytes dumps) (other.canonicalBytes dumps) →
            verifyWorkloadNodeControlSurfaceReadGrant dumps context (some grant) read =
              .ok .accepted →
            verifyWorkloadNodeControlSurfaceReadGrant dumps context'
              (some grant) other =
              .ok .accepted →
              read = other) := by
  refine ⟨fun _ _ _ => verifyWorkload_accepted, fun _ _ _ hgrant =>
    verifyTransit_accepted hgrant,
    fun _ _ _ => verifySurfaceRead_accepted, fun hcanonical => ⟨?_, ?_, ?_⟩⟩
  · intro grant context context' request other hapart h h'
    obtain ⟨-, -, hdigest⟩ := verifyWorkload_accepted.mp h
    obtain ⟨-, -, hdigest'⟩ := verifyWorkload_accepted.mp h'
    exact NodeControlCommandRequest.same_of_digest hcanonical hapart hdigest hdigest'
  · intro grant context context' request other hgrant hapart h h'
    obtain ⟨-, -, hdigest⟩ := (verifyTransit_accepted hgrant).mp h
    obtain ⟨-, -, hdigest'⟩ := (verifyTransit_accepted hgrant).mp h'
    exact NodeControlCommandRequest.same_of_digest hcanonical hapart hdigest hdigest'
  · intro grant context context' read other hapart h h'
    obtain ⟨-, -, hdigest⟩ := verifySurfaceRead_accepted.mp h
    obtain ⟨-, -, hdigest'⟩ := verifySurfaceRead_accepted.mp h'
    exact NodeControlSurfaceReadRequest.eq_of_digest hcanonical hapart hdigest hdigest'

/-! ## Claims beside those of the request

A transit grant made for another purpose is rejected whatever else it says, and the
key of a workload grant is left to its caller. -/

/-- The canonical bytes of values of ASCII texts. -/
def asciiJson : CanonicalJson := fun v =>
  match PyValue.dumps .compact v with
  | .ok text => some (text.map fun c => UInt8.ofNat c.toNat)
  | .error _ => none

/-- A digest of some bytes. -/
def digestOf (encoded : Bytes) : NodeControlRequestDigest where
  value := sha256OfBytes encoded
  accepted := by
    simp only [isDigest, sha256OfBytes, Bool.and_eq_true, decide_eq_true_eq,
      List.all_eq_true, String.length_ofList, String.toList_ofList,
      Library.Sha256.hexdigestChars_length, true_and]
    intro c hc
    simpa [Library.Sha256.isHexDigit]
      using Library.Sha256.isHexDigit_of_mem_hexdigest hc

theorem shortReference_accepted :
    requireIdentifier "a" "node-control graph reference" = .ok () := by
  decide

def shortReference (role : NodeControlGraphReferenceRole) :
    NodeControlGraphReference role :=
  ⟨"a", shortReference_accepted⟩

/-- Read the variable `a`. -/
def readRequest : NodeControlCommandRequest where
  target := ⟨shortReference _, shortReference _, shortReference _, shortReference _⟩
  variableName := shortReference _
  operation := .readState
  requestId := "a"
  idempotencyKey := "a"
  commandCodec := none
  precondition := none
  payload := none
  canonicalization := .jcsRfc8785V1

def readDigest : NodeControlRequestDigest :=
  digestOf ((asciiJson readRequest.descriptor).getD [])

/-- A grant for the read, under a key. -/
def readGrant (keyId : String) : DelegatedWorkloadNodeControlGrant where
  issuedAt := 0
  notBefore := 0
  expiresAt := 1
  issuer := "a"
  keyId := keyId
  audience := "a"
  target := readRequest.target
  variableName := readRequest.variableName
  operation := .readState
  commandCodec := none
  requestId := "a"
  idempotencyKey := "a"
  requestDigest := readDigest
  jti := "a"

/-- A transit grant for the read, made for a purpose. -/
def readTransitGrant (purpose : DelegationKeyPurpose) :
    DelegatedGatewayNodeControlTransitGrant where
  issuedAt := 0
  notBefore := 0
  expiresAt := 1
  profile := .v1
  canonicalization := .jcsRfc8785V1
  purpose := purpose
  issuer := "a"
  keyId := "a"
  attemptId := "a"
  workspaceId := shortReference _
  graphRevision := shortReference _
  gatewayNodeId := shortReference _
  target := readRequest.target
  variableName := readRequest.variableName
  operation := .readState
  commandCodec := none
  requestId := "a"
  idempotencyKey := "a"
  requestDigest := readDigest
  jti := "a"

def readContext : WorkloadGrantContext := ⟨"a", "a", 0⟩

def readTransitContext : TransitGrantContext := ⟨"a", "a", "a", shortReference _, 0⟩

theorem readRequest_digest :
    readRequest.canonicalDigest asciiJson = .ok readDigest.value := by
  have hdumps : (asciiJson readRequest.descriptor).isSome = true := by decide
  obtain ⟨encoded, hencoded⟩ := Option.isSome_iff_exists.mp hdumps
  simp only [NodeControlCommandRequest.canonicalDigest,
    NodeControlCommandRequest.canonicalBytes, hencoded, readDigest, Option.getD_some]
  rfl

theorem readTransitGrant_check :
    (readTransitGrant .gatewayNodeControlTransit).check asciiJson = .ok () ∧
      (readTransitGrant .workloadNodeControl).check asciiJson = .ok () := by
  decide +kernel

theorem readGrant_bound (keyId : String) :
    WorkloadBound readContext (readGrant keyId) readRequest :=
  ⟨rfl, rfl, Int.le_refl 0, Int.zero_lt_one, rfl, rfl, rfl, rfl, rfl, rfl⟩

/-- Every claim that names the request, the gateway, the issuer and the key holds, and
the grant is rejected for its purpose; and grants of two keys are both accepted. -/
theorem claims_beside_the_request :
    (readTransitGrant .workloadNodeControl).check asciiJson = .ok () ∧
      (verifyGatewayNodeControlTransitGrant asciiJson readTransitContext
          (some (readTransitGrant .gatewayNodeControlTransit)) readRequest =
            .ok .accepted ∧
        verifyGatewayNodeControlTransitGrant asciiJson readTransitContext
          (some (readTransitGrant .workloadNodeControl)) readRequest =
            .ok (.rejected .purposeMismatch)) ∧
      verifyWorkloadNodeControlGrant asciiJson readContext
        (some (readGrant "a")) readRequest =
          .ok .accepted ∧
        verifyWorkloadNodeControlGrant asciiJson readContext
          (some (readGrant "b")) readRequest =
          .ok .accepted := by
  have hcontext : readContext.check = .ok () := by decide
  have htransit : readTransitContext.check = .ok () := by decide
  refine ⟨readTransitGrant_check.2, ⟨?_, ?_⟩, ?_, ?_⟩
  · exact (verifyTransit_accepted readTransitGrant_check.1).mpr ⟨htransit,
      ⟨rfl, rfl, rfl, rfl, rfl, Int.le_refl 0, Int.zero_lt_one, rfl, rfl, rfl,
        rfl, rfl, rfl⟩,
      readRequest_digest⟩
  · rw [verifyGatewayNodeControlTransitGrant, htransit]
    rfl
  · exact verifyWorkload_accepted.mpr
      ⟨hcontext, readGrant_bound "a", readRequest_digest⟩
  · exact verifyWorkload_accepted.mpr
      ⟨hcontext, readGrant_bound "b", readRequest_digest⟩

end ControlPlaneKit.NodeControl
