import ControlPlaneKit.Library.CanonicalText
import ControlPlaneKit.NodeControl.Audiences
import ControlPlaneKit.NodeControl.SurfaceReadResults
import Mathlib.Tactic.Linarith

/-!
# AggregateBounds — what the bound of a grant adds to the bounds of its fields

Each grant bounds the length of its canonical encoding.  The width of a descriptor adds
up from the lengths of its fields, and at their bounds it is the aggregate maximum; a
transit grant of the longest purpose is six bytes wider than that.
-/

namespace ControlPlaneKit.NodeControl

open ControlPlaneKit.Library (PyDict PyValue)
open ControlPlaneKit.Library.CanonicalText
open ControlPlaneKit.Library.EventFold (bind_ok check_bind_ok)
open ControlPlaneKit.Library.JsonText (isInteroperable)
open ControlPlaneKit.Library.Outcome (ok_bind)
open ControlPlaneKit.Library.PyValue (intText)
open ControlPlaneKit.Library.Text (isAsciiAlnum)
open ControlPlaneKit.Topology (DelegationKeyPurpose)

/-! ## Widths of fields -/

theorem isPlain_of_referencePart {c : Char} (h : isReferencePart c = true) :
    isPlain c = true := by
  have hrange : 32 ≤ c.toNat ∧ c.toNat < 128 := by
    simp only [isReferencePart, isIdentifierTail, isAsciiAlnum, Bool.or_eq_true,
      Bool.and_eq_true, decide_eq_true_eq] at h
    rcases h with ((((h | rfl) | rfl) | rfl) | rfl) | rfl
    · omega
    all_goals decide
  have hquote : c ≠ '"' := fun hc => absurd (hc ▸ h) (by decide)
  have hbackslash : c ≠ '\\' := fun hc => absurd (hc ▸ h) (by decide)
  simp only [isPlain, Bool.and_eq_true, decide_eq_true_eq]
  exact ⟨⟨hrange, hquote⟩, hbackslash⟩

/-- A reference has at most 256 characters, none of them escaped. -/
theorem textWidth_reference {value : String} (h : isReference value = true) :
    textWidth value = value.length + 2 ∧ value.length ≤ 256 := by
  rw [isReference] at h
  cases hvalue : value.toList with
  | nil => simp [hvalue] at h
  | cons c rest =>
      simp only [hvalue, Bool.and_eq_true, decide_eq_true_eq, List.all_eq_true] at h
      obtain ⟨⟨hfirst, hrest⟩, hlength⟩ := h
      have hparts : ∀ d ∈ value.toList, isReferencePart d = true := by
        rw [hvalue]
        intro d hd
        rcases List.mem_cons.mp hd with rfl | hd
        · rw [isReferencePart, isIdentifierTail, hfirst, Bool.true_or, Bool.true_or,
            Bool.true_or, Bool.true_or, Bool.true_or]
        · exact hrest d hd
      refine ⟨textWidth_of_plain fun d hd => isPlain_of_referencePart (hparts d hd), ?_⟩
      rw [← String.length_toList, hvalue, List.length_cons]
      omega

theorem textWidth_identifier {value : String} (h : isIdentifier value = true) :
    textWidth value = value.length + 2 ∧ value.length ≤ 128 :=
  ⟨(textWidth_reference (isReference_of_isIdentifier h)).1,
    String.length_toList ▸ length_of_isIdentifier h⟩

theorem textWidth_reference_le {value : String} (h : isReference value = true) :
    textWidth value ≤ 258 := by
  have := textWidth_reference h
  omega

theorem textWidth_identifier_le {value : String} (h : isIdentifier value = true) :
    textWidth value ≤ 130 := by
  have := textWidth_identifier h
  omega

theorem textWidth_digest {value : String} (h : isDigest value = true) :
    textWidth value = 66 := by
  simp only [isDigest, Bool.and_eq_true, decide_eq_true_eq, List.all_eq_true,
    Bool.or_eq_true] at h
  have hplain : ∀ c ∈ value.toList, isPlain c = true := by
    intro c hc
    have hrange := h.2 c hc
    refine isPlain_of_referencePart ?_
    simp only [isReferencePart, isIdentifierTail, isAsciiAlnum, Bool.or_eq_true,
      Bool.and_eq_true, decide_eq_true_eq]
    omega
  rw [textWidth_of_plain hplain, h.1]

theorem width_epoch {n : Int} (h : isEpoch n = true) :
    (intText n).length ≤ 16 ∧ isInteroperable n = true := by
  simp only [isEpoch, Bool.and_eq_true, decide_eq_true_eq] at h
  have hmax : (maxSafeInteger : Int) = 9007199254740991 := rfl
  refine ⟨?_, ?_⟩
  · rw [← width_int]
    exact width_int_le h.1 (by decide) (by omega)
  · rw [isInteroperable, decide_eq_true_eq]
    omega

theorem graphReference_width {role : NodeControlGraphReferenceRole}
    (reference : NodeControlGraphReference role) :
    textWidth reference.value = reference.value.length + 2 ∧
    reference.value.length ≤ 128 :=
  textWidth_identifier (isIdentifier_of_accepted reference.accepted)

/-- The identifiers of a target, with their keys and punctuation. -/
theorem width_target (target : NodeControlTarget) :
    width target.descriptor = 78 + target.workspaceId.value.length +
      target.graphRevision.value.length + target.nodeId.value.length +
      target.providerSocketName.value.length := by
  have hkeys :
      keysWidth ["workspace_id", "graph_revision", "node_id", "provider_socket_name"] =
      70 := by decide
  have := graphReference_width target.workspaceId
  have := graphReference_width target.graphRevision
  have := graphReference_width target.nodeId
  have := graphReference_width target.providerSocketName
  rw [NodeControlTarget.descriptor, width_dict (List.cons_ne_nil _ _)]
  simp only [List.map_cons, List.map_nil, List.sum_cons, List.sum_nil, hkeys, width_str]
  omega

theorem width_target_le (target : NodeControlTarget) :
    width target.descriptor ≤ 590 := by
  have := graphReference_width target.workspaceId
  have := graphReference_width target.graphRevision
  have := graphReference_width target.nodeId
  have := graphReference_width target.providerSocketName
  rw [width_target]
  omega

theorem encodable_target (target : NodeControlTarget) :
    encodable target.descriptor = true := by
  refine encodable_dict (by simp) fun entry hentry => ?_
  simp only [List.mem_cons, List.not_mem_nil, or_false] at hentry
  rcases hentry with rfl | rfl | rfl | rfl <;> rfl

/-- What an operation and its codec are short of the widest. -/
def commandRoom (operation : NodeControlOperation) :
    Option ControlPlaneCommandCodec → Nat
  | none => 13 - operation.value.length + 33
  | some codec => 13 - operation.value.length + (35 - codec.value.length)

theorem width_command (operation : NodeControlOperation)
    (commandCodec : Option ControlPlaneCommandCodec) :
    textWidth operation.value + width (codecOrNone commandCodec) +
      commandRoom operation commandCodec = 52 := by
  rcases commandCodec with _ | codec
  · cases operation <;> decide
  · cases operation <;> cases codec <;> decide

theorem encodable_codecOrNone (commandCodec : Option ControlPlaneCommandCodec) :
    encodable (codecOrNone commandCodec) = true := by
  cases commandCodec <;> rfl

theorem epochs_of_window {texts : WindowTexts} {window : GrantWindow}
    (h : window.check texts = .ok ()) :
    isEpoch window.issuedAt = true ∧ isEpoch window.notBefore = true ∧
      isEpoch window.expiresAt = true := by
  rw [GrantWindow.check, check_bind_ok, check_bind_ok, check_bind_ok] at h
  exact ⟨requireWire_eq_ok.mp h.1, requireWire_eq_ok.mp h.2.1,
    requireWire_eq_ok.mp h.2.2.1⟩

/-! ## Bounded encodings -/

/-- The encoding exists and is no longer than the maximum. -/
def Within (dumps : CanonicalJson) (descriptor : PyValue) (maximum : Nat) : Prop :=
  ∃ encoded, dumps descriptor = some encoded ∧ encoded.length ≤ maximum

section Bounded

variable {dumps : CanonicalJson} {raise : String → WireError} {exceeds name : String}
  {descriptor : PyValue} {maximum : Nat}

theorem bounded_eq_ok_iff :
    (∃ encoded, boundedCanonicalBytes dumps raise exceeds descriptor maximum
    name = .ok encoded) ↔ Within dumps descriptor maximum := by
  unfold boundedCanonicalBytes Within
  cases dumps descriptor with
  | none => exact ⟨fun ⟨_, h⟩ => (nomatch h), fun ⟨_, h, _⟩ => (nomatch h)⟩
  | some encoded =>
      dsimp only
      split
      · exact ⟨fun _ => ⟨encoded, rfl, by assumption⟩, fun _ => ⟨encoded, rfl⟩⟩
      · refine ⟨fun ⟨_, h⟩ => (nomatch h), ?_⟩
        rintro ⟨other, hother, hlength⟩
        cases hother
        contradiction

/-- A constructor that checks its fields and then its size. -/
theorem check_eq_ok_iff {fields : Except WireError Unit} :
    (fields >>= fun _ =>
      boundedCanonicalBytes dumps raise exceeds descriptor maximum name >>=
      fun _ => pure ()) = .ok () ↔
        fields = .ok () ∧ Within dumps descriptor maximum := by
  rw [check_bind_ok, bind_ok]
  simp only [pure, Except.pure, and_true, bounded_eq_ok_iff]

theorem bounded_of_wide (hdumps : FollowsRfc8785 dumps)
    (h : encodable descriptor = true) (hwide : maximum < width descriptor) :
    boundedCanonicalBytes dumps raise exceeds descriptor maximum name =
      .error (raise (name ++ exceeds)) := by
  obtain ⟨encoded, hencoded, hlength⟩ := hdumps.dumps_eq h
  rw [boundedCanonicalBytes, hencoded]
  exact if_neg (by omega)

/-- **A bound is met exactly when the descriptor is not too wide.** -/
theorem within_iff (hdumps : FollowsRfc8785 dumps) (h : encodable descriptor = true) :
    Within dumps descriptor maximum ↔ width descriptor ≤ maximum := by
  obtain ⟨encoded, hencoded, hlength⟩ := hdumps.dumps_eq h
  refine ⟨fun ⟨other, hother, hle⟩ => ?_, fun hle => ⟨encoded, hencoded, hlength ▸ hle⟩⟩
  rw [hencoded] at hother
  cases hother
  omega

end Bounded

/-! ## Workload grants -/

/-- What `DelegatedWorkloadNodeControlGrant` checks before its size. -/
def DelegatedWorkloadNodeControlGrant.checkFields
    (grant : DelegatedWorkloadNodeControlGrant) : Except WireError Unit := do
  requireReference grant.issuer "workload grant issuer"
  requireIdentifier grant.keyId "workload grant key_id"
  requireReference grant.audience "workload grant audience"
  checkCodec .contract "workload" grant.operation grant.commandCodec
  requireIdentifier grant.requestId "workload grant request_id"
  requireIdentifier grant.idempotencyKey "workload grant idempotency_key"
  grant.toGrantWindow.check workloadWindowTexts
  requireIdentifier grant.jti "workload grant jti"

section Workload

variable {dumps : CanonicalJson} {grant : DelegatedWorkloadNodeControlGrant}

theorem DelegatedWorkloadNodeControlGrant.check_eq_ok : grant.check dumps = .ok () ↔
    grant.checkFields = .ok () ∧
    Within dumps grant.descriptor maxWorkloadGrantBytes := by
  have hsplit : grant.check dumps = grant.checkFields >>= fun _ =>
      boundedCanonicalBytes dumps .contract " exceeds the public size bound"
          grant.descriptor maxWorkloadGrantBytes "workload node-control grant" >>=
          fun _ => pure () := by
    simp only [check, checkFields, canonicalBytes, wireBytes, bind_assoc]
  rw [hsplit, check_eq_ok_iff]

theorem encodable_workloadGrant (h : grant.checkFields = .ok ()) :
    encodable grant.descriptor = true := by
  simp only [DelegatedWorkloadNodeControlGrant.checkFields, check_bind_ok] at h
  obtain ⟨-, -, -, -, -, -, hwindow, -⟩ := h
  obtain ⟨hissued, hbefore, hexpires⟩ := epochs_of_window hwindow
  refine encodable_dict (by simp [GrantWindow.entries]) fun entry hentry => ?_
  simp only [GrantWindow.entries, List.cons_append, List.nil_append, List.mem_cons,
    List.not_mem_nil, or_false] at hentry
  rcases hentry with rfl | rfl | rfl | rfl | rfl | rfl | rfl | rfl | rfl | rfl | rfl |
    rfl | rfl | rfl
  · rfl
  · rfl
  · rfl
  · exact encodable_target _
  · rfl
  · rfl
  · exact encodable_codecOrNone _
  · rfl
  · rfl
  · rfl
  · exact (width_epoch hissued).2
  · exact (width_epoch hbefore).2
  · exact (width_epoch hexpires).2
  · rfl

theorem width_workloadGrant (h : grant.checkFields = .ok ()) :
    width grant.descriptor ≤ maxWorkloadGrantBytes := by
  have hkeys : keysWidth
      ["issuer", "key_id", "audience", "target", "variable_name", "operation",
        "command_codec", "request_id", "idempotency_key", "request_digest", "issued_at",
      "not_before", "expires_at", "jti"] = 189 := by decide
  simp only [DelegatedWorkloadNodeControlGrant.checkFields, check_bind_ok] at h
  obtain ⟨hissuer, hkey, haudience, -, hrequest, hidempotency, hwindow, hjti⟩ := h
  obtain ⟨hissued, hbefore, hexpires⟩ := epochs_of_window hwindow
  have := textWidth_reference_le (isReference_of_ok hissuer)
  have := textWidth_identifier_le (isIdentifier_of_ok hkey)
  have := textWidth_reference_le (isReference_of_ok haudience)
  have := width_target_le grant.target
  have := textWidth_identifier_le (isIdentifier_of_accepted grant.variableName.accepted)
  have := width_command grant.operation grant.commandCodec
  have := textWidth_identifier_le (isIdentifier_of_ok hrequest)
  have := textWidth_identifier_le (isIdentifier_of_ok hidempotency)
  have := textWidth_digest grant.requestDigest.accepted
  have := (width_epoch hissued).1
  have := (width_epoch hbefore).1
  have := (width_epoch hexpires).1
  have := textWidth_identifier_le (isIdentifier_of_ok hjti)
  simp only [DelegatedWorkloadNodeControlGrant.descriptor, GrantWindow.entries,
    List.cons_append, List.nil_append]
  rw [width_dict (List.cons_ne_nil _ _), maxWorkloadGrantBytes]
  simp only [List.map_cons, List.map_nil, List.sum_cons, List.sum_nil, hkeys,
    width_str, width_int]
  linarith

end Workload

/-! ## Surface-read grants -/

/-- What `DelegatedWorkloadNodeControlSurfaceReadGrant` checks before its size. -/
def DelegatedWorkloadNodeControlSurfaceReadGrant.checkFields
    (grant : DelegatedWorkloadNodeControlSurfaceReadGrant) : Except WireError Unit := do
  requireReferenceAs .surfaceRead grant.issuer "surface-read grant issuer"
  requireIdentifierAs .surfaceRead grant.keyId "surface-read grant key_id"
  requireReferenceAs .surfaceRead grant.audience "surface-read grant audience"
  requireIdentifierAs .surfaceRead grant.requestId "surface-read grant request_id"
  grant.toGrantWindow.check surfaceReadWindowTexts
  requireIdentifierAs .surfaceRead grant.jti "surface-read grant jti"

theorem textWidth_purpose_le (purpose : DelegationKeyPurpose) :
    textWidth purpose.value ≤ 36 := by
  cases purpose <;> decide

theorem textWidth_kind (kind : NodeControlSurfaceReadKind) :
    textWidth kind.value ≤ 14 := by
  cases kind <;> decide

theorem textWidth_canonicalization (canonicalization : NodeControlCanonicalization) :
    textWidth canonicalization.value = 16 := by
  cases canonicalization
  decide

section SurfaceRead

variable {dumps : CanonicalJson} {grant : DelegatedWorkloadNodeControlSurfaceReadGrant}

theorem DelegatedWorkloadNodeControlSurfaceReadGrant.check_eq_ok :
    grant.check dumps = .ok () ↔
    grant.checkFields = .ok () ∧
    Within dumps grant.descriptor maxSurfaceReadGrantBytes := by
  have hsplit : grant.check dumps = grant.checkFields >>= fun _ =>
      boundedCanonicalBytes dumps .surfaceRead " aggregate exceeds the public bound"
        grant.descriptor maxSurfaceReadGrantBytes "surface-read grant" >>=
          fun _ => pure () := by
    simp only [check, checkFields, canonicalBytes, surfaceReadBytes, bind_assoc]
  rw [hsplit, check_eq_ok_iff]

theorem encodable_surfaceReadGrant (h : grant.checkFields = .ok ()) :
    encodable grant.descriptor = true := by
  simp only [DelegatedWorkloadNodeControlSurfaceReadGrant.checkFields,
    check_bind_ok] at h
  obtain ⟨-, -, -, -, hwindow, -⟩ := h
  obtain ⟨hissued, hbefore, hexpires⟩ := epochs_of_window hwindow
  refine encodable_dict (by simp [GrantWindow.entries]) fun entry hentry => ?_
  simp only [GrantWindow.entries, List.cons_append, List.nil_append, List.mem_cons,
    List.not_mem_nil, or_false] at hentry
  rcases hentry with rfl | rfl | rfl | rfl | rfl | rfl | rfl | rfl | rfl | rfl | rfl |
    rfl | rfl | rfl | rfl
  · rfl
  · rfl
  · rfl
  · rfl
  · rfl
  · rfl
  · exact encodable_target _
  · rfl
  · rfl
  · rfl
  · rfl
  · exact (width_epoch hissued).2
  · exact (width_epoch hbefore).2
  · exact (width_epoch hexpires).2
  · rfl

theorem width_surfaceReadGrant (h : grant.checkFields = .ok ()) :
    width grant.descriptor ≤ maxSurfaceReadGrantBytes := by
  have hkeys : keysWidth ["profile", "canonicalization", "purpose", "issuer", "key_id",
      "audience", "target", "kind", "declaration_identity", "request_id",
      "request_digest", "issued_at", "not_before", "expires_at",
      "jti"] = 197 := by decide
  have hprofile : textWidth grant.profile.value = 45 := by
    cases grant.profile
    decide
  simp only [DelegatedWorkloadNodeControlSurfaceReadGrant.checkFields,
    check_bind_ok] at h
  obtain ⟨hissuer, hkey, haudience, hrequest, hwindow, hjti⟩ := h
  obtain ⟨hissued, hbefore, hexpires⟩ := epochs_of_window hwindow
  have := textWidth_canonicalization grant.canonicalization
  have := textWidth_purpose_le grant.purpose
  have := textWidth_reference_le (isReference_of_ok hissuer)
  have := textWidth_identifier_le (isIdentifier_of_ok hkey)
  have := textWidth_reference_le (isReference_of_ok haudience)
  have := width_target_le grant.target
  have := textWidth_kind grant.kind
  have := textWidth_digest grant.declarationIdentity.accepted
  have := textWidth_identifier_le (isIdentifier_of_ok hrequest)
  have := textWidth_digest grant.requestDigest.accepted
  have := (width_epoch hissued).1
  have := (width_epoch hbefore).1
  have := (width_epoch hexpires).1
  have := textWidth_identifier_le (isIdentifier_of_ok hjti)
  simp only [DelegatedWorkloadNodeControlSurfaceReadGrant.descriptor,
    GrantWindow.entries, List.cons_append, List.nil_append]
  rw [width_dict (List.cons_ne_nil _ _), maxSurfaceReadGrantBytes]
  simp only [List.map_cons, List.map_nil, List.sum_cons, List.sum_nil, hkeys,
    width_str, width_int]
  linarith

end SurfaceRead

/-! ## Transit grants -/

/-- What `DelegatedGatewayNodeControlTransitGrant` checks before its size. -/
def DelegatedGatewayNodeControlTransitGrant.checkFields
    (grant : DelegatedGatewayNodeControlTransitGrant) : Except WireError Unit := do
  requireTransitReference grant.issuer "transit grant issuer"
  requireTransitIdentifier grant.keyId "transit grant key_id"
  requireTransitIdentifier grant.attemptId "transit grant attempt_id"
  requireTransitIdentifier grant.requestId "transit grant request_id"
  requireTransitIdentifier grant.idempotencyKey "transit grant idempotency_key"
  requireTransitIdentifier grant.jti "transit grant jti"
  requireWire (grant.workspaceId = grant.target.workspaceId)
    (.transit "transit grant workspace_id must match target")
  requireWire (grant.graphRevision = grant.target.graphRevision)
    (.transit "transit grant graph_revision must match target")
  checkCodec .transit "transit" grant.operation grant.commandCodec
  grant.toGrantWindow.check transitWindowTexts
  let _ ← deriveAudience grant.workspaceId grant.gatewayNodeId
  return ()

/-- How many decimal digits an instant is short of the greatest. -/
def epochRoom (value : Int) : Nat := 16 - (intText value).length

/-- How many characters the fields of a transit grant are short of their bounds; the
workspace is written three times, the revision and the gateway twice. -/
def DelegatedGatewayNodeControlTransitGrant.room
    (grant : DelegatedGatewayNodeControlTransitGrant) : Nat :=
  (256 - grant.issuer.length) + (128 - grant.keyId.length) +
    (128 - grant.attemptId.length) +
    3 * (128 - grant.workspaceId.value.length) + 2 *
      (128 - grant.graphRevision.value.length) +
    2 * (128 - grant.gatewayNodeId.value.length) +
      (128 - grant.target.nodeId.value.length) +
    (128 - grant.target.providerSocketName.value.length) +
    (128 - grant.variableName.value.length) +
      commandRoom grant.operation grant.commandCodec +
    (128 - grant.requestId.length) + (128 - grant.idempotencyKey.length) +
    (128 - grant.jti.length) + epochRoom grant.issuedAt + epochRoom grant.notBefore +
    epochRoom grant.expiresAt

/-- The audience a transit grant derives. -/
def DelegatedGatewayNodeControlTransitGrant.derivedAudience
    (grant : DelegatedGatewayNodeControlTransitGrant) : String :=
  "gateway:" ++ grant.workspaceId.value ++ ":" ++ grant.gatewayNodeId.value

section Transit

variable {dumps : CanonicalJson} {grant : DelegatedGatewayNodeControlTransitGrant}

/-- What the fields of a transit grant are once they are checked. -/
structure DelegatedGatewayNodeControlTransitGrant.Fields
    (grant : DelegatedGatewayNodeControlTransitGrant) : Prop where
  issuer : isReference grant.issuer = true
  keyId : isIdentifier grant.keyId = true
  attemptId : isIdentifier grant.attemptId = true
  requestId : isIdentifier grant.requestId = true
  idempotencyKey : isIdentifier grant.idempotencyKey = true
  jti : isIdentifier grant.jti = true
  workspaceId : grant.workspaceId = grant.target.workspaceId
  graphRevision : grant.graphRevision = grant.target.graphRevision
  issuedAt : isEpoch grant.issuedAt = true
  notBefore : isEpoch grant.notBefore = true
  expiresAt : isEpoch grant.expiresAt = true
  audience : deriveAudience grant.workspaceId grant.gatewayNodeId =
    .ok grant.derivedAudience

theorem fields_of_transit (h : grant.checkFields = .ok ()) : grant.Fields := by
  simp only [DelegatedGatewayNodeControlTransitGrant.checkFields, check_bind_ok,
    requireWire_eq_ok, decide_eq_true_eq] at h
  obtain ⟨hissuer, hkey, hattempt, hrequest, hidempotency, hjti, hworkspace,
    hrevision, -, hwindow, haudience⟩ := h
  obtain ⟨hissued, hbefore, hexpires⟩ := epochs_of_window hwindow
  obtain ⟨audience, haudience, -⟩ := bind_ok.mp haudience
  obtain rfl := gatewayAudience_of_ok haudience
  exact
    { issuer := isReference_of_transit hissuer
      keyId := isIdentifier_of_transit hkey
      attemptId := isIdentifier_of_transit hattempt
      requestId := isIdentifier_of_transit hrequest
      idempotencyKey := isIdentifier_of_transit hidempotency
      jti := isIdentifier_of_transit hjti
      workspaceId := hworkspace
      graphRevision := hrevision
      issuedAt := hissued
      notBefore := hbefore
      expiresAt := hexpires
      audience := haudience }

theorem DelegatedGatewayNodeControlTransitGrant.check_eq_ok :
    grant.check dumps = .ok () ↔
    grant.checkFields = .ok () ∧
      Within dumps (grant.descriptor grant.derivedAudience) maxTransitGrantBytes := by
  have hsplit : grant.check dumps = grant.checkFields >>= fun _ =>
      grant.canonicalBytes dumps >>= fun _ => pure () := by
    simp only [check, checkFields, bind_assoc, pure_bind]
  rw [hsplit, check_bind_ok]
  refine and_congr_right fun hfields => ?_
  rw [canonicalBytes, (fields_of_transit hfields).audience, ok_bind, bind_ok]
  simp only [transitBytes, pure, Except.pure, and_true, bounded_eq_ok_iff]

/-- A text and what it is short of its bound are together as wide as the bound. -/
theorem width_and_room {value : String} {maximum : Nat}
    (h : textWidth value = value.length + 2 ∧ value.length ≤ maximum) :
    textWidth value + (maximum - value.length) = maximum + 2 := by
  omega

theorem epoch_and_room {n : Int} (h : isEpoch n = true) :
    (intText n).length + epochRoom n = 16 := by
  have := (width_epoch h).1
  rw [epochRoom]
  omega

theorem encodable_transitGrant (h : grant.Fields) (audience : String) :
    encodable (grant.descriptor audience) = true := by
  refine encodable_dict (by simp [GrantWindow.entries]) fun entry hentry => ?_
  simp only [GrantWindow.entries, List.cons_append, List.nil_append, List.mem_cons,
    List.not_mem_nil, or_false] at hentry
  rcases hentry with rfl | rfl | rfl | rfl | rfl | rfl | rfl | rfl | rfl | rfl | rfl |
    rfl | rfl | rfl | rfl | rfl | rfl | rfl | rfl | rfl | rfl
  · rfl
  · rfl
  · rfl
  · rfl
  · rfl
  · rfl
  · rfl
  · rfl
  · rfl
  · rfl
  · exact encodable_target _
  · rfl
  · rfl
  · exact encodable_codecOrNone _
  · rfl
  · rfl
  · rfl
  · exact (width_epoch h.issuedAt).2
  · exact (width_epoch h.notBefore).2
  · exact (width_epoch h.expiresAt).2
  · rfl

/-- The audience has the prefix, the two identifiers and a colon. -/
theorem textWidth_derivedAudience :
    textWidth grant.derivedAudience =
      grant.workspaceId.value.length + grant.gatewayNodeId.value.length + 11 := by
  have htext : grant.derivedAudience.toList = 'g' :: "ateway".toList ++
      ':' ::
        (grant.workspaceId.value.toList ++ ':' :: grant.gatewayNodeId.value.toList) :=
    toList_gatewayAudience _ _
  have hplain : ∀ c ∈ grant.derivedAudience.toList, isPlain c = true := by
    rw [htext]
    intro c hc
    have := namePart_joined isAudienceWord_gateway (publicName _ grant.workspaceId)
      (publicName _ grant.gatewayNodeId) c hc
    rw [isNamePart, Bool.or_eq_true] at this
    refine isPlain_of_referencePart ?_
    rw [isReferencePart, Bool.or_eq_true, Bool.or_eq_true]
    exact .inl this
  rw [textWidth_of_plain hplain, ← String.length_toList, htext]
  simp only [List.length_append, List.length_cons, String.length_toList,
    show "ateway".toList.length = 6 from rfl]
  omega

/-- **The width of a transit grant**, by what its fields leave and by its purpose. -/
theorem width_transitGrant (h : grant.Fields) :
    width (grant.descriptor grant.derivedAudience) + grant.room =
      2804 + textWidth grant.purpose.value := by
  have hkeys : keysWidth ["profile", "canonicalization", "purpose", "issuer", "key_id",
      "audience", "attempt_id", "workspace_id", "graph_revision",
      "gateway_node_id", "target", "variable_name", "operation", "command_codec",
      "request_id", "idempotency_key", "request_digest", "issued_at", "not_before",
      "expires_at", "jti"] = 298 := by
    decide
  have hprofile : textWidth grant.profile.value = 39 := by
    cases grant.profile
    decide
  have htarget : width grant.target.descriptor = 78 + grant.workspaceId.value.length +
      grant.graphRevision.value.length + grant.target.nodeId.value.length +
      grant.target.providerSocketName.value.length := by
    rw [width_target, h.workspaceId, h.graphRevision]
  have haudience := @textWidth_derivedAudience grant
  have hworkspace := graphReference_width grant.workspaceId
  have hgateway := graphReference_width grant.gatewayNodeId
  have hrevision := graphReference_width grant.graphRevision
  have hworkspaceRoom := width_and_room hworkspace
  have hgatewayRoom := width_and_room hgateway
  have hrevisionRoom := width_and_room hrevision
  have hnode := width_and_room (graphReference_width grant.target.nodeId)
  have hsocket := width_and_room (graphReference_width grant.target.providerSocketName)
  have := textWidth_canonicalization grant.canonicalization
  have := width_and_room (textWidth_reference h.issuer)
  have := width_and_room (textWidth_identifier h.keyId)
  have := width_and_room (textWidth_identifier h.attemptId)
  have := width_and_room (graphReference_width grant.variableName)
  have := width_command grant.operation grant.commandCodec
  have := width_and_room (textWidth_identifier h.requestId)
  have := width_and_room (textWidth_identifier h.idempotencyKey)
  have := textWidth_digest grant.requestDigest.accepted
  have := epoch_and_room h.issuedAt
  have := epoch_and_room h.notBefore
  have := epoch_and_room h.expiresAt
  have := width_and_room (textWidth_identifier h.jti)
  have := (graphReference_width grant.target.nodeId).1
  have := (graphReference_width grant.target.providerSocketName).1
  simp only [DelegatedGatewayNodeControlTransitGrant.descriptor, GrantWindow.entries,
    List.cons_append, List.nil_append]
  rw [width_dict (List.cons_ne_nil _ _), DelegatedGatewayNodeControlTransitGrant.room]
  simp only [List.map_cons, List.map_nil, List.sum_cons, List.sum_nil, hkeys,
    width_str, width_int]
  linarith [hworkspace.1, hgateway.1, hrevision.1]

/-- **A transit grant is too wide** only for its longest purpose, with less than six
characters left. -/
theorem transitGrant_within_iff (hdumps : FollowsRfc8785 dumps) (h : grant.Fields) :
    Within dumps (grant.descriptor grant.derivedAudience) maxTransitGrantBytes ↔
      grant.purpose ≠ .workloadNodeControlSurfaceRead ∨ 6 ≤ grant.room := by
  have hwidth := width_transitGrant h
  rw [within_iff hdumps (encodable_transitGrant h _), maxTransitGrantBytes]
  cases hpurpose : grant.purpose with
  | workloadNodeControlSurfaceRead =>
      have hlongest :
          textWidth DelegationKeyPurpose.workloadNodeControlSurfaceRead.value = 36 := by
        decide
      rw [hpurpose, hlongest] at hwidth
      simp only [ne_eq, not_true, false_or]
      constructor <;> intro <;> linarith
  | _ =>
      have hshort : textWidth grant.purpose.value ≤ 30 := by
        rw [hpurpose]
        decide
      refine ⟨fun _ => .inl nofun, fun _ => ?_⟩
      linarith [Nat.zero_le grant.room]

end Transit

end ControlPlaneKit.NodeControl
