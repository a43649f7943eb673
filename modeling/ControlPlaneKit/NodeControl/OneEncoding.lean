import ControlPlaneKit.Library.IntegralFloats
import ControlPlaneKit.NodeControl.CodecLaws

/-!
# OneEncoding — requests and grants have one encoding

What is encoded is decoded again, what is decoded was encoded from the result, and
bytes of one meaning are the same bytes.
-/

namespace ControlPlaneKit.NodeControl

open ControlPlaneKit.Library (JsonSyntax PyDict PyError PyFloat PyValue)
open ControlPlaneKit.Library.EventFold (bind_ok check_bind_ok)
open ControlPlaneKit.Library.JsonText
  (KeepsIntegers MakesFloats SameMeaning built built_of_denotes
  denotes hasFloat intOfToken isInteroperable parse pyEq_of_denotes reread
  reread_int reread_none
  someFloat someFloatEntries)

variable {dumps : CanonicalJson} {float : String → PyFloat}

/-! ## What canonical bytes are read as -/

/-- The hook of the module of node control keeps the interoperable integers and makes
floats of the others. -/
theorem jcsInteger_keeps : KeepsIntegers (jcsInteger float) := by
  intro token n htoken hsafe
  have hsafe' : isSafeInteger n = true := hsafe
  simp [jcsInteger, htoken, hsafe']

theorem jcsInteger_makes : MakesFloats float (jcsInteger float) := by
  intro token n htoken hlarge
  have hlarge' : isSafeInteger n = false := hlarge
  simp [jcsInteger, htoken, hlarge']

/-- Without a hook every integer is kept. -/
theorem plainInteger_keeps :
    KeepsIntegers fun token => (intOfToken token).map .int := by
  intro token n htoken _
  simp [htoken]

namespace CanonicalLibrary

variable (h : CanonicalLibrary dumps float)

include h

/-- Canonical bytes are read as the value, read back. -/
theorem readBytes_eq {v : PyValue} {encoded : Bytes} (hv : IsJson v)
    (hdumps : dumps v = some encoded) :
    ∃ w, readBytes float encoded = some w ∧ reread v w = true := by
  obtain ⟨part, hpart, hdenotes⟩ := h.reads v encoded hv hdumps
  obtain ⟨w, hw, hreread⟩ :=
    built_of_denotes jcsInteger_keeps v part hv.keyed (.inr jcsInteger_makes) hdenotes
  exact ⟨w, by simp [readBytes, hpart, hw], hreread⟩

/-- So are they without the hook, when the value has no floats. -/
theorem readPlainBytes_eq {v : PyValue} {encoded : Bytes} (hv : IsJson v)
    (hplain : hasFloat v = false) (hdumps : dumps v = some encoded) :
    ∃ w, readPlainBytes float encoded = some w ∧ reread v w = true := by
  obtain ⟨part, hpart, hdenotes⟩ := h.reads v encoded hv hdumps
  obtain ⟨w, hw, hreread⟩ :=
    built_of_denotes plainInteger_keeps v part hv.keyed (.inl hplain) hdenotes
  exact ⟨w, by simp [readPlainBytes, hpart, hw], hreread⟩

/-- Values read back as one value have the same bytes. -/
theorem dumps_eq {v v' w : PyValue} (hv : IsJson v) (hv' : IsJson v')
    (hw : reread v w = true) (hw' : reread v' w = true) : dumps v = dumps v' :=
  (h.respects v w hv hw).trans (h.respects v' w hv' hw').symm

/-- Canonical bytes determine the value, up to the equality of numbers. -/
theorem canonical : Canonical dumps := by
  intro v w encoded hv hw hdumps hdumps'
  obtain ⟨part, hpart, hdenotes⟩ := h.reads v encoded hv hdumps
  obtain ⟨part', hpart', hdenotes'⟩ := h.reads w encoded hw hdumps'
  rw [hpart, Option.some.injEq] at hpart'
  exact pyEq_of_denotes v w part hw.keyed hdenotes (hpart' ▸ hdenotes')

/-- Values of the same bytes mean the same. -/
theorem sameMeaning {v w : PyValue} {encoded : Bytes} (hv : IsJson v) (hw : IsJson w)
    (hdumps : dumps v = some encoded) (hdumps' : dumps w = some encoded) :
    SameMeaning v w := by
  obtain ⟨u, hread, hreread⟩ := h.readBytes_eq hv hdumps
  obtain ⟨u', hread', hreread'⟩ := h.readBytes_eq hw hdumps'
  rw [hread, Option.some.injEq] at hread'
  exact ⟨u, hreread, hread' ▸ hreread'⟩

end CanonicalLibrary

/-! ## Requests -/

theorem validateDescriptorSize_congr {v w : PyValue} (h : dumps v = dumps w)
    (name : String) :
    validateDescriptorSize dumps v name = validateDescriptorSize dumps w name := by
  simp only [validateDescriptorSize, wireBytes, boundedCanonicalBytes, h]

/-- **A payload is read back.** -/
theorem decodePayload_reread (hlib : CanonicalLibrary dumps float)
    {payload : NodeControlPayload} {w : PyValue} (hcheck : payload.check dumps = .ok ())
    (h : reread payload.descriptor w = true) :
    ∃ decoded, decodePayload dumps w = .ok decoded ∧ payload.codec = decoded.codec ∧
      payload.state.same decoded.state ∧ reread decoded.descriptor w = true := by
  obtain ⟨others, rfl, hback⟩ := ReadBack.of_reread (by simp) h
  have hstateBack : reread payload.state.descriptor (getValue others "state") = true :=
    hback.mem_keys "state" (by simp)
  obtain ⟨state, hstate, hsame, hkind, hself⟩ := decodeState_reread hstateBack
  have hread : reread (NodeControlPayload.descriptor ⟨payload.codec, state⟩)
      (.dict others) = true := by
    refine ReadBack.reread_dict ⟨hback.keys, ?_⟩
    rintro entry (_ | ⟨_, _ | ⟨_, hnil⟩⟩)
    · exact hback.mem_keys "codec" (by simp)
    · exact hself
    · cases hnil
  have hdecodedCheck :
      (NodeControlPayload.check dumps ⟨payload.codec, state⟩) = .ok () := by
    rw [NodeControlPayload.check, check_bind_ok] at hcheck ⊢
    refine ⟨hkind ▸ hcheck.1, ?_⟩
    rw [← hcheck.2]
    exact (validateDescriptorSize_congr (hlib.dumps_eq payload.isJson_descriptor
      (NodeControlPayload.isJson_descriptor _) h hread) _).symm
  refine ⟨⟨payload.codec, state⟩, ?_, rfl, hsame, hread⟩
  have hcodec : commandCodecOf "node-control payload codec" (getValue others "codec") =
      .ok payload.codec :=
    hback.memberIn_eq_ok (by simp) (memberOf_commandCodecs payload.codec)
  simp only [decodePayload, mapping, mappingOf, Library.Outcome.ok_bind]
  rw [hback.requireKeys_eq_ok ["codec", "state"] rfl, Library.Outcome.ok_bind, hcodec,
    Library.Outcome.ok_bind, hstate, Library.Outcome.ok_bind, hdecodedCheck]
  rfl

theorem decodePrecondition_reread
    {precondition : ControlPlaneTransitionPrecondition} {w : PyValue}
    (h : reread precondition.descriptor w = true) :
    decodePrecondition w = .ok precondition := by
  obtain ⟨others, rfl, hback⟩ := ReadBack.of_reread (by simp) h
  simp only [decodePrecondition, mapping, mappingOf, Library.Outcome.ok_bind]
  rw [hback.requireKeys_eq_ok ["expected_version"] rfl, Library.Outcome.ok_bind,
    hback.integerAt_eq_ok precondition.expectedVersion (by simp),
    Library.Outcome.ok_bind, dif_pos precondition.accepted]
  rfl

/-- What an optional part is read back as. -/
theorem optionalOf_reread {α : Type} {part : Option α} {describe : α → PyValue}
    {decode : PyValue → Except WireError α} {related : α → α → Prop} {w : PyValue}
    (h : reread ((part.map describe).getD .none) w = true)
    (hdict : ∀ value, ∃ entries, describe value = .dict entries)
    (hdecode : ∀ value ∈ part, reread (describe value) w = true → ∃ decoded,
      decode w = .ok decoded ∧ related value decoded ∧
      reread (describe decoded) w = true) :
    ∃ decoded, optionalOf w decode = .ok decoded ∧ Option.Rel related part decoded ∧
      reread ((decoded.map describe).getD .none) w = true := by
  cases part with
  | none =>
      rw [reread_none.mp h]
      exact ⟨none, rfl, .none, rfl⟩
  | some value =>
      obtain ⟨decoded, hdecoded, hrelated, hself⟩ := hdecode value rfl h
      refine ⟨some decoded, ?_, .some hrelated, hself⟩
      obtain ⟨entries, hentries⟩ := hdict value
      have h : reread (describe value) w = true := h
      rw [hentries] at h
      cases w <;> simp only [reread, Bool.false_eq_true] at h
      rw [optionalOf, hdecoded]
      · rfl
      · intro hnone
        cases hnone

theorem eq_of_rel {α : Type} {a b : Option α} (h : Option.Rel (· = ·) a b) : a = b := by
  cases h with
  | none => rfl
  | some hrelated => rw [hrelated]

theorem samePayload_of_rel {a b : Option NodeControlPayload}
    (h : Option.Rel (fun p q => p.codec = q.codec ∧ p.state.same q.state) a b) :
    samePayload a b := by
  cases h with
  | none => trivial
  | some hrelated => exact hrelated

/-- A request with the same operation, codec and precondition, and a payload of the
same codec or none, carries what its operation carries. -/
theorem NodeControlCommandRequest.checkOperation_of_same
    {request decoded : NodeControlCommandRequest} (hsame : request.Same decoded)
    (h : request.checkOperation = .ok ()) : decoded.checkOperation = .ok () := by
  have hpayload := hsame.payload
  unfold checkOperation at h ⊢
  rw [← hsame.operation, ← hsame.commandCodec, ← hsame.precondition]
  cases hrequest : request.payload <;> cases hdecoded : decoded.payload <;>
    rw [hrequest, hdecoded] at hpayload
  · rw [hrequest] at h
    exact h
  · cases hpayload
  · cases hpayload
  · rename_i value other
    have hcodec : value.codec = other.codec := hpayload.1
    rw [hrequest] at h
    revert h
    cases request.operation <;> cases request.commandCodec
        <;> cases request.precondition <;> intro h <;> first
        | cases h
        | simpa only [hcodec] using h

/-- **A request is read back**: equal, and read back as it was. -/
theorem decodeRequest_reread (hlib : CanonicalLibrary dumps float)
    {request : NodeControlCommandRequest} {w : PyValue}
    (hrequest : request.Constructible dumps) (h : reread request.descriptor w = true) :
    ∃ decoded, decodeRequest dumps w = .ok decoded ∧
      request.Same decoded ∧ reread decoded.descriptor w = true := by
  obtain ⟨hcheck, hpayloadCheck⟩ := hrequest
  obtain ⟨others, rfl, hback⟩ := ReadBack.of_reread (by simp) h
  have htarget : reread request.target.descriptor (getValue others "target") = true :=
    hback.mem_keys "target" (by simp)
  have hprecondition : reread ((request.precondition.map (·.descriptor)).getD .none)
      (getValue others "precondition") = true := hback.mem_keys "precondition" (by simp)
  have hpayload : reread ((request.payload.map (·.descriptor)).getD .none)
      (getValue others "payload") = true := hback.mem_keys "payload" (by simp)
  obtain ⟨precondition, hdecodedPrecondition, hsamePrecondition, -⟩ :=
    optionalOf_reread hprecondition (fun _ => ⟨_, rfl⟩) fun value _ hvalue =>
      ⟨value, decodePrecondition_reread hvalue, rfl, hvalue⟩
  obtain ⟨payload, hdecodedPayload, hsamePayload, hpayloadSelf⟩ :=
    optionalOf_reread hpayload (fun _ => ⟨_, rfl⟩) fun value hvalue hself => by
      obtain ⟨decoded, hdecoded, hcodec, hsame, hreread⟩ :=
        decodePayload_reread hlib (hpayloadCheck value hvalue) hself
      exact ⟨decoded, hdecoded, And.intro hcodec hsame, hreread⟩
  obtain rfl : request.precondition = precondition := eq_of_rel hsamePrecondition
  have hsame : request.Same { request with payload } :=
    ⟨rfl, rfl, rfl, rfl, rfl, rfl, rfl, samePayload_of_rel hsamePayload, rfl⟩
  have hread : reread (NodeControlCommandRequest.descriptor { request with payload })
      (.dict others) = true := by
    refine ReadBack.reread_dict ⟨hback.keys, fun entry hentry => ?_⟩
    simp only [List.mem_cons, List.not_mem_nil, or_false] at hentry
    rcases hentry with rfl | rfl | rfl | rfl | rfl | rfl | rfl | rfl | rfl
    · exact htarget
    · exact hback.mem_keys "variable_name" (by simp)
    · exact hback.mem_keys "operation" (by simp)
    · exact hback.mem_keys "request_id" (by simp)
    · exact hback.mem_keys "idempotency_key" (by simp)
    · exact hback.mem_keys "canonicalization" (by simp)
    · exact hback.mem_keys "command_codec" (by simp)
    · exact hprecondition
    · exact hpayloadSelf
  have hdecodedCheck : NodeControlCommandRequest.check dumps { request with
      payload } = .ok () := by
    simp only [NodeControlCommandRequest.check, check_bind_ok] at hcheck ⊢
    obtain ⟨hid, hkey, hoperation, hsize⟩ := hcheck
    refine ⟨hid, hkey,
      NodeControlCommandRequest.checkOperation_of_same hsame hoperation, ?_⟩
    rw [← hsize]
    exact (validateDescriptorSize_congr (hlib.dumps_eq request.isJson_descriptor
      (NodeControlCommandRequest.isJson_descriptor _) h hread) _).symm
  refine ⟨{ request with payload }, ?_, hsame, hread⟩
  have hcanonicalization : enumOf [NodeControlCanonicalization.jcsRfc8785V1] (·.value)
      (getValue others "canonicalization") "node-control canonicalization" =
        .ok request.canonicalization :=
    hback.memberIn_eq_ok (by simp) fun _ => rfl
  have hnamed : enumOf operations (·.value) (getValue others "operation")
      "node-control operation" = .ok request.operation :=
    hback.memberIn_eq_ok (by simp) (memberOf_operations request.operation)
  simp only [decodeRequest, mapping, mappingOf, Library.Outcome.ok_bind]
  rw [hback.requireKeys_eq_ok requestKeys rfl, Library.Outcome.ok_bind,
    decodeTarget_reread htarget, Library.Outcome.ok_bind, hnamed,
    Library.Outcome.ok_bind, hback.optionalCodec request.commandCodec (by simp) _,
    Library.Outcome.ok_bind, hdecodedPrecondition, Library.Outcome.ok_bind,
    hdecodedPayload, Library.Outcome.ok_bind, hback.decodeGraphReference_eq_ok
      request.variableName (by simp), Library.Outcome.ok_bind,
    hback.textAt_eq_ok request.requestId (by simp), Library.Outcome.ok_bind,
    hback.textAt_eq_ok request.idempotencyKey (by simp), Library.Outcome.ok_bind,
    hcanonicalization, Library.Outcome.ok_bind, hdecodedCheck]
  rfl

/-! ## Grants -/

theorem NodeControlRequestDigest.of_value (digest : NodeControlRequestDigest) :
    NodeControlRequestDigest.of digest.value = .ok digest := by
  rw [NodeControlRequestDigest.of, dif_pos digest.accepted]

theorem NodeControlTarget.hasFloat_descriptor (target : NodeControlTarget) :
    hasFloat target.descriptor = false := by
  simp [descriptor, hasFloat, someFloat, someFloatEntries]

theorem hasFloat_codecOrNone (codec : Option ControlPlaneCommandCodec) :
    hasFloat (codecOrNone codec) = false := by
  cases codec <;> rfl

theorem DelegatedWorkloadNodeControlGrant.isJson_descriptor
    (grant : DelegatedWorkloadNodeControlGrant) : IsJson grant.descriptor := by
  refine isJson_dict (by simp [GrantWindow.entries]) ?_
  simp [GrantWindow.entries, isJson_str, isJson_int, isJson_codecOrNone,
    grant.target.isJson_descriptor]

theorem DelegatedGatewayNodeControlTransitGrant.isJson_descriptor
    (grant : DelegatedGatewayNodeControlTransitGrant) (audience : String) :
    IsJson (grant.descriptor audience) := by
  refine isJson_dict (by simp [GrantWindow.entries]) ?_
  simp [GrantWindow.entries, isJson_str, isJson_int, isJson_codecOrNone,
    grant.target.isJson_descriptor]

theorem DelegatedGatewayNodeControlTransitGrant.hasFloat_descriptor
    (grant : DelegatedGatewayNodeControlTransitGrant) (audience : String) :
    hasFloat (grant.descriptor audience) = false := by
  simp [descriptor, hasFloat, someFloat, someFloatEntries, GrantWindow.entries,
    hasFloat_codecOrNone, grant.target.hasFloat_descriptor]

/-- **A workload grant is read back.** -/
theorem decodeGrant_reread {grant : DelegatedWorkloadNodeControlGrant} {w : PyValue}
    (hcheck : grant.check dumps = .ok ()) (h : reread grant.descriptor w = true) :
    decodeGrant dumps w = .ok grant := by
  obtain ⟨others, rfl, hback⟩ := ReadBack.of_reread (by simp [GrantWindow.entries]) h
  have htarget : reread grant.target.descriptor (getValue others "target") = true :=
    hback.mem_keys "target" (by simp [GrantWindow.entries])
  have hoperation : enumOf operations (·.value) (getValue others "operation")
      "workload grant operation" = .ok grant.operation :=
    hback.memberIn_eq_ok (by simp) (memberOf_operations grant.operation)
  simp only [decodeGrant, mapping, mappingOf, Library.Outcome.ok_bind]
  rw [hback.requireKeys_eq_ok grantKeys rfl, Library.Outcome.ok_bind,
    hback.textAt_eq_ok grant.issuer (by simp), Library.Outcome.ok_bind,
    hback.textAt_eq_ok grant.keyId (by simp), Library.Outcome.ok_bind,
    hback.textAt_eq_ok grant.audience (by simp), Library.Outcome.ok_bind,
    decodeTarget_reread htarget, Library.Outcome.ok_bind,
    hback.decodeGraphReference_eq_ok grant.variableName (by simp),
    Library.Outcome.ok_bind, hoperation, Library.Outcome.ok_bind,
    hback.optionalCodec grant.commandCodec (by simp) _, Library.Outcome.ok_bind,
    hback.textAt_eq_ok grant.requestId (by simp), Library.Outcome.ok_bind,
    hback.textAt_eq_ok grant.idempotencyKey (by simp), Library.Outcome.ok_bind,
    hback.textAt_eq_ok grant.requestDigest.value (by simp), Library.Outcome.ok_bind,
    grant.requestDigest.of_value, Library.Outcome.ok_bind,
    hback.integerAt_eq_ok grant.issuedAt (by simp [GrantWindow.entries]),
    Library.Outcome.ok_bind, hback.integerAt_eq_ok grant.notBefore
      (by simp [GrantWindow.entries]), Library.Outcome.ok_bind,
    hback.integerAt_eq_ok grant.expiresAt (by simp [GrantWindow.entries]),
    Library.Outcome.ok_bind, hback.textAt_eq_ok grant.jti
      (by simp [GrantWindow.entries]), Library.Outcome.ok_bind, hcheck]
  rfl

/-- The coordinates of a transit grant are read back. -/
theorem decodeTransitCoordinates_reread
    {grant : DelegatedGatewayNodeControlTransitGrant} {audience : String}
    {entries others : PyDict} (hentries : grant.descriptor audience = .dict entries)
    (hback : ReadBack entries others)
    (haudience : deriveAudience grant.workspaceId grant.gatewayNodeId = .ok audience) :
    decodeTransitCoordinates others =
      .ok (grant.target, grant.workspaceId, grant.graphRevision,
        grant.gatewayNodeId) := by
  cases hentries
  have htarget : reread grant.target.descriptor (getValue others "target") = true :=
    hback.mem_keys "target" (by simp)
  simp only [decodeTransitCoordinates]
  rw [decodeTransitTarget_reread htarget, Library.Outcome.ok_bind,
    hback.decodeTransitReference_eq_ok grant.workspaceId (by simp),
    Library.Outcome.ok_bind, hback.decodeTransitReference_eq_ok grant.graphRevision
      (by simp), Library.Outcome.ok_bind,
    hback.decodeTransitReference_eq_ok grant.gatewayNodeId (by simp),
    Library.Outcome.ok_bind, haudience, Library.Outcome.ok_bind,
    hback.transitTextAt_eq_ok audience (by simp), Library.Outcome.ok_bind]
  simp [requireWire, pure, Except.pure, bind, Except.bind]

/-- **A transit grant is read back.** -/
theorem decodeTransitGrant_reread (hlib : CanonicalLibrary dumps float)
    {grant : DelegatedGatewayNodeControlTransitGrant} {audience : String} {w : PyValue}
    (hcheck : grant.check dumps = .ok ())
    (haudience : deriveAudience grant.workspaceId grant.gatewayNodeId = .ok audience)
    (hbytes : ∃ encoded, grant.canonicalBytes dumps = .ok encoded)
    (h : reread (grant.descriptor audience) w = true) :
    decodeTransitGrant dumps w = .ok grant := by
  obtain ⟨encoded, hencoded⟩ := hbytes
  have hdumps : dumps (grant.descriptor audience) = dumps w :=
    hlib.respects _ _ (grant.isJson_descriptor audience) h
  have hwritten : transitBytes dumps w maxTransitGrantBytes "transit grant" =
      .ok encoded := by
    rw [DelegatedGatewayNodeControlTransitGrant.canonicalBytes, haudience,
      Library.Outcome.ok_bind] at hencoded
    rw [← hencoded]
    simp only [transitBytes, boundedCanonicalBytes, hdumps]
  obtain ⟨others, rfl, hback⟩ := ReadBack.of_reread (by simp [GrantWindow.entries]) h
  have hdigest : decodeTransitDigest others = .ok grant.requestDigest := by
    rw [decodeTransitDigest,
      hback.transitTextAt_eq_ok grant.requestDigest.value (by simp),
      Library.Outcome.ok_bind, grant.requestDigest.of_value]
    rfl
  have hprofile : transitEnumOf [DelegatedGatewayNodeControlTransitGrantProfile.v1]
      (·.value) "transit grant profile" (getValue others "profile") =
      .ok grant.profile :=
    hback.memberIn_eq_ok (by simp) fun _ => rfl
  have hcanonicalization : transitEnumOf [NodeControlCanonicalization.jcsRfc8785V1]
        (·.value) "transit grant canonicalization"
        (getValue others "canonicalization") =
        .ok grant.canonicalization :=
    hback.memberIn_eq_ok (by simp) fun _ => rfl
  have hpurpose : transitEnumOf delegationKeyPurposes (·.value) "transit grant purpose"
      (getValue others "purpose") = .ok grant.purpose :=
    hback.memberIn_eq_ok (by simp) (memberOf_purposes grant.purpose)
  have hoperation : transitEnumOf operations (·.value) "transit grant operation"
      (getValue others "operation") = .ok grant.operation :=
    hback.memberIn_eq_ok (by simp) (memberOf_operations grant.operation)
  simp only [decodeTransitGrant, transitMapping, mappingOf, Library.Outcome.ok_bind]
  rw [hwritten, Library.Outcome.ok_bind, hback.requireTransitKeys_eq_ok transitGrantKeys
    rfl, Library.Outcome.ok_bind, decodeTransitCoordinates_reread rfl hback haudience,
    Library.Outcome.ok_bind, hprofile, Library.Outcome.ok_bind, hcanonicalization,
    Library.Outcome.ok_bind, hpurpose, Library.Outcome.ok_bind,
    hback.transitTextAt_eq_ok grant.issuer (by simp), Library.Outcome.ok_bind,
    hback.transitTextAt_eq_ok grant.keyId (by simp), Library.Outcome.ok_bind,
    hback.transitTextAt_eq_ok grant.attemptId (by simp), Library.Outcome.ok_bind,
    hback.decodeTransitReference_eq_ok grant.variableName (by simp),
    Library.Outcome.ok_bind, hoperation, Library.Outcome.ok_bind,
    hback.optionalTransitCodec grant.commandCodec (by simp) _, Library.Outcome.ok_bind,
    hback.transitTextAt_eq_ok grant.requestId (by simp), Library.Outcome.ok_bind,
    hback.transitTextAt_eq_ok grant.idempotencyKey (by simp), Library.Outcome.ok_bind,
    hdigest, Library.Outcome.ok_bind,
    hback.transitIntegerAt_eq_ok grant.issuedAt (by simp [GrantWindow.entries]),
    Library.Outcome.ok_bind,
    hback.transitIntegerAt_eq_ok grant.notBefore (by simp [GrantWindow.entries]),
    Library.Outcome.ok_bind,
    hback.transitIntegerAt_eq_ok grant.expiresAt (by simp [GrantWindow.entries]),
    Library.Outcome.ok_bind,
    hback.transitTextAt_eq_ok grant.jti (by simp [GrantWindow.entries]),
    Library.Outcome.ok_bind, hcheck]
  rfl

/-! ## Bytes -/

section Bytes

variable {α : Type} {texts : BytesTexts} {maximum : Nat} {read : Bytes → Option PyValue}
  {decode : PyValue → Except WireError α} {canonicalBytes : α → Except WireError Bytes}

/-- What is accepted is the encoding of the result. -/
theorem decodeCanonicalBytes_sound {encoded : Bytes} {value : α}
    (h : decodeCanonicalBytes texts maximum read decode canonicalBytes encoded =
      .ok value) :
    canonicalBytes value = .ok encoded := by
  rw [decodeCanonicalBytes, check_bind_ok] at h
  obtain ⟨-, h⟩ := h
  cases hread : read encoded with
  | none =>
      rw [hread] at h
      cases h
  | some parsed =>
      simp only [hread] at h
      obtain ⟨_, -, h⟩ := bind_ok.mp h
      obtain ⟨decoded, -, h⟩ := bind_ok.mp h
      obtain ⟨again, hagain, h⟩ := bind_ok.mp h
      rw [check_bind_ok, requireWire_eq_ok, decide_eq_true_eq] at h
      obtain ⟨rfl, hvalue⟩ := h
      cases hvalue
      exact hagain

/-- A bounded encoding that is read and decoded to a value of this encoding is
accepted. -/
theorem decodeCanonicalBytes_of_read {encoded : Bytes} {entries : PyDict} {value : α}
    (hbounded : encoded.length ≤ maximum) (hread : read encoded = some (.dict entries))
    (hdecode : decode (.dict entries) = .ok value)
    (hbytes : canonicalBytes value = .ok encoded) :
    decodeCanonicalBytes texts maximum read decode canonicalBytes encoded =
      .ok value := by
  rw [decodeCanonicalBytes, check_bind_ok]
  refine ⟨requireWire_eq_ok.mpr (decide_eq_true hbounded), ?_⟩
  simp only [hread, mappingOf, Library.Outcome.ok_bind, hdecode, hbytes]
  simp [requireWire, pure, Except.pure, bind, Except.bind]

end Bytes

theorem boundedCanonicalBytes_eq_ok {raise : String → WireError} {exceeds name : String}
    {descriptor : PyValue} {maximum : Nat} {encoded : Bytes} :
    boundedCanonicalBytes dumps raise exceeds descriptor maximum name = .ok encoded ↔
      dumps descriptor = some encoded ∧ encoded.length ≤ maximum := by
  unfold boundedCanonicalBytes
  split
  · simp_all
  · rename_i found hfound
    by_cases hbounded : found.length ≤ maximum
    · simp only [hbounded, if_true, hfound, Except.ok.injEq, Option.some.injEq]
      exact ⟨fun h => ⟨h, h ▸ hbounded⟩, And.left⟩
    · simp only [hbounded, if_false, hfound, Option.some.injEq]
      exact ⟨nofun, fun h => absurd (h.1 ▸ h.2) hbounded⟩

/-- A dictionary is read back as one. -/
theorem reread_dict_eq {entries : PyDict} {w : PyValue}
    (h : reread (.dict entries) w = true) : ∃ others, w = .dict others := by
  cases w <;> simp only [reread, Bool.false_eq_true] at h
  exact ⟨_, rfl⟩

/-- **A request is decoded from its canonical bytes.** -/
theorem decodeRequestBytes_canonicalBytes (hlib : CanonicalLibrary dumps float)
    {request : NodeControlCommandRequest} (hrequest : request.Constructible dumps) :
    ∃ encoded decoded, request.canonicalBytes dumps = .ok encoded ∧
      decodeRequestBytes dumps float encoded = .ok decoded ∧ request.Same decoded ∧
        SameMeaning request.descriptor decoded.descriptor := by
  obtain ⟨encoded, hdumps, hbounded⟩ : ∃ encoded,
      dumps request.descriptor = some encoded ∧
      encoded.length ≤ maxNodeControlPayloadBytes := by
    have hcheck := hrequest.1
    simp only [NodeControlCommandRequest.check, check_bind_ok] at hcheck
    obtain ⟨-, -, -, hsize⟩ := hcheck
    obtain ⟨encoded, hencoded, -⟩ := bind_ok.mp hsize
    exact ⟨encoded, boundedCanonicalBytes_eq_ok.mp hencoded⟩
  obtain ⟨w, hread, hreread⟩ := hlib.readBytes_eq request.isJson_descriptor hdumps
  obtain ⟨decoded, hdecoded, hsame, hself⟩ := decodeRequest_reread hlib hrequest hreread
  obtain ⟨others, rfl⟩ := reread_dict_eq hreread
  have hdumps' : dumps decoded.descriptor = some encoded :=
    (hlib.dumps_eq request.isJson_descriptor decoded.isJson_descriptor hreread hself) ▸
      hdumps
  refine ⟨encoded, decoded, ?_,
    decodeCanonicalBytes_of_read hbounded hread hdecoded ?_, hsame, ⟨_, hreread, hself⟩⟩
  · simp only [NodeControlCommandRequest.canonicalBytes, hdumps]
  · simp only [NodeControlCommandRequest.canonicalBytes, hdumps']

/-- **A workload grant is decoded from its canonical bytes.** -/
theorem decodeGrantBytes_canonicalBytes (hlib : CanonicalLibrary dumps float)
    {grant : DelegatedWorkloadNodeControlGrant} (hcheck : grant.check dumps = .ok ()) :
    ∃ encoded, grant.canonicalBytes dumps = .ok encoded ∧
      decodeGrantBytes dumps float encoded = .ok grant := by
  obtain ⟨encoded, hencoded⟩ : ∃ encoded, grant.canonicalBytes dumps = .ok encoded := by
    simp only [DelegatedWorkloadNodeControlGrant.check, check_bind_ok] at hcheck
    obtain ⟨-, -, -, -, -, -, -, -, hbytes⟩ := hcheck
    obtain ⟨encoded, hencoded, -⟩ := bind_ok.mp hbytes
    exact ⟨encoded, hencoded⟩
  obtain ⟨hdumps, hbounded⟩ := boundedCanonicalBytes_eq_ok.mp hencoded
  obtain ⟨w, hread, hreread⟩ := hlib.readBytes_eq grant.isJson_descriptor hdumps
  obtain ⟨others, rfl⟩ := reread_dict_eq hreread
  exact ⟨encoded, hencoded, decodeCanonicalBytes_of_read hbounded hread
    (decodeGrant_reread hcheck hreread) hencoded⟩

/-- **A transit grant is decoded from its canonical bytes.** -/
theorem decodeTransitGrantBytes_canonicalBytes (hlib : CanonicalLibrary dumps float)
    {grant : DelegatedGatewayNodeControlTransitGrant}
    (hcheck : grant.check dumps = .ok ()) :
    ∃ encoded, grant.canonicalBytes dumps = .ok encoded ∧
      decodeTransitGrantBytes dumps float encoded = .ok grant := by
  obtain ⟨audience, encoded, haudience, hencoded⟩ : ∃ audience encoded,
      deriveAudience grant.workspaceId grant.gatewayNodeId = .ok audience ∧
        grant.canonicalBytes dumps = .ok encoded := by
    simp only [DelegatedGatewayNodeControlTransitGrant.check, check_bind_ok] at hcheck
    obtain ⟨-, -, -, -, -, -, -, -, -, -, hrest⟩ := hcheck
    obtain ⟨audience, haudience, hrest⟩ := bind_ok.mp hrest
    obtain ⟨encoded, hencoded, -⟩ := bind_ok.mp hrest
    exact ⟨audience, encoded, haudience, hencoded⟩
  obtain ⟨hdumps, hbounded⟩ : dumps (grant.descriptor audience) = some encoded ∧
      encoded.length ≤ maxTransitGrantBytes := by
    have hbytes := hencoded
    rw [DelegatedGatewayNodeControlTransitGrant.canonicalBytes, haudience,
      Library.Outcome.ok_bind] at hbytes
    exact boundedCanonicalBytes_eq_ok.mp hbytes
  obtain ⟨w, hread, hreread⟩ := hlib.readPlainBytes_eq
    (grant.isJson_descriptor audience) (grant.hasFloat_descriptor audience) hdumps
  have hdecode :=
    decodeTransitGrant_reread hlib hcheck haudience ⟨encoded, hencoded⟩ hreread
  obtain ⟨others, rfl⟩ := reread_dict_eq hreread
  exact ⟨encoded, hencoded,
    decodeCanonicalBytes_of_read hbounded hread hdecode hencoded⟩

/-! ## One encoding -/

/-- Requests of one meaning have the same bytes. -/
theorem NodeControlCommandRequest.bytes_of_sameMeaning
    (hlib : CanonicalLibrary dumps float) {request other : NodeControlCommandRequest}
    {encoded encoded' : Bytes} (h : request.canonicalBytes dumps = .ok encoded)
    (h' : other.canonicalBytes dumps = .ok encoded')
    (hsame : SameMeaning request.descriptor other.descriptor) : encoded = encoded' := by
  obtain ⟨w, hread, hread'⟩ := hsame
  have hdumps :=
    hlib.dumps_eq request.isJson_descriptor other.isJson_descriptor hread hread'
  rw [dumps_of_bytes h, dumps_of_bytes h', Option.some.injEq] at hdumps
  exact hdumps

/-- A digest is that of requests of one meaning. -/
theorem NodeControlCommandRequest.sameMeaning_of_digest
    (hlib : CanonicalLibrary dumps float) {request other : NodeControlCommandRequest}
    {digest : String}
    (hapart : DigestsApart (request.canonicalBytes dumps) (other.canonicalBytes dumps))
    (h : request.canonicalDigest dumps = .ok digest)
    (h' : other.canonicalDigest dumps = .ok digest) :
    request.Same other ∧ SameMeaning request.descriptor other.descriptor := by
  obtain ⟨encoded, hrequest, hother⟩ := bytes_of_digest hapart h h'
  exact ⟨same_of_digest hlib.canonical hapart h h',
    hlib.sameMeaning request.isJson_descriptor other.isJson_descriptor
      (dumps_of_bytes hrequest) (dumps_of_bytes hother)⟩

/-- **Wire values have one encoding.**  A request and a grant that can be built are
decoded from their canonical bytes; bytes that are accepted are the canonical bytes of
the result; accepted bytes of one meaning are the same; and a digest is that of
requests of one meaning. -/
theorem one_encoding {dumps : CanonicalJson} {float : String → PyFloat}
    (hlib : CanonicalLibrary dumps float) :
    ((∀ request : NodeControlCommandRequest, request.Constructible dumps →
        ∃ encoded decoded, request.canonicalBytes dumps = .ok encoded ∧
          decodeRequestBytes dumps float encoded = .ok decoded ∧ request.Same decoded ∧
            SameMeaning request.descriptor decoded.descriptor) ∧
      (∀ grant : DelegatedWorkloadNodeControlGrant, grant.check dumps = .ok () →
        ∃ encoded, grant.canonicalBytes dumps = .ok encoded ∧
          decodeGrantBytes dumps float encoded = .ok grant) ∧
      ∀ grant : DelegatedGatewayNodeControlTransitGrant, grant.check dumps = .ok () →
        ∃ encoded, grant.canonicalBytes dumps = .ok encoded ∧
          decodeTransitGrantBytes dumps float encoded = .ok grant) ∧
    ((∀ encoded request, decodeRequestBytes dumps float encoded = .ok request →
        request.canonicalBytes dumps = .ok encoded) ∧
      (∀ encoded grant, decodeGrantBytes dumps float encoded = .ok grant →
        grant.canonicalBytes dumps = .ok encoded) ∧
      ∀ encoded grant, decodeTransitGrantBytes dumps float encoded = .ok grant →
        grant.canonicalBytes dumps = .ok encoded) ∧
    ((∀ encoded encoded' request other,
      decodeRequestBytes dumps float encoded = .ok request →
        decodeRequestBytes dumps float encoded' = .ok other →
          SameMeaning request.descriptor other.descriptor → encoded = encoded') ∧
      (∀ encoded encoded' grant, decodeGrantBytes dumps float encoded = .ok grant →
        decodeGrantBytes dumps float encoded' = .ok grant → encoded = encoded') ∧
      ∀ encoded encoded' grant,
        decodeTransitGrantBytes dumps float encoded = .ok grant →
        decodeTransitGrantBytes dumps float encoded' = .ok grant → encoded = encoded') ∧
    ∀ (request other : NodeControlCommandRequest) (digest : String),
      DigestsApart (request.canonicalBytes dumps) (other.canonicalBytes dumps) →
        request.canonicalDigest dumps = .ok digest →
        other.canonicalDigest dumps = .ok digest →
          request.Same other ∧ SameMeaning request.descriptor other.descriptor := by
  refine ⟨⟨fun request => decodeRequestBytes_canonicalBytes hlib,
    fun grant => decodeGrantBytes_canonicalBytes hlib,
    fun grant => decodeTransitGrantBytes_canonicalBytes hlib⟩,
    ⟨fun _ _ => decodeCanonicalBytes_sound, fun _ _ => decodeCanonicalBytes_sound,
      fun _ _ => decodeCanonicalBytes_sound⟩, ⟨?_, ?_, ?_⟩,
    fun request other digest => NodeControlCommandRequest.sameMeaning_of_digest hlib⟩
  · intro encoded encoded' request other h h'
    exact NodeControlCommandRequest.bytes_of_sameMeaning hlib
      (decodeCanonicalBytes_sound h) (decodeCanonicalBytes_sound h')
  · intro encoded encoded' grant h h'
    exact Except.ok.inj
      ((decodeCanonicalBytes_sound h).symm.trans (decodeCanonicalBytes_sound h'))
  · intro encoded encoded' grant h h'
    exact Except.ok.inj
      ((decodeCanonicalBytes_sound h).symm.trans (decodeCanonicalBytes_sound h'))

/-! ## A library for values whose numbers are integers

A request that sets the weights of two targets has numbers: its precondition is an
integer, its weights are floats. -/

/-- `rfc8785.dumps(value)` where every float is an interoperable integer. -/
def jcsJson : CanonicalJson := Library.IntegralFloats.integralBytes

theorem plain_none (text : String) : ∀ n ∈ (none : Option Int),
    n.natAbs ≤ 9007199254740991 → text = toString n ++ ".0" ∨
    n = 0 ∧ text = "-0.0" := by
  simp

/-- `float(token)` of the token of an interoperable integer. -/
def tokenFloat (token : String) : PyFloat :=
  match (intOfToken token).filter isInteroperable with
  | some n => floatOfInt n
  | none => ⟨token, none, plain_none token⟩

/-- A float that is an interoperable integer is the one made of it, but for the sign of
zero. -/
theorem eq_floatOfInt {x : PyFloat} {n : Int} (hn : x.integral = some n)
    (hsafe : isInteroperable n = true) (hsign : isNegativeZero x = false) :
    x = floatOfInt n := by
  have hbound : n.natAbs ≤ 9007199254740991 := by simpa [isInteroperable] using hsafe
  rcases x.plain n hn hbound with htext | ⟨rfl, htext⟩
  · obtain ⟨text, integral, plain⟩ := x
    obtain rfl : integral = some n := hn
    obtain rfl : text = toString n ++ ".0" := htext
    rfl
  · rw [isNegativeZero, hn, htext] at hsign
    exact absurd hsign (by decide)

theorem tokenFloat_spells :
    Library.IntegralFloats.SpellsIntegers tokenFloat isNegativeZero := by
  intro token n x htoken hsafe hn hsign
  have hfilter : (intOfToken token).filter isInteroperable = some n :=
    Option.filter_eq_some_iff.mpr ⟨htoken, hsafe⟩
  rw [tokenFloat, hfilter, eq_floatOfInt hn hsafe hsign]

theorem jcsJson_canonical : CanonicalLibrary jcsJson tokenFloat where
  respects _ _ hv h := Library.IntegralFloats.integralBytes_of_reread hv.keyed h
  reads _ _ hv h :=
    Library.IntegralFloats.parse_integralBytes tokenFloat_spells
      hv.untupled hv.unsigned h

theorem otherReference_accepted :
    requireIdentifier "b" "node-control graph reference" = .ok () := by
  decide

def otherReference (role : NodeControlGraphReferenceRole) :
    NodeControlGraphReference role :=
  ⟨"b", otherReference_accepted⟩

/-- Three parts for `b` to one for `a`. -/
def weights : List (NodeControlGraphReference .target × PyFloat) :=
  [(shortReference .target, floatOfInt 1), (otherReference .target, floatOfInt 3)]

theorem weights_ne_nil : weights ≠ [] := List.cons_ne_nil _ _

theorem weights_bounded : weights.length ≤ 128 := by decide

theorem weights_valid : ∀ entry ∈ weights, isWeight entry.2 = true := by
  simp [weights, isWeight_floatOfInt]

theorem weights_positive : ∃ entry ∈ weights, isPositive entry.2 = true :=
  ⟨_, List.mem_cons_self .., by decide⟩

theorem weights_ordered : weights.Pairwise fun a b => a.1.value < b.1.value := by
  decide

def threeToOne : WeightedRoutingControlState :=
  ⟨weights, weights_ne_nil, weights_bounded, weights_valid, weights_positive,
    weights_ordered⟩

theorem seventh_accepted : isEpoch 7 = true := by decide

/-- Set the weights of the variable `a`, which is at its seventh version. -/
def routeRequest : NodeControlCommandRequest :=
  { readRequest with
    operation := .applyCommand
    commandCodec := some .replaceWeightedRoutingV1
    precondition := some ⟨7, seventh_accepted⟩
    payload := some ⟨.replaceWeightedRoutingV1, .weightedRouting threeToOne⟩ }

theorem routeRequest_constructible : routeRequest.Constructible jcsJson := by
  have hpayload : NodeControlPayload.check jcsJson
      ⟨.replaceWeightedRoutingV1, .weightedRouting threeToOne⟩ = .ok () := by
        decide +kernel
  refine ⟨by decide +kernel, fun payload h => ?_⟩
  obtain rfl := Option.some.inj h
  exact hpayload

/-- A request that sets weights is decoded from its canonical bytes. -/
theorem one_encoding_route : ∃ encoded decoded,
    routeRequest.canonicalBytes jcsJson = .ok encoded ∧
      decodeRequestBytes jcsJson tokenFloat encoded = .ok decoded ∧
      routeRequest.Same decoded ∧
        SameMeaning routeRequest.descriptor decoded.descriptor :=
  (one_encoding jcsJson_canonical).1.1 routeRequest routeRequest_constructible

/-! ### A grant for one of two requests -/

theorem eighth_accepted : isEpoch 8 = true := by decide

/-- The same weights, for the next version of the variable. -/
def laterRequest : NodeControlCommandRequest :=
  { routeRequest with precondition := some ⟨8, eighth_accepted⟩ }

def routeDigest : NodeControlRequestDigest :=
  digestOf ((jcsJson routeRequest.descriptor).getD [])

/-- A grant to set the weights of the variable at its seventh version. -/
def routeGrant : DelegatedWorkloadNodeControlGrant :=
  { readGrant "a" with
    operation := .applyCommand
    commandCodec := some .replaceWeightedRoutingV1
    requestDigest := routeDigest }

theorem routeRequest_digest :
    routeRequest.canonicalDigest jcsJson = .ok routeDigest.value := by
  have hdumps : (jcsJson routeRequest.descriptor).isSome = true := by decide
  obtain ⟨encoded, hencoded⟩ := Option.isSome_iff_exists.mp hdumps
  simp only [NodeControlCommandRequest.canonicalDigest,
    NodeControlCommandRequest.canonicalBytes, hencoded, routeDigest, Option.getD_some]
  rfl

/-- SHA-256 tells the two requests apart. -/
theorem laterRequest_apart :
    DigestsApart (routeRequest.canonicalBytes jcsJson)
      (laterRequest.canonicalBytes jcsJson) := by
  have hdigests : ((jcsJson routeRequest.descriptor).map fun encoded =>
        Library.Sha256.unrolledHexdigestChars (encoded.map UInt8.toNat)) ≠
      (jcsJson laterRequest.descriptor).map fun encoded =>
        Library.Sha256.unrolledHexdigestChars (encoded.map UInt8.toNat) := by
    decide +kernel
  intro encoded encoded' h h' hsame
  have hdumps : jcsJson routeRequest.descriptor = some encoded :=
    NodeControlCommandRequest.dumps_of_bytes h
  have hdumps' : jcsJson laterRequest.descriptor = some encoded' :=
    NodeControlCommandRequest.dumps_of_bytes h'
  rw [hdumps, hdumps', Option.map_some, Option.map_some,
    Library.Sha256.unrolledHexdigestChars_eq] at hdigests
  exact absurd (congrArg some (String.ofList_injective hsame)) hdigests

/-- The grant for the weights at the seventh version is accepted for that request, and
in no context for the same weights at the eighth. -/
theorem route_granted_once :
    verifyWorkloadNodeControlGrant jcsJson readContext (some routeGrant) routeRequest =
        .ok .accepted ∧
      ∀ context,
        verifyWorkloadNodeControlGrant jcsJson context (some routeGrant) laterRequest ≠
        .ok .accepted := by
  have hcontext : readContext.check = .ok () := by decide
  obtain ⟨hworkload, -, -, hone⟩ := grants_authorize_one_request jcsJson
  have haccepted := (hworkload readContext routeGrant routeRequest).mpr
    ⟨hcontext, ⟨rfl, rfl, Int.le_refl 0, Int.zero_lt_one, rfl, rfl, rfl, rfl, rfl, rfl⟩,
      routeRequest_digest⟩
  refine ⟨haccepted, fun context hlater => ?_⟩
  have hsame := (hone jcsJson_canonical.canonical).1 routeGrant readContext context
    routeRequest laterRequest laterRequest_apart haccepted hlater
  exact absurd hsame.precondition (by decide)

end ControlPlaneKit.NodeControl
