import ControlPlaneKit.NodeControl.Declarations
import ControlPlaneKit.NodeControl.PublicWireLaws

/-!
# BoundaryLaws — what decoding raises

Each part of a decoder raises the error of its own module, so a decoder does.  The
one text that is searched without a grammar is the description of a variable: there,
and only there, the host language's own error can leave a decoder.
-/

namespace ControlPlaneKit.NodeControl

open ControlPlaneKit.Library (PyDict PyError PyFloat PyValue)
open ControlPlaneKit.Library.Outcome (ErrorsIn Succeeds)

/-- Every error raised is one of a module's own. -/
structure RaisesOnly {α : Type} (raise : String → WireError)
    (x : Except WireError α) : Prop where
  errors : ErrorsIn (fun e => ∃ message, e = raise message) x

namespace RaisesOnly

variable {α β : Type} {raise : String → WireError} {x : Except WireError α}

/-- Nothing is raised. -/
theorem ok (a : α) : RaisesOnly raise (.ok a) := ⟨ErrorsIn.ok a⟩

/-- The module's own error is raised. -/
theorem error (message : String) :
    RaisesOnly raise (.error (raise message) : Except WireError α) :=
  ⟨ErrorsIn.error ⟨message, rfl⟩⟩

/-- A check, and what follows it. -/
theorem andThen {f : α → Except WireError β} (hx : RaisesOnly raise x)
    (hf : ∀ a, RaisesOnly raise (f a)) : RaisesOnly raise (x >>= f) :=
  ⟨hx.errors.bind fun a _ => (hf a).errors⟩

/-- Two steps raise a module's errors when the first does, and the second does
wherever the first leads. -/
theorem bind_iff {f : α → Except WireError β} : RaisesOnly raise (x >>= f) ↔
    RaisesOnly raise x ∧ ∀ a, x = .ok a → RaisesOnly raise (f a) := by
  constructor
  · intro h
    obtain ⟨hx, hf⟩ := ErrorsIn.bind_iff.mp h.errors
    exact ⟨⟨hx⟩, fun a ha => ⟨hf a ha⟩⟩
  · exact fun h => ⟨h.1.errors.bind fun a ha => (h.2 a ha).errors⟩

/-- A loop raises a module's errors when each step that is reached does. -/
theorem mapM_iff {f : α → Except WireError β} {as : List α} :
    RaisesOnly raise (as.mapM f) ↔
    ∀ before a after, as = before ++ a :: after → (∀ b ∈ before, Succeeds (f b)) →
      RaisesOnly raise (f a) :=
  ⟨fun h before a after heq hbefore =>
      ⟨ErrorsIn.mapM_iff.mp h.errors before a after heq hbefore⟩,
    fun h => ⟨ErrorsIn.mapM_iff.mpr fun before a after heq hbefore =>
      (h before a after heq hbefore).errors⟩⟩

/-- What another computation raised, raised again. -/
theorem again (hx : RaisesOnly raise x) {e : WireError} (he : x = .error e) :
    RaisesOnly raise (.error e : Except WireError β) :=
  ⟨ErrorsIn.error (hx.errors e he)⟩

theorem map {f : α → β} (hx : RaisesOnly raise x) : RaisesOnly raise (x.map f) :=
  ⟨hx.errors.map⟩

/-- A loop raises what its body does. -/
theorem mapM {f : α → Except WireError β} {as : List α}
    (h : ∀ a, RaisesOnly raise (f a)) : RaisesOnly raise (as.mapM f) :=
  ⟨ErrorsIn.mapM fun a _ => (h a).errors⟩

theorem forM {f : α → Except WireError Unit} {as : List α}
    (h : ∀ a, RaisesOnly raise (f a)) : RaisesOnly raise (as.forM f) :=
  ⟨ErrorsIn.forM fun a _ => (h a).errors⟩

theorem require (condition : Bool) (message : String) :
    RaisesOnly raise (requireWire condition (raise message)) := by
  unfold requireWire
  split
  · exact ok ()
  · exact error message

end RaisesOnly

/-! ## Texts -/

/-- A search that answers raises what the module makes of the violation found. -/
theorem escaping_raises {raise : String → WireError}
    {search : Except PyError (Option NodeControlPublicWireViolation)}
    {found : Option NodeControlPublicWireViolation → Except WireError Unit}
    (hsearch : ∃ violation, search = .ok violation)
    (hfound : ∀ violation, RaisesOnly raise (found violation)) :
    RaisesOnly raise (escaping search >>= found) := by
  obtain ⟨violation, rfl⟩ := hsearch
  exact hfound violation

theorem raiseViolation_raises (raise : String → WireError) (name shape : String)
    (violation : Option NodeControlPublicWireViolation) :
    RaisesOnly raise (raiseViolation raise name shape violation) := by
  cases violation with
  | none => exact .ok ()
  | some violation => cases violation <;> exact .error _

theorem raiseTransitViolation_raises (name : String)
    (violation : Option NodeControlPublicWireViolation) :
    RaisesOnly .transit (raiseTransitViolation name violation) := by
  cases violation with
  | none => exact .ok ()
  | some violation => cases violation <;> exact .error _

/-- Identifiers are refused with the error of the module that asks. -/
theorem requireIdentifierAs_raises (raise : String → WireError) (value name : String) :
    RaisesOnly raise (requireIdentifierAs raise value name) :=
  escaping_raises (identifierViolation_answers value) (raiseViolation_raises raise name _)

/-- So are references. -/
theorem requireReferenceAs_raises (raise : String → WireError) (value name : String) :
    RaisesOnly raise (requireReferenceAs raise value name) :=
  escaping_raises (referenceViolation_answers value) (raiseViolation_raises raise name _)

theorem requireTransitIdentifier_raises (value name : String) :
    RaisesOnly .transit (requireTransitIdentifier value name) :=
  escaping_raises (identifierViolation_answers value) (raiseTransitViolation_raises name)

theorem requireTransitReference_raises (value name : String) :
    RaisesOnly .transit (requireTransitReference value name) :=
  escaping_raises (referenceViolation_answers value) (raiseTransitViolation_raises name)

theorem requireIdentifier_raises (value name : String) :
    RaisesOnly .contract (requireIdentifier value name) :=
  requireIdentifierAs_raises .contract value name

/-- A text of the wrong shape is refused, so what passes has the right one. -/
theorem shaped_of_ok {shaped : Bool}
    {search : Except PyError (Option NodeControlPublicWireViolation)}
    {found : Option NodeControlPublicWireViolation → Except WireError Unit}
    (hfound : ∃ error, found (some .shapeInvalid) = .error error)
    (h : (escaping (if shaped then search else .ok (some .shapeInvalid)) >>= found) =
      .ok ()) : shaped = true := by
  cases shaped with
  | true => rfl
  | false =>
      obtain ⟨error, herror⟩ := hfound
      cases herror.symm.trans h

/-- What passes as an identifier is one. -/
theorem isIdentifier_of_ok {raise : String → WireError} {value name : String}
    (h : requireIdentifierAs raise value name = .ok ()) :
    isIdentifier value = true := by
  unfold requireIdentifierAs identifierViolation at h
  exact shaped_of_ok ⟨_, rfl⟩ h

theorem isIdentifier_of_accepted {value name : String}
    (h : requireIdentifier value name = .ok ()) : isIdentifier value = true :=
  isIdentifier_of_ok h

theorem isIdentifier_of_transit {value name : String}
    (h : requireTransitIdentifier value name = .ok ()) : isIdentifier value = true := by
  unfold requireTransitIdentifier identifierViolation at h
  exact shaped_of_ok ⟨_, rfl⟩ h

/-- What passes as a reference is one. -/
theorem isReference_of_ok {raise : String → WireError} {value name : String}
    (h : requireReferenceAs raise value name = .ok ()) : isReference value = true := by
  unfold requireReferenceAs referenceViolation at h
  exact shaped_of_ok ⟨_, rfl⟩ h

theorem isReference_of_transit {value name : String}
    (h : requireTransitReference value name = .ok ()) : isReference value = true := by
  unfold requireTransitReference referenceViolation at h
  exact shaped_of_ok ⟨_, rfl⟩ h

/-- An identifier has at most 128 characters. -/
theorem length_of_isIdentifier {value : String} (h : isIdentifier value = true) :
    value.toList.length ≤ 128 := by
  rw [isIdentifier] at h
  cases hvalue : value.toList with
  | nil => exact Nat.zero_le _
  | cons c rest =>
      simp only [hvalue, Bool.and_eq_true, decide_eq_true_eq] at h
      exact Nat.succ_le_succ h.2

/-- The scheme of an audience is ASCII, so that its length is that of its bytes. -/
theorem ascii_of_gatewayScheme : ∀ c ∈ "gateway:".toList, c.toNat < 128 :=
  Library.Text.forall_mem_of_all (by decide)

/-- The audience of a transit grant is made of identifiers, so its search ends. -/
theorem publicMaterialViolation_audience
    (workspaceId : NodeControlGraphReference .workspace)
    (gatewayNodeId : NodeControlGraphReference .node) :
    ∃ violation, publicMaterialViolation
      ("gateway:" ++ workspaceId.value ++ ":" ++ gatewayNodeId.value) =
        .ok violation := by
  have hworkspace := isIdentifier_of_accepted workspaceId.accepted
  have hnode := isIdentifier_of_accepted gatewayNodeId.accepted
  have hplain : IsPlain
      ("gateway:" ++ workspaceId.value ++ ":" ++ gatewayNodeId.value).toList := by
    simp only [IsPlain, String.toList_append, List.mem_append, List.length_append]
    refine ⟨?_, ?_⟩
    · rintro c (((hc | hc) | hc) | hc)
      · exact ascii_of_gatewayScheme c hc
      · exact (plain_of_reference (isReference_of_isIdentifier hworkspace)).1 c hc
      · exact ascii_of_gatewayScheme c
          (List.mem_of_mem_getLast? (List.mem_singleton.mp hc ▸ rfl))
      · exact (plain_of_reference (isReference_of_isIdentifier hnode)).1 c hc
    · have := length_of_isIdentifier hworkspace
      have := length_of_isIdentifier hnode
      have : "gateway:".toList.length = 8 ∧ ":".toList.length = 1 := by decide
      omega
  have hsearch := publicMaterialViolation_raises
    ("gateway:" ++ workspaceId.value ++ ":" ++ gatewayNodeId.value)
  rw [unreadableText_of_plain hplain] at hsearch
  exact hsearch.answered

/-! ## Reading dictionaries -/

variable {raise : String → WireError}

theorem mappingOf_raises (value : PyValue) (message : String) :
    RaisesOnly raise (mappingOf value (raise message)) := by
  cases value with
  | dict entries => exact .ok entries
  | none | bool | int | float | str | list | tuple | object => exact .error message

theorem requireKeys_raises (entries : PyDict) (expected : List String) (name : String) :
    RaisesOnly .contract (requireKeys entries expected name) :=
  .andThen (.require ..) fun _ => .require ..

/-- A value that is no text is refused with the message. -/
theorem textOf_raises (value : PyValue) (message : String) :
    RaisesOnly raise (textOf (raise message) value) := by
  cases value with
  | str text => exact .ok text
  | none | bool | int | float | dict | list | tuple | object => exact .error message

/-- A value that is no integer, or a boolean, is refused with the message. -/
theorem integerOf_raises (value : PyValue) (message : String) :
    RaisesOnly raise (integerOf (raise message) value) := by
  cases value with
  | int n => exact .ok n
  | none | bool | str | float | dict | list | tuple | object => exact .error message

theorem textAt_raises (entries : PyDict) (key : String) :
    RaisesOnly .contract (textAt entries key) := textOf_raises ..

theorem integerAt_raises (entries : PyDict) (key : String) :
    RaisesOnly .contract (integerAt entries key) := integerOf_raises ..

/-- An unknown member is refused with the message. -/
theorem memberOf_raises {α : Type} (members : List α) (value : α → String)
    (message text : String) :
    RaisesOnly raise (memberOf members value (raise message) text) := by
  unfold memberOf
  split
  · exact .ok _
  · exact .error message

/-- A value that names no member is refused by the module that asks. -/
theorem memberIn_raises {α : Type} (malformed unknown : String) (members : List α)
    (value : α → String) (found : PyValue) :
    RaisesOnly raise (memberIn (raise malformed) (raise unknown) members value found) :=
  .andThen (textOf_raises ..) fun _ => memberOf_raises ..

/-- `None` raises nothing, anything else what its decoding does. -/
theorem optionalOf_raises {α : Type} {decode : PyValue → Except WireError α}
    (h : ∀ value, RaisesOnly raise (decode value)) (found : PyValue) :
    RaisesOnly raise (optionalOf found decode) := by
  cases found with
  | none => exact .ok none
  | bool | int | float | str | dict | list | tuple | object => exact .map (h _)

theorem commandCodecOf_raises (name : String) (found : PyValue) :
    RaisesOnly .contract (commandCodecOf name found) := memberIn_raises ..

/-- A reference of the graph is refused with the contract's error. -/
theorem graphReference_raises (role : NodeControlGraphReferenceRole) (value : String) :
    RaisesOnly .contract (NodeControlGraphReference.of role value) := by
  have h := requireIdentifier_raises value "node-control graph reference"
  unfold NodeControlGraphReference.of
  split
  · exact .ok _
  · rename_i e he
    exact h.again he

theorem decodeGraphReference_raises (entries : PyDict) (key : String)
    (role : NodeControlGraphReferenceRole) :
    RaisesOnly .contract (decodeGraphReference entries key role) :=
  .andThen (textAt_raises ..) fun _ => graphReference_raises ..

/-- Every part of a target is refused with the contract's error. -/
theorem decodeTarget_raises (value : PyValue) :
    RaisesOnly .contract (decodeTarget value) :=
  .andThen (mappingOf_raises ..) fun _ =>
  .andThen (requireKeys_raises ..) fun _ =>
  .andThen (decodeGraphReference_raises ..) fun _ =>
  .andThen (decodeGraphReference_raises ..) fun _ =>
  .andThen (decodeGraphReference_raises ..) fun _ =>
  .andThen (decodeGraphReference_raises ..) fun _ => .ok _

/-! ## States -/

/-- A scalar that is not public is refused with the contract's error. -/
theorem validateScalar_raises (value : PyValue) (name : String) :
    RaisesOnly .contract (validateScalar value name) := by
  cases value with
  | none | bool => exact .ok ()
  | int | float => exact .require ..
  | str text => exact requireIdentifier_raises ..
  | dict | list | tuple | object => exact .error _

theorem scalarState_raises (value : PyValue) :
    RaisesOnly .contract (ScalarControlState.of value) := by
  have h := validateScalar_raises value "scalar state"
  unfold ScalarControlState.of
  split
  · exact .ok _
  · rename_i e he
    exact h.again he

theorem checkMapEntry_raises (entry : String × PyValue) :
    RaisesOnly .contract (checkMapEntry entry) :=
  .andThen (requireIdentifier_raises ..) fun _ => validateScalar_raises ..

theorem mapState_raises (entries : PyDict) :
    RaisesOnly .contract (MapControlState.of entries) := by
  have h : RaisesOnly .contract (entries.forM checkMapEntry) :=
    .forM fun entry => checkMapEntry_raises entry
  unfold MapControlState.of
  split
  · exact .error _
  · split
    · rename_i e he
      exact h.again he
    · split
      · exact .ok _
      · exact .error _

theorem weightOf_raises (value : PyValue) : RaisesOnly .contract (weightOf value) := by
  cases value with
  | int n =>
      simp only [weightOf]
      split
      · exact .error _
      · exact .ok _
  | float x =>
      simp only [weightOf]
      split
      · exact .ok _
      · exact .error _
  | none | bool | str | dict | list | tuple | object => exact .error _

theorem weightedState_raises (targets : List (NodeControlGraphReference .target))
    (entries : List (NodeControlGraphReference .target × PyValue)) :
    RaisesOnly .contract (WeightedRoutingControlState.of targets entries) := by
  have h : RaisesOnly .contract (entries.mapM weighted) :=
    .mapM fun entry => .map (weightOf_raises entry.2)
  unfold WeightedRoutingControlState.of
  split
  · exact .error _
  · split
    · exact .error _
    · split
      · split
        · rename_i e he
          exact h.again he
        · unfold WeightedRoutingControlState.ofWeights
          split
          · split
            · split
              · exact .ok _
              · exact .error _
            · exact .error _
          · exact .error _
      · exact .error _

/-- **Every state** is decoded or refused with the contract's error. -/
theorem decodeState_raises (value : PyValue) :
    RaisesOnly .contract (decodeState value) := by
  refine .andThen (mappingOf_raises ..) fun entries => ?_
  refine .andThen (.require ..) fun _ => ?_
  refine .andThen (memberIn_raises ..) fun kind => ?_
  cases kind with
  | scalar =>
      exact .andThen (requireKeys_raises ..) fun _ =>
        .andThen (scalarState_raises _) fun _ => .ok _
  | map =>
      exact .andThen (requireKeys_raises ..) fun _ =>
        .andThen (mappingOf_raises ..) fun _ =>
          .andThen (mapState_raises _) fun _ => .ok _
  | weightedRouting =>
      refine .andThen (requireKeys_raises ..) fun _ => ?_
      cases targetTexts (getValue entries "targets") with
      | none => exact .error _
      | some texts =>
          exact .andThen (mappingOf_raises ..) fun _ =>
            .andThen (.andThen (.mapM fun _ => graphReference_raises ..) fun _ =>
              .andThen (.mapM fun _ => .map (graphReference_raises ..)) fun _ =>
              weightedState_raises ..) fun _ => .ok _

/-! ## Requests and grants -/

/-- A precondition is decoded or refused likewise. -/
theorem decodePrecondition_raises (value : PyValue) :
    RaisesOnly .contract (decodePrecondition value) := by
  refine .andThen (mappingOf_raises ..) fun entries => ?_
  refine .andThen (requireKeys_raises ..) fun _ => ?_
  refine .andThen (integerAt_raises ..) fun version => ?_
  split
  · exact .ok _
  · exact .error _

theorem requestDigest_raises (value : String) :
    RaisesOnly .contract (NodeControlRequestDigest.of value) := by
  unfold NodeControlRequestDigest.of
  split
  · exact .ok _
  · exact .error _

/-- An operation without its command codec is refused by the module that asks. -/
theorem checkCodec_raises (name : String) (operation : NodeControlOperation)
    (commandCodec : Option ControlPlaneCommandCodec) :
    RaisesOnly raise (checkCodec raise name operation commandCodec) := by
  cases operation <;> cases commandCodec <;> first | exact .ok () | exact .error _

/-- A window is refused in the words of its module. -/
theorem windowCheck_raises (texts : WindowTexts) (window : GrantWindow) :
    RaisesOnly texts.raise (window.check texts) :=
  .andThen (.require ..) fun _ => .andThen (.require ..) fun _ =>
      .andThen (.require ..) fun _ =>
  .andThen (.require ..) fun _ => .andThen (.require ..) fun _ => .require ..

section Canonical

variable (dumps : CanonicalJson)

/-- What the encoder refuses and what is too long is refused by the module that asks. -/
theorem boundedCanonicalBytes_raises (exceeds : String) (descriptor : PyValue)
    (maximum : Nat) (name : String) :
    RaisesOnly raise
      (boundedCanonicalBytes dumps raise exceeds descriptor maximum name) := by
  unfold boundedCanonicalBytes
  split
  · exact .error _
  · split
    · exact .ok _
    · exact .error _

theorem validateDescriptorSize_raises (descriptor : PyValue) (name : String) :
    RaisesOnly .contract (validateDescriptorSize dumps descriptor name) :=
  .andThen (boundedCanonicalBytes_raises ..) fun _ => .ok _

theorem decodePayload_raises (value : PyValue) :
    RaisesOnly .contract (decodePayload dumps value) :=
  .andThen (mappingOf_raises ..) fun _ =>
  .andThen (requireKeys_raises ..) fun _ =>
  .andThen (commandCodecOf_raises ..) fun _ =>
  .andThen (decodeState_raises _) fun _ =>
  .andThen (.andThen (.require ..) fun _ => validateDescriptorSize_raises ..) fun _ =>
    .ok _

/-- A request is accepted or refused with the contract's error. -/
theorem requestCheck_raises (request : NodeControlCommandRequest) :
    RaisesOnly .contract (request.check dumps) := by
  refine .andThen (requireIdentifier_raises ..) fun _ => ?_
  refine .andThen (requireIdentifier_raises ..) fun _ => ?_
  refine .andThen ?_ fun _ => validateDescriptorSize_raises ..
  unfold NodeControlCommandRequest.checkOperation
  split
  · exact .ok ()
  · exact .error _
  · exact .require ..
  · exact .error _

/-- Decoding a request raises the errors of its module. -/
theorem decodeRequest_raises (descriptor : PyValue) :
    RaisesOnly .contract (decodeRequest dumps descriptor) :=
  .andThen (mappingOf_raises ..) fun _ =>
  .andThen (requireKeys_raises ..) fun _ =>
  .andThen (decodeTarget_raises _) fun _ =>
  .andThen (memberIn_raises ..) fun _ =>
  .andThen (optionalOf_raises (commandCodecOf_raises _) _) fun _ =>
  .andThen (optionalOf_raises decodePrecondition_raises _) fun _ =>
  .andThen (optionalOf_raises (decodePayload_raises dumps) _) fun _ =>
  .andThen (decodeGraphReference_raises ..) fun _ =>
  .andThen (textAt_raises ..) fun _ =>
  .andThen (textAt_raises ..) fun _ =>
  .andThen (memberIn_raises ..) fun _ =>
  .andThen (requestCheck_raises dumps _) fun _ => .ok _

/-- So is a workload grant. -/
theorem grantCheck_raises (grant : DelegatedWorkloadNodeControlGrant) :
    RaisesOnly .contract (grant.check dumps) :=
  .andThen (requireReferenceAs_raises ..) fun _ =>
  .andThen (requireIdentifier_raises ..) fun _ =>
  .andThen (requireReferenceAs_raises ..) fun _ =>
  .andThen (checkCodec_raises ..) fun _ =>
  .andThen (requireIdentifier_raises ..) fun _ =>
  .andThen (requireIdentifier_raises ..) fun _ =>
  .andThen (windowCheck_raises workloadWindowTexts _) fun _ =>
  .andThen (requireIdentifier_raises ..) fun _ =>
  .andThen (boundedCanonicalBytes_raises ..) fun _ => .ok _

/-- Decoding a workload grant raises the errors of its module. -/
theorem decodeGrant_raises (descriptor : PyValue) :
    RaisesOnly .contract (decodeGrant dumps descriptor) :=
  .andThen (mappingOf_raises ..) fun _ =>
  .andThen (requireKeys_raises ..) fun _ =>
  .andThen (textAt_raises ..) fun _ =>
  .andThen (textAt_raises ..) fun _ =>
  .andThen (textAt_raises ..) fun _ =>
  .andThen (decodeTarget_raises _) fun _ =>
  .andThen (decodeGraphReference_raises ..) fun _ =>
  .andThen (memberIn_raises ..) fun _ =>
  .andThen (optionalOf_raises (commandCodecOf_raises _) _) fun _ =>
  .andThen (textAt_raises ..) fun _ =>
  .andThen (textAt_raises ..) fun _ =>
  .andThen (textAt_raises ..) fun _ =>
  .andThen (requestDigest_raises _) fun _ =>
  .andThen (integerAt_raises ..) fun _ =>
  .andThen (integerAt_raises ..) fun _ =>
  .andThen (integerAt_raises ..) fun _ =>
  .andThen (textAt_raises ..) fun _ =>
  .andThen (grantCheck_raises dumps _) fun _ => .ok _

/-! ## Transit grants -/

/-- What is caught and raised anew is an error of the module that catches it. -/
theorem caughtAs_raises {α : Type} (message : String) (x : Except WireError α) :
    RaisesOnly raise (caughtAs (raise message) x) :=
  ⟨ErrorsIn.mapError fun _ => ⟨message, rfl⟩⟩

theorem deriveAudience_raises (workspaceId : NodeControlGraphReference .workspace)
    (gatewayNodeId : NodeControlGraphReference .node) :
    RaisesOnly .transit (deriveAudience workspaceId gatewayNodeId) := by
  obtain ⟨violation, h⟩ := publicMaterialViolation_audience workspaceId gatewayNodeId
  rw [deriveAudience, h]
  exact .andThen (.ok violation) fun _ => .andThen (.require ..) fun _ => .ok _

/-- The target of a transit grant is refused with the grant's error. -/
theorem decodeTransitTarget_raises (value : PyValue) :
    RaisesOnly .transit (decodeTransitTarget value) :=
  .andThen (mappingOf_raises ..) fun _ =>
  .andThen (.require ..) fun _ =>
  .andThen (caughtAs_raises ..) fun _ =>
  .andThen (caughtAs_raises ..) fun _ =>
  .andThen (caughtAs_raises ..) fun _ =>
  .andThen (caughtAs_raises ..) fun _ => .ok _

theorem transitTextAt_raises (entries : PyDict) (key : String) :
    RaisesOnly .transit (transitTextAt entries key) := textOf_raises ..

theorem transitIntegerAt_raises (entries : PyDict) (key : String) :
    RaisesOnly .transit (transitIntegerAt entries key) := integerOf_raises ..

/-- The coordinates are as well, the derived audience included. -/
theorem decodeTransitCoordinates_raises (entries : PyDict) :
    RaisesOnly .transit (decodeTransitCoordinates entries) :=
  .andThen (decodeTransitTarget_raises _) fun _ =>
  .andThen (caughtAs_raises ..) fun _ =>
  .andThen (caughtAs_raises ..) fun _ =>
  .andThen (caughtAs_raises ..) fun _ =>
  .andThen (deriveAudience_raises ..) fun _ =>
  .andThen (transitTextAt_raises ..) fun _ =>
  .andThen (.require ..) fun _ => .ok _

theorem transitGrantBytes_raises (grant : DelegatedGatewayNodeControlTransitGrant) :
    RaisesOnly .transit (grant.canonicalBytes dumps) :=
  .andThen (deriveAudience_raises ..) fun _ => boundedCanonicalBytes_raises ..

/-- A transit grant is accepted or refused with its own error. -/
theorem transitGrantCheck_raises (grant : DelegatedGatewayNodeControlTransitGrant) :
    RaisesOnly .transit (grant.check dumps) :=
  .andThen (requireTransitReference_raises ..) fun _ =>
  .andThen (requireTransitIdentifier_raises ..) fun _ =>
  .andThen (requireTransitIdentifier_raises ..) fun _ =>
  .andThen (requireTransitIdentifier_raises ..) fun _ =>
  .andThen (requireTransitIdentifier_raises ..) fun _ =>
  .andThen (requireTransitIdentifier_raises ..) fun _ =>
  .andThen (.require ..) fun _ =>
  .andThen (.require ..) fun _ =>
  .andThen (checkCodec_raises ..) fun _ =>
  .andThen (windowCheck_raises transitWindowTexts _) fun _ =>
  .andThen (deriveAudience_raises ..) fun _ =>
  .andThen (transitGrantBytes_raises dumps _) fun _ => .ok _

/-- Decoding a transit grant raises the errors of its module. -/
theorem decodeTransitGrant_raises (descriptor : PyValue) :
    RaisesOnly .transit (decodeTransitGrant dumps descriptor) :=
  .andThen (mappingOf_raises ..) fun _ =>
  .andThen (boundedCanonicalBytes_raises ..) fun _ =>
  .andThen (.require ..) fun _ =>
  .andThen (decodeTransitCoordinates_raises _) fun (_, _, _, _) =>
  .andThen (memberIn_raises ..) fun _ =>
  .andThen (memberIn_raises ..) fun _ =>
  .andThen (memberIn_raises ..) fun _ =>
  .andThen (transitTextAt_raises ..) fun _ =>
  .andThen (transitTextAt_raises ..) fun _ =>
  .andThen (transitTextAt_raises ..) fun _ =>
  .andThen (caughtAs_raises ..) fun _ =>
  .andThen (memberIn_raises ..) fun _ =>
  .andThen (optionalOf_raises (fun _ => memberIn_raises ..) _) fun _ =>
  .andThen (transitTextAt_raises ..) fun _ =>
  .andThen (transitTextAt_raises ..) fun _ =>
  .andThen (caughtAs_raises ..) fun _ =>
  .andThen (transitIntegerAt_raises ..) fun _ =>
  .andThen (transitIntegerAt_raises ..) fun _ =>
  .andThen (transitIntegerAt_raises ..) fun _ =>
  .andThen (transitTextAt_raises ..) fun _ =>
  .andThen (transitGrantCheck_raises dumps _) fun _ => .ok _

/-! ## Bytes -/

/-- The errors a module raises for bytes are its own. -/
structure BytesTexts.Raise (texts : BytesTexts)
    (raise : String → WireError) : Prop where
  malformed : ∃ message, texts.malformed = raise message
  exceeds : ∃ message, texts.exceeds = raise message
  notCanonical : ∃ message, texts.notCanonical = raise message
  notObject : ∃ message, texts.notObject = raise message

theorem wireTexts_raise (name : String) : (wireTexts name).Raise .contract :=
  ⟨⟨_, rfl⟩, ⟨_, rfl⟩, ⟨_, rfl⟩, ⟨_, rfl⟩⟩

theorem transitTexts_raise : transitTexts.Raise .transit :=
  ⟨⟨_, rfl⟩, ⟨_, rfl⟩, ⟨_, rfl⟩, ⟨_, rfl⟩⟩

/-- Reading bytes raises what the decoder and the encoder raise, and nothing else. -/
theorem decodeCanonicalBytes_raises {α : Type} {texts : BytesTexts} {maximum : Nat}
    {read : Bytes → Option PyValue} {decode : PyValue → Except WireError α}
    {canonicalBytes : α → Except WireError Bytes} (htexts : texts.Raise raise)
    (hdecode : ∀ value, RaisesOnly raise (decode value))
    (hbytes : ∀ value, RaisesOnly raise (canonicalBytes value)) (encoded : Bytes) :
    RaisesOnly raise
      (decodeCanonicalBytes texts maximum read decode canonicalBytes encoded) := by
  obtain ⟨⟨malformed, hmalformed⟩, ⟨exceeds, hexceeds⟩, ⟨notCanonical, hcanonical⟩,
    ⟨notObject, hobject⟩⟩ := htexts
  unfold decodeCanonicalBytes
  rw [hexceeds]
  refine .andThen (.require ..) fun _ => ?_
  cases read encoded with
  | none =>
      rw [hmalformed]
      exact .error malformed
  | some parsed =>
      rw [hobject, hcanonical]
      exact .andThen (mappingOf_raises ..) fun _ =>
          .andThen (hdecode parsed) fun value =>
        .andThen (hbytes value) fun _ => .andThen (.require ..) fun _ => .ok _

theorem requestBytes_raises (request : NodeControlCommandRequest) :
    RaisesOnly .contract (request.canonicalBytes dumps) := by
  unfold NodeControlCommandRequest.canonicalBytes
  split
  · exact .error _
  · exact .ok _

/-- **From bytes to a request**: a request, or the contract's error. -/
theorem decodeRequestBytes_raises (float : String → PyFloat) (encoded : Bytes) :
    RaisesOnly .contract (decodeRequestBytes dumps float encoded) :=
  decodeCanonicalBytes_raises (wireTexts_raise _) (decodeRequest_raises dumps)
    (requestBytes_raises dumps) encoded

/-- **From bytes to a workload grant**: a grant, or the contract's error. -/
theorem decodeGrantBytes_raises (float : String → PyFloat) (encoded : Bytes) :
    RaisesOnly .contract (decodeGrantBytes dumps float encoded) :=
  decodeCanonicalBytes_raises (wireTexts_raise _) (decodeGrant_raises dumps)
    (fun _ => boundedCanonicalBytes_raises ..) encoded

/-- **From bytes to a transit grant**: a grant, or its own error. -/
theorem decodeTransitGrantBytes_raises (float : String → PyFloat) (encoded : Bytes) :
    RaisesOnly .transit (decodeTransitGrantBytes dumps float encoded) :=
  decodeCanonicalBytes_raises transitTexts_raise (decodeTransitGrant_raises dumps)
    (transitGrantBytes_raises dumps) encoded

/-! ## Results -/

/-- An operation that is not declared is refused with the contract's error. -/
theorem contractFor_raises (declared : ControlPlaneVariableDescriptor)
    (operation : NodeControlOperation) :
    RaisesOnly .contract (declared.contractFor operation) := by
  unfold ControlPlaneVariableDescriptor.contractFor
  split
  · exact .ok _
  · exact .error _

theorem decodeResultEvidence_raises (value : PyValue) :
    RaisesOnly .contract (decodeResultEvidence value) :=
  .andThen (mappingOf_raises ..) fun _ =>
  .andThen (requireKeys_raises ..) fun _ =>
  .andThen (memberIn_raises ..) fun _ => .ok _

/-- The outcome of a result is decoded or refused with the contract's error. -/
theorem decodeOutcome_raises (entries : PyDict) (operation : NodeControlOperation)
    (status : NodeControlResultStatus) :
    RaisesOnly .contract (decodeOutcome entries operation status) := by
  cases status with
  | succeeded =>
      cases operation with
      | readState =>
          exact .andThen (requireKeys_raises ..) fun _ =>
              .andThen (textAt_raises ..) fun _ =>
            .andThen (memberIn_raises ..) fun _ =>
                .andThen (integerAt_raises ..) fun _ =>
            .andThen (decodeState_raises _) fun _ => .ok _
      | applyCommand =>
          exact .andThen (requireKeys_raises ..) fun _ =>
              .andThen (textAt_raises ..) fun _ =>
            .andThen (integerAt_raises ..) fun _ =>
            .andThen (decodeResultEvidence_raises _) fun _ => .ok _
  | rejected =>
      exact .andThen (requireKeys_raises ..) fun _ =>
          .andThen (textAt_raises ..) fun _ =>
        .andThen (decodeResultEvidence_raises _) fun _ => .ok _
  | failed =>
      exact .andThen (requireKeys_raises ..) fun _ =>
        .andThen (decodeResultEvidence_raises _) fun _ =>
            .andThen (.require ..) fun _ =>
        .andThen (textAt_raises ..) fun _ => .ok _

/-- An outcome that contradicts its status is refused with the contract's error. -/
theorem checkOutcome_raises (result : NodeControlResult) :
    RaisesOnly .contract result.checkOutcome := by
  cases result with
  | readStateSucceeded | transitionSucceeded =>
      exact .andThen (.require ..) fun _ => .require ..
  | rejected => exact .require ..
  | failed => exact .ok ()

/-- Decoding a result raises the errors of its module. -/
theorem decodeResult_raises (declared : ControlPlaneVariableDescriptor)
    (descriptor : PyValue) :
    RaisesOnly .contract (decodeResult dumps declared descriptor) :=
  .andThen (mappingOf_raises ..) fun _ =>
  .andThen (memberIn_raises ..) fun _ =>
  .andThen (memberIn_raises ..) fun _ =>
  .andThen (memberIn_raises ..) fun _ =>
  .andThen (contractFor_raises ..) fun _ =>
  .andThen (.require ..) fun _ =>
  .andThen (decodeOutcome_raises ..) fun result =>
  .andThen (.andThen (requireIdentifier_raises ..) fun _ =>
    .andThen (checkOutcome_raises result)
    fun _ => validateDescriptorSize_raises ..) fun _ =>
  .andThen (.andThen (contractFor_raises ..) fun _ => .andThen
    (.require ..) fun _ => .require ..) fun _ => .ok _

/-! ## Declarations -/

theorem textOrNone_raises (message : String) (value : PyValue) :
    RaisesOnly raise (textOrNone (raise message) value) := by
  cases value with
  | none | str => exact .ok _
  | bool | int | float | dict | list | tuple | object => exact .error message

theorem listOf_raises (message : String) (value : PyValue) :
    RaisesOnly raise (listOf (raise message) value) := by
  cases value with
  | list items => exact .ok items
  | none | bool | int | float | str | dict | tuple | object => exact .error message

theorem contractCheck_raises (contract : ControlPlaneVariableOperationContract) :
    RaisesOnly .contract contract.check := by
  unfold ControlPlaneVariableOperationContract.check
  split
  · exact .error _
  · exact .require ..
  · exact .error _
  · exact .require ..

/-- A contract of an operation is decoded or refused with the contract's error. -/
theorem decodeOperationContract_raises (value : PyValue) :
    RaisesOnly .contract (decodeOperationContract value) :=
  .andThen (mappingOf_raises ..) fun _ =>
  .andThen (requireKeys_raises ..) fun _ =>
  .andThen (optionalOf_raises (commandCodecOf_raises _) _) fun _ =>
  .andThen (memberIn_raises ..) fun _ =>
  .andThen (memberIn_raises ..) fun _ =>
  .andThen (contractCheck_raises _) fun _ => .ok _

/-- A variable is read without its description with the contract's error only. -/
theorem readVariable_raises (descriptor : PyValue) :
    RaisesOnly .contract (readVariable descriptor) :=
  .andThen (mappingOf_raises ..) fun _ =>
  .andThen (requireKeys_raises ..) fun _ =>
  .andThen (.require ..) fun _ =>
  .andThen (.require ..) fun _ =>
  .andThen (textOrNone_raises ..) fun _ =>
  .andThen (listOf_raises ..) fun _ =>
  .andThen (.mapM decodeOperationContract_raises) fun _ =>
  .andThen (decodeGraphReference_raises ..) fun _ =>
  .andThen (memberIn_raises ..) fun _ =>
  .andThen (memberIn_raises ..) fun _ =>
  .andThen (.andThen (.require ..) fun _ => .require ..) fun _ => .ok _

/-- The bounded text of a description whose search meets a port it cannot read. -/
def IsUnreadable (text : String) : Prop :=
  isBoundedText text = true ∧ unreadableText text = true

/-- **The one text that escapes**: the contract's error is all that a public text
raises, unless its check cannot be evaluated on it. -/
theorem validatePublicText_raises_iff (text name : String) :
    RaisesOnly .contract (validatePublicText text name) ↔ ¬ IsUnreadable text := by
  have hsearch := publicMaterialViolation_raises text
  unfold validatePublicText IsUnreadable
  cases hbounded : isBoundedText text with
  | false => exact iff_of_true (.error _) nofun
  | true =>
      cases hunreadable : unreadableText text with
      | true =>
          rw [hunreadable] at hsearch
          obtain ⟨message, hraised⟩ := hsearch.raised
          rw [hraised]
          refine iff_of_false (fun h => ?_) (fun h => h ⟨rfl, rfl⟩)
          obtain ⟨_, himpossible⟩ := h.errors _ rfl
          cases himpossible
      | false =>
          rw [hunreadable] at hsearch
          obtain ⟨violation, hanswer⟩ := hsearch.answered
          rw [hanswer]
          refine iff_of_true ?_ nofun
          cases violation with
          | none => exact .ok ()
          | some violation => cases violation <;> exact .error _

/-- The declaration of a variable is read up to an unreadable description. -/
def UnreadableVariable (descriptor : PyValue) : Prop :=
  ∃ declared, readVariable descriptor = .ok declared ∧
    ∃ text ∈ declared.description, IsUnreadable text

/-- A variable escapes only with its description. -/
theorem decodeVariable_raises_iff (descriptor : PyValue) :
    RaisesOnly .contract (decodeVariable descriptor) ↔
      ¬ UnreadableVariable descriptor := by
  rw [decodeVariable, RaisesOnly.bind_iff,
    and_iff_right (readVariable_raises descriptor)]
  have hdescription (declared : ControlPlaneVariableDescriptor) :
      RaisesOnly .contract (declared.checkDescription >>= fun _ => pure declared) ↔
        ∀ text ∈ declared.description, ¬ IsUnreadable text := by
    rw [RaisesOnly.bind_iff, and_iff_left fun _ _ => .ok _,
      ControlPlaneVariableDescriptor.checkDescription]
    cases declared.description with
    | none => exact iff_of_true (.ok ()) nofun
    | some text => simp [validatePublicText_raises_iff]
  simp only [hdescription, UnreadableVariable, not_exists, not_and]

/-- The surface is read up to a variable whose description is unreadable: the
variables before it are accepted. -/
def UnreadableSurface (descriptor : PyValue) : Prop :=
  ∃ providerSocketName before value after,
    readSurface descriptor = .ok (providerSocketName, before ++ value :: after) ∧
      (∀ earlier ∈ before, Succeeds (decodeSurfaceVariable earlier)) ∧
      UnreadableVariable value

/-- A variable of a surface escapes where it does alone. -/
theorem decodeSurfaceVariable_raises_iff (value : PyValue) :
    RaisesOnly .contract (decodeSurfaceVariable value) ↔
      ¬ UnreadableVariable value := by
  cases value with
  | dict entries => exact decodeVariable_raises_iff (.dict entries)
  | none | bool | int | float | str | list | tuple | object =>
      exact iff_of_true (.error _) fun ⟨_, h, _⟩ => nomatch h

/-- A surface is read, up to its variables, with the contract's error only. -/
theorem readSurface_raises (descriptor : PyValue) :
    RaisesOnly .contract (readSurface descriptor) :=
  .andThen (mappingOf_raises ..) fun _ =>
  .andThen (requireKeys_raises ..) fun _ =>
  .andThen (listOf_raises ..) fun _ =>
  .andThen (.require ..) fun _ =>
  .andThen (decodeGraphReference_raises ..) fun _ => .ok _

theorem surface_of_raises
    (providerSocketName : NodeControlGraphReference .providerSocket)
    (declaredVariables : List ControlPlaneVariableDescriptor) : RaisesOnly .contract
      (WorkloadNodeControlSurfaceDescriptor.of dumps providerSocketName
        declaredVariables) := by
  refine .andThen ?_ fun _ => .andThen (validateDescriptorSize_raises ..) fun _ => .ok _
  unfold WorkloadNodeControlSurfaceDescriptor.ofVariables
  split
  · exact .error _
  · split
    · exact .error _
    · split
      · exact .ok _
      · exact .error _

/-- A surface escapes only with one of its variables. -/
theorem decodeSurface_raises_iff (descriptor : PyValue) :
    RaisesOnly .contract (decodeSurface dumps descriptor) ↔
      ¬ UnreadableSurface descriptor := by
  rw [decodeSurface, RaisesOnly.bind_iff, and_iff_right (readSurface_raises descriptor)]
  have hvariables (providerSocketName : NodeControlGraphReference .providerSocket)
      (values : List PyValue) :
      RaisesOnly .contract
        (values.mapM decodeSurfaceVariable >>= fun declaredVariables => do
        let surface ← WorkloadNodeControlSurfaceDescriptor.of dumps providerSocketName
          declaredVariables
        validateDescriptorSize dumps surface.descriptor
          "node-control surface descriptor"
        return surface) ↔ ∀ before value after, values = before ++ value :: after →
          (∀ earlier ∈ before, Succeeds (decodeSurfaceVariable earlier)) →
            ¬ UnreadableVariable value := by
    rw [RaisesOnly.bind_iff, and_iff_left fun _ _ =>
        .andThen (surface_of_raises ..) fun _ =>
      .andThen (validateDescriptorSize_raises ..) fun _ => .ok _, RaisesOnly.mapM_iff]
    simp only [decodeSurfaceVariable_raises_iff]
  constructor
  · rintro h ⟨providerSocketName, before, value, after, hread, hbefore, hvalue⟩
    exact (hvariables ..).mp (h _ hread) before value after rfl hbefore hvalue
  · rintro h ⟨providerSocketName, values⟩ hread
    refine (hvariables ..).mpr ?_
    rintro before value after rfl hbefore hvalue
    exact h ⟨_, before, value, after, hread, hbefore, hvalue⟩

/-- The declaration is read up to a surface with an unreadable description. -/
def UnreadableDeclaration (descriptor : PyValue) : Prop :=
  ∃ profile body, readDeclaration dumps descriptor = .ok (profile, body) ∧
    UnreadableSurface (.dict body)

/-- A declaration is read, up to its surface, with the surface read's error only. -/
theorem readDeclaration_raises (descriptor : PyValue) :
    RaisesOnly .surfaceRead (readDeclaration dumps descriptor) :=
  .andThen (mappingOf_raises ..) fun _ =>
  .andThen (boundedCanonicalBytes_raises ..) fun _ =>
  .andThen (.require ..) fun _ =>
  .andThen (.andThen (textOf_raises ..) fun _ => memberOf_raises ..) fun _ =>
  .andThen (mappingOf_raises ..) fun _ => .ok _

/-- An error of the module, or one that escapes it. -/
def ContractOrEscaped (e : WireError) : Prop :=
  e.Escapes ∨ ∃ message, e = .contract message

/-- What raises the contract's error only escapes nowhere. -/
theorem RaisesOnly.orEscaped {α : Type} {x : Except WireError α}
    (h : RaisesOnly .contract x) : ErrorsIn ContractOrEscaped x :=
  h.errors.mono fun _ he => .inr he

theorem validatePublicText_orEscaped (text name : String) :
    ErrorsIn ContractOrEscaped (validatePublicText text name) := by
  refine (RaisesOnly.require ..).orEscaped.bind fun _ _ => ?_
  cases publicMaterialViolation text with
  | error e => exact .error (.inl trivial)
  | ok violation =>
      cases violation with
      | none => exact .ok ()
      | some violation => cases violation <;> exact .error (.inr ⟨_, rfl⟩)

theorem decodeSurfaceVariable_orEscaped (value : PyValue) :
    ErrorsIn ContractOrEscaped (decodeSurfaceVariable value) := by
  refine (RaisesOnly.orEscaped (mappingOf_raises ..)).bind fun entries _ => ?_
  refine (readVariable_raises _).orEscaped.bind fun declared _ => ?_
  refine ErrorsIn.bind ?_ fun _ _ => .ok declared
  unfold ControlPlaneVariableDescriptor.checkDescription
  split
  · exact .ok ()
  · exact validatePublicText_orEscaped _ _

/-- A surface is decoded, refused, or escapes. -/
theorem decodeSurface_orEscaped (descriptor : PyValue) :
    ErrorsIn ContractOrEscaped (decodeSurface dumps descriptor) := by
  refine (readSurface_raises descriptor).orEscaped.bind fun (_, _) _ => ?_
  refine (ErrorsIn.mapM fun value _ => decodeSurfaceVariable_orEscaped
    value).bind fun _ _ => ?_
  exact (RaisesOnly.andThen (surface_of_raises ..) fun _ =>
    .andThen (validateDescriptorSize_raises ..) fun _ => .ok _).orEscaped

/-- Catching the errors of one module leaves what escapes from it. -/
theorem caughtContract_raises_iff {α : Type} {x : Except WireError α} (message : String)
    (hx : ErrorsIn ContractOrEscaped x) :
    RaisesOnly .surfaceRead (caughtContract (.surfaceRead message) x) ↔
      RaisesOnly .contract x := by
  cases x with
  | ok a => exact iff_of_true (.ok a) (.ok a)
  | error e =>
      rcases hx e rfl with hescapes | ⟨text, rfl⟩
      · cases e with
        | escaped raised =>
            refine iff_of_false (fun h => ?_) fun h => ?_
            · obtain ⟨_, himpossible⟩ := h.errors _ rfl
              cases himpossible
            · obtain ⟨_, himpossible⟩ := h.errors _ rfl
              cases himpossible
        | contract | transit | surfaceRead => cases hescapes
      · exact iff_of_true (.error message) (.error text)

/-- **A declaration escapes only with its surface**: what escapes is not caught as the
contract's error is. -/
theorem decodeSurfaceDeclaration_raises_iff (descriptor : PyValue) :
    RaisesOnly .surfaceRead (decodeSurfaceDeclaration dumps descriptor) ↔
      ¬ UnreadableDeclaration dumps descriptor := by
  rw [decodeSurfaceDeclaration, RaisesOnly.bind_iff,
    and_iff_right (readDeclaration_raises dumps descriptor)]
  have hbody (profile : WorkloadNodeControlSurfaceDeclarationProfile) (body : PyDict) :
      RaisesOnly .surfaceRead
        (caughtContract (.surfaceRead "surface declaration body is malformed")
        (decodeSurface dumps (.dict body)) >>= fun surface => do
          let declaration : WorkloadNodeControlSurfaceDeclaration := ⟨surface, profile⟩
          let _ ← declaration.canonicalBytes dumps
          return declaration) ↔ ¬ UnreadableSurface (.dict body) := by
    rw [RaisesOnly.bind_iff, and_iff_left fun _ _ => .andThen
      (boundedCanonicalBytes_raises ..) fun _ => .ok _, caughtContract_raises_iff
      _ (decodeSurface_orEscaped dumps _), decodeSurface_raises_iff]
  constructor
  · rintro h ⟨profile, body, hread, hunreadable⟩
    exact (hbody profile body).mp (h _ hread) hunreadable
  · rintro h ⟨profile, body⟩ hread
    exact (hbody profile body).mpr fun hunreadable =>
      h ⟨profile, body, hread, hunreadable⟩

/-! ## The boundary -/

/-- **What the boundary raises**: every decoder of a request, a grant, a transit grant
or a result, and every reader of canonical bytes, returns a value or raises an error of
its module.  A decoder of a variable, a surface or a declaration does so unless it
reaches an unreadable description, where the error of the host language escapes. -/
theorem boundary_raises (float : String → PyFloat) :
    (∀ descriptor, RaisesOnly .contract (decodeRequest dumps descriptor)) ∧
    (∀ descriptor, RaisesOnly .contract (decodeGrant dumps descriptor)) ∧
    (∀ descriptor, RaisesOnly .transit (decodeTransitGrant dumps descriptor)) ∧
    (∀ declared descriptor,
      RaisesOnly .contract (decodeResult dumps declared descriptor)) ∧
    (∀ encoded, RaisesOnly .contract (decodeRequestBytes dumps float encoded)) ∧
    (∀ encoded, RaisesOnly .contract (decodeGrantBytes dumps float encoded)) ∧
    (∀ encoded, RaisesOnly .transit (decodeTransitGrantBytes dumps float encoded)) ∧
    (∀ descriptor, RaisesOnly .contract (decodeVariable descriptor) ↔
      ¬ UnreadableVariable descriptor) ∧
    (∀ descriptor, RaisesOnly .contract (decodeSurface dumps descriptor) ↔
      ¬ UnreadableSurface descriptor) ∧
    ∀ descriptor, RaisesOnly .surfaceRead (decodeSurfaceDeclaration dumps descriptor) ↔
      ¬ UnreadableDeclaration dumps descriptor :=
  ⟨decodeRequest_raises dumps, decodeGrant_raises dumps,
    decodeTransitGrant_raises dumps, decodeResult_raises dumps,
    decodeRequestBytes_raises dumps float, decodeGrantBytes_raises dumps float,
    decodeTransitGrantBytes_raises dumps float, decodeVariable_raises_iff,
    decodeSurface_raises_iff dumps, decodeSurfaceDeclaration_raises_iff dumps⟩

end Canonical

/-- A scalar variable with a description. -/
def describedVariable (description : String) : PyValue :=
  .dict [
    ("variable_name", .str "level"), ("kind", .str "scalar"),
    ("state_codec", .str "control.scalar.v1"),
    ("operation_contracts", .list [
      .dict [("operation", .str "read-state"), ("command_codec", .none),
        ("result_codec", .str "control.state.v1")],
      .dict [("operation", .str "apply-command"),
        ("command_codec", .str "control.replace-scalar.v1"),
        ("result_codec", .str "control.transition.v1")]]),
    ("route_set", .str "node-control"), ("capability", .str "node-controllable"),
    ("description", .str description)]

/-- A superscript after a colon is a digit, and is no integer. -/
theorem superscript_port_escapes :
    ¬ ∀ descriptor, RaisesOnly .contract (decodeVariable descriptor) := by
  intro h
  have hraised : decodeVariable (describedVariable "x:²") =
      .error (.escaped (.valueError "invalid literal for int() with base 10: '²'")) :=
    Library.Outcome.eq_error_of_fails (by decide)
  obtain ⟨_, himpossible⟩ := (h _).errors _ hraised
  cases himpossible

end ControlPlaneKit.NodeControl
