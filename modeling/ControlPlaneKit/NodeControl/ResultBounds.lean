import ControlPlaneKit.NodeControl.AggregateBounds
import ControlPlaneKit.NodeControl.VerificationLaws
import Mathlib.Algebra.Order.BigOperators.Group.List

/-!
# ResultBounds — no result outgrows its bound

A surface keeps to its own bound, which leaves room for so many names and no more: a
status result, which lists names, and a capabilities result, which carries the whole
declaration, are never wider than their aggregate maximum.
-/

namespace ControlPlaneKit.NodeControl

open ControlPlaneKit.Library (PyValue)
open ControlPlaneKit.Library.CanonicalText
open ControlPlaneKit.Library.EventFold (bind_ok check_bind_ok)
open ControlPlaneKit.Library.Outcome (forM_eq_ok ok_bind)

/-! ## Declared surfaces -/

/-- The operation contracts of a variable that passes its checks. -/
theorem contracts_of_check {declared : ControlPlaneVariableDescriptor}
    (h : declared.check = .ok ()) :
    declared.operationContracts = [⟨.readState, none, .stateV1⟩,
      ⟨.applyCommand, some declared.kind.codecs.2, .transitionV1⟩] ∧
      declared.stateCodec = declared.kind.codecs.1 := by
  simp only [ControlPlaneVariableDescriptor.check, check_bind_ok,
    ControlPlaneVariableDescriptor.checkContracts, requireWire_eq_ok, decide_eq_true_eq,
    Bool.and_eq_true] at h
  obtain ⟨hcontracts, ⟨hoperations, hstate, happly⟩, -⟩ := h
  obtain ⟨variableName, kind, stateCodec, operationContracts, description⟩ := declared
  refine ⟨?_, hstate⟩
  obtain ⟨first, rest, rfl, hfirst, hrest⟩ := List.map_eq_cons_iff.mp hoperations
  obtain ⟨second, last, rfl, hsecond, hlast⟩ := List.map_eq_cons_iff.mp hrest
  obtain rfl := List.map_eq_nil_iff.mp hlast
  rw [forM_eq_ok] at hcontracts
  have hread := hcontracts first (by simp)
  have happlied := hcontracts second (by simp)
  obtain ⟨operation, commandCodec, resultCodec⟩ := first
  obtain ⟨operation', commandCodec', resultCodec'⟩ := second
  cases hfirst
  cases hsecond
  simp only [List.getElem?_cons_succ, List.getElem?_cons_zero,
    Option.bind_some] at happly
  subst happly
  cases commandCodec with
  | some codec => cases hread
  | none =>
      simp only [ControlPlaneVariableOperationContract.check, requireWire_eq_ok,
        decide_eq_true_eq] at hread happlied
      rw [hread, happlied]

theorem encodable_variable (declared : ControlPlaneVariableDescriptor) :
    encodable declared.descriptor = true := by
  refine encodable_dict (by simp) fun entry hentry => ?_
  simp only [List.mem_cons, List.not_mem_nil, or_false] at hentry
  rcases hentry with rfl | rfl | rfl | rfl | rfl | rfl | rfl
  · rfl
  · rfl
  · rfl
  · refine encodable_list fun item hitem => ?_
    obtain ⟨contract, -, rfl⟩ := List.mem_map.mp hitem
    refine encodable_dict (by simp) fun entry hentry => ?_
    simp only [List.mem_cons, List.not_mem_nil, or_false] at hentry
    rcases hentry with rfl | rfl | rfl
    · rfl
    · exact encodable_codecOrNone _
    · rfl
  · rfl
  · rfl
  · cases declared.description <;> rfl

/-- The operation contracts take no less than the shortest codecs do. -/
theorem le_width_contracts (kind : ControlPlaneVariableKind) :
    214 ≤ textWidth kind.value + textWidth kind.codecs.1.value +
      width (.list ([⟨.readState, none, .stateV1⟩,
        ⟨.applyCommand, some kind.codecs.2, .transitionV1⟩].map
          ControlPlaneVariableOperationContract.descriptor)) := by
  cases kind <;> decide +kernel

/-- A variable is wider than its name by what its other fields take at least. -/
theorem le_width_variable {declared : ControlPlaneVariableDescriptor}
    (h : declared.check = .ok ()) :
    357 + declared.variableName.value.length ≤ width declared.descriptor := by
  have hkeys : keysWidth ["variable_name", "kind", "state_codec", "operation_contracts",
      "route_set", "capability", "description"] = 106 := by decide
  have htexts : textWidth "node-control" = 14 ∧
    textWidth "node-controllable" = 19 := by decide
  obtain ⟨hcontracts, hstate⟩ := contracts_of_check h
  have hshapes := le_width_contracts declared.kind
  have hname := le_textWidth declared.variableName.value
  have hdescription : 2 ≤
      width ((declared.description.map PyValue.str).getD .none) := by
    cases declared.description with
    | none => decide
    | some text => exact Nat.le_trans (Nat.le_add_left 2 _) (le_textWidth text)
  rw [ControlPlaneVariableDescriptor.descriptor, width_dict (List.cons_ne_nil _ _)]
  simp only [List.map_cons, List.map_nil, List.sum_cons, List.sum_nil, hkeys, width_str,
    htexts, hstate, hcontracts] at hshapes ⊢
  linarith

/-- What the names of a declared surface leave of the bound of its descriptor. -/
theorem declaredNames_le {surface : WorkloadNodeControlSurfaceDescriptor}
    (hchecks : ∀ declared ∈ surface.declaredVariables, declared.check = .ok ())
    (hsize : width surface.descriptor ≤ maxNodeControlPayloadBytes) :
    358 * surface.declaredVariables.length +
      (surface.declaredVariables.map (·.variableName.value.length)).sum ≤ 16343 := by
  have hsum : ∀ declaredVariables : List ControlPlaneVariableDescriptor,
      (∀ declared ∈ declaredVariables, declared.check = .ok ()) →
        357 * declaredVariables.length +
          (declaredVariables.map (·.variableName.value.length)).sum ≤
            ((declaredVariables.map (·.descriptor)).map width).sum := by
    intro declaredVariables
    induction declaredVariables with
    | nil => exact fun _ => Nat.le_refl 0
    | cons declared rest ih =>
        intro h
        have := le_width_variable (h declared (List.mem_cons_self ..))
        have := ih fun other hother => h other (List.mem_cons_of_mem _ hother)
        simp only [List.map_cons, List.sum_cons, List.length_cons]
        linarith
  have hkeys : keysWidth ["provider_socket_name", "variables"] = 38 := by decide
  have hvariables := hsum surface.declaredVariables hchecks
  have hsocket := le_textWidth surface.providerSocketName.value
  have hlength := List.length_pos_iff.mpr surface.nonempty
  rw [WorkloadNodeControlSurfaceDescriptor.descriptor,
    width_dict (List.cons_ne_nil _ _)] at hsize
  simp only [List.map_cons, List.map_nil, List.sum_cons, List.sum_nil, hkeys, width_str,
    width_list, List.length_map, maxNodeControlPayloadBytes] at hsize
  generalize ((surface.declaredVariables.map (·.descriptor)).map width).sum = total at *
  generalize textWidth surface.providerSocketName.value = socket at *
  omega

theorem encodable_surface (surface : WorkloadNodeControlSurfaceDescriptor) :
    encodable surface.descriptor = true := by
  refine encodable_dict (by simp) fun entry hentry => ?_
  simp only [List.mem_cons, List.not_mem_nil, or_false] at hentry
  rcases hentry with rfl | rfl
  · rfl
  · refine encodable_list fun item hitem => ?_
    obtain ⟨declared, -, rfl⟩ := List.mem_map.mp hitem
    exact encodable_variable declared

theorem encodable_declaration (declaration : WorkloadNodeControlSurfaceDeclaration) :
    encodable declaration.descriptor = true := by
  refine encodable_dict (by simp) fun entry hentry => ?_
  simp only [List.mem_cons, List.not_mem_nil, or_false] at hentry
  rcases hentry with rfl | rfl
  · rfl
  · exact encodable_surface _

theorem width_declaration (declaration : WorkloadNodeControlSurfaceDeclaration) :
    width declaration.descriptor = 69 + width declaration.surface.descriptor := by
  have hkeys : keysWidth ["profile", "surface"] = 23 := by decide
  have hprofile : textWidth declaration.profile.value = 46 := by
    cases declaration.profile
    decide
  rw [WorkloadNodeControlSurfaceDeclaration.descriptor,
    width_dict (List.cons_ne_nil _ _)]
  simp only [List.map_cons, List.map_nil, List.sum_cons, List.sum_nil, hkeys,
    hprofile, width_str]
  linarith

section Constructed

variable {dumps : CanonicalJson} {declaration : WorkloadNodeControlSurfaceDeclaration}

theorem validateDescriptorSize_eq_ok {descriptor : PyValue} {name : String} :
    validateDescriptorSize dumps descriptor name = .ok () ↔
      Within dumps descriptor maxNodeControlPayloadBytes := by
  rw [validateDescriptorSize, bind_ok]
  simp only [wireBytes, pure, Except.pure, and_true, bounded_eq_ok_iff]

/-- The surface of a declaration that can be built keeps to its bound. -/
theorem width_surface (hdumps : FollowsRfc8785 dumps)
    (h : declaration.Constructible dumps) :
    width declaration.surface.descriptor ≤ maxNodeControlPayloadBytes :=
  (within_iff hdumps (encodable_surface _)).mp (validateDescriptorSize_eq_ok.mp h.2.1)

end Constructed

/-! ## Surface-read results -/

theorem validateInstalledVariableNames_eq_ok
    {declaration : WorkloadNodeControlSurfaceDeclaration}
    {installed : List (NodeControlGraphReference .variable)} :
    validateInstalledVariableNames declaration installed = .ok () ↔
      installed.length ≤ 128 ∧
      installed = (installed.mergeSort fun a b => a.value ≤ b.value) ∧
        (installed.map (·.value)).Nodup ∧
          ∀ name ∈ installed, name ∈ declaredVariableNames declaration := by
  simp only [validateInstalledVariableNames, check_bind_ok, requireWire_eq_ok,
    decide_eq_true_eq, List.all_eq_true, List.contains_iff_mem]

/-- What is installed is no longer than what is declared. -/
theorem installed_le {declaration : WorkloadNodeControlSurfaceDeclaration}
    {installed : List (NodeControlGraphReference .variable)}
    (h : validateInstalledVariableNames declaration installed = .ok ()) :
    installed.length ≤ declaration.surface.declaredVariables.length ∧
      (installed.map (·.value.length)).sum ≤
        (declaration.surface.declaredVariables.map
          (·.variableName.value.length)).sum := by
  obtain ⟨-, -, hnodup, hdeclared⟩ := validateInstalledVariableNames_eq_ok.mp h
  obtain ⟨part, hperm, hpart⟩ :=
    List.subperm_of_subset (List.Nodup.of_map _ hnodup) hdeclared
  have hlength := hpart.length_le
  have hsum : (part.map (·.value.length)).sum ≤ _ :=
    (hpart.map (·.value.length)).sum_le_sum fun _ _ => Nat.zero_le _
  rw [hperm.length_eq, declaredVariableNames, List.length_map] at hlength
  rw [(hperm.map _).sum_nat, declaredVariableNames, List.map_map] at hsum
  exact ⟨hlength, hsum⟩

theorem isDigest_sha256OfBytes (encoded : Bytes) :
    isDigest (sha256OfBytes encoded) = true := by
  simp only [isDigest, sha256OfBytes, Bool.and_eq_true, decide_eq_true_eq,
    List.all_eq_true, String.length_ofList, String.toList_ofList,
    Library.Sha256.hexdigestChars_length, true_and]
  intro c hc
  simpa [Library.Sha256.isHexDigit] using Library.Sha256.isHexDigit_of_mem_hexdigest hc

theorem encodable_result (result : NodeControlSurfaceReadResult)
    (requestDigest identity : String) :
    encodable (result.descriptorOf requestDigest identity) = true := by
  cases result with
  | capabilities request declaration =>
      refine encodable_dict
        (by simp [NodeControlSurfaceReadResult.outcome]) fun entry hentry => ?_
      simp only [NodeControlSurfaceReadResult.outcome, List.cons_append,
        List.nil_append, List.mem_cons, List.not_mem_nil, or_false] at hentry
      rcases hentry with rfl | rfl | rfl | rfl | rfl | rfl | rfl
      all_goals first | rfl | exact encodable_declaration declaration
  | status request declaration installed =>
      refine encodable_dict
        (by simp [NodeControlSurfaceReadResult.outcome]) fun entry hentry => ?_
      simp only [NodeControlSurfaceReadResult.outcome, List.cons_append,
        List.nil_append, List.mem_cons, List.not_mem_nil, or_false] at hentry
      rcases hentry with rfl | rfl | rfl | rfl | rfl | rfl | rfl | rfl
      · rfl
      · rfl
      · rfl
      · rfl
      · rfl
      · rfl
      · refine encodable_list fun item hitem => ?_
        obtain ⟨name, -, rfl⟩ := List.mem_map.mp hitem
        rfl
      · rfl

theorem textWidth_coverage (coverage : NodeControlSurfaceRegistryCoverage) :
    textWidth coverage.value ≤ 10 := by
  cases coverage <;> decide

section Widths

variable {request : NodeControlSurfaceReadRequest}
  {declaration : WorkloadNodeControlSurfaceDeclaration}
  {installed : List (NodeControlGraphReference .variable)}
  {requestDigest identity : String} (hrequest : isIdentifier request.requestId = true)
  (hdigest : isDigest requestDigest = true) (hidentity : isDigest identity = true)

include hdigest hidentity

/-- A capabilities result is the declaration and its claims. -/
theorem width_capabilities :
    width ((NodeControlSurfaceReadResult.capabilities request declaration).descriptorOf
      requestDigest identity) =
        319 + textWidth request.requestId + width declaration.descriptor := by
  have hkeys : keysWidth
      ["profile", "canonicalization", "request_id", "request_digest", "kind",
      "declaration_identity", "declaration"] = 111 := by decide
  have htexts : textWidth NodeControlSurfaceReadResultProfile.v1.value = 46 ∧
      textWidth NodeControlCanonicalization.jcsRfc8785V1.value = 16 ∧
        textWidth NodeControlSurfaceReadKind.capabilities.value = 14 := by decide
  simp only [NodeControlSurfaceReadResult.descriptorOf,
    NodeControlSurfaceReadResult.outcome, NodeControlSurfaceReadResult.request,
    NodeControlSurfaceReadResult.kind, List.cons_append, List.nil_append]
  rw [width_dict (List.cons_ne_nil _ _)]
  simp only [List.map_cons, List.map_nil, List.sum_cons, List.sum_nil, hkeys, htexts,
    width_str, textWidth_digest hdigest, textWidth_digest hidentity]
  linarith

/-- A status result is its names, its coverage and its claims. -/
theorem width_status :
    width
      ((NodeControlSurfaceReadResult.status request declaration installed).descriptorOf
      requestDigest identity) =
        349 + textWidth request.requestId + (installed.map (·.value.length)).sum +
          2 * installed.length + (installed.length - 1) +
            textWidth (deriveRegistryCoverage declaration installed).value := by
  have hkeys : keysWidth ["profile", "canonicalization", "request_id", "request_digest",
      "kind", "declaration_identity", "installed_variable_names", "registry_coverage"] =
      145 := by
    decide
  have htexts : textWidth NodeControlSurfaceReadResultProfile.v1.value = 46 ∧
      textWidth NodeControlCanonicalization.jcsRfc8785V1.value = 16 ∧
        textWidth NodeControlSurfaceReadKind.status.value = 8 := by decide
  have hnames : ((installed.map (.str ·.value)).map width).sum =
      (installed.map (·.value.length)).sum + 2 * installed.length := by
    clear hdigest hidentity
    induction installed with
    | nil => rfl
    | cons name rest ih =>
        have := (graphReference_width name).1
        simp only [List.map_cons, List.sum_cons, List.length_cons, width_str] at ih ⊢
        linarith
  simp only [NodeControlSurfaceReadResult.descriptorOf,
    NodeControlSurfaceReadResult.outcome, NodeControlSurfaceReadResult.request,
    NodeControlSurfaceReadResult.kind, List.cons_append, List.nil_append]
  rw [width_dict (List.cons_ne_nil _ _)]
  simp only [List.map_cons, List.map_nil, List.sum_cons, List.sum_nil, hkeys, htexts,
    width_str, width_list, hnames, List.length_map, textWidth_digest hdigest,
    textWidth_digest hidentity]
  linarith

include hrequest

theorem width_capabilities_le (hsurface : width declaration.surface.descriptor ≤
    maxNodeControlPayloadBytes) :
    width ((NodeControlSurfaceReadResult.capabilities request declaration).descriptorOf
      requestDigest identity) ≤ maxResultBytes .capabilities := by
  rw [maxNodeControlPayloadBytes] at hsurface
  rw [width_capabilities hdigest hidentity, width_declaration, maxResultBytes]
  linarith [textWidth_identifier_le hrequest]

/-- Thirty-three names of the greatest length fit, and more names are shorter. -/
theorem width_status_le
    (hchecks : ∀ declared ∈ declaration.surface.declaredVariables,
      declared.check = .ok ())
    (hsurface : width declaration.surface.descriptor ≤ maxNodeControlPayloadBytes)
    (hinstalled : validateInstalledVariableNames declaration installed = .ok ()) :
    width
      ((NodeControlSurfaceReadResult.status request declaration installed).descriptorOf
      requestDigest identity) ≤ maxResultBytes .status := by
  have hroom := declaredNames_le hchecks hsurface
  obtain ⟨hfewer, hshorter⟩ := installed_le hinstalled
  have hlong : (installed.map (·.value.length)).sum ≤ 128 * installed.length := by
    clear hinstalled hshorter hfewer
    induction installed with
    | nil => exact Nat.le_refl 0
    | cons name rest ih =>
        have := (graphReference_width name).2
        simp only [List.map_cons, List.sum_cons, List.length_cons]
        omega
  have hid := textWidth_identifier_le hrequest
  have hcoverage := textWidth_coverage (deriveRegistryCoverage declaration installed)
  rw [width_status hdigest hidentity, maxResultBytes]
  generalize textWidth request.requestId = idWidth at *
  generalize textWidth (deriveRegistryCoverage declaration installed).value =
    coverageWidth at *
  generalize (installed.map (·.value.length)).sum = total at *
  generalize (declaration.surface.declaredVariables.map
    (·.variableName.value.length)).sum =
    room at *
  omega

end Widths

section Results

variable {dumps : CanonicalJson}

theorem NodeControlSurfaceReadRequest.isIdentifier_requestId
    {request : NodeControlSurfaceReadRequest} (h : request.check dumps = .ok ()) :
    isIdentifier request.requestId = true := by
  rw [check, check_bind_ok] at h
  exact isIdentifier_of_ok h.1

theorem NodeControlSurfaceReadRequest.digest_of_check
    {request : NodeControlSurfaceReadRequest} (h : request.check dumps = .ok ()) :
    ∃ requestDigest, request.canonicalDigest dumps = .ok requestDigest ∧
      isDigest requestDigest = true := by
  rw [check, check_bind_ok, bind_ok] at h
  obtain ⟨-, encoded, hencoded, -⟩ := h
  rw [canonicalDigest, hencoded]
  exact ⟨_, rfl, isDigest_sha256OfBytes encoded⟩

theorem WorkloadNodeControlSurfaceDeclaration.identity_of_constructible
    {declaration : WorkloadNodeControlSurfaceDeclaration}
    (h : declaration.Constructible dumps) :
    ∃ identity, declaration.identity dumps = .ok identity ∧
    isDigest identity = true := by
  obtain ⟨⟨encoded, hencoded⟩, -⟩ := h
  rw [identity, hencoded]
  exact ⟨_, rfl, isDigest_sha256OfBytes encoded⟩

/-- A result whose request and declaration can be built, and that passes its checks up
to its size. -/
structure NodeControlSurfaceReadResult.Fields (dumps : CanonicalJson)
    (result : NodeControlSurfaceReadResult) : Prop where
  request : result.request.check dumps = .ok ()
  declaration : result.declaration.Constructible dumps
  checked : result.checkFields dumps = .ok ()

namespace NodeControlSurfaceReadResult

variable {result : NodeControlSurfaceReadResult}

/-- The descriptor of a result that passes its checks, under two digests. -/
theorem Fields.descriptor_eq (h : result.Fields dumps) :
    ∃ requestDigest identity, result.request.canonicalDigest dumps = .ok requestDigest ∧
      result.declaration.identity dumps = .ok identity ∧ isDigest requestDigest = true ∧
        isDigest identity = true ∧
          result.descriptor dumps =
            .ok (result.descriptorOf requestDigest identity) := by
  obtain ⟨requestDigest, hrequestDigest, hdigest⟩ :=
    NodeControlSurfaceReadRequest.digest_of_check h.request
  obtain ⟨identity, hidentity, hisIdentity⟩ :=
    WorkloadNodeControlSurfaceDeclaration.identity_of_constructible h.declaration
  refine ⟨requestDigest, identity, hrequestDigest, hidentity, hdigest, hisIdentity, ?_⟩
  rw [descriptor, hrequestDigest, ok_bind, hidentity, ok_bind]
  rfl

/-- **No result is wider than its bound.** -/
theorem Fields.width_le (hdumps : FollowsRfc8785 dumps) (h : result.Fields dumps)
    {requestDigest identity : String} (hdigest : isDigest requestDigest = true)
    (hidentity : isDigest identity = true) :
    width (result.descriptorOf requestDigest identity) ≤
      maxResultBytes result.kind := by
  have hrequest := NodeControlSurfaceReadRequest.isIdentifier_requestId h.request
  have hsurface := width_surface hdumps h.declaration
  obtain ⟨-, hchecked⟩ := check_bind_ok.mp h.checked
  cases result with
  | capabilities request declaration =>
      exact width_capabilities_le hrequest hdigest hidentity hsurface
  | status request declaration installed =>
      exact width_status_le hrequest hdigest hidentity h.declaration.2.2 hsurface
        (check_bind_ok.mp hchecked).2

/-- **A result that passes the checks of its fields can be built.** -/
theorem Fields.check_eq_ok (hdumps : FollowsRfc8785 dumps) (h : result.Fields dumps) :
    (∃ descriptor, result.descriptor dumps = .ok descriptor ∧
      Within dumps descriptor (maxResultBytes result.kind)) ∧
      result.check dumps = .ok () := by
  obtain ⟨requestDigest, identity, -, -, hdigest, hidentity, hdescriptor⟩ :=
    h.descriptor_eq
  have hwithin : Within dumps (result.descriptorOf requestDigest identity)
      (maxResultBytes result.kind) :=
    (within_iff hdumps (encodable_result ..)).mpr (h.width_le hdumps hdigest hidentity)
  refine ⟨⟨_, hdescriptor, hwithin⟩, ?_⟩
  rw [check, check_bind_ok, canonicalBytes, hdescriptor, ok_bind, bind_ok]
  simp only [surfaceReadBytes, pure, Except.pure, and_true, bounded_eq_ok_iff]
  exact ⟨h.checked, hwithin⟩

end NodeControlSurfaceReadResult

end Results

/-! ## What the bounds reject -/

/-- **Aggregate bounds.**  A workload grant, a surface-read grant and a surface-read
result that pass the checks of their fields are within their aggregate maximum, so that
they can be built.  A transit grant is exactly when its purpose is not the longest one,
or its fields leave six characters of their bounds. -/
theorem aggregate_bounds_iff {dumps : CanonicalJson} (hdumps : FollowsRfc8785 dumps) :
    (∀ grant : DelegatedWorkloadNodeControlGrant, grant.checkFields = .ok () →
      Within dumps grant.descriptor maxWorkloadGrantBytes ∧
      grant.check dumps = .ok ()) ∧
    (∀ grant : DelegatedWorkloadNodeControlSurfaceReadGrant,
      grant.checkFields = .ok () →
      Within dumps grant.descriptor maxSurfaceReadGrantBytes ∧
      grant.check dumps = .ok ()) ∧
    (∀ result : NodeControlSurfaceReadResult, result.Fields dumps →
      (∃ descriptor, result.descriptor dumps = .ok descriptor ∧
        Within dumps descriptor (maxResultBytes result.kind)) ∧
        result.check dumps = .ok ()) ∧
    ∀ grant : DelegatedGatewayNodeControlTransitGrant, grant.checkFields = .ok () →
      (Within dumps (grant.descriptor grant.derivedAudience) maxTransitGrantBytes ∧
          grant.check dumps = .ok () ↔
        grant.purpose ≠ .workloadNodeControlSurfaceRead ∨ 6 ≤ grant.room) := by
  refine ⟨fun grant hgrant => ?_, fun grant hgrant => ?_, fun result hresult => ?_,
    fun grant hgrant => ?_⟩
  · have hwithin := (within_iff hdumps (encodable_workloadGrant hgrant)).mpr
      (width_workloadGrant hgrant)
    exact ⟨hwithin, DelegatedWorkloadNodeControlGrant.check_eq_ok.mpr ⟨hgrant, hwithin⟩⟩
  · have hwithin := (within_iff hdumps (encodable_surfaceReadGrant hgrant)).mpr
      (width_surfaceReadGrant hgrant)
    exact ⟨hwithin,
      DelegatedWorkloadNodeControlSurfaceReadGrant.check_eq_ok.mpr ⟨hgrant, hwithin⟩⟩
  · exact hresult.check_eq_ok hdumps
  · rw [← transitGrant_within_iff hdumps (fields_of_transit hgrant)]
    exact ⟨And.left, fun hwithin => ⟨hwithin,
      DelegatedGatewayNodeControlTransitGrant.check_eq_ok.mpr ⟨hgrant, hwithin⟩⟩⟩

theorem requireTransitIdentifier_of_accepted {value name : String}
    (transitName : String) (h : requireIdentifier value name = .ok ()) :
    requireTransitIdentifier value transitName = .ok () := by
  rw [requireTransitIdentifier, identifierViolation,
    if_pos (isIdentifier_of_accepted h), publicMaterialViolation_of_accepted h]
  rfl

/-- As long as an identifier can be. -/
def longReference (role : NodeControlGraphReferenceRole) :
    NodeControlGraphReference role :=
  ⟨longName, accepted_longName⟩

/-- As long as a reference can be: the audience of a gateway with a shorter name. -/
def longIssuer : String := "gateway:" ++ longName ++ ":" ++ nameOfLength 118

theorem toList_nameOfLength (n : Nat) :
    (nameOfLength n).toList = 'n' :: List.replicate n '_' :=
  String.toList_ofList

theorem beginsWithPort_longName : beginsWithPort longName = false := by
  rw [beginsWithPort, longName, toList_nameOfLength]
  decide +kernel

theorem requireTransitReference_longIssuer (name : String) :
    requireTransitReference longIssuer name = .ok () := by
  have hshorter : requireIdentifier (nameOfLength 118) "node-control graph reference" =
      .ok () := by
    decide +kernel
  have haudience :=
    deriveAudience_eq (longReference .workspace) ⟨nameOfLength 118, hshorter⟩
  rw [longReference, beginsWithPort_longName, if_neg Bool.false_ne_true] at haudience
  obtain ⟨violation, hviolation, hchecked⟩ := bind_ok.mp haudience
  obtain ⟨hrequired, -⟩ := check_bind_ok.mp hchecked
  rw [requireWire_eq_ok, Bool.and_eq_true, Option.isNone_iff_eq_none] at hrequired
  have hissuer : publicMaterialViolation longIssuer = .ok none :=
    hrequired.2 ▸ escaping_eq_ok.mp hviolation
  have hreference : isReference longIssuer = true := by
    rw [isReference, longIssuer, longName]
    simp only [String.toList_append, toList_nameOfLength]
    decide +kernel
  rw [requireTransitReference, referenceViolation, if_pos hreference, hissuer]
  rfl

/-- A transit grant with every field at its bound. -/
def widestTransitGrant : DelegatedGatewayNodeControlTransitGrant where
  profile := .v1
  canonicalization := .jcsRfc8785V1
  purpose := .workloadNodeControlSurfaceRead
  issuer := longIssuer
  keyId := longName
  attemptId := longName
  workspaceId := longReference _
  graphRevision := longReference _
  gatewayNodeId := longReference _
  target := ⟨longReference _, longReference _, longReference _, longReference _⟩
  variableName := longReference _
  operation := .applyCommand
  commandCodec := some .replaceWeightedRoutingV1
  requestId := longName
  idempotencyKey := longName
  requestDigest :=
    ⟨"0000000000000000000000000000000000000000000000000000000000000000", by decide⟩
  issuedAt := 9007199254740691
  notBefore := 9007199254740692
  expiresAt := 9007199254740991
  jti := longName

theorem widestTransitGrant_fields : widestTransitGrant.checkFields = .ok () := by
  have hname := fun transitName =>
    requireTransitIdentifier_of_accepted transitName accepted_longName
  simp only [DelegatedGatewayNodeControlTransitGrant.checkFields, check_bind_ok]
  refine ⟨requireTransitReference_longIssuer _, hname _, hname _, hname _,
    hname _, hname _, ?_, ?_, rfl, by decide, ?_⟩
  · exact requireWire_eq_ok.mpr (decide_eq_true rfl)
  · exact requireWire_eq_ok.mpr (decide_eq_true rfl)
  · rw [deriveAudience_eq, if_neg (by
      rw [widestTransitGrant, longReference, beginsWithPort_longName]
      exact Bool.false_ne_true)]
    rfl

/-- Fields at their bounds leave no room. -/
theorem room_eq_zero {grant : DelegatedGatewayNodeControlTransitGrant}
    (hreference : grant.issuer.length = 256)
    (hidentifiers : ∀ value ∈ [grant.keyId, grant.attemptId, grant.workspaceId.value,
      grant.graphRevision.value, grant.gatewayNodeId.value, grant.target.nodeId.value,
      grant.target.providerSocketName.value, grant.variableName.value, grant.requestId,
      grant.idempotencyKey, grant.jti], value.length = 128)
    (hcommand : commandRoom grant.operation grant.commandCodec = 0)
    (hepochs : ∀ value ∈ [grant.issuedAt, grant.notBefore, grant.expiresAt],
      epochRoom value = 0) :
    grant.room = 0 := by
  simp only [List.forall_mem_cons] at hidentifiers hepochs
  simp only [DelegatedGatewayNodeControlTransitGrant.room, hreference, hidentifiers,
    hcommand, hepochs]

theorem widestTransitGrant_room : widestTransitGrant.room = 0 := by
  have hname : longName.length = 128 := length_nameOfLength 127
  have hissuer : longIssuer.length = 256 := by
    simp only [longIssuer, String.length_append, hname, length_nameOfLength]
    rfl
  refine room_eq_zero hissuer ?_ (by decide) (by decide)
  simp only [List.forall_mem_cons, widestTransitGrant, longReference]
  exact ⟨hname, hname, hname, hname, hname, hname, hname, hname, hname,
    hname, hname, nofun⟩

/-- Its fields pass their checks, and its size does not. -/
theorem widestTransitGrant_rejected :
    widestTransitGrant.checkFields = .ok () ∧
      widestTransitGrant.check canonicalBytes =
        .error (.transit "transit grant aggregate exceeds the public bound") := by
  have hfields := fields_of_transit widestTransitGrant_fields
  have hroom := widestTransitGrant_room
  have hpurpose : textWidth widestTransitGrant.purpose.value = 36 := by decide
  have hwide : maxTransitGrantBytes <
      width (widestTransitGrant.descriptor widestTransitGrant.derivedAudience) := by
    have := width_transitGrant hfields
    rw [hroom, hpurpose] at this
    rw [maxTransitGrantBytes]
    linarith
  have hbytes : widestTransitGrant.canonicalBytes canonicalBytes =
      .error (.transit "transit grant aggregate exceeds the public bound") := by
    rw [DelegatedGatewayNodeControlTransitGrant.canonicalBytes,
      hfields.audience, ok_bind, transitBytes,
      bounded_of_wide canonicalBytes_follows (encodable_transitGrant hfields _) hwide]
    rfl
  refine ⟨widestTransitGrant_fields, ?_⟩
  have hsplit : widestTransitGrant.check canonicalBytes =
      widestTransitGrant.checkFields >>= fun _ =>
      widestTransitGrant.canonicalBytes canonicalBytes >>= fun _ => pure () := by
    simp only [DelegatedGatewayNodeControlTransitGrant.check,
      DelegatedGatewayNodeControlTransitGrant.checkFields, bind_assoc, pure_bind]
  rw [hsplit, widestTransitGrant_fields, ok_bind, hbytes]
  rfl

/-- A grant for the read leaves room even for the longest purpose. -/
theorem aggregate_bounds_transit :
    (readTransitGrant .workloadNodeControlSurfaceRead).check canonicalBytes = .ok () :=
  (((aggregate_bounds_iff canonicalBytes_follows).2.2.2
    (readTransitGrant .workloadNodeControlSurfaceRead) (by decide)).mpr
      (.inr (by decide))).2

end ControlPlaneKit.NodeControl
