import ControlPlaneKit.NodeControl.CodecLaws
import ControlPlaneKit.NodeControl.ResultBounds

/-!
# SurfaceReadResultLaws — a result of a read and its wire form

A result that is encoded and read back from JSON is decoded in its context to itself,
whatever the order of the entries.  What a context decodes claims the coverage that
its names have, and is never wider than the widest result of the context.
-/

namespace ControlPlaneKit.NodeControl

open ControlPlaneKit.Library (PyDict PyError PyValue)
open ControlPlaneKit.Library.CanonicalText
open ControlPlaneKit.Library.EventFold (bind_ok check_bind_ok)
open ControlPlaneKit.Library.JsonText
  (reread reread_list reread_none reread_str rereadItems)
open ControlPlaneKit.Library.Outcome (mapM_eq_ok ok_bind)

/-! ## Members of enumerations -/

theorem memberOf_stateCodecs (codec : ControlPlaneStateCodec) (unknown : WireError) :
    memberOf stateCodecs (·.value) unknown codec.value = .ok codec := by
  cases codec <;> rfl

theorem memberOf_resultCodecs (codec : ControlPlaneResultCodec) (unknown : WireError) :
    memberOf resultCodecs (·.value) unknown codec.value = .ok codec := by
  cases codec <;> rfl

theorem memberOf_surfaceReadKinds (kind : NodeControlSurfaceReadKind)
    (unknown : WireError) :
    memberOf surfaceReadKinds (·.value) unknown kind.value = .ok kind := by
  cases kind <;> rfl

theorem memberOf_coverages (coverage : NodeControlSurfaceRegistryCoverage)
    (unknown : WireError) :
    memberOf coverages (·.value) unknown coverage.value = .ok coverage := by
  cases coverage <;> rfl

/-- The text of a member is the member's own. -/
theorem eq_value_of_memberOf {α : Type} {members : List α}
    {value : α → String} {member : α} {unknown : WireError} {text : String}
    (h : memberOf members value unknown text = .ok member) : text = value member := by
  unfold memberOf at h
  split at h
  · rename_i found hfound
    rw [Except.ok.injEq] at h
    have hvalue := List.find?_some hfound
    rw [← h, of_decide_eq_true hvalue]
  · cases h

/-! ## Lists that are read back -/

/-- Each item of a list is decoded, if its descriptor read back is. -/
theorem mapM_reread {α : Type} {decode : PyValue → Except WireError α}
    {describe : α → PyValue} {values : List α}
    (hdecode : ∀ value ∈ values, ∀ w, reread (describe value) w = true →
      decode w = .ok value) :
    ∀ items, rereadItems (values.map describe) items = true →
    items.mapM decode = .ok values := by
  induction values with
  | nil =>
      intro items h
      cases items with
      | nil => rfl
      | cons => simp [rereadItems] at h
  | cons value values ih =>
      intro items h
      cases items with
      | nil => simp [rereadItems] at h
      | cons item items =>
          simp only [List.map_cons, rereadItems, Bool.and_eq_true] at h
          rw [List.mapM_cons, hdecode value (List.mem_cons_self ..) item h.1, ok_bind,
            ih (fun other hother => hdecode other
              (List.mem_cons_of_mem _ hother)) items h.2]
          rfl

theorem length_of_rereadItems : ∀ {items others : List PyValue},
    rereadItems items others = true → others.length = items.length
  | [], [], _ => rfl
  | item :: items, other :: others, h => by
      simp only [rereadItems, Bool.and_eq_true] at h
      rw [List.length_cons, List.length_cons, length_of_rereadItems h.2]

namespace ReadBack

variable {entries others : PyDict} (h : ReadBack entries others)

include h

theorem list (key : String) (items : List PyValue)
    (hmem : (key, .list items) ∈ entries) :
    ∃ found, getValue others key = .list found ∧ rereadItems items found = true := by
  have hreread := h.mem_keys key hmem
  cases hvalue : getValue others key <;> rw [hvalue] at hreread
  case list found => exact ⟨found, rfl, reread_list ▸ hreread⟩
  all_goals simp [reread] at hreread

theorem requireSurfaceReadKeys_eq_ok (expected : List String)
    (hexpected : entries.map (·.1) = expected) (name : String) :
    requireSurfaceReadKeys others expected name = .ok () := by
  have hkeys := h.requireKeys_eq_ok expected hexpected name
  simp only [requireKeys, check_bind_ok, requireWire_eq_ok] at hkeys
  simp only [requireSurfaceReadKeys, requireWire_eq_ok, Bool.and_eq_true]
  exact hkeys

theorem isText_eq_true (text : String) {key : String}
    (hmem : (key, .str text) ∈ entries) : isText text (getValue others key) = true := by
  rw [h.text hmem]
  exact decide_eq_true rfl

theorem resultText_eq_ok (text : String) {key : String}
    (hmem : (key, .str text) ∈ entries) : resultText others key = .ok text := by
  rw [resultText, h.text hmem]
  rfl

end ReadBack

/-! ## Declarations that are read back -/

theorem decodeOperationContract_reread
    {contract : ControlPlaneVariableOperationContract}
    (hcheck : contract.check = .ok ()) {w : PyValue}
    (h : reread contract.descriptor w = true) :
    decodeOperationContract w = .ok contract := by
  obtain ⟨others, rfl, hback⟩ := ReadBack.of_reread (by simp) h
  have hoperation : enumOf operations (·.value) (getValue others "operation")
      "control-plane variable operation" = .ok contract.operation :=
    hback.memberIn_eq_ok (by simp) (memberOf_operations contract.operation)
  have hcodec : enumOf resultCodecs (·.value) (getValue others "result_codec")
      "control-plane variable result codec" = .ok contract.resultCodec :=
    hback.memberIn_eq_ok (by simp) (memberOf_resultCodecs contract.resultCodec)
  simp only [decodeOperationContract, mapping, mappingOf, ok_bind]
  rw [hback.requireKeys_eq_ok ["operation", "command_codec", "result_codec"] rfl,
    ok_bind, hback.optionalCodec contract.commandCodec (by simp), ok_bind,
    hoperation, ok_bind, hcodec, ok_bind]
  simp only [hcheck, ok_bind]
  rfl

/-- A description or `None` is read back. -/
theorem ReadBack.textOrNone_eq_ok {entries others : PyDict}
    (h : ReadBack entries others) (text : Option String) {key : String}
    (hmem : (key, (text.map PyValue.str).getD .none) ∈ entries) (error : WireError) :
    textOrNone error (getValue others key) = .ok text := by
  cases text with
  | none =>
      rw [h.nothing hmem]
      rfl
  | some text =>
      rw [h.text hmem]
      rfl

theorem decodeVariable_reread {declared : ControlPlaneVariableDescriptor}
    (hcheck : declared.check = .ok ()) {w : PyValue}
    (h : reread declared.descriptor w = true) : decodeVariable w = .ok declared := by
  obtain ⟨others, rfl, hback⟩ := ReadBack.of_reread (by simp) h
  simp only [ControlPlaneVariableDescriptor.check, check_bind_ok] at hcheck
  obtain ⟨hcontracts, hcodecs, hdescription⟩ := hcheck
  obtain ⟨items, hitems, hinner⟩ := hback.list "operation_contracts"
    (declared.operationContracts.map (·.descriptor)) (by simp)
  have hdecoded : items.mapM decodeOperationContract =
      .ok declared.operationContracts :=
    mapM_reread (fun contract hcontract w hw =>
      decodeOperationContract_reread
        (Library.Outcome.forM_eq_ok.mp hcontracts contract hcontract) hw) items hinner
  have hkind : enumOf variableKinds (·.value) (getValue others "kind")
      "control-plane variable kind" = .ok declared.kind :=
    hback.memberIn_eq_ok (by simp) (memberOf_variableKinds declared.kind)
  have hcodec : enumOf stateCodecs (·.value) (getValue others "state_codec")
      "control-plane state codec" = .ok declared.stateCodec :=
    hback.memberIn_eq_ok (by simp) (memberOf_stateCodecs declared.stateCodec)
  have hread : readVariable (.dict others) = .ok declared := by
    simp only [readVariable, mapping, mappingOf, ok_bind]
    rw [hback.requireKeys_eq_ok variableKeys rfl, ok_bind,
      requireWire_eq_ok.mpr (hback.isText_eq_true "node-control" (by simp)), ok_bind,
      requireWire_eq_ok.mpr (hback.isText_eq_true "node-controllable" (by simp)),
      ok_bind, hback.textOrNone_eq_ok declared.description (by simp), ok_bind, hitems]
    simp only [listOf, ok_bind, hdecoded]
    rw [hback.decodeGraphReference_eq_ok declared.variableName (by simp), ok_bind,
      hkind, ok_bind, hcodec, ok_bind]
    simp only [hcodecs, ok_bind]
    rfl
  rw [decodeVariable, hread, ok_bind]
  simp only [hdescription, ok_bind]
  rfl

theorem decodeSurfaceVariable_reread {declared : ControlPlaneVariableDescriptor}
    (hcheck : declared.check = .ok ()) {w : PyValue}
    (h : reread declared.descriptor w = true) :
    decodeSurfaceVariable w = .ok declared := by
  have hdecoded := decodeVariable_reread hcheck h
  obtain ⟨others, rfl, -⟩ := ReadBack.of_reread (by simp) h
  exact hdecoded

namespace WorkloadNodeControlSurfaceDescriptor

/-- The variables of a surface make that surface again. -/
theorem ofVariables_self (surface : WorkloadNodeControlSurfaceDescriptor) :
    ofVariables surface.providerSocketName surface.declaredVariables = .ok surface := by
  have hnames : (surface.declaredVariables.map (·.variableName.value)).Nodup :=
    List.pairwise_map.mpr (surface.ordered.imp fun hab => ne_of_lt hab)
  have hsorted : (surface.declaredVariables.mergeSort fun a b =>
      decide (a.variableName.value ≤ b.variableName.value)) =
          surface.declaredVariables :=
    List.mergeSort_of_pairwise (surface.ordered.imp fun hab =>
      decide_eq_true (le_of_lt hab))
  rw [ofVariables, dif_neg surface.nonempty, dif_neg (Nat.not_lt.mpr surface.bounded),
    dif_pos hnames]
  simp only [hsorted]

end WorkloadNodeControlSurfaceDescriptor

section Declared

variable {dumps : CanonicalJson}

theorem decodeSurface_reread {surface : WorkloadNodeControlSurfaceDescriptor}
    (hsize : validateDescriptorSize dumps surface.descriptor
      "node-control surface descriptor" =
      .ok ())
    (hchecks : ∀ declared ∈ surface.declaredVariables, declared.check = .ok ())
    {w : PyValue} (h : reread surface.descriptor w = true) :
    decodeSurface dumps w = .ok surface := by
  obtain ⟨others, rfl, hback⟩ := ReadBack.of_reread (by simp) h
  obtain ⟨items, hitems, hinner⟩ :=
    hback.list "variables" (surface.declaredVariables.map (·.descriptor)) (by simp)
  have hlength : items.length ≤ 128 := by
    rw [length_of_rereadItems hinner, List.length_map]
    exact surface.bounded
  have hdecoded : items.mapM decodeSurfaceVariable = .ok surface.declaredVariables :=
    mapM_reread (fun declared hdeclared w hw =>
      decodeSurfaceVariable_reread (hchecks declared hdeclared) hw) items hinner
  have hread : readSurface (.dict others) =
      .ok (surface.providerSocketName, items) := by
    simp only [readSurface, mapping, mappingOf, ok_bind]
    rw [hback.requireKeys_eq_ok ["provider_socket_name", "variables"] rfl,
      ok_bind, hitems]
    simp only [listOf, ok_bind]
    rw [requireWire_eq_ok.mpr (decide_eq_true hlength), ok_bind,
      hback.decodeGraphReference_eq_ok surface.providerSocketName (by simp)]
    rfl
  rw [decodeSurface, hread, ok_bind]
  simp only [hdecoded, ok_bind, WorkloadNodeControlSurfaceDescriptor.of,
    WorkloadNodeControlSurfaceDescriptor.ofVariables_self, hsize, pure_bind]
  rfl

/-- Bytes of a value that is not too wide. -/
theorem surfaceReadBytes_of_width (hdumps : FollowsRfc8785 dumps) {v : PyValue}
    {maximum : Nat} (hv : encodable v = true) (hwidth : width v ≤ maximum)
    (name : String) :
    ∃ encoded, surfaceReadBytes dumps v maximum name = .ok encoded ∧
    encoded.length = width v := by
  obtain ⟨encoded, hencoded, hlength⟩ := hdumps.dumps_eq hv
  refine ⟨encoded, ?_, hlength⟩
  rw [surfaceReadBytes, boundedCanonicalBytes, hencoded]
  exact if_pos (hlength ▸ hwidth)

/-- **A declaration is read back.** -/
theorem decodeSurfaceDeclaration_reread (hdumps : FollowsRfc8785 dumps)
    {declaration : WorkloadNodeControlSurfaceDeclaration}
    (hbuilt : declaration.Constructible dumps) {w : PyValue}
    (h : reread declaration.descriptor w = true) :
    decodeSurfaceDeclaration dumps w = .ok declaration := by
  obtain ⟨⟨own, hown⟩, hsize, hchecks⟩ := hbuilt
  have hwidth : width declaration.descriptor ≤ maxSurfaceDeclarationBytes :=
    (within_iff hdumps (encodable_declaration declaration)).mp
      (bounded_eq_ok_iff.mp ⟨own, hown⟩)
  obtain ⟨hencodable, hsame⟩ :=
    width_of_reread declaration.descriptor w (encodable_declaration declaration) h
  obtain ⟨encoded, hencoded, -⟩ :=
    surfaceReadBytes_of_width hdumps hencodable (hsame ▸ hwidth) "surface declaration"
  obtain ⟨others, rfl, hback⟩ := ReadBack.of_reread (by simp) h
  have hinner : reread declaration.surface.descriptor (getValue others "surface") =
      true :=
    hback.mem_keys "surface" (by simp)
  obtain ⟨body, hbody, -⟩ := ReadBack.of_reread (by simp) hinner
  have hsurface : decodeSurface dumps (.dict body) = .ok declaration.surface :=
    decodeSurface_reread hsize hchecks (hbody ▸ hinner)
  have hprofile : surfaceReadEnumOf [WorkloadNodeControlSurfaceDeclarationProfile.v1]
      (·.value) "surface declaration profile" (getValue others "profile") =
      .ok declaration.profile :=
    hback.memberIn_eq_ok (by simp) fun _ => rfl
  have hread : readDeclaration dumps (.dict others) =
      .ok (declaration.profile, body) := by
    simp only [readDeclaration, surfaceReadMapping, mappingOf, ok_bind, hencoded]
    rw [hback.requireSurfaceReadKeys_eq_ok ["profile", "surface"] rfl, ok_bind,
      hprofile, ok_bind, hbody]
    rfl
  rw [decodeSurfaceDeclaration, hread, ok_bind]
  simp only [hsurface, caughtContract, Except.mapError, ok_bind, hown]
  rfl

end Declared

/-! ## Coverage -/

section Coverage

variable {declaration : WorkloadNodeControlSurfaceDeclaration}
  {installed : List (NodeControlGraphReference .variable)}

theorem declaredVariableNames_ne_nil
    (declaration : WorkloadNodeControlSurfaceDeclaration) :
    declaredVariableNames declaration ≠ [] :=
  fun hnil => declaration.surface.nonempty (List.map_eq_nil_iff.mp hnil)

/-- All that is declared can be installed. -/
theorem validateInstalledVariableNames_declared
    (declaration : WorkloadNodeControlSurfaceDeclaration) :
    validateInstalledVariableNames declaration (declaredVariableNames declaration) =
      .ok () := by
  have hordered : (declaredVariableNames declaration).Pairwise fun a b =>
      a.value < b.value :=
    List.pairwise_map.mpr declaration.surface.ordered
  refine validateInstalledVariableNames_eq_ok.mpr ⟨?_, ?_, ?_, fun _ hname => hname⟩
  · rw [declaredVariableNames, List.length_map]
    exact declaration.surface.bounded
  · exact (List.mergeSort_of_pairwise
      (hordered.imp fun hab => decide_eq_true (le_of_lt hab))).symm
  · exact List.pairwise_map.mpr (hordered.imp fun hab => ne_of_lt hab)

/-- What a coverage says of the names that are installed. -/
structure NodeControlSurfaceRegistryCoverage.Describes
    (declaration : WorkloadNodeControlSurfaceDeclaration)
    (installed : List (NodeControlGraphReference .variable))
    (coverage : NodeControlSurfaceRegistryCoverage) : Prop where
  complete : coverage = .complete ↔ installed = declaredVariableNames declaration
  nothing : coverage = .nothing ↔ installed = []
  part : coverage = .part ↔
    installed ≠ [] ∧ installed ≠ declaredVariableNames declaration

theorem deriveRegistryCoverage_describes :
    (deriveRegistryCoverage declaration installed).Describes declaration installed := by
  have hdeclared := declaredVariableNames_ne_nil declaration
  unfold deriveRegistryCoverage
  split
  · rename_i hnil
    subst hnil
    exact ⟨⟨nofun, fun h => absurd h.symm hdeclared⟩, ⟨fun _ => rfl, fun _ => rfl⟩,
      ⟨nofun, fun h => absurd rfl h.1⟩⟩
  · rename_i hsome
    split
    · rename_i hall
      exact ⟨⟨fun _ => hall, fun _ => rfl⟩, ⟨nofun, fun h => absurd h hsome⟩,
        ⟨nofun, fun h => absurd hall h.2⟩⟩
    · rename_i hsome'
      exact ⟨⟨nofun, fun h => absurd h hsome'⟩, ⟨nofun, fun h => absurd h hsome⟩,
        ⟨fun _ => ⟨hsome, hsome'⟩, fun _ => rfl⟩⟩

end Coverage

/-! ## The widest result of a context -/

section Widest

variable {dumps : CanonicalJson} {result : NodeControlSurfaceReadResult}

namespace NodeControlSurfaceReadResult

/-- The kind of a result is the kind that its request asks for. -/
theorem Fields.kind_eq (h : result.Fields dumps) :
    result.request.kind = result.kind := by
  obtain ⟨-, hchecked⟩ := check_bind_ok.mp h.checked
  cases result with
  | capabilities request declaration =>
      exact of_decide_eq_true (requireWire_eq_ok.mp hchecked)
  | status request declaration installed =>
      exact of_decide_eq_true (requireWire_eq_ok.mp (check_bind_ok.mp hchecked).1)

/-- The widest result of a context is a result of that context. -/
theorem Fields.widest (h : result.Fields dumps) :
    ∃ widest, widestResult result.request result.declaration = widest ∧
    widest.Fields dumps ∧
      widest.request = result.request ∧ widest.declaration = result.declaration ∧
        widest.kind = result.kind := by
  have hkind := h.kind_eq
  obtain ⟨hcontext, hchecked⟩ := check_bind_ok.mp h.checked
  cases result with
  | capabilities request declaration =>
      have hrequested : request.kind = .capabilities := hkind
      have hwidest : widestResult request declaration =
          .capabilities request declaration := by
        rw [widestResult, hrequested]
      exact ⟨_, hwidest, h, rfl, rfl, rfl⟩
  | status request declaration installed =>
      have hrequested : request.kind = .status := hkind
      have hwidest : widestResult request declaration =
          .status request declaration (declaredVariableNames declaration) := by
        rw [widestResult, hrequested]
      refine ⟨_, hwidest,
        ⟨h.request, h.declaration, check_bind_ok.mpr ⟨hcontext, ?_⟩⟩, rfl, rfl, rfl⟩
      exact check_bind_ok.mpr ⟨requireWire_eq_ok.mpr (decide_eq_true hrequested),
        validateInstalledVariableNames_declared declaration⟩

/-- **No result of a context is wider than the widest one.** -/
theorem Fields.width_le_widest (h : result.Fields dumps)
    {requestDigest identity : String} (hdigest : isDigest requestDigest = true)
    (hidentity : isDigest identity = true) :
    width (result.descriptorOf requestDigest identity) ≤
      width ((widestResult result.request result.declaration).descriptorOf requestDigest
        identity) := by
  have hkind := h.kind_eq
  obtain ⟨-, hchecked⟩ := check_bind_ok.mp h.checked
  cases result with
  | capabilities request declaration =>
      have hrequested : request.kind = .capabilities := hkind
      simp only [NodeControlSurfaceReadResult.request,
        NodeControlSurfaceReadResult.declaration, widestResult, hrequested]
      exact Nat.le_refl _
  | status request declaration installed =>
      have hrequested : request.kind = .status := hkind
      have hinstalled := (check_bind_ok.mp hchecked).2
      obtain ⟨hfewer, hshorter⟩ := installed_le hinstalled
      have hcoverage :=
        textWidth_coverage (deriveRegistryCoverage declaration installed)
      have hall : textWidth (deriveRegistryCoverage declaration
          (declaredVariableNames declaration)).value = 10 := by
        rw [deriveRegistryCoverage_describes.complete.mpr rfl]
        decide
      have hlength : (declaredVariableNames declaration).length =
          declaration.surface.declaredVariables.length := List.length_map ..
      have hsum : ((declaredVariableNames declaration).map (·.value.length)).sum =
          (declaration.surface.declaredVariables.map
            (·.variableName.value.length)).sum := by
        rw [declaredVariableNames, List.map_map]
        rfl
      simp only [NodeControlSurfaceReadResult.request,
        NodeControlSurfaceReadResult.declaration, widestResult, hrequested]
      rw [width_status hdigest hidentity, width_status hdigest hidentity, hall,
        hlength, hsum]
      generalize textWidth (deriveRegistryCoverage declaration installed).value =
        coverage at *
      generalize textWidth request.requestId = idWidth at *
      omega

/-- The canonical bytes of a result are as many as its descriptor is wide. -/
theorem Fields.canonicalBytes_eq (hdumps : FollowsRfc8785 dumps)
    (h : result.Fields dumps) {requestDigest identity : String}
    (hrequestDigest : result.request.canonicalDigest dumps = .ok requestDigest)
    (hidentity : result.declaration.identity dumps = .ok identity) :
    ∃ encoded, result.canonicalBytes dumps = .ok encoded ∧
      encoded.length = width (result.descriptorOf requestDigest identity) := by
  obtain ⟨requestDigest', identity', hrequestDigest', hidentity', hdigest, hisIdentity,
    hdescriptor⟩ := h.descriptor_eq
  rw [hrequestDigest, Except.ok.injEq] at hrequestDigest'
  rw [hidentity, Except.ok.injEq] at hidentity'
  subst hrequestDigest' hidentity'
  rw [canonicalBytes, hdescriptor, ok_bind]
  exact surfaceReadBytes_of_width hdumps (encodable_result ..)
    (h.width_le hdumps hdigest hisIdentity) _

end NodeControlSurfaceReadResult

namespace NodeControlSurfaceReadResultCodec

/-- **The codec of a context** admits as many bytes as the widest result takes. -/
theorem of_eq_ok (hdumps : FollowsRfc8785 dumps) (h : result.Fields dumps)
    {requestDigest identity : String}
    (hrequestDigest : result.request.canonicalDigest dumps = .ok requestDigest)
    (hidentity : result.declaration.identity dumps = .ok identity) :
    of dumps result.request result.declaration =
      .ok ⟨result.request, result.declaration,
      width ((widestResult result.request result.declaration).descriptorOf requestDigest
        identity)⟩ := by
  obtain ⟨hcontext, -⟩ := check_bind_ok.mp h.checked
  obtain ⟨widest, hwidest, hfields, hrequest, hdeclaration, -⟩ := h.widest
  obtain ⟨encoded, hencoded, hlength⟩ := hfields.canonicalBytes_eq hdumps
    (hrequest ▸ hrequestDigest) (hdeclaration ▸ hidentity)
  rw [of, hcontext, ok_bind, deriveContextMaximum, hwidest]
  simp only [built, (hfields.check_eq_ok hdumps).2, ok_bind, pure_bind,
    hencoded, hlength]
  rfl

end NodeControlSurfaceReadResultCodec

end Widest

/-! ## Results that are read back -/

/-- What a result claims of its request and of its declaration. -/
def NodeControlSurfaceReadResult.claims (result : NodeControlSurfaceReadResult)
    (requestDigest identity : String) : PyDict :=
  [("profile", .str NodeControlSurfaceReadResultProfile.v1.value),
    ("canonicalization", .str NodeControlCanonicalization.jcsRfc8785V1.value),
    ("request_id", .str result.request.requestId),
    ("request_digest", .str requestDigest), ("kind", .str result.kind.value),
    ("declaration_identity", .str identity)]

section Read

open NodeControlSurfaceReadResultCodec

variable {dumps : CanonicalJson} {result : NodeControlSurfaceReadResult}
  {requestDigest identity : String}
  (hrequestDigest : result.request.canonicalDigest dumps = .ok requestDigest)
  (hidentity : result.declaration.identity dumps = .ok identity)

theorem keys_result (result : NodeControlSurfaceReadResult)
    (requestDigest identity : String) :
    (result.claims requestDigest identity ++ result.outcome).map (·.1) =
      resultKeys result.kind := by
  cases result <;> rfl

theorem nodup_resultKeys (kind : NodeControlSurfaceReadKind) :
    (resultKeys kind).Nodup := by
  cases kind <;> decide

include hrequestDigest hidentity

theorem validateCommonClaims_reread {others : PyDict}
    (hkind : result.request.kind = result.kind)
    (hback : ReadBack (result.claims requestDigest identity ++ result.outcome) others)
    (maximum : Nat) : validateCommonClaims dumps
      ⟨result.request, result.declaration, maximum⟩ others = .ok () := by
  have hprofile : resultEnumOf [NodeControlSurfaceReadResultProfile.v1] (·.value)
      "surface-read result profile" (getValue others "profile") = .ok .v1 :=
    hback.memberIn_eq_ok (by simp [NodeControlSurfaceReadResult.claims]) fun _ => rfl
  have hcanonicalization : resultEnumOf [NodeControlCanonicalization.jcsRfc8785V1]
        (·.value) "surface-read result canonicalization"
        (getValue others "canonicalization") =
        .ok .jcsRfc8785V1 :=
    hback.memberIn_eq_ok (by simp [NodeControlSurfaceReadResult.claims]) fun _ => rfl
  have hnamed : resultEnumOf surfaceReadKinds (·.value) "surface-read result kind"
      (getValue others "kind") = .ok result.kind :=
    hback.memberIn_eq_ok (by simp [NodeControlSurfaceReadResult.claims])
      (memberOf_surfaceReadKinds result.kind)
  have hmatches : decide (result.kind = result.request.kind) = true :=
    decide_eq_true hkind.symm
  simp only [validateCommonClaims]
  rw [hprofile, ok_bind, hcanonicalization, ok_bind,
    hnamed, ok_bind, requireWire_eq_ok.mpr hmatches, ok_bind,
    hback.resultText_eq_ok result.request.requestId
      (by simp [NodeControlSurfaceReadResult.claims]), ok_bind,
    requireWire_eq_ok.mpr (decide_eq_true rfl), ok_bind,
    hback.resultText_eq_ok requestDigest
      (by simp [NodeControlSurfaceReadResult.claims]), ok_bind,
    hrequestDigest, ok_bind, requireWire_eq_ok.mpr (decide_eq_true rfl), ok_bind,
    hback.resultText_eq_ok identity (by simp [NodeControlSurfaceReadResult.claims]),
    ok_bind, hidentity, ok_bind, requireWire_eq_ok.mpr (decide_eq_true rfl)]

/-- A context reads a descriptor of one of its results, whatever the order of the
entries. -/
theorem readResult_reread (hdumps : FollowsRfc8785 dumps)
    (h : result.Fields dumps) {w : PyValue} (hdigest : isDigest requestDigest = true)
    (hisIdentity : isDigest identity = true)
    (hw : reread (result.descriptorOf requestDigest identity) w = true) {maximum : Nat}
    (hmaximum : width (result.descriptorOf requestDigest identity) ≤ maximum) :
    ∃ others, w = .dict others ∧
      ReadBack (result.claims requestDigest identity ++ result.outcome) others ∧
        readResult dumps ⟨result.request, result.declaration, maximum⟩ w =
          .ok others := by
  have hplain := encodable_result result requestDigest identity
  obtain ⟨hencodable, hwidth⟩ :=
    width_of_reread (result.descriptorOf requestDigest identity) w hplain hw
  have hkeys := keys_result result requestDigest identity
  have hread : reread (.dict (result.claims requestDigest identity ++ result.outcome))
    w = true := hw
  obtain ⟨others, rfl, hback⟩ :=
    ReadBack.of_reread (hkeys ▸ nodup_resultKeys result.kind) hread
  refine ⟨others, rfl, hback, ?_⟩
  obtain ⟨encoded, hencoded, hlength⟩ := surfaceReadBytes_of_width hdumps hencodable
    (hwidth ▸ h.width_le hdumps hdigest hisIdentity) "surface-read result"
  have hshort : encoded.length ≤ maximum := by
    rw [hlength, hwidth]
    exact hmaximum
  have hexpected :=
    hback.requireSurfaceReadKeys_eq_ok _ hkeys (resultMessage result.kind)
  simp only [readResult, surfaceReadMapping, mappingOf, ok_bind, h.kind_eq, hencoded]
  rw [requireWire_eq_ok.mpr (decide_eq_true hshort), ok_bind, hexpected, ok_bind,
    validateCommonClaims_reread hrequestDigest hidentity h.kind_eq hback, ok_bind]
  rfl

omit hrequestDigest hidentity

theorem decodeInstalledName_reread
    {name : NodeControlGraphReference .variable} {w : PyValue}
    (h : reread (.str name.value) w = true) : decodeInstalledName w = .ok name := by
  rw [reread_str.mp h]
  exact NodeControlGraphReference.of_value name

/-- The declaration of a capabilities result is decoded to the declaration of the
context. -/
theorem decodeCapabilities_reread (hdumps : FollowsRfc8785 dumps)
    {request : NodeControlSurfaceReadRequest}
    {declaration : WorkloadNodeControlSurfaceDeclaration}
    (h : (NodeControlSurfaceReadResult.capabilities request declaration).Fields dumps)
    {entries others : PyDict} (hback : ReadBack entries others)
    (hmem : ("declaration", declaration.descriptor) ∈ entries) (maximum : Nat) :
    decodeCapabilities dumps ⟨request, declaration, maximum⟩ others =
      .ok (.capabilities request declaration) := by
  have hinner := hback.mem_keys "declaration" hmem
  obtain ⟨raw, hraw, -⟩ := ReadBack.of_reread (by simp) hinner
  have hdecoded : decodeSurfaceDeclaration dumps (.dict raw) = .ok declaration :=
    decodeSurfaceDeclaration_reread hdumps h.declaration (hraw ▸ hinner)
  simp only [decodeCapabilities, hraw, surfaceReadMapping, mappingOf, ok_bind, hdecoded,
    caughtContract, Except.mapError]
  rw [requireWire_eq_ok.mpr (decide_eq_true trivial), ok_bind, built,
    (h.check_eq_ok hdumps).2]
  rfl

/-- The names of a status result are decoded to themselves, under the coverage they
have. -/
theorem decodeStatus_reread (hdumps : FollowsRfc8785 dumps)
    {request : NodeControlSurfaceReadRequest}
    {declaration : WorkloadNodeControlSurfaceDeclaration}
    {installed : List (NodeControlGraphReference .variable)} (h :
      (NodeControlSurfaceReadResult.status request declaration installed).Fields dumps)
    {entries others : PyDict} (hback : ReadBack entries others)
    (hnames : ("installed_variable_names", .list (installed.map (.str ·.value))) ∈
      entries)
    (hcoverage : ("registry_coverage",
      .str (deriveRegistryCoverage declaration installed).value) ∈ entries)
        (maximum : Nat) :
    decodeStatus dumps ⟨request, declaration, maximum⟩ others =
      .ok (.status request declaration installed) := by
  obtain ⟨-, hchecked⟩ := check_bind_ok.mp h.checked
  have hinstalled := (check_bind_ok.mp hchecked).2
  obtain ⟨items, hitems, hinner⟩ := hback.list "installed_variable_names" _ hnames
  have hlength : items.length ≤ 128 := by
    rw [length_of_rereadItems hinner, List.length_map]
    exact (validateInstalledVariableNames_eq_ok.mp hinstalled).1
  have hdecoded : items.mapM decodeInstalledName = .ok installed :=
    mapM_reread (fun _ _ _ hname => decodeInstalledName_reread hname) items hinner
  have hcovers : resultEnumOf coverages (·.value)
      "surface-read result registry coverage" (getValue others "registry_coverage") =
      .ok (deriveRegistryCoverage declaration installed) :=
    hback.memberIn_eq_ok hcoverage (memberOf_coverages _)
  simp only [decodeStatus, hitems, listOf, ok_bind, hdecoded, caughtContract,
    Except.mapError]
  rw [requireWire_eq_ok.mpr (decide_eq_true hlength), ok_bind, hinstalled, ok_bind,
    hcovers, ok_bind,
    requireWire_eq_ok.mpr (decide_eq_true rfl), ok_bind, built,
    (h.check_eq_ok hdumps).2]
  rfl

/-- **A result that is read back is decoded in its context to itself.** -/
theorem decode_reread (hdumps : FollowsRfc8785 dumps)
    (h : result.Fields dumps) {w : PyValue} {requestDigest identity : String}
    (hrequestDigest : result.request.canonicalDigest dumps = .ok requestDigest)
    (hidentity : result.declaration.identity dumps = .ok identity)
    (hdigest : isDigest requestDigest = true) (hisIdentity : isDigest identity = true)
    (hw : reread (result.descriptorOf requestDigest identity) w = true) {maximum : Nat}
    (hmaximum : width (result.descriptorOf requestDigest identity) ≤ maximum) :
    decode dumps ⟨result.request, result.declaration, maximum⟩ w = .ok result := by
  obtain ⟨others, -, hback, hread⟩ :=
    readResult_reread hrequestDigest hidentity hdumps h hdigest hisIdentity hw hmaximum
  have hkind := h.kind_eq
  rw [decode, hread, ok_bind]
  cases result with
  | capabilities request declaration =>
      have hrequested : request.kind = .capabilities := hkind
      simp only [NodeControlSurfaceReadResult.request,
        NodeControlSurfaceReadResult.declaration, hrequested]
      exact decodeCapabilities_reread hdumps h hback
        (by simp [NodeControlSurfaceReadResult.outcome]) maximum
  | status request declaration installed =>
      have hrequested : request.kind = .status := hkind
      simp only [NodeControlSurfaceReadResult.request,
        NodeControlSurfaceReadResult.declaration, hrequested]
      exact decodeStatus_reread hdumps h hback
        (by simp [NodeControlSurfaceReadResult.outcome])
        (by simp [NodeControlSurfaceReadResult.outcome]) maximum

/-- What is built is what was given. -/
theorem built_eq_ok {given found : NodeControlSurfaceReadResult}
    (h : built dumps given = .ok found) : given = found := by
  obtain ⟨-, -, hfound⟩ := bind_ok.mp h
  cases hfound
  rfl

theorem readResult_eq_ok {codec : NodeControlSurfaceReadResultCodec} {w : PyValue}
    {entries : PyDict} (h : codec.readResult dumps w = .ok entries) :
    w = .dict entries := by
  simp only [readResult, bind_ok] at h
  obtain ⟨found, hfound, -, -, -, -, -, -, -, -, hentries⟩ := h
  cases hentries
  cases w <;> cases hfound
  rfl

theorem decodeCapabilities_eq_ok {codec : NodeControlSurfaceReadResultCodec}
    {entries : PyDict} (h : codec.decodeCapabilities dumps entries = .ok result) :
    result = .capabilities codec.request codec.declaration := by
  simp only [decodeCapabilities, bind_ok] at h
  obtain ⟨-, -, -, -, -, -, hbuilt⟩ := h
  exact (built_eq_ok hbuilt).symm

/-- A status result is read with the coverage that its names have. -/
theorem decodeStatus_eq_ok {codec : NodeControlSurfaceReadResultCodec}
    {entries : PyDict} (h : codec.decodeStatus dumps entries = .ok result) :
    ∃ installed, result = .status codec.request codec.declaration installed ∧
      getValue entries "registry_coverage" =
        .str (deriveRegistryCoverage codec.declaration installed).value := by
  simp only [decodeStatus, bind_ok] at h
  obtain ⟨-, -, -, -, installed, -, -, -, coverage, hcoverage, _, hderived, hbuilt⟩ := h
  refine ⟨installed, (built_eq_ok hbuilt).symm, ?_⟩
  obtain ⟨text, htext, hmember⟩ := bind_ok.mp hcoverage
  have hsame : coverage = deriveRegistryCoverage codec.declaration installed :=
    of_decide_eq_true (requireWire_eq_ok.mp hderived)
  rw [← hsame, ← eq_value_of_memberOf hmember]
  cases hfound : getValue entries "registry_coverage" <;> rw [hfound] at htext
    <;> cases htext
  rfl

/-- **What is decoded claims the coverage that its names have.** -/
theorem coverage_of_decode {codec : NodeControlSurfaceReadResultCodec} {w : PyValue}
    {request : NodeControlSurfaceReadRequest}
    {declaration : WorkloadNodeControlSurfaceDeclaration}
    {installed : List (NodeControlGraphReference .variable)}
    (h : codec.decode dumps w = .ok (.status request declaration installed)) :
    ∃ entries coverage, w = .dict entries ∧
      getValue entries "registry_coverage" =
        .str (NodeControlSurfaceRegistryCoverage.value coverage) ∧
      coverage.Describes declaration installed := by
  obtain ⟨entries, hread, hdecoded⟩ := bind_ok.mp h
  refine ⟨entries, deriveRegistryCoverage declaration installed,
    readResult_eq_ok hread, ?_, deriveRegistryCoverage_describes⟩
  cases hkind : codec.request.kind <;> rw [hkind] at hdecoded
  · cases decodeCapabilities_eq_ok hdecoded
  · obtain ⟨_, hresult, hcoverage⟩ := decodeStatus_eq_ok hdecoded
    cases hresult
    exact hcoverage

end Read

/-! ## Descriptors as they are written -/

theorem rereadItems_self {items : List PyValue}
    (h : ∀ item ∈ items, reread item item = true) : rereadItems items items = true := by
  induction items with
  | nil => rfl
  | cons item items ih =>
      rw [rereadItems, h item (List.mem_cons_self ..),
        ih fun other hother => h other (List.mem_cons_of_mem _ hother)]
      rfl

/-- A dictionary is read back of itself if its values are. -/
theorem reread_dict_self {entries : PyDict} (hkeys : (entries.map (·.1)).Nodup)
    (h : ∀ entry ∈ entries, reread entry.2 entry.2 = true) :
    reread (.dict entries) (.dict entries) = true :=
  reread_of_lookup rfl hkeys (fun _ => rfl) h

theorem reread_codecOrNone_self (codec : Option ControlPlaneCommandCodec) :
    reread (codecOrNone codec) (codecOrNone codec) = true := by
  cases codec with
  | none => exact reread_none.mpr rfl
  | some codec => exact reread_str.mpr rfl

theorem reread_contract_self (contract : ControlPlaneVariableOperationContract) :
    reread contract.descriptor contract.descriptor = true := by
  refine reread_dict_self (by simp) fun entry hentry => ?_
  simp only [List.mem_cons, List.not_mem_nil, or_false] at hentry
  rcases hentry with rfl | rfl | rfl
  · exact reread_str.mpr rfl
  · exact reread_codecOrNone_self contract.commandCodec
  · exact reread_str.mpr rfl

theorem reread_variable_self (declared : ControlPlaneVariableDescriptor) :
    reread declared.descriptor declared.descriptor = true := by
  refine reread_dict_self (by simp) fun entry hentry => ?_
  simp only [List.mem_cons, List.not_mem_nil, or_false] at hentry
  rcases hentry with rfl | rfl | rfl | rfl | rfl | rfl | rfl
  · exact reread_str.mpr rfl
  · exact reread_str.mpr rfl
  · exact reread_str.mpr rfl
  · rw [reread_list]
    refine rereadItems_self fun item hitem => ?_
    obtain ⟨contract, -, rfl⟩ := List.mem_map.mp hitem
    exact reread_contract_self contract
  · exact reread_str.mpr rfl
  · exact reread_str.mpr rfl
  · cases declared.description with
    | none => exact reread_none.mpr rfl
    | some text => exact reread_str.mpr rfl

theorem reread_surface_self (surface : WorkloadNodeControlSurfaceDescriptor) :
    reread surface.descriptor surface.descriptor = true := by
  refine reread_dict_self (by simp) fun entry hentry => ?_
  simp only [List.mem_cons, List.not_mem_nil, or_false] at hentry
  rcases hentry with rfl | rfl
  · exact reread_str.mpr rfl
  · rw [reread_list]
    refine rereadItems_self fun item hitem => ?_
    obtain ⟨declared, -, rfl⟩ := List.mem_map.mp hitem
    exact reread_variable_self declared

theorem reread_declaration_self (declaration : WorkloadNodeControlSurfaceDeclaration) :
    reread declaration.descriptor declaration.descriptor = true := by
  refine reread_dict_self (by simp) fun entry hentry => ?_
  simp only [List.mem_cons, List.not_mem_nil, or_false] at hentry
  rcases hentry with rfl | rfl
  · exact reread_str.mpr rfl
  · exact reread_surface_self declaration.surface

/-- The descriptor of a result is read back of itself. -/
theorem reread_result_self (result : NodeControlSurfaceReadResult)
    (requestDigest identity : String) :
    reread (result.descriptorOf requestDigest identity)
      (result.descriptorOf requestDigest identity) = true := by
  refine reread_dict_self ((keys_result result requestDigest identity).symm ▸
    nodup_resultKeys result.kind) fun entry hentry => ?_
  rcases List.mem_append.mp hentry with hclaim | houtcome
  · simp only [List.mem_cons, List.not_mem_nil, or_false] at hclaim
    rcases hclaim with rfl | rfl | rfl | rfl | rfl | rfl
    all_goals exact reread_str.mpr rfl
  · cases result with
    | capabilities request declaration =>
        simp only [NodeControlSurfaceReadResult.outcome, List.mem_singleton] at houtcome
        exact houtcome ▸ reread_declaration_self declaration
    | status request declaration installed =>
        simp only [NodeControlSurfaceReadResult.outcome, List.mem_cons,
          List.not_mem_nil, or_false] at houtcome
        rcases houtcome with rfl | rfl
        · rw [reread_list]
          refine rereadItems_self fun item hitem => ?_
          obtain ⟨name, -, rfl⟩ := List.mem_map.mp hitem
          exact reread_str.mpr rfl
        · exact reread_str.mpr rfl

/-! ## Results and their contexts -/

/-- A result that can be built is encoded by the codec of its context, within what the
context admits, and what is read back is decoded to it. -/
theorem NodeControlSurfaceReadResult.Fields.survives {dumps : CanonicalJson}
    {result : NodeControlSurfaceReadResult} (hdumps : FollowsRfc8785 dumps)
    (h : result.Fields dumps) : ∃ codec descriptor encoded,
      NodeControlSurfaceReadResultCodec.of dumps result.request result.declaration =
        .ok codec ∧
      codec.encode dumps result = .ok descriptor ∧
      codec.decode dumps descriptor = .ok result ∧
      (∀ w, reread descriptor w = true → codec.decode dumps w = .ok result) ∧
      result.canonicalBytes dumps = .ok encoded ∧
      encoded.length ≤ codec.contextMaximum := by
  obtain ⟨requestDigest, identity, hrequestDigest, hidentity, hdigest, hisIdentity,
      hdescriptor⟩ :=
    h.descriptor_eq
  obtain ⟨encoded, hencoded, hlength⟩ :=
    h.canonicalBytes_eq hdumps hrequestDigest hidentity
  have hcodec :=
    NodeControlSurfaceReadResultCodec.of_eq_ok hdumps h hrequestDigest hidentity
  have hwidth := h.width_le_widest hdigest hisIdentity
  have hdecode :=
      fun w (hw : reread (result.descriptorOf requestDigest identity) w = true) =>
    decode_reread hdumps h hrequestDigest hidentity hdigest hisIdentity hw hwidth
  generalize width ((widestResult result.request result.declaration).descriptorOf
    requestDigest identity) = contextMaximum at hcodec hwidth hdecode
  refine ⟨⟨result.request, result.declaration, contextMaximum⟩,
    result.descriptorOf requestDigest identity, encoded, hcodec, ?_,
    hdecode _ (reread_result_self result requestDigest identity), hdecode, hencoded, ?_⟩
  · have hcontext : NodeControlSurfaceReadResultCodec.validateResultContext
        ⟨result.request, result.declaration, contextMaximum⟩ result = .ok () := by
      simp only [NodeControlSurfaceReadResultCodec.validateResultContext, check_bind_ok,
        requireWire_eq_ok, decide_eq_true_eq]
      exact ⟨h.kind_eq.symm, trivial, trivial⟩
    rw [NodeControlSurfaceReadResultCodec.encode, hcontext, ok_bind]
    exact hdescriptor
  · rw [hlength]
    exact hwidth

/-- **Results survive their wire form in context.**  A result that can be built is
encoded by the codec of its context, and what is read back of the encoding is decoded to
the result.  A status result is decoded only if it is claimed complete exactly when all
that is declared is installed, and nothing exactly when nothing is.  And no result of a
context is longer than the context admits. -/
theorem result_survives {dumps : CanonicalJson} (hdumps : FollowsRfc8785 dumps) :
    (∀ result : NodeControlSurfaceReadResult, result.Fields dumps →
      result.check dumps = .ok () ∧ ∃ codec descriptor encoded,
        NodeControlSurfaceReadResultCodec.of dumps result.request result.declaration =
          .ok codec ∧
        codec.encode dumps result = .ok descriptor ∧
        codec.decode dumps descriptor = .ok result ∧
        (∀ w, reread descriptor w = true → codec.decode dumps w = .ok result) ∧
        result.canonicalBytes dumps = .ok encoded ∧
        encoded.length ≤ codec.contextMaximum) ∧
    ∀ (codec : NodeControlSurfaceReadResultCodec) (w : PyValue)
      (request : NodeControlSurfaceReadRequest)
      (declaration : WorkloadNodeControlSurfaceDeclaration)
      (installed : List (NodeControlGraphReference .variable)),
      codec.decode dumps w = .ok (.status request declaration installed) →
        ∃ entries coverage, w = .dict entries ∧
          getValue entries "registry_coverage" =
            .str (NodeControlSurfaceRegistryCoverage.value coverage) ∧
          coverage.Describes declaration installed :=
  ⟨fun _ h => ⟨(h.check_eq_ok hdumps).2, h.survives hdumps⟩, fun _ _ _ _ _ =>
    coverage_of_decode⟩

/-! ## Results about one scalar variable -/

theorem encodable_surfaceReadRequest (request : NodeControlSurfaceReadRequest) :
    encodable request.descriptor = true := by
  refine encodable_dict (by simp) fun entry hentry => ?_
  simp only [List.mem_cons, List.not_mem_nil, or_false] at hentry
  rcases hentry with rfl | rfl | rfl | rfl | rfl | rfl
  · rfl
  · rfl
  · exact encodable_target _
  · rfl
  · rfl
  · rfl

/-- A request with an identifier is within its bound. -/
theorem width_surfaceReadRequest_le {request : NodeControlSurfaceReadRequest}
    (h : isIdentifier request.requestId = true) : width request.descriptor ≤ 951 := by
  have hkeys : keysWidth
      ["profile", "canonicalization", "target", "kind", "declaration_identity",
      "request_id"] = 88 := by decide
  have hprofile : textWidth request.profile.value = 47 := by
    cases request.profile
    decide
  have hcanonicalization := textWidth_canonicalization request.canonicalization
  have htarget := width_target_le request.target
  have hkind := textWidth_kind request.kind
  have hidentity := textWidth_digest request.declarationIdentity.accepted
  have hid := textWidth_identifier_le h
  rw [NodeControlSurfaceReadRequest.descriptor, width_dict (List.cons_ne_nil _ _)]
  simp only [List.map_cons, List.map_nil, List.sum_cons, List.sum_nil, hkeys, width_str]
  linarith

/-- The bound of a request rejects none that passes the check of its identifier. -/
theorem NodeControlSurfaceReadRequest.check_of_identifier {dumps : CanonicalJson}
    (hdumps : FollowsRfc8785 dumps) {request : NodeControlSurfaceReadRequest}
    (h : requireIdentifierAs .surfaceRead request.requestId "surface-read request_id" =
      .ok ()) :
    request.check dumps = .ok () := by
  obtain ⟨encoded, hencoded, -⟩ := surfaceReadBytes_of_width hdumps
    (encodable_surfaceReadRequest request)
    (width_surfaceReadRequest_le (isIdentifier_of_ok h)) "surface-read request"
  rw [check, h, ok_bind, canonicalBytes, hencoded]
  rfl

/-- A request for a declaration, at its socket. -/
theorem validateContext_of_identity {dumps : CanonicalJson}
    {request : NodeControlSurfaceReadRequest}
    {declaration : WorkloadNodeControlSurfaceDeclaration}
    (hidentity : declaration.identity dumps = .ok request.declarationIdentity.value)
    (hsocket : request.target.providerSocketName =
      declaration.surface.providerSocketName) :
    validateContext dumps request declaration = .ok () := by
  rw [validateContext, hidentity, ok_bind, requireWire_eq_ok.mpr (decide_eq_true rfl),
    ok_bind, requireWire_eq_ok.mpr (decide_eq_true hsocket)]

/-- One scalar variable without a description. -/
def scalarVariable : ControlPlaneVariableDescriptor where
  variableName := shortReference _
  kind := .scalar
  stateCodec := .scalarV1
  operationContracts :=
    [⟨.readState, none, .stateV1⟩, ⟨.applyCommand, some .replaceScalarV1,
      .transitionV1⟩]
  description := none

/-- A surface that declares the variable. -/
def scalarDeclaration : WorkloadNodeControlSurfaceDeclaration where
  surface :=
    { providerSocketName := shortReference _
      declaredVariables := [scalarVariable]
      nonempty := List.cons_ne_nil _ _
      bounded := by decide
      ordered := List.pairwise_singleton _ _ }
  profile := .v1

/-- Ask for the surface, or for what of it is installed. -/
def scalarRequest (kind : NodeControlSurfaceReadKind) :
    NodeControlSurfaceReadRequest where
  target := readRequest.target
  kind := kind
  declarationIdentity :=
    ⟨sha256OfBytes ((canonicalBytes scalarDeclaration.descriptor).getD []),
      isDigest_sha256OfBytes _⟩
  requestId := "a"
  profile := .v1
  canonicalization := .jcsRfc8785V1

/-- Nothing is installed. -/
def emptyStatus : NodeControlSurfaceReadResult :=
  .status (scalarRequest .status) scalarDeclaration []

/-- All of it is. -/
def completeStatus : NodeControlSurfaceReadResult :=
  .status (scalarRequest .status) scalarDeclaration [shortReference _]

def scalarCapabilities : NodeControlSurfaceReadResult :=
  .capabilities (scalarRequest .capabilities) scalarDeclaration

theorem scalarDeclaration_width :
    width scalarDeclaration.surface.descriptor ≤ maxNodeControlPayloadBytes := by
  simp only [WorkloadNodeControlSurfaceDescriptor.descriptor, scalarDeclaration,
    scalarVariable, ControlPlaneVariableDescriptor.descriptor,
    ControlPlaneVariableOperationContract.descriptor, codecOrNone,
    width_dict (List.cons_ne_nil _ _), width_list, width_str, width_none, List.map_cons,
    List.map_nil, Option.map_none, Option.getD_none]
  decide

theorem scalarDeclaration_bytes :
    ∃ encoded, canonicalBytes scalarDeclaration.descriptor =
    some encoded ∧ scalarDeclaration.canonicalBytes canonicalBytes = .ok encoded := by
  have hsurface := scalarDeclaration_width
  obtain ⟨encoded, hencoded, hlength⟩ :=
    canonicalBytes_follows.dumps_eq (encodable_declaration scalarDeclaration)
  have hshort : encoded.length ≤ maxSurfaceDeclarationBytes := by
    rw [hlength, width_declaration, maxSurfaceDeclarationBytes]
    rw [maxNodeControlPayloadBytes] at hsurface
    omega
  refine ⟨encoded, hencoded, ?_⟩
  rw [WorkloadNodeControlSurfaceDeclaration.canonicalBytes, surfaceReadBytes,
    boundedCanonicalBytes, hencoded]
  exact if_pos hshort

theorem scalarDeclaration_constructible :
    scalarDeclaration.Constructible canonicalBytes := by
  obtain ⟨encoded, -, hbytes⟩ := scalarDeclaration_bytes
  refine ⟨⟨encoded, hbytes⟩, validateDescriptorSize_eq_ok.mpr
    ((within_iff canonicalBytes_follows (encodable_surface _)).mpr
      scalarDeclaration_width), ?_⟩
  intro declared hdeclared
  obtain rfl := List.mem_singleton.mp hdeclared
  decide

/-- A result about the surface has its fields, once what it claims is checked. -/
theorem scalarResult_fields {result : NodeControlSurfaceReadResult}
    (hrequest : result.request = scalarRequest result.kind)
    (hdeclaration : result.declaration = scalarDeclaration)
    (houtcome : result.checkOutcome = .ok ()) : result.Fields canonicalBytes where
  request := by
    rw [hrequest]
    exact NodeControlSurfaceReadRequest.check_of_identifier canonicalBytes_follows
      (show requireIdentifierAs .surfaceRead "a" "surface-read request_id" =
        .ok () by decide)
  declaration := hdeclaration ▸ scalarDeclaration_constructible
  checked := by
    obtain ⟨encoded, hencoded, hbytes⟩ := scalarDeclaration_bytes
    have hsame : (scalarRequest result.kind).declarationIdentity.value =
        sha256OfBytes encoded := by
      simp only [scalarRequest, hencoded, Option.getD_some]
    have hidentity : scalarDeclaration.identity canonicalBytes =
        .ok (scalarRequest result.kind).declarationIdentity.value := by
      rw [WorkloadNodeControlSurfaceDeclaration.identity, hbytes, hsame]
      rfl
    have hcontext : validateContext canonicalBytes result.request result.declaration =
        .ok () := by
      rw [hrequest, hdeclaration]
      exact validateContext_of_identity hidentity rfl
    exact check_bind_ok.mpr ⟨hcontext, houtcome⟩

theorem emptyStatus_fields : emptyStatus.Fields canonicalBytes :=
  scalarResult_fields rfl rfl
    (check_bind_ok.mpr ⟨rfl, validateInstalledVariableNames_eq_ok.mpr
    ⟨Nat.zero_le _, by simp, List.nodup_nil, by simp⟩⟩)

theorem completeStatus_fields : completeStatus.Fields canonicalBytes :=
  scalarResult_fields rfl rfl
    (check_bind_ok.mpr ⟨rfl, validateInstalledVariableNames_eq_ok.mpr
    ⟨by decide, (List.mergeSort_singleton _).symm, List.nodup_singleton _, by decide⟩⟩)

theorem scalarCapabilities_fields : scalarCapabilities.Fields canonicalBytes :=
  scalarResult_fields rfl rfl rfl

/-- A status of all that is declared and the capabilities themselves survive, within
their contexts. -/
theorem result_survives_scalar :
    (deriveRegistryCoverage scalarDeclaration [shortReference _] = .complete ∧
      ∃ codec descriptor encoded, NodeControlSurfaceReadResultCodec.of canonicalBytes
          (scalarRequest .status) scalarDeclaration = .ok codec ∧
        codec.encode canonicalBytes completeStatus = .ok descriptor ∧
        codec.decode canonicalBytes descriptor = .ok completeStatus ∧
        completeStatus.canonicalBytes canonicalBytes = .ok encoded ∧
        encoded.length ≤ codec.contextMaximum) ∧
      ∃ codec descriptor encoded, NodeControlSurfaceReadResultCodec.of canonicalBytes
          (scalarRequest .capabilities) scalarDeclaration = .ok codec ∧
        codec.encode canonicalBytes scalarCapabilities = .ok descriptor ∧
        codec.decode canonicalBytes descriptor = .ok scalarCapabilities ∧
        scalarCapabilities.canonicalBytes canonicalBytes = .ok encoded ∧
        encoded.length ≤ codec.contextMaximum := by
  obtain ⟨hsurvives, -⟩ := result_survives canonicalBytes_follows
  obtain ⟨-, codec, descriptor, encoded, hcodec, hencode, hdecode, -,
      hencoded, hlength⟩ :=
    hsurvives completeStatus completeStatus_fields
  obtain ⟨-, codec', descriptor', encoded', hcodec', hencode', hdecode', -,
      hencoded', hlength'⟩ :=
    hsurvives scalarCapabilities scalarCapabilities_fields
  exact ⟨⟨by decide, codec, descriptor, encoded, hcodec, hencode, hdecode,
    hencoded, hlength⟩, codec', descriptor', encoded', hcodec', hencode', hdecode',
    hencoded', hlength'⟩

/-- A status result with nothing installed is admitted, and covers no part. -/
theorem emptyStatus_covers_nothing : emptyStatus.check canonicalBytes = .ok () ∧
    (∃ codec descriptor,
      NodeControlSurfaceReadResultCodec.of canonicalBytes (scalarRequest .status)
          scalarDeclaration = .ok codec ∧
      codec.encode canonicalBytes emptyStatus = .ok descriptor ∧
      codec.decode canonicalBytes descriptor = .ok emptyStatus) ∧
    [] ≠ declaredVariableNames scalarDeclaration ∧
    deriveRegistryCoverage scalarDeclaration [] ≠ .part := by
  obtain ⟨codec, descriptor, -, hcodec, hencode, hdecode, -⟩ :=
    emptyStatus_fields.survives canonicalBytes_follows
  exact ⟨(emptyStatus_fields.check_eq_ok canonicalBytes_follows).2,
    ⟨codec, descriptor, hcodec, hencode, hdecode⟩, by decide, by decide⟩

end ControlPlaneKit.NodeControl
