import ControlPlaneKit.Library.Outcome
import ControlPlaneKit.Operations.SecretCustody
import ControlPlaneKit.Topology.HexDigests

/-!
# SecretCustodyLaws — when a custody grant is given and its secret admitted

A grant's identities are digests under a tag, so what they are checked by holds of
every grant: a provider that admits a reference grants its custody, and a receipt
that matches the grant is admitted.
-/

namespace ControlPlaneKit.Operations

open ControlPlaneKit.Library (PyValue)
open ControlPlaneKit.Library.EventFold (bind_ok)
open ControlPlaneKit.Library.Outcome (forM_eq_ok ok_bind)
open ControlPlaneKit.Library.Sha256 (isHexDigit)
open ControlPlaneKit.Library.Text
  (forall_mem_of_all isAsciiLower isCanonicalIdentity isReference
  isReferenceTail)
open ControlPlaneKit.Topology

/-! ## Digests -/

theorem semanticsDigest_of_renderable {value : PyValue}
    (h : PyValue.isRenderable value = true) :
    ∃ text, semanticsDigest value = .ok (sha256Hexdigest text) := by
  obtain ⟨text, htext⟩ := (PyValue.succeeds_dumps PyValue.JsonStyle.compact value).mpr h
  rw [semanticsDigest, htext]
  exact ⟨String.ofList text, rfl⟩

/-- The characters of a custody's identity. -/
def custodyAlphabet : List Char := "0123456789abcdefscut_".toList

theorem mem_custodyAlphabet {c : Char} (h : isHexDigit c = true) :
    c ∈ custodyAlphabet := by
  have hmem : ∀ n < 103, (48 ≤ n ∧ n ≤ 57) ∨ 97 ≤ n →
    Char.ofNat n ∈ custodyAlphabet := by decide
  simp only [isHexDigit, Bool.or_eq_true, Bool.and_eq_true, decide_eq_true_eq] at h
  rw [← Char.ofNat_toNat c]
  exact hmem _ (by omega) (by omega)

/-- A custody's identity holds no marker of a secret. -/
theorem hasSecretMarker_custodyId (text : String) :
    hasSecretMarker ("scust_" ++ sha256Hexdigest text) = false := by
  have hchars : ∀ c ∈ ("scust_" ++ sha256Hexdigest text).toList,
      c ∈ custodyAlphabet := by
    intro c hc
    rw [String.toList_append] at hc
    rcases List.mem_append.mp hc with htag | hdigit
    · have htags : ∀ c ∈ "scust_".toList, c ∈ custodyAlphabet :=
        forall_mem_of_all (by decide)
      exact htags c htag
    · exact mem_custodyAlphabet ((sha256Hexdigest_chars text).2 c hdigit)
  have hlower : ∀ c ∈ custodyAlphabet, c.toLower ∈ custodyAlphabet :=
    forall_mem_of_all (by decide)
  have hmarkers : ∀ marker ∈ secretValueMarkers,
      (marker.toList.any fun c => decide (c ∉ custodyAlphabet)) = true := by
    decide
  rw [hasSecretMarker, List.any_eq_false]
  intro marker hmarker
  obtain ⟨c, hc, hnot⟩ := List.any_eq_true.mp (hmarkers marker hmarker)
  rw [Bool.not_eq_true, decide_eq_false_iff_not]
  intro hinfix
  have hin := hinfix.subset hc
  change c ∈ (String.map Char.toLower _).toList at hin
  rw [String.toList_map] at hin
  obtain ⟨d, hd, rfl⟩ := List.mem_map.mp hin
  exact of_decide_eq_true hnot (hlower d (hchars d hd))

/-! ## Texts -/

theorem requireThat_of {condition : Bool} {error : ServiceError}
    (h : condition = true) : requireThat condition error = .ok () :=
  requireThat_eq_ok.mpr h

theorem requireIdentifier_of_reference {value field : String}
    (h : isReference value = true) : requireIdentifier value field = .ok () :=
  requireThat_eq_ok.mpr h

theorem requireBoundedText_of_reference {value field : String} {maximum : Nat}
    (h : isReference value = true) (hmaximum : 128 ≤ maximum) :
    requireBoundedText value field maximum = .ok () := by
  have hchars := h
  rw [isReference] at hchars
  cases hvalue : value.toList with
  | nil => simp [hvalue] at hchars
  | cons c cs =>
      simp only [hvalue, Bool.and_eq_true, decide_eq_true_eq,
        List.all_eq_true] at hchars
      obtain ⟨⟨hhead, htail⟩, hlength⟩ := hchars
      have hnonempty : value ≠ "" := by
        rintro rfl
        cases hvalue
      have hprintable : ∀ d ∈ c :: cs, 32 ≤ d.toNat := by
        intro d hd
        rcases List.mem_cons.mp hd with rfl | hd
        · simp only [isAsciiLower, Bool.and_eq_true, decide_eq_true_eq] at hhead
          omega
        · have hpart := htail d hd
          simp only [isReferenceTail, isAsciiLower, Bool.or_eq_true, Bool.and_eq_true,
            decide_eq_true_eq] at hpart
          rcases hpart with (((hd | hd) | rfl) | rfl) | rfl
          · omega
          · omega
          all_goals decide
      refine requireThat_eq_ok.mpr ?_
      rw [← String.length_toList, hvalue, List.length_cons]
      simp only [hnonempty, ne_eq, not_false_eq_true, decide_true, Bool.true_and,
        Bool.and_eq_true, decide_eq_true_eq, List.all_eq_true]
      exact ⟨by omega, hprintable⟩

/-! ## Grants -/

/-- What the grant for a reference says. -/
structure GrantOf (provider : RegisteredSecretProvider) (course : CustodyCourse)
    (reference : SecretReference) (intent : SecretUseIntent)
    (grant : SecretCustodyGrant) : Prop where
  custody : ∃ text, grant.custodyId = "scust_" ++ sha256Hexdigest text
  workspace : grant.workspaceId = course.workspaceId
  registration : grant.providerRegistrationId = provider.registrationId
  endpoint : grant.endpointReference = provider.material.endpointReference
  credential : grant.credentialReference = provider.material.credentialReference
  reference : grant.reference = reference
  intent : grant.intent = intent
  actor : grant.actorSubject = course.actorSubject

/-- A provider that a course of work may use, and that takes the reference. -/
structure Grantable (provider : RegisteredSecretProvider) (course : CustodyCourse)
    (reference : SecretReference) (intent : SecretUseIntent) : Prop where
  workspace : isReference course.workspaceId = true
  actor : isReference course.actorSubject = true
  run : isCanonicalIdentity course.runId = true
  scope : course.actorScopes.contains .secretProviderUse = true
  same : provider.scope = course.workspaceId
  registration : isReference provider.registrationId = true
  admits : validateReferenceAdmission
    (custodyCandidate provider course reference intent) provider =
    .ok ()

variable {provider : RegisteredSecretProvider} {course : CustodyCourse}
  {reference : SecretReference} {intent : SecretUseIntent}

theorem Grantable.correlation (h : Grantable provider course reference intent) :
    ∃ correlationId,
      secretCustodyCorrelationFor course provider.registrationId reference intent =
      .ok correlationId ∧ isCanonicalIdentity correlationId = true := by
  have hdigest := @isCanonicalIdentity_tagged "secret-custody:" (by decide) (by decide)
    (String.ofList ('\x7b' :: objectTail
      (course.correlationSemantics provider.registrationId reference intent)))
  refine ⟨_, ?_, hdigest⟩
  simp only [secretCustodyCorrelationFor, requireIdentifier_of_reference h.workspace,
    requireIdentifier_of_reference h.registration,
    requireIdentifier_of_reference h.actor, requireThat_of h.run, ok_bind]
  rfl

theorem secretCustodyGrantFor_spec {correlationId : String} {grant : SecretCustodyGrant}
    (h : secretCustodyGrantFor provider course reference intent correlationId =
      .ok grant) :
    GrantOf provider course reference intent grant := by
  simp only [secretCustodyGrantFor, bind_ok] at h
  obtain ⟨⟨⟩, -, ⟨⟩, -, ⟨⟩, -, ⟨⟩, -, ⟨⟩, -, ⟨⟩, -, ⟨⟩, -, hpure⟩ := h
  cases hpure
  exact ⟨⟨_, rfl⟩, rfl, rfl, rfl, rfl, rfl, rfl, rfl⟩

theorem Grantable.grant (h : Grantable provider course reference intent)
    {correlationId : String} (hcorrelation : isCanonicalIdentity correlationId = true) :
    ∃ grant, secretCustodyGrantFor provider course reference intent correlationId =
      .ok grant := by
  simp only [secretCustodyGrantFor, requireSecretScope, requireThat_of h.scope,
    requireIdentifier_of_reference h.workspace,
    requireIdentifier_of_reference h.registration,
    requireIdentifier_of_reference h.actor, requireThat_of hcorrelation,
    requireThat_of (decide_eq_true h.same), h.admits, ok_bind]
  exact ⟨_, rfl⟩

/-! ## Admission -/

/-- A receipt whose version may be recorded. -/
structure Recordable (receipt : SecretCustodyReceipt) : Prop where
  version : isReference receipt.versionId = true
  unmarked : hasSecretMarker receipt.versionId = false
  number : PyValue.printable receipt.versionNumber = true

/-- What is recorded of a receipt that matches its grant. -/
theorem checkMetadata_receipt {grant : SecretCustodyGrant}
    {receipt : SecretCustodyReceipt}
    (hgrant : GrantOf provider course reference intent grant)
    (hmatches : receipt.matchesGrant grant = true) (hreceipt : Recordable receipt) :
    checkMetadata
      [ ("custody_id", .str receipt.custodyId)
      , ("provider_version_id", .str receipt.versionId)
      , ("provider_version_number", .int receipt.versionNumber) ] = .ok () := by
  simp only [SecretCustodyReceipt.matchesGrant, Bool.and_eq_true,
    decide_eq_true_eq] at hmatches
  obtain ⟨text, hcustody⟩ := hgrant.custody
  have hentry :
      ∀ key ∈ ["custody_id", "provider_version_id", "provider_version_number"],
      isReference key = true ∧
      (!secretShapedMetadataKeys.contains (key.toLower.map fun character =>
        if character = '-' then '_' else character)) = true := by decide +kernel
  have htext : ∀ key ∈ ["custody_id", "provider_version_id", "provider_version_number"],
      ∀ value, isReference value = true → hasSecretMarker value = false →
      metadataEntry key (.str value) = .ok () := by
    intro key hkey value hvalue hmarker
    simp only [metadataEntry, requireThat_of (hentry key hkey).1,
      requireThat_of (hentry key hkey).2, requireBoundedText_of_reference hvalue
        (show 128 ≤ 512 by decide), hmarker, ok_bind]
    rfl
  have hid : metadataEntry "custody_id" (.str receipt.custodyId) = .ok () := by
    rw [hmatches.1.1, hcustody]
    exact htext _ (by simp) _ (isReference_tagged (by decide) (by decide) _)
      (hasSecretMarker_custodyId text)
  have hnumber : metadataEntry "provider_version_number" (.int receipt.versionNumber) =
      .ok () := by
    obtain ⟨hnamed, hplain⟩ := hentry "provider_version_number" (by simp)
    simp only [metadataEntry, requireThat_of hnamed, requireThat_of hplain, ok_bind]
  have hlength : requireThat (decide ([ ("custody_id", PyValue.str receipt.custodyId)
      , ("provider_version_id", .str receipt.versionId)
      , ("provider_version_number", .int receipt.versionNumber) ].length ≤ 32))
      (.base "metadata must be a bounded mapping") = .ok () := rfl
  rw [checkMetadata, hlength, ok_bind]
  refine forM_eq_ok.mpr fun entry hmem => ?_
  simp only [List.mem_cons, List.not_mem_nil, or_false] at hmem
  rcases hmem with rfl | rfl | rfl
  · exact hid
  · exact htext _ (by simp) _ hreceipt.version hreceipt.unmarked
  · exact hnumber

/-- **A receipt that matches its grant is admitted.** -/
theorem generatedSecretReferenceCandidate_ok {grant : SecretCustodyGrant}
    {receipt : SecretCustodyReceipt} {admittedAt : String}
    (h : Grantable provider course reference intent)
    (hgrant : GrantOf provider course reference intent grant)
    (hmatches : receipt.matchesGrant grant = true) (hreceipt : Recordable receipt)
    (hadmitted : requireBoundedText admittedAt "admitted_at" 128 = .ok ()) :
    ∃ text material, generatedSecretReferenceCandidate grant receipt admittedAt =
      .ok (newRegistration ("sref_" ++ sha256Hexdigest text) grant.workspaceId
        grant.reference
        material none grant.actorSubject admittedAt) := by
  have hworkspace : isReference grant.workspaceId = true :=
    hgrant.workspace ▸ h.workspace
  have hregistration : isReference grant.providerRegistrationId = true :=
    hgrant.registration ▸ h.registration
  have hactor : isReference grant.actorSubject = true := hgrant.actor ▸ h.actor
  have hintents : secretIntents [grant.intent] = .ok [grant.intent] := by
    simp [secretIntents, requireThat, List.dedup_cons_of_notMem]
  obtain ⟨text, hdigest⟩ := @semanticsDigest_of_renderable (referenceSemantics
    grant.workspaceId grant.reference none
    { providerRegistrationId := grant.providerRegistrationId
      allowedIntents := [grant.intent]
      metadata :=
        [ ("custody_id", .str receipt.custodyId)
        , ("provider_version_id", .str receipt.versionId)
        , ("provider_version_number", .int receipt.versionNumber) ] })
    (by simp [referenceSemantics, strings, strOrNone, PyValue.isRenderable,
      PyValue.isRenderableEntries, PyValue.isRenderableItems, hreceipt.number])
  refine ⟨text,
    { providerRegistrationId := grant.providerRegistrationId
      allowedIntents := [grant.intent]
      metadata :=
        [ ("custody_id", .str receipt.custodyId)
        , ("provider_version_id", .str receipt.versionId)
        , ("provider_version_number", .int receipt.versionNumber) ] }, ?_⟩
  simp only [generatedSecretReferenceCandidate,
    RegisterSecretReferenceCommand.candidate, requireThat_of hmatches,
    requireIdentifier_of_reference hworkspace, requireIdentifier_of_reference
    hregistration, requireIdentifier_of_reference hactor, hintents,
    checkMetadata_receipt hgrant hmatches hreceipt, hdigest, hadmitted,
    checkSupersedes, ok_bind]
  rfl

end ControlPlaneKit.Operations
