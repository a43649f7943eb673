import ControlPlaneKit.Library.EventFold
import ControlPlaneKit.Library.Outcome
import ControlPlaneKit.Operations.RuntimeEffects
import ControlPlaneKit.Topology.Validation

/-!
# RuntimeEffectUses — the secrets required of an effect and the secrets admitted for it

The two lists agree on everything that comes of a product.  They part over the
certificates and the key of a remote daemon: one list reads them from the registered
authority, the other from the deliveries registered for it.
-/

namespace ControlPlaneKit.Operations

open ControlPlaneKit.Library.EventFold (bind_ok check_bind_ok)
open ControlPlaneKit.Library.Outcome (forM_eq_ok)
open ControlPlaneKit.Library.Ordering (sortedBy sortedBy_perm mem_sortedBy)
open ControlPlaneKit.Library.Text (isCanonicalIdentity)
open ControlPlaneKit.Planning (ActivityId ActivityOperation)
open ControlPlaneKit.Topology

@[simp] theorem requireEffect_eq_ok {condition : Bool} {error : RuntimeEffectError} :
    requireEffect condition error = .ok () ↔ condition = true := by
  cases condition <;> simp [requireEffect]

/-! ## Requests of one intent -/

variable {intent : RuntimeEffectIntent} {effectId : String}
  {request granted : RuntimeEffectRequest} {grants : List SecretResolutionGrant}
  {authority : Option RegisteredRuntimeAuthority}

/-- What a request with grants is, beside the request without. -/
theorem runtimeEffectRequestForIntent_eq_ok
    (hrequest : runtimeEffectRequestForIntent intent effectId [] = .ok request) :
    runtimeEffectRequestForIntent intent effectId grants = .ok granted ↔
      (grants.map (·.referenceUse)).Nodup ∧
        (∀ grant ∈ grants,
          checkGrant intent.source.workspaceId effectId grant = .ok ()) ∧
        granted = { request with
          secretResolutionGrants := sortedBy grantSortKey grants } := by
  simp only [runtimeEffectRequestForIntent, RuntimeEffectRequest.of, check_bind_ok,
    pure, Except.pure, Except.ok.injEq, requireEffect_eq_ok] at hrequest ⊢
  obtain ⟨htext, hstarted, hrequired, hzero, hdeliveries, -, -, hreview, hproducts,
    rfl⟩ := hrequest
  have hsorted :
      (decide ((sortedBy grantSortKey grants).map (·.referenceUse)).Nodup = true) ↔
      (grants.map (·.referenceUse)).Nodup := by
    rw [decide_eq_true_iff]
    exact ((sortedBy_perm grantSortKey grants).map _).nodup_iff
  have hchecked : (sortedBy grantSortKey grants).forM
        (checkGrant intent.source.workspaceId effectId) = .ok () ↔
      ∀ grant ∈ grants,
        checkGrant intent.source.workspaceId effectId grant = .ok () := by
    rw [forM_eq_ok]
    simp only [mem_sortedBy]
  rw [hsorted, hchecked]
  constructor
  · rintro ⟨-, -, -, -, -, huses, hgrants, -, -, rfl⟩
    exact ⟨huses, hgrants, rfl⟩
  · rintro ⟨huses, hgrants, rfl⟩
    exact ⟨htext, hstarted, hrequired, hzero, hdeliveries, huses, hgrants, hreview,
      hproducts, rfl⟩

/-- A request keeps what the intent says of its source and its authority. -/
theorem request_of_intent
    (hrequest : runtimeEffectRequestForIntent intent effectId grants = .ok request) :
    request.source = intent.source ∧ request.effectId = effectId ∧
      request.authorityRef = intent.authorityRef ∧
        request.authorityDeliveries = intent.authorityDeliveries := by
  simp only [runtimeEffectRequestForIntent, RuntimeEffectRequest.of, check_bind_ok,
    pure, Except.pure, Except.ok.injEq] at hrequest
  obtain ⟨-, -, -, -, -, -, -, -, -, rfl⟩ := hrequest
  exact ⟨rfl, rfl, rfl, rfl⟩

/-- What an observer admits: every grant once, for an admitted use, and for this
request. -/
theorem validateGrants_eq_ok :
    validateGrants request = .ok () ↔
      (request.secretResolutionGrants.map (·.referenceUse)).Nodup ∧
        ∀ grant ∈ request.secretResolutionGrants,
          grant.referenceUse ∈ allowedGrantUses request ∧
          grant.isFor request = true := by
  simp [validateGrants, check_bind_ok]

/-- A grant for a request passes the checks the request makes of it. -/
theorem checkGrant_of_isFor {grant : SecretResolutionGrant}
    (h : grant.isFor request = true) :
    checkGrant request.source.workspaceId request.effectId grant = .ok () := by
  simp only [SecretResolutionGrant.isFor, Bool.and_eq_true, decide_eq_true_eq] at h
  obtain ⟨⟨⟨hworkspace, heffect⟩, -⟩, -⟩ := h
  simp [checkGrant, check_bind_ok, hworkspace, heffect]

/-! ## The two lists -/

/-- Only a Postgres query has a password to refer to. -/
theorem passwordReference_eq_none {check : VerificationCheck}
    (h : check.kind ≠ .postgresQuery) : passwordReference check = none := by
  unfold passwordReference
  split
  · exact absurd ‹_› h
  · rfl

/-- **What comes of a product** is listed alike on both sides. -/
theorem allowedUsesOfProduct_eq (material : RuntimeProductMaterial) :
    allowedUsesOfProduct material = requiredUsesOfProduct material := by
  have hchecks : ∀ checks : List VerificationCheck,
      ((checks.filter fun check => check.kind = .postgresQuery).filterMap fun check =>
          (passwordReference check).map fun reference =>
            (reference, SecretUseIntent.postgresPassword)) =
        checks.filterMap fun check =>
          (passwordReference check).map fun reference =>
              (reference, .postgresPassword) := by
    intro checks
    rw [List.filterMap_filter]
    refine List.filterMap_congr fun check _ => ?_
    by_cases hkind : check.kind = .postgresQuery
    · simp [hkind]
    · simp [hkind, passwordReference_eq_none hkind]
  refine congrArg₂ (· ++ ·) (congrArg (· ++ _) ?_) (hchecks _).symm
  refine List.filterMap_congr fun delivery _ => ?_
  cases delivery <;> rfl

/-! ## Where they agree -/

/-- The reference that an authority names for a certificate or for its key. -/
def tlsReferenceOf (authority : Option RegisteredRuntimeAuthority)
    (intent : SecretUseIntent) : Option SecretReference :=
  match (authority.map fun row => row.entry.authority : Option DockerRuntimeAuthority),
      intent with
  | some (.remoteDockerTls _ caCertificate _ _), .dockerRemoteTlsCaCertificate =>
      some caCertificate
  | some (.remoteDockerTls _ _ clientCertificate _),
      .dockerRemoteTlsClientCertificate =>
      some clientCertificate
  | some (.remoteDockerTls _ _ _ clientKey), .dockerRemoteTlsClientKey => some clientKey
  | _, _ => none

/-- A delivery of TLS files is registered for the authority, with the reference so
labelled. -/
def ActivityRealizationContext.DeliversTls (context : ActivityRealizationContext)
    (authorityRef : Option RuntimeAuthorityReference) (label : String)
    (reference : SecretReference) : Prop :=
  ∃ row ∈ context.runtimeAuthorityDeliveries,
    some row.entry.delivery.authorityRef = authorityRef ∧
    row.entry.delivery.deliveryKind = .remoteDockerTlsSecretFiles ∧
      ⟨label, reference⟩ ∈ row.entry.delivery.secretReferences

/-- A product of the request is delivered the secret for the same purpose anyway. -/
def RuntimeEffectRequest.DeliversToProduct (request : RuntimeEffectRequest)
    (use : ReferenceUse) : Prop :=
  ∃ material ∈ request.products,
    ∃ delivery ∈ material.product.runtimeContract.secretDeliveries,
    delivery.reference = use.1 ∧ deliveryIntent delivery = some use.2

/-- What is registered as an authority's delivery is what the authority names: label by
label, the same reference, unless a product is delivered it too. -/
def DeliversAuthority (context : ActivityRealizationContext)
    (request : RuntimeEffectRequest)
    (authority : Option RegisteredRuntimeAuthority) : Prop :=
  ∀ label intent reference, (label, intent) ∈ deliveryIntents →
    ¬ request.DeliversToProduct (reference, intent) →
      (tlsReferenceOf authority intent = some reference ↔
        context.DeliversTls request.authorityRef label reference)

/-- The two lists of an intent's secrets agree: use by use, and so for the grants an
observer is given. -/
structure SecretUsesAgree (intent : RuntimeEffectIntent) (effectId : String)
    (request : RuntimeEffectRequest)
    (authority : Option RegisteredRuntimeAuthority) : Prop where
  uses : ∀ use, use ∈ requiredSecretUsesForRuntimeEffect request authority ↔
    use ∈ allowedGrantUses request
  admitted : ∀ grants : List SecretResolutionGrant,
    (grants.map (·.referenceUse)).Nodup →
    (∀ grant ∈ grants, grant.isFor request = true ∧
      grant.referenceUse ∈ requiredSecretUsesForRuntimeEffect request authority) →
    ∃ granted, runtimeEffectRequestForIntent intent effectId grants = .ok granted ∧
      validateGrants granted = .ok ()
  required : ∀ (grants : List SecretResolutionGrant) (granted : RuntimeEffectRequest),
    runtimeEffectRequestForIntent intent effectId grants = .ok granted →
    validateGrants granted = .ok () →
    ∀ grant ∈ grants, grant.referenceUse ∈
      requiredSecretUsesForRuntimeEffect request authority

theorem mem_requiredSecretUses {use : ReferenceUse} :
    use ∈ requiredSecretUsesForRuntimeEffect request authority ↔
      (∃ material ∈ request.products, use ∈ requiredUsesOfProduct material) ∨
        use ∈ requiredUsesOfAuthority authority := by
  simp [requiredSecretUsesForRuntimeEffect]

theorem mem_allowedGrantUses {use : ReferenceUse} :
    use ∈ allowedGrantUses request ↔
      (∃ delivery ∈ request.authorityDeliveries, use ∈ allowedUsesOfDelivery delivery) ∨
        ∃ material ∈ request.products, use ∈ requiredUsesOfProduct material := by
  simp [allowedGrantUses, allowedUsesOfProduct_eq]

/-- A label stands for one purpose, and a purpose under one label. -/
theorem deliveryIntents_label {label other : String} {intent : SecretUseIntent}
    (h : (label, intent) ∈ deliveryIntents)
    (hother : (other, intent) ∈ deliveryIntents) : label = other := by
  simp only [deliveryIntents, List.mem_cons, Prod.mk.injEq, List.not_mem_nil,
    or_false] at h hother
  obtain ⟨rfl, rfl⟩ | ⟨rfl, rfl⟩ | ⟨rfl, rfl⟩ := h <;> simp_all

theorem deliveryIntents_lookup {label : String} {intent : SecretUseIntent} :
    deliveryIntents.lookup label = some intent ↔ (label, intent) ∈ deliveryIntents := by
  by_cases hca : label = "ca-cert"
  · subst hca
    simp [deliveryIntents, eq_comm]
  by_cases hcert : label = "client-cert"
  · subst hcert
    simp [deliveryIntents, List.lookup_cons, eq_comm]
  by_cases hkey : label = "client-key"
  · subst hkey
    simp [deliveryIntents, List.lookup_cons, eq_comm]
  · simp [deliveryIntents, List.lookup_cons, beq_false_of_ne, hca, hcert, hkey]

/-- An authority requires what it names. -/
theorem mem_requiredUsesOfAuthority {use : ReferenceUse} :
    use ∈ requiredUsesOfAuthority authority ↔
      ∃ label, (label, use.2) ∈ deliveryIntents ∧
      tlsReferenceOf authority use.2 = some use.1 := by
  obtain ⟨reference, intent⟩ := use
  cases authority with
  | none => simp [requiredUsesOfAuthority, tlsReferenceOf]
  | some row =>
      cases hrow : row.entry.authority with
      | localDockerSocket => simp [requiredUsesOfAuthority, tlsReferenceOf, hrow]
      | remoteDockerTls endpoint caCertificate clientCertificate clientKey =>
          cases intent <;>
            simp [requiredUsesOfAuthority, tlsReferenceOf, hrow,
              deliveryIntents, eq_comm]

/-- The deliveries of an intent allow what is registered under the labels. -/
theorem mem_allowedUsesOfDelivery {context : ActivityRealizationContext}
    {use : ReferenceUse}
    (hdeliveries : request.authorityDeliveries = runtimeAuthorityDeliveriesForContext
      context.runtimeAuthorityDeliveries request.authorityRef) :
    (∃ delivery ∈ request.authorityDeliveries, use ∈ allowedUsesOfDelivery delivery) ↔
      ∃ label, (label, use.2) ∈ deliveryIntents ∧
        context.DeliversTls request.authorityRef label use.1 := by
  obtain ⟨reference, intent⟩ := use
  have hmem : ∀ delivery, delivery ∈ request.authorityDeliveries ↔
      ∃ row ∈ context.runtimeAuthorityDeliveries,
        some row.entry.delivery.authorityRef = request.authorityRef ∧
          row.entry.delivery = delivery := by
    intro delivery
    rw [hdeliveries]
    cases request.authorityRef with
    | none => simp [runtimeAuthorityDeliveriesForContext]
    | some authorityRef => simp [runtimeAuthorityDeliveriesForContext, and_assoc]
  have hallowed : ∀ delivery : RuntimeAuthorityAccessDelivery,
      (reference, intent) ∈ allowedUsesOfDelivery delivery ↔
        delivery.deliveryKind = .remoteDockerTlsSecretFiles ∧
          ∃ label, (label, intent) ∈ deliveryIntents ∧
            ⟨label, reference⟩ ∈ delivery.secretReferences := by
    intro delivery
    unfold allowedUsesOfDelivery
    split
    case isTrue hkind =>
      simp only [List.mem_filterMap, Option.map_eq_some_iff, Prod.mk.injEq,
        deliveryIntents_lookup, hkind, true_and]
      constructor
      · rintro ⟨⟨label, reference⟩, hlabelled, intent, hlabel, rfl, rfl⟩
        exact ⟨label, hlabel, hlabelled⟩
      · rintro ⟨label, hlabel, hlabelled⟩
        exact ⟨⟨label, reference⟩, hlabelled, intent, hlabel, rfl, rfl⟩
    case isFalse hkind => simp [hkind]
  constructor
  · rintro ⟨delivery, hdelivery, huse⟩
    obtain ⟨row, hrow, href, rfl⟩ := (hmem delivery).mp hdelivery
    obtain ⟨hkind, label, hlabel, hlabelled⟩ := (hallowed _).mp huse
    exact ⟨label, hlabel, row, hrow, href, hkind, hlabelled⟩
  · rintro ⟨label, hlabel, row, hrow, href, hkind, hlabelled⟩
    exact ⟨_, (hmem _).mpr ⟨row, hrow, href, rfl⟩,
      (hallowed _).mpr ⟨hkind, label, hlabel, hlabelled⟩⟩

/-- Of a product, only a delivery can be for a certificate or a key. -/
theorem deliversToProduct_iff {label : String} {reference : SecretReference}
    {intent : SecretUseIntent} (h : (label, intent) ∈ deliveryIntents) :
    request.DeliversToProduct (reference, intent) ↔
      ∃ material ∈ request.products,
        (reference, intent) ∈ requiredUsesOfProduct material := by
  have hforeign : intent ≠ .ociPullCredential ∧ intent ≠ .postgresPassword := by
    simp only [deliveryIntents, List.mem_cons, Prod.mk.injEq, List.not_mem_nil,
      or_false] at h
    obtain ⟨-, rfl⟩ | ⟨-, rfl⟩ | ⟨-, rfl⟩ := h <;> simp
  refine exists_congr fun material => and_congr_right fun _ => ?_
  rw [← allowedUsesOfProduct_eq]
  simp only [allowedUsesOfProduct, List.mem_append, List.mem_filterMap,
    Option.map_eq_some_iff, Option.mem_toList, Prod.mk.injEq]
  constructor
  · rintro ⟨delivery, hdelivery, hreference, hintent⟩
    exact .inl (.inl ⟨delivery, hdelivery, intent, hintent, hreference, rfl⟩)
  · rintro ((⟨delivery, hdelivery, _, hintent, hreference, rfl⟩ | ⟨_, _, _, hpull⟩) |
      ⟨_, _, _, _, _, hpassword⟩)
    · exact ⟨delivery, hdelivery, hreference, hintent⟩
    · exact absurd hpull.symm hforeign.1
    · exact absurd hpassword.symm hforeign.2

/-- An intent of a context carries the deliveries registered for its authority. -/
theorem authorityDeliveries_of_intent {context : ActivityRealizationContext}
    {repr : String → String} {activityId : ActivityId} {operation : ActivityOperation}
    (hintent : runtimeEffectIntentForContext context repr activityId operation =
      .ok intent) :
    intent.authorityDeliveries = runtimeAuthorityDeliveriesForContext
      context.runtimeAuthorityDeliveries intent.authorityRef := by
  simp only [runtimeEffectIntentForContext, bind_ok, pure, Except.pure,
    Except.ok.injEq] at hintent
  obtain ⟨_, -, _, -, _, -, _, -, _, -, _, -, rfl⟩ := hintent
  rfl

/-- The lists agree use by use exactly where an authority is delivered as it is
named. -/
theorem uses_agree_iff {context : ActivityRealizationContext}
    (hdeliveries : request.authorityDeliveries = runtimeAuthorityDeliveriesForContext
      context.runtimeAuthorityDeliveries request.authorityRef) :
    (∀ use, use ∈ requiredSecretUsesForRuntimeEffect request authority ↔
        use ∈ allowedGrantUses request) ↔
      DeliversAuthority context request authority := by
  simp only [mem_requiredSecretUses, mem_allowedGrantUses,
    mem_allowedUsesOfDelivery hdeliveries, mem_requiredUsesOfAuthority]
  constructor
  · intro hagree label intent reference hlabel hproduct
    rw [deliversToProduct_iff hlabel] at hproduct
    have huse := hagree (reference, intent)
    simp only [hproduct, false_or, or_false] at huse
    constructor
    · intro hnamed
      obtain ⟨other, hother, hdelivers⟩ := huse.mp ⟨label, hlabel, hnamed⟩
      exact deliveryIntents_label hother hlabel ▸ hdelivers
    · intro hdelivers
      obtain ⟨_, _, hnamed⟩ := huse.mpr ⟨label, hlabel, hdelivers⟩
      exact hnamed
  · rintro hdelivers ⟨reference, intent⟩
    by_cases hproduct : ∃ material ∈ request.products,
        (reference, intent) ∈ requiredUsesOfProduct material
    · simp only [hproduct, true_or, or_true]
    · simp only [hproduct, false_or, or_false]
      refine exists_congr fun label => and_congr_right fun hlabel => ?_
      exact hdelivers label intent reference hlabel
        (by rwa [deliversToProduct_iff hlabel])

/-- **The two lists agree exactly where an authority is delivered as it is named.** -/
theorem secretUses_agree_iff {context : ActivityRealizationContext}
    {repr : String → String} {activityId : ActivityId} {operation : ActivityOperation}
    {intent : RuntimeEffectIntent} {effectId : String} {request : RuntimeEffectRequest}
    (authority : Option RegisteredRuntimeAuthority)
    (hintent : runtimeEffectIntentForContext context repr activityId operation =
      .ok intent)
    (hrequest : runtimeEffectRequestForIntent intent effectId [] = .ok request) :
    SecretUsesAgree intent effectId request authority ↔
      DeliversAuthority context request authority := by
  obtain ⟨hsource, heffect, href, hdeliveries⟩ := request_of_intent hrequest
  have hregistered : request.authorityDeliveries = runtimeAuthorityDeliveriesForContext
      context.runtimeAuthorityDeliveries request.authorityRef := by
    rw [hdeliveries, href]
    exact authorityDeliveries_of_intent hintent
  rw [← uses_agree_iff hregistered]
  refine ⟨fun h => h.uses, fun huses => ⟨huses, ?_, ?_⟩⟩
  · intro grants hnodup hgrants
    refine ⟨_, (runtimeEffectRequestForIntent_eq_ok hrequest).mpr ⟨hnodup, ?_, rfl⟩,
      validateGrants_eq_ok.mpr ⟨?_, ?_⟩⟩
    · intro grant hgrant
      rw [← hsource, ← heffect]
      exact checkGrant_of_isFor (hgrants grant hgrant).1
    · exact ((sortedBy_perm grantSortKey grants).map _).nodup_iff.mpr hnodup
    · intro grant hgrant
      obtain ⟨hfor, huse⟩ := hgrants grant (mem_sortedBy.mp hgrant)
      exact ⟨(huses _).mp huse, hfor⟩
  · intro grants granted hgranted hvalid grant hgrant
    obtain ⟨-, -, rfl⟩ := (runtimeEffectRequestForIntent_eq_ok hrequest).mp hgranted
    exact (huses _).mpr
      ((validateGrants_eq_ok.mp hvalid).2 grant (mem_sortedBy.mpr hgrant)).1

/-! ### A daemon whose files no one delivers -/

/-- A runtime on a remote daemon, and nothing else. -/
def remoteHost : RuntimeRecord :=
  { sampleRuntime "host" [] .ownedEphemeral with authorityRef := some ⟨"docker"⟩ }

def hostCa : SecretReference := ⟨"secret://vault/ca", by decide⟩

def hostCert : SecretReference := ⟨"secret://vault/cert", by decide⟩

def hostKey : SecretReference := ⟨"secret://vault/key", by decide⟩

/-- The daemon's authority, as it is registered. -/
def remoteDaemon : RegisteredRuntimeAuthority where
  registrationId := "rauth_1"
  entry :=
    { workspaceId := "ws"
      authorityRef := ⟨"docker"⟩
      runtimeKind := .docker
      authority :=
        .remoteDockerTls "tcp://docker.example:2376" hostCa hostCert hostKey }
  admission := ⟨"operator", "2026-01-01T00:00:00+00:00"⟩
  status := .active

/-- A delivery of everything the authority names. -/
def remoteFiles : RegisteredRuntimeAuthorityDelivery where
  registrationId := "rauthd_1"
  entry :=
    { workspaceId := "ws"
      delivery :=
        { authorityRef := ⟨"docker"⟩
          deliveryKind := .remoteDockerTlsSecretFiles
          secretReferences :=
            [⟨"ca-cert", hostCa⟩, ⟨"client-cert", hostCert⟩, ⟨"client-key", hostKey⟩]
          labelsUnique := by decide
          socketBare := nofun } }
  admission := ⟨"operator", "2026-01-01T00:00:00+00:00"⟩
  status := .active

/-- A run that starts the runtime, with the authority registered and these
deliveries. -/
def remoteContext (deliveries : List RegisteredRuntimeAuthorityDelivery) :
    ActivityRealizationContext where
  workspaceId := "ws"
  requestId := "rq"
  runId := "run"
  planId := "plan"
  baseGraphId := "g1"
  desiredGraphId := "g2"
  baseGraph := .ok (sampleGraph [] [] [])
  desiredGraph := .ok (sampleGraph [] [] [remoteHost])
  registeredProducts := []
  imagePullAuthorities := []
  runtimeAuthorities := [remoteDaemon]
  runtimeAuthorityDeliveries := deliveries
  ingressAuthorities := []
  ingressResources := []
  generatedIngressSecrets := []

theorem host_valid : Library.Text.isBlank "host" = false := by decide

theorem startHost_valid : isCanonicalIdentity "start-host" = true := by decide

def startHost : ActivityOperation := .startRuntime ⟨"host", host_valid⟩

def startsHost : ActivityId := ⟨"start-host", startHost_valid⟩

def hostSource : RuntimeEffectIntentSource := ⟨"ws", "rq", "run", "plan", "g1", "g2"⟩

def hostIntent (deliveries : List RuntimeAuthorityAccessDelivery) :
    RuntimeEffectIntent :=
  ⟨.docker, hostSource, startsHost, startHost, some ⟨"docker"⟩, deliveries, []⟩

/-- What `hostIntent` is asked to do by the event `"ev"`. -/
def hostRequest (deliveries : List RuntimeAuthorityAccessDelivery) :
    RuntimeEffectRequest :=
  { hostIntent deliveries with effectId := "ev", secretResolutionGrants := [] }

theorem hostSource_checks :
    hostSource.check = .ok () ∧ hostSource.checkStarted "ev" = .ok () := by
  decide

theorem remoteContext_intent (deliveries : List RegisteredRuntimeAuthorityDelivery) :
    runtimeEffectIntentForContext
      (remoteContext deliveries) plainRepr startsHost startHost =
      .ok (hostIntent
        (runtimeAuthorityDeliveriesForContext deliveries (some ⟨"docker"⟩))) := by
  have hrun : isCanonicalIdentity "run" = true := by decide
  have hruntime : effectRuntime (sampleGraph [] [] [remoteHost]) "host" =
      .ok remoteHost := by
    have hhost : (sampleGraph [] [] [remoteHost]).runtimes["host"]? = some remoteHost :=
      (sampleGraph_runtime (by simp)).mpr ⟨List.mem_singleton.mpr rfl, rfl⟩
    simp only [effectRuntime, hhost]
  simp only [runtimeEffectIntentForContext, bind_ok]
  exact ⟨(), requireEffect_eq_ok.mpr hrun, _, rfl, "host", rfl,
    remoteHost, hruntime, (), hostSource_checks.1, [], rfl, rfl⟩

/-- One start makes one request, whatever is delivered. -/
theorem remoteContext_request (deliveries : List RuntimeAuthorityAccessDelivery)
    (hchecked : checkDeliveries (some ⟨"docker"⟩) deliveries = .ok ()) :
    runtimeEffectRequestForIntent (hostIntent deliveries) "ev"
      [] = .ok (hostRequest deliveries) := by
  simp only [runtimeEffectRequestForIntent, RuntimeEffectRequest.of, check_bind_ok]
  exact ⟨by decide, hostSource_checks.2, by decide, by decide, hchecked, by decide,
    rfl, rfl, rfl, rfl⟩

/-- A grant for one use of `hostRequest`. -/
def hostGrant (use : ReferenceUse) : SecretResolutionGrant where
  workspaceId := "ws"
  reference := use.1
  intent := use.2
  actorSubject := "worker"
  correlationId := "correlation"
  operationId := some "rq"
  sessionId := none
  runId := some "run"
  activityId := some "start-host"
  effectId := some "ev"
  probeId := none
  authorizationId := "authorization"
  referenceRegistrationId := "reference"
  providerRegistrationId := "provider"
  endpointReference := "vault"
  credentialReference := ⟨"secret://vault/credential", by decide⟩
  intentFingerprint := String.ofList (List.replicate 64 '0')

def hostUses : List ReferenceUse :=
  [(hostCa, .dockerRemoteTlsCaCertificate),
    (hostCert, .dockerRemoteTlsClientCertificate), (hostKey, .dockerRemoteTlsClientKey)]

theorem remoteFiles_delivers :
    DeliversAuthority (remoteContext [remoteFiles])
      (hostRequest [remoteFiles.entry.delivery]) (some remoteDaemon) := by
  intro label intent reference hlabel _
  simp only [deliveryIntents, List.mem_cons, Prod.mk.injEq, List.not_mem_nil,
    or_false] at hlabel
  obtain ⟨rfl, rfl⟩ | ⟨rfl, rfl⟩ | ⟨rfl, rfl⟩ := hlabel <;>
    simp [tlsReferenceOf, remoteDaemon, ActivityRealizationContext.DeliversTls,
      remoteContext, remoteFiles, hostRequest, hostIntent, eq_comm]

/-- With its files delivered as they are named, the daemon's secrets agree. -/
theorem secretUses_agree_remoteFiles :
    SecretUsesAgree (hostIntent [remoteFiles.entry.delivery]) "ev"
      (hostRequest [remoteFiles.entry.delivery]) (some remoteDaemon) :=
  (secretUses_agree_iff (some remoteDaemon) (remoteContext_intent [remoteFiles])
    (remoteContext_request _ (by decide))).mpr remoteFiles_delivers

/-- With no delivery registered the three uses are required, and their grants not
admitted. -/
theorem undelivered_disagrees :
    (∃ baseValid desiredValid,
        IsValid plainRepr defaultGraphCodec (sampleGraph [] [] []) baseValid ∧
          IsValid plainRepr defaultGraphCodec
            (sampleGraph [] [] [remoteHost]) desiredValid) ∧
      runtimeEffectIntentForContext
        (remoteContext []) plainRepr startsHost startHost =
        .ok (hostIntent []) ∧
      runtimeEffectRequestForIntent (hostIntent []) "ev" [] = .ok (hostRequest []) ∧
      runtimeAuthorityForRequest (remoteContext []) (hostRequest []) =
        some (some remoteDaemon) ∧
      requiredSecretUsesForRuntimeEffect (hostRequest []) (some remoteDaemon) =
        hostUses ∧
      runtimeEffectRequestForIntent (hostIntent []) "ev" (hostUses.map hostGrant) =
        .ok { hostRequest [] with secretResolutionGrants := hostUses.map hostGrant } ∧
      validateGrants { hostRequest [] with
        secretResolutionGrants := hostUses.map hostGrant } =
        .error (.contract "runtime observation grant is not admitted") ∧
      ¬ SecretUsesAgree (hostIntent []) "ev" (hostRequest []) (some remoteDaemon) := by
  obtain ⟨baseValid, desiredValid, hbase, hdesired, -⟩ :=
    @exists_validated (sampleGraph [] [] []) (sampleGraph [] [] [remoteHost])
      (fun _ _ => true)
      (by decide)
  have hrequest := remoteContext_request [] (by decide)
  have hrequired :
      requiredSecretUsesForRuntimeEffect (hostRequest []) (some remoteDaemon) =
        hostUses := by
    decide
  have hsorted : sortedBy grantSortKey (hostUses.map hostGrant) =
      hostUses.map hostGrant := by
    decide
  have hgranted : runtimeEffectRequestForIntent (hostIntent []) "ev"
      (hostUses.map hostGrant) =
      .ok { hostRequest [] with secretResolutionGrants := hostUses.map hostGrant } :=
    (runtimeEffectRequestForIntent_eq_ok hrequest).mpr
      ⟨by decide, by decide, by rw [hsorted]⟩
  have hrefused : validateGrants
      { hostRequest [] with secretResolutionGrants := hostUses.map hostGrant } =
        .error (.contract "runtime observation grant is not admitted") := by
    decide
  refine ⟨⟨baseValid, desiredValid, hbase, hdesired⟩, remoteContext_intent [], hrequest,
    rfl, hrequired, hgranted, hrefused, fun hagree => ?_⟩
  have huse : (hostCa, SecretUseIntent.dockerRemoteTlsCaCertificate) ∈
      allowedGrantUses (hostRequest []) :=
    (hagree.uses _).mp (hrequired ▸ List.mem_cons_self)
  exact absurd huse (by decide)

end ControlPlaneKit.Operations
