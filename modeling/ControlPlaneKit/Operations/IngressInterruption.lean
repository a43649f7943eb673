import ControlPlaneKit.Operations.IngressProgress
import ControlPlaneKit.Topology.Validation

/-!
# IngressInterruption — what an interrupted removal leaves

A removal that stops after its row was marked leaves a row that is not active, and
such a row blocks its ingress: no removal takes it up, and no allocation passes it.
A row that is active can be removed, and once it is removed the ingress is free again.

## Main results

* `interrupted_removal` — what a later removal and a later allocation meet.
* `interrupted_removal_refused` — a run whose interrupted removal cannot be finished.
-/

namespace ControlPlaneKit.Operations

open ControlPlaneKit.Library (TextMap)
open ControlPlaneKit.Library.EventFold (bind_ok)
open ControlPlaneKit.Library.Interleaved (Program)
open ControlPlaneKit.Library.Lanes
open ControlPlaneKit.Library.Outcome (ok_bind)
open ControlPlaneKit.Library.Text (isCanonicalIdentity isReference)
open ControlPlaneKit.Topology
open IngressResourceStore

namespace IngressRealizationAdapter

variable {adapter : IngressRealizationAdapter} {turns more : List IngressTurn}
  {key : IngressKey}

theorem run_append : adapter.run (turns ++ more) =
    (adapter.run turns).run IngressActivity.key adapter.execute
      IngressSurroundings.apply more :=
  List.foldl_append

/-- An activity that is started and takes its steps while nothing else does. -/
theorem run_driven {activity : IngressActivity} {inputs : List IngressAnswers}
    {left : IngressProgram IngressAnswer} {t : IngressStores}
    (h : Drives (adapter.execute activity) (adapter.run turns).shared inputs left t) :
    adapter.run (turns ++ .start activity :: inputs.map (.step activity.key)) =
      ⟨t, Function.update (adapter.run turns).lanes activity.key
        (some ⟨activity, (adapter.run turns).shared, left⟩)⟩ := by
  rw [run_append, World.run, List.foldl_cons]
  have hlane : ((adapter.run turns).take IngressActivity.key adapter.execute
      IngressSurroundings.apply (.start activity)).lanes activity.key =
        some ⟨activity, (adapter.run turns).shared, adapter.execute activity⟩ :=
    Function.update_self _ _ _
  refine (World.run_drives h ?_ hlane).trans ?_
  · rfl
  · rw [World.take, Function.update_idem]

/-! ## What later activities meet -/

/-- What an allocation that is started after the run ends with. -/
def NextAllocation (adapter : IngressRealizationAdapter) (turns : List IngressTurn)
    (key : IngressKey) (ends : IngressAnswer → Prop) : Prop :=
  ∀ more (activity : IngressActivity) answer, (adapter.run (turns ++ more)).lanes key =
      some ⟨activity, (adapter.run turns).shared, .done answer⟩ →
    activity.operation = .allocate → ends answer

/-- What an interrupted removal leaves to later activities. -/
structure Resumable (adapter : IngressRealizationAdapter)
    (turns : List IngressTurn) : Prop where
  /-- An active row has its evidence under the run, the activity and the event it
  names. -/
  documented : ∀ row ∈ (adapter.run turns).shared.resources, row.status = .active →
    ∃ evidence, GeneratedIngressSecretStore.getBySource
      (adapter.run turns).shared.generated row.source = .ok evidence
  /-- A removal that is in force reaches the teardown of an active row. -/
  reaches : ∀ (activity : IngressActivity) row, activity.operation = .remove →
    ActiveRow (rowsOf (adapter.run turns).shared.resources activity.key) row →
    row.lifecycle = .ephemeral →
    ∀ force : RemovalInForce adapter activity.context activity.ingressId
      (adapter.run turns).shared,
    force.Covers row → ∀ a b c d e f g : IngressAnswers,
    (∀ answers ∈ [a, b, c, d, e, f],
      Obliging activity.context force.authority.entry.authority answers) →
    ∃ call, (call = .tornDown row.coordinates ∨
      call = .teardownRaised row.coordinates) ∧
      CallsSince activity.key (adapter.run turns).shared
        (adapter.run (turns ++ .start activity ::
          [a, b, c, d, e, f, g].map (.step activity.key))).shared [call]
  /-- A row that is not removed blocks its ingress: no allocation passes it. -/
  blocked : ∀ key, Blocked (rowsOf (adapter.run turns).shared.resources key) →
    NextAllocation adapter turns key fun answer =>
      recordedKind answer = .unsupported ∨ recordedKind answer = .uncertain
  /-- A removal that finds no active row does nothing. -/
  refused : ∀ key (activity : IngressActivity) s answer,
    (adapter.run turns).lanes key = some ⟨activity, s, .done answer⟩ →
    activity.operation = .remove → (¬ ∃ row, ActiveRow (rowsOf s.resources key) row) →
    CallsSince key s (adapter.run turns).shared [] ∧
      (recordedKind answer = .unsupported ∨ recordedKind answer = .uncertain)
  /-- After a removal that succeeded an ephemeral ingress is free to be allocated, and
  any other keeps its active row, which an allocation does not pass. -/
  succeeded : ∀ key (activity : IngressActivity) s answer,
    (adapter.run turns).lanes key = some ⟨activity, s, .done answer⟩ →
    activity.operation = .remove → recordedKind answer = .succeeded →
    ∃ row, ActiveRow (rowsOf s.resources key) row ∧
      (row.lifecycle = .ephemeral → NextAllocation adapter turns key NotConflict) ∧
      (row.lifecycle ≠ .ephemeral →
        row ∈ rowsOf (adapter.run turns).shared.resources key ∧
        NextAllocation adapter turns key fun answer =>
          recordedKind answer = .unsupported ∨ recordedKind answer = .uncertain)

theorem settles_of_lane {activity : IngressActivity} {s : IngressStores}
    {answer : IngressAnswer}
    (h : (adapter.run turns).lanes key = some ⟨activity, s, .done answer⟩) :
    activity.key = key ∧ Settles activity s answer (adapter.run turns).shared :=
  (run_orderly adapter turns).owes key _ h

theorem removalSettles_of_lane {activity : IngressActivity} {s : IngressStores}
    {answer : IngressAnswer}
    (h : (adapter.run turns).lanes key = some ⟨activity, s, .done answer⟩)
    (hremove : activity.operation = .remove) :
    RemovalSettles key s answer (adapter.run turns).shared := by
  obtain ⟨rfl, hsettles⟩ := settles_of_lane h
  rwa [Settles, hremove] at hsettles

theorem allocationSettles_of_lane {activity : IngressActivity} {s : IngressStores}
    {answer : IngressAnswer}
    (h : (adapter.run turns).lanes key = some ⟨activity, s, .done answer⟩)
    (hallocate : activity.operation = .allocate) :
    AllocationSettles key activity.context.source s answer
      (adapter.run turns).shared := by
  obtain ⟨rfl, hsettles⟩ := settles_of_lane h
  rwa [Settles, hallocate] at hsettles

/-- An allocation passes where no row blocks. -/
theorem nextAllocation_of_free
    (h : ¬ Blocked (rowsOf (adapter.run turns).shared.resources key)) :
    NextAllocation adapter turns key NotConflict := by
  intro more activity answer hlane hallocate hconflict
  exact h ((allocationSettles_of_lane hlane hallocate).1 hconflict)

/-- No allocation passes a row that blocks. -/
theorem nextAllocation_of_blocked
    (h : Blocked (rowsOf (adapter.run turns).shared.resources key)) :
    NextAllocation adapter turns key fun answer =>
      recordedKind answer = .unsupported ∨ recordedKind answer = .uncertain := by
  intro more activity answer hlane hallocate
  obtain ⟨-, own, -, hends, hfree⟩ := allocationSettles_of_lane hlane hallocate
  cases hends with
  | refused _ hkind => exact hkind
  | creationRaised | recorded | compensated | compensationRaised =>
      exact absurd h (hfree (List.cons_ne_nil _ _))

theorem removal_reaches {activity : IngressActivity}
    {row : CloudflareOwnedIngressResource} (hremove : activity.operation = .remove)
    (hrow : ActiveRow (rowsOf (adapter.run turns).shared.resources activity.key) row)
    (hephemeral : row.lifecycle = .ephemeral)
    (force : RemovalInForce adapter activity.context activity.ingressId
      (adapter.run turns).shared)
    (hcovers : force.Covers row) {a b c d e f g : IngressAnswers}
    (hinputs : ∀ answers ∈ [a, b, c, d, e, f],
      Obliging activity.context force.authority.entry.authority answers) :
    ∃ call, (call = .tornDown row.coordinates ∨
      call = .teardownRaised row.coordinates) ∧
      CallsSince activity.key (adapter.run turns).shared
        (adapter.run (turns ++ .start activity ::
          [a, b, c, d, e, f, g].map (.step activity.key))).shared [call] := by
  have hcoherent := (run_orderly adapter turns).inv
  obtain ⟨plan, updated, after, hmark, hdriven⟩ :=
    remove_drives hcoherent force hcovers hrow hephemeral hinputs
  obtain ⟨call, left, hcall, htorn⟩ := @tearDownRemoval_drives
    { (adapter.run turns).shared with
        resources := after } adapter activity.context activity.key
    plan updated g
  have hexecute : Drives (adapter.execute activity) (adapter.run turns).shared
      [a, b, c, d, e, f, g] left (IngressStores.logged activity.key call
        { (adapter.run turns).shared with resources := after }) := by
    rw [execute, hremove]
    exact hdriven.trans htorn
  refine ⟨call, ?_, ?_⟩
  · obtain ⟨before, hbefore, hmarks, -⟩ :=
      markRemoving_spec (hcoherent.numbered _) hmark
    cases hbefore.symm.trans (requireActiveCloudflare_active hcoherent hrow)
    rwa [← coordinates_of_mark hmarks.mark]
  · rw [run_driven hexecute]
    exact callsSince_logged _ _ _

/-- **What an interrupted removal leaves to later activities**, in every run. -/
theorem interrupted_removal (adapter : IngressRealizationAdapter)
    (turns : List IngressTurn) : Resumable adapter turns where
  documented row hrow hstatus := by
    obtain ⟨evidence, -, -, hfound⟩ :=
      getBySource_active (run_orderly adapter turns).inv hrow hstatus
    exact ⟨evidence, hfound⟩
  reaches _ _ hremove hrow hephemeral force hcovers _ _ _ _ _ _ _ hinputs :=
    removal_reaches hremove hrow hephemeral force hcovers hinputs
  blocked _ hblocked := nextAllocation_of_blocked hblocked
  refused key activity s answer hlane hremove hnone := by
    obtain ⟨own, hown, hends⟩ := removalSettles_of_lane hlane hremove
    rcases hends with ⟨rfl, hkind⟩ | ⟨row, hrow, -⟩
    · exact ⟨hown, hkind⟩
    · exact absurd ⟨row, hrow⟩ hnone
  succeeded key activity s answer hlane hremove hsucceeded := by
    obtain ⟨own, -, hends⟩ := removalSettles_of_lane hlane hremove
    rcases hends with ⟨-, hkind⟩ | ⟨row, hrow, hend⟩
    · rw [hsucceeded] at hkind
      exact absurd hkind (by decide)
    · refine ⟨row, hrow, ?_⟩
      cases hend with
      | skipped _ hlifecycle _ hkept =>
          exact ⟨fun hephemeral => absurd hephemeral hlifecycle, fun _ => ⟨hkept,
            nextAllocation_of_blocked ⟨row, hkept, by rw [hrow.1]; decide⟩⟩⟩
      | removed _ hlifecycle _ hgone =>
          exact ⟨fun _ => nextAllocation_of_free hgone.1, fun hkept =>
            absurd hlifecycle hkept⟩
      | notMarked _ hkind | unfinished _ hkind | teardownRaised _ hkind =>
          exact absurd (hsucceeded.symm.trans hkind) (by decide)

/-! ## A removal that cannot be finished

An ingress is allocated, and its removal stops once its row says that it is being
removed. -/

def tunnelMaterial : SecretProviderMaterial :=
  { heldMaterial with allowedIntents := [.cloudflareTunnelToken] }

def registerTunnelProvider : RegisterSecretProviderCommand :=
  { registerHeld none "2024-01-01T00:00:00Z" with material := tunnelMaterial }

/-- The provider is admitted, under a digest of what it says. -/
theorem registerTunnelProvider_ok : ∃ text,
    SecretRegistrations.execute (.registerProvider registerTunnelProvider) .empty =
      .ok ((), { SecretRegistrations.empty with providers :=
        [newRegistration ("sprov_" ++ sha256Hexdigest text) "w" "p"
          tunnelMaterial none "a"
          "2024-01-01T00:00:00Z"] }) := by
  obtain ⟨hworkspace, hname, hactor, hprovider, htexts⟩ := heldTexts
  obtain ⟨hbounded, hencoded⟩ := htexts "2024-01-01T00:00:00Z" (by simp)
  obtain ⟨text, hdigest⟩ := @semanticsDigest_of_renderable
    (providerSemantics "w" "p" none tunnelMaterial) (by
      simp [providerSemantics, tunnelMaterial, heldMaterial, strings, strOrNone,
        Library.PyValue.isRenderable, Library.PyValue.isRenderableEntries,
        Library.PyValue.isRenderableItems])
  refine ⟨text, ?_⟩
  have hprefixes : referencePrefixes [heldReference] "p" = .ok [heldReference] := by
    simp [referencePrefixes, requireThat, hprovider]
    rfl
  have hintents : secretIntents [.cloudflareTunnelToken] =
      .ok [.cloudflareTunnelToken] := by
    simp [secretIntents, requireThat]
  have hmetadata : checkMetadata [] = .ok () := rfl
  have hscope : requireSecretScope [.secretProviderRegister] .secretProviderRegister =
    .ok () := rfl
  simp only [tunnelMaterial, heldMaterial] at hdigest
  simp only [SecretRegistrations.execute, registerProvider,
    RegisterSecretProviderCommand.candidate, registerTunnelProvider, tunnelMaterial,
    registerHeld, heldMaterial, hscope, hworkspace, hname, hactor, hbounded, hprefixes,
    hintents, hmetadata, hdigest, checkSupersedes, ok_bind]
  have hactive : ∀ row : RegisteredSecretProvider, row.status = .active →
      row.supersedes = none →
      row.admittedAt = "2024-01-01T00:00:00Z" →
      SecretProviderStore.register [] row = .ok (row, [row]) := by
    intro row hstatus hsupersedes hadmitted
    simp only [SecretProviderStore.register, hstatus, hadmitted, hencoded, decide_true,
      requireThat, if_true, ok_bind, Library.Supersession.register_empty hsupersedes]
  simp only [pure_bind, SecretRegistrations.empty]
  rw [hactive _ rfl rfl rfl]
  rfl

/-- The provider's registration, under a digest. -/
def tunnelProvider (text : String) : RegisteredSecretProvider :=
  newRegistration ("sprov_" ++ sha256Hexdigest text) "w" "p" tunnelMaterial none "a"
    "2024-01-01T00:00:00Z"

def zoneAuthority (text : String) : CloudflareZoneIngressAuthority where
  accountId := "c"
  zoneId := "z"
  zoneName := "z.io"
  apiTokenRef := heldReference
  allowedHostnamePattern := "*.z.io"
  generatedSecretProviderRegistrationId := "sprov_" ++ sha256Hexdigest text
  generatedSecretReferencePrefix := heldReference

def zoneRow (text : String) : RegisteredIngressAuthority where
  registrationId := "x"
  entry := ⟨"w", ⟨"x"⟩, zoneAuthority text⟩
  admission := ⟨"a", "2024-01-01T00:00:00Z"⟩
  status := .active

def zoneIngress : NamedPublicIngress where
  ingressId := "i"
  authorityRef := "x"
  target := ⟨"n", "http"⟩
  connectorNodeId := "n"
  hostname := "h.z.io"
  lifecycle := .ephemeral
  named := by decide

def zoneGraph : DeploymentGraph where
  name := "g"
  nodes :=
    (∅ : TextMap Node).insert "n" (sampleProvider "n" "r" "http" "http://n" (by decide))
  edges := ∅
  runtimes := ∅
  publicIngresses := [zoneIngress]
  delegationAuthorities := []
  ingressesUnique := by simp
  authoritiesUnique := (sampleGraph [] [] []).authoritiesUnique
  authoritiesSorted := (sampleGraph [] [] []).authoritiesSorted

/-- An activity of one run. -/
def zoneContext (runId : String) : IngressContext where
  workspaceId := "w"
  requestId := "q"
  sessionId := "s"
  runId := runId
  activityId := "a"
  eventId := "e"
  occurredAt := "2024-01-01T00:00:00Z"
  workerId := "k"
  scopes := [.secretProviderUse]
  baseGraph := .ok zoneGraph
  desiredGraph := .ok zoneGraph

theorem zoneContext_wellFormed {runId : String} (h : runId ∈ ["r", "t", "u"]) :
    WellFormed (zoneContext runId) := by
  have htexts : ∀ runId ∈ ["r", "t", "u"], isReference "w" = true ∧
      isReference "k" = true ∧
      isCanonicalIdentity "q" = true ∧ isCanonicalIdentity "s" = true ∧
      isCanonicalIdentity runId = true ∧ isCanonicalIdentity "a" = true ∧
      isCanonicalIdentity "e" = true ∧
      requireBoundedText "2024-01-01T00:00:00Z" "requested_at" 128 = .ok () := by decide
  obtain ⟨hw, hk, hq, hs, hr, ha, he, ho⟩ := htexts runId h
  exact ⟨hw, hk, hq, hs, hr, ha, he, ho, rfl⟩

def zoneAdapter : IngressRealizationAdapter where
  hasInterpreter := true
  hasAuthorizer := true
  repr := plainRepr
  evidence _ := .ok {}

/-- The tables before the ingress is allocated. -/
def zoneStores (text : String) : IngressStores :=
  { IngressStores.empty with
    authorities := [zoneRow text]
    secrets := { SecretRegistrations.empty with providers := [tunnelProvider text] } }

theorem zone_authority (text : String) :
    requireActiveForHostname [zoneRow text] "w" "x" "h.z.io" = .ok (zoneRow text) := by
  have hallows : (zoneAuthority text).allowsHostname "h.z.io" = true := by
    show (isHostname "h.z.io" && matchesWildcard "*.z.io".toList "h.z.io".toList) = true
    decide
  simp only [requireActiveForHostname, zoneRow, List.find?_cons, decide_true,
    Bool.and_self, hallows, if_true]

theorem zone_provider (text : String) :
    SecretProviderStore.requireActiveRegistration [tunnelProvider text] "w"
      ("sprov_" ++ sha256Hexdigest text) = .ok (tunnelProvider text) := by
  simp only [SecretProviderStore.requireActiveRegistration, Library.Supersession.byId,
    tunnelProvider, newRegistration, List.find?_cons, decide_true, Bool.and_self, found,
    requireThat, ok_bind, if_true]
  rfl

theorem zone_configured {runId : String} (h : runId ∈ ["r", "t", "u"]) (text : String) :
    Configured zoneAdapter (zoneContext runId) (zoneAuthority text) :=
  ⟨rfl, rfl, (zoneContext_wellFormed h).command _⟩

/-- The provider grants the custody of what an activity generates. -/
theorem zone_grantable {runId : String} (h : runId ∈ ["r", "t", "u"]) (text : String)
    {reference : SecretReference} {below : String}
    (hbelow : reference.referenceId = heldReference.referenceId ++ ("/" ++ below)) :
    Grantable (tunnelProvider text) (course (zoneContext runId)) reference
      .cloudflareTunnelToken := by
  have hwell := zoneContext_wellFormed h
  obtain ⟨hprovider, hwithin⟩ := referenceIsWithin_below hbelow (by decide)
  have hheld : referenceProviderId heldReference = "p" := by decide
  refine ⟨hwell.workspace, hwell.worker, hwell.run, hwell.scope, rfl,
    isReference_tagged (by decide) (by decide) _, ?_⟩
  have hsubject : referenceProviderId reference = "p" := hprovider.trans hheld
  simp [validateReferenceAdmission, custodyCandidate, newRegistration, course,
    zoneContext, tunnelProvider, tunnelMaterial, heldMaterial, requireThat, hsubject,
    hwithin, ok_bind]

theorem zone_node : zoneAdapter.pinnedNode zoneGraph "n" =
    .ok (sampleProvider "n" "r" "http" "http://n" (by decide)) := by
  simp [pinnedNode, DeploymentGraph.node, zoneGraph, Except.mapError]

theorem zone_origin :
    zoneAdapter.originServiceUrl zoneGraph zoneIngress = .ok "http://n" := by
  have hnamed : zoneIngress.target = ⟨"n", "http"⟩ := rfl
  have hendpoint : zoneAdapter.endpoint
      (sampleProvider "n" "r" "http" "http://n" (by decide)) "http" =
      .ok ⟨.literal "http://n" (by decide), .http, .privateScope⟩ := by
    simp [endpoint, sampleProvider]
  have hinternal : ("http://".toList.isPrefixOf
      (Endpoint.url ⟨.literal "http://n" (by decide), .http, .privateScope⟩).toList) =
        true := by
    decide
  simp only [originServiceUrl, hnamed, zone_node, ok_bind, hendpoint, Except.mapError]
  simp only [requireIngress, hinternal, decide_true, if_true, ok_bind]
  rfl

/-- The reference an activity generates, below the authority's. -/
theorem zone_generated (runId text : String) :
    ∃ below,
      (generatedSecretReference (zoneContext runId) (zoneAuthority text)).referenceId =
      heldReference.referenceId ++ ("/" ++ below) := by
  refine ⟨"cloudflared-tunnel-token/" ++
    barred ["w", "cloudflared-tunnel-token", runId, "a", "e"], ?_⟩
  have hslash : "/cloudflared-tunnel-token/" = "/" ++ "cloudflared-tunnel-token/" := by
    simp
  have hbelow := (congrArg (· ++ barred ["w", "cloudflared-tunnel-token", runId, "a",
    "e"]) hslash).trans String.append_assoc
  exact congrArg (heldReference.referenceId ++ ·) hbelow

/-- The receipt for a grant. -/
theorem one_positive : 0 < 1 := Nat.le_refl 1

def zoneReceipt (grant : SecretCustodyGrant) : SecretCustodyReceipt where
  custodyId := grant.custodyId
  providerRegistrationId := grant.providerRegistrationId
  reference := grant.reference
  versionId := "v"
  versionNumber := 1
  positive := one_positive

theorem zone_recordable (grant : SecretCustodyGrant) :
    Recordable (zoneReceipt grant) where
  version := show isReference "v" = true by decide
  unmarked := show hasSecretMarker "v" = false by decide +kernel
  number := by
    unfold Library.PyValue.printable
    exact decide_eq_true (Nat.one_lt_pow (by decide) (by decide))

/-- What the provider creates under a grant. -/
def zoneAllocation (grant : SecretCustodyGrant) : IngressAllocationResult where
  tunnelId := "t"
  tunnelName := "cpk-t"
  secretCustodyReceipt := some (zoneReceipt grant)
  dnsRecordId := "d"
  hostname := "h.z.io"
  endpointUrl := "https://h.z.io"

def zoneToken (runId text : String) : SecretResolutionGrant :=
  { apiTokenUse (zoneContext runId) (zoneAuthority text) with
    authorizationId := "suse"
    referenceRegistrationId := "sref"
    providerRegistrationId := "sprov"
    endpointReference := "e"
    credentialReference := heldReference
    intentFingerprint := "f" }

/-- Everything answers. -/
def zoneAnswers (runId text : String) (grant : SecretCustodyGrant) :
    IngressAnswers where
  transaction := .committed
  clock := .ok "2024-01-01T00:00:00Z"
  resolution := .ok (some (zoneToken runId text))
  creation := .ok (zoneAllocation grant)
  teardown := .ok ()

theorem zone_obliging (runId text : String) (grant : SecretCustodyGrant) :
    Obliging (zoneContext runId) (zoneAuthority text)
      (zoneAnswers runId text grant) := by
  refine ⟨rfl, _, rfl, ?_⟩
  simp [grantsApiToken, zoneToken, apiTokenUse, zoneContext]

theorem zone_unremoved : RemovalEvidence .active none none :=
  ⟨by simp, fun _ => ⟨rfl, rfl⟩⟩

/-- The row an allocation of the run `r` writes. -/
def zoneResource : CloudflareOwnedIngressResource where
  workspaceId := "w"
  runtimeId := "r"
  ingressId := "i"
  authorityRef := "x"
  tunnelName := "cpk-t"
  tunnelId := "t"
  dnsRecordId := "d"
  hostname := "h.z.io"
  zoneId := "z"
  lifecycle := .ephemeral
  createdAt := "2024-01-01T00:00:00Z"
  observedAt := "2024-01-01T00:00:00Z"
  sourceRunId := "r"
  sourceActivityId := "a"
  sourceEventId := "e"
  epoch := 1
  status := .active
  removedAt := none
  removedByRunId := none
  removal := zone_unremoved

/-- The tables after the ingress was allocated. -/
structure ZoneAllocated (text : String) (t : IngressStores) : Prop where
  authorities : t.authorities = [zoneRow text]
  providers : t.secrets.providers = [tunnelProvider text]
  resources : t.resources = [zoneResource]
  generated : ∃ evidence, t.generated = [evidence] ∧
    evidence.source = ⟨"w", "r", "a", "e"⟩ ∧
    ∃ below, evidence.secretRef.referenceId =
      heldReference.referenceId ++ ("/" ++ below)

/-- The allocation's records are built. -/
theorem zone_records {text : String} {grant : SecretCustodyGrant}
    {plan : PlannedAllocation}
    (hplan : plan.graph = zoneGraph ∧ plan.ingress = zoneIngress ∧
      plan.authority = zoneAuthority text)
    (hgrant : GrantOf (tunnelProvider text) (course (zoneContext "r"))
      (generatedSecretReference (zoneContext "r") (zoneAuthority text))
      .cloudflareTunnelToken
      grant) :
    ∃ reference evidence, zoneAdapter.allocationRecords (zoneContext "r") plan grant
        "2024-01-01T00:00:00Z" (zoneAllocation grant) =
          .ok ⟨zoneResource, reference, evidence⟩ ∧
      reference.status = .active ∧ reference.supersedes = none ∧
      reference.admittedAt = "2024-01-01T00:00:00Z" ∧
      evidence.source = ⟨"w", "r", "a", "e"⟩ ∧
      evidence.recordedAt = "2024-01-01T00:00:00Z" ∧
      evidence.secretRef = grant.reference := by
  obtain ⟨hgraph, hingress, hauthority⟩ := hplan
  obtain ⟨below, hbelow⟩ := zone_generated "r" text
  have hgrantable := @zone_grantable "r" (by simp) text _ _ hbelow
  have hmatches : (zoneReceipt grant).matchesGrant grant = true := by
    simp [SecretCustodyReceipt.matchesGrant, zoneReceipt]
  obtain ⟨sref, material, hcandidate⟩ := generatedSecretReferenceCandidate_ok hgrantable
    hgrant hmatches (zone_recordable grant)
    (by decide : requireBoundedText "2024-01-01T00:00:00Z" "admitted_at" 128 = .ok ())
  have hnode : zoneAdapter.pinnedNode plan.graph plan.ingress.connectorNodeId =
      .ok (sampleProvider "n" "r" "http" "http://n" (by decide)) := by
    rw [hgraph, hingress]
    exact zone_node
  have hresource : allocatedResource (zoneContext "r") plan "r" "2024-01-01T00:00:00Z"
      (zoneAllocation grant) = zoneResource := by
    rw [allocatedResource]
    simp only [hingress, hauthority]
    rfl
  have hcheck : zoneResource.check = .ok () := by decide
  have hevidence : (generatedEvidence (zoneContext "r") (zoneReceipt grant)
      ("sref_" ++ sha256Hexdigest sref) "2024-01-01T00:00:00Z").check = .ok () := by
    obtain ⟨custody, hcustody⟩ := hgrant.custody
    have htagged : ∀ tag field text, isReference tag = true → tag.length ≤ 64 →
        requireIngressText (tag ++ sha256Hexdigest text) field = .ok () :=
      fun _ _ text htag hlength =>
        requireIngressText_of_reference (isReference_tagged htag hlength text)
    have htexts : requireIngressText "w" "workspace_id" = .ok () ∧
        requireIngressText "v" "provider_version_id" = .ok () ∧
        requireIngressText "2024-01-01T00:00:00Z" "recorded_at" = .ok () ∧
        requireIngressText "e" "source_event_id" = .ok () ∧
        requireIngressIdentity "r" "source_run_id" = .ok () ∧
        requireIngressIdentity "a" "source_activity_id" = .ok () := by decide
    obtain ⟨hw, hv, hr, he, hrun, hactivity⟩ := htexts
    have hprovider :
        requireIngressText grant.providerRegistrationId "provider_registration_id" =
        .ok () := by
      rw [hgrant.registration]
      exact htagged _ _ _ (by decide) (by decide)
    have hcustodyId : requireIngressText grant.custodyId "custody_id" = .ok () := by
      rw [hcustody]
      exact htagged _ _ _ (by decide) (by decide)
    simp only [GeneratedIngressSecretReference.check, generatedEvidence, zoneReceipt,
      zoneContext, hw, hv, hr, he, hrun, hactivity, hprovider, hcustodyId,
      htagged "sref_" _ sref (by decide) (by decide), ok_bind]
    rfl
  have hreceipt : (zoneAllocation grant).secretCustodyReceipt =
    some (zoneReceipt grant) := rfl
  have hrequired : requireIngress ((zoneReceipt grant).matchesGrant grant)
      (invalidOperation
        "ingress provider returned mismatched secret custody evidence") = .ok () :=
    requireIngress_eq_ok.mpr hmatches
  refine ⟨newRegistration ("sref_" ++ sha256Hexdigest sref) grant.workspaceId
    grant.reference material none grant.actorSubject "2024-01-01T00:00:00Z",
    generatedEvidence (zoneContext "r") (zoneReceipt grant) ("sref_" ++
      sha256Hexdigest sref) "2024-01-01T00:00:00Z", ?_, rfl, rfl, rfl, rfl, rfl, rfl⟩
  have hruntime : (sampleProvider "n" "r" "http" "http://n" (by decide)).runtimeId =
    "r" := rfl
  simp only [allocationRecords, hnode, ok_bind, hruntime, hresource, hcheck, hreceipt,
    hrequired, hcandidate, Except.mapError]
  simp only [newRegistration, hevidence, ok_bind]
  rfl

/-- The allocation's records are written into the empty tables. -/
theorem zone_fold {text : String} {grant : SecretCustodyGrant}
    {reference : RegisteredSecretReference} {evidence : GeneratedIngressSecretReference}
    (hgrant : GrantOf (tunnelProvider text) (course (zoneContext "r"))
      (generatedSecretReference (zoneContext "r") (zoneAuthority text))
      .cloudflareTunnelToken
      grant)
    (hstatus : reference.status = .active) (hsupersedes : reference.supersedes = none)
    (hadmitted : reference.admittedAt = "2024-01-01T00:00:00Z")
    (hsource : evidence.source = ⟨"w", "r", "a", "e"⟩)
    (hrecorded : evidence.recordedAt = "2024-01-01T00:00:00Z")
    (calls : List (IngressKey × ProviderCall)) :
    foldAllocation grant ⟨zoneResource, reference, evidence⟩ { zoneStores text with
      calls := calls } =
      .ok ((), { zoneStores text with
        secrets := ⟨[tunnelProvider text], [reference]⟩
        resources := [zoneResource]
        generated := [evidence]
        calls := calls }) := by
  have hprovider : SecretProviderStore.requireActiveRegistration [tunnelProvider text]
      grant.workspaceId grant.providerRegistrationId = .ok (tunnelProvider text) := by
    rw [hgrant.workspace, hgrant.registration]
    exact zone_provider text
  have hunchanged : requireIngress
      (decide ((tunnelProvider text).material.endpointReference =
        grant.endpointReference) &&
        decide ((tunnelProvider text).material.credentialReference =
          grant.credentialReference))
      (invalidOperation "secret custody provider changed before durable fold") =
          .ok () := by
    rw [hgrant.endpoint, hgrant.credential]
    simp [requireIngress]
  have hencoded : encodePostgresTimestamp "2024-01-01T00:00:00Z" = .ok () := by decide
  have hreference : SecretReferenceStore.register [] reference =
      .ok (reference, [reference]) := by
    simp only [SecretReferenceStore.register, hstatus, hadmitted, hencoded, decide_true,
      requireThat, if_true, ok_bind, Library.Supersession.register_empty hsupersedes]
  have hresource : recordCloudflare [] zoneResource =
      .ok (zoneResource, [zoneResource]) := by
    decide
  have htexts : encodeIngressTimestamp "2024-01-01T00:00:00Z" = .ok () ∧
      requireIngressIdentity "r" "source_run_id" = .ok () := by decide
  have hrun : evidence.sourceRunId = "r" := congrArg (·.runId) hsource
  have hevidence : GeneratedIngressSecretStore.record [] evidence = .ok [evidence] := by
    simp only [GeneratedIngressSecretStore.record, hrecorded, hrun, htexts.1,
      htexts.2, ok_bind]
    rfl
  simp only [foldAllocation, zoneStores, SecretRegistrations.empty, IngressStores.empty,
    hprovider, hunchanged, hreference, hresource, hevidence, Except.mapError, ok_bind]
  rfl

/-- What an allocation of the run `r` stands on. -/
def zoneForce (text : String) {grant : SecretCustodyGrant}
    (hcustody : CustodyInForce (zoneContext "r") (zoneAuthority text)
      (generatedSecretReference (zoneContext "r") (zoneAuthority text))
      (zoneStores text) grant) :
    AllocationInForce zoneAdapter (zoneContext "r") "i" (zoneStores text) where
  graph := zoneGraph
  pinned := rfl
  ingress := zoneIngress
  named := rfl
  originServiceUrl := "http://n"
  origin := zone_origin
  authority := zoneRow text
  active := zone_authority text
  configured := zone_configured (by simp) text
  free := rfl
  custodyGrant := grant
  custody := hcustody

def zoneActivity (runId : String) (operation : IngressOperation) : IngressActivity :=
  ⟨zoneContext runId, operation, "i"⟩

/-- **The ingress is allocated.** -/
theorem zone_allocates (text : String) : ∃ grant answer t, ZoneAllocated text t ∧
    Drives (zoneAdapter.execute (zoneActivity "r" .allocate)) (zoneStores text)
      (List.replicate 7 (zoneAnswers "r" text grant)) (.done answer) t := by
  obtain ⟨below, hbelow⟩ := zone_generated "r" text
  obtain ⟨grant, hcustody, hgrant⟩ :=
    @WellFormed.custody (zoneStores text) (zoneContext "r")
    (zoneContext_wellFormed (by simp)) (zoneAuthority text) _ _ (zone_provider text)
    (zone_grantable (by simp) text hbelow)
  obtain ⟨reference, evidence, hrecords, hstatus, hsupersedes, hadmitted,
    hsource, hrecorded, hreference⟩ :=
      @zone_records text _ (zoneForce text hcustody).plan ⟨rfl, rfl, rfl⟩ hgrant
  have hfold := zone_fold hgrant hstatus hsupersedes hadmitted hsource hrecorded
  obtain ⟨calls, hdriven⟩ := @allocate_drives _ _ _ _ (zoneForce text hcustody)
    "2024-01-01T00:00:00Z" (zoneAllocation grant) _
    { zoneStores text with
        secrets := ⟨[tunnelProvider text], [reference]⟩
        resources := [zoneResource]
        generated := [evidence] }
    _ _ _ _ (e := zoneAnswers "r" text grant) (f := zoneAnswers "r" text grant)
    (g := zoneAnswers "r" text grant)
    (fun answers hanswers => by
      rw [List.eq_of_mem_replicate (n := 4) hanswers]
      exact zone_obliging "r" text grant)
    rfl (by decide) rfl rfl hrecords hfold
  exact ⟨grant, _, _, ⟨rfl, rfl, rfl, evidence, rfl, hsource, below, by
    rw [hreference, hgrant.reference, hbelow]⟩, hdriven⟩

/-- The authority and the provider are registered. -/
def zoneRegistrations (text : String) : List IngressTurn :=
  [.other (.authorities [zoneRow text]), .other
    (.secrets (.registerProvider registerTunnelProvider))]

theorem zone_registered : ∃ text,
    (zoneAdapter.run (zoneRegistrations text)).shared = zoneStores text := by
  obtain ⟨text, hexecute⟩ := registerTunnelProvider_ok
  refine ⟨text, ?_⟩
  have hsettled := Library.Transactions.settle_ok hexecute
  show IngressSurroundings.apply (.secrets (.registerProvider registerTunnelProvider))
    { IngressStores.empty with authorities := [zoneRow text] } = zoneStores text
  rw [IngressSurroundings.apply, IngressStores.empty, hsettled]
  rfl

/-- A removal stands on the tables the allocation left, whatever became of the row. -/
def zoneRemoval {runId text : String} {t : IngressStores}
    (hrun : runId ∈ ["r", "t", "u"]) (hauthorities : t.authorities = [zoneRow text]) :
    RemovalInForce zoneAdapter (zoneContext runId) "i" t where
  graph := zoneGraph
  pinned := rfl
  ingress := zoneIngress
  named := rfl
  authority := zoneRow text
  active := hauthorities ▸ zone_authority text
  configured := zone_configured hrun text

theorem zone_covers {runId text : String} {t : IngressStores}
    (hrun : runId ∈ ["r", "t", "u"]) (h : ZoneAllocated text t) :
    (zoneRemoval hrun h.authorities).Covers zoneResource where
  plan := by
    have hallows : (zoneAuthority text).allowsHostname "h.z.io" = true := by
      show (isHostname "h.z.io" && matchesWildcard "*.z.io".toList "h.z.io".toList) =
        true
      decide
    have hhostname : requireIngress
        ((zoneAuthority text).allowsHostname zoneResource.hostname) (malformedIngress
          "Cloudflare ingress ownership hostname is outside authority policy") =
        .ok () := requireIngress_eq_ok.mpr hallows
    have hzone : requireIngress
        (decide (zoneResource.zoneId = (zoneAuthority text).zoneId)) (malformedIngress
          "Cloudflare ingress ownership zone does not match authority") = .ok () :=
      rfl
    have htunnel : requireIngress
        ("cpk-".toList.isPrefixOf zoneResource.tunnelName.toList) (malformedIngress
          "Cloudflare ingress tunnel ownership is ambiguous") = .ok () := by
      decide
    simp only [zoneRemoval, zoneRow, cloudflareIngressTeardownPlan, hhostname,
      htunnel, ok_bind]
    exact ⟨_, rfl⟩
  custody evidence hevidence _ := by
    obtain ⟨first, hgenerated, -, below, hbelow⟩ := h.generated
    rw [hgenerated] at hevidence
    cases List.mem_singleton.mp hevidence
    have hprovider : SecretProviderStore.requireActiveRegistration t.secrets.providers
        (zoneContext runId).workspaceId
        (zoneAuthority text).generatedSecretProviderRegistrationId =
        .ok (tunnelProvider text) := h.providers ▸ zone_provider text
    obtain ⟨grant, hcustody, -⟩ := (zoneContext_wellFormed hrun).custody hprovider
      (zone_grantable hrun text hbelow)
    exact ⟨grant, hcustody⟩

/-- A removal that stops after its row was marked. -/
theorem zone_interrupted {text : String} {t : IngressStores} (hcoherent : t.Coherent)
    (h : ZoneAllocated text t) (grant : SecretCustodyGrant) :
    ∃ left row after, Drives (zoneAdapter.execute (zoneActivity "t" .remove)) t
        (List.replicate 6 (zoneAnswers "t" text grant)) left { t with
          resources := after } ∧
      rowsOf after ("w", "i") = [row] ∧ row.status = .removing ∧
      row.sourceRunId = "t" := by
  have hrows : rowsOf t.resources ("w", "i") = [zoneResource] := by
    rw [h.resources]
    rfl
  obtain ⟨plan, updated, after, hmark, hdriven⟩ := remove_drives hcoherent
    (@zoneRemoval "t" text t (by simp) h.authorities) (zone_covers (by simp) h)
    ⟨rfl, [], hrows⟩ rfl (f := zoneAnswers "t" text grant)
    (fun answers hanswers => by
      rw [List.eq_of_mem_replicate (n := 6) hanswers]
      exact zone_obliging "t" text grant)
  obtain ⟨before, -, hmarks, hstatus⟩ := markRemoving_spec (hcoherent.numbered _) hmark
  obtain ⟨closed, hbefore, hafter, -⟩ := hmarks.newest
  obtain ⟨rfl, -⟩ :=
    List.append_inj' ((hbefore.symm.trans hrows).trans (List.nil_append _).symm) rfl
  exact ⟨_, updated, after, hdriven, hafter, hstatus, markRemoving_run hmark⟩

theorem getBySource_eq_ok {rows : List GeneratedIngressSecretReference}
    {source : IngressSource} {evidence : GeneratedIngressSecretReference}
    (h : GeneratedIngressSecretStore.getBySource rows source = .ok evidence) :
    evidence ∈ rows ∧ evidence.source = source := by
  simp only [GeneratedIngressSecretStore.getBySource, bind_ok] at h
  obtain ⟨⟨⟩, -, h⟩ := h
  split at h
  · rename_i found hfound
    cases h
    exact GeneratedIngressSecretStore.bySource_eq_some hfound
  · cases h

/-- **An interrupted removal that cannot be finished.**  Its row no longer finds the
evidence of its secret, and a removal whose authority is in force is refused as
unsupported. -/
theorem interrupted_removal_refused : ∃ (turns : List IngressTurn)
    (row : CloudflareOwnedIngressResource) (removal : IngressActivity)
    (inputs : List IngressAnswers),
    row ∈ rowsOf (zoneAdapter.run turns).shared.resources removal.key ∧
    row.status = .removing ∧
    (¬ ∃ evidence, GeneratedIngressSecretStore.getBySource
      (zoneAdapter.run turns).shared.generated
      row.source = .ok evidence) ∧
    removal.operation = .remove ∧
    Nonempty (RemovalInForce zoneAdapter removal.context removal.ingressId
      (zoneAdapter.run turns).shared) ∧
    ∃ answer, (zoneAdapter.run (turns ++ .start removal ::
        inputs.map (.step removal.key))).lanes removal.key =
          some ⟨removal, (zoneAdapter.run turns).shared, .done answer⟩ ∧
      recordedKind answer = .unsupported ∧
      CallsSince removal.key (zoneAdapter.run turns).shared
        (zoneAdapter.run
          (turns ++ .start removal :: inputs.map (.step removal.key))).shared [] := by
  obtain ⟨text, hregistered⟩ := zone_registered
  obtain ⟨grant, answer, t, hallocated, hdriven⟩ := zone_allocates text
  rw [← hregistered] at hdriven
  have hallocation := run_driven hdriven
  obtain ⟨allocations, hturns⟩ : ∃ turns, zoneAdapter.run turns = _ := ⟨_, hallocation⟩
  have hshared : (zoneAdapter.run allocations).shared = t := by rw [hturns]
  have hcoherent : t.Coherent := hshared ▸ (run_orderly zoneAdapter allocations).inv
  obtain ⟨left, row, after, hinterrupted, hrow, hstatus, hrun⟩ :=
    zone_interrupted hcoherent hallocated grant
  rw [← hshared] at hinterrupted
  have hremoval := run_driven hinterrupted
  obtain ⟨removals, hturns'⟩ : ∃ turns, zoneAdapter.run turns = _ := ⟨_, hremoval⟩
  have hshared' : (zoneAdapter.run removals).shared =
      { t with resources := after } := by
    rw [hturns', hshared]
  have hauthorities : (zoneAdapter.run removals).shared.authorities =
      [zoneRow text] := by
    rw [hshared']
    exact hallocated.authorities
  have hrows : rowsOf (zoneAdapter.run removals).shared.resources ("w", "i") =
      [row] := by
    rw [hshared']
    exact hrow
  have hrefused := remove_refused (a := zoneAnswers "u" text grant)
    (b := zoneAnswers "u" text grant)
    (@zoneRemoval "u" text _ (by simp) hauthorities) (by
      intro other hother
      rw [show ((zoneContext "u").workspaceId, "i") = ("w", "i") from rfl,
        hrows] at hother
      rw [List.mem_singleton.mp hother, hstatus]
      decide) rfl rfl
  have hlater := @run_driven _ _ (zoneActivity "u" .remove)
    [zoneAnswers "u" text grant, zoneAnswers "u" text grant] _ _ hrefused
  refine ⟨removals, row, zoneActivity "u" .remove,
    [zoneAnswers "u" text grant, zoneAnswers "u" text grant], ?_, hstatus, ?_, rfl,
    ⟨zoneRemoval (by simp) hauthorities⟩, zoneAdapter.unsupported (zoneContext "u")
      "RemovePublicIngress" "ingress.remove-unsupported"
      "active owned ingress resource was not found", ?_, ?_, ?_⟩
  · rw [show (zoneActivity "u" .remove).key = ("w", "i") from rfl, hrows]
    exact List.mem_singleton.mpr rfl
  · rintro ⟨evidence, hevidence⟩
    obtain ⟨hmem, hsource⟩ := getBySource_eq_ok hevidence
    obtain ⟨first, hgenerated, hfirst, -⟩ := hallocated.generated
    have hone : evidence ∈ [first] := by
      rw [← hgenerated, ← show (zoneAdapter.run removals).shared.generated =
        t.generated by rw [hshared']]
      exact hmem
    have hrunId : row.source.runId = "r" := by
      rw [← hsource, List.mem_singleton.mp hone, hfirst]
    exact absurd (hrun.symm.trans hrunId) (by decide)
  · rw [hlater]
    simp only [Function.update_self]
  · decide
  · rw [hlater]
    exact (Stays.refl _ _).callsSince

end IngressRealizationAdapter

end ControlPlaneKit.Operations
