import ControlPlaneKit.Operations.IngressRemovalLaws
import ControlPlaneKit.Operations.SecretCustodyLaws

/-!
# IngressProgress — how far an activity comes

An activity that nothing else interrupts, and whose surroundings answer what it
asks for, goes on: a removal of an active row reaches the provider's teardown, and
an allocation of a free ingress commits its records.

## Main results

* `planRemoval_gives`, `remove_drives` — a removal that is in force.
* `allocate_drives` — an allocation that is in force.
-/

namespace ControlPlaneKit.Operations

open ControlPlaneKit.Library.EventFold (bind_ok)
open ControlPlaneKit.Library.Interleaved (Program)
open ControlPlaneKit.Library.Lanes
open ControlPlaneKit.Library.Outcome (ok_bind)
open ControlPlaneKit.Library.Text (isCanonicalIdentity isReference)
open ControlPlaneKit.Topology
open IngressResourceStore

variable {s t u : IngressStores} {α β : Type} {inputs later : List IngressAnswers}
  {answers : IngressAnswers}

/-! ## Code that has a value -/

/-- The code takes a step for every input, and has a value. -/
def Gives (code : IngressCode α) (s : IngressStores)
    (inputs : List IngressAnswers) (value : α) (t : IngressStores) : Prop :=
  Drives code.run s inputs (.done (.ok value)) t

theorem gives_computed {value : Except IngressError α} {result : α}
    (h : value = .ok result) : Gives (computed value) s [] result s := by
  rw [h]
  exact .here _ _

theorem gives_pure (value : α) : Gives (pure value) s [] value s := .here _ _

theorem gives_transaction
    {act : IngressStores → Except IngressError (α × IngressStores)} {value : α}
    (hcommitted : answers.transaction = .committed) (hact : act s = .ok (value, t)) :
    Gives (transaction act) s [answers] value t := by
  refine drives_write ?_
  simp only [transacted, hcommitted, hact]

theorem gives_reading {view : IngressStores → Except IngressError α} {value : α}
    (hcommitted : answers.transaction = .committed) (hview : view s = .ok value) :
    Gives (reading view) s [answers] value s :=
  gives_transaction hcommitted (by rw [hview]; rfl)

theorem drives_asking {ε : Type} {answer : IngressAnswers → Except ε α}
    {log : Except ε α → IngressStores → IngressStores} :
    Drives (asking answer log).run s
      [answers] (.done (answer answers)) (log (answer answers) s) :=
  drives_write rfl

theorem Gives.bind {code : IngressCode α} {next : α → IngressCode β}
    {value : α} {result : β} (h : Gives code s inputs value t)
    (hnext : Gives (next value) t later result u) :
    Gives (code >>= next) s (inputs ++ later) result u := by
  have hcontinued : Drives (ExceptT.bindCont next (.ok value)) t later
    (.done (.ok result)) u := hnext
  exact Drives.next h hcontinued

/-- Code that takes no step of its own. -/
theorem Gives.then {code : IngressCode α} {next : α → IngressCode β}
    {value : α} {result : β} (h : Gives code s [] value t)
    (hnext : Gives (next value) t later result u) :
    Gives (code >>= next) s later result u :=
  h.bind hnext

/-- Code that takes one step. -/
theorem Gives.cons {code : IngressCode α} {next : α → IngressCode β}
    {value : α} {result : β} (h : Gives code s [answers] value t)
    (hnext : Gives (next value) t later result u) :
    Gives (code >>= next) s (answers :: later) result u :=
  h.bind hnext

/-- The code takes a step for every input, and raises. -/
def Raises (code : IngressCode α) (s : IngressStores) (inputs : List IngressAnswers)
    (error : IngressError) (t : IngressStores) : Prop :=
  Drives code.run s inputs (.done (.error error)) t

theorem raises_reading {view : IngressStores → Except IngressError α}
    {error : IngressError} (hcommitted : answers.transaction = .committed)
    (hview : view s = .error error) : Raises (reading view) s [answers] error s := by
  refine drives_write ?_
  simp only [transacted, hcommitted, hview, Except.map]

theorem Raises.bind {code : IngressCode α} {next : α → IngressCode β}
    {error : IngressError} (h : Raises code s inputs error t) :
    Raises (code >>= next) s inputs error t :=
  Drives.value (f := ExceptT.bindCont next) h

theorem Gives.thenRaises {code : IngressCode α} {next : α → IngressCode β} {value : α}
    {error : IngressError} (h : Gives code s [] value t)
    (hnext : Raises (next value) t later error u) :
    Raises (code >>= next) s later error u := by
  have hcontinued : Drives (ExceptT.bindCont next (.ok value)) t later
      (.done (.error error)) u :=
    hnext
  exact Drives.next h hcontinued

theorem Gives.consRaises {code : IngressCode α} {next : α → IngressCode β} {value : α}
    {error : IngressError} (h : Gives code s [answers] value t)
    (hnext : Raises (next value) t later error u) :
    Raises (code >>= next) s (answers :: later) error u := by
  have hcontinued : Drives (ExceptT.bindCont next (.ok value)) t later
      (.done (.error error)) u :=
    hnext
  exact Drives.next h hcontinued

namespace IngressRealizationAdapter

variable {adapter : IngressRealizationAdapter} {context : IngressContext}
  {ingressId : String}

/-! ## Grants -/

/-- The answers to a step that is not interrupted: transactions commit, and the
authorizer grants the use of the provider's token. -/
structure Obliging (context : IngressContext)
    (authority : CloudflareZoneIngressAuthority) (answers : IngressAnswers) : Prop where
  committed : answers.transaction = .committed
  granted : ∃ grant, answers.resolution = .ok (some grant) ∧
    grantsApiToken context authority grant = true

/-- The adapter is configured, and the token may be asked for. -/
structure Configured (adapter : IngressRealizationAdapter) (context : IngressContext)
    (authority : CloudflareZoneIngressAuthority) : Prop where
  interpreter : adapter.hasInterpreter = true
  authorizer : adapter.hasAuthorizer = true
  command : ∃ command, apiTokenCommand context authority = .ok command

theorem interpreter_gives (h : adapter.hasInterpreter = true) :
    Gives adapter.interpreter s [] () s :=
  gives_computed (by rw [requireIngress, h]; rfl)

theorem authorizeApiToken_gives {authority : CloudflareZoneIngressAuthority}
    (h : Configured adapter context authority)
    (hanswers : Obliging context authority answers) :
    ∃ grant, Gives (adapter.authorizeApiToken context authority) s
      [answers] grant s := by
  obtain ⟨command, hcommand⟩ := h.command
  obtain ⟨grant, hgrant, hgrants⟩ := hanswers.granted
  have hauthorizer : requireIngress adapter.hasAuthorizer
      (invalidOperation "ingress secret resolution requires an operations authorizer") =
        .ok () := by
    rw [requireIngress, h.authorizer]
    rfl
  have hasked : Gives (asking (·.resolution) fun _ s => s) s [answers]
      (some grant) s := by
    rw [Gives, ← hgrant]
    exact drives_asking
  refine ⟨grant, (gives_computed hauthorizer).then
    ((gives_computed (by rw [hcommand]; rfl)).then
    (hasked.cons ?_))⟩
  dsimp only
  rw [if_pos hgrants]
  exact gives_pure grant

/-- The provider that keeps the generated secrets is in force, and grants a
reference. -/
structure CustodyInForce (context : IngressContext)
    (authority : CloudflareZoneIngressAuthority) (reference : SecretReference)
    (s : IngressStores) (grant : SecretCustodyGrant) : Prop where
  provided : ∃ provider,
    SecretProviderStore.requireActiveRegistration s.secrets.providers
    context.workspaceId authority.generatedSecretProviderRegistrationId = .ok provider ∧
    custodyGrantFor context provider reference = .ok grant

theorem secretCustodyGrant_gives {authority : CloudflareZoneIngressAuthority}
    {reference : SecretReference} {grant : SecretCustodyGrant}
    (h : CustodyInForce context authority reference s grant)
    (hcommitted : answers.transaction = .committed) :
    Gives (secretCustodyGrant context authority reference) s [answers] grant s := by
  obtain ⟨provider, hprovider, hgrant⟩ := h.provided
  exact (gives_reading hcommitted (by rw [hprovider]; rfl)).cons (gives_computed hgrant)

/-- A granted activity names its run by a canonical identity. -/
theorem custodyGrantFor_identified {provider : RegisteredSecretProvider}
    {reference : SecretReference} {grant : SecretCustodyGrant}
    (h : custodyGrantFor context provider reference = .ok grant) :
    isCanonicalIdentity context.runId = true := by
  simp only [custodyGrantFor, checkCustodyGrant, requireGrantIdentity, bind_ok,
    requireIngress_eq_ok] at h
  obtain ⟨_, -, _, -, ⟨⟩, ⟨⟨⟩, -, ⟨⟩, -, ⟨⟩, -, ⟨⟩, hrun, -⟩, -⟩ := h
  exact hrun

/-! ### Activities whose texts are well formed -/

/-- The texts of an activity may stand in its grants. -/
structure WellFormed (context : IngressContext) : Prop where
  workspace : isReference context.workspaceId = true
  worker : isReference context.workerId = true
  request : isCanonicalIdentity context.requestId = true
  session : isCanonicalIdentity context.sessionId = true
  run : isCanonicalIdentity context.runId = true
  activity : isCanonicalIdentity context.activityId = true
  event : isCanonicalIdentity context.eventId = true
  occurred : requireBoundedText context.occurredAt "requested_at" 128 = .ok ()
  scope : context.scopes.contains .secretProviderUse = true

theorem WellFormed.command (h : WellFormed context)
    (authority : CloudflareZoneIngressAuthority) :
    ∃ command, apiTokenCommand context authority = .ok command := by
  have hrun : (apiTokenUse context authority).runId.all isCanonicalIdentity = true :=
    h.run
  have hcorrelation : secretUseCorrelationFor (apiTokenUse context authority) =
      .ok ("secret-use:" ++ sha256Hexdigest (String.ofList ('\x7b' ::
        objectTail (apiTokenUse context authority).correlationSemantics))) := by
    have hworkspace : isReference (apiTokenUse context authority).workspaceId =
      true := h.workspace
    have hworker : isReference (apiTokenUse context authority).actorSubject =
      true := h.worker
    simp only [secretUseCorrelationFor, requireIdentifier_of_reference hworkspace,
      requireIdentifier_of_reference hworker, requireThat_of hrun, ok_bind]
    rfl
  have hidentity : ∀ value field, isCanonicalIdentity value = true →
      requireOptionalIdentity (some value) field = .ok () :=
        fun _ _ hvalue => requireThat_of hvalue
  have hnone : requireOptionalIdentity none "probe_id" = .ok () := rfl
  have hcanonical := @isCanonicalIdentity_tagged "secret-use:" (by decide) (by decide)
    (String.ofList
      ('\x7b' :: objectTail (apiTokenUse context authority).correlationSemantics))
  simp only [apiTokenCommand, hcorrelation, ok_bind, checkSecretUse,
    requireThat_of hcanonical]
  simp only [apiTokenUse, requireIdentifier_of_reference h.workspace,
    requireIdentifier_of_reference h.worker, h.occurred, hidentity _ _ h.request,
    hidentity _ _ h.session, hidentity _ _ h.run, hidentity _ _ h.activity,
    hidentity _ _ h.event, hnone, ok_bind]
  exact ⟨_, rfl⟩

/-- A provider that takes a reference grants its custody. -/
theorem WellFormed.custody (h : WellFormed context)
    {authority : CloudflareZoneIngressAuthority} {provider : RegisteredSecretProvider}
    {reference : SecretReference}
    (hprovider : SecretProviderStore.requireActiveRegistration s.secrets.providers
      context.workspaceId authority.generatedSecretProviderRegistrationId =
        .ok provider)
    (hgrantable : Grantable provider
      (course context) reference .cloudflareTunnelToken) :
    ∃ grant, CustodyInForce context authority reference s grant ∧
      GrantOf provider (course context) reference .cloudflareTunnelToken grant := by
  obtain ⟨correlationId, hcorrelation, hcanonical⟩ := hgrantable.correlation
  obtain ⟨grant, hgrant⟩ := hgrantable.grant hcanonical
  refine ⟨grant, ⟨provider, hprovider, ?_⟩, secretCustodyGrantFor_spec hgrant⟩
  have hidentity : ∀ value label, isCanonicalIdentity value = true →
      requireGrantIdentity value label = .ok () :=
        fun _ _ hvalue => requireIngress_eq_ok.mpr hvalue
  have hcheck : checkCustodyGrant context = .ok () := by
    simp only [checkCustodyGrant, hidentity _ _ h.request, hidentity _ _ h.session,
      hidentity _ _ h.event, hidentity _ _ h.run, hidentity _ _ h.activity, ok_bind]
  simp only [custodyGrantFor, hcorrelation, hgrant, Except.mapError, ok_bind, hcheck]
  rfl

theorem requireIngressText_of_reference {value field : String}
    (h : isReference value = true) : requireIngressText value field = .ok () := by
  have hbounded := @requireBoundedText_of_reference value field 128 h (Nat.le_refl 128)
  simp only [requireBoundedText, requireThat_eq_ok, Bool.and_eq_true, decide_eq_true_eq,
    List.all_eq_true] at hbounded
  obtain ⟨⟨hnonempty, hlength⟩, hchars⟩ := hbounded
  have hprintable : (value.toList.any fun character => decide (character.toNat < 32)) =
      false := by
    rw [List.any_eq_false]
    intro character hmem
    simpa using hchars character hmem
  have hbetween : ¬ (value = "" ∨ 512 < value.length) := by
    rintro (hempty | hlong)
    · exact hnonempty hempty
    · omega
  rw [requireIngressText, validateIdentifier, if_neg hbetween, hprintable]
  rfl

theorem referencePieces_below (reference below : SecretReference) (text : String)
    (h : below.referenceId = reference.referenceId ++ ("/" ++ text)) :
    referencePieces below = referencePieces reference ++ text.toList.splitOn '/' := by
  rw [referencePieces, h, String.toList_append, String.toList_append]
  exact List.splitOn_append_cons_self _ _

/-- A reference below another is within it. -/
theorem referenceIsWithin_below {reference below : SecretReference} {text : String}
    (h : below.referenceId = reference.referenceId ++ ("/" ++ text))
    (hpieces : 3 ≤ (referencePieces reference).length) :
    referenceProviderId below = referenceProviderId reference ∧
      referenceIsWithin below reference = true := by
  have hsplit := referencePieces_below reference below text h
  have hprovider : referenceProviderId below = referenceProviderId reference := by
    rw [referenceProviderId, referenceProviderId, hsplit, List.getD_eq_getElem?_getD,
      List.getD_eq_getElem?_getD, List.getElem?_append_left (by omega)]
  refine ⟨hprovider, ?_⟩
  have hpath : referencePath below = referencePath reference ++
      text.toList.splitOn '/' := by
    rw [referencePath, referencePath, hsplit, List.drop_append_of_le_length hpieces]
  rw [referenceIsWithin, hprovider, hpath, List.take_left]
  simp

/-! ## Removals -/

/-- What a removal stands on, but for the row it is to remove. -/
structure RemovalInForce (adapter : IngressRealizationAdapter)
    (context : IngressContext) (ingressId : String) (s : IngressStores) where
  graph : DeploymentGraph
  pinned : context.baseGraph = .ok graph
  ingress : NamedPublicIngress
  named : ingressById graph ingressId = .ok ingress
  authority : RegisteredIngressAuthority
  active : requireActiveForHostname s.authorities context.workspaceId
    ingress.authorityRef ingress.hostname = .ok authority
  configured : Configured adapter context authority.entry.authority

/-- The authority is still that of the row, and its secret may be used. -/
structure RemovalInForce.Covers {s : IngressStores}
    (force : RemovalInForce adapter context ingressId s)
    (row : CloudflareOwnedIngressResource) : Prop where
  plan : ∃ plan,
    cloudflareIngressTeardownPlan force.authority.entry.authority row = .ok plan
  custody : ∀ evidence ∈ s.generated, evidence.source = row.source →
    ∃ grant,
      CustodyInForce context force.authority.entry.authority evidence.secretRef s grant

theorem activeAuthority_gives (force : RemovalInForce adapter context ingressId s)
    (hcommitted : answers.transaction = .committed) :
    Gives (activeAuthority context force.ingress) s [answers] force.authority s :=
  gives_reading hcommitted force.active

theorem requireActiveCloudflare_active {key : IngressKey}
    {row : CloudflareOwnedIngressResource} (h : s.Coherent)
    (hrow : ActiveRow (rowsOf s.resources key) row) :
    requireActiveCloudflare s.resources key = .ok row := by
  obtain ⟨hstatus, closed, hsplit⟩ := hrow
  have hclosed := (h.numbered key).removed
  rw [hsplit, List.dropLast_concat] at hclosed
  have hseen : getCloudflareByStatus s.resources key [.active] = some row :=
    getCloudflareByStatus_newest hsplit hclosed (by decide)
      (List.mem_singleton.mpr hstatus)
  rw [requireActiveCloudflare, hseen]

/-- **An active row has its evidence** under the run, the activity and the event it
names. -/
theorem getBySource_active {row : CloudflareOwnedIngressResource} (h : s.Coherent)
    (hrow : row ∈ s.resources) (hstatus : row.status = .active) :
    ∃ evidence ∈ s.generated, evidence.source = row.source ∧
      GeneratedIngressSecretStore.getBySource s.generated row.source =
        .ok evidence := by
  obtain ⟨evidence, hevidence, hdocuments⟩ := h.documented row hrow
  have hsource : evidence.source = row.source := by
    rw [GeneratedIngressSecretReference.source, CloudflareOwnedIngressResource.source,
      hdocuments.workspace, hdocuments.run hstatus, hdocuments.activity,
      hdocuments.event]
  cases hfound : GeneratedIngressSecretStore.bySource s.generated row.source with
  | none =>
      have hnone := List.find?_eq_none.mp hfound evidence hevidence
      exact absurd hsource (by simpa using hnone)
  | some first =>
      obtain ⟨hmem, hfirst⟩ := GeneratedIngressSecretStore.bySource_eq_some hfound
      have hrun : row.source.runId = first.sourceRunId := congrArg (·.runId) hfirst.symm
      refine ⟨first, hmem, hfirst, ?_⟩
      rw [GeneratedIngressSecretStore.getBySource, requireIngressIdentity, hrun,
        requireIngress, h.identified first hmem, if_pos rfl, ok_bind, hfound]

/-- **A removal that is in force is planned**, where its row is active. -/
theorem planRemoval_gives {row : CloudflareOwnedIngressResource} (h : s.Coherent)
    (force : RemovalInForce adapter context ingressId s) (hcovers : force.Covers row)
    (hrow : ActiveRow (rowsOf s.resources (context.workspaceId, ingressId)) row)
    {a b c d e : IngressAnswers} (hinputs : ∀ answers ∈ [a, b, c, d, e],
      Obliging context force.authority.entry.authority answers) :
    ∃ removal, removal.plan.resource = row ∧
      (removal.plan.skips = true ↔ row.lifecycle ≠ .ephemeral) ∧
      isCanonicalIdentity context.runId = true ∧
      Gives (adapter.planRemoval context ingressId) s [a, b, c, d, e] removal s := by
  simp only [List.forall_mem_cons] at hinputs
  obtain ⟨ha, hb, hc, hd, he, -⟩ := hinputs
  obtain ⟨plan, hplan⟩ := hcovers.plan
  obtain ⟨hresource, hskips⟩ := cloudflareIngressTeardownPlan_spec hplan
  obtain ⟨closed, hsplit⟩ := hrow.2
  have hmem : row ∈ rowsOf s.resources (context.workspaceId, ingressId) :=
    hsplit ▸ by simp
  have hworkspace : row.workspaceId = context.workspaceId :=
    congrArg Prod.fst (mem_rowsOf.mp hmem).2
  obtain ⟨evidence, hevidence, hsource, hstored⟩ :=
    getBySource_active h (mem_rowsOf.mp hmem).1 hrow.1
  rw [CloudflareOwnedIngressResource.source, hworkspace] at hstored
  obtain ⟨custodyGrant, hcustody⟩ := hcovers.custody evidence hevidence hsource
  obtain ⟨grant, hgrant⟩ := authorizeApiToken_gives (s := s) force.configured hc
  obtain ⟨provider, -, hgranted⟩ := hcustody.provided
  refine ⟨⟨plan, grant, custodyGrant⟩, hresource, hskips,
    custodyGrantFor_identified hgranted, ?_⟩
  unfold planRemoval
  refine (gives_computed force.pinned).then ?_
  refine (gives_computed force.named).then ?_
  refine (activeAuthority_gives force ha.committed).cons ?_
  refine (gives_reading hb.committed (requireActiveCloudflare_active h hrow)).cons ?_
  refine (gives_computed hplan).then ?_
  refine (interpreter_gives force.configured.interpreter).then ?_
  refine hgrant.cons ?_
  refine (gives_reading hd.committed hstored).cons ?_
  exact (secretCustodyGrant_gives hcustody he.committed).cons (gives_pure _)

theorem markRemoving_active {key : IngressKey} {row : CloudflareOwnedIngressResource}
    {sourceRunId : String} (h : s.Coherent)
    (hrow : ActiveRow (rowsOf s.resources key) row)
    (hrun : isCanonicalIdentity sourceRunId = true) :
    ∃ updated after, markRemoving s.resources key sourceRunId =
      .ok (updated, after) := by
  have hremoval : RemovalEvidence .removing row.removedAt row.removedByRunId :=
    ⟨nofun, fun _ => row.removal.2 (by rw [hrow.1]; decide)⟩
  have hreplaced : ∃ updated,
      row.replaced .removing sourceRunId row.removedAt row.removedByRunId =
      .ok updated := ⟨_, dif_pos hremoval⟩
  obtain ⟨updated, hupdated⟩ := hreplaced
  simp only [markRemoving, requireIngressIdentity, requireIngress, hrun, if_true,
    ok_bind, requireActiveCloudflare_active h hrow, hupdated]
  exact ⟨_, _, rfl⟩

/-- **A removal that is in force reaches the teardown**, where its row is active and its
resources are the activity's to remove. -/
theorem remove_drives {row : CloudflareOwnedIngressResource} (h : s.Coherent)
    (force : RemovalInForce adapter context ingressId s) (hcovers : force.Covers row)
    (hrow : ActiveRow (rowsOf s.resources (context.workspaceId, ingressId)) row)
    (hephemeral : row.lifecycle = .ephemeral) {a b c d e f : IngressAnswers}
    (hinputs : ∀ answers ∈ [a, b, c, d, e, f],
      Obliging context force.authority.entry.authority answers) :
    ∃ plan updated after,
      markRemoving s.resources (context.workspaceId, ingressId) context.runId =
        .ok (updated, after) ∧
      Drives (adapter.remove context ingressId) s [a, b, c, d, e, f]
        (adapter.tearDownRemoval context (context.workspaceId, ingressId) plan updated)
        { s with resources := after } := by
  simp only [List.forall_mem_cons] at hinputs
  obtain ⟨ha, hb, hc, hd, he, hf, -⟩ := hinputs
  obtain ⟨removal, -, hskips, hrun, hplanned⟩ := planRemoval_gives h force hcovers hrow
    (a := a) (b := b) (c := c) (d := d) (e := e) (by simp [ha, hb, hc, hd, he])
  have hcarried : removal.plan.skips = false := by
    rw [← Bool.not_eq_true, hskips]
    exact not_not.mpr hephemeral
  obtain ⟨updated, after, hmark⟩ := markRemoving_active h hrow hrun
  refine ⟨removal.plan, updated, after, hmark, ?_⟩
  have hmarking : Gives (marking fun rows => markRemoving rows (context.workspaceId,
      ingressId) context.runId) s [f] updated { s with resources := after } :=
    gives_transaction hf.committed (by simp only [hmark, Except.map])
  unfold remove
  show Drives _ s ([a, b, c, d, e] ++ [f]) _ _
  refine hplanned.next ?_
  dsimp only
  rw [hcarried, if_neg Bool.false_ne_true]
  exact hmarking.value

theorem tearDownRemoval_drives {key : IngressKey} {plan : CloudflareIngressTeardownPlan}
    {current : CloudflareOwnedIngressResource} {g : IngressAnswers} :
    ∃ call left, (call = .tornDown current.coordinates ∨
      call = .teardownRaised current.coordinates) ∧
      Drives (adapter.tearDownRemoval context key plan current) s
        [g] left (s.logged key call) := by
  have hasked : Drives (tearDownIngress key current.coordinates).run s [g]
      (.done g.teardown) _ :=
    drives_asking
  unfold tearDownRemoval
  cases hanswer : g.teardown with
  | ok value =>
      rw [hanswer] at hasked
      exact ⟨_, _, .inl rfl, hasked.value⟩
  | error error =>
      rw [hanswer] at hasked
      exact ⟨_, _, .inr rfl, hasked.value⟩

/-- **A removal that finds no active row is refused**, though its authority is in
force. -/
theorem remove_refused (force : RemovalInForce adapter context ingressId s)
    (hrows : ∀ row ∈ rowsOf s.resources (context.workspaceId, ingressId),
      row.status ≠ .active)
    {a b : IngressAnswers} (ha : a.transaction = .committed)
    (hb : b.transaction = .committed) :
    Drives (adapter.remove context ingressId) s [a, b]
      (.done
        (adapter.unsupported context "RemovePublicIngress" "ingress.remove-unsupported"
        "active owned ingress resource was not found")) s := by
  have hnone : getCloudflareByStatus s.resources (context.workspaceId, ingressId)
      [.active] = none := by
    cases hrow : getCloudflareByStatus s.resources (context.workspaceId, ingressId)
        [.active] with
    | none => rfl
    | some row =>
        obtain ⟨hmem, hstatus⟩ :=
          List.mem_filter.mp (List.argmax_mem (Option.mem_def.mpr hrow))
        exact absurd (by simpa using hstatus) (hrows row hmem)
  have hread : requireActiveCloudflare s.resources (context.workspaceId, ingressId) =
      .error (ingressNotFound "active owned ingress resource was not found") := by
    rw [requireActiveCloudflare, hnone]
  have hplanned : Raises (adapter.planRemoval context ingressId) s [a, b]
      (ingressNotFound "active owned ingress resource was not found") s := by
    unfold planRemoval
    refine (gives_computed force.pinned).thenRaises ?_
    refine (gives_computed force.named).thenRaises ?_
    refine (activeAuthority_gives force ha).consRaises ?_
    exact (raises_reading hb hread).bind
  exact hplanned.value

/-! ## Allocations -/

/-- What an allocation stands on. -/
structure AllocationInForce (adapter : IngressRealizationAdapter)
    (context : IngressContext) (ingressId : String) (s : IngressStores) where
  graph : DeploymentGraph
  pinned : context.desiredGraph = .ok graph
  ingress : NamedPublicIngress
  named : ingressById graph ingressId = .ok ingress
  originServiceUrl : String
  origin : adapter.originServiceUrl graph ingress = .ok originServiceUrl
  authority : RegisteredIngressAuthority
  active : requireActiveForHostname s.authorities context.workspaceId
    ingress.authorityRef ingress.hostname = .ok authority
  configured : Configured adapter context authority.entry.authority
  free : getBlockingCloudflare s.resources (context.workspaceId, ingressId) = none
  custodyGrant : SecretCustodyGrant
  custody : CustodyInForce context authority.entry.authority
    (generatedSecretReference context authority.entry.authority) s custodyGrant

/-- What the allocation is decided on. -/
def AllocationInForce.plan (force : AllocationInForce adapter context ingressId s) :
    PlannedAllocation where
  graph := force.graph
  ingress := force.ingress
  originServiceUrl := force.originServiceUrl
  authority := force.authority.entry.authority
  taken := false

theorem planAllocation_gives (force : AllocationInForce adapter context ingressId s)
    {a b : IngressAnswers} (ha : a.transaction = .committed)
    (hb : b.transaction = .committed) :
    Gives (adapter.planAllocation context ingressId) s [a, b] force.plan s := by
  have hfree : (getCloudflare s.resources (context.workspaceId, ingressId)).isOk =
      false := by
    rw [getCloudflare, force.free]
    rfl
  have htaken : Gives (reading fun s => .ok
      (getCloudflare s.resources (context.workspaceId, ingressId)).isOk) s
      [b] false s :=
    gives_reading hb (by rw [hfree])
  unfold planAllocation
  refine (gives_computed force.pinned).then ?_
  refine (gives_computed force.named).then ?_
  refine (gives_computed force.origin).then ?_
  refine Gives.cons (gives_reading ha force.active) ?_
  refine (interpreter_gives force.configured.interpreter).then ?_
  exact htaken.cons (gives_pure _)

theorem readClock_gives {recordedAt : String} (hclock : answers.clock = .ok recordedAt)
    (hcanonical : (canonicalInstant recordedAt).isSome = true) :
    Gives readClock s [answers] recordedAt s := by
  have hasked : Gives (asking (·.clock) fun _ s => s) s [answers] recordedAt s := by
    rw [Gives, ← hclock]
    exact drives_asking
  exact hasked.cons
    ((gives_computed (by rw [requireIngress, hcanonical]; rfl)).then (gives_pure _))

/-- **An allocation that is in force commits its records**, where the provider creates
what it is asked for. -/
theorem allocate_drives (force : AllocationInForce adapter context ingressId s)
    {recordedAt : String} {allocation : IngressAllocationResult}
    {records : AllocationRecords} {after : IngressStores}
    {a b c d e f g : IngressAnswers} (hinputs : ∀ answers ∈ [a, b, c, d],
      Obliging context force.authority.entry.authority answers)
    (hclock : e.clock = .ok recordedAt)
    (hcanonical : (canonicalInstant recordedAt).isSome = true)
    (hcreation : f.creation = .ok allocation) (hcommitted : g.transaction = .committed)
    (hrecords : adapter.allocationRecords context force.plan
      force.custodyGrant recordedAt
      allocation = .ok records)
    (hfold : ∀ calls,
      foldAllocation force.custodyGrant records { s with calls := calls } =
      .ok ((), { after with calls := calls })) :
    ∃ calls, Drives (adapter.allocate context ingressId) s [a, b, c, d, e, f, g]
      (.done
        (adapter.succeeded (allocationEvidence force.plan records.resource allocation)))
      { after with calls := calls } := by
  simp only [List.forall_mem_cons] at hinputs
  obtain ⟨ha, hb, hc, hd, -⟩ := hinputs
  obtain ⟨grant, hgrant⟩ := authorizeApiToken_gives (s := s) force.configured hc
  have hgrants : Gives (adapter.authorizeAllocation context
      force.authority.entry.authority) s [c, d] (grant, force.custodyGrant) s :=
    hgrant.cons
      ((secretCustodyGrant_gives force.custody hd.committed).cons (gives_pure _))
  have hcreated : Drives (createIngress (context.workspaceId, ingressId)
      (creationOf context force.plan grant force.custodyGrant)).run s [f] (.done
      (.ok allocation))
      (s.logged (context.workspaceId, ingressId)
        (.created (creationOf context force.plan grant force.custodyGrant)
          allocation)) := by
    have hasked : Drives (createIngress (context.workspaceId, ingressId)
        (creationOf context force.plan grant force.custodyGrant)).run s [f]
        (.done f.creation) _ :=
      drives_asking
    rw [hcreation] at hasked
    exact hasked
  have hrecorded : Gives (adapter.recordAllocation context force.plan force.custodyGrant
        recordedAt allocation) (s.logged (context.workspaceId, ingressId)
        (.created (creationOf context force.plan grant force.custodyGrant) allocation))
        [g] records.resource { after with
          calls := s.calls ++ [((context.workspaceId, ingressId),
        .created (creationOf context force.plan grant force.custodyGrant)
          allocation)] } :=
    (gives_computed hrecords).then
      ((gives_transaction hcommitted (hfold _)).cons (gives_pure _))
  refine ⟨s.calls ++ [((context.workspaceId, ingressId),
    .created (creationOf context force.plan grant force.custodyGrant) allocation)], ?_⟩
  show Drives _ s ([a, b] ++ ([c, d] ++ ([e] ++ ([f] ++ [g])))) _ _
  refine (planAllocation_gives force ha.committed hb.committed).next ?_
  refine Drives.next hgrants ?_
  refine Drives.next (readClock_gives hclock hcanonical) ?_
  refine hcreated.next ?_
  exact hrecorded.value

end IngressRealizationAdapter

end ControlPlaneKit.Operations
