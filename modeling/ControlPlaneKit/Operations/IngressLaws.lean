import ControlPlaneKit.Operations.IngressSteps

/-!
# IngressLaws — no ingress resource is lost

Each activity is followed from the state it was started in: which calls of the
provider it made, how it ended, and what the tables then hold.  An allocation ends
recorded, torn down again or uncertain.

## Main results

* `allocate_owes` — every end of an allocation, whatever the surroundings answer.
-/

namespace ControlPlaneKit.Operations

open ControlPlaneKit.Library.EventFold (bind_ok)
open ControlPlaneKit.Library.Interleaved (Program)
open ControlPlaneKit.Library.Lanes
open ControlPlaneKit.Library.Outcome (mapError_eq_ok map_eq_ok)
open ControlPlaneKit.Topology
open IngressResourceStore

variable {key : IngressKey} {s t u : IngressStores}

/-! ## Outcomes -/

namespace IngressRealizationAdapter

variable {adapter : IngressRealizationAdapter} {context : IngressContext}

/-- Failure evidence that cannot be built is an exception, which is recorded as
uncertain. -/
theorem recordedKind_failing (kind : EffectResultKind) (category : FailureCategory)
    (code message : String) (details : Library.PyDict) :
    recordedKind (adapter.failing kind category code message details) = kind ∨
      recordedKind (adapter.failing kind category code message details) =
        .uncertain := by
  cases houtcome : adapter.failing kind category code message details with
  | error error => exact .inr rfl
  | ok outcome =>
      simp only [failing, bind_ok] at houtcome
      obtain ⟨_, -, ⟨⟩, -, hpure⟩ := houtcome
      cases hpure
      exact .inl rfl

theorem recordedKind_uncertain (code exceptionType : String)
    (providerFailure : Library.PyDict) :
    recordedKind (adapter.uncertain code exceptionType providerFailure) = .uncertain :=
  (recordedKind_failing _ _ _ _ _).elim id id

/-- An answer of this kind is recorded as such, or as uncertain where its evidence is
refused. -/
theorem recordedKind_unsupported (operation code message : String) :
    recordedKind (adapter.unsupported context operation code message) = .unsupported ∨
      recordedKind (adapter.unsupported context operation code message) = .uncertain :=
  recordedKind_failing _ _ _ _ _

/-- So is a success. -/
theorem recordedKind_succeeded (details : Library.PyDict) :
    recordedKind (adapter.succeeded details) = .succeeded ∨
      recordedKind (adapter.succeeded details) = .uncertain := by
  cases houtcome : adapter.succeeded details with
  | error error => exact .inr rfl
  | ok outcome =>
      simp only [succeeded, bind_ok] at houtcome
      obtain ⟨evidence, -, hpure⟩ := houtcome
      cases hpure
      exact .inl rfl

/-- The code an outcome fails with. -/
def failureCode : IngressAnswer → Option String
  | .ok outcome => outcome.failure.map (·.code)
  | .error _ => none

/-- A failure has the code it was given. -/
theorem failureCode_failing {kind : EffectResultKind} {category : FailureCategory}
    {code message other : String} {details : Library.PyDict}
    (h : failureCode (adapter.failing kind category code message details) =
      some other) :
    other = code := by
  cases houtcome : adapter.failing kind category code message details with
  | error error =>
      rw [houtcome] at h
      cases h
  | ok outcome =>
      rw [houtcome] at h
      simp only [failing, bind_ok] at houtcome
      obtain ⟨_, -, ⟨⟩, -, hpure⟩ := houtcome
      cases hpure
      exact (Option.some.inj h).symm

theorem failureCode_succeeded (details : Library.PyDict) :
    failureCode (adapter.succeeded details) = none := by
  cases houtcome : adapter.succeeded details with
  | error error => rfl
  | ok outcome =>
      simp only [succeeded, bind_ok] at houtcome
      obtain ⟨evidence, -, hpure⟩ := houtcome
      cases hpure
      rfl

/-- The outcome does not say that the ingress is allocated already. -/
def NotConflict (answer : IngressAnswer) : Prop :=
  failureCode answer ≠ some "ingress.allocate-conflict"

/-- An answer with another code is no conflict. -/
theorem notConflict_failing {kind : EffectResultKind} {category : FailureCategory}
    {code message : String} {details : Library.PyDict}
    (hcode : code ≠ "ingress.allocate-conflict") :
    NotConflict (adapter.failing kind category code message details) :=
  fun h => hcode (failureCode_failing h).symm

/-- What is raised is no conflict. -/
theorem notConflict_error (error : IngressError) : NotConflict (.error error) := by
  intro h
  cases h

theorem notConflict_succeeded (details : Library.PyDict) :
    NotConflict (adapter.succeeded details) := by
  rw [NotConflict, failureCode_succeeded]
  exact nofun

/-! ## What is decided before anything is written -/

/-- The ingress that is found has the name that was asked for. -/
theorem ingressById_named {graph : DeploymentGraph} {ingressId : String}
    {ingress : NamedPublicIngress} (h : ingressById graph ingressId = .ok ingress) :
    ingress.ingressId = ingressId := by
  unfold ingressById at h
  split at h
  · rename_i found hfound
    cases h
    simpa using List.find?_some hfound
  · cases h

/-- Asking for the provider's token writes nothing. -/
theorem readsOnly_authorizeApiToken (authority : CloudflareZoneIngressAuthority) :
    ReadsOnly key (adapter.authorizeApiToken context authority) fun _ _ => True := by
  refine readsOnly_computing.bind fun _ => readsOnly_computing.bind fun _ =>
    readsOnly_asking.bind fun answer => ?_
  cases answer with
  | none => exact readsOnly_computed fun _ _ _ _ _ _ => trivial
  | some grant =>
      dsimp only
      split
      · exact readsOnly_pure fun _ _ _ _ => trivial
      · exact readsOnly_computed fun _ _ _ _ _ _ => trivial

/-- A custody grant is for the workspace of its context. -/
theorem custodyGrantFor_workspace {provider : RegisteredSecretProvider}
    {reference : SecretReference} {grant : SecretCustodyGrant}
    (h : custodyGrantFor context provider reference = .ok grant) :
    grant.workspaceId = context.workspaceId := by
  simp only [custodyGrantFor, bind_ok, mapError_eq_ok] at h
  obtain ⟨correlationId, -, grant', hgrant, ⟨⟩, -, hpure⟩ := h
  cases hpure
  simp only [secretCustodyGrantFor, bind_ok] at hgrant
  obtain ⟨⟨⟩, -, ⟨⟩, -, ⟨⟩, -, ⟨⟩, -, ⟨⟩, -, ⟨⟩, -, ⟨⟩, -, hpure⟩ := hgrant
  cases hpure
  rfl

theorem readsOnly_secretCustodyGrant (authority : CloudflareZoneIngressAuthority)
    (reference : SecretReference) :
    ReadsOnly key (secretCustodyGrant context authority reference) fun _ grant =>
      grant.workspaceId = context.workspaceId :=
  readsOnly_viewing.bind fun _ =>
    readsOnly_computed fun _ _ hgrant _ => custodyGrantFor_workspace hgrant

theorem readsOnly_authorizeAllocation (authority : CloudflareZoneIngressAuthority) :
    ReadsOnly key (adapter.authorizeAllocation context authority) fun _ grants =>
      grants.2.workspaceId = context.workspaceId :=
  (readsOnly_authorizeApiToken authority).bind fun _ =>
    (readsOnly_secretCustodyGrant authority _).bind fun _ =>
      readsOnly_pure fun _ hgrant _ => hgrant

/-- A row of the ingress blocks. -/
def Blocked (rows : List CloudflareOwnedIngressResource) : Prop :=
  ∃ row ∈ rows, row.status ≠ .removed

/-- **An ingress is taken** while a row of it is not removed. -/
theorem getCloudflare_isOk (h : t.Coherent) (key : IngressKey) :
    (getCloudflare t.resources key).isOk = true ↔ Blocked (rowsOf t.resources key) := by
  unfold getCloudflare
  cases hrow : getBlockingCloudflare t.resources key with
  | none =>
      refine ⟨nofun, fun hblocked => ?_⟩
      obtain ⟨row, hmem, hstatus⟩ := hblocked
      exact absurd (getBlockingCloudflare_eq_none hrow row hmem) hstatus
  | some row =>
      obtain ⟨hin, closed, hsplit, -⟩ :=
        getCloudflareByStatus_eq_some (h.numbered key) removed_not_blocking hrow
      exact ⟨fun _ =>
        ⟨row, hsplit ▸ List.mem_append_right _ (by simp), mem_blockingStatuses.mp hin⟩,
        fun _ => rfl⟩

/-- **A planned allocation** wrote nothing, and knows whether the ingress is taken. -/
theorem readsOnly_planAllocation (ingressId : String) :
    ReadsOnly (context.workspaceId, ingressId)
      (adapter.planAllocation context ingressId)
      fun rows plan => plan.ingress.ingressId = ingressId ∧
      (plan.taken = true ↔ Blocked rows) := by
  have hnamed : ∀ graph, ReadsOnly (context.workspaceId, ingressId)
      (computed (ingressById graph ingressId)) fun _ ingress =>
        ingress.ingressId = ingressId :=
    fun _ => readsOnly_computed fun _ _ hingress => ingressById_named hingress
  have htaken : ReadsOnly (context.workspaceId, ingressId)
      (reading fun s =>
        .ok (getCloudflare s.resources (context.workspaceId, ingressId)).isOk)
      fun rows taken => taken = true ↔ Blocked rows :=
    readsOnly_reading fun t hcoherent taken htaken =>
      Except.ok.inj htaken ▸ getCloudflare_isOk hcoherent _
  exact readsOnly_computing.bind fun graph => (hnamed graph).bind fun ingress =>
    readsOnly_computing.bind fun originServiceUrl =>
        readsOnly_viewing.bind fun authority =>
      readsOnly_computing.bind fun _ => htaken.bind fun taken =>
        readsOnly_pure fun rows htaken _ _ _ hnamed _ => ⟨hnamed, htaken⟩

/-! ## Recording an allocation -/

theorem generatedSecretReferenceCandidate_spec {grant : SecretCustodyGrant}
    {receipt : SecretCustodyReceipt} {admittedAt : String}
    {candidate : RegisteredSecretReference}
    (h : generatedSecretReferenceCandidate grant receipt admittedAt = .ok candidate) :
    candidate.scope = grant.workspaceId ∧ candidate.subject = grant.reference := by
  simp only [generatedSecretReferenceCandidate,
    RegisterSecretReferenceCommand.candidate, bind_ok] at h
  obtain ⟨⟨⟩, -, ⟨⟩, -, ⟨⟩, -, _, -, ⟨⟩, -, _, -, ⟨⟩, -, ⟨⟩, -, ⟨⟩, -, hpure⟩ := h
  cases hpure
  exact ⟨rfl, rfl⟩

/-- What an allocation is to write. -/
structure Describes (context : IngressContext) (ingressId : String)
    (allocation : IngressAllocationResult) (records : AllocationRecords) : Prop where
  agree : records.Agree
  key : records.resource.key = (context.workspaceId, ingressId)
  source : records.resource.source = context.source
  coordinates : records.resource.coordinates = allocation.coordinates
  evidence : records.evidence.source = context.source

/-- **The records of an allocation** are of its source, its ingress and its
workspace. -/
theorem allocationRecords_spec {plan : PlannedAllocation}
    {custodyGrant : SecretCustodyGrant} {recordedAt : String}
    {allocation : IngressAllocationResult} {records : AllocationRecords}
    (hworkspace : custodyGrant.workspaceId = context.workspaceId)
    (h : adapter.allocationRecords context plan custodyGrant recordedAt allocation =
      .ok records) :
    Describes context plan.ingress.ingressId allocation records := by
  simp only [allocationRecords, bind_ok] at h
  obtain ⟨connector, -, ⟨⟩, -, h⟩ := h
  split at h
  · cases h
  · rename_i receipt hreceipt
    simp only [bind_ok, mapError_eq_ok, requireIngress_eq_ok] at h
    obtain ⟨⟨⟩, hmatches, candidate, hcandidate, ⟨⟩, -, hpure⟩ := h
    cases hpure
    simp only [SecretCustodyReceipt.matchesGrant, Bool.and_eq_true,
      decide_eq_true_eq] at hmatches
    obtain ⟨hscope, hsubject⟩ := generatedSecretReferenceCandidate_spec hcandidate
    exact ⟨⟨⟨rfl, rfl, rfl, rfl, fun _ => rfl⟩, rfl, hscope.trans hworkspace, rfl,
      hsubject.trans hmatches.2.symm⟩, rfl, rfl, rfl, rfl⟩

/-- One transaction wrote the row, the reference and the evidence of an allocation, and
they are still there. -/
structure Recorded (key : IngressKey) (source : IngressSource)
    (allocation : IngressAllocationResult) (t : IngressStores) : Prop where
  row : ∃ row ∈ rowsOf t.resources key, row.status = .active ∧ row.source = source ∧
    row.coordinates = allocation.coordinates
  evidence : ∃ evidence ∈ t.generated, evidence.source = source ∧
    ∃ reference ∈ t.secrets.references, AdmittedBy evidence reference
  together : ∃ custodyGrant records before after,
    foldAllocation custodyGrant records before = .ok ((), after) ∧
      records.resource.key = key ∧ records.resource.source = source ∧
      records.evidence.source = source ∧ Stays key after t

/-- Records stay while only others write. -/
theorem Recorded.stays {source : IngressSource} {allocation : IngressAllocationResult}
    (h : Recorded key source allocation t) (hstays : Stays key t u) :
    Recorded key source allocation u where
  row := hstays.rows ▸ h.row
  evidence :=
    have ⟨evidence, hevidence, hsource, hadmitted⟩ := h.evidence
    ⟨evidence, hstays.generated evidence hevidence, hsource,
      AdmittedBy.kept hstays.references hadmitted⟩
  together :=
    have ⟨custodyGrant, records, before, after, hfold, hkey, hrow, hevidence, hsince⟩ :=
      h.together
    ⟨custodyGrant, records, before, after, hfold, hkey, hrow, hevidence,
      hsince.trans hstays⟩

/-- **The fold transaction** leaves the records of an allocation, or nothing of them. -/
theorem foldAllocation_owes {custodyGrant : SecretCustodyGrant}
    {records : AllocationRecords} {ingressId : String}
    {allocation : IngressAllocationResult} (s : IngressStores)
    (hdescribes : Describes context ingressId allocation records) :
    Owes (ingressTerms (context.workspaceId, ingressId))
      (transaction (foldAllocation custodyGrant records)).run
      (fun answer t => t.callsOf (context.workspaceId, ingressId) =
          s.callsOf (context.workspaceId, ingressId) ∧
        ∀ value, answer = .ok value →
          Recorded (context.workspaceId, ingressId) context.source allocation t) s := by
  refine owes_transaction (fun t error hstays _ => ⟨hstays.calls, nofun⟩)
    fun t hstays hcoherent value u hfold => ?_
  have hfolds := foldAllocation_spec hcoherent hdescribes.agree hfold
  have hcalls : u.callsOf (context.workspaceId, ingressId) =
      s.callsOf (context.workspaceId, ingressId) := by
    rw [IngressStores.callsOf, hfolds.calls]
    exact hstays.calls
  obtain ⟨row, hrow, epoch, hepoch⟩ := hfolds.row
  have hkey : row.key = (context.workspaceId, ingressId) := hepoch ▸ hdescribes.key
  have hstatus : row.status = .active := hepoch ▸ hdescribes.agree.active
  have hsource : row.source = context.source := hepoch ▸ hdescribes.source
  have hcoordinates : row.coordinates = allocation.coordinates :=
    hepoch ▸ hdescribes.coordinates
  have hrecorded : Recorded (context.workspaceId, ingressId) context.source
      allocation u :=
    ⟨⟨row, mem_rowsOf.mpr ⟨hrow, hkey⟩, hstatus, hsource, hcoordinates⟩,
      ⟨records.evidence, hfolds.evidence, hdescribes.evidence, hfolds.reference⟩,
      ⟨custodyGrant, records, t, u, hfold, hdescribes.key, hdescribes.source,
        hdescribes.evidence, Stays.refl _ _⟩⟩
  exact ⟨hdescribes.key ▸ hfolds.others, hfolds.coherent,
    ⟨hcalls, fun _ _ => hrecorded⟩, fun error => ⟨hcalls, nofun⟩⟩

/-- **Recording**: a value means that one transaction wrote everything. -/
theorem recordAllocation_owes {plan : PlannedAllocation}
    {custodyGrant : SecretCustodyGrant} {recordedAt : String}
    {allocation : IngressAllocationResult} (s : IngressStores)
    (hworkspace : custodyGrant.workspaceId = context.workspaceId) :
    Owes (ingressTerms (context.workspaceId, plan.ingress.ingressId))
      (adapter.recordAllocation context plan custodyGrant recordedAt allocation).run
      (fun answer t => t.callsOf (context.workspaceId, plan.ingress.ingressId) =
          s.callsOf (context.workspaceId, plan.ingress.ingressId) ∧
        ∀ resource, answer = .ok resource →
          Recorded (context.workspaceId, plan.ingress.ingressId) context.source
            allocation t) s := by
  unfold recordAllocation
  cases hrecords : adapter.allocationRecords context plan custodyGrant recordedAt
      allocation with
  | error error => exact owes_pure ⟨rfl, nofun⟩
  | ok records =>
      rw [computed_ok_bind]
      refine owes_bind (owes_mono (fun answer t hanswer => ?_)
        (foldAllocation_owes s (allocationRecords_spec hworkspace hrecords)))
      cases answer with
      | error error => exact ⟨hanswer.1, nofun⟩
      | ok value => exact ⟨hanswer.1, fun _ _ => hanswer.2 value rfl⟩

/-! ## The ends of an allocation -/

/-- How an allocation ends, by the calls it made of the provider. -/
inductive AllocationEnds (key : IngressKey) (source : IngressSource)
    (t : IngressStores) : List ProviderCall → IngressAnswer → Prop where
  /-- Nothing was asked of the provider. -/
  | refused (answer : IngressAnswer)
      (hkind : recordedKind answer = .unsupported ∨ recordedKind answer = .uncertain) :
      AllocationEnds key source t [] answer
  /-- The provider raised, whatever it had done before. -/
  | creationRaised (request : IngressCreation) (answer : IngressAnswer)
      (hkind : recordedKind answer = .uncertain) :
      AllocationEnds key source t [.creationRaised request] answer
  /-- What the provider created was recorded. -/
  | recorded (request : IngressCreation) (allocation : IngressAllocationResult)
      (answer : IngressAnswer)
      (hkind : recordedKind answer = .succeeded ∨ recordedKind answer = .uncertain)
      (hrecorded : Recorded key source allocation t) :
      AllocationEnds key source t [.created request allocation] answer
  /-- What the provider created was torn down again. -/
  | compensated (request : IngressCreation) (allocation : IngressAllocationResult)
      (answer : IngressAnswer)
      (hkind : recordedKind answer = .failed ∨ recordedKind answer = .uncertain) :
      AllocationEnds key source t
        [.created request allocation, .tornDown allocation.coordinates] answer
  /-- What the provider created may still be there. -/
  | compensationRaised (request : IngressCreation)
      (allocation : IngressAllocationResult) (answer : IngressAnswer)
      (hkind : recordedKind answer = .uncertain) : AllocationEnds key source t
      [.created request allocation, .teardownRaised allocation.coordinates] answer

/-- So do the ends of an allocation. -/
theorem AllocationEnds.stays {source : IngressSource} {own : List ProviderCall}
    {answer : IngressAnswer} (h : AllocationEnds key source t own answer)
    (hstays : Stays key t u) : AllocationEnds key source u own answer := by
  cases h with
  | refused _ hkind => exact .refused _ hkind
  | creationRaised request _ hkind => exact .creationRaised request _ hkind
  | recorded request allocation _ hkind hrecorded =>
      exact .recorded request allocation _ hkind (hrecorded.stays hstays)
  | compensated request allocation _ hkind =>
      exact .compensated request allocation _ hkind
  | compensationRaised request allocation _ hkind =>
      exact .compensationRaised request allocation _ hkind

/-- The end of an allocation that was started at `s`: its calls, its outcome, and that
it was refused as existing only where a row blocks, and called the provider only where
none does. -/
def AllocationSettles (key : IngressKey) (source : IngressSource) (s : IngressStores)
    (answer : IngressAnswer) (t : IngressStores) : Prop :=
  (failureCode answer = some "ingress.allocate-conflict" →
    Blocked (rowsOf s.resources key)) ∧
    ∃ own, CallsSince key s t own ∧ AllocationEnds key source t own answer ∧
      (own ≠ [] → ¬ Blocked (rowsOf s.resources key))

/-- A teardown is one call of the provider. -/
theorem tearDownIngress_owes (resources : IngressOwnedResourceCoordinates)
    (s : IngressStores) :
    Owes (ingressTerms key) (tearDownIngress key resources).run (fun answer t =>
      rowsOf t.resources key = rowsOf s.resources key ∧
        (answer = .ok () ∧ CallsSince key s t [.tornDown resources] ∨
          ∃ error, answer = .error error ∧
          CallsSince key s t [.teardownRaised resources])) s := by
  refine owes_asking fun t hstays hcoherent answer => ?_
  cases answer with
  | ok value =>
      obtain ⟨hlogged, hothers⟩ := hcoherent.logged
      exact ⟨hothers, hlogged, hstays.rows,
        .inl ⟨rfl, hstays.callsSince.trans (callsSince_logged key _ t)⟩⟩
  | error error =>
      obtain ⟨hlogged, hothers⟩ := hcoherent.logged
      exact ⟨hothers, hlogged, hstays.rows,
        .inr ⟨error, rfl, hstays.callsSince.trans (callsSince_logged key _ t)⟩⟩

/-- **The end of an allocation**: recorded, torn down again, or uncertain. -/
theorem settleAllocation_owes {plan : PlannedAllocation}
    {custodyGrant : SecretCustodyGrant} {recordedAt ingressId : String}
    {allocation : IngressAllocationResult} (request : IngressCreation)
    (s : IngressStores) (hworkspace : custodyGrant.workspaceId = context.workspaceId)
    (hnamed : plan.ingress.ingressId = ingressId) :
    Owes (ingressTerms (context.workspaceId, ingressId))
      (adapter.settleAllocation context
        (context.workspaceId, ingressId) plan custodyGrant recordedAt
        allocation)
      (fun answer t => NotConflict answer ∧
        ∃ own, CallsSince (context.workspaceId, ingressId) s t own ∧
          AllocationEnds (context.workspaceId, ingressId) context.source t
            (.created request allocation :: own) answer) s := by
  subst hnamed
  refine owes_bind
    (owes_mono (fun answer t hanswer => ?_) (recordAllocation_owes s hworkspace))
  obtain ⟨hcalls, hrecorded⟩ := hanswer
  have hsince : CallsSince (context.workspaceId, plan.ingress.ingressId) s t [] := by
    rw [CallsSince, hcalls, List.append_nil]
  cases answer with
  | ok resource =>
      exact owes_pure ⟨notConflict_succeeded _, [], hsince,
        .recorded request allocation _ (recordedKind_succeeded _)
          (hrecorded resource rfl)⟩
  | error error =>
      refine owes_bind (owes_mono (fun answer u htorn => ?_)
        (tearDownIngress_owes allocation.coordinates t))
      rcases htorn.2 with ⟨rfl, hcall⟩ | ⟨compensation, rfl, hcall⟩
      · exact owes_pure ⟨notConflict_failing (by decide), _, hsince.trans hcall,
          .compensated request allocation _ (recordedKind_failing _ _ _ _ _)⟩
      · exact owes_pure ⟨notConflict_failing (by decide), _, hsince.trans hcall,
          .compensationRaised request allocation
            _ ((recordedKind_failing _ _ _ _ _).elim id id)⟩

/-- The creation is logged, with what it made or that it raised. -/
theorem createIngress_owes (request : IngressCreation) (s : IngressStores) :
    Owes (ingressTerms key) (createIngress key request).run (fun answer t =>
      (∃ allocation, answer = .ok allocation ∧
        CallsSince key s t [.created request allocation]) ∨
        ∃ raised, answer = .error raised ∧
        CallsSince key s t [.creationRaised request]) s := by
  refine owes_asking fun t hstays hcoherent answer => ?_
  cases answer with
  | ok allocation =>
      obtain ⟨hlogged, hothers⟩ := hcoherent.logged
      exact ⟨hothers, hlogged,
        .inl ⟨allocation, rfl, hstays.callsSince.trans (callsSince_logged key _ t)⟩⟩
  | error raised =>
      obtain ⟨hlogged, hothers⟩ := hcoherent.logged
      exact ⟨hothers, hlogged,
        .inr ⟨raised, rfl, hstays.callsSince.trans (callsSince_logged key _ t)⟩⟩

/-- **A creation that is started ends** with its records, or with the removal of what it
made. -/
theorem createAllocation_owes {plan : PlannedAllocation} {grant : SecretResolutionGrant}
    {custodyGrant : SecretCustodyGrant} {ingressId : String} (s : IngressStores)
    (hworkspace : custodyGrant.workspaceId = context.workspaceId)
    (hnamed : plan.ingress.ingressId = ingressId) :
    Owes (ingressTerms (context.workspaceId, ingressId))
      (adapter.createAllocation context
        (context.workspaceId, ingressId) plan grant custodyGrant)
      (fun answer t => NotConflict answer ∧
        ∃ own, CallsSince (context.workspaceId, ingressId) s t own ∧
          AllocationEnds (context.workspaceId, ingressId) context.source t own
            answer) s := by
  refine owes_bind (owes_mono (fun clock t hclock => ?_) (readsOnly_readClock s))
  have hsince := hclock.1.callsSince
  cases clock with
  | error error =>
      refine owes_pure ?_
      split
      · exact ⟨notConflict_failing (by decide), [], hsince,
          .refused _ (recordedKind_unsupported _ _ _)⟩
      · exact ⟨notConflict_failing (by decide), [], hsince,
          .refused _ (.inr (recordedKind_uncertain _ _ _))⟩
  | ok recordedAt =>
      refine owes_bind
        (owes_mono (fun creation u hcreation => ?_) (createIngress_owes _ t))
      rcases hcreation with ⟨allocation, rfl, hcall⟩ | ⟨raised, rfl, hcall⟩
      · refine owes_mono (fun answer v hends => ?_) (settleAllocation_owes
          (creationOf context plan grant custodyGrant) u hworkspace hnamed)
        obtain ⟨hfree, own, hown, hends⟩ := hends
        exact ⟨hfree, _, (hsince.trans hcall).trans hown, hends⟩
      · exact owes_pure ⟨notConflict_failing (by decide), _, hsince.trans hcall,
          .creationRaised _ _ (recordedKind_uncertain _ _ _)⟩

/-- A refusal is no conflict, and is recorded as unsupported or uncertain. -/
theorem allocationRefused_spec (error : IngressError) :
    NotConflict (adapter.allocationRefused context error) ∧
      (recordedKind (adapter.allocationRefused context error) = .unsupported ∨
        recordedKind (adapter.allocationRefused context error) = .uncertain) := by
  unfold allocationRefused
  split
  · exact ⟨notConflict_failing (by decide), recordedKind_unsupported _ _ _⟩
  · exact ⟨notConflict_failing (by decide), recordedKind_unsupported _ _ _⟩
  · exact ⟨notConflict_failing (by decide), .inr (recordedKind_uncertain _ _ _)⟩
  · exact ⟨notConflict_failing (by decide), .inr (recordedKind_uncertain _ _ _)⟩
  · exact ⟨notConflict_failing (by decide), .inr (recordedKind_uncertain _ _ _)⟩

/-- **Every allocation settles**, whatever the surroundings answer. -/
theorem allocate_owes (ingressId : String) (s : IngressStores) :
    Owes (ingressTerms (context.workspaceId, ingressId))
      (adapter.allocate context ingressId)
      (AllocationSettles (context.workspaceId, ingressId) context.source s) s := by
  refine owes_bind
    (owes_mono (fun planned t hplanned => ?_) (readsOnly_planAllocation ingressId s))
  obtain ⟨hstays, hplan⟩ := hplanned
  have hrefused : ∀ answer, NotConflict answer →
      recordedKind answer = .unsupported ∨ recordedKind answer = .uncertain → ∀ u,
      Stays (context.workspaceId, ingressId) s u →
      AllocationSettles (context.workspaceId, ingressId) context.source s answer u :=
    fun answer hfree hkind u hsince => ⟨fun hconflict => absurd hconflict hfree, [],
      hsince.callsSince, .refused answer hkind, fun hnil => absurd rfl hnil⟩
  cases planned with
  | error error =>
      refine owes_pure ?_
      split
      · exact hrefused _ (notConflict_failing (by decide))
          (recordedKind_unsupported _ _ _) t hstays
      · exact hrefused _ (notConflict_error error) (.inr rfl) t hstays
  | ok plan =>
      obtain ⟨hnamed, htaken⟩ := hplan plan rfl
      dsimp only
      split
      · rename_i hconflict
        exact owes_pure ⟨fun _ => htaken.mp hconflict, [], hstays.callsSince,
          .refused _ (recordedKind_unsupported _ _ _), fun hnil => absurd rfl hnil⟩
      · rename_i hfree
        refine owes_bind (owes_mono (fun grants u hgrants => ?_)
          (readsOnly_authorizeAllocation plan.authority t))
        obtain ⟨hsince, hgranted⟩ := hgrants
        cases grants with
        | error error =>
            obtain ⟨hnot, hkind⟩ := allocationRefused_spec error
            exact owes_pure (hrefused _ hnot hkind u (hstays.trans hsince))
        | ok grants =>
            obtain ⟨grant, custodyGrant⟩ := grants
            refine owes_mono (fun answer v hends => ?_)
              (createAllocation_owes u (hgranted _ rfl) hnamed)
            obtain ⟨hnot, own, hown, hends⟩ := hends
            exact ⟨fun hconflict => absurd hconflict hnot, own,
              (hstays.trans hsince).callsSince.trans hown, hends,
              fun _ hblocked => hfree (htaken.mpr hblocked)⟩

end IngressRealizationAdapter

end ControlPlaneKit.Operations
