import ControlPlaneKit.Operations.IngressRealization
import ControlPlaneKit.Operations.IngressTables
import ControlPlaneKit.Operations.SecretProviderLaws

/-!
# IngressSteps — what the steps of the adapter keep

The tables stay coherent: the rows of every ingress are numbered, and rows and
evidence are there together.  An ingress's activity relies on its own rows and
calls staying as they are, and on evidence and references not being lost; it
changes those of no other ingress.

## Main results

* `Coherent.fold` — the one transaction of an allocation.
* `Coherent.mark` — a mark of the newest row.
* `sound_surroundings` — what others write.
-/

namespace ControlPlaneKit.Operations

open ControlPlaneKit.Library.EventFold (bind_ok)
open ControlPlaneKit.Library.Interleaved (Program)
open ControlPlaneKit.Library.Lanes
open ControlPlaneKit.Library.Outcome (mapError_eq_ok map_eq_ok)
open ControlPlaneKit.Library.Supersession (Kept Move RegistrationStatus)
open ControlPlaneKit.Library.Text (isCanonicalIdentity)
open ControlPlaneKit.Topology
open IngressResourceStore

/-! ## Coherent tables -/

/-- The evidence of a row; a mark replaces the run it was generated by. -/
structure Documents (evidence : GeneratedIngressSecretReference)
    (row : CloudflareOwnedIngressResource) : Prop where
  workspace : evidence.workspaceId = row.workspaceId
  activity : evidence.sourceActivityId = row.sourceActivityId
  event : evidence.sourceEventId = row.sourceEventId
  recorded : evidence.recordedAt = row.createdAt
  run : row.status = .active → evidence.sourceRunId = row.sourceRunId

/-- The reference that evidence names: its registration, or a row of the same secret. -/
def AdmittedBy (evidence : GeneratedIngressSecretReference)
    (reference : RegisteredSecretReference) : Prop :=
  reference.scope = evidence.workspaceId ∧
    (reference.registrationId = evidence.referenceRegistrationId ∨
      reference.subject = evidence.secretRef)

/-- What the tables keep: rows are numbered, and rows, evidence and references are
there together. -/
structure IngressStores.Coherent (s : IngressStores) : Prop where
  numbered : ∀ key, Numbered (rowsOf s.resources key)
  registrations : s.secrets.Sound
  documented : ∀ row ∈ s.resources, ∃ evidence ∈ s.generated, Documents evidence row
  owned : ∀ evidence ∈ s.generated, ∃ row ∈ s.resources, Documents evidence row
  admitted : ∀ evidence ∈ s.generated, ∃ reference ∈ s.secrets.references,
    AdmittedBy evidence reference
  identified : ∀ evidence ∈ s.generated, isCanonicalIdentity evidence.sourceRunId = true

theorem IngressStores.coherent_empty : IngressStores.empty.Coherent where
  numbered _ := numbered_nil
  registrations := ⟨Library.Supersession.sound_nil, Library.Supersession.sound_nil⟩
  documented _ h := absurd h List.not_mem_nil
  owned _ h := absurd h List.not_mem_nil
  admitted _ h := absurd h List.not_mem_nil
  identified _ h := absurd h List.not_mem_nil

/-- The calls of an ingress. -/
def IngressStores.callsOf (s : IngressStores) (key : IngressKey) : List ProviderCall :=
  (s.calls.filter fun call => call.1 = key).map (·.2)

/-- What others leave of an ingress, and what nobody takes away. -/
structure Stays (key : IngressKey) (s t : IngressStores) : Prop where
  rows : rowsOf t.resources key = rowsOf s.resources key
  calls : t.callsOf key = s.callsOf key
  generated : ∀ evidence ∈ s.generated, evidence ∈ t.generated
  references : Kept s.secrets.references t.secrets.references

variable {key : IngressKey} {s t u : IngressStores}

theorem Stays.refl (key : IngressKey) (s : IngressStores) : Stays key s s :=
  ⟨rfl, rfl, fun _ h => h, fun row h => ⟨row, h, rfl, rfl⟩⟩

theorem Stays.trans (h : Stays key s t) (h' : Stays key t u) : Stays key s u :=
  ⟨h'.rows.trans h.rows, h'.calls.trans h.calls,
    fun evidence hevidence => h'.generated evidence (h.generated evidence hevidence),
    h.references.trans h'.references⟩

/-- The terms of an ingress. -/
def ingressTerms (key : IngressKey) : Terms IngressStores where
  Inv := IngressStores.Coherent
  Rely := Stays key
  Guarantee s t := ∀ other, other ≠ key → Stays other s t
  rely_refl := Stays.refl key
  rely_trans _ _ _ := Stays.trans
  guarantee_refl s other _ := Stays.refl other s

/-! ## What is written -/

theorem Documents.marked {evidence : GeneratedIngressSecretReference}
    {row updated : CloudflareOwnedIngressResource} (h : Documents evidence row)
    (hmark : MarkOf row updated) (hstatus : updated.status ≠ .active) :
    Documents evidence updated where
  workspace := h.workspace.trans (congrArg Prod.fst hmark.key).symm
  activity := h.activity.trans hmark.activity.symm
  event := h.event.trans hmark.event.symm
  recorded := h.recorded.trans hmark.created.symm
  run hactive := absurd hactive hstatus

theorem Documents.numbered {evidence : GeneratedIngressSecretReference}
    {row : CloudflareOwnedIngressResource} (h : Documents evidence row) (epoch : Nat) :
    Documents evidence { row with epoch := epoch } :=
  ⟨h.workspace, h.activity, h.event, h.recorded, h.run⟩

/-- **A mark** keeps the tables coherent, and changes one ingress. -/
theorem IngressStores.Coherent.mark {rows : List CloudflareOwnedIngressResource}
    {row updated : CloudflareOwnedIngressResource} (h : s.Coherent)
    (hmarks : Marks s.resources rows key row updated)
    (hstatus : updated.status ≠ .active) :
    ({ s with resources := rows } : IngressStores).Coherent ∧
      ∀ other, other ≠ key → Stays other s { s with resources := rows } := by
  refine ⟨⟨hmarks.numbered h.numbered, h.registrations, fun last hlast => ?_,
    fun evidence hevidence => ?_, h.admitted, h.identified⟩,
    fun other hother => ⟨hmarks.others other hother, rfl, fun _ hmem => hmem,
      (Stays.refl other s).references⟩⟩
  · rcases hmarks.mem hlast with rfl | hbefore
    · obtain ⟨evidence, hevidence, hdocuments⟩ := h.documented row hmarks.row_mem.1
      exact ⟨evidence, hevidence, hdocuments.marked hmarks.mark hstatus⟩
    · exact h.documented last hbefore
  · obtain ⟨first, hfirst, hdocuments⟩ := h.owned evidence hevidence
    rcases hmarks.mem_before hfirst with rfl | hafter
    · exact ⟨updated, hmarks.updated_mem, hdocuments.marked hmarks.mark hstatus⟩
    · exact ⟨first, hafter, hdocuments⟩

theorem callsOf_logged (key other : IngressKey) (call : ProviderCall)
    (s : IngressStores) : (s.logged key call).callsOf other =
      if key = other then s.callsOf other ++ [call] else s.callsOf other := by
  by_cases h : key = other <;>
    simp [IngressStores.callsOf, IngressStores.logged, List.filter_append, h]

/-- What the calls since a state came to. -/
def CallsSince (key : IngressKey) (s t : IngressStores)
    (own : List ProviderCall) : Prop :=
  t.callsOf key = s.callsOf key ++ own

theorem CallsSince.trans {own later : List ProviderCall} (h : CallsSince key s t own)
    (h' : CallsSince key t u later) : CallsSince key s u (own ++ later) := by
  rw [CallsSince, h', h, List.append_assoc]

theorem Stays.callsSince (h : Stays key s t) : CallsSince key s t [] := by
  rw [CallsSince, h.calls, List.append_nil]

theorem callsSince_logged (key : IngressKey) (call : ProviderCall) (s : IngressStores) :
    CallsSince key s (s.logged key call) [call] := by
  rw [CallsSince, callsOf_logged, if_pos rfl]

theorem IngressStores.Coherent.logged {call : ProviderCall} (h : s.Coherent) :
    (s.logged key call).Coherent ∧ ∀ other, other ≠ key →
    Stays other s (s.logged key call) := by
  refine ⟨⟨h.numbered, h.registrations, h.documented, h.owned, h.admitted,
    h.identified⟩, fun other hother => ⟨rfl, ?_, fun _ hmem => hmem,
    (Stays.refl other s).references⟩⟩
  rw [callsOf_logged, if_neg (Ne.symm hother)]

theorem GeneratedIngressSecretStore.bySource_eq_some
    {rows : List GeneratedIngressSecretReference} {source : IngressSource}
    {evidence : GeneratedIngressSecretReference}
    (h : bySource rows source = some evidence) :
    evidence ∈ rows ∧ evidence.source = source :=
  ⟨List.mem_of_find?_eq_some h, by simpa using List.find?_some h⟩

/-- Recorded evidence is there, and nothing else is new. -/
theorem GeneratedIngressSecretStore.record_spec
    {rows after : List GeneratedIngressSecretReference}
    {evidence : GeneratedIngressSecretReference}
    (h : record rows evidence = .ok after) :
    isCanonicalIdentity evidence.sourceRunId = true ∧ evidence ∈ after ∧
      (∀ row ∈ rows, row ∈ after) ∧ ∀ row ∈ after, row = evidence ∨ row ∈ rows := by
  simp only [record, bind_ok, requireIngressIdentity, requireIngress_eq_ok] at h
  obtain ⟨⟨⟩, -, ⟨⟩, hidentity, h⟩ := h
  refine ⟨hidentity, ?_⟩
  split at h
  · rename_i existing hexisting
    split at h
    · rename_i hsame
      cases h
      exact ⟨hsame ▸ (bySource_eq_some hexisting).1, fun _ hrow => hrow,
        fun _ hrow => .inr hrow⟩
    · cases h
  · split at h
    · cases h
    · cases h
      refine ⟨by simp, fun row hrow => List.mem_append_left _ hrow, fun row hrow => ?_⟩
      rcases List.mem_append.mp hrow with hrow | hrow
      · exact .inr hrow
      · exact .inl (List.mem_singleton.mp hrow)

/-- **A registered reference** is in the table by its identity or its secret. -/
theorem SecretReferenceStore.register_spec {rows after : List RegisteredSecretReference}
    {candidate row : RegisteredSecretReference}
    (hsound : Library.Supersession.Sound rows)
    (h : SecretReferenceStore.register rows candidate = .ok (row, after)) :
    Move rows after ∧ ∃ reference ∈ after, reference.scope = candidate.scope ∧
      (reference.registrationId = candidate.registrationId ∨
        reference.subject = candidate.subject) := by
  simp only [SecretReferenceStore.register, bind_ok, requireThat_eq_ok,
    decide_eq_true_eq] at h
  obtain ⟨⟨⟩, hactive, ⟨⟩, -, hregister⟩ := h
  obtain ⟨hmem, hscope, hnamed⟩ := Library.Supersession.register_answers hregister
  exact ⟨Library.Supersession.register_move hsound hactive hregister, row, hmem,
    hscope, hnamed⟩

theorem AdmittedBy.kept {evidence : GeneratedIngressSecretReference}
    {references later : List RegisteredSecretReference} (hkept : Kept references later)
    (h : ∃ reference ∈ references, AdmittedBy evidence reference) :
    ∃ reference ∈ later, AdmittedBy evidence reference := by
  obtain ⟨reference, hreference, hscope, hnamed⟩ := h
  obtain ⟨kept, hkept, hlink, -⟩ := hkept reference hreference
  refine ⟨kept, hkept, (congrArg (·.scope) hlink).trans hscope, ?_⟩
  exact hnamed.imp (congrArg (·.registrationId) hlink).trans
    (congrArg (·.subject) hlink).trans

namespace IngressRealizationAdapter

/-- What the records of one allocation say of each other. -/
structure AllocationRecords.Agree (records : AllocationRecords) : Prop where
  documents : Documents records.evidence records.resource
  active : records.resource.status = .active
  scope : records.reference.scope = records.evidence.workspaceId
  registration : records.reference.registrationId =
    records.evidence.referenceRegistrationId
  secret : records.reference.subject = records.evidence.secretRef

/-- What a fold leaves: the three records, in coherent tables. -/
structure Folds (records : AllocationRecords) (s t : IngressStores) : Prop where
  coherent : t.Coherent
  others : ∀ other, other ≠ records.resource.key → Stays other s t
  calls : t.calls = s.calls
  row : ∃ row ∈ t.resources, ∃ epoch, row = { records.resource with epoch := epoch }
  evidence : records.evidence ∈ t.generated
  reference : ∃ reference ∈ t.secrets.references, AdmittedBy records.evidence reference

/-- **The one transaction of an allocation** writes its records together. -/
theorem foldAllocation_spec {custodyGrant : SecretCustodyGrant}
    {records : AllocationRecords} (h : s.Coherent) (hagree : records.Agree)
    (hfold : foldAllocation custodyGrant records s = .ok ((), t)) :
    Folds records s t := by
  simp only [foldAllocation, bind_ok, mapError_eq_ok] at hfold
  obtain ⟨provider, -, ⟨⟩, -, ⟨registered, references⟩, hregister,
    ⟨row, resources⟩, hrecord, generated, hgenerated, hpure⟩ := hfold
  cases hpure
  obtain ⟨hmove, reference, hreference, hscope, hnamed⟩ :=
    SecretReferenceStore.register_spec h.registrations.references hregister
  obtain ⟨hidentity, hevidence, hgrown, hnew⟩ :=
    GeneratedIngressSecretStore.record_spec hgenerated
  have hadmitted : ∃ reference ∈ references, AdmittedBy records.evidence reference :=
    ⟨reference, hreference, hscope.trans hagree.scope,
      hnamed.imp (·.trans hagree.registration) (·.trans hagree.secret)⟩
  have hsecrets :
      ({ s.secrets with references := references } : SecretRegistrations).Sound :=
    ⟨h.registrations.providers, hmove.sound h.registrations.references⟩
  have hall : ∀ evidence ∈ generated, ∃ reference ∈ references,
      AdmittedBy evidence reference := by
    intro evidence hmem
    rcases hnew evidence hmem with rfl | hold
    · exact hadmitted
    · exact AdmittedBy.kept hmove.kept (h.admitted evidence hold)
  have hidentified : ∀ evidence ∈ generated,
      isCanonicalIdentity evidence.sourceRunId = true := by
    intro evidence hmem
    rcases hnew evidence hmem with rfl | hold
    · exact hidentity
    · exact h.identified evidence hold
  rcases recordCloudflare_spec (h.numbered _) hrecord with
    ⟨rfl, rfl, hrow, -⟩ | ⟨hnamed', hresources, hremoved⟩
  · -- the resource is there already, and so is the evidence that was recorded with it
    refine ⟨⟨h.numbered, hsecrets, fun row hmem => ?_, fun evidence hmem => ?_, hall,
      hidentified⟩,
      fun other hother => ⟨rfl, rfl, hgrown, hmove.kept⟩, rfl,
      ⟨records.resource, hrow, records.resource.epoch, rfl⟩, hevidence, hadmitted⟩
    · obtain ⟨evidence, hevidence, hdocuments⟩ := h.documented row hmem
      exact ⟨evidence, hgrown evidence hevidence, hdocuments⟩
    · rcases hnew evidence hmem with rfl | hold
      · exact ⟨records.resource, hrow, hagree.documents⟩
      · exact h.owned evidence hold
  · have hkey : row.key = records.resource.key := by rw [hnamed']; rfl
    have hdocuments : Documents records.evidence row :=
      hnamed' ▸ hagree.documents.numbered _
    subst hresources
    have hin : row ∈ s.resources ++ [row] := by simp
    refine ⟨⟨fun other => ?_, hsecrets, fun last hlast => ?_,
      fun evidence hmem => ?_, hall, hidentified⟩,
      fun other hother => ⟨?_, rfl, hgrown, hmove.kept⟩, rfl,
      ⟨row, hin, _, hnamed'⟩, hevidence, hadmitted⟩
    · rw [rowsOf_concat]
      split
      · rename_i hother
        rw [← hother, hkey]
        exact (h.numbered _).concat hremoved (by rw [hnamed'])
      · exact h.numbered other
    · rcases List.mem_append.mp hlast with hlast | hlast
      · obtain ⟨evidence, hold, hdocuments⟩ := h.documented last hlast
        exact ⟨evidence, hgrown evidence hold, hdocuments⟩
      · rw [List.mem_singleton.mp hlast]
        exact ⟨records.evidence, hevidence, hdocuments⟩
    · rcases hnew evidence hmem with rfl | hold
      · exact ⟨row, hin, hdocuments⟩
      · obtain ⟨first, hfirst, hdocuments⟩ := h.owned evidence hold
        exact ⟨first, List.mem_append_left _ hfirst, hdocuments⟩
    · rw [rowsOf_concat, if_neg fun hsame => hother (hsame.symm.trans hkey)]

end IngressRealizationAdapter

/-- **What others write** keeps the tables coherent and every ingress as it is. -/
theorem coherent_surroundings (action : IngressSurroundings) (s : IngressStores)
    (h : s.Coherent) :
    (action.apply s).Coherent ∧ ∀ key, Stays key s (action.apply s) := by
  cases action with
  | authorities rows =>
      exact ⟨⟨h.numbered, h.registrations, h.documented, h.owned, h.admitted,
        h.identified⟩, fun key => ⟨rfl, rfl, fun _ hmem => hmem,
        (Stays.refl key s).references⟩⟩
  | secrets command =>
      rcases Library.Transactions.settle_cases SecretRegistrations.execute
          s.secrets command with
        hsame | ⟨⟨⟩, hexecute⟩
      · have heq : (IngressSurroundings.secrets command).apply s = s := by
          rw [IngressSurroundings.apply, hsame]
        rw [heq]
        exact ⟨h, fun key => Stays.refl key s⟩
      · have hkept :=
          (SecretRegistrations.execute_moves h.registrations hexecute).2.kept
        exact ⟨⟨h.numbered,
          SecretRegistrations.sound_step h.registrations hexecute,
          h.documented, h.owned, fun evidence hmem =>
            AdmittedBy.kept hkept (h.admitted evidence hmem),
          h.identified⟩,
          fun key => ⟨rfl, rfl, fun _ hmem => hmem, hkept⟩⟩

/-! ## Rules for the steps -/

section Rules

variable {α β : Type} {post : Except IngressError α → IngressStores → Prop}

/-- **A transaction** is checked where it is refused and where it commits; what it
raises after it committed it has written all the same. -/
theorem owes_transaction {act : IngressStores → Except IngressError (α × IngressStores)}
    (hraised : ∀ t error, Stays key s t → t.Coherent → post (.error error) t)
    (hcommits : ∀ t, Stays key s t → t.Coherent → ∀ value u, act t = .ok (value, u) →
      (∀ other, other ≠ key → Stays other t u) ∧ u.Coherent ∧ post (.ok value) u ∧
        ∀ error, post (.error error) u) :
    Owes (ingressTerms key) (transaction act).run post s := by
  refine owes_write fun t hstays hcoherent answers answer u hact => ?_
  have hpair := Except.ok.inj hact
  have hkeeps : ∀ error, (ingressTerms key).Guarantee t t ∧ t.Coherent ∧
      post (.error error) t :=
    fun error =>
      ⟨(ingressTerms key).guarantee_refl t, hcoherent, hraised t error hstays hcoherent⟩
  obtain ⟨rfl, rfl⟩ := Prod.mk.inj hpair.symm
  cases hvalue : act t with
  | error error => cases answers.transaction <;> exact hkeeps _
  | ok committed =>
      obtain ⟨hguarantee, hafter, hvalued, hlost⟩ :=
        hcommits t hstays hcoherent committed.1 committed.2 hvalue
      cases answers.transaction with
      | committed => exact ⟨hguarantee, hafter, hvalued⟩
      | rolledBack error => exact hkeeps error
      | lost error => exact ⟨hguarantee, hafter, hlost error⟩

theorem owes_asking {ε : Type} {answer : IngressAnswers → Except ε α}
    {log : Except ε α → IngressStores → IngressStores}
    {post : Except ε α → IngressStores → Prop}
    (h : ∀ t, Stays key s t → t.Coherent → ∀ value,
      (∀ other, other ≠ key → Stays other t (log value t)) ∧ (log value t).Coherent ∧
        post value (log value t)) :
        Owes (ingressTerms key) (asking answer log).run post s := by
  refine owes_write fun t hstays hcoherent answers value u hact => ?_
  cases hact
  exact h t hstays hcoherent _

/-- A program that only reads what concerns the ingress: it leaves the ingress as it
was, and where it has a value that is said of the ingress's rows. -/
def ReadsOnly (key : IngressKey) (code : IngressCode α)
    (fact : List CloudflareOwnedIngressResource → α → Prop) : Prop :=
  ∀ s, Owes (ingressTerms key) code.run (fun answer t => Stays key s t ∧
    ∀ value, answer = .ok value → fact (rowsOf s.resources key) value) s

variable {fact : List CloudflareOwnedIngressResource → α → Prop}
  {fact' : List CloudflareOwnedIngressResource → β → Prop}

theorem ReadsOnly.bind {code : IngressCode α} {next : α → IngressCode β}
    (h : ReadsOnly key code fact)
    (hnext : ∀ value, ReadsOnly key (next value) fun rows result =>
      fact rows value → fact' rows result) : ReadsOnly key (code >>= next) fact' := by
  intro s
  refine owes_bind (owes_mono (fun answer t hanswer => ?_) (h s))
  obtain ⟨hstays, hfact⟩ := hanswer
  cases answer with
  | error error => exact ⟨hstays, nofun⟩
  | ok value =>
      refine owes_mono (fun result u hresult =>
        ⟨hstays.trans hresult.1, fun value' hvalue' => ?_⟩) (hnext value t)
      have hafter := hresult.2 value' hvalue'
      rw [hstays.rows] at hafter
      exact hafter (hfact value rfl)

theorem readsOnly_computed {value : Except IngressError α}
    (h : ∀ rows result, value = .ok result → fact rows result) :
    ReadsOnly key (computed value) fact :=
  fun s => owes_pure ⟨Stays.refl key s, fun result hresult => h _ result hresult⟩

theorem readsOnly_pure {value : α} (h : ∀ rows, fact rows value) :
    ReadsOnly key (pure value) fact :=
  readsOnly_computed fun rows _ hvalue => Except.ok.inj hvalue ▸ h rows

theorem readsOnly_reading {view : IngressStores → Except IngressError α}
    (h : ∀ t, t.Coherent → ∀ value, view t = .ok value →
      fact (rowsOf t.resources key) value) :
    ReadsOnly key (reading view) fact := by
  intro s
  refine owes_transaction (fun t error hstays _ => ⟨hstays, nofun⟩)
    fun t hstays hcoherent value u hact => ?_
  obtain ⟨value', hview, hpair⟩ := map_eq_ok.mp hact
  cases hpair
  have hfact := h t hcoherent value hview
  rw [hstays.rows] at hfact
  refine ⟨fun other _ => Stays.refl other t, hcoherent,
    ⟨hstays, fun result hresult => ?_⟩, fun error => ⟨hstays, nofun⟩⟩
  exact Except.ok.inj hresult ▸ hfact

/-- A reading of which nothing is said. -/
theorem readsOnly_viewing {view : IngressStores → Except IngressError α} :
    ReadsOnly key (reading view) fun _ _ => True :=
  readsOnly_reading fun _ _ _ _ => trivial

theorem readsOnly_asking {answer : IngressAnswers → Except IngressError α} :
    ReadsOnly key (asking answer fun _ s => s) fun _ _ => True := fun _ =>
  owes_asking fun t hstays hcoherent _ =>
    ⟨fun other _ => Stays.refl other t, hcoherent, hstays,
    fun _ _ => trivial⟩

/-- A computation of which nothing is said. -/
theorem readsOnly_computing {value : Except IngressError α} :
    ReadsOnly key (computed value) fun _ _ => True :=
  readsOnly_computed fun _ _ _ => trivial

theorem readsOnly_readClock : ReadsOnly key readClock fun _ _ => True :=
  readsOnly_asking.bind fun _ => readsOnly_computing.bind fun _ =>
    readsOnly_pure fun _ _ _ => trivial

end Rules

end ControlPlaneKit.Operations
