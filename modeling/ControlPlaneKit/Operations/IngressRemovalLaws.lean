import ControlPlaneKit.Operations.IngressLaws

/-!
# IngressRemovalLaws — what a removal leaves of an ingress

A removal takes the newest row of an ingress where it is active, and that row only:
it is marked as being removed, the provider tears its resources down, and it is marked
as removed.  Wherever this stops, the removal is uncertain.

## Main results

* `remove_owes` — every end of a removal, whatever the surroundings answer.
* `ingress_ownership` — the rows and the outcomes along every run.
-/

namespace ControlPlaneKit.Operations

open ControlPlaneKit.Library.EventFold (bind_ok)
open ControlPlaneKit.Library.Interleaved (Program)
open ControlPlaneKit.Library.Lanes
open ControlPlaneKit.Library.Outcome (map_eq_ok)
open ControlPlaneKit.Topology
open IngressResourceStore

variable {key : IngressKey} {s t u : IngressStores}
  {row updated : CloudflareOwnedIngressResource}
  {closed : List CloudflareOwnedIngressResource}

theorem cloudflareIngressTeardownPlan_spec {authority : CloudflareZoneIngressAuthority}
    {plan : CloudflareIngressTeardownPlan}
    (h : cloudflareIngressTeardownPlan authority row = .ok plan) :
    plan.resource = row ∧ (plan.skips = true ↔ row.lifecycle ≠ .ephemeral) := by
  simp only [cloudflareIngressTeardownPlan, bind_ok] at h
  obtain ⟨⟨⟩, -, ⟨⟩, -, ⟨⟩, -, h⟩ := h
  split at h
  · rename_i hkept
    cases h
    exact ⟨rfl, fun _ => hkept, fun _ => rfl⟩
  · rename_i hephemeral
    cases h
    exact ⟨rfl, fun hskips =>
      absurd hskips (by simp [CloudflareIngressTeardownPlan.skips]),
      fun hkept => absurd hkept hephemeral⟩

theorem coordinates_of_mark (h : MarkOf row updated) :
    updated.coordinates = row.coordinates := by
  obtain ⟨htunnel, hname, hrecord, hhostname⟩ := h.coordinates
  rw [CloudflareOwnedIngressResource.coordinates, htunnel, hname, hrecord, hhostname]
  rfl

namespace IngressRealizationAdapter

variable {adapter : IngressRealizationAdapter} {context : IngressContext}

/-! ## What a removal is decided on -/

/-- The newest row of an ingress is active. -/
def ActiveRow (rows : List CloudflareOwnedIngressResource)
    (row : CloudflareOwnedIngressResource) : Prop :=
  row.status = .active ∧ ∃ closed, rows = closed ++ [row]

theorem requireActiveCloudflare_spec (h : t.Coherent)
    (hrow : requireActiveCloudflare t.resources key = .ok row) :
    ActiveRow (rowsOf t.resources key) row := by
  unfold requireActiveCloudflare at hrow
  split at hrow
  · rename_i found hfound
    cases hrow
    obtain ⟨hin, closed, hsplit, -⟩ :=
      getCloudflareByStatus_eq_some (h.numbered key) (by decide) hfound
    exact ⟨List.mem_singleton.mp hin, closed, hsplit⟩
  · cases hrow

theorem readsOnly_planRemoval (ingressId : String) :
    ReadsOnly (context.workspaceId, ingressId) (adapter.planRemoval context ingressId)
      fun rows removal => ActiveRow rows removal.plan.resource ∧
        (removal.plan.skips = true ↔ removal.plan.resource.lifecycle ≠ .ephemeral) := by
  have hactive : ReadsOnly (context.workspaceId, ingressId)
      (reading fun s =>
        requireActiveCloudflare s.resources (context.workspaceId, ingressId))
      ActiveRow := readsOnly_reading fun t hcoherent row hrow =>
    requireActiveCloudflare_spec hcoherent hrow
  have hplan : ∀ authority row, ReadsOnly (context.workspaceId, ingressId)
      (computed (cloudflareIngressTeardownPlan authority row)) fun _ plan =>
        plan.resource = row ∧ (plan.skips = true ↔ row.lifecycle ≠ .ephemeral) :=
    fun _ _ => readsOnly_computed fun _ _ hplan =>
      cloudflareIngressTeardownPlan_spec hplan
  refine readsOnly_computing.bind fun graph => readsOnly_computing.bind fun ingress =>
    readsOnly_viewing.bind fun authority => hactive.bind fun row =>
        (hplan _ row).bind fun plan =>
      readsOnly_computing.bind fun _ =>
          (readsOnly_authorizeApiToken _).bind fun grant =>
        readsOnly_viewing.bind fun generated =>
            (readsOnly_secretCustodyGrant _ _).bind fun custody =>
          readsOnly_pure fun rows _ _ _ _ hplanned hrow _ _ _ => ?_
  obtain ⟨rfl, hskips⟩ := hplanned
  exact ⟨hrow, hskips⟩

/-! ## Marking -/

/-- What a mark of the newest row leaves: that row, marked. -/
structure Marked (key : IngressKey) (closed : List CloudflareOwnedIngressResource)
    (row updated : CloudflareOwnedIngressResource) (t : IngressStores) : Prop where
  rows : rowsOf t.resources key = closed ++ [updated]
  closed : ∀ earlier ∈ closed, earlier.status = .removed
  mark : MarkOf row updated

/-- **A marking transaction** changes the newest row, or is refused. -/
theorem marking_owes {mark : List CloudflareOwnedIngressResource →
      Except IngressError
        (CloudflareOwnedIngressResource × List CloudflareOwnedIngressResource)}
    {status : OwnedIngressResourceStatus} (hstatus : status ≠ .active)
    (hmark : ∀ rows updated after, Numbered (rowsOf rows key) →
      mark rows = .ok (updated, after) →
      ∃ row, Marks rows after key row updated ∧ updated.status = status)
    (hrows : rowsOf s.resources key = closed ++ [row]) :
    Owes (ingressTerms key) (marking mark).run
      (fun answer t => t.callsOf key = s.callsOf key ∧
      ∀ updated, answer = .ok updated → Marked key closed row updated t ∧
        updated.status = status) s := by
  refine owes_transaction (fun t error hstays _ => ⟨hstays.calls, nofun⟩)
    fun t hstays hcoherent updated u hact => ?_
  obtain ⟨⟨marked, after⟩, hmarked, hpair⟩ := map_eq_ok.mp hact
  cases hpair
  obtain ⟨before, hmarks, hto⟩ := hmark _ _ _ (hcoherent.numbered key) hmarked
  obtain ⟨hcoherent', hothers⟩ := hcoherent.mark hmarks (hto.trans_ne hstatus)
  obtain ⟨earlier, hbefore, hafter, hclosed⟩ := hmarks.newest
  obtain ⟨rfl, hsame⟩ :=
    List.append_inj' ((hbefore.symm.trans hstays.rows).trans hrows) rfl
  cases hsame
  refine ⟨hothers, hcoherent', ⟨hstays.calls, fun value hvalue => ?_⟩,
    fun error => ⟨hstays.calls, nofun⟩⟩
  cases hvalue
  exact ⟨⟨hafter, hclosed, hmarks.mark⟩, hto⟩

/-! ## The ends of a removal -/

/-- The resources of a row are gone, and so says the row. -/
def Gone (row : CloudflareOwnedIngressResource)
    (rows : List CloudflareOwnedIngressResource) : Prop :=
  ¬ Blocked rows ∧ ∃ removed ∈ rows, removed.epoch = row.epoch

/-- How a removal that found an active row ends, by the calls it made of the
provider. -/
inductive RemovalEnds (key : IngressKey) (row : CloudflareOwnedIngressResource)
    (t : IngressStores) : List ProviderCall → IngressAnswer → Prop where
  /-- A retained or external ingress stays as it is. -/
  | skipped (answer : IngressAnswer) (hlifecycle : row.lifecycle ≠ .ephemeral)
      (hkind : recordedKind answer = .succeeded ∨ recordedKind answer = .uncertain)
      (hrow : row ∈ rowsOf t.resources key) : RemovalEnds key row t [] answer
  /-- Whether the row was marked is not known. -/
  | notMarked (answer : IngressAnswer) (hkind : recordedKind answer = .uncertain) :
      RemovalEnds key row t [] answer
  /-- The provider's resources are gone, and the row says so. -/
  | removed (answer : IngressAnswer) (hlifecycle : row.lifecycle = .ephemeral)
      (hkind : recordedKind answer = .succeeded ∨ recordedKind answer = .uncertain)
      (hgone : Gone row (rowsOf t.resources key)) :
      RemovalEnds key row t [.tornDown row.coordinates] answer
  /-- The provider's resources are gone, and the row may not say so. -/
  | unfinished (answer : IngressAnswer) (hkind : recordedKind answer = .uncertain) :
      RemovalEnds key row t [.tornDown row.coordinates] answer
  /-- The provider's resources may still be there. -/
  | teardownRaised (answer : IngressAnswer) (hkind : recordedKind answer = .uncertain) :
      RemovalEnds key row t [.teardownRaised row.coordinates] answer

theorem RemovalEnds.stays {own : List ProviderCall} {answer : IngressAnswer}
    (h : RemovalEnds key row t own answer) (hstays : Stays key t u) :
    RemovalEnds key row u own answer := by
  cases h with
  | skipped _ hlifecycle hkind hrow =>
      exact .skipped _ hlifecycle hkind (hstays.rows ▸ hrow)
  | notMarked _ hkind => exact .notMarked _ hkind
  | removed _ hlifecycle hkind hgone =>
      exact .removed _ hlifecycle hkind (hstays.rows ▸ hgone)
  | unfinished _ hkind => exact .unfinished _ hkind
  | teardownRaised _ hkind => exact .teardownRaised _ hkind

/-- The end of a removal that was started at `s`: refused, or the end of its active
row. -/
def RemovalSettles (key : IngressKey) (s : IngressStores) (answer : IngressAnswer)
    (t : IngressStores) : Prop :=
  ∃ own, CallsSince key s t own ∧
    ((own = [] ∧
      (recordedKind answer = .unsupported ∨ recordedKind answer = .uncertain)) ∨
      ∃ row, ActiveRow (rowsOf s.resources key) row ∧ RemovalEnds key row t own answer)

theorem removalRefused_spec (error : IngressError) :
    recordedKind (adapter.removalRefused context error) = .unsupported ∨
      recordedKind (adapter.removalRefused context error) = .uncertain := by
  unfold removalRefused
  split
  · exact recordedKind_unsupported _ _ _
  · split
    · exact recordedKind_unsupported _ _ _
    · exact .inr rfl

/-- **The end of a teardown** is the row's removal, or uncertain. -/
theorem finishRemoval_owes {plan : CloudflareIngressTeardownPlan}
    {current : CloudflareOwnedIngressResource}
    (hmarked : Marked key closed row current s) :
    Owes (ingressTerms key) (adapter.finishRemoval context key plan) (fun answer t =>
      t.callsOf key = s.callsOf key ∧ (recordedKind answer = .uncertain ∨
        recordedKind answer = .succeeded ∧ Gone row (rowsOf t.resources key))) s := by
  refine owes_bind (owes_mono (fun clock t hclock => ?_) (readsOnly_readClock s))
  cases clock with
  | error error => exact owes_pure ⟨hclock.1.calls, .inl (recordedKind_uncertain _ _ _)⟩
  | ok removedAt =>
      refine owes_bind (owes_mono (fun answer u hanswer => ?_) (marking_owes (by decide)
        (fun rows updated after => markRemoved_spec)
        (hclock.1.rows.trans hmarked.rows)))
      have hcalls := hanswer.1.trans hclock.1.calls
      cases answer with
      | error error => exact owes_pure ⟨hcalls, .inl rfl⟩
      | ok removed =>
          obtain ⟨hgone, hstatus⟩ := hanswer.2 removed rfl
          refine owes_pure ⟨hcalls, (recordedKind_succeeded _).symm.imp id fun hkind =>
            ⟨hkind, fun hblocked => ?_, removed, hgone.rows ▸ by simp,
              hgone.mark.epoch.trans hmarked.mark.epoch⟩⟩
          obtain ⟨blocking, hmem, hblocks⟩ := hblocked
          rw [hgone.rows] at hmem
          rcases List.mem_append.mp hmem with hearlier | hnewest
          · exact hblocks (hgone.closed blocking hearlier)
          · exact hblocks (List.mem_singleton.mp hnewest ▸ hstatus)

theorem tearDownRemoval_owes {plan : CloudflareIngressTeardownPlan}
    {current : CloudflareOwnedIngressResource}
    (hmarked : Marked key closed row current s)
    (hephemeral : row.lifecycle = .ephemeral) :
    Owes (ingressTerms key) (adapter.tearDownRemoval context key plan current)
      (fun answer t =>
      ∃ own, CallsSince key s t own ∧ RemovalEnds key row t own answer) s := by
  have hcoordinates := coordinates_of_mark hmarked.mark
  refine owes_bind (owes_mono (fun torn t htorn => ?_) (tearDownIngress_owes _ s))
  obtain ⟨hrows, hcall⟩ := htorn
  rw [hcoordinates] at hcall
  have hkept : Marked key closed row current t :=
    ⟨hrows.trans hmarked.rows, hmarked.closed, hmarked.mark⟩
  rcases hcall with ⟨rfl, hcall⟩ | ⟨error, rfl, hcall⟩
  · refine owes_mono (fun answer u hends => ?_) (finishRemoval_owes hkept)
    obtain ⟨hcalls, hkind⟩ := hends
    refine ⟨_, by rw [CallsSince, hcalls]; exact hcall, ?_⟩
    rcases hkind with huncertain | ⟨hsucceeded, hgone⟩
    · exact .unfinished answer huncertain
    · exact .removed answer hephemeral (.inl hsucceeded) hgone
  · refine owes_bind (owes_mono (fun marked u hmarking => ?_) (marking_owes (by decide)
      (fun rows updated after => markUncertain_spec) hkept.rows))
    have hsince : CallsSince key s u [.teardownRaised row.coordinates] := by
      rw [CallsSince, hmarking.1]
      exact hcall
    cases marked with
    | error error => exact owes_pure ⟨_, hsince, .teardownRaised _ rfl⟩
    | ok marked =>
        exact owes_pure ⟨_, hsince, .teardownRaised _ (recordedKind_uncertain _ _ _)⟩

theorem carryOutRemoval_owes {plan : CloudflareIngressTeardownPlan}
    (hrows : rowsOf s.resources key = closed ++ [row])
    (hephemeral : row.lifecycle = .ephemeral) :
    Owes (ingressTerms key) (adapter.carryOutRemoval context key plan) (fun answer t =>
      ∃ own, CallsSince key s t own ∧ RemovalEnds key row t own answer) s := by
  have hmark : ∀ rows updated after, Numbered (rowsOf rows key) →
      markRemoving rows key context.runId = .ok (updated, after) →
      ∃ row, Marks rows after key row updated ∧ updated.status = .removing :=
    fun rows updated after hnumbered hmark =>
      have ⟨row, _, hmarks⟩ := markRemoving_spec hnumbered hmark
      ⟨row, hmarks⟩
  refine owes_bind
    (owes_mono (fun answer t hanswer => ?_) (marking_owes (by decide) hmark hrows))
  obtain ⟨hcalls, hmarked⟩ := hanswer
  have hsince : CallsSince key s t [] := by rw [CallsSince, hcalls, List.append_nil]
  cases answer with
  | error error => exact owes_pure ⟨[], hsince, .notMarked _ rfl⟩
  | ok current =>
      refine owes_mono (fun answer u hends => ?_)
        (tearDownRemoval_owes (hmarked current rfl).1 hephemeral)
      obtain ⟨own, hown, hends⟩ := hends
      exact ⟨own, hsince.trans hown, hends⟩

/-- **Every removal settles**, whatever the surroundings answer. -/
theorem remove_owes (ingressId : String) (s : IngressStores) :
    Owes (ingressTerms (context.workspaceId, ingressId))
      (adapter.remove context ingressId)
      (RemovalSettles (context.workspaceId, ingressId) s) s := by
  refine owes_bind
    (owes_mono (fun planned t hplanned => ?_) (readsOnly_planRemoval ingressId s))
  obtain ⟨hstays, hplan⟩ := hplanned
  cases planned with
  | error error =>
      exact owes_pure ⟨[], hstays.callsSince, .inl ⟨rfl, removalRefused_spec error⟩⟩
  | ok removal =>
      obtain ⟨hactive, hskips⟩ := hplan removal rfl
      obtain ⟨hstatus, closed, hrows⟩ := hactive
      have hsame := hstays.rows.trans hrows
      dsimp only
      split
      · rename_i hskip
        exact owes_pure ⟨[], hstays.callsSince,
          .inr ⟨removal.plan.resource, hplan removal rfl |>.1,
            .skipped _ (hskips.mp hskip) (recordedKind_succeeded _) (hsame ▸ by simp)⟩⟩
      · rename_i hcarried
        have hephemeral := not_not.mp (hskips.not.mp hcarried)
        refine owes_mono (fun answer u hends => ?_)
          (carryOutRemoval_owes hsame hephemeral)
        obtain ⟨own, hown, hends⟩ := hends
        exact ⟨own, hstays.callsSince.trans hown,
          .inr ⟨_, ⟨hstatus, closed, hrows⟩, hends⟩⟩

/-! ## Runs -/

theorem CallsSince.stays {own : List ProviderCall} (h : CallsSince key s t own)
    (hstays : Stays key t u) : CallsSince key s u own := by
  rw [CallsSince, hstays.calls]
  exact h

/-- The end of an activity that was started at `s`. -/
def Settles (activity : IngressActivity) (s : IngressStores) (answer : IngressAnswer)
    (t : IngressStores) : Prop :=
  match activity.operation with
  | .allocate => AllocationSettles activity.key activity.context.source s answer t
  | .remove => RemovalSettles activity.key s answer t

theorem Settles.stays {activity : IngressActivity} {answer : IngressAnswer}
    (h : Settles activity s answer t) (hstays : Stays activity.key t u) :
    Settles activity s answer u := by
  obtain ⟨context, operation, ingressId⟩ := activity
  cases operation with
  | allocate =>
      obtain ⟨hconflict, own, hown, hends, hfree⟩ := h
      exact ⟨hconflict, own, CallsSince.stays hown hstays, hends.stays hstays, hfree⟩
  | remove =>
      obtain ⟨own, hown, hends⟩ := h
      exact ⟨own, CallsSince.stays hown hstays, hends.imp id fun ⟨row, hrow, hend⟩ =>
        ⟨row, hrow, hend.stays hstays⟩⟩

theorem execute_owes (activity : IngressActivity) (s : IngressStores) :
    Owes (ingressTerms activity.key) (adapter.execute activity)
      (Settles activity s) s := by
  obtain ⟨context, operation, ingressId⟩ := activity
  cases operation with
  | allocate => exact allocate_owes ingressId s
  | remove => exact remove_owes ingressId s

/-- Whatever is interleaved, every ingress's activity keeps its terms. -/
theorem sound_execute (adapter : IngressRealizationAdapter) :
    Sound IngressActivity.key adapter.execute IngressSurroundings.apply
      IngressStores.Coherent
      ingressTerms Settles where
  inv _ := rfl
  owes activity s _ := execute_owes activity s
  apart _ key' hne _ _ hguarantee := hguarantee key' hne.symm
  others action s h := coherent_surroundings action s h
  stable _ _ _ _ _ hrely hpost := hpost.stays hrely

theorem run_orderly (adapter : IngressRealizationAdapter) (turns : List IngressTurn) :
    (adapter.run turns).Orderly IngressActivity.key IngressStores.Coherent
      ingressTerms Settles :=
  (World.Orderly.idle IngressStores.coherent_empty).run (sound_execute adapter) turns

/-- What a finished allocation says of its ingress. -/
structure AllocationAccounted (activity : IngressActivity) (own : List ProviderCall)
    (answer : IngressAnswer) (t : IngressStores) : Prop where
  recorded : recordedKind answer = .succeeded → ∃ request allocation,
    .created request allocation ∈ own ∧
      Recorded activity.key activity.context.source allocation t
  created : ∀ request allocation, .created request allocation ∈ own →
    recordedKind answer ≠ .succeeded →
    .tornDown allocation.coordinates ∈ own ∨ recordedKind answer = .uncertain
  raised : ∀ request, .creationRaised request ∈ own → recordedKind answer = .uncertain

theorem AllocationEnds.accounted {activity : IngressActivity} {own : List ProviderCall}
    {answer : IngressAnswer}
    (h : AllocationEnds activity.key activity.context.source t own answer) :
    AllocationAccounted activity own answer t := by
  cases h with
  | refused _ hkind =>
      refine ⟨fun hsucceeded => ?_, by simp, by simp⟩
      rw [hsucceeded] at hkind
      exact absurd hkind (by decide)
  | creationRaised request _ hkind =>
      exact ⟨fun hsucceeded => absurd (hsucceeded.symm.trans hkind)
        (by decide), by simp,
        fun _ _ => hkind⟩
  | recorded request allocation _ hkind hrecorded =>
      refine ⟨fun _ => ⟨request, allocation, by simp, hrecorded⟩,
        fun _ _ _ hnot => ?_, by simp⟩
      exact .inr (hkind.resolve_left hnot)
  | compensated request allocation _ hkind =>
      refine ⟨fun hsucceeded => ?_, fun _ _ hmem _ => ?_, by simp⟩
      · rw [hsucceeded] at hkind
        exact absurd hkind (by decide)
      · rcases List.mem_cons.mp hmem with hcreated | htorn
        · cases hcreated
          exact .inl (by simp)
        · exact absurd (List.mem_singleton.mp htorn) nofun
  | compensationRaised request allocation _ hkind =>
      exact ⟨fun hsucceeded => absurd (hsucceeded.symm.trans hkind) (by decide),
        fun _ _ _ _ => .inr hkind, by simp⟩

/-- What a removal that succeeded says of its ingress: the active row that it found was
not the activity's to remove, or the provider tore it down and it is removed. -/
def RemovalAccounted (activity : IngressActivity) (s : IngressStores)
    (own : List ProviderCall) (t : IngressStores) : Prop :=
  ∃ row, ActiveRow (rowsOf s.resources activity.key) row ∧
    (row.lifecycle = .ephemeral → .tornDown row.coordinates ∈ own ∧
      ∃ removed ∈ rowsOf t.resources activity.key, removed.epoch = row.epoch ∧
        removed.status = .removed)

theorem Gone.removed {rows : List CloudflareOwnedIngressResource} (h : Gone row rows) :
    ∃ removed ∈ rows, removed.epoch = row.epoch ∧ removed.status = .removed := by
  obtain ⟨hfree, removed, hmem, hepoch⟩ := h
  exact ⟨removed, hmem, hepoch, not_not.mp fun hstatus =>
    hfree ⟨removed, hmem, hstatus⟩⟩

theorem RemovalSettles.accounted {activity : IngressActivity} {answer : IngressAnswer}
    (h : RemovalSettles activity.key s answer t)
    (hsucceeded : recordedKind answer = .succeeded) :
    ∃ own, CallsSince activity.key s t own ∧ RemovalAccounted activity s own t := by
  obtain ⟨own, hown, hends⟩ := h
  refine ⟨own, hown, ?_⟩
  rcases hends with ⟨-, hkind⟩ | ⟨row, hrow, hend⟩
  · rw [hsucceeded] at hkind
    exact absurd hkind (by decide)
  · refine ⟨row, hrow, fun hephemeral => ?_⟩
    cases hend with
    | skipped _ hlifecycle => exact absurd hephemeral hlifecycle
    | removed _ _ _ hgone => exact ⟨by simp, hgone.removed⟩
    | notMarked _ hkind | unfinished _ hkind | teardownRaised _ hkind =>
        exact absurd (hsucceeded.symm.trans hkind) (by decide)

/-- **No ingress resource is lost.**  In every run the rows of every ingress are
numbered from one with at most the newest not removed; an allocation that succeeded
committed its row, its reference and its evidence together; what the provider created is
recorded, torn down or uncertain; and a removal of an ephemeral ingress succeeds after
the teardown, with the row removed. -/
theorem ingress_ownership (adapter : IngressRealizationAdapter)
    (turns : List IngressTurn) :
    (∀ key, Numbered (rowsOf (adapter.run turns).shared.resources key)) ∧
      ∀ key activity s answer,
        (adapter.run turns).lanes key = some ⟨activity, s, .done answer⟩ →
        ∃ own, CallsSince key s (adapter.run turns).shared own ∧
          (activity.operation = .allocate →
            AllocationAccounted activity own answer (adapter.run turns).shared) ∧
          (activity.operation = .remove → recordedKind answer = .succeeded →
            RemovalAccounted activity s own (adapter.run turns).shared) := by
  have horderly := run_orderly adapter turns
  refine ⟨horderly.inv.numbered, fun key activity s answer hlane => ?_⟩
  obtain ⟨rfl, hends⟩ := horderly.owes key _ hlane
  have hsettles : Settles activity s answer (adapter.run turns).shared := hends
  unfold Settles at hsettles
  cases hoperation : activity.operation with
  | allocate =>
      rw [hoperation] at hsettles
      obtain ⟨-, own, hown, hend, -⟩ := hsettles
      exact ⟨own, hown, fun _ => hend.accounted, fun hremove => absurd hremove nofun⟩
  | remove =>
      rw [hoperation] at hsettles
      by_cases hsucceeded : recordedKind answer = .succeeded
      · obtain ⟨own, hown, haccounted⟩ := RemovalSettles.accounted hsettles hsucceeded
        exact ⟨own, hown, fun hallocate => absurd hallocate nofun,
          fun _ _ => haccounted⟩
      · obtain ⟨own, hown, -⟩ := hsettles
        exact ⟨own, hown, fun hallocate => absurd hallocate nofun,
          fun _ h => absurd h hsucceeded⟩

end IngressRealizationAdapter

end ControlPlaneKit.Operations
