import ControlPlaneKit.Planning.Bracketing
import ControlPlaneKit.Topology.Fitting

/-!
# Rebinding — make before break

A consumer that stays moves one requirement socket, through its environment, from
a provider that goes to a provider that comes.  The new provider is waited for
before the consumer is reconciled, and the consumer is reconciled before the old
provider is stopped; so all depends on the consumer being reconciled at all, and
on the old edge still leading to it.
-/

namespace ControlPlaneKit.Planning

open ControlPlaneKit.Library
open ControlPlaneKit.Topology
open Compilation (Link)
open Relation (TransGen)

/-! ## A moved requirement socket -/

/-- **A requirement socket that is bound anew**, from an owned provider that is
removed to an owned one that is added. -/
structure Rebound (current desired : DeploymentGraph) (oldId newId : String)
    (old new : Edge) : Prop where
  before : current.edges[oldId]? = some old
  after : desired.edges[newId]? = some new
  environment : old.binding = .environment ∧ new.binding = .environment
  consumer : old.consumerRole = new.consumerRole
  socket : old.requirementSocket = new.requirementSocket
  removed : NodeOwned current old.providerRole ∧ desired.nodes[old.providerRole]? = none
  added : NodeOwned desired new.providerRole ∧ current.nodes[new.providerRole]? = none

/-- The old provider is stopped by the plan, after the new one is healthy. -/
def BreaksAfterMake (plan : ActivityPlan) (old new : Edge) : Prop :=
  ∃ provider replacement : NodeTarget, provider.nodeId = old.providerRole ∧
    replacement.nodeId = new.providerRole ∧
    (∃ activity ∈ plan.activities, activity.operation = .stopNode provider) ∧
    Preceded plan (.waitForHealthy replacement) (.stopNode provider)

/-- **The consumer carries the move**: it is reconciled where the edge keeps its
identity, and an edge that takes over the identity leads to it too. -/
structure Carries (current desired : DeploymentGraph) (oldId newId : String)
    (new : Edge) : Prop where
  reconciled : oldId = newId → NodeReconciled current desired new.consumerRole
  kept : ∀ edge, desired.edges[oldId]? = some edge →
    edge.consumerRole = new.consumerRole

/-- The only edge of a provider, which no public ingress points at. -/
structure OnlyConnection (current : DeploymentGraph)
    (oldId provider : String) : Prop where
  edges : ∀ (edgeId : String) (edge : Edge), current.edges[edgeId]? = some edge →
    Joins edge provider → edgeId = oldId
  ingresses : ∀ (ingressId : String) (ingress : NamedPublicIngress),
    current.ingressById[ingressId]? = some ingress → ingress.target.nodeId ≠ provider

/-! ## The environment of the consumer -/

/-- Another producing edge is another environment, or other sockets. -/
theorem differs_of_edgeId {current desired : DeploymentGraph} {oldId newId : String}
    {old new : Edge} {oldProvider newProvider before after : Node}
    {oldSocket newSocket : ProviderSocket} {required required' : RequirementSocket}
    (hold : Fits current oldId old oldProvider before oldSocket required)
    (hnew : Fits desired newId new newProvider after newSocket required')
    (henvironment : old.binding = .environment)
    (hsocket : old.requirementSocket = new.requirementSocket) (hne : oldId ≠ newId) :
    before.sockets ≠ after.sockets ∨
    before.socketEnvironment ≠ after.socketEnvironment := by
  by_contra hsame
  rw [not_or, not_not, not_not] at hsame
  obtain ⟨hsockets, hbindings⟩ := hsame
  have hrequired : required = required' := by
    have hrequires := hold.requires
    rw [hsockets, hsocket, hnew.requires] at hrequires
    exact (Option.some.inj hrequires).symm
  subst hrequired
  have hnonempty : required.envBindings ≠ [] :=
    required.bound.mp (hold.binding.trans henvironment)
  obtain ⟨name, hname⟩ := List.exists_mem_of_ne_nil _ hnonempty
  have hassigned := (hold.names name).mpr hname
  obtain ⟨value, hvalue⟩ := Option.isSome_iff_exists.mp
    (Std.ExtTreeMap.isSome_getElem?_iff_mem.mpr hassigned)
  obtain ⟨binding, hfind, -⟩ :=
    Option.map_eq_some_iff.mp (hold.carried name value hvalue)
  have hmem := List.mem_of_find?_eq_some hfind
  have hbinding : binding.name = name := by simpa using List.find?_some hfind
  have hfirst := hold.produced binding hmem (by rwa [hbinding])
  have hsecond := hnew.produced binding (hbindings ▸ hmem)
    (by rw [hbinding]; exact (hnew.names name).mpr hname)
  exact hne (hfirst.symm.trans hsecond)

section Move

variable {repr : String → String} {codec : GraphDescriptorCodec}
  {current desired : DeploymentGraph} {currentValid desiredValid : ValidatedGraph}
  {oldId newId : String} {old new : Edge}

/-- An edge of a graph without a node does not join it. -/
theorem not_joins (hvalid : IsValid repr codec desired desiredValid)
    {edgeId nodeId : String} {edge : Edge} (hedge : desired.edges[edgeId]? = some edge)
    (hnode : desired.nodes[nodeId]? = none) : ¬ Joins edge nodeId := by
  obtain ⟨_, _, _, _, hfits⟩ := hvalid.exists_fits hedge
  rintro (rfl | rfl)
  · rw [hfits.atProvider] at hnode
    cases hnode
  · rw [hfits.atConsumer] at hnode
    cases hnode

/-- The new provider is waited for before the consumer is reconciled. -/
theorem Rebound.made (hcurrent : IsValid repr codec current currentValid)
    (h : Rebound current desired oldId newId old new)
    {consumer replacement : NodeTarget} (hconsumer : new.consumerRole = consumer.nodeId)
    (hreplacement : new.providerRole = replacement.nodeId) :
    Precedes current desired (.waitForHealthy replacement)
      (.reconcileNode consumer) := by
  cases hbefore : current.edges[newId]? with
  | none => exact .connected (.consumerBound h.after hbefore h.environment.2
      hreplacement hconsumer)
  | some before =>
      have hne : before ≠ new := by
        rintro rfl
        exact not_joins hcurrent hbefore h.added.2 (.inl rfl)
      have hbinding : throughEnvironment before new = true := by
        simp [throughEnvironment, h.environment.2]
      exact .connected
        (.consumerRebound hbefore h.after hne hbinding hreplacement hconsumer)

/-- The consumer is reconciled before the old provider is stopped. -/
theorem Rebound.broken (hdesired : IsValid repr codec desired desiredValid)
    (h : Rebound current desired oldId newId old new)
    (hkept : ∀ edge, desired.edges[oldId]? = some edge →
      edge.consumerRole = new.consumerRole)
    {consumer provider : NodeTarget} (hconsumer : new.consumerRole = consumer.nodeId)
    (hprovider : old.providerRole = provider.nodeId) :
    Precedes current desired (.reconcileNode consumer) (.stopNode provider) := by
  cases hafter : desired.edges[oldId]? with
  | none =>
      exact .arranged (.consumerReleased h.before hafter h.environment.1 hprovider
        (h.consumer.trans hconsumer))
  | some after =>
      have hbinding : throughEnvironment old after = true := by
        simp [throughEnvironment, h.environment.1]
      have hleaves : ¬ Joins after provider.nodeId :=
        hprovider ▸ not_joins hdesired hafter h.removed.2
      exact .arranged (.consumerSwitched h.before hafter hbinding hprovider hleaves
        ((hkept after hafter).trans hconsumer))

variable {plan : ActivityPlan} {diff : GraphDiff} {c : Compilation} {ls : List Link}

/-- A consumer that carries the move is reconciled by a plan without reviews. -/
theorem Carries.nodeReconciled (hcurrent : IsValid repr codec current currentValid)
    (hdesired : IsValid repr codec desired desiredValid)
    (hplanned : Planned codec current desired diff.changes plan c ls)
    (hready : plan.readyForExecution = true)
    (h : Rebound current desired oldId newId old new)
    (hcarries : Carries current desired oldId newId new) :
    NodeReconciled current desired new.consumerRole := by
  by_cases hid : oldId = newId
  · exact hcarries.reconciled hid
  · obtain ⟨_, before, _, _, hold⟩ := hcurrent.exists_fits h.before
    obtain ⟨_, after, _, _, hnew⟩ := hdesired.exists_fits h.after
    have hbefore := hold.atConsumer
    rw [h.consumer] at hbefore
    refine ⟨before, after, hbefore, hnew.atConsumer,
      hplanned.family_eq hready hbefore hnew.atConsumer, ?_⟩
    rcases differs_of_edgeId hold hnew h.environment.1 h.socket hid with hne | hne
    · exact .inr (.inr (.inl hne))
    · exact .inr (.inr (.inr (.inr (.inr (.inl hne)))))

/-- What comes before the stop of a provider with one edge is the reconciliation of
its consumer. -/
theorem OnlyConnection.reconciled (h : Rebound current desired oldId oldId old new)
    (honly : OnlyConnection current oldId old.providerRole) {provider : NodeTarget}
    (hprovider : provider.nodeId = old.providerRole) {first : ActivityOperation}
    (hdrafted : Drafted codec current desired first)
    (hprecedes : Precedes current desired first (.stopNode provider)) :
    NodeReconciled current desired new.consumerRole := by
  cases hprecedes with
  | follows hfollows => cases hfollows
  | connected hconnected => cases hconnected
  | arranged harranged =>
      cases harranged with
      | ingressRemoved hbefore htarget hother =>
          exact absurd (htarget.trans hprovider) (honly.ingresses _ _ hbefore)
      | connectionRemoved hbefore hjoins =>
          rw [hprovider] at hjoins
          cases hdrafted with
          | removeConnection _ hafter _ =>
              rw [honly.edges _ _ hbefore hjoins, h.after] at hafter
              cases hafter
      | consumerReleased hbefore hafter _ hjoins =>
          rw [honly.edges _ _ hbefore (.inl (hprovider.symm.trans hjoins.symm)),
            h.after] at hafter
          cases hafter
      | connectionSwitched hbefore _ hjoins =>
          rw [hprovider] at hjoins
          cases hdrafted with
          | switchConnection hbefore' _ _ hbinding =>
              rw [honly.edges _ _ hbefore hjoins, h.before] at hbefore'
              cases hbefore'
              simp [throughEnvironment, h.environment.1] at hbinding
      | consumerSwitched hbefore hafter _ hjoins _ hconsumer =>
          rw [honly.edges _ _ hbefore (.inl (hprovider.symm.trans hjoins.symm)),
            h.after] at hafter
          cases hafter
          rw [hconsumer]
          cases hdrafted with
          | reconcileNode hreconciled => exact hreconciled

/-- **Make before break**: where tokens are distinct, a provider whose consumer
carries the move is stopped after its replacement is healthy; and a provider with no
other connection, whose edge keeps its identity, only then. -/
theorem breaksAfterMake (hcurrent : IsValid repr codec current currentValid)
    (hdesired : IsValid repr codec desired desiredValid)
    (hplan : planGraphs currentValid desiredValid = .ok plan)
    (hready : plan.readyForExecution = true)
    (hdistinct : DistinctTokens currentValid desiredValid)
    (h : Rebound current desired oldId newId old new) :
    (Carries current desired oldId newId new → BreaksAfterMake plan old new) ∧
      (oldId = newId → OnlyConnection current oldId old.providerRole →
        BreaksAfterMake plan old new → Carries current desired oldId newId new) := by
  obtain ⟨diff, c, ls, hdiff, hplanned⟩ := planned_of_plan hcurrent hdesired hplan
  have htokens := hdistinct diff hdiff
  have hnamed := ((composes_iff hcurrent hdesired).mp
    (composes_of_rejects (.inl ⟨plan, hplan⟩))).named
  constructor
  · intro hcarries
    obtain ⟨⟨removed, hremoved, hremovedOwned⟩, hgone⟩ := h.removed
    obtain ⟨⟨added, hadded, haddedOwned⟩, hnew⟩ := h.added
    have hreconciled := hcarries.nodeReconciled hcurrent hdesired hplanned hready h
    let provider : NodeTarget :=
      ⟨old.providerRole, hnamed.nodeRemoved _ _ hremoved hgone hremovedOwned⟩
    let replacement : NodeTarget :=
      ⟨new.providerRole, hnamed.nodeAdded _ _ hadded hnew haddedOwned⟩
    let consumer : NodeTarget := ⟨new.consumerRole, hnamed.nodeReconciled _ hreconciled⟩
    have hmade : Ordered plan (.waitForHealthy replacement) (.reconcileNode consumer) :=
      hplanned.ordered_of_precedes htokens (h.made hcurrent rfl rfl)
    have hbroken : Ordered plan (.reconcileNode consumer) (.stopNode provider) :=
      hplanned.ordered_of_precedes htokens (h.broken hdesired hcarries.kept rfl rfl)
    have hstop : Drafted codec current desired (.stopNode provider) :=
      .stopNode hremoved hgone hremovedOwned
    have hwait : Drafted codec current desired (.waitForHealthy replacement) :=
      .healthy hadded hnew haddedOwned
    have hreconcile : Drafted codec current desired (.reconcileNode consumer) :=
      .reconcileNode hreconciled
    exact ⟨provider, replacement, rfl, rfl, hplanned.exists_activity.mpr hstop,
      hplanned.exists_activity.mpr hwait,
      hmade.trans ⟨hplanned.exists_activity.mpr hreconcile, hbroken⟩⟩
  · rintro rfl honly ⟨provider, replacement, hprovider, -, ⟨stop, hstop, hstopOp⟩,
      ⟨wait, hwait, hwaitOp⟩, hordered⟩
    obtain ⟨direct, -, hdirect, -, hpred⟩ :=
      TransGen.tail'_iff.mp (hordered wait hwait hwaitOp stop hstop hstopOp)
    have hprecedes := (hplanned.predecessor_iff htokens hdirect hstop).mp hpred
    rw [hstopOp] at hprecedes
    refine ⟨fun _ => honly.reconciled h hprovider
      (hplanned.drafted hdirect) hprecedes, ?_⟩
    intro edge hedge
    rw [h.after] at hedge
    rw [Option.some.inj hedge]

end Move

/-! ### Two providers at one address -/

theorem servedBy_owned {provider url : String} {nonempty : Text.isBlank url = false}
    (hother : provider ≠ "web") : NodeOwned (servedBy provider url nonempty) provider :=
  ⟨_, (servedBy_node hother).mpr ⟨List.mem_cons_self .., rfl⟩, rfl⟩

theorem servedBy_gone {provider other url : String}
    {nonempty : Text.isBlank url = false} (hprovider : provider ≠ "web")
    (hother : other ≠ "web") (hne : other ≠ provider) :
    (servedBy provider url nonempty).nodes[other]? = none := by
  refine Option.eq_none_iff_forall_ne_some.mpr fun node hnode => ?_
  obtain ⟨hmem, hid⟩ := (servedBy_node hprovider).mp hnode
  rcases List.mem_pair.mp hmem with rfl | rfl
  · exact hne hid.symm
  · exact hother hid.symm

/-- The consumer moves from the blue provider to the green one. -/
theorem servedBy_rebound {oldUrl newUrl : String} {hold : Text.isBlank oldUrl = false}
    {hnew : Text.isBlank newUrl = false} :
    Rebound (servedBy "blue" oldUrl hold) (servedBy "green" newUrl hnew) "link" "link"
      (sampleEdge "link" "blue" "http" "web" oldUrl)
      (sampleEdge "link" "green" "http" "web" newUrl) :=
  ⟨servedBy_edge, servedBy_edge, ⟨rfl, rfl⟩, rfl, rfl,
    ⟨servedBy_owned (by decide),
      servedBy_gone (by decide) (by simp [sampleEdge]) (by simp [sampleEdge])⟩,
    ⟨servedBy_owned (by decide),
      servedBy_gone (by decide) (by simp [sampleEdge]) (by simp [sampleEdge])⟩⟩

/-- The address stays, so the consumer is not reconciled and nothing orders the stop. -/
theorem sharedAddress_unordered : ∃ currentValid desiredValid plan,
    IsValid plainRepr defaultGraphCodec (servedBy "blue" "http://api" (by decide))
        currentValid ∧
      IsValid plainRepr defaultGraphCodec (servedBy "green" "http://api" (by decide))
        desiredValid ∧
      planGraphs currentValid desiredValid = .ok plan ∧ plan.readyForExecution = true ∧
      Rebound (servedBy "blue" "http://api" (by decide))
        (servedBy "green" "http://api" (by decide)) "link" "link"
        (sampleEdge "link" "blue" "http" "web" "http://api")
        (sampleEdge "link" "green" "http" "web" "http://api") ∧
      ¬ BreaksAfterMake plan (sampleEdge "link" "blue" "http" "web" "http://api")
        (sampleEdge "link" "green" "http" "web" "http://api") := by
  obtain ⟨currentValid, desiredValid, hcurrent, hdesired, h⟩ :=
    @exists_validated (servedBy "blue" "http://api" (by decide))
      (servedBy "green" "http://api" (by decide))
      (plansTo fun plan => plan.readyForExecution && plan.activities.any fun activity =>
        activity.operation = .stopNode blueTarget ∧ activity.predecessors = [])
      (by decide +kernel)
  obtain ⟨plan, hplan, h⟩ := exists_plan_of_plansTo h
  rw [Bool.and_eq_true, List.any_eq_true] at h
  obtain ⟨hready, stop, hstop, hstopOp⟩ := h
  rw [decide_eq_true_eq] at hstopOp
  refine ⟨currentValid, desiredValid, plan, hcurrent, hdesired, hplan, hready,
    servedBy_rebound, ?_⟩
  rintro ⟨⟨_, _⟩, replacement, rfl, -, -, ⟨wait, hwait, hwaitOp⟩, hordered⟩
  exact not_before_of_nil hstopOp.2 (hordered wait hwait hwaitOp stop hstop hstopOp.1)

/-! ### Two providers at two addresses -/

theorem behindGreen_rebound : Rebound behindBlue behindGreen "link" "link"
    (sampleEdge "link" "blue" "http" "web" "http://blue")
    (sampleEdge "link" "green" "http" "web" "http://green") :=
  have h :=
    @servedBy_rebound "http://blue" "http://green" blueUrl_nonempty greenUrl_nonempty
  ⟨h.before, h.after, h.environment, h.consumer, h.socket, h.removed, h.added⟩

theorem movedAddress_ordered : ∃ currentValid desiredValid plan,
    IsValid plainRepr defaultGraphCodec behindBlue currentValid ∧
      IsValid plainRepr defaultGraphCodec behindGreen desiredValid ∧
      planGraphs currentValid desiredValid = .ok plan ∧
      BreaksAfterMake plan (sampleEdge "link" "blue" "http" "web" "http://blue")
        (sampleEdge "link" "green" "http" "web" "http://green") := by
  obtain ⟨currentValid, desiredValid, hcurrent, hdesired, hdigits, hfree⟩ :=
    behindGreen_differs
  have hdistinct := distinctTokens_of_digits hdigits
  obtain ⟨plan, hplan⟩ := (plansAcyclic_iff hcurrent hdesired behindGreen_allOwned
    behindGreen_feeds_acyclic behindBlue_exposes_acyclic hdistinct).mpr
      ⟨describable_of_digits hcurrent hdesired hdigits,
        behindBlue_named.targets behindGreen_named⟩
  refine ⟨currentValid, desiredValid, plan, hcurrent, hdesired, hplan,
    (breaksAfterMake hcurrent hdesired hplan
      (ready_of_reviewFree hcurrent hdesired hfree hplan) hdistinct
      behindGreen_rebound).1
      ⟨fun _ => ?_, fun edge hedge => ?_⟩⟩
  · refine ⟨sampleConsumer "web" "host" "http://blue" "link",
      sampleConsumer "web" "host" "http://green" "link",
      (@servedBy_node "blue" "http://blue" blueUrl_nonempty (by decide) _ _).mpr
        ⟨List.mem_cons_of_mem _ (List.mem_singleton_self _), rfl⟩,
      (@servedBy_node "green" "http://green" greenUrl_nonempty (by decide) _ _).mpr
        ⟨List.mem_cons_of_mem _ (List.mem_singleton_self _), rfl⟩, rfl,
      .inr (.inr (.inr (.inr (.inr (.inl ?_)))))⟩
    simp [sampleConsumer]
  · rw [show behindGreen.edges["link"]? = some _ from
      @servedBy_edge "green" "http://green" greenUrl_nonempty] at hedge
    rw [← Option.some.inj hedge]

end ControlPlaneKit.Planning
