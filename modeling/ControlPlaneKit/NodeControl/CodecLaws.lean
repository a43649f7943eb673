import ControlPlaneKit.Library.EventFold
import ControlPlaneKit.Library.JsonMeaning
import ControlPlaneKit.NodeControl.Codec
import ControlPlaneKit.NodeControl.VerificationLaws
import Mathlib.Data.List.Perm.Basic

/-!
# CodecLaws — one encoding for each wire value

A descriptor that is read back from its canonical bytes has its entries in another
order, and some of its floats as integers.  Decoding looks every field up by its key,
sorts what it keeps, and makes floats of weights again, so it gives the value back.
-/

namespace ControlPlaneKit.NodeControl

open ControlPlaneKit.Library (PyDict PyError PyFloat PyValue)
open ControlPlaneKit.Library.EventFold (check_bind_ok)
open ControlPlaneKit.Library.JsonText
  (SameMeaning built built_of_denotes denotes hasFloat
  intOfToken isInteroperable keys_perm parse reread reread_bool reread_float
  reread_int reread_none reread_str rereadEntries rereadEntries_iff rereadItems)
open ControlPlaneKit.Library.PyValue
  (lookup_eq_some_of_mem mem_of_lookup pyEq pyEqEntries_iff)
open ControlPlaneKit.Topology (DelegationKeyPurpose)

/-! ## What the library of canonical JSON is relied on for -/

/-- Canonical bytes are a JSON text that denotes the value, and do not depend on the
order of entries or on whether an interoperable integer is a float.  Of a larger number
the text has the shortest digits that convert to it, which need not be its own. -/
structure CanonicalLibrary (dumps : CanonicalJson)
    (float : String → PyFloat) : Prop where
  respects : ∀ v w, IsJson v → reread v w = true → dumps v = dumps w
  reads : ∀ v encoded, IsJson v → dumps v = some encoded →
    ∃ part, parse encoded = some part ∧ denotes float v part = true

/-! ## Descriptors that are read back -/

/-- A descriptor's entries and what is read back of them: the same keys, and under each
the value read back. -/
structure ReadBack (entries others : PyDict) : Prop where
  keys : (entries.map (·.1)).Perm (others.map (·.1))
  values : ∀ entry ∈ entries, reread entry.2 (getValue others entry.1) = true

namespace ReadBack

variable {entries others : PyDict}

/-- A dictionary is read back as a dictionary. -/
theorem of_reread {w : PyValue} (hkeys : (entries.map (·.1)).Nodup)
    (h : reread (.dict entries) w = true) :
    ∃ others, w = .dict others ∧ ReadBack entries others := by
  cases w <;> simp only [reread, Bool.false_eq_true] at h
  rename_i others
  rw [Bool.and_eq_true, beq_iff_eq, rereadEntries_iff] at h
  refine ⟨others, rfl, keys_perm hkeys h.1 fun entry hentry => ?_,
    fun entry hentry => ?_⟩
  · obtain ⟨other, hother, -⟩ := h.2 entry hentry
    exact ⟨other, hother⟩
  · obtain ⟨other, hother, hreread⟩ := h.2 entry hentry
    rw [getValue, hother]
    exact hreread

theorem reread_dict (h : ReadBack entries others) :
    reread (.dict entries) (.dict others) = true := by
  rw [reread, Bool.and_eq_true, beq_iff_eq, rereadEntries_iff]
  refine ⟨by simpa using h.keys.length_eq, fun entry hentry => ?_⟩
  have hkey : entry.1 ∈ others.map (·.1) :=
    h.keys.mem_iff.mp (List.mem_map.mpr ⟨entry, hentry, rfl⟩)
  have hvalue := h.values entry hentry
  rw [getValue] at hvalue
  cases hother : others.lookup entry.1 with
  | none =>
      obtain ⟨other, hmem, heq⟩ := List.mem_map.mp hkey
      exact absurd heq.symm
        (by simpa using List.lookup_eq_none_iff.mp hother other hmem)
  | some other =>
      rw [hother] at hvalue
      exact ⟨other, rfl, hvalue⟩

variable (h : ReadBack entries others)

include h

/-- What stands under a key is read back. -/
theorem mem_keys {value : PyValue} (key : String) (hmem : (key, value) ∈ entries) :
    reread value (getValue others key) = true :=
  h.values (key, value) hmem

/-- The keys are those that were written. -/
theorem requireKeys_eq_ok (expected : List String)
    (hexpected : entries.map (·.1) = expected) (name : String) :
    requireKeys others expected name = .ok () := by
  have hkeys (key : String) : key ∈ others.map (·.1) ↔ key ∈ expected := by
    rw [← hexpected]
    exact h.keys.mem_iff.symm
  simp only [requireKeys, check_bind_ok, requireWire_eq_ok, List.all_eq_true,
    List.contains_iff_mem]
  exact ⟨fun entry hentry => (hkeys _).mp (List.mem_map.mpr ⟨entry, hentry, rfl⟩),
    fun key hkey => (hkeys key).mpr hkey⟩

/-- So they are for a transit grant. -/
theorem requireTransitKeys_eq_ok (expected : List String)
    (hexpected : entries.map (·.1) = expected) (name : String) :
    requireTransitKeys others expected name = .ok () := by
  have hkeys := h.requireKeys_eq_ok expected hexpected name
  simp only [requireKeys, check_bind_ok, requireWire_eq_ok] at hkeys
  simp only [requireTransitKeys, requireWire_eq_ok, Bool.and_eq_true]
  exact hkeys

/-- A text is read back as it is. -/
theorem text {key text : String} (hmem : (key, .str text) ∈ entries) :
    getValue others key = .str text := reread_str.mp (h.mem_keys key hmem)

/-- So is an integer. -/
theorem integer {key : String} {n : Int} (hmem : (key, .int n) ∈ entries) :
    getValue others key = .int n := reread_int.mp (h.mem_keys key hmem)

/-- And `None`. -/
theorem nothing {key : String} (hmem : (key, .none) ∈ entries) :
    getValue others key = .none := reread_none.mp (h.mem_keys key hmem)

/-- A mapping is read back key by key. -/
theorem dict {inner : PyDict} (key : String) (hmem : (key, .dict inner) ∈ entries)
    (hkeys : (inner.map (·.1)).Nodup) :
    ∃ found, getValue others key = .dict found ∧ ReadBack inner found :=
  of_reread hkeys (h.mem_keys key hmem)

theorem textAt_eq_ok (text : String) {key : String}
    (hmem : (key, .str text) ∈ entries) : textAt others key = .ok text := by
  rw [textAt, h.text hmem]
  rfl

theorem integerAt_eq_ok (n : Int) {key : String} (hmem : (key, .int n) ∈ entries) :
    integerAt others key = .ok n := by
  rw [integerAt, h.integer hmem]
  rfl

theorem transitTextAt_eq_ok (text : String) {key : String}
    (hmem : (key, .str text) ∈ entries) : transitTextAt others key = .ok text := by
  rw [transitTextAt, h.text hmem]
  rfl

theorem transitIntegerAt_eq_ok (n : Int) {key : String}
    (hmem : (key, .int n) ∈ entries) : transitIntegerAt others key = .ok n := by
  rw [transitIntegerAt, h.integer hmem]
  rfl

/-- A reference is read back. -/
theorem decodeGraphReference_eq_ok {role : NodeControlGraphReferenceRole}
    (reference : NodeControlGraphReference role) {key : String}
    (hmem : (key, .str reference.value) ∈ entries) :
    decodeGraphReference others key role = .ok reference := by
  rw [decodeGraphReference, h.textAt_eq_ok _ hmem]
  exact NodeControlGraphReference.of_value reference

/-- So is one of a transit grant. -/
theorem decodeTransitReference_eq_ok {role : NodeControlGraphReferenceRole}
    (reference : NodeControlGraphReference role) {key : String}
    (hmem : (key, .str reference.value) ∈ entries) :
    decodeTransitReference others key role = .ok reference := by
  rw [decodeTransitReference, h.transitTextAt_eq_ok _ hmem, Library.Outcome.ok_bind,
    NodeControlGraphReference.of_value]
  rfl

/-- A member of an enumeration is read back, in every module's wording. -/
theorem memberIn_eq_ok {α : Type} {members : List α} {value : α → String} {member : α}
    {key : String} (hmem : (key, .str (value member)) ∈ entries)
    {malformed unknown : WireError}
    (hfound : ∀ unknown, memberOf members value unknown (value member) = .ok member) :
    memberIn malformed unknown members value (getValue others key) = .ok member := by
  rw [memberIn, h.text hmem]
  exact hfound _

end ReadBack

/-! ## Members of enumerations -/

/-- The text of an operation names it. -/
theorem memberOf_operations (operation : NodeControlOperation) (unknown : WireError) :
    memberOf operations (·.value) unknown operation.value = .ok operation := by
  cases operation <;> rfl

theorem memberOf_commandCodecs (codec : ControlPlaneCommandCodec)
    (unknown : WireError) :
    memberOf commandCodecs (·.value) unknown codec.value = .ok codec := by
  cases codec <;> rfl

theorem memberOf_variableKinds (kind : ControlPlaneVariableKind) (unknown : WireError) :
    memberOf variableKinds (·.value) unknown kind.value = .ok kind := by
  cases kind <;> rfl

theorem memberOf_purposes (purpose : DelegationKeyPurpose) (unknown : WireError) :
    memberOf delegationKeyPurposes (·.value) unknown purpose.value = .ok purpose := by
  cases purpose <;> rfl

/-! ## Targets and codecs -/

/-- **A target is read back.** -/
theorem decodeTarget_reread {target : NodeControlTarget} {w : PyValue}
    (h : reread target.descriptor w = true) : decodeTarget w = .ok target := by
  obtain ⟨others, rfl, hback⟩ := ReadBack.of_reread (by simp) h
  simp only [decodeTarget, mapping, mappingOf, Library.Outcome.ok_bind]
  rw [hback.requireKeys_eq_ok targetKeys rfl, Library.Outcome.ok_bind,
    hback.decodeGraphReference_eq_ok target.workspaceId (by simp),
    Library.Outcome.ok_bind,
    hback.decodeGraphReference_eq_ok target.graphRevision (by simp),
    Library.Outcome.ok_bind,
    hback.decodeGraphReference_eq_ok target.nodeId (by simp),
    Library.Outcome.ok_bind,
    hback.decodeGraphReference_eq_ok target.providerSocketName (by simp)]
  rfl

/-- So is that of a transit grant. -/
theorem decodeTransitTarget_reread {target : NodeControlTarget} {w : PyValue}
    (h : reread target.descriptor w = true) : decodeTransitTarget w = .ok target := by
  obtain ⟨others, rfl, hback⟩ := ReadBack.of_reread (by simp) h
  simp only [decodeTransitTarget, transitMapping, mappingOf, Library.Outcome.ok_bind]
  rw [hback.requireTransitKeys_eq_ok targetKeys rfl, Library.Outcome.ok_bind,
    hback.decodeTransitReference_eq_ok target.workspaceId (by simp),
    Library.Outcome.ok_bind,
    hback.decodeTransitReference_eq_ok target.graphRevision (by simp),
    Library.Outcome.ok_bind,
    hback.decodeTransitReference_eq_ok target.nodeId (by simp),
    Library.Outcome.ok_bind,
    hback.decodeTransitReference_eq_ok target.providerSocketName (by simp)]
  rfl

/-- A codec or `None` is read back. -/
theorem ReadBack.optionalCodec {entries others : PyDict} (h : ReadBack entries others)
    (codec : Option ControlPlaneCommandCodec) {key : String}
    (hmem : (key, codecOrNone codec) ∈ entries) (name : String) :
    optionalOf (getValue others key) (commandCodecOf name) = .ok codec := by
  cases codec with
  | none =>
      rw [h.nothing hmem]
      rfl
  | some codec =>
      have hcodec : commandCodecOf name (getValue others key) = .ok codec :=
        h.memberIn_eq_ok hmem (memberOf_commandCodecs codec)
      rw [h.text hmem] at hcodec ⊢
      rw [optionalOf, hcodec]
      · rfl
      · exact nofun

/-- So is the codec of a transit grant. -/
theorem ReadBack.optionalTransitCodec {entries others : PyDict}
    (h : ReadBack entries others) (codec : Option ControlPlaneCommandCodec)
    {key : String} (hmem : (key, codecOrNone codec) ∈ entries) (name : String) :
    optionalOf (getValue others key) (transitEnumOf commandCodecs (·.value) name) =
      .ok codec := by
  cases codec with
  | none =>
      rw [h.nothing hmem]
      rfl
  | some codec =>
      have hcodec : transitEnumOf commandCodecs (·.value) name (getValue others key) =
          .ok codec :=
        h.memberIn_eq_ok hmem (memberOf_commandCodecs codec)
      rw [h.text hmem] at hcodec ⊢
      rw [optionalOf, hcodec]
      · rfl
      · exact nofun

/-! ## States -/

/-- A public scalar that is read back is one, is equal, and is read back as it is. -/
theorem validateScalar_reread {v w : PyValue} {name : String}
    (hv : validateScalar v name = .ok ()) (h : reread v w = true) :
    validateScalar w name = .ok () ∧ pyEq v w = true ∧ reread w w = true := by
  cases v with
  | none =>
      rw [reread_none.mp h]
      exact ⟨rfl, rfl, rfl⟩
  | bool b =>
      rw [reread_bool.mp h]
      exact ⟨rfl, by simp [pyEq, PyValue.number_beq_self], reread_bool.mpr rfl⟩
  | int n =>
      rw [reread_int.mp h]
      exact ⟨hv, by simp [pyEq, PyValue.number_beq_self], reread_int.mpr rfl⟩
  | str s =>
      rw [reread_str.mp h]
      exact ⟨hv, by simp [pyEq], reread_str.mpr rfl⟩
  | float x =>
      rcases reread_float.mp h with rfl | ⟨n, rfl, hsafe, hintegral⟩
      · exact ⟨hv, by simp [pyEq, PyValue.number_beq_self], reread_float.mpr (.inl rfl)⟩
      · refine ⟨requireWire_eq_ok.mpr hsafe, ?_, reread_int.mpr rfl⟩
        rw [pyEq, PyValue.number, PyValue.number, hintegral]
        exact PyValue.number_beq_self (some (.inl n))
  | list | tuple | dict | object => cases hv

theorem scalarState_of {value : PyValue}
    (h : validateScalar value "scalar state" = .ok ()) :
    ScalarControlState.of value = .ok ⟨value, h⟩ := by
  unfold ScalarControlState.of
  split
  · rfl
  · rename_i e he
    rw [h] at he
    cases he

/-- Entries put in the order of their keys are looked up as before. -/
theorem lookup_mergeSort {entries : PyDict} (hkeys : (entries.map (·.1)).Nodup)
    (key : String) :
    (entries.mergeSort fun a b => a.1 ≤ b.1).lookup key = entries.lookup key := by
  have hperm := List.mergeSort_perm entries fun a b => decide (a.1 ≤ b.1)
  have hsorted : ((entries.mergeSort fun a b => a.1 ≤ b.1).map (·.1)).Nodup :=
    (hperm.map (·.1)).nodup_iff.mpr hkeys
  cases hfound : entries.lookup key with
  | some value =>
      exact lookup_eq_some_of_mem hsorted (hperm.mem_iff.mpr (mem_of_lookup hfound))
  | none =>
      cases hother : (entries.mergeSort fun a b => a.1 ≤ b.1).lookup key with
      | none => rfl
      | some value =>
          rw [lookup_eq_some_of_mem hkeys
            (hperm.mem_iff.mp (mem_of_lookup hother))] at hfound
          cases hfound

/-- Entries in another order are read back as each other. -/
theorem reread_of_lookup {entries others : PyDict}
    (hlength : entries.length = others.length) (hkeys : (entries.map (·.1)).Nodup)
    (hlookup : ∀ key, others.lookup key = entries.lookup key)
    (hself : ∀ entry ∈ entries, reread entry.2 entry.2 = true) :
    reread (.dict entries) (.dict others) = true := by
  rw [reread, Bool.and_eq_true, beq_iff_eq, rereadEntries_iff]
  refine ⟨hlength, fun entry hentry => ⟨entry.2, ?_, hself entry hentry⟩⟩
  rw [hlookup]
  exact lookup_eq_some_of_mem hkeys hentry

/-- **A map is read back.** -/
theorem mapState_reread {state : MapControlState} {others : PyDict}
    (h : ReadBack state.entries others) :
    ∃ decoded, MapControlState.of others = .ok decoded ∧
      (ControlStateValue.map state).same (.map decoded) ∧
        reread (.dict decoded.entries) (.dict others) = true := by
  have hkeys : (others.map (·.1)).Nodup :=
    h.keys.nodup_iff.mp (nodup_of_ordered state.ordered)
  have hlength : state.entries.length = others.length := by simpa using h.keys.length_eq
  have hvalue : ∀ other ∈ others, ∃ entry ∈ state.entries, entry.1 = other.1 ∧
      reread entry.2 other.2 = true := by
    intro other hother
    obtain ⟨entry, hentry, hkey⟩ :=
      List.mem_map.mp (h.keys.mem_iff.mpr (List.mem_map.mpr ⟨other, hother, rfl⟩))
    have hreread := h.values entry hentry
    rw [hkey, getValue, lookup_eq_some_of_mem hkeys hother] at hreread
    exact ⟨entry, hentry, hkey, hreread⟩
  have hchecked : others.forM checkMapEntry = .ok () := by
    refine Library.Outcome.forM_eq_ok.mpr fun other hother => ?_
    obtain ⟨entry, hentry, hkey, hreread⟩ := hvalue other hother
    exact check_bind_ok.mpr ⟨hkey ▸ state.keys entry hentry,
      (validateScalar_reread (state.values entry hentry) hreread).1⟩
  have hof : ∃ decoded, MapControlState.of others = .ok decoded ∧
      decoded.entries = others.mergeSort fun a b => a.1 ≤ b.1 := by
    unfold MapControlState.of
    split
    · rename_i hbounded
      have := state.bounded
      omega
    · split
      · rename_i e he
        rw [hchecked] at he
        cases he
      · exact ⟨_, rfl, rfl⟩
  obtain ⟨decoded, hdecoded, hentries⟩ := hof
  refine ⟨decoded, hdecoded, ?_, ?_⟩
  · refine forall₂_of_pyEq state.ordered decoded.ordered ?_
    rw [pyEq, Bool.and_eq_true, beq_iff_eq, pyEqEntries_iff]
    refine ⟨by rw [hentries, List.length_mergeSort, hlength], fun entry hentry => ?_⟩
    have hmem : entry.1 ∈ others.map (·.1) :=
      h.keys.mem_iff.mp (List.mem_map.mpr ⟨entry, hentry, rfl⟩)
    obtain ⟨other, hother, hkey⟩ := List.mem_map.mp hmem
    have hreread := h.values entry hentry
    rw [← hkey, getValue, lookup_eq_some_of_mem hkeys hother] at hreread
    refine ⟨other.2, ?_,
      (validateScalar_reread (state.values entry hentry) hreread).2.1⟩
    rw [hentries, lookup_mergeSort hkeys, ← hkey]
    exact lookup_eq_some_of_mem hkeys hother
  · rw [hentries]
    refine reread_of_lookup (List.length_mergeSort _) ?_
      (fun key => (lookup_mergeSort hkeys key).symm) fun other hother => ?_
    · exact ((List.mergeSort_perm others _).map (·.1)).nodup_iff.mpr hkeys
    · obtain ⟨entry, hentry, -, hreread⟩ := hvalue other (List.mem_mergeSort.mp hother)
      exact (validateScalar_reread (state.values entry hentry) hreread).2.2

/-- The kind of a state that is read back is read first. -/
theorem decodeState_of_kind {entries others : PyDict} (h : ReadBack entries others)
    (kind : ControlPlaneVariableKind) (hmem : ("kind", .str kind.value) ∈ entries) :
    decodeState (.dict others) = decodeKind others kind := by
  have hkey : (others.map (·.1)).contains "kind" = true :=
    List.contains_iff_mem.mpr (h.keys.mem_iff.mp (List.mem_map.mpr ⟨_, hmem, rfl⟩))
  simp only [decodeState, mapping, mappingOf, Library.Outcome.ok_bind, hkey]
  rw [enumOf, h.memberIn_eq_ok hmem (memberOf_variableKinds kind)]
  rfl

/-! ## Weights -/

/-- What stands on the left has its counterpart on the right. -/
theorem exists_right_of_forall₂ {α β : Type} {R : α → β → Prop}
    {as : List α} {bs : List β} (h : List.Forall₂ R as bs) :
    ∀ a ∈ as, ∃ b ∈ bs, R a b :=
  exists_of_forall₂ h.flip

/-- A weight that is read back is the same number. -/
theorem weightOf_reread {x : PyFloat} {w : PyValue} (hx : isWeight x = true)
    (h : reread (.float x) w = true) : ∃ y, weightOf w = .ok y ∧
      pyEq (.float x) (.float y) = true ∧ (isPositive x = true → isPositive y = true) ∧
        reread (.float y) w = true := by
  rcases reread_float.mp h with rfl | ⟨n, rfl, hsafe, hintegral⟩
  · exact ⟨x, by simp [weightOf, hx], by simp [pyEq, PyValue.number_beq_self], id, h⟩
  · have hnonneg : 0 ≤ n := by
      simp only [isWeight, Bool.and_eq_true, hintegral, Option.all_some,
        decide_eq_true_eq] at hx
      exact hx.2
    have hsafe' : isSafeInteger n = true := hsafe
    refine ⟨floatOfInt n, ?_, ?_, fun hpositive => ?_, ?_⟩
    · simp [weightOf, hsafe', Int.not_lt.mpr hnonneg]
    · rw [pyEq, PyValue.number, PyValue.number, hintegral]
      exact PyValue.number_beq_self (some (.inl n))
    · have hweight := isWeight_floatOfInt hnonneg
      simp only [isPositive, Bool.and_eq_true, hintegral] at hpositive
      simp only [isWeight, Bool.and_eq_true] at hweight
      simp only [isPositive, Bool.and_eq_true]
      exact ⟨hpositive.1, hweight.1.2⟩
    · exact reread_float.mpr (.inr ⟨n, rfl, hsafe, rfl⟩)

/-- The weights of a state as a dictionary. -/
def weightEntries (weights : List (NodeControlGraphReference .target × PyFloat)) :
    PyDict :=
  weights.map fun entry => (entry.1.value, .float entry.2)

/-- What stands in a dictionary of weights, in the order of the dictionary. -/
abbrev WeightsOf (others : PyDict)
    (weights : List (NodeControlGraphReference .target × PyFloat)) : Prop :=
  List.Forall₂ (fun other weight => weight.1.value = other.1 ∧
    weightOf other.2 = .ok weight.2) others weights

/-- The weights stand under the texts of their targets. -/
theorem WeightsOf.keys {others : PyDict}
    {weights : List (NodeControlGraphReference .target × PyFloat)}
    (h : WeightsOf others weights) : weights.map (·.1.value) = others.map (·.1) := by
  induction h with
  | nil => rfl
  | cons hentry _ ih => rw [List.map_cons, List.map_cons, hentry.1, ih]

/-- A dictionary whose keys are targets and whose values are weights is decoded. -/
theorem weights_decoded {others : PyDict}
    (h : ∀ other ∈ others, (∃ target : NodeControlGraphReference .target,
      target.value = other.1) ∧ ∃ weight, weightOf other.2 = .ok weight) :
    ∃ pairs weights,
      (others.mapM fun entry => (NodeControlGraphReference.of .target entry.1).map
        fun target => (target, entry.2)) = .ok pairs ∧
        pairs.mapM weighted = .ok weights ∧
      WeightsOf others weights := by
  induction others with
  | nil => exact ⟨[], [], rfl, rfl, .nil⟩
  | cons other others ih =>
      obtain ⟨⟨target, htarget⟩, weight, hweight⟩ := h other (List.mem_cons_self ..)
      obtain ⟨pairs, weights, hpairs, hweights, hof⟩ :=
        ih fun later hlater => h later (List.mem_cons_of_mem _ hlater)
      refine ⟨(target, other.2) :: pairs, (target, weight) :: weights, ?_, ?_,
        .cons ⟨htarget, hweight⟩ hof⟩
      · rw [List.mapM_cons, hpairs, ← htarget, NodeControlGraphReference.of_value]
        rfl
      · rw [List.mapM_cons, hweights, weighted, hweight]
        rfl

/-- A state is built from its targets and as many weights, in any order. -/
theorem weightedState_of {targets : List (NodeControlGraphReference .target)}
    {pairs : List (NodeControlGraphReference .target × PyValue)}
    {weights : List (NodeControlGraphReference .target × PyFloat)}
    (hnonempty : targets ≠ []) (hbounded : targets.length ≤ 128)
    (hunique : targets.Nodup) (hweights : pairs.mapM weighted = .ok weights)
    (hperm : (weights.map (·.1)).Perm targets)
    (hpositive : ∃ weight ∈ weights, isPositive weight.2 = true) :
    ∃ decoded, WeightedRoutingControlState.of targets pairs = .ok decoded ∧
      decoded.weights = weights.mergeSort fun a b => a.1.value ≤ b.1.value := by
  have hkeys : (weights.map (·.1)).Nodup := hperm.nodup_iff.mpr hunique
  have hsame : sameTargets targets (weights.map (·.1)) = true := by
    simp only [sameTargets, Bool.and_eq_true, List.all_eq_true, List.contains_iff_mem]
    exact ⟨fun _ h => hperm.mem_iff.mpr h, fun _ h => hperm.mem_iff.mp h⟩
  have hany : weights.any (fun entry => isPositive entry.2) = true :=
    List.any_eq_true.mpr hpositive
  unfold WeightedRoutingControlState.of
  rw [dif_neg hnonempty, dif_neg (Nat.not_lt.mpr hbounded), dif_pos hunique]
  split
  · rename_i e he
    rw [hweights] at he
    cases he
  · rename_i found hfound
    obtain rfl : weights = found := Except.ok.inj (hweights.symm.trans hfound)
    unfold WeightedRoutingControlState.ofWeights
    rw [dif_pos hkeys, dif_pos hsame, dif_pos hany]
    exact ⟨_, rfl, rfl⟩

/-- **Weights are read back.** -/
theorem weightedState_reread {state : WeightedRoutingControlState} {others : PyDict}
    (h : ReadBack (weightEntries state.weights) others) :
    ∃ pairs decoded,
      (others.mapM fun entry => (NodeControlGraphReference.of .target entry.1).map
        fun target => (target, entry.2)) = .ok pairs ∧
      WeightedRoutingControlState.of state.targets pairs = .ok decoded ∧
        (ControlStateValue.weightedRouting state).same (.weightedRouting decoded) ∧
          decoded.targets = state.targets ∧
            reread (.dict (weightEntries decoded.weights)) (.dict others) = true := by
  have hstateKeys : ((weightEntries state.weights).map (·.1)).Nodup :=
    nodup_of_ordered (List.pairwise_map.mpr state.ordered)
  have hkeys : (others.map (·.1)).Nodup := h.keys.nodup_iff.mp hstateKeys
  have hentry : ∀ other ∈ others, ∃ entry ∈ state.weights, entry.1.value = other.1 ∧
      reread (.float entry.2) other.2 = true := by
    intro other hother
    obtain ⟨kept, hkept, hkey⟩ :=
      List.mem_map.mp (h.keys.mem_iff.mpr (List.mem_map.mpr ⟨other, hother, rfl⟩))
    have hreread := h.values kept hkept
    rw [hkey, getValue, lookup_eq_some_of_mem hkeys hother] at hreread
    obtain ⟨entry, hmem, rfl⟩ := List.mem_map.mp hkept
    exact ⟨entry, hmem, hkey, hreread⟩
  obtain ⟨pairs, weights, hpairs, hweights, hof⟩ :=
      weights_decoded fun other hother => by
    obtain ⟨entry, hmem, hkey, hreread⟩ := hentry other hother
    obtain ⟨weight, hweight, -⟩ := weightOf_reread (state.valid entry hmem) hreread
    exact ⟨⟨entry.1, hkey⟩, weight, hweight⟩
  have hperm : (weights.map (·.1)).Perm state.targets := by
    refine (List.map_perm_map_iff fun a b => NodeControlGraphReference.eq_of_value).mp
      ?_
    rw [List.map_map, WeightedRoutingControlState.targets, List.map_map]
    have hvalues := h.keys.symm
    rw [← hof.keys, weightEntries, List.map_map] at hvalues
    exact hvalues
  have hfound : ∀ entry ∈ state.weights, ∃ weight ∈ weights, weight.1 = entry.1 ∧
      pyEq (.float entry.2) (.float weight.2) = true ∧
        (isPositive entry.2 = true → isPositive weight.2 = true) := by
    intro entry hmem
    have hkept : (entry.1.value, PyValue.float entry.2) ∈ weightEntries state.weights :=
      List.mem_map.mpr ⟨entry, hmem, rfl⟩
    obtain ⟨other, hother, hkey⟩ :=
      List.mem_map.mp (h.keys.mem_iff.mp (List.mem_map.mpr ⟨_, hkept, rfl⟩))
    have hreread := h.values _ hkept
    rw [getValue, ← hkey, lookup_eq_some_of_mem hkeys hother] at hreread
    have hother' : reread (.float entry.2) other.2 = true := hreread
    obtain ⟨y, hy, heq, hpositive, -⟩ :=
      weightOf_reread (state.valid entry hmem) hother'
    obtain ⟨weight, hweight, hvalue, hok⟩ := exists_right_of_forall₂ hof other hother
    rw [hy, Except.ok.injEq] at hok
    exact ⟨weight, hweight, NodeControlGraphReference.eq_of_value
      (hvalue.trans hkey), hok ▸ heq,
      hok ▸ hpositive⟩
  have hunique : state.targets.Nodup :=
    List.pairwise_map.mpr (state.ordered.imp fun hlt heq =>
      absurd (heq ▸ hlt) (lt_irrefl _))
  obtain ⟨decoded, hdecoded, hdecodedWeights⟩ := weightedState_of
    (fun hnil => state.nonempty (List.map_eq_nil_iff.mp hnil))
    (by simpa [WeightedRoutingControlState.targets] using state.bounded) hunique
    hweights hperm
    (by
      obtain ⟨entry, hmem, hpositive⟩ := state.positive
      obtain ⟨weight, hweight, -, -, himp⟩ := hfound entry hmem
      exact ⟨weight, hweight, himp hpositive⟩)
  have hdecodedPerm : decoded.weights.Perm weights :=
    hdecodedWeights ▸ List.mergeSort_perm weights _
  have hlength : state.weights.length = decoded.weights.length := by
    have htargets := (hperm.symm.trans (hdecodedPerm.map Prod.fst).symm).length_eq
    simpa [WeightedRoutingControlState.targets] using htargets
  refine ⟨pairs, decoded, hpairs, hdecoded, ?_, ?_, ?_⟩
  · have hequal : pyEq (.dict (weightEntries state.weights))
        (.dict (weightEntries decoded.weights)) = true := by
      rw [pyEq, Bool.and_eq_true, beq_iff_eq, pyEqEntries_iff]
      refine ⟨by simp [weightEntries, hlength], fun kept hkept => ?_⟩
      obtain ⟨entry, hmem, rfl⟩ := List.mem_map.mp hkept
      obtain ⟨weight, hweight, htarget, heq, -⟩ := hfound entry hmem
      refine ⟨.float weight.2, lookup_eq_some_of_mem
        (nodup_of_ordered (List.pairwise_map.mpr decoded.ordered)) ?_, heq⟩
      exact List.mem_map.mpr ⟨weight, hdecodedPerm.mem_iff.mpr hweight, by rw [htarget]⟩
    have hsame := forall₂_of_pyEq (List.pairwise_map.mpr state.ordered)
      (List.pairwise_map.mpr decoded.ordered) hequal
    rw [List.forall₂_map_left_iff, List.forall₂_map_right_iff] at hsame
    exact hsame.imp fun _ _ h => ⟨NodeControlGraphReference.eq_of_value h.1, h.2⟩
  · have htargets : decoded.targets.Perm state.targets :=
      (hdecodedPerm.map Prod.fst).trans hperm
    have hsorted : decoded.targets.Pairwise fun a b => a.value < b.value :=
      List.pairwise_map.mpr decoded.ordered
    exact htargets.eq_of_pairwise (fun a b _ _ hab hba => absurd hba (not_lt_of_gt hab))
      hsorted (List.pairwise_map.mpr state.ordered)
  · rw [reread, Bool.and_eq_true, beq_iff_eq, rereadEntries_iff]
    refine ⟨?_, fun kept hkept => ?_⟩
    · have hothers := h.keys.length_eq
      simp only [List.length_map, weightEntries] at hothers ⊢
      exact hlength.symm.trans hothers
    · obtain ⟨weight, hweight, rfl⟩ := List.mem_map.mp hkept
      obtain ⟨other, hother, hvalue, hok⟩ :=
        exists_of_forall₂ hof weight (hdecodedPerm.mem_iff.mp hweight)
      obtain ⟨entry, hmem, -, hreread⟩ := hentry other hother
      obtain ⟨y, hy, -, -, hback⟩ := weightOf_reread (state.valid entry hmem) hreread
      rw [hy, Except.ok.injEq] at hok
      refine ⟨other.2, ?_, hok ▸ hback⟩
      rw [hvalue]
      exact lookup_eq_some_of_mem hkeys hother

/-- The texts of targets are read back. -/
theorem targetTexts_reread {texts : List String} {w : PyValue}
    (h : reread (.list (texts.map .str)) w = true) : targetTexts w = some texts := by
  cases w <;> simp only [reread, Bool.false_eq_true] at h
  rename_i items
  rw [targetTexts]
  induction texts generalizing items with
  | nil =>
      cases items <;> simp [rereadItems] at h
      rfl
  | cons text texts ih =>
      cases items with
      | nil => simp [rereadItems] at h
      | cons item items =>
          simp only [List.map_cons, rereadItems, Bool.and_eq_true] at h
          rw [reread_str.mp h.1, List.mapM_cons, ih items h.2]
          rfl

/-- And the texts give the targets again. -/
theorem mapM_targets (targets : List (NodeControlGraphReference .target)) :
    (targets.map (·.value)).mapM (NodeControlGraphReference.of .target) =
      .ok targets := by
  induction targets with
  | nil => rfl
  | cons target targets ih =>
      rw [List.map_cons, List.mapM_cons, NodeControlGraphReference.of_value, ih]
      rfl

/-- **A state is read back**: equal, of its kind, and read back as it was. -/
theorem decodeState_reread {state : ControlStateValue} {w : PyValue}
    (h : reread state.descriptor w = true) : ∃ decoded, decodeState w = .ok decoded ∧
      state.same decoded ∧ decoded.kind = state.kind ∧
      reread decoded.descriptor w = true := by
  cases state with
  | scalar state =>
      obtain ⟨others, rfl, hback⟩ := ReadBack.of_reread (by simp) h
      obtain ⟨hvalid, hequal, hself⟩ :=
        validateScalar_reread state.accepted (hback.mem_keys "value" (by simp))
      refine ⟨.scalar ⟨_, hvalid⟩, ?_, hequal, rfl,
        ReadBack.reread_dict ⟨hback.keys, ?_⟩⟩
      · rw [decodeState_of_kind hback .scalar (by simp), decodeKind,
          hback.requireKeys_eq_ok ["kind", "value"] rfl, Library.Outcome.ok_bind,
          scalarState_of hvalid]
        rfl
      · rintro entry (_ | ⟨_, _ | ⟨_, hnil⟩⟩)
        · exact hback.mem_keys "kind" (by simp)
        · exact hself
        · cases hnil
  | map state =>
      obtain ⟨others, rfl, hback⟩ := ReadBack.of_reread (by simp) h
      obtain ⟨items, hitems, hinner⟩ :=
        hback.dict "entries" (by simp) (nodup_of_ordered state.ordered)
      obtain ⟨decoded, hdecoded, hsame, hself⟩ := mapState_reread hinner
      refine ⟨.map decoded, ?_, hsame, rfl, ReadBack.reread_dict ⟨hback.keys, ?_⟩⟩
      · rw [decodeState_of_kind hback .map (by simp), decodeKind,
          hback.requireKeys_eq_ok ["kind", "entries"] rfl, Library.Outcome.ok_bind,
          hitems, mapping, mappingOf, Library.Outcome.ok_bind, hdecoded]
        rfl
      · rintro entry (_ | ⟨_, _ | ⟨_, hnil⟩⟩)
        · exact hback.mem_keys "kind" (by simp)
        · rw [hitems]
          exact hself
        · cases hnil
  | weightedRouting state =>
      obtain ⟨others, rfl, hback⟩ := ReadBack.of_reread (by simp) h
      have hordered : (weightEntries state.weights).Pairwise fun a b => a.1 < b.1 :=
        List.pairwise_map.mpr state.ordered
      obtain ⟨items, hitems, hinner⟩ :=
        hback.dict "weights" (by simp [weightEntries]) (nodup_of_ordered hordered)
      have htargets : reread (.list (state.targets.map fun target => .str target.value))
          (getValue others "targets") = true := hback.mem_keys "targets" (by simp)
      obtain ⟨pairs, decoded, hpairs, hdecoded, hsame, hsameTargets, hself⟩ :=
        weightedState_reread hinner
      refine ⟨.weightedRouting decoded, ?_, hsame, rfl,
        ReadBack.reread_dict ⟨hback.keys, ?_⟩⟩
      · have htexts : targetTexts (getValue others "targets") =
            some (state.targets.map (·.value)) :=
          targetTexts_reread (by rw [List.map_map]; exact htargets)
        rw [decodeState_of_kind hback .weightedRouting (by simp), decodeKind,
          hback.requireKeys_eq_ok ["kind", "targets", "weights"] rfl,
          Library.Outcome.ok_bind]
        simp only [htexts, hitems, mapping, mappingOf, Library.Outcome.ok_bind,
          decodeWeighted, mapM_targets, hpairs, hdecoded]
        rfl
      · rintro entry (_ | ⟨_, _ | ⟨_, _ | ⟨_, hnil⟩⟩⟩)
        · exact hback.mem_keys "kind" (by simp)
        · rw [hsameTargets]
          exact htargets
        · rw [hitems]
          exact hself
        · cases hnil

end ControlPlaneKit.NodeControl
