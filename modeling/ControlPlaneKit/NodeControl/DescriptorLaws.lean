import ControlPlaneKit.Library.JsonMeaning
import ControlPlaneKit.NodeControl.SurfaceReads

/-!
# DescriptorLaws — a descriptor determines its value

Descriptors are JSON values.  Compared as the host language compares values, two
descriptors are equal only if what they describe is: the states up to the equality
of numbers, everything else on the nose.
-/

namespace ControlPlaneKit.NodeControl

open ControlPlaneKit.Library (PyDict PyError PyValue)
open ControlPlaneKit.Library.EventFold (bind_ok)
open ControlPlaneKit.Library.JsonText (someFloat someFloatEntries_eq_false
  someFloatItems_eq_false)
open ControlPlaneKit.Library.PyValue
  (jsonValue jsonEntries jsonItems pyEq pyEqItems pyEqEntries
  pyEqEntries_iff wellKeyed wellKeyed_dict_iff wellKeyedItems_iff mem_of_lookup)

/-! ## What the library of canonical JSON is relied on for -/

/-- A value as JSON has it: no tuples, each key of a dictionary once, and no zero with a
minus sign, which canonical JSON writes like the other one. -/
structure IsJson (v : PyValue) : Prop where
  untupled : jsonValue v = v
  keyed : wellKeyed v = true
  unsigned : someFloat isNegativeZero v = false

/-- The canonical bytes of a value determine it, up to the equality of numbers. -/
def Canonical (dumps : CanonicalJson) : Prop :=
  ∀ v w encoded, IsJson v → IsJson w → dumps v = some encoded → dumps w = some encoded →
    pyEq v w = true

/-! ## Requests that are equal -/

/-- `==` of two states: their values, compared as the host language compares them. -/
def ControlStateValue.same : ControlStateValue → ControlStateValue → Prop
  | .scalar a, .scalar b => pyEq a.value b.value = true
  | .map a, .map b =>
      List.Forall₂ (fun e f => e.1 = f.1 ∧ pyEq e.2 f.2 = true) a.entries b.entries
  | .weightedRouting a, .weightedRouting b =>
      List.Forall₂ (fun e f => e.1 = f.1 ∧
        pyEq (.float e.2) (.float f.2) = true) a.weights b.weights
  | _, _ => False

/-- `==` of two payloads, or none on both sides. -/
def samePayload : Option NodeControlPayload → Option NodeControlPayload → Prop
  | none, none => True
  | some a, some b => a.codec = b.codec ∧ a.state.same b.state
  | _, _ => False

/-- `==` of two requests. -/
structure NodeControlCommandRequest.Same (a b : NodeControlCommandRequest) : Prop where
  target : a.target = b.target
  variableName : a.variableName = b.variableName
  operation : a.operation = b.operation
  requestId : a.requestId = b.requestId
  idempotencyKey : a.idempotencyKey = b.idempotencyKey
  commandCodec : a.commandCodec = b.commandCodec
  precondition : a.precondition = b.precondition
  payload : samePayload a.payload b.payload
  canonicalization : a.canonicalization = b.canonicalization

/-! ## Dictionaries in the order of their keys -/

/-- Dictionaries whose keys are in order are equal entry by entry. -/
theorem forall₂_of_pyEq {es fs : PyDict} (hes : es.Pairwise fun a b => a.1 < b.1)
    (hfs : fs.Pairwise fun a b => a.1 < b.1) (h : pyEq (.dict es) (.dict fs) = true) :
    List.Forall₂ (fun e f => e.1 = f.1 ∧ pyEq e.2 f.2 = true) es fs := by
  rw [pyEq, Bool.and_eq_true, beq_iff_eq, pyEqEntries_iff] at h
  obtain ⟨hlength, hentries⟩ := h
  have hsorted {l : PyDict} (hl : l.Pairwise fun a b => a.1 < b.1) :
      (l.map (·.1)).Pairwise (· < ·) := List.pairwise_map.mpr hl
  have hnodup {l : PyDict} (hl : l.Pairwise fun a b => a.1 < b.1) :
      (l.map (·.1)).Nodup :=
    (hsorted hl).imp fun hlt => hlt.ne
  have hsubset : es.map (·.1) ⊆ fs.map (·.1) := by
    intro key hkey
    obtain ⟨e, he, rfl⟩ := List.mem_map.mp hkey
    obtain ⟨w, hw, -⟩ := hentries e he
    exact List.mem_map.mpr ⟨_, mem_of_lookup hw, rfl⟩
  have hperm : (es.map (·.1)).Perm (fs.map (·.1)) :=
    (List.subperm_of_subset (hnodup hes) hsubset).perm_of_length_le (by simp [hlength])
  have hkeys : es.map (·.1) = fs.map (·.1) :=
    hperm.eq_of_pairwise (fun a b _ _ hab hba => absurd hba (not_lt_of_gt hab))
      (hsorted hes) (hsorted hfs)
  refine List.forall₂_iff_get.mpr ⟨hlength, fun i hi hj => ?_⟩
  have hkey : (es.get ⟨i, hi⟩).1 = (fs.get ⟨i, hj⟩).1 := by
    have hget := congrArg (fun keys => keys[i]?) hkeys
    simpa [List.getElem?_map, List.getElem?_eq_getElem hi, List.getElem?_eq_getElem hj]
      using hget
  refine ⟨hkey, ?_⟩
  obtain ⟨w, hw, heq⟩ := hentries _ (List.get_mem es ⟨i, hi⟩)
  have hmem : ((fs.get ⟨i, hj⟩).1, (fs.get ⟨i, hj⟩).2) ∈ fs := List.get_mem fs ⟨i, hj⟩
  rw [hkey, Library.PyValue.lookup_eq_some_of_mem (hnodup hfs) hmem,
    Option.some.injEq] at hw
  rw [hw]
  exact heq

/-! ## Descriptors determine their values -/

/-- A state's descriptor determines it, up to the equality of numbers. -/
theorem ControlStateValue.same_of_pyEq {a b : ControlStateValue}
    (h : pyEq a.descriptor b.descriptor = true) : a.same b := by
  cases a with
  | scalar a =>
      cases b with
      | scalar b =>
          simpa [descriptor, pyEq, pyEqEntries, List.lookup_cons, same] using h
      | map b =>
          simp [descriptor, pyEq, pyEqEntries, List.lookup_cons,
            ControlPlaneVariableKind.value] at h
      | weightedRouting b =>
          simp [descriptor, pyEq, pyEqEntries, List.lookup_cons,
            ControlPlaneVariableKind.value] at h
  | map a =>
      cases b with
      | scalar b =>
          simp [descriptor, pyEq, pyEqEntries, List.lookup_cons,
            ControlPlaneVariableKind.value] at h
      | map b =>
          refine forall₂_of_pyEq a.ordered b.ordered ?_
          simpa [descriptor, pyEq, pyEqEntries, List.lookup_cons] using h
      | weightedRouting b =>
          simp [descriptor, pyEq, pyEqEntries, List.lookup_cons,
            ControlPlaneVariableKind.value] at h
  | weightedRouting a =>
      cases b with
      | scalar b =>
          simp [descriptor, pyEq, pyEqEntries, List.lookup_cons,
            ControlPlaneVariableKind.value] at h
      | map b =>
          simp [descriptor, pyEq, pyEqEntries, List.lookup_cons,
            ControlPlaneVariableKind.value] at h
      | weightedRouting b =>
          have hweights : pyEq (.dict
              (a.weights.map fun entry => (entry.1.value, .float entry.2))) (.dict
              (b.weights.map fun entry => (entry.1.value, .float entry.2))) = true := by
            simp only [descriptor, pyEq, pyEqEntries, List.lookup_cons,
              Bool.and_eq_true] at h ⊢
            simpa using h.2.2.2
          have hsame := forall₂_of_pyEq (List.pairwise_map.mpr a.ordered)
            (List.pairwise_map.mpr b.ordered) hweights
          rw [List.forall₂_map_left_iff, List.forall₂_map_right_iff] at hsame
          exact hsame.imp fun _ _ h => ⟨NodeControlGraphReference.eq_of_value h.1, h.2⟩

/-- A target is determined by its descriptor. -/
theorem NodeControlTarget.eq_of_pyEq {a b : NodeControlTarget}
    (h : pyEq a.descriptor b.descriptor = true) : a = b := by
  simp [descriptor, pyEq, pyEqEntries, List.lookup_cons] at h
  obtain ⟨hworkspace, hrevision, hnode, hsocket⟩ := h
  cases a
  cases b
  cases NodeControlGraphReference.eq_of_value hworkspace
  cases NodeControlGraphReference.eq_of_value hrevision
  cases NodeControlGraphReference.eq_of_value hnode
  cases NodeControlGraphReference.eq_of_value hsocket
  rfl

/-- Operations have different texts. -/
theorem NodeControlOperation.eq_of_value {a b : NodeControlOperation}
    (h : a.value = b.value) : a = b := by
  cases a <;> cases b <;> first | rfl | exact absurd h (by decide)

/-- So have codecs. -/
theorem ControlPlaneCommandCodec.eq_of_value {a b : ControlPlaneCommandCodec}
    (h : a.value = b.value) : a = b := by
  cases a <;> cases b <;> first | rfl | exact absurd h (by decide)

/-- A codec or none is determined by its descriptor. -/
theorem codecOrNone_inj {a b : Option ControlPlaneCommandCodec}
    (h : pyEq (codecOrNone a) (codecOrNone b) = true) : a = b := by
  cases a <;> cases b <;> simp [codecOrNone, pyEq] at h
  · rfl
  · rw [ControlPlaneCommandCodec.eq_of_value h]

/-- So is a precondition or none. -/
theorem precondition_inj {a b : Option ControlPlaneTransitionPrecondition}
    (h : pyEq ((a.map (·.descriptor)).getD .none)
      ((b.map (·.descriptor)).getD .none) = true) :
    a = b := by
  cases a with
  | none =>
      cases b with
      | none => rfl
      | some b => simp [ControlPlaneTransitionPrecondition.descriptor, pyEq] at h
  | some a =>
      cases b with
      | none => simp [ControlPlaneTransitionPrecondition.descriptor, pyEq] at h
      | some b =>
          obtain ⟨version, _⟩ := a
          obtain ⟨other, _⟩ := b
          simp [ControlPlaneTransitionPrecondition.descriptor, pyEq, pyEqEntries,
            Library.PyValue.number] at h
          have hversion : (version == other) = true := h
          cases beq_iff_eq.mp hversion
          rfl

/-- Payloads with equal descriptors are the same, up to how their numbers are
written. -/
theorem samePayload_of_pyEq {a b : Option NodeControlPayload}
    (h : pyEq ((a.map (·.descriptor)).getD .none)
      ((b.map (·.descriptor)).getD .none) = true) :
    samePayload a b := by
  cases a with
  | none =>
      cases b with
      | none => trivial
      | some b => simp [NodeControlPayload.descriptor, pyEq] at h
  | some a =>
      cases b with
      | none => simp [NodeControlPayload.descriptor, pyEq] at h
      | some b =>
          simp [NodeControlPayload.descriptor, pyEq, pyEqEntries, List.lookup_cons] at h
          exact ⟨ControlPlaneCommandCodec.eq_of_value h.1,
            ControlStateValue.same_of_pyEq h.2⟩

/-- **A request's descriptor determines it.** -/
theorem NodeControlCommandRequest.same_of_pyEq {a b : NodeControlCommandRequest}
    (h : pyEq a.descriptor b.descriptor = true) : a.Same b := by
  rw [descriptor, descriptor, pyEq] at h
  simp only [pyEqEntries, List.lookup_cons, Bool.and_eq_true] at h
  simp at h
  obtain ⟨htarget, hvariable, hoperation, hrequest, hkey, -, hcodec, hprecondition,
    hpayload⟩ := h
  exact ⟨NodeControlTarget.eq_of_pyEq htarget,
    NodeControlGraphReference.eq_of_value (by simpa [pyEq] using hvariable),
    NodeControlOperation.eq_of_value (by simpa [pyEq] using hoperation),
    by simpa [pyEq] using hrequest, by simpa [pyEq] using hkey, codecOrNone_inj hcodec,
    precondition_inj hprecondition, samePayload_of_pyEq hpayload, rfl⟩

/-! ## Descriptors are JSON -/

theorem isJson_str (s : String) : IsJson (.str s) := ⟨by simp [jsonValue], rfl, rfl⟩

theorem isJson_none : IsJson .none := ⟨by simp [jsonValue], rfl, rfl⟩

theorem isJson_bool (b : Bool) : IsJson (.bool b) := ⟨by simp [jsonValue], rfl, rfl⟩

theorem isJson_int (n : Int) : IsJson (.int n) := ⟨by simp [jsonValue], rfl, rfl⟩

/-- A float is JSON unless it is `-0.0`. -/
theorem isJson_float {x : Library.PyFloat} (h : isNegativeZero x = false) :
    IsJson (.float x) :=
  ⟨by simp [jsonValue], rfl, h⟩

/-- Weights are no negative zeros. -/
theorem isNegativeZero_of_isWeight {x : Library.PyFloat} (h : isWeight x = true) :
    isNegativeZero x = false := by
  simp only [isWeight, Bool.and_eq_true, decide_eq_true_eq] at h
  simp [isNegativeZero, h.1.2]

/-- A public scalar is a JSON value. -/
theorem isJson_of_validateScalar {value : PyValue} {name : String}
    (h : validateScalar value name = .ok ()) : IsJson value := by
  cases value with
  | float x =>
      rw [validateScalar, requireWire_eq_ok, Bool.and_eq_true, Bool.not_eq_true'] at h
      exact isJson_float h.2
  | none => exact isJson_none
  | bool => exact isJson_bool _
  | int => exact isJson_int _
  | str => exact isJson_str _
  | list | tuple | dict | object => cases h

/-- A dictionary of JSON values is one, when each key stands once. -/
theorem isJson_dict {entries : PyDict} (hkeys : (entries.map (·.1)).Nodup)
    (hvalues : ∀ entry ∈ entries, IsJson entry.2) : IsJson (.dict entries) := by
  refine ⟨?_, wellKeyed_dict_iff.mpr ⟨hkeys, fun entry hentry =>
    (hvalues entry hentry).keyed⟩,
    someFloatEntries_eq_false.mpr fun entry hentry => (hvalues entry hentry).unsigned⟩
  rw [jsonValue]
  congr 1
  induction entries with
  | nil => simp [jsonEntries]
  | cons entry rest ih =>
      rw [jsonEntries, (hvalues entry (List.mem_cons_self ..)).untupled,
        ih (List.nodup_cons.mp hkeys).2 fun e he =>
          hvalues e (List.mem_cons_of_mem _ he)]

/-- A list is JSON when its items are. -/
theorem isJson_list {items : List PyValue} (h : ∀ item ∈ items, IsJson item) :
    IsJson (.list items) := by
  refine ⟨?_, wellKeyedItems_iff.mpr fun item hitem => (h item hitem).keyed,
    someFloatItems_eq_false.mpr fun item hitem => (h item hitem).unsigned⟩
  rw [jsonValue]
  congr 1
  induction items with
  | nil => simp [jsonItems]
  | cons item rest ih =>
      rw [jsonItems, (h item (List.mem_cons_self ..)).untupled,
        ih fun i hi => h i (List.mem_cons_of_mem _ hi)]

/-- Keys in order stand once each. -/
theorem nodup_of_ordered {entries : PyDict}
    (h : entries.Pairwise fun a b => a.1 < b.1) : (entries.map (·.1)).Nodup :=
  List.pairwise_map.mpr (h.imp fun hlt => hlt.ne)

/-- States are JSON. -/
theorem ControlStateValue.isJson_descriptor (state : ControlStateValue) :
    IsJson state.descriptor := by
  cases state with
  | scalar state =>
      refine isJson_dict (by simp) fun entry hentry => ?_
      simp only [List.mem_cons, List.not_mem_nil, or_false] at hentry
      rcases hentry with rfl | rfl
      · exact isJson_str _
      · exact isJson_of_validateScalar state.accepted
  | map state =>
      refine isJson_dict (by simp) fun entry hentry => ?_
      simp only [List.mem_cons, List.not_mem_nil, or_false] at hentry
      rcases hentry with rfl | rfl
      · exact isJson_str _
      · exact isJson_dict (nodup_of_ordered state.ordered) fun entry hentry =>
          isJson_of_validateScalar (state.values entry hentry)
  | weightedRouting state =>
      refine isJson_dict (by simp) fun entry hentry => ?_
      simp only [List.mem_cons, List.not_mem_nil, or_false] at hentry
      rcases hentry with rfl | rfl | rfl
      · exact isJson_str _
      · refine isJson_list fun item hitem => ?_
        obtain ⟨target, -, rfl⟩ := List.mem_map.mp hitem
        exact isJson_str _
      · refine isJson_dict (nodup_of_ordered (List.pairwise_map.mpr state.ordered))
          fun entry hentry => ?_
        obtain ⟨weight, hweight, rfl⟩ := List.mem_map.mp hentry
        exact isJson_float (isNegativeZero_of_isWeight (state.valid weight hweight))

/-- Targets are JSON. -/
theorem NodeControlTarget.isJson_descriptor (target : NodeControlTarget) :
    IsJson target.descriptor := by
  refine isJson_dict (by simp) fun entry hentry => ?_
  simp only [List.mem_cons, List.not_mem_nil, or_false] at hentry
  rcases hentry with rfl | rfl | rfl | rfl <;> exact isJson_str _

theorem isJson_codecOrNone (codec : Option ControlPlaneCommandCodec) :
    IsJson (codecOrNone codec) := by
  cases codec with
  | none => exact isJson_none
  | some codec => exact isJson_str _

theorem NodeControlPayload.isJson_descriptor (payload : NodeControlPayload) :
    IsJson payload.descriptor := by
  refine isJson_dict (by simp) fun entry hentry => ?_
  simp only [List.mem_cons, List.not_mem_nil, or_false] at hentry
  rcases hentry with rfl | rfl
  · exact isJson_str _
  · exact payload.state.isJson_descriptor

/-- **Requests are JSON**, whatever they ask for. -/
theorem NodeControlCommandRequest.isJson_descriptor
    (request : NodeControlCommandRequest) : IsJson request.descriptor := by
  refine isJson_dict (by simp) fun entry hentry => ?_
  simp only [List.mem_cons, List.not_mem_nil, or_false] at hentry
  rcases hentry with rfl | rfl | rfl | rfl | rfl | rfl | rfl | rfl | rfl
  · exact request.target.isJson_descriptor
  · exact isJson_str _
  · exact isJson_str _
  · exact isJson_str _
  · exact isJson_str _
  · exact isJson_str _
  · exact isJson_codecOrNone _
  · cases request.precondition with
    | none => exact isJson_none
    | some precondition =>
        refine isJson_dict (by simp) fun entry hentry => ?_
        rw [List.mem_singleton.mp hentry]
        exact isJson_int _
  · cases request.payload with
    | none => exact isJson_none
    | some payload => exact payload.isJson_descriptor

/-! ## Surface reads -/

/-- So are surface reads. -/
theorem NodeControlSurfaceReadRequest.isJson_descriptor
    (request : NodeControlSurfaceReadRequest) : IsJson request.descriptor := by
  refine isJson_dict (by simp) fun entry hentry => ?_
  simp only [List.mem_cons, List.not_mem_nil, or_false] at hentry
  rcases hentry with rfl | rfl | rfl | rfl | rfl | rfl
  · exact isJson_str _
  · exact isJson_str _
  · exact request.target.isJson_descriptor
  · exact isJson_str _
  · exact isJson_str _
  · exact isJson_str _

theorem NodeControlSurfaceReadKind.eq_of_value {a b : NodeControlSurfaceReadKind}
    (h : a.value = b.value) : a = b := by
  cases a <;> cases b <;> first | rfl | exact absurd h (by decide)

/-- **A surface-read request's descriptor determines it.** -/
theorem NodeControlSurfaceReadRequest.eq_of_pyEq {a b : NodeControlSurfaceReadRequest}
    (h : pyEq a.descriptor b.descriptor = true) : a = b := by
  rw [descriptor, descriptor, pyEq] at h
  simp only [pyEqEntries, List.lookup_cons, Bool.and_eq_true] at h
  simp at h
  obtain ⟨-, -, htarget, hkind, hidentity, hrequest⟩ := h
  simp only [pyEq, beq_iff_eq] at hkind hidentity hrequest
  obtain ⟨target, kind, ⟨identity, _⟩, requestId, profile, canonicalization⟩ := a
  obtain ⟨target', kind', ⟨identity', _⟩, requestId', profile', canonicalization'⟩ := b
  cases NodeControlTarget.eq_of_pyEq htarget
  cases NodeControlSurfaceReadKind.eq_of_value hkind
  cases hidentity
  cases hrequest
  rfl

end ControlPlaneKit.NodeControl
