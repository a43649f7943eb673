import ControlPlaneKit.Library.Ordering
import ControlPlaneKit.Library.PyValue
import Mathlib.Data.List.Nodup

/-!
# PyJson — equality of JSON values and their text

Turning tuples into lists changes neither the JSON text nor the distinctness of
keys, and leaves a value without tuples alone.  Values made of texts, lists and
dictionaries have one JSON text when they are equal, whatever the order of their
keys.
-/

namespace ControlPlaneKit.Library.PyValue

open Outcome (collect)

/-! ## Textual values -/

mutual

/-- Made of texts, lists and dictionaries. -/
def textual : PyValue → Bool
  | .none => true
  | .str _ => true
  | .list items => textualItems items
  | .dict entries => textualEntries entries
  | _ => false

def textualItems : List PyValue → Bool
  | [] => true
  | v :: vs => textual v && textualItems vs

def textualEntries : List (String × PyValue) → Bool
  | [] => true
  | (_, v) :: es => textual v && textualEntries es

end

/-- A list is textual when all its items are. -/
theorem textualItems_iff {items : List PyValue} :
    textualItems items = true ↔ ∀ v ∈ items, textual v = true := by
  induction items with
  | nil => simp [textualItems]
  | cons v vs ih => simp [textualItems, ih]

mutual

/-- A textual value is a JSON value. -/
theorem jsonValue_of_textual : ∀ v : PyValue, textual v = true →
    jsonValue v = v ∧ isRenderable v = true
  | .none, _ | .str _, _ => by simp [jsonValue, isRenderable]
  | .list items, h => by
      obtain ⟨hjson, hrender⟩ := jsonItems_of_textual items h
      rw [jsonValue, isRenderable, hjson]
      exact ⟨rfl, hrender⟩
  | .dict entries, h => by
      obtain ⟨hjson, hrender⟩ := jsonEntries_of_textual entries h
      rw [jsonValue, isRenderable, hjson]
      exact ⟨rfl, hrender⟩

theorem jsonItems_of_textual : ∀ items : List PyValue, textualItems items = true →
    jsonItems items = items ∧ isRenderableItems items = true
  | [], _ => by simp [jsonItems, isRenderableItems]
  | v :: vs, h => by
      rw [textualItems, Bool.and_eq_true] at h
      obtain ⟨hv, hvr⟩ := jsonValue_of_textual v h.1
      obtain ⟨hvs, hvsr⟩ := jsonItems_of_textual vs h.2
      rw [jsonItems, hv, hvs, isRenderableItems, hvr, hvsr]
      exact ⟨rfl, rfl⟩

theorem jsonEntries_of_textual : ∀ entries : PyDict, textualEntries entries = true →
    jsonEntries entries = entries ∧ isRenderableEntries entries = true
  | [], _ => by simp [jsonEntries, isRenderableEntries]
  | (k, v) :: es, h => by
      rw [textualEntries, Bool.and_eq_true] at h
      obtain ⟨hv, hvr⟩ := jsonValue_of_textual v h.1
      obtain ⟨hes, hesr⟩ := jsonEntries_of_textual es h.2
      rw [jsonEntries, hv, hes, isRenderableEntries, hvr, hesr]
      exact ⟨rfl, rfl⟩

end

/-! ## Tuples as lists -/

/-- JSON keeps the keys of a mapping. -/
theorem jsonEntries_keys (entries : PyDict) :
    (jsonEntries entries).map (·.1) = entries.map (·.1) := by
  induction entries with
  | nil => simp [jsonEntries]
  | cons e es ih => simp [jsonEntries, ih]

/-- It keeps what is found under a key, as JSON. -/
theorem lookup_jsonEntries (entries : PyDict) (key : String) :
    (jsonEntries entries).lookup key = (entries.lookup key).map jsonValue := by
  induction entries with
  | nil => simp [jsonEntries]
  | cons e es ih =>
      rw [jsonEntries, List.lookup_cons, List.lookup_cons, ih]
      cases key == e.1 <;> rfl

mutual

/-- Where no mapping repeats a key, none does as JSON. -/
theorem wellKeyed_jsonValue :
    ∀ v : PyValue, wellKeyed v = true → wellKeyed (jsonValue v) = true
  | .none, _ | .bool _, _ | .int _, _ | .float _, _ | .str _, _ | .object _ _, _ => by
      simp [jsonValue, wellKeyed]
  | .list items, h => by
      rw [jsonValue, wellKeyed]
      exact wellKeyed_jsonItems items h
  | .tuple items, h => by
      rw [jsonValue, wellKeyed]
      exact wellKeyed_jsonItems items h
  | .dict entries, h => by
      rw [wellKeyed, Bool.and_eq_true] at h
      rw [jsonValue, wellKeyed, jsonEntries_keys, Bool.and_eq_true]
      exact ⟨h.1, wellKeyed_jsonEntries entries h.2⟩

theorem wellKeyed_jsonItems : ∀ items : List PyValue, wellKeyedItems items = true →
    wellKeyedItems (jsonItems items) = true
  | [], _ => by simp [jsonItems, wellKeyedItems]
  | v :: vs, h => by
      rw [wellKeyedItems, Bool.and_eq_true] at h
      rw [jsonItems, wellKeyedItems, Bool.and_eq_true]
      exact ⟨wellKeyed_jsonValue v h.1, wellKeyed_jsonItems vs h.2⟩

theorem wellKeyed_jsonEntries : ∀ entries : PyDict, wellKeyedEntries entries = true →
    wellKeyedEntries (jsonEntries entries) = true
  | [], _ => by simp [jsonEntries, wellKeyedEntries]
  | (k, v) :: es, h => by
      rw [wellKeyedEntries, Bool.and_eq_true] at h
      rw [jsonEntries, wellKeyedEntries, Bool.and_eq_true]
      exact ⟨wellKeyed_jsonValue v h.1, wellKeyed_jsonEntries es h.2⟩

end

/-! ## The text of a JSON value -/

section Text

variable (style : JsonStyle)

mutual

/-- A tuple prints as a list. -/
theorem dumps_jsonValue : ∀ v : PyValue, dumps style (jsonValue v) = dumps style v
  | .none | .bool _ | .int _ | .float _ | .str _ | .object _ _ => by simp [jsonValue]
  | .list items => by rw [jsonValue, dumps, dumps, dumpsItems_jsonItems items]
  | .tuple items => by rw [jsonValue, dumps, dumps, dumpsItems_jsonItems items]
  | .dict entries => by rw [jsonValue, dumps, dumps, dumpsEntries_jsonEntries entries]

/-- Rendering does not see the difference to JSON. -/
theorem dumpsItems_jsonItems : ∀ items : List PyValue,
    dumpsItems style (jsonItems items) = dumpsItems style items
  | [] => by simp [jsonItems]
  | v :: vs => by
      rw [jsonItems, dumpsItems, dumpsItems, dumps_jsonValue v, dumpsItems_jsonItems vs]

theorem dumpsEntries_jsonEntries : ∀ entries : PyDict,
    dumpsEntries style (jsonEntries entries) = dumpsEntries style entries
  | [] => by simp [jsonEntries]
  | (k, v) :: es => by
      rw [jsonEntries, dumpsEntries, dumpsEntries, dumps_jsonValue v,
        dumpsEntries_jsonEntries es]

end

/-- The entries are rendered one by one. -/
theorem dumpsEntries_eq_map (entries : PyDict) :
    dumpsEntries style entries = entries.map fun e => (e.1, dumps style e.2) := by
  induction entries with
  | nil => simp [dumpsEntries]
  | cons e es ih => simp [dumpsEntries, ih]

/-- What is found is an entry. -/
theorem mem_of_lookup {α : Type} {entries : List (String × α)}
    {key : String} {value : α} (h : entries.lookup key = some value) :
    (key, value) ∈ entries := by
  induction entries with
  | nil => simp at h
  | cons e es ih =>
      rw [List.lookup_cons] at h
      cases hkey : key == e.1 with
      | true =>
          rw [hkey] at h
          cases h
          rw [beq_iff_eq.mp hkey]
          exact List.mem_cons_self ..
      | false =>
          rw [hkey] at h
          exact List.mem_cons_of_mem _ (ih h)

/-- One mapping's entries are found, equal, in the other. -/
theorem pyEqEntries_iff {es fs : PyDict} : pyEqEntries es fs = true ↔
    ∀ e ∈ es, ∃ w, fs.lookup e.1 = some w ∧ pyEq e.2 w = true := by
  induction es with
  | nil => simp [pyEqEntries]
  | cons e es ih =>
      rw [pyEqEntries, Bool.and_eq_true, ih, List.forall_mem_cons]
      cases fs.lookup e.1 <;> simp

/-- **The text of a dictionary** depends on the texts under its keys alone. -/
theorem dumps_dict_eq {es fs : PyDict} (hes : (es.map (·.1)).Nodup)
    (hlength : es.length = fs.length)
    (h : ∀ e ∈ es, ∃ w, fs.lookup e.1 = some w ∧ dumps style e.2 = dumps style w) :
    dumps style (.dict es) = dumps style (.dict fs) := by
  have hkeys : ∀ l : PyDict, ((dumpsEntries style l).map (·.1)) = l.map (·.1) := by
    intro l
    rw [dumpsEntries_eq_map, List.map_map]
    rfl
  have hsub : dumpsEntries style es ⊆ dumpsEntries style fs := by
    rw [dumpsEntries_eq_map, dumpsEntries_eq_map]
    intro entry hentry
    obtain ⟨e, he, rfl⟩ := List.mem_map.mp hentry
    obtain ⟨w, hw, htext⟩ := h e he
    exact List.mem_map.mpr ⟨(e.1, w), mem_of_lookup hw, by rw [htext]⟩
  have hnodup : (dumpsEntries style es).Nodup := List.Nodup.of_map _ (by rwa [hkeys])
  have hperm : (dumpsEntries style es).Perm (dumpsEntries style fs) := by
    refine (List.subperm_of_subset hnodup hsub).perm_of_length_le ?_
    rw [dumpsEntries_eq_map, dumpsEntries_eq_map, List.length_map,
      List.length_map, hlength]
  rw [dumps, dumps,
    @Ordering.insertionSort_eq_of_perm _ String _ (·.1) _ _ hperm (by rwa [hkeys])]

mutual

/-- **Equal textual values have one JSON text.** -/
theorem dumps_eq_of_pyEq : ∀ v w : PyValue, textual v = true → wellKeyed v = true →
    wellKeyed w = true → pyEq v w = true → dumps style v = dumps style w
  | .none, w, _, _, _, h => by cases w <;> simp_all [pyEq]
  | .str s, w, _, _, _, h => by cases w <;> simp_all [pyEq]
  | .list items, w, htextual, hv, hw, h => by
      cases w with
      | list items' =>
          rw [pyEq] at h
          rw [dumps, dumps, dumpsItems_eq_of_pyEq items items' htextual hv hw h]
      | _ => simp [pyEq] at h
  | .dict es, w, htextual, hv, hw, h => by
      cases w with
      | dict fs =>
          rw [pyEq, Bool.and_eq_true, beq_iff_eq] at h
          obtain ⟨hes, hvalues⟩ := wellKeyed_dict_iff.mp hv
          obtain ⟨-, hvalues'⟩ := wellKeyed_dict_iff.mp hw
          exact dumps_dict_eq style hes h.1
            (dumpsEntries_of_pyEq es fs htextual (wellKeyedEntries_iff.mpr hvalues)
              (wellKeyedEntries_iff.mpr hvalues') h.2)
      | _ => simp [pyEq] at h

/-- Equal lists of texts are rendered alike. -/
theorem dumpsItems_eq_of_pyEq : ∀ vs ws : List PyValue, textualItems vs = true →
    wellKeyedItems vs = true → wellKeyedItems ws = true → pyEqItems vs ws = true →
    dumpsItems style vs = dumpsItems style ws
  | [], [], _, _, _, _ => rfl
  | [], _ :: _, _, _, _, h => by simp [pyEqItems] at h
  | _ :: _, [], _, _, _, h => by simp [pyEqItems] at h
  | v :: vs, w :: ws, htextual, hv, hw, h => by
      rw [textualItems, Bool.and_eq_true] at htextual
      rw [wellKeyedItems, Bool.and_eq_true] at hv hw
      rw [pyEqItems, Bool.and_eq_true] at h
      rw [dumpsItems, dumpsItems, dumps_eq_of_pyEq v w htextual.1 hv.1 hw.1 h.1,
        dumpsItems_eq_of_pyEq vs ws htextual.2 hv.2 hw.2 h.2]

/-- Equal mappings of texts have equal renderings under each key. -/
theorem dumpsEntries_of_pyEq : ∀ es fs : PyDict, textualEntries es = true →
    wellKeyedEntries es = true → wellKeyedEntries fs = true → pyEqEntries es fs = true →
    ∀ e ∈ es, ∃ w, fs.lookup e.1 = some w ∧ dumps style e.2 = dumps style w
  | [], _, _, _, _, _ => by simp
  | (k, v) :: es, fs, htextual, hv, hw, h => by
      rw [textualEntries, Bool.and_eq_true] at htextual
      rw [wellKeyedEntries, Bool.and_eq_true] at hv
      rw [pyEqEntries, Bool.and_eq_true] at h
      refine List.forall_mem_cons.mpr
        ⟨?_, dumpsEntries_of_pyEq es fs htextual.2 hv.2 hw h.2⟩
      cases hlookup : fs.lookup k with
      | none =>
          rw [hlookup] at h
          cases h.1
      | some w =>
          rw [hlookup] at h
          exact ⟨w, rfl, dumps_eq_of_pyEq v w htextual.1 hv.1
            (wellKeyedEntries_iff.mp hw (k, w) (mem_of_lookup hlookup)) h.1⟩

end

end Text

end ControlPlaneKit.Library.PyValue
