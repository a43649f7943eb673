import ControlPlaneKit.Library.EventFold
import ControlPlaneKit.Library.Outcome
import Std.Data.ExtTreeMap

/-!
# KeyedMap — mappings by text identity and their comparison

`sorted(mapping.items())` is the entry list of an ordered map.  Comparing two
mappings by key splits the keys in three: only in the second, only in the
first, in both.
-/

namespace ControlPlaneKit.Library

open Outcome (Succeeds collectMap)
open Std (ExtTreeMap)

/-- A mapping keyed by text. -/
abbrev TextMap (α : Type) := ExtTreeMap String α

namespace KeyedMap

variable {α β ε : Type}

theorem mem_toList {t : TextMap α} {k : String} {v : α} :
    (k, v) ∈ t.toList ↔ t[k]? = some v :=
  ExtTreeMap.mem_toList_iff_getElem?_eq_some

theorem getElem?_insert {t : TextMap α} {k j : String} {v : α} :
    (t.insert k v)[j]? = if k = j then some v else t[j]? := by
  simp [ExtTreeMap.getElem?_insert]

/-- A map built from entries with distinct keys holds exactly those entries. -/
theorem getElem?_ofList {l : List (String × α)} (hnd : (l.map (·.1)).Nodup) {k : String}
    {v : α} : (ExtTreeMap.ofList l : TextMap α)[k]? = some v ↔ (k, v) ∈ l := by
  have hdistinct : l.Pairwise fun a b => ¬ compare a.1 b.1 = .eq := by
    rw [List.Nodup, List.pairwise_map] at hnd
    exact hnd.imp fun h heq => h (Std.LawfulEqCmp.eq_of_compare heq)
  constructor
  · intro h
    by_cases hmem : k ∈ l.map (·.1)
    · obtain ⟨⟨j, w⟩, hjw, rfl⟩ := List.mem_map.mp hmem
      have hget : (ExtTreeMap.ofList l : TextMap α)[j]? = some w :=
        ExtTreeMap.getElem?_ofList_of_mem Std.ReflCmp.compare_self hdistinct hjw
      rw [hget] at h
      cases h
      exact hjw
    · rw [ExtTreeMap.getElem?_ofList_of_contains_eq_false (by simpa using hmem)] at h
      cases h
  · exact fun h =>
      ExtTreeMap.getElem?_ofList_of_mem Std.ReflCmp.compare_self hdistinct h

/-- Mappings that differ differ at a key. -/
theorem exists_getElem?_ne {s t : TextMap α} (h : s ≠ t) :
    ∃ key : String, s[key]? ≠ t[key]? := by
  by_contra hall
  push Not at hall
  exact h (ExtTreeMap.ext_getElem? hall)

/-! ## What a mapping records -/

/-- Every entry of the map is one of the given ones, and every key that has a
given entry has one in the map. -/
structure Records (t : TextMap α) (entries : String → α → Prop) : Prop where
  sound : ∀ {k v}, t[k]? = some v → entries k v
  present : ∀ {k v}, entries k v → ∃ w, t[k]? = some w

namespace Records

variable {t : TextMap α} {entries entries' : String → α → Prop}

theorem empty (h : ∀ k v, ¬ entries k v) : Records ∅ entries where
  sound h' := by simp at h'
  present h' := absurd h' (h _ _)

theorem weaken (h : Records t entries) (hsound : ∀ k v, entries k v → entries' k v)
    (hpresent : ∀ k v, entries' k v → ∃ w, entries k w) : Records t entries' where
  sound h' := hsound _ _ (h.sound h')
  present h' := by
    obtain ⟨w, hw⟩ := hpresent _ _ h'
    exact h.present hw

theorem insert (h : Records t entries) {k : String} {v : α} :
    Records (t.insert k v) fun j w => entries j w ∨ (j = k ∧ w = v) where
  sound {j w} h' := by
    rw [getElem?_insert] at h'
    split at h'
    · rename_i heq
      exact .inr ⟨heq.symm, (Option.some.inj h').symm⟩
    · exact .inl (h.sound h')
  present {j w} h' := by
    rw [getElem?_insert]
    split
    · exact ⟨v, rfl⟩
    · rename_i hne
      rcases h' with h' | ⟨rfl, -⟩
      · exact h.present h'
      · exact absurd rfl hne

/-- Where the given entries are a function of the key, the map is that function. -/
theorem eq_some_iff (h : Records t entries) {k : String} {v : α}
    (hunique : ∀ w, entries k v → entries k w → v = w) :
    t[k]? = some v ↔ entries k v := by
  constructor
  · exact h.sound
  · intro hv
    obtain ⟨w, hw⟩ := h.present hv
    rw [hunique w hv (h.sound hw), hw]

/-- So it is where the given entries are those of another map. -/
theorem eq_some_iff_of_lookup (h : Records t entries) {other : TextMap α} {k : String}
    {v : α} {p : Prop} (hiff : ∀ w, entries k w ↔ other[k]? = some w ∧ p) :
    t[k]? = some v ↔ other[k]? = some v ∧ p := by
  rw [h.eq_some_iff, hiff]
  intro w hv hw
  exact Option.some.inj (((hiff v).mp hv).1.symm.trans ((hiff w).mp hw).1)

end Records

/-! ## Comparing two mappings -/

/-- The entries of the second mapping whose key the first does not have. -/
def onlyIn (other mapping : TextMap α) : List (String × α) :=
  mapping.toList.filter fun entry => other[entry.1]?.isNone

/-- The keys both mappings have, with the two values. -/
def shared (current desired : TextMap α) : List (String × α × α) :=
  current.toList.filterMap fun entry =>
    desired[entry.1]?.map fun after => (entry.1, entry.2, after)

theorem mem_onlyIn {other mapping : TextMap α} {k : String} {v : α} :
    (k, v) ∈ onlyIn other mapping ↔ mapping[k]? = some v ∧ other[k]? = none := by
  simp [onlyIn]

theorem mem_shared {current desired : TextMap α} {k : String} {a b : α} :
    (k, a, b) ∈ shared current desired ↔
      current[k]? = some a ∧ desired[k]? = some b := by
  simp only [shared, List.mem_filterMap, Option.map_eq_some_iff,
    Prod.mk.injEq, Prod.exists]
  constructor
  · rintro ⟨j, v, hv, after, hafter, rfl, rfl, rfl⟩
    exact ⟨mem_toList.mp hv, hafter⟩
  · rintro ⟨ha, hb⟩
    exact ⟨k, a, mem_toList.mpr ha, b, hb, rfl, rfl, rfl⟩

/-- Added keys first, then removed ones, then shared ones, each in key order. -/
def compareKeyed (onAdded onRemoved : String → α → Except ε (List β))
    (onShared : String → α → α → Except ε (List β)) (current desired : TextMap α) :
    Except ε (List β) := do
  let added ← collectMap (fun e => onAdded e.1 e.2) (onlyIn current desired)
  let removed ← collectMap (fun e => onRemoved e.1 e.2) (onlyIn desired current)
  let changed ← collectMap (fun e => onShared e.1 e.2.1 e.2.2) (shared current desired)
  return added ++ removed ++ changed

variable {onAdded onRemoved : String → α → Except ε (List β)}
  {onShared : String → α → α → Except ε (List β)} {current desired : TextMap α}

theorem compareKeyed_eq_ok {out : List β} :
    compareKeyed onAdded onRemoved onShared current desired = .ok out ↔
      ∃ added removed changed,
        collectMap (fun e => onAdded e.1 e.2) (onlyIn current desired) = .ok added ∧
        collectMap (fun e => onRemoved e.1 e.2) (onlyIn desired current) = .ok removed ∧
        collectMap (fun e => onShared e.1 e.2.1 e.2.2) (shared current desired) =
          .ok changed ∧
        added ++ removed ++ changed = out := by
  simp only [compareKeyed, EventFold.bind_ok, pure, Except.pure, Except.ok.injEq]
  constructor
  · rintro ⟨added, ha, removed, hr, changed, hc, rfl⟩
    exact ⟨added, removed, changed, ha, hr, hc, rfl⟩
  · rintro ⟨added, removed, changed, ha, hr, hc, rfl⟩
    exact ⟨added, ha, removed, hr, changed, hc, rfl⟩

/-- **What a keyed comparison yields.** -/
theorem mem_compareKeyed {out : List β}
    (h : compareKeyed onAdded onRemoved onShared current desired = .ok out) {b : β} :
    b ∈ out ↔
      (∃ k v, desired[k]? = some v ∧ current[k]? = none ∧ ∃ bs,
        onAdded k v = .ok bs ∧ b ∈ bs) ∨
      (∃ k v, current[k]? = some v ∧ desired[k]? = none ∧
        ∃ bs, onRemoved k v = .ok bs ∧ b ∈ bs) ∨
      ∃ k v w, current[k]? = some v ∧ desired[k]? = some w ∧
        ∃ bs, onShared k v w = .ok bs ∧ b ∈ bs := by
  obtain ⟨added, removed, changed, ha, hr, hc, rfl⟩ := compareKeyed_eq_ok.mp h
  rw [List.mem_append, List.mem_append, Outcome.mem_collectMap ha,
    Outcome.mem_collectMap hr, Outcome.mem_collectMap hc, or_assoc]
  simp only [Prod.exists, mem_onlyIn, mem_shared, and_assoc]

/-- A keyed comparison succeeds when it does at every key. -/
theorem succeeds_compareKeyed :
    Succeeds (compareKeyed onAdded onRemoved onShared current desired) ↔
      (∀ k v, desired[k]? = some v → current[k]? = none → Succeeds (onAdded k v)) ∧
      (∀ k v, current[k]? = some v → desired[k]? = none → Succeeds (onRemoved k v)) ∧
      ∀ k v w, current[k]? = some v → desired[k]? = some w →
      Succeeds (onShared k v w) := by
  have hall : Succeeds (compareKeyed onAdded onRemoved onShared current desired) ↔
      Succeeds (collectMap (fun e => onAdded e.1 e.2) (onlyIn current desired)) ∧
      Succeeds (collectMap (fun e => onRemoved e.1 e.2) (onlyIn desired current)) ∧
      Succeeds (collectMap (fun e => onShared e.1 e.2.1 e.2.2)
        (shared current desired)) := by
    constructor
    · rintro ⟨out, hout⟩
      obtain ⟨added, removed, changed, ha, hr, hc, -⟩ := compareKeyed_eq_ok.mp hout
      exact ⟨⟨added, ha⟩, ⟨removed, hr⟩, ⟨changed, hc⟩⟩
    · rintro ⟨⟨added, ha⟩, ⟨removed, hr⟩, ⟨changed, hc⟩⟩
      exact ⟨_, compareKeyed_eq_ok.mpr ⟨added, removed, changed, ha, hr, hc, rfl⟩⟩
  rw [hall, Outcome.succeeds_collectMap, Outcome.succeeds_collectMap,
    Outcome.succeeds_collectMap]
  simp only [Prod.forall, mem_onlyIn, mem_shared, and_imp]

theorem nodup_keys_toList (t : TextMap α) : (t.toList.map (·.1)).Nodup := by
  rw [List.Nodup, List.pairwise_map]
  exact ExtTreeMap.distinct_keys_toList.imp fun h heq =>
    h (by rw [heq]; exact Std.ReflCmp.compare_self)

theorem nodup_keys_onlyIn (other mapping : TextMap α) :
    ((onlyIn other mapping).map (·.1)).Nodup :=
  (nodup_keys_toList mapping).sublist (List.filter_sublist.map _)

theorem nodup_keys_shared (current desired : TextMap α) :
    ((shared current desired).map (·.1)).Nodup := by
  refine (nodup_keys_toList current).sublist ?_
  rw [shared, List.map_filterMap]
  have hkey : (fun entry : String × α => (desired[entry.1]?.map fun after =>
      (entry.1, entry.2, after)).map (·.1)) =
      fun entry => if desired[entry.1]?.isSome then some entry.1 else none := by
    funext entry
    cases desired[entry.1]? <;> rfl
  rw [hkey]
  have hfilter : current.toList.filterMap (fun entry =>
      if desired[entry.1]?.isSome then some entry.1 else none) =
      (current.toList.filter fun entry => desired[entry.1]?.isSome).map (·.1) := by
    rw [← List.filterMap_eq_map, List.filterMap_filter]
    rfl
  rw [hfilter]
  exact List.filter_sublist.map _

/-- **A keyed comparison repeats no label**, when what it yields at a key has
distinct labels of that key. -/
theorem nodup_compareKeyed {γ : Type} {label : β → γ} (owner : γ → String)
    {out : List β}
    (h : compareKeyed onAdded onRemoved onShared current desired = .ok out)
    (hadded : ∀ k v bs, onAdded k v = .ok bs →
      (bs.map label).Nodup ∧ ∀ b ∈ bs, owner (label b) = k)
    (hremoved : ∀ k v bs, onRemoved k v = .ok bs →
      (bs.map label).Nodup ∧ ∀ b ∈ bs, owner (label b) = k)
    (hshared : ∀ k v w bs, onShared k v w = .ok bs →
      (bs.map label).Nodup ∧ ∀ b ∈ bs, owner (label b) = k) :
    (out.map label).Nodup := by
  obtain ⟨added, removed, changed, ha, hr, hc, rfl⟩ := compareKeyed_eq_ok.mp h
  have hka : ∀ b ∈ added, ∃ v, desired[owner (label b)]? = some v ∧
      current[owner (label b)]? = none := by
    intro b hb
    obtain ⟨⟨k, v⟩, hmem, bs, hbs, hb⟩ := (Outcome.mem_collectMap ha).mp hb
    rw [(hadded k v bs hbs).2 b hb]
    exact ⟨v, mem_onlyIn.mp hmem⟩
  have hkr : ∀ b ∈ removed, ∃ v, current[owner (label b)]? = some v ∧
      desired[owner (label b)]? = none := by
    intro b hb
    obtain ⟨⟨k, v⟩, hmem, bs, hbs, hb⟩ := (Outcome.mem_collectMap hr).mp hb
    rw [(hremoved k v bs hbs).2 b hb]
    exact ⟨v, mem_onlyIn.mp hmem⟩
  have hkc : ∀ b ∈ changed, ∃ v w, current[owner (label b)]? = some v ∧
      desired[owner (label b)]? = some w := by
    intro b hb
    obtain ⟨⟨k, v, w⟩, hmem, bs, hbs, hb⟩ := (Outcome.mem_collectMap hc).mp hb
    rw [(hshared k v w bs hbs).2 b hb]
    exact ⟨v, w, mem_shared.mp hmem⟩
  have hna := Outcome.nodup_collectMap ha (nodup_keys_onlyIn current desired)
    fun e _ bs hbs => hadded e.1 e.2 bs hbs
  have hnr := Outcome.nodup_collectMap hr (nodup_keys_onlyIn desired current)
    fun e _ bs hbs => hremoved e.1 e.2 bs hbs
  have hnc := Outcome.nodup_collectMap hc (nodup_keys_shared current desired)
    fun e _ bs hbs => hshared e.1 e.2.1 e.2.2 bs hbs
  simp only [List.map_append, List.nodup_append, List.mem_append, List.mem_map]
  refine ⟨⟨hna, hnr, ?_⟩, hnc, ?_⟩
  · rintro _ ⟨b, hb, rfl⟩ _ ⟨b', hb', rfl⟩ heq
    obtain ⟨v, -, hnone⟩ := hka b hb
    obtain ⟨w, hsome, -⟩ := hkr b' hb'
    rw [heq, hsome] at hnone
    cases hnone
  · rintro _ (⟨b, hb, rfl⟩ | ⟨b, hb, rfl⟩) _ ⟨b', hb', rfl⟩ heq
    · obtain ⟨v, -, hnone⟩ := hka b hb
      obtain ⟨w, _, hsome, -⟩ := hkc b' hb'
      rw [heq, hsome] at hnone
      cases hnone
    · obtain ⟨v, -, hnone⟩ := hkr b hb
      obtain ⟨_, w, -, hsome⟩ := hkc b' hb'
      rw [heq, hsome] at hnone
      cases hnone

end KeyedMap

end ControlPlaneKit.Library
