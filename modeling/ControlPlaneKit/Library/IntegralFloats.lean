import ControlPlaneKit.Library.CanonicalReading

/-!
# IntegralFloats — canonical JSON of floats that are integers

Canonical JSON writes a number that is an interoperable integer by its digits, whether
it is an integer or a float.  With integers in the place of such floats, the bytes of a
value denote it, up to the sign of zero, and do not depend on the order of entries or
on which of its integers are floats.
-/

namespace ControlPlaneKit.Library.IntegralFloats

open ControlPlaneKit.Library.CanonicalReading (parse_canonicalBytes)
open ControlPlaneKit.Library.CanonicalText
  (FollowsRfc8785 canonicalBytes canonicalEntries canonicalEntries_eq
  canonicalItems canonicalText encodable encodableEntries encodableEntries_iff
  encodableItems
  keyUnits units)
open ControlPlaneKit.Library.JsonText (denotes denotesEntries denotesItems intOfToken
  isInteroperable keys_perm parse reread rereadEntries_iff rereadItems
    reread_bool reread_float
  reread_int reread_list reread_none reread_str someFloat someFloatEntries
  someFloatItems)
open ControlPlaneKit.Library.Ordering (insertionSort_eq_of_perm)
open ControlPlaneKit.Library.PyValue
  (jsonEntries jsonItems jsonValue lookup_eq_some_of_mem
  mem_of_lookup wellKeyed wellKeyedEntries wellKeyedItems)

/-! ## Floats that are integers -/

mutual

/-- The value with the interoperable integers for the floats that are integers. -/
def integersOf : PyValue → PyValue
  | .float x => ((x.integral.filter isInteroperable).map PyValue.int).getD (.float x)
  | .list items => .list (integersOfItems items)
  | .dict entries => .dict (integersOfEntries entries)
  | v => v

def integersOfItems : List PyValue → List PyValue
  | [] => []
  | v :: vs => integersOf v :: integersOfItems vs

def integersOfEntries : PyDict → PyDict
  | [] => []
  | (key, v) :: es => (key, integersOf v) :: integersOfEntries es

end

theorem integersOfItems_eq (items : List PyValue) :
    integersOfItems items = items.map integersOf := by
  induction items with
  | nil => rfl
  | cons v vs ih => rw [integersOfItems, ih, List.map_cons]

theorem integersOfEntries_eq (entries : PyDict) :
    integersOfEntries entries = entries.map fun entry =>
      (entry.1, integersOf entry.2) := by
  induction entries with
  | nil => rfl
  | cons entry rest ih => rw [integersOfEntries, ih, List.map_cons]

/-- A float stays one unless it is an interoperable integer. -/
theorem integersOf_float (x : PyFloat) : integersOf (.float x) = .float x ∨
    ∃ n, integersOf (.float x) = .int n ∧ x.integral = some n ∧
    isInteroperable n = true := by
  rw [integersOf]
  cases hfilter : x.integral.filter isInteroperable with
  | none => exact .inl rfl
  | some n =>
      obtain ⟨hn, hsafe⟩ := Option.filter_eq_some_iff.mp hfilter
      exact .inr ⟨n, rfl, hn, hsafe⟩

mutual

theorem jsonValue_integersOf : ∀ v : PyValue, jsonValue v = v →
    jsonValue (integersOf v) = integersOf v
  | .none, _ => rfl
  | .bool _, _ => rfl
  | .int _, _ => rfl
  | .str _, _ => rfl
  | .object _ _, _ => rfl
  | .tuple _, h => by simp [jsonValue] at h
  | .float x, _ => by
      rcases integersOf_float x with h | ⟨n, h, -⟩ <;> rw [h] <;> rfl
  | .list items, h => by
      rw [jsonValue, PyValue.list.injEq] at h
      rw [integersOf, jsonValue, jsonItems_integersOf items h]
  | .dict entries, h => by
      rw [jsonValue, PyValue.dict.injEq] at h
      rw [integersOf, jsonValue, jsonEntries_integersOf entries h]

theorem jsonItems_integersOf : ∀ items : List PyValue, jsonItems items = items →
    jsonItems (integersOfItems items) = integersOfItems items
  | [], _ => rfl
  | v :: vs, h => by
      rw [jsonItems, List.cons.injEq] at h
      rw [integersOfItems, jsonItems, jsonValue_integersOf v h.1,
        jsonItems_integersOf vs h.2]

theorem jsonEntries_integersOf : ∀ entries : PyDict, jsonEntries entries = entries →
    jsonEntries (integersOfEntries entries) = integersOfEntries entries
  | [], _ => rfl
  | (key, v) :: es, h => by
      rw [jsonEntries, List.cons.injEq, Prod.mk.injEq] at h
      rw [integersOfEntries, jsonEntries, jsonValue_integersOf v h.1.2,
        jsonEntries_integersOf es h.2]

end

section Floats

variable {float : String → PyFloat} {kind : PyFloat → Bool}

/-- A token of an interoperable integer is the one float that is equal to it, but for
those of a kind. -/
def SpellsIntegers (float : String → PyFloat) (kind : PyFloat → Bool) : Prop :=
  ∀ token n x, intOfToken token = some n → isInteroperable n = true →
    x.integral = some n →
    kind x = false → float token = x

mutual

/-- **What denotes the integers denotes the floats** that are equal to them. -/
theorem denotes_of_integersOf (hfloat : SpellsIntegers float kind) : ∀ (v : PyValue)
    (part : JsonSyntax), someFloat kind v = false →
    denotes float (integersOf v) part = true →
      denotes float v part = true
  | .none, _, _, h => h
  | .bool _, _, _, h => h
  | .int _, _, _, h => h
  | .str _, _, _, h => h
  | .tuple _, _, _, h => h
  | .object _ _, _, _, h => h
  | .float x, part, hkind, h => by
      rcases integersOf_float x with heq | ⟨n, heq, hn, hsafe⟩
      · rwa [heq] at h
      · rw [heq] at h
        cases part <;> simp only [denotes, Bool.false_eq_true] at h
        rename_i token
        rw [Bool.and_eq_true, beq_iff_eq] at h
        rw [someFloat] at hkind
        rw [denotes, hfloat token n x h.2 hsafe hn hkind, h.2, hn]
        simp
  | .list items, part, hkind, h => by
      rw [integersOf] at h
      rw [someFloat] at hkind
      cases part <;> simp only [denotes, Bool.false_eq_true] at h ⊢
      exact denotesItems_of_integersOf hfloat items _ hkind h
  | .dict entries, part, hkind, h => by
      rw [integersOf] at h
      rw [someFloat] at hkind
      cases part <;> simp only [denotes, Bool.false_eq_true] at h ⊢
      rw [Bool.and_eq_true, integersOfEntries_eq,
        List.length_map, ← integersOfEntries_eq] at h
      rw [h.1, denotesEntries_of_integersOf hfloat entries _ hkind h.2, Bool.true_and]

theorem denotesItems_of_integersOf (hfloat : SpellsIntegers float kind) :
    ∀ (items : List PyValue) (parts : List JsonSyntax),
      someFloatItems kind items = false →
      denotesItems float (integersOfItems items) parts = true →
      denotesItems float items parts = true
  | [], _, _, h => h
  | v :: vs, parts, hkind, h => by
      rw [integersOfItems] at h
      rw [someFloatItems, Bool.or_eq_false_iff] at hkind
      cases parts <;> simp only [denotesItems, Bool.false_eq_true] at h ⊢
      rw [Bool.and_eq_true] at h ⊢
      exact ⟨denotes_of_integersOf hfloat v _ hkind.1 h.1,
        denotesItems_of_integersOf hfloat vs _ hkind.2 h.2⟩

theorem denotesEntries_of_integersOf (hfloat : SpellsIntegers float kind) :
    ∀ (entries : PyDict) (pairs : List (String × JsonSyntax)),
      someFloatEntries kind entries = false →
        denotesEntries float (integersOfEntries entries) pairs = true →
          denotesEntries float entries pairs = true
  | [], _, _, h => h
  | (key, v) :: es, pairs, hkind, h => by
      rw [someFloatEntries, Bool.or_eq_false_iff] at hkind
      rw [integersOfEntries, denotesEntries, Bool.and_eq_true] at h
      rw [denotesEntries, Bool.and_eq_true]
      refine ⟨?_, denotesEntries_of_integersOf hfloat es pairs hkind.2 h.2⟩
      cases hlookup : pairs.lookup key with
      | none => simp [hlookup] at h
      | some part =>
          rw [hlookup] at h
          exact denotes_of_integersOf hfloat v part hkind.1 h.1

end

end Floats

/-! ## Keys in UTF-16 -/

theorem units_ne_nil (c : Char) : units c ≠ [] := by
  rw [units]
  split_ifs <;> exact List.cons_ne_nil _ _

theorem flatMap_units_injective : ∀ cs ds : List Char,
    cs.flatMap units = ds.flatMap units → cs = ds
  | [], [], _ => rfl
  | [], d :: ds, h => by
      have hnil := (List.append_eq_nil_iff.mp h.symm).1
      exact absurd hnil (units_ne_nil d)
  | c :: cs, [], h => by
      have hnil := (List.append_eq_nil_iff.mp h).1
      exact absurd hnil (units_ne_nil c)
  | c :: cs, d :: ds, h => by
      have hc : c.toNat < 0xd800 ∨ 0xdfff < c.toNat ∧ c.toNat < 0x110000 := c.valid
      have hd : d.toNat < 0xd800 ∨ 0xdfff < d.toNat ∧ d.toNat < 0x110000 := d.valid
      have hsplit : c.toNat = d.toNat ∧ cs.flatMap units = ds.flatMap units := by
        simp only [List.flatMap_cons, units] at h
        split_ifs at h <;>
          simp only [List.cons_append, List.nil_append, List.cons.injEq] at h
        · exact h
        · exact absurd h.1 (by omega)
        · exact absurd h.1 (by omega)
        · exact ⟨by omega, h.2.2⟩
      rw [Char.toNat_inj.mp hsplit.1, flatMap_units_injective cs ds hsplit.2]

/-- **Keys of the same units are the same.** -/
theorem keyUnits_injective : Function.Injective keyUnits := fun _ _ h =>
  String.toList_inj.mp (flatMap_units_injective _ _ h)

/-! ## Values that are read back -/

/-- Two values are written alike: both or neither have a canonical text, and the
same. -/
def WrittenAlike (v w : PyValue) : Prop :=
  encodable v = encodable w ∧ canonicalText v = canonicalText w

/-- Entries with the same keys and values that are written alike are written alike, in
whatever order. -/
theorem writtenAlike_dict {entries others : PyDict} (hkeys : (entries.map (·.1)).Nodup)
    (hperm : (entries.map (·.1)).Perm (others.map (·.1)))
    (hvalues : ∀ entry ∈ entries, ∃ w, others.lookup entry.1 = some w ∧
      WrittenAlike entry.2 w) :
    WrittenAlike (.dict entries) (.dict others) := by
  have hothers : (others.map (·.1)).Nodup := hperm.nodup_iff.mp hkeys
  -- the others, in the order of the entries
  have hordered : others.Perm (entries.map fun entry =>
      (entry.1, (others.lookup entry.1).getD .none)) := by
    have hnodup : (entries.map fun entry =>
        (entry.1, (others.lookup entry.1).getD PyValue.none)).Nodup :=
      List.Nodup.of_map (·.1) (by rw [List.map_map]; exact hkeys)
    refine (List.perm_ext_iff_of_nodup (List.Nodup.of_map _ hothers) hnodup).mpr ?_
    rintro ⟨key, w⟩
    rw [List.mem_map]
    constructor
    · intro hmem
      obtain ⟨entry, hentry, rfl⟩ :=
        List.mem_map.mp (hperm.mem_iff.mpr (List.mem_map_of_mem hmem))
      exact ⟨entry, hentry,
        by rw [lookup_eq_some_of_mem hothers hmem, Option.getD_some]⟩
    · rintro ⟨entry, hentry, heq⟩
      obtain ⟨found, hfound, -⟩ := hvalues entry hentry
      rw [hfound, Option.getD_some] at heq
      exact heq ▸ mem_of_lookup hfound
  have htexts : (canonicalEntries others).Perm (canonicalEntries entries) := by
    rw [canonicalEntries_eq, canonicalEntries_eq]
    refine (hordered.map _).trans (.of_eq ?_)
    rw [List.map_map]
    refine List.map_congr_left fun entry hentry => ?_
    obtain ⟨found, hfound, -, htext⟩ := hvalues entry hentry
    rw [Function.comp_apply, hfound, Option.getD_some, htext]
  refine ⟨?_, ?_⟩
  · rw [encodable, encodable, decide_eq_true hkeys, decide_eq_true hothers,
      Bool.true_and, Bool.true_and, Bool.eq_iff_iff, encodableEntries_iff,
      encodableEntries_iff]
    constructor
    · intro h other hother
      obtain ⟨entry, hentry, heq⟩ := List.mem_map.mp (hordered.mem_iff.mp hother)
      obtain ⟨found, hfound, hsame, -⟩ := hvalues entry hentry
      rw [hfound, Option.getD_some] at heq
      rw [← heq, ← hsame]
      exact h entry hentry
    · intro h entry hentry
      obtain ⟨found, hfound, hsame, -⟩ := hvalues entry hentry
      rw [hsame]
      exact h _ (mem_of_lookup hfound)
  · have hkeyed :
        ((canonicalEntries others).map fun entry => keyUnits entry.1).Nodup := by
      have hnodup := hothers.map keyUnits_injective
      rw [canonicalEntries_eq, List.map_map]
      rw [List.map_map] at hnodup
      exact hnodup
    rw [canonicalText, canonicalText, insertionSort_eq_of_perm htexts hkeyed]

mutual

/-- **What is read back is written alike**, once the floats that are integers are. -/
theorem writtenAlike_of_reread :
    ∀ v w : PyValue, wellKeyed v = true → reread v w = true →
    WrittenAlike (integersOf v) (integersOf w)
  | .none, w, _, h => by
      rw [reread_none.mp h]
      exact ⟨rfl, rfl⟩
  | .bool b, w, _, h => by
      rw [reread_bool.mp h]
      exact ⟨rfl, rfl⟩
  | .int n, w, _, h => by
      rw [reread_int.mp h]
      exact ⟨rfl, rfl⟩
  | .str s, w, _, h => by
      rw [reread_str.mp h]
      exact ⟨rfl, rfl⟩
  | .float x, w, _, h => by
      rcases reread_float.mp h with rfl | ⟨n, rfl, hsafe, hn⟩
      · exact ⟨rfl, rfl⟩
      · have hfilter : x.integral.filter isInteroperable = some n :=
          Option.filter_eq_some_iff.mpr ⟨hn, hsafe⟩
        rw [integersOf, hfilter]
        exact ⟨rfl, rfl⟩
  | .list items, w, hv, h => by
      rw [wellKeyed] at hv
      cases w with
      | list others =>
          rw [reread_list] at h
          obtain ⟨hsame, htexts⟩ := writtenAlike_of_rereadItems items others hv h
          rw [integersOf, integersOf]
          refine ⟨by rw [encodable, encodable, hsame], ?_⟩
          rw [canonicalText, canonicalText, htexts]
      | _ => simp [reread] at h
  | .tuple _, w, _, h => by cases w <;> simp [reread] at h
  | .object _ _, w, _, h => by cases w <;> simp [reread] at h
  | .dict entries, w, hv, h => by
      rw [wellKeyed, Bool.and_eq_true, decide_eq_true_eq] at hv
      cases w with
      | dict others =>
          have hvalues := writtenAlike_of_rereadEntries entries hv.2
          rw [reread, Bool.and_eq_true, beq_iff_eq, rereadEntries_iff] at h
          obtain ⟨hlength, hfound⟩ := h
          have hperm := keys_perm hv.1 hlength fun entry hentry =>
            (hfound entry hentry).imp fun _ hother => hother.1
          have hothers : (others.map (·.1)).Nodup := hperm.nodup_iff.mp hv.1
          have hkeys : ∀ dictionary : PyDict,
              (integersOfEntries dictionary).map (·.1) = dictionary.map (·.1) := by
            intro dictionary
            rw [integersOfEntries_eq, List.map_map]
            rfl
          rw [integersOf, integersOf]
          refine writtenAlike_dict (by rw [hkeys]; exact hv.1)
            (by rw [hkeys, hkeys]; exact hperm) ?_
          intro entry hentry
          rw [integersOfEntries_eq] at hentry
          obtain ⟨original, horiginal, rfl⟩ := List.mem_map.mp hentry
          obtain ⟨found, hlookup, hreread⟩ := hfound original horiginal
          refine ⟨integersOf found, ?_, hvalues original horiginal found hreread⟩
          refine lookup_eq_some_of_mem (by rw [hkeys]; exact hothers) ?_
          rw [integersOfEntries_eq]
          exact List.mem_map.mpr ⟨_, mem_of_lookup hlookup, rfl⟩
      | _ => simp [reread] at h

theorem writtenAlike_of_rereadItems : ∀ items others : List PyValue,
    wellKeyedItems items = true → rereadItems items others = true →
      encodableItems (integersOfItems items) = encodableItems (integersOfItems others) ∧
        canonicalItems (integersOfItems items) = canonicalItems (integersOfItems others)
  | [], others, _, h => by
      cases others with
      | nil => exact ⟨rfl, rfl⟩
      | cons other rest => simp [rereadItems] at h
  | v :: vs, others, hv, h => by
      cases others with
      | nil => simp [rereadItems] at h
      | cons other rest =>
          rw [rereadItems, Bool.and_eq_true] at h
          rw [wellKeyedItems, Bool.and_eq_true] at hv
          obtain ⟨hsame, htext⟩ := writtenAlike_of_reread v other hv.1 h.1
          obtain ⟨hrest, htexts⟩ := writtenAlike_of_rereadItems vs rest hv.2 h.2
          rw [integersOfItems, integersOfItems]
          exact ⟨by rw [encodableItems, encodableItems, hsame, hrest],
            by rw [canonicalItems, canonicalItems, htext, htexts]⟩

theorem writtenAlike_of_rereadEntries :
    ∀ entries : PyDict, wellKeyedEntries entries = true →
    ∀ entry ∈ entries, ∀ w, reread entry.2 w = true →
      WrittenAlike (integersOf entry.2) (integersOf w)
  | [], _ => fun _ hentry => absurd hentry List.not_mem_nil
  | (key, v) :: es, hv => by
      rw [wellKeyedEntries, Bool.and_eq_true] at hv
      intro entry hentry w h
      rcases List.mem_cons.mp hentry with heq | hentry
      · rw [heq] at h ⊢
        exact writtenAlike_of_reread v w hv.1 h
      · exact writtenAlike_of_rereadEntries es hv.2 entry hentry w h

end

/-! ## The encoder -/

/-- `rfc8785.dumps(value)` of a value whose floats are interoperable integers. -/
def integralBytes (v : PyValue) : Option (List UInt8) := canonicalBytes (integersOf v)

mutual

/-- A value without floats is left as it is. -/
theorem integersOf_of_encodable : ∀ v : PyValue, encodable v = true → integersOf v = v
  | .none, _ => rfl
  | .bool _, _ => rfl
  | .int _, _ => rfl
  | .str _, _ => rfl
  | .object _ _, _ => rfl
  | .tuple _, _ => rfl
  | .float _, h => by simp [encodable] at h
  | .list items, h => by
      rw [encodable] at h
      rw [integersOf, integersOfItems_of_encodable items h]
  | .dict entries, h => by
      rw [encodable, Bool.and_eq_true] at h
      rw [integersOf, integersOfEntries_of_encodable entries h.2]

theorem integersOfItems_of_encodable :
    ∀ items : List PyValue, encodableItems items = true →
    integersOfItems items = items
  | [], _ => rfl
  | v :: vs, h => by
      rw [encodableItems, Bool.and_eq_true] at h
      rw [integersOfItems, integersOf_of_encodable v h.1,
        integersOfItems_of_encodable vs h.2]

theorem integersOfEntries_of_encodable :
    ∀ entries : PyDict, encodableEntries entries = true →
    integersOfEntries entries = entries
  | [], _ => rfl
  | (key, v) :: es, h => by
      rw [encodableEntries, Bool.and_eq_true] at h
      rw [integersOfEntries, integersOf_of_encodable v h.1,
        integersOfEntries_of_encodable es h.2]

end

theorem integralBytes_follows : FollowsRfc8785 integralBytes := fun v h => by
  rw [integralBytes, integersOf_of_encodable v h]

/-- A document has an opening brace. -/
theorem integralBytes_ne_nil {entries : PyDict} {encoded : List UInt8}
    (h : integralBytes (.dict entries) = some encoded) : encoded ≠ [] := by
  rw [integralBytes, integersOf, canonicalBytes] at h
  split at h
  · cases h
    rw [canonicalText, AsciiJson.bracketed, Text.utf8, List.flatMap_cons,
      List.map_append]
    exact List.append_ne_nil_of_left_ne_nil (List.cons_ne_nil _ _) _
  · cases h

/-- **Bytes do not depend on how a value is read back.** -/
theorem integralBytes_of_reread {v w : PyValue} (hv : wellKeyed v = true)
    (h : reread v w = true) : integralBytes v = integralBytes w := by
  obtain ⟨hsame, htext⟩ := writtenAlike_of_reread v w hv h
  rw [integralBytes, integralBytes, canonicalBytes, canonicalBytes, hsame, htext]

/-- **Bytes are read as a part that denotes the value.** -/
theorem parse_integralBytes {float : String → PyFloat} {kind : PyFloat → Bool}
    (hfloat : SpellsIntegers float kind) {v : PyValue} {encoded : List UInt8}
    (hjson : jsonValue v = v) (hkind : someFloat kind v = false)
    (h : integralBytes v = some encoded) :
    ∃ part, parse encoded = some part ∧ denotes float v part = true := by
  obtain ⟨part, hpart, hdenotes⟩ :=
    parse_canonicalBytes float (jsonValue_integersOf v hjson) h
  exact ⟨part, hpart, denotes_of_integersOf hfloat v part hkind hdenotes⟩

end ControlPlaneKit.Library.IntegralFloats
