import ControlPlaneKit.Library.JsonText
import ControlPlaneKit.Library.PyJson

/-!
# JsonMeaning — the values a JSON text denotes

A text denotes a value when it has the value's entries, items and texts, and tokens
that convert to its numbers: an interoperable integer token spells the integer of a
float, any other token is only what the float is read from.  Whatever the hooks for
integers are, as long as they keep the interoperable ones, they build from the text
the value itself, but for the order of entries and floats that are integers.
-/

namespace ControlPlaneKit.Library.JsonText

open PyValue (wellKeyed wellKeyedItems wellKeyedEntries wellKeyed_dict_iff mem_of_lookup
  lookup_eq_some_of_mem wellKeyedEntries_iff)

/-- An integer every reader of JSON keeps. -/
def isInteroperable (n : Int) : Bool := n.natAbs ≤ 9007199254740991

mutual

/-- The text denotes the value. -/
def denotes (float : String → PyFloat) : PyValue → JsonSyntax → Bool
  | .none, .null => true
  | .bool b, .bool c => b == c
  | .int n, .integer token => isInteroperable n && intOfToken token == some n
  | .float x, .real token => float token == x
  | .float x, .integer token =>
      float token == x && (intOfToken token).any fun n =>
        !isInteroperable n || x.integral == some n
  | .str s, .text t => s == t
  | .list items, .array parts => denotesItems float items parts
  | .dict entries, .object pairs =>
      entries.length == pairs.length && denotesEntries float entries pairs
  | _, _ => false

def denotesItems (float : String → PyFloat) : List PyValue → List JsonSyntax → Bool
  | [], [] => true
  | item :: items, part :: parts =>
      denotes float item part && denotesItems float items parts
  | _, _ => false

def denotesEntries (float : String → PyFloat) :
    PyDict → List (String × JsonSyntax) → Bool
  | [], _ => true
  | (key, value) :: entries, pairs =>
      (match pairs.lookup key with
        | some part => denotes float value part
        | none => false) && denotesEntries float entries pairs

end

mutual

/-- The second value is the first, read back: entries in any order, a float perhaps as
the interoperable integer it is. -/
def reread : PyValue → PyValue → Bool
  | .none, .none => true
  | .bool b, .bool c => b == c
  | .int n, .int m => n == m
  | .float x, .float y => x == y
  | .float x, .int n => isInteroperable n && x.integral == some n
  | .str s, .str t => s == t
  | .list items, .list others => rereadItems items others
  | .dict entries, .dict others =>
      entries.length == others.length && rereadEntries entries others
  | _, _ => false

def rereadItems : List PyValue → List PyValue → Bool
  | [], [] => true
  | item :: items, other :: others => reread item other && rereadItems items others
  | _, _ => false

def rereadEntries : PyDict → PyDict → Bool
  | [], _ => true
  | (key, value) :: entries, others =>
      (match others.lookup key with
        | some other => reread value other
        | none => false) && rereadEntries entries others

end

mutual

/-- The value has a float of a kind somewhere. -/
def someFloat (kind : PyFloat → Bool) : PyValue → Bool
  | .float x => kind x
  | .list items => someFloatItems kind items
  | .tuple items => someFloatItems kind items
  | .dict entries => someFloatEntries kind entries
  | _ => false

def someFloatItems (kind : PyFloat → Bool) : List PyValue → Bool
  | [] => false
  | item :: items => someFloat kind item || someFloatItems kind items

def someFloatEntries (kind : PyFloat → Bool) : PyDict → Bool
  | [] => false
  | (_, value) :: entries => someFloat kind value || someFloatEntries kind entries

end

/-- The value has a float somewhere. -/
abbrev hasFloat (v : PyValue) : Bool := someFloat (fun _ => true) v

/-! ## What is read back of a scalar -/

theorem reread_none {w : PyValue} : reread .none w = true ↔ w = .none := by
  constructor
  · intro h
    cases w <;> simp [reread] at h
    rfl
  · rintro rfl
    rfl

theorem reread_bool {b : Bool} {w : PyValue} :
    reread (.bool b) w = true ↔ w = .bool b := by
  constructor
  · intro h
    cases w <;> simp [reread] at h
    rw [h]
  · rintro rfl
    simp [reread]

theorem reread_int {n : Int} {w : PyValue} : reread (.int n) w = true ↔ w = .int n := by
  constructor
  · intro h
    cases w <;> simp [reread] at h
    rw [h]
  · rintro rfl
    simp [reread]

theorem reread_str {s : String} {w : PyValue} :
    reread (.str s) w = true ↔ w = .str s := by
  constructor
  · intro h
    cases w <;> simp [reread] at h
    rw [h]
  · rintro rfl
    simp [reread]

theorem reread_float {x : PyFloat} {w : PyValue} : reread (.float x) w = true ↔
    w = .float x ∨ ∃ n, w = .int n ∧ isInteroperable n = true ∧
    x.integral = some n := by
  constructor
  · intro h
    cases w <;> simp [reread] at h
    · exact .inr ⟨_, rfl, h⟩
    · exact .inl (by rw [h])
  · rintro (rfl | ⟨n, rfl, h⟩)
    · simp [reread]
    · simp [reread, h]

theorem reread_list {items others : List PyValue} :
    reread (.list items) (.list others) = rereadItems items others := by
  rw [reread]

/-! ## Entries by their keys -/

theorem denotesEntries_iff {float : String → PyFloat} {entries : PyDict}
    {pairs : List (String × JsonSyntax)} : denotesEntries float entries pairs = true ↔
      ∀ entry ∈ entries, ∃ part, pairs.lookup entry.1 = some part ∧
        denotes float entry.2 part = true := by
  induction entries with
  | nil => simp [denotesEntries]
  | cons entry entries ih =>
      rw [denotesEntries, Bool.and_eq_true, ih, List.forall_mem_cons]
      cases pairs.lookup entry.1 <;> simp

theorem rereadEntries_iff {entries others : PyDict} :
    rereadEntries entries others = true ↔
    ∀ entry ∈ entries, ∃ other, others.lookup entry.1 = some other ∧
      reread entry.2 other = true := by
  induction entries with
  | nil => simp [rereadEntries]
  | cons entry entries ih =>
      rw [rereadEntries, Bool.and_eq_true, ih, List.forall_mem_cons]
      cases others.lookup entry.1 <;> simp

theorem someFloatItems_eq_false {kind : PyFloat → Bool} {items : List PyValue} :
    someFloatItems kind items = false ↔
      ∀ item ∈ items, someFloat kind item = false := by
  induction items with
  | nil => simp [someFloatItems]
  | cons item items ih => simp [someFloatItems, ih]

theorem someFloatEntries_eq_false {kind : PyFloat → Bool} {entries : PyDict} :
    someFloatEntries kind entries = false ↔
      ∀ entry ∈ entries, someFloat kind entry.2 = false := by
  induction entries with
  | nil => simp [someFloatEntries]
  | cons entry entries ih => simp [someFloatEntries, ih]

/-- As many pairs as distinct keys, each of which is found, have just these keys. -/
theorem keys_perm {α β : Type} {entries : List (String × α)} {pairs : List (String × β)}
    (hkeys : (entries.map (·.1)).Nodup) (hlength : entries.length = pairs.length)
    (hfound : ∀ entry ∈ entries, ∃ value, pairs.lookup entry.1 = some value) :
    (entries.map (·.1)).Perm (pairs.map (·.1)) := by
  have hsubset : entries.map (·.1) ⊆ pairs.map (·.1) := by
    intro key hkey
    obtain ⟨entry, hentry, rfl⟩ := List.mem_map.mp hkey
    obtain ⟨value, hvalue⟩ := hfound entry hentry
    exact List.mem_map.mpr ⟨_, mem_of_lookup hvalue, rfl⟩
  exact (List.subperm_of_subset hkeys hsubset).perm_of_length_le (by simp [hlength])

/-- A dictionary with a value for every key of another, and with distinct keys, is that
one read back when it has no other key, and its values are read back. -/
theorem reread_dict_iff {entries others : PyDict} (hentries : (entries.map (·.1)).Nodup)
    (hothers : (others.map (·.1)).Nodup)
    (hfound : ∀ entry ∈ entries, ∃ other, others.lookup entry.1 = some other) :
    reread (.dict entries) (.dict others) = true ↔
      (∀ other ∈ others, other.1 ∈ entries.map (·.1)) ∧
        ∀ entry ∈ entries, ∃ other, others.lookup entry.1 = some other ∧
          reread entry.2 other = true := by
  rw [reread, Bool.and_eq_true, beq_iff_eq, rereadEntries_iff]
  refine and_congr_left fun _ => ⟨fun hlength other hother => ?_, fun honly => ?_⟩
  · exact (keys_perm hentries hlength hfound).mem_iff.mpr (List.mem_map_of_mem hother)
  · have hin : others.map (·.1) ⊆ entries.map (·.1) := by
      intro key hkey
      obtain ⟨other, hother, rfl⟩ := List.mem_map.mp hkey
      exact honly other hother
    have hout : entries.map (·.1) ⊆ others.map (·.1) := by
      intro key hkey
      obtain ⟨entry, hentry, rfl⟩ := List.mem_map.mp hkey
      obtain ⟨other, hother⟩ := hfound entry hentry
      exact List.mem_map.mpr ⟨_, mem_of_lookup hother, rfl⟩
    have hless := (List.subperm_of_subset hothers hin).length_le
    have hmore := (List.subperm_of_subset hentries hout).length_le
    simp only [List.length_map] at hless hmore
    exact Nat.le_antisymm hmore hless

/-! ## Building what a text denotes -/

variable {float : String → PyFloat} {integer : String → Option PyValue}

/-- What an integer token says of a float. -/
theorem denotes_float_integer {x : PyFloat} {token : String} :
    denotes float (.float x) (.integer token) = true ↔ float token = x ∧
      ∃ n, intOfToken token = some n ∧
      (isInteroperable n = true → x.integral = some n) := by
  rw [denotes, Bool.and_eq_true, beq_iff_eq, Option.any_eq_true]
  simp only [Bool.or_eq_true, Bool.not_eq_true', beq_iff_eq]
  refine and_congr_right fun _ => exists_congr fun n => and_congr_right fun _ => ?_
  cases isInteroperable n <;> simp

/-- The hook keeps the interoperable integers. -/
def KeepsIntegers (integer : String → Option PyValue) : Prop :=
  ∀ token n, intOfToken token = some n → isInteroperable n = true →
    integer token = some (.int n)

/-- The hook makes floats of the other integers. -/
def MakesFloats (float : String → PyFloat) (integer : String → Option PyValue) : Prop :=
  ∀ token n, intOfToken token = some n → isInteroperable n = false →
    integer token = some (.float (float token))

/-- Pairs whose parts are built are built, in their order. -/
theorem builtEntries_of_built {pairs : List (String × JsonSyntax)}
    (h : ∀ pair ∈ pairs, ∃ value, built float integer pair.2 = some value) :
    ∃ entries, builtEntries float integer pairs = some entries ∧
      entries.map (·.1) = pairs.map (·.1) ∧
      ∀ key, entries.lookup key = (pairs.lookup key).bind (built float integer) := by
  induction pairs with
  | nil => exact ⟨[], by rw [builtEntries], rfl, fun key => rfl⟩
  | cons pair pairs ih =>
      obtain ⟨key, part⟩ := pair
      obtain ⟨value, hvalue⟩ := h (key, part) (List.mem_cons_self ..)
      obtain ⟨entries, hentries, hkeys, hlookup⟩ :=
        ih fun other hother => h other (List.mem_cons_of_mem _ hother)
      refine ⟨(key, value) :: entries, by simp [builtEntries, hvalue, hentries],
        by simp [hkeys], fun other => ?_⟩
      simp only [List.lookup_cons]
      cases other == key with
      | true => simpa using hvalue.symm
      | false => exact hlookup other

/-- An object is built when it has as many pairs as the value has entries, and each
entry's part is built. -/
theorem built_object {entries : PyDict} {pairs : List (String × JsonSyntax)}
    (hkeys : (entries.map (·.1)).Nodup) (hlength : entries.length = pairs.length)
    (h : ∀ entry ∈ entries, ∃ part value, pairs.lookup entry.1 = some part ∧
      built float integer part = some value ∧ reread entry.2 value = true) :
    ∃ value, built float integer (.object pairs) = some value ∧
      reread (.dict entries) value = true := by
  have hperm : (entries.map (·.1)).Perm (pairs.map (·.1)) :=
    keys_perm hkeys hlength fun entry hentry => by
      obtain ⟨part, value, hpart, -⟩ := h entry hentry
      exact ⟨part, hpart⟩
  have hnodup : (pairs.map (·.1)).Nodup := hperm.nodup_iff.mp hkeys
  have hbuilt : ∀ pair ∈ pairs, ∃ value, built float integer pair.2 = some value := by
    intro pair hpair
    obtain ⟨entry, hentry, hkey⟩ :=
      List.mem_map.mp (hperm.mem_iff.mpr (List.mem_map.mpr ⟨pair, hpair, rfl⟩))
    obtain ⟨part, value, hpart, hvalue, -⟩ := h entry hentry
    have hsame : part = pair.2 := by
      rw [hkey] at hpart
      rw [lookup_eq_some_of_mem hnodup hpair] at hpart
      exact (Option.some.inj hpart).symm
    exact ⟨value, hsame ▸ hvalue⟩
  obtain ⟨others, hothers, hotherKeys, hlookup⟩ := builtEntries_of_built hbuilt
  refine ⟨.dict others, by simp [built, hothers, hotherKeys, hnodup], ?_⟩
  rw [reread, Bool.and_eq_true, beq_iff_eq, rereadEntries_iff]
  refine ⟨?_, fun entry hentry => ?_⟩
  · have hsame := congrArg List.length hotherKeys
    simp only [List.length_map] at hsame
    rw [hlength, hsame]
  · obtain ⟨part, value, hpart, hvalue, hreread⟩ := h entry hentry
    exact ⟨value, by rw [hlookup, hpart]; exact hvalue, hreread⟩

mutual

/-- **What a text denotes is built from it**, and read back. -/
theorem built_of_denotes (hkeeps : KeepsIntegers integer) :
    ∀ (v : PyValue) (part : JsonSyntax),
    wellKeyed v = true → hasFloat v = false ∨ MakesFloats float integer →
      denotes float v part = true →
        ∃ w, built float integer part = some w ∧ reread v w = true
  | .none, part, _, _, h => by
      cases part <;> simp [denotes] at h
      exact ⟨.none, by rw [built], by simp [reread]⟩
  | .bool b, part, _, _, h => by
      cases part <;> simp [denotes] at h
      exact ⟨.bool b, by rw [built, h], by simp [reread]⟩
  | .int n, part, _, _, h => by
      cases part <;> simp [denotes] at h
      exact ⟨.int n, by rw [built, hkeeps _ _ h.2 h.1], by simp [reread]⟩
  | .float x, part, _, hfloat, h => by
      have hmakes : MakesFloats float integer :=
        hfloat.resolve_left (by simp [hasFloat, someFloat])
      cases part with
      | real token =>
          simp [denotes] at h
          exact ⟨.float x, by rw [built, h], by simp [reread]⟩
      | integer token =>
          obtain ⟨hx, n, htoken, hintegral⟩ := denotes_float_integer.mp h
          cases hsafe : isInteroperable n with
          | true =>
              exact ⟨.int n, by rw [built, hkeeps _ _ htoken hsafe],
                by simp [reread, hsafe, hintegral hsafe]⟩
          | false =>
              exact ⟨.float x, by rw [built, hmakes _ _ htoken hsafe, hx],
                by simp [reread]⟩
      | null | bool | text | array | object => simp [denotes] at h
  | .str s, part, _, _, h => by
      cases part <;> simp [denotes] at h
      exact ⟨.str s, by rw [built, h], by simp [reread]⟩
  | .list items, part, hkeyed, hfloat, h => by
      cases part <;> simp [denotes] at h
      obtain ⟨others, hothers, hreread⟩ := builtItems_of_denotes hkeeps items _ hkeyed
        (hfloat.imp_left fun hnone => by simpa [someFloat] using hnone) h
      exact ⟨.list others, by simp [built, hothers], by rw [reread, hreread]⟩
  | .dict entries, part, hkeyed, hfloat, h => by
      cases part <;> simp [denotes] at h
      obtain ⟨hlength, hentries⟩ := h
      obtain ⟨hkeys, hvalues⟩ := wellKeyed_dict_iff.mp hkeyed
      exact built_object hkeys hlength (builtEntries_of_denotes hkeeps entries _ hvalues
        (hfloat.imp_left fun hnone => by simpa [someFloat] using hnone) hentries)
  | .tuple _, part, _, _, h => by cases part <;> simp [denotes] at h
  | .object _ _, part, _, _, h => by cases part <;> simp [denotes] at h

theorem builtItems_of_denotes (hkeeps : KeepsIntegers integer) :
    ∀ (items : List PyValue) (parts : List JsonSyntax), wellKeyedItems items = true →
      someFloatItems (fun _ => true) items = false ∨ MakesFloats float integer →
        denotesItems float items parts = true →
          ∃ others, builtItems float integer parts = some others ∧
            rereadItems items others = true
  | [], parts, _, _, h => by
      cases parts <;> simp [denotesItems] at h
      exact ⟨[], by rw [builtItems], by rw [rereadItems]⟩
  | item :: items, parts, hkeyed, hfloat, h => by
      cases parts <;> simp [denotesItems] at h
      rw [wellKeyedItems, Bool.and_eq_true] at hkeyed
      obtain ⟨value, hvalue, hreread⟩ := built_of_denotes hkeeps item _ hkeyed.1
        (hfloat.imp_left fun hnone => by
          simp [someFloatItems] at hnone; exact hnone.1) h.1
      obtain ⟨others, hothers, hrest⟩ := builtItems_of_denotes hkeeps items _ hkeyed.2
        (hfloat.imp_left fun hnone => by
          simp [someFloatItems] at hnone; exact hnone.2) h.2
      exact ⟨value :: others, by simp [builtItems, hvalue, hothers],
        by rw [rereadItems, hreread, hrest]; rfl⟩

theorem builtEntries_of_denotes (hkeeps : KeepsIntegers integer) :
    ∀ (entries : PyDict) (pairs : List (String × JsonSyntax)),
      (∀ entry ∈ entries, wellKeyed entry.2 = true) →
      someFloatEntries (fun _ => true) entries = false ∨ MakesFloats float integer →
        denotesEntries float entries pairs = true →
          ∀ entry ∈ entries, ∃ part value, pairs.lookup entry.1 = some part ∧
            built float integer part = some value ∧ reread entry.2 value = true
  | [], _, _, _, _ => nofun
  | (key, value) :: entries, pairs, hkeyed, hfloat, h => by
      rw [denotesEntries, Bool.and_eq_true] at h
      intro entry hentry
      rcases List.mem_cons.mp hentry with rfl | hentry
      · cases hpart : pairs.lookup key with
        | none => simp [hpart] at h
        | some part =>
            simp only [hpart] at h
            obtain ⟨other, hother, hreread⟩ := built_of_denotes hkeeps value part
              (hkeyed _ (List.mem_cons_self ..))
              (hfloat.imp_left fun hnone => by
                simp [someFloatEntries] at hnone; exact hnone.1) h.1
            exact ⟨part, other, rfl, hother, hreread⟩
      · exact builtEntries_of_denotes hkeeps entries pairs
          (fun entry hentry => hkeyed entry (List.mem_cons_of_mem _ hentry))
          (hfloat.imp_left fun hnone => by
            simp [someFloatEntries] at hnone; simpa using hnone.2)
          h.2 entry hentry

end

/-! ## One text, one meaning -/

/-- Values that are read back as one value mean the same. -/
def SameMeaning (v w : PyValue) : Prop := ∃ u, reread v u = true ∧ reread w u = true

mutual

/-- **A text denotes one value**, up to the equality of numbers. -/
theorem pyEq_of_denotes : ∀ (v w : PyValue) (part : JsonSyntax), wellKeyed w = true →
    denotes float v part = true → denotes float w part = true → PyValue.pyEq v w = true
  | .none, w, part, _, hv, hw => by
      cases part <;> simp [denotes] at hv
      cases w <;> simp [denotes] at hw
      simp [PyValue.pyEq]
  | .bool b, w, part, _, hv, hw => by
      cases part <;> simp [denotes] at hv
      cases w <;> simp [denotes] at hw
      rw [hv, hw, PyValue.pyEq]
      exact PyValue.number_beq_self _
  | .int n, w, part, _, hv, hw => by
      cases part <;> simp [denotes] at hv
      cases w with
      | int m =>
          simp [denotes] at hw
          rw [hv.2, Option.some.injEq] at hw
          rw [hw.2, PyValue.pyEq]
          exact PyValue.number_beq_self _
      | float x =>
          obtain ⟨-, m, htoken, hintegral⟩ := denotes_float_integer.mp hw
          rw [hv.2, Option.some.injEq] at htoken
          subst htoken
          rw [PyValue.pyEq, PyValue.number, PyValue.number, hintegral hv.1]
          exact PyValue.number_beq_self (some (.inl n))
      | none | bool | str | list | tuple | dict | object => simp [denotes] at hw
  | .float x, w, part, _, hv, hw => by
      cases part with
      | real token =>
          cases w <;> simp [denotes] at hv hw
          rw [← hv, hw, PyValue.pyEq]
          exact PyValue.number_beq_self _
      | integer token =>
          obtain ⟨hx, n, htoken, hintegral⟩ := denotes_float_integer.mp hv
          cases w with
          | int m =>
              simp [denotes] at hw
              rw [htoken, Option.some.injEq] at hw
              obtain ⟨hsafe, rfl⟩ := hw
              rw [PyValue.pyEq, PyValue.number, PyValue.number, hintegral hsafe]
              exact PyValue.number_beq_self (some (.inl n))
          | float y =>
              obtain ⟨hy, -⟩ := denotes_float_integer.mp hw
              rw [← hx, hy, PyValue.pyEq]
              exact PyValue.number_beq_self _
          | none | bool | str | list | tuple | dict | object => simp [denotes] at hw
      | null | bool | text | array | object => simp [denotes] at hv
  | .str s, w, part, _, hv, hw => by
      cases part <;> simp [denotes] at hv
      cases w <;> simp [denotes] at hw
      rw [hv, hw]
      simp [PyValue.pyEq]
  | .list items, w, part, hkeyed, hv, hw => by
      cases part <;> simp [denotes] at hv
      cases w <;> simp [denotes] at hw
      rw [PyValue.pyEq]
      exact pyEqItems_of_denotes items _ _ hkeyed hv hw
  | .dict entries, w, part, hkeyed, hv, hw => by
      cases part <;> simp [denotes] at hv
      cases w <;> simp [denotes] at hw
      rename_i pairs others
      obtain ⟨hkeys, hvalues⟩ := wellKeyed_dict_iff.mp hkeyed
      rw [PyValue.pyEq, Bool.and_eq_true, beq_iff_eq]
      have hothers := denotesEntries_iff.mp hw.2
      refine ⟨hv.1.trans hw.1.symm, pyEqEntries_of_denotes entries others pairs hkeys
        hvalues hv.2 (fun key part hpart => ?_)⟩
      have hperm := keys_perm hkeys hw.1 fun entry hentry => by
        obtain ⟨part, hpart, -⟩ := hothers entry hentry
        exact ⟨part, hpart⟩
      obtain ⟨other, hother, hkey⟩ := List.mem_map.mp
        (hperm.mem_iff.mpr (List.mem_map.mpr ⟨_, mem_of_lookup hpart, rfl⟩))
      obtain ⟨part', hpart', hdenotes⟩ := hothers other hother
      have hkey : other.1 = key := hkey
      rw [hkey, hpart, Option.some.injEq] at hpart'
      exact ⟨other.2, by rw [← hkey]; exact hother, hpart' ▸ hdenotes⟩
  | .tuple _, _, part, _, hv, _ => by cases part <;> simp [denotes] at hv
  | .object _ _, _, part, _, hv, _ => by cases part <;> simp [denotes] at hv

theorem pyEqItems_of_denotes :
    ∀ (items others : List PyValue) (parts : List JsonSyntax),
    wellKeyedItems others = true → denotesItems float items parts = true →
      denotesItems float others parts = true → PyValue.pyEqItems items others = true
  | [], others, parts, _, hv, hw => by
      cases parts <;> simp [denotesItems] at hv
      cases others <;> simp [denotesItems] at hw
      simp [PyValue.pyEqItems]
  | item :: items, others, parts, hkeyed, hv, hw => by
      cases parts <;> simp [denotesItems] at hv
      cases others <;> simp [denotesItems] at hw
      rw [wellKeyedItems, Bool.and_eq_true] at hkeyed
      rw [PyValue.pyEqItems, pyEq_of_denotes item _ _ hkeyed.1 hv.1 hw.1,
        pyEqItems_of_denotes items _ _ hkeyed.2 hv.2 hw.2]
      rfl

theorem pyEqEntries_of_denotes :
    ∀ (entries others : PyDict) (pairs : List (String × JsonSyntax)),
    (others.map (·.1)).Nodup → (∀ entry ∈ others, wellKeyed entry.2 = true) →
      denotesEntries float entries pairs = true →
      (∀ key part, pairs.lookup key = some part → ∃ other, (key, other) ∈ others ∧
        denotes float other part = true) → PyValue.pyEqEntries entries others = true
  | [], _, _, _, _, _, _ => by simp [PyValue.pyEqEntries]
  | (key, value) :: entries, others, pairs, hkeys, hkeyed, hv, hw => by
      rw [denotesEntries, Bool.and_eq_true] at hv
      cases hpart : pairs.lookup key with
      | none => simp [hpart] at hv
      | some part =>
          simp only [hpart] at hv
          obtain ⟨other, hother, hdenotes⟩ := hw key part hpart
          rw [PyValue.pyEqEntries, lookup_eq_some_of_mem hkeys hother, Bool.and_eq_true]
          exact ⟨pyEq_of_denotes value other part (hkeyed _ hother) hv.1 hdenotes,
            pyEqEntries_of_denotes entries others pairs hkeys hkeyed hv.2 hw⟩

end

end ControlPlaneKit.Library.JsonText
