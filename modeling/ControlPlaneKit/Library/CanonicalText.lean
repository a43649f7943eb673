import ControlPlaneKit.Library.AsciiJson
import ControlPlaneKit.Library.JsonMeaning
import Mathlib.Algebra.Group.Int.Defs
import Mathlib.Data.List.Sort

/-!
# CanonicalText — canonical JSON, and how wide it is

RFC 8785 for values without floats: no blanks, keys in the order of their UTF-16 units,
and only quotes, backslashes and control characters escaped.  The width of an encoding
adds up from its parts, whatever the order of the keys.
-/

namespace ControlPlaneKit.Library.CanonicalText

open ControlPlaneKit.Library.AsciiJson (bracketed intText_ascii length_utf8_of_ascii)
open ControlPlaneKit.Library.JsonText
  (isInteroperable keys_perm reread rereadEntries_iff
  rereadItems reread_bool reread_int reread_list reread_none reread_str)
open ControlPlaneKit.Library.PyValue (hex4 intText lookup_eq_some_of_mem)

/-! ## The encoding -/

/-- One character of a text. -/
def escape (c : Char) : List Char :=
  let n := c.toNat
  if c = '"' then ['\\', '"']
  else if c = '\\' then ['\\', '\\']
  else if n = 8 then ['\\', 'b']
  else if n = 9 then ['\\', 't']
  else if n = 10 then ['\\', 'n']
  else if n = 12 then ['\\', 'f']
  else if n = 13 then ['\\', 'r']
  else if n < 32 then '\\' :: 'u' :: hex4 n
  else [c]

def quoted (s : String) : List Char := '"' :: s.toList.flatMap escape ++ ['"']

/-- A character in UTF-16. -/
def units (c : Char) : List Nat :=
  let n := c.toNat
  if n < 0x10000 then [n]
  else [0xd800 + (n - 0x10000) / 1024, 0xdc00 + (n - 0x10000) % 1024]

/-- What a key is sorted by. -/
def keyUnits (key : String) : List Nat := key.toList.flatMap units

def renderEntry (entry : String × List Char) : List Char :=
  quoted entry.1 ++ ':' :: entry.2

mutual

/-- The canonical text of a value; a float and an opaque object have none here. -/
def canonicalText : PyValue → List Char
  | .none => "null".toList
  | .bool b => if b then "true".toList else "false".toList
  | .int n => intText n
  | .float _ => []
  | .str s => quoted s
  | .list items => bracketed '[' ']' (canonicalItems items)
  | .tuple items => bracketed '[' ']' (canonicalItems items)
  | .dict entries => bracketed '\x7b' '\x7d' (((canonicalEntries entries).insertionSort
      fun a b => keyUnits a.1 ≤ keyUnits b.1).map renderEntry)
  | .object _ _ => []

def canonicalItems : List PyValue → List (List Char)
  | [] => []
  | v :: vs => canonicalText v :: canonicalItems vs

def canonicalEntries : PyDict → List (String × List Char)
  | [] => []
  | (key, v) :: es => (key, canonicalText v) :: canonicalEntries es

end

mutual

/-- No float, no opaque object and no large integer anywhere inside, and every key
once. -/
def encodable : PyValue → Bool
  | .none => true
  | .bool _ => true
  | .int n => isInteroperable n
  | .float _ => false
  | .str _ => true
  | .list items => encodableItems items
  | .tuple items => encodableItems items
  | .dict entries => decide (entries.map (·.1)).Nodup && encodableEntries entries
  | .object _ _ => false

def encodableItems : List PyValue → Bool
  | [] => true
  | v :: vs => encodable v && encodableItems vs

def encodableEntries : PyDict → Bool
  | [] => true
  | (_, v) :: es => encodable v && encodableEntries es

end

/-- `rfc8785.dumps(value)` of a value without floats. -/
def canonicalBytes (v : PyValue) : Option (List UInt8) :=
  if encodable v then some ((Text.utf8 (canonicalText v)).map UInt8.ofNat) else none

theorem encodableItems_iff {items : List PyValue} :
    encodableItems items = true ↔ ∀ v ∈ items, encodable v = true := by
  induction items with
  | nil => simp [encodableItems]
  | cons v vs ih => simp [encodableItems, ih]

theorem encodableEntries_iff {entries : PyDict} :
    encodableEntries entries = true ↔ ∀ entry ∈ entries, encodable entry.2 = true := by
  induction entries with
  | nil => simp [encodableEntries]
  | cons entry rest ih => simp [encodableEntries, ih]

theorem encodable_dict {entries : PyDict} (hkeys : (entries.map (·.1)).Nodup)
    (hvalues : ∀ entry ∈ entries, encodable entry.2 = true) :
    encodable (.dict entries) = true := by
  rw [encodable, decide_eq_true hkeys, Bool.true_and, encodableEntries_iff]
  exact hvalues

theorem encodable_list {items : List PyValue}
    (h : ∀ item ∈ items, encodable item = true) : encodable (.list items) = true := by
  rw [encodable, encodableItems_iff]
  exact h

/-! ## Widths -/

/-- How many bytes a text takes. -/
def bytesOf (text : List Char) : Nat := (Text.utf8 text).length

@[simp] theorem bytesOf_append (first second : List Char) :
    bytesOf (first ++ second) = bytesOf first + bytesOf second := by
  simp [bytesOf, Text.utf8]

theorem bytesOf_cons (c : Char) (rest : List Char) :
    bytesOf (c :: rest) = bytesOf [c] + bytesOf rest :=
  bytesOf_append [c] rest

theorem bytesOf_of_ascii {text : List Char} (h : ∀ c ∈ text, c.toNat < 128) :
    bytesOf text = text.length :=
  length_utf8_of_ascii h

theorem bytesOf_pos {text : List Char} (h : text ≠ []) : 0 < bytesOf text := by
  cases text with
  | nil => exact absurd rfl h
  | cons c rest =>
      have hchar : 0 < bytesOf [c] := by
        simp only [bytesOf, Text.utf8, List.flatMap_cons, List.flatMap_nil,
          List.append_nil, Text.utf8Char]
        split_ifs <;> exact Nat.zero_lt_succ _
      rw [bytesOf_cons]
      omega

/-- The width of a value. -/
def width (v : PyValue) : Nat := bytesOf (canonicalText v)

/-- The width of a text between its quotes, and with them. -/
def textWidth (s : String) : Nat := bytesOf (quoted s)

@[simp] theorem width_none : width .none = 4 := rfl

@[simp] theorem width_str (s : String) : width (.str s) = textWidth s := rfl

/-- A character that stands for itself and takes one byte. -/
def isPlain (c : Char) : Bool :=
  32 ≤ c.toNat && c.toNat < 128 && c ≠ '"' && c ≠ '\\'

theorem escape_of_plain {c : Char} (h : isPlain c = true) : escape c = [c] := by
  simp only [isPlain, Bool.and_eq_true, decide_eq_true_eq] at h
  obtain ⟨⟨⟨hlow, -⟩, hquote⟩, hbackslash⟩ := h
  rw [escape, if_neg hquote, if_neg hbackslash]
  repeat rw [if_neg (by omega)]

/-- **A plain text is as wide as it is long**, with its quotes. -/
theorem textWidth_of_plain {s : String} (h : ∀ c ∈ s.toList, isPlain c = true) :
    textWidth s = s.length + 2 := by
  have hsame : s.toList.flatMap escape = s.toList := by
    have hmap : s.toList.map escape = s.toList.map fun c => [c] :=
      List.map_congr_left fun c hc => escape_of_plain (h c hc)
    rw [List.flatMap_def, hmap, ← List.flatMap_def, List.flatMap_singleton']
  have hascii : ∀ c ∈ s.toList, c.toNat < 128 := by
    intro c hc
    have := h c hc
    simp only [isPlain, Bool.and_eq_true, decide_eq_true_eq] at this
    exact this.1.1.2
  rw [textWidth, quoted, hsame, List.cons_append, bytesOf_cons, bytesOf_append,
    bytesOf_of_ascii hascii, String.length_toList]
  show 1 + (s.length + 1) = s.length + 2
  omega

theorem escape_ne_nil (c : Char) : escape c ≠ [] := by
  unfold escape
  dsimp only
  split_ifs <;> exact List.cons_ne_nil _ _

/-- **No text is narrower than it is long.** -/
theorem le_textWidth (s : String) : s.length + 2 ≤ textWidth s := by
  have hflat : ∀ text : List Char, text.length ≤ bytesOf (text.flatMap escape) := by
    intro text
    induction text with
    | nil => exact Nat.le_refl 0
    | cons c rest ih =>
        have := bytesOf_pos (escape_ne_nil c)
        rw [List.flatMap_cons, bytesOf_append, List.length_cons]
        omega
  have := hflat s.toList
  rw [textWidth, quoted, List.cons_append, bytesOf_cons,
    bytesOf_append, ← String.length_toList]
  show _ ≤ 1 + (_ + 1)
  omega

theorem width_int (n : Int) : width (.int n) = (intText n).length := by
  rw [width, canonicalText, bytesOf_of_ascii (intText_ascii n)]

/-- A natural number below a power of ten is no wider than the exponent. -/
theorem width_int_le {n : Int} {digits : Nat} (hpositive : 0 ≤ n) (hdigits : 0 < digits)
    (h : n < 10 ^ digits) : width (.int n) ≤ digits := by
  rw [width_int, intText, if_neg (Int.not_lt.mpr hpositive),
    Nat.length_toDigits_le_iff (by decide) hdigits]
  have hbound : (n.natAbs : Int) < (10 ^ digits : Nat) := by
    rwa [Int.natAbs_of_nonneg hpositive, Int.natCast_pow]
  exact Int.ofNat_lt.mp hbound

theorem bytesOf_intercalate : ∀ parts : List (List Char),
    bytesOf ([','].intercalate parts) = (parts.map bytesOf).sum + (parts.length - 1)
  | [] => rfl
  | [part] => by simp
  | part :: other :: rest => by
      have hcomma : bytesOf [','] = 1 := rfl
      rw [List.intercalate_cons_cons, bytesOf_append, bytesOf_append,
        bytesOf_intercalate (other :: rest)]
      simp only [List.map_cons, List.sum_cons, List.length_cons, hcomma]
      omega

theorem bytesOf_bracketed {opening closing : Char} (parts : List (List Char))
    (hopening : bytesOf [opening] = 1) (hclosing : bytesOf [closing] = 1) :
    bytesOf (bracketed opening closing parts) =
      2 + (parts.map bytesOf).sum + (parts.length - 1) := by
  rw [bracketed, bytesOf_cons, bytesOf_append, bytesOf_intercalate, hopening, hclosing]
  omega

theorem canonicalItems_eq (items : List PyValue) :
    canonicalItems items = items.map canonicalText := by
  induction items with
  | nil => rfl
  | cons v vs ih => rw [canonicalItems, ih, List.map_cons]

theorem canonicalEntries_eq (entries : PyDict) :
    canonicalEntries entries = entries.map fun entry =>
      (entry.1, canonicalText entry.2) := by
  induction entries with
  | nil => rfl
  | cons entry rest ih => rw [canonicalEntries, ih, List.map_cons]

/-- **A list is as wide as its items**, its commas and its brackets. -/
theorem width_list (items : List PyValue) :
    width (.list items) = 2 + (items.map width).sum + (items.length - 1) := by
  rw [width, canonicalText, bytesOf_bracketed _ rfl rfl, canonicalItems_eq,
    List.map_map, List.length_map]
  rfl

/-- What the keys of a dictionary take, with its punctuation. -/
def keysWidth (keys : List String) : Nat :=
  (keys.map fun key => textWidth key + 2).sum + 1

/-- **A dictionary is as wide as its keys and its values**, whatever their order. -/
theorem width_dict {entries : PyDict} (h : entries ≠ []) :
    width (.dict entries) =
      keysWidth (entries.map (·.1)) + (entries.map fun entry => width entry.2).sum := by
  have hparts : ∀ parts : List (String × List Char),
      ((parts.insertionSort fun a b => keyUnits a.1 ≤ keyUnits b.1).map renderEntry
        |>.map bytesOf).sum =
        (parts.map fun part => textWidth part.1 + 1 + bytesOf part.2).sum := by
    intro parts
    rw [List.map_map, ((List.perm_insertionSort ..).map _).sum_nat]
    congr 1
    refine List.map_congr_left fun part _ => ?_
    rw [Function.comp_apply, renderEntry, bytesOf_append, bytesOf_cons, textWidth,
      Nat.add_assoc]
    rfl
  have hsum : ∀ rest : PyDict,
      (rest.map fun entry => textWidth entry.1 + 1 + width entry.2).sum +
      rest.length = (rest.map fun entry => textWidth entry.1 + 2).sum +
        (rest.map fun entry => width entry.2).sum := by
    intro rest
    induction rest with
    | nil => rfl
    | cons entry rest ih =>
        simp only [List.map_cons, List.sum_cons, List.length_cons]
        omega
  have hlength := List.length_pos_iff.mpr h
  have hentries := hsum entries
  rw [width, canonicalText, bytesOf_bracketed _ rfl rfl, hparts, canonicalEntries_eq,
    List.map_map, List.length_map, List.length_insertionSort, List.length_map,
    keysWidth, List.map_map]
  simp only [Function.comp_def, width] at hentries ⊢
  omega

/-! ## Values that are read back -/

/-- Entries read back under the same keys are as wide, in whatever order. -/
theorem width_dict_of_reread {entries others : PyDict}
    (hkeys : (entries.map (·.1)).Nodup)
    (hvalues : ∀ entry ∈ entries, ∀ w, reread entry.2 w = true →
      encodable w = true ∧ width w = width entry.2)
    (h : reread (.dict entries) (.dict others) = true) :
    encodable (.dict others) = true ∧ width (.dict others) = width (.dict entries) := by
  rw [reread, Bool.and_eq_true, beq_iff_eq, rereadEntries_iff] at h
  obtain ⟨hlength, hfound⟩ := h
  have hperm := keys_perm hkeys hlength fun entry hentry =>
    (hfound entry hentry).imp fun _ hother => hother.1
  have hothers : (others.map (·.1)).Nodup := hperm.nodup_iff.mp hkeys
  have hof : ∀ other ∈ others, ∃ entry ∈ entries, entry.1 = other.1 ∧
      reread entry.2 other.2 = true := by
    intro other hother
    obtain ⟨entry, hentry, hkey⟩ :=
      List.mem_map.mp (hperm.mem_iff.mpr (List.mem_map_of_mem hother))
    obtain ⟨found, hlookup, hreread⟩ := hfound entry hentry
    rw [hkey, lookup_eq_some_of_mem hothers hother, Option.some.injEq] at hlookup
    exact ⟨entry, hentry, hkey, hlookup ▸ hreread⟩
  refine ⟨encodable_dict hothers fun other hother => ?_, ?_⟩
  · obtain ⟨entry, hentry, -, hreread⟩ := hof other hother
    exact (hvalues entry hentry _ hreread).1
  cases entries with
  | nil =>
      obtain rfl := List.eq_nil_of_length_eq_zero hlength.symm
      rfl
  | cons first rest =>
      have hne : others ≠ [] := by
        rintro rfl
        cases hlength
      -- each width is a function of its key
      have hwidths : ∀ dictionary : PyDict, (∀ entry ∈ dictionary,
          ((others.lookup entry.1).map width).getD 0 = width entry.2) →
            (dictionary.map fun entry => width entry.2).sum = ((dictionary.map
              (·.1)).map fun key => ((others.lookup key).map width).getD 0).sum := by
        intro dictionary hdictionary
        rw [List.map_map]
        exact congrArg List.sum (List.map_congr_left fun entry hentry =>
          (hdictionary entry hentry).symm)
      rw [width_dict hne, width_dict (List.cons_ne_nil first rest), keysWidth,
        keysWidth, (hperm.map _).sum_nat, hwidths others, hwidths (first :: rest),
        (hperm.map _).sum_nat]
      · intro entry hentry
        obtain ⟨found, hlookup, hreread⟩ := hfound entry hentry
        rw [hlookup, Option.map_some, Option.getD_some,
          (hvalues entry hentry _ hreread).2]
      · intro other hother
        rw [lookup_eq_some_of_mem hothers hother, Option.map_some, Option.getD_some]

mutual

/-- **What is read back is as wide as it was.** -/
theorem width_of_reread : ∀ v w : PyValue, encodable v = true → reread v w = true →
    encodable w = true ∧ width w = width v
  | .none, w, _, h => by
      rw [reread_none.mp h]
      exact ⟨rfl, rfl⟩
  | .bool b, w, _, h => by
      rw [reread_bool.mp h]
      exact ⟨rfl, rfl⟩
  | .int n, w, hv, h => by
      rw [reread_int.mp h]
      exact ⟨hv, rfl⟩
  | .str s, w, _, h => by
      rw [reread_str.mp h]
      exact ⟨rfl, rfl⟩
  | .list items, w, hv, h => by
      cases w with
      | list others =>
          rw [reread_list] at h
          rw [encodable] at hv
          obtain ⟨hothers, hwidths⟩ := width_of_rereadItems items others hv h
          have hlength : others.length = items.length := by
            simpa using congrArg List.length hwidths
          rw [encodable, width_list, width_list, hwidths, hlength]
          exact ⟨hothers, rfl⟩
      | _ => simp [reread] at h
  | .dict entries, w, hv, h => by
      cases w with
      | dict others =>
          rw [encodable, Bool.and_eq_true, decide_eq_true_eq] at hv
          exact width_dict_of_reread hv.1 (width_of_rereadEntries entries hv.2) h
      | _ => simp [reread] at h

theorem width_of_rereadItems :
    ∀ items others : List PyValue, encodableItems items = true →
    rereadItems items others = true →
      encodableItems others = true ∧ others.map width = items.map width
  | [], others, _, h => by
      cases others with
      | nil => exact ⟨rfl, rfl⟩
      | cons other rest => simp [rereadItems] at h
  | v :: vs, others, hv, h => by
      cases others with
      | nil => simp [rereadItems] at h
      | cons other rest =>
          rw [rereadItems, Bool.and_eq_true] at h
          rw [encodableItems, Bool.and_eq_true] at hv ⊢
          obtain ⟨hother, hwidth⟩ := width_of_reread v other hv.1 h.1
          obtain ⟨hrest, hwidths⟩ := width_of_rereadItems vs rest hv.2 h.2
          rw [List.map_cons, List.map_cons, hwidth, hwidths]
          exact ⟨⟨hother, hrest⟩, rfl⟩

theorem width_of_rereadEntries : ∀ entries : PyDict, encodableEntries entries = true →
    ∀ entry ∈ entries, ∀ w, reread entry.2 w = true →
    encodable w = true ∧ width w = width entry.2
  | [], _ => fun _ hentry => absurd hentry List.not_mem_nil
  | (key, v) :: es, hv => by
      rw [encodableEntries, Bool.and_eq_true] at hv
      intro entry hentry w h
      rcases List.mem_cons.mp hentry with rfl | hentry
      · exact width_of_reread v w hv.1 h
      · exact width_of_rereadEntries es hv.2 entry hentry w h

end

/-! ## The encoder -/

/-- An encoder of canonical JSON, on the values without floats. -/
def FollowsRfc8785 (dumps : PyValue → Option (List UInt8)) : Prop :=
  ∀ v, encodable v = true → dumps v = canonicalBytes v

theorem canonicalBytes_follows : FollowsRfc8785 canonicalBytes := fun _ _ => rfl

/-- **Every encodable value has bytes, as many as it is wide.** -/
theorem FollowsRfc8785.dumps_eq {dumps : PyValue → Option (List UInt8)}
    (hdumps : FollowsRfc8785 dumps) {v : PyValue} (h : encodable v = true) :
    ∃ encoded, dumps v = some encoded ∧ encoded.length = width v := by
  rw [hdumps v h, canonicalBytes, if_pos h]
  exact ⟨_, rfl, List.length_map ..⟩

end ControlPlaneKit.Library.CanonicalText
