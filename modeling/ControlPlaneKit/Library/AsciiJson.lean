import ControlPlaneKit.Library.PyValue
import ControlPlaneKit.Library.Text
import Mathlib.Algebra.GroupWithZero.Nat
import Mathlib.Data.Nat.Size

/-!
# AsciiJson — the compact ASCII encoding and its width

`json.dumps` with `ensure_ascii` and compact separators, over texts of arbitrary code
points: a lone surrogate is one of them and is escaped as it stands.  The width of an
encoding adds up from the widths of its parts, and for the number of digits of an
integer there is an estimate from its bit length.
-/

namespace ControlPlaneKit.Library.AsciiJson

open ControlPlaneKit.Library.PyValue (hex4 intText printable maxStrDigits)

/-! ## Values -/

/-- A host text: any code points, surrogates too. -/
abbrev CodePoints := List (Fin 0x110000)

/-- A finite float by its `repr`. -/
structure FiniteFloat where
  repr : List Char
  nonempty : repr ≠ []
  ascii : ∀ c ∈ repr, c.toNat < 128
  deriving DecidableEq

/-- A JSON value with text keys. -/
inductive JsonDocument where
  | null
  | bool (b : Bool)
  | int (n : Int)
  | float (x : FiniteFloat)
  | text (points : CodePoints)
  | list (items : List JsonDocument)
  | object (entries : List (CodePoints × JsonDocument))

/-! ## The encoding -/

/-- One code point under `ensure_ascii`; beyond the basic plane as a surrogate pair. -/
def escapePoint (point : Fin 0x110000) : List Char :=
  let n := point.val
  if n = 34 then ['\\', '"']
  else if n = 92 then ['\\', '\\']
  else if n = 10 then ['\\', 'n']
  else if n = 13 then ['\\', 'r']
  else if n = 9 then ['\\', 't']
  else if n = 8 then ['\\', 'b']
  else if n = 12 then ['\\', 'f']
  else if 32 ≤ n ∧ n ≤ 126 then [Char.ofNat n]
  else if n < 0x10000 then '\\' :: 'u' :: hex4 n
  else
    '\\' :: 'u' :: hex4 (0xd800 + (n - 0x10000) >>> 10) ++
      '\\' :: 'u' :: hex4 (0xdc00 + (n - 0x10000) % 1024)

def textCode (points : CodePoints) : List Char :=
  '"' :: points.flatMap escapePoint ++ ['"']

/-- Parts between brackets, with commas. -/
def bracketed (opening closing : Char) (parts : List (List Char)) : List Char :=
  opening :: ([','].intercalate parts ++ [closing])

mutual

/-- `json.dumps(value, ensure_ascii=True, separators=(",", ":"))`. -/
def compact : JsonDocument → List Char
  | .null => "null".toList
  | .bool b => if b then "true".toList else "false".toList
  | .int n => intText n
  | .float x => x.repr
  | .text points => textCode points
  | .list items => bracketed '[' ']' (compactItems items)
  | .object entries => bracketed '\x7b' '\x7d' (compactEntries entries)

def compactItems : List JsonDocument → List (List Char)
  | [] => []
  | v :: vs => compact v :: compactItems vs

def compactEntries : List (CodePoints × JsonDocument) → List (List Char)
  | [] => []
  | (key, v) :: es => (textCode key ++ ':' :: compact v) :: compactEntries es

end

mutual

/-- No integer too long to print. -/
def isPrintable : JsonDocument → Bool
  | .int n => printable n
  | .list items => isPrintableItems items
  | .object entries => isPrintableEntries entries
  | _ => true

def isPrintableItems : List JsonDocument → Bool
  | [] => true
  | v :: vs => isPrintable v && isPrintableItems vs

def isPrintableEntries : List (CodePoints × JsonDocument) → Bool
  | [] => true
  | (_, v) :: es => isPrintable v && isPrintableEntries es

end

/-- What an integer too long to print raises. -/
def digitLimit : PyError :=
  .valueError ("Exceeds the limit (4300 digits) for integer string conversion; " ++
    "use sys.set_int_max_str_digits() to increase the limit")

/-- The encoding as bytes. -/
def encoded (document : JsonDocument) : Except PyError (List Nat) :=
  if isPrintable document then .ok (Text.utf8 (compact document)) else .error digitLimit

/-! ## Widths -/

theorem length_textCode (points : CodePoints) :
    (textCode points).length =
      2 + (points.map fun point => (escapePoint point).length).sum := by
  rw [textCode]
  simp only [List.length_append, List.length_cons, List.length_nil, List.length_flatMap]
  omega

theorem length_intercalate : ∀ parts : List (List Char),
    ([','].intercalate parts).length = (parts.map (·.length)).sum + (parts.length - 1)
  | [] => rfl
  | [part] => by simp
  | part :: other :: rest => by
      rw [List.intercalate_cons_cons, List.length_append, List.length_append,
        length_intercalate (other :: rest)]
      simp only [List.map_cons, List.sum_cons, List.length_cons, List.length_nil]
      omega

theorem length_bracketed (opening closing : Char) (parts : List (List Char)) :
    (bracketed opening closing parts).length =
      2 + (parts.map (·.length)).sum + (parts.length - 1) := by
  rw [bracketed, List.length_cons, List.length_append, length_intercalate]
  simp only [List.length_cons, List.length_nil]
  omega

theorem length_compactItems (items : List JsonDocument) :
    (compactItems items).length = items.length := by
  induction items with
  | nil => rfl
  | cons v vs ih => simp [compactItems, ih]

theorem length_compactEntries (entries : List (CodePoints × JsonDocument)) :
    (compactEntries entries).length = entries.length := by
  induction entries with
  | nil => rfl
  | cons e es ih => simp [compactEntries, ih]

theorem intText_pos (n : Int) : 0 < (intText n).length := by
  unfold intText
  split
  · simp
  · exact Nat.length_toDigits_pos

/-- **Nothing encodes to nothing.** -/
theorem compact_pos (document : JsonDocument) : 0 < (compact document).length := by
  cases document with
  | null => decide
  | bool b => cases b <;> decide
  | int n => exact intText_pos n
  | float x => exact List.length_pos_of_ne_nil x.nonempty
  | text points => rw [compact, length_textCode]; omega
  | list items => rw [compact, length_bracketed]; omega
  | object entries => rw [compact, length_bracketed]; omega

/-! ## ASCII -/

theorem digitChar_ascii (n : Nat) : (Nat.digitChar n).toNat < 128 := by
  have hdigit : ∀ m < 16, (Nat.digitChar m).toNat < 128 := by decide
  rcases Nat.lt_or_ge n 16 with hn | hn
  · exact hdigit n hn
  · unfold Nat.digitChar
    repeat rw [if_neg (by omega)]
    decide

theorem escapePoint_ascii (point : Fin 0x110000) :
    ∀ c ∈ escapePoint point, c.toNat < 128 := by
  have hhex : ∀ n, ∀ c ∈ hex4 n, c.toNat < 128 := by
    intro n c hc
    obtain ⟨shift, -, rfl⟩ := List.mem_map.mp hc
    exact digitChar_ascii _
  intro c hc
  unfold escapePoint at hc
  dsimp only at hc
  repeat' split at hc
  · revert c; exact Text.forall_mem_of_all (by decide)
  · revert c; exact Text.forall_mem_of_all (by decide)
  · revert c; exact Text.forall_mem_of_all (by decide)
  · revert c; exact Text.forall_mem_of_all (by decide)
  · revert c; exact Text.forall_mem_of_all (by decide)
  · revert c; exact Text.forall_mem_of_all (by decide)
  · revert c; exact Text.forall_mem_of_all (by decide)
  · rename_i hplain
    obtain rfl := List.mem_singleton.mp hc
    have hprintable : ∀ n < 127, (Char.ofNat n).toNat < 128 := by decide
    exact hprintable _ (by omega)
  · simp only [List.mem_cons] at hc
    rcases hc with rfl | rfl | hc
    · decide
    · decide
    · exact hhex _ c hc
  · simp only [List.mem_append, List.mem_cons] at hc
    rcases hc with (rfl | rfl | hc) | rfl | rfl | hc
    · decide
    · decide
    · exact hhex _ c hc
    · decide
    · decide
    · exact hhex _ c hc

theorem textCode_ascii (points : CodePoints) :
    ∀ c ∈ textCode points, c.toNat < 128 := by
  intro c hc
  simp only [textCode, List.cons_append, List.mem_cons, List.mem_append,
    List.mem_flatMap, List.not_mem_nil, or_false] at hc
  rcases hc with rfl | ⟨point, -, hc⟩ | rfl
  · decide
  · exact escapePoint_ascii point c hc
  · decide

theorem intText_ascii (n : Int) : ∀ c ∈ intText n, c.toNat < 128 := by
  have hdigits : ∀ c ∈ Nat.toDigits 10 n.natAbs, c.toNat < 128 := by
    intro c hc
    have := Nat.isDigit_of_mem_toDigits (by decide) (by decide) hc
    simp only [Char.isDigit, Bool.and_eq_true, decide_eq_true_eq] at this
    have hle : c.val.toNat ≤ 57 := this.2
    exact Nat.lt_of_le_of_lt hle (by decide)
  intro c hc
  unfold intText at hc
  split at hc
  · rcases List.mem_cons.mp hc with rfl | hc
    · decide
    · exact hdigits c hc
  · exact hdigits c hc

theorem bracketed_ascii {opening closing : Char} {parts : List (List Char)}
    (hopening : opening.toNat < 128) (hclosing : closing.toNat < 128)
    (hparts : ∀ part ∈ parts, ∀ c ∈ part, c.toNat < 128) :
    ∀ c ∈ bracketed opening closing parts, c.toNat < 128 := by
  have hinner : ∀ parts : List (List Char),
      (∀ part ∈ parts, ∀ c ∈ part, c.toNat < 128) →
      ∀ c ∈ [','].intercalate parts, c.toNat < 128 := by
    intro parts
    induction parts with
    | nil => simp
    | cons part rest ih =>
        intro hall c hc
        cases rest with
        | nil =>
            rw [List.intercalate_singleton] at hc
            exact hall part (by simp) c hc
        | cons other tail =>
            rw [List.intercalate_cons_cons] at hc
            rcases List.mem_append.mp hc with hc | hc
            · rcases List.mem_append.mp hc with hc | hc
              · exact hall part (by simp) c hc
              · obtain rfl := List.mem_singleton.mp hc
                decide
            · exact ih (fun p hp => hall p (List.mem_cons_of_mem _ hp)) c hc
  intro c hc
  rcases List.mem_cons.mp hc with rfl | hc
  · exact hopening
  · rcases List.mem_append.mp hc with hc | hc
    · exact hinner parts hparts c hc
    · exact List.mem_singleton.mp hc ▸ hclosing

mutual

/-- **The encoding is ASCII.** -/
theorem compact_ascii : ∀ document : JsonDocument, ∀ c ∈ compact document, c.toNat < 128
  | .null => by rw [compact]; exact Text.forall_mem_of_all (by decide)
  | .bool b => by rw [compact]; cases b <;> exact Text.forall_mem_of_all (by decide)
  | .int n => by rw [compact]; exact intText_ascii n
  | .float x => by rw [compact]; exact x.ascii
  | .text points => by rw [compact]; exact textCode_ascii points
  | .list items => by
      rw [compact]
      exact bracketed_ascii (by decide) (by decide) (compactItems_ascii items)
  | .object entries => by
      rw [compact]
      exact bracketed_ascii (by decide) (by decide) (compactEntries_ascii entries)

theorem compactItems_ascii : ∀ items : List JsonDocument,
    ∀ part ∈ compactItems items, ∀ c ∈ part, c.toNat < 128
  | [], part, hpart => by rw [compactItems] at hpart; cases hpart
  | v :: vs, part, hpart => by
      rw [compactItems] at hpart
      rcases List.mem_cons.mp hpart with rfl | hpart
      · exact compact_ascii v
      · exact compactItems_ascii vs part hpart

theorem compactEntries_ascii : ∀ entries : List (CodePoints × JsonDocument),
    ∀ part ∈ compactEntries entries, ∀ c ∈ part, c.toNat < 128
  | [], part, hpart => by rw [compactEntries] at hpart; cases hpart
  | (key, v) :: es, part, hpart => by
      rw [compactEntries] at hpart
      rcases List.mem_cons.mp hpart with rfl | hpart
      · intro c hc
        rcases List.mem_append.mp hc with hc | hc
        · exact textCode_ascii key c hc
        · rcases List.mem_cons.mp hc with rfl | hc
          · decide
          · exact compact_ascii v c hc
      · exact compactEntries_ascii es part hpart

end

theorem length_utf8_of_ascii {text : List Char} (h : ∀ c ∈ text, c.toNat < 128) :
    (Text.utf8 text).length = text.length := by
  induction text with
  | nil => rfl
  | cons c rest ih =>
      have hc : (Text.utf8Char c).length = 1 := by
        have := h c (List.mem_cons_self ..)
        simp [Text.utf8Char, this]
      rw [Text.utf8, List.flatMap_cons, List.length_append, hc, List.length_cons]
      have := ih fun d hd => h d (List.mem_cons_of_mem _ hd)
      rw [Text.utf8] at this
      omega

/-! ## Integers -/

/-- `n.bit_length()`. -/
def bitLength (n : Int) : Nat := n.natAbs.size

/-- How many digits an integer of that many bits has at most: `30103 / 100000` is a
little more than the logarithm of two. -/
def digitBound (n : Int) : Nat :=
  (if bitLength n = 0 then 1 else bitLength n * 30103 / 100000 + 1) + if n < 0 then 1
    else 0

/-- A power of ten has at least as many bits as the bound supposes, short of one
digit. -/
theorem ten_pow_le {digits bits : Nat} (h : 196 * digits ≤ 59 * bits) :
    10 ^ digits ≤ 2 ^ bits := by
  have hbase : (10 ^ 59 : Nat) ≤ 2 ^ 196 := by decide
  refine (Nat.pow_le_pow_iff_left (show (59 : Nat) ≠ 0 by decide)).mp ?_
  calc (10 ^ digits) ^ 59 = (10 ^ 59) ^ digits := by
        rw [← Nat.pow_mul, ← Nat.pow_mul, Nat.mul_comm]
    _ ≤ (2 ^ 196) ^ digits := Nat.pow_le_pow_left hbase digits
    _ = 2 ^ (196 * digits) := (Nat.pow_mul ..).symm
    _ ≤ 2 ^ (bits * 59) := Nat.pow_le_pow_right (by decide) (by omega)
    _ = (2 ^ bits) ^ 59 := Nat.pow_mul ..

/-- **The bound is at most one digit too high** for integers that can be printed. -/
theorem digitBound_le {n : Int} (h : printable n = true) :
    digitBound n ≤ (intText n).length + 1 := by
  have hlimit : n.natAbs < 10 ^ maxStrDigits := by
    unfold printable at h
    exact of_decide_eq_true h
  have hshort : (Nat.toDigits 10 n.natAbs).length ≤ maxStrDigits :=
    (Nat.length_toDigits_le_iff (by decide) (by decide)).mpr hlimit
  have hpos : 0 < (Nat.toDigits 10 n.natAbs).length := Nat.length_toDigits_pos
  have hfits : n.natAbs < 10 ^ (Nat.toDigits 10 n.natAbs).length :=
    (Nat.length_toDigits_le_iff (by decide) hpos).mp le_rfl
  have hbits : bitLength n * 30103 / 100000 ≤ (Nat.toDigits 10 n.natAbs).length := by
    by_contra hover
    rw [not_le] at hover
    have hsize : (bitLength n - 1) < n.natAbs.size := by
      unfold bitLength at hover ⊢
      omega
    have hpow : 2 ^ (bitLength n - 1) ≤ n.natAbs := Nat.lt_size.mp hsize
    have hten : 10 ^ (Nat.toDigits 10 n.natAbs).length ≤ 2 ^ (bitLength n - 1) := by
      refine ten_pow_le ?_
      unfold maxStrDigits at hshort
      omega
    omega
  unfold digitBound intText
  by_cases hneg : n < 0
  · rw [if_pos hneg, if_pos hneg, List.length_cons]
    split <;> omega
  · rw [if_neg hneg, if_neg hneg]
    split <;> omega

end ControlPlaneKit.Library.AsciiJson
