import ControlPlaneKit.Library.Outcome
import Mathlib.Data.List.Sort
import Mathlib.Data.String.Basic

/-!
# PyValue — dynamic values and their JSON text

Descriptors and metadata are dynamic values: scalars, lists, tuples, text-keyed
dictionaries, and opaque objects of which only the identity is known.  This
file gives their equality and `json.dumps(value, sort_keys=True)`, which fails
on an object and on an integer too long to print.  The interpreter's recursion limit,
which a value nested deeply enough meets, is not modelled.
-/

namespace ControlPlaneKit.Library

open Outcome (Succeeds collect succeeds_collect succeeds_map)

/-- The exceptions of the host language that carry a message or a key. -/
inductive PyError where
  | typeError (message : String)
  | valueError (message : String)
  | keyError (message : String)
  deriving DecidableEq, Repr

/-- A float by its JSON text, with the integer it is equal to if there is one.  Up to
`2 ^ 53 - 1` a float that is an integer has the digits of the integer and one zero
behind the point; only zero is written with either sign. -/
structure PyFloat where
  text : String
  integral : Option Int
  plain : ∀ n ∈ integral, n.natAbs ≤ 9007199254740991 →
    text = toString n ++ ".0" ∨ n = 0 ∧ text = "-0.0"
  deriving DecidableEq, Repr

/-- A value of the language, as far as it can be compared, rendered or read: what is
none of these is an object of a class. -/
inductive PyValue where
  | none
  | bool (b : Bool)
  | int (n : Int)
  | float (x : PyFloat)
  | str (s : String)
  | list (items : List PyValue)
  | tuple (items : List PyValue)
  | dict (entries : List (String × PyValue))
  | object (typeName : String) (identity : Nat)

/-- A dictionary's entries in insertion order. -/
abbrev PyDict := List (String × PyValue)

namespace PyValue

/-! ## Equality -/

/-- What `==` compares two numbers by: booleans, integers and integral floats
meet in the integers, any other float is its own text. -/
def number : PyValue → Option (Int ⊕ String)
  | .bool b => some (.inl (if b then 1 else 0))
  | .int n => some (.inl n)
  | .float x => some ((x.integral.map Sum.inl).getD (.inr x.text))
  | _ => Option.none

mutual

/-- `left == right`; a dictionary compares key by key, whatever the order. -/
def pyEq : PyValue → PyValue → Bool
  | .none, .none => true
  | .str s, .str t => s == t
  | .list xs, .list ys => pyEqItems xs ys
  | .tuple xs, .tuple ys => pyEqItems xs ys
  | .dict es, .dict fs => es.length == fs.length && pyEqEntries es fs
  | .object _ i, .object _ j => i == j
  | .bool b, v => number (.bool b) == number v
  | .int n, v => number (.int n) == number v
  | .float x, v => number (.float x) == number v
  | _, _ => false

def pyEqItems : List PyValue → List PyValue → Bool
  | [], [] => true
  | x :: xs, y :: ys => pyEq x y && pyEqItems xs ys
  | _, _ => false

def pyEqEntries : List (String × PyValue) → List (String × PyValue) → Bool
  | [], _ => true
  | (k, v) :: es, fs =>
      (match fs.lookup k with
        | some w => pyEq v w
        | Option.none => false) && pyEqEntries es fs

end

mutual

/-- Every dictionary inside has each key once. -/
def wellKeyed : PyValue → Bool
  | .list items => wellKeyedItems items
  | .tuple items => wellKeyedItems items
  | .dict entries => decide (entries.map (·.1)).Nodup && wellKeyedEntries entries
  | _ => true

def wellKeyedItems : List PyValue → Bool
  | [] => true
  | v :: vs => wellKeyed v && wellKeyedItems vs

def wellKeyedEntries : List (String × PyValue) → Bool
  | [] => true
  | (_, v) :: es => wellKeyed v && wellKeyedEntries es

end

/-- A list repeats no key when no item does. -/
theorem wellKeyedItems_iff {items : List PyValue} :
    wellKeyedItems items = true ↔ ∀ v ∈ items, wellKeyed v = true := by
  induction items with
  | nil => simp [wellKeyedItems]
  | cons v vs ih => simp [wellKeyedItems, ih]

theorem wellKeyedEntries_iff {entries : PyDict} :
    wellKeyedEntries entries = true ↔ ∀ e ∈ entries, wellKeyed e.2 = true := by
  induction entries with
  | nil => simp [wellKeyedEntries]
  | cons e es ih => simp [wellKeyedEntries, ih]

/-- A mapping repeats no key, and none of its values does. -/
theorem wellKeyed_dict_iff {entries : PyDict} : wellKeyed (.dict entries) = true ↔
    (entries.map (·.1)).Nodup ∧ ∀ e ∈ entries, wellKeyed e.2 = true := by
  rw [wellKeyed, Bool.and_eq_true, decide_eq_true_eq, wellKeyedEntries_iff]

/-- What a key is looked up to in a dictionary with distinct keys. -/
theorem lookup_eq_some_of_mem {α : Type} {entries : List (String × α)}
    (hkeys : (entries.map (·.1)).Nodup) {key : String} {value : α}
    (hmem : (key, value) ∈ entries) : entries.lookup key = some value := by
  induction entries with
  | nil => cases hmem
  | cons e es ih =>
      obtain ⟨hnew, hrest⟩ := List.nodup_cons.mp hkeys
      rcases List.mem_cons.mp hmem with rfl | hmem
      · simp
      · have hne : key ≠ e.1 := by
          rintro rfl
          exact hnew (List.mem_map.mpr ⟨_, hmem, rfl⟩)
        rw [List.lookup_cons, beq_false_of_ne hne]
        exact ih hrest hmem

/-- A number equals itself. -/
theorem number_beq_self : ∀ n : Option (Int ⊕ String), (n == n) = true
  | Option.none => rfl
  | some (.inl n) => beq_self_eq_true n
  | some (.inr text) => beq_self_eq_true text

mutual

/-- **A value with distinct keys is equal to itself.** -/
theorem pyEq_self : ∀ v : PyValue, wellKeyed v = true → pyEq v v = true
  | .none, _ => by simp [pyEq]
  | .bool b, _ => by rw [pyEq]; exact number_beq_self _
  | .int n, _ => by rw [pyEq]; exact number_beq_self _
  | .float x, _ => by rw [pyEq]; exact number_beq_self _
  | .str s, _ => by simp [pyEq]
  | .object _ i, _ => by simp [pyEq]
  | .list items, h => by
      rw [pyEq]
      exact pyEqItems_self items h
  | .tuple items, h => by
      rw [pyEq]
      exact pyEqItems_self items h
  | .dict entries, h => by
      rw [pyEq, Bool.and_eq_true]
      obtain ⟨hkeys, hvalues⟩ := wellKeyed_dict_iff.mp h
      exact ⟨by simp, pyEqEntries_self entries entries hkeys (fun _ he => he)
        (wellKeyedEntries_iff.mpr hvalues)⟩

/-- A list equals itself where its items do. -/
theorem pyEqItems_self : ∀ items : List PyValue, wellKeyedItems items = true →
    pyEqItems items items = true
  | [], _ => by simp [pyEqItems]
  | v :: vs, h => by
      rw [wellKeyedItems, Bool.and_eq_true] at h
      rw [pyEqItems, Bool.and_eq_true]
      exact ⟨pyEq_self v h.1, pyEqItems_self vs h.2⟩

/-- So does a mapping without repeated keys. -/
theorem pyEqEntries_self : ∀ (es entries : PyDict), (entries.map (·.1)).Nodup →
    (∀ e ∈ es, e ∈ entries) → wellKeyedEntries es = true → pyEqEntries es entries = true
  | [], _, _, _, _ => by simp [pyEqEntries]
  | (k, v) :: es, entries, hkeys, hmem, h => by
      rw [wellKeyedEntries, Bool.and_eq_true] at h
      rw [pyEqEntries, Bool.and_eq_true,
        lookup_eq_some_of_mem hkeys (hmem _ (List.mem_cons_self ..))]
      exact ⟨pyEq_self v h.1, pyEqEntries_self es entries hkeys
        (fun e he => hmem e (List.mem_cons_of_mem _ he)) h.2⟩

end

mutual

/-- `_json_value(value)`: every tuple becomes a list. -/
def jsonValue : PyValue → PyValue
  | .list items => .list (jsonItems items)
  | .tuple items => .list (jsonItems items)
  | .dict entries => .dict (jsonEntries entries)
  | v => v

def jsonItems : List PyValue → List PyValue
  | [] => []
  | v :: vs => jsonValue v :: jsonItems vs

def jsonEntries : List (String × PyValue) → List (String × PyValue)
  | [] => []
  | (k, v) :: es => (k, jsonValue v) :: jsonEntries es

end

/-! ## JSON text -/

/-- Four hexadecimal digits. -/
def hex4 (n : Nat) : List Char :=
  [12, 8, 4, 0].map fun shift => Nat.digitChar (n >>> shift % 16)

/-- One character under `ensure_ascii`; beyond the basic plane as a surrogate pair. -/
def escapeChar (c : Char) : List Char :=
  let n := c.toNat
  if c = '"' then ['\\', '"']
  else if c = '\\' then ['\\', '\\']
  else if n = 10 then ['\\', 'n']
  else if n = 13 then ['\\', 'r']
  else if n = 9 then ['\\', 't']
  else if n = 8 then ['\\', 'b']
  else if n = 12 then ['\\', 'f']
  else if 32 ≤ n ∧ n ≤ 126 then [c]
  else if n < 0x10000 then '\\' :: 'u' :: hex4 n
  else
    '\\' :: 'u' :: hex4 (0xd800 + (n - 0x10000) >>> 10) ++
      '\\' :: 'u' :: hex4 (0xdc00 + (n - 0x10000) % 1024)

/-- A text in quotes, with the escapes of `json.dumps`. -/
def quoted (s : String) : List Char :=
  '"' :: s.toList.flatMap escapeChar ++ ['"']

/-- `sys.get_int_max_str_digits()`. -/
def maxStrDigits : Nat := 4300

@[irreducible] def printable (n : Int) : Bool := n.natAbs < 10 ^ maxStrDigits

/-- The decimal digits of an integer, with its sign. -/
def intText (n : Int) : List Char :=
  if n < 0 then '-' :: Nat.toDigits 10 n.natAbs else Nat.toDigits 10 n.natAbs

theorem digitChar_ne_zero : ∀ value < 10, 0 < value → Nat.digitChar value ≠ '0' := by
  decide

/-- A number's digits do not start with zero. -/
theorem toDigits_head {value : Nat} (h : 0 < value) :
    ∃ head tail, Nat.toDigits 10 value = head :: tail ∧ head ≠ '0' := by
  induction value using Nat.strongRecOn with
  | ind value ih =>
      rw [Nat.toDigits_eq_if (by decide)]
      split
      case isTrue hlt => exact ⟨_, [], rfl, digitChar_ne_zero value hlt h⟩
      case isFalse hge =>
          obtain ⟨head, tail, heq, hne⟩ := ih (value / 10) (by omega) (by omega)
          exact ⟨head, tail ++ [Nat.digitChar (value % 10)],
            by rw [heq, List.cons_append], hne⟩

/-- What separates items, and keys from values. -/
structure JsonStyle where
  itemSeparator : List Char
  keySeparator : List Char

/-- The separators of `json.dumps` without arguments. -/
def JsonStyle.standard : JsonStyle := ⟨[',', ' '], [':', ' ']⟩

/-- `separators=(",", ":")`. -/
def JsonStyle.compact : JsonStyle := ⟨[','], [':']⟩

/-- Parts between brackets, with separators. -/
def joined (style : JsonStyle) (opening closing : Char) (parts : List (List Char)) :
    List Char :=
  opening :: (style.itemSeparator.intercalate parts ++ [closing])

/-- A key and its value. -/
def renderEntry (style : JsonStyle) (entry : String × Except PyError (List Char)) :
    Except PyError (List Char) :=
  entry.2.map fun text => quoted entry.1 ++ style.keySeparator ++ text

mutual

/-- `json.dumps(value, sort_keys=True, separators=style)`. -/
def dumps (style : JsonStyle) : PyValue → Except PyError (List Char)
  | .none => .ok "null".toList
  | .bool b => .ok (if b then "true".toList else "false".toList)
  | .int n =>
      if printable n then .ok (intText n)
      else .error (.valueError
        ("Exceeds the limit (4300 digits) for integer string conversion; " ++
          "use sys.set_int_max_str_digits() to increase the limit"))
  | .float x => .ok x.text.toList
  | .str s => .ok (quoted s)
  | .list items => (collect (dumpsItems style items)).map (joined style '[' ']')
  | .tuple items => (collect (dumpsItems style items)).map (joined style '[' ']')
  | .dict entries =>
      (collect (((dumpsEntries style entries).insertionSort fun a b => a.1 ≤ b.1).map
        (renderEntry style))).map (joined style '\x7b' '\x7d')
  | .object typeName _ =>
      .error (.typeError ("Object of type " ++ typeName ++ " is not JSON serializable"))

def dumpsItems (style : JsonStyle) : List PyValue → List (Except PyError (List Char))
  | [] => []
  | v :: vs => dumps style v :: dumpsItems style vs

def dumpsEntries (style : JsonStyle) :
    List (String × PyValue) → List (String × Except PyError (List Char))
  | [] => []
  | (k, v) :: es => (k, dumps style v) :: dumpsEntries style es

end

/-! ## Which values have a JSON text -/

mutual

/-- No opaque object and no overlong integer anywhere inside. -/
def isRenderable : PyValue → Bool
  | .int n => printable n
  | .list items => isRenderableItems items
  | .tuple items => isRenderableItems items
  | .dict entries => isRenderableEntries entries
  | .object _ _ => false
  | _ => true

def isRenderableItems : List PyValue → Bool
  | [] => true
  | v :: vs => isRenderable v && isRenderableItems vs

def isRenderableEntries : List (String × PyValue) → Bool
  | [] => true
  | (_, v) :: es => isRenderable v && isRenderableEntries es

end

/-- A list is rendered when its items are. -/
theorem isRenderableItems_iff {items : List PyValue} :
    isRenderableItems items = true ↔ ∀ v ∈ items, isRenderable v = true := by
  induction items with
  | nil => simp [isRenderableItems]
  | cons v vs ih => simp [isRenderableItems, ih]

/-- A mapping is rendered when its values are. -/
theorem isRenderableEntries_iff {entries : PyDict} :
    isRenderableEntries entries = true ↔ ∀ e ∈ entries, isRenderable e.2 = true := by
  induction entries with
  | nil => simp [isRenderableEntries]
  | cons e es ih => simp [isRenderableEntries, ih]

mutual

/-- **`json.dumps` succeeds exactly on the renderable values**, in any style. -/
theorem succeeds_dumps (style : JsonStyle) :
    ∀ v : PyValue, Succeeds (dumps style v) ↔ isRenderable v = true
  | .none => by simp [dumps, Succeeds, isRenderable]
  | .bool b => by simp [dumps, Succeeds, isRenderable]
  | .int n => by
      rw [dumps, isRenderable]
      split <;> simp_all [Succeeds]
  | .float x => by simp [dumps, Succeeds, isRenderable]
  | .str s => by simp [dumps, Succeeds, isRenderable]
  | .list items => by
      rw [dumps, succeeds_map, succeeds_collect, isRenderable,
        succeeds_dumpsItems style items]
  | .tuple items => by
      rw [dumps, succeeds_map, succeeds_collect, isRenderable,
        succeeds_dumpsItems style items]
  | .dict entries => by
      rw [dumps, succeeds_map, succeeds_collect, isRenderable,
        ← succeeds_dumpsEntries style entries, List.forall_mem_map]
      simp only [renderEntry, succeeds_map, List.mem_insertionSort]
  | .object typeName identity => by simp [dumps, Succeeds, isRenderable]

/-- The items are rendered exactly when the list is renderable. -/
theorem succeeds_dumpsItems (style : JsonStyle) :
    ∀ items : List PyValue,
      (∀ x ∈ dumpsItems style items, Succeeds x) ↔ isRenderableItems items = true
  | [] => by simp [dumpsItems, isRenderableItems]
  | v :: vs => by
      simp only [dumpsItems, isRenderableItems, List.forall_mem_cons, Bool.and_eq_true,
        succeeds_dumps style v, succeeds_dumpsItems style vs]

/-- The entries are rendered exactly when the mapping is. -/
theorem succeeds_dumpsEntries (style : JsonStyle) :
    ∀ entries : PyDict,
      (∀ e ∈ dumpsEntries style entries, Succeeds e.2) ↔
        isRenderableEntries entries = true
  | [] => by simp [dumpsEntries, isRenderableEntries]
  | (k, v) :: es => by
      simp only [dumpsEntries, isRenderableEntries, List.forall_mem_cons,
        Bool.and_eq_true, succeeds_dumps style v, succeeds_dumpsEntries style es]

end

end PyValue

end ControlPlaneKit.Library
