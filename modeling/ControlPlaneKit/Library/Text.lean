import Mathlib.Data.List.Basic
import Mathlib.Order.Basic

/-!
# Text — the host language's text predicates

Identities are plain text here, and two tests decide which texts are
identities: "nonblank", i.e. `str.strip()` leaves something, and a bounded
ASCII grammar.  Both are read straight off the character list, so that the
kernel can run them on literals.
-/

namespace ControlPlaneKit.Library.Text

/-- Whitespace as `str.strip()` understands it: the ASCII controls, the four
information separators, NEL, and the Unicode space separators. -/
def isSpace (c : Char) : Bool :=
  let n := c.toNat
  (9 ≤ n && n ≤ 13) || (28 ≤ n && n ≤ 32) || n = 0x85 || n = 0xa0 ||
    n = 0x1680 || (0x2000 ≤ n && n ≤ 0x200a) || n = 0x2028 || n = 0x2029 ||
    n = 0x202f || n = 0x205f || n = 0x3000

/-- `not value.strip()`: nothing is left once the whitespace is taken off. -/
def isBlank (s : String) : Bool :=
  s.toList.all isSpace

/-- One non-space character anywhere keeps a text from being blank. -/
theorem isBlank_eq_false_of_mem {s : String} {c : Char} (hc : c ∈ s.toList)
    (h : isSpace c = false) : isBlank s = false := by
  rw [isBlank, List.all_eq_false]
  exact ⟨c, hc, by simp [h]⟩

/-- A check of every member of a list, run along the list. -/
theorem forall_mem_of_all {α : Type} {p : α → Prop} [DecidablePred p] {values : List α}
    (h : (values.all fun a => decide (p a)) = true) : ∀ a ∈ values, p a := by
  simpa using h

/-! ## The canonical identity grammar `[A-Za-z0-9][A-Za-z0-9._:-]{0,199}` -/

def isAsciiAlnum (c : Char) : Bool :=
  let n := c.toNat
  (48 ≤ n && n ≤ 57) || (65 ≤ n && n ≤ 90) || (97 ≤ n && n ≤ 122)

def isIdentityTail (c : Char) : Bool :=
  isAsciiAlnum c || c = '.' || c = '_' || c = ':' || c = '-'

/-- The list form of the grammar: one alphanumeric head, then at most `199`
tail characters. -/
def isIdentityChars : List Char → Bool
  | [] => false
  | c :: cs => isAsciiAlnum c && cs.all isIdentityTail && decide (cs.length ≤ 199)

/-- `re.fullmatch(r"[A-Za-z0-9][A-Za-z0-9._:-]{0,199}\Z", value)`. -/
def isCanonicalIdentity (s : String) : Bool :=
  isIdentityChars s.toList

theorem isSpace_eq_false_of_alnum {c : Char} (h : isAsciiAlnum c = true) :
    isSpace c = false := by
  simp only [isAsciiAlnum, isSpace, Bool.or_eq_true, Bool.and_eq_true,
    decide_eq_true_eq, Bool.or_eq_false_iff, Bool.and_eq_false_iff,
    decide_eq_false_iff_not] at *
  omega

/-- A canonical identity is never blank: its head is alphanumeric. -/
theorem isBlank_of_canonical {s : String} (h : isCanonicalIdentity s = true) :
    isBlank s = false := by
  rw [isCanonicalIdentity] at h
  cases hs : s.toList with
  | nil => simp [hs, isIdentityChars] at h
  | cons c cs =>
      simp only [hs, isIdentityChars, Bool.and_eq_true] at h
      exact isBlank_eq_false_of_mem (c := c) (by simp [hs])
        (isSpace_eq_false_of_alnum h.1.1)

/-- Every character of a canonical identity may stand in its tail, and there are at most
two hundred. -/
theorem isCanonicalIdentity_chars {s : String} (h : isCanonicalIdentity s = true) :
    (∀ c ∈ s.toList, isIdentityTail c = true) ∧ s.length ≤ 200 := by
  rw [← String.length_toList]
  rw [isCanonicalIdentity] at h
  cases hs : s.toList with
  | nil => simp [hs, isIdentityChars] at h
  | cons c cs =>
      simp only [hs, isIdentityChars, Bool.and_eq_true, List.all_eq_true,
        decide_eq_true_eq] at h
      obtain ⟨⟨hhead, htail⟩, hlength⟩ := h
      refine ⟨fun d hd => ?_, by rw [List.length_cons]; omega⟩
      rcases List.mem_cons.mp hd with rfl | hd
      · simp [isIdentityTail, hhead]
      · exact htail d hd

/-- Gluing tail characters to a canonical identity keeps it canonical while
the two hundred character budget lasts. -/
theorem isIdentityChars_append {cs ds : List Char} (h : isIdentityChars cs = true)
    (hd : ds.all isIdentityTail = true) (hlen : cs.length + ds.length ≤ 200) :
    isIdentityChars (cs ++ ds) = true := by
  cases cs with
  | nil => simp [isIdentityChars] at h
  | cons c cs =>
      simp only [isIdentityChars, Bool.and_eq_true, decide_eq_true_eq,
        List.cons_append, List.all_append, List.length_append,
        List.length_cons] at *
      exact ⟨⟨h.1.1, h.1.2, hd⟩, by omega⟩

/-! ## The reference grammar `[a-z][a-z0-9._-]{0,127}` -/

def isAsciiLower (c : Char) : Bool :=
  97 ≤ c.toNat && c.toNat ≤ 122

def isReferenceTail (c : Char) : Bool :=
  isAsciiLower c || (48 ≤ c.toNat && c.toNat ≤ 57) || c = '.' || c = '_' || c = '-'

/-- `re.fullmatch(r"[a-z][a-z0-9._-]{0,127}", value)`. -/
def isReference (s : String) : Bool :=
  match s.toList with
  | [] => false
  | c :: cs => isAsciiLower c && cs.all isReferenceTail && decide (cs.length ≤ 127)

theorem isBlank_of_reference {s : String} (h : isReference s = true) :
    isBlank s = false := by
  rw [isReference] at h
  cases hs : s.toList with
  | nil => simp [hs] at h
  | cons c cs =>
      simp only [hs, Bool.and_eq_true] at h
      have halnum : isAsciiAlnum c = true := by
        have hlower := h.1.1
        simp only [isAsciiLower, isAsciiAlnum, Bool.and_eq_true, Bool.or_eq_true,
          decide_eq_true_eq] at *
        omega
      exact isBlank_eq_false_of_mem (c := c) (by simp [hs])
        (isSpace_eq_false_of_alnum halnum)

/-! ## Bytes -/

def utf8Char (c : Char) : List Nat :=
  let n := c.toNat
  if n < 0x80 then [n]
  else if n < 0x800 then [0xc0 + n >>> 6, 0x80 + n % 64]
  else if n < 0x10000 then [0xe0 + n >>> 12, 0x80 + n >>> 6 % 64, 0x80 + n % 64]
  else [0xf0 + n >>> 18, 0x80 + n >>> 12 % 64, 0x80 + n >>> 6 % 64, 0x80 + n % 64]

/-- `value.encode("utf-8")`. -/
def utf8 (cs : List Char) : List Nat := cs.flatMap utf8Char

/-! ## Pieces of a text -/

/-- A piece that avoids a character lies on one side of it. -/
theorem infix_around {α : Type} {piece front back : List α} {x : α} (hx : x ∉ piece)
    (h : piece <:+: front ++ x :: back) : piece <:+: front ∨ piece <:+: back := by
  induction front with
  | nil =>
      rcases List.infix_cons_iff.mp h with hprefix | hinfix
      · cases piece with
        | nil => exact .inl List.nil_infix
        | cons y rest =>
            rw [List.cons_prefix_cons.mp hprefix |>.1] at hx
            simp at hx
      · exact .inr hinfix
  | cons y rest ih =>
      rcases List.infix_cons_iff.mp h with hprefix | hinfix
      · have hfront : (y :: rest) ++ [x] <+: y :: (rest ++ x :: back) := ⟨back, by simp⟩
        rcases List.prefix_or_prefix_of_prefix hprefix hfront with hle | hle
        · rcases List.prefix_concat_iff.mp hle with rfl | hle
          · simp at hx
          · exact .inl hle.isInfix
        · exact absurd (hle.subset (by simp)) hx
      · exact (ih hinfix).imp_left fun h => h.trans (List.suffix_cons y rest).isInfix

end ControlPlaneKit.Library.Text
