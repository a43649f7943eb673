import ControlPlaneKit.Library.PyValue
import Std.Data.String.ToNat

/-!
# QuotedText — what a quoted text and a decimal determine

A text quoted for JSON ends where its closing quote stands, and a decimal where
its digits do: read from the front, each gives back its value and the rest.  Any
text at all gives back itself and the rest when a name follows it that does not
come again.
-/

namespace ControlPlaneKit.Library.QuotedText

open ControlPlaneKit.Library.PyValue (hex4 escapeChar quoted)

/-! ## Reading one escape -/

/-- The value of a lower-case hexadecimal digit. -/
def hexValue (c : Char) : Nat := if c.toNat < 58 then c.toNat - 48 else c.toNat - 87

/-- A digit has the value it was written for. -/
theorem hexValue_digitChar : ∀ n < 16, hexValue (Nat.digitChar n) = n := by decide

def hex4Value (a b c d : Char) : Nat :=
  hexValue a * 4096 + hexValue b * 256 + hexValue c * 16 + hexValue d

/-- Four digits have the value they were written for, below 65536. -/
theorem hex4_eq (n : Nat) : ∃ a b c d, hex4 n = [a, b, c, d] ∧
    (n < 65536 → hex4Value a b c d = n) := by
  refine ⟨_, _, _, _, rfl, fun h => ?_⟩
  simp only [hex4Value, hexValue_digitChar _ (Nat.mod_lt _ (by omega)),
    Nat.shiftRight_eq_div_pow]
  omega

/-- The code point an escape stands for, and what follows it. -/
def unescape : List Char → Option (Nat × List Char)
  | '\\' :: 'u' :: a :: b :: c :: d :: rest =>
      let high := hex4Value a b c d
      if 0xd800 ≤ high ∧ high < 0xdc00 then
        match rest with
        | '\\' :: 'u' :: a :: b :: c :: d :: rest =>
            some (0x10000 + (high - 0xd800) * 1024 + (hex4Value a b c d - 0xdc00), rest)
        | _ => none
      else some (high, rest)
  | '\\' :: 'n' :: rest => some (10, rest)
  | '\\' :: 'r' :: rest => some (13, rest)
  | '\\' :: 't' :: rest => some (9, rest)
  | '\\' :: 'b' :: rest => some (8, rest)
  | '\\' :: 'f' :: rest => some (12, rest)
  | '\\' :: c :: rest => some (c.toNat, rest)
  | c :: rest => some (c.toNat, rest)
  | [] => none

/-- A character that is no escape stands for itself. -/
theorem unescape_plain {c : Char} (h : c ≠ '\\') (rest : List Char) :
    unescape (c :: rest) = some (c.toNat, rest) := by
  unfold unescape
  split <;> simp_all

/-- A character outside the surrogates, in the basic plane. -/
theorem unescape_basic {n : Nat} (hn : n < 0x10000)
    (hsurrogate : n < 0xd800 ∨ 0xdfff < n) (rest : List Char) :
    unescape ('\\' :: 'u' :: hex4 n ++ rest) = some (n, rest) := by
  obtain ⟨a, b, c, d, hhex, hvalue⟩ := hex4_eq n
  simp only [hhex, List.cons_append, List.nil_append, unescape, hvalue hn]
  rw [if_neg (by omega)]

/-- A surrogate pair stands for its code point. -/
theorem unescape_pair {n : Nat} (hn : 0x10000 ≤ n) (hlt : n < 0x110000)
    (rest : List Char) :
    unescape (('\\' :: 'u' :: hex4 (0xd800 + (n - 0x10000) >>> 10) ++
      '\\' :: 'u' :: hex4 (0xdc00 + (n - 0x10000) % 1024)) ++ rest) =
        some (n, rest) := by
  have hshift : (n - 0x10000) >>> 10 = (n - 0x10000) / 1024 :=
    Nat.shiftRight_eq_div_pow ..
  obtain ⟨a, b, c, d, hhigh, hhighValue⟩ := hex4_eq (0xd800 + (n - 0x10000) >>> 10)
  obtain ⟨a', b', c', d', hlow, hlowValue⟩ := hex4_eq (0xdc00 + (n - 0x10000) % 1024)
  rw [hhigh, hlow]
  simp only [List.cons_append, List.nil_append, unescape, hhighValue (by omega),
    hlowValue (by omega)]
  rw [if_pos (by omega)]
  have hcode : 0x10000 + (0xd800 + (n - 0x10000) >>> 10 - 0xd800) * 1024 +
      (0xdc00 + (n - 0x10000) % 1024 - 0xdc00) = n := by omega
  rw [hcode]

/-- **An escape is read back**, whatever follows it. -/
theorem unescape_escapeChar (c : Char) (rest : List Char) :
    unescape (escapeChar c ++ rest) = some (c.toNat, rest) := by
  have hvalid := c.valid
  have hcode : c.val.toNat = c.toNat := rfl
  rw [UInt32.isValidChar, hcode, Nat.isValidChar] at hvalid
  simp only [escapeChar]
  split
  · next h => subst h; rfl
  split
  · next h => subst h; rfl
  split
  · next h => simp [unescape, h]
  split
  · next h => simp [unescape, h]
  split
  · next h => simp [unescape, h]
  split
  · next h => simp [unescape, h]
  split
  · next h => simp [unescape, h]
  split
  · next hslash _ _ _ _ _ _ => exact unescape_plain hslash rest
  split
  · next h => exact unescape_basic h (by omega) rest
  · next h => exact unescape_pair (by omega) (by omega) rest

/-- An escape starts with no quote. -/
theorem escapeChar_eq_cons (c : Char) :
    ∃ head tail, escapeChar c = head :: tail ∧ head ≠ '"' := by
  simp only [escapeChar]
  split
  · exact ⟨_, _, rfl, by decide⟩
  · next hquote =>
      repeat' split
      all_goals exact ⟨_, _, rfl, by first | decide | exact hquote⟩

/-! ## Texts and decimals in front of a rest -/

/-- **Up to the closing quote a text is determined**, and the rest with it. -/
theorem flatMap_escapeChar_inj : ∀ {s t rest rest' : List Char},
    s.flatMap escapeChar ++ '"' :: rest = t.flatMap escapeChar ++ '"' :: rest' →
      s = t ∧ rest = rest'
  | [], [], _, _, h => ⟨rfl, by simpa using h⟩
  | [], d :: t, _, _, h => by
      obtain ⟨head, tail, hd, hne⟩ := escapeChar_eq_cons d
      rw [List.flatMap_cons, hd] at h
      simp only [List.flatMap_nil, List.nil_append, List.cons_append,
        List.cons.injEq] at h
      exact absurd h.1.symm hne
  | c :: s, [], _, _, h => by
      obtain ⟨head, tail, hc, hne⟩ := escapeChar_eq_cons c
      rw [List.flatMap_cons, hc] at h
      simp only [List.flatMap_nil, List.nil_append, List.cons_append,
        List.cons.injEq] at h
      exact absurd h.1 hne
  | c :: s, d :: t, rest, rest', h => by
      rw [List.flatMap_cons, List.flatMap_cons, List.append_assoc,
        List.append_assoc] at h
      have hread := congrArg unescape h
      rw [unescape_escapeChar, unescape_escapeChar, Option.some.injEq,
        Prod.mk.injEq] at hread
      obtain ⟨rfl, hrest⟩ := flatMap_escapeChar_inj hread.2
      exact ⟨by rw [Char.toNat_inj.mp hread.1], hrest⟩

/-- **A quoted text is a prefix of its own**: it fixes the text and the rest. -/
theorem quoted_append_inj {s t : String} {rest rest' : List Char}
    (h : quoted s ++ rest = quoted t ++ rest') : s = t ∧ rest = rest' := by
  simp only [quoted, List.cons_append, List.append_assoc, List.nil_append,
    List.cons.injEq, true_and] at h
  obtain ⟨htext, hrest⟩ := flatMap_escapeChar_inj h
  exact ⟨String.toList_inj.mp htext, hrest⟩

/-- Digits end at the first character that is none. -/
theorem digits_append_inj {m n : Nat} {c c' : Char} {rest rest' : List Char}
    (hc : c.isDigit = false) (hc' : c'.isDigit = false)
    (h : (toString m).toList ++ c :: rest = (toString n).toList ++ c' :: rest') :
    m = n ∧ c :: rest = c' :: rest' := by
  have hdigits (k : Nat) : ∀ d ∈ (toString k).toList, d.isDigit = true := by
    intro d hd
    rw [show toString k = Nat.repr k from rfl, Nat.toList_repr] at hd
    exact Nat.isDigit_of_mem_toDigits (by omega) (by omega) hd
  have htake (k : Nat) (d : Char) (tail : List Char) (hd : d.isDigit = false) :
      ((toString k).toList ++ d :: tail).takeWhile Char.isDigit =
        (toString k).toList := by
    rw [List.takeWhile_append_of_pos (hdigits k),
      List.takeWhile_cons_of_neg (by simp [hd]), List.append_nil]
  have htext : (toString m).toList = (toString n).toList := by
    rw [← htake m c rest hc, ← htake n c' rest' hc', h]
  refine ⟨Nat.repr_inj.mp (String.toList_inj.mp htext), ?_⟩
  rw [htext] at h
  exact List.append_cancel_left h

/-! ## The last name of its letter

A comma before a quote stands in a quoted text only where the text ends. -/

/-- A comma, a quote and the letter stand somewhere in the text. -/
def hasMark (letter : Char) : List Char → Bool
  | ',' :: '"' :: c :: rest => c == letter || hasMark letter ('"' :: c :: rest)
  | _ :: rest => hasMark letter rest
  | [] => false

variable {letter c d : Char} {rest : List Char}

theorem hasMark_cons (h : c ≠ ',') :
    hasMark letter (c :: rest) = hasMark letter rest := by
  rw [hasMark]
  intro d rest' hc
  exact absurd hc h

theorem hasMark_comma (h : rest.head? ≠ some '"') :
    hasMark letter (',' :: rest) = hasMark letter rest := by
  rw [hasMark]
  rintro d rest' - rfl
  exact h rfl

theorem hasMark_quote : hasMark letter (',' :: '"' :: c :: rest) =
    (c == letter || hasMark letter (c :: rest)) := by
  rw [hasMark, hasMark_cons (by decide)]

/-- A text without commas has no mark. -/
theorem hasMark_append {text : List Char} (h : ',' ∉ text) :
    hasMark letter (text ++ rest) = hasMark letter rest := by
  induction text with
  | nil => rfl
  | cons c text ih =>
      rw [List.mem_cons, not_or] at h
      rw [List.cons_append, hasMark_cons (Ne.symm h.1), ih h.2]

/-- Only a comma is escaped with one. -/
theorem comma_of_escapeChar (h : ',' ∈ escapeChar c) : c = ',' := by
  have hhex : ∀ n, ',' ∉ hex4 n := by
    intro n hmem
    have hdigits : ∀ k < 16, ',' ≠ Nat.digitChar k := by decide
    obtain ⟨digit, hdigit, hcomma⟩ := List.mem_map.mp hmem
    exact hdigits _ (Nat.mod_lt _ (by decide)) hcomma.symm
  simp only [escapeChar] at h
  split_ifs at h
  all_goals simp only [List.mem_cons, List.mem_append, List.not_mem_nil, hhex, or_false,
    Char.reduceEq] at h
  exact h.symm

/-- **A quoted text has no mark inside**, nor one that begins at its end. -/
theorem hasMark_quoted (hd : d ≠ letter) : ∀ s : List Char,
    hasMark letter (s.flatMap escapeChar ++ '"' :: d :: rest) =
      hasMark letter (d :: rest)
  | [] => hasMark_cons (by decide)
  | c :: s => by
      have ih := hasMark_quoted hd s
      rw [List.flatMap_cons, List.append_assoc]
      by_cases hc : c = ','
      · obtain rfl := hc
        rw [show escapeChar ',' = [','] from rfl, List.singleton_append, ← ih]
        cases s with
        | nil =>
            rw [List.flatMap_nil, List.nil_append, hasMark_quote, beq_false_of_ne hd,
              Bool.false_or]
            exact (hasMark_cons (by decide)).symm
        | cons e s =>
            obtain ⟨head, tail, he, hne⟩ := escapeChar_eq_cons e
            rw [hasMark_comma]
            rw [List.flatMap_cons, he]
            simpa using hne
      · rw [hasMark_append fun h => hc (comma_of_escapeChar h), ih]

/-- What has a mark has it after the quoted text. -/
theorem hasMark_text {letter d : Char} (hd : d ≠ letter) (s : String)
    (rest : List Char) :
    hasMark letter (quoted s ++ d :: rest) = hasMark letter (d :: rest) := by
  rw [quoted, List.append_assoc, List.cons_append, hasMark_cons (by decide),
    List.singleton_append, hasMark_quoted hd]

theorem hasMark_of_rest (h : hasMark letter rest = true) :
    hasMark letter (c :: rest) = true := by
  unfold hasMark
  split <;> simp_all

/-- A mark is found behind any text. -/
theorem hasMark_suffix (text : List Char) :
    hasMark letter (text ++ ',' :: '"' :: letter :: rest) = true := by
  induction text with
  | nil => rw [List.nil_append, hasMark_quote, beq_self_eq_true, Bool.true_or]
  | cons c text ih => exact hasMark_of_rest ih

/-- **A text ends where its last mark stands.** -/
theorem mark_append_inj {text text' rest' : List Char}
    (hrest : hasMark letter ('"' :: letter :: rest) = false)
    (hrest' : hasMark letter ('"' :: letter :: rest') = false)
    (h : text ++ ',' :: '"' :: letter :: rest =
      text' ++ ',' :: '"' :: letter :: rest') :
    text = text' ∧ rest = rest' := by
  have hlate : ∀ {between late early : List Char},
      hasMark letter ('"' :: letter :: early) = false →
      ',' :: '"' :: letter :: early = between ++ ',' :: '"' :: letter :: late →
        between = [] ∧ early = late := by
    intro between late early hearly heq
    cases between with
    | nil => exact ⟨rfl, by simpa using heq⟩
    | cons c between =>
        rw [List.cons_append, List.cons.injEq] at heq
        rw [heq.2, hasMark_suffix] at hearly
        cases hearly
  rcases List.append_eq_append_iff.mp h with ⟨between, rfl, heq⟩ | ⟨between, rfl, heq⟩
  · obtain ⟨rfl, hsame⟩ := hlate hrest heq
    exact ⟨(List.append_nil _).symm, hsame⟩
  · obtain ⟨rfl, hsame⟩ := hlate hrest' heq
    exact ⟨List.append_nil _, hsame.symm⟩

end ControlPlaneKit.Library.QuotedText
