import ControlPlaneKit.NodeControl.PublicWireLaws

/-!
# PublicPatterns — texts in which the search finds nothing by their characters alone

Most patterns of the public wire need a character that identifiers do not have: a
blank, an equals sign, a slash.  Over identifiers joined by colons they find nothing.
The one credential an identifier could spell, a compact token, holds no colon, so it
is found in the joined text just when it is found in one of the parts.
-/

namespace ControlPlaneKit.NodeControl

open ControlPlaneKit.Library (PyError)
open ControlPlaneKit.Library.Text (isAsciiAlnum isSpace)

/-! ## What a match consumes -/

/-- What is left after repetitions is a suffix. -/
theorem suffix_of_leftAfterMany {left : List Char → List (List Char)}
    (hleft : ∀ text, ∀ rest ∈ left text, rest <:+ text) (limit : Nat)
    (text : List Char) : ∀ rest ∈ leftAfterMany left limit text, rest <:+ text := by
  induction limit generalizing text with
  | zero =>
      intro rest hrest
      rw [leftAfterMany, List.mem_singleton] at hrest
      exact hrest ▸ List.suffix_refl _
  | succ limit ih =>
      intro rest hrest
      rw [leftAfterMany, List.mem_append, List.mem_flatMap, List.mem_singleton] at hrest
      rcases hrest with ⟨middle, hmiddle, hrest⟩ | rfl
      · exact (ih middle rest hrest).trans
          (hleft text middle (List.mem_filter.mp hmiddle).1)
      · exact List.suffix_refl _

/-- A match takes characters from the start. -/
theorem Pattern.suffix_of_left (pattern : Pattern) (text : List Char) :
    ∀ rest ∈ pattern.left text, rest <:+ text := by
  induction pattern generalizing text with
  | chars allowed =>
      intro rest hrest
      cases text with
      | nil => exact absurd hrest List.not_mem_nil
      | cons c text =>
          rw [Pattern.left] at hrest
          split at hrest
          · rw [List.mem_singleton] at hrest
            exact hrest ▸ List.suffix_cons c text
          · exact absurd hrest List.not_mem_nil
  | seq first second ihFirst ihSecond =>
      intro rest hrest
      rw [Pattern.left, List.mem_flatMap] at hrest
      obtain ⟨middle, hmiddle, hrest⟩ := hrest
      exact (ihSecond middle rest hrest).trans (ihFirst text middle hmiddle)
  | either left right ihLeft ihRight =>
      intro rest hrest
      rw [Pattern.left, List.mem_append] at hrest
      exact hrest.elim (ihLeft text rest) (ihRight text rest)
  | many body ih => exact suffix_of_leftAfterMany ih text.length text

/-- Every match takes a character that is not allowed to stand in the text. -/
def Pattern.Needs (part : Char → Bool) : Pattern → Prop
  | .chars allowed => ∀ c, allowed c = true → part c = false
  | .seq first second => first.Needs part ∨ second.Needs part
  | .either left right => left.Needs part ∧ right.Needs part
  | .many _ => False

/-- A pattern that needs a character matches nowhere in a text of others. -/
theorem Pattern.Needs.left {part : Char → Bool} {pattern : Pattern}
    (h : pattern.Needs part) {text : List Char} (htext : ∀ c ∈ text, part c = true) :
    pattern.left text = [] := by
  induction pattern generalizing text with
  | chars allowed =>
      cases text with
      | nil => rfl
      | cons c text =>
          have hbarred : allowed c ≠ true := fun hallowed => by
            have := htext c (List.mem_cons_self ..)
            rw [h c hallowed] at this
            cases this
          rw [Pattern.left, if_neg hbarred]
  | seq first second ihFirst ihSecond =>
      rw [Pattern.left, List.flatMap_eq_nil_iff]
      intro middle hmiddle
      rcases h with h | h
      · rw [ihFirst h htext] at hmiddle
        exact absurd hmiddle List.not_mem_nil
      · exact ihSecond h fun c hc =>
          htext c ((first.suffix_of_left text middle hmiddle).subset hc)
  | either left right ihLeft ihRight =>
      rw [Pattern.left, ihLeft h.1 htext, ihRight h.2 htext, List.append_nil]
  | many body ih => exact h.elim

/-- So it is not found in one. -/
theorem Pattern.Needs.search {part : Char → Bool} {pattern : Pattern}
    (h : pattern.Needs part) {before : Option Char → Bool} {previous : Option Char}
    {text : List Char} (htext : ∀ c ∈ text, part c = true) :
    pattern.search before previous text = false := by
  induction text generalizing previous with
  | nil =>
      rw [Pattern.search, h.left htext, List.isEmpty_nil, Bool.not_true, Bool.and_false]
  | cons c text ih =>
      rw [Pattern.search, h.left htext, ih fun d hd => htext d (List.mem_cons_of_mem
        _ hd), List.isEmpty_nil, Bool.not_true, Bool.and_false, Bool.or_false]

/-! ## Matches on either side of a character -/

/-- No match takes the separator. -/
def Pattern.Avoids (separator : Char) : Pattern → Prop
  | .chars allowed => allowed separator = false
  | .seq first second => first.Avoids separator ∧ second.Avoids separator
  | .either left right => left.Avoids separator ∧ right.Avoids separator
  | .many _ => False

/-- A pattern that avoids a separator matches before it as if nothing followed. -/
theorem Pattern.Avoids.left {separator : Char} {pattern : Pattern}
    (h : pattern.Avoids separator) (text rest : List Char) :
    pattern.left (text ++ separator :: rest) =
      (pattern.left text).map (· ++ separator :: rest) := by
  induction pattern generalizing text with
  | chars allowed =>
      cases text with
      | nil =>
          have hbarred : allowed separator = false := h
          simp [Pattern.left, hbarred]
      | cons c text =>
          simp only [List.cons_append, Pattern.left]
          split <;> rfl
  | seq first second ihFirst ihSecond =>
      simp only [Pattern.left, ihFirst h.1, List.flatMap_map,
        List.map_flatMap, ihSecond h.2]
  | either left right ihLeft ihRight =>
      simp only [Pattern.left, ihLeft h.1, ihRight h.2, List.map_append]
  | many body ih => exact h.elim

/-- A search that may begin after the separator as it may begin at the start finds in
the joined text what it finds in the parts. -/
theorem Pattern.Avoids.search {separator : Char} {pattern : Pattern}
    (h : pattern.Avoids separator) {before : Option Char → Bool}
    (hbefore : before (some separator) = before none) (text rest : List Char) :
    pattern.search before none (text ++ separator :: rest) =
      (pattern.search before none text || pattern.search before none rest) := by
  have hstart : pattern.search before (some separator) rest =
      pattern.search before none rest := by
    cases rest <;> simp only [Pattern.search, hbefore]
  suffices ∀ previous, pattern.search before previous (text ++ separator :: rest) =
      (pattern.search before previous text || pattern.search before none rest)
        from this none
  induction text with
  | nil =>
      intro previous
      rw [List.nil_append, Pattern.search, Pattern.search,
        hstart, ← List.nil_append (separator :: rest), h.left, List.isEmpty_map]
  | cons c text ih =>
      intro previous
      rw [List.cons_append, Pattern.search, Pattern.search, ih, ← List.cons_append,
        h.left, List.isEmpty_map, Bool.or_assoc]

/-! ## Identifiers joined by colons -/

/-- A character of an identifier, or the colon between two. -/
def isNamePart (c : Char) : Bool := isIdentifierTail c || c = ':'

theorem foldCase_of_not_upper {c : Char} (h : c.toNat < 128)
    (hupper : ¬ (65 ≤ c.toNat ∧ c.toNat ≤ 90)) : foldCase c = c := by
  simp only [foldCase, Bool.and_eq_true, decide_eq_true_eq, if_neg hupper]
  rw [if_neg (by simp; omega), if_neg (by omega), if_neg (by omega)]

theorem ascii_of_namePart {c : Char} (h : isNamePart c = true) : c.toNat < 128 := by
  refine ascii_of_referencePart ?_
  rw [isNamePart, Bool.or_eq_true] at h
  rw [isReferencePart, Bool.or_eq_true, Bool.or_eq_true]
  exact .inl h

/-- Letters and digits are parts of names. -/
theorem namePart_of_alnum {c : Char} (h : isAsciiAlnum c = true) :
    isNamePart c = true := by
  simp [isNamePart, isIdentifierTail, h]

/-- Whatever its case, a name is compared by characters of names. -/
theorem namePart_foldCase {c : Char} (h : isNamePart c = true) :
    isNamePart (foldCase c) = true := by
  by_cases hupper : 65 ≤ c.toNat ∧ c.toNat ≤ 90
  · refine namePart_of_alnum ?_
    have hfold : foldCase c = Char.ofNat (c.toNat + 32) := by
      simp only [foldCase, Bool.and_eq_true, decide_eq_true_eq, if_pos hupper]
    rw [hfold, isAsciiAlnum, toNat_ofNat_ascii (by omega)]
    simp only [Bool.or_eq_true, Bool.and_eq_true, decide_eq_true_eq]
    omega
  · rw [foldCase_of_not_upper (ascii_of_namePart h) hupper]
    exact h

/-- A sequence needs what one of its parts does. -/
theorem needs_sequence {part : Char → Bool} {patterns : List Pattern}
    (pattern : Pattern) (hmem : pattern ∈ patterns) (h : pattern.Needs part) :
    (sequence patterns).Needs part := by
  induction patterns with
  | nil => exact absurd hmem List.not_mem_nil
  | cons first rest ih =>
      cases rest with
      | nil => rwa [List.mem_singleton.mp hmem] at h
      | cons second rest =>
          rcases List.mem_cons.mp hmem with rfl | hmem
          · exact .inl h
          · exact .inr (ih hmem)

/-- A class without characters of names needs one that stands in no name. -/
theorem needs_oneOf {allowed : Char → Bool}
    (h : ∀ c, isNamePart c = true → allowed c = false) :
    (oneOf allowed).Needs isNamePart := by
  intro c hallowed
  by_contra hpart
  have hfold := h (foldCase c) (namePart_foldCase (by simpa using hpart))
  exact absurd (hfold.symm.trans hallowed) (by decide)

/-- A word with a character that no name has needs it. -/
theorem needs_word (text : String) (c : Char) (hmem : c ∈ text.toList)
    (h : isNamePart c = false) : (word text).Needs isNamePart := by
  refine needs_sequence _ (List.mem_map_of_mem hmem) ?_
  intro d hallowed
  by_contra hpart
  have hfold := namePart_foldCase (c := d) (by simpa using hpart)
  rw [eq_of_beq hallowed, h] at hfold
  cases hfold

theorem needs_blankOrTab : (oneOf isBlankOrTab).Needs isNamePart := by
  refine needs_oneOf fun c hc => ?_
  by_contra hblank
  simp only [isBlankOrTab, Bool.not_eq_false, Bool.or_eq_true,
    decide_eq_true_eq] at hblank
  rcases hblank with rfl | rfl <;> exact absurd hc (by decide)

theorem needs_authorizationEnvelope : authorizationEnvelope.Needs isNamePart :=
  .inl ⟨needs_sequence (oneOf isBlankOrTab)
      (.tail _ (.tail _ (.tail _ (.tail _ (.tail _ (.tail _ (.head _)))))))
      needs_blankOrTab,
    needs_sequence (oneOf isBlankOrTab) (.tail _ (.head _)) needs_blankOrTab⟩

theorem needs_credentialAssignment : credentialAssignment.Needs isNamePart :=
  needs_sequence (word "=") (.tail _ (.tail _ (.head _)))
    (needs_word "=" '=' (by decide) (by decide))

theorem needs_privateKeyArmor : privateKeyArmor.Needs isNamePart :=
  needs_sequence (word " private key-----") (.tail _ (.tail _ (.head _)))
    (needs_word " private key-----" ' ' (by decide) (by decide))

theorem needs_schemeEndpoint : schemeEndpoint.Needs isNamePart :=
  needs_sequence (word "://") (.tail _ (.tail _ (.head _)))
    (needs_word "://" '/' (by decide) (by decide))

theorem needs_protocolRelativeEndpoint : protocolRelativeEndpoint.Needs isNamePart :=
  needs_sequence (word "//") (.head _) (needs_word "//" '/' (by decide) (by decide))

/-- Compact tokens stop at a colon. -/
theorem avoids_compactToken : compactToken.Avoids ':' := by
  simp [compactToken, word, sequence, oneOf, Pattern.Avoids, foldCase, isAsciiAlnum]

/-- In names joined by colons the search for credentials finds what it finds in the
names. -/
theorem containsCredentialEnvelope_names {text : List Char}
    (h : ∀ c ∈ text, isNamePart c = true) :
    containsCredentialEnvelope text =
      compactToken.search (notAfter isAsciiAlnum) none text := by
  rw [containsCredentialEnvelope, needs_authorizationEnvelope.search h,
    needs_credentialAssignment.search h, needs_privateKeyArmor.search h]
  rfl

/-- **A token is found on one side of a colon or on the other.** -/
theorem compactToken_join (text rest : List Char) :
    compactToken.search (notAfter isAsciiAlnum) none (text ++ ':' :: rest) =
      (compactToken.search (notAfter isAsciiAlnum) none text ||
        compactToken.search (notAfter isAsciiAlnum) none rest) :=
  avoids_compactToken.search (by decide) text rest

/-- Names hold no escape. -/
theorem percentProjection_names {text : List Char}
    (h : ∀ c ∈ text, isNamePart c = true) : percentProjection 0 text = text := by
  induction text with
  | nil => rfl
  | cons c text ih =>
      have hc : c ≠ '%' := by
        rintro rfl
        exact absurd (h '%' (List.mem_cons_self ..)) (by decide)
      have htail := ih fun d hd => h d (List.mem_cons_of_mem _ hd)
      rw [percentProjection, htail]
      exact fun high low tail hpercent => absurd hpercent hc

/-- No part of a name separates tokens. -/
theorem separator_names {c : Char} (h : isNamePart c = true) :
    isTokenSeparator c = false := by
  have hspace : isSpace c = false := by
    simp only [isNamePart, isIdentifierTail, Bool.or_eq_true, decide_eq_true_eq] at h
    rcases h with (((h | rfl) | rfl) | rfl) | rfl
    · exact Library.Text.isSpace_eq_false_of_alnum h
    all_goals decide
  rw [isTokenSeparator, hspace, Bool.false_or]
  by_contra hcontains
  rw [Bool.not_eq_false, List.contains_iff_mem] at hcontains
  have hbarred : ∀ d ∈ ",;()\x7b\x7d<>\"'".toList, isNamePart d = false :=
    Library.Text.forall_mem_of_all (by decide)
  rw [hbarred c hcontains] at h
  cases h

/-- Names are one token. -/
theorem tokens_names {text : List Char} (h : ∀ c ∈ text, isNamePart c = true) :
    text.splitOnP isTokenSeparator = [text] :=
  List.splitOnP_eq_singleton fun c hc => separator_names (h c hc)

end ControlPlaneKit.NodeControl
