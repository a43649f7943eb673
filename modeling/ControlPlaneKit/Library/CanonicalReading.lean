import ControlPlaneKit.Library.CanonicalText

/-!
# CanonicalReading — canonical JSON is read back

The bytes of a canonical text are decoded to its characters, and the characters are
scanned as the value they were written from: a text ends at its quote, a number where
its digits end, a list and a dictionary at their brackets.  What follows a value is a
comma or a closing bracket, and the limit of the scanner is twice the length.
-/

namespace ControlPlaneKit.Library.CanonicalReading

open ControlPlaneKit.Library.AsciiJson (bracketed)
open ControlPlaneKit.Library.CanonicalText
  (canonicalBytes canonicalEntries canonicalEntries_eq
  canonicalItems_eq canonicalText encodable encodableEntries encodableItems escape
  keyUnits quoted
  renderEntry)
open ControlPlaneKit.Library.JsonText
  (charOf continuation decodeChar decodeChars decodeUtf8 denotes
  denotesEntries_iff denotesItems digits hexUnit intOfToken isDigit
  isInteroperable isJsonSpace
  joinSurrogates parse scanExponent scanFraction scanInteger scanItems
  scanNatural scanNumber
  scanPairs scanText scanUnits scanValue simpleEscape skipSpace)
open ControlPlaneKit.Library.PyValue (hex4 intText jsonEntries jsonItems jsonValue
  lookup_eq_some_of_mem maxStrDigits toDigits_head)
open ControlPlaneKit.Library.Text (utf8 utf8Char)

/-! ## UTF-8 -/

/-- Code points end before `0x110000`. -/
theorem toNat_lt (c : Char) : c.toNat < 0x110000 := by
  have hvalid : c.toNat < 0xd800 ∨ 0xdfff < c.toNat ∧ c.toNat < 0x110000 := c.valid
  omega

/-- The value of a character that is long enough is the character. -/
theorem charOf_toNat {c : Char} {least : Nat} (h : least ≤ c.toNat) (rest : List Nat) :
    charOf least (c.toNat, rest) = some (c, rest) := by
  have hvalid : c.toNat.isValidChar := c.valid
  simp [charOf, h, hvalid]

/-- One more continuation byte adds six bits. -/
theorem continuation_succ {count value b : Nat} {rest : List Nat} (hlow : 0x80 ≤ b)
    (hhigh : b ≤ 0xbf) :
    continuation (count + 1) value (b :: rest) =
      continuation count (value * 64 + (b - 0x80)) rest := by
  rw [continuation, if_pos (by simp [hlow, hhigh])]

/-- **A character is decoded from its bytes.** -/
theorem decodeChar_utf8Char (c : Char) (rest : List Nat) :
    decodeChar (utf8Char c ++ rest) = some (c, rest) := by
  have hbound : c.toNat < 0x110000 := toNat_lt c
  simp only [utf8Char, Nat.shiftRight_eq_div_pow]
  split_ifs with h1 h2 h3
  · simp only [List.cons_append, List.nil_append, decodeChar]
    rw [if_pos (by omega), Char.ofNat_toNat]
  · simp only [List.cons_append, List.nil_append, decodeChar]
    rw [if_neg (by omega), if_pos (by simp; omega),
      continuation_succ (by omega) (by omega), continuation, Option.bind_some]
    rw [show (0xc0 + c.toNat / 2 ^ 6 - 0xc0) * 64 + (0x80 + c.toNat % 64 - 0x80) =
      c.toNat by omega]
    exact charOf_toNat (by omega) rest
  · simp only [List.cons_append, List.nil_append, decodeChar]
    rw [if_neg (by omega), if_neg (by simp; omega), if_pos (by simp; omega),
      continuation_succ (by omega) (by omega), continuation_succ (by omega) (by omega),
      continuation, Option.bind_some]
    rw [show ((0xe0 + c.toNat / 2 ^ 12 - 0xe0) * 64 +
      (0x80 + c.toNat / 2 ^ 6 % 64 - 0x80)) * 64 +
      (0x80 + c.toNat % 64 - 0x80) = c.toNat by omega]
    exact charOf_toNat (by omega) rest
  · simp only [List.cons_append, List.nil_append, decodeChar]
    rw [if_neg (by omega), if_neg (by simp; omega), if_neg (by simp; omega),
      if_pos (by simp; omega), continuation_succ (by omega) (by omega),
      continuation_succ (by omega) (by omega), continuation_succ (by omega) (by omega),
      continuation, Option.bind_some]
    rw [show (((0xf0 + c.toNat / 2 ^ 18 - 0xf0) * 64 +
      (0x80 + c.toNat / 2 ^ 12 % 64 - 0x80)) * 64 +
      (0x80 + c.toNat / 2 ^ 6 % 64 - 0x80)) * 64 + (0x80 + c.toNat % 64 - 0x80) =
        c.toNat by omega]
    exact charOf_toNat (by omega) rest

/-- **UTF-8 is decoded to what it encodes**; by induction on the text. -/
theorem decodeChars_utf8 : ∀ (text : List Char) (limit : Nat), text.length ≤ limit →
    decodeChars limit (utf8 text) = some text
  | [], limit, _ => by cases limit <;> rfl
  | c :: rest, limit, h => by
      obtain ⟨limit, rfl⟩ := Nat.exists_eq_succ_of_ne_zero (Nat.ne_zero_of_lt h)
      have hbytes : utf8 (c :: rest) = utf8Char c ++ utf8 rest := rfl
      have hne : utf8Char c ++ utf8 rest ≠ [] := by
        simp only [utf8Char]
        split_ifs <;> simp
      rw [hbytes, decodeChars, decodeChar_utf8Char]
      · simp only [Option.bind_eq_bind, Option.bind_some,
          decodeChars_utf8 rest limit (Nat.le_of_succ_le_succ h)]
        rfl
      · exact hne

theorem utf8Char_lt {c : Char} {b : Nat} (h : b ∈ utf8Char c) : b < 256 := by
  have hbound : c.toNat < 0x110000 := toNat_lt c
  simp only [utf8Char, Nat.shiftRight_eq_div_pow] at h
  split_ifs at h <;> simp only [List.mem_cons, List.not_mem_nil,
    or_false] at h <;> omega

/-- Every character takes a byte at least. -/
theorem length_le_utf8 (text : List Char) : text.length ≤ (utf8 text).length := by
  induction text with
  | nil => exact Nat.le_refl 0
  | cons c rest ih =>
      have hchar : 0 < (utf8Char c).length := by
        simp only [utf8Char]
        split_ifs <;> simp
      rw [show utf8 (c :: rest) = utf8Char c ++ utf8 rest from rfl, List.length_append,
        List.length_cons]
      omega

/-- **A text is decoded from its bytes.** -/
theorem decodeUtf8_utf8 (text : List Char) :
    decodeUtf8 ((utf8 text).map UInt8.ofNat) = some text := by
  have hbytes : ((utf8 text).map UInt8.ofNat).map UInt8.toNat = utf8 text := by
    rw [List.map_map]
    refine (List.map_congr_left fun b hb => ?_).trans (List.map_id _)
    obtain ⟨c, -, hc⟩ := List.mem_flatMap.mp hb
    simpa using Nat.mod_eq_of_lt (utf8Char_lt hc)
  rw [decodeUtf8, hbytes]
  exact decodeChars_utf8 text _ (by simpa using length_le_utf8 text)

/-! ## Texts -/

/-- Four digits are read as the number they are written for. -/
theorem hexUnit_hex4 : ∀ n < 32, ∀ a b c d, hex4 n = [a, b, c, d] →
    hexUnit a b c d = some n := by
  have hall : ∀ n < 32, hexUnit ((hex4 n).getD 0 '0') ((hex4 n).getD 1 '0')
      ((hex4 n).getD 2 '0') ((hex4 n).getD 3 '0') = some n := by decide
  intro n hn a b c d h
  simpa [h] using hall n hn

/-- An escaped character is scanned as its code point. -/
theorem scanUnits_escape (c : Char) (rest : List Char) :
    scanUnits (escape c ++ rest) =
      (scanUnits rest).map fun (units, after) => (c.toNat :: units, after) := by
  have hsimple : ∀ (e : Char) (n : Nat), e ≠ 'u' →
      simpleEscape e = some n → c.toNat = n →
      scanUnits ('\\' :: e :: rest) =
        (scanUnits rest).map fun (units, after) => (c.toNat :: units, after) := by
    intro e n hu he hn
    rw [scanUnits]
    · simp only [he, hn, Option.bind_eq_bind, Option.bind_some]
      cases scanUnits rest <;> rfl
    · intro a b c d rest h
      exact absurd h hu
  simp only [escape]
  split_ifs with h1 h2 h3 h4 h5 h6 h7 h8
  · exact hsimple '"' 34 (by decide) rfl (by rw [h1]; rfl)
  · exact hsimple '\\' 92 (by decide) rfl (by rw [h2]; rfl)
  · exact hsimple 'b' 8 (by decide) rfl h3
  · exact hsimple 't' 9 (by decide) rfl h4
  · exact hsimple 'n' 10 (by decide) rfl h5
  · exact hsimple 'f' 12 (by decide) rfl h6
  · exact hsimple 'r' 13 (by decide) rfl h7
  · have hunit := hexUnit_hex4 c.toNat h8 _ _ _ _ rfl
    simp only [hex4, List.map_cons, List.map_nil, List.cons_append, List.nil_append]
    rw [scanUnits]
    simp only [hunit, Option.bind_eq_bind, Option.bind_some]
    cases scanUnits rest <;> rfl
  · rw [List.singleton_append, scanUnits]
    · rw [if_neg h8]
      simp only [Option.bind_eq_bind]
      cases scanUnits rest <;> rfl
    · exact h1
    · intro a b d e rest' h
      exact absurd h h2
    · intro e rest' h
      exact absurd h h2

/-- **A quoted text is read back** unit by unit, up to its closing quote. -/
theorem scanUnits_text (text rest : List Char) :
    scanUnits (text.flatMap escape ++ '"' :: rest) =
      some (text.map Char.toNat, rest) := by
  induction text with
  | nil => rw [List.flatMap_nil, List.nil_append, scanUnits]; rfl
  | cons c text ih =>
      rw [List.flatMap_cons, List.append_assoc, scanUnits_escape, ih]
      rfl

/-- Code points of characters are no surrogates. -/
theorem joinSurrogates_text :
    ∀ text : List Char, joinSurrogates (text.map Char.toNat) = text
  | [] => rfl
  | [c] => by
      have hvalid : c.toNat.isValidChar := c.valid
      simp [joinSurrogates, hvalid]
  | c :: d :: rest => by
      have hvalid : c.toNat.isValidChar := c.valid
      have hhigh : c.toNat < 0xd800 ∨ 0xdfff < c.toNat ∧ c.toNat < 0x110000 := c.valid
      have ih := joinSurrogates_text (d :: rest)
      simp only [List.map_cons] at ih ⊢
      rw [joinSurrogates, if_neg (by simp; omega), if_pos hvalid, ih, Char.ofNat_toNat]

/-- **A text is scanned as it was written.** -/
theorem scanText_quoted (s : String) (rest : List Char) :
    scanText (s.toList.flatMap escape ++ '"' :: rest) = some (s, rest) := by
  simp only [scanText, scanUnits_text, Option.map_some, joinSurrogates_text,
    String.ofList_toList]

/-! ## Numbers -/

/-- What follows a value: nothing, or the sign after it. -/
def Delimited (rest : List Char) : Prop :=
  ∀ c ∈ rest.head?, c = ',' ∨ c = ']' ∨ c = '\x7d'

theorem isDigit_of_mem_toDigits {value : Nat} {c : Char}
    (h : c ∈ Nat.toDigits 10 value) : isDigit c = true := by
  have hdigit := Nat.isDigit_of_mem_toDigits (by decide) (by decide) h
  simpa [Char.isDigit, isDigit, UInt32.le_iff_toNat_le] using hdigit

/-- Digits are read up to the first character that is none. -/
theorem digits_append {text rest : List Char} (htext : ∀ c ∈ text, isDigit c = true)
    (hrest : ∀ c ∈ rest.head?, isDigit c = false) :
    digits (text ++ rest) = (text, rest) := by
  rw [digits, List.takeWhile_append_of_pos htext, List.dropWhile_append_of_pos htext]
  cases rest with
  | nil => simp
  | cons c rest =>
      have := hrest c rfl
      simp [this]

/-- A delimiter is no digit. -/
theorem Delimited.notDigit {rest : List Char} (h : Delimited rest) :
    ∀ c ∈ rest.head?, isDigit c = false := by
  intro c hc
  rcases h c hc with rfl | rfl | rfl <;> decide

/-- The digits of a number are scanned to their end. -/
theorem scanNatural_toDigits (value : Nat) {rest : List Char} (hrest : Delimited rest) :
    scanNatural (Nat.toDigits 10 value ++ rest) =
      some (Nat.toDigits 10 value, rest) := by
  rcases Nat.eq_zero_or_pos value with rfl | hpos
  · rfl
  · obtain ⟨head, tail, hdigits, hne⟩ := toDigits_head hpos
    have hall : digits (Nat.toDigits 10 value ++ rest) =
        (Nat.toDigits 10 value, rest) :=
      digits_append (fun c hc => isDigit_of_mem_toDigits hc) hrest.notDigit
    rw [hdigits, List.cons_append] at hall ⊢
    rw [scanNatural]
    · rw [hall]
    · intro rest h
      exact hne (List.cons.inj h).1

/-- An integer is read back, and what delimits it is left. -/
theorem scanInteger_intText (n : Int) {rest : List Char} (hrest : Delimited rest) :
    scanInteger (intText n ++ rest) = some (intText n, rest) := by
  rw [intText]
  split_ifs with hneg
  · rw [List.cons_append, scanInteger, scanNatural_toDigits _ hrest]
    rfl
  · rw [scanInteger, scanNatural_toDigits _ hrest]
    intro tail h
    have hne : Nat.toDigits 10 n.natAbs ≠ [] := Nat.toDigits_ne_nil
    obtain ⟨head, digits, hdigits⟩ := List.exists_cons_of_ne_nil hne
    rw [hdigits, List.cons_append, List.cons.injEq] at h
    have hmem : '-' ∈ Nat.toDigits 10 n.natAbs := hdigits ▸ h.1 ▸ List.mem_cons_self ..
    exact absurd (isDigit_of_mem_toDigits hmem) (by decide)

/-- What is delimited has no fraction. -/
theorem Delimited.noFraction {rest : List Char} (h : Delimited rest) :
    scanFraction rest = ([], rest) := by
  cases rest with
  | nil => rfl
  | cons c rest => rcases h c rfl with rfl | rfl | rfl <;> rfl

/-- Nor an exponent. -/
theorem Delimited.noExponent {rest : List Char} (h : Delimited rest) :
    scanExponent rest = ([], rest) := by
  cases rest with
  | nil => rfl
  | cons c rest => rcases h c rfl with rfl | rfl | rfl <;> rfl

/-- **An integer is read as an integer token.** -/
theorem scanNumber_intText (n : Int) {rest : List Char} (hrest : Delimited rest) :
    scanNumber (intText n ++ rest) =
      some (.integer (String.ofList (intText n)), rest) := by
  simp [scanNumber, scanInteger_intText n hrest, hrest.noFraction, hrest.noExponent]

/-- **An interoperable integer is spelled by its digits.** -/
theorem intOfToken_intText {n : Int} (h : isInteroperable n = true) :
    intOfToken (String.ofList (intText n)) = some n := by
  have hbound : n.natAbs < 10 ^ 16 := by
    simp only [isInteroperable, decide_eq_true_eq] at h
    omega
  have hdigits : (Nat.toDigits 10 n.natAbs).filter isDigit = Nat.toDigits 10 n.natAbs :=
    List.filter_eq_self.mpr fun c hc => isDigit_of_mem_toDigits hc
  have hlength : (Nat.toDigits 10 n.natAbs).length ≤ 16 :=
    (Nat.length_toDigits_le_iff (by decide) (by decide)).mpr hbound
  have hvalue : (Nat.toDigits 10 n.natAbs).foldl
      (fun value c => 10 * value + (c.toNat - 48)) 0 = n.natAbs :=
        Nat.ofDigitChars_ten_toDigits
  have hhead : (Nat.toDigits 10 n.natAbs).head? ≠ some '-' := by
    intro hhead
    exact absurd (isDigit_of_mem_toDigits (List.mem_of_mem_head? hhead)) (by decide)
  have hfilter : (intText n).filter isDigit = Nat.toDigits 10 n.natAbs := by
    rw [intText]
    split_ifs
    · rw [List.filter_cons_of_neg (by decide), hdigits]
    · exact hdigits
  simp only [intOfToken, String.toList_ofList, hfilter, hvalue]
  rw [if_neg (by rw [maxStrDigits]; omega), intText]
  by_cases hneg : n < 0
  · rw [if_pos hneg, List.head?_cons, if_pos rfl, Option.some.injEq]
    omega
  · rw [if_neg hneg, if_neg hhead, Option.some.injEq]
    omega

/-! ## Values -/

/-- Before what follows a value, and with enough of the limit, the text is scanned as
the part. -/
structure ReadsAs (text : List Char) (part : JsonSyntax) : Prop where
  starts : ∃ c rest, text = c :: rest ∧ isJsonSpace c = false ∧ c ≠ ']'
  scans : ∀ limit rest, 2 * text.length ≤ limit → Delimited rest →
    scanValue limit (text ++ rest) = some (part, rest)

/-- No space stands before what is read. -/
theorem ReadsAs.noSpace {text : List Char} {part : JsonSyntax} (h : ReadsAs text part)
    (rest : List Char) : skipSpace (text ++ rest) = text ++ rest := by
  obtain ⟨c, after, rfl, hspace, -⟩ := h.starts
  rw [List.cons_append, skipSpace, List.dropWhile_cons_of_neg (by simp [hspace])]

/-- Commas and closing brackets delimit. -/
theorem delimited_cons {c : Char} {rest : List Char}
    (h : c = ',' ∨ c = ']' ∨ c = '\x7d') : Delimited (c :: rest) := by
  intro d hd
  rw [List.head?_cons, Option.mem_some_iff] at hd
  exact hd ▸ h

theorem skipSpace_cons {c : Char} (rest : List Char) (h : isJsonSpace c = false) :
    skipSpace (c :: rest) = c :: rest := by
  rw [skipSpace, List.dropWhile_cons_of_neg (by simp [h])]

theorem scanText_readsAs (s : String) :
    ReadsAs (quoted s) (.text s) where
  starts := ⟨'"', _, rfl, by decide, by decide⟩
  scans limit rest hlimit _ := by
    obtain ⟨limit, rfl⟩ : ∃ k, limit = k + 1 := ⟨limit - 1, by
      simp only [quoted, List.cons_append, List.length_cons] at hlimit
      omega⟩
    rw [quoted, List.cons_append, List.cons_append, List.append_assoc,
      List.singleton_append, scanValue]
    rw [scanText_quoted]
    rfl

/-! ### Items -/

/-- The last item is read, and the list closed. -/
theorem ReadsAs.scanItems_last {text : List Char} {part : JsonSyntax}
    (h : ReadsAs text part) {limit : Nat} (hlimit : 2 * text.length ≤ limit)
    (rest : List Char) :
    scanItems (limit + 1) (text ++ ']' :: rest) = some ([part], rest) := by
  rw [scanItems, h.scans limit _ hlimit (delimited_cons (by simp))]
  simp [skipSpace_cons, isJsonSpace]

/-- An item is read, and the list goes on. -/
theorem ReadsAs.scanItems_next {text : List Char} {part : JsonSyntax}
    (h : ReadsAs text part) {limit : Nat} (hlimit : 2 * text.length ≤ limit)
    {more rest : List Char} (hskip : skipSpace more = more) {parts : List JsonSyntax}
    (hmore : scanItems limit more = some (parts, rest)) :
    scanItems (limit + 1) (text ++ ',' :: more) = some (part :: parts, rest) := by
  rw [scanItems, h.scans limit _ hlimit (delimited_cons (by simp))]
  simp [skipSpace_cons, isJsonSpace, hskip, hmore]

/-- Joined texts start like the first of them. -/
theorem skipSpace_intercalate (texts : List (List Char)) (rest : List Char)
    (h : ∀ text ∈ texts.head?, ∀ after, skipSpace (text ++ after) = text ++ after)
    (hne : texts ≠ []) : skipSpace ([','].intercalate texts ++ rest) =
      [','].intercalate texts ++ rest := by
  match texts, hne with
  | [text], _ => rw [List.intercalate_singleton]; exact h text rfl rest
  | text :: other :: texts, _ =>
      rw [List.intercalate_cons_cons, List.append_assoc, List.append_assoc]
      exact h text rfl _

/-- **Items are read in their order**; by induction on the pairs of text and part. -/
theorem scanItems_readsAs : ∀ {texts : List (List Char)} {parts : List JsonSyntax},
    List.Forall₂ ReadsAs texts parts → texts ≠ [] → ∀ limit rest,
      2 * ([','].intercalate texts).length ≤ limit →
        scanItems (limit + 1) ([','].intercalate texts ++ ']' :: rest) =
          some (parts, rest)
  | [text], _, .cons h .nil, _, limit, rest, hlimit => by
      rw [List.intercalate_singleton] at hlimit ⊢
      exact h.scanItems_last hlimit rest
  | text :: other :: texts, part :: parts, .cons h hs, _, limit, rest, hlimit => by
      have hskip := skipSpace_intercalate (other :: texts) (']' :: rest)
        (fun text htext => by
          cases hs with
          | cons hother =>
              exact Option.mem_some_iff.mp htext ▸ hother.noSpace) (by simp)
      rw [List.intercalate_cons_cons] at hlimit ⊢
      rw [List.append_assoc, List.append_assoc]
      simp only [List.length_append, List.length_singleton] at hlimit
      obtain ⟨limit, rfl⟩ : ∃ k, limit = k + 1 := ⟨limit - 1, by omega⟩
      exact h.scanItems_next (by omega) hskip
        (scanItems_readsAs hs (by simp) limit rest (by omega))

/-! ### Pairs -/

/-- An entry reads as a pair when the key is the same and the text reads as the part. -/
def PairReadsAs (entry : String × List Char) (pair : String × JsonSyntax) : Prop :=
  entry.1 = pair.1 ∧ ReadsAs entry.2 pair.2

theorem renderEntry_append (key : String) (text rest : List Char) :
    renderEntry (key, text) ++ rest =
      '"' :: (key.toList.flatMap escape ++ '"' :: ':' :: (text ++ rest)) := by
  simp [renderEntry, quoted]

theorem length_renderEntry (key : String) (text : List Char) :
    text.length + 3 ≤ (renderEntry (key, text)).length := by
  simp only [renderEntry, quoted, List.length_append,
    List.length_cons, List.length_nil]
  omega

/-- The last entry is read, and the object closed. -/
theorem ReadsAs.scanPairs_last {text : List Char} {part : JsonSyntax}
    (h : ReadsAs text part) {limit : Nat} (hlimit : 2 * text.length ≤ limit)
    (key : String) (rest : List Char) :
    scanPairs (limit + 1) (renderEntry (key, text) ++ '\x7d' :: rest) =
      some ([(key, part)], rest) := by
  have hscans := h.scans limit ('\x7d' :: rest) hlimit (delimited_cons (by simp))
  rw [renderEntry_append, scanPairs, scanText_quoted]
  simp [skipSpace_cons, isJsonSpace, h.noSpace, hscans]

/-- An entry is read, and the object goes on. -/
theorem ReadsAs.scanPairs_next {text : List Char} {part : JsonSyntax}
    (h : ReadsAs text part) {limit : Nat} (hlimit : 2 * text.length ≤ limit)
    (key : String) {more rest : List Char} (hskip : skipSpace more = more)
    {pairs : List (String × JsonSyntax)}
    (hmore : scanPairs limit more = some (pairs, rest)) :
    scanPairs (limit + 1) (renderEntry (key, text) ++ ',' :: more) =
      some ((key, part) :: pairs, rest) := by
  have hscans := h.scans limit (',' :: more) hlimit (delimited_cons (by simp))
  rw [renderEntry_append, scanPairs, scanText_quoted]
  simp [skipSpace_cons, isJsonSpace, h.noSpace, hscans, hskip, hmore]

theorem skipSpace_renderEntry (entry : String × List Char) (rest : List Char) :
    skipSpace (renderEntry entry ++ rest) =
      renderEntry entry ++ rest := by
  rw [renderEntry_append entry.1 entry.2, skipSpace_cons _ (by decide)]

/-- **Entries are read in their order.** -/
theorem scanPairs_readsAs : ∀ {entries : List (String × List Char)}
    {pairs : List (String × JsonSyntax)}, List.Forall₂ PairReadsAs entries pairs →
      entries ≠ [] → ∀ limit rest,
        2 * ([','].intercalate (entries.map renderEntry)).length ≤ limit →
          scanPairs (limit + 1) ([','].intercalate (entries.map renderEntry) ++
            '\x7d' :: rest) = some (pairs, rest)
  | [(key, text)], [(_, part)], .cons h .nil, _, limit, rest, hlimit => by
      obtain ⟨rfl, h⟩ := h
      have := length_renderEntry key text
      have h : ReadsAs text part := h
      rw [List.map_cons, List.map_nil, List.intercalate_singleton] at hlimit ⊢
      exact h.scanPairs_last (by omega) key rest
  | (key, text) :: other :: entries, (_, part) :: pairs, .cons h hs, _, limit,
      rest, hlimit => by
      obtain ⟨rfl, h⟩ := h
      have h : ReadsAs text part := h
      have := length_renderEntry key text
      have hskip :=
        skipSpace_intercalate ((other :: entries).map renderEntry) ('\x7d' :: rest)
        (fun text htext => Option.mem_some_iff.mp htext ▸ skipSpace_renderEntry other)
          (by simp)
      rw [List.map_cons, List.map_cons, List.intercalate_cons_cons] at hlimit ⊢
      rw [List.append_assoc, List.append_assoc]
      simp only [List.length_append, List.length_singleton] at hlimit
      obtain ⟨limit, rfl⟩ : ∃ k, limit = k + 1 := ⟨limit - 1, by omega⟩
      exact h.scanPairs_next (by omega) key hskip
        (scanPairs_readsAs hs (by simp) limit rest (by rw [List.map_cons]; omega))

/-! ## Canonical texts -/

/-- The text is scanned as a part that denotes the value. -/
def ReadsBack (float : String → PyFloat) (v : PyValue) : Prop :=
  ∃ part, ReadsAs (canonicalText v) part ∧ denotes float v part = true

/-- A value is read wherever it starts with no space and no closing bracket. -/
theorem readsAs_of_scan {c : Char} {text : List Char} {part : JsonSyntax}
    (hspace : isJsonSpace c = false) (hclosing : c ≠ ']')
    (h : ∀ limit rest, 2 * text.length + 1 ≤ limit → Delimited rest →
      scanValue (limit + 1) (c :: (text ++ rest)) = some (part, rest)) :
    ReadsAs (c :: text) part where
  starts := ⟨c, text, rfl, hspace, hclosing⟩
  scans limit rest hlimit hrest := by
    rw [List.length_cons] at hlimit
    obtain ⟨limit, rfl⟩ : ∃ k, limit = k + 1 := ⟨limit - 1, by omega⟩
    exact h limit rest (by omega) hrest

/-- What has a counterpart each has a list of counterparts. -/
theorem exists_forall₂ {α β : Type} {R : α → β → Prop} : ∀ {as : List α},
    (∀ a ∈ as, ∃ b, R a b) → ∃ bs, List.Forall₂ R as bs
  | [], _ => ⟨[], .nil⟩
  | a :: as, h => by
      obtain ⟨b, hb⟩ := h a (List.mem_cons_self ..)
      obtain ⟨bs, hbs⟩ := exists_forall₂ fun c hc => h c (List.mem_cons_of_mem _ hc)
      exact ⟨b :: bs, .cons hb hbs⟩

/-- A sign or a digit is the start of a number. -/
theorem scanValue_number {c : Char} (h : c = '-' ∨ isDigit c = true) (limit : Nat)
    (rest : List Char) :
    scanValue (limit + 1) (c :: rest) = scanNumber (c :: rest) := by
  have hall : (['"', '[', '\x7b', 'n', 't', 'f'].all fun d => d != '-' && !isDigit d) =
      true := by
    decide
  simp only [List.all_eq_true, Bool.and_eq_true, bne_iff_ne, Bool.not_eq_true'] at hall
  have hne : ∀ d ∈ ['"', '[', '\x7b', 'n', 't', 'f'], c ≠ d := by
    rintro d hd rfl
    rcases h with h | h
    · exact (hall c hd).1 h
    · exact absurd h (by simp [(hall c hd).2])
  rw [scanValue]
  all_goals
    intro tail htail
    exact hne _ (by simp) (List.cons.inj htail).1

/-- Where each has a partner, each has one in the list. -/
theorem exists_of_forall₂ {α β : Type} {R : α → β → Prop} {as : List α} {bs : List β}
    (h : List.Forall₂ R as bs) : ∀ a ∈ as, ∃ b ∈ bs, R a b := by
  induction h with
  | nil => simp
  | cons hab _ ih =>
      intro c hc
      rcases List.mem_cons.mp hc with rfl | hc
      · exact ⟨_, List.mem_cons_self .., hab⟩
      · obtain ⟨d, hd, hcd⟩ := ih c hc
        exact ⟨d, List.mem_cons_of_mem _ hd, hcd⟩

/-- An interoperable integer is read back. -/
theorem readsBack_int {float : String → PyFloat} {n : Int}
    (h : isInteroperable n = true) : ReadsBack float (.int n) := by
  refine ⟨.integer (String.ofList (intText n)), ?_, by
    simp [denotes, h, intOfToken_intText h]⟩
  have hne : intText n ≠ [] := by
    rw [intText]
    split_ifs
    · exact List.cons_ne_nil _ _
    · exact Nat.toDigits_ne_nil
  obtain ⟨c, text, hcons⟩ := List.exists_cons_of_ne_nil hne
  have hstart : c = '-' ∨ isDigit c = true := by
    rw [intText] at hcons
    split_ifs at hcons
    · exact .inl (List.cons.inj hcons).1.symm
    · exact .inr (isDigit_of_mem_toDigits (hcons ▸ List.mem_cons_self ..))
  have hclear : ∀ d, d = '-' ∨ isDigit d = true → isJsonSpace d = false ∧ d ≠ ']' := by
    rintro d (rfl | hd)
    · decide
    · simp only [isDigit, Bool.and_eq_true, decide_eq_true_eq] at hd
      refine ⟨?_, ?_⟩
      · simp only [isJsonSpace, Bool.or_eq_false_iff, decide_eq_false_iff_not]
        refine ⟨⟨⟨?_, ?_⟩, ?_⟩, ?_⟩ <;> rintro rfl <;> exact absurd hd (by decide)
      · rintro rfl
        exact absurd hd (by decide)
  rw [canonicalText, hcons]
  refine readsAs_of_scan (hclear c hstart).1
    (hclear c hstart).2 fun limit rest _ hrest => ?_
  rw [scanValue_number hstart, ← List.cons_append, ← hcons, scanNumber_intText n hrest]

/-- Joined texts start like the first of them. -/
theorem exists_intercalate_cons (c : Char) (first : List Char)
    (texts : List (List Char)) :
    ∃ inner, [','].intercalate ((c :: first) :: texts) = c :: inner := by
  cases texts with
  | nil => exact ⟨first, List.intercalate_singleton⟩
  | cons text texts =>
      exact ⟨first ++ ([','] ++ [','].intercalate (text :: texts)), by
        rw [List.intercalate_cons_cons, List.append_assoc, List.cons_append]⟩

/-- **Texts that are read as parts are read as an array** between brackets. -/
theorem readsAs_array {texts : List (List Char)} {parts : List JsonSyntax}
    (h : List.Forall₂ ReadsAs texts parts) :
    ReadsAs (bracketed '[' ']' texts) (.array parts) := by
  refine readsAs_of_scan (by decide) (by decide) fun limit rest hlimit _ => ?_
  cases h with
  | nil => rfl
  | cons hfirst hrest =>
      obtain ⟨c, first, rfl, hspace, hne⟩ := hfirst.starts
      rename_i texts parts
      obtain ⟨inner, hinner⟩ := exists_intercalate_cons c first texts
      rw [List.length_append, List.length_singleton] at hlimit
      obtain ⟨limit, rfl⟩ : ∃ k, limit = k + 1 := ⟨limit - 1, by omega⟩
      have hscan :=
        scanItems_readsAs (.cons hfirst hrest) (by simp) limit rest (by omega)
      rw [hinner, List.cons_append] at hscan
      rw [List.append_assoc, List.singleton_append, hinner, List.cons_append, scanValue]
      rw [skipSpace_cons _ hspace]
      split
      · rename_i heq
        exact absurd (List.cons.inj heq).1 hne
      · rw [hscan]
        rfl

/-- **Entries that are read as pairs are read as an object** between braces. -/
theorem readsAs_object {entries : List (String × List Char)}
    {pairs : List (String × JsonSyntax)} (h : List.Forall₂ PairReadsAs entries pairs) :
    ReadsAs (bracketed '\x7b' '\x7d' (entries.map renderEntry))
      (.object pairs) := by
  refine readsAs_of_scan (by decide) (by decide) fun limit rest hlimit _ => ?_
  cases h with
  | nil => rfl
  | cons hfirst hrest =>
      rename_i entry pair entries pairs
      obtain ⟨inner, hinner⟩ := exists_intercalate_cons '"'
        (entry.1.toList.flatMap escape ++ '"' :: ':' :: entry.2)
        (entries.map renderEntry)
      rw [List.length_append, List.length_singleton] at hlimit
      obtain ⟨limit, rfl⟩ : ∃ k, limit = k + 1 := ⟨limit - 1, by omega⟩
      have hscan :=
        scanPairs_readsAs (.cons hfirst hrest) (by simp) limit rest (by omega)
      have hrender : renderEntry entry =
          '"' :: (entry.1.toList.flatMap escape ++ '"' :: ':' :: entry.2) := by
        simpa using renderEntry_append entry.1 entry.2 []
      rw [List.map_cons, hrender, hinner, List.cons_append] at hscan
      rw [List.map_cons, hrender, List.append_assoc, List.singleton_append, hinner,
        List.cons_append, scanValue]
      rw [skipSpace_cons _ (by decide)]
      split
      · rename_i heq
        exact absurd (List.cons.inj heq).1 (by decide)
      · rw [hscan]
        rfl

theorem denotesItems_of_forall₂ {float : String → PyFloat} {items : List PyValue}
    {parts : List JsonSyntax}
    (h : List.Forall₂ (fun item part => denotes float item part = true)
      items parts) : denotesItems float items parts = true := by
  induction h with
  | nil => rfl
  | cons h _ ih => rw [denotesItems, h, ih, Bool.true_and]

/-- **A list is read back** when its items are. -/
theorem readsBack_list {float : String → PyFloat} {items : List PyValue}
    (h : ∀ item ∈ items, ReadsBack float item) : ReadsBack float (.list items) := by
  obtain ⟨parts, hparts⟩ := exists_forall₂ h
  have hdenotes : denotesItems float items parts = true :=
    denotesItems_of_forall₂ (hparts.imp fun _ _ h => h.2)
  refine ⟨.array parts, ?_, by rw [denotes, hdenotes]⟩
  rw [canonicalText, canonicalItems_eq]
  exact readsAs_array (List.forall₂_map_left_iff.mpr (hparts.imp fun _ _ h => h.1))

/-- **A mapping is read back** when its entries are, in the order of their keys. -/
theorem readsBack_dict {float : String → PyFloat} {entries : PyDict}
    (hkeys : (entries.map (·.1)).Nodup)
    (h : ∀ entry ∈ entries, ReadsBack float entry.2) :
    ReadsBack float (.dict entries) := by
  have hsorted := List.perm_insertionSort
    (fun a b => keyUnits a.1 ≤ keyUnits b.1)
    (canonicalEntries entries)
  have hfound : ∀ entry ∈ (canonicalEntries entries).insertionSort
      (fun a b => keyUnits a.1 ≤ keyUnits b.1),
      ∃ pair : String × JsonSyntax, PairReadsAs entry pair ∧
        ∃ v, (entry.1, v) ∈ entries ∧ denotes float v pair.2 = true := by
    intro entry hentry
    rw [hsorted.mem_iff, canonicalEntries_eq] at hentry
    obtain ⟨⟨key, v⟩, hmem, rfl⟩ := List.mem_map.mp hentry
    obtain ⟨part, hreads, hdenotes⟩ := h _ hmem
    exact ⟨(key, part), ⟨rfl, hreads⟩, v, hmem, hdenotes⟩
  obtain ⟨pairs, hpairs⟩ := exists_forall₂ hfound
  have hsame : List.Forall₂ (· = ·) (((canonicalEntries entries).insertionSort
      fun a b => keyUnits a.1 ≤ keyUnits b.1).map (·.1))
      (pairs.map (·.1)) :=
    List.forall₂_map_left_iff.mpr
      (List.forall₂_map_right_iff.mpr (hpairs.imp fun _ _ h => h.1.1))
  rw [List.forall₂_eq_eq_eq] at hsame
  have hperm : (pairs.map (·.1)).Perm (entries.map (·.1)) := by
    rw [← hsame]
    refine (hsorted.map _).trans ?_
    rw [canonicalEntries_eq, List.map_map]
    exact List.Perm.refl _
  refine ⟨.object pairs, ?_, ?_⟩
  · rw [canonicalText]
    exact readsAs_object (hpairs.imp fun _ _ h => h.1)
  · have hlength : entries.length = pairs.length := by simpa using hperm.length_eq.symm
    rw [denotes, hlength, beq_self_eq_true, Bool.true_and, denotesEntries_iff]
    rintro ⟨key, v⟩ hentry
    have hmem : (key, canonicalText v) ∈ canonicalEntries entries := by
      rw [canonicalEntries_eq]
      exact List.mem_map.mpr ⟨_, hentry, rfl⟩
    obtain ⟨⟨_, part⟩, hpair, ⟨rfl, -⟩, w, hw, hdenotes⟩ :=
      exists_of_forall₂ hpairs _ (hsorted.mem_iff.mpr hmem)
    have hkeys' := hperm.nodup_iff.mpr hkeys
    have hvalue : some v = some w :=
      (lookup_eq_some_of_mem hkeys hentry).symm.trans
        (lookup_eq_some_of_mem hkeys hw)
    exact ⟨part, lookup_eq_some_of_mem hkeys' hpair, Option.some.inj hvalue ▸ hdenotes⟩

mutual

/-- **Canonical texts are scanned back.** -/
theorem readsBack (float : String → PyFloat) : ∀ v : PyValue, jsonValue v = v →
    encodable v = true → ReadsBack float v
  | .none, _, _ => ⟨.null, by
      refine readsAs_of_scan (by decide) (by decide) fun limit rest _ _ => ?_
      rfl, rfl⟩
  | .bool true, _, _ => ⟨.bool true, by
      refine readsAs_of_scan (by decide) (by decide) fun limit rest _ _ => ?_
      rfl, rfl⟩
  | .bool false, _, _ => ⟨.bool false, by
      refine readsAs_of_scan (by decide) (by decide) fun limit rest _ _ => ?_
      rfl, rfl⟩
  | .int n, _, h => readsBack_int (by rwa [encodable] at h)
  | .str s, _, _ => ⟨.text s, scanText_readsAs s, by simp [denotes]⟩
  | .list items, hjson, h => by
      rw [jsonValue, PyValue.list.injEq] at hjson
      rw [encodable] at h
      exact readsBack_list (itemsReadBack float items hjson h)
  | .dict entries, hjson, h => by
      rw [jsonValue, PyValue.dict.injEq] at hjson
      rw [encodable, Bool.and_eq_true, decide_eq_true_eq] at h
      exact readsBack_dict h.1 (entriesReadBack float entries hjson h.2)
  | .float _, _, h => by simp [encodable] at h
  | .tuple _, hjson, _ => by simp [jsonValue] at hjson
  | .object _ _, _, h => by simp [encodable] at h

theorem itemsReadBack (float : String → PyFloat) : ∀ items : List PyValue,
    jsonItems items = items → encodableItems items = true →
      ∀ item ∈ items, ReadsBack float item
  | [], _, _ => nofun
  | v :: vs, hjson, h => by
      rw [jsonItems, List.cons.injEq] at hjson
      rw [encodableItems, Bool.and_eq_true] at h
      intro item hitem
      rcases List.mem_cons.mp hitem with heq | hitem
      · exact heq ▸ readsBack float v hjson.1 h.1
      · exact itemsReadBack float vs hjson.2 h.2 item hitem

theorem entriesReadBack (float : String → PyFloat) : ∀ entries : PyDict,
    jsonEntries entries = entries → encodableEntries entries = true →
      ∀ entry ∈ entries, ReadsBack float entry.2
  | [], _, _ => nofun
  | (key, v) :: es, hjson, h => by
      rw [jsonEntries, List.cons.injEq, Prod.mk.injEq] at hjson
      rw [encodableEntries, Bool.and_eq_true] at h
      intro entry hentry
      rcases List.mem_cons.mp hentry with heq | hentry
      · exact heq ▸ readsBack float v hjson.1.2 h.1
      · exact entriesReadBack float es hjson.2 h.2 entry hentry

end

/-- **Canonical bytes are read as a part that denotes the value.** -/
theorem parse_canonicalBytes (float : String → PyFloat) {v : PyValue}
    {encoded : List UInt8} (hjson : jsonValue v = v)
    (h : canonicalBytes v = some encoded) :
    ∃ part, parse encoded = some part ∧ denotes float v part = true := by
  rw [canonicalBytes] at h
  split_ifs at h with hencodable
  rw [Option.some.injEq] at h
  obtain ⟨part, hreads, hdenotes⟩ := readsBack float v hjson hencodable
  refine ⟨part, ?_, hdenotes⟩
  have hscan := hreads.scans (2 * (canonicalText v).length + 1) [] (by omega)
    (fun _ hc => by cases hc)
  have hskip := hreads.noSpace []
  rw [List.append_nil] at hscan hskip
  simp [parse, ← h, decodeUtf8_utf8, hskip, hscan]
  rfl

end ControlPlaneKit.Library.CanonicalReading
