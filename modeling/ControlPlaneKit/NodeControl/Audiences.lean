import Mathlib.Data.List.DropRight
import ControlPlaneKit.NodeControl.BoundaryLaws
import ControlPlaneKit.NodeControl.PublicPatterns
import ControlPlaneKit.NodeControl.Transit

/-!
# Audiences — what a derived audience says, and when it can be derived

An audience is a word, a colon, an identifier, a colon and an identifier.  Searched
for public material it looks like a host with a port as soon as the first identifier
begins with a port; nothing else of it can be found.  The audience of a workload has
also to be a reference, and two long identifiers do not fit in one.
-/

namespace ControlPlaneKit.NodeControl

open ControlPlaneKit.Library (PyError)
open ControlPlaneKit.Library.EventFold (bind_ok check_bind_ok)
open ControlPlaneKit.Library.Outcome (ok_bind)
open ControlPlaneKit.Library.Text (forall_mem_of_all isAsciiAlnum isSpace)

/-! ## Hosts and ports -/

theorem hostPart_of_namePart {c : Char} (h : isNamePart c = true) :
    isHostPart c = true := by
  simp only [isNamePart, isIdentifierTail, Bool.or_eq_true, decide_eq_true_eq] at h
  rw [isHostPart, Bool.or_eq_true]
  rcases h with (((h | rfl) | rfl) | rfl) | rfl
  · exact .inl h
  all_goals exact .inr (by decide)

/-- Inside a name no host begins. -/
theorem containsHostPort_within {c : Char} {text : List Char} (hc : isHostPart c = true)
    (h : ∀ d ∈ text, isHostPart d = true) (skip : Nat) :
    containsHostPort (some c) skip text = false := by
  induction text generalizing c skip with
  | nil => rfl
  | cons d text ih =>
      have hrest := fun skip => ih (h d (List.mem_cons_self ..))
        (fun e he => h e (List.mem_cons_of_mem _ he)) skip
      cases skip with
      | zero => simpa [containsHostPort, hc] using hrest 0
      | succ skip => exact hrest skip

theorem portCandidate_join (text rest : List Char) (length : Nat) :
    (if length ≤ (text ++ ':' :: rest).length &&
        !(((text ++ ':' :: rest).drop length).head?.any isAsciiAlnum) then
      (((text ++ ':' :: rest).take length).mapM decimalValue).map fun values =>
        (values.foldl (fun value digit => 10 * value + digit) 0, length)
    else none) =
    if length ≤ text.length && !((text.drop length).head?.any isAsciiAlnum) then
      ((text.take length).mapM decimalValue).map fun values =>
        (values.foldl (fun value digit => 10 * value + digit) 0, length)
    else none := by
  by_cases hlength : length ≤ text.length
  · have hlonger : length ≤ (text ++ ':' :: rest).length := by
      rw [List.length_append]
      omega
    have hhead : ((text ++ ':' :: rest).drop length).head?.any isAsciiAlnum =
        (text.drop length).head?.any isAsciiAlnum := by
      rw [List.drop_append_of_le_length hlength]
      cases text.drop length with
      | nil => simpa using (by decide : isAsciiAlnum ':' = false)
      | cons c tail => rfl
    rw [hhead, List.take_append_of_le_length hlength]
    simp only [hlength, hlonger, decide_true]
  · have hcolon : ((text ++ ':' :: rest).take length).mapM decimalValue = none := by
      rw [← Option.not_isSome_iff_eq_none, mapM_decimalValue, Bool.not_eq_true,
        List.all_eq_false]
      refine ⟨':', ?_, by decide⟩
      rw [List.take_append, List.mem_append]
      refine .inr ?_
      obtain ⟨more, hmore⟩ : ∃ more, length - text.length = more + 1 :=
        ⟨length - text.length - 1, by omega⟩
      rw [hmore, List.take_succ_cons]
      exact List.mem_cons_self ..
    rw [hcolon]
    simp only [hlength, decide_false, Bool.false_and, Bool.false_eq_true, if_false,
      Option.map_none, ite_self]

/-- A port ends before a colon as it ends at the end. -/
theorem portAt_join (text rest : List Char) :
    portAt (text ++ ':' :: rest) = portAt text := by
  simp only [portAt, portCandidate_join]

/-- The text begins with the digits of a port. -/
def beginsWithPort (text : String) : Bool :=
  (portAt text.toList).any fun port => 1 ≤ port.1 && port.1 ≤ 65535

/-- A host of letters and digits, with its first character. -/
theorem hostPortAt_word {c : Char} {host : List Char} (hc : isAsciiAlnum c = true)
    (hhost : ∀ d ∈ host, isAsciiAlnum d = true) (rest : List Char) :
    hostPortAt (c :: (host ++ ':' :: rest)) =
      (portAt rest).map fun port => (port.1, host.length + 1 + 1 + port.2) := by
  have hbracket : c ≠ '[' := by
    rintro rfl
    exact absurd hc (by decide)
  have htake : (host ++ ':' :: rest).takeWhile
      (fun d => isAsciiAlnum d || d = '.' || d = '-') =
      host := by
    rw [List.takeWhile_append_of_pos fun d hd => by simp [hhost d hd],
      List.takeWhile_cons, if_neg (by decide), List.append_nil]
  rw [hostPortAt]
  · rw [if_pos hc, htake, List.drop_left]
    rfl
  · exact fun hopen => hbracket hopen

/-- A word, a colon and a name look like a host with a port just when the name begins
with a port. -/
theorem containsHostPort_word {c : Char} {host rest : List Char}
    (hc : isAsciiAlnum c = true) (hhost : ∀ d ∈ host, isAsciiAlnum d = true)
    (hrest : ∀ d ∈ rest, isNamePart d = true) :
    containsHostPort none 0 (c :: (host ++ ':' :: rest)) =
      (portAt rest).any fun port => 1 ≤ port.1 && port.1 ≤ 65535 := by
  have hparts : ∀ d ∈ host ++ ':' :: rest, isHostPart d = true := by
    intro d hd
    rcases List.mem_append.mp hd with hd | hd
    · exact hostPart_of_namePart (namePart_of_alnum (hhost d hd))
    · rcases List.mem_cons.mp hd with rfl | hd
      · decide
      · exact hostPart_of_namePart (hrest d hd)
  have hwithin :=
    containsHostPort_within (hostPart_of_namePart (namePart_of_alnum hc)) hparts
  have hstart : (if none.any isHostPart then none
      else hostPortAt (c :: (host ++ ':' :: rest))) =
      hostPortAt (c :: (host ++ ':' :: rest)) := rfl
  rw [containsHostPort, hstart, hostPortAt_word hc hhost]
  cases portAt rest with
  | none => exact hwithin 0
  | some port => simp only [Option.map_some, Option.any_some, hwithin, Bool.or_false]

/-! ## Local hosts -/

theorem stripRight_of_kept {stripped : Char → Bool} {text : List Char}
    (h : ∀ c ∈ text, stripped c = false) : stripRight stripped text = text := by
  refine (List.rdropWhile_eq_self_iff ..).mpr fun hne => ?_
  simpa using h _ (List.getLast_mem hne)

/-- What is stripped stops at the last character that is kept. -/
theorem stripRight_join {stripped : Char → Bool} {c : Char} (hc : stripped c = false)
    (text rest : List Char) :
    stripRight stripped (text ++ c :: rest) =
      text ++ c :: stripRight stripped rest := by
  unfold stripRight
  rw [List.reverse_append, List.reverse_cons, List.append_assoc, List.dropWhile_append]
  split
  · rename_i hempty
    rw [List.isEmpty_iff] at hempty
    simp [hempty, hc]
  · simp

theorem stripRight_stripRight (stripped : Char → Bool) (text : List Char) :
    stripRight stripped (stripRight stripped text) = stripRight stripped text :=
  List.rdropWhile_idempotent (p := stripped) text

theorem lowerAscii_join (text rest : List Char) :
    lowerAscii (text ++ ':' :: rest) = lowerAscii text ++ ':' :: lowerAscii rest := by
  rw [lowerAscii, List.map_append, List.map_cons]
  rfl

/-- The dot and the colon have no case. -/
theorem lower_eq_iff {c d : Char} (hd : d.toNat < 65) :
    (if 65 ≤ c.toNat && c.toNat ≤ 90 then Char.ofNat (c.toNat + 32) else c) = d ↔
      c = d := by
  split
  · rename_i hupper
    rw [Bool.and_eq_true, decide_eq_true_eq, decide_eq_true_eq] at hupper
    constructor
    · intro h
      have := congrArg Char.toNat h
      rw [toNat_ofNat_ascii (by omega)] at this
      omega
    · rintro rfl
      omega
  · exact Iff.rfl

theorem stripRight_lowerAscii (text : List Char) :
    stripRight (· = '.') (lowerAscii text) =
      lowerAscii (stripRight (· = '.') text) := by
  unfold stripRight lowerAscii
  rw [← List.map_reverse, List.dropWhile_map, ← List.map_reverse]
  congr 3
  funext c
  exact decide_eq_decide.mpr (lower_eq_iff (by decide))

theorem colon_not_mem_lowerAscii {text : List Char} (h : ':' ∉ text) :
    ':' ∉ lowerAscii text := by
  intro hmem
  obtain ⟨c, hc, hcolon⟩ := List.mem_map.mp hmem
  rw [(lower_eq_iff (by decide)).mp hcolon] at hc
  exact h hc

/-- The port is what follows the last colon. -/
theorem lastColon_join (host : List Char) {port : List Char} (h : ':' ∉ port) :
    lastColon (host ++ ':' :: port) = some (host, port) := by
  have htake : ((host ++ ':' :: port).reverse.takeWhile (· ≠ ':')).reverse = port := by
    rw [List.reverse_append, List.reverse_cons, List.append_assoc,
      List.takeWhile_append_of_pos fun c hc => by
        simpa using fun hcolon : c = ':' => h (hcolon ▸ List.mem_reverse.mp hc)]
    simp
  have hlength : (host ++ ':' :: port).length - port.length - 1 = host.length := by
    rw [List.length_append, List.length_cons]
    omega
  simp only [lastColon]
  rw [if_pos (by simp), htake, hlength, List.take_left]

/-- A local name after a colon is a local name. -/
theorem isLocalhostName_join {text rest : List Char}
    (h : isLocalhostName (text ++ ':' :: rest) = true) :
    isLocalhostName rest = true := by
  rw [isLocalhostName, Bool.or_eq_true] at h ⊢
  rcases h with h | h
  · have hcolon : ':' ∈ "localhost".toList := eq_of_beq h ▸ by simp
    exact absurd hcolon (by decide)
  · refine .inr ?_
    rw [List.isPrefixOf_iff_prefix, List.reverse_prefix] at h ⊢
    have hrest : ':' :: rest <:+ text ++ ':' :: rest := List.suffix_append ..
    rcases List.suffix_or_suffix_of_suffix h hrest with hsuffix | hsuffix
    · rcases List.suffix_cons_iff.mp hsuffix with heq | hsuffix
      · exact absurd (heq ▸ List.mem_cons_self ..)
          (by decide : ':' ∉ ".localhost".toList)
      · exact hsuffix
    · exact absurd (hsuffix.subset (List.mem_cons_self ..))
        (by decide : ':' ∉ ".localhost".toList)

theorem tokenAtom_names {token : List Char} (h : ∀ c ∈ token, isNamePart c = true) :
    tokenAtom token = stripRight (· = '.') token := by
  have hbracket : ∀ c ∈ token, (decide (c = '[') || decide (c = ']')) = false := by
    intro c hc
    by_contra hopen
    rw [Bool.not_eq_false, Bool.or_eq_true, decide_eq_true_eq,
      decide_eq_true_eq] at hopen
    rcases hopen with rfl | rfl <;> exact absurd (h _ hc) (by decide)
  have hdrop : token.dropWhile (fun c => c = '[' || c = ']') = token := by
    cases token with
    | nil => rfl
    | cons c rest =>
        rw [List.dropWhile_cons, hbracket c (List.mem_cons_self ..), if_neg nofun]
  rw [tokenAtom, hdrop, stripRight_of_kept hbracket]

/-- With a port behind it a name is local only when the name is. -/
theorem isLocalhostEndpoint_join {text port : List Char}
    (hplain : IsPlain (text ++ ':' :: port)) (hport : ':' ∉ port)
    (h : isLocalhostName (lowerAscii (stripRight (· = '.') text)) = false) :
    isLocalhostEndpoint (text ++ ':' :: port) = .ok false := by
  have hsearch := isLocalhostEndpoint_raises (text ++ ':' :: port)
  rw [unreadablePort_of_plain hplain] at hsearch
  obtain ⟨answer, hanswer⟩ := hsearch.answered
  have hcolon : lastColon (stripRight (· = '.') (lowerAscii (text ++ ':' :: port))) =
      some (lowerAscii text, stripRight (· = '.') (lowerAscii port)) := by
    rw [lowerAscii_join, stripRight_join (by decide), lastColon_join]
    exact fun hmem =>
      colon_not_mem_lowerAscii hport ((stripRight_sublist ..).subset hmem)
  rw [isLocalhostEndpoint, hcolon] at hanswer ⊢
  dsimp only at hanswer ⊢
  split at hanswer
  · rename_i hnone
    rw [if_pos hnone]
  · rename_i hdigits
    obtain ⟨value, hvalue, hanswer⟩ := bind_ok.mp hanswer
    rw [if_neg hdigits, hvalue, ok_bind, stripRight_lowerAscii, h, Bool.and_false]
    rfl

/-! ## Addresses -/

/-- What begins with a letter is no address of version 4. -/
theorem isIpv4_of_letter {c : Char} (rest : List Char) (hdot : c ≠ '.')
    (hc : ¬ (48 ≤ c.toNat ∧ c.toNat ≤ 57)) : isIpv4 (c :: rest) = false := by
  obtain ⟨first, more, hsplit⟩ : ∃ first more,
      (c :: rest).splitOn '.' = (c :: first) :: more := by
    rw [List.splitOn, List.splitOnP_cons_eq_if_modifyHead, if_neg (by simpa using hdot)]
    cases hrest : rest.splitOnP (· == '.') with
    | nil => exact absurd hrest (List.splitOnP_ne_nil _ _)
    | cons first more => exact ⟨first, more, rfl⟩
  have hoctet : isOctet (c :: first) = false := by
    by_contra hoctet
    simp only [isOctet, List.all_cons, Bool.not_eq_false, Bool.and_eq_true,
      decide_eq_true_eq] at hoctet
    exact hc hoctet.1.1.1.2.1
  rw [isIpv4, hsplit, List.all_cons, hoctet, Bool.false_and, Bool.and_false]

/-- A first group of more than four characters is no group. -/
theorem isIpv6Groups_of_long {address first : List Char} {more : List (List Char)}
    (h : hextetsOf address = some (first :: more)) (hlong : 4 < first.length) :
    isIpv6Groups address = false := by
  have hhextet : isHextet first = false := by
    simp [isHextet, Nat.not_le.mpr hlong]
  have hempty : first.isEmpty = false := by
    cases first with
    | nil => exact absurd hlong (Nat.not_lt_zero 4)
    | cons c rest => rfl
  simp only [isIpv6Groups, h, List.all_cons, hhextet, hempty, Bool.false_or,
    Bool.false_and, Bool.and_false]
  split
  · rfl
  · split <;> rfl

theorem hextetsOf_join {word rest : List Char} (hword : ':' ∉ word)
    {parts : List (List Char)} (h : hextetsOf (word ++ ':' :: rest) = some parts) :
    ∃ more, parts = word :: more := by
  have hsplit : (word ++ ':' :: rest).splitOn ':' = word :: rest.splitOn ':' :=
    List.splitOn_append_cons_self_of_not_mem hword ..
  obtain ⟨second, more, hmore⟩ :=
    List.exists_cons_of_ne_nil (List.splitOn_ne_nil ':' rest)
  simp only [hextetsOf, hsplit, hmore] at h
  split at h
  · split at h
    · cases h
    · split at h
      · split at h
        · cases h
          exact ⟨_, rfl⟩
        · cases h
      · cases h
        exact ⟨_, rfl⟩
  · cases h

/-- A long word and a colon begin no address. -/
theorem isIpAddress_word {c : Char} {word rest : List Char} (hc : isAsciiAlnum c = true)
    (hletter : ¬ (48 ≤ c.toNat ∧ c.toNat ≤ 57)) (hword : ':' ∉ c :: word)
    (hlong : 3 < word.length)
    (hnames : ∀ d ∈ c :: word ++ ':' :: rest, isNamePart d = true) :
    isIpAddress (c :: word ++ ':' :: rest) = false := by
  have hdot : c ≠ '.' := by
    rintro rfl
    exact absurd hc (by decide)
  have hscope : (c :: word ++ ':' :: rest).splitOn '%' = [c :: word ++ ':' :: rest] :=
    List.splitOn_eq_singleton fun hmem => absurd (hnames _ hmem) (by decide)
  have hgroups : isIpv6Groups (c :: word ++ ':' :: rest) = false := by
    cases hparts : hextetsOf (c :: word ++ ':' :: rest) with
    | none => rw [isIpv6Groups, hparts]
    | some parts =>
        obtain ⟨more, rfl⟩ := hextetsOf_join hword hparts
        exact isIpv6Groups_of_long hparts (Nat.succ_lt_succ hlong)
  rw [isIpAddress, hscope, List.cons_append, isIpv4_of_letter _ hdot hletter]
  rw [List.cons_append] at hgroups
  simp only [hgroups, Bool.and_false, Bool.or_false]

/-! ## Identifiers that are accepted -/

/-- What the search leaves of an identifier. -/
structure IsPublicName (name : List Char) : Prop where
  short : name.length ≤ 128
  parts : ∀ c ∈ name, isIdentifierTail c = true
  token : compactToken.search (notAfter isAsciiAlnum) none name = false
  remote : isLocalhostName (lowerAscii (stripRight (· = '.') name)) = false

namespace IsPublicName

variable {name : List Char}

theorem namePart (h : IsPublicName name) : ∀ c ∈ name, isNamePart c = true :=
  fun c hc => by
  rw [isNamePart, h.parts c hc, Bool.true_or]

theorem colon (h : IsPublicName name) : ':' ∉ name := fun hmem =>
  absurd (h.parts _ hmem) (by decide)

end IsPublicName

theorem parts_of_isIdentifier {value : String} (h : isIdentifier value = true) :
    (∀ c ∈ value.toList, isIdentifierTail c = true) ∧
      ∃ c ∈ value.toList, isAsciiAlnum c = true := by
  rw [isIdentifier] at h
  cases hvalue : value.toList with
  | nil => simp [hvalue] at h
  | cons c rest =>
      simp only [hvalue, Bool.and_eq_true, List.all_eq_true] at h
      refine ⟨fun d hd => ?_, c, List.mem_cons_self .., h.1.1⟩
      rcases List.mem_cons.mp hd with rfl | hd
      · rw [isIdentifierTail, h.1.1, Bool.true_or, Bool.true_or, Bool.true_or]
      · exact h.1.2 d hd

theorem escaping_eq_ok {α : Type} {x : Except PyError α} {a : α} :
    escaping x = .ok a ↔ x = .ok a := by
  cases x with
  | error e => exact ⟨nofun, nofun⟩
  | ok value => exact ⟨fun h => by cases h; rfl, fun h => by cases h; rfl⟩

theorem publicMaterialViolation_of_accepted {value name : String}
    (h : requireIdentifier value name = .ok ()) :
    publicMaterialViolation value = .ok none := by
  have hidentifier := isIdentifier_of_accepted h
  unfold requireIdentifier requireIdentifierAs identifierViolation at h
  rw [if_pos hidentifier] at h
  obtain ⟨violation, hviolation, h⟩ := bind_ok.mp h
  rw [escaping_eq_ok.mp hviolation]
  cases violation with
  | none => rfl
  | some violation => cases violation <;> cases h

/-- The search of an accepted identifier finds no endpoint in its one token. -/
theorem publicName_of_accepted {value name : String}
    (h : requireIdentifier value name = .ok ()) : IsPublicName value.toList := by
  obtain ⟨hparts, c, hc, halnum⟩ := parts_of_isIdentifier (isIdentifier_of_accepted h)
  have hnames : ∀ c ∈ value.toList, isNamePart c = true := fun c hc => by
    rw [isNamePart, hparts c hc, Bool.true_or]
  have hcolon : ':' ∉ value.toList := fun hmem => absurd (hparts _ hmem) (by decide)
  have hsearch := publicMaterialViolation_of_accepted h
  simp only [publicMaterialViolation, percentProjection_names hnames, Bool.or_self,
    containsCredentialEnvelope_names hnames] at hsearch
  split at hsearch
  · cases hsearch
  rename_i htoken
  refine ⟨length_of_isIdentifier (isIdentifier_of_accepted h), hparts,
    Bool.eq_false_of_not_eq_true htoken, ?_⟩
  have hendpoint : containsEndpointEnvelope value.toList = .ok false := by
    obtain ⟨found, hfound, hsearch⟩ := bind_ok.mp hsearch
    cases found with
    | true => cases hsearch
    | false => exact hfound
  rw [containsEndpointEnvelope, tokens_names hnames] at hendpoint
  split at hendpoint
  · cases hendpoint
  have hkept : (stripRight (· = '.') value.toList).isEmpty = false := by
    rw [List.isEmpty_eq_false_iff]
    intro hempty
    have hdot :=
      (List.rdropWhile_eq_nil_iff (p := fun d => decide (d = '.'))).mp hempty c hc
    rw [of_decide_eq_true hdot] at halnum
    exact absurd halnum (by decide)
  have hlower : ':' ∉
      lowerAscii (stripRight (· = '.') (stripRight (· = '.') value.toList)) :=
    colon_not_mem_lowerAscii fun hmem =>
      hcolon ((stripRight_sublist ..).subset ((stripRight_sublist ..).subset hmem))
  have hlocal : isLocalhostEndpoint (stripRight (· = '.') value.toList) =
      .ok (isLocalhostName (lowerAscii (stripRight (· = '.') value.toList))) := by
    rw [isLocalhostEndpoint, stripRight_lowerAscii, lastColon]
    rw [if_neg (by simpa using hlower), stripRight_stripRight]
  rw [anyEndpointToken, tokenAtom_names hnames, hkept, hlocal] at hendpoint
  cases hname : isLocalhostName (lowerAscii (stripRight (· = '.') value.toList)) with
  | false => rfl
  | true =>
      rw [hname] at hendpoint
      cases hendpoint

/-! ## The audience as a public text -/

/-- The word before the first colon of an audience, with its first letter. -/
structure IsAudienceWord (c : Char) (word : List Char) : Prop where
  letter : ¬ (48 ≤ c.toNat ∧ c.toNat ≤ 57)
  alnum : ∀ d ∈ c :: word, isAsciiAlnum d = true
  long : 3 < word.length
  short : word.length ≤ 100
  token : compactToken.search (notAfter isAsciiAlnum) none (c :: word) = false

theorem isAudienceWord_workload : IsAudienceWord 'w' "orkload".toList :=
  ⟨by decide, forall_mem_of_all (by decide), by decide, by decide, by decide⟩

theorem isAudienceWord_gateway : IsAudienceWord 'g' "ateway".toList :=
  ⟨by decide, forall_mem_of_all (by decide), by decide, by decide, by decide⟩

section Joined

variable {c : Char} {word first second : List Char} (hword : IsAudienceWord c word)
  (hfirst : IsPublicName first) (hsecond : IsPublicName second)

include hword in
theorem colon_not_mem_word : ':' ∉ c :: word := fun hmem =>
  absurd (hword.alnum _ hmem) (by decide)

include hword hfirst hsecond in
theorem namePart_joined :
    ∀ d ∈ c :: word ++ ':' :: (first ++ ':' :: second), isNamePart d = true := by
  intro d hd
  rcases List.mem_append.mp hd with hd | hd
  · exact namePart_of_alnum (hword.alnum d hd)
  rcases List.mem_cons.mp hd with rfl | hd
  · decide
  rcases List.mem_append.mp hd with hd | hd
  · exact hfirst.namePart d hd
  rcases List.mem_cons.mp hd with rfl | hd
  · decide
  · exact hsecond.namePart d hd

include hword hfirst hsecond in
theorem containsCredentialEnvelope_joined :
    containsCredentialEnvelope (c :: word ++ ':' :: (first ++ ':' :: second)) =
      false := by
  rw [containsCredentialEnvelope_names (namePart_joined hword hfirst hsecond),
    compactToken_join, compactToken_join, hword.token, hfirst.token, hsecond.token]
  rfl

include hword hfirst hsecond in
theorem plain_joined : IsPlain (c :: word ++ ':' :: (first ++ ':' :: second)) := by
  refine ⟨fun d hd => ascii_of_namePart (namePart_joined hword hfirst hsecond d hd), ?_⟩
  have := hword.short
  have := hfirst.short
  have := hsecond.short
  simp only [List.length_append, List.length_cons]
  omega

include hword hfirst hsecond in
/-- The one token of an audience names no local host and is no address. -/
theorem anyEndpointToken_joined :
    anyEndpointToken [c :: word ++ ':' :: (first ++ ':' :: second)] = .ok false := by
  have hnames := namePart_joined hword hfirst hsecond
  have hjoin : ∀ last, c :: word ++ ':' :: (first ++ ':' :: last) =
      (c :: word ++ ':' :: first) ++ ':' :: last := by simp
  have hatom : tokenAtom (c :: word ++ ':' :: (first ++ ':' :: second)) =
      c :: word ++ ':' :: (first ++ ':' :: stripRight (· = '.') second) := by
    rw [tokenAtom_names hnames, hjoin, stripRight_join (by decide), ← hjoin]
  have hsublist : (c :: word ++ ':' :: (first ++ ':' :: stripRight
      (· = '.') second)).Sublist (c :: word ++ ':' :: (first ++ ':' :: second)) :=
    ((((stripRight_sublist ..).cons_cons ':').append_left first).cons_cons
      ':').append_left _
  have hremote :
      isLocalhostName (lowerAscii (stripRight (· = '.') (c :: word ++ ':' :: first))) =
      false := by
    rw [stripRight_join (by decide), lowerAscii_join]
    by_contra hname
    have := isLocalhostName_join (Bool.eq_true_of_not_eq_false hname)
    rw [hfirst.remote] at this
    cases this
  have hplain : IsPlain
      ((c :: word ++ ':' :: first) ++ ':' :: stripRight (· = '.') second) :=
    hjoin _ ▸ (plain_joined hword hfirst hsecond).sublist hsublist
  have hlocal : isLocalhostEndpoint
      (c :: word ++ ':' :: (first ++ ':' :: stripRight (· = '.') second)) =
      .ok false := by
    rw [hjoin]
    exact isLocalhostEndpoint_join hplain
      (fun hmem => hsecond.colon ((stripRight_sublist ..).subset hmem)) hremote
  have haddress := isIpAddress_word (hword.alnum c (List.mem_cons_self ..)) hword.letter
    (colon_not_mem_word hword) hword.long
    (fun d hd => hnames d (hsublist.subset hd))
  rw [List.cons_append] at haddress
  rw [anyEndpointToken, hatom, hlocal]
  simp only [haddress, List.cons_append, List.isEmpty_cons, Bool.false_eq_true,
    if_false, Bool.or_self, anyEndpointToken]

include hword hfirst hsecond in
/-- **What the search finds in an audience**: an endpoint when the first identifier
begins with a port, and nothing else. -/
theorem publicMaterialViolation_joined {text : String}
    (htext : text.toList = c :: word ++ ':' :: (first ++ ':' :: second)) :
    publicMaterialViolation text =
      .ok (if (portAt first).any fun port => 1 ≤ port.1 && port.1 ≤ 65535 then
        some .endpointEnvelope else none) := by
  have hnames := namePart_joined hword hfirst hsecond
  have hendpoint : containsEndpointEnvelope
      (c :: word ++ ':' :: (first ++ ':' :: second)) =
      .ok ((portAt first).any fun port => 1 ≤ port.1 && port.1 ≤ 65535) := by
    have hhost := containsHostPort_word (hword.alnum c (List.mem_cons_self ..))
      (fun d hd => hword.alnum d (List.mem_cons_of_mem _ hd))
      (fun d hd => hnames d (List.mem_append_right _ (List.mem_cons_of_mem _ hd)))
    rw [← List.cons_append] at hhost
    rw [containsEndpointEnvelope, needs_schemeEndpoint.search hnames,
      needs_protocolRelativeEndpoint.search hnames, hhost, portAt_join,
      tokens_names hnames, anyEndpointToken_joined hword hfirst hsecond, Bool.or_self,
      Bool.false_or]
    cases (portAt first).any fun port => 1 ≤ port.1 && port.1 ≤ 65535 <;> rfl
  simp only [publicMaterialViolation, htext, percentProjection_names hnames,
    Bool.or_self, containsCredentialEnvelope_joined hword hfirst hsecond,
    hendpoint, ok_bind]
  cases (portAt first).any fun port => 1 ≤ port.1 && port.1 ≤ 65535 <;> rfl

end Joined

/-! ## Derived audiences -/

theorem toList_workloadAudience (target : NodeControlTarget) :
    ("workload:" ++ target.nodeId.value ++ ":" ++
      target.providerSocketName.value).toList =
      'w' :: "orkload".toList ++
        ':' :: (target.nodeId.value.toList ++ ':' ::
          target.providerSocketName.value.toList) := by
  have hword : "workload:".toList = 'w' :: "orkload".toList ++ [':'] := by decide
  simp only [String.toList_append, hword, List.append_assoc, List.nil_append,
    List.cons_append, show ":".toList = [':'] from rfl]

theorem toList_gatewayAudience (workspaceId : NodeControlGraphReference .workspace)
    (gatewayNodeId : NodeControlGraphReference .node) :
    ("gateway:" ++ workspaceId.value ++ ":" ++ gatewayNodeId.value).toList =
      'g' :: "ateway".toList ++
        ':' :: (workspaceId.value.toList ++ ':' :: gatewayNodeId.value.toList) := by
  have hword : "gateway:".toList = 'g' :: "ateway".toList ++ [':'] := by decide
  simp only [String.toList_append, hword, List.append_assoc, List.nil_append,
    List.cons_append, show ":".toList = [':'] from rfl]

theorem publicName (role : NodeControlGraphReferenceRole)
    (reference : NodeControlGraphReference role) :
    IsPublicName reference.value.toList :=
  publicName_of_accepted reference.accepted

/-- An audience of a workload is a reference just when it is not too long. -/
theorem isReference_workloadAudience (target : NodeControlTarget) :
    isReference ("workload:" ++ target.nodeId.value ++ ":" ++
      target.providerSocketName.value) =
      decide (target.nodeId.value.length +
        target.providerSocketName.value.length ≤ 246) := by
  have hnames := namePart_joined isAudienceWord_workload (publicName _ target.nodeId)
    (publicName _ target.providerSocketName)
  have hparts : ("orkload".toList ++ ':' :: (target.nodeId.value.toList ++
      ':' :: target.providerSocketName.value.toList)).all isReferencePart = true := by
    rw [List.all_eq_true]
    intro d hd
    have := hnames d (List.mem_cons_of_mem _ hd)
    rw [isNamePart, Bool.or_eq_true] at this
    rw [isReferencePart, Bool.or_eq_true, Bool.or_eq_true]
    exact .inl this
  rw [isReference, toList_workloadAudience, List.cons_append]
  dsimp only
  rw [hparts, show isAsciiAlnum 'w' = true from rfl, Bool.true_and, Bool.true_and]
  refine decide_eq_decide.mpr ?_
  simp only [List.length_append, List.length_cons, String.length_toList,
    show "orkload".toList.length = 7 from rfl]
  omega

/-- **The audience of a workload**, or why there is none. -/
theorem workloadNodeControlAudience_eq (target : NodeControlTarget) :
    workloadNodeControlAudience target =
      if target.nodeId.value.length + target.providerSocketName.value.length ≤ 246 then
        if beginsWithPort target.nodeId.value then
          .error (.contract
            "workload grant audience violates endpoint-envelope public-material law")
        else .ok ("workload:" ++ target.nodeId.value ++ ":" ++
          target.providerSocketName.value)
      else .error (.contract
        "workload grant audience must be a bounded reference") := by
  rw [workloadNodeControlAudience, requireReference, requireReferenceAs,
    referenceViolation, isReference_workloadAudience, publicMaterialViolation_joined
    isAudienceWord_workload (publicName _ target.nodeId) (publicName
      _ target.providerSocketName) (toList_workloadAudience target), ← beginsWithPort]
  by_cases hshort : target.nodeId.value.length +
    target.providerSocketName.value.length ≤ 246
  · rw [if_pos hshort, if_pos (decide_eq_true hshort)]
    cases beginsWithPort target.nodeId.value <;> rfl
  · rw [if_neg hshort, if_neg (by simpa using hshort)]
    rfl

/-- **The audience of a gateway**, or why there is none. -/
theorem deriveAudience_eq (workspaceId : NodeControlGraphReference .workspace)
    (gatewayNodeId : NodeControlGraphReference .node) :
    deriveAudience workspaceId gatewayNodeId =
      if beginsWithPort workspaceId.value then
        .error (.transit "transit grant audience is malformed")
      else .ok ("gateway:" ++ workspaceId.value ++ ":" ++ gatewayNodeId.value) := by
  have hlength :
      ("gateway:" ++ workspaceId.value ++ ":" ++ gatewayNodeId.value).length ≤ 265 := by
    have := (publicName _ workspaceId).short
    have := (publicName _ gatewayNodeId).short
    rw [← String.length_toList, toList_gatewayAudience]
    simp only [List.length_append, List.length_cons,
      show "ateway".toList.length = 6 from rfl]
    omega
  rw [deriveAudience, publicMaterialViolation_joined isAudienceWord_gateway
    (publicName _ workspaceId) (publicName _ gatewayNodeId)
    (toList_gatewayAudience workspaceId gatewayNodeId), ← beginsWithPort]
  simp only [hlength, decide_true, Bool.true_and]
  cases beginsWithPort workspaceId.value <;> rfl

/-- At most one colon stands between two names, so they can be read back. -/
theorem join_injective {first second other another : List Char} (hfirst : ':' ∉ first)
    (hother : ':' ∉ other) (h : first ++ ':' :: second = other ++ ':' :: another) :
    first = other ∧ second = another := by
  have hsplit := congrArg (·.takeWhile (· ≠ ':')) h
  have hkept : ∀ {text : List Char}, ':' ∉ text → ∀ c ∈ text, decide (c ≠ ':') = true :=
    fun htext c hc => decide_eq_true fun hcolon : c = ':' => htext (hcolon ▸ hc)
  simp only [List.takeWhile_append_of_pos (hkept hfirst),
    List.takeWhile_append_of_pos (hkept hother), List.takeWhile_cons, ne_eq, not_true,
    decide_false, Bool.false_eq_true, if_false, List.append_nil] at hsplit
  subst hsplit
  exact ⟨rfl, (List.cons.inj (List.append_cancel_left h)).2⟩

theorem workloadAudience_of_ok {target : NodeControlTarget} {audience : String}
    (h : workloadNodeControlAudience target = .ok audience) :
    audience = "workload:" ++ target.nodeId.value ++ ":" ++
    target.providerSocketName.value := by
  rw [workloadNodeControlAudience_eq] at h
  split at h
  · split at h
    · cases h
    · cases h
      rfl
  · cases h

theorem gatewayAudience_of_ok {workspaceId : NodeControlGraphReference .workspace}
    {gatewayNodeId : NodeControlGraphReference .node} {audience : String}
    (h : deriveAudience workspaceId gatewayNodeId = .ok audience) :
    audience = "gateway:" ++ workspaceId.value ++ ":" ++ gatewayNodeId.value := by
  rw [deriveAudience_eq] at h
  split at h
  · cases h
  · cases h
    rfl

theorem workloadAudience_injective {target other : NodeControlTarget}
    {audience : String} (h : workloadNodeControlAudience target = .ok audience)
    (hother : workloadNodeControlAudience other = .ok audience) :
    target.nodeId = other.nodeId ∧
    target.providerSocketName = other.providerSocketName := by
  have heq := congrArg String.toList
    ((workloadAudience_of_ok h).symm.trans (workloadAudience_of_ok hother))
  rw [toList_workloadAudience, toList_workloadAudience] at heq
  obtain ⟨hnode, hsocket⟩ := join_injective (publicName _ target.nodeId).colon
    (publicName _ other.nodeId).colon (List.cons.inj (List.append_cancel_left heq)).2
  exact ⟨NodeControlGraphReference.eq_of_value (String.toList_injective hnode),
    NodeControlGraphReference.eq_of_value (String.toList_injective hsocket)⟩

theorem gatewayAudience_injective
    {workspaceId otherWorkspace : NodeControlGraphReference .workspace}
    {gatewayNodeId otherGateway : NodeControlGraphReference .node} {audience : String}
    (h : deriveAudience workspaceId gatewayNodeId = .ok audience)
    (hother : deriveAudience otherWorkspace otherGateway = .ok audience) :
    workspaceId = otherWorkspace ∧ gatewayNodeId = otherGateway := by
  have heq := congrArg String.toList
    ((gatewayAudience_of_ok h).symm.trans (gatewayAudience_of_ok hother))
  rw [toList_gatewayAudience, toList_gatewayAudience] at heq
  obtain ⟨hworkspace, hgateway⟩ := join_injective (publicName _ workspaceId).colon
    (publicName _ otherWorkspace).colon (List.cons.inj (List.append_cancel_left heq)).2
  exact ⟨NodeControlGraphReference.eq_of_value (String.toList_injective hworkspace),
    NodeControlGraphReference.eq_of_value (String.toList_injective hgateway)⟩

theorem workload_ne_gateway {target : NodeControlTarget}
    {workspaceId : NodeControlGraphReference .workspace}
    {gatewayNodeId : NodeControlGraphReference .node} {audience other : String}
    (h : workloadNodeControlAudience target = .ok audience)
    (hother : deriveAudience workspaceId gatewayNodeId = .ok other) :
    audience ≠ other := by
  intro heq
  have hlist := congrArg String.toList heq
  rw [workloadAudience_of_ok h, gatewayAudience_of_ok hother, toList_workloadAudience,
    toList_gatewayAudience] at hlist
  exact absurd (List.cons.inj hlist).1 (by decide)

/-- The audience of the target is a reference, and does not look like a host with a
port. -/
def HasAudience (target : NodeControlTarget) : Prop :=
  target.nodeId.value.length + target.providerSocketName.value.length ≤ 246 ∧
    beginsWithPort target.nodeId.value = false

/-- **Audiences.**  A workload audience is derived, and accepted by the check of a
grant, exactly for the targets whose identifiers are together short enough and whose
node does not begin with a port; a gateway audience exactly when the workspace does not
begin with one.  Otherwise the module raises its own error.  Audiences tell their
identifiers, and which of the two they are. -/
theorem audience_derivation :
    (∀ target,
      (HasAudience target → ∃ audience,
        workloadNodeControlAudience target = .ok audience ∧
        requireReference audience "workload grant audience" = .ok ()) ∧
      (¬ HasAudience target →
        ∃ message, workloadNodeControlAudience target = .error (.contract message))) ∧
    (∀ workspaceId gatewayNodeId,
      (beginsWithPort workspaceId.value = false →
        ∃ audience, deriveAudience workspaceId gatewayNodeId = .ok audience ∧
          audience.length ≤ 265 ∧ publicMaterialViolation audience = .ok none) ∧
      (beginsWithPort workspaceId.value = true →
        ∃ message, deriveAudience workspaceId gatewayNodeId =
          .error (.transit message))) ∧
    (∀ target other audience, workloadNodeControlAudience target = .ok audience →
      workloadNodeControlAudience other = .ok audience →
        target.nodeId = other.nodeId ∧
        target.providerSocketName = other.providerSocketName) ∧
    (∀ workspaceId gatewayNodeId otherWorkspace otherGateway audience,
      deriveAudience workspaceId gatewayNodeId = .ok audience →
      deriveAudience otherWorkspace otherGateway = .ok audience →
        workspaceId = otherWorkspace ∧ gatewayNodeId = otherGateway) ∧
    ∀ target workspaceId gatewayNodeId audience other,
      workloadNodeControlAudience target = .ok audience →
      deriveAudience workspaceId gatewayNodeId = .ok other → audience ≠ other := by
  refine ⟨fun target => ⟨?_, ?_⟩, fun workspaceId gatewayNodeId => ⟨?_, ?_⟩,
    fun _ _ _ => workloadAudience_injective, fun _ _ _ _ _ => gatewayAudience_injective,
    fun _ _ _ _ _ => workload_ne_gateway⟩
  · rintro ⟨hshort, hport⟩
    have haudience := workloadNodeControlAudience_eq target
    rw [if_pos hshort, hport] at haudience
    refine ⟨_, haudience, ?_⟩
    obtain ⟨hchecked, -⟩ := check_bind_ok.mp haudience
    exact hchecked
  · intro hnone
    rw [workloadNodeControlAudience_eq]
    split
    · rename_i hshort
      rw [if_pos (Bool.eq_true_of_not_eq_false fun hport => hnone ⟨hshort, hport⟩)]
      exact ⟨_, rfl⟩
    · exact ⟨_, rfl⟩
  · intro hport
    have haudience := deriveAudience_eq workspaceId gatewayNodeId
    rw [hport] at haudience
    refine ⟨_, haudience, ?_⟩
    obtain ⟨violation, hviolation, hchecked⟩ := bind_ok.mp haudience
    obtain ⟨hrequired, -⟩ := check_bind_ok.mp hchecked
    rw [requireWire_eq_ok, Bool.and_eq_true, decide_eq_true_eq,
      Option.isNone_iff_eq_none] at hrequired
    exact ⟨hrequired.1, hrequired.2 ▸ escaping_eq_ok.mp hviolation⟩
  · intro hport
    rw [deriveAudience_eq, if_pos hport]
    exact ⟨_, rfl⟩

/-! ## Targets without an audience -/

/-- A node, and a socket, of the given name. -/
def audienceTarget (node socket : String)
    (hnode : requireIdentifier node "node-control graph reference" = .ok ())
    (hsocket : requireIdentifier socket "node-control graph reference" = .ok ()) :
    NodeControlTarget where
  workspaceId := ⟨"w", by decide⟩
  graphRevision := ⟨"r", by decide⟩
  nodeId := ⟨node, hnode⟩
  providerSocketName := ⟨socket, hsocket⟩

def nameOfLength (n : Nat) : String := String.ofList ('n' :: List.replicate n '_')

theorem length_nameOfLength (n : Nat) : (nameOfLength n).length = n + 1 := by
  rw [nameOfLength, String.length_ofList, List.length_cons, List.length_replicate]

/-- As long as an identifier can be. -/
def longName : String := nameOfLength 127

theorem accepted_longName :
    requireIdentifier longName "node-control graph reference" = .ok () := by
  decide +kernel

theorem accepted_port :
    requireIdentifier "8080" "node-control graph reference" = .ok () := by
  decide

/-- Two long names make no reference, and a node or a workspace that is a port makes an
endpoint. -/
theorem audience_refused :
    workloadNodeControlAudience
        (audienceTarget longName longName accepted_longName accepted_longName) =
      .error (.contract "workload grant audience must be a bounded reference") ∧
    workloadNodeControlAudience
      (audienceTarget "8080" "8080" accepted_port accepted_port) =
      .error (.contract
        "workload grant audience violates endpoint-envelope public-material law") ∧
    deriveAudience ⟨"8080", accepted_port⟩ ⟨"8080", accepted_port⟩ =
      .error (.transit "transit grant audience is malformed") := by
  have hport : beginsWithPort "8080" = true := by decide
  refine ⟨?_, ?_, ?_⟩
  · have hlong : ¬ longName.length + longName.length ≤ 246 := by
      rw [longName, length_nameOfLength]
      decide
    rw [workloadNodeControlAudience_eq, audienceTarget, if_neg hlong]
  · have hshort : "8080".length + "8080".length ≤ 246 := by decide
    rw [workloadNodeControlAudience_eq]
    exact (if_pos hshort).trans (if_pos hport)
  · rw [deriveAudience_eq]
    exact if_pos hport

end ControlPlaneKit.NodeControl
