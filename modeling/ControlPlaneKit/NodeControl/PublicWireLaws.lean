import ControlPlaneKit.NodeControl.PublicWire

/-!
# PublicWireLaws — where the search of a public text raises

The search asks whether the text after a colon is made of digits, and then reads it
as an integer.  Digits that are not decimal pass the question and cannot be read.
A text of ASCII characters has no such digits, so identifiers, references and the
audiences made of them are searched to the end.
-/

namespace ControlPlaneKit.NodeControl

open ControlPlaneKit.Library (PyError)
open ControlPlaneKit.Library.Text (isAsciiAlnum)

/-- A search that raises a plain `ValueError` in one case, and in no other. -/
def RaisesWhen {α : Type} (unreadable : Bool) (search : Except PyError α) : Prop :=
  if unreadable then ∃ message, search = .error (.valueError message)
  else ∃ a, search = .ok a

namespace RaisesWhen

variable {α : Type} {search : Except PyError α} {unreadable : Bool}

theorem raised (h : RaisesWhen true search) :
    ∃ message, search = .error (.valueError message) := h

theorem answered (h : RaisesWhen false search) : ∃ a, search = .ok a := h

end RaisesWhen

/-! ## Integers -/

/-- The digits can be read as an integer. -/
def isReadable (digits : List Char) : Bool :=
  digits.length ≤ 4300 && digits.all isDecimal

theorem mapM_decimalValue (digits : List Char) :
    (digits.mapM decimalValue).isSome = digits.all isDecimal := by
  induction digits with
  | nil => rfl
  | cons c digits ih =>
      rw [List.mapM_cons, List.all_cons, ← ih, isDecimal]
      cases decimalValue c with
      | none => rfl
      | some value =>
          cases digits.mapM decimalValue with
          | none => rfl
          | some values => rfl

/-- `int(port)` raises exactly on digits that are no decimals. -/
theorem pyInt_raises (digits : List Char) :
    RaisesWhen (!isReadable digits) (pyInt digits) := by
  have hmap := mapM_decimalValue digits
  unfold pyInt isReadable
  by_cases hlength : 4300 < digits.length
  · simp [RaisesWhen, hlength, Nat.not_le.mpr hlength]
  · simp only [hlength, if_false, Nat.le_of_not_lt hlength, decide_true,
      Bool.true_and, ← hmap]
    cases digits.mapM decimalValue with
    | none => exact ⟨_, rfl⟩
    | some values => exact ⟨_, rfl⟩

/-! ## Endpoints -/

/-- The token ends in a port that is taken for digits and cannot be read. -/
def unreadablePort (atom : List Char) : Bool :=
  match lastColon (stripRight (· = '.') (lowerAscii atom)) with
  | none => false
  | some (_, port) => !port.isEmpty && port.all isDigit && !isReadable port

/-- One token is checked unless its port cannot be read. -/
theorem isLocalhostEndpoint_raises (atom : List Char) :
    RaisesWhen (unreadablePort atom) (isLocalhostEndpoint atom) := by
  cases hcolon : lastColon (stripRight (· = '.') (lowerAscii atom)) with
  | none =>
      simp only [unreadablePort, isLocalhostEndpoint, hcolon]
      exact ⟨_, rfl⟩
  | some parts =>
      obtain ⟨host, port⟩ := parts
      have hint := pyInt_raises port
      simp only [unreadablePort, isLocalhostEndpoint, hcolon]
      cases hempty : port.isEmpty with
      | true => exact ⟨_, rfl⟩
      | false =>
          cases hdigits : port.all isDigit with
          | false => exact ⟨_, rfl⟩
          | true =>
              cases hreadable : !isReadable port with
              | true =>
                  rw [hreadable] at hint
                  obtain ⟨message, hraised⟩ := hint.raised
                  exact ⟨message, by rw [hraised]; rfl⟩
              | false =>
                  rw [hreadable] at hint
                  obtain ⟨value, hvalue⟩ := hint.answered
                  exact ⟨_, by rw [hvalue]; rfl⟩

/-- A search that found something. -/
def found : Except PyError Bool → Bool
  | .ok answer => answer
  | .error _ => false

/-- The token names a local host or an address. -/
def namesEndpoint (atom : List Char) : Bool :=
  found (isLocalhostEndpoint atom) || isIpAddress atom

/-- Token by token, a port that cannot be read comes before a local host and before
an address. -/
def reachesUnreadablePort : List (List Char) → Bool
  | [] => false
  | token :: rest =>
      unreadablePort (tokenAtom token) ||
        (!namesEndpoint (tokenAtom token) && reachesUnreadablePort rest)

/-- The tokens are checked up to the first that is an endpoint, or cannot be read. -/
theorem anyEndpointToken_raises (tokens : List (List Char)) :
    RaisesWhen (reachesUnreadablePort tokens) (anyEndpointToken tokens) := by
  induction tokens with
  | nil => exact ⟨_, rfl⟩
  | cons token rest ih =>
      rw [reachesUnreadablePort, anyEndpointToken]
      cases hatom : tokenAtom token with
      | nil => exact ih
      | cons c atom =>
          have hlocal := isLocalhostEndpoint_raises (c :: atom)
          simp only [List.isEmpty_cons, Bool.false_eq_true, if_false]
          cases hport : unreadablePort (c :: atom) with
          | true =>
              rw [hport] at hlocal
              obtain ⟨message, hraised⟩ := hlocal.raised
              simp only [Bool.true_or, hraised]
              exact ⟨message, rfl⟩
          | false =>
              rw [hport] at hlocal
              obtain ⟨answer, hanswer⟩ := hlocal.answered
              simp only [Bool.false_or, namesEndpoint, hanswer, found]
              cases hnames : answer || isIpAddress (c :: atom) with
              | true => exact ⟨true, rfl⟩
              | false => exact ih

/-- The search for endpoints meets a port it cannot read. -/
def unreadableEndpoint (value : List Char) : Bool :=
  !(schemeEndpoint.search (fun _ => true) none value ||
      protocolRelativeEndpoint.search mayPrecedeHost none value ||
        containsHostPort none 0 value) &&
    reachesUnreadablePort (value.splitOnP isTokenSeparator)

/-- **A text is checked** unless the check comes to a port that cannot be read. -/
theorem containsEndpointEnvelope_raises (value : List Char) :
    RaisesWhen (unreadableEndpoint value) (containsEndpointEnvelope value) := by
  unfold unreadableEndpoint containsEndpointEnvelope
  cases schemeEndpoint.search (fun _ => true) none value ||
      protocolRelativeEndpoint.search mayPrecedeHost none value ||
      containsHostPort none 0 value with
  | true => exact ⟨true, rfl⟩
  | false => exact anyEndpointToken_raises _

/-- The text has no credentials, and as it is written, or with its escapes read, the
search for endpoints meets a port it cannot read. -/
def unreadableText (text : String) : Bool :=
  let plain := text.toList
  let projected := percentProjection 0 plain
  !(containsCredentialEnvelope plain || containsCredentialEnvelope projected) &&
    (unreadableEndpoint plain ||
      (!found (containsEndpointEnvelope plain) && unreadableEndpoint projected))

/-- **Where the search raises**: just at a text it cannot read. -/
theorem publicMaterialViolation_raises (text : String) :
    RaisesWhen (unreadableText text) (publicMaterialViolation text) := by
  have hplain := containsEndpointEnvelope_raises text.toList
  have hprojected := containsEndpointEnvelope_raises (percentProjection 0 text.toList)
  cases hcredential : containsCredentialEnvelope text.toList ||
      containsCredentialEnvelope (percentProjection 0 text.toList) with
  | true =>
      simp only [unreadableText, publicMaterialViolation, hcredential]
      exact ⟨_, rfl⟩
  | false =>
      simp only [unreadableText, publicMaterialViolation, hcredential, Bool.not_false,
        Bool.true_and, Bool.false_eq_true, if_false]
      cases hunreadable : unreadableEndpoint text.toList with
      | true =>
          rw [hunreadable] at hplain
          obtain ⟨message, hraised⟩ := hplain.raised
          rw [Bool.true_or, hraised]
          exact ⟨message, rfl⟩
      | false =>
          rw [hunreadable] at hplain
          obtain ⟨answer, hanswer⟩ := hplain.answered
          rw [Bool.false_or, hanswer]
          cases answer with
          | true => exact ⟨_, rfl⟩
          | false =>
              cases hprojection : unreadableEndpoint
                  (percentProjection 0 text.toList) with
              | true =>
                  rw [hprojection] at hprojected
                  obtain ⟨message, hraised⟩ := hprojected.raised
                  rw [hraised]
                  exact ⟨message, rfl⟩
              | false =>
                  rw [hprojection] at hprojected
                  obtain ⟨answer, hanswer⟩ := hprojected.answered
                  rw [hanswer]
                  cases answer <;> exact ⟨_, rfl⟩

/-! ## ASCII texts -/

/-- ASCII characters, no more of them than the language reads as one integer. -/
def IsPlain (text : List Char) : Prop :=
  (∀ c ∈ text, c.toNat < 128) ∧ text.length ≤ 4300

/-- Parts of a plain text are plain. -/
theorem IsPlain.sublist {text part : List Char} (h : IsPlain text)
    (hpart : part.Sublist text) : IsPlain part :=
  ⟨fun c hc => h.1 c (hpart.subset hc), hpart.length_le.trans h.2⟩

theorem toNat_ofNat_ascii {n : Nat} (h : n < 128) : (Char.ofNat n).toNat = n := by
  revert n
  decide

/-- ASCII digits are decimals, so that `int` reads them. -/
theorem isDecimal_of_isDigit {c : Char} (hascii : c.toNat < 128)
    (h : isDigit c = true) : isDecimal c = true := by
  have hother : (otherDigits.any fun range => range.1 ≤ c.toNat && c.toNat ≤ range.2) =
      false := by
    simp only [List.any_eq_false, Bool.and_eq_true, decide_eq_true_eq, not_and]
    intro range hrange hfirst
    have : 128 ≤ range.1 := by
      revert hrange
      simp only [otherDigits, List.mem_cons, List.not_mem_nil, or_false]
      rintro (rfl | rfl | rfl | rfl | rfl | rfl | rfl | rfl | rfl | rfl | rfl | rfl |
        rfl | rfl | rfl | rfl | rfl | rfl | rfl | rfl) <;> decide
    omega
  rw [isDigit, hother, Bool.or_false] at h
  exact h

theorem stripRight_sublist (stripped : Char → Bool) (text : List Char) :
    (stripRight stripped text).Sublist text := by
  have h := (List.dropWhile_sublist (l := text.reverse) stripped).reverse
  rwa [List.reverse_reverse] at h

/-- Lower-casing keeps a text plain. -/
theorem IsPlain.lowerAscii {text : List Char} (h : IsPlain text) :
    IsPlain (NodeControl.lowerAscii text) := by
  refine ⟨fun c hc => ?_, by simpa [NodeControl.lowerAscii] using h.2⟩
  obtain ⟨d, hd, rfl⟩ := List.mem_map.mp hc
  split
  · rename_i hupper
    simp only [Bool.and_eq_true, decide_eq_true_eq] at hupper
    rw [toNat_ofNat_ascii (by omega)]
    omega
  · exact h.1 d hd

/-- A port is part of its atom. -/
theorem lastColon_sublist {text host port : List Char}
    (h : lastColon text = some (host, port)) : port.Sublist text := by
  unfold lastColon at h
  split at h
  · cases h
    have hport := (List.takeWhile_sublist (l := text.reverse) (· ≠ ':')).reverse
    rwa [List.reverse_reverse] at hport
  · cases h

/-- The port of a plain atom can be read. -/
theorem unreadablePort_of_plain {atom : List Char} (h : IsPlain atom) :
    unreadablePort atom = false := by
  unfold unreadablePort
  cases hcolon : lastColon (stripRight (· = '.') (lowerAscii atom)) with
  | none => rfl
  | some parts =>
      obtain ⟨host, port⟩ := parts
      have hport : IsPlain port :=
        (h.lowerAscii.sublist (stripRight_sublist ..)).sublist
          (lastColon_sublist hcolon)
      cases hdigits : port.all isDigit with
      | false => simp [hdigits]
      | true =>
          have hreadable : isReadable port = true := by
            simp only [isReadable, Bool.and_eq_true, decide_eq_true_eq,
              List.all_eq_true]
            exact ⟨hport.2, fun c hc =>
              isDecimal_of_isDigit (hport.1 c hc) (List.all_eq_true.mp hdigits c hc)⟩
          simp [hreadable]

/-- An atom is part of its token. -/
theorem tokenAtom_sublist (token : List Char) : (tokenAtom token).Sublist token :=
  ((stripRight_sublist _ _).trans (stripRight_sublist _ _)).trans
    (List.dropWhile_sublist _)

/-- A token is part of its text. -/
theorem sublist_of_mem_splitOnP {p : Char → Bool} {text token : List Char}
    (h : token ∈ text.splitOnP p) : token.Sublist text := by
  induction text generalizing token with
  | nil =>
      rw [List.splitOnP_nil, List.mem_singleton] at h
      rw [h]
  | cons c text ih =>
      rw [List.splitOnP_cons_eq_if_modifyHead] at h
      split at h
      · rcases List.mem_cons.mp h with rfl | h
        · exact List.nil_sublist _
        · exact (ih h).cons c
      · cases hsplit : text.splitOnP p with
        | nil => exact absurd hsplit (List.splitOnP_ne_nil p text)
        | cons head tail =>
            rw [hsplit, List.modifyHead_cons] at h
            rcases List.mem_cons.mp h with rfl | h
            · exact (ih (hsplit ▸ List.mem_cons_self ..)).cons_cons c
            · exact (ih (hsplit ▸ List.mem_cons_of_mem _ h)).cons c

theorem reachesUnreadablePort_of_plain {tokens : List (List Char)}
    (h : ∀ token ∈ tokens, IsPlain token) : reachesUnreadablePort tokens = false := by
  induction tokens with
  | nil => rfl
  | cons token rest ih =>
      have htoken := (h token (List.mem_cons_self ..)).sublist (tokenAtom_sublist token)
      rw [reachesUnreadablePort, unreadablePort_of_plain htoken,
        ih fun other hother => h other (List.mem_cons_of_mem _ hother), Bool.and_false]
      rfl

/-- **In a plain text every port can be read.** -/
theorem unreadableEndpoint_of_plain {value : List Char} (h : IsPlain value) :
    unreadableEndpoint value = false := by
  rw [unreadableEndpoint, reachesUnreadablePort_of_plain, Bool.and_false]
  exact fun token htoken => h.sublist (sublist_of_mem_splitOnP htoken)

/-- Decoding percents makes a text no longer. -/
theorem length_percentProjection (skip : Nat) (text : List Char) :
    (percentProjection skip text).length ≤ text.length := by
  fun_induction percentProjection skip text with
  | case1 => exact le_rfl
  | case2 c rest skip ih => exact ih.trans (Nat.le_succ _)
  | case3 | case4 | case5 | case6 => simpa using ‹_›

/-- And takes ASCII to ASCII. -/
theorem ascii_percentProjection {skip : Nat} {text : List Char}
    (h : ∀ c ∈ text, c.toNat < 128) :
    ∀ c ∈ percentProjection skip text, c.toNat < 128 := by
  fun_induction percentProjection skip text with
  | case1 => exact nofun
  | case2 c rest skip ih => exact ih fun d hd => h d (List.mem_cons_of_mem _ hd)
  | case3 high low tail first second _ _ hascii ih =>
      rintro d (_ | ⟨_, hd⟩)
      · rw [toNat_ofNat_ascii (by omega)]
        omega
      · exact ih (fun c hc => h c (List.mem_cons_of_mem _ hc)) d hd
  | case4 | case5 | case6 =>
      rename_i ih
      rintro d (_ | ⟨_, hd⟩)
      · exact h _ (List.mem_cons_self ..)
      · exact ih (fun c hc => h c (List.mem_cons_of_mem _ hc)) d hd

/-- Reading the escapes of a plain text leaves a plain text. -/
theorem IsPlain.percentProjection {text : List Char} (h : IsPlain text) (skip : Nat) :
    IsPlain (NodeControl.percentProjection skip text) :=
  ⟨ascii_percentProjection h.1, (length_percentProjection skip text).trans h.2⟩

/-- A plain text is checked to the end. -/
theorem unreadableText_of_plain {text : String} (h : IsPlain text.toList) :
    unreadableText text = false := by
  rw [unreadableText, unreadableEndpoint_of_plain h,
    unreadableEndpoint_of_plain (h.percentProjection 0), Bool.and_false, Bool.false_or,
    Bool.and_false]

/-! ## Identifiers and references -/

theorem ascii_of_alnum {c : Char} (h : isAsciiAlnum c = true) : c.toNat < 128 := by
  simp only [isAsciiAlnum, Bool.or_eq_true, Bool.and_eq_true, decide_eq_true_eq] at h
  omega

theorem ascii_of_referencePart {c : Char} (h : isReferencePart c = true) :
    c.toNat < 128 := by
  simp only [isReferencePart, isIdentifierTail, Bool.or_eq_true, decide_eq_true_eq] at h
  rcases h with ((((h | rfl) | rfl) | rfl) | rfl) | rfl
  · exact ascii_of_alnum h
  all_goals decide

/-- A reference is plain. -/
theorem plain_of_reference {value : String} (h : isReference value = true) :
    IsPlain value.toList := by
  rw [isReference] at h
  cases hvalue : value.toList with
  | nil => exact ⟨nofun, Nat.zero_le _⟩
  | cons c rest =>
      simp only [hvalue, Bool.and_eq_true, decide_eq_true_eq, List.all_eq_true] at h
      refine ⟨?_, by simp only [List.length_cons]; omega⟩
      rintro d (_ | ⟨_, hd⟩)
      · exact ascii_of_alnum h.1.1
      · exact ascii_of_referencePart (h.1.2 d hd)

/-- Identifiers are references. -/
theorem isReference_of_isIdentifier {value : String} (h : isIdentifier value = true) :
    isReference value = true := by
  unfold isIdentifier at h
  unfold isReference
  cases hvalue : value.toList with
  | nil => simp [hvalue] at h
  | cons c rest =>
      simp only [hvalue, Bool.and_eq_true, decide_eq_true_eq, List.all_eq_true] at h ⊢
      refine ⟨⟨h.1.1, fun d hd => ?_⟩, by omega⟩
      simp [isReferencePart, h.1.2 d hd]

/-- A reference is searched to the end. -/
theorem referenceViolation_answers (value : String) :
    ∃ v, referenceViolation value = .ok v := by
  unfold referenceViolation
  split
  · rename_i h
    have hsearch := publicMaterialViolation_raises value
    rw [unreadableText_of_plain (plain_of_reference h)] at hsearch
    exact hsearch.answered
  · exact ⟨_, rfl⟩

/-- An identifier is searched to the end. -/
theorem identifierViolation_answers (value : String) :
    ∃ v, identifierViolation value = .ok v := by
  unfold identifierViolation
  split
  · rename_i h
    have hsearch := publicMaterialViolation_raises value
    rw [unreadableText_of_plain
      (plain_of_reference (isReference_of_isIdentifier h))] at hsearch
    exact hsearch.answered
  · exact ⟨_, rfl⟩

end ControlPlaneKit.NodeControl
