import ControlPlaneKit.Library.Outcome
import ControlPlaneKit.Library.PyJson
import ControlPlaneKit.Operations.ReadCursors
import Mathlib.Data.Fintype.Basic
import Mathlib.Data.List.Perm.Subperm

/-!
# ReadCursorLaws — a cursor and its descriptor

Reading the descriptor of a cursor gives the cursor, and the mapping that a cursor was
read from equals the cursor's descriptor.
-/

namespace ControlPlaneKit.Operations

open ControlPlaneKit.Library (PyDict PyValue)
open ControlPlaneKit.Library.EventFold (bind_ok)
open ControlPlaneKit.Library.Outcome (ok_bind)
open ControlPlaneKit.Library.PyValue (intText lookup_eq_some_of_mem pyEq pyEqEntries
  pyEqEntries_iff toDigits_head)
open ControlPlaneKit.Topology (DelegationKeyPurpose)

/-! ## Canonical seconds -/

/-- A digit character is the character of a number below ten. -/
theorem digitChar_of_isDigit {c : Char} (h : c.isDigit = true) :
    c.toNat - 48 < 10 ∧ Nat.digitChar (c.toNat - 48) = c := by
  simp only [Char.isDigit, Bool.and_eq_true, decide_eq_true_eq] at h
  have hlow : 48 ≤ c.toNat := h.1
  have hhigh : c.toNat ≤ 57 := h.2
  have hlt : c.toNat - 48 < 10 := by omega
  refine ⟨hlt, Char.toNat_inj.mp ?_⟩
  rw [digitChar_toNat _ hlt]
  omega

/-- Digits without a leading zero are the digits of the number they stand for. -/
theorem toDigits_ofDigitChars {head : Char} {tail : List Char}
    (hhead : head.isDigit = true) (hne : head ≠ '0')
    (htail : tail.all Char.isDigit = true) :
    Nat.toDigits 10 (Nat.ofDigitChars 10 (head :: tail) 0) = head :: tail := by
  obtain ⟨hlt, heq⟩ := digitChar_of_isDigit hhead
  induction tail using List.reverseRecOn with
  | nil =>
      have hvalue : Nat.ofDigitChars 10 [head] 0 = head.toNat - 48 := by
        rw [Nat.ofDigitChars_cons, Nat.ofDigitChars_nil, Nat.mul_zero, Nat.zero_add]
        rfl
      rw [hvalue, Nat.toDigits_of_lt_base hlt, heq]
  | append_singleton tail last ih =>
      rw [List.all_append, Bool.and_eq_true] at htail
      obtain ⟨hlast, hdigit⟩ :=
        digitChar_of_isDigit (c := last) (by simpa using htail.2)
      have hpos : 0 < Nat.ofDigitChars 10 (head :: tail) 0 := by
        refine Nat.pos_of_ne_zero fun hzero => ?_
        have hdigits := ih htail.1
        rw [hzero, Nat.toDigits_zero] at hdigits
        exact hne (List.cons.inj hdigits).1.symm
      have hvalue : Nat.ofDigitChars 10 (head :: (tail ++ [last])) 0 =
          10 * Nat.ofDigitChars 10 (head :: tail) 0 + (last.toNat - 48) := by
        rw [← List.cons_append, Nat.ofDigitChars_append, Nat.ofDigitChars_cons,
          Nat.ofDigitChars_nil]
        rfl
      rw [hvalue, ← Nat.toDigits_append_toDigits (by decide) hpos hlast, ih htail.1,
        Nat.toDigits_of_lt_base hlast, hdigit, List.cons_append]

/-- The digits of a number of at most nineteen of them are canonical. -/
theorem isCanonicalEpochSecond_toDigits {value : Nat} (h : value < 10 ^ 19) :
    isCanonicalEpochSecond (Nat.toDigits 10 value) = true := by
  rcases Nat.eq_zero_or_pos value with rfl | hpos
  · rfl
  · obtain ⟨head, tail, heq, hne⟩ := toDigits_head hpos
    have hlength : (head :: tail).length ≤ 19 := by
      rw [← heq]
      exact (Nat.length_toDigits_le_iff (by decide) (by decide)).mpr h
    have hdigits : ∀ c ∈ head :: tail, c.isDigit = true := by
      rw [← heq]
      exact fun c hc => Nat.isDigit_of_mem_toDigits (by decide) (by decide) hc
    rw [heq]
    unfold isCanonicalEpochSecond
    split
    case h_1 hnil => cases hnil
    case h_2 => rfl
    case h_3 hcons =>
        cases hcons
        have htail : tail.all Char.isDigit = true :=
          List.all_eq_true.mpr fun c hc => hdigits c (List.mem_cons_of_mem _ hc)
        rw [List.length_cons] at hlength
        simp [hdigits head (List.mem_cons_self ..), hne, htail,
          Nat.le_of_succ_le_succ hlength]

/-- **One spelling a number**: canonical digits are those of their value. -/
theorem toDigits_of_isCanonicalEpochSecond {text : List Char}
    (h : isCanonicalEpochSecond text = true) :
    Nat.toDigits 10 (Nat.ofDigitChars 10 text 0) = text := by
  unfold isCanonicalEpochSecond at h
  split at h
  case h_1 => cases h
  case h_2 => rfl
  case h_3 head tail _ =>
      simp only [Bool.and_eq_true, bne_iff_ne, decide_eq_true_eq] at h
      exact toDigits_ofDigitChars h.1.1.1 h.1.1.2 h.1.2

theorem intText_natCast (value : Nat) : intText value = Nat.toDigits 10 value := by
  rw [intText, if_neg (by omega), Int.natAbs_natCast]

theorem epochSecond_self (second : EpochSecond) :
    epochSecond second.1 = .ok second := by
  rw [epochSecond, dif_pos second.2]

/-- A second that is written as a text is read back. -/
theorem epochSecondFromWire_text (second : EpochSecond) :
    epochSecondFromWire (.str (String.ofList (intText second.1))) = .ok second := by
  obtain ⟨value, hlow, hhigh⟩ := second
  obtain ⟨value, rfl⟩ := Int.eq_ofNat_of_zero_le hlow
  have hbound : value < 10 ^ 19 := by
    have : (value : Int) ≤ 9223372036854775807 := hhigh
    omega
  have htext : (String.ofList (intText (value : Int))).toList =
      Nat.toDigits 10 value := by
    rw [String.toList_ofList, intText_natCast]
  rw [epochSecondFromWire, htext, if_pos (isCanonicalEpochSecond_toDigits hbound),
    Nat.ofDigitChars_ten_toDigits]
  exact epochSecond_self ⟨(value : Int), hlow, hhigh⟩

/-- A second is read from its own text only. -/
theorem epochSecondFromWire_eq_ok {value : PyValue} {second : EpochSecond}
    (h : epochSecondFromWire value = .ok second) :
    value = .str (String.ofList (intText second.1)) := by
  cases value with
  | str text =>
      rw [epochSecondFromWire] at h
      split at h
      case isTrue hcanonical =>
          rw [epochSecond] at h
          split at h
          · cases h
            rw [intText_natCast, toDigits_of_isCanonicalEpochSecond hcanonical,
              String.ofList_toList]
          · cases h
      case isFalse => cases h
  | _ => cases h

/-! ## Fields -/

/-- A mapping has exactly the keys it has. -/
theorem exactKeys_self {entries : PyDict} {expected : List String} (label : String)
    (h : entries.map (·.1) = expected) : exactKeys entries expected label = .ok () := by
  refine if_pos ⟨by rw [← h, List.length_map], fun entry hentry => ?_,
    fun key hkey => h ▸ hkey⟩
  rw [← h]
  exact List.mem_map.mpr ⟨entry, hentry, rfl⟩

/-- A mapping with exactly some fields equals a mapping of these fields with equal
values. -/
theorem pyEq_of_exactKeys {entries others : PyDict} {expected : List String}
    {label : String} (h : exactKeys entries expected label = .ok ())
    (hothers : others.map (·.1) = expected) (hdistinct : expected.Nodup)
    (hvalues : ∀ other ∈ others, pyEq (valueAt entries other.1) other.2 = true) :
    pyEq (.dict entries) (.dict others) = true := by
  unfold exactKeys at h
  split at h
  case isFalse => cases h
  case isTrue hkeys =>
      obtain ⟨hlength, hknown, hall⟩ := hkeys
      have hperm : expected.Perm (entries.map (·.1)) :=
        (List.subperm_of_subset hdistinct hall).perm_of_length_le (by
          rw [List.length_map, hlength])
      have hunique : (entries.map (·.1)).Nodup := hperm.nodup_iff.mp hdistinct
      rw [pyEq, Bool.and_eq_true, beq_iff_eq, pyEqEntries_iff]
      refine ⟨by rw [hlength, ← hothers, List.length_map], fun entry hentry => ?_⟩
      have hknown := hknown entry hentry
      rw [← hothers] at hknown
      obtain ⟨other, hother, hkey⟩ := List.mem_map.mp hknown
      have hvalue := hvalues other hother
      rw [hkey, valueAt, lookup_eq_some_of_mem hunique
        (show (entry.1, entry.2) ∈ entries from hentry)] at hvalue
      refine ⟨other.2, ?_, hvalue⟩
      rw [← hkey]
      exact lookup_eq_some_of_mem (hothers ▸ hdistinct) hother

/-- Only a mapping passes for one. -/
theorem requireDict_eq_ok {message : String} {value : PyValue} {entries : PyDict}
    (h : requireDict message value = .ok entries) : value = .dict entries := by
  cases value <;> cases h
  rfl

theorem pyEq_str (text : String) : pyEq (.str text) (.str text) = true := by
  rw [pyEq, beq_self_eq_true]

/-- What passes as a text equals it. -/
theorem pyEq_checked {accepts : String → Bool} {message : String} {value : PyValue}
    {checked : Checked accepts} (h : requireText accepts message value = .ok checked) :
    pyEq value (.str checked.text) = true := by
  rw [requireText_eq_ok h]
  exact pyEq_str _

theorem cursorOrdinal_self (ordinal : Ordinal) :
    cursorOrdinal (.int ordinal.1) = .ok ordinal := by
  rw [cursorOrdinal, dif_pos ordinal.2]

/-- An ordinal is read from its own number only; `True` is none. -/
theorem cursorOrdinal_eq_ok {value : PyValue} {ordinal : Ordinal}
    (h : cursorOrdinal value = .ok ordinal) : value = .int ordinal.1 := by
  cases value with
  | int number =>
      rw [cursorOrdinal] at h
      split at h
      · cases h
        rfl
      · cases h
  | _ => cases h

theorem pyEq_int (number : Int) : pyEq (.int number) (.int number) = true := by
  rw [pyEq]
  exact Library.PyValue.number_beq_self _

/-- A purpose is read back from its text. -/
theorem cursorPurpose_value (purpose : DelegationKeyPurpose) :
    cursorPurpose (.str purpose.value) = .ok purpose := by
  rw [cursorPurpose, purposeOfValue_value]

/-- It is read from no other value. -/
theorem cursorPurpose_eq_ok {value : PyValue} {purpose : DelegationKeyPurpose}
    (h : cursorPurpose value = .ok purpose) : value = .str purpose.value := by
  cases value with
  | str text =>
      rw [cursorPurpose] at h
      cases hfound : purposeOfValue text with
      | none =>
          rw [hfound] at h
          cases h
      | some found =>
          rw [hfound] at h
          cases h
          rw [value_of_purposeOfValue hfound]
  | _ => cases h

/-- So is a collection. -/
theorem cursorCollection_value (collection : ReadCollection) :
    cursorCollection (.str collection.value) = .ok collection := by
  rw [cursorCollection, ReadCollection.ofValue_value]

/-- And from its text alone. -/
theorem cursorCollection_eq_ok {value : PyValue} {collection : ReadCollection}
    (h : cursorCollection value = .ok collection) : value = .str collection.value := by
  cases value with
  | str text =>
      rw [cursorCollection] at h
      cases hfound : ReadCollection.ofValue text with
      | none =>
          rw [hfound] at h
          cases h
      | some found =>
          rw [hfound] at h
          cases h
          rw [ReadCollection.value_of_ofValue hfound]
  | _ => cases h

/-- There is one format version. -/
theorem cursorFormat_eq_ok {value : PyValue} (h : cursorFormat value = .ok ()) :
    value = .int 1 := by
  cases value with
  | int version =>
      rw [cursorFormat] at h
      split at h
      case isTrue hversion => rw [hversion]
      case isFalse => cases h
  | _ => cases h

/-! ## The two readings -/

section Readings

variable {categories : UnicodeCategories}

/-- A scope is read back from its descriptor, as its own type. -/
theorem scopeFromMapping_descriptor (scope : ReadScope categories) :
    scopeFromMapping scope.scopeType scope.descriptor = .ok scope := by
  unfold scopeFromMapping generalIdentifier runIdentifier
  cases scope <;>
    simp only [ReadScope.scopeType, ReadScope.descriptor, requireDict, ok_bind,
      exactKeys_self, List.map_cons, List.map_nil, valueAt, List.lookup_cons,
      beq_self_eq_true, String.reduceBEq, Option.getD_some, requireText_self]

/-- **What a scope is read from equals its descriptor.**  The cases are the scope types,
each with its own keys. -/
theorem pyEq_scope {scopeType : ScopeType} {value : PyValue}
    {scope : ReadScope categories} (h : scopeFromMapping scopeType value = .ok scope) :
    pyEq value scope.descriptor = true := by
  unfold scopeFromMapping generalIdentifier runIdentifier at h
  obtain ⟨entries, hdict, h⟩ := bind_ok.mp h
  rw [requireDict_eq_ok hdict]
  cases scopeType with
  | workspace =>
      obtain ⟨_, hkeys, h⟩ := bind_ok.mp h
      obtain ⟨workspaceId, hworkspace, h⟩ := bind_ok.mp h
      cases h
      exact pyEq_of_exactKeys hkeys rfl (by decide)
        (by simpa using pyEq_checked hworkspace)
  | session =>
      obtain ⟨_, hkeys, h⟩ := bind_ok.mp h
      obtain ⟨workspaceId, hworkspace, h⟩ := bind_ok.mp h
      obtain ⟨sessionId, hsession, h⟩ := bind_ok.mp h
      cases h
      exact pyEq_of_exactKeys hkeys rfl (by decide)
        (by simpa using ⟨pyEq_checked hworkspace, pyEq_checked hsession⟩)
  | plan =>
      obtain ⟨_, hkeys, h⟩ := bind_ok.mp h
      obtain ⟨workspaceId, hworkspace, h⟩ := bind_ok.mp h
      obtain ⟨planId, hplan, h⟩ := bind_ok.mp h
      cases h
      exact pyEq_of_exactKeys hkeys rfl (by decide)
        (by simpa using ⟨pyEq_checked hworkspace, pyEq_checked hplan⟩)
  | run =>
      obtain ⟨_, hkeys, h⟩ := bind_ok.mp h
      obtain ⟨workspaceId, hworkspace, h⟩ := bind_ok.mp h
      obtain ⟨runId, hrun, h⟩ := bind_ok.mp h
      cases h
      exact pyEq_of_exactKeys hkeys rfl (by decide)
        (by simpa using ⟨pyEq_checked hworkspace, pyEq_checked hrun⟩)

/-- A position is read back in its cursor's collection and scope. -/
theorem positionFromMapping_descriptor (cursor : ReadCursor categories) :
    positionFromMapping cursor.collection cursor.scope cursor.position.descriptor =
      .ok cursor := by
  obtain ⟨collection, scope, position, congruent⟩ := cursor
  have htype : (readCollectionSpec collection).cursorType = position.cursorType := by
    rw [congruent]
  have hheader := cursorHeader_ok congruent
  unfold positionFromMapping
  rw [htype]
  cases position <;>
    simp only [ReadPosition.cursorType, ReadPosition.descriptor] at hheader ⊢ <;>
    simp only [requireDict, ok_bind, exactKeys_self, List.map_cons, List.map_nil,
      valueAt, List.lookup_cons, beq_self_eq_true, String.reduceBEq, Option.getD_some,
      ordinalReadCursor, temporalReadCursor, epochReadCursor, identityReadCursor,
      delegationKeyReadCursor, hheader, cursorOrdinal_self, canonicalCursorInstant,
      generalIdentifier, delegationIdentifier, requireText_self,
      epochSecondFromWire_text, epochSecond_self, cursorPurpose_value]

/-- **Reading a cursor's descriptor gives the cursor.** -/
theorem readCursorFromMapping_descriptor (cursor : ReadCursor categories) :
    readCursorFromMapping cursor.descriptor = .ok cursor := by
  have htype : (readCollectionSpec cursor.collection).scopeType =
      cursor.scope.scopeType := by
    rw [cursor.congruent]
  unfold readCursorFromMapping
  simp only [ReadCursor.descriptor, requireDict, ok_bind, exactKeys_self, List.map_cons,
    List.map_nil, valueAt, List.lookup_cons, beq_self_eq_true, String.reduceBEq,
    Option.getD_some, cursorFormat, if_true, cursorCollection_value, htype,
    scopeFromMapping_descriptor, positionFromMapping_descriptor]

/-- What a position is read from equals its descriptor, and the cursor has the
collection and the scope it was read for. -/
theorem pyEq_position {collection : ReadCollection} {scope : ReadScope categories}
    {value : PyValue} {cursor : ReadCursor categories}
    (h : positionFromMapping collection scope value = .ok cursor) :
    cursor.collection = collection ∧ cursor.scope = scope ∧
      pyEq value cursor.position.descriptor = true := by
  unfold positionFromMapping at h
  obtain ⟨entries, hdict, h⟩ := bind_ok.mp h
  rw [requireDict_eq_ok hdict]
  cases hcursor : (readCollectionSpec collection).cursorType with
  | ordinal =>
      rw [hcursor] at h
      obtain ⟨_, hkeys, h⟩ := bind_ok.mp h
      obtain ⟨header, -, h⟩ := bind_ok.mp h
      obtain ⟨ordinal, hordinal, h⟩ := bind_ok.mp h
      obtain ⟨itemId, hitem, h⟩ := bind_ok.mp h
      cases h
      refine ⟨rfl, rfl, pyEq_of_exactKeys hkeys rfl (by decide) ?_⟩
      simpa [cursorOrdinal_eq_ok hordinal, pyEq_int] using pyEq_checked hitem
  | temporal =>
      rw [hcursor] at h
      obtain ⟨_, hkeys, h⟩ := bind_ok.mp h
      obtain ⟨header, -, h⟩ := bind_ok.mp h
      obtain ⟨instant, hinstant, h⟩ := bind_ok.mp h
      obtain ⟨itemId, hitem, h⟩ := bind_ok.mp h
      cases h
      refine ⟨rfl, rfl, pyEq_of_exactKeys hkeys rfl (by decide) ?_⟩
      simpa using ⟨pyEq_checked hinstant, pyEq_checked hitem⟩
  | epoch =>
      rw [hcursor] at h
      obtain ⟨_, hkeys, h⟩ := bind_ok.mp h
      obtain ⟨second, hsecond, h⟩ := bind_ok.mp h
      obtain ⟨header, -, h⟩ := bind_ok.mp h
      obtain ⟨same, hsame, h⟩ := bind_ok.mp h
      obtain ⟨itemId, hitem, h⟩ := bind_ok.mp h
      rw [epochSecond_self] at hsame
      cases hsame
      cases h
      refine ⟨rfl, rfl, pyEq_of_exactKeys hkeys rfl (by decide) ?_⟩
      simpa [epochSecondFromWire_eq_ok hsecond, pyEq_str] using pyEq_checked hitem
  | identity =>
      rw [hcursor] at h
      obtain ⟨_, hkeys, h⟩ := bind_ok.mp h
      obtain ⟨header, -, h⟩ := bind_ok.mp h
      obtain ⟨itemId, hitem, h⟩ := bind_ok.mp h
      cases h
      exact ⟨rfl, rfl, pyEq_of_exactKeys hkeys rfl (by decide)
        (by simpa using pyEq_checked hitem)⟩
  | delegationKey =>
      rw [hcursor] at h
      obtain ⟨_, hkeys, h⟩ := bind_ok.mp h
      obtain ⟨purpose, hpurpose, h⟩ := bind_ok.mp h
      obtain ⟨header, -, h⟩ := bind_ok.mp h
      obtain ⟨issuer, hissuer, h⟩ := bind_ok.mp h
      obtain ⟨keyId, hkeyId, h⟩ := bind_ok.mp h
      cases h
      refine ⟨rfl, rfl, pyEq_of_exactKeys hkeys rfl (by decide) ?_⟩
      simpa [cursorPurpose_eq_ok hpurpose, pyEq_str] using
        ⟨pyEq_checked hissuer, pyEq_checked hkeyId⟩

/-- **What a cursor is read from equals its descriptor.** -/
theorem pyEq_descriptor {value : PyValue} {cursor : ReadCursor categories}
    (h : readCursorFromMapping value = .ok cursor) :
    pyEq value cursor.descriptor = true := by
  unfold readCursorFromMapping at h
  obtain ⟨entries, hdict, h⟩ := bind_ok.mp h
  obtain ⟨_, hkeys, h⟩ := bind_ok.mp h
  obtain ⟨_, hformat, h⟩ := bind_ok.mp h
  obtain ⟨collection, hcollection, h⟩ := bind_ok.mp h
  obtain ⟨scope, hscope, h⟩ := bind_ok.mp h
  obtain ⟨rfl, rfl, hposition⟩ := pyEq_position h
  rw [requireDict_eq_ok hdict]
  refine pyEq_of_exactKeys hkeys rfl (by decide) ?_
  simpa [cursorFormat_eq_ok hformat, cursorCollection_eq_ok hcollection, pyEq_int,
    pyEq_str] using ⟨pyEq_scope hscope, hposition⟩

end Readings

end ControlPlaneKit.Operations
