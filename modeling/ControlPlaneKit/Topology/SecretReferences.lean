import ControlPlaneKit.Library.PosixPath
import ControlPlaneKit.Library.UrlSplit

/-!
# SecretReferences — which texts name a secret

A secret reference is accepted by the pieces a URL splitter finds in its text, and
keeps the text.  References are compared as texts, so a second text with the same
pieces is a second identity of one secret; which texts those are is said here.
-/

namespace ControlPlaneKit.Topology

open ControlPlaneKit.Library
open ControlPlaneKit.Library.Text (forall_mem_of_all isAsciiAlnum isAsciiLower)
open ControlPlaneKit.Library.UrlSplit

/-! ## Accepting a reference -/

inductive SecretResolutionCode where
  | malformedReference
  | missing
  | denied
  | invalidResolverResult
  deriving DecidableEq, Repr

structure SecretResolutionError where
  code : SecretResolutionCode
  message : String
  deriving DecidableEq, Repr

/-- What a reference raises: its own error, or the splitter's. -/
inductive ReferenceError where
  | resolution (error : SecretResolutionError)
  | url (error : PyError)
  deriving DecidableEq, Repr

/-- `_PROVIDER_ID`: `[a-z][a-z0-9-]{0,62}\Z`. -/
def isProviderId : List Char → Bool
  | [] => false
  | c :: cs =>
      isAsciiLower c && decide (cs.length ≤ 62) &&
        cs.all fun c => isAsciiLower c || (48 ≤ c.toNat && c.toNat ≤ 57) || c = '-'

/-- `_REFERENCE_SEGMENT`: `[A-Za-z0-9._-]{1,128}\Z`. -/
def isReferenceSegment (part : List Char) : Bool :=
  decide (1 ≤ part.length ∧ part.length ≤ 128) &&
    part.all fun c => isAsciiAlnum c || c = '.' || c = '_' || c = '-'

/-- `provider_id` and `path` of a reference. -/
structure ReferenceParts where
  providerId : List Char
  path : List (List Char)
  deriving DecidableEq

def malformedReference (message : String) : ReferenceError :=
  .resolution ⟨.malformedReference, message⟩

/-- The parts of a path between its slashes. -/
def pathParts (path : List Char) : List (List Char) :=
  (path.splitOn '/').filter fun part => decide (part ≠ [])

/-- What the constructor refuses of a result. -/
def isMalformed (parsed : SplitResult) : Prop :=
  parsed.scheme ≠ "secret".toList ∨ parsed.netloc = [] ∨ parsed.query ≠ [] ∨
    parsed.fragment ≠ [] ∨ pathParts parsed.path = [] ∨
    parsed.path ≠ PosixPath.absolute (pathParts parsed.path) ∨
    (∃ part ∈ pathParts parsed.path, part = ['.'] ∨ part = ['.', '.']) ∨
    ∃ part ∈ pathParts parsed.path, isReferenceSegment part = false

instance (parsed : SplitResult) : Decidable (isMalformed parsed) := by
  unfold isMalformed
  infer_instance

/-- `SecretReference.__post_init__`: the fields it sets. -/
def referenceParts (checks : NetlocChecks) (referenceId : String) :
    Except ReferenceError ReferenceParts :=
  match urlsplit checks referenceId.toList with
  | .error error => .error (.url error)
  | .ok parsed =>
      if isMalformed parsed then
        .error (malformedReference "secret reference is malformed")
      else if isProviderId parsed.netloc then .ok ⟨parsed.netloc, pathParts parsed.path⟩
      else .error (malformedReference "secret provider identity is malformed")

/-! ## The texts that are accepted -/

/-- The parts a constructor lets through. -/
structure ReferenceParts.Valid (parts : ReferenceParts) : Prop where
  provider : isProviderId parts.providerId = true
  nonempty : parts.path ≠ []
  segment : ∀ part ∈ parts.path, isReferenceSegment part = true
  not_dots : ∀ part ∈ parts.path, part ≠ ['.'] ∧ part ≠ ['.', '.']

/-- A character of the parts: printable ASCII, and none of the delimiters. -/
def IsPartChar (c : Char) : Prop :=
  32 < c.toNat ∧ c.toNat < 128 ∧ c ∉ ['/', '?', '#', '[', ']', ':']

theorem isPartChar_of_alnum {c : Char}
    (h : isAsciiAlnum c = true ∨ c = '.' ∨ c = '_' ∨ c = '-') : IsPartChar c := by
  rcases h with h | rfl | rfl | rfl
  · simp only [isAsciiAlnum, Bool.or_eq_true, Bool.and_eq_true, decide_eq_true_eq] at h
    refine ⟨by omega, by omega, fun hmem => ?_⟩
    simp only [List.mem_cons, List.not_mem_nil, or_false] at hmem
    rcases hmem with rfl | rfl | rfl | rfl | rfl | rfl <;> revert h <;> decide
  all_goals unfold IsPartChar; decide

theorem isPartChar_of_segment {part : List Char} (h : isReferenceSegment part = true) :
    ∀ c ∈ part, IsPartChar c := by
  intro c hc
  rw [isReferenceSegment, Bool.and_eq_true, List.all_eq_true] at h
  have hchar := h.2 c hc
  simp only [Bool.or_eq_true, decide_eq_true_eq] at hchar
  exact isPartChar_of_alnum (by tauto)

theorem isPartChar_of_provider {provider : List Char}
    (h : isProviderId provider = true) : ∀ c ∈ provider, IsPartChar c := by
  cases provider with
  | nil => simp
  | cons c cs =>
      simp only [isProviderId, Bool.and_eq_true, List.all_eq_true, Bool.or_eq_true,
        decide_eq_true_eq, isAsciiLower] at h
      obtain ⟨⟨hhead, -⟩, htail⟩ := h
      intro d hd
      refine isPartChar_of_alnum ?_
      rcases List.mem_cons.mp hd with rfl | hd
      · simp only [isAsciiAlnum, Bool.or_eq_true, Bool.and_eq_true, decide_eq_true_eq]
        omega
      · rcases htail d hd with (hlower | hdigit) | rfl
        · simp only [isAsciiAlnum, Bool.or_eq_true, Bool.and_eq_true, decide_eq_true_eq]
          omega
        · simp only [isAsciiAlnum, Bool.or_eq_true, Bool.and_eq_true, decide_eq_true_eq]
          omega
        · simp

namespace ReferenceParts.Valid

variable {parts : ReferenceParts}

theorem isName (h : parts.Valid) : ∀ part ∈ parts.path, PosixPath.IsName part := by
  intro part hpart
  have hsegment := h.segment part hpart
  refine ⟨fun hnil => ?_, (h.not_dots part hpart).1, fun hslash => ?_⟩
  · rw [hnil] at hsegment
    simp [isReferenceSegment] at hsegment
  · exact (isPartChar_of_segment hsegment _ hslash).2.2 (by simp)

/-- The path is read back from the text it is joined into. -/
theorem pathParts_absolute (h : parts.Valid) :
    pathParts (PosixPath.absolute parts.path) = parts.path := by
  have hsplit : (PosixPath.join parts.path).splitOn '/' = parts.path :=
    List.splitOn_intercalate '/'
      (fun part hpart => (h.isName part hpart).slashFree) h.nonempty
  rw [pathParts, PosixPath.absolute, List.splitOn_cons_eq_if_modifyHead, hsplit,
    if_pos (by rfl), List.filter_cons_of_neg (by simp), List.filter_eq_self]
  exact fun part hpart => decide_eq_true (h.isName part hpart).nonempty

theorem path_char (h : parts.Valid) :
    ∀ c ∈ PosixPath.absolute parts.path, IsPartChar c ∨ c = '/' := by
  have hjoin : ∀ segments : List (List Char),
      (∀ part ∈ segments, ∀ c ∈ part, IsPartChar c) →
      ∀ c ∈ PosixPath.join segments, IsPartChar c ∨ c = '/' := by
    intro segments
    induction segments with
    | nil => simp [PosixPath.join]
    | cons part rest ih =>
        intro hchars c hc
        cases rest with
        | nil =>
            rw [PosixPath.join, List.intercalate_singleton] at hc
            exact .inl (hchars part (by simp) c hc)
        | cons other tail =>
            rw [PosixPath.join, List.intercalate_cons_cons] at hc
            rcases List.mem_append.mp hc with hc | hc
            · rcases List.mem_append.mp hc with hc | hc
              · exact .inl (hchars part (by simp) c hc)
              · exact .inr (List.mem_singleton.mp hc)
            · exact ih (fun p hp => hchars p (List.mem_cons_of_mem _ hp)) c hc
  intro c hc
  rcases List.mem_cons.mp hc with rfl | hc
  · exact .inr rfl
  · exact hjoin _ (fun part hpart => isPartChar_of_segment (h.segment part hpart)) c hc

end ReferenceParts.Valid

/-- `scheme://provider/path tail`. -/
def ReferenceParts.spelling (parts : ReferenceParts)
    (written tail : List Char) : List Char :=
  spelled written parts.providerId (PosixPath.absolute parts.path) tail

theorem isLetter_of_lower {c d : Char} (hd : d ∈ "secret".toList) (h : lower c = d) :
    isLetter c = true := by
  unfold lower at h
  split at h
  · rename_i hupper
    simp only [Bool.and_eq_true, decide_eq_true_eq] at hupper
    simp only [isLetter, Bool.or_eq_true, Bool.and_eq_true, decide_eq_true_eq]
    omega
  · subst h
    have hsecret : ∀ d ∈ "secret".toList, isLetter d = true :=
      forall_mem_of_all (by decide)
    exact hsecret c hd

/-- However its letters are written, the scheme of a reference is one. -/
theorem isScheme_of_lower {written : List Char}
    (h : written.map lower = "secret".toList) :
    isScheme written = true ∧ ':' ∉ written := by
  have hletters : ∀ c ∈ written, isLetter c = true := fun c hc =>
    isLetter_of_lower (h ▸ List.mem_map_of_mem hc) rfl
  cases written with
  | nil => simp at h
  | cons c rest =>
      refine ⟨?_, fun hmem => ?_⟩
      · rw [isScheme, List.head?_cons, Bool.and_eq_true, List.all_eq_true]
        refine ⟨hletters c (List.mem_cons_self ..), fun d hd => ?_⟩
        have hletter := hletters d hd
        simp only [isLetter, isSchemeChar, isAsciiAlnum, Bool.or_eq_true,
          Bool.and_eq_true, decide_eq_true_eq] at hletter ⊢
        omega
      · exact absurd (hletters _ hmem) (by decide)

variable {checks : NetlocChecks}

/-- **What the constructor accepts**: once cleaned, a text spelled out of valid parts,
its scheme in any case and empty markers behind it. -/
theorem referenceParts_eq_ok {referenceId : String} {parts : ReferenceParts} :
    referenceParts checks referenceId = .ok parts ↔
      parts.Valid ∧ ∃ written tail,
        cleaned referenceId.toList = parts.spelling written tail ∧
        written.map lower = "secret".toList ∧ IsEmptyTail tail := by
  constructor
  · intro h
    unfold referenceParts at h
    split at h
    · cases h
    · rename_i parsed hsplit
      split at h
      · cases h
      · rename_i hwell
        split at h
        · rename_i hprovider
          cases h
          simp only [isMalformed, not_or, not_exists, not_and, Decidable.not_not,
            Bool.not_eq_false] at hwell
          obtain ⟨hscheme, hnetloc, hquery, hfragment, hpath, habsolute, hdots,
            hsegments⟩ := hwell
          refine ⟨⟨hprovider, hpath, hsegments, hdots⟩, ?_⟩
          obtain ⟨written, tail, hurl, hlower, -, htail⟩ :=
            eq_of_urlsplit hsplit (by rw [hscheme]; decide) hnetloc hquery hfragment
          refine ⟨written, tail, ?_, by rw [hlower, hscheme], htail⟩
          rw [hurl, ReferenceParts.spelling, ← habsolute]
        · cases h
  · rintro ⟨hvalid, written, tail, hurl, hlower, htail⟩
    obtain ⟨hscheme, hcolon⟩ := isScheme_of_lower hlower
    have hprovider := isPartChar_of_provider hvalid.provider
    have hbarred : ∀ d ∈ ['/', '?', '#', '[', ']', ':'], d ∉ parts.providerId :=
      fun d hd hmem => (hprovider d hmem).2.2 hd
    have hpath : ∀ d ∈ ['?', '#'], d ∉ PosixPath.absolute parts.path := by
      intro d hd hmem
      rcases hvalid.path_char d hmem with hchar | rfl
      · refine hchar.2.2 ?_
        simp only [List.mem_cons, List.not_mem_nil, or_false] at hd
        rcases hd with rfl | rfl <;> simp
      · simp at hd
    have hsplit := @urlsplit_eq checks _ _ _ _ _ hurl hscheme hcolon
      (fun c hc => (hprovider c hc).2.1) ⟨hbarred _ (by simp), hbarred _ (by simp)⟩
      (fun c hc => by
        have hdelimiters := (hprovider c hc).2.2
        simp only [List.mem_cons, not_or] at hdelimiters
        simp [isNetlocEnd, hdelimiters])
      ⟨hpath _ (by simp), hpath _ (by simp)⟩ rfl htail
    have hwell : ¬ isMalformed ⟨written.map lower, parts.providerId,
        PosixPath.absolute parts.path, [], []⟩ := by
      have hnetloc : parts.providerId ≠ [] := by
        intro hnil
        have := hvalid.provider
        rw [hnil] at this
        cases this
      simp only [isMalformed, hvalid.pathParts_absolute, hlower, hnetloc,
        hvalid.nonempty, ne_eq, not_true_eq_false, false_or, not_or, not_exists,
        not_and, Bool.not_eq_false]
      exact ⟨hvalid.not_dots, hvalid.segment⟩
    unfold referenceParts
    rw [hsplit]
    simp only [if_neg hwell, hvalid.provider, hvalid.pathParts_absolute, if_true]

/-! ## One reference, one text -/

/-- No letter of the scheme is raised, and nothing stands in the text that splitting
drops. -/
def IsPlain (referenceId : String) : Prop :=
  "secret://".toList <+: referenceId.toList ∧
    ∀ c ∈ referenceId.toList, c ∉ ['\t', '\r', '\n', '?', '#']

instance (referenceId : String) : Decidable (IsPlain referenceId) := by
  have :=
    List.decidableBAll (fun c => c ∉ ['\t', '\r', '\n', '?', '#']) referenceId.toList
  unfold IsPlain
  infer_instance

/-- The text of a reference as everyone writes it. -/
def ReferenceParts.canonical (parts : ReferenceParts) : String :=
  String.ofList (parts.spelling "secret".toList [])

/-- Of a spelling nothing is cleaned away. -/
theorem ReferenceParts.Valid.cleaned_spelling {parts : ReferenceParts} (h : parts.Valid)
    {written tail : List Char} (hlower : written.map lower = "secret".toList)
    (htail : IsEmptyTail tail) :
    cleaned (parts.spelling written tail) = parts.spelling written tail := by
  have hwritten : ∀ c ∈ written, 32 < c.toNat := by
    intro c hc
    have hletter := isLetter_of_lower (hlower ▸ List.mem_map_of_mem hc) rfl
    simp only [isLetter, Bool.or_eq_true, Bool.and_eq_true,
      decide_eq_true_eq] at hletter
    omega
  have hchars : ∀ c ∈ parts.spelling written tail, 32 < c.toNat := by
    intro c hc
    simp only [ReferenceParts.spelling, spelled, List.mem_append, List.mem_cons] at hc
    rcases hc with hc | rfl | rfl | rfl | hc | hc | hc
    · exact hwritten c hc
    · decide
    · decide
    · decide
    · exact (isPartChar_of_provider h.provider c hc).1
    · rcases h.path_char c hc with hchar | rfl
      · exact hchar.1
      · decide
    · rcases htail with rfl | rfl | rfl | rfl <;> revert c <;>
        exact forall_mem_of_all (by decide)
  have hkept : (parts.spelling written tail).dropWhile isControlOrSpace =
      parts.spelling written tail := by
    rw [List.dropWhile_eq_self_iff]
    intro hpos
    have := hchars _ (List.getElem_mem hpos)
    simp [isControlOrSpace]
    omega
  rw [cleaned, hkept, List.filter_eq_self]
  intro c hc
  have := hchars c hc
  simp only [isUnsafeByte, Bool.not_eq_true', Bool.or_eq_false_iff,
    decide_eq_false_iff_not]
  refine ⟨⟨?_, ?_⟩, ?_⟩ <;> rintro rfl <;> revert this <;> decide

/-- **Every spelling of valid parts is accepted.** -/
theorem referenceParts_spelling {parts : ReferenceParts} (h : parts.Valid)
    {written tail : List Char} (hlower : written.map lower = "secret".toList)
    (htail : IsEmptyTail tail) :
    referenceParts checks (String.ofList (parts.spelling written tail)) = .ok parts :=
  referenceParts_eq_ok.mpr ⟨h, written, tail, by
    rw [String.toList_ofList]
    exact h.cleaned_spelling hlower htail, hlower, htail⟩

theorem spelling_secret (parts : ReferenceParts) (tail : List Char) :
    parts.spelling "secret".toList tail = "secret://".toList ++
      (parts.providerId ++ (PosixPath.absolute parts.path ++ tail)) := by
  rw [ReferenceParts.spelling, spelled]
  rfl

theorem canonical_toList (parts : ReferenceParts) : parts.canonical.toList =
    "secret://".toList ++ (parts.providerId ++ (PosixPath.absolute parts.path ++ [])) :=
  String.toList_ofList.trans (spelling_secret parts [])

/-- The canonical text is plain. -/
theorem isPlain_canonical {parts : ReferenceParts} (h : parts.Valid) :
    IsPlain parts.canonical := by
  rw [IsPlain, canonical_toList]
  refine ⟨List.prefix_append .., fun c hc => ?_⟩
  have hscheme : ∀ d ∈ "secret://".toList, d ∉ ['\t', '\r', '\n', '?', '#'] :=
    forall_mem_of_all (by decide)
  have hpart : ∀ d, IsPartChar d → d ∉ ['\t', '\r', '\n', '?', '#'] := by
    intro d hd hmem
    simp only [List.mem_cons, List.not_mem_nil, or_false] at hmem
    rcases hmem with rfl | rfl | rfl | rfl | rfl <;> revert hd
      <;> unfold IsPartChar <;> decide
  simp only [List.mem_append, List.append_nil] at hc
  rcases hc with hc | hc | hc
  · exact hscheme c hc
  · exact hpart c (isPartChar_of_provider h.provider c hc)
  · rcases h.path_char c hc with hchar | rfl
    · exact hpart c hchar
    · decide

/-- **A plain text is the canonical one** of its parts. -/
theorem isPlain_iff {referenceId : String} {parts : ReferenceParts}
    (h : referenceParts checks referenceId = .ok parts) :
    IsPlain referenceId ↔ referenceId = parts.canonical := by
  obtain ⟨hvalid, written, tail, hurl, hlower, htail⟩ := referenceParts_eq_ok.mp h
  constructor
  · rintro ⟨⟨rest, hrest⟩, hchars⟩
    have hcleaned : cleaned referenceId.toList = referenceId.toList := by
      rw [cleaned, ← hrest]
      have hkept : ("secret://".toList ++ rest).dropWhile isControlOrSpace =
          "secret://".toList ++ rest := rfl
      rw [hkept, hrest, List.filter_eq_self]
      intro c hc
      have := hchars c hc
      simp only [List.mem_cons, not_or] at this
      simp [isUnsafeByte, this]
    rw [hcleaned] at hurl
    obtain rfl : tail = [] := by
      have hnone : ∀ c ∈ tail, c ∉ ['\t', '\r', '\n', '?', '#'] := fun c hc =>
        hchars c (by rw [hurl, ReferenceParts.spelling, spelled]; simp [hc])
      rcases htail with rfl | rfl | rfl | rfl
      · rfl
      all_goals exact absurd (hnone _ (List.mem_cons_self ..)) (by decide)
    obtain rfl : written = "secret".toList := by
      have hcolon := (isScheme_of_lower hlower).2
      have hfirst := congrArg (·.splitOn ':') (hurl.symm.trans hrest.symm)
      have hscheme : "secret://".toList ++ rest =
          "secret".toList ++ ':' :: ("//".toList ++ rest) :=
        rfl
      simp only [ReferenceParts.spelling, spelled] at hfirst
      rw [hscheme, List.splitOn_append_cons_self_of_not_mem hcolon,
        List.splitOn_append_cons_self_of_not_mem (by decide)] at hfirst
      exact (List.cons.inj hfirst).1
    rw [ReferenceParts.canonical, ← hurl, String.ofList_toList]
  · rintro rfl
    exact isPlain_canonical hvalid

/-- The scheme with its first letter raised. -/
def ReferenceParts.raised (parts : ReferenceParts) : String :=
  String.ofList (parts.spelling "Secret".toList [])

theorem raised_ne_canonical (parts : ReferenceParts) :
    parts.raised ≠ parts.canonical := by
  intro heq
  have hraised : parts.raised.toList = parts.spelling "Secret".toList [] :=
    String.toList_ofList
  have hheads := congrArg List.head?
    ((hraised.symm.trans (congrArg String.toList heq)).trans (canonical_toList parts))
  exact absurd (Option.some.inj hheads) (by decide)

/-- **A reference is canonical exactly when its text is plain**: then, and only then, it
is the text of every plain reference to its secret.  Every secret that can be named has
another text. -/
theorem namesCanonically_iff (checks : NetlocChecks) {referenceId : String}
    {parts : ReferenceParts} (h : referenceParts checks referenceId = .ok parts) :
    ((∀ other, referenceParts checks other = .ok parts → IsPlain other →
      other = referenceId) ↔
      IsPlain referenceId) ∧
    ∃ other, referenceParts checks other = .ok parts ∧ other ≠ referenceId := by
  have hvalid := (referenceParts_eq_ok.mp h).1
  have hcanonical : referenceParts checks parts.canonical = .ok parts :=
    referenceParts_spelling hvalid rfl (.inl rfl)
  refine ⟨⟨fun hall => ?_, fun hplain other hother hplain' => ?_⟩, ?_⟩
  · exact hall _ hcanonical (isPlain_canonical hvalid) ▸ isPlain_canonical hvalid
  · rw [(isPlain_iff h).mp hplain, (isPlain_iff hother).mp hplain']
  · by_cases heq : referenceId = parts.canonical
    · exact ⟨parts.raised, referenceParts_spelling hvalid rfl (.inl rfl),
        fun hraised => raised_ne_canonical parts (hraised.trans heq)⟩
    · exact ⟨parts.canonical, hcanonical, fun hother => heq hother.symm⟩

/-- No authority with brackets and none outside ASCII is refused. -/
def lenientChecks : NetlocChecks := ⟨fun _ => none, fun _ => none⟩

theorem namesCanonically_plain :
    ((∀ other, referenceParts lenientChecks other = .ok ⟨['p'], [['k']]⟩ →
      IsPlain other →
        other = "secret://p/k") ↔ IsPlain "secret://p/k") ∧
      ∃ other, referenceParts lenientChecks other = .ok ⟨['p'], [['k']]⟩ ∧
        other ≠ "secret://p/k" :=
  namesCanonically_iff lenientChecks (by decide)

/-- Two texts of one secret, both accepted. -/
theorem reference_spelled_twice :
    ¬ ∀ (checks : NetlocChecks) (referenceId other : String) (parts : ReferenceParts),
      referenceParts checks referenceId = .ok parts →
      referenceParts checks other = .ok parts →
      referenceId = other := by
  intro hunique
  exact absurd (hunique lenientChecks "secret://p/k" "SECRET://p/k?" ⟨['p'], [['k']]⟩
    (by decide) (by decide)) (by decide)

end ControlPlaneKit.Topology
