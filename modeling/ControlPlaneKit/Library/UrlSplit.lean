import ControlPlaneKit.Library.PyValue
import ControlPlaneKit.Library.Text
import Mathlib.Data.List.TakeWhile

/-!
# UrlSplit — a URL cut at its delimiters

`urllib.parse.urlsplit` first cleans its text: control characters and blanks in
front are stripped, tabs and line breaks removed wherever they stand.  Then it cuts
off the scheme, lowering its case, the authority, the fragment and the query; a
delimiter with nothing behind it leaves no trace in the result.  The two checks of
an authority that need tables of their own (addresses in brackets, names outside
ASCII) are given from outside.
-/

namespace ControlPlaneKit.Library.UrlSplit

open ControlPlaneKit.Library.Text (isAsciiAlnum)

/-! ## Cutting -/

structure SplitResult where
  scheme : List Char
  netloc : List Char
  path : List Char
  query : List Char
  fragment : List Char
  deriving DecidableEq

/-- `_check_bracketed_netloc` and `_checknetloc`, by what they raise. -/
structure NetlocChecks where
  bracketed : List Char → Option PyError
  normalized : List Char → Option PyError

/-- `_WHATWG_C0_CONTROL_OR_SPACE`. -/
def isControlOrSpace (c : Char) : Bool := c.toNat ≤ 32

/-- `_UNSAFE_URL_BYTES_TO_REMOVE`. -/
def isUnsafeByte (c : Char) : Bool := c = '\t' || c = '\r' || c = '\n'

/-- What is left of a text to be split. -/
def cleaned (url : List Char) : List Char :=
  (url.dropWhile isControlOrSpace).filter fun c => !isUnsafeByte c

def isLetter (c : Char) : Bool :=
  let n := c.toNat
  (65 ≤ n && n ≤ 90) || (97 ≤ n && n ≤ 122)

/-- `scheme_chars`. -/
def isSchemeChar (c : Char) : Bool := isAsciiAlnum c || c = '+' || c = '-' || c = '.'

/-- `c.lower()` of a scheme character. -/
def lower (c : Char) : Char :=
  if 65 ≤ c.toNat && c.toNat ≤ 90 then Char.ofNat (c.toNat + 32) else c

/-- A text before and after the first of some delimiters, which stays in front. -/
def before (isDelimiter : Char → Bool) (text : List Char) : List Char × List Char :=
  (text.takeWhile fun c => !isDelimiter c, text.dropWhile fun c => !isDelimiter c)

/-- `text.split(delimiter, 1)`; nothing follows where the delimiter is missing. -/
def cut (delimiter : Char) (text : List Char) : List Char × List Char :=
  ((before (· = delimiter) text).1, (before (· = delimiter) text).2.drop 1)

def isScheme (text : List Char) : Bool :=
  (text.head?.any isLetter) && text.all isSchemeChar

/-- The scheme, lowered, and what follows its colon. -/
def splitScheme (url : List Char) : List Char × List Char :=
  match before (· = ':') url with
  | (scheme, ':' :: rest) =>
      if isScheme scheme then (scheme.map lower, rest) else ([], url)
  | _ => ([], url)

def isNetlocEnd (c : Char) : Bool := c = '/' || c = '?' || c = '#'

/-- The authority and what follows it. -/
def splitNetloc : List Char → List Char × List Char
  | '/' :: '/' :: rest => before isNetlocEnd rest
  | url => ([], url)

/-- What is wrong with an authority. -/
def netlocError (checks : NetlocChecks) (netloc : List Char) : Option PyError :=
  if '[' ∈ netloc ∧ ']' ∉ netloc ∨ ']' ∈ netloc ∧ '[' ∉ netloc then
    some (.valueError "Invalid IPv6 URL")
  else if '[' ∈ netloc ∧ ']' ∈ netloc ∧ (checks.bracketed netloc).isSome then
    checks.bracketed netloc
  else if netloc.all fun c => c.toNat < 128 then none
  else checks.normalized netloc

/-- The fragment and the query are taken off what follows the authority. -/
def splitTail (scheme netloc rest : List Char) : SplitResult where
  scheme := scheme
  netloc := netloc
  path := (cut '?' (cut '#' rest).1).1
  query := (cut '?' (cut '#' rest).1).2
  fragment := (cut '#' rest).2

/-- `urlsplit(url)`. -/
def urlsplit (checks : NetlocChecks) (url : List Char) : Except PyError SplitResult :=
  let schemed := splitScheme (cleaned url)
  let located := splitNetloc schemed.2
  match netlocError checks located.1 with
  | some error => .error error
  | none => .ok (splitTail schemed.1 located.1 located.2)

/-! ## What the pieces say about the text -/

theorem before_eq {isDelimiter : Char → Bool} {text front back : List Char} :
    before isDelimiter text = (front, back) ↔
      text = front ++ back ∧ (∀ c ∈ front, isDelimiter c = false) ∧
        ∀ c ∈ back.head?, isDelimiter c = true := by
  constructor
  · intro h
    obtain ⟨rfl, rfl⟩ := Prod.mk.inj h
    refine ⟨List.takeWhile_append_dropWhile.symm, fun c hc => ?_, fun c hc => ?_⟩
    · simpa using List.mem_takeWhile_imp hc
    · have hhead := List.head?_dropWhile_not (fun c => !isDelimiter c) text
      rw [Option.mem_def.mp hc] at hhead
      simpa using hhead
  · rintro ⟨rfl, hfront, hback⟩
    have hkept : ∀ c ∈ front, (!isDelimiter c) = true :=
      fun c hc => by rw [hfront c hc]; rfl
    rw [before, List.takeWhile_append_of_pos hkept, List.dropWhile_append_of_pos hkept]
    cases back with
    | nil => simp
    | cons c rest => simp [hback c rfl]

/-- Nothing after a cut: the delimiter is missing or last. -/
theorem eq_of_cut {delimiter : Char} {text front : List Char}
    (h : cut delimiter text = (front, [])) :
    ∃ tail, text = front ++ tail ∧ (tail = [] ∨ tail = [delimiter]) := by
  cases hcut : before (· = delimiter) text with
  | mk head back =>
      rw [cut, hcut] at h
      obtain ⟨rfl, hrest⟩ := Prod.mk.inj h
      obtain ⟨htext, -, hback⟩ := before_eq.mp hcut
      refine ⟨back, htext, ?_⟩
      cases back with
      | nil => exact .inl rfl
      | cons c rest =>
          obtain rfl : rest = [] := by simpa using hrest
          obtain rfl : c = delimiter := by simpa using hback c rfl
          exact .inr rfl

theorem cut_eq {delimiter : Char} {front tail : List Char} (hfront : delimiter ∉ front)
    (htail : tail = [] ∨ tail = [delimiter]) :
    cut delimiter (front ++ tail) = (front, []) := by
  have hbefore : before (· = delimiter) (front ++ tail) = (front, tail) := by
    refine before_eq.mpr ⟨rfl, fun c hc => ?_, fun c hc => ?_⟩
    · exact decide_eq_false fun heq => hfront (heq ▸ hc)
    · rcases htail with rfl | rfl
      · simp at hc
      · obtain rfl : delimiter = c := by simpa using hc
        exact decide_eq_true rfl
  rw [cut, hbefore]
  rcases htail with rfl | rfl <;> rfl

/-- What may stand behind a path and leave no trace: empty markers. -/
def IsEmptyTail (tail : List Char) : Prop :=
  tail = [] ∨ tail = ['?'] ∨ tail = ['#'] ∨ tail = ['?', '#']

theorem eq_of_splitTail {scheme netloc rest : List Char}
    (hquery : (splitTail scheme netloc rest).query = [])
    (hfragment : (splitTail scheme netloc rest).fragment = []) :
    ∃ tail, rest = (splitTail scheme netloc rest).path ++ tail ∧ IsEmptyTail tail := by
  obtain ⟨mark, hrest, hmark⟩ :=
    eq_of_cut (show cut '#' rest = (_, []) from Prod.ext rfl hfragment)
  obtain ⟨mark', hfront, hmark'⟩ := eq_of_cut
    (show cut '?' (cut '#' rest).1 = (_, []) from Prod.ext rfl hquery)
  refine ⟨mark' ++ mark, ?_, ?_⟩
  · rw [← List.append_assoc]
    exact hrest.trans (congrArg (· ++ mark) hfront)
  · rcases hmark' with rfl | rfl <;> rcases hmark with rfl | rfl <;> simp [IsEmptyTail]

theorem splitTail_eq {scheme netloc path tail : List Char}
    (hpath : '?' ∉ path ∧ '#' ∉ path) (htail : IsEmptyTail tail) :
    splitTail scheme netloc (path ++ tail) = ⟨scheme, netloc, path, [], []⟩ := by
  obtain ⟨mark', mark, rfl, hmark', hmark⟩ : ∃ mark' mark, tail = mark' ++ mark ∧
      (mark' = [] ∨ mark' = ['?']) ∧ (mark = [] ∨ mark = ['#']) := by
    rcases htail with rfl | rfl | rfl | rfl
    · exact ⟨[], [], rfl, .inl rfl, .inl rfl⟩
    · exact ⟨['?'], [], rfl, .inr rfl, .inl rfl⟩
    · exact ⟨[], ['#'], rfl, .inl rfl, .inr rfl⟩
    · exact ⟨['?'], ['#'], rfl, .inr rfl, .inr rfl⟩
  have hhash : cut '#' (path ++ mark' ++ mark) = (path ++ mark', []) := by
    refine cut_eq (fun hmem => ?_) hmark
    rcases List.mem_append.mp hmem with hmem | hmem
    · exact hpath.2 hmem
    · rcases hmark' with rfl | rfl <;> simp at hmem
  have hquestion : cut '?' (path ++ mark') = (path, []) := cut_eq hpath.1 hmark'
  rw [splitTail, ← List.append_assoc, hhash, hquestion]

theorem eq_of_splitScheme {url scheme rest : List Char}
    (h : splitScheme url = (scheme, rest)) (hne : scheme ≠ []) :
    ∃ written, url = written ++ ':' :: rest ∧ written.map lower = scheme ∧
    ':' ∉ written := by
  unfold splitScheme at h
  split at h
  · rename_i written rest' hbefore
    obtain ⟨hurl, hfront, -⟩ := before_eq.mp hbefore
    split at h
    · obtain ⟨rfl, rfl⟩ := Prod.mk.inj h
      exact ⟨written, hurl, rfl, fun hmem => by simpa using hfront _ hmem⟩
    · exact absurd (Prod.mk.inj h).1.symm hne
  · exact absurd (Prod.mk.inj h).1.symm hne

theorem splitScheme_eq {written rest : List Char} (hscheme : isScheme written = true)
    (hcolon : ':' ∉ written) :
    splitScheme (written ++ ':' :: rest) = (written.map lower, rest) := by
  have hbefore : before (· = ':') (written ++ ':' :: rest) = (written, ':' :: rest) :=
    before_eq.mpr
      ⟨rfl, fun c hc => decide_eq_false fun heq => hcolon (heq ▸ hc), by simp⟩
  rw [splitScheme, hbefore]
  exact if_pos hscheme

theorem eq_of_splitNetloc {url netloc rest : List Char}
    (h : splitNetloc url = (netloc, rest)) (hne : netloc ≠ []) :
    url = '/' :: '/' :: (netloc ++ rest) := by
  unfold splitNetloc at h
  split at h
  · rw [(before_eq.mp h).1]
  · exact absurd (Prod.mk.inj h).1.symm hne

theorem splitNetloc_eq {netloc rest : List Char}
    (hnetloc : ∀ c ∈ netloc, isNetlocEnd c = false) (hrest : rest.head? = some '/') :
    splitNetloc ('/' :: '/' :: (netloc ++ rest)) = (netloc, rest) := by
  refine before_eq.mpr ⟨rfl, hnetloc, fun c hc => ?_⟩
  rw [hrest] at hc
  obtain rfl : '/' = c := by simpa using hc
  rfl

/-! ## Texts and their results -/

section Whole

variable {checks : NetlocChecks}

/-- `scheme://netloc path tail`. -/
def spelled (written netloc path tail : List Char) : List Char :=
  written ++ ':' :: '/' :: '/' :: (netloc ++ (path ++ tail))

/-- **A result without query and fragment** comes from a text that is spelled out of its
pieces, up to the case of the scheme and to empty markers. -/
theorem eq_of_urlsplit {url : List Char} {parsed : SplitResult}
    (h : urlsplit checks url = .ok parsed) (hscheme : parsed.scheme ≠ [])
    (hnetloc : parsed.netloc ≠ []) (hquery : parsed.query = [])
    (hfragment : parsed.fragment = []) :
    ∃ written tail, cleaned url = spelled written parsed.netloc parsed.path tail ∧
      written.map lower = parsed.scheme ∧ ':' ∉ written ∧ IsEmptyTail tail := by
  cases hschemed : splitScheme (cleaned url) with
  | mk scheme rest =>
  cases hlocated : splitNetloc rest with
  | mk netloc after =>
  rw [urlsplit] at h
  simp only [hschemed, hlocated] at h
  split at h
  · cases h
  · cases h
    obtain ⟨written, hurl, hlower, hcolon⟩ := eq_of_splitScheme hschemed hscheme
    obtain ⟨tail, hafter, htail⟩ := eq_of_splitTail hquery hfragment
    refine ⟨written, tail, ?_, hlower, hcolon, htail⟩
    rw [hurl, eq_of_splitNetloc hlocated hnetloc, spelled]
    exact congrArg
      (fun after => written ++ ':' :: '/' :: '/' :: (netloc ++ after)) hafter

theorem netlocError_eq_none {netloc : List Char} (hascii : ∀ c ∈ netloc, c.toNat < 128)
    (hbrackets : '[' ∉ netloc ∧ ']' ∉ netloc) : netlocError checks netloc = none := by
  rw [netlocError, if_neg (by simp [hbrackets]), if_neg (by simp [hbrackets]),
    if_pos (by simpa using hascii)]

/-- **A text spelled out of its pieces** is split into them. -/
theorem urlsplit_eq {url written netloc path tail : List Char}
    (hurl : cleaned url = spelled written netloc path tail)
    (hscheme : isScheme written = true) (hcolon : ':' ∉ written)
    (hascii : ∀ c ∈ netloc, c.toNat < 128) (hbrackets : '[' ∉ netloc ∧ ']' ∉ netloc)
    (hends : ∀ c ∈ netloc, isNetlocEnd c = false) (hpath : '?' ∉ path ∧ '#' ∉ path)
    (habsolute : path.head? = some '/') (htail : IsEmptyTail tail) :
    urlsplit checks url = .ok ⟨written.map lower, netloc, path, [], []⟩ := by
  have hrest : (path ++ tail).head? = some '/' := by
    rw [List.head?_append, habsolute]
    rfl
  rw [urlsplit, hurl, spelled, splitScheme_eq hscheme hcolon]
  simp only [splitNetloc_eq hends hrest, netlocError_eq_none hascii hbrackets,
    splitTail_eq hpath htail]

end Whole

end ControlPlaneKit.Library.UrlSplit
