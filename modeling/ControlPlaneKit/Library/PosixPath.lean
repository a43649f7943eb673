import Mathlib.Data.List.Infix

/-!
# PosixPath — what a path text names

A pure path is split at its slashes; empty segments and `.` are dropped, and two
slashes in front, when there are exactly two, are kept as a root of their own.  The
system that opens a file makes no difference between the two roots, so a text and
the file it denotes are compared here through the names below the root.
-/

namespace ControlPlaneKit.Library.PosixPath

/-! ## Texts and their names -/

/-- The segments of a path, the empty ones and `.` dropped. -/
def names (text : List Char) : List (List Char) :=
  (text.splitOn '/').filter fun name => decide (name ≠ [] ∧ name ≠ ['.'])

/-- The slashes in front: none, one, or exactly two. -/
def root : List Char → List Char
  | '/' :: '/' :: '/' :: _ => ['/']
  | '/' :: '/' :: _ => ['/', '/']
  | '/' :: _ => ['/']
  | _ => []

/-- `PurePosixPath(text).parts`. -/
def parts (text : List Char) : List (List Char) :=
  if root text = [] then names text else root text :: names text

/-- Names with a slash between them. -/
def join (segments : List (List Char)) : List Char := ['/'].intercalate segments

/-- `str(PurePosixPath(text))`. -/
def str (text : List Char) : List Char :=
  if root text = [] ∧ names text = [] then ['.'] else root text ++ join (names text)

/-- One name further down, or up again. -/
def descend (file : List (List Char)) (name : List Char) : List (List Char) :=
  if name = ['.', '.'] then file.dropLast else file ++ [name]

/-- The file a text denotes, as the names that lead to it from the root. -/
def denotes (text : List Char) : List (List Char) := (names text).foldl descend []

/-- `value == root or value.startswith(f"{root}/")`. -/
def AtOrBelow (root value : List Char) : Prop := value = root ∨ root ++ ['/'] <+: value

instance (root value : List Char) : Decidable (AtOrBelow root value) := by
  unfold AtOrBelow
  infer_instance

/-! ## Names -/

/-- A segment that stays when a text is split. -/
structure IsName (name : List Char) : Prop where
  nonempty : name ≠ []
  not_dot : name ≠ ['.']
  slashFree : '/' ∉ name

theorem not_mem_of_mem_splitOn {text name : List Char} (h : name ∈ text.splitOn '/') :
    '/' ∉ name := by
  induction text generalizing name with
  | nil =>
      rw [List.splitOn_nil, List.mem_singleton] at h
      simp [h]
  | cons c text ih =>
      rw [List.splitOn_cons_eq_if_modifyHead] at h
      cases hsplit : text.splitOn '/' with
      | nil => exact absurd hsplit (List.splitOn_ne_nil _ _)
      | cons head tail =>
          rw [hsplit] at h ih
          split at h
          · rcases List.mem_cons.mp h with rfl | h
            · simp
            · exact ih h
          · rename_i hc
            rw [List.modifyHead_cons] at h
            rcases List.mem_cons.mp h with rfl | h
            · have hhead : '/' ∉ head := ih (List.mem_cons_self ..)
              rw [List.mem_cons, not_or]
              exact ⟨fun heq => hc (by rw [← heq]; rfl), hhead⟩
            · exact ih (List.mem_cons_of_mem _ h)

theorem isName_of_mem_names {text name : List Char} (h : name ∈ names text) :
    IsName name := by
  obtain ⟨hmem, hkept⟩ := List.mem_filter.mp h
  obtain ⟨hnonempty, hdot⟩ := of_decide_eq_true hkept
  exact ⟨hnonempty, hdot, not_mem_of_mem_splitOn hmem⟩

theorem names_slash (text : List Char) : names ('/' :: text) = names text := by
  simp [names, List.splitOn_cons_eq_if_modifyHead]

theorem names_append (text rest : List Char) :
    names (text ++ '/' :: rest) = names text ++ names rest := by
  rw [names, List.splitOn_append_cons_self, List.filter_append]
  rfl

/-- **Names are read back** from the text they are joined into. -/
theorem names_join {segments : List (List Char)} (h : ∀ name ∈ segments, IsName name) :
    names (join segments) = segments := by
  cases segments with
  | nil => rfl
  | cons name rest =>
      rw [names, join,
        List.splitOn_intercalate '/' (fun other hother => (h other hother).slashFree)
        (by simp), List.filter_eq_self]
      exact fun other hother =>
        decide_eq_true ⟨(h other hother).nonempty, (h other hother).not_dot⟩

theorem join_append {front back : List (List Char)} (hfront : front ≠ [])
    (hback : back ≠ []) : join (front ++ back) = join front ++ '/' :: join back := by
  induction front with
  | nil => exact absurd rfl hfront
  | cons name rest ih =>
      cases rest with
      | nil =>
          cases back with
          | nil => exact absurd rfl hback
          | cons other tail => simp [join]
      | cons other tail =>
          have hrest := ih (by simp)
          simp only [join, List.cons_append, List.intercalate_cons_cons] at hrest ⊢
          rw [hrest]
          simp

/-! ## Absolute texts -/

/-- The one text with a single slash in front. -/
def absolute (segments : List (List Char)) : List Char := '/' :: join segments

theorem names_absolute {segments : List (List Char)}
    (h : ∀ name ∈ segments, IsName name) : names (absolute segments) = segments := by
  rw [absolute, names_slash, names_join h]

/-- One slash is all that stands in front of it. -/
theorem not_slashes_absolute {segments : List (List Char)}
    (h : ∀ name ∈ segments, IsName name) : ¬ ['/', '/'] <+: absolute segments := by
  intro hslashes
  rw [absolute, List.cons_prefix_cons] at hslashes
  cases segments with
  | nil => simp [join] at hslashes
  | cons name rest =>
      have hname := h name (List.mem_cons_self ..)
      cases name with
      | nil => exact hname.nonempty rfl
      | cons c tail =>
          obtain rfl : '/' = c := by
            cases rest with
            | nil => simpa [join, List.cons_prefix_cons] using hslashes.2
            | cons other others =>
                simpa [join, List.intercalate_cons_cons, List.cons_prefix_cons]
                  using hslashes.2
          exact hname.slashFree (List.mem_cons_self ..)

/-- A text that prints as itself has one slash in front, or two. -/
theorem absolute_of_str_eq {text : List Char} (habsolute : ['/'] <+: text)
    (h : str text = text) :
    text = absolute (names text) ∨ text = '/' :: absolute (names text) := by
  obtain ⟨rest, rfl⟩ := habsolute
  have hroot : root ('/' :: rest) = ['/'] ∨ root ('/' :: rest) = ['/', '/'] := by
    match rest with
    | [] => exact .inl rfl
    | [c] =>
        by_cases hc : c = '/'
        · subst hc
          exact .inr rfl
        · exact .inl (by simp [root, hc])
    | c :: d :: tail =>
        by_cases hc : c = '/'
        · subst hc
          by_cases hd : d = '/'
          · subst hd
            exact .inl rfl
          · exact .inr (by simp [root, hd])
        · exact .inl (by simp [root, hc])
  simp only [List.singleton_append] at h ⊢
  rw [str] at h
  rcases hroot with hroot | hroot
  · rw [hroot, if_neg (by simp)] at h
    exact .inl h.symm
  · rw [hroot, if_neg (by simp)] at h
    exact .inr h.symm

/-- **A text below another** is one whose names begin with the other's. -/
theorem atOrBelow_iff {above segments : List (List Char)}
    (habove : ∀ name ∈ above, IsName name) (hsegments : ∀ name ∈ segments, IsName name)
    (hne : above ≠ []) :
    AtOrBelow (absolute above) (absolute segments) ↔ above <+: segments := by
  constructor
  · rintro (heq | ⟨rest, hrest⟩)
    · have hnames := congrArg names heq
      rw [names_absolute habove, names_absolute hsegments] at hnames
      rw [hnames]
    · have hnames := congrArg names hrest
      rw [List.append_assoc, List.singleton_append, names_append, names_absolute habove,
        names_absolute hsegments] at hnames
      exact ⟨names rest, hnames⟩
  · rintro ⟨rest, rfl⟩
    cases rest with
    | nil => exact .inl (by rw [List.append_nil])
    | cons name tail =>
        refine .inr ⟨join (name :: tail), ?_⟩
        rw [absolute, absolute, join_append hne (by simp)]
        simp

/-- Without `..` the names are the way to the file. -/
theorem denotes_eq_names {text : List Char} (h : ['.', '.'] ∉ names text) :
    denotes text = names text := by
  have hfold : ∀ (segments file : List (List Char)), ['.', '.'] ∉ segments →
      segments.foldl descend file = file ++ segments := by
    intro segments
    induction segments with
    | nil => simp
    | cons name rest ih =>
        intro file hup
        rw [List.mem_cons, not_or] at hup
        rw [List.foldl_cons, ih _ hup.2, descend, if_neg (Ne.symm hup.1),
          List.append_assoc, List.singleton_append]
  rw [denotes, hfold _ _ h, List.nil_append]

end ControlPlaneKit.Library.PosixPath
