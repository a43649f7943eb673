import ControlPlaneKit.Topology.Changes
import ControlPlaneKit.Topology.SecretReferences

/-!
# TargetPaths — where products may place files in a container

Three constructors take a container path: a configuration artifact, a retained data
mount and a secret file.  Each compares the text with its `PurePosixPath`, refuses
`..` and keeps away from roots of its own by looking at how the text begins.
-/

namespace ControlPlaneKit.Topology

open ControlPlaneKit.Library.PosixPath

/-! ## The three checks -/

/-- `ConfigurationArtifactError`, `ProductRuntimeContractError` or
`SecretResolutionError`. -/
inductive TargetPathError where
  | configurationArtifact (message : String)
  | productRuntimeContract (message : String)
  | secretResolution (error : SecretResolutionError)
  deriving DecidableEq, Repr

/-- `_FORBIDDEN_ROOTS`. -/
def forbiddenRoots : List String :=
  ["/dev", "/proc", "/run/secrets", "/sys", "/var/run/docker.sock"]

/-- `validate_configuration_target_path(value)`. -/
def validateConfigurationTargetPath (value : String) : Except TargetPathError Unit :=
  if ¬ ['/'] <+: value.toList ∨ ['/'] <:+ value.toList then
    .error (.configurationArtifact "configuration target must be an absolute file path")
  else if str value.toList ≠ value.toList ∨ ['.', '.'] ∈ parts value.toList ∨
      value = "/" then
    .error (.configurationArtifact "configuration target path is not normalized")
  else if ∃ part ∈ (parts value.toList).drop 1, isReferenceSegment part = false then
    .error (.configurationArtifact
      "configuration target path contains unsafe characters")
  else if ∃ root ∈ forbiddenRoots, AtOrBelow root.toList value.toList then
    .error (.configurationArtifact "configuration target path is reserved")
  else .ok ()

/-- `_validate_retained_data_target_path(value)`. -/
def validateRetainedDataTargetPath (value : String) : Except TargetPathError Unit :=
  if ¬ ['/'] <+: value.toList then
    .error (.productRuntimeContract
      "retained data mount target_path must be an absolute container path")
  else if str value.toList ≠ value.toList ∨ ['/'] <:+ value.toList ∨
      ['.'] ∈ parts value.toList ∨ ['.', '.'] ∈ parts value.toList then
    .error (.productRuntimeContract "retained data mount target_path is malformed")
  else if value.toList.flatMap lowerChar = ['/'] ∨
      "/proc/".toList <+: value.toList.flatMap lowerChar ∨
      "/sys/".toList <+: value.toList.flatMap lowerChar ∨
      "/var/run/".toList <+: value.toList.flatMap lowerChar ∨
      "docker.sock".toList <:+: value.toList.flatMap lowerChar then
    .error (.productRuntimeContract
      "retained data mount target_path uses a forbidden runtime or host namespace")
  else .ok ()

/-- `_validate_secret_target_path(value)`. -/
def validateSecretTargetPath (value : String) : Except TargetPathError Unit :=
  if ¬ "/run/secrets/".toList <+: value.toList then
    .error (.secretResolution
      ⟨.malformedReference,
        "secret file target must use the protected secret namespace"⟩)
  else if str value.toList ≠ value.toList ∨ ['/'] <:+ value.toList ∨
      (∃ part ∈ parts value.toList, part = ['.'] ∨ part = ['.', '.']) ∨
      ∃ part ∈ (parts value.toList).drop 3, isReferenceSegment part = false then
    .error (.secretResolution ⟨.malformedReference, "secret file target is malformed"⟩)
  else .ok ()

/-- The constructors that take a container path. -/
inductive TargetPath where
  | configuration
  | retainedData
  | secretFile
  deriving DecidableEq, Repr

def TargetPath.validate : TargetPath → String → Except TargetPathError Unit
  | .configuration => validateConfigurationTargetPath
  | .retainedData => validateRetainedDataTargetPath
  | .secretFile => validateSecretTargetPath

/-- What a constructor keeps its paths away from; a secret file has a place instead. -/
def TargetPath.reservedRoots : TargetPath → List String
  | .configuration => forbiddenRoots
  | .retainedData => ["/proc", "/sys", "/var/run"]
  | .secretFile => []

/-! ## What an accepted text looks like -/

/-- Absolute, printed as itself, and never upwards. -/
structure IsTarget (value : List Char) : Prop where
  absolute : ['/'] <+: value
  normal : str value = value
  not_up : ['.', '.'] ∉ names value

theorem mem_parts {value : List Char} {name : List Char} (h : name ∈ names value) :
    name ∈ parts value := by
  unfold parts
  split
  · exact h
  · exact List.mem_cons_of_mem _ h

theorem isTarget_of_validate {kind : TargetPath} {value : String}
    (h : kind.validate value = .ok ()) : IsTarget value.toList := by
  cases kind with
  | configuration =>
      simp only [TargetPath.validate, validateConfigurationTargetPath] at h
      split at h
      · cases h
      · rename_i habsolute
        split at h
        · cases h
        · rename_i hnormal
          simp only [not_or, Decidable.not_not] at habsolute hnormal
          exact ⟨habsolute.1, hnormal.1, fun hup => hnormal.2.1 (mem_parts hup)⟩
  | retainedData =>
      simp only [TargetPath.validate, validateRetainedDataTargetPath] at h
      split at h
      · cases h
      · rename_i habsolute
        split at h
        · cases h
        · rename_i hnormal
          simp only [not_or, Decidable.not_not] at habsolute hnormal
          exact ⟨habsolute, hnormal.1, fun hup => hnormal.2.2.2 (mem_parts hup)⟩
  | secretFile =>
      simp only [TargetPath.validate, validateSecretTargetPath] at h
      split at h
      · cases h
      · rename_i hplace
        split at h
        · cases h
        · rename_i hnormal
          simp only [not_or, Decidable.not_not, not_exists, not_and] at hplace hnormal
          obtain ⟨rest, hrest⟩ := hplace
          exact ⟨⟨"run/secrets/".toList ++ rest, hrest⟩, hnormal.1,
            fun hup => (hnormal.2.2.1 _ (mem_parts hup)).2 rfl⟩

namespace IsTarget

variable {value other : List Char}

theorem denotes_eq (h : IsTarget value) : denotes value = names value :=
  denotes_eq_names h.not_up

theorem isName (_ : IsTarget value) : ∀ name ∈ names value, IsName name := fun _ =>
  isName_of_mem_names

/-- **Two texts of one file** differ by a slash in front. -/
theorem eq_or_slash (h : IsTarget value) (hother : IsTarget other)
    (hfile : denotes value = denotes other) :
    value = other ∨ value = '/' :: other ∨ other = '/' :: value := by
  rw [h.denotes_eq, hother.denotes_eq] at hfile
  rcases absolute_of_str_eq h.absolute h.normal with hvalue | hvalue <;>
    rcases absolute_of_str_eq hother.absolute hother.normal with hother' | hother'
  · exact .inl (by rw [hvalue, hother', hfile])
  · exact .inr (.inr (by rw [hother', ← hfile, ← hvalue]))
  · exact .inr (.inl (by rw [hvalue, hfile, ← hother']))
  · exact .inl (by rw [hvalue, hother', hfile])

theorem denotes_slash (h : IsTarget value) (hother : IsTarget ('/' :: value)) :
    denotes ('/' :: value) = denotes value := by
  rw [h.denotes_eq, hother.denotes_eq, names_slash]

end IsTarget

/-! ## Reserved roots -/

/-- The file a text denotes is no reserved root of its constructor and below none. -/
def TargetPath.KeepsOut (kind : TargetPath) (value : String) : Prop :=
  ∀ root ∈ kind.reservedRoots, ¬ names root.toList <+: denotes value.toList

/-- **How a path gets past the check**: two slashes in front hide a reserved root from
the comparison of texts, and a data mount looks below its roots but not at them. -/
def TargetPath.Escapes (kind : TargetPath) (value : String) : Prop :=
  (['/', '/'] <+: value.toList ∧
    ∃ root ∈ kind.reservedRoots, AtOrBelow root.toList (value.toList.drop 1)) ∨
  (kind = .retainedData ∧ value ∈ kind.reservedRoots)

instance (kind : TargetPath) (value : String) : Decidable (kind.KeepsOut value) := by
  unfold TargetPath.KeepsOut
  infer_instance

instance (kind : TargetPath) (value : String) : Decidable (kind.Escapes value) := by
  unfold TargetPath.Escapes
  infer_instance

/-- A reserved root is written with one slash in front. -/
theorem reservedRoot_absolute : ∀ kind : TargetPath, ∀ root ∈ kind.reservedRoots,
    root.toList = absolute (names root.toList) ∧ names root.toList ≠ []
  | .configuration => by decide
  | .retainedData => by decide
  | .secretFile => by decide

theorem atOrBelow_reserved {kind : TargetPath} {root : String}
    (hroot : root ∈ kind.reservedRoots) {segments : List (List Char)}
    (h : ∀ name ∈ segments, IsName name) :
    AtOrBelow root.toList (absolute segments) ↔ names root.toList <+: segments := by
  obtain ⟨habsolute, hne⟩ := reservedRoot_absolute kind root hroot
  rw [← atOrBelow_iff (fun _ => isName_of_mem_names) h hne, ← habsolute]

/-- Lower case leaves a text in front alone that is in lower case already. -/
theorem prefix_flatMap_lowerChar {front value : List Char}
    (hlower : front.flatMap lowerChar = front) (h : front <+: value) :
    front <+: value.flatMap lowerChar := by
  obtain ⟨rest, rfl⟩ := h
  rw [List.flatMap_append, hlower]
  exact List.prefix_append ..

/-- With one slash in front the check sees every path below a root, and a configuration
target at it. -/
theorem eq_root_of_atOrBelow {kind : TargetPath} {value : String}
    (h : kind.validate value = .ok ()) {root : String}
    (hroot : root ∈ kind.reservedRoots) (hbelow : AtOrBelow root.toList value.toList) :
    kind = .retainedData ∧ value = root := by
  cases kind with
  | configuration =>
      simp only [TargetPath.validate, validateConfigurationTargetPath] at h
      rw [if_neg (by intro hc; rw [if_pos hc] at h; cases h)] at h
      rw [if_neg (by intro hc; rw [if_pos hc] at h; cases h)] at h
      rw [if_neg (by intro hc; rw [if_pos hc] at h; cases h)] at h
      rw [if_pos ⟨root, hroot, hbelow⟩] at h
      cases h
  | retainedData =>
      refine ⟨rfl, ?_⟩
      rcases hbelow with heq | hbelow
      · exact String.toList_inj.mp heq
      · simp only [TargetPath.validate, validateRetainedDataTargetPath] at h
        split at h
        · cases h
        · split at h
          · cases h
          · split at h
            · cases h
            · rename_i hclear
              simp only [not_or] at hclear
              obtain ⟨-, hproc, hsys, hrun, -⟩ := hclear
              simp only [TargetPath.reservedRoots, List.mem_cons, List.not_mem_nil,
                or_false] at hroot
              rcases hroot with rfl | rfl | rfl
              · exact absurd (prefix_flatMap_lowerChar (by decide) hbelow) hproc
              · exact absurd (prefix_flatMap_lowerChar (by decide) hbelow) hsys
              · exact absurd (prefix_flatMap_lowerChar (by decide) hbelow) hrun
  | secretFile => simp [TargetPath.reservedRoots] at hroot

theorem keepsOut_iff {kind : TargetPath} {value : String}
    (h : kind.validate value = .ok ()) :
    kind.KeepsOut value ↔ ¬ kind.Escapes value := by
  have htarget := isTarget_of_validate h
  have hnames := htarget.isName
  rw [TargetPath.KeepsOut, htarget.denotes_eq]
  rcases absolute_of_str_eq htarget.absolute htarget.normal with hvalue | hvalue
  · have hone : ¬ ['/', '/'] <+: value.toList := by
      rw [hvalue]
      exact not_slashes_absolute hnames
    constructor
    · rintro hkeeps (⟨hslashes, -⟩ | ⟨-, hroot⟩)
      · exact hone hslashes
      · exact hkeeps value hroot (List.prefix_refl _)
    · intro hescapes root hroot hbelow
      rw [← atOrBelow_reserved hroot hnames, ← hvalue] at hbelow
      obtain ⟨hkind, rfl⟩ := eq_root_of_atOrBelow h hroot hbelow
      exact hescapes (.inr ⟨hkind, hroot⟩)
  · have hdrop : value.toList.drop 1 = absolute (names value.toList) := by
      rw [hvalue, List.drop_one, List.tail_cons, names_slash, names_absolute hnames]
    have htwo : ['/', '/'] <+: value.toList := by
      rw [hvalue]
      exact ⟨join (names value.toList), rfl⟩
    constructor
    · rintro hkeeps (⟨-, root, hroot, hbelow⟩ | ⟨-, hroot⟩)
      · rw [hdrop, atOrBelow_reserved hroot hnames] at hbelow
        exact hkeeps root hroot hbelow
      · exact hkeeps value hroot (List.prefix_refl _)
    · intro hescapes root hroot hbelow
      rw [← atOrBelow_reserved hroot hnames, ← hdrop] at hbelow
      exact hescapes (.inl ⟨htwo, root, hroot, hbelow⟩)

/-- A secret file stands below the protected namespace. -/
theorem secretFile_below {value : String}
    (h : validateSecretTargetPath value = .ok ()) :
    ["run".toList, "secrets".toList] <+: denotes value.toList := by
  have htarget :=
    isTarget_of_validate (show TargetPath.secretFile.validate value = .ok () from h)
  rw [htarget.denotes_eq]
  unfold validateSecretTargetPath at h
  split at h
  · cases h
  · rename_i hplace
    obtain ⟨rest, hrest⟩ := Decidable.not_not.mp hplace
    rw [← hrest]
    exact ⟨names rest, (names_append "/run/secrets".toList rest).symm⟩

/-- **Target paths stay out of the reserved roots, each file under one text**, exactly
as long as they do not escape and none is another with a slash in front. -/
theorem targetPathsSafe_iff {kind : TargetPath} {value other : String}
    (h : kind.validate value = .ok ()) (hother : kind.validate other = .ok ()) :
    (kind.KeepsOut value ∧
      (value ≠ other → denotes value.toList ≠ denotes other.toList)) ↔
    (¬ kind.Escapes value ∧ value.toList ≠ '/' :: other.toList ∧
      other.toList ≠ '/' :: value.toList) := by
  have htarget := isTarget_of_validate h
  have htarget' := isTarget_of_validate hother
  rw [keepsOut_iff h]
  refine and_congr_right fun _ =>
    ⟨fun hdistinct => ⟨fun hslash => ?_, fun hslash => ?_⟩, ?_⟩
  · have hfile := htarget'.denotes_slash (hslash ▸ htarget)
    rw [← hslash] at hfile
    refine hdistinct (fun heq => ?_) hfile
    have := congrArg List.length hslash
    rw [heq, List.length_cons] at this
    omega
  · have hfile := htarget.denotes_slash (hslash ▸ htarget')
    rw [← hslash] at hfile
    refine hdistinct (fun heq => ?_) hfile.symm
    have := congrArg List.length hslash
    rw [heq, List.length_cons] at this
    omega
  · rintro ⟨hslash, hslash'⟩ hne hfile
    rcases htarget.eq_or_slash htarget' hfile with heq | heq | heq
    · exact hne (String.toList_inj.mp heq)
    · exact hslash heq
    · exact hslash' heq

theorem targetPathsSafe_config :
    (TargetPath.configuration.KeepsOut "/a" ∧
      ("/a" ≠ "/b" → denotes "/a".toList ≠ denotes "/b".toList)) ↔
    (¬ TargetPath.configuration.Escapes "/a" ∧ "/a".toList ≠ '/' :: "/b".toList ∧
      "/b".toList ≠ '/' :: "/a".toList) :=
  targetPathsSafe_iff (by decide) (by decide)

/-- `//proc/x` is accepted as a configuration target. -/
theorem reservedRoots_reached :
    ¬ ∀ (kind : TargetPath) (value other : String), kind.validate value = .ok () →
      kind.validate other = .ok () →
      kind.KeepsOut value ∧
      (value ≠ other → denotes value.toList ≠ denotes other.toList) := by
  intro hsafe
  exact absurd (hsafe .configuration "//proc/x" "//proc/x" (by decide) (by decide)).1
    (by decide)

end ControlPlaneKit.Topology
