import Mathlib.Data.List.Nodup

/-!
# Registry — rows that are admitted, revoked and kept

A registry holds one row for each admission.  A row's identity is computed from
what it holds and is the table's primary key; its key is what only one active row
may hold.  Revoking keeps the row.  Two registers differ in what they replay: one
answers with the active row of the key, the other with the row of the identity,
whatever its status.

## Main results

* `Sound` — identities are distinct, and one row of a key is active; `Move.sound`
  shows that no register and no revocation breaks it.
* `registerByKey_truthful`, `registerByIdentity_truthful` — when a register gives
  an active row of exactly what was to be admitted, or refuses by its own error.
-/

namespace ControlPlaneKit.Library.Registry

inductive RegistrationStatus where
  | active
  | revoked
  deriving DecidableEq, Repr

/-- A row: what it holds, and who admitted it when. -/
structure Registration (μ α : Type) where
  registrationId : String
  entry : μ
  admission : α
  status : RegistrationStatus
  deriving DecidableEq

/-- How the rows of a registry are named. -/
structure Scheme (μ κ : Type) where
  identity : μ → String
  key : μ → κ

variable {μ α κ ι ε : Type} [DecidableEq κ] [DecidableEq ι]

/-- The row an admission would insert. -/
def Scheme.candidate (scheme : Scheme μ κ) (entry : μ) (admission : α) :
    Registration μ α where
  registrationId := scheme.identity entry
  entry
  admission
  status := .active

/-! ## The operations -/

/-- The active row of a key. -/
def activeFor (scheme : Scheme μ κ) (rows : List (Registration μ α)) (key : κ) :
    Option (Registration μ α) :=
  rows.find? fun row => row.status = .active && scheme.key row.entry = key

/-- The insertion, with the table's primary key. -/
def insertRow (taken : ε) (rows : List (Registration μ α))
    (candidate : Registration μ α) :
    Except ε (Registration μ α × List (Registration μ α)) :=
  if rows.any fun row => row.registrationId = candidate.registrationId then .error taken
  else .ok (candidate, rows ++ [candidate])

/-- Register, answering with the active row of the key when it holds the same. -/
def registerByKey (scheme : Scheme μ κ) (same : μ → μ → Bool) (conflict taken : ε)
    (rows : List (Registration μ α)) (candidate : Registration μ α) :
    Except ε (Registration μ α × List (Registration μ α)) :=
  match activeFor scheme rows (scheme.key candidate.entry) with
  | some existing =>
      if same existing.entry candidate.entry then .ok (existing, rows)
      else .error conflict
  | none => insertRow taken rows candidate

/-- Register, answering with the row that is found by its identity. -/
def registerByIdentity (scheme : Scheme μ κ) (lookup : Registration μ α → ι)
    (conflict taken : ε) (rows : List (Registration μ α))
    (candidate : Registration μ α) :
    Except ε (Registration μ α × List (Registration μ α)) :=
  match rows.find? fun row => lookup row = lookup candidate with
  | some existing => .ok (existing, rows)
  | none =>
      match activeFor scheme rows (scheme.key candidate.entry) with
      | some _ => .error conflict
      | none => insertRow taken rows candidate

/-- The update that revokes the selected rows. -/
def revokeWhere (selected : Registration μ α → Bool) (rows : List (Registration μ α)) :
    List (Registration μ α) :=
  rows.map fun row => if selected row then { row with status := .revoked } else row

/-- Revoke what is read, unless it is revoked already, and read it again. -/
def revokeRead (read : List (Registration μ α) → Except ε (Registration μ α))
    (selected : Registration μ α → Bool) (rows : List (Registration μ α)) :
    Except ε (Registration μ α × List (Registration μ α)) := do
  let current ← read rows
  if current.status = .revoked then .ok (current, rows)
  else do
    let registered ← read (revokeWhere selected rows)
    .ok (registered, revokeWhere selected rows)

/-! ## What the tables keep -/

/-- One registration of a key is active. -/
def OneActive (key : μ → κ) (rows : List (Registration μ α)) : Prop :=
  ((rows.filter (·.status = .active)).map fun row => key row.entry).Nodup

structure Sound (scheme : Scheme μ κ) (rows : List (Registration μ α)) : Prop where
  identified : ∀ row ∈ rows, row.registrationId = scheme.identity row.entry
  distinct : (rows.map (·.registrationId)).Nodup
  oneActive : OneActive scheme.key rows

/-- What a command makes of a table. -/
inductive Move (scheme : Scheme μ κ) (rows : List (Registration μ α)) :
    List (Registration μ α) → Prop where
  | keep : Move scheme rows rows
  | insert (entry : μ) (admission : α)
      (hfree : ∀ row ∈ rows, row.registrationId ≠ scheme.identity entry)
      (hkey : activeFor scheme rows (scheme.key entry) = none) :
      Move scheme rows (rows ++ [scheme.candidate entry admission])
  | revoke (selected : Registration μ α → Bool) :
      Move scheme rows (revokeWhere selected rows)

variable {scheme : Scheme μ κ} {rows after : List (Registration μ α)}
  {candidate row : Registration μ α}

theorem activeFor_eq_none {key : κ} : activeFor scheme rows key = none ↔
    ∀ row ∈ rows, row.status = .active → scheme.key row.entry ≠ key := by
  simp [activeFor]

theorem activeFor_eq_some {key : κ} (h : activeFor scheme rows key = some row) :
    row ∈ rows ∧ row.status = .active ∧ scheme.key row.entry = key := by
  have hrow := List.find?_some h
  simp only [Bool.and_eq_true, decide_eq_true_eq] at hrow
  exact ⟨List.mem_of_find?_eq_some h, hrow⟩

omit [DecidableEq κ] in
theorem sound_nil : Sound scheme ([] : List (Registration μ α)) where
  identified := by simp
  distinct := by simp
  oneActive := by simp [OneActive]

/-- Revoking leaves a part of the active rows active. -/
theorem active_revokeWhere (selected : Registration μ α → Bool)
    (rows : List (Registration μ α)) :
    ((revokeWhere selected rows).filter (·.status = .active)).Sublist
      (rows.filter (·.status = .active)) := by
  induction rows with
  | nil => simp [revokeWhere]
  | cons row rows ih =>
      rw [revokeWhere, List.map_cons]
      by_cases hrow : selected row
      · rw [if_pos hrow, List.filter_cons_of_neg (by simp)]
        exact ih.trans (List.Sublist.filter _ (List.sublist_cons_self row rows))
      · rw [if_neg hrow]
        by_cases hactive : row.status = .active
        · rw [List.filter_cons_of_pos (by simpa using hactive),
            List.filter_cons_of_pos (by simpa using hactive)]
          exact ih.cons_cons row
        · rw [List.filter_cons_of_neg (by simpa using hactive),
            List.filter_cons_of_neg (by simpa using hactive)]
          exact ih

omit [DecidableEq κ] in
theorem Sound.revokeWhere (hsound : Sound scheme rows)
    (selected : Registration μ α → Bool) :
    Sound scheme (revokeWhere selected rows) where
  identified := by
    intro row hrow
    obtain ⟨old, hold, rfl⟩ := List.mem_map.mp hrow
    have hidentified := hsound.identified old hold
    split
    · exact hidentified
    · exact hidentified
  distinct := by
    have hids : (Registry.revokeWhere selected rows).map (·.registrationId) =
        rows.map (·.registrationId) := by
      rw [Registry.revokeWhere, List.map_map]
      refine List.map_congr_left fun row _ => ?_
      rw [Function.comp_apply]
      split <;> rfl
    rw [hids]
    exact hsound.distinct
  oneActive := hsound.oneActive.sublist ((active_revokeWhere selected rows).map _)

theorem Sound.insert {entry : μ} {admission : α} (hsound : Sound scheme rows)
    (hfree : ∀ row ∈ rows, row.registrationId ≠ scheme.identity entry)
    (hkey : activeFor scheme rows (scheme.key entry) = none) :
    Sound scheme (rows ++ [scheme.candidate entry admission]) where
  identified := by
    intro row hrow
    rcases List.mem_append.mp hrow with hrow | hrow
    · exact hsound.identified row hrow
    · rw [List.mem_singleton.mp hrow]
      rfl
  distinct := by
    rw [List.map_append, List.map_singleton, ← List.concat_eq_append]
    refine hsound.distinct.concat fun hmem => ?_
    obtain ⟨row, hrow, hid⟩ := List.mem_map.mp hmem
    exact hfree row hrow hid
  oneActive := by
    have hactive := activeFor_eq_none.mp hkey
    rw [OneActive, List.filter_append,
      List.filter_cons_of_pos (by simp [Scheme.candidate]), List.filter_nil,
      List.map_append, List.map_singleton, ← List.concat_eq_append]
    refine hsound.oneActive.concat fun hmem => ?_
    obtain ⟨row, hrow, hrowkey⟩ := List.mem_map.mp hmem
    obtain ⟨hrow, hstatus⟩ := List.mem_filter.mp hrow
    exact hactive row hrow (by simpa using hstatus) hrowkey

/-- **The table's invariant.** -/
theorem Move.sound (hmove : Move scheme rows after) (hsound : Sound scheme rows) :
    Sound scheme after := by
  cases hmove with
  | keep => exact hsound
  | insert entry admission hfree hkey => exact hsound.insert hfree hkey
  | revoke selected => exact hsound.revokeWhere selected

omit [DecidableEq κ] in
/-- Rows of one identity are one row. -/
theorem Sound.eq_of_identity (hsound : Sound scheme rows) {a b : Registration μ α}
    (ha : a ∈ rows) (hb : b ∈ rows)
    (hid : a.registrationId = b.registrationId) : a = b :=
  List.inj_on_of_nodup_map hsound.distinct ha hb hid

omit [DecidableEq κ] in
/-- Rows that hold the same are one row. -/
theorem Sound.eq_of_entry (hsound : Sound scheme rows) {a b : Registration μ α}
    (ha : a ∈ rows) (hb : b ∈ rows) (hentry : a.entry = b.entry) : a = b :=
  hsound.eq_of_identity ha hb (by
    rw [hsound.identified a ha, hsound.identified b hb, hentry])

/-! ## What the operations make of a table -/

theorem insertRow_cases (rows : List (Registration μ α)) (taken : ε)
    (candidate : Registration μ α) :
    ((∃ row ∈ rows, row.registrationId = candidate.registrationId) ∧
        insertRow taken rows candidate = .error taken) ∨
      ((∀ row ∈ rows, row.registrationId ≠ candidate.registrationId) ∧
        insertRow taken rows candidate = .ok (candidate, rows ++ [candidate])) := by
  unfold insertRow
  split
  · rename_i htaken
    exact .inl ⟨by simpa using htaken, rfl⟩
  · rename_i hfree
    exact .inr ⟨by simpa using hfree, rfl⟩

theorem insertRow_move {taken : ε} {entry : μ} {admission : α}
    (hkey : activeFor scheme rows (scheme.key entry) = none)
    (h : insertRow taken rows (scheme.candidate entry admission) = .ok (row, after)) :
    Move scheme rows after := by
  rcases insertRow_cases rows taken (scheme.candidate entry admission) with
    ⟨-, herror⟩ | ⟨hfree, hok⟩
  · rw [herror] at h
    cases h
  · rw [hok] at h
    cases h
    exact .insert entry admission hfree hkey

theorem registerByKey_move {same : μ → μ → Bool} {conflict taken : ε} {entry : μ}
    {admission : α} (h : registerByKey scheme same conflict taken rows
      (scheme.candidate entry admission) =
      .ok (row, after)) : Move scheme rows after := by
  unfold registerByKey at h
  split at h
  · split at h <;> cases h
    exact .keep
  · rename_i hkey
    exact insertRow_move hkey h

theorem registerByIdentity_move {lookup : Registration μ α → ι}
    {conflict taken : ε} {entry : μ} {admission : α}
    (h : registerByIdentity scheme lookup conflict taken rows
      (scheme.candidate entry admission) =
      .ok (row, after)) : Move scheme rows after := by
  unfold registerByIdentity at h
  split at h
  · cases h
    exact .keep
  · split at h
    · cases h
    · rename_i hkey
      exact insertRow_move hkey h

theorem revokeRead_move {read : List (Registration μ α) → Except ε (Registration μ α)}
    {selected : Registration μ α → Bool}
    (h : revokeRead read selected rows = .ok (row, after)) :
    Move scheme rows after := by
  unfold revokeRead at h
  cases hcurrent : read rows with
  | error e => rw [hcurrent] at h; cases h
  | ok current =>
      rw [hcurrent] at h
      change (if current.status = .revoked then _ else _) = _ at h
      split at h
      · cases h
        exact .keep
      · cases hread : read (revokeWhere selected rows) with
        | error e => rw [hread] at h; cases h
        | ok registered =>
            rw [hread] at h
            cases h
            exact .revoke selected

/-! ## When a register tells the truth -/

/-- Nothing that holds the same was revoked. -/
def NeverRevoked (rows : List (Registration μ α)) (entry : μ) : Prop :=
  ∀ row ∈ rows, row.entry = entry → row.status = .active

/-- What a register must do: answer with an active row of exactly what was to be
admitted, or refuse by its own error; and what was revoked is not refused. -/
def Truthful (own : ε → Prop) (rows : List (Registration μ α)) (entry : μ) :
    Except ε (Registration μ α × List (Registration μ α)) → Prop
  | .ok (row, after) => row.status = .active ∧ row.entry = entry ∧ row ∈ after
  | .error refusal => own refusal ∧ NeverRevoked rows entry

/-- An active row holds the key. -/
def KeyHeld (scheme : Scheme μ κ) (rows : List (Registration μ α)) (entry : μ) : Prop :=
  ∃ row ∈ rows, row.status = .active ∧ scheme.key row.entry = scheme.key entry

/-- No row has the identity. -/
def IdentityFree (scheme : Scheme μ κ) (rows : List (Registration μ α))
    (entry : μ) : Prop :=
  ∀ row ∈ rows, row.registrationId ≠ scheme.identity entry

section Truthful

variable {own : ε → Prop} {conflict taken : ε} {entry : μ} {admission : α}

theorem not_keyHeld (h : activeFor scheme rows (scheme.key entry) = none) :
    ¬ KeyHeld scheme rows entry := by
  rintro ⟨row, hrow, hactive, hkey⟩
  exact activeFor_eq_none.mp h row hrow hactive hkey

theorem keyHeld_of_activeFor (h : activeFor scheme rows (scheme.key entry) = some row) :
    KeyHeld scheme rows entry :=
  have ⟨hrow, hactive, hkey⟩ := activeFor_eq_some h
  ⟨row, hrow, hactive, hkey⟩

omit [DecidableEq κ] in
theorem Sound.neverRevoked_of_free (hsound : Sound scheme rows)
    (hfree : IdentityFree scheme rows entry) : NeverRevoked rows entry := by
  intro row hrow hentry
  exact absurd (by rw [hsound.identified row hrow, hentry]) (hfree row hrow)

omit [DecidableEq κ] in
/-- An insertion is truthful when the identity is free. -/
theorem insertRow_truthful (htaken : ¬ own taken) :
    Truthful own rows entry (insertRow taken rows (scheme.candidate entry admission)) ↔
      IdentityFree scheme rows entry := by
  rcases insertRow_cases rows taken (scheme.candidate entry admission) with
    ⟨⟨row, hrow, hid⟩, herror⟩ | ⟨hfree, hok⟩
  · rw [herror]
    exact ⟨fun h => absurd h.1 htaken, fun h => absurd hid (h row hrow)⟩
  · rw [hok]
    exact ⟨fun _ => hfree, fun _ => ⟨rfl, rfl, by simp⟩⟩

/-- **Replay by the active key.** -/
theorem registerByKey_truthful {same : μ → μ → Bool} (hsound : Sound scheme rows)
    (hown : own conflict) (htaken : ¬ own taken)
    (hsame : ∀ a b, scheme.key a = scheme.key b → (same a b = true ↔ a = b)) :
    Truthful own rows entry
        (registerByKey scheme same conflict taken rows
          (scheme.candidate entry admission)) ↔
      NeverRevoked rows entry ∧
      (KeyHeld scheme rows entry ∨ IdentityFree scheme rows entry) := by
  unfold registerByKey
  cases hactive : activeFor scheme rows
      (scheme.key (scheme.candidate entry admission).entry) with
  | some existing =>
      obtain ⟨hmem, hstatus, hkey⟩ := activeFor_eq_some hactive
      have hheld : KeyHeld scheme rows entry := keyHeld_of_activeFor hactive
      dsimp only
      split
      · rename_i heq
        have hentry : existing.entry = entry := (hsame _ _ hkey).mp heq
        -- the active row is the only one that holds the same
        refine ⟨fun _ => ⟨fun row hrow hrowentry => ?_, .inl hheld⟩, fun _ =>
          ⟨hstatus, hentry, hmem⟩⟩
        rw [hsound.eq_of_entry hrow hmem (hrowentry.trans hentry.symm)]
        exact hstatus
      · exact ⟨fun h => ⟨h.2, .inl hheld⟩, fun h => ⟨hown, h.1⟩⟩
  | none =>
      dsimp only
      rw [insertRow_truthful htaken]
      exact ⟨fun hfree => ⟨hsound.neverRevoked_of_free hfree, .inr hfree⟩,
        fun h => h.2.resolve_left (not_keyHeld hactive)⟩

/-- The rows found by the candidate's identity are active and hold the same. -/
def FoundSame (lookup : Registration μ α → ι) (rows : List (Registration μ α))
    (candidate : Registration μ α) : Prop :=
  ∀ row ∈ rows, lookup row = lookup candidate →
    row.status = .active ∧ row.entry = candidate.entry

/-- Some row is found by the candidate's identity. -/
def Found (lookup : Registration μ α → ι) (rows : List (Registration μ α))
    (candidate : Registration μ α) : Prop :=
  ∃ row ∈ rows, lookup row = lookup candidate

/-- **Replay by identity.** -/
theorem registerByIdentity_truthful {lookup : Registration μ α → ι}
    (hsound : Sound scheme rows) (hown : own conflict) (htaken : ¬ own taken)
    (hlookup : ∀ a ∈ rows, ∀ b ∈ rows, lookup a = lookup b →
      a.registrationId = b.registrationId)
    (hentry : ∀ a ∈ rows, a.entry = entry →
      lookup a = lookup (scheme.candidate entry admission)) :
    Truthful own rows entry
        (registerByIdentity scheme lookup conflict taken rows
          (scheme.candidate entry admission)) ↔
      FoundSame lookup rows (scheme.candidate entry admission) ∧
        (Found lookup rows (scheme.candidate entry admission) ∨
          KeyHeld scheme rows entry ∨
          IdentityFree scheme rows entry) := by
  unfold registerByIdentity
  split
  · rename_i existing hexisting
    have hmem := List.mem_of_find?_eq_some hexisting
    have hfound : lookup existing = lookup (scheme.candidate entry admission) := by
      simpa using List.find?_some hexisting
    constructor
    · rintro ⟨hstatus, hsame, -⟩
      refine ⟨fun row hrow hrowfound => ?_, .inl ⟨existing, hmem, hfound⟩⟩
      rw [hsound.eq_of_identity hrow hmem (hlookup row hrow existing hmem
        (hrowfound.trans hfound.symm))]
      exact ⟨hstatus, hsame⟩
    · rintro ⟨hsame, -⟩
      exact ⟨(hsame existing hmem hfound).1, (hsame existing hmem hfound).2, hmem⟩
  · rename_i hnone
    have hmissing : ∀ row ∈ rows,
        lookup row ≠ lookup (scheme.candidate entry admission) := by
      simpa using hnone
    have hsame : FoundSame lookup rows (scheme.candidate entry admission) :=
        fun row hrow hfound =>
      absurd hfound (hmissing row hrow)
    have hnotFound : ¬ Found lookup rows (scheme.candidate entry admission) :=
      fun ⟨row, hrow, hfound⟩ => hmissing row hrow hfound
    split
    · rename_i hactive
      exact ⟨fun _ => ⟨hsame, .inr (.inl (keyHeld_of_activeFor hactive))⟩,
        fun _ => ⟨hown, fun row hrow hrowentry =>
          absurd (hentry row hrow hrowentry) (hmissing row hrow)⟩⟩
    · rename_i hactive
      rw [insertRow_truthful htaken]
      exact ⟨fun hfree => ⟨hsame, .inr (.inr hfree)⟩,
        fun h => (h.2.resolve_left hnotFound).resolve_left (not_keyHeld hactive)⟩

end Truthful

end ControlPlaneKit.Library.Registry
