import ControlPlaneKit.Rotation.SigningKeys
import ControlPlaneKit.Topology.HexDigests

/-!
# SigningKeyLaws — what the commands make of the keys

Every accepted command has one of five effects on the table.  From these follow
the invariant of the table (a key is one row, a scope has one active key), what
stays of a key along every run, and when a command that is given again changes
nothing.
-/

namespace ControlPlaneKit.Rotation

open ControlPlaneKit.Library.EventFold (bind_ok)
open ControlPlaneKit.Library.Text (isReference)
open ControlPlaneKit.Library.Transactions
  (run settle settle_ok settle_error settle_cases
  run_invariant run_relation run_nil run_cons run_append)
open ControlPlaneKit.Operations
open ControlPlaneKit.Topology
open SigningKeyTable

variable {digest : String → String} {keys after : SigningKeyTable}
  {scope other : DelegationKeyScope} {keyId : String}

/-! ## Reading a key -/

theorem registeredDelegationSigningKey_columns {columns : SigningKeyColumns}
    {key : RegisteredDelegationSigningKey}
    (h : registeredDelegationSigningKey columns = .ok key) :
    key.toSigningKeyColumns = columns := by
  unfold registeredDelegationSigningKey at h
  split at h <;> cases h
  rfl

/-- A row that can be read is read with its own status. -/
theorem readRow_status {row : SigningKeyRow} {key : RegisteredDelegationSigningKey}
    (h : readRow digest row = .ok key) : key.status = row.status := by
  simp only [readRow, bind_ok] at h
  obtain ⟨publicKey, -, -, -, hkey⟩ := h
  rw [registeredDelegationSigningKey_columns hkey]

theorem getOrNone_eq_some {key : RegisteredDelegationSigningKey}
    (h : getOrNone digest keys scope keyId = .ok (some key)) :
    ∃ row, select keys scope keyId = some row ∧ key.status = row.status := by
  unfold getOrNone at h
  split at h
  · cases h
  · rename_i row hrow
    obtain ⟨key', hread, hkey⟩ := Library.Outcome.map_eq_ok.mp h
    cases hkey
    exact ⟨row, hrow, readRow_status hread⟩

theorem getOrNone_eq_none (h : getOrNone digest keys scope keyId = .ok none) :
    select keys scope keyId = none := by
  unfold getOrNone at h
  split at h
  · assumption
  · obtain ⟨key', -, hkey⟩ := Library.Outcome.map_eq_ok.mp h
    cases hkey

theorem get_eq_ok {key : RegisteredDelegationSigningKey}
    (h : SigningKeyTable.get digest keys scope keyId = .ok key) :
    ∃ row, select keys scope keyId = some row ∧ key.status = row.status := by
  simp only [SigningKeyTable.get, bind_ok, found_eq_ok] at h
  obtain ⟨value, hvalue, rfl⟩ := h
  exact getOrNone_eq_some hvalue

/-! ## Selecting a key of a written table -/

/-- An update keeps the identity of every row it touches. -/
theorem select_updateWhere {selected : SigningKeyRow → Bool}
    {update : SigningKeyRow → SigningKeyRow}
    (hupdate : ∀ row, (update row).identity = row.identity) :
    select (updateWhere keys selected update) scope keyId =
      (select keys scope keyId).map fun row => if selected row then update row
        else row := by
  rw [select, updateWhere, List.find?_map, select]
  congr 1
  refine congrArg (List.find? · keys) (funext fun row => ?_)
  rw [Function.comp_apply]
  split
  · rw [hupdate]
  · rfl

theorem select_append_row {row : SigningKeyRow} :
    select (keys ++ [row]) scope keyId =
      (select keys scope keyId).or
        (if row.identity.scope = scope && row.identity.keyId = keyId then some row
          else none) := by
  rw [select, List.find?_append, List.find?_singleton]
  rfl

/-- The row of a key is the key's. -/
theorem isKey_of_select {row : SigningKeyRow} (h : select keys scope keyId = some row) :
    row.identity.scope = scope ∧ row.identity.keyId = keyId := by
  have hkey := List.find?_some h
  simpa only [Bool.and_eq_true, decide_eq_true_eq] using hkey

/-! ## What the store writes -/

/-- The row a registration inserts. -/
def registeredRow (digest : String → String)
    (candidate : RegisteredDelegationSigningKey) : SigningKeyRow where
  identity := candidate.identity
  status := candidate.status
  publicFingerprintSha256 := digest candidate.identity.publicKey.publicKeyPem

def activatedTable (keys : SigningKeyTable) (scope : DelegationKeyScope)
    (keyId activatedBy activatedAt : String) : SigningKeyTable :=
  promote (demote keys scope) scope keyId activatedBy activatedAt

def retiredRow (retiredBy retiredAt : String) (row : SigningKeyRow) : SigningKeyRow :=
  { row with
      status := .retired, retiredBy := some retiredBy, retiredAt := some retiredAt }

def revokedRow (revokedBy revokedAt : String) (row : SigningKeyRow) : SigningKeyRow :=
  { row with
      status := .revoked, revokedBy := some revokedBy, revokedAt := some revokedAt }

/-- The row of the one key an update is about. -/
theorem select_updateWhere_self {update : SigningKeyRow → SigningKeyRow}
    {row : SigningKeyRow} (hupdate : ∀ row, (update row).identity = row.identity)
    (hrow : select keys scope keyId = some row) :
    select (updateWhere keys (isKey scope keyId) update) scope keyId =
      some (update row) := by
  obtain ⟨hscope, hkey⟩ := isKey_of_select hrow
  rw [select_updateWhere hupdate, hrow, Option.map_some,
    if_pos (by simp [isKey, hscope, hkey])]

section Store

variable {key candidate : RegisteredDelegationSigningKey} {actor instant : String}

/-- A registration finds the key, or appends it. -/
theorem register_effect (h : keys.register digest candidate = .ok (key, after)) :
    (∃ row, select keys candidate.identity.scope candidate.identity.keyId = some row ∧
        after = keys) ∨
      (select keys candidate.identity.scope candidate.identity.keyId = none ∧
        after = keys ++ [registeredRow digest candidate]) := by
  simp only [SigningKeyTable.register, bind_ok] at h
  obtain ⟨-, -, existing, hexisting, h⟩ := h
  cases existing with
  | some existing =>
      obtain ⟨row, hrow, -⟩ := getOrNone_eq_some hexisting
      refine .inl ⟨row, hrow, ?_⟩
      dsimp only at h
      split at h <;> cases h
      rfl
  | none =>
      refine .inr ⟨getOrNone_eq_none hexisting, ?_⟩
      simp only [bind_ok, insertRow] at h
      obtain ⟨written, ⟨-, -, hwritten⟩, registered, -, h⟩ := h
      cases hwritten
      cases h
      rfl

/-- An activation finds its key active already, or promotes it from verify-only. -/
theorem activate_effect
    (h : keys.activate digest scope keyId actor instant = .ok (key, after)) :
    ∃ row, select keys scope keyId = some row ∧
      ((row.status = .active ∧ after = keys) ∨
        (row.status = .verifyOnly ∧
          after = activatedTable keys scope keyId actor instant)) := by
  simp only [SigningKeyTable.activate, bind_ok, found_eq_ok] at h
  obtain ⟨-, -, _, hselected, candidate, rfl, h⟩ := h
  obtain ⟨row, hrow, hstatus⟩ := getOrNone_eq_some hselected
  refine ⟨row, hrow, ?_⟩
  rw [← hstatus]
  split at h
  · rename_i hactive
    cases h
    exact .inl ⟨hactive, rfl⟩
  · simp only [bind_ok, requireThat_eq_ok, decide_eq_true_eq] at h
    obtain ⟨-, hverify, _, -, h⟩ := h
    cases h
    exact .inr ⟨hverify, rfl⟩

/-- A retirement finds its key retired already, or retires it from verify-only. -/
theorem retire_effect
    (h : keys.retire digest scope keyId actor instant = .ok (key, after)) :
    ∃ row, select keys scope keyId = some row ∧
      ((row.status = .retired ∧ after = keys) ∨
        (row.status = .verifyOnly ∧
          after =
            updateWhere keys (isKey scope keyId) (retiredRow actor instant))) := by
  simp only [SigningKeyTable.retire, bind_ok, found_eq_ok] at h
  obtain ⟨-, -, _, hselected, current, rfl, h⟩ := h
  obtain ⟨row, hrow, hstatus⟩ := getOrNone_eq_some hselected
  refine ⟨row, hrow, ?_⟩
  rw [← hstatus]
  split at h
  · rename_i hretired
    cases h
    exact .inl ⟨hretired, rfl⟩
  · simp only [bind_ok, requireThat_eq_ok, decide_eq_true_eq] at h
    obtain ⟨-, hverify, _, -, h⟩ := h
    cases h
    exact .inr ⟨hverify, rfl⟩

/-- A revocation finds its key revoked already, or revokes it. -/
theorem revoke_effect
    (h : keys.revoke digest scope keyId actor instant = .ok (key, after)) :
    ∃ row, select keys scope keyId = some row ∧
      ((row.status = .revoked ∧ after = keys) ∨
        (row.status ≠ .revoked ∧
          after =
            updateWhere keys (isKey scope keyId) (revokedRow actor instant))) := by
  simp only [SigningKeyTable.revoke, bind_ok, found_eq_ok] at h
  obtain ⟨-, -, _, hselected, current, rfl, h⟩ := h
  obtain ⟨row, hrow, hstatus⟩ := getOrNone_eq_some hselected
  refine ⟨row, hrow, ?_⟩
  rw [← hstatus]
  split at h
  · rename_i hrevoked
    cases h
    exact .inl ⟨hrevoked, rfl⟩
  · rename_i hlive
    simp only [bind_ok] at h
    obtain ⟨_, -, h⟩ := h
    cases h
    exact .inr ⟨hlive, rfl⟩

end Store

theorem retiredRow_identity (retiredBy retiredAt : String) (row : SigningKeyRow) :
    (retiredRow retiredBy retiredAt row).identity = row.identity := rfl

theorem revokedRow_identity (revokedBy revokedAt : String) (row : SigningKeyRow) :
    (revokedRow revokedBy revokedAt row).identity = row.identity := rfl

/-! ## What a command writes -/

/-- Retired or revoked: the key verifies and signs no more. -/
def RegisteredDelegationSigningKeyStatus.IsEnded
    (status : RegisteredDelegationSigningKeyStatus) : Prop :=
  status = .retired ∨ status = .revoked

/-- A command has been carried out on a key, so giving it again writes nothing. -/
def SigningKeyCommand.CarriedOut (row : SigningKeyRow) : SigningKeyCommand → Prop
  | .register _ => True
  | .activate _ => row.status ≠ .verifyOnly
  | .retire _ => row.status.IsEnded
  | .revoke _ => row.status = .revoked

/-- **What an accepted command makes of the table.** -/
inductive SigningKeyEffect (keys : SigningKeyTable) :
    SigningKeyCommand → SigningKeyTable → Prop where
  | unchanged (command : SigningKeyCommand) {row}
      (hrow : select keys command.scope command.keyId = some row)
      (hdone : command.CarriedOut row) : SigningKeyEffect keys command keys
  | registered {command row}
      (hfresh : select keys command.scope command.publicKey.keyId = none)
      (hscope : row.identity.scope = command.scope)
      (hkey : row.identity.keyId = command.publicKey.keyId)
      (hstatus : row.status = .verifyOnly) :
      SigningKeyEffect keys (.register command) (keys ++ [row])
  | activated {command row} (hrow : select keys command.scope command.keyId = some row)
      (hstatus : row.status = .verifyOnly) :
      SigningKeyEffect keys (.activate command)
        (activatedTable keys command.scope command.keyId command.by' command.at')
  | retired {command row} (hrow : select keys command.scope command.keyId = some row)
      (hstatus : row.status = .verifyOnly) :
      SigningKeyEffect keys (.retire command)
        (updateWhere keys (isKey command.scope command.keyId)
          (retiredRow command.by' command.at'))
  | revoked {command row} (hrow : select keys command.scope command.keyId = some row)
      (hstatus : row.status ≠ .revoked) :
      SigningKeyEffect keys (.revoke command)
        (updateWhere keys (isKey command.scope command.keyId)
          (revokedRow command.by' command.at'))

theorem perform_effect {call : SigningKeyCall} {key : RegisteredDelegationSigningKey}
    (h : perform digest call keys = .ok (key, after)) :
    SigningKeyEffect keys call.command after := by
  obtain ⟨references, command⟩ := call
  cases command with
  | register command =>
      simp only [perform, registerKey, bind_ok] at h
      obtain ⟨-, -, candidate, hcandidate, -, -, h⟩ := h
      have hcolumns := registeredDelegationSigningKey_columns hcandidate
      have hscope : candidate.identity.scope = command.scope := by rw [hcolumns]
      have hkey : candidate.identity.keyId = command.publicKey.keyId := by
        rw [hcolumns]; rfl
      rcases register_effect h with ⟨row, hrow, rfl⟩ | ⟨hfresh, rfl⟩
      · rw [hscope, hkey] at hrow
        exact .unchanged (.register command) hrow trivial
      · rw [hscope, hkey] at hfresh
        exact .registered hfresh hscope hkey (by rw [registeredRow, hcolumns])
  | activate command =>
      simp only [perform, activateKey, bind_ok] at h
      obtain ⟨-, -, -, -, _, -, -, -, h⟩ := h
      obtain ⟨row, hrow, ⟨hstatus, rfl⟩ | ⟨hstatus, rfl⟩⟩ := activate_effect h
      · refine .unchanged (.activate command) hrow ?_
        rw [SigningKeyCommand.CarriedOut, hstatus]
        decide
      · exact .activated hrow hstatus
  | retire command =>
      simp only [perform, retireKey, bind_ok] at h
      obtain ⟨-, -, -, -, h⟩ := h
      obtain ⟨row, hrow, ⟨hstatus, rfl⟩ | ⟨hstatus, rfl⟩⟩ := retire_effect h
      · exact .unchanged (.retire command) hrow (.inl hstatus)
      · exact .retired hrow hstatus
  | revoke command =>
      simp only [perform, revokeKey, bind_ok] at h
      obtain ⟨-, -, -, -, h⟩ := h
      obtain ⟨row, hrow, ⟨hstatus, rfl⟩ | ⟨hstatus, rfl⟩⟩ := revoke_effect h
      · exact .unchanged (.revoke command) hrow hstatus
      · exact .revoked hrow hstatus

/-! ## What becomes of one key -/

/-- The row of a key after `activatedTable`. -/
def activatedRow (scope : DelegationKeyScope) (keyId activatedBy activatedAt : String)
    (row : SigningKeyRow) : SigningKeyRow :=
  let demoted := if row.identity.scope = scope && row.status = .active then
    { row with status := .verifyOnly } else row
  if demoted.identity.scope = scope && demoted.identity.keyId = keyId &&
      demoted.status = .verifyOnly then
    { demoted with
        status := .active, activatedBy := some activatedBy, activatedAt :=
          some activatedAt }
  else demoted

theorem activatedTable_eq (activatedBy activatedAt : String) :
    activatedTable keys scope keyId activatedBy activatedAt =
      keys.map (activatedRow scope keyId activatedBy activatedAt) := by
  rw [activatedTable, promote, demote, updateWhere, updateWhere, List.map_map]
  rfl

/-- What an activation makes of a row: the key itself, the key it demotes, or any
other. -/
theorem activatedRow_cases (scope : DelegationKeyScope)
    (keyId activatedBy activatedAt : String) (row : SigningKeyRow) :
    (row.identity.scope = scope ∧ row.identity.keyId = keyId ∧
        (row.status = .active ∨ row.status = .verifyOnly) ∧
        activatedRow scope keyId activatedBy activatedAt row =
          { row with
              status := .active, activatedBy := some activatedBy, activatedAt :=
                some activatedAt }) ∨
      (row.identity.scope = scope ∧ row.identity.keyId ≠ keyId ∧ row.status = .active ∧
        activatedRow scope keyId activatedBy activatedAt row =
          { row with status := .verifyOnly }) ∨
      (activatedRow scope keyId activatedBy activatedAt row = row ∧
        (row.identity.scope = scope → row.status ≠ .active ∧
          (row.identity.keyId = keyId → row.status ≠ .verifyOnly))) := by
  by_cases hscope : row.identity.scope = scope
  · by_cases hkey : row.identity.keyId = keyId
    · cases hstatus : row.status <;> simp [activatedRow, hscope, hkey, hstatus]
    · cases hstatus : row.status <;> simp [activatedRow, hscope, hkey, hstatus]
  · simp [activatedRow, hscope]

/-- What stays of a key: its identity and public material, and the end of its life. -/
structure Persists (row row' : SigningKeyRow) : Prop where
  identity : row'.identity = row.identity
  fingerprint : row'.publicFingerprintSha256 = row.publicFingerprintSha256
  ended : row.status.IsEnded → row'.status.IsEnded
  revoked : row.status = .revoked → row'.status = .revoked

theorem Persists.refl (row : SigningKeyRow) : Persists row row := ⟨rfl, rfl, id, id⟩

theorem Persists.trans {row₁ row₂ row₃ : SigningKeyRow} (h : Persists row₁ row₂)
    (h' : Persists row₂ row₃) : Persists row₁ row₃ where
  identity := h'.identity.trans h.identity
  fingerprint := h'.fingerprint.trans h.fingerprint
  ended := h'.ended ∘ h.ended
  revoked := h'.revoked ∘ h.revoked

theorem persists_activatedRow (scope : DelegationKeyScope)
    (keyId activatedBy activatedAt : String) (row : SigningKeyRow) :
    Persists row (activatedRow scope keyId activatedBy activatedAt row) := by
  rcases activatedRow_cases scope keyId activatedBy activatedAt row with
    ⟨-, -, hstatus, heq⟩ | ⟨-, -, hstatus, heq⟩ | ⟨heq, -⟩
  · rw [heq]
    refine ⟨rfl, rfl, fun h => ?_, fun h => ?_⟩
    · rcases hstatus with hstatus | hstatus <;> rcases h with h | h
        <;> simp [hstatus] at h
    · rcases hstatus with hstatus | hstatus <;> simp [hstatus] at h
  · rw [heq]
    refine ⟨rfl, rfl, fun h => ?_, fun h => ?_⟩
    · rcases h with h | h <;> simp [hstatus] at h
    · simp [hstatus] at h
  · rw [heq]
    exact .refl row

/-- A key that is not ended may be retired, and any key may be revoked. -/
theorem persists_retiredRow {row : SigningKeyRow} (hstatus : row.status ≠ .revoked)
    (retiredBy retiredAt : String) :
    Persists row (retiredRow retiredBy retiredAt row) :=
  ⟨rfl, rfl, fun _ => .inl rfl, fun h => absurd h hstatus⟩

theorem persists_revokedRow (revokedBy revokedAt : String) (row : SigningKeyRow) :
    Persists row (revokedRow revokedBy revokedAt row) :=
  ⟨rfl, rfl, fun _ => .inr rfl, fun _ => rfl⟩

/-- Every key of the one table is a key of the other, and persists. -/
def Follows (keys after : SigningKeyTable) : Prop :=
  ∀ scope keyId row, select keys scope keyId = some row →
    ∃ row', select after scope keyId = some row' ∧ Persists row row'

theorem Follows.refl (keys : SigningKeyTable) : Follows keys keys :=
  fun _ _ row hrow => ⟨row, hrow, .refl row⟩

theorem Follows.trans {keys₁ keys₂ keys₃ : SigningKeyTable} (h : Follows keys₁ keys₂)
    (h' : Follows keys₂ keys₃) : Follows keys₁ keys₃ := by
  intro scope keyId row hrow
  obtain ⟨row₂, hrow₂, hpersists⟩ := h scope keyId row hrow
  obtain ⟨row₃, hrow₃, hpersists'⟩ := h' scope keyId row₂ hrow₂
  exact ⟨row₃, hrow₃, hpersists.trans hpersists'⟩

theorem select_activatedTable (activatedBy activatedAt : String) {keyId' : String} :
    select (activatedTable keys scope keyId activatedBy activatedAt) other keyId' =
      (select keys other keyId').map
      (activatedRow scope keyId activatedBy activatedAt) := by
  have hidentity : ∀ row,
      (activatedRow scope keyId activatedBy activatedAt row).identity =
      row.identity := fun row =>
        (persists_activatedRow scope keyId activatedBy activatedAt row).identity
  rw [activatedTable_eq, select, List.find?_map, select]
  congr 1
  refine congrArg (List.find? · keys) (funext fun row => ?_)
  rw [Function.comp_apply, hidentity]

/-- An update of one key persists where it persists on that key. -/
theorem follows_updateWhere {row : SigningKeyRow}
    (hrow : select keys scope keyId = some row) {update : SigningKeyRow → SigningKeyRow}
    (hidentity : ∀ row, (update row).identity = row.identity)
    (hupdate : Persists row (update row)) :
    Follows keys (updateWhere keys (isKey scope keyId) update) := by
  intro other keyId' found hfound
  rw [select_updateWhere hidentity, hfound]
  refine ⟨_, rfl, ?_⟩
  dsimp only
  split
  · rename_i hkey
    obtain ⟨rfl, rfl⟩ := isKey_of_select hfound
    rw [isKey, Bool.and_eq_true, decide_eq_true_eq, decide_eq_true_eq] at hkey
    rw [hkey.1, hkey.2, hrow] at hfound
    cases hfound
    exact hupdate
  · exact .refl found

theorem SigningKeyEffect.follows {command : SigningKeyCommand}
    (h : SigningKeyEffect keys command after) : Follows keys after := by
  cases h with
  | unchanged => exact .refl _
  | registered =>
      intro other keyId' found hfound
      rw [select_append_row, hfound]
      exact ⟨found, rfl, .refl found⟩
  | activated hrow hstatus =>
      intro other keyId' found hfound
      rw [select_activatedTable, hfound]
      exact ⟨_, rfl, persists_activatedRow _ _ _ _ found⟩
  | retired hrow hstatus =>
      exact follows_updateWhere hrow (retiredRow_identity _ _)
        (persists_retiredRow (by rw [hstatus]; decide) _ _)
  | revoked hrow hstatus =>
      exact follows_updateWhere hrow (revokedRow_identity _ _)
        (persists_revokedRow _ _ _)

/-! ## The invariant of the table -/

def isActive (scope : DelegationKeyScope) (row : SigningKeyRow) : Bool :=
  row.identity.scope = scope && row.status = .active

/-- A key is one row, and a scope has at most one active key. -/
structure Sound (keys : SigningKeyTable) : Prop where
  oneRow : ∀ scope keyId, keys.countP (isKey scope keyId) ≤ 1
  oneActive : ∀ scope, keys.countP (isActive scope) ≤ 1

/-- A table rewritten row by row is sound again where no key is renamed and the
active keys of a scope were active before. -/
theorem Sound.map {rewrite : SigningKeyRow → SigningKeyRow} (h : Sound keys)
    (hidentity : ∀ row, (rewrite row).identity = row.identity)
    (hactive : ∀ scope, (keys.countP fun row => isActive scope (rewrite row)) ≤ 1) :
    Sound (keys.map rewrite) where
  oneRow scope keyId := by
    rw [List.countP_map]
    have hsame : (isKey scope keyId ∘ rewrite) = isKey scope keyId := by
      funext row
      rw [Function.comp_apply, isKey, hidentity, isKey]
    rw [hsame]
    exact h.oneRow scope keyId
  oneActive scope := by
    rw [List.countP_map]
    exact hactive scope

theorem Sound.activatedTable (h : Sound keys) (scope : DelegationKeyScope)
    (keyId activatedBy activatedAt : String) :
    Sound (activatedTable keys scope keyId activatedBy activatedAt) := by
  rw [activatedTable_eq]
  refine h.map (fun row => (persists_activatedRow scope keyId activatedBy activatedAt
    row).identity) fun other => ?_
  by_cases hother : other = scope
  · -- the active key of the scope is the activated one
    subst hother
    refine le_trans (List.countP_mono_left fun row _ hactive => ?_)
      (h.oneRow other keyId)
    rcases activatedRow_cases other keyId activatedBy activatedAt row with
      ⟨hscope, hkey, -, -⟩ | ⟨-, -, -, heq⟩ | ⟨heq, hquiet⟩
    · simp [isKey, hscope, hkey]
    · simp [isActive, heq] at hactive
    · rw [heq, isActive, Bool.and_eq_true, decide_eq_true_eq,
        decide_eq_true_eq] at hactive
      exact absurd hactive.2 (hquiet hactive.1).1
  · refine le_trans (List.countP_mono_left fun row _ hactive => ?_) (h.oneActive other)
    rcases activatedRow_cases scope keyId activatedBy activatedAt row with
      ⟨hscope, -, -, heq⟩ | ⟨hscope, -, -, heq⟩ | ⟨heq, -⟩
    · simp [isActive, heq, hscope, Ne.symm hother] at hactive
    · simp [isActive, heq] at hactive
    · rwa [heq] at hactive

theorem Sound.updateWhere (h : Sound keys) {selected : SigningKeyRow → Bool}
    {update : SigningKeyRow → SigningKeyRow}
    (hidentity : ∀ row, (update row).identity = row.identity)
    (hinactive : ∀ row, (update row).status ≠ .active) :
    Sound (updateWhere keys selected update) := by
  refine h.map (fun row => by split <;> simp [hidentity]) fun scope => ?_
  refine le_trans (List.countP_mono_left fun row _ hactive => ?_) (h.oneActive scope)
  split at hactive
  · simp [isActive, hinactive] at hactive
  · exact hactive

theorem SigningKeyEffect.sound {command : SigningKeyCommand}
    (h : SigningKeyEffect keys command after) (hkeys : Sound keys) : Sound after := by
  cases h with
  | unchanged => exact hkeys
  | registered hfresh hscope hkey hstatus =>
      constructor
      · intro scope keyId
        rw [List.countP_append, List.countP_singleton]
        split
        · rename_i hkey'
          rw [isKey, Bool.and_eq_true, decide_eq_true_eq, decide_eq_true_eq, hscope,
            hkey] at hkey'
          obtain ⟨rfl, rfl⟩ := hkey'
          rw [List.countP_eq_zero.mpr fun row hrow => by
            simpa [isKey] using List.find?_eq_none.mp hfresh row hrow]
        · exact hkeys.oneRow scope keyId
      · intro scope
        rw [List.countP_append, List.countP_singleton,
          if_neg (by simp [isActive, hstatus])]
        exact hkeys.oneActive scope
  | activated => exact hkeys.activatedTable _ _ _ _
  | retired =>
      exact hkeys.updateWhere (retiredRow_identity _ _) fun _ => by simp [retiredRow]
  | revoked =>
      exact hkeys.updateWhere (revokedRow_identity _ _) fun _ => by simp [revokedRow]

/-! ## Giving a command again -/

/-- An accepted command is carried out on its key. -/
theorem SigningKeyEffect.carriedOut {command : SigningKeyCommand}
    (h : SigningKeyEffect keys command after) :
    ∃ row, select after command.scope command.keyId = some row ∧
    command.CarriedOut row := by
  cases h with
  | unchanged _ hrow hdone => exact ⟨_, hrow, hdone⟩
  | @registered command row hfresh hscope hkey =>
      refine ⟨row, ?_, trivial⟩
      rw [select_append_row]
      show (select keys command.scope command.publicKey.keyId).or
        (if row.identity.scope = command.scope &&
          row.identity.keyId = command.publicKey.keyId then
          some row else none) = some row
      rw [hfresh, hscope, hkey]
      simp
  | @activated command row hrow hstatus =>
      have hselect : select (activatedTable keys command.scope command.keyId command.by'
            command.at') command.scope command.keyId =
            some (activatedRow command.scope command.keyId command.by'
              command.at' row) := by
        rw [select_activatedTable, hrow, Option.map_some]
      refine ⟨_, hselect, ?_⟩
      obtain ⟨hscope, hkey⟩ := isKey_of_select hrow
      rcases activatedRow_cases command.scope command.keyId command.by'
          command.at' row with
        ⟨-, -, -, heq⟩ | ⟨-, hother, -, -⟩ | ⟨-, hquiet⟩
      · simp [SigningKeyCommand.CarriedOut, heq]
      · exact absurd hkey hother
      · exact absurd hstatus ((hquiet hscope).2 hkey)
  | retired hrow =>
      exact ⟨_, select_updateWhere_self (retiredRow_identity _ _) hrow, .inl rfl⟩
  | revoked hrow =>
      exact ⟨_, select_updateWhere_self (revokedRow_identity _ _) hrow, rfl⟩

/-- A command that is carried out already changes nothing. -/
theorem settle_of_carriedOut {command : SigningKeyCommand} {row : SigningKeyRow}
    (hrow : select keys command.scope command.keyId = some row)
    (hdone : command.CarriedOut row) (references : SecretReferences) :
    settle (perform digest) keys ⟨references, command⟩ = keys := by
  rcases settle_cases (perform digest) keys ⟨references, command⟩ with h | ⟨key, h⟩
  · exact h
  · have heffect := perform_effect h
    generalize settle (perform digest) keys ⟨references, command⟩ = after at heffect
    cases heffect with
    | unchanged => rfl
    | registered hfresh => exact absurd (hfresh.symm.trans hrow) (by simp)
    | activated hrow' hstatus =>
        cases hrow'.symm.trans hrow
        exact absurd hstatus hdone
    | retired hrow' hstatus =>
        cases hrow'.symm.trans hrow
        rcases hdone with hdone | hdone <;> simp [hstatus] at hdone
    | revoked hrow' hstatus =>
        cases hrow'.symm.trans hrow
        exact absurd hdone hstatus

/-- The other command is no activation of another key in the scope of this one. -/
def SigningKeyCommand.Spares : SigningKeyCommand → SigningKeyCommand → Prop
  | .activate command, .activate between =>
      between.scope = command.scope → between.keyId = command.keyId
  | _, _ => True

/-- What is carried out stays so, unless its key is demoted. -/
theorem SigningKeyEffect.keepsCarriedOut {command between : SigningKeyCommand}
    {row : SigningKeyRow} (h : SigningKeyEffect keys between after)
    (hrow : select keys command.scope command.keyId = some row)
    (hdone : command.CarriedOut row) (hspares : command.Spares between) :
    ∃ row', select after command.scope command.keyId = some row' ∧
    command.CarriedOut row' := by
  obtain ⟨row', hrow', hpersists⟩ := h.follows _ _ row hrow
  refine ⟨row', hrow', ?_⟩
  cases command with
  | register => trivial
  | retire => exact hpersists.ended hdone
  | revoke => exact hpersists.revoked hdone
  | activate command =>
      obtain ⟨hscope, hkey⟩ := isKey_of_select hrow
      cases h with
      | unchanged =>
          cases hrow.symm.trans hrow'
          exact hdone
      | registered =>
          rw [select_append_row, hrow] at hrow'
          cases hrow'
          exact hdone
      | @activated between =>
          rw [select_activatedTable, hrow] at hrow'
          cases hrow'
          rcases activatedRow_cases between.scope between.keyId between.by'
              between.at' row with
            ⟨-, -, -, heq⟩ | ⟨hscope', hkey', -, -⟩ | ⟨heq, -⟩
          · simp [SigningKeyCommand.CarriedOut, heq]
          · exact absurd (hkey.trans (hspares (hscope'.symm.trans hscope)).symm) hkey'
          · rwa [heq]
      | retired =>
          rw [select_updateWhere (retiredRow_identity _ _), hrow] at hrow'
          cases hrow'
          dsimp only
          split
          · simp [SigningKeyCommand.CarriedOut, retiredRow]
          · exact hdone
      | revoked =>
          rw [select_updateWhere (revokedRow_identity _ _), hrow] at hrow'
          cases hrow'
          dsimp only
          split
          · simp [SigningKeyCommand.CarriedOut, revokedRow]
          · exact hdone

theorem run_keepsCarriedOut (digest : String → String) {command : SigningKeyCommand}
    (later : List SigningKeyCall) :
    ∀ {keys : SigningKeyTable} {row : SigningKeyRow},
      select keys command.scope command.keyId = some row → command.CarriedOut row →
      (∀ between ∈ later, command.Spares between.command) →
      ∃ row', select (run (perform digest) keys later) command.scope command.keyId =
        some row' ∧
        command.CarriedOut row' := by
  induction later with
  | nil => exact fun hrow hdone _ => ⟨_, hrow, hdone⟩
  | cons call later ih =>
      intro keys row hrow hdone hspares
      rw [run_cons]
      rcases settle_cases (perform digest) keys call with h | ⟨key, h⟩
      · rw [h]
        exact ih hrow hdone fun between hmem => hspares between (by simp [hmem])
      · obtain ⟨row', hrow', hdone'⟩ := (perform_effect h).keepsCarriedOut hrow hdone
          (hspares call (by simp))
        exact ih hrow' hdone' fun between hmem => hspares between (by simp [hmem])

/-! ## Every run of the commands -/

/-- **The lifecycle of the keys**, after a history of commands and some later ones:
a scope has one active key, what a key is stays, an ended key stays ended, an
activation demotes the active key of its scope only, an accepted command changes
nothing when it is given again (an activation, while no other key of the scope is
activated in between), and a refused one changes nothing. -/
structure KeyLifecycle (digest : String → String) (start : SigningKeyTable)
    (history later : List SigningKeyCall) (call : SigningKeyCall) : Prop where
  oneRow : ∀ scope keyId,
    (keysAfter digest start history).countP (isKey scope keyId) ≤ 1
  oneActive : ∀ scope, (keysAfter digest start history).countP (isActive scope) ≤ 1
  persists : Follows (keysAfter digest start history)
    (keysAfter digest start (history ++ later))
  demotes : ∀ command key after, call.command = .activate command →
    perform digest call (keysAfter digest start history) = .ok (key, after) →
    ∀ scope keyId row, select (keysAfter digest start history) scope keyId = some row →
      ∃ row', select after scope keyId = some row' ∧
        (row' = row ∨ (scope = command.scope ∧ keyId = command.keyId) ∨
          (scope = command.scope ∧ row.status = .active ∧
            row' = { row with status := .verifyOnly }))
  repeats : ∀ key after, perform digest call (keysAfter digest start history) =
    .ok (key, after) →
    (∀ between ∈ later, call.command.Spares between.command) → ∀ references,
      settle (perform digest) (keysAfter digest after later)
        ⟨references, call.command⟩ =
        keysAfter digest after later
  refuses : ∀ error, perform digest call (keysAfter digest start history) =
    .error error →
    settle (perform digest) (keysAfter digest start history) call =
      keysAfter digest start history

theorem follows_keysAfter (digest : String → String) (keys : SigningKeyTable)
    (calls : List SigningKeyCall) : Follows keys (keysAfter digest keys calls) :=
  run_relation (I := fun _ => True) Follows.refl (fun _ _ _ => Follows.trans)
    (fun _ _ _ _ _ _ => trivial)
    (fun _ _ _ _ _ h => (perform_effect h).follows) trivial calls

theorem keysLiveOnce (digest : String → String) (start : SigningKeyTable)
    (hstart : Sound start) (history later : List SigningKeyCall)
    (call : SigningKeyCall) : KeyLifecycle digest start history later call := by
  have hsound : Sound (keysAfter digest start history) :=
    run_invariant (fun _ _ _ _ hkeys h => (perform_effect h).sound hkeys) hstart history
  refine ⟨hsound.oneRow, hsound.oneActive, ?_, ?_, ?_, fun _ h => settle_error h⟩
  · rw [keysAfter, keysAfter, run_append]
    exact follows_keysAfter digest _ later
  · intro command key after hcommand h scope keyId row hrow
    have heffect := perform_effect h
    rw [hcommand] at heffect
    cases heffect with
    | unchanged => exact ⟨row, hrow, .inl rfl⟩
    | activated =>
        obtain ⟨hscope, hkey⟩ := isKey_of_select hrow
        refine ⟨_, by rw [select_activatedTable, hrow]; rfl, ?_⟩
        rcases activatedRow_cases command.scope command.keyId command.by'
            command.at' row with
          ⟨hscope', hkey', -, -⟩ | ⟨hscope', -, hactive, heq⟩ | ⟨heq, -⟩
        · exact .inr (.inl ⟨hscope.symm.trans hscope', hkey.symm.trans hkey'⟩)
        · exact .inr (.inr ⟨hscope.symm.trans hscope', hactive, heq⟩)
        · exact .inl heq
  · intro key after h hspares references
    obtain ⟨row, hrow, hdone⟩ := (perform_effect h).carriedOut
    obtain ⟨row', hrow', hdone'⟩ := run_keepsCarriedOut digest later hrow hdone hspares
    exact settle_of_carriedOut hrow' hdone' references

/-! ## Activations that go through -/

/-- A row that can be read. -/
def Readable (digest : String → String) (row : SigningKeyRow) : Prop :=
  ∃ key, readRow digest row = .ok key ∧ key.status = row.status ∧
    key.identity.privateKeyReference = row.identity.privateKeyReference

/-- A row is read as its columns where its key is in normal form under its fingerprint,
and they are well formed. -/
theorem readRow_of {row : SigningKeyRow}
    (hkey : delegationPublicKey row.identity.keyId row.identity.publicKey.publicKeyPem =
      .ok row.identity.publicKey)
    (hfingerprint : digest row.identity.publicKey.publicKeyPem =
      row.publicFingerprintSha256)
    (hchecked : checkColumns row.toSigningKeyColumns = .ok ()) :
    readRow digest row = .ok ⟨row.toSigningKeyColumns, hchecked⟩ := by
  have hbuilt : registeredDelegationSigningKey row.toSigningKeyColumns =
      .ok ⟨row.toSigningKeyColumns, hchecked⟩ := by
    unfold registeredDelegationSigningKey
    split
    · rfl
    · rename_i herror
      rw [hchecked] at herror
      cases herror
  rw [readRow, hkey, Library.Outcome.ok_bind, requireThat,
    if_pos (by simp [hfingerprint]), Library.Outcome.ok_bind]
  exact hbuilt

theorem readable_of {row : SigningKeyRow}
    (hkey : delegationPublicKey row.identity.keyId row.identity.publicKey.publicKeyPem =
      .ok row.identity.publicKey)
    (hfingerprint : digest row.identity.publicKey.publicKeyPem =
      row.publicFingerprintSha256)
    (hchecked : checkColumns row.toSigningKeyColumns = .ok ()) : Readable digest row :=
  ⟨⟨row.toSigningKeyColumns, hchecked⟩, readRow_of hkey hfingerprint hchecked, rfl, rfl⟩

theorem get_of_readable {row : SigningKeyRow}
    (hrow : select keys scope keyId = some row) (hread : Readable digest row) :
    ∃ key, SigningKeyTable.get digest keys scope keyId = .ok key ∧
      getOrNone digest keys scope keyId = .ok (some key) ∧ key.status = row.status ∧
      key.identity.privateKeyReference = row.identity.privateKeyReference := by
  obtain ⟨key, hkey, hstatus, hreference⟩ := hread
  have hvalue : getOrNone digest keys scope keyId = .ok (some key) := by
    rw [getOrNone, hrow]
    show (readRow digest row).map some = _
    rw [hkey, Except.map]
  refine ⟨key, ?_, hvalue, hstatus, hreference⟩
  rw [SigningKeyTable.get, hvalue, Library.Outcome.ok_bind, found]

/-- **A verify-only key is activated** by a well-formed command of an actor that may,
while its private reference is admitted for signing. -/
theorem perform_activates {references : SecretReferences} {row : SigningKeyRow}
    {command : ActivateDelegationSigningKeyCommand}
    (hrow : select keys command.scope command.keyId = some row)
    (hstatus : row.status = .verifyOnly) (hread : Readable digest row)
    (hread' : Readable digest
      (activatedRow command.scope command.keyId command.by' command.at' row))
    (hcommand : lifecycleCommand command = .ok ())
    (hscope : command.actorScopes.contains .delegationKeyActivate = true)
    (hreference : requireSigningReference references command.scope.workspaceId
      row.identity.privateKeyReference = .ok ())
    (hinstant : encodePostgresTimestamp command.at' = .ok ()) :
    ∃ key, perform digest ⟨references, .activate command⟩ keys =
      .ok (key, activatedTable keys command.scope command.keyId command.by'
        command.at') := by
  obtain ⟨key, hget, hvalue, hkeyStatus, hkeyReference⟩ := get_of_readable hrow hread
  obtain ⟨activated, hactivated, -⟩ := get_of_readable
    ((select_activatedTable command.by' command.at').trans (congrArg _ hrow)) hread'
  refine ⟨activated, ?_⟩
  rw [hstatus] at hkeyStatus
  simp only [perform, activateKey, hcommand, requireScope, requireThat, hscope, hget,
    hkeyReference, hreference, SigningKeyTable.activate, hinstant, hvalue,
    found, hkeyStatus, Library.Outcome.ok_bind, if_true, decide_true,
    reduceCtorEq, if_false]
  rw [show promote (demote keys command.scope) command.scope command.keyId
    command.by' command.at' =
    activatedTable keys command.scope command.keyId command.by' command.at'
      from rfl, hactivated]
  rfl

/-! A demoted key is activated again by the command that activated it first. -/

def signingScope : DelegationKeyScope := ⟨"w", .gatewayProbe, "i"⟩

def signingPem : String :=
  "-----BEGIN PUBLIC KEY-----\nQQ\n-----END PUBLIC KEY-----\n"

theorem signingPem_normal : normalizePublicKey signingPem = .ok signingPem := by
  decide

theorem signingReference_nonempty :
    Library.Text.isBlank "secret://p/k" = false := by decide

def signingIdentity (keyId : String) : SigningKeyIdentity where
  registrationId := delegationSigningKeyRegistrationIdFor sha256Hexdigest signingScope
    ⟨keyId, signingPem⟩ ⟨"secret://p/k", signingReference_nonempty⟩
  scope := signingScope
  publicKey := ⟨keyId, signingPem⟩
  privateKeyReference := ⟨"secret://p/k", signingReference_nonempty⟩
  admittedBy := "a"
  admittedAt := "2024-01-01T00:00:00Z"

def activateCommand (keyId : String) : ActivateDelegationSigningKeyCommand where
  scope := signingScope
  keyId := keyId
  by' := "a"
  at' := "2024-01-01T00:00:00Z"
  actorScopes := [.delegationKeyActivate]

def activateCall (keyId : String) : SigningKeyCall where
  references := fun _ _ => some [.gatewayProbeSigningKey]
  command := .activate (activateCommand keyId)

/-- A key of the scope, never activated or by the one actor. -/
def signingRow (keyId : String) (status : RegisteredDelegationSigningKeyStatus)
    (activated : Bool) : SigningKeyRow where
  identity := signingIdentity keyId
  status := status
  activatedBy := if activated then some "a" else none
  activatedAt := if activated then some "2024-01-01T00:00:00Z" else none
  publicFingerprintSha256 := sha256Hexdigest signingPem

/-- The texts of the two keys are well formed, however they are activated. -/
theorem signingTexts : ∀ keyId ∈ ["k", "l"],
    isReference keyId = true ∧ isReference "w" = true ∧ isReference "i" = true ∧
      isReference "a" = true ∧
      boundedText "2024-01-01T00:00:00Z" "admitted_at" = .ok () ∧
      boundedText "2024-01-01T00:00:00Z" "activation_at" = .ok () ∧
      encodePostgresTimestamp "2024-01-01T00:00:00Z" = .ok () := by
  decide

theorem signingRow_readable {keyId : String} (hkey : keyId ∈ ["k", "l"])
    {status : RegisteredDelegationSigningKeyStatus} {activated : Bool}
    (hstatus : status = .verifyOnly ∨ status = .active ∧ activated = true) :
    Readable sha256Hexdigest (signingRow keyId status activated) := by
  obtain ⟨hkeyId, hworkspace, hissuer, hactor, hadmitted, hactivated, -⟩ :=
    signingTexts keyId hkey
  refine readable_of ?_ rfl ?_
  · simp only [signingRow, signingIdentity, SigningKeyIdentity.keyId,
      delegationPublicKey, requireThat, hkeyId, signingPem_normal, if_true,
      Library.Outcome.ok_bind]
    rfl
  · have hregistration : isReference
        (signingRow keyId status activated).identity.registrationId = true :=
      isReference_tagged (by decide) (by decide) _
    simp only [checkColumns, identifier, requireThat, hregistration]
    cases activated
    · obtain rfl : status = .verifyOnly := hstatus.resolve_right (by simp)
      simp [signingRow, signingIdentity, signingScope, hworkspace, hissuer, hactor,
        hadmitted, Library.Outcome.ok_bind, paired]
    · simp [signingRow, signingIdentity, signingScope, hworkspace, hissuer, hactor,
        hadmitted, hactivated, Library.Outcome.ok_bind, paired, identifier, requireThat]
      rcases hstatus with rfl | ⟨rfl, -⟩ <;> rfl

/-- The key an activation finds verify-only becomes active. -/
theorem activateCall_accepted (keys : SigningKeyTable) {keyId : String}
    (hkey : keyId ∈ ["k", "l"]) (activated : Bool)
    (hrow : select keys signingScope keyId =
      some (signingRow keyId .verifyOnly activated)) :
    ∃ key, perform sha256Hexdigest (activateCall keyId) keys =
      .ok (key, activatedTable keys signingScope keyId "a" "2024-01-01T00:00:00Z") := by
  obtain ⟨hkeyId, hworkspace, hissuer, -, -, -, hinstant⟩ := signingTexts keyId hkey
  have hactive : activatedRow signingScope keyId "a" "2024-01-01T00:00:00Z"
      (signingRow keyId .verifyOnly activated) = signingRow keyId .active true := by
    simp [activatedRow, signingRow, signingIdentity, SigningKeyIdentity.keyId]
  refine perform_activates (show select keys (activateCommand keyId).scope _ = _
    from hrow) rfl (signingRow_readable hkey (.inl rfl)) ?_ ?_ rfl rfl hinstant
  · show Readable _ (activatedRow signingScope keyId "a" "2024-01-01T00:00:00Z" _)
    rw [hactive]
    exact signingRow_readable hkey (.inr ⟨rfl, rfl⟩)
  · simp [lifecycleCommand, activateCommand, signingScope, identifier, requireThat,
      hworkspace, hissuer, hkeyId, Library.Outcome.ok_bind]

def keyPair : SigningKeyTable :=
  [signingRow "k" .verifyOnly false, signingRow "l" .verifyOnly false]

def keyPairActivated : SigningKeyTable :=
  [signingRow "k" .active true, signingRow "l" .verifyOnly false]

theorem sound_keyPair : Sound keyPair := by
  constructor
  · intro scope keyId
    by_cases hk : "k" = keyId
    · subst hk
      simp [keyPair, signingRow, signingIdentity, isKey, SigningKeyIdentity.keyId,
        List.countP_cons]
      split <;> simp
    · simp [keyPair, signingRow, signingIdentity, isKey, SigningKeyIdentity.keyId,
        List.countP_cons, hk]
      split <;> simp
  · intro scope
    simp [keyPair, signingRow, isActive]

theorem keysLiveOnce_keyPair :
    KeyLifecycle sha256Hexdigest keyPair [activateCall "k"]
      [activateCall "l"] (activateCall "k") :=
  keysLiveOnce sha256Hexdigest keyPair sound_keyPair [activateCall "k"]
    [activateCall "l"] (activateCall "k")

theorem demotedKey_activatedAgain :
    (∃ key, perform sha256Hexdigest (activateCall "k") keyPair =
      .ok (key, keyPairActivated)) ∧
      settle (perform sha256Hexdigest)
          (keysAfter sha256Hexdigest keyPairActivated [activateCall "l"])
          (activateCall "k") ≠
        keysAfter sha256Hexdigest keyPairActivated [activateCall "l"] := by
  have hfirst : activatedTable keyPair signingScope "k" "a" "2024-01-01T00:00:00Z" =
      keyPairActivated := by
    simp [keyPair, keyPairActivated, activatedTable_eq, activatedRow, signingRow,
      signingIdentity, SigningKeyIdentity.keyId]
  have hsecond :
      activatedTable keyPairActivated signingScope "l" "a" "2024-01-01T00:00:00Z" =
      [signingRow "k" .verifyOnly true, signingRow "l" .active true] := by
    simp [keyPairActivated, activatedTable_eq, activatedRow, signingRow,
      signingIdentity, SigningKeyIdentity.keyId]
  have hthird : activatedTable [signingRow "k" .verifyOnly true, signingRow "l" .active
        true] signingScope "k" "a" "2024-01-01T00:00:00Z" =
        [signingRow "k" .active true, signingRow "l" .verifyOnly true] := by
    simp [activatedTable_eq, activatedRow, signingRow, signingIdentity,
      SigningKeyIdentity.keyId]
  obtain ⟨key₁, h₁⟩ :=
    activateCall_accepted keyPair (show "k" ∈ ["k", "l"] by simp) false
    (by simp [select, keyPair, signingRow, signingIdentity, SigningKeyIdentity.keyId])
  obtain ⟨key₂, h₂⟩ :=
    activateCall_accepted keyPairActivated (show "l" ∈ ["k", "l"] by simp) false
    (by simp [select, keyPairActivated, signingRow, signingIdentity,
      SigningKeyIdentity.keyId])
  obtain ⟨key₃, h₃⟩ := activateCall_accepted
    [signingRow "k" .verifyOnly true, signingRow "l" .active true]
    (show "k" ∈ ["k", "l"] by simp) true
    (by simp [select, signingRow, signingIdentity, SigningKeyIdentity.keyId])
  rw [hfirst] at h₁
  rw [hsecond] at h₂
  rw [hthird] at h₃
  refine ⟨⟨key₁, h₁⟩, ?_⟩
  have hbetween : keysAfter sha256Hexdigest keyPairActivated [activateCall "l"] =
      [signingRow "k" .verifyOnly true, signingRow "l" .active true] := by
    rw [keysAfter, run_cons, run_nil, settle_ok h₂]
  rw [hbetween, settle_ok h₃]
  simp [signingRow]

end ControlPlaneKit.Rotation
