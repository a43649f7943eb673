import ControlPlaneKit.Rotation.SigningKeyLaws
import ControlPlaneKit.Rotation.VerifierProjection

/-!
# KeySwitch — what reading the keys gives before and after an activation

An activation changes the status of the two keys of a rotation, and nothing that a
reader of their identities sees: the scope verifies with the same keys.
-/

namespace ControlPlaneKit.Rotation

open ControlPlaneKit.Library.EventFold (bind_ok)
open ControlPlaneKit.Library.Ordering (sortedBy mem_sortedBy sortedBy_perm)
open ControlPlaneKit.Library.Outcome (mapM_eq_ok)
open ControlPlaneKit.Operations
open ControlPlaneKit.Topology
open SigningKeyTable

variable {hash : String → String} {keys after : SigningKeyTable}
  {scope : DelegationKeyScope} {oldKeyId newKeyId keyId : String}

/-! ## Reading a row -/

theorem delegationPublicKey_keyId {publicKeyPem : String} {key : DelegationPublicKey}
    (h : delegationPublicKey keyId publicKeyPem = .ok key) : key.keyId = keyId := by
  simp only [delegationPublicKey, bind_ok] at h
  obtain ⟨-, -, normalized, -, h⟩ := h
  cases h
  rfl

theorem registeredDelegationSigningKey_eq_ok {columns : SigningKeyColumns}
    {key : RegisteredDelegationSigningKey} :
    registeredDelegationSigningKey columns = .ok key ↔
      key.toSigningKeyColumns = columns := by
  refine ⟨registeredDelegationSigningKey_columns, ?_⟩
  rintro rfl
  unfold registeredDelegationSigningKey
  split
  · rfl
  · rename_i herror
    rw [key.checked] at herror
    cases herror

/-- **What a row is read as**: its own columns, with the public key in normal form. -/
theorem readRow_eq_ok {row : SigningKeyRow} {key : RegisteredDelegationSigningKey} :
    readRow hash row = .ok key ↔ ∃ publicKey,
      delegationPublicKey row.identity.keyId row.identity.publicKey.publicKeyPem =
        .ok publicKey ∧
        hash publicKey.publicKeyPem = row.publicFingerprintSha256 ∧
        key.toSigningKeyColumns =
          { row.toSigningKeyColumns with
              identity := { row.identity with publicKey := publicKey } } := by
  simp only [readRow, bind_ok, requireThat_eq_ok, decide_eq_true_eq, exists_const,
    registeredDelegationSigningKey_eq_ok]

/-- The public key of what is read is the one the row names. -/
theorem readRow_keyId {row : SigningKeyRow} {key : RegisteredDelegationSigningKey}
    (h : readRow hash row = .ok key) :
    key.identity.publicKey.keyId = row.identity.keyId := by
  obtain ⟨publicKey, hpublicKey, -, hcolumns⟩ := readRow_eq_ok.mp h
  rw [hcolumns]
  exact delegationPublicKey_keyId hpublicKey

/-- Two rows of one identity are read as one identity. -/
theorem readRow_identity {row row' : SigningKeyRow}
    {key key' : RegisteredDelegationSigningKey} (hsame : row'.identity = row.identity)
    (h : readRow hash row = .ok key) (h' : readRow hash row' = .ok key') :
    key'.identity = key.identity := by
  obtain ⟨publicKey, hpublicKey, -, hcolumns⟩ := readRow_eq_ok.mp h
  obtain ⟨publicKey', hpublicKey', -, hcolumns'⟩ := readRow_eq_ok.mp h'
  rw [hsame, hpublicKey] at hpublicKey'
  cases hpublicKey'
  rw [hcolumns, hcolumns', hsame]

theorem get_eq_ok_iff {key : RegisteredDelegationSigningKey} :
    keys.get hash scope keyId = .ok key ↔
      ∃ row, select keys scope keyId = some row ∧ readRow hash row = .ok key := by
  simp only [SigningKeyTable.get, bind_ok, found_eq_ok, getOrNone]
  cases hrow : select keys scope keyId with
  | none => simp
  | some row => simp [Library.Outcome.map_eq_ok]

theorem get_keyId {key : RegisteredDelegationSigningKey}
    (h : keys.get hash scope keyId = .ok key) :
    key.identity.publicKey.keyId = keyId := by
  obtain ⟨row, hrow, hread⟩ := get_eq_ok_iff.mp h
  rw [readRow_keyId hread]
  exact (isKey_of_select hrow).2

/-- A key that only verifies needs no evidence: a demoted key can be read. -/
theorem readRow_demoted {row : SigningKeyRow} {key : RegisteredDelegationSigningKey}
    (h : readRow hash row = .ok key) :
    ∃ key', readRow hash { row with status := .verifyOnly } = .ok key' := by
  obtain ⟨publicKey, hpublicKey, hfingerprint, hcolumns⟩ := readRow_eq_ok.mp h
  have hchecked := key.checked
  rw [hcolumns] at hchecked
  refine ⟨⟨{ row.toSigningKeyColumns with
      identity := { row.identity with publicKey := publicKey }, status :=
        .verifyOnly }, ?_⟩,
    readRow_eq_ok.mpr ⟨publicKey, hpublicKey, hfingerprint, rfl⟩⟩
  simp only [checkColumns, bind_ok, requireThat_eq_ok, Bool.or_eq_true,
    decide_eq_true_eq] at hchecked ⊢
  obtain ⟨_, h₁, _, h₂, _, h₃, _, h₄, _, h₅, _, h₆, _, h₇, _, h₈, -⟩ := hchecked
  exact ⟨_, h₁, _, h₂, _, h₃, _, h₄, _, h₅, _, h₆, _, h₇, _, h₈, (),
    .inl (by decide), (), .inl (by decide), .inl (by decide)⟩

/-! ## Listing the keys of a scope -/

/-- A row the verification set of a scope is read from. -/
def isLive (scope : DelegationKeyScope) (row : SigningKeyRow) : Bool :=
  row.identity.scope = scope && (row.status = .active || row.status = .verifyOnly)

def liveRows (keys : SigningKeyTable) (scope : DelegationKeyScope) : SigningKeyTable :=
  sortedBy (fun row => [row.identity.keyId]) (keys.filter (isLive scope))

theorem listForVerification_eq_ok {listed : List RegisteredDelegationSigningKey} :
    listForVerification hash keys scope = .ok listed ↔
      List.Forall₂ (fun row key => readRow hash row = .ok key)
        (liveRows keys scope) listed := by
  rw [← mapM_eq_ok]
  rfl

theorem mem_liveRows {row : SigningKeyRow} :
    row ∈ liveRows keys scope ↔ row ∈ keys ∧ isLive scope row = true := by
  rw [liveRows, mem_sortedBy, List.mem_filter]

/-- The live rows of a table rewritten row by row, no row renamed, ended or revived. -/
theorem liveRows_map {rewrite : SigningKeyRow → SigningKeyRow}
    (hidentity : ∀ row, (rewrite row).identity = row.identity)
    (hlive : ∀ row, isLive scope (rewrite row) = isLive scope row) :
    liveRows (keys.map rewrite) scope = (liveRows keys scope).map rewrite := by
  have hfilter : (isLive scope ∘ rewrite) = isLive scope := funext hlive
  rw [liveRows, liveRows, List.filter_map, hfilter]
  refine (List.map_insertionSort _ _ rewrite _ fun a _ b _ => ?_).symm
  simp only [hidentity]

theorem isLive_activatedRow (scope : DelegationKeyScope)
    (keyId activatedBy activatedAt : String) (row : SigningKeyRow) :
    isLive scope (activatedRow scope keyId activatedBy activatedAt row) =
      isLive scope row := by
  rcases activatedRow_cases scope keyId activatedBy activatedAt row with
    ⟨-, -, hstatus, heq⟩ | ⟨-, -, hstatus, heq⟩ | ⟨heq, -⟩
  · rw [heq]
    rcases hstatus with hstatus | hstatus <;> simp [isLive, hstatus]
  · rw [heq]
    simp [isLive, hstatus]
  · rw [heq]

/-! ## An activation switches the two keys -/

/-- **What a switch is**: the old key verifies only, the new one is active, neither
changes what it is, and the scope verifies with the same keys. -/
structure Switches (hash : String → String) (keys after : SigningKeyTable)
    (scope : DelegationKeyScope) (oldKeyId newKeyId : String) : Prop where
  old : ∀ key, keys.get hash scope oldKeyId = .ok key → ∃ key',
    after.get hash scope oldKeyId = .ok key' ∧ key'.identity = key.identity ∧
    key'.status = .verifyOnly
  new : ∀ key, keys.get hash scope newKeyId = .ok key → ∃ key',
    after.get hash scope newKeyId = .ok key' ∧ key'.identity = key.identity ∧
    key'.status = .active
  verification : ∀ listed, listForVerification hash keys scope = .ok listed → ∃ listed',
    listForVerification hash after scope = .ok listed' ∧
      listed'.map (·.identity) = listed.map (·.identity)

/-- An activation answers with its key as it is read afterwards. -/
theorem activate_reads {key : RegisteredDelegationSigningKey} {actor instant : String}
    (h : keys.activate hash scope keyId actor instant = .ok (key, after)) :
    after.get hash scope keyId = .ok key := by
  simp only [SigningKeyTable.activate, bind_ok, found_eq_ok] at h
  obtain ⟨-, -, _, hselected, candidate, rfl, h⟩ := h
  split at h
  · cases h
    simp only [SigningKeyTable.get, bind_ok, found_eq_ok]
    exact ⟨_, hselected, rfl⟩
  · simp only [bind_ok] at h
    obtain ⟨-, -, activated, hactivated, h⟩ := h
    cases h
    exact hactivated

theorem perform_activate {call : SigningKeyCall}
    {command : ActivateDelegationSigningKeyCommand}
    {key : RegisteredDelegationSigningKey} (hcommand : call.command = .activate command)
    (h : perform hash call keys = .ok (key, after)) :
    keys.activate hash command.scope command.keyId command.by' command.at' =
      .ok (key, after) := by
  simp only [perform, hcommand, activateKey, bind_ok] at h
  obtain ⟨-, -, -, -, candidate, -, -, -, h⟩ := h
  exact h

/-- Every live row of the scope is read after an activation as it was before, when no
other row is of the activated key. -/
theorem readRow_activatedRow {actor instant : String} {row activated : SigningKeyRow}
    {key activatedKey : RegisteredDelegationSigningKey}
    (hread : readRow hash row = .ok key) (hactivated : readRow hash
      (activatedRow scope keyId actor instant activated) = .ok activatedKey)
    (honly : row.identity.scope = scope → row.identity.keyId = keyId →
      row = activated) :
    ∃ key', readRow hash (activatedRow scope keyId actor instant row) = .ok key' ∧
      key'.identity = key.identity := by
  have hidentity := (persists_activatedRow scope keyId actor instant row).identity
  rcases activatedRow_cases scope keyId actor instant row with
    ⟨hscope, hkey, -, -⟩ | ⟨-, -, -, heq⟩ | ⟨heq, -⟩
  · cases honly hscope hkey
    exact ⟨activatedKey, hactivated, readRow_identity hidentity hread hactivated⟩
  · obtain ⟨key', hread'⟩ := readRow_demoted hread
    rw [← heq] at hread'
    exact ⟨key', hread', readRow_identity hidentity hread hread'⟩
  · exact ⟨key, by rw [heq, hread], rfl⟩

/-- The scope verifies with the same keys after an activation. -/
theorem listForVerification_activated {actor instant : String}
    {activated : SigningKeyRow} {activatedKey : RegisteredDelegationSigningKey}
    (hactivated : readRow hash (activatedRow scope keyId actor instant activated) =
      .ok activatedKey)
    (honly : ∀ row ∈ liveRows keys scope, row.identity.keyId = keyId → row = activated)
    {listed : List RegisteredDelegationSigningKey}
    (hlisted : listForVerification hash keys scope = .ok listed) :
    ∃ listed',
      listForVerification hash (activatedTable keys scope keyId actor instant) scope =
        .ok listed' ∧ listed'.map (·.identity) = listed.map (·.identity) := by
  rw [listForVerification_eq_ok] at hlisted
  have hrows : liveRows (activatedTable keys scope keyId actor instant) scope =
      (liveRows keys scope).map (activatedRow scope keyId actor instant) := by
    rw [activatedTable_eq]
    exact liveRows_map (fun row => (persists_activatedRow _ _ _ _ row).identity)
      fun row => isLive_activatedRow _ _ _ _ row
  simp only [listForVerification_eq_ok, hrows]
  clear hrows
  generalize liveRows keys scope = rows at hlisted honly
  induction hlisted with
  | nil => exact ⟨[], .nil, rfl⟩
  | @cons row key rows listed hrow _ ih =>
      obtain ⟨key', hread, hidentity⟩ := readRow_activatedRow hrow hactivated
        fun _ hkey => honly row List.mem_cons_self hkey
      obtain ⟨listed', hlisted', hidentities⟩ := ih fun row' hmem =>
        honly row' (List.mem_cons_of_mem _ hmem)
      exact ⟨key' :: listed', .cons hread hlisted', by
        rw [List.map_cons, List.map_cons, hidentity, hidentities]⟩

/-- **An activation switches the keys**: an active old key and a verify-only new one, no
two live keys of the scope being one. -/
theorem switches_of_activate {call : SigningKeyCall}
    {command : ActivateDelegationSigningKeyCommand}
    {key oldKey newKey : RegisteredDelegationSigningKey}
    (hcommand : call.command = .activate command) (hscope : command.scope = scope)
    (hkeyId : command.keyId = newKeyId) (hne : oldKeyId ≠ newKeyId)
    (hold : keys.get hash scope oldKeyId = .ok oldKey)
    (hactive : oldKey.status = .active) (hnew : keys.get hash scope newKeyId =
      .ok newKey) (hverify : newKey.status = .verifyOnly)
    (hdistinct : ((liveRows keys scope).map (·.identity.keyId)).Nodup)
    (h : perform hash call keys = .ok (key, after)) :
    Switches hash keys after scope oldKeyId newKeyId := by
  subst hscope
  subst hkeyId
  have hactivate := perform_activate hcommand h
  obtain ⟨oldRow, holdRow, holdRead⟩ := get_eq_ok_iff.mp hold
  obtain ⟨newRow, hnewRow, hnewRead⟩ := get_eq_ok_iff.mp hnew
  obtain ⟨holdScope, holdKey⟩ := isKey_of_select holdRow
  obtain ⟨hnewScope, hnewKey⟩ := isKey_of_select hnewRow
  have holdStatus := (readRow_status holdRead).symm.trans hactive
  have hnewStatus := (readRow_status hnewRead).symm.trans hverify
  obtain ⟨activatedRow', hactivatedRow, hread⟩ :=
    get_eq_ok_iff.mp (activate_reads hactivate)
  obtain rfl : after =
      activatedTable keys command.scope command.keyId command.by' command.at' := by
    obtain ⟨row, hrow, ⟨hstatus, -⟩ | ⟨-, heq⟩⟩ := activate_effect hactivate
    · cases hrow.symm.trans hnewRow
      rw [hnewStatus] at hstatus
      cases hstatus
    · exact heq
  rw [select_activatedTable, hnewRow, Option.map_some] at hactivatedRow
  cases hactivatedRow
  have holdAfter :
      activatedRow command.scope command.keyId command.by' command.at' oldRow =
      { oldRow with status := .verifyOnly } := by
    rcases activatedRow_cases command.scope command.keyId command.by'
        command.at' oldRow with
      ⟨-, hsame, -, -⟩ | ⟨-, -, -, heq⟩ | ⟨-, hquiet⟩
    · exact absurd (holdKey.symm.trans hsame) hne
    · exact heq
    · exact absurd holdStatus (hquiet holdScope).1
  have hnewAfter :
      (activatedRow command.scope command.keyId command.by' command.at' newRow).status =
      .active := by
    rcases activatedRow_cases command.scope command.keyId command.by'
        command.at' newRow with
      ⟨-, -, -, heq⟩ | ⟨-, hother, -, -⟩ | ⟨-, hquiet⟩
    · rw [heq]
    · exact absurd hnewKey hother
    · exact absurd hnewStatus ((hquiet hnewScope).2 hnewKey)
  refine ⟨fun key' hkey' => ?_, fun key' hkey' => ?_, fun listed hlisted => ?_⟩
  · cases hold.symm.trans hkey'
    obtain ⟨demoted, hdemoted⟩ := readRow_demoted holdRead
    refine ⟨demoted, get_eq_ok_iff.mpr ⟨_, ?_, hdemoted⟩,
      readRow_identity (by rfl) holdRead hdemoted, readRow_status hdemoted⟩
    rw [select_activatedTable, holdRow, Option.map_some, holdAfter]
  · cases hnew.symm.trans hkey'
    refine ⟨_, activate_reads hactivate, readRow_identity ?_ hnewRead hread, ?_⟩
    · exact (persists_activatedRow _ _ _ _ newRow).identity
    · exact (readRow_status hread).trans hnewAfter
  · have hnewLive : newRow ∈ liveRows keys command.scope :=
      mem_liveRows.mpr ⟨List.mem_of_find?_eq_some hnewRow,
        by simp [isLive, hnewScope, hnewStatus]⟩
    exact listForVerification_activated hread (fun row hrow hkey =>
      List.inj_on_of_nodup_map hdistinct hrow hnewLive
        (hkey.trans hnewKey.symm)) hlisted

end ControlPlaneKit.Rotation
