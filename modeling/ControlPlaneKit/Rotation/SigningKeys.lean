import ControlPlaneKit.Library.Transactions
import ControlPlaneKit.Operations.Lifecycle
import ControlPlaneKit.Operations.Temporal
import ControlPlaneKit.Topology.Material
import Mathlib.Data.List.Infix

/-!
# SigningKeys — registration and lifecycle of delegation signing keys

A key is registered once under its workspace, purpose and issuer; it is born
verify-only, may be activated, and ends retired or revoked.  The service reads
which private references are admitted, the store does the rest in one
transaction.  `digest` stands for the hexadecimal SHA-256 of a text.
-/

namespace ControlPlaneKit.Rotation

open ControlPlaneKit.Library.Text (isReference isSpace)
open ControlPlaneKit.Library.Transactions (run)
open ControlPlaneKit.Operations
open ControlPlaneKit.Topology

/-! ## Public keys -/

def publicKeyBegin : String := "-----BEGIN PUBLIC KEY-----"

def publicKeyEnd : String := "-----END PUBLIC KEY-----"

/-- `value.replace("\r\n", "\n")`. -/
def unixLines : List Char → List Char
  | '\r' :: '\n' :: rest => '\n' :: unixLines rest
  | character :: rest => character :: unixLines rest
  | [] => []

/-- `value.strip()`. -/
def strip (text : List Char) : List Char :=
  ((text.dropWhile isSpace).reverse.dropWhile isSpace).reverse

/-- The ASCII characters `str.splitlines` breaks at. -/
def isLineBreak (character : Char) : Bool :=
  let n := character.toNat
  (10 ≤ n && n ≤ 13) || (28 ≤ n && n ≤ 30)

/-- `value.splitlines()`, the current line given in reverse. -/
def splitLines (line : List Char) : List Char → List (List Char)
  | [] => if line = [] then [] else [line.reverse]
  | '\r' :: '\n' :: rest => line.reverse :: splitLines [] rest
  | character :: rest =>
      if isLineBreak character then line.reverse :: splitLines [] rest
      else splitLines (character :: line) rest

/-- `character.upper()`, for ASCII. -/
def asciiUpper (character : Char) : Char :=
  if 97 ≤ character.toNat && character.toNat ≤ 122 then
    Char.ofNat (character.toNat - 32)
  else character

/-- `_normalize_public_key`. -/
def normalizePublicKey (value : String) : Except ServiceError String := do
  requireThat (value.length ≤ 8192) (.base "delegation public key is too large")
  requireThat (value.toList.all fun character => character.toNat < 128)
    (.base "delegation public key must be ASCII")
  let normalized := strip (unixLines value.toList) ++ ['\n']
  let lines := splitLines [] normalized
  requireThat (3 ≤ lines.length && lines.head? = some publicKeyBegin.toList &&
      lines.getLast? = some publicKeyEnd.toList &&
      !decide ("PRIVATE".toList <:+: normalized.map asciiUpper))
    (.base "delegation public key must be public PEM material")
  requireThat ((lines.drop 1).dropLast.all fun line => line ≠ [])
    (.base "delegation public key PEM body is malformed")
  return String.ofList normalized

/-- The constructor of `DelegationPublicKey`. -/
def delegationPublicKey (keyId publicKeyPem : String) :
    Except ServiceError DelegationPublicKey := do
  requireThat (isReference keyId) (.base "delegation key_id is malformed")
  let normalized ← normalizePublicKey publicKeyPem
  return { keyId, publicKeyPem := normalized }

/-! ## Registered keys -/

/-- Durable signing and verification lifecycle. -/
inductive RegisteredDelegationSigningKeyStatus where
  | verifyOnly
  | active
  | retired
  | revoked
  deriving DecidableEq, Repr

/-- The workspace, purpose and issuer keys compete in. -/
structure DelegationKeyScope where
  workspaceId : String
  purpose : DelegationKeyPurpose
  issuer : String
  deriving DecidableEq

/-- What a key is: none of it is written after the registration. -/
structure SigningKeyIdentity where
  registrationId : String
  scope : DelegationKeyScope
  publicKey : DelegationPublicKey
  privateKeyReference : SecretReference
  admittedBy : String
  admittedAt : String
  deriving DecidableEq

def SigningKeyIdentity.keyId (identity : SigningKeyIdentity) : String :=
  identity.publicKey.keyId

/-- The columns of a key: its identity and its lifecycle evidence. -/
structure SigningKeyColumns where
  identity : SigningKeyIdentity
  status : RegisteredDelegationSigningKeyStatus := .verifyOnly
  activatedBy : Option String := none
  activatedAt : Option String := none
  retiredBy : Option String := none
  retiredAt : Option String := none
  revokedBy : Option String := none
  revokedAt : Option String := none
  deriving DecidableEq

/-- `_identifier(value, field_name)`. -/
def identifier (value field : String) : Except ServiceError Unit :=
  requireThat (isReference value) (.base (field ++ " is malformed"))

/-- `_text(value, field_name)`. -/
def boundedText (value field : String) : Except ServiceError Unit :=
  requireThat (value ≠ "" && value.length ≤ 128) (.base (field ++ " is malformed"))

/-- `_paired(actor, at, label)`. -/
def paired (label : String) : Option String → Option String → Except ServiceError Unit
  | none, none => return ()
  | some actor, some instant => do
      identifier actor (label ++ "_by")
      boundedText instant (label ++ "_at")
  | _, _ => .error (.base (label ++ " evidence must be complete"))

/-- `RegisteredDelegationSigningKey.__post_init__`. -/
def checkColumns (columns : SigningKeyColumns) : Except ServiceError Unit := do
  identifier columns.identity.registrationId "registration_id"
  identifier columns.identity.scope.workspaceId "workspace_id"
  identifier columns.identity.scope.issuer "issuer"
  identifier columns.identity.admittedBy "admitted_by"
  boundedText columns.identity.admittedAt "admitted_at"
  paired "activation" columns.activatedBy columns.activatedAt
  paired "retirement" columns.retiredBy columns.retiredAt
  paired "revocation" columns.revokedBy columns.revokedAt
  requireThat (columns.status ≠ .active || columns.activatedBy.isSome)
    (.base "active key requires activation evidence")
  requireThat (columns.status ≠ .retired || columns.retiredBy.isSome)
    (.base "retired key requires retirement evidence")
  requireThat (columns.status ≠ .revoked || columns.revokedBy.isSome)
    (.base "revoked key requires revocation evidence")

/-- One immutable key identity plus mutable lifecycle evidence. -/
structure RegisteredDelegationSigningKey extends SigningKeyColumns where
  checked : checkColumns toSigningKeyColumns = .ok ()

/-- The constructor of `RegisteredDelegationSigningKey`. -/
def registeredDelegationSigningKey (columns : SigningKeyColumns) :
    Except ServiceError RegisteredDelegationSigningKey :=
  match checked : checkColumns columns with
  | .ok () => .ok ⟨columns, checked⟩
  | .error error => .error error

/-- `same_identity_as`. -/
def RegisteredDelegationSigningKey.sameIdentityAs
    (key other : RegisteredDelegationSigningKey) : Bool :=
  key.identity.scope = other.identity.scope &&
    key.identity.publicKey = other.identity.publicKey &&
    key.identity.privateKeyReference = other.identity.privateKeyReference

/-! ## The store -/

/-- One row of `cpk_delegation_signing_keys`. -/
structure SigningKeyRow extends SigningKeyColumns where
  publicFingerprintSha256 : String
  deriving DecidableEq

abbrev SigningKeyTable := List SigningKeyRow

namespace SigningKeyTable

variable (digest : String → String) (keys : SigningKeyTable)

/-- `_row(row)`: a stored key is built again, and its fingerprint compared. -/
def readRow (row : SigningKeyRow) :
    Except ServiceError RegisteredDelegationSigningKey := do
  let publicKey ← delegationPublicKey row.identity.keyId
    row.identity.publicKey.publicKeyPem
  requireThat (digest publicKey.publicKeyPem = row.publicFingerprintSha256)
    (.conflict "stored delegation public key fingerprint is inconsistent")
  registeredDelegationSigningKey
    { row.toSigningKeyColumns with
        identity := { row.identity with publicKey := publicKey } }

/-- The row `_SELECT` finds for a key. -/
def select (scope : DelegationKeyScope) (keyId : String) : Option SigningKeyRow :=
  keys.find? fun row => row.identity.scope = scope && row.identity.keyId = keyId

def getOrNone (scope : DelegationKeyScope) (keyId : String) :
    Except ServiceError (Option RegisteredDelegationSigningKey) :=
  match select keys scope keyId with
  | none => .ok none
  | some row => (readRow digest row).map some

def get (scope : DelegationKeyScope) (keyId : String) :
    Except ServiceError RegisteredDelegationSigningKey := do
  let value ← getOrNone digest keys scope keyId
  found value (.notFound "delegation signing key was not found")

/-- `require_unambiguous_active(workspace_id, purpose)`: the one active key of the
purpose, of whatever issuer. -/
def requireUnambiguousActive (workspaceId : String) (purpose : DelegationKeyPurpose) :
    Except ServiceError RegisteredDelegationSigningKey :=
  match keys.filter fun row => row.identity.scope.workspaceId = workspaceId &&
      row.identity.scope.purpose = purpose && row.status = .active with
  | [row] => readRow digest row
  | _ => .error (.notFound "exactly one active delegation signing key is required")

/-- `INSERT INTO cpk_delegation_signing_keys`, under the two unique keys of the
table. -/
def insertRow (row : SigningKeyRow) : Except ServiceError SigningKeyTable := do
  requireThat (keys.all fun other =>
      other.identity.registrationId ≠ row.identity.registrationId &&
      !(other.identity.scope = row.identity.scope &&
        other.identity.keyId = row.identity.keyId))
    (.integrity "cpk_delegation_signing_keys")
  return keys ++ [row]

/-- `register(candidate)`. -/
def register (candidate : RegisteredDelegationSigningKey) :
    Except ServiceError (RegisteredDelegationSigningKey × SigningKeyTable) := do
  encodePostgresTimestamp candidate.identity.admittedAt
  let existing ← getOrNone digest keys candidate.identity.scope candidate.identity.keyId
  match existing with
  | some existing =>
      if existing.sameIdentityAs candidate then return (existing, keys)
      else .error (.conflict
        "delegation key_id cannot be reused with changed key identity")
  | none =>
      let written ← insertRow keys
        { identity := candidate.identity
          status := candidate.status
          publicFingerprintSha256 := digest candidate.identity.publicKey.publicKeyPem }
      let registered ← get digest written candidate.identity.scope
        candidate.identity.keyId
      return (registered, written)

/-- The `UPDATE` of the rows a predicate selects. -/
def updateWhere (selected : SigningKeyRow → Bool)
    (update : SigningKeyRow → SigningKeyRow) : SigningKeyTable :=
  keys.map fun row => if selected row then update row else row

/-- `SET status = 'verify-only' WHERE … AND status = 'active'`. -/
def demote (scope : DelegationKeyScope) : SigningKeyTable :=
  updateWhere keys (fun row => row.identity.scope = scope && row.status = .active)
    fun row => { row with status := .verifyOnly }

/-- `SET status = 'active', … WHERE … AND status = 'verify-only'`. -/
def promote (scope : DelegationKeyScope) (keyId activatedBy activatedAt : String) :
    SigningKeyTable :=
  updateWhere keys
    (fun row => row.identity.scope = scope && row.identity.keyId = keyId &&
      row.status = .verifyOnly)
    fun row =>
      { row with
          status := .active, activatedBy := some activatedBy,
          activatedAt := some activatedAt }

/-- `activate(...)`. -/
def activate (scope : DelegationKeyScope) (keyId activatedBy activatedAt : String) :
    Except ServiceError (RegisteredDelegationSigningKey × SigningKeyTable) := do
  encodePostgresTimestamp activatedAt
  let selected ← getOrNone digest keys scope keyId
  let candidate ← found selected (.notFound "delegation signing key was not found")
  if candidate.status = .active then return (candidate, keys)
  requireThat (candidate.status = .verifyOnly)
    (.conflict "only a verify-only delegation key may become active")
  let written := promote (demote keys scope) scope keyId activatedBy activatedAt
  let activated ← get digest written scope keyId
  return (activated, written)

def isKey (scope : DelegationKeyScope) (keyId : String) (row : SigningKeyRow) : Bool :=
  row.identity.scope = scope && row.identity.keyId = keyId

/-- `retire(...)`. -/
def retire (scope : DelegationKeyScope) (keyId retiredBy retiredAt : String) :
    Except ServiceError (RegisteredDelegationSigningKey × SigningKeyTable) := do
  encodePostgresTimestamp retiredAt
  let selected ← getOrNone digest keys scope keyId
  let current ← found selected (.notFound "delegation signing key was not found")
  if current.status = .retired then return (current, keys)
  requireThat (current.status = .verifyOnly)
    (.conflict "only a verify-only delegation key may be retired")
  let written := updateWhere keys (isKey scope keyId) fun row =>
    { row with
        status := .retired, retiredBy := some retiredBy, retiredAt := some retiredAt }
  let retired ← get digest written scope keyId
  return (retired, written)

/-- `revoke(...)`. -/
def revoke (scope : DelegationKeyScope) (keyId revokedBy revokedAt : String) :
    Except ServiceError (RegisteredDelegationSigningKey × SigningKeyTable) := do
  encodePostgresTimestamp revokedAt
  let selected ← getOrNone digest keys scope keyId
  let current ← found selected (.notFound "delegation signing key was not found")
  if current.status = .revoked then return (current, keys)
  let written := updateWhere keys (isKey scope keyId) fun row =>
    { row with
        status := .revoked, revokedBy := some revokedBy, revokedAt := some revokedAt }
  let revoked ← get digest written scope keyId
  return (revoked, written)

end SigningKeyTable

/-! ## The service -/

structure RegisterDelegationSigningKeyCommand where
  scope : DelegationKeyScope
  publicKey : DelegationPublicKey
  privateKeyReference : SecretReference
  admittedBy : String
  admittedAt : String
  actorScopes : List PolicyScope

/-- What `Activate…`, `Retire…` and `RevokeDelegationSigningKeyCommand` carry; the
actor and the instant are theirs under `activated_by`, `retired_by`, and so on. -/
structure SigningKeyLifecycleCommand where
  scope : DelegationKeyScope
  keyId : String
  by' : String
  at' : String
  actorScopes : List PolicyScope

abbrev ActivateDelegationSigningKeyCommand := SigningKeyLifecycleCommand

abbrev RetireDelegationSigningKeyCommand := SigningKeyLifecycleCommand

abbrev RevokeDelegationSigningKeyCommand := SigningKeyLifecycleCommand

/-- A JSON object of texts, its keys already in order. -/
def textDocument (entries : List (String × String)) : String :=
  "\x7b" ++ ",".intercalate (entries.map fun entry => jsonText entry.1 ++ ":" ++
    jsonText entry.2) ++
    "\x7d"

/-- What the service reads of the admitted secret references of a workspace: the
intents an active one is allowed. -/
abbrev SecretReferences := String → SecretReference → Option (List SecretUseIntent)

section Service

variable (digest : String → String)

/-- `delegation_signing_key_registration_id_for`. -/
def delegationSigningKeyRegistrationIdFor (scope : DelegationKeyScope)
    (publicKey : DelegationPublicKey)
    (privateKeyReference : SecretReference) : String :=
  "dkey_" ++ digest (textDocument
    [ ("algorithm", "ed25519"), ("fingerprint_sha256", digest publicKey.publicKeyPem)
    , ("issuer", scope.issuer), ("key_id", publicKey.keyId)
    , ("private_key_reference", privateKeyReference.referenceId)
    , ("purpose", scope.purpose.value), ("workspace_id", scope.workspaceId) ])

def RegisterDelegationSigningKeyCommand.candidate
    (command : RegisterDelegationSigningKeyCommand) :
    Except ServiceError RegisteredDelegationSigningKey :=
  registeredDelegationSigningKey
    { identity :=
        { registrationId := delegationSigningKeyRegistrationIdFor digest command.scope
            command.publicKey command.privateKeyReference
          scope := command.scope
          publicKey := command.publicKey
          privateKeyReference := command.privateKeyReference
          admittedBy := command.admittedBy
          admittedAt := command.admittedAt } }

/-- `_scope(scopes, required)`. -/
def requireScope (scopes : List PolicyScope) (required : PolicyScope) :
    Except ServiceError Unit :=
  requireThat (scopes.contains required)
    (.denied ("delegation signing key command requires " ++ required.value))

/-- `_lifecycle_command(value, expected)`. -/
def lifecycleCommand (command : SigningKeyLifecycleCommand) :
    Except ServiceError Unit := do
  identifier command.scope.workspaceId "workspace_id"
  identifier command.scope.issuer "issuer"
  identifier command.keyId "key_id"

/-- The reference of a key is admitted, and for signing. -/
def requireSigningReference (references : SecretReferences) (workspaceId : String)
    (reference : SecretReference) : Except ServiceError Unit := do
  let allowedIntents ← found (references workspaceId reference)
    (.conflict "private key reference is not actively admitted")
  requireThat (allowedIntents.contains .gatewayProbeSigningKey)
    (.conflict "private key reference is not admitted for delegation signing")

/-- The commands of `DelegationSigningKeyRegistrationService`. -/
inductive SigningKeyCommand where
  | register (command : RegisterDelegationSigningKeyCommand)
  | activate (command : ActivateDelegationSigningKeyCommand)
  | retire (command : RetireDelegationSigningKeyCommand)
  | revoke (command : RevokeDelegationSigningKeyCommand)

/-- The key a command names. -/
def SigningKeyCommand.scope : SigningKeyCommand → DelegationKeyScope
  | .register command => command.scope
  | .activate command | .retire command | .revoke command => command.scope

def SigningKeyCommand.keyId : SigningKeyCommand → String
  | .register command => command.publicKey.keyId
  | .activate command | .retire command | .revoke command => command.keyId

def registerKey (references : SecretReferences)
    (command : RegisterDelegationSigningKeyCommand) (keys : SigningKeyTable) :
    Except ServiceError (RegisteredDelegationSigningKey × SigningKeyTable) := do
  requireScope command.actorScopes .delegationKeyRegister
  let candidate ← command.candidate digest
  requireSigningReference references candidate.identity.scope.workspaceId
    candidate.identity.privateKeyReference
  keys.register digest candidate

def activateKey (references : SecretReferences)
    (command : ActivateDelegationSigningKeyCommand) (keys : SigningKeyTable) :
    Except ServiceError (RegisteredDelegationSigningKey × SigningKeyTable) := do
  lifecycleCommand command
  requireScope command.actorScopes .delegationKeyActivate
  let candidate ← keys.get digest command.scope command.keyId
  requireSigningReference references command.scope.workspaceId
    candidate.identity.privateKeyReference
  keys.activate digest command.scope command.keyId command.by' command.at'

def retireKey (command : RetireDelegationSigningKeyCommand) (keys : SigningKeyTable) :
    Except ServiceError (RegisteredDelegationSigningKey × SigningKeyTable) := do
  lifecycleCommand command
  requireScope command.actorScopes .delegationKeyRetire
  keys.retire digest command.scope command.keyId command.by' command.at'

def revokeKey (command : RevokeDelegationSigningKeyCommand) (keys : SigningKeyTable) :
    Except ServiceError (RegisteredDelegationSigningKey × SigningKeyTable) := do
  lifecycleCommand command
  requireScope command.actorScopes .delegationKeyRevoke
  keys.revoke digest command.scope command.keyId command.by' command.at'

/-- A command, with the references admitted when it runs. -/
structure SigningKeyCall where
  references : SecretReferences
  command : SigningKeyCommand

/-- One command in its transaction. -/
def perform (call : SigningKeyCall) (keys : SigningKeyTable) :
    Except ServiceError (RegisteredDelegationSigningKey × SigningKeyTable) :=
  match call.command with
  | .register command => registerKey digest call.references command keys
  | .activate command => activateKey digest call.references command keys
  | .retire command => retireKey digest command keys
  | .revoke command => revokeKey digest command keys

/-- The table after any commands. -/
def keysAfter (start : SigningKeyTable) (calls : List SigningKeyCall) :
    SigningKeyTable :=
  run (perform digest) start calls

end Service

end ControlPlaneKit.Rotation
