import ControlPlaneKit.Library.Registry
import ControlPlaneKit.Library.Transactions
import ControlPlaneKit.Operations.Temporal
import ControlPlaneKit.Topology.Material
import ControlPlaneKit.Topology.Types

/-!
# Registries — authorities and products admitted into a workspace

Four tables hold what a workspace was given: runtime authorities, ingress
authorities, products and image pull authorities.  Each row is named by a digest
of its material.  The first two registers replay by the active row of a
reference, the other two by the digest, and a revocation only changes the status.
The row of the workspace, which the four tables refer to by a foreign key, is taken
to exist.
-/

namespace ControlPlaneKit.Operations

open ControlPlaneKit.Library.Registry
open ControlPlaneKit.Topology

/-! ## What a registry raises -/

/-- The registry's own classes, a plain `ValueError`, and a constraint of the
table. -/
inductive RegistryError where
  | registration (message : String)
  | conflict (message : String)
  | notFound (message : String)
  | value (message : String)
  | integrity (table : String)
  deriving DecidableEq, Repr

/-- The base class of the registry's errors, or one below it. -/
def RegistryError.isOwn : RegistryError → Bool
  | .registration _ | .conflict _ | .notFound _ => true
  | .value _ | .integrity _ => false

/-- `_validate_identifier(value, field)`, alike in the three modules. -/
def validateIdentifier (value field : String) : Except RegistryError Unit :=
  if value = "" ∨ 512 < value.length then
    .error (.registration (field ++ " must be nonempty and bounded"))
  else if value.toList.any fun character => character.toNat < 32 then
    .error (.registration (field ++ " must not contain control characters"))
  else .ok ()

/-- The checks of the texts every record shares. -/
def validateAdmission (registrationId workspaceId actor instant : String)
    (identityField actorField instantField : String) : Except RegistryError Unit := do
  validateIdentifier registrationId identityField
  validateIdentifier workspaceId "workspace_id"
  validateIdentifier actor actorField
  validateIdentifier instant instantField

/-- `encode_postgres_timestamp(value)`. -/
def encodeAdmittedAt (value : String) : Except RegistryError Unit :=
  if (canonicalInstant value).isSome then .ok ()
  else .error (.value "postgres timestamp must be canonical UTC text")

/-! ## Admissions -/

/-- Who admitted a registration, when. -/
structure Admission where
  admittedBy : String
  admittedAt : String
  deriving DecidableEq

/-- The instant a row is ordered by. -/
def Admission.instant (admission : Admission) : Timestamp :=
  (canonicalInstant admission.admittedAt).getD 0

/-- `ORDER BY CASE status WHEN 'active' THEN 0 ELSE 1 END, admitted_at DESC,
registration_id DESC LIMIT 1`. -/
def preferredRow {μ : Type} (rows : List (Registration μ Admission)) :
    Option (Registration μ Admission) :=
  (rows.mergeSort fun a b =>
    if a.status ≠ b.status then a.status = .active
    else if a.admission.instant ≠ b.admission.instant then
      b.admission.instant < a.admission.instant
    else b.registrationId ≤ a.registrationId).head?

/-- A row a lookup requires. -/
def requireRow {ρ : Type} (row : Option ρ) (message : String) :
    Except RegistryError ρ :=
  match row with
  | some row => .ok row
  | none => .error (.notFound message)

/-! ## `repr` of the material -/

/-- `repr` of a tuple of rendered values. -/
def reprTuple : List String → String
  | [value] => "(" ++ value ++ ",)"
  | values => "(" ++ ", ".intercalate values ++ ")"

/-- `repr` of a mapping with text values. -/
def reprDict (reprText : String → String) (entries : List (String × String)) : String :=
  "\x7b" ++ ", ".intercalate (entries.map fun entry =>
    reprText entry.1 ++ ": " ++ reprText entry.2) ++ "\x7d"

/-! ## Runtime authorities -/

inductive DockerRuntimeAuthority where
  | localDockerSocket
  | remoteDockerTls (endpoint : String)
      (caCertificate clientCertificate clientKey : SecretReference)
  deriving DecidableEq

/-- `storage_descriptor()`. -/
def DockerRuntimeAuthority.storageDescriptor :
    DockerRuntimeAuthority → List (String × String)
  | .localDockerSocket => [("kind", "local-docker-socket")]
  | .remoteDockerTls endpoint caCertificate clientCertificate clientKey =>
      [("kind", "remote-docker-tls"), ("endpoint", endpoint),
        ("ca_certificate", caCertificate.referenceId),
        ("client_certificate", clientCertificate.referenceId),
        ("client_key", clientKey.referenceId)]

/-- What a runtime authority registration holds. -/
structure RuntimeAuthorityMaterial where
  workspaceId : String
  authorityRef : RuntimeAuthorityReference
  runtimeKind : RuntimeKind
  authority : DockerRuntimeAuthority
  deriving DecidableEq

abbrev RegisteredRuntimeAuthority := Registration RuntimeAuthorityMaterial Admission

/-- `runtime_authority_registration_id_for(...)`. -/
def runtimeAuthorityRegistrationIdFor (reprText : String → String)
    (material : RuntimeAuthorityMaterial) : String :=
  let items := material.authority.storageDescriptor.mergeSort fun a b => a.1 ≤ b.1
  "rauth_" ++ sha256Hexdigest (reprTuple
    [reprText material.workspaceId, reprText material.authorityRef.referenceId,
      reprText material.runtimeKind.value,
      reprTuple (items.map fun item => reprTuple [reprText item.1, reprText item.2])])

def runtimeAuthorityScheme (reprText : String → String) :
    Scheme RuntimeAuthorityMaterial (String × RuntimeAuthorityReference) where
  identity := runtimeAuthorityRegistrationIdFor reprText
  key material := (material.workspaceId, material.authorityRef)

/-- `RegisteredRuntimeAuthority.from_authority(...)`. -/
def registeredRuntimeAuthority (reprText : String → String)
    (material : RuntimeAuthorityMaterial) (admission : Admission) :
    Except RegistryError RegisteredRuntimeAuthority := do
  let candidate := (runtimeAuthorityScheme reprText).candidate material admission
  validateAdmission candidate.registrationId material.workspaceId admission.admittedBy
    admission.admittedAt "registration_id" "admitted_by" "admitted_at"
  if material.runtimeKind ≠ .docker then
    .error (.registration "runtime authority kind is unsupported for runtime")
  else .ok candidate

namespace RuntimeAuthorityStore

/-- `register(...)`. -/
def register (reprText : String → String) (rows : List RegisteredRuntimeAuthority)
    (material : RuntimeAuthorityMaterial) (admission : Admission) :
    Except RegistryError
      (RegisteredRuntimeAuthority × List RegisteredRuntimeAuthority) := do
  let candidate ← registeredRuntimeAuthority reprText material admission
  encodeAdmittedAt admission.admittedAt
  registerByKey (runtimeAuthorityScheme reprText)
    (fun existing candidate => existing.runtimeKind = candidate.runtimeKind &&
      existing.authority = candidate.authority)
    (.conflict
      "registered runtime authority replacement requires explicit replacement policy")
    (.integrity "cpk_runtime_authorities") rows candidate

/-- `get(workspace_id, authority_ref)`. -/
def get (workspaceId : String) (authorityRef : RuntimeAuthorityReference)
    (rows : List RegisteredRuntimeAuthority) :
    Except RegistryError RegisteredRuntimeAuthority :=
  requireRow (preferredRow (rows.filter fun row =>
      row.entry.workspaceId = workspaceId && row.entry.authorityRef = authorityRef))
    "registered runtime authority was not found"

/-- `revoke(workspace_id, authority_ref)`. -/
def revoke (workspaceId : String) (authorityRef : RuntimeAuthorityReference)
    (rows : List RegisteredRuntimeAuthority) :
    Except RegistryError
      (RegisteredRuntimeAuthority × List RegisteredRuntimeAuthority) :=
  revokeRead (get workspaceId authorityRef)
    (fun row =>
      row.entry.workspaceId = workspaceId && row.entry.authorityRef = authorityRef &&
      row.status = .active) rows

end RuntimeAuthorityStore

/-! ## Ingress authorities -/

/-- Secret-free name for an admitted public ingress authority. -/
structure IngressAuthorityReference where
  referenceId : String
  deriving DecidableEq

/-- Authority to allocate named public ingress inside one Cloudflare zone. -/
structure CloudflareZoneIngressAuthority where
  accountId : String
  zoneId : String
  zoneName : String
  apiTokenRef : SecretReference
  allowedHostnamePattern : String
  generatedSecretProviderRegistrationId : String
  generatedSecretReferencePrefix : SecretReference
  deriving DecidableEq

/-- `storage_descriptor()`. -/
def CloudflareZoneIngressAuthority.storageDescriptor
    (authority : CloudflareZoneIngressAuthority) : List (String × String) :=
  [("provider_kind", "cloudflare"), ("account_id", authority.accountId),
    ("zone_id", authority.zoneId), ("zone_name", authority.zoneName),
    ("api_token_ref", authority.apiTokenRef.referenceId),
    ("allowed_hostname_pattern", authority.allowedHostnamePattern),
    ("generated_secret_provider_registration_id",
      authority.generatedSecretProviderRegistrationId),
    ("generated_secret_reference_prefix",
      authority.generatedSecretReferencePrefix.referenceId)]

/-- What an ingress authority registration holds. -/
structure IngressAuthorityMaterial where
  workspaceId : String
  authorityRef : IngressAuthorityReference
  authority : CloudflareZoneIngressAuthority
  deriving DecidableEq

abbrev RegisteredIngressAuthority := Registration IngressAuthorityMaterial Admission

/-- `ingress_authority_registration_id_for(...)`. -/
def ingressAuthorityRegistrationIdFor (reprText : String → String)
    (material : IngressAuthorityMaterial) : String :=
  "iauth_" ++ sha256Hexdigest (reprTuple
    [reprText material.workspaceId, reprText material.authorityRef.referenceId,
      reprDict reprText material.authority.storageDescriptor])

def ingressAuthorityScheme (reprText : String → String) :
    Scheme IngressAuthorityMaterial (String × IngressAuthorityReference) where
  identity := ingressAuthorityRegistrationIdFor reprText
  key material := (material.workspaceId, material.authorityRef)

/-- `RegisteredIngressAuthority.from_authority(...)`. -/
def registeredIngressAuthority (reprText : String → String)
    (material : IngressAuthorityMaterial) (admission : Admission) :
    Except RegistryError RegisteredIngressAuthority := do
  let candidate := (ingressAuthorityScheme reprText).candidate material admission
  validateAdmission candidate.registrationId material.workspaceId admission.admittedBy
    admission.admittedAt "registration_id" "admitted_by" "admitted_at"
  .ok candidate

namespace IngressAuthorityStore

/-- `register(...)`. -/
def register (reprText : String → String) (rows : List RegisteredIngressAuthority)
    (material : IngressAuthorityMaterial) (admission : Admission) :
    Except RegistryError
      (RegisteredIngressAuthority × List RegisteredIngressAuthority) := do
  let candidate ← registeredIngressAuthority reprText material admission
  encodeAdmittedAt admission.admittedAt
  registerByKey (ingressAuthorityScheme reprText)
    (fun existing candidate => existing.authority = candidate.authority)
    (.conflict
      "registered ingress authority replacement requires explicit replacement policy")
    (.integrity "cpk_ingress_authorities") rows candidate

/-- `get(workspace_id, authority_ref)`. -/
def get (workspaceId : String) (authorityRef : IngressAuthorityReference)
    (rows : List RegisteredIngressAuthority) :
    Except RegistryError RegisteredIngressAuthority :=
  requireRow (preferredRow (rows.filter fun row =>
      row.entry.workspaceId = workspaceId && row.entry.authorityRef = authorityRef))
    "registered ingress authority was not found"

/-- `revoke(workspace_id, authority_ref)`. -/
def revoke (workspaceId : String) (authorityRef : IngressAuthorityReference)
    (rows : List RegisteredIngressAuthority) :
    Except RegistryError
      (RegisteredIngressAuthority × List RegisteredIngressAuthority) :=
  revokeRead (get workspaceId authorityRef)
    (fun row =>
      row.entry.workspaceId = workspaceId && row.entry.authorityRef = authorityRef &&
      row.status = .active) rows

end IngressAuthorityStore

/-! ## Products -/

/-- Language-neutral identity for an externally supplied product contract. -/
structure ProductIdentity where
  productNamespace : String
  name : String
  contractRevision : Nat
  deriving DecidableEq

/-- Canonical product bytes, and the identity of the product they encode. -/
structure ProductDescriptorDocument where
  identity : ProductIdentity
  content : String
  deriving DecidableEq

structure ProductReference where
  identity : ProductIdentity
  descriptorSha256 : String
  deriving DecidableEq

/-- `ProductReference.from_document(document)`. -/
def ProductDescriptorDocument.reference (document : ProductDescriptorDocument) :
    ProductReference where
  identity := document.identity
  descriptorSha256 := sha256Hexdigest document.content

inductive DescriptorSourceEvidence where
  | inlineDescriptor
  | remoteDescriptor (url : String) (expectedSha256 : Option String)
  | catalogueDescriptor (url : String) (productIdentity : ProductIdentity)
      (expectedCatalogueSha256 : Option String)
  deriving DecidableEq

/-- What a product registration holds. -/
structure ProductMaterial where
  workspaceId : String
  descriptorDocument : ProductDescriptorDocument
  deriving DecidableEq

def ProductMaterial.reference (material : ProductMaterial) : ProductReference :=
  material.descriptorDocument.reference

structure ProductAdmission where
  source : DescriptorSourceEvidence
  importedBy : String
  importedAt : String
  deriving DecidableEq

abbrev RegisteredProduct := Registration ProductMaterial ProductAdmission

/-- `registration_id_for(workspace_id, reference)`. -/
def registrationIdFor (workspaceId : String) (reference : ProductReference) : String :=
  "rprod_" ++ sha256Hexdigest (workspaceId ++ "\x00" ++ reference.descriptorSha256)

def productScheme : Scheme ProductMaterial (String × ProductIdentity) where
  identity material := registrationIdFor material.workspaceId material.reference
  key material := (material.workspaceId, material.reference.identity)

/-- `RegisteredProduct.from_document(...)`. -/
def registeredProduct (material : ProductMaterial) (admission : ProductAdmission) :
    Except RegistryError RegisteredProduct := do
  let candidate := productScheme.candidate material admission
  validateAdmission candidate.registrationId material.workspaceId admission.importedBy
    admission.importedAt "registration_id" "imported_by" "imported_at"
  .ok candidate

namespace RegisteredProductStore

/-- The columns a row is found by. -/
def digestOf (row : RegisteredProduct) : String × String :=
  (row.entry.workspaceId, row.entry.reference.descriptorSha256)

/-- `register(...)`. -/
def register (rows : List RegisteredProduct) (material : ProductMaterial)
    (admission : ProductAdmission) :
    Except RegistryError (RegisteredProduct × List RegisteredProduct) := do
  let candidate ← registeredProduct material admission
  encodeAdmittedAt admission.importedAt
  registerByIdentity productScheme digestOf
    (.conflict "registered product replacement requires explicit replacement policy")
    (.integrity "cpk_registered_products") rows candidate

/-- `get(workspace_id, reference)`. -/
def get (workspaceId : String) (reference : ProductReference)
    (rows : List RegisteredProduct) : Except RegistryError RegisteredProduct := do
  let registered ← requireRow
    (rows.find? fun row => digestOf row = (workspaceId, reference.descriptorSha256))
    "registered product was not found"
  if registered.entry.reference ≠ reference then
    .error (.notFound "registered product reference mismatch")
  else .ok registered

/-- `revoke(workspace_id, reference)`. -/
def revoke (workspaceId : String) (reference : ProductReference)
    (rows : List RegisteredProduct) :
    Except RegistryError (RegisteredProduct × List RegisteredProduct) :=
  revokeRead (get workspaceId reference)
    (fun row => digestOf row = (workspaceId, reference.descriptorSha256)) rows

end RegisteredProductStore

/-! ## Image pull authorities -/

/-- Secret-free authority reference for pulling an OCI image. -/
structure ImagePullAuthority where
  registry : String
  repository : Option String
  credentialReference : SecretReference
  deriving DecidableEq

/-- What an image pull authority registration holds. -/
structure ImagePullMaterial where
  workspaceId : String
  authority : ImagePullAuthority
  deriving DecidableEq

abbrev RegisteredImagePullAuthority := Registration ImagePullMaterial Admission

/-- `image_pull_authority_id_for(workspace_id, authority)`. -/
def imagePullAuthorityIdFor (workspaceId : String)
    (authority : ImagePullAuthority) : String :=
  "ipull_" ++ sha256Hexdigest (workspaceId ++ "\x00" ++ authority.registry ++ "\x00" ++
    authority.repository.getD "" ++ "\x00" ++ authority.credentialReference.referenceId)

def imagePullScheme : Scheme ImagePullMaterial (String × String × Option String) where
  identity material := imagePullAuthorityIdFor material.workspaceId material.authority
  key material :=
    (material.workspaceId, material.authority.registry, material.authority.repository)

/-- `RegisteredImagePullAuthority.from_authority(...)`. -/
def registeredImagePullAuthority (material : ImagePullMaterial)
    (admission : Admission) : Except RegistryError RegisteredImagePullAuthority := do
  let candidate := imagePullScheme.candidate material admission
  validateAdmission candidate.registrationId material.workspaceId admission.admittedBy
    admission.admittedAt "authority_id" "admitted_by" "admitted_at"
  .ok candidate

namespace ImagePullAuthorityStore

/-- The columns a row is found by. -/
def idOf (row : RegisteredImagePullAuthority) : String × String :=
  (row.entry.workspaceId, row.registrationId)

/-- `register(...)`. -/
def register (rows : List RegisteredImagePullAuthority) (material : ImagePullMaterial)
    (admission : Admission) :
    Except RegistryError
      (RegisteredImagePullAuthority × List RegisteredImagePullAuthority) := do
  let candidate ← registeredImagePullAuthority material admission
  encodeAdmittedAt admission.admittedAt
  registerByIdentity imagePullScheme idOf
    (.conflict
      "registered image pull authority replacement requires explicit replacement policy")
    (.integrity "cpk_image_pull_authorities") rows candidate

/-- `get(workspace_id, authority_id)`. -/
def get (workspaceId authorityId : String) (rows : List RegisteredImagePullAuthority) :
    Except RegistryError RegisteredImagePullAuthority :=
  requireRow (rows.find? fun row => idOf row = (workspaceId, authorityId))
    "registered image pull authority was not found"

/-- `revoke(workspace_id, authority_id)`. -/
def revoke (workspaceId authorityId : String)
    (rows : List RegisteredImagePullAuthority) :
    Except RegistryError
      (RegisteredImagePullAuthority × List RegisteredImagePullAuthority) :=
  revokeRead (get workspaceId authorityId)
    (fun row => idOf row = (workspaceId, authorityId)) rows

end ImagePullAuthorityStore

/-! ## The four tables -/

structure Registries where
  runtimeAuthorities : List RegisteredRuntimeAuthority
  ingressAuthorities : List RegisteredIngressAuthority
  registeredProducts : List RegisteredProduct
  imagePullAuthorities : List RegisteredImagePullAuthority

/-- A workspace's empty tables. -/
def Registries.empty : Registries := ⟨[], [], [], []⟩

/-- The commands that register; each was checked by building its record. -/
inductive RegisterCommand (reprText : String → String) where
  | runtimeAuthority (material : RuntimeAuthorityMaterial) (admission : Admission)
      (checked : (registeredRuntimeAuthority reprText material admission).isOk = true)
  | ingressAuthority (material : IngressAuthorityMaterial) (admission : Admission)
      (checked : (registeredIngressAuthority reprText material admission).isOk = true)
  | product (material : ProductMaterial) (admission : ProductAdmission)
      (checked : (registeredProduct material admission).isOk = true)
  | imagePullAuthority (material : ImagePullMaterial) (admission : Admission)
      (checked : (registeredImagePullAuthority material admission).isOk = true)

inductive RevokeCommand where
  | runtimeAuthority (workspaceId : String) (authorityRef : RuntimeAuthorityReference)
  | ingressAuthority (workspaceId : String) (authorityRef : IngressAuthorityReference)
  | product (workspaceId : String) (reference : ProductReference)
  | imagePullAuthority (workspaceId authorityId : String)

/-- A transaction on the tables, with its answer left out. -/
def RegisterCommand.apply {reprText : String → String} (state : Registries) :
    RegisterCommand reprText → Except RegistryError (Unit × Registries)
  | .runtimeAuthority material admission _ => do
      let (_, rows) ← RuntimeAuthorityStore.register reprText state.runtimeAuthorities
        material admission
      .ok ((), { state with runtimeAuthorities := rows })
  | .ingressAuthority material admission _ => do
      let (_, rows) ← IngressAuthorityStore.register reprText state.ingressAuthorities
        material admission
      .ok ((), { state with ingressAuthorities := rows })
  | .product material admission _ => do
      let (_, rows) ← RegisteredProductStore.register state.registeredProducts
        material admission
      .ok ((), { state with registeredProducts := rows })
  | .imagePullAuthority material admission _ => do
      let (_, rows) ← ImagePullAuthorityStore.register state.imagePullAuthorities
        material admission
      .ok ((), { state with imagePullAuthorities := rows })

def RevokeCommand.apply (state : Registries) :
    RevokeCommand → Except RegistryError (Unit × Registries)
  | .runtimeAuthority workspaceId authorityRef => do
      let (_, rows) ← RuntimeAuthorityStore.revoke workspaceId authorityRef
        state.runtimeAuthorities
      .ok ((), { state with runtimeAuthorities := rows })
  | .ingressAuthority workspaceId authorityRef => do
      let (_, rows) ← IngressAuthorityStore.revoke workspaceId authorityRef
        state.ingressAuthorities
      .ok ((), { state with ingressAuthorities := rows })
  | .product workspaceId reference => do
      let (_, rows) ← RegisteredProductStore.revoke workspaceId reference
        state.registeredProducts
      .ok ((), { state with registeredProducts := rows })
  | .imagePullAuthority workspaceId authorityId => do
      let (_, rows) ← ImagePullAuthorityStore.revoke workspaceId authorityId
        state.imagePullAuthorities
      .ok ((), { state with imagePullAuthorities := rows })

abbrev RegistryCommand (reprText : String → String) :=
  RegisterCommand reprText ⊕ RevokeCommand

def Registries.execute {reprText : String → String} :
    RegistryCommand reprText → Registries → Except RegistryError (Unit × Registries)
  | .inl command, state => command.apply state
  | .inr command, state => command.apply state

/-- The tables after a history of commands. -/
def Registries.after {reprText : String → String}
    (history : List (RegistryCommand reprText)) : Registries :=
  Library.Transactions.run Registries.execute .empty history

end ControlPlaneKit.Operations
