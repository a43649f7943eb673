import ControlPlaneKit.Library.Ordering
import ControlPlaneKit.Library.PyValue
import ControlPlaneKit.Library.Sha256
import ControlPlaneKit.Library.Text

/-!
# Material — the leaf values nodes and graphs carry

Secret deliveries, environment bindings, configuration artifacts, delegation
authorities and public ingresses, each with the descriptor it is compared and
displayed by.  Grammars of a leaf that nothing downstream relies on are not
repeated here.
-/

namespace ControlPlaneKit.Topology

open ControlPlaneKit.Library (PyDict PyValue)
open ControlPlaneKit.Library.Text (isBlank isBlank_of_reference isReference)

/-- `hashlib.sha256(value.encode("utf-8")).hexdigest()`. -/
def sha256Hexdigest (value : String) : String :=
  String.ofList (Library.Sha256.hexdigestChars (Library.Text.utf8 value.toList))

/-! ## Secrets -/

/-- An opaque provider-qualified identity. -/
structure SecretReference where
  referenceId : String
  nonempty : isBlank referenceId = false

instance : DecidableEq SecretReference := fun a b =>
  decidable_of_iff (a.referenceId = b.referenceId)
    ⟨by cases a; cases b; simp, by rintro rfl; rfl⟩

/-- What a secret is used for. -/
inductive SecretUseIntent where
  | applicationControlToken
  | cloudflareApiToken
  | cloudflareTunnelToken
  | dockerLocalSocketAccessMarker
  | dockerRemoteTlsCaCertificate
  | dockerRemoteTlsClientCertificate
  | dockerRemoteTlsClientKey
  | gatewayProbeSigningKey
  | ociPullCredential
  | postgresPassword
  | gatewayNodeControlTransitSigningKey
  | workloadNodeControlSigningKey
  deriving DecidableEq, Repr

def SecretUseIntent.value : SecretUseIntent → String
  | .applicationControlToken => "application.control-token"
  | .cloudflareApiToken => "cloudflare.api-token"
  | .cloudflareTunnelToken => "cloudflare.tunnel-token"
  | .dockerLocalSocketAccessMarker => "docker.local-socket-access-marker"
  | .dockerRemoteTlsCaCertificate => "docker.remote-tls.ca-certificate"
  | .dockerRemoteTlsClientCertificate => "docker.remote-tls.client-certificate"
  | .dockerRemoteTlsClientKey => "docker.remote-tls.client-key"
  | .gatewayProbeSigningKey => "gateway.probe-signing-key"
  | .ociPullCredential => "oci.pull-credential"
  | .postgresPassword => "postgres.password"
  | .gatewayNodeControlTransitSigningKey => "gateway.node-control-transit-signing-key"
  | .workloadNodeControlSigningKey => "workload.node-control-signing-key"

/-- `SecretEnvironmentDelivery | SecretReferenceEnvironmentDelivery |
SecretFileDelivery`; a file's mode is always `0400`, and its path binding is the
environment name that exposes the path. -/
inductive SecretDelivery where
  | environment (environmentName : String) (reference : SecretReference)
      (intent : SecretUseIntent)
  | environmentReference (environmentName : String) (reference : SecretReference)
  | file (targetPath : String) (reference : SecretReference) (intent : SecretUseIntent)
      (pathBinding : Option String)
  deriving DecidableEq

/-- The secret that is delivered. -/
def SecretDelivery.reference : SecretDelivery → SecretReference
  | .environment _ reference _ => reference
  | .environmentReference _ reference => reference
  | .file _ reference _ _ => reference

/-- The environment name a delivery occupies, if any. -/
def SecretDelivery.environmentName : SecretDelivery → Option String
  | .environment name _ _ => some name
  | .environmentReference name _ => some name
  | .file _ _ _ pathBinding => pathBinding

/-- Delivered files are readable by their owner only. -/
def secretFileMode : String := "0400"

/-- The delivery's descriptor with the given entry for its reference identity. -/
def SecretDelivery.entries (referenceId : PyValue) : SecretDelivery → PyDict
  | .environment name _ intent =>
      [ ("kind", .str "environment"), ("environment_name", .str name)
      , ("reference_id", referenceId), ("intent", .str intent.value) ]
  | .environmentReference name _ =>
      [ ("kind", .str "environment-reference"), ("environment_name", .str name)
      , ("reference_id", referenceId) ]
  | .file path _ intent pathBinding =>
      [ ("kind", .str "file"), ("target_path", .str path)
      , ("reference_id", referenceId), ("intent", .str intent.value)
      , ("file_mode", .str secretFileMode)
      , ("path_binding", match pathBinding with
          | none => .none
          | some name => .dict [("environment_name", .str name)]) ]

/-- `SecretDelivery.descriptor()`. -/
def SecretDelivery.descriptor (delivery : SecretDelivery) : PyValue :=
  .dict (delivery.entries (.str delivery.reference.referenceId))

/-- `secret_delivery_sort_key`. -/
def secretDeliverySortKey : SecretDelivery → List String
  | .environment name reference intent =>
      ["environment", name, reference.referenceId, intent.value, "", ""]
  | .environmentReference name reference =>
      ["environment-reference", name, reference.referenceId, "", "", ""]
  | .file path reference intent pathBinding =>
      ["file", path, reference.referenceId, intent.value, secretFileMode,
        pathBinding.getD ""]

/-! ## Environment bindings -/

/-- A public text under a name. -/
structure PublicStaticEnvironmentBinding where
  name : String
  value : String
  deriving DecidableEq

/-- The address of a connection under a name. -/
structure SocketDerivedEnvironmentBinding where
  name : String
  value : String
  edgeId : String
  deriving DecidableEq

/-- What stands under a name of the environment. -/
inductive EnvironmentBinding where
  | publicStatic (binding : PublicStaticEnvironmentBinding)
  | socketDerived (binding : SocketDerivedEnvironmentBinding)
  deriving DecidableEq

def EnvironmentBinding.name : EnvironmentBinding → String
  | .publicStatic binding => binding.name
  | .socketDerived binding => binding.name

/-! ## Configuration artifacts -/

/-- How the content of an artifact is written. -/
inductive ConfigurationMediaType where
  | text
  | json
  | yaml
  | toml
  deriving DecidableEq, Repr

def ConfigurationMediaType.value : ConfigurationMediaType → String
  | .text => "text/plain"
  | .json => "application/json"
  | .yaml => "application/yaml"
  | .toml => "application/toml"

/-- Who may read an artifact. -/
inductive ConfigurationFileMode where
  | ownerReadOnly
  | readOnly
  deriving DecidableEq, Repr

def ConfigurationFileMode.value : ConfigurationFileMode → String
  | .ownerReadOnly => "0400"
  | .readOnly => "0444"

/-- `ConfigurationArtifact`; the source digest is the content's own when none
was given. -/
structure ConfigurationArtifact where
  artifactId : String
  targetPath : String
  mediaType : ConfigurationMediaType
  content : String
  fileMode : ConfigurationFileMode
  sourceDigest : String

/-- `sha256` of the content. -/
def ConfigurationArtifact.contentDigest (artifact : ConfigurationArtifact) : String :=
  sha256Hexdigest artifact.content

/-- The compared fields, in order: everything but the content, for which its
digest stands. -/
def ConfigurationArtifact.comparisonKey (artifact : ConfigurationArtifact) :
    List String :=
  [ artifact.artifactId, artifact.targetPath, artifact.mediaType.value
  , artifact.fileMode.value, artifact.sourceDigest, artifact.contentDigest ]

/-- `ConfigurationArtifact.descriptor()`. -/
def ConfigurationArtifact.descriptor (artifact : ConfigurationArtifact) : PyValue :=
  .dict
    [ ("artifact_id", .str artifact.artifactId)
    , ("target_path", .str artifact.targetPath)
    , ("media_type", .str artifact.mediaType.value)
    , ("content", .str artifact.content)
    , ("content_digest", .str artifact.contentDigest)
    , ("file_mode", .str artifact.fileMode.value)
    , ("source_digest", .str artifact.sourceDigest) ]

/-! ## Delegation -/

/-- What a delegation key signs. -/
inductive DelegationKeyPurpose where
  | gatewayProbe
  | workloadNodeControl
  | workloadNodeControlSurfaceRead
  | gatewayNodeControlTransit
  deriving DecidableEq, Repr

def DelegationKeyPurpose.value : DelegationKeyPurpose → String
  | .gatewayProbe => "gateway-probe"
  | .workloadNodeControl => "workload-node-control"
  | .workloadNodeControlSurfaceRead => "workload-node-control-surface-read"
  | .gatewayNodeControlTransit => "gateway-node-control-transit"

/-- `DelegationPublicKey`; its algorithm is always `ed25519`. -/
structure DelegationPublicKey where
  keyId : String
  publicKeyPem : String
  deriving DecidableEq

def DelegationPublicKey.descriptor (key : DelegationPublicKey) : PyValue :=
  .dict
    [ ("key_id", .str key.keyId)
    , ("algorithm", .str "ed25519")
    , ("fingerprint_sha256", .str (sha256Hexdigest key.publicKeyPem)) ]

/-- A node that delegates, for what, and under which issuer. -/
structure DelegationAuthorityBinding where
  delegateNodeId : String
  purpose : DelegationKeyPurpose
  issuer : String
  deriving DecidableEq

/-- A binding is known by its delegate and its purpose. -/
def DelegationAuthorityBinding.identity (binding : DelegationAuthorityBinding) :
    String × DelegationKeyPurpose :=
  (binding.delegateNodeId, binding.purpose)

def DelegationAuthorityBinding.descriptor
    (binding : DelegationAuthorityBinding) : PyValue :=
  .dict
    [ ("delegate_node_id", .str binding.delegateNodeId)
    , ("purpose", .str binding.purpose.value)
    , ("issuer", .str binding.issuer) ]

/-- The public keys a node accepts for one binding. -/
structure DelegationVerifierProjection where
  delegateNodeId : String
  purpose : DelegationKeyPurpose
  issuer : String
  audience : String
  projectionId : String
  publicKeys : List DelegationPublicKey
  deriving DecidableEq

/-- The binding a projection is of. -/
def DelegationVerifierProjection.bindingIdentity
    (projection : DelegationVerifierProjection) : String × DelegationKeyPurpose :=
  (projection.delegateNodeId, projection.purpose)

/-! ## Runtime authorities and public ingresses -/

/-- The name of an authority over a runtime. -/
structure RuntimeAuthorityReference where
  referenceId : String
  deriving DecidableEq

def RuntimeAuthorityReference.descriptor
    (reference : RuntimeAuthorityReference) : PyValue :=
  .dict [("reference_id", .str reference.referenceId)]

/-- The socket that an ingress leads to. -/
structure PublicIngressTarget where
  nodeId : String
  providerSocket : String
  deriving DecidableEq

/-- How long an ingress is kept. -/
inductive PublicIngressLifecycle where
  | ephemeral
  | retained
  | external
  deriving DecidableEq, Repr

def PublicIngressLifecycle.value : PublicIngressLifecycle → String
  | .ephemeral => "ephemeral"
  | .retained => "retained"
  | .external => "external"

/-- `NamedPublicIngress`; the exposure is always `https`.  The grammar of the
ingress identity is kept because activity targets rely on it. -/
structure NamedPublicIngress where
  ingressId : String
  authorityRef : String
  target : PublicIngressTarget
  connectorNodeId : String
  hostname : String
  lifecycle : PublicIngressLifecycle
  named : isReference ingressId = true

instance : DecidableEq NamedPublicIngress := fun a b =>
  decidable_of_iff
    (a.ingressId = b.ingressId ∧ a.authorityRef = b.authorityRef ∧ a.target = b.target ∧
      a.connectorNodeId = b.connectorNodeId ∧ a.hostname = b.hostname ∧
      a.lifecycle = b.lifecycle)
    ⟨by cases a; cases b; simp_all, by rintro rfl; simp⟩

/-- An ingress has a name. -/
theorem NamedPublicIngress.not_blank (ingress : NamedPublicIngress) :
    isBlank ingress.ingressId = false :=
  isBlank_of_reference ingress.named

/-- `NamedPublicIngress.descriptor()`. -/
def NamedPublicIngress.descriptor (ingress : NamedPublicIngress) : PyValue :=
  .dict
    [ ("ingress_id", .str ingress.ingressId)
    , ("authority_ref", .dict [("reference_id", .str ingress.authorityRef)])
    , ("target", .dict
        [ ("node_id", .str ingress.target.nodeId)
        , ("provider_socket", .str ingress.target.providerSocket) ])
    , ("connector_node_id", .str ingress.connectorNodeId)
    , ("hostname", .str ingress.hostname)
    , ("exposure", .str "https")
    , ("lifecycle", .str ingress.lifecycle.value) ]

end ControlPlaneKit.Topology
