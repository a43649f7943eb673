import ControlPlaneKit.Library.PyValue
import ControlPlaneKit.Library.Text

/-!
# Types — the closed primitive values of a topology

Protocols, bindings, scopes, runtime kinds and block families, and the
lifecycle of a resource: who owns it, whether its compute survives removal, and
which data it retains.
-/

namespace ControlPlaneKit.Topology

open ControlPlaneKit.Library (PyDict PyValue)
open ControlPlaneKit.Library.Text (isBlank)

/-- Python's `repr` of a text without quotes, escapes or unprintable characters. -/
def plainRepr (text : String) : String := "'" ++ text ++ "'"

/-! ## Protocols and sockets -/

/-- How bytes are carried. -/
inductive Transport where
  | tcp
  | udp
  deriving DecidableEq, Repr

def Transport.value : Transport → String
  | .tcp => "tcp"
  | .udp => "udp"

/-- What the bytes say. -/
inductive ApplicationProtocol where
  | raw
  | http
  | postgres
  | dns
  | redis
  | smtp
  | otlpHttp
  | otlpGrpc
  | nats
  | amqp
  | kafka
  | s3
  | mcpStreamableHttp
  deriving DecidableEq, Repr

def ApplicationProtocol.value : ApplicationProtocol → String
  | .raw => "raw"
  | .http => "http"
  | .postgres => "postgres"
  | .dns => "dns"
  | .redis => "redis"
  | .smtp => "smtp"
  | .otlpHttp => "otlp-http"
  | .otlpGrpc => "otlp-grpc"
  | .nats => "nats"
  | .amqp => "amqp"
  | .kafka => "kafka"
  | .s3 => "s3"
  | .mcpStreamableHttp => "mcp-streamable-http"

/-- `Protocol`: the products of transport and application its constructor
admits, under the names the class gives them. -/
inductive Protocol where
  | tcp
  | udp
  | http
  | postgres
  | dnsTcp
  | dnsUdp
  | redis
  | smtp
  | otlpHttp
  | otlpGrpc
  | nats
  | amqp
  | kafka
  | s3
  | mcpStreamableHttp
  deriving DecidableEq, Repr

def Protocol.transport : Protocol → Transport
  | .udp | .dnsUdp => .udp
  | _ => .tcp

def Protocol.application : Protocol → ApplicationProtocol
  | .tcp | .udp => .raw
  | .http => .http
  | .postgres => .postgres
  | .dnsTcp | .dnsUdp => .dns
  | .redis => .redis
  | .smtp => .smtp
  | .otlpHttp => .otlpHttp
  | .otlpGrpc => .otlpGrpc
  | .nats => .nats
  | .amqp => .amqp
  | .kafka => .kafka
  | .s3 => .s3
  | .mcpStreamableHttp => .mcpStreamableHttp

/-- `Protocol.descriptor()`. -/
def Protocol.descriptor (protocol : Protocol) : PyValue :=
  .dict
    [ ("transport", .str protocol.transport.value)
    , ("application", .str protocol.application.value) ]

/-- How a connection reaches its consumer: through its environment, or by an activity of
its own. -/
inductive SocketBinding where
  | environment
  | runtimeControl
  deriving DecidableEq, Repr

def SocketBinding.value : SocketBinding → String
  | .environment => "environment"
  | .runtimeControl => "runtime-control"

/-- Who may reach an endpoint. -/
inductive EndpointScope where
  | localScope
  | privateScope
  | publicScope
  deriving DecidableEq, Repr

def EndpointScope.value : EndpointScope → String
  | .localScope => "local"
  | .privateScope => "private"
  | .publicScope => "public"

/-- What runs the nodes of a runtime. -/
inductive RuntimeKind where
  | docker
  | external
  | dryRun
  | aws
  | kubernetes
  deriving DecidableEq, Repr

def RuntimeKind.value : RuntimeKind → String
  | .docker => "docker"
  | .external => "external"
  | .dryRun => "dry-run"
  | .aws => "aws"
  | .kubernetes => "kubernetes"

/-- What kind of block a node is. -/
inductive BlockFamily where
  | application
  | data
  | proxy
  deriving DecidableEq, Repr

def BlockFamily.value : BlockFamily → String
  | .application => "application"
  | .data => "data"
  | .proxy => "proxy"

/-! ## Resource lifecycle -/

/-- Whether control-plane-kit may mutate one resource. -/
inductive ResourceOwnership where
  | owned
  | attached
  | external
  deriving DecidableEq, Repr

def ResourceOwnership.value : ResourceOwnership → String
  | .owned => "owned"
  | .attached => "attached"
  | .external => "external"

/-- Whether ordinary topology removal may remove one resource. -/
inductive ResourcePersistence where
  | ephemeral
  | retained
  deriving DecidableEq, Repr

def ResourcePersistence.value : ResourcePersistence → String
  | .ephemeral => "ephemeral"
  | .retained => "retained"

/-- One named data resource whose lifecycle is independent from compute. -/
structure DataResourceSpec where
  resourceId : String
  persistence : ResourcePersistence
  nonempty : isBlank resourceId = false

/-- Two data resources with equal fields are one. -/
theorem DataResourceSpec.ext_fields {a b : DataResourceSpec}
    (h : a.resourceId = b.resourceId ∧ a.persistence = b.persistence) : a = b := by
  cases a; cases b; simp_all

instance : DecidableEq DataResourceSpec := fun a b =>
  decidable_of_iff (a.resourceId = b.resourceId ∧ a.persistence = b.persistence)
    ⟨DataResourceSpec.ext_fields, by rintro rfl; simp⟩

def DataResourceSpec.descriptor (resource : DataResourceSpec) : PyValue :=
  .dict
    [ ("resource_id", .str resource.resourceId)
    , ("persistence", .str resource.persistence.value) ]

/-- `ResourceLifecycle`: what is not owned is retained and declares no data. -/
structure ResourceLifecycle where
  ownership : ResourceOwnership
  compute : ResourcePersistence
  data : List DataResourceSpec
  identitiesUnique : (data.map (·.resourceId)).Nodup
  unownedRetained : ownership ≠ .owned → compute = .retained ∧ data = []
  ordered : data.Pairwise fun a b => a.resourceId ≤ b.resourceId

/-- So are two lifecycles. -/
theorem ResourceLifecycle.ext_fields {a b : ResourceLifecycle}
    (h : a.ownership = b.ownership ∧ a.compute = b.compute ∧ a.data = b.data) :
    a = b := by
  cases a; cases b; simp_all

instance : DecidableEq ResourceLifecycle := fun a b =>
  decidable_of_iff (a.ownership = b.ownership ∧ a.compute = b.compute ∧ a.data = b.data)
    ⟨ResourceLifecycle.ext_fields, by rintro rfl; simp⟩

/-- The entries of `lifecycle.descriptor()`. -/
def ResourceLifecycle.entries (lifecycle : ResourceLifecycle) : PyDict :=
  [ ("ownership", .str lifecycle.ownership.value)
  , ("compute", .str lifecycle.compute.value)
  , ("data", .list (lifecycle.data.map (·.descriptor))) ]

/-- The lifecycle of what the control plane makes and takes away. -/
def ResourceLifecycle.ownedEphemeral : ResourceLifecycle where
  ownership := .owned
  compute := .ephemeral
  data := []
  identitiesUnique := by simp
  unownedRetained := by simp
  ordered := by simp

/-- The lifecycle of what is attached, and kept. -/
def ResourceLifecycle.attached : ResourceLifecycle where
  ownership := .attached
  compute := .retained
  data := []
  identitiesUnique := by simp
  unownedRetained := by simp
  ordered := by simp

/-- The lifecycle of what stands outside, and is kept. -/
def ResourceLifecycle.external : ResourceLifecycle where
  ownership := .external
  compute := .retained
  data := []
  identitiesUnique := by simp
  unownedRetained := by simp
  ordered := by simp

end ControlPlaneKit.Topology
