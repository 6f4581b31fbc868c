import Kimchi.ByteString

/-!
# Configuration models

The records of `config/models.h`, with the widths and the default member
initialisers of the source.  A `std::optional` is an `Option`, a `std::vector` a
list.
-/

namespace Kimchi
namespace Config

/-- The `metadata` of a document, of which only the name is read. -/
structure Metadata where
  name : Str := []
  deriving DecidableEq, Repr

/-- A certificate and its key, by reference. -/
structure TlsCertificate where
  certRef : Str
  keyRef : Str
  deriving DecidableEq, Repr

/-- The TLS section of a listener.  The mode is `TERMINATE` or `PASSTHROUGH`, the version
`1.2` or `1.3`; neither is checked. -/
structure TlsConfig where
  mode : Str
  minVersion : Str
  certificates : List TlsCertificate := []
  deriving DecidableEq, Repr

/-- The connection section of a listener; the timeouts are texts such as `30s`. -/
structure ConnectionConfig where
  readTimeout : Str
  writeTimeout : Str
  maxConnections : Int32 := 0
  deriving DecidableEq, Repr

/-- A `Listener` document: an address of the data plane. -/
structure ListenerConfig where
  apiVersion : Str := []
  kind : Str := []
  metadata : Metadata := {}
  protocol : Str := []
  port : UInt16 := 0
  host : Str := str "0.0.0.0"
  allowedHostnames : List Str := []
  tls : Option TlsConfig := none
  connection : Option ConnectionConfig := none
  deriving DecidableEq, Repr

/-- One upstream of a service. -/
structure LoadBalancingTarget where
  host : Str
  port : UInt16 := 0
  weight : Int32 := 1
  deriving DecidableEq, Repr

/-- The upstreams of a service, and the algorithm that is meant to choose among them. -/
structure LoadBalancingConfig where
  algorithm : Str := str "ROUND_ROBIN"
  targets : List LoadBalancingTarget := []
  deriving DecidableEq, Repr

/-- A `Service` document. -/
structure ServiceConfig where
  apiVersion : Str := []
  kind : Str := []
  metadata : Metadata := {}
  protocol : Str := str "HTTP"
  loadBalancing : LoadBalancingConfig := {}
  deriving DecidableEq, Repr

/-- How the path of a rule is compared. -/
inductive PathType where
  | exact
  | pathPrefix
  | regex
  deriving DecidableEq, Repr

/-- A rule of a router.  An empty list of methods allows all of them. -/
structure RouterRule where
  path : Str
  pathType : PathType := .pathPrefix
  methods : List Str := []
  deriving DecidableEq, Repr

/-- What a destination puts in place of the path and the host; an empty text rewrites
nothing. -/
structure RewriteConfig where
  path : Str
  host : Str
  deriving DecidableEq, Repr

/-- A destination of a router: a service by name. -/
structure RouterDestination where
  destinationKind : Str := str "Service"
  destinationName : Str := []
  weight : Int32 := 100
  rewrite : Option RewriteConfig := none
  deriving DecidableEq, Repr

/-- A `Router` document.  `policies` are names of policies. -/
structure RouterConfig where
  apiVersion : Str := []
  kind : Str := []
  metadata : Metadata := {}
  targetRefName : Str := []
  rules : List RouterRule := []
  destinations : List RouterDestination := []
  policies : List Str := []
  deriving DecidableEq, Repr

/-- The access log of the gateway. -/
structure AccessLogConfig where
  enabled : Bool := true
  format : Str := str "JSON"
  deriving DecidableEq, Repr

/-- The settings of the server; zero worker threads stand for one for each processor. -/
structure ServerTuningConfig where
  workerThreads : Int32 := 0
  idleTimeoutMs : Int32 := 60000
  listenBacklog : Int32 := 1024
  maxConcurrentStreams : Int32 := 100
  initialReceiveWindowBytes : Int32 := 65536
  useZeroCopy : Bool := false
  deriving DecidableEq, Repr

/-- A `Gateway` document. -/
structure GatewayConfig where
  apiVersion : Str := []
  kind : Str := []
  metadata : Metadata := {}
  accessLog : AccessLogConfig := {}
  server : ServerTuningConfig := {}
  deriving DecidableEq, Repr

/-- The JWT section of a policy: where the key set is, and what is checked of a token beside
its signature. -/
structure JwtConfig where
  jwksUri : Str
  issuer : Str
  audience : Str
  cacheTtlSeconds : Int32 := 300
  deriving DecidableEq, Repr

/-- The security section of a policy. -/
structure SecurityPolicySpec where
  jwt : Option JwtConfig := none
  deriving DecidableEq, Repr

/-- The `spec` of a policy; policies of lower order come first in a chain. -/
structure PolicySpec where
  order : Int32 := 0
  security : Option SecurityPolicySpec := none
  deriving DecidableEq, Repr

/-- A `Policy` document. -/
structure PolicyConfig where
  apiVersion : Str := []
  kind : Str := []
  metadata : Metadata := {}
  spec : PolicySpec := {}
  deriving DecidableEq, Repr

/-- The JWT section of a policy: `spec.security` is present and has a `jwt`. -/
def PolicyConfig.jwt (pc : PolicyConfig) : Option JwtConfig := pc.spec.security.bind (·.jwt)

/-- Everything that is loaded, each kind in the order in which it was read. -/
structure ConfigStore where
  gateway : Option GatewayConfig := none
  listeners : List ListenerConfig := []
  routers : List RouterConfig := []
  services : List ServiceConfig := []
  policies : List PolicyConfig := []
  deriving DecidableEq, Repr

end Config
end Kimchi
