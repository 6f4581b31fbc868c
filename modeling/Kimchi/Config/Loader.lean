import Kimchi.Config.Dynamic
import Kimchi.Config.Models

/-!
# The configuration loader

`config/loader.cpp`: the five `fromJson` functions, `dispatchDocument`,
`applyJsonDocument` and `loadFromDirectory`.  A function that throws returns an `Except`;
`dispatchDocument` changes the store in place, so it returns the store it leaves behind
beside its outcome, whether it returned or threw.

A configuration directory either does not exist or is a listing that may break off
with an exception of `std::filesystem` after any number of entries.
-/

namespace Kimchi
namespace Config

/-- A text field; one that is missing or of another type reads as the default. -/
def getStr (d : Dynamic) (key : String) (dflt : String := "") : Except DynamicError Str := do
  match ← d.getPtr key with
  | some (.string s) => return s
  | _ => return str dflt

/-- An integer field, likewise. -/
def getInt (d : Dynamic) (key : String) (dflt : Int64 := 0) : Except DynamicError Int64 := do
  match ← d.getPtr key with
  | some (.int64 n) => return n
  | _ => return dflt

/-- A Boolean field, likewise. -/
def getBool (d : Dynamic) (key : String) (dflt : Bool := false) : Except DynamicError Bool := do
  match ← d.getPtr key with
  | some (.bool b) => return b
  | _ => return dflt

/-- `Metadata::fromJson`; it throws where `d` is not an object. -/
def Metadata.fromJson (d : Dynamic) : Except DynamicError Metadata := do
  return { name := ← getStr d "name" }

/-- `if (auto* meta = d.get_ptr("metadata")) cfg.metadata = Metadata::fromJson(*meta);` -/
def metadataOf (d : Dynamic) : Except DynamicError Metadata := do
  match ← d.getPtr "metadata" with
  | some doc => Metadata.fromJson doc
  | none => return {}

/-- A list field that is read element by element when it is present. -/
def elementsOf {α : Type} (d : Dynamic) (key : String) (elem : Dynamic → Except DynamicError α) :
    Except DynamicError (List α) := do
  match ← d.getPtr key with
  | some list => (← list.iterate).mapM elem
  | none => return []

/-- An element of `certificates`. -/
def TlsCertificate.fromJson (c : Dynamic) : Except DynamicError TlsCertificate := do
  return { certRef := ← getStr c "certRef", keyRef := ← getStr c "keyRef" }

/-- The `tls` section of a listener. -/
def TlsConfig.fromJson (tlsNode : Dynamic) : Except DynamicError TlsConfig := do
  return {
    mode := ← getStr tlsNode "mode" "TERMINATE"
    minVersion := ← getStr tlsNode "minVersion" "1.2"
    certificates := ← elementsOf tlsNode "certificates" TlsCertificate.fromJson }

/-- The `connection` section of a listener. -/
def ConnectionConfig.fromJson (conn : Dynamic) : Except DynamicError ConnectionConfig := do
  return {
    readTimeout := ← getStr conn "readTimeout" "30s"
    writeTimeout := ← getStr conn "writeTimeout" "30s"
    maxConnections := castInt32 (← getInt conn "maxConnections" 0) }

/-- `ListenerConfig::fromJson`.  The port is cast without a check, and `spec` must be there. -/
def ListenerConfig.fromJson (d : Dynamic) : Except DynamicError ListenerConfig := do
  let apiVersion ← getStr d "apiVersion"
  let kind ← getStr d "kind"
  let metadata ← metadataOf d
  let spec ← d.index "spec"
  let protocol ← getStr spec "protocol" "HTTP"
  let port := castUInt16 (← getInt spec "port" 18000)
  let host ← getStr spec "host" "0.0.0.0"
  let allowedHostnames ← elementsOf spec "allowedHostnames" Dynamic.getString
  let tls ← (← spec.getPtr "tls").mapM TlsConfig.fromJson
  let connection ← (← spec.getPtr "connection").mapM ConnectionConfig.fromJson
  return { apiVersion, kind, metadata, protocol, port, host, allowedHostnames, tls, connection }

/-- An element of `targets`. -/
def LoadBalancingTarget.fromJson (t : Dynamic) : Except DynamicError LoadBalancingTarget := do
  return {
    host := ← getStr t "host"
    port := castUInt16 (← getInt t "port" 80)
    weight := castInt32 (← getInt t "weight" 1) }

/-- The `loadBalancing` section of a service. -/
def LoadBalancingConfig.fromJson (lb : Dynamic) : Except DynamicError LoadBalancingConfig := do
  return {
    algorithm := ← getStr lb "algorithm" "ROUND_ROBIN"
    targets := ← elementsOf lb "targets" LoadBalancingTarget.fromJson }

/-- `ServiceConfig::fromJson`. -/
def ServiceConfig.fromJson (d : Dynamic) : Except DynamicError ServiceConfig := do
  let apiVersion ← getStr d "apiVersion"
  let kind ← getStr d "kind"
  let metadata ← metadataOf d
  let spec ← d.index "spec"
  let protocol ← getStr spec "protocol" "HTTP"
  let loadBalancing ←
    match ← spec.getPtr "loadBalancing" with
    | some lb => LoadBalancingConfig.fromJson lb
    | none => pure {}
  return { apiVersion, kind, metadata, protocol, loadBalancing }

/-- The path type a rule's `pathType` text names; every text other than `Exact` and
`Regex` is a prefix. -/
def PathType.ofStr (ptStr : Str) : PathType :=
  if ptStr = str "Exact" then .exact
  else if ptStr = str "Regex" then .regex
  else .pathPrefix

/-- An element of `rules`.  A `pathType` that is not a text throws; the other fields fall back
to their defaults. -/
def RouterRule.fromJson (r : Dynamic) : Except DynamicError RouterRule := do
  let path ← getStr r "path"
  let pathType ←
    match ← r.getPtr "pathType" with
    | some pt => PathType.ofStr <$> pt.getString
    | none => pure .pathPrefix
  let methods ← elementsOf r "methods" Dynamic.getString
  return { path, pathType, methods }

/-- The `rewrite` section of a destination. -/
def RewriteConfig.fromJson (rw : Dynamic) : Except DynamicError RewriteConfig := do
  return { path := ← getStr rw "path", host := ← getStr rw "host" }

/-- An element of `destinations`; without a `destinationRef` its name is empty. -/
def RouterDestination.fromJson (dest : Dynamic) : Except DynamicError RouterDestination := do
  let (destinationKind, destinationName) ←
    match ← dest.getPtr "destinationRef" with
    | some ref => do pure (← getStr ref "kind" "Service", ← getStr ref "name")
    | none => pure (str "Service", [])
  let weight := castInt32 (← getInt dest "weight" 100)
  let rewrite ← (← dest.getPtr "rewrite").mapM RewriteConfig.fromJson
  return { destinationKind, destinationName, weight, rewrite }

/-- `RouterConfig::fromJson`. -/
def RouterConfig.fromJson (d : Dynamic) : Except DynamicError RouterConfig := do
  let apiVersion ← getStr d "apiVersion"
  let kind ← getStr d "kind"
  let metadata ← metadataOf d
  let spec ← d.index "spec"
  let targetRefName ←
    match ← spec.getPtr "targetRef" with
    | some ref => getStr ref "name"
    | none => pure []
  let rules ← elementsOf spec "rules" RouterRule.fromJson
  let destinations ←
    match ← spec.getPtr "config" with
    | some confNode => elementsOf confNode "destinations" RouterDestination.fromJson
    | none => pure []
  let policies ← elementsOf spec "policies" Dynamic.getString
  return { apiVersion, kind, metadata, targetRefName, rules, destinations, policies }

/-- The `jwt` section of a policy. -/
def JwtConfig.fromJson (jwt : Dynamic) : Except DynamicError JwtConfig := do
  return {
    jwksUri := ← getStr jwt "jwksUri"
    issuer := ← getStr jwt "issuer"
    audience := ← getStr jwt "audience"
    cacheTtlSeconds := castInt32 (← getInt jwt "cacheTtlSeconds" 300) }

/-- The `security` section of a policy. -/
def SecurityPolicySpec.fromJson (sec : Dynamic) : Except DynamicError SecurityPolicySpec := do
  return { jwt := ← (← sec.getPtr "jwt").mapM JwtConfig.fromJson }

/-- `PolicyConfig::fromJson`. -/
def PolicyConfig.fromJson (d : Dynamic) : Except DynamicError PolicyConfig := do
  let apiVersion ← getStr d "apiVersion"
  let kind ← getStr d "kind"
  let metadata ← metadataOf d
  let spec ← d.index "spec"
  let order := castInt32 (← getInt spec "order" 0)
  let security ← (← spec.getPtr "security").mapM SecurityPolicySpec.fromJson
  return { apiVersion, kind, metadata, spec := { order, security } }

/-- The `accessLog` section of a gateway. -/
def AccessLogConfig.fromJson (al : Dynamic) : Except DynamicError AccessLogConfig := do
  return { enabled := ← getBool al "enabled" true, format := ← getStr al "format" "JSON" }

/-- The `server` section of a gateway; every integer is cast without a check. -/
def ServerTuningConfig.fromJson (srv : Dynamic) : Except DynamicError ServerTuningConfig := do
  return {
    workerThreads := castInt32 (← getInt srv "workerThreads" 0)
    idleTimeoutMs := castInt32 (← getInt srv "idleTimeoutMs" 60000)
    listenBacklog := castInt32 (← getInt srv "listenBacklog" 1024)
    maxConcurrentStreams := castInt32 (← getInt srv "maxConcurrentStreams" 100)
    initialReceiveWindowBytes := castInt32 (← getInt srv "initialReceiveWindowBytes" 65536)
    useZeroCopy := ← getBool srv "useZeroCopy" false }

/-- `GatewayConfig::fromJson`. -/
def GatewayConfig.fromJson (d : Dynamic) : Except DynamicError GatewayConfig := do
  let apiVersion ← getStr d "apiVersion"
  let kind ← getStr d "kind"
  let metadata ← metadataOf d
  let spec ← d.index "spec"
  let accessLog ←
    match ← spec.getPtr "observability" with
    | some obs =>
        match ← obs.getPtr "accessLog" with
        | some al => AccessLogConfig.fromJson al
        | none => pure {}
    | none => pure {}
  let server ←
    match ← spec.getPtr "server" with
    | some srv => ServerTuningConfig.fromJson srv
    | none => pure {}
  return { apiVersion, kind, metadata, accessLog, server }

/-- `store.xs.push_back(X::fromJson(doc))`: the argument is evaluated first, so a
throwing `fromJson` leaves the store untouched. -/
def storing {α : Type} (parsed : Except DynamicError α) (update : α → ConfigStore) (store : ConfigStore) :
    Except DynamicError Unit × ConfigStore :=
  match parsed with
  | .ok cfg => (.ok (), update cfg)
  | .error ex => (.error ex, store)

/-- `ConfigLoader::dispatchDocument`: its outcome, and the store it leaves behind.  Only a
second `Gateway` document replaces something. -/
def dispatchDocument (doc : Dynamic) (store : ConfigStore) : Except DynamicError Unit × ConfigStore :=
  match doc.getPtr "kind" with
  | .error ex => (.error ex, store)
  | .ok (some (.string kind)) =>
      if kind = str "Listener" then
        storing (ListenerConfig.fromJson doc)
          (fun cfg => { store with listeners := store.listeners ++ [cfg] }) store
      else if kind = str "Router" then
        storing (RouterConfig.fromJson doc)
          (fun cfg => { store with routers := store.routers ++ [cfg] }) store
      else if kind = str "Service" then
        storing (ServiceConfig.fromJson doc)
          (fun cfg => { store with services := store.services ++ [cfg] }) store
      else if kind = str "Gateway" then
        storing (GatewayConfig.fromJson doc)
          (fun cfg => { store with gateway := some cfg }) store
      else if kind = str "Policy" then
        storing (PolicyConfig.fromJson doc)
          (fun cfg => { store with policies := store.policies ++ [cfg] }) store
      else
        -- `MockingService` and unknown kinds are skipped with a warning
        (.ok (), store)
  | .ok _ => (.ok (), store)

/-- What `applyJsonDocument` throws: `folly::json::parse_error`, or what reading the
document throws. -/
inductive DocumentError where
  | parseError
  | dynamic (ex : DynamicError)
  deriving DecidableEq, Repr

/-- `ConfigLoader::applyJsonDocument`: its outcome, and the store it leaves behind. -/
def applyJsonDocument (parseJson : Str → Option Dynamic) (jsonText : Str) (store : ConfigStore) :
    Except DocumentError Unit × ConfigStore :=
  match parseJson jsonText with
  | none => (.error .parseError, store)
  | some doc =>
      let (outcome, store') := dispatchDocument doc store
      (outcome.mapError .dynamic, store')

/-- One entry of the directory: what `is_regular_file`, `extension` and reading the
file answer.  The content is absent when the file cannot be opened. -/
structure DirEntry where
  isRegularFile : Bool
  extension : Str
  content : Option Str
  deriving DecidableEq, Repr

/-- What `std::filesystem` answers for the configuration directory.  `failure` is
the exception that ends the iteration after the listed entries, if one does. -/
inductive ConfigDir where
  | missing
  | listing (entries : List DirEntry) (failure : Option Str)
  deriving DecidableEq, Repr

/-- The loop body of `loadFromDirectory`.  Whatever `parseJson` or
`dispatchDocument` throws is logged and swallowed. -/
def loadEntry (parseJson : Str → Option Dynamic) (store : ConfigStore) (entry : DirEntry) : ConfigStore :=
  if !entry.isRegularFile || decide (entry.extension ≠ str ".json") then store
  else
    match entry.content with
    | none => store
    | some content =>
        match parseJson content with
        | none => store
        | some doc => (dispatchDocument doc store).2

/-- `ConfigLoader::loadFromDirectory`.  A directory that does not exist gives an empty store;
an exception of the iteration is not caught. -/
def loadFromDirectory (parseJson : Str → Option Dynamic) : ConfigDir → Except Str ConfigStore
  | .missing => .ok {}
  | .listing entries none => .ok (entries.foldl (loadEntry parseJson) {})
  | .listing _ (some what) => .error what

end Config
end Kimchi
