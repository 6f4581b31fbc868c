import Kimchi.Config.LoadedStore
import Kimchi.Library.Narrowing

/-!
# Integer settings, from the document to the server

`GatewayServer`'s constructor (`server/gateway_server.cpp`) turns the server section
of the gateway resource into `HTTPServerOptions`.  An integer of a document passes
one unchecked cast in `fromJson`, and a tuning field a second one here.

`IntSetting` lists the integer settings; `written` is what a document says for one,
`stored` what the configuration then holds and `passed` what the server options
then hold.

* `stored_eq`, `passed_eq_iff` — the two casts, for every setting.
* `integers_survive_iff` — nothing is changed on the way exactly when every integer
  of an accepted document fits the types it passes through.
-/

namespace Kimchi

open Config Library

/-- The fields of `proxygen::HTTPServerOptions` that depend on the configuration.
`idleTimeout` is in milliseconds. -/
structure HTTPServerOptions where
  threads : UInt64
  idleTimeout : Int64
  listenBacklog : UInt32
  maxConcurrentIncomingStreams : UInt32
  initialReceiveWindow : UInt64
  receiveStreamWindowSize : UInt64
  receiveSessionWindowSize : UInt64
  useZeroCopy : Bool
  deriving DecidableEq, Repr

/-- `static_cast<size_t>` of an `int32_t`. -/
def castSize (n : Int32) : UInt64 := n.toInt64.toUInt64

namespace GatewayServer

/-- The server section, or the defaults without a gateway resource. -/
def tuning (store : ConfigStore) : ServerTuningConfig :=
  match store.gateway with
  | some gateway => gateway.server
  | none => {}

/-- The options of the constructor; `hardwareConcurrency` is what
`std::thread::hardware_concurrency` answers. -/
def options (hardwareConcurrency : UInt32) (store : ConfigStore) : HTTPServerOptions :=
  let tuning := tuning store
  { threads :=
      if tuning.workerThreads > 0 then castSize tuning.workerThreads else hardwareConcurrency.toUInt64
    idleTimeout := tuning.idleTimeoutMs.toInt64
    listenBacklog := tuning.listenBacklog.toUInt32
    maxConcurrentIncomingStreams := tuning.maxConcurrentStreams.toUInt32
    initialReceiveWindow := castSize tuning.initialReceiveWindowBytes
    receiveStreamWindowSize := castSize tuning.initialReceiveWindowBytes
    receiveSessionWindowSize := castSize tuning.initialReceiveWindowBytes
    useZeroCopy := tuning.useZeroCopy }

end GatewayServer

/-! ## The integer settings -/

/-- One step into a JSON value. -/
inductive JsonStep where
  | field (key : String)
  | elem (j : Nat)
  deriving DecidableEq, Repr

/-- The element of an array, if the value is an array and has it. -/
def Dynamic.elem? (d : Dynamic) (j : Nat) : Option Dynamic :=
  match d with
  | .array elems => elems[j]?
  | _ => none

theorem Dynamic.elem?_eq_some_iff {d v : Dynamic} {j : Nat} :
    d.elem? j = some v ↔ ∃ elems, d = .array elems ∧ elems[j]? = some v := by
  cases d <;> simp [Dynamic.elem?]

/-- The value at the end of a path, if the path exists. -/
def Dynamic.at? : Dynamic → List JsonStep → Option Dynamic
  | d, [] => some d
  | d, .field key :: path => (d.field? key).bind fun v => v.at? path
  | d, .elem j :: path => (d.elem? j).bind fun v => v.at? path

/-- The integer settings of the five resources; `j` is the position in a list. -/
inductive IntSetting where
  | listenerPort
  | maxConnections
  | targetPort (j : Nat)
  | targetWeight (j : Nat)
  | destinationWeight (j : Nat)
  | policyOrder
  | cacheTtlSeconds
  | workerThreads
  | idleTimeoutMs
  | listenBacklog
  | maxConcurrentStreams
  | initialReceiveWindowBytes
  deriving DecidableEq, Repr

namespace IntSetting

/-- The kind of document that has the setting. -/
def kind : IntSetting → String
  | listenerPort | maxConnections => "Listener"
  | targetPort _ | targetWeight _ => "Service"
  | destinationWeight _ => "Router"
  | policyOrder | cacheTtlSeconds => "Policy"
  | workerThreads | idleTimeoutMs | listenBacklog | maxConcurrentStreams | initialReceiveWindowBytes =>
      "Gateway"

/-- Where the document writes it. -/
def path : IntSetting → List JsonStep
  | listenerPort => [.field "spec", .field "port"]
  | maxConnections => [.field "spec", .field "connection", .field "maxConnections"]
  | targetPort j => [.field "spec", .field "loadBalancing", .field "targets", .elem j, .field "port"]
  | targetWeight j => [.field "spec", .field "loadBalancing", .field "targets", .elem j, .field "weight"]
  | destinationWeight j =>
      [.field "spec", .field "config", .field "destinations", .elem j, .field "weight"]
  | policyOrder => [.field "spec", .field "order"]
  | cacheTtlSeconds => [.field "spec", .field "security", .field "jwt", .field "cacheTtlSeconds"]
  | workerThreads => [.field "spec", .field "server", .field "workerThreads"]
  | idleTimeoutMs => [.field "spec", .field "server", .field "idleTimeoutMs"]
  | listenBacklog => [.field "spec", .field "server", .field "listenBacklog"]
  | maxConcurrentStreams => [.field "spec", .field "server", .field "maxConcurrentStreams"]
  | initialReceiveWindowBytes => [.field "spec", .field "server", .field "initialReceiveWindowBytes"]

/-- The integer the document writes, if it writes one. -/
def written (f : IntSetting) (doc : Dynamic) : Option Int64 :=
  match doc.at? f.path with
  | some (.int64 n) => some n
  | _ => none

/-- What a configuration with one resource of the kind holds. -/
def stored (f : IntSetting) (store : ConfigStore) : Option Int :=
  match f with
  | listenerPort => store.listeners.head?.map fun l => (l.port.toNat : Int)
  | maxConnections => (store.listeners.head?.bind (·.connection)).map (·.maxConnections.toInt)
  | targetPort j =>
      (store.services.head?.bind (·.loadBalancing.targets[j]?)).map fun t => (t.port.toNat : Int)
  | targetWeight j => (store.services.head?.bind (·.loadBalancing.targets[j]?)).map (·.weight.toInt)
  | destinationWeight j => (store.routers.head?.bind (·.destinations[j]?)).map (·.weight.toInt)
  | policyOrder => store.policies.head?.map (·.spec.order.toInt)
  | cacheTtlSeconds => (store.policies.head?.bind (·.jwt)).map (·.cacheTtlSeconds.toInt)
  | workerThreads => store.gateway.map (·.server.workerThreads.toInt)
  | idleTimeoutMs => store.gateway.map (·.server.idleTimeoutMs.toInt)
  | listenBacklog => store.gateway.map (·.server.listenBacklog.toInt)
  | maxConcurrentStreams => store.gateway.map (·.server.maxConcurrentStreams.toInt)
  | initialReceiveWindowBytes => store.gateway.map (·.server.initialReceiveWindowBytes.toInt)

/-- What the server options then hold for a tuning field. -/
def passed (f : IntSetting) (opts : HTTPServerOptions) : List Int :=
  match f with
  | workerThreads => [opts.threads.toNat]
  | idleTimeoutMs => [opts.idleTimeout.toInt]
  | listenBacklog => [opts.listenBacklog.toNat]
  | maxConcurrentStreams => [opts.maxConcurrentIncomingStreams.toNat]
  | initialReceiveWindowBytes =>
      [opts.initialReceiveWindow.toNat, opts.receiveStreamWindowSize.toNat,
        opts.receiveSessionWindowSize.toNat]
  | _ => []

/-- The integers that every type on the way of the setting can hold. -/
def Fits (f : IntSetting) (n : Int) : Prop :=
  match f with
  | listenerPort | targetPort _ => 0 ≤ n ∧ n < 2 ^ 16
  | listenBacklog | maxConcurrentStreams | initialReceiveWindowBytes => 0 ≤ n ∧ n < 2 ^ 31
  | _ => -2 ^ 31 ≤ n ∧ n < 2 ^ 31

variable {doc : Dynamic} {n : Int64}

theorem written_eq_some_iff {f : IntSetting} :
    f.written doc = some n ↔ doc.at? f.path = some (.int64 n) := by
  unfold written
  split
  · next m hm => simp [hm]
  · next hother =>
      constructor
      · intro h
        cases h
      · intro h
        exact absurd h (hother n)

/-! ### The first cast -/

theorem port_of_written {cfg : ListenerConfig} (h : ListenerConfig.fromJson doc = .ok cfg)
    (hw : listenerPort.written doc = some n) : cfg.port = castUInt16 n := by
  obtain ⟨spec, hspec, hport, -⟩ := ListenerConfig.readsInts h
  have hn : spec.field? "port" = some (.int64 n) := by
    simpa [path, Dynamic.at?, hspec] using written_eq_some_iff.mp hw
  exact hport.of_field hn

theorem maxConnections_of_written {cfg : ListenerConfig} (h : ListenerConfig.fromJson doc = .ok cfg)
    (hw : maxConnections.written doc = some n) :
    cfg.connection.map (·.maxConnections) = some (castInt32 n) := by
  obtain ⟨spec, hspec, -, hconnection⟩ := ListenerConfig.readsInts h
  have hat := written_eq_some_iff.mp hw
  simp only [path, Dynamic.at?, hspec, Option.bind_some, Option.bind_eq_some_iff] at hat
  obtain ⟨conn, hconn, v, hv, hn⟩ := hat
  obtain ⟨cc, hcc, hmax⟩ := hconnection.of_field hconn
  rw [hcc, Option.map_some, hmax.of_field (hv.trans hn)]

/-- The targets of a service are at the positions of their elements. -/
theorem target_of_at {svc : ServiceConfig} (h : ServiceConfig.fromJson doc = .ok svc) {j : Nat}
    {path : List JsonStep} {v : Dynamic}
    (hat : doc.at? ([.field "spec", .field "loadBalancing", .field "targets", .elem j] ++ path) = some v) :
    ∃ t target, t.at? path = some v ∧ svc.loadBalancing.targets[j]? = some target ∧
      LoadBalancingTarget.fromJson t = .ok target := by
  obtain ⟨spec, hspec, hsection⟩ := ServiceConfig.readsArrays h
  simp only [List.cons_append, List.nil_append, Dynamic.at?, hspec, Option.bind_some,
    Option.bind_eq_some_iff] at hat
  obtain ⟨lb, hlb, list, hlist, t, ht, hv⟩ := hat
  obtain ⟨elems, rfl, hj⟩ := Dynamic.elem?_eq_some_iff.mp ht
  obtain ⟨target, htarget, hread⟩ := (hsection.of_field hlb).getElem? hlist hj
  exact ⟨t, target, hv, htarget, hread⟩

/-- So are the destinations of a router. -/
theorem destination_of_at {router : RouterConfig} (h : RouterConfig.fromJson doc = .ok router) {j : Nat}
    {path : List JsonStep} {v : Dynamic}
    (hat : doc.at? ([.field "spec", .field "config", .field "destinations", .elem j] ++ path) = some v) :
    ∃ e dest, e.at? path = some v ∧ router.destinations[j]? = some dest ∧
      RouterDestination.fromJson e = .ok dest := by
  obtain ⟨spec, hspec, -, hsection, -⟩ := RouterConfig.readsArrays h
  simp only [List.cons_append, List.nil_append, Dynamic.at?, hspec, Option.bind_some,
    Option.bind_eq_some_iff] at hat
  obtain ⟨conf, hconf, list, hlist, e, he, hv⟩ := hat
  obtain ⟨elems, rfl, hj⟩ := Dynamic.elem?_eq_some_iff.mp he
  obtain ⟨dest, hdest, hread⟩ := (hsection.of_field hconf).getElem? hlist hj
  exact ⟨e, dest, hv, hdest, hread⟩

theorem targetPort_of_written {svc : ServiceConfig} (h : ServiceConfig.fromJson doc = .ok svc) {j : Nat}
    (hw : (targetPort j).written doc = some n) :
    svc.loadBalancing.targets[j]?.map (·.port) = some (castUInt16 n) := by
  obtain ⟨t, target, hv, htarget, hread⟩ := target_of_at h (written_eq_some_iff.mp hw)
  have hn : t.field? "port" = some (.int64 n) := by simpa [Dynamic.at?] using hv
  rw [htarget, Option.map_some, (LoadBalancingTarget.readsInts hread).1.of_field hn]

theorem targetWeight_of_written {svc : ServiceConfig} (h : ServiceConfig.fromJson doc = .ok svc) {j : Nat}
    (hw : (targetWeight j).written doc = some n) :
    svc.loadBalancing.targets[j]?.map (·.weight) = some (castInt32 n) := by
  obtain ⟨t, target, hv, htarget, hread⟩ := target_of_at h (written_eq_some_iff.mp hw)
  have hn : t.field? "weight" = some (.int64 n) := by simpa [Dynamic.at?] using hv
  rw [htarget, Option.map_some, (LoadBalancingTarget.readsInts hread).2.of_field hn]

theorem destinationWeight_of_written {router : RouterConfig} (h : RouterConfig.fromJson doc = .ok router)
    {j : Nat} (hw : (destinationWeight j).written doc = some n) :
    router.destinations[j]?.map (·.weight) = some (castInt32 n) := by
  obtain ⟨e, dest, hv, hdest, hread⟩ := destination_of_at h (written_eq_some_iff.mp hw)
  have hn : e.field? "weight" = some (.int64 n) := by simpa [Dynamic.at?] using hv
  rw [hdest, Option.map_some, (RouterDestination.readsWeight hread).of_field hn]

theorem order_of_written {pc : PolicyConfig} (h : PolicyConfig.fromJson doc = .ok pc)
    (hw : policyOrder.written doc = some n) : pc.spec.order = castInt32 n := by
  obtain ⟨spec, hspec, horder, -⟩ := PolicyConfig.readsInts h
  have hn : spec.field? "order" = some (.int64 n) := by
    simpa [path, Dynamic.at?, hspec] using written_eq_some_iff.mp hw
  exact horder.of_field hn

theorem cacheTtlSeconds_of_written {pc : PolicyConfig} (h : PolicyConfig.fromJson doc = .ok pc)
    (hw : cacheTtlSeconds.written doc = some n) :
    pc.jwt.map (·.cacheTtlSeconds) = some (castInt32 n) := by
  obtain ⟨spec, hspec, -, hsecurity⟩ := PolicyConfig.readsInts h
  have hat := written_eq_some_iff.mp hw
  simp only [path, Dynamic.at?, hspec, Option.bind_some, Option.bind_eq_some_iff] at hat
  obtain ⟨sec, hsec, jwt, hjwt, v, hv, hn⟩ := hat
  obtain ⟨secSpec, hsecSpec, hsection⟩ := hsecurity.of_field hsec
  obtain ⟨jwtCfg, hjwtCfg, httl⟩ := hsection.of_field hjwt
  rw [PolicyConfig.jwt, hsecSpec, Option.bind_some, hjwtCfg, Option.map_some,
    httl.of_field (hv.trans hn)]

/-- The server section of a gateway document was read from the object under
`server`. -/
theorem server_of_at {cfg : GatewayConfig} (h : GatewayConfig.fromJson doc = .ok cfg) {key : String}
    (hat : doc.at? [.field "spec", .field "server", .field key] = some (.int64 n)) :
    ∃ srv, srv.field? key = some (.int64 n) ∧ cfg.server.ReadsInts srv := by
  obtain ⟨spec, hspec, hserver⟩ := GatewayConfig.readsInts h
  simp only [Dynamic.at?, hspec, Option.bind_some, Option.bind_eq_some_iff] at hat
  obtain ⟨srv, hsrv, v, hv, hn⟩ := hat
  exact ⟨srv, hv.trans hn, hserver.of_field hsrv⟩

/-- The store a single document is loaded into. -/
def loaded (doc : Dynamic) : ConfigStore := (dispatchDocument doc {}).2

/-- The value of the first cast. -/
def narrowed (f : IntSetting) (n : Int64) : Int :=
  match f with
  | listenerPort | targetPort _ => (castUInt16 n).toNat
  | _ => (castInt32 n).toInt

/-- **The first cast.**  An accepted document stores the narrowed integer. -/
theorem stored_eq {f : IntSetting} (hkind : docKind doc = some (str f.kind))
    (hok : (dispatchDocument doc {}).1 = .ok ()) (hw : f.written doc = some n) :
    f.stored (loaded doc) = some (f.narrowed n) := by
  have hloaded : loaded doc = addDocument {} doc := dispatchDocument_eq doc {}
  obtain ⟨hlistener, hrouter, hservice, hgateway, hpolicy⟩ := parsed_of_ok hok
  -- the five tuning fields are read from one section of the gateway document
  have hserver {key : String} (hkind : docKind doc = some (str "Gateway"))
      (hat : doc.at? [.field "spec", .field "server", .field key] = some (.int64 n)) :
      ∃ cfg srv, gatewayOf doc = some cfg ∧ srv.field? key = some (.int64 n) ∧
        cfg.server.ReadsInts srv := by
    obtain ⟨cfg, hcfg⟩ := hgateway hkind
    obtain ⟨srv, hn, hreads⟩ := server_of_at (parsedAs_eq_some_iff.mp hcfg).2 hat
    exact ⟨cfg, srv, hcfg, hn, hreads⟩
  rw [hloaded]
  unfold addDocument
  cases f with
  | listenerPort =>
      obtain ⟨cfg, hcfg⟩ := hlistener hkind
      simp [stored, narrowed, hcfg, port_of_written (parsedAs_eq_some_iff.mp hcfg).2 hw]
  | maxConnections =>
      obtain ⟨cfg, hcfg⟩ := hlistener hkind
      have h := maxConnections_of_written (parsedAs_eq_some_iff.mp hcfg).2 hw
      obtain ⟨cc, hcc, hmax⟩ := Option.map_eq_some_iff.mp h
      simp [stored, narrowed, hcfg, hcc, hmax]
  | targetPort j =>
      obtain ⟨svc, hsvc⟩ := hservice hkind
      have h := targetPort_of_written (parsedAs_eq_some_iff.mp hsvc).2 hw
      obtain ⟨target, htarget, hport⟩ := Option.map_eq_some_iff.mp h
      simp [stored, narrowed, hsvc, htarget, hport]
  | targetWeight j =>
      obtain ⟨svc, hsvc⟩ := hservice hkind
      have h := targetWeight_of_written (parsedAs_eq_some_iff.mp hsvc).2 hw
      obtain ⟨target, htarget, hweight⟩ := Option.map_eq_some_iff.mp h
      simp [stored, narrowed, hsvc, htarget, hweight]
  | destinationWeight j =>
      obtain ⟨router, hcfg⟩ := hrouter hkind
      have h := destinationWeight_of_written (parsedAs_eq_some_iff.mp hcfg).2 hw
      obtain ⟨dest, hdest, hweight⟩ := Option.map_eq_some_iff.mp h
      simp [stored, narrowed, hcfg, hdest, hweight]
  | policyOrder =>
      obtain ⟨pc, hpc⟩ := hpolicy hkind
      simp [stored, narrowed, hpc, order_of_written (parsedAs_eq_some_iff.mp hpc).2 hw]
  | cacheTtlSeconds =>
      obtain ⟨pc, hpc⟩ := hpolicy hkind
      have h := cacheTtlSeconds_of_written (parsedAs_eq_some_iff.mp hpc).2 hw
      obtain ⟨jwtCfg, hjwtCfg, httl⟩ := Option.map_eq_some_iff.mp h
      simp [stored, narrowed, hpc, hjwtCfg, httl]
  | workerThreads =>
      obtain ⟨cfg, srv, hcfg, hn, hreads⟩ := hserver hkind (written_eq_some_iff.mp hw)
      simp [stored, narrowed, hcfg, hreads.workerThreads.of_field hn]
  | idleTimeoutMs =>
      obtain ⟨cfg, srv, hcfg, hn, hreads⟩ := hserver hkind (written_eq_some_iff.mp hw)
      simp [stored, narrowed, hcfg, hreads.idleTimeoutMs.of_field hn]
  | listenBacklog =>
      obtain ⟨cfg, srv, hcfg, hn, hreads⟩ := hserver hkind (written_eq_some_iff.mp hw)
      simp [stored, narrowed, hcfg, hreads.listenBacklog.of_field hn]
  | maxConcurrentStreams =>
      obtain ⟨cfg, srv, hcfg, hn, hreads⟩ := hserver hkind (written_eq_some_iff.mp hw)
      simp [stored, narrowed, hcfg, hreads.maxConcurrentStreams.of_field hn]
  | initialReceiveWindowBytes =>
      obtain ⟨cfg, srv, hcfg, hn, hreads⟩ := hserver hkind (written_eq_some_iff.mp hw)
      simp [stored, narrowed, hcfg, hreads.initialReceiveWindowBytes.of_field hn]

/-! ### The second cast -/

/-- The settings that are cast to an unsigned type by the server. -/
def IsUnsigned (f : IntSetting) : Prop :=
  f = listenBacklog ∨ f = maxConcurrentStreams ∨ f = initialReceiveWindowBytes

/-- **The second cast.**  The server options hold the stored integer, unless it is
negative and its type there is unsigned. -/
theorem passed_eq_iff {f : IntSetting} {store : ConfigStore} {v : Int} (h : f.stored store = some v)
    (hardwareConcurrency : UInt32) :
    (¬ (f = workerThreads ∧ v ≤ 0) →
      ∀ w ∈ f.passed (GatewayServer.options hardwareConcurrency store), w = v) ↔
    (f.IsUnsigned → 0 ≤ v) := by
  cases f with
  | workerThreads =>
      obtain ⟨gateway, hgateway, rfl⟩ := Option.map_eq_some_iff.mp h
      have hexact := @toUInt64_exact_iff gateway.server.workerThreads
      have hpositive : gateway.server.workerThreads > 0 ↔ 0 < gateway.server.workerThreads.toInt :=
        Int32.lt_iff_toInt_lt
      simp only [passed, GatewayServer.options, GatewayServer.tuning, hgateway, castSize, hpositive,
        List.mem_singleton, forall_eq, IsUnsigned]
      constructor
      · intro _ hunsigned
        rcases hunsigned with h' | h' | h' <;> cases h'
      · intro _ hne
        have hpos : 0 < gateway.server.workerThreads.toInt := by
          by_contra hle
          exact hne ⟨trivial, by omega⟩
        rw [if_pos hpos]
        omega
  | idleTimeoutMs =>
      obtain ⟨gateway, hgateway, rfl⟩ := Option.map_eq_some_iff.mp h
      simp [passed, GatewayServer.options, GatewayServer.tuning, hgateway, IsUnsigned]
  | listenBacklog =>
      obtain ⟨gateway, hgateway, rfl⟩ := Option.map_eq_some_iff.mp h
      simp [passed, GatewayServer.options, GatewayServer.tuning, hgateway, IsUnsigned,
        toUInt32_exact_iff]
  | maxConcurrentStreams =>
      obtain ⟨gateway, hgateway, rfl⟩ := Option.map_eq_some_iff.mp h
      simp [passed, GatewayServer.options, GatewayServer.tuning, hgateway, IsUnsigned,
        toUInt32_exact_iff]
  | initialReceiveWindowBytes =>
      obtain ⟨gateway, hgateway, rfl⟩ := Option.map_eq_some_iff.mp h
      simp [passed, GatewayServer.options, GatewayServer.tuning, hgateway, IsUnsigned, castSize,
        toUInt64_exact_iff]
  | _ => simp [passed, IsUnsigned]

theorem fits_iff {f : IntSetting} :
    f.Fits n.toInt ↔ f.narrowed n = n.toInt ∧ (f.IsUnsigned → 0 ≤ n.toInt) := by
  have hport : ((castUInt16 n).toNat : Int) = n.toInt ↔ 0 ≤ n.toInt ∧ n.toInt < 2 ^ 16 :=
    toUInt16_exact_iff
  have hint : (castInt32 n).toInt = n.toInt ↔ -2 ^ 31 ≤ n.toInt ∧ n.toInt < 2 ^ 31 :=
    toInt32_exact_iff
  cases f <;> simp only [Fits, narrowed, IsUnsigned, hport, hint, reduceCtorEq, or_false, or_true,
    false_implies, true_implies, and_true] <;> omega

end IntSetting

/-- Every integer an accepted document writes is the one the configuration holds,
and the one the server is started with (a number of worker threads that asks for
the automatic choice apart). -/
def IntegersSurvive (hardwareConcurrency : UInt32) (doc : Dynamic) : Prop :=
  ∀ (f : IntSetting) (n : Int64), docKind doc = some (str f.kind) →
    (dispatchDocument doc {}).1 = .ok () → f.written doc = some n →
    f.stored (IntSetting.loaded doc) = some n.toInt ∧
      (¬ (f = .workerThreads ∧ n.toInt ≤ 0) →
        ∀ v ∈ f.passed (GatewayServer.options hardwareConcurrency (IntSetting.loaded doc)), v = n.toInt)

/-- Every integer an accepted document writes is in the range of its setting. -/
def IntegersFit (doc : Dynamic) : Prop :=
  ∀ (f : IntSetting) (n : Int64), docKind doc = some (str f.kind) →
    (dispatchDocument doc {}).1 = .ok () → f.written doc = some n → f.Fits n.toInt

/-- Two policies run in the order their documents write. -/
def OrderAsWritten (doc₁ doc₂ : Dynamic) : Prop :=
  ∀ pc₁ pc₂ n₁ n₂, (dispatchDocument doc₁ {}).1 = .ok () → (dispatchDocument doc₂ {}).1 = .ok () →
    policyOf doc₁ = some pc₁ → policyOf doc₂ = some pc₂ →
    IntSetting.policyOrder.written doc₁ = some n₁ → IntSetting.policyOrder.written doc₂ = some n₂ →
    (pc₁.spec.order < pc₂.spec.order ↔ n₁ < n₂)

theorem integersSurvive_iff_fit (hardwareConcurrency : UInt32) (doc : Dynamic) :
    IntegersSurvive hardwareConcurrency doc ↔ IntegersFit doc := by
  unfold IntegersSurvive IntegersFit
  refine forall_congr' fun f => forall_congr' fun n => forall_congr' fun hkind =>
    forall_congr' fun hok => forall_congr' fun hw => ?_
  have hstored := IntSetting.stored_eq hkind hok hw
  rw [IntSetting.fits_iff, hstored, Option.some.injEq]
  -- the second cast matters only when the first changed nothing
  refine and_congr_right fun hexact => ?_
  rw [← hexact]
  exact IntSetting.passed_eq_iff hstored hardwareConcurrency

theorem orderAsWritten_of_fit {doc₁ doc₂ : Dynamic} (h₁ : IntegersFit doc₁) (h₂ : IntegersFit doc₂) :
    OrderAsWritten doc₁ doc₂ := by
  intro pc₁ pc₂ n₁ n₂ hok₁ hok₂ hpc₁ hpc₂ hw₁ hw₂
  obtain ⟨hkind₁, hfrom₁⟩ := parsedAs_eq_some_iff.mp hpc₁
  obtain ⟨hkind₂, hfrom₂⟩ := parsedAs_eq_some_iff.mp hpc₂
  have hfit₁ := (IntSetting.fits_iff.mp (h₁ .policyOrder n₁ hkind₁ hok₁ hw₁)).1
  have hfit₂ := (IntSetting.fits_iff.mp (h₂ .policyOrder n₂ hkind₂ hok₂ hw₂)).1
  change (castInt32 n₁).toInt = n₁.toInt at hfit₁
  change (castInt32 n₂).toInt = n₂.toInt at hfit₂
  rw [IntSetting.order_of_written hfrom₁ hw₁, IntSetting.order_of_written hfrom₂ hw₂,
    Int32.lt_iff_toInt_lt, Int64.lt_iff_toInt_lt, hfit₁, hfit₂]

/-- **Integer settings survive narrowing exactly when they fit.**  For any two
documents: what they write is what the configuration and the server hold, and two
policies keep their relative order, if and only if every integer of an accepted
document is in the range of its setting: ports in 16 bits unsigned, everything else
in 32 bits signed, and backlog, streams and window not negative. -/
theorem integers_survive_iff (hardwareConcurrency : UInt32) (doc₁ doc₂ : Dynamic) :
    (IntegersSurvive hardwareConcurrency doc₁ ∧ IntegersSurvive hardwareConcurrency doc₂ ∧
      OrderAsWritten doc₁ doc₂) ↔ (IntegersFit doc₁ ∧ IntegersFit doc₂) := by
  rw [integersSurvive_iff_fit, integersSurvive_iff_fit]
  constructor
  · rintro ⟨h₁, h₂, -⟩
    exact ⟨h₁, h₂⟩
  · rintro ⟨h₁, h₂⟩
    exact ⟨h₁, h₂, orderAsWritten_of_fit h₁ h₂⟩

namespace Sample

/-- A service whose target listens on port 65616, which is 80 in 16 bits. -/
def wrappedPortDoc : Dynamic :=
  .object [(str "kind", .string (str "Service")),
    (str "spec", .object [(str "loadBalancing", .object [(str "targets",
      .array [.object [(str "host", .string (str "10.0.0.1")), (str "port", .int64 65616)]])])])]

end Sample

/-- The port of the sample is accepted and silently becomes another port. -/
theorem wrapped_port_changes :
    (dispatchDocument Sample.wrappedPortDoc {}).1 = .ok () ∧
      (IntSetting.targetPort 0).written Sample.wrappedPortDoc = some 65616 ∧
      (IntSetting.targetPort 0).stored (IntSetting.loaded Sample.wrappedPortDoc) = some 80 ∧
      ¬ IntegersSurvive 8 Sample.wrappedPortDoc := by
  have hstored : (IntSetting.targetPort 0).stored (IntSetting.loaded Sample.wrappedPortDoc) = some 80 :=
    rfl
  refine ⟨rfl, rfl, hstored, ?_⟩
  intro hsurvive
  have hsame := (hsurvive (.targetPort 0) 65616 rfl rfl rfl).1
  rw [hstored] at hsame
  cases hsame

end Kimchi
