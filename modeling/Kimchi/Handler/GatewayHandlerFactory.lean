import Kimchi.Handler.GatewayHandler
import Kimchi.Handler.RoutingTables
import Kimchi.Library.FirstHit
import Kimchi.Policy.PolicyEngine

/-!
# Dispatch

`GatewayHandlerFactory` of `handler/gateway_handler_factory.cpp`: the constructor
builds the routing tables and resolves the targets of every service once;
`onRequest` matches a router, finds the service of its first destination and returns
a handler for the request, either one that answers by itself or a filter chain
around a `GatewayHandler`.

`onRequest_eq_chain_iff` says when a chain is returned, and which one.
-/

namespace Kimchi

open Config Library

/-- The outcome of `addr.setFromHostPort(host, port)` for the `j`-th target of the `i`-th
service: an address, or an exception. -/
abbrev Resolver := Nat → Nat → Str → UInt16 → Option SocketAddress

/-- A service and the addresses of its targets that resolved. -/
structure CachedService where
  config : ServiceConfig
  addrs : List SocketAddress
  deriving DecidableEq, Repr

/-- `serviceCache_`. -/
abbrev ServiceCache := AList fun _ : Str => CachedService

/-- The targets of a service that resolve, in order; the others are skipped with a
warning. -/
def cachedService (dns : Resolver) (svc : ServiceConfig) (i : Nat) : CachedService :=
  { config := svc
    addrs := svc.loadBalancing.targets.zipIdx.filterMap fun (t, j) => dns i j t.host t.port }

/-- The loop over the services; `serviceCache_.emplace` leaves an entry that is already
there. -/
def buildServiceCache (dns : Resolver) (services : List ServiceConfig) : ServiceCache :=
  services.zipIdx.foldl (fun cache (svc, i) => emplace cache svc.metadata.name (cachedService dns svc i)) ∅

/-- What the factory takes from outside the repository: `std::sort` at its two
comparators, `std::regex` and the resolver. -/
structure Platform (ρ : Type*) where
  prefixSort : UnstableSort longerFirst
  orderSort : UnstableSort PolicyEngine.orderBefore
  re : RegexLib ρ
  dns : Resolver

/-- `GatewayHandlerFactory`, with its configuration by value. -/
structure GatewayHandlerFactory (ρ : Type*) where
  store : ConfigStore
  engine : PolicyEngine
  tables : RoutingTables ρ
  serviceCache : ServiceCache

/-- `NotFoundHandler::onRequest`. -/
def notFoundResponse : Response :=
  jsonResponse 404 "Not Found" (errorBody "not_found" "no route matched")

/-- `BadGatewayHandler::onRequest`. -/
def badGatewayResponse (msg : Str) : Response := jsonResponse 502 "Bad Gateway" msg

/-- The handler the factory returns for a request. -/
inductive Dispatch where
  | notFound
  | badGateway (msg : Str)
  | chain (head : RequestHandler GatewayHandler)
  deriving Repr

namespace GatewayHandlerFactory

variable {ρ : Type*}

/-- The constructor. -/
def new (platform : Platform ρ) (store : ConfigStore) (jwksCaches : JwksCaches) : GatewayHandlerFactory ρ :=
  { store := store
    engine := { store := store, jwksCaches := jwksCaches }
    tables := .build platform.prefixSort platform.re store.routers
    serviceCache := buildServiceCache platform.dns store.services }

/-- The router a request is matched to. -/
def matchedRouter (platform : Platform ρ) (factory : GatewayHandlerFactory ρ) (msg : HTTPMessage) :
    Option RouterConfig :=
  (factory.tables.matched platform.re msg.path msg.method).bind fun i => factory.store.routers[i]?

/-- `GatewayHandlerFactory::onRequest`. -/
def onRequest (platform : Platform ρ) (factory : GatewayHandlerFactory ρ) (msg : HTTPMessage) : Dispatch :=
  match factory.matchedRouter platform msg with
  | none => .notFound
  | some matched =>
      match matched.destinations with
      | [] => .badGateway (errorBody "bad_gateway" "router has no destinations")
      | destination :: _ =>
          -- only the first destination is ever used
          match factory.serviceCache.lookup destination.destinationName with
          | none => .badGateway (errorBody "bad_gateway" "upstream service not configured")
          | some cached =>
              match cached.addrs with
              | [] =>
                  -- no target of the service resolved at start-up
                  .badGateway (errorBody "bad_gateway" "upstream service not configured")
              | addr :: _ =>
                  .chain (factory.engine.buildChain platform.orderSort matched
                    { router := matched, service := cached.config, upstreamAddr := addr })

/-- **When a chain is returned:** a router matched, it has a destination, and the
service of the first one has an address. -/
theorem onRequest_eq_chain_iff {platform : Platform ρ} {factory : GatewayHandlerFactory ρ}
    {msg : HTTPMessage} {chain : RequestHandler GatewayHandler} :
    factory.onRequest platform msg = .chain chain ↔
      ∃ router destination cached addr, factory.matchedRouter platform msg = some router ∧
        router.destinations.head? = some destination ∧
        factory.serviceCache.lookup destination.destinationName = some cached ∧
        cached.addrs.head? = some addr ∧
        chain = factory.engine.buildChain platform.orderSort router
          { router := router, service := cached.config, upstreamAddr := addr } := by
  unfold onRequest
  cases hmatched : factory.matchedRouter platform msg with
  | none => simp
  | some router =>
      cases hdestinations : router.destinations with
      | nil => simp [hdestinations]
      | cons destination rest =>
          cases hcached : factory.serviceCache.lookup destination.destinationName with
          | none => simp [hdestinations, hcached]
          | some cached =>
              cases haddrs : cached.addrs with
              | nil => simp [hdestinations, hcached, haddrs]
              | cons addr addrs => simp [hdestinations, hcached, haddrs, eq_comm]

end GatewayHandlerFactory

end Kimchi
