import Kimchi.Library.SharedPtr
import Kimchi.Server.PlaneRefinement

/-!
# Pointers into the shared configuration

`main` puts the loaded configuration on the heap and shares it: `SharedConfig::current`,
`GatewayHandlerFactory::store_` and `PolicyEngine::store_` own it jointly.  The service
cache of the factory and every `GatewayHandler` hold a plain `const ServiceConfig*` into
it, which owns nothing.  A reload makes a new store and drops the old one from
`current`.

`Deployment.process` is the process over these pointers; reading through one whose
store is gone has no result.

* `Holds` — the owners of the stores, and what each of them reads; every operation of
  the process keeps it.
* `process_refines` — the process over pointers follows the process over values.
-/

namespace Kimchi

open Config Library

/-- `const config::ServiceConfig*`: a service of the store at an address. -/
structure ServicePtr where
  store : Nat
  index : Nat
  deriving DecidableEq, Repr

/-- Reading through the pointer is undefined once the store is gone. -/
def ServicePtr.deref (heap : RcHeap ConfigStore) (p : ServicePtr) : Option ServiceConfig :=
  (heap.deref p.store).bind fun store => store.services[p.index]?

/-! ## Handlers -/

/-- `GatewayHandler` as it is in memory: a copy of the router, a pointer to the
service. -/
structure GatewayHandlerRef where
  router : RouterConfig
  service : ServicePtr
  upstreamAddr : SocketAddress
  requestHeaders : Option HTTPMessage := none
  requestBody : Option Str := none
  deriving DecidableEq, Repr

namespace GatewayHandlerRef

/-- The handler with the service its pointer leads to. -/
def withService (h : GatewayHandlerRef) (service : ServiceConfig) : GatewayHandler :=
  { router := h.router
    service := service
    upstreamAddr := h.upstreamAddr
    requestHeaders := h.requestHeaders
    requestBody := h.requestBody }

/-- One event; `onEOM` is the only callback that reads through `service_`. -/
def step (heap : RcHeap ConfigStore) (h : GatewayHandlerRef) :
    RequestEvent → Option (GatewayHandlerRef × List HandlerEffect)
  | .onRequest req => some ({ h with requestHeaders := some req }, [])
  | .stream (.onBody body) =>
      some ({ h with requestBody := some (match h.requestBody with
        | none => body
        | some chain => chain ++ body) }, [])
  | .stream (.onUpgrade _) => some (h, GatewayHandler.onUpgrade.sent)
  | .stream .onEOM => do
      let service ← h.service.deref heap
      let (_, client) ← (h.withService service).onEOM
      return ({ h with requestBody := none }, [.connect h.upstreamAddr client])

/-- The handler as a machine over a heap. -/
def machine (heap : RcHeap ConfigStore) : PartialMachine GatewayHandlerRef RequestEvent HandlerEffect :=
  ⟨step heap⟩

end GatewayHandlerRef

/-! ## The factory -/

/-- `CachedService`. -/
structure CachedServiceRef where
  config : ServicePtr
  addrs : List SocketAddress
  deriving DecidableEq, Repr

/-- `serviceCache_`. -/
abbrev ServiceCacheRef := AList fun _ : Str => CachedServiceRef

/-- `&svc` and the addresses that resolve. -/
def cachedServiceRef (dns : Resolver) (store : Nat) (svc : ServiceConfig) (i : Nat) : CachedServiceRef :=
  { config := ⟨store, i⟩
    addrs := svc.loadBalancing.targets.zipIdx.filterMap fun (t, j) => dns i j t.host t.port }

/-- The loop over the services. -/
def buildServiceCacheRef (dns : Resolver) (store : Nat) (services : List ServiceConfig) : ServiceCacheRef :=
  services.zipIdx.foldl
    (fun cache (svc, i) => emplace cache svc.metadata.name (cachedServiceRef dns store svc i)) ∅

/-- `GatewayHandlerFactory` as it is in memory: `store_` and `engine_.store_` are shared
pointers, the cache holds pointers into the store. -/
structure FactoryRef (ρ : Type) where
  store : Nat
  engineStore : Nat
  jwksCaches : JwksCaches
  tables : RoutingTables ρ
  serviceCache : ServiceCacheRef

namespace FactoryRef

variable {ρ : Type}

/-- The constructor, which reads the routers and services of the store. -/
def new (platform : Platform ρ) (heap : RcHeap ConfigStore) (store : Nat) (jwksCaches : JwksCaches) :
    Option (FactoryRef ρ) :=
  (heap.deref store).map fun config =>
    { store := store
      engineStore := store
      jwksCaches := jwksCaches
      tables := .build platform.prefixSort platform.re config.routers
      serviceCache := buildServiceCacheRef platform.dns store config.services }

/-- `GatewayHandlerFactory::onRequest`, with every read through `store_`. -/
def onRequest (platform : Platform ρ) (heap : RcHeap ConfigStore) (factory : FactoryRef ρ) (msg : HTTPMessage) :
    Option (Serving GatewayHandlerRef) :=
  match factory.tables.matched platform.re msg.path msg.method with
  | none => some .notFound
  | some routerIndex => do
      let store ← heap.deref factory.store
      -- `&store_->routers[r.routerIndex]`
      let matched ← store.routers[routerIndex]?
      match matched.destinations with
      | [] => some (.badGateway (errorBody "bad_gateway" "router has no destinations"))
      | destination :: _ =>
          match factory.serviceCache.lookup destination.destinationName with
          | none => some (.badGateway (errorBody "bad_gateway" "upstream service not configured"))
          | some cached =>
              match cached.addrs with
              | [] => some (.badGateway (errorBody "bad_gateway" "upstream service not configured"))
              | addr :: _ => do
                  let policies ← heap.deref factory.engineStore
                  let engine : PolicyEngine := { store := policies, jwksCaches := factory.jwksCaches }
                  some (.chain (engine.buildChain platform.orderSort matched
                    { router := matched, service := cached.config, upstreamAddr := addr }))

end FactoryRef

/-! ## The process -/

/-- What the sessions share. -/
structure ProcessState (ℓ : Type) where
  heap : RcHeap ConfigStore
  current : Nat
  limiter : ℓ

namespace Deployment

variable {ρ ℓ : Type} (d : Deployment ρ ℓ)

/-- `main` after start-up: `current` owns the store, `GatewayServer` is given a copy of
the pointer, and the constructor of the factory makes two more and drops the one it was
given. -/
def boot (l : ℓ) : Option (ProcessState ℓ × FactoryRef ρ) := do
  let (heap, current) := RcHeap.make {} d.store
  -- the argument of `GatewayServer`, moved on to the factory
  let heap := heap.copy current
  -- `store_`
  let heap := heap.copy current
  -- `engine_.store_`
  let heap := heap.copy current
  let factory ← FactoryRef.new d.platform heap current d.jwksCaches
  return ({ heap := heap.drop current, current := current, limiter := l }, factory)

/-- `POST /config/reload`: the assignment to `current` drops the store it held. -/
def reload (s : ProcessState ℓ) (dir : ConfigDir) : ProcessState ℓ × Response :=
  match loadFromDirectory d.parseJson dir with
  | .ok newStore =>
      let (heap, p) := s.heap.make newStore
      ({ s with heap := heap.drop s.current, current := p }, AdminHandler.reloaded)
  | .error what => (s, AdminHandler.reloadFailed what)

/-- The process over pointers. -/
def process (factory : FactoryRef ρ) : Plane (ProcessState ℓ) GatewayHandlerRef where
  env s rand64 := d.env s.limiter rand64
  charge s keys := { s with limiter := d.limiter.charge s.limiter keys }
  dispatch s msg := factory.onRequest d.platform s.heap msg
  terminal s := GatewayHandlerRef.machine s.heap
  reload := d.reload

end Deployment

/-! ## The cache of pointers -/

theorem lookup_buildServiceCacheRef (dns : Resolver) (store : Nat) (services : List ServiceConfig) (name : Str) :
    (buildServiceCacheRef dns store services).lookup name =
      (services.zipIdx.find? fun (svc, _) => svc.metadata.name = name).map
        fun (svc, i) => cachedServiceRef dns store svc i := by
  have hrun := lookup_foldl_emplace (fun entry : ServiceConfig × Nat => entry.1.metadata.name)
    (fun entry => cachedServiceRef dns store entry.1 entry.2) services.zipIdx ∅ name
  rw [AList.lookup_empty, Option.none_or] at hrun
  exact hrun

/-! ## The process over pointers follows the process over values -/

namespace Deployment

variable {ρ ℓ : Type} {d : Deployment ρ ℓ} {factory : FactoryRef ρ}

/-- The factory was built from the store of start-up. -/
structure Built (d : Deployment ρ ℓ) (factory : FactoryRef ρ) : Prop where
  engineStore : factory.engineStore = factory.store
  jwksCaches : factory.jwksCaches = d.jwksCaches
  tables : factory.tables = .build d.platform.prefixSort d.platform.re d.store.routers
  serviceCache : factory.serviceCache = buildServiceCacheRef d.platform.dns factory.store d.store.services

/-- The owners of the stores, and what each of them reads. -/
structure Holds (d : Deployment ρ ℓ) (factory : FactoryRef ρ) (s : ProcessState ℓ) (s' : State ℓ) : Prop where
  owned : s.heap.Owned [s.current, factory.store, factory.engineStore]
  store : s.heap.deref factory.store = some d.store
  engineStore : s.heap.deref factory.engineStore = some d.store
  current : s.heap.deref s.current = some s'.shared.current
  limiter : s.limiter = s'.limiter

/-- A handler whose pointer leads to the service of another one, which is the same
otherwise. -/
structure PointsTo (d : Deployment ρ ℓ) (factory : FactoryRef ρ) (h : GatewayHandlerRef) (h' : GatewayHandler) :
    Prop where
  store : h.service.store = factory.store
  service : d.store.services[h.service.index]? = some h'.service
  same : h' = h.withService h'.service

theorem PointsTo.deref {h : GatewayHandlerRef} {h' : GatewayHandler} (hpoints : d.PointsTo factory h h')
    {heap : RcHeap ConfigStore} (hstore : heap.deref factory.store = some d.store) :
    h.service.deref heap = some h'.service := by
  rw [ServicePtr.deref, hpoints.store, hstore, Option.bind_some, hpoints.service]

/-- As long as the store is there, a handler with a pointer does what a handler with
the service does. -/
theorem follows_machine {heap : RcHeap ConfigStore} (hstore : heap.deref factory.store = some d.store) :
    Follows (d.PointsTo factory) (GatewayHandlerRef.machine heap) GatewayHandler.machine := by
  intro h h' ev hpoints
  obtain ⟨router, service, upstreamAddr, requestHeaders, requestBody⟩ := h'
  have hsame := hpoints.same
  simp only [GatewayHandlerRef.withService, GatewayHandler.mk.injEq] at hsame
  obtain ⟨rfl, -, rfl, rfl, rfl⟩ := hsame
  cases ev with
  | onRequest req => exact .some ⟨⟨hpoints.store, hpoints.service, rfl⟩, rfl⟩
  | stream ev =>
      cases ev with
      | onBody body => exact .some ⟨⟨hpoints.store, hpoints.service, rfl⟩, rfl⟩
      | onUpgrade prot => exact .some ⟨hpoints, rfl⟩
      | onEOM =>
          have hderef := hpoints.deref hstore
          simp only [GatewayHandlerRef.machine, GatewayHandler.machine, GatewayHandlerRef.step, GatewayHandler.step,
            hderef, Option.bind_eq_bind, Option.bind_some, GatewayHandlerRef.withService]
          cases heom : GatewayHandler.onEOM (GatewayHandler.mk h.router service h.upstreamAddr h.requestHeaders
              h.requestBody) with
          | none => exact .none
          | some next =>
              obtain ⟨left, client⟩ := next
              -- the handler that is left differs in its body alone
              have hleft : left = GatewayHandler.mk h.router service h.upstreamAddr h.requestHeaders none := by
                simp only [GatewayHandler.onEOM, Option.bind_eq_bind, Option.bind_eq_some_iff, Option.pure_def,
                  Option.some.injEq, Prod.mk.injEq] at heom
                obtain ⟨dest, -, target, -, req, -, hleft, -⟩ := heom
                exact hleft.symm
              subst hleft
              exact .some ⟨⟨hpoints.store, hpoints.service, rfl⟩, rfl⟩

/-- The factory with pointers dispatches as the factory with values does. -/
theorem dispatch_rel (hbuilt : d.Built factory) {s : ProcessState ℓ} {s' : State ℓ} (h : d.Holds factory s s')
    (msg : HTTPMessage) :
    Option.Rel (Serving.Rel (d.PointsTo factory)) (factory.onRequest d.platform s.heap msg)
      (some (d.factory.onRequest d.platform msg).serving) := by
  have hspec := RoutingTables.matched_spec d.platform.prefixSort d.platform.re d.store.routers msg.path msg.method
  unfold FactoryRef.onRequest
  rw [hbuilt.tables]
  cases hmatched : (RoutingTables.build d.platform.prefixSort d.platform.re d.store.routers).matched d.platform.re
      msg.path msg.method with
  | none =>
      have hnone : d.factory.matchedRouter d.platform msg = none := by
        simp [GatewayHandlerFactory.matchedRouter, Deployment.factory, GatewayHandlerFactory.new, hmatched]
      simp only [GatewayHandlerFactory.onRequest, hnone]
      exact .some .notFound
  | some i =>
      rw [hmatched] at hspec
      obtain ⟨router, hrouter⟩ : ∃ router, d.store.routers[i]? = some router :=
        ⟨_, List.getElem?_eq_getElem hspec.lt_length⟩
      have hsome : d.factory.matchedRouter d.platform msg = some router := by
        simp [GatewayHandlerFactory.matchedRouter, Deployment.factory, GatewayHandlerFactory.new, hmatched, hrouter]
      have hcache (name : Str) : d.factory.serviceCache.lookup name =
          (d.store.services.zipIdx.find? fun (svc, _) => svc.metadata.name = name).map
            fun (svc, i) => cachedService d.platform.dns svc i := lookup_buildServiceCache _ _ name
      simp only [GatewayHandlerFactory.onRequest, hsome, h.store, hrouter, Option.bind_eq_bind, Option.bind_some,
        hbuilt.serviceCache, hcache, lookup_buildServiceCacheRef]
      cases router.destinations with
      | nil => exact .some (.badGateway _)
      | cons destination rest =>
          simp only
          cases hfind : d.store.services.zipIdx.find? fun (svc, _) =>
              svc.metadata.name = destination.destinationName with
          | none => exact .some (.badGateway _)
          | some entry =>
              obtain ⟨svc, j⟩ := entry
              have hsvc : d.store.services[j]? = some svc :=
                List.mem_zipIdx_iff_getElem?.mp (List.mem_of_find?_eq_some hfind)
              simp only [Option.map_some, cachedServiceRef, cachedService]
              cases svc.loadBalancing.targets.zipIdx.filterMap fun (t, k) => d.platform.dns j k t.host t.port with
              | nil => exact .some (.badGateway _)
              | cons addr addrs =>
                  simp only [h.engineStore, Option.bind_some, hbuilt.jwksCaches, PolicyEngine.buildChain_eq]
                  exact .some (.chain (.ofFilters _ ⟨rfl, hsvc, rfl⟩))

/-- A reload keeps the owners in order and does not touch what the factory reads. -/
theorem holds_reload {s : ProcessState ℓ} {s' : State ℓ} (h : d.Holds factory s s') (dir : ConfigDir) :
    d.Holds factory (d.reload s dir).1 (d.plane.reload s' dir).1 ∧
      (d.reload s dir).2 = (d.plane.reload s' dir).2 := by
  simp only [reload, plane, AdminHandler.reload]
  cases loadFromDirectory d.parseJson dir with
  | error what => exact ⟨h, rfl⟩
  | ok newStore =>
      refine ⟨?_, rfl⟩
      -- the new store is owned by `current` alone, and the old one loses an owner
      have hmade : (s.heap.make newStore).1.Owned
          (s.current :: [(s.heap.make newStore).2, factory.store, factory.engineStore]) :=
        (h.owned.make newStore).of_perm (List.Perm.swap _ _ _)
      have hreads {q : Nat} (hq : q ∈ [factory.store, factory.engineStore]) :
          ((s.heap.make newStore).1.drop s.current).deref q = s.heap.deref q := by
        have howner : q ∈ [s.current, factory.store, factory.engineStore] := List.mem_cons_of_mem _ hq
        have hne : q ≠ s.heap.fresh := Nat.ne_of_lt (h.owned.lt_fresh howner)
        rw [hmade.deref_drop (List.mem_cons_of_mem _ hq), RcHeap.deref_make_of_ne hne]
      exact {
        owned := hmade.drop
        store := (hreads (by simp)).trans h.store
        engineStore := (hreads (by simp)).trans h.engineStore
        current := by
          show ((s.heap.make newStore).1.drop s.current).deref (s.heap.make newStore).2 = some newStore
          rw [hmade.deref_drop (by simp), RcHeap.deref_make_self]
        limiter := h.limiter }

/-- **The process over pointers refines the process over values.** -/
theorem process_refines (hbuilt : d.Built factory) :
    (d.process factory).Refines d.plane (d.Holds factory) (d.PointsTo factory) where
  env := by
    intro s s' rand64 h
    show d.env s.limiter rand64 = d.env s'.limiter rand64
    rw [h.limiter]
  charge := by
    intro s s' keys h
    have hlimiter : d.limiter.charge s.limiter keys = d.limiter.charge s'.limiter keys := by rw [h.limiter]
    exact ⟨h.owned, h.store, h.engineStore, h.current, hlimiter⟩
  dispatch := by
    intro s s' msg h
    exact dispatch_rel hbuilt h msg
  terminal := by
    intro s s' h
    exact follows_machine h.store
  reload := by
    intro s s' dir h
    exact holds_reload h dir

/-- What `main` builds: three owners, all of the store of start-up. -/
theorem exists_boot (d : Deployment ρ ℓ) (l : ℓ) :
    ∃ s factory, d.boot l = some (s, factory) ∧ d.Built factory ∧ d.Holds factory s (d.start l) := by
  have h₁ : (RcHeap.make {} d.store).1.Owned [(RcHeap.make {} d.store).2] := RcHeap.owned_empty.make d.store
  generalize hmade : RcHeap.make {} d.store = made at h₁
  have hread : made.1.deref made.2 = some d.store := by
    rw [← hmade]
    exact RcHeap.deref_make_self
  have h₂ := h₁.copy List.mem_cons_self
  have h₃ := h₂.copy List.mem_cons_self
  have h₄ := h₃.copy List.mem_cons_self
  have hcopied : (((made.1.copy made.2).copy made.2).copy made.2).deref made.2 = some d.store := by
    rw [RcHeap.deref_copy, RcHeap.deref_copy, RcHeap.deref_copy, hread]
  have hkept : ((((made.1.copy made.2).copy made.2).copy made.2).drop made.2).deref made.2 = some d.store := by
    rw [h₄.deref_drop List.mem_cons_self, hcopied]
  have hboot : d.boot l =
      some ({ heap := (((made.1.copy made.2).copy made.2).copy made.2).drop made.2, current := made.2, limiter := l },
        { store := made.2
          engineStore := made.2
          jwksCaches := d.jwksCaches
          tables := .build d.platform.prefixSort d.platform.re d.store.routers
          serviceCache := buildServiceCacheRef d.platform.dns made.2 d.store.services }) := by
    simp only [boot, hmade, FactoryRef.new, hcopied, Option.map_some, Option.bind_eq_bind, Option.bind_some]
    rfl
  exact ⟨_, _, hboot, ⟨rfl, rfl, rfl, rfl⟩, ⟨h₄.drop, hkept, hkept, hkept, rfl⟩⟩

end Deployment

end Kimchi
