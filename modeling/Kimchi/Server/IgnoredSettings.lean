import Kimchi.Server.ProcessRuns

/-!
# Settings without an effect

The loader reads more than the process uses.  `ConfigStore.effective` keeps what the
handling of a request reads and puts the default of `models.h` everywhere else: the
gateway section and the listeners, the weight of a destination and all destinations
after the first, `targetRef`, the load-balancing algorithm and the weight of a target,
and the `apiVersion` and `kind` of routers and services.

A factory over the effective part is followed by the factory over the whole
(`plane_refines_effective`), so no interleaving of sessions can tell two configurations
with the same effective part apart (`outputs_eq_of_effective_eq`).
-/

namespace Kimchi

open Config Library

/-! ## What a request reads -/

namespace Config

/-- The host and the port: the weight is not used. -/
def LoadBalancingTarget.effective (t : LoadBalancingTarget) : LoadBalancingTarget :=
  { host := t.host, port := t.port }

/-- The name, the protocol and the targets: the algorithm is not used. -/
def ServiceConfig.effective (svc : ServiceConfig) : ServiceConfig :=
  { metadata := svc.metadata
    protocol := svc.protocol
    loadBalancing := { targets := svc.loadBalancing.targets.map LoadBalancingTarget.effective } }

/-- The name and the rewrite: kind and weight are not used. -/
def RouterDestination.effective (dest : RouterDestination) : RouterDestination :=
  { destinationName := dest.destinationName, rewrite := dest.rewrite }

/-- The rules, the policies and the first destination. -/
def RouterConfig.effective (router : RouterConfig) : RouterConfig :=
  { rules := router.rules
    destinations := (router.destinations.take 1).map RouterDestination.effective
    policies := router.policies }

/-- The routers, services and policies, as far as requests read them. -/
def ConfigStore.effective (store : ConfigStore) : ConfigStore :=
  { routers := store.routers.map RouterConfig.effective
    services := store.services.map ServiceConfig.effective
    policies := store.policies }

end Config

/-! ## The factory -/

/-- The routing tables are built from the rules. -/
theorem RoutingTables.build_effective {ρ : Type*} (sort : UnstableSort longerFirst) (re : RegexLib ρ)
    (routers : List RouterConfig) : build sort re (routers.map RouterConfig.effective) = build sort re routers := by
  have hadd : addRouters re (routers.map RouterConfig.effective) = addRouters re routers := by
    unfold addRouters
    rw [List.zipIdx_map, List.foldl_map]
    rfl
  unfold build
  rw [hadd]

/-- The cached service over the effective part of its configuration. -/
def CachedService.effective (cached : CachedService) : CachedService :=
  { cached with config := cached.config.effective }

/-- The resolver is asked for hosts and ports, which are kept. -/
theorem cachedService_effective (dns : Resolver) (svc : ServiceConfig) (i : Nat) :
    cachedService dns svc.effective i = (cachedService dns svc i).effective := by
  have haddrs : (cachedService dns svc.effective i).addrs = (cachedService dns svc i).addrs := by
    show (svc.loadBalancing.targets.map LoadBalancingTarget.effective).zipIdx.filterMap _ =
      svc.loadBalancing.targets.zipIdx.filterMap _
    rw [List.zipIdx_map, List.filterMap_map]
    rfl
  show { config := svc.effective, addrs := (cachedService dns svc.effective i).addrs : CachedService } =
    { config := svc.effective, addrs := (cachedService dns svc i).addrs }
  rw [haddrs]

theorem lookup_buildServiceCache_effective (dns : Resolver) (services : List ServiceConfig) (name : Str) :
    (buildServiceCache dns (services.map ServiceConfig.effective)).lookup name =
      ((buildServiceCache dns services).lookup name).map CachedService.effective := by
  rw [lookup_buildServiceCache, lookup_buildServiceCache, List.zipIdx_map, List.find?_map, Option.map_map,
    Option.map_map]
  congr 1
  funext entry
  exact cachedService_effective dns entry.1 entry.2

namespace GatewayHandler

/-- The handler over the effective part of its router and its service. -/
def effective (h : GatewayHandler) : GatewayHandler :=
  { h with router := h.router.effective, service := h.service.effective }

theorem onEOM_effective (h : GatewayHandler) :
    h.effective.onEOM = h.onEOM.map fun (h', client) => (h'.effective, client) := by
  unfold onEOM
  simp only [effective, RouterConfig.effective, ServiceConfig.effective, List.getElem?_map, List.getElem?_take]
  cases h.router.destinations[0]? with
  | none => rfl
  | some dest =>
      cases h.service.loadBalancing.targets[0]? with
      | none => rfl
      | some target =>
          cases h.requestHeaders with
          | none => rfl
          | some req => rfl

/-- No event shows the rest of the configuration. -/
theorem step_effective (h : GatewayHandler) (ev : RequestEvent) :
    h.effective.step ev = (h.step ev).map fun (h', out) => (h'.effective, out) := by
  cases ev with
  | onRequest req => rfl
  | stream ev =>
      cases ev with
      | onBody body => rfl
      | onUpgrade prot => rfl
      | onEOM =>
          simp only [step, onEOM_effective, Option.map_map]
          rfl

end GatewayHandler

namespace GatewayHandlerFactory

variable {ρ : Type*} (platform : Platform ρ) (store : ConfigStore) (jwksCaches : JwksCaches) (msg : HTTPMessage)

theorem matchedRouter_effective :
    (new platform store.effective jwksCaches).matchedRouter platform msg =
      ((new platform store jwksCaches).matchedRouter platform msg).map RouterConfig.effective := by
  have htables : (new platform store.effective jwksCaches).tables = (new platform store jwksCaches).tables :=
    RoutingTables.build_effective platform.prefixSort platform.re store.routers
  unfold matchedRouter
  rw [htables]
  cases (new platform store jwksCaches).tables.matched platform.re msg.path msg.method with
  | none => rfl
  | some i => exact List.getElem?_map

/-- **The same dispatch,** with handlers over the effective part. -/
theorem onRequest_effective :
    Serving.Rel (fun h h' => h.effective = h')
      ((new platform store jwksCaches).onRequest platform msg).serving
      ((new platform store.effective jwksCaches).onRequest platform msg).serving := by
  unfold onRequest
  rw [matchedRouter_effective]
  cases (new platform store jwksCaches).matchedRouter platform msg with
  | none => exact .notFound
  | some router =>
      simp only [Option.map_some]
      cases hdestinations : router.destinations with
      | nil =>
          have hnone : router.effective.destinations = [] := by simp [RouterConfig.effective, hdestinations]
          rw [hnone]
          exact .badGateway _
      | cons destination rest =>
          have hfirst : router.effective.destinations = [destination.effective] := by
            simp [RouterConfig.effective, hdestinations]
          have hlookup : (new platform store.effective jwksCaches).serviceCache.lookup
                destination.effective.destinationName =
              ((new platform store jwksCaches).serviceCache.lookup destination.destinationName).map
                CachedService.effective :=
            lookup_buildServiceCache_effective platform.dns store.services destination.destinationName
          simp only [hfirst, hlookup]
          cases (new platform store jwksCaches).serviceCache.lookup destination.destinationName with
          | none => exact .badGateway _
          | some cached =>
              have hkept : cached.effective.addrs = cached.addrs := rfl
              simp only [Option.map_some, hkept]
              cases cached.addrs with
              | nil => exact .badGateway _
              | cons addr addrs =>
                  simp only [PolicyEngine.buildChain_eq]
                  exact .chain (.ofFilters _ rfl)

end GatewayHandlerFactory

/-! ## The process -/

namespace Deployment

variable {ρ ℓ κ : Type} [DecidableEq κ]

/-- The process over the effective part of a configuration follows the process over the
whole. -/
theorem plane_refines_effective (d : Deployment ρ ℓ) :
    d.plane.Refines { d with store := d.store.effective }.plane (fun s s' => s.limiter = s'.limiter)
      fun h h' => h.effective = h' where
  env := by
    intro s s' rand64 h
    show d.env s.limiter rand64 = d.env s'.limiter rand64
    rw [h]
  charge := by
    intro s s' keys h
    show d.limiter.charge s.limiter keys = d.limiter.charge s'.limiter keys
    rw [h]
  dispatch := by
    intro s s' msg _
    exact .some (GatewayHandlerFactory.onRequest_effective d.platform d.store d.jwksCaches msg)
  terminal := by
    intro s s' _ h h' ev hh
    subst hh
    show Option.Rel _ (h.step ev) (h.effective.step ev)
    rw [GatewayHandler.step_effective]
    cases h.step ev with
    | none => exact .none
    | some x => exact .some ⟨rfl, rfl⟩
  reload := by
    intro s s' dir h
    simp only [plane, AdminHandler.reload]
    cases loadFromDirectory d.parseJson dir with
    | ok store => exact ⟨h, rfl⟩
    | error what => exact ⟨h, rfl⟩

theorem run_effective (d : Deployment ρ ℓ) (l : ℓ) (evs : List (κ × SessionInput)) :
    (d.run l evs).map Prod.snd = ({ d with store := d.store.effective }.run l evs).map Prod.snd := by
  rw [run_outputs, run_outputs]
  have hlimiter : (d.start l).limiter = ({ d with store := d.store.effective }.start l).limiter := rfl
  exact optionRel_map_eq (d.plane_refines_effective.run_rel hlimiter evs) fun x y hxy => hxy.2.2

/-- **Settings without an effect.**  Two configurations with the same effective part have
the same outputs on every interleaving of sessions, and the process is undefined over one
where it is over the other. -/
theorem outputs_eq_of_effective_eq {d : Deployment ρ ℓ} {store : ConfigStore}
    (hstore : d.store.effective = store.effective) (l : ℓ) (evs : List (κ × SessionInput)) :
    (d.run l evs).map Prod.snd = ({ d with store := store }.run l evs).map Prod.snd := by
  have hother := run_effective { d with store := store } l evs
  rw [d.run_effective, hother, hstore]

end Deployment

/-- `svcStore` as a canary release: a tenth of the traffic for the first destination, a
listener with TLS, and weighted targets. -/
def Sample.canaryStore : ConfigStore where
  listeners := [{ port := 443, tls := some { mode := str "TERMINATE", minVersion := str "1.2" } }]
  routers := [{ svcRouter with
    targetRefName := str "edge"
    destinations := [{ toSvc with weight := 10 }, { destinationName := str "stable", weight := 90 }] }]
  services := [{ twoTargets with
    loadBalancing :=
      { algorithm := str "WEIGHTED"
        targets := [{ host := str "a", port := 80, weight := 1 }, { host := str "b", port := 80, weight := 9 }] } }]

theorem Deployment.canary_ignored :
    (Sample.deployment.run () Sample.abandoned).map Prod.snd =
      ({ Sample.deployment with store := Sample.canaryStore }.run () Sample.abandoned).map Prod.snd := by
  have hstore : Sample.deployment.store.effective = Sample.canaryStore.effective := by decide
  exact outputs_eq_of_effective_eq hstore () Sample.abandoned

end Kimchi
