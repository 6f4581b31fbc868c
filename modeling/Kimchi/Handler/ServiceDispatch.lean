import Kimchi.Handler.TerminalHandlers
import Kimchi.Library.FirstHit
import Kimchi.Policy.ChainGating

/-!
# Dispatch is total

What the factory answers, in terms of the configuration and the resolver alone: the
service of a destination is the first one with its name, and the address is that of
its first target that resolved when the factory was built.

* `lookup_buildServiceCache_eq_some_iff`, `lookup_buildServiceCache_eq_none_iff` —
  `serviceCache_` holds the first service of every name.
* `head?_addrs_eq_some_iff` — the first cached address.
* `dispatch_total` — which requests are answered with 502, and what the others are
  dispatched to; the handler they reach never reads past the end of a vector or
  through a null pointer.
-/

namespace Kimchi

open Config Library

/-- The first service with this name, at its position. -/
abbrev FirstNamed (services : List ServiceConfig) (name : Str) : Nat → ServiceConfig → Prop :=
  FirstHit (fun _ svc => svc.metadata.name = name) services

/-- The first target of the `i`-th service that resolves, at its position. -/
abbrev FirstResolved (dns : Resolver) (i : Nat) (svc : ServiceConfig) : Nat → LoadBalancingTarget → Prop :=
  FirstHit (fun j target => (dns i j target.host target.port).isSome = true) svc.loadBalancing.targets

/-! ## The service cache -/

theorem lookup_buildServiceCache (dns : Resolver) (services : List ServiceConfig) (name : Str) :
    (buildServiceCache dns services).lookup name =
      (services.zipIdx.find? fun (svc, _) => svc.metadata.name = name).map
        fun (svc, i) => cachedService dns svc i := by
  have hrun := lookup_foldl_emplace (fun entry : ServiceConfig × Nat => entry.1.metadata.name)
    (fun entry => cachedService dns entry.1 entry.2) services.zipIdx ∅ name
  rw [AList.lookup_empty, Option.none_or] at hrun
  exact hrun

section Cache

variable {dns : Resolver} {services : List ServiceConfig} {name : Str}

theorem lookup_buildServiceCache_eq_some_iff {cached : CachedService} :
    (buildServiceCache dns services).lookup name = some cached ↔
      ∃ i svc, FirstNamed services name i svc ∧ cached = cachedService dns svc i := by
  rw [lookup_buildServiceCache, Option.map_eq_some_iff]
  constructor
  · rintro ⟨⟨svc, i⟩, hfind, rfl⟩
    have hfirst := find?_zipIdx_eq_some_iff.mp hfind
    exact ⟨i, svc, by simpa [FirstNamed] using hfirst, rfl⟩
  · rintro ⟨i, svc, hfirst, rfl⟩
    refine ⟨(svc, i), find?_zipIdx_eq_some_iff.mpr ?_, rfl⟩
    simpa [FirstNamed] using hfirst

theorem lookup_buildServiceCache_eq_none_iff :
    (buildServiceCache dns services).lookup name = none ↔ ∀ svc ∈ services, svc.metadata.name ≠ name := by
  rw [lookup_buildServiceCache, Option.map_eq_none_iff, List.find?_eq_none]
  constructor
  · intro h svc hsvc
    rcases List.getElem?_of_mem hsvc with ⟨i, hi⟩
    have hmiss := h (svc, i) (List.mem_zipIdx_iff_getElem?.mpr hi)
    simpa using hmiss
  · intro h entry hentry
    have hmiss := h entry.1 (List.mem_of_getElem? (List.mem_zipIdx_iff_getElem?.mp hentry))
    simpa using hmiss

theorem head?_addrs_eq_some_iff {svc : ServiceConfig} {i : Nat} {addr : SocketAddress} :
    (cachedService dns svc i).addrs.head? = some addr ↔
      ∃ j target, FirstResolved dns i svc j target ∧ dns i j target.host target.port = some addr :=
  head?_filterMap_zipIdx_eq_some_iff

theorem addrs_eq_nil_iff {svc : ServiceConfig} {i : Nat} :
    (cachedService dns svc i).addrs = [] ↔
      ∀ j target, svc.loadBalancing.targets[j]? = some target → dns i j target.host target.port = none := by
  rw [cachedService, List.filterMap_eq_nil_iff]
  constructor
  · intro h j target htarget
    exact h (target, j) (List.mem_zipIdx_iff_getElem?.mpr htarget)
  · intro h entry hentry
    exact h entry.2 entry.1 (List.mem_zipIdx_iff_getElem?.mp hentry)

end Cache

/-! ## Dispatch -/

/-- The router cannot be dispatched: it has no destination, no service has the name
of the first one, or no target of the first such service resolves. -/
def Unroutable (dns : Resolver) (services : List ServiceConfig) (router : RouterConfig) : Prop :=
  router.destinations = [] ∨
    ∃ destination, router.destinations.head? = some destination ∧
      ((∀ svc ∈ services, svc.metadata.name ≠ destination.destinationName) ∨
        ∃ i svc, FirstNamed services destination.destinationName i svc ∧
          ∀ j target, svc.loadBalancing.targets[j]? = some target → dns i j target.host target.port = none)

/-- The handler a router is dispatched to: the first service with the name of the
first destination, and the address of its first target that resolves. -/
def DispatchesTo (dns : Resolver) (services : List ServiceConfig) (router : RouterConfig)
    (handler : GatewayHandler) : Prop :=
  ∃ destination i svc j target addr, router.destinations.head? = some destination ∧
    FirstNamed services destination.destinationName i svc ∧ FirstResolved dns i svc j target ∧
    dns i j target.host target.port = some addr ∧
    handler = { router := router, service := svc, upstreamAddr := addr }

theorem not_unroutable_of_dispatchesTo {dns : Resolver} {services : List ServiceConfig}
    {router : RouterConfig} {handler : GatewayHandler} (h : DispatchesTo dns services router handler) :
    ¬ Unroutable dns services router := by
  rcases h with ⟨destination, i, svc, j, target, addr, hhead, hfirst, hresolved, haddr, -⟩
  rintro (hnil | ⟨destination', hhead', hcannot⟩)
  · rw [hnil] at hhead
    cases hhead
  · obtain rfl : destination = destination' := Option.some.inj (hhead.symm.trans hhead')
    rcases hcannot with hunnamed | ⟨i', svc', hfirst', hdead⟩
    · exact hunnamed svc hfirst.mem hfirst.hit
    · rcases hfirst.unique hfirst' with ⟨rfl, rfl⟩
      rw [hdead j target hresolved.get] at haddr
      cases haddr

namespace GatewayHandlerFactory

variable {ρ : Type*} {platform : Platform ρ} {store : ConfigStore} {jwksCaches : JwksCaches}
  {msg : HTTPMessage} {router : RouterConfig}

/-- A matched router is dispatched, or it cannot be. -/
theorem onRequest_of_matchedRouter
    (hmatched : (new platform store jwksCaches).matchedRouter platform msg = some router) :
    (Unroutable platform.dns store.services router ∧
      ∃ body, (new platform store jwksCaches).onRequest platform msg = .badGateway body) ∨
    (¬ Unroutable platform.dns store.services router ∧
      ∃ handler, DispatchesTo platform.dns store.services router handler ∧
        (new platform store jwksCaches).onRequest platform msg =
          .chain ((new platform store jwksCaches).engine.buildChain platform.orderSort router handler)) := by
  unfold onRequest
  simp only [hmatched]
  cases hdestinations : router.destinations with
  | nil => exact Or.inl ⟨Or.inl hdestinations, _, rfl⟩
  | cons destination rest =>
      have hhead : router.destinations.head? = some destination := by
        rw [hdestinations]
        rfl
      simp only
      cases hlookup : (new platform store jwksCaches).serviceCache.lookup destination.destinationName with
      | none =>
          have hunnamed := lookup_buildServiceCache_eq_none_iff.mp hlookup
          exact Or.inl ⟨Or.inr ⟨destination, hhead, Or.inl hunnamed⟩, _, rfl⟩
      | some cached =>
          rcases lookup_buildServiceCache_eq_some_iff.mp hlookup with ⟨i, svc, hfirst, rfl⟩
          simp only
          cases haddrs : (cachedService platform.dns svc i).addrs with
          | nil =>
              have hdead := addrs_eq_nil_iff.mp haddrs
              exact Or.inl ⟨Or.inr ⟨destination, hhead, Or.inr ⟨i, svc, hfirst, hdead⟩⟩, _, rfl⟩
          | cons addr addrs =>
              have haddr : (cachedService platform.dns svc i).addrs.head? = some addr := by
                rw [haddrs]
                rfl
              rcases head?_addrs_eq_some_iff.mp haddr with ⟨j, target, hresolved, haddr⟩
              have hdispatch : DispatchesTo platform.dns store.services router
                  { router := router, service := svc, upstreamAddr := addr } :=
                ⟨destination, i, svc, j, target, addr, hhead, hfirst, hresolved, haddr, rfl⟩
              exact Or.inr ⟨not_unroutable_of_dispatchesTo hdispatch, _, hdispatch, rfl⟩

end GatewayHandlerFactory

theorem routed_of_dispatchesTo {dns : Resolver} {services : List ServiceConfig} {router : RouterConfig}
    {handler : GatewayHandler} (h : DispatchesTo dns services router handler) : handler.Routed := by
  rcases h with ⟨destination, i, svc, j, target, addr, hdestination, -, hresolved, -, rfl⟩
  refine ⟨?_, ?_⟩
  · intro hnil
    change router.destinations = [] at hnil
    rw [hnil] at hdestination
    cases hdestination
  · intro hnil
    change svc.loadBalancing.targets = [] at hnil
    have hget := hresolved.get
    rw [hnil] at hget
    cases hget

/-- Whatever the chain lets through, a routed handler reads it to the end. -/
theorem run_terminalEvents {sort : UnstableSort PolicyEngine.orderBefore} {engine : PolicyEngine}
    {router : RouterConfig} {handler : GatewayHandler} (hrouted : handler.Routed) (env : FilterEnv)
    (msg : HTTPMessage) (evs : List StreamEvent) :
    ∃ h' out, GatewayHandler.machine.run handler
      (terminalEvents ((RequestHandler.machine env).outputs (engine.buildChain sort router handler)
        (.onRequest msg :: evs.map .stream))) = some (h', out) := by
  rw [PolicyEngine.buildChain_eq]
  rcases (run_cases env (filtersOf_fresh _) handler msg evs).1 with
    ⟨-, -, msg', -, hterminal⟩ | ⟨-, -, hterminal⟩
  · change ∃ h' out, GatewayHandler.machine.run handler (terminalEvents (Machine.run _ _ _).2) = some (h', out)
    rw [hterminal]
    exact GatewayHandler.run_of_routed hrouted msg' evs
  · change ∃ h' out, GatewayHandler.machine.run handler (terminalEvents (Machine.run _ _ _).2) = some (h', out)
    rw [hterminal]
    exact ⟨handler, [], rfl⟩

/-- **Dispatch is total.**  Without a matching router the answer is 404.  With one it
is 502 exactly when the router has no destination, no service has the name of the
first one, or no target of the first such service resolves; otherwise it is a chain
around a handler for that service and the address of its first target that resolves,
and every event sequence the chain delivers to the handler is defined. -/
theorem dispatch_total {ρ : Type*} (platform : Platform ρ) (store : ConfigStore) (jwksCaches : JwksCaches)
    (msg : HTTPMessage) :
    let factory := GatewayHandlerFactory.new platform store jwksCaches
    (factory.matchedRouter platform msg = none → factory.onRequest platform msg = .notFound) ∧
    ∀ router, factory.matchedRouter platform msg = some router →
      ((∃ body, factory.onRequest platform msg = .badGateway body) ↔
        Unroutable platform.dns store.services router) ∧
      (¬ Unroutable platform.dns store.services router →
        ∃ handler, DispatchesTo platform.dns store.services router handler ∧
          factory.onRequest platform msg =
            .chain (factory.engine.buildChain platform.orderSort router handler) ∧
          ∀ (env : FilterEnv) (msg : HTTPMessage) (evs : List StreamEvent),
            ∃ h' out, GatewayHandler.machine.run handler
              (terminalEvents ((RequestHandler.machine env).outputs
                (factory.engine.buildChain platform.orderSort router handler)
                (.onRequest msg :: evs.map .stream))) = some (h', out)) := by
  intro factory
  refine ⟨?_, ?_⟩
  · intro hnone
    simp only [GatewayHandlerFactory.onRequest, hnone]
  · intro router hmatched
    rcases GatewayHandlerFactory.onRequest_of_matchedRouter hmatched with
      ⟨hunroutable, body, hbody⟩ | ⟨hroutable, handler, hdispatch, hchain⟩
    · exact ⟨iff_of_true ⟨body, hbody⟩ hunroutable, fun hroutable => absurd hunroutable hroutable⟩
    · refine ⟨iff_of_false ?_ hroutable, ?_⟩
      · rintro ⟨body, hbody⟩
        rw [hchain] at hbody
        cases hbody
      · intro _
        refine ⟨handler, hdispatch, hchain, ?_⟩
        intro env msg evs
        exact run_terminalEvents (routed_of_dispatchesTo hdispatch) env msg evs

end Kimchi
