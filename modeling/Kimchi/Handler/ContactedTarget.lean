import Kimchi.Handler.Forwarding
import Kimchi.Handler.ServiceDispatch

/-!
# The target that is named and the target that is contacted

`CachedService::addrs` is meant to hold one address per target, in the same order,
but a target that does not resolve is skipped.  The factory connects to `addrs[0]`,
the address of the first target that resolved; `GatewayHandler::onEOM` derives the
`Host` header from `targets[0]`.

* `targetHost_eq_iff` — when two targets give the same `Host`.
* `host_of_contacted_iff` — so the header names the contacted target exactly when
  the first target has the same host and port, or spells out the same text.
-/

namespace Kimchi

open Config Library

/-! ## The text of a port -/

theorem toNat_of_mem_toDigits {d : Char} {n : Nat} (h : d ∈ Nat.toDigits 10 n) :
    48 ≤ d.toNat ∧ d.toNat ≤ 57 :=
  Char.isDigit_iff_toNat.mp (Nat.isDigit_of_mem_toDigits (by decide) (by decide) h)

/-- The digits can be read back. -/
theorem map_portDigits (port : UInt16) :
    (portDigits port).map (fun b => Char.ofNat b.toNat) = Nat.toDigits 10 port.toNat := by
  rw [portDigits, List.map_map]
  have hdigit : ∀ d ∈ Nat.toDigits 10 port.toNat,
      ((fun b : UInt8 => Char.ofNat b.toNat) ∘ fun d : Char => UInt8.ofNat d.toNat) d = id d := by
    intro d hd
    have hrange := toNat_of_mem_toDigits hd
    have hsmall : d.toNat % 2 ^ 8 = d.toNat := Nat.mod_eq_of_lt (by omega)
    change Char.ofNat (UInt8.ofNat d.toNat).toNat = d
    rw [UInt8.toNat_ofNat', hsmall, Char.ofNat_toNat]
  rw [List.map_congr_left hdigit, List.map_id]

theorem portDigits_injective {p q : UInt16} (h : portDigits p = portDigits q) : p = q := by
  have hdigits : Nat.toDigits 10 p.toNat = Nat.toDigits 10 q.toNat := by
    rw [← map_portDigits p, ← map_portDigits q, h]
  apply UInt16.toNat_inj.mp
  calc
    p.toNat = Nat.ofDigitChars 10 (Nat.toDigits 10 p.toNat) 0 := Nat.ofDigitChars_ten_toDigits.symm
    _ = Nat.ofDigitChars 10 (Nat.toDigits 10 q.toNat) 0 := by rw [hdigits]
    _ = q.toNat := Nat.ofDigitChars_ten_toDigits

/-- A port has no colon. -/
theorem colon_not_mem_portDigits (port : UInt16) : 58 ∉ portDigits port := by
  intro hmem
  rcases List.mem_map.mp hmem with ⟨d, hd, hcolon⟩
  have hrange := toNat_of_mem_toDigits hd
  have hvalue := congrArg UInt8.toNat hcolon
  rw [UInt8.toNat_ofNat'] at hvalue
  change d.toNat % 256 = 58 at hvalue
  omega

/-- The last separator splits a text in one way. -/
theorem append_cons_inj_of_not_mem {α : Type*} {sep : α} {a b x y : List α} (hx : sep ∉ x) (hy : sep ∉ y)
    (h : a ++ sep :: x = b ++ sep :: y) : a = b ∧ x = y := by
  rcases List.append_eq_append_iff.mp h with ⟨e, rfl, he⟩ | ⟨e, rfl, he⟩
  · cases e with
    | nil => exact ⟨(List.append_nil a).symm, (List.cons.inj he).2⟩
    | cons c e =>
        rcases List.cons.inj he with ⟨-, rfl⟩
        exact absurd (List.mem_append_right e List.mem_cons_self) hx
  · cases e with
    | nil => exact ⟨List.append_nil b, (List.cons.inj he).2.symm⟩
    | cons c e =>
        rcases List.cons.inj he with ⟨-, rfl⟩
        exact absurd (List.mem_append_right e List.mem_cons_self) hy

/-- `host:port` determines the host and the port, whatever the host is. -/
theorem hostPort_inj {host host' : Str} {p q : UInt16}
    (h : host ++ (str ":" ++ portDigits p) = host' ++ (str ":" ++ portDigits q)) : host = host' ∧ p = q := by
  rcases append_cons_inj_of_not_mem (colon_not_mem_portDigits p) (colon_not_mem_portDigits q) h with
    ⟨hhost, hport⟩
  exact ⟨hhost, portDigits_injective hport⟩

/-! ## The authority of a target -/

/-- Two targets of a service with the same text for a `Host` header: the same host
and port, or a host that already spells out the other's port. -/
def SameAuthority (service : ServiceConfig) (t t' : LoadBalancingTarget) : Prop :=
  (t.host = t'.host ∧ t.port = t'.port) ∨
    (UsesDefaultPort service t ∧ ¬ UsesDefaultPort service t' ∧
      t.host = t'.host ++ (str ":" ++ portDigits t'.port)) ∨
    (¬ UsesDefaultPort service t ∧ UsesDefaultPort service t' ∧
      t.host ++ (str ":" ++ portDigits t.port) = t'.host)

/-- A protocol has one default port. -/
theorem UsesDefaultPort.port_eq {service : ServiceConfig} {t t' : LoadBalancingTarget}
    (h : UsesDefaultPort service t) (h' : UsesDefaultPort service t') : t.port = t'.port := by
  rcases h with ⟨hprot, hport⟩ | ⟨hprot, hport⟩ <;> rcases h' with ⟨hprot', hport'⟩ | ⟨hprot', hport'⟩
  · rw [hport, hport']
  · exact absurd (hprot.symm.trans hprot') (by decide)
  · exact absurd (hprot.symm.trans hprot') (by decide)
  · rw [hport, hport']

theorem usesDefaultPort_congr {service : ServiceConfig} {t t' : LoadBalancingTarget} (h : t.port = t'.port) :
    UsesDefaultPort service t ↔ UsesDefaultPort service t' := by
  rw [UsesDefaultPort, UsesDefaultPort, h]

namespace GatewayHandler

theorem targetHost_of_default {service : ServiceConfig} {t : LoadBalancingTarget}
    (h : UsesDefaultPort service t) : targetHost service t = t.host :=
  if_pos (isDefaultPort_iff.mpr h)

theorem targetHost_of_not_default {service : ServiceConfig} {t : LoadBalancingTarget}
    (h : ¬ UsesDefaultPort service t) :
    targetHost service t = t.host ++ (str ":" ++ portDigits t.port) :=
  if_neg fun hdefault => h (isDefaultPort_iff.mp hdefault)

theorem targetHost_eq_iff {service : ServiceConfig} {t t' : LoadBalancingTarget} :
    targetHost service t = targetHost service t' ↔ SameAuthority service t t' := by
  unfold SameAuthority
  by_cases h : UsesDefaultPort service t <;> by_cases h' : UsesDefaultPort service t'
  · simp [targetHost_of_default, h, h', h.port_eq h']
  · have hport : t.port ≠ t'.port := fun hport => h' ((usesDefaultPort_congr hport).mp h)
    simp [targetHost_of_default h, targetHost_of_not_default h', h, h', hport]
  · have hport : t.port ≠ t'.port := fun hport => h ((usesDefaultPort_congr hport).mpr h')
    simp [targetHost_of_not_default h, targetHost_of_default h', h, h', hport]
  · rw [targetHost_of_not_default h, targetHost_of_not_default h']
    constructor
    · intro heq
      exact Or.inl (hostPort_inj heq)
    · rintro (⟨hhost, hport⟩ | ⟨hdefault, -⟩ | ⟨-, hdefault, -⟩)
      · rw [hhost, hport]
      · exact absurd hdefault h
      · exact absurd hdefault h'

theorem hostHeader_of_keepsHost {dest : RouterDestination} (hkeep : KeepsHost dest) (service : ServiceConfig)
    (target : LoadBalancingTarget) : hostHeader dest service target = targetHost service target := by
  unfold hostHeader
  cases hrewrite : dest.rewrite with
  | none => rfl
  | some rewrite => simp [hkeep rewrite hrewrite]

end GatewayHandler

/-! ## The dispatched handler -/

/-- A destination without a host of its own: the first service with its name, and
the first target of that service that resolves, to `addr`. -/
structure Contacts (dns : Resolver) (services : List ServiceConfig) (dest : RouterDestination)
    (svc : ServiceConfig) (target : LoadBalancingTarget) (addr : SocketAddress) : Prop where
  keepsHost : KeepsHost dest
  resolved : ∃ i j, FirstNamed services dest.destinationName i svc ∧ FirstResolved dns i svc j target ∧
    dns i j target.host target.port = some addr

/-- The handler of a dispatched request is the one for this service and address. -/
theorem onRequest_of_contacts {ρ : Type*} {platform : Platform ρ} {store : ConfigStore}
    {jwksCaches : JwksCaches} {msg : HTTPMessage} {router : RouterConfig} {dest : RouterDestination}
    {svc : ServiceConfig} {target : LoadBalancingTarget} {addr : SocketAddress}
    (hmatched : (GatewayHandlerFactory.new platform store jwksCaches).matchedRouter platform msg = some router)
    (hdest : router.destinations.head? = some dest)
    (h : Contacts platform.dns store.services dest svc target addr) :
    (GatewayHandlerFactory.new platform store jwksCaches).onRequest platform msg =
      .chain ((GatewayHandlerFactory.new platform store jwksCaches).engine.buildChain platform.orderSort
        router { router := router, service := svc, upstreamAddr := addr }) := by
  rcases h.resolved with ⟨i, j, hservice, htarget, haddr⟩
  apply GatewayHandlerFactory.onRequest_eq_chain_iff.mpr
  refine ⟨router, dest, cachedService platform.dns svc i, addr, hmatched, hdest, ?_, ?_, rfl⟩
  · exact lookup_buildServiceCache_eq_some_iff.mpr ⟨i, svc, hservice, rfl⟩
  · exact head?_addrs_eq_some_iff.mpr ⟨j, target, htarget, haddr⟩

/-- **The `Host` header names the contacted target**, for every request dispatched
through a destination without a host of its own, exactly when the first target of
the service gives the same text as the one whose address is connected: always when
the first target resolves. -/
theorem host_of_contacted_iff {ρ : Type*} (platform : Platform ρ) (store : ConfigStore)
    (jwksCaches : JwksCaches) (msg : HTTPMessage) (router : RouterConfig) (dest : RouterDestination)
    (svc : ServiceConfig) (target : LoadBalancingTarget) (addr : SocketAddress)
    (hmatched : (GatewayHandlerFactory.new platform store jwksCaches).matchedRouter platform msg = some router)
    (hdest : router.destinations.head? = some dest)
    (hcontacts : Contacts platform.dns store.services dest svc target addr) :
    ∃ handler, (GatewayHandlerFactory.new platform store jwksCaches).onRequest platform msg =
        .chain ((GatewayHandlerFactory.new platform store jwksCaches).engine.buildChain platform.orderSort
          router handler) ∧
      ((∀ req chunks, ∃ h' client,
          GatewayHandler.machine.run handler (requestEvents req chunks) =
            some (h', [.connect addr client]) ∧
          client.upstreamReq.headers.values (str "Host") = [GatewayHandler.targetHost svc target]) ↔
        ∃ first, svc.loadBalancing.targets.head? = some first ∧ SameAuthority svc first target) := by
  refine ⟨_, onRequest_of_contacts hmatched hdest hcontacts, ?_⟩
  have hnonempty : svc.loadBalancing.targets ≠ [] := by
    rcases hcontacts.resolved with ⟨i, j, -, htarget, -⟩
    exact List.ne_nil_of_mem htarget.mem
  rcases List.exists_cons_of_ne_nil hnonempty with ⟨first, rest, hfirst⟩
  have hhead : svc.loadBalancing.targets.head? = some first := by
    rw [hfirst]
    rfl
  -- the header of every request is that of the first target
  have hrun (req : HTTPMessage) (chunks : List Str) := GatewayHandler.run_request
    (h := { router := router, service := svc, upstreamAddr := addr }) hdest hhead rfl req chunks
  have hvalues (req : HTTPMessage) : (GatewayHandler.upstreamReq dest svc first req).headers.values
      (str "Host") = [GatewayHandler.targetHost svc first] := by
    rw [GatewayHandler.headers_upstreamReq, HTTPHeaders.values_set_self,
      GatewayHandler.hostHeader_of_keepsHost hcontacts.keepsHost]
  constructor
  · intro hall
    rcases hall msg [] with ⟨h', client, hrun', hhost⟩
    rw [hrun msg []] at hrun'
    obtain ⟨-, hclient⟩ := Prod.mk.inj (Option.some.inj hrun')
    obtain rfl := (HandlerEffect.connect.inj (List.cons.inj hclient).1).2
    rw [hvalues msg] at hhost
    exact ⟨first, hhead, GatewayHandler.targetHost_eq_iff.mp (List.cons.inj hhost).1⟩
  · rintro ⟨first', hhead', hsame⟩ req chunks
    obtain rfl : first = first' := Option.some.inj (hhead.symm.trans hhead')
    refine ⟨_, _, hrun req chunks, ?_⟩
    rw [hvalues req, GatewayHandler.targetHost_eq_iff.mpr hsame]

namespace Sample

/-- A service with two targets. -/
def twoTargets : ServiceConfig :=
  { metadata := { name := str "svc" }
    protocol := str "HTTP"
    loadBalancing := { targets := [{ host := str "a", port := 80 }, { host := str "b", port := 80 }] } }

/-- A destination that names the service and rewrites nothing. -/
def toSvc : RouterDestination := { destinationName := str "svc" }

/-- A router for every path. -/
def svcRouter : RouterConfig := { rules := [{ path := str "/" }], destinations := [toSvc] }

/-- Both in one store, without policies. -/
def svcStore : ConfigStore := { routers := [svcRouter], services := [twoTargets] }

/-- A platform whose resolver knows the hosts in a list, under one address. -/
def platformKnowing (hosts : List Str) : Platform Unit where
  prefixSort := .insertion longerFirst longerFirst_asymm longerFirst_trans
  orderSort := PolicyEngine.orderSort
  re := { compile := fun _ => none, regexMatch := fun _ _ => false }
  dns _ _ host port := if host ∈ hosts then some ⟨str "10.0.0.2", port⟩ else none

end Sample

/-- With a first target that resolves, the header names it: an instance. -/
theorem host_of_first_target :
    ∃ handler, (GatewayHandlerFactory.new (Sample.platformKnowing [str "a"]) Sample.svcStore ∅).onRequest
        (Sample.platformKnowing [str "a"]) Sample.getRoot =
          .chain ((GatewayHandlerFactory.new (Sample.platformKnowing [str "a"]) Sample.svcStore
            ∅).engine.buildChain PolicyEngine.orderSort Sample.svcRouter handler) ∧
      ∀ req chunks, ∃ h' client,
        GatewayHandler.machine.run handler (requestEvents req chunks) =
          some (h', [.connect ⟨str "10.0.0.2", 80⟩ client]) ∧
        client.upstreamReq.headers.values (str "Host") = [str "a"] := by
  have hcontacts : Contacts (Sample.platformKnowing [str "a"]).dns Sample.svcStore.services Sample.toSvc
      Sample.twoTargets { host := str "a", port := 80 } ⟨str "10.0.0.2", 80⟩ := by
    refine ⟨by simp [KeepsHost, Sample.toSvc], 0, 0, ⟨rfl, rfl, ?_⟩, ⟨rfl, rfl, ?_⟩, rfl⟩
    · intro k hk
      omega
    · intro k hk
      omega
  rcases host_of_contacted_iff (Sample.platformKnowing [str "a"]) Sample.svcStore ∅ Sample.getRoot
    Sample.svcRouter Sample.toSvc Sample.twoTargets _ _ rfl rfl hcontacts with ⟨handler, hchain, hnames⟩
  exact ⟨handler, hchain, hnames.mpr ⟨_, rfl, Or.inl ⟨rfl, rfl⟩⟩⟩

/-- The first target does not resolve: the request goes to the address of `b` with a
`Host` header for `a`. -/
theorem host_of_unresolved_target :
    ∃ handler h' client,
      (GatewayHandlerFactory.new (Sample.platformKnowing [str "b"]) Sample.svcStore ∅).onRequest
        (Sample.platformKnowing [str "b"]) Sample.getRoot =
          .chain ((GatewayHandlerFactory.new (Sample.platformKnowing [str "b"]) Sample.svcStore
            ∅).engine.buildChain PolicyEngine.orderSort Sample.svcRouter handler) ∧
      (Sample.platformKnowing [str "b"]).dns 0 0 (str "a") 80 = none ∧
      (Sample.platformKnowing [str "b"]).dns 0 1 (str "b") 80 = some ⟨str "10.0.0.2", 80⟩ ∧
      GatewayHandler.machine.run handler (requestEvents Sample.getRoot []) =
        some (h', [.connect ⟨str "10.0.0.2", 80⟩ client]) ∧
      client.upstreamReq.headers.values (str "Host") = [str "a"] :=
  ⟨{ router := Sample.svcRouter, service := Sample.twoTargets, upstreamAddr := ⟨str "10.0.0.2", 80⟩ },
    _, _, rfl, rfl, rfl, rfl, rfl⟩

end Kimchi
