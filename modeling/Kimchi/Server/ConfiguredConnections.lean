import Kimchi.Server.Launch
import Kimchi.Server.SessionOutputs

/-!
# Connections, from the files to the socket

The whole program in one statement: `main` loads a directory, fetches key sets and
starts the servers, and the sessions of the servers run in any interleaving.  Every
connection that it ever makes to an upstream is one that a router document and a
service document of the directory list, for a request that a rule of the router serves;
and for every policy that the router lists, exists and has a JWT section, the request
bears a token that a key set fetched before accepts (`connections_configured`).

A name in the router's list that no policy document has is skipped: nothing is said
about it.
-/

namespace Kimchi

open Config Library

/-! ## Routes in the documents -/

/-- A rule serves a request. -/
def Config.RouterRule.Serves {ρ : Type*} (re : RegexLib ρ) (path method : Str) (rule : RouterRule) : Prop :=
  rule.AllowsMethod method ∧
    match rule.pathType with
    | .exact => rule.path = path
    | .pathPrefix => startsWith path rule.path = true
    | .regex => (re.compile rule.path).any (re.regexMatch path) = true

namespace DeclaredRule

variable {ρ : Type*} {re : RegexLib ρ} {path method : Str} {d : DeclaredRule}

theorem serves_of_servesExact (h : d.servesExact path method = true) : d.rule.Serves re path method := by
  simp only [servesExact, Bool.and_eq_true, decide_eq_true_eq] at h
  obtain ⟨⟨htype, hpath⟩, hmethod⟩ := h
  refine ⟨hmethod, ?_⟩
  rw [htype]
  exact hpath

theorem serves_of_servesPrefix (h : d.servesPrefix path method = true) : d.rule.Serves re path method := by
  simp only [servesPrefix, Bool.and_eq_true, decide_eq_true_eq] at h
  obtain ⟨⟨htype, hpath⟩, hmethod⟩ := h
  refine ⟨hmethod, ?_⟩
  rw [htype]
  exact hpath

theorem serves_of_servesRegex (h : d.servesRegex re path method = true) : d.rule.Serves re path method := by
  simp only [servesRegex, Bool.and_eq_true, decide_eq_true_eq] at h
  obtain ⟨⟨htype, hpath⟩, hmethod⟩ := h
  refine ⟨hmethod, ?_⟩
  rw [htype]
  exact hpath

end DeclaredRule

/-- A router that the precedence rule selects has a rule that serves the request. -/
theorem exists_serves_of_routedTo {ρ : Type*} {re : RegexLib ρ} {store : ConfigStore} {msg : HTTPMessage}
    {router : RouterConfig} (h : RoutedTo re store msg router) :
    router ∈ store.routers ∧ ∃ rule ∈ router.rules, rule.Serves re msg.path msg.method := by
  obtain ⟨i, hspec, hrouter⟩ := h
  refine ⟨List.mem_of_getElem? hrouter, ?_⟩
  have hdeclared : ∃ d ∈ declaredRules store.routers, d.routerIndex = i ∧ d.rule.Serves re msg.path msg.method := by
    generalize hselected : some i = selected at hspec
    cases hspec with
    | exact d hfirst =>
        exact ⟨d, List.mem_of_find?_eq_some hfirst, (Option.some.inj hselected).symm,
          d.serves_of_servesExact (List.find?_some hfirst)⟩
    | pathPrefix d _ hd hserves => exact ⟨d, hd, (Option.some.inj hselected).symm, d.serves_of_servesPrefix hserves⟩
    | regex d _ _ hfirst =>
        exact ⟨d, List.mem_of_find?_eq_some hfirst, (Option.some.inj hselected).symm,
          d.serves_of_servesRegex (List.find?_some hfirst)⟩
    | none => cases hselected
  obtain ⟨d, hd, rfl, hserves⟩ := hdeclared
  obtain ⟨router', hrouter', hrule⟩ := mem_declaredRules_iff.mp hd
  obtain rfl : router = router' := Option.some.inj (hrouter.symm.trans hrouter')
  exact ⟨d.rule, hrule, hserves⟩

/-- The documents list a route: a router that serves the request, the service of its
first destination, and a target of the service with the address. -/
structure ConfiguredRoute {ρ : Type} (platform : Platform ρ) (docs : List Dynamic) (msg : HTTPMessage)
    (router : RouterConfig) (addr : SocketAddress) : Prop where
  listed : ∃ doc ∈ docs, routerOf doc = some router
  served : ∃ rule ∈ router.rules, rule.Serves platform.re msg.path msg.method
  reached : ∃ destination service, router.destinations.head? = some destination ∧
    (∃ doc ∈ docs, serviceOf doc = some service) ∧ service.metadata.name = destination.destinationName ∧
    ∃ i j target, target ∈ service.loadBalancing.targets ∧ platform.dns i j target.host target.port = some addr

/-- The request bears a token that a key set accepts; the key set was fetched for the
last JWT section among the policies of the name. -/
def AuthenticatedFor (net : Network) (jwt : JwtLib) (policies : List PolicyConfig) (msg : HTTPMessage) (name : Str) :
    Prop :=
  ∃ call jwtCfg cache token, (jwtSections policies name).getLast? = some jwtCfg ∧
    JwksCache.fetch net call jwtCfg = .ok cache ∧ JwtPolicy.BearsToken msg token ∧
    Accepts jwt cache token

/-- An admitted request is authenticated for every policy of its router that resolves to
one with a JWT section. -/
theorem authenticatedFor_of_admittedAs {net : Network} {jwt : JwtLib} {engine : PolicyEngine} {router : RouterConfig}
    {env : FilterEnv} {msg msg' : HTTPMessage}
    (hfetched : fetchJwksCaches net engine.store.policies = some engine.jwksCaches)
    (h : AdmittedAs jwt (FilterBase.traced env msg) (engine.listedJwks router) msg') {name : Str}
    (hname : name ∈ router.policies) {pc : PolicyConfig} (hpc : resolve engine.store.policies name = some pc)
    {cfg : JwtConfig} (hjwt : pc.jwt = some cfg) : AuthenticatedFor net jwt engine.store.policies msg name := by
  obtain ⟨hmem, rfl⟩ := resolve_eq_some hpc
  obtain ⟨cache, hcache⟩ := exists_lookup_of_jwt hfetched hmem hjwt
  have hlisted : cache ∈ engine.listedJwks router := by
    rw [PolicyEngine.listedJwks_eq]
    refine List.mem_filterMap.mpr ⟨pc, List.mem_filterMap.mpr ⟨_, hname, hpc⟩, ?_⟩
    rw [PolicyEngine.jwksFor, hjwt]
    exact hcache
  generalize engine.listedJwks router = cs at h hlisted
  cases h with
  | unguarded => cases hlisted
  | bearer c token id hbears hid =>
      obtain rfl := List.mem_singleton.mp hlisted
      obtain ⟨call, jwtCfg, hfetch⟩ := exists_fetch_of_lookup hfetched hcache
      have hconfig := lookup_fetchJwksCaches hfetched pc.metadata.name
      rw [hcache, Option.map_some] at hconfig
      obtain ⟨-, -, -, -, -, rfl⟩ := JwksCache.fetch_eq_ok_iff.mp hfetch
      exact ⟨call, cache.jwtConfig, cache, token, hconfig.symm, hfetch, bearsToken_traced_iff.mp hbears,
        JwtPolicy.evaluate_ok_iff.mp ⟨id, hid⟩⟩

/-! ## The program -/

/-- A process that has a router was started from a directory that exists. -/
theorem exists_listing_of_startup {parseJson : Str → Option Dynamic} {net : Network} {dir : ConfigDir}
    {store : ConfigStore} {jwksCaches : JwksCaches} (h : startup parseJson net dir = some (store, jwksCaches))
    {router : RouterConfig} (hrouter : router ∈ store.routers) :
    ∃ entries, dir = .listing entries none ∧ store = storeOf (documents parseJson entries) := by
  cases dir with
  | missing =>
      simp only [startup, loadFromDirectory] at h
      obtain ⟨fetched, -, heq⟩ := Option.map_eq_some_iff.mp h
      cases heq
      cases hrouter
  | listing entries failure =>
      cases failure with
      | some what => cases h
      | none =>
          rw [startup, loadFromDirectory_listing] at h
          obtain ⟨fetched, -, heq⟩ := Option.map_eq_some_iff.mp h
          cases heq
          exact ⟨entries, rfl, rfl⟩

/-- A connection goes to the address of the handler. -/
theorem Decision.Trace.addr_eq {later : List SessionInput} {handler : GatewayHandler} {msg : HTTPMessage}
    {trace : List SessionEffect} (h : (Decision.proxy handler msg).Trace later trace) {addr : SocketAddress}
    {client : UpstreamClient} (hmem : .served (.connect addr client) ∈ trace) : addr = handler.upstreamAddr := by
  cases h with
  | collecting _ _ heom => cases not_contactsUpstream_of_upgradeReplies hmem
  | forwarded _ _ dest target heom hdest htarget =>
      rcases List.mem_append.mp hmem with hreply | hrest
      · cases not_contactsUpstream_of_upgradeReplies hreply
      · rcases List.mem_cons.mp hrest with hconnect | houtput
        · injection hconnect with hserved
          injection hserved
        · obtain ⟨output, -, houtput⟩ := List.mem_map.mp houtput
          cases output <;> cases houtput

section Program

variable {ρ κ : Type} [DecidableEq κ]

/-- **Every connection is configured and authenticated.**  Whatever a process started by
`main` is sent, and however its directory changes and is reloaded meanwhile, it connects
only to addresses of targets that the documents of the directory at its start list, for
requests that they route there; and for every policy of the router that exists among
them with a JWT section, the request bears a token that a fetched key set accepts. -/
theorem connections_configured {env : MainEnv ρ} {flags : Flags} {d : Deployment ρ Unit}
    (hmain : (main env flags).result = some d) {evs : List (κ × SessionInput)}
    {st : ProcessState Unit × (κ → Session GatewayHandlerRef)} {outs : List (κ × SessionEffect)}
    (hrun : d.run () evs = some (st, outs)) {k : κ} {addr : SocketAddress} {client : UpstreamClient}
    (hconnect : (k, .served (.connect addr client)) ∈ outs) :
    ∃ entries router msg rand64, env.directory flags.configDir = .listing entries none ∧
      (k, .request msg rand64) ∈ evs ∧
      ConfiguredRoute env.platform (documents env.parseJson entries) msg router addr ∧
      ∀ name ∈ router.policies, ∀ pc, resolve ((documents env.parseJson entries).filterMap policyOf) name = some pc →
        pc.jwt ≠ none →
        AuthenticatedFor env.network env.jwt ((documents env.parseJson entries).filterMap policyOf) msg name := by
  obtain ⟨store, jwksCaches, hstart, rfl⟩ := result_main_eq_some hmain
  obtain ⟨before, msg, rand64, after, -, outs₀, -, -, keys, handler, msg', trace, rfl, -, -, hdecides, htrace, htraced,
    -⟩ := Deployment.exists_proxy_of_contacts hrun hconnect rfl
  obtain rfl := htrace.addr_eq htraced
  have hfetched := fetchJwksCaches_of_startup hstart
  cases hdecides with
  | proxied router _ _ hrouter hdispatch hadmitted hallowed =>
      change RoutedTo env.platform.re store msg router at hrouter
      obtain ⟨hmem, hrule⟩ := exists_serves_of_routedTo hrouter
      obtain ⟨entries, hdir, rfl⟩ := exists_listing_of_startup hstart hmem
      obtain ⟨destination, i, service, j, target, addr, hdestination, hfirst, hresolved, haddr, rfl⟩ := hdispatch
      refine ⟨entries, router, msg, rand64, hdir, by simp, ⟨List.mem_filterMap.mp hmem, hrule, ?_⟩, ?_⟩
      · exact ⟨destination, service, hdestination, List.mem_filterMap.mp hfirst.mem, hfirst.hit, i, j, target,
          hresolved.mem, haddr⟩
      · intro name hname pc hpc hjwt
        obtain ⟨cfg, hcfg⟩ := Option.ne_none_iff_exists'.mp hjwt
        exact authenticatedFor_of_admittedAs hfetched hadmitted hname hpc hcfg

end Program

namespace Sample

theorem main_isSome : (main mainEnv {}).result.isSome = true := by decide +kernel

/-- The process that `main` starts from the sample directory. -/
def launched : Deployment Unit Unit := (main mainEnv {}).result.get main_isSome

/-- A request with the sample token. -/
def tokenSession : List (Bool × SessionInput) := [(true, .request request (0, 0)), (true, .event .onEOM)]

theorem tokenSession_isSome : (launched.run () tokenSession).isSome = true := by decide +kernel

/-- What the run comes to. -/
def tokenRun := (launched.run () tokenSession).get tokenSession_isSome

theorem run_tokenSession : launched.run () tokenSession = some tokenRun :=
  (Option.some_get tokenSession_isSome).symm

/-- The request that goes to the service: with the subject of the token, without the
token. -/
def tokenClient : UpstreamClient where
  upstreamReq :=
    { method := str "GET"
      url := str "/"
      headers :=
        [(str "x-request-id", str "00000000000000000000000000000000"),
          (str "x-trace-id", str "00000000000000000000000000000000"), (str "x-jwt-subject", str "alice"),
          (str "x-auth-method", str "jwt"), (str "Host", str "10.0.0.1")] }
  requestBody := none

end Sample

/-- The connection for the request with the sample token. -/
theorem token_connection_configured :
    ∃ entries router msg rand64, Sample.dirWith Sample.policyText = .listing entries none ∧
      (true, .request msg rand64) ∈ Sample.tokenSession ∧
      ConfiguredRoute Sample.mainEnv.platform (documents Sample.parseJson entries) msg router ⟨str "10.0.0.1", 80⟩ ∧
      ∀ name ∈ router.policies, ∀ pc, resolve ((documents Sample.parseJson entries).filterMap policyOf) name = some pc →
        pc.jwt ≠ none →
        AuthenticatedFor Sample.mainEnv.network Sample.issued.lib
          ((documents Sample.parseJson entries).filterMap policyOf) msg name := by
  have hmain : (main Sample.mainEnv {}).result = some Sample.launched := (Option.some_get Sample.main_isSome).symm
  have hrun : Sample.launched.run () Sample.tokenSession = some (Sample.tokenRun.1, Sample.tokenRun.2) := by
    rw [Prod.mk.eta, Sample.run_tokenSession]
  have hconnect : (true, SessionEffect.served (.connect ⟨str "10.0.0.1", 80⟩ Sample.tokenClient)) ∈
      Sample.tokenRun.2 := by decide +kernel
  exact connections_configured hmain hrun hconnect

end Kimchi
