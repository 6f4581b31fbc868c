import Kimchi.Config.Loader
import Kimchi.Handler.GatewayHandlerFactory
import Kimchi.Policy.ChainGating

/-!
# From configuration files to a running gateway

The path of `main.cpp`: the store is loaded from the configuration directory, a key
set is fetched for every policy with a JWT section, and the servers are started with
both.  A file that cannot be read or parsed, or whose document throws, is skipped,
and a policy name that no loaded policy has is skipped again when a chain is built.

`unresolved_refused_iff` says for which requests that is harmless: the gateway
refuses a request on a router with an unresolved policy name exactly when the JWT
policies that do resolve refuse it.
-/

namespace Kimchi

open Config Library

/-- The store and the key sets the servers are started with; `none` where the
process ends instead. -/
def startup (parseJson : Str → Option Dynamic) (net : Network) (dir : ConfigDir) :
    Option (ConfigStore × JwksCaches) :=
  match loadFromDirectory parseJson dir with
  | .error _ =>
      -- `main` does not catch what the directory iteration throws
      none
  | .ok store => (fetchJwksCaches net store.policies).map fun jwksCaches => (store, jwksCaches)

theorem fetchJwksCaches_of_startup {parseJson : Str → Option Dynamic} {net : Network} {dir : ConfigDir}
    {store : ConfigStore} {jwksCaches : JwksCaches}
    (h : startup parseJson net dir = some (store, jwksCaches)) :
    fetchJwksCaches net store.policies = some jwksCaches := by
  unfold startup at h
  cases hload : loadFromDirectory parseJson dir with
  | error what =>
      rw [hload] at h
      cases h
  | ok loaded =>
      rw [hload] at h
      obtain ⟨fetched, hfetch, heq⟩ := Option.map_eq_some_iff.mp h
      cases heq
      exact hfetch

namespace PolicyEngine

section

variable {net : Network} {engine : PolicyEngine}
  (h : fetchJwksCaches net engine.store.policies = some engine.jwksCaches)
  (sort : UnstableSort orderBefore) (router : RouterConfig)

include h

theorem jwks_eq_nil_iff : jwks sort engine router = [] ↔ engine.listedJwt router = [] := by
  obtain ⟨pcs, -, hperm, hjwks⟩ := jwks_listedJwt h sort router
  have hlength : (jwks sort engine router).length = (engine.listedJwt router).length :=
    hjwks.length_eq.symm.trans hperm.length_eq
  rw [← List.length_eq_zero_iff, ← List.length_eq_zero_iff, hlength]

theorem jwks_eq_singleton_iff {c : JwksCache} :
    jwks sort engine router = [c] ↔
      ∃ pc, engine.listedJwt router = [pc] ∧ engine.jwksCaches.lookup pc.metadata.name = some c := by
  obtain ⟨pcs, -, hperm, hjwks⟩ := jwks_listedJwt h sort router
  constructor
  · intro hone
    rw [hone] at hjwks
    cases hjwks with
    | cons hlookup hrest =>
        cases hrest
        exact ⟨_, List.perm_singleton.mp hperm.symm, hlookup⟩
  · rintro ⟨pc, hlisted, hlookup⟩
    rw [hlisted] at hperm
    obtain rfl := List.perm_singleton.mp hperm
    -- the correspondence has one member on the left, so it has one on the right
    generalize jwks sort engine router = cs at hjwks
    cases hjwks with
    | cons hlookup' hrest =>
        cases hrest
        rw [hlookup] at hlookup'
        rw [Option.some.inj hlookup']

end

end PolicyEngine

/-- Every policy name a router lists is the name of a policy. -/
def AllResolve (store : ConfigStore) (router : RouterConfig) : Prop :=
  ∀ name ∈ router.policies, ∃ pc ∈ store.policies, pc.metadata.name = name

/-- The JWT policies among the names that do resolve let the request through: there
is none, or there is one and the request bears a token that it accepts. -/
def ResolvedPoliciesAdmit (lib : JwtLib) (engine : PolicyEngine) (router : RouterConfig)
    (msg : HTTPMessage) : Prop :=
  engine.listedJwt router = [] ∨
    ∃ pc c token, engine.listedJwt router = [pc] ∧
      engine.jwksCaches.lookup pc.metadata.name = some c ∧
      JwtPolicy.BearsToken msg token ∧ Accepts lib c token

/-- What the filters of a gateway meet: its rate-limit store is the stub. -/
def gatewayEnv (lib : JwtLib) (rand64 : UInt64 × UInt64) : FilterEnv :=
  { jwt := lib, rateLimitStore := nullRateLimitStore, rand64 := rand64 }

/-- After start-up a request reaches the terminal exactly when the policies that
resolve let it through. -/
theorem reachesTerminal_iff_resolvedPoliciesAdmit {net : Network} {engine : PolicyEngine}
    (h : fetchJwksCaches net engine.store.policies = some engine.jwksCaches)
    (sort : UnstableSort PolicyEngine.orderBefore) (router : RouterConfig) (handler : GatewayHandler)
    (lib : JwtLib) (rand64 : UInt64 × UInt64) (msg : HTTPMessage) :
    ReachesTerminal (gatewayEnv lib rand64) (engine.buildChain sort router handler) msg ↔
      ResolvedPoliciesAdmit lib engine router msg := by
  rw [reachesTerminal_buildChain_iff sort engine router handler rfl, policiesAdmit_iff,
    PolicyEngine.jwks_eq_nil_iff h]
  simp only [bearsToken_traced_iff, PolicyEngine.jwks_eq_singleton_iff h]
  unfold ResolvedPoliciesAdmit
  constructor
  · rintro (hnone | ⟨c, token, ⟨pc, hlisted, hlookup⟩, hbears, haccepts⟩)
    · exact Or.inl hnone
    · exact Or.inr ⟨pc, c, token, hlisted, hlookup, hbears, haccepts⟩
  · rintro (hnone | ⟨pc, c, token, hlisted, hlookup, hbears, haccepts⟩)
    · exact Or.inl hnone
    · exact Or.inr ⟨c, token, ⟨pc, hlisted, hlookup⟩, hbears, haccepts⟩

/-- **Unresolved policy names fail closed exactly when there is none, or the
policies that resolve refuse the request anyway.**  The statement is about a gateway
started from any configuration directory and any request for which it builds a
chain. -/
theorem unresolved_refused_iff {ρ : Type*} (parseJson : Str → Option Dynamic) (net : Network)
    (dir : ConfigDir) (platform : Platform ρ) (lib : JwtLib) (rand64 : UInt64 × UInt64) (msg : HTTPMessage)
    {store : ConfigStore} {jwksCaches : JwksCaches} {chain : RequestHandler GatewayHandler}
    (hstart : startup parseJson net dir = some (store, jwksCaches))
    (hchain : (GatewayHandlerFactory.new platform store jwksCaches).onRequest platform msg = .chain chain) :
    ((∃ name ∈ chain.target.router.policies, ∀ pc ∈ store.policies, pc.metadata.name ≠ name) →
      ¬ ReachesTerminal (gatewayEnv lib rand64) chain msg) ↔
    (AllResolve store chain.target.router ∨
      ¬ ResolvedPoliciesAdmit lib { store := store, jwksCaches := jwksCaches } chain.target.router msg) := by
  obtain ⟨router, destination, cached, addr, -, -, -, -, rfl⟩ :=
    GatewayHandlerFactory.onRequest_eq_chain_iff.mp hchain
  have hunresolved : (∃ name ∈ router.policies, ∀ pc ∈ store.policies, pc.metadata.name ≠ name) ↔
      ¬ AllResolve store router := by
    simp [AllResolve]
  rw [PolicyEngine.buildChain_eq, RequestHandler.target_ofFilters, ← PolicyEngine.buildChain_eq]
  simp only
  rw [hunresolved]
  have hfetched :
      fetchJwksCaches net (GatewayHandlerFactory.new platform store jwksCaches).engine.store.policies =
        some (GatewayHandlerFactory.new platform store jwksCaches).engine.jwksCaches :=
    fetchJwksCaches_of_startup hstart
  rw [reachesTerminal_iff_resolvedPoliciesAdmit hfetched]
  -- with a name unresolved the property is that the remaining policies refuse
  constructor
  · intro hfail
    by_cases hall : AllResolve store router
    · exact Or.inl hall
    · exact Or.inr (hfail hall)
  · rintro (hall | hrefuse) hnot
    · exact absurd hall hnot
    · exact hrefuse

/-! ## A policy file with a missing brace

A router that lists the policy `auth`, its service, and the policy's file twice:
once as it should be, once with its last brace missing. -/

namespace Sample

/-- A router for every path that lists the policy `auth`. -/
def routerText : Str :=
  str ("\x7b\"kind\":\"Router\",\"spec\":\x7b\"rules\":[\x7b\"path\":\"/\"\x7d],\"config\":\x7b\"destinations\":" ++
    "[\x7b\"destinationRef\":\x7b\"name\":\"s\"\x7d\x7d]\x7d,\"policies\":[\"auth\"]\x7d\x7d")

/-- Its service, with one target. -/
def serviceText : Str :=
  str ("\x7b\"kind\":\"Service\",\"metadata\":\x7b\"name\":\"s\"\x7d,\"spec\":\x7b\"loadBalancing\":\x7b\"targets\":" ++
    "[\x7b\"host\":\"10.0.0.1\",\"port\":80\x7d]\x7d\x7d\x7d")

/-- The policy without its last brace. -/
def brokenPolicyText : Str :=
  str ("\x7b\"kind\":\"Policy\",\"metadata\":\x7b\"name\":\"auth\"\x7d,\"spec\":\x7b\"security\":\x7b\"jwt\":" ++
    "\x7b\"jwksUri\":\"http://idp/jwks\"\x7d\x7d\x7d")

/-- The policy as it should be. -/
def policyText : Str := brokenPolicyText ++ str "\x7d"

/-- An object. -/
def obj (fields : List (String × Dynamic)) : Dynamic := .object (fields.map fun (key, v) => (str key, v))

/-- A string. -/
def text (s : String) : Dynamic := .string (str s)

/-- The value of `routerText`. -/
def routerDoc : Dynamic :=
  obj [("kind", text "Router"),
    ("spec", obj [("rules", .array [obj [("path", text "/")]]),
      ("config", obj [("destinations", .array [obj [("destinationRef", obj [("name", text "s")])]])]),
      ("policies", .array [text "auth"])])]

/-- The value of `serviceText`. -/
def serviceDoc : Dynamic :=
  obj [("kind", text "Service"), ("metadata", obj [("name", text "s")]),
    ("spec", obj [("loadBalancing",
      obj [("targets", .array [obj [("host", text "10.0.0.1"), ("port", .int64 80)]])])])]

/-- The value of `policyText`. -/
def policyDoc : Dynamic :=
  obj [("kind", text "Policy"), ("metadata", obj [("name", text "auth")]),
    ("spec", obj [("security", obj [("jwt", obj [("jwksUri", text "http://idp/jwks")])])])]

/-- `folly::parseJson` on these texts; the broken one is not JSON. -/
def parseJson (content : Str) : Option Dynamic :=
  [(routerText, routerDoc), (serviceText, serviceDoc), (policyText, policyDoc)].lookup content

/-- A file of the directory with this content. -/
def jsonFile (content : Str) : DirEntry :=
  { isRegularFile := true, extension := str ".json", content := some content }

/-- The directory with the router, the service and one version of the policy file. -/
def dirWith (policy : Str) : ConfigDir :=
  .listing [jsonFile routerText, jsonFile serviceText, jsonFile policy] none

theorem parseJson_routerText : parseJson routerText = some routerDoc := List.lookup_cons_self

theorem parseJson_serviceText : parseJson serviceText = some serviceDoc := by
  have hne : (serviceText == routerText) = false := by decide
  rw [parseJson, List.lookup_cons, hne]
  exact List.lookup_cons_self

theorem parseJson_policyText : parseJson policyText = some policyDoc := by
  have hrouter : (policyText == routerText) = false := by decide
  have hservice : (policyText == serviceText) = false := by decide
  rw [parseJson, List.lookup_cons, hrouter, List.lookup_cons, hservice]
  exact List.lookup_cons_self

theorem parseJson_brokenPolicyText : parseJson brokenPolicyText = none := by
  have hrouter : (brokenPolicyText == routerText) = false := by decide
  have hservice : (brokenPolicyText == serviceText) = false := by decide
  have hpolicy : (brokenPolicyText == policyText) = false := by
    rw [beq_eq_false_iff_ne]
    intro heq
    have hlength := congrArg List.length heq
    rw [policyText, List.length_append] at hlength
    have hbrace : (str "\x7d").length = 1 := rfl
    omega
  rw [parseJson, List.lookup_cons, hrouter, List.lookup_cons, hservice, List.lookup_cons, hpolicy]
  rfl

theorem loadEntry_jsonFile (store : ConfigStore) (content : Str) :
    loadEntry parseJson store (jsonFile content) =
      match parseJson content with
      | none => store
      | some doc => (dispatchDocument doc store).2 := rfl

theorem loadEntry_of_parseJson {content : Str} {doc : Dynamic} (h : parseJson content = some doc)
    (store : ConfigStore) : loadEntry parseJson store (jsonFile content) = (dispatchDocument doc store).2 := by
  rw [loadEntry_jsonFile, h]

/-- The router as it is stored: a rule without `pathType` is a prefix rule. -/
def router : RouterConfig :=
  { kind := str "Router"
    rules := [{ path := str "/" }]
    destinations := [{ destinationName := str "s" }]
    policies := [str "auth"] }

/-- The service as it is stored. -/
def service : ServiceConfig :=
  { kind := str "Service"
    metadata := { name := str "s" }
    loadBalancing := { targets := [{ host := str "10.0.0.1", port := 80 }] } }

/-- The policy as it is stored: neither issuer nor audience is configured. -/
def policy : PolicyConfig :=
  { kind := str "Policy"
    metadata := { name := str "auth" }
    spec :=
      { security := some { jwt := some { jwksUri := str "http://idp/jwks", issuer := [], audience := [] } } } }

/-- The documents as they are stored, whatever the store held before. -/
theorem dispatchDocument_routerDoc (store : ConfigStore) :
    (dispatchDocument routerDoc store).2 = { store with routers := store.routers ++ [router] } := rfl

theorem dispatchDocument_serviceDoc (store : ConfigStore) :
    (dispatchDocument serviceDoc store).2 = { store with services := store.services ++ [service] } := rfl

theorem dispatchDocument_policyDoc (store : ConfigStore) :
    (dispatchDocument policyDoc store).2 = { store with policies := store.policies ++ [policy] } := rfl

theorem load_broken :
    loadFromDirectory parseJson (dirWith brokenPolicyText) =
      .ok { routers := [router], services := [service] } := by
  rw [dirWith, loadFromDirectory, List.foldl_cons, loadEntry_of_parseJson parseJson_routerText,
    dispatchDocument_routerDoc, List.foldl_cons, loadEntry_of_parseJson parseJson_serviceText,
    dispatchDocument_serviceDoc, List.foldl_cons, loadEntry_jsonFile, parseJson_brokenPolicyText]
  rfl

theorem load_intact :
    loadFromDirectory parseJson (dirWith policyText) =
      .ok { routers := [router], services := [service], policies := [policy] } := by
  rw [dirWith, loadFromDirectory, List.foldl_cons, loadEntry_of_parseJson parseJson_routerText,
    dispatchDocument_routerDoc, List.foldl_cons, loadEntry_of_parseJson parseJson_serviceText,
    dispatchDocument_serviceDoc, List.foldl_cons, loadEntry_of_parseJson parseJson_policyText,
    dispatchDocument_policyDoc]
  rfl

/-- Insertion sort, a resolver that knows the target, and no regular expression in
sight. -/
def platform : Platform Unit where
  prefixSort := .insertion longerFirst longerFirst_asymm longerFirst_trans
  orderSort := PolicyEngine.orderSort
  re := { compile := fun _ => none, regexMatch := fun _ _ => false }
  dns _ _ host port := some { ip := host, port := port }

/-- A request without credentials. -/
def plainRequest : HTTPMessage :=
  { method := str "GET", url := str "/", path := str "/", queryString := [], headers := [] }

/-- The handler for a request to the service. -/
def handler : GatewayHandler :=
  { router := router, service := service, upstreamAddr := { ip := str "10.0.0.1", port := 80 } }

/-- Whatever the policies and the key sets, the request is dispatched to the
service. -/
theorem onRequest_plainRequest (policies : List PolicyConfig) (jwksCaches : JwksCaches) :
    (GatewayHandlerFactory.new platform { routers := [router], services := [service], policies := policies }
        jwksCaches).onRequest platform plainRequest =
      .chain (PolicyEngine.buildChain PolicyEngine.orderSort
        { store := { routers := [router], services := [service], policies := policies }
          jwksCaches := jwksCaches } router handler) := rfl

/-- The key set fetched for the intact policy. -/
def intactCaches : JwksCaches := (fetchJwksCaches network [policy]).getD ∅

theorem startup_intact :
    startup parseJson network (dirWith policyText) =
      some ({ routers := [router], services := [service], policies := [policy] }, intactCaches) := by
  rw [startup, load_intact]
  rfl

theorem startup_broken :
    startup parseJson network (dirWith brokenPolicyText) =
      some ({ routers := [router], services := [service] }, ∅) := by
  rw [startup, load_broken]
  rfl

end Sample

/-- With the intact file every name resolves, and nothing fails open. -/
theorem intact_policy_file_resolves :
    ∃ store jwksCaches chain,
      startup Sample.parseJson Sample.network (Sample.dirWith Sample.policyText) = some (store, jwksCaches) ∧
      (GatewayHandlerFactory.new Sample.platform store jwksCaches).onRequest Sample.platform
        Sample.plainRequest = .chain chain ∧
      ((∃ name ∈ chain.target.router.policies, ∀ pc ∈ store.policies, pc.metadata.name ≠ name) →
        ¬ ReachesTerminal (gatewayEnv Sample.issued.lib (1, 2)) chain Sample.plainRequest) := by
  have hchain := Sample.onRequest_plainRequest [Sample.policy] Sample.intactCaches
  refine ⟨_, _, _, Sample.startup_intact, hchain, ?_⟩
  refine (unresolved_refused_iff Sample.parseJson Sample.network (Sample.dirWith Sample.policyText)
    Sample.platform Sample.issued.lib (1, 2) Sample.plainRequest Sample.startup_intact hchain).mpr (Or.inl ?_)
  intro name hname
  have hauth : name = str "auth" := List.mem_singleton.mp hname
  exact ⟨Sample.policy, List.mem_singleton.mpr rfl, hauth.symm⟩

/-- With the broken file the router still lists `auth`, no policy has that name, and
a request without credentials reaches the upstream handler. -/
theorem broken_policy_file_fails_open :
    ∃ store jwksCaches chain,
      startup Sample.parseJson Sample.network (Sample.dirWith Sample.brokenPolicyText) =
        some (store, jwksCaches) ∧
      (GatewayHandlerFactory.new Sample.platform store jwksCaches).onRequest Sample.platform
        Sample.plainRequest = .chain chain ∧
      (∃ name ∈ chain.target.router.policies, ∀ pc ∈ store.policies, pc.metadata.name ≠ name) ∧
      ReachesTerminal (gatewayEnv Sample.issued.lib (1, 2)) chain Sample.plainRequest := by
  have hchain := Sample.onRequest_plainRequest [] ∅
  refine ⟨_, _, _, Sample.startup_broken, hchain, ⟨str "auth", ?_, ?_⟩, ?_⟩
  · exact List.mem_singleton.mpr rfl
  · intro pc hpc
    cases hpc
  · refine (reachesTerminal_buildChain_iff _ _ _ _ rfl).mpr ?_
    exact policiesAdmit_iff.mpr (Or.inl rfl)

end Kimchi
