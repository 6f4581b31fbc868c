import Kimchi.Library.Aborting
import Kimchi.Server.ProcessRuns
import Kimchi.Server.Startup

/-!
# `main`

The start of the process (`main.cpp`, `server/admin_server.cpp`,
`server/gateway_server.cpp`) with everything it does outside itself, in order: the
directory is read, the key sets are fetched, the two servers are bound and started.  An
exception that nothing catches and `LOG(FATAL)` end the process where they occur.

* `bound_after_keySets` — a server is bound only after a key set has been fetched for
  every JWT policy, and to which addresses.
* `result_main_eq_some` — what is running after `main` has started both servers: the
  process of `Process` over what `startup` gives.
-/

namespace Kimchi

open Config Library

/-- The flags of `main.cpp` with their defaults. -/
structure Flags where
  configDir : Str := str "/etc/kimchi/config"
  dataPortHttp : Int32 := 18000
  adminPort : Int32 := 18001
  deriving DecidableEq, Repr

/-- `static_cast<uint16_t>` of an `int32_t`. -/
def castPort (n : Int32) : UInt16 := n.toUInt32.toUInt16

/-- The two servers of the process. -/
inductive Server where
  | admin
  | gateway
  deriving DecidableEq, Repr

/-- What `main` does outside the process. -/
inductive MainAction where
  | loadFromDirectory (configDir : Str)
  /-- `JwksCache::fetch` for the policy of a name. -/
  | fetch (policy : Str) (jwtCfg : JwtConfig)
  /-- `HTTPServer::bind` on addresses, all of them for plain HTTP. -/
  | bind (server : Server) (addrs : List SocketAddress)
  | start (server : Server)
  deriving DecidableEq, Repr

/-- What `main` meets outside the repository. -/
structure MainEnv (ρ : Type) where
  platform : Platform ρ
  jwt : JwtLib
  parseJson : Str → Option Dynamic
  directory : Str → ConfigDir
  network : Network
  /-- `folly::SocketAddress(host, port)`, which does not resolve names; absent where it
  throws. -/
  socketAddress : Str → UInt16 → Option SocketAddress
  /-- Whether `HTTPServer::bind` returns. -/
  bind : Server → List SocketAddress → Bool

section Main

variable {ρ : Type}

/-- The loop over `store.policies`, with the calls it makes. -/
def fetchAll (net : Network) : Nat → List PolicyConfig → JwksCaches → Aborting MainAction JwksCaches :=
  fetchLoopWith fun call policy jwtCfg =>
    .act (.fetch policy.metadata.name jwtCfg) (JwksCache.fetch net call jwtCfg).toOption

/-- The listeners of the data plane: one on the port of the flag if there is none. -/
def dataListeners (flags : Flags) (store : ConfigStore) : List ListenerConfig :=
  if store.listeners = [] then
    [{ protocol := str "HTTP"
       port := castPort flags.dataPortHttp
       host := str "0.0.0.0"
       metadata := { name := str "default" } }]
  else store.listeners

/-- `HTTPServer::bind`. -/
def MainEnv.bindTo (env : MainEnv ρ) (server : Server) (addrs : List SocketAddress) : Aborting MainAction Unit :=
  .act (.bind server addrs) (if env.bind server addrs then some () else none)

/-- The constructor of `AdminServer`. -/
def AdminServer.new (env : MainEnv ρ) (port : UInt16) : Aborting MainAction Unit := do
  let addr ← .attempt (env.socketAddress (str "0.0.0.0") port)
  env.bindTo .admin [addr]

/-- The constructor of `GatewayServer`, as far as it binds: a listener with TLS is bound
like the others, with a warning. -/
def GatewayServer.new (env : MainEnv ρ) (listeners : List ListenerConfig) : Aborting MainAction Unit := do
  let addrs ← .attempt (listeners.mapM fun listener => env.socketAddress listener.host listener.port)
  env.bindTo .gateway addrs

/-- The process over a store and its key sets.  The factory gives its engine a
`NullRateLimitStore`. -/
def MainEnv.deployment (env : MainEnv ρ) (store : ConfigStore) (jwksCaches : JwksCaches) : Deployment ρ Unit where
  platform := env.platform
  jwt := env.jwt
  limiter := .null
  parseJson := env.parseJson
  store := store
  jwksCaches := jwksCaches

/-- The servers, from their constructors on, and the process that runs then. -/
def startServers (env : MainEnv ρ) (flags : Flags) (store : ConfigStore) (jwksCaches : JwksCaches) :
    Aborting MainAction (Deployment ρ Unit) := do
  AdminServer.new env (castPort flags.adminPort)
  GatewayServer.new env (dataListeners flags store)
  .act (.start .admin) (some ())
  .act (.start .gateway) (some (env.deployment store jwksCaches))

/-- `main`, up to the point where both servers run. -/
def main (env : MainEnv ρ) (flags : Flags) : Aborting MainAction (Deployment ρ Unit) := do
  let store ← .act (.loadFromDirectory flags.configDir)
    (loadFromDirectory env.parseJson (env.directory flags.configDir)).toOption
  let jwksCaches ← fetchAll env.network 0 store.policies ∅
  startServers env flags store jwksCaches

/-! ## The key sets -/

/-- The call for a policy, if it has a JWT section. -/
def fetchOf (policy : PolicyConfig) : Option MainAction := policy.jwt.map (.fetch policy.metadata.name)

/-- With its calls forgotten, the loop gives the caches the servers are started with. -/
theorem result_fetchAll (net : Network) (call : Nat) (policies : List PolicyConfig) (jwksCaches : JwksCaches) :
    (fetchAll net call policies jwksCaches).result = fetchLoop net call policies jwksCaches := by
  induction policies generalizing call jwksCaches with
  | nil => rfl
  | cons policy rest ih =>
      unfold fetchAll fetchLoop fetchLoopWith
      cases policy.jwt with
      | none => exact ih call jwksCaches
      | some jwtCfg =>
          simp only
          cases hfetch : JwksCache.fetch net call jwtCfg with
          | error what => rfl
          | ok cache => exact ih (call + 1) (jwksCaches.insert policy.metadata.name cache)

/-- A loop that returns has made one call for every JWT policy, in order. -/
theorem actions_fetchAll {net : Network} {call : Nat} {policies : List PolicyConfig} {before after : JwksCaches}
    (h : (fetchAll net call policies before).result = some after) :
    (fetchAll net call policies before).actions = policies.filterMap fetchOf := by
  induction policies generalizing call before with
  | nil => rfl
  | cons policy rest ih =>
      unfold fetchAll fetchLoopWith at h ⊢
      cases hjwt : policy.jwt with
      | none =>
          have hnone : fetchOf policy = none := by rw [fetchOf, hjwt, Option.map_none]
          rw [hjwt] at h
          rw [List.filterMap_cons_none hnone]
          exact ih h
      | some jwtCfg =>
          have hsome : fetchOf policy = some (.fetch policy.metadata.name jwtCfg) := by
            rw [fetchOf, hjwt, Option.map_some]
          rw [hjwt] at h
          obtain ⟨cache, hfetch, hrest⟩ := Aborting.result_bind_eq_some_iff.mp h
          simp only
          rw [List.filterMap_cons_some hsome, Aborting.bind_of_some hfetch]
          exact congrArg (MainAction.fetch policy.metadata.name jwtCfg :: ·) (ih hrest)

/-- All its calls are fetches. -/
theorem exists_fetch_of_mem_fetchAll {net : Network} {call : Nat} {policies : List PolicyConfig}
    {jwksCaches : JwksCaches} {a : MainAction} (h : a ∈ (fetchAll net call policies jwksCaches).actions) :
    ∃ policy jwtCfg, a = .fetch policy jwtCfg := by
  induction policies generalizing call jwksCaches with
  | nil => cases h
  | cons policy rest ih =>
      unfold fetchAll fetchLoopWith at h
      cases hjwt : policy.jwt with
      | none =>
          rw [hjwt] at h
          exact ih h
      | some jwtCfg =>
          rw [hjwt] at h
          rcases Aborting.mem_actions_bind h with hfirst | ⟨cache, -, hrest⟩
          · exact ⟨_, _, List.mem_singleton.mp hfirst⟩
          · exact ih hrest

/-! ## The servers -/

/-- The addresses of a server: every interface for the admin server, and one address for
each listener of the data plane. -/
def BoundTo (env : MainEnv ρ) (flags : Flags) (store : ConfigStore) : Server → List SocketAddress → Prop
  | .admin, addrs => ∃ addr, env.socketAddress (str "0.0.0.0") (castPort flags.adminPort) = some addr ∧ addrs = [addr]
  | .gateway, addrs =>
      (dataListeners flags store).mapM (fun listener => env.socketAddress listener.host listener.port) = some addrs

/-- The servers fetch nothing, and are bound to their addresses. -/
theorem cases_of_mem_startServers {env : MainEnv ρ} {flags : Flags} {store : ConfigStore} {jwksCaches : JwksCaches}
    {a : MainAction} (h : a ∈ (startServers env flags store jwksCaches).actions) :
    (∃ server addrs, a = .bind server addrs ∧ BoundTo env flags store server addrs) ∨ ∃ server, a = .start server := by
  rcases Aborting.mem_actions_bind h with hadmin | ⟨-, -, h⟩
  · rcases Aborting.mem_actions_bind hadmin with hnone | ⟨addr, haddr, hbind⟩
    · cases hnone
    · exact Or.inl ⟨.admin, [addr], List.mem_singleton.mp hbind, addr, haddr, rfl⟩
  · rcases Aborting.mem_actions_bind h with hgateway | ⟨-, -, h⟩
    · rcases Aborting.mem_actions_bind hgateway with hnone | ⟨addrs, haddrs, hbind⟩
      · cases hnone
      · exact Or.inl ⟨.gateway, addrs, List.mem_singleton.mp hbind, haddrs⟩
    · rcases Aborting.mem_actions_bind h with hstart | ⟨-, -, hstart⟩
      · exact Or.inr ⟨.admin, List.mem_singleton.mp hstart⟩
      · exact Or.inr ⟨.gateway, List.mem_singleton.mp hstart⟩

/-! ## The process -/

theorem startup_of_load_fetch {env : MainEnv ρ} {flags : Flags} {store : ConfigStore} {jwksCaches : JwksCaches}
    (hload : (loadFromDirectory env.parseJson (env.directory flags.configDir)).toOption = some store)
    (hfetch : (fetchAll env.network 0 store.policies ∅).result = some jwksCaches) :
    startup env.parseJson env.network (env.directory flags.configDir) = some (store, jwksCaches) := by
  have hcaches : fetchJwksCaches env.network store.policies = some jwksCaches := by
    rw [fetchJwksCaches, ← result_fetchAll]
    exact hfetch
  rw [startup, toOption_eq_some_iff.mp hload]
  show (fetchJwksCaches env.network store.policies).map _ = _
  rw [hcaches, Option.map_some]

/-- What runs after `main` has started the servers. -/
theorem result_main_eq_some {env : MainEnv ρ} {flags : Flags} {d : Deployment ρ Unit}
    (h : (main env flags).result = some d) :
    ∃ store jwksCaches,
      startup env.parseJson env.network (env.directory flags.configDir) = some (store, jwksCaches) ∧
        d = env.deployment store jwksCaches := by
  obtain ⟨store, hload, h⟩ := Aborting.result_bind_eq_some_iff.mp h
  obtain ⟨jwksCaches, hfetch, h⟩ := Aborting.result_bind_eq_some_iff.mp h
  obtain ⟨-, -, h⟩ := Aborting.result_bind_eq_some_iff.mp h
  obtain ⟨-, -, h⟩ := Aborting.result_bind_eq_some_iff.mp h
  obtain ⟨-, -, h⟩ := Aborting.result_bind_eq_some_iff.mp h
  exact ⟨store, jwksCaches, startup_of_load_fetch hload hfetch, (Option.some.inj h).symm⟩

/-- **Keys before traffic.**  `main` binds a server only after it has loaded the
directory and fetched a key set for every policy with a JWT section, one call each and
in order; no call for a key set comes later.  The admin server is bound to every
interface, the data plane to the address of each listener, with TLS or without. -/
theorem bound_after_keySets {env : MainEnv ρ} {flags : Flags} {server : Server} {addrs : List SocketAddress}
    (h : .bind server addrs ∈ (main env flags).actions) :
    ∃ store jwksCaches rest,
      startup env.parseJson env.network (env.directory flags.configDir) = some (store, jwksCaches) ∧
      (main env flags).actions =
        .loadFromDirectory flags.configDir :: (store.policies.filterMap fetchOf ++ rest) ∧
      (∀ policy jwtCfg, .fetch policy jwtCfg ∉ rest) ∧ BoundTo env flags store server addrs := by
  -- `bind` belongs to none of the earlier phases
  obtain ⟨store, hload, h, hactions⟩ := Aborting.actions_bind_of_mem h (by simp [Aborting.act])
  have hfetches : MainAction.bind server addrs ∉ (fetchAll env.network 0 store.policies ∅).actions := by
    intro hmem
    obtain ⟨policy, jwtCfg, hfetch⟩ := exists_fetch_of_mem_fetchAll hmem
    cases hfetch
  obtain ⟨jwksCaches, hfetch, h, hrest⟩ := Aborting.actions_bind_of_mem h hfetches
  refine ⟨store, jwksCaches, (startServers env flags store jwksCaches).actions,
    startup_of_load_fetch hload hfetch, ?_, ?_, ?_⟩
  · refine hactions.trans ?_
    rw [hrest, actions_fetchAll hfetch]
    rfl
  · intro policy jwtCfg hmem
    rcases cases_of_mem_startServers hmem with ⟨server, addrs, heq, -⟩ | ⟨server, heq⟩
    · cases heq
    · cases heq
  · rcases cases_of_mem_startServers h with ⟨server', addrs', heq, hbound⟩ | ⟨server', heq⟩
    · cases heq
      exact hbound
    · cases heq

end Main

/-- A directory with a JWT policy whose key set can be fetched, on a machine where every
address can be bound. -/
def Sample.mainEnv : MainEnv Unit where
  platform := platform
  jwt := issued.lib
  parseJson := parseJson
  directory _ := dirWith policyText
  network := { network with httpGet := fun _ _ _ _ => .ok issued.jwksJson }
  socketAddress host port := some ⟨host, port⟩
  bind _ _ := true

/-- The data plane of the sample is bound to the default listener. -/
theorem default_listener_bound :
    ∃ store jwksCaches rest,
      startup Sample.parseJson Sample.mainEnv.network (Sample.dirWith Sample.policyText) =
        some (store, jwksCaches) ∧
      (main Sample.mainEnv {}).actions =
        .loadFromDirectory (str "/etc/kimchi/config") :: (store.policies.filterMap fetchOf ++ rest) ∧
      (∀ policy jwtCfg, .fetch policy jwtCfg ∉ rest) ∧
      BoundTo Sample.mainEnv {} store .gateway [⟨str "0.0.0.0", 18000⟩] := by
  have h : MainAction.bind .gateway [⟨str "0.0.0.0", 18000⟩] ∈ (main Sample.mainEnv {}).actions := by decide +kernel
  exact bound_after_keySets h

end Kimchi
