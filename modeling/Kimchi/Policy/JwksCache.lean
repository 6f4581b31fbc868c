import Mathlib.Data.List.AList
import Kimchi.Config.Models
import Kimchi.Library.Throwing

/-!
# JWKS caches and their start-up loop

`policy/jwks_cache.cpp` and the loop of `main.cpp` that fetches a key set for every
policy with a JWT section before any traffic is accepted.  The network is a
parameter: the URI parser and the HTTP client may answer or throw, and the HTTP
client may answer differently each time it is called.

The loop assigns into a map, so of several JWT policies with one name the **last**
one stays.  `lookup_fetchJwksCaches` says which configuration a name ends up with, and
`exists_fetch_of_lookup` that every key set in the map was fetched.
-/

namespace Kimchi

open Config Library

/-- An immutable key set snapshot, with the configuration it was fetched for. -/
structure JwksCache where
  jwtConfig : JwtConfig
  jwksJson : Str
  deriving DecidableEq, Repr

/-- `folly::Uri`. -/
structure Uri where
  scheme : Str
  host : Str
  port : UInt16
  path : Str
  query : Str
  deriving DecidableEq, Repr

/-- The outside world of the start-up: `folly::Uri`'s constructor and `httpGet`,
whose answers may differ from call to call. -/
structure Network where
  parseUri : Str → Except Str Uri
  httpGet : Nat → Str → UInt16 → Str → Except Str Str

/-- The port of the request; `folly::Uri` gives port 0 when the text has none. -/
def Uri.jwksPort (uri : Uri) : UInt16 := if uri.port ≠ 0 then uri.port else 80

/-- The request target: the path, and the query if there is one. -/
def Uri.jwksPath (uri : Uri) : Str :=
  let path := if uri.path = [] then str "/" else uri.path
  if uri.query ≠ [] then path ++ (str "?" ++ uri.query) else path

/-- `JwksCache::fetch`, as the `call`-th use of the network. -/
def JwksCache.fetch (net : Network) (call : Nat) (cfg : JwtConfig) : Except Str JwksCache := do
  if cfg.jwksUri = [] then throw (str "JwtConfig.jwksUri is empty")
  let uri ← net.parseUri cfg.jwksUri
  if uri.scheme ≠ str "http" then
    throw (str "JWKS URI scheme '" ++ uri.scheme ++
      str "' is not supported (only 'http' in v1); got: " ++ cfg.jwksUri)
  let json ← net.httpGet call uri.host uri.jwksPort uri.jwksPath
  return { jwtConfig := cfg, jwksJson := json }

/-- **A fetched cache** holds what the HTTP client returned, and keeps the
configuration it was fetched for. -/
theorem JwksCache.fetch_eq_ok_iff {net : Network} {call : Nat} {cfg : JwtConfig} {cache : JwksCache} :
    JwksCache.fetch net call cfg = .ok cache ↔
      cfg.jwksUri ≠ [] ∧ ∃ uri, net.parseUri cfg.jwksUri = .ok uri ∧ uri.scheme = str "http" ∧
        net.httpGet call uri.host uri.jwksPort uri.jwksPath = .ok cache.jwksJson ∧
        cache.jwtConfig = cfg := by
  unfold JwksCache.fetch
  constructor
  · intro h
    obtain ⟨huri, h⟩ := guard_eq_ok_iff.mp h
    obtain ⟨uri, hparse, h⟩ := bind_eq_ok_iff.mp h
    obtain ⟨hscheme, h⟩ := guard_eq_ok_iff.mp h
    obtain ⟨json, hget, h⟩ := bind_eq_ok_iff.mp h
    obtain rfl := pure_eq_ok_iff.mp h
    exact ⟨huri, uri, hparse, not_not.mp hscheme, hget, rfl⟩
  · rintro ⟨huri, uri, hparse, hscheme, hget, rfl⟩
    refine guard_eq_ok_iff.mpr ⟨huri, bind_eq_ok_iff.mpr ⟨uri, hparse, ?_⟩⟩
    refine guard_eq_ok_iff.mpr ⟨not_not.mpr hscheme, bind_eq_ok_iff.mpr ⟨cache.jwksJson, hget, rfl⟩⟩

/-- `std::map<std::string, std::shared_ptr<JwksCache>>`. -/
abbrev JwksCaches := AList fun _ : Str => JwksCache

/-- The loop of `main` over `store.policies`.  `fetch` is the call of `JwksCache::fetch` for
a policy, as the `call`-th use of the network; it is run in a monad that says how the
process ends and what is seen of it meanwhile. -/
def fetchLoopWith {m : Type → Type} [Monad m] (fetch : Nat → PolicyConfig → JwtConfig → m JwksCache) :
    Nat → List PolicyConfig → JwksCaches → m JwksCaches
  | _, [], jwksCaches => pure jwksCaches
  | call, policy :: rest, jwksCaches =>
      match policy.jwt with
      | none =>
          -- `continue`, without using the network
          fetchLoopWith fetch call rest jwksCaches
      | some jwtCfg => do
          let cache ← fetch call policy jwtCfg
          fetchLoopWith fetch (call + 1) rest (jwksCaches.insert policy.metadata.name cache)

/-- The loop as far as the caches go: `none` where `LOG(FATAL)` ends the process. -/
def fetchLoop (net : Network) : Nat → List PolicyConfig → JwksCaches → Option JwksCaches :=
  fetchLoopWith fun call _ jwtCfg => (JwksCache.fetch net call jwtCfg).toOption

/-- The caches the servers are started with. -/
def fetchJwksCaches (net : Network) (policies : List PolicyConfig) : Option JwksCaches :=
  fetchLoop net 0 policies ∅

/-- The JWT sections of the policies with a name, in order. -/
def jwtSections (policies : List PolicyConfig) (name : Str) : List JwtConfig :=
  policies.filterMap fun pc => if pc.metadata.name = name then pc.jwt else none

/-- One round of a loop that ends: a policy without a JWT section is skipped, the key
set of any other is fetched and stored under its name. -/
theorem fetchLoop_cons_eq_some {net : Network} {call : Nat} {policy : PolicyConfig}
    {rest : List PolicyConfig} {before after : JwksCaches}
    (h : fetchLoop net call (policy :: rest) before = some after) :
    (policy.jwt = none ∧ fetchLoop net call rest before = some after) ∨
      ∃ jwtCfg cache, policy.jwt = some jwtCfg ∧ JwksCache.fetch net call jwtCfg = .ok cache ∧
        fetchLoop net (call + 1) rest (before.insert policy.metadata.name cache) = some after := by
  unfold fetchLoop fetchLoopWith at h
  cases hjwt : policy.jwt with
  | none =>
      rw [hjwt] at h
      exact Or.inl ⟨rfl, h⟩
  | some jwtCfg =>
      rw [hjwt] at h
      obtain ⟨cache, hfetch, hrest⟩ := Option.bind_eq_some_iff.mp h
      exact Or.inr ⟨jwtCfg, cache, rfl, toOption_eq_some_iff.mp hfetch, hrest⟩

/-- Run lemma of the loop: a name keeps its last JWT section, or what the map held
before. -/
theorem lookup_fetchLoop {net : Network} {call : Nat} {policies : List PolicyConfig}
    {before after : JwksCaches} (h : fetchLoop net call policies before = some after) (name : Str) :
    (after.lookup name).map JwksCache.jwtConfig =
      (jwtSections policies name).getLast?.or ((before.lookup name).map JwksCache.jwtConfig) := by
  induction policies generalizing call before with
  | nil =>
      obtain rfl : before = after := Option.some.inj h
      simp [jwtSections]
  | cons policy rest ih =>
      rcases fetchLoop_cons_eq_some h with ⟨hjwt, hrest⟩ | ⟨jwtCfg, cache, hjwt, hfetch, hrest⟩
      · have hsections : jwtSections (policy :: rest) name = jwtSections rest name := by
          simp [jwtSections, hjwt]
        rw [hsections]
        exact ih hrest
      · obtain ⟨-, -, -, -, -, hcfg⟩ := JwksCache.fetch_eq_ok_iff.mp hfetch
        rw [ih hrest]
        by_cases hname : policy.metadata.name = name
        · -- this policy's section is shadowed only by a later one of the same name
          subst hname
          have hsections : jwtSections (policy :: rest) policy.metadata.name =
              jwtCfg :: jwtSections rest policy.metadata.name := by
            simp [jwtSections, hjwt]
          rw [hsections, AList.lookup_insert, List.getLast?_cons]
          cases (jwtSections rest policy.metadata.name).getLast? <;> simp [hcfg]
        · have hsections : jwtSections (policy :: rest) name = jwtSections rest name := by
            simp [jwtSections, hname]
          rw [hsections, AList.lookup_insert_ne (Ne.symm hname)]

/-- Run lemma of the loop: what the map holds in the end was there before or has been
fetched. -/
theorem exists_fetch_of_fetchLoop {net : Network} {call : Nat} {policies : List PolicyConfig}
    {before after : JwksCaches} (h : fetchLoop net call policies before = some after) {name : Str}
    {cache : JwksCache} (hcache : after.lookup name = some cache) :
    before.lookup name = some cache ∨
      ∃ call' jwtCfg, JwksCache.fetch net call' jwtCfg = .ok cache := by
  induction policies generalizing call before with
  | nil =>
      obtain rfl : before = after := Option.some.inj h
      exact Or.inl hcache
  | cons policy rest ih =>
      rcases fetchLoop_cons_eq_some h with ⟨-, hrest⟩ | ⟨jwtCfg, fetched, -, hfetch, hrest⟩
      · exact ih hrest
      · rcases ih hrest with hinserted | hlater
        · by_cases hname : name = policy.metadata.name
          · rw [hname, AList.lookup_insert] at hinserted
            obtain rfl := Option.some.inj hinserted
            exact Or.inr ⟨call, jwtCfg, hfetch⟩
          · rw [AList.lookup_insert_ne hname] at hinserted
            exact Or.inl hinserted
        · exact Or.inr hlater

/-- **Which configuration a name ends up with:** that of the last policy of the name
with a JWT section. -/
theorem lookup_fetchJwksCaches {net : Network} {policies : List PolicyConfig} {jwksCaches : JwksCaches}
    (h : fetchJwksCaches net policies = some jwksCaches) (name : Str) :
    (jwksCaches.lookup name).map JwksCache.jwtConfig = (jwtSections policies name).getLast? := by
  simpa using lookup_fetchLoop h name

/-- The servers are started with fetched key sets only. -/
theorem exists_fetch_of_lookup {net : Network} {policies : List PolicyConfig} {jwksCaches : JwksCaches}
    (h : fetchJwksCaches net policies = some jwksCaches) {name : Str} {cache : JwksCache}
    (hcache : jwksCaches.lookup name = some cache) :
    ∃ call jwtCfg, JwksCache.fetch net call jwtCfg = .ok cache := by
  rcases exists_fetch_of_fetchLoop h hcache with hempty | hfetched
  · cases hempty
  · exact hfetched

/-- Every policy with a JWT section has a cache under its name. -/
theorem exists_lookup_of_jwt {net : Network} {policies : List PolicyConfig} {jwksCaches : JwksCaches}
    (h : fetchJwksCaches net policies = some jwksCaches) {pc : PolicyConfig} (hpc : pc ∈ policies)
    {jwtCfg : JwtConfig} (hjwt : pc.jwt = some jwtCfg) :
    ∃ cache, jwksCaches.lookup pc.metadata.name = some cache := by
  have hlookup := lookup_fetchJwksCaches h pc.metadata.name
  have hmem : jwtCfg ∈ jwtSections policies pc.metadata.name :=
    List.mem_filterMap.mpr ⟨pc, hpc, by simp [hjwt]⟩
  cases hcache : jwksCaches.lookup pc.metadata.name with
  | some cache => exact ⟨cache, rfl⟩
  | none =>
      rw [hcache] at hlookup
      have hnil : jwtSections policies pc.metadata.name = [] :=
        List.getLast?_eq_none_iff.mp hlookup.symm
      rw [hnil] at hmem
      cases hmem

end Kimchi
