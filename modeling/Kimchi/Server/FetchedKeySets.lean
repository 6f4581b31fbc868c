import Kimchi.Policy.HttpGet
import Kimchi.Server.Startup

/-!
# Key sets and broken connections

The start-up loop of `main.cpp` over the HTTP client of `policy/jwks_cache.cpp`.  A key
set is to be accepted only if all of it has arrived.  The receive loop takes a failure
for the end of the stream, so a connection that breaks behind the header section of a
200 response leaves a truncated key set, and the servers start with it.

* `httpGet_of_lateFailure` — what is accepted then.
* `keySets_received_whole_iff` — such a failure is the only way it can happen.
-/

namespace Kimchi

open Config Library

/-- The network of a process: the URI parser, and the sockets that each call of the
HTTP client meets. -/
def socketNetwork (parseUri : Str → Except Str Uri) (sockets : Nat → Sockets) : Network where
  parseUri := parseUri
  httpGet call := httpGet (sockets call)

/-- The connection failed after something had arrived that is a response by itself. -/
def Reception.LateFailure (r : Reception) : Prop :=
  r.ending = .failure ∧ ∃ body, IsJwksResponse r.received body

/-- The server answered with a response with this body, and its stream ended in
order. -/
def Sockets.AnswersWhole (sys : Sockets) (host : Str) (port : UInt16) (path body : Str) : Prop :=
  ∃ r, sys.reception host port path = some r ∧ r.ending = .endOfStream ∧ IsJwksResponse r.stream body

/-- A key set is the whole body of an answer to the request for its configuration. -/
def JwksCache.ReceivedWhole (parseUri : Str → Except Str Uri) (sockets : Nat → Sockets)
    (cache : JwksCache) : Prop :=
  ∃ call uri, parseUri cache.jwtConfig.jwksUri = .ok uri ∧
    (sockets call).AnswersWhole uri.host uri.jwksPort uri.jwksPath cache.jwksJson

section Call

variable {sys : Sockets} {host : Str} {port : UInt16} {path : Str}

/-- A late failure goes unnoticed: the part of the body that had arrived is returned. -/
theorem httpGet_of_lateFailure {r : Reception} (hr : sys.reception host port path = some r)
    (h : r.LateFailure) :
    ∃ body rest, httpGet sys host port path = .ok body ∧ IsJwksResponse r.stream (body ++ rest) := by
  obtain ⟨-, body, hbody⟩ := h
  obtain ⟨rest, hrest⟩ := r.arrived
  refine ⟨body, rest, httpGet_eq_ok_iff.mpr ⟨r, hr, hbody⟩, ?_⟩
  have hwhole := hbody.append rest
  rwa [Reception.received, hrest] at hwhole

/-- Without one, the calls that return are those with a whole answer, however it was cut
into chunks. -/
theorem httpGet_eq_ok_iff_answersWhole
    (h : ∀ r, sys.reception host port path = some r → ¬ r.LateFailure) (body : Str) :
    httpGet sys host port path = .ok body ↔ sys.AnswersWhole host port path body := by
  rw [httpGet_eq_ok_iff]
  constructor
  · rintro ⟨r, hr, hbody⟩
    cases hending : r.ending with
    | failure => exact absurd ⟨hending, body, hbody⟩ (h r hr)
    | endOfStream =>
        refine ⟨r, hr, hending, ?_⟩
        rwa [Reception.received, r.complete hending] at hbody
  · rintro ⟨r, hr, hending, hbody⟩
    refine ⟨r, hr, ?_⟩
    rwa [Reception.received, r.complete hending]

end Call

/-- **Key sets are received whole exactly when no connection fails late.**  The property
has two parts, for every sequence of answers to the calls of the process: `httpGet`
returns a body exactly when the stream ended in order and is a 200 response with this
body, and throws otherwise; and if the process gets as far as starting its servers,
whatever its configuration, every key set they are started with is a whole one. -/
theorem keySets_received_whole_iff (parseUri : Str → Except Str Uri) (sockets : Nat → Sockets) :
    ((∀ call host port path body, httpGet (sockets call) host port path = .ok body ↔
        (sockets call).AnswersWhole host port path body) ∧
      ∀ (parseJson : Str → Option Dynamic) (dir : ConfigDir) (store : ConfigStore) (jwksCaches : JwksCaches),
        startup parseJson (socketNetwork parseUri sockets) dir = some (store, jwksCaches) →
        ∀ name cache, jwksCaches.lookup name = some cache → cache.ReceivedWhole parseUri sockets) ↔
    ∀ call host port path r, (sockets call).reception host port path = some r → ¬ r.LateFailure := by
  constructor
  · rintro ⟨hcalls, -⟩ call host port path r hr hlate
    obtain ⟨hfailure, body, hbody⟩ := hlate
    -- the call returns, so its stream should have ended in order
    obtain ⟨r', hr', hending, -⟩ := (hcalls call host port path body).mp (httpGet_eq_ok_iff.mpr ⟨r, hr, hbody⟩)
    obtain rfl : r = r' := Option.some.inj (hr.symm.trans hr')
    rw [hfailure] at hending
    cases hending
  · intro hnone
    have hcalls (call : Nat) (host : Str) (port : UInt16) (path body : Str) :
        httpGet (sockets call) host port path = .ok body ↔
          (sockets call).AnswersWhole host port path body :=
      httpGet_eq_ok_iff_answersWhole (hnone call host port path) body
    refine ⟨hcalls, ?_⟩
    intro parseJson dir store jwksCaches hstart name cache hcache
    obtain ⟨call, jwtCfg, hfetch⟩ := exists_fetch_of_lookup (fetchJwksCaches_of_startup hstart) hcache
    obtain ⟨-, uri, hparse, -, hget, rfl⟩ := JwksCache.fetch_eq_ok_iff.mp hfetch
    exact ⟨call, uri, hparse, (hcalls call uri.host uri.jwksPort uri.jwksPath cache.jwksJson).mp hget⟩

/-! ## A connection that breaks inside the key set -/

namespace Sample

/-- The connection is reset after the first bytes of the body. -/
def interrupted : Reception where
  stream := str "HTTP/1.0 200 OK\r\n\r\n\x7b\"keys\":[\x7b\"kid\":\"1\"\x7d]\x7d"
  chunks := [str "HTTP/1.0 200 OK\r\n\r\n", str "\x7b\"keys\":["]
  ending := .failure
  chunk_size := by decide
  arrived := ⟨str "\x7b\"kid\":\"1\"\x7d]\x7d", by decide⟩
  complete := by
    intro h
    cases h

/-- A connection that breaks off in the middle of the key set. -/
def interruptedSockets : Sockets where
  getaddrinfo _ _ := .ok { family := 2, socktype := 1, protocol := 6, addr := [] }
  socket _ _ _ := true
  connect _ := true
  send request := some request.length
  recv _ := interrupted

theorem reception_interruptedSockets (host : Str) (port : UInt16) (path : Str) :
    interruptedSockets.reception host port path = some interrupted := rfl

/-- What the start-up then stores for the policy. -/
def truncatedCaches : JwksCaches :=
  (fetchJwksCaches (socketNetwork network.parseUri fun _ => interruptedSockets) [policy]).getD ∅

theorem startup_interrupted :
    startup parseJson (socketNetwork network.parseUri fun _ => interruptedSockets) (dirWith policyText) =
      some ({ routers := [router], services := [service], policies := [policy] }, truncatedCaches) := by
  rw [startup, load_intact]
  rfl

end Sample

/-- The server sends a key set and the connection is reset inside it.  The process
starts its servers, with the part that had arrived. -/
theorem interrupted_key_set_accepted :
    ∃ store jwksCaches cache,
      startup Sample.parseJson (socketNetwork Sample.network.parseUri fun _ => Sample.interruptedSockets)
        (Sample.dirWith Sample.policyText) = some (store, jwksCaches) ∧
      jwksCaches.lookup (str "auth") = some cache ∧ cache.jwksJson = str "\x7b\"keys\":[" ∧
      ¬ cache.ReceivedWhole Sample.network.parseUri fun _ => Sample.interruptedSockets := by
  refine ⟨_, _, _, Sample.startup_interrupted, rfl, rfl, ?_⟩
  rintro ⟨call, uri, -, r, hr, hending, -⟩
  rw [Sample.reception_interruptedSockets] at hr
  obtain rfl : Sample.interrupted = r := Option.some.inj hr
  cases hending

end Kimchi
