import Kimchi.Handler.ProxiedRequest
import Kimchi.Handler.ServedRequest
import Kimchi.Library.Sessions

/-!
# The running process

`main.cpp` starts a data plane and an admin server in one process.  A session is one
request on either of them: on the data plane a handler of `GatewayHandlerFactory` and,
once the request has been forwarded, the `UpstreamClient` that nothing but its own
callbacks keeps alive; on the admin server an `AdminHandler`.  Sessions share the
rate-limit store and the configuration that a reload swaps, and their callbacks come
in any interleaving.

`Plane` is what the callbacks of a session meet outside it.  It is a parameter: the
same session runs over a factory that holds its configuration by value and over one
that holds pointers into a shared store.

A step has no result where the source is undefined: a read through a pointer whose
object is gone, an index past the end of a vector, a callback on a deleted object.
`Session.Allows` is the contract of proxygen, which says what may come next in a
session.
-/

namespace Kimchi

open Config Library

/-! ## Sessions -/

/-- One event of a session. -/
inductive SessionInput where
  /-- The factory of the data plane is asked for a handler, which receives the request;
  `rand64` is what `folly::Random` yields meanwhile. -/
  | request (msg : HTTPMessage) (rand64 : UInt64 × UInt64)
  | event (ev : StreamEvent)
  /-- A request on the admin server. -/
  | adminRequest (msg : HTTPMessage)
  /-- A later event on the admin server, and the configuration directory as it is then. -/
  | adminEvent (ev : StreamEvent) (dir : ConfigDir)
  | onError
  | requestComplete
  /-- A callback on the upstream client of the session. -/
  | upstream (cb : UpstreamCallback)
  deriving DecidableEq, Repr

/-- What a session does outside the process and to the rate-limit store. -/
inductive SessionEffect where
  | served (effect : ServedEffect)
  | txn (call : TransactionCall)
  deriving DecidableEq, Repr

/-- An output of the upstream client. -/
def UpstreamOutput.effect : UpstreamOutput → SessionEffect
  | .txn call => .txn call
  | .downstream call => .served (.respond call)

/-- The keys the rate-limit store is asked. -/
def checkedKeys (effects : List ServedEffect) : List RateLimitKey :=
  effects.filterMap fun
    | .checkAndDecrement key => some key
    | _ => none

/-- The response is over for the client. -/
def endsResponse (effects : List ServedEffect) : Bool :=
  effects.any fun
    | .respond call => call.isEnd
    | _ => false

/-- The upstream client that was created. -/
def connected (effects : List ServedEffect) : Option UpstreamClient :=
  effects.findSome? fun
    | .connect _ client => some client
    | _ => none

/-- A request on the data plane.  After `requestComplete` or `onError` every handler of
the chain has deleted itself; the upstream client has not. -/
structure Stream (τ : Type) where
  client : ClientPhase := .receiving
  serving : Serving τ
  exchange : Option (UpstreamPhase × UpstreamClient) := none
  responseEnded : Bool := false
  deriving Repr

/-- A request on the admin server. -/
structure AdminStream where
  client : ClientPhase := .receiving
  handler : AdminHandler
  responseEnded : Bool := false
  deriving Repr

/-- A session: not begun, or a request on one of the two servers. -/
inductive Session (τ : Type) where
  | idle
  | stream (st : Stream τ)
  | admin (a : AdminStream)
  deriving Repr

namespace Stream

variable {τ : Type}

/-- The stream after its handler has processed an event. -/
def absorb (st : Stream τ) (serving : Serving τ) (effects : List ServedEffect) : Stream τ :=
  { st with
    serving := serving
    exchange := st.exchange.or ((connected effects).map fun client => (.connecting, client))
    responseEnded := st.responseEnded || endsResponse effects }

/-- The client side after an event of the request. -/
def afterEvent (st : Stream τ) (ev : StreamEvent) : Stream τ :=
  { st with client := if ev = .onEOM then .waiting else .receiving }

/-- The stream after a callback of its upstream client. -/
def relay (st : Stream τ) (phase : UpstreamPhase) (c : UpstreamClient) (cb : UpstreamCallback) : Stream τ :=
  { st with
    exchange := some (phase, (c.step cb).1)
    responseEnded := st.responseEnded || (c.relayed cb).any ResponseCall.isEnd }

/-- `delete this` of every handler in the chain. -/
def finish (st : Stream τ) : Stream τ := { st with client := .finished }

end Stream

/-! ## What sessions share -/

/-- What the callbacks of a session meet: the environment of the filters, the rate-limit
store after some calls, the factory of the data plane, the handler at the end of its
chains, and the reload of the configuration. -/
structure Plane (σ τ : Type) where
  env : σ → UInt64 × UInt64 → FilterEnv
  charge : σ → List RateLimitKey → σ
  dispatch : σ → HTTPMessage → Option (Serving τ)
  terminal : σ → PartialMachine τ RequestEvent HandlerEffect
  reload : σ → ConfigDir → σ × Response

namespace Plane

variable {σ τ : Type} (plane : Plane σ τ)

/-- `AdminHandler::onEOM`. -/
def adminEOM (s : σ) (h : AdminHandler) (dir : ConfigDir) : Option (σ × Response) := do
  let headers ← h.requestHeaders
  if headers.path = str "/healthz" ∧ headers.method = str "GET" then
    return (s, AdminHandler.healthy)
  else if headers.path = str "/config/reload" ∧ headers.method = str "POST" then
    return plane.reload s dir
  else
    return (s, AdminHandler.notFound)

/-- An event after the message of an admin request. -/
def adminEvent (s : σ) (a : AdminStream) (dir : ConfigDir) : StreamEvent → Option (σ × AdminStream × Option Response)
  | .onBody _ => some (s, a, none)
  | .onUpgrade _ => some (s, { a with responseEnded := true }, some AdminHandler.onUpgrade)
  | .onEOM =>
      (plane.adminEOM s a.handler dir).map fun (s', reply) =>
        (s', { a with client := .waiting, responseEnded := true }, some reply)

/-- One event of a session. -/
def step (s : σ) : Session τ → SessionInput → Option (σ × Session τ × List SessionEffect)
  | .idle, .request msg rand64 => do
      let handler ← plane.dispatch s msg
      let (serving, out) ← handler.step (plane.env s rand64) (plane.terminal s) (.onRequest msg)
      return (plane.charge s (checkedKeys out), .stream (Stream.absorb { serving := serving } serving out),
        out.map .served)
  | .stream st, .event ev =>
      if st.client = .receiving then do
        -- no filter looks at its environment after the message
        let (serving, out) ← st.serving.step (plane.env s (0, 0)) (plane.terminal s) (.stream ev)
        return (plane.charge s (checkedKeys out), .stream ((st.absorb serving out).afterEvent ev), out.map .served)
      else none
  | .stream st, .onError => if st.client ≠ .finished then some (s, .stream st.finish, []) else none
  | .stream st, .requestComplete =>
      if st.client = .waiting ∧ st.responseEnded = true then some (s, .stream st.finish, []) else none
  | .stream st, .upstream cb => do
      let (phase, c) ← st.exchange
      let phase' ← phase.next cb
      if c.deleted then
        -- a callback on a client that has deleted itself
        none
      else if st.client = .finished ∧ c.relayed cb ≠ [] then
        -- `downstream_` is a filter that has deleted itself
        none
      else return (s, .stream (st.relay phase' c cb), (c.step cb).2.map UpstreamOutput.effect)
  | .idle, .adminRequest msg => some (s, .admin { handler := AdminHandler.onRequest {} msg }, [])
  | .admin a, .adminEvent ev dir =>
      if a.client = .receiving then
        (plane.adminEvent s a dir ev).map fun (s', a', reply) =>
          (s', .admin a', reply.toList.flatMap fun r => r.served.map .served)
      else none
  | .admin a, .onError =>
      if a.client ≠ .finished then some (s, .admin { a with client := .finished }, []) else none
  | .admin a, .requestComplete =>
      if a.client = .waiting ∧ a.responseEnded = true then some (s, .admin { a with client := .finished }, [])
      else none
  | _, _ => none

/-- All sessions of the process. -/
def sessions : Sessions σ (Session τ) SessionInput SessionEffect := ⟨plane.step⟩

end Plane

/-! ## The contract of proxygen -/

/-- What proxygen may deliver next in a session. -/
inductive Session.Allows {τ : Type} : Session τ → SessionInput → Prop
  | request (msg rand64) : Allows .idle (.request msg rand64)
  | event (st ev) (h : st.client = .receiving) : Allows (.stream st) (.event ev)
  | onError (st) (h : st.client ≠ .finished) : Allows (.stream st) .onError
  | requestComplete (st) (h : st.client = .waiting) (hended : st.responseEnded = true) :
      Allows (.stream st) .requestComplete
  | upstream (st cb phase c phase') (h : st.exchange = some (phase, c)) (hnext : phase.next cb = some phase') :
      Allows (.stream st) (.upstream cb)
  | adminRequest (msg) : Allows .idle (.adminRequest msg)
  | adminEvent (a ev dir) (h : a.client = .receiving) : Allows (.admin a) (.adminEvent ev dir)
  | adminError (a) (h : a.client ≠ .finished) : Allows (.admin a) .onError
  | adminComplete (a) (h : a.client = .waiting) (hended : a.responseEnded = true) :
      Allows (.admin a) .requestComplete

namespace Plane

variable {σ τ : Type} {plane : Plane σ τ} {s s' : σ} {p p' : Session τ} {i : SessionInput}
  {out : List SessionEffect}

/-- Everything a step can do, with its guard. -/
inductive Moves (plane : Plane σ τ) (s : σ) :
    Session τ → SessionInput → σ → Session τ → List SessionEffect → Prop
  | request (msg rand64 handler serving out) (hdispatch : plane.dispatch s msg = some handler)
      (hserve : handler.step (plane.env s rand64) (plane.terminal s) (.onRequest msg) = some (serving, out)) :
      Moves plane s .idle (.request msg rand64) (plane.charge s (checkedKeys out))
        (.stream (Stream.absorb { serving := serving } serving out)) (out.map .served)
  | event (st ev serving out) (hclient : st.client = .receiving)
      (hserve : st.serving.step (plane.env s (0, 0)) (plane.terminal s) (.stream ev) = some (serving, out)) :
      Moves plane s (.stream st) (.event ev) (plane.charge s (checkedKeys out))
        (.stream ((st.absorb serving out).afterEvent ev)) (out.map .served)
  | onError (st) (hclient : st.client ≠ .finished) :
      Moves plane s (.stream st) .onError s (.stream st.finish) []
  | requestComplete (st) (hclient : st.client = .waiting) (hended : st.responseEnded = true) :
      Moves plane s (.stream st) .requestComplete s (.stream st.finish) []
  | upstream (st cb phase c phase') (hexchange : st.exchange = some (phase, c))
      (hnext : phase.next cb = some phase') (halive : c.deleted = false)
      (hquiet : ¬ (st.client = .finished ∧ c.relayed cb ≠ [])) :
      Moves plane s (.stream st) (.upstream cb) s (.stream (st.relay phase' c cb))
        ((c.step cb).2.map UpstreamOutput.effect)
  | adminRequest (msg) :
      Moves plane s .idle (.adminRequest msg) s (.admin { handler := AdminHandler.onRequest {} msg }) []
  | adminEvent (a ev dir s' a' reply) (hclient : a.client = .receiving)
      (hevent : plane.adminEvent s a dir ev = some (s', a', reply)) :
      Moves plane s (.admin a) (.adminEvent ev dir) s' (.admin a')
        (reply.toList.flatMap fun r => r.served.map .served)
  | adminError (a) (hclient : a.client ≠ .finished) :
      Moves plane s (.admin a) .onError s (.admin { a with client := .finished }) []
  | adminComplete (a) (hclient : a.client = .waiting) (hended : a.responseEnded = true) :
      Moves plane s (.admin a) .requestComplete s (.admin { a with client := .finished }) []

theorem moves_of_step (h : plane.step s p i = some (s', p', out)) : plane.Moves s p i s' p' out := by
  cases p with
  | idle =>
      cases i with
      | request msg rand64 =>
          simp only [step, Option.bind_eq_bind, Option.bind_eq_some_iff] at h
          obtain ⟨handler, hdispatch, ⟨serving, effects⟩, hserve, hend⟩ := h
          cases hend
          exact .request msg rand64 handler serving effects hdispatch hserve
      | adminRequest msg =>
          cases h
          exact .adminRequest msg
      | _ => cases h
  | stream st =>
      cases i with
      | event ev =>
          simp only [step] at h
          split at h
          · next hclient =>
              simp only [Option.bind_eq_bind, Option.bind_eq_some_iff] at h
              obtain ⟨⟨serving, effects⟩, hserve, hend⟩ := h
              cases hend
              exact .event st ev serving effects hclient hserve
          · cases h
      | onError =>
          simp only [step] at h
          split at h
          · next hclient =>
              cases h
              exact .onError st hclient
          · cases h
      | requestComplete =>
          simp only [step] at h
          split at h
          · next hready =>
              cases h
              exact .requestComplete st hready.1 hready.2
          · cases h
      | upstream cb =>
          simp only [step, Option.bind_eq_bind, Option.bind_eq_some_iff] at h
          obtain ⟨⟨phase, c⟩, hexchange, phase', hnext, h⟩ := h
          simp only at h
          split at h
          · cases h
          · next halive =>
              split at h
              · cases h
              · next hquiet =>
                  cases h
                  exact .upstream st cb phase c phase' hexchange hnext (Bool.eq_false_iff.mpr halive) hquiet
      | _ => cases h
  | admin a =>
      cases i with
      | adminEvent ev dir =>
          simp only [step] at h
          split at h
          · next hclient =>
              obtain ⟨⟨s₁, a₁, reply⟩, hevent, hend⟩ := Option.map_eq_some_iff.mp h
              cases hend
              exact .adminEvent a ev dir s₁ a₁ reply hclient hevent
          · cases h
      | onError =>
          simp only [step] at h
          split at h
          · next hclient =>
              cases h
              exact .adminError a hclient
          · cases h
      | requestComplete =>
          simp only [step] at h
          split at h
          · next hready =>
              cases h
              exact .adminComplete a hready.1 hready.2
          · cases h
      | _ => cases h

end Plane

/-! ## The process over values -/

/-- A rate-limit store and what a call of `checkAndDecrement` makes of it. -/
structure Limiter (ℓ : Type) where
  checkAndDecrement : ℓ → RateLimitKey → ℓ × Except Unit Bool

/-- `NullRateLimitStore`. -/
def Limiter.null : Limiter Unit := ⟨fun _ key => ((), nullRateLimitStore key)⟩

/-- The store after some calls. -/
def Limiter.charge {ℓ : Type} (limiter : Limiter ℓ) (l : ℓ) (keys : List RateLimitKey) : ℓ :=
  keys.foldl (fun l key => (limiter.checkAndDecrement l key).1) l

/-- What does not change while the servers run: the libraries, the rate-limit store,
and what start-up has loaded and fetched. -/
structure Deployment (ρ ℓ : Type) where
  platform : Platform ρ
  jwt : JwtLib
  limiter : Limiter ℓ
  parseJson : Str → Option Dynamic
  store : ConfigStore
  jwksCaches : JwksCaches

namespace Deployment

variable {ρ ℓ : Type} (d : Deployment ρ ℓ)

/-- What the filters meet while the rate-limit store is in a state. -/
def env (l : ℓ) (rand64 : UInt64 × UInt64) : FilterEnv :=
  { jwt := d.jwt
    rateLimitStore := fun key => (d.limiter.checkAndDecrement l key).2
    rand64 := rand64 }

/-- The engine of the factory. -/
def engine : PolicyEngine := { store := d.store, jwksCaches := d.jwksCaches }

/-- The factory of the data plane. -/
def factory : GatewayHandlerFactory ρ := .new d.platform d.store d.jwksCaches

/-- What the sessions share: the configuration a reload swaps, and the rate-limit
store. -/
structure State (ℓ : Type) where
  shared : SharedConfig
  limiter : ℓ

/-- The process with the configuration held by value. -/
def plane : Plane (State ℓ) GatewayHandler where
  env s rand64 := d.env s.limiter rand64
  charge s keys := { s with limiter := d.limiter.charge s.limiter keys }
  dispatch _ msg := some (d.factory.onRequest d.platform msg).serving
  terminal _ := GatewayHandler.machine
  reload s dir :=
    let (shared, reply) := AdminHandler.reload ⟨d.parseJson, dir⟩ s.shared
    ({ s with shared := shared }, reply)

/-- The process as `main` starts it. -/
def start (l : ℓ) : State ℓ := { shared := { current := d.store }, limiter := l }

/-- The admin sessions run `AdminHandler::onEOM`. -/
theorem adminEOM_plane (s : State ℓ) (h : AdminHandler) (dir : ConfigDir) :
    d.plane.adminEOM s h dir =
      (h.onEOM ⟨d.parseJson, dir⟩ s.shared).map fun (shared, reply) => ({ s with shared := shared }, reply) := by
  unfold Plane.adminEOM AdminHandler.onEOM
  cases h.requestHeaders with
  | none => rfl
  | some headers =>
      simp only [Option.bind_eq_bind, Option.bind_some]
      split
      · rfl
      · split <;> rfl

end Deployment

end Kimchi
