import Kimchi.Handler.Forwarding
import Kimchi.Handler.ServiceDispatch

/-!
# One request, end to end

The handler that `GatewayHandlerFactory::onRequest` returns, run on a whole request:
dispatch, the filter chain and the terminal at its end are put together.  The terminal
is a parameter, so that the same chain can end in a handler that holds values or in
one that holds pointers.

`Decides` says what the gateway is for, with no table, no chain and no sort in it: the
precedence rule selects a router, the router is dispatched or cannot be, its JWT
policies admit the message or do not, and the rate limiter is asked last.

* `serve_onRequest_of_passes`, `serve_onRequest_of_refused`, `serve_stream` — one event
  through a chain and into its terminal.
* `exists_decides` — a decision for every request, and the run it leads to.
* `gateway_serves` — every request, with any body, is served as it is decided.
-/

namespace Kimchi

open Config Library

/-- What serving a request does outside the gateway. -/
inductive ServedEffect where
  | checkAndDecrement (key : RateLimitKey)
  | respond (call : ResponseCall)
  | connect (addr : SocketAddress) (client : UpstreamClient)
  deriving DecidableEq, Repr

/-- An effect of the terminal. -/
def HandlerEffect.served : HandlerEffect → ServedEffect
  | .respond call => .respond call
  | .connect addr client => .connect addr client

/-- `sendWithEOM` on the response handler of the client. -/
def Response.served (r : Response) : List ServedEffect := r.sendWithEOM.map .respond

theorem served_sent (r : Response) : r.sent.map HandlerEffect.served = r.served := by
  rw [Response.sent, List.map_map]
  rfl

namespace RequestHandler

variable {τ : Type*}

/-- The chain around another terminal. -/
def withTarget (t : τ) : RequestHandler τ → RequestHandler τ
  | .terminal _ => .terminal t
  | .filter f next => .filter f (withTarget t next)

@[simp] theorem withTarget_ofFilters (fs : List FilterBase) (t t' : τ) :
    withTarget t' (ofFilters fs t) = ofFilters fs t' := by
  induction fs with
  | nil => rfl
  | cons f fs ih => rw [ofFilters_cons, withTarget, ih, ofFilters_cons]

theorem eq_ofFilters (chain : RequestHandler τ) : chain = ofFilters chain.filters chain.target := by
  induction chain with
  | terminal t => rfl
  | filter f next ih => rw [filters, target, ofFilters_cons, ← ih]

/-- The effects of a chain, with the events that reach the terminal delivered to
it. -/
def settle (T : PartialMachine τ RequestEvent HandlerEffect) :
    τ → List ChainEffect → Option (τ × List ServedEffect)
  | t, [] => some (t, [])
  | t, .checkAndDecrement key :: effects =>
      (settle T t effects).map fun (t', out) => (t', .checkAndDecrement key :: out)
  | t, .respond call :: effects =>
      (settle T t effects).map fun (t', out) => (t', .respond call :: out)
  | t, .toTerminal ev :: effects => do
      let (t₁, out) ← T.step t ev
      let (t₂, rest) ← settle T t₁ effects
      return (t₂, out.map HandlerEffect.served ++ rest)

/-- One event delivered to a chain and through it to the terminal. -/
def serve (env : FilterEnv) (T : PartialMachine τ RequestEvent HandlerEffect) (chain : RequestHandler τ)
    (ev : RequestEvent) : Option (RequestHandler τ × List ServedEffect) :=
  let (chain', effects) := chain.deliver env ev
  (settle T chain'.target effects).map fun (t, out) => (chain'.withTarget t, out)

section Settle

variable (T : PartialMachine τ RequestEvent HandlerEffect) (t : τ)

theorem settle_checks (keys : List RateLimitKey) (effects : List ChainEffect) :
    settle T t (keys.map .checkAndDecrement ++ effects) =
      (settle T t effects).map fun (t', out) => (t', keys.map .checkAndDecrement ++ out) := by
  induction keys with
  | nil => simp
  | cons key keys ih =>
      rw [List.map_cons, List.cons_append, settle, ih, Option.map_map]
      rfl

theorem settle_responses (calls : List ResponseCall) :
    settle T t (calls.map .respond) = some (t, calls.map .respond) := by
  induction calls with
  | nil => rfl
  | cons call calls ih => rw [List.map_cons, settle, ih, Option.map_some, List.map_cons]

theorem settle_toTerminal (ev : RequestEvent) :
    settle T t [.toTerminal ev] = (T.step t ev).map fun (t', out) => (t', out.map HandlerEffect.served) := by
  cases hstep : T.step t ev with
  | none => simp [settle, hstep]
  | some next => simp [settle, hstep]

end Settle

section Serve

variable {env : FilterEnv} {T : PartialMachine τ RequestEvent HandlerEffect} {fs : List FilterBase}
  {msg msg' : HTTPMessage} {response : Response}

/-- An admitted message goes to the terminal, after the calls of the rate limiter. -/
theorem serve_onRequest_of_passes (t : τ) (h : passes (FilterBase.gate env) fs msg = .ok msg') :
    serve env T (ofFilters fs t) (.onRequest msg) =
      (T.step t (.onRequest msg')).map fun (t', out) =>
        (ofFilters fs t', (rowChecks env fs msg).map .checkAndDecrement ++ out.map HandlerEffect.served) := by
  rw [serve, deliver_onRequest_of_passes t h]
  simp only [target_ofFilters, settle_checks, settle_toTerminal, Option.map_map]
  congr 1
  funext next
  simp

/-- A refused message leaves the terminal as it was. -/
theorem serve_onRequest_of_refused (t : τ) (h : passes (FilterBase.gate env) fs msg = .error response) :
    ∃ before f after, fs = before ++ f :: after ∧
      serve env T (ofFilters fs t) (.onRequest msg) =
        some (ofFilters (before ++ { f with blocked := true } :: after) t,
          (rowChecks env fs msg).map .checkAndDecrement ++ response.served) := by
  obtain ⟨before, f, after, hfs, hdeliver⟩ := deliver_onRequest_of_refused t h
  refine ⟨before, f, after, hfs, ?_⟩
  rw [serve, hdeliver]
  simp only [target_ofFilters, settle_checks, settle_responses, Option.map_some, withTarget_ofFilters]
  rfl

/-- A later event goes to the terminal unless a flag is raised. -/
theorem serve_stream (fs : List FilterBase) (t : τ) (ev : StreamEvent) :
    serve env T (ofFilters fs t) (.stream ev) =
      if fs.any (·.blocked) then some (ofFilters fs t, [])
      else (T.step t (.stream ev)).map fun (t', out) => (ofFilters fs t', out.map HandlerEffect.served) := by
  rw [serve, deliver_stream]
  cases hblocked : fs.any (·.blocked) with
  | true => simp [settle]
  | false =>
      simp only [Bool.false_eq_true, if_false, target_ofFilters, settle_toTerminal, Option.map_map]
      congr 1
      funext next
      simp

end Serve

end RequestHandler

/-! ## The handler of a request -/

/-- The handler of a request: one that answers by itself, or a filter chain. -/
inductive Serving (τ : Type*) where
  | notFound
  | badGateway (msg : Str)
  | chain (head : RequestHandler τ)
  deriving Repr

/-- What the factory returned. -/
def Dispatch.serving : Dispatch → Serving GatewayHandler
  | .notFound => .notFound
  | .badGateway msg => .badGateway msg
  | .chain head => .chain head

namespace Serving

variable {τ : Type*}

/-- One event of the request. -/
def step (env : FilterEnv) (T : PartialMachine τ RequestEvent HandlerEffect) :
    Serving τ → RequestEvent → Option (Serving τ × List ServedEffect)
  | .notFound, .onRequest _ => some (.notFound, notFoundResponse.served)
  | .badGateway msg, .onRequest _ => some (.badGateway msg, (badGatewayResponse msg).served)
  -- the other callbacks of the two are empty
  | .notFound, .stream _ => some (.notFound, [])
  | .badGateway msg, .stream _ => some (.badGateway msg, [])
  | .chain head, ev => (head.serve env T ev).map fun (head', out) => (.chain head', out)

/-- The handler of a request as a machine over its events. -/
def machine (env : FilterEnv) (T : PartialMachine τ RequestEvent HandlerEffect) :
    PartialMachine (Serving τ) RequestEvent ServedEffect := ⟨step env T⟩

/-- The handler has answered the request by itself and ignores what follows. -/
inductive Closed : Serving τ → Prop
  | notFound : Closed .notFound
  | badGateway (msg : Str) : Closed (.badGateway msg)
  | blocked (fs : List FilterBase) (t : τ) (h : fs.any (·.blocked) = true) :
      Closed (.chain (.ofFilters fs t))

variable {env : FilterEnv} {T : PartialMachine τ RequestEvent HandlerEffect}

theorem step_of_closed {s : Serving τ} (h : s.Closed) (ev : StreamEvent) :
    s.step env T (.stream ev) = some (s, []) := by
  cases h with
  | notFound => rfl
  | badGateway msg => rfl
  | blocked fs t h => rw [step, RequestHandler.serve_stream, if_pos h, Option.map_some]

/-- Run lemma: nothing follows an answer of the gateway's own. -/
theorem run_of_closed (env : FilterEnv) {s : Serving τ} (h : s.Closed) (evs : List StreamEvent) :
    (machine env T).run s (evs.map .stream) = some (s, []) := by
  induction evs with
  | nil => rfl
  | cons ev evs ih =>
      have hstep : (machine env T).step s (.stream ev) = some (s, []) := step_of_closed h ev
      exact PartialMachine.run_cons_of_step hstep ih

/-- A refused message closes the chain. -/
theorem step_onRequest_of_refused {fs : List FilterBase} {msg : HTTPMessage} {response : Response} (t : τ)
    (h : passes (FilterBase.gate env) fs msg = .error response) :
    ∃ s', step env T (.chain (.ofFilters fs t)) (.onRequest msg) =
        some (s', (rowChecks env fs msg).map .checkAndDecrement ++ response.served) ∧ s'.Closed := by
  obtain ⟨before, f, after, -, hserve⟩ := RequestHandler.serve_onRequest_of_refused (T := T) t h
  refine ⟨.chain (.ofFilters (before ++ { f with blocked := true } :: after) t), ?_, .blocked _ t (by simp)⟩
  rw [step, hserve, Option.map_some]

/-- Run lemma: an open chain hands every event to its terminal. -/
theorem run_of_open (env : FilterEnv) {fs : List FilterBase} (hopen : fs.any (·.blocked) = false) {t t' : τ}
    {evs : List StreamEvent} {out : List HandlerEffect} (h : T.run t (evs.map .stream) = some (t', out)) :
    (machine env T).run (.chain (.ofFilters fs t)) (evs.map .stream) =
      some (.chain (.ofFilters fs t'), out.map HandlerEffect.served) := by
  induction evs generalizing t out with
  | nil =>
      obtain ⟨rfl, rfl⟩ : t = t' ∧ [] = out := by simpa [PartialMachine.run] using h
      rfl
  | cons ev evs ih =>
      obtain ⟨t₁, out₁, out₂, hstep, hrest, rfl⟩ := PartialMachine.run_cons_eq_some_iff.mp h
      have hserve : (machine env T).step (.chain (.ofFilters fs t)) (.stream ev) =
          some (.chain (.ofFilters fs t₁), out₁.map HandlerEffect.served) := by
        change ((RequestHandler.serve env T _ _).map _) = _
        rw [RequestHandler.serve_stream, hopen, hstep]
        rfl
      rw [List.map_append]
      exact PartialMachine.run_cons_of_step hserve (ih hrest)

end Serving

/-! ## What the gateway is for -/

/-- The JWT policies of a router admit a message: there is none, or there is one and
the message bears a token that it accepts.  The message goes on with the identity of
the token. -/
inductive AdmittedAs (lib : JwtLib) (msg : HTTPMessage) : List JwksCache → HTTPMessage → Prop
  | unguarded : AdmittedAs lib msg [] msg
  | bearer (c : JwksCache) (token : Str) (id : JwtPolicy.Identity) (hbears : JwtPolicy.BearsToken msg token)
      (hid : JwtPolicy.evaluate lib c token = .ok id) :
      AdmittedAs lib msg [c] { msg with headers := JwtPolicy.withIdentity id msg.headers }

/-- What is done with a request: it is answered, or it goes to the handler of a
service as this message. -/
inductive Decision where
  | reply (response : Response)
  | proxy (handler : GatewayHandler) (msg : HTTPMessage)
  deriving DecidableEq, Repr

/-- The text of the 502 for a router that cannot be dispatched. -/
def unroutableBody (router : RouterConfig) : Str :=
  if router.destinations = [] then errorBody "bad_gateway" "router has no destinations"
  else errorBody "bad_gateway" "upstream service not configured"

section Decides

variable {ρ : Type*}

/-- The router the precedence rule selects. -/
def RoutedTo (re : RegexLib ρ) (store : ConfigStore) (msg : HTTPMessage) (router : RouterConfig) : Prop :=
  ∃ i, RouteSpec re (declaredRules store.routers) msg.path msg.method (some i) ∧
    store.routers[i]? = some router

/-- **The decision on a request,** with the keys the rate-limit store is asked. -/
inductive Decides (re : RegexLib ρ) (dns : Resolver) (engine : PolicyEngine) (env : FilterEnv)
    (msg : HTTPMessage) : List RateLimitKey → Decision → Prop
  | notFound (h : RouteSpec re (declaredRules engine.store.routers) msg.path msg.method none) :
      Decides re dns engine env msg [] (.reply notFoundResponse)
  | unroutable (router : RouterConfig) (hrouter : RoutedTo re engine.store msg router)
      (h : Unroutable dns engine.store.services router) :
      Decides re dns engine env msg [] (.reply (badGatewayResponse (unroutableBody router)))
  | refused (router : RouterConfig) (handler : GatewayHandler) (message : String)
      (hrouter : RoutedTo re engine.store msg router)
      (hdispatch : DispatchesTo dns engine.store.services router handler)
      (h : ∀ msg', ¬ AdmittedAs env.jwt (FilterBase.traced env msg) (engine.listedJwks router) msg') :
      Decides re dns engine env msg [] (.reply (JwtPolicy.unauthorized message))
  | limited (router : RouterConfig) (handler : GatewayHandler) (msg' : HTTPMessage)
      (hrouter : RoutedTo re engine.store msg router)
      (hdispatch : DispatchesTo dns engine.store.services router handler)
      (hadmitted : AdmittedAs env.jwt (FilterBase.traced env msg) (engine.listedJwks router) msg')
      (h : RateLimitFilter.allowed env.rateLimitStore .failOpen msg = false) :
      Decides re dns engine env msg [RateLimitFilter.key msg] (.reply RateLimitFilter.tooManyRequests)
  | proxied (router : RouterConfig) (handler : GatewayHandler) (msg' : HTTPMessage)
      (hrouter : RoutedTo re engine.store msg router)
      (hdispatch : DispatchesTo dns engine.store.services router handler)
      (hadmitted : AdmittedAs env.jwt (FilterBase.traced env msg) (engine.listedJwks router) msg')
      (h : RateLimitFilter.allowed env.rateLimitStore .failOpen msg = true) :
      Decides re dns engine env msg [RateLimitFilter.key msg] (.proxy handler msg')

end Decides

/-! ## The row of JWT policies admits -/

namespace AdmittedAs

variable {lib : JwtLib} {msg msg' : HTTPMessage} {cs cs' : List JwksCache}

/-- At most one policy admits, so the order of the policies does not matter. -/
theorem of_perm (h : AdmittedAs lib msg cs msg') (hperm : cs.Perm cs') : AdmittedAs lib msg cs' msg' := by
  cases h with
  | unguarded =>
      obtain rfl := hperm.nil_eq
      exact .unguarded
  | bearer c token id hbears hid =>
      obtain rfl := List.singleton_perm.mp hperm
      exact .bearer c token id hbears hid

/-- The quota key is that of the message the policies were given. -/
theorem key_eq (h : AdmittedAs lib msg cs msg') : RateLimitFilter.key msg' = RateLimitFilter.key msg := by
  cases h with
  | unguarded => rfl
  | bearer c token id hbears hid =>
      have hforward := JwtPolicy.onRequest_of_bearsToken lib c hbears
      rw [hid] at hforward
      exact key_of_forward hforward

end AdmittedAs

/-- A message passes a row of JWT policies exactly as it is admitted. -/
theorem passes_jwtPolicies_eq_ok_iff {env : FilterEnv} {cs : List JwksCache} {msg msg' : HTTPMessage} :
    passes (FilterBase.gate env) (cs.map .jwtPolicy) msg = .ok msg' ↔ AdmittedAs env.jwt msg cs msg' := by
  constructor
  · intro hpass
    have hadmit := policiesAdmit_iff.mp (policiesAdmit_iff_passes.mpr ⟨msg', hpass⟩)
    rcases hadmit with rfl | ⟨c, token, rfl, hbears, -⟩
    · obtain rfl : msg = msg' := by simpa using hpass
      exact .unguarded
    · rw [List.map_singleton, passes_cons] at hpass
      obtain ⟨msg₁, hgate, hrest⟩ := bind_eq_ok_iff.mp hpass
      obtain rfl : msg₁ = msg' := by simpa using hrest
      obtain ⟨token, id, hbears, hid, rfl⟩ :=
        JwtPolicy.onRequest_eq_forward (FilterBase.gate_jwtPolicy_eq_ok_iff.mp hgate)
      exact .bearer c token id hbears hid
  · intro hadmitted
    cases hadmitted with
    | unguarded => rfl
    | bearer c token id hbears hid =>
        have hforward := JwtPolicy.onRequest_of_bearsToken env.jwt c hbears
        rw [hid] at hforward
        rw [List.map_singleton, passes_cons_of_ok (FilterBase.gate_jwtPolicy_eq_ok_iff.mpr hforward)]
        rfl

/-- A message that does not pass is refused by one of the policies. -/
theorem passes_jwtPolicies_eq_error {env : FilterEnv} {cs : List JwksCache} {msg : HTTPMessage}
    {response : Response} (h : passes (FilterBase.gate env) (cs.map .jwtPolicy) msg = .error response) :
    ∃ message, response = JwtPolicy.unauthorized message := by
  obtain ⟨before, f, after, m, hsplit, -, hgate⟩ := passes_eq_error h
  have hf : f ∈ cs.map FilterBase.jwtPolicy := by simp [hsplit]
  obtain ⟨c, -, rfl⟩ := List.mem_map.mp hf
  have hblock : JwtPolicy.onRequest env.jwt c m = .block response := FilterBase.gate_eq_error_iff.mp hgate
  rcases JwtPolicy.onRequest_cases env.jwt c m with ⟨token, id, -, -, hforward⟩ | ⟨message, hrefuse⟩
  · rw [hforward] at hblock
    cases hblock
  · rw [hrefuse] at hblock
    exact ⟨message, (Verdict.block.inj hblock).symm⟩

/-! ## Deciding a request -/

namespace Decision

/-- What a decision does at once. -/
def answer : Decision → List ServedEffect
  | .reply response => response.served
  | .proxy _ _ => []

/-- The handler a decided request leaves behind: closed after an answer, open around
a terminal that has the message otherwise. -/
inductive Leaves : Decision → Serving GatewayHandler → Prop
  | reply (response : Response) (s : Serving GatewayHandler) (h : s.Closed) : Leaves (.reply response) s
  | proxy (handler : GatewayHandler) (msg : HTTPMessage) (fs : List FilterBase)
      (h : fs.any (·.blocked) = false) :
      Leaves (.proxy handler msg) (.chain (.ofFilters fs (handler.onRequest msg)))

end Decision

theorem allowed_congr {store : RateLimitStore} {policy : FailurePolicy} {msg msg' : HTTPMessage}
    (h : RateLimitFilter.key msg' = RateLimitFilter.key msg) :
    RateLimitFilter.allowed store policy msg' = RateLimitFilter.allowed store policy msg := by
  rw [RateLimitFilter.allowed, h, RateLimitFilter.allowed]

section Deciding

variable {ρ : Type*} {re : RegexLib ρ} {dns : Resolver} {engine : PolicyEngine} {env : FilterEnv}
  {msg : HTTPMessage} {router : RouterConfig} {handler : GatewayHandler}

/-- The request message through the chain of a dispatched router. -/
theorem exists_decides_chain (sort : UnstableSort PolicyEngine.orderBefore)
    (hrouter : RoutedTo re engine.store msg router)
    (hdispatch : DispatchesTo dns engine.store.services router handler) :
    ∃ keys d s', Decides re dns engine env msg keys d ∧
      Serving.step env GatewayHandler.machine (.chain (engine.buildChain sort router handler)) (.onRequest msg) =
        some (s', keys.map .checkAndDecrement ++ d.answer) ∧ d.Leaves s' := by
  have hperm := PolicyEngine.jwks_perm sort engine router
  rw [PolicyEngine.buildChain_eq]
  generalize hcs : PolicyEngine.jwks sort engine router = cs at hperm
  have hrow : passes (FilterBase.gate env) (PolicyEngine.filtersOf cs) msg = _ := passes_filtersOf
  have hchecks : rowChecks env (PolicyEngine.filtersOf cs) msg = _ := rowChecks_filtersOf
  cases hpass : passes (FilterBase.gate env) (cs.map .jwtPolicy) (FilterBase.traced env msg) with
  | error response =>
      obtain ⟨message, rfl⟩ := passes_jwtPolicies_eq_error hpass
      rw [hpass] at hrow hchecks
      obtain ⟨s', hstep, hclosed⟩ :=
        Serving.step_onRequest_of_refused (T := GatewayHandler.machine) handler hrow
      have hnot : ∀ msg', ¬ AdmittedAs env.jwt (FilterBase.traced env msg) (engine.listedJwks router) msg' := by
        intro msg' hadmitted
        rw [passes_jwtPolicies_eq_ok_iff.mpr (hadmitted.of_perm hperm.symm)] at hpass
        cases hpass
      refine ⟨[], .reply (JwtPolicy.unauthorized message), s',
        .refused router handler message hrouter hdispatch hnot, ?_, .reply _ s' hclosed⟩
      rw [hstep, hchecks]
      rfl
  | ok msg' =>
      have hadmitted := (passes_jwtPolicies_eq_ok_iff.mp hpass).of_perm hperm
      have hkey : RateLimitFilter.key msg' = RateLimitFilter.key msg :=
        hadmitted.key_eq.trans (key_traced env msg)
      have hsame : RateLimitFilter.allowed env.rateLimitStore .failOpen msg' =
          RateLimitFilter.allowed env.rateLimitStore .failOpen msg := allowed_congr hkey
      rw [hpass] at hrow hchecks
      simp only [Except.bind, FilterBase.gate_rateLimitFilter, hsame, hkey] at hrow hchecks
      cases hallowed : RateLimitFilter.allowed env.rateLimitStore .failOpen msg with
      | false =>
          rw [hallowed, if_pos rfl] at hrow
          obtain ⟨s', hstep, hclosed⟩ :=
            Serving.step_onRequest_of_refused (T := GatewayHandler.machine) handler hrow
          refine ⟨[RateLimitFilter.key msg], .reply RateLimitFilter.tooManyRequests, s',
            .limited router handler msg' hrouter hdispatch hadmitted hallowed, ?_, .reply _ s' hclosed⟩
          rw [hstep, hchecks]
          rfl
      | true =>
          rw [hallowed, if_neg (by simp)] at hrow
          have hserve := RequestHandler.serve_onRequest_of_passes (T := GatewayHandler.machine) handler hrow
          have hopen : (PolicyEngine.filtersOf cs).any (·.blocked) = false := by
            rw [List.any_eq_false]
            intro f hf
            simp [filtersOf_fresh cs f hf]
          refine ⟨[RateLimitFilter.key msg], .proxy handler msg', _,
            .proxied router handler msg' hrouter hdispatch hadmitted hallowed, ?_, .proxy handler msg' _ hopen⟩
          rw [Serving.step, hserve, hchecks]
          rfl

end Deciding

namespace GatewayHandlerFactory

variable {ρ : Type*} {platform : Platform ρ} {store : ConfigStore} {jwksCaches : JwksCaches} {msg : HTTPMessage}

/-- The two texts of a 502. -/
theorem badGateway_text {factory : GatewayHandlerFactory ρ} {router : RouterConfig} {body : Str}
    (hmatched : factory.matchedRouter platform msg = some router)
    (h : factory.onRequest platform msg = .badGateway body) : body = unroutableBody router := by
  unfold onRequest at h
  simp only [hmatched] at h
  cases hdestinations : router.destinations with
  | nil =>
      simp only [hdestinations] at h
      simpa [unroutableBody, hdestinations] using (Dispatch.badGateway.inj h).symm
  | cons destination rest =>
      have hbody : unroutableBody router = errorBody "bad_gateway" "upstream service not configured" := by
        simp [unroutableBody, hdestinations]
      simp only [hdestinations] at h
      rw [hbody]
      cases hcached : factory.serviceCache.lookup destination.destinationName with
      | none =>
          simp only [hcached] at h
          exact (Dispatch.badGateway.inj h).symm
      | some cached =>
          cases haddrs : cached.addrs with
          | nil =>
              simp only [hcached, haddrs] at h
              exact (Dispatch.badGateway.inj h).symm
          | cons addr addrs =>
              simp only [hcached, haddrs] at h
              cases h

/-- The router the tables match is the one of the precedence rule. -/
theorem routedTo_of_matchedRouter {router : RouterConfig}
    (h : (new platform store jwksCaches).matchedRouter platform msg = some router) :
    RoutedTo platform.re store msg router := by
  obtain ⟨i, hi, hrouter⟩ := Option.bind_eq_some_iff.mp h
  have hspec := RoutingTables.matched_spec platform.prefixSort platform.re store.routers msg.path msg.method
  have hmatched : (RoutingTables.build platform.prefixSort platform.re store.routers).matched platform.re
      msg.path msg.method = some i := hi
  rw [hmatched] at hspec
  exact ⟨i, hspec, hrouter⟩

theorem routeSpec_none_of_matchedRouter
    (h : (new platform store jwksCaches).matchedRouter platform msg = none) :
    RouteSpec platform.re (declaredRules store.routers) msg.path msg.method none := by
  have hspec := RoutingTables.matched_spec platform.prefixSort platform.re store.routers msg.path msg.method
  cases hmatched : (RoutingTables.build platform.prefixSort platform.re store.routers).matched platform.re
      msg.path msg.method with
  | none =>
      rw [hmatched] at hspec
      exact hspec
  | some i =>
      -- an index the tables give is that of a router
      rw [hmatched] at hspec
      have hlt := hspec.lt_length
      have hnone : store.routers[i]? = none := by
        simpa [matchedRouter, new, hmatched] using h
      rw [List.getElem?_eq_none_iff] at hnone
      omega

/-- **A decision for every request:** the factory and the chain it builds decide, and
leave a handler that fits the decision. -/
theorem exists_decides (platform : Platform ρ) (store : ConfigStore) (jwksCaches : JwksCaches) (env : FilterEnv)
    (msg : HTTPMessage) :
    ∃ keys d s', Decides platform.re platform.dns ⟨store, jwksCaches⟩ env msg keys d ∧
      Serving.step env GatewayHandler.machine ((new platform store jwksCaches).onRequest platform msg).serving
          (.onRequest msg) =
        some (s', keys.map .checkAndDecrement ++ d.answer) ∧ d.Leaves s' := by
  cases hmatched : (new platform store jwksCaches).matchedRouter platform msg with
  | none =>
      have hdispatch : (new platform store jwksCaches).onRequest platform msg = .notFound := by
        simp only [onRequest, hmatched]
      rw [hdispatch]
      exact ⟨[], .reply notFoundResponse, .notFound, .notFound (routeSpec_none_of_matchedRouter hmatched), rfl,
        .reply _ _ .notFound⟩
  | some router =>
      have hrouter := routedTo_of_matchedRouter hmatched
      rcases onRequest_of_matchedRouter hmatched with
        ⟨hunroutable, body, hbody⟩ | ⟨-, handler, hdispatch, hchain⟩
      · obtain rfl := badGateway_text hmatched hbody
        rw [hbody]
        exact ⟨[], .reply (badGatewayResponse (unroutableBody router)), .badGateway (unroutableBody router),
          .unroutable router hrouter hunroutable, rfl, .reply _ _ (.badGateway _)⟩
      · rw [hchain]
        exact exists_decides_chain platform.orderSort hrouter hdispatch

end GatewayHandlerFactory

/-! ## Whole requests -/

/-- The upstream request a handler sends for a message: the method and the headers
other than `Host` as they are, `Host` and the URL by the rewrite rules. -/
structure ForwardsAs (dest : RouterDestination) (service : ServiceConfig) (target : LoadBalancingTarget)
    (msg : HTTPMessage) (req : UpstreamRequest) : Prop where
  method : req.method = msg.method
  url : UpstreamUrl dest msg req.url
  headers : ∃ host, UpstreamHost dest service target host ∧ req.headers = msg.headers.set (str "Host") host

theorem forwardsAs_upstreamReq (dest : RouterDestination) (service : ServiceConfig) (target : LoadBalancingTarget)
    (msg : HTTPMessage) : ForwardsAs dest service target msg (GatewayHandler.upstreamReq dest service target msg) :=
  { method := rfl
    url := GatewayHandler.upstreamUrl_spec dest msg
    headers := ⟨_, GatewayHandler.upstreamHost_hostHeader dest service target,
      GatewayHandler.headers_upstreamReq dest service target msg⟩ }

/-- What a decision does with a whole request: the answer, or one client that is
connected to the address of the service and holds the request and its body. -/
inductive Decision.Serves (chunks : List Str) : Decision → List ServedEffect → Prop
  | reply (response : Response) : Serves chunks (.reply response) response.served
  | proxy (handler : GatewayHandler) (msg : HTTPMessage) (dest : RouterDestination)
      (target : LoadBalancingTarget) (req : UpstreamRequest)
      (hdest : handler.router.destinations.head? = some dest)
      (htarget : handler.service.loadBalancing.targets.head? = some target)
      (hreq : ForwardsAs dest handler.service target msg req) :
      Serves chunks (.proxy handler msg)
        [.connect handler.upstreamAddr
          { upstreamReq := req, requestBody := if chunks = [] then none else some chunks.flatten }]

/-- The handler of a dispatched router has a destination, a target and no body yet. -/
theorem DispatchesTo.heads {dns : Resolver} {services : List ServiceConfig} {router : RouterConfig}
    {handler : GatewayHandler} (h : DispatchesTo dns services router handler) :
    (∃ dest, handler.router.destinations.head? = some dest) ∧
      (∃ target, handler.service.loadBalancing.targets.head? = some target) ∧ handler.requestBody = none := by
  have hrouted := routed_of_dispatchesTo h
  obtain ⟨dest, dests, hdest⟩ := List.exists_cons_of_ne_nil hrouted.destination
  obtain ⟨target, targets, htarget⟩ := List.exists_cons_of_ne_nil hrouted.target
  obtain ⟨destination, i, svc, j, t, addr, -, -, -, -, rfl⟩ := h
  exact ⟨⟨dest, by rw [hdest]; rfl⟩, ⟨target, by rw [htarget]; rfl⟩, rfl⟩

/-- **The gateway serves every request as it decides it.**  For every store, every key
set, every rate-limit store and every request with any list of body chunks: the run of
the handler that the factory returns is defined; it asks the rate-limit store for the
keys of the decision and then answers, or connects one client with the request, and
does nothing else. -/
theorem gateway_serves {ρ : Type*} (platform : Platform ρ) (store : ConfigStore) (jwksCaches : JwksCaches)
    (env : FilterEnv) (msg : HTTPMessage) (chunks : List Str) :
    ∃ keys d effects s',
      Decides platform.re platform.dns ⟨store, jwksCaches⟩ env msg keys d ∧ d.Serves chunks effects ∧
      (Serving.machine env GatewayHandler.machine).run
          ((GatewayHandlerFactory.new platform store jwksCaches).onRequest platform msg).serving
          (requestEvents msg chunks) =
        some (s', keys.map .checkAndDecrement ++ effects) := by
  obtain ⟨keys, d, s₁, hdecides, hstep, hleaves⟩ :=
    GatewayHandlerFactory.exists_decides platform store jwksCaches env msg
  cases hleaves with
  | reply response s₁ hclosed =>
      refine ⟨keys, .reply response, response.served, s₁, hdecides, .reply response, ?_⟩
      have hrest := Serving.run_of_closed env (T := GatewayHandler.machine) hclosed
        (chunks.map StreamEvent.onBody ++ [StreamEvent.onEOM])
      have hrun := PartialMachine.run_cons_of_step hstep hrest
      rw [List.append_nil] at hrun
      exact hrun
  | proxy handler msg' fs hopen =>
      cases hdecides with
      | proxied router _ _ hrouter hdispatch hadmitted hallowed =>
          obtain ⟨⟨dest, hdest⟩, ⟨target, htarget⟩, hbody⟩ := hdispatch.heads
          have hrequest := GatewayHandler.run_request hdest htarget hbody msg' chunks
          -- the first event of the handler's own run is the one the chain has delivered already
          obtain ⟨h₁, out₁, out₂, hfirst, hlater, hout⟩ := PartialMachine.run_cons_eq_some_iff.mp hrequest
          obtain ⟨rfl, rfl⟩ : h₁ = handler.onRequest msg' ∧ out₁ = [] := by
            have hboth := Option.some.inj hfirst.symm
            exact ⟨congrArg Prod.fst hboth, congrArg Prod.snd hboth⟩
          rw [List.nil_append] at hout
          subst hout
          have hrest := Serving.run_of_open env hopen hlater
          have hrun := PartialMachine.run_cons_of_step hstep hrest
          rw [Decision.answer, List.append_nil] at hrun
          exact ⟨_, _, _, _, .proxied router handler msg' hrouter hdispatch hadmitted hallowed,
            .proxy handler msg' dest target _ hdest htarget
              (forwardsAs_upstreamReq dest handler.service target msg'), hrun⟩

end Kimchi
