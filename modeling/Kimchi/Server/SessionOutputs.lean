import Kimchi.Handler.UpstreamResponse
import Kimchi.Server.ProcessHistory

/-!
# What the upstream and the client see

Two consequences of the traces, for every session of every run.

* `upstream_mediated` — nothing is sent to an upstream for a request that the router,
  its JWT policies or the quota do not admit.
* `response_wellFormed_iff` — when the calls on the client's response are those of one
  HTTP response, and that the answers of the gateway's own are whole.
-/

namespace Kimchi

open Config Library

/-! ## The upstream side -/

/-- An effect that an upstream can see. -/
def SessionEffect.contactsUpstream : SessionEffect → Bool
  | .served (.connect _ _) => true
  | .txn _ => true
  | _ => false

theorem not_contactsUpstream_of_reply {r : Response} {effect : SessionEffect}
    (h : effect ∈ r.served.map SessionEffect.served) : effect.contactsUpstream = false := by
  obtain ⟨served, hserved, rfl⟩ := List.mem_map.mp h
  obtain ⟨call, -, rfl⟩ := List.mem_map.mp hserved
  rfl

theorem not_contactsUpstream_of_upgradeReplies {is : List SessionInput} {effect : SessionEffect}
    (h : effect ∈ upgradeReplies is) : effect.contactsUpstream = false := by
  obtain ⟨i, -, hreply⟩ := List.mem_flatMap.mp h
  split at hreply
  · exact not_contactsUpstream_of_reply hreply
  · cases hreply

theorem Deployment.not_contactsUpstream_of_adminReplies {ρ ℓ : Type} {d : Deployment ρ ℓ} {msg : HTTPMessage}
    {is : List SessionInput} {effect : SessionEffect} (h : effect ∈ d.adminReplies msg is) :
    effect.contactsUpstream = false := by
  obtain ⟨i, -, hreply⟩ := List.mem_flatMap.mp h
  split at hreply
  · exact not_contactsUpstream_of_reply hreply
  · exact not_contactsUpstream_of_reply hreply
  · cases hreply

/-- Only a decision to forward leads to an effect that an upstream can see. -/
theorem Decision.Trace.proxy_of_contacts {later : List SessionInput} {decision : Decision} {trace : List SessionEffect}
    (h : decision.Trace later trace) {effect : SessionEffect} (hmem : effect ∈ trace)
    (hcontacts : effect.contactsUpstream = true) :
    ∃ handler msg, decision = .proxy handler msg ∧ .event .onEOM ∈ later := by
  cases h with
  | answered response =>
      rw [not_contactsUpstream_of_reply hmem] at hcontacts
      cases hcontacts
  | collecting handler msg heom =>
      rw [not_contactsUpstream_of_upgradeReplies hmem] at hcontacts
      cases hcontacts
  | forwarded handler msg dest target heom => exact ⟨handler, msg, rfl, heom⟩

/-- The inputs of a session begin at one place of the interleaving. -/
theorem exists_split_of_inputsOf {κ ι : Type} [DecidableEq κ] {k : κ} {evs : List (κ × ι)} {i : ι} {later : List ι}
    (h : inputsOf k evs = i :: later) :
    ∃ before after, evs = before ++ (k, i) :: after ∧ inputsOf k after = later := by
  obtain ⟨before, ev, after, rfl, -, hev, hafter⟩ := List.filterMap_eq_cons_iff.mp h
  refine ⟨before, after, ?_, hafter⟩
  split at hev
  · next hk =>
      cases hev
      rw [← hk]
  · cases hev

namespace Deployment

variable {ρ ℓ κ : Type} [DecidableEq κ] {d : Deployment ρ ℓ} {l : ℓ} {evs : List (κ × SessionInput)}
  {st : ProcessState ℓ × (κ → Session GatewayHandlerRef)} {outs : List (κ × SessionEffect)} {k : κ}

/-- Behind an effect that an upstream can see stands the decision to forward a request
that has ended. -/
theorem exists_proxy_of_contacts (hrun : d.run l evs = some (st, outs)) {effect : SessionEffect}
    (hmem : (k, effect) ∈ outs) (hcontacts : effect.contactsUpstream = true) :
    ∃ before msg rand64 after st₀ outs₀ st₁ outs₁ keys handler msg' trace,
      evs = before ++ (k, .request msg rand64) :: after ∧ d.run l before = some (st₀, outs₀) ∧
      d.run l (before ++ [(k, .request msg rand64)]) = some (st₁, outs₁) ∧
      Decides d.platform.re d.platform.dns d.engine (d.env (d.limiter.charge l (limiterCalls outs₀)) rand64) msg keys
        (.proxy handler msg') ∧
      (Decision.proxy handler msg').Trace (inputsOf k after) trace ∧ effect ∈ trace ∧
      limiterCalls outs₁ = limiterCalls outs₀ ++ keys := by
  obtain ⟨s₀, factory, st', h⟩ := exists_valueRun hrun
  obtain ⟨met, hmet, htrace⟩ := h.exists_trace k
  have hown : effect ∈ inputsOf k outs := List.mem_filterMap.mpr ⟨(k, effect), hmem, by simp⟩
  generalize hsession : st'.2 k = p at htrace
  generalize houts : inputsOf k outs = effects at htrace hown
  cases htrace with
  | idle => cases hown
  | admin s msg later a hmsg =>
      rw [not_contactsUpstream_of_adminReplies hown] at hcontacts
      cases hcontacts
  | stream s msg rand64 later keys decision stream trace hdecides htrace =>
      obtain ⟨before, after, rfl, -⟩ := exists_split_of_inputsOf hmet.symm
      obtain ⟨v₀, outs₀, v₁, outs₁, keys', decision', stream', trace', hbefore, hrequest, hdecides', hstream, houts',
        hcalls⟩ := exists_requestTrace h.values
      rw [← houts, houts'] at hown
      have htraced : effect ∈ trace' := by
        rcases List.mem_append.mp hown with hcheck | htraced
        · obtain ⟨key, -, rfl⟩ := List.mem_map.mp hcheck
          cases hcontacts
        · exact htraced
      obtain ⟨handler, msg', rfl, -⟩ := hstream.trace.proxy_of_contacts htraced hcontacts
      obtain ⟨st₀, hrun₀⟩ := exists_run_of_values hbefore
      obtain ⟨st₁, hrun₁⟩ := exists_run_of_values hrequest
      exact ⟨before, msg, rand64, after, st₀, outs₀, st₁, outs₁, keys', handler, msg', trace', rfl, hrun₀, hrun₁,
        hdecides', hstream.trace, htraced, hcalls⟩

/-- **Complete mediation.**  Whenever a session connects to an upstream or sends on such a
connection, its request has ended, the router that the precedence rule selects for it
can be dispatched, the JWT policies of that router admit it, and the rate-limit store, as
the calls before the request have left it, has allowed it or has thrown: the filter fails
open.  No interleaving with other sessions or with reloads is an exception. -/
theorem upstream_mediated (hrun : d.run l evs = some (st, outs)) {effect : SessionEffect} (hmem : (k, effect) ∈ outs)
    (hcontacts : effect.contactsUpstream = true) :
    ∃ before msg rand64 after st₀ outs₀ router handler msg',
      evs = before ++ (k, .request msg rand64) :: after ∧ .event .onEOM ∈ inputsOf k after ∧
      RoutedTo d.platform.re d.store msg router ∧
      DispatchesTo d.platform.dns d.store.services router handler ∧
      AdmittedAs d.jwt (FilterBase.traced (d.env l rand64) msg) (d.engine.listedJwks router) msg' ∧
      d.run l before = some (st₀, outs₀) ∧
      RateLimitFilter.allowed (d.env (d.limiter.charge l (limiterCalls outs₀)) rand64).rateLimitStore .failOpen msg =
        true := by
  obtain ⟨before, msg, rand64, after, st₀, outs₀, -, -, keys, handler, msg', trace, rfl, hrun₀, -, hdecides, htrace,
    htraced, -⟩ := exists_proxy_of_contacts hrun hmem hcontacts
  obtain ⟨-, -, -, heom⟩ := htrace.proxy_of_contacts htraced hcontacts
  cases hdecides with
  | proxied router _ _ hrouter hdispatch hadmitted hallowed =>
      exact ⟨before, msg, rand64, after, st₀, outs₀, router, handler, msg', rfl, heom, hrouter, hdispatch,
        hadmitted, hrun₀, hallowed⟩

/-- The connection that the abandoned request had begun. -/
theorem abandoned_mediated :
    ∃ before msg rand64 after st₀ outs₀ router handler msg',
      Sample.abandoned = before ++ (true, .request msg rand64) :: after ∧ .event .onEOM ∈ inputsOf true after ∧
      RoutedTo Sample.deployment.platform.re Sample.svcStore msg router ∧
      DispatchesTo Sample.deployment.platform.dns Sample.svcStore.services router handler ∧
      AdmittedAs Sample.deployment.jwt (FilterBase.traced (Sample.deployment.env () rand64) msg)
        (Sample.deployment.engine.listedJwks router) msg' ∧
      Sample.deployment.run () before = some (st₀, outs₀) ∧
      RateLimitFilter.allowed (Sample.deployment.env (Sample.deployment.limiter.charge () (limiterCalls outs₀))
        rand64).rateLimitStore .failOpen msg = true := by
  have hmem : (true, SessionEffect.served (.connect ⟨str "10.0.0.2", 80⟩
      (GatewayHandler.clientFor Sample.toSvc Sample.twoTargets { host := str "a", port := 80 }
        (FilterBase.traced (Sample.deployment.env () (0, 0)) Sample.getRoot) []))) ∈ Sample.abandonedRun.2 := by
    decide +kernel
  exact upstream_mediated Sample.run_abandoned hmem rfl

end Deployment

/-! ## The client side -/

/-- The calls on the client's response. -/
def respondCalls (effects : List SessionEffect) : List ResponseCall :=
  effects.filterMap fun
    | .served (.respond call) => some call
    | _ => none

theorem respondCalls_append (effects more : List SessionEffect) :
    respondCalls (effects ++ more) = respondCalls effects ++ respondCalls more := List.filterMap_append

@[simp] theorem respondCalls_checkEffects (keys : List RateLimitKey) : respondCalls (checkEffects keys) = [] := by
  simp [respondCalls, checkEffects]

theorem respondCalls_reply (r : Response) : respondCalls (r.served.map .served) = r.sendWithEOM := by
  rw [respondCalls, Response.served, List.filterMap_map, List.filterMap_map]
  exact List.filterMap_some

theorem respondCalls_upstream (outputs : List UpstreamOutput) :
    respondCalls (outputs.map UpstreamOutput.effect) = downstreamCalls outputs := by
  rw [respondCalls, downstreamCalls, List.filterMap_map]
  congr 1
  funext output
  cases output <;> rfl

theorem upgradeReplies_eq_nil {is : List SessionInput} (h : ∀ prot, .event (.onUpgrade prot) ∉ is) :
    upgradeReplies is = [] := by
  rw [upgradeReplies, List.flatMap_eq_nil_iff]
  intro i hi
  split
  · next prot => exact absurd hi (h prot)
  · rfl

/-- No decision is answered with interim headers. -/
theorem Decides.final {ρ : Type} {re : RegexLib ρ} {dns : Resolver} {engine : PolicyEngine} {env : FilterEnv}
    {msg : HTTPMessage} {keys : List RateLimitKey} {response : Response}
    (h : Decides re dns engine env msg keys (.reply response)) : response.head.is1xx = false := by
  cases h <;> rfl

theorem Response.isResponse_sendWithEOM {r : Response} (h : r.head.is1xx = false) : IsResponse r.sendWithEOM :=
  ⟨[], r.head, r.body.toList, by simp, h, rfl⟩

/-- The calls of a whole exchange, from its connect on. -/
theorem UpstreamClient.ofCalls_exchange_iff {c : UpstreamClient} (hc : c.headersSent = false)
    {cbs : List UpstreamCallback} {phase : UpstreamPhase}
    (hfollow : follow UpstreamPhase.next .connecting cbs = some phase) :
    ResponseShape.ofCalls (c.responseCalls cbs) ≠ .malformed ↔ nothingAfterEarlyError cbs = true := by
  rcases UpstreamPhase.follow_connecting hfollow with rfl | rfl | ⟨rest, rfl, hrest⟩
  · simp [ResponseShape.ofCalls, nothingAfterEarlyError]
  · have hreply : c.responseCalls [.connectError] =
        badGatewayCalls (errorBody "bad_gateway" "upstream connect failed") := by
      simp [responseCalls_cons]
    rw [hreply]
    exact iff_of_true (by decide) rfl
  · rw [responseCalls_cons, relayed_connectSuccess, List.nil_append]
    exact ofCalls_established_iff (by simpa using hc) (by simp) hrest

/-- The calls of a trace without upgrades. -/
theorem StreamTrace.ofCalls_iff {later : List SessionInput} {decision : Decision} {stream : Stream GatewayHandler}
    {trace : List SessionEffect} (h : StreamTrace later decision stream trace)
    (hfinal : ∀ response, decision = .reply response → response.head.is1xx = false)
    (hupgrade : ∀ prot, .event (.onUpgrade prot) ∉ later) :
    ResponseShape.ofCalls (respondCalls trace) ≠ .malformed ↔
      nothingAfterEarlyError (upstreamCallbacks later) = true := by
  cases h with
  | answered response stream hclosed hcallbacks =>
      have hended := ResponseShape.ofCalls_of_isResponse (Response.isResponse_sendWithEOM (hfinal response rfl))
      rw [respondCalls_reply, hcallbacks, hended]
      exact iff_of_true (by decide) rfl
  | collecting handler msg fs stream heom hclient hopen hserving hcallbacks =>
      rw [upgradeReplies_eq_nil hupgrade, hcallbacks]
      exact iff_of_true (by decide) rfl
  | forwarded handler msg dest target client phase stream heom hclient hdest htarget hfor hphase =>
      have hcalls : respondCalls (.served (.connect handler.upstreamAddr client) ::
          (UpstreamClient.machine.outputs client (upstreamCallbacks later)).map UpstreamOutput.effect) =
            client.responseCalls (upstreamCallbacks later) := respondCalls_upstream _
      have hfresh : client.headersSent = false := by rw [hfor]; rfl
      rw [upgradeReplies_eq_nil hupgrade, List.nil_append, hcalls]
      exact UpstreamClient.ofCalls_exchange_iff hfresh hphase

/-- Without an upstream the answer is the gateway's own, and it is a whole one. -/
theorem StreamTrace.whole_of_unforwarded {later : List SessionInput} {decision : Decision}
    {stream : Stream GatewayHandler} {trace : List SessionEffect} (h : StreamTrace later decision stream trace)
    (hfinal : ∀ response, decision = .reply response → response.head.is1xx = false)
    (hupgrade : ∀ prot, .event (.onUpgrade prot) ∉ later)
    (hnone : ∀ effect ∈ trace, effect.contactsUpstream = false) :
    IsResponse (respondCalls trace) ∨ (respondCalls trace = [] ∧ .event .onEOM ∉ later) := by
  cases h with
  | answered response stream hclosed hcallbacks =>
      rw [respondCalls_reply]
      exact Or.inl (Response.isResponse_sendWithEOM (hfinal response rfl))
  | collecting handler msg fs stream heom hclient hopen hserving hcallbacks =>
      rw [upgradeReplies_eq_nil hupgrade]
      exact Or.inr ⟨rfl, heom⟩
  | forwarded handler msg dest target client phase stream heom hclient hdest htarget hfor hphase =>
      -- the connection itself is an effect that an upstream can see
      cases hnone (.served (.connect handler.upstreamAddr client)) (by simp)

namespace Sample

/-- A request with a body is forwarded and answered, beside a reload. -/
def exchange : List (Bool × SessionInput) :=
  [(true, .request getRoot (0, 0)), (true, .event (.onBody (str "ab"))), (true, .event .onEOM),
    (false, .adminRequest reloadRequest), (true, .upstream .connectSuccess),
    (true, .upstream (.onHeadersComplete { status := 200, reason := str "OK", headers := [] })),
    (false, .adminEvent .onEOM .missing), (true, .upstream (.onBody (str "ok"))), (true, .upstream .onEOM)]

theorem inputsOf_exchange :
    inputsOf true exchange = .request getRoot (0, 0) :: [.event (.onBody (str "ab")), .event .onEOM,
      .upstream .connectSuccess,
      .upstream (.onHeadersComplete { status := 200, reason := str "OK", headers := [] }),
      .upstream (.onBody (str "ok")), .upstream .onEOM] := rfl

theorem exchange_isSome : (deployment.run () exchange).isSome = true := by decide +kernel

/-- What the run comes to. -/
def exchangeRun := (deployment.run () exchange).get exchange_isSome

theorem run_exchange : deployment.run () exchange = some (exchangeRun.1, exchangeRun.2) :=
  (Option.some_get exchange_isSome).symm

end Sample

namespace Deployment

variable {ρ ℓ κ : Type} [DecidableEq κ] {d : Deployment ρ ℓ} {l : ℓ} {evs : List (κ × SessionInput)}
  {st : ProcessState ℓ × (κ → Session GatewayHandlerRef)} {outs : List (κ × SessionEffect)} {k : κ}

/-- **At most one response for each request.**  In every run, the calls on the response of
a request that the client does not try to upgrade are a prefix of one HTTP response
exactly when, on its upstream connection, no callback that relays something follows an
error from before the first response headers.  A request for which no upstream is
contacted is answered with one whole response, unless it has not ended and is sent
nothing. -/
theorem response_wellFormed_iff (hrun : d.run l evs = some (st, outs)) {msg : HTTPMessage}
    {rand64 : UInt64 × UInt64} {later : List SessionInput} (hinputs : inputsOf k evs = .request msg rand64 :: later)
    (hupgrade : ∀ prot, .event (.onUpgrade prot) ∉ later) :
    ((∃ response, IsResponse response ∧ respondCalls (inputsOf k outs) <+: response) ↔
      nothingAfterEarlyError (upstreamCallbacks later) = true) ∧
    ((∀ effect ∈ inputsOf k outs, effect.contactsUpstream = false) →
      IsResponse (respondCalls (inputsOf k outs)) ∨
        (respondCalls (inputsOf k outs) = [] ∧ .event .onEOM ∉ later)) := by
  obtain ⟨limiter, keys, decision, stream, trace, hdecides, hstream, houts⟩ := exists_streamTrace hrun hinputs
  have hfinal : ∀ response, decision = .reply response → response.head.is1xx = false := by
    intro response hreply
    rw [hreply] at hdecides
    exact hdecides.final
  have hcalls : respondCalls (inputsOf k outs) = respondCalls trace := by
    rw [houts, respondCalls_append, respondCalls_checkEffects, List.nil_append]
  rw [ResponseShape.exists_response_iff_scan, hcalls]
  refine ⟨hstream.ofCalls_iff hfinal hupgrade, fun hnone => ?_⟩
  refine hstream.whole_of_unforwarded hfinal hupgrade fun effect heffect => hnone effect ?_
  rw [houts]
  exact List.mem_append_right _ heffect

/-- The relayed answer of an upstream, and the refusal of a request over the quota. -/
theorem exchange_wellFormed :
    respondCalls (inputsOf true Sample.exchangeRun.2) =
      [.sendHeaders { status := 200, reason := str "OK", headers := [] }, .sendBody (str "ok"), .sendEOM] ∧
    (∃ response, IsResponse response ∧ respondCalls (inputsOf true Sample.exchangeRun.2) <+: response) ∧
    respondCalls (inputsOf false Sample.twoRequestsRun.2) ≠ [] ∧
    IsResponse (respondCalls (inputsOf false Sample.twoRequestsRun.2)) := by
  have hinputs : inputsOf false Sample.twoRequests = [.request Sample.getRoot (0, 0)] := rfl
  have hunforwarded : ∀ effect ∈ inputsOf false Sample.twoRequestsRun.2, effect.contactsUpstream = false := by
    decide +kernel
  have hsent : respondCalls (inputsOf false Sample.twoRequestsRun.2) ≠ [] := by decide +kernel
  refine ⟨by decide +kernel, ?_, hsent, ?_⟩
  · exact (response_wellFormed_iff Sample.run_exchange Sample.inputsOf_exchange (by simp)).1.mpr rfl
  · rcases (response_wellFormed_iff Sample.run_twoRequests hinputs (by simp)).2 hunforwarded with
      hwhole | ⟨hnothing, -⟩
    · exact hwhole
    · exact absurd hnothing hsent

end Deployment

end Kimchi
