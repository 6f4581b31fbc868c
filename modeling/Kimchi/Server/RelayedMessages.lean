import Kimchi.Filter.TracingHeaders
import Kimchi.Policy.JwtDecision
import Kimchi.Server.SessionOutputs

/-!
# What crosses the gateway

The two directions of a proxied request, for every session of every run.

* `RelayedRequest` — the request an upstream receives against the one the client sent:
  which headers the gateway writes, with which values, and that it writes no other.
* `upstream_receives` — on an upstream connection the session sends this request, once
  and whole, and nothing else.
* `response_relayed` — the client receives the pieces of the upstream's response, each
  once and in their order.
* `requestIds_eq_iff` — when two requests carry the same generated id.
-/

namespace Kimchi

open Config Library

/-! ## The request -/

/-- The calls on the upstream transaction. -/
def transactionCalls (effects : List SessionEffect) : List TransactionCall :=
  effects.filterMap fun
    | .txn call => some call
    | _ => none

/-- A whole request on the upstream transaction, its body in one piece. -/
def requestCalls (sent : UpstreamRequest) (chunks : List Str) : List TransactionCall :=
  .sendHeaders sent :: ((if chunks = [] then [] else [.sendBody chunks.flatten]) ++ [.sendEOM])

/-- The headers of a request that the gateway may write. -/
def gatewayHeaders : List Str := str "Host" :: (HeaderFilter.tracingHeaders ++ rewrittenHeaders)

/-- The headers that the JWT policies write: what the client sent if the router has no
such policy, what the accepted token says otherwise.  For a token without an issuer the
upstream sees the `x-jwt-issuer` of the client. -/
inductive IdentityHeaders (lib : JwtLib) (msg : HTTPMessage) (sent : HTTPHeaders) : List JwksCache → Prop
  | ofClient (h : ∀ name ∈ rewrittenHeaders, sent.values name = msg.headers.values name) :
      IdentityHeaders lib msg sent []
  | ofToken (c : JwksCache) (token : Str) (id : JwtPolicy.Identity) (hbears : JwtPolicy.BearsToken msg token)
      (hid : JwtPolicy.evaluate lib c token = .ok id)
      (hsubject : sent.values (str "x-jwt-subject") = [id.subject])
      (hissuer : sent.values (str "x-jwt-issuer") =
        match id.issuer with
        | some issuer => [issuer]
        | none => msg.headers.values (str "x-jwt-issuer"))
      (hmethod : sent.values (str "x-auth-method") = [str "jwt"])
      (hauthorization : sent.values (str "Authorization") = []) : IdentityHeaders lib msg sent [c]

/-- The request the upstream receives, against the one the client sent. -/
structure RelayedRequest (lib : JwtLib) (cs : List JwksCache) (requestId : Str) (dest : RouterDestination)
    (service : ServiceConfig) (target : LoadBalancingTarget) (msg : HTTPMessage) (sent : UpstreamRequest) : Prop where
  method : sent.method = msg.method
  url : UpstreamUrl dest msg sent.url
  host : ∃ host, sent.headers.values (str "Host") = [host] ∧ UpstreamHost dest service target host
  tracing : ∃ traced, HeaderFilter.Normalised requestId msg.headers traced ∧
    ∀ name ∈ HeaderFilter.tracingHeaders, sent.headers.values name = traced.values name
  identity : IdentityHeaders lib msg sent.headers cs
  others : Multimap.without lower sent.headers gatewayHeaders = Multimap.without lower msg.headers gatewayHeaders

/-- The URL rules read the URL and the query string alone. -/
theorem UpstreamUrl.of_headers {dest : RouterDestination} {msg : HTTPMessage} {headers : HTTPHeaders} {url : Str}
    (h : UpstreamUrl dest { msg with headers := headers } url) : UpstreamUrl dest msg url := by
  cases h with
  | unchanged hkeep => exact .unchanged hkeep
  | rewritten rewrite h hne hquery => exact .rewritten rewrite h hne hquery
  | withQuery rewrite h hne hquery => exact .withQuery rewrite h hne hquery

namespace AdmittedAs

variable {lib : JwtLib} {msg msg' : HTTPMessage} {cs : List JwksCache}

theorem eq_with_headers (h : AdmittedAs lib msg cs msg') : msg' = { msg with headers := msg'.headers } := by
  cases h <;> rfl

theorem without_rewrittenHeaders (h : AdmittedAs lib msg cs msg') :
    Multimap.without lower msg'.headers rewrittenHeaders = Multimap.without lower msg.headers rewrittenHeaders := by
  cases h with
  | unguarded => rfl
  | bearer c token id hbears hid => exact JwtPolicy.without_withIdentity id msg.headers

/-- The policies leave the headers that they do not write. -/
theorem values_eq (h : AdmittedAs lib msg cs msg') {name : Str}
    (hname : ∀ written ∈ rewrittenHeaders, lower written ≠ lower name) :
    msg'.headers.values name = msg.headers.values name := by
  have hvalues := congrArg (Multimap.values lower · name) h.without_rewrittenHeaders
  simp only [Multimap.values_without_of_not_mem hname] at hvalues
  exact hvalues

/-- The headers that they write. -/
theorem identityHeaders (h : AdmittedAs lib msg cs msg') : IdentityHeaders lib msg msg'.headers cs := by
  cases h with
  | unguarded => exact .ofClient fun name _ => rfl
  | bearer c token id hbears hid =>
      exact .ofToken c token id hbears hid (JwtPolicy.values_withIdentity_subject id msg.headers)
        (JwtPolicy.values_withIdentity_issuer id msg.headers)
        (JwtPolicy.values_withIdentity_authMethod id msg.headers)
        (JwtPolicy.values_withIdentity_authorization id msg.headers)

end AdmittedAs

/-- Only the values of these headers matter. -/
theorem IdentityHeaders.congr {lib : JwtLib} {msg msg' : HTTPMessage} {sent sent' : HTTPHeaders} {cs : List JwksCache}
    (h : IdentityHeaders lib msg sent cs)
    (hmsg : ∀ name ∈ rewrittenHeaders, msg.headers.values name = msg'.headers.values name)
    (hsent : ∀ name ∈ rewrittenHeaders, sent'.values name = sent.values name) :
    IdentityHeaders lib msg' sent' cs := by
  cases h with
  | ofClient h => exact .ofClient fun name hname => (hsent name hname).trans ((h name hname).trans (hmsg name hname))
  | ofToken c token id hbears hid hsubject hissuer hmethod hauthorization =>
      have hbears' : JwtPolicy.BearsToken msg' token :=
        ⟨hbears.1, (hmsg _ (by decide)).symm.trans hbears.2⟩
      rw [hmsg _ (by decide)] at hissuer
      exact .ofToken c token id hbears' hid ((hsent _ (by decide)).trans hsubject)
        ((hsent _ (by decide)).trans hissuer) ((hsent _ (by decide)).trans hmethod)
        ((hsent _ (by decide)).trans hauthorization)

/-- An admitted message in the hands of its handler becomes this request. -/
theorem relayedRequest_of_admittedAs {env : FilterEnv} {cs : List JwksCache} {msg msg' : HTTPMessage}
    (h : AdmittedAs env.jwt (FilterBase.traced env msg) cs msg') (dest : RouterDestination) (service : ServiceConfig)
    (target : LoadBalancingTarget) :
    RelayedRequest env.jwt cs (HeaderFilter.generateRequestId env.rand64) dest service target msg
      (GatewayHandler.upstreamReq dest service target msg') := by
  have htraced : HeaderFilter.Normalised (HeaderFilter.generateRequestId env.rand64) msg.headers
      (FilterBase.traced env msg).headers :=
    HeaderFilter.normalised_tracingWith (HeaderFilter.generateRequestId_ne_nil env.rand64) msg.headers
  have hsent := GatewayHandler.headers_upstreamReq dest service target msg'
  -- only the host is written after the policies
  have hvalues {name : Str} (hname : lower (str "Host") ≠ lower name) :
      (GatewayHandler.upstreamReq dest service target msg').headers.values name = msg'.headers.values name := by
    rw [hsent]
    exact HTTPHeaders.values_set_of_ne hname
  have hmsg : msg' = { msg with headers := msg'.headers } := h.eq_with_headers
  refine ⟨?_, ?_, ⟨GatewayHandler.hostHeader dest service target, ?_, ?_⟩,
    ⟨(FilterBase.traced env msg).headers, htraced, ?_⟩, ?_, ?_⟩
  · rw [hmsg]
    rfl
  · have hurl := GatewayHandler.upstreamUrl_spec dest msg'
    rw [hmsg] at hurl
    rw [hmsg]
    exact hurl.of_headers
  · rw [hsent]
    exact HTTPHeaders.values_set_self
  · exact GatewayHandler.upstreamHost_hostHeader dest service target
  · intro name hname
    have hothers : lower (str "Host") ≠ lower name ∧ ∀ written ∈ rewrittenHeaders, lower written ≠ lower name := by
      revert name
      decide
    rw [hvalues hothers.1, h.values_eq hothers.2]
  · refine h.identityHeaders.congr ?_ ?_
    · intro name hname
      have hothers : lower (str "x-request-id") ≠ lower name ∧ lower (str "x-trace-id") ≠ lower name := by
        revert name
        decide
      exact HeaderFilter.values_tracing_of_ne env.rand64 msg.headers hothers.1 hothers.2
    · intro name hname
      have hhost : lower (str "Host") ≠ lower name := by
        revert name
        decide
      exact hvalues hhost
  · have hrewritten : rewrittenHeaders ⊆ gatewayHeaders := by decide
    have htracing : HeaderFilter.tracingHeaders ⊆ gatewayHeaders := by decide
    rw [hsent]
    calc Multimap.without lower (msg'.headers.set (str "Host") _) gatewayHeaders
        = Multimap.without lower msg'.headers gatewayHeaders := Multimap.without_set_of_mem (by decide)
      _ = Multimap.without lower (FilterBase.traced env msg).headers gatewayHeaders :=
          Multimap.without_congr_of_subset hrewritten h.without_rewrittenHeaders
      _ = Multimap.without lower msg.headers gatewayHeaders :=
          Multimap.without_congr_of_subset htracing htraced.others

/-! ## The calls on the transaction -/

theorem transactionCalls_append (effects more : List SessionEffect) :
    transactionCalls (effects ++ more) = transactionCalls effects ++ transactionCalls more := List.filterMap_append

@[simp] theorem transactionCalls_checkEffects (keys : List RateLimitKey) : transactionCalls (checkEffects keys) = [] := by
  simp [transactionCalls, checkEffects]

theorem transactionCalls_served (effects : List ServedEffect) :
    transactionCalls (effects.map SessionEffect.served) = [] := by
  simp [transactionCalls]

theorem transactionCalls_upgradeReplies (is : List SessionInput) : transactionCalls (upgradeReplies is) = [] := by
  rw [transactionCalls, List.filterMap_eq_nil_iff]
  intro effect hmem
  have hquiet := not_contactsUpstream_of_upgradeReplies hmem
  cases effect with
  | served effect => rfl
  | txn call => cases hquiet

theorem mem_upstreamCallbacks {cb : UpstreamCallback} {is : List SessionInput} :
    cb ∈ upstreamCallbacks is ↔ .upstream cb ∈ is := by
  rw [upstreamCallbacks, List.mem_filterMap]
  constructor
  · rintro ⟨i, hi, hcb⟩
    split at hcb
    · cases hcb
      exact hi
    · cases hcb
  · intro h
    exact ⟨.upstream cb, h, rfl⟩

/-- A callback of the connector does not come once the connection is there. -/
theorem UpstreamPhase.not_mem_of_established {cb₀ : UpstreamCallback} (hcb₀ : ∀ i, next (.established i) cb₀ = none)
    {cbs : List UpstreamCallback} {i : IngressPhase} {phase : UpstreamPhase}
    (h : follow next (.established i) cbs = some phase) : cb₀ ∉ cbs := by
  induction cbs generalizing i with
  | nil => simp
  | cons cb rest ih =>
      obtain ⟨phase', hnext, hrest⟩ := Option.bind_eq_some_iff.mp h
      rw [List.mem_cons, not_or]
      refine ⟨?_, ?_⟩
      · rintro rfl
        rw [hcb₀ i] at hnext
        cases hnext
      · cases phase' with
        | connecting => cases establishedStep_of_next hnext
        | established i' => exact ih hrest
        | gone => simp [follow_gone hrest]

namespace UpstreamClient

/-- Only `connectSuccess` sends on the transaction. -/
theorem transactionCalls_step (c : UpstreamClient) {cb : UpstreamCallback} (h : cb ≠ .connectSuccess) :
    transactionCalls ((c.step cb).2.map UpstreamOutput.effect) = [] := by
  have hdownstream (calls : List ResponseCall) :
      transactionCalls ((calls.map UpstreamOutput.downstream).map UpstreamOutput.effect) = [] := by
    simp [transactionCalls, UpstreamOutput.effect]
  cases cb with
  | connectSuccess => exact absurd rfl h
  | connectError => exact hdownstream _
  | onError direction =>
      simp only [step, onError]
      split
      · exact hdownstream _
      · rfl
  | _ => rfl

theorem transactionCalls_outputs (c : UpstreamClient) {cbs : List UpstreamCallback} (h : .connectSuccess ∉ cbs) :
    transactionCalls ((machine.outputs c cbs).map UpstreamOutput.effect) = [] := by
  induction cbs generalizing c with
  | nil => rfl
  | cons cb rest ih =>
      obtain ⟨hfirst, hrest⟩ := List.ne_and_not_mem_of_not_mem_cons h
      rw [Machine.outputs_cons, List.map_append, transactionCalls_append, ih _ hrest, List.append_nil]
      exact transactionCalls_step c (Ne.symm hfirst)

/-- A whole exchange: the request is sent when the connection is there. -/
theorem transactionCalls_exchange {dest : RouterDestination} {service : ServiceConfig} {target : LoadBalancingTarget}
    {msg : HTTPMessage} {chunks : List Str} {cbs : List UpstreamCallback} {phase : UpstreamPhase}
    (hphase : follow UpstreamPhase.next .connecting cbs = some phase) (hconnected : .connectSuccess ∈ cbs) :
    transactionCalls ((machine.outputs (GatewayHandler.clientFor dest service target msg chunks) cbs).map
        UpstreamOutput.effect) =
      requestCalls (GatewayHandler.upstreamReq dest service target msg) chunks := by
  rcases UpstreamPhase.follow_connecting hphase with rfl | rfl | ⟨rest, rfl, hrest⟩
  · cases hconnected
  · simp at hconnected
  · have hquiet := transactionCalls_outputs (machine.step (GatewayHandler.clientFor dest service target msg chunks)
      .connectSuccess).1 (UpstreamPhase.not_mem_of_established (fun i => by cases i <;> rfl) hrest)
    rw [Machine.outputs_cons, List.map_append, transactionCalls_append, hquiet, List.append_nil]
    change transactionCalls ((connectSuccess _).2.map _) = _
    simp only [connectSuccess, GatewayHandler.clientFor, GatewayHandler.collected_none, requestCalls]
    split <;> rfl

end UpstreamClient

/-- Without a connection nothing is sent on one. -/
theorem StreamTrace.transactionCalls_eq_nil {later : List SessionInput} {decision : Decision}
    {stream : Stream GatewayHandler} {trace : List SessionEffect} (h : StreamTrace later decision stream trace)
    (hnot : .upstream .connectSuccess ∉ later) : transactionCalls trace = [] := by
  cases h with
  | answered response => exact transactionCalls_served _
  | collecting => exact transactionCalls_upgradeReplies later
  | forwarded handler msg dest target client phase st =>
      rw [transactionCalls_append, transactionCalls_upgradeReplies]
      exact client.transactionCalls_outputs (mt mem_upstreamCallbacks.mp hnot)

/-- A connection belongs to a request that was forwarded. -/
theorem StreamTrace.forwarded_of_connected {later : List SessionInput} {decision : Decision}
    {stream : Stream GatewayHandler} {trace : List SessionEffect} (h : StreamTrace later decision stream trace)
    (hconnected : .upstream .connectSuccess ∈ later) :
    ∃ handler msg dest target client phase, decision = .proxy handler msg ∧
      handler.router.destinations.head? = some dest ∧
      handler.service.loadBalancing.targets.head? = some target ∧
      client = GatewayHandler.clientFor dest handler.service target msg (bodyChunks later) ∧
      follow UpstreamPhase.next .connecting (upstreamCallbacks later) = some phase ∧
      trace = upgradeReplies later ++ .served (.connect handler.upstreamAddr client) ::
        (UpstreamClient.machine.outputs client (upstreamCallbacks later)).map UpstreamOutput.effect := by
  have hcallback := mem_upstreamCallbacks.mpr hconnected
  cases h with
  | answered response st hclosed hcallbacks =>
      rw [hcallbacks] at hcallback
      cases hcallback
  | collecting handler msg fs st heom hclient hopen hserving hcallbacks =>
      rw [hcallbacks] at hcallback
      cases hcallback
  | forwarded handler msg dest target client phase st heom hclient hdest htarget hfor hphase =>
      exact ⟨handler, msg, dest, target, client, phase, rfl, hdest, htarget, hfor, hphase, rfl⟩

/-! ## The response -/

/-- The call on the client's response that passes a callback on. -/
def UpstreamCallback.passedOn : UpstreamCallback → Option ResponseCall
  | .onHeadersComplete msg => some (.sendHeaders msg)
  | .onBody chain => some (.sendBody chain)
  | .onEOM => some .sendEOM
  | _ => none

/-- Without an error before the first headers every piece of the response is passed on,
and nothing is added to it. -/
theorem UpstreamClient.responseCalls_eq_passedOn {c : UpstreamClient} {cbs : List UpstreamCallback}
    (hconnect : .connectError ∉ cbs) (hearly : c.headersSent = true ∨ earlyErrors cbs = 0) :
    c.responseCalls cbs = cbs.filterMap UpstreamCallback.passedOn := by
  induction cbs generalizing c with
  | nil => rfl
  | cons cb rest ih =>
      obtain ⟨hfirst, hrest⟩ := List.ne_and_not_mem_of_not_mem_cons hconnect
      have hlater : (c.step cb).1.headersSent = true ∨ earlyErrors rest = 0 := by
        rw [headersSent_step]
        rcases hearly with hsent | hzero
        · exact Or.inl (by rw [hsent, Bool.true_or])
        · cases cb <;> simp_all [earlyErrors]
      have hhead : c.relayed cb = cb.passedOn.toList := by
        cases cb with
        | connectError => exact absurd rfl hfirst
        | onError direction =>
            have hsent : c.headersSent = true := by
              rcases hearly with hsent | hzero
              · exact hsent
              · simp [earlyErrors] at hzero
            simp [hsent, UpstreamCallback.passedOn]
        | _ => simp [UpstreamCallback.passedOn]
      rw [responseCalls_cons, ih hrest hlater, hhead, List.filterMap_cons]
      cases cb.passedOn <;> rfl

/-! ## Request ids -/

theorem HeaderFilter.generateRequestId_injective : Function.Injective generateRequestId := by
  intro rand64 rand64' h
  have hlength : (hex16 rand64.1).length = (hex16 rand64'.1).length := by simp [hex16]
  obtain ⟨hfirst, hsecond⟩ := List.append_inj h hlength
  exact Prod.ext (hex16_injective hfirst) (hex16_injective hsecond)

/-! ## Whole runs -/

namespace Sample

/-- Two forwarded requests, for which different numbers are drawn. -/
def twoIds : List (Bool × SessionInput) :=
  [(true, .request getRoot (0, 0)), (false, .request getRoot (0, 1)), (true, .event .onEOM), (false, .event .onEOM),
    (false, .upstream .connectSuccess), (true, .upstream .connectSuccess)]

/-- The run is defined. -/
theorem twoIds_isSome : (deployment.run () twoIds).isSome = true := by decide +kernel

/-- What the run comes to. -/
def twoIdsRun := (deployment.run () twoIds).get twoIds_isSome

theorem run_twoIds : deployment.run () twoIds = some (twoIdsRun.1, twoIdsRun.2) :=
  (Option.some_get twoIds_isSome).symm

end Sample

namespace Deployment

variable {ρ ℓ κ : Type} [DecidableEq κ] {d : Deployment ρ ℓ} {l : ℓ} {evs : List (κ × SessionInput)}
  {st : ProcessState ℓ × (κ → Session GatewayHandlerRef)} {outs : List (κ × SessionEffect)} {k : κ}
  {msg : HTTPMessage} {rand64 : UInt64 × UInt64} {later : List SessionInput}

/-- What is sent over an established connection. -/
theorem exists_relayedRequest (hrun : d.run l evs = some (st, outs))
    (hinputs : inputsOf k evs = .request msg rand64 :: later) (hconnected : .upstream .connectSuccess ∈ later) :
    ∃ router handler dest target sent,
      RoutedTo d.platform.re d.store msg router ∧
      DispatchesTo d.platform.dns d.store.services router handler ∧
      handler.router.destinations.head? = some dest ∧
      handler.service.loadBalancing.targets.head? = some target ∧
      RelayedRequest d.jwt (d.engine.listedJwks router) (HeaderFilter.generateRequestId rand64) dest
        handler.service target msg sent ∧
      transactionCalls (inputsOf k outs) = requestCalls sent (bodyChunks later) := by
  obtain ⟨limiter, keys, decision, stream, trace, hdecides, hstream, houts⟩ := exists_streamTrace hrun hinputs
  obtain ⟨handler, msg', dest, target, client, phase, rfl, hdest, htarget, rfl, hphase, rfl⟩ :=
    hstream.forwarded_of_connected hconnected
  cases hdecides with
  | proxied router _ _ hrouter hdispatch hadmitted =>
      refine ⟨router, handler, dest, target, _, hrouter, hdispatch, hdest, htarget,
        relayedRequest_of_admittedAs hadmitted dest handler.service target, ?_⟩
      rw [houts, transactionCalls_append, transactionCalls_checkEffects, List.nil_append, transactionCalls_append,
        transactionCalls_upgradeReplies, List.nil_append]
      exact UpstreamClient.transactionCalls_exchange hphase (mem_upstreamCallbacks.mpr hconnected)

/-- The generated id of a request that came without one. -/
theorem exists_sent_requestId (hrun : d.run l evs = some (st, outs))
    (hinputs : inputsOf k evs = .request msg rand64 :: later) (hconnected : .upstream .connectSuccess ∈ later)
    (hlacking : msg.headers.Lacking (str "x-request-id")) :
    ∃ sent, transactionCalls (inputsOf k outs) = requestCalls sent (bodyChunks later) ∧
      sent.headers.values (str "x-request-id") = [HeaderFilter.generateRequestId rand64] := by
  obtain ⟨router, handler, dest, target, sent, -, -, -, -, hrelayed, hcalls⟩ :=
    exists_relayedRequest hrun hinputs hconnected
  obtain ⟨traced, hnormalised, hvalues⟩ := hrelayed.tracing
  refine ⟨sent, hcalls, ?_⟩
  rw [hvalues _ (by decide)]
  exact hnormalised.generated hlacking

/-- **The request arrives whole, once, and rewritten as stated.**  In every run a session
sends nothing on an upstream transaction before the connection is there; then it sends
one request, whose method, URL, headers and body are those of the client's request up to
the headers that `RelayedRequest` names; and nothing after it. -/
theorem upstream_receives (hrun : d.run l evs = some (st, outs))
    (hinputs : inputsOf k evs = .request msg rand64 :: later) :
    (.upstream .connectSuccess ∉ later ∧ transactionCalls (inputsOf k outs) = []) ∨
      (.upstream .connectSuccess ∈ later ∧ ∃ router handler dest target sent,
        RoutedTo d.platform.re d.store msg router ∧
        DispatchesTo d.platform.dns d.store.services router handler ∧
        handler.router.destinations.head? = some dest ∧
        handler.service.loadBalancing.targets.head? = some target ∧
        RelayedRequest d.jwt (d.engine.listedJwks router) (HeaderFilter.generateRequestId rand64) dest
          handler.service target msg sent ∧
        transactionCalls (inputsOf k outs) = requestCalls sent (bodyChunks later)) := by
  by_cases hconnected : .upstream .connectSuccess ∈ later
  · exact Or.inr ⟨hconnected, exists_relayedRequest hrun hinputs hconnected⟩
  · obtain ⟨limiter, keys, decision, stream, trace, -, hstream, houts⟩ := exists_streamTrace hrun hinputs
    refine Or.inl ⟨hconnected, ?_⟩
    rw [houts, transactionCalls_append, transactionCalls_checkEffects, List.nil_append]
    exact hstream.transactionCalls_eq_nil hconnected

/-- What was sent for the forwarded request. -/
theorem exchange_received :
    ∃ router handler dest target sent,
      RoutedTo Sample.deployment.platform.re Sample.svcStore Sample.getRoot router ∧
      DispatchesTo Sample.deployment.platform.dns Sample.svcStore.services router handler ∧
      handler.router.destinations.head? = some dest ∧
      handler.service.loadBalancing.targets.head? = some target ∧
      RelayedRequest Sample.deployment.jwt (Sample.deployment.engine.listedJwks router)
        (HeaderFilter.generateRequestId (0, 0)) dest handler.service target Sample.getRoot sent ∧
      transactionCalls (inputsOf true Sample.exchangeRun.2) = requestCalls sent [str "ab"] := by
  rcases upstream_receives Sample.run_exchange Sample.inputsOf_exchange with ⟨hnot, -⟩ | ⟨-, hsent⟩
  · exact absurd (by decide) hnot
  · exact hsent

/-- **The response arrives as the upstream sent it.**  In every run, over a connection on
which no error comes before the first response headers, the client is sent the headers,
the pieces of the body and the end of the upstream's response, each once and in their
order, and nothing else; trailers are dropped. -/
theorem response_relayed (hrun : d.run l evs = some (st, outs))
    (hinputs : inputsOf k evs = .request msg rand64 :: later) (hconnected : .upstream .connectSuccess ∈ later)
    (hupgrade : ∀ prot, .event (.onUpgrade prot) ∉ later) (hearly : earlyErrors (upstreamCallbacks later) = 0) :
    respondCalls (inputsOf k outs) = (upstreamCallbacks later).filterMap UpstreamCallback.passedOn := by
  obtain ⟨limiter, keys, decision, stream, trace, -, hstream, houts⟩ := exists_streamTrace hrun hinputs
  obtain ⟨handler, msg', dest, target, client, phase, rfl, -, -, -, hphase, rfl⟩ :=
    hstream.forwarded_of_connected hconnected
  have hcallback := mem_upstreamCallbacks.mpr hconnected
  have hconnect : .connectError ∉ upstreamCallbacks later := by
    rcases UpstreamPhase.follow_connecting hphase with hnil | herror | ⟨rest, hcons, hrest⟩
    · simp [hnil] at hcallback
    · simp [herror] at hcallback
    · rw [hcons, List.mem_cons, not_or]
      exact ⟨by simp, UpstreamPhase.not_mem_of_established (fun i => by cases i <;> rfl) hrest⟩
  rw [houts, respondCalls_append, respondCalls_checkEffects, List.nil_append, upgradeReplies_eq_nil hupgrade,
    List.nil_append]
  change respondCalls ((UpstreamClient.machine.outputs client (upstreamCallbacks later)).map _) = _
  rw [respondCalls_upstream]
  exact UpstreamClient.responseCalls_eq_passedOn hconnect (Or.inr hearly)

/-- The answer of the upstream to the forwarded request. -/
theorem exchange_relayed :
    respondCalls (inputsOf true Sample.exchangeRun.2) =
      [.sendHeaders { status := 200, reason := str "OK", headers := [] }, .sendBody (str "ok"), .sendEOM] :=
  response_relayed Sample.run_exchange Sample.inputsOf_exchange (by decide) (by simp) rfl

/-- **Generated request ids are as distinct as the random numbers.**  Two requests of a run
that come without an `x-request-id` of their own and are sent to upstreams carry the same
one exactly when the same two random numbers were drawn for both. -/
theorem requestIds_eq_iff (hrun : d.run l evs = some (st, outs)) {k' : κ} {msg' : HTTPMessage}
    {rand64' : UInt64 × UInt64} {later' : List SessionInput}
    (hinputs : inputsOf k evs = .request msg rand64 :: later) (hconnected : .upstream .connectSuccess ∈ later)
    (hlacking : msg.headers.Lacking (str "x-request-id"))
    (hinputs' : inputsOf k' evs = .request msg' rand64' :: later') (hconnected' : .upstream .connectSuccess ∈ later')
    (hlacking' : msg'.headers.Lacking (str "x-request-id")) :
    ∃ sent sent', transactionCalls (inputsOf k outs) = requestCalls sent (bodyChunks later) ∧
      transactionCalls (inputsOf k' outs) = requestCalls sent' (bodyChunks later') ∧
      (sent.headers.values (str "x-request-id") = sent'.headers.values (str "x-request-id") ↔ rand64 = rand64') := by
  obtain ⟨sent, hsent, hid⟩ := exists_sent_requestId hrun hinputs hconnected hlacking
  obtain ⟨sent', hsent', hid'⟩ := exists_sent_requestId hrun hinputs' hconnected' hlacking'
  refine ⟨sent, sent', hsent, hsent', ?_⟩
  rw [hid, hid', List.singleton_inj]
  exact HeaderFilter.generateRequestId_injective.eq_iff

theorem twoIds_distinct :
    ∃ sent sent', transactionCalls (inputsOf true Sample.twoIdsRun.2) = requestCalls sent [] ∧
      transactionCalls (inputsOf false Sample.twoIdsRun.2) = requestCalls sent' [] ∧
      (sent.headers.values (str "x-request-id") = sent'.headers.values (str "x-request-id") ↔
        ((0, 0) : UInt64 × UInt64) = (0, 1)) := by
  have hinputs : inputsOf true Sample.twoIds =
      .request Sample.getRoot (0, 0) :: [.event .onEOM, .upstream .connectSuccess] := rfl
  have hinputs' : inputsOf false Sample.twoIds =
      .request Sample.getRoot (0, 1) :: [.event .onEOM, .upstream .connectSuccess] := rfl
  exact requestIds_eq_iff Sample.run_twoIds hinputs (by decide) (Or.inl rfl) hinputs' (by decide) (Or.inl rfl)

end Deployment

end Kimchi
