import Kimchi.Server.ProcessRuns

/-!
# Sessions as runs of the two-party protocol

`ProxyState` is one proxied request by itself, from the end of the request on: its handler
has the whole body, and a call on `downstream_` that comes too late is recorded.  A
session of the process has a chain in front of the handler and receives the body in
pieces, and a call that comes too late is undefined.  The two agree.

* `Stream.proxy` — the state of the protocol in which a stream is.
* `followsProtocol_step` — the step lemma; `exists_proxyRun` is the run lemma: whatever
  happens to a forwarded request, in any run of the process, is a run of the protocol
  without a late call.
* `exists_step_of_proxy` — a step of the protocol without a late call is one that the
  process can take.
* `quiet_run` — the inputs of a forwarded request never relay after its end.
-/

namespace Kimchi

open Config Library

/-! ## The protocol in a session -/

/-- The step of the protocol that an input is.  Pieces of the body and upgrades reach the
handler before the protocol begins. -/
def SessionInput.proxyEvent : SessionInput → Option ProxyEvent
  | .event .onEOM => some .clientEOM
  | .onError => some .clientError
  | .requestComplete => some .requestComplete
  | .upstream cb => some (.upstream cb)
  | _ => none

/-- The client asks for another protocol. -/
def SessionInput.isUpgrade : SessionInput → Bool
  | .event (.onUpgrade _) => true
  | _ => false

/-- The input with which proxygen takes a step of the protocol. -/
def ProxyEvent.input : ProxyEvent → SessionInput
  | .clientEOM => .event .onEOM
  | .clientError => .onError
  | .requestComplete => .requestComplete
  | .upstream cb => .upstream cb

@[simp] theorem ProxyEvent.proxyEvent_input (ev : ProxyEvent) : ev.input.proxyEvent = some ev := by
  cases ev <;> rfl

@[simp] theorem ProxyEvent.isUpgrade_input (ev : ProxyEvent) : ev.input.isUpgrade = false := by
  cases ev <;> rfl

/-- The steps of the protocol in the inputs of a session. -/
def proxyEvents (is : List SessionInput) : List ProxyEvent := is.filterMap SessionInput.proxyEvent

/-- The state of the protocol in which a stream is; no call has come late. -/
def Stream.proxy {τ : Type} (st : Stream τ) (handler : GatewayHandler) : ProxyState :=
  { handler := handler, client := st.client, exchange := st.exchange, responseEnded := st.responseEnded }

/-- The protocol begins with a handler that has the whole body.  The answer to an upgrade
has ended the response before that. -/
def proxyStart (handler : GatewayHandler) (later : List SessionInput) : ProxyState :=
  { handler := handler, responseEnded := later.any SessionInput.isUpgrade }

theorem proxyEvents_concat (is : List SessionInput) (i : SessionInput) :
    proxyEvents (is ++ [i]) = proxyEvents is ++ i.proxyEvent.toList := by
  rw [proxyEvents, List.filterMap_append]
  cases hevent : i.proxyEvent <;> simp [proxyEvents, hevent]

/-- A stream is answered by the gateway itself, or what has happened to it is a run of the
protocol that has led to its state. -/
inductive Stream.FollowsProtocol (later : List SessionInput) (st : Stream GatewayHandler) : Prop
  | answered (hclosed : st.serving.Closed) (hexchange : st.exchange = none)
  | proxied (fs : List FilterBase) (start handler : GatewayHandler) (hopen : fs.any (·.blocked) = false)
      (hserving : st.serving = .chain (.ofFilters fs handler))
      (hfollow : follow ProxyState.step (proxyStart start later) (proxyEvents later) = some (st.proxy handler))
      (hcollecting : st.client = .receiving → proxyEvents later = [])

/-! ## Step lemma -/

theorem endsResponse_served (r : Response) : endsResponse r.served = true := by
  simp [endsResponse, Response.served, Response.sendWithEOM, ResponseCall.isEnd]

namespace Stream

variable {later : List SessionInput} {st : Stream GatewayHandler}

/-- A step of the protocol. -/
theorem FollowsProtocol.concat (ev : ProxyEvent) {fs : List FilterBase} {start handler handler' : GatewayHandler}
    {st' : Stream GatewayHandler} (hopen : fs.any (·.blocked) = false)
    (hfollow : follow ProxyState.step (proxyStart start later) (proxyEvents later) = some (st.proxy handler))
    (hstep : (st.proxy handler).step ev = some (st'.proxy handler'))
    (hserving : st'.serving = .chain (.ofFilters fs handler')) (hclient : st'.client ≠ .receiving) :
    st'.FollowsProtocol (later ++ [ev.input]) := by
  refine .proxied fs start handler' hopen hserving ?_ fun hreceiving => absurd hreceiving hclient
  have hstart : proxyStart start (later ++ [ev.input]) = proxyStart start later := by simp [proxyStart]
  rw [proxyEvents_concat, hstart, ev.proxyEvent_input, Option.toList_some, follow_concat, hfollow]
  exact hstep

/-- An event of the request. -/
theorem followsProtocol_event {env : FilterEnv} {ev : StreamEvent} {serving : Serving GatewayHandler}
    {out : List ServedEffect} (h : st.FollowsProtocol later) (hclient : st.client = .receiving)
    (hserve : st.serving.step env GatewayHandler.machine (.stream ev) = some (serving, out)) :
    ((st.absorb serving out).afterEvent ev).FollowsProtocol (later ++ [.event ev]) := by
  cases h with
  | answered hclosed hexchange =>
      rw [Serving.step_of_closed hclosed] at hserve
      cases hserve
      rw [absorb_nil]
      exact .answered hclosed hexchange
  | proxied fs start handler hopen hserving hfollow hcollecting =>
      -- nothing of the protocol has happened so far
      have hnone := hcollecting hclient
      have hbegins : proxyStart start later = st.proxy handler := by
        rw [hnone] at hfollow
        exact Option.some.inj hfollow
      have hexchange : st.exchange = none := congrArg ProxyState.exchange hbegins.symm
      have hended : st.responseEnded = later.any SessionInput.isUpgrade :=
        congrArg ProxyState.responseEnded hbegins.symm
      rw [hserving] at hserve
      obtain ⟨handler', effects, hstep, rfl, rfl⟩ := Serving.step_open hopen hserve
      cases ev with
      | onBody body =>
          cases Option.some.inj hstep
          refine .proxied fs (handler.onBody body) (handler.onBody body) hopen rfl ?_ ?_
          · rw [proxyEvents_concat, hnone]
            simp [follow, proxyStart, proxy, absorb_nil, afterEvent, hexchange, hended, SessionInput.proxyEvent,
              SessionInput.isUpgrade]
          · intro _
            rw [proxyEvents_concat, hnone]
            rfl
      | onUpgrade prot =>
          cases Option.some.inj hstep
          refine .proxied fs handler handler hopen rfl ?_ ?_
          · rw [proxyEvents_concat, hnone, served_sent]
            simp [follow, proxyStart, proxy, absorb, afterEvent, hexchange, connected_served, endsResponse_served,
              SessionInput.proxyEvent, SessionInput.isUpgrade]
          · intro _
            rw [proxyEvents_concat, hnone]
            rfl
      | onEOM =>
          obtain ⟨⟨next, client⟩, heom, hend⟩ := Option.map_eq_some_iff.mp hstep
          cases hend
          refine FollowsProtocol.concat .clientEOM hopen hfollow ?_ rfl (by simp [afterEvent])
          simp [ProxyState.step, proxy, hclient, heom, absorb, afterEvent, hexchange, connected, endsResponse,
            HandlerEffect.served]

end Stream

/-- The same for a session in any state. -/
def Session.FollowsProtocol (is : List SessionInput) : Session GatewayHandler → Prop
  | .idle => is = []
  | .stream st => ∃ first later, is = first :: later ∧ st.FollowsProtocol later
  | .admin _ => True

namespace Deployment

variable {ρ ℓ κ : Type} [DecidableEq κ] {d : Deployment ρ ℓ}

/-- The request itself. -/
theorem followsProtocol_request {env : FilterEnv} {msg : HTTPMessage} {serving : Serving GatewayHandler}
    {out : List ServedEffect}
    (hserve : (d.factory.onRequest d.platform msg).serving.step env GatewayHandler.machine (.onRequest msg) =
      some (serving, out)) : (Stream.absorb { serving := serving } serving out).FollowsProtocol [] := by
  obtain ⟨keys, decision, s', -, hstep, hleaves⟩ :=
    GatewayHandlerFactory.exists_decides d.platform d.store d.jwksCaches env msg
  cases hserve.symm.trans hstep
  cases hleaves with
  | reply response s' hclosed =>
      refine .answered hclosed ?_
      simp [Stream.absorb, Decision.answer, connected_checks, connected_served]
  | proxy handler msg' fs hopen =>
      refine .proxied fs (handler.onRequest msg') (handler.onRequest msg') hopen rfl ?_ fun _ => rfl
      have hconnected : connected (keys.map .checkAndDecrement ++ []) = none := connected_checks keys []
      have hended : endsResponse (keys.map .checkAndDecrement) = false := by simp [endsResponse]
      rw [List.append_nil] at hconnected
      simp [follow, proxyStart, proxyEvents, Stream.proxy, Stream.absorb, Decision.answer, hconnected, hended]

/-- **Step lemma.**  Whatever a session does next, its protocol goes on. -/
theorem followsProtocol_step {is : List SessionInput} {p p' : Session GatewayHandler} {s s' : State ℓ}
    {i : SessionInput} {out : List SessionEffect} (h : p.FollowsProtocol is)
    (hmoves : d.plane.Moves s p i s' p' out) : p'.FollowsProtocol (is ++ [i]) := by
  cases hmoves with
  | request msg rand64 handler serving effects hdispatch hserve =>
      cases Option.some.inj hdispatch
      cases h
      exact ⟨_, [], rfl, followsProtocol_request hserve⟩
  | event st ev serving effects hclient hserve =>
      obtain ⟨first, later, rfl, hfollows⟩ := h
      exact ⟨first, _, rfl, Stream.followsProtocol_event hfollows hclient hserve⟩
  | onError st hclient =>
      obtain ⟨first, later, rfl, hfollows⟩ := h
      refine ⟨first, _, rfl, ?_⟩
      cases hfollows with
      | answered hclosed hexchange => exact .answered hclosed hexchange
      | proxied fs start handler hopen hserving hfollow hcollecting =>
          refine Stream.FollowsProtocol.concat .clientError hopen hfollow ?_ hserving (by simp [Stream.finish])
          simp [ProxyState.step, Stream.proxy, Stream.finish, hclient]
  | requestComplete st hclient hended =>
      obtain ⟨first, later, rfl, hfollows⟩ := h
      refine ⟨first, _, rfl, ?_⟩
      cases hfollows with
      | answered hclosed hexchange => exact .answered hclosed hexchange
      | proxied fs start handler hopen hserving hfollow hcollecting =>
          refine Stream.FollowsProtocol.concat .requestComplete hopen hfollow ?_ hserving (by simp [Stream.finish])
          simp [ProxyState.step, Stream.proxy, Stream.finish, hclient, hended]
  | upstream st cb phase c phase' hexchange hnext halive hquiet =>
      obtain ⟨first, later, rfl, hfollows⟩ := h
      refine ⟨first, _, rfl, ?_⟩
      cases hfollows with
      | answered hclosed hnone =>
          rw [hexchange] at hnone
          cases hnone
      | proxied fs start handler hopen hserving hfollow hcollecting =>
          have hwaiting : st.client ≠ .receiving := by
            intro hclient
            rw [hcollecting hclient] at hfollow
            have hbegins := congrArg ProxyState.exchange (Option.some.inj hfollow)
            rw [show (st.proxy handler).exchange = st.exchange from rfl, hexchange] at hbegins
            cases hbegins
          refine Stream.FollowsProtocol.concat (.upstream cb) hopen hfollow ?_ hserving hwaiting
          have hlate : (if st.client = .finished then c.relayed cb else []) = [] := by
            split
            · next hfinished => exact not_not.mp fun hrelays => hquiet ⟨hfinished, hrelays⟩
            · rfl
          simp [ProxyState.step, ProxyState.upstreamStep, Stream.proxy, Stream.relay, hexchange, hnext, hlate]
  | adminRequest | adminEvent | adminError | adminComplete => trivial

/-- Run lemma: every session of every run follows the protocol. -/
theorem followsProtocol_run {s : State ℓ} {st : State ℓ × (κ → Session GatewayHandler)}
    {evs : List (κ × SessionInput)} {outs : List (κ × SessionEffect)}
    (hrun : d.plane.sessions.run (s, fun _ => .idle) evs = some (st, outs)) (k : κ) :
    (st.2 k).FollowsProtocol (inputsOf k evs) := by
  let T : List SessionInput → Session GatewayHandler → List SessionEffect → Prop :=
    fun is p _ => p.FollowsProtocol is
  have hstep : ∀ is p outs s i s' p' out, T is p outs → d.plane.sessions.step s p i = some (s', p', out) →
      T (is ++ [i]) p' (outs ++ out) := by
    intro is p outs s i s' p' out h hone
    exact followsProtocol_step h (Plane.moves_of_step hone)
  have hstart : T [] .idle [] := rfl
  exact Sessions.run_session T hstep [] hstart hrun

/-! ## Whole runs of the process -/

section Process

variable {l : ℓ} {evs : List (κ × SessionInput)} {st : ProcessState ℓ × (κ → Session GatewayHandlerRef)}
  {outs : List (κ × SessionEffect)} {k : κ} {first : SessionInput} {later : List SessionInput}
  {stream : Stream GatewayHandlerRef}

/-- **A forwarded request is a run of the protocol.**  In every run of the process, what
has happened in a session that has an upstream client is a run of `ProxyState`, which has
led to the client side, the exchange and the response of the session, without a call on
`downstream_` that came late. -/
theorem exists_proxyRun (hrun : d.run l evs = some (st, outs)) (hinputs : inputsOf k evs = first :: later)
    (hsession : st.2 k = .stream stream) (hexchange : stream.exchange ≠ none) :
    ∃ start handler,
      follow ProxyState.step (proxyStart start later) (proxyEvents later) = some (stream.proxy handler) := by
  obtain ⟨s₀, factory, st', h⟩ := exists_valueRun hrun
  have hfollows := followsProtocol_run h.values k
  have hrel := h.sessions k
  rw [hsession] at hrel
  generalize st'.2 k = p at hrel hfollows
  cases hrel with
  | stream hrel =>
      obtain ⟨first', later', hsplit, hfollows⟩ := hfollows
      cases hinputs.symm.trans hsplit
      cases hfollows with
      | answered hclosed hnone => exact absurd (hrel.exchange.trans hnone) hexchange
      | proxied fs start handler hopen hserving hfollow hcollecting =>
          refine ⟨start, handler, hfollow.trans ?_⟩
          simp [Stream.proxy, hrel.client, hrel.exchange, hrel.responseEnded]

/-- In a run that is defined, no callback relays to a request that is over. -/
theorem quiet_run (hrun : d.run l evs = some (st, outs)) (hinputs : inputsOf k evs = first :: later)
    (hsession : st.2 k = .stream stream) (hexchange : stream.exchange ≠ none) :
    quietAfterFinish false false (proxyEvents later) = true := by
  obtain ⟨start, handler, hfollow⟩ := exists_proxyRun hrun hinputs hsession hexchange
  exact ((ProxyState.late_run_iff hfollow fun _ => rfl).mp rfl).2

end Process

/-- **The process takes every step of the protocol** that makes no late call. -/
theorem exists_step_of_proxy {met : List (State ℓ × SessionInput)} {stream : Stream GatewayHandler}
    {outs : List SessionEffect} (h : d.SessionTrace met (.stream stream) outs) {ev : ProxyEvent}
    {handler : GatewayHandler} {q : ProxyState} (hstep : (stream.proxy handler).step ev = some q)
    (hlate : q.late = []) (s : State ℓ) : ∃ next, d.plane.step s (.stream stream) ev.input = some next := by
  -- proxygen may deliver what the protocol allows, and it is no late relay
  have hdefined (hallows : (Session.stream stream).Allows ev.input)
      (hrelay : ¬ (Session.stream stream).LateRelay ev.input) :
      ∃ next, d.plane.step s (.stream stream) ev.input = some next :=
    Option.ne_none_iff_exists'.mp fun hnone => hrelay ((step_eq_none_iff h hallows s).mp hnone)
  rcases ProxyState.step_cases hstep with ⟨next, client, rfl, hclient, -, rfl⟩ | ⟨rfl, hclient, rfl⟩ |
    ⟨rfl, hclient, hended, rfl⟩ | ⟨cb, phase, c, phase', rfl, hexchange, hnext, rfl⟩
  · exact hdefined (.event stream .onEOM hclient) (by intro hrelay; cases hrelay)
  · exact hdefined (.onError stream hclient) (by intro hrelay; cases hrelay)
  · exact hdefined (.requestComplete stream hclient hended) (by intro hrelay; cases hrelay)
  · refine hdefined (.upstream stream cb phase c phase' hexchange hnext) ?_
    intro hrelay
    cases hrelay with
    | intro _ _ phase₁ c₁ hexchange₁ hfinished hrelays =>
        cases hexchange₁.symm.trans hexchange
        have hquiet : c.relayed cb = [] := by
          simpa [ProxyState.upstreamStep, Stream.proxy, hfinished] using hlate
        exact hrelays hquiet

end Deployment

end Kimchi
