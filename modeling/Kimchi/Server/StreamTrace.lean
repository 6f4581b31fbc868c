import Kimchi.Server.Process

/-!
# What a session does over its whole life

The outputs of a session of the data plane, in any interleaving with other sessions
and with reloads, are determined by the decision on its request and by its own inputs.

* `Decision.Trace` — the outputs a decision leads to: one answer and nothing after it;
  or the request, once it has ended, and from then on what the upstream client makes of
  its callbacks.
* `StreamTrace` — the same with the state that goes with it; `streamTrace_step` is the
  step lemma.
* `SessionTrace` — what a session of either server has met and done;
  `exists_sessionTrace` is the run lemma.
* `step_eq_none_iff` — an event that proxygen may deliver is undefined exactly when it
  relays to a chain that is gone.
-/

namespace Kimchi

open Config Library

/-! ## The inputs of a session -/

/-- The chunks of the request body. -/
def bodyChunks (is : List SessionInput) : List Str :=
  is.filterMap fun
    | .event (.onBody body) => some body
    | _ => none

/-- The callbacks of the upstream client. -/
def upstreamCallbacks (is : List SessionInput) : List UpstreamCallback :=
  is.filterMap fun
    | .upstream cb => some cb
    | _ => none

/-- A `GatewayHandler` answers every upgrade with a 400 of its own. -/
def upgradeReplies (is : List SessionInput) : List SessionEffect :=
  is.flatMap fun
    | .event (.onUpgrade _) => GatewayHandler.onUpgrade.served.map .served
    | _ => []

/-- A handler with some chunks of the body receives another one. -/
theorem GatewayHandler.onBody_collected (h : GatewayHandler) (chunks : List Str) (chunk : Str) :
    ({ h with requestBody := collected none chunks } : GatewayHandler).onBody chunk =
      { h with requestBody := collected none (chunks ++ [chunk]) } := by
  rw [onBody, collected, collected, List.foldl_append]
  rfl

/-! ## Traces -/

/-- The client a handler creates for a message, when the body came in these chunks. -/
def GatewayHandler.clientFor (dest : RouterDestination) (service : ServiceConfig) (target : LoadBalancingTarget)
    (msg : HTTPMessage) (chunks : List Str) : UpstreamClient :=
  { upstreamReq := upstreamReq dest service target msg
    requestBody := collected none chunks }

/-- **The outputs a decision leads to,** given the inputs that came after the request.
A request that is not answered waits for its end; then one client is connected, and
everything that follows is what the client makes of its callbacks. -/
inductive Decision.Trace (later : List SessionInput) : Decision → List SessionEffect → Prop
  | answered (response : Response) : Trace later (.reply response) (response.served.map .served)
  | collecting (handler : GatewayHandler) (msg : HTTPMessage) (heom : .event .onEOM ∉ later) :
      Trace later (.proxy handler msg) (upgradeReplies later)
  | forwarded (handler : GatewayHandler) (msg : HTTPMessage) (dest : RouterDestination)
      (target : LoadBalancingTarget) (heom : .event .onEOM ∈ later)
      (hdest : handler.router.destinations.head? = some dest)
      (htarget : handler.service.loadBalancing.targets.head? = some target) :
      Trace later (.proxy handler msg)
        (upgradeReplies later ++
          .served (.connect handler.upstreamAddr
            (GatewayHandler.clientFor dest handler.service target msg (bodyChunks later))) ::
          (UpstreamClient.machine.outputs
            (GatewayHandler.clientFor dest handler.service target msg (bodyChunks later))
            (upstreamCallbacks later)).map UpstreamOutput.effect)

/-- A trace and the state of the stream that goes with it. -/
inductive StreamTrace (later : List SessionInput) : Decision → Stream GatewayHandler → List SessionEffect → Prop
  | answered (response : Response) (st : Stream GatewayHandler) (hclosed : st.serving.Closed)
      (hcallbacks : upstreamCallbacks later = []) (hexchange : st.exchange = none) :
      StreamTrace later (.reply response) st (response.served.map .served)
  | collecting (handler : GatewayHandler) (msg : HTTPMessage) (fs : List FilterBase)
      (st : Stream GatewayHandler) (heom : .event .onEOM ∉ later) (hclient : st.client ≠ .waiting)
      (hopen : fs.any (·.blocked) = false)
      (hserving : st.serving = .chain (.ofFilters fs
        { handler.onRequest msg with requestBody := GatewayHandler.collected none (bodyChunks later) }))
      (hcallbacks : upstreamCallbacks later = []) (hexchange : st.exchange = none) :
      StreamTrace later (.proxy handler msg) st (upgradeReplies later)
  | forwarded (handler : GatewayHandler) (msg : HTTPMessage) (dest : RouterDestination)
      (target : LoadBalancingTarget) (client : UpstreamClient) (phase : UpstreamPhase)
      (st : Stream GatewayHandler) (heom : .event .onEOM ∈ later) (hclient : st.client ≠ .receiving)
      (hdest : handler.router.destinations.head? = some dest)
      (htarget : handler.service.loadBalancing.targets.head? = some target)
      (hfor : client = GatewayHandler.clientFor dest handler.service target msg (bodyChunks later))
      (hphase : follow UpstreamPhase.next .connecting (upstreamCallbacks later) = some phase)
      (hexchange : st.exchange = some (phase, (UpstreamClient.machine.run client (upstreamCallbacks later)).1)) :
      StreamTrace later (.proxy handler msg) st
        (upgradeReplies later ++ .served (.connect handler.upstreamAddr client) ::
          (UpstreamClient.machine.outputs client (upstreamCallbacks later)).map UpstreamOutput.effect)

theorem StreamTrace.trace {later : List SessionInput} {decision : Decision} {st : Stream GatewayHandler}
    {outs : List SessionEffect} (h : StreamTrace later decision st outs) : decision.Trace later outs := by
  cases h with
  | answered response => exact .answered response
  | collecting handler msg fs st heom => exact .collecting handler msg heom
  | forwarded handler msg dest target client phase st heom hclient hdest htarget hfor =>
      subst hfor
      exact .forwarded handler msg dest target heom hdest htarget

/-! ## Step lemma -/

/-- A closed stream stays as it is. -/
theorem absorb_nil {st : Stream GatewayHandler} (serving : Serving GatewayHandler) :
    st.absorb serving [] = { st with serving := serving } := by
  simp [Stream.absorb, connected, endsResponse]

theorem connected_served (r : Response) : connected r.served = none := by
  rw [connected, Response.served, List.findSome?_map]
  simp

/-- An event that an open chain passes on to its handler. -/
theorem Serving.step_open {env : FilterEnv} {fs : List FilterBase} {handler : GatewayHandler} {ev : StreamEvent}
    {serving : Serving GatewayHandler} {out : List ServedEffect} (hopen : fs.any (·.blocked) = false)
    (h : (Serving.chain (.ofFilters fs handler)).step env GatewayHandler.machine (.stream ev) = some (serving, out)) :
    ∃ handler' effects, handler.step (.stream ev) = some (handler', effects) ∧
      serving = .chain (.ofFilters fs handler') ∧ out = effects.map HandlerEffect.served := by
  rw [Serving.step, RequestHandler.serve_stream, hopen, if_neg Bool.false_ne_true, Option.map_map,
    Option.map_eq_some_iff] at h
  obtain ⟨⟨handler', effects⟩, hstep, hend⟩ := h
  cases hend
  exact ⟨handler', effects, hstep, rfl, rfl⟩

/-- The events of a request, delivered to a stream that is collecting it. -/
theorem streamTrace_event {later : List SessionInput} {handler : GatewayHandler} {msg : HTTPMessage}
    {fs : List FilterBase} {st : Stream GatewayHandler} {env : FilterEnv} {ev : StreamEvent}
    {serving : Serving GatewayHandler} {out : List ServedEffect}
    (hdest : ∃ dest, handler.router.destinations.head? = some dest)
    (htarget : ∃ target, handler.service.loadBalancing.targets.head? = some target)
    (heom : .event .onEOM ∉ later) (hopen : fs.any (·.blocked) = false)
    (hserving : st.serving = .chain (.ofFilters fs
      { handler.onRequest msg with requestBody := GatewayHandler.collected none (bodyChunks later) }))
    (hcallbacks : upstreamCallbacks later = []) (hexchange : st.exchange = none)
    (hserve : st.serving.step env GatewayHandler.machine (.stream ev) = some (serving, out)) :
    StreamTrace (later ++ [.event ev]) (.proxy handler msg) ((st.absorb serving out).afterEvent ev)
      (upgradeReplies later ++ out.map .served) := by
  obtain ⟨dest, hdest⟩ := hdest
  obtain ⟨target, htarget⟩ := htarget
  rw [hserving] at hserve
  obtain ⟨h', effects, hstep, rfl, rfl⟩ := Serving.step_open hopen hserve
  cases ev with
  | onBody body =>
      have hnext := Option.some.inj hstep
      rw [GatewayHandler.onBody_collected] at hnext
      cases hnext
      have hbodies : bodyChunks (later ++ [.event (.onBody body)]) = bodyChunks later ++ [body] := by
        simp [bodyChunks]
      have hreplies : upgradeReplies (later ++ [.event (.onBody body)]) = upgradeReplies later := by
        simp [upgradeReplies]
      rw [List.map_nil, List.map_nil, absorb_nil, List.append_nil, ← hreplies]
      refine .collecting handler msg fs _ (by simpa using heom) (by simp [Stream.afterEvent]) hopen ?_
        (by simpa [upstreamCallbacks] using hcallbacks) hexchange
      rw [hbodies]
      rfl
  | onUpgrade prot =>
      cases Option.some.inj hstep
      have hbodies : bodyChunks (later ++ [.event (.onUpgrade prot)]) = bodyChunks later := by
        simp [bodyChunks]
      have hreplies : upgradeReplies (later ++ [.event (.onUpgrade prot)]) =
          upgradeReplies later ++ GatewayHandler.onUpgrade.served.map .served := by
        simp [upgradeReplies]
      rw [served_sent, ← hreplies]
      refine .collecting handler msg fs _ (by simpa using heom) (by simp [Stream.afterEvent]) hopen ?_
        (by simpa [upstreamCallbacks] using hcallbacks) ?_
      · rw [hbodies]
        rfl
      · simp [Stream.afterEvent, Stream.absorb, hexchange, connected_served]
  | onEOM =>
      have hclient : GatewayHandler.onEOM
          { handler.onRequest msg with requestBody := GatewayHandler.collected none (bodyChunks later) } =
          some ({ handler.onRequest msg with requestBody := none },
            GatewayHandler.clientFor dest handler.service target msg (bodyChunks later)) := by
        have hfirstDest := hdest
        have hfirstTarget := htarget
        rw [List.head?_eq_getElem?] at hfirstDest hfirstTarget
        simp [GatewayHandler.onEOM, GatewayHandler.onRequest, GatewayHandler.clientFor, hfirstDest, hfirstTarget]
      change (GatewayHandler.onEOM _).map _ = _ at hstep
      rw [hclient] at hstep
      cases Option.some.inj hstep
      have hbodies : bodyChunks (later ++ [.event .onEOM]) = bodyChunks later := by simp [bodyChunks]
      have hreplies : upgradeReplies (later ++ [.event .onEOM]) = upgradeReplies later := by
        simp [upgradeReplies]
      have hnone : upstreamCallbacks (later ++ [.event .onEOM]) = [] := by
        simpa [upstreamCallbacks] using hcallbacks
      have htrace : StreamTrace (later ++ [.event .onEOM]) _ _ _ := .forwarded handler msg dest target
        (GatewayHandler.clientFor dest handler.service target msg (bodyChunks later)) .connecting
        ((st.absorb (.chain (.ofFilters fs { handler.onRequest msg with requestBody := none }))
          [.connect handler.upstreamAddr
            (GatewayHandler.clientFor dest handler.service target msg (bodyChunks later))]).afterEvent .onEOM)
        (by simp) (by simp [Stream.afterEvent]) hdest htarget (by rw [hbodies]) (by rw [hnone]; rfl)
        (by rw [hnone]; simp [Stream.afterEvent, Stream.absorb, connected, hexchange])
      rw [hnone, hreplies] at htrace
      exact htrace

/-- Inputs that are none of these leave the projections as they are. -/
theorem StreamTrace.of_silent {later : List SessionInput} {decision : Decision} {st st' : Stream GatewayHandler}
    {outs : List SessionEffect} (h : StreamTrace later decision st outs) {i : SessionInput}
    (hi : i = .onError ∨ i = .requestComplete) (hserving : st'.serving = st.serving)
    (hexchange : st'.exchange = st.exchange) (hclient : st'.client = .finished) :
    StreamTrace (later ++ [i]) decision st' outs := by
  have hbodies : bodyChunks (later ++ [i]) = bodyChunks later := by
    rcases hi with rfl | rfl <;> simp [bodyChunks]
  have hreplies : upgradeReplies (later ++ [i]) = upgradeReplies later := by
    rcases hi with rfl | rfl <;> simp [upgradeReplies]
  have hcallbacks : upstreamCallbacks (later ++ [i]) = upstreamCallbacks later := by
    rcases hi with rfl | rfl <;> simp [upstreamCallbacks]
  have hends : .event .onEOM ∈ later ++ [i] ↔ .event .onEOM ∈ later := by
    rcases hi with rfl | rfl <;> simp
  cases h with
  | answered response st hclosed hquiet hnone =>
      exact .answered response st' (hserving ▸ hclosed) (hcallbacks.trans hquiet) (hexchange.trans hnone)
  | collecting handler msg fs st heom hwaiting hopen hchain hquiet hnone =>
      rw [← hreplies]
      refine .collecting handler msg fs st' (mt hends.mp heom) (by simp [hclient]) hopen ?_
        (hcallbacks.trans hquiet) (hexchange.trans hnone)
      rw [hbodies, hserving, hchain]
  | forwarded handler msg dest target client phase st heom hnot hdest htarget hfor hphase hsome =>
      have htrace := StreamTrace.forwarded handler msg dest target client phase st' (hends.mpr heom)
        (by simp [hclient]) hdest htarget (by rw [hbodies, hfor]) (by rw [hcallbacks, hphase])
        (by rw [hcallbacks, hexchange, hsome])
      rw [hcallbacks, hreplies] at htrace
      exact htrace

/-- A handler that a request goes to has a destination and a target. -/
def Decision.HasHeads (decision : Decision) : Prop :=
  ∀ handler msg, decision = .proxy handler msg →
    (∃ dest, handler.router.destinations.head? = some dest) ∧
      ∃ target, handler.service.loadBalancing.targets.head? = some target

/-- **Step lemma.**  Whatever a stream does next, its trace goes on as the decision
says. -/
theorem streamTrace_step {σ : Type} {plane : Plane σ GatewayHandler} (hterminal : ∀ s, plane.terminal s = GatewayHandler.machine)
    {later : List SessionInput} {decision : Decision} {st : Stream GatewayHandler} {outs out : List SessionEffect}
    (h : StreamTrace later decision st outs)
    (hheads : decision.HasHeads)
    {s s' : σ} {i : SessionInput} {p' : Session GatewayHandler}
    (hmoves : plane.Moves s (.stream st) i s' p' out) :
    ∃ st', p' = .stream st' ∧ StreamTrace (later ++ [i]) decision st' (outs ++ out) := by
  cases hmoves with
  | event st ev serving out hreceiving hserve =>
      refine ⟨_, rfl, ?_⟩
      rw [hterminal] at hserve
      cases h with
      | answered response st hclosed hquiet hnone =>
          rw [Serving.step_of_closed hclosed] at hserve
          cases hserve
          rw [List.map_nil, List.append_nil, absorb_nil]
          exact .answered response _ hclosed (by simpa [upstreamCallbacks] using hquiet) hnone
      | collecting handler msg fs st heom hwaiting hopen hchain hquiet hnone =>
          obtain ⟨hdest, htarget⟩ := hheads handler msg rfl
          exact streamTrace_event hdest htarget heom hopen hchain hquiet hnone hserve
      | forwarded handler msg dest target client phase st heom hnot =>
          exact absurd hreceiving hnot
  | onError st hclient =>
      rw [List.append_nil]
      exact ⟨st.finish, rfl, h.of_silent (Or.inl rfl) rfl rfl rfl⟩
  | requestComplete st hclient hended =>
      rw [List.append_nil]
      exact ⟨st.finish, rfl, h.of_silent (Or.inr rfl) rfl rfl rfl⟩
  | upstream st cb phase c phase' hexchange hnext halive hquiet =>
      refine ⟨_, rfl, ?_⟩
      cases h with
      | answered response st hclosed hquiet hnone =>
          rw [hnone] at hexchange
          cases hexchange
      | collecting handler msg fs st heom hwaiting hopen hchain hno hnone =>
          rw [hnone] at hexchange
          cases hexchange
      | forwarded handler msg dest target client ph st heom hnot hdest htarget hfor hphase hsome =>
          rw [hsome] at hexchange
          cases hexchange
          have hbodies : bodyChunks (later ++ [.upstream cb]) = bodyChunks later := by simp [bodyChunks]
          have hreplies : upgradeReplies (later ++ [.upstream cb]) = upgradeReplies later := by
            simp [upgradeReplies]
          have hcallbacks : upstreamCallbacks (later ++ [.upstream cb]) = upstreamCallbacks later ++ [cb] := by
            simp [upstreamCallbacks]
          have hrun := UpstreamClient.machine.run_concat client (upstreamCallbacks later) cb
          have htrace : StreamTrace (later ++ [.upstream cb]) _ _ _ := .forwarded handler msg dest target client
            phase' (st.relay phase' (UpstreamClient.machine.run client (upstreamCallbacks later)).1 cb)
            (by simp [heom]) hnot hdest htarget (by rw [hbodies, hfor])
            (by rw [hcallbacks, follow_concat, hphase]; exact hnext)
            (by rw [hcallbacks, hrun]; rfl)
          rw [hcallbacks, hreplies, Machine.outputs, hrun, List.map_append, ← List.cons_append,
            ← List.append_assoc] at htrace
          exact htrace

/-! ## Whole runs -/

/-- The calls of the rate-limit store as effects of a session. -/
def checkEffects (keys : List RateLimitKey) : List SessionEffect :=
  keys.map fun key => .served (.checkAndDecrement key)

namespace Deployment

variable {ρ ℓ : Type} (d : Deployment ρ ℓ)

/-- The reply to a request of the admin server that ends while the configuration
directory is in a state. -/
def adminReply (msg : HTTPMessage) (dir : ConfigDir) : Response :=
  if msg.path = str "/healthz" ∧ msg.method = str "GET" then AdminHandler.healthy
  else if msg.path = str "/config/reload" ∧ msg.method = str "POST" then
    match loadFromDirectory d.parseJson dir with
    | .ok _ => AdminHandler.reloaded
    | .error what => AdminHandler.reloadFailed what
  else AdminHandler.notFound

/-- The store that a request of the admin server swaps in when it ends. -/
def loadedBy (msg : HTTPMessage) (dir : ConfigDir) : Option ConfigStore :=
  if msg.path = str "/config/reload" ∧ msg.method = str "POST" then (loadFromDirectory d.parseJson dir).toOption
  else none

/-- All replies to a request of the admin server: it answers every upgrade too. -/
def adminReplies (msg : HTTPMessage) (is : List SessionInput) : List SessionEffect :=
  is.flatMap fun
    | .adminEvent (.onUpgrade _) _ => AdminHandler.onUpgrade.served.map .served
    | .adminEvent .onEOM dir => (d.adminReply msg dir).served.map .served
    | _ => []

/-- What a session has met so far, its state and its outputs. -/
inductive SessionTrace : List (State ℓ × SessionInput) → Session GatewayHandler → List SessionEffect → Prop
  | idle : SessionTrace [] .idle []
  | stream (s : State ℓ) (msg : HTTPMessage) (rand64 : UInt64 × UInt64) (later : List (State ℓ × SessionInput))
      (keys : List RateLimitKey) (decision : Decision) (st : Stream GatewayHandler) (outs : List SessionEffect)
      (hdecides : Decides d.platform.re d.platform.dns d.engine (d.env s.limiter rand64) msg keys decision)
      (htrace : StreamTrace (later.map Prod.snd) decision st outs) :
      SessionTrace ((s, .request msg rand64) :: later) (.stream st) (checkEffects keys ++ outs)
  | admin (s : State ℓ) (msg : HTTPMessage) (later : List (State ℓ × SessionInput)) (a : AdminStream)
      (h : a.handler.requestHeaders = some msg) :
      SessionTrace ((s, .adminRequest msg) :: later) (.admin a) (d.adminReplies msg (later.map Prod.snd))

variable {d}

theorem connected_checks (keys : List RateLimitKey) (effects : List ServedEffect) :
    connected (keys.map .checkAndDecrement ++ effects) = connected effects := by
  induction keys with
  | nil => rfl
  | cons key keys ih =>
      rw [List.map_cons, List.cons_append, connected, List.findSome?_cons]
      exact ih

/-- The handler at the end of a decision has a destination, a target and no body. -/
theorem heads_of_decides {re : RegexLib ρ} {dns : Resolver} {engine : PolicyEngine} {env : FilterEnv}
    {msg msg' : HTTPMessage} {keys : List RateLimitKey} {handler : GatewayHandler}
    (h : Decides re dns engine env msg keys (.proxy handler msg')) :
    (∃ dest, handler.router.destinations.head? = some dest) ∧
      (∃ target, handler.service.loadBalancing.targets.head? = some target) ∧ handler.requestBody = none := by
  cases h with
  | proxied router _ _ hrouter hdispatch => exact hdispatch.heads

theorem hasHeads_of_decides {re : RegexLib ρ} {dns : Resolver} {engine : PolicyEngine} {env : FilterEnv}
    {msg : HTTPMessage} {keys : List RateLimitKey} {decision : Decision}
    (h : Decides re dns engine env msg keys decision) : decision.HasHeads := by
  intro handler msg' hproxy
  subst hproxy
  obtain ⟨hdest, htarget, -⟩ := heads_of_decides h
  exact ⟨hdest, htarget⟩

/-- The request itself: its handler is decided on and left as the decision says. -/
theorem streamTrace_request {env : FilterEnv} {msg : HTTPMessage} {serving : Serving GatewayHandler}
    {out : List ServedEffect}
    (hserve : (d.factory.onRequest d.platform msg).serving.step env GatewayHandler.machine (.onRequest msg) =
      some (serving, out)) :
    ∃ keys decision outs, Decides d.platform.re d.platform.dns d.engine env msg keys decision ∧
      StreamTrace [] decision (Stream.absorb { serving := serving } serving out) outs ∧
      out.map .served = checkEffects keys ++ outs := by
  obtain ⟨keys, decision, s', hdecides, hstep, hleaves⟩ :=
    GatewayHandlerFactory.exists_decides d.platform d.store d.jwksCaches env msg
  have hsame := hserve.symm.trans hstep
  cases hsame
  refine ⟨keys, decision, decision.answer.map .served, hdecides, ?_, by simp [checkEffects]⟩
  cases hleaves with
  | reply response s' hclosed =>
      refine .answered response _ hclosed rfl ?_
      simp [Stream.absorb, Decision.answer, connected_checks, connected_served]
  | proxy handler msg' fs hopen =>
      obtain ⟨-, -, hbody⟩ := heads_of_decides hdecides
      refine .collecting handler msg' fs _ (by simp) (by simp [Stream.absorb]) hopen ?_ rfl ?_
      · simp [Stream.absorb, GatewayHandler.onRequest, hbody, bodyChunks, GatewayHandler.collected]
      · simp [Stream.absorb, Decision.answer, connected]

/-- `AdminHandler::onEOM` on the configuration that the sessions share. -/
theorem adminEOM_eq (s : State ℓ) {h : AdminHandler} {msg : HTTPMessage} (hmsg : h.requestHeaders = some msg)
    (dir : ConfigDir) :
    d.plane.adminEOM s h dir =
      some ({ s with shared := { current := (d.loadedBy msg dir).getD s.shared.current } },
        d.adminReply msg dir) := by
  simp only [Plane.adminEOM, hmsg, Option.bind_eq_bind, Option.bind_some, loadedBy, adminReply]
  by_cases hhealthz : msg.path = str "/healthz" ∧ msg.method = str "GET"
  · have hreload : ¬ (msg.path = str "/config/reload" ∧ msg.method = str "POST") := by
      intro hreload
      have hpath : str "/healthz" = str "/config/reload" := hhealthz.1.symm.trans hreload.1
      exact absurd hpath (by decide)
    rw [if_pos hhealthz, if_pos hhealthz, if_neg hreload]
    rfl
  · rw [if_neg hhealthz, if_neg hhealthz]
    by_cases hreload : msg.path = str "/config/reload" ∧ msg.method = str "POST"
    · rw [if_pos hreload, if_pos hreload, if_pos hreload]
      simp only [plane, AdminHandler.reload]
      cases loadFromDirectory d.parseJson dir <;> rfl
    · rw [if_neg hreload, if_neg hreload, if_neg hreload]
      rfl

/-- Step lemma: a session's trace goes on. -/
theorem sessionTrace_step {met : List (State ℓ × SessionInput)} {p p' : Session GatewayHandler}
    {outs out : List SessionEffect} {s s' : State ℓ} {i : SessionInput} (h : d.SessionTrace met p outs)
    (hstep : d.plane.step s p i = some (s', p', out)) : d.SessionTrace (met ++ [(s, i)]) p' (outs ++ out) := by
  have hmoves := Plane.moves_of_step hstep
  cases h with
  | idle =>
      cases hmoves with
      | request msg rand64 handler serving effects hdispatch hserve =>
          cases Option.some.inj hdispatch
          obtain ⟨keys, decision, outs, hdecides, htrace, hout⟩ := streamTrace_request hserve
          rw [List.nil_append, hout]
          exact .stream s msg rand64 [] keys decision _ outs hdecides htrace
      | adminRequest msg => exact .admin s msg [] _ rfl
  | stream s₀ msg rand64 later keys decision st outs hdecides htrace =>
      obtain ⟨st', rfl, htrace'⟩ := streamTrace_step (fun _ => rfl) htrace (hasHeads_of_decides hdecides) hmoves
      rw [List.cons_append, List.append_assoc]
      refine .stream s₀ msg rand64 (later ++ [(s, i)]) keys decision st' _ hdecides ?_
      rw [List.map_append]
      exact htrace'
  | admin s₀ msg later a h =>
      -- the replies so far and the reply to this event
      have hreplies (hout : out = d.adminReplies msg [i]) (a' : AdminStream)
          (ha : a'.handler.requestHeaders = some msg) :
          d.SessionTrace ((s₀, .adminRequest msg) :: later ++ [(s, i)]) (.admin a')
            (d.adminReplies msg (later.map Prod.snd) ++ out) := by
        have hsplit : d.adminReplies msg (later.map Prod.snd) ++ out =
            d.adminReplies msg ((later ++ [(s, i)]).map Prod.snd) := by
          rw [hout, adminReplies, adminReplies, adminReplies, List.map_append, List.flatMap_append]
          rfl
        rw [hsplit]
        exact .admin s₀ msg (later ++ [(s, i)]) a' ha
      cases hmoves with
      | adminEvent a ev dir s' a' reply hclient hevent =>
          cases ev with
          | onBody body =>
              cases Option.some.inj hevent
              exact hreplies rfl a h
          | onUpgrade prot =>
              cases Option.some.inj hevent
              exact hreplies rfl _ h
          | onEOM =>
              rw [Plane.adminEvent, adminEOM_eq s h] at hevent
              cases hevent
              exact hreplies (by simp [adminReplies]) _ h
      | adminError a hclient => exact hreplies rfl _ h
      | adminComplete a hclient hended => exact hreplies rfl _ h

/-- Run lemma: in every run every session's trace goes on, over its own inputs. -/
theorem exists_sessionTrace {κ : Type} [DecidableEq κ] {st st' : State ℓ × (κ → Session GatewayHandler)}
    {evs : List (κ × SessionInput)} {outs : List (κ × SessionEffect)} {k : κ}
    {met : List (State ℓ × SessionInput)} {before : List SessionEffect} (h : d.SessionTrace met (st.2 k) before)
    (hrun : d.plane.sessions.run st evs = some (st', outs)) :
    ∃ met', met'.map Prod.snd = inputsOf k evs ∧
      d.SessionTrace (met ++ met') (st'.2 k) (before ++ inputsOf k outs) := by
  obtain ⟨met', hinputs, hsolo⟩ := Sessions.run_projects hrun k
  refine ⟨met', hinputs, ?_⟩
  exact Sessions.solo_trace (fun met p outs s i s' p' out h hstep => sessionTrace_step h hstep) h hsolo

/-- Run lemma: the trace of a stream goes on under the decision on its request. -/
theorem exists_streamTrace_append {κ : Type} [DecidableEq κ] {st st' : State ℓ × (κ → Session GatewayHandler)}
    {evs : List (κ × SessionInput)} {outs : List (κ × SessionEffect)} {k : κ} {later : List SessionInput}
    {decision : Decision} {stream : Stream GatewayHandler} {trace : List SessionEffect}
    (h : StreamTrace later decision stream trace) (hheads : decision.HasHeads) (hstream : st.2 k = .stream stream)
    (hrun : d.plane.sessions.run st evs = some (st', outs)) :
    ∃ stream', StreamTrace (later ++ inputsOf k evs) decision stream' (trace ++ inputsOf k outs) := by
  let T : List SessionInput → Session GatewayHandler → List SessionEffect → Prop :=
    fun is p outs => ∃ stream', p = .stream stream' ∧ StreamTrace is decision stream' outs
  have hstep : ∀ is p outs s i s' p' out, T is p outs → d.plane.sessions.step s p i = some (s', p', out) →
      T (is ++ [i]) p' (outs ++ out) := by
    rintro is p outs s i s' p' out ⟨stream', rfl, htrace⟩ hone
    exact streamTrace_step (fun _ => rfl) htrace hheads (Plane.moves_of_step hone)
  have hstart : T later (st.2 k) trace := ⟨stream, hstream, h⟩
  obtain ⟨stream', -, hend⟩ := Sessions.run_session T hstep trace hstart hrun
  exact ⟨stream', hend⟩

theorem SessionTrace.of_request {s : State ℓ} {msg : HTTPMessage} {rand64 : UInt64 × UInt64}
    {later : List (State ℓ × SessionInput)} {p : Session GatewayHandler} {outs : List SessionEffect}
    (h : d.SessionTrace ((s, .request msg rand64) :: later) p outs) :
    ∃ keys decision st trace, p = .stream st ∧
      Decides d.platform.re d.platform.dns d.engine (d.env s.limiter rand64) msg keys decision ∧
      StreamTrace (later.map Prod.snd) decision st trace ∧ outs = checkEffects keys ++ trace := by
  cases h with
  | stream _ _ _ _ keys decision st trace hdecides htrace =>
      exact ⟨keys, decision, st, trace, rfl, hdecides, htrace, rfl⟩

theorem SessionTrace.of_adminRequest {s : State ℓ} {msg : HTTPMessage} {later : List (State ℓ × SessionInput)}
    {p : Session GatewayHandler} {outs : List SessionEffect}
    (h : d.SessionTrace ((s, .adminRequest msg) :: later) p outs) :
    outs = d.adminReplies msg (later.map Prod.snd) := by
  cases h with
  | admin => rfl

/-- A session begins with a request. -/
theorem SessionTrace.of_idle {met : List (State ℓ × SessionInput)} {outs : List SessionEffect}
    (h : d.SessionTrace met .idle outs) : met = [] ∧ outs = [] := by
  cases h with
  | idle => exact ⟨rfl, rfl⟩

/-! ## Undefined steps -/

end Deployment

/-- The upstream client calls `downstream_` when the chain it belongs to is gone. -/
inductive Session.LateRelay {τ : Type} : Session τ → SessionInput → Prop
  | intro (st : Stream τ) (cb : UpstreamCallback) (phase : UpstreamPhase) (c : UpstreamClient)
      (hexchange : st.exchange = some (phase, c)) (hfinished : st.client = .finished)
      (hrelays : c.relayed cb ≠ []) : LateRelay (.stream st) (.upstream cb)

theorem UpstreamClient.deleted_step_iff {c : UpstreamClient} {cb : UpstreamCallback} :
    (c.step cb).1.deleted = true ↔ c.deleted = true ∨ cb = .connectError ∨ cb = .detachTransaction := by
  cases cb with
  | connectError => exact iff_of_true rfl (Or.inr (Or.inl rfl))
  | detachTransaction => exact iff_of_true rfl (Or.inr (Or.inr rfl))
  | onError direction =>
      simp only [step, onError]
      split <;> simp
  | _ => simp [step, connectSuccess, onHeadersComplete, onBody, onEOM]

/-- The two callbacks that end the exchange. -/
theorem UpstreamPhase.gone_iff_of_next {phase phase' : UpstreamPhase} {cb : UpstreamCallback}
    (hnext : phase.next cb = some phase') :
    phase ≠ .gone ∧ (phase' = .gone ↔ cb = .connectError ∨ cb = .detachTransaction) := by
  cases phase with
  | gone => cases cb <;> cases hnext
  | connecting =>
      refine ⟨by simp, ?_⟩
      cases cb <;> cases hnext <;> simp
  | established ingress =>
      refine ⟨by simp, ?_⟩
      cases cb <;> cases ingress <;> cases hnext <;> simp

/-- Until the exchange is over, the contract allows a callback of the upstream. -/
theorem UpstreamPhase.exists_next {phase : UpstreamPhase} (h : phase ≠ .gone) :
    ∃ cb phase', phase.next cb = some phase' := by
  cases phase with
  | connecting => exact ⟨.connectError, .gone, rfl⟩
  | established ingress => exact ⟨.detachTransaction, .gone, by cases ingress <;> rfl⟩
  | gone => exact absurd rfl h

theorem UpstreamPhase.next_gone (cb : UpstreamCallback) : UpstreamPhase.gone.next cb = none := by
  cases cb <;> rfl

theorem UpstreamPhase.eq_gone_iff {phase : UpstreamPhase} : phase = .gone ↔ ∀ cb, phase.next cb = none := by
  constructor
  · rintro rfl
    exact next_gone
  · intro hnone
    by_contra hthere
    obtain ⟨cb, phase', hnext⟩ := exists_next hthere
    rw [hnone cb] at hnext
    cases hnext

/-- A client deletes itself at the last callback of the contract. -/
def UpstreamClient.DeletedIffGone (phase : UpstreamPhase) (c : UpstreamClient) (_ : List UpstreamOutput) : Prop :=
  c.deleted = true ↔ phase = .gone

theorem UpstreamClient.deletedIffGone_step (phase : UpstreamPhase) (c : UpstreamClient) (out : List UpstreamOutput)
    (cb : UpstreamCallback) (phase' : UpstreamPhase) (h : DeletedIffGone phase c out)
    (hnext : phase.next cb = some phase') :
    DeletedIffGone phase' (machine.step c cb).1 (out ++ (machine.step c cb).2) := by
  obtain ⟨hthere, hgone⟩ := UpstreamPhase.gone_iff_of_next hnext
  have halive : ¬ c.deleted = true := fun hdeleted => hthere (h.mp hdeleted)
  calc (machine.step c cb).1.deleted = true
      ↔ c.deleted = true ∨ cb = .connectError ∨ cb = .detachTransaction := deleted_step_iff
    _ ↔ cb = .connectError ∨ cb = .detachTransaction := or_iff_right halive
    _ ↔ phase' = .gone := hgone.symm

/-- **A client is freed exactly when its exchange is over.** -/
theorem UpstreamClient.deleted_iff_gone {c : UpstreamClient} (hfresh : c.deleted = false) {cbs : List UpstreamCallback}
    {phase : UpstreamPhase} (hphase : follow UpstreamPhase.next .connecting cbs = some phase) :
    (machine.run c cbs).1.deleted = true ↔ phase = .gone := by
  have hstart : DeletedIffGone .connecting c [] := iff_of_false (by simp [hfresh]) (by simp)
  have hend : DeletedIffGone phase (machine.run c cbs).1 ([] ++ machine.outputs c cbs) :=
    Machine.run_invariant deletedIffGone_step hstart hphase
  exact hend

namespace Deployment

variable {ρ ℓ : Type} {d : Deployment ρ ℓ}

/-- The handler of a stream reads every event the contract allows. -/
theorem exists_serving_step {later : List SessionInput} {decision : Decision} {st : Stream GatewayHandler}
    {outs : List SessionEffect} (h : StreamTrace later decision st outs)
    (hheads : ∀ handler msg, decision = .proxy handler msg → handler.Routed) (hclient : st.client = .receiving)
    (env : FilterEnv) (ev : StreamEvent) :
    ∃ serving out, st.serving.step env GatewayHandler.machine (.stream ev) = some (serving, out) := by
  cases h with
  | answered response st hclosed hquiet hnone => exact ⟨_, _, Serving.step_of_closed hclosed ev⟩
  | collecting handler msg fs st heom hwaiting hopen hchain hquiet hnone =>
      have hrouted := hheads handler msg rfl
      have hready : GatewayHandler.Ready
          { handler.onRequest msg with requestBody := GatewayHandler.collected none (bodyChunks later) } :=
        ⟨⟨hrouted.destination, hrouted.target⟩, rfl⟩
      obtain ⟨h', out, hstep, -, -⟩ := GatewayHandler.step_stream hready ev
      have hmachine : GatewayHandler.machine.step _ (.stream ev) = some (h', out) := hstep
      rw [hchain, Serving.step, RequestHandler.serve_stream, hopen, if_neg Bool.false_ne_true, hmachine]
      exact ⟨_, _, rfl⟩
  | forwarded handler msg dest target client phase st heom hnot => exact absurd hclient hnot

/-- The client of a stream is freed exactly when its exchange is over. -/
theorem deleted_iff_gone {met : List (State ℓ × SessionInput)} {st : Stream GatewayHandler}
    {outs : List SessionEffect} (h : d.SessionTrace met (.stream st) outs) {phase : UpstreamPhase}
    {c : UpstreamClient} (hexchange : st.exchange = some (phase, c)) : c.deleted = true ↔ phase = .gone := by
  cases h with
  | stream s₀ msg rand64 later keys decision st outs hdecides htrace =>
      cases htrace with
      | answered response st hclosed hquiet hnone =>
          rw [hnone] at hexchange
          cases hexchange
      | collecting handler msg fs st heom hwaiting hopen hchain hquiet hnone =>
          rw [hnone] at hexchange
          cases hexchange
      | forwarded handler msg dest target client ph st heom hnot hdest htarget hfor hphase hsome =>
          rw [hsome] at hexchange
          cases hexchange
          exact UpstreamClient.deleted_iff_gone (by rw [hfor]; rfl) hphase

/-- **An allowed step is undefined exactly when it is a late relay.** -/
theorem step_eq_none_iff {met : List (State ℓ × SessionInput)} {p : Session GatewayHandler}
    {outs : List SessionEffect} (h : d.SessionTrace met p outs) {i : SessionInput} (hallows : p.Allows i)
    (s : State ℓ) : d.plane.step s p i = none ↔ p.LateRelay i := by
  cases hallows with
  | request msg rand64 =>
      refine iff_of_false ?_ (by intro hlate; cases hlate)
      obtain ⟨keys, decision, s', -, hstep, -⟩ :=
        GatewayHandlerFactory.exists_decides d.platform d.store d.jwksCaches (d.env s.limiter rand64) msg
      have hserve : (d.factory.onRequest d.platform msg).serving.step (d.env s.limiter rand64)
          GatewayHandler.machine (.onRequest msg) = some (s', _) := hstep
      simp [Plane.step, plane, hserve]
  | event st ev hclient =>
      refine iff_of_false ?_ (by intro hlate; cases hlate)
      cases h with
      | stream s₀ msg rand64 later keys decision st outs hdecides htrace =>
          have hrouted : ∀ handler msg, decision = .proxy handler msg → handler.Routed := by
            intro handler msg hproxy
            subst hproxy
            cases hdecides with
            | proxied router _ _ hrouter hdispatch => exact routed_of_dispatchesTo hdispatch
          obtain ⟨serving, out, hserve⟩ := exists_serving_step htrace hrouted hclient (d.env s.limiter (0, 0)) ev
          simp [Plane.step, plane, hclient, hserve]
  | onError st hclient =>
      refine iff_of_false ?_ (by intro hlate; cases hlate)
      simp [Plane.step, hclient]
  | requestComplete st hclient hended =>
      refine iff_of_false ?_ (by intro hlate; cases hlate)
      simp [Plane.step, hclient, hended]
  | upstream st cb phase c phase' hexchange hnext =>
      have hthere := (UpstreamPhase.gone_iff_of_next hnext).1
      have halive : c.deleted = false := by
        rw [← Bool.not_eq_true, deleted_iff_gone h hexchange]
        exact hthere
      have hstep : d.plane.step s (.stream st) (.upstream cb) =
          if st.client = .finished ∧ c.relayed cb ≠ [] then none
          else some (s, .stream (st.relay phase' c cb), (c.step cb).2.map UpstreamOutput.effect) := by
        simp [Plane.step, hexchange, hnext, halive]
      rw [hstep]
      constructor
      · intro hnone
        by_cases hlate : st.client = .finished ∧ c.relayed cb ≠ []
        · exact .intro st cb phase c hexchange hlate.1 hlate.2
        · rw [if_neg hlate] at hnone
          cases hnone
      · intro hlate
        cases hlate with
        | intro _ _ ph c' hexchange' hfinished hrelays =>
            rw [hexchange] at hexchange'
            cases hexchange'
            exact if_pos ⟨hfinished, hrelays⟩
  | adminRequest msg =>
      refine iff_of_false ?_ (by intro hlate; cases hlate)
      simp [Plane.step]
  | adminEvent a ev dir hclient =>
      refine iff_of_false ?_ (by intro hlate; cases hlate)
      cases h with
      | admin s₀ headers later a hheaders =>
          cases ev with
          | onBody body => simp [Plane.step, hclient, Plane.adminEvent]
          | onUpgrade prot => simp [Plane.step, hclient, Plane.adminEvent]
          | onEOM =>
              simp [Plane.step, hclient, Plane.adminEvent, adminEOM_eq s hheaders]
  | adminError a hclient =>
      refine iff_of_false ?_ (by intro hlate; cases hlate)
      simp [Plane.step, hclient]
  | adminComplete a hclient hended =>
      refine iff_of_false ?_ (by intro hlate; cases hlate)
      simp [Plane.step, hclient, hended]

end Deployment

end Kimchi
