import Kimchi.Server.ProcessRuns

/-!
# The history of a run

What a run of the process has come to, as a function of its history: the inputs of its
sessions and their outputs, in the order in which they happened.

* `limiter_charged` — the rate-limit store has been asked for the requests of the run,
  each at most once and in their order.
* `current_loaded` — the shared configuration is what the last successful reload has
  read, and every admin session is answered as its own request says.
* `request_served` — **the main theorem**: a request is decided on by the configuration
  of start-up and the calls of the rate-limit store before it, and its outputs are what
  the decision and its own later inputs lead to.
-/

namespace Kimchi

open Config Library

/-! ## The calls of the rate-limit store -/

/-- The key with which the rate-limit store is asked. -/
def SessionEffect.limiterCall : SessionEffect → Option RateLimitKey
  | .served (.checkAndDecrement key) => some key
  | _ => none

/-- The calls of the rate-limit store in the outputs of a run. -/
def limiterCalls {κ : Type} (outs : List (κ × SessionEffect)) : List RateLimitKey :=
  outs.filterMap fun (_, effect) => effect.limiterCall

/-- The key an input may be charged for. -/
def SessionInput.quotaKeys : SessionInput → List RateLimitKey
  | .request msg _ => [RateLimitFilter.key msg]
  | _ => []

theorem filterMap_limiterCall_served (effects : List ServedEffect) :
    (effects.map SessionEffect.served).filterMap SessionEffect.limiterCall = checkedKeys effects := by
  rw [List.filterMap_map, checkedKeys]
  congr 1
  funext effect
  cases effect <;> rfl

theorem limiterCalls_append {κ : Type} (outs : List (κ × SessionEffect)) (k : κ) (out : List SessionEffect) :
    limiterCalls (outs ++ out.map (Prod.mk k)) = limiterCalls outs ++ out.filterMap SessionEffect.limiterCall := by
  rw [limiterCalls, List.filterMap_append, List.filterMap_map, limiterCalls]
  rfl

theorem Limiter.charge_append {ℓ : Type} (limiter : Limiter ℓ) (l : ℓ) (keys keys' : List RateLimitKey) :
    limiter.charge l (keys ++ keys') = limiter.charge (limiter.charge l keys) keys' := List.foldl_append

@[simp] theorem checkedKeys_responses (calls : List ResponseCall) :
    checkedKeys (calls.map .respond) = [] := by
  simp [checkedKeys]

@[simp] theorem checkedKeys_handler (effects : List HandlerEffect) :
    checkedKeys (effects.map HandlerEffect.served) = [] := by
  rw [checkedKeys, List.filterMap_map, List.filterMap_eq_nil_iff]
  intro effect _
  cases effect <;> rfl

theorem checkedKeys_decision (keys : List RateLimitKey) (decision : Decision) :
    checkedKeys (keys.map .checkAndDecrement ++ decision.answer) = keys := by
  have hanswer : checkedKeys decision.answer = [] := by
    cases decision with
    | reply response => exact checkedKeys_responses _
    | proxy handler msg => rfl
  have hkeys : checkedKeys (keys.map .checkAndDecrement) = keys := by
    rw [checkedKeys, List.filterMap_map]
    exact List.filterMap_some
  rw [checkedKeys, List.filterMap_append]
  change checkedKeys _ ++ checkedKeys _ = keys
  rw [hkeys, hanswer, List.append_nil]

theorem Decides.keys_sublist {ρ : Type} {re : RegexLib ρ} {dns : Resolver} {engine : PolicyEngine} {env : FilterEnv}
    {msg : HTTPMessage} {keys : List RateLimitKey} {decision : Decision}
    (h : Decides re dns engine env msg keys decision) : keys.Sublist [RateLimitFilter.key msg] := by
  cases h with
  | notFound => exact List.nil_sublist _
  | unroutable => exact List.nil_sublist _
  | refused => exact List.nil_sublist _
  | limited => exact List.Sublist.refl _
  | proxied => exact List.Sublist.refl _

/-- The calls for a request are those of its decision. -/
theorem StreamTrace.limiterCalls_first {decision : Decision} {stream : Stream GatewayHandler}
    {first : List SessionEffect} (h : StreamTrace [] decision stream first) (keys : List RateLimitKey) :
    (checkEffects keys ++ first).filterMap SessionEffect.limiterCall = keys := by
  have hfirst : first.filterMap SessionEffect.limiterCall = [] := by
    cases h with
    | answered response =>
        rw [filterMap_limiterCall_served]
        exact checkedKeys_responses _
    | collecting => rfl
    | forwarded handler msg dest target client phase st heom => cases heom
  have hkeys : (checkEffects keys).filterMap SessionEffect.limiterCall = keys := by
    rw [checkEffects, List.filterMap_map]
    exact List.filterMap_some
  rw [List.filterMap_append, hkeys, hfirst, List.append_nil]

/-- Only the message of a request makes a filter ask the rate-limit store. -/
theorem Serving.checkedKeys_of_stream {τ : Type} {env : FilterEnv}
    {T : PartialMachine τ RequestEvent HandlerEffect} {s s' : Serving τ} {ev : StreamEvent} {out : List ServedEffect}
    (h : s.step env T (.stream ev) = some (s', out)) : checkedKeys out = [] := by
  cases s with
  | notFound =>
      cases h
      rfl
  | badGateway msg =>
      cases h
      rfl
  | chain head =>
      rw [Serving.step, head.eq_ofFilters, RequestHandler.serve_stream] at h
      split at h
      · cases h
        rfl
      · simp only [Option.map_map] at h
        obtain ⟨⟨t', effects⟩, -, hend⟩ := Option.map_eq_some_iff.mp h
        cases hend
        exact checkedKeys_handler effects

theorem filterMap_limiterCall_upstream (outputs : List UpstreamOutput) :
    (outputs.map UpstreamOutput.effect).filterMap SessionEffect.limiterCall = [] := by
  rw [List.filterMap_map, List.filterMap_eq_nil_iff]
  intro output _
  cases output <;> rfl

/-- Only an idle session takes a request. -/
theorem Plane.idle_of_request {σ τ : Type} {plane : Plane σ τ} {s : σ} {p : Session τ} {msg : HTTPMessage}
    {rand64 : UInt64 × UInt64} {next : σ × Session τ × List SessionEffect}
    (h : plane.step s p (.request msg rand64) = some next) : p = .idle := by
  cases p with
  | idle => rfl
  | stream st => cases h
  | admin a => cases h

namespace Deployment

variable {ρ ℓ κ : Type} [DecidableEq κ] {d : Deployment ρ ℓ} {l : ℓ}

/-! ## One step -/

section Step

variable {s s' : State ℓ} {p p' : Session GatewayHandler} {i : SessionInput} {out : List SessionEffect}

/-- An event of an admin session: what it leaves of the shared state, and its reply. -/
theorem adminEvent_cases {a a' : AdminStream} {dir : ConfigDir} {ev : StreamEvent} {reply : Option Response}
    (h : d.plane.adminEvent s a dir ev = some (s', a', reply)) :
    (ev ≠ .onEOM ∧ s' = s) ∨
      ∃ msg, ev = .onEOM ∧ a.handler.requestHeaders = some msg ∧
        s' = { s with shared := { current := (d.loadedBy msg dir).getD s.shared.current } } := by
  cases ev with
  | onBody body =>
      cases h
      exact Or.inl ⟨by simp, rfl⟩
  | onUpgrade prot =>
      cases h
      exact Or.inl ⟨by simp, rfl⟩
  | onEOM =>
      cases hmsg : a.handler.requestHeaders with
      | none => simp [Plane.adminEvent, Plane.adminEOM, hmsg] at h
      | some msg =>
          rw [Plane.adminEvent, adminEOM_eq s hmsg] at h
          cases h
          exact Or.inr ⟨msg, rfl, rfl, rfl⟩

/-- Every step charges what it calls, and calls for its own request alone. -/
theorem limiter_step (h : d.plane.Moves s p i s' p' out) :
    s'.limiter = d.limiter.charge s.limiter (out.filterMap SessionEffect.limiterCall) ∧
      (out.filterMap SessionEffect.limiterCall).Sublist i.quotaKeys := by
  cases h with
  | request msg rand64 handler serving effects hdispatch hserve =>
      cases Option.some.inj hdispatch
      obtain ⟨keys, decision, serving', hdecides, hstep, -⟩ :=
        GatewayHandlerFactory.exists_decides d.platform d.store d.jwksCaches (d.env s.limiter rand64) msg
      cases hserve.symm.trans hstep
      rw [filterMap_limiterCall_served]
      refine ⟨rfl, ?_⟩
      rw [checkedKeys_decision]
      exact hdecides.keys_sublist
  | event st ev serving effects hclient hserve =>
      rw [filterMap_limiterCall_served]
      refine ⟨rfl, ?_⟩
      rw [Serving.checkedKeys_of_stream hserve]
      exact List.nil_sublist _
  | upstream st cb phase c phase' hexchange hnext halive hquiet =>
      rw [filterMap_limiterCall_upstream]
      exact ⟨rfl, List.nil_sublist _⟩
  | adminEvent a ev dir s' a' reply hclient hevent =>
      have hnone : (reply.toList.flatMap fun r => r.served.map SessionEffect.served).filterMap
          SessionEffect.limiterCall = [] := by
        cases reply with
        | none => rfl
        | some r =>
            rw [Option.toList_some, List.flatMap_singleton, filterMap_limiterCall_served]
            exact checkedKeys_responses _
      rw [hnone]
      refine ⟨?_, List.nil_sublist _⟩
      rcases adminEvent_cases hevent with ⟨-, rfl⟩ | ⟨msg, -, -, rfl⟩ <;> rfl
  | onError | requestComplete | adminRequest | adminError | adminComplete => exact ⟨rfl, List.nil_sublist _⟩

/-- The store that an event of a session swaps in, given the first input of the
session. -/
def loadedAt (d : Deployment ρ ℓ) (first : Option SessionInput) (i : SessionInput) : Option ConfigStore :=
  match first, i with
  | some (.adminRequest msg), .adminEvent .onEOM dir => d.loadedBy msg dir
  | _, _ => none

theorem loadedAt_self (i : SessionInput) : d.loadedAt (some i) i = none := by
  cases i <;> rfl

theorem loadedAt_of_not_admin {first : Option SessionInput} (h : ∀ dir, i ≠ .adminEvent .onEOM dir) :
    d.loadedAt first i = none := by
  unfold loadedAt
  split
  · next dir => exact absurd rfl (h dir)
  · rfl

/-- Every step leaves the shared configuration as it is or swaps one in. -/
theorem shared_step {met : List (State ℓ × SessionInput)} {outs : List SessionEffect} (htrace : d.SessionTrace met p outs)
    (h : d.plane.Moves s p i s' p' out) :
    s'.shared.current = (d.loadedAt (met.map Prod.snd).head? i).getD s.shared.current := by
  cases h with
  | adminEvent a ev dir s' a' reply hclient hevent =>
      cases htrace with
      | admin s₀ msg later a hmsg =>
          rcases adminEvent_cases hevent with ⟨hev, rfl⟩ | ⟨msg', rfl, hmsg', rfl⟩
          · rw [loadedAt_of_not_admin (by simp [hev])]
            rfl
          · obtain rfl : msg = msg' := Option.some.inj (hmsg.symm.trans hmsg')
            rfl
  | _ =>
      rw [loadedAt_of_not_admin (by simp)]
      rfl

end Step

/-! ## Whole runs over values -/

/-- The stores that the reloads of a run have read. -/
def loads (d : Deployment ρ ℓ) (evs : List (κ × SessionInput)) : List ConfigStore :=
  evs.filterMap fun (k, i) => d.loadedAt (inputsOf k evs).head? i

theorem head?_inputsOf_of_mem {evs evs' : List (κ × SessionInput)} {k : κ} {i : SessionInput} (h : (k, i) ∈ evs) :
    (inputsOf k (evs ++ evs')).head? = (inputsOf k evs).head? := by
  have hmem : i ∈ inputsOf k evs := List.mem_filterMap.mpr ⟨(k, i), h, by simp⟩
  rw [inputsOf_append, List.head?_append_of_ne_nil _ (List.ne_nil_of_mem hmem)]

theorem loads_concat (evs : List (κ × SessionInput)) (k : κ) (i : SessionInput) :
    d.loads (evs ++ [(k, i)]) = d.loads evs ++ (d.loadedAt (inputsOf k evs).head? i).toList := by
  have hbefore : evs.filterMap (fun (k', i') => d.loadedAt (inputsOf k' (evs ++ [(k, i)])).head? i') = d.loads evs := by
    refine List.filterMap_congr ?_
    intro ev hev
    obtain ⟨k', i'⟩ := ev
    simp only [head?_inputsOf_of_mem hev]
  have hlast : d.loadedAt (inputsOf k (evs ++ [(k, i)])).head? i = d.loadedAt (inputsOf k evs).head? i := by
    rw [inputsOf_append, inputsOf_cons_self, inputsOf_nil]
    cases hinputs : inputsOf k evs with
    | nil => rw [List.nil_append, List.head?_cons, loadedAt_self]; rfl
    | cons first rest => rfl
  rw [loads, List.filterMap_append, hbefore, ← hlast]
  cases hload : d.loadedAt (inputsOf k (evs ++ [(k, i)])).head? i <;> simp [hload]

/-- What the shared state is after a history. -/
structure Accounts (d : Deployment ρ ℓ) (l : ℓ) (evs : List (κ × SessionInput)) (s : State ℓ)
    (outs : List (κ × SessionEffect)) : Prop where
  limiter : s.limiter = d.limiter.charge l (limiterCalls outs)
  calls : (limiterCalls outs).Sublist (evs.flatMap fun (_, i) => i.quotaKeys)
  current : s.shared.current = (d.loads evs).getLast?.getD d.store

/-- Run lemma: the shared state is a function of the history. -/
theorem accounts_run {evs : List (κ × SessionInput)} {st : State ℓ × (κ → Session GatewayHandler)}
    {outs : List (κ × SessionEffect)}
    (hrun : d.plane.sessions.run (d.start l, fun _ => .idle) evs = some (st, outs)) : d.Accounts l evs st.1 outs := by
  refine Sessions.run_trace (T := fun evs st outs => d.Accounts l evs st.1 outs) ?_ ⟨rfl, List.nil_sublist _, rfl⟩ hrun
  intro evs st outs k i s' p' out hbefore h hstep
  have hmoves := Plane.moves_of_step hstep
  obtain ⟨hcharged, hown⟩ := limiter_step hmoves
  obtain ⟨met, hmet, htrace⟩ := exists_sessionTrace .idle hbefore
  have hshared := shared_step htrace hmoves
  rw [List.nil_append, hmet] at hshared
  refine ⟨?_, ?_, ?_⟩
  · show s'.limiter = _
    rw [hcharged, h.limiter, limiterCalls_append, Limiter.charge_append]
  · rw [limiterCalls_append, List.flatMap_append]
    refine h.calls.append ?_
    simpa using hown
  · show s'.shared.current = _
    rw [hshared, loads_concat, h.current]
    cases d.loadedAt (inputsOf k evs).head? i <;> simp

/-- Run lemma: a request is decided on in the state that the calls before it have left,
it makes the calls of the decision, and the trace of its session goes on from there. -/
theorem exists_requestTrace {before after : List (κ × SessionInput)} {k : κ} {msg : HTTPMessage}
    {rand64 : UInt64 × UInt64} {st : State ℓ × (κ → Session GatewayHandler)} {outs : List (κ × SessionEffect)}
    (hrun : d.plane.sessions.run (d.start l, fun _ => .idle) (before ++ (k, .request msg rand64) :: after) =
      some (st, outs)) :
    ∃ st₀ outs₀ st₁ outs₁ keys decision stream trace,
      d.plane.sessions.run (d.start l, fun _ => .idle) before = some (st₀, outs₀) ∧
      d.plane.sessions.run (d.start l, fun _ => .idle) (before ++ [(k, .request msg rand64)]) = some (st₁, outs₁) ∧
      Decides d.platform.re d.platform.dns d.engine (d.env (d.limiter.charge l (limiterCalls outs₀)) rand64) msg keys
        decision ∧
      StreamTrace (inputsOf k after) decision stream trace ∧ inputsOf k outs = checkEffects keys ++ trace ∧
      limiterCalls outs₁ = limiterCalls outs₀ ++ keys := by
  obtain ⟨st₀, outs₀, outs₁, hbefore, hlater, rfl⟩ := Sessions.run_append_eq_some_iff.mp hrun
  obtain ⟨s₁, p₁, out, outs₂, hstep, hafter, rfl⟩ := Sessions.run_cons_eq_some_iff.mp hlater
  -- the session has done nothing before its request
  obtain ⟨met, -, htrace⟩ := exists_sessionTrace .idle hbefore
  have hidle : st₀.2 k = .idle := Plane.idle_of_request hstep
  rw [hidle] at htrace hstep
  obtain ⟨-, hsilent⟩ := htrace.of_idle
  rw [List.nil_append] at hsilent
  -- its request, and from there on its own inputs
  have hmoves : d.plane.Moves st₀.1 .idle (.request msg rand64) s₁ p₁ out := Plane.moves_of_step hstep
  cases hmoves with
  | request _ _ handler serving effects hdispatch hserve =>
      cases Option.some.inj hdispatch
      obtain ⟨keys, decision, first, hdecides, hstream, hout⟩ := streamTrace_request hserve
      obtain ⟨stream, hwhole⟩ :=
        exists_streamTrace_append hstream (hasHeads_of_decides hdecides) (k := k) (by simp) hafter
      have hcalls : (checkEffects keys ++ first).filterMap SessionEffect.limiterCall = keys :=
        hstream.limiterCalls_first keys
      have hlimiter : st₀.1.limiter = d.limiter.charge l (limiterCalls outs₀) := (accounts_run hbefore).limiter
      change Decides _ _ _ (d.env st₀.1.limiter rand64) _ _ _ at hdecides
      rw [hlimiter] at hdecides
      rw [List.nil_append] at hwhole
      have hrequest := Sessions.run_concat hbefore k (.request msg rand64)
      rw [hidle, hstep, Option.map_some] at hrequest
      refine ⟨st₀, outs₀, _, _, keys, decision, stream, first ++ inputsOf k outs₂, hbefore, hrequest, hdecides,
        hwhole, ?_, ?_⟩
      · rw [hout, inputsOf_append, inputsOf_append, inputsOf_map_self, hsilent, List.nil_append, List.append_assoc]
      · rw [hout, limiterCalls_append, hcalls]

end Deployment

namespace Sample

/-- The same with a rate-limit store that allows one request in all. -/
def metered : Deployment Unit Nat where
  platform := platformKnowing [str "a"]
  jwt := env.jwt
  limiter := ⟨fun n _ => (n + 1, .ok (n == 0))⟩
  parseJson := parsePolicy
  store := svcStore
  jwksCaches := ∅

/-- Two requests, of which the second one comes before the end of the first. -/
def twoRequests : List (Bool × SessionInput) :=
  [(true, .request getRoot (0, 0)), (false, .request getRoot (0, 0)), (true, .event .onEOM)]

theorem twoRequests_isSome : (metered.run 0 twoRequests).isSome = true := by decide +kernel

/-- What the run comes to. -/
def twoRequestsRun := (metered.run 0 twoRequests).get twoRequests_isSome

theorem run_twoRequests : metered.run 0 twoRequests = some (twoRequestsRun.1, twoRequestsRun.2) :=
  (Option.some_get twoRequests_isSome).symm

end Sample

namespace Deployment

variable {ρ ℓ κ : Type} [DecidableEq κ] {d : Deployment ρ ℓ} {l : ℓ}

/-! ## The shared state of the process -/

section Process

variable {evs : List (κ × SessionInput)} {st : ProcessState ℓ × (κ → Session GatewayHandlerRef)}
  {outs : List (κ × SessionEffect)} {k : κ}

/-- **The quota is charged once for each request.**  After every run the rate-limit store
is what the calls of the run have made of it, in their order; the calls are those of some
of the requests, each for the key of its own request, once, and in the order in which the
requests came. -/
theorem limiter_charged (hrun : d.run l evs = some (st, outs)) :
    st.1.limiter = d.limiter.charge l (limiterCalls outs) ∧
      (limiterCalls outs).Sublist (evs.flatMap fun (_, i) => i.quotaKeys) := by
  obtain ⟨s₀, factory, st', h⟩ := exists_valueRun hrun
  have haccounts := accounts_run h.values
  rw [h.shared.limiter]
  exact ⟨haccounts.limiter, haccounts.calls⟩

theorem limiter_charged_twice :
    Sample.twoRequestsRun.1.1.limiter = Sample.metered.limiter.charge 0 (limiterCalls Sample.twoRequestsRun.2) ∧
      (limiterCalls Sample.twoRequestsRun.2).Sublist
        [RateLimitFilter.key Sample.getRoot, RateLimitFilter.key Sample.getRoot] :=
  limiter_charged Sample.run_twoRequests

/-- **The admin server is a register of configurations.**  After every run `current`
holds what the last reload that succeeded has read, or the configuration of start-up;
and every request of the admin server is answered as its own path and method say and as
the directory is when it ends. -/
theorem current_loaded (hrun : d.run l evs = some (st, outs)) :
    st.1.heap.deref st.1.current = some ((d.loads evs).getLast?.getD d.store) ∧
      ∀ k msg later, inputsOf k evs = .adminRequest msg :: later → inputsOf k outs = d.adminReplies msg later := by
  obtain ⟨s₀, factory, st', h⟩ := exists_valueRun hrun
  refine ⟨?_, ?_⟩
  · rw [h.shared.current, (accounts_run h.values).current]
  · intro k msg later hinputs
    obtain ⟨met, hmet, htrace⟩ := h.exists_trace k
    rw [hinputs] at hmet
    obtain ⟨⟨s, i⟩, later', rfl, rfl, rfl⟩ := List.map_eq_cons_iff.mp hmet
    exact htrace.of_adminRequest

/-- A directory that is missing is read as an empty configuration. -/
theorem current_loaded_empty :
    Sample.abandonedRun.1.1.heap.deref Sample.abandonedRun.1.1.current = some {} ∧
      inputsOf false Sample.abandonedRun.2 = AdminHandler.reloaded.served.map .served := by
  obtain ⟨hcurrent, hreplies⟩ := current_loaded Sample.run_abandoned
  exact ⟨hcurrent, hreplies false Sample.reloadRequest [.adminEvent .onEOM .missing] rfl⟩

/-! ## Requests -/

/-- **Every request is served as it is decided.**  Take any run in which a request comes,
whatever came before it, happens beside it and follows.  The decision on it is made by
the configuration of start-up and by the rate-limit store as the calls before the request
have left it; and the outputs of the session are the calls of the decision and then what
the decision and the session's own later inputs lead to. -/
theorem request_served {before after : List (κ × SessionInput)} {msg : HTTPMessage} {rand64 : UInt64 × UInt64}
    (hrun : d.run l (before ++ (k, .request msg rand64) :: after) = some (st, outs)) :
    ∃ st₀ outs₀ keys decision trace, d.run l before = some (st₀, outs₀) ∧
      Decides d.platform.re d.platform.dns d.engine (d.env (d.limiter.charge l (limiterCalls outs₀)) rand64) msg keys
        decision ∧
      decision.Trace (inputsOf k after) trace ∧ inputsOf k outs = checkEffects keys ++ trace := by
  obtain ⟨s₀, factory, st', h⟩ := exists_valueRun hrun
  obtain ⟨v₀, outs₀, -, -, keys, decision, stream, trace, hbefore, -, hdecides, hstream, houts, -⟩ :=
    exists_requestTrace h.values
  obtain ⟨st₀, hrun₀⟩ := exists_run_of_values hbefore
  exact ⟨st₀, outs₀, keys, decision, trace, hrun₀, hdecides, hstream.trace, houts⟩

/-- The second of two requests is decided on after the call for the first. -/
theorem second_request_served :
    ∃ st₀ outs₀ keys decision trace,
      Sample.metered.run 0 [(true, .request Sample.getRoot (0, 0))] = some (st₀, outs₀) ∧
      Decides Sample.metered.platform.re Sample.metered.platform.dns Sample.metered.engine
        (Sample.metered.env (Sample.metered.limiter.charge 0 (limiterCalls outs₀)) (0, 0)) Sample.getRoot keys
        decision ∧
      decision.Trace [] trace ∧ inputsOf false Sample.twoRequestsRun.2 = checkEffects keys ++ trace := by
  have hrun : Sample.metered.run 0 ([(true, .request Sample.getRoot (0, 0))] ++
      (false, .request Sample.getRoot (0, 0)) :: [(true, .event .onEOM)]) =
        some (Sample.twoRequestsRun.1, Sample.twoRequestsRun.2) := Sample.run_twoRequests
  exact request_served hrun

end Process

end Deployment

end Kimchi
