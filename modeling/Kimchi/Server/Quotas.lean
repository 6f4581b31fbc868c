import Kimchi.Server.SessionIsolation
import Kimchi.Server.SessionOutputs

/-!
# What a quota is worth

The rate-limit store is asked once for a request, and what it answers decides whether the
request goes on.

* `quota_enforced` — no more requests reach an upstream under a key than calls for this
  key were allowed, however the sessions are interleaved.
* `quota_evaded` — the key is what the client says it is: a request that is over its
  quota goes through under another key.
-/

namespace Kimchi

open Config Library

/-! ## Calls that are allowed -/

namespace Limiter

variable {ℓ : Type} (limiter : Limiter ℓ)

/-- Whether a call lets its request go on: the filter fails open. -/
def allows (l : ℓ) (key : RateLimitKey) : Bool :=
  match (limiter.checkAndDecrement l key).2 with
  | .ok answer => answer
  | .error _ => true

/-- The calls for a key, by their number in a sequence of calls, that are allowed. -/
def grantedCalls (l : ℓ) (calls : List RateLimitKey) (key : RateLimitKey) : List Nat :=
  (List.range calls.length).filter fun n =>
    decide (calls[n]? = some key) && limiter.allows (limiter.charge l (calls.take n)) key

end Limiter

theorem limiterCalls_concat {κ : Type} (outs rest : List (κ × SessionEffect)) :
    limiterCalls (outs ++ rest) = limiterCalls outs ++ limiterCalls rest := List.filterMap_append

theorem Deployment.allowed_env {ρ ℓ : Type} (d : Deployment ρ ℓ) (l : ℓ) (rand64 : UInt64 × UInt64)
    (msg : HTTPMessage) :
    RateLimitFilter.allowed (d.env l rand64).rateLimitStore .failOpen msg =
      d.limiter.allows l (RateLimitFilter.key msg) := by
  rw [RateLimitFilter.allowed_eq]
  rfl

namespace Deployment

variable {ρ ℓ κ : Type} [DecidableEq κ] {d : Deployment ρ ℓ} {l : ℓ} {evs : List (κ × SessionInput)}
  {st : ProcessState ℓ × (κ → Session GatewayHandlerRef)} {outs : List (κ × SessionEffect)} {key : RateLimitKey}

/-- The outputs of a run begin with those of its beginning. -/
theorem exists_outputs_append {more : List (κ × SessionInput)}
    {st₀ : ProcessState ℓ × (κ → Session GatewayHandlerRef)} {outs₀ : List (κ × SessionEffect)}
    (hrun : d.run l (evs ++ more) = some (st, outs)) (hbefore : d.run l evs = some (st₀, outs₀)) :
    ∃ rest, outs = outs₀ ++ rest := by
  obtain ⟨⟨s, factory⟩, hboot, hwhole⟩ := Option.bind_eq_some_iff.mp hrun
  obtain ⟨st₁, outs₁, rest, hfirst, -, rfl⟩ := Sessions.run_append_eq_some_iff.mp hwhole
  rw [run, hboot, Option.bind_some] at hbefore
  cases hbefore.symm.trans hfirst
  exact ⟨rest, rfl⟩

/-- The request of a session was allowed by the call with this number, for this key. -/
inductive GrantedAt (d : Deployment ρ ℓ) (l : ℓ) (evs : List (κ × SessionInput)) (key : RateLimitKey) :
    κ → Nat → Prop
  | intro (before : List (κ × SessionInput)) (k : κ) (i : SessionInput) (after : List (κ × SessionInput))
      (st₀ : ProcessState ℓ × (κ → Session GatewayHandlerRef)) (outs₀ : List (κ × SessionEffect))
      (st₁ : ProcessState ℓ × (κ → Session GatewayHandlerRef)) (outs₁ : List (κ × SessionEffect))
      (hevs : evs = before ++ (k, i) :: after) (hbefore : d.run l before = some (st₀, outs₀))
      (hrequest : d.run l (before ++ [(k, i)]) = some (st₁, outs₁))
      (hcalls : limiterCalls outs₁ = limiterCalls outs₀ ++ [key])
      (hallowed : d.limiter.allows (d.limiter.charge l (limiterCalls outs₀)) key = true) :
      GrantedAt d l evs key k (limiterCalls outs₀).length

/-- A request that comes later is a later call. -/
theorem limiterCalls_lt {before mid : List (κ × SessionInput)} {ev : κ × SessionInput}
    {st₁ st₂ : ProcessState ℓ × (κ → Session GatewayHandlerRef)} {outs₀ outs₁ outs₂ : List (κ × SessionEffect)}
    (hrequest : d.run l (before ++ [ev]) = some (st₁, outs₁))
    (hcalls : limiterCalls outs₁ = limiterCalls outs₀ ++ [key])
    (hlater : d.run l (before ++ ev :: mid) = some (st₂, outs₂)) :
    (limiterCalls outs₀).length < (limiterCalls outs₂).length := by
  rw [← List.singleton_append, ← List.append_assoc] at hlater
  obtain ⟨rest, rfl⟩ := exists_outputs_append hlater hrequest
  rw [limiterCalls_concat, hcalls, List.length_append, List.length_append, List.length_singleton]
  omega

/-- Two requests are two calls. -/
theorem GrantedAt.unique {k k' : κ} {n : Nat} (h : d.GrantedAt l evs key k n) (h' : d.GrantedAt l evs key k' n) :
    k = k' := by
  obtain ⟨before, _, i, after, st₀, outs₀, st₁, outs₁, hevs, hbefore, hrequest, hcalls, -⟩ := h
  generalize hn : (limiterCalls outs₀).length = n at h'
  obtain ⟨before', _, i', after', st₀', outs₀', st₁', outs₁', hevs', hbefore', hrequest', hcalls', -⟩ := h'
  rw [hevs'] at hevs
  rcases List.append_eq_append_iff.mp hevs with ⟨mid, hmid, hrest⟩ | ⟨mid, hmid, hrest⟩
  · cases mid with
    | nil =>
        cases hrest
        rfl
    | cons ev mid =>
        cases hrest
        rw [hmid] at hbefore
        have hlt := limiterCalls_lt hrequest' hcalls' hbefore
        omega
  · cases mid with
    | nil =>
        cases hrest
        rfl
    | cons ev mid =>
        cases hrest
        rw [hmid] at hbefore'
        have hlt := limiterCalls_lt hrequest hcalls hbefore'
        omega

theorem GrantedAt.mem_grantedCalls {k : κ} {n : Nat} (h : d.GrantedAt l evs key k n)
    (hrun : d.run l evs = some (st, outs)) : n ∈ d.limiter.grantedCalls l (limiterCalls outs) key := by
  obtain ⟨before, _, i, after, st₀, outs₀, st₁, outs₁, rfl, hbefore, hrequest, hcalls, hallowed⟩ := h
  rw [← List.singleton_append, ← List.append_assoc] at hrun
  obtain ⟨rest, rfl⟩ := exists_outputs_append hrun hrequest
  rw [limiterCalls_concat, hcalls, Limiter.grantedCalls, List.mem_filter, List.mem_range]
  refine ⟨?_, ?_⟩
  · simp only [List.length_append, List.length_singleton]
    omega
  · simp [hallowed]

/-- Behind an effect that an upstream can see stands a call that was allowed. -/
theorem exists_grantedAt (hrun : d.run l evs = some (st, outs)) {k : κ} {effect : SessionEffect}
    (hmem : (k, effect) ∈ outs) (hcontacts : effect.contactsUpstream = true)
    (hkey : ∀ i ∈ inputsOf k evs, ∀ key' ∈ i.quotaKeys, key' = key) : ∃ n, d.GrantedAt l evs key k n := by
  obtain ⟨before, msg, rand64, after, st₀, outs₀, st₁, outs₁, keys, handler, msg', trace, rfl, hbefore, hrequest,
    hdecides, -, -, hcalls⟩ := exists_proxy_of_contacts hrun hmem hcontacts
  have hown : RateLimitFilter.key msg = key := by
    refine hkey (.request msg rand64) ?_ _ List.mem_cons_self
    simp [inputsOf_append, inputsOf_cons_self]
  cases hdecides with
  | proxied router _ _ hrouter hdispatch hadmitted hallowed =>
      rw [allowed_env, hown] at hallowed
      rw [hown] at hcalls
      exact ⟨_, .intro before k _ after st₀ outs₀ st₁ outs₁ rfl hbefore hrequest hcalls hallowed⟩

/-- **The quota is enforced.**  In every run, the sessions whose requests have a key and
that have reached an upstream are no more than the calls for this key that the rate-limit
store has allowed or has thrown at: no interleaving makes one call count for two
requests. -/
theorem quota_enforced (hrun : d.run l evs = some (st, outs)) (key : RateLimitKey) {ks : List κ} (hks : ks.Nodup)
    (hcontacts : ∀ k ∈ ks, ∃ out ∈ outs, out.1 = k ∧ out.2.contactsUpstream = true)
    (hkey : ∀ k ∈ ks, ∀ i ∈ inputsOf k evs, ∀ key' ∈ i.quotaKeys, key' = key) :
    ks.length ≤ (d.limiter.grantedCalls l (limiterCalls outs) key).length := by
  have hgranted : ∀ k ∈ ks, ∃ n, d.GrantedAt l evs key k n := by
    intro k hk
    obtain ⟨⟨_, effect⟩, hmem, rfl, hcontact⟩ := hcontacts k hk
    exact exists_grantedAt hrun hmem hcontact (hkey _ hk)
  choose! call hcall using hgranted
  have hnodup : (ks.map call).Nodup := by
    refine List.Nodup.map_on ?_ hks
    intro k hk k' hk' hsame
    have hfirst := hcall k hk
    rw [hsame] at hfirst
    exact hfirst.unique (hcall k' hk')
  have hsub : ks.map call ⊆ d.limiter.grantedCalls l (limiterCalls outs) key := by
    intro n hn
    obtain ⟨k, hk, rfl⟩ := List.mem_map.mp hn
    exact (hcall k hk).mem_grantedCalls hrun
  have hlength := (List.subperm_of_subset hnodup hsub).length_le
  rwa [List.length_map] at hlength

/-- The one request of a tenant that went through. -/
theorem tenant_quota_enforced :
    [(0 : Fin 3)].length ≤ (Sample.oncePerKey.grantedCalls [] (limiterCalls Sample.twoTenantsRun.2)
      (RateLimitFilter.key (Sample.requestOf "a"))).length :=
  quota_enforced Sample.run_twoTenants _ (by decide) (by decide +kernel) (by decide +kernel)

end Deployment

/-! ## The key is the client's choice -/

/-- The same request under another quota key. -/
def HTTPMessage.withQuotaKey (msg : HTTPMessage) (key : RateLimitKey) : HTTPMessage :=
  { msg with headers := (msg.headers.set (str "x-tenant-id") key.tenantId).set (str "x-route-id") key.routeId }

theorem HTTPHeaders.getSingleOrEmpty_of_values {hdrs : HTTPHeaders} {name value : Str}
    (h : hdrs.values name = [value]) : hdrs.getSingleOrEmpty name = value := by
  rw [getSingleOrEmpty, Multimap.single_eq_some_iff.mpr h, Option.getD_some]

theorem key_withQuotaKey (msg : HTTPMessage) (key : RateLimitKey) :
    RateLimitFilter.key (msg.withQuotaKey key) = key := by
  have htenant : (msg.withQuotaKey key).headers.values (str "x-tenant-id") = [key.tenantId] := by
    rw [HTTPMessage.withQuotaKey, HTTPHeaders.values_set_of_ne (by decide)]
    exact HTTPHeaders.values_set_self
  have hroute : (msg.withQuotaKey key).headers.values (str "x-route-id") = [key.routeId] :=
    HTTPHeaders.values_set_self
  rw [RateLimitFilter.key, HTTPHeaders.getSingleOrEmpty_of_values htenant,
    HTTPHeaders.getSingleOrEmpty_of_values hroute]

section Evade

variable {env : FilterEnv} {cs : List JwksCache} {msg msg' : HTTPMessage} {key : RateLimitKey}

/-- The policies do not look at the headers of the key. -/
theorem AdmittedAs.exists_withQuotaKey (h : AdmittedAs env.jwt (FilterBase.traced env msg) cs msg')
    (key : RateLimitKey) :
    ∃ msg'', AdmittedAs env.jwt (FilterBase.traced env (msg.withQuotaKey key)) cs msg'' := by
  cases h with
  | unguarded => exact ⟨_, .unguarded⟩
  | bearer c token id hbears hid =>
      obtain ⟨hne, hvalues⟩ := bearsToken_traced_iff.mp hbears
      have hkept : (msg.withQuotaKey key).headers.values (str "Authorization") =
          msg.headers.values (str "Authorization") := by
        rw [HTTPMessage.withQuotaKey, HTTPHeaders.values_set_of_ne (by decide),
          HTTPHeaders.values_set_of_ne (by decide)]
      have hbears' : JwtPolicy.BearsToken (msg.withQuotaKey key) token := ⟨hne, hkept.trans hvalues⟩
      exact ⟨_, .bearer c token id (bearsToken_traced_iff.mpr hbears') hid⟩

/-- A message that reaches the rate limiter passes under a key that is allowed. -/
theorem passes_withQuotaKey (h : AdmittedAs env.jwt (FilterBase.traced env msg) cs msg')
    (hkey : env.rateLimitStore key = .ok true) :
    (∃ msg'', passes (FilterBase.gate env) (PolicyEngine.filtersOf cs) (msg.withQuotaKey key) = .ok msg'') ∧
      rowChecks env (PolicyEngine.filtersOf cs) (msg.withQuotaKey key) = [key] := by
  obtain ⟨msg'', hadmitted⟩ := h.exists_withQuotaKey key
  have hown : RateLimitFilter.key msg'' = key := by
    rw [hadmitted.key_eq, key_traced, key_withQuotaKey]
  have hallowed : RateLimitFilter.allowed env.rateLimitStore .failOpen msg'' = true := by
    rw [RateLimitFilter.allowed_eq, hown, hkey]
  have hpass := passes_jwtPolicies_eq_ok_iff.mpr hadmitted
  refine ⟨⟨msg'', ?_⟩, ?_⟩
  · rw [passes_filtersOf, hpass]
    simp [Except.bind, FilterBase.gate_rateLimitFilter, hallowed]
  · rw [rowChecks_filtersOf, hpass]
    simp [hown]

/-- A request for which the rate-limit store is asked, under a key that is allowed: it is
dispatched as before, and left open. -/
theorem GatewayHandlerFactory.step_withQuotaKey {ρ : Type*} {platform : Platform ρ} {store : ConfigStore}
    {jwksCaches : JwksCaches} {asked : RateLimitKey} {s' : Serving GatewayHandler} {out : List ServedEffect}
    (hstep : ((new platform store jwksCaches).onRequest platform msg).serving.step env GatewayHandler.machine
      (.onRequest msg) = some (s', .checkAndDecrement asked :: out))
    (hkey : env.rateLimitStore key = .ok true) :
    ∃ s'', ((new platform store jwksCaches).onRequest platform (msg.withQuotaKey key)).serving.step env
      GatewayHandler.machine (.onRequest (msg.withQuotaKey key)) = some (s'', [.checkAndDecrement key]) := by
  -- routing reads the path and the method
  have hsame : (new platform store jwksCaches).onRequest platform (msg.withQuotaKey key) =
      (new platform store jwksCaches).onRequest platform msg := rfl
  rw [hsame]
  cases hdispatch : (new platform store jwksCaches).onRequest platform msg with
  | notFound =>
      rw [hdispatch] at hstep
      cases hstep
  | badGateway body =>
      rw [hdispatch] at hstep
      cases hstep
  | chain head =>
      obtain ⟨router, destination, cached, addr, -, -, -, -, rfl⟩ := onRequest_eq_chain_iff.mp hdispatch
      rw [hdispatch] at hstep
      simp only [Dispatch.serving, PolicyEngine.buildChain_eq] at hstep ⊢
      generalize PolicyEngine.jwks platform.orderSort _ router = cs at hstep ⊢
      cases hpass : passes (FilterBase.gate env) (cs.map .jwtPolicy) (FilterBase.traced env msg) with
      | error response =>
          -- a policy has refused the message, and the store is not asked
          have hrow : passes (FilterBase.gate env) (PolicyEngine.filtersOf cs) msg = _ := passes_filtersOf
          have hchecks : rowChecks env (PolicyEngine.filtersOf cs) msg = _ := rowChecks_filtersOf
          rw [hpass] at hrow hchecks
          obtain ⟨s₁, hrefused, -⟩ := Serving.step_onRequest_of_refused (T := GatewayHandler.machine)
            { router := router, service := cached.config, upstreamAddr := addr } hrow
          rw [hrefused, hchecks] at hstep
          cases hstep
      | ok msg' =>
          obtain ⟨⟨msg'', hopen⟩, hchecks⟩ := passes_withQuotaKey (passes_jwtPolicies_eq_ok_iff.mp hpass) hkey
          have hserve := RequestHandler.serve_onRequest_of_passes (T := GatewayHandler.machine)
            { router := router, service := cached.config, upstreamAddr := addr } hopen
          rw [hchecks] at hserve
          rw [Serving.step, hserve]
          exact ⟨_, rfl⟩

end Evade

namespace Sample

/-- The first request of a tenant. -/
def first : List (Bool × SessionInput) := [(true, .request (requestOf "a") (0, 0))]

theorem first_isSome : (oncePerTenant.run [] first).isSome = true := by decide +kernel

/-- What the run comes to. -/
def firstRun := (oncePerTenant.run [] first).get first_isSome

theorem run_first : oncePerTenant.run [] first = some (firstRun.1, firstRun.2) := (Option.some_get first_isSome).symm

theorem second_isSome : (oncePerTenant.run [] (first ++ [(false, .request (requestOf "a") (0, 0))])).isSome = true := by
  decide +kernel

/-- The run with one more request. -/
def secondRun := (oncePerTenant.run [] (first ++ [(false, .request (requestOf "a") (0, 0))])).get second_isSome

/-- Its second request is refused. -/
theorem run_second :
    oncePerTenant.run [] (first ++ [(false, .request (requestOf "a") (0, 0))]) =
      some (secondRun.1, firstRun.2 ++ (checkEffects [RateLimitFilter.key (requestOf "a")] ++
        RateLimitFilter.tooManyRequests.served.map SessionEffect.served).map (Prod.mk false)) := by
  have houts : secondRun.2 = firstRun.2 ++ (checkEffects [RateLimitFilter.key (requestOf "a")] ++
      RateLimitFilter.tooManyRequests.served.map SessionEffect.served).map (Prod.mk false) := by decide +kernel
  rw [← houts]
  exact (Option.some_get second_isSome).symm

end Sample

theorem Plane.step_request {σ τ : Type} {plane : Plane σ τ} {s : σ} {msg : HTTPMessage} {rand64 : UInt64 × UInt64}
    {handler serving : Serving τ} {out : List ServedEffect} (hdispatch : plane.dispatch s msg = some handler)
    (hserve : handler.step (plane.env s rand64) (plane.terminal s) (.onRequest msg) = some (serving, out)) :
    plane.step s .idle (.request msg rand64) = some (plane.charge s (checkedKeys out),
      .stream (Stream.absorb { serving := serving } serving out), out.map .served) := by
  simp [step, hdispatch, hserve]

namespace Deployment

variable {ρ ℓ κ : Type} [DecidableEq κ] {d : Deployment ρ ℓ} {l : ℓ} {evs : List (κ × SessionInput)}
  {st st₁ : ProcessState ℓ × (κ → Session GatewayHandlerRef)} {outs : List (κ × SessionEffect)} {k : κ}

/-- What the next callback of a run outputs. -/
theorem outputs_concat {st' : State ℓ × (κ → Session GatewayHandler)}
    (hvalues : d.plane.sessions.run (d.start l, fun _ => .idle) evs = some (st', outs)) (k : κ) (i : SessionInput) :
    (d.run l (evs ++ [(k, i)])).map Prod.snd =
      (d.plane.step st'.1 (st'.2 k) i).map fun next => outs ++ next.2.2.map (Prod.mk k) := by
  rw [run_outputs, Sessions.run_concat hvalues, Option.map_map]
  rfl

/-- **A quota is evaded by naming another key.**  After every run: if a request were
answered with a 429, then the same request with `x-tenant-id` and `x-route-id` set to any
key that the rate-limit store still allows is not answered but taken in to be forwarded,
whichever JWT policies guard its router and whatever token it bears. -/
theorem quota_evaded (hrun : d.run l evs = some (st, outs)) {msg : HTTPMessage} {rand64 : UInt64 × UInt64}
    (hlimited : d.run l (evs ++ [(k, .request msg rand64)]) =
      some (st₁, outs ++ (checkEffects [RateLimitFilter.key msg] ++
        RateLimitFilter.tooManyRequests.served.map SessionEffect.served).map (Prod.mk k)))
    {key : RateLimitKey} (hkey : (d.limiter.checkAndDecrement st.1.limiter key).2 = .ok true) :
    ∃ st₂, d.run l (evs ++ [(k, .request (msg.withQuotaKey key) rand64)]) =
      some (st₂, outs ++ [(k, .served (.checkAndDecrement key))]) := by
  obtain ⟨s₀, factory, st', h⟩ := exists_valueRun hrun
  rw [h.shared.limiter] at hkey
  -- the step over values that the limited request takes
  have hout := outputs_concat h.values k (.request msg rand64)
  rw [hlimited, Option.map_some] at hout
  obtain ⟨⟨s₁, p₁, out⟩, hstep, hnew⟩ := Option.map_eq_some_iff.mp hout.symm
  have heffects : out = checkEffects [RateLimitFilter.key msg] ++
      RateLimitFilter.tooManyRequests.served.map SessionEffect.served :=
    List.map_injective_iff.mpr (Prod.mk_right_injective k) (List.append_cancel_left hnew)
  have hidle : st'.2 k = .idle := Plane.idle_of_request hstep
  have hmoves := Plane.moves_of_step hstep
  rw [hidle] at hmoves
  generalize hrequest : SessionInput.request msg rand64 = i at hmoves
  cases hmoves with
  | adminRequest => cases hrequest
  | request _ _ handler serving effects hdispatch hserve =>
      cases hrequest
      cases Option.some.inj hdispatch
      have hasked : effects = .checkAndDecrement (RateLimitFilter.key msg) ::
          RateLimitFilter.tooManyRequests.served := by
        refine List.map_injective_iff.mpr (fun a b hab => SessionEffect.served.inj hab) ?_
        rw [heffects]
        rfl
      rw [hasked] at hserve
      obtain ⟨s'', hevade⟩ := GatewayHandlerFactory.step_withQuotaKey hserve hkey
      have houtputs := outputs_concat h.values k (.request (msg.withQuotaKey key) rand64)
      have htaken : d.plane.step st'.1 .idle (.request (msg.withQuotaKey key) rand64) = _ :=
        Plane.step_request rfl hevade
      rw [hidle, htaken, Option.map_some] at houtputs
      obtain ⟨⟨st₂, outs₂⟩, hrun₂, hend⟩ := Option.map_eq_some_iff.mp houtputs
      refine ⟨st₂, ?_⟩
      rw [hrun₂]
      cases hend
      rfl

/-- A tenant that has used up its quota goes on as another one. -/
theorem quota_evaded_as_b :
    ∃ st₂, Sample.oncePerTenant.run [] [(true, .request (Sample.requestOf "a") (0, 0)),
        (false, .request ((Sample.requestOf "a").withQuotaKey (RateLimitFilter.key (Sample.requestOf "b"))) (0, 0))] =
      some (st₂, Sample.firstRun.2 ++
        [(false, .served (.checkAndDecrement (RateLimitFilter.key (Sample.requestOf "b"))))]) :=
  quota_evaded Sample.run_first Sample.run_second rfl

end Deployment

end Kimchi
