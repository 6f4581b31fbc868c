import Kimchi.Policy.PolicyEngine

/-!
# What a built chain does with a request

The chains of `PolicyEngine::buildChain`, run on whole requests.

* `chain_all_or_nothing` — either no filter blocks and the terminal receives every
  event, or exactly one filter blocks, answers with a 401 or a 429, and the terminal
  receives nothing; the rate-limit store is asked once or not at all.
* `policiesAdmit_iff` — a JWT policy takes the `Authorization` header away, so a row
  of them lets a message through only when it has at most one member.
* `reaches_iff_accepted_iff` — hence the row means the conjunction of its members
  exactly when it has at most one member, or some member refuses the token anyway.
-/

namespace Kimchi

open Config Library

/-- Each JWT policy in turn forwards the message it is given. -/
def PoliciesAdmit (lib : JwtLib) : List JwksCache → HTTPMessage → Prop
  | [], _ => True
  | c :: cs, msg => ∃ msg', JwtPolicy.onRequest lib c msg = .forward msg' ∧ PoliciesAdmit lib cs msg'

namespace FilterBase

variable (env : FilterEnv) (msg : HTTPMessage)

/-- The message the first JWT policy of a chain is given. -/
def traced (env : FilterEnv) (msg : HTTPMessage) : HTTPMessage :=
  { msg with headers := HeaderFilter.tracing env.rand64 msg.headers }

theorem gate_headerFilter : headerFilter.gate env msg = .ok (traced env msg) := rfl

theorem gate_jwtPolicy_eq_ok_iff {env : FilterEnv} {msg msg' : HTTPMessage} {c : JwksCache} :
    (jwtPolicy c).gate env msg = .ok msg' ↔ JwtPolicy.onRequest env.jwt c msg = .forward msg' :=
  gate_eq_ok_iff

/-- The rate limiter passes the message on as it is, or refuses with a 429. -/
theorem gate_rateLimitFilter :
    rateLimitFilter.gate env msg =
      if RateLimitFilter.allowed env.rateLimitStore .failOpen msg = false then
        .error RateLimitFilter.tooManyRequests
      else .ok msg := by
  have hverdict : rateLimitFilter.onRequest env msg =
      if RateLimitFilter.allowed env.rateLimitStore .failOpen msg = false then .block RateLimitFilter.tooManyRequests
      else .forward msg := RateLimitFilter.verdict_onRequest _ _ _
  rw [gate, hverdict]
  cases RateLimitFilter.allowed env.rateLimitStore .failOpen msg <;> rfl

/-- **What a filter can do:** forward the message with nothing changed but its
headers, or refuse with a JSON reply of status 401 or 429. -/
theorem onRequest_cases (f : FilterBase) :
    (∃ hdrs, f.onRequest env msg = .forward { msg with headers := hdrs }) ∨
    ∃ status reason body, (status = 401 ∨ status = 429) ∧
      f.onRequest env msg = .block (jsonResponse status reason body) := by
  unfold onRequest handle
  cases f.kind with
  | header => exact Or.inl ⟨_, rfl⟩
  | jwt c =>
      obtain ⟨token, id, -, -, hforward⟩ | ⟨message, hblock⟩ := JwtPolicy.onRequest_cases env.jwt c msg
      · exact Or.inl ⟨_, hforward⟩
      · exact Or.inr ⟨401, "Unauthorized", _, Or.inl rfl, hblock⟩
  | rateLimit =>
      simp only [RateLimitFilter.verdict_onRequest]
      cases RateLimitFilter.allowed env.rateLimitStore f.policy msg with
      | true => exact Or.inl ⟨msg.headers, rfl⟩
      | false => exact Or.inr ⟨429, "Too Many Requests", _, Or.inr rfl, rfl⟩

theorem gate_eq_ok_headers {env : FilterEnv} {f : FilterBase} {msg msg' : HTTPMessage}
    (h : f.gate env msg = .ok msg') : ∃ hdrs, msg' = { msg with headers := hdrs } := by
  have hok := gate_eq_ok_iff.mp h
  obtain ⟨hdrs, hforward⟩ | ⟨status, reason, body, -, hblock⟩ := onRequest_cases env msg f
  · rw [hforward] at hok
    exact ⟨hdrs, (Verdict.forward.inj hok).symm⟩
  · rw [hblock] at hok
    cases hok

theorem gate_eq_error_reply {env : FilterEnv} {f : FilterBase} {msg : HTTPMessage} {response : Response}
    (h : f.gate env msg = .error response) :
    ∃ status reason body, (status = 401 ∨ status = 429) ∧ response = jsonResponse status reason body := by
  have herror := gate_eq_error_iff.mp h
  obtain ⟨hdrs, hforward⟩ | ⟨status, reason, body, hstatus, hblock⟩ := onRequest_cases env msg f
  · rw [hforward] at herror
    cases herror
  · rw [hblock] at herror
    exact ⟨status, reason, body, hstatus, (Verdict.block.inj herror).symm⟩

end FilterBase

/-! ## The row of JWT policies -/

theorem policiesAdmit_iff_passes {env : FilterEnv} {cs : List JwksCache} {msg : HTTPMessage} :
    PoliciesAdmit env.jwt cs msg ↔
      ∃ msg', passes (FilterBase.gate env) (cs.map .jwtPolicy) msg = .ok msg' := by
  induction cs generalizing msg with
  | nil => simp [PoliciesAdmit]
  | cons c cs ih =>
      rw [List.map_cons]
      constructor
      · rintro ⟨msg₁, hforward, hrest⟩
        obtain ⟨msg', hpass⟩ := ih.mp hrest
        refine ⟨msg', ?_⟩
        rw [passes_cons_of_ok (FilterBase.gate_jwtPolicy_eq_ok_iff.mpr hforward)]
        exact hpass
      · rintro ⟨msg', hpass⟩
        cases hgate : (FilterBase.jwtPolicy c).gate env msg with
        | error response =>
            rw [passes_cons_of_error hgate] at hpass
            cases hpass
        | ok msg₁ =>
            rw [passes_cons_of_ok hgate] at hpass
            exact ⟨msg₁, FilterBase.gate_jwtPolicy_eq_ok_iff.mp hgate, ih.mpr ⟨msg', hpass⟩⟩

/-- A single policy forwards exactly the messages that bear a token it accepts. -/
theorem exists_forward_iff {lib : JwtLib} {c : JwksCache} {msg : HTTPMessage} :
    (∃ msg', JwtPolicy.onRequest lib c msg = .forward msg') ↔
      ∃ token, JwtPolicy.BearsToken msg token ∧ Accepts lib c token := by
  constructor
  · rintro ⟨msg', hforward⟩
    obtain ⟨token, id, hbears, heval, -⟩ := JwtPolicy.onRequest_eq_forward hforward
    exact ⟨token, hbears, JwtPolicy.evaluate_ok_iff.mp ⟨id, heval⟩⟩
  · rintro ⟨token, hbears, haccepts⟩
    obtain ⟨id, heval⟩ := JwtPolicy.evaluate_ok_iff.mpr haccepts
    exact ⟨_, by rw [JwtPolicy.onRequest_of_bearsToken lib c hbears, heval]⟩

/-- A message a policy forwarded bears no token any more. -/
theorem not_bearsToken_of_forward {lib : JwtLib} {c : JwksCache} {msg msg' : HTTPMessage}
    (h : JwtPolicy.onRequest lib c msg = .forward msg') (token : Str) :
    ¬ JwtPolicy.BearsToken msg' token := by
  rintro ⟨-, hvalues⟩
  obtain ⟨token', id, -, -, rfl⟩ := JwtPolicy.onRequest_eq_forward h
  rw [JwtPolicy.values_withIdentity_authorization] at hvalues
  cases hvalues

/-- **A row of JWT policies** admits everything when it is empty, the messages with
an accepted token when it has one member, and nothing when it has more. -/
theorem policiesAdmit_iff {lib : JwtLib} {cs : List JwksCache} {msg : HTTPMessage} :
    PoliciesAdmit lib cs msg ↔
      cs = [] ∨ ∃ c token, cs = [c] ∧ JwtPolicy.BearsToken msg token ∧ Accepts lib c token := by
  cases cs with
  | nil => simp [PoliciesAdmit]
  | cons c cs =>
      cases cs with
      | nil => simp [PoliciesAdmit, exists_forward_iff]
      | cons c' cs =>
          constructor
          · -- the second policy finds no token
            rintro ⟨msg₁, hfirst, msg₂, hsecond, -⟩
            obtain ⟨token, hbears, -⟩ := exists_forward_iff.mp ⟨msg₂, hsecond⟩
            exact absurd hbears (not_bearsToken_of_forward hfirst token)
          · rintro (hnil | ⟨c₀, token, hone, -⟩)
            · cases hnil
            · cases hone

/-! ## Whole chains -/

section Chain

variable {env : FilterEnv} {cs : List JwksCache} {msg : HTTPMessage}

theorem passes_filtersOf :
    passes (FilterBase.gate env) (PolicyEngine.filtersOf cs) msg =
      (passes (FilterBase.gate env) (cs.map .jwtPolicy) (FilterBase.traced env msg)).bind
        (FilterBase.gate env .rateLimitFilter) := by
  rw [PolicyEngine.filtersOf, passes_cons_of_ok (FilterBase.gate_headerFilter env msg), passes_append]
  congr 1
  funext m
  rw [passes_cons]
  cases FilterBase.rateLimitFilter.gate env m <;> rfl

/-- The store is asked once, by the rate limiter, when every JWT policy has admitted
the message. -/
theorem rowChecks_filtersOf :
    rowChecks env (PolicyEngine.filtersOf cs) msg =
      match passes (FilterBase.gate env) (cs.map .jwtPolicy) (FilterBase.traced env msg) with
      | .ok msg' => [RateLimitFilter.key msg']
      | .error _ => [] := by
  have hjwts : rowChecks env (cs.map .jwtPolicy) (FilterBase.traced env msg) = [] := by
    refine rowChecks_eq_nil env ?_ _
    intro f hf
    obtain ⟨c, -, rfl⟩ := List.mem_map.mp hf
    simp [FilterBase.jwtPolicy]
  rw [PolicyEngine.filtersOf, rowChecks, FilterBase.gate_headerFilter]
  simp only
  rw [rowChecks_append, hjwts]
  cases passes (FilterBase.gate env) (cs.map .jwtPolicy) (FilterBase.traced env msg) with
  | error response => rfl
  | ok msg' =>
      have hlimit : rowChecks env [.rateLimitFilter] msg' = [RateLimitFilter.key msg'] := by
        rw [rowChecks]
        cases FilterBase.rateLimitFilter.gate env msg' <;> rfl
      exact hlimit

theorem filtersOf_fresh (cs : List JwksCache) : ∀ f ∈ PolicyEngine.filtersOf cs, f.blocked = false := by
  intro f hf
  simp only [PolicyEngine.filtersOf, List.mem_cons, List.mem_append, List.mem_map, List.not_mem_nil,
    or_false] at hf
  rcases hf with rfl | ⟨c, -, rfl⟩ | rfl <;> rfl

end Chain

/-- A row of open filters, and the same row after one of them blocked. -/
theorem countP_blocked_eq_zero {fs : List FilterBase} (h : ∀ f ∈ fs, f.blocked = false) :
    fs.countP (·.blocked) = 0 := by
  rw [List.countP_eq_zero]
  intro f hf
  simp [h f hf]

theorem countP_blocked_eq_one {before after : List FilterBase} {f : FilterBase}
    (h : ∀ g ∈ before ++ f :: after, g.blocked = false) :
    (before ++ { f with blocked := true } :: after).countP (·.blocked) = 1 := by
  have hbefore := countP_blocked_eq_zero fun g hg => h g (List.mem_append_left _ hg)
  have hafter := countP_blocked_eq_zero fun g hg => h g (List.mem_append_right _ (List.mem_cons_of_mem _ hg))
  rw [List.countP_append, List.countP_cons, hbefore, hafter]
  rfl

variable {τ : Type*}

/-- The two ways a run of an open chain can go, and what each tells the store. -/
theorem run_cases (env : FilterEnv) {fs : List FilterBase} (hfresh : ∀ f ∈ fs, f.blocked = false) (t : τ)
    (msg : HTTPMessage) (evs : List StreamEvent) :
    let run := (RequestHandler.machine env).run (.ofFilters fs t) (.onRequest msg :: evs.map .stream)
    ((run.1.filters.countP (·.blocked) = 0 ∧ responses run.2 = [] ∧
        ∃ msg', passes (FilterBase.gate env) fs msg = .ok msg' ∧
          terminalEvents run.2 = .onRequest msg' :: evs.map .stream) ∨
      (run.1.filters.countP (·.blocked) = 1 ∧
        (∃ response, passes (FilterBase.gate env) fs msg = .error response ∧
          responses run.2 = response.sendWithEOM) ∧
        terminalEvents run.2 = [])) ∧
    checkCalls run.2 = rowChecks env fs msg := by
  intro run
  cases hpass : passes (FilterBase.gate env) fs msg with
  | ok msg' =>
      have hrun : run = _ := RequestHandler.run_of_passes t hfresh hpass evs
      rw [hrun]
      refine ⟨Or.inl ⟨?_, ?_, msg', rfl, ?_⟩, ?_⟩
      · rw [RequestHandler.filters_ofFilters]
        exact countP_blocked_eq_zero hfresh
      · rw [responses_append, responses_checks, responses_toTerminal]
        rfl
      · rw [terminalEvents_append, terminalEvents_checks, terminalEvents_toTerminal]
        rfl
      · rw [checkCalls_append, checkCalls_checks, checkCalls_toTerminal, List.append_nil]
  | error response =>
      obtain ⟨before, f, after, hfs, hrun⟩ := RequestHandler.run_of_refused t hpass evs
      have hrun' : run = _ := hrun
      rw [hrun']
      refine ⟨Or.inr ⟨?_, ⟨response, rfl, ?_⟩, ?_⟩, ?_⟩
      · rw [RequestHandler.filters_ofFilters]
        exact countP_blocked_eq_one (hfs ▸ hfresh)
      · rw [responses_append, responses_checks, responses_respond]
        rfl
      · rw [terminalEvents_append, terminalEvents_checks, terminalEvents_respond]
        rfl
      · rw [checkCalls_append, checkCalls_checks, checkCalls_respond, List.append_nil]

/-- **All or nothing.**  The terminal receives the whole request and the chain
answers nothing, or one filter blocks with one complete 401 or 429 and the terminal
receives nothing.  `checkAndDecrement` is called once when every JWT policy admits
the request, and not at all otherwise. -/
theorem chain_all_or_nothing (sort : UnstableSort PolicyEngine.orderBefore) (engine : PolicyEngine)
    (router : RouterConfig) (terminal : τ) (env : FilterEnv) (msg : HTTPMessage) (evs : List StreamEvent) :
    let run := (RequestHandler.machine env).run (PolicyEngine.buildChain sort engine router terminal)
      (.onRequest msg :: evs.map .stream)
    ((run.1.filters.countP (·.blocked) = 0 ∧ responses run.2 = [] ∧
        ∃ hdrs, terminalEvents run.2 = .onRequest { msg with headers := hdrs } :: evs.map .stream) ∨
      (run.1.filters.countP (·.blocked) = 1 ∧
        (∃ head body, (head.status = 401 ∨ head.status = 429) ∧
          responses run.2 = [.sendHeaders head, .sendBody body, .sendEOM]) ∧
        terminalEvents run.2 = [])) ∧
    (PoliciesAdmit env.jwt (PolicyEngine.jwks sort engine router) (FilterBase.traced env msg) →
      (checkCalls run.2).length = 1) ∧
    (¬ PoliciesAdmit env.jwt (PolicyEngine.jwks sort engine router) (FilterBase.traced env msg) →
      checkCalls run.2 = []) := by
  intro run
  have hcases := run_cases env (filtersOf_fresh (PolicyEngine.jwks sort engine router)) terminal msg evs
  rw [← PolicyEngine.buildChain_eq] at hcases
  obtain ⟨hgating, hchecks⟩ := hcases
  refine ⟨?_, ?_, ?_⟩
  · rcases hgating with ⟨hopen, hquiet, msg', hpass, hreceived⟩ |
      ⟨hblocked, ⟨response, hrefused, hanswer⟩, hnothing⟩
    · -- what every filter of the row keeps, the row keeps
      have hheaders : ∃ hdrs, msg' = { msg with headers := hdrs } := by
        refine passes_invariant (P := fun m : HTTPMessage => ∃ hdrs, m = { msg with headers := hdrs }) ?_
          ⟨msg.headers, rfl⟩ hpass
        rintro f - m m' ⟨hdrs, rfl⟩ hgate
        obtain ⟨hdrs', rfl⟩ := FilterBase.gate_eq_ok_headers hgate
        exact ⟨hdrs', rfl⟩
      obtain ⟨hdrs, rfl⟩ := hheaders
      exact Or.inl ⟨hopen, hquiet, hdrs, hreceived⟩
    · -- the reply is that of the one filter that refused
      obtain ⟨before, f, after, m, -, -, hgate⟩ := passes_eq_error hrefused
      obtain ⟨status, reason, body, hstatus, rfl⟩ := FilterBase.gate_eq_error_reply hgate
      rw [sendWithEOM_jsonResponse] at hanswer
      exact Or.inr ⟨hblocked, ⟨_, body, hstatus, hanswer⟩, hnothing⟩
  · intro hadmits
    obtain ⟨msg', hpass⟩ := policiesAdmit_iff_passes.mp hadmits
    rw [hchecks, rowChecks_filtersOf, hpass]
    rfl
  · intro hrefuse
    rw [hchecks, rowChecks_filtersOf]
    cases hpass : passes (FilterBase.gate env) ((PolicyEngine.jwks sort engine router).map .jwtPolicy)
        (FilterBase.traced env msg) with
    | ok msg' => exact absurd (policiesAdmit_iff_passes.mpr ⟨msg', hpass⟩) hrefuse
    | error response => rfl

/-! ## Stacked policies -/

/-- The request message reaches the terminal of a chain. -/
def ReachesTerminal (env : FilterEnv) (chain : RequestHandler τ) (msg : HTTPMessage) : Prop :=
  ∃ msg', .toTerminal (.onRequest msg') ∈ (chain.deliver env (.onRequest msg)).2

theorem reachesTerminal_ofFilters_iff {env : FilterEnv} {fs : List FilterBase} {t : τ} {msg : HTTPMessage} :
    ReachesTerminal env (.ofFilters fs t) msg ↔
      ∃ msg', passes (FilterBase.gate env) fs msg = .ok msg' := by
  unfold ReachesTerminal
  cases hpass : passes (FilterBase.gate env) fs msg with
  | ok msg' => simp [RequestHandler.deliver_onRequest_of_passes t hpass]
  | error response =>
      obtain ⟨before, f, after, -, hdeliver⟩ := RequestHandler.deliver_onRequest_of_refused t hpass
      simp [hdeliver]

theorem key_congr {m m' : HTTPMessage}
    (htenant : m'.headers.values (str "x-tenant-id") = m.headers.values (str "x-tenant-id"))
    (hroute : m'.headers.values (str "x-route-id") = m.headers.values (str "x-route-id")) :
    RateLimitFilter.key m' = RateLimitFilter.key m := by
  unfold RateLimitFilter.key
  rw [HTTPHeaders.getSingleOrEmpty_congr htenant, HTTPHeaders.getSingleOrEmpty_congr hroute]

/-- The header filter does not change the key of the rate limiter. -/
theorem key_traced (env : FilterEnv) (msg : HTTPMessage) :
    RateLimitFilter.key (FilterBase.traced env msg) = RateLimitFilter.key msg := by
  refine key_congr ?_ ?_
  · exact HeaderFilter.values_tracing_of_ne env.rand64 msg.headers (by decide) (by decide)
  · exact HeaderFilter.values_tracing_of_ne env.rand64 msg.headers (by decide) (by decide)

/-- Neither does a JWT policy. -/
theorem key_of_forward {lib : JwtLib} {c : JwksCache} {msg msg' : HTTPMessage}
    (h : JwtPolicy.onRequest lib c msg = .forward msg') :
    RateLimitFilter.key msg' = RateLimitFilter.key msg := by
  obtain ⟨token, id, -, -, rfl⟩ := JwtPolicy.onRequest_eq_forward h
  refine key_congr ?_ ?_
  · exact JwtPolicy.values_withIdentity_of_ne id msg.headers (by decide) (by decide) (by decide) (by decide)
  · exact JwtPolicy.values_withIdentity_of_ne id msg.headers (by decide) (by decide) (by decide) (by decide)

/-- With the rate limiter out of the way, a request reaches the terminal when every
JWT policy admits it. -/
theorem reachesTerminal_buildChain_iff (sort : UnstableSort PolicyEngine.orderBefore) (engine : PolicyEngine)
    (router : RouterConfig) (terminal : τ) {env : FilterEnv} {msg : HTTPMessage}
    (hallowed : env.rateLimitStore (RateLimitFilter.key msg) = .ok true) :
    ReachesTerminal env (PolicyEngine.buildChain sort engine router terminal) msg ↔
      PoliciesAdmit env.jwt (PolicyEngine.jwks sort engine router) (FilterBase.traced env msg) := by
  rw [PolicyEngine.buildChain_eq, reachesTerminal_ofFilters_iff, passes_filtersOf, policiesAdmit_iff_passes]
  cases hpass : passes (FilterBase.gate env) ((PolicyEngine.jwks sort engine router).map .jwtPolicy)
      (FilterBase.traced env msg) with
  | error response => simp [Except.bind]
  | ok msg' =>
      -- the store is asked with the key of the original message
      have hkey : RateLimitFilter.key msg' = RateLimitFilter.key msg := by
        refine passes_invariant (P := fun m => RateLimitFilter.key m = RateLimitFilter.key msg) ?_
          (key_traced env msg) hpass
        intro f hf m m' hm hgate
        obtain ⟨c, -, rfl⟩ := List.mem_map.mp hf
        exact (key_of_forward (FilterBase.gate_jwtPolicy_eq_ok_iff.mp hgate)).trans hm
      have hopen : RateLimitFilter.allowed env.rateLimitStore .failOpen msg' = true := by
        rw [RateLimitFilter.allowed_eq, hkey, hallowed]
      simp [Except.bind, FilterBase.gate_rateLimitFilter, hopen]

theorem bearsToken_traced_iff {env : FilterEnv} {msg : HTTPMessage} {token : Str} :
    JwtPolicy.BearsToken (FilterBase.traced env msg) token ↔ JwtPolicy.BearsToken msg token := by
  have hvalues : (FilterBase.traced env msg).headers.values (str "Authorization") =
      msg.headers.values (str "Authorization") :=
    HeaderFilter.values_tracing_of_ne env.rand64 msg.headers (by decide) (by decide)
  rw [JwtPolicy.BearsToken, JwtPolicy.BearsToken, hvalues]

theorem bearsToken_unique {msg : HTTPMessage} {token token' : Str} (h : JwtPolicy.BearsToken msg token)
    (h' : JwtPolicy.BearsToken msg token') : token = token' := by
  have heq := h.2.symm.trans h'.2
  simpa using heq

/-- **Stacked policies mean conjunction exactly when there is at most one of them,
or one of them refuses the token.** -/
theorem reaches_iff_accepted_iff (sort : UnstableSort PolicyEngine.orderBefore) (engine : PolicyEngine)
    (router : RouterConfig) (terminal : τ) (env : FilterEnv) (msg : HTTPMessage) (token : Str)
    (hbears : JwtPolicy.BearsToken msg token)
    (hallowed : env.rateLimitStore (RateLimitFilter.key msg) = .ok true) :
    (ReachesTerminal env (PolicyEngine.buildChain sort engine router terminal) msg ↔
      ∀ c ∈ engine.listedJwks router, Accepts env.jwt c token) ↔
    ((engine.listedJwks router).length ≤ 1 ∨ ∃ c ∈ engine.listedJwks router, ¬ Accepts env.jwt c token) := by
  have hperm := PolicyEngine.jwks_perm sort engine router
  rw [reachesTerminal_buildChain_iff sort engine router terminal hallowed, policiesAdmit_iff,
    ← hperm.length_eq]
  simp only [bearsToken_traced_iff, ← hperm.mem_iff]
  have hone (c : JwksCache) : (∃ token', JwtPolicy.BearsToken msg token' ∧ Accepts env.jwt c token') ↔
      Accepts env.jwt c token := by
    constructor
    · rintro ⟨token', hbears', haccepts⟩
      rw [bearsToken_unique hbears hbears']
      exact haccepts
    · intro haccepts
      exact ⟨token, hbears, haccepts⟩
  cases PolicyEngine.jwks sort engine router with
  | nil => simp
  | cons c cs =>
      cases cs with
      | nil => simp [hone]
      | cons c' cs =>
          -- two or more policies: nothing reaches the terminal, so conjunction has to fail as well
          have hnothing : ¬ (c :: c' :: cs = [] ∨ ∃ c₀ token', c :: c' :: cs = [c₀] ∧
              JwtPolicy.BearsToken msg token' ∧ Accepts env.jwt c₀ token') := by simp
          have hmany : ¬ (c :: c' :: cs).length ≤ 1 := by simp
          rw [iff_false_left hnothing, or_iff_right hmany]
          simp only [not_forall, exists_prop]

/-! ## One policy and two

The key set of `Sample.issued` fetched for every policy of a store. -/

namespace Sample

/-- jwt-cpp for the sample tokens, with the gateway's rate-limit store. -/
def env : FilterEnv := { jwt := issued.lib, rateLimitStore := nullRateLimitStore, rand64 := (1, 2) }

/-- An engine whose policies `a` and `b` both hold the sample key set. -/
def sharedKeys : PolicyEngine :=
  { store := { policies := [jwtPolicyConfig "a" "" 1, jwtPolicyConfig "b" "" 2] }
    jwksCaches := ((∅ : JwksCaches).insert (str "a") issued.cache).insert (str "b") issued.cache }

theorem listedJwks_one : sharedKeys.listedJwks (routerListing ["a"]) = [issued.cache] := rfl

theorem listedJwks_two :
    sharedKeys.listedJwks (routerListing ["a", "b"]) = [issued.cache, issued.cache] := rfl

/-- A request with the sample token. -/
def request : HTTPMessage := claimingIssuer token []

theorem request_bearsToken : JwtPolicy.BearsToken request token :=
  ⟨by decide, values_claimingIssuer_authorization token []⟩

theorem accepts_token : Accepts issued.lib issued.cache token :=
  JwtPolicy.evaluate_ok_iff.mp ⟨_, evaluate_token⟩

end Sample

/-- A router with one policy lets the request with an accepted token through. -/
theorem onePolicy_conjunction :
    JwtPolicy.BearsToken Sample.request Sample.token ∧
      Sample.env.rateLimitStore (RateLimitFilter.key Sample.request) = .ok true ∧
      ReachesTerminal Sample.env (PolicyEngine.buildChain PolicyEngine.orderSort Sample.sharedKeys
        (Sample.routerListing ["a"]) ()) Sample.request := by
  have hallowed : Sample.env.rateLimitStore (RateLimitFilter.key Sample.request) = .ok true := rfl
  have hsingle : (Sample.sharedKeys.listedJwks (Sample.routerListing ["a"])).length ≤ 1 := by
    rw [Sample.listedJwks_one]
    exact Nat.le_refl 1
  have hiff := (reaches_iff_accepted_iff PolicyEngine.orderSort Sample.sharedKeys
    (Sample.routerListing ["a"]) () Sample.env Sample.request Sample.token Sample.request_bearsToken
    hallowed).mpr (Or.inl hsingle)
  refine ⟨Sample.request_bearsToken, hallowed, hiff.mpr ?_⟩
  rw [Sample.listedJwks_one]
  intro c hc
  rw [List.mem_singleton.mp hc]
  exact Sample.accepts_token

/-- A router with two policies, both of which accept the token: the request is
refused. -/
theorem twoPolicies_refuse_accepted_token :
    JwtPolicy.BearsToken Sample.request Sample.token ∧
      Sample.env.rateLimitStore (RateLimitFilter.key Sample.request) = .ok true ∧
      (∀ c ∈ Sample.sharedKeys.listedJwks (Sample.routerListing ["a", "b"]),
        Accepts Sample.env.jwt c Sample.token) ∧
      ¬ ReachesTerminal Sample.env (PolicyEngine.buildChain PolicyEngine.orderSort Sample.sharedKeys
        (Sample.routerListing ["a", "b"]) ()) Sample.request := by
  refine ⟨Sample.request_bearsToken, rfl, ?_, ?_⟩
  · rw [Sample.listedJwks_two]
    intro c hc
    obtain rfl : c = Sample.issued.cache := by simpa using hc
    exact Sample.accepts_token
  · have hperm := PolicyEngine.jwks_perm PolicyEngine.orderSort Sample.sharedKeys
      (Sample.routerListing ["a", "b"])
    rw [Sample.listedJwks_two] at hperm
    have hlength := hperm.length_eq
    rw [reachesTerminal_buildChain_iff PolicyEngine.orderSort Sample.sharedKeys _ () rfl, policiesAdmit_iff]
    rintro (hnil | ⟨c, token, hone, -⟩)
    · simp [hnil] at hlength
    · simp [hone] at hlength

end Kimchi
