import Kimchi.Server.ProcessHistory

/-!
# What sessions can see of one another

The sessions of a process share the rate-limit store and the configuration that a reload
swaps.  No step reads the configuration, and a step asks the store for the key of its own
request alone (`step_congr`).

* `session_alone` — with a store that keeps nothing, a session is not influenced by the
  others, nor by reloads.
* `reloads_invisible` — with any store, sessions are not influenced by others that make no
  request of the data plane.
* `quota_isolation` — with a store that counts for each key by itself, sessions are not
  influenced by others whose requests have other keys.
-/

namespace Kimchi

open Config Library

/-! ## A request asks for its own key -/

/-- No filter changes the key of a message that it forwards. -/
theorem FilterBase.key_of_forward {env : FilterEnv} {f : FilterBase} {msg msg' : HTTPMessage}
    (h : f.onRequest env msg = .forward msg') : RateLimitFilter.key msg' = RateLimitFilter.key msg := by
  unfold onRequest handle at h
  split at h
  · cases h
    exact key_traced env msg
  · exact Kimchi.key_of_forward h
  · rw [RateLimitFilter.verdict_onRequest] at h
    split at h
    · cases h
    · cases h
      rfl

section Congr

variable {τ : Type*} {env env' : FilterEnv} {msg : HTTPMessage}

/-- Filters that answer a message alike: what differs is the quota of other keys. -/
theorem RequestHandler.deliver_congr (hjwt : env'.jwt = env.jwt) (hrand64 : env'.rand64 = env.rand64)
    (hstore : env'.rateLimitStore (RateLimitFilter.key msg) = env.rateLimitStore (RateLimitFilter.key msg))
    (chain : RequestHandler τ) : chain.deliver env' (.onRequest msg) = chain.deliver env (.onRequest msg) := by
  induction chain generalizing msg with
  | terminal t => rfl
  | filter f next ih =>
      have hhandle : f.handle env' msg = f.handle env msg := by
        unfold FilterBase.handle
        split
        · rw [hrand64]
        · rw [hjwt]
        · unfold RateLimitFilter.onRequest RateLimitStore.checkAndDecrement
          rw [hstore]
      have hverdict : f.onRequest env' msg = f.onRequest env msg := by
        rw [FilterBase.onRequest, hhandle, FilterBase.onRequest]
      have hchecks : f.checks env' msg = f.checks env msg := by
        rw [FilterBase.checks, hhandle, FilterBase.checks]
      simp only [deliver, hverdict, hchecks]
      cases hforward : f.onRequest env msg with
      | block response => rfl
      | forward msg' =>
          have hkey := FilterBase.key_of_forward hforward
          rw [← hkey] at hstore
          simp only [ih hstore]

theorem Serving.step_request_congr {T : PartialMachine τ RequestEvent HandlerEffect} (hjwt : env'.jwt = env.jwt)
    (hrand64 : env'.rand64 = env.rand64)
    (hstore : env'.rateLimitStore (RateLimitFilter.key msg) = env.rateLimitStore (RateLimitFilter.key msg))
    (s : Serving τ) : s.step env' T (.onRequest msg) = s.step env T (.onRequest msg) := by
  cases s with
  | notFound => rfl
  | badGateway body => rfl
  | chain head => rw [step, step, RequestHandler.serve, RequestHandler.serve, head.deliver_congr hjwt hrand64 hstore]

/-- After the message no filter looks at its environment. -/
theorem Serving.step_stream_congr {T : PartialMachine τ RequestEvent HandlerEffect} (env env' : FilterEnv)
    (s : Serving τ) (ev : StreamEvent) : s.step env' T (.stream ev) = s.step env T (.stream ev) := by
  cases s with
  | notFound => rfl
  | badGateway body => rfl
  | chain head =>
      rw [step, step, head.eq_ofFilters, RequestHandler.serve_stream, RequestHandler.serve_stream]

end Congr

namespace Deployment

variable {ρ ℓ κ : Type} [DecidableEq κ] {d : Deployment ρ ℓ} {l : ℓ} {evs : List (κ × SessionInput)}
  {st : ProcessState ℓ × (κ → Session GatewayHandlerRef)} {outs : List (κ × SessionEffect)} {k : κ}

/-! ## One step -/

/-- The reply of the admin server does not depend on what the sessions share. -/
theorem adminEvent_indep (d : Deployment ρ ℓ) (s s' : State ℓ) (a : AdminStream) (dir : ConfigDir) (ev : StreamEvent) :
    (d.plane.adminEvent s a dir ev).map Prod.snd = (d.plane.adminEvent s' a dir ev).map Prod.snd := by
  cases ev with
  | onBody body => rfl
  | onUpgrade prot => rfl
  | onEOM =>
      simp only [Plane.adminEvent, Plane.adminEOM, plane, AdminHandler.reload]
      cases a.handler.requestHeaders with
      | none => rfl
      | some headers =>
          simp only [Option.bind_eq_bind, Option.bind_some]
          split
          · rfl
          · split
            · cases loadFromDirectory d.parseJson dir <;> rfl
            · rfl

/-- What a step does to its session, and what it outputs, depends on what the sessions
share only through the answer of the rate-limit store for the key of its own request. -/
theorem step_congr {s s' : State ℓ} (p : Session GatewayHandler) {i : SessionInput}
    (h : ∀ key ∈ i.quotaKeys,
      (d.limiter.checkAndDecrement s.limiter key).2 = (d.limiter.checkAndDecrement s'.limiter key).2) :
    (d.plane.sessions.step s p i).map Prod.snd = (d.plane.sessions.step s' p i).map Prod.snd := by
  cases p with
  | idle =>
      cases i with
      | request msg rand64 =>
          have hstore := h (RateLimitFilter.key msg) List.mem_cons_self
          have hserve : (d.factory.onRequest d.platform msg).serving.step (d.env s.limiter rand64)
              GatewayHandler.machine (.onRequest msg) =
                (d.factory.onRequest d.platform msg).serving.step (d.env s'.limiter rand64)
                  GatewayHandler.machine (.onRequest msg) := by
            apply Serving.step_request_congr
            · rfl
            · rfl
            · exact hstore
          simp only [Plane.sessions, Plane.step, plane, Option.bind_eq_bind, Option.bind_some, hserve,
            Option.map_bind, Function.comp_def]
          rfl
      | _ => rfl
  | stream st =>
      cases i with
      | event ev =>
          simp only [Plane.sessions, Plane.step, Option.bind_eq_bind]
          split
          · have hserve := Serving.step_stream_congr (T := GatewayHandler.machine) (d.env s'.limiter (0, 0))
              (d.env s.limiter (0, 0)) st.serving ev
            simp only [plane, hserve, Option.map_bind]
            rfl
          · rfl
      | onError =>
          simp only [Plane.sessions, Plane.step]
          split <;> rfl
      | requestComplete =>
          simp only [Plane.sessions, Plane.step]
          split <;> rfl
      | upstream cb =>
          simp only [Plane.sessions, Plane.step, Option.bind_eq_bind, Option.map_bind, Function.comp_def,
            apply_ite (Option.map Prod.snd), Option.map_none]
          rfl
      | _ => rfl
  | admin a =>
      cases i with
      | adminEvent ev dir =>
          simp only [Plane.sessions, Plane.step]
          split
          · have hnext := congrArg (Option.map fun x : AdminStream × Option Response =>
                ((.admin x.1, x.2.toList.flatMap fun r => r.served.map .served) :
                  Session GatewayHandler × List SessionEffect))
              (d.adminEvent_indep s s' a dir ev)
            rw [Option.map_map, Option.map_map] at hnext ⊢
            exact hnext
          · rfl
      | onError =>
          simp only [Plane.sessions, Plane.step]
          split <;> rfl
      | requestComplete =>
          simp only [Plane.sessions, Plane.step]
          split <;> rfl
      | _ => rfl

/-! ## A session alone -/

/-- **Isolation.**  With a rate-limit store that keeps nothing, as `NullRateLimitStore`,
every session gives in every run exactly the outputs it gives alone in a process that
has just been started.  Neither the other sessions nor any reload of the configuration
can be seen in it. -/
theorem session_alone {d : Deployment ρ Unit} {st : ProcessState Unit × (κ → Session GatewayHandlerRef)}
    (hrun : d.run () evs = some (st, outs)) (k : κ) :
    ∃ st₁, d.run () ((inputsOf k evs).map (Prod.mk k)) = some (st₁, (inputsOf k outs).map (Prod.mk k)) := by
  obtain ⟨s₀, factory, st', h⟩ := exists_valueRun hrun
  obtain ⟨s', halone⟩ := Sessions.run_alone (fun s s' p i => step_congr p fun _ _ => rfl) h.values (d.start ()) k
  exact exists_run_of_values halone

theorem request_alone :
    ∃ st₁, Sample.deployment.run ()
        [(true, .request Sample.getRoot (0, 0)), (true, .event .onEOM), (true, .onError)] =
      some (st₁, (inputsOf true Sample.abandonedRun.2).map (Prod.mk true)) :=
  session_alone Sample.run_abandoned true

end Deployment

/-! ## A counter for each key -/

namespace Limiter

variable {ℓ : Type}

/-- Two states of a rate-limit store give the same answers for the keys of `K`, whatever
it has been asked for these meanwhile. -/
def Agree (limiter : Limiter ℓ) (K : RateLimitKey → Prop) (l l' : ℓ) : Prop :=
  ∀ keys, (∀ key ∈ keys, K key) → ∀ key, K key →
    (limiter.checkAndDecrement (limiter.charge l keys) key).2 =
      (limiter.checkAndDecrement (limiter.charge l' keys) key).2

/-- The store counts for each key by itself: a call does not show in the answers for
other keys. -/
def PerKey (limiter : Limiter ℓ) : Prop := ∀ l key, limiter.Agree (· ≠ key) (limiter.charge l [key]) l

variable {limiter : Limiter ℓ} {K : RateLimitKey → Prop} {l l' l'' : ℓ}

theorem Agree.trans (h : limiter.Agree K l l') (h' : limiter.Agree K l' l'') : limiter.Agree K l l'' :=
  fun keys hkeys key hkey => (h keys hkeys key hkey).trans (h' keys hkeys key hkey)

/-- Calls for the keys of `K` on both sides. -/
theorem Agree.charge (h : limiter.Agree K l l') {keys : List RateLimitKey} (hkeys : ∀ key ∈ keys, K key) :
    limiter.Agree K (limiter.charge l keys) (limiter.charge l' keys) := by
  intro more hmore key hkey
  rw [← charge_append, ← charge_append]
  refine h (keys ++ more) ?_ key hkey
  intro key' hkey'
  rcases List.mem_append.mp hkey' with hfirst | hlater
  · exact hkeys key' hfirst
  · exact hmore key' hlater

/-- Calls for other keys on one side. -/
theorem PerKey.agree_charge (hlimiter : limiter.PerKey) (l : ℓ) {keys : List RateLimitKey}
    (hkeys : ∀ key ∈ keys, ¬ K key) : limiter.Agree K (limiter.charge l keys) l := by
  induction keys generalizing l with
  | nil => exact fun _ _ _ _ => rfl
  | cons key keys ih =>
      have hother : ∀ key', K key' → key' ≠ key := by
        rintro key' hkey' rfl
        exact hkeys key' List.mem_cons_self hkey'
      have hone : limiter.Agree K (limiter.charge l [key]) l := by
        intro more hmore key' hkey'
        exact hlimiter l key more (fun key'' hmem => hother key'' (hmore key'' hmem)) key' (hother key' hkey')
      have hrest := ih (limiter.charge l [key]) fun key' hmem => hkeys key' (List.mem_cons_of_mem _ hmem)
      exact hrest.trans hone

end Limiter

namespace Sample

/-- A rate-limit store that allows one request for each key; its state is the list of the
keys it was asked for. -/
def oncePerKey : Limiter (List RateLimitKey) :=
  ⟨fun asked key => (key :: asked, .ok (decide (key ∉ asked)))⟩

theorem charge_oncePerKey (asked keys : List RateLimitKey) :
    oncePerKey.charge asked keys = keys.reverse ++ asked := by
  induction keys generalizing asked with
  | nil => rfl
  | cons key keys ih =>
      change oncePerKey.charge (key :: asked) keys = _
      rw [ih, List.reverse_cons, List.append_assoc, List.singleton_append]

theorem oncePerKey_perKey : oncePerKey.PerKey := by
  intro asked key keys _ key' hne
  rw [charge_oncePerKey, charge_oncePerKey, charge_oncePerKey]
  simp [oncePerKey, hne]

/-- The deployment with this store. -/
def oncePerTenant : Deployment Unit (List RateLimitKey) where
  platform := platformKnowing [str "a"]
  jwt := env.jwt
  limiter := oncePerKey
  parseJson := parsePolicy
  store := svcStore
  jwksCaches := ∅

/-- A request of a tenant. -/
def requestOf (tenant : String) : HTTPMessage :=
  { getRoot with headers := [(str "x-tenant-id", str tenant)] }

/-- Two requests of one tenant, with a request of another one between them. -/
def twoTenants : List (Fin 3 × SessionInput) :=
  [(0, .request (requestOf "a") (0, 0)), (1, .request (requestOf "b") (0, 0)),
    (2, .request (requestOf "a") (0, 0)), (0, .event .onEOM)]

theorem twoTenants_isSome : (oncePerTenant.run [] twoTenants).isSome = true := by decide +kernel

/-- What the run comes to. -/
def twoTenantsRun := (oncePerTenant.run [] twoTenants).get twoTenants_isSome

theorem run_twoTenants : oncePerTenant.run [] twoTenants = some (twoTenantsRun.1, twoTenantsRun.2) :=
  (Option.some_get twoTenants_isSome).symm

end Sample

namespace Deployment

variable {ρ ℓ κ : Type} [DecidableEq κ] {d : Deployment ρ ℓ} {l : ℓ} {evs : List (κ × SessionInput)}
  {st : ProcessState ℓ × (κ → Session GatewayHandlerRef)} {outs : List (κ × SessionEffect)} {k : κ}

/-- Sessions can be left out of a run if no call they make of the rate-limit store shows
in its answers for the keys `K` of the others. -/
theorem exists_run_without {K : RateLimitKey → Prop} (hrun : d.run l evs = some (st, outs)) (P : κ → Bool)
    (hstay : ∀ ev ∈ evs, P ev.1 = true → ∀ key ∈ ev.2.quotaKeys, K key)
    (hleave : ∀ ev ∈ evs, P ev.1 = false → ∀ l keys, keys.Sublist ev.2.quotaKeys →
      d.limiter.Agree K (d.limiter.charge l keys) l) :
    ∃ st', d.run l (evs.filter fun ev => P ev.1) = some (st', outs.filter fun out => P out.1) := by
  obtain ⟨s₀, factory, st', h⟩ := exists_valueRun hrun
  have hkept : ∀ (s s' : State ℓ) p i s₁ p₁ out, (∀ key ∈ i.quotaKeys, K key) →
      d.limiter.Agree K s.limiter s'.limiter → d.plane.sessions.step s p i = some (s₁, p₁, out) →
      ∃ s₁', d.plane.sessions.step s' p i = some (s₁', p₁, out) ∧ d.limiter.Agree K s₁.limiter s₁'.limiter := by
    intro s s' p i s₁ p₁ out hown hagree hstep
    have hsame := step_congr (d := d) p fun key hkey => hagree [] (by simp) key (hown key hkey)
    rw [hstep, Option.map_some] at hsame
    obtain ⟨⟨s₁', next⟩, hother, rfl⟩ := Option.map_eq_some_iff.mp hsame.symm
    obtain ⟨hcharged, hcalls⟩ := limiter_step (Plane.moves_of_step hstep)
    obtain ⟨hcharged', -⟩ := limiter_step (Plane.moves_of_step hother)
    refine ⟨s₁', hother, ?_⟩
    rw [hcharged, hcharged']
    exact hagree.charge fun key hkey => hown key (hcalls.subset hkey)
  have hleft : ∀ (s s' : State ℓ) p i s₁ p₁ out,
      (∀ l keys, keys.Sublist i.quotaKeys → d.limiter.Agree K (d.limiter.charge l keys) l) →
      d.limiter.Agree K s.limiter s'.limiter → d.plane.sessions.step s p i = some (s₁, p₁, out) →
      d.limiter.Agree K s₁.limiter s'.limiter := by
    intro s s' p i s₁ p₁ out hother hagree hstep
    obtain ⟨hcharged, hcalls⟩ := limiter_step (Plane.moves_of_step hstep)
    rw [hcharged]
    exact (hother s.limiter _ hcalls).trans hagree
  have hevs : ∀ k i, (k, i) ∈ evs → if P k then ∀ key ∈ i.quotaKeys, K key
      else ∀ l keys, keys.Sublist i.quotaKeys → d.limiter.Agree K (d.limiter.charge l keys) l := by
    intro k i hmem
    cases hk : P k with
    | true =>
        rw [if_pos rfl]
        exact hstay (k, i) hmem hk
    | false =>
        rw [if_neg Bool.false_ne_true]
        exact hleave (k, i) hmem hk
  obtain ⟨s', sessions', hselected, -⟩ := Sessions.run_select hkept hleft hevs h.values
    (s := d.start l) (fun _ _ _ _ => rfl) (fun _ _ => rfl)
  exact exists_run_of_values hselected

/-- **Reloads cannot be seen.**  Leave out of any run all sessions outside `P`, none of
which makes a request of the data plane: the sessions of the admin server, say, with all
their reloads.  The sessions that stay have exactly the outputs they had, whatever the
rate-limit store keeps. -/
theorem reloads_invisible (hrun : d.run l evs = some (st, outs)) (P : κ → Bool)
    (hadmin : ∀ ev ∈ evs, P ev.1 = false → ∀ msg rand64, ev.2 ≠ .request msg rand64) :
    ∃ st', d.run l (evs.filter fun ev => P ev.1) = some (st', outs.filter fun out => P out.1) := by
  refine exists_run_without (K := fun _ => True) hrun P (fun _ _ _ _ _ => trivial) ?_
  intro ev hmem hleave l keys hkeys
  have hnone : ev.2.quotaKeys = [] := by
    cases hi : ev.2 with
    | request msg rand64 => exact absurd hi (hadmin ev hmem hleave msg rand64)
    | _ => rfl
  rw [hnone, List.sublist_nil] at hkeys
  rw [hkeys]
  exact fun _ _ _ _ => rfl

/-- The abandoned request without the reload beside it. -/
theorem abandoned_without_reload :
    ∃ st', Sample.deployment.run ()
        [(true, .request Sample.getRoot (0, 0)), (true, .event .onEOM), (true, .onError)] =
      some (st', Sample.abandonedRun.2.filter fun out => out.1) :=
  reloads_invisible Sample.run_abandoned (fun k => k) (by simp [Sample.abandoned])

/-- **Tenants are isolated.**  Take any run with a rate-limit store that counts for each
key by itself, and leave out of it all sessions outside `P`, reloads included.  If none of
the requests left out has the quota key of one that stays, then the sessions that stay
have exactly the outputs they had. -/
theorem quota_isolation (hlimiter : d.limiter.PerKey) (hrun : d.run l evs = some (st, outs)) (P : κ → Bool)
    (hkeys : ∀ ev ∈ evs, ∀ ev' ∈ evs, P ev.1 = true → P ev'.1 = false →
      ∀ key ∈ ev.2.quotaKeys, key ∉ ev'.2.quotaKeys) :
    ∃ st', d.run l (evs.filter fun ev => P ev.1) = some (st', outs.filter fun out => P out.1) := by
  -- the keys of the sessions that stay
  let K : RateLimitKey → Prop := fun key => ∃ ev ∈ evs, P ev.1 = true ∧ key ∈ ev.2.quotaKeys
  have hstay : ∀ ev ∈ evs, P ev.1 = true → ∀ key ∈ ev.2.quotaKeys, K key :=
    fun ev hmem hev key hkey => ⟨ev, hmem, hev, hkey⟩
  refine exists_run_without hrun P hstay ?_
  intro ev' hmem' hleave l keys hsub
  refine hlimiter.agree_charge l ?_
  rintro key hkey ⟨ev, hmem, hev, hown⟩
  exact hkeys ev hmem ev' hmem' hev hleave key hown (hsub.subset hkey)

/-- The second request of a tenant is refused with and without that of the other one. -/
theorem tenant_isolated :
    ∃ st', Sample.oncePerTenant.run [] [((0 : Fin 3), .request (Sample.requestOf "a") (0, 0)),
        (2, .request (Sample.requestOf "a") (0, 0)), (0, .event .onEOM)] =
      some (st', Sample.twoTenantsRun.2.filter fun out => decide (out.1 ≠ 1)) := by
  refine quota_isolation Sample.oncePerKey_perKey Sample.run_twoTenants (fun k => decide (k ≠ 1)) ?_
  decide +kernel

end Deployment

end Kimchi
