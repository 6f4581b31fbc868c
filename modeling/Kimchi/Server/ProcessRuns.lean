import Kimchi.Handler.ContactedTarget
import Kimchi.Server.StorePointers
import Kimchi.Server.StreamTrace

/-!
# Whole runs of the process

`Deployment.run` is a run of `main` after start-up: the callbacks of any number of
sessions, in any order, over the pointers of `StorePointers`.  `exists_valueRun` gives
the run over values that it follows; the results about the process are read off there.

* `undefined_iff_lateRelay` — the one way in which the process becomes undefined.
* `stores_alive`, `clients_freed` — which stores and which upstream clients are in
  memory.
-/

namespace Kimchi

open Config Library

/-! ## Related sessions -/

section Related

variable {τ τ' : Type} {R : τ → τ' → Prop} {p : Session τ} {p' : Session τ'} {i : SessionInput}

/-- The contract of proxygen does not look at the handler. -/
theorem Session.Rel.allows (h : Session.Rel R p p') (hallows : p.Allows i) : p'.Allows i := by
  cases h with
  | idle =>
      cases hallows with
      | request msg rand64 => exact .request msg rand64
      | adminRequest msg => exact .adminRequest msg
  | stream hst =>
      cases hallows with
      | event st ev hclient => exact .event _ ev (hst.client ▸ hclient)
      | onError st hclient => exact .onError _ (hst.client ▸ hclient)
      | requestComplete st hclient hended =>
          exact .requestComplete _ (hst.client ▸ hclient) (hst.responseEnded ▸ hended)
      | upstream st cb phase c phase' hexchange hnext =>
          exact .upstream _ cb phase c phase' (hst.exchange ▸ hexchange) hnext
  | admin a =>
      cases hallows with
      | adminEvent _ ev dir hclient => exact .adminEvent a ev dir hclient
      | adminError _ hclient => exact .adminError a hclient
      | adminComplete _ hclient hended => exact .adminComplete a hclient hended

theorem Session.Rel.lateRelay_iff (h : Session.Rel R p p') : p.LateRelay i ↔ p'.LateRelay i := by
  cases h with
  | idle => constructor <;> (intro hlate; cases hlate)
  | admin a => constructor <;> (intro hlate; cases hlate)
  | stream hst =>
      constructor
      · intro hlate
        cases hlate with
        | intro st cb phase c hexchange hfinished hrelays =>
            exact .intro _ cb phase c (hst.exchange ▸ hexchange) (hst.client ▸ hfinished) hrelays
      · intro hlate
        cases hlate with
        | intro st cb phase c hexchange hfinished hrelays =>
            exact .intro _ cb phase c (hst.exchange ▸ hexchange) (hst.client ▸ hfinished) hrelays

end Related

namespace Deployment

variable {ρ ℓ κ : Type} [DecidableEq κ] {d : Deployment ρ ℓ} {l : ℓ} {evs : List (κ × SessionInput)}
  {st : ProcessState ℓ × (κ → Session GatewayHandlerRef)} {outs : List (κ × SessionEffect)} {k : κ}
  {i : SessionInput}

/-! ## Runs -/

/-- The process from its start, on the callbacks of its sessions in the order in which
they happen. -/
def run (d : Deployment ρ ℓ) (l : ℓ) (evs : List (κ × SessionInput)) :
    Option ((ProcessState ℓ × (κ → Session GatewayHandlerRef)) × List (κ × SessionEffect)) :=
  (d.boot l).bind fun (s, factory) => (d.process factory).sessions.run (s, fun _ => .idle) evs

/-- A run, and the run over values that it follows. -/
structure ValueRun (d : Deployment ρ ℓ) (l : ℓ) (evs : List (κ × SessionInput))
    (st : ProcessState ℓ × (κ → Session GatewayHandlerRef)) (outs : List (κ × SessionEffect))
    (s₀ : ProcessState ℓ) (factory : FactoryRef ρ) (st' : State ℓ × (κ → Session GatewayHandler)) : Prop where
  boot : d.boot l = some (s₀, factory)
  built : d.Built factory
  run : (d.process factory).sessions.run (s₀, fun _ => .idle) evs = some (st, outs)
  values : d.plane.sessions.run (d.start l, fun _ => .idle) evs = some (st', outs)
  shared : d.Holds factory st.1 st'.1
  sessions : ∀ k, Session.Rel (d.PointsTo factory) (st.2 k) (st'.2 k)

theorem exists_valueRun (hrun : d.run l evs = some (st, outs)) :
    ∃ s₀ factory st', d.ValueRun l evs st outs s₀ factory st' := by
  obtain ⟨s₀, factory, hboot, hbuilt, hholds⟩ := d.exists_boot l
  rw [run, hboot] at hrun
  have hrel := (process_refines hbuilt).run_rel hholds evs
  change (d.process factory).sessions.run (s₀, fun _ => .idle) evs = some (st, outs) at hrun
  rw [hrun] at hrel
  generalize hvalues : d.plane.sessions.run (d.start l, fun _ => .idle) evs = result at hrel
  cases hrel with
  | @some _ y hxy =>
      obtain ⟨st', outs'⟩ := y
      obtain ⟨hshared, hsessions, houts⟩ := hxy
      obtain rfl : outs = outs' := houts
      exact ⟨s₀, factory, st', hboot, hbuilt, hrun, hvalues, hshared, hsessions⟩

/-- The process has the outputs of the run over values, and is undefined where that
is. -/
theorem run_outputs (d : Deployment ρ ℓ) (l : ℓ) (evs : List (κ × SessionInput)) :
    (d.run l evs).map Prod.snd = (d.plane.sessions.run (d.start l, fun _ => .idle) evs).map Prod.snd := by
  obtain ⟨s₀, factory, hboot, hbuilt, hholds⟩ := d.exists_boot l
  rw [run, hboot, Option.bind_some]
  exact optionRel_map_eq ((process_refines hbuilt).run_rel hholds evs) fun x y hxy => hxy.2.2

/-- Every run over values is followed by a run of the process. -/
theorem exists_run_of_values {st' : State ℓ × (κ → Session GatewayHandler)}
    (hvalues : d.plane.sessions.run (d.start l, fun _ => .idle) evs = some (st', outs)) :
    ∃ st, d.run l evs = some (st, outs) := by
  have houtputs := d.run_outputs l evs
  rw [hvalues, Option.map_some] at houtputs
  obtain ⟨⟨st, outs'⟩, hrun, rfl⟩ := Option.map_eq_some_iff.mp houtputs
  exact ⟨st, hrun⟩

/-- One callback more. -/
theorem ValueRun.run_concat {s₀ : ProcessState ℓ} {factory : FactoryRef ρ}
    {st' : State ℓ × (κ → Session GatewayHandler)} (h : d.ValueRun l evs st outs s₀ factory st') (k : κ)
    (i : SessionInput) :
    d.run l (evs ++ [(k, i)]) =
      ((d.process factory).step st.1 (st.2 k) i).map fun (s, p, out) =>
        ((s, Function.update st.2 k p), outs ++ out.map (Prod.mk k)) := by
  rw [Deployment.run, h.boot]
  exact Sessions.run_concat h.run k i

/-- The trace of a session of the run over values. -/
theorem ValueRun.exists_trace {s₀ : ProcessState ℓ} {factory : FactoryRef ρ}
    {st' : State ℓ × (κ → Session GatewayHandler)} (h : d.ValueRun l evs st outs s₀ factory st') (k : κ) :
    ∃ met, met.map Prod.snd = inputsOf k evs ∧ d.SessionTrace met (st'.2 k) (inputsOf k outs) :=
  exists_sessionTrace .idle h.values

/-- A session that has met a request: the decision on it, and the trace of its stream. -/
theorem exists_streamTrace (hrun : d.run l evs = some (st, outs)) {msg : HTTPMessage} {rand64 : UInt64 × UInt64}
    {later : List SessionInput} (hinputs : inputsOf k evs = .request msg rand64 :: later) :
    ∃ limiter keys decision stream trace,
      Decides d.platform.re d.platform.dns d.engine (d.env limiter rand64) msg keys decision ∧
      StreamTrace later decision stream trace ∧ inputsOf k outs = checkEffects keys ++ trace := by
  obtain ⟨s₀, factory, st', h⟩ := exists_valueRun hrun
  obtain ⟨met, hmet, htrace⟩ := h.exists_trace k
  rw [hinputs] at hmet
  obtain ⟨⟨s, i⟩, met', rfl, rfl, rfl⟩ := List.map_eq_cons_iff.mp hmet
  obtain ⟨keys, decision, stream, trace, -, hdecides, hstream, houts⟩ := htrace.of_request
  exact ⟨s.limiter, keys, decision, stream, trace, hdecides, hstream, houts⟩

end Deployment

namespace Sample

/-- One router to a service whose first target resolves, and no quota. -/
def deployment : Deployment Unit Unit where
  platform := platformKnowing [str "a"]
  jwt := env.jwt
  limiter := .null
  parseJson := parsePolicy
  store := svcStore
  jwksCaches := ∅

/-- A request is forwarded, the configuration is reloaded meanwhile, and the client of
the request goes away before the upstream has connected. -/
def abandoned : List (Bool × SessionInput) :=
  [(true, .request getRoot (0, 0)), (false, .adminRequest reloadRequest), (true, .event .onEOM),
    (false, .adminEvent .onEOM .missing), (true, .onError)]

theorem abandoned_isSome : (deployment.run () abandoned).isSome = true := by decide +kernel

/-- What the run comes to. -/
def abandonedRun := (deployment.run () abandoned).get abandoned_isSome

theorem run_abandoned : deployment.run () abandoned = some (abandonedRun.1, abandonedRun.2) :=
  (Option.some_get abandoned_isSome).symm

end Sample

namespace Deployment

variable {ρ ℓ κ : Type} [DecidableEq κ] {d : Deployment ρ ℓ} {l : ℓ} {evs : List (κ × SessionInput)}
  {st : ProcessState ℓ × (κ → Session GatewayHandlerRef)} {outs : List (κ × SessionEffect)} {k : κ}
  {i : SessionInput}

/-! ## The process becomes undefined in one way -/

/-- **The only undefined callback.**  After every run, a callback that proxygen may
deliver is undefined exactly when an upstream client relays something to a chain that
has been deleted.  No read through a service pointer, no index into a vector and no
callback on a deleted client is ever undefined, whatever was reloaded meanwhile. -/
theorem undefined_iff_lateRelay (hrun : d.run l evs = some (st, outs)) (hallows : (st.2 k).Allows i) :
    d.run l (evs ++ [(k, i)]) = none ↔ (st.2 k).LateRelay i := by
  obtain ⟨s₀, factory, st', h⟩ := exists_valueRun hrun
  obtain ⟨met, -, htrace⟩ := h.exists_trace k
  have hsession := h.sessions k
  have hstep := (process_refines h.built).step_rel _ _ _ _ i h.shared hsession
  calc d.run l (evs ++ [(k, i)]) = none
      ↔ (d.process factory).step st.1 (st.2 k) i = none := by rw [h.run_concat, Option.map_eq_none_iff]
    _ ↔ d.plane.step st'.1 (st'.2 k) i = none := optionRel_eq_none_iff hstep
    _ ↔ (st'.2 k).LateRelay i := step_eq_none_iff htrace (hsession.allows hallows) st'.1
    _ ↔ (st.2 k).LateRelay i := hsession.lateRelay_iff.symm

/-- The upstream refuses the connection after the client has gone away. -/
theorem undefined_when_abandoned :
    Sample.deployment.run () (Sample.abandoned ++ [(true, .upstream .connectError)]) = none := by
  have hallows : (Sample.abandonedRun.1.2 true).Allows (.upstream .connectError) :=
    .upstream _ .connectError .connecting _ .gone rfl rfl
  have hlate : (Sample.abandonedRun.1.2 true).LateRelay (.upstream .connectError) :=
    .intro _ .connectError .connecting _ rfl rfl (by decide)
  exact (undefined_iff_lateRelay Sample.run_abandoned hallows).mpr hlate

/-! ## Stores in memory -/

/-- **No store leaks and none that is used is freed.**  After every run the addresses that
can be read are the one the factory was built with, where the configuration of start-up
still is, and the one that `current` holds.  They are one address until the first reload
that succeeds, and two from then on. -/
theorem stores_alive (hrun : d.run l evs = some (st, outs)) :
    ∃ s₀ factory, d.boot l = some (s₀, factory) ∧ st.1.heap.deref factory.store = some d.store ∧
      ∀ p, st.1.heap.deref p ≠ none ↔ p = factory.store ∨ p = st.1.current := by
  obtain ⟨s₀, factory, st', h⟩ := exists_valueRun hrun
  refine ⟨s₀, factory, h.boot, h.shared.store, ?_⟩
  intro p
  rw [h.shared.owned.alive_iff, h.built.engineStore]
  simp only [List.mem_cons, List.not_mem_nil, or_false, or_self]
  exact or_comm

/-- The store of start-up is read after a reload. -/
theorem stores_alive_reloaded :
    ∃ s₀ factory, Sample.deployment.boot () = some (s₀, factory) ∧
      Sample.abandonedRun.1.1.heap.deref factory.store = some Sample.svcStore ∧
      ∀ p, Sample.abandonedRun.1.1.heap.deref p ≠ none ↔
        p = factory.store ∨ p = Sample.abandonedRun.1.1.current :=
  stores_alive Sample.run_abandoned

/-! ## Upstream clients in memory -/

/-- **No upstream client leaks and none is freed early.**  The handler gives its client
away with `new` and never looks at it again; after every run the client of a session
has deleted itself exactly when proxygen has nothing more to call it for. -/
theorem clients_freed (hrun : d.run l evs = some (st, outs)) {stream : Stream GatewayHandlerRef}
    (hsession : st.2 k = .stream stream) {phase : UpstreamPhase} {c : UpstreamClient}
    (hexchange : stream.exchange = some (phase, c)) : c.deleted = true ↔ ∀ cb, phase.next cb = none := by
  obtain ⟨s₀, factory, st', h⟩ := exists_valueRun hrun
  obtain ⟨met, -, htrace⟩ := h.exists_trace k
  have hrel := h.sessions k
  rw [hsession] at hrel
  generalize st'.2 k = p at hrel htrace
  cases hrel with
  | stream hst =>
      rw [deleted_iff_gone htrace (hst.exchange ▸ hexchange)]
      exact UpstreamPhase.eq_gone_iff

/-- The client of the abandoned request waits for its connection. -/
theorem clients_freed_abandoned :
    ∃ stream c, Sample.abandonedRun.1.2 true = .stream stream ∧ stream.exchange = some (.connecting, c) ∧
      (c.deleted = true ↔ ∀ cb, UpstreamPhase.connecting.next cb = none) :=
  ⟨_, _, rfl, rfl, clients_freed Sample.run_abandoned (k := true) rfl rfl⟩

end Deployment

end Kimchi
