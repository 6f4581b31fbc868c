import Kimchi.Server.SessionOutputs

/-!
# Requests that hang

A session is stuck when the contract of proxygen leaves nothing that can happen in it
but that its client gives up.  The gateway has no timer of its own on a request, so a
stuck request stays until then.

`Lifecycle` relates the state of a stream to its inputs and outputs: whether its
response has ended and whether it is finished.  With the trace of the session this
gives `stuck_iff`: a request is stuck exactly when its upstream has gone away without an
end of the response, after the connect and without an error before the headers.
-/

namespace Kimchi

open Config Library

/-- Nothing can happen any more but that the client gives up. -/
def Session.Stuck {τ : Type} (p : Session τ) : Prop := p.Allows .onError ∧ ∀ i, p.Allows i → i = .onError

/-- A stream is stuck when it waits for a response that does not end any more. -/
theorem Session.stuck_stream_iff {τ : Type} {st : Stream τ} :
    (Session.stream st).Stuck ↔
      st.client = .waiting ∧ st.responseEnded = false ∧ ∀ phase c, st.exchange = some (phase, c) → phase = .gone := by
  constructor
  · intro h
    obtain ⟨hthere, honly⟩ := h
    cases hthere with
    | onError _ hclient =>
        refine ⟨?_, ?_, ?_⟩
        · cases hphase : st.client with
          | waiting => rfl
          | finished => exact absurd hphase hclient
          | receiving => cases honly (.event .onEOM) (.event st .onEOM hphase)
        · by_contra hended
          cases hphase : st.client with
          | finished => exact hclient hphase
          | receiving => cases honly (.event .onEOM) (.event st .onEOM hphase)
          | waiting =>
              cases honly .requestComplete (.requestComplete st hphase (Bool.eq_true_of_not_eq_false hended))
        · intro phase c hexchange
          by_contra hgone
          obtain ⟨cb, phase', hnext⟩ := UpstreamPhase.exists_next hgone
          cases honly (.upstream cb) (.upstream st cb phase c phase' hexchange hnext)
  · intro h
    obtain ⟨hwaiting, hended, hgone⟩ := h
    refine ⟨.onError st (by simp [hwaiting]), ?_⟩
    intro i hallows
    cases hallows with
    | event _ ev hclient =>
        rw [hwaiting] at hclient
        cases hclient
    | onError => rfl
    | requestComplete _ _ hcomplete =>
        rw [hended] at hcomplete
        cases hcomplete
    | upstream _ cb phase c phase' hexchange hnext =>
        rw [hgone phase c hexchange, UpstreamPhase.next_gone] at hnext
        cases hnext

/-! ## The lifecycle of a stream -/

/-- The client side of a stream, given the inputs after its request and all outputs. -/
structure Lifecycle {τ : Type} (later : List SessionInput) (st : Stream τ) (outs : List SessionEffect) : Prop where
  ended : st.responseEnded = (respondCalls outs).any ResponseCall.isEnd
  finished : st.client = .finished ↔ .onError ∈ later ∨ .requestComplete ∈ later
  complete : .requestComplete ∈ later → st.responseEnded = true

/-- The same for a session in any state. -/
def Session.HasLifecycle {τ : Type} (is : List SessionInput) : Session τ → List SessionEffect → Prop
  | .idle, outs => is = [] ∧ outs = []
  | .stream st, outs => ∃ first later, is = first :: later ∧ Lifecycle later st outs
  | .admin _, _ => True

theorem endsResponse_eq (effects : List ServedEffect) :
    endsResponse effects = (respondCalls (effects.map .served)).any ResponseCall.isEnd := by
  rw [endsResponse, respondCalls, List.filterMap_map, List.any_filterMap]
  congr 1
  funext effect
  cases effect <;> rfl

theorem any_isEnd_append (outs out : List SessionEffect) :
    (respondCalls (outs ++ out)).any ResponseCall.isEnd =
      ((respondCalls outs).any ResponseCall.isEnd || (respondCalls out).any ResponseCall.isEnd) := by
  rw [respondCalls_append, List.any_append]

/-- Step lemma. -/
theorem Session.hasLifecycle_step {σ τ : Type} {plane : Plane σ τ} {s s' : σ} {p p' : Session τ} {i : SessionInput}
    {is : List SessionInput} {outs out : List SessionEffect} (h : p.HasLifecycle is outs)
    (hmoves : plane.Moves s p i s' p' out) : p'.HasLifecycle (is ++ [i]) (outs ++ out) := by
  cases hmoves with
  | request msg rand64 handler serving effects hdispatch hserve =>
      obtain ⟨rfl, rfl⟩ := h
      refine ⟨.request msg rand64, [], rfl, ?_, ?_, ?_⟩
      · show (false || endsResponse effects) = _
        rw [Bool.false_or, List.nil_append, endsResponse_eq]
      · simp [Stream.absorb]
      · simp
  | event st ev serving effects hclient hserve =>
      obtain ⟨first, later, rfl, hlife⟩ := h
      refine ⟨first, later ++ [.event ev], rfl, ?_, ?_, ?_⟩
      · show (st.responseEnded || endsResponse effects) = _
        rw [any_isEnd_append, hlife.ended, endsResponse_eq]
      · have hbefore := hlife.finished
        rw [hclient] at hbefore
        have hafter : ((st.absorb serving effects).afterEvent ev).client ≠ .finished := by
          show (if ev = .onEOM then ClientPhase.waiting else .receiving) ≠ .finished
          split <;> simp
        simpa [hafter] using hbefore
      · intro hcomplete
        have hbefore := hlife.complete (by simpa using hcomplete)
        show (st.responseEnded || endsResponse effects) = true
        rw [hbefore, Bool.true_or]
  | onError st hclient =>
      obtain ⟨first, later, rfl, hlife⟩ := h
      refine ⟨first, later ++ [.onError], rfl, ?_, ?_, ?_⟩
      · rw [List.append_nil]
        exact hlife.ended
      · simp [Stream.finish]
      · intro hcomplete
        exact hlife.complete (by simpa using hcomplete)
  | requestComplete st hclient hended =>
      obtain ⟨first, later, rfl, hlife⟩ := h
      refine ⟨first, later ++ [.requestComplete], rfl, ?_, ?_, ?_⟩
      · rw [List.append_nil]
        exact hlife.ended
      · simp [Stream.finish]
      · intro _
        exact hended
  | upstream st cb phase c phase' hexchange hnext halive hquiet =>
      obtain ⟨first, later, rfl, hlife⟩ := h
      refine ⟨first, later ++ [.upstream cb], rfl, ?_, ?_, ?_⟩
      · show (st.responseEnded || (c.relayed cb).any ResponseCall.isEnd) = _
        rw [any_isEnd_append, hlife.ended, respondCalls_upstream]
        rfl
      · have hbefore := hlife.finished
        simpa [Stream.relay] using hbefore
      · intro hcomplete
        have hbefore := hlife.complete (by simpa using hcomplete)
        show (st.responseEnded || (c.relayed cb).any ResponseCall.isEnd) = true
        rw [hbefore, Bool.true_or]
  | adminRequest | adminEvent | adminError | adminComplete => trivial

/-- Run lemma: every session of every run has its lifecycle. -/
theorem Session.hasLifecycle_run {σ τ κ : Type} [DecidableEq κ] {plane : Plane σ τ} {s : σ}
    {st : σ × (κ → Session τ)} {evs : List (κ × SessionInput)} {outs : List (κ × SessionEffect)}
    (hrun : plane.sessions.run (s, fun _ => .idle) evs = some (st, outs)) (k : κ) :
    (st.2 k).HasLifecycle (inputsOf k evs) (inputsOf k outs) := by
  have hstep : ∀ is p outs s i s' p' out, Session.HasLifecycle is p outs →
      plane.sessions.step s p i = some (s', p', out) → Session.HasLifecycle (is ++ [i]) p' (outs ++ out) := by
    intro is p outs s i s' p' out h hone
    exact Session.hasLifecycle_step h (Plane.moves_of_step hone)
  have hstart : (Session.idle : Session τ).HasLifecycle [] [] := ⟨rfl, rfl⟩
  exact Sessions.run_session _ hstep [] hstart hrun

/-! ## Stuck requests -/

/-- The client waits, and its upstream is gone without having ended the response. -/
structure LostResponse (later : List SessionInput) : Prop where
  clientThere : .onError ∉ later
  notUpgraded : ∀ prot, .event (.onUpgrade prot) ∉ later
  gone : follow UpstreamPhase.next .connecting (upstreamCallbacks later) = some .gone
  connected : .connectError ∉ upstreamCallbacks later
  notEnded : .onEOM ∉ upstreamCallbacks later
  noEarlyError : earlyErrors (upstreamCallbacks later) = 0

theorem any_isEnd_eq_false_iff (calls : List ResponseCall) :
    calls.any ResponseCall.isEnd = false ↔ endMarkers calls = 0 := by
  rw [endMarkers, List.countP_eq_zero, List.any_eq_false]

/-- The replies to upgrades end the response. -/
theorem any_isEnd_upgradeReplies_eq_false_iff (is : List SessionInput) :
    (respondCalls (upgradeReplies is)).any ResponseCall.isEnd = false ↔ ∀ prot, .event (.onUpgrade prot) ∉ is := by
  constructor
  · intro hnone prot hmem
    have hreply : .served (.respond .sendEOM) ∈ upgradeReplies is := by
      refine List.mem_flatMap.mpr ⟨.event (.onUpgrade prot), hmem, ?_⟩
      simp [Response.served, Response.sendWithEOM]
    have hcall : ResponseCall.sendEOM ∈ respondCalls (upgradeReplies is) :=
      List.mem_filterMap.mpr ⟨_, hreply, rfl⟩
    exact List.any_eq_false.mp hnone _ hcall rfl
  · intro h
    rw [upgradeReplies_eq_nil h]
    rfl

/-- The response of a forwarded request has not ended. -/
theorem not_ended_iff {client : UpstreamClient} (hfresh : client.headersSent = false) {addr : SocketAddress}
    {keys : List RateLimitKey} {later : List SessionInput} :
    (respondCalls (checkEffects keys ++ (upgradeReplies later ++ .served (.connect addr client) ::
        (UpstreamClient.machine.outputs client (upstreamCallbacks later)).map UpstreamOutput.effect))).any
          ResponseCall.isEnd = false ↔
      (∀ prot, .event (.onUpgrade prot) ∉ later) ∧ .connectError ∉ upstreamCallbacks later ∧
        .onEOM ∉ upstreamCallbacks later ∧ earlyErrors (upstreamCallbacks later) = 0 := by
  have hcalls : respondCalls (.served (.connect addr client) ::
      (UpstreamClient.machine.outputs client (upstreamCallbacks later)).map UpstreamOutput.effect) =
        client.responseCalls (upstreamCallbacks later) := respondCalls_upstream _
  have hmarkers := UpstreamClient.endMarkers_responseCalls client (upstreamCallbacks later)
  rw [hfresh, if_neg Bool.false_ne_true] at hmarkers
  rw [respondCalls_append, respondCalls_checkEffects, List.nil_append, any_isEnd_append, hcalls, Bool.or_eq_false_iff,
    any_isEnd_upgradeReplies_eq_false_iff, any_isEnd_eq_false_iff, hmarkers, ← List.count_eq_zero,
    ← List.count_eq_zero]
  constructor
  · intro h
    obtain ⟨hupgrade, hzero⟩ := h
    exact ⟨hupgrade, by omega, by omega, by omega⟩
  · intro h
    obtain ⟨hupgrade, hconnect, heom, hearly⟩ := h
    exact ⟨hupgrade, by omega⟩

/-- A stream is stuck exactly when its response is lost. -/
theorem StreamTrace.stuck_iff {later : List SessionInput} {decision : Decision} {stream : Stream GatewayHandler}
    {keys : List RateLimitKey} {trace : List SessionEffect} (h : StreamTrace later decision stream trace)
    (hlife : Lifecycle later stream (checkEffects keys ++ trace)) :
    (Session.stream stream).Stuck ↔ LostResponse later := by
  rw [Session.stuck_stream_iff]
  cases h with
  | answered response stream hclosed hcallbacks hexchange =>
      -- the answer has ended the response
      refine iff_of_false ?_ ?_
      · intro hstuck
        have hended := hlife.ended
        rw [hstuck.2.1, respondCalls_append, respondCalls_checkEffects, List.nil_append, respondCalls_reply] at hended
        simp [Response.sendWithEOM, ResponseCall.isEnd] at hended
      · intro hlost
        have hover := hlost.gone
        rw [hcallbacks] at hover
        cases hover
  | collecting handler msg fs stream heom hclient hopen hserving hcallbacks hexchange =>
      refine iff_of_false ?_ ?_
      · intro hstuck
        exact hclient hstuck.1
      · intro hlost
        have hover := hlost.gone
        rw [hcallbacks] at hover
        cases hover
  | forwarded handler msg dest target client phase stream heom hclient hdest htarget hfor hphase hexchange =>
      have hfresh : client.headersSent = false := by
        rw [hfor]
        rfl
      have hended := hlife.ended
      constructor
      · intro hstuck
        obtain ⟨hwaiting, hopen, hgone⟩ := hstuck
        rw [hopen] at hended
        obtain ⟨hupgrade, hconnect, hend, hearly⟩ := (not_ended_iff hfresh).mp hended.symm
        have hthere : .onError ∉ later := by
          intro hleft
          have hfinished := hlife.finished.mpr (Or.inl hleft)
          rw [hwaiting] at hfinished
          cases hfinished
        rw [hgone phase _ hexchange] at hphase
        exact ⟨hthere, hupgrade, hphase, hconnect, hend, hearly⟩
      · intro hlost
        have hopen : stream.responseEnded = false := by
          rw [hended]
          exact (not_ended_iff hfresh).mpr ⟨hlost.notUpgraded, hlost.connected, hlost.notEnded, hlost.noEarlyError⟩
        refine ⟨?_, hopen, ?_⟩
        · cases hphase' : stream.client with
          | waiting => rfl
          | receiving => exact absurd hphase' hclient
          | finished =>
              rcases hlife.finished.mp hphase' with hleft | hcomplete
              · exact absurd hleft hlost.clientThere
              · rw [hlife.complete hcomplete] at hopen
                cases hopen
        · intro phase' c hexchange'
          rw [hexchange] at hexchange'
          cases hexchange'
          exact Option.some.inj (hphase.symm.trans hlost.gone)

theorem Session.Rel.stuck_iff {τ τ' : Type} {R : τ → τ' → Prop} {st : Stream τ} {st' : Stream τ'}
    (h : Stream.Rel R st st') : (Session.stream st).Stuck ↔ (Session.stream st').Stuck := by
  rw [Session.stuck_stream_iff, Session.stuck_stream_iff, h.client, h.responseEnded, h.exchange]

namespace Deployment

variable {ρ ℓ κ : Type} [DecidableEq κ] {d : Deployment ρ ℓ} {l : ℓ} {evs : List (κ × SessionInput)}
  {st : ProcessState ℓ × (κ → Session GatewayHandlerRef)} {outs : List (κ × SessionEffect)} {k : κ}

/-- **The only way to hang.**  In every run, a request can do nothing any more but wait
for its client to give up exactly when its upstream exchange is over, after the connect,
without an end of the message and without an error before the first headers: the upstream
has broken off in the middle of the response.  Every other request has a next callback or
is done. -/
theorem stuck_iff_lostResponse (hrun : d.run l evs = some (st, outs)) {msg : HTTPMessage} {rand64 : UInt64 × UInt64}
    {later : List SessionInput} (hinputs : inputsOf k evs = .request msg rand64 :: later) :
    (st.2 k).Stuck ↔ LostResponse later := by
  obtain ⟨s₀, factory, st', h⟩ := exists_valueRun hrun
  obtain ⟨met, hmet, htrace⟩ := h.exists_trace k
  have hlife := Session.hasLifecycle_run h.values k
  rw [hinputs] at hmet hlife
  obtain ⟨⟨s, i⟩, met', rfl, rfl, rfl⟩ := List.map_eq_cons_iff.mp hmet
  obtain ⟨keys, decision, stream, trace, hstate, -, hstream, houts⟩ := htrace.of_request
  have hsession := h.sessions k
  rw [hstate, houts] at hlife
  rw [hstate] at hsession
  obtain ⟨first, later, hsplit, hlife⟩ := hlife
  cases hsplit
  generalize st.2 k = p at hsession
  cases hsession with
  | stream hrel => exact (Session.Rel.stuck_iff hrel).trans (hstream.stuck_iff hlife)

end Deployment

namespace Sample

/-- The upstream breaks off in the middle of the body. -/
def brokenOff : List (Bool × SessionInput) :=
  [(true, .request getRoot (0, 0)), (true, .event .onEOM), (true, .upstream .connectSuccess),
    (true, .upstream (.onHeadersComplete ⟨200, str "OK", []⟩)), (true, .upstream (.onBody (str "hi"))),
    (true, .upstream (.onError .ingressAndEgress)), (true, .upstream .detachTransaction)]

theorem brokenOff_isSome : (deployment.run () brokenOff).isSome = true := by decide +kernel

end Sample

theorem Deployment.stuck_when_brokenOff :
    (((Sample.deployment.run () Sample.brokenOff).get Sample.brokenOff_isSome).1.2 true).Stuck := by
  have hrun := (Option.some_get Sample.brokenOff_isSome).symm
  have hinputs : inputsOf true Sample.brokenOff =
      .request Sample.getRoot (0, 0) :: (inputsOf true Sample.brokenOff).tail := rfl
  refine (stuck_iff_lostResponse hrun hinputs).mpr ⟨?_, ?_, ?_, ?_, ?_, ?_⟩
  · decide
  · intro prot
    cases prot
    decide
  · rfl
  · decide
  · decide
  · rfl

end Kimchi
