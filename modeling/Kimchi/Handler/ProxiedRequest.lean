import Kimchi.Handler.GatewayHandler
import Kimchi.Handler.UpstreamResponse

/-!
# One proxied request as a two-party protocol

The client side drives the `GatewayHandler`: it delivers the end of the request, and
at any point an error, or the completion of the request once a full response was
sent.  The upstream side drives the `UpstreamClient` that the handler created, by
the contract of `UpstreamPhase.next`.  The two sides are independent; a run is any
interleaving of their steps.

Both sides share `downstream_`.  The handler deletes itself when the client side
finishes, and nothing tells the `UpstreamClient`: `late` collects the calls it makes
on `downstream_` after that point.  `no_late_send_iff_quietAfterFinish` says exactly
which runs have none.

This is one request by itself.  The module `Kimchi.Server.ProxiedSessions` shows that
the requests of the whole process go through these steps.
-/

namespace Kimchi

open Library

/-- The client side: still sending its request, waiting for the response, or
gone. -/
inductive ClientPhase where
  | receiving
  | waiting
  | finished
  deriving DecidableEq, Repr

/-- The steps of the two parties. -/
inductive ProxyEvent where
  | clientEOM
  | clientError
  | requestComplete
  | upstream (cb : UpstreamCallback)
  deriving DecidableEq, Repr

/-- One proxied request.  `responseEnded` records that an end of message or an abort
was sent on `downstream_`, `late` the calls made on it after the client side had
finished. -/
structure ProxyState where
  handler : GatewayHandler
  client : ClientPhase := .receiving
  exchange : Option (UpstreamPhase × UpstreamClient) := none
  responseEnded : Bool := false
  late : List ResponseCall := []
  deriving DecidableEq, Repr

namespace ProxyState

/-- A callback of the upstream side. -/
def upstreamStep (s : ProxyState) (p : UpstreamPhase) (c : UpstreamClient) (cb : UpstreamCallback) :
    ProxyState :=
  { s with
    exchange := some (p, (c.step cb).1)
    responseEnded := s.responseEnded || (c.relayed cb).any ResponseCall.isEnd
    late := if s.client = .finished then s.late ++ c.relayed cb else s.late }

/-- One step of either party, if it is enabled. -/
def step (s : ProxyState) : ProxyEvent → Option ProxyState
  | .clientEOM =>
      if s.client = .receiving then
        s.handler.onEOM.map fun (handler, client) =>
          { s with handler := handler, client := .waiting, exchange := some (.connecting, client) }
      else none
  | .clientError => if s.client ≠ .finished then some { s with client := .finished } else none
  | .requestComplete =>
      if s.client = .waiting ∧ s.responseEnded = true then some { s with client := .finished } else none
  | .upstream cb =>
      match s.exchange with
      | none => none
      | some (p, c) => (p.next cb).map fun p' => s.upstreamStep p' c cb

end ProxyState

/-- No upstream callback that relays comes after the client side has finished, an
error after response headers apart.  `headersSeen` and `finished` are what the
events so far have established. -/
def quietAfterFinish (headersSeen finished : Bool) : List ProxyEvent → Bool
  | [] => true
  | .clientEOM :: rest => quietAfterFinish headersSeen finished rest
  | .clientError :: rest => quietAfterFinish headersSeen true rest
  | .requestComplete :: rest => quietAfterFinish headersSeen true rest
  | .upstream cb :: rest =>
      (!finished || !cb.relays || (headersSeen && cb.isError)) &&
        quietAfterFinish (headersSeen || cb.isHeaders) finished rest

/-- A callback is silent exactly when it does not relay, or is an error after
response headers. -/
theorem UpstreamClient.relayed_eq_nil_iff (c : UpstreamClient) (cb : UpstreamCallback) :
    c.relayed cb = [] ↔ (!cb.relays || (c.headersSent && cb.isError)) = true := by
  cases cb with
  | onError direction =>
      cases hsent : c.headersSent <;>
        simp [hsent, UpstreamCallback.relays, UpstreamClient.badGatewayCalls]
  | _ => simp [UpstreamCallback.relays, UpstreamClient.badGatewayCalls]

namespace ProxyState

/-- `headersSent_` of the upstream client, if it exists. -/
def headersSent (s : ProxyState) : Bool :=
  match s.exchange with
  | some (_, c) => c.headersSent
  | none => false

/-- Whether the client side has finished. -/
def isFinished (s : ProxyState) : Bool := decide (s.client = .finished)

/-- Everything a step can do, with its guard. -/
theorem step_cases {s s' : ProxyState} {ev : ProxyEvent} (h : s.step ev = some s') :
    (∃ handler client, ev = .clientEOM ∧ s.client = .receiving ∧
      s.handler.onEOM = some (handler, client) ∧
      s' = { s with handler := handler, client := .waiting, exchange := some (.connecting, client) }) ∨
    (ev = .clientError ∧ s.client ≠ .finished ∧ s' = { s with client := .finished }) ∨
    (ev = .requestComplete ∧ s.client = .waiting ∧ s.responseEnded = true ∧
      s' = { s with client := .finished }) ∨
    (∃ cb p c p', ev = .upstream cb ∧ s.exchange = some (p, c) ∧ p.next cb = some p' ∧
      s' = s.upstreamStep p' c cb) := by
  cases ev with
  | clientEOM =>
      simp only [step] at h
      split at h
      · next hclient =>
          obtain ⟨⟨handler, client⟩, heom, rfl⟩ := Option.map_eq_some_iff.mp h
          exact Or.inl ⟨handler, client, rfl, hclient, heom, rfl⟩
      · cases h
  | clientError =>
      simp only [step] at h
      split at h
      · next hclient => exact Or.inr (Or.inl ⟨rfl, hclient, (Option.some.inj h).symm⟩)
      · cases h
  | requestComplete =>
      simp only [step] at h
      split at h
      · next hready =>
          exact Or.inr (Or.inr (Or.inl ⟨rfl, hready.1, hready.2, (Option.some.inj h).symm⟩))
      · cases h
  | upstream cb =>
      simp only [step] at h
      split at h
      · cases h
      · next p c hexchange =>
          obtain ⟨p', hnext, rfl⟩ := Option.map_eq_some_iff.mp h
          exact Or.inr (Or.inr (Or.inr ⟨cb, p, c, p', rfl, hexchange, hnext, rfl⟩))

/-- The upstream client does not exist before the end of the request. -/
def NotYetConnected (s : ProxyState) : Prop := s.client = .receiving → s.exchange = none

theorem notYetConnected_step {s s' : ProxyState} {ev : ProxyEvent} (h : s.step ev = some s')
    (hs : s.NotYetConnected) : s'.NotYetConnected := by
  intro hclient
  rcases step_cases h with ⟨handler, client, -, -, -, rfl⟩ | ⟨-, -, rfl⟩ | ⟨-, -, -, rfl⟩ |
    ⟨cb, p, c, p', -, hexchange, -, rfl⟩
  · cases hclient
  · cases hclient
  · cases hclient
  · have hnone := hs hclient
    rw [hexchange] at hnone
    cases hnone

/-- One step against the condition: no late call before and a quiet rest of the
events from here is the same before and after the step. -/
theorem late_step_iff {s s' : ProxyState} {ev : ProxyEvent} (rest : List ProxyEvent)
    (h : s.step ev = some s') (hs : s.NotYetConnected) :
    (s'.late = [] ∧ quietAfterFinish s'.headersSent s'.isFinished rest = true) ↔
      (s.late = [] ∧ quietAfterFinish s.headersSent s.isFinished (ev :: rest) = true) := by
  rcases step_cases h with ⟨handler, client, rfl, hclient, heom, rfl⟩ | ⟨rfl, hclient, rfl⟩ |
    ⟨rfl, hclient, -, rfl⟩ | ⟨cb, p, c, p', rfl, hexchange, -, rfl⟩
  · have hbefore : s.headersSent = false := by simp [headersSent, hs hclient]
    have hfresh := GatewayHandler.onEOM_headersSent heom
    simp [quietAfterFinish, headersSent, isFinished, hfresh, hclient, hs hclient]
  · simp [quietAfterFinish, headersSent, isFinished]
  · simp [quietAfterFinish, headersSent, isFinished]
  · have hsilent := c.relayed_eq_nil_iff cb
    have hsent : (s.upstreamStep p' c cb).headersSent =
        (s.headersSent || cb.isHeaders) := by
      simp [upstreamStep, headersSent, hexchange]
    have hheaders : s.headersSent = c.headersSent := by simp [headersSent, hexchange]
    have hfinished : (s.upstreamStep p' c cb).isFinished = s.isFinished := rfl
    rw [hsent, hfinished, hheaders]
    by_cases hclient : s.client = .finished
    · have hlate : (s.upstreamStep p' c cb).late = s.late ++ c.relayed cb := by
        simp [upstreamStep, hclient]
      have hfin : s.isFinished = true := by simp [isFinished, hclient]
      rw [hlate, List.append_eq_nil_iff, hsilent, hfin]
      simp only [quietAfterFinish, Bool.not_true, Bool.false_or, Bool.and_eq_true, and_assoc]
    · have hlate : (s.upstreamStep p' c cb).late = s.late := by simp [upstreamStep, hclient]
      have hfin : s.isFinished = false := by simp [isFinished, hclient]
      simp [hlate, hfin, quietAfterFinish]

/-- The same over a whole run. -/
theorem late_run_iff {s s' : ProxyState} {events : List ProxyEvent}
    (h : follow step s events = some s') (hs : s.NotYetConnected) :
    s'.late = [] ↔ s.late = [] ∧ quietAfterFinish s.headersSent s.isFinished events = true := by
  induction events generalizing s with
  | nil =>
      obtain rfl : s = s' := by simpa [follow] using h
      simp [quietAfterFinish]
  | cons ev events ih =>
      obtain ⟨s₁, hstep, hrest⟩ := follow_cons_eq_some_iff.mp h
      rw [ih hrest (notYetConnected_step hstep hs)]
      exact late_step_iff events hstep hs

end ProxyState

/-- **No send to a finished client transaction.**  In a run of one proxied request,
no call on `downstream_` comes after the client side has finished, exactly when the
upstream side delivers nothing to relay after that point: no connect error, headers,
body, end of message, or error before the first response headers. -/
theorem no_late_send_iff_quietAfterFinish (handler : GatewayHandler) (events : List ProxyEvent)
    (s : ProxyState) (hrun : follow ProxyState.step { handler := handler } events = some s) :
    s.late = [] ↔ quietAfterFinish false false events = true := by
  have hstart : ProxyState.NotYetConnected { handler := handler } := fun _ => rfl
  have h := ProxyState.late_run_iff hrun hstart
  simpa [ProxyState.headersSent, ProxyState.isFinished] using h

/-- A handler with one destination and one target that has received `GET /`. -/
def sampleHandler : GatewayHandler :=
  { router := { destinations := [{ destinationName := str "svc" }] }
    service := { loadBalancing := { targets := [{ host := str "10.0.0.1", port := 80 }] } }
    upstreamAddr := ⟨str "10.0.0.1", 80⟩
    requestHeaders := some ⟨str "GET", str "/", str "/", [], []⟩ }

/-- A run in which the client waits for the whole response is an instance. -/
theorem patient_client_no_late_send :
    ∃ s, follow ProxyState.step { handler := sampleHandler }
        [.clientEOM, .upstream .connectSuccess, .upstream (.onHeadersComplete ⟨200, str "OK", []⟩),
          .upstream .onEOM, .requestComplete, .upstream .detachTransaction] = some s ∧ s.late = [] := by
  obtain ⟨s, hrun⟩ := Option.isSome_iff_exists.mp
    (show (follow ProxyState.step { handler := sampleHandler }
      [.clientEOM, .upstream .connectSuccess, .upstream (.onHeadersComplete ⟨200, str "OK", []⟩),
        .upstream .onEOM, .requestComplete, .upstream .detachTransaction]).isSome = true from by decide)
  exact ⟨s, hrun, (no_late_send_iff_quietAfterFinish sampleHandler _ s hrun).mpr rfl⟩

/-- The client disconnects after the upstream connection is up; the upstream
response is then sent to the finished transaction. -/
theorem disconnect_before_headers_sends_late :
    ∃ s, follow ProxyState.step { handler := sampleHandler }
        [.clientEOM, .upstream .connectSuccess, .clientError,
          .upstream (.onHeadersComplete ⟨200, str "OK", []⟩)] = some s ∧
      s.late = [.sendHeaders ⟨200, str "OK", []⟩] :=
  ⟨_, rfl, rfl⟩

end Kimchi
