import Kimchi.Handler.UpstreamClient
import Kimchi.Http.ResponseLanguage

/-!
# The response an upstream exchange produces

What the calls of an `UpstreamClient` on `downstream_` look like over a whole
exchange, for every callback sequence the contract allows.

The only guard of the client is `headersSent_`, and `sendErrorResponse` does not set
it.  So a 502 that answers an error before the first response headers does not stop
what comes later, and an error after the first response headers is answered by
nothing:

* `wellFormed_iff_nothingAfterEarlyError` — the calls are a prefix of one response
  exactly when an error that comes before the first response headers is the last
  callback that relays anything.
* `ends_once_iff` — a finished exchange ends the client response exactly once
  exactly when the upstream message ended and no error preceded the first headers,
  or it did not end and exactly one error did.
-/

namespace Kimchi

open Library

/-- The callbacks that may make a call on `downstream_`. -/
def UpstreamCallback.relays : UpstreamCallback → Bool
  | .connectError | .onHeadersComplete _ | .onBody _ | .onEOM | .onError _ => true
  | _ => false

/-- An error before the first response headers is the last callback that relays
anything. -/
def nothingAfterEarlyError : List UpstreamCallback → Bool
  | [] => true
  | .onHeadersComplete _ :: _ => true
  | .onError _ :: rest => rest.all fun cb => !cb.relays
  | _ :: rest => nothingAfterEarlyError rest

/-- The number of errors before the first response headers. -/
def earlyErrors : List UpstreamCallback → Nat
  | [] => 0
  | .onHeadersComplete _ :: _ => 0
  | .onError _ :: rest => earlyErrors rest + 1
  | _ :: rest => earlyErrors rest

namespace UpstreamPhase

/-- The callbacks the contract allows once the connection is there, with the ingress
phase they come in and the phase they lead to. -/
inductive EstablishedStep : IngressPhase → UpstreamCallback → UpstreamPhase → Prop
  | headers (msg : ResponseHead) :
      EstablishedStep .headers (.onHeadersComplete msg)
        (.established (if msg.is1xx then .headers else .body))
  | body (chain : Str) : EstablishedStep .body (.onBody chain) (.established .body)
  | trailers : EstablishedStep .body .onTrailers (.established .body)
  | eom : EstablishedStep .body .onEOM (.established .done)
  | error (i : IngressPhase) (direction : ErrorDirection) :
      EstablishedStep i (.onError direction) (.established (if direction = .egress then i else .done))
  | upgrade (i : IngressPhase) : EstablishedStep i .onUpgrade (.established i)
  | paused (i : IngressPhase) : EstablishedStep i .onEgressPaused (.established i)
  | resumed (i : IngressPhase) : EstablishedStep i .onEgressResumed (.established i)
  | detach (i : IngressPhase) : EstablishedStep i .detachTransaction .gone

theorem establishedStep_of_next {i : IngressPhase} {cb : UpstreamCallback} {p : UpstreamPhase}
    (h : next (.established i) cb = some p) : EstablishedStep i cb p := by
  cases cb <;> cases i <;> simp only [next, Option.some.injEq, reduceCtorEq] at h <;> subst h <;>
    constructor

theorem follow_gone {cbs : List UpstreamCallback} {p : UpstreamPhase}
    (h : follow next .gone cbs = some p) : cbs = [] := by
  cases cbs with
  | nil => rfl
  | cons cb rest => cases cb <;> simp [follow, next] at h

/-- An exchange is a failed connect, or a connect followed by the callbacks of the
transaction. -/
theorem follow_connecting {cbs : List UpstreamCallback} {p : UpstreamPhase}
    (h : follow next .connecting cbs = some p) :
    cbs = [] ∨ cbs = [.connectError] ∨
      ∃ rest, cbs = .connectSuccess :: rest ∧ follow next (.established .headers) rest = some p := by
  cases cbs with
  | nil => exact Or.inl rfl
  | cons cb rest =>
      cases cb with
      | connectError =>
          have hrest : rest = [] := follow_gone (by simpa [follow, next] using h)
          exact Or.inr (Or.inl (by rw [hrest]))
      | connectSuccess => exact Or.inr (Or.inr ⟨rest, rfl, by simpa [follow, next] using h⟩)
      | _ => simp [follow, next] at h

end UpstreamPhase

namespace UpstreamClient

variable {c : UpstreamClient}

/-- Before the first headers a callback sequence is silent exactly when no callback
in it relays. -/
theorem responseCalls_eq_nil_iff (hc : c.headersSent = false) (cbs : List UpstreamCallback) :
    c.responseCalls cbs = [] ↔ (cbs.all fun cb => !cb.relays) = true := by
  induction cbs generalizing c with
  | nil => simp
  | cons cb cbs ih =>
      rw [responseCalls_cons]
      by_cases hrelays : cb.relays = true
      · -- a relaying callback makes both sides false
        have hsent : c.relayed cb ≠ [] := by
          cases cb <;> simp_all [UpstreamCallback.relays, badGatewayCalls]
        simp [hsent, hrelays]
      · have hsilent : c.relayed cb = [] := by
          cases cb <;> simp_all [UpstreamCallback.relays]
        have hnext : (c.step cb).1.headersSent = false := by
          cases cb <;> simp_all [UpstreamCallback.relays]
        simp [hsilent, hrelays, ih hnext]

/-- The state of an exchange after the first response headers: what was sent is a
response prefix that stands where the ingress stands. -/
def Relaying (p : UpstreamPhase) (c : UpstreamClient) (out : List UpstreamOutput) : Prop :=
  c.headersSent = true ∧ p ≠ .connecting ∧
    ResponseShape.ofCalls (downstreamCalls out) ≠ .malformed ∧
    (p = .established .headers → ResponseShape.ofCalls (downstreamCalls out) = .head) ∧
    (p = .established .body → ResponseShape.ofCalls (downstreamCalls out) = .body)

/-- **Relaying is preserved.**  After the first headers errors are silent, and the
ingress callbacks come in the order of a response. -/
theorem relaying_step (p : UpstreamPhase) (c : UpstreamClient) (out : List UpstreamOutput)
    (cb : UpstreamCallback) (p' : UpstreamPhase) (h : Relaying p c out) (hnext : p.next cb = some p') :
    Relaying p' (machine.step c cb).1 (out ++ (machine.step c cb).2) := by
  obtain ⟨hsent, hconnected, hok, hhead, hbody⟩ := h
  have hcalls : downstreamCalls (out ++ (machine.step c cb).2) = downstreamCalls out ++ c.relayed cb := by
    simp [relayed, machine]
  have hsent' : (machine.step c cb).1.headersSent = true := by simp [machine, hsent]
  unfold Relaying
  rw [hcalls, ResponseShape.ofCalls_append]
  refine ⟨hsent', ?_⟩
  cases p with
  | connecting => exact absurd rfl hconnected
  | gone => cases cb <;> simp [UpstreamPhase.next] at hnext
  | established i =>
      cases UpstreamPhase.establishedStep_of_next hnext with
      | headers msg =>
          rw [hhead rfl]
          cases h1xx : msg.is1xx <;> simp [ResponseShape.scan, h1xx]
      | body chain => simp [hbody rfl, ResponseShape.scan]
      | eom => simp [hbody rfl, ResponseShape.scan]
      | trailers => simp [hbody rfl]
      | error _ direction =>
          rw [relayed_onError, if_pos hsent]
          by_cases hdir : direction = .egress
          · rw [if_pos hdir]
            exact ⟨by simp, hok, hhead, hbody⟩
          · rw [if_neg hdir]
            exact ⟨by simp, hok, by simp, by simp⟩
      | upgrade | paused | resumed => exact ⟨by simp, hok, hhead, hbody⟩
      | detach => exact ⟨by simp, hok, by simp, by simp⟩

/-- Once the first headers were relayed, every allowed continuation keeps the
response well formed. -/
theorem ofCalls_ne_malformed_of_headers (c : UpstreamClient) (msg : ResponseHead)
    {cbs : List UpstreamCallback} {p : UpstreamPhase}
    (hfollow : follow UpstreamPhase.next (.established .headers) (.onHeadersComplete msg :: cbs) = some p) :
    ResponseShape.ofCalls (c.responseCalls (.onHeadersComplete msg :: cbs)) ≠ .malformed := by
  have hstart : Relaying (.established (if msg.is1xx then .headers else .body))
      (c.step (.onHeadersComplete msg)).1 [.downstream (.sendHeaders msg)] := by
    unfold Relaying
    cases h1xx : msg.is1xx <;>
      simp [downstreamCalls, ResponseShape.ofCalls, ResponseShape.scan, h1xx]
  have hrest : follow UpstreamPhase.next (.established (if msg.is1xx then .headers else .body)) cbs
      = some p := by
    simpa [follow, UpstreamPhase.next] using hfollow
  have hrun := Machine.run_invariant relaying_step hstart hrest
  obtain ⟨-, -, hok, -, -⟩ := hrun
  rw [responseCalls_cons, relayed_onHeadersComplete]
  simpa [responseCalls, downstreamCalls] using hok

/-- Nothing can follow a complete response. -/
theorem foldl_scan_ended_iff (calls : List ResponseCall) :
    calls.foldl ResponseShape.scan .ended ≠ .malformed ↔ calls = [] := by
  cases calls with
  | nil => simp
  | cons call calls => simp [ResponseShape.scan]

/-- The exchange up to its first response headers or its first error. -/
theorem ofCalls_established_iff {c : UpstreamClient} (hc : c.headersSent = false) {i : IngressPhase}
    (hi : i ≠ .body) {cbs : List UpstreamCallback} {p : UpstreamPhase}
    (hfollow : follow UpstreamPhase.next (.established i) cbs = some p) :
    ResponseShape.ofCalls (c.responseCalls cbs) ≠ .malformed ↔ nothingAfterEarlyError cbs = true := by
  induction cbs generalizing c i with
  | nil => simp [ResponseShape.ofCalls, nothingAfterEarlyError]
  | cons cb cbs ih =>
      obtain ⟨p', hnext, hrest⟩ := follow_cons_eq_some_iff.mp hfollow
      cases UpstreamPhase.establishedStep_of_next hnext with
      | headers msg =>
          simp only [nothingAfterEarlyError, iff_true]
          exact ofCalls_ne_malformed_of_headers c msg hfollow
      | body | trailers | eom => exact absurd rfl hi
      | error _ direction =>
          -- the 502 is complete, so whatever follows it must be silent
          have hsent : (c.step (.onError direction)).1.headersSent = false := by simp [hc]
          have hshape : ResponseShape.ofCalls
              (badGatewayCalls (errorBody "bad_gateway" "upstream error")) = .ended := rfl
          rw [responseCalls_cons, relayed_onError, hc, if_neg Bool.false_ne_true,
            ResponseShape.ofCalls_append, hshape, foldl_scan_ended_iff, responseCalls_eq_nil_iff hsent]
          rfl
      | upgrade | paused | resumed =>
          simpa [responseCalls_cons, nothingAfterEarlyError] using
            ih (c := (c.step _).1) (by simp [hc]) hi hrest
      | detach =>
          obtain rfl := UpstreamPhase.follow_gone hrest
          simp [responseCalls_cons, ResponseShape.ofCalls, nothingAfterEarlyError]

end UpstreamClient

/-- **At most one well-formed response.**  Over every callback sequence the contract
allows, the calls on `downstream_` are a prefix of one response exactly when no
callback that relays anything follows an error that came before the first response
headers. -/
theorem wellFormed_iff_nothingAfterEarlyError (req : UpstreamRequest) (body : Option Str)
    (cbs : List UpstreamCallback) (p : UpstreamPhase)
    (hallowed : follow UpstreamPhase.next .connecting cbs = some p) :
    (∃ response, IsResponse response ∧
      UpstreamClient.responseCalls { upstreamReq := req, requestBody := body } cbs <+: response) ↔
      nothingAfterEarlyError cbs = true := by
  rw [ResponseShape.exists_response_iff_scan]
  rcases UpstreamPhase.follow_connecting hallowed with rfl | rfl | ⟨rest, rfl, hrest⟩
  · simp [ResponseShape.ofCalls, nothingAfterEarlyError]
  · simp [UpstreamClient.responseCalls_cons, UpstreamClient.badGatewayCalls, ResponseShape.ofCalls,
      ResponseShape.scan, nothingAfterEarlyError, jsonResponse, ResponseHead.is1xx]
  · rw [UpstreamClient.responseCalls_cons, UpstreamClient.relayed_connectSuccess, List.nil_append]
    exact UpstreamClient.ofCalls_established_iff (by simp) (by simp) hrest

/-- A relayed exchange is an instance: connect, final headers, one chunk, end,
detach. -/
theorem relayed_exchange_wellFormed :
    follow UpstreamPhase.next .connecting
        [.connectSuccess, .onHeadersComplete ⟨200, str "OK", []⟩, .onBody (str "hi"), .onEOM,
          .detachTransaction] = some .gone ∧
      ∃ response, IsResponse response ∧
        UpstreamClient.responseCalls
          { upstreamReq := ⟨str "GET", str "/", []⟩, requestBody := none }
          [.connectSuccess, .onHeadersComplete ⟨200, str "OK", []⟩, .onBody (str "hi"), .onEOM,
            .detachTransaction] <+: response :=
  ⟨rfl, (wellFormed_iff_nothingAfterEarlyError _ _ _ .gone rfl).mpr rfl⟩

/-- An egress error before the headers, after which the upstream response still
arrives: the 502 is followed by a second final response. -/
theorem egressError_then_response_not_wellFormed :
    follow UpstreamPhase.next .connecting
        [.connectSuccess, .onError .egress, .onHeadersComplete ⟨200, str "OK", []⟩, .onEOM,
          .detachTransaction] = some .gone ∧
      ¬ ∃ response, IsResponse response ∧
        UpstreamClient.responseCalls
          { upstreamReq := ⟨str "GET", str "/", []⟩, requestBody := none }
          [.connectSuccess, .onError .egress, .onHeadersComplete ⟨200, str "OK", []⟩, .onEOM,
            .detachTransaction] <+: response := by
  refine ⟨rfl, ?_⟩
  rw [ResponseShape.exists_response_iff_scan]
  decide

/-! ## The end of the client response -/

namespace UpstreamClient

/-- The end markers of a callback sequence, counted at the callbacks that produce
them. -/
theorem endMarkers_responseCalls (c : UpstreamClient) (cbs : List UpstreamCallback) :
    endMarkers (c.responseCalls cbs) =
      cbs.count .connectError + cbs.count .onEOM + (if c.headersSent then 0 else earlyErrors cbs) := by
  induction cbs generalizing c with
  | nil => simp [earlyErrors]
  | cons cb cbs ih =>
      rw [responseCalls_cons, endMarkers_append, ih, headersSent_step]
      have hbad : ∀ body, endMarkers (badGatewayCalls body) = 1 := fun _ => rfl
      cases cb with
      | connectError =>
          simp [hbad, earlyErrors]
          omega
      | onHeadersComplete msg => simp [endMarkers, ResponseCall.isEnd, earlyErrors]
      | onBody chain => simp [endMarkers, ResponseCall.isEnd, earlyErrors]
      | onEOM =>
          simp [endMarkers, ResponseCall.isEnd, earlyErrors]
          omega
      | onError direction =>
          cases hsent : c.headersSent with
          | true => simp [hsent]
          | false =>
              simp [hsent, hbad, earlyErrors]
              omega
      | _ => simp [earlyErrors]

end UpstreamClient

namespace UpstreamPhase

/-- A connected exchange has no further connect result and at most one end of
message, none at all once its ingress is done. -/
theorem count_of_follow_established {i : IngressPhase} {cbs : List UpstreamCallback} {p : UpstreamPhase}
    (h : follow next (.established i) cbs = some p) :
    cbs.count .connectError = 0 ∧ cbs.count .onEOM ≤ if i = .done then 0 else 1 := by
  induction cbs generalizing i with
  | nil => simp
  | cons cb cbs ih =>
      obtain ⟨p', hnext, hrest⟩ := follow_cons_eq_some_iff.mp h
      cases establishedStep_of_next hnext with
      | headers msg =>
          obtain ⟨herr, heom⟩ := ih hrest
          refine ⟨by simpa using herr, ?_⟩
          cases h1xx : msg.is1xx <;> simpa [h1xx] using heom
      | body | trailers | upgrade | paused | resumed =>
          obtain ⟨herr, heom⟩ := ih hrest
          exact ⟨by simpa using herr, by simpa using heom⟩
      | eom =>
          obtain ⟨herr, heom⟩ := ih hrest
          refine ⟨by simpa using herr, ?_⟩
          simp only [if_true, Nat.le_zero] at heom
          simp [heom]
      | error _ direction =>
          obtain ⟨herr, heom⟩ := ih hrest
          refine ⟨by simpa using herr, ?_⟩
          by_cases hdir : direction = .egress
          · simpa [hdir] using heom
          · have hzero : cbs.count .onEOM = 0 := by simpa [hdir] using heom
            simp [hzero]
      | detach =>
          obtain rfl := follow_gone hrest
          simp

end UpstreamPhase

/-- **A finished exchange ends the client response once**, exactly when the connect
failed, or the upstream message ended and no error preceded the first headers, or it
did not end and exactly one error did.  After the first headers an error is answered
by neither an end of message nor an abort. -/
theorem ends_once_iff (req : UpstreamRequest) (body : Option Str) (cbs : List UpstreamCallback)
    (hcomplete : follow UpstreamPhase.next .connecting cbs = some .gone) :
    endMarkers (UpstreamClient.responseCalls { upstreamReq := req, requestBody := body } cbs) = 1 ↔
      .connectError ∈ cbs ∨ (.onEOM ∈ cbs ∧ earlyErrors cbs = 0) ∨
        (.onEOM ∉ cbs ∧ earlyErrors cbs = 1) := by
  rw [UpstreamClient.endMarkers_responseCalls]
  rcases UpstreamPhase.follow_connecting hcomplete with rfl | rfl | ⟨rest, rfl, hrest⟩
  · simp [follow] at hcomplete
  · simp [earlyErrors]
  · obtain ⟨herr, heom⟩ := UpstreamPhase.count_of_follow_established hrest
    simp only [reduceCtorEq, if_false] at heom
    have hnoConnect : UpstreamCallback.connectError ∉ rest := List.count_eq_zero.mp herr
    by_cases hmem : UpstreamCallback.onEOM ∈ rest
    · have hone : rest.count .onEOM = 1 := by
        have hpos : 0 < rest.count .onEOM := List.count_pos_iff.mpr hmem
        omega
      simp [earlyErrors, herr, hone, hmem, hnoConnect]
    · have hzero : rest.count .onEOM = 0 := List.count_eq_zero.mpr hmem
      simp [earlyErrors, herr, hzero, hmem, hnoConnect]

/-- A whole exchange is an instance: headers, two pieces of the body and the end are
relayed, and the response is ended once. -/
theorem relayed_exchange_ends_once :
    follow UpstreamPhase.next .connecting
        [.connectSuccess, .onHeadersComplete ⟨200, str "OK", []⟩, .onBody (str "hi"), .onBody (str "ho"), .onEOM,
          .detachTransaction] = some .gone ∧
      endMarkers (UpstreamClient.responseCalls
        { upstreamReq := ⟨str "GET", str "/", []⟩, requestBody := none }
        [.connectSuccess, .onHeadersComplete ⟨200, str "OK", []⟩, .onBody (str "hi"), .onBody (str "ho"), .onEOM,
          .detachTransaction]) = 1 :=
  ⟨rfl, (ends_once_iff _ _ _ rfl).mpr (Or.inr (Or.inl ⟨by decide, rfl⟩))⟩

/-- The upstream connection breaks in the middle of the body: the client response is
left open. -/
theorem error_midBody_leaves_response_open :
    follow UpstreamPhase.next .connecting
        [.connectSuccess, .onHeadersComplete ⟨200, str "OK", []⟩, .onBody (str "hi"),
          .onError .ingressAndEgress, .detachTransaction] = some .gone ∧
      endMarkers (UpstreamClient.responseCalls
        { upstreamReq := ⟨str "GET", str "/", []⟩, requestBody := none }
        [.connectSuccess, .onHeadersComplete ⟨200, str "OK", []⟩, .onBody (str "hi"),
          .onError .ingressAndEgress, .detachTransaction]) = 0 := by
  decide

end Kimchi
