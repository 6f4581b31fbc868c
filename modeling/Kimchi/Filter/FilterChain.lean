import Kimchi.Library.Gates
import Kimchi.Library.Machine
import Kimchi.Policy.JwtAcceptance

/-!
# Filters and the chain they form

`filter/filter_base.h`, `filter/header_filter.cpp` and
`filter/rate_limit_filter.cpp`.  A request handler is a terminal, or a filter with a
pointer to the next handler.  Every filter has a `blocked_` flag of its own: it is
raised when the filter answers the request itself, and a filter with a raised flag
drops what comes later.  Outer filters know nothing of it and keep forwarding.

The terminal and the rate-limit store are outside the chain: a step of the chain
emits what it tells them and what it answers downstream (`ChainEffect`).

* `deliver_onRequest_of_passes`, `deliver_onRequest_of_refused` — a request message
  goes through the filters as through a row of gates.
* `deliver_stream` — a later event reaches the terminal exactly when no flag is
  raised.
* `run_of_passes`, `run_of_refused` — whole runs: the terminal sees everything or
  nothing.
-/

namespace Kimchi

open Library

/-- `FilterBase::FailurePolicy`. -/
inductive FailurePolicy where
  | failOpen
  | failClose
  deriving DecidableEq, Repr

/-- What the rate-limit store counts by. -/
structure RateLimitKey where
  tenantId : Str
  routeId : Str
  deriving DecidableEq, Repr

/-- `RateLimitStore::checkAndDecrement`: whether the request is allowed, or an
exception. -/
abbrev RateLimitStore := RateLimitKey → Except Unit Bool

/-- `NullRateLimitStore`, the stub every gateway runs with. -/
def nullRateLimitStore : RateLimitStore := fun _ => .ok true

/-- A call of `checkAndDecrement`: the key it is made with, and what comes back. -/
structure StoreCall where
  key : RateLimitKey
  answer : Except Unit Bool

/-- `store_->checkAndDecrement(key)`. -/
def RateLimitStore.checkAndDecrement (store : RateLimitStore) (key : RateLimitKey) : StoreCall :=
  { key := key, answer := store key }

/-- Whether a call lets the request through.  A store that throws is overruled by the
failure policy. -/
def StoreCall.allows (call : StoreCall) (policy : FailurePolicy) : Bool :=
  match call.answer with
  | .ok answer => answer
  | .error _ =>
      -- `catch (...)`
      policy = .failOpen

/-- What `onRequest` of a filter does: the calls of the rate-limit store it makes, in
their order, and its verdict. -/
structure FilterRun where
  calls : List StoreCall := []
  verdict : Verdict

/-- What the filters of one request meet outside the chain: jwt-cpp, the rate-limit
store, and the two numbers `folly::Random` yields. -/
structure FilterEnv where
  jwt : JwtLib
  rateLimitStore : RateLimitStore
  rand64 : UInt64 × UInt64

namespace HeaderFilter

/-- 32 hexadecimal digits of two random numbers. -/
def generateRequestId (rand64 : UInt64 × UInt64) : Str := hex16 rand64.1 ++ hex16 rand64.2

/-- Set a header that is not there exactly once, or is empty. -/
def ensure (hdrs : HTTPHeaders) (name value : Str) : HTTPHeaders :=
  if hdrs.getSingleOrEmpty name = [] then hdrs.set name value else hdrs

/-- The headers `HeaderFilter::onRequest` forwards when `generateRequestId` returns `id`. -/
def tracingWith (id : Str) (hdrs : HTTPHeaders) : HTTPHeaders :=
  let hdrs := ensure hdrs (str "x-request-id") id
  ensure hdrs (str "x-trace-id") (hdrs.getSingleOrEmpty (str "x-request-id"))

/-- The headers it forwards with the id of two random numbers. -/
def tracing (rand64 : UInt64 × UInt64) : HTTPHeaders → HTTPHeaders := tracingWith (generateRequestId rand64)

/-- `HeaderFilter::onRequest` when `generateRequestId` returns `id`. -/
def onRequestWith (id : Str) (msg : HTTPMessage) : Verdict :=
  .forward { msg with headers := tracingWith id msg.headers }

/-- `HeaderFilter::onRequest`, with the two numbers that `folly::Random` yields. -/
def onRequest (rand64 : UInt64 × UInt64) : HTTPMessage → Verdict := onRequestWith (generateRequestId rand64)

theorem values_ensure_of_ne {hdrs : HTTPHeaders} {name value name' : Str} (h : lower name ≠ lower name') :
    (ensure hdrs name value).values name' = hdrs.values name' := by
  unfold ensure
  split
  · exact HTTPHeaders.values_set_of_ne h
  · rfl

/-- Only the two tracing headers are touched. -/
theorem values_tracing_of_ne (rand64 : UInt64 × UInt64) (hdrs : HTTPHeaders) {name : Str}
    (hrequest : lower (str "x-request-id") ≠ lower name) (htrace : lower (str "x-trace-id") ≠ lower name) :
    (tracing rand64 hdrs).values name = hdrs.values name := by
  rw [tracing, tracingWith, values_ensure_of_ne htrace, values_ensure_of_ne hrequest]

end HeaderFilter

namespace RateLimitFilter

/-- The tenant and the route that the client's headers name. -/
def key (msg : HTTPMessage) : RateLimitKey :=
  { tenantId := msg.headers.getSingleOrEmpty (str "x-tenant-id")
    routeId := msg.headers.getSingleOrEmpty (str "x-route-id") }

/-- The answer to a request over its quota. -/
def tooManyRequests : Response :=
  jsonResponse 429 "Too Many Requests" (errorBody "rate_limit_exceeded" "too many requests")

/-- `RateLimitFilter::onRequest`: one call of the store, and the verdict by that call. -/
def onRequest (store : RateLimitStore) (policy : FailurePolicy) (msg : HTTPMessage) : FilterRun :=
  let call := store.checkAndDecrement (key msg)
  { calls := [call]
    verdict := if call.allows policy = false then .block tooManyRequests else .forward msg }

/-- The call of the filter lets the request through. -/
def allowed (store : RateLimitStore) (policy : FailurePolicy) (msg : HTTPMessage) : Bool :=
  (store.checkAndDecrement (key msg)).allows policy

theorem verdict_onRequest (store : RateLimitStore) (policy : FailurePolicy) (msg : HTTPMessage) :
    (onRequest store policy msg).verdict =
      if allowed store policy msg = false then .block tooManyRequests else .forward msg := rfl

theorem allowed_eq (store : RateLimitStore) (policy : FailurePolicy) (msg : HTTPMessage) :
    allowed store policy msg =
      match store (key msg) with
      | .ok answer => answer
      | .error _ => decide (policy = .failOpen) := rfl

end RateLimitFilter

/-- The filters a chain is built from. -/
inductive FilterKind where
  | header
  | jwt (jwks : JwksCache)
  | rateLimit
  deriving DecidableEq, Repr

/-- `FilterBase`: which filter it is, its failure policy and its `blocked_` flag. -/
structure FilterBase where
  kind : FilterKind
  policy : FailurePolicy
  blocked : Bool := false
  deriving DecidableEq, Repr

namespace FilterBase

/-- `HeaderFilter`, as `PolicyEngine` makes it. -/
def headerFilter : FilterBase := { kind := .header, policy := .failOpen }

/-- `JwtPolicy`, which always fails closed. -/
def jwtPolicy (jwks : JwksCache) : FilterBase := { kind := .jwt jwks, policy := .failClose }

/-- `RateLimitFilter` with its default policy. -/
def rateLimitFilter : FilterBase := { kind := .rateLimit, policy := .failOpen }

/-- The virtual `onRequest`: only one of its overrides calls the store. -/
def handle (env : FilterEnv) (f : FilterBase) (msg : HTTPMessage) : FilterRun :=
  match f.kind with
  | .header => { verdict := HeaderFilter.onRequest env.rand64 msg }
  | .jwt jwks => { verdict := JwtPolicy.onRequest env.jwt jwks msg }
  | .rateLimit => RateLimitFilter.onRequest env.rateLimitStore f.policy msg

/-- The verdict of `onRequest`. -/
def onRequest (env : FilterEnv) (f : FilterBase) (msg : HTTPMessage) : Verdict := (f.handle env msg).verdict

/-- The keys of the calls that `onRequest` makes. -/
def checks (env : FilterEnv) (f : FilterBase) (msg : HTTPMessage) : List RateLimitKey :=
  (f.handle env msg).calls.map (·.key)

end FilterBase

/-- `proxygen::UpgradeProtocol`. -/
inductive UpgradeProtocol where
  | tcp
  deriving DecidableEq, Repr

/-- The events of a request after its message. -/
inductive StreamEvent where
  | onBody (body : Str)
  | onUpgrade (prot : UpgradeProtocol)
  | onEOM
  deriving DecidableEq, Repr

/-- The events a `proxygen::RequestHandler` receives. -/
inductive RequestEvent where
  | onRequest (msg : HTTPMessage)
  | stream (ev : StreamEvent)
  deriving DecidableEq, Repr

/-- A chain of filters around a terminal. -/
inductive RequestHandler (τ : Type*) where
  | terminal (t : τ)
  | filter (f : FilterBase) (next : RequestHandler τ)
  deriving Repr

/-- What a chain does outside itself. -/
inductive ChainEffect where
  | checkAndDecrement (key : RateLimitKey)
  | respond (call : ResponseCall)
  | toTerminal (ev : RequestEvent)
  deriving DecidableEq, Repr

namespace RequestHandler

variable {τ : Type*}

/-- The filters met when following `next` from the head. -/
def filters : RequestHandler τ → List FilterBase
  | .terminal _ => []
  | .filter f next => f :: filters next

/-- The terminal at the end of the chain. -/
def target : RequestHandler τ → τ
  | .terminal t => t
  | .filter _ next => target next

/-- The chain with these filters around a terminal. -/
def ofFilters (fs : List FilterBase) (t : τ) : RequestHandler τ := fs.foldr .filter (.terminal t)

@[simp] theorem ofFilters_nil (t : τ) : ofFilters [] t = .terminal t := rfl

@[simp] theorem ofFilters_cons (f : FilterBase) (fs : List FilterBase) (t : τ) :
    ofFilters (f :: fs) t = .filter f (ofFilters fs t) := rfl

@[simp] theorem filters_ofFilters (fs : List FilterBase) (t : τ) : (ofFilters fs t).filters = fs := by
  induction fs with
  | nil => rfl
  | cons f fs ih => rw [ofFilters_cons, filters, ih]

@[simp] theorem target_ofFilters (fs : List FilterBase) (t : τ) : (ofFilters fs t).target = t := by
  induction fs with
  | nil => rfl
  | cons f fs ih => rw [ofFilters_cons, target, ih]

/-- One event delivered to the head of a chain. -/
def deliver (env : FilterEnv) : RequestHandler τ → RequestEvent → RequestHandler τ × List ChainEffect
  | .terminal t, ev => (.terminal t, [.toTerminal ev])
  | .filter f next, .onRequest msg =>
      match f.onRequest env msg with
      | .forward msg' =>
          (.filter f (deliver env next (.onRequest msg')).1,
            (f.checks env msg).map .checkAndDecrement ++ (deliver env next (.onRequest msg')).2)
      | .block response =>
          -- `blockRequest`
          (.filter { f with blocked := true } next,
            (f.checks env msg).map .checkAndDecrement ++ response.sendWithEOM.map .respond)
  | .filter f next, .stream ev =>
      -- each filter looks at its own flag only
      if f.blocked then (.filter f next, [])
      else (.filter f (deliver env next (.stream ev)).1, (deliver env next (.stream ev)).2)

/-- A chain as a machine that reads events. -/
def machine (env : FilterEnv) : Machine (RequestHandler τ) RequestEvent ChainEffect where
  step := deliver env

theorem step_machine (env : FilterEnv) : (machine env : Machine (RequestHandler τ) _ _).step = deliver env :=
  rfl

end RequestHandler

/-! ## What the chain tells the outside -/

/-- The calls on the downstream response handler. -/
def responses (effects : List ChainEffect) : List ResponseCall :=
  effects.filterMap fun
    | .respond call => some call
    | _ => none

/-- The events the terminal receives. -/
def terminalEvents (effects : List ChainEffect) : List RequestEvent :=
  effects.filterMap fun
    | .toTerminal ev => some ev
    | _ => none

/-- The calls of `checkAndDecrement`. -/
def checkCalls (effects : List ChainEffect) : List RateLimitKey :=
  effects.filterMap fun
    | .checkAndDecrement key => some key
    | _ => none

section Projections

variable (es es' : List ChainEffect) (keys : List RateLimitKey) (calls : List ResponseCall)
  (evs : List RequestEvent)

@[simp] theorem responses_append : responses (es ++ es') = responses es ++ responses es' :=
  List.filterMap_append

@[simp] theorem terminalEvents_append :
    terminalEvents (es ++ es') = terminalEvents es ++ terminalEvents es' :=
  List.filterMap_append

@[simp] theorem checkCalls_append : checkCalls (es ++ es') = checkCalls es ++ checkCalls es' :=
  List.filterMap_append

@[simp] theorem responses_checks : responses (keys.map .checkAndDecrement) = [] := by
  simp [responses]

@[simp] theorem responses_respond : responses (calls.map .respond) = calls := by
  simp [responses, List.filterMap_map]

@[simp] theorem responses_toTerminal : responses (evs.map .toTerminal) = [] := by
  simp [responses]

@[simp] theorem terminalEvents_checks : terminalEvents (keys.map .checkAndDecrement) = [] := by
  simp [terminalEvents]

@[simp] theorem terminalEvents_respond : terminalEvents (calls.map .respond) = [] := by
  simp [terminalEvents]

@[simp] theorem terminalEvents_toTerminal : terminalEvents (evs.map .toTerminal) = evs := by
  simp [terminalEvents, List.filterMap_map]

@[simp] theorem checkCalls_checks : checkCalls (keys.map .checkAndDecrement) = keys := by
  simp [checkCalls, List.filterMap_map]

@[simp] theorem checkCalls_respond : checkCalls (calls.map .respond) = [] := by
  simp [checkCalls]

@[simp] theorem checkCalls_toTerminal : checkCalls (evs.map .toTerminal) = [] := by
  simp [checkCalls]

end Projections

/-! ## The filters as a row of gates -/

/-- The verdict of a filter as an outcome: the message goes on, or it is refused. -/
def FilterBase.gate (env : FilterEnv) (f : FilterBase) (msg : HTTPMessage) : Except Response HTTPMessage :=
  match f.onRequest env msg with
  | .forward msg' => .ok msg'
  | .block response => .error response

theorem FilterBase.gate_eq_ok_iff {env : FilterEnv} {f : FilterBase} {msg msg' : HTTPMessage} :
    f.gate env msg = .ok msg' ↔ f.onRequest env msg = .forward msg' := by
  unfold FilterBase.gate
  cases f.onRequest env msg <;> simp

theorem FilterBase.gate_eq_error_iff {env : FilterEnv} {f : FilterBase} {msg : HTTPMessage}
    {response : Response} :
    f.gate env msg = .error response ↔ f.onRequest env msg = .block response := by
  unfold FilterBase.gate
  cases f.onRequest env msg <;> simp

/-- The calls of `checkAndDecrement` a row of filters makes on a message. -/
def rowChecks (env : FilterEnv) : List FilterBase → HTTPMessage → List RateLimitKey
  | [], _ => []
  | f :: fs, msg =>
      f.checks env msg ++
        match f.gate env msg with
        | .ok msg' => rowChecks env fs msg'
        | .error _ => []

theorem rowChecks_append (env : FilterEnv) (fs gs : List FilterBase) (msg : HTTPMessage) :
    rowChecks env (fs ++ gs) msg =
      rowChecks env fs msg ++
        match passes (FilterBase.gate env) fs msg with
        | .ok msg' => rowChecks env gs msg'
        | .error _ => [] := by
  induction fs generalizing msg with
  | nil => rfl
  | cons f fs ih =>
      cases hf : f.gate env msg with
      | error response => simp [rowChecks, hf, passes_cons_of_error hf]
      | ok msg' => simp [rowChecks, hf, passes_cons_of_ok hf, ih]

/-- Filters other than the rate limiter never ask the store. -/
theorem rowChecks_eq_nil (env : FilterEnv) {fs : List FilterBase} (h : ∀ f ∈ fs, f.kind ≠ .rateLimit)
    (msg : HTTPMessage) : rowChecks env fs msg = [] := by
  induction fs generalizing msg with
  | nil => rfl
  | cons f fs ih =>
      have hf : f.checks env msg = [] := by
        have hkind := h f (by simp)
        unfold FilterBase.checks FilterBase.handle
        cases hk : f.kind with
        | rateLimit => exact absurd hk hkind
        | header => rfl
        | jwt jwks => rfl
      have hfs := ih fun g hg => h g (by simp [hg])
      rw [rowChecks, hf, List.nil_append]
      cases f.gate env msg with
      | error response => rfl
      | ok msg' => exact hfs msg'

namespace RequestHandler

variable {τ : Type*} {env : FilterEnv} {fs : List FilterBase} {msg msg' : HTTPMessage}
  {response : Response}

/-- A message that passes the row reaches the terminal as it left the last gate, and
no flag changes. -/
theorem deliver_onRequest_of_passes (t : τ) (h : passes (FilterBase.gate env) fs msg = .ok msg') :
    deliver env (ofFilters fs t) (.onRequest msg) =
      (ofFilters fs t,
        (rowChecks env fs msg).map .checkAndDecrement ++ [.toTerminal (.onRequest msg')]) := by
  induction fs generalizing msg with
  | nil =>
      obtain rfl : msg = msg' := by simpa using h
      rfl
  | cons f fs ih =>
      cases hf : f.gate env msg with
      | error response =>
          rw [passes_cons_of_error hf] at h
          cases h
      | ok msg₁ =>
          rw [passes_cons_of_ok hf] at h
          have hforward := FilterBase.gate_eq_ok_iff.mp hf
          simp [deliver, hforward, ih h, rowChecks, hf]

/-- A refused message: one filter raises its flag and answers, the terminal hears
nothing. -/
theorem deliver_onRequest_of_refused (t : τ) (h : passes (FilterBase.gate env) fs msg = .error response) :
    ∃ before f after, fs = before ++ f :: after ∧
      deliver env (ofFilters fs t) (.onRequest msg) =
        (ofFilters (before ++ { f with blocked := true } :: after) t,
          (rowChecks env fs msg).map .checkAndDecrement ++ response.sendWithEOM.map .respond) := by
  induction fs generalizing msg with
  | nil => cases h
  | cons f fs ih =>
      cases hf : f.gate env msg with
      | error response' =>
          rw [passes_cons_of_error hf] at h
          obtain rfl := Except.error.inj h
          have hblock := FilterBase.gate_eq_error_iff.mp hf
          exact ⟨[], f, fs, rfl, by simp [deliver, hblock, rowChecks, hf]⟩
      | ok msg₁ =>
          rw [passes_cons_of_ok hf] at h
          have hforward := FilterBase.gate_eq_ok_iff.mp hf
          obtain ⟨before, f', after, rfl, hdeliver⟩ := ih h
          exact ⟨f :: before, f', after, rfl, by simp [deliver, hforward, hdeliver, rowChecks, hf]⟩

/-- A later event leaves every flag alone and reaches the terminal exactly when none
is raised. -/
theorem deliver_stream (env : FilterEnv) (fs : List FilterBase) (t : τ) (ev : StreamEvent) :
    deliver env (ofFilters fs t) (.stream ev) =
      (ofFilters fs t, if fs.any (·.blocked) then [] else [.toTerminal (.stream ev)]) := by
  induction fs with
  | nil => rfl
  | cons f fs ih =>
      cases hblocked : f.blocked with
      | true => simp [deliver, hblocked]
      | false => simp [deliver, hblocked, ih]

/-- Later events come in any number. -/
theorem run_stream (env : FilterEnv) (fs : List FilterBase) (t : τ) (evs : List StreamEvent) :
    (machine env).run (ofFilters fs t) (evs.map .stream) =
      (ofFilters fs t, if fs.any (·.blocked) then [] else (evs.map .stream).map .toTerminal) := by
  have hfixed : ∀ ev ∈ evs.map RequestEvent.stream, (machine env).step (ofFilters fs t) ev =
      (ofFilters fs t, if fs.any (·.blocked) then [] else [.toTerminal ev]) := by
    intro ev hev
    obtain ⟨ev, -, rfl⟩ := List.mem_map.mp hev
    exact deliver_stream env fs t ev
  rw [Machine.run_of_fixed _ hfixed]
  cases fs.any (·.blocked) with
  | true => simp
  | false =>
      simp only [Bool.false_eq_true, if_false]
      rw [← List.map_eq_flatMap]

/-- **An admitted request:** nothing is answered and the terminal receives every
event, in order. -/
theorem run_of_passes (t : τ) (hfresh : ∀ f ∈ fs, f.blocked = false)
    (h : passes (FilterBase.gate env) fs msg = .ok msg') (evs : List StreamEvent) :
    (machine env).run (ofFilters fs t) (.onRequest msg :: evs.map .stream) =
      (ofFilters fs t,
        (rowChecks env fs msg).map .checkAndDecrement ++
          (RequestEvent.onRequest msg' :: evs.map .stream).map .toTerminal) := by
  have hopen : fs.any (·.blocked) = false := by
    rw [List.any_eq_false]
    intro f hf
    simp [hfresh f hf]
  have hlater := run_stream env fs t evs
  rw [hopen] at hlater
  rw [Machine.run_cons, step_machine, deliver_onRequest_of_passes t h, hlater]
  simp

/-- **A refused request:** one filter that was open is blocked, its answer is the
only one, and the terminal receives nothing. -/
theorem run_of_refused (t : τ) (h : passes (FilterBase.gate env) fs msg = .error response)
    (evs : List StreamEvent) :
    ∃ before f after, fs = before ++ f :: after ∧
      (machine env).run (ofFilters fs t) (.onRequest msg :: evs.map .stream) =
        (ofFilters (before ++ { f with blocked := true } :: after) t,
          (rowChecks env fs msg).map .checkAndDecrement ++ response.sendWithEOM.map .respond) := by
  obtain ⟨before, f, after, hfs, hdeliver⟩ := deliver_onRequest_of_refused t h
  refine ⟨before, f, after, hfs, ?_⟩
  have hlater := run_stream env (before ++ { f with blocked := true } :: after) t evs
  have hclosed : (before ++ { f with blocked := true } :: after).any (·.blocked) = true := by simp
  rw [hclosed] at hlater
  rw [Machine.run_cons, step_machine, hdeliver, hlater]
  simp

end RequestHandler

end Kimchi
