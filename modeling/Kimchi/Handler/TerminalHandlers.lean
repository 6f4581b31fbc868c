import Kimchi.Handler.AdminHandler
import Kimchi.Handler.GatewayHandlerFactory

/-!
# The handlers at the end of a chain

`GatewayHandler`, `AdminHandler`, `NotFoundHandler` and `BadGatewayHandler` as machines
over the events of a request.  They send calls on `downstream_` or, at the end of a
proxied request, create an `UpstreamClient` that will.  A step is undefined where the
source reads past the end of a vector or through a null pointer.

None of the handlers remembers that it has answered.  `NotFoundHandler` and
`BadGatewayHandler` answer the request itself and ignore what follows; the other two
answer **every** upgrade with a 400 and the end of the message once more, so
`answeredOnce_iff` counts these events.
-/

namespace Kimchi

open Config Library

/-- What a terminal handler does outside itself. -/
inductive HandlerEffect where
  | respond (call : ResponseCall)
  | connect (addr : SocketAddress) (client : UpstreamClient)
  deriving DecidableEq, Repr

/-- `sendWithEOM` on `downstream_`. -/
def Response.sent (r : Response) : List HandlerEffect := r.sendWithEOM.map .respond

/-- One event of a request, delivered to a `GatewayHandler`. -/
def GatewayHandler.step (h : GatewayHandler) : RequestEvent → Option (GatewayHandler × List HandlerEffect)
  | .onRequest req => some (h.onRequest req, [])
  | .stream (.onBody body) => some (h.onBody body, [])
  | .stream (.onUpgrade _) => some (h, GatewayHandler.onUpgrade.sent)
  | .stream .onEOM => h.onEOM.map fun (h', client) => (h', [.connect h.upstreamAddr client])

/-- The handler as a machine; it has no step where the source is undefined. -/
def GatewayHandler.machine : PartialMachine GatewayHandler RequestEvent HandlerEffect :=
  ⟨GatewayHandler.step⟩

/-- The handlers that end a chain or stand alone. -/
inductive TerminalHandler where
  | gateway (h : GatewayHandler)
  | admin (h : AdminHandler) (shared : SharedConfig)
  | notFound
  | badGateway (msg : Str)
  deriving DecidableEq, Repr

namespace TerminalHandler

/-- One event of a terminal handler. -/
def step (env : AdminEnv) : TerminalHandler → RequestEvent → Option (TerminalHandler × List HandlerEffect)
  | .gateway h, ev => (h.step ev).map fun (h', out) => (.gateway h', out)
  | .admin h shared, .onRequest headers => some (.admin (h.onRequest headers) shared, [])
  | .admin h shared, .stream (.onBody _) => some (.admin h shared, [])
  | .admin h shared, .stream (.onUpgrade _) => some (.admin h shared, AdminHandler.onUpgrade.sent)
  | .admin h shared, .stream .onEOM =>
      (h.onEOM env shared).map fun (shared', reply) => (.admin h shared', reply.sent)
  | .notFound, .onRequest _ => some (.notFound, notFoundResponse.sent)
  | .badGateway msg, .onRequest _ => some (.badGateway msg, (badGatewayResponse msg).sent)
  -- the other callbacks of the two are empty
  | .notFound, .stream _ => some (.notFound, [])
  | .badGateway msg, .stream _ => some (.badGateway msg, [])

/-- A terminal handler as a machine. -/
def machine (env : AdminEnv) : PartialMachine TerminalHandler RequestEvent HandlerEffect := ⟨step env⟩

end TerminalHandler

/-! ## Defined steps -/

/-- The two vectors that `onEOM` indexes are not empty. -/
structure GatewayHandler.Routed (h : GatewayHandler) : Prop where
  destination : h.router.destinations ≠ []
  target : h.service.loadBalancing.targets ≠ []

/-- `onEOM` is defined: the vectors are not empty and there is a request. -/
structure GatewayHandler.Ready (h : GatewayHandler) : Prop extends h.Routed where
  request : h.requestHeaders.isSome = true

namespace GatewayHandler

theorem ready_onRequest {h : GatewayHandler} (hrouted : h.Routed) (req : HTTPMessage) :
    (h.onRequest req).Ready :=
  { destination := hrouted.destination, target := hrouted.target, request := rfl }

/-- The three accesses of `onEOM`, one after the other. -/
theorem onEOM_of_ready {h : GatewayHandler} (hready : h.Ready) :
    ∃ client, h.onEOM = some ({ h with requestBody := none }, client) := by
  rcases List.exists_cons_of_ne_nil hready.destination with ⟨dest, dests, hdest⟩
  rcases List.exists_cons_of_ne_nil hready.target with ⟨target, targets, htarget⟩
  rcases Option.isSome_iff_exists.mp hready.request with ⟨req, hreq⟩
  refine ⟨{ upstreamReq := upstreamReq dest h.service target req, requestBody := h.requestBody }, ?_⟩
  simp [onEOM, hdest, htarget, hreq]

end GatewayHandler

/-- The handler as the factories create it. -/
def TerminalHandler.Routed : TerminalHandler → Prop
  | .gateway h => h.Routed
  | _ => True

/-- The handler once it has its request. -/
def TerminalHandler.Ready : TerminalHandler → Prop
  | .gateway h => h.Ready
  | .admin h _ => h.requestHeaders.isSome = true
  | _ => True

/-! ## Answers -/

/-- One answer: a complete response, or one `UpstreamClient` that will give it. -/
def AnsweredOnce (out : List HandlerEffect) : Prop :=
  (∃ r : Response, out = r.sent) ∨ ∃ addr client, out = [.connect addr client]

/-- The handlers that answer the request itself. -/
def TerminalHandler.answersAtOnce : TerminalHandler → Bool
  | .notFound | .badGateway _ => true
  | _ => false

/-- The later events that the other handlers answer. -/
def StreamEvent.asksForAnswer : StreamEvent → Bool
  | .onBody _ => false
  | .onUpgrade _ | .onEOM => true

/-- The events a handler answers. -/
def answersTo (atOnce : Bool) : RequestEvent → Bool
  | .onRequest _ => atOnce
  | .stream ev => !atOnce && ev.asksForAnswer

/-- An event is answered once, or not at all. -/
def Answers (atOnce : Bool) (ev : RequestEvent) (out : List HandlerEffect) : Prop :=
  if answersTo atOnce ev = true then AnsweredOnce out else out = []

namespace GatewayHandler

/-- Step lemma: a handler that has its request reads every later event. -/
theorem step_stream {h : GatewayHandler} (hready : h.Ready) (ev : StreamEvent) :
    ∃ h' out, h.step (.stream ev) = some (h', out) ∧ h'.Ready ∧ Answers false (.stream ev) out := by
  cases ev with
  | onBody body => exact ⟨_, _, rfl, ⟨⟨hready.destination, hready.target⟩, hready.request⟩, rfl⟩
  | onUpgrade prot => exact ⟨_, _, rfl, hready, Or.inl ⟨_, rfl⟩⟩
  | onEOM =>
      rcases onEOM_of_ready hready with ⟨client, heom⟩
      refine ⟨{ h with requestBody := none }, [.connect h.upstreamAddr client], ?_, ?_, ?_⟩
      · simp only [step, heom, Option.map_some]
      · exact ⟨⟨hready.destination, hready.target⟩, hready.request⟩
      · exact Or.inr ⟨_, _, rfl⟩

/-- Run lemma: a routed handler reads every request to its end. -/
theorem run_of_routed {h : GatewayHandler} (hrouted : h.Routed) (req : HTTPMessage) (evs : List StreamEvent) :
    ∃ h' out, machine.run h (.onRequest req :: evs.map .stream) = some (h', out) := by
  have hrequest : machine.step h (.onRequest req) = some (h.onRequest req, []) := rfl
  have hstream : ∀ h, Ready h → ∀ ev ∈ evs.map RequestEvent.stream,
      ∃ h' out, machine.step h ev = some (h', out) ∧ Ready h' ∧ Answers false ev out := by
    intro h hready ev hev
    rcases List.mem_map.mp hev with ⟨ev, -, rfl⟩
    exact step_stream hready ev
  rcases PartialMachine.run_of_invariant hstream (ready_onRequest hrouted req) with ⟨h', outs, hrun, -, -⟩
  exact ⟨h', _, PartialMachine.run_cons_of_step hrequest hrun⟩

end GatewayHandler

namespace TerminalHandler

variable (env : AdminEnv)

theorem step_onRequest {t : TerminalHandler} (hrouted : t.Routed) (msg : HTTPMessage) :
    ∃ t' out, t.step env (.onRequest msg) = some (t', out) ∧
      (t'.Ready ∧ t'.answersAtOnce = t.answersAtOnce) ∧ Answers t.answersAtOnce (.onRequest msg) out := by
  cases t with
  | gateway h => exact ⟨_, _, rfl, ⟨GatewayHandler.ready_onRequest hrouted msg, rfl⟩, rfl⟩
  | admin h shared => exact ⟨_, _, rfl, ⟨rfl, rfl⟩, rfl⟩
  | notFound => exact ⟨_, _, rfl, ⟨trivial, rfl⟩, Or.inl ⟨_, rfl⟩⟩
  | badGateway text => exact ⟨_, _, rfl, ⟨trivial, rfl⟩, Or.inl ⟨_, rfl⟩⟩

/-- The admin handler answers the end of every request. -/
theorem exists_onEOM {h : AdminHandler} (hrequest : h.requestHeaders.isSome = true) (shared : SharedConfig) :
    ∃ shared' reply, h.onEOM env shared = some (shared', reply) := by
  rcases Option.isSome_iff_exists.mp hrequest with ⟨headers, hheaders⟩
  simp only [AdminHandler.onEOM, hheaders, Option.bind_eq_bind, Option.bind_some]
  split
  · exact ⟨_, _, rfl⟩
  · split
    · exact ⟨_, _, rfl⟩
    · exact ⟨_, _, rfl⟩

/-- Step lemma: a handler that has its request reads every later event, and answers
those that ask for it. -/
theorem step_stream {t : TerminalHandler} (hready : t.Ready) (ev : StreamEvent) :
    ∃ t' out, t.step env (.stream ev) = some (t', out) ∧
      (t'.Ready ∧ t'.answersAtOnce = t.answersAtOnce) ∧ Answers t.answersAtOnce (.stream ev) out := by
  cases t with
  | gateway h =>
      rcases GatewayHandler.step_stream hready ev with ⟨h', out, hstep, hready', hanswers⟩
      refine ⟨.gateway h', out, ?_, ⟨hready', rfl⟩, hanswers⟩
      simp only [step, hstep, Option.map_some]
  | admin h shared =>
      cases ev with
      | onBody body => exact ⟨_, _, rfl, ⟨hready, rfl⟩, rfl⟩
      | onUpgrade prot => exact ⟨_, _, rfl, ⟨hready, rfl⟩, Or.inl ⟨_, rfl⟩⟩
      | onEOM =>
          rcases exists_onEOM env hready shared with ⟨shared', reply, heom⟩
          refine ⟨.admin h shared', reply.sent, ?_, ⟨hready, rfl⟩, Or.inl ⟨_, rfl⟩⟩
          simp only [step, heom, Option.map_some]
  | notFound => exact ⟨_, _, rfl, ⟨trivial, rfl⟩, rfl⟩
  | badGateway text => exact ⟨_, _, rfl, ⟨trivial, rfl⟩, rfl⟩

/-- Run lemma: every request is read to its end, event by event. -/
theorem run_request {t : TerminalHandler} (hrouted : t.Routed) (msg : HTTPMessage) (evs : List StreamEvent) :
    ∃ t' outs, (machine env).run t (.onRequest msg :: evs.map .stream) = some (t', outs.flatten) ∧
      List.Forall₂ (Answers t.answersAtOnce) (.onRequest msg :: evs.map .stream) outs := by
  rcases step_onRequest env hrouted msg with ⟨t₁, out, hstep, hinv, hanswers⟩
  have hstream : ∀ s, (s.Ready ∧ s.answersAtOnce = t.answersAtOnce) → ∀ ev ∈ evs.map RequestEvent.stream,
      ∃ s' out, (machine env).step s ev = some (s', out) ∧
        (s'.Ready ∧ s'.answersAtOnce = t.answersAtOnce) ∧ Answers t.answersAtOnce ev out := by
    rintro s ⟨hready, hkind⟩ ev hev
    rcases List.mem_map.mp hev with ⟨ev, -, rfl⟩
    rw [← hkind]
    exact step_stream env hready ev
  rcases PartialMachine.run_of_invariant hstream hinv with ⟨t', outs, hrun, -, houts⟩
  exact ⟨t', out :: outs, PartialMachine.run_cons_of_step hstep hrun, .cons hanswers houts⟩

end TerminalHandler

/-! ## Counting answers -/

/-- The effect that opens an answer. -/
def HandlerEffect.opens : HandlerEffect → Bool
  | .respond (.sendHeaders _) | .connect _ _ => true
  | _ => false

theorem countP_opens_of_answeredOnce {out : List HandlerEffect} (h : AnsweredOnce out) :
    out.countP HandlerEffect.opens = 1 := by
  rcases h with ⟨r, rfl⟩ | ⟨addr, client, rfl⟩
  · rw [Response.sent, Response.sendWithEOM]
    cases r.body <;> rfl
  · rfl

/-- A run opens as many answers as there are events it answers. -/
theorem countP_opens_of_answers {atOnce : Bool} {evs : List RequestEvent} {outs : List (List HandlerEffect)}
    (h : List.Forall₂ (Answers atOnce) evs outs) :
    outs.flatten.countP HandlerEffect.opens = evs.countP (answersTo atOnce) := by
  induction h with
  | nil => rfl
  | @cons ev out evs outs hev hevs ih =>
      rw [List.flatten_cons, List.countP_append, List.countP_cons, ih]
      unfold Answers at hev
      split at hev
      · next hasks =>
          rw [countP_opens_of_answeredOnce hev, if_pos hasks]
          omega
      · next hasks =>
          rw [hev, if_neg hasks, List.countP_nil]
          omega

/-- If no event is answered, nothing is sent. -/
theorem flatten_eq_nil_of_answers {atOnce : Bool} {evs : List RequestEvent}
    {outs : List (List HandlerEffect)} (h : List.Forall₂ (Answers atOnce) evs outs)
    (hnone : evs.countP (answersTo atOnce) = 0) : outs.flatten = [] := by
  induction h with
  | nil => rfl
  | @cons ev out evs outs hev hevs ih =>
      rw [List.countP_cons] at hnone
      have hasks : ¬ answersTo atOnce ev = true := by
        intro hasks
        rw [if_pos hasks] at hnone
        omega
      rw [Answers, if_neg hasks] at hev
      rw [List.flatten_cons, hev, List.nil_append]
      apply ih
      omega

/-- If one event is answered, its answer is all that is sent. -/
theorem answeredOnce_of_answers {atOnce : Bool} {evs : List RequestEvent} {outs : List (List HandlerEffect)}
    (h : List.Forall₂ (Answers atOnce) evs outs) (hone : evs.countP (answersTo atOnce) = 1) :
    AnsweredOnce outs.flatten := by
  induction h with
  | nil => cases hone
  | @cons ev out evs outs hev hevs ih =>
      rw [List.countP_cons] at hone
      unfold Answers at hev
      split at hev
      · next hasks =>
          rw [if_pos hasks] at hone
          rw [List.flatten_cons, flatten_eq_nil_of_answers hevs (by omega), List.append_nil]
          exact hev
      · next hasks =>
          rw [if_neg hasks] at hone
          rw [List.flatten_cons, hev, List.nil_append]
          exact ih hone

/-- The events of a request that a handler answers. -/
theorem countP_answersTo_eq_one_iff (atOnce : Bool) (msg : HTTPMessage) (evs : List StreamEvent) :
    (RequestEvent.onRequest msg :: evs.map .stream).countP (answersTo atOnce) = 1 ↔
      atOnce = true ∨ evs.countP StreamEvent.asksForAnswer = 1 := by
  rw [List.countP_cons, List.countP_map]
  cases atOnce with
  | true =>
      have hnone : evs.countP (answersTo true ∘ RequestEvent.stream) = 0 := by
        rw [List.countP_eq_zero]
        intro ev _
        simp [answersTo]
      simp [hnone, answersTo]
  | false =>
      have hsame : evs.countP (answersTo false ∘ RequestEvent.stream) =
          evs.countP StreamEvent.asksForAnswer := by
        apply List.countP_congr
        intro ev _
        simp [answersTo]
      simp [hsame, answersTo]

/-- **Each terminal handler answers a request once**, for every request and every
list of later events, exactly when it answers the request itself or one of the
events is an upgrade or the end of the message. -/
theorem answeredOnce_iff (env : AdminEnv) (t : TerminalHandler) (hrouted : t.Routed) (msg : HTTPMessage)
    (evs : List StreamEvent) :
    ∃ t' out, (TerminalHandler.machine env).run t (.onRequest msg :: evs.map .stream) = some (t', out) ∧
      (AnsweredOnce out ↔ t.answersAtOnce = true ∨ evs.countP StreamEvent.asksForAnswer = 1) := by
  rcases TerminalHandler.run_request env hrouted msg evs with ⟨t', outs, hrun, houts⟩
  refine ⟨t', outs.flatten, hrun, ?_⟩
  rw [← countP_answersTo_eq_one_iff t.answersAtOnce msg evs]
  constructor
  · intro honce
    rw [← countP_opens_of_answers houts]
    exact countP_opens_of_answeredOnce honce
  · exact answeredOnce_of_answers houts

namespace Sample

/-- A handler with one destination and one target. -/
def routed : TerminalHandler :=
  .gateway
    { router := { destinations := [{ destinationName := str "svc" }] }
      service := { loadBalancing := { targets := [{ host := str "10.0.0.1", port := 80 }] } }
      upstreamAddr := ⟨str "10.0.0.1", 80⟩ }

/-- `GET /` without headers. -/
def getRoot : HTTPMessage := ⟨str "GET", str "/", str "/", [], []⟩

/-- No text is JSON, and the directory does not exist. -/
def adminEnv : AdminEnv := ⟨fun _ => none, .missing⟩

theorem routed_routed : routed.Routed := ⟨by decide, by decide⟩

end Sample

/-- A request with a body that ends is an instance. -/
theorem posted_request_answeredOnce :
    ∃ t' out, (TerminalHandler.machine Sample.adminEnv).run Sample.routed
        (.onRequest Sample.getRoot :: [StreamEvent.onBody (str "a"), .onEOM].map .stream) = some (t', out) ∧
      AnsweredOnce out := by
  rcases answeredOnce_iff Sample.adminEnv Sample.routed Sample.routed_routed Sample.getRoot
    [.onBody (str "a"), .onEOM] with ⟨t', out, hrun, honce⟩
  exact ⟨t', out, hrun, honce.mpr (Or.inr rfl)⟩

/-- An upgraded stream that still ends: the handler sends a complete 400 and then
creates an `UpstreamClient` for the same request. -/
theorem upgraded_request_answered_twice :
    ∃ t' client, (TerminalHandler.machine Sample.adminEnv).run Sample.routed
        (.onRequest Sample.getRoot :: [StreamEvent.onUpgrade .tcp, .onEOM].map .stream) =
          some (t', GatewayHandler.onUpgrade.sent ++ [.connect ⟨str "10.0.0.1", 80⟩ client]) ∧
      ¬ AnsweredOnce (GatewayHandler.onUpgrade.sent ++ [.connect ⟨str "10.0.0.1", 80⟩ client]) := by
  refine ⟨_, _, rfl, ?_⟩
  intro honce
  have hcount := countP_opens_of_answeredOnce honce
  exact absurd hcount (by decide)

end Kimchi
