import Kimchi.Policy.ChainGating

/-!
# The JWT policy as a filter

`JwtPolicy::onRequest` inside a chain: what it hands to the next handler and what it
answers itself.  The library may throw in any of its calls; every exception ends in
a 401 of the policy's own, and then nothing reaches the next handler.

* `without_withIdentity` — the rewrite of a forwarded message leaves every other
  header in place, in its order.
* `jwtPolicy_decides` — the decision, the forwarded message and the refusal.
-/

namespace Kimchi

open Config Library

/-- The headers the policy writes or removes. -/
def rewrittenHeaders : List Str := str "Authorization" :: identityHeaders

namespace JwtPolicy

/-- The headers the policy does not rewrite keep their values, their spelling and
their order. -/
theorem without_withIdentity (id : Identity) (hdrs : HTTPHeaders) :
    Multimap.without lower (withIdentity id hdrs) rewrittenHeaders =
      Multimap.without lower hdrs rewrittenHeaders := by
  have hset (hdrs : HTTPHeaders) {name : Str} (hname : name ∈ rewrittenHeaders) (value : Str) :
      Multimap.without lower (hdrs.set name value) rewrittenHeaders =
        Multimap.without lower hdrs rewrittenHeaders :=
    Multimap.without_set_of_mem hname
  have hremove (hdrs : HTTPHeaders) : Multimap.without lower (hdrs.remove (str "Authorization"))
      rewrittenHeaders = Multimap.without lower hdrs rewrittenHeaders :=
    Multimap.without_remove_of_mem (by decide)
  unfold withIdentity
  rw [hremove, hset _ (by decide)]
  cases id.issuer with
  | none => exact hset _ (by decide) _
  | some issuer =>
      change Multimap.without lower ((hdrs.set _ _).set _ issuer) rewrittenHeaders = _
      rw [hset _ (by decide), hset _ (by decide)]

end JwtPolicy

/-- A forwarded message: the token is gone, the subject is the token's, the method is
marked, and nothing else has changed. -/
structure ForwardedFor (lib : JwtLib) (msg msg' : HTTPMessage) : Prop where
  subject : ∃ token decoded sub, JwtPolicy.BearsToken msg token ∧ lib.decode token = .ok decoded ∧
    decoded.payload.lookup (str "sub") = some (.string sub) ∧
    msg'.headers.values (str "x-jwt-subject") = [sub]
  authMethod : msg'.headers.values (str "x-auth-method") = [str "jwt"]
  authorization : msg'.headers.values (str "Authorization") = []
  otherHeaders : Multimap.without lower msg'.headers rewrittenHeaders =
    Multimap.without lower msg.headers rewrittenHeaders
  rest : msg' = { msg with headers := msg'.headers }

theorem forwardedFor_of_forward {lib : JwtLib} {cache : JwksCache} {msg msg' : HTTPMessage}
    (h : JwtPolicy.onRequest lib cache msg = .forward msg') : ForwardedFor lib msg msg' := by
  obtain ⟨token, id, hbears, heval, rfl⟩ := JwtPolicy.onRequest_eq_forward h
  obtain ⟨decoded, hverify, hid⟩ := bind_eq_ok_iff.mp heval
  have hdecode := (JwtPolicy.verifyToken_eq_ok_iff.mp hverify).1
  have hsub := (JwtPolicy.identify_eq_ok_iff.mp hid).1
  exact {
    subject := ⟨token, decoded, id.subject, hbears, hdecode, hsub,
      JwtPolicy.values_withIdentity_subject id msg.headers⟩
    authMethod := JwtPolicy.values_withIdentity_authMethod id msg.headers
    authorization := JwtPolicy.values_withIdentity_authorization id msg.headers
    otherHeaders := JwtPolicy.without_withIdentity id msg.headers
    rest := rfl }

namespace RequestHandler

variable {τ : Type*} {env : FilterEnv} {cache : JwksCache} {msg msg' : HTTPMessage}

theorem deliver_jwtPolicy_of_forward (next : RequestHandler τ)
    (h : JwtPolicy.onRequest env.jwt cache msg = .forward msg') :
    deliver env (.filter (.jwtPolicy cache) next) (.onRequest msg) =
      (.filter (.jwtPolicy cache) (deliver env next (.onRequest msg')).1,
        (deliver env next (.onRequest msg')).2) := by
  have hverdict : (FilterBase.jwtPolicy cache).onRequest env msg = .forward msg' := h
  simp only [deliver, hverdict]
  rfl

/-- A refusal: the policy answers, raises its flag, and drops every later event. -/
theorem run_jwtPolicy_of_block (next : RequestHandler τ) {response : Response}
    (h : JwtPolicy.onRequest env.jwt cache msg = .block response) (evs : List StreamEvent) :
    (machine env).run (.filter (.jwtPolicy cache) next) (.onRequest msg :: evs.map .stream) =
      (.filter { FilterBase.jwtPolicy cache with blocked := true } next,
        response.sendWithEOM.map .respond) := by
  have hverdict : (FilterBase.jwtPolicy cache).onRequest env msg = .block response := h
  have hfirst : (machine env).step (.filter (.jwtPolicy cache) next) (.onRequest msg) =
      (.filter { FilterBase.jwtPolicy cache with blocked := true } next,
        response.sendWithEOM.map .respond) := by
    simp only [step_machine, deliver, hverdict]
    rfl
  have hlater : ∀ ev ∈ evs.map RequestEvent.stream,
      (machine env).step (.filter { FilterBase.jwtPolicy cache with blocked := true } next) ev =
        (.filter { FilterBase.jwtPolicy cache with blocked := true } next, []) := by
    intro ev hev
    obtain ⟨ev, -, rfl⟩ := List.mem_map.mp hev
    rfl
  rw [Machine.run_cons, hfirst, Machine.run_of_fixed _ hlater]
  simp

end RequestHandler

/-- **The JWT policy decides exactly and fails closed.**  For every library, every key
set and configuration and every message: the policy forwards exactly the messages
that bear a token it accepts; what it forwards is the message with its identity
headers, and goes to the next handler; in every other case, whichever call throws,
it sends one complete 401 and the next handler receives nothing, whatever events
follow. -/
theorem jwtPolicy_decides {τ : Type*} (env : FilterEnv) (cache : JwksCache) (next : RequestHandler τ)
    (msg : HTTPMessage) :
    ((∃ msg', JwtPolicy.onRequest env.jwt cache msg = .forward msg') ↔
      ∃ token, JwtPolicy.BearsToken msg token ∧ Accepts env.jwt cache token) ∧
    (∀ msg', JwtPolicy.onRequest env.jwt cache msg = .forward msg' →
      ForwardedFor env.jwt msg msg' ∧
      RequestHandler.deliver env (.filter (.jwtPolicy cache) next) (.onRequest msg) =
        (.filter (.jwtPolicy cache) (RequestHandler.deliver env next (.onRequest msg')).1,
          (RequestHandler.deliver env next (.onRequest msg')).2)) ∧
    ((¬ ∃ msg', JwtPolicy.onRequest env.jwt cache msg = .forward msg') →
      ∃ response : Response, response.head.status = 401 ∧
        ∀ evs : List StreamEvent,
          (RequestHandler.machine env).run (.filter (.jwtPolicy cache) next)
              (.onRequest msg :: evs.map .stream) =
            (.filter { FilterBase.jwtPolicy cache with blocked := true } next,
              response.sendWithEOM.map .respond)) := by
  refine ⟨exists_forward_iff, ?_, ?_⟩
  · intro msg' hforward
    exact ⟨forwardedFor_of_forward hforward, RequestHandler.deliver_jwtPolicy_of_forward next hforward⟩
  · intro hnot
    rcases JwtPolicy.onRequest_cases env.jwt cache msg with ⟨token, id, -, -, hforward⟩ | ⟨message, hblock⟩
    · exact absurd ⟨_, hforward⟩ hnot
    · exact ⟨JwtPolicy.unauthorized message, rfl, RequestHandler.run_jwtPolicy_of_block next hblock⟩

end Kimchi
