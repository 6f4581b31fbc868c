import Kimchi.Handler.TerminalHandlers

/-!
# What the upstream receives

A request that reaches a `GatewayHandler` as `onRequest`, any number of `onBody` and
`onEOM` leaves it as the calls that `UpstreamClient::connectSuccess` makes on the
upstream transaction.

`UpstreamHost` and `UpstreamUrl` state the two rewrite rules case by case;
`forwarding_faithful` says that everything else arrives as it came.
-/

namespace Kimchi

open Config Library

/-- The events of a request that is delivered in full: its message, the chunks of
its body and its end. -/
def requestEvents (req : HTTPMessage) (chunks : List Str) : List RequestEvent :=
  .onRequest req :: (chunks.map StreamEvent.onBody ++ [StreamEvent.onEOM]).map .stream

/-- The destination does not set a host of its own. -/
def KeepsHost (dest : RouterDestination) : Prop := ∀ rewrite, dest.rewrite = some rewrite → rewrite.host = []

/-- The destination does not set a path of its own. -/
def KeepsPath (dest : RouterDestination) : Prop := ∀ rewrite, dest.rewrite = some rewrite → rewrite.path = []

/-- The port is the default one of the service's protocol. -/
def UsesDefaultPort (service : ServiceConfig) (target : LoadBalancingTarget) : Prop :=
  (service.protocol = str "HTTP" ∧ target.port = 80) ∨ (service.protocol = str "HTTPS" ∧ target.port = 443)

/-- The `Host` of the upstream request. -/
inductive UpstreamHost (dest : RouterDestination) (service : ServiceConfig) (target : LoadBalancingTarget) :
    Str → Prop
  | rewritten (rewrite) (h : dest.rewrite = some rewrite) (hne : rewrite.host ≠ []) :
      UpstreamHost dest service target rewrite.host
  | defaultPort (hkeep : KeepsHost dest) (hport : UsesDefaultPort service target) :
      UpstreamHost dest service target target.host
  | explicitPort (hkeep : KeepsHost dest) (hport : ¬ UsesDefaultPort service target) :
      UpstreamHost dest service target (target.host ++ (str ":" ++ portDigits target.port))

/-- The URL of the upstream request. -/
inductive UpstreamUrl (dest : RouterDestination) (req : HTTPMessage) : Str → Prop
  | unchanged (hkeep : KeepsPath dest) : UpstreamUrl dest req req.url
  | rewritten (rewrite) (h : dest.rewrite = some rewrite) (hne : rewrite.path ≠ [])
      (hquery : req.queryString = []) : UpstreamUrl dest req rewrite.path
  | withQuery (rewrite) (h : dest.rewrite = some rewrite) (hne : rewrite.path ≠ [])
      (hquery : req.queryString ≠ []) :
      UpstreamUrl dest req (rewrite.path ++ (str "?" ++ req.queryString))

namespace GatewayHandler

theorem isDefaultPort_iff {service : ServiceConfig} {target : LoadBalancingTarget} :
    isDefaultPort service target = true ↔ UsesDefaultPort service target := by
  simp [isDefaultPort, UsesDefaultPort]

theorem upstreamHost_targetHost {dest : RouterDestination} (service : ServiceConfig)
    (target : LoadBalancingTarget) (hkeep : KeepsHost dest) :
    UpstreamHost dest service target (targetHost service target) := by
  unfold targetHost
  split
  · next hport => exact .defaultPort hkeep (isDefaultPort_iff.mp hport)
  · next hport => exact .explicitPort hkeep fun h => hport (isDefaultPort_iff.mpr h)

theorem upstreamHost_hostHeader (dest : RouterDestination) (service : ServiceConfig)
    (target : LoadBalancingTarget) :
    UpstreamHost dest service target (hostHeader dest service target) := by
  unfold hostHeader
  cases hrewrite : dest.rewrite with
  | none => exact upstreamHost_targetHost service target (by simp [KeepsHost, hrewrite])
  | some rewrite =>
      by_cases hhost : rewrite.host = []
      · simp only [hhost, ne_eq, not_true_eq_false, if_false]
        exact upstreamHost_targetHost service target (by simp [KeepsHost, hrewrite, hhost])
      · simp only [hhost, ne_eq, not_false_eq_true, if_true]
        exact .rewritten rewrite hrewrite hhost

theorem upstreamUrl_spec (dest : RouterDestination) (req : HTTPMessage) :
    UpstreamUrl dest req (upstreamUrl dest req) := by
  unfold upstreamUrl
  cases hrewrite : dest.rewrite with
  | none => exact .unchanged (by simp [KeepsPath, hrewrite])
  | some rewrite =>
      by_cases hpath : rewrite.path = []
      · simp only [hpath, ne_eq, not_true_eq_false, if_false]
        exact .unchanged (by simp [KeepsPath, hrewrite, hpath])
      · by_cases hquery : req.queryString = []
        · simp only [hpath, hquery, ne_eq, not_true_eq_false, not_false_eq_true, if_true, if_false]
          exact .rewritten rewrite hrewrite hpath hquery
        · simp only [hpath, hquery, ne_eq, not_false_eq_true, if_true]
          exact .withQuery rewrite hrewrite hpath hquery

/-- Adding the headers one by one to an empty table copies it. -/
theorem foldl_add_eq (hdrs acc : HTTPHeaders) :
    hdrs.foldl (fun hdrs (name, val) => HTTPHeaders.add hdrs name val) acc = acc ++ hdrs := by
  induction hdrs generalizing acc with
  | nil => rw [List.foldl_nil, List.append_nil]
  | cons header hdrs ih =>
      rw [List.foldl_cons, ih]
      change (acc ++ [header]) ++ hdrs = acc ++ header :: hdrs
      rw [List.append_assoc, List.singleton_append]

theorem headers_upstreamReq (dest : RouterDestination) (service : ServiceConfig)
    (target : LoadBalancingTarget) (req : HTTPMessage) :
    (upstreamReq dest service target req).headers =
      req.headers.set (str "Host") (hostHeader dest service target) := by
  change HTTPHeaders.set (req.headers.foldl _ []) _ _ = _
  rw [foldl_add_eq, List.nil_append]

/-! ## The body -/

/-- The body after more chunks. -/
def collected (body : Option Str) (chunks : List Str) : Option Str :=
  chunks.foldl (fun body chunk => some (match body with
    | none => chunk
    | some chain => chain ++ chunk)) body

theorem collected_some (body : Str) (chunks : List Str) :
    collected (some body) chunks = some (body ++ chunks.flatten) := by
  induction chunks generalizing body with
  | nil => rw [List.flatten_nil, List.append_nil]; rfl
  | cons chunk chunks ih =>
      change collected (some (body ++ chunk)) chunks = _
      rw [ih, List.flatten_cons, List.append_assoc]

/-- No chunks, no body; otherwise their concatenation, empty or not. -/
theorem collected_none (chunks : List Str) :
    collected none chunks = if chunks = [] then none else some chunks.flatten := by
  cases chunks with
  | nil => rfl
  | cons chunk chunks =>
      rw [if_neg (List.cons_ne_nil chunk chunks)]
      exact collected_some chunk chunks

/-- Run lemma: the chunks of a body, in any number. -/
theorem run_onBody (h : GatewayHandler) (chunks : List Str) :
    machine.run h ((chunks.map StreamEvent.onBody).map .stream) =
      some ({ h with requestBody := collected h.requestBody chunks }, []) := by
  induction chunks generalizing h with
  | nil => rfl
  | cons chunk chunks ih =>
      have hstep : machine.step h (.stream (.onBody chunk)) = some (h.onBody chunk, []) := rfl
      exact PartialMachine.run_cons_of_step hstep (ih (h.onBody chunk))

/-- A whole request: the client that is created for it. -/
theorem run_request {h : GatewayHandler} {dest : RouterDestination} {target : LoadBalancingTarget}
    (hdest : h.router.destinations.head? = some dest)
    (htarget : h.service.loadBalancing.targets.head? = some target)
    (hbody : h.requestBody = none) (req : HTTPMessage) (chunks : List Str) :
    machine.run h (requestEvents req chunks) =
      some ({ h with requestHeaders := some req, requestBody := none },
        [.connect h.upstreamAddr
          { upstreamReq := upstreamReq dest h.service target req
            requestBody := if chunks = [] then none else some chunks.flatten }]) := by
  have hrequest : machine.step h (.onRequest req) = some (h.onRequest req, []) := rfl
  have hchunks := run_onBody (h.onRequest req) chunks
  have hcollected : (h.onRequest req).requestBody = none := hbody
  rw [hcollected, collected_none] at hchunks
  have hend : machine.run { h.onRequest req with
        requestBody := if chunks = [] then none else some chunks.flatten } [.stream .onEOM] =
      some ({ h with requestHeaders := some req, requestBody := none },
        [.connect h.upstreamAddr
          { upstreamReq := upstreamReq dest h.service target req
            requestBody := if chunks = [] then none else some chunks.flatten }]) := by
    rw [List.head?_eq_getElem?] at hdest htarget
    simp [PartialMachine.run, machine, step, onEOM, onRequest, hdest, htarget]
  rw [requestEvents, List.map_append]
  exact PartialMachine.run_cons_of_step hrequest (PartialMachine.run_append hchunks hend)

end GatewayHandler

/-- **Faithful forwarding.**  For every request and every list of body chunks, a
handler creates one client, and what that client sends upstream is the request: the
method, the headers other than `Host` with their values in order, one `Host` and the
URL by the rewrite rules, the chunks as one body if there were any, and the end of
the message. -/
theorem forwarding_faithful (h : GatewayHandler) (dest : RouterDestination) (target : LoadBalancingTarget)
    (hdest : h.router.destinations.head? = some dest)
    (htarget : h.service.loadBalancing.targets.head? = some target)
    (hbody : h.requestBody = none) (req : HTTPMessage) (chunks : List Str) :
    ∃ h' client sent host,
      GatewayHandler.machine.run h (requestEvents req chunks) =
        some (h', [.connect h.upstreamAddr client]) ∧
      client.connectSuccess.2 =
        [.txn (.sendHeaders sent)] ++
          (if chunks = [] then [] else [.txn (.sendBody chunks.flatten)]) ++ [.txn .sendEOM] ∧
      sent.method = req.method ∧
      (∀ name, lower name ≠ lower (str "Host") → sent.headers.values name = req.headers.values name) ∧
      sent.headers.values (str "Host") = [host] ∧ UpstreamHost dest h.service target host ∧
      UpstreamUrl dest req sent.url := by
  refine ⟨_, _, GatewayHandler.upstreamReq dest h.service target req,
    GatewayHandler.hostHeader dest h.service target,
    GatewayHandler.run_request hdest htarget hbody req chunks, ?_, rfl, ?_, ?_, ?_, ?_⟩
  · cases chunks <;> rfl
  · intro name hname
    rw [GatewayHandler.headers_upstreamReq]
    exact HTTPHeaders.values_set_of_ne (Ne.symm hname)
  · rw [GatewayHandler.headers_upstreamReq]
    exact HTTPHeaders.values_set_self
  · exact GatewayHandler.upstreamHost_hostHeader dest h.service target
  · exact GatewayHandler.upstreamUrl_spec dest req

namespace Sample

/-- A destination that rewrites the path and keeps the host. -/
def rewriting : RouterDestination :=
  { destinationName := str "svc", rewrite := some { path := str "/v2", host := [] } }

/-- A handler for it, on a port that is not the default. -/
def rewritingHandler : GatewayHandler :=
  { router := { destinations := [rewriting] }
    service := { loadBalancing := { targets := [{ host := str "10.0.0.1", port := 8080 }] } }
    upstreamAddr := ⟨str "10.0.0.1", 8080⟩ }

/-- A request with a query and two headers that differ in their spelling alone. -/
def postWithQuery : HTTPMessage :=
  { method := str "POST", url := str "/v1?q=1", path := str "/v1", queryString := str "q=1"
    headers := [(str "host", str "a"), (str "X-A", str "1"), (str "x-a", str "2")] }

end Sample

/-- A request in two chunks through a rewriting destination is an instance. -/
theorem two_chunks_forwarded :
    ∃ h' client sent,
      GatewayHandler.machine.run Sample.rewritingHandler
          (requestEvents Sample.postWithQuery [str "a", str "b"]) =
        some (h', [.connect Sample.rewritingHandler.upstreamAddr client]) ∧
      client.connectSuccess.2 =
        [.txn (.sendHeaders sent)] ++ [.txn (.sendBody (str "ab"))] ++ [.txn .sendEOM] ∧
      sent.headers.values (str "x-a") = [str "1", str "2"] := by
  rcases forwarding_faithful Sample.rewritingHandler Sample.rewriting ⟨str "10.0.0.1", 8080, 1⟩ rfl rfl rfl
    Sample.postWithQuery [str "a", str "b"] with ⟨h', client, sent, host, hrun, hsent, -, hvalues, -⟩
  exact ⟨h', client, sent, hrun, hsent, hvalues (str "x-a") (by decide)⟩

end Kimchi
