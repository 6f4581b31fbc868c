import Kimchi.Config.Models
import Kimchi.Handler.UpstreamClient

/-!
# The terminal handler

`handler/gateway_handler.cpp`.  The handler collects a request and, at its end,
builds the upstream request and hands it to a fresh `UpstreamClient`.  The three
unchecked accesses of `onEOM` are the only way it can go wrong: `onEOM` is `none`
where the source would read past the end of a vector or through a null pointer.
-/

namespace Kimchi

open Config

/-- `folly::SocketAddress`, a resolved address. -/
structure SocketAddress where
  ip : Str
  port : UInt16
  deriving DecidableEq, Repr

/-- The decimal digits of a port. -/
def portDigits (port : UInt16) : Str := (Nat.toDigits 10 port.toNat).map fun d => UInt8.ofNat d.toNat

/-- `GatewayHandler`: what the factory gives it, and what it has collected of its request. -/
structure GatewayHandler where
  router : RouterConfig
  service : ServiceConfig
  upstreamAddr : SocketAddress
  requestHeaders : Option HTTPMessage := none
  requestBody : Option Str := none
  deriving DecidableEq, Repr

namespace GatewayHandler

/-- The message is kept until the request ends. -/
def onRequest (h : GatewayHandler) (req : HTTPMessage) : GatewayHandler :=
  { h with requestHeaders := some req }

/-- The chunk becomes the body, or is appended to the chain. -/
def onBody (h : GatewayHandler) (body : Str) : GatewayHandler :=
  { h with requestBody := some (match h.requestBody with
      | none => body
      | some chain => chain ++ body) }

/-- The URL sent upstream.  A rewrite replaces the path and keeps the query. -/
def upstreamUrl (dest : RouterDestination) (req : HTTPMessage) : Str :=
  match dest.rewrite with
  | some rewrite =>
      if rewrite.path ≠ [] then
        if req.queryString ≠ [] then rewrite.path ++ (str "?" ++ req.queryString) else rewrite.path
      else
        -- a rewrite with an empty path leaves the URL alone
        req.url
  | none => req.url

/-- The target listens on the port that the protocol of the service implies. -/
def isDefaultPort (service : ServiceConfig) (target : LoadBalancingTarget) : Bool :=
  (service.protocol = str "HTTP" && target.port = 80) ||
    (service.protocol = str "HTTPS" && target.port = 443)

/-- The target's host, with its port unless that is the default of the protocol. -/
def targetHost (service : ServiceConfig) (target : LoadBalancingTarget) : Str :=
  if isDefaultPort service target then target.host
  else target.host ++ (str ":" ++ portDigits target.port)

/-- The value of the `Host` header: that of the rewrite, or the target. -/
def hostHeader (dest : RouterDestination) (service : ServiceConfig) (target : LoadBalancingTarget) : Str :=
  match dest.rewrite with
  | some rewrite => if rewrite.host ≠ [] then rewrite.host else targetHost service target
  | none => targetHost service target

/-- The message `onEOM` builds for the upstream. -/
def upstreamReq (dest : RouterDestination) (service : ServiceConfig) (target : LoadBalancingTarget)
    (req : HTTPMessage) : UpstreamRequest :=
  let copied := req.headers.foldl (fun hdrs (name, val) => HTTPHeaders.add hdrs name val) []
  { method := req.method
    url := upstreamUrl dest req
    headers := HTTPHeaders.set copied (str "Host") (hostHeader dest service target) }

/-- `onEOM`: the handler left behind and the client it connects to
`upstreamAddr_`. -/
def onEOM (h : GatewayHandler) : Option (GatewayHandler × UpstreamClient) := do
  let dest ← h.router.destinations[0]?
  let target ← h.service.loadBalancing.targets[0]?
  let req ← h.requestHeaders
  return ({ h with requestBody := none },
    { upstreamReq := upstreamReq dest h.service target req
      requestBody := h.requestBody })

/-- `onUpgrade` answers 400 by itself. -/
def onUpgrade : Response :=
  { head := { status := 400, reason := str "Bad Request", headers := [] }, body := none }

/-- The client a handler creates has sent nothing yet. -/
theorem onEOM_headersSent {h h' : GatewayHandler} {client : UpstreamClient}
    (heom : h.onEOM = some (h', client)) : client.headersSent = false := by
  unfold onEOM at heom
  simp only [Option.bind_eq_bind, Option.bind_eq_some_iff, Option.pure_def, Option.some.injEq,
    Prod.mk.injEq] at heom
  obtain ⟨dest, -, target, -, req, -, -, rfl⟩ := heom
  rfl

end GatewayHandler

end Kimchi
