import Kimchi.Http.Message
import Kimchi.Library.Machine

/-!
# The upstream side of a proxied request

`handler/upstream_client.cpp`.  An `UpstreamClient` is a machine: it reads the
callbacks of the connector and of the upstream transaction, and emits calls on the
upstream transaction `txn_` and on the client-side `ResponseHandler` `downstream_`.

The callbacks do not come in any order.  `UpstreamPhase.next` is the contract of the
proxygen handler interfaces: one `connectError`, or `connectSuccess` and then
interim headers, the final headers, body, the end of the message, with errors at any
point and `detachTransaction` last.  An error that concerns the ingress side ends
the ingress callbacks, an egress-only error does not.
-/

namespace Kimchi

open Library

/-- `proxygen::HTTPException::Direction`. -/
inductive ErrorDirection where
  | ingress
  | egress
  | ingressAndEgress
  deriving DecidableEq, Repr

/-- The callbacks of `HTTPConnector::Callback` and `HTTPTransactionHandler`. -/
inductive UpstreamCallback where
  | connectSuccess
  | connectError
  | onHeadersComplete (msg : ResponseHead)
  | onBody (chain : Str)
  | onTrailers
  | onEOM
  | onUpgrade
  | onEgressPaused
  | onEgressResumed
  | onError (direction : ErrorDirection)
  | detachTransaction
  deriving DecidableEq, Repr

/-- The callback delivers response headers, interim or final. -/
@[simp] def UpstreamCallback.isHeaders : UpstreamCallback → Bool
  | .onHeadersComplete _ => true
  | _ => false

/-- The callback reports an error, in either direction. -/
@[simp] def UpstreamCallback.isError : UpstreamCallback → Bool
  | .onError _ => true
  | _ => false

/-- The `HTTPMessage` built for the upstream: its method, URL and headers; the
version is always 1.1. -/
structure UpstreamRequest where
  method : Str
  url : Str
  headers : HTTPHeaders
  deriving DecidableEq, Repr

/-- The calls made on the upstream `HTTPTransaction`. -/
inductive TransactionCall where
  | sendHeaders (req : UpstreamRequest)
  | sendBody (body : Str)
  | sendEOM
  deriving DecidableEq, Repr

/-- What an `UpstreamClient` emits: calls on `txn_` and calls on `downstream_`. -/
inductive UpstreamOutput where
  | txn (call : TransactionCall)
  | downstream (call : ResponseCall)
  deriving DecidableEq, Repr

/-- The members of `UpstreamClient` that its callbacks read or write.  `deleted`
records `delete this`. -/
structure UpstreamClient where
  upstreamReq : UpstreamRequest
  requestBody : Option Str
  headersSent : Bool := false
  deleted : Bool := false
  deriving DecidableEq, Repr

namespace UpstreamClient

/-- A complete response to the client.  `headersSent_` is not set by it. -/
def sendErrorResponse (status : Nat) (body : Str) : List UpstreamOutput :=
  ((jsonResponse status (if status = 502 then "Bad Gateway" else "Service Unavailable")
    body).sendWithEOM).map .downstream

/-- The request is sent whole: headers, the body if there is one, and the end. -/
def connectSuccess (c : UpstreamClient) : UpstreamClient × List UpstreamOutput :=
  ({ c with requestBody := none },
    [.txn (.sendHeaders c.upstreamReq)] ++ c.requestBody.toList.map (fun b => .txn (.sendBody b)) ++
      [.txn .sendEOM])

/-- The client is answered, and the object deletes itself. -/
def connectError (c : UpstreamClient) : UpstreamClient × List UpstreamOutput :=
  ({ c with deleted := true },
    sendErrorResponse 502 (errorBody "bad_gateway" "upstream connect failed"))

/-- Response headers are relayed, interim ones too. -/
def onHeadersComplete (c : UpstreamClient) (msg : ResponseHead) :
    UpstreamClient × List UpstreamOutput :=
  ({ c with headersSent := true }, [.downstream (.sendHeaders msg)])

/-- A piece of the body is relayed. -/
def onBody (c : UpstreamClient) (chain : Str) : UpstreamClient × List UpstreamOutput :=
  (c, [.downstream (.sendBody chain)])

/-- The end of the response is relayed. -/
def onEOM (c : UpstreamClient) : UpstreamClient × List UpstreamOutput :=
  (c, [.downstream .sendEOM])

/-- An error is answered with 502 before the first headers; after them nothing is sent. -/
def onError (c : UpstreamClient) : UpstreamClient × List UpstreamOutput :=
  if !c.headersSent then
    (c, sendErrorResponse 502 (errorBody "bad_gateway" "upstream error"))
  else
    (c, [])

/-- The last callback of a transaction. -/
def detachTransaction (c : UpstreamClient) : UpstreamClient × List UpstreamOutput :=
  ({ c with deleted := true }, [])

/-- One callback.  `onTrailers`, `onUpgrade`, `onEgressPaused` and `onEgressResumed`
have empty bodies. -/
def step (c : UpstreamClient) : UpstreamCallback → UpstreamClient × List UpstreamOutput
  | .connectSuccess => c.connectSuccess
  | .connectError => c.connectError
  | .onHeadersComplete msg => c.onHeadersComplete msg
  | .onBody chain => c.onBody chain
  | .onEOM => c.onEOM
  | .onError _ => c.onError
  | .detachTransaction => c.detachTransaction
  | .onTrailers | .onUpgrade | .onEgressPaused | .onEgressResumed => (c, [])

/-- The client as a machine over its callbacks. -/
def machine : Machine UpstreamClient UpstreamCallback UpstreamOutput := ⟨step⟩

end UpstreamClient

/-- The calls on `downstream_` among the outputs. -/
def downstreamCalls (out : List UpstreamOutput) : List ResponseCall :=
  out.filterMap fun
    | .downstream call => some call
    | .txn _ => none

@[simp] theorem downstreamCalls_nil : downstreamCalls [] = [] := rfl

@[simp] theorem downstreamCalls_append (out₁ out₂ : List UpstreamOutput) :
    downstreamCalls (out₁ ++ out₂) = downstreamCalls out₁ ++ downstreamCalls out₂ := by
  simp [downstreamCalls]

@[simp] theorem downstreamCalls_downstream (calls : List ResponseCall) :
    downstreamCalls (calls.map .downstream) = calls := by
  simp [downstreamCalls, List.filterMap_map]

namespace UpstreamClient

/-- The calls a callback makes on `downstream_`. -/
def relayed (c : UpstreamClient) (cb : UpstreamCallback) : List ResponseCall :=
  downstreamCalls (c.step cb).2

/-- The calls of `sendErrorResponse(502, body)`: a complete response. -/
def badGatewayCalls (body : Str) : List ResponseCall :=
  [.sendHeaders (jsonResponse 502 "Bad Gateway" body).head, .sendBody body, .sendEOM]

theorem downstreamCalls_sendErrorResponse (body : Str) :
    downstreamCalls (sendErrorResponse 502 body) = badGatewayCalls body := by
  simp only [sendErrorResponse, if_pos, sendWithEOM_jsonResponse, downstreamCalls_downstream]
  rfl

variable (c : UpstreamClient)

@[simp] theorem relayed_connectSuccess : c.relayed .connectSuccess = [] := by
  cases hbody : c.requestBody <;> simp [relayed, step, connectSuccess, downstreamCalls, hbody]

@[simp] theorem relayed_connectError :
    c.relayed .connectError = badGatewayCalls (errorBody "bad_gateway" "upstream connect failed") := by
  simp only [relayed, step, connectError, downstreamCalls_sendErrorResponse]

@[simp] theorem relayed_onHeadersComplete (msg : ResponseHead) :
    c.relayed (.onHeadersComplete msg) = [.sendHeaders msg] := rfl

@[simp] theorem relayed_onBody (chain : Str) : c.relayed (.onBody chain) = [.sendBody chain] := rfl

@[simp] theorem relayed_onEOM : c.relayed .onEOM = [.sendEOM] := rfl

@[simp] theorem relayed_onError (direction : ErrorDirection) :
    c.relayed (.onError direction) =
      if c.headersSent then [] else badGatewayCalls (errorBody "bad_gateway" "upstream error") := by
  cases hsent : c.headersSent <;>
    simp [relayed, step, onError, hsent, downstreamCalls_sendErrorResponse]

@[simp] theorem relayed_onTrailers : c.relayed .onTrailers = [] := rfl

@[simp] theorem relayed_onUpgrade : c.relayed .onUpgrade = [] := rfl

@[simp] theorem relayed_onEgressPaused : c.relayed .onEgressPaused = [] := rfl

@[simp] theorem relayed_onEgressResumed : c.relayed .onEgressResumed = [] := rfl

@[simp] theorem relayed_detachTransaction : c.relayed .detachTransaction = [] := rfl

/-- `headersSent_` is set by `onHeadersComplete` and by nothing else. -/
@[simp] theorem headersSent_step (cb : UpstreamCallback) :
    (c.step cb).1.headersSent = (c.headersSent || cb.isHeaders) := by
  cases cb with
  | onError direction =>
      cases hsent : c.headersSent <;> simp [step, onError, hsent]
  | _ => simp [step, connectSuccess, connectError, onHeadersComplete, onBody, onEOM, detachTransaction]

/-- The calls on `downstream_` over a callback sequence. -/
def responseCalls (cbs : List UpstreamCallback) : List ResponseCall :=
  downstreamCalls (machine.outputs c cbs)

@[simp] theorem responseCalls_nil : c.responseCalls [] = [] := rfl

theorem responseCalls_cons (cb : UpstreamCallback) (cbs : List UpstreamCallback) :
    c.responseCalls (cb :: cbs) = c.relayed cb ++ (c.step cb).1.responseCalls cbs := by
  simp [responseCalls, Machine.outputs_cons, relayed, machine]

end UpstreamClient

/-- What is left of the upstream ingress. -/
inductive IngressPhase where
  | headers
  | body
  | done
  deriving DecidableEq, Repr

/-- The phase of the upstream exchange. -/
inductive UpstreamPhase where
  | connecting
  | established (ingress : IngressPhase)
  | gone
  deriving DecidableEq, Repr

/-- The contract of the handler interfaces: which callback may come in which
phase. -/
def UpstreamPhase.next : UpstreamPhase → UpstreamCallback → Option UpstreamPhase
  | .connecting, .connectError => some .gone
  | .connecting, .connectSuccess => some (.established .headers)
  | .established .headers, .onHeadersComplete msg =>
      some (.established (if msg.is1xx then .headers else .body))
  | .established .body, .onBody _ => some (.established .body)
  | .established .body, .onTrailers => some (.established .body)
  | .established .body, .onEOM => some (.established .done)
  | .established i, .onError direction =>
      -- only an egress error leaves the ingress side running
      some (.established (if direction = .egress then i else .done))
  | .established i, .onUpgrade => some (.established i)
  | .established i, .onEgressPaused => some (.established i)
  | .established i, .onEgressResumed => some (.established i)
  | .established _, .detachTransaction => some .gone
  | _, _ => none

end Kimchi
