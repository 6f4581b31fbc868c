import Kimchi.ByteString
import Kimchi.Library.Multimap

/-!
# HTTP messages

`proxygen::HTTPMessage` and `proxygen::HTTPHeaders` as the gateway uses them.  A
header table is an ordered multimap whose names are compared without letter case;
the operations are those of `Library.Multimap` at `lower`, under the names the
gateway calls.

Responses are written through `proxygen::ResponseBuilder`; `sendWithEOM` turns one
into the calls made on a `ResponseHandler`.
-/

namespace Kimchi

open Library

/-- `proxygen::HTTPHeaders`. -/
abbrev HTTPHeaders := Multimap Str Str

namespace HTTPHeaders

/-- All values of a header, in order. -/
def values (hdrs : HTTPHeaders) (name : Str) : List Str := Multimap.values lower hdrs name

/-- The value of a header that occurs exactly once, the empty string otherwise. -/
def getSingleOrEmpty (hdrs : HTTPHeaders) (name : Str) : Str :=
  (Multimap.single lower hdrs name).getD []

/-- `HTTPHeaders::add`. -/
def add (hdrs : HTTPHeaders) (name value : Str) : HTTPHeaders := Multimap.add hdrs name value

/-- `HTTPHeaders::set`: all headers of the name are replaced by one. -/
def set (hdrs : HTTPHeaders) (name value : Str) : HTTPHeaders := Multimap.set lower hdrs name value

/-- `HTTPHeaders::remove`: all headers of the name go. -/
def remove (hdrs : HTTPHeaders) (name : Str) : HTTPHeaders := Multimap.remove lower hdrs name

variable {hdrs : HTTPHeaders} {name name' value : Str}

@[simp] theorem values_set_self : (hdrs.set name value).values name = [value] :=
  Multimap.values_set_self

theorem values_set_of_ne (h : lower name ≠ lower name') :
    (hdrs.set name value).values name' = hdrs.values name' :=
  Multimap.values_set_of_ne h

@[simp] theorem values_remove_self : (hdrs.remove name).values name = [] :=
  Multimap.values_remove_self

theorem values_remove_of_ne (h : lower name ≠ lower name') :
    (hdrs.remove name).values name' = hdrs.values name' :=
  Multimap.values_remove_of_ne h

/-- Reading a header once depends only on the values stored under its name. -/
theorem getSingleOrEmpty_congr {hdrs₁ hdrs₂ : HTTPHeaders}
    (h : hdrs₁.values name = hdrs₂.values name) :
    hdrs₁.getSingleOrEmpty name = hdrs₂.getSingleOrEmpty name := by
  unfold getSingleOrEmpty
  rw [Multimap.single_congr h]

/-- A non-empty answer is the value of a header that occurs exactly once. -/
theorem getSingleOrEmpty_eq_iff (hne : value ≠ []) :
    hdrs.getSingleOrEmpty name = value ↔ hdrs.values name = [value] := by
  have hsingle : hdrs.getSingleOrEmpty name = value ↔
      Multimap.single lower hdrs name = some value := by
    unfold getSingleOrEmpty
    cases Multimap.single lower hdrs name with
    | none => simp [Ne.symm hne]
    | some v => simp
  rw [hsingle]
  exact Multimap.single_eq_some_iff

end HTTPHeaders

/-- `proxygen::HTTPMessage`, a request: `getMethodString`, `getURL`, `getPath`,
`getQueryString` and `getHeaders`. -/
structure HTTPMessage where
  method : Str
  url : Str
  path : Str
  queryString : Str
  headers : HTTPHeaders
  deriving DecidableEq, Repr

/-- `proxygen::HTTPMessage`, a response without its body. -/
structure ResponseHead where
  status : Nat
  reason : Str
  headers : HTTPHeaders
  deriving DecidableEq, Repr

/-- The interim responses, which another response follows. -/
def ResponseHead.is1xx (head : ResponseHead) : Bool := decide (100 ≤ head.status ∧ head.status < 200)

/-- A response under construction in a `proxygen::ResponseBuilder`. -/
structure Response where
  head : ResponseHead
  body : Option Str
  deriving DecidableEq, Repr

/-- The calls a `proxygen::ResponseHandler` receives. -/
inductive ResponseCall where
  | sendHeaders (head : ResponseHead)
  | sendBody (body : Str)
  | sendEOM
  | sendAbort
  deriving DecidableEq, Repr

/-- `ResponseBuilder::sendWithEOM`: the headers, the body if there is one, and the
end of the message.  The builder belongs to proxygen, not to this repository; what is
modelled is the order of its calls and the headers that the repository passes to it.
Headers that proxygen adds by itself, such as a `Content-Length`, are left out. -/
def Response.sendWithEOM (r : Response) : List ResponseCall :=
  .sendHeaders r.head :: (r.body.toList.map .sendBody ++ [.sendEOM])

/-- The JSON error bodies of the gateway, an object with the fields `error` and
`message`. -/
def errorBody (error message : String) : Str :=
  str ("\x7b\"error\":\"" ++ error ++ "\",\"message\":\"" ++ message ++ "\"\x7d")

/-- The JSON replies of the gateway: `.status(status, reason)`, a JSON content type
and a body. -/
def jsonResponse (status : Nat) (reason : String) (body : Str) : Response :=
  { head :=
      { status := status
        reason := str reason
        headers := [(str "Content-Type", str "application/json")] }
    body := some body }

/-- A JSON reply is its headers, its body and the end of the message. -/
theorem sendWithEOM_jsonResponse (status : Nat) (reason : String) (body : Str) :
    (jsonResponse status reason body).sendWithEOM =
      [.sendHeaders (jsonResponse status reason body).head, .sendBody body, .sendEOM] := rfl

end Kimchi
