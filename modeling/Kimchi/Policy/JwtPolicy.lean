import Kimchi.Config.Dynamic
import Kimchi.Http.Message
import Kimchi.Library.Throwing
import Kimchi.Policy.JwksCache

/-!
# The JWT policy

`JwtPolicy::onRequest` of `policy/jwt_policy.cpp`, with the trait conversions of
`folly_jwt_traits.h`.  The library jwt-cpp is a parameter: decoding, parsing a key
set, looking up a key, converting a certificate, building the RS256 algorithm and
verifying may each answer or throw.

A filter either forwards a message or blocks the request with a response
(`Verdict`).  `verifyToken` is the part of the handler that looks at the token alone
and `identify` the claims it then reads; `evaluate` runs both.
`onRequest_of_bearsToken` puts the handler together from them, and `onRequest_cases`
lists everything it can do.
-/

namespace Kimchi

open Config

/-- What a filter does with the request it was given. -/
inductive Verdict where
  | forward (msg : HTTPMessage)
  | block (response : Response)
  deriving DecidableEq, Repr

/-- The exceptions the handler tells apart: a `token_verification_exception`, or any
other `std::exception`. -/
inductive JwtError where
  | tokenVerification
  | other
  deriving DecidableEq, Repr

/-- A decoded token: its text and the claims of its header and payload. -/
structure DecodedJwt where
  token : Str
  header : List (Str × Dynamic)
  payload : List (Str × Dynamic)

/-- A key of a key set: its `kid` and its certificate chain `x5c`. -/
structure Jwk where
  kid : Option Str
  x5c : Option Dynamic

/-- A verifier under construction. -/
structure Verifier where
  algorithm : Str
  issuer : Option Str
  audience : Option Str
  deriving DecidableEq, Repr

/-- The functions of jwt-cpp the handler calls. -/
structure JwtLib where
  decode : Str → Except JwtError DecodedJwt
  parseJwks : Str → Except JwtError (List Jwk)
  hasJwk : List Jwk → Str → Except JwtError Bool
  getJwk : List Jwk → Str → Except JwtError Jwk
  convertBase64DerToPem : Str → Except JwtError Str
  rs256 : Str → Except JwtError Str
  verify : Verifier → DecodedJwt → Except JwtError Unit

/-- `folly_dynamic::as_string`: throws `std::bad_cast` unless the value is a
string. -/
def asString : Dynamic → Except JwtError Str
  | .string s => .ok s
  | _ => .error .other

/-- `get_payload_claim(name).as_string()`; a missing claim throws. -/
def claimString (claims : List (Str × Dynamic)) (name : String) : Except JwtError Str :=
  match claims.lookup (str name) with
  | some v => asString v
  | none => .error .other

/-- The claim is there, whatever its type. -/
def hasClaim (claims : List (Str × Dynamic)) (name : String) : Bool := (claims.lookup (str name)).isSome

/-- `get_x5c_key_value`: the first certificate of the chain. -/
def Jwk.getX5cKeyValue (jwk : Jwk) : Except JwtError Str :=
  match jwk.x5c with
  | some (.array (cert :: _)) => asString cert
  | _ => .error .other

/-- Why the handler left its `try` block early: it blocked the request with a
message of its own, or something threw. -/
inductive JwtExit where
  | blocked (message : String)
  | threw (error : JwtError)
  deriving DecidableEq, Repr

namespace JwtPolicy

/-- The scheme of the header, with the blank behind it. -/
def kBearer : Str := str "Bearer "

/-- Every refusal of the policy is a 401 with a JSON body. -/
def unauthorized (message : String) : Response :=
  jsonResponse 401 "Unauthorized" (errorBody "unauthorized" message)

/-- A call into jwt-cpp inside the `try` block. -/
def attempt {α : Type} (x : Except JwtError α) : Except JwtExit α := x.mapError .threw

/-- The certificate of a key, converted to PEM. -/
def keyPem (lib : JwtLib) (jwk : Jwk) : Except JwtExit Str := do
  if jwk.x5c.isNone then throw (.threw .other)
  let der ← attempt jwk.getX5cKeyValue
  attempt (lib.convertBase64DerToPem der)

/-- The key with the token's `kid`, or the first key when the token has none. -/
def pubKeyPem (lib : JwtLib) (jwks : List Jwk) (decoded : DecodedJwt) : Except JwtExit Str := do
  if hasClaim decoded.header "kid" then
    let kid ← attempt (claimString decoded.header "kid")
    match ← attempt (lib.hasJwk jwks kid) with
    | false =>
        -- the handler answers by itself, nothing is thrown
        throw (.blocked "unknown key id")
    | true => keyPem lib (← attempt (lib.getJwk jwks kid))
  else
    match jwks.head? with
    | none => throw (.blocked "empty JWKS")
    | some jwk => keyPem lib jwk

/-- The issuer and the audience are checked when they are configured. -/
def verifierFor (cfg : JwtConfig) (algorithm : Str) : Verifier :=
  { algorithm := algorithm
    issuer := if cfg.issuer = [] then none else some cfg.issuer
    audience := if cfg.audience = [] then none else some cfg.audience }

/-- Everything the handler does with the token before it touches the message. -/
def verifyToken (lib : JwtLib) (cache : JwksCache) (token : Str) : Except JwtExit DecodedJwt := do
  let decoded ← attempt (lib.decode token)
  let jwks ← attempt (lib.parseJwks cache.jwksJson)
  let pem ← pubKeyPem lib jwks decoded
  let algorithm ← attempt (lib.rs256 pem)
  attempt (lib.verify (verifierFor cache.jwtConfig algorithm) decoded)
  return decoded

/-- The identity headers of a verified token; `get_subject` and `get_issuer` may
throw. -/
def rewriteHeaders (decoded : DecodedJwt) (hdrs : HTTPHeaders) : Except JwtExit HTTPHeaders := do
  let hdrs := hdrs.set (str "x-jwt-subject") (← attempt (claimString decoded.payload "sub"))
  let hdrs ←
    if hasClaim decoded.payload "iss" then
      pure (hdrs.set (str "x-jwt-issuer") (← attempt (claimString decoded.payload "iss")))
    else pure hdrs
  let hdrs := hdrs.set (str "x-auth-method") (str "jwt")
  return hdrs.remove (str "Authorization")

/-- The `try` block. -/
def verifyAndRewrite (lib : JwtLib) (cache : JwksCache) (token : Str) (msg : HTTPMessage) :
    Except JwtExit HTTPMessage := do
  let decoded ← verifyToken lib cache token
  return { msg with headers := ← rewriteHeaders decoded msg.headers }

/-- The message of the 401 that answers an early exit. -/
def exitMessage : JwtExit → String
  | .blocked message => message
  | .threw .tokenVerification => "token verification failed"
  | .threw .other =>
      -- every other `std::exception`, whichever call raised it
      "invalid token"

/-- `JwtPolicy::onRequest`. -/
def onRequest (lib : JwtLib) (cache : JwksCache) (msg : HTTPMessage) : Verdict :=
  let authHeader := msg.headers.getSingleOrEmpty (str "Authorization")
  if authHeader = [] then .block (unauthorized "missing Authorization header")
  else if authHeader.length ≤ kBearer.length ∨ authHeader.take kBearer.length ≠ kBearer then
    .block (unauthorized "Authorization must be Bearer token")
  else
    match verifyAndRewrite lib cache (authHeader.drop kBearer.length) msg with
    | .ok msg' => .forward msg'
    | .error exit => .block (unauthorized (exitMessage exit))

/-! ## What the policy decides from the token alone -/

/-- Who a verified token speaks for. -/
structure Identity where
  subject : Str
  issuer : Option Str
  deriving DecidableEq, Repr

/-- The issuer claim, if the token has one. -/
def issuerOf (decoded : DecodedJwt) : Except JwtExit (Option Str) :=
  if hasClaim decoded.payload "iss" then (attempt (claimString decoded.payload "iss")).map some
  else .ok none

/-- The claims that become headers. -/
def identify (decoded : DecodedJwt) : Except JwtExit Identity := do
  let subject ← attempt (claimString decoded.payload "sub")
  let issuer ← issuerOf decoded
  return { subject, issuer }

/-- The headers of a forwarded message.  Without an issuer claim `x-jwt-issuer` is
left as it came. -/
def withIdentity (id : Identity) (hdrs : HTTPHeaders) : HTTPHeaders :=
  let hdrs := hdrs.set (str "x-jwt-subject") id.subject
  let hdrs := match id.issuer with
    | some issuer => hdrs.set (str "x-jwt-issuer") issuer
    | none => hdrs
  (hdrs.set (str "x-auth-method") (str "jwt")).remove (str "Authorization")

/-- The decision of the policy on a token. -/
def evaluate (lib : JwtLib) (cache : JwksCache) (token : Str) : Except JwtExit Identity := do
  identify (← verifyToken lib cache token)

theorem rewriteHeaders_eq (decoded : DecodedJwt) (hdrs : HTTPHeaders) :
    rewriteHeaders decoded hdrs = (identify decoded).map fun id => withIdentity id hdrs := by
  unfold rewriteHeaders identify issuerOf
  cases hsub : attempt (claimString decoded.payload "sub") with
  | error e => rfl
  | ok subject =>
      by_cases hiss : hasClaim decoded.payload "iss" = true
      · cases hissuer : attempt (claimString decoded.payload "iss") with
        | error e => simp [hiss, bind, Except.bind, Except.map]
        | ok issuer => simp [hiss, bind, Except.bind, Except.map, pure, Except.pure, withIdentity]
      · simp [hiss, bind, Except.bind, Except.map, pure, Except.pure, withIdentity]

/-- The `try` block decides on the token and rewrites the headers by the identity it
found. -/
theorem verifyAndRewrite_eq (lib : JwtLib) (cache : JwksCache) (token : Str) (msg : HTTPMessage) :
    verifyAndRewrite lib cache token msg =
      (evaluate lib cache token).map fun id => { msg with headers := withIdentity id msg.headers } := by
  unfold verifyAndRewrite evaluate
  cases hverify : verifyToken lib cache token with
  | error e => rfl
  | ok decoded =>
      simp only [bind, Except.bind, rewriteHeaders_eq]
      cases identify decoded <;> rfl

/-- The message has exactly one `Authorization` header, `Bearer ` and a non-empty
token. -/
def BearsToken (msg : HTTPMessage) (token : Str) : Prop :=
  token ≠ [] ∧ msg.headers.values (str "Authorization") = [kBearer ++ token]

/-- **The handler on a bearer token:** the decision on the token, then the identity
headers or a 401. -/
theorem onRequest_of_bearsToken (lib : JwtLib) (cache : JwksCache) {msg : HTTPMessage} {token : Str}
    (h : BearsToken msg token) :
    onRequest lib cache msg =
      match evaluate lib cache token with
      | .ok id => .forward { msg with headers := withIdentity id msg.headers }
      | .error exit => .block (unauthorized (exitMessage exit)) := by
  obtain ⟨hne, hvalues⟩ := h
  have hauth : msg.headers.getSingleOrEmpty (str "Authorization") = kBearer ++ token := by
    refine (HTTPHeaders.getSingleOrEmpty_eq_iff ?_).mpr hvalues
    simp [hne]
  have hpos : 0 < token.length := List.length_pos_iff.mpr hne
  have hform : ¬ ((kBearer ++ token).length ≤ kBearer.length ∨
      (kBearer ++ token).take kBearer.length ≠ kBearer) := by
    rw [List.take_left, List.length_append]
    simp only [ne_eq, not_true_eq_false, or_false]
    omega
  unfold onRequest
  simp only [hauth]
  rw [if_neg (by simp [hne]), if_neg hform, List.drop_left, verifyAndRewrite_eq]
  cases evaluate lib cache token <;> rfl

/-- Without a bearer token the handler refuses, whatever the library answers. -/
theorem onRequest_of_not_bearsToken (lib : JwtLib) (cache : JwksCache) {msg : HTTPMessage}
    (h : ∀ token, ¬ BearsToken msg token) :
    ∃ message, onRequest lib cache msg = .block (unauthorized message) := by
  by_cases hauth : msg.headers.getSingleOrEmpty (str "Authorization") = []
  · exact ⟨"missing Authorization header", by simp [onRequest, hauth]⟩
  · refine ⟨"Authorization must be Bearer token", ?_⟩
    -- a header of the right form would bear a token
    have hform : (msg.headers.getSingleOrEmpty (str "Authorization")).length ≤ kBearer.length ∨
        (msg.headers.getSingleOrEmpty (str "Authorization")).take kBearer.length ≠ kBearer := by
      by_contra hgood
      obtain ⟨hlong, hbearer⟩ := not_or.mp hgood
      refine h ((msg.headers.getSingleOrEmpty (str "Authorization")).drop kBearer.length) ⟨?_, ?_⟩
      · rw [ne_eq, List.drop_eq_nil_iff]
        omega
      · have hsplit := List.take_append_drop kBearer.length
          (msg.headers.getSingleOrEmpty (str "Authorization"))
        rw [not_not.mp hbearer] at hsplit
        rw [hsplit]
        exact (HTTPHeaders.getSingleOrEmpty_eq_iff hauth).mp rfl
    simp only [onRequest]
    rw [if_neg hauth, if_pos hform]

/-- **What the handler can do:** forward a message that bears a token it accepts,
with nothing changed but the headers, or refuse with a 401. -/
theorem onRequest_cases (lib : JwtLib) (cache : JwksCache) (msg : HTTPMessage) :
    (∃ token id, BearsToken msg token ∧ evaluate lib cache token = .ok id ∧
      onRequest lib cache msg = .forward { msg with headers := withIdentity id msg.headers }) ∨
    ∃ message, onRequest lib cache msg = .block (unauthorized message) := by
  by_cases hbears : ∃ token, BearsToken msg token
  · obtain ⟨token, htoken⟩ := hbears
    have hdecide := onRequest_of_bearsToken lib cache htoken
    cases heval : evaluate lib cache token with
    | ok id =>
        rw [heval] at hdecide
        exact Or.inl ⟨token, id, htoken, heval, hdecide⟩
    | error exit =>
        rw [heval] at hdecide
        exact Or.inr ⟨exitMessage exit, hdecide⟩
  · exact Or.inr (onRequest_of_not_bearsToken lib cache (not_exists.mp hbears))

/-- Inversion of a forwarded message. -/
theorem onRequest_eq_forward {lib : JwtLib} {cache : JwksCache} {msg msg' : HTTPMessage}
    (h : onRequest lib cache msg = .forward msg') :
    ∃ token id, BearsToken msg token ∧ evaluate lib cache token = .ok id ∧
      msg' = { msg with headers := withIdentity id msg.headers } := by
  obtain ⟨token, id, hbears, heval, hforward⟩ | ⟨message, hblock⟩ := onRequest_cases lib cache msg
  · rw [hforward] at h
    exact ⟨token, id, hbears, heval, (Verdict.forward.inj h).symm⟩
  · rw [hblock] at h
    cases h

end JwtPolicy

end Kimchi
