import Kimchi.Policy.JwtPolicy

/-!
# When a JWT policy accepts a token

`Accepts` states the decision of `JwtPolicy::onRequest` declaratively: the token
decodes, the key set parses, the chosen key exists and has a certificate, RS256
verification succeeds with the configured issuer and audience, the subject is a
string and the issuer, if there is one, is a string.  `evaluate_ok_iff` proves that
this is what the handler computes.

The second half is about the identity headers.  `x-jwt-subject` and `x-auth-method`
are always overwritten; `x-jwt-issuer` is overwritten only when the token has an
issuer claim, and `identity_headers_determined_iff` says that this is exactly when a
client cannot supply it.
-/

namespace Kimchi

open Config Library

/-- The key a token is verified with: the one the set has for the token's `kid`, or
the first of the set. -/
def KeyFor (lib : JwtLib) (jwks : List Jwk) (decoded : DecodedJwt) (jwk : Jwk) : Prop :=
  (∃ kid, decoded.header.lookup (str "kid") = some (.string kid) ∧
    lib.hasJwk jwks kid = .ok true ∧ lib.getJwk jwks kid = .ok jwk) ∨
  (decoded.header.lookup (str "kid") = none ∧ jwks.head? = some jwk)

/-- A subject and an issuer can be read from the payload. -/
def HasIdentity (decoded : DecodedJwt) : Prop :=
  (∃ sub, decoded.payload.lookup (str "sub") = some (.string sub)) ∧
    (decoded.payload.lookup (str "iss") = none ∨
      ∃ iss, decoded.payload.lookup (str "iss") = some (.string iss))

/-- A verifier checks a claim against the configured value exactly when that value is not
empty. -/
def ChecksConfigured (value : Str) (check : Option Str) : Prop :=
  (value = [] → check = none) ∧ (value ≠ [] → check = some value)

/-- The key has a certificate chain, and the token passes a verifier that allows RS256
with the key of its first certificate, and that checks the issuer when one is
configured and the audience when one is configured, and neither otherwise. -/
def VerifiedBy (lib : JwtLib) (cfg : JwtConfig) (jwk : Jwk) (decoded : DecodedJwt) : Prop :=
  ∃ cert more pem, ∃ verifier : Verifier, jwk.x5c = some (.array (.string cert :: more)) ∧
    lib.convertBase64DerToPem cert = .ok pem ∧ lib.rs256 pem = .ok verifier.algorithm ∧
    ChecksConfigured cfg.issuer verifier.issuer ∧ ChecksConfigured cfg.audience verifier.audience ∧
    lib.verify verifier decoded = .ok ()

/-- The policy with this cache accepts the token. -/
def Accepts (lib : JwtLib) (cache : JwksCache) (token : Str) : Prop :=
  ∃ decoded jwks jwk, lib.decode token = .ok decoded ∧ lib.parseJwks cache.jwksJson = .ok jwks ∧
    KeyFor lib jwks decoded jwk ∧ VerifiedBy lib cache.jwtConfig jwk decoded ∧ HasIdentity decoded

namespace JwtPolicy

theorem attempt_eq_ok_iff {α : Type} {x : Except JwtError α} {a : α} :
    attempt x = .ok a ↔ x = .ok a :=
  mapError_eq_ok_iff

theorem asString_eq_ok_iff {v : Dynamic} {s : Str} : asString v = .ok s ↔ v = .string s := by
  cases v <;> simp [asString]

/-- A claim is read as a string exactly when it is present and a string. -/
theorem claimString_eq_ok_iff {claims : List (Str × Dynamic)} {name : String} {s : Str} :
    claimString claims name = .ok s ↔ claims.lookup (str name) = some (.string s) := by
  unfold claimString
  cases hlookup : claims.lookup (str name) with
  | none => simp
  | some v => simp [asString_eq_ok_iff]

theorem getX5cKeyValue_eq_ok_iff {jwk : Jwk} {cert : Str} :
    jwk.getX5cKeyValue = .ok cert ↔ ∃ more, jwk.x5c = some (.array (.string cert :: more)) := by
  unfold Jwk.getX5cKeyValue
  split
  · next first rest hx5c => simp [hx5c, asString_eq_ok_iff]
  · next hother =>
      constructor
      · intro h
        cases h
      · rintro ⟨more, hx5c⟩
        exact absurd hx5c (hother _ _)

/-- The explicit `has_x5c` check adds nothing to `get_x5c_key_value`. -/
theorem keyPem_eq_ok_iff {lib : JwtLib} {jwk : Jwk} {pem : Str} :
    keyPem lib jwk = .ok pem ↔
      ∃ cert more, jwk.x5c = some (.array (.string cert :: more)) ∧ lib.convertBase64DerToPem cert = .ok pem := by
  unfold keyPem
  constructor
  · intro h
    obtain ⟨-, h⟩ := guard_eq_ok_iff.mp h
    obtain ⟨cert, hcert, hpem⟩ := bind_eq_ok_iff.mp h
    obtain ⟨more, hx5c⟩ := getX5cKeyValue_eq_ok_iff.mp (attempt_eq_ok_iff.mp hcert)
    exact ⟨cert, more, hx5c, attempt_eq_ok_iff.mp hpem⟩
  · rintro ⟨cert, more, hx5c, hpem⟩
    have hcert := getX5cKeyValue_eq_ok_iff.mpr ⟨more, hx5c⟩
    refine guard_eq_ok_iff.mpr ⟨by simp [hx5c], bind_eq_ok_iff.mpr ⟨cert, ?_, ?_⟩⟩
    · exact attempt_eq_ok_iff.mpr hcert
    · exact attempt_eq_ok_iff.mpr hpem

theorem pubKeyPem_eq_ok_iff {lib : JwtLib} {jwks : List Jwk} {decoded : DecodedJwt} {pem : Str} :
    pubKeyPem lib jwks decoded = .ok pem ↔
      ∃ jwk, KeyFor lib jwks decoded jwk ∧ keyPem lib jwk = .ok pem := by
  unfold pubKeyPem KeyFor
  cases hkid : decoded.header.lookup (str "kid") with
  | none =>
      rw [if_neg (by simp [hasClaim, hkid])]
      cases hhead : jwks.head? with
      | none => simp [throw_ne_ok]
      | some jwk => simp
  | some v =>
      rw [if_pos (by simp [hasClaim, hkid]), bind_eq_ok_iff]
      constructor
      · rintro ⟨kid, hread, h⟩
        have hv := claimString_eq_ok_iff.mp (attempt_eq_ok_iff.mp hread)
        rw [hkid] at hv
        obtain ⟨found, hhas, h⟩ := bind_eq_ok_iff.mp h
        cases found with
        | false => exact absurd h throw_ne_ok
        | true =>
            obtain ⟨jwk, hget, h⟩ := bind_eq_ok_iff.mp h
            exact ⟨jwk, Or.inl ⟨kid, hv, attempt_eq_ok_iff.mp hhas, attempt_eq_ok_iff.mp hget⟩, h⟩
      · rintro ⟨jwk, ⟨kid, hv, hhas, hget⟩ | ⟨hnone, -⟩, hpem⟩
        · refine ⟨kid, attempt_eq_ok_iff.mpr (claimString_eq_ok_iff.mpr (hkid.trans hv)), ?_⟩
          refine bind_eq_ok_iff.mpr ⟨true, attempt_eq_ok_iff.mpr hhas, ?_⟩
          exact bind_eq_ok_iff.mpr ⟨jwk, attempt_eq_ok_iff.mpr hget, hpem⟩
        · cases hnone

theorem issuerOf_eq_ok_iff {decoded : DecodedJwt} {issuer : Option Str} :
    issuerOf decoded = .ok issuer ↔
      decoded.payload.lookup (str "iss") = issuer.map .string := by
  unfold issuerOf
  cases hiss : decoded.payload.lookup (str "iss") with
  | none =>
      rw [if_neg (by simp [hasClaim, hiss])]
      cases issuer <;> simp
  | some v =>
      rw [if_pos (by simp [hasClaim, hiss])]
      cases hread : attempt (claimString decoded.payload "iss") with
      | error e =>
          have hnot : ∀ iss, v ≠ .string iss := by
            intro iss hv
            have hok : attempt (claimString decoded.payload "iss") = .ok iss :=
              attempt_eq_ok_iff.mpr (claimString_eq_ok_iff.mpr (hv ▸ hiss))
            rw [hread] at hok
            cases hok
          cases issuer <;> simp [Except.map, hnot]
      | ok iss =>
          have hv := claimString_eq_ok_iff.mp (attempt_eq_ok_iff.mp hread)
          rw [hiss] at hv
          obtain rfl := Option.some.inj hv
          cases issuer <;> simp [Except.map]

/-- The subject and the issuer of a decoded token, where they can be read. -/
theorem identify_eq_ok_iff {decoded : DecodedJwt} {id : Identity} :
    identify decoded = .ok id ↔
      decoded.payload.lookup (str "sub") = some (.string id.subject) ∧
        decoded.payload.lookup (str "iss") = id.issuer.map .string := by
  unfold identify
  constructor
  · intro h
    obtain ⟨subject, hsub, h⟩ := bind_eq_ok_iff.mp h
    obtain ⟨issuer, hissuer, h⟩ := bind_eq_ok_iff.mp h
    obtain rfl := pure_eq_ok_iff.mp h
    exact ⟨claimString_eq_ok_iff.mp (attempt_eq_ok_iff.mp hsub), issuerOf_eq_ok_iff.mp hissuer⟩
  · rintro ⟨hsub, hiss⟩
    refine bind_eq_ok_iff.mpr ⟨id.subject, attempt_eq_ok_iff.mpr (claimString_eq_ok_iff.mpr hsub), ?_⟩
    exact bind_eq_ok_iff.mpr ⟨id.issuer, issuerOf_eq_ok_iff.mpr hiss, pure_eq_ok_iff.mpr rfl⟩

theorem exists_identify_iff {decoded : DecodedJwt} :
    (∃ id, identify decoded = .ok id) ↔ HasIdentity decoded := by
  constructor
  · rintro ⟨id, hid⟩
    obtain ⟨hsub, hiss⟩ := identify_eq_ok_iff.mp hid
    refine ⟨⟨id.subject, hsub⟩, ?_⟩
    cases hissuer : id.issuer with
    | none => exact Or.inl (by simpa [hissuer] using hiss)
    | some iss => exact Or.inr ⟨iss, by simpa [hissuer] using hiss⟩
  · rintro ⟨⟨sub, hsub⟩, hnone | ⟨iss, hiss⟩⟩
    · exact ⟨⟨sub, none⟩, identify_eq_ok_iff.mpr ⟨hsub, hnone⟩⟩
    · exact ⟨⟨sub, some iss⟩, identify_eq_ok_iff.mpr ⟨hsub, hiss⟩⟩

theorem checksConfigured_iff {value : Str} {check : Option Str} :
    ChecksConfigured value check ↔ check = if value = [] then none else some value := by
  unfold ChecksConfigured
  by_cases hvalue : value = [] <;> simp [hvalue]

/-- The verifier that the handler builds, by what it checks. -/
theorem eq_verifierFor_iff {cfg : JwtConfig} {algorithm : Str} {verifier : Verifier} :
    verifier = verifierFor cfg algorithm ↔
      verifier.algorithm = algorithm ∧ ChecksConfigured cfg.issuer verifier.issuer ∧
        ChecksConfigured cfg.audience verifier.audience := by
  obtain ⟨algorithm', issuer, audience⟩ := verifier
  rw [checksConfigured_iff, checksConfigured_iff, verifierFor, Verifier.mk.injEq]

theorem verifyToken_eq_ok_iff {lib : JwtLib} {cache : JwksCache} {token : Str} {decoded : DecodedJwt} :
    verifyToken lib cache token = .ok decoded ↔
      lib.decode token = .ok decoded ∧ ∃ jwks jwk, lib.parseJwks cache.jwksJson = .ok jwks ∧
        KeyFor lib jwks decoded jwk ∧ VerifiedBy lib cache.jwtConfig jwk decoded := by
  unfold verifyToken
  constructor
  · intro h
    obtain ⟨decoded', hdecode, h⟩ := bind_eq_ok_iff.mp h
    obtain ⟨jwks, hjwks, h⟩ := bind_eq_ok_iff.mp h
    obtain ⟨pem, hpem, h⟩ := bind_eq_ok_iff.mp h
    obtain ⟨algorithm, halg, h⟩ := bind_eq_ok_iff.mp h
    obtain ⟨⟨⟩, hverify, h⟩ := bind_eq_ok_iff.mp h
    obtain rfl := pure_eq_ok_iff.mp h
    obtain ⟨jwk, hkey, hpem⟩ := pubKeyPem_eq_ok_iff.mp hpem
    obtain ⟨cert, more, hx5c, hconvert⟩ := keyPem_eq_ok_iff.mp hpem
    obtain ⟨-, hissuer, haudience⟩ := eq_verifierFor_iff.mp (rfl : verifierFor cache.jwtConfig algorithm = _)
    exact ⟨attempt_eq_ok_iff.mp hdecode, jwks, jwk, attempt_eq_ok_iff.mp hjwks, hkey, cert, more, pem, _, hx5c,
      hconvert, attempt_eq_ok_iff.mp halg, hissuer, haudience, attempt_eq_ok_iff.mp hverify⟩
  · rintro ⟨hdecode, jwks, jwk, hjwks, hkey, cert, more, pem, verifier, hx5c, hconvert, halg, hissuer, haudience,
      hverify⟩
    have hpem : pubKeyPem lib jwks decoded = .ok pem :=
      pubKeyPem_eq_ok_iff.mpr ⟨jwk, hkey, keyPem_eq_ok_iff.mpr ⟨cert, more, hx5c, hconvert⟩⟩
    rw [eq_verifierFor_iff.mpr ⟨rfl, hissuer, haudience⟩] at hverify
    refine bind_eq_ok_iff.mpr ⟨decoded, attempt_eq_ok_iff.mpr hdecode, ?_⟩
    refine bind_eq_ok_iff.mpr ⟨jwks, attempt_eq_ok_iff.mpr hjwks, ?_⟩
    refine bind_eq_ok_iff.mpr ⟨pem, hpem, ?_⟩
    refine bind_eq_ok_iff.mpr ⟨verifier.algorithm, attempt_eq_ok_iff.mpr halg, ?_⟩
    exact bind_eq_ok_iff.mpr ⟨⟨⟩, attempt_eq_ok_iff.mpr hverify, pure_eq_ok_iff.mpr rfl⟩

/-- **The decision of the policy** is acceptance. -/
theorem evaluate_ok_iff {lib : JwtLib} {cache : JwksCache} {token : Str} :
    (∃ id, evaluate lib cache token = .ok id) ↔ Accepts lib cache token := by
  unfold evaluate Accepts
  constructor
  · rintro ⟨id, h⟩
    obtain ⟨decoded, hverify, hid⟩ := bind_eq_ok_iff.mp h
    obtain ⟨hdecode, jwks, jwk, hjwks, hkey, hverified⟩ := verifyToken_eq_ok_iff.mp hverify
    exact ⟨decoded, jwks, jwk, hdecode, hjwks, hkey, hverified, exists_identify_iff.mp ⟨id, hid⟩⟩
  · rintro ⟨decoded, jwks, jwk, hdecode, hjwks, hkey, hverified, hidentity⟩
    obtain ⟨id, hid⟩ := exists_identify_iff.mpr hidentity
    refine ⟨id, bind_eq_ok_iff.mpr ⟨decoded, ?_, hid⟩⟩
    exact verifyToken_eq_ok_iff.mpr ⟨hdecode, jwks, jwk, hjwks, hkey, hverified⟩

/-! ## The identity headers -/

theorem values_withIdentity_subject (id : Identity) (hdrs : HTTPHeaders) :
    (withIdentity id hdrs).values (str "x-jwt-subject") = [id.subject] := by
  unfold withIdentity
  rw [HTTPHeaders.values_remove_of_ne (by decide), HTTPHeaders.values_set_of_ne (by decide)]
  cases id.issuer with
  | none => exact HTTPHeaders.values_set_self
  | some issuer =>
      rw [HTTPHeaders.values_set_of_ne (by decide)]
      exact HTTPHeaders.values_set_self

theorem values_withIdentity_authMethod (id : Identity) (hdrs : HTTPHeaders) :
    (withIdentity id hdrs).values (str "x-auth-method") = [str "jwt"] := by
  unfold withIdentity
  rw [HTTPHeaders.values_remove_of_ne (by decide)]
  exact HTTPHeaders.values_set_self

/-- The issuer header is the issuer claim, or what the client sent when there is
none. -/
theorem values_withIdentity_issuer (id : Identity) (hdrs : HTTPHeaders) :
    (withIdentity id hdrs).values (str "x-jwt-issuer") =
      match id.issuer with
      | some issuer => [issuer]
      | none => hdrs.values (str "x-jwt-issuer") := by
  unfold withIdentity
  rw [HTTPHeaders.values_remove_of_ne (by decide), HTTPHeaders.values_set_of_ne (by decide)]
  cases id.issuer with
  | none => exact HTTPHeaders.values_set_of_ne (by decide)
  | some issuer => exact HTTPHeaders.values_set_self

theorem values_withIdentity_authorization (id : Identity) (hdrs : HTTPHeaders) :
    (withIdentity id hdrs).values (str "Authorization") = [] := by
  unfold withIdentity
  exact HTTPHeaders.values_remove_self

/-- Every other header reads as before. -/
theorem values_withIdentity_of_ne (id : Identity) (hdrs : HTTPHeaders) {name : Str}
    (hsub : lower (str "x-jwt-subject") ≠ lower name) (hiss : lower (str "x-jwt-issuer") ≠ lower name)
    (hmethod : lower (str "x-auth-method") ≠ lower name)
    (hauth : lower (str "Authorization") ≠ lower name) :
    (withIdentity id hdrs).values name = hdrs.values name := by
  unfold withIdentity
  rw [HTTPHeaders.values_remove_of_ne hauth, HTTPHeaders.values_set_of_ne hmethod]
  cases id.issuer with
  | none => exact HTTPHeaders.values_set_of_ne hsub
  | some issuer =>
      rw [HTTPHeaders.values_set_of_ne hiss]
      exact HTTPHeaders.values_set_of_ne hsub

end JwtPolicy

/-- The headers that tell the upstream who is calling. -/
def identityHeaders : List Str := [str "x-jwt-subject", str "x-jwt-issuer", str "x-auth-method"]

/-- Two requests that differ at most in the identity headers their clients sent. -/
def SameButIdentity (m₁ m₂ : HTTPMessage) : Prop :=
  m₁.method = m₂.method ∧ m₁.url = m₂.url ∧ m₁.path = m₂.path ∧ m₁.queryString = m₂.queryString ∧
    Multimap.without lower m₁.headers identityHeaders = Multimap.without lower m₂.headers identityHeaders

/-- The policy forwards both requests, with the same values for the identity
headers. -/
def ForwardsSameIdentity (lib : JwtLib) (cache : JwksCache) (m₁ m₂ : HTTPMessage) : Prop :=
  ∃ f₁ f₂, JwtPolicy.onRequest lib cache m₁ = .forward f₁ ∧
    JwtPolicy.onRequest lib cache m₂ = .forward f₂ ∧
    ∀ name ∈ identityHeaders, f₁.headers.values name = f₂.headers.values name

/-- The token carries an issuer claim. -/
def HasIssuer (lib : JwtLib) (token : Str) : Prop :=
  ∃ decoded, lib.decode token = .ok decoded ∧ hasClaim decoded.payload "iss" = true

/-- Requests that agree outside the identity headers bear the same token. -/
theorem bearsToken_of_sameButIdentity {m₁ m₂ : HTTPMessage} {token : Str} (h : SameButIdentity m₁ m₂)
    (hbears : JwtPolicy.BearsToken m₁ token) : JwtPolicy.BearsToken m₂ token := by
  obtain ⟨-, -, -, -, hwithout⟩ := h
  have hread (m : HTTPMessage) : Multimap.values lower
      (Multimap.without lower m.headers identityHeaders) (str "Authorization") =
        m.headers.values (str "Authorization") :=
    Multimap.values_without_of_not_mem (by decide)
  refine ⟨hbears.1, ?_⟩
  rw [← hread m₂, ← hwithout, hread m₁]
  exact hbears.2

/-- The issuer of the identity an accepted token evaluates to is its issuer
claim. -/
theorem JwtPolicy.issuer_isSome_iff {lib : JwtLib} {cache : JwksCache} {token : Str}
    {id : JwtPolicy.Identity} (h : JwtPolicy.evaluate lib cache token = .ok id) :
    id.issuer.isSome = true ↔ HasIssuer lib token := by
  obtain ⟨decoded, hverify, hid⟩ := bind_eq_ok_iff.mp h
  obtain ⟨hdecode, -⟩ := JwtPolicy.verifyToken_eq_ok_iff.mp hverify
  obtain ⟨-, hiss⟩ := JwtPolicy.identify_eq_ok_iff.mp hid
  have hclaim : hasClaim decoded.payload "iss" = id.issuer.isSome := by
    rw [hasClaim, hiss, Option.isSome_map]
  constructor
  · intro hsome
    exact ⟨decoded, hdecode, hclaim.trans hsome⟩
  · rintro ⟨decoded', hdecode', hhas⟩
    rw [hdecode] at hdecode'
    obtain rfl := Except.ok.inj hdecode'
    exact hclaim.symm.trans hhas

/-- A request with a bearer token, for which the client claims an issuer of its own
choice. -/
def claimingIssuer (token : Str) (issuers : List Str) : HTTPMessage :=
  { method := str "GET"
    url := str "/"
    path := str "/"
    queryString := []
    headers := (str "Authorization", JwtPolicy.kBearer ++ token) ::
      issuers.map fun issuer => (str "x-jwt-issuer", issuer) }

theorem values_claimingIssuer_authorization (token : Str) (issuers : List Str) :
    (claimingIssuer token issuers).headers.values (str "Authorization") =
      [JwtPolicy.kBearer ++ token] := by
  have hrest : Multimap.values lower (issuers.map fun issuer => (str "x-jwt-issuer", issuer))
      (str "Authorization") = [] := by
    have hne : lower (str "x-jwt-issuer") ≠ lower (str "Authorization") := by decide
    induction issuers with
    | nil => rfl
    | cons issuer issuers ih => rw [List.map_cons, Multimap.values_cons, if_neg hne, ih]
  rw [HTTPHeaders.values, claimingIssuer, Multimap.values_cons, if_pos rfl, hrest]

theorem values_claimingIssuer_issuer (token : Str) (issuers : List Str) :
    (claimingIssuer token issuers).headers.values (str "x-jwt-issuer") = issuers := by
  have hne : lower (str "Authorization") ≠ lower (str "x-jwt-issuer") := by decide
  rw [HTTPHeaders.values, claimingIssuer, Multimap.values_cons, if_neg hne]
  induction issuers with
  | nil => rfl
  | cons issuer issuers ih => rw [List.map_cons, Multimap.values_cons, if_pos rfl, ih]

theorem sameButIdentity_claimingIssuer (token : Str) (issuers : List Str) :
    SameButIdentity (claimingIssuer token issuers) (claimingIssuer token []) := by
  refine ⟨rfl, rfl, rfl, rfl, ?_⟩
  have hdropped : Multimap.without lower (issuers.map fun issuer => (str "x-jwt-issuer", issuer))
      identityHeaders = [] := by
    rw [Multimap.without, List.filter_eq_nil_iff]
    intro e he
    obtain ⟨issuer, -, rfl⟩ := List.mem_map.mp he
    simp [identityHeaders, Multimap.hasKey]
  rw [Multimap.without, Multimap.without, claimingIssuer, claimingIssuer, List.map_nil,
    List.filter_cons, List.filter_cons, ← Multimap.without, hdropped]
  rfl

/-- **Identity headers depend on the token alone**, for every pair of requests that
differ only in what their clients put there, exactly when the accepted token has an
issuer claim. -/
theorem identity_headers_determined_iff (lib : JwtLib) (cache : JwksCache) (token : Str)
    (hne : token ≠ []) (haccepts : Accepts lib cache token) :
    (∀ m₁ m₂, JwtPolicy.BearsToken m₁ token → SameButIdentity m₁ m₂ →
      ForwardsSameIdentity lib cache m₁ m₂) ↔ HasIssuer lib token := by
  obtain ⟨id, hid⟩ := JwtPolicy.evaluate_ok_iff.mpr haccepts
  have hforward (m : HTTPMessage) (hm : JwtPolicy.BearsToken m token) :
      JwtPolicy.onRequest lib cache m =
        .forward { m with headers := JwtPolicy.withIdentity id m.headers } := by
    rw [JwtPolicy.onRequest_of_bearsToken lib cache hm, hid]
  rw [← JwtPolicy.issuer_isSome_iff hid]
  constructor
  · intro hall
    -- without an issuer claim, one client sends the header and the other does not
    by_contra hnone
    have hissuer : id.issuer = none := by simpa using hnone
    have hbears (issuers : List Str) : JwtPolicy.BearsToken (claimingIssuer token issuers) token :=
      ⟨hne, values_claimingIssuer_authorization token issuers⟩
    obtain ⟨f₁, f₂, hf₁, hf₂, hvalues⟩ :=
      hall _ _ (hbears [str "spoofed"]) (sameButIdentity_claimingIssuer token [str "spoofed"])
    rw [hforward _ (hbears _)] at hf₁ hf₂
    obtain rfl := Verdict.forward.inj hf₁
    obtain rfl := Verdict.forward.inj hf₂
    have hsame := hvalues (str "x-jwt-issuer") (by decide)
    rw [JwtPolicy.values_withIdentity_issuer, JwtPolicy.values_withIdentity_issuer, hissuer] at hsame
    simp only [values_claimingIssuer_issuer] at hsame
    cases hsame
  · intro hsome m₁ m₂ hm₁ hsame
    obtain ⟨issuer, hissuer⟩ := Option.isSome_iff_exists.mp hsome
    refine ⟨_, _, hforward m₁ hm₁, hforward m₂ (bearsToken_of_sameButIdentity hsame hm₁), ?_⟩
    intro name hname
    simp only [identityHeaders, List.mem_cons, List.not_mem_nil, or_false] at hname
    rcases hname with rfl | rfl | rfl
    · rw [JwtPolicy.values_withIdentity_subject, JwtPolicy.values_withIdentity_subject]
    · rw [JwtPolicy.values_withIdentity_issuer, JwtPolicy.values_withIdentity_issuer, hissuer]
    · rw [JwtPolicy.values_withIdentity_authMethod, JwtPolicy.values_withIdentity_authMethod]

/-! ## One key, two tokens

A key set of one key and the tokens it signed determine what jwt-cpp answers for
them (`Issued.lib`; anything else it refuses).  The sample is a self-signed
certificate and two tokens signed with its key, one without and one with an issuer
claim. -/

/-- A key set of one key, as texts, and the tokens signed with the key. -/
structure Issued where
  cert : Str
  pem : Str
  jwksJson : Str
  tokens : List (Str × List (Str × Dynamic))

namespace Issued

/-- The only key of the set, without a `kid`. -/
def jwk (k : Issued) : Jwk := { kid := none, x5c := some (.array [.string k.cert]) }

/-- A token with these claims that names no key. -/
def decoded (payload : List (Str × Dynamic)) (token : Str) : DecodedJwt :=
  { token := token, header := [(str "alg", .string (str "RS256"))], payload := payload }

/-- The configured issuer, if any, is the token's. -/
def issuerMatches (issuer : Option Str) (d : DecodedJwt) : Bool :=
  match issuer, d.payload.lookup (str "iss") with
  | none, _ => true
  | some i, some (.string iss) => i = iss
  | some _, _ => false

/-- jwt-cpp, as far as the tokens and the key go. -/
def lib (k : Issued) : JwtLib where
  decode token :=
    match k.tokens.lookup token with
    | some payload => .ok (decoded payload token)
    | none => .error .other
  parseJwks text := if text = k.jwksJson then .ok [k.jwk] else .error .other
  hasJwk jwks kid := .ok (jwks.any fun jwk => jwk.kid = some kid)
  getJwk jwks kid :=
    match jwks.find? fun jwk => jwk.kid = some kid with
    | some jwk => .ok jwk
    | none => .error .other
  convertBase64DerToPem der := if der = k.cert then .ok k.pem else .error .other
  rs256 key := if key = k.pem then .ok k.pem else .error .other
  verify v d :=
    if v.algorithm = k.pem ∧ (k.tokens.lookup d.token).isSome = true ∧
        issuerMatches v.issuer d = true ∧ v.audience = none then .ok ()
    else .error .tokenVerification

/-- The key set as a policy that checks neither issuer nor audience fetched it. -/
def cache (k : Issued) : JwksCache :=
  { jwtConfig := { jwksUri := str "http://idp/jwks", issuer := [], audience := [] }
    jwksJson := k.jwksJson }

theorem verifiedBy_jwk (k : Issued) {token : Str} {payload : List (Str × Dynamic)}
    (h : k.tokens.lookup token = some payload) :
    VerifiedBy k.lib k.cache.jwtConfig k.jwk (decoded payload token) := by
  refine ⟨k.cert, [], k.pem, { algorithm := k.pem, issuer := none, audience := none }, rfl, if_pos rfl, if_pos rfl,
    by simp [ChecksConfigured, cache], by simp [ChecksConfigured, cache], if_pos ⟨rfl, ?_, rfl, rfl⟩⟩
  exact Option.isSome_iff_exists.mpr ⟨payload, h⟩

/-- A signed token evaluates to the identity its claims give. -/
theorem evaluate_eq_ok (k : Issued) {token : Str} {payload : List (Str × Dynamic)} {id : JwtPolicy.Identity}
    (h : k.tokens.lookup token = some payload)
    (hid : JwtPolicy.identify (decoded payload token) = .ok id) :
    JwtPolicy.evaluate k.lib k.cache token = .ok id := by
  have hdecode : k.lib.decode token = .ok (decoded payload token) := by
    simp only [lib, h]
  have hparse : k.lib.parseJwks k.cache.jwksJson = .ok [k.jwk] := if_pos rfl
  refine bind_eq_ok_iff.mpr ⟨decoded payload token, ?_, hid⟩
  refine JwtPolicy.verifyToken_eq_ok_iff.mpr ⟨hdecode, [k.jwk], k.jwk, hparse, ?_, verifiedBy_jwk k h⟩
  exact Or.inr ⟨rfl, rfl⟩

end Issued

namespace Sample

/-- A self-signed certificate, in lines as PEM has them. -/
def certLines : List Str :=
  [str "MIIBFjCBwQIUfWIyTSkGPoWsYzQF1UiWz0QxCw8wDQYJKoZIhvcNAQELBQAwDDEK",
    str "MAgGA1UEAwwBazAgFw0yNjExMTYxODUwMzZaGA8yMTI2MTAyMzE4NTAzNlowDDEK",
    str "MAgGA1UEAwwBazBcMA0GCSqGSIb3DQEBAQUAA0sAMEgCQQDHlcpiGOtHflrj/AEC",
    str "26ytz7H1qh33ILwPRS1MJPYAgeN0jNTrVkH92/+F80tNRMsegnwg+eqCQkOJ8dpw",
    str "fJ17AgMBAAEwDQYJKoZIhvcNAQELBQADQQBIMyWtPcZpeGtyC3XhK4liRb6tczZm",
    str "LtOZitWcD83hOgKad2zfAo11P6eJH9yVNEP31lZylYnXwvAK/jCCn1dE"]

/-- The certificate as it stands in `x5c`. -/
def cert : Str := certLines.flatten

/-- The certificate in PEM. -/
def pem : Str :=
  str "-----BEGIN CERTIFICATE-----\n" ++ (certLines.map (· ++ str "\n")).flatten ++
    str "-----END CERTIFICATE-----\n"

/-- A key set with this one key. -/
def jwksJson : Str :=
  str "\x7b\"keys\":[\x7b\"kty\":\"RSA\",\"x5c\":[\"" ++ cert ++ str "\"]\x7d]\x7d"

/-- `sub` is `alice`, there is no `iss`. -/
def token : Str :=
  str "eyJhbGciOiJSUzI1NiJ9.eyJzdWIiOiJhbGljZSJ9." ++
    str "glGqrDa20Wyds7RWNs5UX-IEoQ-EMkhM9iTFrz3fxeJbFyuSdIn_W7F4VNl_N2BT-5oCBYh3nS0c8e7lN-u6qA"

/-- `sub` is `alice`, `iss` is `idp`. -/
def tokenWithIssuer : Str :=
  str "eyJhbGciOiJSUzI1NiJ9.eyJzdWIiOiJhbGljZSIsImlzcyI6ImlkcCJ9." ++
    str "Jtf4PluoZPa0sfdxexsc8V9B2Jj1Azc17wnR9cleEChTGCzZod4Wyd3YgL9Z5l1hM5C-klEkLDerfxy-LE95Pg"

/-- Two tokens signed with the key of the certificate. -/
def issued : Issued where
  cert := cert
  pem := pem
  jwksJson := jwksJson
  tokens :=
    [(token, [(str "sub", .string (str "alice"))]),
      (tokenWithIssuer, [(str "sub", .string (str "alice")), (str "iss", .string (str "idp"))])]

theorem evaluate_token :
    JwtPolicy.evaluate issued.lib issued.cache token =
      .ok { subject := str "alice", issuer := none } :=
  issued.evaluate_eq_ok List.lookup_cons_self (JwtPolicy.identify_eq_ok_iff.mpr ⟨rfl, rfl⟩)

theorem evaluate_tokenWithIssuer :
    JwtPolicy.evaluate issued.lib issued.cache tokenWithIssuer =
      .ok { subject := str "alice", issuer := some (str "idp") } := by
  have hne : (tokenWithIssuer == token) = false := by decide
  have hlookup : issued.tokens.lookup tokenWithIssuer =
      some [(str "sub", .string (str "alice")), (str "iss", .string (str "idp"))] := by
    rw [issued, List.lookup_cons, hne]
    exact List.lookup_cons_self
  exact issued.evaluate_eq_ok hlookup (JwtPolicy.identify_eq_ok_iff.mpr ⟨rfl, rfl⟩)

end Sample

/-- The token with an issuer claim is an instance: nothing a client sends reaches
the upstream as identity. -/
theorem tokenWithIssuer_determines_identity :
    Sample.tokenWithIssuer ≠ [] ∧ Accepts Sample.issued.lib Sample.issued.cache Sample.tokenWithIssuer ∧
      ∀ m₁ m₂, JwtPolicy.BearsToken m₁ Sample.tokenWithIssuer → SameButIdentity m₁ m₂ →
        ForwardsSameIdentity Sample.issued.lib Sample.issued.cache m₁ m₂ := by
  have hne : Sample.tokenWithIssuer ≠ [] := by decide
  have haccepts : Accepts Sample.issued.lib Sample.issued.cache Sample.tokenWithIssuer :=
    JwtPolicy.evaluate_ok_iff.mp ⟨_, Sample.evaluate_tokenWithIssuer⟩
  have hissuer : HasIssuer Sample.issued.lib Sample.tokenWithIssuer :=
    (JwtPolicy.issuer_isSome_iff Sample.evaluate_tokenWithIssuer).mp rfl
  exact ⟨hne, haccepts, (identity_headers_determined_iff _ _ _ hne haccepts).mpr hissuer⟩

/-- The token without one: of two requests that differ only in an `x-jwt-issuer`
header, the policy forwards the client's header in one and none in the other. -/
theorem token_without_issuer_spoofed :
    Accepts Sample.issued.lib Sample.issued.cache Sample.token ∧
      JwtPolicy.BearsToken (claimingIssuer Sample.token [str "attacker"]) Sample.token ∧
      SameButIdentity (claimingIssuer Sample.token [str "attacker"]) (claimingIssuer Sample.token []) ∧
      ¬ ForwardsSameIdentity Sample.issued.lib Sample.issued.cache
        (claimingIssuer Sample.token [str "attacker"]) (claimingIssuer Sample.token []) := by
  have hbears (issuers : List Str) :
      JwtPolicy.BearsToken (claimingIssuer Sample.token issuers) Sample.token :=
    ⟨by decide, values_claimingIssuer_authorization _ issuers⟩
  refine ⟨JwtPolicy.evaluate_ok_iff.mp ⟨_, Sample.evaluate_token⟩, hbears _,
    sameButIdentity_claimingIssuer _ _, ?_⟩
  rintro ⟨f₁, f₂, hf₁, hf₂, hvalues⟩
  rw [JwtPolicy.onRequest_of_bearsToken _ _ (hbears _), Sample.evaluate_token] at hf₁ hf₂
  obtain rfl := Verdict.forward.inj hf₁
  obtain rfl := Verdict.forward.inj hf₂
  have hsame := hvalues (str "x-jwt-issuer") (by decide)
  simp only [JwtPolicy.values_withIdentity_issuer, values_claimingIssuer_issuer] at hsame
  cases hsame

end Kimchi
