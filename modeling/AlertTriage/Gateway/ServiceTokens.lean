import AlertTriage.Gateway.Hs256
import Mathlib.Tactic.NormNum
import Mathlib.Tactic.Linarith

/-!
# Service tokens between the BFF and the gateway

`frontend/lib/jwt.ts` and `frontend/lib/gateway-guard.ts` on one side, the
gateway's `jwt.ts` on the other. The BFF mints and verifies with a token
library, which `Jose` describes as far as it is relied on: what it signs is the
compact form, and what it accepts are the claims in the token, after the checks
that the options ask for.

The two directions do not agree. A BFF token is taken by the gateway until it
expires. A gateway token names the issuer `gateway`, and the BFF takes service
tokens of the issuer `bff` only (`service_tokens_disagree`).
-/

namespace AlertTriage.Gateway

open Library

/-! ## §1  The token library -/

structure VerifyOptions where
  issuer : String
  audience : String
  clockTolerance : ℕ
  requiredClaims : List String
deriving DecidableEq, Repr

/-- The claims pass the checks of the options at a time in seconds. -/
def acceptsClaims (o : VerifyOptions) (claims : Params) (now : ℕ) : Bool :=
  (o.requiredClaims.all fun key => (Json.lookup key claims).isSome) &&
    ((Json.lookup "iss" claims).bind Json.asStr? == some o.issuer) &&
    ((Json.lookup "aud" claims).any (Jws.audienceMatches o.audience)) &&
    ((Json.lookup "iat" claims).all fun j => (jsNumber j).isSome) &&
    ((Json.lookup "nbf" claims).all fun j =>
      (jsNumber j).any fun nbf : ℚ => decide (nbf ≤ (now + o.clockTolerance : ℕ))) &&
    ((Json.lookup "exp" claims).all fun j =>
      (jsNumber j).any fun exp => decide ((now : ℚ) < exp + o.clockTolerance))

def joseHeader : Json := .obj [("alg", .str "HS256")]

/-- `SignJWT` and `jwtVerify` with a shared secret. -/
structure Jose (mac : Mac) where
  sign : Params → String → String
  jwtVerify : String → String → VerifyOptions → ℕ → Option Params
  sign_eq : ∀ claims secret, sign claims secret =
    Jws.sign mac jsStyle joseHeader (.obj claims) secret
  verify_payload : ∀ token secret o now claims j,
    jwtVerify token secret o now = some claims → Jws.payload token = some j →
      j = .obj claims
  verify_checks : ∀ token secret o now claims,
    jwtVerify token secret o now = some claims →
      acceptsClaims o claims now = true

/-! ## §2  The BFF -/

structure SecretPair where
  current : String
  previous : Option String
deriving DecidableEq, Repr

def optionalRole : Option String → Json
  | some r => .str r
  | none => .null

/-- The claims of a service token, in the order in which they are set. -/
def serviceClaims (targetAudience userId tenantId : String)
    (role reqId : Option String) (jti : String) (iat : ℕ) : Params :=
  [("tid", .str tenantId), ("role", optionalRole role)]
    ++ reqId.toList.map (fun r => ("req_id", .str r))
    ++ [("iss", .str "bff"), ("aud", .str targetAudience), ("sub", .str userId),
      ("iat", .int iat), ("exp", .int (iat + 5 * 60 : ℕ)), ("jti", .str jti)]

/-- `mintServiceToken`, at a time in milliseconds. -/
def mintServiceToken {mac : Mac} (jose : Jose mac) (secrets : SecretPair)
    (targetAudience userId tenantId : String) (role reqId : Option String)
    (jti : String) (nowMs : ℕ) : String :=
  jose.sign
    (serviceClaims targetAudience userId tenantId role reqId jti (nowMs / 1000))
    secrets.current

def serviceOptions (audience : String) : VerifyOptions where
  issuer := "bff"
  audience := audience
  clockTolerance := 30
  requiredClaims := ["sub", "exp", "iat", "jti"]

/-- `verifyServiceToken`: the current secret, then the previous one. -/
def verifyServiceToken {mac : Mac} (jose : Jose mac) (secrets : SecretPair)
    (token expectedAudience : String) (nowMs : ℕ) : Option Params :=
  let tryWith := fun secret =>
    jose.jwtVerify token secret (serviceOptions expectedAudience) (nowMs / 1000)
  match tryWith secrets.current with
  | some claims => some claims
  | none =>
      match secrets.previous with
      | none => none
      | some previous => if previous = "" then none else tryWith previous

/-- `requireGatewayToken`, on the value of the `Authorization` header. -/
def requireGatewayToken {mac : Mac} (jose : Jose mac) (secrets : SecretPair)
    (authorization : String) (nowMs : ℕ) : Except String Params :=
  if !isBearer authorization.toList then .error "missing_bearer"
  else
    let token := bearerToken authorization
    if token = "" then .error "empty_bearer"
    else
      match verifyServiceToken jose secrets token "gateway" nowMs with
      | some claims => .ok claims
      | none => .error "invalid_token"

/-! ## §3  From the gateway to the BFF -/

/-- No character of a token is whitespace. -/
theorem urlChar_not_space : ∀ n < 64, isJsSpace (Base64.urlChar n) = false := by
  decide

theorem sign_not_space (mac : Mac) (style : Json.Style) (header payload : Json)
    (secret : String) {c : Char}
    (h : c ∈ (Jws.sign mac style header payload secret).toList) :
    isJsSpace c = false := by
  have hseg : ∀ bs : List UInt8, c ∈ Base64.urlEncode bs →
      isJsSpace c = false := by
    intro bs hc
    obtain ⟨n, hn, rfl⟩ := List.mem_map.mp hc
    exact urlChar_not_space n (Base64.lt_of_mem_sextets hn)
  simp only [Jws.sign, Jws.compact, String.toList_ofList, List.intercalate,
    List.intersperse, List.flatten_cons, List.flatten_nil, List.append_nil,
    List.mem_append, List.mem_singleton] at h
  rcases h with h | rfl | h | rfl | h
  · exact hseg _ h
  · decide
  · exact hseg _ h
  · decide
  · exact hseg _ h

theorem jsTrim_eq_self {cs : List Char} (h : ∀ c ∈ cs, isJsSpace c = false) :
    jsTrim cs = cs := by
  have hdrop : ∀ ds : List Char, (∀ c ∈ ds, isJsSpace c = false) →
      ds.dropWhile isJsSpace = ds := by
    intro ds hds
    cases ds with
    | nil => rfl
    | cons d ds => simp [hds d List.mem_cons_self]
  rw [jsTrim, hdrop cs h, hdrop cs.reverse (by simpa using h),
    List.reverse_reverse]

theorem isBearer_bearer (token : String) :
    isBearer ("Bearer " ++ token).toList = true := by
  simp [isBearer, String.toList_append]

/-- A header made with a signed token gives the token back. -/
theorem bearerToken_sign (mac : Mac) (style : Json.Style)
    (header payload : Json) (secret : String) :
    bearerToken ("Bearer " ++ Jws.sign mac style header payload secret) =
      Jws.sign mac style header payload secret := by
  have hdrop : ("Bearer " ++ Jws.sign mac style header payload secret).toList.drop
      7 = (Jws.sign mac style header payload secret).toList := by
    simp [String.toList_append]
  rw [bearerToken, if_pos (isBearer_bearer _), hdrop,
    jsTrim_eq_self fun c => sign_not_space mac style header payload secret,
    String.ofList_toList]

theorem MintArgs.claims_distinct (args : MintArgs) (jti : String) (iat : ℕ) :
    Json.Distinct (.obj (args.claims jti iat)) := by
  unfold MintArgs.claims
  cases args.reqId.filter fun r => r != "" <;>
    simp [Json.Distinct, Json.DistinctFields]

theorem MintArgs.claims_issuer (args : MintArgs) (jti : String) (iat : ℕ) :
    Json.lookup "iss" (args.claims jti iat) = some (.str args.issuer) := rfl

/-- **The library refuses another issuer**: whatever `mintHs256` mints for an
issuer that the options do not ask for. -/
theorem jwtVerify_mintHs256 {mac : Mac} (jose : Jose mac) (args : MintArgs)
    (jti : String) (nowMs : ℕ) (secret : String) (o : VerifyOptions) (now : ℕ)
    (h : args.issuer ≠ o.issuer) :
    jose.jwtVerify (mintHs256 mac args jti nowMs) secret o now = none := by
  rw [Option.eq_none_iff_forall_ne_some]
  intro claims hc
  have hpay : Jws.payload (mintHs256 mac args jti nowMs) =
      some (.obj (args.claims jti (nowMs / 1000))) :=
    Jws.payload_sign mac jsStyle hs256Header args.secret
      (args.claims_distinct jti _)
  obtain rfl := Json.obj.inj (jose.verify_payload _ _ _ _ _ _ hc hpay)
  have hchecks := jose.verify_checks _ _ _ _ _ hc
  simp only [acceptsClaims, MintArgs.claims_issuer, Bool.and_eq_true,
    Option.bind_some, Json.asStr?, beq_iff_eq, Option.some.injEq] at hchecks
  exact h hchecks.1.1.1.1.2

/-- The header that a callback to the BFF carries is refused at any time. -/
theorem requireGatewayToken_refuses {mac : Mac} (jose : Jose mac)
    (secrets : SecretPair) {args : MintArgs} (h : args.issuer ≠ "bff")
    (jti : String) (nowMs laterMs : ℕ) :
    requireGatewayToken jose secrets
      ("Bearer " ++ mintHs256 mac args jti nowMs) laterMs =
        .error "invalid_token" := by
  have hv : verifyServiceToken jose secrets (mintHs256 mac args jti nowMs)
      "gateway" laterMs = none := by
    have hnone : ∀ secret, jose.jwtVerify (mintHs256 mac args jti nowMs) secret
        (serviceOptions "gateway") (laterMs / 1000) = none := fun secret =>
      jwtVerify_mintHs256 jose args jti nowMs secret _ _ h
    unfold verifyServiceToken
    simp only [hnone]
    split
    · rfl
    · split <;> rfl
  have hne : mintHs256 mac args jti nowMs ≠ "" := Jws.sign_ne_empty _ _ _ _ _
  have hb : bearerToken ("Bearer " ++ mintHs256 mac args jti nowMs) =
      mintHs256 mac args jti nowMs := bearerToken_sign mac _ _ _ _
  have hbearer := isBearer_bearer (mintHs256 mac args jti nowMs)
  unfold requireGatewayToken
  simp only [hbearer, hb, hv, if_neg hne]
  rfl

/-! ## §4  From the BFF to the gateway -/

theorem serviceClaims_distinct (audience userId tenantId : String)
    (role reqId : Option String) (jti : String) (iat : ℕ) :
    Json.Distinct (.obj
      (serviceClaims audience userId tenantId role reqId jti iat)) := by
  unfold serviceClaims
  cases role <;> cases reqId <;>
    simp [Json.Distinct, Json.DistinctFields, optionalRole]

theorem serviceClaims_finite (audience userId tenantId : String)
    (role reqId : Option String) (jti : String) (iat : ℕ) :
    isFinite (.obj (serviceClaims audience userId tenantId role reqId jti iat)) =
      true := by
  unfold serviceClaims
  cases role <;> cases reqId <;> rfl

/-- What a service token says, with or without a request id. -/
theorem property_serviceClaims (audience userId tenantId : String)
    (role reqId : Option String) (jti : String) (iat : ℕ) :
    let claims : Json :=
      .obj (serviceClaims audience userId tenantId role reqId jti iat)
    property "iss" claims = some (.str "bff") ∧
      property "aud" claims = some (.str audience) ∧
      property "sub" claims = some (.str userId) ∧
      property "tid" claims = some (.str tenantId) ∧
      property "iat" claims = some (.int iat) ∧
      property "exp" claims = some (.int (iat + 5 * 60 : ℕ)) := by
  cases reqId <;> exact ⟨rfl, rfl, rfl, rfl, rfl, rfl⟩

/-- JSON text never starts with a byte-order mark. -/
theorem textDecode_dumps (web : WebPlatform) {fields : Params} :
    web.textDecode (utf8 (Json.dumps jsStyle (.obj fields))) =
      Json.dumps jsStyle (.obj fields) := by
  unfold WebPlatform.textDecode
  rw [ofUtf8_utf8]
  simp only [Json.dumps, Json.render, String.toList_ofList]
  rw [if_neg (by decide)]

/-- `verifyHs256` reads a token that was signed under its secret and goes on
to the claims. -/
theorem verifyHs256_sign (web : WebPlatform) (header : Json) {claims : Params}
    (hd : Json.Distinct (.obj claims)) (hf : isFinite (.obj claims) = true)
    (args : VerifyArgs) (nowMs : ℕ) :
    verifyHs256 web
      (Jws.sign web.hmac jsStyle header (.obj claims) args.secret) args nowMs =
        checkClaims args (.obj claims) (nowMs / 1000) := by
  have hparse : jsonParse (Json.dumps jsStyle (.obj claims)) =
      some (.obj claims) := by
    simp only [jsonParse, Json.loads_dumps jsStyle hd, hf, if_true]
  unfold verifyHs256
  rw [Jws.parts_sign]
  simp only [Jws.signedParts, Base64.urlDecode_urlEncode, ne_eq,
    not_true_eq_false, if_false, Jws.segment, textDecode_dumps, hparse]

/-- The claims of a BFF token pass the gateway's checks from the second it was
minted to the second it expires. -/
theorem checkClaims_serviceClaims (secret userId tenantId : String)
    (role reqId : Option String) (jti : String) {iat now : ℕ} (hi : iat ≤ now)
    (he : now ≤ iat + 5 * 60) :
    checkClaims ⟨secret, "gateway", some "bff", none⟩
        (.obj (serviceClaims "gateway" userId tenantId role reqId jti iat)) now =
      .ok (.obj (serviceClaims "gateway" userId tenantId role reqId jti iat)) := by
  obtain ⟨hiss, haud, -, -, hiat, hexp⟩ :=
    property_serviceClaims "gateway" userId tenantId role reqId jti iat
  have hi' : (iat : ℚ) ≤ now := by exact_mod_cast hi
  have he' : (now : ℚ) ≤ (iat + 5 * 60 : ℕ) := by exact_mod_cast he
  have hlate : ¬ (((iat + 5 * 60 : ℕ) : ℤ) : ℚ) + (30 : ℕ) < now := by
    push_cast at he' ⊢
    linarith
  have hearly : ¬ (now : ℚ) < ((iat : ℤ) : ℚ) - (30 : ℕ) := by
    push_cast
    linarith
  simp only [checkClaims, hiss, haud, hiat, hexp, Option.bind_some, jsNumber,
    Option.getD_none, Json.asStr?, if_neg hlate, if_neg hearly, ne_eq,
    not_true_eq_false, if_false]
  rfl

/-- **A BFF token is taken by the gateway** at every time up to its expiry,
with the subject and the tenant it was minted for. -/
theorem verifyHs256_mintServiceToken (web : WebPlatform) (jose : Jose web.hmac)
    (secrets : SecretPair) (userId tenantId : String)
    (role reqId : Option String) (jti : String) {nowMs laterMs : ℕ}
    (hi : nowMs ≤ laterMs) (he : laterMs / 1000 ≤ nowMs / 1000 + 5 * 60) :
    ∃ claims, verifyHs256 web
        (mintServiceToken jose secrets "gateway" userId tenantId role reqId jti
          nowMs) ⟨secrets.current, "gateway", some "bff", none⟩ laterMs =
          .ok claims ∧
      property "sub" claims = some (.str userId) ∧
      property "tid" claims = some (.str tenantId) := by
  have hp := property_serviceClaims "gateway" userId tenantId role reqId jti
    (nowMs / 1000)
  refine ⟨_, ?_, hp.2.2.1, hp.2.2.2.1⟩
  rw [mintServiceToken, jose.sign_eq]
  refine (verifyHs256_sign web joseHeader (serviceClaims_distinct ..)
    (serviceClaims_finite ..) ⟨secrets.current, "gateway", some "bff", none⟩
    laterMs).trans ?_
  exact checkClaims_serviceClaims secrets.current userId tenantId role reqId jti
    (Nat.div_le_div_right hi) he

/-! ## §5  Both directions -/

/-- **The two sides do not agree**: under every shared secret, a gateway token
is refused by the BFF at any time, while a BFF token is taken by the gateway
until it expires. -/
theorem service_tokens_disagree (web : WebPlatform) (jose : Jose web.hmac)
    {secret : String} (hs : secret ≠ "") (previous : Option String)
    (ticket : Option Ticket) (userId tenantId : String)
    (role reqId : Option String) (jti : String) (nowMs : ℕ) :
    (∃ token, gatewayServiceToken web.hmac secret ticket jti nowMs = .ok token ∧
      ∀ laterMs, requireGatewayToken jose ⟨secret, previous⟩
        ("Bearer " ++ token) laterMs = .error "invalid_token") ∧
      ∀ laterMs, nowMs ≤ laterMs → laterMs / 1000 ≤ nowMs / 1000 + 5 * 60 →
        ∃ claims, verifyHs256 web
            (mintServiceToken jose ⟨secret, previous⟩ "gateway" userId tenantId
              role reqId jti nowMs)
            ⟨secret, "gateway", some "bff", none⟩ laterMs = .ok claims ∧
          property "sub" claims = some (.str userId) ∧
          property "tid" claims = some (.str tenantId) := by
  refine ⟨⟨_, by rw [gatewayServiceToken, if_neg hs], fun laterMs => ?_⟩,
    fun laterMs hi he => ?_⟩
  · exact requireGatewayToken_refuses jose _ (by simp) jti nowMs laterMs
  · exact verifyHs256_mintServiceToken web jose ⟨secret, previous⟩ userId
      tenantId role reqId jti hi he

/-- A token library that checks what the standard says, for HS256. -/
def standardJose (mac : Mac) : Jose mac where
  sign claims secret := Jws.sign mac jsStyle joseHeader (.obj claims) secret
  jwtVerify token secret o now :=
    match Jws.payload token with
    | some (.obj claims) =>
        if Jws.signedBy mac token secret &&
            ((Jws.header token).bind (property "alg") |>.bind Json.asStr?) ==
              some "HS256" && acceptsClaims o claims now then
          some claims
        else none
    | _ => none
  sign_eq _ _ := rfl
  verify_payload token secret o now claims j h hp := by
    rw [hp] at h
    cases j with
    | obj fields =>
        simp only [Option.ite_none_right_eq_some, Option.some.injEq] at h
        rw [h.2]
    | _ => simp at h
  verify_checks token secret o now claims h := by
    split at h
    · simp only [Option.ite_none_right_eq_some, Option.some.injEq,
        Bool.and_eq_true] at h
      exact h.2 ▸ h.1.2
    · simp at h

/-- A platform for examples: its hash joins key and message. -/
def plainPlatform : WebPlatform where
  hmac key message := key ++ message
  replaceMalformed _ := ""

theorem service_tokens_disagree_plain :
    (∃ token, gatewayServiceToken plainPlatform.hmac "k1" (some ⟨"u1", "acme"⟩)
        "j1" 1700000000000 = .ok token ∧
      ∀ laterMs, requireGatewayToken (standardJose plainPlatform.hmac)
        ⟨"k1", none⟩ ("Bearer " ++ token) laterMs = .error "invalid_token") ∧
      ∃ claims, verifyHs256 plainPlatform
          (mintServiceToken (standardJose plainPlatform.hmac) ⟨"k1", none⟩
            "gateway" "u1" "acme" none none "j1" 1700000000000)
          ⟨"k1", "gateway", some "bff", none⟩ 1700000299000 = .ok claims ∧
        property "sub" claims = some (.str "u1") ∧
        property "tid" claims = some (.str "acme") := by
  have hsecret : "k1" ≠ "" := by decide
  have h := service_tokens_disagree plainPlatform
    (standardJose plainPlatform.hmac) hsecret none
    (some ⟨"u1", "acme"⟩) "u1" "acme" none none "j1" 1700000000000
  exact ⟨h.1, h.2 1700000299000 (by decide) (by decide)⟩

/-- One gateway token, refused in the second in which it was minted. -/
theorem gateway_token_refused :
    ∃ token, gatewayServiceToken plainPlatform.hmac "k1" (some ⟨"u1", "acme"⟩)
        "j1" 1700000000000 = .ok token ∧
      requireGatewayToken (standardJose plainPlatform.hmac) ⟨"k1", none⟩
        ("Bearer " ++ token) 1700000000000 = .error "invalid_token" :=
  ⟨_, rfl, requireGatewayToken_refuses _ _ (by decide) "j1" _ _⟩

end AlertTriage.Gateway
