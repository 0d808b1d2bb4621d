import AlertTriage.Library.Jws
import AlertTriage.Runtime.World

/-!
# `services/_runtime/jwt_service.py`

Minting and verifying service tokens. The signature and the registered claims
are PyJWT's, which `PyJwt` describes as far as `decode` is used here: the
signature under one secret (`unsign`), and the claim checks of a call that
requires `exp`, `iat`, `sub`, `aud`, `tid` and `jti` (`validClaims`).

`verify` looks a token up in the process's cache first; an entry is used until
the token's `exp`, without the leeway that `decode` allows.
-/

namespace AlertTriage

open Library

/-! ## §1  Numbers in claims -/

/-- `int(x)` of a claim. -/
def pyInt : Json → Option ℤ
  | .int i => some i
  | .bool b => some (if b then 1 else 0)
  | .float m (.ofNat k) => some (m * 10 ^ k)
  | .float m (.negSucc k) => some (m.tdiv (10 ^ (k + 1)))
  | .str s =>
      match Json.loads s with
      | some (.int i) => some i
      | _ => none
  | _ => none

/-- `float(x)` of a claim, as a time. -/
def pyMicros : Json → Option ℤ
  | .float m (.ofNat k) => some (m * 10 ^ k * second)
  | .float m (.negSucc k) => some ((m * second).tdiv (10 ^ (k + 1)))
  | j => (pyInt j).map (· * second)

/-- `str(x)` of a claim. Fractions and containers, which no issuer uses, are
written as JSON. -/
def pyStr : Json → String
  | .str s => s
  | .null => "None"
  | .bool true => "True"
  | .bool false => "False"
  | j => Json.dumps pythonStyle j

def claim (key : String) (claims : Params) : Option Json :=
  Json.lookup key claims

/-- `int(payload[key])`. -/
def intClaim (key : String) (claims : Params) : Option ℤ :=
  (claim key claims).bind pyInt

/-! ## §2  PyJWT -/

/-- The claims that `verify` asks PyJWT to require. -/
def requiredClaims : List String := ["exp", "iat", "sub", "aud", "tid", "jti"]

/-- The claims are accepted at a time: the required ones are there and not
null, the token was issued and may be used already and has not expired, and it
is for the audience. With the leeway added, `exp` itself is too late. -/
def validClaims (audience : String) (leeway now : ℕ) (claims : Params) : Bool :=
  (requiredClaims.all fun key =>
      (claim key claims).any fun | .null => false | _ => true) &&
    ((intClaim "iat" claims).any fun iat : ℤ =>
      decide (iat * second ≤ now + leeway * second)) &&
    ((claim "nbf" claims).all fun j => (pyInt j).any fun nbf : ℤ =>
      decide (nbf * second ≤ now + leeway * second)) &&
    ((intClaim "exp" claims).any fun exp =>
      decide ((now : ℤ) < (exp + leeway) * second)) &&
    ((claim "aud" claims).any (Jws.audienceMatches audience)) &&
    ((claim "sub" claims).bind Json.asStr?).isSome &&
    ((claim "jti" claims).bind Json.asStr?).isSome

/-- The library: `encode` signs, `unsign` is the payload of a token that
carries a valid signature under the secret, and `decode` also checks the
claims. The payload is in the token, whatever the secret. -/
structure PyJwt where
  encode : Params → String → String
  unsign : String → String → Option Params
  decode : String → String → String → ℕ → ℕ → Option Params
  decode_eq : ∀ token secret audience leeway now,
    decode token secret audience leeway now =
      (unsign token secret).filter (validClaims audience leeway now)
  unsign_payload : ∀ token secret secret' claims claims',
    unsign token secret = some claims → unsign token secret' = some claims' →
      claims = claims'

/-! ## §3  The service -/

structure SecretBundle where
  audience : String
  current : String
  previous : Option String
deriving DecidableEq, Repr

/-- The secrets that verification tries, in order. -/
def SecretBundle.secrets (b : SecretBundle) : List String :=
  (b.current :: b.previous.toList).filter fun s => s != ""

structure JwtService where
  audience : String
  bundle : SecretBundle
  hasRevoked : Bool
  ttl : ℕ
  leeway : ℕ
deriving DecidableEq, Repr

def defaultTtlSec : ℕ := 5 * 60

def defaultLeewaySec : ℕ := 30

def cacheMaxEntries : ℕ := 10000

structure AuthContext where
  userId : Option Json
  tenantId : String
  audience : String
  role : Option Json
  jti : Option Json

/-- The claims of a minted token. -/
def mintClaims (svc : JwtService) (subject tenantId targetAudience : String)
    (role : Option String) (jti : String) (now : ℕ) : Params :=
  [("iss", .str svc.audience), ("sub", .str subject),
    ("aud", .str targetAudience), ("tid", .str tenantId), ("jti", .str jti),
    ("iat", .int (now / second : ℕ)), ("exp", .int (now / second + svc.ttl : ℕ))]
    ++ role.toList.map fun r => ("role", .str r)

/-- Extra claims come last and may not override. -/
def addExtraClaims : Params → Params → Except PyExn Params
  | claims, [] => .ok claims
  | claims, (key, value) :: rest =>
      if (claim key claims).isSome then
        .error (.jwtError "extra_claims may not override reserved claim")
      else addExtraClaims (claims ++ [(key, value)]) rest

/-- `mint`. -/
def mint (lib : PyJwt) (svc : JwtService) (subject tenantId : String)
    (targetAudience : String) (role : Option String) (extra : Params)
    (jti : String) (now : ℕ) : Except PyExn String :=
  if svc.bundle.audience ≠ svc.audience then
    .error (.jwtError "bundle audience does not match service audience")
  else do
    let claims ← addExtraClaims
      (mintClaims svc subject tenantId targetAudience role jti now) extra
    return lib.encode claims svc.bundle.current

/-- What the deny-list answers about a `jti`. -/
inductive RevokedAnswer where
  | answer (revoked : Bool)
  | raised
  | killed
deriving DecidableEq, Repr

/-- `_check_revocation`: a checker that raises counts as no. -/
def checkRevocation (svc : JwtService) (e : RevokedAnswer)
    (jti : Option Json) : Io Unit := fun w =>
  match jti with
  | none => (.ok (), w)
  | some j =>
      if !j.truthy || !svc.hasRevoked then (.ok (), w)
      else
        match e with
        | .killed => (.error .kill, w)
        | .raised => (.ok (), w)
        | .answer false => (.ok (), w)
        | .answer true =>
            (.error (.exception (.jwtError "token revoked")),
              { w with jwtCache := Json.remove (pyStr j) w.jwtCache })

/-- `_decode_with_rotation`: the current secret, then the previous one. -/
def decodeWithRotation (lib : PyJwt) (svc : JwtService) (token : String)
    (now : ℕ) : Option Params :=
  svc.bundle.secrets.findSome? fun secret =>
    lib.decode token secret svc.audience svc.leeway now

/-- `_maybe_evict`: expired entries go, then a quarter of the rest. -/
def maybeEvict (now : ℕ) (cache : List (String × JwtCacheEntry)) :
    List (String × JwtCacheEntry) :=
  if cache.length < cacheMaxEntries then cache
  else
    let kept := cache.filter fun p => decide ((now : ℤ) < p.2.expiresAt)
    if cacheMaxEntries ≤ kept.length then
      let oldest := kept.mergeSort fun p q => p.2.expiresAt ≤ q.2.expiresAt
      let gone := (oldest.take (oldest.length / 4)).map Prod.fst
      kept.filter fun p => !gone.contains p.1
    else kept

/-- `_to_auth`. -/
def toAuth (payload : Params) (audience : String) : AuthContext where
  userId := claim "sub" payload
  tenantId := pyStr ((claim "tid" payload).getD .null)
  audience := audience
  role := claim "role" payload
  jti := claim "jti" payload

/-- The cached entry of a token, while it is good. -/
def cachedEntry (token : String) (w : World) : Option JwtCacheEntry :=
  match Json.lookup token w.jwtCache with
  | some entry => if (w.now : ℤ) < entry.expiresAt then some entry else none
  | none => none

/-- A token whose payload passed the checks goes to the cache. -/
def remember (svc : JwtService) (token : String) (payload : Params) :
    Io Unit := fun w =>
  match (claim "exp" payload).bind pyMicros with
  | none => (.error (.exception (.other "float")), w)
  | some t =>
      (.ok (), { w with
        jwtCache := Json.upsert token ⟨payload, svc.audience, t⟩
          (maybeEvict w.now w.jwtCache) })

/-- `verify`. -/
def verify (lib : PyJwt) (svc : JwtService) (e : RevokedAnswer)
    (token : String) : Io AuthContext := do
  let w ← Run.get
  match cachedEntry token w with
  | some entry => do
      checkRevocation svc e (claim "jti" entry.payload)
      return toAuth entry.payload entry.audience
  | none =>
      match decodeWithRotation lib svc token w.now with
      | none => Run.throw (.jwtError "token verification failed")
      | some payload =>
          if (claim "aud" payload).bind Json.asStr? ≠ some svc.audience then
            Run.throw (.jwtError "audience mismatch")
          else if ["sub", "tid", "jti", "iat", "exp"].any
              fun key => (claim key payload).isNone then
            Run.throw (.jwtError "missing required claim")
          else do
            checkRevocation svc e (claim "jti" payload)
            remember svc token payload
            return toAuth payload svc.audience

/-- Verifying a token touches the cache alone. -/
theorem verify_keeps {P : World → Prop}
    (hc : ∀ c w, P w → P { w with jwtCache := c }) (lib : PyJwt)
    (svc : JwtService) (e : RevokedAnswer) (token : String) :
    Run.Keeps P (verify lib svc e token) := by
  have hrev : ∀ jti, Run.Keeps P (checkRevocation svc e jti) := by
    intro jti w hw
    unfold checkRevocation
    split
    · exact hw
    split
    · exact hw
    split
    · exact hw
    · exact hw
    · exact hw
    · exact hc _ w hw
  unfold verify
  refine Run.Keeps.bind Run.Keeps.get fun w => ?_
  split
  · exact Run.Keeps.bind (hrev _) fun _ => Run.Keeps.pure _
  split
  · exact Run.Keeps.throw _
  split
  · exact Run.Keeps.throw _
  split
  · exact Run.Keeps.throw _
  refine Run.Keeps.bind (hrev _) fun _ => ?_
  refine Run.Keeps.bind ?_ fun _ => Run.Keeps.pure _
  intro w' hw'
  unfold remember
  split
  · exact hw'
  · exact hc _ w' hw'

/-- Verifying a token changes nothing but the cache. -/
theorem verify_world (lib : PyJwt) (svc : JwtService) (e : RevokedAnswer)
    (token : String) (w : World) :
    ∃ c, (verify lib svc e token w).2 = { w with jwtCache := c } := by
  refine verify_keeps (P := fun w' => ∃ c, w' = { w with jwtCache := c }) ?_
    lib svc e token w ⟨w.jwtCache, rfl⟩
  rintro c _ ⟨c', rfl⟩
  exact ⟨c, rfl⟩

/-! ## §4  A library for examples -/

/-- The payload that `unsign` looks for, whatever the secret. -/
def tokenClaims (token : String) : Option Params :=
  (Jws.payload token).bind Json.asObj?

/-- Compact tokens with a keyed hash, read as the standard says. -/
def standardPyJwt (mac : Mac) : PyJwt where
  encode claims secret :=
    Jws.sign mac ⟨true, false⟩
      (.obj [("alg", .str "HS256"), ("typ", .str "JWT")]) (.obj claims) secret
  unsign token secret :=
    if Jws.signedBy mac token secret then tokenClaims token else none
  decode token secret audience leeway now :=
    (if Jws.signedBy mac token secret then tokenClaims token else none).filter
      (validClaims audience leeway now)
  decode_eq _ _ _ _ _ := rfl
  unsign_payload token secret secret' claims claims' h h' := by
    simp only [Option.ite_none_right_eq_some] at h h'
    exact Option.some.inj (h.2.symm.trans h'.2)

/-- A keyed hash for examples: it joins key and message. -/
def joinMac : Mac := fun key message => key ++ message

/-- What it signs, it reads back. -/
theorem standardPyJwt_unsign (mac : Mac) {claims : Params} (secret : String)
    (h : Json.Distinct (.obj claims)) :
    (standardPyJwt mac).unsign ((standardPyJwt mac).encode claims secret)
      secret = some claims := by
  simp [standardPyJwt, Jws.signedBy_sign, tokenClaims, Jws.payload_sign, h,
    Json.asObj?]

end AlertTriage
