import AlertTriage.Library.Jws
import AlertTriage.Schemas
import Mathlib.Algebra.Order.Field.Rat

/-!
# `gateway/src/jwt.ts`

The gateway's own HS256: `mintHs256` and `verifyHs256`, and the two places of
`durable-object.ts` that call them. The hash is a parameter, and so is what the
platform's text decoder makes of bytes that are not UTF-8.
-/

namespace AlertTriage.Gateway

open Library

/-- The writer `JSON.stringify`. -/
def jsStyle : Json.Style := ⟨false, false⟩

mutual
/-- No number in the value is written `NaN` or `Infinity`. -/
def isFinite : Json → Bool
  | .nan => false
  | .infinity _ => false
  | .arr items => areFinite items
  | .obj fields => fieldsFinite fields
  | _ => true

def areFinite : List Json → Bool
  | [] => true
  | j :: rest => isFinite j && areFinite rest

def fieldsFinite : List (String × Json) → Bool
  | [] => true
  | (_, j) :: rest => isFinite j && fieldsFinite rest
end

/-- `JSON.parse`, which has no names for the numbers that are not finite. -/
def jsonParse (text : String) : Option Json :=
  match Json.loads text with
  | some j => if isFinite j then some j else none
  | none => none

/-- A value of type `"number"`. -/
def jsNumber : Json → Option ℚ
  | .int i => some i
  | .float m e => some (m * 10 ^ e)
  | _ => none

/-- The web platform: the keyed hash of `crypto.subtle`, and the text that
`TextDecoder` puts in place of malformed bytes. -/
structure WebPlatform where
  hmac : Mac
  replaceMalformed : List UInt8 → String

/-- `dec.decode(bytes)`, which drops a byte-order mark. -/
def WebPlatform.textDecode (web : WebPlatform) (bytes : List UInt8) : String :=
  match ofUtf8 bytes with
  | none => web.replaceMalformed bytes
  | some text =>
      match text.toList with
      | [] => text
      | c :: rest => if c.toNat = 0xFEFF then String.ofList rest else text

/-! ## §1  Minting -/

structure MintArgs where
  secret : String
  issuer : String
  targetAudience : String
  subject : String
  tenantId : String
  ttlSeconds : Option ℕ
  reqId : Option String
deriving DecidableEq, Repr

def hs256Header : Json := .obj [("alg", .str "HS256"), ("typ", .str "JWT")]

/-- The payload; an empty `reqId` is left out like a missing one. -/
def MintArgs.claims (args : MintArgs) (jti : String) (iat : ℕ) : Params :=
  [("iss", .str args.issuer), ("aud", .str args.targetAudience),
    ("sub", .str args.subject), ("tid", .str args.tenantId), ("jti", .str jti),
    ("iat", .int iat), ("exp", .int (iat + args.ttlSeconds.getD (5 * 60) : ℕ))]
    ++ ((args.reqId.filter fun r => r != "").toList.map fun r =>
      ("req_id", .str r))

/-- `mintHs256`, at a time in milliseconds. -/
def mintHs256 (mac : Mac) (args : MintArgs) (jti : String) (nowMs : ℕ) :
    String :=
  Jws.sign mac jsStyle hs256Header (.obj (args.claims jti (nowMs / 1000)))
    args.secret

/-! ## §2  Verifying -/

structure VerifyArgs where
  secret : String
  expectedAudience : String
  expectedIssuer : Option String
  leewaySeconds : Option ℕ
deriving DecidableEq, Repr

/-- The property of a parsed value: only objects have any. -/
def property (key : String) : Json → Option Json
  | .obj fields => Json.lookup key fields
  | _ => none

/-- The checks on the claims, in order. -/
def checkClaims (args : VerifyArgs) (claims : Json) (now : ℕ) :
    Except String Json :=
  let leeway : ℚ := args.leewaySeconds.getD 30
  match (property "exp" claims).bind jsNumber with
  | none => .error "expired"
  | some exp =>
      if exp + leeway < now then .error "expired"
      else
        match (property "iat" claims).bind jsNumber with
        | none => .error "future-issued"
        | some iat =>
            if (now : ℚ) < iat - leeway then .error "future-issued"
            else if (property "aud" claims).bind Json.asStr? ≠
                some args.expectedAudience then
              .error "audience mismatch"
            else
              match args.expectedIssuer.filter fun i => i != "" with
              | none => .ok claims
              | some issuer =>
                  if (property "iss" claims).bind Json.asStr? ≠ some issuer then
                    .error "issuer mismatch"
                  else .ok claims

/-- `verifyHs256`. A payload `null` has no properties and raises. -/
def verifyHs256 (web : WebPlatform) (token : String) (args : VerifyArgs)
    (nowMs : ℕ) : Except String Json :=
  match Jws.parts token with
  | none => .error "malformed token"
  | some p =>
      match Base64.urlDecode p.signature with
      | none => .error "InvalidCharacterError"
      | some signature =>
          if signature ≠
              web.hmac (utf8 args.secret) (Jws.signingInput p.header p.payload)
          then .error "bad signature"
          else
            match Base64.urlDecode p.payload with
            | none => .error "InvalidCharacterError"
            | some bytes =>
                match jsonParse (web.textDecode bytes) with
                | none => .error "SyntaxError"
                | some .null => .error "TypeError"
                | some claims => checkClaims args claims (nowMs / 1000)

/-! ## §3  The durable object -/

structure Ticket where
  userId : String
  tenantId : String
deriving DecidableEq, Repr

def serviceTokenTtlSec : ℕ := 5 * 60

/-- `gatewayServiceToken`: without a secret it raises. -/
def gatewayServiceToken (mac : Mac) (secret : String) (ticket : Option Ticket)
    (jti : String) (nowMs : ℕ) : Except String String :=
  if secret = "" then .error "GATEWAY_SERVICE_TOKEN_SECRET unset"
  else
    .ok (mintHs256 mac
      { secret := secret
        issuer := "gateway"
        targetAudience := "gateway"
        subject := (ticket.map Ticket.userId).getD "anon"
        tenantId := (ticket.map Ticket.tenantId).getD "anon"
        ttlSeconds := some serviceTokenTtlSec
        reqId := none } jti nowMs)

/-- The whitespace of `String.prototype.trim`. -/
def isJsSpace (c : Char) : Bool :=
  let n := c.toNat
  (decide (9 ≤ n) && decide (n ≤ 13)) || n == 32 || n == 0xA0 || n == 0x1680 ||
    (decide (0x2000 ≤ n) && decide (n ≤ 0x200A)) || n == 0x2028 ||
    n == 0x2029 || n == 0x202F || n == 0x205F || n == 0x3000 || n == 0xFEFF

def jsTrim (cs : List Char) : List Char :=
  ((cs.dropWhile isJsSpace).reverse.dropWhile isJsSpace).reverse

def isBearer (cs : List Char) : Bool :=
  (cs.take 7).map Char.toLower == "bearer ".toList

/-- The token in an `Authorization` header: empty if there is none. -/
def bearerToken (authorization : String) : String :=
  let cs := authorization.toList
  if isBearer cs then String.ofList (jsTrim (cs.drop 7)) else ""

/-- The service-token check of `handlePush`: the refusal, if any. -/
def pushRefusal (web : WebPlatform) (secret authorization : String)
    (nowMs : ℕ) : Option (ℕ × String) :=
  let token := bearerToken authorization
  if secret = "" then some (503, "gateway secret unset")
  else if token = "" then some (401, "missing service token")
  else
    match verifyHs256 web token ⟨secret, "gateway", some "bff", none⟩ nowMs with
    | .error reason => some (401, "invalid service token: " ++ reason)
    | .ok _ => none

end AlertTriage.Gateway
