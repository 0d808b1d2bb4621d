import AlertTriage.Api.ApiStores
import AlertTriage.Runtime.JwtService

/-!
# Requests to the API and who they come from

A request has an API key, in a header of its own or in place of a bearer token
(`security/input_guard.py`), and may carry a service token, which
`attach_verified_service_token` of `app/_runtime_glue.py` verifies for the
audience `ingest` when an endpoint asks for it.
-/

namespace AlertTriage

open Library

/-! ## §1  Requests and settings -/

/-- A request: its headers `X-API-Key` and `Authorization`, and its body. -/
structure HttpRequest where
  apiKeyHeader : Option String
  authorization : Option String
  body : Body
deriving DecidableEq, Repr

structure ApiSettings where
  apiKey : String
  verdictAuthRequired : Bool
  verdictDeprecationSunset : String
  ingestViaNats : Bool
deriving DecidableEq, Repr

/-- What the endpoints use: the settings, the token service, if the authority
was started, the stores and the serialisation. -/
structure ApiDeps where
  settings : ApiSettings
  lib : PyJwt
  ingestJwt : Option JwtService
  persistence : AlertPersistence
  alertCodec : AlertCodec
  verdictCodec : VerdictCodec
  scrubString : String → String

/-! ## §2  Header texts -/

/-- `s.removeprefix(pre)`. -/
def removePrefix (pre s : String) : String :=
  if pre.toList <+: s.toList then String.ofList (s.toList.drop pre.length)
  else s

/-- White space of a header, which is Latin-1 text. -/
def isHeaderSpace (c : Char) : Bool :=
  c == ' ' || (decide (9 ≤ c.toNat) && decide (c.toNat ≤ 13)) ||
    (decide (28 ≤ c.toNat) && decide (c.toNat ≤ 31)) ||
    c.toNat == 0x85 || c.toNat == 0xA0

/-- `s.strip()`. -/
def strip (cs : List Char) : List Char :=
  ((cs.dropWhile isHeaderSpace).reverse.dropWhile isHeaderSpace).reverse

/-- The token of an `Authorization` header, unless it has none. -/
def bearerToken (header : String) : Option String :=
  if (header.toList.take 7).map Char.toLower = "bearer ".toList then
    match strip (header.toList.drop 7) with
    | [] => none
    | token => some (String.ofList token)
  else none

example : bearerToken "bearer  abc " = some "abc" := by decide +kernel

/-! ## §3  The guard and the token -/

/-- The key that a request offers: the header, else the `Authorization`. -/
def HttpRequest.providedKey (r : HttpRequest) : String :=
  match r.apiKeyHeader with
  | some key =>
      if key = "" then removePrefix "Bearer " (r.authorization.getD "")
      else key
  | none => removePrefix "Bearer " (r.authorization.getD "")

/-- `validate_api_key`. -/
def validateApiKey (settings : ApiSettings) (r : HttpRequest) : ApiIo Unit :=
  if r.providedKey ≠ settings.apiKey then
    Run.throw (.http 401 "Invalid or missing API key")
  else return ()

/-- `attach_verified_service_token`: what it leaves in `request.state.auth`. -/
def attachVerifiedServiceToken (deps : ApiDeps) (e : RevokedAnswer)
    (r : HttpRequest) : Io (Option AuthContext) :=
  match deps.ingestJwt with
  | none => return none
  | some svc =>
      match bearerToken (r.authorization.getD "") with
      | none => return none
      | some token =>
          Run.tryExcept
            (do
              let auth ← verify deps.lib svc e token
              return some auth)
            (fun _ => return none)

/-- It changes nothing but the cache of tokens. -/
theorem attach_world (deps : ApiDeps) (e : RevokedAnswer) (r : HttpRequest)
    (w : World) :
    ∃ c, (attachVerifiedServiceToken deps e r w).2 = { w with jwtCache := c } := by
  unfold attachVerifiedServiceToken
  cases deps.ingestJwt with
  | none => exact ⟨w.jwtCache, rfl⟩
  | some svc =>
      cases bearerToken (r.authorization.getD "") with
      | none => exact ⟨w.jwtCache, rfl⟩
      | some token =>
          have hkeeps : Run.Keeps
              (fun w' => ∃ c, w' = { w with jwtCache := c })
              (Run.tryExcept (do
                let auth ← verify deps.lib svc e token
                return some auth) (fun _ => return none)) := by
            apply Run.Keeps.tryExcept
            · refine Run.Keeps.bind (verify_keeps ?_ deps.lib svc e token)
                fun _ => Run.Keeps.pure _
              rintro c _ ⟨c', rfl⟩
              exact ⟨c, rfl⟩
            · exact fun _ => Run.Keeps.pure _
          exact hkeeps w ⟨w.jwtCache, rfl⟩

/-! ## §4  An API process for examples -/

/-- A codec that is never asked: the stores are in memory. -/
def unusedVerdictCodec : VerdictCodec where
  modelDumpJson _ := .error (.other "unused")
  modelValidateJson _ := .error (.other "unused")
  validate_dump _ _ h := absurd h (by simp)

def ingestService : JwtService where
  audience := "ingest"
  bundle := ⟨"ingest", "k2", none⟩
  hasRevoked := false
  ttl := defaultTtlSec
  leeway := defaultLeewaySec

/-- Authentication is required, and the stores are in memory. -/
def plainApi : ApiDeps where
  settings := ⟨"analyse_alert", true, "2026-06-08", false⟩
  lib := standardPyJwt joinMac
  ingestJwt := some ingestService
  persistence := ⟨false⟩
  alertCodec := plainCodec
  verdictCodec := unusedVerdictCodec
  scrubString s := s

/-- A request with the API key and a service token. -/
def tokenRequest (token : String) : HttpRequest :=
  ⟨some "analyse_alert", some ("Bearer " ++ token), .utf8 "{}"⟩

/-- The cache of a process that has verified the token `t` for a tenant. -/
def tenantCache (tenantId : String) : List (String × JwtCacheEntry) :=
  [("t", ⟨[("tid", .str tenantId)], "ingest", 1⟩)]

/-- The token is still good, and its tenant is attached. -/
theorem attach_cached {w : World} {tenantId : String}
    (hc : w.jwtCache = tenantCache tenantId) (hnow : w.now = 0) :
    attachVerifiedServiceToken plainApi (.answer false) (tokenRequest "t") w =
      (.ok (some ⟨none, tenantId, "ingest", none, none⟩), w) := by
  have hbearer : bearerToken ((tokenRequest "t").authorization.getD "") =
      some "t" := by decide +kernel
  have hentry : cachedEntry "t" w =
      some ⟨[("tid", .str tenantId)], "ingest", 1⟩ := by
    simp [cachedEntry, hc, hnow, tenantCache, Json.lookup]
  have hverify : verify (standardPyJwt joinMac) ingestService (.answer false)
      "t" w = (.ok ⟨none, tenantId, "ingest", none, none⟩, w) := by
    simp only [verify, Run.bind_apply, Run.get_apply, hentry]
    rfl
  simp only [attachVerifiedServiceToken, hbearer, plainApi]
  exact Run.tryExcept_ok (Run.bind_ok hverify)

end AlertTriage
