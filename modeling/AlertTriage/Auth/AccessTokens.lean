import AlertTriage.Auth.SessionCalls
import AlertTriage.Gateway.ServiceTokens

/-!
# Access tokens and their deny list

The user's side of `frontend/lib/jwt.ts`, `auth-guard.ts` and the logout route. An
access token is taken until thirty seconds after its expiry; a logout denies its
`jti` for 900 seconds, whatever the configured lifetime is. So the token stays
rejected exactly when no more than 900 seconds of acceptance are left at the logout
(`stays_rejected_iff`).
-/

namespace AlertTriage.Auth

open Library Gateway

/-! ## §1  The functions -/

def bffUser : String := "bff_user"

/-- The token library takes what it has signed itself, if the claims pass the checks. -/
structure SigningJose (mac : Mac) extends Jose mac where
  verify_signed : ∀ claims secret o now, Json.Distinct (.obj claims) →
    acceptsClaims o claims now = true →
      jwtVerify (sign claims secret) secret o now = some claims

/-- The text of a value in a template literal. -/
structure TemplateText where
  text : Json → String
  text_str : ∀ s, text (.str s) = s

structure AccessArgs where
  userId : String
  tenantId : String
  role : Option String
deriving DecidableEq, Repr

/-- The claims of an access token, in the order in which they are set. -/
def accessClaims (cfg : Config) (args : AccessArgs) (jti : String) (iat : ℕ) : Params :=
  [("tid", .str args.tenantId), ("role", optionalRole args.role), ("iss", .str "bff"),
    ("aud", .str bffUser), ("sub", .str args.userId), ("iat", .int iat),
    ("exp", .int (iat + cfg.accessTokenTtlSeconds : ℕ)), ("jti", .str jti)]

section Functions

variable {mac : Mac} (jose : Jose mac) (js : TemplateText)

/-- `mintAccessToken`, at a time in milliseconds. -/
def mintAccessToken (cfg : Config) (secrets : SecretPair) (args : AccessArgs)
    (jti : RandomBytes) (nowMs : ℕ) : String :=
  jose.sign (accessClaims cfg args (newId jti) (nowMs / 1000)) secrets.current

/-- `verifyAccessToken`: as for a service token, with the audience of the users. -/
def verifyAccessToken (secrets : SecretPair) (token : String) (nowMs : ℕ) :
    Option Params :=
  verifyServiceToken jose secrets token bffUser nowMs

def Redis.nowMs (r : Redis) : ℕ := r.clock / 1000

def denyJti (jti : Json) (ttlSeconds : ℕ) (r : Redis) : Redis :=
  { r with store :=
      r.store.setEx r.clock (revokedJtiKey (js.text jti)) (.text "1") (ttlSeconds * second) }

/-- The default of `denyJti`. -/
def denyTtlSeconds : ℕ := 900

def isJtiDenied (jti : Json) (r : Redis) : Bool :=
  r.get (revokedJtiKey (js.text jti)) = some (.text "1")

/-- `requireAccessToken`, on the value of the `Authorization` header. -/
def requireAccessToken (secrets : SecretPair) (authorization : String) (r : Redis) :
    Except String Params :=
  if !isBearer authorization.toList then .error "missing_bearer"
  else
    let token := bearerToken authorization
    if token = "" then .error "empty_bearer"
    else
      match verifyAccessToken jose secrets token r.nowMs with
      | none => .error "invalid_token"
      | some claims =>
          if isJtiDenied js ((Json.lookup "jti" claims).getD .null) r then
            .error "revoked_token"
          else .ok claims

/-- A value that counts as true. -/
def truthy : Json → Bool
  | .null => false
  | .bool b => b
  | .int i => i != 0
  | .float m _ => m != 0
  | .nan => false
  | .str s => s != ""
  | _ => true

/-- The `jti` that the logout route denies: that of a token which is still taken and
names a user. -/
def logoutJti (secrets : SecretPair) (authorization : String) (nowMs : ℕ) : Option Json :=
  let token := bearerToken authorization
  if token = "" then none
  else
    match verifyAccessToken jose secrets token nowMs with
    | none => none
    | some claims =>
        if truthy ((Json.lookup "sub" claims).getD .null) then
          (Json.lookup "jti" claims).filter truthy
        else none

end Functions

/-! ## §2  An access token and its checks -/

section Tokens

variable {mac : Mac} (cfg : Config) (args : AccessArgs) (jti : String) (iat : ℕ)

theorem accessClaims_distinct : Json.Distinct (.obj (accessClaims cfg args jti iat)) := by
  unfold accessClaims
  cases args.role <;> simp [Json.Distinct, Json.DistinctFields, optionalRole]

/-- What an access token says. -/
theorem lookup_accessClaims :
    let claims := accessClaims cfg args jti iat
    Json.lookup "iss" claims = some (.str "bff") ∧
      Json.lookup "aud" claims = some (.str bffUser) ∧
      Json.lookup "sub" claims = some (.str args.userId) ∧
      Json.lookup "iat" claims = some (.int iat) ∧
      Json.lookup "exp" claims = some (.int (iat + cfg.accessTokenTtlSeconds : ℕ)) ∧
      Json.lookup "jti" claims = some (.str jti) ∧ Json.lookup "nbf" claims = none :=
  ⟨rfl, rfl, rfl, rfl, rfl, rfl, rfl⟩

/-- The claims pass the checks until thirty seconds after the expiry. -/
theorem acceptsClaims_access (now : ℕ) :
    acceptsClaims (serviceOptions bffUser) (accessClaims cfg args jti iat) now =
      decide (now < iat + cfg.accessTokenTtlSeconds + 30) := by
  obtain ⟨hiss, haud, hsub, hiat, hexp, hjti, hnbf⟩ :=
    lookup_accessClaims cfg args jti iat
  have htime : ((now : ℚ) < (iat + cfg.accessTokenTtlSeconds : ℚ) + 30) ↔
      now < iat + cfg.accessTokenTtlSeconds + 30 := by
    exact_mod_cast Iff.rfl
  simp [acceptsClaims, serviceOptions, hiss, haud, hsub, hiat, hexp, hjti, hnbf,
    Json.asStr?, jsNumber, Jws.audienceMatches, htime]

end Tokens

section Verifying

variable {mac : Mac} (cfg : Config) (secrets : SecretPair) (args : AccessArgs)
  (jti : RandomBytes) (issuedMs : ℕ)

/-- The second from which the token is refused. -/
def acceptedUntil (cfg : Config) (issuedMs : ℕ) : ℕ :=
  issuedMs / 1000 + cfg.accessTokenTtlSeconds + 30

theorem mintAccessToken_ne_empty (jose : Jose mac) :
    mintAccessToken jose cfg secrets args jti issuedMs ≠ "" := by
  rw [mintAccessToken, jose.sign_eq]
  exact Jws.sign_ne_empty _ _ _ _ _

theorem bearerToken_mint (jose : Jose mac) :
    bearerToken ("Bearer " ++ mintAccessToken jose cfg secrets args jti issuedMs) =
      mintAccessToken jose cfg secrets args jti issuedMs := by
  rw [mintAccessToken, jose.sign_eq]
  exact bearerToken_sign mac _ _ _ _

/-- The library gives the claims of the token, in time, or nothing. -/
theorem jwtVerify_access (jose : Jose mac) {secret : String} {now : ℕ} {claims : Params}
    (h : jose.jwtVerify (mintAccessToken jose cfg secrets args jti issuedMs) secret
      (serviceOptions bffUser) now = some claims) :
    claims = accessClaims cfg args (newId jti) (issuedMs / 1000) ∧
      now < acceptedUntil cfg issuedMs := by
  have hpayload : Jws.payload (mintAccessToken jose cfg secrets args jti issuedMs) =
      some (.obj (accessClaims cfg args (newId jti) (issuedMs / 1000))) := by
    rw [mintAccessToken, jose.sign_eq]
    exact Jws.payload_sign mac jsStyle joseHeader secrets.current
      (accessClaims_distinct cfg args _ _)
  obtain rfl := Json.obj.inj (jose.verify_payload _ _ _ _ _ _ h hpayload)
  have hchecks := jose.verify_checks _ _ _ _ _ h
  rw [acceptsClaims_access, decide_eq_true_eq] at hchecks
  exact ⟨rfl, hchecks⟩

theorem verifyAccessToken_access (jose : Jose mac) {secrets' : SecretPair} {nowMs : ℕ}
    {claims : Params}
    (h : verifyAccessToken jose secrets'
      (mintAccessToken jose cfg secrets args jti issuedMs) nowMs = some claims) :
    claims = accessClaims cfg args (newId jti) (issuedMs / 1000) ∧
      nowMs / 1000 < acceptedUntil cfg issuedMs := by
  simp only [verifyAccessToken, verifyServiceToken] at h
  split at h
  · rename_i claims' hcurrent
    obtain rfl := Option.some.inj h
    exact jwtVerify_access cfg secrets args jti issuedMs jose hcurrent
  · split at h
    · cases h
    · split at h
      · cases h
      · exact jwtVerify_access cfg secrets args jti issuedMs jose h

/-- A process that still has the secret takes the token in time. -/
theorem verifyAccessToken_mint (jose : SigningJose mac) {nowMs : ℕ}
    (h : nowMs / 1000 < acceptedUntil cfg issuedMs) :
    verifyAccessToken jose.toJose secrets
        (mintAccessToken jose.toJose cfg secrets args jti issuedMs) nowMs =
      some (accessClaims cfg args (newId jti) (issuedMs / 1000)) := by
  have hcurrent : jose.jwtVerify (mintAccessToken jose.toJose cfg secrets args jti issuedMs)
      secrets.current (serviceOptions bffUser) (nowMs / 1000) =
        some (accessClaims cfg args (newId jti) (issuedMs / 1000)) := by
    apply jose.verify_signed _ _ _ _ (accessClaims_distinct cfg args _ _)
    rw [acceptsClaims_access]
    exact decide_eq_true h
  simp only [verifyAccessToken, verifyServiceToken, hcurrent]

end Verifying

/-! ## §3  After a logout -/

/-- The API takes no header with the token, whatever secrets its process holds. -/
def Rejects {mac : Mac} (jose : Jose mac) (js : TemplateText) (token : String) (r : Redis) :
    Prop :=
  ∀ secrets authorization, bearerToken authorization = token →
    ∃ e, requireAccessToken jose js secrets authorization r = .error e

theorem inTime_iff {cfg : Config} {issuedMs : ℕ} {r : Redis} :
    r.nowMs / 1000 < acceptedUntil cfg issuedMs ↔
      r.clock < acceptedUntil cfg issuedMs * second := by
  rw [Redis.nowMs, Nat.div_div_eq_div_mul, Nat.div_lt_iff_lt_mul (by decide)]
  rfl

section Logout

variable {mac : Mac} (js : TemplateText) {cfg : Config} {secrets : SecretPair}
  {args : AccessArgs} {jti : RandomBytes} {issuedMs : ℕ}

/-- The route denies the `jti` that the token was minted with. -/
theorem logoutJti_mint (jose : Jose mac) {secrets' : SecretPair} {authorization : String}
    {nowMs : ℕ} {denied : Json}
    (htoken : bearerToken authorization = mintAccessToken jose cfg secrets args jti issuedMs)
    (h : logoutJti jose secrets' authorization nowMs = some denied) :
    denied = .str (newId jti) := by
  simp only [logoutJti, htoken] at h
  split at h
  · cases h
  · split at h
    · cases h
    · rename_i claims hverify
      obtain ⟨rfl, -⟩ := verifyAccessToken_access cfg secrets args jti issuedMs jose hverify
      split at h
      · rw [(lookup_accessClaims cfg args _ _).2.2.2.2.2.1] at h
        exact (Option.mem_def.mp (Option.mem_filter_iff.mp h).1 |> Option.some.inj).symm
      · cases h

theorem isJtiDenied_iff {r later : Redis} {denied : Json}
    (h : later.store.lookup (revokedJtiKey (js.text denied)) =
      (denyJti js denied denyTtlSeconds r).store.lookup (revokedJtiKey (js.text denied))) :
    isJtiDenied js denied later = true ↔
      later.clock < r.clock + denyTtlSeconds * second := by
  have hentry : later.store.lookup (revokedJtiKey (js.text denied)) =
      some ⟨.text "1", some (r.clock + denyTtlSeconds * second)⟩ := by
    rw [h, denyJti, TtlStore.setEx, AList.lookup_insert]
  have hget : later.get (revokedJtiKey (js.text denied)) =
      if later.clock < r.clock + denyTtlSeconds * second then some (.text "1") else none := by
    change TtlStore.get later.clock _ later.store = _
    rw [TtlStore.get, hentry]
    simp [Entry.live]
  rw [isJtiDenied, hget]
  split <;> simp_all

/-- In time and not denied, the token is taken. -/
theorem requireAccessToken_mint (jose : SigningJose mac) {r : Redis}
    (htime : r.nowMs / 1000 < acceptedUntil cfg issuedMs)
    (hdenied : isJtiDenied js (.str (newId jti)) r = false) :
    requireAccessToken jose.toJose js secrets
        ("Bearer " ++ mintAccessToken jose.toJose cfg secrets args jti issuedMs) r =
      .ok (accessClaims cfg args (newId jti) (issuedMs / 1000)) := by
  have hbearer := isBearer_bearer (mintAccessToken jose.toJose cfg secrets args jti issuedMs)
  have htoken := bearerToken_mint cfg secrets args jti issuedMs jose.toJose
  have hne := mintAccessToken_ne_empty cfg secrets args jti issuedMs jose.toJose
  have hverify := verifyAccessToken_mint cfg secrets args jti issuedMs jose htime
  have hjti := (lookup_accessClaims cfg args (newId jti) (issuedMs / 1000)).2.2.2.2.2.1
  unfold requireAccessToken
  simp only [hbearer, htoken, if_neg hne, hverify, hjti, Option.getD_some, hdenied]
  rfl

/-- A token whose `jti` is denied for as long as it would be taken. -/
theorem rejects_of_denied (jose : Jose mac) {r : Redis}
    (h : r.nowMs / 1000 < acceptedUntil cfg issuedMs →
      isJtiDenied js (.str (newId jti)) r = true) :
    Rejects jose js (mintAccessToken jose cfg secrets args jti issuedMs) r := by
  intro secrets' authorization htoken
  simp only [requireAccessToken, htoken]
  split
  · exact ⟨_, rfl⟩
  · split
    · exact ⟨_, rfl⟩
    · split
      · exact ⟨_, rfl⟩
      · rename_i claims hverify
        obtain ⟨rfl, htime⟩ :=
          verifyAccessToken_access cfg secrets args jti issuedMs jose hverify
        rw [(lookup_accessClaims cfg args _ _).2.2.2.2.2.1, Option.getD_some, h htime]
        exact ⟨_, rfl⟩

/-- A logout with the token in time, by a user with an id, denies its `jti`. -/
theorem logoutJti_eq (jose : SigningJose mac) (huser : args.userId ≠ "") {nowMs : ℕ}
    (htime : nowMs / 1000 < acceptedUntil cfg issuedMs) :
    logoutJti jose.toJose secrets
        ("Bearer " ++ mintAccessToken jose.toJose cfg secrets args jti issuedMs) nowMs =
      some (.str (newId jti)) := by
  have htoken := bearerToken_mint cfg secrets args jti issuedMs jose.toJose
  have hne := mintAccessToken_ne_empty cfg secrets args jti issuedMs jose.toJose
  have hverify := verifyAccessToken_mint cfg secrets args jti issuedMs jose htime
  obtain ⟨-, -, hsub, -, -, hjti, -⟩ :=
    lookup_accessClaims cfg args (newId jti) (issuedMs / 1000)
  simp [logoutJti, htoken, hne, hverify, hsub, hjti, truthy, huser, newId_ne_empty]

/-- **A denied token stays rejected** exactly when the deny entry outlives the time in
which the token is taken. -/
theorem stays_rejected_iff (jose : SigningJose mac) {secrets' : SecretPair}
    {authorization : String} {verifiedMs : ℕ} {denied : Json}
    (htoken : bearerToken authorization =
      mintAccessToken jose.toJose cfg secrets args jti issuedMs)
    (hlogout : logoutJti jose.toJose secrets' authorization verifiedMs = some denied)
    (r : Redis) :
    (∀ later : Redis, r.clock ≤ later.clock →
      later.store.lookup (revokedJtiKey (js.text denied)) =
        (denyJti js denied denyTtlSeconds r).store.lookup
          (revokedJtiKey (js.text denied)) →
      Rejects jose.toJose js
        (mintAccessToken jose.toJose cfg secrets args jti issuedMs) later) ↔
      acceptedUntil cfg issuedMs * second ≤ r.clock + denyTtlSeconds * second := by
  obtain rfl := logoutJti_mint jose.toJose htoken hlogout
  constructor
  · intro hrejects
    by_contra hlate
    -- the moment at which the entry is gone
    let later : Redis :=
      ⟨r.clock + denyTtlSeconds * second,
        (denyJti js (.str (newId jti)) denyTtlSeconds r).store⟩
    have htime : later.nowMs / 1000 < acceptedUntil cfg issuedMs := by
      rw [inTime_iff]
      exact Nat.lt_of_not_le hlate
    have hdenied : isJtiDenied js (.str (newId jti)) later = false := by
      have hiff : isJtiDenied js (.str (newId jti)) later = true ↔ _ :=
        isJtiDenied_iff js (r := r) rfl
      rw [← Bool.not_eq_true, hiff]
      exact lt_irrefl _
    have htaken : requireAccessToken jose.toJose js secrets
        ("Bearer " ++ mintAccessToken jose.toJose cfg secrets args jti issuedMs) later = .ok _ :=
      requireAccessToken_mint js jose htime hdenied
    obtain ⟨e, he⟩ := hrejects later (Nat.le_add_right _ _) rfl secrets _
      (bearerToken_mint cfg secrets args jti issuedMs jose.toJose)
    cases htaken.symm.trans he
  · rintro hcovers later - hentry
    refine rejects_of_denied js jose.toJose fun htime => ?_
    rw [isJtiDenied_iff js hentry]
    rw [inTime_iff] at htime
    omega

end Logout

theorem header_joseHeader (mac : Mac) (claims : Params) (secret : String) :
    Jws.header (Jws.sign mac jsStyle joseHeader (.obj claims) secret) = some joseHeader := by
  rw [Jws.header, Jws.parts_sign, Option.bind_some, Jws.signedParts]
  exact Jws.readSegment_segment jsStyle
    (by simp [joseHeader, Json.Distinct, Json.DistinctFields])

/-- `standardJose` takes what it has signed. -/
theorem standardJose_verify (mac : Mac) {claims : Params} (secret : String)
    {o : VerifyOptions} {now : ℕ} (hdistinct : Json.Distinct (.obj claims))
    (haccepts : acceptsClaims o claims now = true) :
    (standardJose mac).jwtVerify ((standardJose mac).sign claims secret) secret o now =
      some claims := by
  have hpayload := Jws.payload_sign mac jsStyle joseHeader secret hdistinct
  have hsigned := Jws.signedBy_sign mac jsStyle joseHeader (.obj claims) secret
  have hheader := header_joseHeader mac claims secret
  have halg : (((some joseHeader).bind (property "alg")).bind Json.asStr? ==
      some "HS256") = true := by decide
  rw [(standardJose mac).sign_eq]
  unfold standardJose
  simp only [hpayload, hsigned, hheader, halg, haccepts, Bool.and_self, if_true]

def standardSigningJose (mac : Mac) : SigningJose mac :=
  ⟨standardJose mac, fun _ secret _ _ hdistinct haccepts =>
    standardJose_verify mac secret hdistinct haccepts⟩

def plainText : TemplateText where
  text := fun j => j.asStr?.getD ""
  text_str := fun _ => rfl

def sampleMac : Mac := fun key message => key ++ message

/-- Alice's token under the secret `k1`, issued at the time 0. -/
def aliceToken (cfg : Config) : String :=
  mintAccessToken (standardJose sampleMac) cfg ⟨"k1", none⟩ ⟨"alice", "acme", none⟩
    (sampleBytes 7) 0

theorem logoutJti_alice :
    logoutJti (standardJose sampleMac) ⟨"k1", none⟩ ("Bearer " ++ aliceToken .default) 0 =
      some (.str (sampleId 7)) :=
  logoutJti_eq (standardSigningJose sampleMac) (by decide) (by decide)

theorem stays_rejected_iff_alice :
    (∀ later : Redis, 0 ≤ later.clock →
      later.store.lookup (revokedJtiKey (sampleId 7)) =
        (denyJti plainText (.str (sampleId 7)) denyTtlSeconds ⟨0, ∅⟩).store.lookup
          (revokedJtiKey (sampleId 7)) →
      Rejects (standardJose sampleMac) plainText (aliceToken .default) later) ↔
      acceptedUntil .default 0 * second ≤ 0 + denyTtlSeconds * second :=
  stays_rejected_iff plainText (standardSigningJose sampleMac)
    (bearerToken_mint .default ⟨"k1", none⟩ ⟨"alice", "acme", none⟩ (sampleBytes 7) 0
      (standardJose sampleMac))
    logoutJti_alice ⟨0, ∅⟩

/-- Alice logs out at once, and 900 seconds later her token is taken again. -/
theorem denied_token_revives :
    ∃ later : Redis,
      logoutJti (standardJose sampleMac) ⟨"k1", none⟩ ("Bearer " ++ aliceToken .default) 0 =
        some (.str (sampleId 7)) ∧
      later = ⟨900 * second,
        (denyJti plainText (.str (sampleId 7)) denyTtlSeconds ⟨0, ∅⟩).store⟩ ∧
      requireAccessToken (standardJose sampleMac) plainText ⟨"k1", none⟩
          ("Bearer " ++ aliceToken .default) later =
        .ok (accessClaims .default ⟨"alice", "acme", none⟩ (sampleId 7) 0) := by
  refine ⟨_, logoutJti_alice, rfl, ?_⟩
  exact requireAccessToken_mint plainText (standardSigningJose sampleMac) (by decide)
    (by decide)

/-- The deny entry covers every logout exactly when the lifetime and the tolerance fit
into it. -/
theorem denyTtl_covers_iff (cfg : Config) :
    (∀ issuedMs clock, issuedMs * 1000 ≤ clock →
      acceptedUntil cfg issuedMs * second ≤ clock + denyTtlSeconds * second) ↔
      cfg.accessTokenTtlSeconds + 30 ≤ denyTtlSeconds := by
  have hsecond : second = 1000 * 1000 := rfl
  simp only [acceptedUntil]
  constructor
  · intro h
    have hzero := h 0 0 (Nat.zero_le _)
    rw [Nat.zero_div, Nat.zero_add, Nat.zero_add] at hzero
    have hle := Nat.le_of_mul_le_mul_right hzero (by decide)
    omega
  · intro h issuedMs clock hclock
    have hissued : issuedMs / 1000 * second ≤ clock := by
      calc issuedMs / 1000 * second = issuedMs / 1000 * 1000 * 1000 := by
            rw [hsecond, Nat.mul_assoc]
        _ ≤ issuedMs * 1000 := Nat.mul_le_mul_right 1000 (Nat.div_mul_le_self issuedMs 1000)
        _ ≤ clock := hclock
    have hlife := Nat.mul_le_mul_right second h
    rw [Nat.add_assoc, Nat.add_mul]
    exact Nat.add_le_add hissued hlife

end AlertTriage.Auth
