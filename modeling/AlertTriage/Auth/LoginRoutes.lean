import AlertTriage.Auth.AccessTokens
import AlertTriage.Bff.RegistryRuns
import AlertTriage.Gateway.Sessions
import AlertTriage.Library.GrowingWorld

/-!
# Login, refresh, logout and ticket

The routes of the BFF that handle identities, the users table that they read, and the
script that seeds it, beside the durable objects of the gateway. Any number of requests
are under way at a time; each goes on by one call, to Redis, to Postgres, to the
password hash, to the token library or to the broker.

The table keeps what `users.ts` and `seed-admin.ts` each create. They do not agree on
its columns: a table made by the script has no `last_login_at`.

§1 the users table, §2 the calls, §3 the routes, §4 runs, §5 the guard as one function,
§6 what a step does.
-/

namespace AlertTriage.Auth

open Library Gateway Bff

/-! ## §1  The users table -/

structure User where
  id : String
  email : String
  tenant_id : String
  role : Option String
deriving DecidableEq, Repr

structure UserRow extends User where
  password_hash : String
deriving DecidableEq, Repr

/-- Who has created the table. -/
inductive Schema where
  | bff
  | seedAdmin
deriving DecidableEq, Repr

structure UsersTable where
  created : Option Schema
  rows : List UserRow
deriving DecidableEq, Repr

namespace UsersTable

/-- `CREATE TABLE IF NOT EXISTS`. -/
def ensure (by_ : Schema) (t : UsersTable) : UsersTable :=
  { t with created := t.created.or (some by_) }

/-- The row of an e-mail; the column is `UNIQUE`. -/
def select (email : String) (t : UsersTable) : Option UserRow :=
  t.rows.find? fun row => row.email = email

/-- The table has the column `last_login_at`, which is written and never read. -/
def hasLastLoginAt (t : UsersTable) : Bool := t.created = some .bff

/-- The script's `UPDATE`. -/
def update (passwordHash tenantId role id : String) (t : UsersTable) : UsersTable :=
  { t with rows := t.rows.map fun row =>
      if row.id = id then
        { row with password_hash := passwordHash, tenant_id := tenantId, role := some role }
      else row }

/-- An `INSERT`, refused by the `UNIQUE` column and the primary key. -/
def insert (row : UserRow) (t : UsersTable) : Bool × UsersTable :=
  if t.rows.any fun r => r.email = row.email || r.id = row.id then (false, t)
  else (true, { t with rows := t.rows ++ [row] })

end UsersTable

/-! ## §2  Calls -/

/-- What a route reads from the claims of an access token. -/
structure AccessTokenClaims where
  sub : String
  tid : String
  role : Option String
  jti : String
deriving DecidableEq, Repr

def roleOf : Json → Option (Option String)
  | .str r => some (some r)
  | .null => some none
  | _ => none

/-- The claims, if they have the types that the cast in `verifyAccessToken` supposes. -/
def AccessTokenClaims.ofParams (claims : Params) : Option AccessTokenClaims := do
  let sub ← (Json.lookup "sub" claims).bind Json.asStr?
  let tid ← (Json.lookup "tid" claims).bind Json.asStr?
  let role ← (Json.lookup "role" claims).bind roleOf
  let jti ← (Json.lookup "jti" claims).bind Json.asStr?
  some ⟨sub, tid, role, jti⟩

inductive RouteCall where
  | session (c : Call)
  | ensureUsersSchema (by_ : Schema)
  | selectUser (email : String)
  /-- `UPDATE users SET last_login_at = NOW()`. -/
  | updateLastLogin (userId : String)
  | selectUserId (email : String)
  | updateUser (passwordHash tenantId role id : String)
  | insertUser (row : UserRow)
  | randomUUID
  /-- `argon2.verify`. -/
  | verify (hash plain : String)
  /-- `argon2.hash`. -/
  | hash (plain : String)
  /-- `getSecretBundle("bff_user")`, from the cache or from Postgres. -/
  | getSecretBundle
  | sign (args : AccessArgs) (jti : String) (iat : ℕ) (secret : String)
  | verifyAccessToken (secrets : SecretPair) (token : String)
  | setTicket (ticket : String) (session : TicketRedemption)
  | publishRevocation (tenantId userId : String)
deriving DecidableEq, Repr

def RouteCall.Reply : RouteCall → Type
  | .session c => c.Reply
  | .ensureUsersSchema _ => Unit
  | .selectUser _ => Option UserRow
  | .updateLastLogin _ => Bool
  | .selectUserId _ => Option String
  | .updateUser _ _ _ _ => Unit
  | .insertUser _ => Bool
  | .randomUUID => String
  | .verify _ _ => Bool
  | .hash _ => String
  | .getSecretBundle => SecretPair
  | .sign _ _ _ _ => String
  | .verifyAccessToken _ _ => Option AccessTokenClaims
  | .setTicket _ _ => Unit
  | .publishRevocation _ _ => Bool

abbrev RouteTask : Type → Type := Async RouteCall RouteCall.Reply

/-- A function of the session store, in a route. -/
def ofSession {α : Type} (x : Task α) : RouteTask α :=
  x.embed RouteCall.session fun _ r => r

/-! ## §3  The routes -/

/-- What differs between deployments, and the functions of libraries. -/
structure Platform where
  config : Config
  gateway : Gateway.Platform
  toLowerCase : String → String
  /-- `z.string().email()`. -/
  isEmail : String → Bool
  argon2Verify : String → String → Bool

inductive RouteResponse where
  | loggedIn (accessToken : String) (expEpoch : ℕ) (user : User) (refreshToken : String)
  | refreshed (accessToken : String) (expEpoch : ℕ) (refreshToken : String)
  /-- A 401 with the reason, and the refresh cookie cleared. -/
  | refreshFailed (reason : Failure)
  | loggedOut
  | ticket (ticket : String) (expiresInSeconds : ℕ)
  /-- An error, and whether the refresh cookie is cleared with it. -/
  | refused (status : ℕ) (error : String) (clearsCookie : Bool)
  /-- The end of the script. -/
  | exited (code : ℕ)
deriving DecidableEq, Repr

structure LoginBody where
  email : String
  password : String
deriving DecidableEq, Repr

structure SeedArgs where
  email : Option String
  password : Option String
  tenantId : Option String
  role : Option String
deriving DecidableEq, Repr

section Routes

variable (p : Platform)

/-- `LoginBody.parse`. -/
def LoginBody.parse (body : Json) : Option LoginBody := do
  let fields ← body.asObj?
  let email ← (Json.lookup "email" fields).bind Json.asStr?
  let password ← (Json.lookup "password" fields).bind Json.asStr?
  if p.isEmail email = true ∧ utf16Length email ≤ 254 ∧ 8 ≤ utf16Length password ∧
      utf16Length password ≤ 256 then
    some ⟨email, password⟩
  else none

def findUserByEmail (email : String) : RouteTask (Option UserRow) := do
  let _ ← Async.await (RouteCall.ensureUsersSchema .bff)
  Async.await (RouteCall.selectUser (p.toLowerCase email))

/-- A hash that cannot be read is a wrong password. -/
def verifyPassword (plain hash : String) : RouteTask Bool := do
  let ok ← (Async.await (RouteCall.verify hash plain)).attempt
  pure (ok.getD false)

def placeholderHash : String :=
  "$argon2id$v=19$m=19456,t=2,p=1$YWFhYWFhYWFhYWFhYWFhYQ$" ++
    "fH9xxcQqQwk4Z8j6eYx0zAOQTXuQXTjE+aDz4xQHfeo"

def recordLogin (userId : String) : RouteTask Unit := do
  let there : Bool ← Async.await (RouteCall.updateLastLogin userId)
  if there then pure () else .raise

/-- `mintAccessToken`, call by call. -/
def mintAccess (args : AccessArgs) : RouteTask (String × ℕ) := do
  let secrets : SecretPair ← Async.await RouteCall.getSecretBundle
  let jti ← ofSession makeId
  let iat ← ofSession epochSeconds
  let token : String ← Async.await (RouteCall.sign args jti iat secrets.current)
  pure (token, iat + p.config.accessTokenTtlSeconds)

/-- The first of the addresses in `x-forwarded-for`. -/
def clientIp (forwardedFor : Option String) : Option String :=
  forwardedFor.map fun s => String.ofList (jsTrim ((s.toList.splitOn ',').headD []))

/-- `POST /api/auth/login`; the body is absent when it is no JSON. -/
def postLogin (body : Option Json) (forwardedFor userAgent : Option String) :
    RouteTask RouteResponse :=
  match body.bind (LoginBody.parse p) with
  | none => pure (.refused 400 "invalid_request" false)
  | some body => do
      let user ← findUserByEmail p body.email
      -- the same amount of work whether or not the user exists
      let passwordOk ← verifyPassword body.password
        ((user.map UserRow.password_hash).getD placeholderHash)
      match user, passwordOk with
      | some user, true => do
          let args : AccessArgs := ⟨user.id, user.tenant_id, user.role⟩
          let minted ← mintAccess p args
          let started ← ofSession (startSession p.config
            ⟨args.userId, args.tenantId, args.role, clientIp forwardedFor, userAgent⟩)
          recordLogin user.id
          pure (.loggedIn minted.1 minted.2 user.toUser started.refreshToken)
      | _, _ => pure (.refused 401 "invalid_credentials" true)

/-- The characters that `trim` and `split("=")` leave of a part of the header. -/
def cookiePair (part : List Char) : List Char × List Char :=
  let trimmed := jsTrim part
  (trimmed.takeWhile (· ≠ '='), (trimmed.dropWhile (· ≠ '=')).drop 1)

def refreshCookie : String := "soc_refresh"

def readRefreshCookieFromHeader (cookieHeader : Option String) : Option String :=
  match cookieHeader with
  | none => none
  | some header =>
      ((header.toList.splitOn ';').map cookiePair).find?
        (fun pair => pair.1 = refreshCookie.toList) |>.map fun pair => String.ofList pair.2

/-- `POST /api/auth/refresh`. -/
def postRefresh (cookieHeader : Option String) : RouteTask RouteResponse :=
  match (readRefreshCookieFromHeader cookieHeader).filter (· ≠ "") with
  | none => pure (.refused 401 "missing_refresh" true)
  | some refreshToken => do
      let outcome ← ofSession (rotateRefresh p.config refreshToken)
      match outcome with
      | .failed reason => pure (.refreshFailed reason)
      | .ok session newRefreshToken => do
          let minted ← mintAccess p ⟨session.user_id, session.tenant_id, session.role⟩
          pure (.refreshed minted.1 minted.2 newRefreshToken)

/-- `verifyAccessToken`: without the secrets, or with a token that none of them has
signed, it throws. -/
def verifyAccess (token : String) : RouteTask AccessTokenClaims := do
  let secrets : SecretPair ← Async.await RouteCall.getSecretBundle
  let claims : Option AccessTokenClaims ← Async.await (RouteCall.verifyAccessToken secrets token)
  match claims with
  | some claims => pure claims
  | none => .raise

/-- `requireAccessToken`, call by call. -/
def requireAccess (authorization : String) : RouteTask (Except String AccessTokenClaims) :=
  if !isBearer authorization.toList then pure (.error "missing_bearer")
  else if bearerToken authorization = "" then pure (.error "empty_bearer")
  else do
    let claims ← (verifyAccess (bearerToken authorization)).attempt
    match claims with
    | none => pure (.error "invalid_token")
    | some claims => do
        let denied : Option Stored ← ofSession (redis.get (revokedJtiKey claims.jti))
        if denied = some (.text "1") then pure (.error "revoked_token")
        else pure (.ok claims)

/-- `POST /api/ws/ticket`. -/
def postTicket (authorization : String) : RouteTask RouteResponse := do
  let claims ← requireAccess authorization
  match claims with
  | .error e => pure (.refused 401 e false)
  | .ok claims => do
      let ticket ← ofSession makeId
      let _ ← Async.await (RouteCall.setTicket ticket ⟨claims.sub, claims.tid, claims.role⟩)
      pure (.ticket ticket p.gateway.wsTicketTtlSeconds)

/-- The claims of the access token, if there is one and it is taken. -/
def logoutClaims (authorization : String) : RouteTask (Option AccessTokenClaims) :=
  if bearerToken authorization = "" then pure none
  else (verifyAccess (bearerToken authorization)).attempt

/-- `denyJti`, for a token with an id. -/
def denyToken (claims : AccessTokenClaims) : RouteTask Unit :=
  if claims.jti = "" then pure ()
  else ofSession (redis.setEx (revokedJtiKey claims.jti) (.text "1") denyTtlSeconds)

/-- `publishRevocation`, which reports a failure and does not throw. -/
def announceLogout (claims : AccessTokenClaims) : RouteTask Unit :=
  if claims.tid = "" then pure ()
  else do
    let _ ← (Async.await (RouteCall.publishRevocation claims.tid claims.sub)).attempt
    pure ()

/-- `POST /api/auth/logout`. -/
def postLogout (authorization : String) : RouteTask RouteResponse := do
  let claims ← logoutClaims authorization
  match claims.filter fun claims => claims.sub ≠ "" with
  | none => pure .loggedOut
  | some claims => do
      let _ ← ofSession (endSession claims.sub)
      denyToken claims
      announceLogout claims
      pure .loggedOut

/-- The script `seed-admin`, on its environment variables. -/
def seedAdmin (args : SeedArgs) : RouteTask RouteResponse :=
  match args.email.filter (· ≠ ""), args.password.filter (· ≠ "") with
  | some email, some password =>
      if utf16Length password < 8 then pure (.exited 1)
      else do
        let email := p.toLowerCase email
        let tenantId := args.tenantId.getD "default"
        let role := args.role.getD "admin"
        let _ ← Async.await (RouteCall.ensureUsersSchema .seedAdmin)
        let passwordHash : String ← Async.await (RouteCall.hash password)
        let existing : Option String ← Async.await (RouteCall.selectUserId email)
        match existing with
        | some id => do
            let _ ← Async.await (RouteCall.updateUser passwordHash tenantId role id)
            pure (.exited 0)
        | none => do
            let id : String ← Async.await RouteCall.randomUUID
            let inserted : Bool ← Async.await (RouteCall.insertUser
              ⟨⟨id, email, tenantId, some role⟩, passwordHash⟩)
            pure (.exited (if inserted then 0 else 1))
  | _, _ => pure (.exited 1)

end Routes

/-! ## §4  Runs -/

inductive Request where
  | login (body : Option Json) (forwardedFor userAgent : Option String)
  | refresh (cookieHeader : Option String)
  | logout (authorization : String)
  | ticket (authorization : String)
  | seedAdmin (args : SeedArgs)

def Request.program (p : Platform) : Request → RouteTask RouteResponse
  | .login body forwardedFor userAgent => postLogin p body forwardedFor userAgent
  | .refresh cookieHeader => postRefresh p cookieHeader
  | .logout authorization => postLogout authorization
  | .ticket authorization => postTicket p authorization
  | .seedAdmin args => Auth.seedAdmin p args

/-- What `sign` was asked to sign. -/
structure Signed where
  args : AccessArgs
  jti : String
  iat : ℕ
  secret : String
deriving DecidableEq, Repr

/-- What has happened so far, as far as identities rest on it. -/
structure Facts where
  requests : List Request
  /-- The rows that the users table has answered with, by the e-mail asked for. -/
  found : List (String × UserRow)
  signed : List Signed

structure Backend where
  redis : Redis
  users : UsersTable
  gateway : Sessions
  facts : Facts

/-- What the environment decides about a call. -/
structure RouteEnvironment where
  session : Environment
  secrets : SecretPair
  text : String
  published : Bool
deriving DecidableEq, Repr

section Runs

variable {mac : Mac} (p : Platform) (jose : Jose mac)

/-- The token that is signed. -/
def Signed.token (s : Signed) : String :=
  jose.sign (accessClaims p.config s.args s.jti s.iat) s.secret

def answerRoute (env : RouteEnvironment) :
    Async.Handler RouteCall RouteCall.Reply Backend
  | .session c, w => ((answer env.session c w.redis).1,
      { w with redis := (answer env.session c w.redis).2 })
  | .ensureUsersSchema by_, w => ((), { w with users := w.users.ensure by_ })
  | .selectUser email, w => (w.users.select email,
      { w with facts := { w.facts with
        found := w.facts.found ++ (w.users.select email).toList.map fun row => (email, row) } })
  | .updateLastLogin _, w => (w.users.hasLastLoginAt, w)
  | .selectUserId email, w => ((w.users.select email).map fun row => row.id, w)
  | .updateUser passwordHash tenantId role id, w =>
      ((), { w with users := w.users.update passwordHash tenantId role id })
  | .insertUser row, w => ((w.users.insert row).1,
      { w with users := (w.users.insert row).2 })
  | .randomUUID, w => (env.text, w)
  | .verify hash plain, w => (p.argon2Verify hash plain, w)
  | .hash _, w => (env.text, w)
  | .getSecretBundle, w => (env.secrets, w)
  | .sign args jti iat secret, w => (Signed.token p jose ⟨args, jti, iat, secret⟩,
      { w with facts := { w.facts with signed := w.facts.signed ++ [⟨args, jti, iat, secret⟩] } })
  | .verifyAccessToken secrets token, w =>
      ((verifyAccessToken jose secrets token w.redis.nowMs).bind AccessTokenClaims.ofParams, w)
  | .setTicket ticket session, w => ((), { w with
      gateway :=
        (w.gateway.step p.gateway (.issueWsTicket ticket session)).getD w.gateway })
  | .publishRevocation _ _, w => (env.published, w)

/-- The BFF with its requests under way, and the gateway. -/
structure Site where
  backend : Backend
  /-- What `newId` has given so far. -/
  ids : List String
  tasks : List (Request × RouteTask RouteResponse)

def Site.start : Site :=
  ⟨⟨⟨0, ∅⟩, ⟨none, []⟩, Sessions.start, ⟨[], [], []⟩⟩, [], []⟩

inductive SiteStep where
  | begin (request : Request)
  | advance (i : ℕ) (o : Outcome) (env : RouteEnvironment)
  | gateway (l : Step)
  | pass (d : ℕ)

def idsOfRoute (env : RouteEnvironment) (x : RouteTask RouteResponse) : List String :=
  match x.awaited with
  | some (.session .newId) => [newId env.session.bytes]
  | _ => []

/-- A request goes on by one call. -/
def Site.advance (s : Site) (i : ℕ) (o : Outcome) (env : RouteEnvironment)
    (request : Request) (x : RouteTask RouteResponse) : Site :=
  let next := x.resume (answerRoute p jose env) o s.backend
  { backend := next.2
    ids := s.ids ++ idsOfRoute env x
    tasks := s.tasks.set i (request, next.1) }

/-- The gateway moves by itself, except that tickets come from the BFF and that one clock
runs for all. -/
def movesAlone : Step → Bool
  | .issueWsTicket _ _ => false
  | .pass _ => false
  | _ => true

def Site.step (s : Site) : SiteStep → Option Site
  | .begin request => some
      { s with
        backend := { s.backend with facts := { s.backend.facts with
          requests := s.backend.facts.requests ++ [request] } }
        tasks := s.tasks ++ [(request, request.program p)] }
  | .advance i o env =>
      match s.tasks[i]? with
      | some (request, x) =>
          -- an id is new whenever one is made
          if (idsOfRoute env x).all fun id => !s.ids.contains id then
            some (s.advance p jose i o env request x)
          else none
      | none => none
  | .gateway l =>
      if movesAlone l then
        (s.backend.gateway.step p.gateway l).map fun gateway =>
          { s with backend := { s.backend with gateway := gateway } }
      else none
  | .pass d => some
      { s with backend := { s.backend with
        redis := s.backend.redis.pass d
        gateway := { s.backend.gateway with clock := s.backend.gateway.clock + d } } }

def siteSystem : System Site SiteStep where
  start := (· = Site.start)
  step := Site.step p jose

/-! ## §5  The guard as one function -/

theorem jti_of_ofParams {params : Params} {claims : AccessTokenClaims}
    (h : AccessTokenClaims.ofParams params = some claims) :
    Json.lookup "jti" params = some (.str claims.jti) := by
  simp only [AccessTokenClaims.ofParams, Option.bind_eq_bind, Option.bind_eq_some_iff] at h
  obtain ⟨_, -, _, -, _, -, jti, ⟨j, hj, hjti⟩, hclaims⟩ := h
  obtain rfl := Option.some.inj hclaims
  cases j with
  | str jti' =>
      obtain rfl := Option.some.inj hjti
      exact hj
  | _ => cases hjti

theorem verifyAccess_run (env : RouteEnvironment) (w : Backend)
    (token : String) :
    (verifyAccess token).run (answerRoute p jose env) w =
      ((verifyAccessToken jose env.secrets token w.redis.nowMs).bind
        AccessTokenClaims.ofParams, w) := by
  have hrun : (verifyAccess token).run (answerRoute p jose env) w =
      (match (verifyAccessToken jose env.secrets token w.redis.nowMs).bind
          AccessTokenClaims.ofParams with
        | some claims => pure claims
        | none => Async.raise : RouteTask AccessTokenClaims).run (answerRoute p jose env) w := rfl
  rw [hrun]
  cases (verifyAccessToken jose env.secrets token w.redis.nowMs).bind
    AccessTokenClaims.ofParams <;> rfl

/-- **The guard without interruption** is the guard as one function, for tokens whose claims
have the types of the cast. -/
theorem requireAccess_run (js : TemplateText)
    (env : RouteEnvironment) (w : Backend) (authorization : String)
    (hcast : ∀ params, verifyAccessToken jose env.secrets (bearerToken authorization)
      w.redis.nowMs = some params → (AccessTokenClaims.ofParams params).isSome) :
    ((requireAccess authorization).run (answerRoute p jose env) w).1 =
      match requireAccessToken jose js env.secrets authorization w.redis with
      | .error e => some (.error e)
      | .ok params => (AccessTokenClaims.ofParams params).map .ok := by
  unfold requireAccess requireAccessToken
  split
  · rfl
  · dsimp only
    split
    · rfl
    · rw [Async.run_bind, Async.run_attempt, verifyAccess_run]
      cases hverify : verifyAccessToken jose env.secrets (bearerToken authorization)
          w.redis.nowMs with
      | none => rfl
      | some params =>
          obtain ⟨claims, hclaims⟩ := Option.isSome_iff_exists.mp (hcast params hverify)
          have hjti := jti_of_ofParams hclaims
          have hrun : ∀ (x y : RouteTask (Except String AccessTokenClaims)),
              ((ofSession (redis.get (revokedJtiKey claims.jti)) >>= fun denied =>
                if denied = some (.text "1") then x else y).run (answerRoute p jose env) w) =
              (if w.redis.get (revokedJtiKey claims.jti) = some (.text "1") then x else y).run
                (answerRoute p jose env) w := fun _ _ => rfl
          simp only [Option.bind_some, hclaims, isJtiDenied, hjti, Option.getD_some, js.text_str]
          rw [hrun]
          by_cases hdenied : w.redis.get (revokedJtiKey claims.jti) = some (.text "1")
          · rw [if_pos hdenied, if_pos (decide_eq_true hdenied)]
            rfl
          · have hfree : ¬ decide (w.redis.get (revokedJtiKey claims.jti) =
                some (.text "1")) = true := by simpa using hdenied
            rw [if_neg hdenied, if_neg hfree]
            dsimp only
            rw [hclaims]
            rfl

/-! ## §6  What a step does -/

variable {p jose}

theorem site_cases {s s' : Site} {l : SiteStep} (h : s.step p jose l = some s') :
    (∃ request, l = .begin request ∧
      s' = { s with
        backend := { s.backend with facts := { s.backend.facts with
          requests := s.backend.facts.requests ++ [request] } }
        tasks := s.tasks ++ [(request, request.program p)] }) ∨
    (∃ i o env request x, l = .advance i o env ∧ s.tasks[i]? = some (request, x) ∧
      (∀ id ∈ idsOfRoute env x, id ∉ s.ids) ∧ s' = s.advance p jose i o env request x) ∨
    (∃ l' gateway, l = .gateway l' ∧ movesAlone l' = true ∧
      s.backend.gateway.step p.gateway l' = some gateway ∧
      s' = { s with backend := { s.backend with gateway := gateway } }) ∨
    ∃ d, l = .pass d ∧ s' =
      { s with backend := { s.backend with
        redis := s.backend.redis.pass d
        gateway := { s.backend.gateway with clock := s.backend.gateway.clock + d } } } := by
  cases l with
  | begin request => exact .inl ⟨request, rfl, (Option.some.inj h).symm⟩
  | pass d => exact .inr (.inr (.inr ⟨d, rfl, (Option.some.inj h).symm⟩))
  | advance i o env =>
      simp only [Site.step] at h
      split at h
      · rename_i request x hi
        split at h
        · rename_i hnew
          refine .inr (.inl ⟨i, o, env, request, x, rfl, hi, ?_, (Option.some.inj h).symm⟩)
          simpa using hnew
        · cases h
      · cases h
  | gateway l' =>
      simp only [Site.step] at h
      split at h
      · rename_i halone
        obtain ⟨gateway, hstep, rfl⟩ := Option.map_eq_some_iff.mp h
        exact .inr (.inr (.inl ⟨l', gateway, rfl, halone, hstep, rfl⟩))
      · cases h

end Runs

end AlertTriage.Auth
