import AlertTriage.Auth.LoginRoutes
import AlertTriage.Gateway.PostedIdentities

/-!
# Where identities come from

A user is known by a password once, at the login. From there the identity goes through the
session record in Redis, the access token, the ticket of a websocket, the session of a
durable object and what the object posts back. With access tokens that nobody can forge,
every identity at any of these places is that of a row of the users table, as it was
when a login asked for its e-mail with a password that fits its hash
(`identities_of_logins`). No refresh, no logout, no seeding and no interleaving adds
another.

§1 identities, §2 the session store, §3 the routes, §4 steps, §5 the users table, §6 runs.
-/

namespace AlertTriage.Auth

open Library Gateway

/-! ## §1  Identities -/

instance : Preorder Facts where
  le f g := f.requests ⊆ g.requests ∧ f.found ⊆ g.found ∧ f.signed ⊆ g.signed
  le_refl _ := ⟨List.Subset.refl _, List.Subset.refl _, List.Subset.refl _⟩
  le_trans _ _ _ h k :=
    ⟨List.Subset.trans h.1 k.1, List.Subset.trans h.2.1 k.2.1, List.Subset.trans h.2.2 k.2.2⟩

def UserRow.identity (row : UserRow) : AccessArgs := ⟨row.id, row.tenant_id, row.role⟩

def SessionRecord.identity (r : SessionRecord) : AccessArgs :=
  ⟨r.user_id, r.tenant_id, r.role⟩

def AccessTokenClaims.identity (c : AccessTokenClaims) : AccessArgs := ⟨c.sub, c.tid, c.role⟩

/-- The session in a ticket. -/
def ticketIdentity (t : TicketRedemption) : AccessArgs := ⟨t.user_id, t.tenant_id, t.role⟩

/-- A login has asked for the e-mail of a row, with a password that fits its hash. -/
def LoggedIn (p : Platform) (f : Facts) (args : AccessArgs) : Prop :=
  ∃ body forwardedFor userAgent login row,
    Request.login (some body) forwardedFor userAgent ∈ f.requests ∧
      LoginBody.parse p body = some login ∧
      (p.toLowerCase login.email, row) ∈ f.found ∧
      p.argon2Verify row.password_hash login.password = true ∧ args = row.identity

variable {p : Platform} {f g : Facts}

theorem LoggedIn.mono {args : AccessArgs} (h : LoggedIn p f args) (hfg : f ≤ g) :
    LoggedIn p g args := by
  obtain ⟨body, fwd, ua, login, row, hrequest, hparse, hfound, hverify, rfl⟩ := h
  exact ⟨body, fwd, ua, login, row, hfg.1 hrequest, hparse, hfg.2.1 hfound, hverify, rfl⟩

/-- A record lies under its own user, who has logged in. -/
def RecordOf (p : Platform) (f : Facts) (key : String) (r : SessionRecord) : Prop :=
  key = sessionKey r.user_id ∧ LoggedIn p f r.identity

theorem RecordOf.mono {key : String} {r : SessionRecord} (h : RecordOf p f key r)
    (hfg : f ≤ g) : RecordOf p g key r :=
  ⟨h.1, h.2.mono hfg⟩

/-! ## §2  The session store -/

def TrueSession (p : Platform) (f : Facts) : (c : Call) → c.Reply → Prop
  | .get key, (value : Option Stored) =>
      ∀ r, value = some (.record r) → RecordOf p f key r
  | _, _ => True

def JustifiedSession (p : Platform) (f : Facts) : Call → Prop
  | .set key value => ∃ r, value = .record r ∧ RecordOf p f key r
  | .setEx _ value _ => ∃ s, value = .text s
  | _ => True

/-- What the session store does for some identity, from `f` on. -/
abbrev SessionAlways {α : Type} (p : Platform) (Q : Facts → α → Prop) (x : Task α)
    (f : Facts) : Prop :=
  x.Always (TrueSession p) (JustifiedSession p) Q f

section Store

variable {cfg : Config}

theorem burnFamily_always (familyId : String) :
    SessionAlways p (fun _ _ => True) (burnFamily familyId) f := by
  have hbatches : ∀ pattern n g,
      SessionAlways p (fun _ _ => True) (burnBatches pattern n) g := by
    intro pattern n
    induction n with
    | zero => exact fun _ => Async.Always.pure fun _ _ => trivial
    | succ n ih =>
        intro g
        refine Async.Always.await_bind (fun _ _ => trivial) fun k _ keys _ => ?_
        split
        · exact ih k
        · exact Async.Always.await_bind (fun _ _ => trivial) fun _ _ _ _ => ih _
  refine Async.Always.await_bind (fun _ _ => trivial) fun _ _ _ _ => ?_
  exact Async.Always.await_bind (fun _ _ => trivial) fun _ _ n _ => hbatches _ n _

theorem startSession_always {args : Login}
    (h : LoggedIn p f ⟨args.userId, args.tenantId, args.role⟩) :
    SessionAlways p (fun _ _ => True) (startSession cfg args) f := by
  refine Async.Always.await_bind (fun _ _ => trivial) fun g₁ h₁ familyId _ => ?_
  refine Async.Always.await_bind (fun _ _ => trivial) fun g₂ h₂ refreshJti _ => ?_
  refine Async.Always.await_bind (fun _ _ => trivial) fun g₃ h₃ now _ => ?_
  have hlate : LoggedIn p g₃ ⟨args.userId, args.tenantId, args.role⟩ :=
    h.mono ((h₁.trans h₂).trans h₃)
  refine Async.Always.await_bind (fun k hk => ⟨_, rfl, rfl, hlate.mono hk⟩) fun _ _ _ _ => ?_
  refine Async.Always.await_bind (fun _ _ => ⟨_, rfl⟩) fun _ _ _ _ => ?_
  refine Async.Always.await_bind (fun _ _ => ⟨_, rfl⟩) fun _ _ _ _ => ?_
  exact Async.Always.pure fun _ _ => trivial

/-- A rotation gives the record of its user, whose identity it leaves alone. -/
def RotatesFor (p : Platform) (f : Facts) (r : RefreshResult) : Prop :=
  ∀ session token, r = .ok session token → LoggedIn p f session.identity

theorem afterConsume_always (familyId oldJti : String) :
    SessionAlways p (RotatesFor p) (afterConsume cfg familyId oldJti) f := by
  have hfailed : ∀ reason g,
      SessionAlways p (RotatesFor p) (pure (.failed reason)) g := by
    intro reason g
    exact Async.Always.pure fun _ _ _ _ h => by cases h
  have hburn : ∀ g, SessionAlways p (RotatesFor p)
      (do burnFamily familyId; pure (.failed .reused)) g := fun g =>
    (burnFamily_always familyId).bind fun g' _ _ _ => hfailed _ g'
  refine Async.Always.bind (Q := fun _ _ => True) ?_ fun g hg userId _ => ?_
  · refine Async.Always.await_bind (fun _ _ => trivial) fun _ _ value _ => ?_
    rcases value with _ | _ | _ <;> exact Async.Always.pure fun _ _ => trivial
  cases userId with
  | none => exact hfailed _ g
  | some userId =>
      dsimp only
      split
      · exact hfailed _ g
      · refine Async.Always.await_bind (fun _ _ => trivial) fun g₁ h₁ value hvalue => ?_
        match value, hvalue with
        | none, _ => exact hfailed _ g₁
        | some (.text _), _ => exact hburn g₁
        | some (.record session), hvalue =>
            dsimp only
            split
            · exact hburn g₁
            · obtain ⟨hkey, hlogged⟩ := hvalue session rfl
              refine Async.Always.await_bind (fun _ _ => trivial) fun g₂ h₂ newJti _ => ?_
              refine Async.Always.await_bind (fun _ _ => trivial) fun g₃ h₃ now _ => ?_
              have hlate : LoggedIn p g₃ session.identity := hlogged.mono (h₂.trans h₃)
              refine Async.Always.await_bind
                (fun k hk => ⟨_, rfl, hkey, hlate.mono hk⟩) fun g₄ h₄ _ _ => ?_
              refine Async.Always.await_bind (fun _ _ => ⟨_, rfl⟩) fun g₅ h₅ _ _ => ?_
              refine Async.Always.pure fun k hk session' token h => ?_
              obtain ⟨rfl, -⟩ := RefreshResult.ok.inj h
              exact hlate.mono ((h₄.trans h₅).trans hk)

theorem rotateRefresh_always (token : String) :
    SessionAlways p (RotatesFor p) (rotateRefresh cfg token) f := by
  have hfailed : ∀ reason g,
      SessionAlways p (RotatesFor p) (pure (.failed reason)) g := by
    intro reason g
    exact Async.Always.pure fun _ _ _ _ h => by cases h
  unfold rotateRefresh
  cases splitToken token with
  | none => exact hfailed _ f
  | some pair =>
      refine Async.Always.await_bind (fun _ _ => trivial) fun g _ consumed _ => ?_
      split
      · exact (burnFamily_always _).bind fun g' _ _ _ => hfailed _ g'
      · exact afterConsume_always _ _

theorem endSession_always (userId : String) :
    SessionAlways p (fun _ _ => True) (endSession userId) f := by
  refine Async.Always.await_bind (fun _ _ => trivial) fun g _ value _ => ?_
  match value with
  | none => exact Async.Always.pure fun _ _ => trivial
  | some (.text _) => trivial
  | some (.record session) =>
      have hdel : ∀ g, SessionAlways p (fun _ _ => True) (redis.del [sessionKey userId]) g :=
        fun g => Async.Always.await (fun _ _ => trivial) fun _ _ _ _ _ _ => trivial
      refine (hdel g).attempt.bind fun g₁ _ deleted _ => ?_
      refine (burnFamily_always session.family_id).attempt.bind fun g₂ _ burnt _ => ?_
      rcases deleted with _ | _ <;> rcases burnt with _ | _
      · trivial
      · trivial
      · trivial
      · exact Async.Always.pure fun _ _ => trivial

end Store

/-! ## §3  The routes -/

def TrueReply (p : Platform) (f : Facts) : (c : RouteCall) → c.Reply → Prop
  | .session c, r => TrueSession p f c r
  | .selectUser email, (found : Option UserRow) =>
      ∀ row, found = some row → (email, row) ∈ f.found
  | .verify hash plain, (ok : Bool) => ok = p.argon2Verify hash plain
  | .verifyAccessToken _ _, (claims : Option AccessTokenClaims) =>
      ∀ c, claims = some c → LoggedIn p f c.identity
  | _, _ => True

def Justified (p : Platform) (f : Facts) : RouteCall → Prop
  | .session c => JustifiedSession p f c
  | .sign args _ _ _ => LoggedIn p f args
  | .setTicket _ session => LoggedIn p f (ticketIdentity session)
  | _ => True

abbrev RouteAlways {α : Type} (p : Platform) (Q : Facts → α → Prop) (x : RouteTask α)
    (f : Facts) : Prop :=
  x.Always (TrueReply p) (Justified p) Q f

theorem ofSession_always {α : Type} {Q : Facts → α → Prop} {x : Task α}
    (h : SessionAlways p Q x f) : RouteAlways p Q (ofSession x) f :=
  h.embed (fun _ _ _ h => h) fun _ _ h => h

theorem mintAccess_always {args : AccessArgs} (h : LoggedIn p f args) :
    RouteAlways p (fun _ _ => True) (mintAccess p args) f := by
  have hid : ∀ g, RouteAlways p (fun _ _ => True) (ofSession makeId) g := fun g =>
    ofSession_always (Async.Always.await (fun _ _ => trivial) fun _ _ _ _ _ _ => trivial)
  have hnow : ∀ g, RouteAlways p (fun _ _ => True) (ofSession epochSeconds) g := fun g =>
    ofSession_always (Async.Always.await (fun _ _ => trivial) fun _ _ _ _ _ _ => trivial)
  refine Async.Always.await_bind (fun _ _ => trivial) fun g₁ h₁ secrets _ => ?_
  refine (hid g₁).bind fun g₂ h₂ jti _ => ?_
  refine (hnow g₂).bind fun g₃ h₃ iat _ => ?_
  have hlate : LoggedIn p g₃ args := h.mono ((h₁.trans h₂).trans h₃)
  refine Async.Always.await_bind (fun k hk => hlate.mono hk) fun _ _ _ _ => ?_
  exact Async.Always.pure fun _ _ => trivial

theorem findUserByEmail_always (email : String) :
    RouteAlways p (fun g found => ∀ row, found = some row →
      (p.toLowerCase email, row) ∈ g.found) (findUserByEmail p email) f := by
  refine Async.Always.await_bind (fun _ _ => trivial) fun _ _ _ _ => ?_
  exact Async.Always.await (fun _ _ => trivial) fun _ _ found hfound k hk row hrow =>
    hk.2.1 (hfound row hrow)

theorem verifyPassword_always (plain hash : String) :
    RouteAlways p (fun _ ok => ok = true → p.argon2Verify hash plain = true)
      (verifyPassword plain hash) f := by
  have hverify : ∀ g, RouteAlways p (fun _ ok => ok = p.argon2Verify hash plain)
      (Async.await (RouteCall.verify hash plain)) g := fun _ =>
    Async.Always.await (fun _ _ => trivial) fun _ _ _ h _ _ => h
  refine (hverify f).attempt.bind fun g _ ok hok => ?_
  refine Async.Always.pure fun k _ htrue => ?_
  cases ok with
  | none => cases htrue
  | some ok =>
      obtain rfl := hok ok rfl
      exact htrue

theorem recordLogin_always (userId : String) :
    RouteAlways p (fun _ _ => True) (recordLogin userId) f := by
  refine Async.Always.await_bind (fun _ _ => trivial) fun _ _ there _ => ?_
  split
  · exact Async.Always.pure fun _ _ => trivial
  · trivial

theorem postLogin_always {body : Option Json} {forwardedFor userAgent : Option String}
    (h : Request.login body forwardedFor userAgent ∈ f.requests) :
    RouteAlways p (fun _ _ => True) (postLogin p body forwardedFor userAgent) f := by
  have hrefused : ∀ (response : RouteResponse) g,
      RouteAlways p (fun _ _ => True) (pure response) g :=
    fun _ _ => Async.Always.pure fun _ _ => trivial
  unfold postLogin
  cases hparse : body.bind (LoginBody.parse p) with
  | none => exact hrefused _ f
  | some login =>
      obtain ⟨body, rfl, hlogin⟩ := Option.bind_eq_some_iff.mp hparse
      refine (findUserByEmail_always login.email).bind fun g₁ h₁ user huser => ?_
      refine (verifyPassword_always _ _).bind fun g₂ h₂ ok hok => ?_
      match user, ok, huser, hok with
      | none, _, _, _ => exact hrefused _ g₂
      | some _, false, _, _ => exact hrefused _ g₂
      | some user, true, huser, hok =>
          -- the one place at which an identity comes into being
          have hlogged : LoggedIn p g₂ user.identity :=
            ⟨body, forwardedFor, userAgent, login, user, (h₁.trans h₂).1 h, hlogin,
              h₂.2.1 (huser user rfl), hok rfl, rfl⟩
          refine (mintAccess_always hlogged).bind fun g₃ h₃ minted _ => ?_
          refine (ofSession_always (startSession_always (hlogged.mono h₃))).bind
            fun g₄ h₄ started _ => ?_
          exact (recordLogin_always _).bind fun g₅ _ _ _ => hrefused _ g₅

theorem postRefresh_always (cookieHeader : Option String) :
    RouteAlways p (fun _ _ => True) (postRefresh p cookieHeader) f := by
  unfold postRefresh
  split
  · exact Async.Always.pure fun _ _ => trivial
  · refine (ofSession_always (rotateRefresh_always _)).bind fun g _ outcome houtcome => ?_
    match outcome, houtcome with
    | .failed reason, _ => exact Async.Always.pure fun _ _ => trivial
    | .ok session token, houtcome =>
        refine (mintAccess_always (houtcome session token rfl)).bind fun k _ minted _ => ?_
        exact Async.Always.pure fun _ _ => trivial

theorem verifyAccess_always (token : String) :
    RouteAlways p (fun g claims => LoggedIn p g claims.identity) (verifyAccess token) f := by
  refine Async.Always.await_bind (fun _ _ => trivial) fun _ _ secrets _ => ?_
  refine Async.Always.await_bind (fun _ _ => trivial) fun g _ claims hclaims => ?_
  match claims, hclaims with
  | none, _ => trivial
  | some claims, hclaims =>
      exact Async.Always.pure fun k hk => (hclaims claims rfl).mono hk

/-- Whoever the guard lets in has logged in. -/
def AdmitsFor (p : Platform) (f : Facts) (r : Except String AccessTokenClaims) : Prop :=
  ∀ claims, r = .ok claims → LoggedIn p f claims.identity

theorem requireAccess_always (authorization : String) :
    RouteAlways p (AdmitsFor p) (requireAccess authorization) f := by
  have herror : ∀ e g, RouteAlways p (AdmitsFor p) (pure (.error e)) g :=
    fun _ _ => Async.Always.pure fun _ _ _ h => by cases h
  unfold requireAccess
  split
  · exact herror _ f
  · split
    · exact herror _ f
    · refine (verifyAccess_always _).attempt.bind fun g _ claims hclaims => ?_
      match claims, hclaims with
      | none, _ => exact herror _ g
      | some claims, hclaims =>
          have hget : RouteAlways p (fun _ _ => True)
              (ofSession (redis.get (revokedJtiKey claims.jti))) g :=
            ofSession_always (Async.Always.await (fun _ _ => trivial) fun _ _ _ _ _ _ => trivial)
          refine hget.bind fun k hk denied _ => ?_
          split
          · exact herror _ k
          · refine Async.Always.pure fun k' hk' claims' h => ?_
            obtain rfl := Except.ok.inj h
            exact (hclaims claims rfl).mono (hk.trans hk')

theorem postTicket_always (authorization : String) :
    RouteAlways p (fun _ _ => True) (postTicket p authorization) f := by
  refine (requireAccess_always authorization).bind fun g _ claims hclaims => ?_
  match claims, hclaims with
  | .error e, _ => exact Async.Always.pure fun _ _ => trivial
  | .ok claims, hclaims =>
      have hid : RouteAlways p (fun _ _ => True) (ofSession makeId) g :=
        ofSession_always (Async.Always.await (fun _ _ => trivial) fun _ _ _ _ _ _ => trivial)
      refine hid.bind fun g₁ h₁ ticket _ => ?_
      refine Async.Always.await_bind
        (fun k hk => (hclaims claims rfl).mono (h₁.trans hk)) fun _ _ _ _ => ?_
      exact Async.Always.pure fun _ _ => trivial

theorem postLogout_always (authorization : String) :
    RouteAlways p (fun _ _ => True) (postLogout authorization) f := by
  have hdone : ∀ g, RouteAlways p (fun _ _ => True) (pure RouteResponse.loggedOut) g :=
    fun _ => Async.Always.pure fun _ _ => trivial
  have hclaims : RouteAlways p (fun _ _ => True) (logoutClaims authorization) f := by
    unfold logoutClaims
    split
    · exact Async.Always.pure fun _ _ => trivial
    · exact (verifyAccess_always _).attempt.imp fun _ _ _ => trivial
  have hdeny : ∀ claims g, RouteAlways p (fun _ _ => True) (denyToken claims) g := by
    intro claims g
    unfold denyToken
    split
    · exact Async.Always.pure fun _ _ => trivial
    · exact ofSession_always
        (Async.Always.await (fun _ _ => ⟨_, rfl⟩) fun _ _ _ _ _ _ => trivial)
  have hannounce : ∀ claims g, RouteAlways p (fun _ _ => True) (announceLogout claims) g := by
    intro claims g
    have hpublish : RouteAlways p (fun _ _ => True)
        (Async.await (RouteCall.publishRevocation claims.tid claims.sub)) g :=
      Async.Always.await (fun _ _ => trivial) fun _ _ _ _ _ _ => trivial
    unfold announceLogout
    split
    · exact Async.Always.pure fun _ _ => trivial
    · exact hpublish.attempt.bind fun _ _ _ _ => Async.Always.pure fun _ _ => trivial
  refine hclaims.bind fun g _ claims _ => ?_
  split
  · exact hdone g
  · rename_i claims _
    refine (ofSession_always (endSession_always claims.sub)).bind fun g₁ _ _ _ => ?_
    refine (hdeny claims g₁).bind fun g₂ _ _ _ => ?_
    exact (hannounce claims g₂).bind fun g₃ _ _ _ => hdone g₃

theorem seedAdmin_always (args : SeedArgs) :
    RouteAlways p (fun _ _ => True) (seedAdmin p args) f := by
  have hexit : ∀ code g,
      RouteAlways p (fun _ _ => True) (pure (RouteResponse.exited code)) g :=
    fun _ _ => Async.Always.pure fun _ _ => trivial
  unfold seedAdmin
  split
  · split
    · exact hexit _ f
    · refine Async.Always.await_bind (fun _ _ => trivial) fun _ _ _ _ => ?_
      refine Async.Always.await_bind (fun _ _ => trivial) fun _ _ _ _ => ?_
      refine Async.Always.await_bind (fun _ _ => trivial) fun g _ existing _ => ?_
      match existing with
      | some id =>
          exact Async.Always.await_bind (fun _ _ => trivial) fun k _ _ _ => hexit _ k
      | none =>
          refine Async.Always.await_bind (fun _ _ => trivial) fun _ _ _ _ => ?_
          exact Async.Always.await_bind (fun _ _ => trivial) fun k _ _ _ => hexit _ k
  · exact hexit _ f

/-- **Every route, for its own request**: it writes, signs and hands out no identity but
one that has logged in. -/
theorem program_always {request : Request} (h : request ∈ f.requests) :
    RouteAlways p (fun _ _ => True) (request.program p) f := by
  cases request with
  | login body forwardedFor userAgent => exact postLogin_always h
  | refresh cookieHeader => exact postRefresh_always cookieHeader
  | logout authorization => exact postLogout_always authorization
  | ticket authorization => exact postTicket_always authorization
  | seedAdmin args => exact seedAdmin_always args

/-! ## §4  Steps -/

section Steps

variable {mac : Mac} {jose : Jose mac}

/-- Nobody forges an access token: what a route verifies was signed by the BFF. -/
def Unforged (p : Platform) (jose : Jose mac) (s : Site) : SiteStep → Prop
  | .advance i _ _ => ∀ secrets token claims,
      (s.tasks[i]?.bind fun t => t.2.awaited) = some (.verifyAccessToken secrets token) →
      verifyAccessToken jose secrets token s.backend.redis.nowMs = some claims →
      ∃ signed ∈ s.backend.facts.signed, token = signed.token p jose
  | _ => True

/-- A token gives back the claims that were signed, whatever secret it passes under. -/
theorem verifyAccessToken_signed (signed : Signed) {secrets : SecretPair} {nowMs : ℕ}
    {claims : Params}
    (h : verifyAccessToken jose secrets (signed.token p jose) nowMs = some claims) :
    claims = accessClaims p.config signed.args signed.jti signed.iat := by
  have hverify : ∀ secret o now claims,
      jose.jwtVerify (signed.token p jose) secret o now = some claims →
        claims = accessClaims p.config signed.args signed.jti signed.iat := by
    intro secret o now claims h
    have hpayload : Jws.payload (signed.token p jose) =
        some (.obj (accessClaims p.config signed.args signed.jti signed.iat)) := by
      rw [Signed.token, jose.sign_eq]
      exact Jws.payload_sign mac jsStyle joseHeader signed.secret
        (accessClaims_distinct p.config signed.args _ _)
    exact (Json.obj.inj (jose.verify_payload _ _ _ _ _ _ h hpayload)).symm
  simp only [verifyAccessToken, verifyServiceToken] at h
  split at h
  · rename_i claims' hcurrent
    obtain rfl := Option.some.inj h
    exact hverify _ _ _ _ hcurrent
  · split at h
    · cases h
    · split at h
      · cases h
      · exact hverify _ _ _ _ h

theorem ofParams_accessClaims (cfg : Config) (args : AccessArgs) (jti : String) (iat : ℕ) :
    AccessTokenClaims.ofParams (accessClaims cfg args jti iat) =
      some ⟨args.userId, args.tenantId, args.role, jti⟩ := by
  obtain ⟨user, tenant, role⟩ := args
  cases role <;> rfl

theorem facts_le_answer (env : RouteEnvironment) (c : RouteCall) (w : Backend) :
    w.facts ≤ (answerRoute p jose env c w).2.facts := by
  cases c with
  | selectUser email =>
      exact ⟨List.Subset.refl _, List.subset_append_left _ _, List.Subset.refl _⟩
  | sign args jti iat secret =>
      exact ⟨List.Subset.refl _, List.Subset.refl _, List.subset_append_left _ _⟩
  | _ => exact le_refl _

/-- A session record comes from a `SET` of the session store. -/
theorem answer_record {env : RouteEnvironment} {c : RouteCall} {w : Backend} {key : String}
    {e : Entry Stored} {r : SessionRecord} (he : e.value = .record r)
    (hc : Justified p w.facts c)
    (h : (answerRoute p jose env c w).2.redis.store.lookup key = some e) :
    w.redis.store.lookup key = some e ∨ RecordOf p w.facts key r := by
  cases c with
  | session c =>
      rcases answer_lookup env.session c w.redis h with hold | rfl | ⟨ttl, rfl⟩
      · exact .inl hold
      · obtain ⟨r', hr', hrecord⟩ := hc
        obtain rfl := Stored.record.inj (he.symm.trans hr')
        exact .inr hrecord
      · obtain ⟨text, htext⟩ := hc
        cases he.symm.trans htext
  | _ => exact .inl h

/-- What holds of every identity at every place. -/
structure Identified (p : Platform) (s : Site) : Prop where
  tasks : ∀ t ∈ s.tasks, RouteAlways p (fun _ _ => True) t.2 s.backend.facts
  records : ∀ key e r, s.backend.redis.store.lookup key = some e → e.value = .record r →
    RecordOf p s.backend.facts key r
  signed : ∀ x ∈ s.backend.facts.signed, LoggedIn p s.backend.facts x.args
  issued : ∀ t ∈ s.backend.gateway.issued, LoggedIn p s.backend.facts (ticketIdentity t.2)

theorem Identified.start (p : Platform) : Identified p Site.start where
  tasks := by rintro t ⟨⟩
  records := by rintro key e r ⟨⟩
  signed := by rintro x ⟨⟩
  issued := by rintro t ⟨⟩

/-- A ticket is issued by one call, and for its own session. -/
theorem issued_answer {env : RouteEnvironment} {c : RouteCall} {w : Backend}
    {t : String × TicketRedemption}
    (ht : t ∈ (answerRoute p jose env c w).2.gateway.issued) :
    t ∈ w.gateway.issued ∨ c = .setTicket t.1 t.2 := by
  cases c with
  | setTicket ticket session =>
      simp only [answerRoute, Sessions.step] at ht
      split at ht
      · exact .inl ht
      · rcases List.mem_append.mp ht with ht | ht
        · exact .inl ht
        · obtain rfl := List.mem_singleton.mp ht
          exact .inr rfl
  | _ => exact .inl ht

theorem signed_answer {env : RouteEnvironment} {c : RouteCall} {w : Backend} {x : Signed}
    (hx : x ∈ (answerRoute p jose env c w).2.facts.signed) :
    x ∈ w.facts.signed ∨ c = .sign x.args x.jti x.iat x.secret := by
  cases c with
  | sign args jti iat secret =>
      rcases List.mem_append.mp hx with hx | hx
      · exact .inl hx
      · obtain rfl := List.mem_singleton.mp hx
        exact .inr rfl
  | _ => exact .inl hx

/-- Under the condition, every reply is a true one. -/
theorem true_reply {s : Site} (hs : Identified p s) {i : ℕ} {o : Outcome}
    {env : RouteEnvironment} {request : Request} {x : RouteTask RouteResponse}
    (hi : s.tasks[i]? = some (request, x)) (hunforged : Unforged p jose s (.advance i o env))
    {c : RouteCall} (hc : x.awaited = some c) :
    TrueReply p (answerRoute p jose env c s.backend).2.facts c
      (answerRoute p jose env c s.backend).1 := by
  cases c with
  | session c =>
      cases c with
      | get key =>
          rintro r hr
          obtain ⟨e, he, -, hvalue⟩ := lookup_of_get hr
          exact hs.records key e r he hvalue
      | _ => trivial
  | selectUser email =>
      rintro row hrow
      refine List.mem_append_right _ (List.mem_map.mpr ⟨row, ?_, rfl⟩)
      exact Option.mem_toList.mpr hrow
  | verify hash plain => rfl
  | verifyAccessToken secrets token =>
      rintro claims hclaims
      obtain ⟨params, hparams, hof⟩ := Option.bind_eq_some_iff.mp hclaims
      have hawaited : (s.tasks[i]?.bind fun t => t.2.awaited) =
          some (.verifyAccessToken secrets token) := by
        rw [hi]
        exact hc
      obtain ⟨signed, hsigned, rfl⟩ := hunforged secrets token params hawaited hparams
      obtain rfl := verifyAccessToken_signed signed hparams
      rw [ofParams_accessClaims] at hof
      obtain rfl := Option.some.inj hof
      exact hs.signed signed hsigned
  | _ => trivial

theorem Identified.advance {s : Site} (hs : Identified p s) {i : ℕ} {o : Outcome}
    {env : RouteEnvironment} {request : Request} {x : RouteTask RouteResponse}
    (hi : s.tasks[i]? = some (request, x))
    (hunforged : Unforged p jose s (.advance i o env)) :
    Identified p (s.advance p jose i o env request x) := by
  have hx : RouteAlways p (fun _ _ => True) x s.backend.facts :=
    hs.tasks _ (List.mem_of_getElem? hi)
  have hworld := Async.resume_world (answerRoute p jose env) o x s.backend
  have hle : s.backend.facts ≤ (s.advance p jose i o env request x).backend.facts := by
    change _ ≤ (x.resume (answerRoute p jose env) o s.backend).2.facts
    rcases hworld with hsame | ⟨c, -, -, heffect⟩
    · rw [hsame]
    · rw [heffect]
      exact facts_le_answer env c s.backend
  refine ⟨?_, ?_, ?_, ?_⟩
  · rintro t ht
    rcases List.mem_or_eq_of_mem_set ht with ht | rfl
    · exact (hs.tasks t ht).mono hle
    · refine Async.Always.resume hx hle ?_
      rintro rfl c hc
      have hafter : (s.advance p jose i .returned env request x).backend =
          (answerRoute p jose env c s.backend).2 :=
        Async.resume_applied hc rfl s.backend
      rw [hafter]
      exact true_reply hs hi hunforged hc
  · rintro key e r he hr
    change (x.resume (answerRoute p jose env) o s.backend).2.redis.store.lookup key = some e at he
    rcases hworld with hsame | ⟨c, hc, -, heffect⟩
    · exact (hs.records key e r (hsame ▸ he) hr).mono hle
    · rw [heffect] at he
      rcases answer_record hr (hx.of_awaited hc) he with hold | hnew
      · exact (hs.records key e r hold hr).mono hle
      · exact hnew.mono hle
  · rintro y hy
    change y ∈ (x.resume (answerRoute p jose env) o s.backend).2.facts.signed at hy
    rcases hworld with hsame | ⟨c, hc, -, heffect⟩
    · exact (hs.signed y (hsame ▸ hy)).mono hle
    · rw [heffect] at hy
      rcases signed_answer hy with hold | rfl
      · exact (hs.signed y hold).mono hle
      · exact LoggedIn.mono (hx.of_awaited hc) hle
  · rintro t ht
    change t ∈ (x.resume (answerRoute p jose env) o s.backend).2.gateway.issued at ht
    rcases hworld with hsame | ⟨c, hc, -, heffect⟩
    · exact (hs.issued t (hsame ▸ ht)).mono hle
    · rw [heffect] at ht
      rcases issued_answer ht with hold | rfl
      · exact (hs.issued t hold).mono hle
      · exact LoggedIn.mono (hx.of_awaited hc) hle

/-- By itself the gateway issues no ticket. -/
theorem issued_alone {q : Gateway.Platform} {s s' : Sessions} {l : Step}
    (h : s.step q l = some s') (hl : movesAlone l = true) : s'.issued = s.issued := by
  cases l with
  | issueWsTicket ticket session => cases hl
  | pass d => cases hl
  | upgrade ticket =>
      simp only [Sessions.step] at h
      split at h <;>
      · obtain rfl := Option.some.inj h
        rfl
  | redeem i admitted =>
      simp only [Sessions.step] at h
      split at h
      · obtain rfl := Option.some.inj h
        rfl
      · obtain rfl := Option.some.inj h
        rfl
      · cases h
  | answer i arrived =>
      simp only [Sessions.step] at h
      split at h
      · split at h <;>
        · obtain rfl := Option.some.inj h
          rfl
      · cases h
  | push d envelope =>
      obtain rfl := Option.some.inj h
      rfl
  | evict d hibernated =>
      obtain rfl := Option.some.inj h
      rfl
  | timer d a =>
      simp only [Sessions.step] at h
      split at h
      · split at h
        · obtain rfl := Option.some.inj h
          rfl
        · cases h
      · cases h
  | message d msg =>
      simp only [Sessions.step] at h
      split at h
      · cases h
      · obtain rfl := Option.some.inj h
        rfl
  | close d =>
      simp only [Sessions.step] at h
      split at h
      · cases h
      · obtain rfl := Option.some.inj h
        rfl
  | snapshot d i result =>
      simp only [Sessions.step] at h
      split at h
      · obtain rfl := Option.some.inj h
        rfl
      · cases h
  | registered d i ok =>
      simp only [Sessions.step] at h
      split at h
      · obtain rfl := Option.some.inj h
        rfl
      · cases h

theorem Identified.step {s s' : Site} {l : SiteStep} (hs : Identified p s)
    (hunforged : Unforged p jose s l) (h : s.step p jose l = some s') : Identified p s' := by
  rcases site_cases h with ⟨request, rfl, rfl⟩ | ⟨i, o, env, request, x, rfl, hi, -, rfl⟩ |
    ⟨l', gateway, rfl, halone, hstep, rfl⟩ | ⟨d, rfl, rfl⟩
  · -- a request adds itself to the facts
    have hle : s.backend.facts ≤ { s.backend.facts with
        requests := s.backend.facts.requests ++ [request] } :=
      ⟨List.subset_append_left _ _, List.Subset.refl _, List.Subset.refl _⟩
    refine ⟨?_, ?_, ?_, ?_⟩
    · rintro t ht
      rcases List.mem_append.mp ht with ht | ht
      · exact (hs.tasks t ht).mono hle
      · obtain rfl := List.mem_singleton.mp ht
        exact program_always (List.mem_append_right _ (List.mem_singleton_self _))
    · exact fun key e r he hr => (hs.records key e r he hr).mono hle
    · exact fun x hx => (hs.signed x hx).mono hle
    · exact fun t ht => (hs.issued t ht).mono hle
  · exact hs.advance hi hunforged
  · refine ⟨hs.tasks, hs.records, hs.signed, ?_⟩
    intro t ht
    exact hs.issued t (issued_alone hstep halone ▸ ht)
  · exact ⟨hs.tasks, hs.records, hs.signed, hs.issued⟩

/-- The gateway of a site is one of the gateway's own runs. -/
theorem gateway_reachable {s : Site} (hs : (siteSystem p jose).Reachable s) :
    (sessionSystem p.gateway).Reachable s.backend.gateway := by
  refine hs.invariant (P := fun s => (sessionSystem p.gateway).Reachable s.backend.gateway) ?_ ?_
  · rintro s rfl
    exact .start rfl
  · rintro s l s' hreach - hstep
    rcases site_cases hstep with ⟨request, -, rfl⟩ | ⟨i, o, env, request, x, -, hi, -, rfl⟩ |
      ⟨l', gateway, -, -, hgateway, rfl⟩ | ⟨d, -, rfl⟩
    · exact hreach
    · change (sessionSystem p.gateway).Reachable
        (x.resume (answerRoute p jose env) o s.backend).2.gateway
      rcases Async.resume_world (answerRoute p jose env) o x s.backend with
        hsame | ⟨c, -, -, heffect⟩
      · rw [hsame]
        exact hreach
      · rw [heffect]
        cases c with
        | setTicket ticket session =>
            change (sessionSystem p.gateway).Reachable
              ((s.backend.gateway.step p.gateway (.issueWsTicket ticket session)).getD
                s.backend.gateway)
            cases hissue : s.backend.gateway.step p.gateway (.issueWsTicket ticket session) with
            | none => exact hreach
            | some gateway =>
                rw [Option.getD_some]
                exact .step (a := .issueWsTicket ticket session) hreach trivial hissue
        | _ => exact hreach
    · exact .step hreach trivial hgateway
    · exact .step (a := .pass d) hreach trivial rfl

end Steps

/-! ## §5  The users table -/

/-- The table has one row for an id and one for an e-mail, and keeps both for good. -/
structure Keyed (users : UsersTable) (found : List (String × UserRow)) : Prop where
  ids : (users.rows.map fun row => row.id).Nodup
  emails : (users.rows.map fun row => row.email).Nodup
  found : ∀ x ∈ found, ∃ row ∈ users.rows, row.id = x.2.id ∧ row.email = x.1

namespace Keyed

variable {users : UsersTable} {found : List (String × UserRow)}

theorem ensure (h : Keyed users found) (by_ : Schema) : Keyed (users.ensure by_) found :=
  ⟨h.ids, h.emails, h.found⟩

theorem select (h : Keyed users found) (email : String) :
    Keyed users
      (found ++ (users.select email).toList.map fun row => (email, row)) := by
  refine ⟨h.ids, h.emails, ?_⟩
  intro x hx
  rcases List.mem_append.mp hx with hx | hx
  · exact h.found x hx
  · obtain ⟨row, hrow, rfl⟩ := List.mem_map.mp hx
    have hselect : users.select email = some row := Option.mem_toList.mp hrow
    have hemail : row.email = email := by simpa using List.find?_some hselect
    exact ⟨row, List.mem_of_find?_eq_some hselect, rfl, hemail⟩

theorem update (h : Keyed users found) (passwordHash tenantId role id : String) :
    Keyed (users.update passwordHash tenantId role id) found := by
  have hids : (users.update passwordHash tenantId role id).rows.map (fun row => row.id) =
      users.rows.map fun row => row.id := by
    rw [UsersTable.update, List.map_map]
    refine List.map_congr_left fun row _ => ?_
    simp only [Function.comp_apply]
    split <;> rfl
  have hemails : (users.update passwordHash tenantId role id).rows.map (fun row => row.email) =
      users.rows.map fun row => row.email := by
    rw [UsersTable.update, List.map_map]
    refine List.map_congr_left fun row _ => ?_
    simp only [Function.comp_apply]
    split <;> rfl
  refine ⟨hids ▸ h.ids, hemails ▸ h.emails, ?_⟩
  intro x hx
  obtain ⟨row, hrow, hid, hemail⟩ := h.found x hx
  refine ⟨_, List.mem_map.mpr ⟨row, hrow, rfl⟩, ?_, ?_⟩
  · rw [← hid]
    split <;> rfl
  · rw [← hemail]
    split <;> rfl

theorem insert (h : Keyed users found) (row : UserRow) :
    Keyed (users.insert row).2 found := by
  unfold UsersTable.insert
  split
  · exact h
  · rename_i hfresh
    have hnot : ∀ r ∈ users.rows, r.email ≠ row.email ∧ r.id ≠ row.id := by
      intro r hr
      have hno : ¬ (r.email = row.email ∨ r.id = row.id) := by
        intro hsame
        exact hfresh (List.any_eq_true.mpr ⟨r, hr, by simpa using hsame⟩)
      exact not_or.mp hno
    refine ⟨?_, ?_, ?_⟩
    · rw [List.map_append, List.nodup_append]
      refine ⟨h.ids, List.nodup_singleton _, ?_⟩
      rintro a ha b hb
      obtain ⟨r, hr, rfl⟩ := List.mem_map.mp ha
      obtain rfl := List.mem_singleton.mp hb
      exact (hnot r hr).2
    · rw [List.map_append, List.nodup_append]
      refine ⟨h.emails, List.nodup_singleton _, ?_⟩
      rintro a ha b hb
      obtain ⟨r, hr, rfl⟩ := List.mem_map.mp ha
      obtain rfl := List.mem_singleton.mp hb
      exact (hnot r hr).1
    · intro x hx
      obtain ⟨r, hr, hx⟩ := h.found x hx
      exact ⟨r, List.mem_append_left _ hr, hx⟩

/-- An id found for two e-mails would be that of two rows. -/
theorem email_unique (h : Keyed users found) {x y : String × UserRow} (hx : x ∈ found)
    (hy : y ∈ found) (hid : x.2.id = y.2.id) : x.1 = y.1 := by
  obtain ⟨a, ha, haid, haemail⟩ := h.found x hx
  obtain ⟨b, hb, hbid, hbemail⟩ := h.found y hy
  obtain rfl := List.inj_on_of_nodup_map h.ids ha hb (haid.trans (hid.trans hbid.symm))
  exact haemail.symm.trans hbemail

theorem answer {mac : Mac} {jose : Jose mac} {w : Backend} (h : Keyed w.users w.facts.found)
    (env : RouteEnvironment) (c : RouteCall) :
    Keyed (answerRoute p jose env c w).2.users (answerRoute p jose env c w).2.facts.found := by
  cases c with
  | ensureUsersSchema by_ => exact h.ensure by_
  | selectUser email => exact h.select email
  | updateUser passwordHash tenantId role id => exact h.update passwordHash tenantId role id
  | insertUser row => exact h.insert row
  | _ => exact h

end Keyed

theorem keyed {mac : Mac} {jose : Jose mac} {s : Site}
    (hs : (siteSystem p jose).Reachable s) :
    Keyed s.backend.users s.backend.facts.found := by
  refine hs.invariant (P := fun s => Keyed s.backend.users s.backend.facts.found) ?_ ?_
  · rintro s rfl
    exact ⟨List.nodup_nil, List.nodup_nil, by rintro x ⟨⟩⟩
  · rintro s l s' h - hstep
    rcases site_cases hstep with ⟨request, -, rfl⟩ | ⟨i, o, env, request, x, -, hi, -, rfl⟩ |
      ⟨l', gateway, -, -, -, rfl⟩ | ⟨d, -, rfl⟩
    · exact h
    · change Keyed (x.resume (answerRoute p jose env) o s.backend).2.users
        (x.resume (answerRoute p jose env) o s.backend).2.facts.found
      rcases Async.resume_world (answerRoute p jose env) o x s.backend with
        hsame | ⟨c, -, -, heffect⟩
      · rw [hsame]
        exact h
      · rw [heffect]
        exact h.answer env c
    · exact h
    · exact h

/-! ## §6  Runs -/

section Runs

variable {mac : Mac} (p : Platform) (jose : Jose mac)

/-- Each place at which the system keeps or states an identity. -/
structure Accounted (s : Site) : Prop where
  /-- A session record, which lies under its own user. -/
  records : ∀ key r, s.backend.redis.get key = some (.record r) →
    key = sessionKey r.user_id ∧ LoggedIn p s.backend.facts r.identity
  /-- An access token that is taken. -/
  tokens : ∀ x ∈ s.backend.facts.signed, LoggedIn p s.backend.facts x.args
  /-- The session of a durable object. -/
  accepted : ∀ doId ticket session,
    .accepted doId ticket session ∈ s.backend.gateway.log →
      LoggedIn p s.backend.facts (ticketIdentity session)
  /-- A request of a durable object to the BFF. -/
  posts : ∀ post, .posted post ∈ s.backend.gateway.log →
    ∃ session, LoggedIn p s.backend.facts (ticketIdentity session) ∧ post.Names session
  /-- No two e-mails have ever logged in as one user. -/
  owners : ∀ x ∈ s.backend.facts.found, ∀ y ∈ s.backend.facts.found,
    x.2.id = y.2.id → x.1 = y.1

theorem identified {s : Site} (hs : (siteSystem p jose).Reached (Unforged p jose) s) :
    Identified p s := by
  apply hs.invariant
  · rintro s rfl
    exact Identified.start p
  · exact fun s l s' hinv hunforged hstep => hinv.step hunforged hstep

/-- **Identities come from logins**: whatever the requests and however they interleave, no
place of the system holds an identity but that of a row whose e-mail and password a login
has presented. -/
theorem identities_of_logins {s : Site}
    (hs : (siteSystem p jose).Reached (Unforged p jose) s) : Accounted p s := by
  have hid := identified p jose hs
  have hgateway := gateway_reachable hs.reachable
  refine ⟨?_, hid.signed, ?_, ?_, fun x hx y hy => (keyed hs.reachable).email_unique hx hy⟩
  · rintro key r hget
    obtain ⟨e, he, -, hvalue⟩ := lookup_of_get hget
    exact hid.records key e r he hvalue
  · rintro doId ticket session haccepted
    exact hid.issued _ ((inv_of_reachable hgateway).accepted _ _ _ haccepted).2
  · rintro post hpost
    obtain ⟨ticket, session, -, hissued, hnames⟩ := posted_identity hgateway hpost
    exact ⟨session, hid.issued _ hissued, hnames⟩

end Runs

/-- A hash that is the password itself. -/
def samplePlatform : Platform where
  config := .default
  gateway := ⟨id, Function.injective_id, "https://gateway/", 60⟩
  toLowerCase := id
  isEmail := fun _ => true
  argon2Verify := fun hash plain => hash == plain

def sampleEnvironment (n : UInt8) (text : String) : RouteEnvironment :=
  ⟨⟨sampleBytes n, 0, []⟩, ⟨"k1", none⟩, text, true⟩

def goRoute (i : ℕ) (n : UInt8) (text : String) : SiteStep :=
  .advance i .returned (sampleEnvironment n text)

/-- A login that waits until its user is seeded. -/
def sampleSite : List SiteStep :=
  [.begin (.login (some (.obj [("email", .str "a@x"), ("password", .str "password")])) none none),
    goRoute 0 0 "", .begin (.seedAdmin ⟨some "a@x", some "password", some "acme", none⟩),
    goRoute 1 0 "", goRoute 1 0 "password", goRoute 1 0 "", goRoute 1 0 "u1", goRoute 1 0 "",
    goRoute 0 0 "", goRoute 0 0 "", goRoute 0 0 "", goRoute 0 1 "", goRoute 0 0 "",
    goRoute 0 0 "", goRoute 0 2 "", goRoute 0 3 "", goRoute 0 0 "", goRoute 0 0 ""]

/-- The step asks whether a token is valid. -/
def Site.verifies (s : Site) : SiteStep → Bool
  | .advance i _ _ =>
      match s.tasks[i]?.bind fun t => t.2.awaited with
      | some (.verifyAccessToken _ _) => true
      | _ => false
  | _ => false

theorem unforged_of_verifies {mac : Mac} {p : Platform} {jose : Jose mac} {s : Site}
    {l : SiteStep} (h : s.verifies l = false) : Unforged p jose s l := by
  cases l with
  | advance i o env =>
      intro secrets token claims hawaited
      simp [Site.verifies, hawaited] at h
  | _ => trivial

theorem identities_of_logins_sample :
    ∃ s, (siteSystem samplePlatform (standardJose sampleMac)).run Site.start sampleSite =
        some s ∧
      (∃ r, s.backend.redis.get (sessionKey "u1") = some (.record r) ∧ r.tenant_id = "acme") ∧
      Accounted samplePlatform s := by
  have hrun : ∃ s, (siteSystem samplePlatform (standardJose sampleMac)).run Site.start
      sampleSite = some s ∧
      ∃ r, s.backend.redis.get (sessionKey "u1") = some (.record r) ∧ r.tenant_id = "acme" :=
    ⟨_, rfl, _, rfl, rfl⟩
  have hmeets : (siteSystem samplePlatform (standardJose sampleMac)).Meets
      (fun s l => s.verifies l = false) Site.start sampleSite := by
    decide
  obtain ⟨s, hs, hrecord⟩ := hrun
  refine ⟨s, hs, hrecord, identities_of_logins samplePlatform (standardJose sampleMac) ?_⟩
  exact (hmeets.reached (.start rfl) hs).mono fun _ _ h => unforged_of_verifies h

end AlertTriage.Auth
