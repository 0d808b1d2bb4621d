import AlertTriage.Gateway.ServiceTokens
import AlertTriage.Runtime.SecretStore
import AlertTriage.Runtime.VerifyCache

/-!
# Secret rotation across processes

The processes that mint and verify service tokens for one audience: the authorities of
`jwt_bootstrap.py` and the processes of the BFF with the cache of `secrets.ts`. Each has
read the row of the store at some time of its own, so a reading is of a version, the
number of rotations before it. A verifier holds the secret of a token just when its
reading is of the same version as the minter's or of the next one. A minter that has
read a rotation before the verifier is not covered, nor is one that lags behind it by
two versions (`never_refused_iff`).

A token for one audience that a service of another mints is signed with the other's
secret, and no caller passes extra claims: neither is part of this.
-/

namespace AlertTriage.Peers

open Library Gateway

/-! ## §1  Libraries and secrets -/

/-- The header names the algorithm. -/
def IsHs256 (token : String) : Prop :=
  ((Jws.header token).bind (property "alg")).bind Json.asStr? = some "HS256"

def pyHeader : Json := .obj [("alg", .str "HS256"), ("typ", .str "JWT")]

/-- PyJWT and `jose` over one hash: each reads compact tokens as the standard says. -/
structure TokenLibraries (mac : Mac) where
  pyjwt : PyJwt
  jose : Jose mac
  encode_eq : ∀ claims secret, pyjwt.encode claims secret =
    Jws.sign mac ⟨true, false⟩ pyHeader (.obj claims) secret
  unsign_eq : ∀ token secret, IsHs256 token → pyjwt.unsign token secret =
    if Jws.signedBy mac token secret then tokenClaims token else none
  jwtVerify_eq : ∀ token secret o now, IsHs256 token → jose.jwtVerify token secret o now =
    if Jws.signedBy mac token secret then
      (tokenClaims token).filter fun claims => acceptsClaims o claims now
    else none

/-- The secrets of the audience in their order. No two give a message the same code. -/
structure Keys (mac : Mac) where
  secret : ℕ → String
  nonempty : ∀ n, secret n ≠ ""
  separate : ∀ n k message,
    mac (utf8 (secret n)) message = mac (utf8 (secret k)) message → n = k

structure PeerConfig where
  audience : String
  hasRevoked : Bool
  ttl : ℕ
  leeway : ℕ
deriving DecidableEq, Repr

variable {mac : Mac}

def Keys.previous (keys : Keys mac) : ℕ → Option String
  | 0 => none
  | n + 1 => some (keys.secret n)

/-- The row after so many rotations. -/
def Keys.bundle (keys : Keys mac) (audience : String) (n : ℕ) : SecretBundle :=
  ⟨audience, keys.secret n, keys.previous n⟩

/-! ## §2  The processes -/

/-- A row as it was read, after so many rotations. -/
structure Reading where
  bundle : SecretBundle
  version : ℕ
deriving DecidableEq, Repr

inductive Peer where
  /-- A `ServiceTokenAuthority` with the `JWTService` of the audience: its bundle, one
  that a refresh has read, the verify cache, and the calls at the deny-list. -/
  | authority (held reading : Option Reading) (cache : List (String × JwtCacheEntry))
      (waiting : List (String × Pending))
  /-- A BFF process: the entry of `cache` with its `loadedAt`, the queries under way, and
  what `getSecretBundle` has returned to callers that go on with it. -/
  | bff (cache : Option (Reading × ℕ)) (loading : List (Reading × ℕ))
      (returned : List Reading)

structure Minted where
  token : String
  claims : Params
  issuer : String
  exp : ℕ
  version : ℕ

structure MintRequest where
  subject : String
  tenantId : String
  role : Option String
  reqId : Option String
  jti : String

/-- `cacheTtlSeconds`, in milliseconds. -/
def cacheTtlMs : ℕ := 60 * 1000

def PeerConfig.service (cfg : PeerConfig) (b : SecretBundle) : JwtService :=
  ⟨cfg.audience, b, cfg.hasRevoked, cfg.ttl, cfg.leeway⟩

/-- What a call to `verify` sees of the process. -/
def worldAt (now : ℕ) (cache : List (String × JwtCacheEntry)) : World :=
  { World.fresh with now := now, jwtCache := cache }

namespace Peer

/-- A refresh reads the row; `_refresh_lock` lets one do so at a time. A caller of
`getSecretBundle` has looked at the clock before. -/
def read (r : Reading) (startedMs : ℕ) : Peer → Option Peer
  | .authority held none cache waiting => some (.authority held (some r) cache waiting)
  | .authority _ (some _) _ _ => none
  | .bff cache loading returned => some (.bff cache (loading ++ [(r, startedMs)]) returned)

/-- The answer of the store has arrived. -/
def install (k : ℕ) : Peer → Option Peer
  | .authority _ (some r) cache waiting => some (.authority (some r) none cache waiting)
  | .authority _ none _ _ => none
  | .bff _ loading returned =>
      loading[k]?.map fun entry =>
        .bff (some entry) (loading.eraseIdx k) (returned ++ [entry.1])

/-- `getSecretBundle` finds an entry that is young enough. -/
def hit (nowMs : ℕ) : Peer → Option Peer
  | .bff (some (r, loadedAt)) loading returned =>
      if nowMs < loadedAt + cacheTtlMs then
        some (.bff (some (r, loadedAt)) loading (returned ++ [r]))
      else none
  | _ => none

/-- The reading that a call mints or verifies with. -/
def take (k : ℕ) : Peer → Option (Reading × Peer)
  | .authority (some r) reading cache waiting =>
      some (r, .authority (some r) reading cache waiting)
  | .authority none _ _ _ => none
  | .bff cache loading returned =>
      returned[k]?.map fun r => (r, .bff cache loading (returned.eraseIdx k))

variable (libs : TokenLibraries mac) (cfg : PeerConfig) (now : ℕ) (r : Reading)

/-- `JWTService.mint` for its own audience, or `mintServiceToken`. -/
def mint (req : MintRequest) : Peer → Option Minted
  | .authority _ _ _ _ =>
      match AlertTriage.mint libs.pyjwt (cfg.service r.bundle) req.subject req.tenantId
          cfg.audience req.role [] req.jti now with
      | .ok token => some
          { token := token
            claims := mintClaims (cfg.service r.bundle) req.subject req.tenantId cfg.audience
              req.role req.jti now
            issuer := cfg.audience
            exp := now / second + cfg.ttl
            version := r.version }
      | .error _ => none
  | .bff _ _ _ => some
      { token := mintServiceToken libs.jose ⟨r.bundle.current, r.bundle.previous⟩ cfg.audience
          req.subject req.tenantId req.role req.reqId req.jti (now / 1000)
        claims := serviceClaims cfg.audience req.subject req.tenantId req.role req.reqId
          req.jti (now / 1000 / 1000)
        issuer := "bff"
        exp := now / 1000 / 1000 + 5 * 60
        version := r.version }

/-- The token is taken. The deny-list knows no token, and a call that gets to it
returns (`finish_answer`). -/
def accepts (token : String) : Peer → Bool
  | .authority _ _ cache _ =>
      (lookUp libs.pyjwt (cfg.service r.bundle) token (worldAt now cache)).1.toOption.isSome
  | .bff _ _ _ =>
      (verifyServiceToken libs.jose ⟨r.bundle.current, r.bundle.previous⟩ token cfg.audience
        (now / 1000)).isSome

/-- A call of `verify` goes to the deny-list. -/
def verifying (token : String) : Peer → Peer
  | .authority held reading cache waiting =>
      match (lookUp libs.pyjwt (cfg.service r.bundle) token (worldAt now cache)).1 with
      | .ok p => .authority held reading cache (waiting ++ [(token, p)])
      | .error _ => .authority held reading cache waiting
  | .bff cache loading returned => .bff cache loading returned

/-- And comes back. -/
def verified (k : ℕ) : Peer → Option Peer
  | .authority (some r) reading cache waiting =>
      waiting[k]?.map fun call =>
        .authority (some r) reading
          (finish (cfg.service r.bundle) (.answer false) call.1 call.2
            (worldAt now cache)).2.jwtCache
          (waiting.eraseIdx k)
  | _ => none

end Peer

/-! ## §3  The system -/

structure State where
  now : ℕ
  store : SecretStore
  rotations : ℕ
  peers : List Peer
  minted : List Minted
  /-- The tokens that were refused before their expiry. -/
  refused : List String

inductive Step where
  | rotate
  | read (i startedMs : ℕ)
  | install (i k : ℕ)
  | hit (i : ℕ)
  | mint (i k : ℕ) (req : MintRequest)
  | verify (i k : ℕ) (token : String)
  | verified (i k : ℕ)
  | pass (d : ℕ)

/-- The token has been minted and has not expired. -/
def State.due (s : State) (token : String) : Bool :=
  s.minted.any fun m => m.token == token && decide (s.now < m.exp * second)

def State.setPeer (s : State) (i : ℕ) (peer : Peer) : State :=
  { s with peers := s.peers.set i peer }

def State.step (libs : TokenLibraries mac) (keys : Keys mac) (cfg : PeerConfig) (s : State) :
    Step → Option State
  | .rotate => some { s with
      store := s.store.rotate cfg.audience (keys.secret (s.rotations + 1)) s.now
      rotations := s.rotations + 1 }
  | .read i startedMs =>
      match s.peers[i]?, s.store.getBundle cfg.audience with
      | some peer, some b =>
          if startedMs ≤ s.now / 1000 then
            (peer.read ⟨b, s.rotations⟩ startedMs).map (s.setPeer i)
          else none
      | _, _ => none
  | .install i k => (s.peers[i]?.bind (Peer.install k)).map (s.setPeer i)
  | .hit i => (s.peers[i]?.bind (Peer.hit (s.now / 1000))).map (s.setPeer i)
  | .mint i k req =>
      (s.peers[i]?.bind (Peer.take k)).bind fun (r, peer) =>
        (peer.mint libs cfg s.now r req).map fun m =>
          { s.setPeer i peer with minted := m :: s.minted }
  | .verify i k token =>
      (s.peers[i]?.bind (Peer.take k)).map fun (r, peer) =>
        { s.setPeer i (peer.verifying libs cfg s.now r token) with
          refused :=
            if peer.accepts libs cfg s.now r token || !s.due token then s.refused
            else token :: s.refused }
  | .verified i k => (s.peers[i]?.bind (Peer.verified cfg s.now k)).map (s.setPeer i)
  | .pass d => some { s with now := s.now + d }

/-- Before the first rotation no process has read anything. -/
def peerSystem (libs : TokenLibraries mac) (keys : Keys mac) (cfg : PeerConfig) :
    System State Step where
  start := fun s => s.store.getBundle cfg.audience = some (keys.bundle cfg.audience 0) ∧
    s.rotations = 0 ∧ s.minted = [] ∧ s.refused = [] ∧
    ∀ peer ∈ s.peers, peer = .authority none none [] [] ∨ peer = .bff none [] []
  step := State.step libs keys cfg

/-! ## §4  A minted token -/

/-- What a minted token says and how it is signed. -/
structure Minted.Sound (keys : Keys mac) (cfg : PeerConfig) (now : ℕ) (m : Minted) : Prop where
  signed : ∃ style header, IsHs256 m.token ∧
    m.token = Jws.sign mac style header (.obj m.claims) (keys.secret m.version)
  distinct : Json.Distinct (.obj m.claims)
  iss : claim "iss" m.claims = some (.str m.issuer)
  aud : claim "aud" m.claims = some (.str cfg.audience)
  sub : ∃ text, claim "sub" m.claims = some (.str text)
  tid : ∃ text, claim "tid" m.claims = some (.str text)
  jti : ∃ text, claim "jti" m.claims = some (.str text)
  iat : ∃ t : ℕ, claim "iat" m.claims = some (.int t) ∧ t * second ≤ now
  exp : claim "exp" m.claims = some (.int m.exp)
  nbf : claim "nbf" m.claims = none

section

variable {libs : TokenLibraries mac} {keys : Keys mac} {cfg : PeerConfig} {now : ℕ}
  {m : Minted} {r : Reading}

theorem Minted.Sound.later (h : m.Sound keys cfg now) {now' : ℕ} (hnow : now ≤ now') :
    m.Sound keys cfg now' := by
  obtain ⟨t, ht, hle⟩ := h.iat
  exact { h with iat := ⟨t, ht, hle.trans hnow⟩ }

/-- PyJWT's checks pass until the expiry. -/
theorem Minted.Sound.valid (h : m.Sound keys cfg now) (hexp : now < m.exp * second) :
    validClaims cfg.audience cfg.leeway now m.claims = true := by
  obtain ⟨sub, hsub⟩ := h.sub
  obtain ⟨tid, htid⟩ := h.tid
  obtain ⟨jti, hjti⟩ := h.jti
  obtain ⟨t, hiat, ht⟩ := h.iat
  have hnonneg : (0 : ℤ) ≤ cfg.leeway * second := by positivity
  have hiat' : (t : ℤ) * second ≤ now + cfg.leeway * second := by
    have ht' : (t : ℤ) * second ≤ now := by exact_mod_cast ht
    omega
  have hexp' : (now : ℤ) < ((m.exp : ℤ) + cfg.leeway) * second := by
    have hexp'' : (now : ℤ) < m.exp * second := by exact_mod_cast hexp
    rw [add_mul]
    omega
  have hissued : intClaim "iat" m.claims = some (t : ℤ) := by
    rw [intClaim, hiat]
    rfl
  have hexpires : intClaim "exp" m.claims = some (m.exp : ℤ) := by
    rw [intClaim, h.exp]
    rfl
  simp only [validClaims, Bool.and_eq_true]
  refine ⟨⟨⟨⟨⟨⟨?_, ?_⟩, ?_⟩, ?_⟩, ?_⟩, ?_⟩, ?_⟩
  · simp [requiredClaims, h.aud, h.exp, hsub, htid, hjti, hiat]
  · rw [hissued, Option.any_some, decide_eq_true_eq]
    exact hiat'
  · rw [h.nbf]
    rfl
  · rw [hexpires, Option.any_some, decide_eq_true_eq]
    exact hexp'
  · rw [h.aud]
    exact beq_self_eq_true _
  · rw [hsub]
    rfl
  · rw [hjti]
    rfl

/-- So do those of `jose`, for a token of the BFF. -/
theorem Minted.Sound.accepted (h : m.Sound keys cfg now) (hexp : now < m.exp * second) :
    acceptsClaims (serviceOptions cfg.audience) m.claims (now / 1000 / 1000) =
      decide (m.issuer = "bff") := by
  obtain ⟨sub, hsub⟩ := h.sub
  obtain ⟨jti, hjti⟩ := h.jti
  obtain ⟨t, hiat, -⟩ := h.iat
  have hiss := h.iss
  have haud := h.aud
  have hexp' := h.exp
  have hnbf := h.nbf
  unfold claim at hiss haud hexp' hnbf hsub hjti hiat
  have hseconds : now / 1000 / 1000 < m.exp := by
    rw [Nat.div_div_eq_div_mul]
    exact Nat.div_lt_of_lt_mul (by rwa [mul_comm])
  have hlate : ((now / 1000 / 1000 : ℕ) : ℚ) < (m.exp : ℚ) + 30 := by
    have hseconds' : ((now / 1000 / 1000 : ℕ) : ℚ) < (m.exp : ℚ) := by exact_mod_cast hseconds
    linarith
  simp [acceptsClaims, serviceOptions, hiss, haud, hexp', hnbf, hsub, hjti, hiat,
    Json.asStr?, jsNumber, Jws.audienceMatches, hlate]
  rfl

theorem mintClaims_distinct (svc : JwtService) (subject tenantId audience : String)
    (role : Option String) (jti : String) (now : ℕ) :
    Json.Distinct (.obj (mintClaims svc subject tenantId audience role jti now)) := by
  unfold mintClaims
  cases role <;> simp [Json.Distinct, Json.DistinctFields]

theorem header_sign (style : Json.Style) {header : Json} (claims : Params) (secret : String)
    (h : Json.Distinct header) :
    Jws.header (Jws.sign mac style header (.obj claims) secret) = some header := by
  rw [Jws.header, Jws.parts_sign, Option.bind_some, Jws.signedParts]
  exact Jws.readSegment_segment style h

/-- What an authority mints. -/
def pyMinted (libs : TokenLibraries mac) (cfg : PeerConfig) (now : ℕ) (r : Reading)
    (req : MintRequest) : Minted :=
  let claims := mintClaims (cfg.service r.bundle) req.subject req.tenantId cfg.audience
    req.role req.jti now
  ⟨libs.pyjwt.encode claims r.bundle.current, claims, cfg.audience, now / second + cfg.ttl,
    r.version⟩

theorem mint_authority (libs : TokenLibraries mac) (cfg : PeerConfig) (now : ℕ) (r : Reading)
    (haudience : r.bundle.audience = cfg.audience) (held reading : Option Reading)
    (cache : List (String × JwtCacheEntry)) (waiting : List (String × Pending))
    (req : MintRequest) :
    (Peer.authority held reading cache waiting).mint libs cfg now r req =
      some (pyMinted libs cfg now r req) := by
  have haudience' : ¬ (cfg.service r.bundle).bundle.audience ≠
      (cfg.service r.bundle).audience := not_not.mpr haudience
  have hmint : AlertTriage.mint libs.pyjwt (cfg.service r.bundle) req.subject req.tenantId
      cfg.audience req.role [] req.jti now =
        .ok (libs.pyjwt.encode (mintClaims (cfg.service r.bundle) req.subject req.tenantId
          cfg.audience req.role req.jti now) r.bundle.current) := by
    rw [AlertTriage.mint, if_neg haudience']
    rfl
  simp only [Peer.mint, hmint, pyMinted]

/-- **What a process mints**, with the secret of its reading. -/
theorem mint_sound (hbundle : r.bundle = keys.bundle cfg.audience r.version) {peer : Peer}
    {req : MintRequest} (h : peer.mint libs cfg now r req = some m) :
    m.Sound keys cfg now ∧ m.version = r.version := by
  have hcurrent : r.bundle.current = keys.secret r.version := by rw [hbundle, Keys.bundle]
  -- the two services mint with libraries of their own
  cases peer with
  | authority held reading cache waiting =>
      rw [mint_authority libs cfg now r (by rw [hbundle, Keys.bundle])] at h
      obtain rfl := Option.some.inj h
      refine ⟨⟨⟨⟨true, false⟩, pyHeader, ?_, ?_⟩, mintClaims_distinct .., ?_, rfl, ⟨_, rfl⟩,
        ⟨_, rfl⟩, ⟨_, rfl⟩, ⟨_, rfl, Nat.div_mul_le_self _ _⟩, rfl, ?_⟩, rfl⟩
      · rw [IsHs256, pyMinted, libs.encode_eq,
          header_sign _ _ _ (by simp [pyHeader, Json.Distinct, Json.DistinctFields])]
        rfl
      · rw [pyMinted, libs.encode_eq, hcurrent]
      · rfl
      · unfold pyMinted mintClaims
        cases req.role <;> rfl
  | bff cache loading returned =>
      obtain rfl := Option.some.inj h
      have hiat : now / 1000 / 1000 * second ≤ now := by
        rw [Nat.div_div_eq_div_mul]
        exact Nat.div_mul_le_self _ _
      refine ⟨⟨⟨jsStyle, joseHeader, ?_, ?_⟩, serviceClaims_distinct .., ?_, ?_, ?_, ?_, ?_,
        ⟨_, ?_, hiat⟩, ?_, ?_⟩, rfl⟩
      · rw [IsHs256, mintServiceToken, libs.jose.sign_eq,
          header_sign _ _ _ (by simp [joseHeader, Json.Distinct, Json.DistinctFields])]
        rfl
      · rw [mintServiceToken, libs.jose.sign_eq, hcurrent]
      · cases req.reqId <;> rfl
      · cases req.reqId <;> rfl
      · cases req.reqId <;> exact ⟨_, rfl⟩
      · exact ⟨_, rfl⟩
      · cases req.reqId <;> exact ⟨_, rfl⟩
      · cases req.reqId <;> rfl
      · cases req.reqId <;> rfl
      · cases req.reqId <;> rfl

/-! ## §5  Who takes it -/

/-- The reading has the secret of the token, as the current or the previous one. -/
def Reading.Has (r : Reading) (m : Minted) : Prop :=
  r.version = m.version ∨ r.version = m.version + 1

instance (r : Reading) (m : Minted) : Decidable (r.Has m) :=
  inferInstanceAs (Decidable (_ ∨ _))

/-- A Python process has seen the token or has its secret; the BFF takes its own tokens
only. -/
def Peer.Covers (now : ℕ) (r : Reading) (m : Minted) : Peer → Prop
  | .authority _ _ cache _ =>
      (cachedEntry m.token (worldAt now cache)).isSome = true ∨ r.Has m
  | .bff _ _ _ => m.issuer = "bff" ∧ r.Has m

theorem Keys.secrets_bundle (audience : String) (n : ℕ) :
    (keys.bundle audience n).secrets = keys.secret n :: (keys.previous n).toList := by
  cases n with
  | zero => simp [SecretBundle.secrets, Keys.bundle, Keys.previous, keys.nonempty]
  | succ n => simp [SecretBundle.secrets, Keys.bundle, Keys.previous, keys.nonempty]

theorem Minted.Sound.signedBy_iff (h : m.Sound keys cfg now) (n : ℕ) :
    Jws.signedBy mac m.token (keys.secret n) = true ↔ n = m.version := by
  obtain ⟨style, header, -, htoken⟩ := h.signed
  rw [htoken, Jws.signedBy_sign_iff]
  constructor
  · exact fun heq => (keys.separate _ _ _ heq).symm
  · rintro rfl
    rfl

theorem Minted.Sound.tokenClaims_eq (h : m.Sound keys cfg now) :
    tokenClaims m.token = some m.claims := by
  obtain ⟨style, header, -, htoken⟩ := h.signed
  rw [tokenClaims, htoken, Jws.payload_sign mac style header _ h.distinct]
  rfl

theorem Minted.Sound.hs256 (h : m.Sound keys cfg now) : IsHs256 m.token := by
  obtain ⟨style, header, hhs256, -⟩ := h.signed
  exact hhs256

/-- One secret at PyJWT. -/
theorem decode_minted (libs : TokenLibraries mac) (h : m.Sound keys cfg now)
    (hexp : now < m.exp * second) (n : ℕ) :
    libs.pyjwt.decode m.token (keys.secret n) cfg.audience cfg.leeway now =
      if n = m.version then some m.claims else none := by
  rw [libs.pyjwt.decode_eq, libs.unsign_eq _ _ h.hs256, h.tokenClaims_eq]
  by_cases hn : n = m.version
  · rw [if_pos ((h.signedBy_iff n).mpr hn), if_pos hn]
    simp [h.valid hexp]
  · rw [if_neg (mt (h.signedBy_iff n).mp hn), if_neg hn]
    rfl

/-- One secret at `jose`. -/
theorem jwtVerify_minted (libs : TokenLibraries mac) (h : m.Sound keys cfg now)
    (hexp : now < m.exp * second) (n : ℕ) :
    libs.jose.jwtVerify m.token (keys.secret n) (serviceOptions cfg.audience)
        (now / 1000 / 1000) =
      if n = m.version ∧ m.issuer = "bff" then some m.claims else none := by
  rw [libs.jwtVerify_eq _ _ _ _ h.hs256, h.tokenClaims_eq]
  by_cases hn : n = m.version
  · rw [if_pos ((h.signedBy_iff n).mpr hn)]
    by_cases hissuer : m.issuer = "bff" <;> simp [h.accepted hexp, hn, hissuer]
  · rw [if_neg (mt (h.signedBy_iff n).mp hn), if_neg (fun hboth => hn hboth.1)]

/-- Of two secrets one at most is the token's. -/
theorem findSome_rotation {f : String → Option Params} {k : ℕ} {claims : Params}
    (hf : ∀ n, f (keys.secret n) = if n = k then some claims else none) (n : ℕ) :
    (keys.secret n :: (keys.previous n).toList).findSome? f =
      if n = k ∨ n = k + 1 then some claims else none := by
  cases n with
  | zero =>
      by_cases hzero : 0 = k
      · simp [Keys.previous, hf, hzero]
      · simp [Keys.previous, hf, hzero]
  | succ n =>
      by_cases hcurrent : n + 1 = k
      · simp [Keys.previous, hf, hcurrent]
      · by_cases hprevious : n = k
        · simp [Keys.previous, hf, hprevious]
        · simp [Keys.previous, hf, hcurrent, hprevious]

theorem decodeWithRotation_minted (libs : TokenLibraries mac) (h : m.Sound keys cfg now)
    (hexp : now < m.exp * second) (hbundle : r.bundle = keys.bundle cfg.audience r.version) :
    decodeWithRotation libs.pyjwt (cfg.service r.bundle) m.token now =
      if r.Has m then some m.claims else none := by
  unfold decodeWithRotation
  rw [PeerConfig.service, hbundle, Keys.secrets_bundle]
  exact (findSome_rotation (decode_minted libs h hexp) r.version).trans (if_congr Iff.rfl rfl rfl)

/-- `verifyServiceToken` tries the secrets of its pair in turn. -/
theorem verifyServiceToken_eq (n : ℕ) (token : String) (nowMs : ℕ) :
    verifyServiceToken libs.jose ⟨keys.secret n, keys.previous n⟩ token cfg.audience nowMs =
      (keys.secret n :: (keys.previous n).toList).findSome? fun secret =>
        libs.jose.jwtVerify token secret (serviceOptions cfg.audience) (nowMs / 1000) := by
  unfold verifyServiceToken
  rw [List.findSome?_cons]
  cases n with
  | zero =>
      simp only [Keys.previous, Option.toList_none, List.findSome?_nil]
      cases libs.jose.jwtVerify token (keys.secret 0) (serviceOptions cfg.audience)
        (nowMs / 1000) <;> rfl
  | succ n =>
      simp only [Keys.previous, keys.nonempty, if_false, Option.toList_some,
        List.findSome?_cons, List.findSome?_nil]
      cases libs.jose.jwtVerify token (keys.secret (n + 1)) (serviceOptions cfg.audience)
        (nowMs / 1000) with
      | some claims => rfl
      | none =>
          dsimp only
          cases libs.jose.jwtVerify token (keys.secret n) (serviceOptions cfg.audience)
            (nowMs / 1000) <;> rfl

theorem verifyServiceToken_minted (h : m.Sound keys cfg now) (hexp : now < m.exp * second)
    (hbundle : r.bundle = keys.bundle cfg.audience r.version) :
    (verifyServiceToken libs.jose ⟨r.bundle.current, r.bundle.previous⟩ m.token cfg.audience
        (now / 1000)).isSome = true ↔ m.issuer = "bff" ∧ r.Has m := by
  have hverify := jwtVerify_minted libs h hexp
  rw [hbundle, Keys.bundle, verifyServiceToken_eq]
  by_cases hissuer : m.issuer = "bff"
  · simp only [hissuer, and_true] at hverify
    rw [findSome_rotation hverify r.version]
    by_cases hhas : r.version = m.version ∨ r.version = m.version + 1
    · rw [if_pos hhas]
      exact iff_of_true rfl ⟨hissuer, hhas⟩
    · rw [if_neg hhas]
      exact iff_of_false Bool.false_ne_true fun hboth => hhas hboth.2
  · refine iff_of_false ?_ fun hboth => hissuer hboth.1
    rw [Option.not_isSome_iff_eq_none, List.findSome?_eq_none_iff]
    intro secret hsecret
    obtain ⟨n, rfl⟩ : ∃ n, secret = keys.secret n := by
      rcases List.mem_cons.mp hsecret with rfl | hprevious
      · exact ⟨_, rfl⟩
      · cases hversion : r.version with
        | zero => simp [hversion, Keys.previous] at hprevious
        | succ n => exact ⟨n, by simpa [hversion, Keys.previous] using hprevious⟩
    rw [hverify, if_neg fun hboth => hissuer hboth.2]

/-- **When a process takes a token** that has not expired. -/
theorem accepts_iff (libs : TokenLibraries mac) (h : m.Sound keys cfg now)
    (hexp : now < m.exp * second) (hbundle : r.bundle = keys.bundle cfg.audience r.version) (peer : Peer) :
    peer.accepts libs cfg now r m.token = true ↔ peer.Covers now r m := by
  cases peer with
  | authority held reading cache waiting =>
      have hdecode := decodeWithRotation_minted libs h hexp hbundle
      have hrequired := required_of_valid (h.valid hexp)
      have hnow : (worldAt now cache).now = now := rfl
      simp only [Peer.accepts, Peer.Covers, lookUp, Run.bind_apply, Run.get_apply]
      cases hentry : cachedEntry m.token (worldAt now cache) with
      | some entry => simp [Except.toOption]
      | none =>
          simp only [hnow, hdecode]
          by_cases hhas : r.Has m
          · have haud : (claim "aud" m.claims).bind Json.asStr? =
                some (cfg.service r.bundle).audience := by
              rw [h.aud]
              rfl
            simp [hhas, haud, hrequired, Except.toOption]
          · simp [hhas, Except.toOption]
  | bff cache loading returned =>
      exact verifyServiceToken_minted h hexp hbundle

/-! ## §6  Whole runs -/

/-- The readings in a process. -/
def Peer.readings : Peer → List Reading
  | .authority held reading _ _ => held.toList ++ reading.toList
  | .bff cache loading returned =>
      (cache.map Prod.fst).toList ++ loading.map Prod.fst ++ returned

/-- Nobody has anything but rows that the store had. -/
structure State.Inv (keys : Keys mac) (cfg : PeerConfig) (s : State) : Prop where
  row : s.store.getBundle cfg.audience = some (keys.bundle cfg.audience s.rotations)
  readings : ∀ peer ∈ s.peers, ∀ r ∈ peer.readings,
    r.bundle = keys.bundle cfg.audience r.version
  minted : ∀ m ∈ s.minted, m.Sound keys cfg s.now

theorem mem_readings_read {peer peer' : Peer} {startedMs : ℕ}
    (h : peer.read r startedMs = some peer') {r' : Reading} (hr : r' ∈ peer'.readings) :
    r' = r ∨ r' ∈ peer.readings := by
  unfold Peer.read at h
  split at h
  · obtain rfl := Option.some.inj h
    simp only [Peer.readings, Option.toList_some, Option.toList_none, List.append_nil,
      List.mem_append, List.mem_singleton] at hr ⊢
    exact hr.symm
  · cases h
  · obtain rfl := Option.some.inj h
    simp only [Peer.readings, List.map_append, List.map_cons, List.map_nil, List.mem_append,
      List.mem_singleton] at hr ⊢
    tauto

theorem mem_readings_install {peer peer' : Peer} {k : ℕ} (h : peer.install k = some peer')
    {r' : Reading} (hr : r' ∈ peer'.readings) : r' ∈ peer.readings := by
  unfold Peer.install at h
  split at h
  · obtain rfl := Option.some.inj h
    simp only [Peer.readings, Option.toList_some, Option.toList_none, List.append_nil,
      List.mem_append] at hr ⊢
    exact .inr hr
  · cases h
  · rename_i loading returned
    obtain ⟨entry, hentry, rfl⟩ := Option.map_eq_some_iff.mp h
    have hmem : entry.1 ∈ loading.map Prod.fst :=
      List.mem_map_of_mem (List.mem_of_getElem? hentry)
    simp only [Peer.readings, Option.map_some, Option.toList_some, List.mem_append,
      List.mem_singleton] at hr ⊢
    rcases hr with (rfl | hloading) | hreturned | rfl
    · exact .inl (.inr hmem)
    · refine .inl (.inr ?_)
      exact ((List.eraseIdx_sublist loading k).map Prod.fst).subset hloading
    · exact .inr hreturned
    · exact .inl (.inr hmem)

theorem mem_readings_hit {peer peer' : Peer} {nowMs : ℕ} (h : peer.hit nowMs = some peer')
    {r' : Reading} (hr : r' ∈ peer'.readings) : r' ∈ peer.readings := by
  unfold Peer.hit at h
  split at h
  · split at h
    · obtain rfl := Option.some.inj h
      simp only [Peer.readings, Option.map_some, Option.toList_some, List.mem_append,
        List.mem_singleton] at hr ⊢
      tauto
    · cases h
  · cases h

theorem mem_readings_take {peer peer' : Peer} {k : ℕ} {r : Reading}
    (h : peer.take k = some (r, peer')) :
    r ∈ peer.readings ∧ ∀ r' ∈ peer'.readings, r' ∈ peer.readings := by
  unfold Peer.take at h
  split at h
  · cases h
    exact ⟨by simp [Peer.readings], fun _ hr => hr⟩
  · cases h
  · rename_i cache loading returned
    obtain ⟨r', hr', heq⟩ := Option.map_eq_some_iff.mp h
    cases heq
    refine ⟨List.mem_append_right _ (List.mem_of_getElem? hr'), ?_⟩
    intro r'' hr''
    rcases List.mem_append.mp hr'' with hr'' | hr''
    · exact List.mem_append_left _ hr''
    · exact List.mem_append_right _ ((List.eraseIdx_sublist returned k).subset hr'')

theorem readings_verifying {peer : Peer} {token : String} :
    (peer.verifying libs cfg now r token).readings = peer.readings := by
  cases peer with
  | authority held reading cache waiting =>
      unfold Peer.verifying
      dsimp only
      split <;> rfl
  | bff cache loading returned => rfl

theorem readings_verified {peer peer' : Peer} {k : ℕ}
    (h : peer.verified cfg now k = some peer') : peer'.readings = peer.readings := by
  unfold Peer.verified at h
  split at h
  · obtain ⟨call, -, rfl⟩ := Option.map_eq_some_iff.mp h
    rfl
  · cases h

variable {s s' : State} {l : Step}

theorem State.Inv.setPeer (h : s.Inv keys cfg) {i : ℕ} {peer : Peer}
    (hreadings : ∀ r ∈ peer.readings, r.bundle = keys.bundle cfg.audience r.version) :
    (s.setPeer i peer).Inv keys cfg := by
  refine { h with readings := ?_ }
  intro peer' hpeer'
  rcases List.mem_or_eq_of_mem_set hpeer' with hpeer' | rfl
  · exact h.readings peer' hpeer'
  · exact hreadings

theorem State.Inv.taken (h : s.Inv keys cfg) {i k : ℕ} {peer : Peer}
    (htake : s.peers[i]?.bind (Peer.take k) = some (r, peer)) :
    r.bundle = keys.bundle cfg.audience r.version ∧
      ∀ r' ∈ peer.readings, r'.bundle = keys.bundle cfg.audience r'.version := by
  obtain ⟨peer', hpeer', htake⟩ := Option.bind_eq_some_iff.mp htake
  obtain ⟨hr, hsub⟩ := mem_readings_take htake
  have hgood := h.readings peer' (List.mem_of_getElem? hpeer')
  exact ⟨hgood r hr, fun r' hr' => hgood r' (hsub r' hr')⟩

/-- The next version. -/
theorem State.Inv.rotate (h : s.Inv keys cfg) : State.Inv keys cfg { s with
    store := s.store.rotate cfg.audience (keys.secret (s.rotations + 1)) s.now
    rotations := s.rotations + 1 } := by
  refine { h with row := ?_ }
  obtain ⟨row, hrow, hbundle⟩ := Option.map_eq_some_iff.mp h.row
  have hcurrent : row.current = keys.secret s.rotations := congrArg SecretBundle.current hbundle
  rw [SecretStore.getBundle, SecretStore.lookup_rotate, hrow]
  simp only [Option.map_some, hcurrent]
  rfl

/-- A step of the system. -/
theorem State.Inv.step (h : s.Inv keys cfg) (hstep : s.step libs keys cfg l = some s') :
    s'.Inv keys cfg := by
  cases l with
  | rotate =>
      obtain rfl := Option.some.inj hstep
      exact h.rotate
  | read i startedMs =>
      -- a reading is of the row as it is now
      simp only [State.step] at hstep
      split at hstep
      · rename_i peer b hpeer hb
        split at hstep
        · obtain ⟨peer', hread, rfl⟩ := Option.map_eq_some_iff.mp hstep
          refine h.setPeer fun r hr => ?_
          rcases mem_readings_read hread hr with rfl | hr
          · exact Option.some.inj (hb.symm.trans h.row)
          · exact h.readings peer (List.mem_of_getElem? hpeer) r hr
        · cases hstep
      · cases hstep
  | install i k =>
      obtain ⟨peer', hinstall, rfl⟩ := Option.map_eq_some_iff.mp hstep
      obtain ⟨peer, hpeer, hinstall⟩ := Option.bind_eq_some_iff.mp hinstall
      exact h.setPeer fun r hr => h.readings peer (List.mem_of_getElem? hpeer) r
        (mem_readings_install hinstall hr)
  | hit i =>
      obtain ⟨peer', hhit, rfl⟩ := Option.map_eq_some_iff.mp hstep
      obtain ⟨peer, hpeer, hhit⟩ := Option.bind_eq_some_iff.mp hhit
      exact h.setPeer fun r hr => h.readings peer (List.mem_of_getElem? hpeer) r
        (mem_readings_hit hhit hr)
  | mint i k req =>
      obtain ⟨⟨r, peer⟩, htake, hmint⟩ := Option.bind_eq_some_iff.mp hstep
      obtain ⟨m, hm, rfl⟩ := Option.map_eq_some_iff.mp hmint
      obtain ⟨hr, hgood⟩ := h.taken htake
      refine { h.setPeer hgood with minted := ?_ }
      intro m' hm'
      rcases List.mem_cons.mp hm' with rfl | hm'
      · exact (mint_sound hr hm).1
      · exact h.minted m' hm'
  | verify i k token =>
      obtain ⟨⟨r, peer⟩, htake, rfl⟩ := Option.map_eq_some_iff.mp hstep
      obtain ⟨-, hgood⟩ := h.taken htake
      have hset : (s.setPeer i (peer.verifying libs cfg s.now r token)).Inv keys cfg :=
        h.setPeer (by rw [readings_verifying]; exact hgood)
      exact { hset with }
  | verified i k =>
      obtain ⟨peer', hverified, rfl⟩ := Option.map_eq_some_iff.mp hstep
      obtain ⟨peer, hpeer, hverified⟩ := Option.bind_eq_some_iff.mp hverified
      apply h.setPeer
      rw [readings_verified hverified]
      exact h.readings peer (List.mem_of_getElem? hpeer)
  | pass d =>
      obtain rfl := Option.some.inj hstep
      exact { h with minted := fun m hm => (h.minted m hm).later (Nat.le_add_right _ _) }

theorem State.Inv.of_start (h : (peerSystem libs keys cfg).start s) : s.Inv keys cfg := by
  obtain ⟨hrow, hrotations, hminted, -, hpeers⟩ := h
  refine ⟨by rw [hrotations]; exact hrow, ?_, by simp [hminted]⟩
  intro peer hpeer r hr
  rcases hpeers peer hpeer with rfl | rfl
  · simp [Peer.readings] at hr
  · simp [Peer.readings] at hr

/-- The process covers each token that it is asked about. -/
def Overlapping (s : State) : Step → Prop
  | .verify i k token => ∀ r peer, s.peers[i]?.bind (Peer.take k) = some (r, peer) →
      ∀ m ∈ s.minted, m.token = token → s.now < m.exp * second → peer.Covers s.now r m
  | _ => True

/-- Nothing but a call to verify refuses. -/
theorem refused_of_step (hstep : s.step libs keys cfg l = some s')
    (hl : ∀ i k token, l ≠ .verify i k token) : s'.refused = s.refused := by
  cases l with
  | rotate =>
      obtain rfl := Option.some.inj hstep
      rfl
  | read i startedMs =>
      simp only [State.step] at hstep
      split at hstep
      · split at hstep
        · obtain ⟨peer', -, rfl⟩ := Option.map_eq_some_iff.mp hstep
          rfl
        · cases hstep
      · cases hstep
  | install i k =>
      obtain ⟨peer', -, rfl⟩ := Option.map_eq_some_iff.mp hstep
      rfl
  | hit i =>
      obtain ⟨peer', -, rfl⟩ := Option.map_eq_some_iff.mp hstep
      rfl
  | mint i k req =>
      obtain ⟨⟨r, peer⟩, -, hmint⟩ := Option.bind_eq_some_iff.mp hstep
      obtain ⟨m, -, rfl⟩ := Option.map_eq_some_iff.mp hmint
      rfl
  | verify i k token => exact absurd rfl (hl i k token)
  | verified i k =>
      obtain ⟨peer', -, rfl⟩ := Option.map_eq_some_iff.mp hstep
      rfl
  | pass d =>
      obtain rfl := Option.some.inj hstep
      rfl

theorem overlapping_iff (libs : TokenLibraries mac) (hinv : s.Inv keys cfg) (hnone : s.refused = []) :
    Overlapping s l ↔ ∀ s', s.step libs keys cfg l = some s' → s'.refused = [] := by
  -- only a verification can refuse a token
  by_cases hverify : ∃ i k token, l = .verify i k token
  · obtain ⟨i, k, token, rfl⟩ := hverify
    constructor
    · intro hcovers s' hstep
      obtain ⟨⟨r, peer⟩, htake, rfl⟩ := Option.map_eq_some_iff.mp hstep
      dsimp only
      rw [if_pos, hnone]
      cases hdue : s.due token with
      | false => rw [Bool.not_false, Bool.or_true]
      | true =>
          obtain ⟨m, hm, hmatch⟩ := List.any_eq_true.mp hdue
          simp only [Bool.and_eq_true, beq_iff_eq, decide_eq_true_eq] at hmatch
          obtain ⟨rfl, hexp⟩ := hmatch
          have haccepts := (accepts_iff libs (hinv.minted m hm) hexp
            (hinv.taken htake).1 peer).mpr (hcovers r peer htake m hm rfl hexp)
          rw [haccepts, Bool.true_or]
    · rintro hafter r peer htake m hm rfl hexp
      have hrefused := hafter _ (Option.map_eq_some_iff.mpr ⟨(r, peer), htake, rfl⟩)
      dsimp only at hrefused
      have hdue : s.due m.token = true :=
        List.any_eq_true.mpr ⟨m, hm, by simpa using hexp⟩
      rw [hdue, Bool.not_true, Bool.or_false] at hrefused
      refine (accepts_iff libs (hinv.minted m hm) hexp (hinv.taken htake).1 peer).mp ?_
      by_contra hnot
      rw [if_neg hnot] at hrefused
      cases hrefused
  · push Not at hverify
    apply iff_of_true
    · cases l with
      | verify i k token => exact absurd rfl (hverify i k token)
      | _ => trivial
    · intro s' hstep
      rw [refused_of_step hstep hverify, hnone]

/-- **When a rotation is seamless**: no process refuses a token before its expiry just
when every process that is asked has read the row in the version of the minter or in the
next one, or has seen the token before, and the BFF is asked about its own tokens. -/
theorem never_refused_iff {steps : List Step} (hstart : (peerSystem libs keys cfg).start s) :
    (peerSystem libs keys cfg).Throughout (fun s => s.refused = []) s steps ↔
      (peerSystem libs keys cfg).Meets Overlapping s steps := by
  refine System.throughout_iff_meets (I := State.Inv keys cfg) ?_ ?_ (.of_start hstart)
    hstart.2.2.2.1
  · exact fun s l s' hstep h => h.step hstep
  · exact fun s l h hnone => overlapping_iff libs h hnone

end

/-! ## §7  A minter ahead of a verifier -/

def standardLibraries (mac : Mac) : TokenLibraries mac where
  pyjwt := standardPyJwt mac
  jose := standardJose mac
  encode_eq _ _ := rfl
  unsign_eq _ _ _ := rfl
  jwtVerify_eq token secret o now h := by
    have halg : (((Jws.header token).bind (property "alg") |>.bind Json.asStr?) ==
        some "HS256") = true := by
      rw [show _ = some "HS256" from h]
      rfl
    unfold standardJose tokenClaims
    dsimp only
    cases hpayload : Jws.payload token with
    | none => simp
    | some j =>
        cases j with
        | obj claims =>
            cases hsigned : Jws.signedBy mac token secret with
            | true => simp [halg, Json.asObj?, Option.filter]
            | false => simp
        | _ => simp [Json.asObj?]

theorem utf8_injective {s t : String} (h : utf8 s = utf8 t) : s = t := by
  have htext := congrArg ofUtf8 h
  rw [ofUtf8_utf8, ofUtf8_utf8] at htext
  exact Option.some.inj htext

/-- Secrets for examples: `k`, `kk`, and so on. -/
def sampleKeys : Keys joinMac where
  secret n := String.ofList (List.replicate (n + 1) 'k')
  nonempty n h := by
    have hlist := congrArg String.toList h
    rw [String.toList_ofList] at hlist
    cases hlist
  separate n k message h := by
    have hsecret := utf8_injective (List.append_cancel_right h)
    have hlist := congrArg String.toList hsecret
    rw [String.toList_ofList, String.toList_ofList] at hlist
    have hlength := congrArg List.length hlist
    simpa using hlength

def sampleConfig : PeerConfig := ⟨"worker", true, defaultTtlSec, defaultLeewaySec⟩

/-- Two authorities that have read nothing. -/
def twoPeers : State where
  now := 0
  store := SecretStore.seed "worker" (sampleKeys.secret 0) 0 ∅
  rotations := 0
  peers := [.authority none none [] [], .authority none none [] []]
  minted := []
  refused := []

theorem twoPeers_start (libs : TokenLibraries joinMac) :
    (peerSystem libs sampleKeys sampleConfig).start twoPeers := by
  refine ⟨rfl, rfl, rfl, rfl, ?_⟩
  intro peer hpeer
  rcases List.mem_cons.mp hpeer with rfl | hpeer
  · exact .inl rfl
  · exact .inl (List.mem_singleton.mp hpeer)

/-- Both read the row before and after a rotation. -/
def readTwice : List Step :=
  [.read 0 0, .install 0 0, .read 1 0, .install 1 0, .rotate, .read 0 0, .install 0 0,
    .read 1 0, .install 1 0]

theorem never_refused_iff_two :
    (peerSystem (standardLibraries joinMac) sampleKeys sampleConfig).Throughout
        (fun s => s.refused = []) twoPeers readTwice ↔
      (peerSystem (standardLibraries joinMac) sampleKeys sampleConfig).Meets Overlapping
        twoPeers readTwice :=
  never_refused_iff (twoPeers_start _)

/-- No process is more than one version behind when it mints or verifies, and no rotation
falls into the life of a token. -/
def Provided (s : State) : Step → Prop
  | .rotate => ∀ m ∈ s.minted, m.exp * second ≤ s.now
  | .mint i k _ => ∀ r peer, s.peers[i]?.bind (Peer.take k) = some (r, peer) →
      s.rotations ≤ r.version + 1
  | .verify i k _ => ∀ r peer, s.peers[i]?.bind (Peer.take k) = some (r, peer) →
      s.rotations ≤ r.version + 1
  | _ => True

def sampleReading (n : ℕ) : Reading := ⟨sampleKeys.bundle "worker" n, n⟩

def sampleRequest : MintRequest := ⟨"u1", "acme", none, none, "j1"⟩

/-- The store has been rotated once, and the first process has read it again. -/
def oneAhead : State where
  now := 0
  store := (SecretStore.seed "worker" (sampleKeys.secret 0) 0 ∅).rotate "worker"
    (sampleKeys.secret 1) 0
  rotations := 1
  peers := [.authority (some (sampleReading 1)) none [] [],
    .authority (some (sampleReading 0)) none [] []]
  minted := []
  refused := []

theorem oneAhead_reached (libs : TokenLibraries joinMac) :
    (peerSystem libs sampleKeys sampleConfig).Reached Provided oneAhead := by
  have h0 := System.Reached.start (C := Provided) (twoPeers_start libs)
  have h1 := h0.step (a := Step.read 0 0) (by trivial) rfl
  have h2 := h1.step (a := Step.install 0 0) (by trivial) rfl
  have h3 := h2.step (a := Step.read 1 0) (by trivial) rfl
  have h4 := h3.step (a := Step.install 1 0) (by trivial) rfl
  have h5 := h4.step (a := Step.rotate) (fun m hm => by cases hm) rfl
  have h6 := h5.step (a := Step.read 0 0) (by trivial) rfl
  exact h6.step (a := Step.install 0 0) (by trivial) rfl

/-- It has minted a token. -/
def aheadMinted (libs : TokenLibraries joinMac) : State :=
  { oneAhead with minted := [pyMinted libs sampleConfig 0 (sampleReading 1) sampleRequest] }

theorem aheadMinted_reached (libs : TokenLibraries joinMac) :
    (peerSystem libs sampleKeys sampleConfig).Reached Provided (aheadMinted libs) := by
  refine (oneAhead_reached libs).step (a := Step.mint 0 0 sampleRequest) ?_ ?_
  · rintro r peer htake
    cases htake
    decide
  · have htake : oneAhead.peers[0]?.bind (Peer.take 0) =
        some (sampleReading 1, .authority (some (sampleReading 1)) none [] []) := rfl
    have hmint := mint_authority libs sampleConfig 0 (sampleReading 1) rfl
      (some (sampleReading 1)) none [] [] sampleRequest
    have hnow : oneAhead.now = 0 := rfl
    simp only [peerSystem, State.step, htake, Option.bind_some, hnow, hmint, Option.map_some]
    rfl

/-- The other process does not have the secret. -/
theorem verifier_behind (libs : TokenLibraries joinMac) :
    ¬ ∀ s, (peerSystem libs sampleKeys sampleConfig).Reached Provided s → s.refused = [] := by
  intro hall
  have hreached := aheadMinted_reached libs
  have hinv : (aheadMinted libs).Inv sampleKeys sampleConfig :=
    hreached.invariant (fun _ h => .of_start h) fun _ _ _ h _ hstep => h.step hstep
  obtain ⟨m, hm⟩ : ∃ m, m = pyMinted libs sampleConfig 0 (sampleReading 1) sampleRequest :=
    ⟨_, rfl⟩
  have hmem : m ∈ (aheadMinted libs).minted := by
    rw [hm]
    exact List.mem_cons_self
  have hexp : (aheadMinted libs).now < m.exp * second := by
    rw [hm]
    show 0 < (0 / second + defaultTtlSec) * second
    decide
  have hprovided : Provided (aheadMinted libs) (.verify 1 0 m.token) := by
    rintro r peer htake
    cases htake
    exact le_rfl
  have hcovers : Overlapping (aheadMinted libs) (.verify 1 0 m.token) :=
    (overlapping_iff libs hinv rfl).mpr fun s' hstep =>
      hall s' (hreached.step hprovided hstep)
  rcases hcovers _ _ rfl m hmem rfl hexp with hcached | hhas
  · cases hcached
  · rw [hm] at hhas
    rcases hhas with hsame | hnext
    · cases hsame
    · cases hnext

theorem verifier_behind_refuses :
    ¬ ∀ s, (peerSystem (standardLibraries joinMac) sampleKeys sampleConfig).Reached
      Provided s → s.refused = [] :=
  verifier_behind (standardLibraries joinMac)

end AlertTriage.Peers
