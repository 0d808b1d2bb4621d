import AlertTriage.Library.Async
import AlertTriage.Library.Base64
import AlertTriage.Library.RedisGlob
import AlertTriage.Library.Transition
import AlertTriage.Library.TtlStore

/-!
# `frontend/lib/session.ts`

The session store of the BFF in Redis: one record for each user, an index from a
family of refresh tokens to its user, and one key for each refresh token that may
still be used. A refresh takes the key of the old token away and writes that of a
new one; a token that is not there any more burns its family.

The functions are programs that await single Redis commands. `randomBytes` and the
clock are calls as well, so that what they give is up to the environment.

§1 keys and values, §2 the calls, §3 the functions, §4 runs.
-/

namespace AlertTriage.Auth

open Library

/-! ## §1  Keys and values -/

structure SessionRecord where
  user_id : String
  tenant_id : String
  role : Option String
  family_id : String
  refresh_jti : String
  ip : Option String
  ua : Option String
  last_seen_epoch : ℕ
deriving DecidableEq, Repr

/-- A value in Redis: a record, which the source writes as JSON, or a text. -/
inductive Stored where
  | record (r : SessionRecord)
  | text (s : String)
deriving DecidableEq, Repr

def sessionKey (userId : String) : String := "session:" ++ userId

def refreshKey (family jti : String) : String := "refresh:" ++ (family ++ ":" ++ jti)

def familyIndexKey (family : String) : String := "family_index:" ++ family

def revokedJtiKey (jti : String) : String := "revoked_jti:" ++ jti

@[simp] theorem sessionKey_inj {u v : String} : sessionKey u = sessionKey v ↔ u = v :=
  String.append_right_inj _

@[simp] theorem familyIndexKey_inj {f g : String} :
    familyIndexKey f = familyIndexKey g ↔ f = g :=
  String.append_right_inj _

@[simp] theorem sessionKey_ne_refreshKey (u f j : String) :
    sessionKey u ≠ refreshKey f j := by
  intro h
  simpa [sessionKey, refreshKey] using congrArg String.toList h

@[simp] theorem sessionKey_ne_familyIndexKey (u f : String) :
    sessionKey u ≠ familyIndexKey f := by
  intro h
  simpa [sessionKey, familyIndexKey] using congrArg String.toList h

@[simp] theorem refreshKey_ne_familyIndexKey (f j g : String) :
    refreshKey f j ≠ familyIndexKey g := by
  intro h
  simpa [refreshKey, familyIndexKey] using congrArg String.toList h

@[simp] theorem refreshKey_ne_sessionKey (f j u : String) :
    refreshKey f j ≠ sessionKey u :=
  (sessionKey_ne_refreshKey u f j).symm

@[simp] theorem familyIndexKey_ne_sessionKey (f u : String) :
    familyIndexKey f ≠ sessionKey u :=
  (sessionKey_ne_familyIndexKey u f).symm

@[simp] theorem familyIndexKey_ne_refreshKey (g f j : String) :
    familyIndexKey g ≠ refreshKey f j :=
  (refreshKey_ne_familyIndexKey f j g).symm

/-- The last colon is where a text without colons begins. -/
theorem cut_last {f g j k : List Char} (hj : ':' ∉ j) (hk : ':' ∉ k)
    (h : f ++ ':' :: j = g ++ ':' :: k) : f = g ∧ j = k := by
  induction f generalizing g with
  | nil =>
      cases g with
      | nil => exact ⟨rfl, (List.cons.inj h).2⟩
      | cons c g =>
          obtain ⟨-, hg⟩ := List.cons.inj h
          exact absurd (hg ▸ List.mem_append_right g List.mem_cons_self) hj
  | cons c f ih =>
      cases g with
      | nil =>
          obtain ⟨-, hf⟩ := List.cons.inj h
          exact absurd (hf ▸ List.mem_append_right f List.mem_cons_self) hk
      | cons d g =>
          obtain ⟨rfl, hrest⟩ := List.cons.inj h
          obtain ⟨rfl, rfl⟩ := ih hrest
          exact ⟨rfl, rfl⟩

theorem refreshKey_inj {f g j k : String} (hj : ':' ∉ j.toList) (hk : ':' ∉ k.toList)
    (h : refreshKey f j = refreshKey g k) : f = g ∧ j = k := by
  have hcut : f.toList ++ ':' :: j.toList = g.toList ++ ':' :: k.toList := by
    simpa [refreshKey] using congrArg String.toList h
  obtain ⟨hf, hjk⟩ := cut_last hj hk hcut
  exact ⟨String.toList_injective hf, String.toList_injective hjk⟩

/-- What `randomBytes(16)` gives. -/
abbrev RandomBytes : Type := {bytes : List UInt8 // bytes.length = 16}

/-- `randomBytes(16).toString("base64url")`. -/
def newId (bytes : RandomBytes) : String := String.ofList (Base64.urlEncode bytes.1)

theorem newId_ne_empty (bytes : RandomBytes) : newId bytes ≠ "" := by
  intro h
  have hnil : Base64.urlEncode bytes.1 = [] := by
    simpa [newId] using congrArg String.toList h
  obtain ⟨bs, hlength⟩ := bytes
  rcases bs with _ | ⟨a, _ | ⟨b, _ | ⟨c, rest⟩⟩⟩
  · cases hlength
  · cases hlength
  · cases hlength
  · cases hnil

theorem newId_plain {bytes : RandomBytes} {c : Char} (h : c ∈ (newId bytes).toList) :
    c ≠ ':' ∧ c ≠ '.' ∧ Glob.isLiteral c = true := by
  rw [newId, String.toList_ofList] at h
  obtain ⟨n, hn, rfl⟩ := List.mem_map.mp h
  have hall : ∀ n < 64, Base64.urlChar n ≠ ':' ∧ Base64.urlChar n ≠ '.' ∧
      Glob.isLiteral (Base64.urlChar n) = true := by decide
  exact hall n (Base64.lt_of_mem_sextets hn)

theorem colon_notMem_newId (bytes : RandomBytes) : ':' ∉ (newId bytes).toList := by
  intro h
  exact (newId_plain h).1 rfl

/-! ## §2  Calls -/

structure Config where
  accessTokenTtlSeconds : ℕ
  refreshTokenTtlSeconds : ℕ
  access_pos : 0 < accessTokenTtlSeconds
  refresh_pos : 0 < refreshTokenTtlSeconds

/-- `intOr`'s fallbacks. -/
def Config.default : Config := ⟨15 * 60, 7 * 24 * 60 * 60, by decide, by decide⟩

inductive Call where
  | newId
  | dateNow
  | get (key : String)
  | set (key : String) (value : Stored)
  | setEx (key : String) (value : Stored) (ttlSeconds : ℕ)
  | del (keys : List String)
  /-- The start of a `scanStream`; its reply is how many `SCAN`s it will take. -/
  | scanStream (pattern : String)
  | scan (pattern : String)
deriving DecidableEq, Repr

def Call.Reply : Call → Type
  | .newId => String
  | .dateNow => ℕ
  | .get _ => Option Stored
  | .set _ _ => Unit
  | .setEx _ _ _ => Unit
  | .del _ => ℕ
  | .scanStream _ => ℕ
  | .scan _ => List String

abbrev Task : Type → Type := Async Call Call.Reply

def makeId : Task String := Async.await Call.newId

/-- `Math.floor(Date.now() / 1000)`. -/
def epochSeconds : Task ℕ := Async.await Call.dateNow

def redis.get (key : String) : Task (Option Stored) := Async.await (Call.get key)

def redis.set (key : String) (value : Stored) : Task Unit :=
  Async.await (Call.set key value)

def redis.setEx (key : String) (value : Stored) (ttlSeconds : ℕ) : Task Unit :=
  Async.await (Call.setEx key value ttlSeconds)

def redis.del (keys : List String) : Task ℕ := Async.await (Call.del keys)

def redis.scanStream (pattern : String) : Task ℕ := Async.await (Call.scanStream pattern)

def redis.scan (pattern : String) : Task (List String) := Async.await (Call.scan pattern)

structure Redis where
  clock : ℕ
  store : TtlStore Stored

/-- What the environment decides about a call. -/
structure Environment where
  bytes : RandomBytes
  batches : ℕ
  keys : List String
deriving DecidableEq, Repr

def Redis.get (r : Redis) (key : String) : Option Stored := r.store.get r.clock key

def Redis.del (r : Redis) (keys : List String) : Redis :=
  { r with store := r.store.removeAll keys }

def Redis.pass (r : Redis) (d : ℕ) : Redis := { r with clock := r.clock + d }

/-- A `SCAN` brings keys that are there and match. -/
def answer (env : Environment) : Async.Handler Call Call.Reply Redis
  | .newId, r => (Auth.newId env.bytes, r)
  | .dateNow, r => (r.clock / second, r)
  | .get key, r => (r.get key, r)
  | .set key value, r => ((), { r with store := r.store.set key value })
  | .setEx key value ttlSeconds, r =>
      ((), { r with store := r.store.setEx r.clock key value (ttlSeconds * second) })
  | .del keys, r =>
      ((keys.dedup.filter fun key => (r.get key).isSome).length, r.del keys)
  | .scanStream _, r => (env.batches, r)
  | .scan pattern, r =>
      (env.keys.filter fun key => Glob.globMatch pattern key && (r.get key).isSome, r)

/-! ## §3  The functions -/

section Functions

variable (cfg : Config)

structure Login where
  userId : String
  tenantId : String
  role : Option String
  ip : Option String
  ua : Option String
deriving DecidableEq, Repr

structure Started where
  refreshToken : String
  familyId : String
deriving DecidableEq, Repr

def startSession (args : Login) : Task Started := do
  let familyId ← makeId
  let refreshJti ← makeId
  let now ← epochSeconds
  let record : SessionRecord :=
    { user_id := args.userId
      tenant_id := args.tenantId
      role := args.role
      family_id := familyId
      refresh_jti := refreshJti
      ip := args.ip
      ua := args.ua
      last_seen_epoch := now }
  redis.set (sessionKey args.userId) (.record record)
  redis.setEx (familyIndexKey familyId) (.text args.userId)
    cfg.refreshTokenTtlSeconds
  redis.setEx (refreshKey familyId refreshJti) (.text "1")
    cfg.refreshTokenTtlSeconds
  pure ⟨familyId ++ "." ++ refreshJti, familyId⟩

inductive Failure where
  | missing
  | reused
  | expired
  | user_unknown
deriving DecidableEq, Repr

inductive RefreshResult where
  | ok (session : SessionRecord) (newRefreshToken : String)
  | failed (reason : Failure)
deriving DecidableEq, Repr

def RefreshResult.isOk : RefreshResult → Bool
  | .ok _ _ => true
  | .failed _ => false

/-- One round of the `for await` over the stream. -/
def burnBatches (pattern : String) : ℕ → Task Unit
  | 0 => pure ()
  | n + 1 => do
      let keys ← redis.scan pattern
      if keys = [] then burnBatches pattern n
      else do
        let _ ← redis.del keys
        burnBatches pattern n

def burnFamily (familyId : String) : Task Unit := do
  let _ ← redis.del [familyIndexKey familyId]
  let batches : ℕ ← redis.scanStream (refreshKey familyId "*")
  burnBatches (refreshKey familyId "*") batches

def findUserIdByFamily (familyId : String) : Task (Option String) := do
  let value ← redis.get (familyIndexKey familyId)
  match value with
  | some (.text userId) => pure (some userId)
  | _ => pure none

/-- `refreshToken.split(".")`, if the first two parts are not empty. -/
def splitToken (refreshToken : String) : Option (String × String) :=
  match refreshToken.toList.splitOn '.' with
  | familyId :: oldJti :: _ =>
      if familyId = [] ∨ oldJti = [] then none
      else some (String.ofList familyId, String.ofList oldJti)
  | _ => none

/-- The end of a rotation: a new token of the family. -/
def reissue (familyId sessionUserId : String) (session : SessionRecord) :
    Task RefreshResult := do
  let newJti ← makeId
  let now ← epochSeconds
  let session := { session with refresh_jti := newJti, last_seen_epoch := now }
  redis.set (sessionKey sessionUserId) (.record session)
  redis.setEx (refreshKey familyId newJti) (.text "1")
    cfg.refreshTokenTtlSeconds
  pure (.ok session (familyId ++ "." ++ newJti))

/-- The rotation once the old token is consumed. -/
def afterConsume (familyId oldJti : String) : Task RefreshResult := do
  let sessionUserId ← findUserIdByFamily familyId
  match sessionUserId with
  | none => pure (.failed .user_unknown)
  | some sessionUserId =>
      if sessionUserId = "" then pure (.failed .user_unknown)
      else do
        let value ← redis.get (sessionKey sessionUserId)
        match value with
        | none => pure (.failed .expired)
        | some (.record session) =>
            if session.family_id ≠ familyId ∨ session.refresh_jti ≠ oldJti then do
              burnFamily familyId
              pure (.failed .reused)
            else reissue cfg familyId sessionUserId session
        | some (.text _) => do
            burnFamily familyId
            pure (.failed .reused)

def rotateRefresh (refreshToken : String) : Task RefreshResult :=
  match splitToken refreshToken with
  | none => pure (.failed .missing)
  | some (familyId, oldJti) => do
      let consumed : ℕ ← redis.del [refreshKey familyId oldJti]
      if consumed = 0 then do
        burnFamily familyId
        pure (.failed .reused)
      else afterConsume cfg familyId oldJti

def endSession (userId : String) : Task (Option SessionRecord) := do
  let value ← redis.get (sessionKey userId)
  match value with
  | some (.record session) => do
      -- `Promise.all`: the second goes on even if the first fails
      let deleted ← (redis.del [sessionKey userId]).attempt
      let burnt ← (burnFamily session.family_id).attempt
      match deleted, burnt with
      | some _, some _ => pure (some session)
      | _, _ => .raise
  | some (.text _) => .raise
  | none => pure none

end Functions

/-! ## §4  Runs -/

inductive Operation where
  | startSession (args : Login)
  | rotateRefresh (refreshToken : String)
  | endSession (userId : String)
deriving DecidableEq, Repr

inductive Result where
  | started (s : Started)
  | rotated (r : RefreshResult)
  | ended (s : Option SessionRecord)
deriving DecidableEq, Repr

def Operation.program (cfg : Config) : Operation → Task Result
  | .startSession args => do
      let s ← Auth.startSession cfg args
      pure (.started s)
  | .rotateRefresh refreshToken => do
      let r ← Auth.rotateRefresh cfg refreshToken
      pure (.rotated r)
  | .endSession userId => do
      let s ← Auth.endSession userId
      pure (.ended s)

/-- Redis, and every call begun with what is left of its program. -/
structure Fleet where
  redis : Redis
  /-- What `newId` has given so far. -/
  ids : List String
  /-- The keys that have been written with a lifetime. -/
  written : List String
  /-- The keys that a `DEL` of one key has found. -/
  consumed : List String
  tasks : List (Operation × Task Result)

def Fleet.start : Fleet := ⟨⟨0, ∅⟩, [], [], [], []⟩

inductive Label where
  | begin (op : Operation)
  | advance (i : ℕ) (o : Outcome) (env : Environment)
  | pass (d : ℕ)
deriving DecidableEq, Repr

/-- An id is new whenever one is made. -/
def admits (ids : List String) (env : Environment) (x : Task Result) : Bool :=
  match x.awaited with
  | some .newId => !ids.contains (newId env.bytes)
  | _ => true

def idsOf (env : Environment) (x : Task Result) : List String :=
  match x.awaited with
  | some .newId => [newId env.bytes]
  | _ => []

def writtenBy (x : Task Result) : List String :=
  match x.awaited with
  | some (.setEx key _ _) => [key]
  | _ => []

def consumedBy (r : Redis) (x : Task Result) : List String :=
  match x.awaited with
  | some (.del [key]) => if (r.get key).isSome then [key] else []
  | _ => []

/-- A task goes on by one call. -/
def Fleet.advance (s : Fleet) (i : ℕ) (o : Outcome) (env : Environment)
    (op : Operation) (x : Task Result) : Fleet :=
  let next := x.resume (answer env) o s.redis
  { redis := next.2
    ids := s.ids ++ idsOf env x
    written := s.written ++ if o.applied then writtenBy x else []
    consumed := s.consumed ++ if o.applied then consumedBy s.redis x else []
    tasks := s.tasks.set i (op, next.1) }

def Fleet.step (cfg : Config) (s : Fleet) : Label → Option Fleet
  | .begin op => some { s with tasks := s.tasks ++ [(op, op.program cfg)] }
  | .advance i o env =>
      match s.tasks[i]? with
      | some (op, x) => if admits s.ids env x then some (s.advance i o env op x) else none
      | none => none
  | .pass d => some { s with redis := s.redis.pass d }

def fleetSystem (cfg : Config) : System Fleet Label where
  start := (· = Fleet.start)
  step := Fleet.step cfg

theorem step_cases {cfg : Config} {s s' : Fleet} {l : Label} (h : s.step cfg l = some s') :
    (∃ op, l = .begin op ∧ s' = { s with tasks := s.tasks ++ [(op, op.program cfg)] }) ∨
    (∃ i o env op x, l = .advance i o env ∧ s.tasks[i]? = some (op, x) ∧
      admits s.ids env x = true ∧ s' = s.advance i o env op x) ∨
    ∃ d, l = .pass d ∧ s' = { s with redis := s.redis.pass d } := by
  cases l with
  | begin op => exact .inl ⟨op, rfl, (Option.some.inj h).symm⟩
  | pass d => exact .inr (.inr ⟨d, rfl, (Option.some.inj h).symm⟩)
  | advance i o env =>
      simp only [Fleet.step] at h
      split at h
      · rename_i op x hi
        split at h
        · rename_i hadmits
          exact .inr (.inl ⟨i, o, env, op, x, rfl, hi, hadmits, (Option.some.inj h).symm⟩)
        · cases h
      · cases h

end AlertTriage.Auth
