import AlertTriage.Library.Async
import AlertTriage.Library.RedisCollections

/-!
# The watcher registry

Which durable objects watch which alerts, in Redis: a hash of metadata per
object, the objects of an alert, the objects of a user and the alerts of an
object, every one a key of its own with its own lifetime.

A function of the registry is a program that awaits Redis calls. Reads are
single commands; every write is one of four `MULTI` blocks (`Transaction`), so
what a step can do to the store is one of these or nothing.
-/

namespace AlertTriage.Bff

open Library

/-! ## §1  Keys -/

def k.meta (doId : String) : String := "watcher_meta:" ++ doId

def k.alert (tenantId alertId : String) : String :=
  "alert_watchers:" ++ (tenantId ++ ":" ++ alertId)

def k.user (tenantId userId : String) : String :=
  "user_dos:" ++ (tenantId ++ ":" ++ userId)

def k.doAlerts (doId : String) : String := "do_alerts:" ++ doId

/-- The keys that hold hashes. -/
def IsMetaKey (key : String) : Prop := "watcher_meta:".toList <+: key.toList

@[simp] theorem isMetaKey_meta (d : String) : IsMetaKey (k.meta d) := by
  simp [IsMetaKey, k.meta]

@[simp] theorem not_isMetaKey_alert (t a : String) : ¬ IsMetaKey (k.alert t a) := by
  simp [IsMetaKey, k.alert]

@[simp] theorem not_isMetaKey_user (t u : String) : ¬ IsMetaKey (k.user t u) := by
  simp [IsMetaKey, k.user]

@[simp] theorem not_isMetaKey_doAlerts (d : String) : ¬ IsMetaKey (k.doAlerts d) := by
  simp [IsMetaKey, k.doAlerts]

@[simp] theorem meta_inj {d d' : String} : k.meta d = k.meta d' ↔ d = d' :=
  String.append_right_inj _

@[simp] theorem meta_ne_alert (d t a : String) : k.meta d ≠ k.alert t a := by
  intro h
  exact not_isMetaKey_alert t a (h ▸ isMetaKey_meta d)

@[simp] theorem meta_ne_user (d t u : String) : k.meta d ≠ k.user t u := by
  intro h
  exact not_isMetaKey_user t u (h ▸ isMetaKey_meta d)

@[simp] theorem meta_ne_doAlerts (d d' : String) : k.meta d ≠ k.doAlerts d' := by
  intro h
  exact not_isMetaKey_doAlerts d' (h ▸ isMetaKey_meta d)

@[simp] theorem alert_ne_user (t a t' u : String) : k.alert t a ≠ k.user t' u := by
  intro h
  simpa [k.alert, k.user] using congrArg String.toList h

@[simp] theorem alert_ne_doAlerts (t a d : String) : k.alert t a ≠ k.doAlerts d := by
  intro h
  simpa [k.alert, k.doAlerts] using congrArg String.toList h

@[simp] theorem user_ne_doAlerts (t u d : String) : k.user t u ≠ k.doAlerts d := by
  intro h
  simpa [k.user, k.doAlerts] using congrArg String.toList h

@[simp] theorem alert_ne_meta (t a d : String) : k.alert t a ≠ k.meta d :=
  (meta_ne_alert d t a).symm

@[simp] theorem user_ne_meta (t u d : String) : k.user t u ≠ k.meta d :=
  (meta_ne_user d t u).symm

@[simp] theorem user_ne_alert (t' u t a : String) : k.user t' u ≠ k.alert t a :=
  (alert_ne_user t a t' u).symm

/-! ## §2  The calls of the server -/

/-- `DEFAULT_TTL_SEC`. -/
def defaultTtlSec : ℕ := 10 * 60

structure WatcherMeta where
  do_id : String
  user_id : String
  tenant_id : String
  push_url : String
  last_seen_epoch : Option ℕ
deriving DecidableEq, Repr

/-- The `MULTI` blocks of the module, with what the program has put in them. -/
inductive Transaction where
  | registerWatch (doId userId tenantId alertId pushUrl : String) (ttl now : ℕ)
  | deregisterWatch (tenantId : Option String) (doId alertId : String)
  | deregisterDo (doId : String) (info : WatcherMeta) (alertIds : List String)
  | refreshTtl (doId alertId tenantId : String) (ttlSeconds now : ℕ)
deriving DecidableEq, Repr

def Transaction.commands : Transaction → List Keyspace.Command
  | .registerWatch doId userId tenantId alertId pushUrl ttl now =>
      [.hset (k.meta doId)
        [("user_id", userId), ("tenant_id", tenantId), ("push_url", pushUrl),
          ("last_seen_epoch", toString now)],
        .expire (k.meta doId) ttl,
        .sadd (k.alert tenantId alertId) doId,
        .expire (k.alert tenantId alertId) ttl,
        .sadd (k.user tenantId userId) doId,
        .expire (k.user tenantId userId) ttl,
        .sadd (k.doAlerts doId) alertId,
        .expire (k.doAlerts doId) ttl]
  | .deregisterWatch tenantId doId alertId =>
      -- an empty tenant is as good as none to the `if`
      (match tenantId.filter (· ≠ "") with
        | some tenantId => [.srem (k.alert tenantId alertId) doId]
        | none => []) ++
        [.srem (k.doAlerts doId) alertId]
  | .deregisterDo doId info alertIds =>
      alertIds.map (fun alertId => .srem (k.alert info.tenant_id alertId) doId) ++
        [.srem (k.user info.tenant_id info.user_id) doId, .del (k.meta doId),
          .del (k.doAlerts doId)]
  | .refreshTtl doId alertId tenantId ttlSeconds now =>
      [.expire (k.meta doId) ttlSeconds,
        .expire (k.alert tenantId alertId) ttlSeconds,
        .expire (k.doAlerts doId) ttlSeconds,
        .hset (k.meta doId) [("last_seen_epoch", toString now)]]

/-- What the programs of the server await: the Redis calls of the registry, the
clock of the process, the signing of a token, a request and a timer. -/
inductive Call where
  | hgetall (key : String)
  | smembers (key : String)
  | exec (block : Transaction)
  | dateNow
  | mintServiceToken (userId tenantId : String)
  | fetch (url token : String) (body : Json)
  | setTimeout (ms : ℕ)

def Call.Reply : Call → Type
  | .hgetall _ => List (String × String)
  | .smembers _ => List String
  | .exec _ => Unit
  | .dateNow => ℕ
  | .mintServiceToken _ _ => String
  | .fetch _ _ _ => ℕ
  | .setTimeout _ => Unit

abbrev Task (α : Type) : Type := Async Call Call.Reply α

def hgetall (key : String) : Task (List (String × String)) :=
  Async.await (Call.hgetall key)

def smembers (key : String) : Task (List String) :=
  Async.await (Call.smembers key)

def exec (block : Transaction) : Task Unit := Async.await (Call.exec block)

/-- `Math.floor(Date.now() / 1000)`. -/
def epochSeconds : Task ℕ := Async.await Call.dateNow

/-! ## §3  Register and deregister -/

/-- `parseInt(s, 10)` of a text that starts with digits; nothing for `NaN`. -/
def parseInt (s : String) : Option ℕ :=
  match s.toList.takeWhile Char.isDigit with
  | [] => none
  | ds => some (ds.foldl (fun n c => 10 * n + (c.toNat - '0'.toNat)) 0)

/-- The metadata in a hash, nothing if it has no fields. -/
def WatcherMeta.ofHash (doId : String) (h : List (String × String)) :
    Option WatcherMeta :=
  if h = [] then none
  else some
    { do_id := doId
      user_id := (Json.lookup "user_id" h).getD ""
      tenant_id := (Json.lookup "tenant_id" h).getD ""
      push_url := (Json.lookup "push_url" h).getD ""
      last_seen_epoch := parseInt ((Json.lookup "last_seen_epoch" h).getD "0") }

def getMeta (doId : String) : Task (Option WatcherMeta) := do
  let h ← hgetall (k.meta doId)
  pure (WatcherMeta.ofHash doId h)

def registerWatch (doId userId tenantId alertId pushUrl : String)
    (ttlSeconds : Option ℕ) : Task Unit := do
  let now ← epochSeconds
  exec (.registerWatch doId userId tenantId alertId pushUrl
    (ttlSeconds.getD defaultTtlSec) now)

def deregisterWatch (doId alertId : String) (tenantId : Option String) :
    Task Unit := do
  let tenantId ← match tenantId with
    | some tenantId => pure (some tenantId)
    | none => do
        let info ← getMeta doId
        pure (info.map WatcherMeta.tenant_id)
  exec (.deregisterWatch tenantId doId alertId)

def deregisterDo (doId : String) : Task Unit := do
  match ← getMeta doId with
  | none => pure ()
  | some info =>
      let alertIds ← smembers (k.doAlerts doId)
      exec (.deregisterDo doId info alertIds)

def pruneDoEverywhere (doId : String) : Task Unit := deregisterDo doId

/-! ## §4  Lookups and refresh -/

/-- `Promise.all(doIds.map(getMeta))`: the reads go out in order on one
connection. -/
def getMetas : List String → Task (List (Option WatcherMeta))
  | [] => pure []
  | doId :: doIds => do
      let info ← getMeta doId
      let infos ← getMetas doIds
      pure (info :: infos)

/-- The lookup of both indices. -/
def watchersUnder (key : String) : Task (List WatcherMeta) := do
  let doIds ← smembers key
  if doIds = [] then pure []
  else do
    let metas ← getMetas doIds
    pure (metas.filterMap id)

def watchersForAlert (tenantId alertId : String) : Task (List WatcherMeta) :=
  watchersUnder (k.alert tenantId alertId)

def dosForUser (tenantId userId : String) : Task (List WatcherMeta) :=
  watchersUnder (k.user tenantId userId)

def refreshTtl (doId alertId tenantId : String) (ttlSeconds : Option ℕ) :
    Task Unit := do
  let now ← epochSeconds
  exec (.refreshTtl doId alertId tenantId
    (ttlSeconds.getD defaultTtlSec) now)

/-! ## §5  The store -/

/-- The Redis server, as far as the registry goes. -/
structure Registry where
  clock : ℕ
  store : Keyspace

namespace Registry

def empty : Registry := ⟨0, ∅⟩

def members (r : Registry) (key : String) : List String :=
  Keyspace.smembers r.clock key r.store

def fields (r : Registry) (doId : String) : List (String × String) :=
  Keyspace.hgetall r.clock (k.meta doId) r.store

/-- What `getMeta` finds at this moment. -/
def infoOf (r : Registry) (doId : String) : Option WatcherMeta :=
  WatcherMeta.ofHash doId (r.fields doId)

def apply (r : Registry) (block : Transaction) : Registry :=
  { r with store := Keyspace.multi r.clock block.commands r.store }

def pass (r : Registry) (d : ℕ) : Registry := { r with clock := r.clock + d }

end Registry

/-- What the server is told from outside: its clock, a token, a status. -/
structure Environment where
  epoch : ℕ
  token : String
  status : ℕ

/-- The answers to the calls. -/
def answer (env : Environment) : Async.Handler Call Call.Reply Registry
  | .hgetall key, r => (Keyspace.hgetall r.clock key r.store, r)
  | .smembers key, r => (r.members key, r)
  | .exec block, r => ((), r.apply block)
  | .dateNow, r => (env.epoch, r)
  | .mintServiceToken _ _, r => (env.token, r)
  | .fetch _ _ _, r => (env.status, r)
  | .setTimeout _, r => ((), r)

variable (env : Environment) (r : Registry)

theorem getMeta_run (d : String) :
    (getMeta d).run (answer env) r = (some (r.infoOf d), r) := rfl

theorem getMetas_run (ds : List String) :
    (getMetas ds).run (answer env) r = (some (ds.map r.infoOf), r) := by
  induction ds with
  | nil => rfl
  | cons d ds ih =>
      rw [getMetas, Async.run_bind, getMeta_run]
      show ((getMetas ds >>= fun infos => pure (r.infoOf d :: infos)) :
        Task _).run (answer env) r = _
      rw [Async.run_bind, ih]
      rfl

/-- **A lookup** that nothing interrupts finds the members with metadata. -/
theorem watchersUnder_run (key : String) :
    (watchersUnder key).run (answer env) r =
      (some ((r.members key).filterMap r.infoOf), r) := by
  show (if r.members key = [] then pure [] else
    (getMetas (r.members key) >>= fun metas => pure (metas.filterMap id)) :
      Task _).run (answer env) r = _
  split
  · rename_i h
    rw [h]
    rfl
  · rw [Async.run_bind, getMetas_run]
    simp only [List.filterMap_map]
    rfl

end AlertTriage.Bff
