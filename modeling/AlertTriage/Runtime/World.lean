import AlertTriage.Library.Effects
import AlertTriage.Library.TtlStore
import AlertTriage.Schemas

/-!
# The outside world of a runtime process

One process of the service sees Redis, its own NATS client and the clock. The
world also keeps a log, newest first, of what the outside systems did: which
keys were written or removed, which messages JetStream stored (with the id the
publisher gave, and whether the publisher got the acknowledgement), what was
sent on core NATS, what a dead-letter publisher took and how messages were
settled. The log is what the properties of whole runs speak about.

Every Redis command is one outside call: it may answer, raise with or without
having taken effect, or be the last thing the process does.
-/

namespace AlertTriage

open Library

/-! ## §1  Exceptions, values, messages -/

/-- The exceptions the runtime tells apart. -/
inductive PyExn where
  | jwtError (reason : String)
  | poisonPill (reason : String)
  | keyError (reason : String)
  | other (reason : String)
deriving DecidableEq, Repr

/-- What Redis holds under a key. A time stands for the decimal text that
`str(time.time() + delay)` writes and `float` reads back. -/
inductive RedisValue where
  | text (s : String)
  | count (n : ℕ)
  | time (t : ℕ)
deriving DecidableEq, Repr

/-- The text that `GET` answers. -/
def RedisValue.toText : RedisValue → String
  | .text s => s
  | .count n => toString n
  | .time t => toString t

/-- The body of a message: text, or bytes that decode to none. -/
inductive Body where
  | utf8 (text : String)
  | undecodable (bytes : List UInt8)
deriving DecidableEq, Repr

structure NatsMsg where
  subject : String
  data : Body
  headers : List (String × String)
deriving DecidableEq, Repr

/-- `headers.get(name)`. -/
def NatsMsg.header (m : NatsMsg) (name : String) : Option String :=
  (m.headers.find? fun h => h.1 == name).map Prod.snd

/-- How a delivered message is settled. -/
inductive Settlement where
  | ack | nak | term
deriving DecidableEq, Repr

/-! ## §2  The log and the world -/

inductive Event where
  | redisSet (key : String) (value : RedisValue)
  | redisDeleted (key : String) (value : RedisValue)
  | stored (msgId : Option String) (msg : NatsMsg) (acked : Bool)
  | sent (msg : NatsMsg)
  | dlqTaken (alertId reason : String) (accepted : Bool)
  | settled (how : Settlement)
deriving DecidableEq, Repr

/-- The NATS client of the process: `_connected`, and whether `_js` is set. -/
structure Connection where
  connected : Bool
  js : Bool
deriving DecidableEq, Repr

/-- A verified token in the process's cache: its payload, the audience it was
verified for, and `float(payload["exp"])` as a time. -/
structure JwtCacheEntry where
  payload : Params
  audience : String
  expiresAt : ℤ

/-- The outside systems, and what the process itself keeps: its connection,
its verified tokens, its fallback event counters and the verdicts it stores
when it does so in memory. -/
structure World where
  now : ℕ
  redis : TtlStore RedisValue
  conn : Connection
  jwtCache : List (String × JwtCacheEntry)
  localSeq : List (String × ℕ)
  memVerdicts : List (String × TriageVerdict)
  log : List Event

/-- Nothing stored, no connection, nothing logged. -/
def World.fresh : World where
  now := 0
  redis := TtlStore.empty
  conn := ⟨false, false⟩
  jwtCache := []
  localSeq := []
  memVerdicts := []
  log := []

abbrev Io (α : Type) := Run PyExn World α

namespace World

def record (e : Event) (w : World) : World := { w with log := e :: w.log }

@[simp] theorem record_log (e : Event) (w : World) :
    (w.record e).log = e :: w.log := rfl

@[simp] theorem record_redis (e : Event) (w : World) :
    (w.record e).redis = w.redis := rfl

@[simp] theorem record_now (e : Event) (w : World) :
    (w.record e).now = w.now := rfl

@[simp] theorem record_conn (e : Event) (w : World) :
    (w.record e).conn = w.conn := rfl

/-- The value present under a key. -/
def lookup (key : String) (w : World) : Option RedisValue :=
  w.redis.get w.now key

@[simp] theorem lookup_record (key : String) (e : Event) (w : World) :
    (w.record e).lookup key = w.lookup key := rfl

end World

/-! ## §3  Redis commands -/

def redisError : PyExn := .other "redis"

/-- `GET key`. -/
def redisGet (o : Outcome) (key : String) : Io (Option RedisValue) :=
  Run.call o redisError id (World.lookup key)

def World.set (key : String) (value : RedisValue) (w : World) : World :=
  { w with
    redis := w.redis.set key value
    log := .redisSet key value :: w.log }

/-- `SET key value`. -/
def redisSet (o : Outcome) (key : String) (value : RedisValue) : Io Unit :=
  Run.call o redisError (World.set key value) fun _ => ()

def World.setEx (key : String) (value : RedisValue) (ttl : ℕ) (w : World) :
    World :=
  { w with
    redis := w.redis.setEx w.now key value ttl
    log := .redisSet key value :: w.log }

/-- `SETEX key ttl value`, the lifetime in seconds. -/
def redisSetEx (o : Outcome) (key : String) (seconds : ℕ) (value : RedisValue) :
    Io Unit :=
  Run.call o redisError (World.setEx key value (seconds * second)) fun _ => ()

def World.setNxEx (key : String) (value : RedisValue) (ttl : ℕ) (w : World) :
    World :=
  if (w.lookup key).isSome then w else w.setEx key value ttl

/-- `SET key value NX EX ttl`: was the key written? -/
def redisSetNxEx (o : Outcome) (key : String) (value : RedisValue)
    (seconds : ℕ) : Io Bool :=
  Run.call o redisError (World.setNxEx key value (seconds * second)) fun w =>
    !(w.lookup key).isSome

/-- One event for each of the keys that is present. -/
def World.deletions (keys : List String) (w : World) : List Event :=
  keys.filterMap fun k => (w.lookup k).map (.redisDeleted k)

def World.delete (keys : List String) (w : World) : World :=
  { w with
    redis := w.redis.removeAll keys
    log := w.deletions keys ++ w.log }

/-- `DEL keys`. -/
def redisDelete (o : Outcome) (keys : List String) : Io Unit :=
  Run.call o redisError (World.delete keys) fun _ => ()

def World.overwrite (key : String) (value : RedisValue) (w : World) : World :=
  { w with
    redis := w.redis.overwrite w.now key value
    log := .redisSet key value :: w.log }

/-- `INCR key`: refused where something other than a number is present. -/
def redisIncr (o : Outcome) (key : String) : Io ℕ := fun w =>
  match w.lookup key with
  | none =>
      Run.call o redisError (World.overwrite key (.count 1)) (fun _ => 1) w
  | some (.count n) =>
      Run.call o redisError (World.overwrite key (.count (n + 1)))
        (fun _ => n + 1) w
  | some _ =>
      match o with
      | .killed _ => (.error .kill, w)
      | _ => (.error (.exception redisError), w)

def World.expire (key : String) (ttl : ℕ) (w : World) : World :=
  { w with redis := w.redis.expire w.now key ttl }

/-- `EXPIRE key ttl`. -/
def redisExpire (o : Outcome) (key : String) (seconds : ℕ) : Io Unit :=
  Run.call o redisError (World.expire key (seconds * second)) fun _ => ()

/-- The script that removes a key only while it holds `owner`. -/
def redisDeleteIfEquals (o : Outcome) (key : String) (owner : RedisValue) :
    Io Unit :=
  Run.call o redisError
    (fun w => if w.lookup key = some owner then w.delete [key] else w) fun _ => ()

/-! ## §4  What happens meanwhile -/

def World.advance (d : ℕ) (w : World) : World := { w with now := w.now + d }

/-- What another process does to Redis. -/
inductive RedisEdit where
  | put (key : String) (value : RedisValue) (ttl : Option ℕ)
  | drop (key : String)
deriving DecidableEq, Repr

def RedisEdit.key : RedisEdit → String
  | .put key _ _ => key
  | .drop key => key

def RedisEdit.apply (now : ℕ) : RedisEdit → TtlStore RedisValue →
    TtlStore RedisValue
  | .put key value none, s => s.set key value
  | .put key value (some ttl), s => s.setEx now key value ttl
  | .drop key, s => s.remove key

/-- The time that passes between two steps of a process, and what others have
done to Redis by the end of it. -/
structure Interlude where
  delay : ℕ
  edits : List RedisEdit
deriving DecidableEq, Repr

/-- Nobody writes the key meanwhile. -/
def Interlude.spares (key : String) (i : Interlude) : Bool :=
  i.edits.all fun e => e.key != key

def World.elapse (i : Interlude) (w : World) : World :=
  let now := w.now + i.delay
  { w with
    now := now
    redis := i.edits.foldl (fun s e => e.apply now s) w.redis }

/-! ## §5  What the commands leave under other keys -/

variable {key key' : String} {value : RedisValue} {ttl : ℕ} {w : World}

theorem RedisEdit.get_apply_ne {e : RedisEdit} (h : e.key ≠ key) (now t : ℕ)
    (s : TtlStore RedisValue) : (e.apply now s).get t key = s.get t key := by
  rcases e with ⟨k, v, _ | ttl⟩ | k
  · exact TtlStore.get_set_ne h.symm
  · exact TtlStore.get_setEx_ne h.symm
  · exact TtlStore.get_remove_ne h.symm

theorem World.get_elapse {i : Interlude} (h : i.spares key = true) (t : ℕ)
    (w : World) : (w.elapse i).redis.get t key = w.redis.get t key := by
  have hedits : ∀ (edits : List RedisEdit) (now : ℕ) (s : TtlStore RedisValue),
      (edits.all fun e => e.key != key) = true →
      (edits.foldl (fun s e => e.apply now s) s).get t key = s.get t key := by
    intro edits now
    induction edits with
    | nil => exact fun s _ => rfl
    | cons e rest ih =>
        intro s hs
        obtain ⟨he, hrest⟩ := by simpa using hs
        rw [List.foldl_cons, ih _ (by simpa using hrest)]
        exact RedisEdit.get_apply_ne he now t s
  exact hedits i.edits _ w.redis h

theorem World.lookup_setEx (h : 0 < ttl) :
    (w.setEx key value ttl).lookup key = some value :=
  TtlStore.get_setEx h

theorem World.lookup_setEx_ne (h : key' ≠ key) :
    (w.setEx key value ttl).lookup key' = w.lookup key' :=
  TtlStore.get_setEx_ne h

theorem World.lookup_delete_of_mem {keys : List String} (h : key ∈ keys) :
    (w.delete keys).lookup key = none :=
  TtlStore.get_removeAll_of_mem h

theorem World.lookup_delete_of_notMem {keys : List String} (h : key ∉ keys) :
    (w.delete keys).lookup key = w.lookup key :=
  TtlStore.get_removeAll_of_notMem h

theorem World.lookup_overwrite_ne (h : key' ≠ key) :
    (w.overwrite key value).lookup key' = w.lookup key' :=
  TtlStore.get_overwrite_ne h

theorem World.lookup_expire_ne (h : key' ≠ key) :
    (w.expire key ttl).lookup key' = w.lookup key' :=
  TtlStore.get_expire_ne h

theorem World.mem_deletions {keys : List String} {x : Event}
    (h : x ∈ w.deletions keys) :
    ∃ k ∈ keys, ∃ v, w.lookup k = some v ∧ x = .redisDeleted k v := by
  obtain ⟨k, hk, hx⟩ := List.mem_filterMap.mp h
  obtain ⟨v, hv, rfl⟩ := Option.map_eq_some_iff.mp hx
  exact ⟨k, hk, v, hv, rfl⟩

end AlertTriage
