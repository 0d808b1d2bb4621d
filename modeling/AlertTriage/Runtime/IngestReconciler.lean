import AlertTriage.Runtime.NatsBroker

/-!
# `services/_runtime/ingest_reconciler.py`

The write-ahead log of the ingest path and the loop that publishes what is
left in it. `writeAhead` and `markPublished` swallow every failure of Redis;
`processOne` takes one entry through lookup, attempt count, backoff, publish
and, after the last attempt, the dead-letter step.
-/

namespace AlertTriage

open Library

/-! ## §1  Keys and the backoff schedule -/

def keyPending : String := "pending_alert:"

def keyLease : String := "pending_alert_lease:"

def keyAttempts : String := "pending_alert_attempts:"

def pendingKey (alertId : String) : String := keyPending ++ alertId

def leaseKey (alertId : String) : String := keyLease ++ alertId

def attemptsKey (alertId : String) : String := keyAttempts ++ alertId

def nextAfterKey (alertId : String) : String := keyAttempts ++ alertId ++ ":next"

/-- Seconds to wait after each failed attempt. -/
def backoffSeconds : List ℕ :=
  [5, 30, 300, 1800, 3600, 3600 * 4, 3600 * 8]

theorem pendingKey_injective {a b : String} (h : pendingKey a = pendingKey b) :
    a = b := by
  have h' := congrArg String.toList h
  simp only [pendingKey, String.toList_append] at h'
  exact String.toList_inj.mp (List.append_cancel_left h')

/-- No other key of the reconciler is a `pending_alert:` key: the fourteenth
character differs. -/
theorem pendingKey_ne_of_underscore (a : String) (cs : List Char) {k : String}
    (hk : k.toList = "pending_alert_".toList ++ cs) : pendingKey a ≠ k := by
  intro h
  have h' := congrArg String.toList h
  rw [hk, pendingKey, String.toList_append] at h'
  have h13 := congrArg (fun l => l[13]?) h'
  simp [keyPending] at h13

theorem pendingKey_ne_leaseKey (a b : String) : pendingKey a ≠ leaseKey b := by
  apply pendingKey_ne_of_underscore a ("lease:".toList ++ b.toList)
  rw [leaseKey, String.toList_append, ← List.append_assoc]
  rfl

theorem pendingKey_ne_attemptsKey (a b : String) :
    pendingKey a ≠ attemptsKey b := by
  apply pendingKey_ne_of_underscore a ("attempts:".toList ++ b.toList)
  rw [attemptsKey, String.toList_append, ← List.append_assoc]
  rfl

theorem pendingKey_ne_nextAfterKey (a b : String) :
    pendingKey a ≠ nextAfterKey b := by
  have h : nextAfterKey b = attemptsKey (b ++ ":next") := by
    rw [nextAfterKey, attemptsKey, String.append_assoc]
  rw [h]
  exact pendingKey_ne_attemptsKey a _

/-! ## §2  The reconciler and its environment -/

/-- A constructed reconciler. Redis refuses lifetimes of zero seconds. -/
structure IngestReconciler where
  hasClient : Bool
  publishSubjectFor : Json → Except PyExn Json
  maxAge : ℕ
  maxAge_pos : 0 < maxAge
  lease : ℕ
  owner : String
  hasDlq : Bool

/-- How the outside calls of one `_process_one` end. -/
structure ProcessEnv where
  getEntry : Outcome
  deleteCorrupt : Outcome
  incr : Outcome
  expire : Outcome
  getNextAfter : Outcome
  publish : PublishEnv
  markPublished : Outcome
  setNextAfter : Outcome
  dlq : Outcome
  cleanup : Outcome
deriving DecidableEq, Repr

/-! ## §3  The ingest path's two calls -/

/-- `write_ahead`: true whatever happens. -/
def writeAhead (r : IngestReconciler) (o : Outcome) (alertId : String)
    (payload : Json) : Io Bool :=
  if !r.hasClient then return true
  else
    Run.tryExcept
      (do
        redisSetEx o (pendingKey alertId) r.maxAge
          (.text (Json.dumps pythonStyle payload))
        return true)
      (fun _ => return true)

/-- `mark_published`: removes the entry, its lease and its attempt count. -/
def markPublished (r : IngestReconciler) (o : Outcome) (alertId : String) :
    Io Unit :=
  if !r.hasClient then return ()
  else
    Run.tryExcept
      (redisDelete o [pendingKey alertId, leaseKey alertId, attemptsKey alertId])
      (fun _ => return ())

/-- The world after `write_ahead`. -/
def World.afterWriteAhead (r : IngestReconciler) (o : Outcome)
    (alertId : String) (payload : Json) (w : World) : World :=
  if r.hasClient && o.applied then
    w.setEx (pendingKey alertId) (.text (Json.dumps pythonStyle payload))
      (r.maxAge * second)
  else w

theorem writeAhead_spec (r : IngestReconciler) (o : Outcome) (alertId : String)
    (payload : Json) (w : World) :
    writeAhead r o alertId payload w =
      (if r.hasClient && o.kills then .error .kill else .ok true,
        w.afterWriteAhead r o alertId payload) := by
  unfold writeAhead World.afterWriteAhead
  cases r.hasClient with
  | false => rfl
  | true =>
      rw [if_neg (by decide), redisSetEx, Run.tryExcept_call]
      simp

/-- The world after `mark_published`. -/
def World.afterMarkPublished (r : IngestReconciler) (o : Outcome)
    (alertId : String) (w : World) : World :=
  if r.hasClient && o.applied then
    w.delete [pendingKey alertId, leaseKey alertId, attemptsKey alertId]
  else w

theorem markPublished_spec (r : IngestReconciler) (o : Outcome)
    (alertId : String) (w : World) :
    markPublished r o alertId w =
      (if r.hasClient && o.kills then .error .kill else .ok (),
        w.afterMarkPublished r o alertId) := by
  unfold markPublished World.afterMarkPublished
  cases r.hasClient with
  | false => rfl
  | true =>
      rw [if_neg (by decide), redisDelete, Run.tryExcept_call_unit]
      simp

/-! ## §4  One entry -/

/-- `float(next_after)`, as a time. -/
def nextAfterTime : RedisValue → Except PyExn ℕ
  | .time t => .ok t
  | .count n => .ok (n * second)
  | .text _ => .error (.other "could not convert string to float")

/-- `_increment_attempts`: 1 when Redis fails. -/
def incrementAttempts (r : IngestReconciler) (e : ProcessEnv)
    (alertId : String) : Io ℕ :=
  Run.tryExcept
    (do
      let n ← redisIncr e.incr (attemptsKey alertId)
      redisExpire e.expire (attemptsKey alertId) r.maxAge
      return n)
    (fun _ => return 1)

/-- The dead-letter publisher's turn, if there is one. -/
def offerToDlq (r : IngestReconciler) (e : ProcessEnv) (alertId : String)
    (reason : String) : Io Unit :=
  if r.hasDlq then
    Run.tryExcept
      (Run.call e.dlq (.other "dlq")
        (World.record (.dlqTaken alertId reason (e.dlq = .returned)))
        fun _ => ())
      (fun _ => return ())
  else return ()

/-- `_move_to_dlq`: the entry goes whether or not anything took it. -/
def moveToDlq (r : IngestReconciler) (e : ProcessEnv) (alertId : String)
    (reason : String) : Io Unit := do
  offerToDlq r e alertId reason
  Run.tryExcept
    (redisDelete e.cleanup
      [pendingKey alertId, attemptsKey alertId, nextAfterKey alertId])
    (fun _ => return ())

/-- The attempt itself, once the entry is due. -/
def attemptPublish (r : IngestReconciler) (e : ProcessEnv) (alertId : String)
    (payload : Json) (attempts : ℕ) : Io Unit := do
  let subject ← Run.ofExcept (r.publishSubjectFor payload)
  let ok ← publishJson e.publish subject
    (.utf8 (Json.dumps pythonStyle payload)) (some alertId) [] true
  if ok then markPublished r e.markPublished alertId
  else
    let waitIdx := min (attempts - 1) (backoffSeconds.length - 1)
    let delay := backoffSeconds.getD waitIdx 0
    let w ← Run.get
    redisSetEx e.setNextAfter (nextAfterKey alertId) r.maxAge
      (.time (w.now + delay * second))
    if backoffSeconds.length ≤ attempts then
      moveToDlq r e alertId "max_retries_exhausted"
    else return ()

/-- `_process_one`. -/
def processOne (r : IngestReconciler) (e : ProcessEnv) (alertId : String) :
    Io Unit := do
  let raw ← redisGet e.getEntry (pendingKey alertId)
  match raw with
  | none => return ()
  | some value =>
      if value.toText = "" then return ()
      else
        match Json.loads value.toText with
        | none => redisDelete e.deleteCorrupt [pendingKey alertId]
        | some payload => do
            let attempts ← incrementAttempts r e alertId
            let nextAfter ← redisGet e.getNextAfter (nextAfterKey alertId)
            let w ← Run.get
            match nextAfter with
            | none => attemptPublish r e alertId payload attempts
            | some value => do
                let t ← Run.ofExcept (nextAfterTime value)
                if w.now < t then return ()
                else attemptPublish r e alertId payload attempts

/-! ## §5  One pass over the entries -/

/-- One entry of a pass: the time that went by before it, and how its lease
and its processing end. -/
structure EntryEnv where
  wait : ℕ
  acquire : Outcome
  process : ProcessEnv
  release : Outcome
deriving DecidableEq, Repr

/-- What a pass meets: the entries in the order SCAN yields them, and how the
last SCAN call ends. -/
structure ScanEnv where
  entries : List (String × EntryEnv)
  last : Outcome
deriving DecidableEq, Repr

/-- `_acquire_lease`. -/
def acquireLease (r : IngestReconciler) (o : Outcome) (alertId : String) :
    Io Bool :=
  redisSetNxEx o (leaseKey alertId) (.text r.owner) r.lease

/-- `_release_lease`: only a lease that is still this owner's goes. -/
def releaseLease (r : IngestReconciler) (o : Outcome) (alertId : String) :
    Io Unit :=
  Run.tryExcept
    (redisDeleteIfEquals o (leaseKey alertId) (.text r.owner))
    (fun _ => return ())

/-- The body of the loop in `run_once`. -/
def scanEntry (r : IngestReconciler) (alertId : String) (e : EntryEnv) :
    Io Unit := do
  Run.modify (World.advance e.wait)
  let held ← acquireLease r e.acquire alertId
  if held then
    Run.tryFinally (processOne r e.process alertId)
      (releaseLease r e.release alertId)
  else return ()

def scanEntries (r : IngestReconciler) : List (String × EntryEnv) → Io Unit
  | [] => return ()
  | (alertId, e) :: rest => do
      scanEntry r alertId e
      scanEntries r rest

/-- `run_once`: the number of entries scanned. -/
def runOnce (r : IngestReconciler) (e : ScanEnv) : Io ℕ :=
  if !r.hasClient then return 0
  else do
    scanEntries r e.entries
    Run.call e.last redisError id fun _ => ()
    return e.entries.length

/-! ## §6  What the reconciler keeps -/

/-- The count that `INCR` leaves where it is not refused. -/
def incremented : Option RedisValue → RedisValue
  | some (.count n) => .count (n + 1)
  | _ => .count 1

/-- Counting an attempt writes nothing but the count. -/
theorem incrementAttempts_world (r : IngestReconciler) (e : ProcessEnv)
    (alertId : String) (w : World) :
    ∃ value ttl, (incrementAttempts r e alertId w).2 = w ∨
      (incrementAttempts r e alertId w).2 =
        w.overwrite (attemptsKey alertId) value ∨
      (incrementAttempts r e alertId w).2 =
        (w.overwrite (attemptsKey alertId) value).expire (attemptsKey alertId)
          ttl := by
  obtain ⟨g, dc, i, x, gn, p, mp, sn, d, cl⟩ := e
  refine ⟨incremented (w.lookup (attemptsKey alertId)), r.maxAge * second, ?_⟩
  unfold incrementAttempts Run.tryExcept incremented
  simp only [Run.bind_apply, redisIncr]
  rcases hl : w.lookup (attemptsKey alertId) with _ | s | n | t <;>
    rcases i with _ | b | b <;> (try cases b) <;>
    rcases x with _ | c | c <;> (try cases c) <;>
    simp [Run.call, redisExpire]

/-- Properties of the world that nothing the reconciler does takes away. It
writes no `pending_alert:` key. -/
structure KeptByReconciler (P : World → Prop) : Prop where
  advance : ∀ (d : ℕ) (w : World), P w → P (w.advance d)
  setEx : ∀ {key : String} {value : RedisValue} {ttl : ℕ} {w : World},
    (∀ id, pendingKey id ≠ key) → P w → P (w.setEx key value ttl)
  overwrite : ∀ {key : String} {value : RedisValue} {w : World},
    (∀ id, pendingKey id ≠ key) → P w → P (w.overwrite key value)
  expire : ∀ {key : String} {ttl : ℕ} {w : World}, P w → P (w.expire key ttl)
  delete : ∀ {keys : List String} {w : World}, P w → P (w.delete keys)
  publish : ∀ (e : PublishEnv) (subject : Json) (payload : Body)
    (alertId : String) {w : World}, P w →
    P (w.afterPublishJson e subject payload (some alertId) [] true)
  dlqTaken : ∀ {alertId reason : String} {accepted : Bool} {w : World}, P w →
    P (w.record (.dlqTaken alertId reason accepted))

namespace KeptByReconciler

variable {P : World → Prop} (h : KeptByReconciler P)
include h

theorem incrementAttempts (r : IngestReconciler) (e : ProcessEnv)
    (alertId : String) :
    Run.Keeps P (AlertTriage.incrementAttempts r e alertId) := by
  intro w hw
  have hset (value : RedisValue) :
      P (w.overwrite (attemptsKey alertId) value) :=
    h.overwrite (fun id => pendingKey_ne_attemptsKey id alertId) hw
  obtain ⟨value, ttl, heq | heq | heq⟩ := incrementAttempts_world r e alertId w
  · rw [heq]
    exact hw
  · rw [heq]
    exact hset value
  · rw [heq]
    exact h.expire (hset value)

theorem markPublished (r : IngestReconciler) (o : Outcome) (alertId : String) :
    Run.Keeps P (AlertTriage.markPublished r o alertId) := by
  unfold AlertTriage.markPublished
  split
  · exact Run.Keeps.pure ()
  · exact Run.Keeps.tryExcept (Run.Keeps.call fun _ => h.delete)
      fun _ => Run.Keeps.pure ()

theorem moveToDlq (r : IngestReconciler) (e : ProcessEnv)
    (alertId reason : String) :
    Run.Keeps P (AlertTriage.moveToDlq r e alertId reason) := by
  refine Run.Keeps.bind ?_ fun _ => ?_
  · unfold offerToDlq
    split
    · exact Run.Keeps.tryExcept (Run.Keeps.call fun _ => h.dlqTaken)
        fun _ => Run.Keeps.pure ()
    · exact Run.Keeps.pure ()
  · exact Run.Keeps.tryExcept (Run.Keeps.call fun _ => h.delete)
      fun _ => Run.Keeps.pure ()

theorem attemptPublish (r : IngestReconciler) (e : ProcessEnv)
    (alertId : String) (payload : Json) (attempts : ℕ) :
    Run.Keeps P (AlertTriage.attemptPublish r e alertId payload attempts) := by
  unfold AlertTriage.attemptPublish
  refine Run.Keeps.bind (Run.Keeps.ofExcept _) fun subject => ?_
  refine Run.Keeps.bind ?_ fun ok => ?_
  · intro w hw
    rw [publishJson_spec]
    exact h.publish _ _ _ _ hw
  split
  · exact h.markPublished r e.markPublished alertId
  refine Run.Keeps.bind Run.Keeps.get fun w0 => ?_
  refine Run.Keeps.bind (Run.Keeps.call fun _ => h.setEx fun id =>
    pendingKey_ne_nextAfterKey id alertId) fun _ => ?_
  split
  · exact h.moveToDlq r e alertId _
  · exact Run.Keeps.pure ()

theorem processOne (r : IngestReconciler) (e : ProcessEnv) (alertId : String) :
    Run.Keeps P (AlertTriage.processOne r e alertId) := by
  unfold AlertTriage.processOne
  refine Run.Keeps.bind (Run.Keeps.call fun _ hw => hw) fun raw => ?_
  split
  · exact Run.Keeps.pure ()
  split
  · exact Run.Keeps.pure ()
  split
  · exact Run.Keeps.call fun _ => h.delete
  refine Run.Keeps.bind (h.incrementAttempts r e alertId) fun attempts => ?_
  refine Run.Keeps.bind (Run.Keeps.call fun _ hw => hw) fun nextAfter => ?_
  refine Run.Keeps.bind Run.Keeps.get fun w0 => ?_
  split
  · exact h.attemptPublish r e alertId _ _
  refine Run.Keeps.bind (Run.Keeps.ofExcept _) fun t => ?_
  split
  · exact Run.Keeps.pure ()
  · exact h.attemptPublish r e alertId _ _

theorem scanEntry (r : IngestReconciler) (alertId : String) (e : EntryEnv) :
    Run.Keeps P (AlertTriage.scanEntry r alertId e) := by
  unfold AlertTriage.scanEntry
  refine Run.Keeps.bind (h.advance e.wait) fun _ => ?_
  refine Run.Keeps.bind (Run.Keeps.call fun w hw => ?_) fun held => ?_
  · unfold World.setNxEx
    split
    · exact hw
    · exact h.setEx (fun id => pendingKey_ne_leaseKey id alertId) hw
  split
  · apply Run.Keeps.tryFinally (h.processOne r e.process alertId)
    refine Run.Keeps.tryExcept (Run.Keeps.call fun w hw => ?_)
      fun _ => Run.Keeps.pure ()
    split
    · exact h.delete hw
    · exact hw
  · exact Run.Keeps.pure ()

theorem scanEntries (r : IngestReconciler) :
    ∀ entries : List (String × EntryEnv),
      Run.Keeps P (AlertTriage.scanEntries r entries)
  | [] => Run.Keeps.pure ()
  | (alertId, e) :: rest =>
      Run.Keeps.bind (h.scanEntry r alertId e) fun _ => scanEntries r rest

theorem runOnce (r : IngestReconciler) (e : ScanEnv) :
    Run.Keeps P (AlertTriage.runOnce r e) := by
  unfold AlertTriage.runOnce
  split
  · exact Run.Keeps.pure 0
  · refine Run.Keeps.bind (h.scanEntries r e.entries) fun _ => ?_
    exact Run.Keeps.bind (Run.Keeps.call fun _ hw => hw)
      fun _ => Run.Keeps.pure _

end KeptByReconciler

end AlertTriage
