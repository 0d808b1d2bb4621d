import AlertTriage.Api.BackgroundTriage
import AlertTriage.Api.Ingest
import AlertTriage.Runtime.CancelRegistry
import AlertTriage.Runtime.Delivery

/-!
# What the processing of an alert writes

Every store keeps what belongs to an alert under a name made of the alert's id
alone: `AlertSlot` lists the keys. `KeptBeside` are the properties of the world
that survive any write under the keys of one id, and every service that handles
an alert, from its intake to its cancellation, keeps them: an alert's processing
writes nothing but what is kept under its id.
-/

namespace AlertTriage

open Library

/-! ## §1  The keys of an alert -/

/-- What Redis keeps for an alert. -/
inductive AlertSlot where
  | alert | verdict | job | rawPayload
  | entry | lease | attempts | nextAfter
  | cancelPending | cancelled | seq
deriving DecidableEq, Repr

def AlertSlot.key : AlertSlot → String → String
  | .alert => alertKey
  | .verdict => verdictKey
  | .job => jobKey
  | .rawPayload => rawKey
  | .entry => pendingKey
  | .lease => leaseKey
  | .attempts => attemptsKey
  | .nextAfter => nextAfterKey
  | .cancelPending => cancelPendingKey
  | .cancelled => cancelledKey
  | .seq => seqKey

/-- What stands before the id in a key. -/
def AlertSlot.stem : AlertSlot → String
  | .alert => "soc:alert:"
  | .verdict => "soc:verdict:"
  | .job => "soc:job:"
  | .rawPayload => "raw_payload:"
  | .entry => "pending_alert:"
  | .lease => "pending_alert_lease:"
  | .attempts => "pending_alert_attempts:"
  | .nextAfter => "pending_alert_attempts:"
  | .cancelPending => "cancel_pending:"
  | .cancelled => "cancelled:"
  | .seq => "seq:"

/-- What stands after it. -/
def AlertSlot.tail : AlertSlot → String
  | .nextAfter => ":next"
  | _ => ""

theorem AlertSlot.key_eq (slot : AlertSlot) (alertId : String) :
    slot.key alertId = slot.stem ++ (alertId ++ slot.tail) := by
  cases slot with
  | nextAfter => exact String.append_assoc
  | _ => exact congrArg _ String.append_empty.symm

/-- No stem begins another. -/
theorem AlertSlot.stem_eq_of_prefix : ∀ slot slot' : AlertSlot,
    slot.stem.toList <+: slot'.stem.toList → slot.stem = slot'.stem := by
  intro slot slot'
  cases slot <;> cases slot' <;> decide

/-- An id as digests and UUIDs are: without a colon. -/
def Plain (alertId : String) : Prop := ':' ∉ alertId.toList

/-- What stands before the id tells the slots apart, whatever the ids. -/
theorem AlertSlot.stem_eq_of_key_eq {slot slot' : AlertSlot} {a b : String}
    (h : slot.key a = slot'.key b) : slot.stem = slot'.stem := by
  have hlist := congrArg String.toList h
  simp only [AlertSlot.key_eq, String.toList_append] at hlist
  have hp := List.prefix_append slot.stem.toList (a.toList ++ slot.tail.toList)
  rw [hlist] at hp
  rcases List.prefix_or_prefix_of_prefix hp (List.prefix_append _ _) with
    hp | hp
  · exact AlertSlot.stem_eq_of_prefix slot slot' hp
  · exact (AlertSlot.stem_eq_of_prefix slot' slot hp).symm

/-- Two slots of different stems share no key. -/
theorem AlertSlot.key_ne_of_stem (slot slot' : AlertSlot)
    (h : slot.stem ≠ slot'.stem) (alertId alertId' : String) :
    slot.key alertId ≠ slot'.key alertId' :=
  fun heq => h (AlertSlot.stem_eq_of_key_eq heq)

/-- **Two plain ids share no key.** -/
theorem AlertSlot.key_ne {a b : String} (ha : Plain a) (hb : Plain b)
    (h : a ≠ b) (slot slot' : AlertSlot) : slot.key a ≠ slot'.key b := by
  intro heq
  have hstem := AlertSlot.stem_eq_of_key_eq heq
  have hlist := congrArg String.toList heq
  simp only [AlertSlot.key_eq, String.toList_append] at hlist
  rw [hstem] at hlist
  have hrest := List.append_cancel_left hlist
  -- the id ends where the first colon is, or where the key ends
  have hcut (c : String) (hc : Plain c) (s : AlertSlot) :
      (c.toList ++ s.tail.toList).takeWhile (· ≠ ':') = c.toList := by
    have hplain : ∀ x ∈ c.toList, decide (x ≠ ':') = true := by
      intro x hx
      refine decide_eq_true fun hcolon => hc ?_
      rwa [← hcolon]
    rw [List.takeWhile_append_of_pos hplain]
    cases s <;> simp [AlertSlot.tail]
  have hids := congrArg (List.takeWhile (· ≠ ':')) hrest
  rw [hcut a ha slot, hcut b hb slot'] at hids
  exact h (String.toList_inj.mp hids)

/-! ## §2  Properties of what lies beside an alert -/

/-- A property of the world that no write under the keys of this id ends, and
nothing else that an alert's processing does. -/
structure KeptBeside (alertId : String) (P : World → Prop) : Prop where
  set : ∀ (slot : AlertSlot) value w, P w → P (w.set (slot.key alertId) value)
  setEx : ∀ (slot : AlertSlot) value ttl w, P w →
    P (w.setEx (slot.key alertId) value ttl)
  overwrite : ∀ (slot : AlertSlot) value w, P w →
    P (w.overwrite (slot.key alertId) value)
  expire : ∀ (slot : AlertSlot) ttl w, P w → P (w.expire (slot.key alertId) ttl)
  delete : ∀ (slots : List AlertSlot) w, P w →
    P (w.delete (slots.map fun slot => slot.key alertId))
  localSeq : ∀ n w, P w →
    P { w with localSeq := Json.upsert alertId n w.localSeq }
  memVerdicts : ∀ v w, P w →
    P { w with memVerdicts := Json.upsert alertId v w.memVerdicts }
  record : ∀ event w, P w → P (w.record event)
  conn : ∀ c w, P w → P (w.setConn c)
  jwtCache : ∀ c w, P w → P { w with jwtCache := c }
  elapse : ∀ i : Interlude, i.edits = [] → ∀ w, P w → P (w.elapse i)

theorem keeps_redisGet {P : World → Prop} (o : Outcome) (key : String) :
    Run.Keeps P (redisGet o key) :=
  Run.Keeps.call fun _ hw => hw

namespace KeptBeside

variable {alertId : String} {P : World → Prop} (h : KeptBeside alertId P)
include h

theorem redisSet (o : Outcome) (slot : AlertSlot) (value : RedisValue) :
    Run.Keeps P (redisSet o (slot.key alertId) value) :=
  Run.Keeps.call fun w hw => h.set slot value w hw

theorem redisSetEx (o : Outcome) (slot : AlertSlot) (seconds : ℕ)
    (value : RedisValue) :
    Run.Keeps P (redisSetEx o (slot.key alertId) seconds value) :=
  Run.Keeps.call fun w hw => h.setEx slot value _ w hw

theorem redisDelete (o : Outcome) (slots : List AlertSlot) :
    Run.Keeps P
      (redisDelete o (slots.map fun slot => slot.key alertId)) :=
  Run.Keeps.call fun w hw => h.delete slots w hw

theorem redisIncr (o : Outcome) (slot : AlertSlot) :
    Run.Keeps P (redisIncr o (slot.key alertId)) := by
  intro w hw
  unfold AlertTriage.redisIncr
  split
  · rw [Run.call_world]
    split
    · exact h.overwrite slot _ w hw
    · exact hw
  · rw [Run.call_world]
    split
    · exact h.overwrite slot _ w hw
    · exact hw
  · split <;> exact hw

theorem redisExpire (o : Outcome) (slot : AlertSlot) (seconds : ℕ) :
    Run.Keeps P (redisExpire o (slot.key alertId) seconds) :=
  Run.Keeps.call fun w hw => h.expire slot _ w hw

theorem afterPublish (e : PublishEnv) (msgId : Option String) (msg : NatsMsg)
    (awaitAck : Bool) {w : World} (hw : P w) :
    P (w.afterPublish e msgId msg awaitAck) := by
  unfold World.afterPublish
  dsimp only
  split
  · exact h.record _ _ (h.conn _ w hw)
  · exact h.conn _ w hw

theorem publish (e : PublishEnv) (subject : String) (payload : Body)
    (msgId : Option String) (headers : List (String × String))
    (awaitAck : Bool) :
    Run.Keeps P (publish e subject payload msgId headers awaitAck) := by
  intro w hw
  rw [publish_spec]
  exact h.afterPublish e msgId _ awaitAck hw

/-! ## §3  The ingest path and the reconciler -/

theorem enqueueViaNats (codec : AlertCodec) (state : Option RuntimeState)
    (e : EnqueueEnv) {alert : NormalizedAlert} (hid : alert.alertId = alertId) :
    Run.Keeps P (enqueueViaNats codec state e alert) := by
  subst hid
  exact enqueue_keeps (fun value ttl w hw => h.setEx .entry value ttl w hw)
    (fun e body w hw => h.afterPublish e _ _ true hw)
    (fun w hw => h.delete [.entry, .lease, .attempts] w hw) codec state e

theorem markPublished (r : IngestReconciler) (o : Outcome) :
    Run.Keeps P (markPublished r o alertId) := by
  unfold AlertTriage.markPublished
  split
  · exact Run.Keeps.pure ()
  · exact Run.Keeps.tryExcept (h.redisDelete o [.entry, .lease, .attempts])
      fun _ => Run.Keeps.pure ()

theorem incrementAttempts (r : IngestReconciler) (e : ProcessEnv) :
    Run.Keeps P (incrementAttempts r e alertId) :=
  Run.Keeps.tryExcept
    (Run.Keeps.bind (h.redisIncr e.incr .attempts) fun n =>
      Run.Keeps.bind (h.redisExpire e.expire .attempts r.maxAge) fun _ =>
        Run.Keeps.pure n)
    fun _ => Run.Keeps.pure 1

theorem moveToDlq (r : IngestReconciler) (e : ProcessEnv) (reason : String) :
    Run.Keeps P (moveToDlq r e alertId reason) := by
  refine Run.Keeps.bind ?_ fun _ => ?_
  · unfold offerToDlq
    split
    · exact Run.Keeps.tryExcept (Run.Keeps.call fun w hw => h.record _ w hw)
        fun _ => Run.Keeps.pure ()
    · exact Run.Keeps.pure ()
  · exact Run.Keeps.tryExcept
      (h.redisDelete e.cleanup [.entry, .attempts, .nextAfter])
      fun _ => Run.Keeps.pure ()

theorem attemptPublish (r : IngestReconciler) (e : ProcessEnv) (payload : Json)
    (attempts : ℕ) :
    Run.Keeps P (attemptPublish r e alertId payload attempts) := by
  unfold AlertTriage.attemptPublish
  refine Run.Keeps.bind (Run.Keeps.ofExcept _) fun subject => ?_
  refine Run.Keeps.bind ?_ fun ok => ?_
  · intro w hw
    rw [publishJson_spec]
    cases subject with
    | str s => exact h.afterPublish _ _ _ true hw
    | _ => exact h.conn _ w hw
  split
  · exact h.markPublished r e.markPublished
  refine Run.Keeps.bind Run.Keeps.get fun w => ?_
  refine Run.Keeps.bind (h.redisSetEx e.setNextAfter .nextAfter _ _) fun _ => ?_
  split
  · exact h.moveToDlq r e _
  · exact Run.Keeps.pure ()

theorem processOne (r : IngestReconciler) (e : ProcessEnv) :
    Run.Keeps P (processOne r e alertId) := by
  unfold AlertTriage.processOne
  refine Run.Keeps.bind (keeps_redisGet _ _) fun raw => ?_
  split
  · exact Run.Keeps.pure ()
  split
  · exact Run.Keeps.pure ()
  split
  · exact h.redisDelete e.deleteCorrupt [.entry]
  refine Run.Keeps.bind (h.incrementAttempts r e) fun attempts => ?_
  refine Run.Keeps.bind (keeps_redisGet _ _) fun nextAfter => ?_
  refine Run.Keeps.bind Run.Keeps.get fun w => ?_
  split
  · exact h.attemptPublish r e _ _
  refine Run.Keeps.bind (Run.Keeps.ofExcept _) fun t => ?_
  split
  · exact Run.Keeps.pure ()
  · exact h.attemptPublish r e _ _

/-- One entry of a reconciler's pass. -/
theorem scanEntry (r : IngestReconciler) (e : EntryEnv) :
    Run.Keeps P (scanEntry r alertId e) := by
  unfold AlertTriage.scanEntry
  refine Run.Keeps.bind (h.elapse ⟨e.wait, []⟩ rfl) fun _ => ?_
  refine Run.Keeps.bind (Run.Keeps.call fun w hw => ?_) fun held => ?_
  · unfold World.setNxEx
    split
    · exact hw
    · exact h.setEx .lease _ _ w hw
  split
  · apply Run.Keeps.tryFinally (h.processOne r e.process)
    refine Run.Keeps.tryExcept (Run.Keeps.call fun w hw => ?_)
      fun _ => Run.Keeps.pure ()
    split
    · exact h.delete [.lease] w hw
    · exact hw
  · exact Run.Keeps.pure ()

/-! ## §4  The worker -/

theorem nextSeq (deps : WorkerDeps) (e : PhaseEnv) :
    Run.Keeps P (nextSeq deps e alertId) := by
  have hlocal : Run.Keeps P (localNext alertId) := fun w hw =>
    h.localSeq _ w hw
  unfold AlertTriage.nextSeq
  split
  · exact hlocal
  · exact Run.Keeps.tryExcept
      (Run.Keeps.bind (h.redisIncr e.incr .seq) fun n =>
        Run.Keeps.bind (h.redisExpire e.expire .seq seqTtlSec) fun _ =>
          Run.Keeps.pure n)
      fun _ => hlocal

theorem publishPhase (deps : WorkerDeps) (e : PhaseEnv)
    {alert : NormalizedAlert} (hid : alert.alertId = alertId)
    (phase : TriagePhase) : Run.Keeps P (publishPhase deps e alert phase) := by
  unfold AlertTriage.publishPhase
  split
  · exact Run.Keeps.pure ()
  split
  · exact Run.Keeps.pure ()
  rw [hid]
  exact Run.Keeps.bind (h.nextSeq deps e) fun seq =>
    Run.Keeps.bind (h.publish _ _ _ _ _ _) fun _ => Run.Keeps.pure _

theorem investigate (deps : WorkerDeps) (e : HandleEnv)
    (hquiet : e.meanwhile.edits = []) {alert : NormalizedAlert}
    (hid : alert.alertId = alertId) :
    Run.Keeps P (investigate deps e alert) := by
  unfold AlertTriage.investigate
  refine Run.Keeps.bind (Run.Keeps.call fun _ hw => hw) fun _ => ?_
  refine Run.Keeps.bind ?_ fun verdict =>
    Run.Keeps.bind (KeptByWorker.isCancelled deps _ _) fun _ =>
      h.publishPhase deps _ hid .done
  unfold awaitTriage
  refine Run.Keeps.bind (h.elapse e.meanwhile hquiet) fun _ => ?_
  split
  · exact Run.Keeps.pure _
  · exact Run.Keeps.bind (h.publishPhase deps _ hid .failed) fun _ =>
      Run.Keeps.throw _
  · exact fun _ hw => hw

/-- A message whose alert has this id. -/
theorem dispatchOne (deps : WorkerDeps) (e : HandleEnv)
    (hquiet : e.meanwhile.edits = []) (settle : Outcome) (msg : NatsMsg)
    (hid : ∀ auth alert, parseAlert deps.codec msg.data auth = .ok alert →
      alert.alertId = alertId) :
    Run.Keeps P (dispatchOne deps e settle msg) := by
  have haccept : Run.Keeps P (acceptAlert deps e msg.data msg.serviceToken) := by
    unfold acceptAlert
    refine Run.Keeps.bind (verify_keeps h.jwtCache _ _ _ _) fun auth => ?_
    refine Run.Keeps.bind_returns (Run.Keeps.ofExcept _)
      (Run.Returns.ofExcept _) fun alert halert => ?_
    refine Run.Keeps.bind (h.publishPhase deps _ (hid auth alert halert) _)
      fun _ => Run.Keeps.bind (KeptByWorker.isCancelled deps _ _) fun cancelled => ?_
    split
    · exact Run.Keeps.bind (h.publishPhase deps _ (hid auth alert halert) _)
        fun _ => Run.Keeps.pure none
    · exact Run.Keeps.pure _
  -- an alert that is found is the one of the body
  have hreturns : Run.Returns (fun found => ∀ alert, found = some alert →
      alert.alertId = alertId) (acceptAlert deps e msg.data msg.serviceToken) := by
    have hany {α : Type} (x : Io α) : Run.Returns (fun _ => True) x :=
      fun _ _ _ _ => trivial
    unfold acceptAlert
    refine (hany _).bind fun auth _ => ?_
    refine (Run.Returns.ofExcept _).bind fun alert halert => ?_
    refine (hany _).bind fun _ _ => (hany _).bind fun cancelled _ => ?_
    split
    · exact (hany _).bind fun _ _ => Run.Returns.pure (by simp)
    · refine Run.Returns.pure fun x hx => ?_
      obtain rfl := Option.some.inj hx
      exact hid auth alert halert
  unfold AlertTriage.dispatchOne settleAs
  refine Run.Keeps.bind ?_ fun how =>
    Run.Keeps.tryExcept (Run.Keeps.call fun w hw => h.record _ w hw) fun _ =>
      Run.Keeps.pure ()
  split
  · exact Run.Keeps.pure _
  refine Run.Keeps.tryExcept ?_ fun _ => Run.Keeps.pure _
  refine Run.Keeps.bind ?_ fun _ => Run.Keeps.pure _
  refine Run.Keeps.bind_returns haccept hreturns fun found hfound => ?_
  cases found with
  | none => exact Run.Keeps.pure ()
  | some alert => exact h.investigate deps e hquiet (hfound alert rfl)

/-! ## §5  Cancellation and verdicts -/

theorem requestCancel (hasClient : Bool) (graceSeconds : ℕ) (o : Outcome) :
    Run.Keeps P (requestCancel hasClient graceSeconds o alertId) := by
  unfold AlertTriage.requestCancel
  split
  · exact Run.Keeps.pure false
  · exact Run.Keeps.tryExcept
      (Run.Keeps.bind (h.redisSetEx o .cancelPending _ _) fun _ =>
        Run.Keeps.pure true)
      fun _ => Run.Keeps.pure false

theorem revokeCancel (hasClient : Bool) (o : Outcome) :
    Run.Keeps P (revokeCancel hasClient o alertId) := by
  unfold AlertTriage.revokeCancel
  split
  · exact Run.Keeps.pure ()
  · exact Run.Keeps.tryExcept (h.redisDelete o [.cancelPending]) fun _ =>
      Run.Keeps.pure ()

theorem fireAfterGrace (hasClient : Bool) (e : FireEnv) :
    Run.Keeps P (fireAfterGrace hasClient e alertId) := by
  unfold AlertTriage.fireAfterGrace
  split
  · exact Run.Keeps.pure ()
  refine Run.Keeps.tryExcept ?_ fun _ => Run.Keeps.pure ()
  refine Run.Keeps.bind (keeps_redisGet _ _) fun stillPending => ?_
  split
  · exact Run.Keeps.pure ()
  · exact Run.Keeps.bind (h.redisSetEx e.setCancelled .cancelled _ _) fun _ =>
      h.redisDelete e.deletePending [.cancelPending]

theorem putVerdict (p : AlertPersistence) (codec : VerdictCodec) (o : Outcome)
    (verdict : TriageVerdict) :
    Run.Keeps P (putVerdict p codec o alertId verdict) := by
  unfold AlertTriage.putVerdict
  split
  · exact Run.Keeps.bind (Run.Keeps.ofExcept _) fun text =>
      h.redisSet o .verdict _
  · exact Run.Keeps.modify fun w hw => h.memVerdicts _ w hw

theorem recordRawPayload (audit : Option ℕ) (o : Outcome) (payload : Params) :
    Run.Keeps P (recordRawPayload audit o alertId payload) := by
  unfold AlertTriage.recordRawPayload
  split
  · exact Run.Keeps.pure ()
  · exact Run.Keeps.tryExcept (h.redisSetEx o .rawPayload _ _) fun _ =>
      Run.Keeps.pure ()

end KeptBeside

end AlertTriage
