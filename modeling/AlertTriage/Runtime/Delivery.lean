import AlertTriage.Library.Transition
import AlertTriage.Runtime.TriageWorker

/-!
# Deliveries of one message

A message stays on the stream and is delivered until it is settled, to any
worker process and after any delay; in between, other processes use the same
Redis. `deliverySystem` has these two kinds of step. A worker writes nothing to
Redis but the event counters (`KeptByWorker`), and what a phase publish leaves
in the log is described once, by `publishPhase_step`.
-/

namespace AlertTriage

open Library

/-! ## §1  The system -/

inductive DeliveryStep where
  | others (i : Interlude) (conn : Connection)
      (jwtCache : List (String × JwtCacheEntry)) (localSeq : List (String × ℕ))
  | deliver (deps : WorkerDeps) (e : HandleEnv) (settle : Outcome)

/-- Others write only keys that are theirs to write. -/
def Interlude.within (writable : String → Bool) (i : Interlude) : Bool :=
  i.edits.all fun e => writable e.key

/-- The next delivery may find another process, hence another connection and
other caches. -/
def deliveryStep (msg : NatsMsg) (writable : String → Bool) (w : World) :
    DeliveryStep → Option World
  | .others i conn jwtCache localSeq =>
      if i.within writable then
        some { w.elapse i with
          conn := conn, jwtCache := jwtCache, localSeq := localSeq }
      else none
  | .deliver deps e settle =>
      if e.meanwhile.within writable then
        some (dispatchOne deps e settle msg w).2
      else none

/-- One message on the stream, seen from its publication on. -/
def deliverySystem (msg : NatsMsg) (writable : String → Bool) :
    System World DeliveryStep where
  start w := w.log = []
  step := deliveryStep msg writable

/-! ## §2  What a worker keeps -/

/-- `INCR` takes effect on the alert's counter: it is absent or a number. -/
def seqCounts (alertId : String) (w : World) : Bool :=
  match w.lookup (seqKey alertId) with
  | none => true
  | some (.count _) => true
  | some _ => false

/-- A property of the world that no action of a worker ends, as long as it
publishes only these phases and others do only these things meanwhile. -/
structure KeptByWorker (phases : TriagePhase → Prop)
    (allowed : Interlude → Prop) (P : World → Prop) : Prop where
  jwtCache : ∀ c w, P w → P { w with jwtCache := c }
  localSeq : ∀ s w, P w → P { w with localSeq := s }
  incr : ∀ id n w, seqCounts id w = true → P w →
    P (w.overwrite (seqKey id) (.count n))
  expire : ∀ id w, P w → P (w.expire (seqKey id) (seqTtlSec * second))
  publish : ∀ e event w, phases event.phase → P w →
    P (w.afterPublish e none (phaseMsg event) false)
  elapse : ∀ i w, allowed i → P w → P (w.elapse i)
  settled : ∀ how w, P w → P (w.record (.settled how))

namespace KeptByWorker

variable {phases : TriagePhase → Prop} {allowed : Interlude → Prop}
  {P : World → Prop}

theorem localNext (h : KeptByWorker phases allowed P) (alertId : String) :
    Run.Keeps P (localNext alertId) :=
  fun w hw => h.localSeq _ w hw

theorem nextSeq (h : KeptByWorker phases allowed P) (deps : WorkerDeps)
    (e : PhaseEnv) (alertId : String) : Run.Keeps P (nextSeq deps e alertId) := by
  unfold AlertTriage.nextSeq
  split
  · exact h.localNext alertId
  refine Run.Keeps.tryExcept ?_ fun _ => h.localNext alertId
  refine Run.Keeps.bind ?_ fun n => Run.Keeps.bind ?_ fun _ => Run.Keeps.pure n
  · intro w hw
    unfold redisIncr
    split
    · rename_i hl
      rw [Run.call_world]
      split
      · exact h.incr alertId 1 w (by simp [seqCounts, hl]) hw
      · exact hw
    · rename_i n hl
      rw [Run.call_world]
      split
      · exact h.incr alertId (n + 1) w (by simp [seqCounts, hl]) hw
      · exact hw
    · split <;> exact hw
  · exact Run.Keeps.call fun s => h.expire alertId s

theorem isCancelled (deps : WorkerDeps) (o : Outcome) (alertId : String) :
    Run.Keeps P (isCancelled deps o alertId) := by
  unfold AlertTriage.isCancelled
  split
  · exact Run.Keeps.pure false
  · exact Run.Keeps.tryExcept
      (Run.Keeps.bind (Run.Keeps.call fun _ hs => hs) fun _ => Run.Keeps.pure _)
      fun _ => Run.Keeps.pure false

theorem publishPhase (h : KeptByWorker phases allowed P) (deps : WorkerDeps)
    (e : PhaseEnv) (alert : NormalizedAlert) {phase : TriagePhase}
    (hp : phases phase) : Run.Keeps P (publishPhase deps e alert phase) := by
  unfold AlertTriage.publishPhase
  split
  · exact Run.Keeps.pure ()
  split
  · exact Run.Keeps.pure ()
  refine Run.Keeps.bind (h.nextSeq deps e alert.alertId) fun seq => ?_
  refine Run.Keeps.bind ?_ fun _ => Run.Keeps.pure ()
  intro w hw
  rw [publish_spec]
  exact h.publish e.publish ⟨_, _, seq, e.emittedAt, none, phase⟩ w hp hw

theorem acceptAlert (h : KeptByWorker phases allowed P) (deps : WorkerDeps)
    (e : HandleEnv) (data : Body) (token : String) (hq : phases .queued)
    (hc : phases .cancelled) : Run.Keeps P (acceptAlert deps e data token) := by
  unfold AlertTriage.acceptAlert
  refine Run.Keeps.bind (verify_keeps h.jwtCache _ _ _ _) fun auth => ?_
  refine Run.Keeps.bind (Run.Keeps.ofExcept _) fun alert => ?_
  refine Run.Keeps.bind (h.publishPhase deps _ alert hq) fun _ => ?_
  refine Run.Keeps.bind (isCancelled deps _ _) fun cancelled => ?_
  split
  · exact Run.Keeps.bind (h.publishPhase deps _ alert hc) fun _ =>
      Run.Keeps.pure none
  · exact Run.Keeps.pure _

theorem investigate (h : KeptByWorker phases allowed P) (deps : WorkerDeps)
    (e : HandleEnv) (alert : NormalizedAlert) (hi : allowed e.meanwhile)
    (hf : phases .failed) (hd : phases .done) :
    Run.Keeps P (investigate deps e alert) := by
  unfold AlertTriage.investigate
  refine Run.Keeps.bind (Run.Keeps.call fun _ hs => hs) fun _ => ?_
  refine Run.Keeps.bind ?_ fun verdict =>
    Run.Keeps.bind (isCancelled deps _ _) fun _ =>
      h.publishPhase deps _ alert hd
  unfold awaitTriage
  refine Run.Keeps.bind (fun w hw => h.elapse _ w hi hw) fun _ => ?_
  split
  · exact Run.Keeps.pure _
  · exact Run.Keeps.bind (h.publishPhase deps _ alert hf) fun _ =>
      Run.Keeps.throw _
  · exact fun _ hw => hw

theorem safeSettle (h : KeptByWorker phases allowed P) (o : Outcome)
    (how : Settlement) : Run.Keeps P (safeSettle o how) :=
  Run.Keeps.tryExcept (Run.Keeps.call fun w hw => h.settled how w hw) fun _ =>
    Run.Keeps.pure ()

/-- Whatever a worker does with a message, the property stays. -/
theorem dispatchOne (h : KeptByWorker (fun _ => True) allowed P)
    (deps : WorkerDeps) (e : HandleEnv) (settle : Outcome) (msg : NatsMsg)
    (hi : allowed e.meanwhile) :
    Run.Keeps P (dispatchOne deps e settle msg) := by
  unfold AlertTriage.dispatchOne settleAs
  refine Run.Keeps.bind ?_ fun how => h.safeSettle settle how
  split
  · exact Run.Keeps.pure _
  refine Run.Keeps.tryExcept ?_ fun _ => Run.Keeps.pure _
  refine Run.Keeps.bind ?_ fun _ => Run.Keeps.pure _
  unfold handleMessage
  refine Run.Keeps.bind (h.acceptAlert deps e _ _ trivial trivial) fun alert => ?_
  cases alert with
  | none => exact Run.Keeps.pure ()
  | some alert => exact h.investigate deps e alert hi trivial trivial

/-- What workers keep holds after every step of a run, if the connection has
no part in it. -/
theorem step {msg : NatsMsg} {writable : String → Bool}
    (h : KeptByWorker (fun _ => True) allowed P)
    (hconn : ∀ c w, P w → P (w.setConn c))
    (hi : ∀ i : Interlude, i.within writable = true → allowed i) {w w' : World}
    {a : DeliveryStep}
    (hs : (deliverySystem msg writable).step w a = some w') (hw : P w) :
    P w' := by
  cases a with
  | others i conn jwtCache localSeq =>
      simp only [deliverySystem, deliveryStep] at hs
      split at hs
      · rename_i hwithin
        obtain rfl := Option.some.inj hs
        exact h.localSeq _ _ (h.jwtCache _ _ (hconn conn _
          (h.elapse i w (hi i hwithin) hw)))
      · simp at hs
  | deliver deps e settle =>
      simp only [deliverySystem, deliveryStep] at hs
      split at hs
      · rename_i hwithin
        obtain rfl := Option.some.inj hs
        exact h.dispatchOne deps e settle msg (hi _ hwithin) w hw
      · simp at hs

end KeptByWorker

end AlertTriage
