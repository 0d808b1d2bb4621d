import AlertTriage.Library.Transition
import AlertTriage.Runtime.RuntimeGlue
import AlertTriage.Runtime.TriageWorker

/-!
# What the producers publish and the worker admits

Two paths put alerts on the ALERTS stream: the inline publish of an ingest call
and the reconciler's publish of a write-ahead entry. The worker terminates
every message without a service token. Neither path attaches one, so over any
run of the producers every message that JetStream holds is terminated by every
worker (`stored_is_terminated`).
-/

namespace AlertTriage

open Library

/-! ## §1  The producers as a system -/

/-- What the producing processes do. The connection is that of the process
that makes the call. -/
inductive ProducerStep where
  | tick (d : ℕ)
  | enqueue (codec : AlertCodec) (state : Option RuntimeState) (c : Connection)
      (e : EnqueueEnv) (alert : NormalizedAlert)
  | reconcile (r : IngestReconciler) (c : Connection) (e : ScanEnv)

def producerStep (w : World) : ProducerStep → Option World
  | .tick d => some (w.advance d)
  | .enqueue codec state c e alert =>
      some (enqueueViaNats codec state e alert (w.setConn c)).2
  | .reconcile r c e => some (runOnce r e (w.setConn c)).2

/-- Write-ahead entries of any earlier history, an empty stream. -/
def producerSystem : System World ProducerStep where
  start w := w.log = []
  step := producerStep

/-! ## §2  No message carries a token -/

/-- No stored message carries a service token. -/
def Tokenless (w : World) : Prop :=
  ∀ id msg acked, Event.stored id msg acked ∈ w.log → msg.serviceToken = ""

theorem Tokenless.of_log {w w' : World} (h : Tokenless w)
    (hl : ∀ id msg acked, Event.stored id msg acked ∈ w'.log →
      Event.stored id msg acked ∈ w.log) : Tokenless w' :=
  fun id msg acked hm => h id msg acked (hl id msg acked hm)

/-- Without headers of its own a message carries at most its id. -/
theorem serviceToken_allHeaders (subject : String) (payload : Body)
    (alertId : String) :
    NatsMsg.serviceToken ⟨subject, payload, allHeaders (some alertId) []⟩ =
      "" := by
  by_cases h : alertId = ""
  · simp [NatsMsg.serviceToken, NatsMsg.header, allHeaders, h]
  · simp [NatsMsg.serviceToken, NatsMsg.header, allHeaders, h]

theorem Tokenless.afterPublish {w : World} (h : Tokenless w) (e : PublishEnv)
    (subject : String) (payload : Body) (alertId : String) :
    Tokenless (w.afterPublish e (some alertId)
      ⟨subject, payload, allHeaders (some alertId) []⟩ true) := by
  unfold World.afterPublish
  dsimp only
  split
  · intro id msg acked hm
    rcases List.mem_cons.mp hm with heq | hm
    · obtain ⟨rfl, rfl, rfl⟩ := Event.stored.inj heq
      exact serviceToken_allHeaders subject payload alertId
    · exact h id msg acked hm
  · exact h

theorem Tokenless.delete {w : World} (h : Tokenless w) (keys : List String) :
    Tokenless (w.delete keys) := by
  refine h.of_log fun id msg acked hm => ?_
  rcases List.mem_append.mp hm with hm | hm
  · obtain ⟨k, -, v, -, hx⟩ := World.mem_deletions hm
    exact absurd hx (by simp)
  · exact hm

theorem Tokenless.redisSet {w w' : World} {key : String} {value : RedisValue}
    (h : Tokenless w) (hl : w'.log = .redisSet key value :: w.log) :
    Tokenless w' := by
  refine h.of_log fun id msg acked hm => ?_
  rw [hl] at hm
  simpa using hm

/-- Nothing the reconciler does puts a token on the stream. -/
theorem tokenless_kept : KeptByReconciler Tokenless where
  advance _ _ h := h
  setEx _ h := h.redisSet rfl
  overwrite _ h := h.redisSet rfl
  expire h := h
  delete h := h.delete _
  publish e subject payload alertId _ h := by
    cases subject with
    | str s => exact h.afterPublish e s payload alertId
    | _ => exact h
  dlqTaken h := h.of_log fun id msg acked hm => by simpa using hm

theorem enqueue_tokenless (codec : AlertCodec) (state : Option RuntimeState)
    (e : EnqueueEnv) (alert : NormalizedAlert) :
    Run.Keeps Tokenless (enqueueViaNats codec state e alert) :=
  enqueue_keeps (fun _ _ _ h => h.redisSet rfl)
    (fun e body _ h => h.afterPublish e _ (.utf8 body) alert.alertId)
    (fun _ h => h.delete _) codec state e

theorem tokenless_reachable {w : World} (h : producerSystem.Reachable w) :
    Tokenless w := by
  apply h.invariant
  · intro w hw id msg acked hm
    rw [show w.log = [] from hw] at hm
    exact absurd hm (by simp)
  · intro w a w' hw _ hs
    cases a with
    | tick d =>
        obtain rfl := Option.some.inj hs
        exact hw
    | enqueue codec state c e alert =>
        obtain rfl := Option.some.inj hs
        exact enqueue_tokenless codec state e alert (w.setConn c) hw
    | reconcile r c e =>
        obtain rfl := Option.some.inj hs
        exact tokenless_kept.runOnce r e (w.setConn c) hw

/-! ## §3  The worker's answer -/

/-- **Every message that a producer gets onto the stream is terminated for its
missing token**, by every worker, whatever its state. -/
theorem stored_is_terminated {w : World} (h : producerSystem.Reachable w)
    {id : Option String} {msg : NatsMsg} {acked : Bool}
    (hm : Event.stored id msg acked ∈ w.log) (deps : WorkerDeps) (e : HandleEnv)
    (settle : Outcome) (w' : World) :
    msg.serviceToken = "" ∧
      dispatchOne deps e settle msg w' = safeSettle settle .term w' := by
  have ht := tokenless_reachable h id msg acked hm
  refine ⟨ht, ?_⟩
  rw [dispatchOne, settleAs, if_pos ht]
  rfl

/-- Every outside call answers. -/
def smooth : EnqueueEnv := ⟨.returned, ⟨.returned, .returned⟩, .returned⟩

/-- The world after one ingest call without any failure. -/
def inlineWorld : World :=
  (enqueueViaNats plainCodec (some ⟨true, some (startupReconciler "api-1")⟩)
    smooth sampleAlert World.fresh).2

/-- The body that this call publishes. -/
def inlineBody : String :=
  Json.dumps pydanticStyle (.obj sampleAlert.plainDump)

theorem inlineWorld_reachable : producerSystem.Reachable inlineWorld :=
  System.Reached.step
    (a := .enqueue plainCodec (some ⟨true, some (startupReconciler "api-1")⟩)
      ⟨false, false⟩ smooth sampleAlert)
    (System.Reached.start (show World.fresh.log = [] from rfl)) trivial rfl

theorem inlineWorld_log :
    Event.stored (some "a1") (inlineMsg sampleAlert inlineBody) true ∈
      inlineWorld.log := by
  have hlog : inlineWorld.log =
      [.redisDeleted (pendingKey "a1")
          (.text (Json.dumps pythonStyle
            (walPayload sampleAlert sampleAlert.plainDump))),
        .stored (some "a1") (inlineMsg sampleAlert inlineBody) true,
        .redisSet (pendingKey "a1")
          (.text (Json.dumps pythonStyle
            (walPayload sampleAlert sampleAlert.plainDump)))] := by
    rfl
  rw [hlog]
  simp

def plainDeps : WorkerDeps :=
  ⟨standardPyJwt joinMac, workerService, plainCodec, true, true⟩

theorem inline_message_terminated :
    (inlineMsg sampleAlert inlineBody).serviceToken = "" ∧
      dispatchOne plainDeps smoothHandle .returned
          (inlineMsg sampleAlert inlineBody) inlineWorld =
        safeSettle .returned .term inlineWorld :=
  stored_is_terminated inlineWorld_reachable inlineWorld_log plainDeps
    smoothHandle .returned inlineWorld

/-- One accepted alert, all services up: the message is on the stream and the
worker terminates it. -/
theorem inline_message_refused :
    producerSystem.Reachable inlineWorld ∧
      Event.stored (some "a1") (inlineMsg sampleAlert inlineBody) true ∈
        inlineWorld.log ∧
      ∀ deps e w', (dispatchOne deps e .returned
        (inlineMsg sampleAlert inlineBody) w').2.log =
          .settled .term :: w'.log := by
  refine ⟨inlineWorld_reachable, inlineWorld_log, fun deps e w' => ?_⟩
  have ht : (inlineMsg sampleAlert inlineBody).serviceToken = "" :=
    serviceToken_allHeaders _ _ _
  rw [dispatchOne, settleAs, if_pos ht]
  rfl

end AlertTriage
