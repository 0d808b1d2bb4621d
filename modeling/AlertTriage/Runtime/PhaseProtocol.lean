import AlertTriage.Runtime.OutcomeOnRecord

/-!
# The phase events of one message

Everyone who follows an alert reads its phase events: `queued` when a worker
takes the message, then how it ended. One execution of `handle_message` sends
at most these two (`followUp_end`), numbered by a counter in Redis. The end
that it announces is the end that it came to, except in two cases:
`done` is published whether or not the run was cancelled on the way, and
nothing is published when `get_checkpointer` raises, which stands before the
`try` (`phase_protocol_iff`).
-/

namespace AlertTriage

open Library

/-! ## §1  The counter of an alert's events -/

/-- The events counted so far. -/
def World.counted (alertId : String) (w : World) : ℕ :=
  match w.lookup (seqKey alertId) with
  | some (.count n) => n
  | _ => 0

/-- One more event counted, and the counter's lifetime renewed. -/
def World.numbered (alertId : String) (w : World) : World :=
  (w.overwrite (seqKey alertId) (.count (w.counted alertId + 1))).expire
    (seqKey alertId) (seqTtlSec * second)

/-- `INCR` and `EXPIRE` answer. -/
def PhaseEnv.counts (e : PhaseEnv) : Bool :=
  decide (e.incr = .returned) && decide (e.expire = .returned)

theorem nextSeq_up {deps : WorkerDeps} {e : PhaseEnv} {alertId : String}
    {w : World} (hclient : deps.hasSeqClient = true) (he : e.counts = true)
    (hw : seqCounts alertId w = true) :
    nextSeq deps e alertId w =
      (.ok (w.counted alertId + 1), w.numbered alertId) := by
  obtain ⟨hincr, hexpire⟩ := by simpa [PhaseEnv.counts] using he
  unfold seqCounts at hw
  unfold nextSeq World.numbered World.counted
  rw [hclient, hincr, hexpire]
  cases hl : w.lookup (seqKey alertId) with
  | none =>
      simp [Run.tryExcept, Run.bind_apply, redisIncr, redisExpire, hl, Run.call]
  | some v =>
      rw [hl] at hw
      cases v with
      | count n =>
          simp [Run.tryExcept, Run.bind_apply, redisIncr, redisExpire, hl,
            Run.call]
      | text s => exact absurd hw (by simp)
      | time t => exact absurd hw (by simp)

theorem lookup_numbered (alertId : String) (w : World) :
    (w.numbered alertId).lookup (seqKey alertId) =
      some (.count (w.counted alertId + 1)) := by
  have hover : (w.overwrite (seqKey alertId)
      (.count (w.counted alertId + 1))).lookup (seqKey alertId) =
        some (.count (w.counted alertId + 1)) := TtlStore.get_overwrite
  rw [← hover]
  exact TtlStore.get_expire (by decide)

theorem lookup_numbered_ne {key alertId : String} (h : key ≠ seqKey alertId)
    (w : World) : (w.numbered alertId).lookup key = w.lookup key :=
  (World.lookup_expire_ne h).trans (World.lookup_overwrite_ne h)

@[simp] theorem counted_numbered (alertId : String) (w : World) :
    (w.numbered alertId).counted alertId = w.counted alertId + 1 := by
  simp [World.counted, lookup_numbered]

@[simp] theorem seqCounts_numbered (alertId : String) (w : World) :
    seqCounts alertId (w.numbered alertId) = true := by
  simp [seqCounts, lookup_numbered]

/-! ## §2  Worlds with the same Redis -/

structure SameRedis (w w' : World) : Prop where
  redis : w'.redis = w.redis
  now : w'.now = w.now

namespace SameRedis

variable {w w' : World}

theorem lookup (h : SameRedis w w') (key : String) :
    w'.lookup key = w.lookup key := by
  simp only [World.lookup, h.redis, h.now]

theorem counted (h : SameRedis w w') (alertId : String) :
    w'.counted alertId = w.counted alertId := by
  simp only [World.counted, h.lookup]

theorem seqCounts (h : SameRedis w w') (alertId : String) :
    AlertTriage.seqCounts alertId w' = AlertTriage.seqCounts alertId w := by
  simp only [AlertTriage.seqCounts, h.lookup]

theorem numbered (h : SameRedis w w') (alertId : String) :
    SameRedis (w.numbered alertId) (w'.numbered alertId) := by
  constructor
  · simp only [World.numbered, World.expire, World.overwrite, h.counted,
      h.redis, h.now]
  · exact h.now

theorem elapse (h : SameRedis w w') (i : Interlude) :
    SameRedis (w.elapse i) (w'.elapse i) := by
  constructor
  · simp only [World.elapse, h.redis, h.now]
  · simp only [World.elapse, h.now]

theorem afterPublish (h : SameRedis w w') (e : PublishEnv) (msg : NatsMsg) :
    SameRedis w (w'.afterPublish e none msg false) := by
  unfold World.afterPublish
  dsimp only
  split
  · exact ⟨h.redis, h.now⟩
  · exact ⟨h.redis, h.now⟩

end SameRedis

/-! ## §3  The messages that were sent -/

/-- The messages that core NATS took, newest first. -/
def World.sent (w : World) : List NatsMsg :=
  w.log.filterMap fun
    | .sent msg => some msg
    | _ => none

@[simp] theorem sent_numbered (alertId : String) (w : World) :
    (w.numbered alertId).sent = w.sent := rfl

@[simp] theorem sent_elapse (i : Interlude) (w : World) :
    (w.elapse i).sent = w.sent := rfl

theorem sent_afterPublish (e : PublishEnv) (msg : NatsMsg) (w : World) :
    (w.afterPublish e none msg false).sent =
      if e.delivers w.conn then msg :: w.sent else w.sent := by
  unfold World.afterPublish
  dsimp only
  split
  · rfl
  · rfl

/-- A message tells its whole event. -/
theorem phaseMsg_injective {e e' : PhaseEvent} (h : phaseMsg e = phaseMsg e') :
    e = e' := by
  have hjson : e.modelDumpJson = e'.modelDumpJson := by
    simpa [phaseMsg] using congrArg NatsMsg.data h
  have he := Json.loads_dumps pydanticStyle e.modelDump_distinct
  have he' := Json.loads_dumps pydanticStyle e'.modelDump_distinct
  have hd : e.modelDump = e'.modelDump := by
    rw [PhaseEvent.modelDumpJson, PhaseEvent.modelDumpJson] at hjson
    rw [hjson, he'] at he
    exact (Option.some.inj he).symm
  simp only [PhaseEvent.modelDump, Json.obj.injEq, List.cons.injEq,
    Prod.mk.injEq, Json.str.injEq, Json.int.injEq, true_and, and_true,
    Nat.cast_inj] at hd
  obtain ⟨hid, htenant, hseq, hat, htrace, hphase⟩ := hd
  obtain ⟨id, tenant, seq, emittedAt, trace, phase⟩ := e
  obtain ⟨id', tenant', seq', emittedAt', trace', phase'⟩ := e'
  have hphase' : phase = phase' := TriagePhase.value_injective hphase
  have htrace' : trace = trace' := by
    cases trace <;> cases trace' <;> simp_all [optionalText]
  simp_all

/-- **What a phase publish does** while the counter works: the event gets the
next number and is sent if the broker takes it. -/
theorem publishPhase_up {deps : WorkerDeps} {e : PhaseEnv}
    {alert : NormalizedAlert} {tenantId : String} {w : World}
    (phase : TriagePhase) (ht : alert.tenantId = some tenantId)
    (hne : tenantId ≠ "") (hclient : deps.hasSeqClient = true)
    (he : e.counts = true) (hw : seqCounts alert.alertId w = true) :
    publishPhase deps e alert phase w =
      (if e.publish.dies w.conn then .error .kill else .ok (),
        (w.numbered alert.alertId).afterPublish e.publish none
          (phaseMsg ⟨alert.alertId, tenantId, w.counted alert.alertId + 1,
            e.emittedAt, none, phase⟩) false) := by
  simp only [publishPhase, ht, if_neg hne]
  rw [Run.bind_ok (nextSeq_up hclient he hw)]
  simp only [Run.bind_apply, publish_spec]
  have hconn : (w.numbered alert.alertId).conn = w.conn := rfl
  rw [hconn]
  by_cases hd : e.publish.dies w.conn = true
  · simp only [hd, if_true]
    rfl
  · simp only [hd]
    rfl

/-! ## §4  How a handling ends -/

/-- The answer of `is_cancelled`; none if the process dies there. -/
def flagReading (deps : WorkerDeps) (o : Outcome) (alertId : String)
    (w : World) : Option Bool :=
  if deps.hasCancelClient && o.kills then none
  else
    some (deps.hasCancelClient && decide (o = .returned) &&
      (w.lookup (cancelledKey alertId)).map RedisValue.toText == some "1")

theorem isCancelled_reading (deps : WorkerDeps) (o : Outcome) (alertId : String)
    (w : World) :
    isCancelled deps o alertId w =
      (match flagReading deps o alertId w with
        | none => .error .kill
        | some cancelled => .ok cancelled, w) := by
  rw [isCancelled_answer, flagReading]
  by_cases h : (deps.hasCancelClient && o.kills) = true
  · simp only [h, if_true]
  · simp only [h]
    rfl

theorem SameRedis.flagReading {w w' : World} (h : SameRedis w w')
    (deps : WorkerDeps) (o : Outcome) (alertId : String) :
    AlertTriage.flagReading deps o alertId w' =
      AlertTriage.flagReading deps o alertId w := by
  simp only [AlertTriage.flagReading, h.lookup]

theorem flagReading_numbered (deps : WorkerDeps) (o : Outcome)
    (alertId : String) (w : World) :
    flagReading deps o alertId (w.numbered alertId) =
      flagReading deps o alertId w := by
  simp only [flagReading,
    lookup_numbered_ne (cancelledKey_ne_seqKey alertId alertId)]

/-- From the first cancellation check on. -/
def followUp (deps : WorkerDeps) (e : HandleEnv) (alert : NormalizedAlert) :
    Io Unit := do
  let cancelled ← isCancelled deps e.cancelBefore alert.alertId
  if cancelled then publishPhase deps e.cancelled alert .cancelled
  else investigate deps e alert

/-- An authenticated alert is announced as queued, then followed up. -/
theorem handleMessage_followUp {deps : WorkerDeps} {e : HandleEnv}
    {data : Body} {token : String} {auth : AuthContext}
    {alert : NormalizedAlert} {w w₁ : World}
    (hauth : verify deps.lib deps.jwtService e.revoked token w = (.ok auth, w₁))
    (hparse : parseAlert deps.codec data auth = .ok alert) :
    handleMessage deps e data token w =
      (do
        publishPhase deps e.queued alert .queued
        followUp deps e alert) w₁ := by
  unfold handleMessage acceptAlert followUp
  simp only [Run.bind_apply, hauth, hparse, Run.ofExcept, Run.pure_apply]
  rcases publishPhase deps e.queued alert .queued w₁ with ⟨_ | _, w₂⟩
  · rfl
  dsimp only
  rcases isCancelled deps e.cancelBefore alert.alertId w₂ with ⟨_ | _ | _, w₃⟩
  · rfl
  · rfl
  · simp only [if_true, Run.bind_apply]
    rcases publishPhase deps e.cancelled alert .cancelled w₃ with ⟨_ | _, w₄⟩
    · rfl
    · rfl

/-- The last phase of a handling, the calls it is published by, and what
happened before. -/
structure Ending where
  phase : TriagePhase
  env : PhaseEnv
  pause : Interlude

/-- How the handling ends, if it gets to publish that. -/
def ending (deps : WorkerDeps) (e : HandleEnv) (alertId : String) (w : World) :
    Option Ending :=
  match flagReading deps e.cancelBefore alertId w with
  | none => none
  | some true => some ⟨.cancelled, e.cancelled, ⟨0, []⟩⟩
  | some false =>
      match e.checkpointer, e.triage with
      | .returned, .raised => some ⟨.failed, e.failed, e.meanwhile⟩
      | .returned, .verdict _ =>
          match flagReading deps e.cancelAfter alertId (w.elapse e.meanwhile) with
          | none => none
          | some _ => some ⟨.done, e.done, e.meanwhile⟩
      | _, _ => none

/-- Publish the ending; a failed run raises. -/
def Ending.close (deps : WorkerDeps) (alert : NormalizedAlert) (x : Ending) :
    Io Unit := do
  publishPhase deps x.env alert x.phase
  if x.phase = .failed then Run.throw (.other "run_triage")

theorem SameRedis.ending {w w' : World} (h : SameRedis w w')
    (deps : WorkerDeps) (e : HandleEnv) (alertId : String) :
    AlertTriage.ending deps e alertId w' =
      AlertTriage.ending deps e alertId w := by
  simp only [AlertTriage.ending, h.flagReading, (h.elapse e.meanwhile).flagReading]

theorem publishPhase_close (deps : WorkerDeps) (e : PhaseEnv)
    (alert : NormalizedAlert) {phase : TriagePhase} (pause : Interlude)
    (h : phase ≠ .failed) :
    Ending.close deps alert ⟨phase, e, pause⟩ =
      publishPhase deps e alert phase := by
  funext w
  unfold Ending.close
  simp only [Run.bind_apply, if_neg h]
  rcases publishPhase deps e alert phase w with ⟨_ | _, w'⟩
  · rfl
  · rfl

/-- **What follows `queued`**: the ending is published, if there is one. -/
theorem followUp_end (deps : WorkerDeps) (e : HandleEnv)
    (alert : NormalizedAlert) (w : World) :
    match ending deps e alert.alertId w with
    | none => (followUp deps e alert w).2.sent = w.sent
    | some x => followUp deps e alert w = x.close deps alert (w.elapse x.pause) := by
  unfold ending followUp
  simp only [Run.bind_apply, isCancelled_reading]
  cases flagReading deps e.cancelBefore alert.alertId w with
  | none => rfl
  | some cancelled =>
  cases cancelled with
  | true =>
      show publishPhase deps e.cancelled alert .cancelled w =
        Ending.close deps alert ⟨.cancelled, e.cancelled, ⟨0, []⟩⟩ w
      rw [publishPhase_close _ _ _ _ (by decide)]
  | false =>
  unfold investigate
  simp only [Bool.false_eq_true, if_false, Run.bind_apply]
  -- the investigation ends with the checkpointer, the triage or the flag read after it
  cases e.checkpointer with
  | raised b => cases b <;> rfl
  | killed b => cases b <;> rfl
  | returned =>
  cases htriage : e.triage with
  | killed => simp [awaitTriage, htriage, Run.call, Run.bind_apply]
  | raised =>
      simp only [awaitTriage, htriage, Run.call, Run.bind_apply,
        Run.modify_apply, Ending.close, id]
      rcases publishPhase deps e.failed alert .failed (w.elapse e.meanwhile)
        with ⟨_ | _, w'⟩
      · rfl
      · rfl
  | verdict v =>
      simp only [awaitTriage, htriage, Run.call, Run.bind_apply,
        Run.modify_apply, Run.pure_apply, isCancelled_reading, id]
      cases flagReading deps e.cancelAfter alert.alertId (w.elapse e.meanwhile) with
      | none => rfl
      | some late =>
          show publishPhase deps e.done alert .done (w.elapse e.meanwhile) =
            Ending.close deps alert ⟨.done, e.done, e.meanwhile⟩
              (w.elapse e.meanwhile)
          rw [publishPhase_close _ _ _ _ (by decide)]

/-! ## §5  The protocol -/

def TriagePhase.terminal (p : TriagePhase) : Bool :=
  p == .cancelled || p == .failed || p == .done

/-- Two messages were sent, `queued` and then an ending with a greater number,
both of one alert of the token's tenant; the ending says what happened. -/
def PhaseProtocol (auth : AuthContext) (cancelled : Prop) (w : World)
    (out : Except (Unwind PyExn) Unit × World) : Prop :=
  ∃ first last : PhaseEvent,
    out.2.sent = phaseMsg last :: phaseMsg first :: w.sent ∧
    first.phase = .queued ∧ last.phase.terminal = true ∧
    first.tenantId = auth.tenantId ∧ last.tenantId = auth.tenantId ∧
    last.alertId = first.alertId ∧
    first.eventSeq < last.eventSeq ∧
    (last.phase = .cancelled ↔ cancelled) ∧
    (last.phase = .failed ↔ ∃ x, out.1 = .error (.exception x))

/-- Redis when the triage has run. -/
def World.afterTriage (e : HandleEnv) (alertId : String) (w : World) : World :=
  (w.numbered alertId).elapse e.meanwhile

/-- The run was cancelled: the flag was seen before dispatch, the verdict has
the status, or the flag was seen after the graph. -/
def CancelledRun (deps : WorkerDeps) (e : HandleEnv) (alertId : String)
    (w : World) : Prop :=
  flagReading deps e.cancelBefore alertId w = some true ∨
    (flagReading deps e.cancelBefore alertId w = some false ∧
      e.checkpointer = .returned ∧
      ∃ v, e.triage = .verdict v ∧
        (v.status = some "cancelled" ∨
          flagReading deps e.cancelAfter alertId (w.afterTriage e alertId) =
            some true))

/-- Redis is available to the sequencer: it answers every command, and what it
holds of the alert's counter can be counted on. -/
structure RedisUp (deps : WorkerDeps) (e : HandleEnv) (alertId : String)
    (w : World) : Prop where
  client : deps.hasSeqClient = true
  answers : ∀ p ∈ [e.queued, e.cancelled, e.failed, e.done], p.counts = true
  before : seqCounts alertId w = true
  after : seqCounts alertId (w.afterTriage e alertId) = true

/-- The connection over which a message got out carries the next one too. -/
theorem connAfter_of_delivers {e : PublishEnv} {c : Connection}
    (h : e.delivers c = true) : e.connAfter c = ⟨true, true⟩ := by
  obtain ⟨connected, js⟩ := c
  cases connected <;> cases js <;>
    simp_all [PublishEnv.delivers, PublishEnv.reaches, PublishEnv.connAfter]

theorem delivers_connected (e : PublishEnv) :
    e.delivers ⟨true, true⟩ = e.send.applied := by
  simp [PublishEnv.delivers, PublishEnv.reaches]

theorem dies_connected (e : PublishEnv) : e.dies ⟨true, true⟩ = e.send.kills := by
  simp [PublishEnv.dies, PublishEnv.reaches]

theorem dies_of_delivers {e : PublishEnv} {c : Connection}
    (h : e.delivers c = true) : e.dies c = e.send.kills := by
  obtain ⟨connected, js⟩ := c
  cases connected <;> cases js <;>
    simp_all [PublishEnv.delivers, PublishEnv.reaches, PublishEnv.dies,
      Outcome.kills]

theorem not_protocol_of_few {auth : AuthContext} {cancelled : Prop} {w : World}
    {out : Except (Unwind PyExn) Unit × World}
    (h : out.2.sent.length ≤ w.sent.length + 1) :
    ¬ PhaseProtocol auth cancelled w out := by
  rintro ⟨first, last, hsent, -⟩
  rw [hsent] at h
  simp at h

/-- With two messages sent the protocol is about their events. -/
theorem protocol_of_two {auth : AuthContext} {cancelled : Prop} {w : World}
    {out : Except (Unwind PyExn) Unit × World} {first last : PhaseEvent}
    (h : out.2.sent = phaseMsg last :: phaseMsg first :: w.sent)
    (hfirst : first.phase = .queued) (hlast : last.phase.terminal = true)
    (ht : first.tenantId = auth.tenantId) (ht' : last.tenantId = auth.tenantId)
    (hid : last.alertId = first.alertId) :
    PhaseProtocol auth cancelled w out ↔
      first.eventSeq < last.eventSeq ∧ (last.phase = .cancelled ↔ cancelled) ∧
        (last.phase = .failed ↔ ∃ x, out.1 = .error (.exception x)) := by
  constructor
  · rintro ⟨first', last', hsent, -, -, -, -, -, hrest⟩
    rw [h] at hsent
    obtain ⟨hl, hsent⟩ := List.cons.inj hsent
    obtain ⟨hf, -⟩ := List.cons.inj hsent
    rw [phaseMsg_injective hl, phaseMsg_injective hf]
    exact hrest
  · intro hrest
    exact ⟨first, last, h, hfirst, hlast, ht, ht', hid, hrest⟩

theorem ending_cases {deps : WorkerDeps} {e : HandleEnv} {alertId : String}
    {w : World} {x : Ending} (h : ending deps e alertId w = some x) :
    (flagReading deps e.cancelBefore alertId w = some true ∧
        x = ⟨.cancelled, e.cancelled, ⟨0, []⟩⟩) ∨
      (flagReading deps e.cancelBefore alertId w = some false ∧
        e.checkpointer = .returned ∧
        ((e.triage = .raised ∧ x = ⟨.failed, e.failed, e.meanwhile⟩) ∨
          ∃ v late, e.triage = .verdict v ∧
            flagReading deps e.cancelAfter alertId (w.elapse e.meanwhile) =
              some late ∧
            x = ⟨.done, e.done, e.meanwhile⟩)) := by
  unfold ending at h
  cases hb : flagReading deps e.cancelBefore alertId w with
  | none => simp [hb] at h
  | some cancelled =>
  cases cancelled with
  | true =>
      left
      simp only [hb, Option.some.injEq] at h
      exact ⟨rfl, h.symm⟩
  | false =>
      right
      simp only [hb] at h
      split at h
      · rename_i hc ht
        exact ⟨rfl, hc, .inl ⟨ht, (Option.some.inj h).symm⟩⟩
      · rename_i v hc ht
        split at h
        · exact absurd h (by simp)
        · rename_i late hlate
          exact ⟨rfl, hc, .inr ⟨v, late, ht, hlate, (Option.some.inj h).symm⟩⟩
      · exact absurd h (by simp)

section Handling

variable {deps : WorkerDeps} {e : HandleEnv} {data : Body} {token : String}
  {auth : AuthContext} {alert : NormalizedAlert} {w w₁ : World}

/-- What an ending publishes while the counter works. -/
theorem close_up (hup : RedisUp deps e alert.alertId w)
    (ht : alert.tenantId = some auth.tenantId) (hne : auth.tenantId ≠ "")
    {x : Ending}
    (hx : ending deps e alert.alertId (w.numbered alert.alertId) = some x)
    {w' : World} (hw' : SameRedis ((w.numbered alert.alertId).elapse x.pause) w') :
    x.phase.terminal = true ∧
      x.close deps alert w' =
        (if x.env.publish.dies w'.conn then .error .kill
          else if x.phase = .failed then
            .error (.exception (.other "run_triage"))
          else .ok (),
          (w'.numbered alert.alertId).afterPublish x.env.publish none
            (phaseMsg ⟨alert.alertId, auth.tenantId,
              ((w.numbered alert.alertId).elapse x.pause).counted alert.alertId + 1,
              x.env.emittedAt, none, x.phase⟩) false) := by
  -- whichever way it ends, its number is counted and its phase terminal
  have hfacts : x.env.counts = true ∧ x.phase.terminal = true ∧
      seqCounts alert.alertId ((w.numbered alert.alertId).elapse x.pause) =
        true := by
    rcases ending_cases hx with ⟨-, rfl⟩ | ⟨-, -, ⟨-, rfl⟩ | ⟨v, late, -, -, rfl⟩⟩
    · exact ⟨hup.answers _ (by simp), rfl, seqCounts_numbered alert.alertId w⟩
    · exact ⟨hup.answers _ (by simp), rfl, hup.after⟩
    · exact ⟨hup.answers _ (by simp), rfl, hup.after⟩
  obtain ⟨hcounts, hterminal, hseq⟩ := hfacts
  refine ⟨hterminal, ?_⟩
  rw [← hw'.seqCounts] at hseq
  rw [← hw'.counted]
  have hpublish := publishPhase_up x.phase ht hne hup.client hcounts hseq
  unfold Ending.close
  rw [Run.bind_apply, hpublish]
  by_cases hd : x.env.publish.dies w'.conn = true
  · simp only [hd, if_true]
  · simp only [hd]
    by_cases hf : x.phase = .failed
    · simp only [hf, if_true]
      rfl
    · simp only [if_neg hf]
      rfl

/-- The protocol of an alert with a tenant, in terms of its ending. -/
theorem protocol_ending (hauth : verify deps.lib deps.jwtService e.revoked token w =
      (.ok auth, w₁))
    (hparse : parseAlert deps.codec data auth = .ok alert)
    (hne : auth.tenantId ≠ "") (hup : RedisUp deps e alert.alertId w)
    (cancelled : Prop) :
    PhaseProtocol auth cancelled w (handleMessage deps e data token w) ↔
      e.queued.publish.delivers w.conn = true ∧
      e.queued.publish.send.kills = false ∧
      ∃ x, ending deps e alert.alertId (w.numbered alert.alertId) = some x ∧
        x.env.publish.send.applied = true ∧
        w.counted alert.alertId <
          ((w.numbered alert.alertId).elapse x.pause).counted alert.alertId ∧
        (x.phase = .cancelled ↔ cancelled) ∧
        (x.phase = .failed → x.env.publish.send.kills = false) := by
  have ht := parseAlert_tenant hparse
  obtain ⟨c, hw₁⟩ := verify_world deps.lib deps.jwtService e.revoked token w
  rw [hauth] at hw₁
  obtain rfl : w₁ = { w with jwtCache := c } := hw₁
  have hsame₁ : SameRedis w { w with jwtCache := c } := ⟨rfl, rfl⟩
  have hqueued := publishPhase_up .queued ht hne hup.client
    (hup.answers e.queued (by simp))
    ((hsame₁.seqCounts alert.alertId).trans hup.before)
  rw [hsame₁.counted] at hqueued
  rw [handleMessage_followUp hauth hparse, Run.bind_apply, hqueued]
  generalize hfirst : (⟨alert.alertId, auth.tenantId, w.counted alert.alertId + 1,
    e.queued.emittedAt, none, .queued⟩ : PhaseEvent) = first
  -- the world after the first publish, of `queued`
  generalize hw₂ : (World.numbered alert.alertId
    { w with jwtCache := c }).afterPublish e.queued.publish none
      (phaseMsg first) false = w₂
  have hsent₂ : w₂.sent = if e.queued.publish.delivers w.conn
      then phaseMsg first :: w.sent else w.sent := by
    rw [← hw₂]
    exact sent_afterPublish _ _ _
  have hconn₂ : w₂.conn = e.queued.publish.connAfter w.conn := by
    rw [← hw₂]
    exact World.afterPublish_conn _ _ _ _ _
  have hsame₂ : SameRedis (w.numbered alert.alertId) w₂ := by
    rw [← hw₂]
    exact (hsame₁.numbered alert.alertId).afterPublish _ _
  have hfew₂ : w₂.sent.length ≤ w.sent.length + 1 := by
    rw [hsent₂]
    split <;> simp
  -- dying in it leaves at most one event
  by_cases hdies : e.queued.publish.dies w.conn = true
  · simp only [hdies, if_true]
    apply iff_of_false (not_protocol_of_few hfew₂)
    rintro ⟨hdel, hkills, -⟩
    rw [dies_of_delivers hdel, hkills] at hdies
    exact absurd hdies (by decide)
  simp only [hdies, Bool.false_eq_true, if_false]
  have hend := followUp_end deps e alert w₂
  rw [hsame₂.ending] at hend
  cases hx : ending deps e alert.alertId (w.numbered alert.alertId) with
  | none =>
      rw [hx] at hend
      refine iff_of_false (not_protocol_of_few ?_) (by simp)
      rw [hend]
      exact hfew₂
  | some x =>
  rw [hx] at hend
  obtain ⟨hterminal, hclose⟩ :=
    close_up hup ht hne hx (hsame₂.elapse x.pause)
  simp only at hend
  rw [hend, hclose]
  have hconn₃ : (w₂.elapse x.pause).conn = w₂.conn := rfl
  rw [hconn₃, hconn₂]
  generalize hlast : (⟨alert.alertId, auth.tenantId,
    ((w.numbered alert.alertId).elapse x.pause).counted alert.alertId + 1,
    x.env.emittedAt, none, x.phase⟩ : PhaseEvent) = last
  have hsent := sent_afterPublish x.env.publish (phaseMsg last)
    ((w₂.elapse x.pause).numbered alert.alertId)
  have hconn₄ : ((w₂.elapse x.pause).numbered alert.alertId).conn = w₂.conn := rfl
  rw [sent_numbered, sent_elapse, hsent₂, hconn₄, hconn₂] at hsent
  -- either event may be lost, and then one is too few
  by_cases hdel : e.queued.publish.delivers w.conn = true
  · rw [if_pos hdel] at hsent
    rw [connAfter_of_delivers hdel, delivers_connected] at hsent
    rw [connAfter_of_delivers hdel, dies_connected]
    have hkills : e.queued.publish.send.kills = false := by
      rw [← dies_of_delivers hdel]
      simpa using hdies
    by_cases happ : x.env.publish.send.applied = true
    · rw [if_pos happ] at hsent
      rw [protocol_of_two hsent (by rw [← hfirst]) (by rw [← hlast]; exact hterminal)
        (by rw [← hfirst]) (by rw [← hlast]) (by rw [← hfirst, ← hlast])]
      have hraises : (x.phase = .failed ↔ ∃ y,
          (if x.env.publish.send.kills then .error .kill
            else if x.phase = .failed then
              .error (.exception (.other "run_triage"))
            else .ok () : Except (Unwind PyExn) Unit) = .error (.exception y)) ↔
          (x.phase = .failed → x.env.publish.send.kills = false) := by
        cases x.env.publish.send.kills <;> by_cases hf : x.phase = .failed <;>
          simp [hf]
      rw [← hfirst, ← hlast]
      simp only [hraises, Option.some.injEq, exists_eq_left', hdel, hkills, happ,
        true_and, Nat.add_lt_add_iff_right]
    · rw [if_neg happ] at hsent
      refine iff_of_false (not_protocol_of_few ?_) ?_
      · rw [hsent]
        simp
      · rintro ⟨-, -, y, hy, happ', -⟩
        obtain rfl := Option.some.inj hy
        exact happ happ'
  · rw [if_neg hdel] at hsent
    refine iff_of_false (not_protocol_of_few ?_) fun h => hdel h.1
    rw [hsent]
    split <;> simp

/-- The handling comes to an end that it publishes as what it is: the flag is
seen at first, the run raises, or it returns a verdict and no cancellation is
noticed on the way; and the event of that gets out. -/
def EndsAsTold (deps : WorkerDeps) (e : HandleEnv) (alertId : String)
    (w : World) : Prop :=
  (flagReading deps e.cancelBefore alertId w = some true ∧
      e.cancelled.publish.send.applied = true) ∨
    (flagReading deps e.cancelBefore alertId w = some false ∧
      e.checkpointer = .returned ∧
      w.counted alertId < (w.afterTriage e alertId).counted alertId ∧
      ((e.triage = .raised ∧ e.failed.publish.send.applied = true ∧
          e.failed.publish.send.kills = false) ∨
        ∃ v, e.triage = .verdict v ∧ v.status ≠ some "cancelled" ∧
          flagReading deps e.cancelAfter alertId (w.afterTriage e alertId) =
            some false ∧
          e.done.publish.send.applied = true))

theorem ending_told (deps : WorkerDeps) (e : HandleEnv) (alertId : String)
    (w : World) :
    (∃ x, ending deps e alertId (w.numbered alertId) = some x ∧
        x.env.publish.send.applied = true ∧
        w.counted alertId <
          ((w.numbered alertId).elapse x.pause).counted alertId ∧
        (x.phase = .cancelled ↔ CancelledRun deps e alertId w) ∧
        (x.phase = .failed → x.env.publish.send.kills = false)) ↔
      EndsAsTold deps e alertId w := by
  constructor
  · rintro ⟨x, hx, happ, hcount, hcancel, hfailed⟩
    rcases ending_cases hx with
      ⟨hb, rfl⟩ | ⟨hb, hc, ⟨ht, rfl⟩ | ⟨v, late, ht, hlate, rfl⟩⟩
    · exact .inl ⟨(flagReading_numbered deps _ alertId w) ▸ hb, happ⟩
    · rw [flagReading_numbered] at hb
      exact .inr ⟨hb, hc, hcount, .inl ⟨ht, happ, hfailed rfl⟩⟩
    · rw [flagReading_numbered] at hb
      have hnot : ¬ CancelledRun deps e alertId w := fun h =>
        absurd (hcancel.mpr h) (by simp)
      refine .inr ⟨hb, hc, hcount, .inr ⟨v, ht, ?_, ?_, happ⟩⟩
      · intro hv
        exact hnot (.inr ⟨hb, hc, v, ht, .inl hv⟩)
      · cases late with
        | false => exact hlate
        -- a flag read after the investigation turns `done` into `cancelled`
        | true => exact absurd (.inr ⟨hb, hc, v, ht, .inr hlate⟩) hnot
  · rintro (⟨hb, happ⟩ | ⟨hb, hc, hcount, hrun⟩)
    · refine ⟨⟨.cancelled, e.cancelled, ⟨0, []⟩⟩, ?_, happ, ?_, ?_, by simp⟩
      · simp only [ending, flagReading_numbered, hb]
      · show w.counted alertId < (w.numbered alertId).counted alertId
        rw [counted_numbered]
        exact Nat.lt_succ_self _
      · exact iff_of_true rfl (.inl hb)
    have hnot : ∀ v, e.triage = .verdict v → v.status ≠ some "cancelled" →
        flagReading deps e.cancelAfter alertId (w.afterTriage e alertId) =
          some false → ¬ CancelledRun deps e alertId w := by
      rintro v ht hv hlate (hb' | ⟨-, -, v', ht', hv' | hlate'⟩)
      · exact absurd (hb.symm.trans hb') (by simp)
      · rw [ht] at ht'
        exact hv (TriageOutcome.verdict.inj ht' ▸ hv')
      · exact absurd (hlate.symm.trans hlate') (by simp)
    rcases hrun with ⟨ht, happ, hkills⟩ | ⟨v, ht, hv, hlate, happ⟩
    · refine ⟨⟨.failed, e.failed, e.meanwhile⟩, ?_, happ, hcount, ?_,
        fun _ => hkills⟩
      · simp only [ending, flagReading_numbered, hb, hc, ht]
      · apply iff_of_false (by simp)
        rintro (hb' | ⟨-, -, v, ht', -⟩)
        · exact absurd (hb.symm.trans hb') (by simp)
        · exact absurd (ht.symm.trans ht') (by simp)
    · refine ⟨⟨.done, e.done, e.meanwhile⟩, ?_, happ, hcount, ?_, by simp⟩
      · have hlate' : flagReading deps e.cancelAfter alertId
            ((w.numbered alertId).elapse e.meanwhile) = some false := hlate
        simp only [ending, flagReading_numbered, hb, hc, ht, hlate']
      · exact iff_of_false (by simp) (hnot v ht hv hlate)

/-- The protocol of an alert with a tenant. -/
theorem protocol_told
    (hauth : verify deps.lib deps.jwtService e.revoked token w = (.ok auth, w₁))
    (hparse : parseAlert deps.codec data auth = .ok alert)
    (hne : auth.tenantId ≠ "") (hup : RedisUp deps e alert.alertId w) :
    PhaseProtocol auth
        (∃ a, parseAlert deps.codec data auth = .ok a ∧
          CancelledRun deps e a.alertId w)
        w (handleMessage deps e data token w) ↔
      e.queued.publish.delivers w.conn = true ∧
        e.queued.publish.send.kills = false ∧
        EndsAsTold deps e alert.alertId w := by
  rw [protocol_ending hauth hparse hne hup, ← ending_told]
  simp only [hparse, Except.ok.injEq, exists_eq_left']

/-- Without a tenant nothing is ever sent. -/
theorem unroutable_sends_nothing (deps : WorkerDeps) (e : HandleEnv)
    {alert : NormalizedAlert} (h : alert.routable = false) (s : List NatsMsg) :
    Run.Keeps (fun w => w.sent = s) (do
      publishPhase deps e.queued alert .queued
      followUp deps e alert) := by
  have hphase : ∀ (p : PhaseEnv) (phase : TriagePhase),
      Run.Keeps (fun w : World => w.sent = s) (publishPhase deps p alert phase) := by
    intro p phase w hw
    rw [publishPhase_unroutable deps p phase w h]
    exact hw
  have hflag : ∀ o, Run.Keeps (fun w : World => w.sent = s)
      (isCancelled deps o alert.alertId) :=
    fun o => KeptByWorker.isCancelled deps o alert.alertId
  refine Run.Keeps.bind (hphase _ _) fun _ => ?_
  unfold followUp
  refine Run.Keeps.bind (hflag _) fun cancelled => ?_
  split
  · exact hphase _ _
  unfold investigate
  refine Run.Keeps.bind (Run.Keeps.call fun _ hw => hw) fun _ => ?_
  refine Run.Keeps.bind ?_ fun verdict =>
    Run.Keeps.bind (hflag _) fun _ => hphase _ _
  unfold awaitTriage
  refine Run.Keeps.bind (fun w hw => hw) fun _ => ?_
  split
  · exact Run.Keeps.pure _
  · exact Run.Keeps.bind (hphase _ _) fun _ => Run.Keeps.throw _
  · exact fun _ hw => hw

/-- **When the phase events tell how a message was handled**, for every
authenticated message with Redis available: the body is an alert and the token
has a tenant, `queued` gets out, and the handling comes to an end that is
published as what it is. -/
theorem phase_protocol_iff
    (hauth : verify deps.lib deps.jwtService e.revoked token w = (.ok auth, w₁))
    (hup : ∀ alert, parseAlert deps.codec data auth = .ok alert →
      RedisUp deps e alert.alertId w) :
    PhaseProtocol auth
        (∃ alert, parseAlert deps.codec data auth = .ok alert ∧
          CancelledRun deps e alert.alertId w)
        w (handleMessage deps e data token w) ↔
      ∃ alert, parseAlert deps.codec data auth = .ok alert ∧
        auth.tenantId ≠ "" ∧
        e.queued.publish.delivers w.conn = true ∧
        e.queued.publish.send.kills = false ∧
        EndsAsTold deps e alert.alertId w := by
  have hsent₁ : w₁.sent = w.sent := by
    obtain ⟨c, hw₁⟩ := verify_world deps.lib deps.jwtService e.revoked token w
    rw [hauth] at hw₁
    obtain rfl : w₁ = { w with jwtCache := c } := hw₁
    rfl
  cases hparse : parseAlert deps.codec data auth with
  | error x =>
      -- a body that cannot be read publishes nothing
      refine iff_of_false (not_protocol_of_few ?_) (by simp)
      unfold handleMessage acceptAlert
      simp only [Run.bind_apply, hauth, hparse, Run.ofExcept, Run.throw_apply]
      rw [hsent₁]
      exact Nat.le_succ _
  | ok alert =>
  rw [← hparse]
  by_cases hne : auth.tenantId = ""
  · refine iff_of_false (not_protocol_of_few ?_) ?_
    swap
    · rintro ⟨-, -, htenant, -⟩
      exact htenant hne
    have hroute : alert.routable = false := by
      have := parseAlert_routable hparse
      simpa [hne] using this
    rw [handleMessage_followUp hauth hparse,
      unroutable_sends_nothing deps e hroute w.sent w₁ hsent₁]
    exact Nat.le_succ _
  · rw [protocol_told hauth hparse hne (hup alert hparse)]
    simp only [hparse, Except.ok.injEq, exists_eq_left', ne_eq, hne,
      not_false_eq_true, true_and]

end Handling

/-! ## §6  Two ends that are not told -/

/-- A worker with Redis. -/
def redisDeps : WorkerDeps := ⟨plainLib, workerService, plainCodec, true, true⟩

/-- A cancel arrives while the triage runs. -/
def lateCancel : HandleEnv :=
  { smoothHandle with
    meanwhile := ⟨0, [.put (cancelledKey "a1") (.text "1") none]⟩ }

/-- The checkpointer is out of reach. -/
def noCheckpointer : HandleEnv :=
  { smoothHandle with checkpointer := .raised false }

theorem sampleMsg_parsed {alert : NormalizedAlert}
    (h : parseAlert redisDeps.codec (sampleMsg "tok").data
      (toAuth sampleClaims "worker") = .ok alert) : alert = sampleAlert := by
  have hp : parseAlert redisDeps.codec (sampleMsg "tok").data
      (toAuth sampleClaims "worker") = .ok sampleAlert :=
    parseAlert_plain sampleAlert (toAuth sampleClaims "worker")
  exact (Except.ok.inj (hp.symm.trans h)).symm

theorem redisUp_sample {e : HandleEnv}
    (h : ∀ p ∈ [e.queued, e.cancelled, e.failed, e.done], p.counts = true)
    (hafter : seqCounts "a1" (tokenKnown.afterTriage e "a1") = true) :
    ∀ alert, parseAlert redisDeps.codec (sampleMsg "tok").data
      (toAuth sampleClaims "worker") = .ok alert →
        RedisUp redisDeps e alert.alertId tokenKnown := by
  intro alert halert
  rw [sampleMsg_parsed halert]
  exact ⟨rfl, h, rfl, hafter⟩

/-- The protocol of the sample message. -/
def SampleProtocol (e : HandleEnv) : Prop :=
  PhaseProtocol (toAuth sampleClaims "worker")
    (∃ alert, parseAlert redisDeps.codec (sampleMsg "tok").data
        (toAuth sampleClaims "worker") = .ok alert ∧
      CancelledRun redisDeps e alert.alertId tokenKnown)
    tokenKnown
    (handleMessage redisDeps e (sampleMsg "tok").data "tok" tokenKnown)

theorem phase_protocol_smooth :
    SampleProtocol smoothHandle ↔
      ∃ alert, parseAlert redisDeps.codec (sampleMsg "tok").data
          (toAuth sampleClaims "worker") = .ok alert ∧
        (toAuth sampleClaims "worker").tenantId ≠ "" ∧
        smoothHandle.queued.publish.delivers tokenKnown.conn = true ∧
        smoothHandle.queued.publish.send.kills = false ∧
        EndsAsTold redisDeps smoothHandle alert.alertId tokenKnown :=
  phase_protocol_iff rfl (redisUp_sample (by decide) (by decide))

/-- The sample message is authenticated and Redis is available. -/
def SampleUp (e : HandleEnv) : Prop :=
  verify redisDeps.lib redisDeps.jwtService e.revoked "tok" tokenKnown =
      (.ok (toAuth sampleClaims "worker"), tokenKnown) ∧
    RedisUp redisDeps e "a1" tokenKnown

theorem sampleProtocol_told {e : HandleEnv} (h : SampleUp e)
    (hp : SampleProtocol e) : EndsAsTold redisDeps e "a1" tokenKnown := by
  have hparse : parseAlert redisDeps.codec (sampleMsg "tok").data
      (toAuth sampleClaims "worker") = .ok sampleAlert :=
    parseAlert_plain sampleAlert (toAuth sampleClaims "worker")
  exact ((protocol_told h.1 hparse (by decide) h.2).mp hp).2.2

/-- A late cancel is announced as `done`, and a checkpointer that cannot be
had as nothing at all. -/
theorem ends_untold :
    (SampleUp lateCancel ∧ ¬ SampleProtocol lateCancel) ∧
      SampleUp noCheckpointer ∧ ¬ SampleProtocol noCheckpointer := by
  have hlate : SampleUp lateCancel :=
    ⟨rfl, rfl, by decide, rfl, by decide⟩
  have hnone : SampleUp noCheckpointer :=
    ⟨rfl, rfl, by decide, rfl, by decide⟩
  refine ⟨⟨hlate, fun hp => ?_⟩, hnone, fun hp => ?_⟩
  · rcases sampleProtocol_told hlate hp with
      ⟨hb, -⟩ | ⟨-, -, -, ⟨ht, -⟩ | ⟨v, -, -, hafter, -⟩⟩
    · exact absurd hb (by decide)
    · exact absurd ht (by decide)
    · exact absurd hafter (by decide)
  · rcases sampleProtocol_told hnone hp with ⟨hb, -⟩ | ⟨-, hc, -⟩
    · exact absurd hb (by decide)
    · exact absurd hc (by decide)

end AlertTriage
