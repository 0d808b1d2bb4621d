import AlertTriage.AlertPersistence
import AlertTriage.Runtime.Delivery

/-!
# What a settled message leaves on record

When a message is acknowledged, terminated or out of deliveries, its outcome
should be on record somewhere: as a verdict in the store, as a `cancelled`
phase or as a dead letter. Of the three, the worker brings about only the
second: it never writes a verdict and never calls `_to_dlq`. So the outcome of
a run is on record just when some delivery found the cancel flag set before
dispatch and got the `cancelled` phase out, or when the store held the verdict
before the first delivery (`on_record_iff`).
-/

namespace AlertTriage

open Library

/-! ## §1  When a phase gets out -/

/-- The process dies while it draws a sequence number. -/
def PhaseEnv.seqDies (deps : WorkerDeps) (e : PhaseEnv) (alertId : String)
    (w : World) : Bool :=
  deps.hasSeqClient &&
    (e.incr.kills ||
      (decide (e.incr = .returned) && seqCounts alertId w && e.expire.kills))

/-- The process dies while it publishes a phase. -/
def PhaseEnv.dies (deps : WorkerDeps) (e : PhaseEnv) (alertId : String)
    (w : World) : Bool :=
  e.seqDies deps alertId w || e.publish.dies w.conn

/-- The event takes effect at the broker. -/
def PhaseEnv.sends (deps : WorkerDeps) (e : PhaseEnv) (alertId : String)
    (w : World) : Bool :=
  !e.seqDies deps alertId w && e.publish.delivers w.conn

theorem nextSeq_answer (deps : WorkerDeps) (e : PhaseEnv) (alertId : String)
    (w : World) :
    (e.seqDies deps alertId w = true ∧
        (nextSeq deps e alertId w).1 = .error .kill) ∨
      (e.seqDies deps alertId w = false ∧
        ∃ n, (nextSeq deps e alertId w).1 = .ok n) := by
  obtain ⟨incr, expire, emittedAt, publish⟩ := e
  cases hs : deps.hasSeqClient with
  | false =>
      exact .inr ⟨by simp [PhaseEnv.seqDies, hs], _, by simp [nextSeq, hs]; rfl⟩
  | true =>
      cases hl : w.lookup (seqKey alertId) with
      | none =>
          cases incr <;> cases expire <;>
            simp [nextSeq, hs, PhaseEnv.seqDies, Run.tryExcept, Run.bind_apply,
              redisIncr, redisExpire, hl, Run.call, Outcome.kills, seqCounts,
              localNext]
      | some v =>
          cases v <;> cases incr <;> cases expire <;>
            simp [nextSeq, hs, PhaseEnv.seqDies, Run.tryExcept, Run.bind_apply,
              redisIncr, redisExpire, hl, Run.call, Outcome.kills, seqCounts,
              localNext]

/-- Drawing a sequence number touches neither the connection nor the log's
messages. -/
theorem conn_kept (c : Connection) :
    KeptByWorker (fun _ => False) (fun _ => True) fun w => w.conn = c where
  jwtCache _ _ h := h
  localSeq _ _ h := h
  incr _ _ _ _ h := h
  expire _ _ h := h
  publish _ _ _ hp := hp.elim
  elapse _ _ _ h := h
  settled _ _ h := h

theorem seqKey_injective {a b : String} (h : seqKey a = seqKey b) : a = b := by
  have h' := congrArg String.toList h
  simp only [seqKey, String.toList_append] at h'
  exact String.toList_inj.mp (List.append_cancel_left h')

/-- Whether an alert's counter can count does not change either. -/
theorem seqCounts_kept (phases : TriagePhase → Prop) (alertId : String)
    (b : Bool) :
    KeptByWorker phases (fun _ => False) fun w => seqCounts alertId w = b where
  jwtCache _ _ h := h
  localSeq _ _ h := h
  incr id n w hc h := by
    by_cases hid : alertId = id
    · subst hid
      have hl : (w.overwrite (seqKey alertId) (.count n)).lookup
          (seqKey alertId) = some (.count n) := TtlStore.get_overwrite
      rw [← h, hc]
      simp [seqCounts, hl]
    · have hl : (w.overwrite (seqKey id) (.count n)).lookup (seqKey alertId) =
          w.lookup (seqKey alertId) :=
        World.lookup_overwrite_ne fun hk => hid (seqKey_injective hk)
      rw [← h]
      simp [seqCounts, hl]
  expire id w h := by
    have hl : (w.expire (seqKey id) (seqTtlSec * second)).lookup
        (seqKey alertId) = w.lookup (seqKey alertId) := by
      by_cases hid : alertId = id
      · subst hid
        exact TtlStore.get_expire (by decide)
      · exact World.lookup_expire_ne fun hk => hid (seqKey_injective hk)
    rw [← h]
    simp [seqCounts, hl]
  publish e event w _ h := by
    unfold World.afterPublish
    dsimp only
    split <;> exact h
  elapse _ _ hi := hi.elim
  settled _ _ h := h

/-! ## §2  Announced phases -/

/-- An event of this phase of this alert was sent. -/
def Announced (phase : TriagePhase) (alertId : String) (w : World) : Prop :=
  ∃ event : PhaseEvent, event.phase = phase ∧ event.alertId = alertId ∧
    Event.sent (phaseMsg event) ∈ w.log

theorem Announced.of_log {phase : TriagePhase} {alertId : String}
    {w w' : World} (hl : ∀ m, Event.sent m ∈ w'.log ↔ Event.sent m ∈ w.log) :
    Announced phase alertId w' ↔ Announced phase alertId w := by
  simp only [Announced, hl]

/-- A message tells the phase and the alert of its event. -/
theorem phaseMsg_inj {e e' : PhaseEvent} (h : phaseMsg e = phaseMsg e') :
    e.alertId = e'.alertId ∧ e.phase = e'.phase := by
  apply PhaseEvent.eq_of_modelDumpJson_eq
  simpa [phaseMsg] using congrArg NatsMsg.data h

theorem announced_afterPublish (phase : TriagePhase) (alertId : String)
    (e : PublishEnv) (event : PhaseEvent) (w : World) :
    Announced phase alertId (w.afterPublish e none (phaseMsg event) false) ↔
      Announced phase alertId w ∨
        (event.phase = phase ∧ event.alertId = alertId ∧
          e.delivers w.conn = true) := by
  unfold World.afterPublish
  dsimp only
  split
  · rename_i hd
    constructor
    · rintro ⟨ev, hp, hid, hm⟩
      rcases List.mem_cons.mp hm with heq | hm
      · obtain ⟨hid', hp'⟩ := phaseMsg_inj (Event.sent.inj heq)
        exact .inr ⟨hp'.symm.trans hp, hid'.symm.trans hid, hd⟩
      · exact .inl ⟨ev, hp, hid, hm⟩
    · rintro (⟨ev, hp, hid, hm⟩ | ⟨hp, hid, -⟩)
      · exact ⟨ev, hp, hid, List.mem_cons_of_mem _ hm⟩
      · exact ⟨event, hp, hid, List.mem_cons_self⟩
  · rename_i hd
    exact ⟨.inl, fun h => h.resolve_right fun hr => hd hr.2.2⟩

/-- Whether a phase was announced is settled by the publishes of that phase. -/
theorem announced_kept (phase : TriagePhase) (alertId : String) (A : Prop) :
    KeptByWorker (fun p => p ≠ phase) (fun _ => True)
      fun w => Announced phase alertId w ↔ A where
  jwtCache _ _ h := h
  localSeq _ _ h := h
  incr _ _ _ _ h := (Announced.of_log fun m => by simp [World.overwrite]).trans h
  expire _ _ h := h
  publish e event w hp h := by
    rw [announced_afterPublish]
    exact (or_iff_left fun hr => hp hr.1).trans h
  elapse _ _ _ h := h
  settled _ _ h := (Announced.of_log fun m => by simp).trans h

/-- Whether the phase is published at all depends on the tenant. -/
def NormalizedAlert.routable (alert : NormalizedAlert) : Bool :=
  alert.tenantId.any fun t => t != ""

/-- **What a phase publish comes to** for an alert with a tenant: it dies or
returns, the event is announced if it is sent, and the connection is the one
that the publish leaves. -/
theorem publishPhase_step (deps : WorkerDeps) (e : PhaseEnv)
    (alert : NormalizedAlert) (phase : TriagePhase) (w : World)
    (hr : alert.routable = true) :
    (publishPhase deps e alert phase w).1 =
        (if e.dies deps alert.alertId w then .error .kill else .ok ()) ∧
      (∀ p id, Announced p id (publishPhase deps e alert phase w).2 ↔
        Announced p id w ∨ (phase = p ∧ alert.alertId = id ∧
          e.sends deps alert.alertId w = true)) ∧
      (e.dies deps alert.alertId w = false →
        (publishPhase deps e alert phase w).2.conn =
          e.publish.connAfter w.conn) := by
  obtain ⟨t, ht, hne⟩ := (Option.any_eq_true _ _).mp hr
  have hann : ∀ p id, Announced p id (nextSeq deps e alert.alertId w).2 ↔
      Announced p id w := fun p id =>
    (announced_kept p id (Announced p id w)).nextSeq deps e alert.alertId w
      Iff.rfl
  have hconn : (nextSeq deps e alert.alertId w).2.conn = w.conn :=
    (conn_kept w.conn).nextSeq deps e alert.alertId w rfl
  have hne' : t ≠ "" := by simpa using hne
  simp only [publishPhase, ht, if_neg hne', Run.bind_apply]
  -- the sequence number is fetched first, and the process may die in that
  rcases nextSeq_answer deps e alert.alertId w with ⟨hd, hk⟩ | ⟨hd, n, hn⟩
  · rcases hx : nextSeq deps e alert.alertId w with ⟨r, w1⟩
    rw [hx] at hk hann
    obtain rfl : r = _ := hk
    simp [PhaseEnv.dies, PhaseEnv.sends, hd, hann]
  · rcases hx : nextSeq deps e alert.alertId w with ⟨r, w1⟩
    rw [hx] at hn hann hconn
    obtain rfl : r = _ := hn
    dsimp only at hann hconn ⊢
    have hp := fun p id => announced_afterPublish p id e.publish
      ⟨alert.alertId, t, n, e.emittedAt, none, phase⟩ w1
    rw [publish_spec]
    simp only [PhaseEnv.dies, PhaseEnv.sends, hd, Bool.false_or, Bool.not_false,
      Bool.true_and, ← hconn]
    refine ⟨?_, fun p id => ?_, fun hdies => ?_⟩
    · by_cases hdies : e.publish.dies w1.conn = true <;> simp [hdies]
    · have hmsg : phaseMsg ⟨alert.alertId, t, n, e.emittedAt, none, phase⟩ =
          ⟨subjTriageEvent t alert.alertId phase.value,
            .utf8 (PhaseEvent.modelDumpJson
              ⟨alert.alertId, t, n, e.emittedAt, none, phase⟩),
            allHeaders none []⟩ := rfl
      rw [← hann p id, ← hmsg]
      by_cases hdies : e.publish.dies w1.conn = true
      · simp only [hdies, if_true]
        exact hp p id
      · simp only [hdies]
        exact hp p id
    · rw [hdies]
      exact w1.afterPublish_conn e.publish none _ false

/-! ## §3  What a delivery leaves -/

/-- The delivery finds the cancel flag set and gets the `cancelled` phase out:
the token is verified for a tenant, the body is an alert, the process lives
through the `queued` phase, the flag is read as set and the event is sent. -/
structure SeesCancel (msg : NatsMsg) (alertId : String) (deps : WorkerDeps)
    (e : HandleEnv) (w : World) : Prop where
  token : msg.serviceToken ≠ ""
  alert : ∃ auth w' alert,
    verify deps.lib deps.jwtService e.revoked msg.serviceToken w =
      (.ok auth, w') ∧
    parseAlert deps.codec msg.data auth = .ok alert ∧
    alert.alertId = alertId ∧ auth.tenantId ≠ ""
  queued : e.queued.dies deps alertId w = false
  flag : deps.hasCancelClient = true ∧ e.cancelBefore = .returned ∧
    (w.lookup (cancelledKey alertId)).map RedisValue.toText = some "1"
  sent : e.cancelled.sends deps alertId
    (w.setConn (e.queued.publish.connAfter w.conn)) = true

theorem cancelledKey_ne_seqKey (a b : String) : cancelledKey a ≠ seqKey b := by
  intro h
  have h' := congrArg String.toList h
  simp only [cancelledKey, seqKey, String.toList_append] at h'
  exact absurd (congrArg List.head? h') (by
    rw [List.head?_append_of_ne_nil _ (by decide),
      List.head?_append_of_ne_nil _ (by decide)]
    decide)

/-- What is present under any key but a counter stays through a publish. -/
theorem lookup_kept (phases : TriagePhase → Prop) {key : String}
    (hk : ∀ id, key ≠ seqKey id) (v : Option RedisValue) :
    KeptByWorker phases (fun _ => False) fun w => w.lookup key = v where
  jwtCache _ _ h := h
  localSeq _ _ h := h
  incr id _ _ _ h := (World.lookup_overwrite_ne (hk id)).trans h
  expire id _ h := (World.lookup_expire_ne (hk id)).trans h
  publish e event w _ h := by
    unfold World.afterPublish
    dsimp only
    split <;> exact h
  elapse _ _ hi := hi.elim
  settled _ _ h := h

/-- The cancel flag as a worker reads it. -/
theorem isCancelled_answer (deps : WorkerDeps) (o : Outcome) (alertId : String)
    (w : World) :
    isCancelled deps o alertId w =
      (if deps.hasCancelClient && o.kills then .error .kill
        else .ok (deps.hasCancelClient && decide (o = .returned) &&
          (w.lookup (cancelledKey alertId)).map RedisValue.toText == some "1"),
        w) := by
  unfold isCancelled
  cases deps.hasCancelClient with
  | false => rfl
  | true =>
      rcases o with _ | b | b
      · rfl
      · cases b <;> rfl
      · cases b <;> rfl

theorem parseAlert_tenant {codec : AlertCodec} {data : Body} {auth : AuthContext}
    {alert : NormalizedAlert} (h : parseAlert codec data auth = .ok alert) :
    alert.tenantId = some auth.tenantId := by
  unfold parseAlert at h
  split at h
  · exact absurd h (by simp)
  split at h
  · exact absurd h (by simp)
  dsimp only at h
  split at h
  · exact absurd h (by simp)
  · obtain rfl := Except.ok.inj h
    rfl

theorem parseAlert_routable {codec : AlertCodec} {data : Body}
    {auth : AuthContext} {alert : NormalizedAlert}
    (h : parseAlert codec data auth = .ok alert) :
    alert.routable = true ↔ auth.tenantId ≠ "" := by
  simp [NormalizedAlert.routable, parseAlert_tenant h]

theorem publishPhase_unroutable (deps : WorkerDeps) (e : PhaseEnv)
    {alert : NormalizedAlert} (phase : TriagePhase) (w : World)
    (h : alert.routable = false) :
    publishPhase deps e alert phase w = (.ok (), w) := by
  cases ht : alert.tenantId with
  | none => simp [publishPhase, ht]
  | some t =>
      have hempty : t = "" := by simpa [NormalizedAlert.routable, ht] using h
      simp [publishPhase, ht, hempty]

/-- The cancellation check, and the `cancelled` phase if it is due, for an
alert with a tenant. -/
theorem cancelCheck_announced (deps : WorkerDeps) (e : HandleEnv)
    (alert : NormalizedAlert) (alertId : String) (w : World)
    (hr : alert.routable = true) :
    Announced .cancelled alertId
        ((do
          let cancelled ← isCancelled deps e.cancelBefore alert.alertId
          if cancelled then do
            publishPhase deps e.cancelled alert .cancelled
            return none
          else return some alert : Io (Option NormalizedAlert)) w).2 ↔
      Announced .cancelled alertId w ∨
        (alert.alertId = alertId ∧
          (deps.hasCancelClient = true ∧ e.cancelBefore = .returned ∧
            (w.lookup (cancelledKey alert.alertId)).map RedisValue.toText =
              some "1") ∧
          e.cancelled.sends deps alert.alertId w = true) := by
  obtain ⟨hres, hann, -⟩ :=
    publishPhase_step deps e.cancelled alert .cancelled w hr
  rw [Run.bind_apply, isCancelled_answer]
  by_cases hk : (deps.hasCancelClient && e.cancelBefore.kills) = true
  · have hne : e.cancelBefore ≠ .returned := by
      rintro h
      simp [h, Outcome.kills] at hk
    simp [hk, hne]
  simp only [if_neg hk]
  -- the phase is published only where the flag reads as set
  by_cases hc : (deps.hasCancelClient && decide (e.cancelBefore = .returned) &&
      (w.lookup (cancelledKey alert.alertId)).map RedisValue.toText == some "1")
        = true
  · have hflag : deps.hasCancelClient = true ∧ e.cancelBefore = .returned ∧
        (w.lookup (cancelledKey alert.alertId)).map RedisValue.toText =
          some "1" := by
      simpa [and_assoc] using hc
    have hw : ((do
        publishPhase deps e.cancelled alert .cancelled
        return none : Io (Option NormalizedAlert)) w).2 =
          (publishPhase deps e.cancelled alert .cancelled w).2 := by
      rw [Run.bind_apply]
      rcases publishPhase deps e.cancelled alert .cancelled w with ⟨_ | _, w'⟩
      · rfl
      · rfl
    rw [if_pos hc, hw, hann]
    simp [hflag]
  · have hflag : ¬ (deps.hasCancelClient = true ∧ e.cancelBefore = .returned ∧
        (w.lookup (cancelledKey alert.alertId)).map RedisValue.toText =
          some "1") := by
      simpa [and_assoc] using hc
    simp only [if_neg hc, hflag, false_and, and_false, or_false]
    exact Iff.rfl

/-- A send depends on the connection and on whether the counter counts. -/
theorem PhaseEnv.sends_congr (deps : WorkerDeps) (e : PhaseEnv)
    {alertId : String} {w w' : World}
    (hs : seqCounts alertId w = seqCounts alertId w') (hc : w.conn = w'.conn) :
    e.sends deps alertId w = e.sends deps alertId w' := by
  simp only [PhaseEnv.sends, PhaseEnv.seqDies, hs, hc]

/-- Up to the end of `acceptAlert` the phase is announced just by a delivery that
sees the cancel. -/
theorem acceptAlert_announced (msg : NatsMsg) (alertId : String) (deps : WorkerDeps)
    (e : HandleEnv) (w : World) (ht : msg.serviceToken ≠ "") :
    Announced .cancelled alertId
        (acceptAlert deps e msg.data msg.serviceToken w).2 ↔
      Announced .cancelled alertId w ∨ SeesCancel msg alertId deps e w := by
  obtain ⟨c, hw1⟩ :=
    verify_world deps.lib deps.jwtService e.revoked msg.serviceToken w
  rcases hv : verify deps.lib deps.jwtService e.revoked msg.serviceToken w with
    ⟨r, w1⟩
  rw [hv] at hw1
  obtain rfl : w1 = { w with jwtCache := c } := hw1
  unfold acceptAlert
  rw [Run.bind_apply, hv]
  cases r with
  | error x =>
      refine (or_iff_left fun hs => ?_).symm
      obtain ⟨auth, w', alert, hok, -⟩ := hs.alert
      simp [hv] at hok
  | ok auth =>
  dsimp only
  rw [Run.bind_apply]
  cases hp : parseAlert deps.codec msg.data auth with
  | error x =>
      refine (or_iff_left fun hs => ?_).symm
      obtain ⟨auth', w', alert, hok, hpa, -⟩ := hs.alert
      obtain rfl : auth = auth' := by simpa [hv] using (Prod.ext_iff.mp hok).1
      simp [hp] at hpa
  | ok alert =>
  -- from here on the delivery is about this alert
  have hsame : ∀ hs : SeesCancel msg alertId deps e w,
      alert.alertId = alertId ∧ auth.tenantId ≠ "" := by
    rintro ⟨-, ⟨auth', w', alert', hok, hpa, hid, hten⟩, -, -, -⟩
    obtain rfl : auth = auth' := by simpa [hv] using (Prod.ext_iff.mp hok).1
    obtain rfl : alert = alert' := by simpa [hp] using hpa
    exact ⟨hid, hten⟩
  simp only [Run.ofExcept, Run.pure_apply]
  rw [Run.bind_apply]
  by_cases hr : alert.routable = true
  · have hten := (parseAlert_routable hp).mp hr
    set w1 : World := { w with jwtCache := c } with hw1
    obtain ⟨hres, hann, hconn⟩ :=
      publishPhase_step deps e.queued alert .queued w1 hr
    have hann' : Announced .cancelled alertId
        (publishPhase deps e.queued alert .queued w1).2 ↔
          Announced .cancelled alertId w := by
      rw [hann]
      exact or_iff_left fun h => by simp at h
    have hlook : (publishPhase deps e.queued alert .queued w1).2.lookup
        (cancelledKey alert.alertId) = w.lookup (cancelledKey alert.alertId) :=
      (lookup_kept (fun _ => True) (fun id => cancelledKey_ne_seqKey _ id)
        (w.lookup (cancelledKey alert.alertId))).publishPhase deps e.queued alert
          trivial w1 rfl
    have hseq : seqCounts alert.alertId
        (publishPhase deps e.queued alert .queued w1).2 =
          seqCounts alert.alertId w :=
      (seqCounts_kept (fun _ => True) alert.alertId
        (seqCounts alert.alertId w)).publishPhase deps e.queued alert trivial
          w1 rfl
    rcases hx : publishPhase deps e.queued alert .queued w1 with ⟨r, w2⟩
    rw [hx] at hres hann' hlook hseq hconn
    have hdw : e.queued.dies deps alert.alertId w1 =
      e.queued.dies deps alert.alertId w := rfl
    cases hd : e.queued.dies deps alert.alertId w with
    | true =>
        obtain rfl : r = .error .kill := by simpa [hdw, hd] using hres
        refine hann'.trans (or_iff_left fun hs => ?_).symm
        have hq := hs.queued
        rw [← (hsame hs).1, hd] at hq
        exact absurd hq (by simp)
    | false =>
        obtain rfl : r = .ok () := by simpa [hdw, hd] using hres
        have hcw : w2.conn = e.queued.publish.connAfter w.conn :=
          hconn (hdw.trans hd)
        have hsend : e.cancelled.sends deps alert.alertId w2 =
            e.cancelled.sends deps alert.alertId
              (w.setConn (e.queued.publish.connAfter w.conn)) :=
          e.cancelled.sends_congr deps hseq hcw
        refine (cancelCheck_announced deps e alert alertId w2 hr).trans ?_
        refine or_congr hann' ⟨?_, ?_⟩
        · rintro ⟨rfl, hflag, hsent⟩
          exact ⟨ht, ⟨auth, _, alert, hv, hp, rfl, hten⟩, hd,
            hlook ▸ hflag, hsend ▸ hsent⟩
        · intro hs
          obtain ⟨rfl, -⟩ := hsame hs
          exact ⟨rfl, hlook ▸ hs.flag, hsend ▸ hs.sent⟩
  · -- without a tenant no phase is published
    have hr' : alert.routable = false := by simpa using hr
    simp only [publishPhase_unroutable deps _ _ _ hr']
    have hno : ¬ SeesCancel msg alertId deps e w := fun hs =>
      hr ((parseAlert_routable hp).mpr (hsame hs).2)
    rw [or_iff_left hno, Run.bind_apply, isCancelled_answer]
    split
    · rename_i b w' heq
      obtain rfl := (Prod.ext_iff.mp heq).2
      split
      · simp only [Run.bind_apply, publishPhase_unroutable deps _ _ _ hr']
        exact Iff.rfl
      · exact Iff.rfl
    · rename_i x w' heq
      obtain rfl := (Prod.ext_iff.mp heq).2
      exact Iff.rfl

/-- **One delivery**: the `cancelled` phase of the alert is announced
afterwards just when it was before or the delivery sees the cancel. -/
theorem dispatchOne_announced (msg : NatsMsg) (alertId : String)
    (deps : WorkerDeps) (e : HandleEnv) (settle : Outcome) (w : World) :
    Announced .cancelled alertId (dispatchOne deps e settle msg w).2 ↔
      Announced .cancelled alertId w ∨ SeesCancel msg alertId deps e w := by
  set A : Prop := Announced .cancelled alertId w ∨
    SeesCancel msg alertId deps e w with hA
  have hk := announced_kept .cancelled alertId A
  have hsettle : ∀ how, Run.Keeps (fun w => Announced .cancelled alertId w ↔ A)
      (safeSettle settle how) := fun how => hk.safeSettle settle how
  -- only `acceptAlert` publishes this phase, so its answer is carried to the end
  have hhow : Announced .cancelled alertId (settleAs deps e msg w).2 ↔ A := by
    unfold settleAs
    by_cases ht : msg.serviceToken = ""
    · rw [if_pos ht, hA]
      exact (or_iff_left fun hs => hs.token ht).symm
    rw [if_neg ht]
    have hhandle : Announced .cancelled alertId
        (handleMessage deps e msg.data msg.serviceToken w).2 ↔ A := by
      have hadm := acceptAlert_announced msg alertId deps e w ht
      unfold handleMessage
      rw [Run.bind_apply]
      rcases hx : acceptAlert deps e msg.data msg.serviceToken w with ⟨r, w1⟩
      rw [hx] at hadm
      cases r with
      | error x => exact hadm
      | ok alert =>
          cases alert with
          | none => exact hadm
          | some alert =>
              exact hk.investigate deps e alert trivial (by simp) (by simp)
                w1 hadm
    unfold Run.tryExcept
    rw [Run.bind_apply]
    rcases hx : handleMessage deps e msg.data msg.serviceToken w with ⟨r, w1⟩
    rw [hx] at hhandle
    rcases r with (x | _) | _
    · exact hhandle
    · exact hhandle
    · exact hhandle
  unfold dispatchOne
  rw [Run.bind_apply]
  rcases hx : settleAs deps e msg w with ⟨r, w1⟩
  rw [hx] at hhow
  cases r with
  | error x => exact hhow
  | ok how => exact hsettle how w1 hhow

/-! ## §4  What is on record at the end of a run -/

/-- `run_triage` returned in this delivery, and `handle_message` went on with
this verdict. -/
def ReturnsVerdict (msg : NatsMsg) (alertId : String) (v : TriageVerdict)
    (w : World) : DeliveryStep → Prop
  | .others _ _ _ _ => False
  | .deliver deps e _ =>
      ∃ alert w' v' late, msg.serviceToken ≠ "" ∧
        acceptAlert deps e msg.data msg.serviceToken w = (.ok (some alert), w') ∧
        alert.alertId = alertId ∧ e.checkpointer = .returned ∧
        e.triage = .verdict v' ∧ v = honorCancel v' late

/-- The delivery finds the cancel flag set and announces it. -/
def CancelSeen (msg : NatsMsg) (alertId : String) (w : World) :
    DeliveryStep → Prop
  | .others _ _ _ _ => False
  | .deliver deps e _ => SeesCancel msg alertId deps e w

/-- The message is acknowledged or terminated, or its deliveries are used
up. -/
def Over (config : WorkerConfig) (steps : List DeliveryStep) (w : World) :
    Prop :=
  Event.settled .ack ∈ w.log ∨ Event.settled .term ∈ w.log ∨
    config.maxDeliveries ≤ steps.countP fun
      | .deliver _ _ _ => true
      | .others _ _ _ _ => false

/-- A dead letter of the alert was stored. -/
def DeadLettered (alertId : String) (w : World) : Prop :=
  ∃ id tenantId msg acked, Event.stored id msg acked ∈ w.log ∧
    msg.subject = subjDlq tenantId "ALERTS" alertId

/-- Others leave the verdict of this alert to the worker. -/
def notVerdict (alertId : String) (key : String) : Bool :=
  key != verdictKey alertId

/-- The outcome of a run from `w0` to `w` is on record: a verdict that the
triage returned can be read back, a `cancelled` phase was published, or a dead
letter was. -/
def OnRecord (p : AlertPersistence) (codec : VerdictCodec) (msg : NatsMsg)
    (alertId : String) (w0 : World) (steps : List DeliveryStep) (w : World) :
    Prop :=
  (∃ v, w.verdictOf p codec alertId = .ok (some v) ∧
      (deliverySystem msg (notVerdict alertId)).Occurs
        (ReturnsVerdict msg alertId v) w0 steps) ∨
    Announced .cancelled alertId w ∨ DeadLettered alertId w

/-- The condition: a delivery of the run sees the cancel, or what the store
held at the start, read at the end, is a verdict that the triage returned. -/
def LeavesRecord (p : AlertPersistence) (codec : VerdictCodec) (msg : NatsMsg)
    (alertId : String) (w0 : World) (steps : List DeliveryStep) (now : ℕ) :
    Prop :=
  (deliverySystem msg (notVerdict alertId)).Occurs
      (CancelSeen msg alertId) w0 steps ∨
    ∃ v, { w0 with now := now }.verdictOf p codec alertId = .ok (some v) ∧
      (deliverySystem msg (notVerdict alertId)).Occurs
        (ReturnsVerdict msg alertId v) w0 steps

theorem verdictKey_ne_seqKey (a b : String) : verdictKey a ≠ seqKey b := by
  intro h
  have h' := congrArg (fun s => s.toList[1]?) h
  simp [verdictKey, seqKey, String.toList_append] at h'

/-- No worker changes what is stored under another key than a counter's. -/
theorem redis_kept {key : String} (hk : ∀ id, key ≠ seqKey id) (t : ℕ)
    (v : Option RedisValue) :
    KeptByWorker (fun _ => True) (fun i => i.spares key = true)
      fun w => w.redis.get t key = v where
  jwtCache _ _ h := h
  localSeq _ _ h := h
  incr id _ _ _ h := (TtlStore.get_overwrite_ne (hk id)).trans h
  expire id _ h := (TtlStore.get_expire_ne (hk id)).trans h
  publish e event w _ h := by
    unfold World.afterPublish
    dsimp only
    split <;> exact h
  elapse i w hi h := (World.get_elapse hi t w).trans h
  settled _ _ h := h

theorem memVerdicts_kept (m : List (String × TriageVerdict)) :
    KeptByWorker (fun _ => True) (fun _ => True)
      fun w => w.memVerdicts = m where
  jwtCache _ _ h := h
  localSeq _ _ h := h
  incr _ _ _ _ h := h
  expire _ _ h := h
  publish e event w _ h := by
    unfold World.afterPublish
    dsimp only
    split <;> exact h
  elapse _ _ _ h := h
  settled _ _ h := h

/-- A worker stores nothing on any stream. -/
theorem nothing_stored_kept :
    KeptByWorker (fun _ => True) (fun _ => True)
      fun w => ∀ id msg acked, Event.stored id msg acked ∉ w.log where
  jwtCache _ _ h := h
  localSeq _ _ h := h
  incr _ _ _ _ h id msg acked hm := by
    simp only [World.overwrite, List.mem_cons] at hm
    exact h id msg acked (hm.resolve_left (by simp))
  expire _ _ h := h
  publish e event w _ h := by
    unfold World.afterPublish publishEvent
    dsimp only
    split
    · intro id msg acked hm
      simp only [World.record_log, List.mem_cons] at hm
      exact h id msg acked (hm.resolve_left (by simp))
    · exact h
  elapse _ _ _ h := h
  settled _ _ h id msg acked hm := by
    simp only [World.record_log, List.mem_cons] at hm
    exact h id msg acked (hm.resolve_left (by simp))

theorem spares_of_within {alertId : String} {i : Interlude}
    (h : i.within (notVerdict alertId) = true) :
    i.spares (verdictKey alertId) = true := h

/-- The verdict on record at the end is the one that the start holds. -/
theorem verdictOf_run (p : AlertPersistence) (codec : VerdictCodec)
    {msg : NatsMsg} {alertId : String} {w0 w : World}
    {steps : List DeliveryStep}
    (h : (deliverySystem msg (notVerdict alertId)).run w0 steps = some w) :
    w.verdictOf p codec alertId =
      { w0 with now := w.now }.verdictOf p codec alertId := by
  have hredis : w.redis.get w.now (verdictKey alertId) =
      w0.redis.get w.now (verdictKey alertId) :=
    System.run_keeps (fun s a s' hs hp =>
      (redis_kept (verdictKey_ne_seqKey alertId) w.now _).step
        (fun _ _ hw => hw) (fun _ => spares_of_within) hs hp) h rfl
  have hmem : w.memVerdicts = w0.memVerdicts :=
    System.run_keeps (fun s a s' hs hp =>
      (memVerdicts_kept w0.memVerdicts).step (fun _ _ hw => hw)
        (fun _ _ => trivial) hs hp) h rfl
  simp only [World.verdictOf, World.lookup, hredis, hmem]

theorem announced_run {msg : NatsMsg} {alertId : String} {w0 w : World}
    {steps : List DeliveryStep}
    (h : (deliverySystem msg (notVerdict alertId)).run w0 steps = some w) :
    Announced .cancelled alertId w ↔ Announced .cancelled alertId w0 ∨
      (deliverySystem msg (notVerdict alertId)).Occurs
        (CancelSeen msg alertId) w0 steps := by
  refine System.run_iff_occurs ?_ h
  intro s a s' hs
  simp only [deliverySystem] at hs
  cases a with
  | others i conn jwtCache localSeq =>
      simp only [deliveryStep] at hs
      split at hs
      · obtain rfl := Option.some.inj hs
        exact (or_iff_left id).symm
      · simp at hs
  | deliver deps e settle =>
      simp only [deliveryStep] at hs
      split at hs
      · obtain rfl := Option.some.inj hs
        exact dispatchOne_announced msg alertId deps e settle s
      · simp at hs

/-- **When the outcome of a message is on record once it is over**: for every
message, every run of deliveries and every outcome of the calls in them. -/
theorem on_record_iff (p : AlertPersistence) (codec : VerdictCodec)
    (config : WorkerConfig) (msg : NatsMsg) (alertId : String) {w0 w : World}
    {steps : List DeliveryStep} (h0 : w0.log = [])
    (h : (deliverySystem msg (notVerdict alertId)).run w0 steps = some w) :
    (Over config steps w → OnRecord p codec msg alertId w0 steps w) ↔
      (Over config steps w →
        LeavesRecord p codec msg alertId w0 steps w.now) := by
  have hstored : ∀ id msg acked, Event.stored id msg acked ∉ w.log :=
    System.run_keeps (fun s a s' hs hp =>
      nothing_stored_kept.step (fun _ _ hw => hw) (fun _ _ => trivial) hs hp)
      h (by simp [h0])
  have hdead : ¬ DeadLettered alertId w := by
    rintro ⟨id, -, msg', acked, hm, -⟩
    exact hstored id msg' acked hm
  have hnew : ¬ Announced .cancelled alertId w0 := by
    rintro ⟨event, -, -, hm⟩
    simp [h0] at hm
  have hann := (announced_run h).trans (or_iff_right hnew)
  unfold OnRecord LeavesRecord
  rw [verdictOf_run p codec h, hann, or_iff_left hdead, or_comm]

/-! ## §5  A run that loses its verdict -/

def sampleClaims : Params :=
  [("sub", .str "u1"), ("tid", .str "acme"), ("jti", .str "j1")]

/-- A worker that has verified the token. -/
def tokenKnown : World :=
  { World.fresh with jwtCache := [("tok", ⟨sampleClaims, "worker", 1000⟩)] }

def sampleDeps (lib : PyJwt) : WorkerDeps :=
  ⟨lib, workerService, plainCodec, false, false⟩

/-- The world after the n-th phase of the sample alert. -/
def afterPhase (n : ℕ) (phase : TriagePhase) (w : World) : World :=
  { w with
    conn := ⟨true, true⟩
    localSeq := [("a1", n)]
    log := .sent (phaseMsg ⟨"a1", "acme", n, "2025-01-01T00:00:00", none, phase⟩)
      :: w.log }

def sampleEnd : World :=
  (afterPhase 2 .done (afterPhase 1 .queued tokenKnown)).record (.settled .ack)

theorem handleMessage_sample (lib : PyJwt) :
    handleMessage (sampleDeps lib) smoothHandle (sampleMsg "tok").data "tok" tokenKnown =
      (.ok (), afterPhase 2 .done (afterPhase 1 .queued tokenKnown)) := by
  have hv : verify (sampleDeps lib).lib (sampleDeps lib).jwtService
      smoothHandle.revoked "tok" tokenKnown =
        (.ok (toAuth sampleClaims "worker"), tokenKnown) := rfl
  have hp : parseAlert (sampleDeps lib).codec (sampleMsg "tok").data
      (toAuth sampleClaims "worker") = .ok sampleAlert :=
    parseAlert_plain sampleAlert (toAuth sampleClaims "worker")
  have hq : publishPhase (sampleDeps lib) smoothHandle.queued sampleAlert
      .queued tokenKnown = (.ok (), afterPhase 1 .queued tokenKnown) := rfl
  have ha : acceptAlert (sampleDeps lib) smoothHandle (sampleMsg "tok").data
      "tok" tokenKnown =
      (.ok (some sampleAlert), afterPhase 1 .queued tokenKnown) := by
    rw [acceptAlert, Run.bind_ok hv, hp, Run.ofExcept,
      Run.bind_ok (Run.pure_apply _ _), Run.bind_ok hq]
    rfl
  rw [handleMessage, Run.bind_ok ha]
  rfl

theorem dispatchOne_sample (lib : PyJwt) :
    dispatchOne (sampleDeps lib) smoothHandle .returned (sampleMsg "tok") tokenKnown =
      (.ok (), sampleEnd) := by
  have ht : (sampleMsg "tok").serviceToken = "tok" := rfl
  have hx : (do
        handleMessage (sampleDeps lib) smoothHandle (sampleMsg "tok").data "tok"
        return Settlement.ack : Run PyExn World Settlement) tokenKnown =
      (.ok .ack, afterPhase 2 .done (afterPhase 1 .queued tokenKnown)) := by
    rw [Run.bind_ok (handleMessage_sample lib)]
    rfl
  have hs : settleAs (sampleDeps lib) smoothHandle (sampleMsg "tok") tokenKnown =
      (.ok .ack, afterPhase 2 .done (afterPhase 1 .queued tokenKnown)) := by
    rw [settleAs, ht, if_neg (by decide)]
    exact Run.tryExcept_ok hx
  rw [dispatchOne, Run.bind_ok hs]
  rfl

def sampleSteps (lib : PyJwt) : List DeliveryStep :=
  [.deliver (sampleDeps lib) smoothHandle .returned]

theorem run_sample (lib : PyJwt) :
    (deliverySystem (sampleMsg "tok") (notVerdict "a1")).run tokenKnown
      (sampleSteps lib) = some sampleEnd := by
  have hw : smoothHandle.meanwhile.within (notVerdict "a1") = true := rfl
  simp only [sampleSteps, System.run, deliverySystem, deliveryStep, hw, if_true,
    dispatchOne_sample]

/-- A codec that knows the sample verdict only. -/
def sampleCodec : VerdictCodec where
  modelDumpJson v :=
    if v = sampleVerdict then .ok "sample" else .error (.other "verdict")
  modelValidateJson _ := .ok sampleVerdict
  validate_dump v text h := by
    split at h
    · rename_i hv
      obtain rfl := Except.ok.inj h
      exact ⟨by decide, congrArg Except.ok hv.symm⟩
    · cases h

def plainLib : PyJwt := standardPyJwt joinMac

theorem on_record_iff_sample :
    (Over .default (sampleSteps plainLib) sampleEnd →
        OnRecord ⟨true⟩ sampleCodec (sampleMsg "tok") "a1" tokenKnown
          (sampleSteps plainLib) sampleEnd) ↔
      (Over .default (sampleSteps plainLib) sampleEnd →
        LeavesRecord ⟨true⟩ sampleCodec (sampleMsg "tok") "a1" tokenKnown
          (sampleSteps plainLib) sampleEnd.now) :=
  on_record_iff ⟨true⟩ sampleCodec .default (sampleMsg "tok") "a1" rfl
    (run_sample plainLib)

/-- One delivery without any failure: the message is acknowledged, the verdict
is nowhere, wherever verdicts are kept. -/
theorem verdict_lost :
    (deliverySystem (sampleMsg "tok") (notVerdict "a1")).run tokenKnown
        (sampleSteps plainLib) = some sampleEnd ∧
      Over .default (sampleSteps plainLib) sampleEnd ∧
      ∀ (p : AlertPersistence) (codec : VerdictCodec),
        ¬ OnRecord p codec (sampleMsg "tok") "a1" tokenKnown
          (sampleSteps plainLib) sampleEnd := by
  refine ⟨run_sample plainLib, .inl List.mem_cons_self, fun p codec => ?_⟩
  have hlog : sampleEnd.log = [.settled .ack,
      .sent (phaseMsg ⟨"a1", "acme", 2, "2025-01-01T00:00:00", none, .done⟩),
      .sent (phaseMsg ⟨"a1", "acme", 1, "2025-01-01T00:00:00", none, .queued⟩)] :=
    rfl
  rintro (⟨v, hv, -⟩ | ⟨event, hp, -, hm⟩ | ⟨id, tenantId, msg, acked, hm, -⟩)
  · have hnone : sampleEnd.verdictOf p codec "a1" = .ok none := by
      unfold World.verdictOf
      split
      · rfl
      · rfl
    rw [hnone] at hv
    exact absurd hv (by simp)
  · rw [hlog] at hm
    simp only [List.mem_cons, List.not_mem_nil, or_false, reduceCtorEq,
      false_or, Event.sent.injEq] at hm
    rcases hm with heq | heq
    · exact absurd (hp.symm.trans (phaseMsg_inj heq).2) (by simp)
    · exact absurd (hp.symm.trans (phaseMsg_inj heq).2) (by simp)
  · rw [hlog] at hm
    simp at hm

end AlertTriage
