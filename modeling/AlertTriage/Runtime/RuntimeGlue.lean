import AlertTriage.AlertCodec
import AlertTriage.Runtime.IngestReconciler

/-!
# `app/_runtime_glue.py`: the ingest path to NATS

`enqueueViaNats` writes the alert ahead, tries to publish it and removes the
write-ahead entry once the publish is confirmed. None of its three outside
steps can make it answer anything but `True`, so the answer alone does not say
that the alert is stored anywhere: `enqueue_durable_iff` is the exact
condition under which it is.
-/

namespace AlertTriage

open Library

/-! ## §1  Subjects -/

/-- `_subject_for_alert`. -/
def subjectForAlert (alert : NormalizedAlert) : String :=
  let tenantId := match alert.tenantId with
    | some t => if t = "" then "default" else t
    | none => "default"
  subjAlert tenantId alert.source.value alert.alertId

/-- `_wal_subject_resolver`. -/
def walSubjectResolver (payload : Json) : Except PyExn Json :=
  match payload with
  | .obj fields =>
      match Json.lookup "__subject__" fields with
      | some subject =>
          if subject.truthy then .ok subject
          else .error (.keyError "WAL entry missing precomputed __subject__")
      | none => .error (.keyError "WAL entry missing precomputed __subject__")
  | _ => .error (.other "object has no attribute 'get'")

/-! ## §2  The runtime and `enqueue_via_nats` -/

/-- `app.state.runtime`, as far as the ingest path looks at it. -/
structure RuntimeState where
  hasBroker : Bool
  reconciler : Option IngestReconciler

/-- The reconciler that `startup` builds: no dead-letter publisher. -/
def startupReconciler (owner : String) : IngestReconciler where
  hasClient := true
  publishSubjectFor := walSubjectResolver
  maxAge := 24 * 60 * 60
  maxAge_pos := by decide
  lease := 30
  owner := owner
  hasDlq := false

/-- The reconciler of a wired runtime. -/
def RuntimeState.wired? (state : Option RuntimeState) :
    Option IngestReconciler :=
  match state with
  | some s => if s.hasBroker then s.reconciler else none
  | none => none

structure EnqueueEnv where
  writeAhead : Outcome
  publish : PublishEnv
  markPublished : Outcome
deriving DecidableEq, Repr

/-- The entry's payload: the dumped alert with its subject baked in. -/
def walPayload (alert : NormalizedAlert) (fields : Params) : Json :=
  .obj (Json.upsert "__subject__" (.str (subjectForAlert alert)) fields)

/-- The message the inline path publishes. -/
def inlineMsg (alert : NormalizedAlert) (body : String) : NatsMsg :=
  ⟨subjectForAlert alert, .utf8 body, allHeaders (some alert.alertId) []⟩

/-- `enqueue_via_nats`. -/
def enqueueViaNats (codec : AlertCodec) (state : Option RuntimeState)
    (e : EnqueueEnv) (alert : NormalizedAlert) : Io Bool :=
  match RuntimeState.wired? state with
  | none => return false
  | some r => do
      let subject := subjectForAlert alert
      let fields ← Run.ofExcept (codec.modelDump alert)
      let body ← Run.ofExcept (codec.modelDumpJson alert)
      let _ ← writeAhead r e.writeAhead alert.alertId (walPayload alert fields)
      let ok ← publish e.publish subject (.utf8 body) (some alert.alertId) []
        true
      if ok then markPublished r e.markPublished alert.alertId
      return true

/-! ## §3  What the call does -/

theorem World.afterWriteAhead_conn (r : IngestReconciler) (o : Outcome)
    (alertId : String) (payload : Json) (w : World) :
    (w.afterWriteAhead r o alertId payload).conn = w.conn := by
  unfold World.afterWriteAhead
  split <;> rfl

/-- The world after the first two outside steps. -/
def World.afterInline (r : IngestReconciler) (e : EnqueueEnv)
    (alert : NormalizedAlert) (fields : Params) (body : String) (w : World) :
    World :=
  (w.afterWriteAhead r e.writeAhead alert.alertId
    (walPayload alert fields)).afterPublish e.publish (some alert.alertId)
    (inlineMsg alert body) true

/-- The world after a call that answers. -/
def World.afterEnqueue (r : IngestReconciler) (e : EnqueueEnv)
    (alert : NormalizedAlert) (fields : Params) (body : String) (w : World) :
    World :=
  if e.publish.confirms w.conn then
    (w.afterInline r e alert fields body).afterMarkPublished r e.markPublished
      alert.alertId
  else w.afterInline r e alert fields body

/-- **What `enqueue_via_nats` does** in a wired runtime with an alert that can
be dumped. -/
theorem enqueueViaNats_spec {codec : AlertCodec} {state : Option RuntimeState}
    (e : EnqueueEnv) {alert : NormalizedAlert} (w : World)
    {r : IngestReconciler} {fields : Params} {body : String}
    (hr : RuntimeState.wired? state = some r)
    (hf : codec.modelDump alert = .ok fields)
    (hb : codec.modelDumpJson alert = .ok body) :
    enqueueViaNats codec state e alert w =
      if r.hasClient && e.writeAhead.kills then
        (.error .kill, w.afterWriteAhead r e.writeAhead alert.alertId
          (walPayload alert fields))
      else if e.publish.dies w.conn then
        (.error .kill, w.afterInline r e alert fields body)
      else
        (if e.publish.confirms w.conn && r.hasClient && e.markPublished.kills
          then .error .kill else .ok true,
          w.afterEnqueue r e alert fields body) := by
  have hc := w.afterWriteAhead_conn r e.writeAhead alert.alertId
    (walPayload alert fields)
  simp only [enqueueViaNats, hr, hf, hb, Run.ofExcept, Run.bind_apply,
    Run.pure_apply, writeAhead_spec, publish_spec]
  by_cases h1 : (r.hasClient && e.writeAhead.kills) = true
  · rw [if_pos h1, if_pos h1]
  rw [if_neg h1, if_neg h1]
  simp only [hc]
  by_cases h2 : e.publish.dies w.conn = true
  · rw [if_pos h2, if_pos h2]
    rfl
  rw [if_neg h2, if_neg h2]
  by_cases h3 : e.publish.confirms w.conn = true
  · simp only [h3, if_true, World.afterEnqueue, World.afterInline,
      markPublished_spec, Run.bind_apply]
    cases h4 : r.hasClient && e.markPublished.kills <;> simp [h4, inlineMsg]
  · simp [h3, World.afterEnqueue, World.afterInline, inlineMsg]

/-- The call writes the entry of its alert, publishes its message and removes
the entry, its lease and its count: what these keep, the call keeps. -/
theorem enqueue_keeps {P : World → Prop} {alert : NormalizedAlert}
    (hwrite : ∀ value ttl w, P w →
      P (w.setEx (pendingKey alert.alertId) value ttl))
    (hpublish : ∀ e body w, P w →
      P (w.afterPublish e (some alert.alertId) (inlineMsg alert body) true))
    (hmark : ∀ w, P w → P (w.delete [pendingKey alert.alertId,
      leaseKey alert.alertId, attemptsKey alert.alertId]))
    (codec : AlertCodec) (state : Option RuntimeState) (e : EnqueueEnv) :
    Run.Keeps P (enqueueViaNats codec state e alert) := by
  unfold enqueueViaNats
  split
  · exact Run.Keeps.pure false
  rename_i r _
  refine Run.Keeps.bind (Run.Keeps.ofExcept _) fun fields => ?_
  refine Run.Keeps.bind (Run.Keeps.ofExcept _) fun body => ?_
  refine Run.Keeps.bind ?_ fun _ => ?_
  · intro w h
    simp only [writeAhead_spec, World.afterWriteAhead]
    split
    · exact hwrite _ _ w h
    · exact h
  refine Run.Keeps.bind ?_ fun ok => ?_
  · intro w h
    rw [publish_spec]
    exact hpublish e.publish body w h
  split
  · refine Run.Keeps.bind ?_ fun _ => Run.Keeps.pure true
    intro w h
    simp only [markPublished_spec, World.afterMarkPublished]
    split
    · exact hmark w h
    · exact h
  · exact Run.Keeps.pure true

/-! ## §4  When a `True` answer is durable -/

/-- JetStream has acknowledged a message under the id. -/
def Acknowledged (alertId : String) (log : List Event) : Prop :=
  ∃ id msg acked, Event.stored id msg acked ∈ log ∧
    msg.header "Nats-Msg-Id" = some alertId

/-- The alert is stored: its write-ahead entry is present, or JetStream has
acknowledged a message under its id. -/
def Durable (alertId : String) (w : World) : Prop :=
  (w.lookup (pendingKey alertId)).isSome ∨ Acknowledged alertId w.log

/-- The call comes to its answer `True`: the runtime is wired, the alert can
be dumped and the process lives. -/
def Answers (codec : AlertCodec) (state : Option RuntimeState) (e : EnqueueEnv)
    (alert : NormalizedAlert) (w : World) : Prop :=
  ∃ r fields body, RuntimeState.wired? state = some r ∧
    codec.modelDump alert = .ok fields ∧ codec.modelDumpJson alert = .ok body ∧
    ¬ (r.hasClient && e.writeAhead.kills) ∧ ¬ e.publish.dies w.conn ∧
    ¬ (e.publish.confirms w.conn && r.hasClient && e.markPublished.kills)

/-- The write-ahead entry is written or already there, and not removed. -/
def EntryStays (r : IngestReconciler) (e : EnqueueEnv) (alertId : String)
    (w : World) : Prop :=
  ((r.hasClient && e.writeAhead.applied) ∨
      (w.lookup (pendingKey alertId)).isSome) ∧
    ¬ (e.publish.confirms w.conn && r.hasClient && e.markPublished.applied)

/-- Some step of the call stores the alert, or it is stored already. -/
def Stores (r : IngestReconciler) (e : EnqueueEnv) (alertId : String)
    (w : World) : Prop :=
  EntryStays r e alertId w ∨ (alertId ≠ "" ∧ e.publish.delivers w.conn) ∨
    Acknowledged alertId w.log

theorem enqueueViaNats_true_iff (codec : AlertCodec)
    (state : Option RuntimeState) (e : EnqueueEnv) (alert : NormalizedAlert)
    (w : World) :
    (enqueueViaNats codec state e alert w).1 = .ok true ↔
      Answers codec state e alert w := by
  unfold Answers
  cases hr : RuntimeState.wired? state with
  | none => simp [enqueueViaNats, hr]
  | some r =>
      cases hf : codec.modelDump alert with
      | error x => simp [enqueueViaNats, hr, hf, Run.ofExcept, Run.bind_apply]
      | ok fields =>
          cases hb : codec.modelDumpJson alert with
          | error x =>
              simp [enqueueViaNats, hr, hf, hb, Run.ofExcept, Run.bind_apply]
          | ok body =>
              rw [enqueueViaNats_spec e w hr hf hb]
              split_ifs <;> simp_all

theorem header_inlineMsg (alert : NormalizedAlert) (body : String) :
    (inlineMsg alert body).header "Nats-Msg-Id" = some alert.alertId ↔
      alert.alertId ≠ "" := by
  by_cases h : alert.alertId = ""
  · simp [inlineMsg, allHeaders, NatsMsg.header, h]
  · simp [inlineMsg, allHeaders, NatsMsg.header, h]

theorem acknowledged_cons_of_not_stored {alertId : String} {x : Event}
    {log : List Event} (h : ∀ id msg acked, x ≠ .stored id msg acked) :
    Acknowledged alertId (x :: log) ↔ Acknowledged alertId log := by
  unfold Acknowledged
  constructor
  · rintro ⟨id, msg, acked, hm, hh⟩
    rcases List.mem_cons.mp hm with rfl | hm
    · exact absurd rfl (h id msg acked)
    · exact ⟨id, msg, acked, hm, hh⟩
  · rintro ⟨id, msg, acked, hm, hh⟩
    exact ⟨id, msg, acked, List.mem_cons_of_mem _ hm, hh⟩

theorem acknowledged_delete {alertId : String} {keys : List String}
    {w : World} :
    Acknowledged alertId (w.delete keys).log ↔ Acknowledged alertId w.log := by
  unfold Acknowledged
  constructor
  · rintro ⟨id, msg, acked, hm, hh⟩
    rcases List.mem_append.mp hm with hm | hm
    · obtain ⟨k, -, v, -, hx⟩ := World.mem_deletions hm
      exact absurd hx (by simp)
    · exact ⟨id, msg, acked, hm, hh⟩
  · rintro ⟨id, msg, acked, hm, hh⟩
    exact ⟨id, msg, acked, List.mem_append_right _ hm, hh⟩

/-- After the inline publish: the message is acknowledged if it took effect
and carries its id. -/
theorem acknowledged_afterInline (r : IngestReconciler) (e : EnqueueEnv)
    (alert : NormalizedAlert) (fields : Params) (body : String) (w : World) :
    Acknowledged alert.alertId (w.afterInline r e alert fields body).log ↔
      (alert.alertId ≠ "" ∧ e.publish.delivers w.conn) ∨
        Acknowledged alert.alertId w.log := by
  have hw : Acknowledged alert.alertId (w.afterWriteAhead r e.writeAhead
      alert.alertId (walPayload alert fields)).log ↔
      Acknowledged alert.alertId w.log := by
    unfold World.afterWriteAhead
    split
    · exact acknowledged_cons_of_not_stored (by simp)
    · rfl
  unfold World.afterInline World.afterPublish
  simp only [World.afterWriteAhead_conn]
  cases hd : e.publish.delivers w.conn with
  | false =>
      rw [if_neg (by decide)]
      simpa using hw
  | true =>
      simp only [if_true, World.record_log, publishEvent]
      constructor
      · rintro ⟨id, msg, acked, hm, hh⟩
        rcases List.mem_cons.mp hm with heq | hm
        · obtain ⟨rfl, rfl, rfl⟩ := Event.stored.inj heq
          exact Or.inl ⟨(header_inlineMsg alert body).mp hh, trivial⟩
        · exact Or.inr (hw.mp ⟨id, msg, acked, hm, hh⟩)
      · rintro (⟨hid, -⟩ | h)
        · exact ⟨_, _, _, List.mem_cons_self,
            (header_inlineMsg alert body).mpr hid⟩
        · obtain ⟨id, msg, acked, hm, hh⟩ := hw.mpr h
          exact ⟨id, msg, acked, List.mem_cons_of_mem _ hm, hh⟩

theorem lookup_afterPublish (e : PublishEnv) (msgId : Option String)
    (msg : NatsMsg) (awaitAck : Bool) (w : World) (key : String) :
    (w.afterPublish e msgId msg awaitAck).lookup key = w.lookup key := by
  unfold World.afterPublish
  dsimp only
  split <;> rfl

/-- After the inline publish the entry is there if it was written or was
there before. -/
theorem lookup_afterInline (r : IngestReconciler) (e : EnqueueEnv)
    (alert : NormalizedAlert) (fields : Params) (body : String) (w : World) :
    ((w.afterInline r e alert fields body).lookup
        (pendingKey alert.alertId)).isSome ↔
      (r.hasClient && e.writeAhead.applied) ∨
        (w.lookup (pendingKey alert.alertId)).isSome := by
  rw [World.afterInline, lookup_afterPublish, World.afterWriteAhead]
  split
  · rename_i h
    have hpos : 0 < r.maxAge * second :=
      Nat.mul_pos r.maxAge_pos (by decide)
    simp [World.lookup_setEx hpos, h]
  · rename_i h
    simp [h]

theorem durable_afterEnqueue (r : IngestReconciler) (e : EnqueueEnv)
    (alert : NormalizedAlert) (fields : Params) (body : String) (w : World) :
    Durable alert.alertId (w.afterEnqueue r e alert fields body) ↔
      Stores r e alert.alertId w := by
  have hl := lookup_afterInline r e alert fields body w
  have ha := acknowledged_afterInline r e alert fields body w
  unfold Durable Stores EntryStays World.afterEnqueue World.afterMarkPublished
  by_cases hc : e.publish.confirms w.conn = true
  · rw [if_pos hc, hc, Bool.true_and]
    by_cases hd : (r.hasClient && e.markPublished.applied) = true
    · have hgone := World.lookup_delete_of_mem
        (w := w.afterInline r e alert fields body)
        (show pendingKey alert.alertId ∈ [pendingKey alert.alertId,
          leaseKey alert.alertId, attemptsKey alert.alertId] by simp)
      rw [if_pos hd, hgone, acknowledged_delete, ha, hd]
      simp
    · rw [if_neg hd, hl, ha]
      simp only [hd, Bool.false_eq_true, not_false_eq_true, and_true]
  · rw [if_neg hc, hl, ha]
    simp only [hc, Bool.false_and, Bool.false_eq_true, not_false_eq_true,
      and_true]

/-- **A `True` answer stands for a stored alert exactly when** one of the
call's steps stored it, or it was stored before: the answer itself depends on
none of them. -/
theorem enqueue_durable_iff (codec : AlertCodec) (state : Option RuntimeState)
    (e : EnqueueEnv) (alert : NormalizedAlert) (w : World) :
    ((enqueueViaNats codec state e alert w).1 = .ok true →
        Durable alert.alertId (enqueueViaNats codec state e alert w).2) ↔
      (Answers codec state e alert w →
        ∀ r, RuntimeState.wired? state = some r →
          Stores r e alert.alertId w) := by
  rw [enqueueViaNats_true_iff]
  refine forall_congr' fun h => ?_
  obtain ⟨r, fields, body, hr, hf, hb, h1, h2, h3⟩ := h
  rw [enqueueViaNats_spec e w hr hf hb, if_neg h1, if_neg h2]
  constructor
  · intro hd r' hr'
    obtain rfl : r = r' := Option.some.inj (hr.symm.trans hr')
    exact (durable_afterEnqueue r e alert fields body w).mp hd
  · intro hs
    exact (durable_afterEnqueue r e alert fields body w).mpr (hs r hr)

/-- Redis refuses the write-ahead entry and NATS cannot be reached. -/
def outage : EnqueueEnv :=
  ⟨.raised false, ⟨.raised false, .raised false⟩, .returned⟩

/-- During an outage of both systems the call answers `True` and leaves
nothing behind. -/
theorem enqueue_true_in_outage :
    (enqueueViaNats plainCodec (some ⟨true, some (startupReconciler "api-1")⟩)
        outage sampleAlert World.fresh).1 = .ok true ∧
      ¬ Durable sampleAlert.alertId
        (enqueueViaNats plainCodec
          (some ⟨true, some (startupReconciler "api-1")⟩) outage sampleAlert
          World.fresh).2 := by
  have hw : enqueueViaNats plainCodec
      (some ⟨true, some (startupReconciler "api-1")⟩) outage sampleAlert
      World.fresh = (.ok true, World.fresh) := rfl
  rw [hw]
  refine ⟨rfl, ?_⟩
  rintro (h | ⟨id, msg, acked, hm, -⟩)
  · exact absurd h (by decide)
  · exact absurd hm (by simp [World.fresh])

end AlertTriage
