import AlertTriage.Api.AlertFootprint
import AlertTriage.Library.TwoRuns

/-!
# Whether the items of a batch stand alone

`ingest_batch` of `app/main.py` refuses an item that it cannot build an alert
from and goes on. What follows, for an item that it can, is guarded in part:
the audit record and the NATS path are, the two writes to the alert store are
not. The items stand alone exactly when no item that is built fails in what is
unguarded, and none is handed to a NATS path that keeps nothing of it
(`standAlone_iff`).
-/

namespace AlertTriage

open Library

/-! ## §1  A batch -/

/-- `ingest_batch` after its body is read and its key checked. -/
def ingestRows (deps : IngestDeps) (e : ℕ → IntakeEnv) (rows : List BatchItem) :
    ApiIo (List BatchResult) := do
  let rest ← takeRows deps e 0 rows
  schedule rest.2
  return rest.1

theorem ingest_batch {deps : IngestDeps} {e : ℕ → IntakeEnv} {r : HttpRequest}
    {rows : List BatchItem} (h : batchItems r.body = .ok rows) :
    ingest deps e .batch r = (do
      validateApiKey deps.settings r
      let results ← ingestRows deps e rows
      return .batch results) := by
  funext a
  unfold ingest ingestRows
  simp only [h, Run.ofExcept, Run.bind_apply, Run.pure_apply]
  rcases validateApiKey deps.settings r a with ⟨u | u, a₁⟩
  · rfl
  · dsimp only
    rcases takeRows deps e 0 rows a₁ with ⟨u | rest, a₂⟩ <;> rfl

/-- `r["ok"]`. -/
def BatchResult.ok : BatchResult → Bool
  | .accepted _ _ => true
  | .refused _ => false

/-- What the NATS path holds when it takes an alert: the reconciler, and the
alert as fields and as text. -/
def natsPath (deps : IngestDeps) (alert : NormalizedAlert) :
    Option (IngestReconciler × Params × String) :=
  if deps.settings.ingestViaNats then do
    let r ← RuntimeState.wired? deps.runtime
    let fields ← (deps.alertCodec.modelDump alert).toOption
    let body ← (deps.alertCodec.modelDumpJson alert).toOption
    return (r, fields, body)
  else none

/-! ## §2  Stored and dispatched -/

/-- The log has grown by this event, among others. -/
def New (event : Event) (w w' : World) : Prop :=
  ∃ fresh, w'.log = fresh ++ w.log ∧ event ∈ fresh

/-- The alert is in its store, with a job that is queued. -/
def InStore (deps : IngestDeps) (alert : NormalizedAlert) (a : ApiWorld) :
    Prop :=
  if deps.persistence.usesRedis then
    (∃ text, deps.alertCodec.modelDumpJson alert = .ok text ∧
      a.world.lookup (alertKey alert.alertId) = some (.text text)) ∧
    a.world.lookup (jobKey alert.alertId) =
      some (.text (Json.dumps pythonStyle (.obj (jobRecord .queued none))))
  else
    Json.lookup alert.alertId a.memAlerts = some alert ∧
    Json.lookup alert.alertId a.memJobs = some (jobRecord .queued none)

/-- JetStream has stored its message meanwhile. -/
def Published (deps : IngestDeps) (alert : NormalizedAlert) (w w' : World) :
    Prop :=
  ∃ body acked, deps.alertCodec.modelDumpJson alert = .ok body ∧
    New (.stored (some alert.alertId) (inlineMsg alert body) acked) w w'

/-- It has been written ahead meanwhile, and the entry is there. -/
def WrittenAhead (deps : IngestDeps) (alert : NormalizedAlert) (w w' : World) :
    Prop :=
  ∃ fields, deps.alertCodec.modelDump alert = .ok fields ∧
    New (.redisSet (pendingKey alert.alertId)
      (.text (Json.dumps pythonStyle (walPayload alert fields)))) w w' ∧
    w'.lookup (pendingKey alert.alertId) =
      some (.text (Json.dumps pythonStyle (walPayload alert fields)))

/-- Something will triage the alert: a task of the process, the worker that
reads its message, or the reconciler that finds its entry. -/
def Dispatched (deps : IngestDeps) (alert : NormalizedAlert)
    (tasks : List NormalizedAlert) (w w' : World) : Prop :=
  alert ∈ tasks ∨ Published deps alert w w' ∨ WrittenAhead deps alert w w'

/-- An alert was built from the row, stored and dispatched, by the time when
the row had been taken. -/
def StoredAndDispatched (deps : IngestDeps) (e : IntakeEnv) (row : BatchItem)
    (tasks : List NormalizedAlert) (a a' : ApiWorld) : Prop :=
  ∃ x, rowAlert deps e row = .ok x ∧
    InStore deps x.alert.toNormalizedAlert a' ∧
    Dispatched deps x.alert.toNormalizedAlert tasks a.world a'.world

/-- One result for each row, in order: it is `ok` exactly when the row's alert
was stored and dispatched in its turn. -/
def Reported (deps : IngestDeps) (e : ℕ → IntakeEnv) :
    ℕ → List BatchItem → ApiWorld → List BatchResult → Prop
  | _, [], _, results => results = []
  | i, row :: rows, a, results =>
      ∃ result rest tasks a', results = result :: rest ∧
        takeRows deps e i [row] a = (.ok ([result], tasks), a') ∧
        (result.ok = true ↔ StoredAndDispatched deps (e i) row tasks a a') ∧
        Reported deps e (i + 1) rows a' rest

/-! ## §3  A batch without one of its rows -/

/-- The broker can be reached. -/
def IntakeEnv.reaching (e : IntakeEnv) : IntakeEnv :=
  { e with enqueue := { e.enqueue with
      publish := { e.enqueue.publish with connect := .returned } } }

/-- The row has its alert published, for which the broker could be reached. -/
def Connects (deps : IngestDeps) (e : IntakeEnv) (row : BatchItem) : Bool :=
  match rowAlert deps e row with
  | .ok x =>
      (natsPath deps x.alert.toNormalizedAlert).isSome &&
        e.enqueue.publish.connect = .returned
  | .error _ => false

/-- The outside without the `i`-th row: every other call ends as it did. The
process connects to its broker once, so that where the row had found it within
reach, it is within reach of those that follow. -/
def without (deps : IngestDeps) (e : ℕ → IntakeEnv) (i : ℕ) (row : BatchItem) :
    ℕ → IntakeEnv := fun j =>
  if j < i then e j
  else if Connects deps (e i) row then (e (j + 1)).reaching
  else e (j + 1)

/-- The id of the alert that a row is made into. -/
def rowIds (deps : IngestDeps) (e : IntakeEnv) (row : BatchItem) :
    List String :=
  (rowAlert deps e row).toOption.toList.map fun x => x.alert.alertId

/-- What the intake of an alert writes to Redis. -/
def intakeKeys (alertId : String) : List String :=
  [alertKey alertId, jobKey alertId, rawKey alertId, pendingKey alertId,
    leaseKey alertId, attemptsKey alertId]

/-- The messages on the stream but for those of these alerts. -/
def messagesBeside (ids : List String) (log : List Event) : List Event :=
  log.filter fun
    | .stored msgId _ _ => !(ids.map some).contains msgId
    | _ => false

/-- The same is stored and dispatched for all alerts but these: in Redis, with
the same lifetimes, on the stream, in memory and among the tasks. -/
structure SameBeside (ids : List String) (a a' : ApiWorld) : Prop where
  redis : ∀ key ∉ ids.flatMap intakeKeys, ∀ t,
    a.world.redis.get t key = a'.world.redis.get t key
  messages : messagesBeside ids a.world.log = messagesBeside ids a'.world.log
  memAlerts : ∀ id ∉ ids, Json.lookup id a.memAlerts = Json.lookup id a'.memAlerts
  memJobs : ∀ id ∉ ids, Json.lookup id a.memJobs = Json.lookup id a'.memJobs
  tasks : (a.background.filter fun alert => !ids.contains alert.alertId) =
    a'.background.filter fun alert => !ids.contains alert.alertId

/-- The items of a batch stand alone: each has its result, in order, which is
`ok` exactly when the item was stored and dispatched, and without any one of
them the others have the same results and are stored and dispatched alike. -/
def StandAlone (deps : IngestDeps) (e : ℕ → IntakeEnv) (rows : List BatchItem)
    (a : ApiWorld) : Prop :=
  ∃ results a', ingestRows deps e rows a = (.ok results, a') ∧
    Reported deps e 0 rows a results ∧
    ∀ i row, rows[i]? = some row →
      ∃ b, ingestRows deps (without deps e i row) (rows.eraseIdx i) a =
          (.ok (results.eraseIdx i), b) ∧
        SameBeside (rowIds deps (e i) row) a' b

/-! ## §4  When they do -/

/-- The writes to the alert store succeed. -/
def StoreTakes (deps : IngestDeps) (e : IntakeEnv) (alert : NormalizedAlert) :
    Prop :=
  deps.persistence.usesRedis = true →
    (∃ text, deps.alertCodec.modelDumpJson alert = .ok text) ∧
      e.putAlert = .returned ∧ e.setJob = .returned

/-- The process outlives the guarded calls. -/
def Outlives (deps : IngestDeps) (e : IntakeEnv) (alert : NormalizedAlert)
    (c : Connection) : Prop :=
  (deps.audit.isSome && e.audit.kills) = false ∧
    ∀ r fields body, natsPath deps alert = some (r, fields, body) →
      (r.hasClient && e.enqueue.writeAhead.kills) = false ∧
      e.enqueue.publish.dies c = false ∧
      (e.enqueue.publish.confirms c && r.hasClient &&
        e.enqueue.markPublished.kills) = false

/-- The NATS path, where it takes the alert, keeps something of it: the entry
written ahead, or the message. -/
def PathKeeps (deps : IngestDeps) (e : IntakeEnv) (alert : NormalizedAlert)
    (c : Connection) : Prop :=
  ∀ r fields body, natsPath deps alert = some (r, fields, body) →
    (r.hasClient = true ∧ e.enqueue.writeAhead.applied = true ∧
      ¬ (e.enqueue.publish.confirms c = true ∧
        e.enqueue.markPublished.applied = true)) ∨
    e.enqueue.publish.delivers c = true

structure TakenIn (deps : IngestDeps) (e : IntakeEnv) (alert : NormalizedAlert)
    (c : Connection) : Prop where
  store : StoreTakes deps e alert
  outlives : Outlives deps e alert c
  path : PathKeeps deps e alert c

/-- The broker's connection after an intake. -/
def connAfterIntake (deps : IngestDeps) (e : IntakeEnv)
    (alert : NormalizedAlert) (c : Connection) : Connection :=
  if (natsPath deps alert).isSome then e.enqueue.publish.connAfter c else c

/-- Every row that an alert is built from is taken in. -/
def AllTakenIn (deps : IngestDeps) (e : ℕ → IntakeEnv) :
    ℕ → List BatchItem → Connection → Prop
  | _, [], _ => True
  | i, row :: rows, c =>
      match rowAlert deps (e i) row with
      | .error _ => AllTakenIn deps e (i + 1) rows c
      | .ok x =>
          let alert := x.alert.toNormalizedAlert
          TakenIn deps (e i) alert c ∧
            AllTakenIn deps e (i + 1) rows (connAfterIntake deps (e i) alert c)

/-! ## §5  Two worlds abreast -/

/-- The two worlds hold the same but for these alerts. -/
structure WorldBeside (ids : List String) (w w' : World) : Prop where
  now : w.now = w'.now
  redis : ∀ key ∉ ids.flatMap intakeKeys, ∀ t,
    w.redis.get t key = w'.redis.get t key
  messages : messagesBeside ids w.log = messagesBeside ids w'.log

section Writes

variable {ids : List String} {w w' : World}

theorem WorldBeside.refl (ids : List String) (w : World) :
    WorldBeside ids w w :=
  ⟨rfl, fun _ _ _ => rfl, rfl⟩

theorem WorldBeside.set (h : WorldBeside ids w w') (key : String)
    (value : RedisValue) : WorldBeside ids (w.set key value) (w'.set key value) := by
  refine ⟨h.now, fun k hk t => ?_, h.messages⟩
  by_cases heq : k = key
  · subst heq
    exact TtlStore.get_set.trans TtlStore.get_set.symm
  · exact (TtlStore.get_set_ne heq).trans
      ((h.redis k hk t).trans (TtlStore.get_set_ne heq).symm)

theorem WorldBeside.setEx (h : WorldBeside ids w w') (key : String)
    (value : RedisValue) (ttl : ℕ) :
    WorldBeside ids (w.setEx key value ttl) (w'.setEx key value ttl) := by
  refine ⟨h.now, fun k hk t => ?_, h.messages⟩
  by_cases heq : k = key
  · subst heq
    apply TtlStore.get_setEx_self.trans
    rw [h.now]
    exact TtlStore.get_setEx_self.symm
  · exact (TtlStore.get_setEx_ne heq).trans
      ((h.redis k hk t).trans (TtlStore.get_setEx_ne heq).symm)

theorem messagesBeside_delete (ids keys : List String) (w : World) :
    messagesBeside ids (w.delete keys).log = messagesBeside ids w.log := by
  have hnone : messagesBeside ids (w.deletions keys) = [] := by
    refine List.filter_eq_nil_iff.mpr fun event hevent => ?_
    obtain ⟨key, -, value, -, rfl⟩ := World.mem_deletions hevent
    simp
  exact (List.filter_append _ _).trans (by
    rw [show List.filter _ (w.deletions keys) = [] from hnone]
    rfl)

theorem WorldBeside.delete (h : WorldBeside ids w w') (keys : List String) :
    WorldBeside ids (w.delete keys) (w'.delete keys) := by
  refine ⟨h.now, fun k hk t => ?_, ?_⟩
  · by_cases hmem : k ∈ keys
    · exact (TtlStore.get_removeAll_of_mem hmem).trans
        (TtlStore.get_removeAll_of_mem hmem).symm
    · exact (TtlStore.get_removeAll_of_notMem hmem).trans
        ((h.redis k hk t).trans (TtlStore.get_removeAll_of_notMem hmem).symm)
  · rw [messagesBeside_delete, messagesBeside_delete, h.messages]

theorem WorldBeside.stored (h : WorldBeside ids w w') (c c' : Connection)
    (msgId : Option String) (msg : NatsMsg) (acked : Bool) :
    WorldBeside ids ((w.setConn c).record (.stored msgId msg acked))
      ((w'.setConn c').record (.stored msgId msg acked)) := by
  refine ⟨h.now, h.redis, ?_⟩
  have hm := h.messages
  unfold messagesBeside at hm ⊢
  simp only [World.record_log, World.setConn_log, List.filter_cons, hm]

/-! ### A write for one of the alerts -/

variable {id key : String}

theorem ne_of_own (hid : id ∈ ids) (hown : key ∈ intakeKeys id) {k : String}
    (hk : k ∉ ids.flatMap intakeKeys) : k ≠ key := by
  rintro rfl
  exact hk (List.mem_flatMap.mpr ⟨id, hid, hown⟩)

theorem WorldBeside.set_left (h : WorldBeside ids w w') (hid : id ∈ ids)
    (hown : key ∈ intakeKeys id) (value : RedisValue) :
    WorldBeside ids (w.set key value) w' :=
  ⟨h.now, fun k hk t => (TtlStore.get_set_ne (ne_of_own hid hown hk)).trans
    (h.redis k hk t), h.messages⟩

theorem WorldBeside.setEx_left (h : WorldBeside ids w w') (hid : id ∈ ids)
    (hown : key ∈ intakeKeys id) (value : RedisValue) (ttl : ℕ) :
    WorldBeside ids (w.setEx key value ttl) w' :=
  ⟨h.now, fun k hk t => (TtlStore.get_setEx_ne (ne_of_own hid hown hk)).trans
    (h.redis k hk t), h.messages⟩

theorem WorldBeside.delete_left (h : WorldBeside ids w w') (hid : id ∈ ids)
    {keys : List String} (hown : ∀ key ∈ keys, key ∈ intakeKeys id) :
    WorldBeside ids (w.delete keys) w' := by
  refine ⟨h.now, fun k hk t => ?_, ?_⟩
  · have hmem : k ∉ keys := fun hmem =>
      hk (List.mem_flatMap.mpr ⟨id, hid, hown k hmem⟩)
    exact (TtlStore.get_removeAll_of_notMem hmem).trans (h.redis k hk t)
  · rw [messagesBeside_delete, h.messages]

theorem WorldBeside.afterPublish_left (h : WorldBeside ids w w')
    (hid : id ∈ ids) (e : PublishEnv) (msg : NatsMsg) :
    WorldBeside ids (w.afterPublish e (some id) msg true) w' := by
  have hfree : messagesBeside ids
      (w.afterPublish e (some id) msg true).log = messagesBeside ids w.log := by
    unfold World.afterPublish
    dsimp only
    split
    · unfold messagesBeside
      simp [publishEvent, hid]
    · rfl
  refine ⟨?_, fun k hk t => ?_, hfree.trans h.messages⟩
  · unfold World.afterPublish
    dsimp only
    split <;> exact h.now
  · unfold World.afterPublish
    dsimp only
    split <;> exact h.redis k hk t

end Writes

/-! ## §6  Two processes abreast -/

/-- The connection of a process and that of one that may have it still to make,
to a broker that is near. -/
def ConnAbreast (near : Bool) (c c' : Connection) : Prop :=
  if near then c.connected = true ∧
    (c' = c ∨ (c = ⟨true, true⟩ ∧ c'.connected = false))
  else c' = c

def PublishEnv.nearer (near : Bool) (e : PublishEnv) : PublishEnv :=
  if near then { e with connect := .returned } else e

def IntakeEnv.nearer (near : Bool) (e : IntakeEnv) : IntakeEnv :=
  if near then e.reaching else e

theorem IntakeEnv.nearer_enqueue (near : Bool) (e : IntakeEnv) :
    (e.nearer near).enqueue =
      { e.enqueue with publish := e.enqueue.publish.nearer near } := by
  cases near <;> rfl

theorem ConnAbreast.reaches {near : Bool} {c c' : Connection}
    (h : ConnAbreast near c c') (e : PublishEnv) :
    (e.nearer near).reaches c' = e.reaches c ∧
      (e.nearer near).dies c' = e.dies c := by
  obtain ⟨connected, js⟩ := c
  unfold ConnAbreast at h
  cases near with
  | false => exact ⟨by rw [if_neg (by decide)] at h; rw [h]; rfl,
      by rw [if_neg (by decide)] at h; rw [h]; rfl⟩
  | true =>
      rw [if_pos rfl] at h
      obtain ⟨rfl : connected = true, rfl | ⟨hc, hc'⟩⟩ := h
      · exact ⟨rfl, rfl⟩
      · obtain rfl : js = true := congrArg Connection.js hc
        simp [PublishEnv.nearer, PublishEnv.reaches, PublishEnv.dies, hc',
          Outcome.kills]

theorem ConnAbreast.after {near : Bool} {c c' : Connection}
    (h : ConnAbreast near c c') (e : PublishEnv) :
    ConnAbreast near (e.connAfter c) ((e.nearer near).connAfter c') := by
  obtain ⟨connected, js⟩ := c
  unfold ConnAbreast at h ⊢
  cases near with
  | false =>
      rw [if_neg (by decide)] at h ⊢
      rw [h]
      rfl
  | true =>
      rw [if_pos rfl] at h ⊢
      obtain ⟨rfl : connected = true, rfl | ⟨hc, hc'⟩⟩ := h
      · exact ⟨rfl, .inl rfl⟩
      · obtain rfl : js = true := congrArg Connection.js hc
        simp [PublishEnv.nearer, PublishEnv.connAfter, hc']

/-- The worlds of the two processes. -/
structure WorldAbreast (ids : List String) (near : Bool) (w w' : World) :
    Prop where
  beside : WorldBeside ids w w'
  conn : ConnAbreast near w.conn w'.conn

/-- What the two processes keep is the same but for these alerts. -/
structure Beside (ids : List String) (a a' : ApiWorld) : Prop where
  world : WorldBeside ids a.world a'.world
  memAlerts : ∀ id ∉ ids, Json.lookup id a.memAlerts = Json.lookup id a'.memAlerts
  memJobs : ∀ id ∉ ids, Json.lookup id a.memJobs = Json.lookup id a'.memJobs
  background : a.background = a'.background

structure Abreast (ids : List String) (near : Bool) (a a' : ApiWorld) : Prop where
  beside : Beside ids a a'
  conn : ConnAbreast near a.world.conn a'.world.conn

section Agreement

variable {ids : List String} {near : Bool}

theorem agree_redisSet (o : Outcome) (key : String) (value : RedisValue) :
    Run.Agree (WorldAbreast ids near) (redisSet o key value)
      (redisSet o key value) :=
  Run.Agree.call (fun _ _ h => ⟨h.beside.set key value, h.conn⟩)
    fun _ _ _ => rfl

theorem agree_redisSetEx (o : Outcome) (key : String) (seconds : ℕ)
    (value : RedisValue) :
    Run.Agree (WorldAbreast ids near) (redisSetEx o key seconds value)
      (redisSetEx o key seconds value) :=
  Run.Agree.call (fun _ _ h => ⟨h.beside.setEx key value _, h.conn⟩)
    fun _ _ _ => rfl

theorem agree_redisDelete (o : Outcome) (keys : List String) :
    Run.Agree (WorldAbreast ids near) (redisDelete o keys) (redisDelete o keys) :=
  Run.Agree.call (fun _ _ h => ⟨h.beside.delete keys, h.conn⟩)
    fun _ _ _ => rfl

theorem agree_publish (e : PublishEnv) (subject : String) (payload : Body)
    (msgId : Option String) (headers : List (String × String)) :
    Run.Agree (WorldAbreast ids near)
      (publish e subject payload msgId headers true)
      (publish (e.nearer near) subject payload msgId headers true) := by
  intro w w' h
  obtain ⟨hreaches, hdies⟩ := h.conn.reaches e
  have hsend : (e.nearer near).send = e.send := by cases near <;> rfl
  have hconfirms : (e.nearer near).confirms w'.conn = e.confirms w.conn := by
    unfold PublishEnv.confirms
    rw [hreaches, hsend]
  have hdelivers : (e.nearer near).delivers w'.conn = e.delivers w.conn := by
    unfold PublishEnv.delivers
    rw [hreaches, hsend]
  rw [publish_spec, publish_spec, hdies, hconfirms]
  refine ⟨rfl, ?_, ?_⟩
  · unfold World.afterPublish
    dsimp only
    rw [hdelivers]
    split
    · rw [hsend]
      exact h.beside.stored _ _ _ _ _
    · exact ⟨h.beside.now, h.beside.redis, h.beside.messages⟩
  · simp only [World.afterPublish_conn]
    exact h.conn.after e

theorem agree_writeAhead (r : IngestReconciler) (o : Outcome) (alertId : String)
    (payload : Json) :
    Run.Agree (WorldAbreast ids near) (writeAhead r o alertId payload)
      (writeAhead r o alertId payload) := by
  unfold writeAhead
  split
  · exact Run.Agree.pure true
  · exact Run.Agree.tryExcept
      (Run.Agree.bind (agree_redisSetEx _ _ _ _) fun _ => Run.Agree.pure true)
      fun _ => Run.Agree.pure true

theorem agree_markPublished (r : IngestReconciler) (o : Outcome)
    (alertId : String) :
    Run.Agree (WorldAbreast ids near) (markPublished r o alertId)
      (markPublished r o alertId) := by
  unfold markPublished
  split
  · exact Run.Agree.pure ()
  · exact Run.Agree.tryExcept (agree_redisDelete _ _) fun _ => Run.Agree.pure ()

theorem agree_enqueueViaNats (codec : AlertCodec) (state : Option RuntimeState)
    (e : EnqueueEnv) (alert : NormalizedAlert) :
    Run.Agree (WorldAbreast ids near) (enqueueViaNats codec state e alert)
      (enqueueViaNats codec state
        { e with publish := e.publish.nearer near } alert) := by
  unfold enqueueViaNats
  split
  · exact Run.Agree.pure false
  refine Run.Agree.bind (Run.Agree.ofExcept _) fun fields => ?_
  refine Run.Agree.bind (Run.Agree.ofExcept _) fun body => ?_
  refine Run.Agree.bind (agree_writeAhead _ _ _ _) fun _ => ?_
  refine Run.Agree.bind (agree_publish _ _ _ _ _) fun ok => ?_
  split
  · exact Run.Agree.bind (agree_markPublished _ _ _) fun _ => Run.Agree.pure true
  · exact Run.Agree.pure true

theorem Abreast.onWorld {α : Type} {x y : Io α}
    (h : Run.Agree (WorldAbreast ids near) x y) :
    Run.Agree (Abreast ids near) (onWorld x) (onWorld y) :=
  h.focus (fun _ _ ha => ⟨ha.beside.world, ha.conn⟩) fun _ _ _ _ ha hw =>
    ⟨⟨hw.beside, ha.beside.memAlerts, ha.beside.memJobs, ha.beside.background⟩,
      hw.conn⟩

/-- Two tables with the same entries but for these have the same after a write. -/
theorem lookup_upsert_alike {α : Type} {t t' : List (String × α)}
    (h : ∀ id ∉ ids, Json.lookup id t = Json.lookup id t') (key : String)
    (value : α) :
    ∀ id ∉ ids, Json.lookup id (Json.upsert key value t) =
      Json.lookup id (Json.upsert key value t') := by
  intro id hid
  by_cases heq : id = key
  · rw [heq, Json.lookup_upsert, Json.lookup_upsert]
  · rw [Json.lookup_upsert_ne heq, Json.lookup_upsert_ne heq]
    exact h id hid

theorem agree_putAlert (p : AlertPersistence) (codec : AlertCodec) (o : Outcome)
    (alert : NormalizedAlert) :
    Run.Agree (Abreast ids near) (putAlert p codec o alert)
      (putAlert p codec o alert) := by
  unfold putAlert
  split
  · exact Abreast.onWorld (Run.Agree.bind (Run.Agree.ofExcept _) fun _ =>
      agree_redisSet _ _ _)
  · exact Run.Agree.modify fun a a' h =>
      ⟨⟨h.beside.world, lookup_upsert_alike h.beside.memAlerts _ _,
        h.beside.memJobs, h.beside.background⟩, h.conn⟩

theorem agree_setJob (p : AlertPersistence) (o : Outcome) (alertId : String)
    (status : JobStatus) (error : Option String) :
    Run.Agree (Abreast ids near) (setJob p o alertId status error)
      (setJob p o alertId status error) := by
  unfold setJob
  split
  · exact Abreast.onWorld (agree_redisSet _ _ _)
  · exact Run.Agree.modify fun a a' h =>
      ⟨⟨h.beside.world, h.beside.memAlerts,
        lookup_upsert_alike h.beside.memJobs _ _, h.beside.background⟩, h.conn⟩

theorem agree_recordRawPayload (audit : Option ℕ) (o : Outcome)
    (alertId : String) (payload : Params) :
    Run.Agree (WorldAbreast ids near) (recordRawPayload audit o alertId payload)
      (recordRawPayload audit o alertId payload) := by
  unfold recordRawPayload
  split
  · exact Run.Agree.pure ()
  · exact Run.Agree.tryExcept (agree_redisSetEx _ _ _ _) fun _ =>
      Run.Agree.pure ()

theorem agree_offerToNats (deps : IngestDeps) (e : EnqueueEnv)
    (alert : NormalizedAlert) :
    Run.Agree (Abreast ids near) (offerToNats deps e alert)
      (offerToNats deps { e with publish := e.publish.nearer near } alert) := by
  unfold offerToNats
  split
  · exact Run.Agree.tryExcept (Abreast.onWorld (agree_enqueueViaNats _ _ _ _))
      fun _ => Run.Agree.pure false
  · exact Run.Agree.pure false

/-- **One intake, in two processes abreast**, ends alike in both. -/
theorem agree_intake (deps : IngestDeps) (e : IntakeEnv) (x : BuiltAlert) :
    Run.Agree (Abreast ids near) (intake deps e x)
      (intake deps (e.nearer near) x) := by
  have hput : (e.nearer near).putAlert = e.putAlert := by cases near <;> rfl
  have hset : (e.nearer near).setJob = e.setJob := by cases near <;> rfl
  have haudit : (e.nearer near).audit = e.audit := by cases near <;> rfl
  unfold intake dispatchTriage
  rw [hput, hset, haudit, IntakeEnv.nearer_enqueue]
  refine Run.Agree.bind (agree_putAlert _ _ _ _) fun _ => ?_
  refine Run.Agree.bind (agree_setJob _ _ _ _ _) fun _ => ?_
  refine Run.Agree.bind (Abreast.onWorld (agree_recordRawPayload _ _ _ _))
    fun _ => ?_
  exact Run.Agree.bind (agree_offerToNats _ _ _) fun _ => Run.Agree.pure _

theorem rowAlert_nearer (deps : IngestDeps) (e : IntakeEnv) (row : BatchItem) :
    rowAlert deps (e.nearer near) row = rowAlert deps e row := by
  cases near <;> rfl

/-- The same rows, taken by two processes abreast. -/
theorem agree_takeRows (deps : IngestDeps) {e e' : ℕ → IntakeEnv}
    (rows : List BatchItem) : ∀ i i',
    (∀ j, e' (i' + j) = (e (i + j)).nearer near) →
      Run.Agree (Abreast ids near) (takeRows deps e i rows)
        (takeRows deps e' i' rows) := by
  induction rows with
  | nil => exact fun _ _ _ => Run.Agree.pure _
  | cons row rows ih =>
      intro i i' h
      have hrest := ih (i + 1) (i' + 1) fun j => by
        rw [Nat.add_right_comm, Nat.add_right_comm i]
        exact h (j + 1)
      have hhead : e' i' = (e i).nearer near := h 0
      unfold takeRows
      rw [hhead, rowAlert_nearer]
      split
      · exact Run.Agree.bind hrest fun _ => Run.Agree.pure _
      · exact Run.Agree.bind (agree_intake deps _ _) fun _ =>
          Run.Agree.bind hrest fun _ => Run.Agree.pure _

end Agreement

/-! ## §7  What an intake does -/

section Intake

variable {deps : IngestDeps} {alert : NormalizedAlert}

theorem natsPath_eq_some {r : IngestReconciler} {fields : Params}
    {body : String} : natsPath deps alert = some (r, fields, body) ↔
      deps.settings.ingestViaNats = true ∧
      RuntimeState.wired? deps.runtime = some r ∧
      deps.alertCodec.modelDump alert = .ok fields ∧
      deps.alertCodec.modelDumpJson alert = .ok body := by
  unfold natsPath
  cases deps.settings.ingestViaNats with
  | false => simp
  | true =>
      cases RuntimeState.wired? deps.runtime with
      | none => simp
      | some r' =>
          cases deps.alertCodec.modelDump alert with
          | error x => simp [Except.toOption]
          | ok fields' =>
              cases deps.alertCodec.modelDumpJson alert with
              | error x => simp [Except.toOption]
              | ok body' => simp [Except.toOption]

/-- Where the NATS path does not take the alert, nothing happens. -/
theorem offerToNats_of_none (h : natsPath deps alert = none) (e : EnqueueEnv)
    (a : ApiWorld) : offerToNats deps e alert a = (.ok false, a) := by
  unfold offerToNats
  split
  · rename_i hon
    have hworld : enqueueViaNats deps.alertCodec deps.runtime e alert a.world =
          (.ok false, a.world) ∨
        ∃ x, enqueueViaNats deps.alertCodec deps.runtime e alert a.world =
          (.error (.exception x), a.world) := by
      unfold enqueueViaNats
      cases hr : RuntimeState.wired? deps.runtime with
      | none => exact .inl rfl
      | some r =>
          refine .inr ?_
          cases hf : deps.alertCodec.modelDump alert with
          | error x => exact ⟨x, rfl⟩
          | ok fields =>
              cases hb : deps.alertCodec.modelDumpJson alert with
              | error x => exact ⟨x, rfl⟩
              | ok body =>
                  rw [natsPath_eq_some.mpr ⟨hon, hr, hf, hb⟩] at h
                  exact absurd h (Option.some_ne_none _)
    rcases hworld with hw | ⟨x, hw⟩
    · exact Run.tryExcept_ok (Run.focus_ok hw)
    · apply Run.tryExcept_exception (e := .python x)
      unfold onWorld Run.focus
      rw [hw]
  · rfl

/-- Where it takes the alert, it answers unless the process dies in it. -/
theorem offerToNats_of_some {r : IngestReconciler} {fields : Params}
    {body : String} (h : natsPath deps alert = some (r, fields, body))
    (e : EnqueueEnv) (a : ApiWorld) :
    (((r.hasClient && e.writeAhead.kills) = false ∧
        e.publish.dies a.world.conn = false ∧
        (e.publish.confirms a.world.conn && r.hasClient &&
          e.markPublished.kills) = false) ∧
      offerToNats deps e alert a = (.ok true,
        { a with world := a.world.afterEnqueue r e alert fields body })) ∨
    (¬ ((r.hasClient && e.writeAhead.kills) = false ∧
        e.publish.dies a.world.conn = false ∧
        (e.publish.confirms a.world.conn && r.hasClient &&
          e.markPublished.kills) = false) ∧
      ∃ a', offerToNats deps e alert a = (.error .kill, a')) := by
  obtain ⟨hon, hr, hf, hb⟩ := natsPath_eq_some.mp h
  have hspec := enqueueViaNats_spec e a.world hr hf hb
  have hoffer : offerToNats deps e alert = Run.tryExcept
      (onWorld (enqueueViaNats deps.alertCodec deps.runtime e alert))
      (fun _ => return false) := by
    unfold offerToNats
    rw [if_pos hon]
  have hkill {w : World} (hw : enqueueViaNats deps.alertCodec deps.runtime e
      alert a.world = (.error .kill, w)) :
      ∃ a', offerToNats deps e alert a = (.error .kill, a') := by
    refine ⟨{ a with world := w }, ?_⟩
    rw [hoffer]
    apply Run.tryExcept_kill
    unfold onWorld Run.focus
    rw [hw]
  -- three places to die in, each of which hides the answer
  by_cases h1 : (r.hasClient && e.writeAhead.kills) = true
  · rw [if_pos h1] at hspec
    exact .inr ⟨fun hn => absurd (h1.symm.trans hn.1) (by decide), hkill hspec⟩
  rw [if_neg h1] at hspec
  by_cases h2 : e.publish.dies a.world.conn = true
  · rw [if_pos h2] at hspec
    exact .inr ⟨fun hn => absurd (h2.symm.trans hn.2.1) (by decide), hkill hspec⟩
  rw [if_neg h2] at hspec
  by_cases h3 : (e.publish.confirms a.world.conn && r.hasClient &&
      e.markPublished.kills) = true
  · rw [if_pos h3] at hspec
    exact .inr ⟨fun hn => absurd (h3.symm.trans hn.2.2) (by decide), hkill hspec⟩
  rw [if_neg h3] at hspec
  refine .inl ⟨⟨eq_false_of_ne_true h1, eq_false_of_ne_true h2,
    eq_false_of_ne_true h3⟩, ?_⟩
  rw [hoffer]
  exact Run.tryExcept_ok (Run.focus_ok hspec)

theorem World.afterEnqueue_conn (r : IngestReconciler) (e : EnqueueEnv)
    (alert : NormalizedAlert) (fields : Params) (body : String) (w : World) :
    (w.afterEnqueue r e alert fields body).conn = e.publish.connAfter w.conn := by
  have hinline : (w.afterInline r e alert fields body).conn =
      e.publish.connAfter w.conn := by
    unfold World.afterInline
    rw [World.afterPublish_conn, World.afterWriteAhead_conn]
  unfold World.afterEnqueue World.afterMarkPublished
  split
  · split
    · exact hinline
    · exact hinline
  · exact hinline

/-- A service returns within a request what it returns by itself. -/
theorem onWorld_returns {α : Type} {x : Io α} {b : α} {a : ApiWorld} :
    (∃ a', onWorld x a = (.ok b, a')) ↔ ∃ w, x a.world = (.ok b, w) := by
  constructor
  · rintro ⟨a', h⟩
    obtain ⟨w, hw, -⟩ := Run.focus_eq_ok h
    exact ⟨w, hw⟩
  · rintro ⟨w, hw⟩
    exact ⟨_, Run.focus_ok hw⟩

theorem call_returns {o : Outcome} {x : PyExn} {f : World → World} {w : World} :
    (∃ w', (Run.call o x f fun _ => () : Io Unit) w = (.ok (), w')) ↔
      o = .returned := by
  cases o with
  | returned => exact ⟨fun _ => rfl, fun _ => ⟨_, rfl⟩⟩
  | raised b => simp [Run.call]
  | killed b => simp [Run.call]

theorem putAlert_returns (p : AlertPersistence) (codec : AlertCodec)
    (o : Outcome) (alert : NormalizedAlert) (a : ApiWorld) :
    (∃ a', putAlert p codec o alert a = (.ok (), a')) ↔
      (p.usesRedis = true → (∃ text, codec.modelDumpJson alert = .ok text) ∧
        o = .returned) := by
  unfold putAlert
  cases p.usesRedis with
  | false =>
      rw [if_neg (by decide)]
      exact ⟨fun _ h => absurd h (by decide), fun _ => ⟨_, rfl⟩⟩
  | true =>
      rw [if_pos rfl, onWorld_returns]
      cases hd : codec.modelDumpJson alert with
      | error x =>
          simp [Run.ofExcept, Run.bind_apply]
      | ok text =>
          have hset : (∃ w, (do
              let text ← Run.ofExcept (.ok text)
              redisSet o (alertKey alert.alertId) (.text text)) a.world =
                (.ok (), w)) ↔ o = .returned := call_returns
          rw [hset]
          exact ⟨fun h _ => ⟨⟨text, rfl⟩, h⟩, fun h => (h rfl).2⟩

theorem setJob_returns (p : AlertPersistence) (o : Outcome) (alertId : String)
    (status : JobStatus) (error : Option String) (a : ApiWorld) :
    (∃ a', setJob p o alertId status error a = (.ok (), a')) ↔
      (p.usesRedis = true → o = .returned) := by
  unfold setJob
  cases p.usesRedis with
  | false =>
      rw [if_neg (by decide)]
      exact ⟨fun _ h => absurd h (by decide), fun _ => ⟨_, rfl⟩⟩
  | true =>
      rw [if_pos rfl, onWorld_returns]
      exact call_returns.trans ⟨fun h _ => h, fun h => h rfl⟩

theorem recordRawPayload_returns (audit : Option ℕ) (o : Outcome)
    (alertId : String) (payload : Params) (a : ApiWorld) :
    (∃ a', onWorld (recordRawPayload audit o alertId payload) a =
        (.ok (), a')) ↔ (audit.isSome && o.kills) = false := by
  rw [onWorld_returns]
  cases audit with
  | none => exact ⟨fun _ => rfl, fun _ => ⟨_, rfl⟩⟩
  | some ttl =>
      unfold recordRawPayload redisSetEx
      simp only [Run.tryExcept_call_unit, Prod.mk.injEq]
      cases h : o.kills <;> simp

/-- What an intake went through. -/
theorem intake_eq_ok {e : IntakeEnv} {x : BuiltAlert} {a a' : ApiWorld}
    {tasks : List NormalizedAlert} (h : intake deps e x a = (.ok tasks, a')) :
    ∃ a₁ a₂ a₃ sent,
      putAlert deps.persistence deps.alertCodec e.putAlert
        x.alert.toNormalizedAlert a = (.ok (), a₁) ∧
      setJob deps.persistence e.setJob x.alert.alertId .queued none a₁ =
        (.ok (), a₂) ∧
      onWorld (recordRawPayload deps.audit e.audit x.alert.alertId x.payload)
        a₂ = (.ok (), a₃) ∧
      offerToNats deps e.enqueue x.alert.toNormalizedAlert a₃ = (.ok sent, a') ∧
      tasks = if sent then [] else [x.alert.toNormalizedAlert] := by
  unfold intake dispatchTriage at h
  obtain ⟨_, a₁, hput, h⟩ := Run.bind_eq_ok h
  obtain ⟨_, a₂, hset, h⟩ := Run.bind_eq_ok h
  obtain ⟨_, a₃, haudit, h⟩ := Run.bind_eq_ok h
  obtain ⟨sent, a₄, hoffer, h⟩ := Run.bind_eq_ok h
  obtain ⟨htasks, rfl⟩ := Prod.mk.inj h
  exact ⟨a₁, a₂, a₃, sent, hput, hset, haudit, hoffer, (Except.ok.inj htasks).symm⟩

section Kept

variable {P : ApiWorld → Prop}

theorem onWorld_keeps {α : Type} {x : Io α}
    (h : ∀ a, P a → Run.Keeps (fun w => P { a with world := w }) x) :
    Run.Keeps P (onWorld x) := by
  intro a ha
  have hx := h a ha a.world ha
  unfold onWorld Run.focus
  rcases hr : x a.world with ⟨(e | _) | b, w⟩ <;>
    · rw [hr] at hx
      exact hx

theorem putAlert_keeps {alert : NormalizedAlert}
    (hset : ∀ value a, P a →
      P { a with world := a.world.set (alertKey alert.alertId) value })
    (hmem : ∀ a, P a →
      P { a with memAlerts := Json.upsert alert.alertId alert a.memAlerts })
    (p : AlertPersistence) (codec : AlertCodec) (o : Outcome) :
    Run.Keeps P (putAlert p codec o alert) := by
  unfold putAlert
  split
  · exact onWorld_keeps fun a ha => Run.Keeps.bind (Run.Keeps.ofExcept _)
      fun _ => Run.Keeps.call fun w hw => hset _ { a with world := w } hw
  · exact Run.Keeps.modify hmem

theorem setJob_keeps {alertId : String} {status : JobStatus}
    {error : Option String}
    (hset : ∀ value a, P a →
      P { a with world := a.world.set (jobKey alertId) value })
    (hmem : ∀ a, P a → P { a with
      memJobs := Json.upsert alertId (jobRecord status error) a.memJobs })
    (p : AlertPersistence) (o : Outcome) :
    Run.Keeps P (setJob p o alertId status error) := by
  unfold setJob
  split
  · exact onWorld_keeps fun a ha => Run.Keeps.call fun w hw =>
      hset _ { a with world := w } hw
  · exact Run.Keeps.modify hmem

theorem recordRawPayload_keeps {alertId : String}
    (hset : ∀ value ttl a, P a →
      P { a with world := a.world.setEx (rawKey alertId) value ttl })
    (audit : Option ℕ) (o : Outcome) (payload : Params) :
    Run.Keeps P (onWorld (recordRawPayload audit o alertId payload)) := by
  refine onWorld_keeps fun a ha => ?_
  unfold recordRawPayload
  split
  · exact Run.Keeps.pure ()
  · exact Run.Keeps.tryExcept (Run.Keeps.call fun w hw =>
      hset _ _ { a with world := w } hw) fun _ => Run.Keeps.pure ()

theorem offerToNats_keeps {e : EnqueueEnv} {alert : NormalizedAlert}
    (h : ∀ a, P a → Run.Keeps (fun w => P { a with world := w })
      (enqueueViaNats deps.alertCodec deps.runtime e alert)) :
    Run.Keeps P (offerToNats deps e alert) := by
  unfold offerToNats
  split
  · exact Run.Keeps.tryExcept (onWorld_keeps h) fun _ => Run.Keeps.pure false
  · exact Run.Keeps.pure false

end Kept

/-- The connection is as it was until the alert is offered to NATS. -/
theorem conn_before_offer {e : IntakeEnv} {x : BuiltAlert}
    {a a₁ a₂ a₃ : ApiWorld}
    (hput : putAlert deps.persistence deps.alertCodec e.putAlert
      x.alert.toNormalizedAlert a = (.ok (), a₁))
    (hset : setJob deps.persistence e.setJob x.alert.alertId .queued none a₁ =
      (.ok (), a₂))
    (haudit : onWorld (recordRawPayload deps.audit e.audit x.alert.alertId
      x.payload) a₂ = (.ok (), a₃)) : a₃.world.conn = a.world.conn := by
  have h₁ : a₁.world.conn = a.world.conn :=
    (putAlert_keeps (P := fun b => b.world.conn = a.world.conn)
      (fun _ _ h => h) (fun _ h => h) _ _ _).result rfl hput
  have h₂ : a₂.world.conn = a.world.conn :=
    (setJob_keeps (P := fun b => b.world.conn = a.world.conn)
      (fun _ _ h => h) (fun _ h => h) _ _).result h₁ hset
  exact (recordRawPayload_keeps (P := fun b => b.world.conn = a.world.conn)
    (fun _ _ _ h => h) _ _ _).result h₂ haudit

/-- **When an intake returns**: the store takes the alert, and the process
outlives the rest. -/
theorem intake_returns (deps : IngestDeps) (e : IntakeEnv) (x : BuiltAlert)
    (a : ApiWorld) :
    (∃ tasks a', intake deps e x a = (.ok tasks, a')) ↔
      StoreTakes deps e x.alert.toNormalizedAlert ∧
      Outlives deps e x.alert.toNormalizedAlert a.world.conn := by
  constructor
  · rintro ⟨tasks, a', h⟩
    obtain ⟨a₁, a₂, a₃, sent, hput, hset, haudit, hoffer, -⟩ := intake_eq_ok h
    have hconn := conn_before_offer hput hset haudit
    refine ⟨fun hredis => ?_, ?_, fun r fields body hpath => ?_⟩
    · obtain ⟨htext, ho⟩ := (putAlert_returns _ _ _ _ _).mp ⟨a₁, hput⟩ hredis
      exact ⟨htext, ho, (setJob_returns _ _ _ _ _ _).mp ⟨a₂, hset⟩ hredis⟩
    · exact (recordRawPayload_returns _ _ _ _ _).mp ⟨a₃, haudit⟩
    · rw [← hconn]
      rcases offerToNats_of_some hpath e.enqueue a₃ with ⟨hl, -⟩ | ⟨-, a₄, hk⟩
      · exact hl
      · rw [hk] at hoffer
        exact absurd (congrArg Prod.fst hoffer) (by simp)
  · rintro ⟨hstore, hrecord, hlives⟩
    -- one call after the other, each answered under its part of the condition
    obtain ⟨a₁, hput⟩ := (putAlert_returns deps.persistence deps.alertCodec
      e.putAlert x.alert.toNormalizedAlert a).mpr fun hredis =>
        ⟨(hstore hredis).1, (hstore hredis).2.1⟩
    obtain ⟨a₂, hset⟩ := (setJob_returns deps.persistence e.setJob
      x.alert.alertId .queued none a₁).mpr fun hredis => (hstore hredis).2.2
    obtain ⟨a₃, haudit⟩ := (recordRawPayload_returns deps.audit e.audit
      x.alert.alertId x.payload a₂).mpr hrecord
    have hconn := conn_before_offer hput hset haudit
    have hoffer : ∃ sent a', offerToNats deps e.enqueue
        x.alert.toNormalizedAlert a₃ = (.ok sent, a') := by
      cases hpath : natsPath deps x.alert.toNormalizedAlert with
      | none => exact ⟨false, a₃, offerToNats_of_none hpath _ _⟩
      | some path =>
          obtain ⟨r, fields, body⟩ := path
          have hl := hlives r fields body hpath
          rw [← hconn] at hl
          rcases offerToNats_of_some hpath e.enqueue a₃ with ⟨-, ho⟩ | ⟨hn, -⟩
          · exact ⟨true, _, ho⟩
          · exact absurd hl hn
    obtain ⟨sent, a', hoffer⟩ := hoffer
    refine ⟨if sent then [] else [x.alert.toNormalizedAlert], a', ?_⟩
    unfold intake dispatchTriage
    rw [Run.bind_ok hput, Run.bind_ok hset, Run.bind_ok haudit,
      Run.bind_ok hoffer]
    rfl

/-- The connection after an intake. -/
theorem intake_conn {e : IntakeEnv} {x : BuiltAlert} {a a' : ApiWorld}
    {tasks : List NormalizedAlert} (h : intake deps e x a = (.ok tasks, a')) :
    a'.world.conn =
      connAfterIntake deps e x.alert.toNormalizedAlert a.world.conn := by
  obtain ⟨a₁, a₂, a₃, sent, hput, hset, haudit, hoffer, -⟩ := intake_eq_ok h
  have hconn := conn_before_offer hput hset haudit
  unfold connAfterIntake
  cases hpath : natsPath deps x.alert.toNormalizedAlert with
  | none =>
      rw [offerToNats_of_none hpath] at hoffer
      obtain ⟨-, rfl⟩ := Prod.mk.inj hoffer
      exact hconn
  | some path =>
      obtain ⟨r, fields, body⟩ := path
      rcases offerToNats_of_some hpath e.enqueue a₃ with ⟨-, ho⟩ | ⟨-, a₄, hk⟩
      · rw [ho] at hoffer
        obtain ⟨-, rfl⟩ := Prod.mk.inj hoffer
        rw [← hconn]
        exact World.afterEnqueue_conn _ _ _ _ _ _
      · rw [hk] at hoffer
        exact absurd (congrArg Prod.fst hoffer) (by simp)

end Intake

/-! ## §8  Without one of the rows -/

section Removal

variable {deps : IngestDeps} {ids : List String} {a a' b : ApiWorld}

theorem Beside.refl (ids : List String) (a : ApiWorld) : Beside ids a a :=
  ⟨WorldBeside.refl ids a.world, fun _ _ => rfl, fun _ _ => rfl, rfl⟩

theorem lookup_upsert_beside {α : Type} {t t' : List (String × α)}
    (h : ∀ id ∉ ids, Json.lookup id t = Json.lookup id t') {key : String}
    (hkey : key ∈ ids) (value : α) :
    ∀ id ∉ ids, Json.lookup id (Json.upsert key value t) = Json.lookup id t' := by
  intro id hid
  have hne : id ≠ key := fun heq => hid (heq ▸ hkey)
  rw [Json.lookup_upsert_ne hne]
  exact h id hid

/-- An intake changes nothing but what is kept of its alert. -/
theorem beside_intake (deps : IngestDeps) (e : IntakeEnv) {x : BuiltAlert}
    (hid : x.alert.alertId ∈ ids) :
    Run.Keeps (fun a => Beside ids a b) (intake deps e x) := by
  unfold intake dispatchTriage
  refine Run.Keeps.bind (putAlert_keeps (fun value a h => ?_) (fun a h => ?_)
    _ _ _) fun _ => ?_
  · exact ⟨h.world.set_left hid (by simp [intakeKeys]) value, h.memAlerts,
      h.memJobs, h.background⟩
  · exact ⟨h.world, lookup_upsert_beside h.memAlerts hid _, h.memJobs,
      h.background⟩
  refine Run.Keeps.bind (setJob_keeps (fun value a h => ?_) (fun a h => ?_)
    _ _) fun _ => ?_
  · exact ⟨h.world.set_left hid (by simp [intakeKeys]) value, h.memAlerts,
      h.memJobs, h.background⟩
  · exact ⟨h.world, h.memAlerts, lookup_upsert_beside h.memJobs hid _,
      h.background⟩
  refine Run.Keeps.bind (recordRawPayload_keeps (fun value ttl a h => ?_)
    _ _ _) fun _ => ?_
  · exact ⟨h.world.setEx_left hid (by simp [intakeKeys]) value ttl, h.memAlerts,
      h.memJobs, h.background⟩
  refine Run.Keeps.bind (offerToNats_keeps fun a h => ?_) fun _ =>
    Run.Keeps.pure _
  refine enqueue_keeps (fun value ttl w hw => ?_) (fun e body w hw => ?_)
    (fun w hw => ?_) _ _ _
  · exact ⟨hw.world.setEx_left hid (by simp [intakeKeys]) value ttl,
      hw.memAlerts, hw.memJobs, hw.background⟩
  · exact ⟨hw.world.afterPublish_left hid e _, hw.memAlerts, hw.memJobs,
      hw.background⟩
  · refine ⟨hw.world.delete_left hid fun key hkey => ?_, hw.memAlerts,
      hw.memJobs, hw.background⟩
    have hsub : [pendingKey x.alert.alertId, leaseKey x.alert.alertId,
        attemptsKey x.alert.alertId] ⊆ intakeKeys x.alert.alertId := by
      simp [intakeKeys]
    exact hsub hkey

/-- A process that leaves a row out has at most the connection still to make. -/
theorem connAbreast_intake {e : IntakeEnv} {row : BatchItem} {x : BuiltAlert}
    (hrow : rowAlert deps e row = .ok x) (c : Connection) :
    ConnAbreast (Connects deps e row)
      (connAfterIntake deps e x.alert.toNormalizedAlert c) c := by
  obtain ⟨connected, js⟩ := c
  unfold Connects connAfterIntake ConnAbreast PublishEnv.connAfter
  simp only [hrow]
  cases natsPath deps x.alert.toNormalizedAlert with
  | none => simp
  | some path =>
      by_cases hnear : e.enqueue.publish.connect = .returned
      · cases connected <;> simp [hnear]
      · cases connected <;> simp [hnear]

/-- A row, then those that follow. -/
theorem takeRows_cons (deps : IngestDeps) (e : ℕ → IntakeEnv) (i : ℕ)
    (row : BatchItem) (rows : List BatchItem) :
    takeRows deps e i (row :: rows) = (do
      let one ← takeRows deps e i [row]
      let rest ← takeRows deps e (i + 1) rows
      return (one.1 ++ rest.1, one.2 ++ rest.2)) := by
  funext a
  simp only [takeRows]
  cases rowAlert deps (e i) row with
  | error text => rfl
  | ok x =>
      simp only [Run.bind_apply]
      rcases intake deps (e i) x a with ⟨u | tasks, a₁⟩
      · rfl
      · simp [Run.pure_apply]

theorem takeRows_error {e : ℕ → IntakeEnv} {i : ℕ} {row : BatchItem}
    {text : String} (h : rowAlert deps (e i) row = .error text) (a : ApiWorld) :
    takeRows deps e i [row] a = (.ok ([.refused text], []), a) := by
  simp only [takeRows, h]
  rfl

theorem takeRows_ok {e : ℕ → IntakeEnv} {i : ℕ} {row : BatchItem}
    {x : BuiltAlert} (h : rowAlert deps (e i) row = .ok x)
    {tasks : List NormalizedAlert} (hx : intake deps (e i) x a = (.ok tasks, a')) :
    takeRows deps e i [row] a =
      (.ok ([.accepted x.alert.alertId x.source], tasks), a') := by
  simp only [takeRows, h]
  rw [Run.bind_ok hx]
  have hrest : tasks ++ [] = tasks := List.append_nil tasks
  exact congrArg (fun own => (Except.ok (_, own), a')) hrest

/-- What a row that was taken went through. -/
theorem takeRows_one_eq_ok {e : ℕ → IntakeEnv} {i : ℕ} {row : BatchItem}
    {results : List BatchResult} {tasks : List NormalizedAlert}
    (h : takeRows deps e i [row] a = (.ok (results, tasks), a')) :
    (∃ text, rowAlert deps (e i) row = .error text ∧
        results = [.refused text] ∧ tasks = [] ∧ a' = a) ∨
    ∃ x, rowAlert deps (e i) row = .ok x ∧
        results = [.accepted x.alert.alertId x.source] ∧
        intake deps (e i) x a = (.ok tasks, a') := by
  cases hrow : rowAlert deps (e i) row with
  | error text =>
      rw [takeRows_error hrow] at h
      obtain ⟨hrest, rfl⟩ := Prod.mk.inj h
      obtain ⟨rfl, rfl⟩ := Prod.mk.inj (Except.ok.inj hrest)
      exact .inl ⟨text, rfl, rfl, rfl, rfl⟩
  | ok x =>
      simp only [takeRows, hrow] at h
      obtain ⟨own, a₁, hx, h⟩ := Run.bind_eq_ok h
      obtain ⟨hrest, rfl⟩ := Prod.mk.inj h
      obtain ⟨rfl, htasks⟩ := Prod.mk.inj (Except.ok.inj hrest)
      obtain rfl : own = tasks := (List.append_nil own).symm.trans htasks
      exact .inr ⟨x, rfl, rfl, hx⟩

theorem takeRows_cons_eq_ok {e : ℕ → IntakeEnv} {i : ℕ} {row : BatchItem}
    {rows : List BatchItem} {results : List BatchResult}
    {tasks : List NormalizedAlert}
    (h : takeRows deps e i (row :: rows) a = (.ok (results, tasks), a')) :
    ∃ result own rest later a₁, results = result :: rest ∧ tasks = own ++ later ∧
      takeRows deps e i [row] a = (.ok ([result], own), a₁) ∧
      takeRows deps e (i + 1) rows a₁ = (.ok (rest, later), a') := by
  rw [takeRows_cons] at h
  obtain ⟨⟨one, own⟩, a₁, hone, h⟩ := Run.bind_eq_ok h
  obtain ⟨⟨rest, later⟩, a₂, hrest, h⟩ := Run.bind_eq_ok h
  obtain ⟨hout, rfl⟩ := Prod.mk.inj h
  obtain ⟨rfl, rfl⟩ := Prod.mk.inj (Except.ok.inj hout)
  have hsingle : ∃ result, one = [result] := by
    rcases takeRows_one_eq_ok hone with ⟨_, -, rfl, -⟩ | ⟨_, -, rfl, -⟩
    · exact ⟨_, rfl⟩
    · exact ⟨_, rfl⟩
  obtain ⟨result, rfl⟩ := hsingle
  exact ⟨result, own, rest, later, a₁, rfl, rfl, hone, hrest⟩

theorem takeRows_cons_ok {e : ℕ → IntakeEnv} {i : ℕ} {row : BatchItem}
    {rows : List BatchItem} {result : BatchResult} {rest : List BatchResult}
    {own later : List NormalizedAlert} {a₁ : ApiWorld}
    (hone : takeRows deps e i [row] a = (.ok ([result], own), a₁))
    (hrest : takeRows deps e (i + 1) rows a₁ = (.ok (rest, later), a')) :
    takeRows deps e i (row :: rows) a =
      (.ok (result :: rest, own ++ later), a') := by
  rw [takeRows_cons, Run.bind_ok hone, Run.bind_ok hrest]
  rfl

/-- The tasks of other alerts. -/
def tasksBeside (ids : List String) (tasks : List NormalizedAlert) :
    List NormalizedAlert :=
  tasks.filter fun alert => !ids.contains alert.alertId

theorem tasksBeside_append (ids : List String) (l m : List NormalizedAlert) :
    tasksBeside ids (l ++ m) = tasksBeside ids l ++ tasksBeside ids m :=
  List.filter_append l m

theorem tasksBeside_own {row : BatchItem} {e : ℕ → IntakeEnv} {i : ℕ}
    {results : List BatchResult} {tasks : List NormalizedAlert}
    (h : takeRows deps e i [row] a = (.ok (results, tasks), a')) :
    tasksBeside (rowIds deps (e i) row) tasks = [] := by
  rcases takeRows_one_eq_ok h with ⟨_, -, -, rfl, -⟩ | ⟨x, hx, -, hin⟩
  · rfl
  · refine List.filter_eq_nil_iff.mpr fun task htask => ?_
    rw [intake_tasks deps (e i) x a tasks a' hin task htask]
    simp [rowIds, hx, Except.toOption]

/-- The first row left out. -/
theorem takeRows_tail {e e' : ℕ → IntakeEnv} {i : ℕ} {row : BatchItem}
    {rows : List BatchItem} {results : List BatchResult}
    {tasks : List NormalizedAlert}
    (h : takeRows deps e i (row :: rows) a = (.ok (results, tasks), a'))
    (he : ∀ j, e' (i + j) = (e (i + 1 + j)).nearer (Connects deps (e i) row)) :
    ∃ tasks' b, takeRows deps e' i rows a = (.ok (results.eraseIdx 0, tasks'), b) ∧
      Beside (rowIds deps (e i) row) a' b ∧
      tasksBeside (rowIds deps (e i) row) tasks =
        tasksBeside (rowIds deps (e i) row) tasks' := by
  obtain ⟨result, own, rest, later, a₁, rfl, rfl, hone, hrest⟩ :=
    takeRows_cons_eq_ok h
  have habreast : Abreast (rowIds deps (e i) row) (Connects deps (e i) row)
      a₁ a := by
    rcases takeRows_one_eq_ok hone with ⟨_, hrow, -, -, rfl⟩ | ⟨x, hrow, -, hin⟩
    · refine ⟨Beside.refl _ _, ?_⟩
      simp [ConnAbreast, Connects, hrow]
    · have hid : x.alert.alertId ∈ rowIds deps (e i) row := by
        simp [rowIds, hrow, Except.toOption]
      refine ⟨(beside_intake deps (e i) hid).result (Beside.refl _ _) hin, ?_⟩
      rw [intake_conn hin]
      exact connAbreast_intake hrow _
  obtain ⟨b, hb, hside⟩ :=
    (agree_takeRows deps rows (i + 1) i he).returns habreast hrest
  refine ⟨later, b, hb, hside.beside, ?_⟩
  rw [tasksBeside_append, tasksBeside_own hone, List.nil_append]

/-- **Any row left out**: what the others are answered is the same, and what is
kept of other alerts. -/
theorem takeRows_eraseIdx (deps : IngestDeps) (e e' : ℕ → IntakeEnv)
    {row : BatchItem} (k : ℕ) :
    ∀ (rows : List BatchItem) (i : ℕ) (a a' : ApiWorld)
      (results : List BatchResult) (tasks : List NormalizedAlert),
      rows[k]? = some row →
      takeRows deps e i rows a = (.ok (results, tasks), a') →
      (∀ j < i + k, e' j = e j) →
      (∀ j, e' (i + k + j) =
        (e (i + k + 1 + j)).nearer (Connects deps (e (i + k)) row)) →
      ∃ tasks' b, takeRows deps e' i (rows.eraseIdx k) a =
          (.ok (results.eraseIdx k, tasks'), b) ∧
        Beside (rowIds deps (e (i + k)) row) a' b ∧
        tasksBeside (rowIds deps (e (i + k)) row) tasks =
          tasksBeside (rowIds deps (e (i + k)) row) tasks' := by
  induction k with
  | zero =>
      intro rows i a a' results tasks hget h _ he
      cases rows with
      | nil => exact absurd hget (by simp)
      | cons first rows =>
          obtain rfl : first = row := Option.some.inj hget
          exact takeRows_tail h he
  | succ k ih =>
      intro rows i a a' results tasks hget h hbefore he
      cases rows with
      | nil => exact absurd hget (by simp)
      | cons first rows =>
          obtain ⟨result, own, rest, later, a₁, rfl, rfl, hone, hrest⟩ :=
            takeRows_cons_eq_ok h
          have hindex : i + 1 + k = i + (k + 1) := by omega
          obtain ⟨tasks', b, hb, hside, htasks⟩ := ih rows (i + 1) a₁ a' rest
            later hget hrest (by rw [hindex]; exact hbefore)
            (by rw [hindex]; exact he)
          rw [hindex] at hside htasks
          -- the row before the one left out is taken in the same way
          have hhead : takeRows deps e' i [first] a =
              (.ok ([result], own), a₁) := by
            rw [← hone]
            simp only [takeRows, hbefore i (by omega)]
          refine ⟨own ++ tasks', b, takeRows_cons_ok hhead hb, hside, ?_⟩
          rw [tasksBeside_append, tasksBeside_append, htasks]

end Removal

/-! ## §9  Stored and dispatched -/

section Handling

variable {deps : IngestDeps} {alert : NormalizedAlert}

theorem InStore.of_same {a a' : ApiWorld} (h : InStore deps alert a)
    (halert : a'.world.lookup (alertKey alert.alertId) =
      a.world.lookup (alertKey alert.alertId))
    (hjob : a'.world.lookup (jobKey alert.alertId) =
      a.world.lookup (jobKey alert.alertId))
    (halerts : a'.memAlerts = a.memAlerts) (hjobs : a'.memJobs = a.memJobs) :
    InStore deps alert a' := by
  unfold InStore at h ⊢
  rwa [halert, hjob, halerts, hjobs]

/-- The alert and its job stay in the store while the rest is done. -/
theorem keeps_inStore_raw (audit : Option ℕ) (o : Outcome) (payload : Params) :
    Run.Keeps (InStore deps alert)
      (onWorld (recordRawPayload audit o alert.alertId payload)) := by
  refine recordRawPayload_keeps (fun value ttl a h => ?_) _ _ _
  refine h.of_same ?_ ?_ rfl rfl
  · exact World.lookup_setEx_ne
      (AlertSlot.key_ne_of_stem .alert .rawPayload (by decide) _ _)
  · exact World.lookup_setEx_ne
      (AlertSlot.key_ne_of_stem .job .rawPayload (by decide) _ _)

theorem keeps_inStore_offer (e : EnqueueEnv) :
    Run.Keeps (InStore deps alert) (offerToNats deps e alert) := by
  refine offerToNats_keeps fun a _ => ?_
  have hgone (slot : AlertSlot) (h₁ : slot.stem ≠ AlertSlot.entry.stem)
      (h₂ : slot.stem ≠ AlertSlot.lease.stem)
      (h₃ : slot.stem ≠ AlertSlot.attempts.stem) :
      slot.key alert.alertId ∉ [pendingKey alert.alertId,
        leaseKey alert.alertId, attemptsKey alert.alertId] := by
    have hentry := AlertSlot.key_ne_of_stem slot .entry h₁ alert.alertId
      alert.alertId
    have hlease := AlertSlot.key_ne_of_stem slot .lease h₂ alert.alertId
      alert.alertId
    have hattempts := AlertSlot.key_ne_of_stem slot .attempts h₃ alert.alertId
      alert.alertId
    simp only [List.mem_cons, List.not_mem_nil, or_false, not_or]
    exact ⟨hentry, hlease, hattempts⟩
  refine enqueue_keeps (fun value ttl w hw => ?_) (fun e body w hw => ?_)
    (fun w hw => ?_) _ _ _
  · refine hw.of_same ?_ ?_ rfl rfl
    · exact World.lookup_setEx_ne
        (AlertSlot.key_ne_of_stem .alert .entry (by decide) _ _)
    · exact World.lookup_setEx_ne
        (AlertSlot.key_ne_of_stem .job .entry (by decide) _ _)
  · exact hw.of_same (lookup_afterPublish _ _ _ _ _ _)
      (lookup_afterPublish _ _ _ _ _ _) rfl rfl
  · refine hw.of_same ?_ ?_ rfl rfl
    · exact World.lookup_delete_of_notMem
        (hgone .alert (by decide) (by decide) (by decide))
    · exact World.lookup_delete_of_notMem
        (hgone .job (by decide) (by decide) (by decide))

/-- The two writes to the store, where it takes them. -/
theorem inStore_of_writes {e : IntakeEnv} {x : BuiltAlert}
    {a a₁ a₂ : ApiWorld}
    (hstore : StoreTakes deps e x.alert.toNormalizedAlert)
    (hput : putAlert deps.persistence deps.alertCodec e.putAlert
      x.alert.toNormalizedAlert a = (.ok (), a₁))
    (hset : setJob deps.persistence e.setJob x.alert.alertId .queued none a₁ =
      (.ok (), a₂)) : InStore deps x.alert.toNormalizedAlert a₂ := by
  unfold InStore
  by_cases hredis : deps.persistence.usesRedis = true
  · obtain ⟨⟨text, htext⟩, hp, hs⟩ := hstore hredis
    rw [if_pos hredis]
    have hput' : a₁ = { a with
        world := a.world.set (alertKey x.alert.alertId) (.text text) } := by
      rw [putAlert, if_pos hredis, htext, hp] at hput
      exact (congrArg Prod.snd hput).symm
    have hset' : a₂ = { a₁ with
        world := a₁.world.set (jobKey x.alert.alertId)
          (.text (Json.dumps pythonStyle (.obj (jobRecord .queued none)))) } := by
      rw [setJob, if_pos hredis, hs] at hset
      exact (congrArg Prod.snd hset).symm
    have hne : alertKey x.alert.alertId ≠ jobKey x.alert.alertId :=
      AlertSlot.key_ne_of_stem .alert .job (by decide) _ _
    rw [hset', hput']
    exact ⟨⟨text, htext, (TtlStore.get_set_ne hne).trans TtlStore.get_set⟩,
      TtlStore.get_set⟩
  · rw [if_neg hredis]
    rw [putAlert, if_neg hredis] at hput
    rw [setJob, if_neg hredis] at hset
    obtain rfl := (Prod.mk.inj hput).2
    obtain rfl := (Prod.mk.inj hset).2
    exact ⟨Json.lookup_upsert _ _ _, Json.lookup_upsert _ _ _⟩

/-- **An intake that returns has stored its alert.** -/
theorem intake_inStore {e : IntakeEnv} {x : BuiltAlert} {a a' : ApiWorld}
    {tasks : List NormalizedAlert} (h : intake deps e x a = (.ok tasks, a')) :
    InStore deps x.alert.toNormalizedAlert a' := by
  have hstore := ((intake_returns deps e x a).mp ⟨tasks, a', h⟩).1
  obtain ⟨a₁, a₂, a₃, sent, hput, hset, haudit, hoffer, -⟩ := intake_eq_ok h
  have h₂ := inStore_of_writes hstore hput hset
  have h₃ := (keeps_inStore_raw _ _ _).result h₂ haudit
  exact (keeps_inStore_offer e.enqueue).result h₃ hoffer

theorem new_iff {event : Event} {fresh : List Event} {w w' : World}
    (h : w'.log = fresh ++ w.log) : New event w w' ↔ event ∈ fresh := by
  constructor
  · rintro ⟨fresh', h', hmem⟩
    rw [h] at h'
    rwa [List.append_cancel_right h']
  · exact fun hmem => ⟨fresh, h, hmem⟩

/-- A record of the intake before the alert is offered. -/
def StoreEvent (alertId : String) (event : Event) : Prop :=
  ∃ key ∈ [alertKey alertId, jobKey alertId, rawKey alertId],
    ∃ value, event = .redisSet key value

theorem log_before_offer {e : IntakeEnv} {x : BuiltAlert}
    {a a₁ a₂ a₃ : ApiWorld}
    (hput : putAlert deps.persistence deps.alertCodec e.putAlert
      x.alert.toNormalizedAlert a = (.ok (), a₁))
    (hset : setJob deps.persistence e.setJob x.alert.alertId .queued none a₁ =
      (.ok (), a₂))
    (haudit : onWorld (recordRawPayload deps.audit e.audit x.alert.alertId
      x.payload) a₂ = (.ok (), a₃)) :
    ∃ first, a₃.world.log = first ++ a.world.log ∧
      ∀ event ∈ first, StoreEvent x.alert.alertId event := by
  let P : ApiWorld → Prop := fun b => ∃ first, b.world.log =
    first ++ a.world.log ∧ ∀ event ∈ first, StoreEvent x.alert.alertId event
  have hgrow (key : String) (hkey : key ∈ [alertKey x.alert.alertId,
      jobKey x.alert.alertId, rawKey x.alert.alertId]) (value : RedisValue)
      {b b' : ApiWorld} (h : P b)
      (hlog : b'.world.log = .redisSet key value :: b.world.log) : P b' := by
    obtain ⟨first, hfirst, hall⟩ := h
    refine ⟨.redisSet key value :: first, by rw [hlog, hfirst]; rfl, ?_⟩
    intro event hevent
    rcases List.mem_cons.mp hevent with rfl | hevent
    · exact ⟨key, hkey, value, rfl⟩
    · exact hall event hevent
  have h₁ : P a₁ := (putAlert_keeps (P := P)
    (fun value b h => hgrow _ (by simp) value h rfl) (fun b h => h) _ _ _).result
    ⟨[], rfl, by simp⟩ hput
  have h₂ : P a₂ := (setJob_keeps (P := P)
    (fun value b h => hgrow _ (by simp) value h rfl) (fun b h => h) _ _).result
    h₁ hset
  exact (recordRawPayload_keeps (P := P)
    (fun value ttl b h => hgrow _ (by simp) value h rfl) _ _ _).result h₂ haudit

/-- What the NATS path records: the entry written ahead, the message, and what
was removed. -/
theorem afterEnqueue_log (r : IngestReconciler) (e : EnqueueEnv)
    (alert : NormalizedAlert) (fields : Params) (body : String) (w : World) :
    ∃ removed, (∀ event ∈ removed, ∃ key value, event = .redisDeleted key value) ∧
      (w.afterEnqueue r e alert fields body).log = removed ++
        ((if e.publish.delivers w.conn then
          [.stored (some alert.alertId) (inlineMsg alert body)
            (e.publish.send = .returned)] else []) ++
        ((if r.hasClient && e.writeAhead.applied then
          [.redisSet (pendingKey alert.alertId)
            (.text (Json.dumps pythonStyle (walPayload alert fields)))] else []) ++
          w.log)) := by
  have hahead : (w.afterWriteAhead r e.writeAhead alert.alertId
      (walPayload alert fields)).log =
      (if r.hasClient && e.writeAhead.applied then
        [.redisSet (pendingKey alert.alertId)
          (.text (Json.dumps pythonStyle (walPayload alert fields)))] else []) ++
        w.log := by
    unfold World.afterWriteAhead
    split <;> rfl
  -- the newest event stands first: the write ahead is below the publish
  have hinline : (w.afterInline r e alert fields body).log =
      (if e.publish.delivers w.conn then
        [.stored (some alert.alertId) (inlineMsg alert body)
          (e.publish.send = .returned)] else []) ++
      ((if r.hasClient && e.writeAhead.applied then
        [.redisSet (pendingKey alert.alertId)
          (.text (Json.dumps pythonStyle (walPayload alert fields)))] else []) ++
        w.log) := by
    rw [← hahead]
    unfold World.afterInline World.afterPublish
    simp only [World.afterWriteAhead_conn]
    split <;> rfl
  unfold World.afterEnqueue World.afterMarkPublished
  rw [← hinline]
  split
  · split
    · refine ⟨(w.afterInline r e alert fields body).deletions _,
        fun event hevent => ?_, rfl⟩
      obtain ⟨key, -, value, -, rfl⟩ := World.mem_deletions hevent
      exact ⟨key, value, rfl⟩
    · exact ⟨[], by simp, rfl⟩
  · exact ⟨[], by simp, rfl⟩

/-- The entry is there after the call if it was written and not removed. -/
theorem lookup_afterEnqueue (r : IngestReconciler) (e : EnqueueEnv)
    (alert : NormalizedAlert) (fields : Params) (body : String) (w : World)
    (hwritten : (r.hasClient && e.writeAhead.applied) = true) :
    (w.afterEnqueue r e alert fields body).lookup (pendingKey alert.alertId) =
      if e.publish.confirms w.conn && e.markPublished.applied then none
      else some (.text (Json.dumps pythonStyle (walPayload alert fields))) := by
  have hpos : 0 < r.maxAge * second := Nat.mul_pos r.maxAge_pos (by decide)
  have hinline : (w.afterInline r e alert fields body).lookup
      (pendingKey alert.alertId) =
      some (.text (Json.dumps pythonStyle (walPayload alert fields))) := by
    rw [World.afterInline, lookup_afterPublish, World.afterWriteAhead,
      if_pos hwritten]
    exact World.lookup_setEx hpos
  have hclient : r.hasClient = true := (Bool.and_eq_true_iff.mp hwritten).1
  unfold World.afterEnqueue World.afterMarkPublished
  rw [hclient, Bool.true_and]
  cases hconfirms : e.publish.confirms w.conn with
  | false => exact hinline
  | true =>
      rw [if_pos rfl, Bool.true_and]
      split
      · exact World.lookup_delete_of_mem (by simp)
      · exact hinline

section Offered

variable (r : IngestReconciler) (e : EnqueueEnv) {w₀ w : World}
  {first : List Event}

/-- What is new after the call: what the call records, and what came before. -/
theorem new_afterEnqueue (alert : NormalizedAlert) (fields : Params)
    (body : String) (hfirst : w.log = first ++ w₀.log) :
    ∃ removed : List Event,
      (∀ event ∈ removed, ∃ key value, event = .redisDeleted key value) ∧
      ∀ event, New event w₀ (w.afterEnqueue r e alert fields body) ↔
        event ∈ removed ∨
        (e.publish.delivers w.conn = true ∧
          event = .stored (some alert.alertId) (inlineMsg alert body)
            (e.publish.send = .returned)) ∨
        ((r.hasClient && e.writeAhead.applied) = true ∧
          event = .redisSet (pendingKey alert.alertId)
            (.text (Json.dumps pythonStyle (walPayload alert fields)))) ∨
        event ∈ first := by
  obtain ⟨removed, hremoved, hlog⟩ := afterEnqueue_log r e alert fields body w
  refine ⟨removed, hremoved, fun event => ?_⟩
  rw [hfirst, ← List.append_assoc, ← List.append_assoc,
    ← List.append_assoc] at hlog
  rw [new_iff hlog]
  simp only [List.mem_append, or_assoc]
  refine or_congr_right (or_congr ?_ (or_congr_left ?_))
  · split <;> simp [*]
  · split <;> simp [*]

theorem published_iff (fields : Params) {body : String}
    (hbody : deps.alertCodec.modelDumpJson alert = .ok body)
    (hfirst : w.log = first ++ w₀.log)
    (hstore : ∀ event ∈ first, StoreEvent alert.alertId event) :
    Published deps alert w₀ (w.afterEnqueue r e alert fields body) ↔
      e.publish.delivers w.conn = true := by
  obtain ⟨removed, hremoved, hnew⟩ :=
    new_afterEnqueue r e alert fields body hfirst
  constructor
  · rintro ⟨body', acked, -, h⟩
    rcases (hnew _).mp h with h | ⟨hdelivers, -⟩ | ⟨-, h⟩ | h
    · obtain ⟨key, value, heq⟩ := hremoved _ h
      exact absurd heq (by simp)
    · exact hdelivers
    · exact absurd h (by simp)
    · obtain ⟨key, -, value, heq⟩ := hstore _ h
      exact absurd heq (by simp)
  · intro hdelivers
    exact ⟨body, _, hbody, (hnew _).mpr (.inr (.inl ⟨hdelivers, rfl⟩))⟩

/-- The store is not told of the entry. -/
theorem not_storeEvent_pending (alertId : String) (value : RedisValue) :
    ¬ StoreEvent alertId (.redisSet (pendingKey alertId) value) := by
  rintro ⟨key, hkey, value', heq⟩
  obtain ⟨rfl, -⟩ := Event.redisSet.inj heq
  have halert := AlertSlot.key_ne_of_stem .entry .alert (by decide) alertId alertId
  have hjob := AlertSlot.key_ne_of_stem .entry .job (by decide) alertId alertId
  have hraw := AlertSlot.key_ne_of_stem .entry .rawPayload (by decide) alertId
    alertId
  simp only [List.mem_cons, List.not_mem_nil, or_false] at hkey
  rcases hkey with hkey | hkey | hkey
  · exact halert hkey
  · exact hjob hkey
  · exact hraw hkey

theorem writtenAhead_iff (body : String) {fields : Params}
    (hfields : deps.alertCodec.modelDump alert = .ok fields)
    (hfirst : w.log = first ++ w₀.log)
    (hstore : ∀ event ∈ first, StoreEvent alert.alertId event) :
    WrittenAhead deps alert w₀ (w.afterEnqueue r e alert fields body) ↔
      r.hasClient = true ∧ e.writeAhead.applied = true ∧
        ¬ (e.publish.confirms w.conn = true ∧ e.markPublished.applied = true) := by
  obtain ⟨removed, hremoved, hnew⟩ :=
    new_afterEnqueue r e alert fields body hfirst
  have hlookup := lookup_afterEnqueue r e alert fields body w
  constructor
  · rintro ⟨fields', -, h, hthere⟩
    have hwritten : (r.hasClient && e.writeAhead.applied) = true := by
      rcases (hnew _).mp h with h | ⟨-, h⟩ | ⟨hwritten, -⟩ | h
      · obtain ⟨key, value, heq⟩ := hremoved _ h
        exact absurd heq (by simp)
      · exact absurd h (by simp)
      · exact hwritten
      · exact absurd (hstore _ h) (not_storeEvent_pending _ _)
    obtain ⟨hclient, happlied⟩ := Bool.and_eq_true_iff.mp hwritten
    refine ⟨hclient, happlied, fun ⟨hconfirms, hmark⟩ => ?_⟩
    have hgone := hlookup hwritten
    rw [hconfirms, hmark, if_pos (by decide)] at hgone
    exact Option.some_ne_none _ (hthere.symm.trans hgone)
  · rintro ⟨hclient, happlied, hstays⟩
    have hwritten : (r.hasClient && e.writeAhead.applied) = true :=
      Bool.and_eq_true_iff.mpr ⟨hclient, happlied⟩
    refine ⟨fields, hfields,
      (hnew _).mpr (.inr (.inr (.inl ⟨hwritten, rfl⟩))), ?_⟩
    refine (hlookup hwritten).trans (if_neg fun hboth => hstays ?_)
    exact Bool.and_eq_true_iff.mp hboth

end Offered

/-- **An intake that returns has dispatched its alert exactly when** the NATS
path, if it took the alert, keeps something of it. -/
theorem intake_dispatched_iff {e : IntakeEnv} {x : BuiltAlert}
    {a a' : ApiWorld} {tasks : List NormalizedAlert}
    (h : intake deps e x a = (.ok tasks, a')) :
    Dispatched deps x.alert.toNormalizedAlert tasks a.world a'.world ↔
      PathKeeps deps e x.alert.toNormalizedAlert a.world.conn := by
  obtain ⟨a₁, a₂, a₃, sent, hput, hset, haudit, hoffer, htasks⟩ := intake_eq_ok h
  have hconn := conn_before_offer hput hset haudit
  obtain ⟨first, hfirst, hstore⟩ := log_before_offer hput hset haudit
  unfold PathKeeps
  cases hpath : natsPath deps x.alert.toNormalizedAlert with
  | none =>
      rw [offerToNats_of_none hpath] at hoffer
      obtain rfl := Except.ok.inj (Prod.mk.inj hoffer).1
      constructor
      · intro _ r fields body hsome
        exact absurd hsome.symm (Option.some_ne_none _)
      · intro _
        rw [htasks]
        exact .inl (by simp)
  | some path =>
      obtain ⟨r, fields, body⟩ := path
      obtain ⟨-, -, hfields, hbody⟩ := natsPath_eq_some.mp hpath
      rcases offerToNats_of_some hpath e.enqueue a₃ with ⟨-, ho⟩ | ⟨-, a₄, hk⟩
      -- an intake that returns did not die in the offer
      swap
      · rw [hk] at hoffer
        exact absurd (congrArg Prod.fst hoffer) (by simp)
      rw [ho] at hoffer
      obtain ⟨hsent, rfl⟩ := Prod.mk.inj hoffer
      obtain rfl := Except.ok.inj hsent
      have hpublished := published_iff r e.enqueue fields hbody hfirst hstore
      have hwritten := writtenAhead_iff r e.enqueue body hfields hfirst hstore
      rw [hconn] at hpublished hwritten
      constructor
      · rintro (hmem | h | h) r' fields' body' hsome
        · rw [htasks] at hmem
          exact absurd hmem (by simp)
        · obtain ⟨rfl, -⟩ := Prod.mk.inj (Option.some.inj hsome)
          exact .inr (hpublished.mp h)
        · obtain ⟨rfl, -⟩ := Prod.mk.inj (Option.some.inj hsome)
          exact .inl (hwritten.mp h)
      · intro hkeeps
        rcases hkeeps r fields body rfl with h | h
        · exact .inr (.inr (hwritten.mpr h))
        · exact .inr (.inl (hpublished.mpr h))

end Handling

/-! ## §10  When the items stand alone -/

section StandAlone

variable {deps : IngestDeps} {e : ℕ → IntakeEnv}

/-- A row that an alert is built from is taken and reported as it should be
exactly when the alert is taken in. -/
theorem reported_row_iff {i : ℕ} {row : BatchItem} {x : BuiltAlert}
    (hrow : rowAlert deps (e i) row = .ok x) (a : ApiWorld) :
    (∃ result tasks a', takeRows deps e i [row] a = (.ok ([result], tasks), a') ∧
        (result.ok = true ↔ StoredAndDispatched deps (e i) row tasks a a')) ↔
      TakenIn deps (e i) x.alert.toNormalizedAlert a.world.conn := by
  constructor
  · rintro ⟨result, tasks, a', htake, hok⟩
    rcases takeRows_one_eq_ok htake with ⟨text, herr, -⟩ | ⟨y, hy, hres, hin⟩
    · rw [hrow] at herr
      exact absurd herr (by simp)
    obtain rfl : x = y := Except.ok.inj (hrow.symm.trans hy)
    obtain rfl := (List.cons.inj hres).1
    obtain ⟨z, hz, -, hdispatched⟩ := hok.mp rfl
    obtain rfl : x = z := Except.ok.inj (hrow.symm.trans hz)
    obtain ⟨hstore, houtlives⟩ :=
      (intake_returns deps (e i) x a).mp ⟨tasks, a', hin⟩
    exact ⟨hstore, houtlives, (intake_dispatched_iff hin).mp hdispatched⟩
  · rintro ⟨hstore, houtlives, hpath⟩
    obtain ⟨tasks, a', hin⟩ :=
      (intake_returns deps (e i) x a).mpr ⟨hstore, houtlives⟩
    refine ⟨_, tasks, a', takeRows_ok hrow hin, fun _ => ?_, fun _ => rfl⟩
    exact ⟨x, hrow, intake_inStore hin, (intake_dispatched_iff hin).mpr hpath⟩

/-- A row that no alert is built from is refused, and nothing is done. -/
theorem reported_row_error {i : ℕ} {row : BatchItem} {text : String}
    (hrow : rowAlert deps (e i) row = .error text) (tasks : List NormalizedAlert)
    (a a' : ApiWorld) : (BatchResult.refused text).ok = true ↔
      StoredAndDispatched deps (e i) row tasks a a' := by
  constructor
  · exact fun h => absurd h Bool.false_ne_true
  · rintro ⟨x, hx, -⟩
    exact absurd (hrow.symm.trans hx) (by simp)

theorem takeRows_one_conn {i : ℕ} {row : BatchItem} {x : BuiltAlert}
    (hrow : rowAlert deps (e i) row = .ok x) {a a' : ApiWorld}
    {results : List BatchResult} {tasks : List NormalizedAlert}
    (h : takeRows deps e i [row] a = (.ok (results, tasks), a')) :
    a'.world.conn =
      connAfterIntake deps (e i) x.alert.toNormalizedAlert a.world.conn := by
  rcases takeRows_one_eq_ok h with ⟨text, herr, -⟩ | ⟨y, hy, -, hin⟩
  · exact absurd (hrow.symm.trans herr) (by simp)
  · obtain rfl : x = y := Except.ok.inj (hrow.symm.trans hy)
    exact intake_conn hin

/-- The rows from the `i`-th on. -/
theorem reported_iff (rows : List BatchItem) : ∀ (i : ℕ) (a : ApiWorld),
    (∃ results, Reported deps e i rows a results) ↔
      AllTakenIn deps e i rows a.world.conn := by
  induction rows with
  | nil => exact fun i a => ⟨fun _ => trivial, fun _ => ⟨[], rfl⟩⟩
  | cons row rows ih =>
      intro i a
      unfold Reported AllTakenIn
      cases hrow : rowAlert deps (e i) row with
      | error text =>
          refine Iff.trans ?_ (ih (i + 1) a)
          constructor
          · rintro ⟨results, result, rest, tasks, a', -, htake, -, hrest⟩
            rw [takeRows_error hrow] at htake
            obtain ⟨-, rfl⟩ := Prod.mk.inj htake
            exact ⟨rest, hrest⟩
          · rintro ⟨rest, hrest⟩
            exact ⟨_, _, rest, [], a, rfl, takeRows_error hrow a,
              reported_row_error hrow [] a a, hrest⟩
      | ok x =>
          constructor
          · rintro ⟨results, result, rest, tasks, a', -, htake, hok, hrest⟩
            refine ⟨(reported_row_iff hrow a).mp ⟨result, tasks, a', htake, hok⟩, ?_⟩
            rw [← takeRows_one_conn hrow htake]
            exact (ih (i + 1) a').mp ⟨rest, hrest⟩
          · rintro ⟨htaken, hrest⟩
            obtain ⟨result, tasks, a', htake, hok⟩ :=
              (reported_row_iff hrow a).mpr htaken
            rw [← takeRows_one_conn hrow htake] at hrest
            obtain ⟨rest, hrest⟩ := (ih (i + 1) a').mpr hrest
            exact ⟨_, result, rest, tasks, a', rfl, htake, hok, hrest⟩

/-- Rows that are reported on have been taken. -/
theorem takeRows_of_reported (rows : List BatchItem) :
    ∀ (i : ℕ) (a : ApiWorld) (results : List BatchResult),
      Reported deps e i rows a results →
        ∃ tasks a', takeRows deps e i rows a = (.ok (results, tasks), a') := by
  induction rows with
  | nil =>
      rintro i a results rfl
      exact ⟨[], a, rfl⟩
  | cons row rows ih =>
      rintro i a results ⟨result, rest, own, a₁, rfl, htake, -, hrest⟩
      obtain ⟨later, a', hlater⟩ := ih (i + 1) a₁ rest hrest
      exact ⟨own ++ later, a', takeRows_cons_ok htake hlater⟩

theorem ingestRows_ok {rows : List BatchItem} {a a' : ApiWorld}
    {results : List BatchResult} {tasks : List NormalizedAlert}
    (h : takeRows deps e 0 rows a = (.ok (results, tasks), a')) :
    ingestRows deps e rows a =
      (.ok results, { a' with background := a'.background ++ tasks }) := by
  unfold ingestRows
  rw [Run.bind_ok h]
  rfl

theorem without_before {i j : ℕ} {row : BatchItem} (h : j < i) :
    without deps e i row j = e j :=
  if_pos h

theorem without_from (i : ℕ) (row : BatchItem) (j : ℕ) :
    without deps e i row (i + j) =
      (e (i + 1 + j)).nearer (Connects deps (e i) row) := by
  have hle : ¬ i + j < i := by omega
  have hindex : i + j + 1 = i + 1 + j := by omega
  unfold without IntakeEnv.nearer
  rw [if_neg hle, hindex]

/-- **The items of a batch stand alone exactly when** every item that an alert
is built from is taken in: the store takes the alert and its job, the process
outlives what is guarded, and a NATS path that takes the alert keeps something
of it. -/
theorem standAlone_iff (deps : IngestDeps) (e : ℕ → IntakeEnv)
    (rows : List BatchItem) (a : ApiWorld) :
    StandAlone deps e rows a ↔ AllTakenIn deps e 0 rows a.world.conn := by
  rw [← reported_iff rows 0 a]
  constructor
  · rintro ⟨results, a', -, hreported, -⟩
    exact ⟨results, hreported⟩
  · rintro ⟨results, hreported⟩
    obtain ⟨tasks, a', htake⟩ := takeRows_of_reported rows 0 a results hreported
    refine ⟨results, _, ingestRows_ok htake, hreported, fun i row hrow => ?_⟩
    obtain ⟨tasks', b, hb, hside, htasks⟩ := takeRows_eraseIdx deps e
      (without deps e i row) i rows 0 a a' results tasks hrow htake
      (fun j hj => without_before (by omega))
      (fun j => by
        rw [Nat.zero_add]
        exact without_from i row j)
    rw [Nat.zero_add] at hside htasks
    refine ⟨_, ingestRows_ok hb, ?_⟩
    refine ⟨hside.world.redis, hside.world.messages, hside.memAlerts,
      hside.memJobs, ?_⟩
    show tasksBeside _ (a'.background ++ tasks) =
      tasksBeside _ (b.background ++ tasks')
    rw [tasksBeside_append, tasksBeside_append, hside.background, htasks]

end StandAlone

/-! ## §11  A store that fails for the second item -/

def redisIngest : IngestDeps :=
  { plainIngest with persistence := ⟨true⟩ }

def twoItems : List BatchItem := [⟨"generic", []⟩, ⟨"generic", []⟩]

/-- Redis refuses the second alert. -/
def secondRefused : ℕ → IntakeEnv
  | 1 => { smoothIntake with
      uuid := "22222222-2222-4222-8222-222222222222"
      putAlert := .raised false }
  | _ => smoothIntake

/-- The items do not stand alone: nothing is answered, for the first neither. -/
theorem secondRefused_aborts :
    ¬ StandAlone redisIngest secondRefused twoItems ApiWorld.fresh := by
  rintro ⟨results, a', -, hreported, -⟩
  have hall := (reported_iff twoItems 0 _).mp ⟨results, hreported⟩
  obtain ⟨x, hx⟩ : ∃ x, rowAlert redisIngest (secondRefused 0)
      ⟨"generic", []⟩ = .ok x := ⟨_, rfl⟩
  obtain ⟨y, hy⟩ : ∃ y, rowAlert redisIngest (secondRefused 1)
      ⟨"generic", []⟩ = .ok y := ⟨_, rfl⟩
  simp only [twoItems, AllTakenIn, hx, hy] at hall
  exact absurd (hall.2.1.store rfl).2.1 (by decide)

end AlertTriage
