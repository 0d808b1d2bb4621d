import AlertTriage.Api.Requests
import AlertTriage.Ingest.AutoIngest
import AlertTriage.Runtime.RuntimeGlue

/-!
# The ingest endpoints of `app/main.py`

`POST /ingest/{source}`, `/ingest/auto` and `/ingest/batch`, with the guard of
`security/input_guard.py` that they put in front of the normaliser. Each builds
its alerts from the body, stores them with a job record, keeps the payload for
audit and hands the alert on: to NATS, or to a task that runs when the answer
is out. `ingest_only_built` says that nothing but the alerts so built reaches
the stores, the stream or the tasks.
-/

namespace AlertTriage

open Library

/-! ## §1  The input guard -/

/-- The patterns of the guard: `_SCRIPT_RE.sub("", s)`, and whether
`_INJECTION_RE` finds anything. -/
structure GuardPatterns where
  removeScripts : String → String
  hasInjection : String → Bool

/-- `sanitise_string`. -/
def sanitiseString (guard : GuardPatterns) (value : String) : String :=
  let text := guard.removeScripts value
  if guard.hasInjection text then "[REDACTED]" else text

/-- `sanitise_payload`, with so many levels to go: what lies deeper stays, and
so does an array within an array. -/
def sanitiseFields (guard : GuardPatterns) : ℕ → Params → Params
  | 0, fields => fields
  | n + 1, fields =>
      fields.map fun field =>
        (field.1,
          match field.2 with
          | .str s => .str (sanitiseString guard s)
          | .obj inner => .obj (sanitiseFields guard n inner)
          | .arr items =>
              .arr (items.map fun
                | .obj inner => .obj (sanitiseFields guard n inner)
                | .str s => .str (sanitiseString guard s)
                | item => item)
          | value => value)

/-- `sanitise_payload`: the levels 0 to 5. -/
def sanitisePayload (guard : GuardPatterns) (payload : Params) : Params :=
  sanitiseFields guard 6 payload

def maxPayloadBytes : ℕ := 1000000

def Body.size : Body → ℕ
  | .utf8 text => text.utf8ByteSize
  | .undecodable bytes => bytes.length

/-- `check_payload_size`. -/
def checkPayloadSize (body : Body) : Except ApiExn Unit :=
  if maxPayloadBytes < body.size then
    .error (.http 413 ("Payload exceeds " ++ toString maxPayloadBytes ++ " bytes"))
  else .ok ()

/-! ## §2  What a body is made into -/

/-- What ingest uses besides: whether a model may be asked, the runtime, and
the lifetime of audit records if there is a store for them. -/
structure IngestDeps extends ApiDeps where
  py : PyBuiltins
  guard : GuardPatterns
  coerceLlm : Bool
  runtime : Option RuntimeState
  audit : Option ℕ

/-- What an alert is given from outside: a new id, a model's summary if one is
asked, and how the outside calls of its intake end. -/
structure IntakeEnv where
  uuid : String
  flat : Option AutoIngestFlatView
  putAlert : Outcome
  setJob : Outcome
  audit : Outcome
  enqueue : EnqueueEnv
deriving DecidableEq, Repr

/-- An alert that was built, the source it is reported under, and the payload
that is kept for audit. -/
structure BuiltAlert where
  alert : ParsedAlert
  source : AlertSource
  payload : Params

/-- `AlertSource(source.lower())`. -/
def parseSource (source : String) : Option AlertSource :=
  AlertSource.ofValue? (lowered source)

/-- `await request.json()`. -/
def requestJson : Body → Except ApiExn Json
  | .utf8 text =>
      match Json.loads text with
      | some j => .ok j
      | none => .error (.python (.other "Expecting value"))
  | .undecodable _ => .error (.python (.other "codec can't decode byte"))

/-- The sanitised payload of a request: nothing but an object has `.items()`. -/
def requestPayload (guard : GuardPatterns) (body : Body) :
    Except ApiExn Params := do
  match ← requestJson body with
  | .obj fields => return sanitisePayload guard fields
  | _ => throw (.python attributeError)

/-- `POST /ingest/{source}`, up to the alert. -/
def singleAlert (deps : IngestDeps) (e : IntakeEnv) (source : String)
    (body : Body) : Except ApiExn BuiltAlert := do
  checkPayloadSize body
  match parseSource source with
  | none =>
      throw (.http 400 ("Unknown source '" ++ source ++ "'. Valid: " ++
        "['splunk', 'crowdstrike', 'aws_guardduty', 'sentinel', 'generic']"))
  | some known =>
      let payload ← requestPayload deps.guard body
      match normalizeAlert deps.py e.uuid known payload with
      | .ok alert => return ⟨alert, known, payload⟩
      | .error x => throw (.http 422 ("Failed to normalise alert: " ++ x.text))

/-- `POST /ingest/auto`, up to the alert. -/
def autoAlert (deps : IngestDeps) (e : IntakeEnv) (body : Body) :
    Except ApiExn BuiltAlert := do
  checkPayloadSize body
  let payload ← requestPayload deps.guard body
  let flat := if deps.coerceLlm then e.flat else none
  match resolveAlertForAutoIngest deps.py e.uuid flat payload with
  | .ok alert => return ⟨alert, alert.source, payload⟩
  | .error x => throw (.http 422 ("Normalisation failed: " ++ x.text))

/-- `BatchIngestItem`. -/
structure BatchItem where
  source : String
  payload : Params

def batchItem : Json → Option BatchItem
  | .obj fields =>
      match Json.lookup "source" fields, Json.lookup "payload" fields with
      | some (.str source), some (.obj payload) => some ⟨source, payload⟩
      | _, _ => none
  | _ => none

/-- `BatchIngestBody`: at most 500 items, none by default. -/
def batchBody : Json → Option (List BatchItem)
  | .obj fields =>
      match Json.lookup "items" fields with
      | none => some []
      | some (.arr items) =>
          if items.length ≤ 500 then items.mapM batchItem else none
      | some _ => none
  | _ => none

/-- The items of a request, which the framework validates. -/
def batchItems : Body → Except ApiExn (List BatchItem)
  | .utf8 text =>
      match (Json.loads text).bind batchBody with
      | some items => .ok items
      | none => .error (.http 422 "validation error for BatchIngestBody")
  | .undecodable _ => .error (.http 400 "There was an error parsing the body")

/-- A row of `POST /ingest/batch`, up to the alert. -/
def rowAlert (deps : IngestDeps) (e : IntakeEnv) (row : BatchItem) :
    Except String BuiltAlert :=
  match parseSource row.source with
  | none => .error ("Unknown source '" ++ row.source ++ "'")
  | some known =>
      let payload := sanitisePayload deps.guard row.payload
      match normalizeAlert deps.py e.uuid known payload with
      | .ok alert => .ok ⟨alert, known, payload⟩
      | .error x => .error x.text

/-! ## §3  Intake -/

def rawKey (alertId : String) : String := "raw_payload:" ++ alertId

/-- `record_raw_payload`: best effort. -/
def recordRawPayload (audit : Option ℕ) (o : Outcome) (alertId : String)
    (payload : Params) : Io Unit :=
  match audit with
  | none => return ()
  | some ttl =>
      Run.tryExcept
        (redisSetEx o (rawKey alertId) ttl (.text (jsonDumps payload)))
        (fun _ => return ())

/-- The NATS path, where it is on: did it take the alert? -/
def offerToNats (deps : IngestDeps) (e : EnqueueEnv) (alert : NormalizedAlert) :
    ApiIo Bool :=
  if deps.settings.ingestViaNats then
    Run.tryExcept (onWorld (enqueueViaNats deps.alertCodec deps.runtime e alert))
      (fun _ => return false)
  else return false

/-- `_dispatch_triage`: the tasks that it adds. -/
def dispatchTriage (deps : IngestDeps) (e : EnqueueEnv)
    (alert : NormalizedAlert) : ApiIo (List NormalizedAlert) := do
  let sent ← offerToNats deps e alert
  return if sent then [] else [alert]

/-- What every endpoint does with an alert that it has built. -/
def intake (deps : IngestDeps) (e : IntakeEnv) (x : BuiltAlert) :
    ApiIo (List NormalizedAlert) := do
  let alert := x.alert.toNormalizedAlert
  putAlert deps.persistence deps.alertCodec e.putAlert alert
  setJob deps.persistence e.setJob alert.alertId .queued none
  onWorld (recordRawPayload deps.audit e.audit alert.alertId x.payload)
  dispatchTriage deps e.enqueue alert

/-! ## §4  The endpoints -/

inductive BatchResult where
  | accepted (alertId : String) (source : AlertSource)
  | refused (error : String)
deriving DecidableEq, Repr

inductive IngestReply where
  | queued (alertId : String)
  | detected (alertId : String) (source : AlertSource)
  | batch (results : List BatchResult)
deriving DecidableEq, Repr

/-- `accepted` and `total` of a batch. -/
def BatchResult.counts (results : List BatchResult) : ℕ × ℕ :=
  (results.countP fun
    | .accepted _ _ => true
    | .refused _ => false,
    results.length)

/-- The rows of a batch from the `i`-th on: their results and the tasks. -/
def takeRows (deps : IngestDeps) (e : ℕ → IntakeEnv) :
    ℕ → List BatchItem → ApiIo (List BatchResult × List NormalizedAlert)
  | _, [] => return ([], [])
  | i, row :: rows =>
      match rowAlert deps (e i) row with
      | .error text => do
          let rest ← takeRows deps e (i + 1) rows
          return (.refused text :: rest.1, rest.2)
      | .ok x => do
          let tasks ← intake deps (e i) x
          let rest ← takeRows deps e (i + 1) rows
          return (.accepted x.alert.alertId x.source :: rest.1, tasks ++ rest.2)

/-- The answer is out, and the tasks run. -/
def schedule (tasks : List NormalizedAlert) : ApiIo Unit :=
  Run.modify fun a => { a with background := a.background ++ tasks }

inductive IngestEndpoint where
  | single (source : String)
  | auto
  | batch
deriving DecidableEq, Repr

/-- `ingest_alert`, `ingest_alert_auto` and `ingest_batch`. -/
def ingest (deps : IngestDeps) (e : ℕ → IntakeEnv) (endpoint : IngestEndpoint)
    (r : HttpRequest) : ApiIo IngestReply :=
  match endpoint with
  | .single source => do
      validateApiKey deps.settings r
      let x ← Run.ofExcept (singleAlert deps (e 0) source r.body)
      let tasks ← intake deps (e 0) x
      schedule tasks
      return .queued x.alert.alertId
  | .auto => do
      validateApiKey deps.settings r
      let x ← Run.ofExcept (autoAlert deps (e 0) r.body)
      let tasks ← intake deps (e 0) x
      schedule tasks
      return .detected x.alert.alertId x.source
  | .batch => do
      -- the framework validates the body before the endpoint looks at the key
      let rows ← Run.ofExcept (batchItems r.body)
      validateApiKey deps.settings r
      let rest ← takeRows deps e 0 rows
      schedule rest.2
      return .batch rest.1

/-! ## §5  The alerts of a request -/

def builtRows (deps : IngestDeps) (e : ℕ → IntakeEnv) :
    ℕ → List BatchItem → List ParsedAlert
  | _, [] => []
  | i, row :: rows =>
      ((rowAlert deps (e i) row).toOption.toList.map BuiltAlert.alert) ++
        builtRows deps e (i + 1) rows

/-- The alerts that an endpoint builds from a body. -/
def builtAlerts (deps : IngestDeps) (e : ℕ → IntakeEnv) (body : Body) :
    IngestEndpoint → List ParsedAlert
  | .single source =>
      (singleAlert deps (e 0) source body).toOption.toList.map BuiltAlert.alert
  | .auto => (autoAlert deps (e 0) body).toOption.toList.map BuiltAlert.alert
  | .batch =>
      match batchItems body with
      | .ok rows => builtRows deps e 0 rows
      | .error _ => []

/-! ## §6  Nothing else gets out -/

/-- Every message that was stored since `w₀` is of one of these alerts. -/
def Streams (alerts : List NormalizedAlert) (w₀ w : World) : Prop :=
  ∀ id msg acked, Event.stored id msg acked ∈ w.log →
    Event.stored id msg acked ∈ w₀.log ∨
      ∃ alert ∈ alerts, ∃ body, msg = inlineMsg alert body

/-- What the process has put in its memory, on the stream or among its tasks
since `a₀` is one of these alerts. -/
structure OnlyOf (alerts : List NormalizedAlert) (a₀ a : ApiWorld) : Prop where
  memory : ∀ alertId alert, Json.lookup alertId a.memAlerts = some alert →
    Json.lookup alertId a₀.memAlerts = some alert ∨ alert ∈ alerts
  stream : Streams alerts a₀.world a.world
  tasks : ∀ alert ∈ a.background, alert ∈ a₀.background ∨ alert ∈ alerts

section Effects

variable {alerts : List NormalizedAlert} {w₀ w w' : World} {a₀ : ApiWorld}

theorem Streams.of_log (h : Streams alerts w₀ w)
    (hl : ∀ id msg acked, Event.stored id msg acked ∈ w'.log →
      Event.stored id msg acked ∈ w.log) : Streams alerts w₀ w' :=
  fun id msg acked hm => h id msg acked (hl id msg acked hm)

theorem Streams.redisSet {key : String} {value : RedisValue}
    (h : Streams alerts w₀ w) (hl : w'.log = .redisSet key value :: w.log) :
    Streams alerts w₀ w' := by
  refine h.of_log fun id msg acked hm => ?_
  rw [hl] at hm
  simpa using hm

theorem Streams.delete (h : Streams alerts w₀ w) (keys : List String) :
    Streams alerts w₀ (w.delete keys) := by
  refine h.of_log fun id msg acked hm => ?_
  rcases List.mem_append.mp hm with hm | hm
  · obtain ⟨k, -, v, -, hx⟩ := World.mem_deletions hm
    exact absurd hx (by simp)
  · exact hm

theorem Streams.afterPublish {alert : NormalizedAlert} (hmem : alert ∈ alerts)
    (h : Streams alerts w₀ w) (e : PublishEnv) (body : String) :
    Streams alerts w₀
      (w.afterPublish e (some alert.alertId) (inlineMsg alert body) true) := by
  unfold World.afterPublish
  dsimp only
  split
  · intro id msg acked hm
    rcases List.mem_cons.mp hm with heq | hm
    · obtain ⟨rfl, rfl, rfl⟩ := Event.stored.inj heq
      exact .inr ⟨alert, hmem, body, rfl⟩
    · exact h id msg acked hm
  · exact h

theorem streams_enqueue {alert : NormalizedAlert} (hmem : alert ∈ alerts)
    (codec : AlertCodec) (state : Option RuntimeState) (e : EnqueueEnv) :
    Run.Keeps (Streams alerts w₀) (enqueueViaNats codec state e alert) :=
  enqueue_keeps (fun _ _ _ h => h.redisSet rfl)
    (fun e body _ h => h.afterPublish hmem e body) (fun _ h => h.delete _)
    codec state e

/-- A service reaches the stream and nothing else of the process. -/
theorem OnlyOf.onWorld {α : Type} {x : Io α}
    (h : Run.Keeps (Streams alerts a₀.world) x) :
    Run.Keeps (OnlyOf alerts a₀) (onWorld x) :=
  Run.Keeps.focus h (fun _ ha => ha.stream) fun _ _ ha hw =>
    ⟨ha.memory, hw, ha.tasks⟩

theorem streams_redisSet (o : Outcome) (key : String) (value : RedisValue) :
    Run.Keeps (Streams alerts w₀) (redisSet o key value) :=
  Run.Keeps.call fun _ h => h.redisSet rfl

theorem onlyOf_putAlert {alert : NormalizedAlert} (hmem : alert ∈ alerts)
    (p : AlertPersistence) (codec : AlertCodec) (o : Outcome) :
    Run.Keeps (OnlyOf alerts a₀) (putAlert p codec o alert) := by
  unfold putAlert
  split
  · exact OnlyOf.onWorld (Run.Keeps.bind (Run.Keeps.ofExcept _) fun text =>
      streams_redisSet o _ _)
  · refine Run.Keeps.modify fun a ha => ⟨fun alertId x hx => ?_, ha.stream, ha.tasks⟩
    by_cases hid : alertId = alert.alertId
    · subst hid
      rw [Json.lookup_upsert] at hx
      obtain rfl := Option.some.inj hx
      exact .inr hmem
    · rw [Json.lookup_upsert_ne hid] at hx
      exact ha.memory alertId x hx

theorem onlyOf_setJob (p : AlertPersistence) (o : Outcome) (alertId : String)
    (status : JobStatus) (error : Option String) :
    Run.Keeps (OnlyOf alerts a₀) (setJob p o alertId status error) := by
  unfold setJob
  split
  · exact OnlyOf.onWorld (streams_redisSet o _ _)
  · exact Run.Keeps.modify fun a ha => ⟨ha.memory, ha.stream, ha.tasks⟩

theorem onlyOf_recordRawPayload (audit : Option ℕ) (o : Outcome)
    (alertId : String) (payload : Params) :
    Run.Keeps (OnlyOf alerts a₀)
      (onWorld (recordRawPayload audit o alertId payload)) := by
  apply OnlyOf.onWorld
  unfold recordRawPayload
  split
  · exact Run.Keeps.pure ()
  · exact Run.Keeps.tryExcept (Run.Keeps.call fun _ h => h.redisSet rfl)
      fun _ => Run.Keeps.pure ()

theorem onlyOf_dispatchTriage (deps : IngestDeps) (e : EnqueueEnv)
    {alert : NormalizedAlert} (hmem : alert ∈ alerts) :
    Run.Keeps (OnlyOf alerts a₀) (dispatchTriage deps e alert) := by
  unfold dispatchTriage offerToNats
  refine Run.Keeps.bind ?_ fun sent => Run.Keeps.pure _
  split
  · exact Run.Keeps.tryExcept (OnlyOf.onWorld (streams_enqueue hmem _ _ e))
      fun _ => Run.Keeps.pure false
  · exact Run.Keeps.pure false

theorem onlyOf_intake (deps : IngestDeps) (e : IntakeEnv) {x : BuiltAlert}
    (hmem : x.alert.toNormalizedAlert ∈ alerts) :
    Run.Keeps (OnlyOf alerts a₀) (intake deps e x) := by
  unfold intake
  refine Run.Keeps.bind (onlyOf_putAlert hmem _ _ _) fun _ => ?_
  refine Run.Keeps.bind (onlyOf_setJob _ _ _ _ _) fun _ => ?_
  refine Run.Keeps.bind (onlyOf_recordRawPayload _ _ _ _) fun _ => ?_
  exact onlyOf_dispatchTriage deps e.enqueue hmem

/-- The tasks that an intake adds are of its alert. -/
theorem intake_tasks (deps : IngestDeps) (e : IntakeEnv) (x : BuiltAlert) :
    Run.Returns (fun tasks => ∀ t ∈ tasks, t = x.alert.toNormalizedAlert)
      (intake deps e x) := by
  have hany {α : Type} (y : ApiIo α) : Run.Returns (fun _ => True) y :=
    fun _ _ _ _ => trivial
  unfold intake dispatchTriage
  refine (hany _).bind fun _ _ => (hany _).bind fun _ _ => ?_
  refine (hany _).bind fun _ _ => (hany _).bind fun sent _ => ?_
  apply Run.Returns.pure
  cases sent <;> simp

theorem onlyOf_takeRows (deps : IngestDeps) (e : ℕ → IntakeEnv)
    (rows : List BatchItem) :
    ∀ i, (∀ x ∈ builtRows deps e i rows, x.toNormalizedAlert ∈ alerts) →
      Run.Keeps (OnlyOf alerts a₀) (takeRows deps e i rows) ∧
        Run.Returns (fun rest => ∀ t ∈ rest.2, t ∈ alerts)
          (takeRows deps e i rows) := by
  induction rows with
  | nil => exact fun i _ => ⟨Run.Keeps.pure _, Run.Returns.pure (by simp)⟩
  | cons row rows ih =>
      intro i hbuilt
      unfold takeRows
      unfold builtRows at hbuilt
      obtain ⟨hkeeps, hreturns⟩ := ih (i + 1) fun x hx =>
        hbuilt x (List.mem_append_right _ hx)
      cases hrow : rowAlert deps (e i) row with
      | error text =>
          exact ⟨Run.Keeps.bind hkeeps fun _ => Run.Keeps.pure _,
            hreturns.bind fun rest hrest => Run.Returns.pure hrest⟩
      | ok x =>
          have hmem : x.alert.toNormalizedAlert ∈ alerts :=
            hbuilt x.alert (by simp [hrow, Except.toOption])
          refine ⟨Run.Keeps.bind (onlyOf_intake deps (e i) hmem) fun tasks =>
            Run.Keeps.bind hkeeps fun _ => Run.Keeps.pure _, ?_⟩
          refine (intake_tasks deps (e i) x).bind fun tasks htasks => ?_
          refine hreturns.bind fun rest hrest => Run.Returns.pure fun t ht => ?_
          rcases List.mem_append.mp ht with ht | ht
          · rw [htasks t ht]
            exact hmem
          · exact hrest t ht

theorem onlyOf_validateApiKey (settings : ApiSettings) (r : HttpRequest) :
    Run.Keeps (OnlyOf alerts a₀) (validateApiKey settings r) := by
  unfold validateApiKey
  split
  · exact Run.Keeps.throw _
  · exact Run.Keeps.pure ()

theorem onlyOf_schedule {tasks : List NormalizedAlert}
    (h : ∀ t ∈ tasks, t ∈ alerts) :
    Run.Keeps (OnlyOf alerts a₀) (schedule tasks) := by
  refine Run.Keeps.modify fun a ha => ⟨ha.memory, ha.stream, fun t ht => ?_⟩
  rcases List.mem_append.mp ht with ht | ht
  · exact ha.tasks t ht
  · exact .inr (h t ht)

/-- An endpoint that takes in one alert, if one is built. -/
theorem onlyOf_one (deps : IngestDeps) (e : IntakeEnv) (r : HttpRequest)
    {built : Except ApiExn BuiltAlert} (reply : BuiltAlert → IngestReply)
    (h : ∀ x, built = .ok x → x.alert.toNormalizedAlert ∈ alerts) :
    Run.Keeps (OnlyOf alerts a₀) (do
      validateApiKey deps.settings r
      let x ← Run.ofExcept built
      let tasks ← intake deps e x
      schedule tasks
      return reply x) := by
  refine Run.Keeps.bind (onlyOf_validateApiKey _ _) fun _ => ?_
  refine Run.Keeps.bind_returns (Run.Keeps.ofExcept _) (Run.Returns.ofExcept _) fun x hx => ?_
  refine Run.Keeps.bind_returns (onlyOf_intake deps e (h x hx)) (intake_tasks deps e x)
    fun tasks htasks => ?_
  refine Run.Keeps.bind (onlyOf_schedule fun t ht => ?_) fun _ => Run.Keeps.pure _
  rw [htasks t ht]
  exact h x hx

/-- **Only the alerts that a request builds** are put in memory, on the stream
or among the tasks, whatever fails on the way. -/
theorem ingest_only_built (deps : IngestDeps) (e : ℕ → IntakeEnv)
    (endpoint : IngestEndpoint) (r : HttpRequest) :
    Run.Keeps (OnlyOf ((builtAlerts deps e r.body endpoint).map
      ParsedAlert.toNormalizedAlert) a₀) (ingest deps e endpoint r) := by
  have hone {x : BuiltAlert} {built : Except ApiExn BuiltAlert}
      (h : built = .ok x) : x.alert.toNormalizedAlert ∈
        (built.toOption.toList.map BuiltAlert.alert).map
          ParsedAlert.toNormalizedAlert := by
    simp [h, Except.toOption]
  cases endpoint with
  | single source => exact onlyOf_one deps (e 0) r _ fun x hx => hone hx
  | auto => exact onlyOf_one deps (e 0) r _ fun x hx => hone hx
  | batch =>
      unfold ingest builtAlerts
      refine Run.Keeps.bind_returns (Run.Keeps.ofExcept _)
        (Run.Returns.ofExcept _) fun rows hrows => ?_
      refine Run.Keeps.bind (onlyOf_validateApiKey _ _) fun _ => ?_
      simp only [hrows]
      obtain ⟨hkeeps, hreturns⟩ := @onlyOf_takeRows _ a₀ deps e rows 0
        fun x hx => List.mem_map_of_mem hx
      refine Run.Keeps.bind_returns hkeeps hreturns fun rest hrest => ?_
      exact Run.Keeps.bind (onlyOf_schedule hrest) fun _ => Run.Keeps.pure _

end Effects

/-! ## §7  An ingest for examples -/

/-- The stores are in memory, NATS is on, there is no audit store. -/
def plainIngest : IngestDeps where
  toApiDeps := { plainApi with
    settings := ⟨"analyse_alert", true, "2026-06-08", true⟩ }
  py := plainBuiltins
  guard := ⟨fun s => s, fun _ => false⟩
  coerceLlm := false
  runtime := some ⟨true, some (startupReconciler "api-1")⟩
  audit := none

/-- Every call answers. -/
def smoothIntake : IntakeEnv where
  uuid := "11111111-1111-4111-8111-111111111111"
  flat := none
  putAlert := .returned
  setJob := .returned
  audit := .returned
  enqueue := ⟨.returned, ⟨.returned, .returned⟩, .returned⟩

end AlertTriage
