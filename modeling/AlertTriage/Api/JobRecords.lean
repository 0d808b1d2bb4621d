import AlertTriage.Api.AlertFootprint
import AlertTriage.Api.StatusViews
import Mathlib.Logic.Function.Basic

/-!
# Jobs and verdicts under requests and tasks

What requests and tasks do to the two records of an alert, whatever the store and however
their calls end, is what they do to two maps (`perform_storesHold`). A run of the process in
which nothing is left behind without a complete job while it has a verdict leaves, of every
alert that is not under way, views that agree (`status_views_agree`).
-/

namespace AlertTriage

open Library

/-! ## §1  The records of all alerts -/

/-- The jobs and the verdicts, by alert id. -/
@[ext]
structure Records where
  job : String → Option JobSays
  verdict : String → Option TriageVerdict

def Records.empty : Records := ⟨fun _ => none, fun _ => none⟩

def Records.setJob (alertId : String) (status : JobStatus) (error : Option String)
    (records : Records) : Records :=
  { records with job := Function.update records.job alertId (some (status, error)) }

def Records.putVerdict (alertId : String) (verdict : TriageVerdict) (records : Records) :
    Records :=
  { records with verdict := Function.update records.verdict alertId (some verdict) }

/-- These are the records in the stores. -/
def StoresHold (deps : ApiDeps) (records : Records) (a : ApiWorld) : Prop :=
  ∀ alertId, Shows deps a alertId (records.job alertId) (records.verdict alertId)

variable {deps : ApiDeps} {records : Records} {a : ApiWorld}

theorem verdictKey_ne_jobKey (alertId alertId' : String) : verdictKey alertId ≠ jobKey alertId' :=
  AlertSlot.key_ne_of_stem .verdict .job (by decide) _ _

theorem jobKey_inj {alertId alertId' : String} (h : jobKey alertId = jobKey alertId') :
    alertId = alertId' := String.append_right_inj _ |>.mp h

theorem verdictKey_inj {alertId alertId' : String}
    (h : verdictKey alertId = verdictKey alertId') : alertId = alertId' :=
  String.append_right_inj _ |>.mp h

/-- What is read under a key that a write left alone. -/
theorem lookup_set_ne {key key' : String} (h : key' ≠ key) (value : RedisValue) (w : World) :
    (w.set key value).lookup key' = w.lookup key' :=
  TtlStore.get_set_ne h

/-- A write under a key that is none of the two leaves the records. -/
theorem StoresHold.of_lookup {a' : ApiWorld} (h : StoresHold deps records a)
    (hjob : ∀ alertId, a'.world.lookup (jobKey alertId) = a.world.lookup (jobKey alertId))
    (hverdict : ∀ alertId,
      a'.world.lookup (verdictKey alertId) = a.world.lookup (verdictKey alertId))
    (hjobs : a'.memJobs = a.memJobs) (hverdicts : a'.world.memVerdicts = a.world.memVerdicts) :
    StoresHold deps records a' := by
  intro alertId
  constructor
  · rw [← (h alertId).job, jobOf, jobOf, hjob, hjobs]
  · rw [← (h alertId).verdict, World.verdictOf, World.verdictOf, hverdict, hverdicts]

/-- A service that leaves the records in the world leaves them in the process. -/
theorem StoresHold.keeps_onWorld {α : Type} {x : Io α}
    (hx : ∀ a : ApiWorld, Run.Keeps (fun w => StoresHold deps records { a with world := w }) x) :
    Run.Keeps (StoresHold deps records) (onWorld x) := by
  intro a h
  have hw := hx a a.world h
  unfold onWorld Run.focus
  split
  · rename_i heq
    rwa [heq] at hw
  · rename_i heq
    rwa [heq] at hw
  · rename_i heq
    rwa [heq] at hw

theorem StoresHold.keeps_putAlert (o : Outcome) (alert : NormalizedAlert) :
    Run.Keeps (StoresHold deps records) (putAlert deps.persistence deps.alertCodec o alert) := by
  unfold putAlert
  split
  · refine StoresHold.keeps_onWorld fun a => ?_
    refine Run.Keeps.bind (Run.Keeps.ofExcept _) fun text => Run.Keeps.call fun w hw => ?_
    refine StoresHold.of_lookup hw ?_ ?_ rfl rfl
    · exact fun alertId => lookup_set_ne
        (AlertSlot.key_ne_of_stem .job .alert (by decide) _ _) _ _
    · exact fun alertId => lookup_set_ne
        (AlertSlot.key_ne_of_stem .verdict .alert (by decide) _ _) _ _
  · exact Run.Keeps.modify fun a h => h.of_lookup (fun _ => rfl) (fun _ => rfl) rfl rfl

theorem StoresHold.keeps_recordRawPayload (audit : Option ℕ) (o : Outcome) (alertId : String)
    (payload : Params) :
    Run.Keeps (StoresHold deps records) (onWorld (recordRawPayload audit o alertId payload)) := by
  refine StoresHold.keeps_onWorld fun a => ?_
  unfold recordRawPayload
  split
  · exact Run.Keeps.pure ()
  · refine Run.Keeps.tryExcept (Run.Keeps.call fun w hw => ?_) fun _ => Run.Keeps.pure ()
    refine StoresHold.of_lookup hw ?_ ?_ rfl rfl
    · exact fun alertId => World.lookup_setEx_ne
        (AlertSlot.key_ne_of_stem .job .rawPayload (by decide) _ _)
    · exact fun alertId => World.lookup_setEx_ne
        (AlertSlot.key_ne_of_stem .verdict .rawPayload (by decide) _ _)

/-! ## §2  Writing a record -/

/-- What the text of a job says. -/
theorem readStored_jobRecord (status : JobStatus) (error : Option String) :
    readStored loadsJob (some (.text (Json.dumps pythonStyle
      (.obj (jobRecord status error))))) = .ok (some (.obj (jobRecord status error))) := by
  apply readStored_dumps
  cases error <;> simp [jobRecord, optionalText, Json.Distinct, Json.DistinctFields]

/-- The job is on record in Redis. -/
theorem StoresHold.set_job (h : StoresHold deps records a) (hredis : deps.persistence.usesRedis = true)
    (alertId : String) (status : JobStatus) (error : Option String) :
    StoresHold deps (records.setJob alertId status error)
      { a with
        world := a.world.set (jobKey alertId)
          (.text (Json.dumps pythonStyle (.obj (jobRecord status error)))) } := by
  intro id
  constructor
  · by_cases hid : id = alertId
    · subst hid
      have hread := readStored_jobRecord status error
      simp only [jobOf, hredis, if_true, Records.setJob, Function.update_self, Option.map_some]
      rw [← hread]
      exact congrArg _ TtlStore.get_set
    · have hkey : jobKey id ≠ jobKey alertId := fun heq => hid (jobKey_inj heq)
      have hold := (h id).job
      simp only [jobOf, hredis, if_true] at hold ⊢
      rw [lookup_set_ne hkey, hold]
      simp [Records.setJob, hid]
  · have hold := (h id).verdict
    unfold World.verdictOf at hold ⊢
    rw [lookup_set_ne (verdictKey_ne_jobKey id alertId)]
    exact hold

/-- The job is on record in memory. -/
theorem StoresHold.upsert_job (h : StoresHold deps records a)
    (hmemory : deps.persistence.usesRedis = false) (alertId : String) (status : JobStatus)
    (error : Option String) :
    StoresHold deps (records.setJob alertId status error)
      { a with memJobs := Json.upsert alertId (jobRecord status error) a.memJobs } := by
  intro id
  constructor
  · have hold := (h id).job
    simp only [jobOf, hmemory, Bool.false_eq_true, if_false] at hold ⊢
    by_cases hid : id = alertId
    · subst hid
      simp [Json.lookup_upsert, Records.setJob]
    · rw [Json.lookup_upsert_ne hid, hold]
      simp [Records.setJob, hid]
  · exact (h id).verdict

/-- **`set_job`**: the job is on record where the call returned, and where it raised if it was
applied. -/
theorem StoresHold.setJob (h : StoresHold deps records a) (o : Outcome) (alertId : String)
    (status : JobStatus) (error : Option String) :
    (∃ a', setJob deps.persistence o alertId status error a = (.ok (), a') ∧
        StoresHold deps (records.setJob alertId status error) a') ∨
      ∃ u a', setJob deps.persistence o alertId status error a = (.error u, a') ∧
        StoresHold deps (if o.applied then records.setJob alertId status error else records) a' := by
  unfold AlertTriage.setJob
  cases hredis : deps.persistence.usesRedis with
  | false => exact .inl ⟨_, rfl, h.upsert_job hredis alertId status error⟩
  | true =>
      have hset := h.set_job hredis alertId status error
      cases o with
      | returned => exact .inl ⟨_, rfl, hset⟩
      | raised b =>
          cases b with
          | true => exact .inr ⟨_, _, rfl, hset⟩
          | false => exact .inr ⟨_, _, rfl, h⟩
      | killed b =>
          cases b with
          | true => exact .inr ⟨_, _, rfl, hset⟩
          | false => exact .inr ⟨_, _, rfl, h⟩

/-- The verdict is on record in Redis. -/
theorem StoresHold.set_verdict (h : StoresHold deps records a)
    (hredis : deps.persistence.usesRedis = true) (alertId : String) {verdict : TriageVerdict}
    {text : String} (hdump : deps.verdictCodec.modelDumpJson verdict = .ok text) :
    StoresHold deps (records.putVerdict alertId verdict)
      { a with world := a.world.set (verdictKey alertId) (.text text) } := by
  intro id
  constructor
  · have hold := (h id).job
    unfold jobOf at hold ⊢
    rw [lookup_set_ne (verdictKey_ne_jobKey alertId id).symm]
    exact hold
  · by_cases hid : id = alertId
    · subst hid
      obtain ⟨hne, hvalid⟩ := deps.verdictCodec.validate_dump verdict text hdump
      have hread : World.lookup (verdictKey id) (a.world.set (verdictKey id) (.text text)) =
          some (.text text) := TtlStore.get_set
      simp [World.verdictOf, hredis, hread, readVerdict, RedisValue.toText, hne, hvalid,
        Except.map, Records.putVerdict]
    · have hkey : verdictKey id ≠ verdictKey alertId := fun heq => hid (verdictKey_inj heq)
      have hold := (h id).verdict
      simp only [World.verdictOf, hredis, if_true] at hold ⊢
      rw [lookup_set_ne hkey, hold]
      simp [Records.putVerdict, hid]

/-- The verdict is on record in memory. -/
theorem StoresHold.upsert_verdict (h : StoresHold deps records a)
    (hmemory : deps.persistence.usesRedis = false) (alertId : String)
    (verdict : TriageVerdict) :
    StoresHold deps (records.putVerdict alertId verdict)
      { a with
        world := { a.world with
          memVerdicts := Json.upsert alertId verdict a.world.memVerdicts } } := by
  intro id
  refine ⟨(h id).job, ?_⟩
  have hold := (h id).verdict
  simp only [World.verdictOf, hmemory, Bool.false_eq_true, if_false] at hold ⊢
  by_cases hid : id = alertId
  · subst hid
    simp [Json.lookup_upsert, Records.putVerdict]
  · rw [Json.lookup_upsert_ne hid, hold]
    simp [Records.putVerdict, hid]

/-- **`put_verdict`**: the verdict is on record where the call returned, and may be where it
raised. -/
theorem StoresHold.putVerdict (h : StoresHold deps records a) (o : Outcome) (alertId : String)
    (verdict : TriageVerdict) :
    (∃ a', onWorld (putVerdict deps.persistence deps.verdictCodec o alertId verdict) a =
          (.ok (), a') ∧ StoresHold deps (records.putVerdict alertId verdict) a') ∨
      ∃ u a', onWorld (putVerdict deps.persistence deps.verdictCodec o alertId verdict) a =
          (.error u, a') ∧
        (StoresHold deps (records.putVerdict alertId verdict) a' ∨ StoresHold deps records a') := by
  unfold AlertTriage.putVerdict
  cases hredis : deps.persistence.usesRedis with
  | false => exact .inl ⟨_, rfl, h.upsert_verdict hredis alertId verdict⟩
  | true =>
      cases hdump : deps.verdictCodec.modelDumpJson verdict with
      | error x => exact .inr ⟨_, _, rfl, .inr h⟩
      | ok text =>
          have hset := h.set_verdict hredis alertId hdump
          cases o with
          | returned => exact .inl ⟨_, rfl, hset⟩
          | raised b =>
              cases b with
              | true => exact .inr ⟨_, _, rfl, .inl hset⟩
              | false => exact .inr ⟨_, _, rfl, .inr h⟩
          | killed b =>
              cases b with
              | true => exact .inr ⟨_, _, rfl, .inl hset⟩
              | false => exact .inr ⟨_, _, rfl, .inr h⟩

/-! ## §3  Steps over the records -/

/-- What the awaited call writes. -/
def Flow.writes : Flow → Records → Records
  | .intake .setQueued x _ _ => Records.setJob x.alert.alertId .queued none
  | .task .setRunning alert _ => Records.setJob alert.alertId .running none
  | .task (.putVerdict verdict) alert _ => Records.putVerdict alert.alertId verdict
  | .task .setComplete alert _ => Records.setJob alert.alertId .complete none
  | .task (.setFailed error) alert _ => Records.setJob alert.alertId .failed (some error)
  | _ => id

/-- The flow was caught by the handler of its task. -/
def Caught (next : Option Flow) : Prop :=
  ∃ error alert tasks, next = some (.task (.setFailed error) alert tasks)

/-- What its call raises, the task handles itself. -/
def Flow.guarded : Flow → Bool
  | .task stage _ _ => stage.isGuarded
  | _ => false

/-- How the records come out of a step: the call wrote what it writes, or it raised and the
handler took over, or it raised and the flow is given up. -/
inductive Outcomes (deps : TriageDeps) (e : StepEnv) (f : Flow) (records : Records)
    (a : ApiWorld) : Prop where
  | wrote (next : Option Flow) (a' : ApiWorld) (hperform : f.perform deps e a = (.ok next, a'))
      (hon : StoresHold deps.toApiDeps (f.writes records) a')
  | caught (next : Option Flow) (a' : ApiWorld) (hcaught : Caught next)
      (hperform : f.perform deps e a = (.ok next, a'))
      (hon : StoresHold deps.toApiDeps records a')
  | raised (u : Unwind ApiExn) (a' : ApiWorld)
      (hperform : f.perform deps e a = (.error u, a'))
      (hon : StoresHold deps.toApiDeps
        (if e.outcome.applied then f.writes records else records) a')
  | died (a' : ApiWorld) (hperform : f.perform deps e a = (.error .kill, a'))

/-- A call that writes no record. -/
theorem outcomes_of_keeps {deps : TriageDeps} {e : StepEnv} {f : Flow} {x : ApiIo Unit}
    {next : Option Flow} (hf : f.perform deps e = (do x; return next))
    (hwrites : f.writes records = records)
    (hx : Run.Keeps (StoresHold deps.toApiDeps records) x)
    (h : StoresHold deps.toApiDeps records a) : Outcomes deps e f records a := by
  have hkept := hx a h
  rcases hr : x a with ⟨r, a'⟩
  rw [hr] at hkept
  cases r with
  | ok _ =>
      refine .wrote next a' ?_ ?_
      · rw [hf]
        exact Run.bind_ok hr
      · rw [hwrites]
        exact hkept
  | error u =>
      refine .raised u a' ?_ ?_
      · rw [hf]
        exact Run.bind_error hr
      · rw [hwrites, ite_self]
        exact hkept

/-- A `set_job` outside of the `try`. -/
theorem outcomes_of_setJob {deps : TriageDeps} {e : StepEnv} {f : Flow} {alertId : String}
    {status : JobStatus} {error : Option String} {next : Option Flow}
    (hf : f.perform deps e = (do
      setJob deps.persistence e.outcome alertId status error
      return next))
    (hwrites : f.writes records = records.setJob alertId status error)
    (h : StoresHold deps.toApiDeps records a) : Outcomes deps e f records a := by
  rcases h.setJob e.outcome alertId status error with ⟨a', heq, hon⟩ | ⟨u, a', heq, hon⟩
  · refine .wrote next a' ?_ ?_
    · rw [hf]
      exact Run.bind_ok heq
    · rw [hwrites]
      exact hon
  · refine .raised u a' ?_ ?_
    · rw [hf]
      exact Run.bind_error heq
    · rw [hwrites]
      exact hon

/-- **What a step does to the records.** -/
theorem perform_storesHold {deps : TriageDeps} {e : StepEnv} {f : Flow}
    (h : StoresHold deps.toApiDeps records a) : Outcomes deps e f records a := by
  cases f with
  | intake stage x rows tasks =>
      cases stage with
      | putAlert => exact outcomes_of_keeps rfl rfl (StoresHold.keeps_putAlert _ _) h
      | setQueued => exact outcomes_of_setJob rfl rfl h
      | recordRaw =>
          exact outcomes_of_keeps rfl rfl (StoresHold.keeps_recordRawPayload _ _ _ _) h
  | task stage alert tasks =>
      cases stage with
      | setRunning => exact outcomes_of_setJob rfl rfl h
      | setFailed error => exact outcomes_of_setJob rfl rfl h
      | triage =>
          cases hrun : runTriage deps.pipeline alert none ⟨false, e.answers, none⟩ with
          | verdict verdict =>
              refine .wrote (some (.task (.putVerdict verdict) alert tasks)) a ?_ h
              simp [Flow.perform, Run.tryExcept, Run.bind_apply, awaitRun, hrun]
          | raised =>
              let error := (ApiExn.python (.other "run_triage")).text
              refine .caught (some (.task (.setFailed error) alert tasks)) a ⟨_, _, _, rfl⟩ ?_ h
              apply Run.tryExcept_exception
              rw [hrun]
              rfl
          | killed =>
              refine .died a ?_
              apply Run.tryExcept_kill
              rw [hrun]
              rfl
      | putVerdict verdict =>
          rcases h.putVerdict e.outcome alert.alertId verdict with
            ⟨a', heq, hon⟩ | ⟨u, a', heq, hon⟩
          · refine .wrote (some (.task .setComplete alert tasks)) a' ?_ hon
            exact Run.tryExcept_ok (Run.bind_ok heq)
          · -- a write that raises may have been applied
            cases u with
            | kill => exact .died a' (Run.tryExcept_kill (Run.bind_error heq))
            | exception x =>
                have hperform : Flow.perform deps e (.task (.putVerdict verdict) alert tasks) a =
                    (.ok (some (.task (.setFailed x.text) alert tasks)), a') :=
                  Run.tryExcept_exception (Run.bind_error heq)
                rcases hon with hon | hon
                · exact .wrote _ a' hperform hon
                · exact .caught _ a' ⟨_, _, _, rfl⟩ hperform hon
      | setComplete =>
          rcases h.setJob e.outcome alert.alertId .complete none with
            ⟨a', heq, hon⟩ | ⟨u, a', heq, hon⟩
          · refine .wrote (nextTask tasks) a' ?_ hon
            exact Run.tryExcept_ok (Run.bind_ok heq)
          · cases u with
            | kill => exact .died a' (Run.tryExcept_kill (Run.bind_error heq))
            | exception x =>
                have hperform : Flow.perform deps e (.task .setComplete alert tasks) a =
                    (.ok (some (.task (.setFailed x.text) alert tasks)), a') :=
                  Run.tryExcept_exception (Run.bind_error heq)
                cases happlied : e.outcome.applied with
                | true =>
                    rw [happlied] at hon
                    exact .wrote _ a' hperform hon
                | false =>
                    rw [happlied] at hon
                    exact .caught _ a' ⟨_, _, _, rfl⟩ hperform hon

/-! ## §4  Nothing stale is left behind -/

def alertIds (tasks : List NormalizedAlert) : List String := tasks.map NormalizedAlert.alertId

/-- The alerts whose job the flow has set and has still to bring to an end. -/
def Flow.owed : Flow → List String
  | .intake .recordRaw x _ tasks => x.alert.alertId :: alertIds tasks
  | .intake _ _ _ tasks => alertIds tasks
  | .task _ alert tasks => alert.alertId :: alertIds tasks

/-- The alert whose failure is being written. -/
def Flow.failing : Flow → List String
  | .task (.setFailed _) alert _ => [alert.alertId]
  | _ => []

/-- What is left behind when the flow is given up in its call. -/
def Flow.dropped (e : StepEnv) : Flow → List String
  | .intake .setQueued x _ tasks =>
      if e.outcome.applied then x.alert.alertId :: alertIds tasks else alertIds tasks
  | f => f.owed

/-- The alerts that a step leaves without a complete job. -/
def Flow.leaves (deps : TriageDeps) (e : StepEnv) (a : ApiWorld) (f : Flow) : List String :=
  match (f.perform deps e a).1 with
  | .ok _ => f.failing
  | .error _ => f.dropped e

/-- The flows after a step of the `i`-th. -/
def TriageProcess.flowsAfter (deps : TriageDeps) (s : TriageProcess) (i : ℕ) (e : StepEnv)
    (f : Flow) : List Flow :=
  let next := match (f.perform deps e s.api).1 with
    | .ok next => next
    | .error _ => none
  s.flows.take i ++ next.toList ++ s.flows.drop (i + 1)

/-- No verdict of the alert is on record. -/
def NoVerdict (deps : ApiDeps) (a : ApiWorld) (alertId : String) : Prop :=
  a.world.verdictOf deps.persistence deps.verdictCodec alertId = .ok none

instance (deps : ApiDeps) (a : ApiWorld) (alertId : String) :
    Decidable (NoVerdict deps a alertId) := by
  unfold NoVerdict
  cases a.world.verdictOf deps.persistence deps.verdictCodec alertId with
  | error x => exact isFalse (by simp)
  | ok verdict =>
      cases verdict with
      | none => exact isTrue rfl
      | some v => exact isFalse (by simp)

/-- What a step leaves without a complete job has no verdict on record, or is still under
way. -/
def LeavesNothingStale (deps : TriageDeps) (s : TriageProcess) : TriageLabel → Prop
  | .arrive _ => True
  | .go i e => ∀ f ∈ s.flows[i]?, ∀ alertId ∈ f.leaves deps e s.api,
      NoVerdict deps.toApiDeps s.api alertId ∨
        ∃ g ∈ s.flowsAfter deps i e f, alertId ∈ g.owed

instance (deps : TriageDeps) (s : TriageProcess) :
    (l : TriageLabel) → Decidable (LeavesNothingStale deps s l)
  | .arrive _ => isTrue trivial
  | .go i _ => Option.decidableForallMem s.flows[i]?

/-- What a run that meets the condition keeps of records and flows. -/
structure RecordsInv (records : Records) (flows : List Flow) : Prop where
  complete : ∀ alertId, statusSays (records.job alertId) = some .complete →
    (records.verdict alertId).isSome = true
  stored : ∀ alert tasks, .task .setComplete alert tasks ∈ flows →
    (records.verdict alert.alertId).isSome = true
  settled : ∀ alertId, (records.verdict alertId).isSome = true →
    statusSays (records.job alertId) = some .complete ∨ ∃ g ∈ flows, alertId ∈ g.owed

/-! ## §5  Steps keep the invariant -/

theorem statusSays_setJob (alertId id : String) (status : JobStatus) (error : Option String)
    (records : Records) :
    statusSays ((records.setJob alertId status error).job id) =
      if id = alertId then some status else statusSays (records.job id) := by
  by_cases hid : id = alertId
  · subst hid
    simp [Records.setJob, statusSays]
  · simp [Records.setJob, hid]

theorem verdict_putVerdict (alertId id : String) (verdict : TriageVerdict)
    (records : Records) :
    (records.putVerdict alertId verdict).verdict id =
      if id = alertId then some verdict else records.verdict id := by
  by_cases hid : id = alertId
  · subst hid
    simp [Records.putVerdict]
  · simp [Records.putVerdict, hid]

/-- No call takes a verdict back. -/
theorem isSome_writes (f : Flow) {id : String} (h : (records.verdict id).isSome = true) :
    ((f.writes records).verdict id).isSome = true := by
  cases f with
  | intake stage x rows tasks => cases stage <;> exact h
  | task stage alert tasks =>
      cases stage with
      | putVerdict verdict =>
          show ((records.putVerdict alert.alertId verdict).verdict id).isSome = true
          rw [verdict_putVerdict]
          split
          · rfl
          · exact h
      | _ => exact h

variable {before after : List Flow} {f : Flow} {next : Option Flow}

/-- A call outside of the `try` stores no verdict. -/
theorem verdict_of_not_guarded (h : f.guarded = false) (records : Records) :
    (f.writes records).verdict = records.verdict := by
  cases f with
  | intake stage x rows tasks => cases stage <;> rfl
  | task stage alert tasks =>
      cases stage with
      | putVerdict verdict => cases h
      | _ => rfl

/-- Only `set_job("complete")` completes a job. -/
theorem complete_of_writes {id : String}
    (h : statusSays ((f.writes records).job id) = some .complete) :
    statusSays (records.job id) = some .complete ∨
      ∃ alert tasks, f = .task .setComplete alert tasks ∧ id = alert.alertId := by
  have hset {alertId : String} {status : JobStatus} {error : Option String}
      (hstatus : status ≠ .complete)
      (hread : statusSays ((records.setJob alertId status error).job id) = some .complete) :
      statusSays (records.job id) = some .complete := by
    rw [statusSays_setJob] at hread
    split at hread
    · exact absurd (Option.some.inj hread) hstatus
    · exact hread
  cases f with
  | intake stage x rows tasks =>
      cases stage with
      | setQueued => exact .inl (hset (by decide) h)
      | _ => exact .inl h
  | task stage alert tasks =>
      cases stage with
      | setRunning => exact .inl (hset (by decide) h)
      | setFailed error => exact .inl (hset (by decide) h)
      | setComplete =>
          by_cases hid : id = alert.alertId
          · exact .inr ⟨alert, tasks, rfl, hid⟩
          · have hread : statusSays ((records.setJob alert.alertId .complete none).job id) =
              some .complete := h
            rw [statusSays_setJob, if_neg hid] at hread
            exact .inl hread
      | _ => exact .inl h

/-- A job is complete only where there is a verdict: also after the call. -/
theorem RecordsInv.complete_writes {flows : List Flow} (h : RecordsInv records flows)
    (hf : f ∈ flows) (id : String)
    (hcomplete : statusSays ((f.writes records).job id) = some .complete) :
    ((f.writes records).verdict id).isSome = true := by
  apply isSome_writes
  rcases complete_of_writes hcomplete with hold | ⟨alert, tasks, rfl, rfl⟩
  · exact h.complete id hold
  · exact h.stored alert tasks hf

/-- A flow comes to `set_job("complete")` with the verdict on record. -/
theorem Next.stored_writes (hnext : Next f next) {alert : NormalizedAlert}
    {tasks : List NormalizedAlert} (hmem : .task .setComplete alert tasks ∈ next.toList) :
    ((f.writes records).verdict alert.alertId).isSome = true := by
  have hno_task (rest : List NormalizedAlert) :
      .task .setComplete alert tasks ∉ (nextTask rest).toList := by
    cases rest <;> simp [nextTask]
  cases hnext with
  | stored alert' tasks' verdict =>
      obtain ⟨-, rfl, -⟩ := Flow.task.inj (List.mem_singleton.mp hmem)
      show ((records.putVerdict alert.alertId verdict).verdict alert.alertId).isSome = true
      rw [verdict_putVerdict, if_pos rfl]
      rfl
  | completed alert' tasks' => exact absurd hmem (hno_task tasks')
  | failed alert' tasks' error => exact absurd hmem (hno_task tasks')
  | dispatched x rows tasks' =>
      cases rows with
      | nil => exact absurd hmem (hno_task _)
      | cons y rows => simp [nextRow] at hmem
  | _ => simp at hmem

/-- What comes next owes. -/
def owedNext (next : Option Flow) : List String := next.toList.flatMap Flow.owed

theorem owed_nextTask (tasks : List NormalizedAlert) :
    owedNext (nextTask tasks) = alertIds tasks := by
  cases tasks <;> simp [nextTask, owedNext, Flow.owed, alertIds]

theorem owed_nextRow (rows : List BuiltAlert) (tasks : List NormalizedAlert) :
    owedNext (nextRow rows tasks) = alertIds tasks := by
  cases rows with
  | nil => exact owed_nextTask tasks
  | cons x rows => simp [nextRow, owedNext, Flow.owed]

theorem owed_of_next {id : String} (h : id ∈ owedNext next) :
    ∃ g ∈ before ++ next.toList ++ after, id ∈ g.owed := by
  obtain ⟨g, hg, hid⟩ := List.mem_flatMap.mp h
  refine ⟨g, ?_, hid⟩
  simp only [List.mem_append]
  exact .inl (.inr hg)

/-- The step settles what it owed, and leaves the records of the others alone. -/
theorem RecordsInv.settle {records' : Records} (h : RecordsInv records (before ++ f :: after))
    (hown : ∀ id ∈ f.owed, (records'.verdict id).isSome = true →
      statusSays (records'.job id) = some .complete ∨
        ∃ g ∈ before ++ next.toList ++ after, id ∈ g.owed)
    (hother : ∀ id, id ∉ f.owed → id ∉ owedNext next →
      records'.job id = records.job id ∧ records'.verdict id = records.verdict id)
    (id : String) (hsome : (records'.verdict id).isSome = true) :
    statusSays (records'.job id) = some .complete ∨
      ∃ g ∈ before ++ next.toList ++ after, id ∈ g.owed := by
  by_cases hf : id ∈ f.owed
  · exact hown id hf hsome
  by_cases hnext : id ∈ owedNext next
  · exact .inr (owed_of_next hnext)
  · obtain ⟨hjob, hverdict⟩ := hother id hf hnext
    rw [hverdict] at hsome
    rw [hjob]
    refine (h.settled id hsome).imp_right ?_
    rintro ⟨g, hg, hid⟩
    rcases List.mem_append.mp hg with hg | hg
    · exact ⟨g, by simp [hg], hid⟩
    · rcases List.mem_cons.mp hg with rfl | hg
      · exact absurd hid hf
      · exact ⟨g, by simp [hg], hid⟩

/-- A call writes the records of an alert that its flow owes before it or after it. -/
theorem Next.writes_owed (hnext : Next f next) {id : String} (hf : id ∉ f.owed)
    (hn : id ∉ owedNext next) :
    (f.writes records).job id = records.job id ∧
      (f.writes records).verdict id = records.verdict id := by
  have hset {alertId : String} {status : JobStatus} {error : Option String}
      (hid : id ≠ alertId) : (records.setJob alertId status error).job id = records.job id := by
    simp [Records.setJob, hid]
  -- each write is to the alert that the flow owes
  cases hnext with
  | put x rows tasks => exact ⟨rfl, rfl⟩
  | dispatched x rows tasks => exact ⟨rfl, rfl⟩
  | decided alert tasks verdict => exact ⟨rfl, rfl⟩
  | queued x rows tasks =>
      refine ⟨hset ?_, rfl⟩
      rintro rfl
      exact hn (by simp [owedNext, Flow.owed])
  | started alert tasks =>
      refine ⟨hset ?_, rfl⟩
      rintro rfl
      exact hf (by simp [Flow.owed])
  | stored alert tasks verdict =>
      refine ⟨rfl, ?_⟩
      show (records.putVerdict alert.alertId verdict).verdict id = _
      rw [verdict_putVerdict, if_neg]
      rintro rfl
      exact hf (by simp [Flow.owed])
  | completed alert tasks =>
      refine ⟨hset ?_, rfl⟩
      rintro rfl
      exact hf (by simp [Flow.owed])
  | failed alert tasks error =>
      refine ⟨hset ?_, rfl⟩
      rintro rfl
      exact hf (by simp [Flow.owed])
  | caught stage alert tasks error hguarded =>
      have hid : id ≠ alert.alertId := by
        rintro rfl
        exact hf (by simp [Flow.owed])
      cases stage with
      | setRunning => cases hguarded
      | setFailed error' => cases hguarded
      | triage => exact ⟨rfl, rfl⟩
      | setComplete => exact ⟨hset hid, rfl⟩
      | putVerdict verdict =>
          refine ⟨rfl, ?_⟩
          show (records.putVerdict alert.alertId verdict).verdict id = _
          rw [verdict_putVerdict, if_neg hid]

/-- What a flow owes it still owes, has completed, or is failing. -/
theorem Next.settles (hnext : Next f next) (records : Records) {id : String} (hid : id ∈ f.owed) :
    id ∈ owedNext next ∨ statusSays ((f.writes records).job id) = some .complete ∨
      id ∈ f.failing := by
  cases hnext with
  | put x rows tasks => exact .inl (by simpa [owedNext, Flow.owed] using hid)
  | queued x rows tasks =>
      refine .inl ?_
      simp only [owedNext, Option.toList_some, List.flatMap_singleton]
      exact List.mem_cons_of_mem _ hid
  | dispatched x rows tasks =>
      refine .inl ?_
      rw [owed_nextRow, alertIds, List.map_append, List.mem_append]
      rcases List.mem_cons.mp hid with rfl | hid
      · exact .inr List.mem_cons_self
      · exact .inl hid
  | started alert tasks => exact .inl (by simpa [owedNext, Flow.owed] using hid)
  | decided alert tasks verdict => exact .inl (by simpa [owedNext, Flow.owed] using hid)
  | stored alert tasks verdict => exact .inl (by simpa [owedNext, Flow.owed] using hid)
  | caught stage alert tasks error => exact .inl (by simpa [owedNext, Flow.owed] using hid)
  | completed alert tasks =>
      rcases List.mem_cons.mp hid with rfl | hid
      · refine .inr (.inl ?_)
        show statusSays ((records.setJob alert.alertId .complete none).job alert.alertId) = _
        rw [statusSays_setJob, if_pos rfl]
      · exact .inl (by rwa [owed_nextTask])
  | failed alert tasks error =>
      rcases List.mem_cons.mp hid with rfl | hid
      · exact .inr (.inr List.mem_cons_self)
      · exact .inl (by rwa [owed_nextTask])

/-- A failing flow writes no verdict. -/
theorem verdict_of_failing {id : String} (h : id ∈ f.failing) :
    (f.writes records).verdict = records.verdict := by
  cases f with
  | intake stage x rows tasks => cases h
  | task stage alert tasks =>
      cases stage with
      | setFailed error => rfl
      | _ => cases h

/-- A member of the flows after the step is one of before, or what comes next. -/
theorem mem_after {g : Flow} (h : g ∈ before ++ next.toList ++ after) :
    g ∈ before ++ f :: after ∨ g ∈ next.toList := by
  rcases List.mem_append.mp h with h | h
  · rcases List.mem_append.mp h with h | h
    · exact .inl (List.mem_append_left _ h)
    · exact .inr h
  · exact .inl (List.mem_append_right _ (List.mem_cons_of_mem _ h))

/-- The call wrote what it writes. -/
theorem RecordsInv.wrote (h : RecordsInv records (before ++ f :: after)) (hnext : Next f next)
    (hleft : ∀ id ∈ f.failing, records.verdict id = none ∨
      ∃ g ∈ before ++ next.toList ++ after, id ∈ g.owed) :
    RecordsInv (f.writes records) (before ++ next.toList ++ after) := by
  have hf : f ∈ before ++ f :: after := by simp
  constructor
  · exact h.complete_writes hf
  · intro alert tasks hmem
    rcases mem_after hmem with hold | hnew
    · exact isSome_writes f (h.stored alert tasks hold)
    · exact hnext.stored_writes hnew
  · refine h.settle (fun id hid hsome => ?_) fun id hid hn => hnext.writes_owed hid hn
    rcases hnext.settles records hid with howed | hcomplete | hfailing
    · exact .inr (owed_of_next howed)
    · exact .inl hcomplete
    · rw [verdict_of_failing hfailing] at hsome
      refine .inr ((hleft id hfailing).resolve_left ?_)
      exact Option.isSome_iff_ne_none.mp hsome

/-- The handler took over, and nothing was written. -/
theorem RecordsInv.caught (h : RecordsInv records (before ++ f :: after)) (hnext : Next f next)
    (hcaught : Caught next) : RecordsInv records (before ++ next.toList ++ after) := by
  obtain ⟨error, alert, tasks, rfl⟩ := hcaught
  have hsame : ∀ id ∈ f.owed, id ∈ (Flow.task (.setFailed error) alert tasks).owed := by
    generalize hresult : some (Flow.task (.setFailed error) alert tasks) = result at hnext
    cases hnext with
    | caught stage alert' tasks' error' =>
        obtain ⟨-, rfl, rfl⟩ := Flow.task.inj (Option.some.inj hresult)
        exact fun id hid => hid
    | completed alert' tasks' => cases tasks' <;> simp [nextTask] at hresult
    | failed alert' tasks' error' => cases tasks' <;> simp [nextTask] at hresult
    | dispatched x rows tasks' =>
        cases rows with
        | nil =>
            cases htasks : tasks' ++ [x.alert.toNormalizedAlert] <;>
              simp [nextRow, nextTask, htasks] at hresult
        | cons y rows => simp [nextRow] at hresult
    | _ => simp at hresult
  constructor
  · exact h.complete
  · intro alert' tasks' hmem
    rcases mem_after hmem with hold | hnew
    · exact h.stored alert' tasks' hold
    · simp at hnew
  · refine h.settle (fun id hid _ => .inr ?_) fun _ _ _ => ⟨rfl, rfl⟩
    exact owed_of_next (by simpa [owedNext] using hsame id hid)

/-- What a flow owes is dropped with it. -/
theorem owed_dropped {e : StepEnv} {id : String} (h : id ∈ f.owed) : id ∈ f.dropped e := by
  cases f with
  | intake stage x rows tasks =>
      cases stage with
      | setQueued =>
          show id ∈ if e.outcome.applied then x.alert.alertId :: alertIds tasks else alertIds tasks
          split
          · exact List.mem_cons_of_mem _ h
          · exact h
      | _ => exact h
  | task stage alert tasks => exact h

/-- The flow is given up in a call outside of the `try`. -/
theorem RecordsInv.givenUp {e : StepEnv} (h : RecordsInv records (before ++ f :: after))
    (hguard : f.guarded = false)
    (hleft : ∀ id ∈ f.dropped e, records.verdict id = none ∨
      ∃ g ∈ before ++ after, id ∈ g.owed) :
    RecordsInv (if e.outcome.applied then f.writes records else records) (before ++ after) := by
  have hf : f ∈ before ++ f :: after := by simp
  have hrest : ∀ g ∈ before ++ after, g ∈ before ++ f :: after := by
    intro g hg
    rcases List.mem_append.mp hg with hg | hg
    · exact List.mem_append_left _ hg
    · exact List.mem_append_right _ (List.mem_cons_of_mem _ hg)
  -- an alert whose record may have changed is one that is dropped
  have hkept : ∀ id, id ∉ f.dropped e →
      (if e.outcome.applied then f.writes records else records).job id = records.job id := by
    intro id hid
    cases happlied : e.outcome.applied with
    | false => rfl
    | true =>
        rw [if_pos rfl]
        cases f with
        | intake stage x rows tasks =>
            cases stage with
            | setQueued =>
                have hne : id ≠ x.alert.alertId := by
                  rintro rfl
                  exact hid (by simp [Flow.dropped, happlied])
                show (records.setJob x.alert.alertId .queued none).job id = _
                simp [Records.setJob, hne]
            | _ => rfl
        | task stage alert tasks =>
            have hne : id ≠ alert.alertId := by
              rintro rfl
              exact hid (by simp [Flow.dropped, Flow.owed])
            cases stage with
            | setRunning =>
                show (records.setJob alert.alertId .running none).job id = _
                simp [Records.setJob, hne]
            | setFailed error =>
                show (records.setJob alert.alertId .failed (some error)).job id = _
                simp [Records.setJob, hne]
            | _ => cases hguard
  have hsame (id : String) :
      (if e.outcome.applied then f.writes records else records).verdict id =
        records.verdict id := by
    split
    · rw [verdict_of_not_guarded hguard]
    · rfl
  constructor
  · intro id hcomplete
    split at hcomplete
    · rename_i happlied
      rw [if_pos happlied]
      exact h.complete_writes hf id hcomplete
    · rename_i happlied
      rw [if_neg happlied]
      exact h.complete id hcomplete
  · intro alert tasks hmem
    rw [hsame]
    exact h.stored alert tasks (hrest _ hmem)
  · intro id hsome
    rw [hsame] at hsome
    by_cases hid : id ∈ f.dropped e
    · exact .inr ((hleft id hid).resolve_left (Option.isSome_iff_ne_none.mp hsome))
    · rw [hkept id hid]
      refine (h.settled id hsome).imp_right ?_
      rintro ⟨g, hg, howed⟩
      rcases List.mem_append.mp hg with hg | hg
      · exact ⟨g, List.mem_append_left _ hg, howed⟩
      · rcases List.mem_cons.mp hg with rfl | hg
        · exact absurd (owed_dropped howed) hid
        · exact ⟨g, List.mem_append_right _ hg, howed⟩

/-! ## §6  The views of a run -/

/-- The process that starts with nothing on record. -/
def freshJobs (deps : TriageDeps) : System TriageProcess TriageLabel where
  start s := s.flows = [] ∧ s.runs = [] ∧ StoresHold deps.toApiDeps .empty s.api
  step := triageStep deps

variable {deps : TriageDeps} {s s' : TriageProcess}

/-- What its call raises out of a guarded stage is not an exception. -/
theorem not_guarded_of_exception {e : StepEnv} {f : Flow} {a a' : ApiWorld} {x : ApiExn}
    (h : f.perform deps e a = (.error (.exception x), a')) : f.guarded = false := by
  have hraises {y : ApiIo (Option Flow)} {alert : NormalizedAlert}
      {tasks : List NormalizedAlert} : Run.Raises (fun _ => False) (Run.tryExcept y
        fun x => return some (.task (.setFailed x.text) alert tasks)) :=
    Run.Raises.tryExcept fun _ => Run.Raises.pure _
  cases f with
  | intake stage y rows tasks => rfl
  | task stage alert tasks =>
      cases stage with
      | setRunning => rfl
      | setFailed error => rfl
      | triage => exact (hraises a x a' h).elim
      | putVerdict verdict => exact (hraises a x a' h).elim
      | setComplete => exact (hraises a x a' h).elim

/-- The records are read off the stores, whatever the run. -/
theorem exists_storesHold_step {l : TriageLabel}
    (h : ∃ records, StoresHold deps.toApiDeps records s.api)
    (hstep : triageStep deps s l = some s') :
    ∃ records, StoresHold deps.toApiDeps records s'.api := by
  obtain ⟨records, hon⟩ := h
  cases l with
  | arrive rows =>
      obtain rfl := Option.some.inj hstep
      exact ⟨records, hon⟩
  | go i e =>
      obtain ⟨f, -, hmoves⟩ := go_cases hstep
      have hresult : ∃ r, f.perform deps e s.api = (r, s'.api) ∧ r ≠ .error .kill := by
        cases hmoves with
        | on next _ hperform => exact ⟨_, hperform, by simp⟩
        | givenUp x hperform => exact ⟨_, hperform, by simp⟩
      obtain ⟨r, hperform, hlives⟩ := hresult
      cases perform_storesHold hon (e := e) (f := f) with
      | wrote next a' hdone hon =>
          rw [hperform] at hdone
          obtain ⟨-, rfl⟩ := Prod.mk.inj hdone
          exact ⟨_, hon⟩
      | caught next a' hcaught hdone hon =>
          rw [hperform] at hdone
          obtain ⟨-, rfl⟩ := Prod.mk.inj hdone
          exact ⟨_, hon⟩
      | raised u a' hdone hon =>
          rw [hperform] at hdone
          obtain ⟨-, rfl⟩ := Prod.mk.inj hdone
          exact ⟨_, hon⟩
      | died a' hdone =>
          rw [hperform] at hdone
          exact absurd (Prod.mk.inj hdone).1 hlives

/-- **A step that leaves nothing stale** keeps the invariant. -/
theorem recordsInv_step {l : TriageLabel}
    (h : ∃ records, StoresHold deps.toApiDeps records s.api ∧ RecordsInv records s.flows)
    (hc : LeavesNothingStale deps s l) (hstep : triageStep deps s l = some s') :
    ∃ records, StoresHold deps.toApiDeps records s'.api ∧ RecordsInv records s'.flows := by
  obtain ⟨records, hon, hinv⟩ := h
  cases l with
  | arrive rows =>
      obtain rfl := Option.some.inj hstep
      refine ⟨records, hon, hinv.complete, ?_, fun alertId hsome => ?_⟩
      · -- a flow that arrives is at its first stage
        intro alert tasks hmem
        rcases List.mem_append.mp hmem with hmem | hmem
        · exact hinv.stored alert tasks hmem
        · cases rows with
          | nil => cases hmem
          | cons x rows => simp [nextRow] at hmem
      · refine (hinv.settled alertId hsome).imp_right ?_
        rintro ⟨g, hg, hid⟩
        exact ⟨g, List.mem_append_left _ hg, hid⟩
  | go i e =>
      obtain ⟨f, hf, hmoves⟩ := go_cases hstep
      have hleaves := hc f hf
      rw [flows_split hf] at hinv
      -- what the condition says of the store the records say too
      have hread {alertId : String} (hnone : NoVerdict deps.toApiDeps s.api alertId) :
          records.verdict alertId = none := by
        have hshown := (hon alertId).verdict
        rw [hnone] at hshown
        exact (Except.ok.inj hshown).symm
      cases hmoves with
      | on next hnext hperform hflows hruns =>
          have hleft : ∀ id ∈ f.failing, records.verdict id = none ∨
              ∃ g ∈ s.flows.take i ++ next.toList ++ s.flows.drop (i + 1), id ∈ g.owed := by
            intro id hid
            have hstale := hleaves id (by simpa [Flow.leaves, hperform] using hid)
            simp only [TriageProcess.flowsAfter, hperform] at hstale
            exact hstale.imp_left hread
          rw [hflows]
          cases perform_storesHold hon (e := e) (f := f) with
          | wrote next' a' hdone hon =>
              rw [hperform] at hdone
              obtain ⟨-, rfl⟩ := Prod.mk.inj hdone
              exact ⟨_, hon, hinv.wrote hnext hleft⟩
          | caught next' a' hcaught hdone hon =>
              rw [hperform] at hdone
              obtain ⟨hsame, rfl⟩ := Prod.mk.inj hdone
              obtain rfl : next = next' := Except.ok.inj hsame
              exact ⟨_, hon, hinv.caught hnext hcaught⟩
          | raised u a' hdone hon =>
              rw [hperform] at hdone
              cases (Prod.mk.inj hdone).1
          | died a' hdone =>
              rw [hperform] at hdone
              cases (Prod.mk.inj hdone).1
      | givenUp x hperform hflows hruns =>
          have hleft : ∀ id ∈ f.dropped e, records.verdict id = none ∨
              ∃ g ∈ s.flows.take i ++ s.flows.drop (i + 1), id ∈ g.owed := by
            intro id hid
            have hstale := hleaves id (by simpa [Flow.leaves, hperform] using hid)
            simp only [TriageProcess.flowsAfter, hperform, Option.toList_none,
              List.append_nil] at hstale
            exact hstale.imp_left hread
          rw [hflows]
          cases perform_storesHold hon (e := e) (f := f) with
          | wrote next' a' hdone hon =>
              rw [hperform] at hdone
              cases (Prod.mk.inj hdone).1
          | caught next' a' hcaught hdone hon =>
              rw [hperform] at hdone
              cases (Prod.mk.inj hdone).1
          | raised u a' hdone hon =>
              rw [hperform] at hdone
              obtain ⟨-, rfl⟩ := Prod.mk.inj hdone
              exact ⟨_, hon, hinv.givenUp (not_guarded_of_exception hperform) hleft⟩
          | died a' hdone =>
              rw [hperform] at hdone
              cases (Prod.mk.inj hdone).1

/-- **Status views agree** on every alert that is not under way, in every run that leaves
nothing stale. -/
theorem status_views_agree {deps : TriageDeps} {s : TriageProcess}
    (h : (freshJobs deps).Reached (LeavesNothingStale deps) s) {alertId : String}
    (hidle : ∀ f ∈ s.flows, alertId ∉ f.owed) :
    ViewsAgree deps.toApiDeps s.api alertId := by
  obtain ⟨records, hon, hinv⟩ : ∃ records, StoresHold deps.toApiDeps records s.api ∧
      RecordsInv records s.flows := by
    apply h.invariant
    · rintro s ⟨hflows, -, hempty⟩
      refine ⟨.empty, hempty, ?_, ?_, ?_⟩
      · intro id hcomplete
        simp [Records.empty, statusSays] at hcomplete
      · intro alert tasks hmem
        simp [hflows] at hmem
      · intro id hsome
        simp [Records.empty] at hsome
    · exact fun s l s' hs hc hstep => recordsInv_step hs hc hstep
  rw [viewsAgree_iff (hon alertId)]
  constructor
  · exact hinv.complete alertId
  · intro hsome
    refine (hinv.settled alertId hsome).resolve_right ?_
    rintro ⟨g, hg, hid⟩
    exact hidle g hg hid

/-- The text of the job's status, and whether there is a verdict, in memory. -/
def memoryView (alertId : String) (s : TriageProcess) : Option String × Bool :=
  ((Json.lookup alertId s.api.memJobs).bind fun fields =>
      (Json.lookup "status" fields).bind Json.asStr?,
    (Json.lookup alertId s.api.world.memVerdicts).isSome)

theorem freshProcess_start : (freshJobs plainTriage).start ⟨.fresh, [], []⟩ :=
  ⟨rfl, rfl, fun _ => ⟨rfl, rfl⟩⟩

theorem repeated_job_agrees :
    ∃ s, (freshJobs plainTriage).run ⟨.fresh, [], []⟩ (doneJob ++ doneJob) = some s ∧
      memoryView "a1" s = (some "complete", true) ∧
      ViewsAgree plainTriage.toApiDeps s.api "a1" := by
  have hview : ((freshJobs plainTriage).run ⟨.fresh, [], []⟩ (doneJob ++ doneJob)).map
      (fun s => (s.flows.length, memoryView "a1" s)) = some (0, some "complete", true) := by
    decide +kernel
  have hmeets : (freshJobs plainTriage).Meets (LeavesNothingStale plainTriage)
      ⟨.fresh, [], []⟩ (doneJob ++ doneJob) := by
    decide +kernel
  obtain ⟨s, hrun, hs⟩ := Option.map_eq_some_iff.mp hview
  obtain ⟨hflows, hmemory⟩ := Prod.mk.inj hs
  refine ⟨s, hrun, hmemory, status_views_agree (hmeets.reached (.start freshProcess_start) hrun)
    fun f hf => ?_⟩
  rw [List.length_eq_zero_iff.mp hflows] at hf
  cases hf

theorem failed_again_disagrees :
    ¬ ∀ (deps : TriageDeps) (s : TriageProcess) (alertId : String),
      (freshJobs deps).Reachable s → (∀ f ∈ s.flows, alertId ∉ f.owed) →
      ViewsAgree deps.toApiDeps s.api alertId := by
  intro h
  have hview : ((freshJobs plainTriage).run ⟨.fresh, [], []⟩ (doneJob ++ failedJob)).map
      (fun s => (s.flows.length, memoryView "a1" s)) = some (0, some "failed", true) := by
    decide +kernel
  obtain ⟨s, hrun, hs⟩ := Option.map_eq_some_iff.mp hview
  obtain ⟨hflows, hmemory⟩ := Prod.mk.inj hs
  obtain ⟨hfailed, hverdict⟩ := Prod.mk.inj hmemory
  have hreached : (freshJobs plainTriage).Reachable s :=
    System.reached_of_run (.start freshProcess_start) hrun
  obtain ⟨records, hon⟩ : ∃ records, StoresHold plainTriage.toApiDeps records s.api := by
    apply hreached.invariant
    · exact fun s hs => ⟨_, hs.2.2⟩
    · exact fun s l s' hs _ hstep => exists_storesHold_step hs hstep
  have hagree := h plainTriage s "a1" hreached (by
    intro f hf
    rw [List.length_eq_zero_iff.mp hflows] at hf
    cases hf)
  rw [viewsAgree_iff (hon "a1")] at hagree
  -- there is a verdict, and so the views can only agree on a complete job
  have hsome : (records.verdict "a1").isSome = true := by
    have hread := (hon "a1").verdict
    have hstored : s.api.world.verdictOf plainTriage.persistence plainTriage.verdictCodec "a1" =
        .ok (Json.lookup "a1" s.api.world.memVerdicts) := rfl
    rw [hstored] at hread
    rwa [← Except.ok.inj hread]
  obtain ⟨⟨status, error⟩, hjob, hstatus⟩ := Option.map_eq_some_iff.mp (hagree.mpr hsome)
  obtain rfl : status = .complete := hstatus
  have hread := (hon "a1").job
  have hstored : jobOf plainTriage.persistence "a1" s.api =
      .ok ((Json.lookup "a1" s.api.memJobs).map Json.obj) := rfl
  rw [hstored, hjob] at hread
  obtain ⟨fields, hlookup, hfields⟩ := Option.map_eq_some_iff.mp (Except.ok.inj hread)
  obtain rfl : fields = jobRecord .complete error := Json.obj.inj hfields
  rw [hlookup] at hfailed
  exact absurd (Option.some.inj hfailed) (by decide)

end AlertTriage
