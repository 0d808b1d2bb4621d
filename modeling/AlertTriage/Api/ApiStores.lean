import AlertTriage.AlertCodec
import AlertTriage.AlertPersistence

/-!
# `services/alert_persistence.py`: alerts and jobs

The API process keeps alerts and job records next to verdicts, under keys of
their own in Redis or in the memory of the process. `ApiWorld` is the world of
that process: what it shares with the other processes, its memory and the
background tasks that it has scheduled.
-/

namespace AlertTriage

open Library

/-! ## §1  The process -/

/-- What unwinds a request: an `HTTPException`, or any other exception. -/
inductive ApiExn where
  | http (status : ℕ) (detail : String)
  | python (e : PyExn)
deriving DecidableEq, Repr

/-- `str(exc)`. -/
def PyExn.text : PyExn → String
  | .jwtError reason => reason
  | .poisonPill reason => reason
  | .keyError reason => reason
  | .other reason => reason

def ApiExn.text : ApiExn → String
  | .http _ detail => detail
  | .python e => e.text

structure ApiWorld where
  world : World
  memAlerts : List (String × NormalizedAlert)
  memJobs : List (String × Params)
  background : List NormalizedAlert

def ApiWorld.fresh : ApiWorld := ⟨World.fresh, [], [], []⟩

abbrev ApiIo (α : Type) := Run ApiExn ApiWorld α

/-- What a runtime service does, within a request. -/
def onWorld {α : Type} (x : Io α) : ApiIo α :=
  Run.focus ApiWorld.world (fun w a => { a with world := w }) ApiExn.python x

/-! ## §2  Alerts -/

def alertKey (alertId : String) : String := "soc:alert:" ++ alertId

/-- `put_alert`. -/
def putAlert (p : AlertPersistence) (codec : AlertCodec) (o : Outcome)
    (alert : NormalizedAlert) : ApiIo Unit :=
  if p.usesRedis then
    onWorld do
      let text ← Run.ofExcept (codec.modelDumpJson alert)
      redisSet o (alertKey alert.alertId) (.text text)
  else
    Run.modify fun a =>
      { a with memAlerts := Json.upsert alert.alertId alert a.memAlerts }

/-- `NormalizedAlert.model_validate_json(raw)`. -/
def validateAlertJson (codec : AlertCodec) (text : String) :
    Except PyExn NormalizedAlert :=
  match (Json.loads text).bind codec.modelValidate with
  | some alert => .ok alert
  | none => .error (.other "validation error for NormalizedAlert")

/-- What the text under a key says: nothing where it is absent or empty. -/
def readStored {α : Type} (read : String → Except PyExn α) :
    Option RedisValue → Except PyExn (Option α)
  | none => .ok none
  | some value =>
      if value.toText = "" then .ok none else (read value.toText).map some

/-- `get_alert`. -/
def getAlert (p : AlertPersistence) (codec : AlertCodec) (o : Outcome)
    (alertId : String) : ApiIo (Option NormalizedAlert) :=
  if p.usesRedis then
    onWorld do
      let raw ← redisGet o (alertKey alertId)
      Run.ofExcept (readStored (validateAlertJson codec) raw)
  else do
    let a ← Run.get
    return Json.lookup alertId a.memAlerts

/-! ## §3  Jobs -/

inductive JobStatus where
  | queued | running | complete | failed
deriving DecidableEq, Repr

def JobStatus.value : JobStatus → String
  | .queued => "queued"
  | .running => "running"
  | .complete => "complete"
  | .failed => "failed"

def jobKey (alertId : String) : String := "soc:job:" ++ alertId

def jobRecord (status : JobStatus) (error : Option String) : Params :=
  [("status", .str status.value), ("error", optionalText error)]

/-- `set_job`. -/
def setJob (p : AlertPersistence) (o : Outcome) (alertId : String)
    (status : JobStatus) (error : Option String) : ApiIo Unit :=
  if p.usesRedis then
    onWorld (redisSet o (jobKey alertId)
      (.text (Json.dumps pythonStyle (.obj (jobRecord status error)))))
  else
    Run.modify fun a =>
      { a with memJobs := Json.upsert alertId (jobRecord status error) a.memJobs }

/-- `json.loads(raw)`. -/
def loadsJob (text : String) : Except PyExn Json :=
  match Json.loads text with
  | some j => .ok j
  | none => .error (.other "Expecting value")

/-- The text of an object is read back. -/
theorem readStored_dumps {fields : Params} (h : Json.Distinct (.obj fields)) :
    readStored loadsJob (some (.text (Json.dumps pythonStyle (.obj fields)))) =
      .ok (some (.obj fields)) := by
  have hloads := Json.loads_dumps pythonStyle h
  have hne : Json.dumps pythonStyle (.obj fields) ≠ "" := by
    intro hempty
    have hnone : (Json.loads "").isSome = false := by decide +kernel
    rw [← hempty, hloads] at hnone
    cases hnone
  simp [readStored, RedisValue.toText, hne, loadsJob, hloads, Except.map]

/-- `get_job`. -/
def getJob (p : AlertPersistence) (o : Outcome) (alertId : String) :
    ApiIo (Option Json) :=
  if p.usesRedis then
    onWorld do
      let raw ← redisGet o (jobKey alertId)
      Run.ofExcept (readStored loadsJob raw)
  else do
    let a ← Run.get
    return (Json.lookup alertId a.memJobs).map Json.obj

end AlertTriage
