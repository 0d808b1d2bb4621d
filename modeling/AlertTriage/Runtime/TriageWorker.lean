import AlertTriage.AlertCodec
import AlertTriage.Runtime.JwtService
import AlertTriage.Runtime.NatsBroker

/-!
# `services/_runtime/triage_worker.py`

One message at a time: `handleMessage` verifies the token, parses the alert,
publishes phases and runs the triage; `dispatchOne` settles the message by how
that ended. What the triage run comes to is an outcome of the environment here;
the graph itself is modelled in `Pipeline`.
-/

namespace AlertTriage

open Library

/-! ## §1  The worker and its environment -/

/-- `WorkerConfig`, the fields that settlement and redelivery depend on. -/
structure WorkerConfig where
  maxInflight : ℕ
  pullBatch : ℕ
  ackWaitSeconds : ℕ
  maxDeliveries : ℕ
deriving DecidableEq, Repr

def WorkerConfig.default : WorkerConfig where
  maxInflight := 4
  pullBatch := 1
  ackWaitSeconds := 60
  maxDeliveries := 5

/-- The injected services: the token library and service, the serialisation of
alerts, and whether the cancel registry and the sequencer have a client. -/
structure WorkerDeps where
  lib : PyJwt
  jwtService : JwtService
  codec : AlertCodec
  hasCancelClient : Bool
  hasSeqClient : Bool

/-- How the outside calls of one `_publish_phase` end. -/
structure PhaseEnv where
  incr : Outcome
  expire : Outcome
  emittedAt : String
  publish : PublishEnv
deriving DecidableEq, Repr

/-- How `run_triage` ends. -/
inductive TriageOutcome where
  | verdict (v : TriageVerdict)
  | raised
  | killed
deriving DecidableEq, Repr

/-- How the outside calls of one `handle_message` end, and what others do to
Redis while the triage runs. -/
structure HandleEnv where
  revoked : RevokedAnswer
  queued : PhaseEnv
  cancelBefore : Outcome
  cancelled : PhaseEnv
  checkpointer : Outcome
  triage : TriageOutcome
  meanwhile : Interlude
  failed : PhaseEnv
  cancelAfter : Outcome
  done : PhaseEnv
deriving DecidableEq, Repr

/-! ## §2  Sequence numbers and the cancel flag -/

def seqKey (alertId : String) : String := "seq:" ++ alertId

def seqTtlSec : ℕ := 24 * 60 * 60

def cancelledKey (alertId : String) : String := "cancelled:" ++ alertId

/-- `_local_next`. -/
def localNext (alertId : String) : Io ℕ := fun w =>
  let n := (Json.lookup alertId w.localSeq).getD 0 + 1
  (.ok n, { w with localSeq := Json.upsert alertId n w.localSeq })

/-- `EventSequencer.next_seq`. -/
def nextSeq (deps : WorkerDeps) (e : PhaseEnv) (alertId : String) : Io ℕ :=
  if !deps.hasSeqClient then localNext alertId
  else
    Run.tryExcept
      (do
        let n ← redisIncr e.incr (seqKey alertId)
        redisExpire e.expire (seqKey alertId) seqTtlSec
        return n)
      (fun _ => localNext alertId)

/-- `CancelRegistry.is_cancelled`: a failed read is no. -/
def isCancelled (deps : WorkerDeps) (o : Outcome) (alertId : String) : Io Bool :=
  if !deps.hasCancelClient then return false
  else
    Run.tryExcept
      (do
        let v ← redisGet o (cancelledKey alertId)
        return v.map RedisValue.toText == some "1")
      (fun _ => return false)

/-! ## §3  Phase events -/

/-- The message of a phase event. -/
def phaseMsg (event : PhaseEvent) : NatsMsg :=
  ⟨subjTriageEvent event.tenantId event.alertId event.phase.value,
    .utf8 event.modelDumpJson, []⟩

/-- `_publish_phase`: nothing without a tenant, and the publish's answer is
not looked at. -/
def publishPhase (deps : WorkerDeps) (e : PhaseEnv) (alert : NormalizedAlert)
    (phase : TriagePhase) : Io Unit :=
  match alert.tenantId with
  | none => return ()
  | some tenantId =>
      if tenantId = "" then return ()
      else do
        let seq ← nextSeq deps e alert.alertId
        let event : PhaseEvent :=
          ⟨alert.alertId, tenantId, seq, e.emittedAt, none, phase⟩
        let _ ← publish e.publish
          (subjTriageEvent tenantId alert.alertId phase.value)
          (.utf8 event.modelDumpJson) none [] false
        return ()

/-! ## §4  The alert of a message -/

/-- `_parse_alert`: the tenant is the token's, whatever the body says. -/
def parseAlert (codec : AlertCodec) (data : Body) (auth : AuthContext) :
    Except PyExn NormalizedAlert :=
  match data with
  | .undecodable _ => .error (.other "codec can't decode byte")
  | .utf8 text =>
      match Json.loads text with
      | none => .error (.poisonPill "message body is not valid JSON")
      | some raw =>
          let raw := match raw with
            | .obj fields =>
                .obj (Json.remove "__subject__" (Json.remove "tenant_id" fields))
            | j => j
          match codec.modelValidate raw with
          | none =>
              .error
                (.poisonPill "message body fails NormalizedAlert validation")
          | some alert => .ok { alert with tenantId := some auth.tenantId }

/-- The body that ingest publishes is read back, under the token's tenant. -/
theorem parseAlert_plain (a : NormalizedAlert) (auth : AuthContext) :
    parseAlert plainCodec
        (.utf8 (Json.dumps pydanticStyle (.obj a.plainDump))) auth =
      .ok { a with tenantId := some auth.tenantId } := by
  simp only [parseAlert, Json.loads_dumps pydanticStyle (plainDump_distinct a),
    plainCodec_validate_stripped]

/-! ## §5  One message -/

/-- `await run_triage(...)`, with the `failed` phase of its handler. -/
def awaitTriage (deps : WorkerDeps) (e : HandleEnv) (alert : NormalizedAlert) :
    Io TriageVerdict := do
  Run.modify (World.elapse e.meanwhile)
  match e.triage with
  | .verdict v => return v
  | .raised => do
      publishPhase deps e.failed alert .failed
      Run.throw (.other "run_triage")
  | .killed => fun w => (.error .kill, w)

/-- Up to the cancellation check: the alert to run, if it is still wanted. -/
def acceptAlert (deps : WorkerDeps) (e : HandleEnv) (data : Body)
    (serviceToken : String) : Io (Option NormalizedAlert) := do
  let auth ← verify deps.lib deps.jwtService e.revoked serviceToken
  let alert ← Run.ofExcept (parseAlert deps.codec data auth)
  publishPhase deps e.queued alert .queued
  let cancelled ← isCancelled deps e.cancelBefore alert.alertId
  if cancelled then do
    publishPhase deps e.cancelled alert .cancelled
    return none
  else return some alert

/-- A cancel that landed while the graph ran marks a verdict without status. -/
def honorCancel (verdict : TriageVerdict) (cancelled : Bool) : TriageVerdict :=
  if verdict.status.isNone && cancelled then
    { verdict with status := some "cancelled" }
  else verdict

/-- From the cancellation check on. The verdict it holds at the end goes
nowhere. -/
def investigate (deps : WorkerDeps) (e : HandleEnv) (alert : NormalizedAlert) :
    Io Unit := do
  Run.call e.checkpointer (.other "get_checkpointer") id fun _ => ()
  let verdict ← awaitTriage deps e alert
  let late ← isCancelled deps e.cancelAfter alert.alertId
  let _verdict := honorCancel verdict late
  publishPhase deps e.done alert .done

/-- `handle_message`. -/
def handleMessage (deps : WorkerDeps) (e : HandleEnv) (data : Body)
    (serviceToken : String) : Io Unit := do
  match ← acceptAlert deps e data serviceToken with
  | none => return ()
  | some alert => investigate deps e alert

/-- `_safe_ack`, `_safe_nak` and `_safe_term`: a failing call is logged. -/
def safeSettle (o : Outcome) (how : Settlement) : Io Unit :=
  Run.tryExcept
    (Run.call o natsError (World.record (.settled how)) fun _ => ())
    (fun _ => return ())

/-- The settlement that an exception of `handle_message` leads to. -/
def settlementOf : PyExn → Settlement
  | .jwtError _ => .term
  | .poisonPill _ => .term
  | _ => .nak

/-- The token of a message: `headers.get("X-Service-Auth", "")`. -/
def NatsMsg.serviceToken (m : NatsMsg) : String :=
  (m.header "X-Service-Auth").getD ""

/-- How `_dispatch_one` decides to settle a message. -/
def settleAs (deps : WorkerDeps) (e : HandleEnv) (msg : NatsMsg) :
    Io Settlement :=
  if msg.serviceToken = "" then return .term
  else
    Run.tryExcept
      (do
        handleMessage deps e msg.data msg.serviceToken
        return .ack)
      (fun x => return settlementOf x)

/-- `_dispatch_one`. -/
def dispatchOne (deps : WorkerDeps) (e : HandleEnv) (settle : Outcome)
    (msg : NatsMsg) : Io Unit := do
  let how ← settleAs deps e msg
  safeSettle settle how

/-- `_to_dlq`: no path of the worker calls it. -/
def toDlq (e : PublishEnv) (alert : NormalizedAlert) (reason : String) :
    Io Unit :=
  match alert.tenantId with
  | none => return ()
  | some tenantId =>
      if tenantId = "" then return ()
      else do
        let body := Json.dumps pythonStyle
          (.obj [("alert_id", .str alert.alertId), ("reason", .str reason)])
        let _ ← publish e (subjDlq tenantId "ALERTS" alert.alertId) (.utf8 body)
          (some (alert.alertId ++ ":dlq")) [] true
        return ()

/-! ## §6  A message and a worker for examples -/

def sampleVerdict : TriageVerdict where
  alertId := "a1"
  tenantId := some "acme"
  status := none
  severity := .high
  severityJustification := "Backups destroyed"
  mitreAssessments := []
  triageSummary := "Shadow copies were deleted"
  confirmedIocs := []
  immediateActions := []
  escalation := .escalateIr
  escalationRationale := "Ransomware precursor"
  totalToolCalls := 0
  toolsCalled := []
  analystConfidence := 1 / 2
  falsePositiveProbability := 1 / 10

def quietPhase : PhaseEnv :=
  ⟨.returned, .returned, "2025-01-01T00:00:00", ⟨.returned, .returned⟩⟩

/-- Every call answers and the triage returns a verdict. -/
def smoothHandle : HandleEnv where
  revoked := .answer false
  queued := quietPhase
  cancelBefore := .returned
  cancelled := quietPhase
  checkpointer := .returned
  triage := .verdict sampleVerdict
  meanwhile := ⟨0, []⟩
  failed := quietPhase
  cancelAfter := .returned
  done := quietPhase

/-- The message of the sample alert, with a token. -/
def sampleMsg (token : String) : NatsMsg where
  subject := "alerts.v1.acme.generic.a1"
  data := .utf8 (Json.dumps pydanticStyle (.obj sampleAlert.plainDump))
  headers := [("Nats-Msg-Id", "a1"), ("X-Service-Auth", token)]

def workerService : JwtService where
  audience := "worker"
  bundle := ⟨"worker", "k1", none⟩
  hasRevoked := false
  ttl := defaultTtlSec
  leeway := defaultLeewaySec

end AlertTriage
