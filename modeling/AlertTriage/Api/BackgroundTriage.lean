import AlertTriage.Api.ApiStores
import AlertTriage.Pipeline.RunTriage

/-!
# `_run_triage_background` of `app/main.py`

The task of an alert that is not handed to NATS: it runs the graph without a
checkpointer and keeps the verdict and the status of the job.
-/

namespace AlertTriage

open Library

/-- How the outside calls of one task end, what the nodes of its run are
answered, and what others do to Redis while it runs. -/
structure TaskEnv where
  setRunning : Outcome
  answers : List NodeAnswers
  meanwhile : Interlude
  putVerdict : Outcome
  setComplete : Outcome
  setFailed : Outcome

/-- `await run_triage(alert)`. -/
def awaitRun (outcome : TriageOutcome) : ApiIo TriageVerdict :=
  match outcome with
  | .verdict verdict => return verdict
  | .raised => Run.throw (.python (.other "run_triage"))
  | .killed => fun a => (.error .kill, a)

/-- `_run_triage_background`. -/
def runTriageBackground (p : AlertPersistence) (codec : VerdictCodec)
    (pipeline : PipelineDeps) (e : TaskEnv) (alert : NormalizedAlert) :
    ApiIo Unit := do
  setJob p e.setRunning alert.alertId .running none
  Run.tryExcept
    (do
      onWorld (Run.modify (World.elapse e.meanwhile))
      let verdict ← awaitRun (runTriage pipeline alert none
        ⟨false, e.answers, none⟩)
      onWorld (putVerdict p codec e.putVerdict alert.alertId verdict)
      setJob p e.setComplete alert.alertId .complete none)
    (fun x => setJob p e.setFailed alert.alertId .failed (some x.text))

end AlertTriage
