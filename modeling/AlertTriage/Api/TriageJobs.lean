import AlertTriage.Api.BackgroundTriage
import AlertTriage.Api.Ingest
import AlertTriage.Library.Transition

/-!
# Ingest requests and their tasks, side by side

With the NATS path off, an accepted alert is triaged by a task of the process that took it
in. Requests and tasks await their stores one call at a time, and between two awaits of one
others may run; they share the stores and nothing else. Nothing on the way asks whether the
alert has been taken in before: a run is not repeated where no alert is dispatched again
before a run of it has failed (`runs_not_repeated`).
-/

namespace AlertTriage

open Library

/-! ## §1  Requests and tasks under way -/

/-- What requests and tasks use. -/
structure TriageDeps extends IngestDeps where
  pipeline : PipelineDeps

/-- What a request awaits for one of its alerts. -/
inductive IntakeStage where
  | putAlert | setQueued | recordRaw

/-- What `_run_triage_background` awaits. -/
inductive TaskStage where
  | setRunning
  | triage
  | putVerdict (verdict : TriageVerdict)
  | setComplete
  | setFailed (error : String)

/-- A request, at one of the alerts it has built, with those still to come and the tasks it
has added; or, when the answer is out, its tasks, one after the other. -/
inductive Flow where
  | intake (stage : IntakeStage) (x : BuiltAlert) (rows : List BuiltAlert)
      (tasks : List NormalizedAlert)
  | task (stage : TaskStage) (alert : NormalizedAlert) (tasks : List NormalizedAlert)

/-- How the awaited call ends, and what the nodes are answered if it is `run_triage`. -/
structure StepEnv where
  outcome : Outcome
  answers : List NodeAnswers

def nextTask : List NormalizedAlert → Option Flow
  | [] => none
  | alert :: tasks => some (.task .setRunning alert tasks)

def nextRow : List BuiltAlert → List NormalizedAlert → Option Flow
  | [], tasks => nextTask tasks
  | x :: rows, tasks => some (.intake .putAlert x rows tasks)

/-- One await, and what is awaited next. What it raises ends the request, or the task and
those after it. The bookkeeping of `_run_triage_background` calls nothing that raises. -/
def Flow.perform (deps : TriageDeps) (e : StepEnv) : Flow → ApiIo (Option Flow)
  | .intake .putAlert x rows tasks => do
      putAlert deps.persistence deps.alertCodec e.outcome x.alert.toNormalizedAlert
      return some (.intake .setQueued x rows tasks)
  | .intake .setQueued x rows tasks => do
      setJob deps.persistence e.outcome x.alert.alertId .queued none
      return some (.intake .recordRaw x rows tasks)
  | .intake .recordRaw x rows tasks => do
      onWorld (recordRawPayload deps.audit e.outcome x.alert.alertId x.payload)
      -- `_dispatch_triage` adds the task and awaits nothing
      return nextRow rows (tasks ++ [x.alert.toNormalizedAlert])
  | .task .setRunning alert tasks => do
      setJob deps.persistence e.outcome alert.alertId .running none
      return some (.task .triage alert tasks)
  | .task .triage alert tasks =>
      Run.tryExcept
        (do
          let verdict ← awaitRun (runTriage deps.pipeline alert none ⟨false, e.answers, none⟩)
          return some (.task (.putVerdict verdict) alert tasks))
        (fun x => return some (.task (.setFailed x.text) alert tasks))
  | .task (.putVerdict verdict) alert tasks =>
      Run.tryExcept
        (do
          onWorld (putVerdict deps.persistence deps.verdictCodec e.outcome alert.alertId verdict)
          return some (.task .setComplete alert tasks))
        (fun x => return some (.task (.setFailed x.text) alert tasks))
  | .task .setComplete alert tasks =>
      Run.tryExcept
        (do
          setJob deps.persistence e.outcome alert.alertId .complete none
          return nextTask tasks)
        (fun x => return some (.task (.setFailed x.text) alert tasks))
  | .task (.setFailed error) alert tasks => do
      setJob deps.persistence e.outcome alert.alertId .failed (some error)
      return nextTask tasks

/-- What is noted of runs: `run_triage` is called for the alert, or the task fails. -/
inductive RunEvent where
  | started (alertId : String)
  | failed (alertId : String)
deriving DecidableEq, Repr

/-- What a flow comes to. -/
def runEvents : Option Flow → List RunEvent
  | some (.task .triage alert _) => [.started alert.alertId]
  | some (.task (.setFailed _) alert _) => [.failed alert.alertId]
  | _ => []

/-- The process: the stores, what is under way, and what was noted, the latest first. -/
structure TriageProcess where
  api : ApiWorld
  flows : List Flow
  runs : List RunEvent

inductive TriageLabel where
  -- a request has built its alerts
  | arrive (rows : List BuiltAlert)
  -- the `i`-th flow goes on
  | go (i : ℕ) (e : StepEnv)

/-- One step of the process, which lives on. -/
def triageStep (deps : TriageDeps) (s : TriageProcess) : TriageLabel → Option TriageProcess
  | .arrive rows => some { s with flows := s.flows ++ (nextRow rows []).toList }
  | .go i e =>
      match s.flows[i]? with
      | none => none
      | some f =>
          match f.perform deps e s.api with
          | (.ok next, api) =>
              some ⟨api, s.flows.take i ++ next.toList ++ s.flows.drop (i + 1),
                runEvents next ++ s.runs⟩
          | (.error (.exception _), api) =>
              some ⟨api, s.flows.take i ++ s.flows.drop (i + 1), s.runs⟩
          | (.error .kill, _) => none

def triageJobs (deps : TriageDeps) : System TriageProcess TriageLabel where
  start s := s.flows = [] ∧ s.runs = []
  step := triageStep deps

variable {deps : TriageDeps} {e : StepEnv} {s s' : TriageProcess} {a a' : ApiWorld}

/-! ## §2  What a step does -/

/-- The stage lies within the `try`. -/
def TaskStage.isGuarded : TaskStage → Bool
  | .triage => true
  | .putVerdict _ => true
  | .setComplete => true
  | _ => false

/-- Where a flow can go on to. -/
inductive Next : Flow → Option Flow → Prop where
  | put (x rows tasks) :
      Next (.intake .putAlert x rows tasks) (some (.intake .setQueued x rows tasks))
  | queued (x rows tasks) :
      Next (.intake .setQueued x rows tasks) (some (.intake .recordRaw x rows tasks))
  | dispatched (x rows tasks) :
      Next (.intake .recordRaw x rows tasks)
        (nextRow rows (tasks ++ [x.alert.toNormalizedAlert]))
  | started (alert tasks) :
      Next (.task .setRunning alert tasks) (some (.task .triage alert tasks))
  | decided (alert tasks verdict) :
      Next (.task .triage alert tasks) (some (.task (.putVerdict verdict) alert tasks))
  | stored (alert tasks verdict) :
      Next (.task (.putVerdict verdict) alert tasks) (some (.task .setComplete alert tasks))
  | completed (alert tasks) : Next (.task .setComplete alert tasks) (nextTask tasks)
  | caught (stage alert tasks error) (h : stage.isGuarded = true) :
      Next (.task stage alert tasks) (some (.task (.setFailed error) alert tasks))
  | failed (alert tasks error) : Next (.task (.setFailed error) alert tasks) (nextTask tasks)

/-- A flow that goes on goes on to one of these. -/
theorem perform_next (f : Flow) : Run.Returns (Next f) (f.perform deps e) := by
  have hany {α : Type} (x : ApiIo α) : Run.Returns (fun _ => True) x :=
    fun _ _ _ _ => trivial
  cases f with
  | intake stage x rows tasks =>
      cases stage with
      | putAlert => exact (hany _).bind fun _ _ => .pure (.put x rows tasks)
      | setQueued => exact (hany _).bind fun _ _ => .pure (.queued x rows tasks)
      | recordRaw => exact (hany _).bind fun _ _ => .pure (.dispatched x rows tasks)
  | task stage alert tasks =>
      cases stage with
      | setRunning => exact (hany _).bind fun _ _ => .pure (.started alert tasks)
      | triage =>
          apply Run.Returns.tryExcept
          · exact (hany _).bind fun verdict _ => .pure (.decided alert tasks verdict)
          · exact fun x => .pure (.caught .triage alert tasks x.text rfl)
      | putVerdict verdict =>
          apply Run.Returns.tryExcept
          · exact (hany _).bind fun _ _ => .pure (.stored alert tasks verdict)
          · exact fun x => .pure (.caught (.putVerdict verdict) alert tasks x.text rfl)
      | setComplete =>
          apply Run.Returns.tryExcept
          · exact (hany _).bind fun _ _ => .pure (.completed alert tasks)
          · exact fun x => .pure (.caught .setComplete alert tasks x.text rfl)
      | setFailed error => exact (hany _).bind fun _ _ => .pure (.failed alert tasks error)

/-- How the process can go on, the `i`-th flow being `f`. -/
inductive Moves (deps : TriageDeps) (s s' : TriageProcess) (i : ℕ) (e : StepEnv) (f : Flow) :
    Prop where
  | on (next : Option Flow) (hnext : Next f next)
      (hperform : f.perform deps e s.api = (.ok next, s'.api))
      (hflows : s'.flows = s.flows.take i ++ next.toList ++ s.flows.drop (i + 1))
      (hruns : s'.runs = runEvents next ++ s.runs)
  | givenUp (x : ApiExn)
      (hperform : f.perform deps e s.api = (.error (.exception x), s'.api))
      (hflows : s'.flows = s.flows.take i ++ s.flows.drop (i + 1))
      (hruns : s'.runs = s.runs)

theorem go_cases {i : ℕ} (h : (triageJobs deps).step s (.go i e) = some s') :
    ∃ f, s.flows[i]? = some f ∧ Moves deps s s' i e f := by
  simp only [triageJobs, triageStep] at h
  split at h
  · cases h
  · rename_i f hf
    refine ⟨f, hf, ?_⟩
    split at h
    · rename_i next api hperform
      obtain rfl := Option.some.inj h
      exact .on next (perform_next f _ _ _ hperform) hperform rfl rfl
    · rename_i x api hperform
      obtain rfl := Option.some.inj h
      exact .givenUp x hperform rfl rfl
    · cases h

/-- The flows, with the `i`-th in its place. -/
theorem flows_split {flows : List Flow} {i : ℕ} {f : Flow} (h : flows[i]? = some f) :
    flows = flows.take i ++ f :: flows.drop (i + 1) := by
  obtain ⟨hi, rfl⟩ := List.getElem?_eq_some_iff.mp h
  rw [← List.drop_eq_getElem_cons hi, List.take_append_drop]

/-- With the NATS path off, `_dispatch_triage` adds the task and calls nothing. -/
theorem dispatchTriage_inProcess {deps : IngestDeps} (h : deps.settings.ingestViaNats = false)
    (e : EnqueueEnv) (alert : NormalizedAlert) :
    dispatchTriage deps e alert = Pure.pure [alert] := by
  unfold dispatchTriage offerToNats
  rw [h]
  rfl

/-- The awaits of an alert, one after the other and nothing between them, are its intake. -/
theorem intake_awaits {deps : TriageDeps} (h : deps.settings.ingestViaNats = false)
    (e : IntakeEnv) (x : BuiltAlert) (rows : List BuiltAlert) (tasks : List NormalizedAlert) :
    (do
      let _ ← Flow.perform deps ⟨e.putAlert, []⟩ (.intake .putAlert x rows tasks)
      let _ ← Flow.perform deps ⟨e.setJob, []⟩ (.intake .setQueued x rows tasks)
      Flow.perform deps ⟨e.audit, []⟩ (.intake .recordRaw x rows tasks)) =
    (do
      let added ← intake deps.toIngestDeps e x
      return nextRow rows (tasks ++ added)) := by
  funext a
  unfold intake
  simp only [Flow.perform, dispatchTriage_inProcess h, Run.bind_apply]
  rcases putAlert deps.persistence deps.alertCodec e.putAlert x.alert.toNormalizedAlert a with
    ⟨r₁, a₁⟩
  cases r₁ with
  | error u => rfl
  | ok _ =>
      dsimp only [Run.pure_apply]
      rcases setJob deps.persistence e.setJob x.alert.alertId .queued none a₁ with ⟨r₂, a₂⟩
      cases r₂ with
      | error u => rfl
      | ok _ =>
          dsimp only [Run.pure_apply]
          rcases onWorld (recordRawPayload deps.audit e.audit x.alert.alertId x.payload) a₂ with
            ⟨r₃, a₃⟩
          cases r₃ <;> rfl

/-! ## §3  Runs of one alert -/

/-- The tasks of the alert that have not begun their run. -/
def Flow.waiting (alertId : String) : Flow → ℕ
  | .intake _ _ _ tasks => tasks.countP fun alert => alert.alertId == alertId
  | .task .setRunning alert tasks =>
      (alert :: tasks).countP fun alert => alert.alertId == alertId
  | .task _ _ tasks => tasks.countP fun alert => alert.alertId == alertId

/-- The alert of which the flow is about to add a task. -/
def Flow.dispatched : Flow → Option String
  | .intake .recordRaw x _ _ => some x.alert.alertId
  | _ => none

/-- The runs of the alert that have begun, and those that tasks wait to begin. -/
def TriageProcess.due (alertId : String) (s : TriageProcess) : ℕ :=
  (s.flows.map (Flow.waiting alertId)).sum + s.runs.count (.started alertId)

/-- No run of an alert is begun after another unless one of it has failed before. -/
def NotRepeated (runs : List RunEvent) : Prop :=
  ∀ later earlier alertId, runs = later ++ .started alertId :: earlier →
    .started alertId ∈ earlier → .failed alertId ∈ earlier

/-- An alert is dispatched only where no run of it is due, or one has failed. -/
def DispatchedOnce (s : TriageProcess) : TriageLabel → Prop
  | .arrive _ => True
  | .go i _ => ∀ f ∈ s.flows[i]?, ∀ alertId ∈ f.dispatched,
      s.due alertId = 0 ∨ .failed alertId ∈ s.runs

instance (s : TriageProcess) : (l : TriageLabel) → Decidable (DispatchedOnce s l)
  | .arrive _ => isTrue trivial
  | .go i _ => Option.decidableForallMem s.flows[i]?

/-- The waiting tasks of what comes next. -/
def waitingNext (alertId : String) (next : Option Flow) : ℕ :=
  (next.toList.map (Flow.waiting alertId)).sum

theorem waitingNext_some (alertId : String) (f : Flow) :
    waitingNext alertId (some f) = f.waiting alertId := by
  simp [waitingNext]

theorem waiting_nextTask (alertId : String) (tasks : List NormalizedAlert) :
    waitingNext alertId (nextTask tasks) =
      tasks.countP fun alert => alert.alertId == alertId := by
  cases tasks <;> simp [nextTask, waitingNext, Flow.waiting]

theorem runEvents_nextTask (tasks : List NormalizedAlert) : runEvents (nextTask tasks) = [] := by
  cases tasks <;> rfl

theorem waiting_nextRow (alertId : String) (rows : List BuiltAlert)
    (tasks : List NormalizedAlert) :
    waitingNext alertId (nextRow rows tasks) =
      tasks.countP fun alert => alert.alertId == alertId := by
  cases rows with
  | nil => exact waiting_nextTask alertId tasks
  | cons x rows => simp [nextRow, waitingNext, Flow.waiting]

theorem runEvents_nextRow (rows : List BuiltAlert) (tasks : List NormalizedAlert) :
    runEvents (nextRow rows tasks) = [] := by
  cases rows with
  | nil => exact runEvents_nextTask tasks
  | cons x rows => rfl

/-- A flow that goes on turns waiting tasks into runs, and adds a task only where it
dispatches. -/
theorem Next.due {f : Flow} {next : Option Flow} (h : Next f next) (alertId : String) :
    waitingNext alertId next + (runEvents next).count (.started alertId) =
      f.waiting alertId + if f.dispatched = some alertId then 1 else 0 := by
  cases h with
  | put x rows tasks => simp [waitingNext_some, runEvents, Flow.waiting, Flow.dispatched]
  | queued x rows tasks => simp [waitingNext_some, runEvents, Flow.waiting, Flow.dispatched]
  | dispatched x rows tasks =>
      rw [waiting_nextRow, runEvents_nextRow, List.countP_append]
      simp [Flow.waiting, Flow.dispatched]
  | started alert tasks =>
      simp [waitingNext_some, runEvents, Flow.waiting, Flow.dispatched, List.countP_cons,
        List.count_cons]
  | decided alert tasks verdict =>
      simp [waitingNext_some, runEvents, Flow.waiting, Flow.dispatched]
  | stored alert tasks verdict =>
      simp [waitingNext_some, runEvents, Flow.waiting, Flow.dispatched]
  | completed alert tasks =>
      rw [waiting_nextTask, runEvents_nextTask]
      simp [Flow.waiting, Flow.dispatched]
  | caught stage alert tasks error hguarded =>
      cases stage with
      | setRunning => cases hguarded
      | _ => simp [waitingNext_some, runEvents, Flow.waiting, Flow.dispatched]
  | failed alert tasks error =>
      rw [waiting_nextTask, runEvents_nextTask]
      simp [Flow.waiting, Flow.dispatched]

/-- The waiting tasks of all flows, with the `i`-th apart. -/
theorem sum_waiting {flows : List Flow} {i : ℕ} {f : Flow} (h : flows[i]? = some f)
    (alertId : String) :
    (flows.map (Flow.waiting alertId)).sum =
      ((flows.take i).map (Flow.waiting alertId)).sum + f.waiting alertId +
        ((flows.drop (i + 1)).map (Flow.waiting alertId)).sum := by
  conv_lhs => rw [flows_split h]
  rw [List.map_append, List.sum_append, List.map_cons, List.sum_cons]
  omega

/-- A flow that goes on makes a run due only where it dispatches. -/
theorem due_on {i : ℕ} {f : Flow} {next : Option Flow} (hf : s.flows[i]? = some f)
    (hnext : Next f next)
    (hflows : s'.flows = s.flows.take i ++ next.toList ++ s.flows.drop (i + 1))
    (hruns : s'.runs = runEvents next ++ s.runs) (alertId : String) :
    s'.due alertId = s.due alertId + if f.dispatched = some alertId then 1 else 0 := by
  have hmoved := hnext.due alertId
  unfold TriageProcess.due
  rw [hflows, hruns, sum_waiting hf, List.map_append, List.map_append, List.sum_append,
    List.sum_append, List.count_append]
  show _ + waitingNext alertId next + _ + _ = _
  omega

theorem due_givenUp {i : ℕ} {f : Flow} (hf : s.flows[i]? = some f)
    (hflows : s'.flows = s.flows.take i ++ s.flows.drop (i + 1)) (hruns : s'.runs = s.runs)
    (alertId : String) : s'.due alertId ≤ s.due alertId := by
  unfold TriageProcess.due
  rw [hflows, hruns, sum_waiting hf, List.map_append, List.sum_append]
  omega

/-- What a run that meets the condition keeps: at most one run of an alert is due as long as
none has failed. -/
structure RunsInv (s : TriageProcess) : Prop where
  due : ∀ alertId, .failed alertId ∈ s.runs ∨ s.due alertId ≤ 1
  notRepeated : NotRepeated s.runs

/-- An event that begins no second run. -/
theorem NotRepeated.cons {runs : List RunEvent} (h : NotRepeated runs) {event : RunEvent}
    (hfirst : ∀ alertId, event = .started alertId → .started alertId ∈ runs →
      .failed alertId ∈ runs) : NotRepeated (event :: runs) := by
  intro later earlier alertId heq hmem
  cases later with
  | nil =>
      obtain ⟨rfl, rfl⟩ := List.cons.inj heq
      exact hfirst alertId rfl hmem
  | cons first later =>
      obtain ⟨-, htail⟩ := List.cons.inj heq
      exact h later earlier alertId htail hmem

theorem runEvents_cases (next : Option Flow) :
    runEvents next = [] ∨ ∃ event, runEvents next = [event] := by
  unfold runEvents
  split
  · exact .inr ⟨_, rfl⟩
  · exact .inr ⟨_, rfl⟩
  · exact .inl rfl

/-- **A step keeps the invariant.** -/
theorem RunsInv.step {l : TriageLabel} (h : RunsInv s) (hc : DispatchedOnce s l)
    (hstep : (triageJobs deps).step s l = some s') : RunsInv s' := by
  cases l with
  | arrive rows =>
      obtain rfl := Option.some.inj hstep
      have hsame (alertId : String) : TriageProcess.due alertId
          { s with flows := s.flows ++ (nextRow rows []).toList } = s.due alertId := by
        have hnone := waiting_nextRow alertId rows []
        unfold TriageProcess.due
        rw [List.map_append, List.sum_append]
        show _ + waitingNext alertId (nextRow rows []) + _ = _
        rw [hnone]
        rfl
      refine ⟨fun alertId => ?_, h.notRepeated⟩
      rw [hsame]
      exact h.due alertId
  | go i e =>
      obtain ⟨f, hf, hmoves⟩ := go_cases hstep
      cases hmoves with
      | givenUp x _ hflows hruns =>
          refine ⟨fun alertId => ?_, hruns ▸ h.notRepeated⟩
          rw [hruns]
          exact (h.due alertId).imp_right (due_givenUp hf hflows hruns alertId).trans
      | on next hnext _ hflows hruns =>
          have hdue := due_on hf hnext hflows hruns
          have hbound : ∀ alertId, .failed alertId ∈ s.runs ∨ s'.due alertId ≤ 1 := by
            intro alertId
            rw [hdue]
            by_cases hdispatch : f.dispatched = some alertId
            · rcases hc f hf alertId hdispatch with hnone | hfailed
              · exact .inr (by rw [hnone, if_pos hdispatch])
              · exact .inl hfailed
            · rw [if_neg hdispatch, Nat.add_zero]
              exact h.due alertId
          refine ⟨fun alertId => ?_, ?_⟩
          · rw [hruns]
            exact (hbound alertId).imp_left (List.mem_append_right _)
          · rcases runEvents_cases next with hnone | ⟨event, hone⟩
            · rw [hruns, hnone]
              exact h.notRepeated
            · rw [hruns, hone]
              refine h.notRepeated.cons fun alertId hevent hmem => ?_
              -- the run that begins now is one of those due, and so was the one before
              refine (hbound alertId).resolve_right fun hle => ?_
              have hcount := List.count_pos_iff.mpr hmem
              unfold TriageProcess.due at hle
              rw [hruns, hone, hevent, List.singleton_append, List.count_cons_self] at hle
              omega

/-- **Runs are not repeated** while every dispatch is of an alert of which no run is due, or
one has failed. -/
theorem runs_not_repeated {deps : TriageDeps} {s : TriageProcess}
    (h : (triageJobs deps).Reached DispatchedOnce s) : NotRepeated s.runs := by
  have hinv : RunsInv s := by
    apply h.invariant
    · rintro s ⟨hflows, hruns⟩
      constructor
      · intro alertId
        exact .inr (by simp [TriageProcess.due, hflows, hruns])
      · rw [hruns]
        intro later earlier alertId heq
        simp at heq
    · intro s l s' hs hc hstep
      exact hs.step hc hstep
  exact hinv.notRepeated

/-! ## §4  Runs for examples -/

/-- The stores are in memory, NATS is off, and one model is configured. -/
def plainTriage : TriageDeps where
  toIngestDeps := { plainIngest with toApiDeps := plainApi, runtime := none }
  pipeline := plainPipeline

/-- The alert of the examples, as a parser builds it. -/
def sampleBuilt : BuiltAlert where
  alert :=
    { toNormalizedAlert := sampleAlert
      sourceAlertId := none
      cloudRegion := none
      cloudAccountId := none
      process := none
      user := none
      mitreTactic := none
      detectionFinding := none
      rawPayload := [] }
  source := .generic
  payload := []

/-- The flow goes on, its call answered. -/
def goOn (i : ℕ) : TriageLabel := .go i ⟨.returned, []⟩

/-- `run_triage` returns a verdict; the local model's entities do not come and it raises. -/
def triageReturns (i : ℕ) : TriageLabel := .go i ⟨.returned, List.replicate 6 silentAnswers⟩

def triageRaises (i : ℕ) : TriageLabel :=
  .go i ⟨.returned, List.replicate 6 { silentAnswers with extractOllama := .empty }⟩

/-- One alert is taken in, and its run fails. -/
def failedJob : List TriageLabel :=
  [.arrive [sampleBuilt], goOn 0, goOn 0, goOn 0, goOn 0, triageRaises 0, goOn 0]

/-- One alert is taken in, and its run gives a verdict. -/
def doneJob : List TriageLabel :=
  [.arrive [sampleBuilt], goOn 0, goOn 0, goOn 0, goOn 0, triageReturns 0, goOn 0, goOn 0]

theorem retried_run_not_repeated :
    ∃ s, (triageJobs plainTriage).run ⟨.fresh, [], []⟩ (failedJob ++ doneJob) = some s ∧
      s.runs = [.started "a1", .failed "a1", .started "a1"] ∧ NotRepeated s.runs := by
  have hruns : ((triageJobs plainTriage).run ⟨.fresh, [], []⟩ (failedJob ++ doneJob)).map
      TriageProcess.runs = some [.started "a1", .failed "a1", .started "a1"] := by
    decide +kernel
  have hmeets : (triageJobs plainTriage).Meets DispatchedOnce ⟨.fresh, [], []⟩
      (failedJob ++ doneJob) := by
    decide +kernel
  obtain ⟨s, hrun, hs⟩ := Option.map_eq_some_iff.mp hruns
  exact ⟨s, hrun, hs, runs_not_repeated (hmeets.reached (.start ⟨rfl, rfl⟩) hrun)⟩

theorem duplicate_runs_again :
    ¬ ∀ (deps : TriageDeps) (s : TriageProcess), (triageJobs deps).Reachable s →
      NotRepeated s.runs := by
  intro h
  have hruns : ((triageJobs plainTriage).run ⟨.fresh, [], []⟩ (doneJob ++ doneJob)).map
      TriageProcess.runs = some [.started "a1", .started "a1"] := by
    decide +kernel
  obtain ⟨s, hrun, hs⟩ := Option.map_eq_some_iff.mp hruns
  have hreached : (triageJobs plainTriage).Reachable s :=
    System.reached_of_run (.start ⟨rfl, rfl⟩) hrun
  have hfailed := h plainTriage s hreached [] [.started "a1"] "a1" hs List.mem_cons_self
  exact absurd hfailed (by decide)

end AlertTriage
