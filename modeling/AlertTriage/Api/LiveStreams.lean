import AlertTriage.Api.JobRecords

/-!
# Streams next to the tasks

`GET /stream` looks at the verdict of an alert and then at its job, four times a second,
while requests and tasks go on writing them. What a stream says comes of the runs of its own
alert (`streams_report_runs`). The two are read one after the other, so a stream may come to
say `complete` before it has a verdict to send; it says so at most once, and then only the
last event follows (`complete_phase_last`).
-/

namespace AlertTriage

open Library

/-! ## §1  The generator of a stream -/

/-- What `event_gen` awaits next; `left`: the ticks behind this one. -/
inductive GenPoint where
  | opening
  | verdict (left : ℕ)
  | job (left : ℕ)
  | asleep (left : ℕ)
  | closed
deriving DecidableEq, Repr

/-- A run of `event_gen`, with the events it has yielded. -/
structure EventGen where
  alertId : String
  point : GenPoint
  sent : List StreamEvent

namespace EventGen

/-- `yield`, and what is awaited next. -/
def send (event : StreamEvent) (point : GenPoint) (g : EventGen) : EventGen :=
  { g with point := point, sent := g.sent ++ [event] }

/-- The loop of the ticks, with so many of them left. -/
def turn (g : EventGen) : ℕ → EventGen
  | 0 => g.send .timeout .closed
  | left + 1 => { g with point := .verdict left }

/-- One await, up to the next. What it raises is yielded. -/
def perform (deps : ApiDeps) (o : Outcome) (g : EventGen) : ApiIo EventGen :=
  match g.point with
  | .opening => return (g.send .opened .opening).turn 1200
  | .verdict left =>
      Run.tryExcept
        (do
          let verdict ← onWorld (getVerdict deps.persistence deps.verdictCodec o g.alertId)
          match verdict with
          | some verdict => return g.send (.complete (scrubVerdict deps.scrubString verdict)) .closed
          | none => return { g with point := .job left })
        (fun x => return g.send (.error x.text) .closed)
  | .job left =>
      Run.tryExcept
        (do
          let job ← getJob deps.persistence o g.alertId
          let fields ← Run.ofExcept (statusOf job)
          let status := getOr fields "status" .null
          if Json.asStr? status = some "failed" then
            return g.send (.failed (Json.lookup "error" fields)) .closed
          else
            return g.send (.phase (if status.truthy then status else .str "unknown"))
              (.asleep left))
        (fun x => return g.send (.error x.text) .closed)
  | .asleep left => return g.turn left
  | .closed => return g

end EventGen

/-- The process with its streams. -/
structure StreamedJobs where
  jobs : TriageProcess
  gens : List EventGen

inductive StreamLabel where
  /-- A request or a task of the process goes on. -/
  | jobs (l : TriageLabel)
  /-- `GET /stream/{alert_id}`. -/
  | request (alertId : String) (r : HttpRequest)
  | go (i : ℕ) (o : Outcome)
  /-- The client is gone, and the generator with it. -/
  | leave (i : ℕ)

def streamStep (deps : TriageDeps) (s : StreamedJobs) : StreamLabel → Option StreamedJobs
  | .jobs l => (triageStep deps s.jobs l).map fun jobs => { s with jobs := jobs }
  | .request alertId r =>
      match (validateApiKey deps.settings r s.jobs.api).1 with
      | .ok () => some { s with gens := s.gens ++ [⟨alertId, .opening, []⟩] }
      | .error _ => some s
  | .go i o =>
      match s.gens[i]? with
      | none => none
      | some g =>
          match g.perform deps.toApiDeps o s.jobs.api with
          | (.ok g', api) => some ⟨{ s.jobs with api := api }, s.gens.set i g'⟩
          | (.error _, _) => none
  | .leave i =>
      (s.gens[i]?).map fun g => { s with gens := s.gens.set i { g with point := .closed } }

/-- Streams and jobs over the stores as earlier processes have left them. -/
def streamedJobs (deps : TriageDeps) : System StreamedJobs StreamLabel where
  start s := s.gens = [] ∧ s.jobs.flows = [] ∧ s.jobs.runs = [] ∧
    ∃ records, StoresHold deps.toApiDeps records s.jobs.api
  step := streamStep deps

variable {deps : TriageDeps}

/-! ## §2  What a step does to the records -/

/-- How a request or a task goes on, and what becomes of the records. -/
inductive RecordMove (deps : TriageDeps) (s s' : TriageProcess) (records : Records) :
    TriageLabel → Records → Prop where
  | arrive (rows : List BuiltAlert) (hflows : s'.flows = s.flows ++ (nextRow rows []).toList) :
      RecordMove deps s s' records (.arrive rows) records
  | wrote (i : ℕ) (e : StepEnv) (f : Flow) (next : Option Flow) (hf : s.flows[i]? = some f)
      (hnext : Next f next) (hperform : (f.perform deps e s.api).1 = .ok next)
      (hflows : s'.flows = s.flows.take i ++ next.toList ++ s.flows.drop (i + 1)) :
      RecordMove deps s s' records (.go i e) (f.writes records)
  | caught (i : ℕ) (e : StepEnv) (f : Flow) (next : Option Flow) (hf : s.flows[i]? = some f)
      (hcaught : Caught next) (hperform : (f.perform deps e s.api).1 = .ok next)
      (hflows : s'.flows = s.flows.take i ++ next.toList ++ s.flows.drop (i + 1)) :
      RecordMove deps s s' records (.go i e) records
  | givenUp (i : ℕ) (e : StepEnv) (f : Flow) (hf : s.flows[i]? = some f)
      (hguard : f.guarded = false)
      (hflows : s'.flows = s.flows.take i ++ s.flows.drop (i + 1)) :
      RecordMove deps s s' records (.go i e)
        (if e.outcome.applied then f.writes records else records)

/-- **A step of the process** writes what its call writes, or nothing. -/
theorem recordMove {s s' : TriageProcess} {records : Records} {l : TriageLabel}
    (hon : StoresHold deps.toApiDeps records s.api) (hstep : triageStep deps s l = some s') :
    ∃ records', StoresHold deps.toApiDeps records' s'.api ∧
      RecordMove deps s s' records l records' := by
  cases l with
  | arrive rows =>
      obtain rfl := Option.some.inj hstep
      exact ⟨records, hon, .arrive rows rfl⟩
  | go i e =>
      obtain ⟨f, hf, hmoves⟩ := go_cases hstep
      cases hmoves with
      | on next hnext hperform hflows hruns =>
          have hok : (f.perform deps e s.api).1 = .ok next := congrArg Prod.fst hperform
          cases perform_storesHold hon (e := e) (f := f) with
          | wrote next' a' hdone hon =>
              rw [hperform] at hdone
              obtain ⟨-, rfl⟩ := Prod.mk.inj hdone
              exact ⟨_, hon, .wrote i e f next hf hnext hok hflows⟩
          | caught next' a' hcaught hdone hon =>
              rw [hperform] at hdone
              obtain ⟨hsame, rfl⟩ := Prod.mk.inj hdone
              obtain rfl : next = next' := Except.ok.inj hsame
              exact ⟨_, hon, .caught i e f next hf hcaught hok hflows⟩
          | raised u a' hdone hon =>
              rw [hperform] at hdone
              cases (Prod.mk.inj hdone).1
          | died a' hdone =>
              rw [hperform] at hdone
              cases (Prod.mk.inj hdone).1
      | givenUp x hperform hflows hruns =>
          cases perform_storesHold hon (e := e) (f := f) with
          | wrote next' a' hdone hon =>
              rw [hperform] at hdone
              cases (Prod.mk.inj hdone).1
          | caught next' a' hcaught hdone hon =>
              rw [hperform] at hdone
              cases (Prod.mk.inj hdone).1
          | raised u a' hdone hon =>
              rw [hperform] at hdone
              obtain ⟨-, rfl⟩ := Prod.mk.inj hdone
              exact ⟨_, hon, .givenUp i e f hf (not_guarded_of_exception hperform) hflows⟩
          | died a' hdone =>
              rw [hperform] at hdone
              cases (Prod.mk.inj hdone).1

/-! ## §3  What a stream sends -/

/-- The word for a status, and for none. -/
def phaseText : Option JobStatus → String
  | some status => status.value
  | none => "unknown"

/-- How a stream goes on that finds these records. -/
inductive GenMove (deps : ApiDeps) (records : Records) (g : EventGen) : EventGen → Prop where
  | opened (hpoint : g.point = .opening) :
      GenMove deps records g ((g.send .opened .opening).turn 1200)
  | complete (left : ℕ) (verdict : TriageVerdict) (hpoint : g.point = .verdict left)
      (hread : records.verdict g.alertId = some verdict) :
      GenMove deps records g (g.send (.complete (scrubVerdict deps.scrubString verdict)) .closed)
  | noVerdict (left : ℕ) (hpoint : g.point = .verdict left)
      (hread : records.verdict g.alertId = none) :
      GenMove deps records g { g with point := .job left }
  | failed (left : ℕ) (error : Option String) (hpoint : g.point = .job left)
      (hread : records.job g.alertId = some (.failed, error)) :
      GenMove deps records g (g.send (.failed (some (optionalText error))) .closed)
  | phase (left : ℕ) (status : Option JobStatus) (hpoint : g.point = .job left)
      (hread : statusSays (records.job g.alertId) = status) (hother : status ≠ some .failed) :
      GenMove deps records g (g.send (.phase (.str (phaseText status))) (.asleep left))
  | raised (text : String) (hpoint : ∀ left, g.point ≠ .asleep left) (hopen : g.point ≠ .opening)
      (hgoing : g.point ≠ .closed) : GenMove deps records g (g.send (.error text) .closed)
  | turned (left : ℕ) (hpoint : g.point = .asleep left) : GenMove deps records g (g.turn left)
  | closed (hpoint : g.point = .closed) : GenMove deps records g g

theorem getVerdict_read {d : ApiDeps} {records : Records} {o : Outcome} {alertId : String}
    {a a' : ApiWorld} {found : Option TriageVerdict}
    (h : onWorld (getVerdict d.persistence d.verdictCodec o alertId) a = (.ok found, a'))
    (hon : StoresHold d records a) : found = records.verdict alertId := by
  obtain ⟨w, hw, -⟩ := Run.focus_eq_ok h
  have hread := verdictOf_of_getVerdict hw
  rw [(hon alertId).verdict] at hread
  exact (Except.ok.inj hread).symm

theorem getJob_read {d : ApiDeps} {records : Records} {o : Outcome} {alertId : String}
    {a a' : ApiWorld} {job : Option Json}
    (h : getJob d.persistence o alertId a = (.ok job, a')) (hon : StoresHold d records a) :
    job = (records.job alertId).map fun j => .obj (jobRecord j.1 j.2) := by
  have hjob := (hon alertId).job
  unfold getJob at h
  unfold jobOf at hjob
  split at h
  · rename_i hredis
    rw [if_pos hredis] at hjob
    obtain ⟨w, hw, -⟩ := Run.focus_eq_ok h
    obtain ⟨raw, w', hraw, hw⟩ := Run.bind_eq_ok hw
    cases o with
    | returned =>
        obtain rfl : a.world.lookup (jobKey alertId) = raw :=
          Except.ok.inj (congrArg Prod.fst hraw)
        rw [hjob] at hw
        exact (Except.ok.inj (congrArg Prod.fst hw)).symm
    | raised b => cases congrArg Prod.fst hraw
    | killed b => cases congrArg Prod.fst hraw
  · rename_i hmemory
    rw [if_neg hmemory] at hjob
    rw [← Except.ok.inj hjob]
    exact (Except.ok.inj (congrArg Prod.fst h)).symm

/-- A stream reads and writes nothing. -/
theorem EventGen.perform_reads (d : ApiDeps) (o : Outcome) (g : EventGen) (a : ApiWorld) :
    (g.perform d o a).2 = a := by
  have hworld {α : Type} {x : Io α} (hx : ∀ w, Run.Keeps (· = w) x) :
      Run.Keeps (· = a) (onWorld x) :=
    Run.Keeps.focus (hx a.world) (by rintro _ rfl; rfl) (by rintro _ _ rfl rfl; rfl)
  have hverdict : Run.Keeps (· = a)
      (onWorld (getVerdict d.persistence d.verdictCodec o g.alertId)) := by
    refine hworld fun w => ?_
    unfold getVerdict
    split
    · exact Run.Keeps.bind (keeps_redisGet _ _) fun raw => Run.Keeps.ofExcept _
    · exact Run.Keeps.bind Run.Keeps.get fun w => Run.Keeps.pure _
  have hjob : Run.Keeps (· = a) (getJob d.persistence o g.alertId) := by
    unfold getJob
    split
    · exact hworld fun w => Run.Keeps.bind (keeps_redisGet _ _) fun raw => Run.Keeps.ofExcept _
    · exact Run.Keeps.bind Run.Keeps.get fun w => Run.Keeps.pure _
  suffices hkeeps : Run.Keeps (· = a) (g.perform d o) from hkeeps a rfl
  unfold EventGen.perform
  split
  · exact Run.Keeps.pure _
  · refine Run.Keeps.tryExcept (Run.Keeps.bind hverdict fun found => ?_) fun x => Run.Keeps.pure _
    cases found with
    | none => exact Run.Keeps.pure _
    | some verdict => exact Run.Keeps.pure _
  · refine Run.Keeps.tryExcept (Run.Keeps.bind hjob fun job => ?_) fun x => Run.Keeps.pure _
    refine Run.Keeps.bind (Run.Keeps.ofExcept _) fun fields => ?_
    dsimp only
    split
    · exact Run.Keeps.pure _
    · exact Run.Keeps.pure _
  · exact Run.Keeps.pure _
  · exact Run.Keeps.pure _

/-- **A step of a stream**, by the records that it reads. -/
theorem EventGen.perform_move {d : ApiDeps} {records : Records} {o : Outcome} {g g' : EventGen}
    {a a' : ApiWorld} (hon : StoresHold d records a) (h : g.perform d o a = (.ok g', a')) :
    GenMove d records g g' := by
  unfold EventGen.perform at h
  generalize hpoint : g.point = point at h
  cases point with
  | opening =>
      obtain rfl := Except.ok.inj (congrArg Prod.fst h)
      exact .opened hpoint
  | verdict left =>
      rcases Run.tryExcept_eq_ok h with h | ⟨x, a₁, -, h⟩
      · obtain ⟨found, a₁, hfound, h⟩ := Run.bind_eq_ok h
        have hread := getVerdict_read hfound hon
        cases found with
        | none =>
            obtain rfl := Except.ok.inj (congrArg Prod.fst h)
            exact .noVerdict left hpoint hread.symm
        | some verdict =>
            obtain rfl := Except.ok.inj (congrArg Prod.fst h)
            exact .complete left verdict hpoint hread.symm
      · obtain rfl := Except.ok.inj (congrArg Prod.fst h)
        exact .raised _ (by simp [hpoint]) (by simp [hpoint]) (by simp [hpoint])
  | job left =>
      rcases Run.tryExcept_eq_ok h with h | ⟨x, a₁, -, h⟩
      · obtain ⟨job, a₁, hjob, h⟩ := Run.bind_eq_ok h
        obtain ⟨fields, a₂, hfields, h⟩ := Run.bind_eq_ok h
        have hread := getJob_read hjob hon
        rw [hread, statusOf_jobRecord] at hfields
        obtain rfl := Except.ok.inj (congrArg Prod.fst hfields)
        cases hrecord : records.job g.alertId with
        | none =>
            rw [hrecord] at h
            obtain rfl := Except.ok.inj (congrArg Prod.fst h)
            exact .phase left none hpoint (by rw [hrecord]; rfl) (by simp)
        | some j =>
            obtain ⟨status, error⟩ := j
            rw [hrecord] at h
            cases status with
            | failed =>
                obtain rfl := Except.ok.inj (congrArg Prod.fst h)
                exact .failed left error hpoint hrecord
            | _ =>
                obtain rfl := Except.ok.inj (congrArg Prod.fst h)
                exact .phase left (some _) hpoint (by rw [hrecord]; rfl) (by simp)
      · obtain rfl := Except.ok.inj (congrArg Prod.fst h)
        exact .raised _ (by simp [hpoint]) (by simp [hpoint]) (by simp [hpoint])
  | asleep left =>
      obtain rfl := Except.ok.inj (congrArg Prod.fst h)
      exact .turned left hpoint
  | closed =>
      obtain rfl := Except.ok.inj (congrArg Prod.fst h)
      exact .closed hpoint

/-! ## §4  The events of a stream -/

/-- What a stream sends that finds these statuses, one a tick. -/
def said (statuses : List (Option JobStatus)) : List StreamEvent :=
  .opened :: statuses.map fun status => .phase (.str (phaseText status))

def StreamEvent.isLast : StreamEvent → Bool
  | .opened => false
  | .phase _ => false
  | _ => true

/-- The phases sent and the ticks left are the 1200 of a stream. -/
def GenPoint.Adds (phases : ℕ) : GenPoint → Prop
  | .opening => False
  | .verdict left => phases + left + 1 = 1200
  | .job left => phases + left + 1 = 1200
  | .asleep left => phases + left = 1200
  | .closed => phases ≤ 1200

theorem GenPoint.Adds.le {phases : ℕ} {point : GenPoint} (h : point.Adds phases) :
    phases ≤ 1200 := by
  cases point with
  | opening => exact h.elim
  | closed => exact h
  | _ =>
      simp only [GenPoint.Adds] at h
      omega

namespace EventGen

/-- First the opening, then the phases, none of them a failure, and at most one last event,
with which the stream ends. -/
def Shaped (g : EventGen) : Prop :=
  g.sent = [] ∧ (g.point = .opening ∨ g.point = .closed) ∨
    ∃ (statuses : List (Option JobStatus)) (last : Option StreamEvent),
      g.sent = said statuses ++ last.toList ∧ some .failed ∉ statuses ∧
      g.point.Adds statuses.length ∧
      ∀ event ∈ last, event.isLast = true ∧ g.point = .closed ∧
        (event = .timeout → statuses.length = 1200)

/-- What a stream reports is `Decided` and `Failed` of its own alert. -/
structure Reports (d : ApiDeps) (Decided : String → TriageVerdict → Prop)
    (Failed : String → Option String → Prop) (g : EventGen) : Prop where
  shaped : g.Shaped
  complete : ∀ shown, .complete shown ∈ g.sent →
    ∃ verdict, shown = scrubVerdict d.scrubString verdict ∧ Decided g.alertId verdict
  failed : ∀ error, .failed error ∈ g.sent →
    ∃ text, error = some (optionalText text) ∧ Failed g.alertId text

variable {g g' : EventGen}

/-- A stream between its opening and its end has sent phases alone. -/
theorem Shaped.going (h : g.Shaped) (hopen : g.point ≠ .opening) (hgoing : g.point ≠ .closed) :
    ∃ statuses, g.sent = said statuses ∧ some .failed ∉ statuses ∧
      g.point.Adds statuses.length := by
  rcases h with ⟨-, hpoint | hpoint⟩ | ⟨statuses, last, hsent, hfailed, hadds, hlast⟩
  · exact absurd hpoint hopen
  · exact absurd hpoint hgoing
  · cases last with
    | none => exact ⟨statuses, by simpa using hsent, hfailed, hadds⟩
    | some event => exact absurd (hlast event rfl).2.1 hgoing

/-- The last event. -/
theorem shaped_last {statuses : List (Option JobStatus)} {event : StreamEvent}
    (hsent : g.sent = said statuses) (hfailed : some .failed ∉ statuses)
    (hle : statuses.length ≤ 1200) (hlast : event.isLast = true)
    (htimeout : event = .timeout → statuses.length = 1200) : (g.send event .closed).Shaped := by
  refine .inr ⟨statuses, some event, ?_, hfailed, hle, ?_⟩
  · simp [send, hsent]
  · rintro _ ⟨⟩
    exact ⟨hlast, rfl, htimeout⟩

/-- The next tick, or the end after the last one. -/
theorem shaped_turn {statuses : List (Option JobStatus)} {left : ℕ}
    (hsent : g.sent = said statuses) (hfailed : some .failed ∉ statuses)
    (hadds : statuses.length + left = 1200) : (g.turn left).Shaped := by
  cases left with
  | zero => exact shaped_last hsent hfailed (by omega) rfl fun _ => by omega
  | succ left =>
      refine .inr ⟨statuses, none, by simpa [turn] using hsent, hfailed, ?_, by simp⟩
      show statuses.length + left + 1 = 1200
      omega

/-- **A step keeps the shape.** -/
theorem Shaped.move {d : ApiDeps} {records : Records} (h : g.Shaped)
    (hmove : GenMove d records g g') : g'.Shaped := by
  cases hmove with
  | opened hpoint =>
      rcases h with ⟨hsent, -⟩ | ⟨statuses, last, -, -, hadds, -⟩
      · have hopened : (g.send .opened .opening).sent = said [] := by simp [send, hsent, said]
        exact shaped_turn hopened (by simp) rfl
      · rw [hpoint] at hadds
        exact hadds.elim
  | complete left verdict hpoint hread =>
      obtain ⟨statuses, hsent, hfailed, hadds⟩ := h.going (by simp [hpoint]) (by simp [hpoint])
      exact shaped_last hsent hfailed hadds.le rfl (by simp)
  | noVerdict left hpoint hread =>
      obtain ⟨statuses, hsent, hfailed, hadds⟩ := h.going (by simp [hpoint]) (by simp [hpoint])
      rw [hpoint] at hadds
      exact .inr ⟨statuses, none, by simpa using hsent, hfailed, hadds, by simp⟩
  | failed left error hpoint hread =>
      obtain ⟨statuses, hsent, hfailed, hadds⟩ := h.going (by simp [hpoint]) (by simp [hpoint])
      exact shaped_last hsent hfailed hadds.le rfl (by simp)
  | phase left status hpoint hread hother =>
      obtain ⟨statuses, hsent, hfailed, hadds⟩ := h.going (by simp [hpoint]) (by simp [hpoint])
      rw [hpoint] at hadds
      refine .inr ⟨statuses ++ [status], none, ?_, ?_, ?_, by simp⟩
      · simp [send, hsent, said]
      · simp [hfailed, Ne.symm hother]
      · simp only [GenPoint.Adds, send, List.length_append, List.length_singleton] at hadds ⊢
        omega
  | raised text hpoint hopen hgoing =>
      obtain ⟨statuses, hsent, hfailed, hadds⟩ := h.going hopen hgoing
      exact shaped_last hsent hfailed hadds.le rfl (by simp)
  | turned left hpoint =>
      obtain ⟨statuses, hsent, hfailed, hadds⟩ := h.going (by simp [hpoint]) (by simp [hpoint])
      rw [hpoint] at hadds
      exact shaped_turn hsent hfailed hadds
  | closed hpoint => exact h

/-- A stream that is left has sent what it has sent. -/
theorem Shaped.left (h : g.Shaped) : ({ g with point := .closed } : EventGen).Shaped := by
  rcases h with ⟨hsent, -⟩ | ⟨statuses, last, hsent, hfailed, hadds, hlast⟩
  · exact .inl ⟨hsent, .inr rfl⟩
  · refine .inr ⟨statuses, last, hsent, hfailed, hadds.le, fun event he => ?_⟩
    obtain ⟨hislast, -, htimeout⟩ := hlast event he
    exact ⟨hislast, rfl, htimeout⟩

end EventGen

/-! ## §5  What the events come of -/

/-- In this step `run_triage` returns the verdict for the alert. -/
def Decides (deps : TriageDeps) (alertId : String) (verdict : TriageVerdict)
    (s : StreamedJobs) : StreamLabel → Prop
  | .jobs (.go i e) => ∃ alert tasks, s.jobs.flows[i]? = some (.task .triage alert tasks) ∧
      alert.alertId = alertId ∧
      runTriage deps.pipeline alert none ⟨false, e.answers, none⟩ = .verdict verdict
  | _ => False

/-- In this step a task of the alert raises, with this text, what its handler catches. -/
def Fails (deps : TriageDeps) (alertId why : String) (s : StreamedJobs) : StreamLabel → Prop
  | .jobs (.go i e) => ∃ stage alert tasks, s.jobs.flows[i]? = some (.task stage alert tasks) ∧
      alert.alertId = alertId ∧
      ((Flow.task stage alert tasks).perform deps e s.jobs.api).1 =
        .ok (some (.task (.setFailed why) alert tasks))
  | _ => False

/-- What is awaited first for a task, and for a row. -/
theorem mem_nextTask {g : Flow} {tasks : List NormalizedAlert} (h : g ∈ (nextTask tasks).toList) :
    ∃ alert rest, g = .task .setRunning alert rest := by
  cases tasks with
  | nil => cases h
  | cons alert rest => exact ⟨alert, rest, by simpa [nextTask] using h⟩

theorem mem_nextRow {g : Flow} {rows : List BuiltAlert} {tasks : List NormalizedAlert}
    (h : g ∈ (nextRow rows tasks).toList) :
    (∃ alert rest, g = .task .setRunning alert rest) ∨
      ∃ x rest, g = .intake .putAlert x rest tasks := by
  cases rows with
  | nil => exact .inl (mem_nextTask h)
  | cons x rest => exact .inr ⟨x, rest, by simpa [nextRow] using h⟩

variable {f : Flow} {next : Option Flow} {alert : NormalizedAlert} {tasks : List NormalizedAlert}
  {records records' : Records} {s s' : StreamedJobs}

/-- A task comes to store the verdict that its run has returned. -/
theorem decides_of_next {i : ℕ} {e : StepEnv} {verdict : TriageVerdict} (hnext : Next f next)
    (hf : s.jobs.flows[i]? = some f) (hperform : (f.perform deps e s.jobs.api).1 = .ok next)
    (hmem : .task (.putVerdict verdict) alert tasks ∈ next.toList) :
    Decides deps alert.alertId verdict s (.jobs (.go i e)) := by
  cases hnext with
  | decided alert' tasks' verdict' =>
      obtain ⟨hstage, rfl, rfl⟩ := Flow.task.inj (List.mem_singleton.mp hmem)
      obtain rfl := TaskStage.putVerdict.inj hstage
      refine ⟨alert, tasks, hf, rfl, ?_⟩
      cases hrun : runTriage deps.pipeline alert none ⟨false, e.answers, none⟩ with
      | verdict returned =>
          simp only [Flow.perform, Run.tryExcept, Run.bind_apply, awaitRun, hrun] at hperform
          obtain ⟨hstage, -, -⟩ := Flow.task.inj (Option.some.inj (Except.ok.inj hperform))
          exact congrArg _ (TaskStage.putVerdict.inj hstage)
      | raised =>
          simp only [Flow.perform, Run.tryExcept, Run.bind_apply, awaitRun, hrun] at hperform
          cases (Flow.task.inj (Option.some.inj (Except.ok.inj hperform))).1
      | killed =>
          simp only [Flow.perform, Run.tryExcept, Run.bind_apply, awaitRun, hrun] at hperform
          cases hperform
  | dispatched x rows tasks' =>
      rcases mem_nextRow hmem with ⟨alert', rest, heq⟩ | ⟨y, rest, heq⟩ <;> cases heq
  | completed alert' tasks' =>
      obtain ⟨alert', rest, heq⟩ := mem_nextTask hmem
      cases heq
  | failed alert' tasks' error =>
      obtain ⟨alert', rest, heq⟩ := mem_nextTask hmem
      cases heq
  | _ => simp at hmem

/-- A task comes to write a failure where it has just failed. -/
theorem fails_of_next {i : ℕ} {e : StepEnv} {why : String} (hnext : Next f next)
    (hf : s.jobs.flows[i]? = some f) (hperform : (f.perform deps e s.jobs.api).1 = .ok next)
    (hmem : .task (.setFailed why) alert tasks ∈ next.toList) :
    Fails deps alert.alertId why s (.jobs (.go i e)) := by
  cases hnext with
  | caught stage alert' tasks' error hguarded =>
      obtain ⟨hstage, rfl, rfl⟩ := Flow.task.inj (List.mem_singleton.mp hmem)
      obtain rfl := TaskStage.setFailed.inj hstage
      exact ⟨stage, alert, tasks, hf, rfl, hperform⟩
  | dispatched x rows tasks' =>
      rcases mem_nextRow hmem with ⟨alert', rest, heq⟩ | ⟨y, rest, heq⟩ <;> cases heq
  | completed alert' tasks' =>
      obtain ⟨alert', rest, heq⟩ := mem_nextTask hmem
      cases heq
  | failed alert' tasks' error =>
      obtain ⟨alert', rest, heq⟩ := mem_nextTask hmem
      cases heq
  | _ => simp at hmem

theorem verdict_writes {id : String} {verdict : TriageVerdict}
    (h : (f.writes records).verdict id = some verdict) :
    records.verdict id = some verdict ∨
      ∃ alert tasks, f = .task (.putVerdict verdict) alert tasks ∧ id = alert.alertId := by
  cases f with
  | intake stage x rows tasks => cases stage <;> exact .inl h
  | task stage alert tasks =>
      cases stage with
      | putVerdict stored =>
          have hread : (records.putVerdict alert.alertId stored).verdict id = some verdict := h
          rw [verdict_putVerdict] at hread
          split at hread
          · rename_i hid
            obtain rfl := Option.some.inj hread
            exact .inr ⟨alert, tasks, rfl, hid⟩
          · exact .inl hread
      | _ => exact .inl h

theorem failed_writes {id : String} {error : Option String}
    (h : (f.writes records).job id = some (.failed, error)) :
    records.job id = some (.failed, error) ∨
      ∃ why alert tasks, f = .task (.setFailed why) alert tasks ∧ id = alert.alertId ∧
        error = some why := by
  have hset {alertId : String} {status : JobStatus} {text : Option String}
      (hstatus : status ≠ .failed)
      (hread : (records.setJob alertId status text).job id = some (.failed, error)) :
      records.job id = some (.failed, error) := by
    by_cases hid : id = alertId
    · subst hid
      simp [Records.setJob, hstatus] at hread
    · simpa [Records.setJob, hid] using hread
  cases f with
  | intake stage x rows tasks =>
      cases stage with
      | setQueued => exact .inl (hset (by decide) h)
      | _ => exact .inl h
  | task stage alert tasks =>
      cases stage with
      | setRunning => exact .inl (hset (by decide) h)
      | setComplete => exact .inl (hset (by decide) h)
      | setFailed why =>
          by_cases hid : id = alert.alertId
          · subst hid
            simp [Flow.writes, Records.setJob] at h
            exact .inr ⟨why, alert, tasks, rfl, rfl, h.symm⟩
          · exact .inl (by simpa [Flow.writes, Records.setJob, hid] using h)
      | _ => exact .inl h

/-- Verdicts and failures, on record, under way and sent, are among `Decided` and `Failed`. -/
structure Backed (deps : TriageDeps) (Decided : String → TriageVerdict → Prop)
    (Failed : String → Option String → Prop) (records : Records) (s : StreamedJobs) : Prop where
  verdict : ∀ id verdict, records.verdict id = some verdict → Decided id verdict
  storing : ∀ verdict alert tasks, .task (.putVerdict verdict) alert tasks ∈ s.jobs.flows →
    Decided alert.alertId verdict
  failed : ∀ id error, records.job id = some (.failed, error) → Failed id error
  failing : ∀ why alert tasks, .task (.setFailed why) alert tasks ∈ s.jobs.flows →
    Failed alert.alertId (some why)
  sent : ∀ g ∈ s.gens, g.Reports deps.toApiDeps Decided Failed

variable {Decided : String → TriageVerdict → Prop} {Failed : String → Option String → Prop}

/-- The step decides and fails among them. -/
structure Backs (deps : TriageDeps) (Decided : String → TriageVerdict → Prop)
    (Failed : String → Option String → Prop) (s : StreamedJobs) (l : StreamLabel) : Prop where
  decided : ∀ id verdict, Decides deps id verdict s l → Decided id verdict
  failed : ∀ id why, Fails deps id why s l → Failed id (some why)

theorem Backed.jobs {l : TriageLabel} {jobs : TriageProcess}
    (h : Backed deps Decided Failed records s) (hc : Backs deps Decided Failed s (.jobs l))
    (hmove : RecordMove deps s.jobs jobs records l records') :
    Backed deps Decided Failed records' { s with jobs := jobs } := by
  obtain ⟨hverdict, hstoring, hfailed, hfailing, hsent⟩ := h
  have hdecided {f : Flow} (hf : f ∈ s.jobs.flows) (id : String) (verdict : TriageVerdict)
      (hid : (f.writes records).verdict id = some verdict) : Decided id verdict := by
    rcases verdict_writes hid with hold | ⟨alert, tasks, rfl, rfl⟩
    · exact hverdict id verdict hold
    · exact hstoring verdict alert tasks hf
  have hfails {f : Flow} (hf : f ∈ s.jobs.flows) (id : String) (error : Option String)
      (hid : (f.writes records).job id = some (.failed, error)) : Failed id error := by
    rcases failed_writes hid with hold | ⟨why, alert, tasks, rfl, rfl, rfl⟩
    · exact hfailed id error hold
    · exact hfailing why alert tasks hf
  -- a flow that goes on comes to a verdict or to a failure of this step
  have hflow {i : ℕ} {e : StepEnv} {f : Flow} {next : Option Flow}
      (hl : l = .go i e) (hf : s.jobs.flows[i]? = some f) (hnext : Next f next)
      (hperform : (f.perform deps e s.jobs.api).1 = .ok next)
      (hflows : jobs.flows = s.jobs.flows.take i ++ next.toList ++ s.jobs.flows.drop (i + 1)) :
      (∀ verdict alert tasks, .task (.putVerdict verdict) alert tasks ∈ jobs.flows →
        Decided alert.alertId verdict) ∧
      ∀ why alert tasks, .task (.setFailed why) alert tasks ∈ jobs.flows →
        Failed alert.alertId (some why) := by
    subst hl
    have hsplit {g : Flow} (hg : g ∈ jobs.flows) : g ∈ s.jobs.flows ∨ g ∈ next.toList := by
      rw [flows_split hf]
      exact mem_after (hflows ▸ hg)
    refine ⟨fun verdict alert tasks hmem => ?_, fun why alert tasks hmem => ?_⟩
    · rcases hsplit hmem with hold | hnew
      · exact hstoring verdict alert tasks hold
      · exact hc.decided _ _ (decides_of_next hnext hf hperform hnew)
    · rcases hsplit hmem with hold | hnew
      · exact hfailing why alert tasks hold
      · exact hc.failed _ _ (fails_of_next hnext hf hperform hnew)
  cases hmove with
  | arrive rows hflows =>
      refine ⟨hverdict, fun verdict alert tasks hmem => ?_, hfailed,
        fun why alert tasks hmem => ?_, hsent⟩
      · rcases List.mem_append.mp (hflows ▸ hmem) with hmem | hmem
        · exact hstoring verdict alert tasks hmem
        · rcases mem_nextRow hmem with ⟨alert', rest, heq⟩ | ⟨y, rest, heq⟩ <;> cases heq
      · rcases List.mem_append.mp (hflows ▸ hmem) with hmem | hmem
        · exact hfailing why alert tasks hmem
        · rcases mem_nextRow hmem with ⟨alert', rest, heq⟩ | ⟨y, rest, heq⟩ <;> cases heq
  | wrote i e f next hf hnext hperform hflows =>
      have hin : f ∈ s.jobs.flows := List.mem_of_getElem? hf
      obtain ⟨hstoring', hfailing'⟩ := hflow rfl hf hnext hperform hflows
      exact ⟨hdecided hin, hstoring', hfails hin, hfailing', hsent⟩
  | caught i e f next hf hcaught hperform hflows =>
      have hnext : Next f next := perform_next f _ _ _ (Prod.ext hperform rfl)
      obtain ⟨hstoring', hfailing'⟩ := hflow rfl hf hnext hperform hflows
      exact ⟨hverdict, hstoring', hfailed, hfailing', hsent⟩
  | givenUp i e f hf hguard hflows =>
      have hin : f ∈ s.jobs.flows := List.mem_of_getElem? hf
      have hrest {g : Flow} (hg : g ∈ jobs.flows) : g ∈ s.jobs.flows := by
        rcases List.mem_append.mp (hflows ▸ hg) with hg | hg
        · exact List.mem_of_mem_take hg
        · exact List.mem_of_mem_drop hg
      refine ⟨fun id verdict hid => ?_, fun verdict alert tasks hmem => ?_,
        fun id error hid => ?_, fun why alert tasks hmem => ?_, hsent⟩
      · split at hid
        · exact hdecided hin id verdict hid
        · exact hverdict id verdict hid
      · exact hstoring verdict alert tasks (hrest hmem)
      · split at hid
        · exact hfails hin id error hid
        · exact hfailed id error hid
      · exact hfailing why alert tasks (hrest hmem)

/-- A stream reports what is on record. -/
theorem EventGen.Reports.move {d : ApiDeps} {g g' : EventGen}
    (h : g.Reports d Decided Failed)
    (hverdict : ∀ id verdict, records.verdict id = some verdict → Decided id verdict)
    (hfailed : ∀ id error, records.job id = some (.failed, error) → Failed id error)
    (hmove : GenMove d records g g') : g'.Reports d Decided Failed := by
  have hshaped := h.shaped.move hmove
  -- an event that is neither a verdict nor a failure adds nothing
  have hturn {left : ℕ} {g : EventGen}
      (hcomplete : ∀ shown, .complete shown ∈ g.sent →
        ∃ verdict, shown = scrubVerdict d.scrubString verdict ∧ Decided g.alertId verdict)
      (hfail : ∀ error, .failed error ∈ g.sent →
        ∃ text, error = some (optionalText text) ∧ Failed g.alertId text)
      (hshaped : (g.turn left).Shaped) : (g.turn left).Reports d Decided Failed := by
    cases left with
    | zero =>
        refine ⟨hshaped, fun shown hmem => ?_, fun error hmem => ?_⟩
        · exact hcomplete shown (by simpa [EventGen.turn, EventGen.send] using hmem)
        · exact hfail error (by simpa [EventGen.turn, EventGen.send] using hmem)
    | succ left => exact ⟨hshaped, hcomplete, hfail⟩
  cases hmove with
  | opened hpoint =>
      refine hturn (g := g.send .opened .opening) ?_ ?_ hshaped
      · exact fun shown hmem => h.complete shown (by simpa [EventGen.send] using hmem)
      · exact fun error hmem => h.failed error (by simpa [EventGen.send] using hmem)
  | complete left verdict hpoint hread =>
      refine ⟨hshaped, fun shown hmem => ?_, fun error hmem => ?_⟩
      · rcases List.mem_append.mp hmem with hold | hnew
        · exact h.complete shown hold
        · obtain rfl := StreamEvent.complete.inj (List.mem_singleton.mp hnew)
          exact ⟨verdict, rfl, hverdict _ _ hread⟩
      · exact h.failed error (by simpa [EventGen.send] using hmem)
  | noVerdict left hpoint hread => exact ⟨hshaped, h.complete, h.failed⟩
  | failed left error hpoint hread =>
      refine ⟨hshaped, fun shown hmem => ?_, fun shown hmem => ?_⟩
      · exact h.complete shown (by simpa [EventGen.send] using hmem)
      · rcases List.mem_append.mp hmem with hold | hnew
        · exact h.failed shown hold
        · obtain rfl := StreamEvent.failed.inj (List.mem_singleton.mp hnew)
          exact ⟨error, rfl, hfailed _ _ hread⟩
  | phase left status hpoint hread hother =>
      refine ⟨hshaped, fun shown hmem => ?_, fun error hmem => ?_⟩
      · exact h.complete shown (by simpa [EventGen.send] using hmem)
      · exact h.failed error (by simpa [EventGen.send] using hmem)
  | raised text hpoint hopen hgoing =>
      refine ⟨hshaped, fun shown hmem => ?_, fun error hmem => ?_⟩
      · exact h.complete shown (by simpa [EventGen.send] using hmem)
      · exact h.failed error (by simpa [EventGen.send] using hmem)
  | turned left hpoint => exact hturn h.complete h.failed hshaped
  | closed hpoint => exact h

/-- A step of a stream, or of none. -/
inductive StreamMove (deps : TriageDeps) (s s' : StreamedJobs) (records : Records) :
    StreamLabel → Prop where
  | jobs (l : TriageLabel) (records' : Records)
      (hmove : RecordMove deps s.jobs s'.jobs records l records') (hgens : s'.gens = s.gens)
      (hon : StoresHold deps.toApiDeps records' s'.jobs.api) :
      StreamMove deps s s' records (.jobs l)
  | opened (alertId : String) (r : HttpRequest) (hjobs : s'.jobs = s.jobs)
      (hgens : s'.gens = s.gens ++ [⟨alertId, .opening, []⟩]) :
      StreamMove deps s s' records (.request alertId r)
  | refused (alertId : String) (r : HttpRequest) (hsame : s' = s) :
      StreamMove deps s s' records (.request alertId r)
  | went (i : ℕ) (o : Outcome) (g g' : EventGen) (hg : s.gens[i]? = some g)
      (hmove : GenMove deps.toApiDeps records g g') (hjobs : s'.jobs = s.jobs)
      (hgens : s'.gens = s.gens.set i g') : StreamMove deps s s' records (.go i o)
  | left (i : ℕ) (g : EventGen) (hg : s.gens[i]? = some g) (hjobs : s'.jobs = s.jobs)
      (hgens : s'.gens = s.gens.set i { g with point := .closed }) :
      StreamMove deps s s' records (.leave i)

/-- **What a step can do**, whoever takes it. -/
theorem streamMove {l : StreamLabel} (hon : StoresHold deps.toApiDeps records s.jobs.api)
    (hstep : (streamedJobs deps).step s l = some s') : StreamMove deps s s' records l := by
  cases l with
  | jobs l =>
      obtain ⟨jobs, hjobs, rfl⟩ := Option.map_eq_some_iff.mp hstep
      obtain ⟨records', hon', hmove⟩ := recordMove hon hjobs
      exact .jobs l records' hmove rfl hon'
  | request alertId r =>
      simp only [streamedJobs, streamStep] at hstep
      split at hstep
      · obtain rfl := Option.some.inj hstep
        exact .opened alertId r rfl rfl
      · obtain rfl := Option.some.inj hstep
        exact .refused alertId r rfl
  | go i o =>
      simp only [streamedJobs, streamStep] at hstep
      split at hstep
      · cases hstep
      · rename_i g hg
        split at hstep
        · rename_i g' api hperform
          obtain rfl := Option.some.inj hstep
          obtain rfl : api = s.jobs.api := by
            rw [← g.perform_reads deps.toApiDeps o s.jobs.api, hperform]
          exact .went i o g g' hg (EventGen.perform_move hon hperform) rfl rfl
        · cases hstep
  | leave i =>
      obtain ⟨g, hg, rfl⟩ := Option.map_eq_some_iff.mp hstep
      exact .left i g hg rfl rfl

/-- **A step keeps reports true**, if it decides and fails among `Decided` and `Failed`. -/
theorem Backed.step {l : StreamLabel}
    (h : ∃ records, StoresHold deps.toApiDeps records s.jobs.api ∧
      Backed deps Decided Failed records s)
    (hc : Backs deps Decided Failed s l) (hstep : (streamedJobs deps).step s l = some s') :
    ∃ records, StoresHold deps.toApiDeps records s'.jobs.api ∧
      Backed deps Decided Failed records s' := by
  obtain ⟨records, hon, hbacked⟩ := h
  obtain ⟨hverdict, hstoring, hfailed, hfailing, hsent⟩ := id hbacked
  cases streamMove hon hstep with
  | jobs l records' hmove hgens hon' =>
      obtain ⟨hverdict', hstoring', hfailed', hfailing', hsent'⟩ := hbacked.jobs hc hmove
      exact ⟨records', hon', hverdict', hstoring', hfailed', hfailing', hgens ▸ hsent'⟩
  | opened alertId r hjobs hgens =>
      refine ⟨records, hjobs ▸ hon, hverdict, hjobs ▸ hstoring, hfailed, hjobs ▸ hfailing, ?_⟩
      intro g hg
      rcases List.mem_append.mp (hgens ▸ hg) with hg | hg
      · exact hsent g hg
      · obtain rfl := List.mem_singleton.mp hg
        exact ⟨.inl ⟨rfl, .inl rfl⟩, by simp, by simp⟩
  | refused alertId r hsame =>
      rw [hsame]
      exact ⟨records, hon, hbacked⟩
  | went i o g g' hg hmove hjobs hgens =>
      refine ⟨records, hjobs ▸ hon, hverdict, hjobs ▸ hstoring, hfailed, hjobs ▸ hfailing, ?_⟩
      intro x hx
      rcases List.mem_or_eq_of_mem_set (hgens ▸ hx) with hx | rfl
      · exact hsent x hx
      · exact (hsent g (List.mem_of_getElem? hg)).move hverdict hfailed hmove
  | left i g hg hjobs hgens =>
      refine ⟨records, hjobs ▸ hon, hverdict, hjobs ▸ hstoring, hfailed, hjobs ▸ hfailing, ?_⟩
      intro x hx
      rcases List.mem_or_eq_of_mem_set (hgens ▸ hx) with hx | rfl
      · exact hsent x hx
      · obtain ⟨hshaped, hcomplete, hfailed⟩ := hsent g (List.mem_of_getElem? hg)
        exact ⟨hshaped.left, hcomplete, hfailed⟩

/-- The verdict was on record for the alert when the run began, or is one that `run_triage`
returned for the alert in the run. -/
def DecidedIn (deps : TriageDeps) (s : StreamedJobs) (as : List StreamLabel) (alertId : String)
    (verdict : TriageVerdict) : Prop :=
  s.jobs.api.world.verdictOf deps.persistence deps.verdictCodec alertId = .ok (some verdict) ∨
    (streamedJobs deps).Occurs (Decides deps alertId verdict) s as

/-- The failure was on record for the alert when the run began, or is one of a task of the
alert in the run. -/
def FailedIn (deps : TriageDeps) (s : StreamedJobs) (as : List StreamLabel) (alertId : String)
    (error : Option String) : Prop :=
  jobOf deps.persistence alertId s.jobs.api = .ok (some (.obj (jobRecord .failed error))) ∨
    ∃ why, error = some why ∧ (streamedJobs deps).Occurs (Fails deps alertId why) s as

/-- **Streams report runs**: whatever the interleaving, a stream sends its opening, phases and
at most one last event, and the verdict or failure it ends with is one of its own alert. -/
theorem streams_report_runs {deps : TriageDeps} {s t : StreamedJobs} {as : List StreamLabel}
    (hs : (streamedJobs deps).start s) (hrun : (streamedJobs deps).run s as = some t)
    {g : EventGen} (hg : g ∈ t.gens) :
    g.Reports deps.toApiDeps (DecidedIn deps s as) (FailedIn deps s as) := by
  obtain ⟨hgens, hflows, -, records, hon⟩ := hs
  -- every verdict returned and every failure of the run is one of them
  have hmeets : (streamedJobs deps).Meets _ s as := System.Meets.of_occurs
    (Q := Sum.elim (fun x : String × TriageVerdict => Decides deps x.1 x.2)
      fun x : String × String => Fails deps x.1 x.2)
    (P := Sum.elim (fun x => DecidedIn deps s as x.1 x.2)
      fun x => FailedIn deps s as x.1 (some x.2))
    (by
      rintro (x | x) ho
      · exact .inr ho
      · exact .inr ⟨x.2, rfl, ho⟩)
  have hstart : Backed deps (DecidedIn deps s as) (FailedIn deps s as) records s := by
    constructor
    · intro id verdict hread
      refine .inl ?_
      rw [(hon id).verdict, hread]
    · simp [hflows]
    · intro id error hread
      refine .inl ?_
      rw [(hon id).job, hread]
      rfl
    · simp [hflows]
    · simp [hgens]
  obtain ⟨_, -, hbacked⟩ := hmeets.run_keeps
    (P := fun t => ∃ records, StoresHold deps.toApiDeps records t.jobs.api ∧
      Backed deps (DecidedIn deps s as) (FailedIn deps s as) records t)
    (fun _ _ _ hstep hc h => Backed.step h
      ⟨fun id verdict => hc (.inl (id, verdict)), fun id why => hc (.inr (id, why))⟩ hstep)
    hrun ⟨records, hon, hstart⟩
  exact hbacked.sent g hg

/-! ## §6  The phase `complete` -/

/-- No job is complete without a verdict. -/
def VerdictFirst (records : Records) (flows : List Flow) : Prop :=
  (∀ alertId, statusSays (records.job alertId) = some .complete →
    (records.verdict alertId).isSome = true) ∧
  ∀ alert tasks, .task .setComplete alert tasks ∈ flows →
    (records.verdict alert.alertId).isSome = true

/-- No step takes a verdict back. -/
theorem RecordMove.isSome {s s' : TriageProcess} {records records' : Records} {l : TriageLabel}
    (h : RecordMove deps s s' records l records') {id : String}
    (hsome : (records.verdict id).isSome = true) : (records'.verdict id).isSome = true := by
  cases h with
  | arrive rows hflows => exact hsome
  | wrote i e f next hf hnext hperform hflows => exact isSome_writes f hsome
  | caught i e f next hf hcaught hperform hflows => exact hsome
  | givenUp i e f hf hguard hflows =>
      split
      · rwa [verdict_of_not_guarded hguard]
      · exact hsome

/-- **The verdict comes first**: a step completes no job without one. -/
theorem VerdictFirst.move {s s' : TriageProcess} {records records' : Records} {l : TriageLabel}
    (h : VerdictFirst records s.flows) (hmove : RecordMove deps s s' records l records') :
    VerdictFirst records' s'.flows := by
  obtain ⟨hcomplete, hstored⟩ := h
  have hread {f : Flow} (hf : f ∈ s.flows) {id : String}
      (hid : statusSays ((f.writes records).job id) = some .complete) :
      (records.verdict id).isSome = true := by
    rcases complete_of_writes hid with hold | ⟨alert, tasks, rfl, rfl⟩
    · exact hcomplete id hold
    · exact hstored alert tasks hf
  cases hmove with
  | arrive rows hflows =>
      refine ⟨hcomplete, fun alert tasks hmem => ?_⟩
      rw [hflows] at hmem
      rcases List.mem_append.mp hmem with hmem | hmem
      · exact hstored alert tasks hmem
      · cases rows with
        | nil => cases hmem
        | cons x rows => simp [nextRow] at hmem
  | wrote i e f next hf hnext hperform hflows =>
      have hin : f ∈ s.flows := List.mem_of_getElem? hf
      refine ⟨fun id hid => isSome_writes f (hread hin hid), fun alert tasks hmem => ?_⟩
      rw [flows_split hf] at hstored
      rw [hflows] at hmem
      rcases mem_after hmem with hold | hnew
      · exact isSome_writes f (hstored alert tasks hold)
      · exact hnext.stored_writes hnew
  | caught i e f next hf hcaught hperform hflows =>
      obtain ⟨error, alert', tasks', rfl⟩ := hcaught
      refine ⟨hcomplete, fun alert tasks hmem => ?_⟩
      rw [flows_split hf] at hstored
      rw [hflows] at hmem
      rcases mem_after hmem with hold | hnew
      · exact hstored alert tasks hold
      · simp at hnew
  | givenUp i e f hf hguard hflows =>
      have hin : f ∈ s.flows := List.mem_of_getElem? hf
      have hrest : ∀ g ∈ s'.flows, g ∈ s.flows := by
        intro g hg
        rw [hflows] at hg
        rcases List.mem_append.mp hg with hg | hg
        · exact List.mem_of_mem_take hg
        · exact List.mem_of_mem_drop hg
      split
      · rw [VerdictFirst, verdict_of_not_guarded hguard]
        exact ⟨fun id hid => hread hin hid, fun alert tasks hmem => hstored _ _ (hrest _ hmem)⟩
      · exact ⟨hcomplete, fun alert tasks hmem => hstored _ _ (hrest _ hmem)⟩

/-- The status in a phase. -/
def StreamEvent.status? : StreamEvent → Option String
  | .phase status => Json.asStr? status
  | _ => none

theorem StreamEvent.status?_of_isLast {event : StreamEvent} (h : event.isLast = true) :
    event.status? = none := by
  cases event with
  | phase status => simp [isLast] at h
  | _ => rfl

theorem phaseText_complete {status : Option JobStatus} (h : phaseText status = "complete") :
    status = some .complete := by
  cases status with
  | none => exact absurd h (by decide)
  | some status =>
      cases status with
      | complete => rfl
      | _ => exact absurd h (by decide)

namespace EventGen

/-- Nothing but the last event comes after the phase `complete`. -/
def CompletesLast (g : EventGen) : Prop :=
  g.sent.Pairwise fun earlier later =>
    earlier.status? = some "complete" → later.isLast = true

/-- A stream that has said `complete` finds a verdict at the next tick. -/
structure Completing (records : Records) (g : EventGen) : Prop where
  shaped : g.Shaped
  last : g.CompletesLast
  settled : ∀ event ∈ g.sent, event.status? = some "complete" →
    (records.verdict g.alertId).isSome = true ∧ ∀ left, g.point ≠ .job left

variable {g g' : EventGen}

theorem completing_opening (alertId : String) :
    (⟨alertId, .opening, []⟩ : EventGen).Completing records :=
  ⟨.inl ⟨rfl, .inl rfl⟩, List.Pairwise.nil, by simp⟩

theorem Completing.mono (h : g.Completing records)
    (hsome : ∀ id, (records.verdict id).isSome = true → (records'.verdict id).isSome = true) :
    g.Completing records' :=
  ⟨h.shaped, h.last, fun event he hc => (h.settled event he hc).imp_left (hsome g.alertId)⟩

theorem completesLast_send {event : StreamEvent} {point : GenPoint} (h : g.CompletesLast)
    (hlast : ∀ earlier ∈ g.sent, earlier.status? = some "complete" → event.isLast = true) :
    (g.send event point).CompletesLast := by
  refine List.pairwise_append.mpr ⟨h, List.pairwise_singleton _ _, fun earlier he later hl => ?_⟩
  obtain rfl := List.mem_singleton.mp hl
  exact hlast earlier he

/-- The last event. -/
theorem Completing.ends {event : StreamEvent} (h : g.Completing records)
    (hshaped : (g.send event .closed).Shaped) (hlast : event.isLast = true) :
    (g.send event .closed).Completing records := by
  refine ⟨hshaped, completesLast_send h.last fun _ _ _ => hlast, fun e he hc => ?_⟩
  rcases List.mem_append.mp he with hold | hnew
  · exact ⟨(h.settled e hold hc).1, by simp [send]⟩
  · obtain rfl := List.mem_singleton.mp hnew
    rw [StreamEvent.status?_of_isLast hlast] at hc
    cases hc

/-- The next tick, or the end after the last one. -/
theorem Completing.turn {left : ℕ} (h : g.Completing records)
    (hshaped : (g.turn left).Shaped) : (g.turn left).Completing records := by
  cases left with
  | zero => exact h.ends hshaped rfl
  | succ left =>
      exact ⟨hshaped, h.last, fun e he hc => ⟨(h.settled e he hc).1, by simp [EventGen.turn]⟩⟩

/-- **A step of a stream**, over records in which no job is complete without a verdict. -/
theorem Completing.move {d : ApiDeps} (h : g.Completing records)
    (hfirst : ∀ id, statusSays (records.job id) = some .complete →
      (records.verdict id).isSome = true)
    (hmove : GenMove d records g g') : g'.Completing records := by
  have hshaped := h.shaped.move hmove
  cases hmove with
  | opened hpoint =>
      have hempty : g.sent = [] := by
        rcases h.shaped with ⟨hsent, -⟩ | ⟨statuses, last, -, -, hadds, -⟩
        · exact hsent
        · rw [hpoint] at hadds
          exact hadds.elim
      have hsent : ((g.send .opened .opening).turn 1200).sent = [.opened] := by
        show g.sent ++ [.opened] = [.opened]
        rw [hempty, List.nil_append]
      refine ⟨hshaped, ?_, fun event he hc => ?_⟩
      · rw [CompletesLast, hsent]
        exact List.pairwise_singleton _ _
      · rw [hsent] at he
        obtain rfl := List.mem_singleton.mp he
        cases hc
  | complete left verdict hpoint hread => exact h.ends hshaped rfl
  | noVerdict left hpoint hread =>
      refine ⟨hshaped, h.last, fun event he hc => ?_⟩
      have hsome := (h.settled event he hc).1
      rw [hread] at hsome
      cases hsome
  | failed left error hpoint hread => exact h.ends hshaped rfl
  | phase left status hpoint hread hother =>
      -- the job was read after a verdict that was not there, so nothing has said `complete`
      have hnone : ∀ event ∈ g.sent, event.status? ≠ some "complete" :=
        fun event he hc => (h.settled event he hc).2 left hpoint
      refine ⟨hshaped, completesLast_send h.last fun earlier he hc => absurd hc (hnone earlier he),
        fun event he hc => ⟨?_, by simp [send]⟩⟩
      rcases List.mem_append.mp he with hold | hnew
      · exact absurd hc (hnone event hold)
      · obtain rfl := List.mem_singleton.mp hnew
        have hstatus : status = some .complete := phaseText_complete (Option.some.inj hc)
        exact hfirst g.alertId (hread.trans hstatus)
  | raised text hpoint hopen hgoing => exact h.ends hshaped rfl
  | turned left hpoint => exact h.turn hshaped
  | closed hpoint => exact h

end EventGen

/-- **A step keeps verdicts ahead** of the phases. -/
theorem completing_step {l : StreamLabel}
    (h : ∃ records, StoresHold deps.toApiDeps records s.jobs.api ∧
      VerdictFirst records s.jobs.flows ∧ ∀ g ∈ s.gens, g.Completing records)
    (hstep : (streamedJobs deps).step s l = some s') :
    ∃ records, StoresHold deps.toApiDeps records s'.jobs.api ∧
      VerdictFirst records s'.jobs.flows ∧ ∀ g ∈ s'.gens, g.Completing records := by
  obtain ⟨records, hon, hfirst, hgens⟩ := h
  cases streamMove hon hstep with
  | jobs l records' hmove hsame hon' =>
      refine ⟨records', hon', hfirst.move hmove, fun g hg => ?_⟩
      exact (hgens g (hsame ▸ hg)).mono fun id => hmove.isSome
  | opened alertId r hjobs hadded =>
      refine ⟨records, hjobs ▸ hon, hjobs ▸ hfirst, fun g hg => ?_⟩
      rcases List.mem_append.mp (hadded ▸ hg) with hg | hg
      · exact hgens g hg
      · obtain rfl := List.mem_singleton.mp hg
        exact EventGen.completing_opening alertId
  | refused alertId r hsame =>
      rw [hsame]
      exact ⟨records, hon, hfirst, hgens⟩
  | went i o g g' hg hmove hjobs hset =>
      refine ⟨records, hjobs ▸ hon, hjobs ▸ hfirst, fun x hx => ?_⟩
      rcases List.mem_or_eq_of_mem_set (hset ▸ hx) with hx | rfl
      · exact hgens x hx
      · exact (hgens g (List.mem_of_getElem? hg)).move hfirst.1 hmove
  | left i g hg hjobs hset =>
      refine ⟨records, hjobs ▸ hon, hjobs ▸ hfirst, fun x hx => ?_⟩
      rcases List.mem_or_eq_of_mem_set (hset ▸ hx) with hx | rfl
      · exact hgens x hx
      · obtain ⟨hshaped, hlast, hsettled⟩ := hgens g (List.mem_of_getElem? hg)
        exact ⟨hshaped.left, hlast, fun event he hc => ⟨(hsettled event he hc).1, by simp⟩⟩

/-- **`complete` is said once**: whatever the interleaving, after the phase `complete` a stream
sends its last event and no other, if no job was complete without a verdict at the start. -/
theorem complete_phase_last {deps : TriageDeps} {s t : StreamedJobs} {as : List StreamLabel}
    {records : Records} (hs : (streamedJobs deps).start s)
    (hon : StoresHold deps.toApiDeps records s.jobs.api)
    (hfirst : ∀ id, statusSays (records.job id) = some .complete →
      (records.verdict id).isSome = true)
    (hrun : (streamedJobs deps).run s as = some t) {g : EventGen} (hg : g ∈ t.gens) :
    g.CompletesLast := by
  obtain ⟨hgens, hflows, -⟩ := hs
  have hstart : VerdictFirst records s.jobs.flows := ⟨hfirst, by simp [hflows]⟩
  obtain ⟨_, -, -, hcompleting⟩ := System.run_keeps
    (P := fun t => ∃ records, StoresHold deps.toApiDeps records t.jobs.api ∧
      VerdictFirst records t.jobs.flows ∧ ∀ g ∈ t.gens, g.Completing records)
    (fun _ _ _ hstep h => completing_step h hstep) hrun ⟨records, hon, hstart, by simp [hgens]⟩
  exact (hcompleting g hg).last

/-! ## §7  A stream for examples -/

/-- A process with nothing on record. -/
def freshStreams : StreamedJobs := ⟨⟨.fresh, [], []⟩, []⟩

theorem freshStreams_start : (streamedJobs plainTriage).start freshStreams :=
  ⟨rfl, rfl, rfl, .empty, freshProcess_start.2.2⟩

/-- The job begins and ends between the two reads of a tick. -/
def lateStatus : List StreamLabel :=
  .request "a1" (keyRequest plainTriage.settings) :: .go 0 .returned :: .go 0 .returned ::
    doneJob.map .jobs ++ [.go 0 .returned, .go 0 .returned, .go 0 .returned]

theorem lateStatus_run : ∃ t, (streamedJobs plainTriage).run freshStreams lateStatus = some t ∧
    t.gens.map (fun g => g.sent.map fun event => (event.status?, event.isLast)) =
      [[(none, false), (some "complete", false), (none, true)]] := by
  have hview : ((streamedJobs plainTriage).run freshStreams lateStatus).map
      (fun t => t.gens.map fun g => g.sent.map fun event => (event.status?, event.isLast)) =
      some [[(none, false), (some "complete", false), (none, true)]] := by
    decide +kernel
  exact Option.map_eq_some_iff.mp hview

theorem streams_report_runs_late :
    ∃ t, (streamedJobs plainTriage).run freshStreams lateStatus = some t ∧ t.gens ≠ [] ∧
      ∀ g ∈ t.gens, g.Reports plainTriage.toApiDeps
        (DecidedIn plainTriage freshStreams lateStatus)
        (FailedIn plainTriage freshStreams lateStatus) := by
  obtain ⟨t, hrun, hview⟩ := lateStatus_run
  refine ⟨t, hrun, ?_, fun g hg => streams_report_runs freshStreams_start hrun hg⟩
  intro hnone
  simp [hnone] at hview

theorem complete_phase_last_late :
    ∃ t, (streamedJobs plainTriage).run freshStreams lateStatus = some t ∧
      t.gens.map (fun g => g.sent.map fun event => (event.status?, event.isLast)) =
        [[(none, false), (some "complete", false), (none, true)]] ∧
      ∀ g ∈ t.gens, g.CompletesLast := by
  obtain ⟨t, hrun, hview⟩ := lateStatus_run
  refine ⟨t, hrun, hview, fun g hg => ?_⟩
  exact complete_phase_last freshStreams_start freshProcess_start.2.2
    (fun id hcomplete => by simp [Records.empty, statusSays] at hcomplete) hrun hg

end AlertTriage
