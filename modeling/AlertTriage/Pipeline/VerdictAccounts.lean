import AlertTriage.Pipeline.GuardedTools
import AlertTriage.Pipeline.RunVerdict

/-!
# The tools that a verdict names

The burst and every batch append the names of their calls to one list, in the order of the run
(`toolsCalled_drive`), and each of the three verdicts takes its count and its names from that
list, whatever a model has written there (`verdict_accounts`).
-/

namespace AlertTriage

open Library

variable {deps : PipelineDeps} {alert : NormalizedAlert}

/-! ## §1  What a visit calls -/

/-- The tools that a visit accounts for: those that left a record, in the burst, and all that were
executed, in a batch. -/
def accountedTools (deps : PipelineDeps) (v : NodeVisit) : List String :=
  match v.node with
  | .burstEnrichment => (burstRecords deps v.answers v.before).map ToolCallRecord.toolName
  | .executeTool => (executedCalls v).map Prod.fst
  | _ => []

/-- A step appends the tools of its visit. -/
theorem toolsCalled_step {n : Node} {s : TriageState} (a : NodeAnswers)
    (h : Sound alert (.ready n s)) :
    ((triageGraph deps).step (.ready n s) a).state.toolsCalled =
      s.toolsCalled ++ accountedTools deps ((triageGraph deps).visit n s a) := by
  rw [StateGraph.state_step]
  cases n with
  | normalise => exact (List.append_nil _).symm
  | extractEntities =>
      unfold triageGraph
      rcases extractEntitiesNode_cases deps a s with hn | ⟨entities, hn⟩
      · simp only [runNode, hn]
        exact (List.append_nil _).symm
      · simp only [runNode, hn]
        exact (List.append_nil _).symm
  | routeTools => exact (List.append_nil _).symm
  | burstEnrichment =>
      obtain ⟨compressed, hn⟩ := burstEnrichmentNode_spec deps a s
      simp only [triageGraph, runNode, hn]
      rfl
  | agentThink =>
      unfold triageGraph
      rcases agentThinkNode_cases h.1.validSeverity deps a with ⟨-, hn⟩ | ⟨-, hn⟩
      · simp only [runNode, hn]
        exact (List.append_nil _).symm
      · simp only [runNode, hn]
        cases (askModels deps a.thinkOllama a.thinkOpenai).2 with
        | none => exact (List.append_nil _).symm
        | some response => exact (List.append_nil _).symm
  | executeTool =>
      -- the one node of the loop that calls tools
      have hcalls : accountedTools deps ((triageGraph deps).visit .executeTool s a) =
          if a.flagSet then [] else (lastToolCalls s).map ToolCall.name := by
        show (executedCalls _).map Prod.fst = _
        rw [executedCalls_execute]
        split
        · rfl
        · rw [List.map_map]
          rfl
      rw [hcalls]
      rcases executeToolNode_cases deps a s with
        ⟨hf, hn⟩ | ⟨hf, hnil, hn⟩ | ⟨hf, -, data, records, hn⟩
      · simp only [triageGraph, runNode, hn, hf]
        exact (List.append_nil _).symm
      · simp only [triageGraph, runNode, hn, hf, hnil]
        exact (List.append_nil _).symm
      · simp only [triageGraph, runNode, hn, hf]
        rfl
  | generateVerdict =>
      unfold triageGraph
      rcases generateVerdictNode_cases deps a s with
        ⟨-, hn⟩ | ⟨-, verdict, -, hn⟩ | ⟨-, -, hn⟩
      · simp only [runNode, hn]
        exact (List.append_nil _).symm
      · simp only [runNode, hn]
        exact (List.append_nil _).symm
      · simp only [runNode, hn, fallbackVerdict, h.1.validSeverity]
        exact (List.append_nil _).symm

/-- A run appends the tools of its visits. -/
theorem toolsCalled_drive {p : Position Node TriageState} (h : Sound alert p)
    (answers : List NodeAnswers) :
    ((triageGraph deps).drive p answers).state.toolsCalled =
      p.state.toolsCalled ++ ((triageGraph deps).visits p answers).flatMap
        (accountedTools deps) := by
  induction answers generalizing p with
  | nil => simp
  | cons a answers ih =>
      cases p with
      | ready n s =>
          rw [StateGraph.drive_cons, ih (sound_step deps a h), toolsCalled_step a h,
            StateGraph.visits_ready, List.flatMap_cons, List.append_assoc]
          rfl
      | ended s => simp
      | raised n s => simp

/-! ## §2  What each verdict says -/

/-- The verdict takes its count and its tools from the state, and is the alert's. -/
theorem nodeVerdict_accounts {s : TriageState} {a : NodeAnswers} {verdict : TriageVerdict}
    (h : nodeVerdict deps a s = some verdict) :
    verdict.alertId = s.alert.alertId ∧ verdict.totalToolCalls = s.toolsCalled.length ∧
      ∀ name, name ∈ verdict.toolsCalled ↔ name ∈ s.toolsCalled := by
  have hset (name : String) : name ∈ deps.listOfSet s.toolsCalled ↔ name ∈ s.toolsCalled := by
    rw [(deps.listOfSet_perm s.toolsCalled).mem_iff, List.mem_dedup]
  rcases nodeVerdict_cases deps h with ⟨-, rfl⟩ | ⟨-, reply, -, rfl⟩ | ⟨-, -, hfallback⟩
  · exact ⟨rfl, rfl, fun _ => Iff.rfl⟩
  · -- a model's own count and tools are written over
    exact ⟨rfl, rfl, hset⟩
  · obtain ⟨severity, -, rfl⟩ := Option.map_eq_some_iff.mp hfallback
    exact ⟨rfl, rfl, hset⟩

/-- **The verdict accounts for its tools**: it counts the records of the burst and the executed
calls of all batches, and names their tools and no others. -/
theorem verdict_accounts (deps : PipelineDeps) (alert : NormalizedAlert)
    (thread : TriageThread) (call : TriageCall) (verdict : TriageVerdict)
    (h : runTriage deps alert thread call = .verdict verdict) :
    verdict.alertId = alert.alertId ∧
      verdict.totalToolCalls = ((call.trace deps alert thread).map
        fun v => (accountedTools deps v).length).sum ∧
      ∀ name, name ∈ verdict.toolsCalled ↔
        ∃ v ∈ call.trace deps alert thread, name ∈ accountedTools deps v := by
  obtain ⟨s, a, -, hverdict, hfinish⟩ := verdict_of_run deps h
  obtain ⟨hid, htotal, hnames⟩ := nodeVerdict_accounts hverdict
  have hsame : s.alert = alert := by
    have hsound := sound_finish deps alert thread call
    rw [hfinish] at hsound
    exact hsound.1.same
  have hnone : (call.start deps alert thread).2.state.toolsCalled = [] := by
    unfold TriageCall.start StateGraph.restart
    cases call.visible thread with
    | none => rfl
    | some c => rfl
  have htools : s.toolsCalled =
      (call.trace deps alert thread).flatMap (accountedTools deps) := by
    have hdrive : (call.finish deps alert thread).state.toolsCalled =
        (call.start deps alert thread).2.state.toolsCalled ++
          (call.trace deps alert thread).flatMap (accountedTools deps) :=
      toolsCalled_drive (sound_start deps alert thread call) call.answers
    rw [hnone, List.nil_append, hfinish] at hdrive
    exact hdrive
  refine ⟨hid.trans (congrArg _ hsame), ?_, fun name => ?_⟩
  · rw [htotal, htools, List.length_flatMap]
  · rw [hnames, htools, List.mem_flatMap]

def TriageOutcome.verdict? : TriageOutcome → Option TriageVerdict
  | .verdict v => some v
  | _ => none

theorem TriageOutcome.verdict?_eq_some {outcome : TriageOutcome} {verdict : TriageVerdict}
    (h : outcome.verdict? = some verdict) : outcome = .verdict verdict := by
  cases outcome with
  | verdict v => exact congrArg _ (Option.some.inj h)
  | raised => cases h
  | killed => cases h

/-- A model's verdict about another alert, with a count and tools of its own. -/
def boastfulVerdict : TriageVerdict :=
  { cancelledVerdict (initialState sampleAlert) with
    alertId := "other"
    totalToolCalls := 99
    toolsCalled := ["query_everything"] }

/-- Two queries, and then that verdict. -/
def boastfulCall : TriageCall :=
  freshCall (List.replicate 4 silentAnswers ++
    List.replicate 4 (plansQuery "\x7b\"hours_back\": 24\x7d") ++
    [silentAnswers, { silentAnswers with verdictOllama := .answer boastfulVerdict }])

theorem boastfulCall_accounts :
    ∃ verdict, runTriage plainPipeline sampleAlert none boastfulCall = .verdict verdict ∧
      verdict.alertId = sampleAlert.alertId ∧ verdict.totalToolCalls = 5 ∧
      ∀ name, name ∈ verdict.toolsCalled ↔
        ∃ v ∈ boastfulCall.trace plainPipeline sampleAlert none,
          name ∈ accountedTools plainPipeline v := by
  have hsome : (runTriage plainPipeline sampleAlert none
      boastfulCall).verdict?.isSome = true := by decide +kernel
  obtain ⟨verdict, hverdict⟩ := Option.isSome_iff_exists.mp hsome
  have hrun := TriageOutcome.verdict?_eq_some hverdict
  have htotal : ((boastfulCall.trace plainPipeline sampleAlert none).map
      fun v => (accountedTools plainPipeline v).length).sum = 5 := by decide +kernel
  obtain ⟨hid, hcount, hnames⟩ :=
    verdict_accounts plainPipeline sampleAlert none boastfulCall verdict hrun
  exact ⟨verdict, hrun, hid, hcount.trans htotal, hnames⟩

end AlertTriage
